import TwoMlsPq.Apq.Effects
import TwoMlsPq.Session.Steps

/-!
# Operations that move nothing

Captures, exports, seals, encryptions and guards change ledgers, stores and the
inner state of groups, but nothing an invariant speaks about.  `QuietOp` says
so for every way out of an operation, and is closed under the combinators the
operations are written with.
-/

namespace TwoMlsPq
namespace Session

open Foundation Apq

section

variable {M : MlsRs} {α β : Type}

/-!
## Quiet states
-/

theorem HalfQuiet.refl (g : Option M.Group) : HalfQuiet g g := by
  cases g with
  | none => exact True.intro
  | some g => exact Undisturbed.refl g

theorem HalfQuiet.trans {g₁ g₂ g₃ : Option M.Group}
    (h : HalfQuiet g₁ g₂) (h' : HalfQuiet g₂ g₃) :
    HalfQuiet g₁ g₃ := by
  cases g₁ with
  | none =>
      cases g₂ with
      | none => exact h'
      | some g₂ => exact h.elim
  | some g₁ =>
      cases g₂ with
      | none => exact h.elim
      | some g₂ =>
          cases g₃ with
          | none => exact h'.elim
          | some g₃ => exact Undisturbed.trans h h'

theorem HalfQuiet.some_left {g : M.Group} {o : Option M.Group}
    (h : HalfQuiet (some g) o) :
    exists g', o = some g' ∧ Undisturbed g g' := by
  cases o with
  | none => exact h.elim
  | some g' => exact ⟨g', rfl, h⟩

theorem HalfQuiet.none_left {o : Option M.Group}
    (h : HalfQuiet none o) :
    o = none := by
  cases o with
  | none => rfl
  | some g' => exact h.elim

theorem ne_none_of_held {c : Core M} {h : Half} {g : M.Group}
    (held : c.half h = some g) :
    c.half h ≠ none := by
  rw [held]
  exact fun h => nomatch h

theorem Quiet.refl (c : Core M) : Quiet c c :=
  ⟨fun _ => HalfQuiet.refl _, rfl⟩

theorem Quiet.trans {c₁ c₂ c₃ : Core M}
    (h : Quiet c₁ c₂) (h' : Quiet c₂ c₃) :
    Quiet c₁ c₃ := by
  refine ⟨fun hf => (h.1 hf).trans (h'.1 hf), ?_⟩
  rw [h'.2, h.2]

theorem Quiet.setHalf {c : Core M} {h : Half} {g g' : M.Group}
    (held : c.half h = some g) (same : Undisturbed g g') :
    Quiet c (c.setHalf h g') := by
  refine ⟨fun hf => ?_, rfl⟩
  by_cases heq : hf = h
  · subst heq
    simp only [Core.setHalf, Function.update_self, held]
    exact same
  · simp only [Core.setHalf, Function.update_of_ne heq]
    exact HalfQuiet.refl _

theorem Quiet.half_some {c c' : Core M} {h : Half} {g : M.Group}
    (hq : Quiet c c') (held : c.half h = some g) :
    exists g', c'.half h = some g' ∧ Undisturbed g g' := by
  have hhalf := hq.1 h
  rw [held] at hhalf
  exact hhalf.some_left

theorem Quiet.half_none {c c' : Core M} {h : Half}
    (hq : Quiet c c') (missing : c.half h = none) :
    c'.half h = none := by
  have hhalf := hq.1 h
  rw [missing] at hhalf
  exact hhalf.none_left

theorem Quiet.epoch {c c' : Core M} (hq : Quiet c c') (h : Half) :
    c'.epoch h = c.epoch h := by
  unfold Core.epoch
  cases held : c.half h with
  | none => rw [hq.half_none held]
  | some g =>
      rcases hq.half_some held with ⟨g', held', same⟩
      rw [held']
      simp [same.epoch]

/-!
## The core of an updated session
-/

theorem core_setHalf {s : SessionInner M} {h : Half} {g₀ : M.Group}
    (held : s.half h = some g₀) (g : M.Group) (sv : Services)
    (auth : sv.auth = s.services.auth) :
    ({ s.setHalf h g with services := sv } : SessionInner M).core =
      s.core.setHalf h g := by
  have hhalf :
      ({ s.setHalf h g with services := sv } : SessionInner M).half =
        Function.update s.half h (some g) := by
    funext hf
    cases h <;> cases hf <;>
      simp_all [SessionInner.half, SessionInner.setHalf, Function.update] <;>
      cases hs : s.sendGroup <;> cases hr : s.recvGroup <;> simp_all
  unfold SessionInner.core
  rw [hhalf]
  cases h <;> simp [Core.setHalf, SessionInner.setHalf, auth]

theorem callHalf_ok {h : Half} {missing : TwoMlsPqError}
    {err : MlsError -> TwoMlsPqError}
    {f : MlsEnv -> M.Group -> Except MlsError α × M.Group} {s s' : SessionInner M}
    {a : α} (hrun : (callHalf h missing err f).run s = (.ok a, s')) :
    exists env g, s.half h = some g ∧ (f env g).1 = .ok a ∧
      s'.core = s.core.setHalf h (f env g).2 := by
  unfold callHalf onHalf HalfOp.call at hrun
  rw [Op.run_ofResult] at hrun
  split at hrun
  next g store held hstore =>
    simp only [Op.run_ofResult] at hrun
    rcases hcall : f (s.services.env store) g with ⟨r, g'⟩
    rw [hcall] at hrun
    cases r with
    | error e => cases hrun
    | ok b =>
        cases hrun
        refine ⟨s.services.env store, g, held, ?_, ?_⟩
        · rw [hcall]
        · rw [hcall]
          exact core_setHalf held g' s.services rfl
  next => cases hrun

theorem fails_onHalf {h : Half} {missing : TwoMlsPqError}
    {y : StoreId -> HalfOp M α} {E : TwoMlsPqError -> Prop} (hmissing : E missing)
    (hy : forall store, Op.Fails (y store) E) :
    Op.Fails (onHalf h missing y) E := by
  intro s e he
  unfold onHalf at he
  rw [Op.run_ofResult] at he
  split at he
  next g store held hstore => exact hy store _ e he
  next =>
    cases he
    exact hmissing

/-!
## Quiet operations
-/

def QuietMove (s s' : SessionInner M) : Prop :=
  Quiet s.core s'.core

def QuietOp (x : SessionOp M α) : Prop :=
  forall s, QuietMove s (x.run s).2

namespace QuietOp

variable {x : SessionOp M α}

theorem moved {s s' : SessionInner M} {r : Result α} (hx : QuietOp x)
    (hrun : x.run s = (r, s')) :
    Quiet s.core s'.core := by
  have hmove := hx s
  rw [hrun] at hmove
  exact hmove

theorem pure (a : α) : QuietOp (Pure.pure a : SessionOp M α) :=
  fun s => Quiet.refl s.core

theorem fail (e : TwoMlsPqError) : QuietOp (Op.fail e : SessionOp M α) :=
  fun s => Quiet.refl s.core

theorem state : QuietOp (Op.state : SessionOp M (SessionInner M)) :=
  fun s => Quiet.refl s.core

theorem ofExcept (r : Result α) : QuietOp (Op.ofExcept r : SessionOp M α) :=
  fun s => Quiet.refl s.core

theorem ofOption (o : Option α) (e : TwoMlsPqError) :
    QuietOp (Op.ofOption o e : SessionOp M α) := by
  cases o with
  | none => exact fail e
  | some a => exact pure a

theorem ensure (c : Prop) [Decidable c] (e : TwoMlsPqError) :
    QuietOp (Op.ensure c e : SessionOp M Unit) := by
  unfold Op.ensure
  split
  · exact pure ()
  · exact fail e

theorem bind {f : α -> SessionOp M β}
    (hx : QuietOp x) (hf : forall a, QuietOp (f a)) :
    QuietOp (x >>= f) := by
  intro s
  have hmove := hx s
  rw [Op.run_bind]
  rcases hrun : x.run s with ⟨r, s'⟩
  rw [hrun] at hmove
  cases r with
  | ok a => exact Quiet.trans hmove (hf a s')
  | error e => exact hmove

theorem attempt (hx : QuietOp x) : QuietOp (Op.attempt x) :=
  hx

theorem mapError (f : TwoMlsPqError -> TwoMlsPqError) (hx : QuietOp x) :
    QuietOp (Op.mapError f x) := by
  intro s
  have hmove := hx s
  unfold Op.mapError
  rw [Op.run_ofResult]
  rcases hrun : x.run s with ⟨r, s'⟩
  rw [hrun] at hmove
  cases r with
  | ok a => exact hmove
  | error e => exact hmove

theorem update {f : SessionInner M -> SessionInner M}
    (h : forall s, (f s).core = s.core) :
    QuietOp (Op.update f) := by
  intro s
  change Quiet s.core (f s).core
  rw [h s]
  exact Quiet.refl _

theorem readHalf (h : Half) (e : TwoMlsPqError) :
    QuietOp (readHalf h e : SessionOp M M.Group) :=
  bind state fun _ => ofOption _ _

theorem onHalf {h : Half} {missing : TwoMlsPqError} {y : StoreId -> HalfOp M α}
    (hy : forall store hs,
      ((y store).run hs).2.services.auth = hs.services.auth ∧
        Undisturbed hs.group ((y store).run hs).2.group) :
    QuietOp (onHalf h missing y) := by
  intro s
  unfold Session.onHalf
  rw [Op.run_ofResult]
  cases held : s.half h with
  | none => exact Quiet.refl _
  | some g =>
      cases s.halfStore h with
      | none => exact Quiet.refl _
      | some store =>
          rcases hy store { services := s.services, group := g } with ⟨hauth, hgroup⟩
          change Quiet s.core (SessionInner.core _)
          rw [core_setHalf held _ _ hauth]
          exact Quiet.setHalf held hgroup

theorem callHalf {h : Half} {missing : TwoMlsPqError}
    {err : MlsError -> TwoMlsPqError}
    {f : MlsEnv -> M.Group -> Except MlsError α × M.Group}
    (hf : forall env g, Undisturbed g (f env g).2) :
    QuietOp (callHalf h missing err f) := by
  apply onHalf
  intro store hs
  have hgroup := hf (hs.services.env store) hs.group
  unfold HalfOp.call
  rw [Op.run_ofResult]
  rcases hrun : f (hs.services.env store) hs.group with ⟨r, g'⟩
  rw [hrun] at hgroup
  cases r with
  | ok a => exact ⟨rfl, hgroup⟩
  | error e => exact ⟨rfl, hgroup⟩

theorem ofGroup {h : Half} {missing : TwoMlsPqError} {y : GroupOp M α}
    (hy : forall g, Undisturbed g (y.run g).2) :
    QuietOp (Session.onHalf h missing fun _ => HalfOp.ofGroup y) :=
  onHalf fun _ hs => ⟨rfl, hy hs.group⟩

end QuietOp

end

section

variable {M : MlsRs} (L : Lawful M)

include L

/-!
## Ledgers and windows
-/

theorem quiet_recordListenRendezvous :
    QuietOp (recordListenRendezvous : SessionOp M Unit) := by
  unfold recordListenRendezvous
  refine QuietOp.bind QuietOp.state fun s => ?_
  split
  · exact QuietOp.pure ()
  · dsimp only
    split
    · exact QuietOp.pure ()
    · refine QuietOp.bind (QuietOp.ofExcept _) fun secret => ?_
      refine QuietOp.bind (QuietOp.ofExcept _) fun header => ?_
      refine QuietOp.bind (QuietOp.update fun _ => rfl) fun _ => ?_
      refine QuietOp.bind (QuietOp.callHalf fun _ g => L.writeStorage g) fun _ => ?_
      refine QuietOp.bind (QuietOp.readHalf _ _) fun g => ?_
      exact QuietOp.update fun _ => rfl

omit L in
theorem quiet_recordPqHeaderKey :
    QuietOp (recordPqHeaderKey : SessionOp M Unit) := by
  unfold recordPqHeaderKey
  refine QuietOp.bind QuietOp.state fun s => ?_
  split
  · exact QuietOp.pure ()
  · dsimp only
    split
    · exact QuietOp.pure ()
    · refine QuietOp.bind (QuietOp.ofExcept _) fun key => ?_
      exact QuietOp.update fun _ => rfl

omit L in
theorem quiet_recordPqHeaderKeyPostCommit :
    QuietOp (recordPqHeaderKeyPostCommit : SessionOp M Unit) :=
  QuietOp.bind quiet_recordPqHeaderKey.attempt fun _ => QuietOp.pure ()

theorem quiet_rememberSendPsk :
    QuietOp (rememberSendPsk : SessionOp M Unit) := by
  unfold rememberSendPsk
  refine QuietOp.bind (QuietOp.readHalf _ _) fun g => ?_
  refine QuietOp.bind QuietOp.state fun s => ?_
  split
  · exact QuietOp.pure ()
  · refine QuietOp.bind (QuietOp.ofGroup (exportPsk_undisturbed L _)) fun _ => ?_
    exact QuietOp.update fun _ => rfl

omit L in
theorem core_foldl_register (entries : List (Nat × ExportedPsk))
    (s : SessionInner M) :
    (entries.foldl (fun s entry =>
      s.registerStores (injectionStores s) entry.2.storageId entry.2.psk) s).core =
        s.core := by
  induction entries generalizing s with
  | nil => rfl
  | cons entry rest ih =>
      rw [List.foldl_cons, ih]
      rfl

omit L in
theorem core_foldl_forget (ids : List PskId) (s : SessionInner M) :
    (ids.foldl (fun s id => s.forgetStores (injectionStores s) id) s).core =
      s.core := by
  induction ids generalizing s with
  | nil => rfl
  | cons id rest ih =>
      rw [List.foldl_cons, ih]
      rfl

theorem quiet_injectSendPsks :
    QuietOp (injectSendPsks : SessionOp M Unit) := by
  unfold injectSendPsks
  refine QuietOp.bind (quiet_rememberSendPsk L) fun _ => ?_
  refine QuietOp.bind (QuietOp.update fun s => core_foldl_register _ s) fun _ => ?_
  exact QuietOp.update fun s => core_foldl_forget _ s

theorem quiet_injectSendPsksIf (b : Bool) :
    QuietOp (if b then injectSendPsks else pure () : SessionOp M Unit) := by
  cases b with
  | false => exact QuietOp.pure ()
  | true => exact quiet_injectSendPsks L

theorem quiet_sendAttachmentComponent :
    QuietOp (sendAttachmentComponent : SessionOp M Bytes) := by
  unfold sendAttachmentComponent
  refine QuietOp.bind (QuietOp.readHalf _ _) fun g => ?_
  refine QuietOp.bind QuietOp.state fun s => ?_
  split
  · exact QuietOp.pure _
  · refine QuietOp.bind
      (QuietOp.ofGroup (exportAttachmentComponent_undisturbed L)) fun _ => ?_
    refine QuietOp.bind (QuietOp.update fun _ => rfl) fun _ => ?_
    exact QuietOp.pure _

theorem quiet_captureRecvAttachmentComponent (epoch : Nat) :
    QuietOp (captureRecvAttachmentComponent epoch : SessionOp M Bytes) := by
  unfold captureRecvAttachmentComponent
  refine QuietOp.bind
    (QuietOp.ofGroup (exportAttachmentComponent_undisturbed L)) fun _ => ?_
  refine QuietOp.bind (QuietOp.update fun _ => rfl) fun _ => ?_
  exact QuietOp.pure _

theorem quiet_rememberRecvAttachmentComponent :
    QuietOp (rememberRecvAttachmentComponent : SessionOp M Unit) := by
  unfold rememberRecvAttachmentComponent
  refine QuietOp.bind QuietOp.state fun s => ?_
  split
  · exact QuietOp.pure ()
  · split
    · exact QuietOp.pure ()
    · refine QuietOp.bind
        (quiet_captureRecvAttachmentComponent L _).attempt fun _ => ?_
      exact QuietOp.pure ()

theorem quiet_recvAttachmentComponent (epoch : Nat) :
    QuietOp (recvAttachmentComponent epoch : SessionOp M Bytes) := by
  unfold recvAttachmentComponent
  refine QuietOp.bind QuietOp.state fun s => ?_
  split
  · exact QuietOp.pure _
  · split
    · exact (quiet_captureRecvAttachmentComponent L epoch).mapError _
    · exact QuietOp.fail _

/-!
## Seals and guards of the send path
-/

omit L in
theorem quiet_sealFrame : QuietOp (sealFrame : SessionOp M Unit) :=
  QuietOp.bind (QuietOp.readHalf _ _) fun _ =>
    QuietOp.bind (QuietOp.ofExcept _) fun _ => QuietOp.pure ()

omit L in
theorem quiet_sealSideBand (frame : SideBand M) :
    QuietOp (sealSideBand frame) := by
  unfold sealSideBand
  refine QuietOp.bind QuietOp.state fun s => ?_
  refine QuietOp.bind (QuietOp.readHalf _ _) fun g => ?_
  split
  · exact quiet_sealFrame
  · split
    · exact QuietOp.bind (QuietOp.ofExcept _) fun _ => QuietOp.pure ()
    · exact quiet_sealFrame

omit L in
theorem quiet_ensureEstablishmentDelegated :
    QuietOp (ensureEstablishmentDelegated : SessionOp M Unit) :=
  QuietOp.bind QuietOp.state fun _ => QuietOp.ensure _ _

theorem quiet_crossPskForCommit :
    QuietOp (crossPskForCommit : SessionOp M (Option ExportedPsk)) := by
  unfold crossPskForCommit
  refine QuietOp.bind (QuietOp.readHalf _ _) fun g => ?_
  refine QuietOp.bind QuietOp.state fun s => ?_
  split
  · exact QuietOp.pure _
  · refine QuietOp.bind (QuietOp.ofGroup (exportPsk_undisturbed L _)) fun _ => ?_
    refine QuietOp.bind QuietOp.state fun s => ?_
    refine QuietOp.bind (QuietOp.ofOption _ _) fun send => ?_
    refine QuietOp.bind (QuietOp.update fun _ => rfl) fun _ => ?_
    exact QuietOp.pure _

omit L in
theorem quiet_handoffForCommit :
    QuietOp (handoffForCommit : SessionOp M (Option (M.Signer × Bytes))) :=
  QuietOp.bind QuietOp.state fun _ =>
    QuietOp.bind (QuietOp.readHalf _ _) fun _ =>
      QuietOp.bind (QuietOp.ofExcept _) fun _ => QuietOp.pure _

theorem quiet_mintLeg (kind : PqFrameKind) (payload : Bytes) (seed : M.Seed) :
    QuietOp (mintLeg kind payload seed) := by
  unfold mintLeg
  refine QuietOp.bind (QuietOp.callHalf fun _ g => L.encrypt _ _ _ g) fun _ => ?_
  refine QuietOp.bind (QuietOp.ofExcept _) fun _ => ?_
  exact QuietOp.pure _

end

end Session
end TwoMlsPq
