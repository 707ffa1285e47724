import TwoMlsPq.Session.CatchUp
import TwoMlsPq.Session.Proposing

/-!
# The point of no return

Each of the three binds moves a post-quantum half at one point, and from there on a
failure answers with the fatal name and latches the wedge.  In front of that point a
failure leaves the halves, the reservation and the round as they were.  The rekey
bind alone tests a commit of the peer behind the point where the library has applied
it, and those tests answer with retriable names.
-/

namespace TwoMlsPq

namespace Session

open Foundation Apq

section

variable {M : MlsRs} {α : Type}

/-!
## How a bind may fail
-/

structure PqUnmoved (s₀ s : SessionInner M) : Prop where
  sendPq : s.epoch .sendPq = s₀.epoch .sendPq
  recvPq : s.epoch .recvPq = s₀.epoch .recvPq
  owed : s.round.owedBind = s₀.round.owedBind
  inflight : s.round.pqInflight = s₀.round.pqInflight

/-- A failure that moved nothing, or a fatal one that is latched. -/
def FailsCleanly (s₀ : SessionInner M) (e : TwoMlsPqError) (s : SessionInner M) : Prop :=
  PqUnmoved s₀ s ∨ (e = .bindTriggerFailed ∧ s.round.pqWedged.isSome = true)

theorem QuietMove.pqUnmoved {s₀ s : SessionInner M} (h : QuietMove s₀ s) :
    PqUnmoved s₀ s where
  sendPq := Quiet.epoch h .sendPq
  recvPq := Quiet.epoch h .recvPq
  owed := congrArg Core.owed h.2
  inflight := congrArg Core.inflight h.2

theorem PqUnmoved.trans {s₁ s₂ s₃ : SessionInner M} (h : PqUnmoved s₁ s₂)
    (h' : PqUnmoved s₂ s₃) :
    PqUnmoved s₁ s₃ where
  sendPq := h'.sendPq.trans h.sendPq
  recvPq := h'.recvPq.trans h.recvPq
  owed := h'.owed.trans h.owed
  inflight := h'.inflight.trans h.inflight

theorem Path.quiet {c c' : Core M} (h : Path quietEvents c c') : Quiet c c' := by
  induction h with
  | refl => exact Quiet.refl c
  | tail _ hlast ih =>
      rcases hlast with ⟨e, he, hstep⟩
      cases hstep with
      | quiet hq => exact ih.trans hq
      | _ => exact he.elim

theorem QuietOp.ofVia {x : SessionOp M α} {q : α -> Core M -> Prop}
    (hx : Via quietEvents (fun _ => True) x q) :
    QuietOp x :=
  fun _ => (hx.goes True.intro).quiet

theorem QuietOp.ahead {x : SessionOp M α} (hx : QuietOp x) (s₀ : SessionInner M) :
    Op.Triple (QuietMove s₀) x (fun _ => QuietMove s₀) (FailsCleanly s₀) :=
  (Op.Triple.ofKeeps (I := QuietMove s₀) fun s hs => Quiet.trans hs (hx s)).weaken
    (fun _ _ hs => hs) fun _ _ hs => Or.inl (QuietMove.pqUnmoved hs)

theorem triple_pastNoReturn {P : SessionInner M -> Prop} {w : PqWedge}
    {x : SessionOp M Unit} {Q : SessionInner M -> Prop}
    (hx : Op.Triple P x (fun _ => Q) fun _ _ => True) (s₀ : SessionInner M) :
    Op.Triple P (pastNoReturn w x) (fun _ => Q) (FailsCleanly s₀) :=
  (triple_latched hx).weaken (fun _ _ hs => hs) fun _ _ hs => Or.inr hs

/-!
## The three binds
-/

theorem Touches.keepsSend {W : List Slot} {x : SessionOp M α} (hx : Touches W x)
    (hW : .half .sendClassical ∉ W) :
    Op.Keeps HoldsSend x := by
  intro s hs
  apply holdsSend_of_half
  rw [hx.half hW]
  exact (holds_sendClassical hs).2

theorem triple_recordPqHeaderKeyPostCommit
    {E : TwoMlsPqError -> SessionInner M -> Prop} :
    Op.Triple HoldsSend (recordPqHeaderKeyPostCommit : SessionOp M Unit)
      (fun _ => HoldsSend) E := by
  have hkept := touches_recordPqHeaderKeyPostCommit (M := M).keepsSend (by decide)
  intro s hs
  exact hkept s hs

theorem still_joinDeferredPqHalf (welcome : Blob M) :
    Op.Still (joinDeferredPqHalf welcome) := by
  unfold joinDeferredPqHalf
  refine Op.Still.bind Op.Still.state fun s => ?_
  refine Op.Still.bind (Op.Still.ofOption _ _) fun recv => ?_
  refine Op.Still.bind (Op.Still.ensure _ _) fun _ => ?_
  refine Op.Still.bind (Op.Still.ofExcept _) fun pq => ?_
  refine Op.Still.bind (Op.Still.ofExcept _) fun classicalInfo => ?_
  refine Op.Still.bind (Op.Still.ofExcept _) fun _ => ?_
  refine Op.Still.bind (Op.Still.ofExcept _) fun _ => ?_
  exact Op.Still.value pq

theorem triple_readSend (missing : TwoMlsPqError) :
    Op.Triple (fun _ => True) (readHalf .sendClassical missing : SessionOp M M.Group)
      (fun _ => HoldsSend) fun _ _ => True := by
  intro s _
  cases held : s.half .sendClassical with
  | none =>
      rw [run_readHalf_missing held]
      exact True.intro
  | some g =>
      rw [run_readHalf held]
      apply holdsSend_of_half
      rw [held]
      rfl

theorem Op.Keeps.holding {x : SessionOp M α} (hx : Op.Keeps HoldsSend x) :
    Op.Triple HoldsSend x (fun _ => HoldsSend) fun _ _ => True :=
  (Op.Triple.ofKeeps hx).weaken (fun _ _ hs => hs) fun _ _ _ => True.intro

theorem triple_commitPqAndOweBind (secret : Bytes) (seed : M.Seed) :
    Op.Triple (fun _ => True) (commitPqAndOweBind secret seed : SessionOp M Unit)
      (fun _ => HoldsSend) fun _ _ => True := by
  unfold commitPqAndOweBind
  refine Op.Triple.looking Op.Still.state (fun _ _ _ => True.intro) fun s => ?_
  refine Op.Triple.bind (triple_readSend _) fun send => ?_
  refine Op.Triple.looking (still_readHalf _ _) (fun _ _ _ => True.intro) fun sendPq => ?_
  refine Op.Triple.bind (Op.Keeps.holding (holdsSend_onHalf _ _ _)) fun pqCommit => ?_
  exact Op.Triple.update fun _ hs => hs

variable (L : Lawful M)

include L

theorem quiet_openCiphertextLeg (leg : M.Message) (carrier : LegCarrier) :
    QuietOp (openCiphertextLeg leg carrier : SessionOp M Bytes) :=
  QuietOp.ofVia (via_openCiphertextLeg L True.intro (Stable.const True))

theorem triple_ratchetBindInner (leg : M.Message) (carrier : LegCarrier)
    (seed : M.Seed) (s₀ : SessionInner M) :
    Op.Triple (QuietMove s₀) (ratchetBindInner leg carrier seed) (fun _ => HoldsSend)
      (FailsCleanly s₀) := by
  unfold ratchetBindInner
  refine Op.Triple.bind ((quiet_openCiphertextLeg L leg carrier).ahead s₀)
    fun wireCt => ?_
  refine Op.Triple.bind ((quiet_openRoundSecret wireCt).ahead s₀) fun secret => ?_
  refine Op.Triple.bind ((quiet_rememberSendPsk L).ahead s₀) fun _ => ?_
  refine Op.Triple.bind (Q := fun _ => HoldsSend) ?_ fun _ => ?_
  · apply triple_pastNoReturn
    refine Op.Triple.bind (Q := fun _ _ => True) (Op.Triple.update fun _ _ => True.intro)
      fun _ => ?_
    refine Op.Triple.bind (triple_commitPqAndOweBind secret seed) fun _ => ?_
    exact Op.Triple.update fun _ hs => hs
  · exact triple_recordPqHeaderKeyPostCommit

omit L in
theorem triple_bootstrapBindInner (welcome : Blob M) (seed : M.Seed)
    (s₀ : SessionInner M) :
    Op.Triple (QuietMove s₀) (bootstrapBindInner welcome seed) (fun _ => HoldsSend)
      (FailsCleanly s₀) := by
  unfold bootstrapBindInner
  refine Op.Triple.bind
    ((QuietOp.update fun s => core_trackPskStores s.client s).ahead s₀) fun _ => ?_
  refine Op.Triple.looking (still_joinDeferredPqHalf welcome)
    (fun _ _ hs => Or.inl (QuietMove.pqUnmoved hs)) fun pq => ?_
  refine Op.Triple.bind (Q := fun _ => HoldsSend) ?_ fun _ => ?_
  · apply triple_pastNoReturn
    refine Op.Triple.bind (Q := fun _ _ => True) (Op.Triple.update fun _ _ => True.intro)
      fun _ => ?_
    refine Op.Triple.bind (Q := fun _ _ => True) (Op.Triple.any _) fun exported => ?_
    refine Op.Triple.bind (triple_commitPqAndOweBind exported.psk seed) fun _ => ?_
    exact Op.Triple.update fun _ hs => hs
  · exact triple_recordPqHeaderKeyPostCommit

/-!
## The answer to a rekey
-/

omit L in
def Takes (s : SessionInner M) (answer : M.Message) (effect : CommitEffect)
    (after : M.Group) : Prop :=
  exists own s₁ before store,
    preRegisterSendPq.run s = (.ok own, s₁) ∧
      s₁.half .recvPq = some before ∧ s₁.halfStore .recvPq = some store ∧
      M.processIncomingMessage (s₁.services.env store) answer before =
        (.ok (.commit effect), after)

omit L in
/-- Wherever the library takes the answer for a commit, the commit attests nothing
and leaves two members. -/
def OnlyRekeys (s : SessionInner M) (commit : Blob M) : Prop :=
  forall answer effect after,
    commit.parsed = some answer -> Takes s answer effect after ->
      commitAttestation effect = .ok none ∧ ensureTwoParty after = .ok ()

omit L in
def answerTests (effect : CommitEffect) (after : M.Group) : Result Unit :=
  match commitAttestation effect with
  | .error e => .error e
  | .ok (some _) => .error .apqInfoMismatch
  | .ok none => ensureTwoParty after

omit L in
theorem run_answerTests {effect : CommitEffect} {after : M.Group} {s : SessionInner M}
    (held : s.half .recvPq = some after) :
    (do
      (do
        let attestation <- Op.ofExcept (commitAttestation effect)
        Op.ensure attestation.isNone .apqInfoMismatch)
      let recvPq <- readHalf .recvPq .sessionNotReady
      Op.ofExcept (ensureTwoParty recvPq) : SessionOp M Unit).run s =
        (answerTests effect after, s) := by
  unfold answerTests
  cases commitAttestation effect with
  | error e => rfl
  | ok attestation =>
      cases attestation with
      | some a => rfl
      | none =>
          have hfirst : (do
              let attestation <- Op.ofExcept (.ok none : Result (Option ApqInfoUpdate))
              Op.ensure attestation.isNone .apqInfoMismatch : SessionOp M Unit).run s =
                (.ok (), s) := rfl
          rw [Op.run_bind_ok hfirst, Op.run_bind_ok (run_readHalf held _), Op.run_ofExcept]

omit L in
theorem answerTests_refuse {effect : CommitEffect} {after : M.Group}
    (hmore : commitAttestation effect ≠ .ok none ∨ ensureTwoParty after ≠ .ok ()) :
    exists e, answerTests effect after = .error e ∧ e ≠ .bindTriggerFailed := by
  unfold answerTests
  split
  next e he =>
    refine ⟨e, rfl, ?_⟩
    rintro rfl
    cases effect with
    | other => cases he
    | newEpoch customs =>
        change findApqInfoUpdate customs = _ at he
        unfold findApqInfoUpdate at he
        split at he <;> cases he
  · exact ⟨_, rfl, nofun⟩
  next hnone =>
    have htwo := hmore.resolve_left (not_not.mpr hnone)
    unfold ensureTwoParty at htwo ⊢
    split at htwo
    · exact absurd rfl htwo
    next hlength =>
      rw [if_neg hlength]
      exact ⟨_, rfl, nofun⟩

theorem triple_applyRekeyCommit {s₀ s₁ : SessionInner M} {answer : M.Message}
    {own : Option PskId} (hown : preRegisterSendPq.run s₀ = (.ok own, s₁))
    (hplain : forall effect after, Takes s₀ answer effect after ->
      commitAttestation effect = .ok none ∧ ensureTwoParty after = .ok ()) :
    Op.Triple (fun s => s = s₁) (applyRekeyCommit answer) (fun _ _ => True)
      (FailsCleanly s₀) := by
  have hmove : QuietMove s₀ s₁ := (quiet_preRegisterSendPq L).moved hown
  unfold applyRekeyCommit
  cases held : s₁.half .recvPq with
  | none =>
      rintro s rfl
      have hrun : (callHalf .recvPq .sessionNotReady mapCredentialErr fun env =>
          M.processIncomingMessage env answer).run s = (.error .sessionNotReady, s) := by
        unfold callHalf onHalf
        rw [Op.run_ofResult, held]
      rw [Op.run_bind_error hrun]
      exact Or.inl (QuietMove.pqUnmoved hmove)
  | some before =>
      have hsome : (s₁.half .recvPq).isSome = true := by
        rw [held]
        rfl
      rcases Option.isSome_iff_exists.mp (halfStore_isSome hsome) with ⟨store, hstore⟩
      have hunmoved : forall {g' : M.Group}, Undisturbed before g' ->
          PqUnmoved s₀ (s₁.setHalf .recvPq g') := by
        intro g' hsame
        have hcore : (s₁.setHalf .recvPq g').core = s₁.core.setHalf .recvPq g' :=
          core_setHalf held g' s₁.services rfl
        apply QuietMove.pqUnmoved
        refine Quiet.trans hmove ?_
        rw [hcore]
        exact Quiet.setHalf held hsame
      have heffect := L.process (s₁.services.env store) answer before
      refine Op.Triple.bind ((triple_calling held hstore _ _ _).weaken (fun _ _ h => h) ?_)
        fun received => ?_
      · rintro e s ⟨e', g', hcall, rfl⟩
        rw [hcall] at heffect
        exact Or.inl (hunmoved heffect)
      · rintro s ⟨after, hcall, rfl⟩
        rw [hcall] at heffect
        cases received with
        | commit effect =>
            rcases hplain effect after ⟨own, s₁, before, store, hown, held, hstore, hcall⟩
              with ⟨hattestation, htwo⟩
            have htests : answerTests effect after = .ok () := by
              unfold answerTests
              rw [hattestation]
              exact htwo
            dsimp only
            rw [run_answerTests (half_setHalf_held held), htests]
            exact True.intro
        | applicationMessage index data => exact Or.inl (hunmoved heffect.2)
        | proposal desc => exact Or.inl (hunmoved heffect.2.2)
        | other => exact Or.inl (hunmoved heffect.2)

theorem triple_rekeyApplyInner {s₀ : SessionInner M} {commit : Blob M}
    (hplain : OnlyRekeys s₀ commit) (seed : M.Seed) :
    Op.Triple (fun s => s = s₀) (rekeyApplyInner commit seed) (fun _ => HoldsSend)
      (FailsCleanly s₀) := by
  have hstart : PqUnmoved s₀ s₀ := QuietMove.pqUnmoved (Quiet.refl s₀.core)
  unfold rekeyApplyInner
  refine Op.Triple.knowing (Op.Returns.ofOption _ _)
    (Op.Triple.keptBy (Op.Still.ofOption _ _) ?_) fun answer hparsed => ?_
  · rintro e s rfl
    exact Or.inl hstart
  refine Op.Triple.bind
    (Q := fun own s => preRegisterSendPq.run s₀ = (.ok own, s)) ?_ fun own => ?_
  · rintro s rfl
    have hmove : QuietMove s _ := quiet_preRegisterSendPq L s
    rcases hrun : preRegisterSendPq.run s with ⟨r, s'⟩
    rw [hrun] at hmove
    cases r with
    | ok own => rfl
    | error e => exact Or.inl (QuietMove.pqUnmoved hmove)
  refine Op.Triple.bind (Q := fun _ _ => True) ?_ fun _ => ?_
  · intro s hs
    exact triple_applyRekeyCommit L hs (fun effect after => hplain answer effect after hparsed)
      s rfl
  refine Op.Triple.bind (Q := fun _ => HoldsSend) ?_ fun _ => ?_
  · apply triple_pastNoReturn
    refine Op.Triple.bind (Q := fun _ _ => True) (Op.Triple.update fun _ _ => True.intro)
      fun _ => ?_
    refine Op.Triple.bind (Q := fun _ _ => True) (Op.Triple.update fun _ _ => True.intro)
      fun _ => ?_
    refine Op.Triple.bind (Q := fun _ _ => True) (Op.Triple.any _) fun exported => ?_
    refine Op.Triple.bind (triple_commitPqAndOweBind exported.psk seed) fun _ => ?_
    refine Op.Triple.bind (Q := fun _ => HoldsSend) (Op.Triple.update fun _ hs => hs)
      fun _ => ?_
    exact Op.Triple.update fun _ hs => hs
  · exact triple_recordPqHeaderKeyPostCommit

omit L in
/-- An answer that does more: the commit is applied, and refused under a name that is
not the fatal one. -/
theorem triple_rekeyApply_overreaching {s₀ : SessionInner M} {commit : Blob M}
    {answer : M.Message} {effect : CommitEffect} {after : M.Group}
    (hparsed : commit.parsed = some answer) (htakes : Takes s₀ answer effect after)
    (hmore : commitAttestation effect ≠ .ok none ∨ ensureTwoParty after ≠ .ok ())
    (seed : M.Seed) :
    Op.Triple (fun s => s = s₀) (rekeyApplyInner commit seed) (fun _ _ => False)
      fun e s => e ≠ .bindTriggerFailed ∧ s.half .recvPq = some after := by
  rcases htakes with ⟨own, s₁, before, store, hown, held, hstore, hcall⟩
  rcases answerTests_refuse hmore with ⟨e, htests, hname⟩
  have hheld : (s₁.setHalf .recvPq after).half .recvPq = some after :=
    half_setHalf_held held
  have happly : (applyRekeyCommit answer).run s₁ =
      (.error e, s₁.setHalf .recvPq after) := by
    have hcalled : (callHalf .recvPq .sessionNotReady mapCredentialErr fun env =>
        M.processIncomingMessage env answer).run s₁ =
          (.ok (.commit effect), s₁.setHalf .recvPq after) := by
      unfold callHalf
      rw [run_onHalf held hstore, run_call]
      dsimp only
      rw [hcall]
      rfl
    unfold applyRekeyCommit
    rw [Op.run_bind_ok hcalled]
    dsimp only
    rw [run_answerTests hheld, htests]
  rintro s rfl
  unfold rekeyApplyInner
  rw [hparsed, Op.run_bind_ok (Op.run_ofOption_some _ _ _), Op.run_bind_ok hown,
    Op.run_bind_error happly]
  exact ⟨hname, hheld⟩

/-!
## The doors
-/

omit L in
theorem still_ratchetBindGuard (frame : Frame M) :
    Op.Still (ratchetBindGuard frame) := by
  unfold ratchetBindGuard
  refine Op.Still.bind Op.Still.state fun s => ?_
  refine Op.Still.bind (Op.Still.ofExcept _) fun leg => ?_
  refine Op.Still.bind (still_readHalf _ _) fun recv => ?_
  refine Op.Still.bind (Op.Still.ofExcept _) fun carrier => ?_
  refine Op.Still.bind (Op.Still.ensure _ _) fun _ => ?_
  refine Op.Still.bind (Op.Still.ensure _ _) fun _ => ?_
  refine Op.Still.bind (Op.Still.ensure _ _) fun _ => ?_
  refine Op.Still.bind (Op.Still.ensure _ _) fun _ => ?_
  refine Op.Still.bind (Op.Still.ofExcept _) fun _ => ?_
  refine Op.Still.bind ?_ fun _ => Op.Still.value _
  split
  · exact Op.Still.value ()
  · split
    · exact Op.Still.fail _
    · exact Op.Still.fail _
  · exact Op.Still.fail _

omit L in
theorem still_rekeyApplyGuard (frame : Frame M) :
    Op.Still (rekeyApplyGuard frame) := by
  unfold rekeyApplyGuard
  refine Op.Still.bind Op.Still.state fun s => ?_
  refine Op.Still.bind (Op.Still.ofExcept _) fun commit => ?_
  refine Op.Still.bind (Op.Still.ensure _ _) fun _ => ?_
  refine Op.Still.bind (Op.Still.ensure _ _) fun _ => ?_
  refine Op.Still.bind (Op.Still.ensure _ _) fun _ => ?_
  refine Op.Still.bind (Op.Still.ofExcept _) fun _ => ?_
  refine Op.Still.bind ?_ fun _ => Op.Still.value _
  split
  · exact Op.Still.value ()
  · split
    · exact Op.Still.fail _
    · exact Op.Still.fail _
  · exact Op.Still.fail _

omit L in
theorem still_bootstrapBindGuard (frame : Frame M) :
    Op.Still (bootstrapBindGuard frame) := by
  unfold bootstrapBindGuard
  refine Op.Still.bind Op.Still.state fun s => ?_
  refine Op.Still.bind (Op.Still.ofExcept _) fun welcome => ?_
  refine Op.Still.bind (Op.Still.ofExcept _) fun _ => ?_
  refine Op.Still.bind (Op.Still.ofExcept _) fun _ => ?_
  refine Op.Still.bind (Op.Still.ensure _ _) fun _ => ?_
  refine Op.Still.bind (Op.Still.ensure _ _) fun _ => ?_
  refine Op.Still.bind (Op.Still.ensure _ _) fun _ => ?_
  refine Op.Still.bind (Op.Still.ensure _ _) fun _ => ?_
  refine Op.Still.bind (Op.Still.ensure _ _) fun _ => ?_
  refine Op.Still.bind (Op.Still.ensure _ _) fun _ => ?_
  exact Op.Still.value welcome

omit L in
def CleanIn (t : TwoMlsPqSession M) (x : ApiOp M Unit) : Prop :=
  forall e, (x.run t).1 = .error e -> FailsCleanly t.inner e (x.run t).2.inner

omit L in
theorem failsCleanly_entered {t : TwoMlsPqSession M} {n : Nat} {e : TwoMlsPqError}
    {s : SessionInner M} (hentered : entered t = { t.inner with stateSeq := n })
    (h : FailsCleanly (entered t) e s) :
    FailsCleanly t.inner e s := by
  rw [hentered] at h
  exact h.imp (fun hsame => { sendPq := hsame.sendPq, recvPq := hsame.recvPq
                              owed := hsame.owed, inflight := hsame.inflight }) id

omit L in
theorem QuietOp.failsCleanly {x : SessionOp M α} (hx : QuietOp x)
    (s₀ : SessionInner M) (e : TwoMlsPqError) :
    Op.Keeps (FailsCleanly s₀ e) x := by
  intro s hs
  rcases hs with hunmoved | ⟨hname, hlatched⟩
  · exact Or.inl (hunmoved.trans (QuietMove.pqUnmoved (hx s)))
  · refine Or.inr ⟨hname, ?_⟩
    have hsame : (x.run s).2.round.pqWedged = s.round.pqWedged :=
      congrArg Core.wedged (hx s).2
    rw [hsame]
    exact hlatched

theorem cleanIn_door (T : Dependable M) {β : Type} {k : BlobKind}
    {guard : SessionOp M β} {body : β -> SessionOp M Unit} (hguard : Op.Still guard)
    {t : TwoMlsPqSession M}
    (hbody : forall b, guard.run t.inner = (.ok b, t.inner) ->
      Op.Triple (fun s => s = entered t) (body b) (fun _ => HoldsSend)
        (FailsCleanly (entered t))) :
    CleanIn t (do
      let b <- locked guard
      mutateAndPersist k (body b)) := by
  rcases entered_counter t with ⟨n, hentered⟩
  intro e
  rcases hrun : guard.run t.inner with ⟨r, s⟩
  have hsame : s = t.inner := by
    have hstill := hguard t.inner
    rw [hrun] at hstill
    exact hstill
  subst hsame
  have hlocked : (locked guard).run t = (r, t) := by
    unfold locked
    rw [Op.run_ofResult, hrun]
  cases r with
  | error e' =>
      rw [Op.run_bind_error hlocked]
      intro _
      exact Or.inl (QuietMove.pqUnmoved (Quiet.refl t.inner.core))
  | ok b =>
      have hdoor := triple_mutateAndPersist (k := k) (hbody b hrun)
        (fun _ _ hs => Or.inl (encodeAndPush_ok T k hs))
        (fun _ s hs => by
          rcases (completes_encodeBlob T k).result hs with ⟨_, _, hkept⟩
          exact hkept)
        fun e => QuietOp.failsCleanly (quiet_encodeBlob L k) (entered t) e
      rw [Op.run_bind_ok hlocked]
      intro herror
      exact failsCleanly_entered hentered (hdoor.error rfl herror)

omit L in
/-- The answer of the peer, where the door of the rekey bind lets it through, only
rekeys. -/
def AnswersPlainly (t : TwoMlsPqSession M) (frame : Frame M) : Prop :=
  forall commit, (rekeyApplyGuard frame).run t.inner = (.ok commit, t.inner) ->
    OnlyRekeys (entered t) commit

theorem answersPlainly_of_clean {t : TwoMlsPqSession M} {frame : Frame M} {seed : M.Seed}
    (hclean : CleanIn t (pqRekeyApply frame seed)) :
    AnswersPlainly t frame := by
  intro commit hguard answer effect after hparsed htakes
  apply Classical.byContradiction
  intro hmore
  have hlocked : (locked (rekeyApplyGuard frame)).run t = (.ok commit, t) := by
    unfold locked
    rw [Op.run_ofResult, hguard]
  have hmoved : (entered t).epoch .recvPq ≠ some (M.currentEpoch after) := by
    rcases htakes with ⟨own, s₁, before, store, hown, held, hstore, hcall⟩
    have heffect := L.process (s₁.services.env store) answer before
    rw [hcall] at heffect
    have hsame : s₁.epoch .recvPq = (entered t).epoch .recvPq :=
      Quiet.epoch ((quiet_preRegisterSendPq L).moved hown) .recvPq
    rw [← hsame]
    unfold SessionInner.epoch
    rw [held, Option.map_some, heffect.2.epoch]
    intro h
    have hepoch := Option.some.inj h
    omega
  have hbody : Op.Triple (fun s => s = entered t) (rekeyApplyInner commit seed)
      (fun _ _ => False) fun e s => e ≠ .bindTriggerFailed ∧
        s.epoch .recvPq = some (M.currentEpoch after) :=
    (triple_rekeyApply_overreaching hparsed htakes
      (Classical.not_and_iff_not_or_not.mp hmore) seed).weaken (fun _ _ hs => hs)
      fun e s hs => ⟨hs.1, by unfold SessionInner.epoch; rw [hs.2]; rfl⟩
  have hdoor := triple_mutateAndPersist (k := .checkpoint) hbody
    (fun _ _ hs => hs.elim) (fun _ _ hs => hs.elim)
    fun e s hs => ⟨hs.1, (Quiet.epoch (quiet_encodeBlob L .checkpoint s) .recvPq).trans hs.2⟩
  have hrun : (pqRekeyApply frame seed).run t =
      (mutateAndPersist .checkpoint (rekeyApplyInner commit seed)).run t :=
    Op.run_bind_ok hlocked
  cases hresult : ((pqRekeyApply frame seed).run t).1 with
  | ok a =>
      rw [hrun] at hresult
      exact hdoor.ok rfl hresult
  | error e =>
      have hfails := hclean e hresult
      rw [hrun] at hresult hfails
      have hended := hdoor.error rfl hresult
      rcases hfails with hunmoved | ⟨hname, -⟩
      · rcases entered_counter t with ⟨n, hentered⟩
        apply hmoved
        rw [hentered]
        exact hunmoved.recvPq.symm.trans hended.2
      · exact hended.1 hname

/-- The ratchet bind and the bootstrap bind fail with nothing moved or for good, in
every state and on every frame.  The rekey bind does so on the answers that only
rekey, and on no other one. -/
theorem binds_fail_at_once_or_for_good (T : Dependable M) (t : TwoMlsPqSession M) :
    (forall frame seed, CleanIn t (pqRatchetBind frame seed)) ∧
      (forall frame seed, CleanIn t (pqBootstrapBind frame seed)) ∧
      forall frame seed,
        CleanIn t (pqRekeyApply frame seed) <-> AnswersPlainly t frame := by
  have hstart : forall s : SessionInner M, s = entered t -> QuietMove (entered t) s := by
    rintro s rfl
    exact Quiet.refl _
  refine ⟨?_, ?_, ?_⟩
  · intro frame seed
    exact cleanIn_door L T (still_ratchetBindGuard frame) fun opened _ =>
      (triple_ratchetBindInner L opened.1 opened.2 seed (entered t)).pre hstart
  · intro frame seed
    exact cleanIn_door L T (still_bootstrapBindGuard frame) fun welcome _ =>
      (triple_bootstrapBindInner welcome seed (entered t)).pre hstart
  · intro frame seed
    constructor
    · exact answersPlainly_of_clean L
    · intro hplain
      exact cleanIn_door L T (still_rekeyApplyGuard frame) fun commit hguard =>
        triple_rekeyApplyInner L (hplain commit hguard) seed

end

/-!
## Two answers to one rekey
-/

namespace ReferencePair

def rekeyingSession : TwoMlsPqSession Reference.mls :=
  rekeyAsked.session .left

set_option maxRecDepth 4000 in
theorem rekeying_run :
    Run TwoMlsPqSession.live (fun _ _ => True) (TwoMlsPqSession.fresh initiator)
      rekeyingSession := by
  have hlaggard := laggard_calls.mono fun _ _ _ => True.intro
  have hopened := rekeyOpened_run.mono fun _ _ _ => True.intro
  exact World.run_live .left
    (hlaggard.trans (hopened.trans (rekeyAsked_run.mono fun _ _ _ => True.intro)))

def rekeyAnswered : World Reference.mls :=
  rekeyAsked.play
    [.deliver .right 7 fun f => .pqRekeyRespond f (5700 : Nat),
      .call .right (.pqPendingOutbound true)]

def honestAnswer : Frame Reference.mls :=
  ((rekeyAnswered.sent .right)[5]?).getD .unknown

def attestingAnswer : Frame Reference.mls :=
  match rekeyAskedSession.inner.half .sendPq, rekeyAskedSession.inner.halfStore .sendPq with
  | some g, some store =>
      let attestation : ApqInfoUpdate :=
        { tEpoch := 9, pqEpoch := Reference.mls.currentEpoch g + 1 }
      match (Reference.mls.buildCommit (rekeyAskedSession.inner.services.env store)
          { addMember := none
            psks := []
            customProposal := some attestation
            newSigningIdentity := none }
          (7000 : Nat) g).1 with
      | .ok out => .sideBand { kind := .rekeyCommit, body := blob out.commitMessage }
      | .error _ => .unknown
  | _, _ => .unknown

def onlyRekeys (s : SessionInner Reference.mls) (commit : Blob Reference.mls) : Bool :=
  match commit.parsed, preRegisterSendPq.run s with
  | some answer, (.ok _, s₁) =>
      match s₁.half .recvPq, s₁.halfStore .recvPq with
      | some before, some store =>
          match Reference.mls.processIncomingMessage (s₁.services.env store) answer
              before with
          | (.ok (.commit effect), after) => (answerTests effect after).isOk
          | _ => true
      | _, _ => true
  | _, _ => true

theorem onlyRekeys_of_check {s : SessionInner Reference.mls}
    {commit : Blob Reference.mls} (h : onlyRekeys s commit = true) :
    OnlyRekeys s commit := by
  rintro answer effect after hparsed ⟨own, s₁, before, store, hown, held, hstore, hcall⟩
  unfold onlyRekeys at h
  rw [hparsed, hown] at h
  dsimp only at h
  rw [held, hstore] at h
  dsimp only at h
  rw [hcall] at h
  dsimp only at h
  have htests : answerTests effect after = .ok () := by
    cases hresult : answerTests effect after with
    | ok _ => rfl
    | error e =>
        rw [hresult] at h
        cases h
  unfold answerTests at htests
  split at htests
  · cases htests
  · cases htests
  next hnone => exact ⟨hnone, htests⟩

def answersPlainly (t : TwoMlsPqSession Reference.mls) (frame : Frame Reference.mls) :
    Bool :=
  match (rekeyApplyGuard frame).run t.inner with
  | (.ok commit, _) => onlyRekeys (entered t) commit
  | (.error _, _) => true

theorem answersPlainly_of_check {t : TwoMlsPqSession Reference.mls}
    {frame : Frame Reference.mls} (h : answersPlainly t frame = true) :
    AnswersPlainly t frame := by
  intro commit hguard
  unfold answersPlainly at h
  rw [hguard] at h
  exact onlyRekeys_of_check h

set_option maxRecDepth 4000 in
theorem honestAnswer_plain : answersPlainly rekeyingSession honestAnswer = true := by
  decide +kernel

end ReferencePair

/-- The acceptor's answer, bound while the random source has run dry: the half has
moved, and the failure is fatal and latched. -/
theorem dry_rekey_fails_for_good :
    ((pqRekeyApply ReferencePair.honestAnswer (0 : Nat)).run
        ReferencePair.rekeyingSession).1 = .error .bindTriggerFailed ∧
      FailsCleanly ReferencePair.rekeyingSession.inner .bindTriggerFailed
        ((pqRekeyApply ReferencePair.honestAnswer (0 : Nat)).run
          ReferencePair.rekeyingSession).2.inner := by
  have hrefusal : refusal ((pqRekeyApply ReferencePair.honestAnswer (0 : Nat)).run
      ReferencePair.rekeyingSession) = some .bindTriggerFailed := by
    decide +kernel
  have herror := refusal_eq hrefusal
  have hbinds := (binds_fail_at_once_or_for_good Reference.lawful Reference.dependable
    ReferencePair.rekeyingSession).2.2 ReferencePair.honestAnswer (0 : Nat)
  constructor
  · exact herror
  · exact hbinds.mpr (ReferencePair.answersPlainly_of_check ReferencePair.honestAnswer_plain)
      _ herror

/-- The peer answers with a commit that attests: it is applied, and refused under a
name the host may retry. -/
theorem attesting_answer_moves_half :
    ¬ forall (s : SessionInner Reference.mls) (t : TwoMlsPqSession Reference.mls),
      Born s ->
        Run TwoMlsPqSession.live (fun _ _ => True) (TwoMlsPqSession.fresh s) t ->
          forall frame seed, CleanIn t (pqRekeyApply frame seed) := by
  intro hall
  have hclean := hall _ _ ReferencePair.initiator_born ReferencePair.rekeying_run
    ReferencePair.attestingAnswer (5800 : Nat)
  have hrefusal : refusal ((pqRekeyApply ReferencePair.attestingAnswer (5800 : Nat)).run
      ReferencePair.rekeyingSession) = some .apqInfoMismatch := by
    decide +kernel
  have hmoved : ((pqRekeyApply ReferencePair.attestingAnswer (5800 : Nat)).run
        ReferencePair.rekeyingSession).2.inner.epoch .recvPq = some 3 ∧
      ReferencePair.rekeyingSession.inner.epoch .recvPq = some 2 := by
    decide +kernel
  rcases hclean _ (refusal_eq hrefusal) with hunmoved | ⟨hname, -⟩
  · have hsame := hunmoved.recvPq
    rw [hmoved.1, hmoved.2] at hsame
    cases hsame
  · cases hname

end Session
end TwoMlsPq
