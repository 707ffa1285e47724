import TwoMlsPq.Session.Encodes
import TwoMlsPq.Session.Restore

/-!
# The post-quantum halves, operation by operation

Which operations leave both post-quantum halves alone, and what the others do
to them.  Preparing a send writes one only to discharge an owed bind, a send
only to stage an A.5, and an accepted frame only together with the epoch of the
recv half.
-/

namespace TwoMlsPq
namespace Session

open Foundation Apq

section

variable {M : MlsRs} {α β : Type}

/-!
## Operations that leave the post-quantum halves alone
-/

abbrev PqHalf : Type :=
  { h : Half // h.isPq = true }

def SparesPq (x : SessionOp M α) : Prop :=
  Op.Writes (fun (h : PqHalf) (s : SessionInner M) => s.half h.1) [] x

def DoorSparesPq (x : ApiOp M α) : Prop :=
  Op.Writes (fun (h : PqHalf) (t : TwoMlsPqSession M) => t.inner.half h.1) [] x

/-- Both post-quantum halves are what they were, down to the spent leaves of
their exporters. -/
def SamePqHalves (s s' : SessionInner M) : Prop :=
  s'.half .sendPq = s.half .sendPq ∧ s'.half .recvPq = s.half .recvPq

theorem SamePqHalves.refl (s : SessionInner M) : SamePqHalves s s :=
  ⟨rfl, rfl⟩

theorem SamePqHalves.trans {s₁ s₂ s₃ : SessionInner M}
    (h : SamePqHalves s₁ s₂) (h' : SamePqHalves s₂ s₃) : SamePqHalves s₁ s₃ :=
  ⟨h'.1.trans h.1, h'.2.trans h.2⟩

theorem Touches.sparesPq {W : List Slot} {x : SessionOp M α} (hx : Touches W x)
    (hsend : .half .sendPq ∉ W) (hrecv : .half .recvPq ∉ W) :
    SparesPq x := by
  rintro s ⟨h, hpq⟩ _
  cases h with
  | sendPq => exact hx.half hsend s
  | recvPq => exact hx.half hrecv s
  | sendClassical => cases hpq
  | recvClassical => cases hpq

theorem SparesPq.same {x : SessionOp M α} (hx : SparesPq x) (s : SessionInner M) :
    SamePqHalves s (x.run s).2 := by
  constructor
  · exact hx s ⟨.sendPq, rfl⟩ List.not_mem_nil
  · exact hx s ⟨.recvPq, rfl⟩ List.not_mem_nil

theorem DoorSparesPq.same {x : ApiOp M α} (hx : DoorSparesPq x)
    (t : TwoMlsPqSession M) :
    SamePqHalves t.inner (x.run t).2.inner := by
  constructor
  · exact hx t ⟨.sendPq, rfl⟩ List.not_mem_nil
  · exact hx t ⟨.recvPq, rfl⟩ List.not_mem_nil

theorem sparesPq_locked {x : SessionOp M α} (hx : SparesPq x) :
    DoorSparesPq (locked x) :=
  fun t h hslot => hx t.inner h hslot

theorem sparesPq_bumpSeq : DoorSparesPq (bumpSeq : ApiOp M Bool) := by
  unfold bumpSeq
  refine Op.Writes.looking Op.Still.state fun t => ?_
  apply Op.Writes.ite
  · refine Op.Writes.bind (Op.Writes.update fun t h _ => rfl) fun _ => ?_
    exact Op.Writes.value _
  · exact Op.Writes.value _

theorem sparesPq_encodeCore : DoorSparesPq (encodeAndPush .core : ApiOp M Unit) := by
  unfold encodeAndPush
  refine Op.Writes.looking Op.Still.state fun t => ?_
  apply Op.Writes.ite
  · refine Op.Writes.bind
      (sparesPq_locked (touches_encodeCore.sparesPq (by decide) (by decide)))
        fun archive => ?_
    exact Op.Writes.update fun t h _ => rfl
  · exact Op.Writes.value _

theorem sparesPq_mutateAndPersist {x : SessionOp M α} (hx : SparesPq x) :
    DoorSparesPq (mutateAndPersist .core x) := by
  unfold mutateAndPersist
  refine Op.Writes.bind sparesPq_bumpSeq fun bumped => ?_
  apply Op.Writes.ite
  · refine Op.Writes.bind (sparesPq_locked hx).attempt fun result => ?_
    refine Op.Writes.bind sparesPq_encodeCore.attempt fun encoded => ?_
    split
    · exact Op.Writes.fail _
    · exact Op.Writes.value _
    · exact Op.Writes.fail _
  · exact sparesPq_locked hx

theorem sparesPq_persistAfter : DoorSparesPq (persistAfter .core : ApiOp M Unit) := by
  unfold persistAfter
  refine Op.Writes.bind sparesPq_bumpSeq fun bumped => ?_
  apply Op.Writes.ite
  · exact Op.Writes.bind sparesPq_encodeCore.attempt fun _ => Op.Writes.value ()
  · exact Op.Writes.value ()

theorem sparesPq_persistHandOut : DoorSparesPq (persistHandOut : ApiOp M Unit) :=
  Op.Writes.bind sparesPq_bumpSeq fun _ =>
    Op.Writes.bind sparesPq_encodeCore.attempt fun _ => Op.Writes.value ()

/-!
## What an operation pushes
-/

def Pushed (K : BlobKind -> Prop) (t t' : TwoMlsPqSession M) : Prop :=
  exists new, t'.pushed = t.pushed ++ new ∧ forall p, p ∈ new -> K p.kind

def Pushes (K : BlobKind -> Prop) (x : ApiOp M α) : Prop :=
  forall t, Pushed K t (x.run t).2

section

variable {K : BlobKind -> Prop}

theorem Pushed.refl {t t' : TwoMlsPqSession M} (h : t'.pushed = t.pushed) :
    Pushed K t t' :=
  ⟨[], by rw [h, List.append_nil], by simp⟩

theorem Pushed.trans {t₁ t₂ t₃ : TwoMlsPqSession M}
    (h : Pushed K t₁ t₂) (h' : Pushed K t₂ t₃) : Pushed K t₁ t₃ := by
  rcases h with ⟨new, heq, hnew⟩
  rcases h' with ⟨new', heq', hnew'⟩
  refine ⟨new ++ new', by rw [heq', heq, List.append_assoc], ?_⟩
  intro p hp
  rcases List.mem_append.mp hp with hp | hp
  · exact hnew p hp
  · exact hnew' p hp

theorem Pushes.still {x : ApiOp M α} (hx : Op.Still x) : Pushes K x := by
  intro t
  rw [hx t]
  exact Pushed.refl rfl

theorem Pushes.bind {x : ApiOp M α} {f : α -> ApiOp M β}
    (hx : Pushes K x) (hf : forall a, Pushes K (f a)) :
    Pushes K (x >>= f) := by
  intro t
  have hfirst := hx t
  rw [Op.run_bind]
  rcases hrun : x.run t with ⟨r, t'⟩
  rw [hrun] at hfirst
  cases r with
  | ok a => exact hfirst.trans (hf a t')
  | error e => exact hfirst

theorem Pushes.looking {x : ApiOp M α} {f : α -> ApiOp M β}
    (hx : Op.Still x) (hf : forall a, Pushes K (f a)) :
    Pushes K (x >>= f) :=
  (Pushes.still hx).bind hf

theorem Pushes.attempt {x : ApiOp M α} (hx : Pushes K x) : Pushes K (Op.attempt x) :=
  hx

theorem Pushes.ite {c : Prop} [Decidable c] {x y : ApiOp M α}
    (hx : Pushes K x) (hy : Pushes K y) : Pushes K (if c then x else y) := by
  split
  · exact hx
  · exact hy

theorem pushes_locked (x : SessionOp M α) : Pushes K (locked x) :=
  fun _ => Pushed.refl rfl

theorem pushes_bumpSeq : Pushes K (bumpSeq : ApiOp M Bool) := by
  unfold bumpSeq
  refine Pushes.looking Op.Still.state fun t => ?_
  apply Pushes.ite
  · exact Pushes.bind (fun _ => Pushed.refl rfl) fun _ => Pushes.still (Op.Still.value _)
  · exact Pushes.still (Op.Still.value _)

theorem pushes_encodeAndPush {kind : BlobKind} (hkind : K kind) :
    Pushes K (encodeAndPush kind : ApiOp M Unit) := by
  unfold encodeAndPush
  refine Pushes.looking Op.Still.state fun t => ?_
  apply Pushes.ite
  · refine Pushes.bind (pushes_locked _) fun archive => ?_
    intro t
    refine ⟨_, rfl, ?_⟩
    intro p hp
    cases List.mem_singleton.mp hp
    exact hkind
  · exact Pushes.still (Op.Still.value _)

theorem pushes_mutateAndPersist {k : BlobKind} (hkind : K k)
    (x : SessionOp M α) :
    Pushes K (mutateAndPersist k x) := by
  unfold mutateAndPersist
  refine Pushes.bind pushes_bumpSeq fun bumped => ?_
  apply Pushes.ite
  · refine Pushes.bind (pushes_locked x).attempt fun result => ?_
    refine Pushes.bind (pushes_encodeAndPush hkind).attempt fun encoded => ?_
    split
    · exact Pushes.still (Op.Still.fail _)
    · exact Pushes.still (Op.Still.value _)
    · exact Pushes.still (Op.Still.fail _)
  · exact pushes_locked x

theorem pushes_persistAfter {kind : BlobKind} (hkind : K kind) :
    Pushes K (persistAfter kind : ApiOp M Unit) := by
  unfold persistAfter
  refine Pushes.bind pushes_bumpSeq fun bumped => ?_
  apply Pushes.ite
  · exact Pushes.bind (pushes_encodeAndPush hkind).attempt fun _ =>
      Pushes.still (Op.Still.value _)
  · exact Pushes.still (Op.Still.value _)

end

/-!
## Preparing a send

The one write of a post-quantum half behind `prepare_to_encrypt` is the export
that discharges an owed bind.
-/

def peerCaughtUp (s : SessionInner M) : Bool :=
  match s.half .sendClassical, s.msg.peerAppliedSendEpoch with
  | some g, some applied => decide (M.currentEpoch g <= applied)
  | _, _ => false

/-- The next `prepare_to_encrypt` commits while a bind is owed. -/
def dischargesBind (s : SessionInner M) : Bool :=
  s.recvGroup.isSome && s.round.owedBind.isSome &&
    (s.msg.queuedProposal.isSome || peerCaughtUp s)

def Unowed (v : Option M.Group) (s : SessionInner M) : Prop :=
  s.round.owedBind = none ∧ s.half .sendPq = v

theorem Touches.unowed {W : List Slot} {x : SessionOp M α} (hx : Touches W x)
    (hround : .round ∉ W) (hsend : .half .sendPq ∉ W) (v : Option M.Group) :
    Op.Keeps (Unowed v) x := by
  intro s hs
  constructor
  · rw [hx.roundKept hround]
    exact hs.1
  · rw [hx.half hsend]
    exact hs.2

theorem run_dischargeOwedBind_none {s : SessionInner M}
    (h : s.round.owedBind = none) :
    dischargeOwedBind.run s = (.ok none, s) := by
  unfold dischargeOwedBind
  rw [Op.run_bind, Op.run_state]
  dsimp only
  rw [h]
  rfl

theorem unowed_commitRound (folded : Option (PeerProposal M)) (seed : M.Seed)
    (v : Option M.Group) :
    Op.Triple (Unowed v) (commitRound folded seed) (fun _ s => s.half .sendPq = v)
      fun _ s => s.half .sendPq = v := by
  have hkeeps : forall {γ : Type} {x : SessionOp M γ} {W : List Slot}, Touches W x ->
      .round ∉ W -> .half .sendPq ∉ W ->
      Op.Triple (Unowed v) x (fun _ => Unowed v) fun _ s => s.half .sendPq = v :=
    fun hx hround hsend =>
      (Op.Triple.ofKeeps (hx.unowed hround hsend v)).weaken (fun _ _ h => h)
        fun _ _ h => h.2
  unfold commitRound
  refine Op.Triple.bind (hkeeps touches_rememberSendPsk (by decide) (by decide))
    fun _ => ?_
  refine Op.Triple.bind (hkeeps touches_crossPskForCommit (by decide) (by decide))
    fun crossPsk => ?_
  refine Op.Triple.looking still_handoffForCommit (fun _ _ h => h.2) fun handoff => ?_
  refine Op.Triple.bind (hkeeps (touches_refold folded) (by decide) (by decide))
    fun _ => ?_
  refine Op.Triple.looking Op.Still.state (fun _ _ h => h.2) fun s => ?_
  apply Op.Triple.mapError
  unfold dischargeAndCommit
  refine Op.Triple.bind (Q := fun owed s => s.half .sendPq = v) ?_ fun owed => ?_
  · intro s hs
    rw [run_dischargeOwedBind_none hs.1]
    exact hs.2
  · exact Op.Triple.unwritten (touches_commitDischarged _ _ _ _ owed)
      (i := .half .sendPq) (by decide) v

theorem run_peerAppliedOurSendEpoch {s : SessionInner M} {licensed : Bool}
    (h : (peerAppliedOurSendEpoch.run s).1 = .ok licensed) :
    licensed = peerCaughtUp s := by
  unfold peerAppliedOurSendEpoch at h
  unfold peerCaughtUp
  cases held : s.half .sendClassical with
  | none =>
      rw [Op.run_bind, show (readHalf .sendClassical .sessionNotReady).run s =
        (.error .sessionNotReady, s) from by
          unfold readHalf
          rw [Op.run_bind, Op.run_state]
          dsimp only
          rw [held]
          rfl] at h
      cases h
  | some g =>
      rw [Op.run_bind, run_readHalf held] at h
      cases h
      cases s.msg.peerAppliedSendEpoch with
      | none => rfl
      | some applied => rfl

theorem triple_peerAppliedOurSendEpoch {s : SessionInner M}
    {E : TwoMlsPqError -> SessionInner M -> Prop} (hE : forall e, E e s) :
    Op.Triple (fun s' => s' = s) peerAppliedOurSendEpoch
      (fun licensed s' => licensed = peerCaughtUp s ∧ s' = s) E := by
  rintro s' rfl
  have hstill := still_peerAppliedOurSendEpoch s'
  cases hresult : (peerAppliedOurSendEpoch.run s').1 with
  | ok licensed => exact ⟨run_peerAppliedOurSendEpoch hresult, hstill⟩
  | error e =>
      rw [hstill]
      exact hE e

theorem unowed_of_commits {s : SessionInner M} (hrecv : s.recvGroup.isSome = true)
    (h : dischargesBind s = false)
    (hcommits : (s.msg.queuedProposal.isSome ||
      (s.round.owedBind.isSome && peerCaughtUp s)) = true) :
    s.round.owedBind = none := by
  cases howed : s.round.owedBind with
  | none => rfl
  | some owed =>
      unfold dischargesBind at h
      rw [hrecv, howed] at h
      rw [howed] at hcommits
      simp_all

theorem triple_prepareRatchetCommit (selected : Option Bytes) (rnd : Nat -> M.Seed)
    (v : Option M.Group) :
    Op.Triple
      (fun s => s.recvGroup.isSome = true ∧ dischargesBind s = false ∧
        s.half .sendPq = v)
      (prepareRatchetCommit selected rnd) (fun _ s => s.half .sendPq = v)
      fun _ s => s.half .sendPq = v := by
  unfold prepareRatchetCommit
  refine Op.Triple.reading fun s hs => ?_
  dsimp only
  rcases hs with ⟨hrecv, hnot, hsend⟩
  refine Op.Triple.bind
    (Q := fun _ s' => s' = s.mapMsg fun m => { m with queuedProposal := none }) ?_
    fun _ => ?_
  · exact Op.Triple.update fun s' hs' => by rw [hs']
  refine Op.Triple.bind (triple_peerAppliedOurSendEpoch fun _ => hsend) fun licensed => ?_
  refine Op.Triple.bind (Q := fun _ s' => s'.half .sendPq = v) ?_ fun _ => ?_
  · refine Op.Triple.ite (fun hcommits => ?_) fun _ => ?_
    · intro s' hs'
      rcases hs' with ⟨rfl, rfl⟩
      have hunowed : s.round.owedBind = none := unowed_of_commits hrecv hnot hcommits
      exact unowed_commitRound _ _ v _ ⟨hunowed, hsend⟩
    · exact Op.Triple.value fun s' hs' => by rw [hs'.2]; exact hsend
  refine Op.Triple.bind
    (Op.Triple.unwritten (touches_stageSelfUpdate _ _) (i := .half .sendPq)
      (by decide) v) fun proposal => ?_
  refine Op.Triple.looking Op.Still.state (fun _ _ h => h) fun s' => ?_
  exact Op.Triple.value fun _ h => h

/-- While no bind is discharged, preparing a send leaves both post-quantum
halves alone. -/
theorem prepareToEncryptInner_same (proposing : Option Bytes) (rnd : Nat -> M.Seed)
    {s : SessionInner M} (h : dischargesBind s = false) :
    SamePqHalves s ((prepareToEncryptInner proposing rnd).run s).2 := by
  have htriple : Op.Triple
      (fun s' => dischargesBind s' = false ∧ s'.half .sendPq = s.half .sendPq)
      (prepareToEncryptInner proposing rnd)
      (fun _ s' => s'.half .sendPq = s.half .sendPq)
      fun _ s' => s'.half .sendPq = s.half .sendPq := by
    unfold prepareToEncryptInner
    refine Op.Triple.looking still_ensureEstablishmentDelegated (fun _ _ h => h.2)
      fun _ => ?_
    refine Op.Triple.reading fun s₁ hs₁ => ?_
    refine Op.Triple.bind (Q := fun _ s' => s'.half .sendPq = s.half .sendPq) ?_
      fun result => ?_
    · refine Op.Triple.ite (fun _ => ?_) fun hsome => ?_
      · refine (Op.Triple.unwritten (touches_preparePreEstablishment _)
          (i := .half .sendPq) (by decide) _).pre fun s' hs' => ?_
        rw [hs']
        exact hs₁.2
      · refine (triple_prepareRatchetCommit _ _ _).pre fun s' hs' => ?_
        rw [hs']
        refine ⟨?_, hs₁⟩
        cases hrecv : s₁.recvGroup with
        | none =>
            rw [hrecv] at hsome
            exact absurd rfl hsome
        | some recv => rfl
    refine Op.Triple.bind
      (Op.Triple.unwritten touches_recordListenRendezvous (i := .half .sendPq)
        (by decide) _) fun _ => ?_
    refine Op.Triple.bind
      (Op.Triple.unwritten (touches_rewrapSideBand _) (i := .half .sendPq)
        (by decide) _) fun _ => ?_
    exact Op.Triple.value fun _ h => h
  constructor
  · exact htriple.always ⟨h, rfl⟩
  · exact (touches_prepareToEncryptInner proposing rnd).half (by decide) s

/-!
## Encrypting

A staged A.5 leaves a pending update in the recv half, and says so.
-/

def stagesRekey (s : SessionInner M) : Bool :=
  sideBandIdle s && sendPqLeafLags s

theorem stagesRekey_congr {s s' : SessionInner M} (hround : s'.round = s.round)
    (hclient : s'.client = s.client) (hsend : s'.half .sendPq = s.half .sendPq)
    (hrecv : s'.half .recvPq = s.half .recvPq) :
    stagesRekey s' = stagesRekey s := by
  unfold stagesRekey sideBandIdle sendPqLeafLags SessionInner.pqHalvesLive
  rw [hround, hclient, hsend, hrecv]

theorem Touches.stagesRekey {W : List Slot} {x : SessionOp M α} (hx : Touches W x)
    (hround : .round ∉ W) (hclient : .client ∉ W) (hsend : .half .sendPq ∉ W)
    (hrecv : .half .recvPq ∉ W) (s : SessionInner M) :
    Session.stagesRekey (x.run s).2 = Session.stagesRekey s :=
  stagesRekey_congr (hx.roundKept hround s) (hx s .client hclient) (hx.half hsend s)
    (hx.half hrecv s)

theorem stagesRekey_parked {s : SessionInner M}
    (h : s.round.pendingSideBand.isSome = true) :
    stagesRekey s = false := by
  unfold stagesRekey sideBandIdle
  rcases Option.isSome_iff_exists.mp h with ⟨parked, hparked⟩
  rw [hparked]
  simp

theorem keeps_stagesRekey_rewrap (seed : M.Seed) :
    Op.Keeps (fun s => stagesRekey s = false)
      (rewrapSideBand seed : SessionOp M Unit) := by
  unfold rewrapSideBand
  refine Op.Keeps.looking Op.Still.state fun s => ?_
  split
  · apply Op.Keeps.ite
    · refine Op.Keeps.bind ?_ fun minted => ?_
      · intro s' hs'
        rw [Op.run_attempt, (touches_mintLeg _ _ _).stagesRekey (by decide) (by decide)
          (by decide) (by decide)]
        exact hs'
      split
      · exact Op.Keeps.update fun _ _ => stagesRekey_parked rfl
      · exact Op.Keeps.value ()
    · exact Op.Keeps.value ()
  · exact Op.Keeps.value ()

theorem holdsSend_mintLeg (kind : PqFrameKind) (payload : Bytes) (seed : M.Seed) :
    Op.Keeps HoldsSend (mintLeg (M := M) kind payload seed) := by
  unfold mintLeg
  refine Op.Keeps.bind (holdsSend_onHalf _ _ _) fun message => ?_
  exact Op.Keeps.looking (Op.Still.ofExcept _) fun _ => Op.Keeps.value _

theorem holdsSend_rewrapSideBand (seed : M.Seed) :
    Op.Keeps HoldsSend (rewrapSideBand seed : SessionOp M Unit) := by
  unfold rewrapSideBand
  refine Op.Keeps.looking Op.Still.state fun s => ?_
  split
  · apply Op.Keeps.ite
    · refine Op.Keeps.bind (holdsSend_mintLeg _ _ _).attempt fun minted => ?_
      split
      · exact Op.Keeps.update fun _ h => h
      · exact Op.Keeps.value ()
    · exact Op.Keeps.value ()
  · exact Op.Keeps.value ()

theorem holdsSend_maybeStageNextRound (rnd : Nat -> M.Seed) :
    Op.Keeps HoldsSend (maybeStageNextRound rnd : SessionOp M Bool) := by
  unfold maybeStageNextRound stageRekey stageRatchet
  refine Op.Keeps.looking Op.Still.state fun s => ?_
  apply Op.Keeps.ite
  · apply Op.Keeps.ite
    · refine Op.Keeps.bind (Op.Keeps.attempt ?_) fun _ => Op.Keeps.value _
      refine Op.Keeps.looking Op.Still.state fun s => ?_
      refine Op.Keeps.looking (Op.Still.ensure _ _) fun _ => ?_
      refine Op.Keeps.bind (holdsSend_onHalf _ _ _) fun proposal => ?_
      refine Op.Keeps.looking (Op.Still.ofExcept _) fun body => ?_
      exact Op.Keeps.update fun _ h => h
    · refine Op.Keeps.bind (Op.Keeps.attempt ?_) fun _ => Op.Keeps.value _
      refine Op.Keeps.looking (Op.Still.ofExcept _) fun eph => ?_
      refine Op.Keeps.bind (holdsSend_mintLeg _ _ _) fun frame => ?_
      exact Op.Keeps.update fun _ h => h
  · exact Op.Keeps.value _

theorem triple_callHalf (h : Half) (missing : TwoMlsPqError)
    (err : MlsError -> TwoMlsPqError)
    (f : MlsEnv -> M.Group -> Except MlsError α × M.Group)
    (hf : forall env g e, (f env g).1 = .error e -> (f env g).2 = g)
    (v : Option M.Group) :
    Op.Triple (fun s => s.half h = v) (callHalf h missing err f) (fun _ _ => True)
      fun _ s => s.half h = v := by
  intro s hs
  unfold callHalf onHalf
  rw [Op.run_ofResult]
  cases held : s.half h with
  | none =>
      rw [held] at hs
      cases s.halfStore h <;> exact held.trans hs
  | some g =>
      cases hstore : s.halfStore h with
      | none => exact hs
      | some store =>
          dsimp only
          rw [run_call]
          have hatomic := hf (s.services.env store) g
          rcases hrun : f (s.services.env store) g with ⟨r, g'⟩
          rw [hrun] at hatomic
          cases r with
          | ok a => exact True.intro
          | error e =>
              have hback : g' = g := hatomic e rfl
              subst hback
              rw [← hs, held]
              cases h with
              | _ => exact half_setHalf_held held

section

variable (A : AtomicProposals M) (T : Dependable M)

include A T

theorem triple_stageRekey (rotating : Option Bytes) (seed : M.Seed)
    (v : Option M.Group) :
    Op.Triple (fun s => s.half .recvPq = v) (stageRekey (M := M) rotating seed)
      (fun _ _ => True) fun _ s => s.half .recvPq = v := by
  unfold stageRekey
  refine Op.Triple.looking Op.Still.state (fun _ _ h => h) fun s => ?_
  refine Op.Triple.looking (Op.Still.ensure _ _) (fun _ _ h => h) fun _ => ?_
  refine Op.Triple.bind
    (triple_callHalf _ _ _ _ (fun env g e he => A.failed _ _ _ _ _ _ he) v)
      fun proposal => ?_
  refine Op.Triple.bind (Q := fun _ _ => True) ?_ fun body =>
    Op.Triple.update fun _ _ => True.intro
  rcases T.toBytes proposal with ⟨bytes, hbytes⟩
  intro s _
  rw [Op.run_ofExcept]
  unfold Blob.ofMessage
  rw [hbytes]
  exact True.intro

theorem triple_maybeStageNextRound (rnd : Nat -> M.Seed) (v : Option M.Group) :
    Op.Triple (fun s => s.half .recvPq = v)
      (maybeStageNextRound rnd : SessionOp M Bool)
      (fun staged s => staged = false -> s.half .recvPq = v)
      fun _ s => s.half .recvPq = v := by
  unfold maybeStageNextRound
  refine Op.Triple.looking Op.Still.state (fun _ _ h => h) fun s => ?_
  refine Op.Triple.ite (fun _ => ?_) fun _ => Op.Triple.value fun _ h _ => h
  refine Op.Triple.ite (fun _ => ?_) fun _ => ?_
  · refine Op.Triple.bind (triple_stageRekey A T _ _ v).attempt fun staged => ?_
    cases staged with
    | ok _ => exact Op.Triple.value fun _ _ hfalse => by cases hfalse
    | error e => exact Op.Triple.value fun _ h _ => h
  · refine Op.Triple.bind (Q := fun _ s => s.half .recvPq = v) ?_ fun _ =>
      Op.Triple.value fun _ h _ => h
    exact Op.Triple.unwritten (touches_stageRatchet rnd).attempt
      (i := .half .recvPq) (by decide) v

end

theorem returns_maybeStageNextRound (rnd : Nat -> M.Seed) :
    Op.Triple (fun s => stagesRekey s = false)
      (maybeStageNextRound rnd : SessionOp M Bool) (fun staged _ => staged = false)
      fun _ _ => True := by
  unfold maybeStageNextRound
  refine Op.Triple.reading fun s hs => ?_
  refine Op.Triple.ite (fun hidle => ?_) fun _ => Op.Triple.value fun _ _ => rfl
  refine Op.Triple.ite (fun hlags => ?_) fun _ => ?_
  · unfold stagesRekey at hs
    rw [hidle, hlags] at hs
    cases hs
  · exact Op.Triple.bind (Q := fun _ _ => True) (fun _ _ => True.intro) fun _ =>
      Op.Triple.value fun _ _ => rfl

theorem triple_encryptInner {I : SessionInner M -> Prop}
    {Q : Bool -> SessionInner M -> Prop} {E : TwoMlsPqError -> SessionInner M -> Prop}
    (hE : forall e s, I s -> E e s)
    (hmsg : forall f s, I s -> I (s.mapMsg f))
    (hcall : forall (f : MlsEnv -> M.Group -> Except MlsError M.Message × M.Group)
      (err : MlsError -> TwoMlsPqError),
      Op.Keeps I (callHalf .sendClassical .sessionNotReady err f))
    (hrewrap : forall seed, Op.Keeps I (rewrapSideBand seed))
    (hstage : forall rnd, Op.Triple I (maybeStageNextRound rnd) Q E)
    (appMessage : Bytes) (rnd : Nat -> M.Seed) :
    Op.Triple I (encryptInner appMessage rnd) (fun r => Q r.stagedPqRound) E := by
  have hkeeps : forall {γ : Type} {x : SessionOp M γ}, Op.Keeps I x ->
      Op.Triple I x (fun _ => I) E :=
    fun hx => (Op.Triple.ofKeeps hx).weaken (fun _ _ h => h) hE
  unfold encryptInner
  refine Op.Triple.looking still_ensureEstablishmentDelegated hE fun _ => ?_
  refine Op.Triple.looking Op.Still.state hE fun s => ?_
  refine Op.Triple.looking (Op.Still.ofOption _ _) hE fun proposalHash => ?_
  dsimp only
  refine Op.Triple.bind (Q := fun _ => I) (Op.Triple.update fun s hs => hmsg _ s hs)
    fun _ => ?_
  refine Op.Triple.looking (Op.Still.ensure _ _) hE fun _ => ?_
  refine Op.Triple.bind (hkeeps (hcall _ _)) fun message => ?_
  refine Op.Triple.looking (Op.Still.ofExcept _) hE fun app => ?_
  refine Op.Triple.looking Op.Still.state hE fun s' => ?_
  refine Op.Triple.looking (Op.Still.ofOption _ _) hE fun send => ?_
  refine Op.Triple.looking (still_composeFrame _ _ _) hE fun cipherText => ?_
  refine Op.Triple.bind (hkeeps (hrewrap _)) fun _ => ?_
  refine Op.Triple.bind (hstage _) fun staged => ?_
  exact Op.Triple.value fun _ h => h

/-!
## Receiving

A frame that moves a post-quantum half moves the epoch of the recv half, and
is persisted as a Checkpoint for it.
-/

def PqMovedOr (s₀ s : SessionInner M) : Prop :=
  s.epoch .recvPq = s₀.epoch .recvPq -> SamePqHalves s₀ s

theorem PqMovedOr.refl (s : SessionInner M) : PqMovedOr s s :=
  fun _ => SamePqHalves.refl s

theorem PqMovedOr.spared {x : SessionOp M α} (hx : SparesPq x)
    (s₀ : SessionInner M) :
    Op.Keeps (PqMovedOr s₀) x := by
  intro s hs hepoch
  have hsame := hx.same s
  refine (hs ?_).trans hsame
  rw [← hepoch]
  unfold SessionInner.epoch
  rw [hsame.2]

theorem PqMovedOr.joined {s₀ s : SessionInner M}
    (hsend : s.half .sendPq = s₀.half .sendPq) (hnone : s₀.half .recvPq = none) :
    PqMovedOr s₀ s := by
  intro hepoch
  refine ⟨hsend, ?_⟩
  unfold SessionInner.epoch at hepoch
  rw [hnone] at hepoch ⊢
  exact Option.map_eq_none_iff.mp hepoch

theorem triple_spared {x : SessionOp M α} (hx : SparesPq x) (s₀ : SessionInner M) :
    Op.Triple (PqMovedOr s₀) x (fun _ => PqMovedOr s₀) fun _ _ => True :=
  (Op.Triple.ofKeeps (PqMovedOr.spared hx s₀)).weaken (fun _ _ h => h)
    fun _ _ _ => True.intro

theorem triple_joining {x : SessionOp M α} {s₀ : SessionInner M} {W : List Slot}
    (hx : Touches W x) (hsend : .half .sendPq ∉ W)
    (hnone : s₀.half .recvPq = none) :
    Op.Triple (fun s => s = s₀) x (fun _ => PqMovedOr s₀) fun _ _ => True := by
  rintro s rfl
  have hmoved := PqMovedOr.joined (hx.half hsend s) hnone
  cases (x.run s).1 with
  | ok a => exact hmoved
  | error e => exact True.intro

theorem still_processWelcome_joined (welcome : WelcomeBytes M)
    (establishment : WelcomeEstablishment) {s : SessionInner M}
    (h : s.recvGroup.isSome = true) :
    ((processWelcome welcome establishment).run s).2 = s := by
  unfold processWelcome
  dsimp only
  rw [Op.run_bind, Op.run_state]
  dsimp only
  rw [if_pos h]
  exact Op.Still.ensure _ _ s

theorem recvPq_none {s : SessionInner M} (h : ¬ s.recvGroup.isSome = true) :
    s.half .recvPq = none := by
  cases hrecv : s.recvGroup with
  | none => simp [SessionInner.half, hrecv]
  | some recv =>
      rw [hrecv] at h
      exact absurd rfl h

theorem triple_joinReporting (welcome : WelcomeBytes M)
    (establishment : WelcomeEstablishment) (s₀ : SessionInner M) :
    Op.Triple (fun s => s = s₀) (joinReporting welcome establishment)
      (fun _ => PqMovedOr s₀) fun _ _ => True := by
  by_cases hrecv : s₀.recvGroup.isSome = true
  · rintro s rfl
    have hstill : ((joinReporting welcome establishment).run s).2 = s := by
      unfold joinReporting
      rw [Op.run_bind, Op.run_state]
      dsimp only
      rw [Op.run_bind_still, still_processWelcome_joined _ _ hrecv]
      exact fun _ => Op.Still.bind Op.Still.state fun _ => Op.Still.value _
    rw [hstill]
    cases ((joinReporting welcome establishment).run s).1 with
    | ok a => exact PqMovedOr.refl s
    | error e => exact True.intro
  · exact triple_joining (touches_joinReporting _ _) (by decide) (recvPq_none hrecv)

theorem triple_onHalf {h : Half} {missing : TwoMlsPqError}
    {y : StoreId -> HalfOp M α} {g : M.Group} {Q : α -> M.Group -> Prop}
    (hy : forall store, Op.Triple (fun hs => hs.group = g) (y store)
      (fun a hs => Q a hs.group) fun _ _ => True) :
    Op.Triple (fun s => s.half h = some g) (onHalf h missing y)
      (fun a s => exists g', s.half h = some g' ∧ Q a g') fun _ _ => True := by
  intro s held
  unfold onHalf
  rw [Op.run_ofResult]
  rw [held]
  cases hstore : s.halfStore h with
  | none => exact True.intro
  | some store =>
      have hrun := hy store { services := s.services, group := g } rfl
      dsimp only
      rcases hresult : (y store).run { services := s.services, group := g }
        with ⟨r, hs⟩
      rw [hresult] at hrun
      cases r with
      | error e => exact True.intro
      | ok a =>
          refine ⟨hs.group, ?_, hrun⟩
          cases h with
          | _ => exact half_setHalf_held held

section

variable (L : Lawful M)

include L

omit L in
def RecvPqKept (s₀ s : SessionInner M) : Prop :=
  s.half .recvPq = s₀.half .recvPq

omit L in
def RecvPqMoved (s₀ s : SessionInner M) : Prop :=
  s.epoch .recvPq ≠ s₀.epoch .recvPq

omit L in
theorem Touches.recvPqKept {x : SessionOp M α} {W : List Slot} (hx : Touches W x)
    (hslot : .half .recvPq ∉ W) (s₀ : SessionInner M) :
    Op.Triple (RecvPqKept s₀) x (fun _ => RecvPqKept s₀) fun _ _ => True :=
  (Op.Triple.unwritten hx (i := .half .recvPq) hslot _).weaken (fun _ _ h => h)
    fun _ _ _ => True.intro

omit L in
theorem Touches.recvPqMoved {x : SessionOp M α} {W : List Slot} (hx : Touches W x)
    (hslot : .half .recvPq ∉ W) (s₀ : SessionInner M) :
    Op.Triple (RecvPqMoved s₀) x (fun _ => RecvPqMoved s₀) fun _ _ => True := by
  refine (Op.Triple.ofKeeps fun s hs => ?_).weaken (fun _ _ h => h)
    fun _ _ _ => True.intro
  unfold RecvPqMoved SessionInner.epoch
  rw [hx.half hslot]
  exact hs

theorem triple_applyBind (secret : Bytes) (pqCommit clCommit : Blob M)
    (s₀ : SessionInner M) :
    Op.Triple (RecvPqKept s₀) (applyBind secret pqCommit clCommit)
      (fun _ => RecvPqMoved s₀) fun _ _ => True := by
  unfold applyBind
  refine Op.Triple.looking Op.Still.state (fun _ _ _ => True.intro) fun s => ?_
  dsimp only
  refine Op.Triple.bind ((touches_injectSendPsksIf _).recvPqKept (by decide) s₀)
    fun _ => ?_
  refine Op.Triple.bind (Q := fun _ => RecvPqMoved s₀) ?_ fun applied => ?_
  · cases held : s₀.half .recvPq with
    | none =>
        intro s' hs'
        unfold onHalf
        rw [Op.run_ofResult, hs', held]
        exact True.intro
    | some g =>
        refine ((triple_onHalf (g := g)
          (Q := fun _ g' => M.currentEpoch g' = M.currentEpoch g + 1) fun store =>
            (applyInjectedCommit_advances L store _ secret pqCommit g).post
              fun _ _ h => h.2).post ?_).pre ?_
        · rintro _ s' ⟨g', held', hepoch⟩ hsame
          unfold SessionInner.epoch at hsame
          rw [held, held'] at hsame
          have hback : M.currentEpoch g' = M.currentEpoch g := Option.some.inj hsame
          omega
        · exact fun s' hs' => hs'.trans held
  refine Op.Triple.bind ((touches_applyBindClassical _ _).recvPqMoved (by decide) s₀)
    fun moved => ?_
  exact Op.Triple.bind (Q := fun _ => RecvPqMoved s₀) (Op.Triple.update fun _ h => h)
    fun _ => Op.Triple.value fun _ h => h

theorem triple_applyBindStaple (tMessage pqMessage : Blob M) (s₀ : SessionInner M) :
    Op.Triple (RecvPqKept s₀) (applyBindStaple tMessage pqMessage)
      (fun _ => RecvPqMoved s₀) fun _ _ => True := by
  unfold applyBindStaple
  refine Op.Triple.bind (touches_takeResponderSecret.recvPqKept (by decide) s₀)
    fun secret => ?_
  refine Op.Triple.bind
    (touches_rememberRecvAttachmentComponent.recvPqKept (by decide) s₀) fun _ => ?_
  refine Op.Triple.bind (triple_applyBind L secret pqMessage tMessage s₀).attempt
    fun applied => ?_
  cases applied with
  | error e =>
      exact Op.Triple.bind (Q := fun _ _ => True)
        (Op.Triple.update fun _ _ => True.intro) fun _ =>
          Op.Triple.fail fun _ _ => True.intro
  | ok moved =>
      exact Op.Triple.bind (Q := fun _ => RecvPqMoved s₀)
        (Op.Triple.update fun _ h => h) fun _ => Op.Triple.value fun _ h => h

theorem triple_processStaple (staple : Staple M)
    (approval : Option EstablishmentApproval) (s₀ : SessionInner M) :
    Op.Triple (fun s => s = s₀) (processStaple staple approval)
      (fun _ => PqMovedOr s₀) fun _ _ => True := by
  have happly : forall (commit : Option M.Message)
      (apply : M.Message -> SessionOp M LeafChanges),
      (forall m, Op.Triple (fun s => s = s₀) (apply m) (fun _ => PqMovedOr s₀)
        fun _ _ => True) ->
      Op.Triple (fun s => s = s₀) (applyIfCurrent commit apply)
        (fun _ => PqMovedOr s₀) fun _ _ => True := by
    intro commit apply happly
    unfold applyIfCurrent
    refine Op.Triple.looking (Op.Still.ofOption _ _) (fun _ _ _ => True.intro)
      fun message => ?_
    refine Op.Triple.looking Op.Still.state (fun _ _ _ => True.intro) fun s => ?_
    refine Op.Triple.looking (Op.Still.ofExcept _) (fun _ _ _ => True.intro)
      fun action => ?_
    cases action with
    | skip =>
        refine Op.Triple.value fun s hs => ?_
        rw [hs]
        exact PqMovedOr.refl s₀
    | apply =>
        exact Op.Triple.bind (happly message) fun _ => Op.Triple.value fun _ h => h
  have hreturn : forall {γ δ : Type} {x : SessionOp M γ} (f : γ -> δ),
      Op.Triple (fun s => s = s₀) x (fun _ => PqMovedOr s₀) (fun _ _ => True) ->
      Op.Triple (fun s => s = s₀) (x >>= fun a => pure (f a)) (fun _ => PqMovedOr s₀)
        fun _ _ => True :=
    fun f hx => hx.bind fun _ => Op.Triple.value fun _ h => h
  unfold processStaple
  refine Op.Triple.reading fun s hs => ?_
  subst hs
  cases staple with
  | badHandoff => exact Op.Triple.fail fun _ _ => True.intro
  | badBind => exact Op.Triple.fail fun _ _ => True.intro
  | handoff envelope welcome =>
      refine Op.Triple.ite (fun _ => ?_) fun hsome => ?_
      · cases coveringApproval approval envelope welcome with
        | none =>
            refine Op.Triple.value fun s' hs' => ?_
            rw [hs']
            exact PqMovedOr.refl s
        | some a => exact hreturn _ (triple_joinReporting _ _ s)
      · have hrecv : s.recvGroup.isSome = true := by
          cases hgroup : s.recvGroup with
          | none =>
              rw [hgroup] at hsome
              exact absurd rfl hsome
          | some recv => rfl
        refine Op.Triple.bind (Q := fun _ => PqMovedOr s) ?_ fun _ =>
          Op.Triple.value fun _ h => h
        rintro s' rfl
        rw [still_processWelcome_joined welcome .bare hrecv]
        cases ((processWelcome welcome .bare).run s').1 with
        | ok _ => exact PqMovedOr.refl s'
        | error e => exact True.intro
  | welcome welcome => exact hreturn _ (triple_joinReporting _ _ s)
  | bind tMessage pqMessage =>
      refine hreturn _ (happly _ _ fun _ => ?_)
      refine ((triple_applyBindStaple L tMessage pqMessage s).pre ?_).post ?_
      · rintro s' rfl
        exact rfl
      · exact fun _ s' hmoved hsame => absurd hsame hmoved
  | commit message =>
      refine hreturn _ (happly _ _ fun m => ?_)
      refine (triple_spared ((touches_applyCommitStaple m).sparesPq (by decide)
        (by decide)) s).pre ?_
      rintro s' rfl
      exact PqMovedOr.refl s'

/-- An accepted frame changed the epoch of the recv half, or left both
post-quantum halves as they were. -/
theorem triple_processIncomingInner (frame : Frame M)
    (approval : Option EstablishmentApproval) (s₀ : SessionInner M) :
    Op.Triple (fun s => s = s₀) (processIncomingInner frame approval)
      (fun _ => PqMovedOr s₀) fun _ _ => True := by
  have hstart : forall {γ : Type} {x : SessionOp M γ}, SparesPq x ->
      Op.Triple (fun s => s = s₀) x (fun _ => PqMovedOr s₀) fun _ _ => True := by
    intro γ x hx
    refine (triple_spared hx s₀).pre ?_
    rintro s rfl
    exact PqMovedOr.refl s
  have hstandalone : forall welcome establishment,
      Op.Triple (fun s => s = s₀) (joinStandalone welcome establishment)
        (fun _ => PqMovedOr s₀) fun _ _ => True := by
    intro welcome establishment
    unfold joinStandalone
    refine Op.Triple.bind (triple_joinReporting _ _ s₀) fun outcome => ?_
    refine triple_spared (Op.Writes.looking Op.Still.state fun s => ?_) s₀
    split
    · exact Op.Writes.value _
    · exact Op.Writes.value _
  unfold processIncomingInner
  refine Op.Triple.reading fun s hs => ?_
  subst hs
  refine Op.Triple.looking (Op.Still.ensure _ _) (fun _ _ _ => True.intro) fun _ => ?_
  cases frame with
  | badHandoff => exact Op.Triple.fail fun _ _ => True.intro
  | badMessage => exact Op.Triple.fail fun _ _ => True.intro
  | sideBand f => exact Op.Triple.fail fun _ _ => True.intro
  | unknown => exact Op.Triple.fail fun _ _ => True.intro
  | welcome welcome => exact hstandalone _ _
  | handoff envelope welcome =>
      refine Op.Triple.ite (fun hrecv => ?_) fun _ => ?_
      · refine Op.Triple.bind (Q := fun _ => PqMovedOr s) ?_ fun _ =>
          Op.Triple.value fun _ h => h
        rintro s' rfl
        rw [still_processWelcome_joined welcome .bare hrecv]
        cases ((processWelcome welcome .bare).run s').1 with
        | ok _ => exact PqMovedOr.refl s'
        | error e => exact True.intro
      · cases coveringApproval approval envelope welcome with
        | none => exact hstart (Op.Writes.value _)
        | some a => exact hstandalone _ _
  | message staple proposal app =>
      unfold processMessage
      refine Op.Triple.looking (Op.Still.ofOption _ _) (fun _ _ _ => True.intro)
        fun appMessage => ?_
      refine Op.Triple.bind (triple_processStaple L staple approval s)
        fun outcome => ?_
      refine triple_spared ?_ s
      split
      · exact Op.Writes.value _
      · exact Op.Writes.value _
      · refine Op.Writes.bind ?_ fun _ => Op.Writes.value _
        exact (touches_processMessageBody _ _ _).sparesPq (by decide) (by decide)
  | preEstablishment app =>
      refine hstart (Op.Writes.looking (Op.Still.ofOption _ _) fun appMessage => ?_)
      refine Op.Writes.bind ?_ fun _ => Op.Writes.value _
      exact (touches_decryptApp appMessage).sparesPq (by decide) (by decide)

end

end

end Session
end TwoMlsPq
