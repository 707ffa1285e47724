import TwoMlsPq.Session.Persisting
import TwoMlsPq.Session.PqHalves
import TwoMlsPq.Session.Wedge

/-!
# Calls that push only a Core

A Core names the epochs of the post-quantum halves and leaves their trees to
the last Checkpoint.  The two blobs belong together as long as a call whose
only push is a Core does not write a post-quantum half.  Every door names its
kind by hand, so every door is looked at.
-/

namespace TwoMlsPq
namespace Session

open Foundation Apq

section

variable {M : MlsRs} {α β : Type}

/-!
## The doors
-/

/-- The sink was given at least one blob, and only Cores. -/
def CoreOnly (t t' : TwoMlsPqSession M) : Prop :=
  exists new, t'.pushed = t.pushed ++ new ∧ new ≠ [] ∧
    forall p, p ∈ new -> p.kind = .core

theorem not_coreOnly_silent {t t' : TwoMlsPqSession M} (h : t'.pushed = t.pushed) :
    ¬ CoreOnly t t' := by
  rintro ⟨new, hnew, hne, -⟩
  rw [h] at hnew
  exact hne (List.self_eq_append_right.mp hnew)

theorem not_coreOnly_checkpoint {t t' : TwoMlsPqSession M} {l : List (Push M)}
    (h : t'.pushed = t.pushed ++ l) {p : Push M} (hp : p ∈ l)
    (hkind : p.kind = .checkpoint) :
    ¬ CoreOnly t t' := by
  rintro ⟨new, hnew, -, hcore⟩
  rw [h] at hnew
  have heq : l = new := List.append_cancel_left hnew
  rw [heq] at hp
  have hkind' := hcore p hp
  rw [hkind] at hkind'
  cases hkind'

theorem Pushed.not_coreOnly {t t' : TwoMlsPqSession M}
    (h : Pushed (fun kind => kind = .checkpoint) t t') :
    ¬ CoreOnly t t' := by
  rcases h with ⟨xs, heq, hkinds⟩
  cases xs with
  | nil => exact not_coreOnly_silent (by rw [heq, List.append_nil])
  | cons p rest =>
      exact not_coreOnly_checkpoint heq List.mem_cons_self (hkinds p List.mem_cons_self)

/-- A door that spares the halves, or pushes Checkpoints only. -/
def KindFits (x : ApiOp M α) : Prop :=
  forall t, CoreOnly t (x.run t).2 -> SamePqHalves t.inner (x.run t).2.inner

theorem Pushes.kindFits {x : ApiOp M α}
    (hx : Pushes (fun kind => kind = .checkpoint) x) : KindFits x :=
  fun t hcore => absurd hcore (hx t).not_coreOnly

theorem kindFits_guarded {guard : SessionOp M α} {body : α -> ApiOp M β}
    (hbody : forall a, Pushes (fun kind => kind = .checkpoint) (body a)) :
    KindFits (locked guard >>= body) :=
  Pushes.kindFits ((pushes_locked guard).bind hbody)

theorem sparesPq_pendingOutbound :
    DoorSparesPq (pendingOutbound : ApiOp M (Option (Outbound M))) := by
  have hdelegated : DoorSparesPq
      (Op.attempt (locked ensureEstablishmentDelegated) :
        ApiOp M (Except TwoMlsPqError Unit)) :=
    (sparesPq_locked (Op.Writes.still still_ensureEstablishmentDelegated)).attempt
  unfold pendingOutbound
  refine Op.Writes.bind hdelegated fun delegated => ?_
  refine Op.Writes.looking Op.Still.state fun t => ?_
  split
  · refine Op.Writes.bind (Op.Writes.update fun t h _ => rfl) fun _ => ?_
    refine Op.Writes.bind ?_ fun out => ?_
    · apply Op.Writes.ite
      · refine Op.Writes.bind (sparesPq_locked (Op.Writes.still still_sealFrame)).attempt
          fun _ => Op.Writes.value _
      · exact Op.Writes.value _
    · exact Op.Writes.bind sparesPq_persistHandOut fun _ => Op.Writes.value _
  · exact Op.Writes.value _

theorem sparesPq_pqTakePendingOutbound :
    DoorSparesPq (pqTakePendingOutbound : ApiOp M (Option (SideBand M))) := by
  have hdelegated : DoorSparesPq
      (Op.attempt (locked ensureEstablishmentDelegated) :
        ApiOp M (Except TwoMlsPqError Unit)) :=
    (sparesPq_locked (Op.Writes.still still_ensureEstablishmentDelegated)).attempt
  unfold pqTakePendingOutbound
  refine Op.Writes.bind hdelegated fun delegated => ?_
  refine Op.Writes.looking Op.Still.state fun t => ?_
  split
  · refine Op.Writes.bind (Op.Writes.update fun t h _ => rfl) fun _ => ?_
    refine Op.Writes.bind
      (sparesPq_locked (Op.Writes.still (still_sealSideBand _))).attempt fun _ => ?_
    exact Op.Writes.bind sparesPq_persistHandOut fun _ => Op.Writes.value _
  · exact Op.Writes.value _

theorem sparesPq_pqPendingOutbound (stable : Bool) :
    DoorSparesPq (pqPendingOutbound stable : ApiOp M (Option (SideBand M))) := by
  unfold pqPendingOutbound
  refine Op.Writes.bind
    (sparesPq_locked (Op.Writes.still still_ensureEstablishmentDelegated)).attempt
      fun delegated => ?_
  apply Op.Writes.ite
  · exact sparesPq_locked ((touches_handOut stable).sparesPq (by decide) (by decide))
  · exact Op.Writes.value _

theorem sparesPq_setInitialField
    (apply : EstablishmentState M -> EstablishmentState M) (seed : M.Seed) :
    DoorSparesPq (setInitialField apply seed) := by
  apply sparesPq_mutateAndPersist
  refine Op.Writes.looking Op.Still.state fun s => ?_
  refine Op.Writes.looking (Op.Still.ensure _ _) fun _ => ?_
  refine Op.Writes.bind (Op.Writes.update fun s h _ => rfl) fun _ => ?_
  refine Op.Writes.looking (still_composeInitialEnvelope _ _) fun envelope => ?_
  exact Op.Writes.update fun s h _ => rfl

theorem sparesPq_installEstablishmentEnvelope (envelope : Bytes) :
    DoorSparesPq (installEstablishmentEnvelope envelope : ApiOp M Unit) := by
  unfold installEstablishmentEnvelope
  refine Op.Writes.looking (Op.Still.ensure _ _) fun _ => ?_
  refine Op.Writes.looking Op.Still.state fun t => ?_
  split
  · exact Op.Writes.still (Op.Still.ensure _ _)
  · exact sparesPq_mutateAndPersist
      ((touches_installEnvelopeInner envelope).sparesPq (by decide) (by decide))

theorem sparesPq_queueProposal (digest : Bytes) :
    DoorSparesPq (queueProposal digest : ApiOp M Unit) := by
  unfold queueProposal
  refine Op.Writes.looking Op.Still.state fun t => ?_
  refine Op.Writes.looking (Op.Still.ensure _ _) fun _ => ?_
  exact sparesPq_mutateAndPersist
    ((touches_queueProposalInner digest).sparesPq (by decide) (by decide))

theorem sparesPq_shouldListenOn :
    DoorSparesPq (shouldListenOn : ApiOp M (List (Nat × Bytes))) := by
  unfold shouldListenOn
  refine Op.Writes.bind (sparesPq_locked
    (touches_recordListenRendezvous.sparesPq (by decide) (by decide))) fun _ => ?_
  refine Op.Writes.bind (sparesPq_locked
    (touches_recordPqHeaderKey.sparesPq (by decide) (by decide))) fun _ => ?_
  refine Op.Writes.looking Op.Still.state fun t => ?_
  exact Op.Writes.looking (Op.Still.ensure _ _) fun _ => Op.Writes.value _

theorem still_ratchetRespondGuard (frame : Frame M) :
    Op.Still (ratchetRespondGuard frame) := by
  unfold ratchetRespondGuard
  refine Op.Still.bind Op.Still.state fun s => ?_
  refine Op.Still.bind (Op.Still.ofExcept _) fun leg => ?_
  refine Op.Still.bind (Op.Still.ofOption _ _) fun recv => ?_
  refine Op.Still.bind ?_ fun _ => ?_
  · split
    · exact Op.Still.value _
    · exact Op.Still.fail _
    · exact Op.Still.fail _
  refine Op.Still.bind (Op.Still.ensure _ _) fun _ => ?_
  refine Op.Still.bind ?_ fun _ => ?_
  · split
    · exact Op.Still.fail _
    · exact Op.Still.fail _
    · exact Op.Still.value _
  exact Op.Still.bind (Op.Still.ensure _ _) fun _ => Op.Still.value _

theorem sparesPq_pqRatchetRespond (frame : Frame M) (rnd : Nat -> M.Seed) :
    DoorSparesPq (pqRatchetRespond frame rnd) := by
  unfold pqRatchetRespond
  refine Op.Writes.bind
    (sparesPq_locked (Op.Writes.still (still_ratchetRespondGuard frame))) fun leg => ?_
  exact sparesPq_mutateAndPersist
    ((touches_ratchetRespondInner leg rnd).sparesPq (by decide) (by decide))

theorem kindFits_resending {guard : SessionOp M (Option (SideBand M))}
    {body : SessionOp M (SideBand M)} :
    KindFits (do
      let retained <- locked guard
      match retained with
      | some frame => pure frame
      | none => mutateAndPersist .checkpoint body : ApiOp M (SideBand M)) := by
  refine kindFits_guarded fun retained => ?_
  cases retained with
  | some frame => exact Pushes.still (Op.Still.value _)
  | none =>
      exact pushes_mutateAndPersist (K := fun kind => kind = .checkpoint) rfl body

theorem pushes_installSink :
    Pushes (fun kind => kind = .checkpoint) (installSink : ApiOp M Unit) := by
  unfold installSink
  refine Pushes.looking Op.Still.state fun t => ?_
  refine Pushes.looking (Op.Still.ensure _ _) fun _ => ?_
  exact Pushes.bind (fun _ => Pushed.refl rfl) fun _ => pushes_encodeAndPush rfl

theorem same_of_persisted {t : TwoMlsPqSession M} {s : SessionInner M}
    (hmoved : PqMovedOr t.inner s) (paused : Prop) [Decidable paused]
    (hcore : CoreOnly t
      ((if paused then pure ()
        else persistAfter
          (if s.pqEpochs = t.inner.pqEpochs then .core else .checkpoint) :
            ApiOp M Unit).run { t with inner := s }).2) :
    SamePqHalves t.inner
      ((if paused then pure ()
        else persistAfter
          (if s.pqEpochs = t.inner.pqEpochs then .core else .checkpoint) :
            ApiOp M Unit).run { t with inner := s }).2.inner := by
  by_cases hpaused : paused
  · rw [if_pos hpaused] at hcore
    exact absurd hcore (not_coreOnly_silent rfl)
  rw [if_neg hpaused] at hcore ⊢
  by_cases hepochs : s.pqEpochs = t.inner.pqEpochs
  · rw [if_pos hepochs]
    have hrecv : s.epoch .recvPq = t.inner.epoch .recvPq :=
      (Prod.ext_iff.mp hepochs).2
    exact (hmoved hrecv).trans (sparesPq_persistAfter.same _)
  · rw [if_neg hepochs] at hcore
    refine absurd hcore (Pushed.not_coreOnly ?_)
    exact pushes_persistAfter (K := fun kind => kind = .checkpoint) rfl
      { t with inner := s }

theorem kindFits_processIncomingWith (L : Lawful M) (frame : Frame M)
    (approval : Option EstablishmentApproval) :
    KindFits (processIncomingWith frame approval) := by
  intro t hcore
  have hinner := triple_processIncomingInner L frame approval t.inner t.inner rfl
  unfold processIncomingWith at hcore ⊢
  rw [Op.run_bind, Op.run_state] at hcore ⊢
  dsimp only at hcore ⊢
  rw [Op.run_bind] at hcore ⊢
  unfold locked at hcore ⊢
  rw [Op.run_ofResult] at hcore ⊢
  rcases hrun : (processIncomingInner frame approval).run t.inner with ⟨r, s⟩
  rw [hrun] at hcore hinner
  cases r with
  | error e => exact absurd hcore (not_coreOnly_silent rfl)
  | ok result =>
      dsimp only at hcore hinner ⊢
      rw [Op.run_bind, Op.run_state] at hcore ⊢
      dsimp only at hcore ⊢
      rw [Op.run_bind_still fun _ => Op.Still.value _] at hcore ⊢
      exact same_of_persisted hinner _ hcore

/-!
## The two doors with a condition
-/

theorem same_mutateAndPersist {x : SessionOp M α} {t : TwoMlsPqSession M}
    (hx : SamePqHalves t.inner (x.run (bumped t).inner).2)
    (hx' : SamePqHalves t.inner (x.run t.inner).2) :
    SamePqHalves t.inner ((mutateAndPersist .core x).run t).2.inner := by
  by_cases h : t.inner.stateSeq < maxSeq
  · rw [run_mutateAndPersist_state h]
    have hmutated : SamePqHalves t.inner (mutated x t).inner := hx
    exact hmutated.trans (sparesPq_encodeCore.same _)
  · rw [run_mutateAndPersist_exhausted h]
    exact hx'

theorem same_prepareToEncrypt (proposing : Option Bytes) (rnd : Nat -> M.Seed)
    {t : TwoMlsPqSession M} (h : dischargesBind t.inner = false) :
    SamePqHalves t.inner ((prepareToEncrypt proposing rnd).run t).2.inner :=
  same_mutateAndPersist
    (prepareToEncryptInner_same proposing rnd (s := (bumped t).inner) h)
    (prepareToEncryptInner_same proposing rnd h)

theorem encryptInner_holdsSend (appMessage : Bytes) (rnd : Nat -> M.Seed) :
    Op.Triple (fun s => ¬ HoldsSend s) (encryptInner appMessage rnd)
      (fun _ _ => False) fun _ _ => True := by
  unfold encryptInner
  refine Op.Triple.looking still_ensureEstablishmentDelegated (fun _ _ _ => True.intro)
    fun _ => ?_
  refine Op.Triple.looking Op.Still.state (fun _ _ _ => True.intro) fun s => ?_
  refine Op.Triple.looking (Op.Still.ofOption _ _) (fun _ _ _ => True.intro)
    fun proposalHash => ?_
  dsimp only
  refine Op.Triple.bind (Q := fun _ s => ¬ HoldsSend s) (Op.Triple.update fun _ h => h)
    fun _ => ?_
  refine Op.Triple.looking (Op.Still.ensure _ _) (fun _ _ _ => True.intro) fun _ => ?_
  refine Op.Triple.bind (Q := fun _ _ => False) ?_ fun _ _ h => h.elim
  intro s' hs'
  unfold callHalf onHalf
  rw [Op.run_ofResult]
  have hnone : s'.sendGroup = none := by
    cases hsend : s'.sendGroup with
    | none => rfl
    | some send =>
        unfold HoldsSend at hs'
        rw [hsend] at hs'
        exact absurd rfl hs'
  simp [SessionInner.half, SessionInner.halfStore, hnone]

section

variable (A : AtomicProposals M) (T : Dependable M)

include A T

theorem encryptInner_recvPq (appMessage : Bytes) (rnd : Nat -> M.Seed)
    (v : Option M.Group) :
    Op.Triple (fun s => s.half .recvPq = v) (encryptInner appMessage rnd)
      (fun r s => r.stagedPqRound = false -> s.half .recvPq = v)
      fun _ s => s.half .recvPq = v :=
  triple_encryptInner (Q := fun staged s => staged = false -> s.half .recvPq = v)
    (fun _ _ h => h) (fun _ _ h => h)
    (fun f err s hs =>
      ((touches_callHalf (W := [.half .sendClassical]) _ _ err f
        (by decide)).half (by decide) s).trans hs)
    (fun seed s hs => ((touches_rewrapSideBand seed).half (by decide) s).trans hs)
    (fun rnd => triple_maybeStageNextRound A T rnd v) appMessage rnd

omit A T in
theorem encryptInner_unstaged (appMessage : Bytes) (rnd : Nat -> M.Seed) :
    Op.Triple (fun s => stagesRekey s = false) (encryptInner appMessage rnd)
      (fun r _ => r.stagedPqRound = false) fun _ _ => True :=
  triple_encryptInner (Q := fun staged _ => staged = false)
    (fun _ _ _ => True.intro) (fun _ _ h => h)
    (fun f err s hs => by
      rw [(touches_callHalf (W := [.half .sendClassical]) _ _ err f
        (by decide)).stagesRekey (by decide) (by decide) (by decide) (by decide)]
      exact hs)
    keeps_stagesRekey_rewrap returns_maybeStageNextRound appMessage rnd

omit A T in
theorem encryptInner_keepsSend (appMessage : Bytes) (rnd : Nat -> M.Seed) :
    Op.Triple (HoldsSend (M := M)) (encryptInner appMessage rnd)
      (fun _ s => HoldsSend s) fun _ _ => True :=
  triple_encryptInner (Q := fun _ s => HoldsSend s)
    (fun _ _ _ => True.intro) (fun _ _ h => h)
    (fun _ _ => holdsSend_onHalf _ _ _)
    holdsSend_rewrapSideBand
    (fun rnd => (Op.Triple.ofKeeps (holdsSend_maybeStageNextRound rnd)).weaken
      (fun _ _ h => h) fun _ _ _ => True.intro) appMessage rnd

omit A T in
theorem encryptInner_ok_holdsSend {appMessage : Bytes} {rnd : Nat -> M.Seed}
    {s : SessionInner M} {r : EncryptResult M}
    (h : ((encryptInner appMessage rnd).run s).1 = .ok r) :
    HoldsSend ((encryptInner appMessage rnd).run s).2 := by
  by_cases hsend : HoldsSend s
  · exact (encryptInner_keepsSend appMessage rnd).ok hsend h
  · exact ((encryptInner_holdsSend appMessage rnd).ok hsend h).elim

omit A T in
theorem keeps_sink (kind : BlobKind) (b : Bool) :
    Op.Keeps (fun t : TwoMlsPqSession M => t.sinkInstalled = b)
      (encodeAndPush kind) := by
  unfold encodeAndPush
  refine Op.Keeps.looking Op.Still.state fun t => ?_
  apply Op.Keeps.ite
  · exact Op.Keeps.bind (fun _ h => h) fun _ => Op.Keeps.update fun _ h => h
  · exact Op.Keeps.value ()

omit A T in
theorem encodeAndPush_silent (kind : BlobKind) {t : TwoMlsPqSession M}
    (h : t.sinkInstalled = false) :
    (encodeAndPush kind).run t = (.ok (), t) := by
  unfold encodeAndPush
  rw [Op.run_bind, Op.run_state]
  dsimp only
  rw [h, if_neg (by decide)]
  rfl

omit A in
theorem holdsSend_encodeAndPush (kind : BlobKind) {t : TwoMlsPqSession M}
    (h : HoldsSend t.inner) :
    HoldsSend ((encodeAndPush kind).run t).2.inner := by
  cases hsink : t.sinkInstalled with
  | false =>
      rw [encodeAndPush_silent kind hsink]
      exact h
  | true =>
      rcases (completes_encodeBlob T kind).result h with ⟨archive, hencoded, hkept⟩
      unfold encodeAndPush
      rw [Op.run_bind, Op.run_state]
      dsimp only
      rw [if_pos hsink, Op.run_bind]
      unfold locked
      rw [Op.run_ofResult, hencoded]
      exact hkept

omit A in
theorem persistAfter_pushes {t : TwoMlsPqSession M} (hsink : t.sinkInstalled = true)
    (hsend : HoldsSend t.inner) (hseq : t.inner.stateSeq < maxSeq) (kind : BlobKind) :
    exists p, p.kind = kind ∧
      ((persistAfter kind).run t).2.pushed = t.pushed ++ [p] := by
  rcases encodeAndPush_pushes T kind (t := bumped t) hsink hsend with ⟨p, hkind, hpushed⟩
  refine ⟨p, hkind, ?_⟩
  unfold persistAfter
  rw [Op.run_bind, run_bumpSeq_lt hseq]
  dsimp only
  rw [if_pos rfl, Op.run_bind_still fun _ => Op.Still.value _]
  exact hpushed

omit A T in
theorem persistAfter_silent {t : TwoMlsPqSession M}
    (h : t.sinkInstalled = false ∨ ¬ t.inner.stateSeq < maxSeq) (kind : BlobKind) :
    ((persistAfter kind).run t).2.pushed = t.pushed := by
  unfold persistAfter
  rw [Op.run_bind]
  by_cases hseq : t.inner.stateSeq < maxSeq
  · rw [run_bumpSeq_lt hseq]
    dsimp only
    rw [if_pos rfl, Op.run_bind_still fun _ => Op.Still.value _]
    rcases h with hsink | hseq'
    · rw [Op.run_attempt, encodeAndPush_silent kind (t := bumped t) hsink]
      rfl
    · exact absurd hseq hseq'
  · rw [run_bumpSeq_exhausted hseq]
    rfl

omit A T in
theorem counter_encryptInner (appMessage : Bytes) (rnd : Nat -> M.Seed)
    (s : SessionInner M) :
    ((encryptInner appMessage rnd).run s).2.stateSeq = s.stateSeq :=
  touches_encryptInner appMessage rnd s .counter (by decide)

omit A T in
theorem counter_encodeCore (t : TwoMlsPqSession M) :
    ((encodeAndPush .core).run t).2.inner.stateSeq = t.inner.stateSeq := by
  have hkeeps : Op.Keeps
      (fun t' : TwoMlsPqSession M => t'.inner.stateSeq = t.inner.stateSeq)
      (encodeAndPush .core) := by
    unfold encodeAndPush
    refine Op.Keeps.looking Op.Still.state fun t' => ?_
    apply Op.Keeps.ite
    · refine Op.Keeps.bind (fun t' ht' => ?_) fun archive => Op.Keeps.update fun _ h => h
      exact (touches_encodeCore t'.inner .counter (by decide)).trans ht'
    · exact Op.Keeps.value ()
  exact hkeeps t rfl

omit A in
theorem encodeAndPush_ok (kind : BlobKind) {t : TwoMlsPqSession M}
    (h : HoldsSend t.inner) :
    ((encodeAndPush kind).run t).1 = .ok () := by
  cases hsink : t.sinkInstalled with
  | false => rw [encodeAndPush_silent kind hsink]
  | true =>
      rcases (completes_encodeBlob T kind).result h with ⟨archive, hencoded, -⟩
      unfold encodeAndPush
      rw [Op.run_bind, Op.run_state]
      dsimp only
      rw [if_pos hsink, Op.run_bind]
      unfold locked
      rw [Op.run_ofResult, hencoded]
      rfl

omit A T in
theorem encrypt_silent (appMessage : Bytes) (rnd : Nat -> M.Seed)
    {t : TwoMlsPqSession M} (h : ¬ t.inner.stateSeq < maxSeq) :
    ((encrypt appMessage rnd).run t).2.pushed = t.pushed := by
  have hcounter := counter_encryptInner appMessage rnd t.inner
  unfold encrypt
  rw [Op.run_bind, run_mutateAndPersist_exhausted h]
  unfold locked
  rw [Op.run_ofResult]
  rcases hrun : (encryptInner appMessage rnd).run t.inner with ⟨r, s⟩
  rw [hrun] at hcounter
  cases r with
  | error e => rfl
  | ok result =>
      dsimp only
      rw [Op.run_bind_still fun _ => Op.Still.value _]
      split
      · refine persistAfter_silent (Or.inr ?_) .checkpoint
        dsimp only
        rw [hcounter]
        exact h
      · rfl

omit A in
theorem encrypt_staged_not_coreOnly {x : SessionOp M (EncryptResult M)}
    {t : TwoMlsPqSession M} (hsend : HoldsSend (mutated x t).inner)
    (hcounter : (mutated x t).inner.stateSeq = t.inner.stateSeq + 1)
    (hseq : t.inner.stateSeq + 1 < maxSeq) :
    ¬ CoreOnly t
      ((persistAfter .checkpoint).run
        ((encodeAndPush .core).run (mutated x t)).2).2 := by
  cases hsink : t.sinkInstalled with
  | false =>
      rw [encodeAndPush_silent .core (t := mutated x t) hsink]
      exact not_coreOnly_silent
        (persistAfter_silent (t := mutated x t) (Or.inl hsink) .checkpoint)
  | true =>
      rcases encodeAndPush_pushes T .core (t := mutated x t) hsink hsend
        with ⟨p, -, hpushed⟩
      have hsink₁ := keeps_sink .core true (mutated x t) hsink
      have hsend₁ := holdsSend_encodeAndPush T .core hsend
      have hseq₁ : ((encodeAndPush .core).run (mutated x t)).2.inner.stateSeq < maxSeq := by
        rw [counter_encodeCore, hcounter]
        exact hseq
      rcases persistAfter_pushes T hsink₁ hsend₁ hseq₁ .checkpoint
        with ⟨p', hkind, hpushed'⟩
      refine not_coreOnly_checkpoint (l := [p, p']) ?_ (by simp) hkind
      rw [hpushed', hpushed, List.append_assoc]
      rfl

theorem encrypt_same_or_staged (appMessage : Bytes) (rnd : Nat -> M.Seed)
    {t : TwoMlsPqSession M} (hseq : t.inner.stateSeq < maxSeq) :
    SamePqHalves t.inner ((encrypt appMessage rnd).run t).2.inner ∨
      exists result : EncryptResult M,
        ((encryptInner appMessage rnd).run (bumped t).inner).1 = .ok result ∧
          result.stagedPqRound = true ∧
          HoldsSend (mutated (encryptInner appMessage rnd) t).inner ∧
          ((encrypt appMessage rnd).run t).2 =
            ((persistAfter .checkpoint).run ((encodeAndPush .core).run
              (mutated (encryptInner appMessage rnd) t)).2).2 := by
  have hsendPq : (mutated (encryptInner appMessage rnd) t).inner.half .sendPq =
      t.inner.half .sendPq :=
    (touches_encryptInner appMessage rnd).half (by decide) (bumped t).inner
  have hrecvPq := encryptInner_recvPq A T appMessage rnd (t.inner.half .recvPq)
    (bumped t).inner rfl
  have hsame : (mutated (encryptInner appMessage rnd) t).inner.half .recvPq =
        t.inner.half .recvPq ->
      SamePqHalves t.inner
        ((encodeAndPush .core).run (mutated (encryptInner appMessage rnd) t)).2.inner :=
    fun hrecv => SamePqHalves.trans ⟨hsendPq, hrecv⟩ (sparesPq_encodeCore.same _)
  have hresult := run_mutateAndPersist_result (k := .core)
    (x := encryptInner appMessage rnd) hseq
  have hstate := run_mutateAndPersist_state (k := .core)
    (x := encryptInner appMessage rnd) hseq
  unfold encrypt
  rw [Op.run_bind]
  rcases hrun : (mutateAndPersist .core (encryptInner appMessage rnd)).run t
    with ⟨r, t₁⟩
  rw [hrun] at hresult hstate
  change t₁ = _ at hstate
  cases hinner : ((encryptInner appMessage rnd).run (bumped t).inner).1 with
  | error e =>
      rw [hinner] at hresult hrecvPq
      cases hresult
      rw [hstate]
      exact Or.inl (hsame hrecvPq)
  | ok result =>
      have hsend : HoldsSend (mutated (encryptInner appMessage rnd) t).inner :=
        encryptInner_ok_holdsSend hinner
      rw [hinner, encodeAndPush_ok T .core hsend] at hresult
      rw [hinner] at hrecvPq
      cases hresult
      dsimp only
      rw [Op.run_bind_still fun _ => Op.Still.value _]
      cases hstaged : result.stagedPqRound with
      | false =>
          rw [if_neg (by decide), hstate]
          exact Or.inl (hsame (hrecvPq hstaged))
      | true =>
          rw [if_pos rfl, hstate]
          exact Or.inr ⟨result, rfl, hstaged, hsend, rfl⟩

theorem same_encrypt (appMessage : Bytes) (rnd : Nat -> M.Seed)
    {t : TwoMlsPqSession M}
    (h : t.inner.stateSeq + 1 = maxSeq -> stagesRekey t.inner = false)
    (hcore : CoreOnly t ((encrypt appMessage rnd).run t).2) :
    SamePqHalves t.inner ((encrypt appMessage rnd).run t).2.inner := by
  by_cases hseq : t.inner.stateSeq < maxSeq
  case neg => exact absurd hcore (not_coreOnly_silent (encrypt_silent _ _ hseq))
  rcases encrypt_same_or_staged A T appMessage rnd hseq with
    hsame | ⟨result, hinner, hstaged, hsend, hrun⟩
  · exact hsame
  · have hcounter : (mutated (encryptInner appMessage rnd) t).inner.stateSeq =
        t.inner.stateSeq + 1 :=
      counter_encryptInner appMessage rnd (bumped t).inner
    have hlast : t.inner.stateSeq + 1 ≠ maxSeq := by
      intro hlast
      have hunstaged := (encryptInner_unstaged appMessage rnd).ok
        (s := (bumped t).inner) (h hlast) hinner
      rw [hstaged] at hunstaged
      cases hunstaged
    rw [hrun] at hcore
    exact absurd hcore (encrypt_staged_not_coreOnly T hsend hcounter (by omega))

end

/-!
## Every call
-/

/-- The call does not spend or stage anything in a post-quantum half behind a
Core: no bind is discharged, and an A.5 is not staged on the last count. -/
def Call.LeavesPq (s : SessionInner M) : Call M -> Prop
  | .prepareToEncrypt _ _ => dischargesBind s = false
  | .encrypt _ _ => s.stateSeq + 1 = maxSeq -> stagesRekey s = false
  | _ => True

/-- The calls that never write a post-quantum half. -/
def Call.SparesPq : Call M -> Prop
  | .pendingOutbound => True
  | .installEstablishmentEnvelope _ => True
  | .setInitialAppPayload _ _ => True
  | .setInitialReturnKeyPackage _ _ => True
  | .queueProposal _ => True
  | .exportAttachmentCekSend _ => True
  | .exportAttachmentCekRecv _ _ => True
  | .shouldListenOn => True
  | .pqPendingOutbound _ => True
  | .pqTakePendingOutbound => True
  | .pqRatchetRespond _ _ => True
  | _ => False

theorem call_spares {call : Call M} (h : call.SparesPq) (t : TwoMlsPqSession M) :
    SamePqHalves t.inner (call.run.run t).2.inner := by
  have hspares : forall {γ : Type} {x : ApiOp M γ} {frames : γ -> List (Frame M)},
      DoorSparesPq x -> SamePqHalves t.inner ((handing x frames).run t).2.inner := by
    intro γ x frames hx
    rw [handing_run]
    exact hx.same t
  cases call with
  | pendingOutbound => exact hspares sparesPq_pendingOutbound
  | installEstablishmentEnvelope envelope =>
      exact hspares (sparesPq_installEstablishmentEnvelope envelope)
  | setInitialAppPayload payload seed => exact hspares (sparesPq_setInitialField _ seed)
  | setInitialReturnKeyPackage kp seed => exact hspares (sparesPq_setInitialField _ seed)
  | queueProposal digest => exact hspares (sparesPq_queueProposal digest)
  | exportAttachmentCekSend keyId =>
      refine hspares ?_
      unfold exportAttachmentCekSend
      refine Op.Writes.bind (sparesPq_mutateAndPersist
        (touches_sendAttachmentComponent.sparesPq (by decide) (by decide))) fun _ => ?_
      exact Op.Writes.still (Op.Still.ofExcept _)
  | exportAttachmentCekRecv keyId epoch =>
      refine hspares ?_
      unfold exportAttachmentCekRecv
      refine Op.Writes.bind (sparesPq_mutateAndPersist
        ((touches_recvAttachmentComponent epoch).sparesPq (by decide) (by decide)))
        fun _ => ?_
      exact Op.Writes.still (Op.Still.ofExcept _)
  | shouldListenOn => exact hspares sparesPq_shouldListenOn
  | pqPendingOutbound stable => exact hspares (sparesPq_pqPendingOutbound stable)
  | pqTakePendingOutbound => exact hspares sparesPq_pqTakePendingOutbound
  | pqRatchetRespond frame rnd => exact hspares (sparesPq_pqRatchetRespond frame rnd)
  | _ => exact h.elim

theorem call_same (L : Lawful M) (A : AtomicProposals M) (T : Dependable M)
    {call : Call M} {t : TwoMlsPqSession M} (h : call.LeavesPq t.inner)
    (hcore : CoreOnly t (call.run.run t).2) :
    SamePqHalves t.inner (call.run.run t).2.inner := by
  have hfits : forall {γ : Type} {x : ApiOp M γ} {frames : γ -> List (Frame M)},
      KindFits x -> KindFits (handing x frames) := by
    intro γ x frames hx t' hcore'
    rw [handing_run] at hcore' ⊢
    exact hx t' hcore'
  have hmutates : forall {γ δ : Type} {guard : SessionOp M δ}
      {body : δ -> SessionOp M γ},
      KindFits (locked guard >>= fun a => mutateAndPersist .checkpoint (body a)) :=
    kindFits_guarded fun a =>
      pushes_mutateAndPersist (K := fun kind => kind = .checkpoint) rfl _
  by_cases hspares : call.SparesPq
  · exact call_spares hspares t
  cases call with
  | installSink => exact hfits pushes_installSink.kindFits t hcore
  | prepareToEncrypt proposing rnd =>
      change SamePqHalves t.inner
        ((handing (prepareToEncrypt proposing rnd) _).run t).2.inner
      rw [handing_run]
      exact same_prepareToEncrypt proposing rnd h
  | encrypt appMessage rnd =>
      change CoreOnly t ((handing (encrypt appMessage rnd) _).run t).2 at hcore
      change SamePqHalves t.inner ((handing (encrypt appMessage rnd) _).run t).2.inner
      rw [handing_run] at hcore ⊢
      exact same_encrypt A T appMessage rnd h hcore
  | processIncoming frame approval =>
      exact hfits (kindFits_processIncomingWith L frame approval) t hcore
  | pqRatchetBind frame seed => exact hfits hmutates t hcore
  | pqRekeyRespond frame seed => exact hfits hmutates t hcore
  | pqRekeyApply frame seed => exact hfits hmutates t hcore
  | pqBootstrapBegin rotating => exact hfits kindFits_resending t hcore
  | pqBootstrapEnvelope seed => exact hfits kindFits_resending t hcore
  | pqBootstrapRespond frame rnd => exact hfits hmutates t hcore
  | pqBootstrapBind frame seed => exact hfits hmutates t hcore
  | _ => exact absurd True.intro hspares

/-!
## What a restore makes of the pair
-/

def SavedAs : Option M.GroupSnapshot -> Option M.Group -> Prop
  | some snapshot, some g =>
      exists g₀, M.exportGroup g₀ = (.ok snapshot, g)
  | none, none => True
  | _, _ => False

/-- The Checkpoint carries the post-quantum halves the session has. -/
def CarriesPq (ck : Archive M) (s : SessionInner M) : Prop :=
  forall h : Half, h.isPq = true -> SavedAs (ck.half h) (s.half h)

/-- The restored half was loaded from what the half in memory was saved as. -/
def ReloadedAs : Option M.Group -> Option M.Group -> Prop
  | some live, some restored =>
      exists g₀ snapshot, M.exportGroup g₀ = (.ok snapshot, live) ∧
        M.loadGroup snapshot = .ok restored
  | none, none => True
  | _, _ => False

theorem reloadedAs_of {snapshot : Option M.GroupSnapshot} {live restored : Option M.Group}
    (hsaved : SavedAs snapshot live) (hloaded : LoadedFrom snapshot restored) :
    ReloadedAs live restored := by
  cases snapshot with
  | none =>
      cases live with
      | some g => exact hsaved.elim
      | none =>
          cases restored with
          | some g => exact hloaded.elim
          | none => exact True.intro
  | some snapshot =>
      cases live with
      | none => exact hsaved.elim
      | some g =>
          cases restored with
          | none => exact hloaded.elim
          | some g' =>
              rcases hsaved with ⟨g₀, hexport⟩
              exact ⟨g₀, snapshot, hexport, hloaded⟩

theorem CarriesPq.same {ck : Archive M} {s s' : SessionInner M}
    (h : CarriesPq ck s) (hsame : SamePqHalves s s') : CarriesPq ck s' := by
  intro hf hpq
  cases hf with
  | sendPq =>
      rw [hsame.1]
      exact h .sendPq rfl
  | recvPq =>
      rw [hsame.2]
      exact h .recvPq rfl
  | sendClassical => cases hpq
  | recvClassical => cases hpq

theorem CoreOnly.latest_checkpoint {t t' : TwoMlsPqSession M} (h : CoreOnly t t') :
    latest .checkpoint t'.pushed = latest .checkpoint t.pushed := by
  rcases h with ⟨new, hnew, -, hcore⟩
  have hnone : (new.filter fun p => decide (p.kind = .checkpoint)) = [] := by
    apply List.filter_eq_nil_iff.mpr
    intro p hp
    rw [hcore p hp]
    decide
  unfold latest
  rw [hnew, List.filter_append, hnone, List.append_nil]

theorem restore_reloads {t : TwoMlsPqSession M} {ck : Archive M} {s : SessionInner M}
    (hlatest : latest .checkpoint t.pushed = some ck) (hcarries : CarriesPq ck t.inner)
    (h : restore t.pushed = .ok s) {hf : Half} (hpq : hf.isPq = true) :
    ReloadedAs (t.inner.half hf) (s.half hf) := by
  unfold restore restoreInner at h
  rw [hlatest] at h
  cases hreconciled : reconcilePersisted (latest .core t.pushed) (some ck) with
  | error e =>
      rw [hreconciled] at h
      cases h
  | ok a =>
      rw [hreconciled] at h
      have hloaded := sessionFromWire_pq h hpq
      rw [reconcilePersisted_pq hreconciled hpq] at hloaded
      exact reloadedAs_of (hcarries hf hpq) hloaded

end

end Session
end TwoMlsPq
