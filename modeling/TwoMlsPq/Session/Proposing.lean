import TwoMlsPq.Session.Custody
import TwoMlsPq.Session.OwedBind
import TwoMlsPq.Session.Preparing

/-!
# What a failed prepare leaves behind

`prepare_to_encrypt` as the host sees it.  When the call commits and the update
behind the commit has no candidate to propose, the call fails with the commit
applied; the exact cases are given here, and the exact states in which a
candidate the host asks for is not proposed.
-/

namespace TwoMlsPq
namespace Session

open Foundation Apq

section

variable {M : MlsRs} {α : Type}

/-!
## Without a candidate
-/

structure Unadmitted (s₀ : SessionInner M) (id : Bytes) (s : SessionInner M) :
    Prop where
  half : s.half = s₀.half
  missing : isStaged s id = false
  closed :
    candidateWindow ≤ s.rotation.stagedCandidates.length ∨
      s.rotation.deferredCandidate = some id

def NothingProposed (s₀ : SessionInner M) (e : TwoMlsPqError)
    (s : SessionInner M) : Prop :=
  s.half = s₀.half ∧ (e = .invalidClientId ∨ e = .sessionNotReady)

theorem triple_admitCandidate_closed (s₀ : SessionInner M) (id : Bytes)
    (rnd : Nat -> M.Seed) :
    Op.Triple (fun s => s.half = s₀.half ∧ (id = [] ∨ Unadmitted s₀ id s))
      (admitCandidate id rnd)
      (fun _ s => s.half = s₀.half ∧ isStaged s id = false)
      (NothingProposed s₀) := by
  unfold admitCandidate
  refine Op.Triple.bind (Q := fun _ => Unadmitted s₀ id) ?_ fun _ => ?_
  · rintro s ⟨hhalf, hid⟩
    by_cases hempty : id = []
    · rw [Op.run_ensure_not (not_not.mpr hempty)]
      exact ⟨hhalf, Or.inl rfl⟩
    · rw [Op.run_ensure hempty]
      rcases hid with hid | hid
      · exact absurd hid hempty
      · exact hid
  refine Op.Triple.reading fun s hs => ?_
  apply Op.Triple.ite
  · intro _
    apply Op.Triple.value
    intro s' hs'
    rw [hs']
    exact ⟨hs.half, hs.missing⟩
  · intro hunknown
    have hfull : candidateWindow ≤ s.rotation.stagedCandidates.length := by
      rcases hs.closed with hfull | hparked
      · exact hfull
      · simp [hparked] at hunknown
    have hmissing := hs.missing
    refine Op.Triple.bind
      (Q := fun _ s' => s'.half = s₀.half ∧ isStaged s' id = false) ?_ fun _ => ?_
    · unfold stageOrDefer
      refine Op.Triple.reading fun s' hs' => ?_
      rw [hs', if_neg (Nat.not_lt.mpr hfull)]
      apply Op.Triple.update
      intro s'' hs''
      rw [hs'']
      exact ⟨hs.half, hmissing⟩
    · exact Op.Triple.update fun s' hs' => hs'

theorem triple_selectCandidate_closed {s₀ : SessionInner M} {selected : Option Bytes}
    (hclosed : ¬ Proposable s₀ selected) (rnd : Nat -> M.Seed) :
    Op.Triple (fun s => s = s₀) (selectCandidate selected rnd)
      (fun chosen s =>
        s.half = s₀.half ∧ exists id, chosen = some id ∧ isStaged s id = false)
      (NothingProposed s₀) := by
  unfold Proposable at hclosed
  push Not at hclosed
  rcases hclosed with ⟨id, hchosen, hclosed⟩
  unfold selectCandidate
  refine Op.Triple.reading fun s hs => ?_
  subst hs
  cases selected with
  | some id' =>
      cases hchosen
      dsimp only
      refine Op.Triple.bind ((triple_admitCandidate_closed s id rnd).pre ?_)
        fun _ => Op.Triple.value fun s' hs' => ⟨hs'.1, id, rfl, hs'.2⟩
      intro s' hs'
      rw [hs']
      refine ⟨rfl, ?_⟩
      by_cases hempty : id = []
      · exact Or.inl hempty
      · rcases hclosed hempty with ⟨hmissing, hroom⟩
        refine Or.inr ⟨rfl, by simpa using hmissing, ?_⟩
        by_cases hfull : candidateWindow ≤ s.rotation.stagedCandidates.length
        · exact Or.inl hfull
        · exact Or.inr (hroom (Nat.lt_of_not_le hfull)).2
  | none =>
      unfold chosenCandidate at hchosen
      dsimp only at hchosen ⊢
      split at hchosen
      next hroom =>
        rw [if_pos hroom, hchosen]
        dsimp only
        have hempty : id = [] := by
          by_contra hnamed
          rcases hclosed hnamed with ⟨-, himp⟩
          exact (himp hroom).1 rfl
        refine Op.Triple.bind (Q := fun _ s' => s'.half = s.half) ?_ fun _ => ?_
        · apply Op.Triple.update
          intro s' hs'
          rw [hs']
          rfl
        refine Op.Triple.bind ((triple_admitCandidate_closed s id rnd).pre ?_)
          fun _ => Op.Triple.value fun s' hs' => ⟨hs'.1, id, rfl, hs'.2⟩
        exact fun s' hs' => ⟨hs', Or.inl hempty⟩
      next => cases hchosen

theorem triple_stageSelfUpdate_closed {s₀ : SessionInner M} {selected : Option Bytes}
    (hclosed : ¬ Proposable s₀ selected) (rnd : Nat -> M.Seed) :
    Op.Triple (fun s => s = s₀) (stageSelfUpdate selected rnd) (fun _ _ => False)
      (NothingProposed s₀) := by
  unfold stageSelfUpdate
  refine Op.Triple.bind (triple_selectCandidate_closed hclosed _) fun chosen => ?_
  refine Op.Triple.bind (Q := fun _ _ => False) ?_ fun candidate => ?_
  · rintro s ⟨hhalf, id, rfl, hmissing⟩
    have hnone : s.rotation.stagedCandidates.find? (fun c => c.clientId == id) =
        none := by
      rw [← Option.not_isSome_iff_eq_none, List.find?_isSome]
      intro hfound
      have hstaged : isStaged s id = true := List.any_eq_true.mpr hfound
      rw [hmissing] at hstaged
      cases hstaged
    unfold proposingClient
    rw [Op.run_bind, Op.run_state]
    dsimp only
    rw [hnone]
    exact ⟨hhalf, Or.inr rfl⟩
  · exact fun _ hs => hs.elim

/-!
## The whole call
-/

def dequeued (s : SessionInner M) : SessionInner M :=
  s.mapMsg fun m => { m with queuedProposal := none }

def commitDue (s : SessionInner M) : Bool :=
  s.msg.queuedProposal.isSome || (s.round.owedBind.isSome && peerCaughtUp s)

def Delegated (s : SessionInner M) : Prop :=
  s.establishment.requiresEstablishmentEnvelope = false ∨
    s.establishment.establishmentEnvelope.isSome = true

theorem run_readHalf_missing {h : Half} {e : TwoMlsPqError} {s : SessionInner M}
    (missing : s.half h = none) :
    (readHalf h e : SessionOp M M.Group).run s = (.error e, s) := by
  unfold readHalf
  rw [Op.run_bind, Op.run_state]
  dsimp only
  rw [missing]
  rfl

theorem triple_prepareParts {s₀ : SessionInner M} {selected : Option Bytes}
    {rnd : Nat -> M.Seed} {R : SessionInner M -> Prop}
    {Q : Blob M -> SessionInner M -> Prop}
    {E : TwoMlsPqError -> SessionInner M -> Prop}
    (hmissing : s₀.half .sendClassical = none -> forall e, E e (dequeued s₀))
    (hround : forall g, s₀.half .sendClassical = some g ->
      Op.Triple (fun s => s = dequeued s₀)
        (if commitDue s₀ then commitRound s₀.msg.queuedProposal (rnd 0) else pure ())
        (fun _ => R) E)
    (hpropose : forall s₁, R s₁ ->
      Op.Triple (fun s => s = s₁) (stageSelfUpdate selected rnd) Q E) :
    Op.Triple (fun s => s = s₀) (prepareRatchetCommit selected rnd)
      (fun r s => exists b, r.proposalMessage = some b ∧ Q b s) E := by
  unfold prepareRatchetCommit
  refine Op.Triple.reading fun s hs => ?_
  subst hs
  dsimp only
  refine Op.Triple.bind (Q := fun _ s' => s' = dequeued s) ?_ fun _ => ?_
  · apply Op.Triple.update
    intro s' hs'
    rw [hs']
    rfl
  refine Op.Triple.bind
    (Q := fun licensed s' => licensed = peerCaughtUp s ∧ s' = dequeued s ∧
      exists g, s.half .sendClassical = some g) ?_ fun licensed => ?_
  · rintro s' rfl
    have hstill := still_peerAppliedOurSendEpoch (dequeued s)
    rw [hstill]
    cases hresult : (peerAppliedOurSendEpoch.run (dequeued s)).1 with
    | ok licensed =>
        have hlicensed := run_peerAppliedOurSendEpoch hresult
        refine ⟨hlicensed, rfl, ?_⟩
        cases held : s.half .sendClassical with
        | some g => exact ⟨g, rfl⟩
        | none =>
            unfold peerAppliedOurSendEpoch at hresult
            rw [Op.run_bind, run_readHalf_missing (show (dequeued s).half .sendClassical =
              none from held)] at hresult
            cases hresult
    | error e =>
        cases held : s.half .sendClassical with
        | none => exact hmissing held e
        | some g =>
            unfold peerAppliedOurSendEpoch at hresult
            rw [Op.run_bind, run_readHalf (show (dequeued s).half .sendClassical = some g
              from held)] at hresult
            cases hresult
  · refine Op.Triple.bind (Q := fun _ => R) ?_ fun _ => ?_
    · rintro s' ⟨rfl, rfl, g, held⟩
      exact hround g held (dequeued s) rfl
    refine Op.Triple.bind (Q := Q) (fun s' hs' => hpropose s' hs' s' rfl)
      fun proposal => ?_
    refine Op.Triple.reading fun s' hs' => ?_
    apply Op.Triple.value
    intro s'' hs''
    rw [hs'']
    exact ⟨proposal, rfl, hs'⟩

theorem triple_prepareInner {s₀ : SessionInner M} {selected : Option Bytes}
    {rnd : Nat -> M.Seed} {Q : PrepareEncryptResult M -> SessionInner M -> Prop}
    {E : TwoMlsPqError -> SessionInner M -> Prop}
    (hgate : ¬ Delegated s₀ -> forall e, E e s₀)
    (hpre : s₀.recvGroup.isNone = true ->
      Op.Triple (fun s => s = s₀) (preparePreEstablishment selected) Q E)
    (hratchet : Delegated s₀ -> s₀.recvGroup.isNone = false ->
      Op.Triple (fun s => s = s₀) (prepareRatchetCommit selected rnd) Q E)
    (hlisten : forall r, Op.Triple (Q r) recordListenRendezvous (fun _ => Q r) E)
    (hrewrap : forall r seed, Op.Triple (Q r) (rewrapSideBand seed) (fun _ => Q r) E) :
    Op.Triple (fun s => s = s₀) (prepareToEncryptInner selected rnd) Q E := by
  unfold prepareToEncryptInner
  refine Op.Triple.bind (Q := fun _ s => Delegated s₀ ∧ s = s₀) ?_ fun _ => ?_
  · rintro s rfl
    unfold ensureEstablishmentDelegated
    rw [Op.run_bind, Op.run_state]
    dsimp only
    rcases Classical.em (Delegated s) with hdelegated | hdelegated
    · have hpassed := hdelegated
      unfold Delegated at hdelegated
      rw [Op.run_ensure hdelegated]
      exact ⟨hpassed, rfl⟩
    · have hrefused := hgate hdelegated
      unfold Delegated at hdelegated
      rw [Op.run_ensure_not hdelegated]
      exact hrefused _
  refine Op.Triple.assume fun hdelegated => Op.Triple.reading fun s hs => ?_
  subst hs
  refine Op.Triple.bind (Q := Q) ?_ fun result => ?_
  · apply Op.Triple.ite
    · exact hpre
    · exact fun hrecv => hratchet hdelegated (Bool.eq_false_iff.mpr hrecv)
  refine Op.Triple.bind (hlisten result) fun _ => ?_
  refine Op.Triple.bind (hrewrap result _) fun _ => ?_
  exact Op.Triple.value fun _ hs => hs

theorem quiet_encodeBlob (L : Lawful M) (kind : BlobKind) :
    QuietOp (encodeBlob kind : SessionOp M (Archive M)) := by
  intro s
  have hvia := via_encodeBlob L (A := quietEvents) (p := fun _ => True) True.intro
    (Stable.const True) kind
  have hpath := hvia.goes (s := s) True.intro
  refine hpath.invariant (I := Quiet s.core) ?_ (Quiet.refl _)
  intro e c c' he hstep hc
  cases hstep with
  | quiet hq => exact hc.trans hq
  | _ => exact he.elim

theorem keeps_encodeAndPush {I : SessionInner M -> Prop} {kind : BlobKind}
    (hencode : Op.Keeps I (encodeBlob kind)) :
    Op.Keeps (fun t : TwoMlsPqSession M => I t.inner) (encodeAndPush kind) := by
  unfold encodeAndPush
  refine Op.Keeps.looking Op.Still.state fun t => ?_
  apply Op.Keeps.ite
  · refine Op.Keeps.bind (fun t' ht' => hencode t'.inner ht') fun archive => ?_
    exact Op.Keeps.update fun _ h => h
  · exact Op.Keeps.value ()

/-- The state a persisted operation starts in: the counter is advanced, as long as
it lasts. -/
def entered (t : TwoMlsPqSession M) : SessionInner M :=
  if t.inner.stateSeq < maxSeq then (bumped t).inner else t.inner

theorem triple_mutateAndPersist {k : BlobKind}
    {x : SessionOp M α} {t₀ : TwoMlsPqSession M}
    {Q : α -> SessionInner M -> Prop} {E : TwoMlsPqError -> SessionInner M -> Prop}
    (hx : Op.Triple (fun s => s = entered t₀) x Q E)
    (hencodes : forall a (t : TwoMlsPqSession M), Q a t.inner ->
      ((encodeAndPush k).run t).1 = .ok () ∨ forall e, E e t.inner)
    (hQ : forall a, Op.Keeps (Q a) (encodeBlob k))
    (hE : forall e, Op.Keeps (E e) (encodeBlob k)) :
    Op.Triple (fun t => t = t₀) (mutateAndPersist k x)
      (fun a t => Q a t.inner) fun e t => E e t.inner := by
  have hlocked : Op.Triple (fun t : TwoMlsPqSession M => t.inner = entered t₀) (locked x)
      (fun a t => Q a t.inner) fun e t => E e t.inner :=
    fun t ht => hx t.inner ht
  unfold mutateAndPersist
  refine Op.Triple.bind (Q := fun _ t => t.inner = entered t₀) ?_ fun bumped => ?_
  · rintro t rfl
    unfold entered
    by_cases hseq : t.inner.stateSeq < maxSeq
    · rw [run_bumpSeq_lt hseq, if_pos hseq]
    · rw [run_bumpSeq_exhausted hseq, if_neg hseq]
  apply Op.Triple.ite
  · intro _
    refine Op.Triple.bind (Op.Triple.attempt hlocked) fun result => ?_
    cases result with
    | error e =>
        refine Op.Triple.bind (Q := fun _ t => E e t.inner) ?_ fun encoded => ?_
        · exact Op.Triple.ofKeeps (keeps_encodeAndPush (hE e)).attempt
        · exact Op.Triple.fail fun _ ht => ht
    | ok a =>
        refine Op.Triple.bind
          (Q := fun encoded t => Q a t.inner ∧
            forall e, encoded = .error e -> E e t.inner) ?_ fun encoded => ?_
        · intro t ht
          have hkept := keeps_encodeAndPush (hQ a) t ht
          rw [Op.run_attempt]
          refine ⟨hkept, ?_⟩
          intro e he
          rcases hencodes a t ht with hok | hfails
          · rw [hok] at he
            cases he
          · exact keeps_encodeAndPush (hE e) t (hfails e)
        · cases encoded with
          | ok _ => exact Op.Triple.value fun _ ht => ht.1
          | error e => exact Op.Triple.fail fun _ ht => ht.2 e rfl
  · exact fun _ => hlocked

/-!
## Nothing committed
-/

theorem Uncommitted.epoch {s₀ s : SessionInner M} (h : Uncommitted s₀ s) :
    s.core.epoch .sendClassical = s₀.core.epoch .sendClassical :=
  h.send.epoch

theorem uncommitted_dequeued (s : SessionInner M) : Uncommitted s (dequeued s) where
  send := HalfQuiet.refl _
  staple := rfl
  owed := rfl
  theirState := rfl
  theirs := rfl

theorem untouched_dequeued (s : SessionInner M) : Untouched s (dequeued s) := by
  refine ⟨?_, uncommitted_dequeued s, rfl⟩
  constructor
  · exact HalfQuiet.refl _
  · exact HalfQuiet.refl _
  · rfl
  · rfl
  · rfl
  · rfl
  · exact Or.inr rfl
  · exact fun _ => rfl

theorem QuietOp.uncommitted {x : SessionOp M α} {W : List Slot} (hx : QuietOp x)
    (htouches : Touches W x) (hW : .rotation ∉ W) (s₀ : SessionInner M) :
    Op.Keeps (Uncommitted s₀) x :=
  fun s hs => hs.quiet (hx s) (htouches s .rotation hW)

theorem Uncommitted.sameSend {s₀ s s' : SessionInner M} (h : Uncommitted s₀ s)
    (hsend : s'.half .sendClassical = s.half .sendClassical)
    (hstaple : s'.msg.currentStaple = s.msg.currentStaple)
    (howed : s'.round.owedBind = s.round.owedBind)
    (htheirState : s'.rotation.theirState = s.rotation.theirState)
    (htheirs : s'.services.auth.theirs = s.services.auth.theirs) :
    Uncommitted s₀ s' where
  send := by
    rw [hsend]
    exact h.send
  staple := hstaple.trans h.staple
  owed := howed.trans h.owed
  theirState := htheirState.trans h.theirState
  theirs := htheirs.trans h.theirs

theorem uncommitted_onRecv (s₀ : SessionInner M) (missing : TwoMlsPqError)
    (err : MlsError -> TwoMlsPqError)
    (f : MlsEnv -> M.Group -> Except MlsError α × M.Group) :
    Op.Keeps (Uncommitted s₀) (callHalf .recvClassical missing err f) := by
  intro s hs
  have htouches := touches_callHalf (W := [.half .recvClassical]) .recvClassical missing
    err f (by decide) s
  refine hs.sameSend ?_ ?_ ?_ ?_ ?_
  · exact htouches (.half .sendClassical) (by decide)
  · exact congrArg MessageState.currentStaple (htouches .msg (by decide))
  · exact congrArg RoundState.owedBind (htouches .round (by decide))
  · exact congrArg RotationState.theirState (htouches .rotation (by decide))
  · exact congrArg (fun sv => sv.auth.theirs) (htouches .services (by decide))

theorem uncommitted_admitCandidate (s₀ : SessionInner M) (id : Bytes)
    (rnd : Nat -> M.Seed) :
    Op.Keeps (Uncommitted s₀) (admitCandidate id rnd) := by
  unfold admitCandidate stageOrDefer
  refine Op.Keeps.looking (Op.Still.ensure _ _) fun _ => ?_
  refine Op.Keeps.looking Op.Still.state fun s => ?_
  apply Op.Keeps.ite
  · exact Op.Keeps.value ()
  · refine Op.Keeps.bind ?_ fun _ => ?_
    · refine Op.Keeps.looking Op.Still.state fun s' => ?_
      apply Op.Keeps.ite
      · refine Op.Keeps.looking (Op.Still.ofExcept _) fun candidate => ?_
        exact Op.Keeps.update fun s hs => hs.sameSend rfl rfl rfl rfl rfl
      · exact Op.Keeps.update fun s hs => hs.sameSend rfl rfl rfl rfl rfl
    · exact Op.Keeps.update fun s hs => hs.sameSend rfl rfl rfl rfl rfl

theorem uncommitted_stageSelfUpdate (s₀ : SessionInner M) (selected : Option Bytes)
    (rnd : Nat -> M.Seed) :
    Op.Keeps (Uncommitted s₀) (stageSelfUpdate selected rnd) := by
  unfold stageSelfUpdate
  refine Op.Keeps.bind ?_ fun chosen => ?_
  · unfold selectCandidate
    refine Op.Keeps.looking Op.Still.state fun s => ?_
    cases selected with
    | some id =>
        exact Op.Keeps.bind (uncommitted_admitCandidate s₀ id _) fun _ =>
          Op.Keeps.value _
    | none =>
        dsimp only
        apply Op.Keeps.ite
        · cases s.rotation.deferredCandidate with
          | some id =>
              refine Op.Keeps.bind ?_ fun _ => ?_
              · exact Op.Keeps.update fun s hs => hs.sameSend rfl rfl rfl rfl rfl
              · exact Op.Keeps.bind (uncommitted_admitCandidate s₀ id _) fun _ =>
                  Op.Keeps.value _
          | none => exact Op.Keeps.value _
        · exact Op.Keeps.value _
  refine Op.Keeps.looking (still_proposingClient _) fun candidate => ?_
  refine Op.Keeps.bind ?_ fun proposal => ?_
  · unfold proposeSelfUpdate
    refine Op.Keeps.looking (still_readHalf _ _) fun recv => ?_
    refine Op.Keeps.looking (Op.Still.ofExcept _) fun leafId => ?_
    refine Op.Keeps.looking Op.Still.state fun s => ?_
    refine Op.Keeps.bind (uncommitted_onRecv s₀ _ _ _) fun proposal => ?_
    exact Op.Keeps.still (Op.Still.ofExcept _)
  refine Op.Keeps.bind ?_ fun _ => Op.Keeps.value _
  exact Op.Keeps.update fun s hs => hs.sameSend rfl rfl rfl rfl rfl

theorem uncommitted_preparePreEstablishment (s₀ : SessionInner M)
    (selected : Option Bytes) :
    Op.Keeps (Uncommitted s₀) (preparePreEstablishment selected) := by
  unfold preparePreEstablishment
  refine Op.Keeps.looking (Op.Still.ensure _ _) fun _ => ?_
  refine Op.Keeps.looking Op.Still.state fun s => ?_
  refine Op.Keeps.looking (Op.Still.ensure _ _) fun _ => ?_
  refine Op.Keeps.looking (Op.Still.ofOption _ _) fun welcome => ?_
  refine Op.Keeps.bind ?_ fun _ => Op.Keeps.value _
  exact Op.Keeps.update fun s hs => hs.sameSend rfl rfl rfl rfl rfl

theorem uncommitted_mintLeg (L : Lawful M) (kind : PqFrameKind) (payload : Bytes)
    (seed : M.Seed) (s₀ : SessionInner M) :
    Op.Keeps (Uncommitted s₀) (mintLeg kind payload seed) :=
  QuietOp.uncommitted (quiet_mintLeg L kind payload seed)
    (touches_mintLeg kind payload seed) (by decide) s₀

theorem uncommitted_rewrapSideBand (L : Lawful M) (s₀ : SessionInner M)
    (seed : M.Seed) :
    Op.Keeps (Uncommitted s₀) (rewrapSideBand seed) := by
  unfold rewrapSideBand
  refine Op.Keeps.looking Op.Still.state fun s => ?_
  split
  · apply Op.Keeps.ite
    · refine Op.Keeps.bind (uncommitted_mintLeg L _ _ seed s₀).attempt fun minted => ?_
      cases minted with
      | ok frame =>
          exact Op.Keeps.update fun s hs => hs.sameSend rfl rfl rfl rfl rfl
      | error e => exact Op.Keeps.value ()
    · exact Op.Keeps.value ()
  · exact Op.Keeps.value ()

theorem completes_rewrapSideBand {I : SessionInner M -> Prop} {seed : M.Seed}
    (hkeeps : Op.Keeps I (rewrapSideBand seed)) :
    Op.Completes I (rewrapSideBand seed) fun _ => I := by
  intro s hs
  have hkept := hkeeps s hs
  have hok : exists a, ((rewrapSideBand seed).run s).1 = .ok a := by
    unfold rewrapSideBand
    rw [Op.run_bind, Op.run_state]
    dsimp only
    split
    · split
      next due kind payload hdue hlive hkind =>
        rw [Op.run_bind, Op.run_attempt]
        dsimp only
        cases ((mintLeg kind payload seed).run s).1 with
        | ok frame => exact ⟨(), rfl⟩
        | error e => exact ⟨(), rfl⟩
      · exact ⟨(), rfl⟩
    · exact ⟨(), rfl⟩
  rcases hok with ⟨a, ha⟩
  rw [ha]
  exact hkept

/-!
## Behind an applied commit
-/

theorem holdsSend_of_half {s : SessionInner M}
    (h : (s.half .sendClassical).isSome = true) :
    HoldsSend s := by
  unfold HoldsSend
  unfold SessionInner.half at h
  simpa using h

theorem senderClientId_undisturbed {g g' : M.Group} (same : Undisturbed g g') :
    senderClientId g' (M.currentMemberIndex g') =
      senderClientId g (M.currentMemberIndex g) := by
  rw [same.memberIndex]
  exact senderClientId_leafAt (same.leafAt_eq _)

theorem Committed.chosen {theirs : PartySequence} {s₀ s : SessionInner M}
    (h : Committed theirs s₀ s) (selected : Option Bytes) :
    chosenCandidate s selected = chosenCandidate s₀ selected := by
  unfold chosenCandidate
  rw [h.staged, h.deferred]

theorem Committed.proposable {theirs : PartySequence} {s₀ s : SessionInner M}
    (h : Committed theirs s₀ s) (selected : Option Bytes) :
    Proposable s selected ↔ Proposable s₀ selected := by
  unfold Proposable isStaged
  rw [h.chosen, h.staged, h.deferred]

theorem Committed.admissible {theirs : PartySequence} {s₀ s : SessionInner M}
    (h : Committed theirs s₀ s) {chosen : Option Bytes}
    (hadmits : AdmissibleUpdate s₀ chosen) :
    AdmissibleUpdate s chosen := by
  intro g held
  have hrecv := h.recv
  cases held₀ : s₀.half .recvClassical with
  | none =>
      rw [held₀] at hrecv
      rw [hrecv.none_left] at held
      cases held
  | some g₀ =>
      rw [held₀] at hrecv
      rcases hrecv.some_left with ⟨g', held', same⟩
      rw [held] at held'
      cases held'
      rcases hadmits g₀ held₀ with ⟨leafId, hleaf, hvalid⟩
      refine ⟨leafId, (senderClientId_undisturbed same).trans hleaf, ?_⟩
      rw [h.client]
      unfold admittedMine isStaged at hvalid ⊢
      rw [h.staged, h.mine]
      exact hvalid

theorem Committed.recvHeld {theirs : PartySequence} {s₀ s : SessionInner M}
    (h : Committed theirs s₀ s) (hrecv : s₀.recvGroup.isNone = false) :
    (s.half .recvClassical).isSome = true := by
  have hquiet := h.recv
  cases held₀ : s₀.half .recvClassical with
  | none =>
      unfold SessionInner.half at held₀
      simp_all
  | some g₀ =>
      rw [held₀] at hquiet
      rcases hquiet.some_left with ⟨g', held', -⟩
      rw [held']
      rfl

theorem holdsSend_stageSelfUpdate (selected : Option Bytes) (rnd : Nat -> M.Seed) :
    Op.Keeps HoldsSend (stageSelfUpdate selected rnd) := by
  intro s hs
  apply holdsSend_of_half
  rw [(touches_stageSelfUpdate selected rnd).half (by decide)]
  exact (holds_sendClassical hs).2

/-- The library takes the commit that is due. -/
def CommitTaken (s : SessionInner M) (seed : M.Seed) : Prop :=
  ((commitRound s.msg.queuedProposal seed).run (dequeued s)).1 = .ok ()

theorem CommitTaken.held {s : SessionInner M} {seed : M.Seed}
    (h : CommitTaken s seed) :
    exists g, s.half .sendClassical = some g := by
  cases held : s.half .sendClassical with
  | some g => exact ⟨g, rfl⟩
  | none =>
      have hmissing : (dequeued s).half .sendClassical = none := held
      unfold CommitTaken commitRound rememberSendPsk at h
      rw [Op.run_bind, Op.run_bind, run_readHalf_missing hmissing] at h
      cases h

theorem CommitTaken.moves (L : Lawful M) {s : SessionInner M} {seed : M.Seed}
    (happroved : ApprovedProposal s.msg.queuedProposal) (h : CommitTaken s seed) :
    Committed (foldedTheirs s.msg.queuedProposal s) s
      ((commitRound s.msg.queuedProposal seed).run (dequeued s)).2 := by
  rcases h.held with ⟨g, held⟩
  exact (triple_commitRound L (serves_any M) held (fun _ _ => Or.inl True.intro)
    happroved seed).ok (untouched_dequeued s) h

/-!
## An abandoned prepare
-/

structure Authorizes (q q' : PartySequence) : Prop where
  history : q'.history = q.history
  pinned : q'.pinned = q.pinned
  authorized : q.authorizedNext <+: q'.authorizedNext

theorem Authorizes.refl (q : PartySequence) : Authorizes q q :=
  ⟨rfl, rfl, List.prefix_rfl⟩

theorem Authorizes.authorize {q q' : PartySequence} (h : Authorizes q q') (id : Bytes) :
    Authorizes q (q'.authorize id) := by
  unfold PartySequence.authorize
  split
  · exact h
  · exact ⟨h.history, h.pinned, h.authorized.trans (List.prefix_append _ _)⟩

/-- What a prepare leaves that has neither committed nor proposed: the queue may have
been dropped, and candidates may have been staged and authorized. -/
structure Abandoned (s₀ s : SessionInner M) : Prop where
  aside : s.aside () = s₀.aside ()
  send : HalfQuiet (s₀.half .sendClassical) (s.half .sendClassical)
  recv : HalfQuiet (s₀.half .recvClassical) (s.half .recvClassical)
  queue : s.msg.queuedProposal = s₀.msg.queuedProposal ∨ s.msg.queuedProposal = none
  staged : s₀.rotation.stagedCandidates <+: s.rotation.stagedCandidates
  mine : Authorizes s₀.services.auth.mine s.services.auth.mine
  theirs : s.services.auth.theirs = s₀.services.auth.theirs
  adopting : s.services.auth.adopting = s₀.services.auth.adopting

namespace Abandoned

variable {s₀ s : SessionInner M}

theorem refl (s : SessionInner M) : Abandoned s s where
  aside := rfl
  send := HalfQuiet.refl _
  recv := HalfQuiet.refl _
  queue := Or.inl rfl
  staged := List.prefix_rfl
  mine := Authorizes.refl _
  theirs := rfl
  adopting := rfl

theorem dequeued (s : SessionInner M) : Abandoned s (Session.dequeued s) :=
  { refl s with queue := Or.inr rfl }

theorem uncommitted (h : Abandoned s₀ s) : Uncommitted s₀ s where
  send := h.send
  staple := congrArg (fun a => a.msg.currentStaple) h.aside
  owed := congrArg (fun a => a.round.owedBind) h.aside
  theirState := congrArg Aside.theirState h.aside
  theirs := h.theirs

theorem quiet {x : SessionOp M α} {W : List Slot} (hx : QuietOp x)
    (htouches : Touches W x) (hrotation : .rotation ∉ W) (hmsg : .msg ∉ W)
    (haside : SparesAside x) (s₀ : SessionInner M) :
    Op.Keeps (Abandoned s₀) x := by
  intro s h
  have hq := hx s
  have hauth : (x.run s).2.services.auth = s.services.auth := congrArg Core.auth hq.2
  have hrot : (x.run s).2.rotation = s.rotation := htouches s .rotation hrotation
  have hkept : (x.run s).2.msg = s.msg := htouches s .msg hmsg
  constructor
  · exact (haside s () List.not_mem_nil).trans h.aside
  · exact h.send.trans (hq.1 .sendClassical)
  · exact h.recv.trans (hq.1 .recvClassical)
  · rw [hkept]
    exact h.queue
  · rw [hrot]
    exact h.staged
  · rw [hauth]
    exact h.mine
  · rw [hauth]
    exact h.theirs
  · rw [hauth]
    exact h.adopting

end Abandoned

theorem Untouched.abandoned {s₀ s : SessionInner M} (h : Untouched s₀ s) :
    Abandoned s₀ s where
  aside := h.2.2
  send := h.1.send
  recv := h.1.recv
  queue := h.1.queue
  staged := by
    have hsame : s₀.rotation.stagedCandidates = s.rotation.stagedCandidates :=
      congrArg RotationState.stagedCandidates h.1.rotation.symm
    exact hsame ▸ List.prefix_rfl
  mine := by
    rw [h.1.auth]
    exact Authorizes.refl _
  theirs := by rw [h.1.auth]
  adopting := by rw [h.1.auth]

theorem abandoned_admitCandidate (s₀ : SessionInner M) (id : Bytes)
    (rnd : Nat -> M.Seed) :
    Op.Keeps (Abandoned s₀) (admitCandidate id rnd) := by
  unfold admitCandidate stageOrDefer
  refine Op.Keeps.looking (Op.Still.ensure _ _) fun _ => ?_
  refine Op.Keeps.looking Op.Still.state fun s => ?_
  apply Op.Keeps.ite
  · exact Op.Keeps.value ()
  · refine Op.Keeps.bind ?_ fun _ => ?_
    · refine Op.Keeps.looking Op.Still.state fun s' => ?_
      apply Op.Keeps.ite
      · refine Op.Keeps.looking (Op.Still.ofExcept _) fun candidate => ?_
        exact Op.Keeps.update fun s hs =>
          { hs with
            staged := hs.staged.trans (List.prefix_append _ _)
            mine := hs.mine.authorize id }
      · exact Op.Keeps.update fun s hs => { hs with }
    · exact Op.Keeps.update fun s hs => { hs with }

theorem abandoned_selectCandidate (s₀ : SessionInner M) (selected : Option Bytes)
    (rnd : Nat -> M.Seed) :
    Op.Keeps (Abandoned s₀) (selectCandidate selected rnd) := by
  unfold selectCandidate
  refine Op.Keeps.looking Op.Still.state fun s => ?_
  cases selected with
  | some id =>
      exact Op.Keeps.bind (abandoned_admitCandidate s₀ id _) fun _ => Op.Keeps.value _
  | none =>
      dsimp only
      apply Op.Keeps.ite
      · cases s.rotation.deferredCandidate with
        | some id =>
            refine Op.Keeps.bind (Op.Keeps.update fun s hs => { hs with }) fun _ => ?_
            exact Op.Keeps.bind (abandoned_admitCandidate s₀ id _) fun _ =>
              Op.Keeps.value _
        | none => exact Op.Keeps.value _
      · exact Op.Keeps.value _

theorem Abandoned.setRecv {s₀ s : SessionInner M} (h : Abandoned s₀ s) {g g' : M.Group}
    (held : s.half .recvClassical = some g) (same : Undisturbed g g') :
    Abandoned s₀ (s.setHalf .recvClassical g') := by
  have hrecv := h.recv
  rw [held] at hrecv
  constructor
  · refine Eq.trans ?_ h.aside
    unfold SessionInner.aside
    rw [half_setHalf_other (by decide), half_setHalf_other (by decide)]
    rfl
  · rw [half_setHalf_other (by decide)]
    exact h.send
  · rw [half_setHalf_held held]
    exact hrecv.trans same
  · exact h.queue
  · exact h.staged
  · exact h.mine
  · exact h.theirs
  · exact h.adopting

theorem sparesAside_encodeCore :
    SparesAside (encodeBlob .core : SessionOp M (Archive M)) := by
  have hlisten : SparesAside (recordListenRendezvous : SessionOp M Unit) := by
    unfold recordListenRendezvous
    refine Op.Writes.looking Op.Still.state fun s => ?_
    split
    · exact Op.Writes.value ()
    · dsimp only
      apply Op.Writes.ite
      · exact Op.Writes.value ()
      refine Op.Writes.looking (Op.Still.ofExcept _) fun secret => ?_
      refine Op.Writes.looking (Op.Still.ofExcept _) fun header => ?_
      refine Op.Writes.bind (Op.Writes.update fun _ _ _ => rfl) fun _ => ?_
      refine Op.Writes.bind (sparesAside_exportClassical rfl _ _) fun _ => ?_
      refine Op.Writes.looking (still_readHalf _ _) fun g => ?_
      exact Op.Writes.update fun _ _ _ => rfl
  have homitted : forall h, SparesAside (exportPqHalf h (BlobKind.core == .checkpoint) :
      SessionOp M (Option M.GroupSnapshot)) :=
    fun h => Op.Writes.looking Op.Still.state fun s => Op.Writes.value none
  unfold encodeBlob buildArchiveWire exportSend exportRecv
  refine Op.Writes.looking Op.Still.state fun s => ?_
  refine Op.Writes.bind ?_ fun wire => Op.Writes.value _
  refine Op.Writes.bind hlisten fun _ => ?_
  refine Op.Writes.bind ?_ fun sendGroup => ?_
  · refine Op.Writes.bind (sparesAside_exportClassical rfl _ _) fun classical => ?_
    exact Op.Writes.bind (homitted _) fun pq => Op.Writes.value _
  refine Op.Writes.bind ?_ fun recvGroup => ?_
  · refine Op.Writes.looking Op.Still.state fun s => ?_
    apply Op.Writes.ite
    · exact Op.Writes.value _
    refine Op.Writes.bind (sparesAside_exportClassical rfl _ _) fun classical => ?_
    exact Op.Writes.bind (homitted _) fun pq => Op.Writes.value _
  exact Op.Writes.looking Op.Still.state fun s => Op.Writes.value _

theorem triple_preparePreEstablishment (s₀ : SessionInner M) (selected : Option Bytes) :
    Op.Triple (fun s => s = s₀) (preparePreEstablishment selected) (fun _ _ => True)
      fun _ s => s = s₀ := by
  unfold preparePreEstablishment
  refine Op.Triple.looking (Op.Still.ensure _ _) (fun _ _ hs => hs) fun _ => ?_
  refine Op.Triple.looking Op.Still.state (fun _ _ hs => hs) fun s => ?_
  refine Op.Triple.looking (Op.Still.ensure _ _) (fun _ _ hs => hs) fun _ => ?_
  refine Op.Triple.looking (Op.Still.ofOption _ _) (fun _ _ hs => hs) fun welcome => ?_
  refine Op.Triple.bind (Q := fun _ _ => True) (Op.Triple.update fun _ _ => True.intro)
    fun _ => Op.Triple.value fun _ _ => True.intro

section

variable (L : Lawful M) (T : Dependable M) (V : Serves M fun _ => False)

include L V

omit T in
theorem triple_proposeSelfUpdate_abandoned (s₀ : SessionInner M)
    (candidate : Option (TwoMlsPqPrincipal M)) (seed : M.Seed) :
    Op.Triple (Abandoned s₀) (proposeSelfUpdate candidate seed) (fun _ _ => True)
      fun _ => Abandoned s₀ := by
  unfold proposeSelfUpdate
  refine Op.Triple.looking (still_readHalf _ _) (fun _ _ hs => hs) fun recv => ?_
  refine Op.Triple.looking (Op.Still.ofExcept _) (fun _ _ hs => hs) fun leafId => ?_
  refine Op.Triple.reading fun s hs => ?_
  refine Op.Triple.bind (Q := fun _ _ => True) ?_ fun proposal => ?_
  · rintro s' rfl
    cases held : s'.half .recvClassical with
    | none =>
        unfold callHalf onHalf
        rw [Op.run_ofResult, held]
        exact hs
    | some g =>
        rcases Option.isSome_iff_exists.mp (halfStore_isSome (h := .recvClassical)
          (by rw [held]; rfl)) with ⟨store, hstore⟩
        refine ((triple_calling held hstore _ _ _).weaken (fun _ _ _ => True.intro) ?_) s'
          rfl
        rintro _ s'' ⟨e, g', hfailed, rfl⟩
        refine hs.setRecv held ?_
        have hundisturbed := L.proposeError _ _ _ _ g e (congrArg Prod.fst hfailed)
        rw [hfailed] at hundisturbed
        exact hundisturbed
  · intro s' _
    rcases V.toBytes proposal with hnever | ⟨bytes, hbytes⟩
    · exact hnever.elim
    · rw [Op.run_ofExcept]
      unfold Blob.ofMessage
      rw [hbytes]
      exact True.intro

omit T in
theorem triple_stageSelfUpdate_abandoned (s₀ : SessionInner M) (selected : Option Bytes)
    (rnd : Nat -> M.Seed) :
    Op.Triple (Abandoned s₀) (stageSelfUpdate selected rnd) (fun _ _ => True)
      fun _ => Abandoned s₀ := by
  unfold stageSelfUpdate
  refine Op.Triple.bind (Op.Triple.ofKeeps (abandoned_selectCandidate s₀ selected _))
    fun chosen => ?_
  refine Op.Triple.looking (still_proposingClient _) (fun _ _ hs => hs) fun candidate => ?_
  refine Op.Triple.bind (triple_proposeSelfUpdate_abandoned L V s₀ candidate _)
    fun proposal => ?_
  refine Op.Triple.bind (Q := fun _ _ => True) (Op.Triple.update fun _ _ => True.intro)
    fun _ => Op.Triple.value fun _ _ => True.intro

theorem triple_prepareRatchetCommit_whole {s₀ : SessionInner M}
    {selected : Option Bytes} (hsend : HoldsSend s₀) (hrecv : s₀.recvGroup.isNone = false)
    (happroved : ApprovedProposal s₀.msg.queuedProposal)
    {rnd : Nat -> M.Seed}
    (hwhole : commitDue s₀ = true ->
      (forall g, s₀.half .sendClassical = some g -> (M.roster g).length = 2) ∧
        (CommitTaken s₀ (rnd 0) -> Proposable s₀ selected ∧
          AdmissibleUpdate s₀ (chosenCandidate s₀ selected))) :
    Op.Triple (fun s => s = s₀) (prepareRatchetCommit selected rnd)
      (fun _ s => HoldsSend s) fun e s => e = .bindDischargeFailed ∨ Abandoned s₀ s := by
  let theirs := foldedTheirs s₀.msg.queuedProposal s₀
  refine (triple_prepareParts
    (R := fun s =>
      (commitDue s₀ = true ∧ CommitTaken s₀ (rnd 0) ∧ Committed theirs s₀ s) ∨
        s = dequeued s₀)
    (Q := fun _ s => HoldsSend s) ?_ ?_ ?_).post ?_
  · exact fun _ e => Or.inr (Abandoned.dequeued s₀)
  · intro g held
    apply Op.Triple.ite
    · intro hdue
      rcases hwhole hdue with ⟨hpaired, -⟩
      have hround := triple_commitRound L V held
        (fun g' held' => Or.inr (hpaired g' held')) happroved (rnd 0) (dequeued s₀)
        (untouched_dequeued s₀)
      rintro s rfl
      cases hresult :
          ((commitRound s₀.msg.queuedProposal (rnd 0)).run (dequeued s₀)).1 with
      | ok a =>
          rw [hresult] at hround
          exact Or.inl ⟨hdue, hresult, hround⟩
      | error e =>
          rw [hresult] at hround
          rcases hround with ⟨-, hfatal | hkept⟩ | ⟨hfatal | hnever, -⟩
          · exact Or.inl hfatal
          · exact Or.inr hkept.abandoned
          · exact Or.inl hfatal
          · exact hnever.elim
    · intro _
      exact Op.Triple.value fun s hs => Or.inr hs
  · intro s₁ hs₁
    have hstays : HoldsSend s₁ := by
      rcases hs₁ with ⟨-, -, hcommitted⟩ | rfl
      · exact holdsSend_of_half hcommitted.held
      · exact hsend
    have hholds : Op.Triple (fun s => s = s₁) (stageSelfUpdate selected rnd)
        (fun _ => HoldsSend) fun _ _ => True :=
      ((Op.Triple.ofKeeps (holdsSend_stageSelfUpdate selected rnd)).weaken
        (fun _ _ hs => hs) fun _ _ _ => True.intro).pre fun s hs => hs ▸ hstays
    have hfails : Op.Triple (fun s => s = s₁) (stageSelfUpdate selected rnd)
        (fun _ _ => True) fun _ => Abandoned s₀ := by
      rcases hs₁ with ⟨hdue, htaken, hcommitted⟩ | rfl
      · rcases (hwhole hdue).2 htaken with ⟨hproposable, hadmits⟩
        rw [← hcommitted.chosen] at hadmits
        exact (triple_stageSelfUpdate V L
          ((hcommitted.proposable selected).mpr hproposable)
          (Or.inr (hcommitted.admissible hadmits)) (hcommitted.recvHeld hrecv)
          rnd).weaken (fun _ _ _ => True.intro) fun _ _ hnever => hnever.elim
      · exact (triple_stageSelfUpdate_abandoned L V s₀ selected rnd).pre fun s hs =>
          hs ▸ Abandoned.dequeued s₀
    exact ((hholds.both hfails fun _ _ _ hs => Or.inr hs).weaken (fun _ _ hs => hs.1)
      fun _ _ hs => hs).pre fun s hs => ⟨hs, hs⟩
  · rintro r s ⟨b, -, hs⟩
    exact hs

/-- The call passes its gate into an established session and has something to
commit. -/
def CommitsFirst (t : TwoMlsPqSession M) : Prop :=
  Delegated t.inner ∧ t.inner.recvGroup.isSome = true ∧ commitDue t.inner = true

omit L V in
theorem entered_counter (t : TwoMlsPqSession M) :
    exists n, entered t = { t.inner with stateSeq := n } := by
  unfold entered
  split
  · exact ⟨_, rfl⟩
  · exact ⟨t.inner.stateSeq, rfl⟩

omit V in
theorem abandoned_encodeCore (s₀ : SessionInner M) :
    Op.Keeps (Abandoned s₀) (encodeBlob .core) :=
  Abandoned.quiet (quiet_encodeBlob L .core) touches_encodeCore (by decide) (by decide)
    sparesAside_encodeCore s₀

include T in
theorem triple_prepareToEncrypt_whole {t : TwoMlsPqSession M} {selected : Option Bytes}
    {rnd : Nat -> M.Seed} (hsend : HoldsSend t.inner)
    (happroved : ApprovedProposal t.inner.msg.queuedProposal)
    (hwhole : CommitsFirst t ->
      (forall g, t.inner.half .sendClassical = some g -> (M.roster g).length = 2) ∧
        (CommitTaken (entered t) (rnd 0) -> Proposable t.inner selected ∧
          AdmissibleUpdate t.inner (chosenCandidate t.inner selected))) :
    Op.Triple (fun t' => t' = t) (prepareToEncrypt selected rnd) (fun _ _ => True)
      fun e t' => e = .bindDischargeFailed ∨ Abandoned t.inner t'.inner := by
  rcases entered_counter t with ⟨n, hentered⟩
  have hstays : HoldsSend (entered t) := by
    rw [hentered]
    exact hsend
  have hinner : Op.Triple (fun s => s = entered t) (prepareToEncryptInner selected rnd)
      (fun _ => HoldsSend)
      fun e s => e = .bindDischargeFailed ∨ Abandoned (entered t) s := by
    apply triple_prepareInner
    · exact fun _ e => Or.inr (Abandoned.refl _)
    · intro _
      have hholds : Op.Triple (fun s => s = entered t) (preparePreEstablishment selected)
          (fun _ => HoldsSend) fun _ _ => True := by
        rintro s rfl
        have hkept : HoldsSend ((preparePreEstablishment selected).run (entered t)).2 := by
          apply holdsSend_of_half
          rw [(touches_preparePreEstablishment selected).half (by decide)]
          exact (holds_sendClassical hstays).2
        cases ((preparePreEstablishment selected).run (entered t)).1 with
        | ok r => exact hkept
        | error e => exact True.intro
      exact ((hholds.both (triple_preparePreEstablishment (entered t) selected)
        fun _ _ _ hs => Or.inr (hs ▸ Abandoned.refl _)).weaken (fun _ _ hs => hs.1)
          fun _ _ hs => hs).pre fun s hs => ⟨hs, hs⟩
    · intro hdelegated hrecv
      apply triple_prepareRatchetCommit_whole L V hstays hrecv
      · rw [hentered]
        exact happroved
      · rw [hentered] at hdelegated hrecv hwhole ⊢
        intro hdue
        exact hwhole ⟨hdelegated, by simpa [Option.isSome_iff_ne_none] using hrecv, hdue⟩
    · exact fun _ => (completes_recordListenRendezvous T).weaken (fun _ _ hs => hs)
        fun _ _ he => he.elim
    · exact fun _ seed => (completes_rewrapSideBand (holdsSend_rewrapSideBand seed)).weaken
        (fun _ _ hs => hs) fun _ _ he => he.elim
  have hdoor := triple_mutateAndPersist (k := .core) hinner
    (fun _ t' hs => Or.inl (encodeAndPush_ok T .core hs)) (fun _ s hs => ?_)
    (fun e s hs => hs.imp id (abandoned_encodeCore L (entered t) s))
  · refine hdoor.weaken (fun _ _ _ => True.intro) fun e t' he => ?_
    rw [hentered] at he
    exact he.imp id fun h => { h with }
  · have hkept := (completes_encodeBlob T .core) s hs
    cases hresult : ((encodeBlob .core).run s).1 with
    | ok a =>
        rw [hresult] at hkept
        exact hkept
    | error e =>
        rw [hresult] at hkept
        exact hkept.elim

end

/-!
## A commit with nothing behind it
-/

def SendMoved (s₀ s : SessionInner M) : Prop :=
  exists g g',
    s₀.half .sendClassical = some g ∧ s.half .sendClassical = some g' ∧
      M.currentEpoch g' = M.currentEpoch g + 1

theorem QuietOp.sendMoved {x : SessionOp M α} (hx : QuietOp x) (s₀ : SessionInner M) :
    Op.Keeps (SendMoved s₀) x := by
  rintro s ⟨g, g', held₀, held, hepoch⟩
  rcases (hx s).half_some (h := .sendClassical) held with ⟨g'', held', same⟩
  exact ⟨g, g'', held₀, held', same.epoch.trans hepoch⟩

/-- With the commit taken and no candidate to propose, the call fails behind the
commit. -/
theorem triple_prepareRatchetCommit_closed (L : Lawful M) {s₀ : SessionInner M}
    {selected : Option Bytes} {rnd : Nat -> M.Seed}
    (happroved : ApprovedProposal s₀.msg.queuedProposal)
    (hdue : commitDue s₀ = true) (htaken : CommitTaken s₀ (rnd 0))
    (hclosed : ¬ Proposable s₀ selected) :
    Op.Triple (fun s => s = s₀) (prepareRatchetCommit selected rnd)
      (fun _ _ => False)
      fun e s => (e = .invalidClientId ∨ e = .sessionNotReady) ∧ SendMoved s₀ s := by
  refine (triple_prepareParts
    (R := Committed (foldedTheirs s₀.msg.queuedProposal s₀) s₀)
    (Q := fun _ _ => False) ?_ ?_ ?_).post ?_
  · intro hmissing
    rcases htaken.held with ⟨g, held⟩
    rw [held] at hmissing
    cases hmissing
  · intro g held
    rw [if_pos hdue]
    rintro s rfl
    have hmoved := htaken.moves L happroved
    unfold CommitTaken at htaken
    rw [htaken]
    exact hmoved
  · intro s₁ hcommitted
    have hclosed' := mt (hcommitted.proposable selected).mp hclosed
    refine (triple_stageSelfUpdate_closed hclosed' rnd).weaken (fun _ _ hs => hs) ?_
    rintro e s ⟨hhalf, hname⟩
    rcases hcommitted.send with ⟨g, g', held₀, held, hepoch⟩
    rw [← hhalf] at held
    exact ⟨hname, g, g', held₀, held, hepoch⟩
  · rintro r s ⟨b, -, hs⟩
    exact hs

theorem triple_prepareToEncrypt_closed (L : Lawful M) {t : TwoMlsPqSession M}
    {selected : Option Bytes} {rnd : Nat -> M.Seed}
    (happroved : ApprovedProposal t.inner.msg.queuedProposal)
    (hfirst : CommitsFirst t) (htaken : CommitTaken (entered t) (rnd 0))
    (hclosed : ¬ Proposable t.inner selected) :
    Op.Triple (fun t' => t' = t) (prepareToEncrypt selected rnd) (fun _ _ => False)
      fun e t' => (e = .invalidClientId ∨ e = .sessionNotReady) ∧
        SendMoved t.inner t'.inner := by
  rcases entered_counter t with ⟨n, hentered⟩
  rcases hfirst with ⟨hdelegated, hrecv, hdue⟩
  have hinner : Op.Triple (fun s => s = entered t) (prepareToEncryptInner selected rnd)
      (fun _ _ => False)
      fun e s => (e = .invalidClientId ∨ e = .sessionNotReady) ∧
        SendMoved (entered t) s := by
    apply triple_prepareInner
    · intro hnot
      rw [hentered] at hnot
      exact absurd hdelegated hnot
    · intro hnone
      rw [hentered] at hnone
      simp_all
    · intro _ _
      apply triple_prepareRatchetCommit_closed L _ _ htaken
      · rw [hentered]
        exact hclosed
      · rw [hentered]
        exact happroved
      · rw [hentered]
        exact hdue
    · exact fun _ _ hs => hs.elim
    · exact fun _ _ _ hs => hs.elim
  have hdoor := triple_mutateAndPersist (k := .core) hinner
    (fun _ _ hs => hs.elim) (fun _ _ hs => hs.elim)
    fun e s hs => ⟨hs.1, (quiet_encodeBlob L .core).sendMoved _ s hs.2⟩
  refine hdoor.weaken (fun _ _ hs => hs) fun e t' he => ⟨he.1, ?_⟩
  rw [hentered] at he
  exact he.2

/-!
## The send group is there for good
-/

def Sending (c : Core M) : Prop :=
  c.half .sendClassical ≠ none

theorem Sending.stable : Stable (Sending (M := M)) :=
  fun _ _ hq hc => (Step.quiet hq).half_ne_none hc

theorem Sending.recovered {c : Core M} (h : Recovered (fun _ => Sending) c) :
    Sending c := by
  cases h with
  | checkpoint h => exact h
  | spliced h h' => exact h

theorem Sending.restored {c r : Core M} (hc : Sending c) (hr : Restored c r) :
    Sending r := by
  intro hnone
  have hquiet := hr.1 .sendClassical
  rw [hnone] at hquiet
  exact hc hquiet.symm.none_left

theorem Sending.live (L : Lawful M) {t : TwoMlsPqSession M} {a : LifeAction M}
    (happroved : Durable Approved t) (h : Durable Sending t) :
    Durable Sending (t.live a) := by
  cases a with
  | reopen => exact h.reopened L Sending.stable fun _ _ hr hc => hc.restored hr
  | host a =>
      cases a with
      | call call =>
          exact h.advance (call_advances L call t happroved.now)
            fun _ _ _ _ hstep hc => hstep.half_ne_none hc
      | restart =>
          exact h.restarted L (fun _ => Sending.recovered)
            fun _ _ hr hc => hc.restored hr

theorem Born.sending (L : Lawful M) {s : SessionInner M} (born : Born s) :
    Sending s.core := by
  cases born with
  | initiated h =>
      rcases (initiate_born L h).send with ⟨g, held, _⟩
      exact ne_none_of_held held
  | accepted h =>
      rcases (acceptWith_born L h).send with ⟨g, held, _⟩
      exact ne_none_of_held held

theorem holdsSend_life (L : Lawful M) {s : SessionInner M} (born : Born s)
    {t : TwoMlsPqSession M}
    (run : Run TwoMlsPqSession.live (fun _ _ => True) (TwoMlsPqSession.fresh s) t) :
    HoldsSend t.inner := by
  have hdurable : Durable Approved t ∧ Durable Sending t :=
    run.invariant (I := fun t => Durable Approved t ∧ Durable Sending t)
      (fun _ _ h _ => ⟨approved_live L h.1, Sending.live L h.1 h.2⟩)
      ⟨Durable.fresh (approved_unused (born.unused L)),
        Durable.fresh (born.sending L)⟩
  apply holdsSend_of_half
  exact Option.isSome_iff_ne_none.mpr hdurable.2.now

/-!
## The commit stays behind
-/

/-- A call fails with the commit applied only where the update behind the commit
cannot be proposed: an established session that has something to commit leaves
nothing committed behind a failure as long as its send group has two members, the
chosen id is staged or can be staged, and our leaf may move to it; nor does a call
whose commit the library refuses.  What such a call leaves is an abandoned prepare.
And with the commit taken and no candidate at hand, the call fails under a retriable
name behind the commit. -/
theorem failed_prepare_commits_nothing (L : Lawful M) (T : Dependable M)
    (V : Serves M fun _ => False) {s : SessionInner M} (born : Born s)
    {t : TwoMlsPqSession M}
    (run : Run TwoMlsPqSession.live (fun _ _ => True) (TwoMlsPqSession.fresh s) t)
    (proposing : Option Bytes) (rnd : Nat -> M.Seed) :
    ((CommitsFirst t ->
        (forall g, t.inner.half .sendClassical = some g -> (M.roster g).length = 2) ∧
          Proposable t.inner proposing ∧
          AdmissibleUpdate t.inner (chosenCandidate t.inner proposing)) ->
      forall e, ((prepareToEncrypt proposing rnd).run t).1 = .error e ->
        e ≠ .bindDischargeFailed ->
          Uncommitted t.inner ((prepareToEncrypt proposing rnd).run t).2.inner ∧
            Abandoned t.inner ((prepareToEncrypt proposing rnd).run t).2.inner) ∧
    (CommitsFirst t -> ¬ CommitTaken (entered t) (rnd 0) ->
      (forall g, t.inner.half .sendClassical = some g -> (M.roster g).length = 2) ->
        forall e, ((prepareToEncrypt proposing rnd).run t).1 = .error e ->
          e ≠ .bindDischargeFailed ->
            Uncommitted t.inner ((prepareToEncrypt proposing rnd).run t).2.inner ∧
              Abandoned t.inner ((prepareToEncrypt proposing rnd).run t).2.inner) ∧
    (CommitsFirst t -> CommitTaken (entered t) (rnd 0) ->
      ¬ Proposable t.inner proposing ->
        exists e, ((prepareToEncrypt proposing rnd).run t).1 = .error e ∧
          e ≠ .bindDischargeFailed ∧
          SendMoved t.inner ((prepareToEncrypt proposing rnd).run t).2.inner) := by
  have happroved : Durable Approved t :=
    run.invariant (I := Durable Approved) (fun _ _ h _ => approved_live L h)
      (Durable.fresh (approved_unused (born.unused L)))
  have hsend : HoldsSend t.inner := holdsSend_life L born run
  have habandons : (CommitsFirst t ->
      (forall g, t.inner.half .sendClassical = some g -> (M.roster g).length = 2) ∧
        (CommitTaken (entered t) (rnd 0) -> Proposable t.inner proposing ∧
          AdmissibleUpdate t.inner (chosenCandidate t.inner proposing))) ->
      forall e, ((prepareToEncrypt proposing rnd).run t).1 = .error e ->
        e ≠ .bindDischargeFailed ->
          Uncommitted t.inner ((prepareToEncrypt proposing rnd).run t).2.inner ∧
            Abandoned t.inner ((prepareToEncrypt proposing rnd).run t).2.inner := by
    intro hwhole e he hretriable
    have hfailed := (triple_prepareToEncrypt_whole L T V hsend happroved.now
      hwhole).error rfl he
    rcases hfailed with hfatal | hkept
    · exact absurd hfatal hretriable
    · exact ⟨hkept.uncommitted, hkept⟩
  refine ⟨?_, ?_, ?_⟩
  · intro hwhole
    exact habandons fun hfirst => ⟨(hwhole hfirst).1, fun _ => (hwhole hfirst).2⟩
  · intro _ hrefused hpaired
    exact habandons fun _ => ⟨hpaired, fun htaken => absurd htaken hrefused⟩
  · intro hfirst htaken hclosed
    have hfailed := triple_prepareToEncrypt_closed L happroved.now hfirst htaken hclosed
      t rfl
    cases hresult : ((prepareToEncrypt proposing rnd).run t).1 with
    | ok r =>
        rw [hresult] at hfailed
        exact hfailed.elim
    | error e =>
        rw [hresult] at hfailed
        refine ⟨e, rfl, ?_, hfailed.2⟩
        rcases hfailed.1 with rfl | rfl
        · decide
        · decide

/-!
## The candidate the host asks for
-/

/-- Where the call discharges a bind, the bind still names the two send epochs. -/
def Dischargeable (s : SessionInner M) : Prop :=
  commitDue s = true -> Reserved s.core

theorem reserved_of_discharge {s s' : SessionInner M} {d : Option (DischargedBind M)}
    (hrun : dischargeOwedBind.run s = (.ok d, s')) :
    Reserved s.core := by
  intro o howed
  change s.round.owedBind = some o at howed
  let s₁ : SessionInner M := s.mapRound fun r => { r with owedBind := none }
  unfold dischargeOwedBind at hrun
  rw [Op.run_bind_ok (Op.run_state s), howed] at hrun
  dsimp only at hrun
  rw [Op.run_bind_ok (Op.run_update _ s)] at hrun
  cases held : s.half .sendClassical with
  | none =>
      have held₁ : s₁.half .sendClassical = none := held
      rw [Op.run_bind_error (run_readHalf_missing held₁)] at hrun
      cases hrun
  | some g =>
      have held₁ : s₁.half .sendClassical = some g := held
      rw [Op.run_bind_ok (run_readHalf held₁ _)] at hrun
      cases heldPq : s.half .sendPq with
      | none =>
          have heldPq₁ : s₁.half .sendPq = none := heldPq
          rw [Op.run_bind_error (run_readHalf_missing heldPq₁)] at hrun
          cases hrun
      | some gpq =>
          have heldPq₁ : s₁.half .sendPq = some gpq := heldPq
          rw [Op.run_bind_ok (run_readHalf heldPq₁ _)] at hrun
          by_cases hclassical : M.currentEpoch g + 1 = o.tEpoch
          · rw [Op.run_bind_ok (Op.run_ensure hclassical _ s₁)] at hrun
            by_cases hpq : M.currentEpoch gpq = o.pqEpoch
            · have hepoch : s.core.epoch .sendPq = some (M.currentEpoch gpq) :=
                congrArg (Option.map M.currentEpoch) heldPq
              have hepoch' : s.core.epoch .sendClassical = some (M.currentEpoch g) :=
                congrArg (Option.map M.currentEpoch) held
              exact ⟨hepoch.trans (congrArg some hpq), _, hepoch', hclassical⟩
            · rw [Op.run_bind_error (Op.run_ensure_not hpq _ s₁)] at hrun
              cases hrun
          · rw [Op.run_bind_error (Op.run_ensure_not hclassical _ s₁)] at hrun
            cases hrun

theorem Reserved.quiet {c c' : Core M} (h : Reserved c) (hq : Quiet c' c) :
    Reserved c' := by
  intro o howed
  have howed' : c.owed = some o := by
    rw [hq.2]
    exact howed
  rcases h o howed' with ⟨hpq, e, hclassical, he⟩
  rw [hq.epoch] at hpq hclassical
  exact ⟨hpq, e, hclassical, he⟩

theorem triple_commitRound_reserved (L : Lawful M) (s₀ : SessionInner M)
    {folded : Option (PeerProposal M)} (happroved : ApprovedProposal folded)
    (seed : M.Seed) :
    Op.Triple (fun s => QuietMove s₀ s) (commitRound folded seed)
      (fun _ _ => Reserved s₀.core) fun _ _ => True := by
  have hkeeps : forall {β : Type} {x : SessionOp M β}, QuietOp x ->
      Op.Triple (fun s => QuietMove s₀ s) x (fun _ s => QuietMove s₀ s)
        fun _ _ => True :=
    fun hx => (Op.Triple.ofKeeps (I := fun s : SessionInner M => QuietMove s₀ s)
      fun s hs => Quiet.trans hs (hx s)).weaken (fun _ _ hs => hs)
        fun _ _ _ => True.intro
  unfold commitRound
  refine Op.Triple.bind (hkeeps (quiet_rememberSendPsk L)) fun _ => ?_
  refine Op.Triple.bind (hkeeps (quiet_crossPskForCommit L)) fun crossPsk => ?_
  refine Op.Triple.bind (hkeeps quiet_handoffForCommit) fun handoff => ?_
  refine Op.Triple.bind (hkeeps (quiet_refold L happroved)) fun _ => ?_
  refine Op.Triple.reading fun s hs => ?_
  apply Op.Triple.mapError
  unfold dischargeAndCommit
  refine Op.Triple.bind (Q := fun _ _ => Reserved s₀.core) ?_ fun owed => ?_
  · rintro s' rfl
    rcases hrun : dischargeOwedBind.run s' with ⟨r, s''⟩
    cases r with
    | ok d => exact (reserved_of_discharge hrun).quiet hs
    | error e => exact True.intro
  · intro s' hs'
    split
    · exact hs'
    · exact True.intro

theorem serves_named (M : MlsRs) : Serves M LibraryError where
  signer _ := Or.inl libraryError_mls
  toBytes _ := Or.inl libraryError_mls
  derive _ _ _ := Or.inl libraryError_mls
  exporter _ _ _ _ := Or.inl libraryError_mls
  members _ _ _ _ _ _ _ _ _ := Or.inl libraryError_mls
  propose _ _ _ _ _ _ _ _ := Or.inl ⟨libraryError_mls, Or.inr (Or.inl rfl)⟩

structure ProposedAs (id : Bytes) (b : Blob M) (s : SessionInner M) : Prop where
  staged : isStaged s id = true
  framed : s.msg.pendingProposalMessage = some (id, b)
  offered : exists m g signer,
    b.parsed = some m ∧ s.half .recvClassical = some g ∧
      (m, some (signer, id)) ∈ M.pendingUpdates g

theorem ProposedAs.follows {id : Bytes} {b : Blob M} {s s' : SessionInner M}
    (h : ProposedAs id b s)
    (hrecv : HalfQuiet (s.half .recvClassical) (s'.half .recvClassical))
    (hrotation : s'.rotation = s.rotation) (hmsg : s'.msg = s.msg) :
    ProposedAs id b s' where
  staged := (isStaged_congr (congrArg RotationState.stagedCandidates hrotation) id).trans
    h.staged
  framed := by
    rw [hmsg]
    exact h.framed
  offered := by
    rcases h.offered with ⟨m, g, signer, hparsed, held, hpending⟩
    rw [held] at hrecv
    rcases hrecv.some_left with ⟨g', held', same⟩
    exact ⟨m, g', signer, hparsed, held', by rw [same.updates]; exact hpending⟩

/-- What a successful prepare of a candidate leaves. -/
def CandidateSent (id : Bytes) (r : PrepareEncryptResult M) (s : SessionInner M) :
    Prop :=
  exists b, r.proposalMessage = some b ∧ ProposedAs id b s

theorem QuietOp.candidateSent {x : SessionOp M α} {W : List Slot} (hx : QuietOp x)
    (htouches : Touches W x) (hrotation : .rotation ∉ W) (hmsg : .msg ∉ W)
    (id : Bytes) (r : PrepareEncryptResult M) :
    Op.Keeps (CandidateSent id r) x := by
  rintro s ⟨b, hb, hs⟩
  exact ⟨b, hb, hs.follows ((hx s).1 .recvClassical) (htouches s .rotation hrotation)
    (htouches s .msg hmsg)⟩

theorem candidateSent_rewrapSideBand (id : Bytes) (r : PrepareEncryptResult M)
    (seed : M.Seed) :
    Op.Keeps (CandidateSent id r) (rewrapSideBand seed) := by
  rintro s ⟨b, hb, hs⟩
  have htouches := touches_rewrapSideBand seed s
  have hrecv := htouches (.half .recvClassical) (by decide)
  change ((rewrapSideBand seed).run s).2.half .recvClassical = s.half .recvClassical
    at hrecv
  refine ⟨b, hb, hs.follows ?_ (htouches .rotation (by decide))
    (htouches .msg (by decide))⟩
  rw [hrecv]
  exact HalfQuiet.refl _

section

variable (L : Lawful M)

include L

theorem triple_prepareRatchetCommit_candidate (s₀ : SessionInner M) {id : Bytes}
    (hboth : BothHeld s₀) (happroved : ApprovedProposal s₀.msg.queuedProposal)
    (hproposable : Proposable s₀ (some id)) (rnd : Nat -> M.Seed) :
    Op.Triple (fun s => s = s₀) (prepareRatchetCommit (some id) rnd)
      (fun r s => HoldsSend s ∧ CandidateSent id r s) fun e _ => LibraryError e := by
  refine (triple_prepareParts (R := fun s => BothHeld s ∧ Proposable s (some id))
    (Q := fun b s => HoldsSend s ∧ ProposedAs id b s) ?_ ?_ ?_).post ?_
  · intro hmissing
    have held := (bothHeld_iff.mp hboth).1
    rw [hmissing] at held
    cases held
  · intro g held
    apply Op.Triple.ite
    · rintro _ s rfl
      have hblames := blames_commitRound s₀.msg.queuedProposal (rnd 0) (dequeued s₀) hboth
      have hround := triple_commitRound L (serves_any M) held
        (fun _ _ => Or.inl True.intro) happroved (rnd 0) (dequeued s₀)
        (untouched_dequeued s₀)
      cases hresult :
          ((commitRound s₀.msg.queuedProposal (rnd 0)).run (dequeued s₀)).1 with
      | ok a =>
          rw [hresult] at hblames hround
          exact ⟨hblames, (hround.proposable (some id)).mpr hproposable⟩
      | error e =>
          rw [hresult] at hblames
          exact hblames.1
    · intro _
      apply Op.Triple.value
      intro s hs
      rw [hs]
      exact ⟨hboth, hproposable⟩
  · rintro s₁ ⟨hboth₁, hproposable₁⟩ s rfl
    have hsend := holdsSend_stageSelfUpdate (some id) rnd s hboth₁.1
    have hstage := triple_stageSelfUpdate (serves_named M) L hproposable₁
      (Or.inl ⟨libraryError_mls, Or.inr (Or.inl rfl), Or.inr (Or.inr (Or.inl rfl))⟩)
      (bothHeld_iff.mp hboth₁).2 rnd s rfl
    cases hresult : ((stageSelfUpdate (some id) rnd).run s).1 with
    | error e =>
        rw [hresult] at hstage
        exact hstage
    | ok b =>
        rw [hresult] at hstage
        rcases hstage.offered with ⟨m, g, identity, hparsed, held, hpending, hchosen⟩
        rcases hchosen id rfl with ⟨hstaged, signer, rfl⟩
        exact ⟨hsend, hstaged, hstage.framed, m, g, signer, hparsed, held, hpending⟩
  · rintro r s ⟨b, hb, hsend, hs⟩
    exact ⟨hsend, b, hb, hs⟩

theorem triple_prepareRatchetCommit_only (s₀ : SessionInner M) {id : Bytes}
    (happroved : ApprovedProposal s₀.msg.queuedProposal) (rnd : Nat -> M.Seed) :
    Op.Triple (fun s => s = s₀) (prepareRatchetCommit (some id) rnd)
      (fun _ _ => Dischargeable s₀ ∧ Proposable s₀ (some id)) fun _ _ => True := by
  refine (triple_prepareParts
    (R := fun s =>
      Dischargeable s₀ ∧ (Proposable s (some id) ↔ Proposable s₀ (some id)))
    (Q := fun _ _ => Dischargeable s₀ ∧ Proposable s₀ (some id)) ?_ ?_ ?_).post ?_
  · exact fun _ _ => True.intro
  · intro g held
    apply Op.Triple.ite
    · rintro _ s rfl
      have hreserved := triple_commitRound_reserved L (dequeued s₀) happroved (rnd 0)
        (dequeued s₀) (Quiet.refl _)
      have hround := triple_commitRound L (serves_any M) held
        (fun _ _ => Or.inl True.intro) happroved (rnd 0) (dequeued s₀)
        (untouched_dequeued s₀)
      cases hresult :
          ((commitRound s₀.msg.queuedProposal (rnd 0)).run (dequeued s₀)).1 with
      | ok a =>
          rw [hresult] at hreserved hround
          exact ⟨fun _ => hreserved, hround.proposable (some id)⟩
      | error e => exact True.intro
    · intro hidle
      apply Op.Triple.value
      intro s hs
      rw [hs]
      exact ⟨fun hdue => absurd hdue hidle, Iff.rfl⟩
  · rintro s₁ ⟨hdischargeable, hsame⟩
    by_cases hproposable : Proposable s₁ (some id)
    · intro s _
      split
      · exact ⟨hdischargeable, hsame.mp hproposable⟩
      · exact True.intro
    · exact (triple_stageSelfUpdate_closed hproposable rnd).weaken
        (fun _ _ hs => hs.elim) fun _ _ _ => True.intro
  · rintro r s ⟨b, -, hs⟩
    exact hs

theorem triple_prepareToEncrypt_candidate (T : Dependable M) {t : TwoMlsPqSession M}
    {id : Bytes} (hboth : BothHeld t.inner)
    (happroved : ApprovedProposal t.inner.msg.queuedProposal)
    (hdelegated : Delegated t.inner) (hproposable : Proposable t.inner (some id))
    (rnd : Nat -> M.Seed) :
    Op.Triple (fun t' => t' = t) (prepareToEncrypt (some id) rnd)
      (fun r t' => CandidateSent id r t'.inner) fun e _ => LibraryError e := by
  rcases entered_counter t with ⟨n, hentered⟩
  have hkeepsBoth : forall {β : Type} {x : SessionOp M β} {r : PrepareEncryptResult M},
      Op.Keeps HoldsSend x -> Op.Keeps (CandidateSent id r) x ->
        Op.Keeps (fun s => HoldsSend s ∧ CandidateSent id r s) x :=
    fun hsend hkept s hs => ⟨hsend s hs.1, hkept s hs.2⟩
  have hinner : Op.Triple (fun s => s = entered t)
      (prepareToEncryptInner (some id) rnd)
      (fun r s => HoldsSend s ∧ CandidateSent id r s) fun e _ => LibraryError e := by
    apply triple_prepareInner
    · intro hnot
      rw [hentered] at hnot
      exact absurd hdelegated hnot
    · intro hnone
      rw [hentered] at hnone
      have hrecv := hboth.2
      simp_all
    · intro _ _
      rw [hentered]
      exact triple_prepareRatchetCommit_candidate L { t.inner with stateSeq := n }
        hboth happroved hproposable rnd
    · intro r s hs
      have hkept := (quiet_recordListenRendezvous L).candidateSent
        touches_recordListenRendezvous (by decide) (by decide) id r s hs.2
      rcases (completes_recordListenRendezvous T).result hs.1 with ⟨_, hok, hsend⟩
      rw [hok]
      exact ⟨hsend, hkept⟩
    · intro r seed
      have hkeeps := hkeepsBoth (holdsSend_rewrapSideBand seed)
        (candidateSent_rewrapSideBand id r seed)
      exact (completes_rewrapSideBand hkeeps).weaken (fun _ _ hs => hs)
        fun _ _ he => he.elim
  refine (triple_mutateAndPersist (k := .core) hinner
    (fun _ _ hs => Or.inl (encodeAndPush_ok T .core hs.1))
    (fun r s hs => ?_) fun e s hs => hs).post fun _ _ hs => hs.2
  have hkept := (quiet_encodeBlob L .core).candidateSent (touches_encodeBlob .core)
    (by decide) (by decide) id r s hs.2
  rcases (completes_encodeBlob T .core).result hs.1 with ⟨_, _, hsend⟩
  exact ⟨hsend, hkept⟩

theorem triple_prepareToEncrypt_only {t : TwoMlsPqSession M}
    {id : Bytes} (hrecv : t.inner.recvGroup.isSome = true)
    (happroved : ApprovedProposal t.inner.msg.queuedProposal) (rnd : Nat -> M.Seed) :
    Op.Triple (fun t' => t' = t) (prepareToEncrypt (some id) rnd)
      (fun _ _ => Delegated t.inner ∧ Dischargeable t.inner ∧
        Proposable t.inner (some id)) fun _ _ => True := by
  rcases entered_counter t with ⟨n, hentered⟩
  have hinner : Op.Triple (fun s => s = entered t)
      (prepareToEncryptInner (some id) rnd)
      (fun _ _ => Delegated t.inner ∧ Dischargeable t.inner ∧
        Proposable t.inner (some id)) fun _ _ => True := by
    apply triple_prepareInner
    · exact fun _ _ => True.intro
    · intro hnone
      rw [hentered] at hnone
      simp_all
    · intro hdelegated _
      rw [hentered] at hdelegated ⊢
      refine (triple_prepareRatchetCommit_only L { t.inner with stateSeq := n }
        happroved rnd).post fun _ _ hs => ?_
      exact ⟨hdelegated, hs.1, hs.2⟩
    · intro r s hs
      split
      · exact hs
      · exact True.intro
    · intro r seed s hs
      split
      · exact hs
      · exact True.intro
  exact triple_mutateAndPersist (k := .core) hinner
    (fun _ _ _ => Or.inr fun _ => True.intro) (fun _ _ hs => hs) fun _ _ hs => hs

end

theorem proposable_iff {s : SessionInner M} {id : Bytes} (hid : id ≠ [])
    (hroom : s.rotation.stagedCandidates.length < candidateWindow) :
    Proposable s (some id) ↔
      (s.rotation.deferredCandidate ≠ some id ∨ isStaged s id = true) := by
  constructor
  · intro h
    rcases (h id rfl).2 with hstaged | ⟨-, hselected | hfree⟩
    · exact Or.inr hstaged
    · cases hselected
    · exact Or.inl hfree
  · intro h id' hid'
    cases hid'
    refine ⟨hid, ?_⟩
    rcases h with hfree | hstaged
    · exact Or.inr ⟨hroom, Or.inr hfree⟩
    · exact Or.inl hstaged

/-- With room in the window a candidate the host asks for is proposed, exactly when
it is not parked in the deferred slot without being staged; the establishment has to
be delegated where that is required, and a bind that the call discharges has to name
the epochs of its two groups. -/
theorem candidate_proposed_unless_parked (L : Lawful M) (T : Dependable M)
    {s : SessionInner M} (born : Born s) {t : TwoMlsPqSession M}
    (run : Run TwoMlsPqSession.live (fun _ _ => True) (TwoMlsPqSession.fresh s) t)
    (established : BothHeld t.inner) {id : Bytes} (hid : id ≠ [])
    (hroom : t.inner.rotation.stagedCandidates.length < candidateWindow)
    (rnd : Nat -> M.Seed)
    (served : Dischargeable t.inner -> forall e,
      ((prepareToEncrypt (some id) rnd).run t).1 = .error e -> ¬ LibraryError e) :
    (exists r, ((prepareToEncrypt (some id) rnd).run t).1 = .ok r ∧
        CandidateSent id r ((prepareToEncrypt (some id) rnd).run t).2.inner) ↔
      (Delegated t.inner ∧ Dischargeable t.inner ∧
        (t.inner.rotation.deferredCandidate ≠ some id ∨ isStaged t.inner id = true)) := by
  have happroved : Durable Approved t :=
    run.invariant (I := Durable Approved) (fun _ _ h _ => approved_live L h)
      (Durable.fresh (approved_unused (born.unused L)))
  rw [← proposable_iff hid hroom]
  constructor
  · rintro ⟨r, hok, -⟩
    exact (triple_prepareToEncrypt_only L established.2 happroved.now rnd).ok rfl hok
  · rintro ⟨hdelegated, hdischargeable, hproposable⟩
    have hsent := triple_prepareToEncrypt_candidate L T established happroved.now
      hdelegated hproposable rnd t rfl
    cases hresult : ((prepareToEncrypt (some id) rnd).run t).1 with
    | ok r =>
        rw [hresult] at hsent
        exact ⟨r, rfl, hsent⟩
    | error e =>
        rw [hresult] at hsent
        exact absurd hsent (served hdischargeable e hresult)

end

/-!
## The reference library answers
-/

namespace ReferencePair

theorem peerAfter_isSome {env : MlsEnv} {g : Reference.Group}
    {peer : Option Reference.Leaf} {folded : Option Nat}
    (h : Reference.peerAfter env g none = .ok (peer, folded)) :
    peer.isSome = g.peer.isSome := by
  unfold Reference.peerAfter at h
  dsimp only at h
  split at h
  next hpeer =>
    cases h
    rfl
  next => cases h
  next offer rest known hoffers hpeer =>
    split at h
    · cases h
      rw [hpeer]
      rfl
    · cases h

theorem planCommit_peer {env : MlsEnv} {g : Reference.Group}
    {request : CommitRequest Reference.Message Nat} {nonce : Nat}
    {out : CommitOutput Reference.Message} {pending : Reference.PendingCommit}
    (hadd : request.addMember = none)
    (h : Reference.planCommit env request nonce g = .ok (out, pending)) :
    pending.peer.isSome = g.peer.isSome := by
  unfold Reference.planCommit at h
  rw [hadd] at h
  cases hafter : Reference.peerAfter env g none with
  | error e =>
      rw [hafter] at h
      cases h
  | ok result =>
      rcases result with ⟨peer, folded⟩
      rw [hafter] at h
      change (if _ then _ else if _ then _ else _) = _ at h
      split at h
      · cases h
      · split at h
        · cases h
        · split at h
          · cases h
          · cases h
            exact peerAfter_isSome hafter

theorem roster_length (g : Reference.Group) :
    (Reference.Group.roster g).length = if g.peer.isSome then 2 else 1 := by
  unfold Reference.Group.roster
  cases g.peer with
  | none => cases g.created <;> rfl
  | some leaf => cases g.created <;> rfl

theorem members_kept {env : MlsEnv} (env' : MlsEnv) {g : Reference.Group}
    {request : CommitRequest Reference.Message Nat} {nonce : Nat}
    {out : CommitOutput Reference.Message} (hadd : request.addMember = none)
    (hbuilt : (Reference.buildCommit env request nonce g).1 = .ok out) :
    (Reference.Group.roster (Reference.applyPendingCommit env'
        (Reference.buildCommit env request nonce g).2).2).length =
      (Reference.Group.roster g).length := by
  unfold Reference.buildCommit at hbuilt ⊢
  split at hbuilt
  · cases hbuilt
  next hnonce =>
    rw [if_neg hnonce]
    cases hplan : Reference.planCommit env request nonce g with
    | error e =>
        rw [hplan] at hbuilt
        cases hbuilt
    | ok result =>
        rcases result with ⟨output, pending⟩
        rw [roster_length, roster_length, ← planCommit_peer hadd hplan]
        rfl

theorem sender_own {g : Reference.Group} {leafId : Bytes}
    (h : senderClientId (M := Reference.mls) g g.ownIndex = .ok leafId) :
    leafId = g.own.identity := by
  unfold senderClientId at h
  have hroster : Reference.mls.roster g = Reference.Group.roster g := rfl
  rw [hroster] at h
  unfold Reference.Group.roster Reference.Group.ownIndex at h
  cases hcreated : g.created with
  | true =>
      rw [hcreated] at h
      cases h
      rfl
  | false =>
      rw [hcreated] at h
      cases hpeer : g.peer with
      | none =>
          rw [hpeer] at h
          cases h
          rfl
      | some leaf =>
          rw [hpeer] at h
          cases h
          rfl

theorem serves : Serves Reference.mls fun _ => False where
  signer seed := Or.inr ⟨seed, rfl⟩
  toBytes m := Or.inr ⟨m.encode, rfl⟩
  derive _ _ _ := Or.inr ⟨_, rfl⟩
  exporter env g component happlied := by
    right
    change (Reference.applyPendingCommit env g).1 = _ at happlied
    change exists secret, (Reference.safeExportSecret component
      (Reference.applyPendingCommit env g).2).1 = .ok secret
    unfold Reference.applyPendingCommit at happlied ⊢
    cases hpending : g.pending with
    | none =>
        rw [hpending] at happlied
        cases happlied
    | some p => exact ⟨_, rfl⟩
  members _ env' _ _ _ _ hadd hbuilt _ := Or.inr (members_kept env' hadd hbuilt)
  propose env identity aad nonce g leafId hleaf hadmits := by
    right
    have hown := sender_own hleaf
    change exists m, (Reference.proposeUpdate env identity aad nonce g).1 = .ok m
    have hadmitted : g.admitsIdentity env identity = true := by
      cases identity with
      | none => rfl
      | some pair =>
          rcases pair with ⟨signer, id⟩
          have hvalid := hadmits signer id rfl
          have hauth : env.auth.validSuccessor leafId id = true := by
            unfold AuthCore.validSuccessor
            rw [hvalid]
            simp
          rw [hown] at hauth
          exact hauth
    unfold Reference.proposeUpdate
    rw [if_pos hadmitted]
    exact ⟨_, rfl⟩

def approvedSession : TwoMlsPqSession Reference.mls :=
  (rotationOffered.play [.call .right (.queueProposal offeredDigest)]).session .right

set_option maxRecDepth 4000 in
theorem approved_run :
    Run TwoMlsPqSession.live (fun _ _ => True) (TwoMlsPqSession.fresh acceptor)
      approvedSession := by
  have hoffered := rotationOffered_calls.mono fun _ _ _ => True.intro
  exact World.run_live .right (hoffered.trans (World.run_played rotationOffered _))

theorem approved_states :
    (approvedSession.inner.establishment.requiresEstablishmentEnvelope = false ∧
      approvedSession.inner.recvGroup.isSome = true ∧
      commitDue approvedSession.inner = true) ∧
    ((commitRound (entered approvedSession).msg.queuedProposal (rnd 5100 0)).run
      (dequeued (entered approvedSession))).1.toOption.isSome = true ∧
    refusal ((prepareToEncrypt (some []) (rnd 5100)).run approvedSession) =
      some .invalidClientId ∧
    ((prepareToEncrypt (some []) (rnd 5100)).run approvedSession).2.inner.core.epoch
        .sendClassical ≠
      approvedSession.inner.core.epoch .sendClassical := by
  decide +kernel

theorem approved_commitsFirst : CommitsFirst approvedSession :=
  ⟨Or.inl approved_states.1.1, approved_states.1.2⟩

theorem approved_commitTaken : CommitTaken (entered approvedSession) (rnd 5100 0) := by
  unfold CommitTaken
  rw [eq_ok_of_isSome approved_states.2.1]

end ReferencePair

/-- Asked for the empty id, the call fails behind the fold of the approved
proposal. -/
theorem empty_id_fails_behind_fold :
    exists e,
      ((prepareToEncrypt (some []) (ReferencePair.rnd 5100)).run
          ReferencePair.approvedSession).1 = .error e ∧
        e ≠ .bindDischargeFailed ∧
        SendMoved ReferencePair.approvedSession.inner
          ((prepareToEncrypt (some []) (ReferencePair.rnd 5100)).run
            ReferencePair.approvedSession).2.inner := by
  have hcases := failed_prepare_commits_nothing Reference.lawful Reference.dependable
    ReferencePair.serves ReferencePair.acceptor_born ReferencePair.approved_run (some [])
    (ReferencePair.rnd 5100)
  apply hcases.2.2 ReferencePair.approved_commitsFirst
    ReferencePair.approved_commitTaken
  intro hproposable
  exact (hproposable [] rfl).1 rfl

/-- The fold is lost to the host: the call answers with an invalid id. -/
theorem fold_lost_behind_invalid_id :
    ¬ forall (s : SessionInner Reference.mls) (t : TwoMlsPqSession Reference.mls),
      Born s -> Run TwoMlsPqSession.live (fun _ _ => True) (TwoMlsPqSession.fresh s) t ->
        forall proposing rnd e,
          ((prepareToEncrypt proposing rnd).run t).1 = .error e ->
            e ≠ .bindDischargeFailed ->
              Uncommitted t.inner ((prepareToEncrypt proposing rnd).run t).2.inner := by
  intro hall
  rcases ReferencePair.approved_states.2.2 with ⟨hrefusal, hepochs⟩
  have hkept := hall _ _ ReferencePair.acceptor_born ReferencePair.approved_run (some [])
    (ReferencePair.rnd 5100) .invalidClientId (refusal_eq hrefusal) (by decide)
  apply hepochs
  exact hkept.epoch

namespace ReferencePair

def parked : World Reference.mls :=
  folded.play
    [.call .left (.prepareToEncrypt (some [0xA2]) (rnd 5200)),
      .call .left (.prepareToEncrypt (some [0xA3]) (rnd 5300)),
      .call .left (.prepareToEncrypt (some [0xA4]) (rnd 5400)),
      .call .left (.prepareToEncrypt (some [0xA5]) (rnd 5500)),
      receive .left 1]

def parkedSession : TwoMlsPqSession Reference.mls :=
  parked.session .left

set_option maxRecDepth 4000 in
theorem parked_run :
    Run TwoMlsPqSession.live (fun _ _ => True) (TwoMlsPqSession.fresh initiator)
      parkedSession := by
  have hfolded := folded_calls.mono fun _ _ _ => True.intro
  exact World.run_live .left (hfolded.trans (World.run_played folded _))

theorem parked_states :
    (parkedSession.inner.sendGroup.isSome = true ∧
      parkedSession.inner.recvGroup.isSome = true) ∧
    (parkedSession.inner.rotation.stagedCandidates.length < candidateWindow ∧
      parkedSession.inner.rotation.deferredCandidate = some [0xA5]) ∧
    (parkedSession.inner.establishment.requiresEstablishmentEnvelope = false ∧
      commitDue parkedSession.inner = false) ∧
    ((prepareToEncrypt (some [0xA6]) (rnd 5600)).run parkedSession).1.toOption.isSome =
      true ∧
    refusal ((prepareToEncrypt (some [0xA5]) (rnd 5600)).run parkedSession) =
      some .sessionNotReady := by
  decide +kernel

end ReferencePair

/-- A sixth id is proposed at once. -/
theorem sixth_id_proposed :
    exists r,
      ((prepareToEncrypt (some [0xA6]) (ReferencePair.rnd 5600)).run
          ReferencePair.parkedSession).1 = .ok r ∧
        CandidateSent [0xA6] r
          ((prepareToEncrypt (some [0xA6]) (ReferencePair.rnd 5600)).run
            ReferencePair.parkedSession).2.inner := by
  have hexact := candidate_proposed_unless_parked Reference.lawful Reference.dependable
    ReferencePair.initiator_born ReferencePair.parked_run ReferencePair.parked_states.1
    (show ([0xA6] : Bytes) ≠ [] by decide) ReferencePair.parked_states.2.1.1
    (ReferencePair.rnd 5600) ?_
  · apply hexact.mpr
    refine ⟨Or.inl ReferencePair.parked_states.2.2.1.1, ?_, Or.inl ?_⟩
    · intro hdue
      rw [ReferencePair.parked_states.2.2.1.2] at hdue
      cases hdue
    · rw [ReferencePair.parked_states.2.1.2]
      decide
  · intro _ e he
    have hsends := ReferencePair.parked_states.2.2.2.1
    rw [he] at hsends
    cases hsends

/-- The fifth id is refused for want of a candidate, though the window is empty. -/
theorem parked_id_not_proposed :
    ¬ forall (s : SessionInner Reference.mls) (t : TwoMlsPqSession Reference.mls),
      Born s -> Run TwoMlsPqSession.live (fun _ _ => True) (TwoMlsPqSession.fresh s) t ->
        BothHeld t.inner -> forall id rnd, id ≠ [] ->
          t.inner.rotation.stagedCandidates.length < candidateWindow ->
            (forall e, ((prepareToEncrypt (some id) rnd).run t).1 = .error e ->
              ¬ LibraryError e) ->
              exists r, ((prepareToEncrypt (some id) rnd).run t).1 = .ok r ∧
                CandidateSent id r ((prepareToEncrypt (some id) rnd).run t).2.inner := by
  intro hall
  have hanswer := refusal_eq ReferencePair.parked_states.2.2.2.2
  have hserved : forall e,
      ((prepareToEncrypt (some [0xA5]) (ReferencePair.rnd 5600)).run
        ReferencePair.parkedSession).1 = .error e -> ¬ LibraryError e := by
    intro e he
    rw [hanswer] at he
    cases he
    simp [LibraryError]
  rcases hall _ _ ReferencePair.initiator_born ReferencePair.parked_run
    ReferencePair.parked_states.1 [0xA5] (ReferencePair.rnd 5600) (by decide)
    ReferencePair.parked_states.2.1.1 hserved with ⟨r, hok, -⟩
  rw [hanswer] at hok
  cases hok

end Session
end TwoMlsPq
