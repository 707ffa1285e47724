import TwoMlsPq.Session.Rewrapping

/-!
# What a call does to a cached seal

A parked frame carries the stamp of its cached seal.  The slot is written by parking a
frame, which stamps nothing, by emptying it, and by the two calls that cache a seal.  So
behind any other call the slot is as it was, or it holds no stamp and not the frame it
held: another frame, none, or the frame of a round entered meanwhile.
-/

namespace TwoMlsPq
namespace Session

open Foundation Apq

section

variable {M : MlsRs} {α : Type}

/-!
## The slot
-/

def SlotInPlace (s₀ s : SessionInner M) : Prop :=
  s.round.pendingSideBand = s₀.round.pendingSideBand

def Unstamped (s : SessionInner M) : Prop :=
  forall retained, s.round.pendingSideBand = some retained -> retained.sealedAt = none

/-- A round was entered: it is another, or the half that answers a bootstrap was stood
up. -/
def RoundEntered (c c' : Core M) : Prop :=
  (c'.inflight ≠ none ∧ c'.inflight ≠ c.inflight) ∨
    (c.half .sendPq = none ∧ c'.half .sendPq ≠ none)

/-- The slot holds no stamp, and not the frame it held. -/
structure SlotReplaced (s₀ s : SessionInner M) : Prop where
  unstamped : Unstamped s
  superseded : s.core.sideBand = none ∨ s.core.sideBand ≠ s₀.core.sideBand ∨
    RoundEntered s₀.core s.core

def SealCarried (s₀ s : SessionInner M) : Prop :=
  SlotInPlace s₀ s ∨ SlotReplaced s₀ s

def SlotSettled (s₀ s : SessionInner M) : Prop :=
  SlotInPlace s₀ s ∨ s.round.pendingSideBand = none

theorem SlotReplaced.empty {s₀ s : SessionInner M}
    (h : s.round.pendingSideBand = none) : SlotReplaced s₀ s where
  unstamped := by
    intro retained hretained
    rw [h] at hretained
    cases hretained
  superseded := by
    left
    change s.round.pendingSideBand.map _ = none
    rw [h]
    rfl

theorem SlotSettled.carried {s₀ s : SessionInner M} (h : SlotSettled s₀ s) :
    SealCarried s₀ s := by
  rcases h with hplace | hempty
  · exact Or.inl hplace
  · exact Or.inr (SlotReplaced.empty hempty)

theorem SealCarried.congr {s₀ s₀' s s' : SessionInner M} (h : SealCarried s₀ s)
    (hround₀ : s₀'.round = s₀.round) (hhalf₀ : s₀'.half .sendPq = s₀.half .sendPq)
    (hround : s'.round = s.round) (hhalf : s'.half .sendPq = s.half .sendPq) :
    SealCarried s₀' s' := by
  have hsideBand₀ : s₀'.core.sideBand = s₀.core.sideBand :=
    congrArg (fun r => r.pendingSideBand.map RetainedFrame.frame) hround₀
  have hsideBand : s'.core.sideBand = s.core.sideBand :=
    congrArg (fun r => r.pendingSideBand.map RetainedFrame.frame) hround
  have hinflight₀ : s₀'.core.inflight = s₀.core.inflight :=
    congrArg RoundState.pqInflight hround₀
  have hinflight : s'.core.inflight = s.core.inflight :=
    congrArg RoundState.pqInflight hround
  rcases h with hplace | hreplaced
  · left
    unfold SlotInPlace
    rw [hround, hround₀]
    exact hplace
  · right
    constructor
    · unfold Unstamped
      rw [hround]
      exact hreplaced.unstamped
    · have hsuperseded := hreplaced.superseded
      unfold RoundEntered at hsuperseded ⊢
      change _ ∨ _ ∨ _ ∨ (s₀'.half .sendPq = none ∧ s'.half .sendPq ≠ none)
      rw [hsideBand, hsideBand₀, hinflight, hinflight₀, hhalf, hhalf₀]
      exact hsuperseded

theorem SlotReplaced.parked {s₀ s : SessionInner M} {f : SideBand M}
    (hparked : s.round.pendingSideBand = some { frame := f, sealedAt := none })
    (h : some f ≠ s₀.core.sideBand ∨ RoundEntered s₀.core s.core) : SlotReplaced s₀ s where
  unstamped := by
    intro retained hretained
    rw [hparked] at hretained
    cases hretained
    rfl
  superseded := by
    right
    have hframe : s.core.sideBand = some f := by
      change s.round.pendingSideBand.map _ = some f
      rw [hparked]
      rfl
    rw [hframe]
    exact h

/-!
## Operations that leave the slot
-/

def readParked (_ : Unit) (s : SessionInner M) : Option (RetainedFrame M) :=
  s.round.pendingSideBand

def LeavesParked (x : SessionOp M α) : Prop :=
  Op.Writes readParked [] x

theorem LeavesParked.slot {x : SessionOp M α} (hx : LeavesParked x)
    (s : SessionInner M) :
    (x.run s).2.round.pendingSideBand = s.round.pendingSideBand :=
  hx s () List.not_mem_nil

theorem LeavesParked.inPlace {x : SessionOp M α} (hx : LeavesParked x)
    (s₀ : SessionInner M) : Op.Keeps (SlotInPlace s₀) x :=
  fun s hs => (hx.slot s).trans hs

theorem LeavesParked.settled {x : SessionOp M α} (hx : LeavesParked x)
    (s₀ : SessionInner M) : Op.Keeps (SlotSettled s₀) x := by
  intro s hs
  unfold SlotSettled SlotInPlace
  rw [hx.slot s]
  exact hs

theorem Touches.leavesParked {W : List Slot} {x : SessionOp M α} (hx : Touches W x)
    (hW : .round ∉ W) : LeavesParked x := by
  intro s _ _
  exact congrArg RoundState.pendingSideBand (hx.roundKept hW s)

theorem leavesParked_update {f : SessionInner M -> SessionInner M}
    (h : forall s, (f s).round.pendingSideBand = s.round.pendingSideBand) :
    LeavesParked (Op.update f : SessionOp M Unit) :=
  Op.Writes.update fun s _ _ => h s

theorem carries_of_leaves {x : SessionOp M α} (hx : LeavesParked x)
    (s₀ : SessionInner M) :
    Op.Triple (SlotInPlace s₀) x (fun _ => SlotInPlace s₀) fun _ => SealCarried s₀ :=
  (Op.Triple.ofKeeps (hx.inPlace s₀)).weaken (fun _ _ h => h) fun _ _ h => Or.inl h

theorem sealCarried_of_quiet {W : List Slot} {x : SessionOp M α} (hx : QuietOp x)
    (hW : Touches W x) (hround : .round ∉ W) (s₀ : SessionInner M) :
    Op.Keeps (SealCarried s₀) x := by
  intro s hs
  have hquiet : Quiet s.core (x.run s).2.core := hx s
  have hslot := (hW.leavesParked hround).slot s
  have hframe : (x.run s).2.core.sideBand = s.core.sideBand := by rw [hquiet.2]
  have hinflight : (x.run s).2.core.inflight = s.core.inflight := by rw [hquiet.2]
  rcases hs with hplace | hreplaced
  · exact Or.inl (hslot.trans hplace)
  · right
    constructor
    · unfold Unstamped
      rw [hslot]
      exact hreplaced.unstamped
    · rw [hframe]
      rcases hreplaced.superseded with hnone | hother | hentered
      · exact Or.inl hnone
      · exact Or.inr (Or.inl hother)
      · right
        right
        unfold RoundEntered
        rw [hinflight]
        rcases hentered with hround' | ⟨hmissing, hheld⟩
        · exact Or.inl hround'
        · refine Or.inr ⟨hmissing, fun hnone => hheld ?_⟩
          have hhalf := hquiet.1 .sendPq
          rw [hnone] at hhalf
          exact hhalf.symm.none_left

theorem leavesParked_dischargeOwedBind :
    LeavesParked (dischargeOwedBind : SessionOp M (Option (DischargedBind M))) := by
  unfold dischargeOwedBind
  refine Op.Writes.looking Op.Still.state fun s => ?_
  split
  · exact Op.Writes.value _
  · refine Op.Writes.bind (leavesParked_update fun _ => rfl) fun _ => ?_
    refine Op.Writes.looking (still_readHalf _ _) fun send => ?_
    refine Op.Writes.looking (still_readHalf _ _) fun sendPq => ?_
    refine Op.Writes.looking (Op.Still.ensure _ _) fun _ => ?_
    refine Op.Writes.looking (Op.Still.ensure _ _) fun _ => ?_
    refine Op.Writes.bind
      ((touches_onHalf (W := [.half .sendPq, .services]) _ _ _ (by decide)
        (by decide)).leavesParked (by decide)) fun apqPsk => ?_
    refine Op.Writes.bind (leavesParked_update fun _ => rfl) fun _ => ?_
    exact Op.Writes.value _

theorem leavesParked_commitRound (folded : Option (PeerProposal M)) (seed : M.Seed) :
    LeavesParked (commitRound folded seed) := by
  unfold commitRound
  refine Op.Writes.bind (touches_rememberSendPsk.leavesParked (by decide)) fun _ => ?_
  refine Op.Writes.bind (touches_crossPskForCommit.leavesParked (by decide))
    fun crossPsk => ?_
  refine Op.Writes.looking still_handoffForCommit fun handoff => ?_
  refine Op.Writes.bind ((touches_refold folded).leavesParked (by decide)) fun _ => ?_
  refine Op.Writes.looking Op.Still.state fun s => ?_
  apply Op.Writes.mapError
  unfold dischargeAndCommit
  refine Op.Writes.bind leavesParked_dischargeOwedBind fun owed => ?_
  exact Touches.leavesParked (touches_commitDischarged _ _ _ _ owed) (by decide)

theorem leavesParked_prepareRatchetCommit (selected : Option Bytes)
    (rnd : Nat -> M.Seed) :
    LeavesParked (prepareRatchetCommit selected rnd) := by
  unfold prepareRatchetCommit
  refine Op.Writes.looking Op.Still.state fun s => ?_
  dsimp only
  refine Op.Writes.bind (leavesParked_update fun _ => rfl) fun _ => ?_
  refine Op.Writes.looking still_peerAppliedOurSendEpoch fun licensed => ?_
  refine Op.Writes.bind ?_ fun _ => ?_
  · exact Op.Writes.ite (leavesParked_commitRound _ _) (Op.Writes.value ())
  refine Op.Writes.bind ((touches_stageSelfUpdate _ _).leavesParked (by decide))
    fun proposal => ?_
  refine Op.Writes.looking Op.Still.state fun s => ?_
  exact Op.Writes.value _

theorem leavesParked_prepared (proposing : Option Bytes) (rnd : Nat -> M.Seed) :
    LeavesParked (prepared proposing rnd) := by
  unfold prepared
  refine Op.Writes.looking still_ensureEstablishmentDelegated fun _ => ?_
  refine Op.Writes.looking Op.Still.state fun s => ?_
  refine Op.Writes.bind ?_ fun result => ?_
  · exact Op.Writes.ite ((touches_preparePreEstablishment _).leavesParked (by decide))
      (leavesParked_prepareRatchetCommit _ _)
  refine Op.Writes.bind (touches_recordListenRendezvous.leavesParked (by decide))
    fun _ => ?_
  exact Op.Writes.value _

theorem leavesParked_composed (appMessage : Bytes) (rnd : Nat -> M.Seed) :
    LeavesParked (composed appMessage rnd) := by
  unfold composed
  refine Op.Writes.looking still_ensureEstablishmentDelegated fun _ => ?_
  refine Op.Writes.looking Op.Still.state fun s => ?_
  refine Op.Writes.looking (Op.Still.ofOption _ _) fun proposalHash => ?_
  dsimp only
  refine Op.Writes.bind (leavesParked_update fun _ => rfl) fun _ => ?_
  refine Op.Writes.looking (Op.Still.ensure _ _) fun _ => ?_
  refine Op.Writes.bind ((touches_callHalf (W := [.half .sendClassical]) _ _ _ _
    (by decide)).leavesParked (by decide)) fun message => ?_
  refine Op.Writes.looking (Op.Still.ofExcept _) fun app => ?_
  refine Op.Writes.looking Op.Still.state fun s => ?_
  refine Op.Writes.looking (Op.Still.ofOption _ _) fun send => ?_
  refine Op.Writes.looking (still_composeFrame _ _ _) fun cipherText => ?_
  exact Op.Writes.value _

theorem leavesParked_commitPqAndOweBind (secret : Bytes) (seed : M.Seed) :
    LeavesParked (commitPqAndOweBind secret seed : SessionOp M Unit) := by
  unfold commitPqAndOweBind
  refine Op.Writes.looking Op.Still.state fun s => ?_
  refine Op.Writes.looking (still_readHalf _ _) fun send => ?_
  refine Op.Writes.looking (still_readHalf _ _) fun sendPq => ?_
  refine Op.Writes.bind
    ((touches_onHalf (W := [.half .sendPq, .services]) _ _ _ (by decide)
      (by decide)).leavesParked (by decide)) fun pqCommit => ?_
  exact leavesParked_update fun _ => rfl

theorem leavesParked_exportCrossFromSendPq :
    LeavesParked (exportCrossFromSendPq : SessionOp M ExportedPsk) := by
  unfold exportCrossFromSendPq
  refine Op.Writes.looking (still_readHalf _ _) fun g => ?_
  refine Op.Writes.bind ((touches_ofGroup (W := [.half .sendPq]) _ _ _
    (by decide)).leavesParked (by decide)) fun exported => ?_
  refine Op.Writes.bind (leavesParked_update fun _ => rfl) fun _ => ?_
  exact Op.Writes.value _

theorem leavesParked_exportCrossFromRecvPq :
    LeavesParked (exportCrossFromRecvPq : SessionOp M ExportedPsk) := by
  unfold exportCrossFromRecvPq
  refine Op.Writes.looking (still_readHalf _ _) fun g => ?_
  refine Op.Writes.bind ((touches_ofGroup (W := [.half .recvPq]) _ _ _
    (by decide)).leavesParked (by decide)) fun exported => ?_
  refine Op.Writes.bind (leavesParked_update fun _ => rfl) fun _ => ?_
  exact Op.Writes.value _

theorem leavesParked_takeResponderSecret :
    LeavesParked (takeResponderSecret : SessionOp M Bytes) := by
  have hreExport : LeavesParked (takeResponderSecret.reExport : SessionOp M Bytes) := by
    unfold takeResponderSecret.reExport
    refine Op.Writes.bind leavesParked_exportCrossFromSendPq fun exported => ?_
    refine Op.Writes.bind (leavesParked_update fun _ => rfl) fun _ => ?_
    exact Op.Writes.value _
  unfold takeResponderSecret
  refine Op.Writes.looking Op.Still.state fun s => ?_
  split
  · refine Op.Writes.bind (leavesParked_update fun _ => rfl) fun _ => ?_
    exact Op.Writes.value _
  · exact hreExport
  · exact hreExport
  · exact Op.Writes.fail _

/-!
## The wrap and the staged round
-/

theorem message_of_due {s : SessionInner M} {kind : PqFrameKind}
    (h : dueLeg s = some kind) :
    exists f m g, s.core.sideBand = some f ∧ f.body.parsed = some m ∧
      s.half .sendClassical = some g ∧
        (M.messageGroupId m = some (M.groupId g) ->
          M.messageEpoch m ≠ some (M.currentEpoch g)) := by
  have hdue := h
  unfold dueLeg at h
  cases hslot : s.round.pendingSideBand with
  | none =>
      rw [hslot] at h
      cases h
  | some retained =>
      cases hsend : s.sendGroup with
      | none =>
          rw [hslot, hsend] at h
          cases h
      | some send =>
          have hparked : s.core.sideBand = some retained.frame := by
            change s.round.pendingSideBand.map _ = _
            rw [hslot]
            rfl
          have held : s.half .sendClassical = some send.classical := by
            change s.sendGroup.map _ = _
            rw [hsend]
            rfl
          rw [hslot, hsend] at h
          dsimp only at h
          split at h
          next hleg =>
            cases hparsed : retained.frame.body.parsed with
            | none =>
                rw [hparsed] at h
                cases h
            | some m =>
                refine ⟨retained.frame, m, send.classical, hparked, hparsed, held, ?_⟩
                intro hid hepoch
                have hcurrent := dueLeg_of_behind hparked hleg hparsed held hid hepoch
                rw [if_neg (Nat.lt_irrefl _), hdue] at hcurrent
                cases hcurrent
          next => cases h

def SlotRewrapped (s₀ s : SessionInner M) : Prop :=
  SlotInPlace s₀ s ∨ (SlotReplaced s₀ s ∧ s.core.sideBand ≠ none)

theorem SlotRewrapped.carried {s₀ s : SessionInner M} (h : SlotRewrapped s₀ s) :
    SealCarried s₀ s := by
  rcases h with hplace | ⟨hreplaced, -⟩
  · exact Or.inl hplace
  · exact Or.inr hreplaced

theorem SlotInPlace.sideBand {s₀ s : SessionInner M} (h : SlotInPlace s₀ s) :
    s.core.sideBand = s₀.core.sideBand :=
  congrArg (Option.map RetainedFrame.frame) h

theorem SealCarried.parked {s₀ s : SessionInner M} {f : SideBand M}
    (hempty : s₀.core.sideBand = none)
    (hparked : s.round.pendingSideBand = some { frame := f, sealedAt := none }) :
    SealCarried s₀ s := by
  refine Or.inr (SlotReplaced.parked hparked (Or.inl ?_))
  rw [hempty]
  exact Option.some_ne_none f

variable (L : Lawful M)

include L

theorem MintedNow.message {kind : PqFrameKind} {payload : Bytes} {f : SideBand M}
    {s s' : SessionInner M} {g : M.Group} (h : MintedNow kind payload f s')
    (hquiet : Quiet s.core s'.core) (held : s.half .sendClassical = some g) :
    exists m, f.body.parsed = some m ∧ M.messageGroupId m = some (M.groupId g) ∧
      M.messageEpoch m = some (M.currentEpoch g) := by
  rcases h with ⟨-, m, g₀, g', hparsed, ⟨seed, hrun⟩, held', hsame⟩
  rcases L.encryptMessage _ _ _ _ _ hrun with ⟨hepoch, hid, -⟩
  rcases hquiet.half_some (h := .sendClassical) held with ⟨g'', held'', hsame'⟩
  have hg : g' = g'' := by
    rw [show s'.core.half .sendClassical = s'.half .sendClassical from rfl, held'] at held''
    exact Option.some.inj held''
  rw [← hg] at hsame'
  refine ⟨m, hparsed, ?_, ?_⟩
  · rw [hid, ← hsame.groupId, hsame'.groupId]
  · rw [hepoch, ← hsame.epoch, hsame'.epoch]

theorem MintedNow.rewraps {kind due : PqFrameKind} {payload : Bytes} {f : SideBand M}
    {s s' : SessionInner M} (h : MintedNow kind payload f s')
    (hquiet : Quiet s.core s'.core) (hdue : dueLeg s = some due) :
    some f ≠ s.core.sideBand := by
  rcases message_of_due hdue with ⟨f₀, m₀, g, hparked, hparsed₀, held, hother⟩
  rcases h.message L hquiet held with ⟨m, hparsed, hid, hepoch⟩
  rw [hparked]
  intro hsame
  cases hsame
  rw [hparsed₀] at hparsed
  cases hparsed
  exact hother hid hepoch

theorem mints_mintLeg (kind : PqFrameKind) (payload : Bytes) (seed : M.Seed)
    (s : SessionInner M) :
    Op.Triple (fun s' => s' = s) (mintLeg kind payload seed)
      (fun f s' => MintedNow kind payload f s' ∧ Quiet s.core s'.core ∧
        SlotInPlace s s')
      fun _ s' => SlotInPlace s s' := by
  rintro s' rfl
  have hminted := triple_mintLeg L kind payload seed s' rfl
  have hquiet : Quiet s'.core ((mintLeg kind payload seed).run s').2.core :=
    quiet_mintLeg L kind payload seed s'
  have hslot := (touches_mintLeg kind payload seed).leavesParked (by decide)
  have hplace := hslot.slot s'
  cases hrun : ((mintLeg kind payload seed).run s').1 with
  | ok f =>
      rw [hrun] at hminted
      exact ⟨hminted.2, hquiet, hplace⟩
  | error e => exact hplace

theorem rewraps_rewrapSideBand (seed : M.Seed) (s₀ : SessionInner M) :
    Op.Triple (SlotInPlace s₀) (rewrapSideBand seed) (fun _ => SlotRewrapped s₀)
      fun _ => SlotRewrapped s₀ := by
  unfold rewrapSideBand
  refine Op.Triple.reading fun s hs => ?_
  have hidle : Op.Triple (fun s' => s' = s) (pure () : SessionOp M Unit)
      (fun _ => SlotRewrapped s₀) fun _ => SlotRewrapped s₀ := by
    apply Op.Triple.value
    rintro s' rfl
    exact Or.inl hs
  split
  next due kind payload hdue hlive =>
    apply Op.Triple.ite
    · intro hkind
      refine Op.Triple.bind (mints_mintLeg L kind payload seed s).attempt fun minted => ?_
      cases minted with
      | ok frame =>
          apply Op.Triple.update
          rintro s' ⟨hminted, hquiet, -⟩
          have hother := hminted.rewraps L hquiet hdue
          rw [hs.sideBand] at hother
          refine Or.inr ⟨SlotReplaced.parked rfl (Or.inl hother), ?_⟩
          exact Option.some_ne_none frame
      | error e =>
          apply Op.Triple.value
          intro s' hplace
          exact Or.inl (hplace.trans hs)
    · intro _
      exact hidle
  next => exact hidle

omit L in
theorem carries_stageRatchet (rnd : Nat -> M.Seed) {s₀ : SessionInner M}
    (hempty : s₀.core.sideBand = none) :
    Op.Triple (SlotInPlace s₀) (stageRatchet rnd) (fun _ => SealCarried s₀)
      fun _ => SealCarried s₀ := by
  unfold stageRatchet
  refine Op.Triple.looking (Op.Still.ofExcept _) (fun _ _ h => Or.inl h) fun eph => ?_
  refine Op.Triple.bind ((Op.Triple.ofKeeps (LeavesParked.inPlace
    ((touches_mintLeg .ratchetEphemeralKey eph.ek (rnd 1)).leavesParked (by decide))
      s₀)).weaken (fun _ _ h => h) fun _ _ h => Or.inl h) fun frame => ?_
  apply Op.Triple.update
  intro s _
  exact SealCarried.parked hempty rfl

omit L in
theorem carries_stageRekey (rotating : Option Bytes) (seed : M.Seed)
    {s₀ : SessionInner M} (hempty : s₀.core.sideBand = none) :
    Op.Triple (SlotInPlace s₀) (stageRekey rotating seed) (fun _ => SealCarried s₀)
      fun _ => SealCarried s₀ := by
  unfold stageRekey
  refine Op.Triple.looking Op.Still.state (fun _ _ h => Or.inl h) fun s => ?_
  refine Op.Triple.looking (Op.Still.ensure _ _) (fun _ _ h => Or.inl h) fun _ => ?_
  dsimp only
  refine Op.Triple.bind (carries_of_leaves ((touches_callHalf (W := [.half .recvPq])
    _ _ _ _ (by decide)).leavesParked (by decide)) s₀) fun proposal => ?_
  refine Op.Triple.looking (Op.Still.ofExcept _) (fun _ _ h => Or.inl h) fun body => ?_
  apply Op.Triple.update
  intro s _
  exact SealCarried.parked hempty rfl

omit L in
theorem carries_maybeStageNextRound (rnd : Nat -> M.Seed) (s₀ : SessionInner M) :
    Op.Triple (SlotRewrapped s₀) (maybeStageNextRound rnd) (fun _ => SealCarried s₀)
      fun _ => SealCarried s₀ := by
  unfold maybeStageNextRound
  refine Op.Triple.reading fun s hs => ?_
  apply Op.Triple.ite
  · intro hidle
    have hnone : s.core.sideBand = none := by
      unfold sideBandIdle at hidle
      simp only [Bool.and_eq_true] at hidle
      change s.round.pendingSideBand.map _ = none
      rw [Option.isNone_iff_eq_none.mp hidle.1.2]
      rfl
    have hplace : SlotInPlace s₀ s := by
      rcases hs with hplace | ⟨-, hheld⟩
      · exact hplace
      · exact absurd hnone hheld
    have hempty : s₀.core.sideBand = none := by
      rw [← hplace.sideBand]
      exact hnone
    have hstart : forall s' : SessionInner M, s' = s -> SlotInPlace s₀ s' := by
      rintro s' rfl
      exact hplace
    have hstaged : forall {β : Type} {x : SessionOp M β} (b : Except TwoMlsPqError β -> Bool),
        Op.Triple (SlotInPlace s₀) x (fun _ => SealCarried s₀) (fun _ => SealCarried s₀) ->
        Op.Triple (fun s' => s' = s)
          (do
            let staged <- Op.attempt x
            pure (b staged) : SessionOp M Bool)
          (fun _ => SealCarried s₀) fun _ => SealCarried s₀ := by
      intro β x b hx
      refine Op.Triple.bind (hx.pre hstart).attempt fun staged => ?_
      apply Op.Triple.value
      intro s' hs'
      cases staged with
      | ok _ => exact hs'
      | error e => exact hs'
    apply Op.Triple.ite
    · intro _
      exact hstaged _ (carries_stageRekey _ _ hempty)
    · intro _
      exact hstaged _ (carries_stageRatchet _ hempty)
  · intro _
    apply Op.Triple.value
    rintro s' rfl
    exact hs.carried

/-!
## The doors that send
-/

theorem carries_prepareToEncryptInner (proposing : Option Bytes) (rnd : Nat -> M.Seed)
    (s₀ : SessionInner M) :
    Op.Triple (SlotInPlace s₀) (prepareToEncryptInner proposing rnd)
      (fun _ => SealCarried s₀) fun _ => SealCarried s₀ := by
  rw [prepareToEncryptInner_eq]
  refine Op.Triple.bind (carries_of_leaves (leavesParked_prepared _ _) s₀)
    fun result => ?_
  refine Op.Triple.bind (Q := fun _ => SealCarried s₀) ?_ fun _ => ?_
  · exact (rewraps_rewrapSideBand L _ s₀).weaken (fun _ _ h => h.carried)
      fun _ _ h => h.carried
  · exact Op.Triple.value fun _ hs => hs

theorem carries_encryptInner (appMessage : Bytes) (rnd : Nat -> M.Seed)
    (s₀ : SessionInner M) :
    Op.Triple (SlotInPlace s₀) (encryptInner appMessage rnd)
      (fun _ => SealCarried s₀) fun _ => SealCarried s₀ := by
  rw [encryptInner_eq]
  refine Op.Triple.bind (carries_of_leaves (leavesParked_composed _ _) s₀)
    fun result => ?_
  refine Op.Triple.bind ((rewraps_rewrapSideBand L _ s₀).weaken (fun _ _ h => h)
    fun _ _ h => h.carried) fun _ => ?_
  refine Op.Triple.bind (carries_maybeStageNextRound _ s₀) fun stagedPqRound => ?_
  exact Op.Triple.value fun _ hs => hs

/-!
## The doors that receive
-/

omit L in
theorem settled_applyBindStaple (tMessage pqMessage : Blob M) (s₀ : SessionInner M) :
    Op.Keeps (SlotSettled s₀) (applyBindStaple tMessage pqMessage) := by
  unfold applyBindStaple
  refine Op.Keeps.bind (leavesParked_takeResponderSecret.settled s₀) fun secret => ?_
  refine Op.Keeps.bind ((touches_rememberRecvAttachmentComponent.leavesParked
    (by decide)).settled s₀) fun _ => ?_
  refine Op.Keeps.bind (((touches_applyBind secret pqMessage tMessage).leavesParked
    (by decide)).settled s₀).attempt fun applied => ?_
  cases applied with
  | ok moved =>
      refine Op.Keeps.bind (Op.Keeps.update fun _ _ => Or.inr rfl) fun _ => ?_
      exact Op.Keeps.value _
  | error e =>
      refine Op.Keeps.bind (Op.Keeps.update fun _ h => h) fun _ => ?_
      exact Op.Keeps.fail _

omit L in
theorem settled_applyIfCurrent {s₀ : SessionInner M}
    {apply : M.Message -> SessionOp M LeafChanges}
    (happly : forall m, Op.Keeps (SlotSettled s₀) (apply m)) (commit : Option M.Message) :
    Op.Keeps (SlotSettled s₀) (applyIfCurrent commit apply) := by
  unfold applyIfCurrent
  refine Op.Keeps.looking (Op.Still.ofOption _ _) fun message => ?_
  refine Op.Keeps.looking Op.Still.state fun s => ?_
  refine Op.Keeps.looking (Op.Still.ofExcept _) fun action => ?_
  cases action with
  | skip => exact Op.Keeps.value _
  | apply => exact Op.Keeps.bind (happly message) fun moved => Op.Keeps.value _

omit L in
theorem settled_processStaple (staple : Staple M)
    (approval : Option EstablishmentApproval) (s₀ : SessionInner M) :
    Op.Keeps (SlotSettled s₀) (processStaple staple approval) := by
  have hjoin : forall w establishment,
      Op.Keeps (SlotSettled s₀) (joinReporting w establishment) := fun w establishment =>
    ((touches_joinReporting w establishment).leavesParked (by decide)).settled s₀
  unfold processStaple
  refine Op.Keeps.looking Op.Still.state fun s => ?_
  cases staple with
  | badHandoff => exact Op.Keeps.fail _
  | badBind => exact Op.Keeps.fail _
  | handoff envelope w =>
      dsimp only
      apply Op.Keeps.ite
      · split
        · exact Op.Keeps.value _
        · exact Op.Keeps.bind (hjoin _ _) fun _ => Op.Keeps.value _
      · exact Op.Keeps.bind (((touches_processWelcome w .bare).leavesParked
          (by decide)).settled s₀) fun _ => Op.Keeps.value _
  | welcome w => exact Op.Keeps.bind (hjoin _ _) fun _ => Op.Keeps.value _
  | bind tMessage pqMessage =>
      refine Op.Keeps.bind (settled_applyIfCurrent
        (fun _ => settled_applyBindStaple tMessage pqMessage s₀) _) fun outcome => ?_
      exact Op.Keeps.value _
  | commit message =>
      refine Op.Keeps.bind (settled_applyIfCurrent (fun m => ?_) _) fun outcome => ?_
      · exact ((touches_applyCommitStaple m).leavesParked (by decide)).settled s₀
      · exact Op.Keeps.value _

omit L in
theorem settled_processMessage (staple : Staple M) (proposal : ProposalSection M)
    (app : Blob M) (approval : Option EstablishmentApproval) (s₀ : SessionInner M) :
    Op.Keeps (SlotSettled s₀) (processMessage staple proposal app approval) := by
  unfold processMessage
  refine Op.Keeps.looking (Op.Still.ofOption _ _) fun appMessage => ?_
  refine Op.Keeps.bind (settled_processStaple staple approval s₀) fun outcome => ?_
  cases outcome with
  | none =>
      cases staple with
      | handoff envelope w => exact Op.Keeps.value _
      | _ => exact Op.Keeps.value _
  | some outcome =>
      refine Op.Keeps.bind (((touches_processMessageBody outcome proposal
        appMessage).leavesParked (by decide)).settled s₀) fun result => ?_
      exact Op.Keeps.value _

omit L in
theorem settled_processIncomingInner (frame : Frame M)
    (approval : Option EstablishmentApproval) (s₀ : SessionInner M) :
    Op.Keeps (SlotSettled s₀) (processIncomingInner frame approval) := by
  have hjoin : forall w establishment,
      Op.Keeps (SlotSettled s₀) (joinStandalone w establishment) := by
    intro w establishment
    unfold joinStandalone
    refine Op.Keeps.bind (((touches_joinReporting w establishment).leavesParked
      (by decide)).settled s₀) fun _ => ?_
    refine Op.Keeps.looking Op.Still.state fun s => ?_
    split
    · exact Op.Keeps.value _
    · exact Op.Keeps.value _
  unfold processIncomingInner
  refine Op.Keeps.looking Op.Still.state fun s => ?_
  refine Op.Keeps.looking (Op.Still.ensure _ _) fun _ => ?_
  cases frame with
  | badHandoff => exact Op.Keeps.fail _
  | badMessage => exact Op.Keeps.fail _
  | sideBand f => exact Op.Keeps.fail _
  | unknown => exact Op.Keeps.fail _
  | welcome w => exact hjoin _ _
  | handoff envelope w =>
      dsimp only
      apply Op.Keeps.ite
      · exact Op.Keeps.bind (((touches_processWelcome w .bare).leavesParked
          (by decide)).settled s₀) fun _ => Op.Keeps.value _
      · split
        · exact Op.Keeps.value _
        · exact hjoin _ _
  | message staple proposal app =>
      exact settled_processMessage staple proposal app approval s₀
  | preEstablishment app =>
      refine Op.Keeps.looking (Op.Still.ofOption _ _) fun appMessage => ?_
      exact Op.Keeps.bind (((touches_decryptApp appMessage).leavesParked
        (by decide)).settled s₀) fun _ => Op.Keeps.value _

/-!
## The binds
-/

omit L in
theorem settled_pastNoReturn {round : PqWedge} {x : SessionOp M Unit}
    {s₀ : SessionInner M} (hx : Op.Keeps (SlotSettled s₀) x) :
    Op.Keeps (SlotSettled s₀)
      (do
        pastNoReturn round x
        recordPqHeaderKeyPostCommit : SessionOp M Unit) := by
  unfold pastNoReturn
  refine Op.Keeps.bind (Op.Keeps.bind hx.attempt fun r => ?_) fun _ => ?_
  · cases r with
    | ok _ => exact Op.Keeps.value ()
    | error e =>
        refine Op.Keeps.bind (Op.Keeps.update fun _ h => h) fun _ => ?_
        exact Op.Keeps.fail _
  · exact (touches_recordPqHeaderKeyPostCommit.leavesParked (by decide)).settled s₀

omit L in
theorem leavesParked_openCiphertextLeg (leg : M.Message) (carrier : LegCarrier) :
    LeavesParked (openCiphertextLeg leg carrier) := by
  unfold openCiphertextLeg
  cases carrier with
  | classical =>
      exact (touches_processA4Leg (W := [.half .recvClassical]) _ _ _
        (by decide)).leavesParked (by decide)
  | pq =>
      refine Op.Writes.bind ((touches_processA4Leg (W := [.half .sendPq]) _ _ _
        (by decide)).leavesParked (by decide)).attempt fun opened => ?_
      cases opened with
      | ok payload => exact Op.Writes.value _
      | error e =>
          refine Op.Writes.bind ((touches_mapGroup (W := [.half .sendPq]) _ _ _
            (by decide)).leavesParked (by decide)) fun _ => ?_
          exact Op.Writes.fail _

omit L in
theorem still_openRoundSecret (wireCt : Bytes) :
    Op.Still (openRoundSecret wireCt : SessionOp M Bytes) := by
  unfold openRoundSecret
  refine Op.Still.bind (still_readHalf _ _) fun sendPq => ?_
  refine Op.Still.bind (Op.Still.ofExcept _) fun psk => ?_
  refine Op.Still.bind Op.Still.state fun s => ?_
  split
  · exact Op.Still.ofExcept _
  · exact Op.Still.fail _

omit L in
theorem leavesParked_preRegisterSendPq :
    LeavesParked (preRegisterSendPq : SessionOp M (Option PskId)) := by
  unfold preRegisterSendPq
  refine Op.Writes.looking (still_readHalf _ _) fun sendPq => ?_
  refine Op.Writes.looking Op.Still.state fun s => ?_
  apply Op.Writes.ite
  · refine Op.Writes.bind leavesParked_exportCrossFromSendPq fun exported => ?_
    refine Op.Writes.bind (leavesParked_update fun _ => rfl) fun _ => ?_
    exact Op.Writes.value _
  · exact Op.Writes.value _

omit L in
theorem settled_ratchetBindInner (leg : M.Message) (carrier : LegCarrier)
    (seed : M.Seed) (s₀ : SessionInner M) :
    Op.Keeps (SlotSettled s₀) (ratchetBindInner leg carrier seed) := by
  unfold ratchetBindInner
  refine Op.Keeps.bind ((leavesParked_openCiphertextLeg leg carrier).settled s₀)
    fun wireCt => ?_
  refine Op.Keeps.looking (still_openRoundSecret wireCt) fun secret => ?_
  refine Op.Keeps.bind ((touches_rememberSendPsk.leavesParked (by decide)).settled s₀)
    fun _ => ?_
  apply settled_pastNoReturn
  refine Op.Keeps.bind (Op.Keeps.update fun _ h => h) fun _ => ?_
  refine Op.Keeps.bind ((leavesParked_commitPqAndOweBind secret seed).settled s₀)
    fun _ => ?_
  exact Op.Keeps.update fun _ _ => Or.inr rfl

omit L in
theorem settled_rekeyApplyInner (commit : Blob M) (seed : M.Seed)
    (s₀ : SessionInner M) :
    Op.Keeps (SlotSettled s₀) (rekeyApplyInner commit seed) := by
  unfold rekeyApplyInner
  refine Op.Keeps.looking (Op.Still.ofOption _ _) fun message => ?_
  refine Op.Keeps.bind (leavesParked_preRegisterSendPq.settled s₀) fun preRegistered => ?_
  refine Op.Keeps.bind (((touches_applyRekeyCommit message).leavesParked
    (by decide)).settled s₀) fun _ => ?_
  apply settled_pastNoReturn
  refine Op.Keeps.bind (Op.Keeps.update fun _ h => h) fun _ => ?_
  refine Op.Keeps.bind (LeavesParked.settled (leavesParked_update fun s => ?_) s₀)
    fun _ => ?_
  · cases preRegistered with
    | none => rfl
    | some id => rfl
  refine Op.Keeps.bind (leavesParked_exportCrossFromRecvPq.settled s₀) fun exported => ?_
  refine Op.Keeps.bind ((leavesParked_commitPqAndOweBind exported.psk seed).settled s₀)
    fun _ => ?_
  refine Op.Keeps.bind (Op.Keeps.update fun _ h => h) fun _ => ?_
  exact Op.Keeps.update fun _ _ => Or.inr rfl

omit L in
theorem settled_bootstrapBindInner (welcome : Blob M) (seed : M.Seed)
    (s₀ : SessionInner M) :
    Op.Keeps (SlotSettled s₀) (bootstrapBindInner welcome seed) := by
  have htracked : LeavesParked (Op.update fun s : SessionInner M =>
      trackPskStores s.client s) :=
    Touches.leavesParked (W := [.ledger]) (touches_update fun s =>
      confined_trackPskStores s.client (by decide) s) (by decide)
  unfold bootstrapBindInner
  refine Op.Keeps.bind (htracked.settled s₀) fun _ => ?_
  refine Op.Keeps.looking (still_joinDeferredPqHalf welcome) fun pq => ?_
  apply settled_pastNoReturn
  refine Op.Keeps.bind (Op.Keeps.update fun _ h => h) fun _ => ?_
  refine Op.Keeps.bind (leavesParked_exportCrossFromRecvPq.settled s₀) fun exported => ?_
  refine Op.Keeps.bind ((leavesParked_commitPqAndOweBind exported.psk seed).settled s₀)
    fun _ => ?_
  exact Op.Keeps.update fun _ _ => Or.inr rfl

/-!
## The answers
-/

omit L in
theorem RoundEntered.answering {c c' : Core M} (hidle : c.inflight = none)
    (h : c'.inflight ≠ none) : RoundEntered c c' := by
  refine Or.inl ⟨h, ?_⟩
  rw [hidle]
  exact h

omit L in
theorem carries_ratchetRespondInner (leg : M.Message) (rnd : Nat -> M.Seed)
    {s₀ : SessionInner M} (hidle : s₀.core.inflight = none) :
    Op.Triple (SlotInPlace s₀) (ratchetRespondInner leg rnd) (fun _ => SealCarried s₀)
      fun _ => SealCarried s₀ := by
  unfold ratchetRespondInner
  refine Op.Triple.bind (carries_of_leaves ((touches_processA4Leg
    (W := [.half .recvClassical]) _ _ _ (by decide)).leavesParked (by decide)) s₀)
      fun ek => ?_
  refine Op.Triple.looking (still_readHalf _ _) (fun _ _ h => Or.inl h) fun recvPq => ?_
  refine Op.Triple.looking (Op.Still.ofExcept _) (fun _ _ h => Or.inl h) fun psk => ?_
  refine Op.Triple.looking (Op.Still.ofExcept _) (fun _ _ h => Or.inl h)
    fun encapsulated => ?_
  rcases encapsulated with ⟨secret, wireCt⟩
  dsimp only
  refine Op.Triple.bind (carries_of_leaves ((touches_callHalf (W := [.half .sendClassical])
    _ _ _ _ (by decide)).leavesParked (by decide)) s₀) fun message => ?_
  refine Op.Triple.bind (Q := fun _ s => SlotInPlace s₀ s ∧
    s.core.inflight = some (.responding secret (some wireCt))) ?_ fun _ => ?_
  · apply Op.Triple.update
    intro s hs
    exact ⟨hs, rfl⟩
  refine Op.Triple.looking (Op.Still.ofExcept _) (fun _ _ h => Or.inl h.1) fun body => ?_
  apply Op.Triple.update
  rintro s ⟨-, hinflight⟩
  refine Or.inr (SlotReplaced.parked rfl (Or.inr (RoundEntered.answering hidle ?_)))
  change s.core.inflight ≠ none
  rw [hinflight]
  exact Option.some_ne_none _

omit L in
theorem leavesParked_crossPskForRekey :
    LeavesParked (crossPskForRekey : SessionOp M (Option ExportedPsk)) := by
  unfold crossPskForRekey
  refine Op.Writes.looking (still_readHalf _ _) fun recvPq => ?_
  refine Op.Writes.looking Op.Still.state fun s => ?_
  apply Op.Writes.ite
  · exact Op.Writes.value _
  · refine Op.Writes.bind leavesParked_exportCrossFromRecvPq fun exported => ?_
    refine Op.Writes.bind (leavesParked_update fun _ => rfl) fun _ => ?_
    exact Op.Writes.value _

omit L in
theorem carries_rekeyRespondInner (proposal : M.Message) (seed : M.Seed)
    {s₀ : SessionInner M} (hidle : s₀.core.inflight = none) :
    Op.Triple (SlotInPlace s₀) (rekeyRespondInner proposal seed)
      (fun _ => SealCarried s₀) fun _ => SealCarried s₀ := by
  have hcall : forall {β : Type} (err : MlsError -> TwoMlsPqError)
      (f : MlsEnv -> M.Group -> Except MlsError β × M.Group),
      Op.Triple (SlotInPlace s₀) (callHalf .sendPq .sessionNotReady err f)
        (fun _ => SlotInPlace s₀) fun _ => SealCarried s₀ := fun err f =>
    carries_of_leaves ((touches_callHalf (W := [.half .sendPq]) _ _ _ _
      (by decide)).leavesParked (by decide)) s₀
  unfold rekeyRespondInner
  refine Op.Triple.bind (carries_of_leaves leavesParked_crossPskForRekey s₀)
    fun crossPsk => ?_
  refine Op.Triple.bind (carries_of_leaves ((touches_ingestRekeyUpdate
    proposal).leavesParked (by decide)) s₀) fun rotated => ?_
  refine Op.Triple.looking still_rekeyHandoff (fun _ _ h => Or.inl h) fun handoff => ?_
  refine Op.Triple.bind (hcall _ _) fun output => ?_
  refine Op.Triple.bind (hcall _ _) fun _ => ?_
  refine Op.Triple.looking (still_readHalf _ _) (fun _ _ h => Or.inl h) fun sendPq => ?_
  refine Op.Triple.looking (Op.Still.ofExcept _) (fun _ _ h => Or.inl h) fun _ => ?_
  refine Op.Triple.looking (Op.Still.ofExcept _) (fun _ _ h => Or.inl h) fun body => ?_
  refine Op.Triple.bind (Q := fun _ _ => True) (Op.Triple.update fun _ _ => True.intro)
    fun _ => ?_
  refine Op.Triple.bind (Q := fun _ _ => True) (Op.Triple.update fun _ _ => True.intro)
    fun _ => ?_
  refine Op.Triple.bind (Q := fun _ => SealCarried s₀) ?_ fun _ => ?_
  · apply Op.Triple.update
    intro s _
    exact Or.inr (SlotReplaced.parked rfl
      (Or.inr (RoundEntered.answering hidle (Option.some_ne_none _))))
  refine Op.Triple.bind (Op.Triple.ofKeeps (sealCarried_of_quiet
    (quiet_recordPqHeaderKeyPostCommit) touches_recordPqHeaderKeyPostCommit
      (by decide) s₀)) fun _ => ?_
  exact Op.Triple.value fun _ hs => hs

omit L in
theorem carries_bootstrapRespondInner (kp : Blob M) (rnd : Nat -> M.Seed)
    {s₀ : SessionInner M} (hmissing : s₀.half .sendPq = none) :
    Op.Triple (SlotInPlace s₀) (bootstrapRespondInner kp rnd) (fun _ => SealCarried s₀)
      fun _ => SealCarried s₀ := by
  have hcreate : Op.Triple (SlotInPlace s₀) (createDeferredPqHalf kp rnd)
      (fun _ s => s.half .sendPq ≠ none) fun _ => SealCarried s₀ := by
    unfold createDeferredPqHalf
    refine Op.Triple.reading fun s hs => ?_
    dsimp only
    have hkept : forall (e : TwoMlsPqError) (s' : SessionInner M), s' = s ->
        SealCarried s₀ s' := by
      rintro _ s' rfl
      exact Or.inl hs
    refine Op.Triple.knowing (Op.Returns.ofOption _ _)
      (Op.Triple.keptBy (Op.Still.ofOption _ _) hkept) fun send hsend => ?_
    refine Op.Triple.looking (Op.Still.ensure _ _) hkept fun _ => ?_
    refine Op.Triple.looking (Op.Still.ofExcept _) hkept fun classicalInfo => ?_
    refine Op.Triple.looking (Op.Still.ofExcept _) hkept fun created => ?_
    rcases created with ⟨pqGroup, pqWelcome⟩
    dsimp only
    refine Op.Triple.bind (Q := fun _ s' => s'.half .sendPq ≠ none) ?_ fun _ => ?_
    · apply Op.Triple.update
      rintro s' rfl
      change (s'.sendGroup.map fun cg => cg.setPq pqGroup s'.client).bind
        CombinerGroup.pq ≠ none
      rw [hsend]
      exact Option.some_ne_none _
    · exact Op.Triple.value fun _ h => h
  have htracked : LeavesParked (Op.update fun s : SessionInner M =>
      trackPskStores s.client s) :=
    Touches.leavesParked (W := [.ledger]) (touches_update fun s =>
      confined_trackPskStores s.client (by decide) s) (by decide)
  unfold bootstrapRespondInner
  refine Op.Triple.bind (carries_of_leaves htracked s₀) fun _ => ?_
  refine Op.Triple.looking (Op.Still.ofExcept _) (fun _ _ h => Or.inl h)
    fun founding => ?_
  refine Op.Triple.bind (Q := fun _ => SlotInPlace s₀)
    (Op.Triple.update fun _ hs => hs) fun _ => ?_
  refine Op.Triple.bind hcreate fun welcome => ?_
  refine Op.Triple.bind (Q := fun _ => SealCarried s₀) ?_ fun _ => ?_
  · apply Op.Triple.update
    intro s hs
    exact Or.inr (SlotReplaced.parked rfl (Or.inr (Or.inr ⟨hmissing, hs⟩)))
  exact Op.Triple.ofKeeps (sealCarried_of_quiet quiet_recordPqHeaderKeyPostCommit
    touches_recordPqHeaderKeyPostCommit (by decide) s₀)

omit L in
theorem carries_bootstrapEnvelopeInner (seed : M.Seed) (s₀ : SessionInner M) :
    Op.Triple (fun s => s = s₀) (bootstrapEnvelopeInner seed)
      (fun _ => SealCarried s₀) fun _ => SealCarried s₀ := by
  have hkept : forall (e : TwoMlsPqError) (s : SessionInner M), s = s₀ ->
      SealCarried s₀ s := by
    rintro _ s rfl
    exact Or.inl rfl
  unfold bootstrapEnvelopeInner
  refine Op.Triple.reading fun s hs => ?_
  subst hs
  refine Op.Triple.looking (Op.Still.ofOption _ _) hkept fun theirKp => ?_
  refine Op.Triple.looking ?_ hkept fun frame => ?_
  · split
    · exact Op.Still.value _
    · exact Op.Still.bind (Op.Still.ofOption _ _) fun _ => Op.Still.value _
  refine Op.Triple.looking (Op.Still.ofExcept _) hkept fun _ => ?_
  refine Op.Triple.bind (Q := fun _ => SealCarried s) ?_ fun _ =>
    Op.Triple.value fun _ h => h
  apply Op.Triple.ite
  · intro hidle
    unfold registerBootstrapRound
    refine Op.Triple.looking (Op.Still.ofExcept _) hkept fun founding => ?_
    dsimp only
    apply Op.Triple.update
    rintro s' rfl
    refine Or.inr (SlotReplaced.parked rfl (Or.inr (RoundEntered.answering ?_ ?_)))
    · exact Option.isNone_iff_eq_none.mp hidle
    · exact Option.some_ne_none _
  · intro _
    exact Op.Triple.value fun s' hs' => hkept .mls s' hs'

/-!
## One call
-/

omit L in
theorem carried_counter {s₀ s : SessionInner M} (n : Nat) (h : SealCarried s₀ s) :
    SealCarried s₀ { s with stateSeq := n } :=
  h.congr rfl rfl rfl rfl

theorem carries_encodeBlob (kind : BlobKind) (s₀ : SessionInner M) :
    Op.Keeps (SealCarried s₀) (encodeBlob kind) :=
  sealCarried_of_quiet (quiet_encodeBlob L kind) (touches_encodeBlob kind) (by decide) s₀

theorem carries_encodeAndPush (kind : BlobKind) (s₀ : SessionInner M) :
    Op.Keeps (fun t : TwoMlsPqSession M => SealCarried s₀ t.inner)
      (encodeAndPush kind) :=
  keeps_encodeAndPush (carries_encodeBlob L kind s₀)

theorem carries_persistAfter (kind : BlobKind) (s₀ : SessionInner M) :
    Op.Keeps (fun t : TwoMlsPqSession M => SealCarried s₀ t.inner)
      (persistAfter kind) :=
  persistAfter_keeps (carries_encodeBlob L kind s₀) fun _ n h => carried_counter n h

theorem carries_persistHandOut (s₀ : SessionInner M) :
    Op.Keeps (fun t : TwoMlsPqSession M => SealCarried s₀ t.inner)
      (persistHandOut : ApiOp M Unit) := by
  unfold persistHandOut
  refine Op.Keeps.bind (bumpSeq_keeps fun _ n h => carried_counter n h) fun _ => ?_
  exact Op.Keeps.bind (carries_encodeAndPush L .core s₀).attempt fun _ =>
    Op.Keeps.value ()

theorem carries_mutateAndPersist {k : BlobKind} {x : SessionOp M α}
    {t : TwoMlsPqSession M} (hx : SealCarried (started t) (x.run (started t)).2) :
    SealCarried t.inner ((mutateAndPersist k x).run t).2.inner := by
  unfold started at hx
  by_cases hseq : t.inner.stateSeq < maxSeq
  · rw [if_pos hseq] at hx
    rw [run_mutateAndPersist_state hseq]
    exact carries_encodeAndPush L k t.inner (mutated x t) (hx.congr rfl rfl rfl rfl)
  · rw [if_neg hseq] at hx
    rw [run_mutateAndPersist_exhausted hseq]
    exact hx

theorem carries_mutateAndPersist_leaves {k : BlobKind} {x : SessionOp M α}
    (hx : LeavesParked x) (t : TwoMlsPqSession M) :
    SealCarried t.inner ((mutateAndPersist k x).run t).2.inner :=
  carries_mutateAndPersist L (Or.inl (hx.slot (started t)))

theorem carries_mutateAndPersist_settled {k : BlobKind} {x : SessionOp M α}
    {t : TwoMlsPqSession M} (hx : Op.Keeps (SlotSettled (started t)) x) :
    SealCarried t.inner ((mutateAndPersist k x).run t).2.inner :=
  carries_mutateAndPersist L (SlotSettled.carried (hx (started t) (Or.inl rfl)))

theorem carries_mutateAndPersist_triple {k : BlobKind} {x : SessionOp M α}
    {t : TwoMlsPqSession M}
    (hx : Op.Triple (SlotInPlace (started t)) x (fun _ => SealCarried (started t))
      fun _ => SealCarried (started t)) :
    SealCarried t.inner ((mutateAndPersist k x).run t).2.inner :=
  carries_mutateAndPersist L (hx.always (show SlotInPlace (started t) (started t) from rfl))

omit L in
theorem carries_guarded {β : Type} {guard : SessionOp M β} {body : β -> ApiOp M α}
    {t : TwoMlsPqSession M} (hguard : Op.Still guard)
    (hbody : forall b, (guard.run t.inner).1 = .ok b ->
      SealCarried t.inner ((body b).run t).2.inner) :
    SealCarried t.inner ((do
      let b <- locked guard
      body b : ApiOp M α).run t).2.inner := by
  have hlocked := run_locked_still hguard t
  cases hrun : (guard.run t.inner).1 with
  | error e =>
      rw [hrun] at hlocked
      rw [Op.run_bind_error hlocked]
      exact Or.inl rfl
  | ok b =>
      rw [hrun] at hlocked
      rw [Op.run_bind_ok hlocked]
      exact hbody b hrun

omit L in
theorem still_locked {x : SessionOp M α} (hx : Op.Still x) :
    Op.Still (locked x : ApiOp M α) := by
  intro t
  rw [run_locked_still hx]

omit L in
theorem leavesParked_setInitialField (apply : EstablishmentState M -> EstablishmentState M)
    (seed : M.Seed) :
    LeavesParked (do
      let s <- Op.state
      Op.ensure (s.recvGroup.isNone ∧ s.establishment.initialTheirKp.isSome)
        .sessionNotReady
      Op.update fun s => s.mapEstablishment apply
      let envelope <- composeInitialEnvelope none seed
      Op.update fun s => s.mapMsg fun m =>
        { m with
          pendingOutbound := some (.envelope envelope)
          currentStapleSeq := s.stateSeq } : SessionOp M Unit) := by
  refine Op.Writes.looking Op.Still.state fun s => ?_
  refine Op.Writes.looking (Op.Still.ensure _ _) fun _ => ?_
  refine Op.Writes.bind (leavesParked_update fun _ => rfl) fun _ => ?_
  refine Op.Writes.looking (still_composeInitialEnvelope _ _) fun envelope => ?_
  exact leavesParked_update fun _ => rfl

theorem carries_installSink (s₀ : SessionInner M) :
    Op.Keeps (fun t : TwoMlsPqSession M => SealCarried s₀ t.inner)
      (Session.installSink : ApiOp M Unit) := by
  unfold installSink
  refine Op.Keeps.looking Op.Still.state fun t => ?_
  refine Op.Keeps.looking (Op.Still.ensure _ _) fun _ => ?_
  refine Op.Keeps.bind (Op.Keeps.update fun _ h => h) fun _ => ?_
  exact carries_encodeAndPush L .checkpoint s₀

theorem carries_pendingOutbound (s₀ : SessionInner M) :
    Op.Keeps (fun t : TwoMlsPqSession M => SealCarried s₀ t.inner)
      (pendingOutbound : ApiOp M (Option (Outbound M))) := by
  unfold pendingOutbound
  refine Op.Keeps.looking
    (Op.Still.attempt (still_locked still_ensureEstablishmentDelegated)) fun delegated => ?_
  refine Op.Keeps.looking Op.Still.state fun t => ?_
  split
  · refine Op.Keeps.bind (Op.Keeps.update fun _ h => h.congr rfl rfl rfl rfl)
      fun _ => ?_
    refine Op.Keeps.looking ?_ fun out => ?_
    · apply Op.Still.ite
      · exact Op.Still.bind (Op.Still.attempt (still_locked still_sealFrame)) fun _ =>
          Op.Still.value _
      · exact Op.Still.value _
    · exact Op.Keeps.bind (carries_persistHandOut L s₀) fun _ => Op.Keeps.value _
  · exact Op.Keeps.value _

theorem carries_pqTakePendingOutbound (s₀ : SessionInner M) :
    Op.Keeps (fun t : TwoMlsPqSession M => SealCarried s₀ t.inner)
      (pqTakePendingOutbound : ApiOp M (Option (SideBand M))) := by
  unfold pqTakePendingOutbound
  refine Op.Keeps.looking
    (Op.Still.attempt (still_locked still_ensureEstablishmentDelegated)) fun delegated => ?_
  refine Op.Keeps.looking Op.Still.state fun t => ?_
  split
  · refine Op.Keeps.bind (Op.Keeps.update fun _ _ => Or.inr (SlotReplaced.empty rfl))
      fun _ => ?_
    refine Op.Keeps.looking (Op.Still.attempt (still_locked (still_sealSideBand _))) fun _ => ?_
    exact Op.Keeps.bind (carries_persistHandOut L s₀) fun _ => Op.Keeps.value _
  · exact Op.Keeps.value _

omit L in
theorem carries_here {x : ApiOp M α} {t : TwoMlsPqSession M}
    (h : SealCarried t.inner (x.run t).2.inner) :
    Op.Triple (fun t' => t' = t) x (fun _ t' => SealCarried t.inner t'.inner)
      fun _ t' => SealCarried t.inner t'.inner := by
  rintro t' rfl
  cases (x.run t').1 with
  | ok a => exact h
  | error e => exact h

theorem carries_installEstablishmentEnvelope (envelope : Bytes) (t : TwoMlsPqSession M) :
    SealCarried t.inner
      ((Session.installEstablishmentEnvelope envelope).run t).2.inner := by
  have hkept : forall (e : TwoMlsPqError) (t' : TwoMlsPqSession M), t' = t ->
      SealCarried t.inner t'.inner := by
    rintro _ t' rfl
    exact Or.inl rfl
  refine Op.Triple.always (P := fun t' => t' = t)
    (I := fun t' => SealCarried t.inner t'.inner) ?_ rfl
  unfold Session.installEstablishmentEnvelope
  refine Op.Triple.looking (Op.Still.ensure _ _) hkept fun _ => ?_
  refine Op.Triple.looking Op.Still.state hkept fun t₁ => ?_
  split
  · exact (Op.Triple.keptBy (Op.Still.ensure _ _) hkept).post fun _ t' h =>
      hkept .mls t' h
  · exact carries_here (carries_mutateAndPersist_leaves L
      ((touches_installEnvelopeInner envelope).leavesParked (by decide)) t)

theorem carries_queueProposal (digest : Bytes) (t : TwoMlsPqSession M) :
    SealCarried t.inner ((Session.queueProposal digest).run t).2.inner := by
  have hkept : forall (e : TwoMlsPqError) (t' : TwoMlsPqSession M), t' = t ->
      SealCarried t.inner t'.inner := by
    rintro _ t' rfl
    exact Or.inl rfl
  refine Op.Triple.always (P := fun t' => t' = t)
    (I := fun t' => SealCarried t.inner t'.inner) ?_ rfl
  unfold Session.queueProposal
  refine Op.Triple.looking Op.Still.state hkept fun t₁ => ?_
  refine Op.Triple.looking (Op.Still.ensure _ _) hkept fun _ => ?_
  exact carries_here (carries_mutateAndPersist_leaves L
    ((touches_queueProposalInner digest).leavesParked (by decide)) t)

theorem carries_processIncomingWith (frame : Frame M)
    (approval : Option EstablishmentApproval) (t : TwoMlsPqSession M) :
    SealCarried t.inner ((processIncomingWith frame approval).run t).2.inner := by
  have hinner := SlotSettled.carried
    (settled_processIncomingInner frame approval t.inner t.inner (Or.inl rfl))
  rcases run_processIncomingWith frame approval t with ⟨hfailed, hpaused, hpersisted⟩
  rcases hrun : (processIncomingInner frame approval).run t.inner with ⟨r, u⟩
  rw [hrun] at hinner
  cases r with
  | error e =>
      rw [hfailed e u hrun]
      exact hinner
  | ok d =>
      cases hp : isPaused d with
      | true =>
          rw [hpaused d u hrun hp]
          exact hinner
      | false =>
          rcases hpersisted d u hrun hp with ⟨kind, hcall⟩
          rw [hcall]
          exact carries_persistAfter L kind t.inner (t.withInner u) hinner

theorem carries_encrypt (appMessage : Bytes) (rnd : Nat -> M.Seed)
    (t : TwoMlsPqSession M) :
    SealCarried t.inner ((encrypt appMessage rnd).run t).2.inner := by
  have hfirst := carries_mutateAndPersist_triple L (k := .core) (t := t)
    (carries_encryptInner L appMessage rnd (started t))
  unfold encrypt
  rw [Op.run_bind]
  rcases hrun : (mutateAndPersist .core (encryptInner appMessage rnd)).run t with ⟨r, t'⟩
  rw [hrun] at hfirst
  cases r with
  | error e => exact hfirst
  | ok result =>
      dsimp only
      rw [Op.run_bind_still fun _ => Op.Still.value _]
      split
      · exact carries_persistAfter L .checkpoint t.inner t' hfirst
      · exact hfirst

omit L in
theorem carries_shouldListenOn (t : TwoMlsPqSession M) :
    SealCarried t.inner
      ((Session.shouldListenOn : ApiOp M (List (Nat × Bytes))).run t).2.inner := by
  have hkeeps : Op.Keeps (fun t' : TwoMlsPqSession M => SlotInPlace t.inner t'.inner)
      (Session.shouldListenOn : ApiOp M (List (Nat × Bytes))) := by
    unfold Session.shouldListenOn
    refine Op.Keeps.bind (fun t' h => (touches_recordListenRendezvous.leavesParked
      (by decide)).inPlace t.inner t'.inner h) fun _ => ?_
    refine Op.Keeps.bind (fun t' h => (touches_recordPqHeaderKey.leavesParked
      (by decide)).inPlace t.inner t'.inner h) fun _ => ?_
    refine Op.Keeps.looking Op.Still.state fun t' => ?_
    exact Op.Keeps.looking (Op.Still.ensure _ _) fun _ => Op.Keeps.value _
  exact Or.inl (hkeeps t rfl)

def Call.CachesNoSeal : Call M -> Prop
  | .pqPendingOutbound _ => False
  | .pqBootstrapBegin _ => False
  | _ => True

omit L in
theorem missing_of_bootstrapRespondGuard {frame : Frame M} {s : SessionInner M}
    {kp : Blob M} (h : ((bootstrapRespondGuard frame).run s).1 = .ok kp) :
    s.half .sendPq = none := by
  have hguard : Op.Triple (fun s' => s' = s) (bootstrapRespondGuard frame)
      (fun _ _ => s.half .sendPq = none) fun _ _ => True := by
    have hkept : forall (e : TwoMlsPqError) (s' : SessionInner M), s' = s -> True :=
      fun _ _ _ => True.intro
    unfold bootstrapRespondGuard
    refine Op.Triple.reading fun s' hs => ?_
    subst hs
    refine Op.Triple.looking (Op.Still.ofExcept _) hkept fun kp => ?_
    refine Op.Triple.looking (Op.Still.ofExcept _) hkept fun _ => ?_
    refine Op.Triple.looking (Op.Still.ofOption _ _) hkept fun expected => ?_
    refine Op.Triple.looking (Op.Still.ensure _ _) hkept fun _ => ?_
    refine Op.Triple.knowing (Op.Returns.ensure _ _)
      (Op.Triple.keptBy (Op.Still.ensure _ _) hkept) fun _ hmissing => ?_
    exact Op.Triple.value fun _ _ => Option.isNone_iff_eq_none.mp hmissing
  exact hguard.ok rfl h

omit L in
theorem idle_of_rekeyRespondGuard {frame : Frame M} {s : SessionInner M}
    {proposal : M.Message} (h : ((rekeyRespondGuard frame).run s).1 = .ok proposal) :
    s.core.inflight = none := by
  have hguard : Op.Triple (fun s' => s' = s) (rekeyRespondGuard frame)
      (fun _ _ => s.core.inflight = none) fun _ _ => True := by
    have hkept : forall (e : TwoMlsPqError) (s' : SessionInner M), s' = s -> True :=
      fun _ _ _ => True.intro
    unfold rekeyRespondGuard
    refine Op.Triple.reading fun s' hs => ?_
    subst hs
    refine Op.Triple.looking (Op.Still.ofExcept _) hkept fun proposal => ?_
    refine Op.Triple.looking (Op.Still.ensure _ _) hkept fun _ => ?_
    refine Op.Triple.knowing (Op.Returns.ensure _ _)
      (Op.Triple.keptBy (Op.Still.ensure _ _) hkept) fun _ hidle => ?_
    refine Op.Triple.looking (Op.Still.ensure _ _) hkept fun _ => ?_
    exact Op.Triple.value fun _ _ => Option.isNone_iff_eq_none.mp hidle
  exact hguard.ok rfl h

/-- Behind any other call the slot is in place, or holds no seal and not the frame it
held. -/
theorem carries_call (call : Call M) (hcall : call.CachesNoSeal) (t : TwoMlsPqSession M) :
    SealCarried t.inner (call.run.run t).2.inner := by
  have hplace : SealCarried t.inner t.inner := Or.inl rfl
  have hidle : t.inner.core.inflight = none -> (started t).core.inflight = none := by
    rw [core_started]
    exact fun h => h
  unfold Call.run
  cases call with
  | pqPendingOutbound stable => exact hcall.elim
  | pqBootstrapBegin rotating => exact hcall.elim
  | installSink =>
      rw [handing_run]
      exact carries_installSink L t.inner t hplace
  | pendingOutbound =>
      rw [handing_run]
      exact carries_pendingOutbound L t.inner t hplace
  | installEstablishmentEnvelope envelope =>
      rw [handing_run]
      exact carries_installEstablishmentEnvelope L envelope t
  | setInitialAppPayload payload seed =>
      rw [handing_run]
      exact carries_mutateAndPersist_leaves L (leavesParked_setInitialField _ seed) t
  | setInitialReturnKeyPackage kp seed =>
      rw [handing_run]
      exact carries_mutateAndPersist_leaves L (leavesParked_setInitialField _ seed) t
  | prepareToEncrypt proposing rnd =>
      rw [handing_run]
      exact carries_mutateAndPersist_triple L (carries_prepareToEncryptInner L _ _ _)
  | encrypt appMessage rnd =>
      rw [handing_run]
      exact carries_encrypt L appMessage rnd t
  | processIncoming frame approval =>
      rw [handing_run]
      exact carries_processIncomingWith L frame approval t
  | queueProposal digest =>
      rw [handing_run]
      exact carries_queueProposal L digest t
  | exportAttachmentCekSend keyId =>
      rw [handing_run]
      unfold exportAttachmentCekSend
      rw [Op.run_bind_still fun _ => Op.Still.ofExcept _]
      exact carries_mutateAndPersist_leaves L
        (touches_sendAttachmentComponent.leavesParked (by decide)) t
  | exportAttachmentCekRecv keyId epoch =>
      rw [handing_run]
      unfold exportAttachmentCekRecv
      rw [Op.run_bind_still fun _ => Op.Still.ofExcept _]
      exact carries_mutateAndPersist_leaves L
        ((touches_recvAttachmentComponent epoch).leavesParked (by decide)) t
  | shouldListenOn =>
      rw [handing_run]
      exact carries_shouldListenOn t
  | pqTakePendingOutbound =>
      rw [handing_run]
      exact carries_pqTakePendingOutbound L t.inner t hplace
  | pqRatchetRespond frame rnd =>
      rw [handing_run]
      refine carries_guarded (still_ratchetRespondGuard frame) fun leg hguard => ?_
      exact carries_mutateAndPersist_triple L
        (carries_ratchetRespondInner leg rnd (hidle (idle_of_ratchetRespondGuard hguard)))
  | pqRatchetBind frame seed =>
      rw [handing_run]
      refine carries_guarded (still_ratchetBindGuard frame) fun opened _ => ?_
      exact carries_mutateAndPersist_settled L
        (settled_ratchetBindInner opened.1 opened.2 seed _)
  | pqRekeyRespond frame seed =>
      rw [handing_run]
      refine carries_guarded (still_rekeyRespondGuard frame) fun proposal hguard => ?_
      exact carries_mutateAndPersist_triple L
        (carries_rekeyRespondInner proposal seed (hidle (idle_of_rekeyRespondGuard hguard)))
  | pqRekeyApply frame seed =>
      rw [handing_run]
      refine carries_guarded (still_rekeyApplyGuard frame) fun commit _ => ?_
      exact carries_mutateAndPersist_settled L (settled_rekeyApplyInner commit seed _)
  | pqBootstrapEnvelope seed =>
      rw [handing_run]
      refine carries_guarded (still_bootstrapEnvelopeGuard seed) fun retained _ => ?_
      cases retained with
      | some frame => exact hplace
      | none =>
          exact carries_mutateAndPersist L
            ((carries_bootstrapEnvelopeInner seed (started t)).always rfl)
  | pqBootstrapRespond frame rnd =>
      rw [handing_run]
      refine carries_guarded (still_bootstrapRespondGuard frame) fun kp hguard => ?_
      have hmissing : (started t).half .sendPq = none := by
        have hhalf := congrArg (fun c => c.half .sendPq) (core_started t)
        exact hhalf.trans (missing_of_bootstrapRespondGuard hguard)
      exact carries_mutateAndPersist_triple L
        (carries_bootstrapRespondInner kp rnd hmissing)
  | pqBootstrapBind frame seed =>
      rw [handing_run]
      refine carries_guarded (still_bootstrapBindGuard frame) fun welcome _ => ?_
      exact carries_mutateAndPersist_settled L (settled_bootstrapBindInner welcome seed _)

end

end Session
end TwoMlsPq
