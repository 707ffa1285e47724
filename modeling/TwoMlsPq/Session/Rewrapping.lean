import TwoMlsPq.Session.CatchUp
import TwoMlsPq.Session.Parking

/-!
# A parked leg follows the send group

A send commits the send group first and wraps the parked ratchet leg again behind the
commit.  Behind a send that succeeds the leg is wrapped at the epoch the group stands
at, unless the leg's own encryption failed.
-/

namespace TwoMlsPq

namespace Session

open Foundation Apq

section

variable {M : MlsRs} {α : Type}

/-!
## The operation before the wrap
-/

def prepared (proposing : Option Bytes) (rnd : Nat -> M.Seed) :
    SessionOp M (PrepareEncryptResult M) := do
  ensureEstablishmentDelegated
  let s <- Op.state
  let result <-
    (if s.recvGroup.isNone then preparePreEstablishment proposing
    else prepareRatchetCommit proposing rnd)
  recordListenRendezvous
  pure result

def composed (appMessage : Bytes) (rnd : Nat -> M.Seed) :
    SessionOp M (Bool -> EncryptResult M) := do
  ensureEstablishmentDelegated
  let s <- Op.state
  let proposalHash <- Op.ofOption s.msg.pendingProposalHash .sessionNotReady
  let staged := s.msg.pendingProposalMessage
  Op.update fun s => s.mapMsg fun m =>
    { m with pendingProposalHash := none, pendingProposalMessage := none }
  Op.ensure (staged.isSome ∨ s.recvGroup.isNone) .sessionNotReady
  let message <-
    callHalf .sendClassical .sessionNotReady (fun _ => .mls) fun _ =>
      M.encryptApplicationMessage appMessage proposalHash (rnd 0)
  let app <- Op.ofExcept (orError .mls (Blob.ofMessage message))
  let s <- Op.state
  let send <- Op.ofOption s.sendGroup .sessionNotReady
  let cipherText <- composeFrame staged app (rnd 1)
  pure fun stagedPqRound =>
    { cipherText := cipherText
      sender := s.rotation.myState.clientId
      recipient := s.rotation.theirState.clientId
      epochs := apqEpochs send
      dependsOnSeq := s.msg.currentStapleSeq
      stagedPqRound := stagedPqRound }

theorem prepareToEncryptInner_eq (proposing : Option Bytes) (rnd : Nat -> M.Seed) :
    prepareToEncryptInner proposing rnd = (do
      let result <- prepared proposing rnd
      rewrapSideBand (rnd 4)
      pure result) := by
  unfold prepareToEncryptInner prepared
  simp only [LawfulMonad.bind_assoc, LawfulMonad.pure_bind]

theorem encryptInner_eq (appMessage : Bytes) (rnd : Nat -> M.Seed) :
    encryptInner appMessage rnd = (do
      let result <- composed appMessage rnd
      rewrapSideBand (rnd 2)
      let stagedPqRound <- maybeStageNextRound fun n => rnd (n + 3)
      pure (result stagedPqRound)) := by
  unfold encryptInner composed
  simp only [LawfulMonad.bind_assoc, LawfulMonad.pure_bind]

/-- Wherever the operation ends well, the live leg can be minted. -/
def MintsAfter (x : SessionOp M α) (seed : M.Seed) (s₀ : SessionInner M) : Prop :=
  forall a s kind payload, x.run s₀ = (.ok a, s) ->
    livePayload s.round.pqInflight = some (kind, payload) ->
      exists frame, ((mintLeg kind payload seed).run s).1 = .ok frame

/-!
## The wrap
-/

/-- A parked ratchet leg is wrapped at the epoch the send group stands at, around
what the round holds. -/
def WrappedNow (c : Core M) : Prop :=
  forall f, c.sideBand = some f -> f.isRatchetLeg = true ->
    exists m payload g₀ g,
      f.body.parsed = some m ∧ livePayload c.inflight = some (f.kind, payload) ∧
        WrappedIn g₀ f.kind payload m ∧ c.half .sendClassical = some g ∧
        M.groupId g₀ = M.groupId g ∧ M.currentEpoch g₀ = M.currentEpoch g ∧
        M.messageEpoch m = some (M.currentEpoch g)

theorem WrappedNow.empty {c : Core M} (h : c.sideBand = none) : WrappedNow c := by
  intro f hf _
  rw [h] at hf
  cases hf

theorem WrappedNow.quiet {c c' : Core M} (h : WrappedNow c) (hq : Quiet c c') :
    WrappedNow c' := by
  intro f hf hleg
  have hsideBand : c'.sideBand = c.sideBand := by rw [hq.2]
  have hinflight : c'.inflight = c.inflight := by rw [hq.2]
  rw [hsideBand] at hf
  rcases h f hf hleg with ⟨m, payload, g₀, g, hparsed, hlive, hwrapped, held, hid, hepoch,
    hmessage⟩
  rcases hq.half_some held with ⟨g', held', hsame⟩
  refine ⟨m, payload, g₀, g', hparsed, ?_, hwrapped, held', ?_, ?_, ?_⟩
  · rw [hinflight]
    exact hlive
  · exact hid.trans hsame.groupId.symm
  · exact hepoch.trans hsame.epoch.symm
  · rw [hsame.epoch]
    exact hmessage

theorem SendGrows.back {c c' c'' : Core M} (h : SendGrows c c'')
    (hq : HalfQuiet (c'.half .sendClassical) (c''.half .sendClassical)) :
    SendGrows c c' := by
  intro g held
  rcases h g held with ⟨g'', held'', hid, hle⟩
  cases held' : c'.half .sendClassical with
  | none =>
      rw [held', held''] at hq
      exact hq.elim
  | some g' =>
      rw [held', held''] at hq
      have hsame : Undisturbed g' g'' := hq
      refine ⟨g', rfl, hsame.groupId.symm.trans hid, ?_⟩
      rw [← hsame.epoch]
      exact hle

def LeavesSend : Event M -> Prop
  | .quiet => True
  | .parkLeg _ => True
  | .propose h _ _ => h = .recvPq
  | .openRound _ _ => True
  | _ => False

theorem LeavesSend.path {c c' : Core M} (h : Path LeavesSend c c') :
    HalfQuiet (c.half .sendClassical) (c'.half .sendClassical) := by
  refine h.invariant (I := fun x =>
    HalfQuiet (c.half .sendClassical) (x.half .sendClassical)) ?_ (HalfQuiet.refl _)
  intro e c₁ c₂ he hstep hc
  apply hc.trans
  rcases hstep.half_cases .sendClassical with hq | ⟨g', held', hmove⟩
  · exact hq
  · cases hmove with
    | peerCommit held₁ idle kind applied => exact he.elim
    | ownCommit send held₁ discharged handoff applied => exact he.elim
    | propose held₁ introduces proposed => cases introduces
    | joinRecv recv missing joined => exact he.elim

theorem dueLeg_of_behind {s : SessionInner M} {f : SideBand M} {m : M.Message}
    {g : M.Group} {e : Nat} (hparked : s.core.sideBand = some f)
    (hleg : f.isRatchetLeg = true) (hparsed : f.body.parsed = some m)
    (held : s.half .sendClassical = some g)
    (hid : M.messageGroupId m = some (M.groupId g)) (hepoch : M.messageEpoch m = some e) :
    dueLeg s = if e < M.currentEpoch g then some f.kind else none := by
  have hretained : exists r, s.round.pendingSideBand = some r ∧ r.frame = f := by
    have hmap : s.round.pendingSideBand.map RetainedFrame.frame = some f := hparked
    rcases Option.map_eq_some_iff.mp hmap with ⟨r, hr, hframe⟩
    exact ⟨r, hr, hframe⟩
  have hsend : exists cg, s.sendGroup = some cg ∧ cg.classical = g := by
    have hmap : s.sendGroup.map CombinerGroup.classical = some g := held
    rcases Option.map_eq_some_iff.mp hmap with ⟨cg, hcg, hclassical⟩
    exact ⟨cg, hcg, hclassical⟩
  rcases hretained with ⟨r, hr, rfl⟩
  rcases hsend with ⟨cg, hcg, rfl⟩
  have hcarrier : legCarrier cg m = some .classical := by
    unfold legCarrier
    rw [hid]
    exact if_pos rfl
  unfold dueLeg
  rw [hr, hcg]
  dsimp only
  rw [if_pos hleg, hparsed]
  dsimp only
  rw [hcarrier]
  dsimp only
  rw [hepoch]

variable (L : Lawful M)

include L

theorem MintedNow.wrapped {kind : PqFrameKind} {payload : Bytes} {f : SideBand M}
    {s : SessionInner M} {c : Core M} (h : MintedNow kind payload f s)
    (hhalf : c.half .sendClassical = s.half .sendClassical)
    (hparked : c.sideBand = some f)
    (hlive : livePayload c.inflight = some (kind, payload)) :
    WrappedNow c := by
  intro f' hf' _
  rw [hparked] at hf'
  cases hf'
  rcases h with ⟨rfl, m, g₀, g, hparsed, ⟨seed, hrun⟩, held, hsame⟩
  refine ⟨m, payload, g₀, g, hparsed, hlive, ⟨seed, hrun⟩, hhalf.trans held,
    hsame.groupId.symm, hsame.epoch.symm, ?_⟩
  rw [hsame.epoch]
  exact (L.encryptMessage _ _ _ _ _ hrun).1

theorem Reminted.current {s : SessionInner M} {f : SideBand M}
    (h : Reminted s.core f) (hparked : s.core.sideBand = some f)
    (hleg : f.isRatchetLeg = true) (hnot : dueLeg s ≠ some f.kind) :
    WrappedNow s.core := by
  intro f' hf' _
  rw [hparked] at hf'
  cases hf'
  rcases h with ⟨m, payload, g₀, g, hparsed, hlive, ⟨seed, hrun⟩, held, hid, hle⟩
  rcases L.encryptMessage _ _ _ _ _ hrun with ⟨hepoch, hgroup, -⟩
  rw [hid] at hgroup
  have hdue := dueLeg_of_behind hparked hleg hparsed held hgroup hepoch
  have heq : M.currentEpoch g₀ = M.currentEpoch g := by
    by_contra hne
    rw [if_pos (Nat.lt_of_le_of_ne hle hne)] at hdue
    exact hnot hdue
  refine ⟨m, payload, g₀, g, hparsed, hlive, ⟨seed, hrun⟩, held, hid, heq, ?_⟩
  rw [hepoch, heq]

theorem wraps_rewrapSideBand {s : SessionInner M} {seed : M.Seed}
    (hslots : forall f, s.core.sideBand = some f -> f.isRatchetLeg = true ->
      Reminted s.core f)
    (hmints : forall kind payload, livePayload s.round.pqInflight = some (kind, payload) ->
      exists frame, ((mintLeg kind payload seed).run s).1 = .ok frame) :
    WrappedNow ((rewrapSideBand seed).run s).2.core := by
  -- without a wrap, the parked leg was not due
  have hkept : (forall kind payload, livePayload s.round.pqInflight = some (kind, payload) ->
      dueLeg s ≠ some kind) -> WrappedNow s.core := by
    intro hnot f hf hleg
    have hreminted := hslots f hf hleg
    rcases hreminted with ⟨_, payload, _, _, _, hlive, _⟩
    exact (hslots f hf hleg).current L hf hleg (hnot _ _ hlive) f hf hleg
  unfold rewrapSideBand
  rw [Op.run_bind, Op.run_state]
  dsimp only
  split
  next due kind payload hdue hlive =>
    split
    next hkind =>
      rcases hmints kind payload hlive with ⟨frame, hframe⟩
      have hminted : Op.Triple (fun s' => s' = s) (mintLeg kind payload seed)
          (fun f s' => SlotsStay s s' ∧ MintedNow kind payload f s')
          (fun _ s' => SlotsStay s s') :=
        triple_mintLeg L kind payload seed
      rcases hrun : (mintLeg kind payload seed).run s with ⟨r, s'⟩
      rw [hrun] at hframe
      cases hframe
      have hpost := hminted.ok rfl (a := frame) (by rw [hrun])
      rw [hrun] at hpost
      rw [Op.run_bind, Op.run_attempt, hrun]
      dsimp only
      refine hpost.2.wrapped L rfl rfl ?_
      change livePayload s'.core.inflight = _
      rw [hpost.1.inflight]
      exact hlive
    next hkind =>
      apply hkept
      intro kind' payload' hlive' hdue'
      rw [hlive] at hlive'
      cases hlive'
      rw [hdue] at hdue'
      cases hdue'
      exact hkind rfl
  next hnone =>
    apply hkept
    intro kind payload hlive hdue
    exact hnone kind kind payload hdue hlive

theorem wraps_maybeStageNextRound (rnd : Nat -> M.Seed) :
    Op.Triple (fun s => WrappedNow s.core) (maybeStageNextRound rnd)
      (fun _ s => WrappedNow s.core) fun _ s => WrappedNow s.core := by
  apply invariant_maybeStageNextRound L (I := fun s => WrappedNow s.core)
  · intro s hempty
    exact WrappedNow.empty hempty
  · rintro s ⟨kind, payload, f, hminted, hparked, hlive⟩
    exact hminted.wrapped L rfl hparked hlive
  · rintro s ⟨_, f, hparked, hkind⟩ f' hf hleg
    rw [hparked] at hf
    cases hf
    unfold SideBand.isRatchetLeg at hleg
    rw [hkind] at hleg
    cases hleg

/-!
## The sends
-/

theorem wrapped_send {β : Type} {x : SessionOp M β} {seed : M.Seed}
    {rest : β -> SessionOp M α} {s₀ : SessionInner M} {a : α}
    (horderly : Orderly s₀.core)
    (hstay : Op.Keeps (SlotsStay s₀) x)
    (hrest : forall b, Op.Triple (fun s => WrappedNow s.core) (rest b)
      (fun _ s => WrappedNow s.core) fun _ s => WrappedNow s.core)
    (hleaves : forall b, Via LeavesSend (fun _ => True) (rest b) fun _ _ => True)
    (hgrows : SendGrows s₀.core ((do
      let b <- x
      rewrapSideBand seed
      rest b : SessionOp M α).run s₀).2.core)
    (hmints : MintsAfter x seed s₀)
    (hok : ((do
      let b <- x
      rewrapSideBand seed
      rest b : SessionOp M α).run s₀).1 = .ok a) :
    WrappedNow ((do
      let b <- x
      rewrapSideBand seed
      rest b : SessionOp M α).run s₀).2.core := by
  rcases hrun : (do
      let b <- x
      rewrapSideBand seed
      rest b : SessionOp M α).run s₀ with ⟨r, s'⟩
  rw [hrun] at hok hgrows
  cases hok
  rcases Op.bind_ok hrun with ⟨b, s₁, hx, htail⟩
  have hslots : SlotsKept s₀.core s₁.core := by
    have hkept := hstay s₀ (SlotsStay.refl s₀)
    rw [hx] at hkept
    exact hkept
  -- behind the operation nothing moves the send classical group
  have hquiet : HalfQuiet (s₁.core.half .sendClassical) (s'.core.half .sendClassical) := by
    have hvia : Via LeavesSend (fun _ => True)
        (do
          rewrapSideBand seed
          rest b : SessionOp M α) fun _ _ => True :=
      Via.bind (via_rewrapSideBand L True.intro fun _ => True.intro) fun _ => hleaves b
    have hpath := (hvia s₁ True.intro).1
    rw [htail] at hpath
    exact LeavesSend.path hpath
  have hagrees := horderly.slots.kept hslots (hgrows.back hquiet)
  rcases Op.bind_ok htail with ⟨u, s₂, hrewrap, hlast⟩
  have hwrapped : WrappedNow s₂.core := by
    have hwraps : WrappedNow ((rewrapSideBand seed).run s₁).2.core :=
      wraps_rewrapSideBand L hagrees.wrapped
        fun kind payload hlive => hmints b s₁ kind payload hx hlive
    rw [hrewrap] at hwraps
    exact hwraps
  have hend := (hrest b).always hwrapped
  rw [hlast] at hend
  exact hend

theorem wrapped_mutateAndPersist {k : BlobKind} {x : SessionOp M α}
    {t : TwoMlsPqSession M} {a : α}
    (hgrows : SendGrows t.inner.core ((mutateAndPersist k x).run t).2.inner.core)
    (hwraps : SendGrows (started t).core (x.run (started t)).2.core ->
      (x.run (started t)).1 = .ok a -> WrappedNow (x.run (started t)).2.core)
    (hok : ((mutateAndPersist k x).run t).1 = .ok a) :
    WrappedNow ((mutateAndPersist k x).run t).2.inner.core := by
  rcases mutateAndPersist_started L k x t with ⟨hafter, hinner⟩
  have hquiet : Quiet (x.run (started t)).2.core
      ((mutateAndPersist k x).run t).2.inner.core := Path.quiet hafter.1
  have hstart : SendGrows (started t).core (x.run (started t)).2.core := by
    rw [core_started]
    exact hgrows.back (hquiet.1 _)
  exact (hwraps hstart (hinner a hok)).quiet hquiet

theorem wrapped_prepareToEncrypt {t : TwoMlsPqSession M} {proposing : Option Bytes}
    {rnd : Nat -> M.Seed} {result : PrepareEncryptResult M}
    (happroved : ApprovedProposal t.inner.core.queued) (horderly : Orderly t.inner.core)
    (hmints : MintsAfter (prepared proposing rnd) (rnd 4) (started t))
    (hok : ((prepareToEncrypt proposing rnd).run t).1 = .ok result) :
    WrappedNow ((prepareToEncrypt proposing rnd).run t).2.inner.core := by
  have hadvances := call_advances L (.prepareToEncrypt proposing rnd) t happroved
  unfold Call.run at hadvances
  rw [handing_run] at hadvances
  refine wrapped_mutateAndPersist L (SendGrows.path hadvances.1)
    (fun hgrows hrun => ?_) hok
  rw [prepareToEncryptInner_eq] at hgrows hrun ⊢
  refine wrapped_send L ?_ ?_ (fun _ => Op.Triple.value fun _ h => h)
    (fun b => Via.value b fun _ _ => True.intro) hgrows hmints hrun
  · rw [core_started]
    exact horderly
  · unfold prepared
    refine Op.Keeps.looking still_ensureEstablishmentDelegated fun _ => ?_
    refine Op.Keeps.looking Op.Still.state fun s => ?_
    refine Op.Keeps.bind (Op.Keeps.ite ?_ ?_) fun result => ?_
    · exact (touches_preparePreEstablishment _).slotsStay (by decide) _
    · exact slotsStay_prepareRatchetCommit _ _ _
    · exact Op.Keeps.bind (touches_recordListenRendezvous.slotsStay (by decide) _)
        fun _ => Op.Keeps.value _

theorem wrapped_encrypt {t : TwoMlsPqSession M} {appMessage : Bytes}
    {rnd : Nat -> M.Seed} {result : EncryptResult M}
    (happroved : ApprovedProposal t.inner.core.queued) (horderly : Orderly t.inner.core)
    (hmints : MintsAfter (composed appMessage rnd) (rnd 2) (started t))
    (hok : ((encrypt appMessage rnd).run t).1 = .ok result) :
    WrappedNow ((encrypt appMessage rnd).run t).2.inner.core := by
  have hadvances := call_advances L (.encrypt appMessage rnd) t happroved
  unfold Call.run at hadvances
  rw [handing_run] at hadvances
  have hquiet := Path.quiet (encrypt_advances L appMessage rnd t).1
  apply WrappedNow.quiet _ hquiet
  rcases hrun : (encrypt appMessage rnd).run t with ⟨r, t'⟩
  rw [hrun] at hok
  cases hok
  unfold encrypt at hrun
  rcases Op.bind_ok hrun with ⟨result', t₁, hinner, _⟩
  refine wrapped_mutateAndPersist L
    ((SendGrows.path hadvances.1).back (hquiet.1 _)) (a := result')
    (fun hgrows hok => ?_) (by rw [hinner])
  rw [encryptInner_eq] at hgrows hok ⊢
  refine wrapped_send L ?_ ?_ (fun b => ?_) (fun b => ?_) hgrows hmints hok
  · rw [core_started]
    exact horderly
  · unfold composed
    refine Op.Keeps.looking still_ensureEstablishmentDelegated fun _ => ?_
    refine Op.Keeps.looking Op.Still.state fun s => ?_
    refine Op.Keeps.looking (Op.Still.ofOption _ _) fun proposalHash => ?_
    dsimp only
    refine Op.Keeps.bind (Op.Keeps.update fun _ hs => ⟨hs.inflight, hs.sideBand⟩)
      fun _ => ?_
    refine Op.Keeps.looking (Op.Still.ensure _ _) fun _ => ?_
    refine Op.Keeps.bind ((touches_callHalf (W := [.half .sendClassical]) _ _ _ _
      (by decide)).slotsStay (by decide) _) fun message => ?_
    refine Op.Keeps.looking (Op.Still.ofExcept _) fun app => ?_
    refine Op.Keeps.looking Op.Still.state fun s => ?_
    refine Op.Keeps.looking (Op.Still.ofOption _ _) fun send => ?_
    refine Op.Keeps.looking (still_composeFrame _ _ _) fun cipherText => ?_
    exact Op.Keeps.value _
  · refine Op.Triple.bind (wraps_maybeStageNextRound L _) fun stagedPqRound => ?_
    exact Op.Triple.value fun _ h => h
  · refine Via.bind (via_maybeStageNextRound L True.intro (fun _ _ => rfl)
      fun _ _ => True.intro) fun stagedPqRound => ?_
    exact Via.value _ fun _ _ => True.intro

/-!
## Every run
-/

theorem unharmed_of_born {s : SessionInner M} (h : Born s) : Unharmed s.core := by
  cases h with
  | initiated h =>
      rcases initiate_quiet L h with ⟨_, _, _, _, _, _, _, _, _, _, hquiet⟩
      constructor
      · rw [hquiet.2]
        rfl
      · rw [hquiet.2]
        rfl
  | accepted h =>
      rcases acceptWith_quiet L h with ⟨_, _, _, _, _, _, _, _, _, _, _, hquiet⟩
      constructor
      · rw [hquiet.2]
        rfl
      · rw [hquiet.2]
        rfl

theorem orderly_of_born {s : SessionInner M} (h : Born s) : Orderly s.core :=
  { unharmed := unharmed_of_born L h
    slots := SlotAgrees.empty (h.unused L).sideBand }

omit L in
/-- The action tears nothing. -/
def KeepsWhole (t : TwoMlsPqSession M) (a : LifeAction M) : Prop :=
  Unharmed (t.live a).inner.core

theorem orderly_run {s₀ : SessionInner M} {t : TwoMlsPqSession M} (born : Born s₀)
    (run : Run TwoMlsPqSession.live KeepsWhole (TwoMlsPqSession.fresh s₀) t) :
    Durable Approved t ∧ Durable Orderly t := by
  refine run.invariant (I := fun t => Durable Approved t ∧ Durable Orderly t) ?_
    ⟨Durable.fresh (approved_unused (born.unused L)), Durable.fresh (orderly_of_born L born)⟩
  intro t a h hwhole
  exact ⟨approved_live L h.1, orderly_live L h.1.now h.2 hwhole⟩

/-- The round and the parked frame agree, and a send wraps a parked ratchet leg at the
epoch the send group stands at. -/
theorem parked_frame_is_owed {s₀ : SessionInner M} {t : TwoMlsPqSession M}
    (born : Born s₀)
    (run : Run TwoMlsPqSession.live KeepsWhole (TwoMlsPqSession.fresh s₀) t) :
    (t.inner.round.pqInflight = none -> t.inner.round.pendingSideBand = none) ∧
      (forall i retained, t.inner.round.pqInflight = some i ->
        t.inner.round.pendingSideBand = some retained ->
          retained.frame.kind = owedLeg i) ∧
      (forall proposing rnd result,
        MintsAfter (prepared proposing rnd) (rnd 4) (started t) ->
          ((prepareToEncrypt proposing rnd).run t).1 = .ok result ->
            WrappedNow ((prepareToEncrypt proposing rnd).run t).2.inner.core) ∧
      forall appMessage rnd result,
        MintsAfter (composed appMessage rnd) (rnd 2) (started t) ->
          ((encrypt appMessage rnd).run t).1 = .ok result ->
            WrappedNow ((encrypt appMessage rnd).run t).2.inner.core := by
  rcases orderly_run L born run with ⟨happroved, horderly⟩
  have hslots := horderly.now.slots
  refine ⟨?_, ?_, ?_, ?_⟩
  · intro hnone
    have hempty : t.inner.round.pendingSideBand.map RetainedFrame.frame = none :=
      hslots.idle hnone
    exact Option.map_eq_none_iff.mp hempty
  · intro i retained hi hretained
    have hparked : t.inner.core.sideBand = some retained.frame := by
      change t.inner.round.pendingSideBand.map RetainedFrame.frame = _
      rw [hretained]
      rfl
    exact hslots.leg i retained.frame hi hparked
  · intro proposing rnd result hmints hok
    exact wrapped_prepareToEncrypt L happroved.now horderly.now hmints hok
  · intro appMessage rnd result hmints hok
    exact wrapped_encrypt L happroved.now horderly.now hmints hok

omit L in
theorem Unharmed.back {e : Event M} {c c' : Core M} (h : Unharmed c')
    (hstep : Step e c c') :
    Unharmed c := by
  have hsame : c'.wedged = c.wedged -> c'.broken = c.broken -> Unharmed c := by
    intro hwedged hbroken
    exact { wedged := hwedged.symm.trans h.wedged, broken := hbroken.symm.trans h.broken }
  cases hstep with
  | quiet hq => exact h.before hq
  | wedge =>
      have hwedged := h.wedged
      cases hwedged
  | breakReceive =>
      have hbroken := h.broken
      cases hbroken
  | _ => exact hsame rfl rfl

omit L in
theorem unharmed_of {s : SessionInner M} (hwedged : s.round.pqWedged.isNone = true)
    (hbroken : s.round.bindApplyBroken = false) :
    Unharmed s.core :=
  { wedged := Option.isNone_iff_eq_none.mp hwedged, broken := hbroken }

theorem whole_of_calls {s₀ : SessionInner M} {t : TwoMlsPqSession M} (born : Born s₀)
    (run : Run TwoMlsPqSession.host (fun _ a => exists call, a = .call call)
      (TwoMlsPqSession.fresh s₀) t)
    (hend : Unharmed t.inner.core) :
    Run TwoMlsPqSession.live KeepsWhole (TwoMlsPqSession.fresh s₀) t := by
  have hboth : Durable Approved t ∧ (Unharmed t.inner.core ->
      Run TwoMlsPqSession.live KeepsWhole (TwoMlsPqSession.fresh s₀) t) := by
    refine run.invariant (I := fun t => Durable Approved t ∧ (Unharmed t.inner.core ->
      Run TwoMlsPqSession.live KeepsWhole (TwoMlsPqSession.fresh s₀) t)) ?_
      ⟨Durable.fresh (approved_unused (born.unused L)), fun _ => Run.refl⟩
    rintro t _ ⟨happroved, hwhole⟩ ⟨call, rfl⟩
    refine ⟨approved_host L happroved, fun hunharmed => ?_⟩
    have hpath := (call_advances L call t happroved.now).1
    have hback : Unharmed (call.run.run t).2.inner.core -> Unharmed t.inner.core := by
      refine hpath.invariant (I := fun c => Unharmed c -> Unharmed t.inner.core) ?_ id
      intro e c c' _ hstep hc hc'
      exact hc (hc'.back hstep)
    have hkeeps : KeepsWhole t (.host (.call call)) := hunharmed
    exact (hwhole (hback hunharmed)).step hkeeps
  exact hboth.2 hend

end

/-!
## A reference run
-/

namespace ReferencePair

def legOverdue : World Reference.mls :=
  ratchetOpened.play ([receive .left 7] ++ send .left 7100 ++ [receive .right 9])

def overdueDigest : Bytes :=
  (((legOverdue.session .right).inner.msg.offeredProposal).map
    PeerProposal.digest).getD []

def foldDue : World Reference.mls :=
  legOverdue.play [.call .right (.queueProposal overdueDigest)]

def keyParked : TwoMlsPqSession Reference.mls :=
  foldDue.session .right

theorem foldDue_calls : Run World.act World.Calls world foldDue := by
  have hopened : Run World.act World.Calls laggard ratchetOpened :=
    (rekeyOpened_run.trans (rekeyAsked_run.trans
      (rekeyClosed_run.trans ratchetOpened_run))).mono fun _ _ h => h.1
  have hoverdue : Run World.act World.Calls ratchetOpened legOverdue := by
    apply World.run_calls
    simp [send, receive, Move.Fair, Move.isRestore, Call.delivered]
  apply (laggard_calls.trans hopened).trans
  apply hoverdue.trans
  apply World.run_calls
  simp [Move.Fair, Move.isRestore, Call.delivered]

def mints {α : Type} (x : SessionOp Reference.mls α) (seed : Nat)
    (s₀ : SessionInner Reference.mls) : Bool :=
  match livePayload (x.run s₀).2.round.pqInflight with
  | some (kind, payload) =>
      ((mintLeg kind payload seed).run (x.run s₀).2).1.toOption.isSome
  | none => true

theorem mintsAfter_of_mints {α : Type} {x : SessionOp Reference.mls α} {seed : Nat}
    {s₀ : SessionInner Reference.mls} (h : mints x seed s₀ = true) :
    MintsAfter x seed s₀ := by
  intro a s kind payload hrun hlive
  unfold mints at h
  rw [hrun] at h
  dsimp only at h
  rw [hlive] at h
  exact ⟨_, eq_ok_of_isSome h⟩

def keySend :
    Result (PrepareEncryptResult Reference.mls) × TwoMlsPqSession Reference.mls :=
  (prepareToEncrypt none (rnd 7200)).run keyParked

theorem keySend_facts :
    (keyParked.inner.round.pqWedged.isNone = true ∧
      keyParked.inner.round.bindApplyBroken = false) ∧
    mints (prepared none (rnd 7200)) (rnd 7200 4) (started keyParked) = true ∧
      keySend.1.toOption.isSome = true ∧
      keyParked.inner.epoch .sendClassical = some 3 ∧
      keySend.2.inner.epoch .sendClassical = some 4 ∧
      (keySend.2.inner.core.sideBand.map fun f => f.isRatchetLeg) = some true := by
  decide +kernel

end ReferencePair

set_option maxRecDepth 4000 in
/-- The send commits, and the parked ephemeral key is wrapped at the new epoch. -/
theorem parked_key_follows_commit :
    (ReferencePair.keyParked.inner.epoch .sendClassical = some 3 ∧
      ReferencePair.keySend.2.inner.epoch .sendClassical = some 4 ∧
      (ReferencePair.keySend.2.inner.core.sideBand.map fun f => f.isRatchetLeg) =
        some true) ∧
      WrappedNow ((prepareToEncrypt none (ReferencePair.rnd 7200)).run
        ReferencePair.keyParked).2.inner.core := by
  rcases ReferencePair.keySend_facts with
    ⟨⟨hwedged, hbroken⟩, hmints, hsome, hepochs⟩
  have hrestart : forall w : World Reference.mls, w.Calls (.restore .right) ->
      exists call : Call Reference.mls, HostAction.restart = .call call := by
    rintro w ⟨_, side, call, hcall⟩
    cases hcall
  have hhosted : Run TwoMlsPqSession.host (fun _ a => exists call, a = .call call)
      (TwoMlsPqSession.fresh ReferencePair.acceptor) ReferencePair.keyParked :=
    World.run_host .right (fun _ call _ => ⟨call, rfl⟩) hrestart
      ReferencePair.foldDue_calls
  have hwhole := whole_of_calls Reference.lawful ReferencePair.acceptor_born hhosted
    (unharmed_of hwedged hbroken)
  rcases parked_frame_is_owed Reference.lawful ReferencePair.acceptor_born hwhole with
    ⟨_, _, hsend, _⟩
  unfold ReferencePair.keySend at hsome
  have hok := ReferencePair.eq_ok_of_isSome hsome
  exact ⟨hepochs, hsend none (ReferencePair.rnd 7200) _
    (ReferencePair.mintsAfter_of_mints hmints) hok⟩

end Session
end TwoMlsPq
