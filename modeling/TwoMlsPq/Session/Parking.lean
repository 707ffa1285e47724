import TwoMlsPq.Session.Adoption
import TwoMlsPq.Session.NoReturn
import TwoMlsPq.Session.Trails

/-!
# The round and its parked frame

A session keeps the round it takes part in and the frame that the round owes the
peer in two slots.  They are written apart, and they agree all the same: an idle
session parks nothing, a parked frame is the leg of its round, and a parked ratchet
leg holds what the round still keeps to mint it again.
-/

namespace TwoMlsPq

namespace Session

open Foundation Apq

section

variable {M : MlsRs} {α : Type}

/-!
## What the two slots say together
-/

/-- The leg by which the peer is to learn of a round. -/
def owedLeg : PqInflight -> PqFrameKind
  | .initiating _ => .ratchetEphemeralKey
  | .responding _ _ => .ratchetCiphertext
  | .rekeyInitiated => .rekeyUpdate
  | .rekeyResponded => .rekeyCommit
  | .bootstrapInitiated => .bootstrapKeyPackage
  | .bootstrapResponded => .bootstrapWelcome

def WrappedIn (g : M.Group) (kind : PqFrameKind) (payload : Bytes) (m : M.Message) :
    Prop :=
  exists seed,
    (M.encryptApplicationMessage (encodeA4LegContent (legTag kind) payload) [] seed g).1 =
      .ok m

/-- The frame is a leg that the round can mint again, wrapped in the send group at an
epoch it has reached. -/
def Reminted (c : Core M) (f : SideBand M) : Prop :=
  exists m payload g₀ g,
    f.body.parsed = some m ∧ livePayload c.inflight = some (f.kind, payload) ∧
      WrappedIn g₀ f.kind payload m ∧ c.half .sendClassical = some g ∧
      M.groupId g₀ = M.groupId g ∧ M.currentEpoch g₀ <= M.currentEpoch g

structure SlotAgrees (c : Core M) : Prop where
  idle : c.inflight = none -> c.sideBand = none
  leg : forall i f, c.inflight = some i -> c.sideBand = some f -> f.kind = owedLeg i
  wrapped : forall f, c.sideBand = some f -> f.isRatchetLeg = true -> Reminted c f

theorem SlotAgrees.empty {c : Core M} (h : c.sideBand = none) : SlotAgrees c := by
  constructor
  · intro _
    exact h
  · intro _ f _ hf
    rw [h] at hf
    cases hf
  · intro f hf _
    rw [h] at hf
    cases hf

def SendGrows (c c' : Core M) : Prop :=
  forall g, c.half .sendClassical = some g ->
    exists g', c'.half .sendClassical = some g' ∧ M.groupId g' = M.groupId g ∧
      M.currentEpoch g <= M.currentEpoch g'

theorem SendGrows.ofQuiet {c c' : Core M}
    (h : HalfQuiet (c.half .sendClassical) (c'.half .sendClassical)) :
    SendGrows c c' := by
  intro g held
  rw [held] at h
  rcases h.some_left with ⟨g', held', hsame⟩
  exact ⟨g', held', hsame.groupId, Nat.le_of_eq hsame.epoch.symm⟩

theorem SendGrows.trans {c c' c'' : Core M} (h : SendGrows c c') (h' : SendGrows c' c'') :
    SendGrows c c'' := by
  intro g held
  rcases h g held with ⟨g', held', hid, hle⟩
  rcases h' g' held' with ⟨g'', held'', hid', hle'⟩
  exact ⟨g'', held'', hid'.trans hid, Nat.le_trans hle hle'⟩

theorem SendGrows.step {e : Event M} {c c' : Core M} (hstep : Step e c c') :
    SendGrows c c' := by
  rcases hstep.half_cases .sendClassical with hq | ⟨g', held', hmove⟩
  · exact SendGrows.ofQuiet hq
  · intro g held
    have hadvanced : forall {g₁ : M.Group}, c.half .sendClassical = some g₁ ->
        Advanced g₁ g' -> exists g', c'.half .sendClassical = some g' ∧
          M.groupId g' = M.groupId g ∧ M.currentEpoch g <= M.currentEpoch g' := by
      intro g₁ held₁ happlied
      rw [held] at held₁
      cases held₁
      exact ⟨g', held', happlied.groupId, by rw [happlied.epoch]; omega⟩
    cases hmove with
    | peerCommit held₁ idle kind applied => exact hadvanced held₁ applied.toAdvanced
    | ownCommit send held₁ discharged handoff applied =>
        exact hadvanced held₁ applied.toAdvanced
    | propose held₁ introduces proposed => cases introduces
    | joinRecv recv missing joined =>
        rcases recv with h | h
        · cases h
        · cases h

theorem SendGrows.path {A : Event M -> Prop} {c c' : Core M} (h : Path A c c') :
    SendGrows c c' :=
  h.invariant (I := SendGrows c) (fun _ _ _ _ hstep hc => hc.trans (SendGrows.step hstep))
    (SendGrows.ofQuiet (HalfQuiet.refl _))

theorem Reminted.grows {c c' : Core M} {f : SideBand M} (h : Reminted c f)
    (hinflight : c'.inflight = c.inflight) (hgrows : SendGrows c c') :
    Reminted c' f := by
  rcases h with ⟨m, payload, g₀, g, hparsed, hlive, hwrapped, held, hid, hle⟩
  rcases hgrows g held with ⟨g', held', hid', hle'⟩
  rw [← hinflight] at hlive
  exact ⟨m, payload, g₀, g', hparsed, hlive, hwrapped, held', hid.trans hid'.symm,
    Nat.le_trans hle hle'⟩

/-- The slots are as they were. -/
structure SlotsKept (c c' : Core M) : Prop where
  inflight : c'.inflight = c.inflight
  sideBand : c'.sideBand = c.sideBand

theorem SlotAgrees.kept {c c' : Core M} (h : SlotAgrees c) (hsame : SlotsKept c c')
    (hgrows : SendGrows c c') :
    SlotAgrees c' := by
  constructor
  · rw [hsame.inflight, hsame.sideBand]
    exact h.idle
  · rw [hsame.inflight, hsame.sideBand]
    exact h.leg
  · intro f hf hleg
    rw [hsame.sideBand] at hf
    exact (h.wrapped f hf hleg).grows hsame.inflight hgrows

def LeavesSlots : Event M -> Prop
  | .openRound _ _ => False
  | .closeRound => False
  | .parkLeg _ => False
  | .breakReceive => False
  | .wedge _ => False
  | _ => True

/-- Nothing is torn. -/
structure Unharmed (c : Core M) : Prop where
  wedged : c.wedged = none
  broken : c.broken = false

theorem Unharmed.before {c c' : Core M} (h : Unharmed c') (hq : Quiet c c') :
    Unharmed c := by
  have hback := hq.symm
  constructor
  · rw [hback.2]
    exact h.wedged
  · rw [hback.2]
    exact h.broken

structure Orderly (c : Core M) : Prop where
  unharmed : Unharmed c
  slots : SlotAgrees c

theorem Orderly.kept {c c' : Core M} (h : Orderly c) (hwedged : c'.wedged = c.wedged)
    (hbroken : c'.broken = c.broken) (hsame : SlotsKept c c') (hgrows : SendGrows c c') :
    Orderly c' :=
  { unharmed :=
      { wedged := hwedged.trans h.unharmed.wedged
        broken := hbroken.trans h.unharmed.broken }
    slots := h.slots.kept hsame hgrows }

theorem Orderly.step {e : Event M} {c c' : Core M} (h : Orderly c) (he : LeavesSlots e)
    (hstep : Step e c c') :
    Orderly c' := by
  have hgrows := SendGrows.step hstep
  cases hstep with
  | quiet hq =>
      have hsame : forall (f : Core M -> Prop), f { c with half := c'.half } -> f c' := by
        intro f hf
        rw [hq.2]
        exact hf
      exact h.kept (hsame (fun x => x.wedged = c.wedged) rfl)
        (hsame (fun x => x.broken = c.broken) rfl)
        ⟨hsame (fun x => x.inflight = c.inflight) rfl,
          hsame (fun x => x.sideBand = c.sideBand) rfl⟩ hgrows
  | clearSideBand =>
      exact { unharmed := ⟨h.unharmed.wedged, h.unharmed.broken⟩
              slots := SlotAgrees.empty rfl }
  | registerBootstrap registers =>
      refine { unharmed := ⟨h.unharmed.wedged, h.unharmed.broken⟩, slots := ?_ }
      constructor
      · intro hnone
        cases hnone
      · intro i f hi hf
        cases hi
        cases hf
        rfl
      · intro f hf hleg
        cases hf
        cases hleg
  | respond idle live =>
      exact { unharmed := ⟨h.unharmed.wedged, h.unharmed.broken⟩
              slots := SlotAgrees.empty (h.slots.idle idle) }
  | openRound opened => exact he.elim
  | closeRound => exact he.elim
  | parkLeg live => exact he.elim
  | breakReceive => exact he.elim
  | wedge => exact he.elim
  | _ => exact h.kept rfl rfl ⟨rfl, rfl⟩ hgrows

theorem Orderly.stable : Stable (Orderly (M := M)) :=
  fun _ _ hq hc => hc.step (e := .quiet) True.intro (Step.quiet hq)

theorem Orderly.restored {c r : Core M} (h : Orderly c) (hr : Restored c r) :
    Orderly r := by
  have hsame : forall (f : Core M -> Prop),
      f { c with
        half := r.half
        client := { c.client with handle := 0 }
        staged := renumber 1 c.staged
        auth := { c.auth with adopting := false }
        broken := false } -> f r := by
    intro f hf
    rw [hr.2]
    exact hf
  exact h.kept (hsame (fun x => x.wedged = c.wedged) rfl)
    (hsame (fun x => x.broken = c.broken) h.unharmed.broken.symm)
    ⟨hsame (fun x => x.inflight = c.inflight) rfl,
      hsame (fun x => x.sideBand = c.sideBand) rfl⟩ (SendGrows.ofQuiet (hr.1 _))

theorem Orderly.recovered {c : Core M} (h : Recovered (fun _ => Orderly) c) :
    Orderly c := by
  cases h with
  | checkpoint h => exact h
  | spliced h h' =>
      exact h.kept rfl rfl ⟨rfl, rfl⟩ (SendGrows.ofQuiet (HalfQuiet.refl _))

/-!
## Operations that write neither slot
-/

def SlotsStay (s₀ s : SessionInner M) : Prop :=
  SlotsKept s₀.core s.core

theorem SlotsStay.refl (s : SessionInner M) : SlotsStay s s :=
  ⟨rfl, rfl⟩

theorem Touches.slotsStay {W : List Slot} {x : SessionOp M α} (hx : Touches W x)
    (hW : .round ∉ W) (s₀ : SessionInner M) :
    Op.Keeps (SlotsStay s₀) x := by
  intro s hs
  have hround := hx.roundKept hW s
  constructor
  · change (x.run s).2.round.pqInflight = _
    rw [hround]
    exact hs.inflight
  · change (x.run s).2.round.pendingSideBand.map _ = _
    rw [hround]
    exact hs.sideBand

theorem QuietOp.slotsStay {x : SessionOp M α} (hx : QuietOp x) (s₀ : SessionInner M) :
    Op.Keeps (SlotsStay s₀) x := by
  intro s hs
  have hquiet : Quiet s.core (x.run s).2.core := hx s
  constructor
  · rw [hquiet.2]
    exact hs.inflight
  · rw [hquiet.2]
    exact hs.sideBand

theorem slotsStay_dischargeOwedBind (s₀ : SessionInner M) :
    Op.Keeps (SlotsStay s₀)
      (dischargeOwedBind : SessionOp M (Option (DischargedBind M))) := by
  unfold dischargeOwedBind
  refine Op.Keeps.looking Op.Still.state fun s => ?_
  split
  · exact Op.Keeps.value _
  · refine Op.Keeps.bind (Op.Keeps.update fun _ hs => ⟨hs.inflight, hs.sideBand⟩)
      fun _ => ?_
    refine Op.Keeps.looking (still_readHalf _ _) fun send => ?_
    refine Op.Keeps.looking (still_readHalf _ _) fun sendPq => ?_
    refine Op.Keeps.looking (Op.Still.ensure _ _) fun _ => ?_
    refine Op.Keeps.looking (Op.Still.ensure _ _) fun _ => ?_
    refine Op.Keeps.bind
      ((touches_onHalf (W := [.half .sendPq, .services]) _ _ _ (by decide)
        (by decide)).slotsStay (by decide) s₀) fun apqPsk => ?_
    refine Op.Keeps.bind (Op.Keeps.update fun _ hs => ⟨hs.inflight, hs.sideBand⟩)
      fun _ => ?_
    exact Op.Keeps.value _

theorem slotsStay_commitRound (folded : Option (PeerProposal M)) (seed : M.Seed)
    (s₀ : SessionInner M) :
    Op.Keeps (SlotsStay s₀) (commitRound folded seed) := by
  unfold commitRound
  refine Op.Keeps.bind (touches_rememberSendPsk.slotsStay (by decide) s₀) fun _ => ?_
  refine Op.Keeps.bind (touches_crossPskForCommit.slotsStay (by decide) s₀)
    fun crossPsk => ?_
  refine Op.Keeps.looking still_handoffForCommit fun handoff => ?_
  refine Op.Keeps.bind ((touches_refold folded).slotsStay (by decide) s₀) fun _ => ?_
  refine Op.Keeps.looking Op.Still.state fun s => ?_
  apply Op.Keeps.mapError
  unfold dischargeAndCommit
  refine Op.Keeps.bind (slotsStay_dischargeOwedBind s₀) fun owed => ?_
  exact Touches.slotsStay (touches_commitDischarged _ _ _ _ owed) (by decide) s₀

theorem slotsStay_prepareRatchetCommit (selected : Option Bytes) (rnd : Nat -> M.Seed)
    (s₀ : SessionInner M) :
    Op.Keeps (SlotsStay s₀) (prepareRatchetCommit selected rnd) := by
  unfold prepareRatchetCommit
  refine Op.Keeps.looking Op.Still.state fun s => ?_
  dsimp only
  refine Op.Keeps.bind (Op.Keeps.update fun _ hs => ⟨hs.inflight, hs.sideBand⟩)
    fun _ => ?_
  refine Op.Keeps.looking still_peerAppliedOurSendEpoch fun licensed => ?_
  refine Op.Keeps.bind ?_ fun _ => ?_
  · exact Op.Keeps.ite (slotsStay_commitRound _ _ s₀) (Op.Keeps.value ())
  refine Op.Keeps.bind ((touches_stageSelfUpdate _ _).slotsStay (by decide) s₀)
    fun proposal => ?_
  refine Op.Keeps.looking Op.Still.state fun s => ?_
  exact Op.Keeps.value _

/-!
## Minting a leg
-/

def MintedNow (kind : PqFrameKind) (payload : Bytes) (f : SideBand M)
    (s : SessionInner M) : Prop :=
  f.kind = kind ∧ exists m g₀ g,
    f.body.parsed = some m ∧ WrappedIn g₀ kind payload m ∧
      s.half .sendClassical = some g ∧ Undisturbed g₀ g

theorem MintedNow.reminted {kind : PqFrameKind} {payload : Bytes} {f : SideBand M}
    {s : SessionInner M} {c : Core M} (h : MintedNow kind payload f s)
    (hhalf : c.half .sendClassical = s.half .sendClassical)
    (hlive : livePayload c.inflight = some (kind, payload)) :
    Reminted c f := by
  rcases h with ⟨rfl, m, g₀, g, hparsed, hwrapped, held, hsame⟩
  exact ⟨m, payload, g₀, g, hparsed, hlive, hwrapped, hhalf.trans held, hsame.groupId.symm,
    Nat.le_of_eq hsame.epoch.symm⟩

theorem owedLeg_of_livePayload {i : PqInflight} {kind : PqFrameKind} {payload : Bytes}
    (h : livePayload (some i) = some (kind, payload)) :
    kind = owedLeg i := by
  cases i with
  | initiating eph => cases h; rfl
  | responding secret wireCt =>
      cases wireCt with
      | none => cases h
      | some ct => cases h; rfl
  | _ => cases h

variable (L : Lawful M)

include L

theorem triple_encryptLeg {s₁ : SessionInner M} (data : Bytes) (seed : M.Seed) :
    Op.Triple (fun s => s = s₁)
      (callHalf .sendClassical .sessionNotReady (fun _ => .mls) fun _ =>
        M.encryptApplicationMessage data [] seed)
      (fun m s => SlotsStay s₁ s ∧ exists g₀ g,
        (M.encryptApplicationMessage data [] seed g₀).1 = .ok m ∧
          s.half .sendClassical = some g ∧ Undisturbed g₀ g)
      fun _ s => SlotsStay s₁ s := by
  have hslots := (touches_callHalf (W := [.half .sendClassical]) .sendClassical
    .sessionNotReady (fun _ => .mls)
    (fun _ => M.encryptApplicationMessage data [] seed) (by decide)).slotsStay
      (by decide) s₁
  cases held : s₁.half .sendClassical with
  | none =>
      refine Op.Triple.weaken (Q := fun _ _ => False)
        (E := fun _ s => SlotsStay s₁ s) ?_ (fun _ _ h => h.elim) fun _ _ h => h
      rintro s rfl
      unfold callHalf onHalf
      rw [Op.run_ofResult, held]
      exact SlotsStay.refl s
  | some g₀ =>
      have hisSome : (s₁.half .sendClassical).isSome = true := by rw [held]; rfl
      rcases Option.isSome_iff_exists.mp (halfStore_isSome hisSome) with ⟨store, hstore⟩
      have hcalled := triple_calling held hstore .sessionNotReady (fun _ => .mls)
        fun _ => M.encryptApplicationMessage data [] seed
      have hboth := hcalled.both (Op.Triple.ofKeeps hslots) fun _ _ _ h => h
      refine (hboth.pre ?_).post ?_
      · rintro s rfl
        exact ⟨rfl, SlotsStay.refl s⟩
      · rintro m s ⟨⟨g, hcall, rfl⟩, hstay⟩
        refine ⟨hstay, g₀, g, by rw [hcall], half_setHalf_held held, ?_⟩
        have hsame := L.encrypt data [] seed g₀
        rw [hcall] at hsame
        exact hsame

theorem triple_mintLeg {s₁ : SessionInner M} (kind : PqFrameKind) (payload : Bytes)
    (seed : M.Seed) :
    Op.Triple (fun s => s = s₁) (mintLeg kind payload seed)
      (fun f s => SlotsStay s₁ s ∧ MintedNow kind payload f s)
      fun _ s => SlotsStay s₁ s := by
  unfold mintLeg
  refine Op.Triple.bind (triple_encryptLeg L _ seed) fun m => ?_
  refine Op.Triple.knowing (Op.Returns.ofExcept _)
    (Op.Triple.keptBy (Op.Still.ofExcept _) fun _ _ h => h.1) fun body hbody => ?_
  apply Op.Triple.value
  rintro s ⟨hstay, g₀, g, hrun, held, hsame⟩
  exact ⟨hstay, rfl, m, g₀, g, parsed_ofMessage hbody, ⟨seed, hrun⟩, held, hsame⟩

omit L in
theorem MintedNow.agrees {kind : PqFrameKind} {payload : Bytes} {f : SideBand M}
    {s : SessionInner M} {c : Core M} (h : MintedNow kind payload f s)
    (hhalf : c.half .sendClassical = s.half .sendClassical)
    (hparked : c.sideBand = some f)
    (hlive : livePayload c.inflight = some (kind, payload)) :
    SlotAgrees c := by
  have hkind := h.1
  constructor
  · intro hnone
    rw [hnone] at hlive
    cases hlive
  · intro i f' hi hf'
    rw [hparked] at hf'
    cases hf'
    rw [hi] at hlive
    rw [hkind]
    exact owedLeg_of_livePayload hlive
  · intro f' hf' _
    rw [hparked] at hf'
    cases hf'
    exact h.reminted hhalf hlive

def SlotsFound (s₀ s : SessionInner M) : Prop :=
  SlotsStay s₀ s ∨ SlotAgrees s.core

theorem finds_rewrapSideBand (seed : M.Seed) (s₀ : SessionInner M) :
    Op.Triple (SlotsStay s₀) (rewrapSideBand seed) (fun _ => SlotsFound s₀)
      fun _ => SlotsFound s₀ := by
  unfold rewrapSideBand
  refine Op.Triple.reading fun s hs => ?_
  have hidle : Op.Triple (fun s' => s' = s) (pure () : SessionOp M Unit)
      (fun _ => SlotsFound s₀) fun _ => SlotsFound s₀ := by
    apply Op.Triple.value
    rintro s' rfl
    exact Or.inl hs
  split
  next due kind payload hdue hlive =>
    apply Op.Triple.ite
    · intro hkind
      refine Op.Triple.bind (triple_mintLeg L kind payload seed).attempt fun minted => ?_
      cases minted with
      | ok frame =>
          apply Op.Triple.update
          rintro s' ⟨hstay, hminted⟩
          refine Or.inr (hminted.agrees rfl rfl ?_)
          change livePayload s'.core.inflight = _
          rw [hstay.inflight]
          exact hlive
      | error e =>
          apply Op.Triple.value
          intro s' hstay
          exact Or.inl ⟨hstay.inflight.trans hs.inflight, hstay.sideBand.trans hs.sideBand⟩
    · intro _
      exact hidle
  next => exact hidle

omit L in
def FreshLeg (s : SessionInner M) : Prop :=
  exists kind payload f,
    MintedNow kind payload f s ∧ s.core.sideBand = some f ∧
      livePayload s.core.inflight = some (kind, payload)

omit L in
def UpdateParked (c : Core M) : Prop :=
  c.inflight = some .rekeyInitiated ∧
    exists f, c.sideBand = some f ∧ f.kind = .rekeyUpdate

omit L in
theorem FreshLeg.agrees {s : SessionInner M} (h : FreshLeg s) : SlotAgrees s.core := by
  rcases h with ⟨kind, payload, f, hminted, hparked, hlive⟩
  exact hminted.agrees rfl hparked hlive

omit L in
theorem UpdateParked.agrees {c : Core M} (h : UpdateParked c) : SlotAgrees c := by
  rcases h with ⟨hinflight, f, hparked, hkind⟩
  constructor
  · intro hnone
    rw [hinflight] at hnone
    cases hnone
  · intro i f' hi hf
    rw [hinflight] at hi
    rw [hparked] at hf
    cases hi
    cases hf
    exact hkind
  · intro f' hf hleg
    rw [hparked] at hf
    cases hf
    unfold SideBand.isRatchetLeg at hleg
    rw [hkind] at hleg
    cases hleg

theorem finds_stageRatchet (rnd : Nat -> M.Seed) :
    Op.Triple (fun s => s.core.sideBand = none) (stageRatchet rnd)
      (fun _ => FreshLeg) fun _ s => s.core.sideBand = none := by
  unfold stageRatchet
  refine Op.Triple.looking (Op.Still.ofExcept _) (fun _ _ h => h) fun eph => ?_
  refine Op.Triple.fixed fun s hs => ?_
  refine Op.Triple.bind ((triple_mintLeg L .ratchetEphemeralKey eph.ek (rnd 1)).weaken
    (fun _ _ h => h) fun _ s' hstay => hstay.sideBand.trans hs) fun frame => ?_
  apply Op.Triple.update
  rintro s' ⟨hstay, hminted⟩
  exact ⟨.ratchetEphemeralKey, eph.ek, frame, hminted, rfl, rfl⟩

omit L in
theorem finds_stageRekey (rotating : Option Bytes) (seed : M.Seed) :
    Op.Triple (fun s => s.core.sideBand = none) (stageRekey rotating seed)
      (fun _ s => UpdateParked s.core) fun _ s => s.core.sideBand = none := by
  unfold stageRekey
  refine Op.Triple.looking Op.Still.state (fun _ _ h => h) fun s₁ => ?_
  refine Op.Triple.looking (Op.Still.ensure _ _) (fun _ _ h => h) fun _ => ?_
  dsimp only
  refine Op.Triple.fixed fun s hs => ?_
  have hcall := (touches_callHalf (W := [.half .recvPq]) .recvPq .sessionNotReady
    (fun e => if rotating.isSome then mapCredentialErr e else .mls)
    (fun env => M.proposeUpdate env (rotating.map fun id => (s₁.client.pqSigner, id))
      (rotating.getD []) seed) (by decide)).slotsStay (by decide) s
  refine Op.Triple.bind (((Op.Triple.ofKeeps hcall).weaken (fun _ _ h => h)
    fun _ s' hstay => hstay.sideBand.trans hs).pre ?_) fun proposal => ?_
  · rintro s' rfl
    exact SlotsStay.refl s'
  refine Op.Triple.looking (Op.Still.ofExcept _)
    (fun _ s' hstay => hstay.sideBand.trans hs) fun body => ?_
  apply Op.Triple.update
  intro s' _
  exact ⟨rfl, _, rfl, rfl⟩

theorem invariant_maybeStageNextRound {I : SessionInner M -> Prop} (rnd : Nat -> M.Seed)
    (hempty : forall s, s.core.sideBand = none -> I s)
    (hleg : forall s, FreshLeg s -> I s)
    (hupdate : forall s : SessionInner M, UpdateParked s.core -> I s) :
    Op.Triple I (maybeStageNextRound rnd) (fun _ => I) fun _ => I := by
  unfold maybeStageNextRound
  refine Op.Triple.reading fun s hs => ?_
  apply Op.Triple.ite
  · intro hidle
    have hnone : s.core.sideBand = none := by
      have hnone : s.round.pendingSideBand.isNone = true := by
        unfold sideBandIdle at hidle
        simp only [Bool.and_eq_true] at hidle
        exact hidle.1.2
      change s.round.pendingSideBand.map _ = none
      rw [Option.isNone_iff_eq_none.mp hnone]
      rfl
    have hstart : forall s' : SessionInner M, s' = s -> s'.core.sideBand = none := by
      rintro s' rfl
      exact hnone
    have hstaged : forall {β : Type} {x : SessionOp M β} (b : Except TwoMlsPqError β -> Bool),
        Op.Triple (fun s => s.core.sideBand = none) x (fun _ => I)
          (fun _ s => s.core.sideBand = none) ->
        Op.Triple (fun s' => s' = s)
          (do
            let staged <- Op.attempt x
            pure (b staged) : SessionOp M Bool)
          (fun _ => I) fun _ => I := by
      intro β x b hx
      refine Op.Triple.bind (hx.pre hstart).attempt fun staged => ?_
      apply Op.Triple.value
      intro s' hs'
      cases staged with
      | ok _ => exact hs'
      | error e => exact hempty s' hs'
    apply Op.Triple.ite
    · intro _
      exact hstaged _ ((finds_stageRekey _ _).post fun _ s => hupdate s)
    · intro _
      exact hstaged _ ((finds_stageRatchet L _).post fun _ => hleg)
  · intro _
    apply Op.Triple.value
    rintro s' rfl
    exact hs

theorem finds_maybeStageNextRound (rnd : Nat -> M.Seed) (s₀ : SessionInner M) :
    Op.Triple (SlotsFound s₀) (maybeStageNextRound rnd) (fun _ => SlotsFound s₀)
      fun _ => SlotsFound s₀ := by
  apply invariant_maybeStageNextRound L
  · intro s hempty
    exact Or.inr (SlotAgrees.empty hempty)
  · intro s hfresh
    exact Or.inr hfresh.agrees
  · intro s hparked
    exact Or.inr hparked.agrees

/-!
## The doors that send
-/

theorem finds_prepareToEncryptInner (proposing : Option Bytes) (rnd : Nat -> M.Seed)
    (s₀ : SessionInner M) :
    Op.Triple (SlotsStay s₀) (prepareToEncryptInner proposing rnd)
      (fun _ => SlotsFound s₀) fun _ => SlotsFound s₀ := by
  unfold prepareToEncryptInner
  refine Op.Triple.looking still_ensureEstablishmentDelegated (fun _ _ h => Or.inl h)
    fun _ => ?_
  refine Op.Triple.looking Op.Still.state (fun _ _ h => Or.inl h) fun s => ?_
  refine Op.Triple.bind (Q := fun _ => SlotsStay s₀) ?_ fun result => ?_
  · refine (Op.Triple.ofKeeps (Op.Keeps.ite ?_ ?_)).weaken (fun _ _ h => h)
      fun _ _ h => Or.inl h
    · exact (touches_preparePreEstablishment _).slotsStay (by decide) s₀
    · exact slotsStay_prepareRatchetCommit _ _ s₀
  refine Op.Triple.bind (Q := fun _ => SlotsStay s₀) ?_ fun _ => ?_
  · exact (Op.Triple.ofKeeps
      (touches_recordListenRendezvous.slotsStay (by decide) s₀)).weaken (fun _ _ h => h)
        fun _ _ h => Or.inl h
  refine Op.Triple.bind (finds_rewrapSideBand L _ s₀) fun _ => ?_
  exact Op.Triple.value fun _ hs => hs

theorem finds_encryptInner (appMessage : Bytes) (rnd : Nat -> M.Seed)
    (s₀ : SessionInner M) :
    Op.Triple (SlotsStay s₀) (encryptInner appMessage rnd)
      (fun _ => SlotsFound s₀) fun _ => SlotsFound s₀ := by
  unfold encryptInner
  refine Op.Triple.looking still_ensureEstablishmentDelegated (fun _ _ h => Or.inl h)
    fun _ => ?_
  refine Op.Triple.looking Op.Still.state (fun _ _ h => Or.inl h) fun s => ?_
  refine Op.Triple.looking (Op.Still.ofOption _ _) (fun _ _ h => Or.inl h)
    fun proposalHash => ?_
  dsimp only
  refine Op.Triple.bind (Q := fun _ => SlotsStay s₀)
    (Op.Triple.update fun _ hs => ⟨hs.inflight, hs.sideBand⟩) fun _ => ?_
  refine Op.Triple.looking (Op.Still.ensure _ _) (fun _ _ h => Or.inl h) fun _ => ?_
  refine Op.Triple.bind (Q := fun _ => SlotsStay s₀) ?_ fun message => ?_
  · exact (Op.Triple.ofKeeps ((touches_callHalf (W := [.half .sendClassical]) _ _ _ _
      (by decide)).slotsStay (by decide) s₀)).weaken (fun _ _ h => h)
        fun _ _ h => Or.inl h
  refine Op.Triple.looking (Op.Still.ofExcept _) (fun _ _ h => Or.inl h) fun app => ?_
  refine Op.Triple.looking Op.Still.state (fun _ _ h => Or.inl h) fun s => ?_
  refine Op.Triple.looking (Op.Still.ofOption _ _) (fun _ _ h => Or.inl h)
    fun send => ?_
  refine Op.Triple.looking (still_composeFrame _ _ _) (fun _ _ h => Or.inl h)
    fun cipherText => ?_
  refine Op.Triple.bind (finds_rewrapSideBand L _ s₀) fun _ => ?_
  refine Op.Triple.bind (finds_maybeStageNextRound L _ s₀) fun stagedPqRound => ?_
  exact Op.Triple.value fun _ hs => hs

/-!
## The doors that receive
-/

/-- The slots are as they were, the frame's slot is empty, or the session is torn. -/
def SlotsSettle (s₀ s : SessionInner M) : Prop :=
  SlotsStay s₀ s ∨ s.core.sideBand = none ∨ ¬ Unharmed s.core

omit L in
theorem SlotsStay.settle {s₀ s : SessionInner M} (h : SlotsStay s₀ s) :
    SlotsSettle s₀ s :=
  Or.inl h

omit L in
theorem settle_of_empty {s₀ s : SessionInner M} (h : s.core.sideBand = none) :
    SlotsSettle s₀ s :=
  Or.inr (Or.inl h)

omit L in
theorem settle_of_wedged {s₀ s : SessionInner M}
    (h : s.round.pqWedged.isSome = true) :
    SlotsSettle s₀ s := by
  refine Or.inr (Or.inr fun hunharmed => ?_)
  have hwedged : s.round.pqWedged = none := hunharmed.wedged
  rw [hwedged] at h
  cases h

omit L in
theorem Touches.slotsSettle {W : List Slot} {x : SessionOp M α} (hx : Touches W x)
    (hround : .round ∉ W) (s₀ : SessionInner M) :
    Op.Keeps (SlotsSettle s₀) x := by
  intro s hs
  have hsame := hx.roundKept hround s
  rcases hs with hstay | hempty | htorn
  · exact (hx.slotsStay hround s₀ s hstay).settle
  · apply settle_of_empty
    change (x.run s).2.round.pendingSideBand.map _ = none
    rw [hsame]
    exact hempty
  · refine Or.inr (Or.inr fun hunharmed => htorn ?_)
    constructor
    · change s.round.pqWedged = none
      rw [← hsame]
      exact hunharmed.wedged
    · change s.round.bindApplyBroken = false
      rw [← hsame]
      exact hunharmed.broken

omit L in
theorem settles_of_stays {x : SessionOp M α} {s₀ : SessionInner M}
    (hx : Op.Keeps (SlotsStay s₀) x) :
    Op.Triple (SlotsStay s₀) x (fun _ => SlotsStay s₀) fun _ => SlotsSettle s₀ :=
  (Op.Triple.ofKeeps hx).weaken (fun _ _ h => h) fun _ _ h => h.settle

omit L in
theorem completes_rememberRecvAttachmentComponent (s₀ : SessionInner M) :
    Op.Triple (fun _ => True) rememberRecvAttachmentComponent (fun _ _ => True)
      fun _ => SlotsSettle s₀ := by
  unfold rememberRecvAttachmentComponent
  refine Op.Triple.reading fun s _ => ?_
  split
  · exact Op.Triple.value fun _ _ => True.intro
  · apply Op.Triple.ite
    · intro _
      exact Op.Triple.value fun _ _ => True.intro
    · intro _
      refine Op.Triple.bind (Q := fun _ _ => True) ?_ fun _ =>
        Op.Triple.value fun _ _ => True.intro
      exact (Op.Triple.any _).attempt.post fun _ _ _ => True.intro

theorem settles_takeResponderSecret (s₀ : SessionInner M) :
    Op.Triple (SlotsStay s₀) takeResponderSecret (fun _ _ => True)
      fun _ => SlotsSettle s₀ := by
  have hreExport : Op.Triple (SlotsStay s₀) takeResponderSecret.reExport
      (fun _ _ => True) fun _ => SlotsSettle s₀ := by
    unfold takeResponderSecret.reExport
    refine Op.Triple.bind
      (settles_of_stays ((quiet_exportCrossFromSendPq L).slotsStay s₀)) fun exported => ?_
    refine Op.Triple.bind (Q := fun _ _ => True) (Op.Triple.update fun _ _ => True.intro)
      fun _ => ?_
    exact Op.Triple.value fun _ _ => True.intro
  unfold takeResponderSecret
  refine Op.Triple.looking Op.Still.state (fun _ _ h => h.settle) fun s => ?_
  split
  · refine Op.Triple.bind (Q := fun _ _ => True) (Op.Triple.update fun _ _ => True.intro)
      fun _ => ?_
    exact Op.Triple.value fun _ _ => True.intro
  · exact hreExport
  · exact hreExport
  · exact Op.Triple.fail fun _ h => h.settle

theorem settles_applyBindStaple (tMessage pqMessage : Blob M) (s₀ : SessionInner M) :
    Op.Triple (SlotsStay s₀) (applyBindStaple tMessage pqMessage)
      (fun _ => SlotsSettle s₀) fun _ => SlotsSettle s₀ := by
  unfold applyBindStaple
  refine Op.Triple.bind (settles_takeResponderSecret L s₀) fun secret => ?_
  refine Op.Triple.bind (completes_rememberRecvAttachmentComponent s₀) fun _ => ?_
  refine Op.Triple.bind (Op.Triple.any (applyBind secret pqMessage tMessage)).attempt
    fun applied => ?_
  cases applied with
  | ok moved =>
      refine Op.Triple.bind (Q := fun _ s => s.core.sideBand = none)
        (Op.Triple.update fun _ _ => rfl) fun _ => ?_
      exact Op.Triple.value fun _ hs => settle_of_empty hs
  | error e =>
      refine Op.Triple.bind (Q := fun _ s => s.core.broken = true)
        (Op.Triple.update fun _ _ => rfl) fun _ => ?_
      apply Op.Triple.fail
      intro s hs
      refine Or.inr (Or.inr fun hunharmed => ?_)
      rw [hunharmed.broken] at hs
      cases hs

omit L in
theorem settles_applyIfCurrent {s₀ : SessionInner M}
    {apply : M.Message -> SessionOp M LeafChanges}
    (happly : forall m, Op.Triple (SlotsStay s₀) (apply m) (fun _ => SlotsSettle s₀)
      fun _ => SlotsSettle s₀) (commit : Option M.Message) :
    Op.Triple (SlotsStay s₀) (applyIfCurrent commit apply) (fun _ => SlotsSettle s₀)
      fun _ => SlotsSettle s₀ := by
  unfold applyIfCurrent
  refine Op.Triple.looking (Op.Still.ofOption _ _) (fun _ _ h => h.settle)
    fun message => ?_
  refine Op.Triple.looking Op.Still.state (fun _ _ h => h.settle) fun s => ?_
  refine Op.Triple.looking (Op.Still.ofExcept _) (fun _ _ h => h.settle) fun action => ?_
  cases action with
  | skip => exact Op.Triple.value fun _ h => h.settle
  | apply =>
      refine Op.Triple.bind (happly message) fun moved => ?_
      exact Op.Triple.value fun _ hs => hs

theorem settles_processStaple (staple : Staple M)
    (approval : Option EstablishmentApproval) (s₀ : SessionInner M) :
    Op.Triple (SlotsStay s₀) (processStaple staple approval) (fun _ => SlotsSettle s₀)
      fun _ => SlotsSettle s₀ := by
  have hvalue : forall {β : Type} (b : β), Op.Triple (SlotsStay s₀)
      (pure b : SessionOp M β) (fun _ => SlotsSettle s₀) fun _ => SlotsSettle s₀ :=
    fun _ => Op.Triple.value fun _ h => h.settle
  have hjoin : forall w establishment, Op.Triple (SlotsStay s₀)
      (joinReporting w establishment) (fun _ => SlotsStay s₀) fun _ => SlotsSettle s₀ :=
    fun w establishment =>
      settles_of_stays ((touches_joinReporting w establishment).slotsStay (by decide) s₀)
  unfold processStaple
  refine Op.Triple.looking Op.Still.state (fun _ _ h => h.settle) fun s => ?_
  cases staple with
  | badHandoff => exact Op.Triple.fail fun _ h => h.settle
  | badBind => exact Op.Triple.fail fun _ h => h.settle
  | handoff envelope w =>
      dsimp only
      apply Op.Triple.ite
      · intro _
        split
        · exact hvalue _
        · exact Op.Triple.bind (hjoin _ _) fun _ => hvalue _
      · intro _
        refine Op.Triple.bind (settles_of_stays
          ((touches_processWelcome w .bare).slotsStay (by decide) s₀)) fun _ => hvalue _
  | welcome w => exact Op.Triple.bind (hjoin _ _) fun _ => hvalue _
  | bind tMessage pqMessage =>
      refine Op.Triple.bind (settles_applyIfCurrent
        (fun _ => settles_applyBindStaple L tMessage pqMessage s₀) _) fun outcome => ?_
      exact Op.Triple.value fun _ hs => hs
  | commit message =>
      refine Op.Triple.bind (settles_applyIfCurrent (fun m => ?_) _) fun outcome => ?_
      · exact (settles_of_stays
          ((touches_applyCommitStaple m).slotsStay (by decide) s₀)).post
            fun _ _ h => h.settle
      · exact Op.Triple.value fun _ hs => hs

theorem settles_processMessage (staple : Staple M) (proposal : ProposalSection M)
    (app : Blob M) (approval : Option EstablishmentApproval) (s₀ : SessionInner M) :
    Op.Triple (SlotsStay s₀) (processMessage staple proposal app approval)
      (fun _ => SlotsSettle s₀) fun _ => SlotsSettle s₀ := by
  unfold processMessage
  refine Op.Triple.looking (Op.Still.ofOption _ _) (fun _ _ h => h.settle)
    fun appMessage => ?_
  refine Op.Triple.bind (settles_processStaple L staple approval s₀) fun outcome => ?_
  cases outcome with
  | none =>
      cases staple with
      | handoff envelope w => exact Op.Triple.value fun _ hs => hs
      | _ => exact Op.Triple.value fun _ hs => hs
  | some outcome =>
      refine Op.Triple.bind (Op.Triple.ofKeeps
        ((touches_processMessageBody outcome proposal appMessage).slotsSettle (by decide)
          s₀)) fun result => ?_
      exact Op.Triple.value fun _ hs => hs

theorem settles_processIncomingInner (frame : Frame M)
    (approval : Option EstablishmentApproval) (s₀ : SessionInner M) :
    Op.Triple (SlotsStay s₀) (processIncomingInner frame approval)
      (fun _ => SlotsSettle s₀) fun _ => SlotsSettle s₀ := by
  have hvalue : forall {β : Type} (b : β), Op.Triple (SlotsStay s₀)
      (pure b : SessionOp M β) (fun _ => SlotsSettle s₀) fun _ => SlotsSettle s₀ :=
    fun _ => Op.Triple.value fun _ h => h.settle
  have hfail : forall {β : Type} e, Op.Triple (SlotsStay s₀)
      (Op.fail e : SessionOp M β) (fun _ => SlotsSettle s₀) fun _ => SlotsSettle s₀ :=
    fun _ => Op.Triple.fail fun _ h => h.settle
  have hjoin : forall w establishment, Op.Triple (SlotsStay s₀)
      (joinStandalone w establishment) (fun _ => SlotsSettle s₀)
        fun _ => SlotsSettle s₀ := by
    intro w establishment
    unfold joinStandalone
    refine Op.Triple.bind (settles_of_stays
      ((touches_joinReporting w establishment).slotsStay (by decide) s₀)) fun _ => ?_
    refine Op.Triple.looking Op.Still.state (fun _ _ h => h.settle) fun s => ?_
    split
    · exact hvalue _
    · exact hvalue _
  unfold processIncomingInner
  refine Op.Triple.looking Op.Still.state (fun _ _ h => h.settle) fun s => ?_
  refine Op.Triple.looking (Op.Still.ensure _ _) (fun _ _ h => h.settle) fun _ => ?_
  cases frame with
  | badHandoff => exact hfail _
  | badMessage => exact hfail _
  | sideBand f => exact hfail _
  | unknown => exact hfail _
  | welcome w => exact hjoin _ _
  | handoff envelope w =>
      dsimp only
      apply Op.Triple.ite
      · intro _
        exact Op.Triple.bind (settles_of_stays
          ((touches_processWelcome w .bare).slotsStay (by decide) s₀)) fun _ => hvalue _
      · intro _
        split
        · exact hvalue _
        · exact hjoin _ _
  | message staple proposal app =>
      exact settles_processMessage L staple proposal app approval s₀
  | preEstablishment app =>
      refine Op.Triple.looking (Op.Still.ofOption _ _) (fun _ _ h => h.settle)
        fun appMessage => ?_
      refine Op.Triple.bind (settles_of_stays
        ((touches_decryptApp appMessage).slotsStay (by decide) s₀)) fun _ => hvalue _

/-!
## The binds
-/

omit L in
theorem settles_pastNoReturn {round : PqWedge} {x : SessionOp M Unit}
    (hx : Op.Triple (fun _ => True) x (fun _ s => s.core.sideBand = none)
      fun _ _ => True) (s₀ : SessionInner M) :
    Op.Triple (SlotsStay s₀)
      (do
        pastNoReturn round x
        recordPqHeaderKeyPostCommit : SessionOp M Unit)
      (fun _ => SlotsSettle s₀) fun _ => SlotsSettle s₀ := by
  refine Op.Triple.bind (Q := fun _ => SlotsSettle s₀) ?_ fun _ => ?_
  · exact ((triple_latched hx).pre fun _ _ => True.intro).weaken
      (fun _ _ h => settle_of_empty h) fun _ _ h => settle_of_wedged h.2
  exact Op.Triple.ofKeeps
    (touches_recordPqHeaderKeyPostCommit.slotsSettle (by decide) s₀)

theorem settles_ratchetBindInner (leg : M.Message) (carrier : LegCarrier)
    (seed : M.Seed) (s₀ : SessionInner M) :
    Op.Triple (SlotsStay s₀) (ratchetBindInner leg carrier seed)
      (fun _ => SlotsSettle s₀) fun _ => SlotsSettle s₀ := by
  unfold ratchetBindInner
  refine Op.Triple.bind (settles_of_stays
    ((quiet_openCiphertextLeg L leg carrier).slotsStay s₀)) fun wireCt => ?_
  refine Op.Triple.bind (settles_of_stays
    ((quiet_openRoundSecret wireCt).slotsStay s₀)) fun secret => ?_
  refine Op.Triple.bind (settles_of_stays
    (touches_rememberSendPsk.slotsStay (by decide) s₀)) fun _ => ?_
  apply settles_pastNoReturn
  refine Op.Triple.bind (Op.Triple.any _) fun _ => ?_
  refine Op.Triple.bind (Op.Triple.any _) fun _ => ?_
  exact Op.Triple.update fun _ _ => rfl

omit L in
theorem touches_applyRekeyCommit (commit : M.Message) :
    Touches [.half .recvPq] (applyRekeyCommit commit) := by
  unfold applyRekeyCommit
  refine Op.Writes.bind (touches_callHalf _ _ _ _ (by decide)) fun received => ?_
  refine Op.Writes.looking ?_ fun _ => ?_
  · cases received with
    | commit effect =>
        exact Op.Still.bind (Op.Still.ofExcept _) fun _ => Op.Still.ensure _ _
    | _ => exact Op.Still.fail _
  refine Op.Writes.looking (still_readHalf _ _) fun recvPq => ?_
  exact Op.Writes.still (Op.Still.ofExcept _)

theorem settles_rekeyApplyInner (commit : Blob M) (seed : M.Seed) (s₀ : SessionInner M) :
    Op.Triple (SlotsStay s₀) (rekeyApplyInner commit seed)
      (fun _ => SlotsSettle s₀) fun _ => SlotsSettle s₀ := by
  unfold rekeyApplyInner
  refine Op.Triple.looking (Op.Still.ofOption _ _) (fun _ _ h => h.settle)
    fun message => ?_
  refine Op.Triple.bind (settles_of_stays ((quiet_preRegisterSendPq L).slotsStay s₀))
    fun preRegistered => ?_
  refine Op.Triple.bind (settles_of_stays
    ((touches_applyRekeyCommit message).slotsStay (by decide) s₀)) fun _ => ?_
  apply settles_pastNoReturn
  refine Op.Triple.bind (Op.Triple.any _) fun _ => ?_
  refine Op.Triple.bind (Op.Triple.any _) fun _ => ?_
  refine Op.Triple.bind (Op.Triple.any _) fun exported => ?_
  refine Op.Triple.bind (Op.Triple.any _) fun _ => ?_
  refine Op.Triple.bind (Op.Triple.any _) fun _ => ?_
  exact Op.Triple.update fun _ _ => rfl

omit L in
theorem settles_bootstrapBindInner (welcome : Blob M) (seed : M.Seed)
    (s₀ : SessionInner M) :
    Op.Triple (SlotsStay s₀) (bootstrapBindInner welcome seed)
      (fun _ => SlotsSettle s₀) fun _ => SlotsSettle s₀ := by
  unfold bootstrapBindInner
  refine Op.Triple.bind (settles_of_stays
    (Touches.slotsStay (W := [.ledger]) (touches_update fun s =>
      confined_trackPskStores s.client (by decide) s) (by decide) s₀)) fun _ => ?_
  refine Op.Triple.looking (still_joinDeferredPqHalf welcome) (fun _ _ h => h.settle)
    fun pq => ?_
  apply settles_pastNoReturn
  refine Op.Triple.bind (Op.Triple.any _) fun _ => ?_
  refine Op.Triple.bind (Op.Triple.any _) fun exported => ?_
  refine Op.Triple.bind (Op.Triple.any _) fun _ => ?_
  exact Op.Triple.update fun _ _ => rfl

/-!
## The answers
-/

omit L in
theorem agrees_of_opened {c : Core M} {i : PqInflight} {f : SideBand M}
    (hinflight : c.inflight = some i) (hparked : c.sideBand = some f)
    (hkind : f.kind = owedLeg i) (hleg : f.isRatchetLeg = false) :
    SlotAgrees c := by
  constructor
  · intro hnone
    rw [hinflight] at hnone
    cases hnone
  · intro i' f' hi hf
    rw [hinflight] at hi
    rw [hparked] at hf
    cases hi
    cases hf
    exact hkind
  · intro f' hf hleg'
    rw [hparked] at hf
    cases hf
    rw [hleg] at hleg'
    cases hleg'

omit L in
theorem QuietOp.slotsFound {x : SessionOp M α} (hx : QuietOp x) (s₀ : SessionInner M) :
    Op.Keeps (SlotsFound s₀) x := by
  intro s hs
  have hquiet : Quiet s.core (x.run s).2.core := hx s
  rcases hs with hstay | hagrees
  · exact Or.inl (hx.slotsStay s₀ s hstay)
  · exact Or.inr (hagrees.kept (hx.slotsStay s s (SlotsStay.refl s))
      (SendGrows.ofQuiet (hquiet.1 _)))

omit L in
theorem finds_of_stays {x : SessionOp M α} {s₀ : SessionInner M}
    (hx : Op.Keeps (SlotsStay s₀) x) :
    Op.Triple (SlotsStay s₀) x (fun _ => SlotsStay s₀) fun _ => SlotsFound s₀ :=
  (Op.Triple.ofKeeps hx).weaken (fun _ _ h => h) fun _ _ h => Or.inl h

theorem finds_ratchetRespondInner (leg : M.Message) (rnd : Nat -> M.Seed)
    {s₀ : SessionInner M} (hempty : s₀.core.sideBand = none) :
    Op.Triple (SlotsStay s₀) (ratchetRespondInner leg rnd) (fun _ => SlotsFound s₀)
      fun _ => SlotsFound s₀ := by
  unfold ratchetRespondInner
  refine Op.Triple.bind (finds_of_stays ((touches_processA4Leg (W := [.half .recvClassical])
    _ _ _ (by decide)).slotsStay (by decide) s₀)) fun ek => ?_
  refine Op.Triple.looking (still_readHalf _ _) (fun _ _ h => Or.inl h) fun recvPq => ?_
  refine Op.Triple.looking (Op.Still.ofExcept _) (fun _ _ h => Or.inl h) fun psk => ?_
  refine Op.Triple.looking (Op.Still.ofExcept _) (fun _ _ h => Or.inl h)
    fun encapsulated => ?_
  rcases encapsulated with ⟨secret, wireCt⟩
  dsimp only
  refine Op.Triple.fixed fun s hs => ?_
  refine Op.Triple.bind ((triple_encryptLeg L _ (rnd 0)).weaken (fun _ _ h => h) ?_)
    fun message => ?_
  · intro _ s' hstay
    exact Or.inl ⟨hstay.inflight.trans hs.inflight, hstay.sideBand.trans hs.sideBand⟩
  refine Op.Triple.bind (Q := fun _ s' => s'.core.sideBand = none ∧
    s'.core.inflight = some (.responding secret (some wireCt)) ∧
      exists g₀ g, WrappedIn g₀ .ratchetCiphertext wireCt message ∧
        s'.half .sendClassical = some g ∧ Undisturbed g₀ g) ?_ fun _ => ?_
  · apply Op.Triple.update
    rintro s' ⟨hstay, g₀, g, hrun, held, hsame⟩
    refine ⟨?_, rfl, g₀, g, ⟨rnd 0, hrun⟩, held, hsame⟩
    exact (hstay.sideBand.trans hs.sideBand).trans hempty
  refine Op.Triple.knowing (Op.Returns.ofExcept _)
    (Op.Triple.keptBy (Op.Still.ofExcept _) fun _ _ h => Or.inr (SlotAgrees.empty h.1))
      fun body hbody => ?_
  apply Op.Triple.update
  rintro s' ⟨-, hinflight, g₀, g, hwrapped, held, hsame⟩
  have hminted : MintedNow .ratchetCiphertext wireCt
      { kind := .ratchetCiphertext, body := body } s' :=
    ⟨rfl, message, g₀, g, parsed_ofMessage hbody, hwrapped, held, hsame⟩
  refine Or.inr (hminted.agrees rfl rfl ?_)
  change livePayload s'.core.inflight = _
  rw [hinflight]
  rfl

omit L in
theorem touches_ingestRekeyUpdate (proposal : M.Message) :
    Touches [.half .sendPq] (ingestRekeyUpdate proposal) := by
  have hrefuse : forall e, Touches [.half .sendPq]
      (ingestRekeyUpdate.refuse e : SessionOp M (Option Bytes)) := by
    intro e
    unfold ingestRekeyUpdate.refuse
    exact Op.Writes.bind (touches_mapGroup _ _ _ (by decide)) fun _ => Op.Writes.fail _
  unfold ingestRekeyUpdate
  refine Op.Writes.looking Op.Still.state fun s => ?_
  refine Op.Writes.looking (still_readHalf _ _) fun sendPq => ?_
  refine Op.Writes.bind (touches_callHalf _ _ _ _ (by decide)) fun received => ?_
  split
  · exact hrefuse _
  · exact Op.Writes.ite (Op.Writes.value _) (hrefuse _)

theorem quiet_crossPskForRekey :
    QuietOp (crossPskForRekey : SessionOp M (Option ExportedPsk)) := by
  unfold crossPskForRekey
  refine QuietOp.bind (QuietOp.readHalf _ _) fun recvPq => ?_
  refine QuietOp.bind QuietOp.state fun s => ?_
  split
  · exact QuietOp.pure _
  · refine QuietOp.bind (quiet_exportCrossFromRecvPq L) fun exported => ?_
    refine QuietOp.bind (QuietOp.update fun _ => rfl) fun _ => ?_
    exact QuietOp.pure _

omit L in
theorem still_rekeyHandoff :
    Op.Still (rekeyHandoff : SessionOp M (Option (M.Signer × Bytes))) := by
  unfold rekeyHandoff
  refine Op.Still.bind Op.Still.state fun s => ?_
  refine Op.Still.bind (still_readHalf _ _) fun sendPq => ?_
  exact Op.Still.bind (Op.Still.ofExcept _) fun _ => Op.Still.value _

theorem finds_rekeyRespondInner (proposal : M.Message) (seed : M.Seed)
    (s₀ : SessionInner M) :
    Op.Triple (SlotsStay s₀) (rekeyRespondInner proposal seed) (fun _ => SlotsFound s₀)
      fun _ => SlotsFound s₀ := by
  have hcall : forall {β : Type} (err : MlsError -> TwoMlsPqError)
      (f : MlsEnv -> M.Group -> Except MlsError β × M.Group),
      Op.Triple (SlotsStay s₀) (callHalf .sendPq .sessionNotReady err f)
        (fun _ => SlotsStay s₀) fun _ => SlotsFound s₀ := fun err f =>
    finds_of_stays ((touches_callHalf (W := [.half .sendPq]) _ _ _ _
      (by decide)).slotsStay (by decide) s₀)
  unfold rekeyRespondInner
  refine Op.Triple.bind (finds_of_stays ((quiet_crossPskForRekey L).slotsStay s₀))
    fun crossPsk => ?_
  refine Op.Triple.bind (finds_of_stays
    ((touches_ingestRekeyUpdate proposal).slotsStay (by decide) s₀)) fun rotated => ?_
  refine Op.Triple.looking still_rekeyHandoff (fun _ _ h => Or.inl h) fun handoff => ?_
  refine Op.Triple.bind (hcall _ _) fun output => ?_
  refine Op.Triple.bind (hcall _ _) fun _ => ?_
  refine Op.Triple.looking (still_readHalf _ _) (fun _ _ h => Or.inl h) fun sendPq => ?_
  refine Op.Triple.looking (Op.Still.ofExcept _) (fun _ _ h => Or.inl h) fun _ => ?_
  refine Op.Triple.looking (Op.Still.ofExcept _) (fun _ _ h => Or.inl h) fun body => ?_
  refine Op.Triple.bind (Q := fun _ _ => True) (Op.Triple.update fun _ _ => True.intro)
    fun _ => ?_
  refine Op.Triple.bind (Q := fun _ _ => True) (Op.Triple.update fun _ _ => True.intro)
    fun _ => ?_
  refine Op.Triple.bind (Q := fun _ => SlotsFound s₀) ?_ fun _ => ?_
  · apply Op.Triple.update
    intro s _
    exact Or.inr (agrees_of_opened rfl rfl rfl rfl)
  refine Op.Triple.bind (Op.Triple.ofKeeps
    (quiet_recordPqHeaderKeyPostCommit.slotsFound s₀)) fun _ => ?_
  exact Op.Triple.value fun _ hs => hs

omit L in
theorem finds_bootstrapRespondInner (kp : Blob M) (rnd : Nat -> M.Seed)
    (s₀ : SessionInner M) :
    Op.Triple (SlotsStay s₀) (bootstrapRespondInner kp rnd) (fun _ => SlotsFound s₀)
      fun _ => SlotsFound s₀ := by
  have hcreate : Op.Keeps (SlotsStay s₀) (createDeferredPqHalf kp rnd) := by
    unfold createDeferredPqHalf
    refine Op.Keeps.looking Op.Still.state fun s => ?_
    dsimp only
    refine Op.Keeps.looking (Op.Still.ofOption _ _) fun send => ?_
    refine Op.Keeps.looking (Op.Still.ensure _ _) fun _ => ?_
    refine Op.Keeps.looking (Op.Still.ofExcept _) fun classicalInfo => ?_
    refine Op.Keeps.looking (Op.Still.ofExcept _) fun created => ?_
    refine Op.Keeps.bind (Op.Keeps.update fun _ hs => ⟨hs.inflight, hs.sideBand⟩)
      fun _ => ?_
    exact Op.Keeps.value _
  unfold bootstrapRespondInner
  refine Op.Triple.bind (finds_of_stays
    (Touches.slotsStay (W := [.ledger]) (touches_update fun s =>
      confined_trackPskStores s.client (by decide) s) (by decide) s₀)) fun _ => ?_
  refine Op.Triple.looking (Op.Still.ofExcept _) (fun _ _ h => Or.inl h)
    fun founding => ?_
  refine Op.Triple.bind (Q := fun _ => SlotsStay s₀)
    (Op.Triple.update fun _ hs => ⟨hs.inflight, hs.sideBand⟩) fun _ => ?_
  refine Op.Triple.bind (finds_of_stays hcreate) fun welcome => ?_
  refine Op.Triple.bind (Q := fun _ => SlotsFound s₀) ?_ fun _ => ?_
  · apply Op.Triple.update
    intro s _
    exact Or.inr (agrees_of_opened rfl rfl rfl rfl)
  exact Op.Triple.ofKeeps (quiet_recordPqHeaderKeyPostCommit.slotsFound s₀)

/-!
## One call
-/

def SlotsDone (s₀ s : SessionInner M) : Prop :=
  SlotsFound s₀ s ∨ SlotsSettle s₀ s

omit L in
theorem Orderly.slotsDone {s₀ s : SessionInner M} {c : Core M} (h : Orderly s₀.core)
    (hdone : SlotsDone s₀ s) (hquiet : Quiet s.core c) (hgrows : SendGrows s₀.core c)
    (hunharmed : Unharmed c) :
    Orderly c := by
  have hsame : SlotsKept s.core c := by
    rw [hquiet.2]
    exact ⟨rfl, rfl⟩
  have hstay : SlotsStay s₀ s -> SlotAgrees c := fun hstay =>
    h.slots.kept ⟨hsame.inflight.trans hstay.inflight, hsame.sideBand.trans hstay.sideBand⟩
      hgrows
  refine { unharmed := hunharmed, slots := ?_ }
  rcases hdone with (h' | hagrees) | (h' | hempty | htorn)
  · exact hstay h'
  · exact hagrees.kept hsame (SendGrows.ofQuiet (hquiet.1 _))
  · exact hstay h'
  · exact SlotAgrees.empty (hsame.sideBand.trans hempty)
  · exact absurd (hunharmed.before hquiet) htorn

theorem orderly_mutateAndPersist {k : BlobKind} {x : SessionOp M α}
    {t : TwoMlsPqSession M} (h : Durable Orderly t)
    (hx : forall s, s.core = t.inner.core -> SlotsDone s (x.run s).2)
    (hgrows : SendGrows t.inner.core ((mutateAndPersist k x).run t).2.inner.core)
    (hunharmed : Unharmed ((mutateAndPersist k x).run t).2.inner.core) :
    Durable Orderly ((mutateAndPersist k x).run t).2 := by
  rcases mutateAndPersist_runs L k x t with ⟨s, hs, ⟨hgoes, _⟩, _⟩
  have hquiet : Quiet (x.run s).2.core ((mutateAndPersist k x).run t).2.inner.core :=
    Path.quiet hgoes
  have hnow : Orderly ((mutateAndPersist k x).run t).2.inner.core := by
    have hbefore : Orderly s.core := hs ▸ h.now
    refine hbefore.slotsDone (hx s hs) hquiet ?_ hunharmed
    rw [hs]
    exact hgrows
  rcases (pushesLast_mutateAndPersist k x).pushes L Orderly.stable hnow with
    ⟨new, hpushed, hnew⟩
  refine { now := hnow, pushed := ?_ }
  rw [hpushed]
  exact h.pushed.append hnew

omit L in
theorem run_locked_still {guard : SessionOp M α} (hguard : Op.Still guard)
    (t : TwoMlsPqSession M) :
    (locked guard).run t = ((guard.run t.inner).1, t) := by
  have hstill := hguard t.inner
  unfold locked
  rw [Op.run_ofResult, hstill]

theorem orderly_guarded {β : Type} {k : BlobKind} {guard : SessionOp M β}
    {body : β -> SessionOp M α} {t : TwoMlsPqSession M} (hguard : Op.Still guard)
    (h : Durable Orderly t)
    (hbody : forall b s, (guard.run t.inner).1 = .ok b -> s.core = t.inner.core ->
      SlotsDone s ((body b).run s).2)
    (hgrows : SendGrows t.inner.core ((do
      let b <- locked guard
      mutateAndPersist k (body b) : ApiOp M α).run t).2.inner.core)
    (hunharmed : Unharmed ((do
      let b <- locked guard
      mutateAndPersist k (body b) : ApiOp M α).run t).2.inner.core) :
    Durable Orderly ((do
      let b <- locked guard
      mutateAndPersist k (body b) : ApiOp M α).run t).2 := by
  have hlocked := run_locked_still hguard t
  cases hrun : (guard.run t.inner).1 with
  | error e =>
      rw [hrun] at hlocked
      rw [Op.run_bind_error hlocked]
      exact h
  | ok b =>
      rw [hrun] at hlocked
      rw [Op.run_bind_ok hlocked] at hgrows hunharmed ⊢
      exact orderly_mutateAndPersist L h (fun s hs => hbody b s hrun hs) hgrows hunharmed

omit L in
theorem always_of_stays {x : SessionOp M α} {I : SessionInner M -> Prop}
    {s : SessionInner M} (hx : Op.Triple (SlotsStay s) x (fun _ => I) fun _ => I) :
    I (x.run s).2 :=
  hx.always (SlotsStay.refl s)

omit L in
theorem orderly_quietly {t t' : TwoMlsPqSession M} (h : Durable Orderly t)
    (hadvances : Advances quietEvents t t') :
    Durable Orderly t' := by
  apply h.advance hadvances
  intro e c c' he hstep hc
  cases hstep with
  | quiet hq => exact Orderly.stable c c' hq hc
  | _ => exact he.elim

omit L in
theorem still_rekeyRespondGuard (frame : Frame M) :
    Op.Still (rekeyRespondGuard frame) := by
  unfold rekeyRespondGuard
  refine Op.Still.bind Op.Still.state fun s => ?_
  refine Op.Still.bind (Op.Still.ofExcept _) fun proposal => ?_
  refine Op.Still.bind (Op.Still.ensure _ _) fun _ => ?_
  refine Op.Still.bind (Op.Still.ensure _ _) fun _ => ?_
  exact Op.Still.bind (Op.Still.ensure _ _) fun _ => Op.Still.value _

omit L in
theorem still_bootstrapRespondGuard (frame : Frame M) :
    Op.Still (bootstrapRespondGuard frame) := by
  unfold bootstrapRespondGuard
  refine Op.Still.bind Op.Still.state fun s => ?_
  refine Op.Still.bind (Op.Still.ofExcept _) fun kp => ?_
  refine Op.Still.bind (Op.Still.ofExcept _) fun _ => ?_
  refine Op.Still.bind (Op.Still.ofOption _ _) fun expected => ?_
  refine Op.Still.bind (Op.Still.ensure _ _) fun _ => ?_
  exact Op.Still.bind (Op.Still.ensure _ _) fun _ => Op.Still.value _

omit L in
theorem idle_of_ratchetRespondGuard {frame : Frame M} {s : SessionInner M}
    {leg : M.Message} (h : ((ratchetRespondGuard frame).run s).1 = .ok leg) :
    s.core.inflight = none := by
  have hvia : Via quietEvents (fun c => c = s.core) (ratchetRespondGuard frame)
      (fun _ c => c.inflight = none ∧ c = s.core) :=
    via_ratchetRespondGuard
  have hresult := hvia.result rfl h
  rw [← hresult.2]
  exact hresult.1

theorem encrypt_advances (appMessage : Bytes) (rnd : Nat -> M.Seed)
    (t : TwoMlsPqSession M) :
    Advances quietEvents
      ((mutateAndPersist .core (encryptInner appMessage rnd)).run t).2
      ((encrypt appMessage rnd).run t).2 := by
  unfold encrypt
  rw [Op.run_bind]
  rcases hrun : (mutateAndPersist .core (encryptInner appMessage rnd)).run t with ⟨r, t'⟩
  cases r with
  | error e => exact Advances.silent Path.refl rfl
  | ok result =>
      dsimp only
      rw [Op.run_bind_still fun _ => Op.Still.value _]
      split
      · exact (door_persistAfter L (A := quietEvents) (p := fun _ => True)
          True.intro .checkpoint).advances True.intro
      · exact Advances.silent Path.refl rfl

theorem orderly_encrypt {t : TwoMlsPqSession M} {appMessage : Bytes}
    {rnd : Nat -> M.Seed} (h : Durable Orderly t)
    (hgrows : SendGrows t.inner.core ((encrypt appMessage rnd).run t).2.inner.core)
    (hunharmed : Unharmed ((encrypt appMessage rnd).run t).2.inner.core) :
    Durable Orderly ((encrypt appMessage rnd).run t).2 := by
  have hafter := encrypt_advances L appMessage rnd t
  have hquiet := Path.quiet hafter.1
  apply orderly_quietly _ hafter
  apply orderly_mutateAndPersist L h
  · intro s _
    exact Or.inl (always_of_stays (finds_encryptInner L appMessage rnd s))
  · exact hgrows.trans (SendGrows.ofQuiet ((hquiet.symm).1 _))
  · exact hunharmed.before hquiet

theorem orderly_processIncomingWith {t : TwoMlsPqSession M} {frame : Frame M}
    {approval : Option EstablishmentApproval} (h : Durable Orderly t)
    (hgrows : SendGrows t.inner.core
      ((processIncomingWith frame approval).run t).2.inner.core)
    (hunharmed : Unharmed ((processIncomingWith frame approval).run t).2.inner.core) :
    Durable Orderly ((processIncomingWith frame approval).run t).2 := by
  have hdone := always_of_stays (settles_processIncomingInner L frame approval t.inner)
  have hafter : Advances quietEvents
      (t.withInner ((processIncomingInner frame approval).run t.inner).2)
      ((processIncomingWith frame approval).run t).2 := by
    rcases run_processIncomingWith frame approval t with ⟨hfailed, hpaused, hpersisted⟩
    rcases hrun : (processIncomingInner frame approval).run t.inner with ⟨r, u⟩
    cases r with
    | error e =>
        rw [hfailed e u hrun]
        exact Advances.silent Path.refl rfl
    | ok d =>
        cases hp : isPaused d with
        | true =>
            rw [hpaused d u hrun hp]
            exact Advances.silent Path.refl rfl
        | false =>
            rcases hpersisted d u hrun hp with ⟨kind, hcall⟩
            rw [hcall]
            exact (door_persistAfter L (A := quietEvents) (p := fun _ => True)
              True.intro kind).advances True.intro
  have hquiet := Path.quiet hafter.1
  have hnow : Orderly ((processIncomingInner frame approval).run t.inner).2.core := by
    apply Orderly.slotsDone h.now (Or.inr hdone) (Quiet.refl _)
    · exact hgrows.trans (SendGrows.ofQuiet ((hquiet.symm).1 _))
    · exact hunharmed.before hquiet
  have hstart : Durable Orderly
      (t.withInner ((processIncomingInner frame approval).run t.inner).2) :=
    { now := hnow, pushed := h.pushed }
  exact orderly_quietly hstart hafter

theorem orderly_call {t : TwoMlsPqSession M} (call : Call M)
    (happroved : ApprovedProposal t.inner.core.queued) (h : Durable Orderly t)
    (hunharmed : Unharmed (call.run.run t).2.inner.core) :
    Durable Orderly (call.run.run t).2 := by
  have hadvances := call_advances L call t happroved
  have hgrows := SendGrows.path hadvances.1
  have hleaves : (forall e, call.events t.inner.core e -> LeavesSlots e) ->
      Durable Orderly (call.run.run t).2 := fun hevents =>
    h.advance hadvances fun e _ _ he hstep hc => hc.step (hevents e he) hstep
  cases call with
  | prepareToEncrypt proposing rnd =>
      unfold Call.run at hgrows hunharmed ⊢
      rw [handing_run] at hgrows hunharmed ⊢
      exact orderly_mutateAndPersist L h (fun s _ =>
        Or.inl (always_of_stays (finds_prepareToEncryptInner L proposing rnd s)))
          hgrows hunharmed
  | encrypt appMessage rnd =>
      unfold Call.run at hgrows hunharmed ⊢
      rw [handing_run] at hgrows hunharmed ⊢
      exact orderly_encrypt L h hgrows hunharmed
  | processIncoming frame approval =>
      unfold Call.run at hgrows hunharmed ⊢
      rw [handing_run] at hgrows hunharmed ⊢
      exact orderly_processIncomingWith L h hgrows hunharmed
  | pqRatchetRespond frame rnd =>
      unfold Call.run at hgrows hunharmed ⊢
      rw [handing_run] at hgrows hunharmed ⊢
      refine orderly_guarded L (still_ratchetRespondGuard frame) h
        (fun leg s hguard hs => ?_) hgrows hunharmed
      have hempty : s.core.sideBand = none := by
        rw [hs]
        exact h.now.slots.idle (idle_of_ratchetRespondGuard hguard)
      exact Or.inl (always_of_stays (finds_ratchetRespondInner L leg rnd hempty))
  | pqRatchetBind frame seed =>
      unfold Call.run at hgrows hunharmed ⊢
      rw [handing_run] at hgrows hunharmed ⊢
      exact orderly_guarded L (still_ratchetBindGuard frame) h (fun opened s _ _ =>
        Or.inr (always_of_stays (settles_ratchetBindInner L opened.1 opened.2 seed s)))
          hgrows hunharmed
  | pqRekeyRespond frame seed =>
      unfold Call.run at hgrows hunharmed ⊢
      rw [handing_run] at hgrows hunharmed ⊢
      exact orderly_guarded L (still_rekeyRespondGuard frame) h (fun proposal s _ _ =>
        Or.inl (always_of_stays (finds_rekeyRespondInner L proposal seed s)))
          hgrows hunharmed
  | pqRekeyApply frame seed =>
      unfold Call.run at hgrows hunharmed ⊢
      rw [handing_run] at hgrows hunharmed ⊢
      exact orderly_guarded L (still_rekeyApplyGuard frame) h (fun commit s _ _ =>
        Or.inr (always_of_stays (settles_rekeyApplyInner L commit seed s)))
          hgrows hunharmed
  | pqBootstrapRespond frame rnd =>
      unfold Call.run at hgrows hunharmed ⊢
      rw [handing_run] at hgrows hunharmed ⊢
      exact orderly_guarded L (still_bootstrapRespondGuard frame) h (fun kp s _ _ =>
        Or.inl (always_of_stays (finds_bootstrapRespondInner kp rnd s)))
          hgrows hunharmed
  | pqBootstrapBind frame seed =>
      unfold Call.run at hgrows hunharmed ⊢
      rw [handing_run] at hgrows hunharmed ⊢
      exact orderly_guarded L (still_bootstrapBindGuard frame) h (fun welcome s _ _ =>
        Or.inr (always_of_stays (settles_bootstrapBindInner welcome seed s)))
          hgrows hunharmed
  | _ =>
      apply hleaves
      intro e he
      cases e <;> first | exact True.intro | exact he.elim

theorem orderly_live {t : TwoMlsPqSession M} {a : LifeAction M}
    (happroved : Approved t.inner.core) (h : Durable Orderly t)
    (hunharmed : Unharmed (t.live a).inner.core) :
    Durable Orderly (t.live a) := by
  cases a with
  | reopen => exact h.reopened L Orderly.stable fun _ _ hr hc => hc.restored hr
  | host a =>
      cases a with
      | call call => exact orderly_call L call happroved h hunharmed
      | restart =>
          exact h.restarted L (fun _ => Orderly.recovered) fun _ _ hr hc => hc.restored hr

end

end Session
end TwoMlsPq
