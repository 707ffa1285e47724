import TwoMlsPq.Session.LedgerPaths

/-!
# Who may open a round

The turn says which side opens the next post-quantum round.  A side that has opened a
round and not yet bound it holds the turn, and so does a side that owes the classical
commit of a bind; it never does both at once.  The turn is laid down only with the
commit that discharges the bind, and taken up only with a bind of the peer that was
applied.  A side that still seals toward the peer's key package has not laid it down.
-/

namespace TwoMlsPq
namespace Session

open Foundation Apq

def PqInflight.initiates : PqInflight -> Bool
  | .initiating _ => true
  | .bootstrapInitiated => true
  | .rekeyInitiated => true
  | _ => false

/-- What decides who may open a round. -/
structure Grip where
  turn : Bool
  owed : Bool
  inflight : Option PqInflight
  sealing : Bool
  joined : Bool
  live : Bool

namespace Grip

def initiates (g : Grip) : Bool :=
  match g.inflight with
  | some i => i.initiates
  | none => false

/-- The post-quantum half of the peer is there, or its absence is the round. -/
structure Disciplined (g : Grip) : Prop where
  opens : g.initiates = true -> g.turn = true ∧ g.owed = false
  rounds : g.initiates = true ->
    g.inflight = some .bootstrapInitiated ∨ g.live = true
  owes : g.owed = true -> g.turn = true ∧ g.live = true
  seals : g.sealing = true -> g.turn = true ∧ g.joined = false ∧ g.live = false

namespace Disciplined

variable {g : Grip}

theorem unowed (h : g.Disciplined) (hlive : g.live = false) : g.owed = false := by
  cases howed : g.owed with
  | false => rfl
  | true =>
      rw [(h.owes howed).2] at hlive
      cases hlive

theorem unsealed (h : g.Disciplined) (hlive : g.live = true) : g.sealing = false := by
  cases hsealing : g.sealing with
  | false => rfl
  | true =>
      rw [(h.seals hsealing).2.2] at hlive
      cases hlive

theorem answer (h : g.Disciplined) {o : Option PqInflight}
    (hanswer : forall i, o = some i -> i.initiates = false) :
    ({ g with inflight := o } : Grip).Disciplined := by
  have hidle : ({ g with inflight := o } : Grip).initiates = false := by
    cases o with
    | none => rfl
    | some i => exact hanswer i rfl
  refine { opens := ?_, rounds := ?_, owes := h.owes, seals := h.seals }
  · intro hopen
    rw [hidle] at hopen
    cases hopen
  · intro hopen
    rw [hidle] at hopen
    cases hopen

theorem opened (h : g.Disciplined) {i : PqInflight} (hturn : g.turn = true)
    (howed : g.owed = false) (hround : i = .bootstrapInitiated ∨ g.live = true) :
    ({ g with inflight := some i } : Grip).Disciplined where
  opens := fun _ => ⟨hturn, howed⟩
  rounds := fun _ => hround.imp (congrArg some) id
  owes := h.owes
  seals := h.seals

theorem cleared (h : g.Disciplined) : ({ g with owed := false } : Grip).Disciplined where
  opens := fun hopen => ⟨(h.opens hopen).1, rfl⟩
  rounds := h.rounds
  owes := fun howed => nomatch howed
  seals := h.seals

theorem taken (h : g.Disciplined) : ({ g with turn := true } : Grip).Disciplined where
  opens := fun hopen => ⟨rfl, (h.opens hopen).2⟩
  rounds := h.rounds
  owes := fun howed => ⟨rfl, (h.owes howed).2⟩
  seals := fun hsealing => ⟨rfl, (h.seals hsealing).2⟩

theorem joins (h : g.Disciplined) {live : Bool} (hmissing : g.live = false) :
    ({ g with sealing := false, joined := true, live := live } : Grip).Disciplined where
  opens := h.opens
  rounds := fun hopen => by
    rcases h.rounds hopen with hbootstrap | hlive
    · exact Or.inl hbootstrap
    · rw [hmissing] at hlive
      cases hlive
  owes := fun howed => by
    rw [h.unowed hmissing] at howed
    cases howed
  seals := fun hsealing => nomatch hsealing

theorem livens (h : g.Disciplined) (hjoined : g.joined = true) :
    ({ g with live := true } : Grip).Disciplined where
  opens := h.opens
  rounds := fun _ => Or.inr rfl
  owes := fun howed => ⟨(h.owes howed).1, rfl⟩
  seals := fun hsealing => by
    rw [(h.seals hsealing).2.1] at hjoined
    cases hjoined

end Disciplined

end Grip

section

variable {M : MlsRs} {α β : Type}

def Core.grip (c : Core M) : Grip :=
  { turn := c.turn
    owed := c.owed.isSome
    inflight := c.inflight
    sealing := c.sealTarget.isSome
    joined := (c.half .recvClassical).isSome
    live := (c.half .recvPq).isSome }

def SessionInner.grip (_ : Unit) (s : SessionInner M) : Grip :=
  s.core.grip

/-- The session keeps to the rules of the turn. -/
def InTurn (s : SessionInner M) : Prop :=
  (s.grip ()).Disciplined

/-!
## Steps
-/

theorem HalfQuiet.isSome {o o' : Option M.Group} (h : HalfQuiet o o') :
    o'.isSome = o.isSome := by
  cases o with
  | none =>
      cases o' with
      | none => rfl
      | some g' => exact h.elim
  | some g =>
      cases o' with
      | none => exact h.elim
      | some g' => rfl

theorem Quiet.grip {c c' : Core M} (h : Quiet c c') : c'.grip = c.grip := by
  have hclassical := (h.1 .recvClassical).isSome
  have hpq := (h.1 .recvPq).isSome
  unfold Core.grip
  rw [h.2]
  dsimp only
  rw [hclassical, hpq]

theorem isSome_setHalf {c : Core M} {h : Half} {g g' : M.Group}
    (held : c.half h = some g) (h' : Half) :
    ((c.setHalf h g').half h').isSome = (c.half h').isSome := by
  by_cases heq : h' = h
  · subst heq
    rw [Core.half_setHalf, held]
    rfl
  · rw [Core.half_setHalf_of_ne heq]

theorem grip_setHalf {c : Core M} {h : Half} {g g' : M.Group}
    (held : c.half h = some g) : (c.setHalf h g').grip = c.grip := by
  have hclassical : ((c.setHalf h g').half .recvClassical).isSome =
      (c.half .recvClassical).isSome := isSome_setHalf held .recvClassical
  have hpq : ((c.setHalf h g').half .recvPq).isSome = (c.half .recvPq).isSome :=
    isSome_setHalf held .recvPq
  unfold Core.grip
  rw [hclassical, hpq]
  rfl

/-- An event that opens no round of ours, owes nothing and keeps the turn. -/
def Event.Yields : Event M -> Prop
  | .openRound i _ => i.initiates = false
  | .registerBootstrap _ => False
  | .setOwed _ => False
  | .setTurn b => b = true
  | _ => True

theorem disciplined_step {e : Event M} {c c' : Core M} (he : e.Yields)
    (hstep : Step e c c') (hc : c.grip.Disciplined) : c'.grip.Disciplined := by
  cases hstep with
  | quiet hq =>
      rw [hq.grip]
      exact hc
  | peerCommit held idle kind applied =>
      rw [grip_setHalf held]
      exact hc
  | applyRekey held initiated applied =>
      rw [grip_setHalf held]
      exact hc
  | ownCommit held discharged licensed handoff applied =>
      rw [grip_setHalf held]
      exact hc
  | ownCommitPq held discharged handoff applied =>
      rw [grip_setHalf held]
      exact hc
  | propose held introduces proposed =>
      rw [grip_setHalf held]
      exact hc
  | joinRecv missing missingPq parsed joined joinedPq decoded =>
      rename_i pq _
      have hmissing : c.grip.live = false := by
        unfold Core.grip
        rw [missingPq]
        rfl
      exact hc.joins hmissing
  | createSendPq missing created => exact hc
  | joinRecvPq missing live initiated parsed joined =>
      exact hc.livens (Option.isSome_iff_ne_none.mpr live)
  | openRound opened =>
      refine hc.answer fun i hi => ?_
      cases hi
      exact he
  | registerBootstrap registers => exact he.elim
  | respond idle live =>
      refine hc.answer fun i hi => ?_
      cases hi
      rfl
  | closeRound => exact hc.answer fun _ hi => nomatch hi
  | setOwed held heldPq tEpoch pqEpoch => exact he.elim
  | clearOwed => exact hc.cleared
  | setTurn =>
      cases he
      exact hc.taken
  | _ => exact hc

theorem disciplined_path {A : Event M -> Prop} {c c' : Core M}
    (hA : forall e, A e -> e.Yields) (hpath : Path A c c') (hc : c.grip.Disciplined) :
    c'.grip.Disciplined :=
  hpath.invariant (I := fun c => c.grip.Disciplined)
    (fun e _ _ he hstep hI => disciplined_step (hA e he) hstep hI) hc

theorem inTurn_via {A : Event M -> Prop} {p : Core M -> Prop} {x : SessionOp M α}
    {q : α -> Core M -> Prop} (hA : forall e, A e -> e.Yields) (hx : Via A p x q)
    {s : SessionInner M} (hp : p s.core) (hs : InTurn s) : InTurn (x.run s).2 :=
  disciplined_path hA (hx.goes hp) hs

/-!
## Operations that leave the grip alone
-/

theorem isSome_half_setHalf {s : SessionInner M} {h : Half} {g g' : M.Group}
    (held : s.half h = some g) (h' : Half) :
    ((s.setHalf h g').half h').isSome = (s.half h').isSome := by
  by_cases heq : h' = h
  · subst heq
    rw [half_setHalf_held held, held]
    rfl
  · rw [half_setHalf_other heq]

theorem grip_onHalf {s : SessionInner M} {h : Half} {g g' : M.Group}
    {services : Services} (held : s.half h = some g) :
    ({ s.setHalf h g' with services := services } : SessionInner M).grip () =
      s.grip () := by
  have hclassical : ((s.setHalf h g').half .recvClassical).isSome =
      (s.half .recvClassical).isSome := isSome_half_setHalf held .recvClassical
  have hpq : ((s.setHalf h g').half .recvPq).isSome = (s.half .recvPq).isSome :=
    isSome_half_setHalf held .recvPq
  have hround : (s.setHalf h g').round = s.round := by cases h <;> rfl
  have hest : (s.setHalf h g').establishment = s.establishment := by cases h <;> rfl
  change ({ turn := (s.setHalf h g').round.pqTurnMine
            owed := (s.setHalf h g').round.owedBind.isSome
            inflight := (s.setHalf h g').round.pqInflight
            sealing := (s.setHalf h g').establishment.initialTheirKp.isSome
            joined := ((s.setHalf h g').half .recvClassical).isSome
            live := ((s.setHalf h g').half .recvPq).isSome } : Grip) = _
  rw [hround, hest, hclassical, hpq]
  rfl

def Firm (x : SessionOp M α) : Prop :=
  Op.Writes SessionInner.grip [] x

namespace Firm

theorem keeps {x : SessionOp M α} (hx : Firm x) {J : Grip -> Prop} :
    Op.Keeps (fun s : SessionInner M => J (s.grip ())) x := by
  intro s hs
  have hkept : (x.run s).2.grip () = s.grip () := hx s () List.not_mem_nil
  rw [hkept]
  exact hs

theorem quiet {x : SessionOp M α} (hx : QuietOp x) : Firm x :=
  fun s _ _ => (hx s).grip

theorem still {x : SessionOp M α} (hx : Op.Still x) : Firm x :=
  Op.Writes.still hx

theorem onHalf (h : Half) (missing : TwoMlsPqError) (y : StoreId -> HalfOp M α) :
    Firm (onHalf h missing y) := by
  intro s slot _
  unfold Session.onHalf
  rw [Op.run_ofResult]
  split
  next g store held hstore => exact grip_onHalf held
  next => rfl

theorem callHalf (h : Half) (missing : TwoMlsPqError) (err : MlsError -> TwoMlsPqError)
    (f : MlsEnv -> M.Group -> Except MlsError α × M.Group) :
    Firm (callHalf h missing err f) :=
  onHalf h missing _

theorem ofTouches {W : List Slot} {x : SessionOp M α} (hx : Touches W x)
    (hround : .round ∉ W) (hestablishment : .establishment ∉ W)
    (hclassical : .half .recvClassical ∉ W) (hpq : .half .recvPq ∉ W) : Firm x := by
  intro s slot _
  have hround' : (x.run s).2.round = s.round := hx s .round hround
  have hest : (x.run s).2.establishment = s.establishment :=
    hx s .establishment hestablishment
  have hclassical' := hx.half hclassical s
  have hpq' := hx.half hpq s
  unfold SessionInner.grip Core.grip SessionInner.core
  dsimp only
  rw [hround', hest, hclassical', hpq']

theorem mapRound {f : SessionInner M -> RoundState M -> RoundState M}
    (hturn : forall s r, (f s r).pqTurnMine = r.pqTurnMine)
    (howed : forall s r, (f s r).owedBind = r.owedBind)
    (hinflight : forall s r, (f s r).pqInflight = r.pqInflight) :
    Firm (Op.update fun s : SessionInner M => s.mapRound (f s)) := by
  intro s slot _
  unfold SessionInner.grip Core.grip SessionInner.core
  change ({ turn := (f s s.round).pqTurnMine
            owed := (f s s.round).owedBind.isSome
            inflight := (f s s.round).pqInflight
            sealing := _
            joined := _
            live := _ } : Grip) = _
  rw [hturn, howed, hinflight]
  rfl

end Firm

/-!
## Bodies

### Rounds
-/

theorem firm_retain {f : SessionInner M -> SideBand M} :
    Firm (Op.update fun s : SessionInner M => s.mapRound (retainUnsealed (f s))) :=
  Firm.mapRound (fun _ _ => rfl) (fun _ _ => rfl) fun _ _ => rfl

theorem firm_handOut (stable : Bool) :
    Firm (handOut stable : SessionOp M (Option (SideBand M))) := by
  unfold handOut
  refine Op.Writes.looking Op.Still.state fun s => ?_
  split
  · exact Op.Writes.value _
  · dsimp only
    apply Op.Writes.ite
    · exact Op.Writes.value _
    refine Op.Writes.looking (Op.Still.attempt (still_sealSideBand _)) fun sealed => ?_
    apply Op.Writes.ite
    · refine Op.Writes.bind ?_ fun _ => Op.Writes.value _
      apply Op.Writes.ite
      · exact Firm.mapRound (fun _ _ => rfl) (fun _ _ => rfl) fun _ _ => rfl
      · exact Op.Writes.value ()
    · exact Op.Writes.value _

theorem firm_rewrapSideBand (seed : M.Seed) :
    Firm (rewrapSideBand seed : SessionOp M Unit) := by
  unfold rewrapSideBand
  refine Op.Writes.looking Op.Still.state fun s => ?_
  split
  · apply Op.Writes.ite
    · refine Op.Writes.bind (Firm.ofTouches (touches_mintLeg _ _ _) (by decide)
        (by decide) (by decide) (by decide)).attempt fun minted => ?_
      split
      · exact firm_retain
      · exact Op.Writes.value ()
    · exact Op.Writes.value ()
  · exact Op.Writes.value ()

/-- The turn is ours, and there is nothing left to bind. -/
def Grip.Ready (g : Grip) : Prop :=
  g.Disciplined ∧ g.turn = true ∧ g.owed = false ∧ g.live = true

theorem Grip.Ready.opens {g : Grip} (h : g.Ready) (i : PqInflight) :
    ({ g with inflight := some i } : Grip).Disciplined :=
  h.1.opened h.2.1 h.2.2.1 (Or.inr h.2.2.2)

theorem ready_of_idle {s : SessionInner M} (hs : InTurn s) (hidle : sideBandIdle s = true) :
    (s.grip ()).Ready := by
  unfold sideBandIdle SessionInner.pqHalvesLive at hidle
  simp only [Bool.and_eq_true, Option.isNone_iff_eq_none] at hidle
  rcases hidle with ⟨⟨⟨⟨⟨hturn, _, hlive⟩, _⟩, howed⟩, _⟩, _⟩
  refine ⟨hs, hturn, ?_, hlive⟩
  change s.round.owedBind.isSome = false
  rw [howed]
  rfl

theorem inTurn_stage {i : PqInflight} {f : SideBand M} :
    Op.Triple (fun s : SessionInner M => (s.grip ()).Ready)
      (Op.update fun s => s.mapRound fun r =>
        retainUnsealed f { r with pqInflight := some i } : SessionOp M Unit)
      (fun _ => InTurn) fun _ => InTurn :=
  Op.Triple.update fun _ hs => hs.opens i

theorem inTurn_stageRatchet (rnd : Nat -> M.Seed) :
    Op.Triple (fun s : SessionInner M => (s.grip ()).Ready) (stageRatchet rnd)
      (fun _ => InTurn) fun _ => InTurn := by
  unfold stageRatchet
  refine Op.Triple.looking (Op.Still.ofExcept _) (fun _ _ h => h.1) fun eph => ?_
  refine Op.Triple.bind (Q := fun _ s => (s.grip ()).Ready) ?_ fun frame => inTurn_stage
  exact (Op.Triple.ofKeeps (Firm.ofTouches (touches_mintLeg _ _ _) (by decide)
    (by decide) (by decide) (by decide)).keeps).weaken (fun _ _ h => h) fun _ _ h => h.1

theorem inTurn_stageRekey (rotating : Option Bytes) (seed : M.Seed) :
    Op.Triple (fun s : SessionInner M => (s.grip ()).Ready) (stageRekey rotating seed)
      (fun _ => InTurn) fun _ => InTurn := by
  unfold stageRekey
  refine Op.Triple.looking Op.Still.state (fun _ _ h => h.1) fun s => ?_
  refine Op.Triple.looking (Op.Still.ensure _ _) (fun _ _ h => h.1) fun _ => ?_
  dsimp only
  refine Op.Triple.bind (Q := fun _ s => (s.grip ()).Ready) ?_ fun proposal => ?_
  · exact (Op.Triple.ofKeeps (Firm.callHalf _ _ _ _).keeps).weaken (fun _ _ h => h)
      fun _ _ h => h.1
  refine Op.Triple.looking (Op.Still.ofExcept _) (fun _ _ h => h.1) fun body => ?_
  exact inTurn_stage

theorem inTurn_maybeStageNextRound (rnd : Nat -> M.Seed) :
    Op.Keeps InTurn (maybeStageNextRound rnd : SessionOp M Bool) := by
  intro s₀ hs₀
  apply Op.Triple.always (I := InTurn) _ hs₀
  unfold maybeStageNextRound
  apply Op.Triple.reading
  intro s hs
  apply Op.Triple.ite
  · intro hidle
    have hready := ready_of_idle hs hidle
    have hstarts : forall s', s' = s -> (s'.grip ()).Ready := by
      intro s' hs'
      rw [hs']
      exact hready
    apply Op.Triple.ite
    · intro _
      apply Op.Triple.bind ((inTurn_stageRekey _ _).pre hstarts).attempt
      intro staged
      apply Op.Triple.value
      intro s' hs'
      cases staged with
      | ok _ => exact hs'
      | error e => exact hs'
    · intro _
      apply Op.Triple.bind ((inTurn_stageRatchet rnd).pre hstarts).attempt
      intro staged
      apply Op.Triple.value
      intro s' hs'
      cases staged with
      | ok _ => exact hs'
      | error e => exact hs'
  · intro _
    apply Op.Triple.value
    intro s' hs'
    rw [hs']
    exact hs

/-!
### Binding a round
-/

namespace Grip.Disciplined

variable {g : Grip}

theorem binds (h : g.Disciplined) (hopen : g.initiates = true) (hlive : g.live = true) :
    ({ g with inflight := none, owed := true } : Grip).Disciplined where
  opens := fun hnone => nomatch hnone
  rounds := fun hnone => nomatch hnone
  owes := fun _ => ⟨(h.opens hopen).1, hlive⟩
  seals := h.seals

end Grip.Disciplined

theorem owes_commitPqAndOweBind (secret : Bytes) (seed : M.Seed) (g : Grip) :
    Op.Triple (fun s : SessionInner M => s.grip () = g) (commitPqAndOweBind secret seed)
      (fun _ s => s.grip () = { g with owed := true }) fun _ s => s.grip () = g := by
  unfold commitPqAndOweBind
  refine Op.Triple.looking Op.Still.state (fun _ _ h => h) fun s => ?_
  refine Op.Triple.looking (still_readHalf _ _) (fun _ _ h => h) fun send => ?_
  refine Op.Triple.looking (still_readHalf _ _) (fun _ _ h => h) fun sendPq => ?_
  dsimp only
  refine Op.Triple.bind (Op.Triple.ofKeeps ((Firm.onHalf _ _ _).keeps
    (J := fun g' => g' = g))) fun pqCommit => ?_
  refine Op.Triple.update ?_
  rintro s rfl
  rfl

theorem inTurn_pastNoReturn {P : SessionInner M -> Prop} (round : PqWedge)
    {x : SessionOp M Unit}
    (hx : Op.Triple P x (fun _ => InTurn) fun _ => InTurn) :
    Op.Triple P (pastNoReturn round x) (fun _ => InTurn) fun _ => InTurn := by
  unfold pastNoReturn
  refine Op.Triple.bind hx.attempt fun r => ?_
  cases r with
  | ok _ => exact Op.Triple.value fun _ hs => hs
  | error e =>
      refine Op.Triple.bind (Q := fun _ => InTurn) (Op.Triple.update fun _ hs => hs)
        fun _ => ?_
      exact Op.Triple.fail fun _ hs => hs

theorem inTurn_firm {x : SessionOp M α} (hx : Firm x) {J : Grip -> Prop}
    (hJ : forall g, J g -> g.Disciplined) :
    Op.Triple (fun s : SessionInner M => J (s.grip ())) x (fun _ s => J (s.grip ()))
      fun _ => InTurn :=
  (Op.Triple.ofKeeps hx.keeps).weaken (fun _ _ h => h) fun _ _ h => hJ _ h

def Grip.Bindable (g : Grip) : Prop :=
  g.Disciplined ∧ g.initiates = true ∧ g.live = true

theorem inTurn_bindRound (secret : Bytes) (seed : M.Seed) :
    Op.Triple (fun s : SessionInner M =>
        exists g : Grip, g.Bindable ∧ s.grip () = { g with inflight := none })
      (commitPqAndOweBind secret seed) (fun _ => InTurn) fun _ => InTurn := by
  intro s hs
  rcases hs with ⟨g, ⟨hg, hopen, hlive⟩, hgrip⟩
  refine (owes_commitPqAndOweBind secret seed _).weaken ?_ ?_ s hgrip
  · intro _ s' hs'
    unfold InTurn
    rw [hs']
    exact hg.binds hopen hlive
  · intro _ s' hs'
    unfold InTurn
    rw [hs']
    exact hg.answer fun _ hi => nomatch hi

theorem initiates_of_inflight {s : SessionInner M} {i : PqInflight}
    (h : s.round.pqInflight = some i) : (s.grip ()).initiates = i.initiates := by
  unfold Grip.initiates
  change (match s.round.pqInflight with
    | some i => i.initiates
    | none => false) = _
  rw [h]

theorem InTurn.bindable {s : SessionInner M} (hs : InTurn s) {i : PqInflight}
    (h : s.round.pqInflight = some i) (hopen : i.initiates = true)
    (hround : i ≠ .bootstrapInitiated) : (s.grip ()).Bindable := by
  have hinitiates := (initiates_of_inflight h).trans hopen
  refine ⟨hs, hinitiates, ?_⟩
  rcases hs.rounds hinitiates with hbootstrap | hlive
  · have hsame : some i = some .bootstrapInitiated := h.symm.trans hbootstrap
    exact absurd (Option.some.inj hsame) hround
  · exact hlive

theorem bindable_openRoundSecret (wireCt : Bytes) :
    Op.Triple (InTurn (M := M)) (openRoundSecret wireCt)
      (fun _ s => (s.grip ()).Bindable) fun _ => InTurn := by
  unfold openRoundSecret
  refine Op.Triple.looking (still_readHalf _ _) (fun _ _ h => h) fun sendPq => ?_
  refine Op.Triple.looking (Op.Still.ofExcept _) (fun _ _ h => h) fun psk => ?_
  refine Op.Triple.reading fun s hs => ?_
  split
  next eph hinflight =>
    refine (Op.Triple.keptBy (Op.Still.ofExcept _) fun _ s' h => ?_).post ?_
    · rw [h]
      exact hs
    · rintro _ s' rfl
      exact hs.bindable hinflight rfl fun h => nomatch h
  next =>
    refine Op.Triple.fail fun s' h => ?_
    rw [h]
    exact hs

section

variable (L : Lawful M)
include L

theorem inTurn_ratchetBindInner (leg : M.Message) (carrier : LegCarrier)
    (seed : M.Seed) : Op.Keeps InTurn (ratchetBindInner leg carrier seed) := by
  intro s₀ hs₀
  refine Op.Triple.always (I := InTurn) ?_ hs₀
  unfold ratchetBindInner
  refine Op.Triple.bind (inTurn_firm (J := Grip.Disciplined)
    (Firm.quiet (quiet_openCiphertextLeg L leg carrier)) fun _ h => h) fun wireCt => ?_
  refine Op.Triple.bind (bindable_openRoundSecret wireCt) fun secret => ?_
  refine Op.Triple.bind (inTurn_firm (Firm.quiet (quiet_rememberSendPsk L))
    (J := Grip.Bindable) fun _ h => h.1) fun _ => ?_
  refine Op.Triple.bind (inTurn_pastNoReturn _ ?_) fun _ => ?_
  · refine Op.Triple.bind (Q := fun _ s => exists g : Grip, g.Bindable ∧
      s.grip () = { g with inflight := none }) ?_ fun _ => ?_
    · exact Op.Triple.update fun s hs => ⟨s.grip (), hs, rfl⟩
    refine Op.Triple.bind (inTurn_bindRound secret seed) fun _ => ?_
    exact Op.Triple.update fun _ hs => hs
  exact inTurn_firm (J := Grip.Disciplined)
    (Firm.quiet quiet_recordPqHeaderKeyPostCommit) fun _ h => h

omit L in
theorem firm_applyRekeyCommit (commit : M.Message) :
    Firm (applyRekeyCommit commit : SessionOp M Unit) := by
  unfold applyRekeyCommit
  refine Op.Writes.bind (Firm.callHalf _ _ _ _) fun received => ?_
  refine Op.Writes.looking ?_ fun _ => ?_
  · split
    · exact Op.Still.bind (Op.Still.ofExcept _) fun _ => Op.Still.ensure _ _
    · exact Op.Still.fail _
  refine Op.Writes.looking (still_readHalf _ _) fun recvPq => ?_
  exact Op.Writes.still (Op.Still.ofExcept _)

theorem inTurn_rekeyApplyInner (commit : Blob M) (seed : M.Seed) :
    Op.Triple (fun s : SessionInner M => (s.grip ()).Bindable)
      (rekeyApplyInner commit seed) (fun _ => InTurn) fun _ => InTurn := by
  have hbindable : forall {γ : Type} {x : SessionOp M γ}, Firm x ->
      Op.Triple (fun s : SessionInner M => (s.grip ()).Bindable) x
        (fun _ s => (s.grip ()).Bindable) fun _ => InTurn :=
    fun hx => inTurn_firm hx (J := Grip.Bindable) fun _ h => h.1
  unfold rekeyApplyInner
  refine Op.Triple.looking (Op.Still.ofOption _ _) (fun _ _ h => h.1) fun message => ?_
  refine Op.Triple.bind (hbindable (Firm.quiet (quiet_preRegisterSendPq L)))
    fun preRegistered => ?_
  refine Op.Triple.bind (hbindable (firm_applyRekeyCommit message)) fun _ => ?_
  refine Op.Triple.bind (inTurn_pastNoReturn _ ?_) fun _ => ?_
  · have hclosed : forall {γ : Type} {x : SessionOp M γ}, Firm x ->
        Op.Triple (fun s : SessionInner M => exists g : Grip, g.Bindable ∧
            s.grip () = { g with inflight := none }) x
          (fun _ s => exists g : Grip, g.Bindable ∧
            s.grip () = { g with inflight := none }) fun _ => InTurn := by
      intro γ x hx
      refine inTurn_firm hx
        (J := fun g' => exists g : Grip, g.Bindable ∧ g' = { g with inflight := none }) ?_
      rintro _ ⟨g, hg, rfl⟩
      exact hg.1.answer fun _ hi => nomatch hi
    refine Op.Triple.bind (Q := fun _ s => exists g : Grip, g.Bindable ∧
      s.grip () = { g with inflight := none }) ?_ fun _ => ?_
    · exact Op.Triple.update fun s hs => ⟨s.grip (), hs, rfl⟩
    refine Op.Triple.bind (hclosed ?_) fun _ => ?_
    · cases preRegistered with
      | none => exact Op.Writes.still fun _ => rfl
      | some id => exact Op.Writes.update fun _ _ _ => rfl
    refine Op.Triple.bind (hclosed (Firm.quiet (quiet_exportCrossFromRecvPq L)))
      fun exported => ?_
    refine Op.Triple.bind (inTurn_bindRound _ _) fun _ => ?_
    refine Op.Triple.bind (Q := fun _ => InTurn) (Op.Triple.update fun _ hs => hs)
      fun _ => ?_
    exact Op.Triple.update fun _ hs => hs
  exact inTurn_firm (J := Grip.Disciplined)
    (Firm.quiet quiet_recordPqHeaderKeyPostCommit) fun _ h => h

omit L in
theorem grip_installRecvPq {pq : M.Group} {s : SessionInner M}
    (h : s.recvGroup.isSome = true) :
    (installRecvPq pq s).grip () = { s.grip () with live := true } := by
  rcases Option.isSome_iff_exists.mp h with ⟨recv, hrecv⟩
  unfold SessionInner.grip Core.grip SessionInner.core SessionInner.half installRecvPq
  simp [hrecv, SessionInner.mapRound, CombinerGroup.setPq]

omit L in
theorem bindable_installed {s : SessionInner M} {pq : M.Group} (hs : InTurn s)
    (hround : s.round.pqInflight = some .bootstrapInitiated)
    (hjoined : s.recvGroup.isSome = true) : ((installRecvPq pq s).grip ()).Bindable := by
  have hclassical : (s.grip ()).joined = true := by
    change (s.recvGroup.map CombinerGroup.classical).isSome = true
    rw [Option.isSome_map]
    exact hjoined
  have hopen : (s.grip ()).initiates = true := initiates_of_inflight hround
  rw [grip_installRecvPq hjoined]
  exact ⟨hs.livens hclassical, hopen, rfl⟩

omit L in
theorem joined_joinDeferredPqHalf (welcome : Blob M) {s : SessionInner M} {pq : M.Group}
    (h : ((joinDeferredPqHalf welcome).run s).1 = .ok pq) :
    s.recvGroup.isSome = true := by
  have hrun : (joinDeferredPqHalf welcome).run s =
      (.ok pq, ((joinDeferredPqHalf welcome).run s).2) :=
    Prod.ext h rfl
  unfold joinDeferredPqHalf at hrun
  rcases Op.bind_ok hrun with ⟨s₁, s₂, hstate, hrest⟩
  cases hstate
  rcases Op.bind_ok hrest with ⟨recv, s₃, hrecv, _⟩
  rw [(Op.ofOption_ok hrecv).1]
  rfl

theorem inTurn_bootstrapBindInner (welcome : Blob M) (seed : M.Seed) :
    Op.Triple (fun s : SessionInner M =>
        InTurn s ∧ s.round.pqInflight = some .bootstrapInitiated)
      (bootstrapBindInner welcome seed) (fun _ => InTurn) fun _ => InTurn := by
  unfold bootstrapBindInner
  apply Op.Triple.bind (Q := fun _ s =>
    InTurn s ∧ s.round.pqInflight = some .bootstrapInitiated)
  · apply Op.Triple.update
    intro s hs
    have hcore := core_trackPskStores s.client s
    constructor
    · change (trackPskStores s.client s).core.grip.Disciplined
      rw [hcore]
      exact hs.1
    · exact (congrArg Core.inflight hcore).trans hs.2
  intro _
  apply Op.Triple.bind (Q := fun _ s =>
    (InTurn s ∧ s.round.pqInflight = some .bootstrapInitiated) ∧
      s.recvGroup.isSome = true)
  · intro s hs
    have hstill := still_joinDeferredPqHalf welcome s
    cases hrun : ((joinDeferredPqHalf welcome).run s).1 with
    | error e =>
        rw [hstill]
        exact hs.1
    | ok pq =>
        rw [hstill]
        exact ⟨hs, joined_joinDeferredPqHalf welcome hrun⟩
  intro pq
  apply Op.Triple.bind (Q := fun _ => InTurn)
  · apply inTurn_pastNoReturn
    apply Op.Triple.bind (Q := fun _ s => (s.grip ()).Bindable)
    · apply Op.Triple.update
      intro s hs
      exact bindable_installed hs.1.1 hs.1.2 hs.2
    intro _
    apply Op.Triple.bind (inTurn_firm (J := Grip.Bindable)
      (Firm.quiet (quiet_exportCrossFromRecvPq L)) fun _ h => h.1)
    intro exported
    apply Op.Triple.bind (Q := fun _ s => exists g : Grip, g.Bindable ∧
      s.grip () = { g with owed := true })
    · intro s hs
      have howes := owes_commitPqAndOweBind exported.psk seed (s.grip ()) s rfl
      cases hrun : ((commitPqAndOweBind exported.psk seed).run s).1 with
      | error e =>
          rw [hrun] at howes
          change InTurn _
          unfold InTurn
          rw [howes]
          exact hs.1
      | ok _ =>
          rw [hrun] at howes
          exact ⟨s.grip (), hs, howes⟩
    intro _
    apply Op.Triple.update
    intro s hs
    rcases hs with ⟨g, ⟨hg, hopen, hlive⟩, hgrip⟩
    change ({ s.grip () with inflight := none } : Grip).Disciplined
    rw [hgrip]
    exact hg.binds hopen hlive
  intro _
  exact inTurn_firm (J := Grip.Disciplined)
    (Firm.quiet quiet_recordPqHeaderKeyPostCommit) fun _ h => h

end

/-!
### Opening the bootstrap
-/

theorem inTurn_registerBootstrapRound (kp : Blob M) (sealed : Bool) :
    Op.Triple (fun s : SessionInner M =>
        InTurn s ∧ (s.grip ()).turn = true ∧ (s.grip ()).owed = false)
      (registerBootstrapRound kp sealed) (fun _ => InTurn) fun _ => InTurn := by
  unfold registerBootstrapRound
  apply Op.Triple.looking (Op.Still.ofExcept _) fun _ _ h => h.1
  intro founding
  apply Op.Triple.update
  intro s hs
  exact hs.1.opened hs.2.1 hs.2.2 (Or.inl rfl)

theorem inTurn_bootstrapBeginInner :
    Op.Triple (fun s : SessionInner M =>
        InTurn s ∧ (s.grip ()).turn = true ∧ (s.grip ()).owed = false)
      bootstrapBeginInner (fun _ => InTurn) fun _ => InTurn := by
  unfold bootstrapBeginInner
  apply Op.Triple.looking Op.Still.state fun _ _ h => h.1
  intro s
  apply Op.Triple.looking (Op.Still.ofOption _ _) fun _ _ h => h.1
  intro kp
  dsimp only
  apply Op.Triple.looking (still_sealSideBand _) fun _ _ h => h.1
  intro _
  apply Op.Triple.bind (inTurn_registerBootstrapRound kp true)
  intro _
  exact Op.Triple.value fun _ hs => hs

theorem bootstrapBeginGuard_passes {rotating : Option Bytes} {s : SessionInner M}
    {o : Option (SideBand M)} (h : ((bootstrapBeginGuard rotating).run s).1 = .ok o) :
    s.round.pqTurnMine = true ∧ s.half .recvPq = none := by
  have hrun : (bootstrapBeginGuard rotating).run s =
      (.ok o, ((bootstrapBeginGuard rotating).run s).2) :=
    Prod.ext h rfl
  unfold bootstrapBeginGuard at hrun
  rcases Op.bind_ok hrun with ⟨s₁, s₂, hstate, hrest⟩
  cases hstate
  rcases Op.bind_ok hrest with ⟨_, s₃, hturn, hrest⟩
  rcases Op.bind_ok hrest with ⟨_, s₄, _, hrest⟩
  rcases Op.bind_ok hrest with ⟨_, s₅, hgroups, _⟩
  constructor
  · exact (Op.ensure_ok hturn).1
  · exact Option.isNone_iff_eq_none.mp (Op.ensure_ok hgroups).1.2.2

theorem inTurn_bootstrapEnvelopeInner (seed : M.Seed) :
    Op.Keeps InTurn (bootstrapEnvelopeInner seed : SessionOp M (SideBand M)) := by
  intro s₀ hs₀
  apply Op.Triple.always (I := InTurn) _ hs₀
  unfold bootstrapEnvelopeInner
  apply Op.Triple.reading
  intro s hs
  have hkept : forall s', s' = s -> InTurn s' := by
    intro s' hs'
    rw [hs']
    exact hs
  cases htarget : s.establishment.initialTheirKp with
  | none => exact Op.Triple.failing fun s' hs' => hkept s' hs'
  | some theirKp =>
      have hsealing : (s.grip ()).sealing = true := by
        change s.establishment.initialTheirKp.isSome = true
        rw [htarget]
        rfl
      rcases hs.seals hsealing with ⟨hturn, _, hmissing⟩
      apply Op.Triple.present
      apply Op.Triple.looking _ fun _ s' hs' => hkept s' hs'
      · intro frame
        apply Op.Triple.looking (Op.Still.ofExcept _) fun _ s' hs' => hkept s' hs'
        intro _
        apply Op.Triple.bind (Q := fun _ => InTurn)
        · apply Op.Triple.ite
          · intro _
            apply (inTurn_registerBootstrapRound frame.body false).pre
            intro s' hs'
            rw [hs']
            exact ⟨hs, hturn, hs.unowed hmissing⟩
          · intro _
            exact Op.Triple.value hkept
        intro _
        exact Op.Triple.value fun _ h => h
      · split
        · exact Op.Still.value _
        · exact Op.Still.bind (Op.Still.ofOption _ _) fun _ => Op.Still.value _

/-!
### Sending
-/

theorem firm_mapMsg (f : SessionInner M -> MessageState M -> MessageState M) :
    Firm (Op.update fun s : SessionInner M => s.mapMsg (f s)) :=
  Op.Writes.update fun _ _ _ => rfl

def Grip.Discharged (g : Grip) : Prop :=
  g.Disciplined ∧ g.owed = false ∧ g.initiates = false ∧ g.sealing = false

theorem Grip.Disciplined.discharged {g : Grip} (h : g.Disciplined)
    (howed : g.owed = true) : ({ g with owed := false } : Grip).Discharged := by
  refine ⟨h.cleared, rfl, ?_, h.unsealed (h.owes howed).2⟩
  change g.initiates = false
  cases hopen : g.initiates with
  | false => rfl
  | true =>
      rw [(h.opens hopen).2] at howed
      cases howed

theorem Grip.Discharged.lays {g : Grip} (h : g.Discharged) :
    ({ g with turn := false } : Grip).Disciplined where
  opens := fun hopen => by
    have hidle : g.initiates = true := hopen
    rw [h.2.2.1] at hidle
    cases hidle
  rounds := h.1.rounds
  owes := fun howed => by
    have hnone : g.owed = true := howed
    rw [h.2.1] at hnone
    cases hnone
  seals := fun hsealing => by
    have hnone : g.sealing = true := hsealing
    rw [h.2.2.2] at hnone
    cases hnone

theorem inTurn_dischargeOwedBind :
    Op.Keeps InTurn (dischargeOwedBind : SessionOp M (Option (DischargedBind M))) := by
  intro s₀ hs₀
  apply Op.Triple.always (I := InTurn) _ hs₀
  unfold dischargeOwedBind
  apply Op.Triple.reading
  intro s hs
  cases howed : s.round.owedBind with
  | none =>
      apply Op.Triple.value
      intro s' hs'
      rw [hs']
      exact hs
  | some owed =>
      have hgone : forall (s : SessionInner M), (s.grip ()).Discharged -> InTurn s :=
        fun _ h => h.1
      dsimp only
      apply Op.Triple.bind (Q := fun _ s => (s.grip ()).Discharged)
      · apply Op.Triple.update
        intro s' hs'
        rw [hs']
        apply hs.discharged
        change s.round.owedBind.isSome = true
        rw [howed]
        rfl
      intro _
      apply Op.Triple.looking (still_readHalf _ _) fun _ => hgone
      intro send
      apply Op.Triple.looking (still_readHalf _ _) fun _ => hgone
      intro sendPq
      apply Op.Triple.looking (Op.Still.ensure _ _) fun _ => hgone
      intro _
      apply Op.Triple.looking (Op.Still.ensure _ _) fun _ => hgone
      intro _
      apply Op.Triple.bind (inTurn_firm (J := Grip.Discharged) (Firm.onHalf _ _ _)
        fun _ h => h.1)
      intro apqPsk
      apply Op.Triple.bind (Q := fun _ => InTurn)
      · exact Op.Triple.update fun _ hs => hs.lays
      intro _
      exact Op.Triple.value fun _ h => h

theorem firm_stageSelfUpdate (selected : Option Bytes) (rnd : Nat -> M.Seed) :
    Firm (stageSelfUpdate selected rnd) := by
  unfold stageSelfUpdate
  apply Op.Writes.bind (Firm.ofTouches (touches_selectCandidate _ _) (by decide)
    (by decide) (by decide) (by decide))
  intro selected
  apply Op.Writes.looking (still_proposingClient _)
  intro candidate
  apply Op.Writes.bind
  · unfold proposeSelfUpdate
    apply Op.Writes.looking (still_readHalf _ _)
    intro recv
    apply Op.Writes.looking (Op.Still.ofExcept _)
    intro leafId
    apply Op.Writes.looking Op.Still.state
    intro s
    apply Op.Writes.bind (Firm.callHalf _ _ _ _)
    intro proposal
    exact Firm.still (Op.Still.ofExcept _)
  · intro proposal
    apply Op.Writes.bind (firm_mapMsg _)
    intro _
    exact Op.Writes.value _

section

variable (L : Lawful M)
include L

theorem inTurn_commitRound (folded : Option (PeerProposal M)) (seed : M.Seed) :
    Op.Keeps InTurn (commitRound folded seed) := by
  unfold commitRound
  refine Op.Keeps.bind (Firm.quiet (quiet_rememberSendPsk L)).keeps fun _ => ?_
  refine Op.Keeps.bind (Firm.quiet (quiet_crossPskForCommit L)).keeps
    fun crossPsk => ?_
  refine Op.Keeps.looking still_handoffForCommit fun handoff => ?_
  refine Op.Keeps.bind (Firm.ofTouches (touches_refold folded) (by decide) (by decide)
    (by decide) (by decide)).keeps fun _ => ?_
  refine Op.Keeps.looking Op.Still.state fun s => ?_
  apply Op.Keeps.mapError
  unfold dischargeAndCommit
  refine Op.Keeps.bind inTurn_dischargeOwedBind fun owed => ?_
  exact (Firm.ofTouches (touches_commitDischarged folded crossPsk handoff seed owed)
    (by decide) (by decide) (by decide) (by decide)).keeps

theorem inTurn_prepareToEncryptInner (proposing : Option Bytes) (rnd : Nat -> M.Seed) :
    Op.Keeps InTurn (prepareToEncryptInner proposing rnd) := by
  unfold prepareToEncryptInner
  refine Op.Keeps.looking still_ensureEstablishmentDelegated fun _ => ?_
  refine Op.Keeps.looking Op.Still.state fun s => ?_
  refine Op.Keeps.bind ?_ fun result => ?_
  · apply Op.Keeps.ite
    · exact (Firm.ofTouches (touches_preparePreEstablishment _) (by decide) (by decide)
        (by decide) (by decide)).keeps
    · unfold prepareRatchetCommit
      refine Op.Keeps.looking Op.Still.state fun s => ?_
      dsimp only
      refine Op.Keeps.bind (firm_mapMsg _).keeps fun _ => ?_
      refine Op.Keeps.looking still_peerAppliedOurSendEpoch fun licensed => ?_
      refine Op.Keeps.bind ?_ fun _ => ?_
      · exact Op.Keeps.ite (inTurn_commitRound L _ _) (Op.Keeps.value ())
      refine Op.Keeps.bind (firm_stageSelfUpdate _ _).keeps fun proposal => ?_
      exact Op.Keeps.looking Op.Still.state fun s => Op.Keeps.value _
  refine Op.Keeps.bind (Firm.quiet (quiet_recordListenRendezvous L)).keeps fun _ => ?_
  exact Op.Keeps.bind (firm_rewrapSideBand _).keeps fun _ => Op.Keeps.value _

omit L in
theorem inTurn_encryptInner (appMessage : Bytes) (rnd : Nat -> M.Seed) :
    Op.Keeps InTurn (encryptInner appMessage rnd) := by
  unfold encryptInner
  refine Op.Keeps.looking still_ensureEstablishmentDelegated fun _ => ?_
  refine Op.Keeps.looking Op.Still.state fun s => ?_
  refine Op.Keeps.looking (Op.Still.ofOption _ _) fun proposalHash => ?_
  dsimp only
  refine Op.Keeps.bind (firm_mapMsg _).keeps fun _ => ?_
  refine Op.Keeps.looking (Op.Still.ensure _ _) fun _ => ?_
  refine Op.Keeps.bind (Firm.callHalf _ _ _ _).keeps fun message => ?_
  refine Op.Keeps.looking (Op.Still.ofExcept _) fun app => ?_
  refine Op.Keeps.looking Op.Still.state fun s => ?_
  refine Op.Keeps.looking (Op.Still.ofOption _ _) fun send => ?_
  refine Op.Keeps.looking (still_composeFrame _ _ _) fun cipherText => ?_
  refine Op.Keeps.bind (firm_rewrapSideBand _).keeps fun _ => ?_
  exact Op.Keeps.bind (inTurn_maybeStageNextRound _) fun _ => Op.Keeps.value _

/-!
## A whole life
-/

omit L in
theorem HandedIn.core {s s' : SessionInner M} (h : HandedIn s s') : s'.core = s.core := by
  rcases h with rfl | rfl
  · rfl
  · rfl

omit L in
theorem yields_of {A : Event M -> Prop}
    (hopens : forall i f, A (.openRound i f) -> i.initiates = false)
    (hregisters : forall kp, ¬ A (.registerBootstrap kp))
    (howes : forall o, ¬ A (.setOwed o))
    (hturns : forall b, A (.setTurn b) -> b = true) (e : Event M) (he : A e) :
    e.Yields := by
  cases e with
  | openRound i f => exact hopens i f he
  | registerBootstrap kp => exact hregisters kp he
  | setOwed o => exact howes o he
  | setTurn b => exact hturns b he
  | _ => exact True.intro

omit L in
theorem yields_receive (f : Frame M) : forall e, receiveEvents f e -> e.Yields :=
  yields_of (fun _ _ h => h.elim) (fun _ h => h) (fun _ h => h) fun _ h => h

omit L in
theorem yields_queue (offered : Option (PeerProposal M)) :
    forall e, queueEvents offered e -> e.Yields :=
  yields_of (fun _ _ h => h.elim) (fun _ h => h) (fun _ h => h) fun _ h => h.elim

omit L in
theorem yields_envelope : forall e : Event M, envelopeEvents e -> e.Yields :=
  yields_of (fun _ _ h => h.elim) (fun _ h => h) (fun _ h => h) fun _ h => h.elim

omit L in
theorem yields_ratchetRespond :
    forall e : Event M, ratchetRespondEvents e -> e.Yields :=
  yields_of (fun _ _ h => h.elim) (fun _ h => h) (fun _ h => h) fun _ h => h.elim

omit L in
theorem yields_rekeyRespond : forall e : Event M, rekeyRespondEvents e -> e.Yields :=
  yields_of (fun _ _ h => (congrArg PqInflight.initiates h).trans rfl) (fun _ h => h)
    (fun _ h => h) fun _ h => h.elim

omit L in
theorem yields_bootstrapRespond :
    forall e : Event M, bootstrapRespondEvents e -> e.Yields :=
  yields_of (fun _ _ h => (congrArg PqInflight.initiates h).trans rfl) (fun _ h => h)
    (fun _ h => h) fun _ h => h.elim

omit L in
theorem inTurn_initialFieldBody
    {apply : EstablishmentState M -> EstablishmentState M} (seed : M.Seed)
    (htarget : forall e, (apply e).initialTheirKp = e.initialTheirKp) :
    Op.Keeps InTurn (initialFieldBody apply seed) := by
  unfold initialFieldBody
  refine Op.Keeps.looking Op.Still.state fun s => ?_
  refine Op.Keeps.looking (Op.Still.ensure _ _) fun _ => ?_
  refine Op.Keeps.bind (Op.Keeps.update fun s hs => ?_) fun _ => ?_
  · have hsame : (s.mapEstablishment apply).grip () = s.grip () := by
      change ({ s.grip () with
        sealing := (apply s.establishment).initialTheirKp.isSome } : Grip) = _
      rw [htarget]
      rfl
    change ((s.mapEstablishment apply).grip ()).Disciplined
    rw [hsame]
    exact hs
  refine Op.Keeps.looking (still_composeInitialEnvelope _ _) fun envelope => ?_
  exact (firm_mapMsg _).keeps

theorem bodies_inTurn : Bodies (InTurn (M := M)) where
  encodes := fun kind => (Firm.quiet (quiet_encodeBlob L kind)).keeps
  taken := fun _ hs => hs
  takenSideBand := fun _ hs => hs
  handsOut := fun stable => (firm_handOut stable).keeps
  listens := (Firm.quiet (quiet_recordListenRendezvous L)).keeps
  listensPq := (Firm.quiet quiet_recordPqHeaderKey).keeps
  receives := fun frame approval _ hs =>
    inTurn_via (p := fun _ => True) (yields_receive frame)
      (via_processIncomingInner L) True.intro hs
  installs := fun envelope _ hs =>
    inTurn_via (p := fun _ => True) yields_envelope via_installEnvelopeInner
      True.intro hs
  attaches := fun payload seed => inTurn_initialFieldBody seed fun _ => rfl
  attachesKp := fun kp seed => inTurn_initialFieldBody seed fun _ => rfl
  prepares := fun proposing rnd => inTurn_prepareToEncryptInner L proposing rnd
  encrypts := fun appMessage rnd => inTurn_encryptInner appMessage rnd
  queues := fun digest _ hs =>
    inTurn_via (yields_queue _) (via_queueProposalInner L) rfl hs
  exportsSend := (Firm.quiet (quiet_sendAttachmentComponent L)).keeps
  exportsRecv := fun epoch => (Firm.quiet (quiet_recvAttachmentComponent L epoch)).keeps
  respondsRatchet := by
    intro frame rnd leg s s' hguard _ hin hs
    have hidle := (via_ratchetRespondGuard (A := fun _ => True)
      (p := fun _ => True)).result True.intro hguard
    rw [still_ratchetRespondGuard frame s] at hidle
    refine inTurn_via yields_ratchetRespond (via_ratchetRespondInner L) ?_ hs
    rw [hin.core]
    exact hidle.1
  bindsRatchet := fun frame seed => Warded.ofKeeps fun opened =>
    inTurn_ratchetBindInner L opened.1 opened.2 seed
  respondsRekey := by
    intro frame seed proposal s s' hguard _ hin hs
    have hopen := (via_rekeyRespondGuard (A := fun _ => True)
      (p := fun _ => True)).result True.intro hguard
    rw [still_rekeyRespondGuard frame s] at hopen
    refine inTurn_via yields_rekeyRespond
      (via_rekeyRespondInner L hopen.1) ?_ hs
    rw [hin.core]
    exact hopen.2.1
  appliesRekey := by
    intro frame seed commit s s' hguard _ hin hs
    have hopen := (via_rekeyApplyGuard (A := fun _ => True)
      (p := fun _ => True)).result True.intro hguard
    rw [still_rekeyApplyGuard frame s] at hopen
    have hround : s'.core.inflight = some .rekeyInitiated := by
      rw [hin.core]
      exact hopen.1.1
    exact (inTurn_rekeyApplyInner L commit seed).always
      (hs.bindable hround rfl fun h => nomatch h)
  begins := by
    intro rotating retained s s' hguard _ hin hs
    rcases bootstrapBeginGuard_passes hguard with ⟨hturn, hmissing⟩
    have hturn' : s'.core.turn = true := by
      rw [hin.core]
      exact hturn
    have hmissing' : (s'.grip ()).live = false := by
      change (s'.core.half .recvPq).isSome = false
      rw [hin.core]
      change (s.half .recvPq).isSome = false
      rw [hmissing]
      rfl
    exact inTurn_bootstrapBeginInner.always ⟨hs, hturn', hs.unowed hmissing'⟩
  envelopes := fun seed => Warded.ofKeeps fun _ => inTurn_bootstrapEnvelopeInner seed
  respondsBootstrap := by
    intro frame rnd kp s s' hguard _ hin hs
    have hopen := (via_bootstrapRespondGuard (A := fun _ => True)
      (p := fun _ => True)).result True.intro hguard
    rw [still_bootstrapRespondGuard frame s] at hopen
    refine inTurn_via yields_bootstrapRespond
      (via_bootstrapRespondInner L) ?_ hs
    rw [hin.core]
    exact hopen
  bindsBootstrap := by
    intro frame seed welcome s s' hguard _ hin hs
    have hopen := (via_bootstrapBindGuard (A := fun _ => True)
      (p := fun _ => True)).result True.intro hguard
    rw [still_bootstrapBindGuard frame s] at hopen
    have hround : s'.core.inflight = some .bootstrapInitiated := by
      rw [hin.core]
      exact hopen.2.1
    exact (inTurn_bootstrapBindInner L welcome seed).always ⟨hs, hround⟩

omit L in
/-- A session opened from a blob has the grip of the session pictured there. -/
theorem Reborn.grip {s₀ s : SessionInner M} (h : Reborn s₀ s) : s.grip () = s₀.grip () := by
  have hhalf : forall h', (s.half h').isSome = (s₀.half h').isSome := by
    intro h'
    have hepoch := congrArg Option.isSome (h.epoch h')
    unfold SessionInner.epoch at hepoch
    rw [Option.isSome_map, Option.isSome_map] at hepoch
    exact hepoch
  unfold SessionInner.grip Core.grip SessionInner.core
  dsimp only
  rw [h.round, h.establishment, hhalf, hhalf]

theorem lasting_inTurn : Lasting (InTurn (M := M)) (Photo InTurn) := by
  refine (bodies_inTurn L).lasting L (fun _ hs => hs) fun s₀ s hs hreborn => ?_
  unfold InTurn
  rw [hreborn.grip]
  exact hs

theorem initiate_turn {client : TwoMlsPqPrincipal M} {services : Services}
    {theirKp : CombinerKeyPackage M} {appBinding : Option Bytes}
    {rnd : Nat -> M.Seed} {s : SessionInner M}
    (h : initiate client services theirKp appBinding rnd = .ok s) :
    s.core.turn = true := by
  rcases initiate_quiet L h with ⟨_, _, _, _, _, _, _, _, _, _, hquiet⟩
  rw [hquiet.2]
  rfl

theorem acceptWith_turn {client : TwoMlsPqPrincipal M}
    {sessionClient : Option (TwoMlsPqPrincipal M × Services)} {services : Services}
    {welcome : WelcomeBytes M} {theirKp : Blob M} {commitment : Bytes}
    {spawnToken expected : Option Bytes} {rnd : Nat -> M.Seed} {s : SessionInner M}
    (h : acceptWith client sessionClient services welcome theirKp commitment
      spawnToken expected rnd = .ok s) :
    s.core.turn = false := by
  rcases acceptWith_quiet L h with ⟨_, _, _, _, _, _, _, _, _, _, _, hquiet⟩
  rw [hquiet.2]
  rfl

theorem Born.sealing {s : SessionInner M} (h : Born s) (hsealing : s.core.sealTarget ≠ none) :
    s.core.turn = true ∧ s.core.half .recvClassical = none ∧
      s.core.half .recvPq = none := by
  cases h with
  | initiated h =>
      have hborn := initiate_born L h
      exact ⟨initiate_turn L h, hborn.recv, hborn.recvPq⟩
  | accepted h => exact absurd (acceptWith_born L h).unsealing hsealing

theorem Born.inTurn {s : SessionInner M} (h : Born s) : InTurn s := by
  have hunused := h.unused L
  have hidle : (s.grip ()).initiates = false := by
    unfold Grip.initiates
    change (match s.core.inflight with
      | some i => i.initiates
      | none => false) = _
    rw [hunused.inflight]
  have hunowed : (s.grip ()).owed = false := by
    change s.core.owed.isSome = false
    rw [hunused.owed]
    rfl
  refine { opens := ?_, rounds := ?_, owes := ?_, seals := ?_ }
  · intro hopen
    rw [hidle] at hopen
    cases hopen
  · intro hopen
    rw [hidle] at hopen
    cases hopen
  · intro howed
    rw [hunowed] at howed
    cases howed
  · intro hsealing
    rcases h.sealing L (Option.isSome_iff_ne_none.mp hsealing) with
      ⟨hturn, hclassical, hpq⟩
    refine ⟨hturn, ?_, ?_⟩
    · change (s.core.half .recvClassical).isSome = false
      rw [hclassical]
      rfl
    · change (s.core.half .recvPq).isSome = false
      rw [hpq]
      rfl

/-- At every moment of every life, restarts and reopenings included and whatever frames
arrive, a round that was opened here and is not bound yet, and a bind that is owed, are
the holder's of the turn, and there is never one beside the other. -/
theorem rounds_keep_the_turn {s : SessionInner M} (born : Born s) {t : TwoMlsPqSession M}
    (life : Run TwoMlsPqSession.live (fun _ _ => True) (TwoMlsPqSession.fresh s) t) :
    (forall i, t.inner.round.pqInflight = some i -> i.initiates = true ->
      t.inner.round.pqTurnMine = true ∧ t.inner.round.owedBind = none ∧
        (i ≠ .bootstrapInitiated -> t.inner.half .recvPq ≠ none)) ∧
    (t.inner.round.owedBind ≠ none ->
      t.inner.round.pqTurnMine = true ∧ t.inner.half .recvPq ≠ none) ∧
    (t.inner.establishment.initialTheirKp ≠ none ->
      t.inner.round.pqTurnMine = true ∧ t.inner.recvGroup = none ∧
        t.inner.round.owedBind = none) := by
  have hturn : InTurn t.inner := (lasting_inTurn L).life (born.inTurn L) life
  have hunowed : (t.inner.grip ()).owed = false -> t.inner.round.owedBind = none :=
    fun h => Option.isNone_iff_eq_none.mp (Option.isSome_eq_false_iff.mp h)
  have hlives : (t.inner.grip ()).live = true -> t.inner.half .recvPq ≠ none :=
    fun h => Option.isSome_iff_ne_none.mp h
  refine ⟨?_, ?_, ?_⟩
  · intro i hinflight hopen
    have hinitiates := (initiates_of_inflight hinflight).trans hopen
    rcases hturn.opens hinitiates with ⟨hmine, howed⟩
    refine ⟨hmine, hunowed howed, ?_⟩
    intro hround
    exact hlives (hturn.bindable hinflight hopen hround).2.2
  · intro howed
    rcases hturn.owes (Option.isSome_iff_ne_none.mpr howed) with ⟨hmine, hlive⟩
    exact ⟨hmine, hlives hlive⟩
  · intro hsealing
    rcases hturn.seals (Option.isSome_iff_ne_none.mpr hsealing) with
      ⟨hmine, hjoined, hlive⟩
    refine ⟨hmine, ?_, hunowed (hturn.unowed hlive)⟩
    change (t.inner.recvGroup.map CombinerGroup.classical).isSome = false at hjoined
    rw [Option.isSome_map] at hjoined
    exact Option.isNone_iff_eq_none.mp (Option.isSome_eq_false_iff.mp hjoined)

end

end

namespace ReferencePair

def owingSession : TwoMlsPqSession Reference.mls :=
  (world.play bootstrapBind).session .left

set_option maxRecDepth 4000 in
theorem owing_run :
    Run TwoMlsPqSession.live (fun _ _ => True) (TwoMlsPqSession.fresh initiator)
      owingSession :=
  World.run_live .left (World.run_played world _)

end ReferencePair

theorem owing_rounds_keep_the_turn :
    ReferencePair.owingSession.inner.round.owedBind.isSome = true ∧
      ReferencePair.owingSession.inner.round.pqTurnMine = true ∧
      ReferencePair.owingSession.inner.half .recvPq ≠ none := by
  have howed : ReferencePair.owingSession.inner.round.owedBind.isSome = true := by
    decide +kernel
  exact ⟨howed, (rounds_keep_the_turn Reference.lawful ReferencePair.initiator_born
    ReferencePair.owing_run).2.1 (Option.isSome_iff_ne_none.mp howed)⟩

end Session
end TwoMlsPq
