import TwoMlsPq.Session.Delegation
import TwoMlsPq.Session.HeaderSeal
import TwoMlsPq.Session.SealCache

/-!
# Stable hand-outs

A host that cuts the parked frame into chunks asks for the same bytes again, and a seal
is never made twice alike.  So a stable hand-out keeps the bytes it made, with the epoch
they are sealed at, and hands them out again while that epoch lasts.
-/

namespace TwoMlsPq
namespace Session

open Foundation Apq

section

variable {M : MlsRs} {α : Type}

/-- A session with what its sealing reads and keeps: the padding it is set to, and the
bytes of the seal whose epoch is stamped on the parked frame. -/
structure Chunking (M : MlsRs) where
  session : TwoMlsPqSession M
  padTarget : Option Nat
  lastMessageFrameLen : Nat
  sealBytes : Bytes

abbrev ChunkOp (M : MlsRs) : Type -> Type :=
  Op (Chunking M) TwoMlsPqError

inductive SideBandSealing where
  | fresh
  | stable
deriving DecidableEq, Repr

def restamp (sealedAt : Option Nat) (s : SessionInner M) : SessionInner M :=
  s.mapRound fun r =>
    { r with
      pendingSideBand := r.pendingSideBand.map fun f => { f with sealedAt := sealedAt } }

namespace Chunking

def inner (c : Chunking M) : SessionInner M :=
  c.session.inner

def frame (c : Chunking M) : Option (SideBand M) :=
  c.inner.core.sideBand

def sealEpoch (c : Chunking M) : Option Nat :=
  c.frame.bind (sideBandSealEpoch c.inner)

def sealNow (c : Chunking M) (frame : SideBand M) (seed : M.Seed) : Result Bytes :=
  sealSideBandBlob c.inner c.padTarget c.lastMessageFrameLen frame seed

def keepSeal (c : Chunking M) (retained : RetainedFrame M) (epoch : Option Nat)
    (blob : Bytes) : Chunking M :=
  { c with
    session :=
      { c.session with
        inner := c.inner.mapRound fun r =>
          { r with pendingSideBand := some { retained with sealedAt := epoch } } }
    sealBytes := blob }

end Chunking

def onSession (x : ApiOp M α) : ChunkOp M α :=
  Op.ofResult fun c =>
    ((x.run c.session).1, { c with session := (x.run c.session).2 })

/-!
## Handing out
-/

def handOutBytes (sealing : SideBandSealing) (seed : M.Seed) :
    ChunkOp M (Option Bytes) := do
  let c <- Op.state
  match c.inner.round.pendingSideBand with
  | none => pure none
  | some retained =>
      let epochNow := sideBandSealEpoch c.inner retained.frame
      if sealing = .stable ∧ retained.sealedAt.isSome ∧ retained.sealedAt = epochNow then
        pure (some c.sealBytes)
      else
        match c.sealNow retained.frame seed with
        | .error _ => pure none
        | .ok blob => do
            (if sealing = .stable ∧ epochNow.isSome then
              Op.update fun c => c.keepSeal retained epochNow blob
            else pure ())
            pure (some blob)

def pqPendingOutboundBytes (sealing : SideBandSealing) (seed : M.Seed) :
    ChunkOp M (Option Bytes) := do
  let delegated <- Op.attempt (onSession (locked ensureEstablishmentDelegated))
  if delegated.isOk then handOutBytes sealing seed else pure none

/-!
## Beginning the bootstrap
-/

def mutateAndPersistSeal (kind : BlobKind) (x : ChunkOp M α) : ChunkOp M α := do
  let bumped <- onSession bumpSeq
  if bumped then do
    let result <- Op.attempt x
    let encoded <- Op.attempt (onSession (encodeAndPush kind))
    match result, encoded with
    | .error e, _ => Op.fail e
    | .ok a, .ok _ => pure a
    | .ok _, .error e => Op.fail e
  else
    x

def bootstrapBeginBytes (seed : M.Seed) : ChunkOp M Bytes := do
  let c <- Op.state
  let kp <- Op.ofOption c.inner.round.bootstrapKp .sessionNotReady
  let blob <- Op.ofExcept (c.sealNow { kind := .bootstrapKeyPackage, body := kp } seed)
  onSession (locked (registerBootstrapRound kp true))
  Op.update fun c => { c with sealBytes := blob }
  pure blob

/-- A call that finds its round registered seals the retained frame once more, and keeps
nothing. -/
def pqBootstrapBeginBytes (rotating : Option Bytes) (seed : M.Seed) : ChunkOp M Bytes := do
  let retained <- onSession (locked (bootstrapBeginGuard rotating))
  let c <- Op.state
  match retained with
  | some frame => Op.ofExcept (c.sealNow frame seed)
  | none => mutateAndPersistSeal .checkpoint (bootstrapBeginBytes seed)

/-!
## Runs
-/

inductive ChunkAction (M : MlsRs) where
  | call (door : Call M)
  | pending (sealing : SideBandSealing) (seed : M.Seed)
  | begin (rotating : Option Bytes) (seed : M.Seed)
  | pad (padTarget : Option Nat) (lastMessageFrameLen : Nat)

namespace Chunking

def act (c : Chunking M) : ChunkAction M -> Chunking M
  | .call door => ((onSession door.run).run c).2
  | .pending sealing seed => ((pqPendingOutboundBytes sealing seed).run c).2
  | .begin rotating seed => ((pqBootstrapBeginBytes rotating seed).run c).2
  | .pad padTarget lastMessageFrameLen =>
      { c with padTarget := padTarget, lastMessageFrameLen := lastMessageFrameLen }

end Chunking

def ChunkAction.Plain : ChunkAction M -> Prop
  | .call door => door.CachesNoSeal
  | _ => True

structure Steady (c c' : Chunking M) : Prop where
  frame : c'.frame = c.frame
  epoch : c'.sealEpoch = c.sealEpoch
  round : ¬ RoundEntered c.inner.core c'.inner.core

/-!
## What a hand-out does
-/

/-- A hand-out finds nothing to seal, finds its bytes kept, seals afresh, or seals and
keeps. -/
inductive HandedOut (c : Chunking M) (sealing : SideBandSealing) (seed : M.Seed) :
    Option Bytes -> Chunking M -> Prop where
  | nothing : HandedOut c sealing seed none c
  | kept {frame : SideBand M} {e : Nat}
      (stable : sealing = .stable)
      (slot : c.inner.round.pendingSideBand = some { frame := frame, sealedAt := some e })
      (epoch : sideBandSealEpoch c.inner frame = some e) :
      HandedOut c sealing seed (some c.sealBytes) c
  | afresh {retained : RetainedFrame M} {blob : Bytes}
      (slot : c.inner.round.pendingSideBand = some retained)
      (fresh : sealing = .stable -> sideBandSealEpoch c.inner retained.frame = none)
      (made : c.sealNow retained.frame seed = .ok blob) :
      HandedOut c sealing seed (some blob) c
  | filled {retained : RetainedFrame M} {e : Nat} {blob : Bytes}
      (stable : sealing = .stable)
      (slot : c.inner.round.pendingSideBand = some retained)
      (epoch : sideBandSealEpoch c.inner retained.frame = some e)
      (lapsed : retained.sealedAt ≠ some e)
      (made : c.sealNow retained.frame seed = .ok blob) :
      HandedOut c sealing seed (some blob) (c.keepSeal retained (some e) blob)

theorem handOutBytes_cases (c : Chunking M) (sealing : SideBandSealing) (seed : M.Seed) :
    exists r c', (handOutBytes sealing seed).run c = (.ok r, c') ∧
      HandedOut c sealing seed r c' := by
  unfold handOutBytes
  rw [Op.run_bind, Op.run_state]
  dsimp only
  cases hslot : c.inner.round.pendingSideBand with
  | none => exact ⟨none, c, rfl, .nothing⟩
  | some retained =>
      dsimp only
      by_cases hkept : sealing = .stable ∧ retained.sealedAt.isSome ∧
          retained.sealedAt = sideBandSealEpoch c.inner retained.frame
      · rw [if_pos hkept]
        rcases hkept with ⟨hstable, hstamped, hepoch⟩
        rcases Option.isSome_iff_exists.mp hstamped with ⟨e, he⟩
        rcases retained with ⟨frame, sealedAt⟩
        dsimp only at he hepoch
        subst he
        exact ⟨_, c, rfl, .kept hstable hslot hepoch.symm⟩
      · rw [if_neg hkept]
        cases hmade : c.sealNow retained.frame seed with
        | error e => exact ⟨none, c, rfl, .nothing⟩
        | ok blob =>
            dsimp only
            by_cases hfill : sealing = .stable ∧
                (sideBandSealEpoch c.inner retained.frame).isSome
            · rw [if_pos hfill]
              rcases Option.isSome_iff_exists.mp hfill.2 with ⟨e, he⟩
              rw [he] at hkept ⊢
              refine ⟨_, _, rfl, .filled hfill.1 hslot he (fun hstamp => ?_) hmade⟩
              apply hkept
              rw [hstamp]
              exact ⟨hfill.1, rfl, rfl⟩
            · rw [if_neg hfill]
              refine ⟨_, c, rfl, .afresh hslot (fun hstable => ?_) hmade⟩
              cases hepoch : sideBandSealEpoch c.inner retained.frame with
              | none => rfl
              | some e =>
                  rw [hepoch] at hfill
                  exact absurd ⟨hstable, rfl⟩ hfill

theorem run_onSession_still {x : SessionOp M α} (hx : Op.Still x) (c : Chunking M) :
    (onSession (locked x)).run c = ((x.run c.inner).1, c) := by
  unfold onSession
  rw [Op.run_ofResult, run_locked_still hx]
  rfl

theorem pqPendingOutboundBytes_cases (c : Chunking M) (sealing : SideBandSealing)
    (seed : M.Seed) :
    exists r c', (pqPendingOutboundBytes sealing seed).run c = (.ok r, c') ∧
      HandedOut c sealing seed r c' := by
  unfold pqPendingOutboundBytes
  rw [Op.run_bind, Op.run_attempt, run_onSession_still still_ensureEstablishmentDelegated]
  dsimp only
  split
  · exact handOutBytes_cases c sealing seed
  · exact ⟨none, c, rfl, .nothing⟩

theorem act_pending (c : Chunking M) (sealing : SideBandSealing) (seed : M.Seed) :
    exists r, ((pqPendingOutboundBytes sealing seed).run c).1 = .ok r ∧
      HandedOut c sealing seed r (c.act (.pending sealing seed)) := by
  rcases pqPendingOutboundBytes_cases c sealing seed with ⟨r, c', hrun, hout⟩
  have hact : c.act (.pending sealing seed) = c' := by
    change ((pqPendingOutboundBytes sealing seed).run c).2 = c'
    rw [hrun]
  rw [hact, hrun]
  exact ⟨r, rfl, hout⟩

/-!
## What a begin does
-/

/-- The parked frame is stamped with the epoch it is sealed at now, and these are the
bytes. -/
structure Kept (c : Chunking M) (frame : SideBand M) (e : Nat) (blob : Bytes) :
    Prop where
  slot : c.inner.round.pendingSideBand = some { frame := frame, sealedAt := some e }
  epoch : sideBandSealEpoch c.inner frame = some e
  bytes : c.sealBytes = blob

theorem sideBandSealEpoch_eq (s : SessionInner M) (frame : SideBand M) :
    sideBandSealEpoch s frame =
      if frame.isRatchetLeg && a4LegIsClassical s frame then s.epoch .recvClassical
      else (s.epoch .recvPq).or (s.epoch .recvClassical) := by
  unfold sideBandSealEpoch
  split
  · rfl
  · cases hrecv : s.recvGroup with
    | none =>
        have hpq : s.epoch .recvPq = none := by
          change (s.recvGroup.bind CombinerGroup.pq).map _ = none
          rw [hrecv]
          rfl
        have hclassical : s.epoch .recvClassical = none := by
          change (s.recvGroup.map CombinerGroup.classical).map _ = none
          rw [hrecv]
          rfl
        rw [hpq, hclassical]
        rfl
    | some cg =>
        cases s.epoch .recvPq with
        | none => rfl
        | some e => rfl

theorem sealEpoch_of_made {c : Chunking M} {frame : SideBand M} {seed : M.Seed}
    {blob : Bytes} (h : c.sealNow frame seed = .ok blob) :
    exists e, sideBandSealEpoch c.inner frame = some e := by
  rcases sealSideBandBlob_key h with ⟨key, padTo, hkey, -, -⟩
  unfold sideBandKey at hkey
  rw [sideBandSealEpoch_eq]
  cases held : c.inner.half .recvClassical with
  | none =>
      rw [held] at hkey
      cases hkey
  | some g =>
      have hclassical : c.inner.epoch .recvClassical = some (M.currentEpoch g) := by
        unfold SessionInner.epoch
        rw [held]
        rfl
      rw [hclassical]
      split
      · exact ⟨_, rfl⟩
      · cases c.inner.epoch .recvPq with
        | none => exact ⟨_, rfl⟩
        | some e => exact ⟨e, rfl⟩

theorem sideBandSealEpoch_quiet {s s' : SessionInner M} (h : Quiet s.core s'.core)
    (frame : SideBand M) :
    sideBandSealEpoch s' frame = sideBandSealEpoch s frame := by
  have hepoch : forall half, s'.epoch half = s.epoch half :=
    fun half => (h.1 half).epoch
  have hclassical : a4LegIsClassical s' frame = a4LegIsClassical s frame := by
    unfold a4LegIsClassical
    have hquiet := h.1 .sendClassical
    change HalfQuiet (s.half .sendClassical) (s'.half .sendClassical) at hquiet
    cases held : s.half .sendClassical with
    | none =>
        rw [held] at hquiet
        rw [hquiet.none_left]
    | some g =>
        rw [held] at hquiet
        rcases hquiet.some_left with ⟨g', held', hsame⟩
        rw [held']
        cases frame.body.parsed.bind M.messageGroupId with
        | none => rfl
        | some id =>
            dsimp only
            rw [hsame.groupId]
  rw [sideBandSealEpoch_eq, sideBandSealEpoch_eq, hclassical, hepoch, hepoch]

inductive Begun (c : Chunking M) (seed : M.Seed) :
    Result Bytes -> Chunking M -> Prop where
  | refused {error : TwoMlsPqError} {c' : Chunking M}
      (slot : SlotInPlace c.inner c'.inner) (bytes : c'.sealBytes = c.sealBytes) :
      Begun c seed (.error error) c'
  | resent {frame : SideBand M}
      (live : c.inner.round.pqInflight = some .bootstrapInitiated)
      (parked : c.frame = some frame) :
      Begun c seed (c.sealNow frame seed) c
  | registered {frame : SideBand M} {e : Nat} {blob : Bytes} {r : Result Bytes}
      {c' : Chunking M}
      (idle : c.inner.round.pqInflight ≠ some .bootstrapInitiated)
      (offered : c.inner.round.bootstrapKp ≠ none)
      (made : c.sealNow frame seed = .ok blob)
      (epoch : sideBandSealEpoch c.inner frame = some e)
      (kept : Kept c' frame e blob)
      (entered : c'.inner.round.pqInflight = some .bootstrapInitiated)
      (answer : forall blob', r = .ok blob' -> blob' = blob) :
      Begun c seed r c'

theorem bootstrapBeginGuard_cases {rotating : Option Bytes} {s : SessionInner M}
    {retained : Option (SideBand M)}
    (h : ((bootstrapBeginGuard rotating).run s).1 = .ok retained) :
    (forall frame, retained = some frame ->
      s.round.pqInflight = some .bootstrapInitiated ∧ s.core.sideBand = some frame) ∧
    (retained = none -> s.round.pqInflight ≠ some .bootstrapInitiated ∧
      s.round.bootstrapKp ≠ none) := by
  have hguard : Op.Triple (fun s' => s' = s) (bootstrapBeginGuard rotating)
      (fun retained _ => (forall frame, retained = some frame ->
          s.round.pqInflight = some .bootstrapInitiated ∧
            s.core.sideBand = some frame) ∧
        (retained = none -> s.round.pqInflight ≠ some .bootstrapInitiated ∧
          s.round.bootstrapKp ≠ none))
      fun _ _ => True := by
    have hkept : forall (e : TwoMlsPqError) (s' : SessionInner M), s' = s -> True :=
      fun _ _ _ => True.intro
    unfold bootstrapBeginGuard
    refine Op.Triple.reading fun s' hs => ?_
    subst hs
    refine Op.Triple.looking (Op.Still.ensure _ _) hkept fun _ => ?_
    refine Op.Triple.looking (Op.Still.ensure _ _) hkept fun _ => ?_
    refine Op.Triple.looking (Op.Still.ensure _ _) hkept fun _ => ?_
    apply Op.Triple.ite
    · intro hlive
      refine Op.Triple.knowing (Op.Returns.ofOption _ _)
        (Op.Triple.keptBy (Op.Still.ofOption _ _) hkept) fun kept hslot => ?_
      refine Op.Triple.looking (still_sealSideBand _) hkept fun _ => ?_
      apply Op.Triple.value
      intro _ _
      constructor
      · intro frame hframe
        cases hframe
        refine ⟨hlive, ?_⟩
        change s'.round.pendingSideBand.map _ = _
        rw [hslot]
        rfl
      · intro hnone
        cases hnone
    · intro hidle
      refine Op.Triple.knowing (Op.Returns.ensure _ _)
        (Op.Triple.keptBy (Op.Still.ensure _ _) hkept) fun _ hoffered => ?_
      apply Op.Triple.value
      intro _ _
      constructor
      · intro frame hframe
        cases hframe
      · intro _
        exact ⟨hidle, Option.isSome_iff_ne_none.mp hoffered⟩
  exact hguard.ok rfl h

theorem registerBootstrapRound_ok (kp : Blob M) {s : SessionInner M} {founding : Bytes}
    (h : keyPackageClientId kp = .ok founding) :
    exists s', (registerBootstrapRound kp true).run s = (.ok (), s') ∧
      s'.round.pendingSideBand =
        some
          { frame := { kind := .bootstrapKeyPackage, body := kp }
            sealedAt :=
              sideBandSealEpoch s { kind := .bootstrapKeyPackage, body := kp } } ∧
      s'.round.pqInflight = some .bootstrapInitiated ∧
      forall frame, sideBandSealEpoch s' frame = sideBandSealEpoch s frame := by
  unfold registerBootstrapRound
  rw [h]
  exact ⟨_, rfl, rfl, rfl, fun _ => rfl⟩

theorem bootstrapBeginBytes_cases (c : Chunking M) (seed : M.Seed) :
    (exists error, (bootstrapBeginBytes seed).run c = (.error error, c)) ∨
      exists frame e blob c', (bootstrapBeginBytes seed).run c = (.ok blob, c') ∧
        c.sealNow frame seed = .ok blob ∧ sideBandSealEpoch c.inner frame = some e ∧
        Kept c' frame e blob ∧
          c'.inner.round.pqInflight = some .bootstrapInitiated := by
  unfold bootstrapBeginBytes
  rw [Op.run_bind, Op.run_state]
  dsimp only
  cases c.inner.round.bootstrapKp with
  | none => exact Or.inl ⟨_, rfl⟩
  | some kp =>
      rw [Op.run_bind_ok (Op.run_ofOption_some kp _ c)]
      cases hmade : c.sealNow { kind := .bootstrapKeyPackage, body := kp } seed with
      | error error => exact Or.inl ⟨error, rfl⟩
      | ok blob =>
          rw [Op.run_bind_ok (Op.run_ofExcept _ c)]
          cases hfounding : keyPackageClientId kp with
          | error error =>
              left
              refine ⟨error, Op.run_bind_error ?_⟩
              unfold registerBootstrapRound onSession locked
              rw [hfounding]
              rfl
          | ok founding =>
              rcases sealEpoch_of_made hmade with ⟨e, hepoch⟩
              rcases registerBootstrapRound_ok kp (s := c.inner) hfounding with
                ⟨s', hrun, hslot, hinflight, hsame⟩
              have hregistered : (onSession (locked (registerBootstrapRound kp true))).run c =
                  (.ok (), { c with session := { c.session with inner := s' } }) := by
                unfold onSession locked
                rw [Op.run_ofResult, Op.run_ofResult]
                change (((registerBootstrapRound kp true).run c.inner).1,
                  { c with session := { c.session with
                    inner := ((registerBootstrapRound kp true).run c.inner).2 } }) = _
                rw [hrun]
              right
              rw [Op.run_bind_ok hregistered]
              refine ⟨_, e, blob, _, rfl, hmade, hepoch, ?_, hinflight⟩
              constructor
              · rw [← hepoch]
                exact hslot
              · exact (hsame _).trans hepoch
              · rfl

theorem run_onSession (x : ApiOp M α) (c : Chunking M) :
    (onSession x).run c =
      ((x.run c.session).1, { c with session := (x.run c.session).2 }) :=
  rfl

theorem keeps_onSession {I : TwoMlsPqSession M -> Prop} {x : ApiOp M α}
    (hx : Op.Keeps I x) :
    Op.Keeps (fun c : Chunking M => I c.session) (onSession x) :=
  fun c hc => hx c.session hc

theorem mutateAndPersistSeal_cases (kind : BlobKind) (x : ChunkOp M α)
    (c : Chunking M) :
    exists c₀ : Chunking M,
      (c₀ = c ∨ c₀ = { c with session := bumped c.session }) ∧
        ((mutateAndPersistSeal kind x).run c = x.run c₀ ∨
          ((mutateAndPersistSeal kind x).run c).2 =
              ((onSession (encodeAndPush kind)).run (x.run c₀).2).2 ∧
            (forall a, ((mutateAndPersistSeal kind x).run c).1 = .ok a ->
              (x.run c₀).1 = .ok a) ∧
            forall error, (x.run c₀).1 = .error error ->
              ((mutateAndPersistSeal kind x).run c).1 = .error error) := by
  unfold mutateAndPersistSeal
  by_cases hcounter : c.session.inner.stateSeq < maxSeq
  · have hbumped : (onSession bumpSeq).run c =
        (.ok true, { c with session := bumped c.session }) := by
      rw [run_onSession, run_bumpSeq_lt hcounter]
    refine ⟨_, Or.inr rfl, Or.inr ?_⟩
    rw [Op.run_bind_ok hbumped, if_pos rfl]
    rw [Op.run_bind, Op.run_attempt]
    dsimp only
    rw [Op.run_bind, Op.run_attempt]
    dsimp only
    rcases x.run { c with session := bumped c.session } with ⟨r, c'⟩
    dsimp only
    cases r with
    | error error =>
        refine ⟨rfl, fun _ h => ?_, fun _ h => ?_⟩
        · cases h
        · cases h
          rfl
    | ok a =>
        cases ((onSession (encodeAndPush kind)).run c').1 with
        | error error =>
            refine ⟨rfl, fun _ h => ?_, fun _ h => ?_⟩
            · cases h
            · cases h
        | ok _ =>
            refine ⟨rfl, fun _ h => ?_, fun _ h => ?_⟩
            · cases h
              rfl
            · cases h
  · have hspent : (onSession bumpSeq).run c = (.ok false, c) := by
      rw [run_onSession, run_bumpSeq_exhausted hcounter]
    refine ⟨c, Or.inl rfl, Or.inl ?_⟩
    rw [Op.run_bind_ok hspent]
    rfl

structure RoundInPlace (s₀ s : SessionInner M) : Prop where
  slot : SlotInPlace s₀ s
  inflight : s.round.pqInflight = s₀.round.pqInflight
  epoch : forall frame, sideBandSealEpoch s frame = sideBandSealEpoch s₀ frame

theorem roundInPlace_encodeBlob (L : Lawful M) (kind : BlobKind) (s₀ : SessionInner M) :
    Op.Keeps (RoundInPlace s₀) (encodeBlob kind) := by
  intro s hs
  have hquiet : Quiet s.core ((encodeBlob kind).run s).2.core :=
    quiet_encodeBlob L kind s
  have hslot := ((touches_encodeBlob kind).leavesParked (by decide)).slot s
  have hinflight : ((encodeBlob kind).run s).2.core.inflight = s.core.inflight := by
    rw [hquiet.2]
  constructor
  · exact hslot.trans hs.slot
  · exact hinflight.trans hs.inflight
  · intro frame
    rw [sideBandSealEpoch_quiet hquiet, hs.epoch]

theorem roundInPlace_encodeAndPush (L : Lawful M) (kind : BlobKind)
    (s₀ : SessionInner M) :
    Op.Keeps (fun t : TwoMlsPqSession M => RoundInPlace s₀ t.inner)
      (encodeAndPush kind) :=
  keeps_encodeAndPush (roundInPlace_encodeBlob L kind s₀)

theorem Kept.inPlace {c c' : Chunking M} {frame : SideBand M} {e : Nat} {blob : Bytes}
    (h : Kept c frame e blob) (hplace : RoundInPlace c.inner c'.inner)
    (hbytes : c'.sealBytes = c.sealBytes) :
    Kept c' frame e blob where
  slot := by
    have hslot : c'.inner.round.pendingSideBand = c.inner.round.pendingSideBand :=
      hplace.slot
    rw [hslot]
    exact h.slot
  epoch := (hplace.epoch frame).trans h.epoch
  bytes := hbytes.trans h.bytes

theorem pqBootstrapBeginBytes_cases (L : Lawful M) (c : Chunking M)
    (rotating : Option Bytes) (seed : M.Seed) :
    Begun c seed ((pqBootstrapBeginBytes rotating seed).run c).1
      ((pqBootstrapBeginBytes rotating seed).run c).2 := by
  have hlooked := run_onSession_still (still_bootstrapBeginGuard rotating) c
  unfold pqBootstrapBeginBytes
  cases hguard : ((bootstrapBeginGuard rotating).run c.inner).1 with
  | error error =>
      rw [hguard] at hlooked
      rw [Op.run_bind_error hlooked]
      exact .refused rfl rfl
  | ok retained =>
      rw [hguard] at hlooked
      rw [Op.run_bind_ok hlooked, Op.run_bind_ok (Op.run_state c)]
      have hcases := bootstrapBeginGuard_cases hguard
      cases retained with
      | some frame =>
          rcases hcases.1 frame rfl with ⟨hlive, hparked⟩
          exact .resent hlive hparked
      | none =>
          rcases hcases.2 rfl with ⟨hidle, hoffered⟩
          dsimp only
          rcases mutateAndPersistSeal_cases .checkpoint (bootstrapBeginBytes seed) c with
            ⟨c₀, hc₀, hrun⟩
          have hplace : RoundInPlace c.inner c₀.inner ∧ c₀.sealBytes = c.sealBytes := by
            rcases hc₀ with rfl | rfl
            · exact ⟨⟨rfl, rfl, fun _ => rfl⟩, rfl⟩
            · exact ⟨⟨rfl, rfl, fun _ => rfl⟩, rfl⟩
          have hsame : forall frame, c₀.sealNow frame seed = c.sealNow frame seed := by
            rcases hc₀ with rfl | rfl
            · exact fun _ => rfl
            · exact fun _ => rfl
          have hencoded := fun c' : Chunking M =>
            roundInPlace_encodeAndPush L .checkpoint c'.inner c'.session
              ⟨rfl, rfl, fun _ => rfl⟩
          rcases bootstrapBeginBytes_cases c₀ seed with
            ⟨error, hx⟩ | ⟨frame, e, blob, c', hx, hmade, hepoch, hkept, hentered⟩
          · rw [hx] at hrun
            rcases hrun with hrun | ⟨hafter, -, hanswer⟩
            · rw [hrun]
              exact .refused hplace.1.slot hplace.2
            · rw [hanswer error rfl, hafter]
              exact .refused ((hencoded c₀).slot.trans hplace.1.slot) hplace.2
          · rw [hsame] at hmade
            rw [hplace.1.epoch] at hepoch
            rw [hx] at hrun
            rcases hrun with hrun | ⟨hafter, hanswer, -⟩
            · rw [hrun]
              refine .registered hidle hoffered hmade hepoch hkept hentered fun _ h => ?_
              cases h
              rfl
            · rw [hafter]
              refine .registered hidle hoffered hmade hepoch (hkept.inPlace (hencoded c') rfl)
                ((hencoded c').inflight.trans hentered) fun blob' h => ?_
              have hsame' := hanswer blob' h
              cases hsame'
              rfl

/-!
## Every session is upright
-/

structure Upright (c : Core M) : Prop where
  approved : Approved c
  unpackaged : c.delegates = true -> c.bootstrapKp = none

namespace Upright

variable {e : Event M} {c c' : Core M}

theorem step (h : Upright c) (hstep : Step e c c') : Upright c' where
  approved := approved_step hstep h.approved
  unpackaged := by
    cases hstep with
    | quiet hq =>
        rw [hq.2]
        exact h.unpackaged
    | registerBootstrap registers => exact fun _ => rfl
    | _ => exact h.unpackaged

theorem restored {r : Core M} (h : Upright c) (hr : Restored c r) : Upright r where
  approved := approved_restored hr h.approved
  unpackaged := by
    rw [hr.2]
    exact h.unpackaged

theorem recovered (h : Recovered (fun _ => Upright) c) : Upright c := by
  cases h with
  | checkpoint h => exact h
  | spliced h h' => exact { approved := h.approved, unpackaged := h.unpackaged }

theorem born (L : Lawful M) {s : SessionInner M} (h : Born s) : Upright s.core where
  approved := approved_unused (h.unused L)
  unpackaged := by
    cases h with
    | initiated h =>
        rw [(initiate_born L h).undelegated]
        exact fun hdelegates => absurd hdelegates nofun
    | accepted h => exact fun _ => (acceptWith_born L h).bootstrapKp

theorem live (L : Lawful M) {t : TwoMlsPqSession M} (a : LifeAction M)
    (h : Durable Upright t) : Durable Upright (t.live a) := by
  cases a with
  | reopen =>
      exact h.reopened L (fun _ _ hq hc => hc.step (Step.quiet hq))
        fun _ _ hr hc => hc.restored hr
  | host a =>
      cases a with
      | restart => exact h.restarted L (fun _ => recovered) fun _ _ hr hc => hc.restored hr
      | call call =>
          exact h.advance (call_advances L call t h.now.approved)
            fun _ _ _ _ hstep hc => hc.step hstep

end Upright

theorem ungated_step {e : Event M} {c c' : Core M} (hstep : Step e c c')
    (h : ¬ Gated c) : ¬ Gated c' := by
  have hdelegates : c'.delegates = c.delegates := by
    cases hstep with
    | quiet hq => rw [hq.2]
    | _ => rfl
  intro hgated
  have hmissing : c.envelope = none := by
    by_contra hheld
    rw [← envelope_step hstep hheld] at hheld
    exact hheld hgated.2
  apply h
  constructor
  · rw [← hdelegates]
    exact hgated.1
  · exact hmissing

theorem HandedOut.core {c c' : Chunking M} {sealing : SideBandSealing} {seed : M.Seed}
    {r : Option Bytes} (h : HandedOut c sealing seed r c') :
    c'.inner.core = c.inner.core := by
  cases h with
  | nothing => rfl
  | kept stable slot epoch => rfl
  | afresh slot fresh made => rfl
  | filled stable slot epoch lapsed made =>
      rename_i retained _ _
      have hframe : c.inner.core.sideBand = some retained.frame := by
        change c.inner.round.pendingSideBand.map RetainedFrame.frame = _
        rw [slot]
        rfl
      change { c.inner.core with sideBand := some retained.frame } = c.inner.core
      rw [← hframe]

structure Outlasts (c₀ c : Core M) : Prop where
  upright : Upright c
  ungated : ¬ Gated c₀ -> ¬ Gated c

theorem Outlasts.step {c₀ c c' : Core M} {e : Event M} (h : Outlasts c₀ c)
    (hstep : Step e c c') : Outlasts c₀ c' where
  upright := h.upright.step hstep
  ungated := fun hopen => ungated_step hstep (h.ungated hopen)

theorem outlasts_register (c₀ : Core M) (kp : Blob M) :
    Op.Keeps (fun s : SessionInner M => Outlasts c₀ s.core)
      (registerBootstrapRound kp true) := by
  unfold registerBootstrapRound
  refine Op.Keeps.looking (Op.Still.ofExcept _) fun founding => ?_
  exact Op.Keeps.update fun s hs =>
    { upright := { approved := hs.upright.approved, unpackaged := fun _ => rfl }
      ungated := hs.ungated }

theorem outlasts_encodeAndPush (L : Lawful M) (c₀ : Core M) (kind : BlobKind) :
    Op.Keeps (fun t : TwoMlsPqSession M => Outlasts c₀ t.inner.core)
      (encodeAndPush kind) :=
  keeps_encodeAndPush (I := fun s => Outlasts c₀ s.core)
    fun s hs => hs.step (Step.quiet (quiet_encodeBlob L kind s))

theorem outlasts_begin (L : Lawful M) (c₀ : Core M) (rotating : Option Bytes)
    (seed : M.Seed) :
    Op.Keeps (fun c : Chunking M => Outlasts c₀ c.inner.core)
      (pqBootstrapBeginBytes rotating seed) := by
  have hbody : Op.Keeps (fun c : Chunking M => Outlasts c₀ c.inner.core)
      (bootstrapBeginBytes seed) := by
    unfold bootstrapBeginBytes
    refine Op.Keeps.looking Op.Still.state fun c => ?_
    refine Op.Keeps.looking (Op.Still.ofOption _ _) fun kp => ?_
    refine Op.Keeps.looking (Op.Still.ofExcept _) fun blob => ?_
    refine Op.Keeps.bind (fun c hc => outlasts_register c₀ kp c.inner hc) fun _ => ?_
    refine Op.Keeps.bind (Op.Keeps.update fun _ hc => hc) fun _ => ?_
    exact Op.Keeps.value _
  have hbump : Op.Keeps (fun t : TwoMlsPqSession M => Outlasts c₀ t.inner.core)
      bumpSeq :=
    bumpSeq_keeps (I := fun s => Outlasts c₀ s.core) fun _ _ h => h
  unfold pqBootstrapBeginBytes
  refine Op.Keeps.bind (fun c hc => ?_) fun retained => ?_
  · rw [run_onSession_still (still_bootstrapBeginGuard rotating)]
    exact hc
  refine Op.Keeps.looking Op.Still.state fun c => ?_
  cases retained with
  | some frame => exact Op.Keeps.still (Op.Still.ofExcept _)
  | none =>
      dsimp only
      unfold mutateAndPersistSeal
      refine Op.Keeps.bind (keeps_onSession hbump) fun bumped => ?_
      apply Op.Keeps.ite
      · refine Op.Keeps.bind hbody.attempt fun result => ?_
        refine Op.Keeps.bind
          (keeps_onSession (outlasts_encodeAndPush L c₀ .checkpoint)).attempt
          fun encoded => ?_
        split
        · exact Op.Keeps.fail _
        · exact Op.Keeps.value _
        · exact Op.Keeps.fail _
      · exact hbody

theorem outlasts_act (L : Lawful M) {c₀ : Core M} {c : Chunking M} (a : ChunkAction M)
    (h : Outlasts c₀ c.inner.core) : Outlasts c₀ (c.act a).inner.core := by
  cases a with
  | call door =>
      exact (call_goes L door c.session h.upright.approved).invariant
        (I := Outlasts c₀) (fun _ _ _ _ hstep hc => hc.step hstep) h
  | pending sealing seed =>
      rcases act_pending c sealing seed with ⟨r, -, hout⟩
      rw [hout.core]
      exact h
  | begin rotating seed => exact outlasts_begin L c₀ rotating seed c h
  | pad padTarget lastMessageFrameLen => exact h

/-!
## What is kept stays kept
-/

theorem Kept.steady {c c' : Chunking M} {frame : SideBand M} {e : Nat} {blob : Bytes}
    (h : Kept c frame e blob) (hsteady : Steady c c') :
    c'.frame = some frame ∧ sideBandSealEpoch c'.inner frame = some e := by
  have hparked : c.frame = some frame := by
    change c.inner.round.pendingSideBand.map _ = _
    rw [h.slot]
    rfl
  have hframe : c'.frame = some frame := hsteady.frame.trans hparked
  refine ⟨hframe, ?_⟩
  have hepoch := hsteady.epoch
  unfold Chunking.sealEpoch at hepoch
  rw [hframe, hparked] at hepoch
  exact hepoch.trans h.epoch

theorem Kept.act (L : Lawful M) {c : Chunking M} {frame : SideBand M} {e : Nat}
    {blob : Bytes} {a : ChunkAction M} (h : Kept c frame e blob) (hplain : a.Plain)
    (hsteady : Steady c (c.act a)) :
    Kept (c.act a) frame e blob := by
  rcases h.steady hsteady with ⟨hframe, hepoch⟩
  have hplaced : SlotInPlace c.inner (c.act a).inner ->
      (c.act a).inner.round.pendingSideBand =
        some { frame := frame, sealedAt := some e } :=
    fun hplace => Eq.trans hplace h.slot
  cases a with
  | call door =>
      refine { slot := hplaced ?_, epoch := hepoch, bytes := h.bytes }
      rcases carries_call L door hplain c.session with hplace | hreplaced
      · exact hplace
      · rcases hreplaced.superseded with hnone | hother | hentered
        · cases hframe.symm.trans hnone
        · exact absurd hsteady.frame hother
        · exact absurd hentered hsteady.round
  | pending sealing seed =>
      rcases act_pending c sealing seed with ⟨r, -, hout⟩
      generalize c.act (.pending sealing seed) = c' at *
      cases hout with
      | nothing => exact h
      | kept stable slot epoch => exact h
      | afresh slot fresh made => exact h
      | filled stable slot epoch lapsed made =>
          rw [h.slot] at slot
          cases slot
          cases h.epoch.symm.trans epoch
          exact absurd rfl lapsed
  | begin rotating seed =>
      have hbegun := pqBootstrapBeginBytes_cases L c rotating seed
      change Begun c seed _ (c.act (.begin rotating seed)) at hbegun
      generalize ((pqBootstrapBeginBytes rotating seed).run c).1 = r at hbegun
      generalize c.act (.begin rotating seed) = c' at *
      cases hbegun with
      | refused slot bytes =>
          exact { slot := hplaced slot, epoch := hepoch, bytes := bytes.trans h.bytes }
      | resent live parked => exact h
      | registered idle offered made epoch kept entered answer =>
          refine absurd (Or.inl ⟨?_, ?_⟩) hsteady.round
          · change c'.inner.round.pqInflight ≠ none
            rw [entered]
            exact nofun
          · change c'.inner.round.pqInflight ≠ c.inner.round.pqInflight
            rw [entered]
            exact fun hsame => idle hsame.symm
  | pad padTarget lastMessageFrameLen =>
      exact { slot := h.slot, epoch := hepoch, bytes := h.bytes }

theorem passes_of_ungated {s : SessionInner M} (hopen : ¬ Gated s.core) :
    (ensureEstablishmentDelegated.run s).1 = .ok () := by
  unfold ensureEstablishmentDelegated
  rw [Op.run_bind_ok (Op.run_state s), Op.run_ensure]
  by_contra hclosed
  rw [not_or] at hclosed
  apply hopen
  constructor
  · change s.establishment.requiresEstablishmentEnvelope = true
    simpa using hclosed.1
  · exact Option.not_isSome_iff_eq_none.mp hclosed.2

theorem Kept.handed {c : Chunking M} {frame : SideBand M} {e : Nat} {blob : Bytes}
    (h : Kept c frame e blob) (hopen : ¬ Gated c.inner.core) (seed : M.Seed) :
    (pqPendingOutboundBytes .stable seed).run c = (.ok (some blob), c) := by
  have hgate := passes_of_ungated hopen
  unfold pqPendingOutboundBytes
  rw [Op.run_bind, Op.run_attempt, run_onSession_still still_ensureEstablishmentDelegated,
    hgate]
  change (handOutBytes .stable seed).run c = _
  unfold handOutBytes
  rw [Op.run_bind_ok (Op.run_state c), h.slot]
  dsimp only
  rw [h.epoch, if_pos ⟨rfl, rfl, rfl⟩, h.bytes]
  rfl

theorem HandedOut.keeps {c c' : Chunking M} {seed : M.Seed} {blob : Bytes}
    (h : HandedOut c .stable seed (some blob) c') :
    exists frame e, Kept c' frame e blob := by
  generalize hr : some blob = r at h
  cases h with
  | nothing => cases hr
  | kept stable slot epoch =>
      cases hr
      exact ⟨_, _, slot, epoch, rfl⟩
  | afresh slot fresh made =>
      rcases sealEpoch_of_made made with ⟨e, he⟩
      rw [fresh rfl] at he
      cases he
  | filled stable slot epoch lapsed made =>
      cases hr
      exact ⟨_, _, rfl, epoch, rfl⟩

/-!
## Where kept bytes come from
-/

def woken (t : TwoMlsPqSession M) : Chunking M where
  session := { t with inner := restamp none t.inner }
  padTarget := none
  lastMessageFrameLen := 0
  sealBytes := []

abbrev Chunking.Goes : Chunking M -> Chunking M -> Prop :=
  Run Chunking.act fun _ a => a.Plain

abbrev Chunking.Stays : Chunking M -> Chunking M -> Prop :=
  Run Chunking.act fun c a => a.Plain ∧ Steady c (c.act a)

def SealedOnTheWay (c₀ c : Chunking M) (frame : SideBand M) (e : Nat) (blob : Bytes) :
    Prop :=
  exists c₁ seed, c₀.Goes c₁ ∧ c₁.Goes c ∧ sideBandSealEpoch c₁.inner frame = some e ∧
    c₁.sealNow frame seed = .ok blob

theorem SealedOnTheWay.step {c₀ c : Chunking M} {frame : SideBand M} {e : Nat}
    {blob : Bytes} {a : ChunkAction M} (h : SealedOnTheWay c₀ c frame e blob)
    (hplain : a.Plain) :
    SealedOnTheWay c₀ (c.act a) frame e blob := by
  rcases h with ⟨c₁, seed, hbefore, hafter, hepoch, hmade⟩
  exact ⟨c₁, seed, hbefore, hafter.step hplain, hepoch, hmade⟩

/-- A stamp says what the kept bytes are a seal of. -/
structure Traced (c₀ c : Chunking M) : Prop where
  reached : c₀.Goes c
  stamped : forall frame e,
    c.inner.round.pendingSideBand = some { frame := frame, sealedAt := some e } ->
      SealedOnTheWay c₀ c frame e c.sealBytes

namespace Traced

variable {c₀ c : Chunking M}

theorem woken (t : TwoMlsPqSession M) : Traced (woken t) (woken t) where
  reached := Run.refl
  stamped := by
    intro frame e hslot
    change t.inner.round.pendingSideBand.map _ = _ at hslot
    rcases Option.map_eq_some_iff.mp hslot with ⟨retained, -, hretained⟩
    cases hretained

theorem carried {a : ChunkAction M} (h : Traced c₀ c) (hplain : a.Plain)
    (hslot : SealCarried c.inner (c.act a).inner)
    (hbytes : (c.act a).sealBytes = c.sealBytes) :
    Traced c₀ (c.act a) where
  reached := h.reached.step hplain
  stamped := by
    intro frame e hstamped
    rcases hslot with hplace | hreplaced
    · rw [hbytes]
      exact (h.stamped frame e (Eq.trans (Eq.symm hplace) hstamped)).step hplain
    · cases hreplaced.unstamped _ hstamped

theorem sealed {a : ChunkAction M} {frame : SideBand M} {e : Nat} {blob : Bytes}
    {seed : M.Seed} (h : Traced c₀ c) (hplain : a.Plain)
    (hepoch : sideBandSealEpoch c.inner frame = some e)
    (hmade : c.sealNow frame seed = .ok blob)
    (hslot : (c.act a).inner.round.pendingSideBand =
      some { frame := frame, sealedAt := some e })
    (hbytes : (c.act a).sealBytes = blob) :
    Traced c₀ (c.act a) where
  reached := h.reached.step hplain
  stamped := by
    intro frame' e' hstamped
    rw [hslot] at hstamped
    cases hstamped
    rw [hbytes]
    exact ⟨c, seed, h.reached, Run.refl.step hplain, hepoch, hmade⟩

theorem act (L : Lawful M) {a : ChunkAction M} (h : Traced c₀ c) (hplain : a.Plain) :
    Traced c₀ (c.act a) := by
  cases a with
  | call door => exact h.carried hplain (carries_call L door hplain c.session) rfl
  | pending sealing seed =>
      rcases act_pending c sealing seed with ⟨r, -, hout⟩
      generalize hact : c.act (.pending sealing seed) = c' at hout
      cases hout with
      | filled stable slot epoch lapsed made =>
          rw [← hact]
          refine h.sealed hplain epoch made ?_ ?_
          · rw [hact]
            rfl
          · rw [hact]
            rfl
      | _ =>
          rw [← hact]
          refine h.carried hplain (Or.inl ?_) ?_
          · rw [hact]
            rfl
          · rw [hact]
  | begin rotating seed =>
      have hbegun := pqBootstrapBeginBytes_cases L c rotating seed
      change Begun c seed _ (c.act (.begin rotating seed)) at hbegun
      generalize ((pqBootstrapBeginBytes rotating seed).run c).1 = r at hbegun
      generalize hact : c.act (.begin rotating seed) = c' at hbegun
      cases hbegun with
      | refused slot bytes =>
          rw [← hact] at slot bytes ⊢
          exact h.carried hplain (Or.inl slot) bytes
      | resent live parked =>
          rw [← hact]
          refine h.carried hplain (Or.inl ?_) ?_
          · rw [hact]
            rfl
          · rw [hact]
      | registered idle offered made epoch kept entered answer =>
          rw [← hact] at kept ⊢
          exact h.sealed hplain epoch made kept.slot kept.bytes
  | pad padTarget lastMessageFrameLen => exact h.carried hplain (Or.inl rfl) rfl

theorem handed {c' : Chunking M} {seed : M.Seed} {blob : Bytes} (h : Traced c₀ c)
    (hout : HandedOut c .stable seed (some blob) c') :
    exists frame e, c.frame = some frame ∧ sideBandSealEpoch c.inner frame = some e ∧
      SealedOnTheWay c₀ c frame e blob := by
  have hparked : forall {retained : RetainedFrame M},
      c.inner.round.pendingSideBand = some retained -> c.frame = some retained.frame := by
    intro retained hslot
    change c.inner.round.pendingSideBand.map _ = _
    rw [hslot]
    rfl
  generalize hr : some blob = r at hout
  cases hout with
  | nothing => cases hr
  | kept stable slot epoch =>
      cases hr
      exact ⟨_, _, hparked slot, epoch, h.stamped _ _ slot⟩
  | afresh slot fresh made =>
      rcases sealEpoch_of_made made with ⟨e, he⟩
      rw [fresh rfl] at he
      cases he
  | filled stable slot epoch lapsed made =>
      cases hr
      exact ⟨_, _, hparked slot, epoch, c, seed, h.reached, Run.refl, epoch, made⟩

end Traced

/-!
## What a peek leaves behind
-/

theorem blind_onHalf (e : Option Nat) (h : Half) (missing : TwoMlsPqError)
    (x : StoreId -> HalfOp M α) :
    Op.Blind (restamp e) (onHalf h missing x) := by
  intro s
  have hhalf : (restamp e s).half h = s.half h := by cases h <;> rfl
  have hstore : (restamp e s).halfStore h = s.halfStore h := by cases h <;> rfl
  unfold onHalf
  rw [Op.run_ofResult, Op.run_ofResult, hhalf, hstore]
  cases s.half h with
  | none => rfl
  | some g =>
      cases s.halfStore h with
      | none => rfl
      | some store => cases h <;> rfl

theorem blind_callHalf (e : Option Nat) (h : Half) (missing : TwoMlsPqError)
    (err : MlsError -> TwoMlsPqError)
    (f : MlsEnv -> M.Group -> Except MlsError α × M.Group) :
    Op.Blind (restamp e) (callHalf h missing err f) :=
  blind_onHalf e h missing _

theorem blind_readHalf (e : Option Nat) (h : Half) (missing : TwoMlsPqError) :
    Op.Blind (restamp e) (readHalf h missing : SessionOp M M.Group) := by
  unfold readHalf
  refine Op.Blind.reading (fun s => ?_) fun s => Op.Blind.ofOption _ _
  cases h <;> rfl

theorem blind_recordListenRendezvous (e : Option Nat) :
    Op.Blind (restamp e) (recordListenRendezvous : SessionOp M Unit) := by
  unfold recordListenRendezvous
  refine Op.Blind.reading (fun _ => rfl) fun s => ?_
  cases s.half .sendClassical with
  | none => exact Op.Blind.value ()
  | some g =>
      dsimp only
      apply Op.Blind.ite
      · exact Op.Blind.value ()
      · refine Op.Blind.bind (Op.Blind.ofExcept _) fun secret => ?_
        refine Op.Blind.bind (Op.Blind.ofExcept _) fun header => ?_
        refine Op.Blind.bind (Op.Blind.update fun _ => rfl) fun _ => ?_
        refine Op.Blind.bind (blind_callHalf e _ _ _ _) fun _ => ?_
        refine Op.Blind.bind (blind_readHalf e _ _) fun g' => ?_
        exact Op.Blind.update fun _ => rfl

theorem blind_exportHalf (e : Option Nat) (h : Half) :
    Op.Blind (restamp e) (exportHalf h : SessionOp M M.GroupSnapshot) :=
  blind_callHalf e h _ _ _

theorem blind_exportPqHalf (e : Option Nat) (h : Half) (includePq : Bool) :
    Op.Blind (restamp e)
      (exportPqHalf h includePq : SessionOp M (Option M.GroupSnapshot)) := by
  unfold exportPqHalf
  refine Op.Blind.reading (fun s => ?_) fun s => ?_
  · cases h <;> rfl
  · apply Op.Blind.ite
    · exact Op.Blind.bind (blind_exportHalf e h) fun _ => Op.Blind.value _
    · exact Op.Blind.value _

theorem blind_encodeBlob (e : Option Nat) (kind : BlobKind) :
    Op.Blind (restamp e) (encodeBlob kind : SessionOp M (Archive M)) := by
  have hround : forall s : SessionInner M,
      archivedRound (restamp e s).round = archivedRound s.round := by
    intro s
    unfold archivedRound restamp SessionInner.mapRound
    dsimp only
    rw [Option.map_map]
    rfl
  unfold encodeBlob buildArchiveWire
  refine Op.Blind.reading (fun _ => rfl) fun s => ?_
  refine Op.Blind.bind ?_ fun wire => Op.Blind.value _
  refine Op.Blind.bind (blind_recordListenRendezvous e) fun _ => ?_
  refine Op.Blind.bind ?_ fun sendGroup => ?_
  · unfold exportSend
    refine Op.Blind.bind (blind_exportHalf e _) fun classical => ?_
    exact Op.Blind.bind (blind_exportPqHalf e _ _) fun pq => Op.Blind.value _
  refine Op.Blind.bind ?_ fun recvGroup => ?_
  · unfold exportRecv
    refine Op.Blind.reading (fun _ => rfl) fun s => ?_
    apply Op.Blind.ite
    · exact Op.Blind.value _
    · refine Op.Blind.bind (blind_exportHalf e _) fun classical => ?_
      exact Op.Blind.bind (blind_exportPqHalf e _ _) fun pq => Op.Blind.value _
  refine Op.Blind.reading (fun s => ?_) fun s => Op.Blind.value _
  rw [hround]
  rfl

/-- The counter, what the sink was given and what any archive would hold are as they
were. -/
structure SameArchive (c c' : Chunking M) : Prop where
  counter : c'.inner.stateSeq = c.inner.stateSeq
  pushed : c'.session.pushed = c.session.pushed
  archive : forall kind,
    ((encodeBlob kind).run c'.inner).1 = ((encodeBlob kind).run c.inner).1

theorem SameArchive.refl (c : Chunking M) : SameArchive c c where
  counter := rfl
  pushed := rfl
  archive := fun _ => rfl

theorem HandedOut.sameArchive {c c' : Chunking M} {sealing : SideBandSealing}
    {seed : M.Seed} {r : Option Bytes} (h : HandedOut c sealing seed r c') :
    SameArchive c c' := by
  cases h with
  | nothing => exact SameArchive.refl c
  | kept stable slot epoch => exact SameArchive.refl c
  | afresh slot fresh made => exact SameArchive.refl c
  | filled stable slot epoch lapsed made =>
      rename_i retained e blob
      have hinner : (c.keepSeal retained (some e) blob).inner =
          restamp (some e) c.inner := by
        unfold restamp SessionInner.mapRound
        dsimp only
        rw [slot]
        rfl
      constructor
      · rfl
      · rfl
      · intro kind
        rw [hinner, blind_encodeBlob]

theorem HandedOut.fresh {c c' : Chunking M} {seed : M.Seed} {r : Option Bytes}
    (h : HandedOut c .fresh seed r c') : c' = c := by
  generalize hsealing : SideBandSealing.fresh = sealing at h
  cases h with
  | nothing => rfl
  | kept stable slot epoch => rfl
  | afresh slot fresh made => rfl
  | filled stable slot epoch lapsed made =>
      rw [stable] at hsealing
      cases hsealing

theorem core_restamp (e : Option Nat) (s : SessionInner M) :
    (restamp e s).core = s.core := by
  have hframe : (restamp e s).core.sideBand = s.core.sideBand := by
    change (s.round.pendingSideBand.map _).map _ = s.round.pendingSideBand.map _
    rw [Option.map_map]
    rfl
  change { s.core with sideBand := (restamp e s).core.sideBand } = s.core
  rw [hframe]

theorem ungated_of_handed {c : Chunking M} {sealing : SideBandSealing} {seed : M.Seed}
    {blob : Bytes}
    (h : ((pqPendingOutboundBytes sealing seed).run c).1 = .ok (some blob)) :
    ¬ Gated c.inner.core := by
  intro hgated
  unfold pqPendingOutboundBytes at h
  rw [Op.run_bind, Op.run_attempt, run_onSession_still still_ensureEstablishmentDelegated,
    run_gate hgated] at h
  cases h

theorem run_sealFrame {s : SessionInner M} {g : M.Group} {key : Bytes}
    (held : s.half .recvClassical = some g) (hkey : headerKey g = .ok key) :
    sealFrame.run s = (.ok (), s) := by
  unfold sealFrame
  rw [Op.run_bind_ok (run_readHalf held _), hkey]
  rfl

theorem run_sealSideBand {c : Chunking M} {frame : SideBand M} {seed : M.Seed}
    {blob : Bytes} (h : c.sealNow frame seed = .ok blob) :
    (sealSideBand frame).run c.inner = (.ok (), c.inner) := by
  rcases sealSideBandBlob_key h with ⟨key, padTo, hkey, -, -⟩
  unfold sideBandKey frameKey at hkey
  unfold sealSideBand
  cases held : c.inner.half .recvClassical with
  | none =>
      rw [held] at hkey
      cases hkey
  | some g =>
      rw [held] at hkey
      rw [Op.run_bind_ok (Op.run_state c.inner), Op.run_bind_ok (run_readHalf held _)]
      dsimp only at hkey
      by_cases hleg : (frame.isRatchetLeg && a4LegIsClassical c.inner frame) = true
      · rw [if_pos hleg] at hkey ⊢
        exact run_sealFrame held hkey
      · rw [if_neg hleg] at hkey ⊢
        cases heldPq : c.inner.half .recvPq with
        | none =>
            rw [heldPq] at hkey
            exact run_sealFrame held hkey
        | some pq =>
            rw [heldPq] at hkey
            dsimp only at hkey ⊢
            rw [hkey]
            rfl

theorem run_locked_gate {c : Chunking M} (hopen : ¬ Gated c.inner.core) :
    (Op.attempt (locked (ensureEstablishmentDelegated (M := M)))).run c.session =
      (.ok (.ok ()), c.session) := by
  rw [Op.run_attempt, run_locked_still still_ensureEstablishmentDelegated]
  change (Except.ok (ensureEstablishmentDelegated.run c.inner).1, _) = _
  rw [passes_of_ungated hopen]

theorem run_pqPendingOutbound {c : Chunking M} {stable : Bool} {s : SessionInner M}
    {frame : SideBand M} (hopen : ¬ Gated c.inner.core)
    (hrun : (handOut stable).run c.inner = (.ok (some frame), s)) :
    (pqPendingOutbound stable).run c.session =
      (.ok (some frame), { c.session with inner := s }) := by
  unfold pqPendingOutbound
  rw [Op.run_bind_ok (run_locked_gate hopen)]
  change (locked (handOut stable)).run c.session = _
  unfold locked
  rw [Op.run_ofResult]
  change (((handOut stable).run c.inner).1,
    { c.session with inner := ((handOut stable).run c.inner).2 }) = _
  rw [hrun]

theorem run_handOut_sealed (stable : Bool) {s : SessionInner M}
    {retained : RetainedFrame M} (slot : s.round.pendingSideBand = some retained)
    (lapsed : stable = true -> retained.sealedAt.isSome = true ->
      retained.sealedAt ≠ sideBandSealEpoch s retained.frame)
    (hseal : (sealSideBand retained.frame).run s = (.ok (), s)) :
    (handOut stable).run s =
      (.ok (some retained.frame),
        if stable && (sideBandSealEpoch s retained.frame).isSome then
          s.mapRound fun r =>
            { r with
              pendingSideBand :=
                some
                  { retained with sealedAt := sideBandSealEpoch s retained.frame } }
        else s) := by
  have hlapsed : ¬ (stable && retained.sealedAt.isSome &&
      retained.sealedAt == sideBandSealEpoch s retained.frame) = true := by
    intro hkept
    rw [Bool.and_eq_true, Bool.and_eq_true, beq_iff_eq] at hkept
    exact lapsed hkept.1.1 hkept.1.2 hkept.2
  have hattempt : (Op.attempt (sealSideBand retained.frame)).run s =
      (.ok (.ok ()), s) := by
    rw [Op.run_attempt, hseal]
  unfold handOut
  rw [Op.run_bind_ok (Op.run_state s), slot]
  dsimp only
  rw [if_neg hlapsed, Op.run_bind_ok hattempt]
  change Op.run (_ >>= _) s = _
  split
  · rfl
  · rfl

theorem handed_frame {c c' : Chunking M} {sealing : SideBandSealing} {seed : M.Seed}
    {blob : Bytes}
    (h : (pqPendingOutboundBytes sealing seed).run c = (.ok (some blob), c')) :
    exists frame, c.frame = some frame ∧
      (pqPendingOutbound (decide (sealing = .stable))).run c.session =
        (.ok (some frame), c'.session) := by
  have hanswer : ((pqPendingOutboundBytes sealing seed).run c).1 = .ok (some blob) := by
    rw [h]
  have hopen := ungated_of_handed hanswer
  have hparked : forall {retained : RetainedFrame M},
      c.inner.round.pendingSideBand = some retained -> c.frame = some retained.frame := by
    intro retained hslot
    change c.inner.round.pendingSideBand.map _ = _
    rw [hslot]
    rfl
  rcases pqPendingOutboundBytes_cases c sealing seed with ⟨r, c₂, hrun, hout⟩
  cases h.symm.trans hrun
  generalize hr : some blob = r at hout
  cases hout with
  | nothing => cases hr
  | kept stable slot epoch =>
      rename_i frame e
      have hkept : (handOut (decide (sealing = .stable))).run c.inner =
          (.ok (some frame), c.inner) := by
        unfold handOut
        rw [Op.run_bind_ok (Op.run_state c.inner), slot]
        simp [stable, epoch]
      exact ⟨frame, hparked slot, run_pqPendingOutbound hopen hkept⟩
  | afresh slot fresh made =>
      rename_i retained _
      have hsealed := run_handOut_sealed (decide (sealing = .stable)) slot
        (fun hstable hstamped hsame => by
          rw [fresh (of_decide_eq_true hstable)] at hsame
          rw [hsame] at hstamped
          cases hstamped)
        (run_sealSideBand made)
      rw [if_neg] at hsealed
      · exact ⟨_, hparked slot, run_pqPendingOutbound hopen hsealed⟩
      · intro hfill
        rw [Bool.and_eq_true] at hfill
        rw [fresh (of_decide_eq_true hfill.1)] at hfill
        cases hfill.2
  | filled stable slot epoch lapsed made =>
      have hsealed := run_handOut_sealed (decide (sealing = .stable)) slot
        (fun _ _ hsame => lapsed (hsame.trans epoch)) (run_sealSideBand made)
      rw [epoch, stable] at hsealed
      subst stable
      exact ⟨_, hparked slot, run_pqPendingOutbound hopen hsealed⟩

theorem run_mutateAndPersist_seal {β : Type} {kind : BlobKind} {x : ChunkOp M α}
    {y : SessionOp M β} {b : β} {a : α} {c c' : Chunking M}
    (hsame : forall c₀ a' c₁, (c₀ = c ∨ c₀ = { c with session := bumped c.session }) ->
      x.run c₀ = (.ok a', c₁) -> (locked y).run c₀.session = (.ok b, c₁.session))
    (h : (mutateAndPersistSeal kind x).run c = (.ok a, c')) :
    (mutateAndPersist kind y).run c.session = (.ok b, c'.session) := by
  unfold mutateAndPersistSeal at h
  unfold mutateAndPersist
  by_cases hcounter : c.session.inner.stateSeq < maxSeq
  · have hbumped : (onSession bumpSeq).run c =
        (.ok true, { c with session := bumped c.session }) := by
      rw [run_onSession, run_bumpSeq_lt hcounter]
    rw [Op.run_bind_ok (run_bumpSeq_lt hcounter), if_pos rfl, Op.run_bind, Op.run_attempt]
    rw [Op.run_bind_ok hbumped, if_pos rfl, Op.run_bind, Op.run_attempt] at h
    dsimp only at h
    rw [Op.run_bind, Op.run_attempt] at h
    rcases hx : x.run { c with session := bumped c.session } with ⟨r, c₁⟩
    rw [hx] at h
    dsimp only at h
    rw [run_onSession] at h
    cases r with
    | error error => cases h
    | ok a' =>
        have hy := hsame _ a' c₁ (Or.inr rfl) hx
        dsimp only at hy
        rw [hy]
        dsimp only
        rw [Op.run_bind, Op.run_attempt]
        dsimp only at h ⊢
        cases hencoded : ((encodeAndPush kind).run c₁.session).1 with
        | error error =>
            rw [hencoded] at h
            cases h
        | ok _ =>
            rw [hencoded] at h
            cases h
            rfl
  · have hspent : (onSession bumpSeq).run c = (.ok false, c) := by
      rw [run_onSession, run_bumpSeq_exhausted hcounter]
    rw [Op.run_bind_ok hspent] at h
    rw [Op.run_bind_ok (run_bumpSeq_exhausted hcounter)]
    exact hsame c a c' (Or.inl rfl) h

theorem run_bootstrapBeginBytes {c c' : Chunking M} {kp : Blob M} {seed : M.Seed}
    {blob : Bytes} (offered : c.inner.round.bootstrapKp = some kp)
    (h : (bootstrapBeginBytes seed).run c = (.ok blob, c')) :
    (locked bootstrapBeginInner).run c.session =
      (.ok { kind := .bootstrapKeyPackage, body := kp }, c'.session) := by
  have hkp : forall s : SessionInner M, (Op.ofOption (some kp) .sessionNotReady :
      SessionOp M (Blob M)).run s = (.ok kp, s) :=
    fun s => Op.run_ofOption_some kp _ s
  unfold bootstrapBeginBytes at h
  rw [Op.run_bind_ok (Op.run_state c), offered,
    Op.run_bind_ok (Op.run_ofOption_some kp _ c)] at h
  cases hmade : c.sealNow { kind := .bootstrapKeyPackage, body := kp } seed with
  | error error =>
      rw [hmade] at h
      cases h
  | ok made =>
      rw [hmade, Op.run_bind_ok (Op.run_ofExcept _ c)] at h
      have hinner : bootstrapBeginInner.run c.inner =
          (do
            registerBootstrapRound kp true
            pure { kind := .bootstrapKeyPackage, body := kp } :
              SessionOp M (SideBand M)).run c.inner := by
        unfold bootstrapBeginInner
        rw [Op.run_bind_ok (Op.run_state c.inner), offered, Op.run_bind_ok (hkp _),
          Op.run_bind_ok (run_sealSideBand hmade)]
      cases hfounding : keyPackageClientId kp with
      | error error =>
          rw [Op.run_bind, run_onSession] at h
          unfold registerBootstrapRound locked at h
          rw [hfounding] at h
          cases h
      | ok founding =>
          rcases registerBootstrapRound_ok kp (s := c.inner) hfounding with ⟨s', hrun, -⟩
          have hregistered : (locked (registerBootstrapRound kp true)).run c.session =
              (.ok (), { c.session with inner := s' }) := by
            unfold locked
            rw [Op.run_ofResult]
            change (((registerBootstrapRound kp true).run c.inner).1, { c.session with
              inner := ((registerBootstrapRound kp true).run c.inner).2 }) = _
            rw [hrun]
          rw [Op.run_bind, run_onSession, hregistered] at h
          cases h
          unfold locked
          rw [Op.run_ofResult]
          change ((bootstrapBeginInner.run c.inner).1,
            { c.session with inner := (bootstrapBeginInner.run c.inner).2 }) = _
          rw [hinner, Op.run_bind_ok hrun]
          rfl

theorem begun_frame {c c' : Chunking M} {rotating : Option Bytes} {seed : M.Seed}
    {blob : Bytes}
    (h : (pqBootstrapBeginBytes rotating seed).run c = (.ok blob, c')) :
    exists frame, (pqBootstrapBegin rotating).run c.session =
      (.ok frame, c'.session) := by
  have hlooked := run_onSession_still (still_bootstrapBeginGuard rotating) c
  have hlocked := run_locked_still (still_bootstrapBeginGuard rotating) c.session
  change _ = (((bootstrapBeginGuard rotating).run c.inner).1, c.session) at hlocked
  unfold pqBootstrapBeginBytes at h
  unfold pqBootstrapBegin
  cases hguard : ((bootstrapBeginGuard rotating).run c.inner).1 with
  | error error =>
      rw [hguard] at hlooked
      rw [Op.run_bind_error hlooked] at h
      cases h
  | ok retained =>
      rw [hguard] at hlooked hlocked
      rw [Op.run_bind_ok hlooked, Op.run_bind_ok (Op.run_state c)] at h
      rw [Op.run_bind_ok hlocked]
      cases retained with
      | some frame =>
          cases congrArg Prod.snd h
          exact ⟨frame, rfl⟩
      | none =>
          dsimp only at h ⊢
          have hoffered := ((bootstrapBeginGuard_cases hguard).2 rfl).2
          rcases Option.ne_none_iff_exists'.mp hoffered with ⟨kp, hkp⟩
          refine ⟨{ kind := .bootstrapKeyPackage, body := kp }, ?_⟩
          refine run_mutateAndPersist_seal (fun c₀ a' c₁ hc₀ hx => ?_) h
          apply run_bootstrapBeginBytes _ hx
          rcases hc₀ with rfl | rfl
          · exact hkp
          · exact hkp

theorem Kept.stays (L : Lawful M) {c c' : Chunking M} {frame : SideBand M} {e : Nat}
    {blob : Bytes} (h : Kept c frame e blob) (hupright : Upright c.inner.core)
    (hopen : ¬ Gated c.inner.core) (hstays : c.Stays c') (seed : M.Seed) :
    (pqPendingOutboundBytes .stable seed).run c' = (.ok (some blob), c') := by
  have hend := hstays.invariant
    (I := fun u => Kept u frame e blob ∧ Outlasts c.inner.core u.inner.core)
    (fun u a hu ha => ⟨hu.1.act L ha.1 ha.2, outlasts_act L a hu.2⟩)
    ⟨h, { upright := hupright, ungated := fun hstill => hstill }⟩
  exact hend.1.handed (hend.2.ungated hopen) seed

/-- In any session, opened and restored as often as its host pleases: once a stable
hand-out gave out bytes, or a begin registered its round with them, every stable hand-out
gives out these as long as the parked frame and its sealing epoch stay.  Its bytes are
a seal of that frame, made at that epoch.  A begin whose round is registered keeps
nothing of what it returns, and a peek shows in no archive. -/
theorem stable_hand_outs_agree (L : Lawful M) {s : SessionInner M}
    {t : TwoMlsPqSession M} {c : Chunking M} (born : Born s)
    (life : Run TwoMlsPqSession.live (fun _ _ => True) (TwoMlsPqSession.fresh s) t)
    (reached : (woken t).Goes c) :
    (forall seed blob c₁,
      (pqPendingOutboundBytes .stable seed).run c = (.ok (some blob), c₁) ->
        forall c', c₁.Stays c' ->
          forall seed', (pqPendingOutboundBytes .stable seed').run c' =
            (.ok (some blob), c')) ∧
    (forall rotating seed blob c₁,
      (pqBootstrapBeginBytes rotating seed).run c = (.ok blob, c₁) ->
        if c.inner.round.pqInflight = some .bootstrapInitiated then c₁ = c
        else
          forall c', c₁.Stays c' ->
            forall seed', (pqPendingOutboundBytes .stable seed').run c' =
              (.ok (some blob), c')) ∧
    (forall seed blob,
      ((pqPendingOutboundBytes .stable seed).run c).1 = .ok (some blob) ->
        exists frame e, c.frame = some frame ∧
          sideBandSealEpoch c.inner frame = some e ∧
            SealedOnTheWay (woken t) c frame e blob) ∧
    (forall sealing seed,
      SameArchive c (c.act (.pending sealing seed))) ∧
    forall seed, c.act (.pending .fresh seed) = c := by
  have hlife : Durable Upright t :=
    life.invariant (I := Durable Upright) (fun _ a h _ => Upright.live L a h)
      (Durable.fresh (Upright.born L born))
  have hwoken : Upright (woken t).inner.core := by
    change Upright (restamp none t.inner).core
    rw [core_restamp]
    exact hlife.now
  have hupright : Upright c.inner.core :=
    (reached.invariant (I := fun u => Outlasts (woken t).inner.core u.inner.core)
      (fun _ a h _ => outlasts_act L a h)
      { upright := hwoken, ungated := fun hstill => hstill }).upright
  have htraced : Traced (woken t) c :=
    reached.invariant (I := Traced (woken t)) (fun _ _ h ha => h.act L ha)
      (Traced.woken t)
  refine ⟨?_, ?_, ?_, ?_, ?_⟩
  · intro seed blob c₁ hrun c' hstays
    rcases pqPendingOutboundBytes_cases c .stable seed with ⟨r, c₂, hrun', hout⟩
    cases hrun.symm.trans hrun'
    have hanswer : ((pqPendingOutboundBytes .stable seed).run c).1 = .ok (some blob) := by
      rw [hrun]
    have hopen : ¬ Gated c.inner.core := ungated_of_handed hanswer
    rcases hout.keeps with ⟨frame, e, hkept⟩
    rw [← hout.core] at hupright hopen
    exact hkept.stays L hupright hopen hstays
  · intro rotating seed blob c₁ hrun
    have hbegun := pqBootstrapBeginBytes_cases L c rotating seed
    have hafter := outlasts_begin L c.inner.core rotating seed c
      { upright := hupright, ungated := fun hstill => hstill }
    rw [hrun] at hbegun hafter
    dsimp only at hbegun hafter
    split
    · next hlive =>
      generalize hr : (Except.ok blob : Result Bytes) = r at hbegun
      cases hbegun with
      | refused slot bytes => cases hr
      | resent live parked => rfl
      | registered idle offered made epoch kept entered answer => exact absurd hlive idle
    · next hidle =>
      generalize hr : (Except.ok blob : Result Bytes) = r at hbegun
      cases hbegun with
      | refused slot bytes => cases hr
      | resent live parked => exact absurd live hidle
      | registered idle offered made epoch kept entered answer =>
          intro c' hstays
          have hopen : ¬ Gated c.inner.core :=
            fun hgated => offered (hupright.unpackaged hgated.1)
          rw [← answer blob hr.symm] at kept
          exact kept.stays L hafter.upright (hafter.ungated hopen) hstays
  · intro seed blob hanswer
    rcases act_pending c .stable seed with ⟨r, hr, hout⟩
    cases hanswer.symm.trans hr
    exact htraced.handed hout
  · intro sealing seed
    rcases act_pending c sealing seed with ⟨r, -, hout⟩
    exact hout.sameArchive
  · intro seed
    rcases act_pending c .fresh seed with ⟨r, -, hout⟩
    exact hout.fresh

end

namespace ReferenceChunks

def session : TwoMlsPqSession Reference.mls :=
  (ReferencePair.world.play ReferencePair.greeting).session .left

set_option maxRecDepth 4000 in
theorem life :
    Run TwoMlsPqSession.live (fun _ _ => True)
      (TwoMlsPqSession.fresh ReferencePair.initiator) session :=
  World.run_live .left (World.run_played ReferencePair.world ReferencePair.greeting)

def begin (c : Chunking Reference.mls) (seed : Nat) :
    Result Bytes × Chunking Reference.mls :=
  (pqBootstrapBeginBytes (M := Reference.mls) none seed).run c

def begun : Chunking Reference.mls :=
  (woken session).act (.begin none (7 : Nat))

def answer (r : Result Bytes) : Bytes :=
  r.toOption.getD []

def first : Bytes :=
  answer (begin (woken session) 7).1

def second : Bytes :=
  answer (begin begun 8).1

def stable (c : Chunking Reference.mls) (seed : Nat) :
    Result (Option Bytes) × Chunking Reference.mls :=
  (pqPendingOutboundBytes (M := Reference.mls) .stable seed).run c

set_option maxRecDepth 4000 in
theorem begun_states :
    (woken session).inner.round.pqInflight ≠ some .bootstrapInitiated ∧
      (begin (woken session) 7).1 = .ok first ∧
      (begin begun 8).1 = .ok second ∧
      (stable (begin begun 8).2 9).1 = .ok (some first) ∧ second ≠ first ∧
      begun.inner.round.pqInflight = some .bootstrapInitiated := by
  decide +kernel

set_option maxRecDepth 4000 in
theorem begun_once : begin (woken session) 7 = (.ok first, begun) :=
  Prod.ext begun_states.2.1 rfl

set_option maxRecDepth 4000 in
theorem begun_reached : (woken session).Goes begun :=
  Run.refl.step True.intro

set_option maxRecDepth 4000 in
/-- Its first begin's bytes are handed out again and again, also behind a begin that
returned others. -/
theorem chunks_agree :
    stable begun 9 = (.ok (some first), begun) ∧
      (begin begun 8).2 = begun ∧
      SameArchive begun (begun.act (.pending .stable (9 : Nat))) ∧
      exists frame e, begun.frame = some frame ∧
        sideBandSealEpoch begun.inner frame = some e ∧
          SealedOnTheWay (woken session) begun frame e first := by
  have hborn : Born ReferencePair.initiator := ReferencePair.established.born.1
  have hbefore := stable_hand_outs_agree Reference.lawful hborn life Run.refl
  have hafter := stable_hand_outs_agree Reference.lawful hborn life begun_reached
  have hregistered := hbefore.2.1 none (7 : Nat) first begun begun_once
  rw [if_neg begun_states.1] at hregistered
  have hstable : stable begun 9 = (.ok (some first), begun) :=
    hregistered begun Run.refl (9 : Nat)
  have hresent := hafter.2.1 none (8 : Nat) second (begin begun 8).2
    (Prod.ext begun_states.2.2.1 rfl)
  rw [if_pos begun_states.2.2.2.2.2] at hresent
  refine ⟨hstable, hresent, hafter.2.2.2.1 .stable (9 : Nat), ?_⟩
  exact hafter.2.2.1 (9 : Nat) first (congrArg Prod.fst hstable)

set_option maxRecDepth 4000 in
/-- A stable hand-out need not give out what the last begin returned. -/
theorem last_begin_not_handed :
    ¬ forall {s : SessionInner Reference.mls} {t : TwoMlsPqSession Reference.mls}
      {c c' : Chunking Reference.mls} {rotating : Option Bytes}
      {seed seed' : Reference.mls.Seed} {blob blob' : Bytes},
        Born s ->
        Run TwoMlsPqSession.live (fun _ _ => True) (TwoMlsPqSession.fresh s) t ->
        (woken t).Goes c ->
        (pqBootstrapBeginBytes rotating seed).run c = (.ok blob, c') ->
        ((pqPendingOutboundBytes .stable seed').run c').1 = .ok (some blob') ->
          blob' = blob := by
  intro hclaim
  have hborn : Born ReferencePair.initiator := ReferencePair.established.born.1
  have hlast : begin begun 8 = (.ok second, (begin begun 8).2) :=
    Prod.ext begun_states.2.2.1 rfl
  have hsame := hclaim hborn life begun_reached hlast begun_states.2.2.2.1
  exact begun_states.2.2.2.2.1 hsame.symm

end ReferenceChunks

end Session
end TwoMlsPq
