import TwoMlsPq.Session.HalfSteps
import TwoMlsPq.Session.Persisting
import TwoMlsPq.Session.Wedge

/-!
# Custody of the bootstrap key package

An initiator commits to one key package before the peer has seen it, so the
session keeps the package until a round is registered around it and the private
half until the deferred post-quantum half is joined.  Neither is ever made
again.
-/

namespace TwoMlsPq
namespace Session

open Foundation Apq

section

variable {M : MlsRs}

def bootstrapKpCommitment (s : SessionInner M) : Option Bytes :=
  s.round.bootstrapKp.map Blob.sha256

/-!
## The invariant
-/

/-- What holds of a session that still seals toward the peer's key package. -/
structure Waiting (kp : Blob M) (c : Core M) : Prop where
  recv : c.half .recvClassical = none
  recvPq : c.half .recvPq = none
  round : c.inflight = none ∨ c.inflight = some .bootstrapInitiated
  parked : forall f, c.sideBand = some f -> f.body = kp

structure KeepsBootstrap (kp : Blob M) (secret : M.KeyPackageSecret)
    (c : Core M) : Prop where
  uncommitted : c.commitment = none
  offered : c.bootstrapKp = none ∨
    c.bootstrapKp = some kp ∧ c.bootstrapSecret = some secret
  kept : c.bootstrapSecret = some secret ∨
    c.bootstrapSecret = none ∧ c.half .recvPq ≠ none
  registered : c.inflight = some .bootstrapInitiated -> c.bootstrapKp = none
  carried : forall f, c.sideBand = some f -> f.kind = .bootstrapKeyPackage ->
    f.body = kp
  waiting : c.sealTarget ≠ none -> Waiting kp c

variable {kp : Blob M} {secret : M.KeyPackageSecret} {c c' : Core M} {e : Event M}

theorem Step.joinRecvPq_spent {w : Blob M} (hstep : Step (.joinRecvPq w) c c') :
    c'.half .recvPq ≠ none ∧ c'.bootstrapSecret = none := by
  cases hstep with
  | joinRecvPq missing live initiated parsed joined =>
      rename_i g
      have hheld : (c.setHalf .recvPq g).half .recvPq = some g :=
        Core.half_setHalf ..
      exact ⟨ne_none_of_held hheld, rfl⟩

namespace KeepsBootstrap

theorem halves (hc : KeepsBootstrap kp secret c)
    (hslots : c' = { c with half := c'.half })
    (hlive : c.half .recvPq ≠ none -> c'.half .recvPq ≠ none)
    (hrecv : c.half .recvClassical = none -> c'.half .recvClassical = none)
    (hrecvPq : c.half .recvPq = none -> c'.half .recvPq = none) :
    KeepsBootstrap kp secret c' := by
  rw [hslots]
  exact
    { uncommitted := hc.uncommitted
      offered := hc.offered
      kept := hc.kept.imp id fun h => ⟨h.1, hlive h.2⟩
      registered := hc.registered
      carried := hc.carried
      waiting := fun htarget =>
        { recv := hrecv (hc.waiting htarget).recv
          recvPq := hrecvPq (hc.waiting htarget).recvPq
          round := (hc.waiting htarget).round
          parked := (hc.waiting htarget).parked } }

theorem setHalf (hc : KeepsBootstrap kp secret c) {h : Half} {g g' : M.Group}
    (held : c.half h = some g) :
    KeepsBootstrap kp secret (c.setHalf h g') := by
  have hsame : forall {h' : Half}, c.half h' = none ->
      (c.setHalf h g').half h' = none := by
    intro h' hnone
    have hne : h' ≠ h := by
      rintro rfl
      rw [held] at hnone
      cases hnone
    rw [Core.half_setHalf_of_ne hne]
    exact hnone
  apply hc.halves rfl _ hsame hsame
  intro hlive
  by_cases hpq : Half.recvPq = h
  · rw [hpq, Core.half_setHalf]
    exact fun h => nomatch h
  · rw [Core.half_setHalf_of_ne hpq]
    exact hlive

theorem step (hc : KeepsBootstrap kp secret c) (hstep : Step e c c') :
    KeepsBootstrap kp secret c' := by
  cases hstep with
  | quiet hq =>
      apply hc.halves hq.2
      · exact (Step.quiet hq).half_ne_none
      · exact fun hnone => hq.half_none hnone
      · exact fun hnone => hq.half_none hnone
  | peerCommit held idle kind applied => exact hc.setHalf held
  | applyRekey held initiated applied => exact hc.setHalf held
  | ownCommit held discharged licensed handoff applied => exact hc.setHalf held
  | ownCommitPq held discharged handoff applied => exact hc.setHalf held
  | propose held introduces proposed => exact hc.setHalf held
  | joinRecv missing missingPq parsed joined joinedPq decoded =>
      refine { hc with kept := ?_, waiting := fun htarget => absurd rfl htarget }
      exact hc.kept.imp id fun h => absurd missingPq h.2
  | createSendPq missing created =>
      rename_i _ g
      have hother : forall {h' : Half}, h' ≠ .sendPq ->
          (c.setHalf .sendPq g).half h' = c.half h' :=
        fun hne => Core.half_setHalf_of_ne hne
      apply hc.halves rfl
      · rw [hother (by decide)]
        exact id
      · rw [hother (by decide)]
        exact id
      · rw [hother (by decide)]
        exact id
  | joinRecvPq missing live initiated parsed joined =>
      have hnone := hc.registered initiated
      have hspent := (Step.joinRecvPq missing live initiated parsed joined).joinRecvPq_spent
      exact
        { uncommitted := hc.uncommitted
          offered := Or.inl hnone
          kept := Or.inr ⟨rfl, hspent.1⟩
          registered := fun _ => hnone
          carried := hc.carried
          waiting := fun htarget => absurd (hc.waiting htarget).recv live }
  | openRound opened =>
      refine
        { hc with
          registered := fun h => absurd (Option.some.inj h) opened.round
          carried := ?_
          waiting := ?_ }
      · intro f hf hkind
        cases hf
        exact absurd hkind opened.kind
      · intro htarget
        rcases opened.live with hlive | hcommitted
        · exact absurd (hc.waiting htarget).recvPq hlive
        · exact absurd hc.uncommitted hcommitted
  | registerBootstrap registers =>
      rename_i kp'
      have hbody : kp' = kp := by
        rcases registers with ⟨hsome, hkp | ⟨htarget, _, f, hparked, hf⟩⟩
        · rcases hc.offered with hnone | ⟨hoffered, _⟩
          · exact absurd hnone hsome
          · exact Option.some.inj (hkp.symm.trans hoffered)
        · rw [← hf]
          exact (hc.waiting htarget).parked f hparked
      refine
        { hc with
          offered := Or.inl rfl
          registered := fun _ => rfl
          carried := ?_
          waiting := ?_ }
      · intro f hf _
        cases hf
        exact hbody
      · intro htarget
        refine
          { recv := (hc.waiting htarget).recv
            recvPq := (hc.waiting htarget).recvPq
            round := Or.inr rfl
            parked := ?_ }
        intro f hf
        cases hf
        exact hbody
  | respond idle live =>
      refine { hc with registered := nofun, waiting := ?_ }
      exact fun htarget => absurd (hc.waiting htarget).recvPq live
  | closeRound =>
      refine { hc with registered := nofun, waiting := ?_ }
      exact fun htarget => { hc.waiting htarget with round := Or.inl rfl }
  | parkLeg live =>
      -- a leg belongs to an A.4 round, and none is open while the session waits
      rename_i f
      have hkind : f.kind ≠ .bootstrapKeyPackage := by
        rcases live with ⟨_, _, hkind⟩ | ⟨_, _, _, hkind⟩
        · rw [hkind]
          decide
        · rw [hkind]
          decide
      refine { hc with carried := ?_, waiting := ?_ }
      · intro f' hf' hkind'
        cases hf'
        exact absurd hkind' hkind
      · intro htarget
        exfalso
        rcases (hc.waiting htarget).round with hidle | hround
        · rcases live with ⟨_, hopen, _⟩ | ⟨_, _, hopen, _⟩
          · rw [hidle] at hopen
            cases hopen
          · rw [hidle] at hopen
            cases hopen
        · rcases live with ⟨_, hopen, _⟩ | ⟨_, _, hopen, _⟩
          · rw [hround] at hopen
            cases hopen
          · rw [hround] at hopen
            cases hopen
  | clearSideBand =>
      refine { hc with carried := nofun, waiting := ?_ }
      exact fun htarget => { hc.waiting htarget with parked := nofun }
  | _ =>
      exact { hc with waiting := fun htarget => { hc.waiting htarget with } }

theorem stable : Stable (KeepsBootstrap (M := M) kp secret) :=
  fun _ _ hq hc => hc.step (Step.quiet hq)

theorem recovered (h : Recovered (fun _ => KeepsBootstrap kp secret) c) :
    KeepsBootstrap kp secret c := by
  cases h with
  | checkpoint h => exact h
  | spliced h h' sendPq recvPq =>
      rename_i c ck
      have hnone : ck.half .recvPq = none <-> c.half .recvPq = none := by
        unfold Core.epoch at recvPq
        rw [← Option.map_eq_none_iff (f := M.currentEpoch), ← recvPq,
          Option.map_eq_none_iff]
      apply h.halves rfl
      · exact fun hlive habsent => hlive (hnone.mp habsent)
      · exact id
      · exact hnone.mpr

theorem restored {r : Core M} (hc : KeepsBootstrap kp secret c) (hr : Restored c r) :
    KeepsBootstrap kp secret r := by
  have hnone : forall h, c.half h = none -> r.half h = none := by
    intro h hnone
    have hquiet := hr.1 h
    rw [hnone] at hquiet
    exact hquiet.none_left
  have hlive : c.half .recvPq ≠ none -> r.half .recvPq ≠ none := by
    intro hlive habsent
    have hquiet := (hr.1 .recvPq).symm
    rw [habsent] at hquiet
    exact hlive hquiet.none_left
  have hsame : KeepsBootstrap kp secret { c with half := r.half } :=
    hc.halves rfl hlive (hnone .recvClassical) (hnone .recvPq)
  rw [hr.2]
  exact { hsame with waiting := fun htarget => { hsame.waiting htarget with } }

theorem live (L : Lawful M) {t : TwoMlsPqSession M} {a : LifeAction M}
    (happroved : Durable Approved t) (h : Durable (KeepsBootstrap kp secret) t) :
    Durable (KeepsBootstrap kp secret) (t.live a) := by
  cases a with
  | reopen => exact h.reopened L stable fun _ _ hr hc => hc.restored hr
  | host a =>
      cases a with
      | call call =>
          exact h.advance (call_advances L call t happroved.now)
            fun _ _ _ _ hstep hc => hc.step hstep
      | restart =>
          exact h.restarted L (fun _ => recovered) fun _ _ hr hc => hc.restored hr

end KeepsBootstrap

theorem keepsBootstrap_initiated {client : TwoMlsPqPrincipal M} {s : SessionInner M}
    (h : Initiator client s.core) :
    exists kp secret,
      bootstrapKpCommitment s = some kp.sha256 ∧
        s.core.bootstrapSecret = some secret ∧ s.core.bootstrapKp = some kp ∧
          KeepsBootstrap kp secret s.core := by
  rcases Option.isSome_iff_exists.mp h.committed with ⟨kp, hkp⟩
  rcases h.secret with ⟨secret, hsecret, _⟩
  have hparked : forall f, s.core.sideBand = some f -> False := by
    intro f hf
    rw [h.unused.sideBand] at hf
    cases hf
  refine ⟨kp, secret, ?_, hsecret, hkp, ?_⟩
  · have hheld : s.round.bootstrapKp = some kp := hkp
    unfold bootstrapKpCommitment
    rw [hheld]
    rfl
  · exact
      { uncommitted := h.uncommitted
        offered := Or.inr ⟨hkp, hsecret⟩
        kept := Or.inl hsecret
        registered := fun hround => by
          rw [h.unused.inflight] at hround
          cases hround
        carried := fun f hf => (hparked f hf).elim
        waiting := fun _ =>
          { recv := h.recv
            recvPq := h.recvPq
            round := Or.inl h.unused.inflight
            parked := fun f hf => (hparked f hf).elim } }

/-!
## What one call does
-/

theorem path_secret {c₀ c : Core M} {call : Call M}
    (hpath : Path (call.events c₀) c₀ c) :
    c.bootstrapSecret = c₀.bootstrapSecret ∨
      (exists frame seed, call = .pqBootstrapBind frame seed) ∧
        c₀.half .recvPq = none ∧ c.half .recvPq ≠ none ∧
          c.bootstrapSecret = none := by
  have hkeeps := hpath.invariant (I := fun c =>
    (c₀.half .recvPq ≠ none -> c.half .recvPq ≠ none) ∧
      (c.bootstrapSecret = c₀.bootstrapSecret ∨
        (exists frame seed, call = .pqBootstrapBind frame seed) ∧
          c₀.half .recvPq = none ∧ c.half .recvPq ≠ none ∧
            c.bootstrapSecret = none)) ?_ ⟨id, Or.inl rfl⟩
  · exact hkeeps.2
  intro e c c' he hstep ⟨hlive, hsecret⟩
  have hlive' : c.half .recvPq ≠ none -> c'.half .recvPq ≠ none :=
    hstep.half_ne_none
  refine ⟨fun h => hlive' (hlive h), ?_⟩
  cases hstep with
  | joinRecvPq missing live initiated parsed joined =>
      have hspent := (Step.joinRecvPq missing live initiated parsed joined).joinRecvPq_spent
      refine Or.inr ⟨joinRecvPq_bind he, ?_, hspent⟩
      exact not_not.mp fun h => hlive h missing
  | quiet hq =>
      have hsame : c'.bootstrapSecret = c.bootstrapSecret := by rw [hq.2]
      rw [hsame]
      exact hsecret.imp id fun h => ⟨h.1, h.2.1, hlive' h.2.2.1, h.2.2.2⟩
  | _ => exact hsecret.imp id fun h => ⟨h.1, h.2.1, hlive' h.2.2.1, h.2.2.2⟩

theorem path_bind_secret {c₀ c : Core M} (hmissing : c₀.half .recvPq = none)
    (hpath : Path bootstrapBindEvents c₀ c) (hjoined : c.half .recvPq ≠ none) :
    c.bootstrapSecret = none := by
  have hspent := hpath.invariant (I := fun c =>
    c.half .recvPq = none ∨ c.bootstrapSecret = none) ?_ (Or.inl hmissing)
  · exact hspent.resolve_left hjoined
  intro e c c' he hstep hc
  rcases hc with hnone | hspent
  · rcases hstep.half_cases .recvPq with hquiet | ⟨g', _, hhalf⟩
    · rw [hnone] at hquiet
      exact Or.inl hquiet.none_left
    · cases hhalf with
      | peerCommit held _ _ _ =>
          rw [hnone] at held
          cases held
      | applyRekey held _ _ =>
          rw [hnone] at held
          cases held
      | propose held _ _ =>
          rw [hnone] at held
          cases held
      | ownCommit send _ _ _ _ => rcases send with h | h <;> cases h
      | joinRecv _ _ _ => exact he.elim
      | joinRecvPq _ _ _ => exact Or.inr hstep.joinRecvPq_spent.2
  · cases hstep with
    | joinRecvPq missing live initiated parsed joined => exact Or.inr rfl
    | quiet hq =>
        refine Or.inr ?_
        rw [hq.2]
        exact hspent
    | _ => exact Or.inr hspent

/-- The bootstrap round is open around the package. -/
structure RoundOpened (c : Core M) : Prop where
  consumed : c.bootstrapKp = none
  round : c.inflight = some .bootstrapInitiated
  parked : exists f, c.sideBand = some f ∧ f.kind = .bootstrapKeyPackage

theorem path_register {c₀ c : Core M} {call : Call M}
    (hpath : Path (call.events c₀) c₀ c) :
    c.bootstrapKp = c₀.bootstrapKp ∧
        (c.inflight = some .bootstrapInitiated ->
          c₀.inflight = some .bootstrapInitiated) ∨
      call.OpensBootstrap ∧ c₀.bootstrapKp ≠ none ∧ RoundOpened c := by
  refine hpath.invariant (I := fun c =>
    c.bootstrapKp = c₀.bootstrapKp ∧
        (c.inflight = some .bootstrapInitiated ->
          c₀.inflight = some .bootstrapInitiated) ∨
      call.OpensBootstrap ∧ c₀.bootstrapKp ≠ none ∧ RoundOpened c) ?_
    (Or.inl ⟨rfl, id⟩)
  intro e c c' he hstep hc
  rcases hc with ⟨hsame, hround⟩ | ⟨hopens, hsome, hopened⟩
  · cases hstep with
    | registerBootstrap registers =>
        refine Or.inr ⟨registerBootstrap_opens he, ?_, rfl, rfl, _, rfl, rfl⟩
        rw [← hsame]
        exact registers.1
    | quiet hq =>
        refine Or.inl ?_
        rw [hq.2]
        exact ⟨hsame, hround⟩
    | openRound opened =>
        exact Or.inl ⟨hsame, fun h => absurd (Option.some.inj h) opened.round⟩
    | respond idle live => exact Or.inl ⟨hsame, nofun⟩
    | closeRound => exact Or.inl ⟨hsame, nofun⟩
    | _ => exact Or.inl ⟨hsame, hround⟩
  · have hevent := hopens.events he
    refine Or.inr ⟨hopens, hsome, ?_⟩
    cases hstep with
    | quiet hq =>
        rw [hq.2]
        exact { hopened with }
    | authMeta same => exact { hopened with }
    | registerBootstrap registers => exact absurd hopened.consumed registers.1
    | _ => exact hevent.elim

/-!
## The doors that open the round
-/

theorem still_bootstrapBeginGuard (rotating : Option Bytes) :
    Op.Still (bootstrapBeginGuard (M := M) rotating) := by
  unfold bootstrapBeginGuard
  refine Op.Still.bind Op.Still.state fun s => ?_
  refine Op.Still.bind (Op.Still.ensure _ _) fun _ => ?_
  refine Op.Still.bind (Op.Still.ensure _ _) fun _ => ?_
  refine Op.Still.bind (Op.Still.ensure _ _) fun _ => ?_
  split
  · refine Op.Still.bind (Op.Still.ofOption _ _) fun retained => ?_
    exact Op.Still.bind (still_sealSideBand _) fun _ => Op.Still.value _
  · exact Op.Still.bind (Op.Still.ensure _ _) fun _ => Op.Still.value _

theorem still_bootstrapEnvelopeGuard (seed : M.Seed) :
    Op.Still (bootstrapEnvelopeGuard seed) := by
  unfold bootstrapEnvelopeGuard
  refine Op.Still.bind Op.Still.state fun s => ?_
  refine Op.Still.bind (Op.Still.ofOption _ _) fun theirKp => ?_
  split
  · refine Op.Still.bind (Op.Still.ofOption _ _) fun retained => ?_
    exact Op.Still.bind (Op.Still.ofExcept _) fun _ => Op.Still.value _
  · exact Op.Still.bind (Op.Still.ensure _ _) fun _ => Op.Still.value _
  · exact Op.Still.fail _

theorem bootstrapBeginGuard_held {s : SessionInner M} {rotating : Option Bytes}
    (h : ((bootstrapBeginGuard rotating).run s).1 = .ok none) :
    s.core.bootstrapKp ≠ none := by
  have hvia : Via quietEvents (fun c => c = s.core) (bootstrapBeginGuard rotating)
      _ := via_bootstrapBeginGuard
  have hguard := hvia s rfl
  exact (hguard.2 none h).2.1 rfl

theorem bootstrapEnvelopeGuard_held {s : SessionInner M} {seed : M.Seed}
    (h : ((bootstrapEnvelopeGuard seed).run s).1 = .ok none) :
    s.core.bootstrapKp ≠ none := by
  have hvia : Via quietEvents (fun c => c = s.core) (bootstrapEnvelopeGuard seed)
      _ := via_bootstrapEnvelopeGuard
  have hguard := hvia s rfl
  exact (hguard.2 none h).2.1 rfl

theorem run_opening {guard : SessionOp M (Option (SideBand M))}
    (inner : SessionOp M (SideBand M)) (frames : SideBand M -> List (Frame M))
    (hstill : Op.Still guard) (t : TwoMlsPqSession M) :
    ((handing (do
        let retained <- locked guard
        match retained with
        | some frame => pure frame
        | none => mutateAndPersist .checkpoint inner) frames).run t).2 = t ∨
      (guard.run t.inner).1 = .ok none := by
  have hguard := hstill t.inner
  have hlocked : (locked guard).run t = ((guard.run t.inner).1, t) := by
    unfold locked
    rw [Op.run_ofResult, hguard]
  unfold handing
  rw [Op.run_bind_still fun _ => Op.Still.value _, Op.run_bind, hlocked]
  cases hresult : (guard.run t.inner).1 with
  | error e => exact Or.inl rfl
  | ok retained =>
      cases retained with
      | some frame => exact Or.inl rfl
      | none => exact Or.inr rfl

theorem run_opens {call : Call M} (hopens : call.OpensBootstrap)
    (t : TwoMlsPqSession M) :
    (call.run.run t).2 = t ∨
      t.inner.core.bootstrapKp ≠ none := by
  cases call with
  | pqBootstrapBegin rotating =>
      rcases run_opening bootstrapBeginInner (fun f => [.sideBand f])
        (still_bootstrapBeginGuard rotating) t with hsame | hnone
      · exact Or.inl hsame
      · exact Or.inr (bootstrapBeginGuard_held hnone)
  | pqBootstrapEnvelope seed =>
      rcases run_opening (bootstrapEnvelopeInner seed) (fun f => [.sideBand f])
        (still_bootstrapEnvelopeGuard seed) t with hsame | hnone
      · exact Or.inl hsame
      · exact Or.inr (bootstrapEnvelopeGuard_held hnone)
  | _ => exact hopens.elim

/-!
## After the registration
-/

structure Spent (c : Core M) : Prop where
  consumed : c.bootstrapKp = none
  approved : Approved c

namespace Spent

theorem step (hc : Spent c) (hstep : Step e c c') : Spent c' := by
  refine { consumed := ?_, approved := approved_step hstep hc.approved }
  cases hstep with
  | quiet hq =>
      rw [hq.2]
      exact hc.consumed
  | registerBootstrap registers => exact absurd hc.consumed registers.1
  | _ => exact hc.consumed

theorem stable : Stable (Spent (M := M)) :=
  fun _ _ hq hc => hc.step (Step.quiet hq)

theorem recovered (h : Recovered (fun _ => Spent) c) : Spent c := by
  cases h with
  | checkpoint h => exact h
  | spliced h h' => exact { consumed := h.consumed, approved := h.approved }

theorem restored {r : Core M} (hc : Spent c) (hr : Restored c r) : Spent r := by
  refine { consumed := ?_, approved := approved_restored hr hc.approved }
  rw [hr.2]
  exact hc.consumed

theorem live (L : Lawful M) {t : TwoMlsPqSession M} {a : LifeAction M}
    (h : Durable Spent t) :
    Durable Spent (t.live a) := by
  cases a with
  | reopen => exact h.reopened L stable fun _ _ hr hc => hc.restored hr
  | host a =>
      cases a with
      | call call =>
          exact h.advance (call_advances L call t h.now.approved)
            fun _ _ _ _ hstep hc => hc.step hstep
      | restart =>
          exact h.restarted L (fun _ => recovered) fun _ _ hr hc => hc.restored hr

end Spent

theorem spent_since (L : Lawful M) {call : Call M} {t : TwoMlsPqSession M}
    (happroved : Durable Approved t)
    (hspent : (call.run.run t).2.inner.core.bootstrapKp = none) :
    Durable Spent ((call.run.run t).2.since t) := by
  have hafter : Durable Approved (call.run.run t).2 :=
    approved_host L (a := .call call) happroved
  exact Durable.since L (a := .host (.call call)) Spent.stable
    { consumed := hspent, approved := hafter.now }

end

/-!
## The custody of a run
-/

section

variable {M : MlsRs}

/-- What a session `t` owes to the package and the secret that the session `s`
was opened with. -/
structure BootstrapCustody (s : SessionInner M) (t : TwoMlsPqSession M)
    (kp : Blob M) (secret : M.KeyPackageSecret) : Prop where
  reported : bootstrapKpCommitment s = some kp.sha256
  minted : s.round.bootstrapKpSecret = some secret
  paired : t.inner.round.bootstrapKp ≠ none ->
    t.inner.round.bootstrapKpSecret = some secret
  kept : t.inner.round.bootstrapKpSecret = some secret ∨
    t.inner.round.bootstrapKpSecret = none ∧ t.inner.half .recvPq ≠ none
  emitted : forall (call : Call M) frames leg,
    (call.run.run t).1 = .ok frames -> .sideBand leg ∈ frames ->
      leg.kind = .bootstrapKeyPackage ->
        bootstrapKpCommitment s = some leg.body.sha256
  -- the secret goes with the bind that installs the half, and only then
  dropped : forall call : Call M,
    (call.run.run t).2.inner.round.bootstrapKpSecret =
        t.inner.round.bootstrapKpSecret ∨
      (exists frame seed, call = .pqBootstrapBind frame seed) ∧
        t.inner.half .recvPq = none ∧
          (call.run.run t).2.inner.half .recvPq ≠ none ∧
            (call.run.run t).2.inner.round.bootstrapKpSecret = none
  installed : forall frame seed, t.inner.half .recvPq = none ->
    ((Call.pqBootstrapBind frame seed).run.run t).2.inner.half .recvPq ≠ none ->
      ((Call.pqBootstrapBind frame seed).run.run t).2.inner.round.bootstrapKpSecret =
        none
  -- opening the round spends the package
  opened : forall call : Call M,
    t.inner.round.pqInflight ≠ some .bootstrapInitiated ->
      (call.run.run t).2.inner.round.pqInflight = some .bootstrapInitiated ->
        call.OpensBootstrap ∧ t.inner.round.bootstrapKp ≠ none ∧
          (call.run.run t).2.inner.round.bootstrapKp = none
  -- and a spent package opens no round again
  once : forall call : Call M, call.OpensBootstrap ->
    t.inner.round.bootstrapKp ≠ none ->
      (call.run.run t).2.inner.round.bootstrapKp = none ->
        forall t', Run TwoMlsPqSession.live (fun _ _ => True)
            ((call.run.run t).2.since t) t' ->
          t'.inner.round.bootstrapKp = none ∧
            forall again : Call M, again.OpensBootstrap -> (again.run.run t').2 = t'

/-- An initiator keeps the key package it committed to and its private half: the
package until one round is registered around it, the secret until a bind has
installed the deferred half. -/
theorem bootstrap_key_package_custody (L : Lawful M) {client : TwoMlsPqPrincipal M}
    {services : Services} {theirKp : CombinerKeyPackage M}
    {appBinding : Option Bytes} {rnd : Nat -> M.Seed} {s : SessionInner M}
    (initiated : initiate client services theirKp appBinding rnd = .ok s)
    {t : TwoMlsPqSession M}
    (run : Run TwoMlsPqSession.live (fun _ _ => True) (TwoMlsPqSession.fresh s) t) :
    exists kp secret, BootstrapCustody s t kp secret := by
  have hborn := initiate_born L initiated
  rcases keepsBootstrap_initiated hborn with
    ⟨kp, secret, hreported, hminted, hheld, hkeeps⟩
  have hrun : Durable Approved t ∧ Durable (KeepsBootstrap kp secret) t := by
    refine run.invariant
      (I := fun t => Durable Approved t ∧ Durable (KeepsBootstrap kp secret) t) ?_ ?_
    · exact fun _ _ h _ => ⟨approved_live L h.1, KeepsBootstrap.live L h.1 h.2⟩
    · exact ⟨Durable.fresh (approved_unused hborn.unused), Durable.fresh hkeeps⟩
  have hnow := hrun.2.now
  have hpath : forall call : Call M,
      Path (call.events t.inner.core) t.inner.core (call.run.run t).2.inner.core :=
    fun call => call_goes L call t hrun.1.now
  refine ⟨kp, secret, ?_⟩
  exact
    { reported := hreported
      minted := hminted
      paired := fun hsome => by
        rcases hnow.offered with hnone | ⟨_, hsecret⟩
        · exact absurd hnone hsome
        · exact hsecret
      kept := hnow.kept
      emitted := fun call frames leg hok hmem hkind => by
        have hbody : leg.body = kp := by
          rcases (call_emits L hok hmem).sideBand_inv with hparked | ⟨_, hpackage⟩
          · exact hnow.carried leg hparked hkind
          · rcases hnow.offered with hnone | ⟨hoffered, _⟩
            · rw [hnone] at hpackage
              cases hpackage
            · exact Option.some.inj (hpackage.symm.trans hoffered)
        rw [hbody]
        exact hreported
      dropped := fun call => path_secret (hpath call)
      installed := fun frame seed hmissing hjoined =>
        path_bind_secret hmissing (hpath (.pqBootstrapBind frame seed)) hjoined
      opened := fun call hidle hround => by
        rcases path_register (hpath call) with ⟨_, hback⟩ | ⟨hopens, hsome, hopened⟩
        · exact absurd (hback hround) hidle
        · exact ⟨hopens, hsome, hopened.consumed⟩
      once := fun call hopens hsome hspent t' later => by
        have hlater : Durable Spent t' :=
          later.invariant (I := Durable Spent) (fun _ _ h _ => Spent.live L h)
            (spent_since L hrun.1 hspent)
        refine ⟨hlater.now.consumed, ?_⟩
        intro again hagain
        rcases run_opens hagain t' with hsame | hheld'
        · exact hsame
        · exact absurd hlater.now.consumed hheld' }

end

/-!
## On the reference pair
-/

/-- The initiator after the bind that failed past its point of no return. -/
theorem torn_initiator_custody :
    exists kp secret,
      BootstrapCustody ReferencePair.initiator
        (ReferencePair.untornSession.live ReferencePair.tearing) kp secret :=
  bootstrap_key_package_custody Reference.lawful
    (ReferencePair.eq_ok_of_isSome ReferencePair.initiation_isSome)
    ReferencePair.torn_run

namespace ReferencePair

/-- The peer opens a session of its own toward the initiator's key package. -/
def crossing : Result (SessionInner Reference.mls) :=
  initiate acceptorClient (services [0xB0]) (keyPackage initiatorClient 10) none
    (rnd 5000)

theorem crossWelcome_isSome :
    (crossing.toOption.bind stapledWelcome).isSome = true := by
  decide +kernel

def crossWelcome : WelcomeBytes Reference.mls :=
  (crossing.toOption.bind stapledWelcome).get crossWelcome_isSome

def crossedSession : TwoMlsPqSession Reference.mls :=
  (TwoMlsPqSession.fresh initiator).live
    (.host (.call (.processIncoming (.welcome crossWelcome) none)))

theorem crossed_run :
    Run TwoMlsPqSession.live (fun _ _ => True) (TwoMlsPqSession.fresh initiator)
      crossedSession := by
  unfold crossedSession
  exact Run.step Run.refl True.intro

end ReferencePair

/-- The session was opened with `initiate`. -/
def Initiated (s : SessionInner Reference.mls) : Prop :=
  exists client services theirKp appBinding rnd,
    initiate client services theirKp appBinding rnd = .ok s

theorem ReferencePair.initiator_initiated : Initiated ReferencePair.initiator :=
  ⟨_, _, _, _, _, ReferencePair.eq_ok_of_isSome ReferencePair.initiation_isSome⟩

/-- A return welcome of both halves installs the post-quantum half and leaves the
secret; a bind that fails past its point of no return has dropped it. -/
theorem secret_outlives_welcome_not_failed_bind :
    (¬ forall (s : SessionInner Reference.mls) (t : TwoMlsPqSession Reference.mls),
      Initiated s ->
        Run TwoMlsPqSession.live (fun _ _ => True) (TwoMlsPqSession.fresh s) t ->
          (t.inner.round.bootstrapKpSecret = none <->
            (t.inner.half .recvPq).isSome = true)) ∧
      ¬ forall (s : SessionInner Reference.mls) (t : TwoMlsPqSession Reference.mls)
          (frame : Frame Reference.mls) (seed : Nat),
        Initiated s ->
          Run TwoMlsPqSession.live (fun _ _ => True) (TwoMlsPqSession.fresh s) t ->
          (refusal ((Call.pqBootstrapBind frame seed).run.run t)).isSome = true ->
            ((Call.pqBootstrapBind frame seed).run.run
                t).2.inner.round.bootstrapKpSecret =
              t.inner.round.bootstrapKpSecret := by
  constructor
  · intro hall
    have hcrossed := hall _ _ ReferencePair.initiator_initiated ReferencePair.crossed_run
    have hjoined : (ReferencePair.crossedSession.inner.half .recvPq).isSome = true := by
      decide +kernel
    have hheld :
        ReferencePair.crossedSession.inner.round.bootstrapKpSecret.isSome = true := by
      decide +kernel
    rw [hcrossed.mpr hjoined] at hheld
    cases hheld
  · intro hall
    have htorn := hall _ _ ReferencePair.tornAnswer (0 : Nat)
      ReferencePair.initiator_initiated ReferencePair.untorn_run (by decide +kernel)
    have hheld :
        ReferencePair.untornSession.inner.round.bootstrapKpSecret.isSome = true := by
      decide +kernel
    have hdropped : ((Call.pqBootstrapBind ReferencePair.tornAnswer (0 : Nat)).run.run
        ReferencePair.untornSession).2.inner.round.bootstrapKpSecret.isSome =
          false := by
      decide +kernel
    rw [htorn, hheld] at hdropped
    cases hdropped

end Session
end TwoMlsPq
