import TwoMlsPq.Foundation.Triple
import TwoMlsPq.Session.Honest
import TwoMlsPq.Session.Persisting

/-!
# The wedge latch

A bind that fails past its point of no return leaves torn state behind, and the
session says so from then on: the latch is never taken back, neither by a call
nor by an archive that is opened again.  The three doors that bind test the
latch behind their own guards; the other doors do not test it.
-/

namespace TwoMlsPq
namespace Session

open Foundation Apq

section

variable {M : MlsRs}

/-!
## A session over its whole life
-/

namespace TwoMlsPqSession

/-- `archive` followed by `from_archive`: the session is encoded whole, and what
was decoded takes its place, without a sink. -/
def reopened (t : TwoMlsPqSession M) : TwoMlsPqSession M :=
  match (encodeBlob .checkpoint).run t.inner with
  | (.error _, s) => { t with inner := s }
  | (.ok archive, s) =>
      match sessionFromWire archive with
      | .ok s' => { t with inner := s', sinkInstalled := false }
      | .error _ => { t with inner := s }

/-- The session with the blobs pushed since an earlier state to restart from. -/
def since (t earlier : TwoMlsPqSession M) : TwoMlsPqSession M :=
  { t with pushed := t.pushed.drop earlier.pushed.length }

@[simp]
theorem inner_since (t earlier : TwoMlsPqSession M) : (t.since earlier).inner = t.inner :=
  rfl

end TwoMlsPqSession

inductive LifeAction (M : MlsRs) where
  | host (a : HostAction M)
  | reopen

def TwoMlsPqSession.live (t : TwoMlsPqSession M) :
    LifeAction M -> TwoMlsPqSession M
  | .host a => t.host a
  | .reopen => t.reopened

theorem World.run_live {admits : World M -> Action M -> Prop} {w w' : World M}
    (side : Side) (run : Run World.act admits w w') :
    Run TwoMlsPqSession.live (fun _ _ => True) (w.session side) (w'.session side) := by
  have hhosted : Run TwoMlsPqSession.host (fun _ _ => True) (w.session side)
      (w'.session side) :=
    World.run_host side (fun _ _ _ => True.intro) (fun _ _ => True.intro) run
  exact hhosted.map LifeAction.host (fun _ _ => rfl) fun _ _ ha => ha

theorem World.run_played (w : World M) (script : List (Move M)) :
    Run World.act (fun _ _ => True) w (w.play script) :=
  World.run_play fun _ _ _ _ _ => True.intro

theorem triple_latched {P : SessionInner M -> Prop} {round : PqWedge}
    {x : SessionOp M Unit} {Q : SessionInner M -> Prop}
    (hx : Op.Triple P x (fun _ => Q) fun _ _ => True) :
    Op.Triple P (pastNoReturn round x) (fun _ => Q)
      fun e s => e = .bindTriggerFailed ∧ s.round.pqWedged.isSome = true := by
  unfold pastNoReturn
  refine Op.Triple.bind hx.attempt fun r => ?_
  cases r with
  | ok _ => exact Op.Triple.value fun _ hs => hs
  | error e =>
      refine Op.Triple.bind (Q := fun _ s => s.round.pqWedged.isSome = true) ?_
        fun _ => ?_
      · apply Op.Triple.update
        intro _ _
        rfl
      · apply Op.Triple.fail
        intro s hs
        exact ⟨rfl, hs⟩

/-!
## The latch stays
-/

/-- A wedged session that keeps only approved proposals. -/
structure Wedged (c : Core M) : Prop where
  latched : c.wedged.isSome = true
  approved : Approved c

theorem Wedged.step {e : Event M} {c c' : Core M} (h : Wedged c)
    (hstep : Step e c c') :
    Wedged c' := by
  refine { latched := ?_, approved := approved_step hstep h.approved }
  cases hstep with
  | quiet hq =>
      rw [hq.2]
      exact h.latched
  | wedge => rfl
  | _ => exact h.latched

theorem Wedged.recovered {c : Core M} (h : Recovered (fun _ => Wedged) c) :
    Wedged c := by
  cases h with
  | checkpoint h => exact h
  | spliced h h' => exact { latched := h.latched, approved := h.approved }

theorem Wedged.restored {c r : Core M} (h : Wedged c) (hr : Restored c r) :
    Wedged r := by
  refine { latched := ?_, approved := approved_restored hr h.approved }
  rw [hr.2]
  exact h.latched

theorem Durable.reopened (L : Lawful M) {I : Core M -> Prop}
    {t : TwoMlsPqSession M} (h : Durable I t) (hquiet : Stable I)
    (hrestored : forall c r, Restored c r -> I c -> I r) :
    Durable I t.reopened := by
  have hvia := via_encodeBlob L (A := quietEvents) True.intro hquiet .checkpoint
  have hpath := hvia.goes h.now
  have hafter : I ((encodeBlob .checkpoint).run t.inner).2.core := by
    refine hpath.invariant (I := I) ?_ h.now
    intro e c c' he hstep hc
    cases hstep with
    | quiet hq => exact hquiet c c' hq hc
    | _ => exact he.elim
  unfold TwoMlsPqSession.reopened
  rcases hrun : (encodeBlob .checkpoint).run t.inner with ⟨r, s⟩
  rw [hrun] at hafter
  cases r with
  | error e => exact { now := hafter, pushed := h.pushed }
  | ok archive =>
      have harchived := hvia.result h.now (a := archive) (by rw [hrun])
      rw [hrun] at harchived
      dsimp only
      split
      next s' hload =>
        have hr := sessionFromWire_restored L harchived.1 hload
        exact { now := hrestored _ _ hr harchived.2, pushed := h.pushed }
      next => exact { now := hafter, pushed := h.pushed }

theorem TwoMlsPqSession.pushed_restarted (t : TwoMlsPqSession M) :
    t.restarted.pushed = t.pushed := by
  unfold TwoMlsPqSession.restarted
  split
  · rfl
  · rfl

theorem TwoMlsPqSession.pushed_reopened (t : TwoMlsPqSession M) :
    t.reopened.pushed = t.pushed := by
  unfold TwoMlsPqSession.reopened
  split
  · rfl
  · split
    · rfl
    · rfl

/-- What holds where an action ends holds of every blob the action itself pushed. -/
theorem Durable.since (L : Lawful M) {I : Core M -> Prop} {t : TwoMlsPqSession M}
    {a : LifeAction M} (hquiet : Stable I)
    (hnow : I (t.live a).inner.core) :
    Durable I ((t.live a).since t) := by
  have hsame : forall {u : TwoMlsPqSession M}, u.pushed = t.pushed -> I u.inner.core ->
      Durable I (u.since t) := by
    intro u hpushed hu
    refine { now := hu, pushed := ?_ }
    unfold TwoMlsPqSession.since
    rw [hpushed, List.drop_length]
    exact Pictured.nil
  cases a with
  | reopen => exact hsame t.pushed_reopened hnow
  | host a =>
      cases a with
      | restart => exact hsame t.pushed_restarted hnow
      | call call =>
          rcases (call_pushesLast call).pushes L hquiet hnow with ⟨new, hpushed, hnew⟩
          refine { now := hnow, pushed := ?_ }
          unfold TwoMlsPqSession.since
          change Pictured _ ((call.run.run t).2.pushed.drop _)
          rw [hpushed, List.drop_left]
          exact hnew

theorem Approved.stable : Stable (Approved (M := M)) :=
  fun _ _ hq hc => approved_step (Step.quiet hq) hc

theorem Wedged.stable : Stable (Wedged (M := M)) :=
  fun _ _ hq hc => hc.step (Step.quiet hq)

theorem approved_live (L : Lawful M) {t : TwoMlsPqSession M} {a : LifeAction M}
    (h : Durable Approved t) :
    Durable Approved (t.live a) := by
  cases a with
  | host a => exact approved_host L h
  | reopen => exact h.reopened L Approved.stable fun _ _ => approved_restored

theorem wedged_live (L : Lawful M) {t : TwoMlsPqSession M} {a : LifeAction M}
    (h : Durable Wedged t) :
    Durable Wedged (t.live a) := by
  cases a with
  | reopen => exact h.reopened L Wedged.stable fun _ _ hr hc => hc.restored hr
  | host a =>
      cases a with
      | call call =>
          exact h.advance (call_advances L call t h.now.approved)
            fun _ _ _ _ hstep hc => hc.step hstep
      | restart =>
          exact h.restarted L (fun _ => Wedged.recovered)
            fun _ _ hr hc => hc.restored hr

/-!
## The doors that test the latch
-/

/-- The call is one of the three binds, and every check its door makes before
the latch passes. -/
def Call.ReachesLatch (s : SessionInner M) : Call M -> Prop
  | .pqRatchetBind frame _ =>
      exists leg recv carrier,
        sideBandMessage .ratchetCiphertext frame = .ok leg ∧
          s.half .recvClassical = some recv ∧
          ctCarrier s recv leg = .ok carrier ∧
          (carrier = .pq ∨
            belowFloor (M.currentEpoch recv) (M.messageEpoch leg) = false) ∧
          s.msg.pendingProposalHash = none ∧ s.round.owedBind.isNone = true ∧
          sendPqCommitBlocked s = false
  | .pqRekeyApply frame _ =>
      (exists commit, sideBandBody .rekeyCommit frame = .ok commit) ∧
        s.msg.pendingProposalHash = none ∧ s.round.owedBind.isNone = true ∧
        sendPqCommitBlocked s = false
  | .pqBootstrapBind frame _ =>
      exists welcome, sideBandBody .bootstrapWelcome frame = .ok welcome ∧
        checkWelcomeSuite welcome s.suite.pq = .ok ()
  | _ => False

theorem checkNotWedged_latched {s : SessionInner M}
    (h : s.round.pqWedged.isSome = true) :
    checkNotWedged s = .error .bindTriggerFailed := by
  unfold checkNotWedged
  cases hw : s.round.pqWedged with
  | none =>
      rw [hw] at h
      cases h
  | some w => rfl

theorem run_checkNotWedged {s : SessionInner M}
    (h : s.round.pqWedged.isSome = true) :
    (Op.ofExcept (checkNotWedged s) : SessionOp M Unit).run s =
      (.error .bindTriggerFailed, s) := by
  rw [Op.run_ofExcept, checkNotWedged_latched h]

theorem run_ok {α : Type} {r : Result α} {a : α} (h : r = .ok a)
    (s : SessionInner M) :
    (Op.ofExcept r : SessionOp M α).run s = (.ok a, s) := by
  rw [Op.run_ofExcept, h]

theorem ratchetBindGuard_latched {s : SessionInner M} {frame : Frame M}
    {seed : M.Seed} (hlatched : s.round.pqWedged.isSome = true)
    (h : (Call.pqRatchetBind frame seed).ReachesLatch s) :
    (ratchetBindGuard frame).run s = (.error .bindTriggerFailed, s) := by
  rcases h with
    ⟨leg, recv, carrier, hleg, hrecv, hcarrier, hfloor, hhash, howed, hblocked⟩
  unfold ratchetBindGuard
  rw [Op.run_bind_ok (Op.run_state s), Op.run_bind_ok (run_ok hleg s),
    Op.run_bind_ok (run_readHalf hrecv _), Op.run_bind_ok (run_ok hcarrier s),
    Op.run_bind_ok (Op.run_ensure hfloor _ s),
    Op.run_bind_ok (Op.run_ensure hhash _ s),
    Op.run_bind_ok (Op.run_ensure howed _ s),
    Op.run_bind_ok (Op.run_ensure hblocked _ s)]
  exact Op.run_bind_error (run_checkNotWedged hlatched)

theorem rekeyApplyGuard_latched {s : SessionInner M} {frame : Frame M}
    {seed : M.Seed} (hlatched : s.round.pqWedged.isSome = true)
    (h : (Call.pqRekeyApply frame seed).ReachesLatch s) :
    (rekeyApplyGuard frame).run s = (.error .bindTriggerFailed, s) := by
  rcases h with ⟨⟨commit, hcommit⟩, hhash, howed, hblocked⟩
  unfold rekeyApplyGuard
  rw [Op.run_bind_ok (Op.run_state s), Op.run_bind_ok (run_ok hcommit s),
    Op.run_bind_ok (Op.run_ensure hhash _ s),
    Op.run_bind_ok (Op.run_ensure howed _ s),
    Op.run_bind_ok (Op.run_ensure hblocked _ s)]
  exact Op.run_bind_error (run_checkNotWedged hlatched)

theorem bootstrapBindGuard_latched {s : SessionInner M} {frame : Frame M}
    {seed : M.Seed} (hlatched : s.round.pqWedged.isSome = true)
    (h : (Call.pqBootstrapBind frame seed).ReachesLatch s) :
    (bootstrapBindGuard frame).run s = (.error .bindTriggerFailed, s) := by
  rcases h with ⟨welcome, hwelcome, hsuite⟩
  unfold bootstrapBindGuard
  rw [Op.run_bind_ok (Op.run_state s), Op.run_bind_ok (run_ok hwelcome s),
    Op.run_bind_ok (run_ok hsuite s)]
  exact Op.run_bind_error (run_checkNotWedged hlatched)

theorem run_refused {α β : Type} {guard : SessionOp M α} {body : α -> ApiOp M β}
    {frames : β -> List (Frame M)} {t : TwoMlsPqSession M} {e : TwoMlsPqError}
    (h : guard.run t.inner = (.error e, t.inner)) :
    (handing (do
      let a <- locked guard
      body a) frames).run t = (.error e, t) := by
  have hlocked : (locked guard).run t = (.error e, t) := by
    unfold locked
    rw [Op.run_ofResult, h]
  unfold handing
  exact Op.run_bind_error (Op.run_bind_error hlocked)

theorem call_latched {t : TwoMlsPqSession M} {call : Call M}
    (hlatched : t.inner.round.pqWedged.isSome = true)
    (h : call.ReachesLatch t.inner) :
    call.run.run t = (.error .bindTriggerFailed, t) := by
  cases call with
  | pqRatchetBind frame seed => exact run_refused (ratchetBindGuard_latched hlatched h)
  | pqRekeyApply frame seed => exact run_refused (rekeyApplyGuard_latched hlatched h)
  | pqBootstrapBind frame seed =>
      exact run_refused (bootstrapBindGuard_latched hlatched h)
  | _ => exact h.elim

/-- Once a session is wedged it stays wedged, through every call, every archive
that is opened again and every restart from what was pushed by the action that
wedged it and after; and a bind whose door gets as far as the latch is refused by
it, with nothing changed. -/
theorem wedge_is_latched (L : Lawful M) {s : SessionInner M} (born : Born s)
    {t t' : TwoMlsPqSession M} {a : LifeAction M}
    (run : Run TwoMlsPqSession.live (fun _ _ => True) (TwoMlsPqSession.fresh s) t)
    (wedged : (t.live a).inner.round.pqWedged.isSome = true)
    (later : Run TwoMlsPqSession.live (fun _ _ => True) ((t.live a).since t) t') :
    t'.inner.round.pqWedged.isSome = true ∧
      forall call : Call M, call.ReachesLatch t'.inner ->
        call.run.run t' = (.error .bindTriggerFailed, t') := by
  have happroved : Durable Approved (t.live a) :=
    (run.step True.intro).invariant (I := Durable Approved)
      (fun _ _ h _ => approved_live L h)
      (Durable.fresh (approved_unused (born.unused L)))
  have hstart : Durable Wedged ((t.live a).since t) :=
    Durable.since L Wedged.stable { latched := wedged, approved := happroved.now }
  have hlater : Durable Wedged t' :=
    later.invariant (I := Durable Wedged) (fun _ _ h _ => wedged_live L h) hstart
  have hlatched : t'.inner.round.pqWedged.isSome = true := hlater.now.latched
  exact ⟨hlatched, fun call h => call_latched hlatched h⟩

def Call.WellFormedDoor : Call M -> Prop
  | .pqRatchetRespond frame _ =>
      exists leg, sideBandMessage .ratchetEphemeralKey frame = .ok leg
  | .pqRatchetBind frame _ =>
      exists leg, sideBandMessage .ratchetCiphertext frame = .ok leg
  | .pqRekeyRespond frame _ =>
      exists proposal, sideBandMessage .rekeyUpdate frame = .ok proposal
  | .pqRekeyApply frame _ =>
      exists commit, sideBandBody .rekeyCommit frame = .ok commit
  | .pqBootstrapBegin _ => True
  | .pqBootstrapEnvelope _ => True
  | .pqBootstrapRespond frame _ =>
      exists kp, sideBandBody .bootstrapKeyPackage frame = .ok kp
  | .pqBootstrapBind frame _ =>
      exists welcome, sideBandBody .bootstrapWelcome frame = .ok welcome
  | _ => False

/-!
## A wedged session
-/

def refusal {α : Type} (answer : Result α × TwoMlsPqSession M) :
    Option TwoMlsPqError :=
  match answer.1 with
  | .ok _ => none
  | .error e => some e

theorem refusal_eq {α : Type} {answer : Result α × TwoMlsPqSession M}
    {e : TwoMlsPqError} (h : refusal answer = some e) :
    answer.1 = .error e := by
  unfold refusal at h
  split at h
  · cases h
  next e' herror =>
    cases h
    exact herror

end

namespace ReferencePair

def untorn : World Reference.mls :=
  world.play bootstrapBind.dropLast

def untornSession : TwoMlsPqSession Reference.mls :=
  untorn.session .left

set_option maxRecDepth 4000 in
theorem untorn_run :
    Run TwoMlsPqSession.live (fun _ _ => True) (TwoMlsPqSession.fresh initiator)
      untornSession :=
  World.run_live .left (World.run_played world _)

def tornAnswer : Frame Reference.mls :=
  ((untorn.sent .right)[1]?).getD .unknown

def tearing : LifeAction Reference.mls :=
  .host (.call (.pqBootstrapBind tornAnswer (0 : Nat)))

theorem torn_run :
    Run TwoMlsPqSession.live (fun _ _ => True) (TwoMlsPqSession.fresh initiator)
      (untornSession.live tearing) :=
  untorn_run.step True.intro

theorem torn_wedged :
    (untornSession.live tearing).inner.round.pqWedged.isSome = true := by
  decide +kernel

theorem tornAnswer_isSome :
    (sideBandBody .bootstrapWelcome tornAnswer).toOption.isSome = true := by
  decide +kernel

def tornWelcome : Blob Reference.mls :=
  (sideBandBody .bootstrapWelcome tornAnswer).toOption.get tornAnswer_isSome

def wedgedAgain : TwoMlsPqSession Reference.mls :=
  ((untornSession.live tearing).since untornSession).live (.host .restart)

theorem wedgedAgain_run :
    Run TwoMlsPqSession.live (fun _ _ => True)
      ((untornSession.live tearing).since untornSession) wedgedAgain := by
  unfold wedgedAgain
  exact Run.step Run.refl True.intro

theorem wedgedAgain_restores :
    (restore ((untornSession.live tearing).since
      untornSession).pushed).toOption.isSome = true := by
  decide +kernel

theorem tornWelcome_suite :
    (checkWelcomeSuite tornWelcome wedgedAgain.inner.suite.pq).toOption.isSome =
      true := by
  decide +kernel

theorem eq_ok_unit {r : Result Unit} (h : r.toOption.isSome = true) :
    r = .ok () :=
  eq_ok_of_isSome h

theorem tornAnswer_reaches :
    (Call.pqBootstrapBind tornAnswer (4100 : Nat)).ReachesLatch
      wedgedAgain.inner := by
  have hwelcome : sideBandBody .bootstrapWelcome tornAnswer = .ok tornWelcome :=
    eq_ok_of_isSome tornAnswer_isSome
  have hsuite : checkWelcomeSuite tornWelcome wedgedAgain.inner.suite.pq = .ok () :=
    eq_ok_unit tornWelcome_suite
  exact ⟨tornWelcome, hwelcome, hsuite⟩

end ReferencePair

/-- The session restarts from what the wedging bind pushed, and the bind is called
again. -/
theorem second_bind_meets_latch :
    (restore ((ReferencePair.untornSession.live ReferencePair.tearing).since
        ReferencePair.untornSession).pushed).toOption.isSome = true ∧
      ReferencePair.wedgedAgain.inner.round.pqWedged.isSome = true ∧
      (Call.pqBootstrapBind ReferencePair.tornAnswer (4100 : Nat)).run.run
          ReferencePair.wedgedAgain =
        (.error .bindTriggerFailed, ReferencePair.wedgedAgain) := by
  have hlatch := wedge_is_latched Reference.lawful ReferencePair.initiator_born
    (a := ReferencePair.tearing) ReferencePair.untorn_run ReferencePair.torn_wedged
    ReferencePair.wedgedAgain_run
  exact ⟨ReferencePair.wedgedAgain_restores, hlatch.1,
    hlatch.2 _ ReferencePair.tornAnswer_reaches⟩

/-- The initiator of the wedged A.3 round calls `pq_bootstrap_begin` again: the
door does not test the latch and answers with the retriable name. -/
theorem begin_on_wedged_session_not_refused :
    ¬ forall (s : SessionInner Reference.mls) (t t' : TwoMlsPqSession Reference.mls)
        (a : LifeAction Reference.mls),
      Born s ->
        Run TwoMlsPqSession.live (fun _ _ => True) (TwoMlsPqSession.fresh s) t ->
        (t.live a).inner.round.pqWedged.isSome = true ->
        Run TwoMlsPqSession.live (fun _ _ => True) ((t.live a).since t) t' ->
          t'.inner.round.pqWedged.isSome = true ∧
            forall call : Call Reference.mls, call.WellFormedDoor ->
              call.run.run t' = (.error .bindTriggerFailed, t') := by
  intro hall
  have hbegin := (hall _ _ _ ReferencePair.tearing ReferencePair.initiator_born
    ReferencePair.untorn_run ReferencePair.torn_wedged Run.refl).2
    (.pqBootstrapBegin none) True.intro
  have hrefusal : refusal ((Call.pqBootstrapBegin none).run.run
      ((ReferencePair.untornSession.live ReferencePair.tearing).since
        ReferencePair.untornSession)) = some .sessionNotReady := by
    decide +kernel
  rw [hbegin] at hrefusal
  cases hrefusal

end Session
end TwoMlsPq
