import TwoMlsPq.Session.Honest

/-!
# The owed bind

A post-quantum commit reserves the classical epoch that will bind it.  Until
the next commit discharges the reservation, nothing moves either half of the
send group: every commit of our own needs the reservation to be gone, and an
honest peer offers no commit.  A restart brings the reservation back together
with the halves it speaks about, because a Core is only combined with a
Checkpoint of the same post-quantum epochs.
-/

namespace TwoMlsPq
namespace Session

open Foundation Apq

section

variable {M : MlsRs}

/-- An owed bind names the post-quantum epoch the send group is in and the
classical epoch it enters next. -/
def Reserved (c : Core M) : Prop :=
  forall o, c.owed = some o ->
    c.epoch .sendPq = some o.pqEpoch ∧
      exists e, c.epoch .sendClassical = some e ∧ e + 1 = o.tEpoch

theorem Reserved.keep {c c' : Core M} (hc : Reserved c)
    (howed : c'.owed = c.owed ∨ c'.owed = none)
    (hclassical : c.owed.isSome -> c'.epoch .sendClassical = c.epoch .sendClassical)
    (hpq : c.owed.isSome -> c'.epoch .sendPq = c.epoch .sendPq) :
    Reserved c' := by
  intro o ho
  rcases howed with howed | howed
  · rw [howed] at ho
    have hsome : c.owed.isSome := by rw [ho]; rfl
    rw [hclassical hsome, hpq hsome]
    exact hc o ho
  · rw [howed] at ho
    cases ho

theorem sendEpoch_step {e : Event M} {c c' : Core M} {h : Half}
    (hc : Reserved c) (he : e.Honest) (hstep : Step e c c')
    (hsend : h = .sendClassical ∨ h = .sendPq) (howed : c.owed.isSome) :
    c'.epoch h = c.epoch h := by
  rcases hstep.half_cases h with hquiet | ⟨g', held', hhalf⟩
  · exact hquiet.epoch
  · exfalso
    cases hhalf with
    | peerCommit held idle kind applied =>
        rename_i m g
        rcases hsend with rfl | rfl
        · have hproposal := he.2 rfl
          unfold IsProposal at hproposal
          rw [kind] at hproposal
          cases hproposal
        · exact he.1 rfl
    | applyRekey held initiated applied => rcases hsend with h | h <;> cases h
    | ownCommit send held discharged handoff applied =>
        rw [discharged] at howed
        cases howed
    | propose held introduces proposed =>
        rcases hsend with rfl | rfl <;> exact introduces
    | joinRecv recv missing joined =>
        rcases hsend with rfl | rfl <;> rcases recv with h | h <;> cases h
    | createSendPq missing created =>
        rcases Option.isSome_iff_exists.mp howed with ⟨o, ho⟩
        have hepoch := (hc o ho).1
        unfold Core.epoch at hepoch
        rw [missing] at hepoch
        cases hepoch
    | joinRecvPq missing parsed joined => rcases hsend with h | h <;> cases h

theorem reserved_step {e : Event M} {c c' : Core M} (he : e.Honest)
    (hstep : Step e c c') (hc : Reserved c) :
    Reserved c' := by
  have hclassical := fun howed => sendEpoch_step hc he hstep (Or.inl rfl) howed
  have hpq := fun howed => sendEpoch_step hc he hstep (Or.inr rfl) howed
  cases hstep with
  | setOwed held heldPq tEpoch pqEpoch =>
      intro o ho
      cases ho
      unfold Core.epoch
      dsimp only
      rw [held, heldPq]
      exact ⟨congrArg some pqEpoch.symm, _, rfl, tEpoch.symm⟩
  | clearOwed => exact hc.keep (Or.inr rfl) hclassical hpq
  | quiet hq =>
      refine hc.keep (Or.inl ?_) hclassical hpq
      rw [hq.2]
  | _ => exact hc.keep (Or.inl rfl) hclassical hpq

theorem reserved_recovered {c : Core M} (h : Recovered (fun _ => Reserved) c) :
    Reserved c := by
  cases h with
  | checkpoint h => exact h
  | spliced h h' sendPq recvPq =>
      -- the manifest says that the two blobs agree on the post-quantum epoch
      intro o ho
      rcases h o ho with ⟨hpq, hclassical⟩
      exact ⟨sendPq.symm.trans hpq, hclassical⟩

theorem reserved_restored {c r : Core M} (h : Restored c r) (hc : Reserved c) :
    Reserved r := by
  refine hc.keep (Or.inl ?_) (fun _ => (h.1 .sendClassical).epoch)
    fun _ => (h.1 .sendPq).epoch
  rw [h.2]

theorem reserved_unused {c : Core M} (h : Unused c) : Reserved c := by
  intro o ho
  rw [h.owed] at ho
  cases ho

/-!
## The discharge
-/

theorem Reserved.groups {c : Core M} {o : OwedBind M} (hc : Reserved c)
    (ho : c.owed = some o) :
    exists g gpq, c.half .sendClassical = some g ∧ c.half .sendPq = some gpq ∧
      M.currentEpoch g + 1 = o.tEpoch ∧ M.currentEpoch gpq = o.pqEpoch := by
  rcases hc o ho with ⟨hpq, e, hclassical, he⟩
  unfold Core.epoch at hpq hclassical
  rw [Option.map_eq_some_iff] at hpq hclassical
  rcases hclassical with ⟨g, held, rfl⟩
  rcases hpq with ⟨gpq, heldPq, hpq⟩
  exact ⟨g, gpq, held, heldPq, he, hpq⟩

section

variable (L : Lawful M)

include L

/-- With the reservation intact a discharge passes both epoch checks, and hands
over an attestation of the classical epoch to come and of the post-quantum
epoch it leaves behind. -/
theorem dischargeOwedBind_reserved {s : SessionInner M} (hs : Reserved s.core) :
    (dischargeOwedBind.run s).1 ≠ .error .epochDesync ∧
      forall d, (dischargeOwedBind.run s).1 = .ok d ->
        d.map DischargedBind.attestation =
            s.core.owed.map (fun o => { tEpoch := o.tEpoch, pqEpoch := o.pqEpoch }) ∧
          forall h, (dischargeOwedBind.run s).2.core.epoch h = s.core.epoch h := by
  cases howed : s.round.owedBind with
  | none =>
      have hrun : dischargeOwedBind.run s = (.ok none, s) := by
        unfold dischargeOwedBind
        rw [Op.run_bind_ok (Op.run_state s), howed]
        rfl
      rw [hrun]
      refine ⟨(fun h => nomatch h), ?_⟩
      intro d hd
      cases hd
      refine ⟨?_, fun _ => rfl⟩
      change none = s.round.owedBind.map _
      rw [howed]
      rfl
  | some o =>
      rcases hs.groups (o := o) howed with ⟨g, gpq, held, heldPq, hclassical, hpq⟩
      let s₁ : SessionInner M := s.mapRound fun r => { r with owedBind := none }
      have held₁ : s₁.half .sendClassical = some g := held
      have heldPq₁ : s₁.half .sendPq = some gpq := heldPq
      have hquiet : QuietOp (onHalf .sendPq .sessionNotReady fun _ =>
          exportApqPsk s.ledger.pskStores : SessionOp M ExportedPsk) :=
        QuietOp.onHalf fun _ hs => exportApqPsk_still L _ hs
      have hfails : Op.Fails (onHalf .sendPq .sessionNotReady fun _ =>
          exportApqPsk s.ledger.pskStores : SessionOp M ExportedPsk)
          fun e => e ≠ .epochDesync :=
        fails_onHalf (by decide) fun _ hs e he => by
          rw [exportApqPsk_fails _ hs e he]
          decide
      have hmoved := hquiet s₁
      have herror := hfails s₁
      unfold dischargeOwedBind
      rw [Op.run_bind_ok (Op.run_state s), howed]
      dsimp only
      rw [Op.run_bind_ok (Op.run_update _ s),
        Op.run_bind_ok (run_readHalf held₁ _),
        Op.run_bind_ok (run_readHalf heldPq₁ _),
        Op.run_bind_ok (Op.run_ensure hclassical _ s₁),
        Op.run_bind_ok (Op.run_ensure hpq _ s₁), Op.run_bind]
      rcases hrun : (onHalf .sendPq .sessionNotReady fun _ =>
        exportApqPsk s.ledger.pskStores : SessionOp M ExportedPsk).run s₁ with ⟨r, s₂⟩
      rw [hrun] at hmoved herror
      cases r with
      | error e =>
          refine ⟨?_, fun d hd => nomatch hd⟩
          intro h
          cases h
          exact herror _ rfl rfl
      | ok psk =>
          refine ⟨(fun h => nomatch h), ?_⟩
          intro d hd
          cases hd
          refine ⟨?_, ?_⟩
          · change some _ = s.round.owedBind.map _
            rw [howed]
            rfl
          · intro h
            exact hmoved.epoch h

theorem quiet_afterCommit {folded : Option (PeerProposal M)}
    {crossPsk : Option ExportedPsk} {owed : Option (DischargedBind M)}
    {message : M.Message} {s s' : SessionInner M} (h : Half)
    (hrun : (do
      let send <- readHalf .sendClassical .sessionNotReady
      Op.ofExcept (ensureTwoParty send)
      Op.update (forgetConsumed crossPsk owed)
      Op.update (canonicalizeFold folded)
      rememberSendPsk
      let clCommit <- Op.ofExcept (orError .mls (Blob.ofMessage message))
      Op.update fun s => s.mapMsg fun m =>
        { m with
          currentStaple := some (stapleOf clCommit owed)
          currentStapleSeq := s.stateSeq
          offeredProposal := none } : SessionOp M Unit).run s = (.ok (), s')) :
    s'.core.epoch h = s.core.epoch h := by
  rcases Op.bind_ok hrun with ⟨send, s₁, h₁, hrun⟩
  rcases Op.bind_ok hrun with ⟨_, s₂, h₂, hrun⟩
  rcases Op.bind_ok hrun with ⟨_, s₃, h₃, hrun⟩
  rcases Op.bind_ok hrun with ⟨_, s₄, h₄, hrun⟩
  rcases Op.bind_ok hrun with ⟨_, s₅, h₅, hrun⟩
  rcases Op.bind_ok hrun with ⟨clCommit, s₆, h₆, hrun⟩
  have hencoded : s₅ = s₆ := congrArg Prod.snd h₆
  subst hencoded
  cases hrun
  have hfold : s₄.core.half = s₃.core.half := by
    cases h₄
    cases folded with
    | none => rfl
    | some approved =>
        unfold canonicalizeFold
        dsimp only
        split <;> rfl
  calc s₅.core.epoch h
      = s₄.core.epoch h := ((quiet_rememberSendPsk L).moved h₅).epoch h
    _ = s₃.core.epoch h := by unfold Core.epoch; rw [hfold]
    _ = s₂.core.epoch h :=
        ((QuietOp.update (core_forgetConsumed crossPsk owed)).moved h₃).epoch h
    _ = s₁.core.epoch h := ((QuietOp.ofExcept _).moved h₂).epoch h
    _ = s.core.epoch h := ((QuietOp.readHalf _ _).moved h₁).epoch h

/-- The commit that discharges a reservation ends in exactly the two epochs the
reservation names. -/
theorem dischargeAndCommit_reserved {folded : Option (PeerProposal M)}
    {crossPsk : Option ExportedPsk} {handoff : Option (M.Signer × Bytes)}
    {seed : M.Seed} {s s' : SessionInner M} {o : OwedBind M}
    (hs : Reserved s.core) (ho : s.core.owed = some o)
    (hrun : (dischargeAndCommit folded crossPsk handoff seed).run s = (.ok (), s')) :
    s'.core.epoch .sendClassical = some o.tEpoch ∧
      s'.core.epoch .sendPq = some o.pqEpoch := by
  rcases hs o ho with ⟨hpq, e, hclassical, he⟩
  unfold dischargeAndCommit at hrun
  rcases Op.bind_ok hrun with ⟨d, s₁, hdischarge, hrun⟩
  have hdischarged := ((dischargeOwedBind_reserved L hs).2 d (by rw [hdischarge])).2
  rw [hdischarge] at hdischarged
  rcases Op.bind_ok hrun with ⟨out, s₂, hbuild, hrun⟩
  have hbuilt : Quiet s₁.core s₂.core :=
    (QuietOp.callHalf fun env g =>
      L.build env (commitRequest crossPsk d handoff) seed g).moved hbuild
  rcases Op.bind_ok hrun with ⟨_, s₃, happly, hrun⟩
  rcases callHalf_ok happly with ⟨env, g, held, happlied, hcore⟩
  rcases L.applyOk env g happlied with ⟨identity, _, hcommit⟩
  have hafter := fun h => quiet_afterCommit L h hrun
  refine ⟨?_, ?_⟩
  · have hbefore : s₂.core.epoch .sendClassical = some e := by
      rw [hbuilt.epoch, hdischarged]
      exact hclassical
    have hg : M.currentEpoch g = e := by
      unfold Core.epoch at hbefore
      rw [show s₂.core.half .sendClassical = some g from held] at hbefore
      exact Option.some.inj hbefore
    rw [hafter, hcore]
    unfold Core.epoch
    rw [Core.half_setHalf, ← he, ← hg]
    exact congrArg some hcommit.epoch
  · rw [hafter, hcore]
    unfold Core.epoch
    rw [Core.half_setHalf_of_ne (by decide)]
    exact (hbuilt.epoch _).trans ((hdischarged _).trans hpq)

/-!
## Runs
-/

theorem reserved_run {initiator acceptor : SessionInner M}
    (established : Established initiator acceptor) {w : World M}
    (run : Run World.act World.Delivers (World.initial initiator acceptor) w) :
    HonestWorld w ∧ forall side, Durable Reserved (w.session side) := by
  refine run.invariant
    (I := fun w => HonestWorld w ∧ forall side, Durable Reserved (w.session side))
    (fun w a h ha => ⟨honestWorld_act L h.1 ha, ?_⟩) ⟨?_, ?_⟩
  · exact h.1.durable L ha h.2 (fun _ _ _ => reserved_step)
      (fun _ => reserved_recovered) fun _ _ => reserved_restored
  · exact honestWorld_initial L established
  · exact durable_initial (reserved_unused (established.born.1.unused L))
      (reserved_unused (established.born.2.unused L))

/-- Along every run of two honest sessions, restarts included, an owed bind
names the two send epochs.  The discharge inside a `prepare_to_encrypt` starts
from a state that the call's own events lead to; there it never reports a
desync, it attests what was reserved, and the commit that follows ends in the
attested epochs. -/
theorem owed_bind_reserved {initiator acceptor : SessionInner M}
    (established : Established initiator acceptor) {w : World M}
    (run : Run World.act World.Delivers (World.initial initiator acceptor) w)
    (side : Side) :
    (forall o, (w.core side).owed = some o ->
      (w.core side).epoch .sendPq = some o.pqEpoch ∧
        exists e, (w.core side).epoch .sendClassical = some e ∧ e + 1 = o.tEpoch) ∧
    forall s : SessionInner M,
      Path (prepareEvents (w.core side).queued) (w.core side) s.core ->
        (dischargeOwedBind.run s).1 ≠ .error .epochDesync ∧
        forall o, s.core.owed = some o ->
          (forall d, (dischargeOwedBind.run s).1 = .ok d ->
            d.map DischargedBind.attestation =
              some { tEpoch := o.tEpoch, pqEpoch := o.pqEpoch }) ∧
          forall folded crossPsk handoff seed s',
            (dischargeAndCommit folded crossPsk handoff seed).run s = (.ok (), s') ->
              s'.core.epoch .sendClassical = some o.tEpoch ∧
                s'.core.epoch .sendPq = some o.pqEpoch := by
  have hreserved := (reserved_run L established run).2 side
  refine ⟨hreserved.now, ?_⟩
  intro s hpath
  have hs : Reserved s.core :=
    hpath.invariant (fun _ _ _ he => reserved_step (honest_prepare he)) hreserved.now
  have hdischarge := dischargeOwedBind_reserved L hs
  refine ⟨hdischarge.1, ?_⟩
  intro o ho
  refine ⟨?_, ?_⟩
  · intro d hd
    rw [(hdischarge.2 d hd).1, ho]
    rfl
  · intro folded crossPsk handoff seed s' hrun
    exact dischargeAndCommit_reserved L hs ho hrun

omit L in
def owingRestart : List (Move Reference.mls) :=
  ReferencePair.bootstrapBind ++ [.restore .left]

omit L in
theorem owed_bind_reserved_restart :
    ((ReferencePair.world.play owingRestart).core .left).owed.isSome = true ∧
      (forall o, ((ReferencePair.world.play owingRestart).core .left).owed = some o ->
        ((ReferencePair.world.play owingRestart).core .left).epoch .sendPq =
            some o.pqEpoch ∧
          exists e, ((ReferencePair.world.play owingRestart).core .left).epoch
            .sendClassical = some e ∧ e + 1 = o.tEpoch) := by
  have hrun : Run World.act World.Delivers ReferencePair.world
      (ReferencePair.world.play owingRestart) := by
    refine World.run_play fun move hmem w a ha => Move.fair_delivers ?_ ha
    revert move
    simp [owingRestart, ReferencePair.bootstrapBind, ReferencePair.greeting,
      ReferencePair.send, ReferencePair.receive, Move.Fair, Call.delivered]
  exact ⟨by decide +kernel,
    (owed_bind_reserved Reference.lawful ReferencePair.established hrun .left).1⟩

end

end

end Session
end TwoMlsPq
