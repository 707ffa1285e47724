import TwoMlsPq.Session.Signers
import TwoMlsPq.Session.Trails

/-!
# Candidates in custody

A session offers a candidate's credential as an update in the peer's classical
half, and swaps to the candidate when a commit of the peer folds that update.
Until then the candidate's keys must be at hand.  The updates that a commit can
still fold are the ones pending in the recv half, so the pool may be cleared as
soon as a fold has left none pending.
-/

namespace TwoMlsPq
namespace Session

open Foundation Apq

section

variable {M : MlsRs} {c c' : Core M} {e : Event M}

/-!
## Pending updates
-/

/-- Whatever credential a pending update introduces, its keys are at hand. -/
def Custody (c : Core M) : Prop :=
  Promised (InCustody c) c

theorem InCustody.step {id : Bytes} (h : InCustody c id) (hstep : Step e c c')
    (hkeeps : forall winner, e ≠ .install winner) :
    InCustody c' id := by
  cases hstep with
  | quiet hq =>
      rw [hq.2]
      exact h
  | enlist room fresh =>
      rcases h with hown | ⟨candidate, hmem, hid⟩
      · exact Or.inl hown
      · exact Or.inr ⟨candidate, List.mem_append_left _ hmem, hid⟩
  | install staged settled => exact (hkeeps _ rfl).elim
  | _ => exact h

theorem Introduces.inCustody {signer : M.Signer} {id : Bytes}
    (h : Introduces c .recvClassical (some (signer, id))) :
    InCustody c id := by
  rcases h with hnone | ⟨candidate, hcandidate, hidentity⟩
  · cases hnone
  · cases hidentity
    rcases hcandidate with hstaged | rfl
    · exact Or.inr ⟨candidate, hstaged, rfl⟩
    · exact Or.inl rfl

theorem Step.pendingUpdates (hstep : Step e c c') {g' : M.Group}
    (held' : c'.half .recvClassical = some g') {m : M.Message}
    {identity : Option (M.Signer × Bytes)}
    (hmem : (m, identity) ∈ M.pendingUpdates g') :
    (exists g, c.half .recvClassical = some g ∧ (m, identity) ∈ M.pendingUpdates g) ∨
      Introduces c .recvClassical identity := by
  rcases hstep.half_cases .recvClassical with hquiet | ⟨g₁, held₁, hhalf⟩
  · rw [held'] at hquiet
    rcases hquiet.symm.some_left with ⟨g, held, hsame⟩
    rw [← hsame.updates] at hmem
    exact Or.inl ⟨g, held, hmem⟩
  · rw [held'] at held₁
    cases held₁
    cases hhalf with
    | peerCommit held idle kind applied =>
        rw [applied.updates] at hmem
        cases hmem
    | ownCommit send held discharged handoff applied =>
        rw [applied.updates] at hmem
        cases hmem
    | propose held introduces proposed =>
        rw [proposed.updates] at hmem
        rcases List.mem_cons.mp hmem with hnew | hold
        · cases hnew
          exact Or.inr introduces
        · exact Or.inl ⟨_, held, hold⟩
    | joinRecv recv missing joined =>
        rw [joined.updates] at hmem
        cases hmem

theorem Custody.step (h : Custody c) (hstep : Step e c c') : Custody c' := by
  intro g' held' m signer id hmem
  by_cases hinstall : exists winner, e = .install winner
  · rcases hinstall with ⟨winner, rfl⟩
    cases hstep with
    | install staged settled =>
        -- the fold that elects the winner has left no update pending
        rw [settled g' held'] at hmem
        cases hmem
  · have hkeeps : forall winner, e ≠ .install winner := fun winner he =>
      hinstall ⟨winner, he⟩
    rcases hstep.pendingUpdates held' hmem with ⟨g, held, hold⟩ | hnew
    · exact (h g held m signer id hold).step hstep hkeeps
    · exact hnew.inCustody.step hstep hkeeps

/-!
## Offers
-/

/-- An offered update is past the recv half's epoch, or it is pending there and
the credential it proposes is in custody. -/
def KeptOffer (c : Core M) (proposing : Bytes) (m : M.Message) : Prop :=
  (exists e, M.messageEpoch m = some e ∧ e < reached c) ∨
    exists g identity, c.half .recvClassical = some g ∧
      (m, identity) ∈ M.pendingUpdates g ∧
      M.messageEpoch m = some (M.currentEpoch g) ∧ InCustody c proposing

theorem reached_le (hstep : Step e c c') : reached c <= reached c' := by
  cases held : c.half .recvClassical with
  | none =>
      have hzero : reached c = 0 := by
        unfold reached Core.epoch
        rw [held]
        rfl
      rw [hzero]
      exact Nat.zero_le _
  | some g =>
      rcases hstep.epoch_le held with ⟨g', held', hle⟩
      unfold reached Core.epoch
      rw [held, held']
      exact hle

theorem Step.stillPending (hstep : Step e c c') {g : M.Group}
    (held : c.half .recvClassical = some g) {m : M.Message}
    {identity : Option (M.Signer × Bytes)}
    (hmem : (m, identity) ∈ M.pendingUpdates g)
    (hepoch : M.messageEpoch m = some (M.currentEpoch g)) :
    (exists e, M.messageEpoch m = some e ∧ e < reached c') ∨
      exists g', c'.half .recvClassical = some g' ∧
        (m, identity) ∈ M.pendingUpdates g' ∧
        M.messageEpoch m = some (M.currentEpoch g') := by
  have hpast : forall {g₁ g' : M.Group}, c.half .recvClassical = some g₁ ->
      c'.half .recvClassical = some g' -> Advanced g₁ g' ->
        exists e, M.messageEpoch m = some e ∧ e < reached c' := by
    intro g₁ g' held₁ held' hadvanced
    rw [held] at held₁
    cases held₁
    refine ⟨_, hepoch, ?_⟩
    unfold reached Core.epoch
    rw [held']
    change M.currentEpoch g < M.currentEpoch g'
    rw [hadvanced.epoch]
    exact Nat.lt_succ_self _
  rcases hstep.half_cases .recvClassical with hquiet | ⟨g', held', hhalf⟩
  · rw [held] at hquiet
    rcases hquiet.some_left with ⟨g', held', hsame⟩
    refine Or.inr ⟨g', held', ?_, ?_⟩
    · rw [hsame.updates]
      exact hmem
    · rw [hsame.epoch]
      exact hepoch
  · cases hhalf with
    | peerCommit held₁ idle kind applied =>
        exact Or.inl (hpast held₁ held' applied.toAdvanced)
    | ownCommit send held₁ discharged handoff applied =>
        exact Or.inl (hpast held₁ held' applied.toAdvanced)
    | propose held₁ introduces proposed =>
        rw [held] at held₁
        cases held₁
        refine Or.inr ⟨g', held', ?_, ?_⟩
        · rw [proposed.updates]
          exact List.mem_cons_of_mem _ hmem
        · rw [proposed.epoch]
          exact hepoch
    | joinRecv recv missing joined =>
        rw [held] at missing
        cases missing

theorem KeptOffer.step {proposing : Bytes} {m : M.Message}
    (h : KeptOffer c proposing m) (hstep : Step e c c') :
    KeptOffer c' proposing m := by
  rcases h with ⟨n, hn, hlt⟩ | ⟨g, identity, held, hmem, hepoch, hcustody⟩
  · exact Or.inl ⟨n, hn, Nat.lt_of_lt_of_le hlt (reached_le hstep)⟩
  · by_cases hinstall : exists winner, e = .install winner
    · rcases hinstall with ⟨winner, rfl⟩
      cases hstep with
      | install staged settled =>
          rw [settled g held] at hmem
          cases hmem
    · rcases hstep.stillPending held hmem hepoch with hpast | ⟨g', held', hmem', hepoch'⟩
      · exact Or.inl hpast
      · refine Or.inr ⟨g', identity, held', hmem', hepoch', ?_⟩
        exact hcustody.step hstep fun winner he => hinstall ⟨winner, he⟩

/-- Custody of one side: of its pending updates, of the offer its next frame
carries, and of every offer it has sent. -/
structure Keeps (c : Core M) (sent : List (Frame M)) : Prop where
  updates : Custody c
  pending : forall u m, c.pending = some u -> u.2.parsed = some m ->
    KeptOffer c u.1 m
  offers : forall st u app m, Frame.message st (some u) app ∈ sent ->
    u.2.parsed = some m -> KeptOffer c u.1 m

theorem Keeps.step {sent : List (Frame M)} (h : Keeps c sent)
    (hstep : Step e c c') :
    Keeps c' sent := by
  refine
    { updates := h.updates.step hstep
      pending := ?_
      offers := fun st u app m hmem hm => (h.offers st u app m hmem hm).step hstep }
  have hold : c'.pending = c.pending -> forall u m, c'.pending = some u ->
      u.2.parsed = some m -> KeptOffer c' u.1 m := by
    intro hsame u m hu hm
    rw [hsame] at hu
    exact (h.pending u m hu hm).step hstep
  cases hstep with
  | setPending staged offers =>
      intro u m hu hm
      cases hu
      rcases staged with ⟨m₁, g, hparsed, held, hepoch, _⟩
      rcases offers with ⟨m₂, g₂, identity, hparsed₂, held₂, hmem, hcustody⟩
      rw [hm] at hparsed hparsed₂
      cases hparsed
      cases hparsed₂
      rw [held] at held₂
      cases held₂
      exact Or.inr ⟨g, identity, held, hmem, hepoch, hcustody⟩
  | clearPending =>
      intro u m hu
      cases hu
  | quiet hq => exact hold (by rw [hq.2])
  | _ => exact hold rfl

theorem keeps_unused (h : Unused c)
    (hfresh : forall g, c.half .recvClassical = some g -> M.pendingUpdates g = []) :
    Keeps c [] where
  updates := by
    intro g held m signer id hmem
    rw [hfresh g held] at hmem
    cases hmem
  pending := by
    intro u m hu
    rw [h.pending] at hu
    cases hu
  offers := by
    intro st u app m hmem
    cases hmem

end

section

variable {M : MlsRs} (L : Lawful M)

include L

theorem keeps_call {call : Call M} {t : TwoMlsPqSession M}
    {sent new : List (Frame M)} (h : Keeps t.inner.core sent)
    (happroved : ApprovedProposal t.inner.core.queued)
    (hnew : forall f, f ∈ new -> EmittedBy t.inner.core f) :
    Keeps (call.run.run t).2.inner.core (sent ++ new) := by
  have hstart : Keeps t.inner.core (sent ++ new) := by
    refine { updates := h.updates, pending := h.pending, offers := ?_ }
    intro st u app m hmem hm
    rcases List.mem_append.mp hmem with hold | hfresh
    · exact h.offers st u app m hold hm
    · rcases (hnew _ hfresh).message_inv with ⟨_, ⟨update, hupdate, hpending⟩, _⟩
      cases hupdate
      exact h.pending u m hpending hm
  exact (call_goes L call t happroved).invariant (I := fun c => Keeps c (sent ++ new))
    (fun _ _ _ _ hstep hI => hI.step hstep) hstart

/-- In step with each other, with every offer kept. -/
structure InCare (w : World M) : Prop where
  inStep : InStep w
  keeps : forall side, Keeps (w.core side) (w.sent side)

theorem inCare_act {w : World M} {a : Action M} (h : InCare w) (ha : w.Calls a) :
    InCare (w.act a) := by
  refine { inStep := inStep_act L h.inStep ha, keeps := ?_ }
  rcases ha with ⟨hdelivers, actor, call, rfl⟩
  have hemitted : forall f, f ∈ w.handedOut actor call -> EmittedBy (w.core actor) f :=
    fun f hf => World.emitted_handedOut L hf
  have hactor : Keeps (call.run.run (w.session actor)).2.inner.core
      (w.sent actor ++ w.handedOut actor call) :=
    keeps_call L (h.keeps actor) (h.inStep.1 actor).behind.approved hemitted
  intro side
  rcases World.eq_or_other actor side with rfl | rfl
  · simpa using hactor
  · simpa using h.keeps actor.other

theorem inCare_initial {initiator acceptor : SessionInner M}
    (h : Established initiator acceptor) :
    InCare (World.initial initiator acceptor) := by
  refine { inStep := inStep_initial L h, keeps := ?_ }
  rcases h with ⟨initiated, stapled, accepted⟩
  have hinitiator := initiate_born L initiated
  have hacceptor := acceptWith_born L accepted
  intro side
  cases side with
  | left =>
      refine keeps_unused hinitiator.unused ?_
      intro g held
      change initiator.core.half .recvClassical = some g at held
      rw [hinitiator.recv] at held
      cases held
  | right =>
      refine keeps_unused hacceptor.unused ?_
      intro g held
      change acceptor.core.half .recvClassical = some g at held
      rcases hacceptor.recv with ⟨g', m, held', _, hjoined⟩
      rw [held] at held'
      cases held'
      exact hjoined.updates

omit L in
theorem peerCommit_inCustody (L : Lawful M) {c : Core M} {env : MlsEnv}
    {m : M.Message} {g : M.Group} {effect : CommitEffect} {id key : Bytes}
    (h : Custody c) (held : c.half .recvClassical = some g)
    (hok : (M.processIncomingMessage env m g).1 = .ok (.commit effect))
    (hleaf : ownLeaf (M.processIncomingMessage env m g).2 = some (.basic id, key))
    (hchanged : (ownLeaf g).map Prod.fst ≠ some (.basic id)) :
    InCustody c id := by
  have heffect := L.process env m g
  rw [hok] at heffect
  rcases heffect.2.own with hkept | ⟨update, signer, identifier, hmem, hmoved⟩
  · rw [← hkept.1, hleaf] at hchanged
    exact (hchanged rfl).elim
  · rw [hmoved.1] at hleaf
    cases hleaf
    exact h g held update signer _ hmem

omit L in
theorem noteCanonicalizedOwn_ok {s : SessionInner M} {moved newSender : Option Bytes}
    (h : forall id, moved = some id -> InCustody s.core id) :
    exists s'', (noteCanonicalizedOwn moved).run (noteNewSender newSender s) =
      (.ok (), s'') := by
  have hclient : (noteNewSender newSender s).client = s.client := by
    cases newSender with
    | none => rfl
    | some id => rfl
  have hstaged : (noteNewSender newSender s).rotation.stagedCandidates =
      s.rotation.stagedCandidates := by
    cases newSender with
    | none => rfl
    | some id => rfl
  unfold noteCanonicalizedOwn
  cases moved with
  | none => exact ⟨_, rfl⟩
  | some id =>
      dsimp only
      rw [Op.run_bind, Op.run_state]
      dsimp only
      split
      · exact ⟨_, rfl⟩
      next hne =>
        rw [hclient] at hne
        rcases h id rfl with hown | ⟨candidate, hmem, hid⟩
        · exact (hne hown).elim
        · have hsome : ((noteNewSender newSender s).rotation.stagedCandidates.find?
              fun c => c.clientId == id).isSome = true := by
            rw [hstaged, List.find?_isSome]
            exact ⟨candidate, hmem, beq_iff_eq.mpr hid⟩
          rcases Option.isSome_iff_exists.mp hsome with ⟨winner, hwinner⟩
          rw [hwinner]
          exact ⟨_, rfl⟩

theorem staple_inCustody {s s' : SessionInner M} {staple : Staple M}
    {approval : Option EstablishmentApproval} {outcome : StapleOutcome} {id : Bytes}
    (h : Custody s.core)
    (hrun : (processStaple staple approval).run s = (.ok (some outcome), s'))
    (hmoved : outcome.moved.canonicalizedOwn = some id) :
    InCustody s.core id ∧ InCustody s'.core id := by
  have hvia : Via (stapleEvents (.message staple none Blob.empty))
      (Promised (InCustody s.core)) (processStaple staple approval)
      (fun result c => forall outcome, result = some outcome ->
        Earned (InCustody s.core) outcome.moved c) :=
    via_processStaple L
  have hearned := hvia.result h (a := some outcome) (by rw [hrun])
  have hid := (hearned outcome rfl id hmoved).1
  refine ⟨hid, ?_⟩
  have hpath := hvia.goes h
  rw [hrun] at hpath
  exact hpath.invariant (I := fun c => InCustody c id)
    (fun _ _ _ he hstep hI => hI.step hstep he.2) hid

/-- Between two honest sessions, whatever is rotated, sent, folded, lost or
reordered: a commit of the peer moves our leaf in the recv half only to the
current client's credential or to a staged candidate's, so the bookkeeping
behind an applied staple never rejects it; and a credential that was offered in
a frame stays at hand as long as the peer's group is at the offer's epoch. -/
theorem candidates_kept_while_foldable {initiator acceptor : SessionInner M}
    (established : Established initiator acceptor) {w : World M}
    (run : Run World.act World.Calls (World.initial initiator acceptor) w)
    (side : Side) :
    (forall env m g effect id key,
      (w.core side).half .recvClassical = some g ->
        (M.processIncomingMessage env m g).1 = .ok (.commit effect) ->
        ownLeaf (M.processIncomingMessage env m g).2 = some (.basic id, key) ->
        (ownLeaf g).map Prod.fst ≠ some (.basic id) ->
          InCustody (w.core side) id) ∧
    (forall staple approval outcome s',
      (processStaple staple approval).run (w.session side).inner =
          (.ok (some outcome), s') ->
        (forall id, outcome.moved.canonicalizedOwn = some id ->
          InCustody (w.core side) id) ∧
        exists s'',
          (noteCanonicalizedOwn outcome.moved.canonicalizedOwn).run
            (noteNewSender outcome.moved.newSender s') = (.ok (), s'')) ∧
    forall st proposing proposal app m g,
      Frame.message st (some (proposing, proposal)) app ∈ w.sent side ->
        proposal.parsed = some m ->
        (w.core side.other).half .sendClassical = some g ->
        M.messageEpoch m = some (M.currentEpoch g) ->
          InCustody (w.core side) proposing := by
  have hcare : InCare w :=
    run.invariant (fun _ _ h ha => inCare_act L h ha) (inCare_initial L established)
  have hkeeps := hcare.keeps side
  refine ⟨?_, ?_, ?_⟩
  · intro env m g effect id key held hok hleaf hchanged
    exact peerCommit_inCustody L hkeeps.updates held hok hleaf hchanged
  · intro staple approval outcome s' hrun
    refine ⟨fun id hid => (staple_inCustody L hkeeps.updates hrun hid).1, ?_⟩
    exact noteCanonicalizedOwn_ok fun id hid =>
      (staple_inCustody L hkeeps.updates hrun hid).2
  · intro st proposing proposal app m g hmem hm held hepoch
    rcases hkeeps.offers st (proposing, proposal) app m hmem hm with
      ⟨e, he, hlt⟩ | ⟨_, _, _, _, _, hcustody⟩
    · -- the peer's send half would be behind our recv half
      have htrails : Trails (w.core side.other) (w.core side) (w.sent side.other) := by
        simpa using hcare.inStep.2 side.other
      rcases htrails.send with ⟨g', held', _, hle⟩
      rw [held] at held'
      cases held'
      rw [he] at hepoch
      cases hepoch
      omega
    · exact hcustody

end

/-!
## A rotation
-/

namespace ReferencePair

def folded : World Reference.mls :=
  rotationOffered.play
    ([.call .right (.queueProposal offeredDigest)] ++ send .right 5100)

theorem folded_calls : Run World.act World.Calls world folded := by
  apply rotationOffered_calls.trans
  apply World.run_calls
  simp [send, Move.Fair, Move.isRestore, Call.delivered]

def foldedStaple : Staple Reference.mls :=
  match ((folded.sent .right)[1]?).getD .unknown with
  | .message st _ _ => st
  | _ => .badBind

def foldedOwn : Option Bytes :=
  (((processStaple foldedStaple none).run
    (folded.session .left).inner).1.toOption.join).bind
      fun outcome => outcome.moved.canonicalizedOwn

theorem foldedOwn_eq : foldedOwn = some [0xA1] := by
  decide +kernel

end ReferencePair

/-- The initiator applies the commit that folds its candidate: the candidate is
in its pool. -/
theorem folded_candidate_in_custody :
    exists outcome s',
      (processStaple ReferencePair.foldedStaple none).run
          (ReferencePair.folded.session .left).inner = (.ok (some outcome), s') ∧
        outcome.moved.canonicalizedOwn = some [0xA1] ∧
        InCustody (ReferencePair.folded.core .left) [0xA1] := by
  have hown := ReferencePair.foldedOwn_eq
  unfold ReferencePair.foldedOwn at hown
  rcases hrun : (processStaple ReferencePair.foldedStaple none).run
      (ReferencePair.folded.session .left).inner with ⟨r, s'⟩
  rw [hrun] at hown
  cases r with
  | error e => cases hown
  | ok result =>
      cases result with
      | none => cases hown
      | some outcome =>
          refine ⟨outcome, s', rfl, hown, ?_⟩
          exact ((candidates_kept_while_foldable Reference.lawful
            ReferencePair.established ReferencePair.folded_calls .left).2.1
              _ none outcome s' hrun).1 _ hown

end Session
end TwoMlsPq
