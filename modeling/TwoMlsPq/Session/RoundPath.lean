import TwoMlsPq.Session.ReceivePath

/-!
# The post-quantum rounds as events

The bodies of the post-quantum doors, under what their guards have checked.
Every bind ends the same way: one commit of our own on the send half, and the
reservation of the classical epoch that will attest it.
-/

namespace TwoMlsPq
namespace Session

open Foundation Apq

section

variable {M : MlsRs} (L : Lawful M) {A : Event M -> Prop}
variable {p : Core M -> Prop}

/-!
## Shared parts
-/

theorem contentType_of_privateApplication {m : M.Message}
    (h : M.description m = .privateProtocolMessage .application) :
    (M.description m).contentType ≠ some .commit := by
  rw [h]
  decide

theorem contentType_of_declared {m : M.Message}
    (h : declaredContentType m = some .proposal) :
    (M.description m).contentType = some .proposal := by
  unfold declaredContentType at h
  unfold MessageDescription.contentType
  exact h

include L

theorem via_processA4Leg {h : Half} {tag : UInt8} {m : M.Message}
    (hquiet : A .quiet) (hp : Stable p) :
    Via A p (processA4Leg h tag m) (fun _ c => p c) := by
  unfold processA4Leg
  refine Via.bind (Via.ensure _ _) fun _ => ?_
  refine Via.assume fun happlication => ?_
  refine Via.quietly hquiet hp (QuietOp.readHalf _ _) fun g => ?_
  refine Via.bind
    ((via_processQuiet L hquiet hp
      (contentType_of_privateApplication happlication)).post fun _ _ hc => hc.1)
    fun received => ?_
  cases received with
  | applicationMessage index data =>
      refine Via.quietly hquiet hp (QuietOp.ensure _ _) fun _ => ?_
      cases data with
      | nil => exact Via.fail _
      | cons tag' payload =>
          refine Via.quietly hquiet hp (QuietOp.ensure _ _) fun _ => ?_
          exact Via.value _ fun _ hc => hc
  | proposal desc => exact Via.fail _
  | commit effect => exact Via.fail _
  | other => exact Via.fail _

theorem via_commitPqAndOweBind {secret : Bytes} {seed : M.Seed}
    (hquiet : A .quiet) (hcommit : A (.ownCommit .sendPq none none))
    (howe : forall o, A (.setOwed o)) :
    Via A (fun c => c.owed = none) (commitPqAndOweBind secret seed)
      (fun _ _ => True) := by
  unfold commitPqAndOweBind
  refine Via.quietly hquiet (Stable.slots fun _ _ h => h) QuietOp.state fun s => ?_
  refine Via.bind (Via.readHalf _ _) fun send => ?_
  refine Via.bind (Via.readHalf _ _) fun sendPq => ?_
  dsimp only
  refine Via.bind (q := fun _ c => c.half .sendClassical = some send ∧
    exists g, c.half .sendPq = some g ∧
      M.currentEpoch g = M.currentEpoch sendPq + 1) ?_ fun pqCommit => ?_
  · refine Via.onHalf
      (fun store hs => (injectAndCommit_effect L store _ secret _ seed hs).1.1) ?_
    rintro c store hs ⟨heldPq, held, howed⟩ heldNow
    rw [heldPq] at heldNow
    cases heldNow
    rcases injectAndCommit_effect L store s.ledger.pskStores secret
      { tEpoch := M.currentEpoch send + 1
        pqEpoch := M.currentEpoch hs.group + 1 } seed hs with ⟨hchanges, hok⟩
    constructor
    · rcases hchanges.2 with hsame | happlied
      · exact Path.single hquiet (Step.quiet (Quiet.setHalf heldPq hsame))
      · exact Path.single hcommit
          (Step.ownCommitPq heldPq howed (Or.inl rfl) happlied)
    · intro b hb
      refine ⟨?_, _, Core.half_setHalf .., (hok b hb).epoch⟩
      rw [Core.half_setHalf_of_ne (by decide)]
      exact held
  refine Via.update fun s' hs => ⟨?_, True.intro⟩
  rcases hs with ⟨held, g, heldPq, hepoch⟩
  refine Path.single (howe _) (Step.setOwed held heldPq rfl ?_)
  exact hepoch.symm

omit L in
theorem via_pastNoReturn {w : PqWedge} {x : SessionOp M Unit}
    {q : Unit -> Core M -> Prop} (hwedge : A (.wedge w)) (hx : Via A p x q) :
    Via A p (pastNoReturn w x) (fun _ _ => True) := by
  unfold pastNoReturn
  refine Via.bind hx.attempt fun r => ?_
  cases r with
  | ok _ => exact Via.value _ fun _ _ => True.intro
  | error e =>
      refine Via.bind (q := fun _ _ => True) ?_ fun _ => Via.fail _
      exact Via.step hwedge fun _ _ => ⟨Step.wedge, True.intro⟩

omit L in
theorem via_clearSideBand (hside : A .clearSideBand) :
    Via A p (Op.update clearSideBand) (fun _ _ => True) :=
  Via.step hside fun _ _ => ⟨Step.clearSideBand, True.intro⟩

omit L in
theorem foldl_unpin_sequences (ids : List Bytes) (q : PartySequence) :
    (ids.foldl PartySequence.unpin q).history = q.history ∧
      (ids.foldl PartySequence.unpin q).authorizedNext = q.authorizedNext := by
  induction ids generalizing q with
  | nil => exact ⟨rfl, rfl⟩
  | cons id rest ih =>
      rw [List.foldl_cons]
      exact ih (q.unpin id)

omit L in
theorem via_retireStalePins (hmeta : A .authMeta)
    (hp : forall c a, p c -> p { c with auth := a }) :
    Via A p (Op.update retireStalePins) (fun _ c => p c) := by
  refine Via.step hmeta fun s hs => ⟨Step.authMeta ?_, hp _ _ hs⟩
  exact ⟨rfl, (foldl_unpin_sequences _ _).1, (foldl_unpin_sequences _ _).2,
    (foldl_unpin_sequences _ _).1, (foldl_unpin_sequences _ _).2⟩

/-!
## The A.4 ratchet
-/

omit L in
def ratchetRespondEvents : Event M -> Prop
  | .quiet => True
  | .respond _ _ => True
  | .parkLeg _ => True
  | _ => False

omit L in
theorem via_ratchetRespondGuard {frame : Frame M} :
    Via A p (ratchetRespondGuard frame) (fun _ c => c.inflight = none ∧ p c) := by
  unfold ratchetRespondGuard
  refine Via.bind Via.state fun s => ?_
  refine Via.looking (Op.Still.ofExcept _) fun leg => ?_
  refine Via.looking (Op.Still.ofOption _ _) fun recv => ?_
  refine Via.looking ?_ fun _ => ?_
  · split
    · exact Op.Still.value _
    · exact Op.Still.fail _
    · exact Op.Still.fail _
  refine Via.looking (Op.Still.ensure _ _) fun _ => ?_
  refine Via.bind (q := fun _ c => c.inflight = none ∧ p c) ?_ fun _ => ?_
  · split
    · exact Via.fail _
    · exact Via.fail _
    next hidle =>
      refine Via.value _ ?_
      rintro c ⟨rfl, hc⟩
      exact ⟨hidle, hc⟩
  refine Via.looking (Op.Still.ensure _ _) fun _ => ?_
  exact Via.value _ fun c hc => hc

theorem via_ratchetRespondInner {leg : M.Message} {rnd : Nat -> M.Seed} :
    Via ratchetRespondEvents (fun c => c.inflight = none)
      (ratchetRespondInner leg rnd) (fun _ _ => True) := by
  have hidle : Stable fun c : Core M => c.inflight = none :=
    Stable.slots fun _ _ h => h
  unfold ratchetRespondInner
  have hlive : Stable fun c : Core M => c.half .recvPq ≠ none ∧ c.inflight = none :=
    (Stable.live _).and hidle
  refine Via.bind (via_processA4Leg L True.intro hidle) fun ek => ?_
  refine Via.bind (Via.readHalf _ _) fun recvPq => ?_
  refine Via.pre (p := fun c => c.half .recvPq ≠ none ∧ c.inflight = none) ?_
    fun c hc => ⟨ne_none_of_held hc.1, hc.2⟩
  refine Via.quietly True.intro hlive (QuietOp.ofExcept _) fun psk => ?_
  refine Via.quietly True.intro hlive (QuietOp.ofExcept _) fun sealed => ?_
  rcases sealed with ⟨secret, wireCt⟩
  refine Via.quietly True.intro hlive
    (QuietOp.callHalf fun _ g => L.encrypt _ _ _ g) fun message => ?_
  refine Via.bind (q := fun _ c =>
    c.inflight = some (.responding secret (some wireCt))) ?_ fun _ => ?_
  · exact Via.step (e := .respond secret wireCt) True.intro fun s hs =>
      ⟨Step.respond hs.2 hs.1, rfl⟩
  refine Via.quietly True.intro (Stable.slots fun _ _ h => h) (QuietOp.ofExcept _)
    fun body => ?_
  refine Via.step (e := .parkLeg { kind := .ratchetCiphertext, body := body })
    True.intro fun s hs => ⟨Step.parkLeg ?_, True.intro⟩
  exact Or.inr ⟨secret, _, hs, rfl⟩

omit L in
def bindEvents : Event M -> Prop
  | .quiet => True
  | .closeRound => True
  | .ownCommit h fold identity => h = .sendPq ∧ fold = none ∧ identity = none
  | .setOwed _ => True
  | .clearSideBand => True
  | .wedge _ => True
  | _ => False

omit L in
theorem via_ratchetBindGuard {frame : Frame M} :
    Via A p (ratchetBindGuard frame) (fun _ c => c.owed = none ∧ p c) := by
  unfold ratchetBindGuard
  refine Via.bind Via.state fun s => ?_
  refine Via.looking (Op.Still.ofExcept _) fun leg => ?_
  refine Via.looking (still_readHalf _ _) fun recv => ?_
  refine Via.looking (Op.Still.ofExcept _) fun carrier => ?_
  refine Via.looking (Op.Still.ensure _ _) fun _ => ?_
  refine Via.looking (Op.Still.ensure _ _) fun _ => ?_
  refine Via.bind (Via.ensure _ _) fun _ => ?_
  refine Via.assume fun howed => ?_
  refine Via.looking (Op.Still.ensure _ _) fun _ => ?_
  refine Via.looking (Op.Still.ofExcept _) fun _ => ?_
  refine Via.looking ?_ fun _ => ?_
  · split
    · exact Op.Still.value _
    · split
      · exact Op.Still.fail _
      · exact Op.Still.fail _
    · exact Op.Still.fail _
  refine Via.value _ ?_
  rintro c ⟨rfl, hc⟩
  exact ⟨Option.isNone_iff_eq_none.mp howed, hc⟩

theorem via_openCiphertextLeg {leg : M.Message} {carrier : LegCarrier}
    (hquiet : A .quiet) (hp : Stable p) :
    Via A p (openCiphertextLeg leg carrier) (fun _ c => p c) := by
  unfold openCiphertextLeg
  cases carrier with
  | classical => exact via_processA4Leg L hquiet hp
  | pq =>
      refine Via.bind (via_processA4Leg L hquiet hp).attempt fun opened => ?_
      cases opened with
      | ok payload => exact Via.value _ fun c hc => hc payload rfl
      | error e =>
          refine Via.bind (q := fun _ _ => True) ?_ fun _ => Via.fail _
          refine Via.pre (p := fun _ => True) ?_ fun _ _ => True.intro
          exact Via.quiet hquiet (Stable.const True)
            (QuietOp.onHalf fun _ hs => ⟨rfl, L.clearCache hs.group⟩)

omit L in
theorem quiet_openRoundSecret (wireCt : Bytes) :
    QuietOp (openRoundSecret wireCt : SessionOp M Bytes) := by
  unfold openRoundSecret
  refine QuietOp.bind (QuietOp.readHalf _ _) fun sendPq => ?_
  refine QuietOp.bind (QuietOp.ofExcept _) fun psk => ?_
  refine QuietOp.bind QuietOp.state fun s => ?_
  split
  · exact QuietOp.ofExcept _
  · exact QuietOp.fail _

theorem via_ratchetBindInner {leg : M.Message} {carrier : LegCarrier}
    {seed : M.Seed} :
    Via bindEvents (fun c => c.owed = none) (ratchetBindInner leg carrier seed)
      (fun _ _ => True) := by
  have howed : Stable fun c : Core M => c.owed = none :=
    Stable.slots fun _ _ h => h
  unfold ratchetBindInner
  refine Via.bind (via_openCiphertextLeg L True.intro howed) fun wireCt => ?_
  refine Via.quietly True.intro howed (quiet_openRoundSecret _) fun secret => ?_
  refine Via.quietly True.intro howed (quiet_rememberSendPsk L) fun _ => ?_
  refine Via.bind (via_pastNoReturn (A := bindEvents) (q := fun _ _ => True)
    True.intro ?_) fun _ => ?_
  · refine Via.bind (q := fun _ c => c.owed = none) ?_ fun _ => ?_
    · exact Via.step (A := bindEvents) (e := .closeRound) True.intro fun s hs =>
        ⟨Step.closeRound, hs⟩
    refine Via.bind
      (via_commitPqAndOweBind (A := bindEvents) L True.intro ⟨rfl, rfl, rfl⟩
        fun _ => True.intro)
      fun _ => ?_
    exact via_clearSideBand True.intro
  exact Via.quiet True.intro (Stable.const True) quiet_recordPqHeaderKeyPostCommit

/-!
## The A.5 rekey
-/

omit L in
def rekeyRespondEvents : Event M -> Prop
  | .quiet => True
  | .ownCommit h fold _ => h = .sendPq ∧ fold = none
  | .authMeta => True
  | .openRound i _ => i = .rekeyResponded
  | _ => False

omit L in
theorem via_rekeyRespondGuard {frame : Frame M} :
    Via A p (rekeyRespondGuard frame)
      (fun m c => (M.description m).contentType = some .proposal ∧
        c.owed = none ∧ p c) := by
  unfold rekeyRespondGuard
  refine Via.bind Via.state fun s => ?_
  refine Via.looking (Op.Still.ofExcept _) fun proposal => ?_
  refine Via.bind (Via.ensure _ _) fun _ => ?_
  refine Via.assume fun hkind => ?_
  refine Via.looking (Op.Still.ensure _ _) fun _ => ?_
  refine Via.bind (Via.ensure _ _) fun _ => ?_
  refine Via.assume fun howed => ?_
  refine Via.value _ ?_
  rintro c ⟨rfl, hc⟩
  exact ⟨contentType_of_declared hkind, Option.isNone_iff_eq_none.mp howed, hc⟩

theorem via_crossPskForRekey (hquiet : A .quiet) (hp : Stable p) :
    Via A p (crossPskForRekey : SessionOp M (Option ExportedPsk))
      (fun _ c => c.half .recvPq ≠ none ∧ p c) := by
  have hlive : Stable fun c : Core M => c.half .recvPq ≠ none ∧ p c :=
    (Stable.live _).and hp
  unfold crossPskForRekey
  refine Via.bind (Via.readHalf _ _) fun recvPq => ?_
  refine Via.pre (p := fun c => c.half .recvPq ≠ none ∧ p c) ?_
    fun c hc => ⟨ne_none_of_held hc.1, hc.2⟩
  refine Via.looking Op.Still.state fun s => ?_
  refine Via.ite (Via.value _ fun _ hc => hc) ?_
  refine Via.quietly hquiet hlive (quiet_exportCrossFromRecvPq L) fun exported => ?_
  refine Via.quietly hquiet hlive (QuietOp.update fun _ => rfl) fun _ => ?_
  exact Via.value _ fun _ hc => hc

theorem via_ingestRekeyUpdate {proposal : M.Message}
    (hquiet : A .quiet) (hp : Stable p)
    (hkind : (M.description proposal).contentType = some .proposal) :
    Via A p (ingestRekeyUpdate proposal) (fun _ c => p c) := by
  have hnot : (M.description proposal).contentType ≠ some .commit := by
    rw [hkind]
    decide
  have hrefuse : forall e,
      Via A p (ingestRekeyUpdate.refuse (M := M) e) (fun _ c => p c) := by
    intro e
    unfold ingestRekeyUpdate.refuse
    refine Via.quietly hquiet hp
      (QuietOp.onHalf fun _ hs => ⟨rfl, L.clearCache hs.group⟩) fun _ => ?_
    exact Via.fail _
  unfold ingestRekeyUpdate
  refine Via.looking Op.Still.state fun s => ?_
  refine Via.looking (still_readHalf _ _) fun sendPq => ?_
  refine Via.bind
    ((via_processQuiet L hquiet hp hnot).post fun _ _ hc => hc.1) fun received => ?_
  split
  · exact hrefuse _
  · exact Via.ite (Via.value _ fun _ hc => hc) (hrefuse _)

omit L in
/-- The handoff a Commit' carries: the current identity, when our send leaf
presents another one. -/
def HandoffFor (c : Core M) (handoff : Option (M.Signer × Bytes)) : Prop :=
  exists g leaf,
    c.half .sendPq = some g ∧
      senderClientId g (M.currentMemberIndex g) = .ok leaf ∧
      handoff =
        if leaf ≠ c.client.clientId then some (c.client.pqSigner, c.client.clientId)
        else none

omit L in
theorem HandoffFor.handsOff {c : Core M} {handoff : Option (M.Signer × Bytes)}
    (h : HandoffFor c handoff) :
    HandsOff c.client.pq handoff := by
  rcases h with ⟨g, leaf, _, _, rfl⟩
  split
  · exact Or.inr rfl
  · exact Or.inl rfl

omit L in
theorem HandoffFor.setHalf {c : Core M} {handoff : Option (M.Signer × Bytes)}
    {g g' : M.Group} (h : HandoffFor c handoff) (held : c.half .sendPq = some g)
    (hsame : Undisturbed g g') :
    HandoffFor (c.setHalf .sendPq g') handoff := by
  rcases h with ⟨g₀, leaf, held₀, hleaf, rfl⟩
  rw [held] at held₀
  cases held₀
  refine ⟨g', leaf, Core.half_setHalf .., ?_, rfl⟩
  rw [hsame.memberIndex, senderClientId_leafAt (hsame.leafAt_eq _)]
  exact hleaf

omit L in
theorem via_rekeyHandoff :
    Via A p rekeyHandoff (fun handoff c => p c ∧ HandoffFor c handoff) := by
  unfold rekeyHandoff
  refine Via.bind Via.state fun s => ?_
  refine Via.bind (Via.readHalf _ _) fun sendPq => ?_
  refine Via.bind (Via.ofExcept _) fun leaf => ?_
  refine Via.value _ ?_
  rintro c ⟨hleaf, held, rfl, hc⟩
  exact ⟨hc, sendPq, leaf, held, hleaf, rfl⟩

theorem via_rekeyRespondThen {proposal : M.Message} {seed : M.Seed}
    {q : Core M -> Prop}
    (hkind : (M.description proposal).contentType = some .proposal)
    (hq : Stable q)
    (hslots : forall c c', c'.half = c.half -> c'.client = c.client -> q c -> q c')
    (happly : forall c env g handoff,
      c.half .sendPq = some g -> HandoffFor c handoff ->
        M.pendingSigningIdentity g = some handoff ->
        (M.applyPendingCommit env g).1 = .ok () ->
          q (c.setHalf .sendPq (M.applyPendingCommit env g).2)) :
    Via rekeyRespondEvents (fun c => c.owed = none)
      (rekeyRespondInner proposal seed) (fun _ c => q c) := by
  have howed : Stable fun c : Core M => c.owed = none :=
    Stable.slots fun _ _ h => h
  have hlive : Stable fun c : Core M => c.half .recvPq ≠ none ∧ c.owed = none :=
    (Stable.live _).and howed
  have hliveQ : Stable fun c : Core M => c.half .recvPq ≠ none ∧ q c :=
    (Stable.live _).and hq
  unfold rekeyRespondInner
  refine Via.bind (via_crossPskForRekey L True.intro howed) fun crossPsk => ?_
  refine Via.bind (via_ingestRekeyUpdate L True.intro hlive hkind) fun rotated => ?_
  refine Via.bind via_rekeyHandoff fun handoff => ?_
  -- the built commit carries the handoff into the apply
  refine Via.bind (q := fun _ c =>
    ((c.half .recvPq ≠ none ∧ c.owed = none) ∧ HandoffFor c handoff) ∧
    exists g, c.half .sendPq = some g ∧
      M.pendingSigningIdentity g = some handoff) ?_ fun output => ?_
  · refine Via.callHalf fun c env g hc held => ?_
    have hbuilt := L.build env
      { addMember := none
        psks := (crossPsk.map ExportedPsk.storageId).toList
        customProposal := none
        newSigningIdentity := handoff } seed g
    refine ⟨Path.single (e := .quiet) True.intro
      (Step.quiet (Quiet.setHalf held hbuilt)), ?_⟩
    intro out hout
    refine ⟨⟨⟨?_, hc.1.2⟩, hc.2.setHalf held hbuilt⟩, _, Core.half_setHalf ..,
      (L.buildMessage _ _ _ _ _ hout).2.2⟩
    rw [Core.half_setHalf_of_ne (by decide)]
    exact hc.1.1
  refine Via.bind (q := fun _ c => c.half .recvPq ≠ none ∧ q c) ?_ fun _ => ?_
  · refine Via.callHalf fun c env g hc held => ?_
    rcases hc with ⟨⟨⟨hliveNow, hdischarged⟩, hhandoff⟩, g', held', hpending⟩
    rw [held] at held'
    cases held'
    refine ⟨?_, fun _ hok =>
      ⟨?_, happly c env g handoff held hhandoff hpending hok⟩⟩
    swap
    · rw [Core.half_setHalf_of_ne (by decide)]
      exact hliveNow
    rcases hrun : (M.applyPendingCommit env g).1 with e | ⟨⟩
    · exact Path.single (e := .quiet) True.intro
        (Step.quiet (Quiet.setHalf held (L.applyError env g e hrun)))
    · rcases L.applyOk env g hrun with ⟨identity, hidentity, happlied⟩
      rw [hpending] at hidentity
      cases hidentity
      exact Path.single (e := .ownCommit .sendPq none handoff) ⟨rfl, rfl⟩
        (Step.ownCommitPq held hdischarged hhandoff.handsOff happlied)
  refine Via.looking (still_readHalf _ _) fun sendPq => ?_
  refine Via.looking (Op.Still.ofExcept _) fun _ => ?_
  refine Via.looking (Op.Still.ofExcept _) fun body => ?_
  refine Via.quietly True.intro hliveQ (QuietOp.update ?_) fun _ => ?_
  · intro s
    cases crossPsk with
    | none => rfl
    | some psk => rfl
  refine Via.bind (via_retireStalePins True.intro
    fun c a h => ⟨h.1, hslots c { c with auth := a } rfl rfl h.2⟩) fun _ => ?_
  refine Via.bind (q := fun _ c => q c) ?_ fun _ => ?_
  · refine Via.step
      (e := .openRound .rekeyResponded { kind := .rekeyCommit, body := body }) rfl
      fun s hs => ⟨Step.openRound ?_, hslots s.core _ rfl rfl hs.2⟩
    exact
      { proposed := fun h => nomatch h
        live := Or.inl hs.1
        round := fun h => nomatch h
        kind := fun h => nomatch h }
  refine Via.quietly True.intro hq quiet_recordPqHeaderKeyPostCommit fun _ => ?_
  exact Via.value _ fun _ hc => hc

theorem via_rekeyRespondInner {proposal : M.Message} {seed : M.Seed}
    (hkind : (M.description proposal).contentType = some .proposal) :
    Via rekeyRespondEvents (fun c => c.owed = none)
      (rekeyRespondInner proposal seed) (fun _ _ => True) :=
  via_rekeyRespondThen L hkind (Stable.const True) (fun _ _ _ _ h => h)
    fun _ _ _ _ _ _ _ _ => True.intro

omit L in
def rekeyApplyEvents : Event M -> Prop
  | .quiet => True
  | .applyRekey _ => True
  | .authMeta => True
  | .closeRound => True
  | .ownCommit h fold identity => h = .sendPq ∧ fold = none ∧ identity = none
  | .setOwed _ => True
  | .clearSideBand => True
  | .wedge _ => True
  | _ => False

omit L in
theorem via_rekeyApplyGuard {frame : Frame M} :
    Via A p (rekeyApplyGuard frame)
      (fun _ c => (c.inflight = some .rekeyInitiated ∧ c.owed = none) ∧ p c) := by
  unfold rekeyApplyGuard
  refine Via.bind Via.state fun s => ?_
  refine Via.looking (Op.Still.ofExcept _) fun commit => ?_
  refine Via.looking (Op.Still.ensure _ _) fun _ => ?_
  refine Via.bind (Via.ensure _ _) fun _ => ?_
  refine Via.assume fun howed => ?_
  refine Via.looking (Op.Still.ensure _ _) fun _ => ?_
  refine Via.looking (Op.Still.ofExcept _) fun _ => ?_
  refine Via.bind (q := fun _ c =>
    (c.inflight = some .rekeyInitiated ∧ c.owed = none) ∧ p c) ?_ fun _ => ?_
  · split
    next hround =>
      refine Via.value _ ?_
      rintro c ⟨rfl, hc⟩
      exact ⟨⟨hround, Option.isNone_iff_eq_none.mp howed⟩, hc⟩
    · split
      · exact Via.fail _
      · exact Via.fail _
    · exact Via.fail _
  exact Via.value _ fun _ hc => hc

theorem quiet_preRegisterSendPq :
    QuietOp (preRegisterSendPq : SessionOp M (Option PskId)) := by
  unfold preRegisterSendPq
  refine QuietOp.bind (QuietOp.readHalf _ _) fun sendPq => ?_
  refine QuietOp.bind QuietOp.state fun s => ?_
  split
  · refine QuietOp.bind (quiet_exportCrossFromSendPq L) fun exported => ?_
    refine QuietOp.bind (QuietOp.update fun _ => rfl) fun _ => ?_
    exact QuietOp.pure _
  · exact QuietOp.pure _

theorem via_applyRekeyCommit {m : M.Message}
    (hquiet : A .quiet) (happly : A (.applyRekey m)) :
    Via A (fun c => c.inflight = some .rekeyInitiated ∧ c.owed = none)
      (applyRekeyCommit m) (fun _ c => c.owed = none) := by
  unfold applyRekeyCommit
  refine Via.bind (q := fun _ c => c.owed = none) ?_ fun received => ?_
  · refine Via.callHalf fun c env g hc held => ?_
    refine ⟨?_, fun _ _ => hc.2⟩
    have heffect := L.process env m g
    rcases hrun : M.processIncomingMessage env m g with ⟨r, g'⟩
    rw [hrun] at heffect
    cases r with
    | error e => exact Path.single hquiet (Step.quiet (Quiet.setHalf held heffect))
    | ok received =>
        cases received with
        | applicationMessage index data =>
            exact Path.single hquiet (Step.quiet (Quiet.setHalf held heffect.2))
        | proposal desc =>
            exact Path.single hquiet (Step.quiet (Quiet.setHalf held heffect.2.2))
        | commit effect =>
            exact Path.single happly (Step.applyRekey held hc.1 heffect.2)
        | other =>
            exact Path.single hquiet (Step.quiet (Quiet.setHalf held heffect.2))
  refine Via.looking ?_ fun _ => ?_
  · cases received with
    | commit effect =>
        exact Op.Still.bind (Op.Still.ofExcept _) fun _ => Op.Still.ensure _ _
    | applicationMessage index data => exact Op.Still.fail _
    | proposal desc => exact Op.Still.fail _
    | other => exact Op.Still.fail _
  refine Via.looking (still_readHalf _ _) fun recvPq => ?_
  exact (Via.ofExcept _).post fun _ _ hc => hc.2

theorem via_rekeyApplyInner {commit : Blob M} {seed : M.Seed} :
    Via rekeyApplyEvents
      (fun c => c.inflight = some .rekeyInitiated ∧ c.owed = none)
      (rekeyApplyInner commit seed) (fun _ _ => True) := by
  have howed : Stable fun c : Core M => c.owed = none :=
    Stable.slots fun _ _ h => h
  unfold rekeyApplyInner
  refine Via.looking (Op.Still.ofOption _ _) fun m => ?_
  refine Via.quietly True.intro (Stable.slots fun _ _ h => h)
    (quiet_preRegisterSendPq L) fun preRegistered => ?_
  refine Via.bind (via_applyRekeyCommit L True.intro True.intro) fun _ => ?_
  refine Via.bind (via_pastNoReturn (A := rekeyApplyEvents) (q := fun _ _ => True)
    True.intro ?_) fun _ => ?_
  · refine Via.bind (q := fun _ c => c.owed = none) ?_ fun _ => ?_
    · exact Via.step (A := rekeyApplyEvents) (e := .closeRound) True.intro
        fun s hs => ⟨Step.closeRound, hs⟩
    refine Via.quietly True.intro howed (QuietOp.update ?_) fun _ => ?_
    · intro s
      cases preRegistered with
      | none => rfl
      | some id => rfl
    refine Via.quietly True.intro howed (quiet_exportCrossFromRecvPq L)
      fun exported => ?_
    refine Via.bind
      (via_commitPqAndOweBind (A := rekeyApplyEvents) L True.intro ⟨rfl, rfl, rfl⟩
        fun _ => True.intro)
      fun _ => ?_
    refine Via.bind (via_retireStalePins True.intro fun _ _ h => h) fun _ => ?_
    exact via_clearSideBand True.intro
  exact Via.quiet True.intro (Stable.const True) quiet_recordPqHeaderKeyPostCommit

/-!
## The A.3 bootstrap
-/

omit L in
def bootstrapOpenEvents : Event M -> Prop
  | .quiet => True
  | .authMeta => True
  | .registerBootstrap _ => True
  | _ => False

omit L in
theorem pin_sequences (q : PartySequence) (id : Bytes) :
    (q.pin id).history = q.history ∧
      (q.pin id).authorizedNext = q.authorizedNext := by
  unfold PartySequence.pin
  split
  · exact ⟨rfl, rfl⟩
  · exact ⟨rfl, rfl⟩

omit L in
theorem via_registerBootstrapRound {kp : Blob M} {sealed : Bool} :
    Via bootstrapOpenEvents (fun c => Registers c kp)
      (registerBootstrapRound kp sealed) (fun _ _ => True) := by
  unfold registerBootstrapRound
  refine Via.looking (Op.Still.ofExcept _) fun founding => ?_
  refine Via.update fun s hs => ⟨?_, True.intro⟩
  have hpin := pin_sequences s.services.auth.mine founding
  have hstep :
      Step .authMeta s.core
        { s.core with
          auth := { s.core.auth with mine := s.core.auth.mine.pin founding } } :=
    Step.authMeta ⟨rfl, hpin.1, hpin.2, rfl, rfl⟩
  refine (Path.single (e := .authMeta) True.intro hstep).trans ?_
  exact Path.single (e := .registerBootstrap kp) True.intro
    (Step.registerBootstrap hs)

omit L in
/-- Where a leg handed out comes from: it was parked, or it carries the
pre-committed key package. -/
def LegOf (c : Core M) (leg : SideBand M) : Prop :=
  c.sideBand = some leg ∨
    (leg.kind = .bootstrapKeyPackage ∧ c.bootstrapKp = some leg.body)

omit L in
theorem parked_sideBand {s : SessionInner M} {retained : RetainedFrame M}
    (h : s.round.pendingSideBand = some retained) :
    s.core.sideBand = some retained.frame := by
  change s.round.pendingSideBand.map RetainedFrame.frame = _
  rw [h]
  rfl

omit L in
theorem via_bootstrapBeginGuard {c₀ : Core M} {rotating : Option Bytes} :
    Via A (fun c => c = c₀) (bootstrapBeginGuard rotating)
      (fun retained c => (forall leg, retained = some leg -> LegOf c₀ leg) ∧
        (retained = none -> c₀.bootstrapKp ≠ none) ∧ c = c₀) := by
  unfold bootstrapBeginGuard
  refine Via.bind Via.state fun s => ?_
  refine Via.looking (Op.Still.ensure _ _) fun _ => ?_
  refine Via.looking (Op.Still.ensure _ _) fun _ => ?_
  refine Via.looking (Op.Still.ensure _ _) fun _ => ?_
  split
  · refine Via.bind (Via.ofOption _ _) fun retained => ?_
    refine Via.looking (still_sealSideBand _) fun _ => ?_
    refine Via.value _ ?_
    rintro c ⟨hparked, hs, rfl⟩
    refine ⟨fun leg hleg => Or.inl ?_, fun h => absurd h (Option.some_ne_none _), rfl⟩
    cases hleg
    rw [← hs]
    exact parked_sideBand hparked
  · refine Via.bind (Via.ensure _ _) fun _ => ?_
    refine Via.value _ ?_
    rintro c ⟨hkp, hs, rfl⟩
    refine ⟨fun _ h => absurd h.symm (Option.some_ne_none _), fun _ => ?_, rfl⟩
    rw [← hs]
    exact Option.isSome_iff_ne_none.mp hkp

omit L in
theorem via_bootstrapBeginInner {c₀ : Core M} :
    Via bootstrapOpenEvents (fun c => c = c₀) (bootstrapBeginInner (M := M))
      (fun leg _ => LegOf c₀ leg) := by
  unfold bootstrapBeginInner
  refine Via.bind Via.state fun s => ?_
  refine Via.bind (Via.ofOption _ _) fun kp => ?_
  refine Via.assume fun hkp => ?_
  dsimp only
  refine Via.pre (p := fun c => s.core = c ∧ c = c₀) ?_ fun _ hc => hc
  refine Via.looking (still_sealSideBand _) fun _ => ?_
  have hheld : s.core.bootstrapKp = some kp := hkp
  refine Via.bind (q := fun _ _ => LegOf c₀ { kind := .bootstrapKeyPackage, body := kp })
    ?_ fun _ => Via.value _ fun _ hc => hc
  intro s' hs'
  rcases hs' with ⟨hs, hc⟩
  have hregisters : Registers s'.core kp := by
    rw [← hs]
    refine ⟨?_, Or.inl hheld⟩
    rw [hheld]
    exact fun h => nomatch h
  refine ⟨(via_registerBootstrapRound s' hregisters).1, fun _ _ => Or.inr ⟨rfl, ?_⟩⟩
  rw [← hc, ← hs]
  exact hheld

omit L in
theorem via_bootstrapEnvelopeGuard {c₀ : Core M} {seed : M.Seed} :
    Via A (fun c => c = c₀) (bootstrapEnvelopeGuard seed)
      (fun retained c =>
        (forall leg, retained = some leg -> LegOf c₀ leg) ∧
          (retained = none -> c₀.bootstrapKp ≠ none) ∧ c = c₀) := by
  unfold bootstrapEnvelopeGuard
  refine Via.bind Via.state fun s => ?_
  refine Via.looking (Op.Still.ofOption _ _) fun theirKp => ?_
  split
  · refine Via.bind (Via.ofOption _ _) fun retained => ?_
    refine Via.looking (Op.Still.ofExcept _) fun _ => ?_
    refine Via.value _ ?_
    rintro c ⟨hparked, hs, rfl⟩
    refine ⟨fun leg hleg => Or.inl ?_, nofun, rfl⟩
    cases hleg
    rw [← hs]
    exact parked_sideBand hparked
  · refine Via.bind (Via.ensure _ _) fun _ => ?_
    refine Via.value _ ?_
    rintro c ⟨hkp, hs, rfl⟩
    refine ⟨nofun, fun _ => ?_, rfl⟩
    rw [← hs]
    exact Option.isSome_iff_ne_none.mp hkp
  · exact Via.fail _

omit L in
theorem via_bootstrapEnvelopeInner {c₀ : Core M} {seed : M.Seed}
    (hheld : c₀.bootstrapKp ≠ none) :
    Via bootstrapOpenEvents (fun c => c = c₀) (bootstrapEnvelopeInner seed)
      (fun leg _ => LegOf c₀ leg) := by
  unfold bootstrapEnvelopeInner
  refine Via.bind Via.state fun s => ?_
  refine Via.bind (Via.ofOption _ _) fun theirKp => ?_
  refine Via.assume fun htarget => ?_
  refine Via.bind (q := fun leg c => LegOf c₀ leg ∧ s.core = c ∧ c = c₀)
    ?_ fun leg => ?_
  · cases hparked : s.round.pendingSideBand with
    | some retained =>
        refine Via.value _ ?_
        rintro c ⟨hs, hc⟩
        refine ⟨Or.inl ?_, hs, hc⟩
        rw [← hc, ← hs]
        exact parked_sideBand hparked
    | none =>
        refine Via.bind (Via.ofOption _ _) fun kp => ?_
        refine Via.value _ ?_
        rintro c ⟨hkp, hs, hc⟩
        refine ⟨Or.inr ⟨rfl, ?_⟩, hs, hc⟩
        rw [← hc, ← hs]
        exact hkp
  refine Via.looking (Op.Still.ofExcept _) fun _ => ?_
  refine Via.bind (q := fun _ _ => LegOf c₀ leg) ?_
    fun _ => Via.value _ fun _ hc => hc
  by_cases hidle : s.round.pqInflight.isNone = true
  · rw [if_pos hidle]
    intro s' hs'
    rcases hs' with ⟨hleg, hs, hc⟩
    have hregisters : Registers s'.core leg.body := by
      rw [hc]
      refine ⟨hheld, ?_⟩
      rcases hleg with hparked | ⟨_, hkp⟩
      · refine Or.inr ⟨?_, ?_, leg, hparked, rfl⟩
        · rw [← hc, ← hs]
          change s.establishment.initialTheirKp ≠ none
          rw [htarget]
          exact fun h => nomatch h
        · rw [← hc, ← hs]
          exact Option.isNone_iff_eq_none.mp hidle
      · exact Or.inl hkp
    exact ⟨(via_registerBootstrapRound s' hregisters).1, fun _ _ => hleg⟩
  · rw [if_neg hidle]
    exact Via.value _ fun _ hc => hc.1

omit L in
def bootstrapRespondEvents : Event M -> Prop
  | .quiet => True
  | .authMeta => True
  | .createSendPq _ => True
  | .openRound i _ => i = .bootstrapResponded
  | _ => False

omit L in
theorem via_bootstrapRespondGuard {frame : Frame M} :
    Via A p (bootstrapRespondGuard frame) (fun _ c => c.commitment ≠ none) := by
  unfold bootstrapRespondGuard
  refine Via.bind Via.state fun s => ?_
  refine Via.looking (Op.Still.ofExcept _) fun kp => ?_
  refine Via.looking (Op.Still.ofExcept _) fun _ => ?_
  refine Via.bind (Via.ofOption _ _) fun expected => ?_
  refine Via.assume fun hexpected => ?_
  refine Via.looking (Op.Still.ensure _ _) fun _ => ?_
  refine Via.looking (Op.Still.ensure _ _) fun _ => ?_
  refine Via.value _ ?_
  rintro c ⟨rfl, _⟩ hnone
  have hnone' : s.round.expectedBootstrapKpCommitment = none := hnone
  rw [hexpected] at hnone'
  cases hnone'

omit L in
def addRequest (kp : M.Message) (psks : List ExportedPsk) (creation : GroupCreation) :
    CommitRequest M.Message M.Signer :=
  { addMember := some kp
    psks := psks.map ExportedPsk.storageId
    customProposal := creation.appDataUpdate
    newSigningIdentity := none }

omit L in
theorem createGroupWithMember_ok {env : MlsEnv}
    {client : ClientIdentity M.Signer} {suite : Nat} {theirKp : Blob M}
    {psks : List ExportedPsk} {creation : GroupCreation} {rnd : Nat -> M.Seed}
    {g : M.Group} {w : Blob M}
    (h : createGroupWithMember env client suite theirKp psks creation rnd =
      .ok (g, w)) :
    exists g₀ kp output built welcome,
      M.createGroupWithId env client suite creation.groupId creation.extensions
          (rnd 0) = .ok g₀ ∧
        M.buildCommit env (addRequest kp psks creation) (rnd 1) g₀ =
          (.ok output, built) ∧
        M.applyPendingCommit env built = (.ok (), g) ∧
        welcome ∈ output.welcomeMessages ∧ w.parsed = some welcome := by
  unfold createGroupWithMember at h
  cases hcreate : M.createGroupWithId env client suite creation.groupId
      creation.extensions (rnd 0) with
  | error e =>
      rw [hcreate] at h
      cases h
  | ok g₀ =>
      rw [hcreate] at h
      cases hkp : theirKp.parsed with
      | none =>
          rw [hkp] at h
          cases h
      | some kp =>
          rw [hkp] at h
          simp only [orError, bind, Except.bind] at h
          split at h
          · cases h
          next output built hbuild =>
            split at h
            · cases h
            next applied happly =>
              split at h
              · cases h
              next welcome rest hwelcomes =>
                split at h
                · cases h
                next bytes hbytes =>
                  cases h
                  refine ⟨g₀, kp, output, built, welcome, rfl, hbuild, happly, ?_, ?_⟩
                  · rw [hwelcomes]
                    exact List.mem_cons_self ..
                  · refine parsed_ofMessage (b := w) ?_
                    rw [hbytes]
                    rfl

theorem created_of_createGroupWithMember {env : MlsEnv}
    {client : ClientIdentity M.Signer} {suite : Nat} {theirKp : Blob M}
    {psks : List ExportedPsk} {creation : GroupCreation} {rnd : Nat -> M.Seed}
    {g : M.Group} {w : Blob M}
    (h : createGroupWithMember env client suite theirKp psks creation rnd =
      .ok (g, w)) :
    Created client g := by
  rcases createGroupWithMember_ok h with
    ⟨g₀, kp, output, built, welcome, hcreate, hbuild, happly, _, _⟩
  rcases L.createGroup _ _ _ _ _ _ _ hcreate with ⟨hepoch, hown, hsigner, hupdates⟩
  have hsame := L.build env (addRequest kp psks creation) (rnd 1) g₀
  have hmessage := L.buildMessage env (addRequest kp psks creation) (rnd 1) g₀ output
  rw [hbuild] at hsame hmessage
  have hok := L.applyOk env built
  rw [happly] at hok
  rcases hok rfl with ⟨identity, hidentity, hcommit⟩
  rw [(hmessage rfl).2.2] at hidentity
  cases hidentity
  have hcommit' := hcommit.before hsame
  have hkept : OwnKept g₀ g := by
    rcases hcommit'.own with hkept | ⟨_, _, hnone, _⟩
    · exact hkept
    · cases hnone
  exact
    { epoch := by rw [hcommit'.epoch, hepoch]
      updates := hcommit'.updates
      signer := hkept.2.trans hsigner
      own := hkept.1.trans hown }

theorem welcome_of_createGroupWithMember {env : MlsEnv}
    {client : ClientIdentity M.Signer} {suite : Nat} {theirKp : Blob M}
    {psks : List ExportedPsk} {creation : GroupCreation} {rnd : Nat -> M.Seed}
    {g : M.Group} {w : Blob M} {m : M.Message}
    (h : createGroupWithMember env client suite theirKp psks creation rnd =
      .ok (g, w))
    (hm : w.parsed = some m) :
    M.welcomeEpoch m = 1 := by
  rcases createGroupWithMember_ok h with
    ⟨g₀, kp, output, built, welcome, hcreate, hbuild, _, hmem, hparsed⟩
  rw [hm] at hparsed
  cases hparsed
  have hwelcome := L.buildWelcome env (addRequest kp psks creation) (rnd 1) g₀ output m
  rw [hbuild] at hwelcome
  rw [hwelcome rfl hmem, (L.createGroup _ _ _ _ _ _ _ hcreate).1]

theorem via_createDeferredPqHalf {kp : Blob M} {rnd : Nat -> M.Seed}
    (hcreate : A (.createSendPq kp)) :
    Via A (fun c => c.commitment ≠ none) (createDeferredPqHalf kp rnd)
      (fun _ c => c.commitment ≠ none) := by
  unfold createDeferredPqHalf
  refine Via.bind Via.state fun s => ?_
  dsimp only
  refine Via.bind (Via.ofOption _ _) fun send => ?_
  refine Via.assume fun hsend => ?_
  refine Via.bind (Via.ensure _ _) fun _ => ?_
  refine Via.assume fun hpq => ?_
  refine Via.looking (Op.Still.ofExcept _) fun classicalInfo => ?_
  refine Via.bind (Via.ofExcept _) fun created => ?_
  refine Via.assume fun hcreated => ?_
  have hmissing : s.core.half .sendPq = none := by
    change s.sendGroup.bind CombinerGroup.pq = none
    rw [hsend]
    exact Option.isNone_iff_eq_none.mp hpq
  refine Via.bind (q := fun _ c => c.commitment ≠ none) ?_ fun _ => ?_
  · refine Via.update fun s' hs => ⟨?_, hs.2⟩
    have hcore : s.core = s'.core := hs.1
    have hgroup : exists cg, s'.sendGroup = some cg := by
      have hhalf : (s.core.half .sendClassical).isSome := by
        change (s.sendGroup.map CombinerGroup.classical).isSome
        rw [hsend]
        rfl
      rw [hcore] at hhalf
      change (s'.sendGroup.map CombinerGroup.classical).isSome at hhalf
      cases hs' : s'.sendGroup with
      | none =>
          rw [hs'] at hhalf
          cases hhalf
      | some cg => exact ⟨cg, rfl⟩
    rcases hgroup with ⟨cg, hcg⟩
    have hstep :
        Step (.createSendPq kp) s'.core (s'.core.setHalf .sendPq created.1) := by
      refine Step.createSendPq ?_ ?_
      · rw [← hcore]
        exact hmissing
      · rw [← hcore]
        exact created_of_createGroupWithMember L hcreated
    refine Path.single hcreate ?_
    convert hstep using 1
    unfold SessionInner.core Core.setHalf
    congr 1
    funext h
    cases h with
    | sendClassical =>
        simp [SessionInner.half, hcg, CombinerGroup.setPq, Function.update]
    | sendPq => simp [SessionInner.half, hcg, CombinerGroup.setPq, Function.update]
    | recvClassical => rfl
    | recvPq => rfl
  exact Via.value _ fun _ hc => hc

theorem via_bootstrapRespondInner {kp : Blob M} {rnd : Nat -> M.Seed} :
    Via bootstrapRespondEvents (fun c => c.commitment ≠ none)
      (bootstrapRespondInner kp rnd) (fun _ _ => True) := by
  have hexpected : Stable fun c : Core M => c.commitment ≠ none :=
    Stable.slots fun _ _ h => h
  unfold bootstrapRespondInner
  refine Via.quietly True.intro hexpected
    (QuietOp.update fun s => core_trackPskStores s.client s) fun _ => ?_
  refine Via.looking (Op.Still.ofExcept _) fun founding => ?_
  refine Via.bind (q := fun _ c => c.commitment ≠ none) ?_ fun _ => ?_
  · refine Via.step (e := .authMeta) True.intro fun s hs => ⟨?_, hs⟩
    have hpin := pin_sequences s.services.auth.theirs founding
    exact Step.authMeta ⟨rfl, rfl, rfl, hpin.1, hpin.2⟩
  refine Via.bind (via_createDeferredPqHalf L True.intro) fun welcome => ?_
  refine Via.bind (q := fun _ _ => True) ?_ fun _ => ?_
  · refine Via.step
      (e := .openRound .bootstrapResponded
        { kind := .bootstrapWelcome, body := welcome }) rfl
      fun s hs => ⟨Step.openRound ?_, True.intro⟩
    exact
      { proposed := fun h => nomatch h
        live := Or.inr hs
        round := fun h => nomatch h
        kind := fun h => nomatch h }
  exact Via.quiet True.intro (Stable.const True) quiet_recordPqHeaderKeyPostCommit

omit L in
def bootstrapBindEvents : Event M -> Prop
  | .joinRecvPq _ => True
  | e => bindEvents e

omit L in
theorem via_bootstrapBindGuard {frame : Frame M} :
    Via A p (bootstrapBindGuard frame) (fun _ c =>
      c.owed = none ∧ c.inflight = some .bootstrapInitiated ∧ p c) := by
  unfold bootstrapBindGuard
  refine Via.bind Via.state fun s => ?_
  refine Via.looking (Op.Still.ofExcept _) fun welcome => ?_
  refine Via.looking (Op.Still.ofExcept _) fun _ => ?_
  refine Via.looking (Op.Still.ofExcept _) fun _ => ?_
  refine Via.looking (Op.Still.ensure _ _) fun _ => ?_
  refine Via.bind (Via.ensure _ _) fun _ => ?_
  refine Via.assume fun hinitiated => ?_
  refine Via.looking (Op.Still.ensure _ _) fun _ => ?_
  refine Via.looking (Op.Still.ensure _ _) fun _ => ?_
  refine Via.bind (Via.ensure _ _) fun _ => ?_
  refine Via.assume fun howed => ?_
  refine Via.looking (Op.Still.ensure _ _) fun _ => ?_
  refine Via.value _ ?_
  rintro c ⟨rfl, hc⟩
  exact ⟨Option.isNone_iff_eq_none.mp howed, hinitiated, hc⟩

omit L in
def DeferredJoin (c : Core M) (w : Blob M) (g : M.Group) : Prop :=
  c.half .recvClassical ≠ none ∧ c.half .recvPq = none ∧
    exists m, w.parsed = some m ∧
      Joined c.client.pq (c.bootstrapSecret.toList ++ c.client.pqKpStore) m g

theorem via_joinDeferredPqHalf {w : Blob M} :
    Via A p (joinDeferredPqHalf w) (fun g c => DeferredJoin c w g ∧ p c) := by
  unfold joinDeferredPqHalf
  refine Via.bind Via.state fun s => ?_
  dsimp only
  refine Via.bind (Via.ofOption _ _) fun recv => ?_
  refine Via.assume fun hrecv => ?_
  refine Via.bind (Via.ensure _ _) fun _ => ?_
  refine Via.assume fun hpq => ?_
  refine Via.bind (Via.ofExcept _) fun pq => ?_
  refine Via.assume fun hjoin => ?_
  refine Via.looking (Op.Still.ofExcept _) fun classicalInfo => ?_
  refine Via.looking (Op.Still.ofExcept _) fun _ => ?_
  refine Via.looking (Op.Still.ofExcept _) fun _ => ?_
  refine Via.value _ ?_
  rintro c ⟨rfl, hc⟩
  refine ⟨⟨?_, ?_, joined_of_welcome L hjoin⟩, hc⟩
  · change s.recvGroup.map CombinerGroup.classical ≠ none
    rw [hrecv]
    exact fun h => nomatch h
  · change s.recvGroup.bind CombinerGroup.pq = none
    rw [hrecv]
    exact Option.isNone_iff_eq_none.mp hpq

omit L in
theorem path_installRecvPq {s : SessionInner M} {w : Blob M} {pq : M.Group}
    (hjoined : DeferredJoin s.core w pq)
    (hinitiated : s.core.inflight = some .bootstrapInitiated) :
    Path bootstrapBindEvents s.core (installRecvPq pq s).core := by
  rcases hjoined with ⟨hheld, hmissing, m, hparsed, hjoin⟩
  cases hrecv : s.recvGroup with
  | none =>
      refine absurd ?_ hheld
      change s.recvGroup.map CombinerGroup.classical = none
      rw [hrecv]
      rfl
  | some recv =>
      have hcore :
          (installRecvPq pq s).core =
            { s.core.setHalf .recvPq pq with bootstrapSecret := none } := by
        unfold installRecvPq SessionInner.core Core.setHalf
        congr 1
        funext h
        cases h <;>
          simp [SessionInner.half, hrecv, SessionInner.mapRound,
            CombinerGroup.setPq, Function.update]
      rw [hcore]
      exact Path.single (e := .joinRecvPq w) True.intro
        (Step.joinRecvPq hmissing hheld hinitiated hparsed hjoin)

theorem via_bootstrapBindInner {w : Blob M} {seed : M.Seed} :
    Via bootstrapBindEvents
      (fun c => c.owed = none ∧ c.inflight = some .bootstrapInitiated)
      (bootstrapBindInner w seed) (fun _ _ => True) := by
  have howed : Stable fun c : Core M => c.owed = none :=
    Stable.slots fun _ _ h => h
  have hinitiated : Stable fun c : Core M =>
      c.owed = none ∧ c.inflight = some .bootstrapInitiated :=
    Stable.slots fun _ _ h => h
  unfold bootstrapBindInner
  refine Via.quietly True.intro hinitiated
    (QuietOp.update fun s => core_trackPskStores s.client s) fun _ => ?_
  refine Via.bind (via_joinDeferredPqHalf L) fun pq => ?_
  refine Via.bind (via_pastNoReturn (A := bootstrapBindEvents)
    (q := fun _ _ => True) True.intro ?_) fun _ => ?_
  · refine Via.bind (q := fun _ c => c.owed = none) ?_ fun _ => ?_
    · refine Via.update fun s hs => ⟨path_installRecvPq hs.1 hs.2.2, ?_⟩
      exact hs.2.1
    refine Via.quietly True.intro howed (quiet_exportCrossFromRecvPq L)
      fun exported => ?_
    refine Via.bind
      (via_commitPqAndOweBind (A := bootstrapBindEvents) L True.intro
        ⟨rfl, rfl, rfl⟩ fun _ => True.intro)
      fun _ => ?_
    refine Via.update fun s _ => ⟨?_, True.intro⟩
    have hclose : Step .closeRound s.core { s.core with inflight := none } :=
      Step.closeRound
    exact (Path.single (e := .closeRound) True.intro hclose).trans
      (Path.single (e := .clearSideBand) True.intro Step.clearSideBand)
  exact Via.quiet True.intro (Stable.const True) quiet_recordPqHeaderKeyPostCommit

end

end Session
end TwoMlsPq
