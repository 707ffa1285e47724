import TwoMlsPq.Session.Via

/-!
# The send path as events

What each operation of the send path does to the core: which events it takes,
and what a success leaves behind for the next operation.  The event sets are
parameters, so that every door can name the few events it is made of.
-/

namespace TwoMlsPq
namespace Session

open Foundation Apq

section

variable {M : MlsRs} (L : Lawful M) {A : Event M -> Prop}
variable {p : Core M -> Prop}

/-!
## Facts that survive quiet changes
-/

theorem acceptedNow_stable (m : M.Message) :
    Stable fun c : Core M => AcceptedNow c m := by
  apply Stable.held
  rintro g g' same ⟨hepoch, hkind⟩
  refine ⟨?_, hkind⟩
  rw [same.epoch]
  exact hepoch

def LicensedNow (fold : Option (PeerProposal M)) (c : Core M) : Prop :=
  exists g, c.half .sendClassical = some g ∧ Licensed c g fold

theorem licensedNow_stable (fold : Option (PeerProposal M)) :
    Stable fun c : Core M => LicensedNow fold c := by
  rintro c c' hq ⟨g, held, hlic⟩
  rcases hq.half_some held with ⟨g', held', same⟩
  refine ⟨g', held', ?_⟩
  cases fold with
  | none =>
      rcases hlic with ⟨mark, hmark, hle⟩
      refine ⟨mark, ?_, ?_⟩
      · rw [hq.2]
        exact hmark
      · rw [same.epoch]
        exact hle
  | some approved =>
      rcases hlic with ⟨m, hparsed, hepoch⟩
      refine ⟨m, hparsed, ?_⟩
      rw [same.epoch]
      exact hepoch

theorem licensedNow_slots {fold : Option (PeerProposal M)} {c c' : Core M}
    (half : c'.half .sendClassical = c.half .sendClassical)
    (mark : c'.mark = c.mark) (h : LicensedNow fold c) :
    LicensedNow fold c' := by
  rcases h with ⟨g, held, hlic⟩
  refine ⟨g, half.trans held, ?_⟩
  cases fold with
  | none =>
      rcases hlic with ⟨mark', hmark, hle⟩
      exact ⟨mark', mark.trans hmark, hle⟩
  | some approved => exact hlic

/-!
## The peer's offered update
-/

include L

/-- Processing a message on a classical half either changes nothing, or applies
a commit of the peer. -/
theorem via_processOn {h : Half} {missing : TwoMlsPqError}
    {err : MlsError -> TwoMlsPqError} {m : M.Message}
    (hquiet : A .quiet) (hh : h ≠ .recvPq) (hcommit : A (.peerCommit h m)) :
    Via A p
      (callHalf h missing err fun env => M.processIncomingMessage env m)
      (fun r c' => exists c g g', p c ∧ c.half h = some g ∧
        c' = c.setHalf h g' ∧ ProcessEffect M m g g' (.ok r)) := by
  refine Via.callHalf fun c env g hc held => ?_
  have heffect := L.process env m g
  rcases hrun : M.processIncomingMessage env m g with ⟨r, g'⟩
  rw [hrun] at heffect
  constructor
  · cases r with
    | error e => exact Path.single hquiet (Step.quiet (Quiet.setHalf held heffect))
    | ok received =>
        cases received with
        | applicationMessage index data =>
            exact Path.single hquiet (Step.quiet (Quiet.setHalf held heffect.2))
        | proposal desc =>
            exact Path.single hquiet (Step.quiet (Quiet.setHalf held heffect.2.2))
        | commit effect =>
            exact Path.single hcommit
              (Step.peerCommit held (fun h' => (hh h').elim) heffect.1 heffect.2)
        | other =>
            exact Path.single hquiet (Step.quiet (Quiet.setHalf held heffect.2))
  · intro received hok
    cases hok
    exact ⟨c, g, g', hc, held, rfl, heffect⟩

theorem via_processQuiet {h : Half} {missing : TwoMlsPqError}
    {err : MlsError -> TwoMlsPqError} {m : M.Message}
    (hquiet : A .quiet) (hp : Stable p)
    (hkind : (M.description m).contentType ≠ some .commit) :
    Via A p
      (callHalf h missing err fun env => M.processIncomingMessage env m)
      (fun _ c => p c ∧ ((M.description m).contentType = some .proposal ->
        exists g, c.half h = some g ∧
          M.messageEpoch m = some (M.currentEpoch g))) := by
  refine Via.callHalf fun c env g hc held => ?_
  have heffect := L.process env m g
  rcases hrun : M.processIncomingMessage env m g with ⟨r, g'⟩
  rw [hrun] at heffect
  have hsame : Undisturbed g g' := by
    cases r with
    | error e => exact heffect
    | ok received =>
        cases received with
        | applicationMessage index data => exact heffect.2
        | proposal desc => exact heffect.2.2
        | commit effect => exact (hkind heffect.1).elim
        | other => exact heffect.2
  have hq := Quiet.setHalf held hsame
  refine ⟨Path.single hquiet (Step.quiet hq), ?_⟩
  intro received hok
  refine ⟨hp _ _ hq hc, ?_⟩
  intro hproposal
  cases hok
  refine ⟨g', Core.half_setHalf .., ?_⟩
  rw [hsame.epoch]
  cases received with
  | applicationMessage index data =>
      rw [heffect.1] at hproposal
      cases hproposal
  | proposal desc => exact heffect.2.1
  | commit effect => exact (hkind heffect.1).elim
  | other =>
      rw [heffect.1] at hproposal
      cases hproposal

theorem via_validateOfferedUpdate {proposal : Blob M} {proposing : Bytes}
    (hquiet : A .quiet) (hp : Stable p)
    (hcommit : forall m, proposal.parsed = some m ->
      A (.peerCommit .sendClassical m)) :
    Via A p (validateOfferedUpdate proposal proposing)
      (fun _ c => p c ∧
        exists m, proposal.parsed = some m ∧ AcceptedNow c m) := by
  unfold validateOfferedUpdate
  refine Via.bind (Via.ofOption _ _) fun m => ?_
  refine Via.assume fun hparsed => ?_
  refine Via.quietly hquiet hp (QuietOp.readHalf _ _) fun send => ?_
  -- a commit in this slot is applied, and only then refused
  have hprocess :
      Via A p
        (callHalf .sendClassical .sessionNotReady mapCredentialErr fun env =>
          M.processIncomingMessage env m)
        (fun r c => forall desc, r = .proposal desc -> p c ∧ AcceptedNow c m) := by
    refine (via_processOn L hquiet (by decide) (hcommit m hparsed)).post ?_
    rintro r c' ⟨c, g, g', hc, held, rfl, heffect⟩ desc rfl
    refine ⟨hp _ _ (Quiet.setHalf held heffect.2.2) hc, g', ?_, ?_, heffect.1⟩
    · exact Core.half_setHalf ..
    · rw [heffect.2.2.epoch]
      exact heffect.2.1
  refine Via.bind hprocess.attempt fun processed => ?_
  have hstable :
      Stable fun c : Core M => forall r, processed = .ok r ->
        forall desc, r = .proposal desc -> p c ∧ AcceptedNow c m :=
    Stable.all fun _ => Stable.imp fun _ => Stable.all fun _ =>
      Stable.imp fun _ => hp.and (acceptedNow_stable m)
  refine Via.quietly hquiet hstable
    (QuietOp.onHalf fun _ hs => ⟨rfl, L.clearCache hs.group⟩) fun _ => ?_
  refine Via.bind (Via.ofExcept _) fun received => ?_
  refine Via.assume fun hreceived => ?_
  cases received with
  | proposal desc =>
      refine Via.bind (Via.ofExcept _) fun _ => ?_
      refine Via.assume fun _ => ?_
      refine (Via.ofExcept _).post ?_
      rintro _ c ⟨_, hc⟩
      rcases hc _ hreceived desc rfl with ⟨hpc, haccepted⟩
      exact ⟨hpc, m, hparsed, haccepted⟩
  | applicationMessage index data => exact Via.fail _
  | commit effect => exact Via.fail _
  | other => exact Via.fail _

/-!
## The commit
-/

omit L in
def ApprovedProposal (fold : Option (PeerProposal M)) : Prop :=
  forall approved m, fold = some approved -> approved.proposal.parsed = some m ->
    (M.description m).contentType = some .proposal

theorem via_refold {fold : Option (PeerProposal M)}
    (hquiet : A .quiet) (hp : Stable p) (happroved : ApprovedProposal fold)
    (hmark : forall c, p c -> fold = none -> LicensedNow none c) :
    Via A p (refold fold) (fun _ c => p c ∧ LicensedNow fold c) := by
  cases fold with
  | none => exact Via.value () fun c hc => ⟨hc, hmark c hc rfl⟩
  | some approved =>
      refine Via.bind (Via.ofOption _ _) fun m => ?_
      refine Via.assume fun hparsed => ?_
      have hkind := happroved approved m rfl hparsed
      have hnot : (M.description m).contentType ≠ some .commit := by
        rw [hkind]
        decide
      refine Via.bind (via_processQuiet L hquiet hp hnot) fun _ => ?_
      refine Via.value () fun c hc => ⟨hc.1, ?_⟩
      rcases hc.2 hkind with ⟨g, held, hepoch⟩
      exact ⟨g, held, m, hparsed, hepoch⟩

theorem via_dischargeOwedBind
    (hquiet : A .quiet) (hclear : A .clearOwed) (hturn : A (.setTurn false))
    (hp : Stable p)
    (hpowed : forall c, p c -> p { c with owed := none })
    (hpturn : forall c, p c -> p { c with turn := false }) :
    Via A p dischargeOwedBind (fun _ c => p c ∧ c.owed = none) := by
  have hstable : Stable fun c : Core M => p c ∧ c.owed = none :=
    hp.and (Stable.slots fun _ _ h => h)
  unfold dischargeOwedBind
  refine Via.bind Via.state fun s => ?_
  cases howed : s.round.owedBind with
  | none =>
      refine Via.value _ fun c hc => ⟨hc.2, ?_⟩
      rw [← hc.1]
      exact howed
  | some owed =>
      refine Via.bind (q := fun _ c => p c ∧ c.owed = none) ?_ fun _ => ?_
      · exact Via.step hclear fun s hs => ⟨Step.clearOwed, hpowed _ hs.2, rfl⟩
      refine Via.quietly hquiet hstable (QuietOp.readHalf _ _) fun send => ?_
      refine Via.quietly hquiet hstable (QuietOp.readHalf _ _) fun sendPq => ?_
      refine Via.quietly hquiet hstable (QuietOp.ensure _ _) fun _ => ?_
      refine Via.quietly hquiet hstable (QuietOp.ensure _ _) fun _ => ?_
      refine Via.quietly hquiet hstable
        (QuietOp.onHalf fun _ hs => exportApqPsk_still L _ hs) fun apqPsk => ?_
      refine Via.bind (q := fun _ c => p c ∧ c.owed = none) ?_ fun _ => ?_
      · exact Via.step hturn fun s hs => ⟨Step.setTurn, hpturn _ hs.1, hs.2⟩
      exact Via.value _ fun c hc => hc

omit L in
def CommittedAt (m : M.Message) (c : Core M) : Prop :=
  exists g, c.half .sendClassical = some g ∧
    exists e, M.messageEpoch m = some e ∧ M.currentEpoch g = e + 1

omit L in
theorem committedAt_stable (m : M.Message) :
    Stable fun c : Core M => CommittedAt m c := by
  apply Stable.held
  rintro g g' same ⟨e, hmessage, hepoch⟩
  exact ⟨e, hmessage, same.epoch.trans hepoch⟩

omit L in
structure Built (fold : Option (PeerProposal M))
    (handoff : Option (M.Signer × Bytes)) (m : M.Message) (c : Core M) :
    Prop where
  group : exists g, c.half .sendClassical = some g ∧ Licensed c g fold ∧
    M.messageEpoch m = some (M.currentEpoch g) ∧
    M.pendingSigningIdentity g = some handoff
  kind : (M.description m).contentType = some .commit
  handsOff : HandsOff c.client.classical handoff
  discharged : c.owed = none

theorem via_buildCommit {fold : Option (PeerProposal M)}
    {handoff : Option (M.Signer × Bytes)}
    {request : CommitRequest M.Message M.Signer} {seed : M.Seed}
    {missing : TwoMlsPqError} {err : MlsError -> TwoMlsPqError}
    (hquiet : A .quiet) (hidentity : request.newSigningIdentity = handoff) :
    Via A
      (fun c => (LicensedNow fold c ∧ HandsOff c.client.classical handoff) ∧
        c.owed = none)
      (callHalf .sendClassical missing err fun env =>
        M.buildCommit env request seed)
      (fun out c => Built fold handoff out.commitMessage c) := by
  refine Via.callHalf fun c env g hc held => ?_
  have hsame := L.build env request seed g
  have hq : Quiet c (c.setHalf .sendClassical (M.buildCommit env request seed g).2) :=
    Quiet.setHalf held hsame
  refine ⟨Path.single hquiet (Step.quiet hq), ?_⟩
  intro out hout
  rcases L.buildMessage env request seed g out hout with ⟨hepoch, hkind, hpending⟩
  rcases licensedNow_stable fold _ _ hq hc.1.1 with ⟨g', held', hlicensed⟩
  rw [Core.half_setHalf] at held'
  cases held'
  refine ⟨⟨_, Core.half_setHalf .., hlicensed, ?_, ?_⟩, hkind, hc.1.2, hc.2⟩
  · rw [hsame.epoch]
    exact hepoch
  · rw [hpending, hidentity]

theorem via_applyCommit {fold : Option (PeerProposal M)}
    {handoff : Option (M.Signer × Bytes)} {m : M.Message}
    {missing : TwoMlsPqError} {err : MlsError -> TwoMlsPqError}
    (hquiet : A .quiet)
    (hcommit : A (.ownCommit .sendClassical fold handoff)) :
    Via A (fun c => Built fold handoff m c)
      (callHalf .sendClassical missing err M.applyPendingCommit)
      (fun _ c => CommittedAt m c) := by
  refine Via.callHalf fun c env g hc held => ?_
  rcases hc.group with ⟨g', held', hlicensed, hepoch, hpending⟩
  rw [held] at held'
  cases held'
  rcases hrun : (M.applyPendingCommit env g).1 with e | ⟨⟩
  · refine ⟨?_, by intro a ha; cases ha⟩
    exact Path.single hquiet
      (Step.quiet (Quiet.setHalf held (L.applyError env g e hrun)))
  · rcases L.applyOk env g hrun with ⟨identity, hidentity, happlied⟩
    rw [hpending] at hidentity
    cases hidentity
    refine ⟨?_, ?_⟩
    · exact Path.single hcommit
        (Step.ownCommit held hc.discharged hlicensed hc.handsOff happlied)
    · intro _ _
      exact ⟨_, Core.half_setHalf .., _, hepoch, happlied.epoch⟩

omit L in
theorem core_forgetConsumed (crossPsk : Option ExportedPsk)
    (owed : Option (DischargedBind M)) (s : SessionInner M) :
    (forgetConsumed crossPsk owed s).core = s.core := by
  cases crossPsk <;> cases owed <;> rfl

omit L in
theorem via_canonicalizeFold {fold : Option (PeerProposal M)}
    (hp : forall c id, p c ->
      p { c with
        auth := { c.auth with theirs := c.auth.theirs.commit id }, theirId := id })
    (htheirs : forall approved, fold = some approved ->
      A (.commitTheirs .fold approved.proposing)) :
    Via A p (Op.update (canonicalizeFold fold)) (fun _ c => p c) := by
  refine Via.update fun s hs => ?_
  cases fold with
  | none => exact ⟨Path.refl, hs⟩
  | some approved =>
      unfold canonicalizeFold
      dsimp only
      split
      · exact ⟨Path.single (htheirs approved rfl) Step.commitTheirs, hp _ _ hs⟩
      · exact ⟨Path.refl, hs⟩

omit L in
theorem parsed_ofMessage {m : M.Message} {b : Blob M}
    (h : orError TwoMlsPqError.mls (Blob.ofMessage m) = .ok b) :
    b.parsed = some m := by
  unfold Blob.ofMessage at h
  cases hbytes : M.toBytes m with
  | error e =>
      rw [hbytes] at h
      cases h
  | ok bytes =>
      rw [hbytes] at h
      cases h
      rfl

omit L in
theorem freshStaple_stapleOf {m : M.Message} {clCommit : Blob M}
    {owed : Option (DischargedBind M)} {c : Core M}
    (hparsed : clCommit.parsed = some m)
    (hkind : (M.description m).contentType = some .commit)
    (hcommitted : CommittedAt m c) :
    FreshStaple c (stapleOf clCommit owed) := by
  rcases hcommitted with ⟨g, held, e, hmessage, hepoch⟩
  refine ⟨clCommit, m, g, e, held, hparsed, hmessage, hepoch, hkind, ?_⟩
  cases owed with
  | none => exact Or.inl rfl
  | some owed => exact Or.inr ⟨_, rfl⟩

theorem via_dischargeAndCommit {fold : Option (PeerProposal M)}
    {crossPsk : Option ExportedPsk} {handoff : Option (M.Signer × Bytes)}
    {seed : M.Seed}
    (hquiet : A .quiet) (hclear : A .clearOwed) (hturn : A (.setTurn false))
    (hcommit : A (.ownCommit .sendClassical fold handoff))
    (htheirs : forall approved, fold = some approved ->
      A (.commitTheirs .fold approved.proposing))
    (hstaple : forall staple, A (.setStaple staple))
    (hoffered : A (.setOffered none)) :
    Via A
      (fun c => LicensedNow fold c ∧ HandsOff c.client.classical handoff)
      (dischargeAndCommit fold crossPsk handoff seed) (fun _ _ => True) := by
  unfold dischargeAndCommit
  refine Via.bind
    (via_dischargeOwedBind L hquiet hclear hturn
      ((licensedNow_stable fold).and (Stable.slots fun _ _ h => h))
      (fun c hc => ⟨licensedNow_slots rfl rfl hc.1, hc.2⟩)
      (fun c hc => ⟨licensedNow_slots rfl rfl hc.1, hc.2⟩))
    fun owed => ?_
  refine Via.bind (via_buildCommit L hquiet rfl) fun out => ?_
  -- the content type of the commit is a fact about the message alone
  refine Via.bind
    (q := fun _ c => (M.description out.commitMessage).contentType = some .commit ∧
      CommittedAt out.commitMessage c) ?_ fun _ => ?_
  · intro s hs
    rcases via_applyCommit L hquiet hcommit s hs with ⟨hmove, hok⟩
    exact ⟨hmove, fun a ha => ⟨hs.kind, hok a ha⟩⟩
  refine Via.assume fun hkind => ?_
  have hstable := committedAt_stable (M := M) out.commitMessage
  refine Via.quietly hquiet hstable (QuietOp.readHalf _ _) fun send => ?_
  refine Via.quietly hquiet hstable (QuietOp.ofExcept _) fun _ => ?_
  refine Via.quietly hquiet hstable
    (QuietOp.update (core_forgetConsumed crossPsk owed)) fun _ => ?_
  refine Via.bind (via_canonicalizeFold (fun _ _ hc => hc) htheirs) fun _ => ?_
  refine Via.quietly hquiet hstable (quiet_rememberSendPsk L) fun _ => ?_
  refine Via.bind (Via.ofExcept _) fun clCommit => ?_
  refine Via.assume fun hblob => ?_
  refine Via.update fun s hs => ⟨?_, True.intro⟩
  have hfresh : FreshStaple s.core (stapleOf clCommit owed) :=
    freshStaple_stapleOf (parsed_ofMessage hblob) hkind hs
  exact (Path.single (hstaple _) (Step.setStaple hfresh)).trans
    (Path.single hoffered Step.setOffered)

omit L in
theorem via_handoffForCommit (hquiet : A .quiet) (hp : Stable p) :
    Via A p handoffForCommit
      (fun handoff c => p c ∧ HandsOff c.client.classical handoff) := by
  unfold handoffForCommit
  refine Via.bind Via.state fun s => ?_
  have hstable : Stable fun c : Core M => p c ∧ c.client = s.client :=
    hp.and (Stable.slots fun _ _ h => h)
  refine Via.pre (p := fun c => p c ∧ c.client = s.client) ?_ ?_
  · refine Via.quietly hquiet hstable (QuietOp.readHalf _ _) fun send => ?_
    refine Via.quietly hquiet hstable (QuietOp.ofExcept _) fun leafId => ?_
    refine Via.value _ fun c hc => ⟨hc.1, ?_⟩
    rw [hc.2]
    split
    · exact Or.inr rfl
    · exact Or.inl rfl
  · rintro c ⟨rfl, hc⟩
    exact ⟨hc, rfl⟩

theorem via_commitRound {fold : Option (PeerProposal M)} {seed : M.Seed}
    (hquiet : A .quiet) (hclear : A .clearOwed) (hturn : A (.setTurn false))
    (hcommit : forall identity, A (.ownCommit .sendClassical fold identity))
    (htheirs : forall approved, fold = some approved ->
      A (.commitTheirs .fold approved.proposing))
    (hstaple : forall staple, A (.setStaple staple))
    (hoffered : A (.setOffered none))
    (happroved : ApprovedProposal fold) :
    Via A (fun c => fold = none -> LicensedNow none c) (commitRound fold seed)
      (fun _ _ => True) := by
  have hmark : Stable fun c : Core M => fold = none -> LicensedNow none c :=
    Stable.imp fun _ => licensedNow_stable none
  unfold commitRound
  refine Via.quietly hquiet hmark (quiet_rememberSendPsk L) fun _ => ?_
  refine Via.quietly hquiet hmark (quiet_crossPskForCommit L) fun crossPsk => ?_
  refine Via.bind (via_handoffForCommit hquiet hmark) fun handoff => ?_
  refine Via.bind
    (via_refold L hquiet (hmark.and (Stable.slots fun _ _ h => h)) happroved
      fun c hc hnone => hc.1 hnone)
    fun _ => ?_
  refine Via.bind Via.state fun s => ?_
  refine Via.mapError _ ?_
  refine (via_dischargeAndCommit L hquiet hclear hturn (hcommit handoff) htheirs
    hstaple hoffered).pre ?_
  rintro c ⟨_, hc, hlicensed⟩
  exact ⟨hlicensed, hc.2⟩

/-!
## The self-update
-/

omit L in
theorem principal_new_clientId {handle : Nat} {clientId : Bytes}
    {rnd : Nat -> M.Seed} {candidate : TwoMlsPqPrincipal M}
    (h : TwoMlsPqPrincipal.new handle clientId rnd = .ok candidate) :
    candidate.clientId = clientId ∧ candidate.classicalKpStore = [] ∧
      candidate.pqKpStore = [] := by
  unfold TwoMlsPqPrincipal.new at h
  cases hcl : orError TwoMlsPqError.mls (M.signatureKeyGenerate (rnd 0)) with
  | error e =>
      rw [hcl] at h
      cases h
  | ok classicalSigner =>
      rw [hcl] at h
      cases hpq : orError TwoMlsPqError.mls (M.signatureKeyGenerate (rnd 1)) with
      | error e =>
          rw [hpq] at h
          cases h
      | ok pqSigner =>
          rw [hpq] at h
          cases h
          exact ⟨rfl, rfl, rfl⟩

omit L in
theorem via_stageOrDefer {newClientId : Bytes} {rnd : Nat -> M.Seed}
    (henlist : forall candidate, A (.enlist candidate)) :
    Via A (fun c => forall p, p ∈ c.staged -> p.clientId ≠ newClientId)
      (stageOrDefer newClientId rnd) (fun _ _ => True) := by
  unfold stageOrDefer
  refine Via.bind Via.state fun s => ?_
  split
  next hroom =>
    refine Via.bind (Via.ofExcept _) fun candidate => ?_
    refine Via.assume fun hnew => ?_
    rcases principal_new_clientId hnew with ⟨rfl, hfresh⟩
    refine Via.step (henlist candidate) fun s' hs => ⟨?_, True.intro⟩
    refine Step.enlist ?_ hfresh hs.2
    rw [← hs.1]
    exact hroom
  next => exact Via.update fun s' _ => ⟨Path.refl, True.intro⟩

omit L in
theorem via_admitCandidate {newClientId : Bytes} {rnd : Nat -> M.Seed}
    (henlist : forall candidate, A (.enlist candidate)) :
    Via A p (admitCandidate newClientId rnd) (fun _ _ => True) := by
  unfold admitCandidate
  refine Via.bind (Via.ensure _ _) fun _ => ?_
  refine Via.bind Via.state fun s => ?_
  split
  · exact Via.value _ fun _ _ => True.intro
  next hnew =>
    refine Via.bind ((via_stageOrDefer henlist).pre ?_) fun _ => ?_
    · rintro c ⟨rfl, -⟩ candidate hmem hid
      apply hnew
      rw [Bool.or_eq_true, List.any_eq_true]
      exact Or.inl ⟨candidate, hmem, beq_iff_eq.mpr hid⟩
    · exact Via.update fun s' _ => ⟨Path.refl, True.intro⟩

omit L in
theorem via_selectCandidate {selected : Option Bytes} {rnd : Nat -> M.Seed}
    (henlist : forall candidate, A (.enlist candidate)) :
    Via A p (selectCandidate selected rnd) (fun _ _ => True) := by
  unfold selectCandidate
  refine Via.bind Via.state fun s => ?_
  cases selected with
  | some id =>
      refine Via.bind (via_admitCandidate henlist) fun _ => ?_
      exact Via.value _ fun _ _ => True.intro
  | none =>
      dsimp only
      split
      · split
        · refine Via.bind (q := fun _ _ => True) ?_ fun _ => ?_
          · exact Via.update fun s' _ => ⟨Path.refl, True.intro⟩
          refine Via.bind (via_admitCandidate henlist) fun _ => ?_
          exact Via.value _ fun _ _ => True.intro
        · exact Via.value _ fun _ _ => True.intro
      · exact Via.value _ fun _ _ => True.intro

omit L in
theorem via_proposingClient {selected : Option Bytes} :
    Via A p (proposingClient selected)
      (fun candidate c => forall c', candidate = some c' -> c' ∈ c.staged) := by
  unfold proposingClient
  refine Via.bind Via.state fun s => ?_
  cases selected with
  | none =>
      refine Via.value _ fun c _ => ?_
      intro c' hc'
      cases hc'
  | some id =>
      refine Via.bind (Via.ofOption _ _) fun candidate => ?_
      refine Via.assume fun hfound => ?_
      refine Via.value _ fun c hc => ?_
      intro c' hc'
      cases hc'
      rw [← hc.1]
      exact List.mem_of_find?_eq_some hfound

theorem via_proposeUpdate {h : Half} {identity : Option (M.Signer × Bytes)}
    {aad : Bytes} {seed : M.Seed} {missing : TwoMlsPqError}
    {err : MlsError -> TwoMlsPqError}
    {r : Core M -> Prop}
    (hquiet : A .quiet) (hpropose : forall m, A (.propose h m identity))
    (hintroduces : forall c, p c -> Introduces c h identity)
    (hslots : forall c g, p c -> r (c.setHalf h g)) :
    Via A p
      (callHalf h missing err fun env => M.proposeUpdate env identity aad seed)
      (fun m c => (M.description m).contentType = some .proposal ∧
        (exists g, c.half h = some g ∧
          M.messageEpoch m = some (M.currentEpoch g) ∧
          (m, identity) ∈ M.pendingUpdates g) ∧ r c) := by
  refine Via.callHalf fun c env g hc held => ?_
  rcases hrun : (M.proposeUpdate env identity aad seed g).1 with e | m
  · refine ⟨?_, by intro a ha; cases ha⟩
    exact Path.single hquiet
      (Step.quiet (Quiet.setHalf held (L.proposeError _ _ _ _ _ _ hrun)))
  · rcases L.proposeOk _ _ _ _ _ _ hrun with ⟨hepoch, hkind, hproposed⟩
    refine ⟨Path.single (hpropose m)
      (Step.propose held (hintroduces c hc) hproposed), ?_⟩
    intro a ha
    cases ha
    refine ⟨hkind, ⟨_, Core.half_setHalf .., ?_, ?_⟩, hslots c _ hc⟩
    · rw [hproposed.epoch]
      exact hepoch
    · rw [hproposed.updates]
      exact List.mem_cons_self ..

omit L in
theorem introduces_identitySource {s : SessionInner M} {c : Core M}
    {candidate : Option (TwoMlsPqPrincipal M)} (leafId : Bytes)
    (hcore : s.core = c)
    (hstaged : forall c', candidate = some c' -> c' ∈ c.staged) :
    Introduces c .recvClassical
      ((identitySource s candidate leafId).map fun c =>
        (c.classicalSigner, c.clientId)) := by
  unfold identitySource
  cases candidate with
  | some c' => exact Or.inr ⟨c', Or.inl (hstaged c' rfl), rfl⟩
  | none =>
      dsimp only
      split
      · refine Or.inr ⟨s.client, Or.inr ?_, rfl⟩
        rw [← hcore]
        rfl
      · exact Or.inl rfl

omit L in
theorem inCustody_proposing {c : Core M} {candidate : Option (TwoMlsPqPrincipal M)}
    (hstaged : forall c', candidate = some c' -> c' ∈ c.staged) :
    InCustody c
      ((candidate.map TwoMlsPqPrincipal.clientId).getD c.client.clientId) := by
  cases candidate with
  | none => exact Or.inl rfl
  | some c' => exact Or.inr ⟨c', hstaged c' rfl, rfl⟩

theorem via_proposeSelfUpdate {candidate : Option (TwoMlsPqPrincipal M)}
    {seed : M.Seed}
    (hquiet : A .quiet)
    (hpropose : forall m identity, A (.propose .recvClassical m identity)) :
    Via A (fun c => forall c', candidate = some c' -> c' ∈ c.staged)
      (proposeSelfUpdate candidate seed)
      (fun b c => StagedUpdate c b ∧
        OffersUpdate c
          ((candidate.map TwoMlsPqPrincipal.clientId).getD c.client.clientId) b) := by
  have hstaged :
      Stable fun c : Core M => forall c', candidate = some c' -> c' ∈ c.staged :=
    Stable.slots fun _ _ h => h
  unfold proposeSelfUpdate
  refine Via.quietly hquiet hstaged (QuietOp.readHalf _ _) fun recv => ?_
  refine Via.quietly hquiet hstaged (QuietOp.ofExcept _) fun leafId => ?_
  refine Via.bind Via.state fun s => ?_
  dsimp only
  refine Via.bind
    (via_proposeUpdate L hquiet (fun m => hpropose m _)
      (fun c hc => introduces_identitySource leafId hc.1 hc.2)
      (r := fun c => InCustody c
        ((candidate.map TwoMlsPqPrincipal.clientId).getD c.client.clientId))
      fun c _ hc => inCustody_proposing (c := c) hc.2)
    fun m => ?_
  refine (Via.ofExcept _).post ?_
  rintro b c ⟨hblob, hkind, ⟨g, held, hepoch, hmem⟩, hcustody⟩
  have hparsed := parsed_ofMessage hblob
  exact ⟨⟨m, g, hparsed, held, hepoch, hkind⟩, m, g, _, hparsed, held, hmem, hcustody⟩

theorem via_stageSelfUpdate {selected : Option Bytes} {rnd : Nat -> M.Seed}
    (hquiet : A .quiet) (henlist : forall candidate, A (.enlist candidate))
    (hpropose : forall m identity, A (.propose .recvClassical m identity))
    (hpending : forall proposed, A (.setPending proposed)) :
    Via A p (stageSelfUpdate selected rnd) (fun _ _ => True) := by
  unfold stageSelfUpdate
  refine Via.bind (via_selectCandidate henlist) fun selected' => ?_
  refine Via.bind via_proposingClient fun candidate => ?_
  refine Via.bind (via_proposeSelfUpdate L hquiet hpropose) fun proposal => ?_
  refine Via.bind (q := fun _ _ => True) ?_ fun _ => ?_
  · refine Via.update fun s hs => ⟨?_, True.intro⟩
    exact Path.single (hpending _) (Step.setPending hs.1 hs.2)
  exact Via.value _ fun _ _ => True.intro

/-!
## Legs
-/

theorem via_mintLeg {kind : PqFrameKind} {payload : Bytes} {seed : M.Seed}
    (hquiet : A .quiet) (hp : Stable p) :
    Via A p (mintLeg kind payload seed) (fun f c => f.kind = kind ∧ p c) := by
  unfold mintLeg
  refine Via.quietly hquiet hp (QuietOp.callHalf fun _ g => L.encrypt _ _ _ g)
    fun _ => ?_
  refine Via.quietly hquiet hp (QuietOp.ofExcept _) fun body => ?_
  exact Via.value _ fun _ hc => ⟨rfl, hc⟩

theorem via_rewrapSideBand {seed : M.Seed}
    (hquiet : A .quiet) (hpark : forall f, A (.parkLeg f)) :
    Via A p (rewrapSideBand seed) (fun _ _ => True) := by
  unfold rewrapSideBand
  refine Via.bind Via.state fun s => ?_
  split
  next due kind payload hdue hlive =>
    split
    next hkind =>
      -- the minted leg has the kind of the live round, which minting keeps
      have hleg : LiveLeg s.round.pqInflight kind := by
        cases hi : s.round.pqInflight with
        | none =>
            rw [hi] at hlive
            cases hlive
        | some i =>
            rw [hi] at hlive
            cases i with
            | initiating eph =>
                cases hlive
                exact Or.inl ⟨eph, rfl, rfl⟩
            | responding secret ct =>
                cases ct with
                | none => cases hlive
                | some ct =>
                    cases hlive
                    exact Or.inr ⟨secret, _, rfl, rfl⟩
            | _ => cases hlive
      have hstable : Stable fun c : Core M => LiveLeg c.inflight kind :=
        Stable.slots fun _ _ h => h
      refine Via.pre (p := fun c => LiveLeg c.inflight kind) ?_ ?_
      · refine Via.bind (via_mintLeg L hquiet hstable).attempt fun minted => ?_
        cases minted with
        | error e => exact Via.value _ fun _ _ => True.intro
        | ok frame =>
            refine Via.step (hpark frame) fun s hs => ⟨?_, True.intro⟩
            rcases hs frame rfl with ⟨hfk, hlegNow⟩
            refine Step.parkLeg ?_
            rw [hfk]
            exact hlegNow
      · rintro c ⟨rfl, _⟩
        exact hleg
    next => exact Via.value _ fun _ _ => True.intro
  next => exact Via.value _ fun _ _ => True.intro

theorem via_stageRatchet {rnd : Nat -> M.Seed}
    (hquiet : A .quiet)
    (hopen : forall eph f, A (.openRound (.initiating eph) f)) :
    Via A (fun c => c.half .recvPq ≠ none) (stageRatchet rnd)
      (fun _ _ => True) := by
  unfold stageRatchet
  refine Via.looking (Op.Still.ofExcept _) fun eph => ?_
  refine Via.bind (via_mintLeg L hquiet (Stable.live _)) fun f => ?_
  refine Via.step (hopen eph f) fun s hs => ⟨Step.openRound ?_, True.intro⟩
  rcases hs with ⟨hkind, hlive⟩
  constructor
  · exact fun h => nomatch h
  · exact Or.inl hlive
  · exact fun h => nomatch h
  · rw [hkind]
    exact fun h => nomatch h

theorem via_stageRekey {rotating : Option Bytes} {seed : M.Seed}
    (hquiet : A .quiet)
    (hpropose : forall m identity, A (.propose .recvPq m identity))
    (hopen : forall f, A (.openRound .rekeyInitiated f)) :
    Via A p (stageRekey rotating seed) (fun _ _ => True) := by
  unfold stageRekey
  refine Via.bind Via.state fun s => ?_
  refine Via.bind (Via.ensure _ _) fun _ => ?_
  dsimp only
  refine Via.bind
    (via_proposeUpdate L (r := fun _ => True) hquiet (fun m => hpropose m _) ?_
      fun _ _ _ => True.intro) fun m => ?_
  · rintro c ⟨hrotating, rfl, _⟩
    rcases hrotating with rfl | rfl
    · exact Or.inl rfl
    · exact Or.inr rfl
  refine Via.bind (Via.ofExcept _) fun body => ?_
  refine Via.assume fun hblob => ?_
  refine Via.step (hopen { kind := .rekeyUpdate, body := body })
    fun s hs => ⟨?_, True.intro⟩
  rcases hs with ⟨_, ⟨g, held, _, hpending⟩, _⟩
  apply Step.openRound
  constructor
  · exact fun _ => ⟨m, g, _, parsed_ofMessage hblob, held, hpending⟩
  · refine Or.inl fun hmissing => ?_
    rw [held] at hmissing
    cases hmissing
  · exact fun h => nomatch h
  · exact fun h => nomatch h

theorem via_maybeStageNextRound {rnd : Nat -> M.Seed}
    (hquiet : A .quiet)
    (hpropose : forall m identity, A (.propose .recvPq m identity))
    (hopen : forall i f, A (.openRound i f)) :
    Via A p (maybeStageNextRound rnd) (fun _ _ => True) := by
  unfold maybeStageNextRound
  refine Via.bind Via.state fun s => ?_
  split
  next hidle =>
    split
    · refine Via.bind
        (via_stageRekey L hquiet hpropose fun f => hopen _ f).attempt fun _ => ?_
      exact Via.value _ fun _ _ => True.intro
    · refine Via.pre (p := fun c => c.half .recvPq ≠ none) ?_ ?_
      · refine Via.bind
          (via_stageRatchet L hquiet fun eph f => hopen _ f).attempt fun _ => ?_
        exact Via.value _ fun _ _ => True.intro
      · rintro c ⟨rfl, _⟩ hmissing
        have hmissing' : s.half .recvPq = none := hmissing
        simp [sideBandIdle, SessionInner.pqHalvesLive, hmissing'] at hidle
  next => exact Via.value _ fun _ _ => True.intro

/-!
## The doors
-/

omit L in
/-- What `prepare_to_encrypt` may do, given the approved proposal it finds. -/
def prepareEvents (queued : Option (PeerProposal M)) : Event M -> Prop
  | .quiet => True
  | .setQueued q => q = none
  | .ownCommit h fold _ => h = .sendClassical ∧ fold = queued
  | .clearOwed => True
  | .setTurn b => b = false
  | .commitTheirs cause id =>
      cause = .fold ∧
        exists approved, queued = some approved ∧ approved.proposing = id
  | .setStaple _ => True
  | .setOffered o => o = none
  | .enlist _ => True
  | .propose h _ _ => h = .recvClassical
  | .setPending _ => True
  | .parkLeg _ => True
  | _ => False

omit L in
theorem via_peerAppliedOurSendEpoch :
    Via A p peerAppliedOurSendEpoch
      (fun licensed c => p c ∧ (licensed = true -> LicensedNow none c)) := by
  unfold peerAppliedOurSendEpoch
  refine Via.bind (Via.readHalf _ _) fun g => ?_
  refine Via.bind Via.state fun s => ?_
  refine Via.value _ fun c hc => ⟨hc.2.2, ?_⟩
  intro hlicensed
  cases hmark : s.msg.peerAppliedSendEpoch with
  | none =>
      rw [hmark] at hlicensed
      cases hlicensed
  | some applied =>
      rw [hmark] at hlicensed
      refine ⟨g, hc.2.1, applied, ?_, of_decide_eq_true hlicensed⟩
      rw [← hc.1]
      exact hmark

theorem via_prepareRatchetCommit {selected : Option Bytes} {rnd : Nat -> M.Seed}
    {queued : Option (PeerProposal M)} (happroved : ApprovedProposal queued) :
    Via (prepareEvents queued) (fun c => c.queued = queued)
      (prepareRatchetCommit selected rnd) (fun _ _ => True) := by
  unfold prepareRatchetCommit
  refine Via.bind Via.state fun s => ?_
  dsimp only
  refine Via.pre (p := fun _ => s.msg.queuedProposal = queued ∧ True) ?_ ?_
  · refine Via.assume fun hqueued => ?_
    rw [hqueued]
    refine Via.bind (q := fun _ _ => True) ?_ fun _ => ?_
    · exact Via.step (e := .setQueued none) rfl fun s _ =>
        ⟨Step.dequeue, True.intro⟩
    refine Via.bind via_peerAppliedOurSendEpoch fun licensed => ?_
    refine Via.bind (q := fun _ _ => True) ?_ fun _ => ?_
    · split
      next hcommit =>
        refine (via_commitRound (A := prepareEvents queued) L True.intro True.intro rfl
          (fun _ => ⟨rfl, rfl⟩) (fun approved h => ⟨rfl, approved, h, rfl⟩)
          (fun _ => True.intro) rfl happroved).pre ?_
        rintro c ⟨_, hc⟩ hnone
        apply hc
        rw [hnone] at hcommit
        simp only [Option.isSome_none, Bool.false_or, Bool.and_eq_true] at hcommit
        exact hcommit.2
      next => exact Via.value _ fun _ _ => True.intro
    refine Via.bind
      (via_stageSelfUpdate L True.intro (fun _ => True.intro) (fun _ _ => rfl)
        fun _ => True.intro)
      fun _ => ?_
    refine Via.bind Via.state fun s => ?_
    exact Via.value _ fun _ _ => True.intro
  · rintro c ⟨rfl, hc⟩
    exact ⟨hc, True.intro⟩

omit L in
theorem via_preparePreEstablishment {selected : Option Bytes}
    (hpending : A (.setPending none)) :
    Via A p (preparePreEstablishment selected) (fun _ _ => True) := by
  unfold preparePreEstablishment
  refine Via.bind (Via.ensure _ _) fun _ => ?_
  refine Via.bind Via.state fun s => ?_
  refine Via.bind (Via.ensure _ _) fun _ => ?_
  refine Via.bind (Via.ofOption _ _) fun welcome => ?_
  dsimp only
  refine Via.bind (q := fun _ _ => True) ?_ fun _ => ?_
  · exact Via.step hpending fun s _ => ⟨Step.clearPending, True.intro⟩
  exact Via.value _ fun _ _ => True.intro

theorem via_prepareToEncryptInner {proposing : Option Bytes}
    {rnd : Nat -> M.Seed} {queued : Option (PeerProposal M)}
    (happroved : ApprovedProposal queued) :
    Via (prepareEvents queued) (fun c => c.queued = queued)
      (prepareToEncryptInner proposing rnd) (fun _ _ => True) := by
  have hqueued : Stable fun c : Core M => c.queued = queued :=
    Stable.slots fun _ _ h => h
  unfold prepareToEncryptInner
  refine Via.quietly True.intro hqueued quiet_ensureEstablishmentDelegated fun _ => ?_
  refine Via.bind Via.state fun s => ?_
  refine Via.bind (q := fun _ _ => True) ?_ fun result => ?_
  · split
    · exact via_preparePreEstablishment True.intro
    · exact (via_prepareRatchetCommit L happroved).pre fun c hc => hc.2
  refine Via.quietly True.intro (Stable.const True)
    (quiet_recordListenRendezvous L) fun _ => ?_
  refine Via.bind (via_rewrapSideBand L True.intro fun _ => True.intro) fun _ => ?_
  exact Via.value _ fun _ _ => True.intro

omit L in
def encryptEvents : Event M -> Prop
  | .quiet => True
  | .setPending q => q = none
  | .parkLeg _ => True
  | .propose h _ _ => h = .recvPq
  | .openRound _ _ => True
  | _ => False

omit L in
def AppBlob (b : Blob M) : Prop :=
  forall m, b.parsed = some m ->
    (M.description m).contentType = some .application

omit L in
structure EnvelopeOf (staple : Option (Staple M)) (e : InitialEnvelope M) : Prop where
  welcome : forall w, e.welcome = some w -> staple = some (.welcome w)
  stapled : forall app, e.stapled = some app -> AppBlob app

omit L in
def ComposedOf (staple : Option (Staple M)) (pending : Option (Bytes × Blob M)) :
    Outgoing M -> Prop
  | .frame f =>
      exists st update app,
        f = .message st (some update) app ∧ staple = some st ∧
          pending = some update ∧ AppBlob app
  | .envelope e => EnvelopeOf staple e

omit L in
theorem staple_of_stapledWelcome {s : SessionInner M} {w : WelcomeBytes M}
    (h : stapledWelcome s = some w) :
    s.core.staple = some (.welcome w) := by
  unfold stapledWelcome at h
  change s.msg.currentStaple = some (.welcome w)
  split at h
  next w' hstaple =>
    cases h
    exact hstaple
  next => cases h

omit L in
theorem via_composeInitialEnvelope {stapled : Option (Blob M)} {seed : M.Seed} :
    Via A p (composeInitialEnvelope stapled seed)
      (fun e c => e.stapled = stapled ∧
        (forall w, e.welcome = some w -> c.staple = some (.welcome w)) ∧
          c.sealTarget ≠ none ∧ p c) := by
  unfold composeInitialEnvelope
  refine Via.bind Via.state fun s => ?_
  refine Via.bind (Via.ofOption _ _) fun theirKp => ?_
  refine Via.assume fun htarget => ?_
  have hsealing : s.core.sealTarget ≠ none := by
    change s.establishment.initialTheirKp ≠ none
    rw [htarget]
    exact fun h => nomatch h
  refine Via.bind (Via.ofOption _ _) fun welcome => ?_
  refine Via.assume fun hwelcome => ?_
  refine Via.looking (Op.Still.ofExcept _) fun _ => ?_
  split
  · refine Via.value _ ?_
    rintro c ⟨rfl, hc⟩
    exact ⟨rfl, nofun, hsealing, hc⟩
  · refine Via.value _ ?_
    rintro c ⟨rfl, hc⟩
    refine ⟨rfl, ?_, hsealing, hc⟩
    intro w hw
    cases hw
    exact staple_of_stapledWelcome hwelcome

omit L in
theorem via_composeFrame {staple : Option (Staple M)}
    {staged : Option (Bytes × Blob M)} {app : Blob M} {seed : M.Seed}
    (hquiet : A .quiet) (happ : AppBlob app) :
    Via A (fun c => c.staple = staple) (composeFrame staged app seed)
      (fun out _ => ComposedOf staple staged out) := by
  unfold composeFrame
  cases staged with
  | none =>
      refine Via.bind via_composeInitialEnvelope fun envelope => ?_
      refine Via.value _ fun c hc => ?_
      rcases hc with ⟨hstapled, hwelcome, _, rfl⟩
      refine { welcome := hwelcome, stapled := ?_ }
      intro app' happ'
      rw [hstapled] at happ'
      cases happ'
      exact happ
  | some update =>
      refine Via.bind Via.state fun s => ?_
      refine Via.bind (Via.ofOption _ _) fun st => ?_
      refine Via.pre (p := fun _ => staple = some st ∧ True) ?_ ?_
      · refine Via.assume fun hstaple => ?_
        refine Via.quietly hquiet (Stable.const True) quiet_sealFrame fun _ => ?_
        exact Via.value _ fun _ _ => ⟨st, update, app, rfl, hstaple, rfl, happ⟩
      · rintro c ⟨hst, rfl, hc⟩
        exact ⟨hc.symm.trans hst, True.intro⟩

omit L in
theorem appBlob_ofMessage {m : M.Message} {b : Blob M}
    (hkind : (M.description m).contentType = some .application)
    (hblob : orError TwoMlsPqError.mls (Blob.ofMessage m) = .ok b) :
    AppBlob b := by
  intro m' hm'
  rw [parsed_ofMessage hblob] at hm'
  cases hm'
  exact hkind

theorem via_encryptApplication {data aad : Bytes} {seed : M.Seed}
    (hquiet : A .quiet) (hp : Stable p) :
    Via A p
      (callHalf .sendClassical .sessionNotReady (fun _ => .mls) fun _ =>
        M.encryptApplicationMessage data aad seed)
      (fun m c => (M.description m).contentType = some .application ∧ p c) := by
  refine Via.callHalf fun c env g hc held => ?_
  have hq := Quiet.setHalf held (L.encrypt data aad seed g)
  refine ⟨Path.single hquiet (Step.quiet hq), ?_⟩
  intro m hm
  refine ⟨?_, hp _ _ hq hc⟩
  rw [(L.encryptMessage _ _ _ _ _ hm).2.2]
  rfl

theorem via_encryptInner {appMessage : Bytes} {rnd : Nat -> M.Seed}
    {staple : Option (Staple M)} {pending : Option (Bytes × Blob M)} :
    Via encryptEvents (fun c => c.staple = staple ∧ c.pending = pending)
      (encryptInner appMessage rnd)
      (fun r _ => ComposedOf staple pending r.cipherText) := by
  have hstable : Stable fun c : Core M => c.staple = staple :=
    Stable.slots fun _ _ h => h
  unfold encryptInner
  refine Via.quietly True.intro (Stable.slots fun _ _ h => h)
    quiet_ensureEstablishmentDelegated fun _ => ?_
  refine Via.bind Via.state fun s => ?_
  refine Via.looking (Op.Still.ofOption _ _) fun hash => ?_
  dsimp only
  refine Via.pre (p := fun c =>
    s.msg.pendingProposalMessage = pending ∧ c.staple = staple) ?_ ?_
  · refine Via.assume fun hpending => ?_
    rw [hpending]
    refine Via.bind (q := fun _ c => c.staple = staple) ?_ fun _ => ?_
    · exact Via.step (e := .setPending none) rfl fun s hs =>
        ⟨Step.clearPending, hs⟩
    refine Via.looking (Op.Still.ensure _ _) fun _ => ?_
    refine Via.bind (via_encryptApplication L True.intro hstable) fun message => ?_
    refine Via.assume fun hkind => ?_
    refine Via.bind (Via.ofExcept _) fun app => ?_
    refine Via.assume fun hblob => ?_
    refine Via.looking Op.Still.state fun s => ?_
    refine Via.looking (Op.Still.ofOption _ _) fun send => ?_
    refine Via.bind (via_composeFrame True.intro (appBlob_ofMessage hkind hblob))
      fun cipherText => ?_
    -- what the round machinery does next does not change the composed frame
    refine Via.pre (p := fun _ => ComposedOf staple pending cipherText ∧ True) ?_
      fun _ hc => ⟨hc, True.intro⟩
    refine Via.assume fun hcomposed => ?_
    refine Via.bind (via_rewrapSideBand L True.intro fun _ => True.intro) fun _ => ?_
    refine Via.bind
      (via_maybeStageNextRound L True.intro (fun _ _ => rfl) fun _ _ => True.intro)
      fun _ => ?_
    exact Via.value _ fun _ _ => hcomposed
  · rintro c ⟨rfl, hstaple, hpending⟩
    exact ⟨hpending, hstaple⟩

omit L in
/-- What `queue_proposal` may do, given the offer it finds.  A commit that the
peer offered as a proposal would be applied. -/
def queueEvents (offered : Option (PeerProposal M)) : Event M -> Prop
  | .quiet => True
  | .setOffered o => o = none ∨ o = offered
  | .peerCommit h m =>
      h = .sendClassical ∧
        exists offer, offered = some offer ∧ offer.proposal.parsed = some m
  | .authorizeTheirs id =>
      exists offer, offered = some offer ∧ offer.proposing = id
  | .setQueued q => q = offered
  | _ => False

theorem via_queueProposalInner {digest : Bytes}
    {offered : Option (PeerProposal M)} :
    Via (queueEvents offered) (fun c => c.offered = offered)
      (queueProposalInner digest) (fun _ _ => True) := by
  unfold queueProposalInner
  refine Via.bind Via.state fun s => ?_
  refine Via.bind (Via.ofOption _ _) fun offer => ?_
  refine Via.pre (p := fun _ => offered = some offer ∧ True) ?_ ?_
  · refine Via.assume fun hoffered => ?_
    subst hoffered
    refine Via.bind (q := fun _ _ => True) ?_ fun _ => ?_
    · exact Via.step (e := .setOffered none) (Or.inl rfl) fun s _ =>
        ⟨Step.setOffered, True.intro⟩
    have hput :
        Via (queueEvents (some offer)) (fun _ => True)
          (Op.update fun s : SessionInner M => s.mapMsg fun m =>
            { m with offeredProposal := some offer })
          (fun _ _ => True) :=
      Via.step (e := .setOffered (some offer)) (Or.inr rfl) fun s _ =>
        ⟨Step.setOffered, True.intro⟩
    split
    · exact Via.bind hput fun _ => Via.fail _
    · refine Via.bind
        (via_validateOfferedUpdate L True.intro (Stable.const True)
          (fun m hm => ⟨rfl, offer, rfl, hm⟩)).attempt
        fun validated => ?_
      cases validated with
      | error e => exact Via.bind (hput.pre fun _ _ => True.intro) fun _ => Via.fail _
      | ok _ =>
          refine Via.update fun s hs => ⟨?_, True.intro⟩
          rcases hs () rfl with ⟨_, m, hparsed, haccepted⟩
          have hauthorize :
              Step (.authorizeTheirs offer.proposing) s.core
                { s.core with
                  auth := { s.core.auth with
                    theirs := s.core.auth.theirs.authorize offer.proposing } } :=
            Step.authorizeTheirs
          refine (Path.single ⟨offer, rfl, rfl⟩ hauthorize).trans ?_
          exact Path.single (e := .setQueued (some offer)) rfl
            (Step.setQueued hparsed haccepted)
  · rintro c ⟨hsome, rfl, hc⟩
    exact ⟨hc.symm.trans hsome, True.intro⟩

end

end Session
end TwoMlsPq
