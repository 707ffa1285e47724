import TwoMlsPq.Session.SendPath

/-!
# The receive path as events

A frame hands one message to each half it concerns.  The receive door applies
the commits among them, joins a welcome, moves the identities with the leaves,
and notes the peer's offer.
-/

namespace TwoMlsPq
namespace Session

open Foundation Apq

section

variable {M : MlsRs}

def Staple.tMessage : Staple M -> Option M.Message
  | .bind tMessage _ => tMessage.parsed
  | .commit message => message.parsed
  | _ => none

def Staple.pqMessage : Staple M -> Option M.Message
  | .bind _ pqMessage => pqMessage.parsed
  | _ => none

def Frame.feeds (f : Frame M) (h : Half) (m : M.Message) : Prop :=
  match f, h with
  | .message _ proposal _, .sendClassical =>
      exists proposing b, proposal = some (proposing, b) ∧ b.parsed = some m
  | .message staple _ app, .recvClassical =>
      staple.tMessage = some m ∨ app.parsed = some m
  | .message staple _ _, .recvPq => staple.pqMessage = some m
  | .preEstablishment app, .recvClassical => app.parsed = some m
  | _, _ => False

def Frame.offers (f : Frame M) (offer : PeerProposal M) : Prop :=
  match f with
  | .message _ proposal _ => proposal = some (offer.proposing, offer.proposal)
  | _ => False

def Staple.welcomes (st : Staple M) (w : ApqWelcome M) : Prop :=
  match st with
  | .handoff _ wb => wb.decoded = some w
  | .welcome wb => wb.decoded = some w
  | _ => False

def Frame.welcomes (f : Frame M) (w : ApqWelcome M) : Prop :=
  match f with
  | .handoff _ wb => wb.decoded = some w
  | .welcome wb => wb.decoded = some w
  | .message staple _ _ => staple.welcomes w
  | _ => False

def receiveEvents (f : Frame M) : Event M -> Prop
  | .quiet => True
  | .peerCommit h m => f.feeds h m
  | .joinRecv w => f.welcomes w
  | .setOutbound o => o = none
  | .setOffered o => exists offer, o = some offer ∧ f.offers offer
  | .setMark m => f.feeds .sendClassical m
  | .commitTheirs cause _ => cause ≠ .fold
  | .commitMine _ => True
  | .install _ => True
  | .setAdopting _ => True
  | .closeRound => True
  | .clearSideBand => True
  | .setTurn b => b = true
  | .breakReceive => True
  | _ => False

/-- What the staple of a frame may do: it installs nobody. -/
def stapleEvents (f : Frame M) (e : Event M) : Prop :=
  receiveEvents f e ∧ forall winner, e ≠ .install winner

theorem receive_commitTheirs {f : Frame M} {cause : TheirsCause} {id : Bytes}
    (h : cause ≠ .fold) :
    receiveEvents f (.commitTheirs cause id) :=
  h

end

section

variable {M : MlsRs} (L : Lawful M) {A : Event M -> Prop}
variable {p : Core M -> Prop}

/-!
## Welcomes
-/

theorem Joined.after {client : ClientIdentity M.Signer}
    {kps : List M.KeyPackageSecret} {m : M.Message} {g g' : M.Group}
    (h : Joined client kps m g) (h' : Undisturbed g g') :
    Joined client kps m g' where
  epoch := h'.epoch.trans h.epoch
  signer := h'.signer.trans h.signer
  updates := h'.updates.trans h.updates
  own := by
    rcases h.own with ⟨kp, hmem, hown⟩
    exact ⟨kp, hmem, h'.ownLeaf_eq.trans hown⟩

include L

theorem joined_of_welcome {env : MlsEnv} {client : ClientIdentity M.Signer}
    {kps : List M.KeyPackageSecret} {w : Blob M} {g : M.Group}
    (h : joinGroupFromWelcome env client kps w = .ok g) :
    exists m, w.parsed = some m ∧ Joined client kps m g := by
  unfold joinGroupFromWelcome at h
  cases hparsed : w.parsed with
  | none =>
      rw [hparsed] at h
      cases h
  | some m =>
      rw [hparsed] at h
      dsimp only at h
      cases hjoin : M.joinGroup env client kps m with
      | error e =>
          rw [hjoin] at h
          cases h
      | ok g' =>
          rw [hjoin] at h
          dsimp only at h
          split at h
          · cases h
          · cases h
            rcases L.joinGroup _ _ _ _ _ hjoin with ⟨hepoch, hsigner, hupdates, hown⟩
            exact ⟨m, rfl, hepoch, hsigner, hupdates, hown⟩

omit L in
def JoinedPair (client : TwoMlsPqPrincipal M) (w : ApqWelcome M)
    (recv : CombinerGroup M) : Prop :=
  (exists m, w.classical.parsed = some m ∧
    Joined client.classical client.classicalKpStore m recv.classical) ∧
  forall g, recv.pq = some g ->
    exists m, Joined client.pq client.pqKpStore m g

theorem via_joinWelcome {w : ApqWelcome M}
    (hquiet : A .quiet) (hp : Stable p) :
    Via A p (joinWelcome w) (fun recv c => p c ∧ JoinedPair c.client w recv) := by
  unfold joinWelcome
  refine Via.bind Via.state fun s => ?_
  have hstable : Stable fun c : Core M => p c ∧ c.client = s.client :=
    hp.and (Stable.slots fun _ _ h => h)
  refine Via.pre (p := fun c => p c ∧ c.client = s.client) ?_ ?_
  · dsimp only
    split
    · refine Via.bind (Via.ofExcept _) fun classical => ?_
      refine Via.assume fun hjoin => ?_
      refine Via.quietly hquiet hstable (QuietOp.ofExcept _) fun _ => ?_
      refine Via.value _ fun c hc => ⟨hc.1, ?_, ?_⟩
      · rw [hc.2]
        exact joined_of_welcome L hjoin
      · intro g hg
        cases hg
    · refine Via.bind (Via.ofExcept _) fun pq => ?_
      refine Via.assume fun hjoinPq => ?_
      rcases joined_of_welcome L hjoinPq with ⟨mpq, _, hjoinedPq⟩
      have hexport := exportPsk_undisturbed L .apq pq
      rcases hrun : (exportPsk .apq : GroupOp M ExportedPsk).run pq with ⟨r, pq'⟩
      rw [hrun] at hexport
      cases r with
      | error e =>
          exact Via.bind (Via.fail _ (q := fun _ _ => False)) fun _ => Via.never
      | ok exported =>
          refine Via.bind (Via.value (exported, pq') (q := fun r c =>
            r = (exported, pq') ∧ p c ∧ c.client = s.client) fun c hc => ⟨rfl, hc⟩)
            fun r => ?_
          refine Via.assume fun hr => ?_
          subst hr
          refine Via.quietly hquiet hstable (QuietOp.update fun _ => rfl) fun _ => ?_
          refine Via.quietly hquiet hstable QuietOp.state fun s' => ?_
          refine Via.bind (Via.ofExcept _) fun classical => ?_
          refine Via.assume fun hjoin => ?_
          refine Via.quietly hquiet hstable (QuietOp.ofExcept _) fun _ => ?_
          refine Via.quietly hquiet hstable (QuietOp.ofExcept _) fun _ => ?_
          refine Via.value _ fun c hc => ⟨hc.1, ?_, ?_⟩
          · rw [hc.2]
            exact joined_of_welcome L hjoin
          · intro g hg
            cases hg
            refine ⟨mpq, ?_⟩
            rw [hc.2]
            exact hjoinedPq.after hexport
  · rintro c ⟨rfl, hc⟩
    exact ⟨hc, rfl⟩

omit L in
theorem core_trackPskStores (client : TwoMlsPqPrincipal M) (s : SessionInner M) :
    (trackPskStores client s).core = s.core := by
  unfold trackPskStores
  split
  · rfl
  · rfl

omit L in
theorem half_none_of_recvGroup {s : SessionInner M} (h : s.recvGroup.isSome = false) :
    s.core.half .recvClassical = none ∧ s.core.half .recvPq = none := by
  have hnone : s.recvGroup = none := by
    cases hr : s.recvGroup with
    | none => rfl
    | some recv =>
        rw [hr] at h
        cases h
  simp [SessionInner.core, SessionInner.half, hnone]

omit L in
theorem half_adoptRecvGroup (recv : CombinerGroup M) (creatorId digest : Bytes)
    (s : SessionInner M) :
    (adoptRecvGroup recv creatorId digest s).core.half =
      Function.update
        (Function.update s.core.half Half.recvClassical (some recv.classical))
        Half.recvPq recv.pq := by
  funext h
  cases h with
  | sendClassical => rfl
  | sendPq => rfl
  | recvClassical => rfl
  | recvPq => rfl

omit L in
theorem path_adoptRecvGroup {recv : CombinerGroup M} {creatorId : Bytes}
    {s : SessionInner M} {welcome : WelcomeBytes M} {w : ApqWelcome M}
    (hjoin : A (.joinRecv w)) (htheirs : A (.commitTheirs .welcome creatorId))
    (houtbound : A (.setOutbound none))
    (hmissing : s.core.half .recvClassical = none ∧ s.core.half .recvPq = none)
    (hjoined : JoinedPair s.core.client w recv)
    (hdecoded : welcome.decoded = some w) :
    Path A s.core
      (adoptRecvGroup recv creatorId (M.sha256 welcome.bytes) s).core := by
  rcases hjoined with ⟨⟨m, hparsed, hclassical⟩, hpq⟩
  have hstep :=
    Step.joinRecv hmissing.1 hmissing.2 hparsed hclassical hpq hdecoded
  refine (Path.single hjoin hstep).trans
    ((Path.single htheirs Step.commitTheirs).trans (Path.single houtbound ?_))
  have hcore :
      (adoptRecvGroup recv creatorId (M.sha256 welcome.bytes) s).core =
        { s.core with
          half :=
            (adoptRecvGroup recv creatorId (M.sha256 welcome.bytes) s).core.half
          auth := { s.core.auth with
            theirs := s.core.auth.theirs.commit creatorId }
          theirId := creatorId
          sealTarget := none
          outbound := none
          joined := some (M.sha256 welcome.bytes) } :=
    rfl
  rw [hcore, half_adoptRecvGroup]
  exact Step.clearOutbound

theorem via_processWelcome {welcome : WelcomeBytes M}
    {establishment : WelcomeEstablishment}
    (hquiet : A .quiet) (hadopting : forall b, A (.setAdopting b))
    (hjoin : forall w, welcome.decoded = some w -> A (.joinRecv w))
    (htheirs : forall id, A (.commitTheirs .welcome id))
    (houtbound : A (.setOutbound none)) :
    Via A p (processWelcome welcome establishment) (fun _ _ => True) := by
  unfold processWelcome
  dsimp only
  refine Via.bind Via.state fun s => ?_
  split
  · exact (Via.ensure _ _).post fun _ _ _ => True.intro
  next hrecv =>
    have hmissing : Stable fun c : Core M =>
        c.half .recvClassical = none ∧ c.half .recvPq = none :=
      (Stable.missing _).and (Stable.missing _)
    refine Via.pre (p := fun c =>
      c.half .recvClassical = none ∧ c.half .recvPq = none) ?_ ?_
    · refine Via.quietly hquiet hmissing
        (QuietOp.update fun s => core_trackPskStores s.client s) fun _ => ?_
      refine Via.quietly hquiet hmissing (quiet_injectSendPsksIf L _) fun _ => ?_
      refine Via.bind (Via.ofOption _ _) fun w => ?_
      refine Via.assume fun hdecoded => ?_
      refine Via.quietly hquiet hmissing (QuietOp.ofExcept _) fun _ => ?_
      refine Via.bind (q := fun _ c =>
        c.half .recvClassical = none ∧ c.half .recvPq = none) ?_ fun _ => ?_
      · exact Via.step (hadopting true) fun s hs => ⟨Step.setAdopting, hs⟩
      -- lowering the flag again is common to both outcomes of the join
      refine Via.bind (via_joinWelcome L hquiet hmissing).attempt fun joined => ?_
      refine Via.bind (q := fun _ c => forall recv, joined = .ok recv ->
        (c.half .recvClassical = none ∧ c.half .recvPq = none) ∧
          JoinedPair c.client w recv) ?_ fun _ => ?_
      · exact Via.step (hadopting false) fun s hs => ⟨Step.setAdopting, hs⟩
      refine Via.bind (Via.ofExcept _) fun recv => ?_
      refine Via.pre (p := fun c =>
        (c.half .recvClassical = none ∧ c.half .recvPq = none) ∧
          JoinedPair c.client w recv) ?_ fun c hc => hc.2 recv hc.1
      have hstable : Stable fun c : Core M =>
          (c.half .recvClassical = none ∧ c.half .recvPq = none) ∧
            JoinedPair c.client w recv :=
        hmissing.and (Stable.slots fun _ _ h => h)
      refine Via.quietly hquiet hstable (QuietOp.readHalf _ _) fun send => ?_
      refine Via.quietly hquiet hstable (QuietOp.ofExcept _) fun ownBinding => ?_
      refine Via.quietly hquiet hstable (QuietOp.ofExcept _) fun _ => ?_
      refine Via.quietly hquiet hstable (QuietOp.ofExcept _) fun _ => ?_
      refine Via.quietly hquiet hstable (QuietOp.ofExcept _) fun creatorId => ?_
      refine Via.quietly hquiet hstable QuietOp.state fun s' => ?_
      refine Via.quietly hquiet hstable (QuietOp.ofExcept _) fun _ => ?_
      exact Via.update fun s hs =>
        ⟨path_adoptRecvGroup (hjoin w hdecoded) (htheirs creatorId) houtbound hs.1 hs.2
          hdecoded, True.intro⟩
    · rintro c ⟨rfl, _⟩
      exact half_none_of_recvGroup (Bool.not_eq_true _ ▸ hrecv)

/-!
## Staples
-/

omit L in
/-- Every identity an update of ours introduces to the recv half is one of
`K`. -/
def Promised (K : Bytes -> Prop) (c : Core M) : Prop :=
  forall g, c.half .recvClassical = some g ->
    forall m signer id, (m, some (signer, id)) ∈ M.pendingUpdates g -> K id

omit L in
theorem Stable.promised (K : Bytes -> Prop) : Stable (Promised (M := M) K) := by
  intro c c' hq hc g' held' m signer id hmem
  cases held : c.half .recvClassical with
  | none =>
      rw [hq.half_none held] at held'
      cases held'
  | some g =>
      rcases hq.half_some held with ⟨g₁, held₁, hsame⟩
      rw [held'] at held₁
      cases held₁
      rw [hsame.updates] at hmem
      exact hc g held m signer id hmem

omit L in
def PeerApplied (K : Bytes -> Prop) (before : M.Group) (c : Core M) : Prop :=
  (forall m signer id, (m, some (signer, id)) ∈ M.pendingUpdates before -> K id) ∧
    exists g, c.half .recvClassical = some g ∧ exists m, PeerCommit m before g

omit L in
theorem Stable.peerApplied (K : Bytes -> Prop) (before : M.Group) :
    Stable (PeerApplied K before) :=
  (Stable.const _).and (Stable.held fun _ _ hsame h =>
    Exists.imp (fun _ happlied => happlied.after hsame) h)

omit L in
theorem PeerApplied.settled {K : Bytes -> Prop} {before : M.Group} {c : Core M}
    (h : PeerApplied K before c) :
    Settled c := by
  rcases h with ⟨_, g, held, m, happlied⟩
  intro g' held'
  rw [held] at held'
  cases held'
  exact happlied.updates

omit L in
theorem senderClientId_leafAt {g g' : M.Group} {index : Nat}
    (h : leafAt g' index = leafAt g index) :
    senderClientId g' index = senderClientId g index := by
  unfold leafAt at h
  unfold senderClientId
  cases hfound : (M.roster g).find? (fun member => member.index == index) with
  | none =>
      rw [hfound, Option.map_none, Option.map_eq_none_iff] at h
      rw [h]
  | some member =>
      rw [hfound, Option.map_some, Option.map_eq_some_iff] at h
      rcases h with ⟨member', hfound', hleaf⟩
      have hcredential : member'.credential = member.credential :=
        congrArg Prod.fst hleaf
      rw [hfound']
      dsimp only
      rw [hcredential]

omit L in
theorem senderClientId_basic {g : M.Group} {index : Nat} {id key : Bytes}
    (h : leafAt g index = some (.basic id, key)) :
    senderClientId g index = .ok id := by
  unfold leafAt at h
  rw [Option.map_eq_some_iff] at h
  rcases h with ⟨member, hfound, hleaf⟩
  have hcredential : member.credential = .basic id := congrArg Prod.fst hleaf
  unfold senderClientId
  rw [hfound]
  dsimp only
  rw [hcredential]
  rfl

omit L in
theorem leafIdsAt_own {g : M.Group} {peer own : Nat} {ids : Bytes × Bytes}
    (h : leafIdsAt g peer own = .ok ids) :
    senderClientId g own = .ok ids.2 := by
  unfold leafIdsAt at h
  cases hpeer : senderClientId g peer with
  | error e =>
      rw [hpeer] at h
      cases h
  | ok peerId =>
      rw [hpeer] at h
      cases hown : senderClientId g own with
      | error e =>
          rw [hown] at h
          cases h
      | ok ownId =>
          rw [hown] at h
          cases h
          rfl

omit L in
theorem canonicalizedOwn_promised {K : Bytes -> Prop} {m : M.Message}
    {before after : M.Group} {prior new : Bytes × Bytes} {id : Bytes}
    (hpromised : forall m signer id,
      (m, some (signer, id)) ∈ M.pendingUpdates before -> K id)
    (happlied : PeerCommit m before after)
    (hprior : leafIds before = .ok prior)
    (hnew : leafIdsAt after (peerIndex before) (M.currentMemberIndex before) =
      .ok new)
    (hmoved : (leafChanges prior new).canonicalizedOwn = some id) :
    K id := by
  have hbefore := leafIdsAt_own hprior
  have hafter := leafIdsAt_own hnew
  unfold leafChanges at hmoved
  dsimp only at hmoved
  split at hmoved
  next hne =>
    cases hmoved
    rcases happlied.own with hkept | ⟨update, signer, identifier, hmem, hleaf⟩
    · have hsame : leafAt after (M.currentMemberIndex before) =
          leafAt before (M.currentMemberIndex before) := by
        have := hkept.1
        unfold ownLeaf at this
        rw [happlied.memberIndex] at this
        exact this
      rw [senderClientId_leafAt hsame, hbefore] at hafter
      exact (hne (Except.ok.inj hafter).symm).elim
    · have hleafAt := hleaf.1
      unfold ownLeaf at hleafAt
      rw [happlied.memberIndex] at hleafAt
      rw [senderClientId_basic hleafAt] at hafter
      rw [← Except.ok.inj hafter]
      exact hpromised update signer identifier hmem
  next => cases hmoved

omit L in
def Earned (K : Bytes -> Prop) (moved : LeafChanges) (c : Core M) : Prop :=
  forall id, moved.canonicalizedOwn = some id -> K id ∧ Settled c

omit L in
theorem Stable.settled : Stable (Settled (M := M)) := by
  intro c c' hq hc g' held'
  cases held : c.half .recvClassical with
  | none =>
      rw [hq.half_none held] at held'
      cases held'
  | some g =>
      rcases hq.half_some held with ⟨g₁, held₁, hsame⟩
      rw [held'] at held₁
      cases held₁
      rw [hsame.updates]
      exact hc g held

omit L in
theorem Stable.earned (K : Bytes -> Prop) (moved : LeafChanges) :
    Stable (Earned (M := M) K moved) :=
  Stable.all fun _ => Stable.imp fun _ => (Stable.const _).and Stable.settled

omit L in
theorem earned_leafChanges {K : Bytes -> Prop} {before after : M.Group}
    {prior new : Bytes × Bytes} {c : Core M}
    (hprior : leafIds before = .ok prior)
    (hnew : leafIdsAt after (peerIndex before) (M.currentMemberIndex before) =
      .ok new)
    (held : c.half .recvClassical = some after) (happlied : PeerApplied K before c) :
    Earned K (leafChanges prior new) c := by
  intro id hmoved
  refine ⟨?_, happlied.settled⟩
  rcases happlied with ⟨hpromised, g, held', m, hcommit⟩
  rw [held] at held'
  cases held'
  exact canonicalizedOwn_promised hpromised hcommit hprior hnew hmoved

omit L in
theorem via_attestation {K : Bytes -> Prop} {m : M.Message} {before : M.Group}
    {received : ReceivedMessage} {e : TwoMlsPqError} :
    Via A
      (fun c' => exists c g g',
        (c.half .recvClassical = some before ∧ Promised K c) ∧
          c.half .recvClassical = some g ∧ c' = c.setHalf .recvClassical g' ∧
          ProcessEffect M m g g' (.ok received))
      (match received with
        | .commit effect => Op.ofExcept (commitAttestation effect)
        | _ => Op.fail e)
      (fun _ c => PeerApplied K before c) := by
  cases received with
  | commit effect =>
      refine (Via.ofExcept _).post ?_
      rintro _ _ ⟨_, c, g, g', ⟨held, hpromised⟩, held', rfl, _, happlied⟩
      rw [held] at held'
      cases held'
      exact ⟨hpromised before held, g', Core.half_setHalf .., m, happlied⟩
  | applicationMessage index data => exact Via.fail _
  | proposal desc => exact Via.fail _
  | other => exact Via.fail _

theorem via_applyBindClassical {K : Bytes -> Prop} {clCommit : Blob M}
    {attestation : ApqInfoUpdate}
    (hquiet : A .quiet)
    (hcommit : forall m, clCommit.parsed = some m ->
      A (.peerCommit .recvClassical m)) :
    Via A (Promised K) (applyBindClassical clCommit attestation) (Earned K) := by
  unfold applyBindClassical
  refine Via.bind (Via.ofOption _ _) fun m => ?_
  refine Via.assume fun hparsed => ?_
  refine Via.bind (Via.readHalf _ _) fun before => ?_
  refine Via.bind (Via.ofExcept _) fun prior => ?_
  refine Via.assume fun hprior => ?_
  have hstable := Stable.peerApplied K before
  refine Via.bind (via_processOn L hquiet (by decide) (hcommit m hparsed))
    fun received => ?_
  refine Via.bind via_attestation fun attested => ?_
  refine Via.quietly hquiet hstable (QuietOp.ofOption _ _) fun clAttestation => ?_
  refine Via.quietly hquiet hstable (QuietOp.readHalf _ _) fun recvPq => ?_
  refine Via.bind (Via.readHalf _ _) fun after => ?_
  refine Via.looking (Op.Still.ensure _ _) fun _ => ?_
  refine Via.looking (Op.Still.ofExcept _) fun _ => ?_
  refine Via.bind (Via.ofExcept _) fun new => ?_
  exact Via.value _ fun c hc => earned_leafChanges hprior hc.1 hc.2.1 hc.2.2

theorem via_applyBind {K : Bytes -> Prop} {secret : Bytes} {pqCommit clCommit : Blob M}
    (hquiet : A .quiet)
    (hcommit : forall m, clCommit.parsed = some m ->
      A (.peerCommit .recvClassical m))
    (hcommitPq : forall m, pqCommit.parsed = some m -> A (.peerCommit .recvPq m)) :
    Via A (fun c => c.inflight = none ∧ Promised K c)
      (applyBind secret pqCommit clCommit) (Earned K) := by
  have hidle : Stable fun c : Core M => c.inflight = none ∧ Promised K c :=
    (Stable.slots fun _ _ h => h).and (Stable.promised K)
  unfold applyBind
  refine Via.quietly hquiet hidle QuietOp.state fun s => ?_
  dsimp only
  refine Via.quietly hquiet hidle (quiet_injectSendPsksIf L _) fun _ => ?_
  refine Via.bind (q := fun _ c => Promised K c) ?_ fun applied => ?_
  · refine Via.onHalf
      (fun store hs => (applyInjectedCommit_effect L store _ secret pqCommit hs).1) ?_
    intro c store hs hc held
    constructor
    · rcases (applyInjectedCommit_effect L store s.ledger.pskStores secret pqCommit
        hs).2 with hsame | ⟨m, hparsed, hkind, happlied⟩
      · exact Path.single hquiet (Step.quiet (Quiet.setHalf held hsame))
      · exact Path.single (hcommitPq m hparsed)
          (Step.peerCommit held (fun _ => hc.1) hkind happlied)
    · intro _ _ g held'
      rw [Core.half_setHalf_of_ne (by decide)] at held'
      exact hc.2 g held'
  refine Via.bind (via_applyBindClassical L hquiet hcommit) fun moved => ?_
  refine Via.quietly hquiet (Stable.earned K moved) (QuietOp.update fun _ => rfl)
    fun _ => ?_
  exact Via.value _ fun _ hc => hc

theorem quiet_exportCrossFromSendPq :
    QuietOp (exportCrossFromSendPq : SessionOp M ExportedPsk) := by
  unfold exportCrossFromSendPq
  refine QuietOp.bind (QuietOp.readHalf _ _) fun g => ?_
  refine QuietOp.bind (QuietOp.ofGroup (exportPsk_undisturbed L _)) fun _ => ?_
  refine QuietOp.bind (QuietOp.update fun _ => rfl) fun _ => ?_
  exact QuietOp.pure _

theorem quiet_exportCrossFromRecvPq :
    QuietOp (exportCrossFromRecvPq : SessionOp M ExportedPsk) := by
  unfold exportCrossFromRecvPq
  refine QuietOp.bind (QuietOp.readHalf _ _) fun g => ?_
  refine QuietOp.bind (QuietOp.ofGroup (exportPsk_undisturbed L _)) fun _ => ?_
  refine QuietOp.bind (QuietOp.update fun _ => rfl) fun _ => ?_
  exact QuietOp.pure _

omit L in
theorem via_clearInflight {K : Bytes -> Prop} (hclose : A .closeRound) :
    Via A (Promised K) (Op.update clearInflight)
      (fun _ c => c.inflight = none ∧ Promised K c) :=
  Via.step hclose fun _ hc => ⟨Step.closeRound, rfl, hc⟩

theorem via_takeResponderSecret {K : Bytes -> Prop}
    (hquiet : A .quiet) (hclose : A .closeRound) :
    Via A (Promised K) takeResponderSecret
      (fun _ c => c.inflight = none ∧ Promised K c) := by
  have hreExport :
      Via A (Promised K) takeResponderSecret.reExport
        (fun _ c => c.inflight = none ∧ Promised K c) := by
    unfold takeResponderSecret.reExport
    refine Via.quietly hquiet (Stable.promised K) (quiet_exportCrossFromSendPq L)
      fun exported => ?_
    refine Via.bind (via_clearInflight hclose) fun _ => ?_
    exact Via.value _ fun _ hc => hc
  unfold takeResponderSecret
  refine Via.quietly hquiet (Stable.promised K) QuietOp.state fun s => ?_
  split
  · refine Via.bind (via_clearInflight hclose) fun _ => ?_
    exact Via.value _ fun _ hc => hc
  · exact hreExport
  · exact hreExport
  · exact Via.fail _

theorem via_applyBindStaple {K : Bytes -> Prop} {tMessage pqMessage : Blob M}
    (hquiet : A .quiet) (hclose : A .closeRound) (hbreak : A .breakReceive)
    (hturn : A (.setTurn true)) (hside : A .clearSideBand)
    (hcommit : forall m, tMessage.parsed = some m ->
      A (.peerCommit .recvClassical m))
    (hcommitPq : forall m, pqMessage.parsed = some m -> A (.peerCommit .recvPq m)) :
    Via A (Promised K) (applyBindStaple tMessage pqMessage) (Earned K) := by
  unfold applyBindStaple
  refine Via.bind (via_takeResponderSecret L hquiet hclose) fun secret => ?_
  refine Via.quietly hquiet ((Stable.slots fun _ _ h => h).and (Stable.promised K))
    (quiet_rememberRecvAttachmentComponent L) fun _ => ?_
  refine Via.bind (via_applyBind L hquiet hcommit hcommitPq).attempt fun applied => ?_
  cases applied with
  | error e =>
      refine Via.bind (q := fun _ _ => True) ?_ fun _ => Via.fail _
      exact Via.step hbreak fun _ _ => ⟨Step.breakReceive, True.intro⟩
  | ok moved =>
      refine Via.bind (q := fun _ c => Earned K moved c) ?_ fun _ => ?_
      · refine Via.update fun s hs => ⟨?_, hs moved rfl⟩
        have hstep : Step (.setTurn true) s.core { s.core with turn := true } :=
          Step.setTurn
        exact (Path.single hturn hstep).trans (Path.single hside Step.clearSideBand)
      exact Via.value _ fun _ hc => hc

theorem via_applyCommitStaple {K : Bytes -> Prop} {m : M.Message}
    (hquiet : A .quiet) (hcommit : A (.peerCommit .recvClassical m)) :
    Via A (Promised K) (applyCommitStaple m) (Earned K) := by
  have hpromised := Stable.promised (M := M) K
  unfold applyCommitStaple
  refine Via.quietly hquiet hpromised QuietOp.state fun s => ?_
  refine Via.quietly hquiet hpromised (quiet_injectSendPsksIf L _) fun _ => ?_
  refine Via.quietly hquiet hpromised (quiet_rememberRecvAttachmentComponent L)
    fun _ => ?_
  refine Via.bind (Via.readHalf _ _) fun before => ?_
  refine Via.bind (Via.ofExcept _) fun prior => ?_
  refine Via.assume fun hprior => ?_
  refine Via.bind (via_processOn L hquiet (by decide) hcommit) fun received => ?_
  refine Via.bind via_attestation fun attested => ?_
  refine Via.bind (Via.readHalf _ _) fun after => ?_
  refine Via.looking Op.Still.state fun s' => ?_
  refine Via.looking (Op.Still.ofExcept _) fun _ => ?_
  refine Via.looking (Op.Still.ofExcept _) fun _ => ?_
  refine Via.bind (Via.ofExcept _) fun new => ?_
  exact Via.value _ fun c hc => earned_leafChanges hprior hc.1 hc.2.1 hc.2.2

/-!
## Identities
-/

omit L in
theorem via_noteNewSender {newSender : Option Bytes} {K : Bytes -> Prop}
    {moved : LeafChanges}
    (htheirs : forall id, A (.commitTheirs .staple id)) :
    Via A (Earned K moved) (Op.update (noteNewSender newSender))
      (fun _ c => Earned K moved c) := by
  refine Via.update fun s hs => ?_
  cases newSender with
  | none => exact ⟨Path.refl, hs⟩
  | some newId => exact ⟨Path.single (htheirs newId) Step.commitTheirs, hs⟩

omit L in
theorem core_installWinner (winner : TwoMlsPqPrincipal M) (newOwn : Bytes)
    (s : SessionInner M) :
    (installWinner winner newOwn s).core =
      { s.core with
        auth := { s.core.auth with mine := s.core.auth.mine.commit newOwn }
        staged := []
        client := winner } := by
  unfold installWinner trackPskStores
  split
  · rfl
  · rfl

omit L in
theorem via_noteCanonicalizedOwn {K : Bytes -> Prop} {moved : LeafChanges}
    (hmine : forall id, A (.commitMine id))
    (hinstall : forall winner, A (.install winner)) :
    Via A (Earned K moved) (noteCanonicalizedOwn moved.canonicalizedOwn)
      (fun _ _ => True) := by
  unfold noteCanonicalizedOwn Earned
  cases moved.canonicalizedOwn with
  | none => exact Via.value _ fun _ _ => True.intro
  | some newOwn =>
      refine Via.bind Via.state fun s => ?_
      split
      next hown =>
        refine Via.step (hmine newOwn) fun s' hs => ⟨Step.commitMine ?_, True.intro⟩
        rw [← hs.1]
        exact hown
      next =>
        refine Via.bind (Via.ofOption _ _) fun winner => ?_
        refine Via.assume fun hfound => ?_
        have hbeq := List.find?_some hfound
        have hid : winner.clientId = newOwn := eq_of_beq hbeq
        refine Via.step (hinstall winner) fun s' hs => ⟨?_, True.intro⟩
        rw [core_installWinner, ← hid]
        refine Step.install ?_ (hs.2 newOwn rfl).2
        rw [← hs.1]
        exact List.mem_of_find?_eq_some hfound

/-!
## Message frames
-/

theorem via_decryptApp {app : M.Message}
    (hquiet : A .quiet) (hcommit : A (.peerCommit .recvClassical app)) :
    Via A p (decryptApp app) (fun _ _ => True) := by
  unfold decryptApp
  refine Via.bind
    ((via_processOn L hquiet (by decide) hcommit).post fun _ _ _ => True.intro)
    fun received => ?_
  cases received with
  | applicationMessage index data =>
      refine Via.quietly hquiet (Stable.const True) (QuietOp.readHalf _ _)
        fun recv => ?_
      refine Via.quietly hquiet (Stable.const True) (QuietOp.ofExcept _)
        fun sender => ?_
      exact Via.value _ fun _ _ => True.intro
  | proposal desc => exact Via.fail _
  | commit effect => exact Via.fail _
  | other => exact Via.fail _

theorem via_joinReporting {welcome : WelcomeBytes M}
    {establishment : WelcomeEstablishment}
    (hquiet : A .quiet) (hadopting : forall b, A (.setAdopting b))
    (hjoin : forall w, welcome.decoded = some w -> A (.joinRecv w))
    (htheirs : forall id, A (.commitTheirs .welcome id))
    (houtbound : A (.setOutbound none)) :
    Via A p (joinReporting welcome establishment)
      (fun outcome _ => outcome.moved.canonicalizedOwn = none) := by
  unfold joinReporting
  refine Via.bind Via.state fun before => ?_
  refine Via.bind (via_processWelcome L hquiet hadopting hjoin htheirs houtbound)
    fun _ => ?_
  refine Via.bind Via.state fun after => ?_
  refine Via.value _ fun _ _ => ?_
  unfold welcomeOutcome
  split
  · rfl
  · rfl

omit L in
theorem Earned.none {K : Bytes -> Prop} {moved : LeafChanges} {c : Core M}
    (h : moved.canonicalizedOwn = none) :
    Earned K moved c := by
  intro id hid
  rw [h] at hid
  cases hid

omit L in
theorem via_applyIfCurrent {K : Bytes -> Prop} {commit : Option M.Message}
    {apply : M.Message -> SessionOp M LeafChanges}
    (happly : forall m, commit = some m -> Via A (Promised K) (apply m) (Earned K)) :
    Via A (Promised K) (applyIfCurrent commit apply)
      (fun outcome c => Earned K outcome.moved c) := by
  unfold applyIfCurrent
  refine Via.bind (Via.ofOption _ _) fun m => ?_
  refine Via.assume fun hm => ?_
  refine Via.looking Op.Still.state fun s => ?_
  refine Via.looking (Op.Still.ofExcept _) fun action => ?_
  cases action with
  | skip => exact Via.value _ fun _ _ => Earned.none rfl
  | apply =>
      refine Via.bind (happly m hm) fun moved => ?_
      exact Via.value _ fun _ hc => hc

theorem via_processStaple {K : Bytes -> Prop} {staple : Staple M}
    {proposal : ProposalSection M} {app : Blob M}
    {approval : Option EstablishmentApproval} :
    Via (stapleEvents (.message staple proposal app)) (Promised K)
      (processStaple staple approval)
      (fun result c => forall outcome, result = some outcome ->
        Earned K outcome.moved c) := by
  have hquiet : stapleEvents (.message staple proposal app) .quiet :=
    ⟨True.intro, nofun⟩
  have hadopting : forall b, stapleEvents (.message staple proposal app)
      (.setAdopting b) :=
    fun _ => ⟨True.intro, nofun⟩
  have hwelcome : forall id, stapleEvents (.message staple proposal app)
      (.commitTheirs .welcome id) :=
    fun _ => ⟨receive_commitTheirs (by decide), nofun⟩
  have houtbound : stapleEvents (.message staple proposal app) (.setOutbound none) :=
    ⟨rfl, nofun⟩
  unfold processStaple
  refine Via.looking Op.Still.state fun s => ?_
  cases staple with
  | badHandoff => exact Via.fail _
  | badBind => exact Via.fail _
  | handoff envelope welcome =>
      dsimp only
      split
      · split
        · exact Via.value _ fun _ _ _ h => nomatch h
        · refine Via.bind
            (via_joinReporting L hquiet hadopting (fun _ h => ⟨h, nofun⟩) hwelcome houtbound)
            fun outcome => ?_
          refine Via.value _ fun _ hc _ h => ?_
          cases h
          exact Earned.none hc
      · refine Via.bind
          (via_processWelcome L hquiet hadopting (fun _ h => ⟨h, nofun⟩) hwelcome houtbound)
          fun _ => ?_
        refine Via.value _ fun _ _ _ h => ?_
        cases h
        exact Earned.none rfl
  | welcome welcome =>
      refine Via.bind
        (via_joinReporting L hquiet hadopting (fun _ h => ⟨h, nofun⟩) hwelcome houtbound)
        fun outcome => ?_
      refine Via.value _ fun _ hc _ h => ?_
      cases h
      exact Earned.none hc
  | bind tMessage pqMessage =>
      refine Via.bind (via_applyIfCurrent fun m hm => ?_) fun outcome => ?_
      · exact via_applyBindStaple L hquiet ⟨True.intro, nofun⟩ ⟨True.intro, nofun⟩
          ⟨rfl, nofun⟩ ⟨True.intro, nofun⟩ (fun _ h => ⟨Or.inl h, nofun⟩)
          (fun _ h => ⟨h, nofun⟩)
      refine Via.value _ fun _ hc _ h => ?_
      cases h
      exact hc
  | commit message =>
      refine Via.bind (via_applyIfCurrent fun m hm => ?_) fun outcome => ?_
      · exact via_applyCommitStaple L hquiet ⟨Or.inl hm, nofun⟩
      refine Via.value _ fun _ hc _ h => ?_
      cases h
      exact hc

theorem via_noteWatermark {proposal : Blob M} {proposing : Bytes}
    (hquiet : A .quiet)
    (hcommit : forall m, proposal.parsed = some m ->
      A (.peerCommit .sendClassical m))
    (hmark : forall m, proposal.parsed = some m -> A (.setMark m)) :
    Via A p (noteWatermark proposal proposing) (fun _ _ => True) := by
  unfold noteWatermark
  refine Via.bind Via.state fun s => ?_
  cases hepoch : s.epoch .sendClassical with
  | none => exact Via.value _ fun _ _ => True.intro
  | some sendEpoch =>
      have hstable : Stable fun c : Core M =>
          c.epoch .sendClassical = some sendEpoch :=
        Stable.epoch _ _
      refine Via.pre (p := fun c => c.epoch .sendClassical = some sendEpoch) ?_ ?_
      · refine Via.ite (Via.value _ fun _ _ => True.intro) ?_
        refine Via.bind
          (via_validateOfferedUpdate L hquiet hstable hcommit).attempt
          fun validated => ?_
        cases validated with
        | error e => exact Via.value _ fun _ _ => True.intro
        | ok _ =>
            refine Via.update fun s' hs => ⟨?_, True.intro⟩
            rcases hs () rfl with ⟨hnow, m, hparsed, g, held, hm, hkind⟩
            have hg : M.currentEpoch g = sendEpoch := by
              unfold Core.epoch at hnow
              rw [held] at hnow
              exact Option.some.inj hnow
            have hstep := Step.setMark held hm hkind
            rw [hg] at hstep
            exact Path.single (hmark m hparsed) hstep
      · rintro c ⟨rfl, _⟩
        exact hepoch

theorem via_recordOffer {staple : Staple M} {proposal : ProposalSection M}
    {app : Blob M} {sender groupId : Bytes} :
    Via (receiveEvents (.message staple proposal app)) p
      (recordOffer proposal sender groupId) (fun _ _ => True) := by
  unfold recordOffer
  refine Via.bind (Via.ofOption _ _) fun offered => ?_
  rcases offered with ⟨proposing, b⟩
  refine Via.assume fun hsection => ?_
  refine Via.bind
    (via_noteWatermark L True.intro
      (fun _ hm => ⟨proposing, b, hsection, hm⟩)
      (fun _ hm => ⟨proposing, b, hsection, hm⟩))
    fun _ => ?_
  refine Via.bind (q := fun _ _ => True) ?_ fun _ => ?_
  · refine Via.update fun s _ => ⟨?_, True.intro⟩
    refine Path.single (e := .setOffered (some
      { digest := b.sha256, proposing := proposing, proposal := b }))
      ⟨_, rfl, hsection⟩ Step.setOffered
  exact Via.value _ fun _ _ => True.intro

theorem via_processMessageBody {staple : Staple M} {proposal : ProposalSection M}
    {app : Blob M} {K : Bytes -> Prop} {outcome : StapleOutcome} {m : M.Message}
    (hparsed : app.parsed = some m) :
    Via (receiveEvents (.message staple proposal app)) (Earned K outcome.moved)
      (processMessageBody outcome proposal m) (fun _ _ => True) := by
  unfold processMessageBody
  refine Via.bind (via_noteNewSender fun _ => receive_commitTheirs (by decide)) fun _ => ?_
  refine Via.bind
    (via_noteCanonicalizedOwn (fun _ => True.intro) fun _ => True.intro) fun _ => ?_
  refine Via.bind (via_decryptApp L True.intro (Or.inr hparsed)) fun received => ?_
  refine Via.quietly True.intro (Stable.const True) (QuietOp.readHalf _ _)
    fun send => ?_
  refine Via.bind (via_recordOffer L) fun offered => ?_
  refine Via.bind Via.state fun s => ?_
  exact Via.value _ fun _ _ => True.intro

theorem via_processMessage {staple : Staple M} {proposal : ProposalSection M}
    {app : Blob M} {approval : Option EstablishmentApproval} :
    Via (receiveEvents (.message staple proposal app)) p
      (processMessage staple proposal app approval) (fun _ _ => True) := by
  unfold processMessage
  refine Via.bind (Via.ofOption _ _) fun m => ?_
  refine Via.assume fun hparsed => ?_
  refine Via.bind (((via_processStaple (K := fun _ => True) L).pre
    fun _ _ _ _ _ _ _ _ => True.intro).mono fun _ h => h.1) fun outcome => ?_
  cases outcome with
  | none =>
      cases staple with
      | handoff envelope welcome => exact Via.value _ fun _ _ => True.intro
      | _ => exact Via.value _ fun _ _ => True.intro
  | some outcome =>
      refine Via.bind ((via_processMessageBody L hparsed).pre
        fun _ hc => hc outcome rfl) fun result => ?_
      exact Via.value _ fun _ _ => True.intro

theorem via_joinStandalone {f : Frame M} {welcome : WelcomeBytes M}
    {establishment : WelcomeEstablishment}
    (hwelcomes : forall w, welcome.decoded = some w -> f.welcomes w) :
    Via (receiveEvents f) p (joinStandalone welcome establishment)
      (fun _ _ => True) := by
  unfold joinStandalone
  refine Via.bind
    (via_joinReporting L True.intro (fun _ => True.intro) hwelcomes
      (fun _ => receive_commitTheirs (by decide)) rfl)
    fun outcome => ?_
  refine Via.bind Via.state fun s => ?_
  split
  · exact Via.value _ fun _ _ => True.intro
  · exact Via.value _ fun _ _ => True.intro

theorem via_processIncomingInner {f : Frame M}
    {approval : Option EstablishmentApproval} :
    Via (receiveEvents f) p (processIncomingInner f approval)
      (fun _ _ => True) := by
  unfold processIncomingInner
  refine Via.bind Via.state fun s => ?_
  refine Via.bind (Via.ensure _ _) fun _ => ?_
  cases f with
  | badHandoff => exact Via.fail _
  | badMessage => exact Via.fail _
  | sideBand frame => exact Via.fail _
  | unknown => exact Via.fail _
  | handoff envelope welcome =>
      dsimp only
      split
      · refine Via.bind
          (via_processWelcome L True.intro (fun _ => True.intro) (fun _ h => h)
            (fun _ => receive_commitTheirs (by decide)) rfl)
          fun _ => ?_
        exact Via.value _ fun _ _ => True.intro
      · split
        · exact Via.value _ fun _ _ => True.intro
        · exact via_joinStandalone L fun _ h => h
  | welcome welcome => exact via_joinStandalone L fun _ h => h
  | message staple proposal app => exact via_processMessage L
  | preEstablishment app =>
      refine Via.bind (Via.ofOption _ _) fun m => ?_
      refine Via.assume fun hparsed => ?_
      refine Via.bind (via_decryptApp (A := receiveEvents _) L True.intro hparsed)
        fun received => ?_
      exact Via.value _ fun _ _ => True.intro

end

end Session
end TwoMlsPq
