import TwoMlsPq.Session.Sending

/-!
# The receive door

`process_incoming` applies the frame's staple, decrypts the application message
and records the peer's offer.  A welcome joins the peer's send group, a bind
applies both halves of a full commit, a plain commit applies one half, and a
staple that was applied before is skipped.
-/

namespace TwoMlsPq
namespace Session

open Foundation Apq

section

variable {M : MlsRs}

/-!
## Welcomes
-/

def trackPskStores (client : TwoMlsPqPrincipal M) (s : SessionInner M) :
    SessionInner M :=
  if client.handle = s.ledger.pskStoresFrom then s
  else s.mapLedger fun l =>
    { l with
      pskStoresFrom := client.handle
      pskStores := l.pskStores ++ client.stores }

def checkWelcomeSuite (welcome : Blob M) (expected : Nat) : Result Unit :=
  match welcome.parsed with
  | none => .error .mls
  | some message =>
      if M.messageCipherSuite message = some expected then .ok ()
      else .error .cipherSuiteMismatch

def validateWelcomeHalves (expected : ApqCipherSuite) (w : ApqWelcome M) :
    Result Unit := do
  (if w.classical.bytes = [] then .ok ()
    else checkWelcomeSuite w.classical expected.classical)
  (if w.pq.bytes = [] then .ok () else checkWelcomeSuite w.pq expected.pq)

/-- Which creator a join may adopt: the invitation identity of a bare welcome,
or the identity a verified delegation names. -/
inductive WelcomeEstablishment where
  | bare
  | approved (expectedCreator : Bytes)
deriving DecidableEq, Repr

def joinWelcome (w : ApqWelcome M) : SessionOp M (CombinerGroup M) := do
  let s <- Op.state
  let client := s.client
  if w.pq.bytes = [] then do
    let classical <-
      Op.ofExcept
        (joinGroupFromWelcome (s.services.env client.classicalPsks)
          client.classical client.classicalKpStore w.classical)
    let _ <- Op.ofExcept (verifyApqInfoDeferred classical s.suite)
    pure (CombinerGroup.fromClient client classical none)
  else do
    let pq <-
      Op.ofExcept
        (joinGroupFromWelcome (s.services.env client.pqPsks) client.pq
          client.pqKpStore w.pq)
    let (exported, pq) <-
      (match (exportPsk .apq).run pq with
        | (.ok exported, pq') => pure (exported, pq')
        | (.error e, _) => Op.fail e)
    Op.update fun s => s.registerPsk exported.storageId exported.psk
    let s <- Op.state
    let classical <-
      Op.ofExcept
        (joinGroupFromWelcome (s.services.env client.classicalPsks)
          client.classical client.classicalKpStore w.classical)
    let _ <- Op.ofExcept (verifyApqInfoPair classical pq s.suite)
    Op.ofExcept (ensureMembershipConsistent classical pq)
    pure (CombinerGroup.fromClient client classical (some pq))

def setAdopting (b : Bool) (s : SessionInner M) : SessionInner M :=
  s.withAuth fun core => { core with adopting := b }

def creatorAllowed (s : SessionInner M) (creatorId : Bytes) :
    WelcomeEstablishment -> Result Unit
  | .bare =>
      if s.rotation.theirState.clientId = creatorId then .ok ()
      else .error .establishmentEnvelopeRequired
  | .approved expectedCreator =>
      if expectedCreator = creatorId then .ok ()
      else .error .establishmentCreatorMismatch

def adoptRecvGroup (recv : CombinerGroup M) (creatorId digest : Bytes)
    (s : SessionInner M) : SessionInner M :=
  { ((((s.commitTheirs creatorId).mapRotation fun r =>
      { r with theirState := .sync creatorId }).mapMsg fun m =>
        { m with
          joinedWelcomeDigest := some digest
          pendingOutbound := none }).mapEstablishment fun e =>
        { e with
          initialTheirKp := none
          initialAppPayload := none
          initialReturnKp := none })
    with recvGroup := some recv }

def verifyUnbound (recv : CombinerGroup M) : Result Unit :=
  match recv.pq with
  | some pq => verifyPqHalfUnbound pq
  | none => .ok ()

def processWelcome (welcome : WelcomeBytes M)
    (establishment : WelcomeEstablishment) : SessionOp M Unit := do
  let digest := M.sha256 welcome.bytes
  let s <- Op.state
  if s.recvGroup.isSome then
    Op.ensure (s.msg.joinedWelcomeDigest = some digest) .unexpectedWelcome
  else do
    Op.update fun s => trackPskStores s.client s
    (if s.sendGroup.isSome then injectSendPsks else pure ())
    let w <- Op.ofOption welcome.decoded .mls
    Op.ofExcept (validateWelcomeHalves s.suite w)
    Op.update (setAdopting true)
    let joined <- Op.attempt (joinWelcome w)
    Op.update (setAdopting false)
    let recv <- Op.ofExcept joined
    let send <- readHalf .sendClassical .sessionNotEstablished
    let ownBinding <- Op.ofExcept (readAppBinding send)
    Op.ofExcept (verifyAppBinding recv.classical ownBinding)
    Op.ofExcept (verifyUnbound recv)
    let creatorId <-
      Op.ofExcept (senderClientId recv.classical (peerIndex recv.classical))
    let s <- Op.state
    Op.ofExcept (creatorAllowed s creatorId establishment)
    Op.update (adoptRecvGroup recv creatorId digest)

/-!
## Staples
-/

inductive StapleAction where
  | skip
  | apply
deriving DecidableEq, Repr

def stapleEpochAction (s : SessionInner M) (commit : M.Message) :
    Result StapleAction :=
  match M.messageEpoch commit with
  | none => .error .decryptionFailed
  | some commitEpoch =>
      match s.epoch .recvClassical with
      | none => .error .sessionNotEstablished
      | some current =>
          if commitEpoch < current then .ok .skip
          else if commitEpoch = current then .ok .apply
          else .error .epochDesync

structure LeafChanges where
  newSender : Option Bytes
  canonicalizedOwn : Option Bytes
deriving DecidableEq, Repr

def LeafChanges.none : LeafChanges :=
  { newSender := Option.none, canonicalizedOwn := Option.none }

def leafIds (g : M.Group) : Result (Bytes × Bytes) := do
  let peer <- senderClientId g (peerIndex g)
  let own <- senderClientId g (M.currentMemberIndex g)
  .ok (peer, own)

def leafChanges (prior new : Bytes × Bytes) : LeafChanges :=
  { newSender := if new.1 ≠ prior.1 then some new.1 else Option.none
    canonicalizedOwn := if new.2 ≠ prior.2 then some new.2 else Option.none }

def leafIdsAt (g : M.Group) (peer own : Nat) : Result (Bytes × Bytes) := do
  let peerId <- senderClientId g peer
  let ownId <- senderClientId g own
  .ok (peerId, ownId)

def applyBindClassical (clCommit : Blob M) (pqAttestation : ApqInfoUpdate) :
    SessionOp M LeafChanges := do
  let message <- Op.ofOption clCommit.parsed .mls
  let before <- readHalf .recvClassical .sessionNotReady
  let prior <- Op.ofExcept (leafIds before)
  let received <-
    callHalf .recvClassical .sessionNotReady (fun _ => .mls) fun env =>
      M.processIncomingMessage env message
  let attestation <-
    (match received with
      | .commit effect => Op.ofExcept (commitAttestation effect)
      | _ => Op.fail .apqInfoMismatch)
  let clAttestation <- Op.ofOption attestation .apqInfoMismatch
  let recvPq <- readHalf .recvPq .sessionNotReady
  let after <- readHalf .recvClassical .sessionNotReady
  Op.ensure
    (clAttestation = pqAttestation ∧
      pqAttestation.pqEpoch = M.currentEpoch recvPq ∧
      clAttestation.tEpoch = M.currentEpoch after)
    .apqInfoMismatch
  Op.ofExcept (ensureTwoParty after)
  let new <-
    Op.ofExcept
      (leafIdsAt after (peerIndex before) (M.currentMemberIndex before))
  pure (leafChanges prior new)

def applyBind (secret : Bytes) (pqCommit clCommit : Blob M) :
    SessionOp M LeafChanges := do
  let s <- Op.state
  let stores := s.ledger.pskStores
  (if s.sendGroup.isSome then injectSendPsks else pure ())
  let (apqPsk, pqAttestation) <-
    onHalf .recvPq .sessionNotReady fun store =>
      applyInjectedCommit store stores secret pqCommit
  let moved <- applyBindClassical clCommit pqAttestation
  Op.update fun s =>
    (s.forgetStores ((s.recvGroup.map CombinerGroup.stores).getD [])
      apqPsk.storageId).forgetStores stores apqPsk.storageId
  pure moved

def exportCrossFromSendPq : SessionOp M ExportedPsk := do
  let g <- readHalf .sendPq .sessionNotReady
  let exported <-
    onHalf .sendPq .sessionNotReady fun _ =>
      HalfOp.ofGroup (exportPsk .crossParty)
  Op.update fun s => s.mapRound fun r =>
    { r with lastSendPqExported := some (M.currentEpoch g) }
  pure exported

def exportCrossFromRecvPq : SessionOp M ExportedPsk := do
  let g <- readHalf .recvPq .sessionNotReady
  let exported <-
    onHalf .recvPq .sessionNotReady fun _ =>
      HalfOp.ofGroup (exportPsk .crossParty)
  Op.update fun s => s.mapRound fun r =>
    { r with lastCrossInjectedPq := some (M.currentEpoch g) }
  pure exported

def clearInflight (s : SessionInner M) : SessionInner M :=
  s.mapRound fun r => { r with pqInflight := none }

/-- Take the responder's secret: held since the encapsulation (A.4), or exported
again from our own send half (A.3, A.5).  The slot is emptied last. -/
def takeResponderSecret : SessionOp M Bytes := do
  let s <- Op.state
  match s.round.pqInflight with
  | some (.responding secret _) => do
      Op.update clearInflight
      pure secret
  | some .bootstrapResponded => reExport
  | some .rekeyResponded => reExport
  | _ => Op.fail .sessionNotReady
where
  reExport : SessionOp M Bytes := do
    let exported <- exportCrossFromSendPq
    Op.update clearInflight
    pure exported.psk

/-- Apply a bind whose round we answered.  A failure past the taken secret is
latched: no retry can rebuild the secret. -/
def applyBindStaple (tMessage pqMessage : Blob M) : SessionOp M LeafChanges := do
  let secret <- takeResponderSecret
  rememberRecvAttachmentComponent
  let applied <- Op.attempt (applyBind secret pqMessage tMessage)
  match applied with
  | .error _ => do
      Op.update fun s => s.mapRound fun r => { r with bindApplyBroken := true }
      Op.fail .bindApplyFailed
  | .ok moved => do
      Op.update fun s => s.mapRound fun r =>
        { r with pqTurnMine := true, pendingSideBand := none }
      pure moved

def checkStapleAttestation (s : SessionInner M) (recv : M.Group) :
    Option ApqInfoUpdate -> Result Unit
  | none => .ok ()
  | some attestation =>
      match s.epoch .recvPq with
      | none => .error .apqInfoMismatch
      | some pqEpoch =>
          if attestation.tEpoch = M.currentEpoch recv ∧
              attestation.pqEpoch = pqEpoch then
            .ok ()
          else .error .apqInfoMismatch

/-- A refused credential keeps its name; every other failure of a staple stays
retriable. -/
def stapleErr (e : MlsError) : TwoMlsPqError :=
  if mapCredentialErr e = .credentialRejected then .credentialRejected
  else .decryptionFailed

def applyCommitStaple (commit : M.Message) : SessionOp M LeafChanges := do
  let s <- Op.state
  (if s.sendGroup.isSome then injectSendPsks else pure ())
  rememberRecvAttachmentComponent
  let before <- readHalf .recvClassical .sessionNotEstablished
  let prior <- Op.ofExcept (leafIds before)
  let received <-
    callHalf .recvClassical .sessionNotEstablished stapleErr fun env =>
      M.processIncomingMessage env commit
  let attestation <-
    (match received with
      | .commit effect => Op.ofExcept (commitAttestation effect)
      | _ => Op.fail .decryptionFailed)
  let after <- readHalf .recvClassical .sessionNotEstablished
  let s <- Op.state
  Op.ofExcept (checkStapleAttestation s after attestation)
  Op.ofExcept (ensureTwoParty after)
  let new <-
    Op.ofExcept
      (leafIdsAt after (peerIndex before) (M.currentMemberIndex before))
  pure (leafChanges prior new)

/-!
## Identity bookkeeping

Both staple arms feed one block, so the principal state, the Authentication
Service and the leaves move together.
-/

def noteNewSender (newSender : Option Bytes) (s : SessionInner M) :
    SessionInner M :=
  match newSender with
  | some newId =>
      (s.commitTheirs newId).mapRotation fun r =>
        { r with theirState := .sync newId }
  | none => s

def installWinner (winner : TwoMlsPqPrincipal M) (newOwn : Bytes)
    (s : SessionInner M) : SessionInner M :=
  { (trackPskStores winner (s.commitMine newOwn)).mapRotation fun r =>
      { r with stagedCandidates := [], myState := .sync winner.clientId }
    with client := winner }

def noteCanonicalizedOwn (canonicalizedOwn : Option Bytes) :
    SessionOp M Unit := do
  match canonicalizedOwn with
  | none => pure ()
  | some newOwn => do
      let s <- Op.state
      if newOwn = s.client.clientId then
        Op.update fun s => s.commitMine newOwn
      else do
        let winner <-
          Op.ofOption
            (s.rotation.stagedCandidates.find? fun c => c.clientId == newOwn)
            .credentialRejected
        Op.update (installWinner winner newOwn)

/-!
## Results
-/

structure MlsSenderMessage where
  appMessageData : Bytes
  senderClientId : Bytes
  epoch : Nat
deriving DecidableEq, Repr

structure QueuedRemoteProposal where
  digest : Bytes
  sender : Bytes
  proposing : Bytes
  context : Bytes
deriving DecidableEq, Repr

structure CommitResult where
  newSender : Option Bytes
  newRecipient : Bytes
deriving DecidableEq, Repr

structure PendingEstablishment (M : MlsRs) where
  envelope : Bytes
  welcome : WelcomeBytes M

structure DecryptResult (M : MlsRs) where
  applicationMessage : Option MlsSenderMessage
  proposal : Option QueuedRemoteProposal
  remoteCommit : Option CommitResult
  pendingEstablishment : Option (PendingEstablishment M)

def DecryptResult.paused (envelope : Bytes) (welcome : WelcomeBytes M) :
    DecryptResult M :=
  { applicationMessage := none
    proposal := none
    remoteCommit := none
    pendingEstablishment := some { envelope := envelope, welcome := welcome } }

structure EstablishmentApproval where
  approvedEnvelopeDigest : Bytes
  approvedWelcomeDigest : Bytes
  expectedCreator : Bytes
deriving DecidableEq, Repr

def EstablishmentApproval.covers (a : EstablishmentApproval) (envelope : Bytes)
    (welcome : WelcomeBytes M) : Bool :=
  M.sha256 envelope == a.approvedEnvelopeDigest &&
    M.sha256 welcome.bytes == a.approvedWelcomeDigest

def coveringApproval (approval : Option EstablishmentApproval) (envelope : Bytes)
    (welcome : WelcomeBytes M) : Option EstablishmentApproval :=
  approval.filter fun a => a.covers envelope welcome

/-!
## Decrypting
-/

def decryptApp (app : M.Message) : SessionOp M MlsSenderMessage := do
  let received <-
    callHalf .recvClassical .sessionNotEstablished mapAppMessageErr fun env =>
      M.processIncomingMessage env app
  match received with
  | .applicationMessage senderIndex data => do
      let recv <- readHalf .recvClassical .sessionNotEstablished
      let sender <- Op.ofExcept (senderClientId recv senderIndex)
      pure
        { appMessageData := data
          senderClientId := sender
          epoch := (M.messageEpoch app).getD (M.currentEpoch recv) }
  | _ => Op.fail .decryptionFailed

/-!
## Message frames
-/

structure StapleOutcome where
  moved : LeafChanges
  applied : Bool
deriving DecidableEq, Repr

def StapleOutcome.unchanged : StapleOutcome :=
  { moved := LeafChanges.none, applied := false }

def welcomeOutcome (prior adopted : Bytes) : StapleOutcome :=
  if adopted ≠ prior then
    { moved := { newSender := some adopted, canonicalizedOwn := none }
      applied := true }
  else StapleOutcome.unchanged

def joinReporting (welcome : WelcomeBytes M)
    (establishment : WelcomeEstablishment) : SessionOp M StapleOutcome := do
  let before <- Op.state
  processWelcome welcome establishment
  let after <- Op.state
  pure
    (welcomeOutcome before.rotation.theirState.clientId
      after.rotation.theirState.clientId)

def applyIfCurrent (commit : Option M.Message)
    (apply : M.Message -> SessionOp M LeafChanges) :
    SessionOp M StapleOutcome := do
  let message <- Op.ofOption commit .decryptionFailed
  let s <- Op.state
  let action <- Op.ofExcept (stapleEpochAction s message)
  match action with
  | .skip => pure StapleOutcome.unchanged
  | .apply => do
      let moved <- apply message
      pure { moved := moved, applied := true }

/-- Process the staple; `none` means the frame pauses for the host. -/
def processStaple (staple : Staple M) (approval : Option EstablishmentApproval) :
    SessionOp M (Option StapleOutcome) := do
  let s <- Op.state
  match staple with
  | .badHandoff => Op.fail .mls
  | .handoff envelope welcome =>
      if s.recvGroup.isNone then
        match coveringApproval approval envelope welcome with
        | none => pure none
        | some a => do
            let outcome <- joinReporting welcome (.approved a.expectedCreator)
            pure (some outcome)
      else do
        processWelcome welcome .bare
        pure (some StapleOutcome.unchanged)
  | .welcome welcome => do
      let outcome <- joinReporting welcome .bare
      pure (some outcome)
  | .badBind => Op.fail .mls
  | .bind tMessage pqMessage => do
      let outcome <-
        applyIfCurrent tMessage.parsed fun _ => applyBindStaple tMessage pqMessage
      pure (some outcome)
  | .commit message => do
      let outcome <- applyIfCurrent message.parsed applyCommitStaple
      pure (some outcome)

/-- Record that the peer reached our send epoch, when its offer proves it. -/
def noteWatermark (proposal : Blob M) (proposing : Bytes) : SessionOp M Unit := do
  let s <- Op.state
  match s.epoch .sendClassical with
  | none => pure ()
  | some sendEpoch =>
      let already :=
        match s.msg.peerAppliedSendEpoch with
        | some mark => decide (sendEpoch <= mark)
        | none => false
      if already then pure ()
      else do
        let validated <- Op.attempt (validateOfferedUpdate proposal proposing)
        match validated with
        | .ok _ =>
            Op.update fun s => s.mapMsg fun m =>
              { m with peerAppliedSendEpoch := some sendEpoch }
        | .error _ => pure ()

def recordOffer (section_ : ProposalSection M) (sender groupId : Bytes) :
    SessionOp M QueuedRemoteProposal := do
  let (proposing, proposal) <- Op.ofOption section_ .mls
  noteWatermark proposal proposing
  Op.update fun s => s.mapMsg fun m =>
    { m with
      offeredProposal := some
        { digest := proposal.sha256, proposing := proposing, proposal := proposal } }
  pure
    { digest := proposal.sha256
      sender := sender
      proposing := proposing
      context := M.sha256 groupId }

def processMessageBody (outcome : StapleOutcome) (proposal : ProposalSection M)
    (app : M.Message) : SessionOp M (DecryptResult M) := do
  Op.update (noteNewSender outcome.moved.newSender)
  noteCanonicalizedOwn outcome.moved.canonicalizedOwn
  let received <- decryptApp app
  let send <- readHalf .sendClassical .sessionNotEstablished
  let offered <- recordOffer proposal received.senderClientId (M.groupId send)
  let s <- Op.state
  pure
    { applicationMessage := some received
      proposal := some offered
      remoteCommit :=
        if outcome.applied then
          some
            { newSender := outcome.moved.newSender
              newRecipient := s.rotation.myState.clientId }
        else none
      pendingEstablishment := none }

def processMessage (staple : Staple M) (proposal : ProposalSection M)
    (app : Blob M) (approval : Option EstablishmentApproval) :
    SessionOp M (Option (DecryptResult M)) := do
  let appMessage <- Op.ofOption app.parsed .decryptionFailed
  let outcome <- processStaple staple approval
  match outcome, staple with
  | none, .handoff envelope welcome =>
      pure (some (DecryptResult.paused envelope welcome))
  | none, _ => pure none
  | some outcome, _ => do
      let result <- processMessageBody outcome proposal appMessage
      pure (some result)

def joinStandalone (welcome : WelcomeBytes M)
    (establishment : WelcomeEstablishment) :
    SessionOp M (Option (DecryptResult M)) := do
  let outcome <- joinReporting welcome establishment
  let s <- Op.state
  match outcome.moved.newSender with
  | some adopted =>
      pure (some
        { applicationMessage := none
          proposal := none
          remoteCommit := some
            { newSender := some adopted
              newRecipient := s.rotation.myState.clientId }
          pendingEstablishment := none })
  | none => pure none

def processIncomingInner (frame : Frame M)
    (approval : Option EstablishmentApproval) :
    SessionOp M (Option (DecryptResult M)) := do
  let s <- Op.state
  Op.ensure (s.round.bindApplyBroken = false) .bindApplyFailed
  match frame with
  | .badHandoff => Op.fail .mls
  | .handoff envelope welcome =>
      if s.recvGroup.isSome then do
        processWelcome welcome .bare
        pure none
      else
        match coveringApproval approval envelope welcome with
        | none => pure (some (DecryptResult.paused envelope welcome))
        | some a => joinStandalone welcome (.approved a.expectedCreator)
  | .welcome welcome => joinStandalone welcome .bare
  | .badMessage => Op.fail .mls
  | .message staple proposal app => processMessage staple proposal app approval
  | .preEstablishment app => do
      let appMessage <- Op.ofOption app.parsed .decryptionFailed
      let received <- decryptApp appMessage
      pure (some
        { applicationMessage := some received
          proposal := none
          remoteCommit := none
          pendingEstablishment := none })
  | .sideBand _ => Op.fail .sessionNotReady
  | .unknown => Op.fail .decryptionFailed

end

end Session
end TwoMlsPq
