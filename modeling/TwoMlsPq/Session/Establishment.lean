import TwoMlsPq.Session.Api

/-!
# Opening a session

`initiate` creates the full send group around the peer's published key package
and pre-commits the bootstrap key package.  `accept_with` joins that group and
answers with a classical-only send group of its own, created under the
invitation's client or under a dedicated one.
-/

namespace TwoMlsPq
namespace Session

open Foundation Apq

section

variable {M : MlsRs}

def buildSession (client : TwoMlsPqPrincipal M) (services : Services)
    (sendGroup : CombinerGroup M) (recvGroup : Option (CombinerGroup M))
    (welcome : ApqWelcome M) (theirId : Bytes) (initiated : Bool)
    (joinedWelcomeDigest : Option Bytes) (nextHandle : Nat) : SessionInner M :=
  let staple : Staple M := .welcome (WelcomeBytes.ofWelcome welcome)
  { client := client
    suite := client.suite
    sendGroup := some sendGroup
    recvGroup := recvGroup
    services := services
    msg :=
      { pendingOutbound := some (.staple staple)
        pendingProposalHash := none
        currentStaple := some staple
        currentStapleSeq := 0
        pendingProposalMessage := none
        joinedWelcomeDigest := joinedWelcomeDigest
        offeredProposal := none
        queuedProposal := none
        peerAppliedSendEpoch := none }
    rotation :=
      { stagedCandidates := []
        deferredCandidate := none
        myState := .sync client.clientId
        theirState := .sync theirId }
    round :=
      { pqInflight := none
        pendingSideBand := none
        owedBind := none
        pqTurnMine := initiated
        bindApplyBroken := false
        pqWedged := none
        lastCrossInjectedPq := none
        lastSendPqExported := none
        bootstrapKp := none
        bootstrapKpSecret := none
        expectedBootstrapKpCommitment := none }
    ledger :=
      { sendPskLedger := []
        sendAttachmentLedger := []
        recvAttachmentLedger := []
        retiredSendPsks := []
        lastCrossInjected := none
        listenRendezvous := []
        recvHeaderKeys := []
        recvHeaderKeysPq := []
        pskStores := client.stores
        pskStoresFrom := client.handle }
    establishment :=
      { spawnToken := none
        initialTheirKp := none
        initialAppPayload := none
        initialReturnKp := none
        requiresEstablishmentEnvelope := false
        establishmentEnvelope := none }
    stateSeq := 0
    nextHandle := nextHandle }

def validateCombinerKp (expected : ApqCipherSuite) (kp : CombinerKeyPackage M) :
    Result Unit := do
  let classical <- parseMlsKeyPackage kp.classical
  let pq <- parseMlsKeyPackage kp.pq
  if classical.clientId ≠ pq.clientId then .error .invalidKeyPackage
  else if classical.cipherSuite = expected.classical ∧
      pq.cipherSuite = expected.pq then
    .ok ()
  else if classical.cipherSuite ≠ ApqCipherSuite.declared.pq ∧
      pq.cipherSuite ≠ ApqCipherSuite.declared.pq then
    .error .pqNotAvailable
  else
    .error .cipherSuiteMismatch

def recordBirth : SessionOp M Unit := do
  rememberSendPsk
  recordListenRendezvous
  recordPqHeaderKey

def preCommitBootstrapKp (seed : M.Seed) : SessionOp M Unit := do
  let s <- Op.state
  let (message, secret) <-
    Op.ofExcept
      (orError .mls (M.generateKeyPackage s.client.pq s.suite.pq seed))
  let kp <- Op.ofExcept (orError .mls (Blob.ofMessage message))
  Op.update fun s => s.mapRound fun r =>
    { r with bootstrapKp := some kp, bootstrapKpSecret := some secret }

def initiateBirth (theirKp : CombinerKeyPackage M) (rnd : Nat -> M.Seed) :
    SessionOp M Unit := do
  Op.update fun s => s.mapEstablishment fun e =>
    { e with initialTheirKp := some theirKp }
  preCommitBootstrapKp (rnd 0)
  let envelope <- composeInitialEnvelope none (rnd 1)
  Op.update fun s => s.mapMsg fun m =>
    { m with pendingOutbound := some (.envelope envelope) }
  recordBirth

def initiate (client : TwoMlsPqPrincipal M) (services : Services)
    (theirKp : CombinerKeyPackage M) (appBinding : Option Bytes)
    (rnd : Nat -> M.Seed) : Result (SessionInner M) := do
  if appBinding = some [] then .error .appBindingMismatch
  else do
    validateCombinerKp client.suite theirKp
    let their <- parseMlsKeyPackage theirKp.classical
    match
      (createCombinerSendGroup theirKp.classical theirKp.pq client appBinding
        (fun n => rnd (n + 2))).run services
    with
    | (.error e, _) => .error e
    | (.ok created, services) =>
        let born :=
          buildSession client services created.1 none created.2 their.clientId
            true none (client.handle + 1)
        match (initiateBirth theirKp rnd).run born with
        | (.error e, _) => .error e
        | (.ok _, s) => .ok s

def requireCreator (g : M.Group) (theirId : Bytes) : Result Unit := do
  let creator <- senderClientId g (peerIndex g)
  if creator = theirId then .ok () else .error .remoteIdentityMismatch

def requireCreatorPq (recv : CombinerGroup M) (theirId : Bytes) : Result Unit :=
  match recv.pq with
  | some pq => requireCreator pq theirId
  | none => .ok ()

/-- A dedicated principal continues the invitation's credential sequence. -/
def dedicatedAuth (invitationId dedicatedId peerId : Bytes) (core : AuthCore) :
    AuthCore :=
  { core with
    mine := (PartySequence.seeded invitationId).commit dedicatedId
    theirs := core.theirs.commit peerId }

def purgeKeyPackages (client : TwoMlsPqPrincipal M) : TwoMlsPqPrincipal M :=
  { client with classicalKpStore := [], pqKpStore := [] }

def acceptBirth (invitationClient : Option (TwoMlsPqPrincipal M))
    (recvCrossEpoch : Nat) (commitment : Bytes) (spawnToken : Option Bytes) :
    SessionOp M Unit := do
  Op.update fun s =>
    match invitationClient with
    | some client => trackPskStores client s
    | none => s
  Op.update fun s =>
    ((s.mapLedger fun l =>
      { l with lastCrossInjected := some recvCrossEpoch }).mapRound fun r =>
        { r with expectedBootstrapKpCommitment := some commitment }).mapEstablishment
          fun e =>
            { e with requiresEstablishmentEnvelope := invitationClient.isSome }
  recordBirth
  Op.update fun s => s.mapEstablishment fun e =>
    { e with spawnToken := spawnToken }

/-- The join of the initiator's group and the answer to it, on the client's
services.  `dedicatedServices` is the view of a dedicated client, to which the
invitation's client is rebound. -/
def acceptGroups (client groupClient : TwoMlsPqPrincipal M)
    (dedicatedServices : Option Services) (welcome : ApqWelcome M)
    (theirKp : Blob M) (theirId : Bytes) (expectedAppBinding : Option Bytes)
    (rnd : Nat -> M.Seed) :
    ServiceOp (CombinerGroup M × CombinerGroup M × Blob M × Nat) := do
  let recv <-
    joinCombinerGroupFromHalves welcome.classical welcome.pq client
  Op.ofExcept (requireCreator recv.classical theirId)
  Op.ofExcept (requireCreatorPq recv theirId)
  Op.ofExcept (verifyAppBinding recv.classical expectedAppBinding)
  Op.ofExcept (verifyUnbound recv)
  let appBinding <- Op.ofExcept (readAppBinding recv.classical)
  Op.update fun sv =>
    match dedicatedServices with
    | some dedicated =>
        { sv with
          auth :=
            dedicatedAuth client.clientId groupClient.clientId theirId
              dedicated.auth }
    | none => sv
  let (send, classicalWelcome, recvClassical) <-
    createBoundClassicalSendGroup theirKp groupClient recv.classical appBinding rnd
  pure
    (send, { recv with classical := recvClassical }, classicalWelcome,
      M.currentEpoch recv.classical)

def acceptWith (client : TwoMlsPqPrincipal M)
    (sessionClient : Option (TwoMlsPqPrincipal M × Services))
    (services : Services) (welcome : WelcomeBytes M) (theirKp : Blob M)
    (bootstrapKpCommitment : Bytes) (spawnToken : Option Bytes)
    (expectedAppBinding : Option Bytes) (rnd : Nat -> M.Seed) :
    Result (SessionInner M) := do
  if expectedAppBinding = some [] then .error .appBindingMismatch
  else if bootstrapKpCommitment.length ≠ 32 then .error .bootstrapKpMismatch
  else do
    checkKeyPackageSuite theirKp client.suite.classical
    let their <- parseMlsKeyPackage theirKp
    match welcome.decoded with
    | none => .error .mls
    | some w => do
        validateWelcomeHalves client.suite w
        let groupClient :=
          (sessionClient.map Prod.fst).getD (purgeKeyPackages client)
        match
          (acceptGroups client groupClient (sessionClient.map Prod.snd) w theirKp
            their.clientId expectedAppBinding rnd).run services
        with
        | (.error e, _) => .error e
        | (.ok (send, recv, classicalWelcome, recvCrossEpoch), services) =>
            let born :=
              buildSession groupClient services send (some recv)
                { classical := classicalWelcome, pq := Blob.empty }
                their.clientId false (some (M.sha256 welcome.bytes))
                (client.handle + groupClient.handle + 1)
            match
              (acceptBirth (sessionClient.map fun _ => client) recvCrossEpoch
                bootstrapKpCommitment spawnToken).run born
            with
            | (.error e, _) => .error e
            | (.ok _, s) => .ok s

end

end Session
end TwoMlsPq
