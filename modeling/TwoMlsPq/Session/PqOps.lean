import TwoMlsPq.Session.Receiving

/-!
# The post-quantum doors

The three rounds that refresh the post-quantum halves: the A.3 bootstrap, the
A.4 ratchet and the A.5 rekey.  Every door has a guard that reads the session
without changing it, and a body that runs under the persistence wrapper.
-/

namespace TwoMlsPq
namespace Session

open Foundation Apq

section

variable {M : MlsRs}

/-!
## Shared guards
-/

def sideBandMessage (kind : PqFrameKind) (frame : Frame M) : Result M.Message :=
  match frame with
  | .sideBand leg =>
      if leg.kind = kind then
        match leg.body.parsed with
        | some message => .ok message
        | none => .error .mls
      else .error .mls
  | _ => .error .mls

def sideBandBody (kind : PqFrameKind) (frame : Frame M) : Result (Blob M) :=
  match frame with
  | .sideBand leg => if leg.kind = kind then .ok leg.body else .error .mls
  | _ => .error .mls

def belowFloor (floor : Nat) (epoch : Option Nat) : Bool :=
  match epoch with
  | some e => decide (e < floor)
  | none => false

def sendPqCommitBlocked (s : SessionInner M) : Bool :=
  match s.half .sendPq with
  | some pq => M.commitRequired pq
  | none => false

def checkNotWedged (s : SessionInner M) : Result Unit :=
  match s.round.pqWedged with
  | none => .ok ()
  | some _ => .error .bindTriggerFailed

/-- A failure past the point of no return wedges the side-band. -/
def pastNoReturn (round : PqWedge) (x : SessionOp M Unit) : SessionOp M Unit := do
  let r <- Op.attempt x
  match r with
  | .ok _ => pure ()
  | .error _ => do
      Op.update fun s => s.mapRound fun r => { r with pqWedged := some round }
      Op.fail .bindTriggerFailed

def clearSideBand (s : SessionInner M) : SessionInner M :=
  s.mapRound fun r => { r with pendingSideBand := none }

/-!
## The A.4 ratchet
-/

def ratchetRespondGuard (frame : Frame M) : SessionOp M M.Message := do
  let s <- Op.state
  let leg <- Op.ofExcept (sideBandMessage .ratchetEphemeralKey frame)
  let recv <- Op.ofOption s.recvGroup .sessionNotReady
  (match legCarrier recv leg with
    | some .classical => pure ()
    | some .pq => Op.fail .staleFrame
    | none => Op.fail .mls)
  Op.ensure
    (belowFloor (M.currentEpoch recv.classical) (M.messageEpoch leg) = false)
    .staleFrame
  (match s.round.pqInflight with
    | some (.responding _ _) => Op.fail .duplicateSideBand
    | some _ => Op.fail .sessionNotReady
    | none => pure ())
  Op.ensure (s.msg.pendingProposalHash = none) .sessionNotReady
  pure leg

def ratchetRespondInner (leg : M.Message) (rnd : Nat -> M.Seed) :
    SessionOp M Unit := do
  let ek <- processA4Leg .recvClassical pqEkTag leg
  let recvPq <- readHalf .recvPq .sessionNotReady
  let psk <- Op.ofExcept (ctSealPsk recvPq)
  let (secret, wireCt) <-
    Op.ofExcept (sealInjectedSecret ek psk (fun n => rnd (n + 1)))
  let message <-
    callHalf .sendClassical .sessionNotReady (fun _ => .mls) fun _ =>
      M.encryptApplicationMessage
        (encodeA4LegContent (legTag .ratchetCiphertext) wireCt) [] (rnd 0)
  Op.update fun s => s.mapRound fun r =>
    { r with pqInflight := some (.responding secret (some wireCt)) }
  let body <- Op.ofExcept (orError .mls (Blob.ofMessage message))
  Op.update fun s =>
    s.mapRound (retainUnsealed { kind := .ratchetCiphertext, body := body })

/-- The carrier of an inbound ciphertext: our recv classical half, or the
retired post-quantum wrapping. -/
def ctCarrier (s : SessionInner M) (recv : M.Group) (leg : M.Message) :
    Result LegCarrier :=
  match M.messageGroupId leg with
  | none => .error .mls
  | some id =>
      if id = M.groupId recv then .ok .classical
      else
        match s.half .sendPq with
        | some pq => if id = M.groupId pq then .ok .pq else .error .mls
        | none => .error .mls

def ratchetBindGuard (frame : Frame M) : SessionOp M (M.Message × LegCarrier) := do
  let s <- Op.state
  let leg <- Op.ofExcept (sideBandMessage .ratchetCiphertext frame)
  let recv <- readHalf .recvClassical .sessionNotReady
  let carrier <- Op.ofExcept (ctCarrier s recv leg)
  Op.ensure
    (carrier = .pq ∨
      belowFloor (M.currentEpoch recv) (M.messageEpoch leg) = false)
    .staleFrame
  Op.ensure (s.msg.pendingProposalHash = none) .sessionNotReady
  Op.ensure s.round.owedBind.isNone .sessionNotReady
  Op.ensure (sendPqCommitBlocked s = false) .sessionNotReady
  Op.ofExcept (checkNotWedged s)
  (match s.round.pqInflight with
    | some (.initiating _) => pure ()
    | none =>
        if s.round.pqTurnMine then Op.fail .sessionNotReady
        else Op.fail .duplicateSideBand
    | some _ => Op.fail .sessionNotReady)
  pure (leg, carrier)

/-- Open the ciphertext leg; a leg refused on the post-quantum carrier leaves
no proposal cached behind. -/
def openCiphertextLeg (leg : M.Message) (carrier : LegCarrier) :
    SessionOp M Bytes := do
  match carrier with
  | .classical => processA4Leg .recvClassical pqCtTag leg
  | .pq => do
      let opened <- Op.attempt (processA4Leg .sendPq pqCtTag leg)
      match opened with
      | .ok payload => pure payload
      | .error e => do
          onHalf .sendPq .sessionNotReady fun _ =>
            HalfOp.mapGroup M.clearProposalCache
          Op.fail e

def openRoundSecret (wireCt : Bytes) : SessionOp M Bytes := do
  let sendPq <- readHalf .sendPq .sessionNotReady
  let psk <- Op.ofExcept (ctSealPsk sendPq)
  let s <- Op.state
  match s.round.pqInflight with
  | some (.initiating eph) => Op.ofExcept (openInjectedSecret M eph wireCt psk)
  | _ => Op.fail .sessionNotReady

def ratchetBindInner (leg : M.Message) (carrier : LegCarrier) (seed : M.Seed) :
    SessionOp M Unit := do
  let wireCt <- openCiphertextLeg leg carrier
  let secret <- openRoundSecret wireCt
  rememberSendPsk
  pastNoReturn .ratchet do
    Op.update clearInflight
    commitPqAndOweBind secret seed
    Op.update clearSideBand
  recordPqHeaderKeyPostCommit

/-!
## The A.5 rekey
-/

def rekeyRespondGuard (frame : Frame M) : SessionOp M M.Message := do
  let s <- Op.state
  let proposal <- Op.ofExcept (sideBandMessage .rekeyUpdate frame)
  Op.ensure (declaredContentType proposal = some .proposal) .decryptionFailed
  Op.ensure s.round.pqInflight.isNone .sessionNotReady
  Op.ensure s.round.owedBind.isNone .sessionNotReady
  pure proposal

def crossPskForRekey : SessionOp M (Option ExportedPsk) := do
  let recvPq <- readHalf .recvPq .sessionNotReady
  let s <- Op.state
  if s.round.lastCrossInjectedPq = some (M.currentEpoch recvPq) then
    pure none
  else do
    let exported <- exportCrossFromRecvPq
    Op.update fun s => s.registerPsk exported.storageId exported.psk
    pure (some exported)

def ingestedRekey (received : ReceivedMessage) (myIndex : Nat) :
    Result (Option Bytes) :=
  match received with
  | .proposal desc => do
      requirePeerUpdate desc myIndex
      .ok (if desc.authenticatedData = [] then none
        else some desc.authenticatedData)
  | _ => .error .decryptionFailed

/-- Cache the peer's update, or clear the cache again when it is refused. -/
def ingestRekeyUpdate (proposal : M.Message) : SessionOp M (Option Bytes) := do
  let s <- Op.state
  let sendPq <- readHalf .sendPq .sessionNotReady
  let received <-
    callHalf .sendPq .sessionNotReady mapAppMessageErr fun env =>
      M.processIncomingMessage env proposal
  match ingestedRekey received (M.currentMemberIndex sendPq) with
  | .error e => refuse e
  | .ok rotated =>
      if rotated.all fun id => s.services.auth.theirs.history.contains id then
        pure rotated
      else
        refuse .credentialRejected
where
  refuse (e : TwoMlsPqError) : SessionOp M (Option Bytes) := do
    onHalf .sendPq .sessionNotReady fun _ =>
      HalfOp.mapGroup M.clearProposalCache
    Op.fail e

def rekeyHandoff : SessionOp M (Option (M.Signer × Bytes)) := do
  let s <- Op.state
  let sendPq <- readHalf .sendPq .sessionNotReady
  let leaf <- Op.ofExcept (senderClientId sendPq (M.currentMemberIndex sendPq))
  pure
    (if leaf ≠ s.client.clientId then some (s.client.pqSigner, s.client.clientId)
    else none)

def rekeyRespondInner (proposal : M.Message) (seed : M.Seed) :
    SessionOp M (Option Bytes) := do
  let crossPsk <- crossPskForRekey
  let rotated <- ingestRekeyUpdate proposal
  let handoff <- rekeyHandoff
  let output <-
    callHalf .sendPq .sessionNotReady mapCredentialErr fun env =>
      M.buildCommit env
        { addMember := none
          psks := (crossPsk.map ExportedPsk.storageId).toList
          customProposal := none
          newSigningIdentity := handoff }
        seed
  callHalf .sendPq .sessionNotReady (fun _ => .mls) M.applyPendingCommit
  let sendPq <- readHalf .sendPq .sessionNotReady
  Op.ofExcept (ensureTwoParty sendPq)
  let body <- Op.ofExcept (orError .mls (Blob.ofMessage output.commitMessage))
  Op.update fun s =>
    match crossPsk with
    | some psk => s.forgetPsk psk.storageId
    | none => s
  Op.update retireStalePins
  Op.update fun s => s.mapRound fun r =>
    retainUnsealed { kind := .rekeyCommit, body := body }
      { r with pqInflight := some .rekeyResponded }
  recordPqHeaderKeyPostCommit
  pure rotated

def rekeyApplyGuard (frame : Frame M) : SessionOp M (Blob M) := do
  let s <- Op.state
  let commit <- Op.ofExcept (sideBandBody .rekeyCommit frame)
  Op.ensure (s.msg.pendingProposalHash = none) .sessionNotReady
  Op.ensure s.round.owedBind.isNone .sessionNotReady
  Op.ensure (sendPqCommitBlocked s = false) .sessionNotReady
  Op.ofExcept (checkNotWedged s)
  (match s.round.pqInflight with
    | some .rekeyInitiated => pure ()
    | none =>
        if s.round.pqTurnMine then Op.fail .sessionNotReady
        else Op.fail .duplicateSideBand
    | some _ => Op.fail .sessionNotReady)
  pure commit

/-- Register our own send-half PSK for a Commit' that binds it, unless this
epoch's leaf is spent. -/
def preRegisterSendPq : SessionOp M (Option PskId) := do
  let sendPq <- readHalf .sendPq .sessionNotReady
  let s <- Op.state
  if s.round.lastSendPqExported ≠ some (M.currentEpoch sendPq) then do
    let exported <- exportCrossFromSendPq
    Op.update fun s => s.registerPsk exported.storageId exported.psk
    pure (some exported.storageId)
  else
    pure none

def applyRekeyCommit (commit : M.Message) : SessionOp M Unit := do
  let received <-
    callHalf .recvPq .sessionNotReady mapCredentialErr fun env =>
      M.processIncomingMessage env commit
  (match received with
    | .commit effect => do
        let attestation <- Op.ofExcept (commitAttestation effect)
        Op.ensure attestation.isNone .apqInfoMismatch
    | _ => Op.fail .mls)
  let recvPq <- readHalf .recvPq .sessionNotReady
  Op.ofExcept (ensureTwoParty recvPq)

def rekeyApplyInner (commit : Blob M) (seed : M.Seed) : SessionOp M Unit := do
  let message <- Op.ofOption commit.parsed .mls
  let preRegistered <- preRegisterSendPq
  applyRekeyCommit message
  pastNoReturn .rekey do
    Op.update clearInflight
    Op.update fun s =>
      match preRegistered with
      | some id => s.forgetPsk id
      | none => s
    let exported <- exportCrossFromRecvPq
    commitPqAndOweBind exported.psk seed
    Op.update retireStalePins
    Op.update clearSideBand
  recordPqHeaderKeyPostCommit

/-!
## The A.3 bootstrap
-/

def registerBootstrapRound (kp : Blob M) (sealed : Bool) : SessionOp M Unit := do
  let founding <- Op.ofExcept (keyPackageClientId kp)
  let frame : SideBand M := { kind := .bootstrapKeyPackage, body := kp }
  Op.update fun s =>
    (s.withAuth fun core => { core with mine := core.mine.pin founding }).mapRound
      fun r =>
        { r with
          bootstrapKp := none
          pendingSideBand := some
            { frame := frame
              sealedAt := if sealed then sideBandSealEpoch s frame else none }
          pqInflight := some .bootstrapInitiated }

def bootstrapBeginGuard (rotating : Option Bytes) :
    SessionOp M (Option (SideBand M)) := do
  let s <- Op.state
  Op.ensure s.round.pqTurnMine .sessionNotReady
  Op.ensure (rotating = none ∨ rotating = some s.client.clientId) .sessionNotReady
  Op.ensure
    (s.sendGroup.isSome ∧ s.recvGroup.isSome ∧ (s.half .recvPq).isNone)
    .sessionNotReady
  if s.round.pqInflight = some .bootstrapInitiated then do
    let retained <- Op.ofOption s.round.pendingSideBand .sessionNotReady
    sealSideBand retained.frame
    pure (some retained.frame)
  else do
    Op.ensure s.round.bootstrapKp.isSome .sessionNotReady
    pure none

def bootstrapBeginInner : SessionOp M (SideBand M) := do
  let s <- Op.state
  let kp <- Op.ofOption s.round.bootstrapKp .sessionNotReady
  let frame : SideBand M := { kind := .bootstrapKeyPackage, body := kp }
  sealSideBand frame
  registerBootstrapRound kp true
  pure frame

def bootstrapEnvelopeGuard (seed : M.Seed) : SessionOp M (Option (SideBand M)) := do
  let s <- Op.state
  let theirKp <- Op.ofOption s.establishment.initialTheirKp .sessionNotReady
  match s.round.pqInflight with
  | some .bootstrapInitiated => do
      let retained <- Op.ofOption s.round.pendingSideBand .sessionNotReady
      Op.ofExcept (orError .mls (M.hpkeSeal theirKp.pq.bytes seed))
      pure (some retained.frame)
  | none => do
      Op.ensure s.round.bootstrapKp.isSome .sessionNotReady
      pure none
  | some _ => Op.fail .sessionNotReady

def bootstrapEnvelopeInner (seed : M.Seed) : SessionOp M (SideBand M) := do
  let s <- Op.state
  let theirKp <- Op.ofOption s.establishment.initialTheirKp .sessionNotReady
  let frame <-
    (match s.round.pendingSideBand with
      | some retained => pure retained.frame
      | none => do
          let kp <- Op.ofOption s.round.bootstrapKp .sessionNotReady
          pure { kind := .bootstrapKeyPackage, body := kp })
  Op.ofExcept (orError .mls (M.hpkeSeal theirKp.pq.bytes seed))
  (if s.round.pqInflight.isNone then registerBootstrapRound frame.body false
    else pure ())
  pure frame

def checkKeyPackageSuite (kp : Blob M) (expected : Nat) : Result Unit := do
  let parsed <- parseMlsKeyPackage kp
  if parsed.cipherSuite = expected then .ok () else .error .cipherSuiteMismatch

def bootstrapRespondGuard (frame : Frame M) : SessionOp M (Blob M) := do
  let s <- Op.state
  let kp <- Op.ofExcept (sideBandBody .bootstrapKeyPackage frame)
  Op.ofExcept (checkKeyPackageSuite kp s.suite.pq)
  let expected <-
    Op.ofOption s.round.expectedBootstrapKpCommitment .sessionNotReady
  Op.ensure (kp.sha256 = expected) .bootstrapKpMismatch
  Op.ensure (s.half .sendPq).isNone .duplicateSideBand
  pure kp

def createDeferredPqHalf (kp : Blob M) (rnd : Nat -> M.Seed) :
    SessionOp M (Blob M) := do
  let s <- Op.state
  let client := s.client
  let send <- Op.ofOption s.sendGroup .sessionNotReady
  Op.ensure send.pq.isNone .sessionNotReady
  let classicalInfo <- Op.ofExcept (readApqInfo send.classical)
  let pqGid := classicalInfo.pqSessionGroupId
  let info :=
    ApqInfo.new s.suite classicalInfo.tSessionGroupId pqGid epochUnbound 1
  let (pqGroup, pqWelcome) <-
    Op.ofExcept
      (createGroupWithMember (s.services.env client.pqPsks) client.pq s.suite.pq
        kp [] (GroupCreation.new pqGid info none) rnd)
  Op.update fun s =>
    { s with sendGroup := s.sendGroup.map fun cg => cg.setPq pqGroup client }
  pure pqWelcome

def bootstrapRespondInner (kp : Blob M) (rnd : Nat -> M.Seed) :
    SessionOp M Unit := do
  Op.update fun s => trackPskStores s.client s
  let founding <- Op.ofExcept (keyPackageClientId kp)
  Op.update fun s => s.withAuth fun core =>
    { core with theirs := core.theirs.pin founding }
  let welcome <- createDeferredPqHalf kp rnd
  Op.update fun s => s.mapRound fun r =>
    retainUnsealed { kind := .bootstrapWelcome, body := welcome }
      { r with pqInflight := some .bootstrapResponded }
  recordPqHeaderKeyPostCommit

def bootstrapBindGuard (frame : Frame M) : SessionOp M (Blob M) := do
  let s <- Op.state
  let welcome <- Op.ofExcept (sideBandBody .bootstrapWelcome frame)
  Op.ofExcept (checkWelcomeSuite welcome s.suite.pq)
  Op.ofExcept (checkNotWedged s)
  Op.ensure (s.half .recvPq).isNone .duplicateSideBand
  Op.ensure (s.round.pqInflight = some .bootstrapInitiated) .sessionNotReady
  Op.ensure s.recvGroup.isSome .sessionNotReady
  Op.ensure (s.msg.pendingProposalHash = none) .sessionNotReady
  Op.ensure s.round.owedBind.isNone .sessionNotReady
  Op.ensure (sendPqCommitBlocked s = false) .sessionNotReady
  pure welcome

/-- Join the peer's deferred half with the pre-committed key package, injected
into the current client's store for this one join. -/
def joinDeferredPqHalf (welcome : Blob M) : SessionOp M M.Group := do
  let s <- Op.state
  let client := s.client
  let recv <- Op.ofOption s.recvGroup .sessionNotReady
  Op.ensure recv.pq.isNone .sessionNotReady
  let pq <-
    Op.ofExcept
      (joinGroupFromWelcome (s.services.env client.pqPsks) client.pq
        (s.round.bootstrapKpSecret.toList ++ client.pqKpStore) welcome)
  let classicalInfo <- Op.ofExcept (readApqInfo recv.classical)
  Op.ofExcept (verifyDeferredPqInfo pq classicalInfo s.suite)
  Op.ofExcept (verifyPqHalfUnbound pq)
  pure pq

def installRecvPq (pq : M.Group) (s : SessionInner M) : SessionInner M :=
  { (s.mapRound fun r => { r with bootstrapKpSecret := none }) with
    recvGroup := s.recvGroup.map fun cg => cg.setPq pq s.client }

def bootstrapBindInner (welcome : Blob M) (seed : M.Seed) : SessionOp M Unit := do
  Op.update fun s => trackPskStores s.client s
  let pq <- joinDeferredPqHalf welcome
  pastNoReturn .bootstrap do
    Op.update (installRecvPq pq)
    let exported <- exportCrossFromRecvPq
    commitPqAndOweBind exported.psk seed
    Op.update fun s => clearSideBand (clearInflight s)
  recordPqHeaderKeyPostCommit

end

end Session
end TwoMlsPq
