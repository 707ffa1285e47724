import TwoMlsPq.Session.Ledgers

/-!
# Sending

The send path: validating a peer proposal, admitting a rotation candidate, the
two reasons to commit, the commit that discharges an owed bind, the proposal
of our own update, and the frame that carries them.
-/

namespace TwoMlsPq
namespace Session

open Foundation Apq

section

variable {M : MlsRs}

/-!
## Sealing

The header seal is removed by the receiver before anything else looks at a
frame, so only its failures are modelled: the group it exports from may be
absent, and the export may fail.
-/

def sealFrame : SessionOp M Unit := do
  let g <- readHalf .recvClassical .sessionNotEstablished
  let _ <- Op.ofExcept (headerKey g)
  pure ()

def SideBand.isRatchetLeg (frame : SideBand M) : Bool :=
  frame.kind == .ratchetEphemeralKey || frame.kind == .ratchetCiphertext

def a4LegIsClassical (s : SessionInner M) (frame : SideBand M) : Bool :=
  match s.half .sendClassical, frame.body.parsed.bind M.messageGroupId with
  | some g, some id => id == M.groupId g
  | _, _ => false

def sealSideBand (frame : SideBand M) : SessionOp M Unit := do
  let s <- Op.state
  let _ <- readHalf .recvClassical .sessionNotEstablished
  if frame.isRatchetLeg && a4LegIsClassical s frame then
    sealFrame
  else
    match s.half .recvPq with
    | some pq => do
        let _ <- Op.ofExcept (headerKeyPq pq)
        pure ()
    | none => sealFrame

def sideBandSealEpoch (s : SessionInner M) (frame : SideBand M) : Option Nat :=
  if frame.isRatchetLeg && a4LegIsClassical s frame then
    s.epoch .recvClassical
  else
    match s.recvGroup, s.epoch .recvPq with
    | none, _ => none
    | some _, some pqEpoch => some pqEpoch
    | some _, none => s.epoch .recvClassical

/-!
## The peer's offered update
-/

def requirePeerUpdate (desc : ProposalMessageDescription) (myIndex : Nat) :
    Result Unit :=
  match desc.proposal, desc.sender with
  | .update _, .member index =>
      if index ≠ myIndex then .ok () else .error .proposalRejected
  | _, _ => .error .proposalRejected

def requireDeclaredCredential (desc : ProposalMessageDescription)
    (proposing : Bytes) : Result Unit :=
  match desc.proposal with
  | .update (.basic leafId) =>
      if leafId = proposing then .ok () else .error .proposalRejected
  | _ => .error .proposalRejected

def validateOfferedUpdate (proposal : Blob M) (proposing : Bytes) :
    SessionOp M Unit := do
  let message <- Op.ofOption proposal.parsed .mls
  let send <- readHalf .sendClassical .sessionNotReady
  let processed <-
    Op.attempt
      (callHalf .sendClassical .sessionNotReady mapCredentialErr fun env =>
        M.processIncomingMessage env message)
  onHalf .sendClassical .sessionNotReady fun _ =>
    HalfOp.mapGroup M.clearProposalCache
  let received <- Op.ofExcept processed
  match received with
  | .proposal desc => do
      Op.ofExcept (requirePeerUpdate desc (M.currentMemberIndex send))
      Op.ofExcept (requireDeclaredCredential desc proposing)
  | _ => Op.fail .mls

def peerAppliedOurSendEpoch : SessionOp M Bool := do
  let g <- readHalf .sendClassical .sessionNotReady
  let s <- Op.state
  pure
    (match s.msg.peerAppliedSendEpoch with
      | some applied => decide (M.currentEpoch g <= applied)
      | none => false)

/-!
## Rotation candidates
-/

def stageOrDefer (newClientId : Bytes) (rnd : Nat -> M.Seed) :
    SessionOp M Unit := do
  let s <- Op.state
  if s.rotation.stagedCandidates.length < candidateWindow then do
    let candidate <-
      Op.ofExcept (TwoMlsPqPrincipal.new s.nextHandle newClientId rnd)
    Op.update fun s =>
      { (s.withAuth fun core =>
          { core with mine := core.mine.authorize newClientId }).mapRotation
            fun r =>
              { r with stagedCandidates := r.stagedCandidates ++ [candidate] }
        with nextHandle := s.nextHandle + 1 }
  else
    Op.update fun s => s.mapRotation fun r =>
      { r with deferredCandidate := some newClientId }

def admitCandidate (newClientId : Bytes) (rnd : Nat -> M.Seed) :
    SessionOp M Unit := do
  Op.ensure (newClientId ≠ []) .invalidClientId
  let s <- Op.state
  if s.rotation.stagedCandidates.any (fun c => c.clientId == newClientId) ||
      s.rotation.deferredCandidate == some newClientId then
    pure ()
  else do
    stageOrDefer newClientId rnd
    Op.update fun s => s.mapRotation fun r =>
      { r with myState := .pending r.myState.clientId newClientId }

/-!
## Owed binds
-/

/-- Commit the round's secret into the send half's post-quantum group and
reserve the classical epoch that will bind it. -/
def commitPqAndOweBind (secret : Bytes) (seed : M.Seed) : SessionOp M Unit := do
  let s <- Op.state
  let send <- readHalf .sendClassical .sessionNotReady
  let sendPq <- readHalf .sendPq .sessionNotReady
  let attestation : ApqInfoUpdate :=
    { tEpoch := M.currentEpoch send + 1
      pqEpoch := M.currentEpoch sendPq + 1 }
  let pqCommit <-
    onHalf .sendPq .sessionNotReady fun store =>
      injectAndCommit store s.ledger.pskStores secret attestation seed
  Op.update fun s => s.mapRound fun r =>
    { r with
      owedBind := some
        { pqCommit := pqCommit
          tEpoch := attestation.tEpoch
          pqEpoch := attestation.pqEpoch } }

structure DischargedBind (M : MlsRs) where
  pqCommit : Blob M
  apqPsk : ExportedPsk
  attestation : ApqInfoUpdate

def dischargeOwedBind : SessionOp M (Option (DischargedBind M)) := do
  let s <- Op.state
  match s.round.owedBind with
  | none => pure none
  | some owed => do
      Op.update fun s => s.mapRound fun r => { r with owedBind := none }
      let send <- readHalf .sendClassical .sessionNotReady
      let sendPq <- readHalf .sendPq .sessionNotReady
      Op.ensure (M.currentEpoch send + 1 = owed.tEpoch) .epochDesync
      Op.ensure (M.currentEpoch sendPq = owed.pqEpoch) .epochDesync
      let apqPsk <-
        onHalf .sendPq .sessionNotReady fun _ =>
          exportApqPsk s.ledger.pskStores
      Op.update fun s => s.mapRound fun r => { r with pqTurnMine := false }
      pure (some
        { pqCommit := owed.pqCommit
          apqPsk := apqPsk
          attestation := { tEpoch := owed.tEpoch, pqEpoch := owed.pqEpoch } })

/-!
## The commit

`commitRound` is the committing half of `prepare_ratchet_commit`: it captures
the departing epoch, exports the cross-party PSK when the peer's group has
moved, re-applies the approved proposal, and runs `discharge_and_commit`.
-/

/-- The cross-party PSK of the current recv epoch, unless this epoch's leaf was
spent before. -/
def crossPskForCommit : SessionOp M (Option ExportedPsk) := do
  let recv <- readHalf .recvClassical .sessionNotReady
  let recvEpoch := M.currentEpoch recv
  let s <- Op.state
  if s.ledger.lastCrossInjected = some recvEpoch then
    pure none
  else do
    let exported <-
      onHalf .recvClassical .sessionNotReady fun _ =>
        HalfOp.ofGroup (exportPsk .crossParty)
    let s <- Op.state
    let send <- Op.ofOption s.sendGroup .sessionNotReady
    Op.update fun s =>
      (s.registerStores send.stores exported.storageId exported.psk).mapLedger
        fun l => { l with lastCrossInjected := some recvEpoch }
    pure (some exported)

/-- The own-leaf handoff a commit carries while our leaf lags the session's
identity. -/
def handoffForCommit : SessionOp M (Option (M.Signer × Bytes)) := do
  let s <- Op.state
  let send <- readHalf .sendClassical .sessionNotReady
  let leafId <- Op.ofExcept (senderClientId send (M.currentMemberIndex send))
  pure
    (if leafId ≠ s.client.clientId then
      some (s.client.classicalSigner, s.client.clientId)
    else none)

def refold (folded : Option (PeerProposal M)) : SessionOp M Unit :=
  match folded with
  | none => pure ()
  | some approved => do
      let message <- Op.ofOption approved.proposal.parsed .mls
      let _ <-
        callHalf .sendClassical .sessionNotReady mapCredentialErr fun env =>
          M.processIncomingMessage env message
      pure ()

def commitRequest (crossPsk : Option ExportedPsk)
    (owed : Option (DischargedBind M)) (handoff : Option (M.Signer × Bytes)) :
    CommitRequest M.Message M.Signer :=
  { addMember := none
    psks :=
      (crossPsk.map ExportedPsk.storageId).toList ++
        (owed.map fun o => o.apqPsk.storageId).toList
    customProposal := owed.map DischargedBind.attestation
    newSigningIdentity := handoff }

def forgetConsumed (crossPsk : Option ExportedPsk)
    (owed : Option (DischargedBind M)) (s : SessionInner M) : SessionInner M :=
  let sendStores := (s.sendGroup.map CombinerGroup.stores).getD []
  let s :=
    match crossPsk with
    | some psk => s.forgetStores sendStores psk.storageId
    | none => s
  match owed with
  | some o =>
      (s.forgetStores sendStores o.apqPsk.storageId).forgetPsk o.apqPsk.storageId
  | none => s

def canonicalizeFold (folded : Option (PeerProposal M)) (s : SessionInner M) :
    SessionInner M :=
  match folded with
  | some approved =>
      if approved.proposing ≠ s.rotation.theirState.clientId then
        (s.commitTheirs approved.proposing).mapRotation fun r =>
          { r with theirState := .sync approved.proposing }
      else s
  | none => s

def stapleOf (clCommit : Blob M) (owed : Option (DischargedBind M)) : Staple M :=
  match owed with
  | some o => .bind clCommit o.pqCommit
  | none => .commit clCommit

def dischargeAndCommit (folded : Option (PeerProposal M))
    (crossPsk : Option ExportedPsk) (handoff : Option (M.Signer × Bytes))
    (seed : M.Seed) : SessionOp M Unit := do
  let owed <- dischargeOwedBind
  let output <-
    callHalf .sendClassical .sessionNotReady mapCredentialErr fun env =>
      M.buildCommit env (commitRequest crossPsk owed handoff) seed
  callHalf .sendClassical .sessionNotReady (fun _ => .mls) M.applyPendingCommit
  let send <- readHalf .sendClassical .sessionNotReady
  Op.ofExcept (ensureTwoParty send)
  Op.update (forgetConsumed crossPsk owed)
  Op.update (canonicalizeFold folded)
  rememberSendPsk
  let clCommit <-
    Op.ofExcept (orError .mls (Blob.ofMessage output.commitMessage))
  Op.update fun s => s.mapMsg fun m =>
    { m with
      currentStaple := some (stapleOf clCommit owed)
      currentStapleSeq := s.stateSeq
      offeredProposal := none }

/-- A failure of the discharge wears a fatal name when a bind was owed. -/
def dischargeErr (discharging : Bool) (e : TwoMlsPqError) : TwoMlsPqError :=
  if discharging then .bindDischargeFailed else e

def commitRound (folded : Option (PeerProposal M)) (seed : M.Seed) :
    SessionOp M Unit := do
  rememberSendPsk
  let crossPsk <- crossPskForCommit
  let handoff <- handoffForCommit
  refold folded
  let s <- Op.state
  Op.mapError (dischargeErr s.round.owedBind.isSome)
    (dischargeAndCommit folded crossPsk handoff seed)

/-!
## The self-update proposal
-/

def selectCandidate (selected : Option Bytes) (rnd : Nat -> M.Seed) :
    SessionOp M (Option Bytes) := do
  let s <- Op.state
  match selected with
  | some id => do
      admitCandidate id rnd
      pure (some id)
  | none =>
      if s.rotation.stagedCandidates.length < candidateWindow then
        match s.rotation.deferredCandidate with
        | some id => do
            Op.update fun s => s.mapRotation fun r =>
              { r with deferredCandidate := none }
            admitCandidate id rnd
            pure (some id)
        | none => pure none
      else
        pure none

def proposingClient (selected : Option Bytes) :
    SessionOp M (Option (TwoMlsPqPrincipal M)) := do
  let s <- Op.state
  match selected with
  | some id => do
      let candidate <-
        Op.ofOption
          (s.rotation.stagedCandidates.find? fun c => c.clientId == id)
          .sessionNotReady
      pure (some candidate)
  | none => pure none

/-- The identity the proposal introduces: the candidate's, or the session's own
while the recv-group leaf lags it. -/
def identitySource (s : SessionInner M)
    (candidate : Option (TwoMlsPqPrincipal M)) (leafId : Bytes) :
    Option (TwoMlsPqPrincipal M) :=
  match candidate with
  | some c => some c
  | none => if leafId ≠ s.client.clientId then some s.client else none

/-- `propose_update_with_identity` may be refused by the Authentication Service;
a plain `propose_update` cannot. -/
def proposeErr (source : Option (TwoMlsPqPrincipal M)) (e : MlsError) :
    TwoMlsPqError :=
  if source.isSome then mapCredentialErr e else .mls

def proposeSelfUpdate (candidate : Option (TwoMlsPqPrincipal M))
    (seed : M.Seed) : SessionOp M (Blob M) := do
  let recv <- readHalf .recvClassical .sessionNotReady
  let leafId <- Op.ofExcept (senderClientId recv (M.currentMemberIndex recv))
  let s <- Op.state
  let source := identitySource s candidate leafId
  let proposal <-
    callHalf .recvClassical .sessionNotReady (proposeErr source) fun env =>
      M.proposeUpdate env
        (source.map fun c => (c.classicalSigner, c.clientId)) [] seed
  Op.ofExcept (orError .mls (Blob.ofMessage proposal))

structure PrepareEncryptResult (M : MlsRs) where
  proposalMessage : Option (Blob M)
  proposalHash : Bytes
  committedRemoteClientId : Option Bytes
  didCommit : Bool

def stageSelfUpdate (selected : Option Bytes) (rnd : Nat -> M.Seed) :
    SessionOp M (Blob M) := do
  let selected <- selectCandidate selected (fun n => rnd (n + 2))
  let candidate <- proposingClient selected
  let proposal <- proposeSelfUpdate candidate (rnd 1)
  Op.update fun s => s.mapMsg fun m =>
    { m with
      pendingProposalMessage :=
        some ((candidate.map TwoMlsPqPrincipal.clientId).getD s.client.clientId,
          proposal)
      pendingProposalHash := some proposal.sha256 }
  pure proposal

def prepareRatchetCommit (selected : Option Bytes) (rnd : Nat -> M.Seed) :
    SessionOp M (PrepareEncryptResult M) := do
  let s <- Op.state
  let folded := s.msg.queuedProposal
  Op.update fun s => s.mapMsg fun m => { m with queuedProposal := none }
  let licensed <- peerAppliedOurSendEpoch
  let didCommit := folded.isSome || (s.round.owedBind.isSome && licensed)
  (if didCommit then commitRound folded (rnd 0) else pure ())
  let proposal <- stageSelfUpdate selected rnd
  let s <- Op.state
  pure
    { proposalMessage := some proposal
      proposalHash := proposal.sha256
      committedRemoteClientId :=
        folded.map fun _ => s.rotation.theirState.clientId
      didCommit := didCommit }

end

end Session
end TwoMlsPq
