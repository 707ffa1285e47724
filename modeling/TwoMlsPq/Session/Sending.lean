import TwoMlsPq.Session.Rounds

/-!
# The send doors

`prepare_to_encrypt` decides whether the next frame commits and stages its
self-update; `encrypt` composes the frame, re-mints a parked leg and may open
the next round; `queue_proposal` records the host's approval of an offer.
Each is the body that runs under the session's persistence wrapper.
-/

namespace TwoMlsPq
namespace Session

open Foundation Apq

section

variable {M : MlsRs}

/-!
## Before establishment
-/

def WelcomeBytes.ofWelcome (w : ApqWelcome M) : WelcomeBytes M :=
  { bytes := w.encode, decoded := some w }

def stapledWelcome (s : SessionInner M) : Option (WelcomeBytes M) :=
  match s.msg.currentStaple with
  | some (.welcome w) => some w
  | _ => none

def composeInitialEnvelope (stapled : Option (Blob M)) (seed : M.Seed) :
    SessionOp M (InitialEnvelope M) := do
  let s <- Op.state
  let theirKp <- Op.ofOption s.establishment.initialTheirKp .sessionNotReady
  let welcome <- Op.ofOption (stapledWelcome s) .sessionNotReady
  Op.ofExcept (orError .mls (M.hpkeSeal theirKp.pq.bytes seed))
  match s.establishment.initialAppPayload with
  | some payload =>
      pure
        { appPayload := some payload
          welcome := none
          returnKeyPackage := none
          stapled := stapled }
  | none =>
      pure
        { appPayload := none
          welcome := some welcome
          returnKeyPackage := s.establishment.initialReturnKp
          stapled := stapled }

def ensureEstablishmentDelegated : SessionOp M Unit := do
  let s <- Op.state
  Op.ensure
    (s.establishment.requiresEstablishmentEnvelope = false ∨
      s.establishment.establishmentEnvelope.isSome)
    .establishmentEnvelopeRequired

def preparePreEstablishment (selected : Option Bytes) :
    SessionOp M (PrepareEncryptResult M) := do
  Op.ensure (selected = none) .sessionNotReady
  let s <- Op.state
  Op.ensure s.establishment.initialTheirKp.isSome .sessionNotReady
  let welcome <- Op.ofOption (stapledWelcome s) .sessionNotReady
  let proposalHash := M.sha256 welcome.bytes
  Op.update fun s => s.mapMsg fun m =>
    { m with
      pendingProposalHash := some proposalHash
      pendingProposalMessage := none }
  pure
    { proposalMessage := none
      proposalHash := proposalHash
      committedRemoteClientId := none
      didCommit := false }

/-!
## Preparing and encrypting
-/

def prepareToEncryptInner (proposing : Option Bytes) (rnd : Nat -> M.Seed) :
    SessionOp M (PrepareEncryptResult M) := do
  ensureEstablishmentDelegated
  let s <- Op.state
  let result <-
    (if s.recvGroup.isNone then preparePreEstablishment proposing
    else prepareRatchetCommit proposing rnd)
  recordListenRendezvous
  rewrapSideBand (rnd 4)
  pure result

inductive Outgoing (M : MlsRs) where
  | frame (frame : Frame M)
  | envelope (envelope : InitialEnvelope M)

structure ApqEpochs where
  pqEpoch : Nat
  classicalEpoch : Nat
deriving DecidableEq, Repr

def apqEpochs (cg : CombinerGroup M) : ApqEpochs :=
  { pqEpoch := (cg.pq.map M.currentEpoch).getD 0
    classicalEpoch := M.currentEpoch cg.classical }

structure EncryptResult (M : MlsRs) where
  cipherText : Outgoing M
  sender : Bytes
  recipient : Bytes
  epochs : ApqEpochs
  dependsOnSeq : Nat
  stagedPqRound : Bool

def composeFrame (staged : Option (Bytes × Blob M)) (app : Blob M)
    (seed : M.Seed) : SessionOp M (Outgoing M) := do
  match staged with
  | some (proposing, proposal) => do
      let s <- Op.state
      let staple <- Op.ofOption s.msg.currentStaple .sessionNotReady
      sealFrame
      pure (.frame (.message staple (some (proposing, proposal)) app))
  | none => do
      let envelope <- composeInitialEnvelope (some app) seed
      pure (.envelope envelope)

def encryptInner (appMessage : Bytes) (rnd : Nat -> M.Seed) :
    SessionOp M (EncryptResult M) := do
  ensureEstablishmentDelegated
  let s <- Op.state
  let proposalHash <- Op.ofOption s.msg.pendingProposalHash .sessionNotReady
  let staged := s.msg.pendingProposalMessage
  Op.update fun s => s.mapMsg fun m =>
    { m with pendingProposalHash := none, pendingProposalMessage := none }
  Op.ensure (staged.isSome ∨ s.recvGroup.isNone) .sessionNotReady
  let message <-
    callHalf .sendClassical .sessionNotReady (fun _ => .mls) fun _ =>
      M.encryptApplicationMessage appMessage proposalHash (rnd 0)
  let app <- Op.ofExcept (orError .mls (Blob.ofMessage message))
  let s <- Op.state
  let send <- Op.ofOption s.sendGroup .sessionNotReady
  let cipherText <- composeFrame staged app (rnd 1)
  rewrapSideBand (rnd 2)
  let stagedPqRound <- maybeStageNextRound (fun n => rnd (n + 3))
  pure
    { cipherText := cipherText
      sender := s.rotation.myState.clientId
      recipient := s.rotation.theirState.clientId
      epochs := apqEpochs send
      dependsOnSeq := s.msg.currentStapleSeq
      stagedPqRound := stagedPqRound }

/-!
## Approving an offer
-/

def queueProposalInner (digest : Bytes) : SessionOp M Unit := do
  let s <- Op.state
  let offered <- Op.ofOption s.msg.offeredProposal .proposalRejected
  Op.update fun s => s.mapMsg fun m => { m with offeredProposal := none }
  if offered.digest ≠ digest then do
    Op.update fun s => s.mapMsg fun m => { m with offeredProposal := some offered }
    Op.fail .proposalRejected
  else do
    let validated <-
      Op.attempt (validateOfferedUpdate offered.proposal offered.proposing)
    match validated with
    | .ok _ =>
        Op.update fun s =>
          (s.withAuth fun core =>
            { core with theirs := core.theirs.authorize offered.proposing }).mapMsg
              fun m => { m with queuedProposal := some offered }
    | .error e => do
        Op.update fun s => s.mapMsg fun m =>
          { m with offeredProposal := some offered }
        Op.fail e

end

end Session
end TwoMlsPq
