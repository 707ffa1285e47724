import TwoMlsPq.Session.Archive

/-!
# The session's public operations

A session pushes its new state to the installed sink after every
state-advancing call.  `mutate_and_persist` pushes also when the call fails,
because the partial mutation is real; `process_incoming` pushes only when the
frame was accepted, and picks the kind from what the frame moved.
-/

namespace TwoMlsPq
namespace Session

open Foundation Apq

structure Push (M : MlsRs) where
  seq : Nat
  kind : BlobKind
  archive : Archive M

/-- A session and the blobs its sink has received, oldest first. -/
structure TwoMlsPqSession (M : MlsRs) where
  inner : SessionInner M
  sinkInstalled : Bool
  pushed : List (Push M)

abbrev ApiOp (M : MlsRs) : Type -> Type :=
  Op (TwoMlsPqSession M) TwoMlsPqError

/-- `u64::MAX`, where the mutation counter stops. -/
def maxSeq : Nat :=
  2 ^ 64 - 1

section

variable {M : MlsRs} {α : Type}

def locked (x : SessionOp M α) : ApiOp M α :=
  Op.ofResult fun t =>
    ((x.run t.inner).1, { t with inner := (x.run t.inner).2 })

def push (kind : BlobKind) (archive : Archive M) (t : TwoMlsPqSession M) :
    TwoMlsPqSession M :=
  { t with
    pushed := t.pushed ++
      [{ seq := t.inner.stateSeq, kind := kind, archive := archive }] }

def bumpSeq : ApiOp M Bool := do
  let t <- Op.state
  if t.inner.stateSeq < maxSeq then do
    Op.update fun t =>
      { t with inner := { t.inner with stateSeq := t.inner.stateSeq + 1 } }
    pure true
  else
    pure false

/-- Encode and push when a sink is installed; the result is the encoding's. -/
def encodeAndPush (kind : BlobKind) : ApiOp M Unit := do
  let t <- Op.state
  if t.sinkInstalled then do
    let archive <- locked (encodeBlob kind)
    Op.update (push kind archive)
  else
    pure ()

/-- Push after `x`, also when `x` failed; an encoding failure surfaces only
where `x` itself succeeded. -/
def mutateAndPersist (kind : BlobKind) (x : SessionOp M α) : ApiOp M α := do
  let bumped <- bumpSeq
  if bumped then do
    let result <- Op.attempt (locked x)
    let encoded <- Op.attempt (encodeAndPush kind)
    match result, encoded with
    | .error e, _ => Op.fail e
    | .ok a, .ok _ => pure a
    | .ok _, .error e => Op.fail e
  else
    locked x

def persistAfter (kind : BlobKind) : ApiOp M Unit := do
  let bumped <- bumpSeq
  if bumped then do
    let _ <- Op.attempt (encodeAndPush kind)
    pure ()
  else
    pure ()

/-- The hand-outs push with whatever counter they reach. -/
def persistHandOut : ApiOp M Unit := do
  let _ <- bumpSeq
  let _ <- Op.attempt (encodeAndPush .core)
  pure ()

/-!
## Establishment
-/

def installSink : ApiOp M Unit := do
  let t <- Op.state
  Op.ensure (t.sinkInstalled = false) .sinkAlreadyInstalled
  Op.update fun t => { t with sinkInstalled := true }
  encodeAndPush .checkpoint

def pendingOutbound : ApiOp M (Option (Outbound M)) := do
  let delegated <- Op.attempt (locked ensureEstablishmentDelegated)
  let t <- Op.state
  match delegated, t.inner.msg.pendingOutbound with
  | .ok _, some frame => do
      Op.update fun t =>
        { t with inner := t.inner.mapMsg fun m =>
          { m with pendingOutbound := none } }
      let out <-
        (if t.inner.recvGroup.isSome then do
          let sealed <- Op.attempt (locked sealFrame)
          pure (if sealed.isOk then some frame else none)
        else pure (some frame))
      persistHandOut
      pure out
  | _, _ => pure none

def installEnvelopeInner (envelope : Bytes) : SessionOp M Unit := do
  let s <- Op.state
  Op.ensure s.establishment.requiresEstablishmentEnvelope .sessionNotReady
  match s.establishment.establishmentEnvelope with
  | some existing =>
      Op.ensure (existing = envelope) .establishmentEnvelopeConflict
  | none => do
      let welcome <- Op.ofOption (stapledWelcome s) .sessionNotReady
      let framed : Staple M := .handoff envelope welcome
      Op.update fun s =>
        (s.mapMsg fun m =>
          { m with
            currentStaple := some framed
            pendingOutbound := m.pendingOutbound.map fun _ => .staple framed
            currentStapleSeq := s.stateSeq }).mapEstablishment fun e =>
              { e with establishmentEnvelope := some envelope }

def installEstablishmentEnvelope (envelope : Bytes) : ApiOp M Unit := do
  Op.ensure (envelope ≠ []) .establishmentEnvelopeRequired
  let t <- Op.state
  match t.inner.establishment.establishmentEnvelope with
  | some existing =>
      Op.ensure (existing = envelope) .establishmentEnvelopeConflict
  | none => mutateAndPersist .core (installEnvelopeInner envelope)

def setInitialField (apply : EstablishmentState M -> EstablishmentState M)
    (seed : M.Seed) : ApiOp M Unit :=
  mutateAndPersist .core do
    let s <- Op.state
    Op.ensure (s.recvGroup.isNone ∧ s.establishment.initialTheirKp.isSome)
      .sessionNotReady
    Op.update fun s => s.mapEstablishment apply
    let envelope <- composeInitialEnvelope none seed
    Op.update fun s => s.mapMsg fun m =>
      { m with
        pendingOutbound := some (.envelope envelope)
        currentStapleSeq := s.stateSeq }

def setInitialAppPayload (payload : Bytes) (seed : M.Seed) : ApiOp M Unit :=
  setInitialField (fun e => { e with initialAppPayload := some payload }) seed

def setInitialReturnKeyPackage (kp : Blob M) (seed : M.Seed) : ApiOp M Unit :=
  setInitialField (fun e => { e with initialReturnKp := some kp }) seed

/-!
## Messaging
-/

def prepareToEncrypt (proposing : Option Bytes) (rnd : Nat -> M.Seed) :
    ApiOp M (PrepareEncryptResult M) :=
  mutateAndPersist .core (prepareToEncryptInner proposing rnd)

/-- A staged A.5 leaves state in a post-quantum group that the Core omits, so
its Core is followed by a Checkpoint. -/
def encrypt (appMessage : Bytes) (rnd : Nat -> M.Seed) :
    ApiOp M (EncryptResult M) := do
  let result <- mutateAndPersist .core (encryptInner appMessage rnd)
  (if result.stagedPqRound then persistAfter .checkpoint else pure ())
  pure result

def processIncomingWith (frame : Frame M)
    (approval : Option EstablishmentApproval) :
    ApiOp M (Option (DecryptResult M)) := do
  let before <- Op.state
  let result <- locked (processIncomingInner frame approval)
  let paused :=
    match result with
    | some d => d.pendingEstablishment.isSome
    | none => false
  let after <- Op.state
  (if paused then pure ()
    else persistAfter
      (if after.inner.pqEpochs = before.inner.pqEpochs then .core
        else .checkpoint))
  pure result

def processIncoming (frame : Frame M) : ApiOp M (Option (DecryptResult M)) :=
  processIncomingWith frame none

def processIncomingApproved (frame : Frame M) (approval : EstablishmentApproval) :
    ApiOp M (Option (DecryptResult M)) :=
  processIncomingWith frame (some approval)

def queueProposal (digest : Bytes) : ApiOp M Unit := do
  let t <- Op.state
  Op.ensure t.inner.msg.offeredProposal.isSome .proposalRejected
  mutateAndPersist .core (queueProposalInner digest)

def exportAttachmentCekSend (keyId : Bytes) : ApiOp M Bytes := do
  let component <- mutateAndPersist .core sendAttachmentComponent
  Op.ofExcept (attachmentCek M component keyId)

def exportAttachmentCekRecv (keyId : Bytes) (epoch : Nat) : ApiOp M Bytes := do
  let component <- mutateAndPersist .core (recvAttachmentComponent epoch)
  Op.ofExcept (attachmentCek M component keyId)

/-- `should_listen_on` captures missing addresses without pushing. -/
def shouldListenOn : ApiOp M (List (Nat × Bytes)) := do
  locked recordListenRendezvous
  locked recordPqHeaderKey
  let t <- Op.state
  Op.ensure t.inner.sendGroup.isSome .sessionNotReady
  pure t.inner.ledger.listenRendezvous

/-!
## The side-band
-/

def handOut (stable : Bool) : SessionOp M (Option (SideBand M)) := do
  let s <- Op.state
  match s.round.pendingSideBand with
  | none => pure none
  | some retained =>
      let epochNow := sideBandSealEpoch s retained.frame
      if stable && retained.sealedAt.isSome && retained.sealedAt == epochNow then
        pure (some retained.frame)
      else do
        let sealed <- Op.attempt (sealSideBand retained.frame)
        if sealed.isOk then do
          (if stable && epochNow.isSome then
            Op.update fun s => s.mapRound fun r =>
              { r with pendingSideBand := some { retained with sealedAt := epochNow } }
          else pure ())
          pure (some retained.frame)
        else
          pure none

def pqPendingOutbound (stable : Bool) : ApiOp M (Option (SideBand M)) := do
  let delegated <- Op.attempt (locked ensureEstablishmentDelegated)
  if delegated.isOk then locked (handOut stable) else pure none

def pqTakePendingOutbound : ApiOp M (Option (SideBand M)) := do
  let delegated <- Op.attempt (locked ensureEstablishmentDelegated)
  let t <- Op.state
  match delegated, t.inner.recvGroup, t.inner.round.pendingSideBand with
  | .ok _, some _, some retained => do
      Op.update fun t => { t with inner := clearSideBand t.inner }
      let sealed <- Op.attempt (locked (sealSideBand retained.frame))
      persistHandOut
      pure (if sealed.isOk then some retained.frame else none)
  | _, _, _ => pure none

def pqRatchetRespond (frame : Frame M) (rnd : Nat -> M.Seed) : ApiOp M Unit := do
  let leg <- locked (ratchetRespondGuard frame)
  mutateAndPersist .core (ratchetRespondInner leg rnd)

def pqRatchetBind (frame : Frame M) (seed : M.Seed) : ApiOp M Unit := do
  let opened <- locked (ratchetBindGuard frame)
  mutateAndPersist .checkpoint (ratchetBindInner opened.1 opened.2 seed)

def pqRekeyRespond (frame : Frame M) (seed : M.Seed) :
    ApiOp M (Option Bytes) := do
  let proposal <- locked (rekeyRespondGuard frame)
  mutateAndPersist .checkpoint (rekeyRespondInner proposal seed)

def pqRekeyApply (frame : Frame M) (seed : M.Seed) : ApiOp M Unit := do
  let commit <- locked (rekeyApplyGuard frame)
  mutateAndPersist .checkpoint (rekeyApplyInner commit seed)

def pqBootstrapBegin (rotating : Option Bytes) : ApiOp M (SideBand M) := do
  let retained <- locked (bootstrapBeginGuard rotating)
  match retained with
  | some frame => pure frame
  | none => mutateAndPersist .checkpoint bootstrapBeginInner

def pqBootstrapEnvelope (seed : M.Seed) : ApiOp M (SideBand M) := do
  let retained <- locked (bootstrapEnvelopeGuard seed)
  match retained with
  | some frame => pure frame
  | none => mutateAndPersist .checkpoint (bootstrapEnvelopeInner seed)

def pqBootstrapRespond (frame : Frame M) (rnd : Nat -> M.Seed) : ApiOp M Unit := do
  let kp <- locked (bootstrapRespondGuard frame)
  mutateAndPersist .checkpoint (bootstrapRespondInner kp rnd)

def pqBootstrapBind (frame : Frame M) (seed : M.Seed) : ApiOp M Unit := do
  let welcome <- locked (bootstrapBindGuard frame)
  mutateAndPersist .checkpoint (bootstrapBindInner welcome seed)

/-!
## Restoring
-/

def latest (kind : BlobKind) (pushed : List (Push M)) : Option (Archive M) :=
  ((pushed.filter fun p => p.kind = kind).getLast?).map Push.archive

/-- Restore from the newest blob of each slot.  The restored session has no
sink. -/
def restore (pushed : List (Push M)) : Result (SessionInner M) :=
  restoreInner (latest .core pushed) (latest .checkpoint pushed)

end

end Session
end TwoMlsPq
