import TwoMlsPq.Session.PqOps

/-!
# The archive

A blob is the session's persisted fields and a tail.  A Core leaves the two
post-quantum trees out and names their epochs instead; a Checkpoint carries
them.  A restore takes the newest blob of each kind, lets the newer one win,
and refuses a Core whose epoch manifest disagrees with the Checkpoint's.
-/

namespace TwoMlsPq
namespace Session

open Foundation Apq

section

variable (M : MlsRs)

inductive BlobKind where
  | core
  | checkpoint
deriving DecidableEq, Repr

structure GroupEntry where
  classical : M.GroupSnapshot
  pq : Option M.GroupSnapshot

structure ArchiveTail where
  responderWireCt : Option Bytes
  pqWedged : Option PqWedge
  sendAttachmentLedger : List (Nat × Bytes)
  recvAttachmentLedger : List (Nat × Bytes)
deriving DecidableEq, Repr

structure SessionArchive where
  stateSeq : Nat
  sendPqEpoch : Option Nat
  recvPqEpoch : Option Nat
  client : TwoMlsPqPrincipal M
  authMine : PartySequence
  authTheirs : PartySequence
  sendGroup : GroupEntry M
  recvGroup : Option (GroupEntry M)
  msg : MessageState M
  rotation : RotationState M
  round : RoundState M
  ledger : LedgerState
  establishment : EstablishmentState M

structure Archive where
  wire : SessionArchive M
  tail : ArchiveTail

end

section

variable {M : MlsRs}

/-!
## Encoding
-/

/-- The ciphertext payload of a responder rides the tail, not the wire. -/
def wirePqInflight : PqInflight -> PqInflight
  | .responding secret _ => .responding secret none
  | other => other

def archivedRound (r : RoundState M) : RoundState M :=
  { r with
    pqInflight := r.pqInflight.map wirePqInflight
    pendingSideBand :=
      r.pendingSideBand.map fun f => { f with sealedAt := none }
    bindApplyBroken := false
    pqWedged := none }

def archivedLedger (l : LedgerState) : LedgerState :=
  { l with
    sendAttachmentLedger := []
    recvAttachmentLedger := []
    pskStores := []
    pskStoresFrom := 0 }

def archivedMsg (m : MessageState M) : MessageState M :=
  { m with currentStapleSeq := 0 }

def tailFrom (s : SessionInner M) : ArchiveTail :=
  { responderWireCt :=
      match s.round.pqInflight with
      | some (.responding _ ct) => ct
      | _ => none
    pqWedged := s.round.pqWedged
    sendAttachmentLedger := s.ledger.sendAttachmentLedger
    recvAttachmentLedger := s.ledger.recvAttachmentLedger }

def exportHalf (h : Half) : SessionOp M M.GroupSnapshot :=
  callHalf h .sessionNotReady (fun _ => .mls) fun _ => M.exportGroup

def exportPqHalf (h : Half) (includePq : Bool) :
    SessionOp M (Option M.GroupSnapshot) := do
  let s <- Op.state
  if includePq && (s.half h).isSome then do
    let pq <- exportHalf h
    pure (some pq)
  else
    pure none

def exportSend (includePq : Bool) : SessionOp M (GroupEntry M) := do
  let classical <- exportHalf .sendClassical
  let pq <- exportPqHalf .sendPq includePq
  pure { classical := classical, pq := pq }

def exportRecv (includePq : Bool) : SessionOp M (Option (GroupEntry M)) := do
  let s <- Op.state
  if s.recvGroup.isNone then
    pure none
  else do
    let classical <- exportHalf .recvClassical
    let pq <- exportPqHalf .recvPq includePq
    pure (some { classical := classical, pq := pq })

def buildArchiveWire (includePq : Bool) : SessionOp M (SessionArchive M) := do
  recordListenRendezvous
  let sendGroup <- exportSend includePq
  let recvGroup <- exportRecv includePq
  let s <- Op.state
  pure
    { stateSeq := s.stateSeq
      sendPqEpoch := s.pqEpochs.1
      recvPqEpoch := s.pqEpochs.2
      client := s.client
      authMine := s.services.auth.mine
      authTheirs := s.services.auth.theirs
      sendGroup := sendGroup
      recvGroup := recvGroup
      msg := archivedMsg s.msg
      rotation := s.rotation
      round := archivedRound s.round
      ledger := archivedLedger s.ledger
      establishment := s.establishment }

def encodeBlob (kind : BlobKind) : SessionOp M (Archive M) := do
  let s <- Op.state
  let wire <- buildArchiveWire (kind == .checkpoint)
  pure { wire := wire, tail := tailFrom s }

/-!
## Reconciling the two slots
-/

def mergeRecv (core ck : Option (GroupEntry M)) :
    Result (Option (GroupEntry M)) :=
  match core, ck with
  | some rg, ckRg => .ok (some { rg with pq := ckRg.bind GroupEntry.pq })
  | none, none => .ok none
  | none, some _ => .error .archiveInvalid

def reconcilePersisted (core checkpoint : Option (Archive M)) :
    Result (Archive M) := do
  match checkpoint, core with
  | none, _ => .error .archiveInvalid
  | some ck, none => .ok ck
  | some ck, some core =>
      if core.wire.stateSeq <= ck.wire.stateSeq then .ok ck
      else if core.wire.sendPqEpoch ≠ ck.wire.sendPqEpoch ∨
          core.wire.recvPqEpoch ≠ ck.wire.recvPqEpoch then
        .error .archiveInvalid
      else do
        let recvGroup <- mergeRecv core.wire.recvGroup ck.wire.recvGroup
        .ok
          { core with
            wire := { core.wire with
              sendGroup := { core.wire.sendGroup with pq := ck.wire.sendGroup.pq }
              recvGroup := recvGroup } }

/-!
## Decoding
-/

def digestOk (d : Option Bytes) : Bool :=
  d.all fun bytes => bytes.length == 32

def archiveWellFormed (a : Archive M) : Bool :=
  let w := a.wire
  decide (w.ledger.sendPskLedger.length <= sendPskWindow) &&
  decide (a.tail.sendAttachmentLedger.length <= attachmentLedgerWindow) &&
  decide (a.tail.recvAttachmentLedger.length <= attachmentLedgerWindow) &&
  digestOk w.msg.pendingProposalHash &&
  digestOk (w.msg.offeredProposal.map PeerProposal.digest) &&
  digestOk (w.msg.queuedProposal.map PeerProposal.digest) &&
  digestOk w.msg.joinedWelcomeDigest &&
  w.ledger.listenRendezvous.all (fun e => e.2.length == 32) &&
  (w.ledger.recvHeaderKeys ++ w.ledger.recvHeaderKeysPq).all
    (fun e => e.2.length == M.aeadKeySize) &&
  w.msg.currentStaple.isSome &&
  (w.round.bootstrapKp.isNone || w.round.bootstrapKpSecret.isSome) &&
  digestOk w.round.expectedBootstrapKpCommitment

def pqInflightFromWire (wire : PqInflight) (wireCt : Option Bytes) :
    Result PqInflight :=
  match wire with
  | .responding secret _ => .ok (.responding secret wireCt)
  | other => if wireCt.isSome then .error .archiveInvalid else .ok other

def inflightFromWire (wire : Option PqInflight) (wireCt : Option Bytes) :
    Result (Option PqInflight) :=
  match wire with
  | none => if wireCt.isSome then .error .archiveInvalid else .ok none
  | some w => do
      let inflight <- pqInflightFromWire w wireCt
      .ok (some inflight)

def loadCombinerGroup (client : TwoMlsPqPrincipal M) (entry : GroupEntry M) :
    Result (CombinerGroup M) := do
  let classical <- orError .mls (M.loadGroup entry.classical)
  match entry.pq with
  | none => .ok (CombinerGroup.fromClient client classical none)
  | some snapshot => do
      let pq <- orError .mls (M.loadGroup snapshot)
      .ok (CombinerGroup.fromClient client classical (some pq))

def loadRecv (client : TwoMlsPqPrincipal M) :
    Option (GroupEntry M) -> Result (Option (CombinerGroup M))
  | none => .ok none
  | some entry => do
      let group <- loadCombinerGroup client entry
      .ok (some group)

/-- A responder without its ciphertext payload may only re-send the bytes it
parked, and only on the post-quantum carrier. -/
def ctPayloadMissing (send : CombinerGroup M) (inflight : Option PqInflight)
    (parked : Option (RetainedFrame M)) : Bool :=
  match inflight, parked with
  | some (.responding _ none), some retained =>
      retained.frame.kind == .ratchetCiphertext &&
        (match retained.frame.body.parsed.bind M.messageGroupId with
          | some id => id == M.groupId send.classical
          | none => false)
  | _, _ => false

/-- Fresh client values: the candidates of a restored session are numbered
after its client. -/
def renumber (start : Nat) (candidates : List (TwoMlsPqPrincipal M)) :
    List (TwoMlsPqPrincipal M) :=
  candidates.mapIdx fun i c => { c with handle := start + i }

def sessionFromWire (a : Archive M) : Result (SessionInner M) := do
  let w := a.wire
  if archiveWellFormed a = false then .error .archiveInvalid
  else do
    let client := { w.client with handle := 0 }
    let inflight <- inflightFromWire w.round.pqInflight a.tail.responderWireCt
    let sendGroup <- loadCombinerGroup client w.sendGroup
    let recvGroup <- loadRecv client w.recvGroup
    if ctPayloadMissing sendGroup inflight w.round.pendingSideBand then
      .error .archiveInvalid
    else
      .ok
        { client := client
          suite := client.suite
          sendGroup := some sendGroup
          recvGroup := recvGroup
          services :=
            { auth :=
                { mine := w.authMine, theirs := w.authTheirs, adopting := false }
              psks := PskHeap.empty }
          msg := { w.msg with currentStapleSeq := w.stateSeq }
          rotation :=
            { w.rotation with
              stagedCandidates := renumber 1 w.rotation.stagedCandidates }
          round :=
            { w.round with
              pqInflight := inflight
              bindApplyBroken := false
              pqWedged := a.tail.pqWedged }
          ledger :=
            { w.ledger with
              sendAttachmentLedger := a.tail.sendAttachmentLedger
              recvAttachmentLedger := a.tail.recvAttachmentLedger
              pskStores := client.stores
              pskStoresFrom := 0 }
          establishment := w.establishment
          stateSeq := w.stateSeq
          nextHandle := 1 + w.rotation.stagedCandidates.length }

def restoreInner (core checkpoint : Option (Archive M)) :
    Result (SessionInner M) := do
  let archive <- reconcilePersisted core checkpoint
  sessionFromWire archive

end

end Session
end TwoMlsPq
