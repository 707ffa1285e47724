import TwoMlsPq.Session.State

/-!
# Ledgers and windows

The exporter leaf of an epoch can be spent once, so the session keeps what it
exported: the cross-party PSKs of its recent send epochs, the attachment
components of both directions, the listen addresses and the header keys.
-/

namespace TwoMlsPq
namespace Session

open Foundation Apq

/-!
## Repeatable exports
-/

/-- `rendezvous` -/
def rendezvousLabel : Bytes :=
  [0x72, 0x65, 0x6e, 0x64, 0x65, 0x7a, 0x76, 0x6f, 0x75, 0x73]

/-- `TwoMLS` -/
def rendezvousContext : Bytes :=
  [0x54, 0x77, 0x6f, 0x4d, 0x4c, 0x53]

/-- `germ.network.twomlspq.headerKey.v1` -/
def headerKeyLabel : Bytes :=
  [0x67, 0x65, 0x72, 0x6d, 0x2e, 0x6e, 0x65, 0x74, 0x77, 0x6f, 0x72, 0x6b, 0x2e,
    0x74, 0x77, 0x6f, 0x6d, 0x6c, 0x73, 0x70, 0x71, 0x2e, 0x68, 0x65, 0x61, 0x64,
    0x65, 0x72, 0x4b, 0x65, 0x79, 0x2e, 0x76, 0x31]

/-- `germ.network.twomlspq.headerKey.pq.v1` -/
def headerKeyPqLabel : Bytes :=
  [0x67, 0x65, 0x72, 0x6d, 0x2e, 0x6e, 0x65, 0x74, 0x77, 0x6f, 0x72, 0x6b, 0x2e,
    0x74, 0x77, 0x6f, 0x6d, 0x6c, 0x73, 0x70, 0x71, 0x2e, 0x68, 0x65, 0x61, 0x64,
    0x65, 0x72, 0x4b, 0x65, 0x79, 0x2e, 0x70, 0x71, 0x2e, 0x76, 0x31]

/-- `germ.network.twomlspq.a3.ctSeal.psk.v1` -/
def ctSealPskLabel : Bytes :=
  [0x67, 0x65, 0x72, 0x6d, 0x2e, 0x6e, 0x65, 0x74, 0x77, 0x6f, 0x72, 0x6b, 0x2e,
    0x74, 0x77, 0x6f, 0x6d, 0x6c, 0x73, 0x70, 0x71, 0x2e, 0x61, 0x33, 0x2e, 0x63,
    0x74, 0x53, 0x65, 0x61, 0x6c, 0x2e, 0x70, 0x73, 0x6b, 0x2e, 0x76, 0x31]

section

variable {M : MlsRs}

def rendezvousSecret (g : M.Group) : Result Bytes :=
  orError .mls (M.exportSecret g rendezvousLabel rendezvousContext 32)

def headerKey (g : M.Group) : Result Bytes :=
  orError .mls (M.exportSecret g headerKeyLabel (M.groupId g) M.aeadKeySize)

def headerKeyPq (g : M.Group) : Result Bytes :=
  orError .mls (M.exportSecret g headerKeyPqLabel (M.groupId g) M.aeadKeySize)

def ctSealPsk (g : M.Group) : Result Bytes :=
  orError .mls (M.exportSecret g ctSealPskLabel (M.groupId g) 32)

end

/-!
## Maps keyed by epoch, in ascending order
-/

def hasEpoch {α : Type} (entries : List (Nat × α)) (epoch : Nat) : Bool :=
  entries.any fun entry => entry.1 == epoch

def insertEpoch {α : Type} (epoch : Nat) (value : α) :
    List (Nat × α) -> List (Nat × α)
  | [] => [(epoch, value)]
  | entry :: rest =>
      if epoch < entry.1 then (epoch, value) :: entry :: rest
      else if epoch = entry.1 then (epoch, value) :: rest
      else entry :: insertEpoch epoch value rest

def keepNewest {α : Type} (window : Nat) (entries : List α) : List α :=
  entries.drop (entries.length - window)

section

variable {M : MlsRs}

def recordListenRendezvous : SessionOp M Unit := do
  let s <- Op.state
  match s.half .sendClassical with
  | none => pure ()
  | some g =>
      let epoch := M.currentEpoch g
      if hasEpoch s.ledger.listenRendezvous epoch then
        pure ()
      else do
        let secret <- Op.ofExcept (rendezvousSecret g)
        let header <- Op.ofExcept (headerKey g)
        Op.update fun s => s.mapLedger fun l =>
          { l with
            listenRendezvous := insertEpoch epoch secret l.listenRendezvous
            recvHeaderKeys := insertEpoch epoch header l.recvHeaderKeys }
        callHalf .sendClassical .mls (fun _ => .mls) fun _ => M.writeToStorage
        let g <- readHalf .sendClassical .mls
        let retain (entry : Nat × Bytes) : Bool :=
          entry.1 == epoch || M.storedEpoch g entry.1
        Op.update fun s => s.mapLedger fun l =>
          { l with
            listenRendezvous := l.listenRendezvous.filter retain
            recvHeaderKeys := l.recvHeaderKeys.filter retain }

def recordPqHeaderKey : SessionOp M Unit := do
  let s <- Op.state
  match s.half .sendPq with
  | none => pure ()
  | some g =>
      let epoch := M.currentEpoch g
      if hasEpoch s.ledger.recvHeaderKeysPq epoch then
        pure ()
      else do
        let key <- Op.ofExcept (headerKeyPq g)
        Op.update fun s => s.mapLedger fun l =>
          { l with
            recvHeaderKeysPq :=
              keepNewest pqHeaderWindow (insertEpoch epoch key l.recvHeaderKeysPq) }

/-- Best effort after a commit: a failed capture is repeated by
`should_listen_on`. -/
def recordPqHeaderKeyPostCommit : SessionOp M Unit := do
  let _ <- Op.attempt recordPqHeaderKey
  pure ()

/-!
## The cross-party PSK ledger
-/

def rememberSendPsk : SessionOp M Unit := do
  let g <- readHalf .sendClassical .sessionNotReady
  let epoch := M.currentEpoch g
  let s <- Op.state
  if hasEpoch s.ledger.sendPskLedger epoch then
    pure ()
  else do
    let exported <-
      onHalf .sendClassical .sessionNotReady fun _ =>
        HalfOp.ofGroup (exportPsk .crossParty)
    Op.update fun s => s.mapLedger fun l =>
      let grown := l.sendPskLedger ++ [(epoch, exported)]
      let evicted := grown.take (grown.length - sendPskWindow)
      { l with
        sendPskLedger := keepNewest sendPskWindow grown
        retiredSendPsks :=
          l.retiredSendPsks ++ evicted.map fun entry => entry.2.storageId }

def injectionStores (s : SessionInner M) : List StoreId :=
  s.client.stores ++ (s.recvGroup.map CombinerGroup.stores).getD [] ++
    (s.sendGroup.map CombinerGroup.stores).getD []

def injectSendPsks : SessionOp M Unit := do
  rememberSendPsk
  Op.update fun s =>
    s.ledger.sendPskLedger.foldl
      (fun s entry =>
        s.registerStores (injectionStores s) entry.2.storageId entry.2.psk) s
  Op.update fun s =>
    (s.ledger.retiredSendPsks.foldl
      (fun s id => s.forgetStores (injectionStores s) id) s).mapLedger fun l =>
        { l with retiredSendPsks := [] }

/-!
## Attachment components
-/

def ledgerAttachmentComponent (epoch : Nat) (component : Bytes)
    (ledger : List (Nat × Bytes)) : List (Nat × Bytes) :=
  if hasEpoch ledger epoch then ledger
  else keepNewest attachmentLedgerWindow (ledger ++ [(epoch, component)])

def sendAttachmentComponent : SessionOp M Bytes := do
  let g <- readHalf .sendClassical .sessionNotReady
  let epoch := M.currentEpoch g
  let s <- Op.state
  match s.ledger.sendAttachmentLedger.find? fun entry => entry.1 == epoch with
  | some entry => pure entry.2
  | none => do
      let component <-
        onHalf .sendClassical .sessionNotReady fun _ =>
          HalfOp.ofGroup exportAttachmentComponent
      Op.update fun s => s.mapLedger fun l =>
        { l with
          sendAttachmentLedger :=
            ledgerAttachmentComponent epoch component l.sendAttachmentLedger }
      pure component

def captureRecvAttachmentComponent (epoch : Nat) : SessionOp M Bytes := do
  let component <-
    onHalf .recvClassical .attachmentComponentUnavailable fun _ =>
      HalfOp.ofGroup exportAttachmentComponent
  Op.update fun s => s.mapLedger fun l =>
    { l with
      recvAttachmentLedger :=
        ledgerAttachmentComponent epoch component l.recvAttachmentLedger }
  pure component

/-- Capture the departing recv epoch's component, best effort. -/
def rememberRecvAttachmentComponent : SessionOp M Unit := do
  let s <- Op.state
  match s.epoch .recvClassical with
  | none => pure ()
  | some epoch =>
      if hasEpoch s.ledger.recvAttachmentLedger epoch then
        pure ()
      else do
        let _ <- Op.attempt (captureRecvAttachmentComponent epoch)
        pure ()

def recvAttachmentComponent (epoch : Nat) : SessionOp M Bytes := do
  let s <- Op.state
  match s.ledger.recvAttachmentLedger.find? fun entry => entry.1 == epoch with
  | some entry => pure entry.2
  | none =>
      if s.epoch .recvClassical = some epoch then
        Op.mapError (fun _ => .attachmentComponentUnavailable)
          (captureRecvAttachmentComponent epoch)
      else
        Op.fail .attachmentComponentUnavailable

end

end Session
end TwoMlsPq
