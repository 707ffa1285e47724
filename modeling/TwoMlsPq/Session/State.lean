import TwoMlsPq.Apq.PqRatchet

/-!
# The session state

`SessionInner` is the value behind the session's lock.  Its fields are grouped
by what they serve: the message path, the credential rotation, the
post-quantum rounds, the ledgers and the establishment.  A frame is modelled as
the decoders leave it; the bytes that carry an MLS message keep their parse
result (`Blob`).
-/

namespace TwoMlsPq
namespace Session

open Foundation Apq

/-!
## Frames
-/

section

variable (M : MlsRs)

/-- The bytes of an APQ welcome with what `decode_apq_welcome` makes of them. -/
structure WelcomeBytes where
  bytes : Bytes
  decoded : Option (ApqWelcome M)

/-- The staple section of a message frame, by its leading tag.  Any other
leading byte is a plain MLS message. -/
inductive Staple where
  | handoff (envelope : Bytes) (welcome : WelcomeBytes M)
  | badHandoff
  | welcome (welcome : WelcomeBytes M)
  | bind (tMessage pqMessage : Blob M)
  | badBind
  | commit (message : Blob M)

inductive PqFrameKind where
  | bootstrapKeyPackage
  | bootstrapWelcome
  | ratchetEphemeralKey
  | ratchetCiphertext
  | rekeyUpdate
  | rekeyCommit
deriving DecidableEq, Repr

structure SideBand where
  kind : PqFrameKind
  body : Blob M

abbrev ProposalSection : Type :=
  Option (Bytes × Blob M)

inductive Frame where
  | handoff (envelope : Bytes) (welcome : WelcomeBytes M)
  | badHandoff
  | welcome (welcome : WelcomeBytes M)
  | message (staple : Staple M) (proposal : ProposalSection M) (app : Blob M)
  | badMessage
  | preEstablishment (app : Blob M)
  | sideBand (frame : SideBand M)
  | unknown

/-- The plaintext of an establishment envelope: host payload, welcome, return
key package and a stapled pre-establishment message. -/
structure InitialEnvelope where
  appPayload : Option Bytes
  welcome : Option (WelcomeBytes M)
  returnKeyPackage : Option (Blob M)
  stapled : Option (Blob M)

inductive Outbound where
  | envelope (envelope : InitialEnvelope M)
  | staple (staple : Staple M)

/-!
## Rounds, wedges and reservations
-/

inductive PqInflight where
  | initiating (eph : PqEphemeral)
  | bootstrapInitiated
  | bootstrapResponded
  | responding (secret : Bytes) (wireCt : Option Bytes)
  | rekeyInitiated
  | rekeyResponded
deriving DecidableEq, Repr

inductive PqWedge where
  | bootstrap
  | ratchet
  | rekey
deriving DecidableEq, Repr

/-- A post-quantum commit that has landed and waits for the classical commit
that binds it, with the two epochs the pair is reserved for. -/
structure OwedBind where
  pqCommit : Blob M
  tEpoch : Nat
  pqEpoch : Nat

/-- A retained side-band frame.  `sealedAt` stamps the cached seal with the
epoch of the group that sealed it. -/
structure RetainedFrame where
  frame : SideBand M
  sealedAt : Option Nat

inductive PrincipalState where
  | sync (clientId : Bytes)
  | pending (old new : Bytes)
deriving DecidableEq, Repr

end

def PrincipalState.clientId : PrincipalState -> Bytes
  | sync clientId => clientId
  | pending old _ => old

structure PeerProposal (M : MlsRs) where
  digest : Bytes
  proposing : Bytes
  proposal : Blob M

structure CombinerKeyPackage (M : MlsRs) where
  classical : Blob M
  pq : Blob M

/-!
## The parts of the session
-/

structure MessageState (M : MlsRs) where
  pendingOutbound : Option (Outbound M)
  pendingProposalHash : Option Bytes
  currentStaple : Option (Staple M)
  currentStapleSeq : Nat
  pendingProposalMessage : Option (Bytes × Blob M)
  joinedWelcomeDigest : Option Bytes
  offeredProposal : Option (PeerProposal M)
  queuedProposal : Option (PeerProposal M)
  peerAppliedSendEpoch : Option Nat

structure RotationState (M : MlsRs) where
  stagedCandidates : List (TwoMlsPqPrincipal M)
  deferredCandidate : Option Bytes
  myState : PrincipalState
  theirState : PrincipalState

structure RoundState (M : MlsRs) where
  pqInflight : Option PqInflight
  pendingSideBand : Option (RetainedFrame M)
  owedBind : Option (OwedBind M)
  pqTurnMine : Bool
  bindApplyBroken : Bool
  pqWedged : Option PqWedge
  lastCrossInjectedPq : Option Nat
  lastSendPqExported : Option Nat
  bootstrapKp : Option (Blob M)
  bootstrapKpSecret : Option M.KeyPackageSecret
  expectedBootstrapKpCommitment : Option Bytes

structure LedgerState where
  sendPskLedger : List (Nat × ExportedPsk)
  sendAttachmentLedger : List (Nat × Bytes)
  recvAttachmentLedger : List (Nat × Bytes)
  retiredSendPsks : List PskId
  lastCrossInjected : Option Nat
  listenRendezvous : List (Nat × Bytes)
  recvHeaderKeys : List (Nat × Bytes)
  recvHeaderKeysPq : List (Nat × Bytes)
  pskStores : List StoreId
  pskStoresFrom : Nat

structure EstablishmentState (M : MlsRs) where
  spawnToken : Option Bytes
  initialTheirKp : Option (CombinerKeyPackage M)
  initialAppPayload : Option Bytes
  initialReturnKp : Option (Blob M)
  requiresEstablishmentEnvelope : Bool
  establishmentEnvelope : Option Bytes

structure SessionInner (M : MlsRs) where
  client : TwoMlsPqPrincipal M
  suite : ApqCipherSuite
  sendGroup : Option (CombinerGroup M)
  recvGroup : Option (CombinerGroup M)
  services : Services
  msg : MessageState M
  rotation : RotationState M
  round : RoundState M
  ledger : LedgerState
  establishment : EstablishmentState M
  stateSeq : Nat
  -- names the next minted principal, for the comparisons by `Arc` identity
  nextHandle : Nat

abbrev SessionOp (M : MlsRs) : Type -> Type :=
  Op (SessionInner M) TwoMlsPqError

def sendPskWindow : Nat :=
  8

def attachmentLedgerWindow : Nat :=
  8

def candidateWindow : Nat :=
  4

def pqHeaderWindow : Nat :=
  4

/-!
## The four halves

Every library call of the session is made on one of at most four groups.
-/

inductive Half where
  | sendClassical
  | sendPq
  | recvClassical
  | recvPq
deriving DecidableEq, Repr

namespace SessionInner

variable {M : MlsRs}

def half (s : SessionInner M) : Half -> Option M.Group
  | .sendClassical => s.sendGroup.map CombinerGroup.classical
  | .sendPq => s.sendGroup.bind CombinerGroup.pq
  | .recvClassical => s.recvGroup.map CombinerGroup.classical
  | .recvPq => s.recvGroup.bind CombinerGroup.pq

def halfStore (s : SessionInner M) : Half -> Option StoreId
  | .sendClassical => s.sendGroup.map CombinerGroup.classicalPsks
  | .sendPq => s.sendGroup.map CombinerGroup.pqPsks
  | .recvClassical => s.recvGroup.map CombinerGroup.classicalPsks
  | .recvPq => s.recvGroup.map CombinerGroup.pqPsks

def setHalf (s : SessionInner M) (h : Half) (g : M.Group) : SessionInner M :=
  match h with
  | .sendClassical =>
      { s with sendGroup := s.sendGroup.map fun cg => { cg with classical := g } }
  | .sendPq =>
      { s with sendGroup := s.sendGroup.map fun cg => { cg with pq := some g } }
  | .recvClassical =>
      { s with recvGroup := s.recvGroup.map fun cg => { cg with classical := g } }
  | .recvPq =>
      { s with recvGroup := s.recvGroup.map fun cg => { cg with pq := some g } }

def epoch (s : SessionInner M) (h : Half) : Option Nat :=
  (s.half h).map M.currentEpoch

def pqEpochs (s : SessionInner M) : Option Nat × Option Nat :=
  (s.epoch .sendPq, s.epoch .recvPq)

def pqHalvesLive (s : SessionInner M) : Bool :=
  (s.half .sendPq).isSome && (s.half .recvPq).isSome

def registerPsk (s : SessionInner M) (id : PskId) (psk : Bytes) : SessionInner M :=
  { s with
    services := { s.services with
      psks := s.services.psks.register s.ledger.pskStores id psk } }

def forgetPsk (s : SessionInner M) (id : PskId) : SessionInner M :=
  { s with
    services := { s.services with
      psks := s.services.psks.forget s.ledger.pskStores id } }

def registerStores (s : SessionInner M) (stores : List StoreId) (id : PskId)
    (psk : Bytes) : SessionInner M :=
  { s with
    services := { s.services with psks := s.services.psks.register stores id psk } }

def forgetStores (s : SessionInner M) (stores : List StoreId) (id : PskId) :
    SessionInner M :=
  { s with
    services := { s.services with psks := s.services.psks.forget stores id } }

def withAuth (s : SessionInner M) (f : AuthCore -> AuthCore) : SessionInner M :=
  { s with services := s.services.mapAuth f }

def commitTheirs (s : SessionInner M) (id : Bytes) : SessionInner M :=
  s.withAuth fun core => { core with theirs := core.theirs.commit id }

def commitMine (s : SessionInner M) (id : Bytes) : SessionInner M :=
  s.withAuth fun core => { core with mine := core.mine.commit id }

def mapMsg (s : SessionInner M) (f : MessageState M -> MessageState M) :
    SessionInner M :=
  { s with msg := f s.msg }

def mapRotation (s : SessionInner M) (f : RotationState M -> RotationState M) :
    SessionInner M :=
  { s with rotation := f s.rotation }

def mapRound (s : SessionInner M) (f : RoundState M -> RoundState M) :
    SessionInner M :=
  { s with round := f s.round }

def mapLedger (s : SessionInner M) (f : LedgerState -> LedgerState) :
    SessionInner M :=
  { s with ledger := f s.ledger }

def mapEstablishment (s : SessionInner M)
    (f : EstablishmentState M -> EstablishmentState M) : SessionInner M :=
  { s with establishment := f s.establishment }

end SessionInner

section

variable {M : MlsRs} {α : Type}

def onHalf (h : Half) (missing : TwoMlsPqError) (x : StoreId -> HalfOp M α) :
    SessionOp M α :=
  Op.ofResult fun s =>
    match s.half h, s.halfStore h with
    | some g, some store =>
        let r := (x store).run { services := s.services, group := g }
        (r.1, { s.setHalf h r.2.group with services := r.2.services })
    | _, _ => (.error missing, s)

def readHalf (h : Half) (missing : TwoMlsPqError) : SessionOp M M.Group := do
  let s <- Op.state
  Op.ofOption (s.half h) missing

def callHalf (h : Half) (missing : TwoMlsPqError)
    (err : MlsError -> TwoMlsPqError)
    (f : MlsEnv -> M.Group -> Except MlsError α × M.Group) : SessionOp M α :=
  onHalf h missing fun store => HalfOp.call store err f

end

/-!
## Error maps
-/

def mapCredentialErr : MlsError -> TwoMlsPqError
  | .invalidSuccessor => .credentialRejected
  | .identityProviderError => .credentialRejected
  | _ => .mls

def mapAppMessageErr : MlsError -> TwoMlsPqError
  | .keyMissing => .staleFrame
  | .invalidLeafConsumption => .staleFrame
  | _ => .decryptionFailed

end Session
end TwoMlsPq
