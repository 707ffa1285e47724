import TwoMlsPq.Apq.Authentication

/-!
# The MLS library the session runs on

The session is written against `mls-rs` and a crypto provider.  Neither is part
of this repository, so both enter as the fields of one structure, `MlsRs`, and
nothing below this line says how they compute.  What the session relies on is
stated separately, as named laws over the same fields.

A call that draws randomness takes the drawn value as an explicit `Seed`.  A
call on a mutable group returns the group it leaves behind, also on an error.
-/

namespace TwoMlsPq
namespace Apq

/-!
## Values that cross the library boundary
-/

inductive ContentType where
  | application
  | proposal
  | commit
deriving DecidableEq, Repr

/-- What `MlsMessage::description` reveals without processing a message. -/
inductive MessageDescription where
  | privateProtocolMessage (contentType : ContentType)
  | publicProtocolMessage (contentType : ContentType)
  | other
deriving DecidableEq, Repr

inductive MlsError where
  | invalidSuccessor
  | identityProviderError
  | keyMissing
  | invalidLeafConsumption
  | other
deriving DecidableEq, Repr

inductive Credential where
  | basic (identifier : Bytes)
  | other
deriving DecidableEq, Repr

def Credential.asBasic : Credential -> Option Bytes
  | basic identifier => some identifier
  | other => none

structure Member where
  index : Nat
  credential : Credential
  signatureKey : Bytes
deriving DecidableEq, Repr

structure ApqInfoUpdate where
  tEpoch : Nat
  pqEpoch : Nat
deriving DecidableEq, Repr

structure ApqInfo where
  tSessionGroupId : Bytes
  pqSessionGroupId : Bytes
  mode : Nat
  tCipherSuite : Nat
  pqCipherSuite : Nat
  tEpoch : Nat
  pqEpoch : Nat
deriving DecidableEq, Repr

structure GroupExtensions where
  apqInfo : Option ApqInfo
  appBinding : Option Bytes
deriving DecidableEq, Repr

inductive Proposal where
  | update (credential : Credential)
  | other
deriving DecidableEq, Repr

inductive ProposalSender where
  | member (index : Nat)
  | other
deriving DecidableEq, Repr

structure ProposalMessageDescription where
  proposal : Proposal
  sender : ProposalSender
  authenticatedData : Bytes
deriving DecidableEq, Repr

/-- A custom proposal of an applied commit, with what
`ApqInfoUpdate::from_custom_proposal` reads from it. -/
abbrev CustomProposal : Type :=
  Option ApqInfoUpdate

inductive CommitEffect where
  | newEpoch (customProposals : List CustomProposal)
  | other
deriving DecidableEq, Repr

inductive ReceivedMessage where
  | applicationMessage (senderIndex : Nat) (data : Bytes)
  | proposal (description : ProposalMessageDescription)
  | commit (effect : CommitEffect)
  | other
deriving DecidableEq, Repr

inductive PskId where
  | injected (epoch : Nat) (groupId : Bytes)
  | application (componentId : Nat) (pskId : Bytes)
deriving DecidableEq, Repr

structure KeyPackageInfo where
  credential : Credential
  cipherSuite : Nat
deriving DecidableEq, Repr

/-- What a group resolves outside of its own state while it processes or builds
a message: the Authentication Service and the PSK store of its client. -/
structure MlsEnv where
  auth : AuthCore
  psk : PskId -> Option Bytes

structure CommitRequest (Message Signer : Type) where
  addMember : Option Message
  psks : List PskId
  customProposal : Option ApqInfoUpdate
  newSigningIdentity : Option (Signer × Bytes)

structure CommitOutput (Message : Type) where
  commitMessage : Message
  welcomeMessages : List Message

structure ClientIdentity (Signer : Type) where
  identifier : Bytes
  signer : Signer

/-!
## The library
-/

structure MlsRs where
  Group : Type
  Message : Type
  Seed : Type
  Signer : Type
  KeyPackageSecret : Type
  GroupSnapshot : Type
  -- messages
  toBytes : Message -> Except MlsError Bytes
  messageEpoch : Message -> Option Nat
  messageGroupId : Message -> Option Bytes
  description : Message -> MessageDescription
  messageCipherSuite : Message -> Option Nat
  intoKeyPackage : Message -> Option KeyPackageInfo
  -- key packages and clients
  publicKey : Signer -> Bytes
  signatureKeyGenerate : Seed -> Except MlsError Signer
  generateKeyPackage :
    ClientIdentity Signer -> Nat -> Seed ->
      Except MlsError (Message × KeyPackageSecret)
  randomGroupId : Seed -> Except MlsError Bytes
  -- group observers
  currentEpoch : Group -> Nat
  groupId : Group -> Bytes
  currentMemberIndex : Group -> Nat
  roster : Group -> List Member
  commitRequired : Group -> Bool
  apqInfoExtension : Group -> Except MlsError (Option ApqInfo)
  appBindingExtension : Group -> Except MlsError (Option Bytes)
  -- exporters
  exportSecret : Group -> Bytes -> Bytes -> Nat -> Except MlsError Bytes
  safeExportSecret : Nat -> Group -> Except MlsError Bytes × Group
  deriveSecret : Group -> Bytes -> Bytes -> Except MlsError Bytes
  -- group operations
  createGroupWithId :
    MlsEnv -> ClientIdentity Signer -> Nat -> Bytes -> GroupExtensions ->
      Seed -> Except MlsError Group
  joinGroup :
    MlsEnv -> ClientIdentity Signer -> List KeyPackageSecret -> Message ->
      Except MlsError Group
  processIncomingMessage :
    MlsEnv -> Message -> Group -> Except MlsError ReceivedMessage × Group
  clearProposalCache : Group -> Group
  buildCommit :
    MlsEnv -> CommitRequest Message Signer -> Seed -> Group ->
      Except MlsError (CommitOutput Message) × Group
  applyPendingCommit : MlsEnv -> Group -> Except MlsError Unit × Group
  proposeUpdate :
    MlsEnv -> Option (Signer × Bytes) -> Bytes -> Seed -> Group ->
      Except MlsError Message × Group
  encryptApplicationMessage :
    Bytes -> Bytes -> Seed -> Group -> Except MlsError Message × Group
  -- persistence
  writeToStorage : Group -> Except MlsError Unit × Group
  storedEpoch : Group -> Nat -> Bool
  exportGroup : Group -> Except MlsError GroupSnapshot × Group
  loadGroup : GroupSnapshot -> Except MlsError Group
  -- crypto provider
  sha256 : Bytes -> Bytes
  kemGenerate : Seed -> Except MlsError (Bytes × Bytes)
  kemEncap : Seed -> Bytes -> Except MlsError (Bytes × Bytes)
  kemDecap : Bytes -> Bytes -> Bytes -> Except MlsError Bytes
  kdfExtract : Bytes -> Bytes -> Except MlsError Bytes
  kdfExpand : Bytes -> Bytes -> Nat -> Except MlsError Bytes
  -- `ExpandWithLabel` of the pinned classical suite
  expandWithLabel : Bytes -> Bytes -> Bytes -> Nat -> Except MlsError Bytes
  aeadKeySize : Nat
  aeadNonceSize : Nat
  aeadSeal : Bytes -> Bytes -> Bytes -> Except MlsError Bytes
  aeadOpen : Bytes -> Bytes -> Bytes -> Except MlsError Bytes
  randomBytes : Nat -> Seed -> Except MlsError Bytes
  hpkeSeal : Bytes -> Seed -> Except MlsError Unit
  -- state of a group that no accessor shows, named by the laws
  groupSigner : Group -> Signer
  pendingUpdates : Group -> List (Message × Option (Signer × Bytes))
  pendingSigningIdentity : Group -> Option (Option (Signer × Bytes))
  welcomeEpoch : Message -> Nat
  keyPackageLeaf : KeyPackageSecret -> Credential × Bytes

/-- A byte string together with what `MlsMessage::from_bytes` makes of it. -/
structure Blob (M : MlsRs) where
  bytes : Bytes
  parsed : Option M.Message

def Blob.ofMessage {M : MlsRs} (m : M.Message) : Except MlsError (Blob M) :=
  match M.toBytes m with
  | .ok bytes => .ok { bytes := bytes, parsed := some m }
  | .error e => .error e

def Blob.empty {M : MlsRs} : Blob M :=
  { bytes := [], parsed := none }

def Blob.sha256 {M : MlsRs} (b : Blob M) : Bytes :=
  M.sha256 b.bytes

end Apq
end TwoMlsPq
