import Mathlib.Algebra.Group.Nat.Defs
import TwoMlsPq.Apq.Mls
import TwoMlsPq.Foundation.Effect

/-!
# The combiner group

A combiner group pairs a classical MLS group with a post-quantum one.  The two
halves attest each other's epochs (`ApqInfo`, `ApqInfoUpdate`) and the
classical half chains the post-quantum entropy in as an exported PSK.  This
module models the `apq` crate's group and component layer: the records the two
halves carry, the checks on them, the PSK stores and exporters, and the
creation and join of a send group.
-/

namespace TwoMlsPq
namespace Apq

open Foundation

/-- The errors of both crates; the session maps each combiner error to the
variant of the same name. -/
inductive TwoMlsPqError where
  | mls
  | invalidKeyPackage
  | missingWelcome
  | pqNotAvailable
  | sessionNotEstablished
  | sessionNotReady
  | proposalRejected
  | decryptionFailed
  | archiveInvalid
  | duplicateSideBand
  | cipherSuiteMismatch
  | epochDesync
  | unexpectedWelcome
  | invalidClientId
  | remoteIdentityMismatch
  | credentialRejected
  | apqInfoMismatch
  | sinkAlreadyInstalled
  | appBindingMismatch
  | duplicateWelcome
  | invitationSpent
  | bindDischargeFailed
  | bindApplyFailed
  | bootstrapKpMismatch
  | establishmentEnvelopeRequired
  | establishmentCreatorMismatch
  | establishmentEnvelopeConflict
  | staleFrame
  | bindTriggerFailed
  | attachmentComponentUnavailable
deriving DecidableEq, Repr

abbrev Result (α : Type) : Type :=
  Except TwoMlsPqError α

def orError {α : Type} (e : TwoMlsPqError) : Except MlsError α -> Result α
  | .ok a => .ok a
  | .error _ => .error e

/-!
## Cipher suites
-/

structure ApqCipherSuite where
  classical : Nat
  pq : Nat
deriving DecidableEq, Repr

def mlKem768 : Nat :=
  0xFDEA

def suiteIsPq (suite : Nat) : Option Bool :=
  if 1 <= suite ∧ suite <= 7 then some false
  else if suite = mlKem768 then some true
  else none

namespace ApqCipherSuite

def declared : ApqCipherSuite :=
  { classical := 3, pq := mlKem768 }

def validate (s : ApqCipherSuite) : Bool :=
  suiteIsPq s.classical == some false && suiteIsPq s.pq == some true

/-- Every suite the library knows signs classically, so the mode is always
confidentiality only. -/
def modeByte (_ : ApqCipherSuite) : Nat :=
  0

end ApqCipherSuite

/-!
## The attestation records
-/

/-- `u64::MAX`, the epoch a deferred half is attested at. -/
def epochUnbound : Nat :=
  2 ^ 64 - 1

def apqComponentId : Nat :=
  0xFF01

def twoMlsComponentId : Nat :=
  0xFF02

def attachmentComponentId : Nat :=
  0xFF03

/-- `attachment` -/
def attachmentLabel : Bytes :=
  [0x61, 0x74, 0x74, 0x61, 0x63, 0x68, 0x6d, 0x65, 0x6e, 0x74]

def attachmentCekLen : Nat :=
  32

namespace ApqInfo

def new (suite : ApqCipherSuite) (tGid pqGid : Bytes) (tEpoch pqEpoch : Nat) :
    ApqInfo :=
  { tSessionGroupId := tGid
    pqSessionGroupId := pqGid
    mode := suite.modeByte
    tCipherSuite := suite.classical
    pqCipherSuite := suite.pq
    tEpoch := tEpoch
    pqEpoch := pqEpoch }

def identityFieldsMatch (a b : ApqInfo) : Bool :=
  a.tSessionGroupId == b.tSessionGroupId &&
    a.pqSessionGroupId == b.pqSessionGroupId &&
    a.mode == b.mode &&
    a.tCipherSuite == b.tCipherSuite &&
    a.pqCipherSuite == b.pqCipherSuite

def checkSuites (info : ApqInfo) (expected : ApqCipherSuite) : Result Unit :=
  if info.tCipherSuite ≠ expected.classical ∨
      info.pqCipherSuite ≠ expected.pq then
    .error .cipherSuiteMismatch
  else
    let recorded : ApqCipherSuite :=
      { classical := info.tCipherSuite, pq := info.pqCipherSuite }
    if recorded.validate = false then .error .cipherSuiteMismatch
    else if info.mode ≠ recorded.modeByte then .error .apqInfoMismatch
    else .ok ()

end ApqInfo

def findApqInfoUpdate : List CustomProposal -> Result (Option ApqInfoUpdate)
  | [] => .ok none
  | [some update] => .ok (some update)
  | none :: _ => .error .mls
  | some _ :: _ :: _ => .error .apqInfoMismatch

def commitAttestation : CommitEffect -> Result (Option ApqInfoUpdate)
  | .newEpoch customs => findApqInfoUpdate customs
  | .other => .error .apqInfoMismatch

section

variable {M : MlsRs}

def readApqInfo (g : M.Group) : Result ApqInfo :=
  match M.apqInfoExtension g with
  | .ok (some info) => .ok info
  | .ok none => .error .apqInfoMismatch
  | .error _ => .error .mls

def readAppBinding (g : M.Group) : Result (Option Bytes) :=
  orError .appBindingMismatch (M.appBindingExtension g)

def verifyAppBinding (g : M.Group) (expected : Option Bytes) : Result Unit := do
  let binding <- readAppBinding g
  if binding = expected then .ok () else .error .appBindingMismatch

def verifyPqHalfUnbound (pq : M.Group) : Result Unit := do
  let binding <- readAppBinding pq
  if binding = none then .ok () else .error .appBindingMismatch

def verifyClassicalHalf (classical : M.Group) (expected : ApqCipherSuite) :
    Result ApqInfo := do
  let info <- readApqInfo classical
  info.checkSuites expected
  if info.tSessionGroupId ≠ M.groupId classical then
    .error .apqInfoMismatch
  else if info.tEpoch = epochUnbound ∨
      info.tEpoch ≠ M.currentEpoch classical then
    .error .apqInfoMismatch
  else
    .ok info

def verifyApqInfoPair (classical pq : M.Group) (expected : ApqCipherSuite) :
    Result ApqInfo := do
  let info <- verifyClassicalHalf classical expected
  let pqInfo <- readApqInfo pq
  if info.identityFieldsMatch pqInfo = false then
    .error .apqInfoMismatch
  else if info.pqSessionGroupId ≠ M.groupId pq then
    .error .apqInfoMismatch
  else if pqInfo.pqEpoch = epochUnbound ∨
      pqInfo.pqEpoch ≠ M.currentEpoch pq ∨
      info.pqEpoch ≠ M.currentEpoch pq then
    .error .apqInfoMismatch
  else
    .ok info

def verifyApqInfoDeferred (classical : M.Group) (expected : ApqCipherSuite) :
    Result ApqInfo := do
  let info <- verifyClassicalHalf classical expected
  if info.pqEpoch ≠ epochUnbound ∨ info.pqSessionGroupId = [] then
    .error .apqInfoMismatch
  else
    .ok info

def verifyDeferredPqInfo (pq : M.Group) (classicalInfo : ApqInfo)
    (expected : ApqCipherSuite) : Result Unit := do
  let pqInfo <- readApqInfo pq
  pqInfo.checkSuites expected
  if pqInfo.identityFieldsMatch classicalInfo = false then
    .error .apqInfoMismatch
  else if pqInfo.pqSessionGroupId ≠ M.groupId pq then
    .error .apqInfoMismatch
  else if pqInfo.tEpoch ≠ epochUnbound then
    .error .apqInfoMismatch
  else if pqInfo.pqEpoch = epochUnbound ∨
      pqInfo.pqEpoch ≠ M.currentEpoch pq then
    .error .apqInfoMismatch
  else
    .ok ()

/-!
## Rosters
-/

def senderClientId (g : M.Group) (leafIndex : Nat) : Result Bytes :=
  match (M.roster g).find? (fun member => member.index == leafIndex) with
  | some member =>
      match member.credential.asBasic with
      | some identifier => .ok identifier
      | none => .error .decryptionFailed
  | none => .error .decryptionFailed

def ensureTwoParty (g : M.Group) : Result Unit :=
  if (M.roster g).length = 2 then .ok () else .error .mls

def peerIndex (g : M.Group) : Nat :=
  if M.currentMemberIndex g = 0 then 1 else 0

def rosterIds (g : M.Group) : Result (List Bytes) :=
  (M.roster g).mapM fun member =>
    match member.credential.asBasic with
    | some identifier => .ok identifier
    | none => .error .apqInfoMismatch

/-- Both halves name the same two members; the source compares the sorted
identifier lists. -/
def ensureMembershipConsistent (classical pq : M.Group) : Result Unit := do
  let classicalIds <- rosterIds classical
  let pqIds <- rosterIds pq
  if classicalIds.length ≠ 2 ∨ ¬ classicalIds.Perm pqIds then
    .error .apqInfoMismatch
  else
    .ok ()

end

end Apq
end TwoMlsPq
