import TwoMlsPq.Apq.Group

/-!
# Combiner clients and send groups

The stores, exporters and constructors around a pair of MLS groups.  A client
owns one PSK store per half; a group resolves PSKs from the stores of the
client that created or joined it, so every group records which stores those
are.  The stores are shared by handle, hence one heap of stores.
-/

namespace TwoMlsPq
namespace Apq

open Foundation

/-!
## PSK stores
-/

structure StoreId where
  client : Nat
  pq : Bool
deriving DecidableEq, Repr

abbrev PskHeap : Type :=
  StoreId -> PskId -> Option Bytes

namespace PskHeap

def empty : PskHeap :=
  fun _ _ => none

def insert (h : PskHeap) (store : StoreId) (id : PskId) (psk : Bytes) : PskHeap :=
  fun st i => if st = store ∧ i = id then some psk else h st i

def delete (h : PskHeap) (store : StoreId) (id : PskId) : PskHeap :=
  fun st i => if st = store ∧ i = id then none else h st i

def register (h : PskHeap) (stores : List StoreId) (id : PskId) (psk : Bytes) :
    PskHeap :=
  stores.foldl (fun heap store => heap.insert store id psk) h

def forget (h : PskHeap) (stores : List StoreId) (id : PskId) : PskHeap :=
  stores.foldl (fun heap store => heap.delete store id) h

end PskHeap

/-- What the groups of one session share: the canonical Authentication Service
core and the PSK stores. -/
structure Services where
  auth : AuthCore
  psks : PskHeap

def Services.env (sv : Services) (store : StoreId) : MlsEnv :=
  { auth := sv.auth, psk := sv.psks store }

def Services.mapAuth (sv : Services) (f : AuthCore -> AuthCore) : Services :=
  { sv with auth := f sv.auth }

def Services.setAdopting (sv : Services) (b : Bool) : Services :=
  sv.mapAuth fun core => { core with adopting := b }

def Services.commitTheirs (sv : Services) (id : Bytes) : Services :=
  sv.mapAuth fun core => { core with theirs := core.theirs.commit id }

/-!
## Exported PSKs
-/

inductive PskDomain where
  | apq
  | crossParty
deriving DecidableEq, Repr

def PskDomain.componentId : PskDomain -> Nat
  | apq => apqComponentId
  | crossParty => twoMlsComponentId

structure ExportedPsk where
  componentId : Nat
  pskId : Bytes
  psk : Bytes
deriving DecidableEq, Repr

def ExportedPsk.storageId (e : ExportedPsk) : PskId :=
  .application e.componentId e.pskId

def pskIdLabel : Bytes :=
  [0x70, 0x73, 0x6b, 0x5f, 0x69, 0x64]

def pskLabel : Bytes :=
  [0x70, 0x73, 0x6b]

section

variable {M : MlsRs}

abbrev GroupOp (M : MlsRs) : Type -> Type :=
  Op M.Group TwoMlsPqError

def GroupOp.call {α : Type} (err : MlsError -> TwoMlsPqError)
    (f : M.Group -> Except MlsError α × M.Group) : GroupOp M α :=
  Op.ofResult fun g =>
    match f g with
    | (.ok a, g') => (.ok a, g')
    | (.error e, g') => (.error (err e), g')

def exportPsk (domain : PskDomain) : GroupOp M ExportedPsk := do
  let exporter <-
    GroupOp.call (fun _ => .mls) (M.safeExportSecret domain.componentId)
  let g <- Op.state
  let pskId <- Op.ofExcept (orError .mls (M.deriveSecret g exporter pskIdLabel))
  let psk <- Op.ofExcept (orError .mls (M.deriveSecret g exporter pskLabel))
  pure { componentId := domain.componentId, pskId := pskId, psk := psk }

def exportAttachmentComponent : GroupOp M Bytes :=
  GroupOp.call (fun _ => .mls) (M.safeExportSecret attachmentComponentId)

variable (M) in
def attachmentCek (component keyId : Bytes) : Result Bytes :=
  orError .mls (M.expandWithLabel component attachmentLabel keyId attachmentCekLen)

end

/-!
## Clients and groups
-/

structure TwoMlsPqPrincipal (M : MlsRs) where
  handle : Nat
  clientId : Bytes
  suite : ApqCipherSuite
  classicalSigner : M.Signer
  pqSigner : M.Signer
  classicalKpStore : List M.KeyPackageSecret
  pqKpStore : List M.KeyPackageSecret

namespace TwoMlsPqPrincipal

variable {M : MlsRs}

def classical (c : TwoMlsPqPrincipal M) : ClientIdentity M.Signer :=
  { identifier := c.clientId, signer := c.classicalSigner }

def pq (c : TwoMlsPqPrincipal M) : ClientIdentity M.Signer :=
  { identifier := c.clientId, signer := c.pqSigner }

def classicalPsks (c : TwoMlsPqPrincipal M) : StoreId :=
  { client := c.handle, pq := false }

def pqPsks (c : TwoMlsPqPrincipal M) : StoreId :=
  { client := c.handle, pq := true }

def stores (c : TwoMlsPqPrincipal M) : List StoreId :=
  [c.classicalPsks, c.pqPsks]

def new (handle : Nat) (clientId : Bytes) (rnd : Nat -> M.Seed) :
    Result (TwoMlsPqPrincipal M) := do
  let classicalSigner <- orError .mls (M.signatureKeyGenerate (rnd 0))
  let pqSigner <- orError .mls (M.signatureKeyGenerate (rnd 1))
  .ok
    { handle := handle
      clientId := clientId
      suite := ApqCipherSuite.declared
      classicalSigner := classicalSigner
      pqSigner := pqSigner
      classicalKpStore := []
      pqKpStore := [] }

def generateClassicalKeyPackage (c : TwoMlsPqPrincipal M) (seed : M.Seed) :
    Result (Blob M) × TwoMlsPqPrincipal M :=
  match M.generateKeyPackage c.classical c.suite.classical seed with
  | .error _ => (.error .mls, c)
  | .ok (message, secret) =>
      (orError .mls (Blob.ofMessage message),
        { c with classicalKpStore := secret :: c.classicalKpStore })

def generatePqKeyPackage (c : TwoMlsPqPrincipal M) (seed : M.Seed) :
    Result (Blob M) × TwoMlsPqPrincipal M :=
  match M.generateKeyPackage c.pq c.suite.pq seed with
  | .error _ => (.error .mls, c)
  | .ok (message, secret) =>
      (orError .mls (Blob.ofMessage message),
        { c with pqKpStore := secret :: c.pqKpStore })

def generateKeyPackage (c : TwoMlsPqPrincipal M) (suite : Nat) (seed : M.Seed) :
    Result (Blob M) × TwoMlsPqPrincipal M :=
  if suite = ApqCipherSuite.declared.classical then
    c.generateClassicalKeyPackage seed
  else if suite = ApqCipherSuite.declared.pq then c.generatePqKeyPackage seed
  else (.error .mls, c)

end TwoMlsPqPrincipal

structure CombinerGroup (M : MlsRs) where
  classical : M.Group
  pq : Option M.Group
  classicalPsks : StoreId
  pqPsks : StoreId

namespace CombinerGroup

variable {M : MlsRs}

def fromClient (client : TwoMlsPqPrincipal M) (classical : M.Group)
    (pq : Option M.Group) : CombinerGroup M :=
  { classical := classical
    pq := pq
    classicalPsks := client.classicalPsks
    pqPsks := client.pqPsks }

def setPq (cg : CombinerGroup M) (pq : M.Group) (client : TwoMlsPqPrincipal M) :
    CombinerGroup M :=
  { cg with pq := some pq, pqPsks := client.pqPsks }

def stores (cg : CombinerGroup M) : List StoreId :=
  [cg.classicalPsks, cg.pqPsks]

end CombinerGroup

structure ApqWelcome (M : MlsRs) where
  classical : Blob M
  pq : Blob M

def apqTag : UInt8 :=
  0x01

def leU32 (n : Nat) : Bytes :=
  [UInt8.ofNat n, UInt8.ofNat (n / 2 ^ 8), UInt8.ofNat (n / 2 ^ 16),
    UInt8.ofNat (n / 2 ^ 24)]

def encodeApqPair (tag : UInt8) (a b : Bytes) : Bytes :=
  tag :: (leU32 a.length ++ a ++ leU32 b.length ++ b)

def ApqWelcome.encode {M : MlsRs} (w : ApqWelcome M) : Bytes :=
  encodeApqPair apqTag w.classical.bytes w.pq.bytes

/-!
## Creating and joining
-/

structure GroupCreation where
  groupId : Bytes
  extensions : GroupExtensions
  appDataUpdate : Option ApqInfoUpdate

def GroupCreation.new (groupId : Bytes) (info : ApqInfo)
    (appDataUpdate : Option ApqInfoUpdate) : GroupCreation :=
  { groupId := groupId
    extensions := { apqInfo := some info, appBinding := none }
    appDataUpdate := appDataUpdate }

def GroupCreation.withAppBinding (c : GroupCreation) (appBinding : Option Bytes) :
    Result GroupCreation :=
  match appBinding with
  | none => .ok c
  | some [] => .error .appBindingMismatch
  | some data =>
      .ok { c with extensions := { c.extensions with appBinding := some data } }

section

variable {M : MlsRs}

structure MlsKeyPackage where
  clientId : Bytes
  cipherSuite : Nat

def parseMlsKeyPackage (kp : Blob M) : Result MlsKeyPackage :=
  match kp.parsed.bind M.intoKeyPackage with
  | some info =>
      match info.credential.asBasic with
      | some identifier =>
          .ok { clientId := identifier, cipherSuite := info.cipherSuite }
      | none => .error .invalidKeyPackage
  | none => .error .invalidKeyPackage

def keyPackageClientId (kp : Blob M) : Result Bytes := do
  let parsed <- parseMlsKeyPackage kp
  .ok parsed.clientId

/-- Create a group, commit the one Add that completes it, and hand out the
welcome.  The group is local until it is returned, so a failure drops it. -/
def createGroupWithMember (env : MlsEnv) (client : ClientIdentity M.Signer)
    (suite : Nat) (theirKp : Blob M) (psks : List ExportedPsk)
    (creation : GroupCreation) (rnd : Nat -> M.Seed) :
    Result (M.Group × Blob M) := do
  let group <-
    orError .mls
      (M.createGroupWithId env client suite creation.groupId creation.extensions
        (rnd 0))
  match theirKp.parsed with
  | none => .error .invalidKeyPackage
  | some kp =>
      match
        M.buildCommit env
          { addMember := some kp
            psks := psks.map ExportedPsk.storageId
            customProposal := creation.appDataUpdate
            newSigningIdentity := none }
          (rnd 1) group
      with
      | (.error _, _) => .error .mls
      | (.ok output, built) =>
          match M.applyPendingCommit env built with
          | (.error _, _) => .error .mls
          | (.ok _, applied) =>
              match output.welcomeMessages with
              | [] => .error .missingWelcome
              | welcome :: _ =>
                  match Blob.ofMessage welcome with
                  | .error _ => .error .mls
                  | .ok bytes => .ok (applied, bytes)

def joinGroupFromWelcome (env : MlsEnv) (client : ClientIdentity M.Signer)
    (kpStore : List M.KeyPackageSecret) (welcome : Blob M) : Result M.Group :=
  match welcome.parsed with
  | none => .error .mls
  | some message =>
      match M.joinGroup env client kpStore message with
      | .error _ => .error .mls
      | .ok group =>
          match ensureTwoParty group with
          | .error e => .error e
          | .ok _ => .ok group

/-!
The three constructors below run against the client's own view of the
Authentication Service and its own PSK stores, so they carry `Services` as
their state.
-/

abbrev ServiceOp : Type -> Type :=
  Op Services TwoMlsPqError

def onLocalGroup {α : Type} (g : M.Group) (x : GroupOp M α) :
    ServiceOp (α × M.Group) :=
  match x.run g with
  | (.ok a, g') => pure (a, g')
  | (.error e, _) => Op.fail e

def exportAndRegisterPsk (client : TwoMlsPqPrincipal M) (domain : PskDomain)
    (g : M.Group) : ServiceOp (ExportedPsk × M.Group) := do
  let (exported, g') <- onLocalGroup g (exportPsk domain)
  Op.update fun sv =>
    { sv with
      psks := sv.psks.register client.stores exported.storageId exported.psk }
  pure (exported, g')

def createCombinerSendGroup (classicalKp pqKp : Blob M)
    (client : TwoMlsPqPrincipal M) (appBinding : Option Bytes)
    (rnd : Nat -> M.Seed) :
    ServiceOp (CombinerGroup M × ApqWelcome M) := do
  let peerId <- Op.ofExcept (keyPackageClientId pqKp)
  Op.update fun sv => sv.commitTheirs peerId
  let tGid <- Op.ofExcept (orError .mls (M.randomGroupId (rnd 0)))
  let pqGid <- Op.ofExcept (orError .mls (M.randomGroupId (rnd 1)))
  let info := ApqInfo.new client.suite tGid pqGid 1 1
  let attestation : ApqInfoUpdate := { tEpoch := 1, pqEpoch := 1 }
  let sv <- Op.state
  let (pqGroup, pqWelcome) <-
    Op.ofExcept
      (createGroupWithMember (sv.env client.pqPsks) client.pq client.suite.pq
        pqKp [] (GroupCreation.new pqGid info (some attestation))
        (fun n => rnd (n + 2)))
  let (apqPsk, pqGroup) <- exportAndRegisterPsk client .apq pqGroup
  let creation <-
    Op.ofExcept
      ((GroupCreation.new tGid info (some attestation)).withAppBinding appBinding)
  let sv <- Op.state
  let (classicalGroup, classicalWelcome) <-
    Op.ofExcept
      (createGroupWithMember (sv.env client.classicalPsks) client.classical
        client.suite.classical classicalKp [apqPsk] creation
        (fun n => rnd (n + 4)))
  pure
    (CombinerGroup.fromClient client classicalGroup (some pqGroup),
      { classical := classicalWelcome, pq := pqWelcome })

/-- The two joins of a full welcome, between raising and lowering `adopting`. -/
def joinHalves (classicalWelcome pqWelcome : Blob M)
    (client : TwoMlsPqPrincipal M) : ServiceOp (CombinerGroup M) := do
  let sv <- Op.state
  let pq <-
    Op.ofExcept
      (joinGroupFromWelcome (sv.env client.pqPsks) client.pq client.pqKpStore
        pqWelcome)
  let (_, pq) <- exportAndRegisterPsk client .apq pq
  let sv <- Op.state
  let classical <-
    Op.ofExcept
      (joinGroupFromWelcome (sv.env client.classicalPsks) client.classical
        client.classicalKpStore classicalWelcome)
  pure (CombinerGroup.fromClient client classical (some pq))

def joinCombinerGroupFromHalves (classicalWelcome pqWelcome : Blob M)
    (client : TwoMlsPqPrincipal M) : ServiceOp (CombinerGroup M) := do
  Op.update fun sv => sv.setAdopting true
  let joined <- Op.attempt (joinHalves classicalWelcome pqWelcome client)
  Op.update fun sv => sv.setAdopting false
  let group <- Op.ofExcept joined
  let pq <- Op.ofOption group.pq .mls
  let _ <- Op.ofExcept (verifyApqInfoPair group.classical pq client.suite)
  Op.ofExcept (ensureMembershipConsistent group.classical pq)
  let creator <-
    Op.ofExcept (senderClientId group.classical (peerIndex group.classical))
  Op.update fun sv => sv.commitTheirs creator
  pure group

def createBoundClassicalSendGroup (classicalKp : Blob M)
    (client : TwoMlsPqPrincipal M) (recvClassical : M.Group)
    (appBinding : Option Bytes) (rnd : Nat -> M.Seed) :
    ServiceOp (CombinerGroup M × Blob M × M.Group) := do
  let peerId <- Op.ofExcept (keyPackageClientId classicalKp)
  Op.update fun sv => sv.commitTheirs peerId
  let (pskCross, recvClassical) <-
    exportAndRegisterPsk client .crossParty recvClassical
  let tGid <- Op.ofExcept (orError .mls (M.randomGroupId (rnd 0)))
  let pqGid <- Op.ofExcept (orError .mls (M.randomGroupId (rnd 1)))
  let info := ApqInfo.new client.suite tGid pqGid 1 epochUnbound
  let creation <-
    Op.ofExcept ((GroupCreation.new tGid info none).withAppBinding appBinding)
  let sv <- Op.state
  let (classicalGroup, classicalWelcome) <-
    Op.ofExcept
      (createGroupWithMember (sv.env client.classicalPsks) client.classical
        client.suite.classical classicalKp [pskCross] creation
        (fun n => rnd (n + 2)))
  pure
    (CombinerGroup.fromClient client classicalGroup none, classicalWelcome,
      recvClassical)

end

end Apq
end TwoMlsPq
