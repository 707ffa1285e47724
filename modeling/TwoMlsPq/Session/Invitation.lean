import Mathlib.Data.List.AList
import Mathlib.Data.List.Dedup
import TwoMlsPq.Session.World

/-!
# Invitations

An invitation holds the private half of one published key package and turns the
welcome of a remote initiator into a session.  Everything it must remember to do
so at most once is persisted: the remotes it answered, the welcomes it processed,
and where a replay of either is to be routed.  `receive` checks, joins and only
then writes, so a refused welcome leaves the invitation as it was.
-/

namespace TwoMlsPq
namespace Session

open Foundation Apq

/-!
## The persisted state
-/

/-- A routing table: an opaque key and the receive group of the session spawned
for it. -/
abbrev GroupTable : Type :=
  AList fun _ : Bytes => Bytes

abbrev SpawnedGroups : Type :=
  GroupTable

abbrev ProcessedWelcomes : Type :=
  GroupTable

abbrev BootstrapCommitments : Type :=
  GroupTable

abbrev ConsumedRemotes : Type :=
  { ids : List Bytes // ids.Nodup }

def ConsumedRemotes.insert (remotes : ConsumedRemotes) (id : Bytes) :
    ConsumedRemotes :=
  ⟨remotes.val.insert id, remotes.property.insert⟩

section

variable (M : MlsRs)

structure CombinerInvitation where
  clientId : Bytes
  classicalSigningKey : M.Signer
  pqSigningKey : M.Signer
  classicalPublic : Blob M
  pqPublic : Blob M
  lastResort : Bool
  classicalKpd : Option M.KeyPackageSecret
  pqKpd : Option M.KeyPackageSecret

structure InvitationInner where
  invitation : CombinerInvitation M
  consumed : ConsumedRemotes
  spawned : SpawnedGroups
  processed : ProcessedWelcomes
  bootstrapCommitments : BootstrapCommitments
  stateSeq : Nat

structure FramedInvitation where
  version : Nat
  suite : ApqCipherSuite
  fields : CombinerInvitation M

structure InvitationEntry where
  key : Bytes
  classical : Bytes

structure InvitationArchive where
  stateSeq : Nat
  invitation : FramedInvitation M
  consumed : List Bytes
  spawned : List InvitationEntry
  processed : List InvitationEntry
  bootstrapCommitments : List InvitationEntry

structure TwoMlsPqInvitation where
  inner : InvitationInner M
  sinkInstalled : Bool
  pushed : List (Nat × InvitationArchive M)

end

section

variable {M : MlsRs}

def invitationVersion : Nat :=
  2

def CombinerInvitation.encode (inv : CombinerInvitation M) : FramedInvitation M :=
  { version := invitationVersion, suite := ApqCipherSuite.declared, fields := inv }

def CombinerInvitation.decode (framed : FramedInvitation M) :
    Result (CombinerInvitation M) :=
  if framed.version = invitationVersion ∧ framed.suite = ApqCipherSuite.declared then
    .ok framed.fields
  else
    .error .archiveInvalid

def GroupTable.toEntries (table : GroupTable) : List InvitationEntry :=
  table.entries.reverse.map fun entry => { key := entry.1, classical := entry.2 }

def GroupTable.ofEntries (entries : List InvitationEntry) : GroupTable :=
  (entries.reverse.map fun entry =>
    (⟨entry.key, entry.classical⟩ : Sigma fun _ => Bytes)).toAList

def encodeInvitation (inner : InvitationInner M) : InvitationArchive M :=
  { stateSeq := inner.stateSeq
    invitation := inner.invitation.encode
    consumed := inner.consumed.val
    spawned := GroupTable.toEntries inner.spawned
    processed := GroupTable.toEntries inner.processed
    bootstrapCommitments := GroupTable.toEntries inner.bootstrapCommitments }

def decodeInvitation (archive : InvitationArchive M) : Result (InvitationInner M) := do
  let invitation <- CombinerInvitation.decode archive.invitation
  .ok
    { invitation := invitation
      consumed := ⟨archive.consumed.dedup, archive.consumed.nodup_dedup⟩
      spawned := GroupTable.ofEntries archive.spawned
      processed := GroupTable.ofEntries archive.processed
      bootstrapCommitments := GroupTable.ofEntries archive.bootstrapCommitments
      stateSeq := archive.stateSeq }

theorem dedupKeys_of_nodupKeys {l : List (Sigma fun _ : Bytes => Bytes)}
    (h : l.NodupKeys) : l.dedupKeys = l := by
  induction l with
  | nil => rfl
  | cons entry rest ih =>
      have hparts := List.nodupKeys_cons.mp h
      rw [List.dedupKeys_cons, ih hparts.2, List.kinsert_def,
        List.kerase_of_notMem_keys hparts.1]

theorem GroupTable.ofEntries_toEntries (table : GroupTable) :
    GroupTable.ofEntries (GroupTable.toEntries table) = table := by
  apply AList.ext
  unfold GroupTable.ofEntries GroupTable.toEntries
  rw [← List.map_reverse, List.reverse_reverse, List.map_map]
  have hmap : List.map ((fun entry : InvitationEntry =>
      (⟨entry.key, entry.classical⟩ : Sigma fun _ => Bytes)) ∘
        fun entry => { key := entry.1, classical := entry.2 }) table.entries =
          table.entries := List.map_id' _
  rw [hmap]
  exact dedupKeys_of_nodupKeys table.nodupKeys

theorem decodeInvitation_encodeInvitation (inner : InvitationInner M) :
    decodeInvitation (encodeInvitation inner) = .ok inner := by
  have hdecode : CombinerInvitation.decode inner.invitation.encode =
      .ok inner.invitation := if_pos ⟨rfl, rfl⟩
  have hconsumed : inner.consumed.val.dedup = inner.consumed.val :=
    inner.consumed.property.dedup
  simp only [decodeInvitation, encodeInvitation, hdecode, hconsumed,
    GroupTable.ofEntries_toEntries, bind, Except.bind]

/-!
## Making, restoring and watching an invitation
-/

/-- `generate_combiner_invitation`: one key package in each half, whose private
parts leave the client for the invitation. -/
def generateCombinerInvitation (client : TwoMlsPqPrincipal M) (lastResort : Bool)
    (rnd : Nat -> M.Seed) : Result (CombinerInvitation M) := do
  let (classical, classicalKpd) <-
    orError .mls (M.generateKeyPackage client.classical client.suite.classical (rnd 0))
  let classicalPublic <- orError .mls (Blob.ofMessage classical)
  let (pq, pqKpd) <-
    orError .mls (M.generateKeyPackage client.pq client.suite.pq (rnd 1))
  let pqPublic <- orError .mls (Blob.ofMessage pq)
  .ok
    { clientId := client.clientId
      classicalSigningKey := client.classicalSigner
      pqSigningKey := client.pqSigner
      classicalPublic := classicalPublic
      pqPublic := pqPublic
      lastResort := lastResort
      classicalKpd := some classicalKpd
      pqKpd := some pqKpd }

def generateInvitation (client : TwoMlsPqPrincipal M) (lastResort : Bool)
    (rnd : Nat -> M.Seed) : Result (InvitationArchive M) := do
  let invitation <- generateCombinerInvitation client lastResort rnd
  .ok
    (encodeInvitation
      { invitation := invitation
        consumed := ⟨[], List.nodup_nil⟩
        spawned := ∅
        processed := ∅
        bootstrapCommitments := ∅
        stateSeq := 0 })

namespace TwoMlsPqInvitation

def restore (archive : InvitationArchive M) : Result (TwoMlsPqInvitation M) := do
  let inner <- decodeInvitation archive
  .ok { inner := inner, sinkInstalled := false, pushed := [] }

def archive (t : TwoMlsPqInvitation M) : InvitationArchive M :=
  encodeInvitation t.inner

def forwardGroupId (t : TwoMlsPqInvitation M) (spawnToken : Bytes) : Option Bytes :=
  t.inner.spawned.lookup spawnToken

def processedWelcomeGroupId (t : TwoMlsPqInvitation M) (welcome : Bytes) :
    Option Bytes :=
  t.inner.processed.lookup (M.sha256 welcome)

def bootstrapKpGroupId (t : TwoMlsPqInvitation M) : Bytes -> Option Bytes
  | [] => none
  | tag :: kp =>
      if tag = 0x13 then t.inner.bootstrapCommitments.lookup (M.sha256 kp) else none

theorem bootstrapKpGroupId_tagged (t : TwoMlsPqInvitation M) (kp : Bytes) :
    t.bootstrapKpGroupId (0x13 :: kp) =
      t.inner.bootstrapCommitments.lookup (M.sha256 kp) := by
  simp [bootstrapKpGroupId]

def checkpoint (t : TwoMlsPqInvitation M) : TwoMlsPqInvitation M :=
  { t with pushed := t.pushed ++ [(t.inner.stateSeq, encodeInvitation t.inner)] }

end TwoMlsPqInvitation

abbrev InvitationOp (M : MlsRs) (α : Type) : Type :=
  Op (TwoMlsPqInvitation M) TwoMlsPqError α

def installInvitationSink : InvitationOp M Unit := do
  let t <- Op.state
  Op.ensure (t.sinkInstalled = false) .sinkAlreadyInstalled
  Op.update fun t => { t with sinkInstalled := true }
  Op.update TwoMlsPqInvitation.checkpoint

/-!
## Receiving a welcome
-/

variable (M) in
structure ReceiveArgs where
  welcome : WelcomeBytes M
  theirClassicalKeyPackage : Blob M
  bootstrapKpCommitment : Bytes
  spawnToken : Bytes
  newClientId : Option Bytes
  expectedRemote : Option Bytes
  expectedAppBinding : Option Bytes

def combinerFromInvitation (inv : CombinerInvitation M) :
    Result (TwoMlsPqPrincipal M) :=
  match inv.classicalKpd, inv.pqKpd with
  | some classicalKpd, some pqKpd =>
      .ok
        { handle := 0
          clientId := inv.clientId
          suite := ApqCipherSuite.declared
          classicalSigner := inv.classicalSigningKey
          pqSigner := inv.pqSigningKey
          classicalKpStore := [classicalKpd]
          pqKpStore := [pqKpd] }
  | _, _ => .error .invitationSpent

def freshServices (clientId : Bytes) : Services :=
  { auth := AuthCore.seeded clientId, psks := PskHeap.empty }

/-- The dedicated principal of the session, where the caller names an id other
than the invitation's. -/
def mintSessionClient (invitationId : Bytes) (newClientId : Option Bytes)
    (rnd : Nat -> M.Seed) : Result (Option (TwoMlsPqPrincipal M × Services)) :=
  match newClientId.filter fun id => id ≠ invitationId with
  | some id => do
      let client <- TwoMlsPqPrincipal.new 1 id rnd
      .ok (some (client, freshServices id))
  | none => .ok none

/-- The validations that need no lock.  They return the identity the key package
names. -/
def validateReceive (args : ReceiveArgs M) : Result Bytes :=
  if args.newClientId = some [] then .error .invalidClientId
  else if args.expectedAppBinding = some [] then .error .appBindingMismatch
  else do
    let their <- parseMlsKeyPackage args.theirClassicalKeyPackage
    if args.expectedRemote.any fun expected => expected ≠ their.clientId then
      .error .remoteIdentityMismatch
    else .ok their.clientId

def establishFromInvitation (inv : CombinerInvitation M)
    (sessionClient : Option (TwoMlsPqPrincipal M × Services)) (args : ReceiveArgs M)
    (rnd : Nat -> M.Seed) : Result (SessionInner M) := do
  let client <- combinerFromInvitation inv
  acceptWith client sessionClient (freshServices inv.clientId) args.welcome
    args.theirClassicalKeyPackage args.bootstrapKpCommitment (some args.spawnToken)
    args.expectedAppBinding rnd

def receiveGroupId (s : SessionInner M) : Option Bytes :=
  s.recvGroup.map fun recv => M.groupId recv.classical

def consumeKeyPackages (inv : CombinerInvitation M) : CombinerInvitation M :=
  if inv.lastResort then inv else { inv with classicalKpd := none, pqKpd := none }

/-- The commit point: every write of an accepted welcome. -/
def recordSpawn (args : ReceiveArgs M) (theirId gid : Bytes)
    (inner : InvitationInner M) : InvitationInner M :=
  { inner with
    consumed := inner.consumed.insert theirId
    spawned := inner.spawned.insert args.spawnToken gid
    bootstrapCommitments :=
      inner.bootstrapCommitments.insert args.bootstrapKpCommitment gid
    processed := inner.processed.insert (M.sha256 args.welcome.bytes) gid
    invitation := consumeKeyPackages inner.invitation }

def bumpAndPush (t : TwoMlsPqInvitation M) : TwoMlsPqInvitation M :=
  if t.inner.stateSeq < maxSeq then
    let bumped := { t with inner := { t.inner with stateSeq := t.inner.stateSeq + 1 } }
    if bumped.sinkInstalled then bumped.checkpoint else bumped
  else
    t

def examineWelcome (args : ReceiveArgs M) (rnd : Nat -> M.Seed) :
    InvitationOp M (SessionInner M × Bytes × Bytes) := do
  let theirId <- Op.ofExcept (validateReceive args)
  let t <- Op.state
  let sessionClient <-
    Op.ofExcept (mintSessionClient t.inner.invitation.clientId args.newClientId rnd)
  Op.ensure (M.sha256 args.welcome.bytes ∉ t.inner.processed) .duplicateWelcome
  Op.ensure (t.inner.invitation.classicalKpd.isSome) .invitationSpent
  Op.ensure (theirId ∉ t.inner.consumed.val) .duplicateWelcome
  let session <-
    Op.ofExcept (establishFromInvitation t.inner.invitation sessionClient args
      fun n => rnd (n + 2))
  let gid <- Op.ofOption (receiveGroupId session) .mls
  pure (session, theirId, gid)

def receive (args : ReceiveArgs M) (rnd : Nat -> M.Seed) :
    InvitationOp M (SessionInner M) := do
  let (session, theirId, gid) <- examineWelcome args rnd
  Op.update fun t => { t with inner := recordSpawn args theirId gid t.inner }
  Op.update bumpAndPush
  pure session

/-!
## What one call does
-/

theorem still_examineWelcome (args : ReceiveArgs M) (rnd : Nat -> M.Seed) :
    Op.Still (examineWelcome args rnd) := by
  unfold examineWelcome
  apply Op.Still.bind (Op.Still.ofExcept _)
  intro theirId
  apply Op.Still.bind Op.Still.state
  intro t
  apply Op.Still.bind (Op.Still.ofExcept _)
  intro sessionClient
  apply Op.Still.bind (Op.Still.ensure _ _)
  intro _
  apply Op.Still.bind (Op.Still.ensure _ _)
  intro _
  apply Op.Still.bind (Op.Still.ensure _ _)
  intro _
  apply Op.Still.bind (Op.Still.ofExcept _)
  intro session
  apply Op.Still.bind (Op.Still.ofOption _ _)
  intro gid
  exact Op.Still.value _

/-- What an invitation checked of a welcome that it turned into a session. -/
structure Examined (t : TwoMlsPqInvitation M) (args : ReceiveArgs M)
    (session : SessionInner M) (theirId gid : Bytes) : Prop where
  validated : validateReceive args = .ok theirId
  unprocessed : M.sha256 args.welcome.bytes ∉ t.inner.processed
  held : t.inner.invitation.classicalKpd.isSome = true
  unanswered : theirId ∉ t.inner.consumed.val
  joined : receiveGroupId session = some gid

theorem examineWelcome_ok {args : ReceiveArgs M} {rnd : Nat -> M.Seed}
    {t t' : TwoMlsPqInvitation M} {session : SessionInner M} {theirId gid : Bytes}
    (h : (examineWelcome args rnd).run t = (.ok (session, theirId, gid), t')) :
    Examined t args session theirId gid := by
  unfold examineWelcome at h
  rcases Op.bind_ok h with ⟨found, t₁, hrun, h⟩
  rcases Op.ofExcept_ok hrun with ⟨hvalidated, rfl⟩
  rcases Op.bind_ok h with ⟨seen, t₂, hseen, h⟩
  cases hseen
  rcases Op.bind_ok h with ⟨sessionClient, t₃, hrun, h⟩
  rcases Op.ofExcept_ok hrun with ⟨-, rfl⟩
  rcases Op.bind_ok h with ⟨_, t₄, hrun, h⟩
  rcases Op.ensure_ok hrun with ⟨hfresh, rfl⟩
  rcases Op.bind_ok h with ⟨_, t₅, hrun, h⟩
  rcases Op.ensure_ok hrun with ⟨hheld, rfl⟩
  rcases Op.bind_ok h with ⟨_, t₆, hrun, h⟩
  rcases Op.ensure_ok hrun with ⟨hanswered, rfl⟩
  rcases Op.bind_ok h with ⟨spawned, t₇, hrun, h⟩
  rcases Op.ofExcept_ok hrun with ⟨-, rfl⟩
  rcases Op.bind_ok h with ⟨joined, t₈, hrun, h⟩
  rcases Op.ofOption_ok hrun with ⟨hjoined, rfl⟩
  cases h
  exact ⟨hvalidated, hfresh, hheld, hanswered, hjoined⟩

def afterReceive (args : ReceiveArgs M) (theirId gid : Bytes)
    (t : TwoMlsPqInvitation M) : TwoMlsPqInvitation M :=
  bumpAndPush { t with inner := recordSpawn args theirId gid t.inner }

theorem receive_cases (args : ReceiveArgs M) (rnd : Nat -> M.Seed)
    (t : TwoMlsPqInvitation M) :
    (exists e, (receive args rnd).run t = (.error e, t)) ∨
      exists session theirId gid,
        Examined t args session theirId gid ∧
          (receive args rnd).run t =
            (.ok session, afterReceive args theirId gid t) := by
  unfold receive
  rw [Op.run_bind]
  rcases hexamine : (examineWelcome args rnd).run t with ⟨r, t'⟩
  have hstill : t' = t := by
    have := still_examineWelcome args rnd t
    rw [hexamine] at this
    exact this
  subst hstill
  cases r with
  | error e => exact Or.inl ⟨e, rfl⟩
  | ok found =>
      rcases found with ⟨session, theirId, gid⟩
      exact Or.inr ⟨session, theirId, gid, examineWelcome_ok hexamine, rfl⟩

theorem receive_refused {args : ReceiveArgs M} {rnd : Nat -> M.Seed}
    {t : TwoMlsPqInvitation M} {theirId : Bytes}
    {sessionClient : Option (TwoMlsPqPrincipal M × Services)}
    (hvalidated : validateReceive args = .ok theirId)
    (hminted :
      mintSessionClient t.inner.invitation.clientId args.newClientId rnd =
        .ok sessionClient)
    (hspent : t.inner.invitation.classicalKpd = none) :
    (receive args rnd).run t = (.error .duplicateWelcome, t) ∨
      (receive args rnd).run t = (.error .invitationSpent, t) := by
  have hrun : (examineWelcome args rnd).run t = (.error .duplicateWelcome, t) ∨
      (examineWelcome args rnd).run t = (.error .invitationSpent, t) := by
    unfold examineWelcome
    rw [hvalidated, Op.run_bind_ok (Op.run_ofExcept _ t),
      Op.run_bind_ok (Op.run_state t), hminted,
      Op.run_bind_ok (Op.run_ofExcept _ t)]
    by_cases hfresh : M.sha256 args.welcome.bytes ∉ t.inner.processed
    · rw [Op.run_bind_ok (Op.run_ensure hfresh _ t)]
      have hgone : ¬ t.inner.invitation.classicalKpd.isSome = true := by
        rw [hspent]
        simp
      exact Or.inr (Op.run_bind_error (Op.run_ensure_not hgone _ t))
    · exact Or.inl (Op.run_bind_error (Op.run_ensure_not hfresh _ t))
  unfold receive
  exact hrun.imp Op.run_bind_error Op.run_bind_error

/-!
## The tables of an accepted welcome
-/

theorem bumpAndPush_inner (t : TwoMlsPqInvitation M) :
    exists seq, (bumpAndPush t).inner = { t.inner with stateSeq := seq } := by
  unfold bumpAndPush
  by_cases hseq : t.inner.stateSeq < maxSeq
  · rw [if_pos hseq]
    exists t.inner.stateSeq + 1
    cases hsink : t.sinkInstalled with
    | true => simp [TwoMlsPqInvitation.checkpoint]
    | false => simp
  · rw [if_neg hseq]
    exact ⟨_, rfl⟩

theorem afterReceive_inner (args : ReceiveArgs M) (theirId gid : Bytes)
    (t : TwoMlsPqInvitation M) :
    exists seq,
      (afterReceive args theirId gid t).inner =
        { recordSpawn args theirId gid t.inner with stateSeq := seq } :=
  bumpAndPush_inner _

/-- All three keys of an accepted welcome lead to one group. -/
structure Resolves (t : TwoMlsPqInvitation M) (args : ReceiveArgs M) (gid : Bytes) :
    Prop where
  token : t.forwardGroupId args.spawnToken = some gid
  welcome : t.processedWelcomeGroupId args.welcome.bytes = some gid
  commitment :
    forall kp, M.sha256 kp = args.bootstrapKpCommitment ->
      t.bootstrapKpGroupId (0x13 :: kp) = some gid

theorem afterReceive_resolves (args : ReceiveArgs M) (theirId gid : Bytes)
    (t : TwoMlsPqInvitation M) :
    Resolves (afterReceive args theirId gid t) args gid := by
  rcases afterReceive_inner args theirId gid t with ⟨seq, hinner⟩
  constructor
  · unfold TwoMlsPqInvitation.forwardGroupId
    rw [hinner]
    exact AList.lookup_insert _
  · unfold TwoMlsPqInvitation.processedWelcomeGroupId
    rw [hinner]
    exact AList.lookup_insert _
  · intro kp hkp
    rw [TwoMlsPqInvitation.bootstrapKpGroupId_tagged, hkp, hinner]
    exact AList.lookup_insert _

/-!
## Histories
-/

variable (M) in
/-- An invitation with the calls it has turned into sessions. -/
structure InvitationHistory where
  invitation : TwoMlsPqInvitation M
  spawns : List (ReceiveArgs M × SessionInner M)

variable (M) in
inductive InvitationAction where
  | receive (args : ReceiveArgs M) (rnd : Nat -> M.Seed)
  | installSink
  | restart

def ReceiveArgs.remote (args : ReceiveArgs M) : Option Bytes :=
  (parseMlsKeyPackage args.theirClassicalKeyPackage).toOption.map
    MlsKeyPackage.clientId

namespace InvitationHistory

def start (t : TwoMlsPqInvitation M) : InvitationHistory M :=
  { invitation := t, spawns := [] }

def act (h : InvitationHistory M) : InvitationAction M -> InvitationHistory M
  | .receive args rnd =>
      match (Session.receive args rnd).run h.invitation with
      | (.ok session, t) =>
          { invitation := t, spawns := h.spawns ++ [(args, session)] }
      | (.error _, t) => { h with invitation := t }
  | .installSink =>
      { h with invitation := (installInvitationSink.run h.invitation).2 }
  | .restart =>
      match TwoMlsPqInvitation.restore h.invitation.archive with
      | .ok t => { h with invitation := t }
      | .error _ => h

def remotes (h : InvitationHistory M) : List (Option Bytes) :=
  h.spawns.map fun spawn => spawn.1.remote

def welcomes (h : InvitationHistory M) : List Bytes :=
  h.spawns.map fun spawn => spawn.1.welcome.bytes

end InvitationHistory

/-- What an invitation remembers of the sessions it has spawned. -/
structure Remembers (lastResort : Bool) (h : InvitationHistory M) : Prop where
  answered :
    forall spawn, spawn ∈ h.spawns ->
      exists id, spawn.1.remote = some id ∧ id ∈ h.invitation.inner.consumed.val
  processed :
    forall spawn, spawn ∈ h.spawns ->
      M.sha256 spawn.1.welcome.bytes ∈ h.invitation.inner.processed
  remotes : h.remotes.Nodup
  welcomes : h.welcomes.Nodup
  lifetime : h.invitation.inner.invitation.lastResort = lastResort
  spent :
    lastResort = false -> h.spawns ≠ [] ->
      h.spawns.length = 1 ∧ h.invitation.inner.invitation.classicalKpd = none

theorem ReceiveArgs.remote_of_validated {args : ReceiveArgs M} {theirId : Bytes}
    (h : validateReceive args = .ok theirId) :
    args.remote = some theirId := by
  unfold validateReceive at h
  split at h
  · cases h
  split at h
  · cases h
  unfold ReceiveArgs.remote
  cases hparse : parseMlsKeyPackage args.theirClassicalKeyPackage with
  | error e =>
      rw [hparse] at h
      cases h
  | ok their =>
      rw [hparse] at h
      simp only [bind, Except.bind] at h
      split at h
      · cases h
      · cases h
        rfl

theorem ConsumedRemotes.mem_insert {remotes : ConsumedRemotes} {id id' : Bytes} :
    id ∈ (remotes.insert id').val ↔ id = id' ∨ id ∈ remotes.val :=
  List.mem_insert_iff

namespace Remembers

variable {lastResort : Bool} {h : InvitationHistory M}

theorem congr {t : TwoMlsPqInvitation M} (hr : Remembers lastResort h)
    (hinner : t.inner = h.invitation.inner) :
    Remembers lastResort { h with invitation := t } := by
  constructor
  · show forall spawn, spawn ∈ h.spawns ->
      exists id, spawn.1.remote = some id ∧ id ∈ t.inner.consumed.val
    rw [hinner]
    exact hr.answered
  · show forall spawn, spawn ∈ h.spawns ->
      M.sha256 spawn.1.welcome.bytes ∈ t.inner.processed
    rw [hinner]
    exact hr.processed
  · exact hr.remotes
  · exact hr.welcomes
  · show t.inner.invitation.lastResort = lastResort
    rw [hinner]
    exact hr.lifetime
  · show lastResort = false -> h.spawns ≠ [] ->
      h.spawns.length = 1 ∧ t.inner.invitation.classicalKpd = none
    rw [hinner]
    exact hr.spent

theorem remote_fresh {args : ReceiveArgs M} {theirId : Bytes}
    (hr : Remembers lastResort h) (hremote : args.remote = some theirId)
    (hfresh : theirId ∉ h.invitation.inner.consumed.val) :
    args.remote ∉ h.remotes := by
  intro hmem
  rcases List.mem_map.mp hmem with ⟨spawn, hspawn, heq⟩
  rcases hr.answered spawn hspawn with ⟨id, hid, hconsumed⟩
  have hsame : id = theirId := by
    rw [heq, hremote] at hid
    exact (Option.some.inj hid).symm
  rw [hsame] at hconsumed
  exact hfresh hconsumed

theorem welcome_fresh {args : ReceiveArgs M} (hr : Remembers lastResort h)
    (hfresh : M.sha256 args.welcome.bytes ∉ h.invitation.inner.processed) :
    args.welcome.bytes ∉ h.welcomes := by
  intro hmem
  rcases List.mem_map.mp hmem with ⟨spawn, hspawn, heq⟩
  have hprocessed := hr.processed spawn hspawn
  rw [heq] at hprocessed
  exact hfresh hprocessed

theorem unspent (hr : Remembers lastResort h) (hsingle : lastResort = false)
    (hheld : h.invitation.inner.invitation.classicalKpd.isSome = true) :
    h.spawns = [] := by
  by_cases hnil : h.spawns = []
  · exact hnil
  · have hnone := (hr.spent hsingle hnil).2
    rw [hnone] at hheld
    cases hheld

theorem nodup_concat {α : Type} {l : List α} {a : α} (hl : l.Nodup) (ha : a ∉ l) :
    (l ++ [a]).Nodup := by
  rw [← List.concat_eq_append]
  exact hl.concat ha

theorem spawned {args : ReceiveArgs M} {session : SessionInner M}
    {theirId gid : Bytes} (hr : Remembers lastResort h)
    (hexamined : Examined h.invitation args session theirId gid) :
    Remembers lastResort
      { invitation := afterReceive args theirId gid h.invitation
        spawns := h.spawns ++ [(args, session)] } := by
  have hremote := ReceiveArgs.remote_of_validated hexamined.validated
  rcases afterReceive_inner args theirId gid h.invitation with ⟨seq, hinner⟩
  constructor
  · intro spawn hspawn
    rw [hinner]
    rcases List.mem_append.mp hspawn with hold | hnew
    · rcases hr.answered spawn hold with ⟨id, hid, hconsumed⟩
      exact ⟨id, hid, ConsumedRemotes.mem_insert.mpr (Or.inr hconsumed)⟩
    · rcases List.mem_singleton.mp hnew with rfl
      exact ⟨theirId, hremote, ConsumedRemotes.mem_insert.mpr (Or.inl rfl)⟩
  · intro spawn hspawn
    rw [hinner]
    rcases List.mem_append.mp hspawn with hold | hnew
    · exact (AList.mem_insert _).mpr (Or.inr (hr.processed spawn hold))
    · rcases List.mem_singleton.mp hnew with rfl
      exact (AList.mem_insert _).mpr (Or.inl rfl)
  · show ((h.spawns ++ [(args, session)]).map fun spawn => spawn.1.remote).Nodup
    rw [List.map_append]
    exact nodup_concat hr.remotes (hr.remote_fresh hremote hexamined.unanswered)
  · show ((h.spawns ++ [(args, session)]).map
      fun spawn => spawn.1.welcome.bytes).Nodup
    rw [List.map_append]
    exact nodup_concat hr.welcomes (hr.welcome_fresh hexamined.unprocessed)
  · rw [hinner]
    show (consumeKeyPackages h.invitation.inner.invitation).lastResort = lastResort
    unfold consumeKeyPackages
    split
    · exact hr.lifetime
    · exact hr.lifetime
  · intro hsingle _
    rw [hinner, hr.unspent hsingle hexamined.held]
    have hdropped : h.invitation.inner.invitation.lastResort = false := by
      rw [hr.lifetime]
      exact hsingle
    constructor
    · rfl
    · show (consumeKeyPackages h.invitation.inner.invitation).classicalKpd = none
      unfold consumeKeyPackages
      rw [hdropped]
      rfl

end Remembers

theorem installInvitationSink_inner (t : TwoMlsPqInvitation M) :
    (installInvitationSink.run t).2.inner = t.inner := by
  unfold installInvitationSink
  rw [Op.run_bind_ok (Op.run_state t)]
  by_cases hsink : t.sinkInstalled = false
  · rw [Op.run_bind_ok (Op.run_ensure hsink _ t)]
    rfl
  · rw [Op.run_bind_error (Op.run_ensure_not hsink _ t)]

theorem TwoMlsPqInvitation.restore_archive (t : TwoMlsPqInvitation M) :
    restore t.archive =
      .ok { inner := t.inner, sinkInstalled := false, pushed := [] } := by
  unfold restore archive
  rw [decodeInvitation_encodeInvitation]
  rfl

theorem Remembers.act {lastResort : Bool} {h : InvitationHistory M}
    (hr : Remembers lastResort h) (a : InvitationAction M) :
    Remembers lastResort (h.act a) := by
  cases a with
  | receive args rnd =>
      rcases receive_cases args rnd h.invitation with
        ⟨e, hrun⟩ | ⟨session, theirId, gid, hexamined, hrun⟩
      · simp only [InvitationHistory.act, hrun]
        exact hr
      · simp only [InvitationHistory.act, hrun]
        exact hr.spawned hexamined
  | installSink => exact hr.congr (installInvitationSink_inner _)
  | restart =>
      unfold InvitationHistory.act
      rw [TwoMlsPqInvitation.restore_archive]
      exact hr.congr rfl

theorem Remembers.start {t : TwoMlsPqInvitation M} :
    Remembers t.inner.invitation.lastResort (InvitationHistory.start t) := by
  constructor
  · intro spawn hspawn
    cases hspawn
  · intro spawn hspawn
    cases hspawn
  · exact List.nodup_nil
  · exact List.nodup_nil
  · rfl
  · intro _ hne
    exact absurd rfl hne

theorem Remembers.run {t : TwoMlsPqInvitation M} {h : InvitationHistory M}
    (hrun :
      Run InvitationHistory.act (fun _ _ => True) (InvitationHistory.start t) h) :
    Remembers t.inner.invitation.lastResort h :=
  hrun.invariant (I := Remembers t.inner.invitation.lastResort)
    (fun _ a hr _ => hr.act a) Remembers.start

theorem Remembers.length_le_one {h : InvitationHistory M}
    (hr : Remembers false h) : h.spawns.length <= 1 := by
  by_cases hnil : h.spawns = []
  · rw [hnil]
    exact Nat.zero_le 1
  · rw [(hr.spent rfl hnil).1]

theorem receive_error {args : ReceiveArgs M} {rnd : Nat -> M.Seed}
    {t t' : TwoMlsPqInvitation M} {e : TwoMlsPqError}
    (h : (receive args rnd).run t = (.error e, t')) :
    t' = t := by
  rcases receive_cases args rnd t with ⟨e', hrun⟩ | ⟨_, _, _, -, hrun⟩
  · rw [hrun] at h
    exact (congrArg Prod.snd h).symm
  · rw [hrun] at h
    cases h

theorem receive_ok {args : ReceiveArgs M} {rnd : Nat -> M.Seed}
    {t t' : TwoMlsPqInvitation M} {session : SessionInner M}
    (h : (receive args rnd).run t = (.ok session, t')) :
    exists gid, receiveGroupId session = some gid ∧ Resolves t' args gid := by
  rcases receive_cases args rnd t with
    ⟨e', hrun⟩ | ⟨_, theirId, gid, hexamined, hrun⟩
  · rw [hrun] at h
    cases h
  · rw [hrun] at h
    cases h
    exact ⟨gid, hexamined.joined, afterReceive_resolves args theirId gid t⟩

theorem receive_spent (args : ReceiveArgs M) (rnd : Nat -> M.Seed)
    {t : TwoMlsPqInvitation M} (hspent : t.inner.invitation.classicalKpd = none) :
    exists e, (receive args rnd).run t = (.error e, t) := by
  rcases receive_cases args rnd t with hrefused | ⟨_, _, _, hexamined, -⟩
  · exact hrefused
  · have hheld := hexamined.held
    rw [hspent] at hheld
    cases hheld

/-- How a spent invitation answers: with no session, and where the arguments
pass the checks in front of the lock, with one of the two refusals. -/
def AnswersSpent (t : TwoMlsPqInvitation M) : Prop :=
  forall (args : ReceiveArgs M) (rnd : Nat -> M.Seed),
    exists e, (receive args rnd).run t = (.error e, t) ∧
      ((exists theirId, validateReceive args = .ok theirId) ->
        (exists sessionClient,
          mintSessionClient t.inner.invitation.clientId args.newClientId rnd =
            .ok sessionClient) ->
          e = .invitationSpent ∨ e = .duplicateWelcome)

theorem answersSpent {t : TwoMlsPqInvitation M}
    (hspent : t.inner.invitation.classicalKpd = none) :
    AnswersSpent t := by
  intro args rnd
  rcases receive_spent args rnd hspent with ⟨e, hrun⟩
  exists e
  constructor
  · exact hrun
  · rintro ⟨theirId, hvalidated⟩ ⟨sessionClient, hminted⟩
    rcases receive_refused hvalidated hminted hspent with hdup | hgone
    · rw [hrun] at hdup
      cases hdup
      exact Or.inr rfl
    · rw [hrun] at hgone
      cases hgone
      exact Or.inl rfl

theorem invitation_serves_once {t : TwoMlsPqInvitation M} {h : InvitationHistory M}
    (hrun :
      Run InvitationHistory.act (fun _ _ => True) (InvitationHistory.start t) h) :
    (forall args rnd e t',
      (receive args rnd).run h.invitation = (.error e, t') -> t' = h.invitation) ∧
    h.remotes.Nodup ∧ h.welcomes.Nodup ∧
    (t.inner.invitation.lastResort = false ->
      h.spawns.length <= 1 ∧ (h.spawns ≠ [] -> AnswersSpent h.invitation)) ∧
    (forall args rnd session t',
      (receive args rnd).run h.invitation = (.ok session, t') ->
        exists gid, receiveGroupId session = some gid ∧ Resolves t' args gid) := by
  have hr := Remembers.run hrun
  constructor
  · intro args rnd e t' hrefused
    exact receive_error hrefused
  constructor
  · exact hr.remotes
  constructor
  · exact hr.welcomes
  constructor
  · intro hsingle
    rw [hsingle] at hr
    constructor
    · exact hr.length_le_one
    · intro hne
      exact answersSpent (hr.spent rfl hne).2
  · intro args rnd session t' haccepted
    exact receive_ok haccepted

end

/-!
## Routing over many receives

Of the four tables that `receive` writes only two are looked up before the write.
A spawn token or a commitment that is already a key is bound anew, and the session
it led to is found by its welcome alone.
-/

section

variable {M : MlsRs}

structure Unanswered (t : TwoMlsPqInvitation M) (args : ReceiveArgs M) : Prop where
  unprocessed : M.sha256 args.welcome.bytes ∉ t.inner.processed
  held : t.inner.invitation.classicalKpd.isSome = true
  remote :
    forall id, args.remote = some id -> id ∉ t.inner.consumed.val

structure KeysFree (t : TwoMlsPqInvitation M) (args : ReceiveArgs M) : Prop where
  token : args.spawnToken ∉ t.inner.spawned
  commitment : args.bootstrapKpCommitment ∉ t.inner.bootstrapCommitments

def InvitationAction.BringsFreeKeys (h : InvitationHistory M) :
    InvitationAction M -> Prop
  | .receive args _ =>
      Unanswered h.invitation args -> KeysFree h.invitation args
  | .installSink => True
  | .restart => True

/-- Every key of the tables leads where it led before. -/
structure KeepsRoutes (t t' : TwoMlsPqInvitation M) : Prop where
  token :
    forall key gid, t.inner.spawned.lookup key = some gid ->
      t'.inner.spawned.lookup key = some gid
  welcome :
    forall key gid, t.inner.processed.lookup key = some gid ->
      t'.inner.processed.lookup key = some gid
  commitment :
    forall key gid, t.inner.bootstrapCommitments.lookup key = some gid ->
      t'.inner.bootstrapCommitments.lookup key = some gid

theorem GroupTable.insert_keeps {table : GroupTable} {key gid : Bytes} :
    (forall k g, table.lookup k = some g -> (table.insert key gid).lookup k = some g) ↔
      forall g, table.lookup key = some g -> g = gid := by
  constructor
  · intro hkeeps g hg
    have hnew := hkeeps key g hg
    rw [AList.lookup_insert] at hnew
    exact (Option.some.inj hnew).symm
  · intro hsame k g hg
    by_cases hk : k = key
    · subst hk
      rw [AList.lookup_insert, hsame g hg]
    · rw [AList.lookup_insert_ne hk]
      exact hg

theorem GroupTable.free_bound {table : GroupTable} {key gid : Bytes}
    (hfree : key ∉ table) :
    forall g, table.lookup key = some g -> g = gid := by
  intro g hg
  exact absurd (AList.lookup_isSome.mp (by rw [hg]; rfl)) hfree

theorem Examined.unanswered_call {t : TwoMlsPqInvitation M} {args : ReceiveArgs M}
    {session : SessionInner M} {theirId gid : Bytes}
    (h : Examined t args session theirId gid) :
    Unanswered t args := by
  constructor
  · exact h.unprocessed
  · exact h.held
  · intro id hid
    rw [ReceiveArgs.remote_of_validated h.validated] at hid
    rw [← Option.some.inj hid]
    exact h.unanswered

theorem afterReceive_keepsRoutes {args : ReceiveArgs M} {theirId gid : Bytes}
    {t : TwoMlsPqInvitation M}
    (hunprocessed : M.sha256 args.welcome.bytes ∉ t.inner.processed) :
    KeepsRoutes t (afterReceive args theirId gid t) ↔
      (forall old, t.inner.spawned.lookup args.spawnToken = some old -> old = gid) ∧
      (forall old,
        t.inner.bootstrapCommitments.lookup args.bootstrapKpCommitment = some old ->
          old = gid) := by
  rcases afterReceive_inner args theirId gid t with ⟨seq, hinner⟩
  constructor
  · intro hkeeps
    have htoken := hkeeps.token
    have hcommitment := hkeeps.commitment
    rw [hinner] at htoken hcommitment
    constructor
    · exact GroupTable.insert_keeps.mp htoken
    · exact GroupTable.insert_keeps.mp hcommitment
  · intro hsame
    constructor
    · rw [hinner]
      exact GroupTable.insert_keeps.mpr hsame.1
    · rw [hinner]
      exact GroupTable.insert_keeps.mpr (GroupTable.free_bound hunprocessed)
    · rw [hinner]
      exact GroupTable.insert_keeps.mpr hsame.2

namespace KeepsRoutes

variable {t t' : TwoMlsPqInvitation M}

theorem of_inner (hinner : t'.inner = t.inner) : KeepsRoutes t t' := by
  constructor
  · rw [hinner]
    exact fun _ _ hlookup => hlookup
  · rw [hinner]
    exact fun _ _ hlookup => hlookup
  · rw [hinner]
    exact fun _ _ hlookup => hlookup

theorem resolves {args : ReceiveArgs M} {gid : Bytes} (hkeeps : KeepsRoutes t t')
    (h : Resolves t args gid) :
    Resolves t' args gid := by
  constructor
  · exact hkeeps.token _ _ h.token
  · exact hkeeps.welcome _ _ h.welcome
  · intro kp hkp
    have hold := h.commitment kp hkp
    rw [TwoMlsPqInvitation.bootstrapKpGroupId_tagged] at hold ⊢
    exact hkeeps.commitment _ _ hold

end KeepsRoutes

def FoundByWelcome (h : InvitationHistory M) : Prop :=
  forall spawn, spawn ∈ h.spawns ->
    exists gid, receiveGroupId spawn.2 = some gid ∧
      h.invitation.processedWelcomeGroupId spawn.1.welcome.bytes = some gid

def FoundByKeys (h : InvitationHistory M) : Prop :=
  forall spawn, spawn ∈ h.spawns ->
    exists gid, receiveGroupId spawn.2 = some gid ∧
      Resolves h.invitation spawn.1 gid

theorem FoundByWelcome.keeps {h : InvitationHistory M} {t' : TwoMlsPqInvitation M}
    (hfound : FoundByWelcome h)
    (hkeeps :
      forall key gid, h.invitation.inner.processed.lookup key = some gid ->
        t'.inner.processed.lookup key = some gid) :
    FoundByWelcome { h with invitation := t' } := by
  intro spawn hspawn
  rcases hfound spawn hspawn with ⟨gid, hgid, hlookup⟩
  exact ⟨gid, hgid, hkeeps _ _ hlookup⟩

theorem FoundByKeys.keeps {h : InvitationHistory M} {t' : TwoMlsPqInvitation M}
    (hfound : FoundByKeys h) (hkeeps : KeepsRoutes h.invitation t') :
    FoundByKeys { h with invitation := t' } := by
  intro spawn hspawn
  rcases hfound spawn hspawn with ⟨gid, hgid, hresolves⟩
  exact ⟨gid, hgid, hkeeps.resolves hresolves⟩

theorem FoundByWelcome.act {h : InvitationHistory M} (hfound : FoundByWelcome h)
    (a : InvitationAction M) :
    FoundByWelcome (h.act a) := by
  cases a with
  | receive args rnd =>
      rcases receive_cases args rnd h.invitation with
        ⟨e, hrun⟩ | ⟨session, theirId, gid, hexamined, hrun⟩
      · simp only [InvitationHistory.act, hrun]
        exact hfound
      · simp only [InvitationHistory.act, hrun]
        rcases afterReceive_inner args theirId gid h.invitation with ⟨seq, hinner⟩
        have hkept : FoundByWelcome
            { h with invitation := afterReceive args theirId gid h.invitation } := by
          apply hfound.keeps
          rw [hinner]
          exact GroupTable.insert_keeps.mpr
            (GroupTable.free_bound hexamined.unprocessed)
        intro spawn hspawn
        rcases List.mem_append.mp hspawn with hold | hnew
        · exact hkept spawn hold
        · rcases List.mem_singleton.mp hnew with rfl
          exact ⟨gid, hexamined.joined,
            (afterReceive_resolves args theirId gid h.invitation).welcome⟩
  | installSink =>
      exact hfound.keeps (KeepsRoutes.of_inner (installInvitationSink_inner _)).welcome
  | restart =>
      unfold InvitationHistory.act
      rw [TwoMlsPqInvitation.restore_archive]
      exact hfound

theorem FoundByKeys.act {h : InvitationHistory M} {a : InvitationAction M}
    (hfound : FoundByKeys h) (hfree : a.BringsFreeKeys h) :
    FoundByKeys (h.act a) := by
  cases a with
  | receive args rnd =>
      rcases receive_cases args rnd h.invitation with
        ⟨e, hrun⟩ | ⟨session, theirId, gid, hexamined, hrun⟩
      · simp only [InvitationHistory.act, hrun]
        exact hfound
      · simp only [InvitationHistory.act, hrun]
        have hkeys := hfree hexamined.unanswered_call
        have hkeeps : KeepsRoutes h.invitation
            (afterReceive args theirId gid h.invitation) := by
          apply (afterReceive_keepsRoutes hexamined.unprocessed).mpr
          constructor
          · exact GroupTable.free_bound hkeys.token
          · exact GroupTable.free_bound hkeys.commitment
        intro spawn hspawn
        rcases List.mem_append.mp hspawn with hold | hnew
        · exact hfound.keeps hkeeps spawn hold
        · rcases List.mem_singleton.mp hnew with rfl
          exact ⟨gid, hexamined.joined,
            afterReceive_resolves args theirId gid h.invitation⟩
  | installSink =>
      exact hfound.keeps (KeepsRoutes.of_inner (installInvitationSink_inner _))
  | restart =>
      unfold InvitationHistory.act
      rw [TwoMlsPqInvitation.restore_archive]
      exact hfound.keeps (KeepsRoutes.of_inner rfl)

/-- The welcome of a session always leads to it.  The other two keys do as long as
no call brings a key that is in use, and one such call is enough to lose a route. -/
theorem spawned_sessions_stay_reachable {t : TwoMlsPqInvitation M}
    {h : InvitationHistory M}
    (hrun :
      Run InvitationHistory.act (fun _ _ => True) (InvitationHistory.start t) h) :
    FoundByWelcome h ∧
    (Run InvitationHistory.act (fun h a => a.BringsFreeKeys h)
        (InvitationHistory.start t) h ->
      FoundByKeys h) ∧
    (forall args rnd session t' gid,
      (receive args rnd).run h.invitation = (.ok session, t') ->
      receiveGroupId session = some gid ->
        (KeepsRoutes h.invitation t' ↔
          (forall old,
            h.invitation.inner.spawned.lookup args.spawnToken = some old ->
              old = gid) ∧
          (forall old,
            h.invitation.inner.bootstrapCommitments.lookup
                args.bootstrapKpCommitment = some old ->
              old = gid))) := by
  constructor
  · apply hrun.invariant (I := FoundByWelcome) (fun _ a hfound _ => hfound.act a)
    intro spawn hspawn
    cases hspawn
  constructor
  · intro hfree
    apply hfree.invariant (I := FoundByKeys)
      (fun _ _ hfound hkeys => hfound.act hkeys)
    intro spawn hspawn
    cases hspawn
  · intro args rnd session t' gid haccepted hgid
    rcases receive_cases args rnd h.invitation with
      ⟨e, hrefused⟩ | ⟨joined, theirId, gid', hexamined, hreceived⟩
    · rw [hrefused] at haccepted
      cases haccepted
    · rw [hreceived] at haccepted
      cases haccepted
      have hsame : gid' = gid := by
        have hjoined := hexamined.joined
        rw [hgid] at hjoined
        exact (Option.some.inj hjoined).symm
      subst hsame
      exact afterReceive_keepsRoutes hexamined.unprocessed

end

/-!
## A single-use reference invitation
-/

namespace ReferenceInvitation

open ReferencePair (client initiatorClient keyPackage welcome commitment rnd)

def restored : Result (TwoMlsPqInvitation Reference.mls) := do
  let archive <- generateInvitation (client [0xB0] 200) false (rnd 20)
  TwoMlsPqInvitation.restore archive

theorem restored_isSome : restored.toOption.isSome = true := by
  decide +kernel

def invitation : TwoMlsPqInvitation Reference.mls :=
  restored.toOption.get restored_isSome

def args : ReceiveArgs Reference.mls :=
  { welcome := welcome
    theirClassicalKeyPackage := (keyPackage initiatorClient 10).classical
    bootstrapKpCommitment := commitment
    spawnToken := [7]
    newClientId := some [0xB5]
    expectedRemote := some [0xA0]
    expectedAppBinding := none }

def served : InvitationHistory Reference.mls :=
  (((InvitationHistory.start invitation).act .installSink).act
    (.receive args (rnd 2000))).act .restart

theorem served_run :
    Run InvitationHistory.act (fun _ _ => True) (InvitationHistory.start invitation)
      served :=
  ((Run.refl.step trivial).step trivial).step trivial

theorem served_states :
    served.spawns.length = 1 ∧ invitation.inner.invitation.lastResort = false := by
  decide +kernel

end ReferenceInvitation

theorem reference_invitation_serves_once :
    ReferenceInvitation.served.spawns.length = 1 ∧
    ReferenceInvitation.served.remotes.Nodup ∧
    AnswersSpent ReferenceInvitation.served.invitation := by
  have h := invitation_serves_once ReferenceInvitation.served_run
  have hlength := ReferenceInvitation.served_states.1
  constructor
  · exact hlength
  constructor
  · exact h.2.1
  · apply (h.2.2.2.1 ReferenceInvitation.served_states.2).2
    intro hnil
    rw [hnil] at hlength
    cases hlength

/-- The checks in front of the lock answer also for a spent invitation. -/
theorem spent_invitation_names_empty_id :
    Run InvitationHistory.act (fun _ _ => True)
        (InvitationHistory.start ReferenceInvitation.invitation)
        ReferenceInvitation.served ∧
      ReferenceInvitation.invitation.inner.invitation.lastResort = false ∧
      ReferenceInvitation.served.spawns.length = 1 ∧
      (receive { ReferenceInvitation.args with newClientId := some [] }
          (ReferencePair.rnd 3000)).run ReferenceInvitation.served.invitation =
        (.error .invalidClientId, ReferenceInvitation.served.invitation) := by
  constructor
  · exact ReferenceInvitation.served_run
  constructor
  · exact ReferenceInvitation.served_states.2
  constructor
  · exact ReferenceInvitation.served_states.1
  · unfold receive examineWelcome validateReceive
    rw [if_pos rfl]
    exact Op.run_bind_error (Op.run_bind_error (Op.run_ofExcept _ _))


/-!
## A last-resort reference invitation

A second initiator has seen the commitment of the first and sends it as its own.
-/

namespace ReferenceInvitation

open ReferencePair
  (client initiatorClient acceptorClient keyPackage published services commitment rnd)

def reusable : Result (TwoMlsPqInvitation Reference.mls) := do
  let archive <- generateInvitation (client [0xB0] 200) true (rnd 20)
  TwoMlsPqInvitation.restore archive

def strangerClient : TwoMlsPqPrincipal Reference.mls :=
  published (client [0xC0] 300) 30

def strangerWelcome : Option (WelcomeBytes Reference.mls) :=
  (initiate strangerClient (services [0xC0]) (keyPackage acceptorClient 20) none
    (rnd 6000)).toOption.bind stapledWelcome

theorem sharing_isSome :
    reusable.toOption.isSome = true ∧ strangerWelcome.isSome = true := by
  decide +kernel

def shared : TwoMlsPqInvitation Reference.mls :=
  reusable.toOption.get sharing_isSome.1

def strangerArgs (commitment : Bytes) : ReceiveArgs Reference.mls :=
  { welcome := strangerWelcome.get sharing_isSome.2
    theirClassicalKeyPackage := (keyPackage strangerClient 30).classical
    bootstrapKpCommitment := commitment
    spawnToken := [8]
    newClientId := none
    expectedRemote := some [0xC0]
    expectedAppBinding := none }

def first : InvitationHistory Reference.mls :=
  (InvitationHistory.start shared).act (.receive args (rnd 2000))

def routed : InvitationHistory Reference.mls :=
  first.act (.receive (strangerArgs (List.replicate 32 1)) (rnd 7000))

def rebound : InvitationHistory Reference.mls :=
  first.act (.receive (strangerArgs commitment) (rnd 7000))

def bootstrapFrame : Bytes :=
  0x13 :: (ReferencePair.initiator.round.bootstrapKp.map Blob.bytes).getD []

theorem routed_run :
    Run InvitationHistory.act (fun _ _ => True) (InvitationHistory.start shared)
      routed :=
  (Run.refl.step trivial).step trivial

theorem rebound_run :
    Run InvitationHistory.act (fun _ _ => True) (InvitationHistory.start shared)
      rebound :=
  (Run.refl.step trivial).step trivial

/-- The first two remotes bring keys of their own; the stranger that brings the first
one's commitment moves its frame to itself. -/
theorem shared_states :
    ((args.spawnToken ∉ (InvitationHistory.start shared).invitation.inner.spawned ∧
        args.bootstrapKpCommitment ∉
          (InvitationHistory.start shared).invitation.inner.bootstrapCommitments) ∧
      (strangerArgs (List.replicate 32 1)).spawnToken ∉
          first.invitation.inner.spawned ∧
        (strangerArgs (List.replicate 32 1)).bootstrapKpCommitment ∉
          first.invitation.inner.bootstrapCommitments) ∧
    routed.spawns.length = 2 ∧
    shared.inner.invitation.lastResort = true ∧
    rebound.spawns.map (fun spawn => receiveGroupId spawn.2) =
      [first.invitation.bootstrapKpGroupId bootstrapFrame,
        rebound.invitation.bootstrapKpGroupId bootstrapFrame] ∧
    first.invitation.bootstrapKpGroupId bootstrapFrame ≠
      rebound.invitation.bootstrapKpGroupId bootstrapFrame := by
  decide +kernel

theorem first_free :
    InvitationAction.BringsFreeKeys (InvitationHistory.start shared)
      (.receive args (rnd 2000)) :=
  fun _ => ⟨shared_states.1.1.1, shared_states.1.1.2⟩

theorem second_free :
    InvitationAction.BringsFreeKeys first
      (.receive (strangerArgs (List.replicate 32 1)) (rnd 7000)) :=
  fun _ => ⟨shared_states.1.2.1, shared_states.1.2.2⟩

theorem routed_free :
    Run InvitationHistory.act (fun h a => a.BringsFreeKeys h)
      (InvitationHistory.start shared) routed :=
  (Run.refl.step first_free).step second_free

end ReferenceInvitation

theorem two_remotes_stay_reachable :
    ReferenceInvitation.routed.spawns.length = 2 ∧
      FoundByWelcome ReferenceInvitation.routed ∧
      FoundByKeys ReferenceInvitation.routed := by
  have h := spawned_sessions_stay_reachable ReferenceInvitation.routed_run
  constructor
  · exact ReferenceInvitation.shared_states.2.1
  constructor
  · exact h.1
  · exact h.2.1 ReferenceInvitation.routed_free

/-- The frame that led to the first session leads to the second. -/
theorem shared_commitment_rebinds :
    Run InvitationHistory.act (fun _ _ => True)
        (InvitationHistory.start ReferenceInvitation.shared)
        ReferenceInvitation.rebound ∧
      ReferenceInvitation.shared.inner.invitation.lastResort = true ∧
      ReferenceInvitation.rebound.spawns.map (fun spawn => receiveGroupId spawn.2) =
        [ReferenceInvitation.first.invitation.bootstrapKpGroupId
            ReferenceInvitation.bootstrapFrame,
          ReferenceInvitation.rebound.invitation.bootstrapKpGroupId
            ReferenceInvitation.bootstrapFrame] ∧
      ReferenceInvitation.first.invitation.bootstrapKpGroupId
          ReferenceInvitation.bootstrapFrame ≠
        ReferenceInvitation.rebound.invitation.bootstrapKpGroupId
          ReferenceInvitation.bootstrapFrame := by
  constructor
  · exact ReferenceInvitation.rebound_run
  · exact ReferenceInvitation.shared_states.2.2

end Session
end TwoMlsPq
