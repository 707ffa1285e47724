import TwoMlsPq.Apq.Combiner

/-!
# What the session relies on

The documented behaviour of the MLS library, as far as the session's proofs use
it.  A call either leaves everything the session observes of a group alone, or
it applies one commit, or it adds one pending update.  Messages are accepted
only at the epoch they were made for, and a failed call changes nothing that
can be observed.
-/

namespace TwoMlsPq
namespace Apq

section

variable {M : MlsRs}

def leafAt (g : M.Group) (index : Nat) : Option (Credential × Bytes) :=
  ((M.roster g).find? (fun member => member.index == index)).map fun member =>
    (member.credential, member.signatureKey)

def ownLeaf (g : M.Group) : Option (Credential × Bytes) :=
  leafAt g (M.currentMemberIndex g)

/-- Nothing the session observes of the group has changed. -/
structure Undisturbed (g g' : M.Group) : Prop where
  epoch : M.currentEpoch g' = M.currentEpoch g
  groupId : M.groupId g' = M.groupId g
  memberIndex : M.currentMemberIndex g' = M.currentMemberIndex g
  roster : M.roster g' = M.roster g
  signer : M.groupSigner g' = M.groupSigner g
  updates : M.pendingUpdates g' = M.pendingUpdates g

namespace Undisturbed

theorem refl (g : M.Group) : Undisturbed g g :=
  { epoch := rfl, groupId := rfl, memberIndex := rfl, roster := rfl
    signer := rfl, updates := rfl }

theorem trans {g₁ g₂ g₃ : M.Group}
    (h : Undisturbed g₁ g₂) (h' : Undisturbed g₂ g₃) :
    Undisturbed g₁ g₃ :=
  { epoch := h'.epoch.trans h.epoch
    groupId := h'.groupId.trans h.groupId
    memberIndex := h'.memberIndex.trans h.memberIndex
    roster := h'.roster.trans h.roster
    signer := h'.signer.trans h.signer
    updates := h'.updates.trans h.updates }

theorem symm {g g' : M.Group} (h : Undisturbed g g') : Undisturbed g' g :=
  { epoch := h.epoch.symm
    groupId := h.groupId.symm
    memberIndex := h.memberIndex.symm
    roster := h.roster.symm
    signer := h.signer.symm
    updates := h.updates.symm }

theorem leafAt_eq {g g' : M.Group} (h : Undisturbed g g') (index : Nat) :
    leafAt g' index = leafAt g index := by
  unfold leafAt
  rw [h.roster]

theorem ownLeaf_eq {g g' : M.Group} (h : Undisturbed g g') :
    ownLeaf g' = ownLeaf g := by
  unfold ownLeaf
  rw [h.memberIndex]
  exact h.leafAt_eq _

end Undisturbed

def MovedTo (signer : M.Signer) (identifier : Bytes) (g' : M.Group) : Prop :=
  ownLeaf g' = some (.basic identifier, M.publicKey signer) ∧
    M.groupSigner g' = signer

def OwnKept (g g' : M.Group) : Prop :=
  ownLeaf g' = ownLeaf g ∧ M.groupSigner g' = M.groupSigner g

structure Advanced (g g' : M.Group) : Prop where
  epoch : M.currentEpoch g' = M.currentEpoch g + 1
  groupId : M.groupId g' = M.groupId g
  memberIndex : M.currentMemberIndex g' = M.currentMemberIndex g
  updates : M.pendingUpdates g' = []

/-- A commit of the peer: our own leaf moves only to one of our own pending
updates. -/
structure PeerCommit (m : M.Message) (g g' : M.Group) : Prop extends
    Advanced g g' where
  messageEpoch : M.messageEpoch m = some (M.currentEpoch g)
  messageGroupId : M.messageGroupId m = some (M.groupId g)
  own :
    OwnKept g g' ∨
      exists update signer identifier,
        (update, some (signer, identifier)) ∈ M.pendingUpdates g ∧
          MovedTo signer identifier g'

/-- A commit of our own: our leaf moves only to the identity the commit was
built with. -/
structure OwnCommit (identity : Option (M.Signer × Bytes)) (g g' : M.Group) :
    Prop extends Advanced g g' where
  own :
    OwnKept g g' ∨
      exists signer identifier,
        identity = some (signer, identifier) ∧ MovedTo signer identifier g'

theorem OwnKept.after {g g' g'' : M.Group}
    (h : OwnKept g g') (h' : Undisturbed g' g'') :
    OwnKept g g'' :=
  ⟨h'.ownLeaf_eq.trans h.1, h'.signer.trans h.2⟩

theorem OwnKept.before {g g' g'' : M.Group}
    (h : Undisturbed g g') (h' : OwnKept g' g'') :
    OwnKept g g'' :=
  ⟨h'.1.trans h.ownLeaf_eq, h'.2.trans h.signer⟩

theorem MovedTo.after {signer : M.Signer} {identifier : Bytes} {g g' : M.Group}
    (h : MovedTo signer identifier g) (h' : Undisturbed g g') :
    MovedTo signer identifier g' :=
  ⟨h'.ownLeaf_eq.trans h.1, h'.signer.trans h.2⟩

theorem Advanced.after {g g' g'' : M.Group}
    (h : Advanced g g') (h' : Undisturbed g' g'') :
    Advanced g g'' :=
  { epoch := h'.epoch.trans h.epoch
    groupId := h'.groupId.trans h.groupId
    memberIndex := h'.memberIndex.trans h.memberIndex
    updates := h'.updates.trans h.updates }

theorem Advanced.before {g g' g'' : M.Group}
    (h : Undisturbed g g') (h' : Advanced g' g'') :
    Advanced g g'' :=
  { epoch := by rw [h'.epoch, h.epoch]
    groupId := h'.groupId.trans h.groupId
    memberIndex := h'.memberIndex.trans h.memberIndex
    updates := h'.updates }

theorem PeerCommit.after {m : M.Message} {g g' g'' : M.Group}
    (h : PeerCommit m g g') (h' : Undisturbed g' g'') :
    PeerCommit m g g'' where
  toAdvanced := h.toAdvanced.after h'
  messageEpoch := h.messageEpoch
  messageGroupId := h.messageGroupId
  own := by
    rcases h.own with hkept | ⟨update, signer, identifier, hmem, hmoved⟩
    · exact Or.inl (hkept.after h')
    · exact Or.inr ⟨update, signer, identifier, hmem, hmoved.after h'⟩

theorem OwnCommit.before {identity : Option (M.Signer × Bytes)}
    {g g' g'' : M.Group}
    (h : Undisturbed g g') (h' : OwnCommit identity g' g'') :
    OwnCommit identity g g'' where
  toAdvanced := h'.toAdvanced.before h
  own := by
    rcases h'.own with hkept | hmoved
    · exact Or.inl (hkept.before h)
    · exact Or.inr hmoved

structure Proposed (m : M.Message) (identity : Option (M.Signer × Bytes))
    (g g' : M.Group) : Prop where
  epoch : M.currentEpoch g' = M.currentEpoch g
  groupId : M.groupId g' = M.groupId g
  memberIndex : M.currentMemberIndex g' = M.currentMemberIndex g
  roster : M.roster g' = M.roster g
  signer : M.groupSigner g' = M.groupSigner g
  updates : M.pendingUpdates g' = (m, identity) :: M.pendingUpdates g

end

def MessageDescription.contentType : MessageDescription -> Option ContentType
  | .privateProtocolMessage contentType => some contentType
  | .publicProtocolMessage contentType => some contentType
  | .other => none

def ProcessEffect (M : MlsRs) (m : M.Message) (g g' : M.Group) :
    Except MlsError ReceivedMessage -> Prop
  | .ok (.commit _) =>
      (M.description m).contentType = some .commit ∧ PeerCommit m g g'
  | .ok (.proposal _) =>
      (M.description m).contentType = some .proposal ∧
        M.messageEpoch m = some (M.currentEpoch g) ∧ Undisturbed g g'
  | .ok (.applicationMessage _ _) =>
      (M.description m).contentType = some .application ∧ Undisturbed g g'
  | .ok .other => (M.description m).contentType = none ∧ Undisturbed g g'
  | .error _ => Undisturbed g g'

/-- The laws every result below rests on. -/
structure Lawful (M : MlsRs) : Prop where
  safeExport : forall component (g : M.Group),
    Undisturbed g (M.safeExportSecret component g).2
  clearCache : forall g : M.Group, Undisturbed g (M.clearProposalCache g)
  writeStorage : forall g : M.Group, Undisturbed g (M.writeToStorage g).2
  exportState : forall g : M.Group, Undisturbed g (M.exportGroup g).2
  encrypt : forall data aad seed (g : M.Group),
    Undisturbed g (M.encryptApplicationMessage data aad seed g).2
  encryptMessage : forall data aad seed (g : M.Group) m,
    (M.encryptApplicationMessage data aad seed g).1 = .ok m ->
      M.messageEpoch m = some (M.currentEpoch g) ∧
        M.messageGroupId m = some (M.groupId g) ∧
        M.description m = .privateProtocolMessage .application
  process : forall env m (g : M.Group),
    ProcessEffect M m g (M.processIncomingMessage env m g).2
      (M.processIncomingMessage env m g).1
  build : forall env request seed (g : M.Group),
    Undisturbed g (M.buildCommit env request seed g).2
  buildMessage : forall env request seed (g : M.Group) out,
    (M.buildCommit env request seed g).1 = .ok out ->
      M.messageEpoch out.commitMessage = some (M.currentEpoch g) ∧
        (M.description out.commitMessage).contentType = some .commit ∧
        M.pendingSigningIdentity (M.buildCommit env request seed g).2 =
          some request.newSigningIdentity
  applyError : forall env (g : M.Group) e,
    (M.applyPendingCommit env g).1 = .error e ->
      Undisturbed g (M.applyPendingCommit env g).2
  applyOk : forall env (g : M.Group),
    (M.applyPendingCommit env g).1 = .ok () ->
      exists identity,
        M.pendingSigningIdentity g = some identity ∧
          OwnCommit identity g (M.applyPendingCommit env g).2
  proposeError : forall env identity aad seed (g : M.Group) e,
    (M.proposeUpdate env identity aad seed g).1 = .error e ->
      Undisturbed g (M.proposeUpdate env identity aad seed g).2
  proposeOk : forall env identity aad seed (g : M.Group) m,
    (M.proposeUpdate env identity aad seed g).1 = .ok m ->
      M.messageEpoch m = some (M.currentEpoch g) ∧
        (M.description m).contentType = some .proposal ∧
        Proposed m identity g (M.proposeUpdate env identity aad seed g).2
  createGroup : forall env client suite gid extensions seed g,
    M.createGroupWithId env client suite gid extensions seed = .ok g ->
      M.currentEpoch g = 0 ∧
        ownLeaf g =
          some (.basic client.identifier, M.publicKey client.signer) ∧
        M.groupSigner g = client.signer ∧ M.pendingUpdates g = []
  buildWelcome : forall env request seed (g : M.Group) out w,
    (M.buildCommit env request seed g).1 = .ok out ->
      w ∈ out.welcomeMessages ->
        M.welcomeEpoch w = M.currentEpoch g + 1
  joinGroup : forall env client kps m g,
    M.joinGroup env client kps m = .ok g ->
      M.currentEpoch g = M.welcomeEpoch m ∧
        M.groupSigner g = client.signer ∧ M.pendingUpdates g = [] ∧
        exists kp, kp ∈ kps ∧ ownLeaf g = some (M.keyPackageLeaf kp)
  keyPackage : forall client suite seed m kp,
    M.generateKeyPackage client suite seed = .ok (m, kp) ->
      M.keyPackageLeaf kp =
        (.basic client.identifier, M.publicKey client.signer)
  loadGroup : forall (g g' : M.Group) snapshot,
    (M.exportGroup g).1 = .ok snapshot -> M.loadGroup snapshot = .ok g' ->
      Undisturbed g g'

section

variable {M : MlsRs}

theorem process_undisturbed (L : Lawful M) {m : M.Message}
    (hcommit : (M.description m).contentType ≠ some .commit) (env : MlsEnv)
    (g : M.Group) :
    Undisturbed g (M.processIncomingMessage env m g).2 := by
  have heffect := L.process env m g
  cases hresult : (M.processIncomingMessage env m g).1 with
  | error e =>
      rw [hresult] at heffect
      exact heffect
  | ok received =>
      rw [hresult] at heffect
      cases received with
      | commit effect => exact absurd heffect.1 hcommit
      | proposal desc => exact heffect.2.2
      | applicationMessage index data => exact heffect.2
      | other => exact heffect.2

end

/-- A commit built with a new signing identity moves our leaf to it. -/
structure HandsOver (M : MlsRs) : Prop where
  applied : forall env (g : M.Group) signer identifier,
    (M.applyPendingCommit env g).1 = .ok () ->
      M.pendingSigningIdentity g = some (some (signer, identifier)) ->
        MovedTo signer identifier (M.applyPendingCommit env g).2

/-- The proposals a group has cached for the next commit.  Only a message that
declares itself a proposal is ever cached. -/
structure ProposalCache (M : MlsRs) where
  Entry : Type
  contents : M.Group -> List Entry
  processed : forall env m (g : M.Group),
    (M.description m).contentType ≠ some .proposal ->
      contents (M.processIncomingMessage env m g).2 ⊆ contents g
  exported : forall component (g : M.Group),
    contents (M.safeExportSecret component g).2 ⊆ contents g
  saved : forall g : M.Group, contents (M.exportGroup g).2 ⊆ contents g

structure Calm {M : MlsRs} (C : ProposalCache M) (g g' : M.Group) : Prop extends
    Undisturbed g g' where
  cache : C.contents g' ⊆ C.contents g

theorem Calm.refl {M : MlsRs} {C : ProposalCache M} (g : M.Group) : Calm C g g :=
  { toUndisturbed := Undisturbed.refl g, cache := List.Subset.refl _ }

theorem Calm.trans {M : MlsRs} {C : ProposalCache M} {g₁ g₂ g₃ : M.Group}
    (h : Calm C g₁ g₂) (h' : Calm C g₂ g₃) : Calm C g₁ g₃ :=
  { toUndisturbed := h.toUndisturbed.trans h'.toUndisturbed
    cache := List.Subset.trans h'.cache h.cache }

/-- A proposal that could not be made leaves the group as it was. -/
structure AtomicProposals (M : MlsRs) : Prop where
  failed : forall env identity aad seed (g : M.Group) e,
    (M.proposeUpdate env identity aad seed g).1 = .error e ->
      (M.proposeUpdate env identity aad seed g).2 = g

/-- An MLS message starts with the high byte of its protocol version. -/
structure Framed (M : MlsRs) : Prop where
  version : forall m bytes, M.toBytes m = .ok bytes -> bytes.head? = some 0

/-- What does not fail: deriving and persisting from a group that is held. -/
structure Dependable (M : MlsRs) : Prop where
  exportSecret : forall (g : M.Group) label context length,
    length = 32 ∨ length = M.aeadKeySize ->
      exists secret, M.exportSecret g label context length = .ok secret ∧
        secret.length = length
  writeStorage : forall g : M.Group, (M.writeToStorage g).1 = .ok ()
  exportGroup : forall g : M.Group,
    exists snapshot, (M.exportGroup g).1 = .ok snapshot
  loadGroup : forall (g : M.Group) snapshot,
    (M.exportGroup g).1 = .ok snapshot -> exists g', M.loadGroup snapshot = .ok g'
  toBytes : forall m : M.Message, exists bytes, M.toBytes m = .ok bytes
  digest : forall bytes, (M.sha256 bytes).length = 32

end Apq
end TwoMlsPq
