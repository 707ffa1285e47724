import TwoMlsPq.Apq.Laws

/-!
# A reference library

The laws the session relies on are not vacuous: this module builds a small MLS
library that satisfies them.  A group has a creator and one joiner, keys are
numbers, and an epoch secret is a digest of everything that was committed into
it.  The behaviour that matters to the session is kept: a message is bound to
its group, its epoch and the leaf that signed it, a commit needs every PSK it
names and carries a tag over the secret it leads to, the Authentication Service
judges every credential that moves, an application key opens one message, and a
commit fails when the random source has run dry.
-/

namespace TwoMlsPq
namespace Apq
namespace Reference

/-!
## Digests
-/

def absorb (state : Nat) (bytes : Bytes) : Nat :=
  bytes.foldl (fun acc b => (acc * 257 + b.toNat + 1) % 2 ^ 256) state

def mix (state n : Nat) : Nat :=
  (state * 1000003 + n * 257 + 11) % 2 ^ 256

def squeeze : Nat -> Nat -> Bytes
  | 0, _ => []
  | count + 1, state => UInt8.ofNat state :: squeeze count (state / 2 ^ 8)

def sha256 (bytes : Bytes) : Bytes :=
  squeeze 32 (absorb 7 bytes)

theorem length_squeeze (count state : Nat) :
    (squeeze count state).length = count := by
  induction count generalizing state with
  | zero => rfl
  | succ count ih => exact congrArg Nat.succ (ih _)

def publicKey (signer : Nat) : Bytes :=
  leU32 signer

/-!
## Messages
-/

structure Leaf where
  identity : Bytes
  key : Bytes
deriving DecidableEq, Repr

structure CommitBody where
  leaf : Leaf
  folded : Option Nat
  psks : List PskId
  attestation : Option ApqInfoUpdate
  tag : Nat
deriving DecidableEq, Repr

inductive Body where
  | application (data aad : Bytes)
  | update (leaf : Leaf) (aad : Bytes)
  | commit (body : CommitBody)
deriving DecidableEq, Repr

structure WelcomeBody where
  suite : Nat
  init : Nat
  groupId : Bytes
  epoch : Nat
  joinerSecret : Nat
  psks : List PskId
  creator : Leaf
  extensions : GroupExtensions
  tag : Nat
deriving DecidableEq, Repr

inductive Message where
  | member (groupId : Bytes) (epoch : Nat) (byCreator : Bool) (nonce : Nat)
      (signature : Bytes) (body : Body)
  | welcome (body : WelcomeBody)
  | keyPackage (suite : Nat) (leaf : Leaf) (init : Nat)
deriving DecidableEq, Repr

def Body.encode : Body -> Bytes
  | application data aad => 0 :: (data ++ aad)
  | update leaf aad => 1 :: (leaf.identity ++ leaf.key ++ aad)
  | commit body => 2 :: squeeze 32 body.tag

def Message.encode : Message -> Bytes
  | member groupId epoch byCreator nonce signature body =>
      0 :: 1 :: (groupId ++ leU32 epoch ++ [if byCreator then 0 else 1] ++
        leU32 nonce ++ signature ++ body.encode)
  | welcome body => 0 :: 2 :: (body.groupId ++ leU32 body.init ++ squeeze 32 body.tag)
  | keyPackage suite leaf init =>
      0 :: 3 :: (leU32 suite ++ leaf.identity ++ leaf.key ++ leU32 init)

def Message.epoch : Message -> Option Nat
  | member _ epoch _ _ _ _ => some epoch
  | _ => none

def Message.groupId : Message -> Option Bytes
  | member groupId _ _ _ _ _ => some groupId
  | _ => none

def Message.nonce : Message -> Option Nat
  | member _ _ _ nonce _ _ => some nonce
  | _ => none

def Message.suite : Message -> Option Nat
  | member _ _ _ _ _ _ => none
  | welcome body => some body.suite
  | keyPackage suite _ _ => some suite

def Message.description : Message -> MessageDescription
  | member _ _ _ _ _ (.application _ _) => .privateProtocolMessage .application
  | member _ _ _ _ _ (.update _ _) => .publicProtocolMessage .proposal
  | member _ _ _ _ _ (.commit _) => .publicProtocolMessage .commit
  | _ => .other

def Message.keyPackageInfo : Message -> Option KeyPackageInfo
  | keyPackage suite leaf _ =>
      some { credential := .basic leaf.identity, cipherSuite := suite }
  | _ => none

structure KeyPackageSecret where
  suite : Nat
  leaf : Leaf
  init : Nat
deriving DecidableEq, Repr

/-!
## Groups
-/

structure Offer where
  leaf : Leaf
  nonce : Nat
deriving DecidableEq, Repr

structure PendingCommit where
  identity : Option (Nat × Bytes)
  peer : Option Leaf
  secret : Nat
deriving DecidableEq, Repr

structure Group where
  id : Bytes
  suite : Nat
  epoch : Nat
  secret : Nat
  extensions : GroupExtensions
  created : Bool
  own : Leaf
  peer : Option Leaf
  signer : Nat
  opened : List (Nat × Nat)
  offers : List Offer
  staged : List (Message × Option (Nat × Bytes))
  pending : Option PendingCommit
  spent : List Nat
  past : List Nat
deriving DecidableEq, Repr

namespace Group

def ownIndex (g : Group) : Nat :=
  if g.created then 0 else 1

def peerIndex (g : Group) : Nat :=
  if g.created then 1 else 0

def member (index : Nat) (leaf : Leaf) : Member :=
  { index := index
    credential := .basic leaf.identity
    signatureKey := leaf.key }

def roster (g : Group) : List Member :=
  if g.created then
    member 0 g.own :: (g.peer.map (member 1)).toList
  else
    (g.peer.map (member 0)).toList ++ [member 1 g.own]

def leafFor (g : Group) : Option (Nat × Bytes) -> Leaf
  | none => g.own
  | some (signer, identifier) =>
      { identity := identifier, key := publicKey signer }

def signerFor (g : Group) : Option (Nat × Bytes) -> Nat
  | none => g.signer
  | some (signer, _) => signer

def advance (g : Group) (identity : Option (Nat × Bytes)) (peer : Option Leaf)
    (secret : Nat) : Group :=
  { g with
    epoch := g.epoch + 1
    secret := secret
    own := g.leafFor identity
    signer := g.signerFor identity
    peer := peer
    offers := []
    staged := []
    pending := none
    spent := []
    past := (g.epoch :: g.past).take 3 }

def admitsIdentity (env : MlsEnv) (g : Group) : Option (Nat × Bytes) -> Bool
  | none => true
  | some (_, identifier) => env.auth.validSuccessor g.own.identity identifier

def admitsAttestation (g : Group) : Option ApqInfoUpdate -> Bool
  | none => true
  | some a =>
      (if suiteIsPq g.suite = some true then a.pqEpoch else a.tEpoch) ==
        g.epoch + 1

end Group

def nextSecret (secret nonce : Nat) (psks : List Bytes) : Nat :=
  psks.foldl absorb (mix secret nonce)

def confirmationTag (secret : Nat) : Nat :=
  mix secret 17

/-!
## Committing
-/

def peerAfter (env : MlsEnv) (g : Group) :
    Option Message -> Except MlsError (Option Leaf × Option Nat)
  | some (.keyPackage suite leaf _) =>
      if g.peer.isNone && suite == g.suite &&
          env.auth.validateMember leaf.identity then
        .ok (some leaf, none)
      else .error .other
  | some _ => .error .other
  | none =>
      match g.offers, g.peer with
      | [], peer => .ok (peer, none)
      | _ :: _, none => .error .other
      | offer :: _, some peer =>
          if env.auth.validSuccessor peer.identity offer.leaf.identity then
            .ok (some offer.leaf, some offer.nonce)
          else .error .invalidSuccessor

def welcomesFor (g : Group) (nonce : Nat) (psks : List PskId) (secret : Nat) :
    Option Message -> List Message
  | some (.keyPackage suite _ init) =>
      [.welcome
        { suite := suite
          init := init
          groupId := g.id
          epoch := g.epoch + 1
          joinerSecret := mix g.secret nonce
          psks := psks
          creator := g.own
          extensions := g.extensions
          tag := confirmationTag secret }]
  | _ => []

def planCommit (env : MlsEnv) (request : CommitRequest Message Nat) (nonce : Nat)
    (g : Group) : Except MlsError (CommitOutput Message × PendingCommit) := do
  let (peer, folded) <- peerAfter env g request.addMember
  if g.admitsIdentity env request.newSigningIdentity = false then
    .error .invalidSuccessor
  else if g.admitsAttestation request.customProposal = false then
    .error .other
  else
    match request.psks.mapM env.psk with
    | none => .error .other
    | some values =>
        let secret := nextSecret g.secret nonce values
        .ok
          ({ commitMessage :=
              .member g.id g.epoch g.created nonce (publicKey g.signer)
                (.commit
                  { leaf := g.leafFor request.newSigningIdentity
                    folded := folded
                    psks := request.psks
                    attestation := request.customProposal
                    tag := confirmationTag secret })
             welcomeMessages :=
              welcomesFor g nonce request.psks secret request.addMember },
            { identity := request.newSigningIdentity
              peer := peer
              secret := secret })

def buildCommit (env : MlsEnv) (request : CommitRequest Message Nat)
    (nonce : Nat) (g : Group) :
    Except MlsError (CommitOutput Message) × Group :=
  -- a nonce of zero stands for a random source that has run dry
  if nonce = 0 then (.error .other, g)
  else
    match planCommit env request nonce g with
    | .error e => (.error e, g)
    | .ok (output, pending) => (.ok output, { g with pending := some pending })

def applyPendingCommit (_ : MlsEnv) (g : Group) : Except MlsError Unit × Group :=
  match g.pending with
  | none => (.error .other, g)
  | some p => (.ok (), g.advance p.identity p.peer p.secret)

/-!
## Processing
-/

def ownAfter (env : MlsEnv) (g : Group) :
    Option Nat -> Except MlsError (Option (Nat × Bytes))
  | none => .ok none
  | some nonce =>
      match g.staged.find? fun u => u.1.nonce == some nonce with
      | none => .error .other
      | some u =>
          if g.admitsIdentity env u.2 then .ok u.2 else .error .invalidSuccessor

def checkCommit (env : MlsEnv) (g : Group) (peer : Leaf) (nonce : Nat)
    (body : CommitBody) : Except MlsError (Option (Nat × Bytes) × Nat) := do
  let identity <- ownAfter env g body.folded
  if env.auth.validSuccessor peer.identity body.leaf.identity = false then
    .error .invalidSuccessor
  else if g.admitsAttestation body.attestation = false then
    .error .other
  else
    match body.psks.mapM env.psk with
    | none => .error .other
    | some values =>
        let secret := nextSecret g.secret nonce values
        if confirmationTag secret = body.tag then .ok (identity, secret)
        else .error .other

def processApplication (g : Group) (peer : Leaf) (epoch nonce : Nat)
    (signature data : Bytes) : Except MlsError ReceivedMessage × Group :=
  if (epoch = g.epoch ∧ signature = peer.key) ∨ g.past.contains epoch then
    if g.opened.contains (epoch, nonce) then (.error .keyMissing, g)
    else
      (.ok (.applicationMessage g.peerIndex data),
        { g with opened := (epoch, nonce) :: g.opened })
  else (.error .other, g)

def processUpdate (g : Group) (nonce : Nat) (leaf : Leaf) (aad : Bytes) :
    Except MlsError ReceivedMessage × Group :=
  (.ok (.proposal
    { proposal := .update (.basic leaf.identity)
      sender := .member g.peerIndex
      authenticatedData := aad }),
    { g with offers := { leaf := leaf, nonce := nonce } :: g.offers })

def processCommit (env : MlsEnv) (g : Group) (peer : Leaf) (nonce : Nat)
    (body : CommitBody) : Except MlsError ReceivedMessage × Group :=
  match checkCommit env g peer nonce body with
  | .error e => (.error e, g)
  | .ok (identity, secret) =>
      (.ok (.commit (.newEpoch (body.attestation.map some).toList)),
        g.advance identity (some body.leaf) secret)

def processIncomingMessage (env : MlsEnv) (m : Message) (g : Group) :
    Except MlsError ReceivedMessage × Group :=
  match m, g.peer with
  | .member groupId epoch byCreator nonce signature body, some peer =>
      if groupId = g.id ∧ byCreator ≠ g.created then
        match body with
        | .application data _ =>
            processApplication g peer epoch nonce signature data
        | .update leaf aad =>
            if epoch = g.epoch ∧ signature = peer.key then
              processUpdate g nonce leaf aad
            else (.error .other, g)
        | .commit body =>
            if epoch = g.epoch ∧ signature = peer.key then
              processCommit env g peer nonce body
            else (.error .other, g)
      else (.error .other, g)
  | _, _ => (.error .other, g)

/-!
## The other calls
-/

def proposeUpdate (env : MlsEnv) (identity : Option (Nat × Bytes)) (aad : Bytes)
    (nonce : Nat) (g : Group) : Except MlsError Message × Group :=
  if g.admitsIdentity env identity then
    let m : Message :=
      .member g.id g.epoch g.created nonce (publicKey g.signer)
        (.update (g.leafFor identity) aad)
    (.ok m, { g with staged := (m, identity) :: g.staged })
  else (.error .invalidSuccessor, g)

def encryptApplicationMessage (data aad : Bytes) (nonce : Nat) (g : Group) :
    Except MlsError Message × Group :=
  if g.offers.isEmpty then
    (.ok (.member g.id g.epoch g.created nonce (publicKey g.signer)
      (.application data aad)), g)
  else (.error .other, g)

def createGroupWithId (env : MlsEnv) (client : ClientIdentity Nat) (suite : Nat)
    (id : Bytes) (extensions : GroupExtensions) (nonce : Nat) :
    Except MlsError Group :=
  if env.auth.validateMember client.identifier then
    .ok
      { id := id
        suite := suite
        epoch := 0
        secret := mix nonce 3
        extensions := extensions
        created := true
        own :=
          { identity := client.identifier, key := publicKey client.signer }
        peer := none
        signer := client.signer
        opened := []
        offers := []
        staged := []
        pending := none
        spent := []
        past := [] }
  else .error .identityProviderError

/-- A joined group signs with the joining client's key, whichever client the
key package was made for. -/
def joinGroup (env : MlsEnv) (client : ClientIdentity Nat)
    (kps : List KeyPackageSecret) (m : Message) : Except MlsError Group :=
  match m with
  | .welcome w =>
      match kps.find? fun kp => kp.init == w.init && kp.suite == w.suite,
        w.psks.mapM env.psk with
      | some kp, some values =>
          let secret := values.foldl absorb w.joinerSecret
          if env.auth.validateMember w.creator.identity = false ∨
              env.auth.validateMember kp.leaf.identity = false then
            .error .identityProviderError
          else if confirmationTag secret = w.tag then
            .ok
              { id := w.groupId
                suite := w.suite
                epoch := w.epoch
                secret := secret
                extensions := w.extensions
                created := false
                own := kp.leaf
                peer := some w.creator
                signer := client.signer
                opened := []
                offers := []
                staged := []
                pending := none
                spent := []
                past := [] }
          else .error .other
      | _, _ => .error .other
  | _ => .error .other

def safeExportSecret (component : Nat) (g : Group) :
    Except MlsError Bytes × Group :=
  if g.spent.contains component then (.error .other, g)
  else
    (.ok (squeeze 32 (mix g.secret component)),
      { g with spent := component :: g.spent })

def exportSecret (g : Group) (label context : Bytes) (length : Nat) :
    Except MlsError Bytes :=
  .ok (squeeze length (absorb (absorb (mix g.secret 5) label) context))

def generateKeyPackage (client : ClientIdentity Nat) (suite nonce : Nat) :
    Except MlsError (Message × KeyPackageSecret) :=
  let leaf : Leaf :=
    { identity := client.identifier, key := publicKey client.signer }
  .ok
    (.keyPackage suite leaf nonce,
      { suite := suite, leaf := leaf, init := nonce })

def aeadOpen (key ciphertext : Bytes) : Except MlsError Bytes :=
  if ciphertext.take key.length = key then .ok (ciphertext.drop key.length)
  else .error .other

def mls : MlsRs where
  Group := Group
  Message := Message
  Seed := Nat
  Signer := Nat
  KeyPackageSecret := KeyPackageSecret
  GroupSnapshot := Group
  toBytes m := .ok m.encode
  messageEpoch := Message.epoch
  messageGroupId := Message.groupId
  description := Message.description
  messageCipherSuite := Message.suite
  intoKeyPackage := Message.keyPackageInfo
  publicKey := publicKey
  signatureKeyGenerate nonce := .ok nonce
  generateKeyPackage := generateKeyPackage
  randomGroupId nonce := .ok (squeeze 8 nonce)
  currentEpoch := Group.epoch
  groupId := Group.id
  currentMemberIndex := Group.ownIndex
  roster := Group.roster
  commitRequired g := g.offers.isEmpty == false
  apqInfoExtension g := .ok g.extensions.apqInfo
  appBindingExtension g := .ok g.extensions.appBinding
  exportSecret := exportSecret
  safeExportSecret := safeExportSecret
  deriveSecret _ exporter label := .ok (sha256 (exporter ++ label))
  createGroupWithId := createGroupWithId
  joinGroup := joinGroup
  processIncomingMessage := processIncomingMessage
  clearProposalCache g := { g with offers := [] }
  buildCommit := buildCommit
  applyPendingCommit := applyPendingCommit
  proposeUpdate := proposeUpdate
  encryptApplicationMessage := encryptApplicationMessage
  writeToStorage g := (.ok (), g)
  storedEpoch g epoch := g.past.contains epoch
  exportGroup g := (.ok g, g)
  loadGroup g := .ok g
  sha256 := sha256
  kemGenerate nonce := .ok (squeeze 8 nonce, squeeze 8 nonce)
  kemEncap nonce ek := .ok (sha256 (ek ++ squeeze 8 nonce), squeeze 8 nonce)
  kemDecap enc _ ek := .ok (sha256 (ek ++ enc))
  kdfExtract salt ikm := .ok (sha256 (salt ++ ikm))
  kdfExpand prk info length := .ok (squeeze length (absorb 5 (prk ++ info)))
  expandWithLabel secret label context length :=
    .ok (squeeze length (absorb 29 (secret ++ label ++ context)))
  aeadKeySize := 32
  aeadNonceSize := 12
  aeadSeal key plaintext _ := .ok (key ++ plaintext)
  aeadOpen key ciphertext _ := aeadOpen key ciphertext
  randomBytes length nonce := .ok (squeeze length (mix nonce 23))
  hpkeSeal _ _ := .ok ()
  groupSigner := Group.signer
  pendingUpdates := Group.staged
  pendingSigningIdentity g := g.pending.map PendingCommit.identity
  welcomeEpoch
    | .welcome w => w.epoch
    | _ => 0
  keyPackageLeaf kp := (.basic kp.leaf.identity, kp.leaf.key)

/-!
## The laws
-/

theorem ownLeaf_eq (g : Group) :
    ownLeaf (M := mls) g = some (.basic g.own.identity, g.own.key) := by
  change ((g.roster).find? fun m => m.index == g.ownIndex).map _ = _
  unfold Group.roster Group.ownIndex
  cases g.created with
  | true => rfl
  | false =>
      cases g.peer with
      | none => rfl
      | some peer => rfl

theorem undisturbed_of {g g' : Group} (epoch : g'.epoch = g.epoch)
    (id : g'.id = g.id) (created : g'.created = g.created)
    (own : g'.own = g.own) (peer : g'.peer = g.peer)
    (signer : g'.signer = g.signer) (staged : g'.staged = g.staged) :
    Undisturbed (M := mls) g g' where
  epoch := epoch
  groupId := id
  memberIndex := by
    change g'.ownIndex = g.ownIndex
    unfold Group.ownIndex
    rw [created]
  roster := by
    change g'.roster = g.roster
    unfold Group.roster
    rw [created, own, peer]
  signer := signer
  updates := staged

theorem advanced_advance (g : Group) (identity : Option (Nat × Bytes))
    (peer : Option Leaf) (secret : Nat) :
    Advanced (M := mls) g (g.advance identity peer secret) where
  epoch := rfl
  groupId := rfl
  memberIndex := rfl
  updates := rfl

theorem ownKept_advance (g : Group) (peer : Option Leaf) (secret : Nat) :
    OwnKept (M := mls) g (g.advance none peer secret) := by
  refine ⟨?_, rfl⟩
  rw [ownLeaf_eq, ownLeaf_eq]
  rfl

theorem movedTo_advance (g : Group) (signer : Nat) (identifier : Bytes)
    (peer : Option Leaf) (secret : Nat) :
    MovedTo (M := mls) signer identifier
      (g.advance (some (signer, identifier)) peer secret) := by
  refine ⟨?_, rfl⟩
  rw [ownLeaf_eq]
  rfl

theorem ownAfter_staged {env : MlsEnv} {g : Group} {folded : Option Nat}
    {signer : Nat} {identifier : Bytes}
    (h : ownAfter env g folded = .ok (some (signer, identifier))) :
    exists update, (update, some (signer, identifier)) ∈ g.staged := by
  unfold ownAfter at h
  cases folded with
  | none => cases h
  | some nonce =>
      dsimp only at h
      split at h
      next => cases h
      next u hfind =>
        split at h
        next =>
          rcases u with ⟨update, identity⟩
          cases h
          exact ⟨update, List.mem_of_find?_eq_some hfind⟩
        next => cases h

theorem checkCommit_identity {env : MlsEnv} {g : Group} {peer : Leaf}
    {nonce : Nat} {body : CommitBody} {identity : Option (Nat × Bytes)}
    {secret : Nat} (h : checkCommit env g peer nonce body = .ok (identity, secret)) :
    ownAfter env g body.folded = .ok identity := by
  unfold checkCommit at h
  cases hown : ownAfter env g body.folded with
  | error e =>
      rw [hown] at h
      cases h
  | ok identity' =>
      rw [hown] at h
      change (if _ then _ else _) = _ at h
      split at h
      next => cases h
      next =>
        split at h
        next => cases h
        next =>
          split at h
          next => cases h
          next =>
            dsimp only at h
            split at h
            next =>
              cases h
              rfl
            next => cases h

theorem processCommit_effect (env : MlsEnv) (g : Group) (peer : Leaf)
    {groupId signature : Bytes} {epoch nonce : Nat} {byCreator : Bool}
    (body : CommitBody) (hgroup : groupId = g.id) (hepoch : epoch = g.epoch) :
    ProcessEffect mls (.member groupId epoch byCreator nonce signature (.commit body))
      g (processCommit env g peer nonce body).2
      (processCommit env g peer nonce body).1 := by
  unfold processCommit
  cases hcheck : checkCommit env g peer nonce body with
  | error e => exact Undisturbed.refl (M := mls) g
  | ok checked =>
      rcases checked with ⟨identity, secret⟩
      refine ⟨rfl, ?_⟩
      refine
        { toAdvanced := advanced_advance g identity _ secret
          messageEpoch := congrArg some hepoch
          messageGroupId := congrArg some hgroup
          own := ?_ }
      cases identity with
      | none => exact Or.inl (ownKept_advance g _ secret)
      | some identity =>
          rcases identity with ⟨signer, identifier⟩
          rcases ownAfter_staged (checkCommit_identity hcheck) with ⟨update, hmem⟩
          exact Or.inr
            ⟨update, signer, identifier, hmem, movedTo_advance g _ _ _ secret⟩

theorem process_effect (env : MlsEnv) (m : Message) (g : Group) :
    ProcessEffect mls m g (processIncomingMessage env m g).2
      (processIncomingMessage env m g).1 := by
  unfold processIncomingMessage
  split
  next groupId epoch byCreator nonce signature body peer hpeer =>
    split
    next hbound =>
      cases body with
      | application data aad =>
          dsimp only
          unfold processApplication
          split
          next =>
            split
            next => exact Undisturbed.refl (M := mls) g
            next => exact ⟨rfl, undisturbed_of rfl rfl rfl rfl rfl rfl rfl⟩
          next => exact Undisturbed.refl (M := mls) g
      | update leaf aad =>
          dsimp only
          split
          next hcurrent =>
            refine ⟨rfl, congrArg some hcurrent.1, ?_⟩
            exact undisturbed_of rfl rfl rfl rfl rfl rfl rfl
          next => exact Undisturbed.refl (M := mls) g
      | commit body =>
          dsimp only
          split
          next hcurrent =>
            exact processCommit_effect env g peer body hbound.1 hcurrent.1
          next => exact Undisturbed.refl (M := mls) g
    next => exact Undisturbed.refl (M := mls) g
  next => exact Undisturbed.refl (M := mls) g

theorem planCommit_ok {env : MlsEnv} {request : CommitRequest Message Nat}
    {nonce : Nat} {g : Group} {output : CommitOutput Message}
    {pending : PendingCommit}
    (h : planCommit env request nonce g = .ok (output, pending)) :
    pending.identity = request.newSigningIdentity ∧
      output.commitMessage.epoch = some g.epoch ∧
      output.commitMessage.description = .publicProtocolMessage .commit ∧
      exists secret, output.welcomeMessages =
        welcomesFor g nonce request.psks secret request.addMember := by
  unfold planCommit at h
  cases hpeer : peerAfter env g request.addMember with
  | error e =>
      rw [hpeer] at h
      cases h
  | ok after =>
      rw [hpeer] at h
      change (if _ then _ else _) = _ at h
      split at h
      next => cases h
      next =>
        split at h
        next => cases h
        next =>
          split at h
          next => cases h
          next =>
            cases h
            exact ⟨rfl, rfl, rfl, _, rfl⟩

theorem welcomesFor_epoch {g : Group} {nonce secret : Nat} {psks : List PskId}
    {add : Option Message} {w : Message}
    (h : w ∈ welcomesFor g nonce psks secret add) :
    mls.welcomeEpoch w = g.epoch + 1 := by
  unfold welcomesFor at h
  split at h
  next =>
    cases h with
    | head => rfl
    | tail _ h => cases h
  next => cases h

theorem build_undisturbed (env : MlsEnv) (request : CommitRequest Message Nat)
    (nonce : Nat) (g : Group) :
    Undisturbed (M := mls) g (buildCommit env request nonce g).2 := by
  unfold buildCommit
  split
  · exact Undisturbed.refl (M := mls) g
  · split
    next => exact Undisturbed.refl (M := mls) g
    next => exact undisturbed_of rfl rfl rfl rfl rfl rfl rfl

theorem build_ok {env : MlsEnv} {request : CommitRequest Message Nat} {nonce : Nat}
    {g : Group} {output : CommitOutput Message}
    (h : (buildCommit env request nonce g).1 = .ok output) :
    exists pending,
      planCommit env request nonce g = .ok (output, pending) ∧
        (buildCommit env request nonce g).2 = { g with pending := some pending } := by
  unfold buildCommit at h ⊢
  split at h
  · cases h
  next hnonce =>
    rw [if_neg hnonce]
    cases hplan : planCommit env request nonce g with
    | error e =>
        rw [hplan] at h
        cases h
    | ok planned =>
        rw [hplan] at h
        cases h
        exact ⟨planned.2, rfl, rfl⟩

theorem apply_ok {env : MlsEnv} {g : Group}
    (h : (applyPendingCommit env g).1 = .ok ()) :
    exists pending, g.pending = some pending ∧
      (applyPendingCommit env g).2 =
        g.advance pending.identity pending.peer pending.secret := by
  unfold applyPendingCommit at h ⊢
  cases hpending : g.pending with
  | none =>
      rw [hpending] at h
      cases h
  | some pending => exact ⟨pending, rfl, rfl⟩

theorem ownCommit_advance (g : Group) (identity : Option (Nat × Bytes))
    (peer : Option Leaf) (secret : Nat) :
    OwnCommit (M := mls) identity g (g.advance identity peer secret) where
  toAdvanced := advanced_advance g identity peer secret
  own := by
    cases identity with
    | none => exact Or.inl (ownKept_advance g peer secret)
    | some identity =>
        exact Or.inr ⟨_, _, rfl, movedTo_advance g _ _ peer secret⟩

theorem joinGroup_ok {env : MlsEnv} {client : ClientIdentity Nat}
    {kps : List KeyPackageSecret} {m : Message} {g : Group}
    (h : joinGroup env client kps m = .ok g) :
    g.epoch = mls.welcomeEpoch m ∧ g.signer = client.signer ∧ g.staged = [] ∧
      exists kp, kp ∈ kps ∧ g.own = kp.leaf := by
  unfold joinGroup at h
  split at h
  next w =>
    split at h
    next kp values hkp hvalues =>
      dsimp only at h
      split at h
      next => cases h
      next =>
        split at h
        next =>
          cases h
          exact ⟨rfl, rfl, rfl, kp, List.mem_of_find?_eq_some hkp, rfl⟩
        next => cases h
    next => cases h
  next => cases h

theorem lawful : Lawful mls where
  safeExport := by
    intro component g
    change Undisturbed g (safeExportSecret component g).2
    unfold safeExportSecret
    split
    · exact Undisturbed.refl (M := mls) g
    · exact undisturbed_of rfl rfl rfl rfl rfl rfl rfl
  clearCache := fun _ => undisturbed_of rfl rfl rfl rfl rfl rfl rfl
  writeStorage := fun g => Undisturbed.refl (M := mls) g
  exportState := fun g => Undisturbed.refl (M := mls) g
  encrypt := by
    intro data aad nonce g
    change Undisturbed g (encryptApplicationMessage data aad nonce g).2
    unfold encryptApplicationMessage
    split <;> exact Undisturbed.refl (M := mls) g
  encryptMessage := by
    intro data aad nonce g m h
    change (encryptApplicationMessage data aad nonce g).1 = .ok m at h
    unfold encryptApplicationMessage at h
    split at h
    next =>
      cases h
      exact ⟨rfl, rfl, rfl⟩
    next => cases h
  process := process_effect
  build := build_undisturbed
  buildMessage := by
    intro env request nonce g output h
    rcases build_ok h with ⟨pending, hplan, hbuilt⟩
    rcases planCommit_ok hplan with ⟨hidentity, hepoch, hkind, _⟩
    refine ⟨hepoch, ?_, ?_⟩
    · change (Message.description _).contentType = _
      rw [hkind]
      rfl
    · change ((buildCommit env request nonce g).2.pending.map _) = _
      rw [hbuilt]
      exact congrArg some hidentity
  applyError := by
    intro env g e h
    change Undisturbed g (applyPendingCommit env g).2
    change (applyPendingCommit env g).1 = _ at h
    unfold applyPendingCommit at h ⊢
    split at h
    next hpending => exact Undisturbed.refl (M := mls) g
    next => cases h
  applyOk := by
    intro env g h
    rcases apply_ok h with ⟨pending, hpending, happlied⟩
    refine ⟨pending.identity, ?_, ?_⟩
    · change g.pending.map _ = _
      rw [hpending]
      rfl
    · change OwnCommit pending.identity g (applyPendingCommit env g).2
      rw [happlied]
      exact ownCommit_advance g _ _ _
  proposeError := by
    intro env identity aad nonce g e h
    change Undisturbed g (proposeUpdate env identity aad nonce g).2
    change (proposeUpdate env identity aad nonce g).1 = _ at h
    unfold proposeUpdate at h ⊢
    split at h
    next => cases h
    next hrefused =>
      rw [if_neg hrefused]
      exact Undisturbed.refl (M := mls) g
  proposeOk := by
    intro env identity aad nonce g m h
    change (proposeUpdate env identity aad nonce g).1 = _ at h
    change _ ∧ _ ∧ Proposed m identity g (proposeUpdate env identity aad nonce g).2
    unfold proposeUpdate at h ⊢
    split at h
    next hadmits =>
      cases h
      rw [if_pos hadmits]
      exact
        ⟨rfl, rfl,
          { epoch := rfl, groupId := rfl, memberIndex := rfl, roster := rfl
            signer := rfl, updates := rfl }⟩
    next => cases h
  createGroup := by
    intro env client suite gid extensions nonce g h
    change createGroupWithId env client suite gid extensions nonce = .ok g at h
    unfold createGroupWithId at h
    split at h
    next =>
      cases h
      exact ⟨rfl, ownLeaf_eq _, rfl, rfl⟩
    next => cases h
  buildWelcome := by
    intro env request nonce g output w h hw
    rcases build_ok h with ⟨pending, hplan, _⟩
    rcases planCommit_ok hplan with ⟨_, _, _, secret, hwelcomes⟩
    rw [hwelcomes] at hw
    exact welcomesFor_epoch hw
  joinGroup := by
    intro env client kps m g h
    rcases joinGroup_ok h with ⟨hepoch, hsigner, hstaged, kp, hmem, hown⟩
    refine ⟨hepoch, hsigner, hstaged, kp, hmem, ?_⟩
    exact (ownLeaf_eq g).trans (by rw [hown]; rfl)
  keyPackage := by
    intro client suite nonce m kp h
    change generateKeyPackage client suite nonce = .ok (m, kp) at h
    cases h
    rfl
  loadGroup := by
    intro g g' snapshot hexport hload
    cases hexport
    cases hload
    exact Undisturbed.refl (M := mls) g

theorem handsOver : HandsOver mls where
  applied := by
    intro env g signer identifier h hidentity
    change (applyPendingCommit env g).1 = _ at h
    rcases apply_ok h with ⟨pending, hpending, happlied⟩
    change g.pending.map _ = _ at hidentity
    rw [hpending] at hidentity
    have hpair : pending.identity = some (signer, identifier) :=
      Option.some.inj hidentity
    change MovedTo signer identifier (applyPendingCommit env g).2
    rw [happlied, hpair]
    exact movedTo_advance g _ _ _ _

theorem atomicProposals : AtomicProposals mls where
  failed := by
    intro env identity aad nonce g e h
    change (proposeUpdate env identity aad nonce g).1 = _ at h
    change (proposeUpdate env identity aad nonce g).2 = g
    unfold proposeUpdate at h ⊢
    split at h
    next => cases h
    next hrefused => rw [if_neg hrefused]

theorem dependable : Dependable mls where
  exportSecret := by
    intro g label context length _
    exact ⟨_, rfl, length_squeeze length _⟩
  writeStorage _ := rfl
  exportGroup g := ⟨g, rfl⟩
  loadGroup _ snapshot _ := ⟨snapshot, rfl⟩
  toBytes m := ⟨m.encode, rfl⟩
  digest bytes := length_squeeze 32 _

theorem framed : Framed mls where
  version m bytes h := by
    cases h
    cases m with
    | _ => rfl

end Reference
end Apq
end TwoMlsPq
