import TwoMlsPq.Session.Bootstrap
import TwoMlsPq.Session.Checked

/-!
# How an initiator adopts its peer

An initiator has no recv group until it joins one from a return welcome.  The
welcome may come bare or inside an approved handoff, standalone or stapled to a
message.  Until one is adopted nothing an arbitrary sender delivers names
another peer, and afterwards no welcome replaces the group.
-/

namespace TwoMlsPq
namespace Session

open Foundation Apq

section

variable {M : MlsRs} {α : Type}

/-!
## What a refusal leaves alone
-/

structure SamePeer (s s' : SessionInner M) : Prop where
  theirState : s'.rotation.theirState = s.rotation.theirState
  mine : s'.services.auth.mine = s.services.auth.mine
  theirs : s'.services.auth.theirs = s.services.auth.theirs
  adopting : s'.services.auth.adopting = s.services.auth.adopting
  joined : s'.msg.joinedWelcomeDigest = s.msg.joinedWelcomeDigest

structure Standing (s s' : SessionInner M) : Prop extends SamePeer s s' where
  recv : HalfQuiet (s.half .recvClassical) (s'.half .recvClassical)
  recvPq : HalfQuiet (s.half .recvPq) (s'.half .recvPq)

/-- Neither the message slots nor the principals moved. -/
structure Refused (s s' : SessionInner M) : Prop extends Standing s s' where
  client : s'.client = s.client
  msg : s'.msg = s.msg
  rotation : s'.rotation = s.rotation

theorem SamePeer.refl (s : SessionInner M) : SamePeer s s :=
  { theirState := rfl, mine := rfl, theirs := rfl, adopting := rfl, joined := rfl }

theorem SamePeer.trans {s₁ s₂ s₃ : SessionInner M} (h : SamePeer s₁ s₂)
    (h' : SamePeer s₂ s₃) :
    SamePeer s₁ s₃ where
  theirState := h'.theirState.trans h.theirState
  mine := h'.mine.trans h.mine
  theirs := h'.theirs.trans h.theirs
  adopting := h'.adopting.trans h.adopting
  joined := h'.joined.trans h.joined

theorem Standing.refl (s : SessionInner M) : Standing s s where
  toSamePeer := SamePeer.refl s
  recv := HalfQuiet.refl _
  recvPq := HalfQuiet.refl _

theorem Standing.trans {s₁ s₂ s₃ : SessionInner M} (h : Standing s₁ s₂)
    (h' : Standing s₂ s₃) :
    Standing s₁ s₃ where
  toSamePeer := h.toSamePeer.trans h'.toSamePeer
  recv := h.recv.trans h'.recv
  recvPq := h.recvPq.trans h'.recvPq

theorem Refused.refl (s : SessionInner M) : Refused s s where
  toStanding := Standing.refl s
  client := rfl
  msg := rfl
  rotation := rfl

theorem Refused.trans {s₁ s₂ s₃ : SessionInner M} (h : Refused s₁ s₂)
    (h' : Refused s₂ s₃) :
    Refused s₁ s₃ where
  toStanding := h.toStanding.trans h'.toStanding
  client := h'.client.trans h.client
  msg := h'.msg.trans h.msg
  rotation := h'.rotation.trans h.rotation

theorem refused_of_slots {s s' : SessionInner M}
    (hread : forall slot, slot ∈ [Slot.half .recvClassical, .half .recvPq, .client,
      .msg, .rotation] -> s'.read slot = s.read slot)
    (hauth : s'.services.auth = s.services.auth) :
    Refused s s' := by
  have hrecv : s'.half .recvClassical = s.half .recvClassical :=
    hread (.half .recvClassical) (by simp)
  have hrecvPq : s'.half .recvPq = s.half .recvPq := hread (.half .recvPq) (by simp)
  have hclient : s'.client = s.client := hread .client (by simp)
  have hmsg : s'.msg = s.msg := hread .msg (by simp)
  have hrotation : s'.rotation = s.rotation := hread .rotation (by simp)
  constructor
  · constructor
    · constructor
      · rw [hrotation]
      · rw [hauth]
      · rw [hauth]
      · rw [hauth]
      · rw [hmsg]
    · rw [hrecv]
      exact HalfQuiet.refl _
    · rw [hrecvPq]
      exact HalfQuiet.refl _
  · exact hclient
  · exact hmsg
  · exact hrotation

theorem Touches.refused {W : List Slot} {x : SessionOp M α} (hx : Touches W x)
    (hW : forall slot, slot ∈ [Slot.half .recvClassical, .half .recvPq, .client,
      .msg, .rotation] -> slot ∉ W)
    (hview : KeepsView x) (s : SessionInner M) :
    Refused s (x.run s).2 := by
  apply refused_of_slots
  · exact fun slot hslot => hx s slot (hW slot hslot)
  · have hkept := hview s () (by simp)
    exact congrArg Prod.snd hkept

theorem Standing.absent {s s' : SessionInner M} (h : Standing s s')
    (hnone : s.recvGroup = none) :
    s'.recvGroup = none := by
  have hrecv := h.recv
  have hhalf : s.half .recvClassical = none := by
    unfold SessionInner.half
    rw [hnone]
    rfl
  rw [hhalf] at hrecv
  have hhalf' := hrecv.none_left
  unfold SessionInner.half at hhalf'
  rw [Option.map_eq_none_iff] at hhalf'
  exact hhalf'

/-!
## Joining
-/

/-- The session after it has adopted the creator of a welcome as its peer. -/
structure Adopts (welcome : WelcomeBytes M) (establishment : WelcomeEstablishment)
    (s u : SessionInner M) : Prop where
  group : exists w recv creatorId send binding,
    welcome.decoded = some w ∧ JoinedPair s.client w recv ∧ u.recvGroup = some recv ∧
      senderClientId recv.classical (peerIndex recv.classical) = .ok creatorId ∧
      creatorAllowed s creatorId establishment = .ok () ∧
      u.half .sendClassical = some send ∧
      readAppBinding send = .ok binding ∧
      readAppBinding recv.classical = .ok binding ∧
      u.rotation.theirState = .sync creatorId ∧
      u.services.auth.theirs = s.services.auth.theirs.commit creatorId
  mine : u.services.auth.mine = s.services.auth.mine
  adopting : u.services.auth.adopting = s.services.auth.adopting
  joined : u.msg.joinedWelcomeDigest = some (M.sha256 welcome.bytes)

theorem keepsView_trackPskStores (client : TwoMlsPqPrincipal M) :
    KeepsView (Op.update fun s => trackPskStores client s : SessionOp M Unit) := by
  apply keepsView_update
  · intro s
    unfold trackPskStores
    split
    · rfl
    · rfl
  · intro s
    unfold trackPskStores
    split
    · rfl
    · rfl

theorem keepsView_joinWelcome (w : ApqWelcome M) : KeepsView (joinWelcome w) := by
  unfold joinWelcome
  refine Op.Writes.looking Op.Still.state fun s => ?_
  dsimp only
  apply Op.Writes.ite
  · refine Op.Writes.looking (Op.Still.ofExcept _) fun classical => ?_
    refine Op.Writes.looking (Op.Still.ofExcept _) fun _ => ?_
    exact Op.Writes.value _
  · refine Op.Writes.looking (Op.Still.ofExcept _) fun pq => ?_
    refine Op.Writes.looking ?_ fun exported => ?_
    · split
      · exact Op.Still.value _
      · exact Op.Still.fail _
    refine Op.Writes.bind ?_ fun _ => ?_
    · exact keepsView_update (fun _ => rfl) fun _ => rfl
    refine Op.Writes.looking Op.Still.state fun s => ?_
    refine Op.Writes.looking (Op.Still.ofExcept _) fun classical => ?_
    refine Op.Writes.looking (Op.Still.ofExcept _) fun _ => ?_
    refine Op.Writes.looking (Op.Still.ofExcept _) fun _ => ?_
    exact Op.Writes.value _

theorem verifyAppBinding_ok {g : M.Group} {binding : Option Bytes}
    (h : verifyAppBinding g binding = .ok ()) :
    readAppBinding g = .ok binding := by
  unfold verifyAppBinding at h
  cases hread : readAppBinding g with
  | error e =>
      rw [hread] at h
      cases h
  | ok read =>
      rw [hread] at h
      change (if read = binding then _ else _) = _ at h
      split at h
      next heq => rw [heq]
      next => cases h

def Raised (s₀ s : SessionInner M) : Prop :=
  Refused s₀ (setAdopting false s)

theorem Raised.refused {s₀ s s' : SessionInner M} (h : Raised s₀ s)
    (h' : Refused s s') :
    Raised s₀ s' := by
  have hlowered : Refused (setAdopting false s) (setAdopting false s') := by
    constructor
    · constructor
      · constructor
        · exact h'.theirState
        · exact h'.mine
        · exact h'.theirs
        · rfl
        · exact h'.joined
      · exact h'.recv
      · exact h'.recvPq
    · exact h'.client
    · exact h'.msg
    · exact h'.rotation
  exact Refused.trans h hlowered

theorem raised_joinWelcome (L : Lawful M) (w : ApqWelcome M) (s : SessionInner M) :
    Op.Triple (Raised s) (joinWelcome w)
      (fun recv s' => JoinedPair s.client w recv ∧ Raised s s') fun _ => Raised s := by
  intro s' hs'
  have hkept : Raised s ((joinWelcome w).run s').2 :=
    hs'.refused ((touches_joinWelcome w).refused (by decide) (keepsView_joinWelcome w) s')
  have hvia : Via quietEvents (fun c => c.client = s'.client) (joinWelcome w)
      fun recv c => c.client = s'.client ∧ JoinedPair c.client w recv :=
    via_joinWelcome L True.intro (Stable.slots fun _ _ h => h)
  cases hresult : ((joinWelcome w).run s').1 with
  | error e => exact hkept
  | ok recv =>
      rcases hvia.result rfl hresult with ⟨hclient, hjoined⟩
      rw [hclient, show s'.client = s.client from hs'.client] at hjoined
      exact ⟨hjoined, hkept⟩

theorem adopts_processWelcome (L : Lawful M) (welcome : WelcomeBytes M)
    (establishment : WelcomeEstablishment) {s₀ : SessionInner M}
    (hnone : s₀.recvGroup = none) (hclosed : s₀.services.auth.adopting = false) :
    Op.Triple (fun s => s = s₀) (processWelcome welcome establishment)
      (fun _ u => Adopts welcome establishment s₀ u) fun _ => Refused s₀ := by
  unfold processWelcome
  dsimp only
  refine Op.Triple.reading fun s hs => ?_
  subst hs
  have habsent : ¬ s.recvGroup.isSome = true := by
    rw [hnone]
    exact fun h => nomatch h
  rw [if_neg habsent]
  have hexit : forall (e : TwoMlsPqError) s', Refused s s' -> Refused s s' :=
    fun _ _ h => h
  refine Op.Triple.bind (Q := fun _ => Refused s) ?_ fun _ => ?_
  · rintro s' rfl
    exact (touches_update (confined_trackPskStores s'.client (W := [.ledger])
      (by decide))).refused (by decide) (keepsView_trackPskStores s'.client) s'
  refine Op.Triple.bind (Q := fun _ => Refused s) ?_ fun _ => ?_
  · refine Op.Triple.ofKeeps fun s' hs' => ?_
    exact hs'.trans ((touches_injectSendPsksIf _).refused (by decide)
      (Op.Writes.ite keepsView_injectSendPsks (Op.Writes.value ())) s')
  refine Op.Triple.knowing (Op.Returns.ofOption _ _)
    (Op.Triple.keptBy (Op.Still.ofOption _ _) hexit) fun w hdecoded => ?_
  refine Op.Triple.looking (Op.Still.ofExcept _) hexit fun _ => ?_
  refine Op.Triple.bind (Q := fun _ => Raised s) (Op.Triple.update fun s' hs' => ?_)
    fun _ => ?_
  · constructor
    · constructor
      · constructor
        · exact hs'.theirState
        · exact hs'.mine
        · exact hs'.theirs
        · exact hclosed.symm
        · exact hs'.joined
      · exact hs'.recv
      · exact hs'.recvPq
    · exact hs'.client
    · exact hs'.msg
    · exact hs'.rotation
  refine Op.Triple.bind (Q := fun joined s' =>
    (forall recv, joined = .ok recv -> JoinedPair s.client w recv) ∧ Raised s s') ?_
    fun joined => Op.Triple.assume fun hjoined => ?_
  · refine (raised_joinWelcome L w s).attempt.post fun joined s' hs' => ?_
    cases joined with
    | ok recv =>
        refine ⟨fun recv' heq => ?_, hs'.2⟩
        cases heq
        exact hs'.1
    | error e => exact ⟨nofun, hs'⟩
  refine Op.Triple.bind (Q := fun _ => Refused s) (Op.Triple.update fun _ h => h)
    fun _ => ?_
  refine Op.Triple.knowing (Op.Returns.ofExcept _)
    (Op.Triple.keptBy (Op.Still.ofExcept _) hexit) fun recv hrecv => ?_
  refine triple_readHalf (fun _ hs' _ => hs') fun s₁ send hs₁ hsend => ?_
  have hexit₁ : forall (e : TwoMlsPqError) s', s' = s₁ -> Refused s s' := by
    rintro e s' rfl
    exact hs₁
  refine Op.Triple.knowing (Op.Returns.ofExcept _)
    (Op.Triple.keptBy (Op.Still.ofExcept _) hexit₁) fun ownBinding hown => ?_
  refine Op.Triple.knowing (Op.Returns.ofExcept _)
    (Op.Triple.keptBy (Op.Still.ofExcept _) hexit₁) fun _ hbinding => ?_
  refine Op.Triple.looking (Op.Still.ofExcept _) hexit₁ fun _ => ?_
  refine Op.Triple.knowing (Op.Returns.ofExcept _)
    (Op.Triple.keptBy (Op.Still.ofExcept _) hexit₁) fun creatorId hcreator => ?_
  refine Op.Triple.reading fun s₂ hs₂ => ?_
  subst hs₂
  refine Op.Triple.knowing (Op.Returns.ofExcept _)
    (Op.Triple.keptBy (Op.Still.ofExcept _) hexit₁) fun _ hallowed => ?_
  refine Op.Triple.update fun s₃ hs₃ => ?_
  subst hs₃
  have hallowed₀ : creatorAllowed s creatorId establishment = .ok () := by
    rw [← hallowed]
    unfold creatorAllowed
    rw [hs₁.theirState]
  refine
    { group := ⟨w, recv, creatorId, send, ownBinding, hdecoded, hjoined recv hrecv, rfl,
        hcreator, hallowed₀, hsend, hown, verifyAppBinding_ok hbinding, rfl, ?_⟩
      mine := hs₁.mine
      adopting := hs₁.adopting
      joined := rfl }
  change s₃.services.auth.theirs.commit creatorId = _
  rw [hs₁.theirs]

/-!
## Frames for a session that has not joined
-/

def Frame.brings : Frame M -> Option (Staple M)
  | .welcome w => some (.welcome w)
  | .handoff envelope w => some (.handoff envelope w)
  | .message staple _ _ => some staple
  | _ => none

/-- A welcome that may be joined: a bare one, or one in a handoff of which the
approval covers both parts. -/
def Staple.Admits (approval : Option EstablishmentApproval) (st : Staple M)
    (w : WelcomeBytes M) : WelcomeEstablishment -> Prop
  | .bare => st = .welcome w
  | .approved expectedCreator =>
      exists envelope a, st = .handoff envelope w ∧ approval = some a ∧
        a.approvedEnvelopeDigest = M.sha256 envelope ∧
        a.approvedWelcomeDigest = M.sha256 w.bytes ∧
        a.expectedCreator = expectedCreator

/-- The frame had the session join one welcome, and what followed in the frame
named nobody else. -/
def Joins (frame : Frame M) (approval : Option EstablishmentApproval)
    (s u : SessionInner M) : Prop :=
  exists st w establishment v,
    frame.brings = some st ∧ st.Admits approval w establishment ∧
      Adopts w establishment s v ∧ SamePeer v u ∧ u.recvGroup.isSome = true ∧
      ((forall m, frame.opened = some m ->
          (M.description m).contentType ≠ some .commit) ->
        Standing v u)

/-- A message whose welcome was joined, and of which a later part failed. -/
def Torn (frame : Frame M) (approval : Option EstablishmentApproval)
    (s u : SessionInner M) : Prop :=
  (exists staple proposal app, frame = .message staple proposal app) ∧
    Joins frame approval s u

def isPaused : Option (DecryptResult M) -> Bool
  | some d => d.pendingEstablishment.isSome
  | none => false

theorem isPaused_processMessageBody {outcome : StapleOutcome}
    {proposal : ProposalSection M} {app : M.Message} {s u : SessionInner M}
    {result : DecryptResult M}
    (h : (processMessageBody outcome proposal app).run s = (.ok result, u)) :
    isPaused (some result) = false := by
  have hreturns : Op.Returns (processMessageBody outcome proposal app)
      fun result => result.pendingEstablishment = none := by
    unfold processMessageBody
    refine Op.Returns.bind (Op.Returns.any _) fun _ _ => ?_
    refine Op.Returns.bind (Op.Returns.any _) fun _ _ => ?_
    refine Op.Returns.bind (Op.Returns.any _) fun received _ => ?_
    refine Op.Returns.bind (Op.Returns.any _) fun send _ => ?_
    refine Op.Returns.bind (Op.Returns.any _) fun offered _ => ?_
    refine Op.Returns.bind (Op.Returns.any _) fun s _ => ?_
    exact Op.Returns.value rfl
  have hresult : result.pendingEstablishment = none := hreturns s result (by rw [h])
  change result.pendingEstablishment.isSome = false
  rw [hresult]
  rfl

theorem coveringApproval_some {approval : Option EstablishmentApproval}
    {envelope : Bytes} {w : WelcomeBytes M} {a : EstablishmentApproval}
    (h : coveringApproval approval envelope w = some a) :
    (Staple.handoff envelope w).Admits approval w (.approved a.expectedCreator) := by
  unfold coveringApproval at h
  rw [Option.filter_eq_some_iff] at h
  rcases h with ⟨happroval, hcovers⟩
  unfold EstablishmentApproval.covers at hcovers
  rw [Bool.and_eq_true, beq_iff_eq, beq_iff_eq] at hcovers
  exact ⟨envelope, a, rfl, happroval, hcovers.1.symm, hcovers.2.symm, rfl⟩

theorem Adopts.joined_group {welcome : WelcomeBytes M}
    {establishment : WelcomeEstablishment} {s u : SessionInner M}
    (h : Adopts welcome establishment s u) :
    u.recvGroup.isSome = true := by
  rcases h.group with ⟨_, recv, _, _, _, _, _, hrecv, _⟩
  rw [hrecv]
  rfl

theorem Adopts.noteNewSender {welcome : WelcomeBytes M}
    {establishment : WelcomeEstablishment} {s u : SessionInner M}
    (h : Adopts welcome establishment s u) (prior : Bytes) :
    Standing u (noteNewSender
      (welcomeOutcome prior u.rotation.theirState.clientId).moved.newSender u) := by
  rcases h.group with ⟨_, _, creatorId, _, _, _, _, _, _, _, _, _, _, htheir, htheirs⟩
  have hcurrent : u.services.auth.theirs.current = some creatorId := by
    rw [htheirs]
    exact PartySequence.current_commit _ _
  have hid : u.rotation.theirState.clientId = creatorId := by
    rw [htheir]
    rfl
  unfold welcomeOutcome
  split
  · rw [hid]
    refine
      { theirState := htheir.symm
        mine := rfl
        theirs := PartySequence.commit_of_current hcurrent
        adopting := rfl
        joined := rfl
        recv := HalfQuiet.refl _
        recvPq := HalfQuiet.refl _ }
  · exact Standing.refl u

theorem welcomeOutcome_own (prior adopted : Bytes) :
    (welcomeOutcome prior adopted).moved.canonicalizedOwn = none := by
  unfold welcomeOutcome
  split
  · rfl
  · rfl

def KeepsJoined (x : SessionOp M α) : Prop :=
  Op.Writes (fun (_ : Unit) (s : SessionInner M) => s.msg.joinedWelcomeDigest) [] x

theorem Touches.keepsJoined {W : List Slot} {x : SessionOp M α} (hx : Touches W x)
    (hmsg : .msg ∉ W) :
    KeepsJoined x := by
  intro s _ _
  have hkept : (x.run s).2.msg = s.msg := hx s .msg hmsg
  dsimp only
  rw [hkept]

theorem keepsJoined_recordOffer (section_ : ProposalSection M)
    (sender groupId : Bytes) :
    KeepsJoined (recordOffer section_ sender groupId) := by
  have hmap : forall f : MessageState M -> MessageState M,
      (forall m, (f m).joinedWelcomeDigest = m.joinedWelcomeDigest) ->
        KeepsJoined (Op.update fun s => s.mapMsg f) :=
    fun f hf s _ _ => hf s.msg
  have hwatermark : forall proposal proposing,
      KeepsJoined (noteWatermark (M := M) proposal proposing) := by
    intro proposal proposing
    unfold noteWatermark
    refine Op.Writes.looking Op.Still.state fun s => ?_
    split
    · exact Op.Writes.value ()
    · dsimp only
      apply Op.Writes.ite
      · exact Op.Writes.value ()
      refine Op.Writes.bind ?_ fun validated => ?_
      · exact Op.Writes.attempt
          (Touches.keepsJoined (touches_validateOfferedUpdate _ _) (by decide))
      split
      · exact hmap _ fun _ => rfl
      · exact Op.Writes.value ()
  unfold recordOffer
  refine Op.Writes.looking (Op.Still.ofOption _ _) fun offer => ?_
  refine Op.Writes.bind (hwatermark _ _) fun _ => ?_
  refine Op.Writes.bind (hmap _ fun _ => rfl) fun _ => ?_
  exact Op.Writes.value _

theorem standing_recordOffer (section_ : ProposalSection M) (sender groupId : Bytes)
    (s : SessionInner M) :
    Standing s ((recordOffer section_ sender groupId).run s).2 := by
  have htouches := touches_recordOffer section_ sender groupId
  have hrotation : ((recordOffer section_ sender groupId).run s).2.rotation =
      s.rotation :=
    htouches s .rotation (by decide)
  have hservices : ((recordOffer section_ sender groupId).run s).2.services =
      s.services :=
    htouches s .services (by decide)
  have hjoined := keepsJoined_recordOffer section_ sender groupId s () (by simp)
  refine
    { theirState := ?_
      mine := ?_
      theirs := ?_
      adopting := ?_
      joined := hjoined
      recv := ?_
      recvPq := ?_ }
  · rw [hrotation]
  · rw [hservices]
  · rw [hservices]
  · rw [hservices]
  · rw [htouches.half (by decide) s]
    exact HalfQuiet.refl _
  · rw [htouches.half (by decide) s]
    exact HalfQuiet.refl _

theorem standing_of_quiet {s s' : SessionInner M} (h : QuietMove s s')
    (hrotation : s'.rotation = s.rotation) :
    Standing s s' := by
  have hauth : s'.services.auth = s.services.auth := congrArg Core.auth h.2
  refine
    { theirState := ?_
      mine := ?_
      theirs := ?_
      adopting := ?_
      joined := congrArg Core.joined h.2
      recv := h.1 .recvClassical
      recvPq := h.1 .recvPq }
  · rw [hrotation]
  · rw [hauth]
  · rw [hauth]
  · rw [hauth]

theorem quiet_decryptApp (L : Lawful M) {app : M.Message}
    (hcommit : (M.description app).contentType ≠ some .commit) :
    QuietOp (decryptApp app) := by
  unfold decryptApp
  refine QuietOp.bind (QuietOp.callHalf fun env g =>
    process_undisturbed L hcommit env g) fun received => ?_
  cases received with
  | applicationMessage index data =>
      refine QuietOp.bind (QuietOp.readHalf _ _) fun recv => ?_
      refine QuietOp.bind (QuietOp.ofExcept _) fun sender => ?_
      exact QuietOp.pure _
  | commit effect => exact QuietOp.fail _
  | proposal desc => exact QuietOp.fail _
  | other => exact QuietOp.fail _

theorem samePeer_decryptApp (app : M.Message) (s : SessionInner M) :
    SamePeer s ((decryptApp app).run s).2 := by
  have htouches := touches_decryptApp app
  have hrotation : ((decryptApp app).run s).2.rotation = s.rotation :=
    htouches s .rotation (by decide)
  have hservices : ((decryptApp app).run s).2.services = s.services :=
    htouches s .services (by decide)
  have hmsg : ((decryptApp app).run s).2.msg = s.msg := htouches s .msg (by decide)
  constructor
  · rw [hrotation]
  · rw [hservices]
  · rw [hservices]
  · rw [hservices]
  · rw [hmsg]

theorem recvGroup_isSome_iff (s : SessionInner M) :
    s.recvGroup.isSome = true <-> s.core.half .recvClassical ≠ none := by
  change _ <-> s.half .recvClassical ≠ none
  unfold SessionInner.half
  cases s.recvGroup with
  | none => simp
  | some recv => simp

theorem Standing.held {s s' : SessionInner M} (h : Standing s s')
    (held : s.recvGroup.isSome = true) :
    s'.recvGroup.isSome = true := by
  rw [recvGroup_isSome_iff] at held ⊢
  intro hnone
  have hrecv := h.recv
  change s'.half .recvClassical = none at hnone
  rw [hnone] at hrecv
  exact held hrecv.symm.none_left

theorem decryptApp_holds (L : Lawful M) (app : M.Message) {s : SessionInner M}
    (h : s.recvGroup.isSome = true) :
    ((decryptApp app).run s).2.recvGroup.isSome = true := by
  have hvia : Via (fun _ => True) (fun _ => True) (decryptApp app) fun _ _ => True :=
    via_decryptApp L True.intro True.intro
  have hpath := hvia.goes (s := s) True.intro
  rw [recvGroup_isSome_iff] at h ⊢
  exact hpath.half_ne_none h

structure FollowsJoin (app : M.Message) (v u : SessionInner M) : Prop where
  peer : SamePeer v u
  held : u.recvGroup.isSome = true
  stands : (M.description app).contentType ≠ some .commit -> Standing v u

theorem FollowsJoin.standing {app : M.Message} {v s u : SessionInner M}
    (h : FollowsJoin app v s) (h' : Standing s u) :
    FollowsJoin app v u where
  peer := h.peer.trans h'.toSamePeer
  held := h'.held h.held
  stands := fun hcommit => (h.stands hcommit).trans h'

theorem followsJoin_processMessageBody (L : Lawful M) {welcome : WelcomeBytes M}
    {establishment : WelcomeEstablishment} {s₀ v : SessionInner M}
    (h : Adopts welcome establishment s₀ v) (prior : Bytes)
    (proposal : ProposalSection M) (app : M.Message) :
    FollowsJoin app v
      ((processMessageBody (welcomeOutcome prior v.rotation.theirState.clientId)
        proposal app).run v).2 := by
  have hstart : FollowsJoin app v (noteNewSender
      (welcomeOutcome prior v.rotation.theirState.clientId).moved.newSender v) := by
    have hrefl : FollowsJoin app v v :=
      ⟨SamePeer.refl v, h.joined_group, fun _ => Standing.refl v⟩
    exact hrefl.standing (h.noteNewSender prior)
  have hdecrypt : Op.Keeps (FollowsJoin app v) (decryptApp app) := by
    intro s hs
    refine ⟨hs.peer.trans (samePeer_decryptApp app s), decryptApp_holds L app hs.held,
      fun hcommit => (hs.stands hcommit).trans ?_⟩
    exact standing_of_quiet (quiet_decryptApp L hcommit s)
      (touches_decryptApp app s .rotation (by decide))
  unfold processMessageBody
  rw [Op.run_bind_ok (Op.run_update _ _), welcomeOutcome_own]
  have hrest : Op.Keeps (FollowsJoin app v) (do
      noteCanonicalizedOwn none
      let received <- decryptApp app
      let send <- readHalf .sendClassical .sessionNotEstablished
      let offered <- recordOffer proposal received.senderClientId (M.groupId send)
      let s <- Op.state
      pure
        ({ applicationMessage := some received
           proposal := some offered
           remoteCommit :=
             if (welcomeOutcome prior v.rotation.theirState.clientId).applied then
               some
                 { newSender :=
                     (welcomeOutcome prior v.rotation.theirState.clientId).moved.newSender
                   newRecipient := s.rotation.myState.clientId }
             else none
           pendingEstablishment := none } : DecryptResult M)) := by
    refine Op.Keeps.bind (Op.Keeps.value ()) fun _ => ?_
    refine Op.Keeps.bind hdecrypt fun received => ?_
    refine Op.Keeps.looking (still_readHalf _ _) fun send => ?_
    refine Op.Keeps.bind (fun s hs => hs.standing (standing_recordOffer _ _ _ s))
      fun offered => ?_
    refine Op.Keeps.looking Op.Still.state fun s => ?_
    exact Op.Keeps.value _
  exact hrest _ hstart

section

variable {s₀ : SessionInner M}

theorem refused_start : forall (_ : TwoMlsPqError) (s : SessionInner M), s = s₀ ->
    Refused s₀ s := by
  rintro _ s rfl
  exact Refused.refl s

theorem adopts_joinReporting (L : Lawful M) (welcome : WelcomeBytes M)
    (establishment : WelcomeEstablishment) (hnone : s₀.recvGroup = none)
    (hclosed : s₀.services.auth.adopting = false) :
    Op.Triple (fun s => s = s₀) (joinReporting welcome establishment)
      (fun outcome u => Adopts welcome establishment s₀ u ∧
        outcome = welcomeOutcome s₀.rotation.theirState.clientId
          u.rotation.theirState.clientId)
      fun _ => Refused s₀ := by
  unfold joinReporting
  refine Op.Triple.reading fun s hs => ?_
  subst hs
  refine Op.Triple.bind (adopts_processWelcome L welcome establishment hnone hclosed)
    fun _ => ?_
  intro u hu
  exact ⟨hu, rfl⟩

theorem refused_applyIfCurrent (hnone : s₀.recvGroup = none) (commit : Option M.Message)
    (apply : M.Message -> SessionOp M LeafChanges) :
    Op.Triple (fun s => s = s₀) (applyIfCurrent commit apply) (fun _ _ => False)
      fun _ => Refused s₀ := by
  unfold applyIfCurrent
  refine Op.Triple.looking (Op.Still.ofOption _ _) refused_start fun message => ?_
  refine Op.Triple.reading fun s hs => ?_
  subst hs
  have hepoch : s.epoch .recvClassical = none := by
    unfold SessionInner.epoch SessionInner.half
    rw [hnone]
    rfl
  unfold stapleEpochAction
  rw [hepoch]
  cases M.messageEpoch message with
  | none => exact Op.Triple.failing (refused_start .mls)
  | some commitEpoch => exact Op.Triple.failing (refused_start .mls)

/-- The staple of a message, for a session that has not joined: it pauses the
frame, or it is joined. -/
def StapleJoined (approval : Option EstablishmentApproval) (staple : Staple M)
    (s₀ : SessionInner M) : Option StapleOutcome -> SessionInner M -> Prop
  | none, u => (exists envelope w, staple = .handoff envelope w) ∧ u = s₀
  | some outcome, u =>
      exists w establishment, staple.Admits approval w establishment ∧
        Adopts w establishment s₀ u ∧
        outcome = welcomeOutcome s₀.rotation.theirState.clientId
          u.rotation.theirState.clientId

theorem unjoined_processStaple (L : Lawful M) (hnone : s₀.recvGroup = none)
    (hclosed : s₀.services.auth.adopting = false) (staple : Staple M)
    (approval : Option EstablishmentApproval) :
    Op.Triple (fun s => s = s₀) (processStaple staple approval)
      (StapleJoined approval staple s₀) fun _ => Refused s₀ := by
  unfold processStaple
  refine Op.Triple.reading fun s hs => ?_
  subst hs
  cases staple with
  | badHandoff => exact Op.Triple.fail (refused_start .mls)
  | badBind => exact Op.Triple.fail (refused_start .mls)
  | handoff envelope w =>
      have habsent : s.recvGroup.isNone = true := by
        rw [hnone]
        rfl
      dsimp only
      rw [if_pos habsent]
      cases hcovers : coveringApproval approval envelope w with
      | none =>
          refine Op.Triple.value ?_
          rintro u rfl
          exact ⟨⟨envelope, w, rfl⟩, rfl⟩
      | some a =>
          refine Op.Triple.bind (adopts_joinReporting L w _ hnone hclosed) fun outcome => ?_
          refine Op.Triple.value ?_
          rintro u ⟨hadopts, houtcome⟩
          exact ⟨w, _, coveringApproval_some hcovers, hadopts, houtcome⟩
  | welcome w =>
      refine Op.Triple.bind (adopts_joinReporting L w _ hnone hclosed) fun outcome => ?_
      refine Op.Triple.value ?_
      rintro u ⟨hadopts, houtcome⟩
      exact ⟨w, .bare, rfl, hadopts, houtcome⟩
  | bind tMessage pqMessage =>
      exact Op.Triple.bind (refused_applyIfCurrent hnone _ _) fun _ _ h => h.elim
  | commit message =>
      exact Op.Triple.bind (refused_applyIfCurrent hnone _ _) fun _ _ h => h.elim

/-- How a frame ends for a session that has not joined. -/
def Undecided (frame : Frame M) (approval : Option EstablishmentApproval)
    (s₀ : SessionInner M) (result : Option (DecryptResult M)) (u : SessionInner M) :
    Prop :=
  (isPaused result = true ∧ u = s₀) ∨
    (isPaused result = false ∧ Joins frame approval s₀ u)

theorem unjoined_processMessage (L : Lawful M) (hnone : s₀.recvGroup = none)
    (hclosed : s₀.services.auth.adopting = false) (staple : Staple M)
    (proposal : ProposalSection M) (app : Blob M)
    (approval : Option EstablishmentApproval) :
    Op.Triple (fun s => s = s₀) (processMessage staple proposal app approval)
      (Undecided (.message staple proposal app) approval s₀)
      fun _ u => Refused s₀ u ∨ Joins (.message staple proposal app) approval s₀ u := by
  unfold processMessage
  cases hparsed : app.parsed with
  | none => exact Op.Triple.failing fun s hs => Or.inl (refused_start .mls s hs)
  | some appMessage =>
      refine Op.Triple.present ?_
      refine Op.Triple.bind ((unjoined_processStaple L hnone hclosed staple
        approval).weaken (fun _ _ h => h) fun _ _ h => Or.inl h) fun outcome => ?_
      cases outcome with
      | none =>
          rintro u ⟨⟨envelope, w, rfl⟩, rfl⟩
          exact Or.inl ⟨rfl, rfl⟩
      | some outcome =>
          rintro v ⟨w, establishment, hadmits, hadopts, rfl⟩
          have hbehind := followsJoin_processMessageBody L hadopts
            s₀.rotation.theirState.clientId proposal appMessage
          have hjoins : Joins (.message staple proposal app) approval s₀
              ((processMessageBody (welcomeOutcome s₀.rotation.theirState.clientId
                v.rotation.theirState.clientId) proposal appMessage).run v).2 := by
            refine ⟨staple, w, establishment, v, rfl, hadmits, hadopts, hbehind.peer,
              hbehind.held, fun hcommit => ?_⟩
            exact hbehind.stands (hcommit appMessage hparsed)
          dsimp only
          rw [Op.run_bind]
          rcases hrun : (processMessageBody (welcomeOutcome
            s₀.rotation.theirState.clientId v.rotation.theirState.clientId) proposal
              appMessage).run v with ⟨r, u⟩
          rw [hrun] at hjoins
          cases r with
          | error e => exact Or.inr hjoins
          | ok result =>
              refine Or.inr ⟨?_, hjoins⟩
              exact isPaused_processMessageBody hrun

theorem unjoined_joinStandalone (L : Lawful M) (hnone : s₀.recvGroup = none)
    (hclosed : s₀.services.auth.adopting = false) {frame : Frame M} {st : Staple M}
    {approval : Option EstablishmentApproval} {w : WelcomeBytes M}
    {establishment : WelcomeEstablishment} (hframe : frame.brings = some st)
    (hadmits : st.Admits approval w establishment) :
    Op.Triple (fun s => s = s₀) (joinStandalone w establishment)
      (Undecided frame approval s₀) fun _ => Refused s₀ := by
  unfold joinStandalone
  refine Op.Triple.bind (adopts_joinReporting L w establishment hnone hclosed)
    fun outcome => ?_
  refine Op.Triple.reading fun u hu => ?_
  have hjoins : Joins frame approval s₀ u :=
    ⟨st, w, establishment, u, hframe, hadmits, hu.1, SamePeer.refl u,
      hu.1.joined_group, fun _ => Standing.refl u⟩
  split
  · rintro s rfl
    exact Or.inr ⟨rfl, hjoins⟩
  · rintro s rfl
    exact Or.inr ⟨rfl, hjoins⟩

theorem unjoined_decryptApp (hnone : s₀.recvGroup = none) (app : M.Message) :
    (decryptApp app).run s₀ = (.error .sessionNotEstablished, s₀) := by
  unfold decryptApp callHalf onHalf
  apply Op.run_bind_error
  rw [Op.run_ofResult]
  have hrecv : s₀.half .recvClassical = none := by
    unfold SessionInner.half
    rw [hnone]
    rfl
  rw [hrecv]

theorem unjoined_processIncomingInner (L : Lawful M) (hnone : s₀.recvGroup = none)
    (hclosed : s₀.services.auth.adopting = false) (frame : Frame M)
    (approval : Option EstablishmentApproval) :
    Op.Triple (fun s => s = s₀) (processIncomingInner frame approval)
      (Undecided frame approval s₀)
      fun _ u => Refused s₀ u ∨ Torn frame approval s₀ u := by
  have hexit : forall (e : TwoMlsPqError) s, s = s₀ ->
      Refused s₀ s ∨ Torn frame approval s₀ s :=
    fun e s hs => Or.inl (refused_start e s hs)
  have hstandalone : forall {x : SessionOp M (Option (DecryptResult M))},
      Op.Triple (fun s => s = s₀) x (Undecided frame approval s₀)
          (fun _ => Refused s₀) ->
        Op.Triple (fun s => s = s₀) x (Undecided frame approval s₀)
          fun _ u => Refused s₀ u ∨ Torn frame approval s₀ u :=
    fun hx => hx.weaken (fun _ _ h => h) fun _ _ h => Or.inl h
  have habsent : ¬ s₀.recvGroup.isSome = true := by
    rw [hnone]
    exact fun h => nomatch h
  unfold processIncomingInner
  refine Op.Triple.reading fun s hs => ?_
  subst hs
  refine Op.Triple.looking (Op.Still.ensure _ _) hexit fun _ => ?_
  cases frame with
  | badHandoff => exact Op.Triple.fail (hexit .mls)
  | badMessage => exact Op.Triple.fail (hexit .mls)
  | sideBand leg => exact Op.Triple.fail (hexit .mls)
  | unknown => exact Op.Triple.fail (hexit .mls)
  | welcome w =>
      have hadmits : Staple.Admits approval (.welcome w) w .bare := rfl
      exact hstandalone (unjoined_joinStandalone L hnone hclosed rfl hadmits)
  | handoff envelope w =>
      dsimp only
      rw [if_neg habsent]
      cases hcovers : coveringApproval approval envelope w with
      | none =>
          refine Op.Triple.value ?_
          rintro u rfl
          exact Or.inl ⟨rfl, rfl⟩
      | some a =>
          exact hstandalone
            (unjoined_joinStandalone L hnone hclosed rfl (coveringApproval_some hcovers))
  | message staple proposal app =>
      exact (unjoined_processMessage L hnone hclosed staple proposal app
        approval).weaken (fun _ _ h => h) fun _ u h => h.imp id fun hjoins =>
          ⟨⟨staple, proposal, app, rfl⟩, hjoins⟩
  | preEstablishment app =>
      dsimp only
      cases app.parsed with
      | none => exact Op.Triple.failing (hexit .mls)
      | some appMessage =>
          refine Op.Triple.present ?_
          rintro s' rfl
          rw [Op.run_bind_error (unjoined_decryptApp hnone appMessage)]
          exact Or.inl (Refused.refl s')

end

/-!
## Frames for a session that has joined
-/

def Staple.invites : Staple M -> Option (WelcomeBytes M)
  | .welcome w => some w
  | .handoff _ w => some w
  | _ => none

theorem run_processWelcome_joined (w : WelcomeBytes M)
    (establishment : WelcomeEstablishment) {s : SessionInner M}
    (h : s.recvGroup.isSome = true) :
    (processWelcome w establishment).run s =
      (if s.msg.joinedWelcomeDigest = some (M.sha256 w.bytes) then .ok ()
        else .error .unexpectedWelcome, s) := by
  unfold processWelcome
  dsimp only
  rw [Op.run_bind_ok (Op.run_state s), if_pos h]
  split
  next hsame => exact Op.run_ensure hsame _ s
  next hother => exact Op.run_ensure_not hother _ s

theorem joinReporting_repeated {w : WelcomeBytes M}
    {establishment : WelcomeEstablishment} {s : SessionInner M}
    (h : (processWelcome w establishment).run s = (.ok (), s)) :
    (joinReporting w establishment).run s = (.ok StapleOutcome.unchanged, s) := by
  unfold joinReporting
  rw [Op.run_bind_ok (Op.run_state s), Op.run_bind_ok h, Op.run_bind_ok (Op.run_state s)]
  unfold welcomeOutcome
  rw [if_neg (not_not_intro rfl)]
  rfl

theorem joinReporting_refused {w : WelcomeBytes M}
    {establishment : WelcomeEstablishment} {s : SessionInner M} {e : TwoMlsPqError}
    (h : (processWelcome w establishment).run s = (.error e, s)) :
    (joinReporting w establishment).run s = (.error e, s) := by
  unfold joinReporting
  rw [Op.run_bind_ok (Op.run_state s), Op.run_bind_error h]

theorem repeated_staple {st : Staple M} {w : WelcomeBytes M} {s : SessionInner M}
    (hinvites : st.invites = some w) (h : s.recvGroup.isSome = true)
    (hsame : s.msg.joinedWelcomeDigest = some (M.sha256 w.bytes))
    (approval : Option EstablishmentApproval) :
    (processStaple st approval).run s = (.ok (some StapleOutcome.unchanged), s) := by
  have hwelcome : forall establishment,
      (processWelcome w establishment).run s = (.ok (), s) := by
    intro establishment
    rw [run_processWelcome_joined w establishment h, if_pos hsame]
  have hlive : ¬ s.recvGroup.isNone = true := by
    cases hrecv : s.recvGroup with
    | none =>
        rw [hrecv] at h
        cases h
    | some recv => exact fun h => nomatch h
  cases st with
  | handoff envelope w' =>
      cases hinvites
      unfold processStaple
      rw [Op.run_bind_ok (Op.run_state s)]
      dsimp only
      rw [if_neg hlive, Op.run_bind_ok (hwelcome .bare)]
      rfl
  | welcome w' =>
      cases hinvites
      unfold processStaple
      rw [Op.run_bind_ok (Op.run_state s)]
      dsimp only
      rw [Op.run_bind_ok (joinReporting_repeated (hwelcome .bare))]
      rfl
  | _ => cases hinvites

theorem unexpected_staple {st : Staple M} {w : WelcomeBytes M} {s : SessionInner M}
    (hinvites : st.invites = some w) (h : s.recvGroup.isSome = true)
    (hother : s.msg.joinedWelcomeDigest ≠ some (M.sha256 w.bytes))
    (approval : Option EstablishmentApproval) :
    (processStaple st approval).run s = (.error .unexpectedWelcome, s) := by
  have hwelcome : forall establishment,
      (processWelcome w establishment).run s = (.error .unexpectedWelcome, s) := by
    intro establishment
    rw [run_processWelcome_joined w establishment h, if_neg hother]
  have hlive : ¬ s.recvGroup.isNone = true := by
    cases hrecv : s.recvGroup with
    | none =>
        rw [hrecv] at h
        cases h
    | some recv => exact fun h => nomatch h
  cases st with
  | handoff envelope w' =>
      cases hinvites
      unfold processStaple
      rw [Op.run_bind_ok (Op.run_state s)]
      dsimp only
      rw [if_neg hlive, Op.run_bind_error (hwelcome .bare)]
  | welcome w' =>
      cases hinvites
      unfold processStaple
      rw [Op.run_bind_ok (Op.run_state s)]
      dsimp only
      rw [Op.run_bind_error (joinReporting_refused (hwelcome .bare))]
  | _ => cases hinvites

theorem joinStandalone_repeated {w : WelcomeBytes M}
    {establishment : WelcomeEstablishment} {s : SessionInner M}
    (h : (processWelcome w establishment).run s = (.ok (), s)) :
    (joinStandalone w establishment).run s = (.ok none, s) := by
  unfold joinStandalone
  rw [Op.run_bind_ok (joinReporting_repeated h), Op.run_bind_ok (Op.run_state s)]
  rfl

theorem repeated_frame {frame : Frame M} {w : WelcomeBytes M} {s : SessionInner M}
    (hframe : frame = .welcome w ∨ exists envelope, frame = .handoff envelope w)
    (h : s.recvGroup.isSome = true) (hlive : s.round.bindApplyBroken = false)
    (hsame : s.msg.joinedWelcomeDigest = some (M.sha256 w.bytes))
    (approval : Option EstablishmentApproval) :
    (processIncomingInner frame approval).run s = (.ok none, s) := by
  have hwelcome : (processWelcome w .bare).run s = (.ok (), s) := by
    rw [run_processWelcome_joined w .bare h, if_pos hsame]
  unfold processIncomingInner
  rw [Op.run_bind_ok (Op.run_state s), Op.run_bind_ok (Op.run_ensure hlive _ s)]
  rcases hframe with rfl | ⟨envelope, rfl⟩
  · exact joinStandalone_repeated hwelcome
  · dsimp only
    rw [if_pos h, Op.run_bind_ok hwelcome]
    rfl

theorem unexpected_frame {frame : Frame M} {st : Staple M} {w : WelcomeBytes M}
    {s : SessionInner M} (hframe : frame.brings = some st)
    (hinvites : st.invites = some w) (h : s.recvGroup.isSome = true)
    (hlive : s.round.bindApplyBroken = false)
    (hother : s.msg.joinedWelcomeDigest ≠ some (M.sha256 w.bytes))
    (hreadable : forall st proposal app, frame = .message st proposal app ->
      app.parsed.isSome = true)
    (approval : Option EstablishmentApproval) :
    (processIncomingInner frame approval).run s = (.error .unexpectedWelcome, s) := by
  have hwelcome : (processWelcome w .bare).run s = (.error .unexpectedWelcome, s) := by
    rw [run_processWelcome_joined w .bare h, if_neg hother]
  unfold processIncomingInner
  rw [Op.run_bind_ok (Op.run_state s), Op.run_bind_ok (Op.run_ensure hlive _ s)]
  cases frame with
  | welcome w' =>
      cases hframe
      cases hinvites
      dsimp only
      unfold joinStandalone
      rw [Op.run_bind_error (joinReporting_refused hwelcome)]
  | handoff envelope w' =>
      cases hframe
      cases hinvites
      dsimp only
      rw [if_pos h, Op.run_bind_error hwelcome]
  | message staple proposal app =>
      cases hframe
      rcases Option.isSome_iff_exists.mp (hreadable st proposal app rfl) with ⟨m, hm⟩
      dsimp only
      unfold processMessage
      rw [hm, Op.run_bind_ok (Op.run_ofOption_some _ _ _),
        Op.run_bind_error (unexpected_staple hinvites h hother approval)]
  | _ => cases hframe

/-!
## What a failure may leave behind
-/

def Risen (s s' : SessionInner M) : Prop :=
  exists h g g', (h = .recvClassical ∨ h = .recvPq) ∧ s.half h = some g ∧
    s'.half h = some g' ∧ M.currentEpoch g < M.currentEpoch g'

/-- Neither recv half falls back, and the joined welcome stays the one it was. -/
structure Onward (s s' : SessionInner M) : Prop where
  adopting : s'.services.auth.adopting = s.services.auth.adopting
  joined : s'.msg.joinedWelcomeDigest = s.msg.joinedWelcomeDigest
  rises : forall h g, (h = .recvClassical ∨ h = .recvPq) -> s.half h = some g ->
    exists g', s'.half h = some g' ∧ M.currentEpoch g <= M.currentEpoch g'

/-- The peer stands, or a commit of its own had been applied already. -/
structure Settles (s s' : SessionInner M) : Prop extends Onward s s' where
  either : Standing s s' ∨ Risen s s'

theorem Onward.trans {s₁ s₂ s₃ : SessionInner M} (h : Onward s₁ s₂)
    (h' : Onward s₂ s₃) :
    Onward s₁ s₃ where
  adopting := h'.adopting.trans h.adopting
  joined := h'.joined.trans h.joined
  rises := by
    intro hf g hrecv held
    rcases h.rises hf g hrecv held with ⟨g', held', hle⟩
    rcases h'.rises hf g' hrecv held' with ⟨g'', held'', hle'⟩
    exact ⟨g'', held'', Nat.le_trans hle hle'⟩

theorem Risen.onward {s₁ s₂ s₃ : SessionInner M} (h : Risen s₁ s₂)
    (h' : Onward s₂ s₃) :
    Risen s₁ s₃ := by
  rcases h with ⟨hf, g, g', hrecv, held, held', hlt⟩
  rcases h'.rises hf g' hrecv held' with ⟨g'', held'', hle⟩
  exact ⟨hf, g, g'', hrecv, held, held'', Nat.lt_of_lt_of_le hlt hle⟩

theorem Standing.half {s s' : SessionInner M} (h : Standing s s') {hf : Half}
    (hrecv : hf = .recvClassical ∨ hf = .recvPq) :
    HalfQuiet (s.half hf) (s'.half hf) := by
  rcases hrecv with rfl | rfl
  · exact h.recv
  · exact h.recvPq

theorem Standing.risen {s₁ s₂ s₃ : SessionInner M} (h : Standing s₁ s₂)
    (h' : Risen s₂ s₃) :
    Risen s₁ s₃ := by
  rcases h' with ⟨hf, g', g'', hrecv, held', held'', hlt⟩
  have hquiet := h.half hrecv
  rw [held'] at hquiet
  rcases hquiet.symm.some_left with ⟨g, held, hsame⟩
  refine ⟨hf, g, g'', hrecv, held, held'', ?_⟩
  rw [hsame.epoch]
  exact hlt

theorem Standing.settles {s s' : SessionInner M} (h : Standing s s') :
    Settles s s' where
  adopting := h.adopting
  joined := h.joined
  rises := by
    intro hf g hrecv held
    have hquiet := h.half hrecv
    rw [held] at hquiet
    rcases hquiet.some_left with ⟨g', held', hsame⟩
    exact ⟨g', held', Nat.le_of_eq hsame.epoch.symm⟩
  either := Or.inl h

theorem Settles.trans {s₁ s₂ s₃ : SessionInner M} (h : Settles s₁ s₂)
    (h' : Settles s₂ s₃) :
    Settles s₁ s₃ := by
  refine { toOnward := h.toOnward.trans h'.toOnward, either := ?_ }
  rcases h.either with hstands | hrisen
  · rcases h'.either with hstands' | hrisen'
    · exact Or.inl (hstands.trans hstands')
    · exact Or.inr (hstands.risen hrisen')
  · exact Or.inr (hrisen.onward h'.toOnward)

theorem Settles.onward {s₁ s₂ s₃ : SessionInner M} (h : Settles s₁ s₂)
    (hrisen : Risen s₁ s₂) (h' : Onward s₂ s₃) :
    Settles s₁ s₃ where
  toOnward := h.toOnward.trans h'
  either := Or.inr (hrisen.onward h')

def heldEvents : Event M -> Prop
  | .quiet => True
  | .peerCommit _ _ => True
  | .closeRound => True
  | .clearSideBand => True
  | .setTurn _ => True
  | .breakReceive => True
  | _ => False

def Lifted (o o' : Option M.Group) : Prop :=
  HalfQuiet o o' ∨
    exists g g', o = some g ∧ o' = some g' ∧ M.currentEpoch g < M.currentEpoch g'

theorem Lifted.trans {o₁ o₂ o₃ : Option M.Group} (h : Lifted o₁ o₂)
    (h' : Lifted o₂ o₃) :
    Lifted o₁ o₃ := by
  rcases h with hquiet | ⟨g₁, g₂, rfl, rfl, hlt⟩
  · rcases h' with hquiet' | ⟨g₂, g₃, rfl, rfl, hlt⟩
    · exact Or.inl (hquiet.trans hquiet')
    · rcases hquiet.symm.some_left with ⟨g₁, rfl, hsame⟩
      refine Or.inr ⟨g₁, g₃, rfl, rfl, ?_⟩
      rw [hsame.epoch]
      exact hlt
  · rcases h' with hquiet' | ⟨g₂', g₃, heq, rfl, hlt'⟩
    · rcases hquiet'.some_left with ⟨g₃, rfl, hsame⟩
      refine Or.inr ⟨g₁, g₃, rfl, rfl, ?_⟩
      rw [hsame.epoch]
      exact hlt
    · cases heq
      exact Or.inr ⟨g₁, g₃, rfl, rfl, Nat.lt_trans hlt hlt'⟩

theorem lifted_step {e : Event M} {c c' : Core M} (he : heldEvents e)
    (hstep : Step e c c') :
    c'.auth = c.auth ∧ c'.joined = c.joined ∧ forall h, Lifted (c.half h) (c'.half h) := by
  cases hstep with
  | quiet hq =>
      refine ⟨?_, ?_, fun h => Or.inl (hq.1 h)⟩
      · rw [hq.2]
      · rw [hq.2]
  | peerCommit held idle kind applied =>
      rename_i h m g g'
      refine ⟨rfl, rfl, fun h' => ?_⟩
      by_cases hh : h' = h
      · subst hh
        refine Or.inr ⟨g, g', held, Core.half_setHalf .., ?_⟩
        rw [applied.epoch]
        exact Nat.lt_succ_self _
      · rw [Core.half_setHalf_of_ne hh]
        exact Or.inl (HalfQuiet.refl _)
  | closeRound => exact ⟨rfl, rfl, fun _ => Or.inl (HalfQuiet.refl _)⟩
  | clearSideBand => exact ⟨rfl, rfl, fun _ => Or.inl (HalfQuiet.refl _)⟩
  | setTurn => exact ⟨rfl, rfl, fun _ => Or.inl (HalfQuiet.refl _)⟩
  | breakReceive => exact ⟨rfl, rfl, fun _ => Or.inl (HalfQuiet.refl _)⟩
  | _ => exact he.elim

theorem settles_of_path {s s' : SessionInner M} (hpath : Path heldEvents s.core s'.core)
    (hrotation : s'.rotation = s.rotation) :
    Settles s s' := by
  have hlifted := hpath.invariant
    (I := fun c => c.auth = s.core.auth ∧ c.joined = s.core.joined ∧
      forall h, Lifted (s.core.half h) (c.half h))
    (fun e c c' he hstep hc => by
      rcases lifted_step he hstep with ⟨hauth, hjoined, hhalf⟩
      exact ⟨hauth.trans hc.1, hjoined.trans hc.2.1, fun h => (hc.2.2 h).trans (hhalf h)⟩)
    ⟨rfl, rfl, fun _ => Or.inl (HalfQuiet.refl _)⟩
  rcases hlifted with ⟨hauth, hjoined, hhalf⟩
  have hauth' : s'.services.auth = s.services.auth := hauth
  refine { adopting := ?_, joined := hjoined, rises := ?_, either := ?_ }
  · rw [hauth']
  · intro h g _ held
    rcases hhalf h with hquiet | ⟨g₁, g', held₁, held', hlt⟩
    · have held₀ : s.core.half h = some g := held
      rw [held₀] at hquiet
      rcases hquiet.some_left with ⟨g', held', hsame⟩
      exact ⟨g', held', Nat.le_of_eq hsame.epoch.symm⟩
    · have hsame : s.half h = some g₁ := held₁
      rw [held] at hsame
      cases hsame
      exact ⟨g', held', Nat.le_of_lt hlt⟩
  · rcases hhalf .recvClassical with hrecv | ⟨g, g', held, held', hlt⟩
    · rcases hhalf .recvPq with hrecvPq | ⟨g, g', held, held', hlt⟩
      · refine Or.inl
          { theirState := ?_
            mine := ?_
            theirs := ?_
            adopting := ?_
            joined := hjoined
            recv := hrecv
            recvPq := hrecvPq }
        · rw [hrotation]
        · rw [hauth']
        · rw [hauth']
        · rw [hauth']
      · exact Or.inr ⟨.recvPq, g, g', Or.inr rfl, held, held', hlt⟩
    · exact Or.inr ⟨.recvClassical, g, g', Or.inl rfl, held, held', hlt⟩

/-!
## Commits that were applied
-/

theorem keepsEpoch_of_quiet {x : SessionOp M α} (hx : QuietOp x) (h : Half) (e : Nat) :
    Op.Keeps (fun s => s.epoch h = some e) x := by
  intro s hs
  have hepoch := (hx s).epoch h
  exact hepoch.trans hs

theorem keepsEpoch_of_touches {W : List Slot} {x : SessionOp M α} (hx : Touches W x)
    {h : Half} (hW : .half h ∉ W) (e : Nat) :
    Op.Keeps (fun s => s.epoch h = some e) x := by
  intro s hs
  unfold SessionInner.epoch
  rw [hx.half hW s]
  exact hs

theorem triple_keeps {I : SessionInner M -> Prop} {x : SessionOp M α}
    (hx : Op.Keeps I x) :
    Op.Triple I x (fun _ => I) fun _ _ => True :=
  (Op.Triple.ofKeeps hx).weaken (fun _ _ h => h) fun _ _ _ => True.intro

theorem advances_processed (L : Lawful M) {m : M.Message} {s₁ : SessionInner M}
    {before : M.Group} (held : s₁.half .recvClassical = some before)
    {missing e : TwoMlsPqError} {err : MlsError -> TwoMlsPqError}
    {f : Option ApqInfoUpdate -> SessionOp M LeafChanges}
    (hf : forall attestation, Op.Still (f attestation)) :
    Op.Triple (fun s => s = s₁)
      (do
        let received <-
          callHalf .recvClassical missing err fun env => M.processIncomingMessage env m
        let attestation <-
          (match received with
            | .commit effect => Op.ofExcept (commitAttestation effect)
            | _ => Op.fail e)
        f attestation)
      (fun _ s => s.epoch .recvClassical = some (M.currentEpoch before + 1))
      fun _ _ => True := by
  refine Op.Triple.bind ((triple_process L held missing err).weaken (fun _ _ h => h)
    fun _ _ _ => True.intro) fun received => ?_
  cases received with
  | applicationMessage index data => exact Op.Triple.failing fun _ _ => True.intro
  | proposal desc => exact Op.Triple.failing fun _ _ => True.intro
  | other => exact Op.Triple.failing fun _ _ => True.intro
  | commit effect =>
      dsimp only
      refine Op.Triple.looking (Op.Still.ofExcept _) (fun _ _ _ => True.intro)
        fun attestation => ?_
      refine (Op.Triple.keptBy (hf attestation) fun _ _ _ => True.intro).post ?_
      rintro _ s ⟨env, after, hprocess, rfl⟩
      have heffect := L.process env m before
      rw [hprocess] at heffect
      have happlied : PeerCommit m before after := heffect.2
      unfold SessionInner.epoch
      rw [half_setHalf_held held, Option.map_some, happlied.epoch]

theorem advances_applyCommitStaple (L : Lawful M) (m : M.Message) (e : Nat) :
    Op.Triple (fun s => s.epoch .recvClassical = some e) (applyCommitStaple m)
      (fun _ s => s.epoch .recvClassical = some (e + 1)) fun _ _ => True := by
  unfold applyCommitStaple
  refine Op.Triple.looking Op.Still.state (fun _ _ _ => True.intro) fun s => ?_
  refine Op.Triple.bind
    (triple_keeps (keepsEpoch_of_quiet (quiet_injectSendPsksIf L _) _ e)) fun _ => ?_
  refine Op.Triple.bind
    (triple_keeps (keepsEpoch_of_quiet (quiet_rememberRecvAttachmentComponent L) _ e))
    fun _ => ?_
  refine triple_readHalf (fun _ _ _ => True.intro) fun s₁ before hs₁ held => ?_
  have hepoch : M.currentEpoch before = e := by
    unfold SessionInner.epoch at hs₁
    rw [held] at hs₁
    exact Option.some.inj hs₁
  refine Op.Triple.looking (Op.Still.ofExcept _) (fun _ _ _ => True.intro)
    fun prior => ?_
  rw [← hepoch]
  apply advances_processed L held
  intro attestation
  refine Op.Still.bind (still_readHalf _ _) fun after => ?_
  refine Op.Still.bind Op.Still.state fun s => ?_
  refine Op.Still.bind (Op.Still.ofExcept _) fun _ => ?_
  refine Op.Still.bind (Op.Still.ofExcept _) fun _ => ?_
  refine Op.Still.bind (Op.Still.ofExcept _) fun new => ?_
  exact Op.Still.value _

theorem advances_applyBindClassical (L : Lawful M) (clCommit : Blob M)
    (pqAttestation : ApqInfoUpdate) (e : Nat) :
    Op.Triple (fun s => s.epoch .recvClassical = some e)
      (applyBindClassical clCommit pqAttestation)
      (fun _ s => s.epoch .recvClassical = some (e + 1)) fun _ _ => True := by
  unfold applyBindClassical
  refine Op.Triple.looking (Op.Still.ofOption _ _) (fun _ _ _ => True.intro)
    fun message => ?_
  refine triple_readHalf (fun _ _ _ => True.intro) fun s₁ before hs₁ held => ?_
  have hepoch : M.currentEpoch before = e := by
    unfold SessionInner.epoch at hs₁
    rw [held] at hs₁
    exact Option.some.inj hs₁
  refine Op.Triple.looking (Op.Still.ofExcept _) (fun _ _ _ => True.intro)
    fun prior => ?_
  rw [← hepoch]
  apply advances_processed L held
  intro attestation
  refine Op.Still.bind (Op.Still.ofOption _ _) fun clAttestation => ?_
  refine Op.Still.bind (still_readHalf _ _) fun recvPq => ?_
  refine Op.Still.bind (still_readHalf _ _) fun after => ?_
  refine Op.Still.bind (Op.Still.ensure _ _) fun _ => ?_
  refine Op.Still.bind (Op.Still.ofExcept _) fun _ => ?_
  refine Op.Still.bind (Op.Still.ofExcept _) fun new => ?_
  exact Op.Still.value _

theorem advances_applyBindStaple (L : Lawful M) (tMessage pqMessage : Blob M)
    (e : Nat) :
    Op.Triple (fun s => s.epoch .recvClassical = some e)
      (applyBindStaple tMessage pqMessage)
      (fun _ s => s.epoch .recvClassical = some (e + 1)) fun _ _ => True := by
  have hupdate : forall {e : Nat} {f : SessionInner M -> SessionInner M},
      (forall s, (f s).epoch .recvClassical = s.epoch .recvClassical) ->
        Op.Triple (fun s => s.epoch .recvClassical = some e)
          (Op.update f : SessionOp M Unit)
          (fun _ s => s.epoch .recvClassical = some e) fun _ _ => True :=
    fun hf => Op.Triple.update fun s hs => (hf s).trans hs
  unfold applyBindStaple
  refine Op.Triple.bind
    (triple_keeps (keepsEpoch_of_touches touches_takeResponderSecret (by decide) e))
    fun secret => ?_
  refine Op.Triple.bind
    (triple_keeps (keepsEpoch_of_quiet (quiet_rememberRecvAttachmentComponent L) _ e))
    fun _ => ?_
  have hbind : Op.Triple (fun s => s.epoch .recvClassical = some e)
      (applyBind secret pqMessage tMessage)
      (fun _ s => s.epoch .recvClassical = some (e + 1)) fun _ _ => True := by
    unfold applyBind
    refine Op.Triple.looking Op.Still.state (fun _ _ _ => True.intro) fun s => ?_
    dsimp only
    refine Op.Triple.bind
      (triple_keeps (keepsEpoch_of_quiet (quiet_injectSendPsksIf L _) _ e)) fun _ => ?_
    refine Op.Triple.bind (triple_keeps (keepsEpoch_of_touches
      (touches_onHalf (W := [.half .recvPq, .services]) _ _ _ (by decide) (by decide))
      (by decide) e)) fun applied => ?_
    rcases applied with ⟨apqPsk, attestation⟩
    refine Op.Triple.bind (advances_applyBindClassical L tMessage attestation e)
      fun moved => ?_
    exact Op.Triple.bind (hupdate fun _ => rfl) fun _ => Op.Triple.value fun _ h => h
  refine Op.Triple.bind hbind.attempt fun applied => ?_
  cases applied with
  | error e' =>
      refine Op.Triple.bind (Q := fun _ _ => True) (Op.Triple.update fun _ _ =>
        True.intro) fun _ => ?_
      exact Op.Triple.fail fun _ _ => True.intro
  | ok moved =>
      exact Op.Triple.bind (hupdate fun _ => rfl) fun _ => Op.Triple.value fun _ h => h

theorem risen_of_epoch {s s' : SessionInner M} {g : M.Group}
    (held : s.half .recvClassical = some g)
    (h : s'.epoch .recvClassical = some (M.currentEpoch g + 1)) :
    Risen s s' := by
  unfold SessionInner.epoch at h
  rcases Option.map_eq_some_iff.mp h with ⟨g', held', hepoch⟩
  refine ⟨.recvClassical, g, g', Or.inl rfl, held, held', ?_⟩
  rw [hepoch]
  exact Nat.lt_succ_self _

section

variable {s₀ : SessionInner M}

def Applies (s₀ : SessionInner M) (x : SessionOp M LeafChanges) : Prop :=
  Op.Triple (fun s => s = s₀) x (fun _ u => Settles s₀ u ∧ Risen s₀ u)
    fun _ => Settles s₀

theorem applies_of {x : SessionOp M LeafChanges} {W : List Slot} {g : M.Group}
    (held : s₀.half .recvClassical = some g)
    (hvia : Via heldEvents (Promised fun _ => True) x fun _ _ => True)
    (htouches : Touches W x) (hrotation : .rotation ∉ W)
    (hadvances : Op.Triple
      (fun s => s.epoch .recvClassical = some (M.currentEpoch g)) x
      (fun _ s => s.epoch .recvClassical = some (M.currentEpoch g + 1))
      fun _ _ => True) :
    Applies s₀ x := by
  rintro s rfl
  have hepoch : s.epoch .recvClassical = some (M.currentEpoch g) := by
    unfold SessionInner.epoch
    rw [held]
    rfl
  have hpath := hvia.goes (s := s) fun _ _ _ _ _ _ => True.intro
  have hsettles := settles_of_path hpath (htouches s .rotation hrotation)
  have hadvanced := hadvances s hepoch
  cases hresult : (x.run s).1 with
  | error e => exact hsettles
  | ok moved =>
      rw [hresult] at hadvanced
      exact ⟨hsettles, risen_of_epoch held hadvanced⟩

theorem applies_applyCommitStaple (L : Lawful M) {g : M.Group}
    (held : s₀.half .recvClassical = some g) (m : M.Message) :
    Applies s₀ (applyCommitStaple m) :=
  applies_of held
    ((via_applyCommitStaple L True.intro True.intro).post fun _ _ _ => True.intro)
    (touches_applyCommitStaple m) (by decide) (advances_applyCommitStaple L m _)

theorem applies_applyBindStaple (L : Lawful M) {g : M.Group}
    (held : s₀.half .recvClassical = some g) (tMessage pqMessage : Blob M) :
    Applies s₀ (applyBindStaple tMessage pqMessage) :=
  applies_of held
    ((via_applyBindStaple L True.intro True.intro True.intro True.intro True.intro
      (fun _ _ => True.intro) fun _ _ => True.intro).post fun _ _ _ => True.intro)
    (touches_applyBindStaple tMessage pqMessage) (by decide)
    (advances_applyBindStaple L tMessage pqMessage _)

def Processed (s₀ : SessionInner M) (outcome : StapleOutcome) (u : SessionInner M) :
    Prop :=
  Settles s₀ u ∧ (outcome.moved = LeafChanges.none ∨ Risen s₀ u)

theorem settles_start : forall (_ : TwoMlsPqError) (s : SessionInner M), s = s₀ ->
    Settles s₀ s := by
  rintro _ s rfl
  exact (Standing.refl s).settles

theorem joined_applyIfCurrent (commit : Option M.Message)
    (apply : M.Message -> SessionOp M LeafChanges)
    (happly : forall m, Applies s₀ (apply m)) :
    Op.Triple (fun s => s = s₀) (applyIfCurrent commit apply) (Processed s₀)
      fun _ => Settles s₀ := by
  unfold applyIfCurrent
  refine Op.Triple.looking (Op.Still.ofOption _ _) settles_start fun message => ?_
  refine Op.Triple.looking Op.Still.state settles_start fun s => ?_
  refine Op.Triple.looking (Op.Still.ofExcept _) settles_start fun action => ?_
  cases action with
  | skip =>
      refine Op.Triple.value ?_
      rintro u rfl
      exact ⟨(Standing.refl u).settles, Or.inl rfl⟩
  | apply =>
      refine Op.Triple.bind (happly message) fun moved => ?_
      exact Op.Triple.value fun u hu => ⟨hu.1, Or.inr hu.2⟩

theorem joined_processStaple (L : Lawful M) (h : s₀.recvGroup.isSome = true)
    (staple : Staple M) (approval : Option EstablishmentApproval) :
    Op.Triple (fun s => s = s₀) (processStaple staple approval)
      (fun o u => exists outcome, o = some outcome ∧ Processed s₀ outcome u)
      fun _ => Settles s₀ := by
  rcases Option.isSome_iff_exists.mp h with ⟨recv, hrecv⟩
  have held : s₀.half .recvClassical = some recv.classical := by
    unfold SessionInner.half
    rw [hrecv]
    rfl
  have hwelcome : forall w, staple.invites = some w ->
      Op.Triple (fun s => s = s₀) (processStaple staple approval)
        (fun o u => exists outcome, o = some outcome ∧ Processed s₀ outcome u)
        fun _ => Settles s₀ := by
    rintro w hinvites s rfl
    by_cases hsame : s.msg.joinedWelcomeDigest = some (M.sha256 w.bytes)
    · rw [repeated_staple hinvites h hsame approval]
      exact ⟨_, rfl, (Standing.refl s).settles, Or.inl rfl⟩
    · rw [unexpected_staple hinvites h hsame approval]
      exact (Standing.refl s).settles
  have happlied : forall {x : SessionOp M StapleOutcome},
      Op.Triple (fun s => s = s₀) x (Processed s₀) (fun _ => Settles s₀) ->
        Op.Triple (fun s => s = s₀)
          (do
            let outcome <- x
            pure (some outcome))
          (fun o u => exists outcome, o = some outcome ∧ Processed s₀ outcome u)
          fun _ => Settles s₀ := by
    intro x hx
    refine Op.Triple.bind hx fun outcome => ?_
    exact Op.Triple.value fun u hu => ⟨outcome, rfl, hu⟩
  cases staple with
  | badHandoff =>
      unfold processStaple
      refine Op.Triple.looking Op.Still.state settles_start fun s => ?_
      exact Op.Triple.fail (settles_start .mls)
  | badBind =>
      unfold processStaple
      refine Op.Triple.looking Op.Still.state settles_start fun s => ?_
      exact Op.Triple.fail (settles_start .mls)
  | handoff envelope w => exact hwelcome w rfl
  | welcome w => exact hwelcome w rfl
  | bind tMessage pqMessage =>
      unfold processStaple
      refine Op.Triple.looking Op.Still.state settles_start fun s => ?_
      exact happlied (joined_applyIfCurrent _ _ fun _ =>
        applies_applyBindStaple L held tMessage pqMessage)
  | commit message =>
      unfold processStaple
      refine Op.Triple.looking Op.Still.state settles_start fun s => ?_
      exact happlied (joined_applyIfCurrent _ _ fun m =>
        applies_applyCommitStaple L held m)

theorem settles_decryptApp (L : Lawful M) (app : M.Message) (s : SessionInner M) :
    Settles s ((decryptApp app).run s).2 := by
  have hvia : Via heldEvents (fun _ => True) (decryptApp app) fun _ _ => True :=
    via_decryptApp L True.intro True.intro
  exact settles_of_path (hvia.goes True.intro)
    (touches_decryptApp app s .rotation (by decide))

theorem onward_noteNewSender (newSender : Option Bytes) (s : SessionInner M) :
    Onward s (noteNewSender newSender s) := by
  cases newSender with
  | none => exact (Standing.refl s).settles.toOnward
  | some newId =>
      exact
        { adopting := rfl
          joined := rfl
          rises := fun _ g _ held => ⟨g, held, Nat.le_refl _⟩ }

theorem onward_noteCanonicalizedOwn (canonicalizedOwn : Option Bytes)
    (s : SessionInner M) :
    Onward s ((noteCanonicalizedOwn canonicalizedOwn).run s).2 := by
  have htouches := touches_noteCanonicalizedOwn (M := M) canonicalizedOwn
  have hmsg : ((noteCanonicalizedOwn canonicalizedOwn).run s).2.msg = s.msg :=
    htouches s .msg (by decide)
  have hadopting : Op.Keeps
      (fun s' : SessionInner M =>
        s'.services.auth.adopting = s.services.auth.adopting)
      (noteCanonicalizedOwn canonicalizedOwn) := by
    cases canonicalizedOwn with
    | none => exact Op.Keeps.value ()
    | some newOwn =>
        unfold noteCanonicalizedOwn
        refine Op.Keeps.looking Op.Still.state fun s' => ?_
        split
        · exact Op.Keeps.update fun _ h => h
        · refine Op.Keeps.looking (Op.Still.ofOption _ _) fun winner => ?_
          refine Op.Keeps.update fun s' h => ?_
          have hcore := congrArg Core.auth (core_installWinner winner newOwn s')
          exact (congrArg AuthCore.adopting hcore).trans h
  refine { adopting := hadopting s rfl, joined := ?_, rises := ?_ }
  · rw [hmsg]
  · intro h g hrecv held
    refine ⟨g, ?_, Nat.le_refl _⟩
    rcases hrecv with rfl | rfl
    · rw [htouches.half (by decide) s]
      exact held
    · rw [htouches.half (by decide) s]
      exact held

theorem joined_processMessageBody (L : Lawful M) (start : SessionInner M)
    (outcome : StapleOutcome) (proposal : ProposalSection M) (app : M.Message) :
    Op.Keeps (Settles start) (do
      let received <- decryptApp app
      let send <- readHalf .sendClassical .sessionNotEstablished
      let offered <- recordOffer proposal received.senderClientId (M.groupId send)
      let s <- Op.state
      pure
        ({ applicationMessage := some received
           proposal := some offered
           remoteCommit :=
             if outcome.applied then
               some
                 { newSender := outcome.moved.newSender
                   newRecipient := s.rotation.myState.clientId }
             else none
           pendingEstablishment := none } : DecryptResult M)) := by
  refine Op.Keeps.bind (fun s hs => hs.trans (settles_decryptApp L app s))
    fun received => ?_
  refine Op.Keeps.looking (still_readHalf _ _) fun send => ?_
  refine Op.Keeps.bind
    (fun s hs => hs.trans (standing_recordOffer _ _ _ s).settles) fun offered => ?_
  refine Op.Keeps.looking Op.Still.state fun s => ?_
  exact Op.Keeps.value _

theorem settles_processMessageBody (L : Lawful M) {outcome : StapleOutcome}
    {proposal : ProposalSection M} {app : M.Message} {u : SessionInner M}
    (h : Processed s₀ outcome u) :
    Settles s₀ ((processMessageBody outcome proposal app).run u).2 := by
  have hrest := joined_processMessageBody L s₀ outcome proposal app
  unfold processMessageBody
  rw [Op.run_bind_ok (Op.run_update _ _)]
  rcases h.2 with hnone | hrisen
  · have hown : (noteCanonicalizedOwn outcome.moved.canonicalizedOwn).run
        (noteNewSender outcome.moved.newSender u) = (.ok (), u) := by
      rw [hnone]
      rfl
    rw [Op.run_bind_ok hown]
    exact hrest u h.1
  · have hown := onward_noteCanonicalizedOwn outcome.moved.canonicalizedOwn
      (noteNewSender outcome.moved.newSender u)
    have hnow := h.1.onward hrisen
      ((onward_noteNewSender outcome.moved.newSender u).trans hown)
    rw [Op.run_bind]
    rcases hrun : (noteCanonicalizedOwn outcome.moved.canonicalizedOwn).run
      (noteNewSender outcome.moved.newSender u) with ⟨r, v⟩
    rw [hrun] at hnow
    cases r with
    | error e => exact hnow
    | ok _ => exact hrest v hnow

theorem joined_processMessage (L : Lawful M) (h : s₀.recvGroup.isSome = true)
    (staple : Staple M) (proposal : ProposalSection M) (app : Blob M)
    (approval : Option EstablishmentApproval) :
    Op.Triple (fun s => s = s₀) (processMessage staple proposal app approval)
      (fun result u => isPaused result = false ∧ Settles s₀ u) fun _ => Settles s₀ := by
  unfold processMessage
  refine Op.Triple.looking (Op.Still.ofOption _ _) settles_start fun appMessage => ?_
  refine Op.Triple.bind (joined_processStaple L h staple approval) fun o => ?_
  rintro u ⟨outcome, rfl, hprocessed⟩
  have hbody : Settles s₀ ((processMessageBody outcome proposal appMessage).run u).2 :=
    settles_processMessageBody L hprocessed
  dsimp only
  rw [Op.run_bind]
  rcases hrun : (processMessageBody outcome proposal appMessage).run u with ⟨r, v⟩
  rw [hrun] at hbody
  cases r with
  | error e => exact hbody
  | ok result => exact ⟨isPaused_processMessageBody hrun, hbody⟩

theorem joined_processIncomingInner (L : Lawful M) (h : s₀.recvGroup.isSome = true)
    (frame : Frame M) (approval : Option EstablishmentApproval) :
    Op.Triple (fun s => s = s₀) (processIncomingInner frame approval)
      (fun result u => isPaused result = false ∧ Settles s₀ u) fun _ => Settles s₀ := by
  have hwelcome : forall st w, frame.brings = some st -> st.invites = some w ->
      (frame = .welcome w ∨ exists envelope, frame = .handoff envelope w) ->
      Op.Triple (fun s => s = s₀) (processIncomingInner frame approval)
        (fun result u => isPaused result = false ∧ Settles s₀ u)
        fun _ => Settles s₀ := by
    rintro st w hbrings hinvites hframe s rfl
    by_cases hlive : s.round.bindApplyBroken = false
    · by_cases hsame : s.msg.joinedWelcomeDigest = some (M.sha256 w.bytes)
      · rw [repeated_frame hframe h hlive hsame approval]
        exact ⟨rfl, (Standing.refl s).settles⟩
      · rw [unexpected_frame hbrings hinvites h hlive hsame (fun st' p a hmessage => by
          rcases hframe with rfl | ⟨envelope, rfl⟩
          · cases hmessage
          · cases hmessage) approval]
        exact (Standing.refl s).settles
    · unfold processIncomingInner
      rw [Op.run_bind_ok (Op.run_state s),
        Op.run_bind_error (Op.run_ensure_not hlive _ s)]
      exact (Standing.refl s).settles
  have hrest : (forall w, frame ≠ .welcome w) ->
      (forall envelope w, frame ≠ .handoff envelope w) ->
      Op.Triple (fun s => s = s₀) (processIncomingInner frame approval)
        (fun result u => isPaused result = false ∧ Settles s₀ u)
        fun _ => Settles s₀ := by
    intro hnotWelcome hnotHandoff
    unfold processIncomingInner
    refine Op.Triple.looking Op.Still.state settles_start fun s => ?_
    refine Op.Triple.looking (Op.Still.ensure _ _) settles_start fun _ => ?_
    cases frame with
    | badHandoff => exact Op.Triple.fail (settles_start .mls)
    | badMessage => exact Op.Triple.fail (settles_start .mls)
    | sideBand leg => exact Op.Triple.fail (settles_start .mls)
    | unknown => exact Op.Triple.fail (settles_start .mls)
    | welcome w => exact absurd rfl (hnotWelcome w)
    | handoff envelope w => exact absurd rfl (hnotHandoff envelope w)
    | message staple proposal app =>
        exact joined_processMessage L h staple proposal app approval
    | preEstablishment app =>
        refine Op.Triple.looking (Op.Still.ofOption _ _) settles_start
          fun appMessage => ?_
        refine Op.Triple.bind (Q := fun _ => Settles s₀) ?_ fun received => ?_
        · rintro s rfl
          have hsettles := settles_decryptApp L appMessage s
          cases ((decryptApp appMessage).run s).1 with
          | ok received => exact hsettles
          | error e => exact hsettles
        · exact Op.Triple.value fun u hu => ⟨rfl, hu⟩
  cases frame with
  | welcome w => exact hwelcome (.welcome w) w rfl rfl (Or.inl rfl)
  | handoff envelope w =>
      exact hwelcome (.handoff envelope w) w rfl rfl (Or.inr ⟨envelope, rfl⟩)
  | _ => exact hrest nofun nofun

end

/-!
## The receive door
-/

theorem bumpSeq_keeps {I : SessionInner M -> Prop}
    (hseq : forall s seq, I s -> I { s with stateSeq := seq }) :
    Op.Keeps (fun t : TwoMlsPqSession M => I t.inner) (bumpSeq (M := M)) := by
  unfold bumpSeq
  refine Op.Keeps.looking Op.Still.state fun t => ?_
  split
  · refine Op.Keeps.bind (Op.Keeps.update fun t h => ?_) fun _ => Op.Keeps.value _
    exact hseq _ _ h
  · exact Op.Keeps.value _

theorem persistAfter_keeps {I : SessionInner M -> Prop} {kind : BlobKind}
    (hencode : Op.Keeps I (encodeBlob kind))
    (hseq : forall s seq, I s -> I { s with stateSeq := seq }) :
    Op.Keeps (fun t : TwoMlsPqSession M => I t.inner) (persistAfter kind) := by
  have hpush : Op.Keeps (fun t : TwoMlsPqSession M => I t.inner)
      (encodeAndPush (M := M) kind) := by
    unfold encodeAndPush
    refine Op.Keeps.looking Op.Still.state fun t => ?_
    split
    · refine Op.Keeps.bind (fun t h => ?_) fun archive => Op.Keeps.update fun t h => h
      exact hencode t.inner h
    · exact Op.Keeps.value _
  unfold persistAfter
  refine Op.Keeps.bind (bumpSeq_keeps hseq) fun bumped => ?_
  split
  · exact Op.Keeps.bind hpush.attempt fun _ => Op.Keeps.value _
  · exact Op.Keeps.value _

theorem run_persistAfter_ok (kind : BlobKind) (t : TwoMlsPqSession M) :
    ((persistAfter kind).run t).1 = .ok () := by
  unfold persistAfter
  by_cases h : t.inner.stateSeq < maxSeq
  · rw [Op.run_bind_ok (run_bumpSeq_lt h), if_pos rfl, Op.run_bind, Op.run_attempt]
    rfl
  · rw [Op.run_bind_ok (run_bumpSeq_exhausted h)]
    rfl

def TwoMlsPqSession.withInner (t : TwoMlsPqSession M) (s : SessionInner M) :
    TwoMlsPqSession M :=
  { t with inner := s }

theorem processIncomingWith_eq (frame : Frame M)
    (approval : Option EstablishmentApproval) :
    processIncomingWith frame approval = (do
      let before <- Op.state
      let result <- locked (processIncomingInner frame approval)
      let after <- Op.state
      (if isPaused result then pure ()
        else persistAfter
          (if after.inner.pqEpochs = before.inner.pqEpochs then .core
            else .checkpoint))
      pure result) :=
  rfl

theorem locked_processIncomingInner {frame : Frame M}
    {approval : Option EstablishmentApproval} {t : TwoMlsPqSession M}
    {r : Except TwoMlsPqError (Option (DecryptResult M))} {u : SessionInner M}
    (hrun : (processIncomingInner frame approval).run t.inner = (r, u)) :
    (locked (processIncomingInner frame approval)).run t = (r, t.withInner u) := by
  unfold locked
  rw [Op.run_ofResult, hrun]
  rfl

theorem run_processIncomingWith_persists {frame : Frame M}
    {approval : Option EstablishmentApproval} {t : TwoMlsPqSession M}
    {d : Option (DecryptResult M)} {u : SessionInner M}
    (hrun : (processIncomingInner frame approval).run t.inner = (.ok d, u))
    (hpaused : isPaused d = false) :
    (processIncomingWith frame approval).run t =
      (.ok d, ((persistAfter (if u.pqEpochs = t.inner.pqEpochs then .core
        else .checkpoint)).run (t.withInner u)).2) := by
  have hnot : ¬ isPaused d = true := by
    rw [hpaused]
    exact fun h => nomatch h
  have hpersist : forall kind,
      (persistAfter kind).run (t.withInner u) =
        (.ok (), ((persistAfter kind).run (t.withInner u)).2) :=
    fun kind => Prod.ext (run_persistAfter_ok kind (t.withInner u)) rfl
  rw [processIncomingWith_eq, Op.run_bind_ok (Op.run_state t),
    Op.run_bind_ok (locked_processIncomingInner hrun), Op.run_bind_ok (Op.run_state _),
    if_neg hnot, Op.run_bind_ok (hpersist _)]
  rfl

/-- What `process_incoming` adds to the frame's processing: a failure and a pause
push nothing, anything else is persisted. -/
theorem run_processIncomingWith (frame : Frame M)
    (approval : Option EstablishmentApproval) (t : TwoMlsPqSession M) :
    (forall e u, (processIncomingInner frame approval).run t.inner = (.error e, u) ->
      (processIncomingWith frame approval).run t = (.error e, t.withInner u)) ∧
      (forall d u, (processIncomingInner frame approval).run t.inner = (.ok d, u) ->
        isPaused d = true ->
          (processIncomingWith frame approval).run t = (.ok d, t.withInner u)) ∧
      forall d u, (processIncomingInner frame approval).run t.inner = (.ok d, u) ->
        isPaused d = false ->
          exists kind, (processIncomingWith frame approval).run t =
            (.ok d, ((persistAfter kind).run (t.withInner u)).2) := by
  refine ⟨fun e u hrun => ?_, fun d u hrun hpaused => ?_, fun d u hrun hpaused => ?_⟩
  · unfold processIncomingWith
    rw [Op.run_bind_ok (Op.run_state t),
      Op.run_bind_error (locked_processIncomingInner hrun)]
  · rw [processIncomingWith_eq, Op.run_bind_ok (Op.run_state t),
      Op.run_bind_ok (locked_processIncomingInner hrun), Op.run_bind_ok (Op.run_state _),
      if_pos hpaused]
    rfl
  · exact ⟨_, run_processIncomingWith_persists hrun hpaused⟩

theorem standing_persistAfter (L : Lawful M) (kind : BlobKind)
    (t : TwoMlsPqSession M) :
    Standing t.inner ((persistAfter kind).run t).2.inner := by
  have hdoor : Door quietEvents (fun _ => True) (persistAfter (M := M) kind)
      fun _ _ => True :=
    door_persistAfter L True.intro kind
  have hpath := (hdoor.advances (t := t) True.intro).1
  have hquiet : Quiet t.inner.core ((persistAfter kind).run t).2.inner.core := by
    refine hpath.invariant (I := Quiet t.inner.core) ?_ (Quiet.refl _)
    intro e c c' he hstep hc
    cases hstep with
    | quiet hq => exact Quiet.trans hc hq
    | _ => exact he.elim
  have hrotation : Op.Keeps
      (fun t' : TwoMlsPqSession M => t'.inner.rotation = t.inner.rotation)
      (persistAfter kind) :=
    persistAfter_keeps
      (fun s h => (touches_encodeBlob kind s .rotation (by decide)).trans h)
      fun _ _ h => h
  exact standing_of_quiet hquiet (hrotation t rfl)

end

end Session
end TwoMlsPq
