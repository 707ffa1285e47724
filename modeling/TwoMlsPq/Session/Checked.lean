import TwoMlsPq.Session.Encodes
import TwoMlsPq.Session.PqHalves

/-!
# What may move the recv group

`process_incoming` hands messages of an arbitrary peer to the recv classical
group from three places: the staple, the application section and the
pre-establishment frame.  Only the staple may move the group, and a move is
complete only together with its checks, its bookkeeping and the capture of the
departing epoch's attachment component.
-/

namespace TwoMlsPq
namespace Session

open Foundation Apq

section

variable {M : MlsRs} {α : Type}

/-!
## The sections of a frame
-/

def Staple.carried : Staple M -> Option M.Message
  | .commit message => message.parsed
  | .bind tMessage _ => tMessage.parsed
  | _ => none

def Staple.isBind : Staple M -> Bool
  | .bind _ _ => true
  | _ => false

namespace Frame

def stapled : Frame M -> Option M.Message
  | .message staple _ _ => staple.carried
  | _ => none

def staplesBind : Frame M -> Bool
  | .message staple _ _ => staple.isBind
  | _ => false

def opened : Frame M -> Option M.Message
  | .message _ _ app => app.parsed
  | .preEstablishment app => app.parsed
  | _ => none

end Frame

/-!
## Calm stretches

Everything but a staple leaves the recv classical group as observed, caches
nothing in it, and leaves the places alone in which a leaf move is entered.
-/

/-- What the bookkeeping of an applied commit reads and writes is untouched. -/
structure Calmly (C : ProposalCache M) (s s' : SessionInner M) : Prop where
  recv : Option.Rel (Calm C) (s.half .recvClassical) (s'.half .recvClassical)
  recvPq : s'.epoch .recvPq = s.epoch .recvPq
  rotation : s'.rotation = s.rotation
  auth : s'.services.auth = s.services.auth
  client : s'.client = s.client

structure Follows (C : ProposalCache M) (s s' : SessionInner M) : Prop extends
    Calmly C s s' where
  captures : s'.ledger.recvAttachmentLedger = s.ledger.recvAttachmentLedger

section

variable {C : ProposalCache M}

theorem calm_rel_refl (o : Option M.Group) : Option.Rel (Calm C) o o := by
  cases o with
  | none => exact Option.Rel.none
  | some g => exact Option.Rel.some (Calm.refl g)

theorem calm_rel_trans {o₁ o₂ o₃ : Option M.Group}
    (h : Option.Rel (Calm C) o₁ o₂) (h' : Option.Rel (Calm C) o₂ o₃) :
    Option.Rel (Calm C) o₁ o₃ := by
  cases h with
  | none =>
      cases h'
      exact Option.Rel.none
  | some hcalm =>
      cases h' with
      | some hcalm' => exact Option.Rel.some (hcalm.trans hcalm')

theorem Calmly.refl (s : SessionInner M) : Calmly C s s :=
  { recv := calm_rel_refl _, recvPq := rfl, rotation := rfl, auth := rfl
    client := rfl }

theorem Calmly.trans {s₁ s₂ s₃ : SessionInner M} (h : Calmly C s₁ s₂)
    (h' : Calmly C s₂ s₃) :
    Calmly C s₁ s₃ :=
  { recv := calm_rel_trans h.recv h'.recv
    recvPq := h'.recvPq.trans h.recvPq
    rotation := h'.rotation.trans h.rotation
    auth := h'.auth.trans h.auth
    client := h'.client.trans h.client }

theorem Follows.refl (s : SessionInner M) : Follows C s s :=
  { toCalmly := Calmly.refl s, captures := rfl }

theorem Follows.trans {s₁ s₂ s₃ : SessionInner M} (h : Follows C s₁ s₂)
    (h' : Follows C s₂ s₃) :
    Follows C s₁ s₃ :=
  { toCalmly := h.toCalmly.trans h'.toCalmly
    captures := h'.captures.trans h.captures }

/-- The recv group, calm since it was `g`. -/
def CalmSince (C : ProposalCache M) (g : M.Group) (s : SessionInner M) : Prop :=
  exists g', s.half .recvClassical = some g' ∧ Calm C g g'

theorem Calmly.since {s s' : SessionInner M} (h : Calmly C s s') {g : M.Group}
    (held : CalmSince C g s) :
    CalmSince C g s' := by
  rcases held with ⟨g', held, hcalm⟩
  have hrecv := h.recv
  rw [held] at hrecv
  cases hheld : s'.half .recvClassical with
  | none =>
      rw [hheld] at hrecv
      cases hrecv
  | some g'' =>
      rw [hheld] at hrecv
      cases hrecv with
      | some hcalm' => exact ⟨g'', hheld, hcalm.trans hcalm'⟩

theorem Calmly.absent {s s' : SessionInner M} (h : Calmly C s s')
    (hnone : s.half .recvClassical = none) :
    s'.half .recvClassical = none := by
  have hrecv := h.recv
  rw [hnone] at hrecv
  cases hheld : s'.half .recvClassical with
  | none => rfl
  | some g =>
      rw [hheld] at hrecv
      cases hrecv

end

/-!
## Applied commits
-/

/-- A commit of the staple section, as the library applied it to the group. -/
structure AppliedCommit (C : ProposalCache M) (m : M.Message) (g : M.Group) where
  env : MlsEnv
  before : M.Group
  effect : CommitEffect
  after : M.Group
  calm : Calm C g before
  applied : M.processIncomingMessage env m before = (.ok (.commit effect), after)

def Captured (C : ProposalCache M) (g : M.Group) (s : SessionInner M) : Prop :=
  hasEpoch s.ledger.recvAttachmentLedger (M.currentEpoch g) = true ∨
    exists g₀ e, Calm C g g₀ ∧
      ((exportAttachmentComponent : GroupOp M Bytes).run g₀).1 = .error e

def LeafMoves {C : ProposalCache M} {m : M.Message} {g : M.Group}
    (a : AppliedCommit C m g) (prior new : Bytes × Bytes) : Prop :=
  leafIds a.before = .ok prior ∧
    leafIdsAt a.after (peerIndex a.before) (M.currentMemberIndex a.before) = .ok new

structure Entered (prior new : Bytes × Bytes) (s : SessionInner M) : Prop where
  theirs : new.1 ≠ prior.1 ->
    s.rotation.theirState = .sync new.1 ∧ s.services.auth.theirs.current = some new.1
  mine : new.2 ≠ prior.2 ->
    s.client.clientId = new.2 ∧ s.services.auth.mine.current = some new.2

/-- The checks that follow an applied commit, all passed. -/
structure Vetted {C : ProposalCache M} {m : M.Message} {g : M.Group}
    (full : Bool) (a : AppliedCommit C m g) (s : SessionInner M) : Prop where
  held : CalmSince C a.after s
  twoParty : ensureTwoParty a.after = .ok ()
  attested : exists attestation, commitAttestation a.effect = .ok attestation ∧
    checkStapleAttestation s a.after attestation = .ok () ∧
    (full = true -> attestation.isSome = true)
  captured : Captured C g s

/-- A commit that was applied, checked and entered. -/
structure CarriedOut {C : ProposalCache M} {m : M.Message} {g : M.Group}
    (full : Bool) (a : AppliedCommit C m g) (s : SessionInner M) : Prop extends
    Vetted full a s where
  entered : exists prior new, LeafMoves a prior new ∧ Entered prior new s

/-- The recv classical group is where it was, up to what a staple that was not
applied may have cached; or it was joined by this frame. -/
inductive Idle (C : ProposalCache M) (frame : Frame M) (s₀ s : SessionInner M) :
    Prop where
  | absent (h₀ : s₀.half .recvClassical = none) (h : s.half .recvClassical = none)
  | joined (h₀ : s₀.half .recvClassical = none) (env : MlsEnv)
      (client : ClientIdentity M.Signer) (kps : List M.KeyPackageSecret) (w : M.Message)
      (g : M.Group) (hjoin : M.joinGroup env client kps w = .ok g)
      (h : CalmSince C g s)
  | calm (g : M.Group) (h₀ : s₀.half .recvClassical = some g) (h : CalmSince C g s)
  | refused (g g' : M.Group) (h₀ : s₀.half .recvClassical = some g)
      (hstapled : frame.stapled.isSome = true)
      (h : s.half .recvClassical = some g') (hsame : Undisturbed g g')

def RecvMove (C : ProposalCache M) (frame : Frame M) (s₀ s : SessionInner M) : Prop :=
  Idle C frame s₀ s ∨
    exists m g, frame.stapled = some m ∧ s₀.half .recvClassical = some g ∧
      exists a : AppliedCommit C m g, CarriedOut frame.staplesBind a s

/-!
## Refused commits
-/

/-- A check behind an applied commit of the staple refuses it: the attestation is
unreadable or does not agree with the halves, the group has more than two members, a
leaf is unreadable, or our own leaf moved to a principal we do not hold. -/
inductive AppliedCommit.Refused {C : ProposalCache M} {m : M.Message} {g : M.Group}
    (s : SessionInner M) (a : AppliedCommit C m g) : Staple M -> Prop where
  | unreadable (message : Blob M) (e : TwoMlsPqError)
      (h : commitAttestation a.effect = .error e) : a.Refused s (.commit message)
  | attested (message : Blob M) (attestation : Option ApqInfoUpdate) (e : TwoMlsPqError)
      (hattestation : commitAttestation a.effect = .ok attestation)
      (h : checkStapleAttestation s a.after attestation = .error e) :
      a.Refused s (.commit message)
  | bind (tMessage pqMessage : Blob M) (pq : M.Group) (attestation : ApqInfoUpdate)
      (held : s.half .recvPq = some pq) (hattested : AttestedBy pqMessage pq attestation)
      (h : ¬ (commitAttestation a.effect = .ok (some attestation) ∧
        attestation.tEpoch = M.currentEpoch a.after ∧
        attestation.pqEpoch = M.currentEpoch pq + 1)) :
      a.Refused s (.bind tMessage pqMessage)
  | members (staple : Staple M) (e : TwoMlsPqError)
      (h : ensureTwoParty a.after = .error e) : a.Refused s staple
  | leaves (staple : Staple M) (e : TwoMlsPqError)
      (h : leafIdsAt a.after (peerIndex a.before) (M.currentMemberIndex a.before) =
        .error e) : a.Refused s staple
  | principal (staple : Staple M) (prior new : Bytes × Bytes)
      (hmoves : LeafMoves a prior new) (hmoved : new.2 ≠ prior.2)
      (hother : new.2 ≠ s.client.clientId)
      (h : s.rotation.stagedCandidates.any (fun c => c.clientId == new.2) = false) :
      a.Refused s staple

/-- The staple carried a commit that the library applied to the recv group, and a
check behind it refused it. -/
def Rejected (C : ProposalCache M) (frame : Frame M) (s₀ s : SessionInner M) : Prop :=
  exists staple proposal app, frame = .message staple proposal app ∧
    exists m g, staple.carried = some m ∧ s₀.half .recvClassical = some g ∧
      exists a : AppliedCommit C m g, a.Refused s₀ staple ∧ CalmSince C a.after s ∧
        Captured C g s

/-- Where a frame ends that fails on its staple. -/
def Halted (C : ProposalCache M) (frame : Frame M) (s₀ s : SessionInner M) : Prop :=
  Idle C frame s₀ s ∨ Rejected C frame s₀ s

namespace Frame

/-- The application section is neither a commit nor a proposal. -/
def Plain (frame : Frame M) : Prop :=
  forall m, frame.opened = some m ->
    (M.description m).contentType ≠ some .commit ∧
      (M.description m).contentType ≠ some .proposal

end Frame

/-!
## Following
-/

section

variable {C : ProposalCache M} {W : List Slot}

def Trailing (C : ProposalCache M) (x : SessionOp M α) : Prop :=
  forall s₀, Op.Keeps (Follows C s₀) x

theorem Trailing.intro {x : SessionOp M α}
    (h : forall s, Follows C s (x.run s).2) :
    Trailing C x :=
  fun _ s hs => hs.trans (h s)

theorem Trailing.follows {x : SessionOp M α} (hx : Trailing C x)
    (s : SessionInner M) :
    Follows C s (x.run s).2 :=
  hx s s (Follows.refl s)

theorem Trailing.bind {β : Type} {x : SessionOp M α} {f : α -> SessionOp M β}
    (hx : Trailing C x) (hf : forall a, Trailing C (f a)) :
    Trailing C (x >>= f) :=
  fun s₀ => Op.Keeps.bind (hx s₀) fun a => hf a s₀

def KeepsView (x : SessionOp M α) : Prop :=
  Op.Writes (fun (_ : Unit) (s : SessionInner M) =>
    (s.ledger.recvAttachmentLedger, s.services.auth)) [] x

theorem keepsView_update {f : SessionInner M -> SessionInner M}
    (hledger : forall s, (f s).ledger.recvAttachmentLedger =
      s.ledger.recvAttachmentLedger)
    (hauth : forall s, (f s).services.auth = s.services.auth) :
    KeepsView (Op.update f) := by
  intro s _ _
  change ((f s).ledger.recvAttachmentLedger, (f s).services.auth) = _
  rw [hledger, hauth]

theorem Touches.keepsView {x : SessionOp M α} (hx : Touches W x)
    (hledger : Slot.ledger ∉ W) (hservices : Slot.services ∉ W) :
    KeepsView x := by
  intro s _ _
  have hkept : (x.run s).2.ledger = s.ledger := hx s .ledger hledger
  have hkept' : (x.run s).2.services = s.services := hx s .services hservices
  dsimp only
  rw [hkept, hkept']

theorem keepsView_rememberSendPsk :
    KeepsView (rememberSendPsk : SessionOp M Unit) := by
  unfold rememberSendPsk
  refine Op.Writes.looking (still_readHalf _ _) fun g => ?_
  refine Op.Writes.looking Op.Still.state fun s => ?_
  apply Op.Writes.ite
  · exact Op.Writes.value ()
  · refine Op.Writes.bind ?_ fun exported => ?_
    · exact Touches.keepsView (W := [.half .sendClassical])
        (touches_ofGroup _ _ _ (by decide)) (by decide) (by decide)
    · exact keepsView_update (fun _ => rfl) fun _ => rfl

theorem view_registerAll (entries : List (Nat × ExportedPsk)) (s : SessionInner M) :
    let s' := entries.foldl (fun s entry =>
      s.registerStores (injectionStores s) entry.2.storageId entry.2.psk) s
    s'.ledger = s.ledger ∧ s'.services.auth = s.services.auth := by
  induction entries generalizing s with
  | nil => exact ⟨rfl, rfl⟩
  | cons entry rest ih =>
      exact ih (s.registerStores (injectionStores s) entry.2.storageId entry.2.psk)

theorem view_forgetAll (ids : List PskId) (s : SessionInner M) :
    let s' := ids.foldl (fun s id => s.forgetStores (injectionStores s) id) s
    s'.ledger = s.ledger ∧ s'.services.auth = s.services.auth := by
  induction ids generalizing s with
  | nil => exact ⟨rfl, rfl⟩
  | cons id rest ih => exact ih (s.forgetStores (injectionStores s) id)

theorem keepsView_injectSendPsks :
    KeepsView (injectSendPsks : SessionOp M Unit) := by
  unfold injectSendPsks
  refine Op.Writes.bind keepsView_rememberSendPsk fun _ => ?_
  refine Op.Writes.bind (keepsView_update (fun s => ?_) fun s => ?_) fun _ =>
    keepsView_update (fun s => ?_) fun s => ?_
  · rw [(view_registerAll s.ledger.sendPskLedger s).1]
  · rw [(view_registerAll s.ledger.sendPskLedger s).2]
  · have hledger := congrArg LedgerState.recvAttachmentLedger
      (view_forgetAll s.ledger.retiredSendPsks s).1
    exact hledger
  · exact (view_forgetAll s.ledger.retiredSendPsks s).2

theorem Trailing.calmly {x : SessionOp M α} (hx : Trailing C x)
    (s₀ : SessionInner M) :
    Op.Keeps (Calmly C s₀) x :=
  fun s hs => hs.trans (hx.follows s).toCalmly

theorem Calmly.held {s₀ s : SessionInner M} (h : Calmly C s₀ s) {g : M.Group}
    (held : s₀.half .recvClassical = some g) :
    CalmSince C g s :=
  h.since ⟨g, held, Calm.refl g⟩

theorem Follows.capturedAt {g : M.Group} {s s' : SessionInner M}
    (h : Follows C s s') (hs : Captured C g s) :
    Captured C g s' := by
  unfold Captured
  rw [h.captures]
  exact hs

structure Pending {m : M.Message} {g : M.Group} (s₀ : SessionInner M) (full : Bool)
    (a : AppliedCommit C m g) (moved : LeafChanges) (s : SessionInner M) : Prop extends
    Vetted full a s where
  moves : exists prior new, LeafMoves a prior new ∧ moved = leafChanges prior new
  rotation : s.rotation = s₀.rotation
  client : s.client = s₀.client

variable {frame : Frame M} {s₀ : SessionInner M} {g : M.Group} {m : M.Message}

theorem Calmly.idle {s : SessionInner M} (h : Calmly C s₀ s) : Idle C frame s₀ s := by
  cases held : s₀.half .recvClassical with
  | none => exact Idle.absent held (h.absent held)
  | some g => exact Idle.calm g held (h.held held)

theorem Trailing.ahead {x : SessionOp M α} (hx : Trailing C x) :
    Op.Triple (Calmly C s₀) x (fun _ => Calmly C s₀) fun _ => Idle C frame s₀ :=
  (Op.Triple.ofKeeps (hx.calmly s₀)).weaken (fun _ _ h => h) fun _ _ h => h.idle

theorem triple_process (L : Lawful M) {s₁ : SessionInner M} {before : M.Group}
    (held : s₁.half .recvClassical = some before) (missing : TwoMlsPqError)
    (err : MlsError -> TwoMlsPqError) :
    Op.Triple (fun s => s = s₁)
      (callHalf .recvClassical missing err fun env => M.processIncomingMessage env m)
      (fun received s => exists env after,
        M.processIncomingMessage env m before = (.ok received, after) ∧
          s = s₁.setHalf .recvClassical after)
      fun _ s => exists g', Undisturbed before g' ∧
        s.half .recvClassical = some g' := by
  have hisSome : (s₁.half .recvClassical).isSome = true := by rw [held]; rfl
  rcases Option.isSome_iff_exists.mp (halfStore_isSome hisSome) with ⟨store, hstore⟩
  refine (triple_calling held hstore missing err _).weaken ?_ ?_
  · rintro received s ⟨after, hcall, rfl⟩
    exact ⟨_, after, hcall, rfl⟩
  · rintro _ s ⟨e, g', hcall, rfl⟩
    have heffect := L.process (s₁.services.env store) m before
    rw [hcall] at heffect
    exact ⟨g', heffect, half_setHalf_held held⟩

theorem checkStapleAttestation_congr {s s' : SessionInner M}
    (h : s'.epoch .recvPq = s.epoch .recvPq) (g : M.Group)
    (attestation : Option ApqInfoUpdate) :
    checkStapleAttestation s' g attestation = checkStapleAttestation s g attestation := by
  unfold checkStapleAttestation
  rw [h]

theorem Idle.congr {s s' : SessionInner M}
    (hsame : s'.half .recvClassical = s.half .recvClassical)
    (h : Idle C frame s₀ s) :
    Idle C frame s₀ s' := by
  cases h with
  | absent h₀ h => exact Idle.absent h₀ (hsame.trans h)
  | joined h₀ env client kps w g hjoin h =>
      refine Idle.joined h₀ env client kps w g hjoin ?_
      unfold CalmSince
      rw [hsame]
      exact h
  | calm g h₀ h =>
      refine Idle.calm g h₀ ?_
      unfold CalmSince
      rw [hsame]
      exact h
  | refused g g' h₀ hstapled h hundisturbed =>
      exact Idle.refused g g' h₀ hstapled (hsame.trans h) hundisturbed

theorem Pending.congr {full : Bool} {a : AppliedCommit C m g} {moved : LeafChanges}
    {s s' : SessionInner M} (h : Pending s₀ full a moved s)
    (hrecv : s'.half .recvClassical = s.half .recvClassical)
    (hpq : s'.epoch .recvPq = s.epoch .recvPq)
    (hledger : s'.ledger.recvAttachmentLedger = s.ledger.recvAttachmentLedger)
    (hclient : s'.client = s.client) (hrotation : s'.rotation = s.rotation) :
    Pending s₀ full a moved s' := by
  constructor
  · constructor
    · unfold CalmSince
      rw [hrecv]
      exact h.held
    · exact h.twoParty
    · rcases h.attested with ⟨attestation, hattestation, hcheck, hfull⟩
      refine ⟨attestation, hattestation, ?_, hfull⟩
      rw [checkStapleAttestation_congr hpq]
      exact hcheck
    · unfold Captured
      rw [hledger]
      exact h.captured
  · exact h.moves
  · exact hrotation.trans h.rotation
  · exact hclient.trans h.client

theorem Halted.congr {s s' : SessionInner M}
    (hrecv : s'.half .recvClassical = s.half .recvClassical)
    (hledger : s'.ledger.recvAttachmentLedger = s.ledger.recvAttachmentLedger)
    (h : Halted C frame s₀ s) :
    Halted C frame s₀ s' := by
  rcases h with hidle | ⟨staple, proposal, app, hframe, m, g, hm, held, a, ha, hsince,
    hcaptured⟩
  · exact Or.inl (hidle.congr hrecv)
  · refine Or.inr ⟨staple, proposal, app, hframe, m, g, hm, held, a, ha, ?_, ?_⟩
    · unfold CalmSince
      rw [hrecv]
      exact hsince
    · unfold Captured
      rw [hledger]
      exact hcaptured

structure CheckedKept (s s' : SessionInner M) : Prop where
  recv : s'.half .recvClassical = s.half .recvClassical
  recvPq : s'.epoch .recvPq = s.epoch .recvPq
  captures : s'.ledger.recvAttachmentLedger = s.ledger.recvAttachmentLedger

theorem CheckedKept.trans {s₁ s₂ s₃ : SessionInner M} (h : CheckedKept s₁ s₂)
    (h' : CheckedKept s₂ s₃) :
    CheckedKept s₁ s₃ :=
  { recv := h'.recv.trans h.recv
    recvPq := h'.recvPq.trans h.recvPq
    captures := h'.captures.trans h.captures }

theorem Vetted.kept {full : Bool} {a : AppliedCommit C m g} {s s' : SessionInner M}
    (h : Vetted full a s) (hsame : CheckedKept s s') :
    Vetted full a s' := by
  constructor
  · unfold CalmSince
    rw [hsame.recv]
    exact h.held
  · exact h.twoParty
  · rcases h.attested with ⟨attestation, hattestation, hcheck, hfull⟩
    refine ⟨attestation, hattestation, ?_, hfull⟩
    rw [checkStapleAttestation_congr hsame.recvPq]
    exact hcheck
  · unfold Captured
    rw [hsame.captures]
    exact h.captured

theorem installWinner_enters (winner : TwoMlsPqPrincipal M) (newOwn : Bytes)
    (s : SessionInner M) :
    CheckedKept s (installWinner winner newOwn s) ∧
      (installWinner winner newOwn s).rotation.theirState = s.rotation.theirState ∧
      (installWinner winner newOwn s).services.auth.theirs = s.services.auth.theirs ∧
      (installWinner winner newOwn s).services.auth.mine.current = some newOwn := by
  unfold installWinner trackPskStores
  split
  next h =>
    refine ⟨⟨rfl, rfl, rfl⟩, rfl, rfl, ?_⟩
    exact PartySequence.current_commit _ _
  next h =>
    refine ⟨⟨rfl, rfl, rfl⟩, rfl, rfl, ?_⟩
    exact PartySequence.current_commit _ _

end

end

end Session
end TwoMlsPq
