import TwoMlsPq.Session.Establishment
import TwoMlsPq.Session.Footprint

/-!
# What an archive checks, kept all along

A restore refuses an archive with an overlong ledger, a digest of the wrong
length, no staple, or a bootstrap key package without its private half.  The
same shape holds of the live session from its birth on, and every operation
keeps it, whatever it is handed and however it ends.
-/

namespace TwoMlsPq
namespace Session

open Foundation Apq

section

variable {M : MlsRs} {α β : Type}

/-- The shape of a session that an archive of it must have.  `spent` says that
the bootstrap key package has been handed out. -/
structure Sound (spent : Bool) (s : SessionInner M) : Prop where
  sendGroup : s.sendGroup.isSome = true
  sendPsks : s.ledger.sendPskLedger.length <= sendPskWindow
  sendAttachments : s.ledger.sendAttachmentLedger.length <= attachmentLedgerWindow
  recvAttachments : s.ledger.recvAttachmentLedger.length <= attachmentLedgerWindow
  addresses : forall e, e ∈ s.ledger.listenRendezvous -> e.2.length = 32
  headerKeys : forall e, e ∈ s.ledger.recvHeaderKeys -> e.2.length = M.aeadKeySize
  headerKeysPq :
    forall e, e ∈ s.ledger.recvHeaderKeysPq -> e.2.length = M.aeadKeySize
  hash : digestOk s.msg.pendingProposalHash = true
  offered : digestOk (s.msg.offeredProposal.map PeerProposal.digest) = true
  queued : digestOk (s.msg.queuedProposal.map PeerProposal.digest) = true
  welcome : digestOk s.msg.joinedWelcomeDigest = true
  staple : s.msg.currentStaple.isSome = true
  bootstrap :
    s.round.bootstrapKp.isNone = true ∨ s.round.bootstrapKpSecret.isSome = true
  initiated : s.round.pqInflight = some .bootstrapInitiated ->
    s.round.bootstrapKp = none
  handedOut : spent = true -> s.round.bootstrapKp = none
  commitment : digestOk s.round.expectedBootstrapKpCommitment = true
  responder : forall secret ct,
    s.round.pqInflight = some (.responding secret ct) -> ct.isSome = true

theorem Sound.withRound {spent : Bool} {s : SessionInner M} (h : Sound spent s)
    {r : RoundState M}
    (bootstrap : r.bootstrapKp.isNone = true ∨ r.bootstrapKpSecret.isSome = true)
    (initiated : r.pqInflight = some .bootstrapInitiated -> r.bootstrapKp = none)
    (handedOut : spent = true -> r.bootstrapKp = none)
    (commitment : digestOk r.expectedBootstrapKpCommitment = true)
    (responder : forall secret ct,
      r.pqInflight = some (.responding secret ct) -> ct.isSome = true) :
    Sound spent { s with round := r } :=
  { h with
    bootstrap := bootstrap, initiated := initiated, handedOut := handedOut
    commitment := commitment, responder := responder }

theorem Sound.sameRound {spent : Bool} {s : SessionInner M} (h : Sound spent s)
    {r : RoundState M} (inflight : r.pqInflight = s.round.pqInflight)
    (kp : r.bootstrapKp = s.round.bootstrapKp)
    (secret : r.bootstrapKpSecret = s.round.bootstrapKpSecret)
    (commitment : r.expectedBootstrapKpCommitment =
      s.round.expectedBootstrapKpCommitment) :
    Sound spent { s with round := r } := by
  apply h.withRound
  · rw [kp, secret]
    exact h.bootstrap
  · rw [inflight, kp]
    exact h.initiated
  · rw [kp]
    exact h.handedOut
  · rw [commitment]
    exact h.commitment
  · rw [inflight]
    exact h.responder

theorem Sound.inRound {spent : Bool} {s : SessionInner M} (h : Sound spent s)
    {r : RoundState M} (opened : r.pqInflight ≠ some .bootstrapInitiated)
    (unanswered : forall secret ct, r.pqInflight ≠ some (.responding secret ct))
    (kp : r.bootstrapKp = s.round.bootstrapKp)
    (secret : r.bootstrapKpSecret = s.round.bootstrapKpSecret)
    (commitment : r.expectedBootstrapKpCommitment =
      s.round.expectedBootstrapKpCommitment) :
    Sound spent { s with round := r } := by
  apply h.withRound
  · rw [kp, secret]
    exact h.bootstrap
  · intro hopened
    exact absurd hopened opened
  · rw [kp]
    exact h.handedOut
  · rw [commitment]
    exact h.commitment
  · intro secret' ct hresponding
    exact absurd hresponding (unanswered secret' ct)

/-!
## Groups, services and stores
-/

variable {spent : Bool}

theorem sendGroup_setHalf (s : SessionInner M) (h : Half) (g : M.Group) :
    (s.setHalf h g).sendGroup.isSome = s.sendGroup.isSome := by
  cases h <;> simp [SessionInner.setHalf]

theorem keeps_onHalf (h : Half) (missing : TwoMlsPqError)
    (y : StoreId -> HalfOp M α) :
    Op.Keeps (Sound spent) (onHalf h missing y) := by
  intro s hs
  unfold onHalf
  rw [Op.run_ofResult]
  split
  next g store held hstore =>
    have hsend := (sendGroup_setHalf s h
      ((y store).run { services := s.services, group := g }).2.group).trans
        hs.sendGroup
    cases h with
    | _ => exact { hs with sendGroup := hsend }
  next => exact hs

theorem keeps_callHalf (h : Half) (missing : TwoMlsPqError)
    (err : MlsError -> TwoMlsPqError)
    (f : MlsEnv -> M.Group -> Except MlsError α × M.Group) :
    Op.Keeps (Sound spent) (callHalf h missing err f) :=
  keeps_onHalf h missing _

/-!
## Ledgers
-/

theorem mem_insertEpoch {epoch : Nat} {value : α} {entries : List (Nat × α)}
    {e : Nat × α} (h : e ∈ insertEpoch epoch value entries) :
    e = (epoch, value) ∨ e ∈ entries := by
  induction entries with
  | nil =>
      rw [insertEpoch, List.mem_singleton] at h
      exact Or.inl h
  | cons entry rest ih =>
      rw [insertEpoch] at h
      split at h
      · rcases List.mem_cons.mp h with hnew | hold
        · exact Or.inl hnew
        · exact Or.inr hold
      · split at h
        · rcases List.mem_cons.mp h with hnew | hold
          · exact Or.inl hnew
          · exact Or.inr (List.mem_cons_of_mem _ hold)
        · rcases List.mem_cons.mp h with hfirst | hold
          · rw [hfirst]
            exact Or.inr List.mem_cons_self
          · rcases ih hold with hnew | hrest
            · exact Or.inl hnew
            · exact Or.inr (List.mem_cons_of_mem _ hrest)

theorem length_keepNewest (window : Nat) (entries : List α) :
    (keepNewest window entries).length <= window := by
  unfold keepNewest
  rw [List.length_drop]
  omega

theorem mem_keepNewest {window : Nat} {entries : List α} {e : α}
    (h : e ∈ keepNewest window entries) :
    e ∈ entries :=
  List.mem_of_mem_drop h

theorem length_ledgerAttachmentComponent {epoch : Nat} {component : Bytes}
    {ledger : List (Nat × Bytes)}
    (h : ledger.length <= attachmentLedgerWindow) :
    (ledgerAttachmentComponent epoch component ledger).length <=
      attachmentLedgerWindow := by
  unfold ledgerAttachmentComponent
  split
  · exact h
  · exact length_keepNewest _ _

theorem keeps_rememberSendPsk :
    Op.Keeps (Sound spent) (rememberSendPsk : SessionOp M Unit) := by
  unfold rememberSendPsk
  refine Op.Keeps.looking (still_readHalf _ _) fun g => ?_
  refine Op.Keeps.looking Op.Still.state fun s => ?_
  apply Op.Keeps.ite
  · exact Op.Keeps.value ()
  · refine Op.Keeps.bind (keeps_onHalf _ _ _) fun exported => ?_
    exact Op.Keeps.update fun s hs => { hs with sendPsks := length_keepNewest _ _ }

theorem Sound.registerAll {s : SessionInner M} (hs : Sound spent s)
    (entries : List (Nat × ExportedPsk)) :
    Sound spent (entries.foldl (fun s entry =>
      s.registerStores (injectionStores s) entry.2.storageId entry.2.psk) s) := by
  induction entries generalizing s with
  | nil => exact hs
  | cons entry rest ih => exact ih { hs with }

theorem Sound.forgetAll {s : SessionInner M} (hs : Sound spent s)
    (ids : List PskId) :
    Sound spent
      (ids.foldl (fun s id => s.forgetStores (injectionStores s) id) s) := by
  induction ids generalizing s with
  | nil => exact hs
  | cons id rest ih => exact ih { hs with }

theorem keeps_injectSendPsks :
    Op.Keeps (Sound spent) (injectSendPsks : SessionOp M Unit) := by
  unfold injectSendPsks
  refine Op.Keeps.bind keeps_rememberSendPsk fun _ => ?_
  refine Op.Keeps.bind (Op.Keeps.update fun s hs => hs.registerAll _) fun _ => ?_
  exact Op.Keeps.update fun s hs => { hs.forgetAll s.ledger.retiredSendPsks with }

theorem keeps_injectSendPsksIf (b : Bool) :
    Op.Keeps (Sound spent)
      (if b then injectSendPsks else pure () : SessionOp M Unit) :=
  Op.Keeps.ite keeps_injectSendPsks (Op.Keeps.value ())

theorem keeps_sendAttachmentComponent :
    Op.Keeps (Sound spent) (sendAttachmentComponent : SessionOp M Bytes) := by
  unfold sendAttachmentComponent
  refine Op.Keeps.looking (still_readHalf _ _) fun g => ?_
  refine Op.Keeps.looking Op.Still.state fun s => ?_
  split
  · exact Op.Keeps.value _
  · refine Op.Keeps.bind (keeps_onHalf _ _ _) fun component => ?_
    refine Op.Keeps.bind (Op.Keeps.update fun s hs => ?_) fun _ =>
      Op.Keeps.value _
    exact { hs with
      sendAttachments := length_ledgerAttachmentComponent hs.sendAttachments }

theorem keeps_captureRecvAttachmentComponent (epoch : Nat) :
    Op.Keeps (Sound spent)
      (captureRecvAttachmentComponent epoch : SessionOp M Bytes) := by
  unfold captureRecvAttachmentComponent
  refine Op.Keeps.bind (keeps_onHalf _ _ _) fun component => ?_
  refine Op.Keeps.bind (Op.Keeps.update fun s hs => ?_) fun _ => Op.Keeps.value _
  exact { hs with
    recvAttachments := length_ledgerAttachmentComponent hs.recvAttachments }

theorem keeps_rememberRecvAttachmentComponent :
    Op.Keeps (Sound spent)
      (rememberRecvAttachmentComponent : SessionOp M Unit) := by
  unfold rememberRecvAttachmentComponent
  refine Op.Keeps.looking Op.Still.state fun s => ?_
  split
  · exact Op.Keeps.value ()
  · apply Op.Keeps.ite
    · exact Op.Keeps.value ()
    · refine Op.Keeps.bind
        (keeps_captureRecvAttachmentComponent _).attempt fun _ => ?_
      exact Op.Keeps.value ()

theorem keeps_recvAttachmentComponent (epoch : Nat) :
    Op.Keeps (Sound spent)
      (recvAttachmentComponent epoch : SessionOp M Bytes) := by
  unfold recvAttachmentComponent
  refine Op.Keeps.looking Op.Still.state fun s => ?_
  split
  · exact Op.Keeps.value _
  · apply Op.Keeps.ite
    · exact (keeps_captureRecvAttachmentComponent epoch).mapError
    · exact Op.Keeps.fail _

/-!
## Listen addresses and header keys

These are the only slots whose lengths the library decides.
-/

section

variable (T : Dependable M)

include T

theorem returns_exportSecret (g : M.Group) (label context : Bytes) {length : Nat}
    (h : length = 32 ∨ length = M.aeadKeySize) :
    Op.Returns
      (Op.ofExcept (orError .mls (M.exportSecret g label context length)) :
        SessionOp M Bytes)
      fun secret => secret.length = length := by
  intro s secret hsecret
  rcases T.exportSecret g label context length h with ⟨secret', hexport, hlength⟩
  rw [Op.run_ofExcept] at hsecret
  unfold orError at hsecret
  rw [hexport] at hsecret
  cases hsecret
  exact hlength

theorem keeps_recordListenRendezvous :
    Op.Keeps (Sound spent) (recordListenRendezvous : SessionOp M Unit) := by
  unfold recordListenRendezvous
  refine Op.Keeps.looking Op.Still.state fun s => ?_
  split
  · exact Op.Keeps.value ()
  next g held =>
    dsimp only
    apply Op.Keeps.ite
    · exact Op.Keeps.value ()
    refine Op.Keeps.knowing (returns_exportSecret T g _ _ (Or.inl rfl))
      (Op.Keeps.still (Op.Still.ofExcept _)) fun secret hsecret => ?_
    refine Op.Keeps.knowing (returns_exportSecret T g _ _ (Or.inr rfl))
      (Op.Keeps.still (Op.Still.ofExcept _)) fun header hheader => ?_
    refine Op.Keeps.bind (Op.Keeps.update fun s hs => ?_) fun _ => ?_
    · refine { hs with addresses := ?_, headerKeys := ?_ }
      · intro e he
        rcases mem_insertEpoch he with rfl | hold
        · exact hsecret
        · exact hs.addresses e hold
      · intro e he
        rcases mem_insertEpoch he with rfl | hold
        · exact hheader
        · exact hs.headerKeys e hold
    refine Op.Keeps.bind (keeps_callHalf _ _ _ _) fun _ => ?_
    refine Op.Keeps.looking (still_readHalf _ _) fun g' => ?_
    refine Op.Keeps.update fun s hs => ?_
    refine { hs with addresses := ?_, headerKeys := ?_ }
    · exact fun e he => hs.addresses e (List.mem_of_mem_filter he)
    · exact fun e he => hs.headerKeys e (List.mem_of_mem_filter he)

theorem keeps_recordPqHeaderKey :
    Op.Keeps (Sound spent) (recordPqHeaderKey : SessionOp M Unit) := by
  unfold recordPqHeaderKey
  refine Op.Keeps.looking Op.Still.state fun s => ?_
  split
  · exact Op.Keeps.value ()
  next g held =>
    dsimp only
    apply Op.Keeps.ite
    · exact Op.Keeps.value ()
    refine Op.Keeps.knowing (returns_exportSecret T g _ _ (Or.inr rfl))
      (Op.Keeps.still (Op.Still.ofExcept _)) fun key hkey => ?_
    refine Op.Keeps.update fun s hs => { hs with headerKeysPq := ?_ }
    intro e he
    rcases mem_insertEpoch (mem_keepNewest he) with rfl | hold
    · exact hkey
    · exact hs.headerKeysPq e hold

theorem keeps_recordPqHeaderKeyPostCommit :
    Op.Keeps (Sound spent) (recordPqHeaderKeyPostCommit : SessionOp M Unit) :=
  Op.Keeps.bind (keeps_recordPqHeaderKey T).attempt fun _ => Op.Keeps.value ()

end

/-!
## The send path
-/

theorem keeps_validateOfferedUpdate (proposal : Blob M) (proposing : Bytes) :
    Op.Keeps (Sound spent) (validateOfferedUpdate proposal proposing) := by
  unfold validateOfferedUpdate
  refine Op.Keeps.looking (Op.Still.ofOption _ _) fun message => ?_
  refine Op.Keeps.looking (still_readHalf _ _) fun send => ?_
  refine Op.Keeps.bind (keeps_callHalf _ _ _ _).attempt fun processed => ?_
  refine Op.Keeps.bind (keeps_onHalf _ _ _) fun _ => ?_
  refine Op.Keeps.looking (Op.Still.ofExcept _) fun received => ?_
  split
  · refine Op.Keeps.looking (Op.Still.ofExcept _) fun _ => ?_
    exact Op.Keeps.still (Op.Still.ofExcept _)
  · exact Op.Keeps.fail _

theorem keeps_admitCandidate (newClientId : Bytes) (rnd : Nat -> M.Seed) :
    Op.Keeps (Sound spent) (admitCandidate newClientId rnd) := by
  unfold admitCandidate stageOrDefer
  refine Op.Keeps.looking (Op.Still.ensure _ _) fun _ => ?_
  refine Op.Keeps.looking Op.Still.state fun s => ?_
  apply Op.Keeps.ite
  · exact Op.Keeps.value ()
  · refine Op.Keeps.bind ?_ fun _ => Op.Keeps.update fun s hs => { hs with }
    refine Op.Keeps.looking Op.Still.state fun s => ?_
    apply Op.Keeps.ite
    · refine Op.Keeps.looking (Op.Still.ofExcept _) fun candidate => ?_
      exact Op.Keeps.update fun s hs => { hs with }
    · exact Op.Keeps.update fun s hs => { hs with }

theorem keeps_commitPqAndOweBind (secret : Bytes) (seed : M.Seed) :
    Op.Keeps (Sound spent) (commitPqAndOweBind (M := M) secret seed) := by
  unfold commitPqAndOweBind
  refine Op.Keeps.looking Op.Still.state fun s => ?_
  refine Op.Keeps.looking (still_readHalf _ _) fun send => ?_
  refine Op.Keeps.looking (still_readHalf _ _) fun sendPq => ?_
  refine Op.Keeps.bind (keeps_onHalf _ _ _) fun pqCommit => ?_
  exact Op.Keeps.update fun s hs => hs.sameRound rfl rfl rfl rfl

theorem keeps_dischargeOwedBind :
    Op.Keeps (Sound spent)
      (dischargeOwedBind : SessionOp M (Option (DischargedBind M))) := by
  unfold dischargeOwedBind
  refine Op.Keeps.looking Op.Still.state fun s => ?_
  split
  · exact Op.Keeps.value _
  · refine Op.Keeps.bind
      (Op.Keeps.update fun s hs => hs.sameRound rfl rfl rfl rfl) fun _ => ?_
    refine Op.Keeps.looking (still_readHalf _ _) fun send => ?_
    refine Op.Keeps.looking (still_readHalf _ _) fun sendPq => ?_
    refine Op.Keeps.looking (Op.Still.ensure _ _) fun _ => ?_
    refine Op.Keeps.looking (Op.Still.ensure _ _) fun _ => ?_
    refine Op.Keeps.bind (keeps_onHalf _ _ _) fun apqPsk => ?_
    refine Op.Keeps.bind
      (Op.Keeps.update fun s hs => hs.sameRound rfl rfl rfl rfl) fun _ => ?_
    exact Op.Keeps.value _

theorem keeps_crossPskForCommit :
    Op.Keeps (Sound spent)
      (crossPskForCommit : SessionOp M (Option ExportedPsk)) := by
  unfold crossPskForCommit
  refine Op.Keeps.looking (still_readHalf _ _) fun recv => ?_
  refine Op.Keeps.looking Op.Still.state fun s => ?_
  apply Op.Keeps.ite
  · exact Op.Keeps.value _
  · refine Op.Keeps.bind (keeps_onHalf _ _ _) fun exported => ?_
    refine Op.Keeps.looking Op.Still.state fun s => ?_
    refine Op.Keeps.looking (Op.Still.ofOption _ _) fun send => ?_
    refine Op.Keeps.bind (Op.Keeps.update fun s hs => { hs with }) fun _ => ?_
    exact Op.Keeps.value _

theorem keeps_refold (folded : Option (PeerProposal M)) :
    Op.Keeps (Sound spent) (refold folded) := by
  unfold refold
  split
  · exact Op.Keeps.value ()
  · refine Op.Keeps.looking (Op.Still.ofOption _ _) fun message => ?_
    refine Op.Keeps.bind (keeps_callHalf _ _ _ _) fun _ => ?_
    exact Op.Keeps.value ()

theorem Sound.forgetConsumed {s : SessionInner M} (hs : Sound spent s)
    (crossPsk : Option ExportedPsk) (owed : Option (DischargedBind M)) :
    Sound spent (forgetConsumed crossPsk owed s) := by
  cases crossPsk <;> cases owed <;> exact { hs with }

theorem Sound.canonicalizeFold {s : SessionInner M} (hs : Sound spent s)
    (folded : Option (PeerProposal M)) :
    Sound spent (canonicalizeFold folded s) := by
  unfold Session.canonicalizeFold
  split
  · split
    · exact { hs with }
    · exact hs
  · exact hs

theorem keeps_dischargeAndCommit (folded : Option (PeerProposal M))
    (crossPsk : Option ExportedPsk) (handoff : Option (M.Signer × Bytes))
    (seed : M.Seed) :
    Op.Keeps (Sound spent) (dischargeAndCommit folded crossPsk handoff seed) := by
  unfold dischargeAndCommit
  refine Op.Keeps.bind keeps_dischargeOwedBind fun owed => ?_
  refine Op.Keeps.bind (keeps_callHalf _ _ _ _) fun output => ?_
  refine Op.Keeps.bind (keeps_callHalf _ _ _ _) fun _ => ?_
  refine Op.Keeps.looking (still_readHalf _ _) fun send => ?_
  refine Op.Keeps.looking (Op.Still.ofExcept _) fun _ => ?_
  refine Op.Keeps.bind (Op.Keeps.update fun s hs => hs.forgetConsumed _ _)
    fun _ => ?_
  refine Op.Keeps.bind (Op.Keeps.update fun s hs => hs.canonicalizeFold _)
    fun _ => ?_
  refine Op.Keeps.bind keeps_rememberSendPsk fun _ => ?_
  refine Op.Keeps.looking (Op.Still.ofExcept _) fun clCommit => ?_
  exact Op.Keeps.update fun s hs => { hs with offered := rfl, staple := rfl }

theorem keeps_commitRound (folded : Option (PeerProposal M)) (seed : M.Seed) :
    Op.Keeps (Sound spent) (commitRound folded seed) := by
  unfold commitRound
  refine Op.Keeps.bind keeps_rememberSendPsk fun _ => ?_
  refine Op.Keeps.bind keeps_crossPskForCommit fun crossPsk => ?_
  refine Op.Keeps.looking still_handoffForCommit fun handoff => ?_
  refine Op.Keeps.bind (keeps_refold folded) fun _ => ?_
  refine Op.Keeps.looking Op.Still.state fun s => ?_
  exact (keeps_dischargeAndCommit _ _ _ _).mapError

theorem keeps_selectCandidate (selected : Option Bytes) (rnd : Nat -> M.Seed) :
    Op.Keeps (Sound spent) (selectCandidate selected rnd) := by
  unfold selectCandidate
  refine Op.Keeps.looking Op.Still.state fun s => ?_
  split
  · exact Op.Keeps.bind (keeps_admitCandidate _ _) fun _ => Op.Keeps.value _
  · split
    · split
      · refine Op.Keeps.bind (Op.Keeps.update fun s hs => { hs with }) fun _ => ?_
        exact Op.Keeps.bind (keeps_admitCandidate _ _) fun _ => Op.Keeps.value _
      · exact Op.Keeps.value _
    · exact Op.Keeps.value _

theorem keeps_proposeSelfUpdate (candidate : Option (TwoMlsPqPrincipal M))
    (seed : M.Seed) :
    Op.Keeps (Sound spent) (proposeSelfUpdate candidate seed) := by
  unfold proposeSelfUpdate
  refine Op.Keeps.looking (still_readHalf _ _) fun recv => ?_
  refine Op.Keeps.looking (Op.Still.ofExcept _) fun leafId => ?_
  refine Op.Keeps.looking Op.Still.state fun s => ?_
  refine Op.Keeps.bind (keeps_callHalf _ _ _ _) fun proposal => ?_
  exact Op.Keeps.still (Op.Still.ofExcept _)

/-!
## Opening and re-minting rounds
-/

theorem keeps_mintLeg (kind : PqFrameKind) (payload : Bytes) (seed : M.Seed) :
    Op.Keeps (Sound spent) (mintLeg kind payload seed) := by
  unfold mintLeg
  refine Op.Keeps.bind (keeps_callHalf _ _ _ _) fun message => ?_
  refine Op.Keeps.looking (Op.Still.ofExcept _) fun body => ?_
  exact Op.Keeps.value _

theorem keeps_processA4Leg (h : Half) (innerTag : UInt8) (message : M.Message) :
    Op.Keeps (Sound spent) (processA4Leg h innerTag message) := by
  unfold processA4Leg
  refine Op.Keeps.looking (Op.Still.ensure _ _) fun _ => ?_
  refine Op.Keeps.looking (still_readHalf _ _) fun g => ?_
  refine Op.Keeps.bind (keeps_callHalf _ _ _ _) fun received => ?_
  split
  · refine Op.Keeps.looking (Op.Still.ensure _ _) fun _ => ?_
    split
    · refine Op.Keeps.looking (Op.Still.ensure _ _) fun _ => ?_
      exact Op.Keeps.value _
    · exact Op.Keeps.fail _
  · exact Op.Keeps.fail _

theorem keeps_stageRatchet (rnd : Nat -> M.Seed) :
    Op.Keeps (Sound spent) (stageRatchet rnd) := by
  unfold stageRatchet
  refine Op.Keeps.looking (Op.Still.ofExcept _) fun eph => ?_
  refine Op.Keeps.bind (keeps_mintLeg _ _ _) fun frame => ?_
  exact Op.Keeps.update fun s hs =>
    hs.inRound (fun h => nomatch h) (fun _ _ h => nomatch h) rfl rfl rfl

theorem keeps_stageRekey (rotating : Option Bytes) (seed : M.Seed) :
    Op.Keeps (Sound spent) (stageRekey rotating seed) := by
  unfold stageRekey
  refine Op.Keeps.looking Op.Still.state fun s => ?_
  refine Op.Keeps.looking (Op.Still.ensure _ _) fun _ => ?_
  dsimp only
  refine Op.Keeps.bind (keeps_callHalf _ _ _ _) fun proposal => ?_
  refine Op.Keeps.looking (Op.Still.ofExcept _) fun body => ?_
  exact Op.Keeps.update fun s hs =>
    hs.inRound (fun h => nomatch h) (fun _ _ h => nomatch h) rfl rfl rfl

theorem keeps_rewrapSideBand (seed : M.Seed) :
    Op.Keeps (Sound spent) (rewrapSideBand (M := M) seed) := by
  unfold rewrapSideBand
  refine Op.Keeps.looking Op.Still.state fun s => ?_
  split
  · apply Op.Keeps.ite
    · refine Op.Keeps.bind (keeps_mintLeg _ _ _).attempt fun minted => ?_
      split
      · exact Op.Keeps.update fun s hs => hs.sameRound rfl rfl rfl rfl
      · exact Op.Keeps.value ()
    · exact Op.Keeps.value ()
  · exact Op.Keeps.value ()

theorem keeps_maybeStageNextRound (rnd : Nat -> M.Seed) :
    Op.Keeps (Sound spent) (maybeStageNextRound rnd) := by
  unfold maybeStageNextRound
  refine Op.Keeps.looking Op.Still.state fun s => ?_
  apply Op.Keeps.ite
  · apply Op.Keeps.ite
    · exact Op.Keeps.bind (keeps_stageRekey _ _).attempt fun _ => Op.Keeps.value _
    · exact Op.Keeps.bind (keeps_stageRatchet _).attempt fun _ => Op.Keeps.value _
  · exact Op.Keeps.value _

theorem Sound.retireStalePins {s : SessionInner M} (hs : Sound spent s) :
    Sound spent (retireStalePins s) :=
  { hs with }

theorem keeps_encryptInner (appMessage : Bytes) (rnd : Nat -> M.Seed) :
    Op.Keeps (Sound spent) (encryptInner appMessage rnd) := by
  unfold encryptInner
  refine Op.Keeps.looking still_ensureEstablishmentDelegated fun _ => ?_
  refine Op.Keeps.looking Op.Still.state fun s => ?_
  refine Op.Keeps.looking (Op.Still.ofOption _ _) fun proposalHash => ?_
  dsimp only
  refine Op.Keeps.bind (Op.Keeps.update fun s hs => { hs with hash := rfl })
    fun _ => ?_
  refine Op.Keeps.looking (Op.Still.ensure _ _) fun _ => ?_
  refine Op.Keeps.bind (keeps_callHalf _ _ _ _) fun message => ?_
  refine Op.Keeps.looking (Op.Still.ofExcept _) fun app => ?_
  refine Op.Keeps.looking Op.Still.state fun s => ?_
  refine Op.Keeps.looking (Op.Still.ofOption _ _) fun send => ?_
  refine Op.Keeps.looking (still_composeFrame _ _ _) fun cipherText => ?_
  refine Op.Keeps.bind (keeps_rewrapSideBand _) fun _ => ?_
  refine Op.Keeps.bind (keeps_maybeStageNextRound _) fun stagedPqRound => ?_
  exact Op.Keeps.value _

theorem keeps_queueProposalInner (digest : Bytes) :
    Op.Keeps (Sound spent) (queueProposalInner (M := M) digest) := by
  unfold queueProposalInner
  refine Op.Keeps.reading fun s hs => ?_
  refine Op.Keeps.knowing (Op.Returns.ofOption _ _)
    (Op.Keeps.still (Op.Still.ofOption _ _)) fun offered hoffered => ?_
  have hdigest : digestOk ((some offered).map PeerProposal.digest) = true := by
    rw [← hoffered]
    exact hs.offered
  refine Op.Keeps.bind (Op.Keeps.update fun s hs => { hs with offered := rfl })
    fun _ => ?_
  apply Op.Keeps.ite
  · refine Op.Keeps.bind
      (Op.Keeps.update fun s hs => { hs with offered := hdigest }) fun _ => ?_
    exact Op.Keeps.fail _
  · refine Op.Keeps.bind (keeps_validateOfferedUpdate _ _).attempt
      fun validated => ?_
    split
    · exact Op.Keeps.update fun s hs => { hs with queued := hdigest }
    · refine Op.Keeps.bind
        (Op.Keeps.update fun s hs => { hs with offered := hdigest }) fun _ => ?_
      exact Op.Keeps.fail _

/-!
## The send doors
-/

section

variable (T : Dependable M)

include T

theorem digestOk_sha256 (bytes : Bytes) : digestOk (some (M.sha256 bytes)) = true := by
  simp [digestOk, T.digest]

theorem keeps_stageSelfUpdate (selected : Option Bytes) (rnd : Nat -> M.Seed) :
    Op.Keeps (Sound spent) (stageSelfUpdate selected rnd) := by
  unfold stageSelfUpdate
  refine Op.Keeps.bind (keeps_selectCandidate _ _) fun selected => ?_
  refine Op.Keeps.looking (still_proposingClient _) fun candidate => ?_
  refine Op.Keeps.bind (keeps_proposeSelfUpdate _ _) fun proposal => ?_
  refine Op.Keeps.bind (Op.Keeps.update fun s hs => ?_) fun _ => Op.Keeps.value _
  exact { hs with hash := digestOk_sha256 T _ }

theorem keeps_prepareRatchetCommit (selected : Option Bytes)
    (rnd : Nat -> M.Seed) :
    Op.Keeps (Sound spent) (prepareRatchetCommit selected rnd) := by
  unfold prepareRatchetCommit
  refine Op.Keeps.looking Op.Still.state fun s => ?_
  dsimp only
  refine Op.Keeps.bind (Op.Keeps.update fun s hs => { hs with queued := rfl })
    fun _ => ?_
  refine Op.Keeps.looking still_peerAppliedOurSendEpoch fun licensed => ?_
  refine Op.Keeps.bind
    (Op.Keeps.ite (keeps_commitRound _ _) (Op.Keeps.value ())) fun _ => ?_
  refine Op.Keeps.bind (keeps_stageSelfUpdate T _ _) fun proposal => ?_
  exact Op.Keeps.looking Op.Still.state fun _ => Op.Keeps.value _

theorem keeps_preparePreEstablishment (selected : Option Bytes) :
    Op.Keeps (Sound spent)
      (preparePreEstablishment (M := M) selected) := by
  unfold preparePreEstablishment
  refine Op.Keeps.looking (Op.Still.ensure _ _) fun _ => ?_
  refine Op.Keeps.looking Op.Still.state fun s => ?_
  refine Op.Keeps.looking (Op.Still.ensure _ _) fun _ => ?_
  refine Op.Keeps.looking (Op.Still.ofOption _ _) fun welcome => ?_
  dsimp only
  refine Op.Keeps.bind (Op.Keeps.update fun s hs => ?_) fun _ => Op.Keeps.value _
  exact { hs with hash := digestOk_sha256 T _ }

theorem keeps_prepareToEncryptInner (proposing : Option Bytes)
    (rnd : Nat -> M.Seed) :
    Op.Keeps (Sound spent) (prepareToEncryptInner proposing rnd) := by
  unfold prepareToEncryptInner
  refine Op.Keeps.looking still_ensureEstablishmentDelegated fun _ => ?_
  refine Op.Keeps.looking Op.Still.state fun s => ?_
  refine Op.Keeps.bind (Op.Keeps.ite (keeps_preparePreEstablishment T _)
    (keeps_prepareRatchetCommit T _ _)) fun result => ?_
  refine Op.Keeps.bind (keeps_recordListenRendezvous T) fun _ => ?_
  refine Op.Keeps.bind (keeps_rewrapSideBand _) fun _ => ?_
  exact Op.Keeps.value _

end

end

end Session
end TwoMlsPq
