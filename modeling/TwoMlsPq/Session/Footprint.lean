import TwoMlsPq.Foundation.Footprint
import TwoMlsPq.Session.Api
import TwoMlsPq.Session.Via

/-!
# The footprints of the session's operations

Which groups and which parts of the record an operation may write.  The lists
below are read off the code once; the frame conditions of the invariants are
then membership tests.
-/

namespace TwoMlsPq
namespace Session

open Foundation Apq

inductive Slot where
  | half (h : Half)
  | client
  | services
  | msg
  | rotation
  | round
  | ledger
  | establishment
  | counter
  | handles
deriving DecidableEq, Repr

section

variable {M : MlsRs} {α : Type}

def Slot.Value (M : MlsRs) : Slot -> Type
  | .half _ => Option M.Group
  | .client => TwoMlsPqPrincipal M
  | .services => Services
  | .msg => MessageState M
  | .rotation => RotationState M
  | .round => RoundState M
  | .ledger => LedgerState
  | .establishment => EstablishmentState M
  | .counter => Nat
  | .handles => Nat

def SessionInner.read : (slot : Slot) -> SessionInner M -> slot.Value M
  | .half h => fun s => s.half h
  | .client => SessionInner.client
  | .services => SessionInner.services
  | .msg => SessionInner.msg
  | .rotation => SessionInner.rotation
  | .round => SessionInner.round
  | .ledger => SessionInner.ledger
  | .establishment => SessionInner.establishment
  | .counter => SessionInner.stateSeq
  | .handles => SessionInner.nextHandle

/-- The operation writes no slot of the session outside `W`. -/
def Touches (W : List Slot) (x : SessionOp M α) : Prop :=
  Op.Writes SessionInner.read W x

def Confined (W : List Slot) (f : SessionInner M -> SessionInner M) : Prop :=
  forall s slot, slot ∉ W -> (f s).read slot = s.read slot

theorem Touches.half {W : List Slot} {x : SessionOp M α} (hx : Touches W x) {h : Half}
    (hW : .half h ∉ W) (s : SessionInner M) :
    (x.run s).2.half h = s.half h :=
  hx s (.half h) hW

theorem Touches.roundKept {W : List Slot} {x : SessionOp M α} (hx : Touches W x)
    (hW : .round ∉ W) (s : SessionInner M) :
    (x.run s).2.round = s.round :=
  hx s .round hW

/-!
## Changes of the record
-/

section

variable {W : List Slot}

theorem touches_update {f : SessionInner M -> SessionInner M} (h : Confined W f) :
    Touches W (Op.update f) :=
  h

theorem Confined.comp {f g : SessionInner M -> SessionInner M}
    (hg : Confined W g) (hf : Confined W f) :
    Confined W fun s => g (f s) :=
  fun s slot hslot => (hg (f s) slot hslot).trans (hf s slot hslot)

theorem confined_services (f : SessionInner M -> Services) (h : .services ∈ W) :
    Confined W fun s => { s with services := f s } := by
  intro s slot hslot
  cases slot with
  | services => exact absurd h hslot
  | _ => rfl

theorem confined_mapMsg (f : SessionInner M -> MessageState M -> MessageState M)
    (h : .msg ∈ W) :
    Confined W fun s => s.mapMsg (f s) := by
  intro s slot hslot
  cases slot with
  | msg => exact absurd h hslot
  | _ => rfl

theorem confined_mapRotation
    (f : SessionInner M -> RotationState M -> RotationState M) (h : .rotation ∈ W) :
    Confined W fun s => s.mapRotation (f s) := by
  intro s slot hslot
  cases slot with
  | rotation => exact absurd h hslot
  | _ => rfl

theorem confined_mapRound (f : SessionInner M -> RoundState M -> RoundState M)
    (h : .round ∈ W) :
    Confined W fun s => s.mapRound (f s) := by
  intro s slot hslot
  cases slot with
  | round => exact absurd h hslot
  | _ => rfl

theorem confined_mapLedger (f : SessionInner M -> LedgerState -> LedgerState)
    (h : .ledger ∈ W) :
    Confined W fun s => s.mapLedger (f s) := by
  intro s slot hslot
  cases slot with
  | ledger => exact absurd h hslot
  | _ => rfl

theorem confined_id : Confined W fun s : SessionInner M => s :=
  fun _ _ _ => rfl

/-!
## Calls on one half
-/

theorem half_setHalf_other {s : SessionInner M} {h h' : Half} {g : M.Group}
    (hne : h' ≠ h) :
    (s.setHalf h g).half h' = s.half h' := by
  cases hsend : s.sendGroup <;> cases hrecv : s.recvGroup <;> cases h <;> cases h' <;>
    simp_all [SessionInner.half, SessionInner.setHalf]

theorem half_setHalf_held {s : SessionInner M} {h : Half} {g g' : M.Group}
    (held : s.half h = some g) :
    (s.setHalf h g').half h = some g' := by
  cases hsend : s.sendGroup <;> cases hrecv : s.recvGroup <;> cases h <;>
    simp_all [SessionInner.half, SessionInner.setHalf]

theorem run_onHalf {h : Half} {s : SessionInner M} {g : M.Group} {store : StoreId}
    (held : s.half h = some g) (hstore : s.halfStore h = some store)
    (missing : TwoMlsPqError) (y : StoreId -> HalfOp M α) :
    (onHalf h missing y).run s =
      (((y store).run { services := s.services, group := g }).1,
        { s.setHalf h ((y store).run { services := s.services, group := g }).2.group
          with services :=
            ((y store).run { services := s.services, group := g }).2.services }) := by
  unfold onHalf
  rw [Op.run_ofResult, held, hstore]

theorem touches_onHalf (h : Half) (missing : TwoMlsPqError)
    (y : StoreId -> HalfOp M α) (hh : .half h ∈ W) (hs : .services ∈ W) :
    Touches W (onHalf h missing y) := by
  intro s slot hslot
  unfold onHalf
  rw [Op.run_ofResult]
  split
  next g store held hstore =>
    cases slot with
    | half h' =>
        have hne : h' ≠ h := by
          rintro rfl
          exact hslot hh
        exact half_setHalf_other hne
    | services => exact absurd hs hslot
    | _ => cases h <;> rfl
  next => rfl

theorem touches_groupOnly (h : Half) (missing : TwoMlsPqError)
    (y : StoreId -> HalfOp M α)
    (hy : forall store hs, ((y store).run hs).2.services = hs.services)
    (hh : .half h ∈ W) :
    Touches W (onHalf h missing y) := by
  intro s slot hslot
  by_cases hservices : slot = .services
  · subst hservices
    unfold onHalf
    rw [Op.run_ofResult]
    split
    next g store held hstore => exact hy store _
    next => rfl
  · refine touches_onHalf (W := .services :: W) h missing y
      (List.mem_cons_of_mem _ hh) List.mem_cons_self s slot ?_
    intro hmem
    rcases List.mem_cons.mp hmem with heq | hmem
    · exact hservices heq
    · exact hslot hmem

theorem touches_callHalf (h : Half) (missing : TwoMlsPqError)
    (err : MlsError -> TwoMlsPqError)
    (f : MlsEnv -> M.Group -> Except MlsError α × M.Group) (hh : .half h ∈ W) :
    Touches W (callHalf h missing err f) := by
  refine touches_groupOnly h missing _ (fun store hs => ?_) hh
  rw [run_call]

theorem touches_ofGroup (h : Half) (missing : TwoMlsPqError) (x : GroupOp M α)
    (hh : .half h ∈ W) :
    Touches W (onHalf h missing fun _ => HalfOp.ofGroup x) :=
  touches_groupOnly h missing _ (fun _ _ => rfl) hh

theorem touches_mapGroup (h : Half) (missing : TwoMlsPqError) (f : M.Group -> M.Group)
    (hh : .half h ∈ W) :
    Touches W (onHalf h missing fun _ => HalfOp.mapGroup f) :=
  touches_groupOnly h missing _ (fun _ _ => rfl) hh

/-!
## Ledgers
-/

theorem touches_recordListenRendezvous :
    Touches [.half .sendClassical, .ledger]
      (recordListenRendezvous : SessionOp M Unit) := by
  unfold recordListenRendezvous
  refine Op.Writes.looking Op.Still.state fun s => ?_
  split
  · exact Op.Writes.value ()
  · dsimp only
    apply Op.Writes.ite
    · exact Op.Writes.value ()
    refine Op.Writes.looking (Op.Still.ofExcept _) fun secret => ?_
    refine Op.Writes.looking (Op.Still.ofExcept _) fun header => ?_
    refine Op.Writes.bind (touches_update (confined_mapLedger _ (by decide)))
      fun _ => ?_
    refine Op.Writes.bind (touches_callHalf _ _ _ _ (by decide))
      fun _ => ?_
    refine Op.Writes.looking (still_readHalf _ _) fun g => ?_
    exact touches_update (confined_mapLedger _ (by decide))

theorem touches_recordPqHeaderKey :
    Touches [.ledger] (recordPqHeaderKey : SessionOp M Unit) := by
  unfold recordPqHeaderKey
  refine Op.Writes.looking Op.Still.state fun s => ?_
  split
  · exact Op.Writes.value ()
  · dsimp only
    apply Op.Writes.ite
    · exact Op.Writes.value ()
    refine Op.Writes.looking (Op.Still.ofExcept _) fun key => ?_
    exact touches_update (confined_mapLedger _ (by decide))

theorem touches_recordPqHeaderKeyPostCommit :
    Touches [.ledger] (recordPqHeaderKeyPostCommit : SessionOp M Unit) :=
  Op.Writes.bind touches_recordPqHeaderKey.attempt fun _ => Op.Writes.value ()

theorem touches_rememberSendPsk :
    Touches [.half .sendClassical, .ledger]
      (rememberSendPsk : SessionOp M Unit) := by
  unfold rememberSendPsk
  refine Op.Writes.looking (still_readHalf _ _) fun g => ?_
  refine Op.Writes.looking Op.Still.state fun s => ?_
  apply Op.Writes.ite
  · exact Op.Writes.value ()
  · refine Op.Writes.bind (touches_ofGroup _ _ _ (by decide))
      fun exported => ?_
    exact touches_update (confined_mapLedger _ (by decide))

theorem confined_registerAll (entries : List (Nat × ExportedPsk))
    (h : .services ∈ W) :
    Confined W fun s : SessionInner M => entries.foldl (fun s entry =>
      s.registerStores (injectionStores s) entry.2.storageId entry.2.psk) s := by
  induction entries with
  | nil => exact confined_id
  | cons entry rest ih => exact ih.comp (confined_services _ h)

theorem confined_forgetAll (ids : List PskId) (h : .services ∈ W) :
    Confined W fun s : SessionInner M =>
      ids.foldl (fun s id => s.forgetStores (injectionStores s) id) s := by
  induction ids with
  | nil => exact confined_id
  | cons id rest ih => exact ih.comp (confined_services _ h)

theorem touches_injectSendPsks :
    Touches [.half .sendClassical, .services, .ledger]
      (injectSendPsks : SessionOp M Unit) := by
  unfold injectSendPsks
  refine Op.Writes.bind (touches_rememberSendPsk.mono (by decide)) fun _ => ?_
  refine Op.Writes.bind (touches_update fun s =>
    confined_registerAll s.ledger.sendPskLedger (by decide) s) fun _ => ?_
  apply touches_update
  intro s slot hslot
  exact ((confined_mapLedger (fun _ l => { l with retiredSendPsks := [] })
    (by decide)).comp
      (confined_forgetAll s.ledger.retiredSendPsks (by decide))) s slot hslot

theorem touches_injectSendPsksIf (b : Bool) :
    Touches [.half .sendClassical, .services, .ledger]
      (if b then injectSendPsks else pure () : SessionOp M Unit) :=
  Op.Writes.ite touches_injectSendPsks (Op.Writes.value ())

theorem touches_sendAttachmentComponent :
    Touches [.half .sendClassical, .ledger]
      (sendAttachmentComponent : SessionOp M Bytes) := by
  unfold sendAttachmentComponent
  refine Op.Writes.looking (still_readHalf _ _) fun g => ?_
  refine Op.Writes.looking Op.Still.state fun s => ?_
  split
  · exact Op.Writes.value _
  · refine Op.Writes.bind (touches_ofGroup _ _ _ (by decide))
      fun component => ?_
    refine Op.Writes.bind (touches_update (confined_mapLedger _ (by decide)))
      fun _ => ?_
    exact Op.Writes.value _

theorem touches_captureRecvAttachmentComponent (epoch : Nat) :
    Touches [.half .recvClassical, .ledger]
      (captureRecvAttachmentComponent epoch : SessionOp M Bytes) := by
  unfold captureRecvAttachmentComponent
  refine Op.Writes.bind (touches_ofGroup _ _ _ (by decide))
    fun component => ?_
  refine Op.Writes.bind (touches_update (confined_mapLedger _ (by decide)))
    fun _ => ?_
  exact Op.Writes.value _

theorem touches_rememberRecvAttachmentComponent :
    Touches [.half .recvClassical, .ledger]
      (rememberRecvAttachmentComponent : SessionOp M Unit) := by
  unfold rememberRecvAttachmentComponent
  refine Op.Writes.looking Op.Still.state fun s => ?_
  split
  · exact Op.Writes.value ()
  · apply Op.Writes.ite
    · exact Op.Writes.value ()
    · refine Op.Writes.bind (touches_captureRecvAttachmentComponent _).attempt
        fun _ => ?_
      exact Op.Writes.value ()

theorem touches_recvAttachmentComponent (epoch : Nat) :
    Touches [.half .recvClassical, .ledger]
      (recvAttachmentComponent epoch : SessionOp M Bytes) := by
  unfold recvAttachmentComponent
  refine Op.Writes.looking Op.Still.state fun s => ?_
  split
  · exact Op.Writes.value _
  · apply Op.Writes.ite
    · exact (touches_captureRecvAttachmentComponent epoch).mapError
    · exact Op.Writes.fail _

/-!
## The send path
-/

theorem touches_validateOfferedUpdate (proposal : Blob M) (proposing : Bytes) :
    Touches [.half .sendClassical]
      (validateOfferedUpdate proposal proposing) := by
  unfold validateOfferedUpdate
  refine Op.Writes.looking (Op.Still.ofOption _ _) fun message => ?_
  refine Op.Writes.looking (still_readHalf _ _) fun send => ?_
  refine Op.Writes.bind (touches_callHalf _ _ _ _ (by decide)).attempt
    fun processed => ?_
  refine Op.Writes.bind (touches_mapGroup _ _ _ (by decide)) fun _ => ?_
  refine Op.Writes.looking (Op.Still.ofExcept _) fun received => ?_
  split
  · refine Op.Writes.looking (Op.Still.ofExcept _) fun _ => ?_
    exact Op.Writes.still (Op.Still.ofExcept _)
  · exact Op.Writes.fail _

theorem touches_admitCandidate (newClientId : Bytes) (rnd : Nat -> M.Seed) :
    Touches [.services, .rotation, .handles] (admitCandidate newClientId rnd) := by
  unfold admitCandidate stageOrDefer
  refine Op.Writes.looking (Op.Still.ensure _ _) fun _ => ?_
  refine Op.Writes.looking Op.Still.state fun s => ?_
  apply Op.Writes.ite
  · exact Op.Writes.value ()
  refine Op.Writes.bind ?_ fun _ =>
    touches_update (confined_mapRotation _ (by decide))
  refine Op.Writes.looking Op.Still.state fun s => ?_
  apply Op.Writes.ite
  · refine Op.Writes.looking (Op.Still.ofExcept _) fun candidate => ?_
    apply touches_update
    intro s slot hslot
    cases slot with
    | services => exact absurd (by decide) hslot
    | rotation => exact absurd (by decide) hslot
    | handles => exact absurd (by decide) hslot
    | _ => rfl
  · exact touches_update (confined_mapRotation _ (by decide))

theorem touches_commitPqAndOweBind (secret : Bytes) (seed : M.Seed) :
    Touches [.half .sendPq, .services, .round]
      (commitPqAndOweBind (M := M) secret seed) := by
  unfold commitPqAndOweBind
  refine Op.Writes.looking Op.Still.state fun s => ?_
  refine Op.Writes.looking (still_readHalf _ _) fun send => ?_
  refine Op.Writes.looking (still_readHalf _ _) fun sendPq => ?_
  refine Op.Writes.bind (touches_onHalf _ _ _ (by decide) (by decide))
    fun pqCommit => ?_
  exact touches_update (confined_mapRound _ (by decide))

theorem touches_dischargeOwedBind :
    Touches [.half .sendPq, .services, .round]
      (dischargeOwedBind : SessionOp M (Option (DischargedBind M))) := by
  unfold dischargeOwedBind
  refine Op.Writes.looking Op.Still.state fun s => ?_
  split
  · exact Op.Writes.value _
  · refine Op.Writes.bind (touches_update (confined_mapRound _ (by decide)))
      fun _ => ?_
    refine Op.Writes.looking (still_readHalf _ _) fun send => ?_
    refine Op.Writes.looking (still_readHalf _ _) fun sendPq => ?_
    refine Op.Writes.looking (Op.Still.ensure _ _) fun _ => ?_
    refine Op.Writes.looking (Op.Still.ensure _ _) fun _ => ?_
    refine Op.Writes.bind (touches_onHalf _ _ _ (by decide) (by decide))
      fun apqPsk => ?_
    refine Op.Writes.bind (touches_update (confined_mapRound _ (by decide)))
      fun _ => ?_
    exact Op.Writes.value _

theorem touches_crossPskForCommit :
    Touches [.half .recvClassical, .services, .ledger]
      (crossPskForCommit : SessionOp M (Option ExportedPsk)) := by
  unfold crossPskForCommit
  refine Op.Writes.looking (still_readHalf _ _) fun recv => ?_
  refine Op.Writes.looking Op.Still.state fun s => ?_
  apply Op.Writes.ite
  · exact Op.Writes.value _
  · refine Op.Writes.bind (touches_ofGroup _ _ _ (by decide))
      fun exported => ?_
    refine Op.Writes.looking Op.Still.state fun s => ?_
    refine Op.Writes.looking (Op.Still.ofOption _ _) fun send => ?_
    refine Op.Writes.bind (touches_update ?_) fun _ => Op.Writes.value _
    intro s slot hslot
    cases slot with
    | services => exact absurd (by decide) hslot
    | ledger => exact absurd (by decide) hslot
    | _ => rfl

theorem touches_refold (folded : Option (PeerProposal M)) :
    Touches [.half .sendClassical] (refold folded) := by
  unfold refold
  split
  · exact Op.Writes.value ()
  · refine Op.Writes.looking (Op.Still.ofOption _ _) fun message => ?_
    refine Op.Writes.bind (touches_callHalf _ _ _ _ (by decide))
      fun _ => ?_
    exact Op.Writes.value ()

theorem confined_forgetConsumed (crossPsk : Option ExportedPsk)
    (owed : Option (DischargedBind M)) (h : .services ∈ W) :
    Confined W (forgetConsumed (M := M) crossPsk owed) := by
  intro s slot hslot
  unfold forgetConsumed
  cases crossPsk <;> cases owed <;> cases slot <;>
    first
    | exact absurd h hslot
    | rfl

theorem confined_canonicalizeFold (folded : Option (PeerProposal M))
    (h : .services ∈ W) (h' : .rotation ∈ W) :
    Confined W (canonicalizeFold folded) := by
  intro s slot hslot
  unfold canonicalizeFold
  cases folded with
  | none => rfl
  | some approved =>
      dsimp only
      split
      · cases slot with
        | services => exact absurd h hslot
        | rotation => exact absurd h' hslot
        | _ => rfl
      · rfl

theorem touches_commitDischarged (folded : Option (PeerProposal M))
    (crossPsk : Option ExportedPsk) (handoff : Option (M.Signer × Bytes))
    (seed : M.Seed) (owed : Option (DischargedBind M)) :
    Touches [.half .sendClassical, .services, .rotation, .ledger, .msg] (do
      let output <-
        callHalf .sendClassical .sessionNotReady mapCredentialErr fun env =>
          M.buildCommit env (commitRequest crossPsk owed handoff) seed
      callHalf .sendClassical .sessionNotReady (fun _ => .mls) M.applyPendingCommit
      let send <- readHalf .sendClassical .sessionNotReady
      Op.ofExcept (ensureTwoParty send)
      Op.update (forgetConsumed crossPsk owed)
      Op.update (canonicalizeFold folded)
      rememberSendPsk
      let clCommit <-
        Op.ofExcept (orError .mls (Blob.ofMessage output.commitMessage))
      Op.update fun s => s.mapMsg fun m =>
        { m with
          currentStaple := some (stapleOf clCommit owed)
          currentStapleSeq := s.stateSeq
          offeredProposal := none }) := by
  refine Op.Writes.bind (touches_callHalf _ _ _ _ (by decide))
    fun output => ?_
  refine Op.Writes.bind (touches_callHalf _ _ _ _ (by decide)) fun _ => ?_
  refine Op.Writes.looking (still_readHalf _ _) fun send => ?_
  refine Op.Writes.looking (Op.Still.ofExcept _) fun _ => ?_
  refine Op.Writes.bind (touches_update (confined_forgetConsumed _ _ (by decide)))
    fun _ => ?_
  refine Op.Writes.bind
    (touches_update (confined_canonicalizeFold _ (by decide) (by decide))) fun _ => ?_
  refine Op.Writes.bind (touches_rememberSendPsk.mono (by decide)) fun _ => ?_
  refine Op.Writes.looking (Op.Still.ofExcept _) fun clCommit => ?_
  exact touches_update (confined_mapMsg _ (by decide))

theorem touches_dischargeAndCommit (folded : Option (PeerProposal M))
    (crossPsk : Option ExportedPsk) (handoff : Option (M.Signer × Bytes))
    (seed : M.Seed) :
    Touches
      [.half .sendPq, .half .sendClassical, .services, .round, .rotation, .ledger, .msg]
      (dischargeAndCommit folded crossPsk handoff seed) := by
  unfold dischargeAndCommit
  refine Op.Writes.bind (touches_dischargeOwedBind.mono (by decide)) fun owed => ?_
  exact Op.Writes.mono (touches_commitDischarged _ _ _ _ owed) (by decide)

theorem still_handoffForCommit :
    Op.Still (handoffForCommit : SessionOp M (Option (M.Signer × Bytes))) := by
  unfold handoffForCommit
  refine Op.Still.bind Op.Still.state fun s => ?_
  refine Op.Still.bind (still_readHalf _ _) fun send => ?_
  exact Op.Still.bind (Op.Still.ofExcept _) fun _ => Op.Still.value _

theorem touches_commitRound (folded : Option (PeerProposal M)) (seed : M.Seed) :
    Touches
      [.half .sendPq, .half .sendClassical, .half .recvClassical, .services, .round,
        .rotation, .ledger, .msg]
      (commitRound folded seed) := by
  unfold commitRound
  refine Op.Writes.bind (touches_rememberSendPsk.mono (by decide)) fun _ => ?_
  refine Op.Writes.bind (touches_crossPskForCommit.mono (by decide)) fun crossPsk => ?_
  refine Op.Writes.looking still_handoffForCommit fun handoff => ?_
  refine Op.Writes.bind ((touches_refold folded).mono (by decide)) fun _ => ?_
  refine Op.Writes.looking Op.Still.state fun s => ?_
  exact (Op.Writes.mono (touches_dischargeAndCommit _ _ _ _) (by decide)).mapError

theorem touches_selectCandidate (selected : Option Bytes) (rnd : Nat -> M.Seed) :
    Touches [.services, .rotation, .handles] (selectCandidate selected rnd) := by
  unfold selectCandidate
  refine Op.Writes.looking Op.Still.state fun s => ?_
  split
  · refine Op.Writes.bind (touches_admitCandidate _ _) fun _ => ?_
    exact Op.Writes.value _
  · apply Op.Writes.ite
    · split
      · refine Op.Writes.bind (touches_update (confined_mapRotation _ (by decide)))
          fun _ => ?_
        refine Op.Writes.bind (touches_admitCandidate _ _) fun _ => ?_
        exact Op.Writes.value _
      · exact Op.Writes.value _
    · exact Op.Writes.value _

theorem still_proposingClient (selected : Option Bytes) :
    Op.Still (proposingClient selected :
      SessionOp M (Option (TwoMlsPqPrincipal M))) := by
  unfold proposingClient
  refine Op.Still.bind Op.Still.state fun s => ?_
  split
  · exact Op.Still.bind (Op.Still.ofOption _ _) fun _ => Op.Still.value _
  · exact Op.Still.value _

theorem touches_stageSelfUpdate (selected : Option Bytes) (rnd : Nat -> M.Seed) :
    Touches [.half .recvClassical, .services, .rotation, .handles, .msg]
      (stageSelfUpdate selected rnd) := by
  unfold stageSelfUpdate proposeSelfUpdate
  refine Op.Writes.bind ((touches_selectCandidate _ _).mono (by decide))
    fun selected => ?_
  refine Op.Writes.looking (still_proposingClient _) fun candidate => ?_
  refine Op.Writes.bind ?_ fun proposal => ?_
  · refine Op.Writes.looking (still_readHalf _ _) fun recv => ?_
    refine Op.Writes.looking (Op.Still.ofExcept _) fun leafId => ?_
    refine Op.Writes.looking Op.Still.state fun s => ?_
    refine Op.Writes.bind (touches_callHalf _ _ _ _ (by decide))
      fun proposal => ?_
    exact Op.Writes.still (Op.Still.ofExcept _)
  · refine Op.Writes.bind (touches_update (confined_mapMsg _ (by decide)))
      fun _ => ?_
    exact Op.Writes.value _

theorem still_peerAppliedOurSendEpoch :
    Op.Still (peerAppliedOurSendEpoch : SessionOp M Bool) :=
  Op.Still.bind (still_readHalf _ _) fun _ =>
    Op.Still.bind Op.Still.state fun _ => Op.Still.value _

theorem touches_prepareRatchetCommit (selected : Option Bytes)
    (rnd : Nat -> M.Seed) :
    Touches
      [.half .sendPq, .half .sendClassical, .half .recvClassical, .services, .round,
        .rotation, .ledger, .msg, .handles]
      (prepareRatchetCommit selected rnd) := by
  unfold prepareRatchetCommit
  refine Op.Writes.looking Op.Still.state fun s => ?_
  dsimp only
  refine Op.Writes.bind (touches_update (confined_mapMsg _ (by decide))) fun _ => ?_
  refine Op.Writes.looking still_peerAppliedOurSendEpoch fun licensed => ?_
  refine Op.Writes.bind ?_ fun _ => ?_
  · exact Op.Writes.ite ((touches_commitRound _ _).mono (by decide))
      (Op.Writes.value ())
  refine Op.Writes.bind ((touches_stageSelfUpdate _ _).mono (by decide))
    fun proposal => ?_
  refine Op.Writes.looking Op.Still.state fun s => ?_
  exact Op.Writes.value _

/-!
## Rounds
-/

theorem touches_mintLeg (kind : PqFrameKind) (payload : Bytes) (seed : M.Seed) :
    Touches [.half .sendClassical] (mintLeg kind payload seed) := by
  unfold mintLeg
  refine Op.Writes.bind (touches_callHalf _ _ _ _ (by decide))
    fun message => ?_
  refine Op.Writes.looking (Op.Still.ofExcept _) fun body => ?_
  exact Op.Writes.value _

theorem touches_processA4Leg (h : Half) (innerTag : UInt8) (message : M.Message)
    (hh : .half h ∈ W) :
    Touches W (processA4Leg h innerTag message) := by
  unfold processA4Leg
  refine Op.Writes.looking (Op.Still.ensure _ _) fun _ => ?_
  refine Op.Writes.looking (still_readHalf _ _) fun g => ?_
  refine Op.Writes.bind (touches_callHalf _ _ _ _ hh) fun received => ?_
  split
  · refine Op.Writes.looking (Op.Still.ensure _ _) fun _ => ?_
    split
    · refine Op.Writes.looking (Op.Still.ensure _ _) fun _ => ?_
      exact Op.Writes.value _
    · exact Op.Writes.fail _
  · exact Op.Writes.fail _

theorem touches_stageRatchet (rnd : Nat -> M.Seed) :
    Touches [.half .sendClassical, .round]
      (stageRatchet rnd : SessionOp M Unit) := by
  unfold stageRatchet
  refine Op.Writes.looking (Op.Still.ofExcept _) fun eph => ?_
  refine Op.Writes.bind ((touches_mintLeg _ _ _).mono (by decide)) fun frame => ?_
  exact touches_update (confined_mapRound _ (by decide))

theorem touches_stageRekey (rotating : Option Bytes) (seed : M.Seed) :
    Touches [.half .recvPq, .round] (stageRekey (M := M) rotating seed) := by
  unfold stageRekey
  refine Op.Writes.looking Op.Still.state fun s => ?_
  refine Op.Writes.looking (Op.Still.ensure _ _) fun _ => ?_
  refine Op.Writes.bind (touches_callHalf _ _ _ _ (by decide))
    fun proposal => ?_
  refine Op.Writes.looking (Op.Still.ofExcept _) fun body => ?_
  exact touches_update (confined_mapRound _ (by decide))

theorem touches_rewrapSideBand (seed : M.Seed) :
    Touches [.half .sendClassical, .round]
      (rewrapSideBand seed : SessionOp M Unit) := by
  unfold rewrapSideBand
  refine Op.Writes.looking Op.Still.state fun s => ?_
  split
  · apply Op.Writes.ite
    · refine Op.Writes.bind
        (Op.Writes.mono (touches_mintLeg _ _ _) (by decide)).attempt fun minted => ?_
      split
      · exact touches_update (confined_mapRound _ (by decide))
      · exact Op.Writes.value ()
    · exact Op.Writes.value ()
  · exact Op.Writes.value ()

theorem touches_maybeStageNextRound (rnd : Nat -> M.Seed) :
    Touches [.half .sendClassical, .half .recvPq, .round]
      (maybeStageNextRound rnd : SessionOp M Bool) := by
  unfold maybeStageNextRound
  refine Op.Writes.looking Op.Still.state fun s => ?_
  apply Op.Writes.ite
  · apply Op.Writes.ite
    · refine Op.Writes.bind
        (Op.Writes.mono (touches_stageRekey _ _) (by decide)).attempt fun staged => ?_
      exact Op.Writes.value _
    · refine Op.Writes.bind
        (Op.Writes.mono (touches_stageRatchet _) (by decide)).attempt fun _ => ?_
      exact Op.Writes.value _
  · exact Op.Writes.value _

/-!
## The send doors
-/

theorem still_composeInitialEnvelope (stapled : Option (Blob M)) (seed : M.Seed) :
    Op.Still (composeInitialEnvelope stapled seed) := by
  unfold composeInitialEnvelope
  refine Op.Still.bind Op.Still.state fun s => ?_
  refine Op.Still.bind (Op.Still.ofOption _ _) fun theirKp => ?_
  refine Op.Still.bind (Op.Still.ofOption _ _) fun welcome => ?_
  refine Op.Still.bind (Op.Still.ofExcept _) fun _ => ?_
  split
  · exact Op.Still.value _
  · exact Op.Still.value _

theorem still_composeFrame (staged : Option (Bytes × Blob M)) (app : Blob M)
    (seed : M.Seed) :
    Op.Still (composeFrame staged app seed) := by
  unfold composeFrame
  split
  · refine Op.Still.bind Op.Still.state fun s => ?_
    refine Op.Still.bind (Op.Still.ofOption _ _) fun staple => ?_
    exact Op.Still.bind still_sealFrame fun _ => Op.Still.value _
  · exact Op.Still.bind (still_composeInitialEnvelope _ _) fun _ => Op.Still.value _

theorem touches_preparePreEstablishment (selected : Option Bytes) :
    Touches [.msg]
      (preparePreEstablishment selected : SessionOp M (PrepareEncryptResult M)) := by
  unfold preparePreEstablishment
  refine Op.Writes.looking (Op.Still.ensure _ _) fun _ => ?_
  refine Op.Writes.looking Op.Still.state fun s => ?_
  refine Op.Writes.looking (Op.Still.ensure _ _) fun _ => ?_
  refine Op.Writes.looking (Op.Still.ofOption _ _) fun welcome => ?_
  dsimp only
  refine Op.Writes.bind (touches_update (confined_mapMsg _ (by decide))) fun _ => ?_
  exact Op.Writes.value _

theorem touches_prepareToEncryptInner (proposing : Option Bytes)
    (rnd : Nat -> M.Seed) :
    Touches
      [.half .sendPq, .half .sendClassical, .half .recvClassical, .services, .round,
        .rotation, .ledger, .msg, .handles]
      (prepareToEncryptInner proposing rnd) := by
  unfold prepareToEncryptInner
  refine Op.Writes.looking still_ensureEstablishmentDelegated fun _ => ?_
  refine Op.Writes.looking Op.Still.state fun s => ?_
  refine Op.Writes.bind ?_ fun result => ?_
  · exact Op.Writes.ite ((touches_preparePreEstablishment _).mono (by decide))
      (touches_prepareRatchetCommit _ _)
  refine Op.Writes.bind (touches_recordListenRendezvous.mono (by decide)) fun _ => ?_
  refine Op.Writes.bind ((touches_rewrapSideBand _).mono (by decide)) fun _ => ?_
  exact Op.Writes.value _

theorem touches_encryptInner (appMessage : Bytes) (rnd : Nat -> M.Seed) :
    Touches [.half .sendClassical, .half .recvPq, .round, .msg]
      (encryptInner appMessage rnd) := by
  unfold encryptInner
  refine Op.Writes.looking still_ensureEstablishmentDelegated fun _ => ?_
  refine Op.Writes.looking Op.Still.state fun s => ?_
  refine Op.Writes.looking (Op.Still.ofOption _ _) fun proposalHash => ?_
  dsimp only
  refine Op.Writes.bind (touches_update (confined_mapMsg _ (by decide))) fun _ => ?_
  refine Op.Writes.looking (Op.Still.ensure _ _) fun _ => ?_
  refine Op.Writes.bind (touches_callHalf _ _ _ _ (by decide))
    fun message => ?_
  refine Op.Writes.looking (Op.Still.ofExcept _) fun app => ?_
  refine Op.Writes.looking Op.Still.state fun s => ?_
  refine Op.Writes.looking (Op.Still.ofOption _ _) fun send => ?_
  refine Op.Writes.looking (still_composeFrame _ _ _) fun cipherText => ?_
  refine Op.Writes.bind ((touches_rewrapSideBand _).mono (by decide)) fun _ => ?_
  refine Op.Writes.bind ((touches_maybeStageNextRound _).mono (by decide))
    fun stagedPqRound => ?_
  exact Op.Writes.value _

theorem touches_queueProposalInner (digest : Bytes) :
    Touches [.half .sendClassical, .services, .msg]
      (queueProposalInner digest : SessionOp M Unit) := by
  unfold queueProposalInner
  refine Op.Writes.looking Op.Still.state fun s => ?_
  refine Op.Writes.looking (Op.Still.ofOption _ _) fun offered => ?_
  refine Op.Writes.bind (touches_update (confined_mapMsg _ (by decide))) fun _ => ?_
  apply Op.Writes.ite
  · refine Op.Writes.bind (touches_update (confined_mapMsg _ (by decide))) fun _ => ?_
    exact Op.Writes.fail _
  · refine Op.Writes.bind
      (Op.Writes.mono (touches_validateOfferedUpdate _ _) (by decide)).attempt
        fun validated => ?_
    split
    · apply touches_update
      intro s slot hslot
      cases slot with
      | services => exact absurd (by decide) hslot
      | msg => exact absurd (by decide) hslot
      | _ => rfl
    · refine Op.Writes.bind (touches_update (confined_mapMsg _ (by decide)))
        fun _ => ?_
      exact Op.Writes.fail _

/-!
## The receive door
-/

theorem confined_trackPskStores (client : TwoMlsPqPrincipal M) (h : .ledger ∈ W) :
    Confined W (trackPskStores client) := by
  intro s slot hslot
  unfold trackPskStores
  split
  · rfl
  · cases slot with
    | ledger => exact absurd h hslot
    | _ => rfl

theorem touches_joinWelcome (w : ApqWelcome M) :
    Touches [.services] (joinWelcome w) := by
  unfold joinWelcome
  refine Op.Writes.looking Op.Still.state fun s => ?_
  dsimp only
  apply Op.Writes.ite
  · refine Op.Writes.looking (Op.Still.ofExcept _) fun classical => ?_
    refine Op.Writes.looking (Op.Still.ofExcept _) fun _ => ?_
    exact Op.Writes.value _
  · refine Op.Writes.looking (Op.Still.ofExcept _) fun pq => ?_
    refine Op.Writes.looking ?_ fun exported => ?_
    · split
      · exact Op.Still.value _
      · exact Op.Still.fail _
    refine Op.Writes.bind (touches_update (confined_services _ (by decide)))
      fun _ => ?_
    refine Op.Writes.looking Op.Still.state fun s => ?_
    refine Op.Writes.looking (Op.Still.ofExcept _) fun classical => ?_
    refine Op.Writes.looking (Op.Still.ofExcept _) fun _ => ?_
    refine Op.Writes.looking (Op.Still.ofExcept _) fun _ => ?_
    exact Op.Writes.value _

theorem confined_adoptRecvGroup (recv : CombinerGroup M) (creatorId digest : Bytes) :
    Confined
      [.half .recvClassical, .half .recvPq, .services, .rotation, .msg, .establishment]
      (adoptRecvGroup recv creatorId digest) := by
  intro s slot hslot
  cases slot with
  | half h =>
      cases h with
      | recvClassical => exact absurd (by decide) hslot
      | recvPq => exact absurd (by decide) hslot
      | _ => rfl
  | services => exact absurd (by decide) hslot
  | rotation => exact absurd (by decide) hslot
  | msg => exact absurd (by decide) hslot
  | establishment => exact absurd (by decide) hslot
  | _ => rfl

theorem touches_processWelcome (welcome : WelcomeBytes M)
    (establishment : WelcomeEstablishment) :
    Touches
      [.half .sendClassical, .half .recvClassical, .half .recvPq, .services, .rotation,
        .ledger, .msg, .establishment]
      (processWelcome welcome establishment) := by
  unfold processWelcome
  dsimp only
  refine Op.Writes.looking Op.Still.state fun s => ?_
  apply Op.Writes.ite
  · exact Op.Writes.still (Op.Still.ensure _ _)
  refine Op.Writes.bind (touches_update fun s =>
    confined_trackPskStores s.client (by decide) s) fun _ => ?_
  refine Op.Writes.bind ((touches_injectSendPsksIf _).mono (by decide)) fun _ => ?_
  refine Op.Writes.looking (Op.Still.ofOption _ _) fun w => ?_
  refine Op.Writes.looking (Op.Still.ofExcept _) fun _ => ?_
  refine Op.Writes.bind (touches_update (confined_services _ (by decide))) fun _ => ?_
  refine Op.Writes.bind
    (Op.Writes.mono (touches_joinWelcome w) (by decide)).attempt fun joined => ?_
  refine Op.Writes.bind (touches_update (confined_services _ (by decide))) fun _ => ?_
  refine Op.Writes.looking (Op.Still.ofExcept _) fun recv => ?_
  refine Op.Writes.looking (still_readHalf _ _) fun send => ?_
  refine Op.Writes.looking (Op.Still.ofExcept _) fun ownBinding => ?_
  refine Op.Writes.looking (Op.Still.ofExcept _) fun _ => ?_
  refine Op.Writes.looking (Op.Still.ofExcept _) fun _ => ?_
  refine Op.Writes.looking (Op.Still.ofExcept _) fun creatorId => ?_
  refine Op.Writes.looking Op.Still.state fun s => ?_
  refine Op.Writes.looking (Op.Still.ofExcept _) fun _ => ?_
  exact Op.Writes.mono
    (touches_update (confined_adoptRecvGroup recv creatorId _)) (by decide)

theorem touches_joinReporting (welcome : WelcomeBytes M)
    (establishment : WelcomeEstablishment) :
    Touches
      [.half .sendClassical, .half .recvClassical, .half .recvPq, .services, .rotation,
        .ledger, .msg, .establishment]
      (joinReporting welcome establishment) := by
  unfold joinReporting
  refine Op.Writes.looking Op.Still.state fun before => ?_
  refine Op.Writes.bind (touches_processWelcome _ _) fun _ => ?_
  refine Op.Writes.looking Op.Still.state fun after => ?_
  exact Op.Writes.value _

theorem touches_applyBindClassical (clCommit : Blob M)
    (pqAttestation : ApqInfoUpdate) :
    Touches [.half .recvClassical]
      (applyBindClassical clCommit pqAttestation) := by
  unfold applyBindClassical
  refine Op.Writes.looking (Op.Still.ofOption _ _) fun message => ?_
  refine Op.Writes.looking (still_readHalf _ _) fun before => ?_
  refine Op.Writes.looking (Op.Still.ofExcept _) fun prior => ?_
  refine Op.Writes.bind (touches_callHalf _ _ _ _ (by decide))
    fun received => ?_
  refine Op.Writes.looking ?_ fun attestation => ?_
  · split
    · exact Op.Still.ofExcept _
    · exact Op.Still.fail _
  refine Op.Writes.looking (Op.Still.ofOption _ _) fun clAttestation => ?_
  refine Op.Writes.looking (still_readHalf _ _) fun recvPq => ?_
  refine Op.Writes.looking (still_readHalf _ _) fun after => ?_
  refine Op.Writes.looking (Op.Still.ensure _ _) fun _ => ?_
  refine Op.Writes.looking (Op.Still.ofExcept _) fun _ => ?_
  refine Op.Writes.looking (Op.Still.ofExcept _) fun new => ?_
  exact Op.Writes.value _

theorem touches_applyBind (secret : Bytes) (pqCommit clCommit : Blob M) :
    Touches
      [.half .sendClassical, .half .recvClassical, .half .recvPq, .services, .ledger]
      (applyBind secret pqCommit clCommit) := by
  unfold applyBind
  refine Op.Writes.looking Op.Still.state fun s => ?_
  dsimp only
  refine Op.Writes.bind ((touches_injectSendPsksIf _).mono (by decide)) fun _ => ?_
  refine Op.Writes.bind (touches_onHalf _ _ _ (by decide) (by decide))
    fun applied => ?_
  refine Op.Writes.bind ((touches_applyBindClassical _ _).mono (by decide))
    fun moved => ?_
  refine Op.Writes.bind (touches_update (confined_services _ (by decide))) fun _ => ?_
  exact Op.Writes.value _

theorem touches_exportCrossFromSendPq :
    Touches [.half .sendPq, .round]
      (exportCrossFromSendPq : SessionOp M ExportedPsk) := by
  unfold exportCrossFromSendPq
  refine Op.Writes.looking (still_readHalf _ _) fun g => ?_
  refine Op.Writes.bind (touches_ofGroup _ _ _ (by decide))
    fun exported => ?_
  refine Op.Writes.bind (touches_update (confined_mapRound _ (by decide))) fun _ => ?_
  exact Op.Writes.value _

theorem touches_exportCrossFromRecvPq :
    Touches [.half .recvPq, .round]
      (exportCrossFromRecvPq : SessionOp M ExportedPsk) := by
  unfold exportCrossFromRecvPq
  refine Op.Writes.looking (still_readHalf _ _) fun g => ?_
  refine Op.Writes.bind (touches_ofGroup _ _ _ (by decide))
    fun exported => ?_
  refine Op.Writes.bind (touches_update (confined_mapRound _ (by decide))) fun _ => ?_
  exact Op.Writes.value _

theorem touches_takeResponderSecret :
    Touches [.half .sendPq, .round]
      (takeResponderSecret : SessionOp M Bytes) := by
  have hreExport : Touches [.half .sendPq, .round]
      (takeResponderSecret.reExport : SessionOp M Bytes) := by
    unfold takeResponderSecret.reExport
    refine Op.Writes.bind touches_exportCrossFromSendPq fun exported => ?_
    refine Op.Writes.bind (touches_update (confined_mapRound _ (by decide)))
      fun _ => ?_
    exact Op.Writes.value _
  unfold takeResponderSecret
  refine Op.Writes.looking Op.Still.state fun s => ?_
  split
  · refine Op.Writes.bind (touches_update (confined_mapRound _ (by decide)))
      fun _ => ?_
    exact Op.Writes.value _
  · exact hreExport
  · exact hreExport
  · exact Op.Writes.fail _

theorem touches_applyBindStaple (tMessage pqMessage : Blob M) :
    Touches
      [.half .sendPq, .half .sendClassical, .half .recvClassical, .half .recvPq,
        .services, .ledger, .round]
      (applyBindStaple tMessage pqMessage) := by
  unfold applyBindStaple
  refine Op.Writes.bind (touches_takeResponderSecret.mono (by decide)) fun secret => ?_
  refine Op.Writes.bind (touches_rememberRecvAttachmentComponent.mono (by decide))
    fun _ => ?_
  refine Op.Writes.bind
    (Op.Writes.mono (touches_applyBind _ _ _) (by decide)).attempt fun applied => ?_
  split
  · refine Op.Writes.bind (touches_update (confined_mapRound _ (by decide)))
      fun _ => ?_
    exact Op.Writes.fail _
  · refine Op.Writes.bind (touches_update (confined_mapRound _ (by decide)))
      fun _ => ?_
    exact Op.Writes.value _

theorem touches_applyCommitStaple (commit : M.Message) :
    Touches [.half .sendClassical, .half .recvClassical, .services, .ledger]
      (applyCommitStaple commit) := by
  unfold applyCommitStaple
  refine Op.Writes.looking Op.Still.state fun s => ?_
  refine Op.Writes.bind ((touches_injectSendPsksIf _).mono (by decide)) fun _ => ?_
  refine Op.Writes.bind (touches_rememberRecvAttachmentComponent.mono (by decide))
    fun _ => ?_
  refine Op.Writes.looking (still_readHalf _ _) fun before => ?_
  refine Op.Writes.looking (Op.Still.ofExcept _) fun prior => ?_
  refine Op.Writes.bind (touches_callHalf _ _ _ _ (by decide))
    fun received => ?_
  refine Op.Writes.looking ?_ fun attestation => ?_
  · split
    · exact Op.Still.ofExcept _
    · exact Op.Still.fail _
  refine Op.Writes.looking (still_readHalf _ _) fun after => ?_
  refine Op.Writes.looking Op.Still.state fun s => ?_
  refine Op.Writes.looking (Op.Still.ofExcept _) fun _ => ?_
  refine Op.Writes.looking (Op.Still.ofExcept _) fun _ => ?_
  refine Op.Writes.looking (Op.Still.ofExcept _) fun new => ?_
  exact Op.Writes.value _

theorem confined_noteNewSender (newSender : Option Bytes)
    (h : .services ∈ W) (h' : .rotation ∈ W) :
    Confined W (noteNewSender (M := M) newSender) := by
  intro s slot hslot
  cases newSender with
  | none => rfl
  | some newId =>
      cases slot with
      | services => exact absurd h hslot
      | rotation => exact absurd h' hslot
      | _ => rfl

theorem confined_installWinner (winner : TwoMlsPqPrincipal M) (newOwn : Bytes)
    (hs : .services ∈ W) (hr : .rotation ∈ W) (hl : .ledger ∈ W) (hc : .client ∈ W) :
    Confined W (installWinner winner newOwn) := by
  intro s slot hslot
  have htrack := confined_trackPskStores winner hl (s.commitMine newOwn)
  cases slot with
  | half h => exact htrack (.half h) hslot
  | client => exact absurd hc hslot
  | services => exact absurd hs hslot
  | rotation => exact absurd hr hslot
  | ledger => exact absurd hl hslot
  | msg => exact htrack .msg hslot
  | round => exact htrack .round hslot
  | establishment => exact htrack .establishment hslot
  | counter => exact htrack .counter hslot
  | handles => exact htrack .handles hslot

theorem touches_noteCanonicalizedOwn (canonicalizedOwn : Option Bytes) :
    Touches [.client, .services, .rotation, .ledger]
      (noteCanonicalizedOwn canonicalizedOwn : SessionOp M Unit) := by
  unfold noteCanonicalizedOwn
  split
  · exact Op.Writes.value ()
  · refine Op.Writes.looking Op.Still.state fun s => ?_
    apply Op.Writes.ite
    · exact touches_update (confined_services _ (by decide))
    · refine Op.Writes.looking (Op.Still.ofOption _ _) fun winner => ?_
      exact touches_update
        (confined_installWinner winner _ (by decide) (by decide) (by decide) (by decide))

theorem touches_decryptApp (app : M.Message) :
    Touches [.half .recvClassical] (decryptApp app) := by
  unfold decryptApp
  refine Op.Writes.bind (touches_callHalf _ _ _ _ (by decide))
    fun received => ?_
  split
  · refine Op.Writes.looking (still_readHalf _ _) fun recv => ?_
    refine Op.Writes.looking (Op.Still.ofExcept _) fun sender => ?_
    exact Op.Writes.value _
  · exact Op.Writes.fail _

theorem touches_noteWatermark (proposal : Blob M) (proposing : Bytes) :
    Touches [.half .sendClassical, .msg]
      (noteWatermark proposal proposing) := by
  unfold noteWatermark
  refine Op.Writes.looking Op.Still.state fun s => ?_
  split
  · exact Op.Writes.value ()
  · dsimp only
    apply Op.Writes.ite
    · exact Op.Writes.value ()
    refine Op.Writes.bind
      (Op.Writes.mono (touches_validateOfferedUpdate _ _) (by decide)).attempt
        fun validated => ?_
    split
    · exact touches_update (confined_mapMsg _ (by decide))
    · exact Op.Writes.value ()

theorem touches_recordOffer (section_ : ProposalSection M) (sender groupId : Bytes) :
    Touches [.half .sendClassical, .msg]
      (recordOffer section_ sender groupId) := by
  unfold recordOffer
  refine Op.Writes.looking (Op.Still.ofOption _ _) fun offer => ?_
  refine Op.Writes.bind (touches_noteWatermark _ _) fun _ => ?_
  refine Op.Writes.bind (touches_update (confined_mapMsg _ (by decide))) fun _ => ?_
  exact Op.Writes.value _

theorem touches_processMessageBody (outcome : StapleOutcome)
    (proposal : ProposalSection M) (app : M.Message) :
    Touches
      [.half .sendClassical, .half .recvClassical, .client, .services, .rotation,
        .ledger, .msg]
      (processMessageBody outcome proposal app) := by
  unfold processMessageBody
  refine Op.Writes.bind
    (touches_update (confined_noteNewSender _ (by decide) (by decide))) fun _ => ?_
  refine Op.Writes.bind ((touches_noteCanonicalizedOwn _).mono (by decide))
    fun _ => ?_
  refine Op.Writes.bind ((touches_decryptApp app).mono (by decide)) fun received => ?_
  refine Op.Writes.looking (still_readHalf _ _) fun send => ?_
  refine Op.Writes.bind ((touches_recordOffer _ _ _).mono (by decide))
    fun offered => ?_
  refine Op.Writes.looking Op.Still.state fun s => ?_
  exact Op.Writes.value _

/-!
## The side-band and the archive
-/

theorem touches_ratchetRespondInner (leg : M.Message) (rnd : Nat -> M.Seed) :
    Touches [.half .sendClassical, .half .recvClassical, .round]
      (ratchetRespondInner leg rnd) := by
  unfold ratchetRespondInner
  refine Op.Writes.bind (touches_processA4Leg _ _ _ (by decide))
    fun ek => ?_
  refine Op.Writes.looking (still_readHalf _ _) fun recvPq => ?_
  refine Op.Writes.looking (Op.Still.ofExcept _) fun psk => ?_
  refine Op.Writes.looking (Op.Still.ofExcept _) fun sealed => ?_
  refine Op.Writes.bind (touches_callHalf _ _ _ _ (by decide))
    fun message => ?_
  refine Op.Writes.bind (touches_update (confined_mapRound _ (by decide))) fun _ => ?_
  refine Op.Writes.looking (Op.Still.ofExcept _) fun body => ?_
  exact touches_update (confined_mapRound _ (by decide))

theorem touches_handOut (stable : Bool) :
    Touches [.round] (handOut stable : SessionOp M (Option (SideBand M))) := by
  unfold handOut
  refine Op.Writes.looking Op.Still.state fun s => ?_
  split
  · exact Op.Writes.value _
  · dsimp only
    apply Op.Writes.ite
    · exact Op.Writes.value _
    refine Op.Writes.bind (Op.Writes.still (still_sealSideBand _)).attempt
      fun sealed => ?_
    apply Op.Writes.ite
    · refine Op.Writes.bind ?_ fun _ => Op.Writes.value _
      apply Op.Writes.ite
      · exact touches_update (confined_mapRound _ (by decide))
      · exact Op.Writes.value ()
    · exact Op.Writes.value _

theorem touches_installEnvelopeInner (envelope : Bytes) :
    Touches [.msg, .establishment]
      (installEnvelopeInner envelope : SessionOp M Unit) := by
  unfold installEnvelopeInner
  refine Op.Writes.looking Op.Still.state fun s => ?_
  refine Op.Writes.looking (Op.Still.ensure _ _) fun _ => ?_
  split
  · exact Op.Writes.still (Op.Still.ensure _ _)
  · refine Op.Writes.looking (Op.Still.ofOption _ _) fun welcome => ?_
    apply touches_update
    intro s slot hslot
    cases slot with
    | msg => exact absurd (by decide) hslot
    | establishment => exact absurd (by decide) hslot
    | _ => rfl

theorem touches_exportHalf (h : Half) (hh : .half h ∈ W) :
    Touches W (exportHalf h : SessionOp M M.GroupSnapshot) :=
  touches_callHalf h _ _ _ hh

/-- A Core is written without a look at the post-quantum halves. -/
theorem touches_encodeCore :
    Touches [.half .sendClassical, .half .recvClassical, .ledger]
      (encodeBlob .core : SessionOp M (Archive M)) := by
  have homitted : forall h,
      Touches [.half .sendClassical, .half .recvClassical, .ledger]
        (exportPqHalf h (BlobKind.core == .checkpoint) :
          SessionOp M (Option M.GroupSnapshot)) :=
    fun h => Op.Writes.looking Op.Still.state fun s => Op.Writes.value none
  unfold encodeBlob buildArchiveWire exportSend exportRecv
  refine Op.Writes.looking Op.Still.state fun s => ?_
  refine Op.Writes.bind ?_ fun wire => Op.Writes.value _
  refine Op.Writes.bind (touches_recordListenRendezvous.mono (by decide)) fun _ => ?_
  refine Op.Writes.bind ?_ fun sendGroup => ?_
  · refine Op.Writes.bind (touches_exportHalf _ (by decide))
      fun classical => ?_
    exact Op.Writes.bind (homitted _) fun pq => Op.Writes.value _
  refine Op.Writes.bind ?_ fun recvGroup => ?_
  · refine Op.Writes.looking Op.Still.state fun s => ?_
    apply Op.Writes.ite
    · exact Op.Writes.value _
    refine Op.Writes.bind (touches_exportHalf _ (by decide))
      fun classical => ?_
    exact Op.Writes.bind (homitted _) fun pq => Op.Writes.value _
  exact Op.Writes.looking Op.Still.state fun s => Op.Writes.value _

theorem touches_encodeBlob (kind : BlobKind) :
    Touches [.half .sendClassical, .half .sendPq, .half .recvClassical, .half .recvPq,
      .ledger] (encodeBlob kind : SessionOp M (Archive M)) := by
  have hpq : forall h includePq, Slot.half h ∈ [Slot.half .sendClassical,
      .half .sendPq, .half .recvClassical, .half .recvPq, .ledger] ->
      Touches [.half .sendClassical, .half .sendPq, .half .recvClassical, .half .recvPq,
        .ledger]
        (exportPqHalf h includePq : SessionOp M (Option M.GroupSnapshot)) := by
    intro h includePq hh
    unfold exportPqHalf
    refine Op.Writes.looking Op.Still.state fun s => ?_
    apply Op.Writes.ite
    · exact Op.Writes.bind (touches_exportHalf _ hh) fun pq => Op.Writes.value _
    · exact Op.Writes.value _
  unfold encodeBlob buildArchiveWire exportSend exportRecv
  refine Op.Writes.looking Op.Still.state fun s => ?_
  refine Op.Writes.bind ?_ fun wire => Op.Writes.value _
  refine Op.Writes.bind (touches_recordListenRendezvous.mono (by decide)) fun _ => ?_
  refine Op.Writes.bind ?_ fun sendGroup => ?_
  · refine Op.Writes.bind (touches_exportHalf _ (by decide)) fun classical => ?_
    exact Op.Writes.bind (hpq _ _ (by decide)) fun pq => Op.Writes.value _
  refine Op.Writes.bind ?_ fun recvGroup => ?_
  · refine Op.Writes.looking Op.Still.state fun s => ?_
    apply Op.Writes.ite
    · exact Op.Writes.value _
    refine Op.Writes.bind (touches_exportHalf _ (by decide)) fun classical => ?_
    exact Op.Writes.bind (hpq _ _ (by decide)) fun pq => Op.Writes.value _
  exact Op.Writes.looking Op.Still.state fun s => Op.Writes.value _

end

end

end Session
end TwoMlsPq
