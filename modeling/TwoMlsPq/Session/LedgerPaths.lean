import TwoMlsPq.Session.LedgerSteps

/-!
# Every body keeps the ledgers in order

The steps of the books along the send path, the receive path and the rounds.  A half
moves forward or stays, a missing half may be joined or created, and the ledgers are
written by the operations of the ledgers alone.
-/

namespace TwoMlsPq
namespace Session

open Foundation Apq

section

variable {M : MlsRs} (L : Lawful M)
include L

/-!
## Library calls
-/

theorem rises_process (env : MlsEnv) (m : M.Message) (g : M.Group) :
    M.currentEpoch g <= M.currentEpoch (M.processIncomingMessage env m g).2 := by
  by_cases hcommit : (M.description m).contentType = some .commit
  · have heffect := L.process env m g
    cases hresult : (M.processIncomingMessage env m g).1 with
    | error e =>
        rw [hresult] at heffect
        exact le_of_eq (Undisturbed.epoch heffect).symm
    | ok received =>
        rw [hresult] at heffect
        cases received with
        | commit effect =>
            rw [heffect.2.epoch]
            exact Nat.le_succ _
        | proposal desc => exact le_of_eq heffect.2.2.epoch.symm
        | applicationMessage index data => exact le_of_eq heffect.2.epoch.symm
        | other => exact le_of_eq heffect.2.epoch.symm
  · exact le_of_eq (process_undisturbed L hcommit env g).epoch.symm

theorem rises_applyPendingCommit (env : MlsEnv) (g : M.Group) :
    M.currentEpoch g <= M.currentEpoch (M.applyPendingCommit env g).2 := by
  cases hresult : (M.applyPendingCommit env g).1 with
  | error e => exact le_of_eq (L.applyError env g e hresult).epoch.symm
  | ok _ =>
      rcases L.applyOk env g hresult with ⟨identity, _, hcommit⟩
      rw [hcommit.epoch]
      exact Nat.le_succ _

theorem rises_proposeUpdate (env : MlsEnv) (identity : Option (M.Signer × Bytes))
    (aad : Bytes) (seed : M.Seed) (g : M.Group) :
    M.currentEpoch g <= M.currentEpoch (M.proposeUpdate env identity aad seed g).2 := by
  cases hresult : (M.proposeUpdate env identity aad seed g).1 with
  | error e => exact le_of_eq (L.proposeError _ _ _ _ _ e hresult).epoch.symm
  | ok m => exact le_of_eq (L.proposeOk _ _ _ _ _ m hresult).2.2.epoch.symm

theorem tidy_process (h : Half) (missing : TwoMlsPqError)
    (err : MlsError -> TwoMlsPqError) (m : M.Message) :
    Tidy (callHalf h missing err fun env => M.processIncomingMessage env m) :=
  Tidy.callHalf fun env g => rises_process L env m g

theorem tidy_build (h : Half) (missing : TwoMlsPqError) (err : MlsError -> TwoMlsPqError)
    (request : CommitRequest M.Message M.Signer) (seed : M.Seed) :
    Tidy (callHalf h missing err fun env => M.buildCommit env request seed) :=
  Tidy.callHalf fun env g => le_of_eq (L.build env request seed g).epoch.symm

theorem tidy_applyPending (h : Half) (missing : TwoMlsPqError)
    (err : MlsError -> TwoMlsPqError) :
    Tidy (callHalf h missing err M.applyPendingCommit) :=
  Tidy.callHalf fun env g => rises_applyPendingCommit L env g

theorem tidy_propose (h : Half) (missing : TwoMlsPqError)
    (err : MlsError -> TwoMlsPqError) (identity : MlsEnv -> Option (M.Signer × Bytes))
    (aad : Bytes) (seed : M.Seed) :
    Tidy (callHalf h missing err fun env => M.proposeUpdate env (identity env) aad seed) :=
  Tidy.callHalf fun env g => rises_proposeUpdate L env _ _ _ g

theorem tidy_encrypt (h : Half) (missing : TwoMlsPqError)
    (err : MlsError -> TwoMlsPqError) (data aad : Bytes) (seed : M.Seed) :
    Tidy (callHalf h missing err fun _ => M.encryptApplicationMessage data aad seed) :=
  Tidy.callHalf fun _ g => le_of_eq (L.encrypt data aad seed g).epoch.symm

theorem tidy_clearCache (h : Half) (missing : TwoMlsPqError) :
    Tidy (onHalf h missing fun _ => HalfOp.mapGroup M.clearProposalCache) :=
  Tidy.onHalf fun _ hs => le_of_eq (L.clearCache hs.group).epoch.symm

theorem tidy_injectAndCommit (h : Half) (missing : TwoMlsPqError) (stores : List StoreId)
    (secret : Bytes) (attestation : ApqInfoUpdate) (seed : M.Seed) :
    Tidy (onHalf h missing fun store =>
      injectAndCommit (M := M) store stores secret attestation seed) := by
  apply Tidy.onHalf
  intro store hs
  rcases (injectAndCommit_effect L store stores secret attestation seed hs).1.2 with
    hsame | hcommit
  · exact le_of_eq hsame.epoch.symm
  · rw [hcommit.epoch]
    exact Nat.le_succ _

theorem tidy_applyInjectedCommit (h : Half) (missing : TwoMlsPqError)
    (stores : List StoreId) (secret : Bytes) (pqCommit : Blob M) :
    Tidy (onHalf h missing fun store =>
      applyInjectedCommit store stores secret pqCommit) := by
  apply Tidy.onHalf
  intro store hs
  rcases (applyInjectedCommit_effect L store stores secret pqCommit hs).2 with
    hsame | ⟨m, _, _, hcommit⟩
  · exact le_of_eq hsame.epoch.symm
  · rw [hcommit.epoch]
    exact Nat.le_succ _

/-!
## The send path
-/

theorem tidy_validateOfferedUpdate (proposal : Blob M) (proposing : Bytes) :
    Tidy (validateOfferedUpdate proposal proposing) := by
  unfold validateOfferedUpdate
  refine Tidy.looking (Op.Still.ofOption _ _) fun message => ?_
  refine Tidy.looking (still_readHalf _ _) fun send => ?_
  refine Tidy.bind (tidy_process L _ _ _ message).attempt fun processed => ?_
  refine Tidy.bind (tidy_clearCache L _ _) fun _ => ?_
  refine Tidy.looking (Op.Still.ofExcept _) fun received => ?_
  split
  · refine Tidy.looking (Op.Still.ofExcept _) fun _ => ?_
    exact (Untold.still (Op.Still.ofExcept _)).tidy
  · exact Tidy.fail _

theorem tidy_commitPqAndOweBind (secret : Bytes) (seed : M.Seed) :
    Tidy (commitPqAndOweBind (M := M) secret seed) := by
  unfold commitPqAndOweBind
  refine Tidy.looking Op.Still.state fun s => ?_
  refine Tidy.looking (still_readHalf _ _) fun send => ?_
  refine Tidy.looking (still_readHalf _ _) fun sendPq => ?_
  refine Tidy.bind (tidy_injectAndCommit L _ _ _ _ _ _) fun pqCommit => ?_
  exact Tidy.mapRound _

theorem tidy_dischargeOwedBind :
    Tidy (dischargeOwedBind : SessionOp M (Option (DischargedBind M))) := by
  unfold dischargeOwedBind
  refine Tidy.looking Op.Still.state fun s => ?_
  split
  · exact Tidy.value _
  · refine Tidy.bind (Tidy.mapRound _) fun _ => ?_
    refine Tidy.looking (still_readHalf _ _) fun send => ?_
    refine Tidy.looking (still_readHalf _ _) fun sendPq => ?_
    refine Tidy.looking (Op.Still.ensure _ _) fun _ => ?_
    refine Tidy.looking (Op.Still.ensure _ _) fun _ => ?_
    refine Tidy.bind (Tidy.onHalf fun _ hs =>
      le_of_eq (exportApqPsk_still L _ hs).2.epoch.symm) fun apqPsk => ?_
    refine Tidy.bind (Tidy.mapRound _) fun _ => ?_
    exact Tidy.value _

theorem tidy_refold (folded : Option (PeerProposal M)) : Tidy (refold folded) := by
  unfold refold
  split
  · exact Tidy.value ()
  · refine Tidy.looking (Op.Still.ofOption _ _) fun message => ?_
    exact Tidy.bind (tidy_process L _ _ _ message) fun _ => Tidy.value ()

theorem tidy_dischargeAndCommit (folded : Option (PeerProposal M))
    (crossPsk : Option ExportedPsk) (handoff : Option (M.Signer × Bytes))
    (seed : M.Seed) : Tidy (dischargeAndCommit folded crossPsk handoff seed) := by
  unfold dischargeAndCommit
  refine Tidy.bind (tidy_dischargeOwedBind L) fun owed => ?_
  refine Tidy.bind (tidy_build L _ _ _ _ _) fun output => ?_
  refine Tidy.bind (tidy_applyPending L _ _ _) fun _ => ?_
  refine Tidy.looking (still_readHalf _ _) fun send => ?_
  refine Tidy.looking (Op.Still.ofExcept _) fun _ => ?_
  refine Tidy.bind (Tidy.confined (W := [.services])
    (confined_forgetConsumed _ _ (by decide)) rfl) fun _ => ?_
  refine Tidy.bind (Tidy.confined (W := [.services, .rotation])
    (confined_canonicalizeFold _ (by decide) (by decide)) rfl)
    fun _ => ?_
  refine Tidy.bind (tidy_rememberSendPsk L) fun _ => ?_
  refine Tidy.looking (Op.Still.ofExcept _) fun clCommit => ?_
  exact Tidy.mapMsg _

theorem tidy_commitRound (folded : Option (PeerProposal M)) (seed : M.Seed) :
    Tidy (commitRound folded seed) := by
  unfold commitRound
  refine Tidy.bind (tidy_rememberSendPsk L) fun _ => ?_
  refine Tidy.bind (tidy_crossPskForCommit L) fun crossPsk => ?_
  refine Tidy.looking still_handoffForCommit fun handoff => ?_
  refine Tidy.bind (tidy_refold L folded) fun _ => ?_
  refine Tidy.looking Op.Still.state fun s => ?_
  exact (tidy_dischargeAndCommit L _ _ _ _).mapError

theorem tidy_stageSelfUpdate (selected : Option Bytes) (rnd : Nat -> M.Seed) :
    Tidy (stageSelfUpdate selected rnd) := by
  unfold stageSelfUpdate proposeSelfUpdate
  refine Tidy.bind (Untold.ofTouches (touches_selectCandidate _ _) rfl).tidy fun selected => ?_
  refine Tidy.looking (still_proposingClient _) fun candidate => ?_
  refine Tidy.bind ?_ fun proposal => ?_
  · refine Tidy.looking (still_readHalf _ _) fun recv => ?_
    refine Tidy.looking (Op.Still.ofExcept _) fun leafId => ?_
    refine Tidy.looking Op.Still.state fun s => ?_
    refine Tidy.bind (tidy_propose L _ _ _ (fun _ => _) _ _) fun proposal => ?_
    exact (Untold.still (Op.Still.ofExcept _)).tidy
  · refine Tidy.bind (Tidy.mapMsg _) fun _ => ?_
    exact Tidy.value _

theorem tidy_prepareRatchetCommit (selected : Option Bytes) (rnd : Nat -> M.Seed) :
    Tidy (prepareRatchetCommit selected rnd) := by
  unfold prepareRatchetCommit
  refine Tidy.looking Op.Still.state fun s => ?_
  dsimp only
  refine Tidy.bind (Tidy.mapMsg _) fun _ => ?_
  refine Tidy.looking still_peerAppliedOurSendEpoch fun licensed => ?_
  refine Tidy.bind (Tidy.ite (tidy_commitRound L _ _) (Tidy.value ())) fun _ => ?_
  refine Tidy.bind (tidy_stageSelfUpdate L _ _) fun proposal => ?_
  exact Tidy.looking Op.Still.state fun s => Tidy.value _

theorem tidy_mintLeg (kind : PqFrameKind) (payload : Bytes) (seed : M.Seed) :
    Tidy (mintLeg kind payload seed) :=
  (Untold.ofQuiet (quiet_mintLeg L kind payload seed) (touches_mintLeg kind payload seed)
    rfl).tidy

theorem tidy_stageRatchet (rnd : Nat -> M.Seed) :
    Tidy (stageRatchet rnd : SessionOp M Unit) := by
  unfold stageRatchet
  refine Tidy.looking (Op.Still.ofExcept _) fun eph => ?_
  refine Tidy.bind (tidy_mintLeg L _ _ _) fun frame => ?_
  exact Tidy.mapRound _

theorem tidy_stageRekey (rotating : Option Bytes) (seed : M.Seed) :
    Tidy (stageRekey (M := M) rotating seed) := by
  unfold stageRekey
  refine Tidy.looking Op.Still.state fun s => ?_
  refine Tidy.looking (Op.Still.ensure _ _) fun _ => ?_
  refine Tidy.bind (tidy_propose L _ _ _ (fun _ => _) _ _) fun proposal => ?_
  refine Tidy.looking (Op.Still.ofExcept _) fun body => ?_
  exact Tidy.mapRound _

theorem tidy_rewrapSideBand (seed : M.Seed) :
    Tidy (rewrapSideBand seed : SessionOp M Unit) := by
  unfold rewrapSideBand
  refine Tidy.looking Op.Still.state fun s => ?_
  split
  · apply Tidy.ite
    · refine Tidy.bind (tidy_mintLeg L _ _ _).attempt fun minted => ?_
      split
      · exact Tidy.mapRound _
      · exact Tidy.value ()
    · exact Tidy.value ()
  · exact Tidy.value ()

theorem tidy_maybeStageNextRound (rnd : Nat -> M.Seed) :
    Tidy (maybeStageNextRound rnd : SessionOp M Bool) := by
  unfold maybeStageNextRound
  refine Tidy.looking Op.Still.state fun s => ?_
  apply Tidy.ite
  · apply Tidy.ite
    · exact Tidy.bind (tidy_stageRekey L _ _).attempt fun staged => Tidy.value _
    · exact Tidy.bind (tidy_stageRatchet L _).attempt fun _ => Tidy.value _
  · exact Tidy.value _

theorem tidy_prepareToEncryptInner (proposing : Option Bytes) (rnd : Nat -> M.Seed) :
    Tidy (prepareToEncryptInner proposing rnd) := by
  unfold prepareToEncryptInner
  refine Tidy.looking still_ensureEstablishmentDelegated fun _ => ?_
  refine Tidy.looking Op.Still.state fun s => ?_
  refine Tidy.bind ?_ fun result => ?_
  · refine Tidy.ite ?_ (tidy_prepareRatchetCommit L _ _)
    exact (Untold.ofTouches (touches_preparePreEstablishment _) rfl).tidy
  refine Tidy.bind (tidy_recordListenRendezvous L) fun _ => ?_
  exact Tidy.bind (tidy_rewrapSideBand L _) fun _ => Tidy.value _

theorem tidy_encryptInner (appMessage : Bytes) (rnd : Nat -> M.Seed) :
    Tidy (encryptInner appMessage rnd) := by
  unfold encryptInner
  refine Tidy.looking still_ensureEstablishmentDelegated fun _ => ?_
  refine Tidy.looking Op.Still.state fun s => ?_
  refine Tidy.looking (Op.Still.ofOption _ _) fun proposalHash => ?_
  dsimp only
  refine Tidy.bind (Tidy.mapMsg _) fun _ => ?_
  refine Tidy.looking (Op.Still.ensure _ _) fun _ => ?_
  refine Tidy.bind (tidy_encrypt L _ _ _ _ _ _) fun message => ?_
  refine Tidy.looking (Op.Still.ofExcept _) fun app => ?_
  refine Tidy.looking Op.Still.state fun s => ?_
  refine Tidy.looking (Op.Still.ofOption _ _) fun send => ?_
  refine Tidy.looking (still_composeFrame _ _ _) fun cipherText => ?_
  refine Tidy.bind (tidy_rewrapSideBand L _) fun _ => ?_
  exact Tidy.bind (tidy_maybeStageNextRound L _) fun _ => Tidy.value _

theorem tidy_queueProposalInner (digest : Bytes) :
    Tidy (queueProposalInner digest : SessionOp M Unit) := by
  unfold queueProposalInner
  refine Tidy.looking Op.Still.state fun s => ?_
  refine Tidy.looking (Op.Still.ofOption _ _) fun offered => ?_
  refine Tidy.bind (Tidy.mapMsg _) fun _ => ?_
  apply Tidy.ite
  · refine Tidy.bind (Tidy.mapMsg _) fun _ => Tidy.fail _
  · refine Tidy.bind (tidy_validateOfferedUpdate L _ _).attempt fun validated => ?_
    split
    · refine (Untold.ofTouches (W := [.services, .msg]) (touches_update ?_) rfl).tidy
      intro s slot hslot
      cases slot with
      | services => exact absurd (by decide) hslot
      | msg => exact absurd (by decide) hslot
      | _ => rfl
    · refine Tidy.bind (Tidy.mapMsg _) fun _ => Tidy.fail _

/-!
## The receive path
-/

omit L in
def Books.NoRecv (b : Books) : Prop :=
  b.epoch .recvClassical = none ∧ b.epoch .recvPq = none

omit L in
theorem noRecv_kept {α : Type} {x : SessionOp M α} {W : List Slot} (hw : Touches W x)
    (hclassical : Slot.half .recvClassical ∉ W) (hpq : Slot.half .recvPq ∉ W)
    (s : SessionInner M) (hs : s.books.NoRecv) : (x.run s).2.books.NoRecv := by
  rcases hs with ⟨hnone, hnonePq⟩
  constructor
  · change ((x.run s).2.half .recvClassical).map M.currentEpoch = none
    rw [hw.half hclassical s]
    exact hnone
  · change ((x.run s).2.half .recvPq).map M.currentEpoch = none
    rw [hw.half hpq s]
    exact hnonePq

omit L in
theorem tidyFrom_adoptRecvGroup (recv : CombinerGroup M) (creatorId digest : Bytes) :
    TidyFrom Books.NoRecv (Op.update (adoptRecvGroup recv creatorId digest)) := by
  apply TidyFrom.step
  intro s hs
  refine bookStep_ofClocks rfl rfl fun h => ?_
  cases h with
  | sendClassical => exact Later.refl _
  | sendPq => exact Later.refl _
  | recvClassical =>
      change Later (s.books.epoch .recvClassical) _
      rw [hs.1]
      exact True.intro
  | recvPq =>
      change Later (s.books.epoch .recvPq) _
      rw [hs.2]
      exact True.intro

theorem tidy_processWelcome (welcome : WelcomeBytes M)
    (establishment : WelcomeEstablishment) :
    Tidy (processWelcome welcome establishment) := by
  apply TidyFrom.tidy
  intro b
  unfold processWelcome
  dsimp only
  refine TidyFrom.reading fun s _ => ?_
  refine TidyFrom.ite (fun _ => ?_) fun hrecv => ?_
  · exact TidyFrom.ofTidy (Untold.still (Op.Still.ensure _ _)).tidy
  have hnone : s.books.NoRecv := by
    have hmissing : s.recvGroup = none := by
      cases hgroup : s.recvGroup with
      | none => rfl
      | some recv =>
          rw [hgroup] at hrecv
          exact absurd rfl hrecv
    constructor
    · change (s.recvGroup.map CombinerGroup.classical).map M.currentEpoch = none
      rw [hmissing]
      rfl
    · change (s.recvGroup.bind CombinerGroup.pq).map M.currentEpoch = none
      rw [hmissing]
      rfl
  refine TidyFrom.bind (Q := Books.NoRecv)
    (TidyFrom.ofTidy (tidy_trackPskStores fun s => s.client)) (fun s' hs' => ?_)
    fun _ => ?_
  · rw [<- hs'] at hnone
    exact noRecv_kept (touches_update fun s => confined_trackPskStores s.client
      (W := [.ledger]) (by decide) s) (by decide) (by decide) s' hnone
  refine TidyFrom.bind (TidyFrom.ofTidy (tidy_injectSendPsksIf L _))
    (noRecv_kept (touches_injectSendPsksIf _) (by decide) (by decide)) fun _ => ?_
  refine TidyFrom.looking (Op.Still.ofOption _ _) fun w => ?_
  refine TidyFrom.looking (Op.Still.ofExcept _) fun _ => ?_
  refine TidyFrom.untold (Untold.ofTouches (touches_update
    (confined_services _ (W := [.services]) (by decide))) rfl)
    fun _ => ?_
  refine TidyFrom.untold (Untold.ofTouches
    (Op.Writes.attempt (touches_joinWelcome w)) rfl) fun joined => ?_
  refine TidyFrom.untold (Untold.ofTouches (touches_update
    (confined_services _ (W := [.services]) (by decide))) rfl)
    fun _ => ?_
  refine TidyFrom.looking (Op.Still.ofExcept _) fun recv => ?_
  refine TidyFrom.looking (still_readHalf _ _) fun send => ?_
  refine TidyFrom.looking (Op.Still.ofExcept _) fun ownBinding => ?_
  refine TidyFrom.looking (Op.Still.ofExcept _) fun _ => ?_
  refine TidyFrom.looking (Op.Still.ofExcept _) fun _ => ?_
  refine TidyFrom.looking (Op.Still.ofExcept _) fun creatorId => ?_
  refine TidyFrom.looking Op.Still.state fun s => ?_
  refine TidyFrom.looking (Op.Still.ofExcept _) fun _ => ?_
  exact tidyFrom_adoptRecvGroup recv creatorId _

theorem tidy_joinReporting (welcome : WelcomeBytes M)
    (establishment : WelcomeEstablishment) :
    Tidy (joinReporting welcome establishment) := by
  unfold joinReporting
  refine Tidy.looking Op.Still.state fun before => ?_
  refine Tidy.bind (tidy_processWelcome L _ _) fun _ => ?_
  exact Tidy.looking Op.Still.state fun after => Tidy.value _

theorem tidy_applyBindClassical (clCommit : Blob M) (pqAttestation : ApqInfoUpdate) :
    Tidy (applyBindClassical clCommit pqAttestation) := by
  unfold applyBindClassical
  refine Tidy.looking (Op.Still.ofOption _ _) fun message => ?_
  refine Tidy.looking (still_readHalf _ _) fun before => ?_
  refine Tidy.looking (Op.Still.ofExcept _) fun prior => ?_
  refine Tidy.bind (tidy_process L _ _ _ message) fun received => ?_
  refine Tidy.looking ?_ fun attestation => ?_
  · split
    · exact Op.Still.ofExcept _
    · exact Op.Still.fail _
  refine Tidy.looking (Op.Still.ofOption _ _) fun clAttestation => ?_
  refine Tidy.looking (still_readHalf _ _) fun recvPq => ?_
  refine Tidy.looking (still_readHalf _ _) fun after => ?_
  refine Tidy.looking (Op.Still.ensure _ _) fun _ => ?_
  refine Tidy.looking (Op.Still.ofExcept _) fun _ => ?_
  exact Tidy.looking (Op.Still.ofExcept _) fun new => Tidy.value _

theorem tidy_applyBind (secret : Bytes) (pqCommit clCommit : Blob M) :
    Tidy (applyBind secret pqCommit clCommit) := by
  unfold applyBind
  refine Tidy.looking Op.Still.state fun s => ?_
  dsimp only
  refine Tidy.bind (tidy_injectSendPsksIf L _) fun _ => ?_
  refine Tidy.bind (tidy_applyInjectedCommit L _ _ _ _ _) fun applied => ?_
  refine Tidy.bind (tidy_applyBindClassical L _ _) fun moved => ?_
  exact Tidy.bind (Tidy.services _) fun _ => Tidy.value _

theorem tidy_exportCrossFromSendPq :
    Tidy (exportCrossFromSendPq : SessionOp M ExportedPsk) :=
  (Untold.ofQuiet (quiet_exportCrossFromSendPq L) touches_exportCrossFromSendPq
    rfl).tidy

theorem tidy_exportCrossFromRecvPq :
    Tidy (exportCrossFromRecvPq : SessionOp M ExportedPsk) :=
  (Untold.ofQuiet (quiet_exportCrossFromRecvPq L) touches_exportCrossFromRecvPq
    rfl).tidy

theorem tidy_takeResponderSecret : Tidy (takeResponderSecret : SessionOp M Bytes) := by
  have hreExport : Tidy (takeResponderSecret.reExport : SessionOp M Bytes) := by
    unfold takeResponderSecret.reExport
    refine Tidy.bind (tidy_exportCrossFromSendPq L) fun exported => ?_
    exact Tidy.bind (Tidy.mapRound _) fun _ => Tidy.value _
  unfold takeResponderSecret
  refine Tidy.looking Op.Still.state fun s => ?_
  split
  · exact Tidy.bind (Tidy.mapRound _) fun _ => Tidy.value _
  · exact hreExport
  · exact hreExport
  · exact Tidy.fail _

theorem tidy_applyBindStaple (tMessage pqMessage : Blob M) :
    Tidy (applyBindStaple tMessage pqMessage) := by
  unfold applyBindStaple
  refine Tidy.bind (tidy_takeResponderSecret L) fun secret => ?_
  refine Tidy.bind (tidy_rememberRecvAttachmentComponent L) fun _ => ?_
  refine Tidy.bind (tidy_applyBind L _ _ _).attempt fun applied => ?_
  split
  · exact Tidy.bind (Tidy.mapRound _) fun _ => Tidy.fail _
  · exact Tidy.bind (Tidy.mapRound _) fun _ => Tidy.value _

theorem tidy_applyCommitStaple (commit : M.Message) : Tidy (applyCommitStaple commit) := by
  unfold applyCommitStaple
  refine Tidy.looking Op.Still.state fun s => ?_
  refine Tidy.bind (tidy_injectSendPsksIf L _) fun _ => ?_
  refine Tidy.bind (tidy_rememberRecvAttachmentComponent L) fun _ => ?_
  refine Tidy.looking (still_readHalf _ _) fun before => ?_
  refine Tidy.looking (Op.Still.ofExcept _) fun prior => ?_
  refine Tidy.bind (tidy_process L _ _ _ commit) fun received => ?_
  refine Tidy.looking ?_ fun attestation => ?_
  · split
    · exact Op.Still.ofExcept _
    · exact Op.Still.fail _
  refine Tidy.looking (still_readHalf _ _) fun after => ?_
  refine Tidy.looking Op.Still.state fun s => ?_
  refine Tidy.looking (Op.Still.ofExcept _) fun _ => ?_
  refine Tidy.looking (Op.Still.ofExcept _) fun _ => ?_
  exact Tidy.looking (Op.Still.ofExcept _) fun new => Tidy.value _

omit L in
theorem tidy_noteCanonicalizedOwn (canonicalizedOwn : Option Bytes) :
    Tidy (noteCanonicalizedOwn canonicalizedOwn : SessionOp M Unit) := by
  unfold noteCanonicalizedOwn
  split
  · exact Tidy.value ()
  next newOwn =>
    refine Tidy.looking Op.Still.state fun s => ?_
    apply Tidy.ite
    · exact Tidy.services _
    · refine Tidy.looking (Op.Still.ofOption _ _) fun winner => ?_
      intro s
      have hmove := tidy_trackPskStores (fun _ => winner) (s.commitMine newOwn)
      exact hmove

theorem tidy_decryptApp (app : M.Message) : Tidy (decryptApp app) := by
  unfold decryptApp
  refine Tidy.bind (tidy_process L _ _ _ app) fun received => ?_
  split
  · refine Tidy.looking (still_readHalf _ _) fun recv => ?_
    exact Tidy.looking (Op.Still.ofExcept _) fun sender => Tidy.value _
  · exact Tidy.fail _

theorem tidy_noteWatermark (proposal : Blob M) (proposing : Bytes) :
    Tidy (noteWatermark proposal proposing) := by
  unfold noteWatermark
  refine Tidy.looking Op.Still.state fun s => ?_
  split
  · exact Tidy.value ()
  · dsimp only
    refine Tidy.ite (Tidy.value ()) ?_
    refine Tidy.bind (tidy_validateOfferedUpdate L _ _).attempt fun validated => ?_
    split
    · exact Tidy.mapMsg _
    · exact Tidy.value ()

theorem tidy_recordOffer (section_ : ProposalSection M) (sender groupId : Bytes) :
    Tidy (recordOffer section_ sender groupId) := by
  unfold recordOffer
  refine Tidy.looking (Op.Still.ofOption _ _) fun offer => ?_
  refine Tidy.bind (tidy_noteWatermark L _ _) fun _ => ?_
  exact Tidy.bind (Tidy.mapMsg _) fun _ => Tidy.value _

theorem tidy_processMessageBody (outcome : StapleOutcome) (proposal : ProposalSection M)
    (app : M.Message) : Tidy (processMessageBody outcome proposal app) := by
  unfold processMessageBody
  refine Tidy.bind (Tidy.confined (W := [.services, .rotation])
    (confined_noteNewSender _ (by decide) (by decide)) rfl) fun _ => ?_
  refine Tidy.bind (tidy_noteCanonicalizedOwn _) fun _ => ?_
  refine Tidy.bind (tidy_decryptApp L app) fun received => ?_
  refine Tidy.looking (still_readHalf _ _) fun send => ?_
  refine Tidy.bind (tidy_recordOffer L _ _ _) fun offered => ?_
  exact Tidy.looking Op.Still.state fun s => Tidy.value _

omit L in
theorem tidy_applyIfCurrent (commit : Option M.Message)
    {apply : M.Message -> SessionOp M LeafChanges} (happly : forall m, Tidy (apply m)) :
    Tidy (applyIfCurrent commit apply) := by
  unfold applyIfCurrent
  refine Tidy.looking (Op.Still.ofOption _ _) fun message => ?_
  refine Tidy.looking Op.Still.state fun s => ?_
  refine Tidy.looking (Op.Still.ofExcept _) fun action => ?_
  split
  · exact Tidy.value _
  · exact Tidy.bind (happly message) fun moved => Tidy.value _

theorem tidy_processStaple (staple : Staple M) (approval : Option EstablishmentApproval) :
    Tidy (processStaple staple approval) := by
  unfold processStaple
  refine Tidy.looking Op.Still.state fun s => ?_
  split
  · exact Tidy.fail _
  · apply Tidy.ite
    · split
      · exact Tidy.value _
      · exact Tidy.bind (tidy_joinReporting L _ _) fun outcome => Tidy.value _
    · exact Tidy.bind (tidy_processWelcome L _ _) fun _ => Tidy.value _
  · exact Tidy.bind (tidy_joinReporting L _ _) fun outcome => Tidy.value _
  · exact Tidy.fail _
  · refine Tidy.bind (tidy_applyIfCurrent _ fun _ => tidy_applyBindStaple L _ _)
      fun outcome => Tidy.value _
  · refine Tidy.bind (tidy_applyIfCurrent _ fun m => tidy_applyCommitStaple L m)
      fun outcome => Tidy.value _

theorem tidy_processMessage (staple : Staple M) (proposal : ProposalSection M)
    (app : Blob M) (approval : Option EstablishmentApproval) :
    Tidy (processMessage staple proposal app approval) := by
  unfold processMessage
  refine Tidy.looking (Op.Still.ofOption _ _) fun appMessage => ?_
  refine Tidy.bind (tidy_processStaple L _ _) fun outcome => ?_
  split
  · exact Tidy.value _
  · exact Tidy.value _
  · exact Tidy.bind (tidy_processMessageBody L _ _ _) fun result => Tidy.value _

theorem tidy_joinStandalone (welcome : WelcomeBytes M)
    (establishment : WelcomeEstablishment) :
    Tidy (joinStandalone welcome establishment) := by
  unfold joinStandalone
  refine Tidy.bind (tidy_joinReporting L _ _) fun outcome => ?_
  refine Tidy.looking Op.Still.state fun s => ?_
  split
  · exact Tidy.value _
  · exact Tidy.value _

theorem tidy_processIncomingInner (frame : Frame M)
    (approval : Option EstablishmentApproval) :
    Tidy (processIncomingInner frame approval) := by
  unfold processIncomingInner
  refine Tidy.looking Op.Still.state fun s => ?_
  refine Tidy.looking (Op.Still.ensure _ _) fun _ => ?_
  split
  · exact Tidy.fail _
  · apply Tidy.ite
    · exact Tidy.bind (tidy_processWelcome L _ _) fun _ => Tidy.value _
    · split
      · exact Tidy.value _
      · exact tidy_joinStandalone L _ _
  · exact tidy_joinStandalone L _ _
  · exact Tidy.fail _
  · exact tidy_processMessage L _ _ _ _
  · refine Tidy.looking (Op.Still.ofOption _ _) fun appMessage => ?_
    exact Tidy.bind (tidy_decryptApp L _) fun received => Tidy.value _
  · exact Tidy.fail _
  · exact Tidy.fail _

/-!
## Rounds
-/

theorem tidy_processA4Leg (h : Half) (innerTag : UInt8) (message : M.Message) :
    Tidy (processA4Leg h innerTag message) := by
  unfold processA4Leg
  refine Tidy.looking (Op.Still.ensure _ _) fun _ => ?_
  refine Tidy.looking (still_readHalf _ _) fun g => ?_
  refine Tidy.bind (tidy_process L _ _ _ message) fun received => ?_
  split
  · refine Tidy.looking (Op.Still.ensure _ _) fun _ => ?_
    split
    · exact Tidy.looking (Op.Still.ensure _ _) fun _ => Tidy.value _
    · exact Tidy.fail _
  · exact Tidy.fail _

theorem tidy_ratchetRespondInner (leg : M.Message) (rnd : Nat -> M.Seed) :
    Tidy (ratchetRespondInner leg rnd) := by
  unfold ratchetRespondInner
  refine Tidy.bind (tidy_processA4Leg L _ _ _) fun ek => ?_
  refine Tidy.looking (still_readHalf _ _) fun recvPq => ?_
  refine Tidy.looking (Op.Still.ofExcept _) fun psk => ?_
  refine Tidy.looking (Op.Still.ofExcept _) fun sealed => ?_
  refine Tidy.bind (tidy_encrypt L _ _ _ _ _ _) fun message => ?_
  refine Tidy.bind (Tidy.mapRound _) fun _ => ?_
  refine Tidy.looking (Op.Still.ofExcept _) fun body => ?_
  exact Tidy.mapRound _

omit L in
theorem tidy_pastNoReturn (round : PqWedge) {x : SessionOp M Unit} (hx : Tidy x) :
    Tidy (pastNoReturn round x) := by
  unfold pastNoReturn
  refine Tidy.bind hx.attempt fun r => ?_
  split
  · exact Tidy.value ()
  · exact Tidy.bind (Tidy.mapRound _) fun _ => Tidy.fail _

theorem tidy_openCiphertextLeg (leg : M.Message) (carrier : LegCarrier) :
    Tidy (openCiphertextLeg leg carrier) := by
  unfold openCiphertextLeg
  cases carrier with
  | classical => exact tidy_processA4Leg L _ _ _
  | pq =>
      refine Tidy.bind (tidy_processA4Leg L _ _ _).attempt fun opened => ?_
      cases opened with
      | ok payload => exact Tidy.value _
      | error e => exact Tidy.bind (tidy_clearCache L _ _) fun _ => Tidy.fail _

theorem tidy_ratchetBindInner (leg : M.Message) (carrier : LegCarrier) (seed : M.Seed) :
    Tidy (ratchetBindInner leg carrier seed) := by
  unfold ratchetBindInner
  refine Tidy.bind (tidy_openCiphertextLeg L leg carrier) fun wireCt => ?_
  refine Tidy.looking (still_openRoundSecret wireCt) fun secret => ?_
  refine Tidy.bind (tidy_rememberSendPsk L) fun _ => ?_
  refine Tidy.bind (tidy_pastNoReturn _ ?_) fun _ => tidy_recordPqHeaderKeyPostCommit
  refine Tidy.bind (Tidy.mapRound _) fun _ => ?_
  exact Tidy.bind (tidy_commitPqAndOweBind L _ _) fun _ => Tidy.mapRound _

theorem tidy_crossPskForRekey :
    Tidy (crossPskForRekey : SessionOp M (Option ExportedPsk)) := by
  unfold crossPskForRekey
  refine Tidy.looking (still_readHalf _ _) fun recvPq => ?_
  refine Tidy.looking Op.Still.state fun s => ?_
  refine Tidy.ite (Tidy.value _) ?_
  refine Tidy.bind (tidy_exportCrossFromRecvPq L) fun exported => ?_
  exact Tidy.bind (Tidy.services _) fun _ => Tidy.value _

theorem tidy_ingestRekeyUpdate (proposal : M.Message) :
    Tidy (ingestRekeyUpdate proposal) := by
  have hrefuse : forall e, Tidy
      (ingestRekeyUpdate.refuse e : SessionOp M (Option Bytes)) := by
    intro e
    unfold ingestRekeyUpdate.refuse
    exact Tidy.bind (tidy_clearCache L _ _) fun _ => Tidy.fail _
  unfold ingestRekeyUpdate
  refine Tidy.looking Op.Still.state fun s => ?_
  refine Tidy.looking (still_readHalf _ _) fun sendPq => ?_
  refine Tidy.bind (tidy_process L _ _ _ proposal) fun received => ?_
  split
  · exact hrefuse _
  · exact Tidy.ite (Tidy.value _) (hrefuse _)

theorem tidy_rekeyRespondInner (proposal : M.Message) (seed : M.Seed) :
    Tidy (rekeyRespondInner proposal seed) := by
  unfold rekeyRespondInner
  refine Tidy.bind (tidy_crossPskForRekey L) fun crossPsk => ?_
  refine Tidy.bind (tidy_ingestRekeyUpdate L _) fun rotated => ?_
  refine Tidy.looking still_rekeyHandoff fun handoff => ?_
  refine Tidy.bind (tidy_build L _ _ _ _ _) fun output => ?_
  refine Tidy.bind (tidy_applyPending L _ _ _) fun _ => ?_
  refine Tidy.looking (still_readHalf _ _) fun sendPq => ?_
  refine Tidy.looking (Op.Still.ofExcept _) fun _ => ?_
  refine Tidy.looking (Op.Still.ofExcept _) fun body => ?_
  refine Tidy.bind ?_ fun _ => ?_
  · cases crossPsk with
    | none => exact (Untold.still fun _ => rfl).tidy
    | some psk => exact Tidy.services _
  refine Tidy.bind (Tidy.services _) fun _ => ?_
  refine Tidy.bind (Tidy.mapRound _) fun _ => ?_
  exact Tidy.bind tidy_recordPqHeaderKeyPostCommit fun _ => Tidy.value _

theorem tidy_applyRekeyCommit (commit : M.Message) : Tidy (applyRekeyCommit commit) := by
  unfold applyRekeyCommit
  refine Tidy.bind (tidy_process L _ _ _ commit) fun received => ?_
  refine Tidy.looking ?_ fun _ => ?_
  · cases received with
    | commit effect =>
        exact Op.Still.bind (Op.Still.ofExcept _) fun _ => Op.Still.ensure _ _
    | _ => exact Op.Still.fail _
  refine Tidy.looking (still_readHalf _ _) fun recvPq => ?_
  exact (Untold.still (Op.Still.ofExcept _)).tidy

theorem tidy_preRegisterSendPq :
    Tidy (preRegisterSendPq : SessionOp M (Option PskId)) := by
  unfold preRegisterSendPq
  refine Tidy.looking (still_readHalf _ _) fun sendPq => ?_
  refine Tidy.looking Op.Still.state fun s => ?_
  refine Tidy.ite ?_ (Tidy.value _)
  refine Tidy.bind (tidy_exportCrossFromSendPq L) fun exported => ?_
  exact Tidy.bind (Tidy.services _) fun _ => Tidy.value _

theorem tidy_rekeyApplyInner (commit : Blob M) (seed : M.Seed) :
    Tidy (rekeyApplyInner commit seed) := by
  unfold rekeyApplyInner
  refine Tidy.looking (Op.Still.ofOption _ _) fun message => ?_
  refine Tidy.bind (tidy_preRegisterSendPq L) fun preRegistered => ?_
  refine Tidy.bind (tidy_applyRekeyCommit L message) fun _ => ?_
  refine Tidy.bind (tidy_pastNoReturn _ ?_) fun _ => tidy_recordPqHeaderKeyPostCommit
  refine Tidy.bind (Tidy.mapRound _) fun _ => ?_
  refine Tidy.bind ?_ fun _ => ?_
  · cases preRegistered with
    | none => exact (Untold.still fun _ => rfl).tidy
    | some id => exact Tidy.services _
  refine Tidy.bind (tidy_exportCrossFromRecvPq L) fun exported => ?_
  refine Tidy.bind (tidy_commitPqAndOweBind L _ _) fun _ => ?_
  exact Tidy.bind (Tidy.services _) fun _ => Tidy.mapRound _

omit L in
theorem tidy_registerBootstrapRound (kp : Blob M) (sealed : Bool) :
    Tidy (registerBootstrapRound kp sealed : SessionOp M Unit) := by
  unfold registerBootstrapRound
  refine Tidy.looking (Op.Still.ofExcept _) fun founding => ?_
  exact (Untold.update fun _ => rfl).tidy

omit L in
theorem tidy_bootstrapBeginInner :
    Tidy (bootstrapBeginInner : SessionOp M (SideBand M)) := by
  unfold bootstrapBeginInner
  refine Tidy.looking Op.Still.state fun s => ?_
  refine Tidy.looking (Op.Still.ofOption _ _) fun kp => ?_
  dsimp only
  refine Tidy.looking (still_sealSideBand _) fun _ => ?_
  exact Tidy.bind (tidy_registerBootstrapRound _ _) fun _ => Tidy.value _

omit L in
theorem tidy_bootstrapEnvelopeInner (seed : M.Seed) :
    Tidy (bootstrapEnvelopeInner seed : SessionOp M (SideBand M)) := by
  unfold bootstrapEnvelopeInner
  refine Tidy.looking Op.Still.state fun s => ?_
  refine Tidy.looking (Op.Still.ofOption _ _) fun theirKp => ?_
  refine Tidy.looking ?_ fun frame => ?_
  · split
    · exact Op.Still.value _
    · exact Op.Still.bind (Op.Still.ofOption _ _) fun _ => Op.Still.value _
  refine Tidy.looking (Op.Still.ofExcept _) fun _ => ?_
  refine Tidy.bind ?_ fun _ => Tidy.value _
  exact Tidy.ite (tidy_registerBootstrapRound _ _) (Tidy.value ())

omit L in
theorem tidy_createDeferredPqHalf (kp : Blob M) (rnd : Nat -> M.Seed) :
    Tidy (createDeferredPqHalf kp rnd) := by
  apply TidyFrom.tidy
  intro b
  unfold createDeferredPqHalf
  refine TidyFrom.reading fun s _ => ?_
  dsimp only
  refine TidyFrom.learning (K := fun send b => b = s.books ∧ s.sendGroup = some send)
    (Op.Still.ofOption _ _) (fun _ _ hs hrun => ⟨hs, (Op.ofOption_ok hrun).1⟩)
    fun send => ?_
  refine TidyFrom.learning (K := fun _ b => b.epoch .sendPq = none)
    (Op.Still.ensure _ _) ?_ fun _ => ?_
  · rintro s' _ ⟨hs', hsend⟩ hrun
    rw [hs']
    change (s.sendGroup.bind CombinerGroup.pq).map M.currentEpoch = none
    rw [hsend, Option.bind_some, Option.isNone_iff_eq_none.mp (Op.ensure_ok hrun).1]
    rfl
  refine TidyFrom.looking (Op.Still.ofExcept _) fun classicalInfo => ?_
  refine TidyFrom.looking (Op.Still.ofExcept _) fun created => ?_
  refine TidyFrom.bind (Q := fun _ => True) (TidyFrom.step fun s' hs' => ?_)
    (fun _ _ => True.intro) fun _ => TidyFrom.value _
  refine bookStep_ofClocks rfl rfl fun h => ?_
  cases h with
  | sendPq =>
      change Later (s'.books.epoch .sendPq) _
      rw [hs']
      exact True.intro
  | sendClassical =>
      change Later ((s'.sendGroup.map CombinerGroup.classical).map M.currentEpoch)
        (((s'.sendGroup.map fun cg => cg.setPq created.1 s.client).map
          CombinerGroup.classical).map M.currentEpoch)
      cases s'.sendGroup with
      | none => exact True.intro
      | some cg => exact le_refl _
  | recvClassical => exact Later.refl _
  | recvPq => exact Later.refl _

omit L in
theorem tidy_bootstrapRespondInner (kp : Blob M) (rnd : Nat -> M.Seed) :
    Tidy (bootstrapRespondInner kp rnd) := by
  unfold bootstrapRespondInner
  refine Tidy.bind (tidy_trackPskStores fun s => s.client) fun _ => ?_
  refine Tidy.looking (Op.Still.ofExcept _) fun founding => ?_
  refine Tidy.bind (Untold.update fun _ => rfl).tidy fun _ => ?_
  refine Tidy.bind (tidy_createDeferredPqHalf kp rnd) fun welcome => ?_
  exact Tidy.bind (Tidy.mapRound _) fun _ => tidy_recordPqHeaderKeyPostCommit

omit L in
theorem joinDeferredPqHalf_missing {welcome : Blob M} {s : SessionInner M} {pq : M.Group}
    (h : (joinDeferredPqHalf welcome).run s = (.ok pq, s)) :
    s.books.epoch .recvPq = none := by
  unfold joinDeferredPqHalf at h
  rw [Op.run_bind_ok (Op.run_state s)] at h
  rcases Op.bind_ok h with ⟨recv, s₁, hrecv, h⟩
  rcases Op.bind_ok h with ⟨_, s₂, hnone, _⟩
  change (s.recvGroup.bind CombinerGroup.pq).map M.currentEpoch = none
  rw [(Op.ofOption_ok hrecv).1, Option.bind_some,
    Option.isNone_iff_eq_none.mp (Op.ensure_ok hnone).1]
  rfl

omit L in
theorem tidyFrom_installRecvPq (pq : M.Group) :
    TidyFrom (fun b => b.epoch .recvPq = none) (Op.update (installRecvPq pq)) := by
  apply TidyFrom.step
  intro s hs
  refine bookStep_ofClocks rfl rfl fun h => ?_
  cases h with
  | recvPq =>
      change Later (s.books.epoch .recvPq) _
      rw [hs]
      exact True.intro
  | recvClassical =>
      change Later ((s.recvGroup.map CombinerGroup.classical).map M.currentEpoch)
        (((s.recvGroup.map fun cg => cg.setPq pq s.client).map
          CombinerGroup.classical).map M.currentEpoch)
      cases s.recvGroup with
      | none => exact True.intro
      | some cg => exact le_refl _
  | sendClassical => exact Later.refl _
  | sendPq => exact Later.refl _

theorem tidy_bootstrapBindInner (welcome : Blob M) (seed : M.Seed) :
    Tidy (bootstrapBindInner welcome seed) := by
  unfold bootstrapBindInner
  refine Tidy.bind (tidy_trackPskStores fun s => s.client) fun _ => ?_
  apply TidyFrom.tidy
  intro b
  refine TidyFrom.learning (K := fun _ b => b.epoch .recvPq = none)
    (still_joinDeferredPqHalf welcome)
    (fun s pq _ hrun => joinDeferredPqHalf_missing hrun) fun pq => ?_
  refine TidyFrom.bind (Q := fun _ => True) ?_ (fun _ _ => True.intro)
    fun _ => TidyFrom.ofTidy tidy_recordPqHeaderKeyPostCommit
  unfold pastNoReturn
  refine TidyFrom.bind (Q := fun _ => True) ?_ (fun _ _ => True.intro) fun r => ?_
  · refine TidyFrom.attempt ?_
    refine TidyFrom.bind (Q := fun _ => True) (tidyFrom_installRecvPq pq)
      (fun _ _ => True.intro) fun _ => ?_
    refine TidyFrom.ofTidy ?_
    refine Tidy.bind (tidy_exportCrossFromRecvPq L) fun exported => ?_
    exact Tidy.bind (tidy_commitPqAndOweBind L _ _) fun _ =>
      (Untold.update fun _ => rfl).tidy
  · refine TidyFrom.ofTidy ?_
    split
    · exact Tidy.value ()
    · exact Tidy.bind (Tidy.mapRound _) fun _ => Tidy.fail _

/-!
## Archives and envelopes
-/

theorem tidy_exportHalf (h : Half) : Tidy (exportHalf h : SessionOp M M.GroupSnapshot) :=
  Tidy.callHalf fun _ g => le_of_eq (L.exportState g).epoch.symm

theorem tidy_exportPqHalf (h : Half) (includePq : Bool) :
    Tidy (exportPqHalf h includePq : SessionOp M (Option M.GroupSnapshot)) := by
  unfold exportPqHalf
  refine Tidy.looking Op.Still.state fun s => ?_
  apply Tidy.ite
  · exact Tidy.bind (tidy_exportHalf L h) fun pq => Tidy.value _
  · exact Tidy.value _

theorem tidy_encodeBlob (kind : BlobKind) :
    Tidy (encodeBlob kind : SessionOp M (Archive M)) := by
  unfold encodeBlob buildArchiveWire exportSend exportRecv
  refine Tidy.looking Op.Still.state fun s => ?_
  refine Tidy.bind ?_ fun wire => Tidy.value _
  refine Tidy.bind (tidy_recordListenRendezvous L) fun _ => ?_
  refine Tidy.bind ?_ fun sendGroup => ?_
  · refine Tidy.bind (tidy_exportHalf L _) fun classical => ?_
    exact Tidy.bind (tidy_exportPqHalf L _ _) fun pq => Tidy.value _
  refine Tidy.bind ?_ fun recvGroup => ?_
  · refine Tidy.looking Op.Still.state fun s => ?_
    refine Tidy.ite (Tidy.value _) ?_
    refine Tidy.bind (tidy_exportHalf L _) fun classical => ?_
    exact Tidy.bind (tidy_exportPqHalf L _ _) fun pq => Tidy.value _
  exact Tidy.looking Op.Still.state fun s => Tidy.value _

omit L in
theorem tidy_initialFieldBody (apply : EstablishmentState M -> EstablishmentState M)
    (seed : M.Seed) : Tidy (initialFieldBody apply seed) := by
  unfold initialFieldBody
  refine Tidy.looking Op.Still.state fun s => ?_
  refine Tidy.looking (Op.Still.ensure _ _) fun _ => ?_
  refine Tidy.bind (Untold.update fun _ => rfl).tidy fun _ => ?_
  refine Tidy.looking (still_composeInitialEnvelope _ _) fun envelope => ?_
  exact Tidy.mapMsg _

/-!
## Lives
-/

theorem bodies_ofBooks {J : Books -> Prop}
    (hstep : forall b b', BookStep b b' -> J b -> J b') :
    Bodies fun s : SessionInner M => J s.books := by
  have hkeeps : forall {α : Type} {x : SessionOp M α}, Tidy x ->
      Op.Keeps (fun s : SessionInner M => J s.books) x :=
    fun hx s hs => (hx s).invariant hstep hs
  have hguarded : forall {α β : Type} {guard : SessionOp M β} {admitted : β -> Prop}
      {body : β -> SessionOp M α}, (forall b, Tidy (body b)) ->
        Warded (fun s : SessionInner M => J s.books) guard admitted body :=
    fun hbody => Warded.ofKeeps fun b => hkeeps (hbody b)
  exact
    { encodes := fun kind => hkeeps (tidy_encodeBlob L kind)
      taken := fun _ hs => hs
      takenSideBand := fun _ hs => hs
      handsOut := fun stable => hkeeps
        (Untold.ofTouches (touches_handOut stable) rfl).tidy
      listens := hkeeps (tidy_recordListenRendezvous L)
      listensPq := hkeeps tidy_recordPqHeaderKey
      installs := fun envelope => hkeeps
        (Untold.ofTouches (touches_installEnvelopeInner envelope) rfl).tidy
      attaches := fun payload seed => hkeeps (tidy_initialFieldBody _ seed)
      attachesKp := fun kp seed => hkeeps (tidy_initialFieldBody _ seed)
      prepares := fun proposing rnd => hkeeps (tidy_prepareToEncryptInner L proposing rnd)
      encrypts := fun appMessage rnd => hkeeps (tidy_encryptInner L appMessage rnd)
      receives := fun frame approval => hkeeps (tidy_processIncomingInner L frame approval)
      queues := fun digest => hkeeps (tidy_queueProposalInner L digest)
      exportsSend := hkeeps (tidy_sendAttachmentComponent L)
      exportsRecv := fun epoch => hkeeps (tidy_recvAttachmentComponent L epoch)
      respondsRatchet := fun _ rnd => hguarded fun leg => tidy_ratchetRespondInner L leg rnd
      bindsRatchet := fun _ seed => hguarded fun opened =>
        tidy_ratchetBindInner L opened.1 opened.2 seed
      respondsRekey := fun _ seed => hguarded fun proposal =>
        tidy_rekeyRespondInner L proposal seed
      appliesRekey := fun _ seed => hguarded fun commit => tidy_rekeyApplyInner L commit seed
      begins := fun _ => hguarded fun _ => tidy_bootstrapBeginInner
      envelopes := fun seed => hguarded fun _ => tidy_bootstrapEnvelopeInner seed
      respondsBootstrap := fun _ rnd => hguarded fun kp => tidy_bootstrapRespondInner kp rnd
      bindsBootstrap := fun _ seed => hguarded fun welcome =>
        tidy_bootstrapBindInner L welcome seed }

end

end Session
end TwoMlsPq
