import TwoMlsPq.Session.LedgerPaths

/-!
# The staple and its stamp

A frame carries the current staple and is stamped with the counter the staple was
written at.  Only two operations write the staple: a classical commit, which has then
moved the send group past the epoch of the commit, and the envelope that wraps a bare
welcome.  Both stamp it anew; the fields of the establishment envelope are stamped
without a new staple.
-/

namespace TwoMlsPq
namespace Session

open Foundation Apq

section

variable {M : MlsRs} {α β : Type}

/-!
## What a staple depends on
-/

structure Tab (M : MlsRs) where
  staple : Option (Staple M)
  stamp : Nat
  counter : Nat
  epoch : Option Nat

def SessionInner.tab (s : SessionInner M) : Tab M :=
  { staple := s.msg.currentStaple
    stamp := s.msg.currentStapleSeq
    counter := s.stateSeq
    epoch := s.epoch .sendClassical }

theorem tab_epoch (s : SessionInner M) : s.tab.epoch = s.core.epoch .sendClassical :=
  rfl

def StaplesCommit (epoch : Nat) (staple : Staple M) : Prop :=
  exists cl m, cl.parsed = some m ∧ M.messageEpoch m = some epoch ∧
    (staple = .commit cl ∨ exists pq, staple = .bind cl pq)

/-- What one body can do to the tab. -/
inductive TabStep (b : Tab M) : Tab M -> Prop
  | advance {epoch : Option Nat} (later : Later b.epoch epoch) :
      TabStep b { b with epoch := epoch }
  | commit {staple : Staple M} {made : Nat} {epoch : Option Nat}
      (now : b.epoch = some made) (later : Later (some (made + 1)) epoch)
      (carries : StaplesCommit made staple) :
      TabStep b
        { b with staple := some staple, stamp := b.counter, epoch := epoch }
  | wrap {envelope : Bytes} {welcome : WelcomeBytes M}
      (bare : b.staple = some (.welcome welcome)) :
      TabStep b
        { b with staple := some (.handoff envelope welcome), stamp := b.counter }
  | restamp : TabStep b { b with stamp := b.counter }

theorem TabStep.counter {b b' : Tab M} (h : TabStep b b') : b'.counter = b.counter := by
  cases h <;> rfl

theorem StaplesCommit.made_unique {made made' : Nat} {staple : Staple M}
    (h : StaplesCommit made staple) (h' : StaplesCommit made' staple) : made = made' := by
  rcases h with ⟨cl, m, hparsed, hmade, hcarries⟩
  rcases h' with ⟨cl', m', hparsed', hmade', hcarries'⟩
  have hsame : cl = cl' := by
    rcases hcarries with rfl | ⟨pq, rfl⟩
    · rcases hcarries' with h | ⟨_, h⟩
      · injection h
      · cases h
    · rcases hcarries' with h | ⟨_, h⟩
      · cases h
      · injection h
  rw [hsame, hparsed'] at hparsed
  rw [<- Option.some.inj hparsed, hmade'] at hmade
  exact (Option.some.inj hmade).symm

theorem StaplesCommit.not_handoff {made : Nat} {envelope : Bytes}
    {welcome : WelcomeBytes M} : ¬ StaplesCommit made (.handoff envelope welcome) := by
  rintro ⟨cl, m, _, _, h | ⟨pq, h⟩⟩ <;> cases h

theorem StaplesCommit.not_welcome {made : Nat} {welcome : WelcomeBytes M} :
    ¬ StaplesCommit made (.welcome welcome) := by
  rintro ⟨cl, m, _, _, h | ⟨pq, h⟩⟩ <;> cases h

def TabPath : Tab M -> Tab M -> Prop :=
  Relation.ReflTransGen TabStep

theorem TabPath.invariant {J : Tab M -> Prop}
    (hstep : forall b b', TabStep b b' -> J b -> J b') {b b' : Tab M}
    (h : TabPath b b') (hb : J b) : J b' := by
  induction h with
  | refl => exact hb
  | tail _ hlast ih => exact hstep _ _ hlast ih

def Since (b : Tab M) (s : SessionInner M) : Prop :=
  TabPath b s.tab

/-!
## Operations that leave the staple alone
-/

def SessionInner.stapling (_ : Unit) (s : SessionInner M) :
    Option (Staple M) × Nat × Nat :=
  (s.msg.currentStaple, s.msg.currentStapleSeq, s.stateSeq)

def Unstapled (x : SessionOp M α) : Prop :=
  Op.Writes SessionInner.stapling [] x

theorem Unstapled.ofTouches {W : List Slot} {x : SessionOp M α} (hx : Touches W x)
    (hmsg : .msg ∉ W) (hcounter : .counter ∉ W) : Unstapled x := by
  intro s slot _
  have hkept : (x.run s).2.msg = s.msg := hx s .msg hmsg
  have hcounted : (x.run s).2.stateSeq = s.stateSeq := hx s .counter hcounter
  unfold SessionInner.stapling
  rw [hkept, hcounted]

theorem Unstapled.confined {W : List Slot} {f : SessionInner M -> SessionInner M}
    (hf : Confined W f) (hmsg : .msg ∉ W) (hcounter : .counter ∉ W) :
    Unstapled (Op.update f) :=
  Unstapled.ofTouches (touches_update hf) hmsg hcounter

theorem Unstapled.mapMsg {f : SessionInner M -> MessageState M -> MessageState M}
    (hstaple : forall s m, (f s m).currentStaple = m.currentStaple)
    (hstamp : forall s m, (f s m).currentStapleSeq = m.currentStapleSeq) :
    Unstapled (Op.update fun s : SessionInner M => s.mapMsg (f s)) := by
  intro s slot _
  change ((f s s.msg).currentStaple, (f s s.msg).currentStapleSeq, s.stateSeq) = _
  rw [hstaple, hstamp]
  rfl

theorem Unstapled.still {x : SessionOp M α} (hx : Op.Still x) : Unstapled x :=
  Op.Writes.still hx

theorem Unstapled.mapRound (f : SessionInner M -> RoundState M -> RoundState M) :
    Unstapled (Op.update fun s : SessionInner M => s.mapRound (f s)) :=
  Unstapled.confined (W := [.round]) (confined_mapRound f List.mem_cons_self) (by decide)
    (by decide)

theorem Unstapled.services (f : SessionInner M -> Services) :
    Unstapled (Op.update fun s : SessionInner M => { s with services := f s }) :=
  Unstapled.confined (W := [.services]) (confined_services f List.mem_cons_self)
    (by decide) (by decide)

theorem Unstapled.onHalf (h : Half) (missing : TwoMlsPqError)
    (y : StoreId -> HalfOp M α) : Unstapled (onHalf h missing y) :=
  Unstapled.ofTouches (W := [.half h, .services])
    (touches_onHalf h missing y (by simp) (by simp)) (by simp) (by simp)

theorem Unstapled.callHalf (h : Half) (missing : TwoMlsPqError)
    (err : MlsError -> TwoMlsPqError)
    (f : MlsEnv -> M.Group -> Except MlsError α × M.Group) :
    Unstapled (callHalf h missing err f) :=
  Unstapled.onHalf h missing _

theorem unstapled_trackPskStores (client : SessionInner M -> TwoMlsPqPrincipal M) :
    Unstapled (Op.update fun s => trackPskStores (client s) s) :=
  Unstapled.confined (W := [.ledger])
    (fun s => confined_trackPskStores (client s) (by decide) s) (by decide) (by decide)

/-!
### Rounds
-/

theorem unstapled_pastNoReturn (round : PqWedge) {x : SessionOp M Unit}
    (hx : Unstapled x) : Unstapled (pastNoReturn round x) := by
  unfold pastNoReturn
  refine Op.Writes.bind hx.attempt fun r => ?_
  split
  · exact Op.Writes.value ()
  · exact Op.Writes.bind (Unstapled.mapRound _) fun _ => Op.Writes.fail _

theorem unstapled_commitPqAndOweBind (secret : Bytes) (seed : M.Seed) :
    Unstapled (commitPqAndOweBind (M := M) secret seed) :=
  Unstapled.ofTouches (touches_commitPqAndOweBind secret seed) (by decide) (by decide)

theorem unstapled_recordPqHeaderKeyPostCommit :
    Unstapled (recordPqHeaderKeyPostCommit : SessionOp M Unit) :=
  Unstapled.ofTouches touches_recordPqHeaderKeyPostCommit (by decide) (by decide)

theorem unstapled_exportCrossFromRecvPq :
    Unstapled (exportCrossFromRecvPq : SessionOp M ExportedPsk) :=
  Unstapled.ofTouches touches_exportCrossFromRecvPq (by decide) (by decide)

theorem unstapled_rememberSendPsk : Unstapled (rememberSendPsk : SessionOp M Unit) :=
  Unstapled.ofTouches touches_rememberSendPsk (by decide) (by decide)

theorem unstapled_openCiphertextLeg (leg : M.Message) (carrier : LegCarrier) :
    Unstapled (openCiphertextLeg leg carrier) := by
  unfold openCiphertextLeg
  cases carrier with
  | classical =>
      exact Unstapled.ofTouches (W := [.half .recvClassical])
        (touches_processA4Leg _ _ _ (by decide)) (by decide) (by decide)
  | pq =>
      refine Op.Writes.bind ?_ fun opened => ?_
      · exact Op.Writes.attempt (Unstapled.ofTouches (W := [.half .sendPq])
          (touches_processA4Leg _ _ _ (by decide)) (by decide) (by decide))
      cases opened with
      | ok payload => exact Op.Writes.value _
      | error e =>
          exact Op.Writes.bind (Unstapled.onHalf _ _ _) fun _ => Op.Writes.fail _

theorem unstapled_ratchetBindInner (leg : M.Message) (carrier : LegCarrier)
    (seed : M.Seed) : Unstapled (ratchetBindInner leg carrier seed) := by
  unfold ratchetBindInner
  refine Op.Writes.bind (unstapled_openCiphertextLeg leg carrier) fun wireCt => ?_
  refine Op.Writes.looking (still_openRoundSecret wireCt) fun secret => ?_
  refine Op.Writes.bind unstapled_rememberSendPsk fun _ => ?_
  refine Op.Writes.bind (unstapled_pastNoReturn _ ?_)
    fun _ => unstapled_recordPqHeaderKeyPostCommit
  refine Op.Writes.bind (Unstapled.mapRound _) fun _ => ?_
  exact Op.Writes.bind (unstapled_commitPqAndOweBind _ _) fun _ => Unstapled.mapRound _

theorem unstapled_crossPskForRekey :
    Unstapled (crossPskForRekey : SessionOp M (Option ExportedPsk)) := by
  unfold crossPskForRekey
  refine Op.Writes.looking (still_readHalf _ _) fun recvPq => ?_
  refine Op.Writes.looking Op.Still.state fun s => ?_
  refine Op.Writes.ite (Op.Writes.value _) ?_
  refine Op.Writes.bind unstapled_exportCrossFromRecvPq fun exported => ?_
  exact Op.Writes.bind (Unstapled.services _) fun _ => Op.Writes.value _

theorem unstapled_rekeyRespondInner (proposal : M.Message) (seed : M.Seed) :
    Unstapled (rekeyRespondInner proposal seed) := by
  unfold rekeyRespondInner
  refine Op.Writes.bind unstapled_crossPskForRekey fun crossPsk => ?_
  refine Op.Writes.bind (Unstapled.ofTouches (touches_ingestRekeyUpdate proposal)
    (by decide) (by decide)) fun rotated => ?_
  refine Op.Writes.looking still_rekeyHandoff fun handoff => ?_
  refine Op.Writes.bind (Unstapled.callHalf _ _ _ _) fun output => ?_
  refine Op.Writes.bind (Unstapled.callHalf _ _ _ _) fun _ => ?_
  refine Op.Writes.looking (still_readHalf _ _) fun sendPq => ?_
  refine Op.Writes.looking (Op.Still.ofExcept _) fun _ => ?_
  refine Op.Writes.looking (Op.Still.ofExcept _) fun body => ?_
  refine Op.Writes.bind ?_ fun _ => ?_
  · cases crossPsk with
    | none => exact Op.Writes.still fun _ => rfl
    | some psk => exact Unstapled.services _
  refine Op.Writes.bind (Unstapled.services _) fun _ => ?_
  refine Op.Writes.bind (Unstapled.mapRound _) fun _ => ?_
  exact Op.Writes.bind unstapled_recordPqHeaderKeyPostCommit fun _ => Op.Writes.value _

theorem unstapled_preRegisterSendPq :
    Unstapled (preRegisterSendPq : SessionOp M (Option PskId)) := by
  unfold preRegisterSendPq
  refine Op.Writes.looking (still_readHalf _ _) fun sendPq => ?_
  refine Op.Writes.looking Op.Still.state fun s => ?_
  refine Op.Writes.ite ?_ (Op.Writes.value _)
  refine Op.Writes.bind (Unstapled.ofTouches touches_exportCrossFromSendPq (by decide)
    (by decide)) fun exported => ?_
  exact Op.Writes.bind (Unstapled.services _) fun _ => Op.Writes.value _

theorem unstapled_rekeyApplyInner (commit : Blob M) (seed : M.Seed) :
    Unstapled (rekeyApplyInner commit seed) := by
  unfold rekeyApplyInner
  refine Op.Writes.looking (Op.Still.ofOption _ _) fun message => ?_
  refine Op.Writes.bind unstapled_preRegisterSendPq fun preRegistered => ?_
  refine Op.Writes.bind (Unstapled.ofTouches (touches_applyRekeyCommit message)
    (by decide) (by decide)) fun _ => ?_
  refine Op.Writes.bind (unstapled_pastNoReturn _ ?_)
    fun _ => unstapled_recordPqHeaderKeyPostCommit
  refine Op.Writes.bind (Unstapled.mapRound _) fun _ => ?_
  refine Op.Writes.bind ?_ fun _ => ?_
  · cases preRegistered with
    | none => exact Op.Writes.still fun _ => rfl
    | some id => exact Unstapled.services _
  refine Op.Writes.bind unstapled_exportCrossFromRecvPq fun exported => ?_
  refine Op.Writes.bind (unstapled_commitPqAndOweBind _ _) fun _ => ?_
  exact Op.Writes.bind (Unstapled.services _) fun _ => Unstapled.mapRound _

theorem unstapled_registerBootstrapRound (kp : Blob M) (sealed : Bool) :
    Unstapled (registerBootstrapRound kp sealed : SessionOp M Unit) := by
  unfold registerBootstrapRound
  refine Op.Writes.looking (Op.Still.ofExcept _) fun founding => ?_
  exact Op.Writes.update fun _ _ _ => rfl

theorem unstapled_bootstrapBeginInner :
    Unstapled (bootstrapBeginInner : SessionOp M (SideBand M)) := by
  unfold bootstrapBeginInner
  refine Op.Writes.looking Op.Still.state fun s => ?_
  refine Op.Writes.looking (Op.Still.ofOption _ _) fun kp => ?_
  dsimp only
  refine Op.Writes.looking (still_sealSideBand _) fun _ => ?_
  exact Op.Writes.bind (unstapled_registerBootstrapRound _ _) fun _ => Op.Writes.value _

theorem unstapled_bootstrapEnvelopeInner (seed : M.Seed) :
    Unstapled (bootstrapEnvelopeInner seed : SessionOp M (SideBand M)) := by
  unfold bootstrapEnvelopeInner
  refine Op.Writes.looking Op.Still.state fun s => ?_
  refine Op.Writes.looking (Op.Still.ofOption _ _) fun theirKp => ?_
  refine Op.Writes.looking ?_ fun frame => ?_
  · split
    · exact Op.Still.value _
    · exact Op.Still.bind (Op.Still.ofOption _ _) fun _ => Op.Still.value _
  refine Op.Writes.looking (Op.Still.ofExcept _) fun _ => ?_
  refine Op.Writes.bind ?_ fun _ => Op.Writes.value _
  exact Op.Writes.ite (unstapled_registerBootstrapRound _ _) (Op.Writes.value ())

theorem unstapled_createDeferredPqHalf (kp : Blob M) (rnd : Nat -> M.Seed) :
    Unstapled (createDeferredPqHalf kp rnd) := by
  unfold createDeferredPqHalf
  refine Op.Writes.looking Op.Still.state fun s => ?_
  dsimp only
  refine Op.Writes.looking (Op.Still.ofOption _ _) fun send => ?_
  refine Op.Writes.looking (Op.Still.ensure _ _) fun _ => ?_
  refine Op.Writes.looking (Op.Still.ofExcept _) fun classicalInfo => ?_
  refine Op.Writes.looking (Op.Still.ofExcept _) fun created => ?_
  exact Op.Writes.bind (Op.Writes.update fun _ _ _ => rfl) fun _ => Op.Writes.value _

theorem unstapled_bootstrapRespondInner (kp : Blob M) (rnd : Nat -> M.Seed) :
    Unstapled (bootstrapRespondInner kp rnd) := by
  unfold bootstrapRespondInner
  refine Op.Writes.bind (unstapled_trackPskStores fun s => s.client) fun _ => ?_
  refine Op.Writes.looking (Op.Still.ofExcept _) fun founding => ?_
  refine Op.Writes.bind (Op.Writes.update fun _ _ _ => rfl) fun _ => ?_
  refine Op.Writes.bind (unstapled_createDeferredPqHalf kp rnd) fun welcome => ?_
  exact Op.Writes.bind (Unstapled.mapRound _)
    fun _ => unstapled_recordPqHeaderKeyPostCommit

theorem unstapled_bootstrapBindInner (welcome : Blob M) (seed : M.Seed) :
    Unstapled (bootstrapBindInner welcome seed) := by
  unfold bootstrapBindInner
  refine Op.Writes.bind (unstapled_trackPskStores fun s => s.client) fun _ => ?_
  refine Op.Writes.looking (still_joinDeferredPqHalf welcome) fun pq => ?_
  refine Op.Writes.bind (unstapled_pastNoReturn _ ?_)
    fun _ => unstapled_recordPqHeaderKeyPostCommit
  refine Op.Writes.bind (Op.Writes.update fun _ _ _ => rfl) fun _ => ?_
  refine Op.Writes.bind unstapled_exportCrossFromRecvPq fun exported => ?_
  exact Op.Writes.bind (unstapled_commitPqAndOweBind _ _)
    fun _ => Op.Writes.update fun _ _ _ => rfl

/-!
### Messages
-/

theorem unstapled_validateOfferedUpdate (proposal : Blob M) (proposing : Bytes) :
    Unstapled (validateOfferedUpdate proposal proposing) :=
  Unstapled.ofTouches (touches_validateOfferedUpdate proposal proposing) (by decide)
    (by decide)

theorem unstapled_rewrapSideBand (seed : M.Seed) :
    Unstapled (rewrapSideBand seed : SessionOp M Unit) :=
  Unstapled.ofTouches (touches_rewrapSideBand seed) (by decide) (by decide)

theorem unstapled_recordListenRendezvous :
    Unstapled (recordListenRendezvous : SessionOp M Unit) :=
  Unstapled.ofTouches touches_recordListenRendezvous (by decide) (by decide)

theorem unstapled_encryptInner (appMessage : Bytes) (rnd : Nat -> M.Seed) :
    Unstapled (encryptInner appMessage rnd) := by
  unfold encryptInner
  refine Op.Writes.looking still_ensureEstablishmentDelegated fun _ => ?_
  refine Op.Writes.looking Op.Still.state fun s => ?_
  refine Op.Writes.looking (Op.Still.ofOption _ _) fun proposalHash => ?_
  dsimp only
  refine Op.Writes.bind (Unstapled.mapMsg (fun _ _ => rfl) fun _ _ => rfl) fun _ => ?_
  refine Op.Writes.looking (Op.Still.ensure _ _) fun _ => ?_
  refine Op.Writes.bind (Unstapled.callHalf _ _ _ _) fun message => ?_
  refine Op.Writes.looking (Op.Still.ofExcept _) fun app => ?_
  refine Op.Writes.looking Op.Still.state fun s => ?_
  refine Op.Writes.looking (Op.Still.ofOption _ _) fun send => ?_
  refine Op.Writes.looking (still_composeFrame _ _ _) fun cipherText => ?_
  refine Op.Writes.bind (unstapled_rewrapSideBand _) fun _ => ?_
  refine Op.Writes.bind ?_ fun _ => Op.Writes.value _
  exact Unstapled.ofTouches (touches_maybeStageNextRound _) (by decide) (by decide)

theorem unstapled_queueProposalInner (digest : Bytes) :
    Unstapled (queueProposalInner digest : SessionOp M Unit) := by
  unfold queueProposalInner
  refine Op.Writes.looking Op.Still.state fun s => ?_
  refine Op.Writes.looking (Op.Still.ofOption _ _) fun offered => ?_
  refine Op.Writes.bind (Unstapled.mapMsg (fun _ _ => rfl) fun _ _ => rfl) fun _ => ?_
  apply Op.Writes.ite
  · refine Op.Writes.bind (Unstapled.mapMsg (fun _ _ => rfl) fun _ _ => rfl) fun _ => ?_
    exact Op.Writes.fail _
  · refine Op.Writes.bind (unstapled_validateOfferedUpdate _ _).attempt fun validated => ?_
    split
    · exact Op.Writes.update fun _ _ _ => rfl
    · refine Op.Writes.bind (Unstapled.mapMsg (fun _ _ => rfl) fun _ _ => rfl)
        fun _ => ?_
      exact Op.Writes.fail _

theorem unstapled_stageSelfUpdate (selected : Option Bytes) (rnd : Nat -> M.Seed) :
    Unstapled (stageSelfUpdate selected rnd) := by
  unfold stageSelfUpdate
  refine Op.Writes.bind (Unstapled.ofTouches (touches_selectCandidate _ _) (by decide)
    (by decide)) fun selected => ?_
  refine Op.Writes.looking (still_proposingClient _) fun candidate => ?_
  refine Op.Writes.bind ?_ fun proposal => ?_
  · unfold proposeSelfUpdate
    refine Op.Writes.looking (still_readHalf _ _) fun recv => ?_
    refine Op.Writes.looking (Op.Still.ofExcept _) fun leafId => ?_
    refine Op.Writes.looking Op.Still.state fun s => ?_
    refine Op.Writes.bind (Unstapled.callHalf _ _ _ _) fun proposal => ?_
    exact Unstapled.still (Op.Still.ofExcept _)
  · refine Op.Writes.bind (Unstapled.mapMsg (fun _ _ => rfl) fun _ _ => rfl) fun _ => ?_
    exact Op.Writes.value _

theorem unstapled_processWelcome (welcome : WelcomeBytes M)
    (establishment : WelcomeEstablishment) :
    Unstapled (processWelcome welcome establishment) := by
  unfold processWelcome
  dsimp only
  refine Op.Writes.looking Op.Still.state fun s => ?_
  apply Op.Writes.ite
  · exact Unstapled.still (Op.Still.ensure _ _)
  refine Op.Writes.bind (unstapled_trackPskStores fun s => s.client) fun _ => ?_
  refine Op.Writes.bind (Unstapled.ofTouches (touches_injectSendPsksIf _) (by decide)
    (by decide)) fun _ => ?_
  refine Op.Writes.looking (Op.Still.ofOption _ _) fun w => ?_
  refine Op.Writes.looking (Op.Still.ofExcept _) fun _ => ?_
  refine Op.Writes.bind (Unstapled.services _) fun _ => ?_
  refine Op.Writes.bind (Unstapled.ofTouches (touches_joinWelcome w) (by decide)
    (by decide)).attempt fun joined => ?_
  refine Op.Writes.bind (Unstapled.services _) fun _ => ?_
  refine Op.Writes.looking (Op.Still.ofExcept _) fun recv => ?_
  refine Op.Writes.looking (still_readHalf _ _) fun send => ?_
  refine Op.Writes.looking (Op.Still.ofExcept _) fun ownBinding => ?_
  refine Op.Writes.looking (Op.Still.ofExcept _) fun _ => ?_
  refine Op.Writes.looking (Op.Still.ofExcept _) fun _ => ?_
  refine Op.Writes.looking (Op.Still.ofExcept _) fun creatorId => ?_
  refine Op.Writes.looking Op.Still.state fun s => ?_
  refine Op.Writes.looking (Op.Still.ofExcept _) fun _ => ?_
  exact Op.Writes.update fun _ _ _ => rfl

theorem unstapled_joinReporting (welcome : WelcomeBytes M)
    (establishment : WelcomeEstablishment) :
    Unstapled (joinReporting welcome establishment) := by
  unfold joinReporting
  refine Op.Writes.looking Op.Still.state fun before => ?_
  refine Op.Writes.bind (unstapled_processWelcome _ _) fun _ => ?_
  exact Op.Writes.looking Op.Still.state fun after => Op.Writes.value _

theorem unstapled_recordOffer (section_ : ProposalSection M) (sender groupId : Bytes) :
    Unstapled (recordOffer section_ sender groupId) := by
  unfold recordOffer
  refine Op.Writes.looking (Op.Still.ofOption _ _) fun offer => ?_
  refine Op.Writes.bind ?_ fun _ => ?_
  · unfold noteWatermark
    refine Op.Writes.looking Op.Still.state fun s => ?_
    split
    · exact Op.Writes.value ()
    · dsimp only
      refine Op.Writes.ite (Op.Writes.value ()) ?_
      refine Op.Writes.bind (unstapled_validateOfferedUpdate _ _).attempt
        fun validated => ?_
      split
      · exact Unstapled.mapMsg (fun _ _ => rfl) fun _ _ => rfl
      · exact Op.Writes.value ()
  · refine Op.Writes.bind (Unstapled.mapMsg (fun _ _ => rfl) fun _ _ => rfl) fun _ => ?_
    exact Op.Writes.value _

theorem unstapled_decryptApp (app : M.Message) : Unstapled (decryptApp app) :=
  Unstapled.ofTouches (touches_decryptApp app) (by decide) (by decide)

theorem unstapled_processMessageBody (outcome : StapleOutcome)
    (proposal : ProposalSection M) (app : M.Message) :
    Unstapled (processMessageBody outcome proposal app) := by
  unfold processMessageBody
  refine Op.Writes.bind (Unstapled.confined (W := [.services, .rotation])
    (confined_noteNewSender _ (by decide) (by decide)) (by decide) (by decide))
    fun _ => ?_
  refine Op.Writes.bind (Unstapled.ofTouches (touches_noteCanonicalizedOwn _) (by decide)
    (by decide)) fun _ => ?_
  refine Op.Writes.bind (unstapled_decryptApp app) fun received => ?_
  refine Op.Writes.looking (still_readHalf _ _) fun send => ?_
  refine Op.Writes.bind (unstapled_recordOffer _ _ _) fun offered => ?_
  exact Op.Writes.looking Op.Still.state fun s => Op.Writes.value _

theorem unstapled_applyIfCurrent (commit : Option M.Message)
    {apply : M.Message -> SessionOp M LeafChanges}
    (happly : forall m, Unstapled (apply m)) : Unstapled (applyIfCurrent commit apply) := by
  unfold applyIfCurrent
  refine Op.Writes.looking (Op.Still.ofOption _ _) fun message => ?_
  refine Op.Writes.looking Op.Still.state fun s => ?_
  refine Op.Writes.looking (Op.Still.ofExcept _) fun action => ?_
  split
  · exact Op.Writes.value _
  · exact Op.Writes.bind (happly message) fun moved => Op.Writes.value _

theorem unstapled_applyStaple (message : M.Message) :
    Unstapled (applyCommitStaple message) :=
  Unstapled.ofTouches (touches_applyCommitStaple message) (by decide) (by decide)

theorem unstapled_processStaple (staple : Staple M)
    (approval : Option EstablishmentApproval) :
    Unstapled (processStaple staple approval) := by
  unfold processStaple
  refine Op.Writes.looking Op.Still.state fun s => ?_
  split
  · exact Op.Writes.fail _
  · apply Op.Writes.ite
    · split
      · exact Op.Writes.value _
      · exact Op.Writes.bind (unstapled_joinReporting _ _) fun outcome => Op.Writes.value _
    · exact Op.Writes.bind (unstapled_processWelcome _ _) fun _ => Op.Writes.value _
  · exact Op.Writes.bind (unstapled_joinReporting _ _) fun outcome => Op.Writes.value _
  · exact Op.Writes.fail _
  · refine Op.Writes.bind (unstapled_applyIfCurrent _ fun _ =>
      Unstapled.ofTouches (touches_applyBindStaple _ _) (by decide) (by decide))
      fun outcome => Op.Writes.value _
  · refine Op.Writes.bind (unstapled_applyIfCurrent _ unstapled_applyStaple)
      fun outcome => Op.Writes.value _

theorem unstapled_processIncomingInner (frame : Frame M)
    (approval : Option EstablishmentApproval) :
    Unstapled (processIncomingInner frame approval) := by
  have hstandalone : forall w e, Unstapled (joinStandalone (M := M) w e) := by
    intro w e
    unfold joinStandalone
    refine Op.Writes.bind (unstapled_joinReporting _ _) fun outcome => ?_
    refine Op.Writes.looking Op.Still.state fun s => ?_
    split
    · exact Op.Writes.value _
    · exact Op.Writes.value _
  unfold processIncomingInner
  refine Op.Writes.looking Op.Still.state fun s => ?_
  refine Op.Writes.looking (Op.Still.ensure _ _) fun _ => ?_
  split
  · exact Op.Writes.fail _
  · apply Op.Writes.ite
    · exact Op.Writes.bind (unstapled_processWelcome _ _) fun _ => Op.Writes.value _
    · split
      · exact Op.Writes.value _
      · exact hstandalone _ _
  · exact hstandalone _ _
  · exact Op.Writes.fail _
  · unfold processMessage
    refine Op.Writes.looking (Op.Still.ofOption _ _) fun appMessage => ?_
    refine Op.Writes.bind (unstapled_processStaple _ _) fun outcome => ?_
    split
    · exact Op.Writes.value _
    · exact Op.Writes.value _
    · exact Op.Writes.bind (unstapled_processMessageBody _ _ _) fun result =>
        Op.Writes.value _
  · refine Op.Writes.looking (Op.Still.ofOption _ _) fun appMessage => ?_
    exact Op.Writes.bind (unstapled_decryptApp _) fun received => Op.Writes.value _
  · exact Op.Writes.fail _
  · exact Op.Writes.fail _

theorem unstapled_encodeBlob (kind : BlobKind) :
    Unstapled (encodeBlob kind : SessionOp M (Archive M)) :=
  Unstapled.ofTouches (touches_encodeBlob kind) (by decide) (by decide)

theorem unstapled_handOut (stable : Bool) :
    Unstapled (handOut stable : SessionOp M (Option (SideBand M))) :=
  Unstapled.ofTouches (touches_handOut stable) (by decide) (by decide)

theorem unstapled_recordPqHeaderKey :
    Unstapled (recordPqHeaderKey : SessionOp M Unit) :=
  Unstapled.ofTouches touches_recordPqHeaderKey (by decide) (by decide)

/-!
## The steps of the staple
-/

theorem tab_same {s s' : SessionInner M} (hsame : s'.stapling () = s.stapling ()) :
    s'.tab = { s.tab with epoch := s'.tab.epoch } := by
  unfold SessionInner.stapling at hsame
  injection hsame with hstaple hrest
  injection hrest with hstamp hcounter
  unfold SessionInner.tab
  rw [hstaple, hstamp, hcounter]

theorem tab_later {s s' : SessionInner M}
    (hsame : s'.stapling () = s.stapling ())
    (hlater : Later (s.epoch .sendClassical) (s'.epoch .sendClassical)) :
    TabStep s.tab s'.tab := by
  rw [tab_same hsame]
  exact TabStep.advance hlater

theorem keeps_since {x : SessionOp M α} (hx : Unstapled x) (hclocks : Tidy x)
    (b : Tab M) : Op.Keeps (Since b) x := by
  intro s hs
  exact hs.tail (tab_later (hx s () List.not_mem_nil)
    ((hclocks s).later .sendClassical))

/-!
### A classical commit
-/

def MadeNow (b : Tab M) (m : M.Message) (s : SessionInner M) : Prop :=
  Since b s ∧ M.messageEpoch m = s.epoch .sendClassical

def Committing (b : Tab M) (m : M.Message) (s : SessionInner M) : Prop :=
  exists t made, TabPath b t ∧ t.epoch = some made ∧ M.messageEpoch m = some made ∧
    s.tab = { t with epoch := s.tab.epoch } ∧ Later (some (made + 1)) s.tab.epoch

theorem Committing.since {b : Tab M} {m : M.Message} {s : SessionInner M}
    (h : Committing b m s) : Since b s := by
  rcases h with ⟨t, made, hpath, hnow, _, hsame, hlater⟩
  have hpast : Later t.epoch s.tab.epoch := by
    have hnext : Later (some made) (some (made + 1)) := Nat.le_succ made
    rw [hnow]
    exact hnext.trans hlater
  unfold Since
  rw [hsame]
  exact hpath.tail (TabStep.advance hpast)

theorem keeps_committing {x : SessionOp M α} (hx : Unstapled x) (hclocks : Tidy x)
    (b : Tab M) (m : M.Message) : Op.Keeps (Committing b m) x := by
  rintro s ⟨t, made, hpath, hnow, hmessage, hsame, hlater⟩
  refine ⟨t, made, hpath, hnow, hmessage, ?_,
    hlater.trans ((hclocks s).later .sendClassical)⟩
  calc (x.run s).2.tab
      = { s.tab with epoch := (x.run s).2.tab.epoch } :=
        tab_same (hx s () List.not_mem_nil)
    _ = { t with epoch := (x.run s).2.tab.epoch } := by rw [hsame]

theorem Committing.staple {b : Tab M} {m : M.Message} {s s' : SessionInner M}
    {staple : Staple M} (h : Committing b m s)
    (hcarries : forall made, M.messageEpoch m = some made -> StaplesCommit made staple)
    (htab : s'.tab = { s.tab with staple := some staple, stamp := s.stateSeq }) :
    Since b s' := by
  rcases h with ⟨t, made, hpath, hnow, hmessage, hsame, hlater⟩
  have hcounter : s.stateSeq = t.counter := congrArg Tab.counter hsame
  unfold Since
  rw [htab, hsame, hcounter]
  exact hpath.tail (TabStep.commit hnow hlater (hcarries made hmessage))

theorem staplesCommit_stapleOf {m : M.Message} {clCommit : Blob M} {made : Nat}
    (owed : Option (DischargedBind M)) (hparsed : clCommit.parsed = some m)
    (hmessage : M.messageEpoch m = some made) :
    StaplesCommit made (stapleOf clCommit owed) := by
  refine ⟨clCommit, m, hparsed, hmessage, ?_⟩
  cases owed with
  | none => exact Or.inl rfl
  | some o => exact Or.inr ⟨o.pqCommit, rfl⟩

section

variable (L : Lawful M)
include L

theorem since_buildCommit (missing : TwoMlsPqError) (err : MlsError -> TwoMlsPqError)
    (request : CommitRequest M.Message M.Signer) (seed : M.Seed) (b : Tab M) :
    Op.Triple (Since b)
      (callHalf .sendClassical missing err fun env => M.buildCommit env request seed)
      (fun out => MadeNow b out.commitMessage) fun _ => Since b := by
  intro s hs
  have hkept := keeps_since (Unstapled.callHalf _ missing err _)
    (tidy_build L .sendClassical missing err request seed) b s hs
  split
  next out hrun =>
    refine ⟨hkept, ?_⟩
    rcases callHalf_ok (Prod.ext hrun rfl) with ⟨env, g, held, hbuilt, hcore⟩
    have hepoch : ((callHalf .sendClassical missing err fun env =>
        M.buildCommit env request seed).run s).2.epoch .sendClassical =
          some (M.currentEpoch g) := by
      refine (tab_epoch _).trans ?_
      rw [hcore]
      unfold Core.epoch
      rw [Core.half_setHalf, Option.map_some, (L.build env request seed g).epoch]
    rw [hepoch]
    exact (L.buildMessage env request seed g out hbuilt).1
  next => exact hkept

theorem since_applyCommit (missing : TwoMlsPqError) (err : MlsError -> TwoMlsPqError)
    (b : Tab M) (m : M.Message) :
    Op.Triple (MadeNow b m)
      (callHalf .sendClassical missing err M.applyPendingCommit)
      (fun _ => Committing b m) fun _ => Since b := by
  rintro s ⟨hs, hmessage⟩
  have hquiet : Unstapled (callHalf .sendClassical missing err M.applyPendingCommit) :=
    Unstapled.callHalf _ _ _ _
  split
  next hrun =>
    rcases callHalf_ok (Prod.ext hrun rfl) with ⟨env, g, held, happlied, hcore⟩
    rcases L.applyOk env g happlied with ⟨_, _, hcommit⟩
    have hbefore : s.epoch .sendClassical = some (M.currentEpoch g) := by
      unfold SessionInner.epoch
      rw [held]
      rfl
    refine ⟨s.tab, M.currentEpoch g, hs, hbefore, hmessage.trans hbefore,
      tab_same (hquiet s () List.not_mem_nil), ?_⟩
    rw [tab_epoch, hcore]
    unfold Core.epoch
    rw [Core.half_setHalf, Option.map_some, hcommit.epoch]
    exact le_refl _
  next =>
    exact keeps_since hquiet (tidy_applyPending L _ _ _) b s hs

theorem since_dischargeAndCommit (folded : Option (PeerProposal M))
    (crossPsk : Option ExportedPsk) (handoff : Option (M.Signer × Bytes))
    (seed : M.Seed) (b : Tab M) :
    Op.Keeps (Since b) (dischargeAndCommit folded crossPsk handoff seed) := by
  have hcommitting : forall {γ : Type} {x : SessionOp M γ} (m : M.Message),
      Unstapled x -> Tidy x ->
        Op.Triple (Committing b m) x (fun _ => Committing b m) fun _ => Since b :=
    fun m hx hclocks => (Op.Triple.ofKeeps (keeps_committing hx hclocks b m)).weaken
      (fun _ _ h => h) fun _ _ h => h.since
  intro s hs
  refine Op.Triple.always (I := Since b) ?_ hs
  unfold dischargeAndCommit
  refine Op.Triple.bind (Op.Triple.ofKeeps (keeps_since
    (Unstapled.ofTouches touches_dischargeOwedBind (by decide) (by decide))
    (tidy_dischargeOwedBind L) b)) fun owed => ?_
  refine Op.Triple.bind (since_buildCommit L _ _ _ _ b) fun output => ?_
  refine Op.Triple.bind (since_applyCommit L _ _ b output.commitMessage) fun _ => ?_
  refine Op.Triple.looking (still_readHalf _ _) (fun _ _ h => h.since) fun send => ?_
  refine Op.Triple.looking (Op.Still.ofExcept _) (fun _ _ h => h.since) fun _ => ?_
  refine Op.Triple.bind (hcommitting _ (Unstapled.confined (W := [.services])
    (confined_forgetConsumed _ _ (by decide)) (by decide) (by decide))
    (Tidy.confined (W := [.services]) (confined_forgetConsumed _ _ (by decide)) rfl))
    fun _ => ?_
  refine Op.Triple.bind (hcommitting _ (Unstapled.confined (W := [.services, .rotation])
    (confined_canonicalizeFold _ (by decide) (by decide)) (by decide) (by decide))
    (Tidy.confined (W := [.services, .rotation])
      (confined_canonicalizeFold _ (by decide) (by decide)) rfl)) fun _ => ?_
  refine Op.Triple.bind (hcommitting _ unstapled_rememberSendPsk (tidy_rememberSendPsk L))
    fun _ => ?_
  refine Op.Triple.bind (Q := fun clCommit s => clCommit.parsed = some output.commitMessage ∧
    Committing b output.commitMessage s) ?_ fun clCommit => ?_
  · intro s hs
    cases hblob : orError TwoMlsPqError.mls (Blob.ofMessage output.commitMessage) with
    | error e => exact hs.since
    | ok clCommit => exact ⟨parsed_ofMessage hblob, hs⟩
  · refine Op.Triple.update ?_
    rintro s ⟨hparsed, hs⟩
    exact hs.staple (fun made hmade => staplesCommit_stapleOf owed hparsed hmade) rfl

theorem since_commitRound (folded : Option (PeerProposal M)) (seed : M.Seed)
    (b : Tab M) : Op.Keeps (Since b) (commitRound folded seed) := by
  unfold commitRound
  refine Op.Keeps.bind (keeps_since unstapled_rememberSendPsk (tidy_rememberSendPsk L) b)
    fun _ => ?_
  refine Op.Keeps.bind (keeps_since (Unstapled.ofTouches touches_crossPskForCommit
    (by decide) (by decide)) (tidy_crossPskForCommit L) b) fun crossPsk => ?_
  refine Op.Keeps.looking still_handoffForCommit fun handoff => ?_
  refine Op.Keeps.bind (keeps_since (Unstapled.ofTouches (touches_refold folded)
    (by decide) (by decide)) (tidy_refold L folded) b) fun _ => ?_
  refine Op.Keeps.looking Op.Still.state fun s => ?_
  exact (since_dischargeAndCommit L _ _ _ _ b).mapError

theorem since_prepareToEncryptInner (proposing : Option Bytes) (rnd : Nat -> M.Seed)
    (b : Tab M) : Op.Keeps (Since b) (prepareToEncryptInner proposing rnd) := by
  unfold prepareToEncryptInner
  refine Op.Keeps.looking still_ensureEstablishmentDelegated fun _ => ?_
  refine Op.Keeps.looking Op.Still.state fun s => ?_
  refine Op.Keeps.bind ?_ fun result => ?_
  · apply Op.Keeps.ite
    · refine keeps_since ?_
        (Untold.ofTouches (touches_preparePreEstablishment _) rfl).tidy b
      unfold preparePreEstablishment
      refine Op.Writes.looking (Op.Still.ensure _ _) fun _ => ?_
      refine Op.Writes.looking Op.Still.state fun s => ?_
      refine Op.Writes.looking (Op.Still.ensure _ _) fun _ => ?_
      refine Op.Writes.looking (Op.Still.ofOption _ _) fun welcome => ?_
      dsimp only
      refine Op.Writes.bind (Unstapled.mapMsg (fun _ _ => rfl) fun _ _ => rfl)
        fun _ => ?_
      exact Op.Writes.value _
    · unfold prepareRatchetCommit
      refine Op.Keeps.looking Op.Still.state fun s => ?_
      dsimp only
      refine Op.Keeps.bind (keeps_since (Unstapled.mapMsg (fun _ _ => rfl)
        fun _ _ => rfl) (Tidy.mapMsg _) b) fun _ => ?_
      refine Op.Keeps.looking still_peerAppliedOurSendEpoch fun licensed => ?_
      refine Op.Keeps.bind ?_ fun _ => ?_
      · exact Op.Keeps.ite (since_commitRound L _ _ b) (Op.Keeps.value ())
      refine Op.Keeps.bind (keeps_since (unstapled_stageSelfUpdate _ _)
        (tidy_stageSelfUpdate L _ _) b) fun proposal => ?_
      exact Op.Keeps.looking Op.Still.state fun s => Op.Keeps.value _
  refine Op.Keeps.bind (keeps_since unstapled_recordListenRendezvous
    (tidy_recordListenRendezvous L) b) fun _ => ?_
  exact Op.Keeps.bind (keeps_since (unstapled_rewrapSideBand _) (tidy_rewrapSideBand L _) b)
    fun _ => Op.Keeps.value _

end

/-!
### Envelopes
-/

theorem stapledWelcome_staple {s : SessionInner M} {welcome : WelcomeBytes M}
    (h : stapledWelcome s = some welcome) :
    s.msg.currentStaple = some (.welcome welcome) := by
  unfold stapledWelcome at h
  split at h
  next w hstaple =>
    rw [Option.some.inj h] at hstaple
    exact hstaple
  next => cases h

theorem since_installEnvelopeInner (envelope : Bytes) (b : Tab M) :
    Op.Keeps (Since b) (installEnvelopeInner envelope : SessionOp M Unit) := by
  intro s₀ hs₀
  refine Op.Triple.always (I := Since b) ?_ hs₀
  unfold installEnvelopeInner
  refine Op.Triple.reading fun s hs => ?_
  have hsince : forall s', s' = s -> Since b s' := fun _ h => h ▸ hs
  refine Op.Triple.looking (Op.Still.ensure _ _) (fun _ => hsince) fun _ => ?_
  split
  · exact (Op.Triple.keptBy (Op.Still.ensure _ _) fun _ => hsince).post fun _ => hsince
  · cases hwelcome : stapledWelcome s with
    | none => exact Op.Triple.failing hsince
    | some welcome =>
        refine Op.Triple.present ?_
        refine Op.Triple.update fun s' hs' => ?_
        subst hs'
        exact hs.tail (TabStep.wrap (stapledWelcome_staple hwelcome))

theorem since_initialFieldBody (apply : EstablishmentState M -> EstablishmentState M)
    (seed : M.Seed) (b : Tab M) : Op.Keeps (Since b) (initialFieldBody apply seed) := by
  unfold initialFieldBody
  refine Op.Keeps.looking Op.Still.state fun s => ?_
  refine Op.Keeps.looking (Op.Still.ensure _ _) fun _ => ?_
  refine Op.Keeps.bind (Op.Keeps.update fun _ h => h) fun _ => ?_
  refine Op.Keeps.looking (still_composeInitialEnvelope _ _) fun envelope => ?_
  exact Op.Keeps.update fun s hs => hs.tail TabStep.restamp

/-!
## Bodies
-/

section

variable (L : Lawful M)
include L

theorem bodies_since (b : Tab M) : Bodies (Since (M := M) b) := by
  have hguarded : forall {γ δ : Type} {guard : SessionOp M δ} {admitted : δ -> Prop}
      {body : δ -> SessionOp M γ}, (forall d, Unstapled (body d)) ->
        (forall d, Tidy (body d)) -> Warded (Since b) guard admitted body :=
    fun hbody hclocks => Warded.ofKeeps fun d => keeps_since (hbody d) (hclocks d) b
  exact
    { encodes := fun kind => keeps_since (unstapled_encodeBlob kind)
        (tidy_encodeBlob L kind) b
      taken := fun _ hs => hs
      takenSideBand := fun _ hs => hs
      handsOut := fun stable => keeps_since (unstapled_handOut stable)
        (Untold.ofTouches (touches_handOut stable) rfl).tidy b
      listens := keeps_since unstapled_recordListenRendezvous
        (tidy_recordListenRendezvous L) b
      listensPq := keeps_since unstapled_recordPqHeaderKey tidy_recordPqHeaderKey b
      receives := fun frame approval => keeps_since
        (unstapled_processIncomingInner frame approval)
        (tidy_processIncomingInner L frame approval) b
      installs := fun envelope => since_installEnvelopeInner envelope b
      attaches := fun payload seed => since_initialFieldBody _ seed b
      attachesKp := fun kp seed => since_initialFieldBody _ seed b
      prepares := fun proposing rnd => since_prepareToEncryptInner L proposing rnd b
      encrypts := fun appMessage rnd => keeps_since (unstapled_encryptInner appMessage rnd)
        (tidy_encryptInner L appMessage rnd) b
      queues := fun digest => keeps_since (unstapled_queueProposalInner digest)
        (tidy_queueProposalInner L digest) b
      exportsSend := keeps_since (Unstapled.ofTouches touches_sendAttachmentComponent
        (by decide) (by decide)) (tidy_sendAttachmentComponent L) b
      exportsRecv := fun epoch => keeps_since (Unstapled.ofTouches
        (touches_recvAttachmentComponent epoch) (by decide) (by decide))
        (tidy_recvAttachmentComponent L epoch) b
      respondsRatchet := fun _ rnd => hguarded
        (fun leg => Unstapled.ofTouches (touches_ratchetRespondInner leg rnd)
          (by decide) (by decide)) fun leg => tidy_ratchetRespondInner L leg rnd
      bindsRatchet := fun _ seed => hguarded
        (fun opened => unstapled_ratchetBindInner opened.1 opened.2 seed)
        fun opened => tidy_ratchetBindInner L opened.1 opened.2 seed
      respondsRekey := fun _ seed => hguarded
        (fun proposal => unstapled_rekeyRespondInner proposal seed)
        fun proposal => tidy_rekeyRespondInner L proposal seed
      appliesRekey := fun _ seed => hguarded
        (fun commit => unstapled_rekeyApplyInner commit seed)
        fun commit => tidy_rekeyApplyInner L commit seed
      begins := fun _ => hguarded (fun _ => unstapled_bootstrapBeginInner)
        fun _ => tidy_bootstrapBeginInner
      envelopes := fun seed => hguarded (fun _ => unstapled_bootstrapEnvelopeInner seed)
        fun _ => tidy_bootstrapEnvelopeInner seed
      respondsBootstrap := fun _ rnd => hguarded
        (fun kp => unstapled_bootstrapRespondInner kp rnd)
        fun kp => tidy_bootstrapRespondInner kp rnd
      bindsBootstrap := fun _ seed => hguarded
        (fun welcome => unstapled_bootstrapBindInner welcome seed)
        fun welcome => tidy_bootstrapBindInner L welcome seed }

theorem Moved.tab {s s' : SessionInner M} (h : Moved s s') : TabPath s.tab s'.tab :=
  h (Since s.tab) (bodies_since L s.tab) Relation.ReflTransGen.refl

omit L in
theorem unbumped_ofUnstapled {J : SessionInner M -> Prop}
    (h : forall s s', Moved s s' -> s'.stapling () = s.stapling () -> J s -> J s') :
    Unbumped J := by
  have hkeeps : forall {γ : Type} {x : SessionOp M γ}, Unstapled x ->
      (forall I : SessionInner M -> Prop, Bodies I -> Op.Keeps I x) -> Op.Keeps J x :=
    fun hx hbodies s hs => h s _ (fun I hI hIs => hbodies I hI s hIs)
      (hx s () List.not_mem_nil) hs
  exact
    { encodes := fun kind => hkeeps (unstapled_encodeBlob kind) fun _ hI => hI.encodes kind
      taken := fun s hs => h s _ (fun _ hI hIs => hI.taken s hIs) rfl hs
      takenSideBand := fun s hs => h s _ (fun _ hI hIs => hI.takenSideBand s hIs) rfl hs
      handsOut := fun stable => hkeeps (unstapled_handOut stable)
        fun _ hI => hI.handsOut stable
      listens := hkeeps unstapled_recordListenRendezvous fun _ hI => hI.listens
      listensPq := hkeeps unstapled_recordPqHeaderKey fun _ hI => hI.listensPq
      receives := fun frame approval => hkeeps
        (unstapled_processIncomingInner frame approval)
        fun _ hI => hI.receives frame approval }

end

end

end Session
end TwoMlsPq
