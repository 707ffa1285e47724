import TwoMlsPq.Session.Encodes
import TwoMlsPq.Session.Restarts

/-!
# What is archived can be opened

Every body keeps the shape that a restore checks, so at every moment of a life
the archive of the session can be written and opened again.
-/

namespace TwoMlsPq
namespace Session

open Foundation Apq

section

variable {M : MlsRs} {α : Type} {spent : Bool}

theorem Sound.sameParts {s s' : SessionInner M} (h : Sound spent s)
    (sendGroup : s'.sendGroup.isSome = s.sendGroup.isSome)
    (ledger : s'.ledger = s.ledger) (msg : s'.msg = s.msg)
    (round : s'.round = s.round) : Sound spent s' where
  sendGroup := sendGroup.trans h.sendGroup
  sendPsks := by rw [ledger]; exact h.sendPsks
  sendAttachments := by rw [ledger]; exact h.sendAttachments
  recvAttachments := by rw [ledger]; exact h.recvAttachments
  addresses := by rw [ledger]; exact h.addresses
  headerKeys := by rw [ledger]; exact h.headerKeys
  headerKeysPq := by rw [ledger]; exact h.headerKeysPq
  hash := by rw [msg]; exact h.hash
  offered := by rw [msg]; exact h.offered
  queued := by rw [msg]; exact h.queued
  welcome := by rw [msg]; exact h.welcome
  staple := by rw [msg]; exact h.staple
  bootstrap := by rw [round]; exact h.bootstrap
  initiated := by rw [round]; exact h.initiated
  handedOut := by rw [round]; exact h.handedOut
  commitment := by rw [round]; exact h.commitment
  responder := by rw [round]; exact h.responder

theorem isSome_sendClassical (s : SessionInner M) :
    (s.half .sendClassical).isSome = s.sendGroup.isSome :=
  Option.isSome_map

theorem isSome_ofEpoch {s s' : SessionInner M}
    (h : s'.epoch .sendClassical = s.epoch .sendClassical) :
    s'.sendGroup.isSome = s.sendGroup.isSome := by
  have hsome := congrArg Option.isSome h
  unfold SessionInner.epoch at hsome
  rw [Option.isSome_map, Option.isSome_map] at hsome
  rw [isSome_sendClassical, isSome_sendClassical] at hsome
  exact hsome

theorem sound_ofTouches {W : List Slot} {x : SessionOp M α} (hx : Touches W x)
    (hW : forall slot, slot ∈ [Slot.half .sendClassical, .ledger, .msg, .round] ->
      slot ∉ W) :
    Op.Keeps (Sound spent) x := by
  have hkept : forall slot, slot ∈ [Slot.half .sendClassical, .ledger, .msg, .round] ->
      forall s : SessionInner M, (x.run s).2.read slot = s.read slot :=
    fun slot hslot s => hx s slot (hW slot hslot)
  intro s hs
  apply hs.sameParts
  · rw [← isSome_sendClassical, ← isSome_sendClassical]
    exact congrArg Option.isSome (hkept (.half .sendClassical) (by simp) s)
  · exact hkept .ledger (by simp) s
  · exact hkept .msg (by simp) s
  · exact hkept .round (by simp) s

/-!
## Welcomes
-/

theorem Sound.trackPskStores {s : SessionInner M} (hs : Sound spent s)
    (client : TwoMlsPqPrincipal M) : Sound spent (trackPskStores client s) := by
  unfold Session.trackPskStores
  split
  · exact hs
  · exact { hs with }

theorem sound_joinWelcome (w : ApqWelcome M) :
    Op.Keeps (Sound spent) (joinWelcome w) := by
  apply sound_ofTouches (touches_joinWelcome w)
  simp

section

variable (T : Dependable M)

include T

theorem Sound.adopts {s : SessionInner M} (hs : Sound spent s) (recv : CombinerGroup M)
    (creatorId bytes : Bytes) :
    Sound spent (adoptRecvGroup recv creatorId (M.sha256 bytes) s) :=
  { hs with welcome := digestOk_sha256 T _ }

theorem sound_processWelcome (welcome : WelcomeBytes M)
    (establishment : WelcomeEstablishment) :
    Op.Keeps (Sound spent) (processWelcome welcome establishment) := by
  unfold processWelcome
  refine Op.Keeps.looking Op.Still.state fun s => ?_
  apply Op.Keeps.ite
  · exact Op.Keeps.still (Op.Still.ensure _ _)
  refine Op.Keeps.bind (Op.Keeps.update fun s hs => hs.trackPskStores _) fun _ => ?_
  refine Op.Keeps.bind (keeps_injectSendPsksIf _) fun _ => ?_
  refine Op.Keeps.looking (Op.Still.ofOption _ _) fun w => ?_
  refine Op.Keeps.looking (Op.Still.ofExcept _) fun _ => ?_
  refine Op.Keeps.bind (Op.Keeps.update fun s hs => { hs with }) fun _ => ?_
  refine Op.Keeps.bind (sound_joinWelcome w).attempt fun joined => ?_
  refine Op.Keeps.bind (Op.Keeps.update fun s hs => { hs with }) fun _ => ?_
  refine Op.Keeps.looking (Op.Still.ofExcept _) fun recv => ?_
  refine Op.Keeps.looking (still_readHalf _ _) fun send => ?_
  refine Op.Keeps.looking (Op.Still.ofExcept _) fun ownBinding => ?_
  refine Op.Keeps.looking (Op.Still.ofExcept _) fun _ => ?_
  refine Op.Keeps.looking (Op.Still.ofExcept _) fun _ => ?_
  refine Op.Keeps.looking (Op.Still.ofExcept _) fun creatorId => ?_
  refine Op.Keeps.looking Op.Still.state fun s => ?_
  refine Op.Keeps.looking (Op.Still.ofExcept _) fun _ => ?_
  exact Op.Keeps.update fun s hs => hs.adopts T recv creatorId welcome.bytes

theorem sound_joinReporting (welcome : WelcomeBytes M)
    (establishment : WelcomeEstablishment) :
    Op.Keeps (Sound spent) (joinReporting welcome establishment) := by
  unfold joinReporting
  refine Op.Keeps.looking Op.Still.state fun before => ?_
  refine Op.Keeps.bind (sound_processWelcome T welcome establishment) fun _ => ?_
  exact Op.Keeps.looking Op.Still.state fun after => Op.Keeps.value _

end

/-!
## Binds and commits
-/

theorem sound_applyBindClassical (clCommit : Blob M) (attestation : ApqInfoUpdate) :
    Op.Keeps (Sound spent) (applyBindClassical clCommit attestation) := by
  apply sound_ofTouches (touches_applyBindClassical clCommit attestation)
  simp

theorem sound_applyBind (secret : Bytes) (pqCommit clCommit : Blob M) :
    Op.Keeps (Sound spent) (applyBind secret pqCommit clCommit) := by
  unfold applyBind
  refine Op.Keeps.looking Op.Still.state fun s => ?_
  dsimp only
  refine Op.Keeps.bind (keeps_injectSendPsksIf _) fun _ => ?_
  refine Op.Keeps.bind (keeps_onHalf _ _ _) fun applied => ?_
  refine Op.Keeps.bind (sound_applyBindClassical _ _) fun moved => ?_
  refine Op.Keeps.bind (Op.Keeps.update fun s hs => { hs with }) fun _ => ?_
  exact Op.Keeps.value _

theorem sound_exportCrossFromSendPq :
    Op.Keeps (Sound spent) (exportCrossFromSendPq : SessionOp M ExportedPsk) := by
  unfold exportCrossFromSendPq
  refine Op.Keeps.looking (still_readHalf _ _) fun g => ?_
  refine Op.Keeps.bind (keeps_onHalf _ _ _) fun exported => ?_
  refine Op.Keeps.bind
    (Op.Keeps.update fun s hs => hs.sameRound rfl rfl rfl rfl) fun _ => ?_
  exact Op.Keeps.value _

theorem sound_exportCrossFromRecvPq :
    Op.Keeps (Sound spent) (exportCrossFromRecvPq : SessionOp M ExportedPsk) := by
  unfold exportCrossFromRecvPq
  refine Op.Keeps.looking (still_readHalf _ _) fun g => ?_
  refine Op.Keeps.bind (keeps_onHalf _ _ _) fun exported => ?_
  refine Op.Keeps.bind
    (Op.Keeps.update fun s hs => hs.sameRound rfl rfl rfl rfl) fun _ => ?_
  exact Op.Keeps.value _

theorem Sound.clearInflight {s : SessionInner M} (hs : Sound spent s) :
    Sound spent (clearInflight s) :=
  hs.inRound (fun h => nomatch h) (fun _ _ h => nomatch h) rfl rfl rfl

theorem sound_takeResponderSecret :
    Op.Keeps (Sound spent) (takeResponderSecret : SessionOp M Bytes) := by
  have hreExport :
      Op.Keeps (Sound spent) (takeResponderSecret.reExport : SessionOp M Bytes) := by
    unfold takeResponderSecret.reExport
    refine Op.Keeps.bind sound_exportCrossFromSendPq fun exported => ?_
    refine Op.Keeps.bind (Op.Keeps.update fun s hs => hs.clearInflight) fun _ => ?_
    exact Op.Keeps.value _
  unfold takeResponderSecret
  refine Op.Keeps.looking Op.Still.state fun s => ?_
  split
  · refine Op.Keeps.bind (Op.Keeps.update fun s hs => hs.clearInflight) fun _ => ?_
    exact Op.Keeps.value _
  · exact hreExport
  · exact hreExport
  · exact Op.Keeps.fail _

theorem sound_applyBindStaple (tMessage pqMessage : Blob M) :
    Op.Keeps (Sound spent) (applyBindStaple tMessage pqMessage) := by
  unfold applyBindStaple
  refine Op.Keeps.bind sound_takeResponderSecret fun secret => ?_
  refine Op.Keeps.bind keeps_rememberRecvAttachmentComponent fun _ => ?_
  refine Op.Keeps.bind (sound_applyBind _ _ _).attempt fun applied => ?_
  split
  · refine Op.Keeps.bind
      (Op.Keeps.update fun s hs => hs.sameRound rfl rfl rfl rfl) fun _ => ?_
    exact Op.Keeps.fail _
  · refine Op.Keeps.bind
      (Op.Keeps.update fun s hs => hs.sameRound rfl rfl rfl rfl) fun _ => ?_
    exact Op.Keeps.value _

theorem sound_applyCommitStaple (commit : M.Message) :
    Op.Keeps (Sound spent) (applyCommitStaple commit) := by
  unfold applyCommitStaple
  refine Op.Keeps.looking Op.Still.state fun s => ?_
  refine Op.Keeps.bind (keeps_injectSendPsksIf _) fun _ => ?_
  refine Op.Keeps.bind keeps_rememberRecvAttachmentComponent fun _ => ?_
  refine Op.Keeps.looking (still_readHalf _ _) fun before => ?_
  refine Op.Keeps.looking (Op.Still.ofExcept _) fun prior => ?_
  refine Op.Keeps.bind (keeps_callHalf _ _ _ _) fun received => ?_
  refine Op.Keeps.bind ?_ fun attestation => ?_
  · split
    · exact Op.Keeps.still (Op.Still.ofExcept _)
    · exact Op.Keeps.fail _
  refine Op.Keeps.looking (still_readHalf _ _) fun after => ?_
  refine Op.Keeps.looking Op.Still.state fun s => ?_
  refine Op.Keeps.looking (Op.Still.ofExcept _) fun _ => ?_
  refine Op.Keeps.looking (Op.Still.ofExcept _) fun _ => ?_
  exact Op.Keeps.looking (Op.Still.ofExcept _) fun new => Op.Keeps.value _

theorem sound_applyIfCurrent (commit : Option M.Message)
    {apply : M.Message -> SessionOp M LeafChanges}
    (happly : forall message, Op.Keeps (Sound spent) (apply message)) :
    Op.Keeps (Sound spent) (applyIfCurrent commit apply) := by
  unfold applyIfCurrent
  refine Op.Keeps.looking (Op.Still.ofOption _ _) fun message => ?_
  refine Op.Keeps.looking Op.Still.state fun s => ?_
  refine Op.Keeps.looking (Op.Still.ofExcept _) fun action => ?_
  split
  · exact Op.Keeps.value _
  · exact Op.Keeps.bind (happly message) fun moved => Op.Keeps.value _

/-!
## The receive door
-/

section

variable (T : Dependable M)

include T

theorem sound_processStaple (staple : Staple M)
    (approval : Option EstablishmentApproval) :
    Op.Keeps (Sound spent) (processStaple staple approval) := by
  unfold processStaple
  refine Op.Keeps.looking Op.Still.state fun s => ?_
  split
  · exact Op.Keeps.fail _
  · apply Op.Keeps.ite
    · split
      · exact Op.Keeps.value _
      · exact Op.Keeps.bind (sound_joinReporting T _ _) fun _ => Op.Keeps.value _
    · exact Op.Keeps.bind (sound_processWelcome T _ _) fun _ => Op.Keeps.value _
  · exact Op.Keeps.bind (sound_joinReporting T _ _) fun _ => Op.Keeps.value _
  · exact Op.Keeps.fail _
  · refine Op.Keeps.bind (sound_applyIfCurrent _ fun _ => ?_) fun _ =>
      Op.Keeps.value _
    exact sound_applyBindStaple _ _
  · refine Op.Keeps.bind (sound_applyIfCurrent _ fun _ => ?_) fun _ =>
      Op.Keeps.value _
    exact sound_applyCommitStaple _

omit T in
theorem Sound.notesNewSender {s : SessionInner M} (hs : Sound spent s)
    (newSender : Option Bytes) : Sound spent (noteNewSender newSender s) := by
  cases newSender with
  | none => exact hs
  | some newId => exact { hs with }

omit T in
theorem Sound.installsWinner {s : SessionInner M} (hs : Sound spent s)
    (winner : TwoMlsPqPrincipal M) (newOwn : Bytes) :
    Sound spent (installWinner winner newOwn s) := by
  have hcommitted : Sound spent (s.commitMine newOwn) := { hs with }
  exact { hcommitted.trackPskStores winner with }

omit T in
theorem sound_noteCanonicalizedOwn (canonicalizedOwn : Option Bytes) :
    Op.Keeps (Sound spent)
      (noteCanonicalizedOwn canonicalizedOwn : SessionOp M Unit) := by
  unfold noteCanonicalizedOwn
  split
  · exact Op.Keeps.value ()
  · refine Op.Keeps.looking Op.Still.state fun s => ?_
    apply Op.Keeps.ite
    · exact Op.Keeps.update fun s hs => { hs with }
    · refine Op.Keeps.looking (Op.Still.ofOption _ _) fun winner => ?_
      exact Op.Keeps.update fun s hs => hs.installsWinner winner _

omit T in
theorem sound_decryptApp (app : M.Message) :
    Op.Keeps (Sound spent) (decryptApp app) := by
  unfold decryptApp
  refine Op.Keeps.bind (keeps_callHalf _ _ _ _) fun received => ?_
  split
  · refine Op.Keeps.looking (still_readHalf _ _) fun recv => ?_
    exact Op.Keeps.looking (Op.Still.ofExcept _) fun sender => Op.Keeps.value _
  · exact Op.Keeps.fail _

omit T in
theorem sound_noteWatermark (proposal : Blob M) (proposing : Bytes) :
    Op.Keeps (Sound spent) (noteWatermark proposal proposing) := by
  unfold noteWatermark
  refine Op.Keeps.looking Op.Still.state fun s => ?_
  split
  · exact Op.Keeps.value ()
  · dsimp only
    apply Op.Keeps.ite
    · exact Op.Keeps.value ()
    · refine Op.Keeps.bind (keeps_validateOfferedUpdate _ _).attempt
        fun validated => ?_
      split
      · exact Op.Keeps.update fun s hs => { hs with }
      · exact Op.Keeps.value ()

theorem sound_recordOffer (section_ : ProposalSection M) (sender groupId : Bytes) :
    Op.Keeps (Sound spent) (recordOffer section_ sender groupId) := by
  unfold recordOffer
  refine Op.Keeps.looking (Op.Still.ofOption _ _) fun offer => ?_
  refine Op.Keeps.bind (sound_noteWatermark _ _) fun _ => ?_
  refine Op.Keeps.bind (Op.Keeps.update fun s hs => ?_) fun _ => Op.Keeps.value _
  exact { hs with offered := digestOk_sha256 T _ }

theorem sound_processMessageBody (outcome : StapleOutcome) (proposal : ProposalSection M)
    (app : M.Message) :
    Op.Keeps (Sound spent) (processMessageBody outcome proposal app) := by
  unfold processMessageBody
  refine Op.Keeps.bind (Op.Keeps.update fun s hs => hs.notesNewSender _) fun _ => ?_
  refine Op.Keeps.bind (sound_noteCanonicalizedOwn _) fun _ => ?_
  refine Op.Keeps.bind (sound_decryptApp _) fun received => ?_
  refine Op.Keeps.looking (still_readHalf _ _) fun send => ?_
  refine Op.Keeps.bind (sound_recordOffer T _ _ _) fun offered => ?_
  exact Op.Keeps.looking Op.Still.state fun s => Op.Keeps.value _

theorem sound_processMessage (staple : Staple M) (proposal : ProposalSection M)
    (app : Blob M) (approval : Option EstablishmentApproval) :
    Op.Keeps (Sound spent) (processMessage staple proposal app approval) := by
  unfold processMessage
  refine Op.Keeps.looking (Op.Still.ofOption _ _) fun appMessage => ?_
  refine Op.Keeps.bind (sound_processStaple T _ _) fun outcome => ?_
  split
  · exact Op.Keeps.value _
  · exact Op.Keeps.value _
  · exact Op.Keeps.bind (sound_processMessageBody T _ _ _) fun _ => Op.Keeps.value _

theorem sound_joinStandalone (welcome : WelcomeBytes M)
    (establishment : WelcomeEstablishment) :
    Op.Keeps (Sound spent) (joinStandalone welcome establishment) := by
  unfold joinStandalone
  refine Op.Keeps.bind (sound_joinReporting T _ _) fun outcome => ?_
  refine Op.Keeps.looking Op.Still.state fun s => ?_
  split
  · exact Op.Keeps.value _
  · exact Op.Keeps.value _

theorem sound_processIncomingInner (frame : Frame M)
    (approval : Option EstablishmentApproval) :
    Op.Keeps (Sound spent) (processIncomingInner frame approval) := by
  unfold processIncomingInner
  refine Op.Keeps.looking Op.Still.state fun s => ?_
  refine Op.Keeps.looking (Op.Still.ensure _ _) fun _ => ?_
  split
  · exact Op.Keeps.fail _
  · apply Op.Keeps.ite
    · exact Op.Keeps.bind (sound_processWelcome T _ _) fun _ => Op.Keeps.value _
    · split
      · exact Op.Keeps.value _
      · exact sound_joinStandalone T _ _
  · exact sound_joinStandalone T _ _
  · exact Op.Keeps.fail _
  · exact sound_processMessage T _ _ _ _
  · refine Op.Keeps.looking (Op.Still.ofOption _ _) fun appMessage => ?_
    exact Op.Keeps.bind (sound_decryptApp _) fun received => Op.Keeps.value _
  · exact Op.Keeps.fail _
  · exact Op.Keeps.fail _

end

/-!
## Hand-outs and the establishment
-/

theorem sound_handOut (stable : Bool) :
    Op.Keeps (Sound spent) (handOut stable : SessionOp M (Option (SideBand M))) := by
  unfold handOut
  refine Op.Keeps.looking Op.Still.state fun s => ?_
  split
  · exact Op.Keeps.value _
  · dsimp only
    apply Op.Keeps.ite
    · exact Op.Keeps.value _
    refine Op.Keeps.looking (still_sealSideBand _).attempt fun sealed => ?_
    apply Op.Keeps.ite
    · refine Op.Keeps.bind ?_ fun _ => Op.Keeps.value _
      apply Op.Keeps.ite
      · exact Op.Keeps.update fun s hs => hs.sameRound rfl rfl rfl rfl
      · exact Op.Keeps.value ()
    · exact Op.Keeps.value _

theorem sound_installEnvelopeInner (envelope : Bytes) :
    Op.Keeps (Sound spent) (installEnvelopeInner envelope : SessionOp M Unit) := by
  unfold installEnvelopeInner
  refine Op.Keeps.looking Op.Still.state fun s => ?_
  refine Op.Keeps.looking (Op.Still.ensure _ _) fun _ => ?_
  split
  · exact Op.Keeps.still (Op.Still.ensure _ _)
  · refine Op.Keeps.looking (Op.Still.ofOption _ _) fun welcome => ?_
    exact Op.Keeps.update fun s hs => { hs with staple := rfl }

theorem sound_initialFieldBody (apply : EstablishmentState M -> EstablishmentState M)
    (seed : M.Seed) :
    Op.Keeps (Sound spent) (initialFieldBody apply seed) := by
  unfold initialFieldBody
  refine Op.Keeps.looking Op.Still.state fun s => ?_
  refine Op.Keeps.looking (Op.Still.ensure _ _) fun _ => ?_
  refine Op.Keeps.bind (Op.Keeps.update fun s hs => { hs with }) fun _ => ?_
  refine Op.Keeps.looking (still_composeInitialEnvelope _ _) fun envelope => ?_
  exact Op.Keeps.update fun s hs => { hs with }

/-!
## The A.4 ratchet
-/

theorem sound_ratchetRespondInner (leg : M.Message) (rnd : Nat -> M.Seed) :
    Op.Keeps (Sound spent) (ratchetRespondInner leg rnd) := by
  unfold ratchetRespondInner
  refine Op.Keeps.bind (keeps_processA4Leg _ _ _) fun ek => ?_
  refine Op.Keeps.looking (still_readHalf _ _) fun recvPq => ?_
  refine Op.Keeps.looking (Op.Still.ofExcept _) fun psk => ?_
  refine Op.Keeps.looking (Op.Still.ofExcept _) fun sealed => ?_
  refine Op.Keeps.bind (keeps_callHalf _ _ _ _) fun message => ?_
  refine Op.Keeps.bind (Op.Keeps.update fun s hs => ?_) fun _ => ?_
  · refine hs.withRound hs.bootstrap (fun h => nomatch h) hs.handedOut hs.commitment ?_
    intro secret ct hround
    cases hround
    rfl
  refine Op.Keeps.looking (Op.Still.ofExcept _) fun body => ?_
  exact Op.Keeps.update fun s hs => hs.sameRound rfl rfl rfl rfl

theorem Sound.clearSideBand {s : SessionInner M} (hs : Sound spent s) :
    Sound spent (clearSideBand s) :=
  hs.sameRound rfl rfl rfl rfl

theorem sound_pastNoReturn (round : PqWedge) {x : SessionOp M Unit}
    (hx : Op.Keeps (Sound spent) x) : Op.Keeps (Sound spent) (pastNoReturn round x) := by
  unfold pastNoReturn
  refine Op.Keeps.bind hx.attempt fun r => ?_
  split
  · exact Op.Keeps.value ()
  · refine Op.Keeps.bind
      (Op.Keeps.update fun s hs => hs.sameRound rfl rfl rfl rfl) fun _ => ?_
    exact Op.Keeps.fail _

theorem sound_openCiphertextLeg (leg : M.Message) (carrier : LegCarrier) :
    Op.Keeps (Sound spent) (openCiphertextLeg leg carrier) := by
  unfold openCiphertextLeg
  cases carrier with
  | classical => exact keeps_processA4Leg _ _ _
  | pq =>
      refine Op.Keeps.bind (keeps_processA4Leg _ _ _).attempt fun opened => ?_
      split
      · exact Op.Keeps.value _
      · exact Op.Keeps.bind (keeps_onHalf _ _ _) fun _ => Op.Keeps.fail _

section

variable (T : Dependable M)

include T

theorem sound_ratchetBindInner (leg : M.Message) (carrier : LegCarrier)
    (seed : M.Seed) :
    Op.Keeps (Sound spent) (ratchetBindInner leg carrier seed) := by
  unfold ratchetBindInner
  refine Op.Keeps.bind (sound_openCiphertextLeg leg carrier) fun wireCt => ?_
  refine Op.Keeps.looking (still_openRoundSecret wireCt) fun secret => ?_
  refine Op.Keeps.bind keeps_rememberSendPsk fun _ => ?_
  refine Op.Keeps.bind (sound_pastNoReturn _ ?_) fun _ =>
    keeps_recordPqHeaderKeyPostCommit T
  refine Op.Keeps.bind (Op.Keeps.update fun s hs => hs.clearInflight) fun _ => ?_
  refine Op.Keeps.bind (keeps_commitPqAndOweBind _ _) fun _ => ?_
  exact Op.Keeps.update fun s hs => hs.clearSideBand

/-!
## The A.5 rekey
-/

omit T in
theorem sound_crossPskForRekey :
    Op.Keeps (Sound spent) (crossPskForRekey : SessionOp M (Option ExportedPsk)) := by
  unfold crossPskForRekey
  refine Op.Keeps.looking (still_readHalf _ _) fun recvPq => ?_
  refine Op.Keeps.looking Op.Still.state fun s => ?_
  apply Op.Keeps.ite
  · exact Op.Keeps.value _
  · refine Op.Keeps.bind sound_exportCrossFromRecvPq fun exported => ?_
    refine Op.Keeps.bind (Op.Keeps.update fun s hs => { hs with }) fun _ => ?_
    exact Op.Keeps.value _

omit T in
theorem sound_ingestRekeyUpdate (proposal : M.Message) :
    Op.Keeps (Sound spent) (ingestRekeyUpdate proposal) := by
  apply sound_ofTouches (touches_ingestRekeyUpdate proposal)
  simp

theorem sound_rekeyRespondInner (proposal : M.Message) (seed : M.Seed) :
    Op.Keeps (Sound spent) (rekeyRespondInner proposal seed) := by
  unfold rekeyRespondInner
  refine Op.Keeps.bind sound_crossPskForRekey fun crossPsk => ?_
  refine Op.Keeps.bind (sound_ingestRekeyUpdate proposal) fun rotated => ?_
  refine Op.Keeps.looking still_rekeyHandoff fun handoff => ?_
  refine Op.Keeps.bind (keeps_callHalf _ _ _ _) fun output => ?_
  refine Op.Keeps.bind (keeps_callHalf _ _ _ _) fun _ => ?_
  refine Op.Keeps.looking (still_readHalf _ _) fun sendPq => ?_
  refine Op.Keeps.looking (Op.Still.ofExcept _) fun _ => ?_
  refine Op.Keeps.looking (Op.Still.ofExcept _) fun body => ?_
  refine Op.Keeps.bind (Op.Keeps.update fun s hs => ?_) fun _ => ?_
  · cases crossPsk with
    | none => exact hs
    | some psk => exact { hs with }
  refine Op.Keeps.bind (Op.Keeps.update fun s hs => hs.retireStalePins) fun _ => ?_
  refine Op.Keeps.bind (Op.Keeps.update fun s hs => ?_) fun _ => ?_
  · exact hs.inRound (fun h => nomatch h) (fun _ _ h => nomatch h) rfl rfl rfl
  exact Op.Keeps.bind (keeps_recordPqHeaderKeyPostCommit T) fun _ => Op.Keeps.value _

omit T in
theorem sound_preRegisterSendPq :
    Op.Keeps (Sound spent) (preRegisterSendPq : SessionOp M (Option PskId)) := by
  unfold preRegisterSendPq
  refine Op.Keeps.looking (still_readHalf _ _) fun sendPq => ?_
  refine Op.Keeps.looking Op.Still.state fun s => ?_
  apply Op.Keeps.ite
  · refine Op.Keeps.bind sound_exportCrossFromSendPq fun exported => ?_
    refine Op.Keeps.bind (Op.Keeps.update fun s hs => { hs with }) fun _ => ?_
    exact Op.Keeps.value _
  · exact Op.Keeps.value _

omit T in
theorem sound_applyRekeyCommit (commit : M.Message) :
    Op.Keeps (Sound spent) (applyRekeyCommit commit) := by
  apply sound_ofTouches (touches_applyRekeyCommit commit)
  simp

theorem sound_rekeyApplyInner (commit : Blob M) (seed : M.Seed) :
    Op.Keeps (Sound spent) (rekeyApplyInner commit seed) := by
  unfold rekeyApplyInner
  refine Op.Keeps.looking (Op.Still.ofOption _ _) fun message => ?_
  refine Op.Keeps.bind sound_preRegisterSendPq fun preRegistered => ?_
  refine Op.Keeps.bind (sound_applyRekeyCommit message) fun _ => ?_
  refine Op.Keeps.bind (sound_pastNoReturn _ ?_) fun _ =>
    keeps_recordPqHeaderKeyPostCommit T
  refine Op.Keeps.bind (Op.Keeps.update fun s hs => hs.clearInflight) fun _ => ?_
  refine Op.Keeps.bind (Op.Keeps.update fun s hs => ?_) fun _ => ?_
  · cases preRegistered with
    | none => exact hs
    | some id => exact { hs with }
  refine Op.Keeps.bind sound_exportCrossFromRecvPq fun exported => ?_
  refine Op.Keeps.bind (keeps_commitPqAndOweBind _ _) fun _ => ?_
  refine Op.Keeps.bind (Op.Keeps.update fun s hs => hs.retireStalePins) fun _ => ?_
  exact Op.Keeps.update fun s hs => hs.clearSideBand

/-!
## The A.3 bootstrap
-/

omit T in
theorem sound_registerBootstrapRound (kp : Blob M) (wasSealed : Bool) :
    Op.Keeps (Sound spent) (registerBootstrapRound kp wasSealed) := by
  unfold registerBootstrapRound
  refine Op.Keeps.looking (Op.Still.ofExcept _) fun founding => ?_
  dsimp only
  refine Op.Keeps.update fun s hs => ?_
  have hpinned : Sound spent
      (s.withAuth fun core => { core with mine := core.mine.pin founding }) :=
    { hs with }
  exact hpinned.withRound (Or.inl rfl) (fun _ => rfl) (fun _ => rfl) hs.commitment
    fun _ _ h => nomatch h

omit T in
theorem sound_bootstrapBeginInner :
    Op.Keeps (Sound spent) (bootstrapBeginInner : SessionOp M (SideBand M)) := by
  unfold bootstrapBeginInner
  refine Op.Keeps.looking Op.Still.state fun s => ?_
  refine Op.Keeps.looking (Op.Still.ofOption _ _) fun kp => ?_
  dsimp only
  refine Op.Keeps.looking (still_sealSideBand _) fun _ => ?_
  exact Op.Keeps.bind (sound_registerBootstrapRound _ _) fun _ => Op.Keeps.value _

omit T in
theorem sound_bootstrapEnvelopeInner (seed : M.Seed) :
    Op.Keeps (Sound spent) (bootstrapEnvelopeInner (M := M) seed) := by
  unfold bootstrapEnvelopeInner
  refine Op.Keeps.looking Op.Still.state fun s => ?_
  refine Op.Keeps.looking (Op.Still.ofOption _ _) fun theirKp => ?_
  refine Op.Keeps.bind ?_ fun frame => ?_
  · split
    · exact Op.Keeps.value _
    · exact Op.Keeps.looking (Op.Still.ofOption _ _) fun kp => Op.Keeps.value _
  refine Op.Keeps.looking (Op.Still.ofExcept _) fun _ => ?_
  refine Op.Keeps.bind ?_ fun _ => Op.Keeps.value _
  apply Op.Keeps.ite
  · exact sound_registerBootstrapRound _ _
  · exact Op.Keeps.value ()

omit T in
theorem sound_createDeferredPqHalf (kp : Blob M) (rnd : Nat -> M.Seed) :
    Op.Keeps (Sound spent) (createDeferredPqHalf kp rnd) := by
  unfold createDeferredPqHalf
  refine Op.Keeps.looking Op.Still.state fun s => ?_
  dsimp only
  refine Op.Keeps.looking (Op.Still.ofOption _ _) fun send => ?_
  refine Op.Keeps.looking (Op.Still.ensure _ _) fun _ => ?_
  refine Op.Keeps.looking (Op.Still.ofExcept _) fun classicalInfo => ?_
  refine Op.Keeps.looking (Op.Still.ofExcept _) fun created => ?_
  refine Op.Keeps.bind (Op.Keeps.update fun s hs => ?_) fun _ => Op.Keeps.value _
  refine { hs with sendGroup := ?_ }
  rw [Option.isSome_map]
  exact hs.sendGroup

theorem sound_bootstrapRespondInner (kp : Blob M) (rnd : Nat -> M.Seed) :
    Op.Keeps (Sound spent) (bootstrapRespondInner kp rnd) := by
  unfold bootstrapRespondInner
  refine Op.Keeps.bind (Op.Keeps.update fun s hs => hs.trackPskStores _) fun _ => ?_
  refine Op.Keeps.looking (Op.Still.ofExcept _) fun founding => ?_
  refine Op.Keeps.bind (Op.Keeps.update fun s hs => { hs with }) fun _ => ?_
  refine Op.Keeps.bind (sound_createDeferredPqHalf kp rnd) fun welcome => ?_
  refine Op.Keeps.bind (Op.Keeps.update fun s hs => ?_) fun _ =>
    keeps_recordPqHeaderKeyPostCommit T
  exact hs.inRound (fun h => nomatch h) (fun _ _ h => nomatch h) rfl rfl rfl

omit T in
theorem Sound.installsRecvPq {s : SessionInner M} (hs : Sound true s) (pq : M.Group) :
    Sound true (installRecvPq pq s) := by
  have hkp : s.round.bootstrapKp = none := hs.handedOut rfl
  have hround := hs.withRound
    (r := { s.round with bootstrapKpSecret := none })
    (Or.inl (Option.isNone_iff_eq_none.mpr hkp)) hs.initiated hs.handedOut hs.commitment
    hs.responder
  exact { hround with }

theorem sound_bootstrapBindInner (welcome : Blob M) (seed : M.Seed) :
    Op.Keeps (Sound true) (bootstrapBindInner welcome seed) := by
  unfold bootstrapBindInner
  refine Op.Keeps.bind (Op.Keeps.update fun s hs => hs.trackPskStores _) fun _ => ?_
  refine Op.Keeps.looking (still_joinDeferredPqHalf welcome) fun pq => ?_
  refine Op.Keeps.bind (sound_pastNoReturn _ ?_) fun _ =>
    keeps_recordPqHeaderKeyPostCommit T
  refine Op.Keeps.bind (Op.Keeps.update fun s hs => hs.installsRecvPq pq) fun _ => ?_
  refine Op.Keeps.bind sound_exportCrossFromRecvPq fun exported => ?_
  refine Op.Keeps.bind (keeps_commitPqAndOweBind _ _) fun _ => ?_
  exact Op.Keeps.update fun s hs => hs.clearInflight.clearSideBand

/-!
## Encoding
-/

omit T in
theorem sound_exportPqHalf (h : Half) (includePq : Bool) :
    Op.Keeps (Sound spent)
      (exportPqHalf h includePq : SessionOp M (Option M.GroupSnapshot)) := by
  unfold exportPqHalf
  refine Op.Keeps.looking Op.Still.state fun s => ?_
  apply Op.Keeps.ite
  · exact Op.Keeps.bind (keeps_callHalf _ _ _ _) fun _ => Op.Keeps.value _
  · exact Op.Keeps.value _

theorem sound_encodeBlob (kind : BlobKind) :
    Op.Keeps (Sound spent) (encodeBlob kind : SessionOp M (Archive M)) := by
  unfold encodeBlob buildArchiveWire exportSend exportRecv
  refine Op.Keeps.looking Op.Still.state fun s => ?_
  refine Op.Keeps.bind ?_ fun wire => Op.Keeps.value _
  refine Op.Keeps.bind (keeps_recordListenRendezvous T) fun _ => ?_
  refine Op.Keeps.bind ?_ fun send => ?_
  · refine Op.Keeps.bind (keeps_callHalf _ _ _ _) fun classical => ?_
    exact Op.Keeps.bind (sound_exportPqHalf _ _) fun pq => Op.Keeps.value _
  refine Op.Keeps.bind ?_ fun recv => ?_
  · refine Op.Keeps.looking Op.Still.state fun s => ?_
    apply Op.Keeps.ite
    · exact Op.Keeps.value _
    · refine Op.Keeps.bind (keeps_callHalf _ _ _ _) fun classical => ?_
      exact Op.Keeps.bind (sound_exportPqHalf _ _) fun pq => Op.Keeps.value _
  exact Op.Keeps.looking Op.Still.state fun s => Op.Keeps.value _

/-!
## Every body
-/

omit T in
theorem Sound.spend {s : SessionInner M} (hs : Sound false s)
    (hround : s.round.pqInflight = some .bootstrapInitiated) : Sound true s :=
  { hs with handedOut := fun _ => hs.initiated hround }

omit T in
theorem Sound.forget {s : SessionInner M} (hs : Sound true s) : Sound false s :=
  { hs with handedOut := fun h => nomatch h }

/-- Every body keeps the shape that a restore checks. -/
theorem bodies_sound : Bodies (Sound (M := M) false) where
  encodes := sound_encodeBlob T
  taken := fun _ hs => { hs with }
  takenSideBand := fun _ hs => hs.clearSideBand
  handsOut := sound_handOut
  listens := keeps_recordListenRendezvous T
  listensPq := keeps_recordPqHeaderKey T
  receives := sound_processIncomingInner T
  installs := sound_installEnvelopeInner
  attaches := fun _ seed => sound_initialFieldBody _ seed
  attachesKp := fun _ seed => sound_initialFieldBody _ seed
  prepares := keeps_prepareToEncryptInner T
  encrypts := keeps_encryptInner
  queues := keeps_queueProposalInner
  exportsSend := keeps_sendAttachmentComponent
  exportsRecv := keeps_recvAttachmentComponent
  respondsRatchet := fun _ rnd => Warded.ofKeeps fun leg =>
    sound_ratchetRespondInner leg rnd
  bindsRatchet := fun _ seed => Warded.ofKeeps fun opened =>
    sound_ratchetBindInner T opened.1 opened.2 seed
  respondsRekey := fun _ seed => Warded.ofKeeps fun proposal =>
    sound_rekeyRespondInner T proposal seed
  appliesRekey := fun _ seed => Warded.ofKeeps fun commit =>
    sound_rekeyApplyInner T commit seed
  begins := fun _ => Warded.ofKeeps fun _ => sound_bootstrapBeginInner
  envelopes := fun seed => Warded.ofKeeps fun _ => sound_bootstrapEnvelopeInner seed
  respondsBootstrap := fun _ rnd => Warded.ofKeeps fun kp =>
    sound_bootstrapRespondInner T kp rnd
  bindsBootstrap := by
    intro frame seed welcome s s' hguard _ hin hs
    have hopen := (via_bootstrapBindGuard (A := fun _ => True)
      (p := fun _ => True)).result True.intro hguard
    rw [still_bootstrapBindGuard frame s] at hopen
    have hround : s'.round.pqInflight = some .bootstrapInitiated := by
      rcases hin with rfl | rfl <;> exact hopen.2.1
    exact (sound_bootstrapBindInner T welcome seed s' (hs.spend hround)).forget

/-!
## At birth
-/

omit T in
theorem sound_buildSession (client : TwoMlsPqPrincipal M) (services : Services)
    (sendGroup : CombinerGroup M) (recvGroup : Option (CombinerGroup M))
    (welcome : ApqWelcome M) (theirId : Bytes) (initiated : Bool)
    (digest : Option Bytes) (hdigest : digestOk digest = true) (nextHandle : Nat) :
    Sound false (buildSession client services sendGroup recvGroup welcome theirId
      initiated digest nextHandle) where
  sendGroup := rfl
  sendPsks := Nat.zero_le _
  sendAttachments := Nat.zero_le _
  recvAttachments := Nat.zero_le _
  addresses := fun _ he => absurd he List.not_mem_nil
  headerKeys := fun _ he => absurd he List.not_mem_nil
  headerKeysPq := fun _ he => absurd he List.not_mem_nil
  hash := rfl
  offered := rfl
  queued := rfl
  welcome := hdigest
  staple := rfl
  bootstrap := Or.inl rfl
  initiated := fun h => nomatch h
  handedOut := fun h => nomatch h
  commitment := rfl
  responder := fun _ _ h => nomatch h

theorem sound_recordBirth :
    Op.Keeps (Sound spent) (recordBirth : SessionOp M Unit) := by
  unfold recordBirth
  refine Op.Keeps.bind keeps_rememberSendPsk fun _ => ?_
  refine Op.Keeps.bind (keeps_recordListenRendezvous T) fun _ => ?_
  exact keeps_recordPqHeaderKey T

omit T in
theorem sound_preCommitBootstrapKp (seed : M.Seed) :
    Op.Triple (fun s => Sound false s ∧ s.round.pqInflight = none)
      (preCommitBootstrapKp seed) (fun _ => Sound false) fun _ => Sound false := by
  unfold preCommitBootstrapKp
  apply Op.Triple.looking Op.Still.state (fun _ _ hs => hs.1)
  intro s
  apply Op.Triple.looking (Op.Still.ofExcept _) (fun _ _ hs => hs.1)
  intro generated
  apply Op.Triple.looking (Op.Still.ofExcept _) (fun _ _ hs => hs.1)
  intro kp
  refine Op.Triple.update fun s hs => ?_
  refine hs.1.withRound (Or.inr rfl) ?_ (fun h => nomatch h) hs.1.commitment
    hs.1.responder
  intro hround
  rw [hs.2] at hround
  cases hround

theorem sound_initiateBirth (theirKp : CombinerKeyPackage M) (rnd : Nat -> M.Seed) :
    Op.Triple (fun s => Sound false s ∧ s.round.pqInflight = none)
      (initiateBirth theirKp rnd) (fun _ => Sound false) fun _ => Sound false := by
  unfold initiateBirth
  refine Op.Triple.bind
    (Q := fun _ s => Sound false s ∧ s.round.pqInflight = none)
    (Op.Triple.update fun s hs => ⟨{ hs.1 with }, hs.2⟩) fun _ => ?_
  apply Op.Triple.bind (sound_preCommitBootstrapKp _)
  intro _
  apply Op.Triple.ofKeeps
  refine Op.Keeps.looking (still_composeInitialEnvelope _ _) fun envelope => ?_
  refine Op.Keeps.bind (Op.Keeps.update fun s hs => { hs with }) fun _ => ?_
  exact sound_recordBirth T

theorem sound_acceptBirth (invitationClient : Option (TwoMlsPqPrincipal M))
    (recvCrossEpoch : Nat) {commitment : Bytes} (hcommitment : commitment.length = 32)
    (spawnToken : Option Bytes) :
    Op.Keeps (Sound false)
      (acceptBirth invitationClient recvCrossEpoch commitment spawnToken) := by
  unfold acceptBirth
  refine Op.Keeps.bind (Op.Keeps.update fun s hs => ?_) fun _ => ?_
  · cases invitationClient with
    | none => exact hs
    | some client => exact hs.trackPskStores client
  refine Op.Keeps.bind (Op.Keeps.update fun s hs => ?_) fun _ => ?_
  · have hledger : Sound false
        (s.mapLedger fun l => { l with lastCrossInjected := some recvCrossEpoch }) :=
      { hs with }
    have hcommitted := hledger.withRound
      (r := { s.round with expectedBootstrapKpCommitment := some commitment })
      hs.bootstrap hs.initiated hs.handedOut (by simp [digestOk, hcommitment])
      hs.responder
    exact { hcommitted with }
  refine Op.Keeps.bind (sound_recordBirth T) fun _ => ?_
  exact Op.Keeps.update fun s hs => { hs with }

omit T in
theorem acceptWith_commitment {client : TwoMlsPqPrincipal M}
    {sessionClient : Option (TwoMlsPqPrincipal M × Services)} {services : Services}
    {welcome : WelcomeBytes M} {theirKp : Blob M} {commitment : Bytes}
    {spawnToken expected : Option Bytes} {rnd : Nat -> M.Seed} {s : SessionInner M}
    (h : acceptWith client sessionClient services welcome theirKp commitment
      spawnToken expected rnd = .ok s) :
    commitment.length = 32 := by
  unfold acceptWith at h
  split at h
  next => cases h
  next =>
    split at h
    next => cases h
    next hlength => exact not_not.mp hlength

theorem initiate_sound {client : TwoMlsPqPrincipal M} {services : Services}
    {theirKp : CombinerKeyPackage M} {appBinding : Option Bytes}
    {rnd : Nat -> M.Seed} {s : SessionInner M}
    (h : initiate client services theirKp appBinding rnd = .ok s) :
    Sound false s := by
  rcases initiate_built h with ⟨theirId, created, services', hrun⟩
  have hbuilt := sound_buildSession client services' created.1 none created.2 theirId
    true none rfl (client.handle + 1)
  have hbirth := (sound_initiateBirth T theirKp rnd).ok ⟨hbuilt, rfl⟩
    (congrArg Prod.fst hrun)
  rw [hrun] at hbirth
  exact hbirth

theorem acceptWith_sound {client : TwoMlsPqPrincipal M}
    {sessionClient : Option (TwoMlsPqPrincipal M × Services)} {services : Services}
    {welcome : WelcomeBytes M} {theirKp : Blob M} {commitment : Bytes}
    {spawnToken expected : Option Bytes} {rnd : Nat -> M.Seed} {s : SessionInner M}
    (h : acceptWith client sessionClient services welcome theirKp commitment
      spawnToken expected rnd = .ok s) :
    Sound false s := by
  rcases acceptWith_built h with
    ⟨groupClient, w, theirId, r, services', nextHandle, _, hrun⟩
  have hbuilt := sound_buildSession groupClient services' r.1 (some r.2.1)
    { classical := r.2.2.1, pq := Blob.empty } theirId false
    (some (M.sha256 welcome.bytes)) (digestOk_sha256 T _) nextHandle
  have hbirth := sound_acceptBirth T (sessionClient.map fun _ => client) r.2.2.2
    (acceptWith_commitment h) spawnToken _ hbuilt
  rw [hrun] at hbirth
  exact hbirth

theorem Born.sound {s : SessionInner M} (h : Born s) : Sound false s := by
  cases h with
  | initiated h => exact initiate_sound T h
  | accepted h => exact acceptWith_sound T h

/-!
## Opening
-/

omit T in
theorem Sound.wellFormed {s : SessionInner M} {a : Archive M} (hs : Sound spent s)
    (ha : Pictures s a) : archiveWellFormed a = true := by
  have hdigests : digestOk a.wire.msg.pendingProposalHash = true ∧
      digestOk (a.wire.msg.offeredProposal.map PeerProposal.digest) = true ∧
      digestOk (a.wire.msg.queuedProposal.map PeerProposal.digest) = true ∧
      digestOk a.wire.msg.joinedWelcomeDigest = true ∧
      a.wire.msg.currentStaple.isSome = true := by
    rw [ha.msg]
    exact ⟨hs.hash, hs.offered, hs.queued, hs.welcome, hs.staple⟩
  have hround : (a.wire.round.bootstrapKp.isNone ||
      a.wire.round.bootstrapKpSecret.isSome) = true ∧
      digestOk a.wire.round.expectedBootstrapKpCommitment = true := by
    rw [ha.round]
    exact ⟨Bool.or_eq_true_iff.mpr hs.bootstrap, hs.commitment⟩
  have hledger : a.wire.ledger.sendPskLedger.length <= sendPskWindow ∧
      (a.wire.ledger.listenRendezvous.all fun e => e.2.length == 32) = true ∧
      ((a.wire.ledger.recvHeaderKeys ++ a.wire.ledger.recvHeaderKeysPq).all
        fun e => e.2.length == M.aeadKeySize) = true := by
    rw [ha.ledger]
    refine ⟨hs.sendPsks, ?_, ?_⟩
    · exact List.all_eq_true.mpr fun e he => beq_iff_eq.mpr (hs.addresses e he)
    · refine List.all_eq_true.mpr fun e he => beq_iff_eq.mpr ?_
      rcases List.mem_append.mp he with hclassical | hpq
      · exact hs.headerKeys e hclassical
      · exact hs.headerKeysPq e hpq
  have htail : a.tail.sendAttachmentLedger.length <= attachmentLedgerWindow ∧
      a.tail.recvAttachmentLedger.length <= attachmentLedgerWindow := by
    rw [ha.tail]
    exact ⟨hs.sendAttachments, hs.recvAttachments⟩
  unfold archiveWellFormed
  simp only [Bool.and_eq_true, decide_eq_true_eq]
  exact ⟨⟨⟨⟨⟨⟨⟨⟨⟨⟨⟨hledger.1, htail.1⟩, htail.2⟩, hdigests.1⟩, hdigests.2.1⟩,
    hdigests.2.2.1⟩, hdigests.2.2.2.1⟩, hledger.2.1⟩, hledger.2.2⟩,
    hdigests.2.2.2.2⟩, hround.1⟩, hround.2⟩

omit T in
theorem Pictures.inflight {s : SessionInner M} {a : Archive M} (ha : Pictures s a) :
    inflightFromWire a.wire.round.pqInflight a.tail.responderWireCt =
      .ok s.round.pqInflight := by
  rw [ha.round, ha.tail]
  exact inflightFromWire_archived s.round.pqInflight

omit T in
theorem Sound.payloadHeld {s : SessionInner M} (hs : Sound spent s)
    (send : CombinerGroup M) (parked : Option (RetainedFrame M)) :
    ctPayloadMissing send s.round.pqInflight parked = false := by
  unfold ctPayloadMissing
  split
  next secret retained hround =>
    have hpresent := hs.responder _ none hround
    cases hpresent
  next => rfl

theorem HalfSaved.loads {o : Option M.Group} {snapshot : M.GroupSnapshot}
    (h : HalfSaved o (some snapshot)) : exists g, M.loadGroup snapshot = .ok g := by
  cases o with
  | none => exact h.elim
  | some g =>
      rcases h with ⟨g', _, hexport⟩
      exact T.loadGroup g' snapshot hexport

theorem loadCombinerGroup_loads (client : TwoMlsPqPrincipal M) {entry : GroupEntry M}
    {o o' : Option M.Group} (hclassical : HalfSaved o (some entry.classical))
    (hpq : HalfSaved o' entry.pq) :
    exists cg, loadCombinerGroup client entry = .ok cg := by
  rcases HalfSaved.loads T hclassical with ⟨g, hg⟩
  unfold loadCombinerGroup
  rw [hg]
  cases hentry : entry.pq with
  | none => exact ⟨_, rfl⟩
  | some snapshot =>
      rw [hentry] at hpq
      rcases HalfSaved.loads T hpq with ⟨pq, hload⟩
      refine ⟨CombinerGroup.fromClient client g (some pq), ?_⟩
      simp only [hload, orError]
      rfl

theorem loadRecv_loads (client : TwoMlsPqPrincipal M) {entry : Option (GroupEntry M)}
    {o o' : Option M.Group}
    (hclassical : HalfSaved o (entry.map GroupEntry.classical))
    (hpq : HalfSaved o' (entry.bind GroupEntry.pq)) :
    exists recv, loadRecv client entry = .ok recv := by
  cases entry with
  | none => exact ⟨none, rfl⟩
  | some entry =>
      rcases loadCombinerGroup_loads T client hclassical hpq with ⟨cg, hload⟩
      refine ⟨some cg, ?_⟩
      simp only [loadRecv, hload]
      rfl

theorem Sound.opens {s : SessionInner M} {c : Core M} {a : Archive M}
    (hs : Sound spent s) (ha : Pictures s a) (harchived : Archived .checkpoint c a) :
    exists r, sessionFromWire a = .ok r := by
  rcases loadCombinerGroup_loads T { a.wire.client with handle := 0 }
    (harchived.halves .sendClassical fun _ => rfl)
    (harchived.halves .sendPq fun _ => rfl) with ⟨send, hsend⟩
  rcases loadRecv_loads T { a.wire.client with handle := 0 }
    (harchived.halves .recvClassical fun _ => rfl)
    (harchived.halves .recvPq fun _ => rfl) with ⟨recv, hrecv⟩
  unfold sessionFromWire
  dsimp only
  rw [if_neg (by rw [hs.wellFormed ha]; decide), ha.inflight]
  simp only [bind, Except.bind]
  rw [hsend]
  dsimp only
  rw [hrecv]
  dsimp only
  rw [if_neg (by rw [hs.payloadHeld]; decide)]
  exact ⟨_, rfl⟩

omit T in
theorem Sound.reborn {s₀ s : SessionInner M} (hs : Sound spent s₀) (h : Reborn s₀ s) :
    Sound spent s := by
  have hsend := isSome_ofEpoch (h.epoch .sendClassical)
  let r : SessionInner M :=
    { s₀ with
      msg := { s₀.msg with currentStapleSeq := s₀.stateSeq }
      ledger := { s₀.ledger with pskStores := s.client.stores, pskStoresFrom := 0 }
      round := { s₀.round with
        pendingSideBand :=
          s₀.round.pendingSideBand.map fun f => { f with sealedAt := none }
        bindApplyBroken := false } }
  have hpictured : Sound spent r := { hs.sameRound rfl rfl rfl rfl with }
  exact hpictured.sameParts hsend h.ledger h.msg h.round

theorem lasting_sound (L : Lawful M) :
    Lasting (Sound (M := M) false) (Photo (Sound false)) :=
  (bodies_sound T).lasting L (fun _ hs => { hs with }) fun _ _ hs hreborn =>
    hs.reborn hreborn

/-- At every moment of every life the session can be archived, the archive can be
opened, and what is opened is the session again without what lives in memory alone. -/
theorem archive_reopens (L : Lawful M) {s : SessionInner M} (born : Born s)
    {t : TwoMlsPqSession M}
    (life : Run TwoMlsPqSession.live (fun _ _ => True) (TwoMlsPqSession.fresh s) t) :
    exists a s' r, (encodeBlob .checkpoint).run t.inner = (.ok a, s') ∧
      sessionFromWire a = .ok r ∧ Reborn s' r := by
  have hsound := (lasting_sound T L).life (born.sound T) life
  rcases (completes_encodeBlob T .checkpoint).result hsound.sendGroup with
    ⟨a, hencoded, -⟩
  have hrun : (encodeBlob .checkpoint).run t.inner =
      (.ok a, ((encodeBlob .checkpoint).run t.inner).2) := Prod.ext hencoded rfl
  have hkept := sound_encodeBlob T .checkpoint t.inner hsound
  rcases hkept.opens T (encodeBlob_pictures hrun) (encodeBlob_archived L hrun) with
    ⟨r, hopened⟩
  exact ⟨a, _, r, hrun, hopened,
    opened_reborn L (encodeBlob_pictures hrun) (encodeBlob_archived L hrun) hopened⟩

end

end

/-- The initiator, restarted after one message each way, can be archived and opened. -/
theorem greeted_archive_reopens :
    exists a s' r, (encodeBlob .checkpoint).run ReferencePair.restartedSession.inner =
        (.ok a, s') ∧ sessionFromWire a = .ok r ∧ Reborn s' r :=
  archive_reopens Reference.dependable Reference.lawful ReferencePair.initiator_born
    ReferencePair.restarted_run

end Session
end TwoMlsPq
