import TwoMlsPq.Session.Adoption
import TwoMlsPq.Session.Checked
import TwoMlsPq.Session.Tally

/-!
# How a rotation settles

The peer's commit that folds one of our candidate updates makes the candidate the
session's client.  The session recognizes it by our leaf alone, whose credential the
commit moved, so it does not recognize a candidate that brings the credential the
leaf had before, and it does not install one that brings its own client's.
-/

namespace TwoMlsPq

namespace Session

open Foundation Apq

section

variable {M : MlsRs} {α : Type}

/-!
## The candidates differ
-/

def DistinctCandidates (c : Core M) : Prop :=
  (c.staged.map TwoMlsPqPrincipal.clientId).Nodup

theorem DistinctCandidates.step {e : Event M} {c c' : Core M}
    (h : DistinctCandidates c) (hstep : Step e c c') :
    DistinctCandidates c' := by
  cases hstep with
  | quiet hq =>
      rw [hq.2]
      exact h
  | @enlist c candidate room fresh unlisted =>
      unfold DistinctCandidates
      rw [List.map_append, List.nodup_append]
      refine ⟨h, by simp, ?_⟩
      intro id hid id' hid'
      rcases List.mem_map.mp hid with ⟨p, hmem, rfl⟩
      rw [List.map_singleton, List.mem_singleton] at hid'
      rw [hid']
      exact unlisted p hmem
  | install => exact List.nodup_nil
  | _ => exact h

theorem DistinctCandidates.stable : Stable (DistinctCandidates (M := M)) :=
  fun _ _ hq hc => hc.step (Step.quiet hq)

theorem map_clientId_renumber (start : Nat) (candidates : List (TwoMlsPqPrincipal M)) :
    (renumber start candidates).map TwoMlsPqPrincipal.clientId =
      candidates.map TwoMlsPqPrincipal.clientId := by
  unfold renumber
  apply List.ext_getElem
  · simp
  · intro i h h'
    simp

theorem DistinctCandidates.restored {c r : Core M} (h : DistinctCandidates c)
    (hr : Restored c r) :
    DistinctCandidates r := by
  unfold DistinctCandidates
  rw [hr.2]
  dsimp only
  rw [map_clientId_renumber]
  exact h

theorem DistinctCandidates.recovered {c : Core M}
    (h : Recovered (fun _ => DistinctCandidates) c) :
    DistinctCandidates c := by
  cases h with
  | checkpoint h => exact h
  | spliced h h' => exact h

theorem DistinctCandidates.live (L : Lawful M) {t : TwoMlsPqSession M} {a : LifeAction M}
    (happroved : Approved t.inner.core) (h : Durable DistinctCandidates t) :
    Durable DistinctCandidates (t.live a) := by
  cases a with
  | reopen =>
      exact h.reopened L DistinctCandidates.stable fun _ _ hr hc => hc.restored hr
  | host a =>
      cases a with
      | call call =>
          exact h.advance (call_advances L call t happroved)
            fun _ _ _ _ hstep hc => hc.step hstep
      | restart =>
          exact h.restarted L (fun _ => DistinctCandidates.recovered)
            fun _ _ hr hc => hc.restored hr

theorem find_candidate {candidates : List (TwoMlsPqPrincipal M)}
    (hdistinct : (candidates.map TwoMlsPqPrincipal.clientId).Nodup)
    {candidate : TwoMlsPqPrincipal M} (hmem : candidate ∈ candidates) :
    candidates.find? (fun c => c.clientId == candidate.clientId) = some candidate := by
  induction candidates with
  | nil => cases hmem
  | cons c rest ih =>
      rw [List.map_cons, List.nodup_cons] at hdistinct
      rw [List.find?_cons]
      rcases List.mem_cons.mp hmem with rfl | hrest
      · simp
      · have hother : (c.clientId == candidate.clientId) = false := by
          apply beq_eq_false_iff_ne.mpr
          intro hsame
          apply hdistinct.1
          rw [hsame]
          exact List.mem_map_of_mem hrest
        rw [hother]
        exact ih hdistinct.2 hrest

/-!
## What an applied commit reports
-/

def recvLeafId (s : SessionInner M) : Option Bytes :=
  (s.half .recvClassical).bind fun g =>
    (senderClientId g (M.currentMemberIndex g)).toOption

def RecvStays (s₀ s : SessionInner M) : Prop :=
  HalfQuiet (s₀.half .recvClassical) (s.half .recvClassical)

theorem QuietOp.recvStays {x : SessionOp M α} (hx : QuietOp x) (s₀ : SessionInner M) :
    Op.Triple (RecvStays s₀) x (fun _ => RecvStays s₀) fun _ _ => True :=
  (Op.Triple.ofKeeps (I := RecvStays s₀)
    fun s hs => HalfQuiet.trans hs ((hx s).1 .recvClassical)).weaken
      (fun _ _ hs => hs) fun _ _ _ => True.intro

theorem Touches.recvStays {W : List Slot} {x : SessionOp M α} (hx : Touches W x)
    (hW : .half .recvClassical ∉ W) (s₀ : SessionInner M) :
    Op.Triple (RecvStays s₀) x (fun _ => RecvStays s₀) fun _ _ => True := by
  refine (Op.Triple.ofKeeps (I := RecvStays s₀) fun s hs => ?_).weaken
    (fun _ _ hs => hs) fun _ _ _ => True.intro
  unfold RecvStays
  rw [hx.half hW]
  exact hs

def ReportsOwn (s₀ s : SessionInner M) (moved : LeafChanges) : Prop :=
  exists prior new, recvLeafId s₀ = some prior ∧ recvLeafId s = some new ∧
    moved.canonicalizedOwn = if new ≠ prior then some new else none

theorem reportsOwn_of_leaves {s₀ s : SessionInner M} {before after : M.Group}
    {prior new : Bytes × Bytes} (hstays : HalfQuiet (s₀.half .recvClassical) (some before))
    (held : s.half .recvClassical = some after)
    (hindex : M.currentMemberIndex after = M.currentMemberIndex before)
    (hprior : leafIds before = .ok prior)
    (hnew : leafIdsAt after (peerIndex before) (M.currentMemberIndex before) = .ok new) :
    ReportsOwn s₀ s (leafChanges prior new) := by
  refine ⟨prior.2, new.2, ?_, ?_, rfl⟩
  · cases held₀ : s₀.half .recvClassical with
    | none =>
        rw [held₀] at hstays
        exact hstays.elim
    | some g =>
        rw [held₀] at hstays
        have hsame : Undisturbed g before := hstays
        unfold recvLeafId
        rw [held₀, Option.bind_some, ← senderClientId_undisturbed hsame, leafIdsAt_own hprior]
        rfl
  · unfold recvLeafId
    rw [held, Option.bind_some, hindex, leafIdsAt_own hnew]
    rfl

variable (L : Lawful M)

include L

theorem triple_processRecv {s₁ : SessionInner M} {before : M.Group} {m : M.Message}
    (held : s₁.half .recvClassical = some before) (missing : TwoMlsPqError)
    (err : MlsError -> TwoMlsPqError) :
    Op.Triple (fun s => s = s₁)
      (callHalf .recvClassical missing err fun env => M.processIncomingMessage env m)
      (fun _ s => exists after, s.half .recvClassical = some after ∧
        M.currentMemberIndex after = M.currentMemberIndex before)
      fun _ _ => True := by
  refine (triple_process L held missing err).weaken ?_ fun _ _ _ => True.intro
  rintro received s ⟨env, after, hcall, rfl⟩
  refine ⟨after, half_setHalf_held held, ?_⟩
  have heffect := L.process env m before
  rw [hcall] at heffect
  cases received with
  | commit effect => exact heffect.2.memberIndex
  | proposal desc => exact heffect.2.2.memberIndex
  | applicationMessage index data => exact heffect.2.memberIndex
  | other => exact heffect.2.memberIndex

omit L in
theorem triple_reportLeaves {s₀ s₁ s₂ : SessionInner M} {before after : M.Group}
    {prior : Bytes × Bytes} (hstays : RecvStays s₀ s₁)
    (held : s₁.half .recvClassical = some before) (hprior : leafIds before = .ok prior)
    (hafter : s₂.half .recvClassical = some after)
    (hindex : M.currentMemberIndex after = M.currentMemberIndex before) :
    Op.Triple (fun s => s = s₂)
      (do
        let new <-
          Op.ofExcept
            (leafIdsAt after (peerIndex before) (M.currentMemberIndex before))
        pure (leafChanges prior new) : SessionOp M LeafChanges)
      (fun moved s => ReportsOwn s₀ s moved) fun _ _ => True := by
  refine Op.Triple.knowing (Op.Returns.ofExcept _)
    (Op.Triple.keptBy (Op.Still.ofExcept _) fun _ _ _ => True.intro) fun new hnew => ?_
  apply Op.Triple.value
  rintro s' rfl
  unfold RecvStays at hstays
  rw [held] at hstays
  exact reportsOwn_of_leaves hstays hafter hindex hprior hnew

theorem reports_applyCommitStaple (s₀ : SessionInner M) (m : M.Message) :
    Op.Triple (RecvStays s₀) (applyCommitStaple m) (fun moved s => ReportsOwn s₀ s moved)
      fun _ _ => True := by
  have hany : forall (e : TwoMlsPqError) (s s' : SessionInner M), s' = s -> True :=
    fun _ _ _ _ => True.intro
  unfold applyCommitStaple
  refine Op.Triple.looking Op.Still.state (fun _ _ _ => True.intro) fun s => ?_
  refine Op.Triple.bind ((quiet_injectSendPsksIf L _).recvStays s₀) fun _ => ?_
  refine Op.Triple.bind ((quiet_rememberRecvAttachmentComponent L).recvStays s₀)
    fun _ => ?_
  refine triple_readHalf (fun _ _ _ => True.intro) fun s₁ before hstays held => ?_
  refine Op.Triple.knowing (Op.Returns.ofExcept _)
    (Op.Triple.keptBy (Op.Still.ofExcept _) fun e => hany e s₁) fun prior hprior => ?_
  refine Op.Triple.bind (triple_processRecv L held _ _) fun received => ?_
  refine Op.Triple.looking ?_ (fun _ _ _ => True.intro) fun attestation => ?_
  · cases received with
    | commit effect => exact Op.Still.ofExcept _
    | _ => exact Op.Still.fail _
  refine triple_readHalf (fun _ _ _ => True.intro) fun s₂ after hkept hafter => ?_
  rcases hkept with ⟨after', hafter', hindex⟩
  rw [hafter] at hafter'
  cases hafter'
  refine Op.Triple.looking Op.Still.state (fun e => hany e s₂) fun s' => ?_
  refine Op.Triple.looking (Op.Still.ofExcept _) (fun e => hany e s₂) fun _ => ?_
  refine Op.Triple.looking (Op.Still.ofExcept _) (fun e => hany e s₂) fun _ => ?_
  exact triple_reportLeaves hstays held hprior hafter hindex

theorem reports_applyBindClassical (s₀ : SessionInner M) (clCommit : Blob M)
    (attestation : ApqInfoUpdate) :
    Op.Triple (RecvStays s₀) (applyBindClassical clCommit attestation)
      (fun moved s => ReportsOwn s₀ s moved) fun _ _ => True := by
  have hany : forall (e : TwoMlsPqError) (s s' : SessionInner M), s' = s -> True :=
    fun _ _ _ _ => True.intro
  unfold applyBindClassical
  refine Op.Triple.looking (Op.Still.ofOption _ _) (fun _ _ _ => True.intro)
    fun message => ?_
  refine triple_readHalf (fun _ _ _ => True.intro) fun s₁ before hstays held => ?_
  refine Op.Triple.knowing (Op.Returns.ofExcept _)
    (Op.Triple.keptBy (Op.Still.ofExcept _) fun e => hany e s₁) fun prior hprior => ?_
  refine Op.Triple.bind (triple_processRecv L held _ _) fun received => ?_
  refine Op.Triple.looking ?_ (fun _ _ _ => True.intro) fun attested => ?_
  · cases received with
    | commit effect => exact Op.Still.ofExcept _
    | _ => exact Op.Still.fail _
  refine Op.Triple.looking (Op.Still.ofOption _ _) (fun _ _ _ => True.intro)
    fun clAttestation => ?_
  refine Op.Triple.looking (still_readHalf _ _) (fun _ _ _ => True.intro)
    fun recvPq => ?_
  refine triple_readHalf (fun _ _ _ => True.intro) fun s₂ after hkept hafter => ?_
  rcases hkept with ⟨after', hafter', hindex⟩
  rw [hafter] at hafter'
  cases hafter'
  refine Op.Triple.looking (Op.Still.ensure _ _) (fun e => hany e s₂) fun _ => ?_
  refine Op.Triple.looking (Op.Still.ofExcept _) (fun e => hany e s₂) fun _ => ?_
  exact triple_reportLeaves hstays held hprior hafter hindex

theorem reports_applyBindStaple (s₀ : SessionInner M) (tMessage pqMessage : Blob M) :
    Op.Triple (RecvStays s₀) (applyBindStaple tMessage pqMessage)
      (fun moved s => ReportsOwn s₀ s moved) fun _ _ => True := by
  have hbind : forall secret, Op.Triple (RecvStays s₀) (applyBind secret pqMessage tMessage)
      (fun moved s => ReportsOwn s₀ s moved) fun _ _ => True := by
    intro secret
    unfold applyBind
    refine Op.Triple.looking Op.Still.state (fun _ _ _ => True.intro) fun s => ?_
    refine Op.Triple.bind ((quiet_injectSendPsksIf L _).recvStays s₀) fun _ => ?_
    refine Op.Triple.bind
      ((touches_onHalf (W := [.half .recvPq, .services]) .recvPq _ _ (by decide)
        (by decide)).recvStays (by decide) s₀) fun applied => ?_
    refine Op.Triple.bind (reports_applyBindClassical L s₀ tMessage applied.2)
      fun moved => ?_
    refine Op.Triple.bind (Q := fun _ s => ReportsOwn s₀ s moved)
      (Op.Triple.update fun _ hs => hs) fun _ => ?_
    exact Op.Triple.value fun _ hs => hs
  unfold applyBindStaple
  refine Op.Triple.bind (touches_takeResponderSecret.recvStays (by decide) s₀)
    fun secret => ?_
  refine Op.Triple.bind ((quiet_rememberRecvAttachmentComponent L).recvStays s₀)
    fun _ => ?_
  refine Op.Triple.bind (hbind secret).attempt fun applied => ?_
  cases applied with
  | error e =>
      refine Op.Triple.bind (Q := fun _ _ => True) (Op.Triple.update fun _ _ => True.intro)
        fun _ => ?_
      exact Op.Triple.fail fun _ _ => True.intro
  | ok moved =>
      refine Op.Triple.bind (Q := fun _ s => ReportsOwn s₀ s moved)
        (Op.Triple.update fun _ hs => hs) fun _ => ?_
      exact Op.Triple.value fun _ hs => hs

omit L in
theorem triple_applyIfCurrent {P : SessionInner M -> Prop}
    {R : LeafChanges -> SessionInner M -> Prop}
    {apply : M.Message -> SessionOp M LeafChanges}
    (happly : forall m, Op.Triple P (apply m) R fun _ _ => True)
    (commit : Option M.Message) :
    Op.Triple P (applyIfCurrent commit apply)
      (fun outcome s => outcome.applied = true -> R outcome.moved s) fun _ _ => True := by
  unfold applyIfCurrent
  refine Op.Triple.looking (Op.Still.ofOption _ _) (fun _ _ _ => True.intro)
    fun message => ?_
  refine Op.Triple.looking Op.Still.state (fun _ _ _ => True.intro) fun s => ?_
  refine Op.Triple.looking (Op.Still.ofExcept _) (fun _ _ _ => True.intro)
    fun action => ?_
  cases action with
  | skip => exact Op.Triple.value fun _ _ happlied => nomatch happlied
  | apply =>
      refine Op.Triple.bind (happly message) fun moved => ?_
      exact Op.Triple.value fun _ hs _ => hs

omit L in
theorem joinReporting_joined {s : SessionInner M} (hrecv : s.recvGroup.isSome = true)
    (welcome : WelcomeBytes M) (establishment : WelcomeEstablishment) :
    Op.Triple (fun s' => s' = s) (joinReporting welcome establishment)
      (fun outcome _ => outcome.applied = false) fun _ _ => True := by
  have hstill := still_processWelcome_joined welcome establishment hrecv
  intro s' hs'
  rw [hs']
  unfold joinReporting
  rw [Op.run_bind_ok (Op.run_state s)]
  rcases hrun : (processWelcome welcome establishment).run s with ⟨r, s''⟩
  rw [hrun] at hstill
  change s'' = s at hstill
  rw [hstill] at hrun
  cases r with
  | error e =>
      rw [Op.run_bind_error hrun]
      exact True.intro
  | ok _ =>
      rw [Op.run_bind_ok hrun, Op.run_bind_ok (Op.run_state s)]
      change (welcomeOutcome _ _).applied = false
      unfold welcomeOutcome
      rw [if_neg (not_not.mpr rfl)]
      rfl

omit L in
structure Reported (s₀ s : SessionInner M) (moved : LeafChanges) : Prop where
  own : ReportsOwn s₀ s moved
  client : s.client = s₀.client
  rotation : s.rotation = s₀.rotation

omit L in
theorem reported_ofTouches {W : List Slot} {x : SessionOp M LeafChanges}
    (hx : Touches W x) (hclient : .client ∉ W) (hrotation : .rotation ∉ W)
    {s₀ : SessionInner M}
    (hreports : Op.Triple (RecvStays s₀) x (fun moved s => ReportsOwn s₀ s moved)
      fun _ _ => True) :
    Op.Triple (fun s => s = s₀) x (fun moved s => Reported s₀ s moved)
      fun _ _ => True := by
  rintro s rfl
  have hrun := hreports s (HalfQuiet.refl _)
  cases hresult : (x.run s).1 with
  | error e => exact True.intro
  | ok moved =>
      rw [hresult] at hrun
      exact { own := hrun, client := hx s .client hclient
              rotation := hx s .rotation hrotation }

theorem reports_processStaple {s₀ : SessionInner M}
    (hrecv : s₀.recvGroup.isSome = true) (staple : Staple M)
    (approval : Option EstablishmentApproval) :
    Op.Triple (fun s => s = s₀) (processStaple staple approval)
      (fun result s => forall outcome, result = some outcome -> outcome.applied = true ->
        Reported s₀ s outcome.moved)
      fun _ _ => True := by
  have hidle : forall (P : SessionInner M -> Prop) (outcome : StapleOutcome),
      outcome.applied = false ->
      Op.Triple P (pure (some outcome) : SessionOp M (Option StapleOutcome))
        (fun result s => forall outcome, result = some outcome -> outcome.applied = true ->
          Reported s₀ s outcome.moved) fun _ _ => True := by
    intro P outcome hidle
    apply Op.Triple.value
    intro s _ outcome' houtcome happlied
    cases houtcome
    rw [hidle] at happlied
    cases happlied
  unfold processStaple
  refine Op.Triple.reading fun s hs => ?_
  subst hs
  cases staple with
  | badHandoff => exact Op.Triple.fail fun _ _ => True.intro
  | badBind => exact Op.Triple.fail fun _ _ => True.intro
  | handoff envelope w =>
      dsimp only
      apply Op.Triple.ite
      · intro hnone
        rw [Option.isNone_iff_eq_none] at hnone
        rw [hnone] at hrecv
        cases hrecv
      · intro _
        exact Op.Triple.bind (Op.Triple.any _) fun _ => hidle _ _ rfl
  | welcome w =>
      dsimp only
      refine Op.Triple.bind (joinReporting_joined hrecv w .bare) fun outcome => ?_
      intro s' hs'
      exact hidle (fun _ => True) outcome hs' s' True.intro
  | bind tMessage pqMessage =>
      refine Op.Triple.bind (triple_applyIfCurrent (fun _ => reported_ofTouches
        (touches_applyBindStaple tMessage pqMessage) (by decide) (by decide)
        (reports_applyBindStaple L s tMessage pqMessage)) tMessage.parsed)
          fun outcome => ?_
      apply Op.Triple.value
      intro s' hs' outcome' houtcome happlied
      cases houtcome
      exact hs' happlied
  | commit message =>
      refine Op.Triple.bind (triple_applyIfCurrent (fun m => reported_ofTouches
        (touches_applyCommitStaple m) (by decide) (by decide)
        (reports_applyCommitStaple L s m)) message.parsed) fun outcome => ?_
      apply Op.Triple.value
      intro s' hs' outcome' houtcome happlied
      cases houtcome
      exact hs' happlied

/-!
## The bookkeeping behind the report
-/

omit L in
/-- The candidate is the session's client, and nothing of the rotation is left. -/
structure RotationSettled (c : TwoMlsPqPrincipal M) (s : SessionInner M) : Prop where
  client : s.client = c
  staged : s.rotation.stagedCandidates = []
  myState : s.rotation.myState = .sync c.clientId
  mine : s.services.auth.mine.current = some c.clientId

omit L in
theorem Touches.rotationSettled {W : List Slot} {x : SessionOp M α} (hx : Touches W x)
    (hclient : .client ∉ W) (hrotation : .rotation ∉ W) (hservices : .services ∉ W)
    (c : TwoMlsPqPrincipal M) (s : SessionInner M) :
    RotationSettled c (x.run s).2 <-> RotationSettled c s := by
  have hc : (x.run s).2.client = s.client := hx s .client hclient
  have hr : (x.run s).2.rotation = s.rotation := hx s .rotation hrotation
  have hv : (x.run s).2.services = s.services := hx s .services hservices
  constructor
  · intro h
    exact { client := hc ▸ h.client, staged := hr ▸ h.staged, myState := hr ▸ h.myState
            mine := hv ▸ h.mine }
  · intro h
    exact { client := hc.trans h.client, staged := hr ▸ h.staged
            myState := hr ▸ h.myState, mine := hv ▸ h.mine }

omit L in
theorem settled_iff {s : SessionInner M} {c : TwoMlsPqPrincipal M} {prior new : Bytes}
    (hmem : c ∈ s.rotation.stagedCandidates) (hid : c.clientId = new)
    (hdistinct : DistinctCandidates s.core) (newSender : Option Bytes) :
    RotationSettled c
        ((noteCanonicalizedOwn (if new ≠ prior then some new else none)).run
          (noteNewSender newSender s)).2 <->
      (new ≠ prior ∧ new ≠ s.client.clientId) := by
  have hsender : (noteNewSender newSender s).client = s.client ∧
      (noteNewSender newSender s).rotation.stagedCandidates =
        s.rotation.stagedCandidates := by
    cases newSender with
    | none => exact ⟨rfl, rfl⟩
    | some id => exact ⟨rfl, rfl⟩
  have hfind := find_candidate hdistinct hmem
  change s.rotation.stagedCandidates.find? _ = _ at hfind
  rw [hid] at hfind
  generalize hafter : noteNewSender newSender s = s₁ at hsender ⊢
  by_cases hmoved : new ≠ prior
  · rw [if_pos hmoved]
    unfold noteCanonicalizedOwn
    dsimp only
    rw [Op.run_bind_ok (Op.run_state s₁)]
    by_cases hown : new = s₁.client.clientId
    · rw [if_pos hown]
      constructor
      · intro h
        have hstaged : s₁.rotation.stagedCandidates = [] := h.staged
        rw [hsender.2] at hstaged
        rw [hstaged] at hmem
        cases hmem
      · intro h
        exact absurd (hown.trans (congrArg _ hsender.1)) h.2
    · rw [if_neg hown, hsender.2, hfind, Op.run_bind_ok (Op.run_ofOption_some _ _ _)]
      constructor
      · intro _
        exact ⟨hmoved, fun h => hown (h.trans (congrArg _ hsender.1.symm))⟩
      · intro _
        exact { client := rfl, staged := rfl, myState := rfl
                mine := by rw [hid]; exact (installWinner_enters c new s₁).2.2.2 }
  · rw [if_neg hmoved]
    constructor
    · intro h
      have hstaged : s₁.rotation.stagedCandidates = [] := h.staged
      rw [hsender.2] at hstaged
      rw [hstaged] at hmem
      cases hmem
    · intro h
      exact absurd h.1 hmoved

omit L in
theorem settled_processMessageBody (outcome : StapleOutcome)
    (proposal : ProposalSection M) (app : M.Message) (c : TwoMlsPqPrincipal M)
    (s : SessionInner M) :
    RotationSettled c ((processMessageBody outcome proposal app).run s).2 <->
      RotationSettled c
        ((noteCanonicalizedOwn outcome.moved.canonicalizedOwn).run
          (noteNewSender outcome.moved.newSender s)).2 := by
  unfold processMessageBody
  rw [Op.run_bind_ok (Op.run_update _ _)]
  rcases hrun : (noteCanonicalizedOwn outcome.moved.canonicalizedOwn).run
    (noteNewSender outcome.moved.newSender s) with ⟨r, s'⟩
  cases r with
  | error e =>
      rw [Op.run_bind_error hrun]
  | ok _ =>
      rw [Op.run_bind_ok hrun]
      refine Touches.rotationSettled
        (W := [.half .recvClassical, .half .sendClassical, .msg]) ?_ (by decide)
        (by decide) (by decide) c s'
      refine Op.Writes.bind ((touches_decryptApp app).mono (by decide)) fun received => ?_
      refine Op.Writes.looking (still_readHalf _ _) fun send => ?_
      refine Op.Writes.bind ((touches_recordOffer _ _ _).mono (by decide))
        fun offered => ?_
      refine Op.Writes.looking Op.Still.state fun s => ?_
      exact Op.Writes.value _

omit L in
theorem settled_persistAfter (kind : BlobKind) (c : TwoMlsPqPrincipal M)
    (t : TwoMlsPqSession M) :
    RotationSettled c ((persistAfter kind).run t).2.inner <->
      RotationSettled c t.inner := by
  refine persistAfter_keeps
    (I := fun s => RotationSettled c s <-> RotationSettled c t.inner) ?_ ?_ t Iff.rfl
  · intro s hs
    exact ((touches_encodeBlob kind).rotationSettled (by decide) (by decide) (by decide)
      c s).trans hs
  · intro s seq hs
    refine Iff.trans ?_ hs
    constructor
    · intro h
      exact { client := h.client, staged := h.staged, myState := h.myState
              mine := h.mine }
    · intro h
      exact { client := h.client, staged := h.staged, myState := h.myState
              mine := h.mine }

omit L in
theorem settled_processIncomingWith (frame : Frame M)
    (approval : Option EstablishmentApproval) (c : TwoMlsPqPrincipal M)
    (t : TwoMlsPqSession M) :
    RotationSettled c ((processIncomingWith frame approval).run t).2.inner <->
      RotationSettled c ((processIncomingInner frame approval).run t.inner).2 := by
  rcases run_processIncomingWith frame approval t with ⟨hfailed, hpaused, hpersisted⟩
  rcases hrun : (processIncomingInner frame approval).run t.inner with ⟨r, u⟩
  cases r with
  | error e => rw [hfailed e u hrun]; rfl
  | ok d =>
      cases hp : isPaused d with
      | true => rw [hpaused d u hrun hp]; rfl
      | false =>
          rcases hpersisted d u hrun hp with ⟨kind, hcall⟩
          rw [hcall]
          exact settled_persistAfter kind c (t.withInner u)

omit L in
theorem settled_message {s s' : SessionInner M} {staple : Staple M}
    {proposal : ProposalSection M} {app : Blob M} {approval : Option EstablishmentApproval}
    {outcome : StapleOutcome} (hlistens : s.round.bindApplyBroken = false)
    (happ : app.parsed.isSome = true)
    (hstaple : (processStaple staple approval).run s = (.ok (some outcome), s'))
    (c : TwoMlsPqPrincipal M) :
    RotationSettled c
        ((processIncomingInner (.message staple proposal app) approval).run s).2 <->
      RotationSettled c
        ((noteCanonicalizedOwn outcome.moved.canonicalizedOwn).run
          (noteNewSender outcome.moved.newSender s')).2 := by
  rcases Option.isSome_iff_exists.mp happ with ⟨m, hm⟩
  unfold processIncomingInner
  rw [Op.run_bind_ok (Op.run_state s), Op.run_bind_ok (Op.run_ensure hlistens _ _)]
  dsimp only
  unfold processMessage
  rw [hm, Op.run_bind_ok (Op.run_ofOption_some _ _ _), Op.run_bind_ok hstaple]
  dsimp only
  rw [Op.run_bind_still fun _ => Op.Still.value _]
  exact settled_processMessageBody outcome proposal m c s'

/-!
## Where a rotation settles
-/

omit L in
/-- The frame's staple is applied, and folds the update that was offered for the
candidate. -/
structure FoldsCandidate (s : SessionInner M) (c : TwoMlsPqPrincipal M)
    (staple : Staple M) (app : Blob M) (approval : Option EstablishmentApproval) :
    Prop where
  listens : s.round.bindApplyBroken = false
  decodes : app.parsed.isSome = true
  staged : c ∈ s.rotation.stagedCandidates
  folded :
    exists outcome s' g g' update,
      (processStaple staple approval).run s = (.ok (some outcome), s') ∧
        outcome.applied = true ∧
        s.half .recvClassical = some g ∧ s'.half .recvClassical = some g' ∧
        (update, some (c.classicalSigner, c.clientId)) ∈ M.pendingUpdates g ∧
        MovedTo c.classicalSigner c.clientId g'

/-- In every run the commit that folds a candidate's update settles the rotation when
the candidate's credential is neither the one our leaf had nor the client's, and not
otherwise. -/
theorem fold_settles_rotation {s₀ : SessionInner M} {t : TwoMlsPqSession M}
    (born : Born s₀)
    (hrun : Run TwoMlsPqSession.live (fun _ _ => True) (TwoMlsPqSession.fresh s₀) t)
    {c : TwoMlsPqPrincipal M} {staple : Staple M} {proposal : ProposalSection M}
    {app : Blob M} {approval : Option EstablishmentApproval}
    (hfolds : FoldsCandidate t.inner c staple app approval) :
    RotationSettled c
        ((processIncomingWith (.message staple proposal app) approval).run t).2.inner <->
      (recvLeafId t.inner ≠ some c.clientId ∧ c.clientId ≠ t.inner.client.clientId) := by
  have hunused := born.unused L
  have hdurable : Durable Approved t ∧ Durable DistinctCandidates t := by
    apply hrun.invariant
      (I := fun t => Durable Approved t ∧ Durable DistinctCandidates t)
      (fun _ _ h _ => ⟨approved_live L h.1, DistinctCandidates.live L h.1.now h.2⟩)
    refine ⟨Durable.fresh (approved_unused hunused), Durable.fresh ?_⟩
    unfold DistinctCandidates
    rw [hunused.staged]
    exact List.nodup_nil
  rcases hfolds.folded with ⟨outcome, s', g, g', update, hstaple, happlied, held, held', -,
    hmoved⟩
  have hjoined : t.inner.recvGroup.isSome = true := by
    apply (recvGroup_isSome_iff t.inner).mpr
    change t.inner.half .recvClassical ≠ none
    rw [held]
    exact Option.some_ne_none g
  have hreports := reports_processStaple L hjoined staple approval t.inner rfl
  rw [hstaple] at hreports
  have hreported := hreports outcome rfl happlied
  rcases hreported.own with ⟨prior, new, hprior, hnew, hown⟩
  have hid : c.clientId = new := by
    unfold recvLeafId at hnew
    rw [held', Option.bind_some, senderClientId_basic hmoved.1] at hnew
    exact Option.some.inj hnew
  have hmem : c ∈ s'.rotation.stagedCandidates := by
    rw [hreported.rotation]
    exact hfolds.staged
  have hdistinct : DistinctCandidates s'.core := by
    unfold DistinctCandidates
    change (s'.rotation.stagedCandidates.map _).Nodup
    rw [hreported.rotation]
    exact hdurable.2.now
  rw [settled_processIncomingWith,
    settled_message hfolds.listens hfolds.decodes hstaple, hown,
    settled_iff hmem hid hdistinct, hprior, hid, hreported.client]
  constructor
  · intro h
    exact ⟨fun hsame => h.1 (Option.some.inj hsame).symm, h.2⟩
  · intro h
    exact ⟨fun hsame => h.1 (congrArg some hsame.symm), h.2⟩

end

/-!
## A candidate under a new credential, and one under the old
-/

namespace ReferencePair

instance : DecidableEq Reference.mls.Signer :=
  inferInstanceAs (DecidableEq Nat)

def foldedBy (s : SessionInner Reference.mls) (id : Bytes)
    (staple : Staple Reference.mls) (app : Blob Reference.mls) :
    Option (TwoMlsPqPrincipal Reference.mls) :=
  match s.rotation.stagedCandidates.find? (fun c => c.clientId == id),
      (processStaple staple none).run s with
  | some c, (.ok (some outcome), s') =>
      match s.half .recvClassical, s'.half .recvClassical with
      | some g, some g' =>
          if s.round.bindApplyBroken = false ∧ app.parsed.isSome = true ∧
              outcome.applied = true ∧
              some (c.classicalSigner, c.clientId) ∈
                (Reference.mls.pendingUpdates g).map Prod.snd ∧
              ownLeaf g' =
                some (.basic c.clientId, Reference.mls.publicKey c.classicalSigner) ∧
              Reference.mls.groupSigner g' = c.classicalSigner then
            some c
          else none
      | _, _ => none
  | _, _ => none

theorem foldsCandidate_of_foldedBy {s : SessionInner Reference.mls} {id : Bytes}
    {staple : Staple Reference.mls} {app : Blob Reference.mls}
    {c : TwoMlsPqPrincipal Reference.mls} (h : foldedBy s id staple app = some c) :
    c.clientId = id ∧ FoldsCandidate s c staple app none := by
  unfold foldedBy at h
  split at h
  next c' outcome s' hfound hstaple =>
    split at h
    next g g' held held' =>
      split at h
      next hall =>
        cases h
        rcases hall with ⟨hlistens, hdecodes, happlied, hpending, hleaf, hsigner⟩
        rcases List.mem_map.mp hpending with ⟨⟨update, identity⟩, hmem, hidentity⟩
        dsimp only at hidentity
        rw [hidentity] at hmem
        have hid := List.find?_some hfound
        refine ⟨eq_of_beq hid, ?_⟩
        exact
          { listens := hlistens
            decodes := hdecodes
            staged := List.mem_of_find?_eq_some hfound
            folded := ⟨outcome, s', g, g', update, hstaple, happlied, held, held', hmem,
              hleaf, hsigner⟩ }
      next => cases h
    next => cases h
  next => cases h

def foldedCandidate (s : SessionInner Reference.mls) (id : Bytes) :
    Frame Reference.mls -> Option (TwoMlsPqPrincipal Reference.mls)
  | .message staple _ app => foldedBy s id staple app
  | _ => none

theorem foldsCandidate_of_isSome {s : SessionInner Reference.mls} {id : Bytes}
    {frame : Frame Reference.mls} (h : (foldedCandidate s id frame).isSome = true) :
    exists c staple proposal app,
      frame = .message staple proposal app ∧ c.clientId = id ∧
        FoldsCandidate s c staple app none := by
  rcases Option.isSome_iff_exists.mp h with ⟨c, hc⟩
  cases frame with
  | message staple proposal app =>
      exact ⟨c, staple, proposal, app, rfl, foldsCandidate_of_foldedBy hc⟩
  | _ => cases hc

def foldedFrame : Frame Reference.mls :=
  ((folded.sent .right)[1]?).getD .unknown

def renewalOffered : World Reference.mls :=
  world.play
    (greeting ++
      [.call .left (.prepareToEncrypt (some [0xA0]) (rnd 5000)),
        .call .left (.encrypt [1] (rnd 5050)),
        receive .right 1])

def renewalDigest : Bytes :=
  (((renewalOffered.session .right).inner.msg.offeredProposal).map
    PeerProposal.digest).getD []

def renewed : World Reference.mls :=
  renewalOffered.play
    ([.call .right (.queueProposal renewalDigest)] ++ send .right 5100)

def renewedFrame : Frame Reference.mls :=
  ((renewed.sent .right)[1]?).getD .unknown

theorem renewed_calls : Run World.act World.Calls world renewed := by
  have hoffered : Run World.act World.Calls world renewalOffered := by
    apply World.run_calls
    simp [greeting, send, receive, Move.Fair, Move.isRestore, Call.delivered]
  apply hoffered.trans
  apply World.run_calls
  simp [send, Move.Fair, Move.isRestore, Call.delivered]

set_option maxRecDepth 4000 in
theorem renewed_sent : renewedFrame ∈ renewed.sent .right := by
  have hsome : ((renewed.sent .right)[1]?).isSome = true := by decide +kernel
  rcases Option.isSome_iff_exists.mp hsome with ⟨f, hf⟩
  unfold renewedFrame
  rw [hf, Option.getD_some]
  exact List.mem_of_getElem? hf

end ReferencePair

set_option maxRecDepth 4000 in
/-- A candidate under a new credential becomes the client. -/
theorem new_credential_settles :
    exists c staple proposal app,
      ReferencePair.foldedFrame = .message staple proposal app ∧
        RotationSettled c
          ((processIncomingWith (.message staple proposal app) none).run
            (ReferencePair.folded.session .left)).2.inner := by
  have hfolded : (ReferencePair.foldedCandidate (ReferencePair.folded.session .left).inner
      [0xA1] ReferencePair.foldedFrame).isSome = true := by
    decide +kernel
  have hleaf : recvLeafId (ReferencePair.folded.session .left).inner = some [0xA0] ∧
      (ReferencePair.folded.session .left).inner.client.clientId = [0xA0] := by
    decide +kernel
  rcases ReferencePair.foldsCandidate_of_isSome hfolded with
    ⟨c, staple, proposal, app, hframe, hid, hfolds⟩
  have hlive : Run TwoMlsPqSession.live (fun _ _ => True)
      (TwoMlsPqSession.fresh ReferencePair.initiator)
      (ReferencePair.folded.session .left) :=
    World.run_live .left ReferencePair.folded_calls
  refine ⟨c, staple, proposal, app, hframe, ?_⟩
  apply (fold_settles_rotation Reference.lawful ReferencePair.initiator_born hlive
    hfolds).mpr
  rw [hleaf.1, hleaf.2, hid]
  decide

set_option maxRecDepth 4000 in
/-- A candidate under the credential the leaf has is folded and stays staged. -/
theorem renewed_credential_stays_pending :
    ¬ forall (initiator acceptor : SessionInner Reference.mls)
        (w : World Reference.mls),
      Established initiator acceptor ->
        Run World.act World.Calls (World.initial initiator acceptor) w ->
          forall side c staple proposal app,
            Frame.message staple proposal app ∈ w.sent side.other ->
              FoldsCandidate (w.session side).inner c staple app none ->
                RotationSettled c
                  ((processIncomingWith (.message staple proposal app) none).run
                    (w.session side)).2.inner := by
  intro hall
  have hrenewed : (ReferencePair.foldedCandidate
      (ReferencePair.renewed.session .left).inner [0xA0]
        ReferencePair.renewedFrame).isSome = true := by
    decide +kernel
  have hstaged : ((processIncomingWith ReferencePair.renewedFrame none).run
      (ReferencePair.renewed.session .left)).2.inner.rotation.stagedCandidates.length =
        1 := by
    decide +kernel
  rcases ReferencePair.foldsCandidate_of_isSome hrenewed with
    ⟨c, staple, proposal, app, hframe, -, hfolds⟩
  have hsent := ReferencePair.renewed_sent
  rw [hframe] at hsent hstaged
  have hsettled := hall _ _ _ ReferencePair.established ReferencePair.renewed_calls .left
    c staple proposal app hsent hfolds
  rw [hsettled.staged] at hstaged
  cases hstaged

end Session
end TwoMlsPq
