import TwoMlsPq.Session.CoreOnly

/-!
# Preparing a send

`prepare_to_encrypt` commits first and proposes afterwards.  What the commit has
done by the time a later step fails stays done, so each part is given both of its
exits: the commit, which fails before it is applied or not at all, and the
proposal, which fails when there is nothing to propose.
-/

namespace TwoMlsPq
namespace Session

open Foundation Apq

section

variable {M : MlsRs} {α : Type}

/-!
## What the library answers
-/

/-- The library calls behind a send succeed, as far as a failure under the name in
question is not among the expected ones. -/
structure Serves (M : MlsRs) (F : TwoMlsPqError -> Prop) : Prop where
  signer : forall seed, F .mls ∨ exists k, M.signatureKeyGenerate seed = .ok k
  toBytes : forall m, F .mls ∨ exists bytes, M.toBytes m = .ok bytes
  derive : forall g exporter label,
    F .mls ∨ exists secret, M.deriveSecret g exporter label = .ok secret
  -- the exporter tree of a new epoch is unspent
  exporter : forall env g component,
    (M.applyPendingCommit env g).1 = .ok () ->
      F .mls ∨ exists secret,
        (M.safeExportSecret component (M.applyPendingCommit env g).2).1 = .ok secret
  -- a commit that adds no one leaves as many members as there were
  members : forall env env' request seed g out,
    request.addMember = none -> (M.buildCommit env request seed g).1 = .ok out ->
      (M.applyPendingCommit env' (M.buildCommit env request seed g).2).1 = .ok () ->
        F .mls ∨
          (M.roster (M.applyPendingCommit env'
            (M.buildCommit env request seed g).2).2).length = (M.roster g).length
  -- an update is refused only for the identity it introduces
  propose : forall env identity aad seed g leafId,
    senderClientId g (M.currentMemberIndex g) = .ok leafId ->
      (forall signer id, identity = some (signer, id) ->
        env.auth.mine.validSuccessor leafId id = true) ->
      (F .mls ∧ F .credentialRejected) ∨
        exists m, (M.proposeUpdate env identity aad seed g).1 = .ok m

theorem serves_any (M : MlsRs) : Serves M fun _ => True where
  signer _ := Or.inl True.intro
  toBytes _ := Or.inl True.intro
  derive _ _ _ := Or.inl True.intro
  exporter _ _ _ _ := Or.inl True.intro
  members _ _ _ _ _ _ _ _ _ := Or.inl True.intro
  propose _ _ _ _ _ _ _ _ := Or.inl ⟨True.intro, True.intro⟩

/-!
## Calls on a half that is held
-/

theorem setHalf_services (s : SessionInner M) (h : Half) (g : M.Group) :
    { s.setHalf h g with services := s.services } = s.setHalf h g := by
  cases h <;> rfl

theorem triple_callHeld {h : Half} {missing : TwoMlsPqError}
    {err : MlsError -> TwoMlsPqError}
    {f : MlsEnv -> M.Group -> Except MlsError α × M.Group}
    {P : SessionInner M -> Prop} {Q : α -> SessionInner M -> Prop}
    {E : TwoMlsPqError -> SessionInner M -> Prop}
    (held : forall s, P s -> (s.half h).isSome = true)
    (hok : forall s g store a, P s -> s.half h = some g ->
      (f (s.services.env store) g).1 = .ok a ->
        Q a (s.setHalf h (f (s.services.env store) g).2))
    (herror : forall s g store e, P s -> s.half h = some g ->
      (f (s.services.env store) g).1 = .error e ->
        E (err e) (s.setHalf h (f (s.services.env store) g).2)) :
    Op.Triple P (callHalf h missing err f) Q E := by
  intro s hs
  rcases Option.isSome_iff_exists.mp (held s hs) with ⟨g, hg⟩
  rcases Option.isSome_iff_exists.mp (halfStore_isSome (held s hs)) with ⟨store, hstore⟩
  unfold callHalf
  rw [run_onHalf hg hstore, run_call]
  dsimp only
  rw [setHalf_services]
  cases hresult : (f (s.services.env store) g).1 with
  | ok a => exact hok s g store a hs hg hresult
  | error e => exact herror s g store e hs hg hresult

theorem triple_readHeld {h : Half} {e : TwoMlsPqError} {P : SessionInner M -> Prop}
    {E : TwoMlsPqError -> SessionInner M -> Prop}
    (held : forall s, P s -> (s.half h).isSome = true) :
    Op.Triple P (readHalf h e : SessionOp M M.Group)
      (fun g s => s.half h = some g ∧ P s) E := by
  intro s hs
  rcases Option.isSome_iff_exists.mp (held s hs) with ⟨g, hg⟩
  rw [run_readHalf hg]
  exact ⟨hg, hs⟩

/-!
## Before the commit is applied
-/

/-- What a prepare has no business with until it commits or proposes.  Of the message
record that is all but the queue, of the ledgers all but what an export or an encoding
enters. -/
structure Aside (M : MlsRs) where
  sendPq : Option M.Group
  recvPq : Option M.Group
  client : TwoMlsPqPrincipal M
  msg : MessageState M
  theirState : PrincipalState
  round : RoundState M
  ledger : LedgerState
  establishment : EstablishmentState M

def SessionInner.aside (_ : Unit) (s : SessionInner M) : Aside M :=
  { sendPq := s.half .sendPq
    recvPq := s.half .recvPq
    client := s.client
    msg := { s.msg with queuedProposal := none }
    theirState := s.rotation.theirState
    round := s.round
    ledger :=
      { s.ledger with
        sendPskLedger := []
        retiredSendPsks := []
        lastCrossInjected := none
        listenRendezvous := []
        recvHeaderKeys := [] }
    establishment := s.establishment }

def SparesAside (x : SessionOp M α) : Prop :=
  Op.Writes SessionInner.aside [] x

structure Prepared (s₀ s : SessionInner M) : Prop where
  send : HalfQuiet (s₀.half .sendClassical) (s.half .sendClassical)
  recv : HalfQuiet (s₀.half .recvClassical) (s.half .recvClassical)
  client : s.client = s₀.client
  rotation : s.rotation = s₀.rotation
  auth : s.services.auth = s₀.services.auth
  staple : s.msg.currentStaple = s₀.msg.currentStaple
  queue : s.msg.queuedProposal = s₀.msg.queuedProposal ∨ s.msg.queuedProposal = none
  kept : s₀.round.owedBind = none -> s.aside () = s₀.aside ()

/-- No commit has been applied since `s₀`. -/
structure Uncommitted (s₀ s : SessionInner M) : Prop where
  send : HalfQuiet (s₀.half .sendClassical) (s.half .sendClassical)
  staple : s.msg.currentStaple = s₀.msg.currentStaple
  owed : s.round.owedBind = s₀.round.owedBind
  theirState : s.rotation.theirState = s₀.rotation.theirState
  theirs : s.services.auth.theirs = s₀.services.auth.theirs

theorem Prepared.uncommitted {s₀ s : SessionInner M} (h : Prepared s₀ s)
    (hnone : s₀.round.owedBind = none) :
    Uncommitted s₀ s where
  send := h.send
  staple := h.staple
  owed := congrArg (fun a => a.round.owedBind) (h.kept hnone)
  theirState := by rw [h.rotation]
  theirs := by rw [h.auth]

theorem Prepared.quiet {s₀ s s' : SessionInner M} (h : Prepared s₀ s)
    (hq : QuietMove s s') (hrotation : s'.rotation = s.rotation)
    (hqueue : s'.msg.queuedProposal = s.msg.queuedProposal)
    (haside : s₀.round.owedBind = none -> s'.aside () = s.aside ()) :
    Prepared s₀ s' where
  send := h.send.trans (hq.1 .sendClassical)
  recv := h.recv.trans (hq.1 .recvClassical)
  client := (congrArg Core.client hq.2).trans h.client
  rotation := hrotation.trans h.rotation
  auth := (congrArg Core.auth hq.2).trans h.auth
  staple := (congrArg Core.staple hq.2).trans h.staple
  queue := by
    rw [hqueue]
    exact h.queue
  kept hnone := (haside hnone).trans (h.kept hnone)

theorem Uncommitted.quiet {s₀ s s' : SessionInner M} (h : Uncommitted s₀ s)
    (hq : QuietMove s s') (hrotation : s'.rotation = s.rotation) :
    Uncommitted s₀ s' where
  send := h.send.trans (hq.1 .sendClassical)
  staple := (congrArg Core.staple hq.2).trans h.staple
  owed := (congrArg Core.owed hq.2).trans h.owed
  theirState := by
    rw [hrotation]
    exact h.theirState
  theirs := (congrArg (fun c => c.auth.theirs) hq.2).trans h.theirs

theorem Uncommitted.refl (s : SessionInner M) : Uncommitted s s where
  send := HalfQuiet.refl _
  staple := rfl
  owed := rfl
  theirState := rfl
  theirs := rfl

def Untouched (s₀ s : SessionInner M) : Prop :=
  Prepared s₀ s ∧ Uncommitted s₀ s ∧ s.aside () = s₀.aside ()

theorem QuietOp.untouched {x : SessionOp M α} {W : List Slot} (hx : QuietOp x)
    (htouches : Touches W x) (hrotation : .rotation ∉ W) (hmsg : .msg ∉ W)
    (haside : SparesAside x) (s₀ : SessionInner M) :
    Op.Keeps (Untouched s₀) x :=
  fun s hs =>
    ⟨hs.1.quiet (hx s) (htouches s .rotation hrotation)
        (congrArg MessageState.queuedProposal (htouches s .msg hmsg))
        fun _ => haside s () List.not_mem_nil,
      hs.2.1.quiet (hx s) (htouches s .rotation hrotation),
      (haside s () List.not_mem_nil).trans hs.2.2⟩

theorem QuietOp.discharging {x : SessionOp M α} {W : List Slot} (hx : QuietOp x)
    (htouches : Touches W x) (hrotation : .rotation ∉ W) (hmsg : .msg ∉ W)
    {s₀ : SessionInner M} (howed : s₀.round.owedBind ≠ none) :
    Op.Keeps (Prepared s₀) x :=
  fun s hs => hs.quiet (hx s) (htouches s .rotation hrotation)
    (congrArg MessageState.queuedProposal (htouches s .msg hmsg))
    fun hnone => absurd hnone howed

theorem prepared_dischargeOwedBind (L : Lawful M) (s₀ : SessionInner M) :
    Op.Keeps (Prepared s₀) dischargeOwedBind := by
  unfold dischargeOwedBind
  refine Op.Keeps.reading fun s hs => ?_
  cases hround : s.round.owedBind with
  | none => exact Op.Keeps.value _
  | some owed =>
      have howed : s₀.round.owedBind ≠ none := by
        intro hnone
        have hkept : s.round.owedBind = s₀.round.owedBind :=
          congrArg (fun a => a.round.owedBind) (hs.kept hnone)
        rw [hkept, hnone] at hround
        cases hround
      refine Op.Keeps.bind ?_ fun _ => ?_
      · exact Op.Keeps.update fun s hs =>
          { hs with kept := fun hnone => absurd hnone howed }
      refine Op.Keeps.looking (still_readHalf _ _) fun send => ?_
      refine Op.Keeps.looking (still_readHalf _ _) fun sendPq => ?_
      refine Op.Keeps.looking (Op.Still.ensure _ _) fun _ => ?_
      refine Op.Keeps.looking (Op.Still.ensure _ _) fun _ => ?_
      refine Op.Keeps.bind ?_ fun apqPsk => ?_
      · exact QuietOp.discharging (QuietOp.onHalf fun _ hs => exportApqPsk_still L _ hs)
          (touches_onHalf (W := [.half .sendPq, .services]) _ _ _ (by decide) (by decide))
          (by decide) (by decide) howed
      refine Op.Keeps.bind ?_ fun _ => Op.Keeps.value _
      exact Op.Keeps.update fun s hs =>
        { hs with kept := fun hnone => absurd hnone howed }

theorem sparesAside_ofTouches {x : SessionOp M α} {W : List Slot} (hx : Touches W x)
    (hW : forall slot, slot ∈ [Slot.half .sendPq, .half .recvPq, .client, .msg, .rotation,
      .round, .ledger, .establishment] -> slot ∉ W) :
    SparesAside x := by
  intro s _ _
  have hread : forall slot, slot ∈ [Slot.half .sendPq, .half .recvPq, .client, .msg,
      .rotation, .round, .ledger, .establishment] -> (x.run s).2.read slot = s.read slot :=
    fun slot hslot => hx s slot (hW slot hslot)
  have hsendPq : (x.run s).2.half .sendPq = s.half .sendPq :=
    hread (.half .sendPq) (by decide)
  have hrecvPq : (x.run s).2.half .recvPq = s.half .recvPq :=
    hread (.half .recvPq) (by decide)
  have hclient : (x.run s).2.client = s.client := hread .client (by decide)
  have hmsg : (x.run s).2.msg = s.msg := hread .msg (by decide)
  have hrotation : (x.run s).2.rotation = s.rotation := hread .rotation (by decide)
  have hround : (x.run s).2.round = s.round := hread .round (by decide)
  have hledger : (x.run s).2.ledger = s.ledger := hread .ledger (by decide)
  have hestablishment : (x.run s).2.establishment = s.establishment :=
    hread .establishment (by decide)
  unfold SessionInner.aside
  rw [hsendPq, hrecvPq, hclient, hmsg, hrotation, hround, hledger, hestablishment]

theorem aside_setSend (s : SessionInner M) (g : M.Group) :
    (s.setHalf .sendClassical g).aside () = s.aside () := by
  unfold SessionInner.aside
  rw [half_setHalf_other (by decide), half_setHalf_other (by decide)]
  rfl

theorem sparesAside_exportClassical {h : Half} (hclassical : h.isPq = false)
    (missing : TwoMlsPqError) (y : StoreId -> HalfOp M α) :
    SparesAside (onHalf h missing y) := by
  cases h with
  | sendClassical =>
      exact sparesAside_ofTouches (touches_onHalf (W := [.half .sendClassical, .services]) _ _ _
        (by decide) (by decide)) (by decide)
  | recvClassical =>
      exact sparesAside_ofTouches (touches_onHalf (W := [.half .recvClassical, .services]) _ _ _
        (by decide) (by decide)) (by decide)
  | sendPq => cases hclassical
  | recvPq => cases hclassical

theorem sparesAside_rememberSendPsk :
    SparesAside (rememberSendPsk : SessionOp M Unit) := by
  unfold rememberSendPsk
  refine Op.Writes.looking (still_readHalf _ _) fun g => ?_
  refine Op.Writes.looking Op.Still.state fun s => ?_
  apply Op.Writes.ite
  · exact Op.Writes.value ()
  · refine Op.Writes.bind (sparesAside_exportClassical rfl _ _) fun exported => ?_
    exact Op.Writes.update fun _ _ _ => rfl

theorem sparesAside_crossPskForCommit :
    SparesAside (crossPskForCommit : SessionOp M (Option ExportedPsk)) := by
  unfold crossPskForCommit
  refine Op.Writes.looking (still_readHalf _ _) fun recv => ?_
  refine Op.Writes.looking Op.Still.state fun s => ?_
  apply Op.Writes.ite
  · exact Op.Writes.value _
  · refine Op.Writes.bind (sparesAside_exportClassical rfl _ _) fun exported => ?_
    refine Op.Writes.looking Op.Still.state fun s => ?_
    refine Op.Writes.looking (Op.Still.ofOption _ _) fun send => ?_
    refine Op.Writes.bind (Op.Writes.update fun _ _ _ => rfl) fun _ => ?_
    exact Op.Writes.value _

theorem sparesAside_refold (folded : Option (PeerProposal M)) :
    SparesAside (refold folded) :=
  sparesAside_ofTouches (touches_refold folded) (by decide)

/-!
## Applying the commit
-/

def foldedTheirs (folded : Option (PeerProposal M)) (s : SessionInner M) :
    PartySequence :=
  match folded with
  | some approved =>
      if approved.proposing ≠ s.rotation.theirState.clientId then
        s.services.auth.theirs.commit approved.proposing
      else s.services.auth.theirs
  | none => s.services.auth.theirs

/-- One commit on the send half since `s₀`; the candidates and our own side of the
recv half are as they were. -/
structure Committed (theirs : PartySequence) (s₀ s : SessionInner M) : Prop where
  send : exists g g',
    s₀.half .sendClassical = some g ∧ s.half .sendClassical = some g' ∧
      M.currentEpoch g' = M.currentEpoch g + 1
  recv : HalfQuiet (s₀.half .recvClassical) (s.half .recvClassical)
  client : s.client = s₀.client
  staged : s.rotation.stagedCandidates = s₀.rotation.stagedCandidates
  deferred : s.rotation.deferredCandidate = s₀.rotation.deferredCandidate
  mine : s.services.auth.mine = s₀.services.auth.mine
  theirs : s.services.auth.theirs = theirs

def PairedSend (F : TwoMlsPqError -> Prop) (s : SessionInner M) : Prop :=
  forall g, s.half .sendClassical = some g ->
    F .mls ∨ (M.roster g).length = 2

def FreshSend (F : TwoMlsPqError -> Prop) (s : SessionInner M) : Prop :=
  forall g, s.half .sendClassical = some g ->
    forall component, F .mls ∨
      exists secret, (M.safeExportSecret component g).1 = .ok secret

/-- What a failure behind the applied commit leaves: the fold is canonical unless
the send half came out of the commit without its two members. -/
def FailedAfter (F : TwoMlsPqError -> Prop) (theirs : PartySequence)
    (e : TwoMlsPqError) (s : SessionInner M) : Prop :=
  F e ∧ ((exists g, s.half .sendClassical = some g ∧ (M.roster g).length ≠ 2) ∨
    s.services.auth.theirs = theirs)

theorem Committed.held {theirs : PartySequence} {s₀ s : SessionInner M}
    (h : Committed theirs s₀ s) :
    (s.half .sendClassical).isSome = true := by
  rcases h.send with ⟨_, g', -, held, -⟩
  rw [held]
  rfl

theorem Committed.touched {theirs : PartySequence} {x : SessionOp M α} {W : List Slot}
    (hx : Touches W x) (hquiet : QuietOp x) (hrotation : .rotation ∉ W)
    (s₀ : SessionInner M) :
    Op.Keeps (Committed theirs s₀) x := by
  intro s hs
  have hq := hquiet s
  have hrot : (x.run s).2.rotation = s.rotation := hx s .rotation hrotation
  have hauth : (x.run s).2.services.auth = s.services.auth := congrArg Core.auth hq.2
  rcases hs.send with ⟨g, g', held₀, held, hepoch⟩
  rcases hq.half_some (h := .sendClassical) held with ⟨g'', held'', same⟩
  constructor
  · exact ⟨g, g'', held₀, held'', same.epoch.trans hepoch⟩
  · exact hs.recv.trans (hq.1 .recvClassical)
  · exact (congrArg Core.client hq.2).trans hs.client
  · rw [hrot]
    exact hs.staged
  · rw [hrot]
    exact hs.deferred
  · rw [hauth]
    exact hs.mine
  · rw [hauth]
    exact hs.theirs

section

variable (L : Lawful M) {F : TwoMlsPqError -> Prop} (V : Serves M F)

include V

theorem exportPsk_serves {domain : PskDomain} {g : M.Group}
    (hfresh : F .mls ∨
      exists secret, (M.safeExportSecret domain.componentId g).1 = .ok secret) :
    forall e, ((exportPsk domain : GroupOp M ExportedPsk).run g).1 = .error e -> F e := by
  intro e he
  have hname : e = .mls := exportPsk_fails domain g e he
  subst hname
  rcases hfresh with hF | ⟨secret, hsecret⟩
  · exact hF
  · unfold exportPsk GroupOp.call at he
    rw [Op.run_bind, Op.run_ofResult] at he
    rcases hrun : M.safeExportSecret domain.componentId g with ⟨r, g'⟩
    rw [hrun] at hsecret he
    cases hsecret
    simp only [Op.run_bind, Op.run_state, Op.run_ofExcept] at he
    rcases V.derive g' secret pskIdLabel with hF | ⟨pskId, hid⟩
    · exact hF
    · rcases V.derive g' secret pskLabel with hF | ⟨psk, hpsk⟩
      · exact hF
      · rw [hid, hpsk] at he
        cases he

theorem triple_rememberSendPsk :
    Op.Triple
      (fun s : SessionInner M => (s.half .sendClassical).isSome = true ∧ FreshSend F s)
      rememberSendPsk (fun _ _ => True) (fun e _ => F e) := by
  unfold rememberSendPsk
  refine Op.Triple.bind (triple_readHeld fun s hs => hs.1) fun g => ?_
  refine Op.Triple.reading fun s hs => ?_
  apply Op.Triple.ite
  · exact fun _ => Op.Triple.value fun _ _ => True.intro
  · intro _
    refine Op.Triple.bind (Q := fun _ _ => True) ?_ fun exported =>
      Op.Triple.update fun _ _ => True.intro
    intro s' hs'
    subst hs'
    rcases hs with ⟨held, hheld, hfresh⟩
    rcases Option.isSome_iff_exists.mp (halfStore_isSome hheld) with ⟨store, hstore⟩
    rw [run_onHalf held hstore]
    cases hexport : ((exportPsk .crossParty : GroupOp M ExportedPsk).run g).1 with
    | ok exported =>
        have hresult : ((HalfOp.ofGroup (exportPsk .crossParty) :
            HalfOp M ExportedPsk).run { services := s'.services, group := g }).1 =
              .ok exported := hexport
        rw [hresult]
        exact True.intro
    | error e =>
        have hresult : ((HalfOp.ofGroup (exportPsk .crossParty) :
            HalfOp M ExportedPsk).run { services := s'.services, group := g }).1 =
              .error e := hexport
        rw [hresult]
        exact exportPsk_serves V (hfresh g held _) e hexport

omit V in
theorem Prepared.held {s₀ s : SessionInner M} (h : Prepared s₀ s) {g₀ : M.Group}
    (held₀ : s₀.half .sendClassical = some g₀) :
    exists g, s.half .sendClassical = some g ∧ Undisturbed g₀ g := by
  have hsend := h.send
  rw [held₀] at hsend
  exact hsend.some_left

omit V in
theorem Prepared.setSend {s₀ s : SessionInner M} (h : Prepared s₀ s) {g g' : M.Group}
    (held : s.half .sendClassical = some g) (same : Undisturbed g g') :
    Prepared s₀ (s.setHalf .sendClassical g') := by
  have hsend := h.send
  rw [held] at hsend
  constructor
  · rw [half_setHalf_held held]
    exact hsend.trans same
  · rw [half_setHalf_other (by decide)]
    exact h.recv
  · exact h.client
  · exact h.rotation
  · exact h.auth
  · exact h.staple
  · exact h.queue
  · exact fun hnone => (aside_setSend s g').trans (h.kept hnone)

structure BuiltSince (s₀ : SessionInner M)
    (request : CommitRequest M.Message M.Signer) (out : CommitOutput M.Message)
    (s : SessionInner M) : Prop where
  prepared : Prepared s₀ s
  built : exists g₀ g env seed,
    s₀.half .sendClassical = some g₀ ∧ Undisturbed g₀ g ∧
      (M.buildCommit env request seed g).1 = .ok out ∧
      s.half .sendClassical = some (M.buildCommit env request seed g).2

include L in
omit V in
theorem triple_buildCommit {s₀ : SessionInner M} {g₀ : M.Group}
    (held₀ : s₀.half .sendClassical = some g₀)
    (request : CommitRequest M.Message M.Signer) (seed : M.Seed) :
    Op.Triple (Prepared s₀)
      (callHalf .sendClassical .sessionNotReady mapCredentialErr fun env =>
        M.buildCommit env request seed)
      (BuiltSince s₀ request) (fun _ s => Prepared s₀ s) := by
  apply triple_callHeld
  · intro s hs
    rcases hs.held held₀ with ⟨g, held, -⟩
    rw [held]
    rfl
  · intro s g store out hs held hbuilt
    have hprepared := hs.setSend held (L.build (s.services.env store) request seed g)
    rcases hs.held held₀ with ⟨g', held', same⟩
    rw [held] at held'
    cases held'
    exact ⟨hprepared, g₀, g, _, seed, held₀, same, hbuilt, half_setHalf_held held⟩
  · intro s g store e hs held _
    exact hs.setSend held (L.build _ request seed g)

structure AppliedSince (F : TwoMlsPqError -> Prop) (s₀ s : SessionInner M) : Prop where
  committed : Committed s₀.services.auth.theirs s₀ s
  theirState : s.rotation.theirState = s₀.rotation.theirState
  fresh : FreshSend F s

include L in
theorem triple_applyCommit {s₀ : SessionInner M} (hpaired : PairedSend F s₀)
    {request : CommitRequest M.Message M.Signer} (hadd : request.addMember = none)
    (out : CommitOutput M.Message) :
    Op.Triple (BuiltSince s₀ request out)
      (callHalf .sendClassical .sessionNotReady (fun _ => .mls) M.applyPendingCommit)
      (fun _ s => PairedSend F s ∧ AppliedSince F s₀ s) (fun _ s => Prepared s₀ s) := by
  apply triple_callHeld
  · rintro s ⟨-, _, _, _, _, -, -, -, held⟩
    rw [held]
    rfl
  · intro s g' store _ hs held happlied
    rcases hs.built with ⟨g₀, g, env, seed, held₀, same, hbuilt, held'⟩
    rw [held] at held'
    cases held'
    have hafter :
        (s.setHalf .sendClassical (M.applyPendingCommit (s.services.env store)
          (M.buildCommit env request seed g).2).2).half .sendClassical =
            some (M.applyPendingCommit (s.services.env store)
              (M.buildCommit env request seed g).2).2 := half_setHalf_held held
    constructor
    · intro g' hg'
      rw [hafter] at hg'
      cases hg'
      rcases hpaired g₀ held₀ with hF | hlength
      · exact Or.inl hF
      · rcases V.members env (s.services.env store) request seed g out hadd hbuilt
          happlied with hF | hsame
        · exact Or.inl hF
        · rw [hsame, same.roster]
          exact Or.inr hlength
    · constructor
      · rcases L.applyOk _ _ happlied with ⟨identity, -, hcommit⟩
        have hepoch := hcommit.epoch
        rw [(L.build env request seed g).epoch, same.epoch] at hepoch
        constructor
        · exact ⟨g₀, _, held₀, hafter, hepoch⟩
        · rw [half_setHalf_other (by decide)]
          exact hs.prepared.recv
        · exact hs.prepared.client
        · exact congrArg RotationState.stagedCandidates hs.prepared.rotation
        · exact congrArg RotationState.deferredCandidate hs.prepared.rotation
        · exact congrArg AuthCore.mine hs.prepared.auth
        · exact congrArg AuthCore.theirs hs.prepared.auth
      · exact congrArg RotationState.theirState hs.prepared.rotation
      · intro g' hg' component
        rw [hafter] at hg'
        cases hg'
        exact V.exporter _ _ component happlied
  · intro s g' store e hs held hfailed
    exact hs.prepared.setSend held (L.applyError _ _ e hfailed)

omit V in
theorem AppliedSince.forgetConsumed {s₀ s : SessionInner M} (h : AppliedSince F s₀ s)
    (crossPsk : Option ExportedPsk) (owed : Option (DischargedBind M)) :
    AppliedSince F s₀ (Session.forgetConsumed crossPsk owed s) := by
  have hcore := core_forgetConsumed crossPsk owed s
  have hrotation : (Session.forgetConsumed crossPsk owed s).rotation = s.rotation :=
    confined_forgetConsumed (W := [.services]) crossPsk owed (by decide) s .rotation
      (by decide)
  have hhalf : (Session.forgetConsumed crossPsk owed s).half = s.half :=
    congrArg Core.half hcore
  have hauth : (Session.forgetConsumed crossPsk owed s).services.auth =
      s.services.auth := congrArg Core.auth hcore
  constructor
  · constructor
    · rw [hhalf]
      exact h.committed.send
    · rw [hhalf]
      exact h.committed.recv
    · exact (congrArg Core.client hcore).trans h.committed.client
    · rw [hrotation]
      exact h.committed.staged
    · rw [hrotation]
      exact h.committed.deferred
    · rw [hauth]
      exact h.committed.mine
    · rw [hauth]
      exact h.committed.theirs
  · rw [hrotation]
    exact h.theirState
  · unfold FreshSend
    rw [hhalf]
    exact h.fresh

omit V in
theorem AppliedSince.canonicalizeFold {s₀ s : SessionInner M} (h : AppliedSince F s₀ s)
    (folded : Option (PeerProposal M)) :
    Committed (foldedTheirs folded s₀) s₀ (Session.canonicalizeFold folded s) ∧
      FreshSend F (Session.canonicalizeFold folded s) := by
  unfold Session.canonicalizeFold foldedTheirs
  rw [← h.theirState, ← h.committed.theirs]
  cases folded with
  | none => exact ⟨{ h.committed with theirs := rfl }, h.fresh⟩
  | some approved =>
      dsimp only
      split
      · constructor
        · constructor
          · exact h.committed.send
          · exact h.committed.recv
          · exact h.committed.client
          · exact h.committed.staged
          · exact h.committed.deferred
          · exact h.committed.mine
          · rfl
        · exact h.fresh
      · exact ⟨{ h.committed with theirs := rfl }, h.fresh⟩

include L in
theorem triple_concludeCommit {s₀ : SessionInner M}
    (folded : Option (PeerProposal M)) (crossPsk : Option ExportedPsk)
    (owed : Option (DischargedBind M)) (message : M.Message) :
    Op.Triple (AppliedSince F s₀)
      (do
        Op.update (forgetConsumed crossPsk owed)
        Op.update (canonicalizeFold folded)
        rememberSendPsk
        let clCommit <- Op.ofExcept (orError .mls (Blob.ofMessage message))
        Op.update fun s => s.mapMsg fun m =>
          { m with
            currentStaple := some (stapleOf clCommit owed)
            currentStapleSeq := s.stateSeq
            offeredProposal := none })
      (fun _ s => Committed (foldedTheirs folded s₀) s₀ s)
      (FailedAfter F (foldedTheirs folded s₀)) := by
  refine Op.Triple.bind (Q := fun _ => AppliedSince F s₀) ?_ fun _ => ?_
  · exact Op.Triple.update fun s hs => hs.forgetConsumed crossPsk owed
  refine Op.Triple.bind
    (Q := fun _ s => Committed (foldedTheirs folded s₀) s₀ s ∧ FreshSend F s) ?_
    fun _ => ?_
  · exact Op.Triple.update fun s hs => hs.canonicalizeFold folded
  refine Op.Triple.bind
    (Q := fun _ s => Committed (foldedTheirs folded s₀) s₀ s) ?_ fun _ => ?_
  · have hkeeps : Op.Keeps (Committed (foldedTheirs folded s₀) s₀)
        (rememberSendPsk : SessionOp M Unit) :=
      Committed.touched touches_rememberSendPsk (quiet_rememberSendPsk L) (by decide) s₀
    refine Op.Triple.pre (Op.Triple.post (Op.Triple.both (Op.Triple.ofKeeps hkeeps)
      (triple_rememberSendPsk V) ?_) ?_) ?_
    · exact fun e s hs he => ⟨he, Or.inr hs.theirs⟩
    · exact fun _ s hs => hs.1
    · exact fun s hs => ⟨hs.1, hs.1.held, hs.2⟩
  refine Op.Triple.bind
    (Q := fun _ s => Committed (foldedTheirs folded s₀) s₀ s) ?_ fun clCommit => ?_
  · intro s hs
    rw [Op.run_ofExcept]
    rcases V.toBytes message with hF | ⟨bytes, hbytes⟩
    · cases hblob : orError TwoMlsPqError.mls (Blob.ofMessage message) with
      | ok b => exact hs
      | error e =>
          have hname := orError_error hblob
          subst hname
          exact ⟨hF, Or.inr hs.theirs⟩
    · unfold Blob.ofMessage
      rw [hbytes]
      exact hs
  · exact Op.Triple.update fun s hs => { hs with send := hs.send }

include L in
theorem triple_dischargeAndCommit {s₀ : SessionInner M} {g₀ : M.Group}
    (held₀ : s₀.half .sendClassical = some g₀) (hpaired : PairedSend F s₀)
    (folded : Option (PeerProposal M)) (crossPsk : Option ExportedPsk)
    (handoff : Option (M.Signer × Bytes)) (seed : M.Seed) :
    Op.Triple (Prepared s₀) (dischargeAndCommit folded crossPsk handoff seed)
      (fun _ s => Committed (foldedTheirs folded s₀) s₀ s)
      (fun e s => Prepared s₀ s ∨ FailedAfter F (foldedTheirs folded s₀) e s) := by
  unfold dischargeAndCommit
  refine Op.Triple.bind (Q := fun _ => Prepared s₀) ?_ fun owed => ?_
  · exact (Op.Triple.ofKeeps (prepared_dischargeOwedBind L s₀)).weaken
      (fun _ _ hs => hs) fun _ _ hs => Or.inl hs
  refine Op.Triple.bind
    ((triple_buildCommit L held₀ _ _).weaken (fun _ _ hs => hs)
      fun _ _ hs => Or.inl hs) fun output => ?_
  refine Op.Triple.bind
    ((triple_applyCommit L V hpaired rfl output).weaken (fun _ _ hs => hs)
      fun _ _ hs => Or.inl hs) fun _ => ?_
  refine Op.Triple.bind (triple_readHeld fun s hs => hs.2.committed.held) fun send => ?_
  refine Op.Triple.bind (Q := fun _ => AppliedSince F s₀) ?_ fun _ => ?_
  · rintro s ⟨held, hpairedNow, happlied⟩
    rw [Op.run_ofExcept]
    unfold ensureTwoParty
    by_cases hlength : (M.roster send).length = 2
    · rw [if_pos hlength]
      exact happlied
    · rw [if_neg hlength]
      rcases hpairedNow send held with hF | hpair
      · exact Or.inr ⟨hF, Or.inl ⟨send, held, hlength⟩⟩
      · exact absurd hpair hlength
  · exact (triple_concludeCommit L V folded crossPsk owed _).weaken
      (fun _ _ hs => hs) fun _ _ hs => Or.inr hs

omit V in
include L in
theorem quiet_refold {folded : Option (PeerProposal M)}
    (happroved : ApprovedProposal folded) :
    QuietOp (refold folded) := by
  unfold refold
  cases folded with
  | none => exact QuietOp.pure ()
  | some approved =>
      intro s
      dsimp only
      cases hparsed : approved.proposal.parsed with
      | none => exact Quiet.refl _
      | some m =>
          have hkind : (M.description m).contentType ≠ some .commit := by
            rw [happroved approved m rfl hparsed]
            decide
          have hcall : QuietOp (callHalf .sendClassical .sessionNotReady
              mapCredentialErr fun env => M.processIncomingMessage env m) :=
            QuietOp.callHalf fun env g => process_undisturbed L hkind env g
          exact hcall.bind (fun _ => QuietOp.pure ()) s

/-- What a failure of the committing half leaves: the commit is not applied, or the
failure has a fatal or an expected name. -/
def CommitFailed (F : TwoMlsPqError -> Prop) (theirs : PartySequence)
    (s₀ : SessionInner M) (e : TwoMlsPqError) (s : SessionInner M) : Prop :=
  (Prepared s₀ s ∧ (e = .bindDischargeFailed ∨ Untouched s₀ s)) ∨
    ((e = .bindDischargeFailed ∨ F e) ∧
      ((exists g, s.half .sendClassical = some g ∧ (M.roster g).length ≠ 2) ∨
        s.services.auth.theirs = theirs))

omit V in
theorem Untouched.commitFailed {s₀ s : SessionInner M} (h : Untouched s₀ s)
    (theirs : PartySequence) (e : TwoMlsPqError) :
    CommitFailed F theirs s₀ e s :=
  Or.inl ⟨h.1, Or.inr h⟩

include L in
theorem triple_commitRound {s₀ : SessionInner M} {g₀ : M.Group}
    (held₀ : s₀.half .sendClassical = some g₀) (hpaired : PairedSend F s₀)
    {folded : Option (PeerProposal M)} (happroved : ApprovedProposal folded)
    (seed : M.Seed) :
    Op.Triple (Untouched s₀) (commitRound folded seed)
      (fun _ s => Committed (foldedTheirs folded s₀) s₀ s)
      (CommitFailed F (foldedTheirs folded s₀) s₀) := by
  have hkeeps : forall {β : Type} {x : SessionOp M β} {W : List Slot}, QuietOp x ->
      Touches W x -> .rotation ∉ W -> .msg ∉ W -> SparesAside x ->
      Op.Triple (Untouched s₀) x (fun _ => Untouched s₀)
        (CommitFailed F (foldedTheirs folded s₀) s₀) :=
    fun hx hW hrotation hmsg haside =>
      (Op.Triple.ofKeeps (hx.untouched hW hrotation hmsg haside s₀)).weaken
        (fun _ _ hs => hs) fun e s hs => hs.commitFailed _ e
  unfold commitRound
  refine Op.Triple.bind
    (hkeeps (quiet_rememberSendPsk L) touches_rememberSendPsk (by decide) (by decide)
      sparesAside_rememberSendPsk) fun _ => ?_
  refine Op.Triple.bind
    (hkeeps (quiet_crossPskForCommit L) touches_crossPskForCommit (by decide) (by decide)
      sparesAside_crossPskForCommit) fun crossPsk => ?_
  refine Op.Triple.looking still_handoffForCommit (fun e _ hs => hs.commitFailed _ e)
    fun handoff => ?_
  refine Op.Triple.bind
    (hkeeps (quiet_refold L happroved) (touches_refold folded) (by decide) (by decide)
      (sparesAside_refold folded)) fun _ => ?_
  refine Op.Triple.reading fun s hs => ?_
  apply Op.Triple.mapError
  refine ((triple_dischargeAndCommit L V held₀ hpaired folded crossPsk handoff
    seed).weaken (fun _ _ hs' => hs') ?_).pre fun s' hs' => by
      rw [hs']
      exact hs.1
  intro e s' hs'
  unfold dischargeErr
  by_cases howed : s.round.owedBind.isSome = true
  · rw [if_pos howed]
    rcases hs' with hprepared | hfailed
    · exact Or.inl ⟨hprepared, Or.inl rfl⟩
    · exact Or.inr ⟨Or.inl rfl, hfailed.2⟩
  · rw [if_neg howed]
    rcases hs' with hprepared | hfailed
    · have hnone : s₀.round.owedBind = none := by
        rw [← hs.2.1.owed]
        simpa using howed
      exact Or.inl ⟨hprepared, Or.inr
        ⟨hprepared, hprepared.uncommitted hnone, hprepared.kept hnone⟩⟩
    · exact Or.inr ⟨Or.inr hfailed.1, hfailed.2⟩

end

/-!
## What a failure is called

With both groups in place a send fails under the name of a library call, or for
want of a candidate.
-/

def LibraryError (e : TwoMlsPqError) : Prop :=
  e = .mls ∨ e = .credentialRejected ∨ e = .decryptionFailed ∨
    e = .bindDischargeFailed

def BothHeld (s : SessionInner M) : Prop :=
  s.sendGroup.isSome = true ∧ s.recvGroup.isSome = true

def Blames (x : SessionOp M α) : Prop :=
  Op.Triple BothHeld x (fun _ => BothHeld) fun e s => LibraryError e ∧ BothHeld s

theorem libraryError_credential (e : MlsError) : LibraryError (mapCredentialErr e) := by
  cases e <;> simp [LibraryError, mapCredentialErr]

theorem libraryError_mls : LibraryError .mls :=
  Or.inl rfl

theorem libraryError_orError {r : Except MlsError α} {e : TwoMlsPqError}
    (h : orError .mls r = .error e) :
    LibraryError e := by
  rw [orError_error h]
  exact libraryError_mls

theorem BothHeld.half {s : SessionInner M} (h : BothHeld s) {hf : Half}
    (hclassical : hf = .sendClassical ∨ hf = .recvClassical) :
    (s.half hf).isSome = true := by
  rcases hclassical with rfl | rfl
  · simpa [SessionInner.half] using h.1
  · simpa [SessionInner.half] using h.2

theorem bothHeld_iff {s : SessionInner M} :
    BothHeld s ↔
      (s.half .sendClassical).isSome = true ∧ (s.half .recvClassical).isSome = true := by
  simp [BothHeld, SessionInner.half]

theorem bothHeld_onHalf (h : Half) (missing : TwoMlsPqError)
    (y : StoreId -> HalfOp M α) :
    Op.Keeps BothHeld (onHalf h missing y) := by
  intro s hs
  unfold onHalf
  rw [Op.run_ofResult]
  split
  · unfold BothHeld at hs ⊢
    cases h <;> simpa [SessionInner.setHalf] using hs
  · exact hs

namespace Blames

theorem value (a : α) : Blames (pure a : SessionOp M α) :=
  fun _ hs => hs

theorem bind {β : Type} {x : SessionOp M α} {f : α -> SessionOp M β}
    (hx : Blames x) (hf : forall a, Blames (f a)) :
    Blames (x >>= f) :=
  Op.Triple.bind hx hf

theorem state : Blames (Op.state : SessionOp M (SessionInner M)) :=
  fun _ hs => hs

theorem update {f : SessionInner M -> SessionInner M}
    (h : forall s, BothHeld s -> BothHeld (f s)) :
    Blames (Op.update f) :=
  fun s hs => h s hs

theorem ofExcept {r : Result α} (h : forall e, r = .error e -> LibraryError e) :
    Blames (Op.ofExcept r : SessionOp M α) := by
  intro s hs
  rw [Op.run_ofExcept]
  cases r with
  | ok a => exact hs
  | error e => exact ⟨h e rfl, hs⟩

theorem readHalf {h : Half} (hclassical : h = .sendClassical ∨ h = .recvClassical)
    (e : TwoMlsPqError) :
    Blames (Session.readHalf h e : SessionOp M M.Group) :=
  (triple_readHeld fun _ hs => hs.half hclassical).post fun _ _ hs => hs.2

theorem onHalf {h : Half} (hclassical : h = .sendClassical ∨ h = .recvClassical)
    (missing : TwoMlsPqError) {y : StoreId -> HalfOp M α}
    (hy : forall store, Op.Fails (y store) LibraryError) :
    Blames (Session.onHalf h missing y) := by
  intro s hs
  have hkept := bothHeld_onHalf h missing y s hs
  have held := hs.half hclassical
  rcases Option.isSome_iff_exists.mp held with ⟨g, hg⟩
  rcases Option.isSome_iff_exists.mp (halfStore_isSome held) with ⟨store, hstore⟩
  cases hresult : ((Session.onHalf h missing y).run s).1 with
  | ok a => exact hkept
  | error e =>
      refine ⟨?_, hkept⟩
      rw [run_onHalf hg hstore] at hresult
      exact hy store _ e hresult

theorem callHalf {h : Half} (hclassical : h = .sendClassical ∨ h = .recvClassical)
    (missing : TwoMlsPqError) {err : MlsError -> TwoMlsPqError}
    (f : MlsEnv -> M.Group -> Except MlsError α × M.Group)
    (herr : forall e, LibraryError (err e)) :
    Blames (Session.callHalf h missing err f) := by
  apply onHalf hclassical
  intro store hs e he
  rw [run_call] at he
  cases hcall : (f (hs.services.env store) hs.group).1 with
  | ok a =>
      rw [hcall] at he
      cases he
  | error e' =>
      rw [hcall] at he
      cases he
      exact herr e'

theorem exported {h : Half} (hclassical : h = .sendClassical ∨ h = .recvClassical)
    (missing : TwoMlsPqError) (domain : PskDomain) :
    Blames (Session.onHalf h missing fun _ =>
      HalfOp.ofGroup (exportPsk domain : GroupOp M ExportedPsk)) := by
  apply onHalf hclassical
  intro store hs e he
  rw [exportPsk_fails domain hs.group e he]
  exact libraryError_mls

theorem ite {c : Prop} [Decidable c] {x y : SessionOp M α}
    (hx : Blames x) (hy : Blames y) :
    Blames (if c then x else y) :=
  Op.Triple.ite (fun _ => hx) fun _ => hy

end Blames

theorem libraryError_sender {g : M.Group} {index : Nat} {e : TwoMlsPqError}
    (h : senderClientId g index = .error e) :
    LibraryError e := by
  unfold senderClientId at h
  split at h
  · split at h
    · cases h
    · cases h
      exact Or.inr (Or.inr (Or.inl rfl))
  · cases h
    exact Or.inr (Or.inr (Or.inl rfl))

theorem blames_rememberSendPsk : Blames (rememberSendPsk : SessionOp M Unit) := by
  unfold rememberSendPsk
  refine Blames.bind (Blames.readHalf (Or.inl rfl) _) fun g => ?_
  refine Blames.bind Blames.state fun s => ?_
  apply Blames.ite
  · exact Blames.value ()
  · refine Blames.bind (Blames.exported (Or.inl rfl) _ _) fun exported => ?_
    exact Blames.update fun _ hs => hs

theorem blames_crossPskForCommit :
    Blames (crossPskForCommit : SessionOp M (Option ExportedPsk)) := by
  unfold crossPskForCommit
  refine Blames.bind (Blames.readHalf (Or.inr rfl) _) fun recv => ?_
  dsimp only
  refine Blames.bind Blames.state fun s => ?_
  apply Blames.ite
  · exact Blames.value _
  · refine Blames.bind (Blames.exported (Or.inr rfl) _ _) fun exported => ?_
    refine Op.Triple.reading fun s' hs' => ?_
    rcases Option.isSome_iff_exists.mp hs'.1 with ⟨send, hsend⟩
    rw [hsend]
    apply Op.Triple.present
    refine Op.Triple.pre ?_ fun s'' hs'' => hs''.symm ▸ hs'
    refine Blames.bind ?_ fun _ => Blames.value _
    exact Blames.update fun _ hs => hs

theorem blames_handoffForCommit :
    Blames (handoffForCommit : SessionOp M (Option (M.Signer × Bytes))) := by
  unfold handoffForCommit
  refine Blames.bind Blames.state fun s => ?_
  refine Blames.bind (Blames.readHalf (Or.inl rfl) _) fun send => ?_
  refine Blames.bind (Blames.ofExcept fun e he => libraryError_sender he) fun leafId => ?_
  exact Blames.value _

theorem blames_parsed (b : Blob M) :
    Blames (Op.ofOption b.parsed .mls : SessionOp M M.Message) := by
  intro s hs
  cases b.parsed with
  | none => exact ⟨libraryError_mls, hs⟩
  | some m => exact hs

theorem blames_refold (folded : Option (PeerProposal M)) : Blames (refold folded) := by
  unfold refold
  cases folded with
  | none => exact Blames.value ()
  | some approved =>
      refine Blames.bind (blames_parsed _) fun message => ?_
      refine Blames.bind (Blames.callHalf (Or.inl rfl) _ _ libraryError_credential)
        fun _ => ?_
      exact Blames.value ()

theorem blames_commitDischarged (folded : Option (PeerProposal M))
    (crossPsk : Option ExportedPsk) (handoff : Option (M.Signer × Bytes))
    (seed : M.Seed) (owed : Option (DischargedBind M)) :
    Blames (do
      let output <-
        callHalf .sendClassical .sessionNotReady mapCredentialErr fun env =>
          M.buildCommit env (commitRequest crossPsk owed handoff) seed
      callHalf .sendClassical .sessionNotReady (fun _ => .mls) M.applyPendingCommit
      let send <- readHalf .sendClassical .sessionNotReady
      Op.ofExcept (ensureTwoParty send)
      Op.update (forgetConsumed crossPsk owed)
      Op.update (canonicalizeFold folded)
      rememberSendPsk
      let clCommit <-
        Op.ofExcept (orError .mls (Blob.ofMessage output.commitMessage))
      Op.update fun s => s.mapMsg fun m =>
        { m with
          currentStaple := some (stapleOf clCommit owed)
          currentStapleSeq := s.stateSeq
          offeredProposal := none }) := by
  refine Blames.bind (Blames.callHalf (Or.inl rfl) _ _ libraryError_credential)
    fun output => ?_
  refine Blames.bind
    (Blames.callHalf (Or.inl rfl) _ _ fun _ => libraryError_mls) fun _ => ?_
  refine Blames.bind (Blames.readHalf (Or.inl rfl) _) fun send => ?_
  refine Blames.bind (Blames.ofExcept fun e he => ?_) fun _ => ?_
  · unfold ensureTwoParty at he
    split at he
    · cases he
    · cases he
      exact libraryError_mls
  refine Blames.bind (Blames.update fun s hs => ?_) fun _ => ?_
  · have hhalf : (forgetConsumed crossPsk owed s).half = s.half :=
      congrArg Core.half (core_forgetConsumed crossPsk owed s)
    rw [bothHeld_iff, hhalf]
    exact bothHeld_iff.mp hs
  refine Blames.bind (Blames.update fun s hs => ?_) fun _ => ?_
  · unfold canonicalizeFold
    cases folded with
    | none => exact hs
    | some approved =>
        dsimp only
        split
        · exact hs
        · exact hs
  refine Blames.bind blames_rememberSendPsk fun _ => ?_
  refine Blames.bind (Blames.ofExcept fun e he => libraryError_orError he)
    fun clCommit => ?_
  exact Blames.update fun _ hs => hs

theorem bothHeld_dischargeOwedBind :
    Op.Keeps BothHeld (dischargeOwedBind : SessionOp M (Option (DischargedBind M))) := by
  unfold dischargeOwedBind
  refine Op.Keeps.looking Op.Still.state fun s => ?_
  split
  · exact Op.Keeps.value _
  · refine Op.Keeps.bind (Op.Keeps.update fun _ hs => hs) fun _ => ?_
    refine Op.Keeps.looking (still_readHalf _ _) fun send => ?_
    refine Op.Keeps.looking (still_readHalf _ _) fun sendPq => ?_
    refine Op.Keeps.looking (Op.Still.ensure _ _) fun _ => ?_
    refine Op.Keeps.looking (Op.Still.ensure _ _) fun _ => ?_
    refine Op.Keeps.bind (bothHeld_onHalf _ _ _) fun apqPsk => ?_
    exact Op.Keeps.bind (Op.Keeps.update fun _ hs => hs) fun _ => Op.Keeps.value _

theorem blames_commitRound (folded : Option (PeerProposal M)) (seed : M.Seed) :
    Blames (commitRound folded seed) := by
  unfold commitRound
  refine Blames.bind blames_rememberSendPsk fun _ => ?_
  refine Blames.bind blames_crossPskForCommit fun crossPsk => ?_
  refine Blames.bind blames_handoffForCommit fun handoff => ?_
  refine Blames.bind (blames_refold folded) fun _ => ?_
  refine Op.Triple.reading fun s hs => ?_
  apply Op.Triple.mapError
  unfold dischargeErr dischargeAndCommit
  by_cases howed : s.round.owedBind.isSome = true
  · -- whatever fails now wears the fatal name
    have hfatal : forall {e : TwoMlsPqError} {s' : SessionInner M}, BothHeld s' ->
        LibraryError (if s.round.owedBind.isSome = true then .bindDischargeFailed
          else e) ∧ BothHeld s' := by
      intro e s' hs'
      rw [if_pos howed]
      exact ⟨Or.inr (Or.inr (Or.inr rfl)), hs'⟩
    refine Op.Triple.bind (Q := fun _ => BothHeld) ?_ fun owed => ?_
    · refine ((Op.Triple.ofKeeps bothHeld_dischargeOwedBind).weaken
        (fun _ _ hs' => hs') fun _ _ hs' => hfatal hs').pre fun s' hs' => ?_
      rw [hs']
      exact hs
    · exact (blames_commitDischarged folded crossPsk handoff seed owed).weaken
        (fun _ _ hs' => hs') fun _ _ hs' => hfatal hs'.2
  · have hnone : s.round.owedBind = none := by simpa using howed
    refine Op.Triple.bind (Q := fun _ => BothHeld) ?_ fun owed => ?_
    · intro s' hs'
      rw [hs', run_dischargeOwedBind_none hnone]
      exact hs
    · refine (blames_commitDischarged folded crossPsk handoff seed owed).weaken
        (fun _ _ hs' => hs') fun _ _ hs' => ?_
      rw [if_neg howed]
      exact hs'

/-!
## Selecting the candidate
-/

def chosenCandidate (s : SessionInner M) (selected : Option Bytes) : Option Bytes :=
  match selected with
  | some id => some id
  | none =>
      if s.rotation.stagedCandidates.length < candidateWindow then
        s.rotation.deferredCandidate
      else none

def isStaged (s : SessionInner M) (id : Bytes) : Bool :=
  s.rotation.stagedCandidates.any fun c => c.clientId == id

/-- There is, or will be, a candidate behind the chosen id: it is staged, or it can
be staged now and is not parked by the caller's own id. -/
def Proposable (s : SessionInner M) (selected : Option Bytes) : Prop :=
  forall id, chosenCandidate s selected = some id ->
    id ≠ [] ∧
      (isStaged s id = true ∨
        s.rotation.stagedCandidates.length < candidateWindow ∧
          (selected = none ∨ s.rotation.deferredCandidate ≠ some id))

def admittedMine (s : SessionInner M) (chosen : Option Bytes) : PartySequence :=
  match chosen with
  | some id =>
      if isStaged s id then s.services.auth.mine else s.services.auth.mine.authorize id
  | none => s.services.auth.mine

theorem admittedMine_staged {s : SessionInner M} {id : Bytes}
    (h : isStaged s id = true) :
    admittedMine s (some id) = s.services.auth.mine :=
  if_pos h

theorem admittedMine_unstaged {s : SessionInner M} {id : Bytes}
    (h : isStaged s id = false) :
    admittedMine s (some id) = s.services.auth.mine.authorize id := by
  apply if_neg
  rw [h]
  exact Bool.false_ne_true

structure Selected (s₀ : SessionInner M) (chosen : Option Bytes)
    (s : SessionInner M) : Prop where
  half : s.half = s₀.half
  client : s.client = s₀.client
  found : forall id, chosen = some id -> isStaged s id = true
  mine : s.services.auth.mine = admittedMine s₀ chosen

structure Admitting (s₀ : SessionInner M) (id : Bytes) (s : SessionInner M) : Prop where
  half : s.half = s₀.half
  client : s.client = s₀.client
  auth : s.services.auth = s₀.services.auth
  staged : s.rotation.stagedCandidates = s₀.rotation.stagedCandidates
  named : id ≠ []
  room :
    isStaged s id = true ∨
      s.rotation.stagedCandidates.length < candidateWindow ∧
        s.rotation.deferredCandidate ≠ some id

theorem isStaged_congr {s s' : SessionInner M}
    (h : s.rotation.stagedCandidates = s'.rotation.stagedCandidates) (id : Bytes) :
    isStaged s id = isStaged s' id := by
  unfold isStaged
  rw [h]

section

variable {F : TwoMlsPqError -> Prop} (V : Serves M F)

include V

theorem new_serves {handle : Nat} {id : Bytes} {rnd : Nat -> M.Seed}
    {e : TwoMlsPqError} (h : TwoMlsPqPrincipal.new handle id rnd = .error e) :
    F e := by
  unfold TwoMlsPqPrincipal.new at h
  rcases V.signer (rnd 0) with hF | ⟨k, hk⟩
  · cases h₀ : M.signatureKeyGenerate (rnd 0) with
    | error e₀ =>
        rw [h₀] at h
        cases h
        exact hF
    | ok k =>
        rw [h₀] at h
        cases h₁ : M.signatureKeyGenerate (rnd 1) with
        | error e₁ =>
            rw [h₁] at h
            cases h
            exact hF
        | ok k' =>
            rw [h₁] at h
            cases h
  · rw [hk] at h
    rcases V.signer (rnd 1) with hF | ⟨k', hk'⟩
    · cases h₁ : M.signatureKeyGenerate (rnd 1) with
      | error e₁ =>
          rw [h₁] at h
          cases h
          exact hF
      | ok k' =>
          rw [h₁] at h
          cases h
    · rw [hk'] at h
      cases h

theorem triple_stageOrDefer {s₀ : SessionInner M} {id : Bytes} (rnd : Nat -> M.Seed)
    (hunstaged : isStaged s₀ id = false) :
    Op.Triple
      (fun s => Admitting s₀ id s ∧
        s.rotation.stagedCandidates.length < candidateWindow)
      (stageOrDefer id rnd) (fun _ => Selected s₀ (some id)) (fun e _ => F e) := by
  unfold stageOrDefer
  refine Op.Triple.reading fun s hs => ?_
  rw [if_pos hs.2]
  refine Op.Triple.bind
    (Q := fun candidate s' => s' = s ∧ candidate.clientId = id) ?_ fun candidate => ?_
  · intro s' hs'
    rw [Op.run_ofExcept]
    cases hnew : TwoMlsPqPrincipal.new s.nextHandle id rnd with
    | error e => exact new_serves V hnew
    | ok candidate => exact ⟨hs', (principal_new_clientId hnew).1⟩
  · apply Op.Triple.update
    rintro s' ⟨rfl, hid⟩
    constructor
    · exact hs.1.half
    · exact hs.1.client
    · intro id' hid'
      cases hid'
      unfold isStaged
      simp [SessionInner.mapRotation, hid]
    · rw [admittedMine_unstaged hunstaged]
      change s'.services.auth.mine.authorize id = s₀.services.auth.mine.authorize id
      rw [hs.1.auth]

theorem triple_admitCandidate {s₀ : SessionInner M} {id : Bytes}
    (rnd : Nat -> M.Seed) :
    Op.Triple (Admitting s₀ id) (admitCandidate id rnd)
      (fun _ => Selected s₀ (some id)) (fun e _ => F e) := by
  unfold admitCandidate
  refine Op.Triple.bind (Q := fun _ => Admitting s₀ id) ?_ fun _ => ?_
  · intro s hs
    rw [Op.run_ensure hs.named]
    exact hs
  refine Op.Triple.reading fun s hs => ?_
  have hsame := isStaged_congr hs.staged id
  apply Op.Triple.ite
  · intro hknown
    apply Op.Triple.value
    intro s' hs'
    subst hs'
    have hstaged : isStaged s' id = true := by
      rcases hs.room with hstaged | ⟨-, hfree⟩
      · exact hstaged
      · simpa [isStaged, hfree] using hknown
    constructor
    · exact hs.half
    · exact hs.client
    · intro id' hid'
      cases hid'
      exact hstaged
    · rw [admittedMine_staged (hsame.symm.trans hstaged), hs.auth]
  · intro hunknown
    have hunstaged : isStaged s id = false := by
      cases hstaged : isStaged s id with
      | false => rfl
      | true =>
          unfold isStaged at hstaged
          simp [hstaged] at hunknown
    have hroom : s.rotation.stagedCandidates.length < candidateWindow := by
      rcases hs.room with hstaged | ⟨hroom, -⟩
      · rw [hunstaged] at hstaged
        cases hstaged
      · exact hroom
    rw [hsame] at hunstaged
    refine Op.Triple.bind
      ((triple_stageOrDefer V rnd hunstaged).pre fun s' hs' => ?_) fun _ => ?_
    · rw [hs']
      exact ⟨hs, hroom⟩
    · exact Op.Triple.update fun s' hs' =>
        { half := hs'.half, client := hs'.client, found := hs'.found, mine := hs'.mine }

theorem triple_selectCandidate {s₀ : SessionInner M} {selected : Option Bytes}
    (hproposable : Proposable s₀ selected) (rnd : Nat -> M.Seed) :
    Op.Triple (fun s => s = s₀) (selectCandidate selected rnd)
      (fun chosen s =>
        chosen = chosenCandidate s₀ selected ∧ Selected s₀ chosen s)
      (fun e _ => F e) := by
  unfold selectCandidate
  refine Op.Triple.reading fun s hs => ?_
  subst hs
  cases selected with
  | some id =>
      rcases hproposable id rfl with ⟨hnamed, hroom⟩
      dsimp only
      refine Op.Triple.bind (Q := fun _ => Selected s (some id)) ?_ fun _ =>
        Op.Triple.value fun s' hs' => ⟨rfl, hs'⟩
      refine (triple_admitCandidate V rnd).pre fun s' hs' => ?_
      rw [hs']
      refine ⟨rfl, rfl, rfl, rfl, hnamed, ?_⟩
      rcases hroom with hstaged | ⟨hroom, hnone | hfree⟩
      · exact Or.inl hstaged
      · cases hnone
      · exact Or.inr ⟨hroom, hfree⟩
  | none =>
      have hidle : Selected s none s := by
        constructor
        · rfl
        · rfl
        · intro id hid
          cases hid
        · rfl
      dsimp only
      apply Op.Triple.ite
      · intro hwindow
        have hchosen : chosenCandidate s none = s.rotation.deferredCandidate :=
          if_pos hwindow
        rw [hchosen]
        cases hdeferred : s.rotation.deferredCandidate with
        | none =>
            exact Op.Triple.value fun s' hs' => ⟨rfl, hs'.symm ▸ hidle⟩
        | some id =>
            rcases hproposable id (hchosen.trans hdeferred) with ⟨hnamed, -⟩
            dsimp only
            refine Op.Triple.bind (Q := fun _ => Admitting s id) ?_ fun _ => ?_
            · apply Op.Triple.update
              intro s' hs'
              rw [hs']
              exact ⟨rfl, rfl, rfl, rfl, hnamed, Or.inr ⟨hwindow, nofun⟩⟩
            refine Op.Triple.bind (triple_admitCandidate V rnd) fun _ => ?_
            exact Op.Triple.value fun s' hs' => ⟨rfl, hs'⟩
      · intro hfull
        have hchosen : chosenCandidate s none = none := if_neg hfull
        rw [hchosen]
        exact Op.Triple.value fun s' hs' => ⟨rfl, hs'.symm ▸ hidle⟩

/-!
## Proposing the update
-/

def AdmissibleUpdate (s : SessionInner M) (chosen : Option Bytes) : Prop :=
  forall g, s.half .recvClassical = some g ->
    exists leafId, senderClientId g (M.currentMemberIndex g) = .ok leafId ∧
      (admittedMine s chosen).validSuccessor leafId
        (chosen.getD s.client.clientId) = true

structure Proposing (s₀ : SessionInner M) (chosen : Option Bytes)
    (candidate : Option (TwoMlsPqPrincipal M)) (s : SessionInner M) : Prop extends
    Selected s₀ chosen s where
  staged : forall c, candidate = some c ->
    c ∈ s.rotation.stagedCandidates ∧ chosen = some c.clientId
  plain : candidate = none -> chosen = none

structure OffersCandidate (s₀ : SessionInner M)
    (candidate : Option (TwoMlsPqPrincipal M)) (b : Blob M)
    (s : SessionInner M) : Prop where
  client : s.client = s₀.client
  staged : forall c, candidate = some c -> c ∈ s.rotation.stagedCandidates
  pending : exists m g identity,
    b.parsed = some m ∧ s.half .recvClassical = some g ∧
      (m, identity) ∈ M.pendingUpdates g ∧
      forall c, candidate = some c -> identity = some (c.classicalSigner, c.clientId)

omit V in
theorem triple_proposingClient {s₀ : SessionInner M} (chosen : Option Bytes) :
    Op.Triple (Selected s₀ chosen) (proposingClient chosen)
      (Proposing s₀ chosen) (fun e _ => F e) := by
  unfold proposingClient
  refine Op.Triple.reading fun s hs => ?_
  cases chosen with
  | none =>
      apply Op.Triple.value
      intro s' hs'
      rw [hs']
      exact { hs with staged := nofun, plain := fun _ => rfl }
  | some id =>
      have hstaged := List.any_eq_true.mp (hs.found id rfl)
      rcases Option.isSome_iff_exists.mp (List.find?_isSome.mpr hstaged)
        with ⟨c, hfind⟩
      have hid : c.clientId = id := by
        have := List.find?_some hfind
        simpa using this
      dsimp only
      rw [hfind]
      apply Op.Triple.present
      apply Op.Triple.value
      intro s' hs'
      rw [hs']
      refine { hs with staged := ?_, plain := nofun }
      intro c' hc'
      cases hc'
      exact ⟨List.mem_of_find?_eq_some hfind, congrArg some hid.symm⟩

omit V in
theorem admits_identitySource {s₀ s : SessionInner M} {chosen : Option Bytes}
    {candidate : Option (TwoMlsPqPrincipal M)} (h : Proposing s₀ chosen candidate s)
    {leafId : Bytes}
    (hvalid : (admittedMine s₀ chosen).validSuccessor leafId
      (chosen.getD s₀.client.clientId) = true) :
    forall signer id,
      (identitySource s candidate leafId).map
          (fun c => (c.classicalSigner, c.clientId)) = some (signer, id) ->
        s.services.auth.mine.validSuccessor leafId id = true := by
  intro signer id hidentity
  rw [h.mine]
  cases candidate with
  | some c =>
      cases hidentity
      rw [(h.staged c rfl).2] at hvalid ⊢
      exact hvalid
  | none =>
      rw [h.plain rfl] at hvalid ⊢
      unfold identitySource at hidentity
      dsimp only at hidentity
      split at hidentity
      · cases hidentity
        rw [h.client]
        exact hvalid
      · cases hidentity

theorem triple_proposeSelfUpdate (L : Lawful M) {s₀ : SessionInner M}
    {chosen : Option Bytes} {candidate : Option (TwoMlsPqPrincipal M)}
    (hadmits : (F .mls ∧ F .credentialRejected ∧ F .decryptionFailed) ∨
      AdmissibleUpdate s₀ chosen)
    (hheld : (s₀.half .recvClassical).isSome = true) (seed : M.Seed) :
    Op.Triple (Proposing s₀ chosen candidate) (proposeSelfUpdate candidate seed)
      (OffersCandidate s₀ candidate) (fun e _ => F e) := by
  have hrecv : forall s, Proposing s₀ chosen candidate s ->
      (s.half .recvClassical).isSome = true := by
    intro s hs
    rw [hs.half]
    exact hheld
  unfold proposeSelfUpdate
  refine Op.Triple.bind (triple_readHeld hrecv) fun recv => ?_
  refine Op.Triple.bind
    (Q := fun leafId s => (s.half .recvClassical = some recv ∧
      Proposing s₀ chosen candidate s) ∧
        senderClientId recv (M.currentMemberIndex recv) = .ok leafId) ?_
    fun leafId => ?_
  · intro s hs
    rw [Op.run_ofExcept]
    cases hleaf : senderClientId recv (M.currentMemberIndex recv) with
    | ok leafId => exact ⟨hs, rfl⟩
    | error e =>
        rcases hadmits with hF | hadmits
        · have hname : e = .decryptionFailed := by
            unfold senderClientId at hleaf
            split at hleaf
            · split at hleaf
              · cases hleaf
              · cases hleaf
                rfl
            · cases hleaf
              rfl
          rw [hname]
          exact hF.2.2
        · rcases hadmits recv (by rw [← hs.2.half]; exact hs.1) with ⟨_, hok, -⟩
          rw [hleaf] at hok
          cases hok
  refine Op.Triple.reading fun s hs => ?_
  dsimp only
  rcases hs with ⟨⟨held, hproposing⟩, hleaf⟩
  refine Op.Triple.bind
    (Q := fun m s' => s'.client = s₀.client ∧
      (forall c, candidate = some c -> c ∈ s'.rotation.stagedCandidates) ∧
        exists g identity, s'.half .recvClassical = some g ∧
          (m, identity) ∈ M.pendingUpdates g ∧
          forall c, candidate = some c ->
            identity = some (c.classicalSigner, c.clientId)) ?_ fun proposal => ?_
  · apply triple_callHeld
    · intro s' hs'
      rw [hs', held]
      rfl
    · intro s' g store m hs' hg hok
      rw [hs'] at hg hok ⊢
      rcases L.proposeOk _ _ _ _ _ _ hok with ⟨-, -, hproposed⟩
      have hpending := hproposed.updates ▸ List.mem_cons_self
      refine ⟨hproposing.client, fun c hc => (hproposing.staged c hc).1, _, _,
        half_setHalf_held hg, hpending, ?_⟩
      intro c hc
      rw [hc]
      rfl
    · intro s' g store e hs' hg herror
      rw [hs'] at hg herror
      rw [held] at hg
      cases hg
      have hcase : (F .mls ∧ F .credentialRejected) ∨
          exists m, (M.proposeUpdate (s.services.env store)
            ((identitySource s candidate leafId).map
              fun c => (c.classicalSigner, c.clientId)) [] seed recv).1 = .ok m := by
        rcases hadmits with hF | hadmits
        · exact Or.inl ⟨hF.1, hF.2.1⟩
        · rcases hadmits recv (by rw [← hproposing.half]; exact held)
            with ⟨leafId', hleaf', hvalid⟩
          rw [hleaf] at hleaf'
          cases hleaf'
          exact V.propose _ _ _ _ _ _ hleaf (admits_identitySource hproposing hvalid)
      rcases hcase with hF | ⟨m, hm⟩
      · unfold proposeErr
        split
        · cases e <;> first | exact hF.1 | exact hF.2
        · exact hF.1
      · rw [hm] at herror
        cases herror
  · rintro s' ⟨hclient, hstaged, g, identity, hg, hpending, hcandidate⟩
    rw [Op.run_ofExcept]
    cases hblob : orError TwoMlsPqError.mls (Blob.ofMessage proposal) with
    | ok b =>
        constructor
        · exact hclient
        · exact hstaged
        · exact ⟨proposal, g, identity, parsed_ofMessage hblob, hg, hpending, hcandidate⟩
    | error e =>
        rw [orError_error hblob]
        rcases V.toBytes proposal with hF | ⟨bytes, hbytes⟩
        · exact hF
        · unfold Blob.ofMessage at hblob
          rw [hbytes] at hblob
          cases hblob

structure StagedAs (s₀ : SessionInner M) (chosen : Option Bytes) (b : Blob M)
    (s : SessionInner M) : Prop where
  framed :
    s.msg.pendingProposalMessage = some (chosen.getD s₀.client.clientId, b)
  offered : exists m g identity,
    b.parsed = some m ∧ s.half .recvClassical = some g ∧
      (m, identity) ∈ M.pendingUpdates g ∧
      forall id, chosen = some id ->
        isStaged s id = true ∧ exists signer, identity = some (signer, id)

theorem triple_stageSelfUpdate (L : Lawful M) {s₀ : SessionInner M}
    {selected : Option Bytes} (hproposable : Proposable s₀ selected)
    (hadmits : (F .mls ∧ F .credentialRejected ∧ F .decryptionFailed) ∨
      AdmissibleUpdate s₀ (chosenCandidate s₀ selected))
    (hheld : (s₀.half .recvClassical).isSome = true) (rnd : Nat -> M.Seed) :
    Op.Triple (fun s => s = s₀) (stageSelfUpdate selected rnd)
      (StagedAs s₀ (chosenCandidate s₀ selected)) (fun e _ => F e) := by
  unfold stageSelfUpdate
  refine Op.Triple.bind (triple_selectCandidate V hproposable _) fun chosen => ?_
  apply Op.Triple.assume
  rintro rfl
  refine Op.Triple.bind
    (Q := fun candidate s =>
      chosenCandidate s₀ selected = candidate.map TwoMlsPqPrincipal.clientId ∧
        Proposing s₀ (chosenCandidate s₀ selected) candidate s) ?_ fun candidate => ?_
  · refine (triple_proposingClient _).post fun candidate s hs => ⟨?_, hs⟩
    cases candidate with
    | some c => exact (hs.staged c rfl).2
    | none => exact hs.plain rfl
  · apply Op.Triple.assume
    intro hchosen
    refine Op.Triple.bind (triple_proposeSelfUpdate V L hadmits hheld (rnd 1))
      fun proposal => ?_
    refine Op.Triple.bind
      (Q := fun _ => StagedAs s₀ (chosenCandidate s₀ selected) proposal) ?_
      fun _ => Op.Triple.value fun _ hs => hs
    apply Op.Triple.update
    intro s hs
    rcases hs.pending with ⟨m, g, identity, hparsed, hg, hpending, hidentity⟩
    constructor
    · change some (_, proposal) = some (_, proposal)
      rw [hs.client, hchosen]
    · refine ⟨m, g, identity, hparsed, hg, hpending, ?_⟩
      intro id hid
      rw [hchosen] at hid
      cases candidate with
      | none => cases hid
      | some c =>
          cases hid
          constructor
          · exact List.any_eq_true.mpr ⟨c, hs.staged c rfl, by simp⟩
          · exact ⟨_, hidentity c rfl⟩

end

end

end Session
end TwoMlsPq
