import TwoMlsPq.Session.World

/-!
# What the constructors return

A session is born with a send group one commit old and with every slot of the
message path and of the rounds empty.  The initiator has no recv group yet and
keeps the private half of its bootstrap key package; the acceptor has joined
the initiator's group with its invitation's key packages.
-/

namespace TwoMlsPq
namespace Session

open Foundation Apq

section

variable {M : MlsRs} (L : Lawful M)

omit L in
def Founding (w : WelcomeBytes M) : Prop :=
  forall a m, w.decoded = some a -> a.classical.parsed = some m ->
    M.welcomeEpoch m = 1

/-- The slots of a session that has done nothing yet. -/
structure Unused (c : Core M) : Prop where
  staged : c.staged = []
  staple : exists w, c.staple = some (.welcome w) ∧ Founding w
  outbound : forall out, c.outbound = some out -> Repeats c out
  pending : c.pending = none
  offered : c.offered = none
  queued : c.queued = none
  mark : c.mark = none
  inflight : c.inflight = none
  sideBand : c.sideBand = none
  owed : c.owed = none

theorem repeats_of_staple {c c' : Core M} {out : Outbound M}
    (hstaple : c'.staple = c.staple) (h : Repeats c out) :
    Repeats c' out := by
  cases out with
  | envelope e =>
      refine ⟨h.1, fun w hw => ?_⟩
      rw [hstaple]
      exact h.2 w hw
  | staple st =>
      change c'.staple = some st
      rw [hstaple]
      exact h

theorem Unused.quiet {c c' : Core M} (h : Unused c) (hq : Quiet c c') :
    Unused c' := by
  rw [hq.2]
  exact
    { staged := h.staged, staple := h.staple
      outbound := fun out hout => repeats_of_staple rfl (h.outbound out hout)
      pending := h.pending, offered := h.offered, queued := h.queued
      mark := h.mark, inflight := h.inflight, sideBand := h.sideBand
      owed := h.owed }

theorem unused_buildSession (client : TwoMlsPqPrincipal M) (services : Services)
    (sendGroup : CombinerGroup M) (recvGroup : Option (CombinerGroup M))
    (welcome : ApqWelcome M) (theirId : Bytes) (initiated : Bool)
    (digest : Option Bytes) (nextHandle : Nat)
    (hwelcome : forall m, welcome.classical.parsed = some m ->
      M.welcomeEpoch m = 1) :
    Unused (buildSession client services sendGroup recvGroup welcome theirId
      initiated digest nextHandle).core where
  staged := rfl
  staple := by
    refine ⟨_, rfl, ?_⟩
    intro a m ha hm
    cases ha
    exact hwelcome m hm
  outbound := by
    intro out hout
    cases hout
    exact rfl
  pending := rfl
  offered := rfl
  queued := rfl
  mark := rfl
  inflight := rfl
  sideBand := rfl
  owed := rfl

/-!
## The initiator
-/

theorem Created.after {client : ClientIdentity M.Signer} {g g' : M.Group}
    (h : Created client g) (h' : Undisturbed g g') :
    Created client g' where
  epoch := h'.epoch.trans h.epoch
  updates := h'.updates.trans h.updates
  signer := h'.signer.trans h.signer
  own := h'.ownLeaf_eq.trans h.own

include L

theorem returns_exportAndRegisterPsk (client : TwoMlsPqPrincipal M)
    (domain : PskDomain) (g : M.Group) :
    Op.Returns (exportAndRegisterPsk client domain g) fun r =>
      Undisturbed g r.2 := by
  have hexport := exportPsk_undisturbed L domain g
  unfold exportAndRegisterPsk onLocalGroup
  rcases hrun : (exportPsk domain : GroupOp M ExportedPsk).run g with ⟨r, g'⟩
  rw [hrun] at hexport
  cases r with
  | error e =>
      exact Op.Returns.bind (Q := fun _ => False) (Op.Returns.fail e)
        fun _ h => h.elim
  | ok exported =>
      refine Op.Returns.bind (Q := fun r => r = (exported, g'))
        (Op.Returns.value rfl) ?_
      rintro _ rfl
      refine Op.Returns.bind (Op.Returns.any _) fun _ _ => ?_
      exact Op.Returns.value hexport

theorem returns_createCombinerSendGroup (classicalKp pqKp : Blob M)
    (client : TwoMlsPqPrincipal M) (appBinding : Option Bytes)
    (rnd : Nat -> M.Seed) :
    Op.Returns (createCombinerSendGroup classicalKp pqKp client appBinding rnd)
      fun r => (Created client.classical r.1.classical ∧
        exists pq, r.1.pq = some pq ∧ Created client.pq pq) ∧
          forall m, r.2.classical.parsed = some m -> M.welcomeEpoch m = 1 := by
  unfold createCombinerSendGroup
  refine Op.Returns.bind (Op.Returns.any _) fun peerId _ => ?_
  refine Op.Returns.bind (Op.Returns.any _) fun _ _ => ?_
  refine Op.Returns.bind (Op.Returns.any _) fun tGid _ => ?_
  refine Op.Returns.bind (Op.Returns.any _) fun pqGid _ => ?_
  dsimp only
  refine Op.Returns.bind (Op.Returns.any _) fun sv _ => ?_
  refine Op.Returns.bind (Op.Returns.ofExcept _) fun created hcreated => ?_
  rcases created with ⟨pqGroup, pqWelcome⟩
  have hpq := created_of_createGroupWithMember L hcreated
  refine Op.Returns.bind (returns_exportAndRegisterPsk L client .apq pqGroup)
    fun exported hexported => ?_
  rcases exported with ⟨apqPsk, pqGroup'⟩
  refine Op.Returns.bind (Op.Returns.any _) fun creation _ => ?_
  refine Op.Returns.bind (Op.Returns.any _) fun sv' _ => ?_
  refine Op.Returns.bind (Op.Returns.ofExcept _) fun created' hcreated' => ?_
  rcases created' with ⟨classicalGroup, classicalWelcome⟩
  have hcl := created_of_createGroupWithMember L hcreated'
  exact Op.Returns.value ⟨⟨hcl, pqGroup', rfl, hpq.after hexported⟩,
    fun m hm => welcome_of_createGroupWithMember L hcreated' hm⟩

theorem quiet_recordBirth : QuietOp (recordBirth : SessionOp M Unit) :=
  QuietOp.bind (quiet_rememberSendPsk L) fun _ =>
    QuietOp.bind (quiet_recordListenRendezvous L) fun _ => quiet_recordPqHeaderKey

omit L in
def Core.withBootstrap (c : Core M) (kp : Blob M) (secret : M.KeyPackageSecret) :
    Core M :=
  { c with bootstrapSecret := some secret, bootstrapKp := some kp }

omit L in
def Core.sealedToward (c : Core M) (theirKp : CombinerKeyPackage M) : Core M :=
  { c with sealTarget := some theirKp }

omit L in
def Core.withOutbound (c : Core M) (out : Outbound M) : Core M :=
  { c with outbound := some out }

theorem preCommitBootstrapKp_secret {seed : M.Seed} {s s' : SessionInner M}
    (h : (preCommitBootstrapKp seed).run s = (.ok (), s')) :
    exists kp secret,
      M.keyPackageLeaf secret =
          (.basic s.client.clientId, M.publicKey s.client.pqSigner) ∧
        s'.core = s.core.withBootstrap kp secret := by
  unfold preCommitBootstrapKp at h
  simp only [Op.run_bind, Op.run_state, Op.run_ofExcept] at h
  cases hgen : orError TwoMlsPqError.mls
      (M.generateKeyPackage s.client.pq s.suite.pq seed) with
  | error e =>
      rw [hgen] at h
      cases h
  | ok made =>
      rcases made with ⟨message, secret⟩
      rw [hgen] at h
      have hkp : M.generateKeyPackage s.client.pq s.suite.pq seed =
          .ok (message, secret) := by
        unfold orError at hgen
        split at hgen
        next hok =>
          cases hgen
          exact hok
        next => cases hgen
      dsimp only at h
      cases hblob : orError TwoMlsPqError.mls (Blob.ofMessage message) with
      | error e =>
          rw [hblob] at h
          cases h
      | ok kp =>
          rw [hblob] at h
          cases h
          exact ⟨kp, secret, L.keyPackage _ _ _ _ _ hkp, rfl⟩

/-- What `initiate` returns. -/
structure Initiator (client : TwoMlsPqPrincipal M) (c : Core M) : Prop where
  unused : Unused c
  own : c.client = client
  send : exists g, c.half .sendClassical = some g ∧ Created client.classical g
  sendPq : exists g, c.half .sendPq = some g ∧ Created client.pq g
  recv : c.half .recvClassical = none
  recvPq : c.half .recvPq = none
  secret : exists kp, c.bootstrapSecret = some kp ∧
    M.keyPackageLeaf kp = (.basic client.clientId, M.publicKey client.pqSigner)
  committed : c.bootstrapKp.isSome = true
  uncommitted : c.commitment = none
  sealing : c.sealTarget.isSome = true
  undelegated : c.delegates = false

theorem initiateBirth_quiet {theirKp : CombinerKeyPackage M} {rnd : Nat -> M.Seed}
    {born s : SessionInner M}
    (h : (initiateBirth theirKp rnd).run born = (.ok (), s)) :
    exists kp secret envelope,
      M.keyPackageLeaf secret =
          (.basic born.client.clientId, M.publicKey born.client.pqSigner) ∧
        Repeats born.core (.envelope envelope) ∧
        Quiet (((born.core.sealedToward theirKp).withBootstrap kp secret).withOutbound
          (.envelope envelope)) s.core := by
  unfold initiateBirth at h
  rw [Op.run_bind, Op.run_update] at h
  dsimp only at h
  rw [Op.run_bind] at h
  rcases hpre : (preCommitBootstrapKp (rnd 0)).run _ with ⟨r, s'⟩
  rw [hpre] at h
  cases r with
  | error e => cases h
  | ok _ =>
      rcases preCommitBootstrapKp_secret L hpre with ⟨kp, secret, hleaf, hcore⟩
      dsimp only at h
      rcases Op.bind_ok h with ⟨envelope, s₁, hcompose, h⟩
      have hvia : Via (fun _ => False) (fun c => c = s'.core)
          (composeInitialEnvelope none (rnd 1))
          (fun e c => e.stapled = none ∧
            (forall w, e.welcome = some w -> c.staple = some (.welcome w)) ∧
            c.sealTarget ≠ none ∧ c = s'.core) :=
        via_composeInitialEnvelope
      have hcomposed := hvia s' rfl
      rw [hcompose] at hcomposed
      rcases hcomposed.2 envelope rfl with ⟨hstapled, hwelcome, _, hsame⟩
      have hrest : QuietOp (recordBirth : SessionOp M Unit) := quiet_recordBirth L
      rw [Op.run_bind, Op.run_update] at h
      dsimp only at h
      have hquiet := hrest (s₁.mapMsg fun m =>
        { m with pendingOutbound := some (.envelope envelope) })
      rw [h] at hquiet
      refine ⟨kp, secret, envelope, hleaf, ⟨hstapled, ?_⟩, ?_⟩
      · intro w hw
        have hstaple := hwelcome w hw
        rw [hsame, hcore] at hstaple
        exact hstaple
      · have hstart : (s₁.mapMsg fun m =>
            { m with pendingOutbound := some (.envelope envelope) }).core =
            s₁.core.withOutbound (.envelope envelope) := rfl
        unfold QuietMove at hquiet
        rw [hstart, hsame, hcore] at hquiet
        exact hquiet

theorem initiate_quiet {client : TwoMlsPqPrincipal M} {services : Services}
    {theirKp : CombinerKeyPackage M} {appBinding : Option Bytes}
    {rnd : Nat -> M.Seed} {s : SessionInner M}
    (h : initiate client services theirKp appBinding rnd = .ok s) :
    exists their created services' kp secret envelope,
      parseMlsKeyPackage theirKp.classical = .ok their ∧
        (createCombinerSendGroup theirKp.classical theirKp.pq client appBinding
          (fun n => rnd (n + 2))).run services = (.ok created, services') ∧
        M.keyPackageLeaf secret =
          (.basic client.clientId, M.publicKey client.pqSigner) ∧
        Repeats (buildSession client services' created.1 none created.2 their.clientId
          true none (client.handle + 1)).core (.envelope envelope) ∧
        Quiet ((((buildSession client services' created.1 none created.2
          their.clientId true none (client.handle + 1)).core.sealedToward
            theirKp).withBootstrap kp secret).withOutbound (.envelope envelope))
          s.core := by
  unfold initiate at h
  split at h
  · cases h
  · simp only [bind, Except.bind] at h
    split at h
    · cases h
    · split at h
      · cases h
      next their hparsed =>
        split at h
        · cases h
        next created services' hcreated =>
          split at h
          · cases h
          next s' hbirth =>
            cases h
            rcases initiateBirth_quiet L hbirth with
              ⟨kp, secret, envelope, hleaf, hrepeats, hquiet⟩
            exact ⟨their, created, services', kp, secret, envelope, hparsed, hcreated,
              hleaf, hrepeats, hquiet⟩

theorem initiate_born {client : TwoMlsPqPrincipal M} {services : Services}
    {theirKp : CombinerKeyPackage M} {appBinding : Option Bytes}
    {rnd : Nat -> M.Seed} {s : SessionInner M}
    (h : initiate client services theirKp appBinding rnd = .ok s) :
    Initiator client s.core := by
  rcases initiate_quiet L h with
    ⟨their, created, services', kp, secret, envelope, _, hcreated, hleaf, hrepeats, hquiet⟩
  rcases returns_createCombinerSendGroup L _ _ _ _ _ services created
    (by rw [hcreated]) with ⟨⟨hclassical, pq, hpq, hcreatedPq⟩, hfounding⟩
  have hborn := unused_buildSession client services' created.1 none created.2
    their.clientId true none (client.handle + 1) hfounding
  have hunused : Unused ((((buildSession client services' created.1 none created.2
      their.clientId true none (client.handle + 1)).core.sealedToward
        theirKp).withBootstrap kp secret).withOutbound (.envelope envelope)) :=
    { hborn with
      outbound := by
        intro out hout
        cases hout
        exact repeats_of_staple rfl hrepeats }
  have hslots := hquiet.2
  refine
    { unused := hunused.quiet hquiet
      own := by rw [hslots]; rfl
      send := ?_
      sendPq := ?_
      recv := hquiet.half_none rfl
      recvPq := hquiet.half_none rfl
      secret := ⟨secret, by rw [hslots]; rfl, hleaf⟩
      committed := by rw [hslots]; rfl
      uncommitted := by rw [hslots]; rfl
      sealing := by rw [hslots]; rfl
      undelegated := by rw [hslots]; rfl }
  · rcases hquiet.half_some (h := .sendClassical) rfl with ⟨g, held, hsame⟩
    exact ⟨g, held, hclassical.after hsame⟩
  · have hheld : ((((buildSession client services' created.1 none created.2
        their.clientId true none (client.handle + 1)).core.sealedToward
          theirKp).withBootstrap kp secret).withOutbound
            (.envelope envelope)).half .sendPq = some pq :=
      hpq
    rcases hquiet.half_some hheld with ⟨g, held, hsame⟩
    exact ⟨g, held, hcreatedPq.after hsame⟩

/-!
## The acceptor
-/

omit L in
def JoinedBy (client : TwoMlsPqPrincipal M) (classicalWelcome : Blob M)
    (recv : CombinerGroup M) : Prop :=
  (exists m, classicalWelcome.parsed = some m ∧
    Joined client.classical client.classicalKpStore m recv.classical) ∧
    exists pq m, recv.pq = some pq ∧ Joined client.pq client.pqKpStore m pq

theorem returns_joinHalves (classicalWelcome pqWelcome : Blob M)
    (client : TwoMlsPqPrincipal M) :
    Op.Returns (joinHalves classicalWelcome pqWelcome client)
      (JoinedBy client classicalWelcome) := by
  unfold joinHalves
  refine Op.Returns.bind (Op.Returns.any _) fun sv _ => ?_
  refine Op.Returns.bind (Op.Returns.ofExcept _) fun pq hjoinPq => ?_
  rcases joined_of_welcome L hjoinPq with ⟨mpq, _, hpq⟩
  refine Op.Returns.bind (returns_exportAndRegisterPsk L client .apq pq)
    fun exported hexported => ?_
  rcases exported with ⟨apqPsk, pq'⟩
  refine Op.Returns.bind (Op.Returns.any _) fun sv' _ => ?_
  refine Op.Returns.bind (Op.Returns.ofExcept _) fun classical hjoin => ?_
  rcases joined_of_welcome L hjoin with ⟨m, hparsed, hclassical⟩
  exact Op.Returns.value
    ⟨⟨m, hparsed, hclassical⟩, pq', mpq, rfl, hpq.after hexported⟩

theorem returns_joinCombinerGroupFromHalves (classicalWelcome pqWelcome : Blob M)
    (client : TwoMlsPqPrincipal M) :
    Op.Returns (joinCombinerGroupFromHalves classicalWelcome pqWelcome client)
      (JoinedBy client classicalWelcome) := by
  unfold joinCombinerGroupFromHalves
  refine Op.Returns.bind (Op.Returns.any _) fun _ _ => ?_
  refine Op.Returns.bind (returns_joinHalves L _ _ _).attempt fun joined hjoined => ?_
  refine Op.Returns.bind (Op.Returns.any _) fun _ _ => ?_
  refine Op.Returns.bind (Op.Returns.ofExcept _) fun group hgroup => ?_
  refine Op.Returns.bind (Op.Returns.any _) fun _ _ => ?_
  refine Op.Returns.bind (Op.Returns.any _) fun _ _ => ?_
  refine Op.Returns.bind (Op.Returns.any _) fun _ _ => ?_
  refine Op.Returns.bind (Op.Returns.any _) fun _ _ => ?_
  refine Op.Returns.bind (Op.Returns.any _) fun _ _ => ?_
  exact Op.Returns.value (hjoined group hgroup)

theorem returns_createBoundClassicalSendGroup (classicalKp : Blob M)
    (client : TwoMlsPqPrincipal M) (recvClassical : M.Group)
    (appBinding : Option Bytes) (rnd : Nat -> M.Seed) :
    Op.Returns
      (createBoundClassicalSendGroup classicalKp client recvClassical appBinding rnd)
      fun r => Created client.classical r.1.classical ∧ r.1.pq = none ∧
        Undisturbed recvClassical r.2.2 ∧
        forall m, r.2.1.parsed = some m -> M.welcomeEpoch m = 1 := by
  unfold createBoundClassicalSendGroup
  refine Op.Returns.bind (Op.Returns.any _) fun peerId _ => ?_
  refine Op.Returns.bind (Op.Returns.any _) fun _ _ => ?_
  refine Op.Returns.bind
    (returns_exportAndRegisterPsk L client .crossParty recvClassical)
    fun exported hexported => ?_
  rcases exported with ⟨pskCross, recvClassical'⟩
  refine Op.Returns.bind (Op.Returns.any _) fun tGid _ => ?_
  refine Op.Returns.bind (Op.Returns.any _) fun pqGid _ => ?_
  dsimp only
  refine Op.Returns.bind (Op.Returns.any _) fun creation _ => ?_
  refine Op.Returns.bind (Op.Returns.any _) fun sv _ => ?_
  refine Op.Returns.bind (Op.Returns.ofExcept _) fun created hcreated => ?_
  rcases created with ⟨classicalGroup, classicalWelcome⟩
  exact Op.Returns.value
    ⟨created_of_createGroupWithMember L hcreated, rfl, hexported,
      fun m hm => welcome_of_createGroupWithMember L hcreated hm⟩

theorem returns_acceptGroups (client groupClient : TwoMlsPqPrincipal M)
    (dedicated : Option Services) (welcome : ApqWelcome M) (theirKp : Blob M)
    (theirId : Bytes) (expected : Option Bytes) (rnd : Nat -> M.Seed) :
    Op.Returns
      (acceptGroups client groupClient dedicated welcome theirKp theirId expected rnd)
      fun r => (Created groupClient.classical r.1.classical ∧ r.1.pq = none) ∧
        JoinedBy client welcome.classical r.2.1 ∧
        forall m, r.2.2.1.parsed = some m -> M.welcomeEpoch m = 1 := by
  unfold acceptGroups
  refine Op.Returns.bind (returns_joinCombinerGroupFromHalves L _ _ _)
    fun recv hrecv => ?_
  refine Op.Returns.bind (Op.Returns.any _) fun _ _ => ?_
  refine Op.Returns.bind (Op.Returns.any _) fun _ _ => ?_
  refine Op.Returns.bind (Op.Returns.any _) fun _ _ => ?_
  refine Op.Returns.bind (Op.Returns.any _) fun _ _ => ?_
  refine Op.Returns.bind (Op.Returns.any _) fun appBinding _ => ?_
  refine Op.Returns.bind (Op.Returns.any _) fun _ _ => ?_
  refine Op.Returns.bind
    (returns_createBoundClassicalSendGroup L theirKp groupClient recv.classical
      appBinding rnd)
    fun created hcreated => ?_
  rcases created with ⟨send, classicalWelcome, recvClassical⟩
  rcases hcreated with ⟨hsend, hnone, hsame, hfounding⟩
  rcases hrecv with ⟨⟨m, hparsed, hjoined⟩, hpq⟩
  exact Op.Returns.value
    ⟨⟨hsend, hnone⟩, ⟨⟨m, hparsed, hjoined.after hsame⟩, hpq⟩, hfounding⟩

omit L in
def Core.accepting (c : Core M) (commitment : Bytes) (delegates : Bool) : Core M :=
  { c with commitment := some commitment, delegates := delegates }

theorem acceptBirth_quiet {invitationClient : Option (TwoMlsPqPrincipal M)}
    {recvCrossEpoch : Nat} {commitment : Bytes} {spawnToken : Option Bytes}
    {born s : SessionInner M} {r : Except TwoMlsPqError Unit}
    (h : (acceptBirth invitationClient recvCrossEpoch commitment spawnToken).run
      born = (r, s)) :
    Quiet (born.core.accepting commitment invitationClient.isSome) s.core := by
  have hrest : QuietOp (do
      recordBirth
      Op.update fun s => s.mapEstablishment fun e =>
        { e with spawnToken := spawnToken } : SessionOp M Unit) :=
    QuietOp.bind (quiet_recordBirth L) fun _ => QuietOp.update fun _ => rfl
  have hfrom : forall t : SessionInner M, t.core = born.core ->
      (do
        Op.update fun s =>
          ((s.mapLedger fun l =>
            { l with lastCrossInjected := some recvCrossEpoch }).mapRound fun r =>
              { r with
                expectedBootstrapKpCommitment := some commitment }).mapEstablishment
                fun e =>
                  { e with requiresEstablishmentEnvelope := invitationClient.isSome }
        recordBirth
        Op.update fun s => s.mapEstablishment fun e =>
          { e with spawnToken := spawnToken } : SessionOp M Unit).run t = (r, s) ->
      Quiet (born.core.accepting commitment invitationClient.isSome) s.core := by
    intro t ht hrun
    rw [Op.run_bind, Op.run_update] at hrun
    have hquiet := hrest (((t.mapLedger fun l =>
      { l with lastCrossInjected := some recvCrossEpoch }).mapRound fun r =>
        { r with
          expectedBootstrapKpCommitment := some commitment }).mapEstablishment fun e =>
            { e with requiresEstablishmentEnvelope := invitationClient.isSome })
    unfold QuietMove at hquiet
    dsimp only at hrun
    rw [hrun] at hquiet
    have hstart : t.core.accepting commitment invitationClient.isSome =
        born.core.accepting commitment invitationClient.isSome := by
      rw [ht]
    rw [← hstart]
    exact hquiet
  unfold acceptBirth at h
  rw [Op.run_bind, Op.run_update] at h
  cases invitationClient with
  | none => exact hfrom born rfl h
  | some client => exact hfrom _ (core_trackPskStores client born) h

omit L in
/-- What `accept_with` returns: the invitation's client joined, the group client
answered. -/
structure Acceptor (client groupClient : TwoMlsPqPrincipal M)
    (welcome : WelcomeBytes M) (c : Core M) : Prop where
  unused : Unused c
  own : c.client = groupClient
  send : exists g, c.half .sendClassical = some g ∧
    Created groupClient.classical g
  sendPq : c.half .sendPq = none
  recv : exists g m, c.half .recvClassical = some g ∧
    (exists w, welcome.decoded = some w ∧ w.classical.parsed = some m) ∧
    Joined client.classical client.classicalKpStore m g
  recvPq : exists g m, c.half .recvPq = some g ∧
    Joined client.pq client.pqKpStore m g
  secret : c.bootstrapSecret = none
  bootstrapKp : c.bootstrapKp = none
  committed : c.commitment.isSome = true
  unsealing : c.sealTarget = none
  envelope : c.envelope = none

theorem acceptWith_quiet {client : TwoMlsPqPrincipal M}
    {sessionClient : Option (TwoMlsPqPrincipal M × Services)} {services : Services}
    {welcome : WelcomeBytes M} {theirKp : Blob M} {commitment : Bytes}
    {spawnToken expected : Option Bytes} {rnd : Nat -> M.Seed}
    {s : SessionInner M}
    (h : acceptWith client sessionClient services welcome theirKp commitment
      spawnToken expected rnd = .ok s) :
    exists theirId w send recv classicalWelcome services' handle,
      welcome.decoded = some w ∧
        (Created ((sessionClient.map Prod.fst).getD (purgeKeyPackages client)).classical
          send.classical ∧ send.pq = none) ∧
        JoinedBy client w.classical recv ∧
        (forall m, classicalWelcome.parsed = some m -> M.welcomeEpoch m = 1) ∧
        Quiet ((buildSession
            ((sessionClient.map Prod.fst).getD (purgeKeyPackages client))
            services' send (some recv)
            { classical := classicalWelcome, pq := Blob.empty }
            theirId false (some (M.sha256 welcome.bytes)) handle).core.accepting
              commitment (sessionClient.map fun _ => client).isSome) s.core := by
  unfold acceptWith at h
  split at h
  · cases h
  · split at h
    · cases h
    · simp only [bind, Except.bind] at h
      split at h
      · cases h
      · split at h
        · cases h
        next their _ =>
          split at h
          · cases h
          next w hdecoded =>
            split at h
            · cases h
            · split at h
              · cases h
              next send recv classicalWelcome recvCrossEpoch services' hgroups =>
                rcases returns_acceptGroups L _ _ _ _ _ _ _ _ services
                  (send, recv, classicalWelcome, recvCrossEpoch) (by rw [hgroups])
                  with ⟨hsend, hrecv, hfounding⟩
                split at h
                · cases h
                next s' hbirth =>
                  cases h
                  exact ⟨their.clientId, w, send, recv, classicalWelcome, services', _,
                    hdecoded, hsend, hrecv, hfounding, acceptBirth_quiet L hbirth⟩

theorem acceptWith_born {client : TwoMlsPqPrincipal M}
    {sessionClient : Option (TwoMlsPqPrincipal M × Services)} {services : Services}
    {welcome : WelcomeBytes M} {theirKp : Blob M} {commitment : Bytes}
    {spawnToken expected : Option Bytes} {rnd : Nat -> M.Seed}
    {s : SessionInner M}
    (h : acceptWith client sessionClient services welcome theirKp commitment
      spawnToken expected rnd = .ok s) :
    Acceptor client ((sessionClient.map Prod.fst).getD (purgeKeyPackages client))
      welcome s.core := by
  rcases acceptWith_quiet L h with
    ⟨theirId, w, send, recv, classicalWelcome, services', handle, hdecoded,
      ⟨hsend, hnone⟩, ⟨⟨m, hparsed, hjoined⟩, pq, mpq, hpq, hjoinedPq⟩, hfounding,
      hquiet⟩
  have hslots := hquiet.2
  have hborn := unused_buildSession
    ((sessionClient.map Prod.fst).getD (purgeKeyPackages client))
    services' send (some recv)
    { classical := classicalWelcome, pq := Blob.empty }
    theirId false (some (M.sha256 welcome.bytes)) handle hfounding
  have hunused : Unused ((buildSession
      ((sessionClient.map Prod.fst).getD (purgeKeyPackages client))
      services' send (some recv)
      { classical := classicalWelcome, pq := Blob.empty }
      theirId false (some (M.sha256 welcome.bytes)) handle).core.accepting
        commitment (sessionClient.map fun _ => client).isSome) :=
    { hborn with }
  refine
    { unused := hunused.quiet hquiet
      own := by rw [hslots]; rfl
      send := ?_
      sendPq := hquiet.half_none hnone
      recv := ?_
      recvPq := ?_
      secret := by rw [hslots]; rfl
      bootstrapKp := by rw [hslots]; rfl
      committed := by rw [hslots]; rfl
      unsealing := by rw [hslots]; rfl
      envelope := by rw [hslots]; rfl }
  · rcases hquiet.half_some (h := .sendClassical) rfl with ⟨g, held, hsame⟩
    exact ⟨g, held, hsend.after hsame⟩
  · rcases hquiet.half_some (h := .recvClassical) rfl with ⟨g, held, hsame⟩
    exact ⟨g, m, held, ⟨w, hdecoded, hparsed⟩, hjoined.after hsame⟩
  · rcases hquiet.half_some (h := .recvPq) hpq with ⟨g, held, hsame⟩
    exact ⟨g, mpq, held, hjoinedPq.after hsame⟩

theorem Born.unused {s : SessionInner M} (h : Born s) : Unused s.core := by
  cases h with
  | initiated h => exact (initiate_born L h).unused
  | accepted h => exact (acceptWith_born L h).unused

omit L in
theorem Established.born {initiator acceptor : SessionInner M}
    (h : Established initiator acceptor) :
    Born initiator ∧ Born acceptor := by
  rcases h with ⟨initiated, stapled, accepted⟩
  exact ⟨Born.initiated initiated, Born.accepted accepted⟩

end

namespace ReferencePair

theorem initiator_born : Born initiator :=
  Born.initiated (eq_ok_of_isSome initiation_isSome)

theorem acceptor_born : Born acceptor :=
  Born.accepted (eq_ok_of_isSome acceptance_isSome)

end ReferencePair

end Session
end TwoMlsPq
