import TwoMlsPq.Session.Honest

/-!
# Every half signs with the key of its own leaf

A half is created, joined or rotated by one client, and from then on its signer
and its leaf move together.  The one exception is the A.3 join: the bootstrap
key package was minted under the client that opened the session, and the half
that is joined with it signs with the client of the moment.  Where the two
clients sign alike, every half signs with the key its own leaf presents, in
every state a session can reach.
-/

namespace TwoMlsPq
namespace Session

open Foundation Apq

section

variable {M : MlsRs}

/-- The group signs with the private half of the key its own leaf presents. -/
def SignsAsLeaf (g : M.Group) : Prop :=
  exists credential, ownLeaf g = some (credential, M.publicKey (M.groupSigner g))

/-- A scheme whose signatures verify under the public half of the key that made them. -/
structure SignatureScheme (M : MlsRs) where
  sign : M.Signer -> Bytes -> Bytes
  verify : Bytes -> Bytes -> Bytes -> Bool
  verifies : forall signer content,
    verify (M.publicKey signer) content (sign signer content) = true

/-- Whoever knows the leaf accepts what the group signs. -/
def AcceptedAsLeaf (g : M.Group) : Prop :=
  forall (S : SignatureScheme M) credential key, ownLeaf g = some (credential, key) ->
    forall content, S.verify key content (S.sign (M.groupSigner g) content) = true

theorem SignsAsLeaf.accepted {g : M.Group} (h : SignsAsLeaf g) : AcceptedAsLeaf g := by
  intro S credential key hleaf content
  rcases h with ⟨credential', hown⟩
  rw [hown] at hleaf
  cases hleaf
  exact S.verifies (M.groupSigner g) content

theorem SignsAsLeaf.quiet {g g' : M.Group} (h : SignsAsLeaf g)
    (hsame : Undisturbed g g') :
    SignsAsLeaf g' := by
  rcases h with ⟨credential, hleaf⟩
  exists credential
  rw [hsame.ownLeaf_eq, hsame.signer]
  exact hleaf

theorem SignsAsLeaf.kept {g g' : M.Group} (h : SignsAsLeaf g)
    (hkept : OwnKept g g') :
    SignsAsLeaf g' := by
  rcases h with ⟨credential, hleaf⟩
  exists credential
  rw [hkept.1, hkept.2]
  exact hleaf

theorem signsAsLeaf_movedTo {signer : M.Signer} {identifier : Bytes}
    {g' : M.Group} (h : MovedTo signer identifier g') :
    SignsAsLeaf g' := by
  exists .basic identifier
  rw [h.2]
  exact h.1

theorem Created.signsAsLeaf {client : ClientIdentity M.Signer} {g : M.Group}
    (h : Created client g) :
    SignsAsLeaf g := by
  exists .basic client.identifier
  rw [h.signer]
  exact h.own

/-!
## Principals and their key packages
-/

def PresentKey (signer : M.Signer) (kps : List M.KeyPackageSecret) : Prop :=
  forall kp, kp ∈ kps -> (M.keyPackageLeaf kp).2 = M.publicKey signer

theorem PresentKey.nil (signer : M.Signer) : PresentKey signer [] := by
  intro kp hkp
  cases hkp

theorem PresentKey.cons {signer : M.Signer} {kp : M.KeyPackageSecret}
    {kps : List M.KeyPackageSecret}
    (hkp : (M.keyPackageLeaf kp).2 = M.publicKey signer)
    (h : PresentKey signer kps) :
    PresentKey signer (kp :: kps) := by
  intro kp' hmem
  cases hmem with
  | head => exact hkp
  | tail _ hmem => exact h kp' hmem

theorem Joined.signsAsLeaf {client : ClientIdentity M.Signer}
    {kps : List M.KeyPackageSecret} {m : M.Message} {g : M.Group}
    (h : Joined client kps m g) (hkps : PresentKey client.signer kps) :
    SignsAsLeaf g := by
  rcases h.own with ⟨kp, hmem, hleaf⟩
  exists (M.keyPackageLeaf kp).1
  rw [hleaf, h.signer, ← hkps kp hmem]

structure OwnKeyPackages (c : TwoMlsPqPrincipal M) : Prop where
  classical : PresentKey c.classicalSigner c.classicalKpStore
  pq : PresentKey c.pqSigner c.pqKpStore

theorem OwnKeyPackages.empty {c : TwoMlsPqPrincipal M}
    (classical : c.classicalKpStore = []) (pq : c.pqKpStore = []) :
    OwnKeyPackages c := by
  constructor
  · rw [classical]
    exact PresentKey.nil _
  · rw [pq]
    exact PresentKey.nil _

inductive Minted : TwoMlsPqPrincipal M -> Prop
  | new {handle : Nat} {clientId : Bytes} {rnd : Nat -> M.Seed}
      {c : TwoMlsPqPrincipal M}
      (made : TwoMlsPqPrincipal.new handle clientId rnd = .ok c) : Minted c
  | keyPackage {c : TwoMlsPqPrincipal M} (suite : Nat) (seed : M.Seed)
      (minted : Minted c) : Minted (c.generateKeyPackage suite seed).2
  | purged {c : TwoMlsPqPrincipal M} (minted : Minted c) :
      Minted (purgeKeyPackages c)

theorem new_ownKeyPackages {handle : Nat} {clientId : Bytes}
    {rnd : Nat -> M.Seed} {c : TwoMlsPqPrincipal M}
    (made : TwoMlsPqPrincipal.new handle clientId rnd = .ok c) :
    OwnKeyPackages c := by
  simp only [TwoMlsPqPrincipal.new, bind, Except.bind] at made
  split at made
  next => cases made
  next =>
    split at made
    next => cases made
    next =>
      cases made
      exact OwnKeyPackages.empty rfl rfl

theorem OwnKeyPackages.generateKeyPackage (L : Lawful M)
    {c : TwoMlsPqPrincipal M} (h : OwnKeyPackages c) (suite : Nat)
    (seed : M.Seed) :
    OwnKeyPackages (c.generateKeyPackage suite seed).2 := by
  unfold TwoMlsPqPrincipal.generateKeyPackage
  split
  · unfold TwoMlsPqPrincipal.generateClassicalKeyPackage
    split
    next => exact h
    next message secret hmade =>
      have hleaf := L.keyPackage _ _ _ _ _ hmade
      constructor
      · exact h.classical.cons (by rw [hleaf]; rfl)
      · exact h.pq
  · split
    · unfold TwoMlsPqPrincipal.generatePqKeyPackage
      split
      next => exact h
      next message secret hmade =>
        have hleaf := L.keyPackage _ _ _ _ _ hmade
        constructor
        · exact h.classical
        · exact h.pq.cons (by rw [hleaf]; rfl)
    · exact h

theorem Minted.ownKeyPackages (L : Lawful M) {c : TwoMlsPqPrincipal M}
    (h : Minted c) :
    OwnKeyPackages c := by
  induction h with
  | new made => exact new_ownKeyPackages made
  | keyPackage suite seed minted ih => exact ih.generateKeyPackage L suite seed
  | purged minted ih => exact OwnKeyPackages.empty rfl rfl

inductive Opens : SessionInner M -> Prop
  | initiated {s : SessionInner M} {client : TwoMlsPqPrincipal M}
      {services : Services} {theirKp : CombinerKeyPackage M}
      {appBinding : Option Bytes} {rnd : Nat -> M.Seed}
      (minted : Minted client)
      (h : initiate client services theirKp appBinding rnd = .ok s) : Opens s
  | accepted {s : SessionInner M} {client : TwoMlsPqPrincipal M}
      {dedicated : Option (TwoMlsPqPrincipal M × Services)} {services : Services}
      {welcome : WelcomeBytes M} {theirKp : Blob M} {commitment : Bytes}
      {spawnToken expected : Option Bytes} {rnd : Nat -> M.Seed}
      (minted : Minted client)
      (mintedDedicated : forall d, dedicated = some d -> Minted d.1)
      (h : acceptWith client dedicated services welcome theirKp commitment spawnToken
        expected rnd = .ok s) : Opens s

theorem Opens.born {s : SessionInner M} (h : Opens s) : Born s := by
  cases h with
  | initiated minted h => exact Born.initiated h
  | accepted minted mintedDedicated h => exact Born.accepted h

/-!
## The invariant
-/

structure Signers (c : Core M) : Prop where
  halves : forall h g, c.half h = some g -> SignsAsLeaf g
  client : OwnKeyPackages c.client
  staged : forall p, p ∈ c.staged -> OwnKeyPackages p

/-- The bootstrap key package presents the key the client of the moment signs
its post-quantum halves with. -/
def BootstrapCurrent (c : Core M) : Prop :=
  PresentKey c.client.pqSigner c.bootstrapSecret.toList

theorem signsAsLeaf_halfStep {c : Core M} {e : Event M} {h : Half} {g' : M.Group}
    (hc : Signers c) (hbind : forall w, e = .joinRecvPq w -> BootstrapCurrent c)
    (hstep : HalfStep c e h g') :
    SignsAsLeaf g' := by
  cases hstep with
  | peerCommit held idle kind applied =>
      rcases applied.own with hkept | ⟨_, _, _, _, hmoved⟩
      · exact (hc.halves _ _ held).kept hkept
      · exact signsAsLeaf_movedTo hmoved
  | applyRekey held initiated applied =>
      rcases applied.own with hkept | ⟨_, _, _, _, hmoved⟩
      · exact (hc.halves _ _ held).kept hkept
      · exact signsAsLeaf_movedTo hmoved
  | ownCommit send held discharged handoff applied =>
      rcases applied.own with hkept | ⟨_, _, _, hmoved⟩
      · exact (hc.halves _ _ held).kept hkept
      · exact signsAsLeaf_movedTo hmoved
  | propose held introduces proposed =>
      -- a pending update changes neither the leaf nor the signer
      apply (hc.halves _ _ held).kept
      constructor
      · unfold ownLeaf leafAt
        rw [proposed.memberIndex, proposed.roster]
      · exact proposed.signer
  | joinRecv recv missing joined =>
      rcases recv with rfl | rfl
      · exact joined.signsAsLeaf hc.client.classical
      · exact joined.signsAsLeaf hc.client.pq
  | createSendPq missing created => exact created.signsAsLeaf
  | joinRecvPq missing parsed joined =>
      apply joined.signsAsLeaf
      intro kp hkp
      rcases List.mem_append.mp hkp with hboot | hstore
      · exact hbind _ rfl kp hboot
      · exact hc.client.pq kp hstore

theorem signers_step {e : Event M} {c c' : Core M}
    (hbind : forall w, e = .joinRecvPq w -> BootstrapCurrent c)
    (hstep : Step e c c') (hc : Signers c) :
    Signers c' := by
  have hhalves : forall h g, c'.half h = some g -> SignsAsLeaf g := by
    intro h g held
    rcases hstep.half_cases h with hquiet | ⟨g', held', hhalf⟩
    · have hback := hquiet.symm
      rw [held] at hback
      rcases hback.some_left with ⟨g₀, held₀, hsame⟩
      exact (hc.halves h g₀ held₀).quiet hsame.symm
    · rw [held] at held'
      cases held'
      exact signsAsLeaf_halfStep hc hbind hhalf
  cases hstep with
  | quiet hq =>
      have hslots := hq.2
      rw [hslots]
      rw [hslots] at hhalves
      exact { halves := hhalves, client := hc.client, staged := hc.staged }
  | enlist room fresh =>
      refine { halves := hhalves, client := hc.client, staged := ?_ }
      intro p hp
      rcases List.mem_append.mp hp with hold | hnew
      · exact hc.staged p hold
      · cases hnew with
        | head => exact OwnKeyPackages.empty fresh.1 fresh.2
        | tail _ hnil => cases hnil
  | install staged =>
      refine
        { halves := hhalves, client := hc.staged _ staged, staged := ?_ }
      intro p hp
      cases hp
  | _ => exact { halves := hhalves, client := hc.client, staged := hc.staged }

theorem signers_recovered {c : Core M} (h : Recovered (fun _ => Signers) c) :
    Signers c := by
  cases h with
  | checkpoint h => exact h
  | spliced h h' =>
      rename_i c ck _ _
      refine { halves := ?_, client := h.client, staged := h.staged }
      intro half g held
      change (if half.isPq then ck.half half else c.half half) = some g at held
      split at held
      · exact h'.halves half g held
      · exact h.halves half g held

theorem signers_restored {c r : Core M} (h : Restored c r) (hc : Signers c) :
    Signers r := by
  have hhalves : forall half g, r.half half = some g -> SignsAsLeaf g := by
    intro half g held
    have hback := (h.1 half).symm
    rw [held] at hback
    rcases hback.some_left with ⟨g₀, held₀, hsame⟩
    exact (hc.halves half g₀ held₀).quiet hsame.symm
  rw [h.2]
  rw [h.2] at hhalves
  refine
    { halves := hhalves
      client := { classical := hc.client.classical, pq := hc.client.pq }
      staged := ?_ }
  intro p hp
  rcases List.mem_mapIdx.mp hp with ⟨i, hi, rfl⟩
  have hold := hc.staged _ (List.getElem_mem hi)
  exact { classical := hold.classical, pq := hold.pq }

/-!
## Runs
-/

/-- When the A.3 bind is called, the bootstrap key package is the current
client's. -/
def HostAction.BindsCurrent (t : TwoMlsPqSession M) : HostAction M -> Prop
  | .call (.pqBootstrapBind _ _) => BootstrapCurrent t.inner.core
  | _ => True

theorem bootstrapCurrent_step {e : Event M} {c c' : Core M}
    (he : bootstrapBindEvents e) (hstep : Step e c c') (hc : BootstrapCurrent c) :
    BootstrapCurrent c' := by
  unfold BootstrapCurrent at *
  cases hstep with
  | quiet hq =>
      rw [hq.2]
      exact hc
  | install staged => exact he.elim
  | joinRecvPq missing live initiated parsed joined => exact PresentKey.nil _
  | _ => exact hc

theorem signers_call (L : Lawful M) {t : TwoMlsPqSession M} {call : Call M}
    (hguard : (HostAction.call call).BindsCurrent t)
    (happroved : Approved t.inner.core) (h : Durable Signers t) :
    Durable Signers (call.run.run t).2 := by
  have hadvances := call_advances L call t happroved
  by_cases hbind : exists frame seed, call = .pqBootstrapBind frame seed
  · rcases hbind with ⟨frame, seed, rfl⟩
    apply h.advance_along (J := BootstrapCurrent) hguard hadvances
    intro e c c' he hstep hcurrent hc
    constructor
    · exact signers_step (fun _ _ => hcurrent) hstep hc
    · exact bootstrapCurrent_step he hstep hcurrent
  · apply h.advance hadvances
    intro e c c' he hstep hc
    apply signers_step _ hstep hc
    rintro w rfl
    exact absurd (joinRecvPq_bind he) hbind

theorem signers_host (L : Lawful M) {t : TwoMlsPqSession M} {a : HostAction M}
    (hguard : a.BindsCurrent t)
    (h : Durable Approved t ∧ Durable Signers t) :
    Durable Approved (t.host a) ∧ Durable Signers (t.host a) := by
  constructor
  · exact approved_host L h.1
  · cases a with
    | call call => exact signers_call L hguard h.1.now h.2
    | restart =>
        exact h.2.restarted L (fun _ => signers_recovered)
          fun _ _ => signers_restored

theorem signers_initiated {client : TwoMlsPqPrincipal M} {c : Core M}
    (hclient : OwnKeyPackages client) (h : Initiator client c) :
    Signers c := by
  constructor
  · intro half g held
    cases half with
    | sendClassical =>
        rcases h.send with ⟨g', held', hcreated⟩
        rw [held] at held'
        cases held'
        exact hcreated.signsAsLeaf
    | sendPq =>
        rcases h.sendPq with ⟨g', held', hcreated⟩
        rw [held] at held'
        cases held'
        exact hcreated.signsAsLeaf
    | recvClassical =>
        rw [h.recv] at held
        cases held
    | recvPq =>
        rw [h.recvPq] at held
        cases held
  · rw [h.own]
    exact hclient
  · intro p hp
    rw [h.unused.staged] at hp
    cases hp

theorem signers_accepted {client groupClient : TwoMlsPqPrincipal M}
    {welcome : WelcomeBytes M} {c : Core M}
    (hclient : OwnKeyPackages client) (hgroup : OwnKeyPackages groupClient)
    (h : Acceptor client groupClient welcome c) :
    Signers c := by
  constructor
  · intro half g held
    cases half with
    | sendClassical =>
        rcases h.send with ⟨g', held', hcreated⟩
        rw [held] at held'
        cases held'
        exact hcreated.signsAsLeaf
    | sendPq =>
        rw [h.sendPq] at held
        cases held
    | recvClassical =>
        rcases h.recv with ⟨g', m, held', _, hjoined⟩
        rw [held] at held'
        cases held'
        exact hjoined.signsAsLeaf hclient.classical
    | recvPq =>
        rcases h.recvPq with ⟨g', m, held', hjoined⟩
        rw [held] at held'
        cases held'
        exact hjoined.signsAsLeaf hclient.pq
  · rw [h.own]
    exact hgroup
  · intro p hp
    rw [h.unused.staged] at hp
    cases hp

theorem Opens.signers (L : Lawful M) {s : SessionInner M} (h : Opens s) :
    Signers s.core := by
  cases h with
  | initiated minted h =>
      exact signers_initiated (minted.ownKeyPackages L) (initiate_born L h)
  | accepted minted mintedDedicated h =>
      rename_i client dedicated _ _ _ _ _ _ _
      have hgroup : OwnKeyPackages
          ((dedicated.map Prod.fst).getD (purgeKeyPackages client)) := by
        cases dedicated with
        | none => exact OwnKeyPackages.empty rfl rfl
        | some d => exact (mintedDedicated d rfl).ownKeyPackages L
      exact signers_accepted (minted.ownKeyPackages L) hgroup (acceptWith_born L h)

/-- In every state a session can reach against anybody, through any rotations
and restarts, each half signs with the private half of the key its own leaf
presents, so that the peer accepts the signature, if the A.3 bind is only called
while the bootstrap key package is the current client's. -/
theorem halves_sign_as_their_leaf (L : Lawful M) {s : SessionInner M}
    (opens : Opens s) {t : TwoMlsPqSession M}
    (run : Run TwoMlsPqSession.host (fun t a => a.BindsCurrent t)
      (TwoMlsPqSession.fresh s) t)
    (h : Half) (g : M.Group) (held : t.inner.half h = some g) :
    SignsAsLeaf g ∧ AcceptedAsLeaf g := by
  have hinvariant : Durable Approved t ∧ Durable Signers t := by
    apply run.invariant (I := fun t => Durable Approved t ∧ Durable Signers t)
      fun _ _ hc hguard => signers_host L hguard hc
    constructor
    · exact Durable.fresh (approved_unused (opens.born.unused L))
    · exact Durable.fresh (opens.signers L)
  have hsigns : SignsAsLeaf g := hinvariant.2.now.halves h g held
  exact ⟨hsigns, hsigns.accepted⟩

end

/-!
## A rotation before the A.3 bind
-/

namespace ReferencePair

theorem minted_published (identity : Bytes) (key nonce : Nat) :
    Minted (published (client identity key) nonce) := by
  have hmade : TwoMlsPqPrincipal.new 0 identity (rnd key) = .ok (client identity key) :=
    rfl
  have hnew : Minted (client identity key) := Minted.new hmade
  have hclassical := hnew.keyPackage ApqCipherSuite.declared.classical nonce
  exact hclassical.keyPackage ApqCipherSuite.declared.pq (nonce + 1 : Nat)

theorem initiator_opens : Opens initiator :=
  Opens.initiated (minted_published [0xA0] 100 10) (eq_ok_of_isSome initiation_isSome)

theorem acceptor_opens : Opens acceptor := by
  have haccepted : acceptance = .ok acceptor := eq_ok_of_isSome acceptance_isSome
  refine Opens.accepted (minted_published [0xB0] 200 20) ?_ haccepted
  intro d hd
  cases hd

def rotationOffered : World Reference.mls :=
  world.play
    (greeting ++
      [.call .left (.prepareToEncrypt (some [0xA1]) (rnd 5000)),
        .call .left (.encrypt [1] (rnd 5050)),
        receive .right 1])

def offeredDigest : Bytes :=
  (((rotationOffered.session .right).inner.msg.offeredProposal).map
    PeerProposal.digest).getD []

def rotationThenBind : List (Move Reference.mls) :=
  [.call .right (.queueProposal offeredDigest)] ++
    send .right 5100 ++
    [receive .left 1,
      .call .left (.pqBootstrapBegin none),
      .deliver .right 2 fun f => .pqBootstrapRespond f (rnd 4000),
      .call .right (.pqPendingOutbound true),
      .deliver .left 2 fun f => .pqBootstrapBind f (4100 : Nat)]

def rotated : World Reference.mls :=
  rotationOffered.play rotationThenBind

theorem rotationOffered_calls : Run World.act World.Calls world rotationOffered := by
  apply World.run_calls
  simp [greeting, send, receive, Move.Fair, Move.isRestore, Call.delivered]

theorem rotated_calls : Run World.act World.Calls world rotated := by
  apply rotationOffered_calls.trans
  apply World.run_calls
  simp [rotationThenBind, send, receive, Move.Fair, Move.isRestore,
      Call.delivered]

def signsAsLeaf (s : SessionInner Reference.mls) (h : Half) : Option Bool :=
  (s.half h).map fun g =>
    (ownLeaf g).map Prod.snd ==
      some (Reference.mls.publicKey (Reference.mls.groupSigner g))

theorem SignsAsLeaf.check {s : SessionInner Reference.mls} {h : Half}
    (hs : forall g, s.half h = some g -> SignsAsLeaf g) :
    signsAsLeaf s h ≠ some false := by
  intro hfalse
  unfold signsAsLeaf at hfalse
  rw [Option.map_eq_some_iff] at hfalse
  rcases hfalse with ⟨g, held, hdiffers⟩
  rcases hs g held with ⟨credential, hleaf⟩
  rw [hleaf] at hdiffers
  simp at hdiffers

def answered : World Reference.mls :=
  world.play bootstrapBind.dropLast

def answer : Frame Reference.mls :=
  ((answered.sent .right)[1]?).getD .unknown

set_option maxRecDepth 4000 in
theorem answered_run :
    Run TwoMlsPqSession.host (fun t a => a.BindsCurrent t)
      (TwoMlsPqSession.fresh initiator) (answered.session .left) := by
  have hrun : Run World.act
      (fun _ a => forall side frame seed, a ≠ .call side (.pqBootstrapBind frame seed))
      world answered := by
    apply World.run_play
    intro move hmem w a ha side frame seed
    rintro rfl
    revert move
    simp [bootstrapBind, greeting, send, receive, Move.action]
  refine World.run_host .left ?_ (fun _ _ => True.intro) hrun
  intro w call hcall
  cases call with
  | pqBootstrapBind frame seed => exact absurd rfl (hcall .left frame seed)
  | _ => exact True.intro

theorem answered_current :
    BootstrapCurrent (answered.session .left).inner.core := by
  have hkeys :
      (answered.session .left).inner.core.bootstrapSecret.map
          (fun kp => (Reference.mls.keyPackageLeaf kp).2) =
        some (Reference.mls.publicKey
          (answered.session .left).inner.core.client.pqSigner) := by
    decide +kernel
  intro kp hkp
  rw [Option.mem_toList] at hkp
  rw [Option.mem_def.mp hkp] at hkeys
  exact Option.some.inj hkeys

def bound : TwoMlsPqSession Reference.mls :=
  (answered.session .left).host (.call (.pqBootstrapBind answer (4100 : Nat)))

theorem bound_run :
    Run TwoMlsPqSession.host (fun t a => a.BindsCurrent t)
      (TwoMlsPqSession.fresh initiator) bound := by
  unfold bound
  apply answered_run.step
  exact answered_current

end ReferencePair

/-- The A.3 bind of a session whose client has not changed: the joined half
signs with the bootstrap key package's key. -/
theorem bootstrap_bind_signs_as_leaf :
    exists g, ReferencePair.bound.inner.half .recvPq = some g ∧
      SignsAsLeaf g ∧ AcceptedAsLeaf g := by
  have hjoined : (ReferencePair.bound.inner.half .recvPq).isSome = true := by
    decide +kernel
  rcases Option.isSome_iff_exists.mp hjoined with ⟨g, held⟩
  exact ⟨g, held,
    halves_sign_as_their_leaf Reference.lawful ReferencePair.initiator_opens
      ReferencePair.bound_run .recvPq g held⟩

/-- A rotation between `initiate` and the A.3 bind: the half is joined with the
old client's key package and signs with the new client's key. -/
theorem rotation_before_bind_signs_off_leaf :
    ¬ forall (left right : SessionInner Reference.mls) (w : World Reference.mls),
      Opens left -> Opens right -> Established left right ->
        Run World.act World.Calls (World.initial left right) w ->
          forall side h g, (w.session side).inner.half h = some g ->
            SignsAsLeaf g := by
  intro hall
  have hleft :=
    hall ReferencePair.initiator ReferencePair.acceptor ReferencePair.rotated
      ReferencePair.initiator_opens ReferencePair.acceptor_opens
      ReferencePair.established ReferencePair.rotated_calls .left .recvPq
  have hdiffers :
      ReferencePair.signsAsLeaf (ReferencePair.rotated.session .left).inner
        .recvPq = some false := by
    decide +kernel
  exact ReferencePair.SignsAsLeaf.check hleft hdiffers

end Session
end TwoMlsPq
