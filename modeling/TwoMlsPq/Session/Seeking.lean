import TwoMlsPq.Session.Adoption

/-!
# An initiator and its peer

Until it joins, a session that was opened with `initiate` seeks the id the
peer's key package names.  No call and no restart gives it another one, and the
authentication service lets strangers in only while one welcome is joined.
-/

namespace TwoMlsPq
namespace Session

open Foundation Apq

section

variable {M : MlsRs}

/-!
## The peer sought
-/

/-- The session seeks `toward`, or it has joined; strangers stay out. -/
structure Seeking (toward : Bytes) (c : Core M) : Prop where
  closed : c.auth.adopting = false
  unjoined : c.half .recvClassical = none ->
    c.theirId = toward ∧ c.offered = none ∧ c.queued = none ∧ c.joined = none

def Event.Aside : Event M -> Prop
  | .joinRecv _ => False
  | .setOffered o => o = none
  | .setQueued q => q = none
  | .commitTheirs _ _ => False
  | _ => True

def Event.Closed : Event M -> Prop
  | .joinRecv _ => False
  | .setAdopting _ => False
  | _ => True

theorem Step.adopting {e : Event M} {c c' : Core M} (hstep : Step e c c')
    (he : e.Closed) :
    c'.auth.adopting = c.auth.adopting := by
  cases hstep with
  | quiet hq => rw [hq.2]
  | authMeta same => exact same.1
  | setAdopting => exact he.elim
  | _ => rfl

theorem Step.joined {e : Event M} {c c' : Core M} (hstep : Step e c c')
    (he : e.Closed) :
    c'.joined = c.joined := by
  cases hstep with
  | quiet hq => rw [hq.2]
  | joinRecv => exact he.elim
  | _ => rfl

theorem Step.unjoined {e : Event M} {c c' : Core M} (hstep : Step e c c')
    (he : e.Closed) (hnone : c.half .recvClassical = none) :
    c'.half .recvClassical = none := by
  have hother : forall {h : Half} {g g' : M.Group}, c.half h = some g ->
      (c.setHalf h g').half .recvClassical = none := by
    intro h g g' held
    rw [Core.half_setHalf_of_ne, hnone]
    rintro rfl
    rw [held] at hnone
    cases hnone
  cases hstep with
  | quiet hq => exact hq.half_none hnone
  | joinRecv => exact he.elim
  | peerCommit held => exact hother held
  | applyRekey held => exact hother held
  | ownCommit held => exact hother held
  | ownCommitPq held => exact hother held
  | propose held => exact hother held
  | createSendPq =>
      rw [Core.half_setHalf_of_ne (by decide)]
      exact hnone
  | joinRecvPq missing live => exact absurd hnone live
  | _ => exact hnone

namespace Seeking

variable {toward : Bytes} {c c' : Core M}

theorem of_joined (hclosed : c.auth.adopting = false)
    (hheld : c.half .recvClassical ≠ none) :
    Seeking toward c where
  closed := hclosed
  unjoined := fun hnone => absurd hnone hheld

theorem aside {e : Event M} (h : Seeking toward c) (he : e.Aside) (he' : e.Closed)
    (hstep : Step e c c') :
    Seeking toward c' := by
  refine { closed := (hstep.adopting he').trans h.closed, unjoined := fun hnone' => ?_ }
  have hnone : c.half .recvClassical = none := by
    by_contra hheld
    exact hstep.half_ne_none hheld hnone'
  have hslots := h.unjoined hnone
  cases hstep with
  | quiet hq =>
      rw [hq.2]
      exact hslots
  | joinRecv => exact he.elim
  | setOffered => exact ⟨hslots.1, he, hslots.2.2⟩
  | dequeue => exact ⟨hslots.1, hslots.2.1, rfl, hslots.2.2.2⟩
  | setQueued => cases he
  | commitTheirs => exact he.elim
  | _ => exact hslots

theorem stable : Stable (Seeking toward (M := M)) :=
  fun _ _ hq hc => hc.aside (e := .quiet) True.intro True.intro (Step.quiet hq)

theorem recovered (h : Recovered (fun _ => Seeking toward) c) :
    Seeking toward c := by
  cases h with
  | checkpoint h => exact h
  | spliced h h' => exact { closed := h.closed, unjoined := h.unjoined }

theorem restored (h : Seeking toward c) (hr : Restored c c') :
    Seeking toward c' := by
  rw [hr.2]
  refine { closed := rfl, unjoined := fun hnone => ?_ }
  have hrecv := (hr.1 .recvClassical).symm
  rw [show c'.half .recvClassical = none from hnone] at hrecv
  exact h.unjoined hrecv.none_left

end Seeking

/-!
## The other calls
-/

theorem closed_of_beside {e : Event M} (h : e.Beside) : e.Closed := by
  cases e <;> first | exact True.intro | exact h

theorem aside_of_beside {e : Event M} (h : e.Beside) : e.Aside := by
  cases e <;> first | exact True.intro | exact h.elim

theorem closed_prepare {queued : Option (PeerProposal M)} {e : Event M}
    (h : prepareEvents queued e) :
    e.Closed := by
  cases e <;> first | exact True.intro | exact h

theorem aside_prepare {e : Event M} (h : prepareEvents (M := M) none e) : e.Aside := by
  cases e with
  | setOffered o => exact h
  | setQueued q => exact h
  | commitTheirs cause id =>
      rcases h.2 with ⟨approved, hnone, _⟩
      cases hnone
  | joinRecv w => exact h
  | _ => exact True.intro

theorem closed_queue {offered : Option (PeerProposal M)} {e : Event M}
    (h : queueEvents offered e) :
    e.Closed := by
  cases e <;> first | exact True.intro | exact h

theorem aside_queue {e : Event M} (h : queueEvents (M := M) none e) : e.Aside := by
  cases e with
  | setOffered o => exact h.elim id id
  | setQueued q => exact h
  | commitTheirs cause id => exact h
  | joinRecv w => exact h
  | _ => exact True.intro

def Call.Receives : Call M -> Prop
  | .processIncoming _ _ => True
  | _ => False

theorem Call.events_closed {call : Call M} (hother : ¬ call.Receives) {c : Core M}
    {e : Event M} (he : call.events c e) :
    e.Closed := by
  by_cases hmessages : call.Messages
  · cases call with
    | prepareToEncrypt proposing rnd => exact closed_prepare he
    | queueProposal digest => exact closed_queue he
    | processIncoming frame approval => exact absurd True.intro hother
    | _ => exact hmessages.elim
  · exact closed_of_beside (events_beside hmessages he)

theorem Call.events_aside {call : Call M} (hother : ¬ call.Receives) {c : Core M}
    {e : Event M} (hoffered : c.offered = none) (hqueued : c.queued = none)
    (he : call.events c e) :
    e.Aside := by
  by_cases hmessages : call.Messages
  · cases call with
    | prepareToEncrypt proposing rnd =>
        have h : prepareEvents c.queued e := he
        rw [hqueued] at h
        exact aside_prepare h
    | queueProposal digest =>
        have h : queueEvents c.offered e := he
        rw [hoffered] at h
        exact aside_queue h
    | processIncoming frame approval => exact absurd True.intro hother
    | _ => exact hmessages.elim
  · exact aside_of_beside (events_beside hmessages he)

theorem Seeking.call (L : Lawful M) {toward : Bytes} {call : Call M}
    (hother : ¬ call.Receives) {t : TwoMlsPqSession M} (happroved : Durable Approved t)
    (h : Durable (Seeking toward) t) :
    Durable (Seeking toward) (call.run.run t).2 := by
  have hadvances := call_advances L call t happroved.now
  by_cases hheld : t.inner.core.half .recvClassical = none
  · have hslots := h.now.unjoined hheld
    exact h.advance hadvances fun e c c' he hstep hc =>
      hc.aside (call.events_aside hother hslots.2.1 hslots.2.2.1 he)
        (call.events_closed hother he) hstep
  · refine h.advance_along (J := fun c => c.half .recvClassical ≠ none) hheld hadvances ?_
    intro e c c' he hstep hjoined hc
    have hjoined' := hstep.half_ne_none hjoined
    refine ⟨Seeking.of_joined ?_ hjoined', hjoined'⟩
    exact (hstep.adopting (call.events_closed hother he)).trans hc.closed

/-!
## The frames
-/

/-- How a frame ends for a session that has not joined. -/
def EndsUnjoined (frame : Frame M) (approval : Option EstablishmentApproval)
    (s : SessionInner M) : Result (Option (DecryptResult M)) -> SessionInner M -> Prop
  | .error _, u => (u.recvGroup = none ∧ Refused s u) ∨ Torn frame approval s u
  | .ok d, u =>
      (isPaused d = true ∧ u = s) ∨ (isPaused d = false ∧ Joins frame approval s u)

def EndsJoined (s : SessionInner M) :
    Result (Option (DecryptResult M)) -> SessionInner M -> Prop
  | .error _, u => Settles s u
  | .ok d, u => isPaused d = false ∧ Settles s u

theorem ends_unjoined (L : Lawful M) {s u : SessionInner M}
    (hnone : s.recvGroup = none) (hclosed : s.services.auth.adopting = false)
    {frame : Frame M} {approval : Option EstablishmentApproval}
    {r : Result (Option (DecryptResult M))}
    (hrun : (processIncomingInner frame approval).run s = (r, u)) :
    EndsUnjoined frame approval s r u := by
  have htriple := unjoined_processIncomingInner L hnone hclosed frame approval s rfl
  rw [hrun] at htriple
  cases r with
  | error e =>
      rcases htriple with hrefused | htorn
      · exact Or.inl ⟨hrefused.absent hnone, hrefused⟩
      · exact Or.inr htorn
  | ok d => exact htriple

theorem ends_joined (L : Lawful M) {s u : SessionInner M}
    (hjoined : s.recvGroup.isSome = true) {frame : Frame M}
    {approval : Option EstablishmentApproval} {r : Result (Option (DecryptResult M))}
    (hrun : (processIncomingInner frame approval).run s = (r, u)) :
    EndsJoined s r u := by
  have htriple := joined_processIncomingInner L hjoined frame approval s rfl
  rw [hrun] at htriple
  cases r with
  | error e => exact htriple
  | ok d => exact htriple

theorem Joins.standing {frame : Frame M} {approval : Option EstablishmentApproval}
    {s u u' : SessionInner M} (h : Joins frame approval s u) (h' : Standing u u') :
    Joins frame approval s u' := by
  rcases h with ⟨st, w, establishment, v, hbrings, hadmits, hadopts, hpeer, held, hstands⟩
  exact ⟨st, w, establishment, v, hbrings, hadmits, hadopts,
    hpeer.trans h'.toSamePeer, h'.held held, fun hcommit => (hstands hcommit).trans h'⟩

theorem door_ends (L : Lawful M) (frame : Frame M)
    (approval : Option EstablishmentApproval) (t : TwoMlsPqSession M)
    {r : Result (Option (DecryptResult M))} {u : SessionInner M}
    (hrun : (processIncomingInner frame approval).run t.inner = (r, u)) :
    exists t', (processIncomingWith frame approval).run t = (r, t') ∧
      ((exists e, r = .error e) ∨ (exists d, r = .ok d ∧ isPaused d = true) ->
        t' = t.withInner u) ∧
      Standing u t'.inner := by
  have hdoor := run_processIncomingWith frame approval t
  cases r with
  | error e =>
      exact ⟨_, hdoor.1 e u hrun, fun _ => rfl, Standing.refl u⟩
  | ok d =>
      cases hpaused : isPaused d with
      | true => exact ⟨_, hdoor.2.1 d u hrun hpaused, fun _ => rfl, Standing.refl u⟩
      | false =>
          rcases hdoor.2.2 d u hrun hpaused with ⟨kind, hpersist⟩
          refine ⟨_, hpersist, ?_, standing_persistAfter L kind (t.withInner u)⟩
          rintro (⟨e, herror⟩ | ⟨d', hok, hpaused'⟩)
          · cases herror
          · cases hok
            rw [hpaused] at hpaused'
            cases hpaused'

namespace Seeking

variable {toward : Bytes}

theorem ends (L : Lawful M) {s u : SessionInner M} (h : Seeking toward s.core)
    {frame : Frame M} {approval : Option EstablishmentApproval}
    {r : Result (Option (DecryptResult M))}
    (hrun : (processIncomingInner frame approval).run s = (r, u)) :
    Seeking toward u.core := by
  have hsettles : s.recvGroup.isSome = true -> Settles s u ->
      Seeking toward u.core := by
    intro hjoined hsettles
    apply Seeking.of_joined (hsettles.adopting.trans h.closed)
    rw [recvGroup_isSome_iff] at hjoined
    rcases Option.ne_none_iff_exists'.mp hjoined with ⟨g, held⟩
    rcases hsettles.rises .recvClassical g (Or.inl rfl) held with ⟨g', held', _⟩
    exact ne_none_of_held held'
  have hjoins : Joins frame approval s u -> Seeking toward u.core := by
    rintro ⟨st, w, establishment, v, _, _, hadopts, hpeer, held, _⟩
    apply Seeking.of_joined
    · exact (hpeer.adopting.trans hadopts.adopting).trans h.closed
    · exact (recvGroup_isSome_iff u).mp held
  by_cases hjoined : s.recvGroup.isSome = true
  · have hends := ends_joined L hjoined hrun
    cases r with
    | error e => exact hsettles hjoined hends
    | ok d => exact hsettles hjoined hends.2
  · have hnone : s.recvGroup = none := by
      rw [Option.isSome_iff_ne_none, not_not] at hjoined
      exact hjoined
    have hends := ends_unjoined L hnone h.closed hrun
    cases r with
    | error e =>
        rcases hends with ⟨hnone', hrefused⟩ | htorn
        · have hhalf : s.core.half .recvClassical = none := by
            by_contra hheld
            exact hjoined ((recvGroup_isSome_iff s).mpr hheld)
          refine
            { closed := hrefused.adopting.trans h.closed
              unjoined := fun _ => ?_ }
          have hslots := h.unjoined hhalf
          unfold SessionInner.core at hslots ⊢
          dsimp only at hslots ⊢
          rw [hrefused.msg, hrefused.rotation]
          exact hslots
        · exact hjoins htorn.2
    | ok d =>
        rcases hends with ⟨_, rfl⟩ | ⟨_, hjoin⟩
        · exact h
        · exact hjoins hjoin

theorem receives (L : Lawful M) {t : TwoMlsPqSession M}
    (h : Durable (Seeking toward) t) (frame : Frame M)
    (approval : Option EstablishmentApproval) :
    Durable (Seeking toward) ((processIncomingWith frame approval).run t).2 := by
  have hdoor := run_processIncomingWith frame approval t
  rcases hrun : (processIncomingInner frame approval).run t.inner with ⟨r, u⟩
  have hnow : Durable (Seeking toward) (t.withInner u) :=
    { now := h.now.ends L hrun, pushed := h.pushed }
  cases r with
  | error e =>
      rw [hdoor.1 e u hrun]
      exact hnow
  | ok d =>
      cases hpaused : isPaused d with
      | true =>
          rw [hdoor.2.1 d u hrun hpaused]
          exact hnow
      | false =>
          rcases hdoor.2.2 d u hrun hpaused with ⟨kind, hpersist⟩
          rw [hpersist]
          have hpersists : Door quietEvents (fun _ => True) (persistAfter (M := M) kind)
              fun _ _ => True :=
            door_persistAfter L True.intro kind
          refine hnow.advance (hpersists.advances True.intro) ?_
          intro e c c' he hstep hc
          cases hstep with
          | quiet hq => exact Seeking.stable _ _ hq hc
          | _ => exact he.elim

theorem live (L : Lawful M) {t : TwoMlsPqSession M} {a : LifeAction M}
    (happroved : Durable Approved t) (h : Durable (Seeking toward) t) :
    Durable (Seeking toward) (t.live a) := by
  cases a with
  | reopen => exact h.reopened L stable fun _ _ hr hc => hc.restored hr
  | host a =>
      cases a with
      | restart =>
          exact h.restarted L (fun _ => recovered) fun _ _ hr hc => hc.restored hr
      | call call =>
          by_cases hreceives : call.Receives
          · cases call with
            | processIncoming frame approval =>
                change Durable (Seeking toward)
                  ((handing (processIncomingWith frame approval) fun _ => []).run t).2
                rw [handing_run]
                exact receives L h frame approval
            | _ => exact hreceives.elim
          · exact Seeking.call L hreceives happroved h

end Seeking

/-!
## The peer of a born initiator
-/

theorem adopting_createCombinerSendGroup (classicalKp pqKp : Blob M)
    (client : TwoMlsPqPrincipal M) (appBinding : Option Bytes)
    (rnd : Nat -> M.Seed) :
    Op.Keeps (fun sv : Services => sv.auth.adopting = false)
      (createCombinerSendGroup classicalKp pqKp client appBinding rnd) := by
  have hexport : forall g : M.Group,
      Op.Keeps (fun sv : Services => sv.auth.adopting = false)
        (exportAndRegisterPsk client .apq g) := by
    intro g
    unfold exportAndRegisterPsk onLocalGroup
    rcases (exportPsk .apq : GroupOp M ExportedPsk).run g with ⟨r, g'⟩
    refine Op.Keeps.bind ?_ fun exported => ?_
    · cases r with
      | ok exported => exact Op.Keeps.value _
      | error e => exact Op.Keeps.fail e
    · exact Op.Keeps.bind (Op.Keeps.update fun _ h => h) fun _ => Op.Keeps.value _
  unfold createCombinerSendGroup
  refine Op.Keeps.looking (Op.Still.ofExcept _) fun peerId => ?_
  refine Op.Keeps.bind (Op.Keeps.update fun _ h => h) fun _ => ?_
  refine Op.Keeps.looking (Op.Still.ofExcept _) fun tGid => ?_
  refine Op.Keeps.looking (Op.Still.ofExcept _) fun pqGid => ?_
  refine Op.Keeps.looking Op.Still.state fun sv => ?_
  refine Op.Keeps.looking (Op.Still.ofExcept _) fun created => ?_
  refine Op.Keeps.bind (hexport _) fun exported => ?_
  refine Op.Keeps.looking (Op.Still.ofExcept _) fun creation => ?_
  refine Op.Keeps.looking Op.Still.state fun sv => ?_
  refine Op.Keeps.looking (Op.Still.ofExcept _) fun created => ?_
  exact Op.Keeps.value _

theorem initiate_seeking (L : Lawful M) {client : TwoMlsPqPrincipal M}
    {services : Services} {theirKp : CombinerKeyPackage M}
    {appBinding : Option Bytes} {rnd : Nat -> M.Seed} {s : SessionInner M}
    (h : initiate client services theirKp appBinding rnd = .ok s)
    (hclosed : services.auth.adopting = false) :
    exists their, parseMlsKeyPackage theirKp.classical = .ok their ∧
      Seeking their.clientId s.core := by
  rcases initiate_quiet L h with
    ⟨their, created, services', kp, secret, envelope, hparsed, hcreated, _, _, hquiet⟩
  have hclosed' := adopting_createCombinerSendGroup theirKp.classical theirKp.pq client
    appBinding (fun n => rnd (n + 2)) services hclosed
  rw [hcreated] at hclosed'
  refine ⟨their, hparsed, ?_⟩
  rw [hquiet.2]
  exact
    { closed := hclosed'
      unjoined := fun _ => ⟨rfl, rfl, rfl, rfl⟩ }

/-!
## The authentication of an establishment
-/

/-- The creator a welcome is joined from: the peer sought, or the one approved. -/
def WelcomeEstablishment.expects (toward : Bytes) : WelcomeEstablishment -> Bytes
  | .bare => toward
  | .approved expectedCreator => expectedCreator

theorem Adopts.creator {welcome : WelcomeBytes M} {establishment : WelcomeEstablishment}
    {s u : SessionInner M} (h : Adopts welcome establishment s u) {toward : Bytes}
    (hsought : s.rotation.theirState.clientId = toward) :
    exists recv, u.recvGroup = some recv ∧
      senderClientId recv.classical (peerIndex recv.classical) =
        .ok (establishment.expects toward) := by
  rcases h.group with
    ⟨_, recv, creatorId, _, _, _, _, hrecv, hcreator, hallowed, _⟩
  refine ⟨recv, hrecv, ?_⟩
  rw [hcreator]
  unfold creatorAllowed at hallowed
  cases establishment with
  | bare =>
      dsimp only at hallowed
      split at hallowed
      next heq => exact congrArg Except.ok (heq.symm.trans hsought)
      next => cases hallowed
  | approved expectedCreator =>
      dsimp only at hallowed
      split at hallowed
      next heq => exact congrArg Except.ok heq.symm
      next => cases hallowed

theorem unexpected_welcome {frame : Frame M} {st : Staple M} {w : WelcomeBytes M}
    {s : SessionInner M} (hbrings : frame.brings = some st)
    (hinvites : st.invites = some w) (h : s.recvGroup.isSome = true)
    (hother : s.msg.joinedWelcomeDigest ≠ some (M.sha256 w.bytes))
    (approval : Option EstablishmentApproval) :
    exists e, (processIncomingInner frame approval).run s = (.error e, s) ∧
      (s.round.bindApplyBroken = false ->
        (forall staple proposal app, frame = .message staple proposal app ->
          app.parsed.isSome = true) ->
        e = .unexpectedWelcome) := by
  by_cases hlive : s.round.bindApplyBroken = false
  · by_cases hreadable : forall staple proposal app,
        frame = .message staple proposal app -> app.parsed.isSome = true
    · exact ⟨_, unexpected_frame hbrings hinvites h hlive hother hreadable approval,
        fun _ _ => rfl⟩
    · refine ⟨.decryptionFailed, ?_, fun _ hall => absurd hall hreadable⟩
      push Not at hreadable
      rcases hreadable with ⟨staple, proposal, app, rfl, hunparsed⟩
      have hnone : app.parsed = none := by
        rw [← Option.not_isSome_iff_eq_none]
        exact hunparsed
      unfold processIncomingInner
      rw [Op.run_bind_ok (Op.run_state s), Op.run_bind_ok (Op.run_ensure hlive _ s)]
      dsimp only
      unfold processMessage
      rw [hnone]
      rfl
  · refine ⟨.bindApplyFailed, ?_, fun hlive' => absurd hlive' hlive⟩
    unfold processIncomingInner
    rw [Op.run_bind_ok (Op.run_state s)]
    exact Op.run_bind_error (Op.run_ensure_not hlive _ s)

/-- What holds of every session an initiator that seeks `toward` comes to. -/
structure EstablishmentAuthenticated (toward : Bytes) (t : TwoMlsPqSession M) :
    Prop where
  closed : t.inner.services.auth.adopting = false
  sought : t.inner.recvGroup = none ->
    t.inner.rotation.theirState.clientId = toward ∧
      t.inner.msg.joinedWelcomeDigest = none
  -- before the join a frame pauses, fails or is joined
  unjoined : t.inner.recvGroup = none ->
    forall frame approval r t', (processIncomingWith frame approval).run t = (r, t') ->
      EndsUnjoined frame approval t.inner r t'.inner ∧
        ((exists d, r = .ok d ∧ isPaused d = true) -> t' = t)
  creator : t.inner.recvGroup = none ->
    forall welcome establishment u, Adopts welcome establishment t.inner u ->
      exists recv, u.recvGroup = some recv ∧
        senderClientId recv.classical (peerIndex recv.classical) =
          .ok (establishment.expects toward)
  -- behind it the group stands, but for the commits of the peer
  joined : t.inner.recvGroup.isSome = true ->
    forall frame approval r t', (processIncomingWith frame approval).run t = (r, t') ->
      EndsJoined t.inner r t'.inner
  repeated : forall frame w approval,
    (frame = .welcome w ∨ exists envelope, frame = .handoff envelope w) ->
      t.inner.recvGroup.isSome = true -> t.inner.round.bindApplyBroken = false ->
        t.inner.msg.joinedWelcomeDigest = some (M.sha256 w.bytes) ->
          exists t', (processIncomingWith frame approval).run t = (.ok none, t') ∧
            Standing t.inner t'.inner
  repeatedStaple : forall st w approval, st.invites = some w ->
    t.inner.recvGroup.isSome = true ->
      t.inner.msg.joinedWelcomeDigest = some (M.sha256 w.bytes) ->
        (processStaple st approval).run t.inner =
          (.ok (some StapleOutcome.unchanged), t.inner)
  unexpected : forall frame st w approval, frame.brings = some st ->
    st.invites = some w -> t.inner.recvGroup.isSome = true ->
      t.inner.msg.joinedWelcomeDigest ≠ some (M.sha256 w.bytes) ->
        exists e, (processIncomingWith frame approval).run t = (.error e, t) ∧
          (t.inner.round.bindApplyBroken = false ->
            (forall staple proposal app, frame = .message staple proposal app ->
              app.parsed.isSome = true) ->
            e = .unexpectedWelcome)
  others : forall call : Call M, ¬ call.Receives ->
    (call.run.run t).2.inner.services.auth.adopting = false ∧
      (call.run.run t).2.inner.msg.joinedWelcomeDigest =
        t.inner.msg.joinedWelcomeDigest ∧
      ((call.run.run t).2.inner.recvGroup = none <-> t.inner.recvGroup = none)

theorem recvGroup_none_iff (s : SessionInner M) :
    s.recvGroup = none <-> s.core.half .recvClassical = none := by
  have hsome := not_congr (recvGroup_isSome_iff s)
  rw [Option.isSome_iff_ne_none, not_not, not_not] at hsome
  exact hsome

theorem others_authenticated (L : Lawful M) {toward : Bytes} {t : TwoMlsPqSession M}
    (happroved : Durable Approved t) (h : Durable (Seeking toward) t) {call : Call M}
    (hother : ¬ call.Receives) :
    (call.run.run t).2.inner.services.auth.adopting = false ∧
      (call.run.run t).2.inner.msg.joinedWelcomeDigest =
        t.inner.msg.joinedWelcomeDigest ∧
      ((call.run.run t).2.inner.recvGroup = none <-> t.inner.recvGroup = none) := by
  have hpath := call_goes L call t happroved.now
  refine ⟨(Seeking.call L hother happroved h).now.closed, ?_, ?_⟩
  · exact hpath.invariant (I := fun c => c.joined = t.inner.core.joined)
      (fun e c c' he hstep hc => (hstep.joined (call.events_closed hother he)).trans hc) rfl
  · rw [recvGroup_none_iff, recvGroup_none_iff]
    constructor
    · intro hnone'
      by_contra hheld
      exact hpath.half_ne_none hheld hnone'
    · exact hpath.invariant (I := fun c => c.half .recvClassical = none)
        fun e c c' he hstep hc => hstep.unjoined (call.events_closed hother he) hc

theorem authenticated_of_seeking (L : Lawful M) {toward : Bytes}
    {t : TwoMlsPqSession M} (happroved : Durable Approved t)
    (h : Durable (Seeking toward) t) :
    EstablishmentAuthenticated toward t := by
  have hsought : t.inner.recvGroup = none ->
      t.inner.rotation.theirState.clientId = toward ∧
        t.inner.msg.joinedWelcomeDigest = none := by
    intro hnone
    have hslots := h.now.unjoined ((recvGroup_none_iff t.inner).mp hnone)
    exact ⟨hslots.1, hslots.2.2.2⟩
  have hends : forall frame approval r t',
      (processIncomingWith frame approval).run t = (r, t') ->
        exists u, (processIncomingInner frame approval).run t.inner = (r, u) ∧
          ((exists e, r = .error e) ∨ (exists d, r = .ok d ∧ isPaused d = true) ->
            t' = t.withInner u) ∧
          Standing u t'.inner := by
    intro frame approval r t' hrun
    rcases hinner : (processIncomingInner frame approval).run t.inner with ⟨r', u⟩
    rcases door_ends L frame approval t hinner with ⟨t'', hdoor, hsilent, hstands⟩
    rw [hdoor] at hrun
    cases hrun
    exact ⟨u, rfl, hsilent, hstands⟩
  refine
    { closed := h.now.closed
      sought := hsought
      unjoined := ?_
      creator := fun hnone _ _ _ hadopts => hadopts.creator (hsought hnone).1
      joined := ?_
      repeated := ?_
      repeatedStaple := fun st w approval hinvites hjoined hsame =>
        repeated_staple hinvites hjoined hsame approval
      unexpected := ?_
      others := fun call hother => others_authenticated L happroved h hother }
  · intro hnone frame approval r t' hrun
    rcases hends frame approval r t' hrun with ⟨u, hinner, hsilent, hstands⟩
    have hend := ends_unjoined L hnone h.now.closed hinner
    cases r with
    | error e =>
        have hsame := hsilent (Or.inl ⟨e, rfl⟩)
        subst hsame
        refine ⟨hend, ?_⟩
        rintro ⟨d, hok, _⟩
        cases hok
    | ok d =>
        rcases hend with ⟨hpaused, rfl⟩ | ⟨hpaused, hjoins⟩
        · have hsame := hsilent (Or.inr ⟨d, rfl, hpaused⟩)
          subst hsame
          exact ⟨Or.inl ⟨hpaused, rfl⟩, fun _ => rfl⟩
        · refine ⟨Or.inr ⟨hpaused, hjoins.standing hstands⟩, ?_⟩
          rintro ⟨d', hok, hpaused'⟩
          cases hok
          rw [hpaused] at hpaused'
          cases hpaused'
  · intro hjoined frame approval r t' hrun
    rcases hends frame approval r t' hrun with ⟨u, hinner, hsilent, hstands⟩
    have hend := ends_joined L hjoined hinner
    cases r with
    | error e => exact Settles.trans hend hstands.settles
    | ok d => exact ⟨hend.1, hend.2.trans hstands.settles⟩
  · intro frame w approval hframe hjoined hlive hsame
    rcases door_ends L frame approval t
      (repeated_frame hframe hjoined hlive hsame approval) with ⟨t', hdoor, _, hstands⟩
    exact ⟨t', hdoor, hstands⟩
  · intro frame st w approval hbrings hinvites hjoined hother
    rcases unexpected_welcome hbrings hinvites hjoined hother approval with
      ⟨e, hinner, hnamed⟩
    have hdoor := (run_processIncomingWith frame approval t).1 e t.inner hinner
    exact ⟨e, hdoor, hnamed⟩

/-- An initiator adopts nobody but the peer it sought or the host approved, and
nobody twice. -/
theorem establishment_authenticated (L : Lawful M) {client : TwoMlsPqPrincipal M}
    {services : Services} {theirKp : CombinerKeyPackage M}
    {appBinding : Option Bytes} {rnd : Nat -> M.Seed} {s : SessionInner M}
    (initiated : initiate client services theirKp appBinding rnd = .ok s)
    (closed : services.auth.adopting = false) :
    exists their, parseMlsKeyPackage theirKp.classical = .ok their ∧
      forall t, Run TwoMlsPqSession.live (fun _ _ => True) (TwoMlsPqSession.fresh s) t ->
        EstablishmentAuthenticated their.clientId t := by
  have hborn := initiate_born L initiated
  rcases initiate_seeking L initiated closed with ⟨their, hparsed, hseeking⟩
  refine ⟨their, hparsed, fun t run => ?_⟩
  have hrun : Durable Approved t ∧ Durable (Seeking their.clientId) t := by
    refine run.invariant
      (I := fun t => Durable Approved t ∧ Durable (Seeking their.clientId) t) ?_ ?_
    · exact fun _ _ h _ => ⟨approved_live L h.1, Seeking.live L h.1 h.2⟩
    · exact ⟨Durable.fresh (approved_unused hborn.unused), Durable.fresh hseeking⟩
  exact authenticated_of_seeking L hrun.1 hrun.2

end

/-!
## On the reference pair
-/

/-- The initiator of the reference pair, over every run. -/
theorem reference_establishment_authenticated :
    exists their, parseMlsKeyPackage
        (ReferencePair.keyPackage ReferencePair.acceptorClient 20).classical = .ok their ∧
      forall t, Run TwoMlsPqSession.live (fun _ _ => True)
          (TwoMlsPqSession.fresh ReferencePair.initiator) t ->
        EstablishmentAuthenticated their.clientId t :=
  establishment_authenticated Reference.lawful
    (ReferencePair.eq_ok_of_isSome ReferencePair.initiation_isSome) rfl

namespace ReferencePair

def unreadable : Frame Reference.mls :=
  .message (.welcome crossWelcome) none
    ((crossWelcome.decoded.map ApqWelcome.classical).getD
      { bytes := [], parsed := none })

end ReferencePair

/-- A failure may come behind a join: the message it refuses has the session keep
the group and the digest of the welcome it stapled. -/
theorem failed_message_keeps_join :
    ¬ forall (s : SessionInner Reference.mls) (t : TwoMlsPqSession Reference.mls)
        (frame : Frame Reference.mls) (approval : Option EstablishmentApproval),
      Initiated s ->
        Run TwoMlsPqSession.live (fun _ _ => True) (TwoMlsPqSession.fresh s) t ->
          (refusal ((processIncomingWith frame approval).run t)).isSome = true ->
            ((processIncomingWith frame approval).run t).2.inner.recvGroup.isSome =
                t.inner.recvGroup.isSome ∧
              ((processIncomingWith frame approval).run t).2.inner.msg.joinedWelcomeDigest
                = t.inner.msg.joinedWelcomeDigest := by
  intro hall
  have hkept := hall _ _ ReferencePair.unreadable none ReferencePair.initiator_initiated
    Run.refl (by decide +kernel)
  have hbefore :
      (TwoMlsPqSession.fresh ReferencePair.initiator).inner.recvGroup.isSome = false := by
    decide +kernel
  have hafter : ((processIncomingWith ReferencePair.unreadable none).run
      (TwoMlsPqSession.fresh ReferencePair.initiator)).2.inner.recvGroup.isSome =
        true := by
    decide +kernel
  rw [hbefore, hafter] at hkept
  cases hkept.1

end Session
end TwoMlsPq
