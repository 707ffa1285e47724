import TwoMlsPq.Session.Wedge

/-!
# Catching up the send leaf

A settled rotation leaves our leaf in the post-quantum send half behind.  The
driver then opens A.5 rounds, and an A.5 round we open moves our leaf in the
peer's send half.  Our own send leaf is moved by one commit only: the Commit'
with which we answer a round of the peer.
-/

namespace TwoMlsPq
namespace Session

open Foundation Apq

section

variable {M : MlsRs}

def sendPqLeaf (c : Core M) : Option Bytes :=
  (c.half .sendPq).bind fun g =>
    (senderClientId g (M.currentMemberIndex g)).toOption

theorem sendPqLeafLags_iff (s : SessionInner M) :
    sendPqLeafLags s = true <->
      exists leaf, sendPqLeaf s.core = some leaf ∧ leaf ≠ s.client.clientId := by
  unfold sendPqLeafLags sendPqLeaf
  change _ <-> exists leaf, (s.half .sendPq).bind _ = some leaf ∧ _
  cases s.half .sendPq with
  | none => simp
  | some g =>
      dsimp only [Option.bind_some]
      cases senderClientId g (M.currentMemberIndex g) with
      | error e => simp [Except.toOption]
      | ok leaf => simp [Except.toOption]

/-!
## What moves the leaf
-/

theorem sendPqLeaf_of_half {c c' : Core M} (h : c'.half .sendPq = c.half .sendPq) :
    sendPqLeaf c' = sendPqLeaf c := by
  unfold sendPqLeaf
  rw [h]

theorem sendPqLeaf_held {c : Core M} {g : M.Group} (held : c.half .sendPq = some g) :
    sendPqLeaf c = (senderClientId g (M.currentMemberIndex g)).toOption := by
  unfold sendPqLeaf
  rw [held]
  rfl

theorem sendPqLeaf_ownKept {c c' : Core M} {g g' : M.Group}
    (held : c.half .sendPq = some g) (held' : c'.half .sendPq = some g')
    (hindex : M.currentMemberIndex g' = M.currentMemberIndex g)
    (hleaf : ownLeaf g' = ownLeaf g) :
    sendPqLeaf c' = sendPqLeaf c := by
  unfold ownLeaf at hleaf
  rw [hindex] at hleaf
  rw [sendPqLeaf_held held, sendPqLeaf_held held', hindex,
    senderClientId_leafAt hleaf]

theorem sendPqLeaf_basic {c : Core M} {g : M.Group} {id key : Bytes}
    (held : c.half .sendPq = some g) (hleaf : ownLeaf g = some (.basic id, key)) :
    sendPqLeaf c = some id := by
  rw [sendPqLeaf_held held, senderClientId_basic hleaf]
  rfl

theorem sendPqLeaf_halfQuiet {c c' : Core M}
    (h : HalfQuiet (c.half .sendPq) (c'.half .sendPq)) :
    sendPqLeaf c' = sendPqLeaf c := by
  cases held : c.half .sendPq with
  | none =>
      rw [held] at h
      exact sendPqLeaf_of_half (h.none_left.trans held.symm)
  | some g =>
      rw [held] at h
      rcases h.some_left with ⟨g', held', hsame⟩
      exact sendPqLeaf_ownKept held held' hsame.memberIndex hsame.ownLeaf_eq

def Event.MovesSendPqLeaf : Event M -> Prop
  | .peerCommit h _ => h = .sendPq
  | .ownCommit h _ identity => h = .sendPq ∧ identity ≠ none
  | .createSendPq _ => True
  | _ => False

theorem sendPqLeaf_step {e : Event M} {c c' : Core M} (hstep : Step e c c')
    (he : ¬ e.MovesSendPqLeaf) :
    sendPqLeaf c' = sendPqLeaf c := by
  cases hstep with
  | quiet hq => exact sendPqLeaf_halfQuiet (hq.1 _)
  | peerCommit held idle kind applied =>
      have hne : Half.sendPq ≠ _ := fun h => he h.symm
      exact sendPqLeaf_of_half (Core.half_setHalf_of_ne hne)
  | applyRekey held initiated applied =>
      exact sendPqLeaf_of_half (Core.half_setHalf_of_ne (by decide))
  | ownCommit held discharged licensed handoff applied =>
      exact sendPqLeaf_of_half (Core.half_setHalf_of_ne (by decide))
  | ownCommitPq held discharged handoff applied =>
      -- a commit without a new identity keeps the leaf
      rcases applied.own with hkept | ⟨signer, identifier, hidentity, _⟩
      · exact sendPqLeaf_ownKept held (Core.half_setHalf ..) applied.memberIndex hkept.1
      · exact absurd ⟨rfl, by simp [hidentity]⟩ he
  | propose held introduces proposed =>
      rename_i h _ _ _ _
      have hne : Half.sendPq ≠ h := by
        rintro rfl
        exact introduces
      exact sendPqLeaf_of_half (Core.half_setHalf_of_ne hne)
  | joinRecv missing missingPq parsed joined joinedPq decoded => rfl
  | createSendPq missing created => exact absurd True.intro he
  | joinRecvPq missing live initiated parsed joined =>
      rename_i g
      have hother : (c.setHalf .recvPq g).half .sendPq = c.half .sendPq :=
        Core.half_setHalf_of_ne (by decide)
      exact sendPqLeaf_of_half hother
  | _ => rfl

/-- The doors that can move the leaf: the answer to an A.5 round, and the answer
that creates the half. -/
def Call.AnswersPq : Call M -> Prop
  | .pqRekeyRespond _ _ => True
  | .pqBootstrapRespond _ _ => True
  | _ => False

theorem Call.events_spare {c : Core M} {call : Call M} {e : Event M}
    (hcall : ¬ call.AnswersPq) (he : call.events c e) :
    ¬ e.MovesSendPqLeaf := by
  intro hmoves
  cases call with
  | pqRekeyRespond frame seed => exact hcall True.intro
  | pqBootstrapRespond frame rnd => exact hcall True.intro
  | processIncoming frame approval =>
      cases e with
      | peerCommit h m =>
          cases show h = .sendPq from hmoves
          cases frame <;> exact he
      | ownCommit h fold identity => exact he
      | createSendPq kp => exact he
      | _ => exact hmoves
  | _ =>
      cases e with
      | peerCommit h m =>
          cases show h = .sendPq from hmoves
          first
          | exact he
          | cases he.1
      | ownCommit h fold identity =>
          rcases hmoves with ⟨rfl, hidentity⟩
          first
          | exact he
          | exact hidentity he.2.2
          | cases he.1
      | createSendPq kp => exact he
      | _ => exact hmoves

/-!
## Until the next rotation
-/

/-- The leaf, where it can be read, presents one credential. -/
def Presents (id : Bytes) (c : Core M) : Prop :=
  forall leaf, sendPqLeaf c = some leaf -> leaf = id

theorem Presents.of_eq {id : Bytes} {c c' : Core M} (h : Presents id c)
    (hsame : sendPqLeaf c' = sendPqLeaf c) :
    Presents id c' := by
  intro leaf hleaf
  rw [hsame] at hleaf
  exact h leaf hleaf

theorem Presents.stable (id : Bytes) : Stable (Presents (M := M) id) :=
  fun _ _ hq hc => hc.of_eq (sendPqLeaf_halfQuiet (hq.1 _))

theorem presents_step {id : Bytes} {e : Event M} {c c' : Core M}
    (hstep : Step e c c') (hevent : forall m, e ≠ .peerCommit .sendPq m)
    (hclient : c.client.clientId = id) (hc : Presents id c) :
    Presents id c' := by
  by_cases hmoves : e.MovesSendPqLeaf
  · cases hstep with
    | ownCommitPq held discharged handoff applied =>
        rcases applied.own with hkept | ⟨signer, identifier, hidentity, hmoved⟩
        · exact hc.of_eq
            (sendPqLeaf_ownKept held (Core.half_setHalf ..) applied.memberIndex hkept.1)
        · rcases handoff with hnone | hsome
          · exact absurd hnone hmoves.2
          · rw [hidentity] at hsome
            cases hsome
            intro leaf hleaf
            rw [sendPqLeaf_basic (Core.half_setHalf ..) hmoved.1] at hleaf
            cases hleaf
            exact hclient
    | createSendPq missing created =>
        intro leaf hleaf
        rw [sendPqLeaf_basic (Core.half_setHalf ..) created.own] at hleaf
        cases hleaf
        exact hclient
    | peerCommit held idle kind applied =>
        cases show _ = Half.sendPq from hmoves
        exact absurd rfl (hevent _)
    | ownCommit held discharged licensed handoff applied => cases hmoves.1
    | _ => exact hmoves.elim
  · exact hc.of_eq (sendPqLeaf_step hstep hmoves)

theorem client_answers {c : Core M} {call : Call M} {e : Event M} {c₁ c₂ : Core M}
    (hcall : call.AnswersPq) (he : call.events c e) (hstep : Step e c₁ c₂) :
    c₂.client = c₁.client ∧ forall m, e ≠ .peerCommit .sendPq m := by
  have hquiet : forall {c c' : Core M}, Quiet c c' -> c'.client = c.client := by
    intro c c' hq
    rw [hq.2]
  cases call with
  | pqRekeyRespond frame seed =>
      cases hstep with
      | quiet hq => exact ⟨hquiet hq, nofun⟩
      | ownCommit held discharged licensed handoff applied => cases he.1
      | ownCommitPq held discharged handoff applied => exact ⟨rfl, nofun⟩
      | authMeta same => exact ⟨rfl, nofun⟩
      | openRound opened => exact ⟨rfl, nofun⟩
      | _ => exact he.elim
  | pqBootstrapRespond frame rnd =>
      cases hstep with
      | quiet hq => exact ⟨hquiet hq, nofun⟩
      | createSendPq missing created => exact ⟨rfl, nofun⟩
      | authMeta same => exact ⟨rfl, nofun⟩
      | openRound opened => exact ⟨rfl, nofun⟩
      | _ => exact he.elim
  | _ => exact hcall.elim

def Unrotated (id : Bytes) (t : TwoMlsPqSession M) (a : LifeAction M) : Prop :=
  (t.live a).inner.client.clientId = id

def LifeAction.AnswersRekey : LifeAction M -> Prop
  | .host (.call (.pqRekeyRespond _ _)) => True
  | _ => False

/-- A session whose send leaf presents its own client's id. -/
structure CaughtUp (id : Bytes) (t : TwoMlsPqSession M) : Prop where
  presents : Durable (Presents id) t
  approved : Durable Approved t
  client : t.inner.client.clientId = id

theorem presents_recovered {id : Bytes} {c : Core M}
    (h : Recovered (fun _ => Presents id) c) :
    Presents id c := by
  cases h with
  | checkpoint h => exact h
  | spliced h h' => exact h'

theorem CaughtUp.live (L : Lawful M) {id : Bytes} {t : TwoMlsPqSession M}
    {a : LifeAction M} (h : CaughtUp id t) (ha : Unrotated id t a) :
    CaughtUp id (t.live a) := by
  refine { presents := ?_, approved := approved_live L h.approved, client := ha }
  have hrestored : forall c r : Core M, Restored c r -> Presents id c -> Presents id r :=
    fun c r hr hc => hc.of_eq (sendPqLeaf_halfQuiet (hr.1 _))
  cases a with
  | reopen => exact h.presents.reopened L (Presents.stable id) hrestored
  | host a =>
      cases a with
      | restart => exact h.presents.restarted L (fun _ => presents_recovered) hrestored
      | call call =>
          have hadvances := call_advances L call t h.approved.now
          by_cases hcall : call.AnswersPq
          · refine h.presents.advance_along (J := fun c => c.client.clientId = id)
              h.client hadvances fun e c c' he hstep hclient hc => ?_
            have hsame := client_answers hcall he hstep
            refine ⟨presents_step hstep hsame.2 hclient hc, ?_⟩
            rw [hsame.1]
            exact hclient
          · exact h.presents.advance hadvances fun e c c' he hstep hc =>
              hc.of_eq (sendPqLeaf_step hstep (Call.events_spare hcall he))

theorem presents_of_not_lags {s : SessionInner M} (h : sendPqLeafLags s = false) :
    Presents s.client.clientId s.core := by
  intro leaf hleaf
  by_contra hne
  have hlags := (sendPqLeafLags_iff s).mpr ⟨leaf, hleaf, hne⟩
  rw [h] at hlags
  cases hlags

theorem CaughtUp.since (L : Lawful M) {t : TwoMlsPqSession M} {a : LifeAction M}
    (happroved : Durable Approved (t.live a))
    (h : Presents (t.live a).inner.client.clientId (t.live a).inner.core) :
    CaughtUp (t.live a).inner.client.clientId ((t.live a).since t) where
  presents := Durable.since L (Presents.stable _) h
  approved := Durable.since L Approved.stable happroved.now
  client := rfl

theorem CaughtUp.not_lags {id : Bytes} {t : TwoMlsPqSession M} (h : CaughtUp id t) :
    sendPqLeafLags t.inner = false := by
  rw [Bool.eq_false_iff]
  intro hlags
  rcases (sendPqLeafLags_iff _).mp hlags with ⟨leaf, hleaf, hne⟩
  rw [h.client] at hne
  exact hne (h.presents.now leaf hleaf)

/-!
## The answer to an A.5 round
-/

def PresentsClient (c : Core M) : Prop :=
  Presents c.client.clientId c

theorem PresentsClient.stable : Stable (PresentsClient (M := M)) := by
  intro c c' hq hc
  have hclient : c'.client = c.client := by rw [hq.2]
  unfold PresentsClient
  rw [hclient]
  exact Presents.stable _ _ _ hq hc

theorem presentsClient_applied (L : Lawful M) (H : HandsOver M) {c : Core M}
    {env : MlsEnv} {g : M.Group} {handoff : Option (M.Signer × Bytes)}
    (held : c.half .sendPq = some g) (hfor : HandoffFor c handoff)
    (hpending : M.pendingSigningIdentity g = some handoff)
    (hok : (M.applyPendingCommit env g).1 = .ok ()) :
    PresentsClient (c.setHalf .sendPq (M.applyPendingCommit env g).2) := by
  intro leaf' hleaf'
  rcases hfor with ⟨g', leaf, held', hleaf, rfl⟩
  rw [held] at held'
  cases held'
  by_cases hlags : leaf ≠ c.client.clientId
  · rw [if_pos hlags] at hpending
    have hmoved := H.applied env g _ _ hok hpending
    rw [sendPqLeaf_basic (Core.half_setHalf ..) hmoved.1] at hleaf'
    exact (Option.some.inj hleaf').symm
  · rw [if_neg hlags] at hpending
    rcases L.applyOk env g hok with ⟨identity, hidentity, happlied⟩
    rw [hpending] at hidentity
    cases hidentity
    rcases happlied.own with hkept | ⟨signer, identifier, hnone, _⟩
    · rw [sendPqLeaf_ownKept held (Core.half_setHalf ..) happlied.memberIndex hkept.1,
        sendPqLeaf_held held, hleaf] at hleaf'
      rw [← Option.some.inj hleaf']
      exact not_ne_iff.mp hlags
    · cases hnone

theorem presentsClient_answered (L : Lawful M) (H : HandsOver M)
    {t t' : TwoMlsPqSession M} {frame : Frame M} {seed : M.Seed}
    {frames : List (Frame M)}
    (h : (Call.pqRekeyRespond frame seed).run.run t = (.ok frames, t')) :
    PresentsClient t'.inner.core := by
  have hdoor : Door rekeyRespondEvents (fun _ => True) (pqRekeyRespond frame seed)
      (fun _ c => PresentsClient (M := M) c) := by
    unfold pqRekeyRespond
    refine Door.bind (Door.locked via_rekeyRespondGuard) fun proposal => ?_
    refine Door.assume fun hkind => ?_
    refine Door.pre (p := fun c => c.owed = none) ?_ fun _ hc => hc.1
    apply door_mutateAndPersist_keeps L True.intro fun _ => PresentsClient.stable
    apply via_rekeyRespondThen L hkind PresentsClient.stable
    · intro c c' hhalf hclient hc
      unfold PresentsClient
      rw [hclient]
      exact hc.of_eq (sendPqLeaf_of_half (congrFun hhalf _))
    · intro c env g handoff held hfor hpending hok
      exact presentsClient_applied L H held hfor hpending hok
  have hanswer := hdoor t True.intro
  have hrun : (handing (pqRekeyRespond frame seed) fun _ => []).run t =
      (.ok frames, t') := h
  unfold handing at hrun
  rcases Op.bind_ok hrun with ⟨a, t₁, hfirst, hlast⟩
  cases hlast
  rw [hfirst] at hanswer
  exact hanswer.2 a rfl

/-!
## Left behind
-/

structure Laggard (leaf : Bytes) (t : TwoMlsPqSession M) : Prop where
  shows : Durable (fun c => sendPqLeaf c = some leaf) t
  approved : Durable Approved t

theorem sendPqLeaf_stable (leaf : Bytes) :
    Stable fun c : Core M => sendPqLeaf c = some leaf :=
  fun _ _ hq hc => (sendPqLeaf_halfQuiet (hq.1 _)).trans hc

theorem Laggard.live (L : Lawful M) {leaf : Bytes} {t : TwoMlsPqSession M}
    {a : LifeAction M} (h : Laggard leaf t) (ha : ¬ a.AnswersRekey) :
    Laggard leaf (t.live a) := by
  refine { shows := ?_, approved := approved_live L h.approved }
  have hrestored : forall c r : Core M, Restored c r -> sendPqLeaf c = some leaf ->
      sendPqLeaf r = some leaf :=
    fun c r hr hc => (sendPqLeaf_halfQuiet (hr.1 _)).trans hc
  cases a with
  | reopen => exact h.shows.reopened L (sendPqLeaf_stable leaf) hrestored
  | host a =>
      cases a with
      | restart =>
          refine h.shows.restarted L (fun c hc => ?_) hrestored
          cases hc with
          | checkpoint h => exact h
          | spliced h h' => exact h'
      | call call =>
          have hadvances := call_advances L call t h.approved.now
          refine h.shows.advance hadvances fun e c c' he hstep hc => ?_
          by_cases hcall : call.AnswersPq
          · cases call with
            | pqRekeyRespond frame seed => exact absurd True.intro ha
            | pqBootstrapRespond frame rnd =>
                have hspares : ¬ e.MovesSendPqLeaf := by
                  intro hmoves
                  cases hstep with
                  | createSendPq missing created =>
                      rw [sendPqLeaf, missing] at hc
                      cases hc
                  | quiet hq => exact hmoves
                  | authMeta same => exact hmoves
                  | openRound opened => exact hmoves
                  | _ => exact he
                exact (sendPqLeaf_step hstep hspares).trans hc
            | _ => exact hcall.elim
          · exact (sendPqLeaf_step hstep (Call.events_spare hcall he)).trans hc

/-- Until the next rotation settles, our send leaf follows the current client
exactly when it did not lag before or we answer an A.5 round of the peer: an answered
round clears the lag for good, a leaf that does not lag does not come to lag, and one
that lags goes on to, our own A.5 rounds included, for as long as we do not answer.
The session may restart from anything pushed by the action it starts with and after. -/
theorem send_leaf_follows_answered_rekey (L : Lawful M) (H : HandsOver M)
    {s : SessionInner M} (born : Born s) {t : TwoMlsPqSession M}
    (run : Run TwoMlsPqSession.live (fun _ _ => True) (TwoMlsPqSession.fresh s) t) :
    (forall frame seed frames t' t'',
      (Call.pqRekeyRespond frame seed).run.run t = (.ok frames, t') ->
        Run TwoMlsPqSession.live (Unrotated t'.inner.client.clientId) (t'.since t) t'' ->
          sendPqLeafLags t''.inner = false) ∧
      (forall a t'',
        sendPqLeafLags (t.live a).inner = false ->
          Run TwoMlsPqSession.live (Unrotated (t.live a).inner.client.clientId)
              ((t.live a).since t) t'' ->
            sendPqLeafLags t''.inner = false) ∧
      forall a t'',
        sendPqLeafLags (t.live a).inner = true ->
          Run TwoMlsPqSession.live
              (fun u b => Unrotated (t.live a).inner.client.clientId u b ∧
                ¬ b.AnswersRekey)
              ((t.live a).since t) t'' ->
            sendPqLeafLags t''.inner = true := by
  have happroved : forall a, Durable Approved (t.live a) := fun a =>
    (run.step (a := a) True.intro).invariant (I := Durable Approved)
      (fun _ _ h _ => approved_live L h)
      (Durable.fresh (approved_unused (born.unused L)))
  have hcaught : forall a t'',
      Presents (t.live a).inner.client.clientId (t.live a).inner.core ->
        Run TwoMlsPqSession.live (Unrotated (t.live a).inner.client.clientId)
            ((t.live a).since t) t'' ->
          sendPqLeafLags t''.inner = false := by
    intro a t'' hpresents hlater
    exact (hlater.invariant (I := CaughtUp (t.live a).inner.client.clientId)
      (fun _ _ h ha => h.live L ha)
      (CaughtUp.since L (happroved a) hpresents)).not_lags
  refine ⟨?_, fun a t'' hclear => hcaught a t'' (presents_of_not_lags hclear), ?_⟩
  · intro frame seed frames t' t'' hanswered hlater
    have hpresents := presentsClient_answered L H hanswered
    have hlive : t.live (.host (.call (.pqRekeyRespond frame seed))) = t' :=
      congrArg Prod.snd hanswered
    rw [← hlive] at hpresents hlater
    exact hcaught _ t'' hpresents hlater
  · intro a t'' hlags hlater
    rcases (sendPqLeafLags_iff _).mp hlags with ⟨leaf, hleaf, hne⟩
    have hstart : Laggard leaf ((t.live a).since t) :=
      { shows := Durable.since L (sendPqLeaf_stable leaf) hleaf
        approved := Durable.since L Approved.stable (happroved a).now }
    have hend := hlater.invariant
      (I := fun u => Laggard leaf u ∧
        u.inner.client.clientId = (t.live a).inner.client.clientId)
      (fun _ _ h ha => ⟨h.1.live L ha.2, ha.1⟩) ⟨hstart, rfl⟩
    rw [sendPqLeafLags_iff]
    refine ⟨leaf, hend.1.shows.now, ?_⟩
    rw [hend.2]
    exact hne

/-- In a run, a side opened an A.4 or A.5 round on its own turn and has passed
the turn on, which it does when it discharges the round's bind. -/
def World.CompletesOwnRound (side : Side) (admits : World M -> Action M -> Prop)
    (w w' : World M) : Prop :=
  exists opened closed,
    Run World.act admits w opened ∧ Run World.act admits opened closed ∧
      Run World.act admits closed w' ∧
      (opened.core side).turn = true ∧
      ((opened.core side).inflight = some .rekeyInitiated ∨
        exists eph, (opened.core side).inflight = some (.initiating eph)) ∧
      (closed.core side).turn = false ∧ (closed.core side).inflight = none ∧
      (closed.core side).owed = none

def World.clientId (w : World M) (side : Side) : Bytes :=
  (w.core side).client.clientId

def World.CallsUnrotated (ids : Side -> Bytes) (w : World M) (a : Action M) : Prop :=
  w.Calls a ∧ forall side, (w.act a).clientId side = ids side

end

/-!
## A one-sided rotation
-/

namespace ReferencePair

def laggardOffered : World Reference.mls :=
  world.play
    (bootstrap ++
      [.call .left (.prepareToEncrypt (some [0xA1]) (rnd 5000)),
        .call .left (.encrypt [1] (rnd 5050)),
        receive .right 3])

def laggardDigest : Bytes :=
  (((laggardOffered.session .right).inner.msg.offeredProposal).map
    PeerProposal.digest).getD []

def laggard : World Reference.mls :=
  laggardOffered.play
    ([.call .right (.queueProposal laggardDigest)] ++ send .right 5100 ++
      [receive .left 2])

def openRekey : List (Move Reference.mls) :=
  [.call .right (.pqPendingOutbound true),
    .deliver .left 3 fun f => .pqRatchetRespond f (rnd 5200),
    .call .left (.pqPendingOutbound true),
    .deliver .right 4 fun f => .pqRatchetBind f (5300 : Nat)] ++
    send .left 5400 ++ [receive .right 5] ++
    send .right 5500 ++ [receive .left 4] ++
    send .left 5600

def askRekey : List (Move Reference.mls) :=
  [receive .right 6, .call .left (.pqPendingOutbound true)]

def closeRekey : List (Move Reference.mls) :=
  [.deliver .right 7 fun f => .pqRekeyRespond f (5700 : Nat),
    .call .right (.pqPendingOutbound true),
    .deliver .left 5 fun f => .pqRekeyApply f (5800 : Nat)] ++
    send .right 5900 ++ [receive .left 6] ++
    send .left 6000 ++ [receive .right 8]

def openRatchet : List (Move Reference.mls) :=
  send .right 6100

def closeRatchet : List (Move Reference.mls) :=
  [receive .left 7,
    .call .right (.pqPendingOutbound true),
    .deliver .left 8 fun f => .pqRatchetRespond f (rnd 6200),
    .call .left (.pqPendingOutbound true),
    .deliver .right 9 fun f => .pqRatchetBind f (6300 : Nat)] ++
    send .left 6400 ++ [receive .right 10] ++
    send .right 6500 ++ [receive .left 9]

def rekeyOpened : World Reference.mls := laggard.play openRekey
def rekeyAsked : World Reference.mls := rekeyOpened.play askRekey
def rekeyClosed : World Reference.mls := rekeyAsked.play closeRekey
def ratchetOpened : World Reference.mls := rekeyClosed.play openRatchet
def ratchetClosed : World Reference.mls := ratchetOpened.play closeRatchet

theorem laggardOffered_calls : Run World.act World.Calls world laggardOffered := by
  apply World.run_calls
  simp [bootstrap, bootstrapBind, greeting, send, receive, Move.Fair,
      Move.isRestore, Call.delivered]

theorem laggard_calls : Run World.act World.Calls world laggard := by
  apply laggardOffered_calls.trans
  apply World.run_calls
  simp [send, receive, Move.Fair, Move.isRestore, Call.delivered]

def steady (w : World Reference.mls) : Bool :=
  w.clientId .left == laggard.clientId .left &&
    w.clientId .right == laggard.clientId .right

theorem steady_calls {w w' : World Reference.mls}
    (run : Run World.act (fun w a => w.Calls a ∧ steady (w.act a) = true) w w') :
    Run World.act (World.CallsUnrotated laggard.clientId) w w' := by
  apply run.mono
  intro w a h
  have hsteady := h.2
  unfold steady at hsteady
  rw [Bool.and_eq_true, beq_iff_eq, beq_iff_eq] at hsteady
  constructor
  · exact h.1
  · intro side
    cases side with
    | left => exact hsteady.1
    | right => exact hsteady.2

def initiating : Option PqInflight -> Bool
  | some (.initiating _) => true
  | _ => false

theorem exists_of_initiating {i : Option PqInflight} (h : initiating i = true) :
    exists eph, i = some (.initiating eph) := by
  unfold initiating at h
  split at h
  next eph => exact ⟨eph, rfl⟩
  next => cases h

def rekeyAskedSession : TwoMlsPqSession Reference.mls :=
  rekeyAsked.session .right

def rekeyUpdate : Frame Reference.mls :=
  ((rekeyAsked.sent .left)[7]?).getD .unknown

def rekeyAnswer :
    Result (List (Frame Reference.mls)) × TwoMlsPqSession Reference.mls :=
  (Call.pqRekeyRespond rekeyUpdate (5700 : Nat)).run.run rekeyAskedSession

theorem rounds_states :
    laggard.holdsAlong steady
        (openRekey ++ (askRekey ++ (closeRekey ++ (openRatchet ++ closeRatchet)))) =
      true ∧
    (((rekeyOpened.core .left).turn = true ∧
      (rekeyOpened.core .left).inflight = some .rekeyInitiated ∧
      (rekeyClosed.core .left).turn = false ∧
      (rekeyClosed.core .left).inflight = none ∧
      (rekeyClosed.core .left).owed.isNone = true) ∧
    ((ratchetOpened.core .right).turn = true ∧
      initiating (ratchetOpened.core .right).inflight = true ∧
      (ratchetClosed.core .right).turn = false ∧
      (ratchetClosed.core .right).inflight = none ∧
      (ratchetClosed.core .right).owed.isNone = true) ∧
    sendPqLeafLags (ratchetClosed.session .left).inner = true) ∧
    rekeyAnswer.1.toOption.isSome = true := by
  decide +kernel

theorem each_steady :
    laggard.holdsAlong steady openRekey = true ∧
      rekeyOpened.holdsAlong steady askRekey = true ∧
      rekeyAsked.holdsAlong steady closeRekey = true ∧
      rekeyClosed.holdsAlong steady openRatchet = true ∧
      ratchetOpened.holdsAlong steady closeRatchet = true := by
  have hsteady := rounds_states.1
  rw [World.holdsAlong_append, World.holdsAlong_append, World.holdsAlong_append,
    World.holdsAlong_append] at hsteady
  repeat rw [Bool.and_eq_true] at hsteady
  exact hsteady

theorem rekeyOpened_run :
    Run World.act (World.CallsUnrotated laggard.clientId) laggard rekeyOpened := by
  apply steady_calls
  apply World.run_calls_along
  · simp [openRekey, send, receive, Move.Fair, Move.isRestore, Call.delivered]
  · exact each_steady.1

theorem rekeyAsked_run :
    Run World.act (World.CallsUnrotated laggard.clientId) rekeyOpened rekeyAsked := by
  apply steady_calls
  apply World.run_calls_along
  · simp [askRekey, receive, Move.Fair, Move.isRestore, Call.delivered]
  · exact each_steady.2.1

theorem rekeyClosed_run :
    Run World.act (World.CallsUnrotated laggard.clientId) rekeyAsked rekeyClosed := by
  apply steady_calls
  apply World.run_calls_along
  · simp [closeRekey, send, receive, Move.Fair, Move.isRestore, Call.delivered]
  · exact each_steady.2.2.1

theorem ratchetOpened_run :
    Run World.act (World.CallsUnrotated laggard.clientId) rekeyClosed
      ratchetOpened := by
  apply steady_calls
  apply World.run_calls_along
  · simp [openRatchet, send, Move.Fair, Move.isRestore, Call.delivered]
  · exact each_steady.2.2.2.1

theorem ratchetClosed_run :
    Run World.act (World.CallsUnrotated laggard.clientId) ratchetOpened
      ratchetClosed := by
  apply steady_calls
  apply World.run_calls_along
  · simp [closeRatchet, send, receive, Move.Fair, Move.isRestore, Call.delivered]
  · exact each_steady.2.2.2.2

theorem left_completes :
    World.CompletesOwnRound .left (World.CallsUnrotated laggard.clientId) laggard
      ratchetClosed := by
  exact ⟨rekeyOpened, rekeyClosed, rekeyOpened_run,
    rekeyAsked_run.trans rekeyClosed_run, ratchetOpened_run.trans ratchetClosed_run,
    rounds_states.2.1.1.1, Or.inl rounds_states.2.1.1.2.1, rounds_states.2.1.1.2.2.1,
    rounds_states.2.1.1.2.2.2.1,
    Option.isNone_iff_eq_none.mp rounds_states.2.1.1.2.2.2.2⟩

theorem right_completes :
    World.CompletesOwnRound .right (World.CallsUnrotated laggard.clientId) laggard
      ratchetClosed := by
  have hopened := rekeyOpened_run.trans
    (rekeyAsked_run.trans (rekeyClosed_run.trans ratchetOpened_run))
  exact ⟨ratchetOpened, ratchetClosed, hopened, ratchetClosed_run, Run.refl,
    rounds_states.2.1.2.1.1, Or.inr (exists_of_initiating rounds_states.2.1.2.1.2.1),
    rounds_states.2.1.2.1.2.2.1, rounds_states.2.1.2.1.2.2.2.1,
    Option.isNone_iff_eq_none.mp rounds_states.2.1.2.1.2.2.2.2⟩

theorem answer_of_isSome {α σ : Type} {answer : Result α × σ}
    (h : answer.1.toOption.isSome = true) :
    answer = (.ok (answer.1.toOption.get h), answer.2) :=
  Prod.ext (eq_ok_of_isSome h) rfl

set_option maxRecDepth 4000 in
theorem rekeyAsked_lived :
    Run TwoMlsPqSession.live (fun _ _ => True) (TwoMlsPqSession.fresh acceptor)
      rekeyAskedSession := by
  have hworld : Run World.act (fun _ _ => True) world rekeyAsked := by
    apply (laggard_calls.mono fun _ _ _ => True.intro).trans
    apply (rekeyOpened_run.mono fun _ _ _ => True.intro).trans
    exact rekeyAsked_run.mono fun _ _ _ => True.intro
  exact World.run_live .right hworld

end ReferencePair

/-- The acceptor answers the initiator's A.5 round. -/
theorem answered_rekey_clears_lag :
    ReferencePair.rekeyAnswer.1.toOption.isSome = true ∧
      sendPqLeafLags ReferencePair.rekeyAnswer.2.inner = false := by
  have hanswered := ReferencePair.answer_of_isSome ReferencePair.rounds_states.2.2
  unfold ReferencePair.rekeyAnswer at hanswered
  have hclear := (send_leaf_follows_answered_rekey Reference.lawful Reference.handsOver
    ReferencePair.acceptor_born ReferencePair.rekeyAsked_lived).1 _ _ _ _ _ hanswered
    Run.refl
  rw [TwoMlsPqSession.inner_since] at hclear
  constructor
  · exact ReferencePair.rounds_states.2.2
  · unfold ReferencePair.rekeyAnswer
    exact hclear

/-- Only the initiator has rotated.  Each side opens and completes a round of its
own afterwards, the initiator an A.5 round, and the initiator's send leaf still
presents the old credential. -/
theorem own_rekey_leaves_lag :
    ¬ forall (left right : SessionInner Reference.mls) (w w' : World Reference.mls),
      Established left right ->
        Run World.act World.Calls (World.initial left right) w ->
        Run World.act (World.CallsUnrotated w.clientId) w w' ->
        (forall side,
          World.CompletesOwnRound side (World.CallsUnrotated w.clientId) w w') ->
          forall side, sendPqLeafLags (w'.session side).inner = false := by
  intro hall
  have hleft := hall _ _ ReferencePair.laggard ReferencePair.ratchetClosed
    ReferencePair.established ReferencePair.laggard_calls
    (ReferencePair.rekeyOpened_run.trans (ReferencePair.rekeyAsked_run.trans
      (ReferencePair.rekeyClosed_run.trans (ReferencePair.ratchetOpened_run.trans
        ReferencePair.ratchetClosed_run))))
    (fun side => by
      cases side with
      | left => exact ReferencePair.left_completes
      | right => exact ReferencePair.right_completes)
    .left
  rw [ReferencePair.rounds_states.2.1.2.2] at hleft
  cases hleft

end Session
end TwoMlsPq
