import TwoMlsPq.Foundation.Token
import TwoMlsPq.Session.Custody
import TwoMlsPq.Session.Holding
import TwoMlsPq.Session.Stapling

/-!
# The turn between two sessions

The turn is a token.  A side lays it down in the very commit that carries its bind,
and takes it up by applying a bind of the peer at the epoch it has reached.  Frames
may be lost, repeated or reordered, and a bind that failed in its apply takes the turn
with it: the two sessions never hold it both, and never open a round both.
-/

namespace TwoMlsPq
namespace Session

open Foundation Apq

section

variable {M : MlsRs} {α : Type}

/-!
## The binds a side has posted
-/

def Staple.bindMessage : Staple M -> Option M.Message
  | .bind tMessage _ => tMessage.parsed
  | _ => none

theorem Staple.bindMessage_some {st : Staple M} {m : M.Message}
    (h : st.bindMessage = some m) :
    exists t pq, st = .bind t pq ∧ t.parsed = some m := by
  cases st with
  | bind t pq => exact ⟨t, pq, rfl, h⟩
  | _ => cases h

theorem Staple.tMessage_of_bind {st : Staple M} {m : M.Message}
    (h : st.bindMessage = some m) : st.tMessage = some m := by
  rcases Staple.bindMessage_some h with ⟨t, pq, rfl, hparsed⟩
  exact hparsed

/-- A bind of epoch `n` is stapled, or was sent. -/
def PostsBind (c : Core M) (sent : List (Frame M)) (n : Nat) : Prop :=
  exists st m,
    (c.staple = some st ∨
      exists proposal app, Frame.message st proposal app ∈ sent) ∧
    st.bindMessage = some m ∧ M.messageEpoch m = some n

def World.passing (w : World M) : Passing Side where
  holds := fun side => (w.core side).turn
  reached := fun side => reached (w.core side)
  posted := fun side n => PostsBind (w.core side) (w.sent side) n

/-!
## What a call can do to the turn and the staple

Only a frame gives the turn, and only a send staples a bind.
-/

def Event.Turnless : Event M -> Prop
  | .setTurn b => b = false
  | _ => True

def Event.Bindless : Event M -> Prop
  | .setStaple st => st.bindMessage = none
  | _ => True

theorem turn_step {e : Event M} {c c' : Core M} (he : e.Turnless) (hstep : Step e c c')
    (hturn : c'.turn = true) : c.turn = true := by
  cases hstep with
  | quiet hq =>
      rw [hq.2] at hturn
      exact hturn
  | setTurn =>
      cases he
      cases hturn
  | _ => exact hturn

theorem turn_path {A : Event M -> Prop} {c c' : Core M}
    (hA : forall e, A e -> e.Turnless) (hpath : Path A c c') (hturn : c'.turn = true) :
    c.turn = true :=
  hpath.invariant (I := fun c' => c'.turn = true -> c.turn = true)
    (fun e _ _ he hstep hI hturn => hI (turn_step (hA e he) hstep hturn)) id hturn

def BindFrom (c c' : Core M) : Prop :=
  forall st, c'.staple = some st -> st.bindMessage ≠ none -> c.staple = some st

theorem bindFrom_step {e : Event M} {c₀ c c' : Core M} (he : e.Bindless)
    (hstep : Step e c c') (hc : BindFrom c₀ c) : BindFrom c₀ c' := by
  cases hstep with
  | quiet hq =>
      unfold BindFrom
      rw [hq.2]
      exact hc
  | setStaple fresh =>
      intro st hst hbind
      cases hst
      exact absurd he hbind
  | envelopStaple bare =>
      intro st hst hbind
      cases hst
      exact absurd rfl hbind
  | _ => exact hc

theorem bindFrom_path {A : Event M -> Prop} {c c' : Core M}
    (hA : forall e, A e -> e.Bindless) (hpath : Path A c c') : BindFrom c c' :=
  hpath.invariant (fun e _ _ he hstep hI => bindFrom_step (hA e he) hstep hI)
    fun _ hst _ => hst

def Call.TakesFrame : Call M -> Prop
  | .processIncoming _ _ => True
  | _ => False

def Call.Staples : Call M -> Prop
  | .prepareToEncrypt _ _ => True
  | _ => False

theorem events_turnless {call : Call M} {c : Core M} {e : Event M}
    (hother : ¬ call.TakesFrame) (he : call.events c e) : e.Turnless := by
  cases e with
  | setTurn b =>
      cases call with
      | prepareToEncrypt proposing rnd => exact he
      | processIncoming frame approval => exact (hother True.intro).elim
      | _ => exact he.elim
  | _ => exact True.intro

theorem events_bindless {call : Call M} {c : Core M} {e : Event M}
    (hother : ¬ call.Staples) (he : call.events c e) : e.Bindless := by
  cases e with
  | setStaple st =>
      cases call with
      | prepareToEncrypt proposing rnd => exact (hother True.intro).elim
      | installEstablishmentEnvelope envelope =>
          rcases he with ⟨_, _, rfl⟩
          rfl
      | _ => exact he.elim
  | _ => exact True.intro

/-!
## Taking the turn
-/

/-- The turn stands as it stood, or the bind `m`, made for the epoch that was reached,
has moved the session past that epoch. -/
def Gains (s₀ : SessionInner M) (bind : Option M.Message) (s : SessionInner M) : Prop :=
  s.round.pqTurnMine = s₀.round.pqTurnMine ∨
    exists m, bind = some m ∧ M.messageEpoch m = some (reached s₀.core) ∧
      reached s₀.core < reached s.core

theorem Gains.later {s₀ s s' : SessionInner M} {bind : Option M.Message}
    (h : Gains s₀ bind s) (hturn : s'.round.pqTurnMine = s.round.pqTurnMine)
    (hlater : reached s.core <= reached s'.core) : Gains s₀ bind s' := by
  rcases h with hsame | ⟨m, hbind, hepoch, hlt⟩
  · exact Or.inl (hturn.trans hsame)
  · exact Or.inr ⟨m, hbind, hepoch, Nat.lt_of_lt_of_le hlt hlater⟩

theorem reached_of_later {s s' : SessionInner M}
    (h : Later (s.epoch .recvClassical) (s'.epoch .recvClassical)) :
    reached s.core <= reached s'.core := by
  change (s.epoch .recvClassical).getD 0 <= (s'.epoch .recvClassical).getD 0
  cases hbefore : s.epoch .recvClassical with
  | none => exact Nat.zero_le _
  | some e =>
      rw [hbefore] at h
      rcases h.started with ⟨e', hafter, hle⟩
      rw [hafter]
      exact hle

theorem stapleEpochAction_apply {s : SessionInner M} {m : M.Message}
    (h : stapleEpochAction s m = .ok .apply) :
    exists e, M.messageEpoch m = some e ∧ s.epoch .recvClassical = some e := by
  unfold stapleEpochAction at h
  split at h
  · cases h
  next e hepoch =>
    split at h
    · cases h
    next current hcurrent =>
      split at h
      · cases h
      · split at h
        next hsame =>
          rw [hsame] at hepoch
          exact ⟨current, hepoch, hcurrent⟩
        next => cases h

theorem reached_epoch {s : SessionInner M} {e : Nat}
    (h : s.epoch .recvClassical = some e) : reached s.core = e := by
  change (s.epoch .recvClassical).getD 0 = e
  rw [h]
  rfl

/-!
### Operations that leave the turn alone
-/

def SessionInner.turn (_ : Unit) (s : SessionInner M) : Bool :=
  s.round.pqTurnMine

def Unturned (x : SessionOp M α) : Prop :=
  Op.Writes SessionInner.turn [] x

namespace Unturned

theorem firm {x : SessionOp M α} (hx : Firm x) : Unturned x :=
  fun s _ _ => congrArg Grip.turn (hx s () List.not_mem_nil)

theorem ofTouches {W : List Slot} {x : SessionOp M α} (hx : Touches W x)
    (hround : .round ∉ W) : Unturned x := by
  intro s slot _
  have hkept : (x.run s).2.round = s.round := hx s .round hround
  unfold SessionInner.turn
  rw [hkept]

theorem mapRound {f : SessionInner M -> RoundState M -> RoundState M}
    (hturn : forall s r, (f s r).pqTurnMine = r.pqTurnMine) :
    Unturned (Op.update fun s : SessionInner M => s.mapRound (f s)) :=
  Op.Writes.update fun s _ _ => hturn s s.round

end Unturned

theorem keeps_gains {x : SessionOp M α} (hx : Unturned x) (hclocks : Tidy x)
    (s₀ : SessionInner M) (bind : Option M.Message) : Op.Keeps (Gains s₀ bind) x := by
  intro s hs
  apply hs.later
  · exact hx s () List.not_mem_nil
  · exact reached_of_later ((hclocks s).later .recvClassical)

theorem unturned_takeResponderSecret :
    Unturned (takeResponderSecret : SessionOp M Bytes) := by
  have hclear : Unturned (Op.update clearInflight : SessionOp M Unit) :=
    Unturned.mapRound fun _ _ => rfl
  have hreExport : Unturned (takeResponderSecret.reExport : SessionOp M Bytes) := by
    unfold takeResponderSecret.reExport exportCrossFromSendPq
    apply Op.Writes.bind
    · apply Op.Writes.looking (still_readHalf _ _)
      intro g
      apply Op.Writes.bind (Unturned.firm (Firm.onHalf _ _ _))
      intro exported
      refine Op.Writes.bind (Unturned.mapRound fun _ _ => rfl) fun _ => ?_
      exact Op.Writes.value _
    · intro exported
      apply Op.Writes.bind hclear
      intro _
      exact Op.Writes.value _
  unfold takeResponderSecret
  apply Op.Writes.looking Op.Still.state
  intro s
  split
  · apply Op.Writes.bind hclear
    intro _
    exact Op.Writes.value _
  · exact hreExport
  · exact hreExport
  · exact Op.Writes.fail _

theorem unturned_joinReporting (welcome : WelcomeBytes M)
    (establishment : WelcomeEstablishment) :
    Unturned (joinReporting welcome establishment) :=
  Unturned.ofTouches (touches_joinReporting welcome establishment) (by decide)

theorem unturned_processWelcome (welcome : WelcomeBytes M)
    (establishment : WelcomeEstablishment) :
    Unturned (processWelcome welcome establishment) :=
  Unturned.ofTouches (touches_processWelcome welcome establishment) (by decide)

theorem unturned_processStaple {staple : Staple M}
    (hbind : forall t pq, staple ≠ .bind t pq)
    (approval : Option EstablishmentApproval) :
    Unturned (processStaple staple approval) := by
  unfold processStaple
  apply Op.Writes.looking Op.Still.state
  intro s
  cases staple with
  | badHandoff => exact Op.Writes.fail _
  | badBind => exact Op.Writes.fail _
  | bind t pq => exact absurd rfl (hbind t pq)
  | handoff envelope welcome =>
      apply Op.Writes.ite
      · split
        · exact Op.Writes.value _
        · apply Op.Writes.bind (unturned_joinReporting _ _)
          intro outcome
          exact Op.Writes.value _
      · apply Op.Writes.bind (unturned_processWelcome _ _)
        intro _
        exact Op.Writes.value _
  | welcome welcome =>
      apply Op.Writes.bind (unturned_joinReporting _ _)
      intro outcome
      exact Op.Writes.value _
  | commit message =>
      apply Op.Writes.bind
      · unfold applyIfCurrent
        apply Op.Writes.looking (Op.Still.ofOption _ _)
        intro m
        apply Op.Writes.looking Op.Still.state
        intro s'
        apply Op.Writes.looking (Op.Still.ofExcept _)
        intro action
        cases action with
        | skip => exact Op.Writes.value _
        | apply =>
            apply Op.Writes.bind (Unturned.ofTouches (touches_applyCommitStaple m)
              (by decide))
            intro moved
            exact Op.Writes.value _
      · intro outcome
        exact Op.Writes.value _

def Frame.bindMessage : Frame M -> Option M.Message
  | .message staple _ _ => staple.bindMessage
  | _ => none

section

variable (L : Lawful M)
include L

theorem gains_applyBindStaple {s₀ : SessionInner M} {m : M.Message} {e : Nat}
    (hmade : M.messageEpoch m = some e) (hnow : s₀.epoch .recvClassical = some e)
    (tMessage pqMessage : Blob M) :
    Op.Triple (fun s => s = s₀) (applyBindStaple tMessage pqMessage)
      (fun _ => Gains s₀ (some m)) fun _ => Gains s₀ (some m) := by
  have hstands : forall {γ : Type} {x : SessionOp M γ}, Unturned x ->
      Op.Triple (fun s : SessionInner M => s.round.pqTurnMine = s₀.round.pqTurnMine) x
        (fun _ s => s.round.pqTurnMine = s₀.round.pqTurnMine)
        fun _ s => s.round.pqTurnMine = s₀.round.pqTurnMine := by
    intro γ x hx
    apply Op.Triple.ofKeeps
    intro s hs
    exact (hx s () List.not_mem_nil).trans hs
  -- the failing exit, where the turn has not been given yet
  have hfails : Op.Triple (fun s : SessionInner M => s = s₀)
      (applyBindStaple tMessage pqMessage) (fun _ _ => True)
      fun _ s => s.round.pqTurnMine = s₀.round.pqTurnMine := by
    apply Op.Triple.pre (P := fun s => s.round.pqTurnMine = s₀.round.pqTurnMine)
    · unfold applyBindStaple
      apply Op.Triple.bind (hstands unturned_takeResponderSecret)
      intro secret
      apply Op.Triple.bind (hstands (Unturned.ofTouches
        touches_rememberRecvAttachmentComponent (by decide)))
      intro _
      apply Op.Triple.bind (hstands (Unturned.ofTouches
        (touches_applyBind _ _ _) (by decide))).attempt
      intro applied
      cases applied with
      | error e' =>
          apply Op.Triple.bind (Q := fun _ s =>
            s.round.pqTurnMine = s₀.round.pqTurnMine)
          · exact Op.Triple.update fun _ hs => hs
          · intro _
            exact Op.Triple.fail fun _ hs => hs
      | ok moved =>
          apply Op.Triple.bind (Q := fun _ _ => True)
          · exact Op.Triple.update fun _ _ => True.intro
          · intro _
            exact Op.Triple.value fun _ _ => True.intro
    · intro s hs
      rw [hs]
  intro s hs
  have hadvanced := advances_applyBindStaple L tMessage pqMessage e s (by
    rw [hs]
    exact hnow)
  have hfailed := hfails s hs
  cases hrun : ((applyBindStaple tMessage pqMessage).run s).1 with
  | error e' =>
      rw [hrun] at hfailed
      exact Or.inl hfailed
  | ok moved =>
      rw [hrun] at hadvanced
      have hbefore : reached s₀.core = e := reached_epoch hnow
      refine Or.inr ⟨m, rfl, ?_, ?_⟩
      · rw [hbefore]
        exact hmade
      · rw [hbefore, reached_epoch hadvanced]
        exact Nat.lt_succ_self e

theorem gains_processStaple (s₀ : SessionInner M) (staple : Staple M)
    (approval : Option EstablishmentApproval) :
    Op.Triple (fun s => s = s₀) (processStaple staple approval)
      (fun _ => Gains s₀ staple.bindMessage) fun _ => Gains s₀ staple.bindMessage := by
  have hstarts : forall bind s, s = s₀ -> Gains s₀ bind s := by
    intro bind s hs
    rw [hs]
    exact Or.inl rfl
  have hrest : (forall t pq, staple ≠ .bind t pq) ->
      Op.Triple (fun s => s = s₀) (processStaple staple approval)
        (fun _ => Gains s₀ staple.bindMessage) fun _ => Gains s₀ staple.bindMessage :=
    fun hbind => (Op.Triple.ofKeeps (keeps_gains (unturned_processStaple hbind approval)
      (tidy_processStaple L staple approval) s₀ _)).pre (hstarts _)
  cases staple with
  | bind tMessage pqMessage =>
      change Op.Triple _ _ (fun _ => Gains s₀ tMessage.parsed)
        fun _ => Gains s₀ tMessage.parsed
      unfold processStaple
      apply Op.Triple.reading
      intro s hs
      rw [hs]
      apply Op.Triple.bind (Q := fun _ => Gains s₀ tMessage.parsed)
      · unfold applyIfCurrent
        cases hparsed : tMessage.parsed with
        | none => exact Op.Triple.failing (hstarts _)
        | some m =>
            apply Op.Triple.present
            apply Op.Triple.reading
            intro s' hs'
            rw [hs']
            cases haction : stapleEpochAction s₀ m with
            | error e => exact Op.Triple.failing (hstarts _)
            | ok action =>
                apply Op.Triple.given
                cases action with
                | skip => exact Op.Triple.value (hstarts _)
                | apply =>
                    rcases stapleEpochAction_apply haction with ⟨e, hmade, hnow⟩
                    apply Op.Triple.bind (gains_applyBindStaple L hmade hnow _ _)
                    intro moved
                    exact Op.Triple.value fun _ hs => hs
      · intro outcome
        exact Op.Triple.value fun _ hs => hs
  | _ => exact hrest fun _ _ h => nomatch h

theorem gains_processIncomingInner (s₀ : SessionInner M) (frame : Frame M)
    (approval : Option EstablishmentApproval) :
    Op.Triple (fun s => s = s₀) (processIncomingInner frame approval)
      (fun _ => Gains s₀ frame.bindMessage) fun _ => Gains s₀ frame.bindMessage := by
  have hstarts : forall bind s, s = s₀ -> Gains s₀ bind s := by
    intro bind s hs
    rw [hs]
    exact Or.inl rfl
  have hstill : forall {γ : Type} {x : SessionOp M γ} {bind : Option M.Message},
      Unturned x -> Tidy x ->
        Op.Triple (fun s => s = s₀) x (fun _ => Gains s₀ bind) fun _ => Gains s₀ bind :=
    fun hx hclocks => (Op.Triple.ofKeeps (keeps_gains hx hclocks s₀ _)).pre (hstarts _)
  have hstandalone : forall (welcome : WelcomeBytes M)
      (establishment : WelcomeEstablishment),
      Unturned (joinStandalone welcome establishment) := by
    intro welcome establishment
    unfold joinStandalone
    apply Op.Writes.bind (unturned_joinReporting _ _)
    intro outcome
    apply Op.Writes.looking Op.Still.state
    intro s
    split
    · exact Op.Writes.value _
    · exact Op.Writes.value _
  unfold processIncomingInner
  apply Op.Triple.reading
  intro s hs
  rw [hs]
  apply Op.Triple.looking (Op.Still.ensure _ _) fun _ => hstarts _
  intro _
  cases frame with
  | badHandoff => exact Op.Triple.fail (hstarts _)
  | badMessage => exact Op.Triple.fail (hstarts _)
  | sideBand leg => exact Op.Triple.fail (hstarts _)
  | unknown => exact Op.Triple.fail (hstarts _)
  | welcome w => exact hstill (hstandalone _ _) (tidy_joinStandalone L _ _)
  | handoff envelope w =>
      apply Op.Triple.ite
      · intro _
        apply Op.Triple.bind (hstill (unturned_processWelcome _ _)
          (tidy_processWelcome L _ _))
        intro _
        exact Op.Triple.value fun _ hs => hs
      · intro _
        split
        · exact Op.Triple.value (hstarts _)
        · exact hstill (hstandalone _ _) (tidy_joinStandalone L _ _)
  | preEstablishment app =>
      apply Op.Triple.looking (Op.Still.ofOption _ _) fun _ => hstarts _
      intro appMessage
      apply Op.Triple.bind (hstill (Unturned.ofTouches (touches_decryptApp appMessage)
        (by decide)) (tidy_decryptApp L appMessage))
      intro received
      exact Op.Triple.value fun _ hs => hs
  | message staple proposal app =>
      change Op.Triple _ (processMessage staple proposal app approval)
        (fun _ => Gains s₀ staple.bindMessage) fun _ => Gains s₀ staple.bindMessage
      unfold processMessage
      apply Op.Triple.looking (Op.Still.ofOption _ _) fun _ => hstarts _
      intro appMessage
      apply Op.Triple.bind (gains_processStaple L s₀ staple approval)
      intro outcome
      split
      · exact Op.Triple.value fun _ hs => hs
      · exact Op.Triple.value fun _ hs => hs
      · apply Op.Triple.bind (Op.Triple.ofKeeps (keeps_gains (Unturned.ofTouches
          (touches_processMessageBody _ _ _) (by decide))
          (tidy_processMessageBody L _ _ _) s₀ _))
        intro result
        exact Op.Triple.value fun _ hs => hs

theorem gains_received (t : TwoMlsPqSession M) (frame : Frame M)
    (approval : Option EstablishmentApproval) :
    Gains t.inner frame.bindMessage
      ((Call.processIncoming frame approval).run.run t).2.inner := by
  have hinner := gains_processIncomingInner L t.inner frame approval t.inner rfl
  change Gains _ _ ((handing (processIncomingWith frame approval) _).run t).2.inner
  rw [handing_run]
  rcases run_processIncomingWith frame approval t with ⟨hfailed, hpaused, hpersisted⟩
  rcases hrun : (processIncomingInner frame approval).run t.inner with ⟨r, u⟩
  rw [hrun] at hinner
  cases r with
  | error e =>
      rw [hfailed e u hrun]
      exact hinner
  | ok d =>
      cases hd : isPaused d with
      | true =>
          rw [hpaused d u hrun hd]
          exact hinner
      | false =>
          rcases hpersisted d u hrun hd with ⟨kind, hpersist⟩
          rw [hpersist]
          exact persistAfter_keeps (I := Gains t.inner frame.bindMessage)
            (keeps_gains (Unturned.ofTouches (touches_encodeBlob kind) (by decide))
              (tidy_encodeBlob L kind) t.inner frame.bindMessage)
            (fun _ _ h => h) (t.withInner u) hinner

end

/-!
## Laying the turn down
-/

def Lays (s₀ s : SessionInner M) : Prop :=
  s.msg.currentStaple = s₀.msg.currentStaple ∨
    (forall st, s.msg.currentStaple = some st -> st.bindMessage = none) ∨
    s₀.round.pqTurnMine = true ∧ s.round.pqTurnMine = false

def Unlaid (s₀ s : SessionInner M) : Prop :=
  InTurn s ∧ s.msg.currentStaple = s₀.msg.currentStaple ∧
    s.round.pqTurnMine = s₀.round.pqTurnMine

theorem Unlaid.lays {s₀ s : SessionInner M} (h : Unlaid s₀ s) : Lays s₀ s :=
  Or.inl h.2.1

theorem keeps_unlaid {x : SessionOp M α} (hstaple : Unstapled x) (hgrip : Firm x)
    (s₀ : SessionInner M) : Op.Keeps (Unlaid s₀) x := by
  intro s hs
  have hsame : (x.run s).2.msg.currentStaple = s.msg.currentStaple :=
    congrArg Prod.fst (hstaple s () List.not_mem_nil)
  have hturn : (x.run s).2.round.pqTurnMine = s.round.pqTurnMine :=
    congrArg Grip.turn (hgrip s () List.not_mem_nil)
  exact ⟨hgrip.keeps (J := Grip.Disciplined) s hs.1, hsame.trans hs.2.1,
    hturn.trans hs.2.2⟩

theorem keeps_lays {x : SessionOp M α} (hstaple : Unstapled x) (hturn : Unturned x)
    (s₀ : SessionInner M) : Op.Keeps (Lays s₀) x := by
  intro s hs
  have hsame : (x.run s).2.msg.currentStaple = s.msg.currentStaple :=
    congrArg Prod.fst (hstaple s () List.not_mem_nil)
  have hkept : (x.run s).2.round.pqTurnMine = s.round.pqTurnMine :=
    hturn s () List.not_mem_nil
  unfold Lays
  rw [hsame, hkept]
  exact hs

def Laying (s₀ : SessionInner M) (owed : Option (DischargedBind M))
    (s : SessionInner M) : Prop :=
  s.msg.currentStaple = s₀.msg.currentStaple ∧
    (owed = none ∨ s₀.round.pqTurnMine = true ∧ s.round.pqTurnMine = false)

theorem keeps_laying {x : SessionOp M α} (hstaple : Unstapled x) (hturn : Unturned x)
    (s₀ : SessionInner M) (owed : Option (DischargedBind M)) :
    Op.Triple (Laying s₀ owed) x (fun _ => Laying s₀ owed) fun _ => Lays s₀ := by
  have hkept : Op.Keeps (Laying s₀ owed) x := by
    intro s hs
    have hsame : (x.run s).2.msg.currentStaple = s.msg.currentStaple :=
      congrArg Prod.fst (hstaple s () List.not_mem_nil)
    have hmine : (x.run s).2.round.pqTurnMine = s.round.pqTurnMine :=
      hturn s () List.not_mem_nil
    unfold Laying
    rw [hsame, hmine]
    exact hs
  exact (Op.Triple.ofKeeps hkept).weaken (fun _ _ h => h) fun _ _ h => Or.inl h.1

theorem laying_dischargeOwedBind (s₀ : SessionInner M) :
    Op.Triple (Unlaid s₀) (dischargeOwedBind : SessionOp M (Option (DischargedBind M)))
      (Laying s₀) fun _ => Lays s₀ := by
  have hstapled : forall {γ : Type} {x : SessionOp M γ}, Unstapled x ->
      Op.Triple (fun s : SessionInner M => s.msg.currentStaple = s₀.msg.currentStaple) x
        (fun _ s => s.msg.currentStaple = s₀.msg.currentStaple) fun _ => Lays s₀ := by
    intro γ x hx
    have hkept : Op.Keeps
        (fun s : SessionInner M => s.msg.currentStaple = s₀.msg.currentStaple) x :=
      fun s hs => (congrArg Prod.fst (hx s () List.not_mem_nil)).trans hs
    exact (Op.Triple.ofKeeps hkept).weaken (fun _ _ h => h) fun _ _ h => Or.inl h
  unfold dischargeOwedBind
  apply Op.Triple.reading
  intro s hs
  cases howed : s.round.owedBind with
  | none =>
      apply Op.Triple.value
      intro s' hs'
      rw [hs']
      exact ⟨hs.2.1, Or.inl rfl⟩
  | some owed =>
      -- what is owed is owed with the turn
      have hmine : s₀.round.pqTurnMine = true := by
        rw [<- hs.2.2]
        apply (hs.1.owes _).1
        change s.round.owedBind.isSome = true
        rw [howed]
        rfl
      dsimp only
      apply Op.Triple.pre
        (P := fun s : SessionInner M => s.msg.currentStaple = s₀.msg.currentStaple)
      · apply Op.Triple.bind (hstapled (Unstapled.mapRound _))
        intro _
        apply Op.Triple.looking (still_readHalf _ _) fun _ _ h => Or.inl h
        intro send
        apply Op.Triple.looking (still_readHalf _ _) fun _ _ h => Or.inl h
        intro sendPq
        apply Op.Triple.looking (Op.Still.ensure _ _) fun _ _ h => Or.inl h
        intro _
        apply Op.Triple.looking (Op.Still.ensure _ _) fun _ _ h => Or.inl h
        intro _
        apply Op.Triple.bind (hstapled (Unstapled.onHalf _ _ _))
        intro apqPsk
        apply Op.Triple.bind (Q := fun _ s =>
          s.msg.currentStaple = s₀.msg.currentStaple ∧ s.round.pqTurnMine = false)
        · exact Op.Triple.update fun _ h => ⟨h, rfl⟩
        · intro _
          exact Op.Triple.value fun _ h => ⟨h.1, Or.inr ⟨hmine, h.2⟩⟩
      · intro s' hs'
        rw [hs']
        exact hs.2.1

theorem lays_dischargeAndCommit (folded : Option (PeerProposal M))
    (crossPsk : Option ExportedPsk) (handoff : Option (M.Signer × Bytes))
    (seed : M.Seed) (s₀ : SessionInner M) :
    Op.Triple (Unlaid s₀) (dischargeAndCommit folded crossPsk handoff seed)
      (fun _ => Lays s₀) fun _ => Lays s₀ := by
  have hlaying : forall (owed : Option (DischargedBind M)) {γ : Type}
      {x : SessionOp M γ} {W : List Slot}, Touches W x -> .msg ∉ W -> .counter ∉ W ->
        .round ∉ W ->
        Op.Triple (Laying s₀ owed) x (fun _ => Laying s₀ owed) fun _ => Lays s₀ :=
    fun owed _ _ _ hx hmsg hcounter hround => keeps_laying
      (Unstapled.ofTouches hx hmsg hcounter) (Unturned.ofTouches hx hround) s₀ owed
  have hlost : forall (owed : Option (DischargedBind M)) (_ : TwoMlsPqError) s,
      Laying s₀ owed s -> Lays s₀ s :=
    fun _ _ _ h => Or.inl h.1
  unfold dischargeAndCommit
  apply Op.Triple.bind (laying_dischargeOwedBind s₀)
  intro owed
  apply Op.Triple.bind (hlaying owed (touches_callHalf (W := [.half .sendClassical,
    .services]) _ _ _ _ (by decide)) (by decide) (by decide) (by decide))
  intro output
  apply Op.Triple.bind (hlaying owed (touches_callHalf (W := [.half .sendClassical,
    .services]) _ _ _ _ (by decide)) (by decide) (by decide) (by decide))
  intro _
  apply Op.Triple.looking (still_readHalf _ _) (hlost owed)
  intro send
  apply Op.Triple.looking (Op.Still.ofExcept _) (hlost owed)
  intro _
  apply Op.Triple.bind (hlaying owed (touches_update (W := [.services])
    (confined_forgetConsumed _ _ (by decide))) (by decide) (by decide) (by decide))
  intro _
  apply Op.Triple.bind (hlaying owed (touches_update (W := [.services, .rotation])
    (confined_canonicalizeFold _ (by decide) (by decide))) (by decide) (by decide)
    (by decide))
  intro _
  apply Op.Triple.bind (hlaying owed touches_rememberSendPsk (by decide) (by decide)
    (by decide))
  intro _
  apply Op.Triple.looking (Op.Still.ofExcept _) (hlost owed)
  intro clCommit
  apply Op.Triple.update
  intro s hs
  rcases hs.2 with hnone | hlaid
  · refine Or.inr (Or.inl ?_)
    intro st hst
    have hstaple : stapleOf clCommit owed = st := Option.some.inj hst
    rw [<- hstaple, hnone]
    rfl
  · exact Or.inr (Or.inr hlaid)

theorem unstapled_preparePreEstablishment (selected : Option Bytes) :
    Unstapled (preparePreEstablishment selected :
      SessionOp M (PrepareEncryptResult M)) := by
  unfold preparePreEstablishment
  apply Op.Writes.looking (Op.Still.ensure _ _)
  intro _
  apply Op.Writes.looking Op.Still.state
  intro s
  apply Op.Writes.looking (Op.Still.ensure _ _)
  intro _
  apply Op.Writes.looking (Op.Still.ofOption _ _)
  intro welcome
  dsimp only
  refine Op.Writes.bind (Unstapled.mapMsg (fun _ _ => rfl) fun _ _ => rfl) fun _ => ?_
  exact Op.Writes.value _

section

variable (L : Lawful M)
include L

theorem lays_commitRound (folded : Option (PeerProposal M)) (seed : M.Seed)
    (s₀ : SessionInner M) :
    Op.Triple (Unlaid s₀) (commitRound folded seed) (fun _ => Lays s₀)
      fun _ => Lays s₀ := by
  have hunlaid : forall {γ : Type} {x : SessionOp M γ}, Unstapled x -> Firm x ->
      Op.Triple (Unlaid s₀) x (fun _ => Unlaid s₀) fun _ => Lays s₀ :=
    fun hstaple hgrip => (Op.Triple.ofKeeps (keeps_unlaid hstaple hgrip s₀)).weaken
      (fun _ _ h => h) fun _ _ h => h.lays
  unfold commitRound
  apply Op.Triple.bind (hunlaid unstapled_rememberSendPsk
    (Firm.quiet (quiet_rememberSendPsk L)))
  intro _
  apply Op.Triple.bind (hunlaid (Unstapled.ofTouches touches_crossPskForCommit
    (by decide) (by decide)) (Firm.quiet (quiet_crossPskForCommit L)))
  intro crossPsk
  apply Op.Triple.looking still_handoffForCommit fun _ _ h => h.lays
  intro handoff
  apply Op.Triple.bind (hunlaid (Unstapled.ofTouches (touches_refold folded)
    (by decide) (by decide)) (Firm.ofTouches (touches_refold folded) (by decide)
    (by decide) (by decide) (by decide)))
  intro _
  apply Op.Triple.looking Op.Still.state fun _ _ h => h.lays
  intro s
  exact (lays_dischargeAndCommit _ _ _ _ s₀).mapError

theorem lays_prepareToEncryptInner (proposing : Option Bytes) (rnd : Nat -> M.Seed)
    (s₀ : SessionInner M) :
    Op.Triple (Unlaid s₀) (prepareToEncryptInner proposing rnd) (fun _ => Lays s₀)
      fun _ => Lays s₀ := by
  have hafter : forall {γ : Type} {x : SessionOp M γ}, Unstapled x -> Unturned x ->
      Op.Triple (Lays s₀) x (fun _ => Lays s₀) fun _ => Lays s₀ :=
    fun hstaple hturn => Op.Triple.ofKeeps (keeps_lays hstaple hturn s₀)
  unfold prepareToEncryptInner
  apply Op.Triple.looking still_ensureEstablishmentDelegated fun _ _ h => h.lays
  intro _
  apply Op.Triple.looking Op.Still.state fun _ _ h => h.lays
  intro s
  apply Op.Triple.bind (Q := fun _ => Lays s₀)
  · apply Op.Triple.ite
    · intro _
      apply (hafter (unstapled_preparePreEstablishment _) (Unturned.ofTouches
        (touches_preparePreEstablishment _) (by decide))).pre
      exact fun _ h => h.lays
    · intro _
      unfold prepareRatchetCommit
      apply Op.Triple.looking Op.Still.state fun _ _ h => h.lays
      intro s'
      dsimp only
      apply Op.Triple.bind (Q := fun _ => Unlaid s₀)
      · exact Op.Triple.update fun _ h => h
      intro _
      apply Op.Triple.looking still_peerAppliedOurSendEpoch fun _ _ h => h.lays
      intro licensed
      apply Op.Triple.bind (Q := fun _ => Lays s₀)
      · apply Op.Triple.ite
        · exact fun _ => lays_commitRound L _ _ s₀
        · exact fun _ => Op.Triple.value fun _ h => h.lays
      intro _
      apply Op.Triple.bind (hafter (unstapled_stageSelfUpdate _ _)
        (Unturned.firm (firm_stageSelfUpdate _ _)))
      intro proposal
      apply Op.Triple.looking Op.Still.state fun _ _ h => h
      intro s''
      exact Op.Triple.value fun _ h => h
  intro result
  apply Op.Triple.bind (hafter unstapled_recordListenRendezvous
    (Unturned.ofTouches touches_recordListenRendezvous (by decide)))
  intro _
  apply Op.Triple.bind (hafter (unstapled_rewrapSideBand _)
    (Unturned.firm (firm_rewrapSideBand _)))
  intro _
  exact Op.Triple.value fun _ h => h

theorem lays_prepared {t : TwoMlsPqSession M} (h : InTurn t.inner)
    (proposing : Option Bytes) (rnd : Nat -> M.Seed) :
    Lays t.inner ((Call.prepareToEncrypt proposing rnd).run.run t).2.inner := by
  have hkept : Op.Keeps (Lays t.inner) (encodeBlob .core : SessionOp M (Archive M)) :=
    keeps_lays (Unstapled.ofTouches (touches_encodeBlob .core) (by decide) (by decide))
      (Unturned.ofTouches (touches_encodeBlob .core) (by decide)) t.inner
  have hentered : Unlaid t.inner (entered t) := by
    rcases entered_counter t with ⟨n, hn⟩
    rw [hn]
    exact ⟨h, rfl, rfl⟩
  have hinner : Op.Triple (fun s => s = entered t) (prepareToEncryptInner proposing rnd)
      (fun _ => Lays t.inner) fun _ => Lays t.inner := by
    apply (lays_prepareToEncryptInner L proposing rnd t.inner).pre
    intro s hs
    rw [hs]
    exact hentered
  have hcall : Op.Triple (fun t' => t' = t) (prepareToEncrypt proposing rnd)
      (fun _ t' => Lays t.inner t'.inner) fun _ t' => Lays t.inner t'.inner :=
    triple_mutateAndPersist hinner (fun _ _ hs => Or.inr fun _ => hs) (fun _ => hkept)
      fun _ => hkept
  change Lays t.inner ((handing (prepareToEncrypt proposing rnd) _).run t).2.inner
  rw [handing_run]
  cases hrun : ((prepareToEncrypt proposing rnd).run t).1 with
  | ok result => exact hcall.ok rfl hrun
  | error e => exact hcall.error rfl hrun

/-!
## The two sessions
-/

theorem passing_call {w : World M} (h : InLockstep w) {side : Side} {call : Call M}
    (hturn : InTurn (w.session side).inner)
    (hdelivers : forall f, call.delivered = some f -> f ∈ w.sent side.other) :
    Passing.Step Side.other side w.passing (w.act (.call side call)).passing := by
  have hgoes := call_goes L call (w.session side) (h side).behind.approved
  have hback : OneAhead (w.core side.other) (w.core side) (w.sent side.other)
      (w.sent side) := by
    simpa using h side.other
  have hnext : Behind 0 0 (reached (w.core side.other))
      (call.run.run (w.session side)).2.inner.core :=
    (oneAhead_call L (h side) hback hdelivers (fun f (hf : f ∈ w.handedOut side call) =>
      World.emitted_handedOut L hf)).1.behind
  have hcore : (w.act (.call side call)).core side =
      (call.run.run (w.session side)).2.inner.core := World.core_call ..
  refine { others := ?_, onward := ?_, taken := ?_, posts := ?_ }
  · intro j hj
    rcases World.eq_or_other side j with hsame | hother
    · exact absurd hsame hj
    · subst hother
      unfold World.passing
      dsimp only
      rw [World.core_call_other, World.sent_call_other]
      exact ⟨rfl, rfl, fun _ hposted => hposted⟩
  · change reached (w.core side) <= reached ((w.act (.call side call)).core side)
    rw [hcore]
    exact hgoes.invariant (I := fun c => reached (w.core side) <= reached c)
      (fun _ _ _ _ hstep hle => Nat.le_trans hle (reached_le hstep)) (Nat.le_refl _)
  · intro hheld
    change ((w.act (.call side call)).core side).turn = true at hheld
    rw [hcore] at hheld
    by_cases htakes : call.TakesFrame
    · cases call with
      | processIncoming frame approval =>
          rcases gains_received L (w.session side) frame approval with
            hsame | ⟨m, hbind, hmade, hlt⟩
          · exact Or.inl (hsame.symm.trans hheld)
          · refine Or.inr ⟨?_, ?_⟩
            · cases frame with
              | message st proposal app =>
                  refine ⟨st, m, Or.inr ⟨proposal, app, ?_⟩, hbind, ?_⟩
                  · exact hdelivers _ rfl
                  · rw [World.other_other]
                    exact hmade
              | _ => cases hbind
            · change reached (w.core side) < reached ((w.act _).core side)
              rw [hcore]
              exact hlt
      | _ => exact htakes.elim
    · exact Or.inl (turn_path (fun _ he => events_turnless htakes he) hgoes hheld)
  · intro n hposted
    rcases hposted with ⟨st, m, hplace, hbind, hmade⟩
    rcases hplace with hstaple | ⟨proposal, app, hsent⟩
    · -- the staple as the call has left it
      by_cases hstaples : call.Staples
      · cases call with
        | prepareToEncrypt proposing rnd =>
            have hlays := lays_prepared L hturn proposing rnd
            rw [hcore] at hstaple
            rcases hlays with hsame | hbindless | hlaid
            · refine Or.inl ⟨st, m, Or.inl ?_, hbind, hmade⟩
              exact hsame.symm.trans hstaple
            · rw [hbindless st hstaple] at hbind
              cases hbind
            · refine Or.inr ⟨hlaid.1, ?_, ?_⟩
              · change ((w.act _).core side).turn = false
                rw [hcore]
                exact hlaid.2
              · -- it is one epoch behind a send half that is one ahead at most
                rcases hnext.send with ⟨g, held, _, hle⟩
                rcases hnext.staple st m hstaple (Staple.tMessage_of_bind hbind)
                  with ⟨g', e, held', hmade', hlt⟩
                rw [held] at held'
                cases held'
                rw [hmade] at hmade'
                cases hmade'
                change n <= reached (w.core side.other)
                omega
        | _ => exact hstaples.elim
      · rw [hcore] at hstaple
        refine Or.inl ⟨st, m, Or.inl ?_, hbind, hmade⟩
        apply bindFrom_path (fun _ he => events_bindless hstaples he) hgoes st hstaple
        rw [hbind]
        exact fun hnone => nomatch hnone
    · -- a frame that was sent carries the staple from before the call
      change Frame.message st proposal app ∈ (w.act (.call side call)).sent side at hsent
      rw [World.sent_call] at hsent
      rcases List.mem_append.mp hsent with hold | hnew
      · exact Or.inl ⟨st, m, Or.inr ⟨proposal, app, hold⟩, hbind, hmade⟩
      · have hst := (World.emitted_handedOut L hnew).message_inv.1
        exact Or.inl ⟨st, m, Or.inl hst, hbind, hmade⟩

omit L in
/-- The sessions move in lockstep, each keeps to the rules of the turn, and there is
one turn at most. -/
structure Tokened (w : World M) : Prop where
  lockstep : InLockstep w
  turns : forall side, Carried (Conserved InTurn (Photo InTurn)) (w.session side)
  single : w.passing.Exclusive Side.other

theorem tokened_act {w : World M} {a : Action M} (h : Tokened w) (ha : w.Calls a) :
    Tokened (w.act a) := by
  have hlockstep := inLockstep_act L h.lockstep ha
  rcases ha with ⟨hdelivers, side, call, rfl⟩
  refine { lockstep := hlockstep, turns := ?_, single := ?_ }
  · intro side'
    rcases World.eq_or_other side side' with rfl | rfl
    · have hcall := (lasting_inTurn L).carries.call call _ (h.turns side')
      simpa [World.act] using hcall
    · have hkept := h.turns side.other
      simpa [World.act, Function.update_of_ne (World.other_ne side)] using hkept
  · exact (passing_call L h.lockstep (h.turns side).1 hdelivers).exclusive
      World.other_ne World.other_other World.eq_or_other h.single

theorem tokened_initial {initiator acceptor : SessionInner M}
    (h : Established initiator acceptor) : Tokened (World.initial initiator acceptor) := by
  have hlockstep := inLockstep_initial L h
  rcases h with ⟨initiated, stapled, accepted⟩
  have hborn : Born initiator := Born.initiated initiated
  have hborn' : Born acceptor := Born.accepted accepted
  have hlaid : acceptor.core.turn = false := acceptWith_turn L accepted
  have hunposted : forall side n,
      ¬ (World.initial initiator acceptor).passing.posted side n := by
    intro side n hposted
    have hunused : Unused ((World.initial initiator acceptor).core side) := by
      cases side with
      | left => exact hborn.unused L
      | right => exact hborn'.unused L
    rcases hposted with ⟨st, m, hplace, hbind, _⟩
    rcases hplace with hstaple | ⟨proposal, app, hsent⟩
    · rcases hunused.staple with ⟨welcome, hwelcome, _⟩
      rw [hwelcome] at hstaple
      cases hstaple
      cases hbind
    · cases hsent
  refine { lockstep := hlockstep, turns := ?_, single := ?_ }
  · intro side
    cases side with
    | left => exact ⟨hborn.inTurn L, fun _ hp => absurd hp List.not_mem_nil⟩
    | right => exact ⟨hborn'.inTurn L, fun _ hp => absurd hp List.not_mem_nil⟩
  · refine
      { held := ?_
        free := fun side hway => (hunposted side _ hway).elim
        single := fun side hway => (hunposted side _ hway).elim
        bounded := fun side n hposted => (hunposted side n hposted).elim }
    intro side hheld
    cases side with
    | left => exact hlaid
    | right =>
        change acceptor.core.turn = true at hheld
        rw [hlaid] at hheld
        cases hheld

omit L in
set_option maxRecDepth 4000 in
theorem bootstrapBind_calls :
    Run World.act World.Calls ReferencePair.world
      (ReferencePair.world.play ReferencePair.bootstrapBind) := by
  apply World.run_calls
  simp [ReferencePair.bootstrapBind, ReferencePair.greeting, ReferencePair.send,
    ReferencePair.receive, Move.Fair, Move.isRestore, Call.delivered]

/-- Whatever the network does, the two sessions never hold the turn both.  So a round
that one of them has opened, or whose bind it owes, leaves the other without a round of
its own and without a debt; and as long as a bind is on its way that its receiver would
still apply, neither of them holds the turn. -/
theorem turn_held_by_one {initiator acceptor : SessionInner M}
    (established : Established initiator acceptor) {w : World M}
    (run : Run World.act World.Calls (World.initial initiator acceptor) w)
    (side : Side) :
    (((w.session side).inner.round.pqTurnMine = true ∨
        (w.session side).inner.round.owedBind ≠ none ∨
        exists i, (w.session side).inner.round.pqInflight = some i ∧
          i.initiates = true) ->
      (w.session side.other).inner.round.pqTurnMine = false ∧
        (w.session side.other).inner.round.owedBind = none ∧
        forall i, (w.session side.other).inner.round.pqInflight = some i ->
          i.initiates = false) ∧
    forall t pq proposal app m,
      Frame.message (.bind t pq) proposal app ∈ w.sent side -> t.parsed = some m ->
        stapleEpochAction (w.session side.other).inner m = .ok .apply ->
          (w.session side).inner.round.pqTurnMine = false ∧
            (w.session side.other).inner.round.pqTurnMine = false := by
  have htokened : Tokened w :=
    run.invariant (fun _ _ h ha => tokened_act L h ha) (tokened_initial L established)
  constructor
  · intro hactive
    have hheld : (w.session side).inner.round.pqTurnMine = true := by
      have hturn := (htokened.turns side).1
      rcases hactive with hmine | howed | ⟨i, hinflight, hopen⟩
      · exact hmine
      · exact (hturn.owes (Option.isSome_iff_ne_none.mpr howed)).1
      · exact (hturn.opens ((initiates_of_inflight hinflight).trans hopen)).1
    have hfree : (w.session side.other).inner.round.pqTurnMine = false :=
      htokened.single.held side hheld
    have hturn := (htokened.turns side.other).1
    refine ⟨hfree, ?_, ?_⟩
    · cases howed : (w.session side.other).inner.round.owedBind with
      | none => rfl
      | some owed =>
          have hmine := (hturn.owes (Option.isSome_iff_exists.mpr ⟨owed, howed⟩)).1
          change (w.session side.other).inner.round.pqTurnMine = true at hmine
          rw [hfree] at hmine
          cases hmine
    · intro i hinflight
      cases hopen : i.initiates with
      | false => rfl
      | true =>
          have hmine := (hturn.opens ((initiates_of_inflight hinflight).trans hopen)).1
          change (w.session side.other).inner.round.pqTurnMine = true at hmine
          rw [hfree] at hmine
          cases hmine
  · intro t pq proposal app m hsent hparsed happly
    rcases stapleEpochAction_apply happly with ⟨e, hmade, hnow⟩
    have hway : w.passing.OnItsWay Side.other side := by
      refine ⟨.bind t pq, m, Or.inr ⟨proposal, app, hsent⟩, hparsed, ?_⟩
      rw [hmade]
      exact congrArg some (reached_epoch hnow).symm
    exact htokened.single.free side hway

omit L in
/-- The initiator owes the bind of its first round, and its peer is without the turn. -/
theorem turn_held_by_one_owing :
    ((ReferencePair.world.play ReferencePair.bootstrapBind).session
        .left).inner.round.owedBind ≠ none ∧
      ((ReferencePair.world.play ReferencePair.bootstrapBind).session
        Side.left.other).inner.round.pqTurnMine = false := by
  have howed : ((ReferencePair.world.play ReferencePair.bootstrapBind).session
      .left).inner.round.owedBind ≠ none := by
    apply Option.isSome_iff_ne_none.mp
    decide +kernel
  exact ⟨howed, ((turn_held_by_one Reference.lawful ReferencePair.established
    bootstrapBind_calls .left).1 (Or.inr (Or.inl howed))).1⟩

end

end

end Session
end TwoMlsPq
