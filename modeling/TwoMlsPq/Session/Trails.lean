import TwoMlsPq.Session.HalfSteps
import TwoMlsPq.Session.SingleCommit

/-!
# A recv half trails the send half it follows

What an honest side hands out is what its receiver takes it for: a welcome leads
to the first epoch of the sender's group, an application section holds an
application message, and a staple holds a commit the sender has left behind.  A
recv half is therefore never ahead of the send half of its peer.
-/

namespace TwoMlsPq
namespace Session

open Foundation Apq

section

variable {M : MlsRs} {c c' : Core M} {e : Event M}

/-!
## Epochs only grow
-/

theorem Step.epoch_le (hstep : Step e c c') {h : Half} {g : M.Group}
    (held : c.half h = some g) :
    exists g', c'.half h = some g' ∧ M.currentEpoch g <= M.currentEpoch g' := by
  rcases hstep.half_cases h with hquiet | ⟨g', held', hhalf⟩
  · rw [held] at hquiet
    rcases hquiet.some_left with ⟨g', held', hsame⟩
    exact ⟨g', held', Nat.le_of_eq hsame.epoch.symm⟩
  · refine ⟨g', held', ?_⟩
    have hnext : forall {g₁ : M.Group}, c.half h = some g₁ -> Advanced g₁ g' ->
        M.currentEpoch g <= M.currentEpoch g' := by
      intro g₁ held₁ hadvanced
      rw [held] at held₁
      cases held₁
      rw [hadvanced.epoch]
      exact Nat.le_succ _
    cases hhalf with
    | peerCommit held₁ _ _ applied => exact hnext held₁ applied.toAdvanced
    | applyRekey held₁ _ applied => exact hnext held₁ applied.toAdvanced
    | ownCommit _ held₁ _ _ applied => exact hnext held₁ applied.toAdvanced
    | propose held₁ _ proposed =>
        rw [held] at held₁
        cases held₁
        exact Nat.le_of_eq proposed.epoch.symm
    | joinRecv _ missing _ =>
        rw [held] at missing
        cases missing
    | createSendPq missing _ =>
        rw [held] at missing
        cases missing
    | joinRecvPq missing _ _ =>
        rw [held] at missing
        cases missing

theorem Path.epoch_le {A : Event M -> Prop} (hpath : Path A c c') {h : Half}
    {g : M.Group} (held : c.half h = some g) :
    exists g', c'.half h = some g' ∧ M.currentEpoch g <= M.currentEpoch g' := by
  refine hpath.invariant (I := fun c₁ =>
    exists g', c₁.half h = some g' ∧ M.currentEpoch g <= M.currentEpoch g') ?_
    ⟨g, held, Nat.le_refl _⟩
  rintro e c₁ c₂ _ hstep ⟨g₁, held₁, hle⟩
  rcases hstep.epoch_le held₁ with ⟨g₂, held₂, hle'⟩
  exact ⟨g₂, held₂, Nat.le_trans hle hle'⟩

/-!
## What an honest side hands out
-/

/-- A staple whose welcome, if it has one, is the founding one. -/
def Staple.Founds (st : Staple M) : Prop :=
  forall w, st.welcomes w -> forall m, w.classical.parsed = some m ->
    M.welcomeEpoch m = 1

structure Frame.Founds (f : Frame M) : Prop where
  welcome : forall w, f.welcomes w -> forall m, w.classical.parsed = some m ->
    M.welcomeEpoch m = 1
  app : forall st proposal app, f = .message st proposal app -> AppBlob app
  first : forall app, f = .preEstablishment app -> AppBlob app

structure Founded (c : Core M) : Prop where
  staple : forall st, c.staple = some st -> st.Founds
  outbound : forall out, c.outbound = some out ->
    forall f, f ∈ out.frames -> f.Founds

theorem founds_welcome {w : WelcomeBytes M}
    (h : Staple.Founds (.welcome w)) :
    (Frame.welcome w).Founds where
  welcome := h
  app := by
    intro st proposal app hf
    cases hf
  first := by
    intro app hf
    cases hf

theorem founds_handoff {envelope : Bytes} {w : WelcomeBytes M}
    (h : Staple.Founds (.handoff envelope w)) :
    (Frame.handoff envelope w).Founds where
  welcome := h
  app := by
    intro st proposal app hf
    cases hf
  first := by
    intro app hf
    cases hf

theorem founds_preEstablishment {app : Blob M} (h : AppBlob app) :
    (Frame.preEstablishment app).Founds where
  welcome := by
    intro w hw
    exact hw.elim
  app := by
    intro st proposal app' hf
    cases hf
  first := by
    intro app' hf
    cases hf
    exact h

theorem founds_envelope {staple : Option (Staple M)} {e : InitialEnvelope M}
    {f : Frame M} (hstaple : forall st, staple = some st -> st.Founds)
    (he : EnvelopeOf staple e) (hf : f ∈ e.frames) :
    f.Founds := by
  rcases mem_envelope_frames hf with ⟨w, hw, rfl⟩ | ⟨app, happ, rfl⟩
  · exact founds_welcome (hstaple _ (he.welcome w hw))
  · exact founds_preEstablishment (he.stapled app happ)

theorem founds_staple {st : Staple M} {f : Frame M} (hst : st.Founds)
    (hf : f ∈ st.frames) :
    f.Founds := by
  rcases mem_staple_frames hf with ⟨w, rfl, rfl⟩ | ⟨envelope, w, rfl, rfl⟩
  · exact founds_welcome hst
  · exact founds_handoff hst

theorem founds_repeated {out : Outbound M} {f : Frame M}
    (hstaple : forall st, c.staple = some st -> st.Founds) (hout : Repeats c out)
    (hf : f ∈ out.frames) :
    f.Founds := by
  cases out with
  | envelope e =>
      refine founds_envelope hstaple { welcome := hout.2, stapled := ?_ } hf
      intro app happ
      rw [hout.1] at happ
      cases happ
  | staple st => exact founds_staple (hstaple st hout) hf

theorem Founded.step (h : Founded c) (hstep : Step e c c') : Founded c' := by
  cases hstep with
  | quiet hq =>
      rw [hq.2]
      exact { staple := h.staple, outbound := h.outbound }
  | setStaple fresh =>
      refine { staple := ?_, outbound := h.outbound }
      intro st hst w hw
      cases hst
      rcases fresh with ⟨_, _, _, _, _, _, _, _, _, rfl | ⟨_, rfl⟩⟩
      · exact hw.elim
      · exact hw.elim
  | envelopStaple bare missing =>
      rename_i envelope w
      have hbare := h.staple _ bare
      have hframed : (Staple.handoff envelope w).Founds := hbare
      refine { staple := ?_, outbound := ?_ }
      · intro st hst
        cases hst
        exact hframed
      · intro out hout f hf
        rcases Option.map_eq_some_iff.mp hout with ⟨_, _, rfl⟩
        exact founds_staple hframed hf
  | clearOutbound =>
      refine { staple := h.staple, outbound := ?_ }
      intro out hout
      cases hout
  | setOutbound repeats sealing =>
      refine { staple := h.staple, outbound := ?_ }
      intro out hout f hf
      cases hout
      exact founds_repeated h.staple repeats hf
  | _ => exact { staple := h.staple, outbound := h.outbound }

theorem founded_unused (h : Unused c) : Founded c := by
  have hstaple : forall st, c.staple = some st -> st.Founds := by
    intro st hst w hw m hm
    rcases h.staple with ⟨wb, hwb, hfounding⟩
    rw [hwb] at hst
    cases hst
    exact hfounding w m hw hm
  exact
    { staple := hstaple
      outbound := fun out hout f hf => founds_repeated hstaple (h.outbound out hout) hf }

theorem founds_emitted {f : Frame M} (h : Founded c) (hf : EmittedBy c f) :
    f.Founds := by
  cases hf with
  | message staple pending encrypted =>
      constructor
      · exact h.staple _ staple
      · intro st proposal app hf
        cases hf
        exact encrypted
      · intro app hf
        cases hf
  | envelope composed mem => exact founds_envelope h.staple composed mem
  | parked parked mem => exact h.outbound _ parked _ mem
  | sideBand =>
      constructor
      · intro w hw
        exact hw.elim
      · intro st proposal app hf
        cases hf
      · intro app hf
        cases hf

/-!
## The recv half of a side with an honest peer
-/

/-- The events that keep the recv classical half within an epoch. -/
def Within (bound : Nat) : Event M -> Prop
  | .peerCommit h m =>
      h = .recvClassical -> (M.description m).contentType = some .commit ->
        forall e, M.messageEpoch m = some e -> e < bound
  | .joinRecv w => forall m, w.classical.parsed = some m -> M.welcomeEpoch m <= bound
  | _ => True

theorem reached_of_half {bound : Nat} {g : M.Group}
    (held : c.half .recvClassical = some g) (hle : M.currentEpoch g <= bound) :
    reached c <= bound := by
  unfold reached Core.epoch
  rw [held]
  exact hle

theorem reached_step {bound : Nat} (hwithin : Within bound e) (hstep : Step e c c')
    (h : reached c <= bound) :
    reached c' <= bound := by
  have hepoch : forall {g : M.Group}, c.half .recvClassical = some g ->
      M.currentEpoch g <= bound := by
    intro g held
    unfold reached Core.epoch at h
    rw [held] at h
    exact h
  cases hstep with
  | joinRecv missing missingPq parsed joined joinedPq decoded =>
      rename_i w m g pq welcome
      refine reached_of_half (g := g) (by simp [Function.update]) ?_
      rw [joined.epoch]
      exact hwithin m parsed
  | peerCommit held idle kind applied =>
      rename_i half m g g'
      by_cases hh : half = .recvClassical
      · subst hh
        refine reached_of_half (Core.half_setHalf ..) ?_
        rw [applied.epoch]
        exact hwithin rfl kind _ applied.messageEpoch
      · rw [reached_setHalf_of_ne hh]
        exact h
  | propose held introduces proposed =>
      rename_i half m identity g g'
      by_cases hh : half = .recvClassical
      · subst hh
        refine reached_of_half (Core.half_setHalf ..) ?_
        rw [proposed.epoch]
        exact hepoch held
      · rw [reached_setHalf_of_ne hh]
        exact h
  | quiet hq =>
      unfold reached
      rw [hq.epoch]
      exact h
  | applyRekey held initiated applied =>
      rw [reached_setHalf_of_ne (by decide)]
      exact h
  | ownCommit held discharged licensed handoff applied =>
      rw [reached_setHalf_of_ne (by decide)]
      exact h
  | ownCommitPq held discharged handoff applied =>
      rw [reached_setHalf_of_ne (by decide)]
      exact h
  | createSendPq missing created =>
      rw [reached_setHalf_of_ne (by decide)]
      exact h
  | joinRecvPq missing live initiated parsed joined =>
      rename_i g
      have hrecv : reached (c.setHalf .recvPq g) = reached c :=
        reached_setHalf_of_ne (by decide)
      exact Nat.le_trans (Nat.le_of_eq hrecv) h
  | _ => exact h

theorem within_beside {bound : Nat} (h : e.Beside) : Within bound e := by
  cases e with
  | peerCommit h' m => exact h.elim
  | joinRecv w => exact h.elim
  | _ => exact True.intro

theorem within_receive {bound : Nat} {f : Frame M} (hfounds : f.Founds)
    (hbound : 1 <= bound)
    (hstaple : forall st proposal app m, f = .message st proposal app ->
      st.tMessage = some m -> forall e, M.messageEpoch m = some e -> e < bound)
    (he : receiveEvents f e) :
    Within bound e := by
  cases e with
  | peerCommit h m =>
      rintro rfl hkind n hn
      cases f with
      | message st proposal app =>
          rcases he with hm | happ
          · exact hstaple st proposal app m rfl hm n hn
          · rw [hfounds.app st proposal app rfl m happ] at hkind
            cases hkind
      | preEstablishment app =>
          rw [hfounds.first app rfl m he] at hkind
          cases hkind
      | _ => exact he.elim
  | joinRecv w =>
      intro m hm
      rw [hfounds.welcome w he m hm]
      exact hbound
  | _ => exact True.intro

/-!
## Both directions
-/

structure Trails (x y : Core M) (sent : List (Frame M)) : Prop where
  founded : Founded x
  frames : forall f, f ∈ sent -> f.Founds
  send : exists g, x.half .sendClassical = some g ∧ 1 <= M.currentEpoch g ∧
    reached y <= M.currentEpoch g

/-- Neither recv half is ahead of the send half it follows. -/
def InStep (w : World M) : Prop :=
  InLockstep w ∧ forall side, Trails (w.core side) (w.core side.other) (w.sent side)

end

section

variable {M : MlsRs} (L : Lawful M)

include L

theorem trails_sender {call : Call M} {t : TwoMlsPqSession M} {y : Core M}
    {sent new : List (Frame M)} (h : Trails t.inner.core y sent)
    (happroved : ApprovedProposal t.inner.core.queued)
    (hnew : forall f, f ∈ new -> EmittedBy t.inner.core f) :
    Trails (call.run.run t).2.inner.core y (sent ++ new) := by
  have hpath := call_goes L call t happroved
  constructor
  · exact hpath.invariant (fun _ _ _ _ hstep hI => hI.step hstep) h.founded
  · intro f hf
    rcases List.mem_append.mp hf with hold | hfresh
    · exact h.frames f hold
    · exact founds_emitted h.founded (hnew f hfresh)
  · rcases h.send with ⟨g, held, hone, hle⟩
    rcases hpath.epoch_le held with ⟨g', held', hge⟩
    exact ⟨g', held', Nat.le_trans hone hge, Nat.le_trans hle hge⟩

theorem trails_receiver {call : Call M} {t : TwoMlsPqSession M} {x : Core M}
    {sent sentY : List (Frame M)} (h : Trails x t.inner.core sent)
    (hahead : OneAhead x t.inner.core sent sentY)
    (happroved : ApprovedProposal t.inner.core.queued)
    (hdelivered : forall f, call.delivered = some f -> f ∈ sent) :
    Trails x (call.run.run t).2.inner.core sent := by
  refine { founded := h.founded, frames := h.frames, send := ?_ }
  rcases h.send with ⟨g, held, hone, hle⟩
  refine ⟨g, held, hone, ?_⟩
  have hstaple : forall f, f ∈ sent -> forall st proposal app m,
      f = .message st proposal app -> st.tMessage = some m ->
        forall e, M.messageEpoch m = some e -> e < M.currentEpoch g := by
    rintro f hf st proposal app m rfl hm e he
    rcases hahead.staples st proposal app m hf hm with ⟨g', e', held', he', hlt⟩
    rw [held] at held'
    cases held'
    rw [he'] at he
    cases he
    exact hlt
  refine (call_goes L call t happroved).invariant (I := fun c =>
    reached c <= M.currentEpoch g) ?_ hle
  intro e c c' he hstep hc
  refine reached_step ?_ hstep hc
  by_cases hmessages : call.Messages
  · cases call with
    | processIncoming f approval =>
        have hf := hdelivered f rfl
        exact within_receive (h.frames f hf) hone (hstaple f hf) he
    | prepareToEncrypt proposing rnd =>
        cases e with
        | peerCommit h' m => exact he.elim
        | joinRecv w => exact he.elim
        | _ => exact True.intro
    | queueProposal digest =>
        cases e with
        | peerCommit h' m =>
            rintro rfl
            exact nomatch he.1
        | joinRecv w => exact he.elim
        | _ => exact True.intro
    | _ => exact hmessages.elim
  · exact within_beside (events_beside hmessages he)

theorem inStep_act {w : World M} {a : Action M} (h : InStep w) (ha : w.Calls a) :
    InStep (w.act a) := by
  refine ⟨inLockstep_act L h.1 ha, ?_⟩
  rcases ha with ⟨hdelivers, side, call, rfl⟩
  have happroved := (h.1 side).behind.approved
  have hemitted : forall f, f ∈ w.handedOut side call -> EmittedBy (w.core side) f :=
    fun f hf => World.emitted_handedOut L hf
  have hsender : Trails (call.run.run (w.session side)).2.inner.core
      (w.core side.other) (w.sent side ++ w.handedOut side call) :=
    trails_sender L (h.2 side) happroved hemitted
  have hback : OneAhead (w.core side.other) (w.core side) (w.sent side.other)
      (w.sent side) := by
    simpa using h.1 side.other
  have htrails : Trails (w.core side.other) (w.core side) (w.sent side.other) := by
    simpa using h.2 side.other
  have hreceiver : Trails (w.core side.other)
      (call.run.run (w.session side)).2.inner.core (w.sent side.other) :=
    trails_receiver L htrails hback happroved hdelivers
  intro side'
  rcases World.eq_or_other side side' with rfl | rfl
  · simpa using hsender
  · simpa using hreceiver

theorem inStep_initial {initiator acceptor : SessionInner M}
    (h : Established initiator acceptor) :
    InStep (World.initial initiator acceptor) := by
  refine ⟨inLockstep_initial L h, ?_⟩
  rcases h with ⟨initiated, stapled, accepted⟩
  have hinitiator := initiate_born L initiated
  have hacceptor := acceptWith_born L accepted
  rcases hinitiator.send with ⟨g, held, hcreated⟩
  rcases hacceptor.send with ⟨g', held', hcreated'⟩
  have hfounded := founded_unused hinitiator.unused
  intro side
  cases side with
  | left =>
      refine
        { founded := hfounded
          frames := by
            intro f hf
            cases hf
          send := ⟨g, held, Nat.le_of_eq hcreated.epoch.symm, ?_⟩ }
      rcases hacceptor.recv with ⟨gr, m, heldr, ⟨w, hdecoded, hparsed⟩, hjoined⟩
      refine reached_of_half heldr (Nat.le_of_eq ?_)
      rw [hjoined.epoch, hfounded.staple _ stapled w hdecoded m hparsed,
        hcreated.epoch]
  | right =>
      refine
        { founded := founded_unused hacceptor.unused
          frames := by
            intro f hf
            cases hf
          send := ⟨g', held', Nat.le_of_eq hcreated'.epoch.symm, ?_⟩ }
      have hnone : reached initiator.core = 0 := by
        unfold reached Core.epoch
        rw [hinitiator.recv]
        rfl
      change reached initiator.core <= _
      rw [hnone]
      exact Nat.zero_le _

end

end Session
end TwoMlsPq
