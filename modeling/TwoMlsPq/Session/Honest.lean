import TwoMlsPq.Session.Birth
import TwoMlsPq.Session.HalfSteps

/-!
# Honest peers

What an honest session puts into the proposal section of a frame is a proposal:
it was made by its own `propose_update`.  The fact needs no bound on epochs and
survives restarts on either side, so it holds along every run of two honest
sessions.  Against anybody, only what the host has approved is known to be a
proposal.
-/

namespace TwoMlsPq
namespace Session

open Foundation Apq

section

variable {M : MlsRs}

def IsProposal (m : M.Message) : Prop :=
  (M.description m).contentType = some .proposal

def Blob.Proposes (b : Blob M) : Prop :=
  forall m, b.parsed = some m -> IsProposal m

/-!
## What the host approved
-/

def Approved (c : Core M) : Prop :=
  ApprovedProposal c.queued

theorem approved_step {e : Event M} {c c' : Core M} (hstep : Step e c c')
    (hc : Approved c) :
    Approved c' := by
  cases hstep with
  | quiet hq =>
      unfold Approved
      rw [hq.2]
      exact hc
  | dequeue =>
      intro o m ho
      cases ho
  | setQueued parsed accepted =>
      rename_i p m
      intro o m' ho hm
      cases ho
      rcases accepted with ⟨_, _, _, hkind⟩
      rw [parsed] at hm
      cases hm
      exact hkind
  | _ => exact hc

theorem approved_recovered {c : Core M} (h : Recovered (fun _ => Approved) c) :
    Approved c := by
  cases h with
  | checkpoint h => exact h
  | spliced h h' => exact h

theorem approved_restored {c r : Core M} (h : Restored c r) (hc : Approved c) :
    Approved r := by
  unfold Approved
  rw [h.2]
  exact hc

theorem approved_unused {c : Core M} (h : Unused c) : Approved c := by
  intro o m ho
  rw [h.queued] at ho
  cases ho

theorem approved_host (L : Lawful M) {t : TwoMlsPqSession M} {a : HostAction M}
    (h : Durable Approved t) :
    Durable Approved (t.host a) := by
  cases a with
  | call call =>
      exact h.advance (call_advances L call t h.now)
        fun _ _ _ _ hstep hc => approved_step hstep hc
  | restart =>
      exact h.restarted L (fun _ => approved_recovered)
        fun _ _ => approved_restored

/-!
## What an honest side makes
-/

structure OnlyProposals (c : Core M) : Prop where
  pending : forall u, c.pending = some u -> Blob.Proposes u.2
  offered : forall o, c.offered = some o -> Blob.Proposes o.proposal
  queued : Approved c

/-- The events an honest peer's frames can cause. -/
def Event.Honest : Event M -> Prop
  | .peerCommit h m => h ≠ .sendPq ∧ (h = .sendClassical -> IsProposal m)
  | .setOffered o => forall offer, o = some offer -> Blob.Proposes offer.proposal
  | _ => True

/-- What a frame holds for the send group of its receiver is a proposal. -/
def Frame.Honest (f : Frame M) : Prop :=
  forall m, f.feeds .sendClassical m -> IsProposal m

theorem onlyProposals_step {e : Event M} {c c' : Core M} (he : e.Honest)
    (hstep : Step e c c') (hc : OnlyProposals c) :
    OnlyProposals c' := by
  have hqueued : Approved c' := approved_step hstep hc.queued
  cases hstep with
  | quiet hq =>
      rw [hq.2] at hqueued ⊢
      exact { pending := hc.pending, offered := hc.offered, queued := hqueued }
  | clearPending =>
      exact
        { pending := by intro u hu; cases hu
          offered := hc.offered
          queued := hqueued }
  | setPending staged =>
      refine { pending := ?_, offered := hc.offered, queued := hqueued }
      intro u hu m hm
      cases hu
      rcases staged with ⟨m', g, hparsed, _, _, hkind⟩
      rw [hparsed] at hm
      cases hm
      exact hkind
  | setOffered => exact { pending := hc.pending, offered := he, queued := hqueued }
  | _ => exact { pending := hc.pending, offered := hc.offered, queued := hqueued }

theorem onlyProposals_recovered {c : Core M}
    (h : Recovered (fun _ => OnlyProposals) c) :
    OnlyProposals c := by
  cases h with
  | checkpoint h => exact h
  | spliced h h' =>
      exact { pending := h.pending, offered := h.offered, queued := h.queued }

theorem onlyProposals_restored {c r : Core M} (h : Restored c r)
    (hc : OnlyProposals c) :
    OnlyProposals r := by
  rw [h.2]
  exact { pending := hc.pending, offered := hc.offered, queued := hc.queued }

theorem onlyProposals_unused {c : Core M} (h : Unused c) : OnlyProposals c where
  pending := by
    intro u hu
    rw [h.pending] at hu
    cases hu
  offered := by
    intro o ho
    rw [h.offered] at ho
    cases ho
  queued := approved_unused h

/-!
## The calls of a side with an honest peer
-/

theorem Frame.Honest.offers {f : Frame M} {o : PeerProposal M} (h : f.Honest)
    (ho : f.offers o) :
    Blob.Proposes o.proposal := by
  intro m hm
  apply h
  cases f with
  | message st proposal app => exact ⟨_, _, ho, hm⟩
  | _ => exact ho.elim

theorem honest_receive {f : Frame M} {e : Event M} (hf : f.Honest)
    (he : receiveEvents f e) :
    e.Honest := by
  cases e with
  | peerCommit h m =>
      refine ⟨?_, ?_⟩
      · rintro rfl
        cases f <;> exact he
      · rintro rfl
        exact hf m he
  | setOffered o =>
      rcases he with ⟨offer, rfl, hoffer⟩
      rintro _ ⟨⟩
      exact hf.offers hoffer
  | _ => exact True.intro

theorem honest_prepare {queued : Option (PeerProposal M)} {e : Event M}
    (he : prepareEvents queued e) :
    e.Honest := by
  cases e with
  | peerCommit h m => exact he.elim
  | setOffered o =>
      cases he
      intro offer ho
      cases ho
  | _ => exact True.intro

theorem honest_queue {c : Core M} {e : Event M} (hc : OnlyProposals c)
    (he : queueEvents c.offered e) :
    e.Honest := by
  cases e with
  | peerCommit h m =>
      rcases he with ⟨rfl, offer, ho, hm⟩
      exact ⟨by decide, fun _ => hc.offered offer ho m hm⟩
  | setOffered o =>
      rcases he with rfl | rfl
      · intro offer ho
        cases ho
      · exact hc.offered
  | _ => exact True.intro

theorem honest_beside {e : Event M} (h : e.Beside) : e.Honest := by
  cases e with
  | peerCommit h' m => exact h.elim
  | setOffered o => exact h.elim
  | _ => exact True.intro

theorem honest_call {call : Call M} {c : Core M} {e : Event M}
    (hc : OnlyProposals c)
    (hdelivered : forall f, call.delivered = some f -> f.Honest)
    (he : call.events c e) :
    e.Honest := by
  by_cases hmessages : call.Messages
  · cases call with
    | processIncoming f approval => exact honest_receive (hdelivered f rfl) he
    | prepareToEncrypt proposing rnd => exact honest_prepare he
    | queueProposal digest => exact honest_queue hc he
    | _ => exact hmessages.elim
  · exact honest_beside (events_beside hmessages he)

/-!
## Runs with restarts
-/

/-- Both sides of a world make and keep only proposals. -/
structure HonestWorld (w : World M) : Prop where
  sessions : forall side, Durable OnlyProposals (w.session side)
  frames : forall side f, f ∈ w.sent side -> f.Honest

theorem frameHonest_emitted {c : Core M} {f : Frame M} (hc : OnlyProposals c)
    (hf : EmittedBy c f) :
    f.Honest := by
  intro m hm
  cases f with
  | message st proposal app =>
      rcases hm with ⟨proposing, b, rfl, hparsed⟩
      rcases hf.message_inv with ⟨_, ⟨update, hupdate, hpending⟩, _⟩
      cases hupdate
      exact hc.pending _ hpending m hparsed
  | _ => exact hm.elim

theorem HonestWorld.events {w : World M} (h : HonestWorld w) {side : Side}
    {call : Call M} (hdelivers : w.Delivers (.call side call)) {e : Event M}
    (he : call.events (w.core side) e) :
    e.Honest :=
  honest_call (h.sessions side).now
    (fun f hf => h.frames side.other f (hdelivers f hf)) he

theorem HonestWorld.durable (L : Lawful M) {I : Core M -> Prop} {w : World M}
    {a : Action M} (h : HonestWorld w) (ha : w.Delivers a)
    (hI : forall side, Durable I (w.session side))
    (hstep : forall e c c', e.Honest -> Step e c c' -> I c -> I c')
    (hrecovered : forall c, Recovered (fun _ => I) c -> I c)
    (hrestored : forall c r, Restored c r -> I c -> I r) (side : Side) :
    Durable I ((w.act a).session side) := by
  cases a with
  | call actor call =>
      rcases World.eq_or_other actor side with rfl | rfl
      · have hadvances :=
          call_advances L call (w.session side) (h.sessions side).now.queued
        have hnew := (hI side).advance hadvances fun e c c' he hs hc =>
          hstep e c c' (h.events ha he) hs hc
        simpa [World.act] using hnew
      · simpa [World.act, Function.update_of_ne (World.other_ne actor)] using
          hI actor.other
  | restore actor =>
      rcases World.eq_or_other actor side with rfl | rfl
      · simpa [World.act] using (hI side).restarted L hrecovered hrestored
      · simpa [World.act, Function.update_of_ne (World.other_ne actor)] using
          hI actor.other

theorem honestWorld_act (L : Lawful M) {w : World M} {a : Action M}
    (h : HonestWorld w) (ha : w.Delivers a) :
    HonestWorld (w.act a) where
  sessions := h.durable L ha h.sessions (fun _ _ _ => onlyProposals_step)
    (fun _ => onlyProposals_recovered) fun _ _ => onlyProposals_restored
  frames := by
    intro side f hf
    cases a with
    | restore actor => exact h.frames side f hf
    | call actor call =>
        rcases World.eq_or_other actor side with rfl | rfl
        · rw [World.sent_call] at hf
          rcases List.mem_append.mp hf with hold | hnew
          · exact h.frames side f hold
          · exact frameHonest_emitted (h.sessions side).now
              (World.emitted_handedOut L hnew)
        · rw [World.sent_call_other] at hf
          exact h.frames actor.other f hf

theorem durable_initial {initiator acceptor : SessionInner M} {I : Core M -> Prop}
    (hinitiator : I initiator.core) (hacceptor : I acceptor.core) (side : Side) :
    Durable I ((World.initial initiator acceptor).session side) := by
  cases side with
  | left => exact Durable.fresh hinitiator
  | right => exact Durable.fresh hacceptor

theorem honestWorld_initial (L : Lawful M) {initiator acceptor : SessionInner M}
    (h : Established initiator acceptor) :
    HonestWorld (World.initial initiator acceptor) where
  sessions :=
    durable_initial (onlyProposals_unused (h.born.1.unused L))
      (onlyProposals_unused (h.born.2.unused L))
  frames := by
    intro side f hf
    cases hf

end

end Session
end TwoMlsPq
