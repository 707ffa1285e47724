import TwoMlsPq.Session.Birth

/-!
# One outstanding commit

A side commits to its send group only when the peer is known to have reached
its current epoch: the peer made a proposal there, or proved it with an
authenticated offer.  Whatever the network does to the frames between two
honest sessions, a send half is therefore never more than one epoch ahead of
the recv half it is applied to, and no staple arrives from the future.
-/

namespace TwoMlsPq
namespace Session

open Foundation Apq

section

variable {M : MlsRs}

/-!
## What one side knows of the other
-/

def reached (c : Core M) : Nat :=
  (c.epoch .recvClassical).getD 0

def MadeBy (bound : Nat) (m : M.Message) : Prop :=
  (M.description m).contentType = some .proposal ∧
    forall e, M.messageEpoch m = some e -> e <= bound

def LeftBehind (c : Core M) (m : M.Message) : Prop :=
  exists g e, c.half .sendClassical = some g ∧ M.messageEpoch m = some e ∧
    e < M.currentEpoch g

theorem MadeBy.mono {bound bound' : Nat} {m : M.Message}
    (h : MadeBy bound m) (hle : bound <= bound') :
    MadeBy bound' m :=
  ⟨h.1, fun e he => Nat.le_trans (h.2 e he) hle⟩

/-- The local part of the invariant: `bound` is what the peer has reached, and
`e₀`, `r₀` are where this side's halves were. -/
structure Behind (e₀ r₀ bound : Nat) (c : Core M) : Prop where
  send : exists g, c.half .sendClassical = some g ∧ e₀ <= M.currentEpoch g ∧
    M.currentEpoch g <= bound + 1
  recv : r₀ <= reached c
  mark : forall e, c.mark = some e -> e <= bound
  offered : forall o m, c.offered = some o -> o.proposal.parsed = some m ->
    MadeBy bound m
  queued : forall o m, c.queued = some o -> o.proposal.parsed = some m ->
    MadeBy bound m
  pending : forall u m, c.pending = some u -> u.2.parsed = some m ->
    MadeBy (reached c) m
  staple : forall st m, c.staple = some st -> st.tMessage = some m ->
    LeftBehind c m

def SameSend (c c' : Core M) : Prop :=
  forall g, c.half .sendClassical = some g ->
    exists g', c'.half .sendClassical = some g' ∧
      M.currentEpoch g' = M.currentEpoch g

theorem SameSend.of_eq {c c' : Core M}
    (h : c'.half .sendClassical = c.half .sendClassical) :
    SameSend c c' :=
  fun g held => ⟨g, h.trans held, rfl⟩

theorem LeftBehind.same {c c' : Core M} {m : M.Message}
    (h : LeftBehind c m) (hsend : SameSend c c') :
    LeftBehind c' m := by
  rcases h with ⟨g, e, held, hm, hlt⟩
  rcases hsend g held with ⟨g', held', hepoch⟩
  refine ⟨g', e, held', hm, ?_⟩
  rw [hepoch]
  exact hlt

structure SameSlots (c c' : Core M) : Prop where
  mark : c'.mark = c.mark
  offered : c'.offered = c.offered
  queued : c'.queued = c.queued
  pending : c'.pending = c.pending
  staple : c'.staple = c.staple

variable {e₀ r₀ bound : Nat} {c c' : Core M}

theorem Behind.keep (h : Behind e₀ r₀ bound c) (hsend : SameSend c c')
    (hrecv : reached c <= reached c') (hslots : SameSlots c c') :
    Behind e₀ r₀ bound c' where
  send := by
    rcases h.send with ⟨g, held, hge, hle⟩
    rcases hsend g held with ⟨g', held', hepoch⟩
    refine ⟨g', held', ?_, ?_⟩
    · rw [hepoch]
      exact hge
    · rw [hepoch]
      exact hle
  recv := Nat.le_trans h.recv hrecv
  mark := by
    rw [hslots.mark]
    exact h.mark
  offered := by
    rw [hslots.offered]
    exact h.offered
  queued := by
    rw [hslots.queued]
    exact h.queued
  pending := by
    intro u m hu hm
    rw [hslots.pending] at hu
    exact (h.pending u m hu hm).mono hrecv
  staple := by
    intro st m hst hm
    rw [hslots.staple] at hst
    exact (h.staple st m hst hm).same hsend

/-!
## Steps
-/

theorem reached_setHalf_of_ne {h : Half} {g : M.Group} (hne : h ≠ .recvClassical) :
    reached (c.setHalf h g) = reached c := by
  unfold reached Core.epoch
  rw [Core.half_setHalf_of_ne hne.symm]

theorem reached_setHalf {g g' : M.Group} (held : c.half .recvClassical = some g)
    (hle : M.currentEpoch g <= M.currentEpoch g') :
    reached c <= reached (c.setHalf .recvClassical g') := by
  unfold reached Core.epoch
  rw [Core.half_setHalf, held]
  exact hle

theorem Behind.setHalf {h : Half} {g g' : M.Group}
    (hc : Behind e₀ r₀ bound c) (held : c.half h = some g)
    (hne : h ≠ .sendClassical) (hle : M.currentEpoch g <= M.currentEpoch g') :
    Behind e₀ r₀ bound (c.setHalf h g') := by
  refine hc.keep (SameSend.of_eq (Core.half_setHalf_of_ne hne.symm)) ?_
    ⟨rfl, rfl, rfl, rfl, rfl⟩
  by_cases hh : h = .recvClassical
  · subst hh
    exact reached_setHalf held hle
  · exact Nat.le_of_eq (reached_setHalf_of_ne hh).symm

def Respects (bound : Nat) : Event M -> Prop
  | .peerCommit h m =>
      h = .sendClassical -> (M.description m).contentType = some .proposal
  | .ownCommit _ fold _ =>
      forall o m, fold = some o -> o.proposal.parsed = some m -> MadeBy bound m
  | .setOffered o =>
      forall offer m, o = some offer -> offer.proposal.parsed = some m ->
        MadeBy bound m
  | .setQueued o =>
      forall offer m, o = some offer -> offer.proposal.parsed = some m ->
        MadeBy bound m
  | .setMark m => MadeBy bound m
  | _ => True

theorem Behind.commit {fold : Option (PeerProposal M)} {g g' : M.Group}
    (hc : Behind e₀ r₀ bound c) (held : c.half .sendClassical = some g)
    (hlicensed : Licensed c g fold) (hadvanced : Advanced g g')
    (hfold : forall o m, fold = some o -> o.proposal.parsed = some m ->
      MadeBy bound m) :
    Behind e₀ r₀ bound (c.setHalf .sendClassical g') := by
  have hepoch : M.currentEpoch g <= bound := by
    cases fold with
    | none =>
        rcases hlicensed with ⟨mark, hmark, hle⟩
        exact Nat.le_trans hle (hc.mark mark hmark)
    | some o =>
        rcases hlicensed with ⟨m, hparsed, hm⟩
        exact (hfold o m rfl hparsed).2 _ hm
  rcases hc.send with ⟨g₁, held₁, hge, _⟩
  rw [held] at held₁
  cases held₁
  have hreached : reached (c.setHalf .sendClassical g') = reached c :=
    reached_setHalf_of_ne (by decide)
  refine
    { send := ⟨g', Core.half_setHalf .., ?_, ?_⟩
      recv := by rw [hreached]; exact hc.recv
      mark := hc.mark
      offered := hc.offered
      queued := hc.queued
      pending := by rw [hreached]; exact hc.pending
      staple := ?_ }
  · rw [hadvanced.epoch]
    omega
  · rw [hadvanced.epoch]
    omega
  · intro st m hst hm
    rcases hc.staple st m hst hm with ⟨g₂, e, held₂, he, hlt⟩
    rw [held] at held₂
    cases held₂
    refine ⟨g', e, Core.half_setHalf .., he, ?_⟩
    rw [hadvanced.epoch]
    omega

theorem Behind.step {e : Event M} (hc : Behind e₀ r₀ bound c)
    (hrespects : Respects bound e) (hstep : Step e c c') :
    Behind e₀ r₀ bound c' := by
  have hkeep : forall c'' : Core M, c''.half = c.half -> SameSlots c c'' ->
      Behind e₀ r₀ bound c'' := by
    intro c'' hhalf hslots
    refine hc.keep (SameSend.of_eq (by rw [hhalf])) ?_ hslots
    unfold reached Core.epoch
    exact Nat.le_of_eq (by rw [hhalf])
  cases hstep with
  | quiet hq =>
      refine hc.keep ?_ ?_ ?_
      · intro g held
        rcases hq.half_some held with ⟨g', held', hsame⟩
        exact ⟨g', held', hsame.epoch⟩
      · unfold reached
        exact Nat.le_of_eq (by rw [hq.epoch])
      · rw [hq.2]
        exact ⟨rfl, rfl, rfl, rfl, rfl⟩
  | peerCommit held idle kind applied =>
      rename_i h m g g'
      by_cases hh : h = .sendClassical
      · -- the peer's own frames hold no commit for our send group
        rw [hrespects hh] at kind
        cases kind
      · exact hc.setHalf held hh (by rw [applied.epoch]; omega)
  | applyRekey held initiated applied =>
      exact hc.setHalf held (by decide) (by rw [applied.epoch]; omega)
  | ownCommit held discharged licensed handoff applied =>
      exact hc.commit held licensed applied.toAdvanced hrespects
  | ownCommitPq held discharged handoff applied =>
      exact hc.setHalf held (by decide) (by rw [applied.epoch]; omega)
  | propose held introduces proposed =>
      rename_i h m identity g g'
      have hne : h ≠ .sendClassical := by
        rintro rfl
        exact introduces
      exact hc.setHalf held hne (Nat.le_of_eq proposed.epoch.symm)
  | joinRecv missing missingPq parsed joined joinedPq decoded =>
      refine hc.keep (SameSend.of_eq rfl) ?_ ⟨rfl, rfl, rfl, rfl, rfl⟩
      have hzero : reached c = 0 := by
        unfold reached Core.epoch
        rw [missing]
        rfl
      rw [hzero]
      exact Nat.zero_le _
  | createSendPq missing created =>
      exact hc.keep (SameSend.of_eq (Core.half_setHalf_of_ne (by decide)))
        (Nat.le_of_eq (reached_setHalf_of_ne (by decide)).symm) ⟨rfl, rfl, rfl, rfl, rfl⟩
  | joinRecvPq missing live initiated parsed joined =>
      rename_i g
      have hsend : (c.setHalf .recvPq g).half .sendClassical = c.half .sendClassical :=
        Core.half_setHalf_of_ne (by decide)
      have hrecv : reached (c.setHalf .recvPq g) = reached c :=
        reached_setHalf_of_ne (by decide)
      exact hc.keep (SameSend.of_eq hsend) (Nat.le_of_eq hrecv.symm)
        ⟨rfl, rfl, rfl, rfl, rfl⟩
  | setStaple fresh =>
      refine { hc with staple := ?_ }
      intro st m hst hm
      cases hst
      rcases fresh with ⟨cl, m', g, e, held, hparsed, he, hepoch, _, hform⟩
      have hmessage : m' = m := by
        rcases hform with rfl | ⟨pq, rfl⟩
        · exact Option.some.inj (hparsed.symm.trans hm)
        · exact Option.some.inj (hparsed.symm.trans hm)
      subst hmessage
      exact ⟨g, e, held, he, by omega⟩
  | envelopStaple bare =>
      refine { hc with staple := ?_ }
      intro st m hst hm
      cases hst
      cases hm
  | clearPending => exact { hc with pending := by intro u m hu; cases hu }
  | setPending staged =>
      refine { hc with pending := ?_ }
      intro u m hu hm
      cases hu
      rcases staged with ⟨m', g, hparsed, held, hepoch, hkind⟩
      cases Option.some.inj (hparsed.symm.trans hm)
      refine ⟨hkind, ?_⟩
      intro e he
      rw [hepoch] at he
      cases he
      change M.currentEpoch g <= reached c
      unfold reached Core.epoch
      rw [held]
      exact Nat.le_refl _
  | setOffered => exact { hc with offered := hrespects }
  | dequeue => exact { hc with queued := by intro o m ho; cases ho }
  | setQueued parsed accepted => exact { hc with queued := hrespects }
  | setMark held epoch kind =>
      refine { hc with mark := ?_ }
      intro e he
      cases he
      exact hrespects.2 _ epoch
  | clearOutbound => exact hkeep _ rfl ⟨rfl, rfl, rfl, rfl, rfl⟩
  | setOutbound repeats sealing => exact hkeep _ rfl ⟨rfl, rfl, rfl, rfl, rfl⟩
  | enlist room fresh => exact hkeep _ rfl ⟨rfl, rfl, rfl, rfl, rfl⟩
  | authorizeTheirs => exact hkeep _ rfl ⟨rfl, rfl, rfl, rfl, rfl⟩
  | commitTheirs => exact hkeep _ rfl ⟨rfl, rfl, rfl, rfl, rfl⟩
  | commitMine own => exact hkeep _ rfl ⟨rfl, rfl, rfl, rfl, rfl⟩
  | install staged => exact hkeep _ rfl ⟨rfl, rfl, rfl, rfl, rfl⟩
  | authMeta same => exact hkeep _ rfl ⟨rfl, rfl, rfl, rfl, rfl⟩
  | setAdopting => exact hkeep _ rfl ⟨rfl, rfl, rfl, rfl, rfl⟩
  | openRound opened => exact hkeep _ rfl ⟨rfl, rfl, rfl, rfl, rfl⟩
  | registerBootstrap registers => exact hkeep _ rfl ⟨rfl, rfl, rfl, rfl, rfl⟩
  | respond idle => exact hkeep _ rfl ⟨rfl, rfl, rfl, rfl, rfl⟩
  | closeRound => exact hkeep _ rfl ⟨rfl, rfl, rfl, rfl, rfl⟩
  | parkLeg live => exact hkeep _ rfl ⟨rfl, rfl, rfl, rfl, rfl⟩
  | clearSideBand => exact hkeep _ rfl ⟨rfl, rfl, rfl, rfl, rfl⟩
  | setOwed held heldPq tEpoch pqEpoch => exact hkeep _ rfl ⟨rfl, rfl, rfl, rfl, rfl⟩
  | clearOwed => exact hkeep _ rfl ⟨rfl, rfl, rfl, rfl, rfl⟩
  | setTurn => exact hkeep _ rfl ⟨rfl, rfl, rfl, rfl, rfl⟩
  | breakReceive => exact hkeep _ rfl ⟨rfl, rfl, rfl, rfl, rfl⟩
  | wedge => exact hkeep _ rfl ⟨rfl, rfl, rfl, rfl, rfl⟩

theorem Behind.path {A : Event M -> Prop} (hc : Behind e₀ r₀ bound c)
    (hA : forall e, A e -> Respects bound e) (hpath : Path A c c') :
    Behind e₀ r₀ bound c' :=
  hpath.invariant (fun e _ _ he hstep hI => hI.step (hA e he) hstep) hc

/-!
## Calls of an honest side
-/

def HonestOffer (bound : Nat) (f : Frame M) : Prop :=
  forall m, f.feeds .sendClassical m -> MadeBy bound m

theorem HonestOffer.offers {f : Frame M} {o : PeerProposal M} {m : M.Message}
    (h : HonestOffer bound f) (ho : f.offers o) (hm : o.proposal.parsed = some m) :
    MadeBy bound m := by
  apply h
  cases f with
  | message st proposal app => exact ⟨_, _, ho, hm⟩
  | _ => exact ho.elim

theorem respects_beside {e : Event M} (h : e.Beside) : Respects bound e := by
  cases e with
  | peerCommit h' m => exact h.elim
  | ownCommit h' fold identity =>
      intro o m ho
      rw [h.2] at ho
      cases ho
  | setOffered o => exact h.elim
  | setQueued o => exact h.elim
  | setMark m => exact h.elim
  | _ => exact True.intro

theorem respects_receive {f : Frame M} {e : Event M} (hf : HonestOffer bound f)
    (he : receiveEvents f e) :
    Respects bound e := by
  cases e with
  | peerCommit h m =>
      rintro rfl
      exact (hf m he).1
  | setOffered o =>
      rcases he with ⟨offer, rfl, hoffer⟩
      rintro _ m ⟨⟩ hm
      exact hf.offers hoffer hm
  | setMark m => exact hf m he
  | ownCommit h fold identity => exact he.elim
  | setQueued o => exact he.elim
  | _ => exact True.intro

theorem respects_prepare {e : Event M} (hc : Behind e₀ r₀ bound c)
    (he : prepareEvents c.queued e) :
    Respects bound e := by
  cases e with
  | ownCommit h fold identity =>
      rcases he with ⟨_, rfl⟩
      exact hc.queued
  | setOffered o =>
      cases he
      intro offer m ho
      cases ho
  | setQueued o =>
      cases he
      intro offer m ho
      cases ho
  | peerCommit h m => exact he.elim
  | setMark m => exact he.elim
  | _ => exact True.intro

theorem respects_queue {e : Event M} (hc : Behind e₀ r₀ bound c)
    (he : queueEvents c.offered e) :
    Respects bound e := by
  cases e with
  | peerCommit h m =>
      rcases he with ⟨_, offer, ho, hm⟩
      exact fun _ => (hc.offered offer m ho hm).1
  | setOffered o =>
      rcases he with rfl | rfl
      · intro offer m ho
        cases ho
      · exact hc.offered
  | setQueued o =>
      cases he
      exact hc.offered
  | ownCommit h fold identity => exact he.elim
  | setMark m => exact he.elim
  | _ => exact True.intro

theorem respects_call {call : Call M} {e : Event M} (hc : Behind e₀ r₀ bound c)
    (hdelivered : forall f, call.delivered = some f -> HonestOffer bound f)
    (he : call.events c e) :
    Respects bound e := by
  by_cases hmessages : call.Messages
  · cases call with
    | processIncoming f approval => exact respects_receive (hdelivered f rfl) he
    | prepareToEncrypt proposing rnd => exact respects_prepare hc he
    | queueProposal digest => exact respects_queue hc he
    | _ => exact hmessages.elim
  · exact respects_beside (events_beside hmessages he)

/-!
## Both directions
-/

/-- What `x` may rely on, when `y` receives what `x` sends. -/
structure OneAhead (x y : Core M) (sentX sentY : List (Frame M)) : Prop where
  behind : Behind 0 0 (reached y) x
  staples : forall st proposal app m,
    Frame.message st proposal app ∈ sentX -> st.tMessage = some m -> LeftBehind x m
  offers : forall f, f ∈ sentY -> HonestOffer (reached y) f

def InLockstep (w : World M) : Prop :=
  forall side, OneAhead (w.core side) (w.core side.other) (w.sent side)
    (w.sent side.other)

theorem LeftBehind.later {m : M.Message} {g g' : M.Group} (h : LeftBehind c m)
    (held : c.half .sendClassical = some g)
    (held' : c'.half .sendClassical = some g')
    (hle : M.currentEpoch g <= M.currentEpoch g') :
    LeftBehind c' m := by
  rcases h with ⟨g₁, e, held₁, hm, hlt⟩
  rw [held] at held₁
  cases held₁
  exact ⟨g', e, held', hm, Nat.lt_of_lt_of_le hlt hle⟩

theorem HonestOffer.mono {bound' : Nat} {f : Frame M} (h : HonestOffer bound f)
    (hle : bound <= bound') :
    HonestOffer bound' f :=
  fun m hm => (h m hm).mono hle

theorem Behind.later {bound' : Nat} (h : Behind e₀ r₀ bound c)
    (hle : bound <= bound') :
    Behind e₀ r₀ bound' c where
  send := by
    rcases h.send with ⟨g, held, hge, hbound⟩
    exact ⟨g, held, hge, by omega⟩
  recv := h.recv
  mark := fun e he => Nat.le_trans (h.mark e he) hle
  offered := fun o m ho hm => (h.offered o m ho hm).mono hle
  queued := fun o m ho hm => (h.queued o m ho hm).mono hle
  pending := h.pending
  staple := h.staple

theorem Behind.approved (h : Behind e₀ r₀ bound c) : ApprovedProposal c.queued :=
  fun o m ho hm => (h.queued o m ho hm).1

end

section

variable {M : MlsRs} (L : Lawful M)

include L

theorem oneAhead_call {call : Call M} {t : TwoMlsPqSession M} {y : Core M}
    {sentX sentY new : List (Frame M)}
    (hxy : OneAhead t.inner.core y sentX sentY)
    (hyx : OneAhead y t.inner.core sentY sentX)
    (hdelivered : forall f, call.delivered = some f -> f ∈ sentY)
    (hnew : forall f, f ∈ new -> EmittedBy t.inner.core f) :
    OneAhead (call.run.run t).2.inner.core y (sentX ++ new) sentY ∧
      OneAhead y (call.run.run t).2.inner.core sentY (sentX ++ new) := by
  rcases hxy.behind.send with ⟨g, held, _, hbound⟩
  -- remember where both halves were, so that the path shows they only advance
  have hstart : Behind (M.currentEpoch g) (reached t.inner.core) (reached y)
      t.inner.core :=
    { hxy.behind with
      send := ⟨g, held, Nat.le_refl _, hbound⟩
      recv := Nat.le_refl _ }
  have hend : Behind (M.currentEpoch g) (reached t.inner.core) (reached y)
      (call.run.run t).2.inner.core :=
    hstart.path
      (fun e he => respects_call hstart (fun f hf => hxy.offers f (hdelivered f hf)) he)
      (call_goes L call t hstart.approved)
  rcases hend.send with ⟨g', held', hge, hle⟩
  have hstaple : forall st proposal app m,
      Frame.message st proposal app ∈ sentX ++ new -> st.tMessage = some m ->
        LeftBehind t.inner.core m := by
    intro st proposal app m hmem hm
    rcases List.mem_append.mp hmem with hold | hfresh
    · exact hxy.staples st proposal app m hold hm
    · have hst := (hnew _ hfresh).message_inv.1
      exact hxy.behind.staple st m hst hm
  constructor
  · exact
      { behind := { hend with
          send := ⟨g', held', Nat.zero_le _, hle⟩
          recv := Nat.zero_le _ }
        staples := fun st proposal app m hmem hm =>
          (hstaple st proposal app m hmem hm).later held held' hge
        offers := hxy.offers }
  · refine
      { behind := hyx.behind.later hend.recv
        staples := hyx.staples
        offers := ?_ }
    intro f hmem
    rcases List.mem_append.mp hmem with hold | hfresh
    · exact (hyx.offers f hold).mono hend.recv
    · intro m hm
      cases f with
      | message st proposal app =>
          rcases hm with ⟨proposing, b, hproposal, hparsed⟩
          rcases (hnew _ hfresh).message_inv with ⟨_, ⟨update, hupdate, hpending⟩, _⟩
          rw [hproposal] at hupdate
          cases hupdate
          exact (hstart.pending _ m hpending hparsed).mono hend.recv
      | _ => exact hm.elim

theorem inLockstep_act {w : World M} {a : Action M} (h : InLockstep w)
    (ha : w.Calls a) :
    InLockstep (w.act a) := by
  rcases ha with ⟨hdelivers, side, call, rfl⟩
  have hback : OneAhead (w.core side.other) (w.core side) (w.sent side.other)
      (w.sent side) := by
    simpa using h side.other
  rcases oneAhead_call L (h side) hback hdelivers
    (fun f hf => World.emitted_handedOut L hf) with ⟨hxy, hyx⟩
  intro side'
  rcases World.eq_or_other side side' with rfl | rfl
  · simpa using hxy
  · simpa using hyx

omit L in
theorem behind_unused {g : M.Group} (h : Unused c)
    (held : c.half .sendClassical = some g) (hepoch : M.currentEpoch g = 1) :
    Behind 0 0 bound c where
  send := ⟨g, held, Nat.zero_le _, by omega⟩
  recv := Nat.zero_le _
  mark := by
    intro e he
    rw [h.mark] at he
    cases he
  offered := by
    intro o m ho
    rw [h.offered] at ho
    cases ho
  queued := by
    intro o m ho
    rw [h.queued] at ho
    cases ho
  pending := by
    intro u m hu
    rw [h.pending] at hu
    cases hu
  staple := by
    intro st m hst hm
    rcases h.staple with ⟨w, hw, _⟩
    rw [hw] at hst
    cases hst
    cases hm

omit L in
theorem oneAhead_unused {x y : Core M} {g : M.Group} (h : Unused x)
    (held : x.half .sendClassical = some g) (hepoch : M.currentEpoch g = 1) :
    OneAhead x y [] [] where
  behind := behind_unused h held hepoch
  staples := by
    intro st proposal app m hmem
    cases hmem
  offers := by
    intro f hmem
    cases hmem

theorem inLockstep_initial {initiator acceptor : SessionInner M}
    (h : Established initiator acceptor) :
    InLockstep (World.initial initiator acceptor) := by
  rcases h with ⟨initiated, stapled, accepted⟩
  have hinitiator := initiate_born L initiated
  have hacceptor := acceptWith_born L accepted
  rcases hinitiator.send with ⟨g, held, hcreated⟩
  rcases hacceptor.send with ⟨g', held', hcreated'⟩
  intro side
  cases side with
  | left => exact oneAhead_unused hinitiator.unused held hcreated.epoch
  | right => exact oneAhead_unused hacceptor.unused held' hcreated'.epoch

omit L in
/-- A commit from an epoch that was reached is skipped or applied. -/
theorem stapleEpochAction_reached {s : SessionInner M} {m : M.Message} {e : Nat}
    (hepoch : M.messageEpoch m = some e) (hle : e <= reached s.core) :
    stapleEpochAction s m ≠ .error .epochDesync ∧
      forall current, s.core.epoch .recvClassical = some current ->
        stapleEpochAction s m = .ok .skip ∨ stapleEpochAction s m = .ok .apply := by
  change e <= (s.epoch .recvClassical).getD 0 at hle
  change _ ∧ forall current, s.epoch .recvClassical = some current -> _
  unfold stapleEpochAction
  rw [hepoch]
  cases hcurrent : s.epoch .recvClassical with
  | none =>
      constructor
      · intro h
        cases h
      · intro current h
        cases h
  | some current =>
      rw [hcurrent] at hle
      change e <= current at hle
      dsimp only
      rcases Nat.lt_or_eq_of_le hle with hlt | rfl
      · rw [if_pos hlt]
        exact ⟨(by intro h; cases h), fun _ _ => Or.inl rfl⟩
      · rw [if_neg (Nat.lt_irrefl _), if_pos rfl]
        exact ⟨(by intro h; cases h), fun _ _ => Or.inr rfl⟩

/-- Between two honest sessions a send half is at most one epoch ahead of the
recv half that follows it, and every staple either was applied before or is
made for exactly the epoch its receiver is at. -/
theorem single_outstanding_commit {initiator acceptor : SessionInner M}
    (established : Established initiator acceptor) {w : World M}
    (run : Run World.act World.Calls (World.initial initiator acceptor) w)
    (side : Side) :
    (forall e, (w.core side).epoch .sendClassical = some e ->
      e <= reached (w.core side.other) + 1) ∧
    forall st proposal app m,
      Frame.message st proposal app ∈ w.sent side -> st.tMessage = some m ->
        stapleEpochAction (w.session side.other).inner m ≠ .error .epochDesync ∧
        forall current, (w.core side.other).epoch .recvClassical = some current ->
          stapleEpochAction (w.session side.other).inner m = .ok .skip ∨
            stapleEpochAction (w.session side.other).inner m = .ok .apply := by
  have hlockstep : InLockstep w :=
    run.invariant (fun _ _ h ha => inLockstep_act L h ha)
      (inLockstep_initial L established)
  have hside := hlockstep side
  rcases hside.behind.send with ⟨g, held, _, hle⟩
  refine ⟨?_, ?_⟩
  · intro e he
    unfold Core.epoch at he
    rw [held] at he
    cases he
    exact hle
  · intro st proposal app m hmem hm
    rcases hside.staples st proposal app m hmem hm with ⟨g', e, held', hepoch, hlt⟩
    rw [held] at held'
    cases held'
    have hreached : e <= reached (w.core side.other) := by omega
    exact stapleEpochAction_reached hepoch hreached

omit L in
/-- After the A.3 round the initiator has committed and its peer has applied
the staple. -/
theorem single_outstanding_commit_bootstrap :
    ((ReferencePair.world.play ReferencePair.bootstrap).core .left).epoch
        .sendClassical = some 2 ∧
      (forall e, ((ReferencePair.world.play ReferencePair.bootstrap).core
          .left).epoch .sendClassical = some e ->
        e <= reached ((ReferencePair.world.play ReferencePair.bootstrap).core
          Side.left.other) + 1) :=
  ⟨by decide +kernel,
    (single_outstanding_commit Reference.lawful ReferencePair.established
      ReferencePair.bootstrap_calls .left).1⟩

end

end Session
end TwoMlsPq
