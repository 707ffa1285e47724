import TwoMlsPq.Foundation.Journal
import TwoMlsPq.Session.LedgerWindows

/-!
# What a restart comes back to

The sink is a journal of the session: each blob shows the session as it was when the
blob was encoded, and these sessions and the present one are a line of descent.  A
restore that succeeds returns to the session the newest blob shows, so a restart cuts
the line back and never forks it.
-/

namespace TwoMlsPq
namespace Session

open Foundation Apq

section

variable {M : MlsRs}

/-!
## Descent
-/

structure Lasts (I : SessionInner M -> Prop) : Prop where
  bodies : Bodies I
  counted : forall s, I s -> I { s with stateSeq := s.stateSeq + 1 }
  reborn : forall s₀ s, I s₀ -> Reborn s₀ s -> I s

/-- What became of `s₀`, whatever was called and however often it was restored. -/
def Descends (s₀ s : SessionInner M) : Prop :=
  forall I : SessionInner M -> Prop, Lasts I -> I s₀ -> I s

theorem Descends.refl (s : SessionInner M) : Descends s s :=
  fun _ _ hs => hs

theorem Descends.trans {s₀ s s' : SessionInner M} (h : Descends s₀ s)
    (h' : Descends s s') : Descends s₀ s' :=
  fun I hI hs => h' I hI (h I hI hs)

theorem Moved.descends {s s' : SessionInner M} (h : Moved s s') : Descends s s' :=
  fun _ hI hs => hI.bodies.moved h hs

theorem descends_counted (s : SessionInner M) :
    Descends s { s with stateSeq := s.stateSeq + 1 } :=
  fun _ hI hs => hI.counted s hs

theorem Reborn.descends {s₀ s : SessionInner M} (h : Reborn s₀ s) : Descends s₀ s :=
  fun _ hI hs => hI.reborn s₀ s hs h

theorem lasts_ofBooks (L : Lawful M) {J : Books -> Prop}
    (hstep : forall b b', BookStep b b' -> J b -> J b') :
    Lasts fun s : SessionInner M => J s.books where
  bodies := bodies_ofBooks L hstep
  counted := fun _ hs => hstep _ _ BookStep.count hs
  reborn := fun _ _ hs hborn => books_reborn hstep hborn hs

theorem Descends.books (L : Lawful M) {s₀ s : SessionInner M} (h : Descends s₀ s) :
    BookPath s₀.books s.books :=
  h (fun s => BookPath s₀.books s.books)
    (lasts_ofBooks L fun _ _ hstep hpath => hpath.tail hstep) Relation.ReflTransGen.refl

theorem Descends.epoch (L : Lawful M) {s₀ s : SessionInner M} (h : Descends s₀ s)
    (half : Half) : Later (s₀.epoch half) (s.epoch half) :=
  (h.books L).later half

theorem Descends.counter (L : Lawful M) {s₀ s : SessionInner M} (h : Descends s₀ s) :
    s₀.stateSeq <= s.stateSeq :=
  (h.books L).counter

/-!
## The journal
-/

structure Shows (p : Push M) (s : SessionInner M) : Prop where
  seq : s.stateSeq = p.seq
  pictures : Pictures s p.archive
  archived : Archived p.kind s.core p.archive

/-- A blob is newer than those with a smaller number; a Checkpoint is newer also than
a blob with the same number. -/
def Supersedes (q p : Push M) : Prop :=
  q.seq < p.seq ∨ q.seq = p.seq ∧ p.kind = .checkpoint

theorem Supersedes.le {q p : Push M} (h : Supersedes q p) : q.seq <= p.seq := by
  rcases h with hlt | ⟨heq, _⟩
  · exact Nat.le_of_lt hlt
  · exact Nat.le_of_eq heq

/-- No blob carries the last number the counter reaches. -/
def Unexhausted (pushed : List (Push M)) : Prop :=
  forall p, p ∈ pushed -> p.seq < maxSeq

theorem Unexhausted.before {older : List (Push M)} {p : Push M}
    (h : Unexhausted (older ++ [p])) : Unexhausted older :=
  fun q hq => h q (List.mem_append_left _ hq)

/-- What the sink was given, in order, and the sessions it shows. -/
structure Recorded (s : SessionInner M) (pushed : List (Push M))
    (shown : List (SessionInner M)) : Prop where
  journal : Journal Shows Descends pushed shown s
  ordered : pushed.Pairwise Supersedes

namespace Recorded

variable {s s' : SessionInner M} {pushed : List (Push M)} {shown : List (SessionInner M)}

theorem descend (h : Recorded s pushed shown) (hs : Descends s s') :
    Recorded s' pushed shown where
  journal := h.journal.move (fun _ _ _ h h' => h.trans h') hs
  ordered := h.ordered

theorem seq_le (L : Lawful M) (h : Recorded s pushed shown) {p : Push M}
    (hp : p ∈ pushed) : p.seq <= s.stateSeq := by
  rcases exists_shown h.journal.shows hp with ⟨s₀, hs₀, hshows⟩
  rw [<- hshows.seq]
  exact (h.journal.now_after hs₀).counter L

theorem push (h : Recorded s pushed shown) {p : Push M} (hshows : Shows p s)
    (hnewer : forall q, q ∈ pushed -> Supersedes q p) :
    Recorded s (pushed ++ [p]) (shown ++ [s]) where
  journal := h.journal.write Descends.refl hshows
  ordered := by
    refine List.pairwise_append.mpr ⟨h.ordered, List.pairwise_singleton _ _, ?_⟩
    intro q hq p' hp'
    rw [List.mem_singleton.mp hp']
    exact hnewer q hq

end Recorded

/-!
## Restoring
-/

theorem latest_same (older : List (Push M)) (p : Push M) :
    latest p.kind (older ++ [p]) = some p.archive := by
  unfold latest
  rw [List.filter_append]
  simp

theorem latest_other (kind : BlobKind) (older : List (Push M)) {p : Push M}
    (h : p.kind ≠ kind) : latest kind (older ++ [p]) = latest kind older := by
  unfold latest
  rw [List.filter_append]
  simp [h]

theorem reconcile_checkpoint {core : Option (Archive M)} {ck : Archive M}
    (h : forall c, core = some c -> c.wire.stateSeq <= ck.wire.stateSeq) :
    reconcilePersisted core (some ck) = .ok ck := by
  unfold reconcilePersisted
  cases core with
  | none => rfl
  | some c => exact if_pos (h c rfl)

def Archive.over (core ck : Archive M) (recv : Option (GroupEntry M)) : Archive M :=
  { core with
    wire := { core.wire with
      sendGroup := { core.wire.sendGroup with pq := ck.wire.sendGroup.pq }
      recvGroup := recv } }

theorem reconcile_core {core ck a : Archive M}
    (hlt : ¬ core.wire.stateSeq <= ck.wire.stateSeq)
    (h : reconcilePersisted (some core) (some ck) = .ok a) :
    core.wire.sendPqEpoch = ck.wire.sendPqEpoch ∧
      core.wire.recvPqEpoch = ck.wire.recvPqEpoch ∧
        exists recv, mergeRecv core.wire.recvGroup ck.wire.recvGroup = .ok recv ∧
          a = core.over ck recv := by
  unfold reconcilePersisted at h
  dsimp only at h
  rw [if_neg hlt] at h
  split at h
  next => cases h
  next hmanifest =>
    push Not at hmanifest
    cases hmerged : mergeRecv core.wire.recvGroup ck.wire.recvGroup with
    | error e =>
        rw [hmerged] at h
        cases h
    | ok recv =>
        rw [hmerged] at h
        cases h
        exact ⟨hmanifest.1, hmanifest.2, recv, rfl, rfl⟩

theorem Shows.wireSeq {p : Push M} {s : SessionInner M} (h : Shows p s) :
    p.archive.wire.stateSeq = p.seq :=
  h.pictures.stateSeq.trans h.seq

/-- A restore that succeeds returns to what the newest blob shows. -/
theorem restore_newest (L : Lawful M) {older : List (Push M)} {p : Push M}
    {before : List (SessionInner M)} {s₀ r : SessionInner M}
    (holder : List.Forall₂ Shows older before) (hshows : Shows p s₀)
    (hnewer : forall q, q ∈ older -> Supersedes q p)
    (h : restore (older ++ [p]) = .ok r) : Reborn s₀ r := by
  have hlatest := latest_same older p
  have harchived := hshows.archived
  unfold restore restoreInner at h
  cases hkind : p.kind with
  | checkpoint =>
      have hother := latest_other .core older (p := p) (by rw [hkind]; decide)
      rw [hkind] at hlatest harchived
      have hchecked : forall c, latest .core older = some c ->
          c.wire.stateSeq <= p.archive.wire.stateSeq := by
        intro c hcore
        rcases latest_mem hcore with ⟨q, hq, _, rfl⟩
        rcases exists_shown holder hq with ⟨s₁, _, hshows₁⟩
        rw [hshows₁.wireSeq, hshows.wireSeq]
        exact (hnewer q hq).le
      rw [hlatest, hother, reconcile_checkpoint hchecked] at h
      exact opened_reborn L hshows.pictures harchived h
  | core =>
      have hother := latest_other .checkpoint older (p := p) (by rw [hkind]; decide)
      rw [hkind] at hlatest harchived
      rw [hlatest, hother] at h
      cases hck : latest .checkpoint older with
      | none =>
          rw [hck] at h
          cases h
      | some ck =>
          rcases latest_mem hck with ⟨q, hq, hqkind, rfl⟩
          rcases exists_shown holder hq with ⟨s₁, _, hshows₁⟩
          have hother₁ := hshows₁.archived
          rw [hqkind] at hother₁
          have hlt : ¬ p.archive.wire.stateSeq <= q.archive.wire.stateSeq := by
            rw [hshows₁.wireSeq, hshows.wireSeq]
            rcases hnewer q hq with hlt | ⟨_, hcheckpoint⟩
            · exact Nat.not_le_of_lt hlt
            · rw [hkind] at hcheckpoint
              cases hcheckpoint
          rw [hck] at h
          cases hreconciled : reconcilePersisted (some p.archive) (some q.archive) with
          | error e =>
              rw [hreconciled] at h
              cases h
          | ok a =>
              rw [hreconciled] at h
              rcases reconcile_core hlt hreconciled with
                ⟨hsend, hrecv, recv, hmerged, rfl⟩
              exact merged_reborn L hshows.pictures harchived hother₁ hsend hrecv hmerged h

/-- The journal of a session, as long as its counter has not run out; it begins with
what was shown `first`. -/
def Journaled (first : List (SessionInner M)) (s : SessionInner M)
    (pushed : List (Push M)) : Prop :=
  Unexhausted pushed -> exists more, Recorded s pushed (first ++ more)

def Fresh (first : List (SessionInner M)) (s : SessionInner M)
    (pushed : List (Push M)) : Prop :=
  Unexhausted pushed ->
    (exists more, Recorded s pushed (first ++ more)) ∧
      forall p, p ∈ pushed -> p.seq < s.stateSeq

section

variable (L : Lawful M)
include L

theorem encodeBlob_shows {kind : BlobKind} {s s' : SessionInner M} {a : Archive M}
    (h : (encodeBlob kind).run s = (.ok a, s')) :
    Shows { seq := s'.stateSeq, kind := kind, archive := a } s' where
  seq := rfl
  pictures := encodeBlob_pictures h
  archived := encodeBlob_archived L h

omit L in
theorem encodeBlob_moved {kind : BlobKind} {s s' : SessionInner M} {a : Archive M}
    (h : (encodeBlob kind).run s = (.ok a, s')) : Moved s s' := by
  intro I hI hs
  have hkept := hI.encodes kind s hs
  rw [h] at hkept
  exact hkept

theorem Recorded.pushed {first more : List (SessionInner M)} {s s' : SessionInner M}
    {pushed : List (Push M)} {kind : BlobKind} {a : Archive M}
    (h : Recorded s pushed (first ++ more))
    (hrun : (encodeBlob kind).run s = (.ok a, s'))
    (hnewer : forall q, q ∈ pushed ->
      Supersedes q { seq := s'.stateSeq, kind := kind, archive := a }) :
    exists more', Recorded s' (pushed ++ [{ seq := s'.stateSeq, kind := kind, archive := a }])
      (first ++ more') := by
  refine ⟨more ++ [s'], ?_⟩
  rw [<- List.append_assoc]
  exact (h.descend (encodeBlob_moved hrun).descends).push (encodeBlob_shows L hrun) hnewer

theorem journaled_carries (first : List (SessionInner M)) :
    Carries (Journaled first) (Fresh first) where
  unbumped := fun pushed => by
    refine (Bodies.ofMoved fun s s' hmoved h hunexhausted => ?_).toUnbumped
    rcases h hunexhausted with ⟨more, hrecorded⟩
    exact ⟨more, hrecorded.descend hmoved.descends⟩
  bodiesRipe := fun pushed => Bodies.ofMoved fun s s' hmoved h hunexhausted => by
    rcases h hunexhausted with ⟨⟨more, hrecorded⟩, hbelow⟩
    refine ⟨⟨more, hrecorded.descend hmoved.descends⟩, fun p hp => ?_⟩
    exact Nat.lt_of_lt_of_le (hbelow p hp) (hmoved.descends.counter L)
  counts := fun s pushed h _ hunexhausted => by
    rcases h hunexhausted with ⟨more, hrecorded⟩
    refine ⟨⟨more, hrecorded.descend (descends_counted s)⟩, fun p hp => ?_⟩
    exact Nat.lt_succ_of_le (hrecorded.seq_le L hp)
  exhausts := fun s pushed h hspent hunexhausted =>
    ⟨h hunexhausted, fun p hp =>
      Nat.lt_of_lt_of_le (hunexhausted p hp) (Nat.le_of_not_lt hspent)⟩
  unripe := fun _ _ h hunexhausted => (h hunexhausted).1
  pushes := fun kind s s' a pushed h hrun hunexhausted => by
    rcases h hunexhausted.before with ⟨⟨more, hrecorded⟩, hbelow⟩
    have hdescends := (encodeBlob_moved hrun).descends
    refine hrecorded.pushed L hrun fun q hq => ?_
    exact Or.inl (Nat.lt_of_lt_of_le (hbelow q hq) (hdescends.counter L))
  checkpoints := fun s s' a pushed h hrun hunexhausted => by
    rcases h hunexhausted.before with ⟨more, hrecorded⟩
    have hrecorded' := hrecorded.descend (encodeBlob_moved hrun).descends
    refine hrecorded.pushed L hrun fun q hq => ?_
    rcases Nat.lt_or_eq_of_le (hrecorded'.seq_le L hq) with hlt | heq
    · exact Or.inl hlt
    · exact Or.inr ⟨heq, rfl⟩

theorem Recorded.restored {s r : SessionInner M} {pushed : List (Push M)}
    {shown : List (SessionInner M)} (h : Recorded s pushed shown)
    (hrestore : restore pushed = .ok r) :
    exists before s₀, shown = before ++ [s₀] ∧ Reborn s₀ r := by
  rcases List.eq_nil_or_concat pushed with rfl | ⟨older, p, rfl⟩
  · cases hrestore
  · rw [List.concat_eq_append] at h hrestore
    rcases h.journal.newest with ⟨before, s₀, rfl, hshows, holder⟩
    refine ⟨before, s₀, rfl, restore_newest L holder hshows ?_ hrestore⟩
    intro q hq
    exact (List.pairwise_append.mp h.ordered).2.2 q hq p (List.mem_singleton_self p)

theorem Recorded.resumed {s r : SessionInner M} {pushed : List (Push M)}
    {shown : List (SessionInner M)} (h : Recorded s pushed shown)
    (hrestore : restore pushed = .ok r) : Recorded r pushed shown := by
  rcases h.restored L hrestore with ⟨before, s₀, rfl, hreborn⟩
  exact
    { journal := h.journal.resume (fun _ _ _ h h' => h.trans h') hreborn.descends
      ordered := h.ordered }

theorem journaled_restarted {first : List (SessionInner M)} {t : TwoMlsPqSession M}
    (h : Carried (Journaled first) t) : Carried (Journaled first) t.restarted := by
  unfold TwoMlsPqSession.restarted
  cases hrestore : restore t.pushed with
  | error e => exact h
  | ok r =>
      intro hunexhausted
      rcases h hunexhausted with ⟨more, hrecorded⟩
      exact ⟨more, hrecorded.resumed L hrestore⟩

theorem journaled_reopened {first : List (SessionInner M)} {t : TwoMlsPqSession M}
    (h : Carried (Journaled first) t) : Carried (Journaled first) t.reopened := by
  unfold TwoMlsPqSession.reopened
  have hencoded :=
    ((journaled_carries L first).unbumped t.pushed).encodes .checkpoint t.inner h
  rcases hrun : (encodeBlob .checkpoint).run t.inner with ⟨r, s⟩
  rw [hrun] at hencoded
  cases r with
  | error e => exact hencoded
  | ok a =>
      dsimp only
      cases hopened : sessionFromWire a with
      | error e => exact hencoded
      | ok s' =>
          intro hunexhausted
          rcases hencoded hunexhausted with ⟨more, hrecorded⟩
          have hreborn := opened_reborn L (encodeBlob_pictures hrun)
            (encodeBlob_archived L hrun) hopened
          exact ⟨more, hrecorded.descend hreborn.descends⟩

theorem journaled_run {first : List (SessionInner M)} {t t' : TwoMlsPqSession M}
    (h : Carried (Journaled first) t)
    (run : Run TwoMlsPqSession.live (fun _ _ => True) t t') :
    Carried (Journaled first) t' :=
  run.invariant (fun _ a h _ =>
    (journaled_carries L first).live (fun _ => journaled_restarted L)
      (fun _ => journaled_reopened L) a h) h

omit L in
theorem run_restarted {t u : TwoMlsPqSession M}
    (run : Run TwoMlsPqSession.live (fun _ _ => True) t u) :
    Run TwoMlsPqSession.live (fun _ _ => True) t u.restarted :=
  Run.step (a := LifeAction.host (HostAction.restart (M := M))) run True.intro

theorem journaled_life {s : SessionInner M} {t : TwoMlsPqSession M}
    (life : Run TwoMlsPqSession.live (fun _ _ => True) (TwoMlsPqSession.fresh s) t) :
    Carried (Journaled []) t :=
  journaled_run L
    (fun _ => ⟨[], { journal := Journal.blank s, ordered := List.Pairwise.nil }⟩) life

/-- Each blob shows the session it was encoded from; the books of these sessions and
of the present one follow from one another, in order; and a restore that succeeds
returns to the session of the newest blob. -/
theorem restart_returns_to_newest_blob {s : SessionInner M} {t : TwoMlsPqSession M}
    (life : Run TwoMlsPqSession.live (fun _ _ => True) (TwoMlsPqSession.fresh s) t)
    (unexhausted : Unexhausted t.pushed) :
    exists shown : List (SessionInner M),
      List.Forall₂ Shows t.pushed shown ∧ t.pushed.Pairwise Supersedes ∧
        (shown ++ [t.inner]).Pairwise (fun a b => BookPath a.books b.books) ∧
          forall r, restore t.pushed = .ok r ->
            exists s₀, shown.getLast? = some s₀ ∧ Reborn s₀ r := by
  rcases journaled_life L life unexhausted with ⟨shown, hrecorded⟩
  refine ⟨shown, hrecorded.journal.shows, hrecorded.ordered, ?_, fun r hrestore => ?_⟩
  · exact hrecorded.journal.line.imp fun hdescends => hdescends.books L
  · rcases hrecorded.restored L hrestore with ⟨before, s₀, rfl, hreborn⟩
    exact ⟨s₀, List.getLast?_concat, hreborn⟩

end

end

namespace ReferencePair

def restartedSession : TwoMlsPqSession Reference.mls :=
  greetedSession.restarted

theorem restarted_run :
    Run TwoMlsPqSession.live (fun _ _ => True) (TwoMlsPqSession.fresh initiator)
      restartedSession :=
  run_restarted greeted_run

theorem restarted_states :
    restartedSession.pushed.all (fun p => decide (p.seq < maxSeq)) = true ∧
      (restore restartedSession.pushed).toOption.isSome = true := by
  decide +kernel

theorem restarted_unexhausted : Unexhausted restartedSession.pushed := by
  intro p hp
  exact of_decide_eq_true (List.all_eq_true.mp restarted_states.1 p hp)

end ReferencePair

theorem restarted_initiator_returns :
    exists shown r s₀, List.Forall₂ Shows ReferencePair.restartedSession.pushed shown ∧
      restore ReferencePair.restartedSession.pushed = .ok r ∧
        shown.getLast? = some s₀ ∧ Reborn s₀ r := by
  rcases restart_returns_to_newest_blob Reference.lawful ReferencePair.restarted_run
    ReferencePair.restarted_unexhausted with ⟨shown, hshows, _, _, hrestores⟩
  have hrestored := ReferencePair.eq_ok_of_isSome ReferencePair.restarted_states.2
  rcases hrestores _ hrestored with ⟨s₀, hlast, hreborn⟩
  exact ⟨shown, _, s₀, hshows, hrestored, hlast, hreborn⟩

end Session
end TwoMlsPq
