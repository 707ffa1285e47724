import TwoMlsPq.Session.Restorable

/-!
# Which blobs can be restored

A restore needs a Checkpoint, and a Core that is newer must have been written at the
post-quantum epochs of the Checkpoint.  Nothing else stands in its way: the blobs of
a life are in shape, their groups load, and a newer Core has a receive group wherever
the Checkpoint has one.
-/

namespace TwoMlsPq
namespace Session

open Foundation Apq

section

variable {M : MlsRs}

/-- The Core is no newer than the Checkpoint, or was written at its epochs. -/
def Archive.Fits (core ck : Archive M) : Prop :=
  core.wire.stateSeq <= ck.wire.stateSeq ∨
    core.wire.sendPqEpoch = ck.wire.sendPqEpoch ∧
      core.wire.recvPqEpoch = ck.wire.recvPqEpoch

/-- There is a Checkpoint, and the newest Core fits the newest Checkpoint. -/
def Restorable (pushed : List (Push M)) : Prop :=
  exists ck, latest .checkpoint pushed = some ck ∧
    forall core, latest .core pushed = some core -> core.Fits ck

/-!
## What a restore asks for
-/

theorem reconcile_fits {core checkpoint : Option (Archive M)} {a : Archive M}
    (h : reconcilePersisted core checkpoint = .ok a) :
    exists ck, checkpoint = some ck ∧ forall c, core = some c -> c.Fits ck := by
  cases checkpoint with
  | none => cases h
  | some ck =>
      refine ⟨ck, rfl, ?_⟩
      intro c hc
      subst hc
      by_cases hle : c.wire.stateSeq <= ck.wire.stateSeq
      · exact Or.inl hle
      · rcases reconcile_core hle h with ⟨hsend, hrecv, _⟩
        exact Or.inr ⟨hsend, hrecv⟩

theorem restorable_of_restore {pushed : List (Push M)} {r : SessionInner M}
    (h : restore pushed = .ok r) : Restorable pushed := by
  unfold restore restoreInner at h
  cases hreconciled : reconcilePersisted (latest .core pushed)
      (latest .checkpoint pushed) with
  | error e =>
      rw [hreconciled] at h
      cases h
  | ok a => exact reconcile_fits hreconciled

/-!
## Nothing else fails
-/

theorem reconcile_merged {core ck : Archive M} {recv : Option (GroupEntry M)}
    (hlt : ¬ core.wire.stateSeq <= ck.wire.stateSeq)
    (hsend : core.wire.sendPqEpoch = ck.wire.sendPqEpoch)
    (hrecv : core.wire.recvPqEpoch = ck.wire.recvPqEpoch)
    (hmerged : mergeRecv core.wire.recvGroup ck.wire.recvGroup = .ok recv) :
    reconcilePersisted (some core) (some ck) = .ok (core.over ck recv) := by
  have hmanifest : ¬ (core.wire.sendPqEpoch ≠ ck.wire.sendPqEpoch ∨
      core.wire.recvPqEpoch ≠ ck.wire.recvPqEpoch) :=
    not_or.mpr ⟨not_not.mpr hsend, not_not.mpr hrecv⟩
  unfold reconcilePersisted
  dsimp only
  rw [if_neg hlt, if_neg hmanifest, hmerged]
  rfl

theorem mergeRecv_later {core ck : Archive M} {s₀ s₁ : SessionInner M}
    (hcore : Archived .core s₀.core core) (hck : Archived .checkpoint s₁.core ck)
    (hlater : Later (s₁.epoch .recvClassical) (s₀.epoch .recvClassical)) :
    exists recv, mergeRecv core.wire.recvGroup ck.wire.recvGroup = .ok recv := by
  have hsaved : HalfSaved (s₀.half .recvClassical)
      (core.wire.recvGroup.map GroupEntry.classical) :=
    hcore.halves .recvClassical fun h => nomatch h
  have hsaved' : HalfSaved (s₁.half .recvClassical)
      (ck.wire.recvGroup.map GroupEntry.classical) :=
    hck.halves .recvClassical fun _ => rfl
  unfold SessionInner.epoch at hlater
  cases hentry : core.wire.recvGroup with
  | some entry => exact ⟨_, rfl⟩
  | none =>
      cases hentry' : ck.wire.recvGroup with
      | none => exact ⟨none, rfl⟩
      | some entry =>
          rw [hentry] at hsaved
          rw [hentry'] at hsaved'
          cases hhalf : s₀.half .recvClassical with
          | some g =>
              rw [hhalf] at hsaved
              exact hsaved.elim
          | none =>
              cases hhalf' : s₁.half .recvClassical with
              | none =>
                  rw [hhalf'] at hsaved'
                  exact hsaved'.elim
              | some g =>
                  rw [hhalf, hhalf'] at hlater
                  exact hlater.elim

theorem Recorded.later {s : SessionInner M} {pushed : List (Push M)}
    {shown : List (SessionInner M)} (h : Recorded s pushed shown) {p q : Push M}
    (hp : p ∈ pushed) (hq : q ∈ pushed) (hlt : q.seq < p.seq) :
    exists s₁ s₀, Shows q s₁ ∧ Shows p s₀ ∧ Descends s₁ s₀ := by
  have hordered := h.ordered.and
    (pairwise_shown h.journal.shows h.journal.shown_line)
  rcases pairwise_total hordered hq hp with rfl | hbefore | hafter
  · exact absurd hlt (Nat.lt_irrefl _)
  · exact hbefore.2
  · exact absurd hafter.1.le (Nat.not_le_of_lt hlt)

section

variable (T : Dependable M) (L : Lawful M)

include T L

theorem Recorded.opensOver {s : SessionInner M} {pushed : List (Push M)}
    {shown : List (SessionInner M)} (h : Recorded s pushed shown)
    (hphotos : forall p, p ∈ pushed -> Photo (Sound false) p) {core ck : Push M}
    (hcore : core ∈ pushed) (hck : ck ∈ pushed) (hcoreKind : core.kind = .core)
    (hckKind : ck.kind = .checkpoint)
    (hlt : ¬ core.archive.wire.stateSeq <= ck.archive.wire.stateSeq)
    (hsend : core.archive.wire.sendPqEpoch = ck.archive.wire.sendPqEpoch)
    (hrecv : core.archive.wire.recvPqEpoch = ck.archive.wire.recvPqEpoch) :
    exists a r, reconcilePersisted (some core.archive) (some ck.archive) = .ok a ∧
      sessionFromWire a = .ok r := by
  rcases hphotos core hcore with ⟨s₀, hsound, hseq, hpictures, harchived⟩
  rcases hphotos ck hck with ⟨s₁, _, hseq', hpictures', harchived'⟩
  rw [hcoreKind] at harchived
  rw [hckKind] at harchived'
  have hnewer : ck.seq < core.seq := by
    rw [hpictures.stateSeq, hpictures'.stateSeq, hseq, hseq'] at hlt
    exact Nat.lt_of_not_le hlt
  rcases h.later hcore hck hnewer with ⟨s₃, s₂, hshows', hshows, hdescends⟩
  have hother := hshows.archived
  have hother' := hshows'.archived
  rw [hcoreKind] at hother
  rw [hckKind] at hother'
  rcases mergeRecv_later hother hother' (hdescends.epoch L .recvClassical) with
    ⟨recv, hmerged⟩
  rcases hsound.opens T (a := core.archive.over ck.archive recv) { hpictures with }
    (archived_merge harchived harchived' hsend hrecv hmerged) with ⟨r, hopened⟩
  exact ⟨_, r, reconcile_merged hlt hsend hrecv hmerged, hopened⟩

theorem Recorded.restores {s : SessionInner M} {pushed : List (Push M)}
    {shown : List (SessionInner M)} (h : Recorded s pushed shown)
    (hphotos : forall p, p ∈ pushed -> Photo (Sound false) p)
    (hrestorable : Restorable pushed) : exists r, restore pushed = .ok r := by
  rcases hrestorable with ⟨ck, hlatest, hfits⟩
  rcases latest_mem hlatest with ⟨q, hq, hqKind, rfl⟩
  unfold restore restoreInner
  rw [hlatest]
  by_cases hnewest : forall c, latest .core pushed = some c ->
      c.wire.stateSeq <= q.archive.wire.stateSeq
  · rcases hphotos q hq with ⟨s₁, hsound, _, hpictures, harchived⟩
    rw [hqKind] at harchived
    rw [reconcile_checkpoint hnewest]
    exact hsound.opens T hpictures harchived
  · push Not at hnewest
    rcases hnewest with ⟨c, hcore, hlt⟩
    have hlt' := Nat.not_le_of_lt hlt
    rcases (hfits c hcore).resolve_left hlt' with ⟨hsend, hrecv⟩
    rcases latest_mem hcore with ⟨p, hp, hpKind, rfl⟩
    rcases h.opensOver T L hphotos hp hq hpKind hqKind hlt' hsend hrecv with
      ⟨a, r, hreconciled, hopened⟩
    rw [hcore, hreconciled]
    exact ⟨r, hopened⟩

/-- In every life, the pushed blobs can be restored exactly if there is a Checkpoint
among them and the newest Core is no newer than it or was written at its epochs. -/
theorem restore_succeeds_iff {s : SessionInner M} (born : Born s)
    {t : TwoMlsPqSession M}
    (life : Run TwoMlsPqSession.live (fun _ _ => True) (TwoMlsPqSession.fresh s) t)
    (unexhausted : Unexhausted t.pushed) :
    (exists r, restore t.pushed = .ok r) <-> Restorable t.pushed := by
  rcases journaled_life L life unexhausted with ⟨shown, hrecorded⟩
  have hphotos := ((lasting_sound T L).kept (born.sound T) life).2
  constructor
  · intro h
    rcases h with ⟨r, hrestore⟩
    exact restorable_of_restore hrestore
  · intro h
    exact hrecorded.restores T L hphotos h

end

end

/-- The initiator, restarted after one message each way, can be restored again. -/
theorem restarted_initiator_restorable :
    exists r, restore ReferencePair.restartedSession.pushed = .ok r ∧
      Restorable ReferencePair.restartedSession.pushed := by
  have hrestored := ReferencePair.eq_ok_of_isSome ReferencePair.restarted_states.2
  have hiff := restore_succeeds_iff Reference.dependable Reference.lawful
    ReferencePair.initiator_born ReferencePair.restarted_run
    ReferencePair.restarted_unexhausted
  exact ⟨_, hrestored, hiff.mp ⟨_, hrestored⟩⟩

end Session
end TwoMlsPq
