import Mathlib.Data.List.Induction
import Mathlib.Data.List.Nodup
import TwoMlsPq.Apq.Authentication
import TwoMlsPq.Foundation.Ranked

/-!
# What a credential sequence keeps

A party's sequence is written by five calls.  Whatever they are given and in whatever
order they come, the history stays a bounded list without repetitions that ends in the
last committed credential, and the succession it admits is an order unless a
successor is authorized.
-/

namespace TwoMlsPq
namespace Apq

open Foundation

/-!
## The calls
-/

inductive SequenceCall where
  | seeded (id : Bytes)
  | commit (id : Bytes)
  | authorize (id : Bytes)
  | pin (id : Bytes)
  | unpin (id : Bytes)
deriving DecidableEq, Repr

namespace PartySequence

def call (q : PartySequence) : SequenceCall -> PartySequence
  | .seeded id => seeded id
  | .commit id => q.commit id
  | .authorize id => q.authorize id
  | .pin id => q.pin id
  | .unpin id => q.unpin id

def calls (script : List SequenceCall) : PartySequence :=
  script.foldl call empty

theorem calls_append (script : List SequenceCall) (c : SequenceCall) :
    calls (script ++ [c]) = (calls script).call c := by
  unfold calls
  rw [List.foldl_append]
  rfl

def committed (last : Option Bytes) : SequenceCall -> Option Bytes
  | .seeded id => some id
  | .commit id => some id
  | _ => last

def lastCommitted (script : List SequenceCall) : Option Bytes :=
  script.foldl committed none

theorem lastCommitted_append (script : List SequenceCall) (c : SequenceCall) :
    lastCommitted (script ++ [c]) = committed (lastCommitted script) c := by
  unfold lastCommitted
  rw [List.foldl_append]
  rfl

theorem calls_invariant {I : List SequenceCall -> PartySequence -> Prop}
    (hempty : I [] empty)
    (hcall : forall script q c, I script q -> I (script ++ [c]) (q.call c))
    (script : List SequenceCall) :
    I script (calls script) := by
  induction script using List.reverseRecOn with
  | nil => exact hempty
  | append_singleton script c ih =>
      rw [calls_append]
      exact hcall script _ c ih

/-!
## The history
-/

structure Kept (q : PartySequence) : Prop where
  distinct : q.history.Nodup
  bounded : q.history.length <= credentialHistoryWindow

theorem kept_empty : empty.Kept :=
  { distinct := List.nodup_nil, bounded := Nat.zero_le _ }

theorem Kept.commit {q : PartySequence} (h : q.Kept) (id : Bytes) : (q.commit id).Kept := by
  by_cases hcurrent : q.current = some id
  · rw [commit_of_current hcurrent]
    exact h
  · unfold PartySequence.commit
    rw [if_neg hcurrent]
    constructor
    · have hmoved : (q.history.filter (fun h => h != id) ++ [id]).Nodup := by
        rw [List.nodup_append]
        refine ⟨h.distinct.filter _, List.nodup_singleton id, ?_⟩
        intro a ha b hb
        rw [List.mem_singleton] at hb
        rw [hb]
        have hne := (List.mem_filter.mp ha).2
        exact ne_of_beq_false (by simpa using hne)
      exact hmoved.sublist (List.drop_sublist _ _)
    · unfold evict
      rw [List.length_drop]
      omega

theorem Kept.same {q q' : PartySequence} (h : q.Kept) (hsame : q'.history = q.history) :
    q'.Kept := by
  constructor
  · rw [hsame]
    exact h.distinct
  · rw [hsame]
    exact h.bounded

theorem history_authorize (q : PartySequence) (id : Bytes) :
    (q.authorize id).history = q.history := by
  unfold authorize
  split
  · rfl
  · rfl

theorem history_pin (q : PartySequence) (id : Bytes) : (q.pin id).history = q.history := by
  unfold pin
  split
  · rfl
  · rfl

theorem Kept.call {q : PartySequence} (h : q.Kept) (c : SequenceCall) : (q.call c).Kept := by
  cases c with
  | seeded id => exact kept_empty.commit id
  | commit id => exact h.commit id
  | authorize id => exact h.same (history_authorize q id)
  | pin id => exact h.same (history_pin q id)
  | unpin id => exact h.same rfl

theorem kept_calls (script : List SequenceCall) : (calls script).Kept :=
  calls_invariant (I := fun _ q => q.Kept) kept_empty (fun _ _ c h => h.call c) script

theorem current_calls (script : List SequenceCall) :
    (calls script).current = lastCommitted script := by
  refine calls_invariant (I := fun script q => q.current = lastCommitted script) rfl ?_
    script
  intro script q c hq
  rw [lastCommitted_append]
  cases c with
  | seeded id => exact current_seeded id
  | commit id => exact current_commit q id
  | authorize id => exact (current_authorize q id).trans hq
  | pin id => exact (current_pin q id).trans hq
  | unpin id => exact hq

/-!
## What is authorized was authorized by a call
-/

theorem authorized_calls {script : List SequenceCall} {id : Bytes}
    (h : id ∈ (calls script).authorizedNext) :
    .authorize id ∈ script := by
  revert h
  refine calls_invariant (I := fun script q => id ∈ q.authorizedNext ->
    .authorize id ∈ script) (fun h => by cases h) ?_ script
  intro script q c hq h
  have hbefore : id ∈ q.authorizedNext -> .authorize id ∈ script ++ [c] := fun hold =>
    List.mem_append_left _ (hq hold)
  cases c with
  | seeded x =>
      have hnone : (seeded x).authorizedNext = [] := rfl
      change id ∈ (seeded x).authorizedNext at h
      rw [hnone] at h
      cases h
  | commit x =>
      change id ∈ (q.commit x).authorizedNext at h
      by_cases hcurrent : q.current = some x
      · rw [commit_of_current hcurrent] at h
        exact hbefore h
      · unfold PartySequence.commit at h
        rw [if_neg hcurrent] at h
        cases h
  | authorize x =>
      rcases mem_authorize.mp h with hold | rfl
      · exact hbefore hold
      · exact List.mem_append_right _ List.mem_cons_self
  | pin x =>
      change id ∈ (q.pin x).authorizedNext at h
      unfold PartySequence.pin at h
      split at h
      · exact hbefore h
      · exact hbefore h
  | unpin x => exact hbefore h

/-!
## The succession
-/

def Succeeds (q : PartySequence) (pred succ : Bytes) : Prop :=
  pred ≠ succ ∧ q.validSuccessor pred succ = true

theorem Succeeds.cases {q : PartySequence} {pred succ : Bytes} (h : q.Succeeds pred succ) :
    q.isAuthorized succ = true ∨ Before q.position pred succ := by
  rcases h with ⟨hne, hvalid⟩
  unfold validSuccessor at hvalid
  rw [if_neg hne] at hvalid
  split at hvalid
  · cases hvalid
  · split at hvalid
    next hauthorized => exact Or.inl hauthorized
    · split at hvalid
      next => cases hvalid
      next pp sp hpred hsucc =>
        refine Or.inr ⟨sp, hsucc, fun i hi => ?_⟩
        rw [hpred] at hi
        cases hi
        exact of_decide_eq_true hvalid
      next sp hpred hsucc =>
        refine Or.inr ⟨sp, hsucc, fun i hi => ?_⟩
        rw [hpred] at hi
        cases hi

def Known (q : PartySequence) (id : Bytes) : Prop :=
  q.position id ≠ none ∨ q.isPinned id = true

/-- While nothing is authorized, a leaf moves from a known credential to a later one of
the history, and a pinned credential that was evicted counts as the oldest. -/
theorem succeeds_iff {q : PartySequence} (h : q.authorizedNext = []) {pred succ : Bytes} :
    q.Succeeds pred succ <-> q.Known pred ∧ Before q.position pred succ := by
  have hunauthorized : q.isAuthorized succ = false := by
    unfold isAuthorized
    rw [h]
    rfl
  constructor
  · intro hsucceeds
    refine ⟨?_, ?_⟩
    · by_contra hunknown
      have hguard : q.position pred = none ∧ q.isPinned pred = false := by
        unfold Known at hunknown
        simpa using hunknown
      rcases hsucceeds with ⟨hne, hvalid⟩
      unfold validSuccessor at hvalid
      rw [if_neg hne, if_pos hguard] at hvalid
      cases hvalid
    · rcases hsucceeds.cases with hauthorized | hbefore
      · rw [hunauthorized] at hauthorized
        cases hauthorized
      · exact hbefore
  · rintro ⟨hknown, hbefore⟩
    have hne : pred ≠ succ := by
      rintro rfl
      exact Before.irrefl _ hbefore
    have hguard : ¬ (q.position pred = none ∧ q.isPinned pred = false) := by
      rintro ⟨hposition, hpinned⟩
      rcases hknown with h' | h'
      · exact h' hposition
      · rw [hpinned] at h'
        cases h'
    have hnot : ¬ q.isAuthorized succ = true := by
      rw [hunauthorized]
      exact Bool.false_ne_true
    rcases hbefore with ⟨j, hsucc, hlt⟩
    refine ⟨hne, ?_⟩
    unfold validSuccessor
    rw [if_neg hne, if_neg hguard, if_neg hnot, hsucc]
    cases hpred : q.position pred with
    | none => rfl
    | some i => exact decide_eq_true (hlt i hpred)

theorem Succeeds.asymm {q : PartySequence} (h : q.authorizedNext = []) {a b : Bytes}
    (hab : q.Succeeds a b) :
    ¬ q.Succeeds b a :=
  fun hba => ((succeeds_iff h).mp hab).2.asymm ((succeeds_iff h).mp hba).2

theorem Succeeds.trans {q : PartySequence} (h : q.authorizedNext = []) {a b c : Bytes}
    (hab : q.Succeeds a b) (hbc : q.Succeeds b c) :
    q.Succeeds a c := by
  rcases (succeeds_iff h).mp hab with ⟨hknown, hbefore⟩
  exact (succeeds_iff h).mpr ⟨hknown, hbefore.trans ((succeeds_iff h).mp hbc).2⟩

theorem Succeeds.no_cycle {q : PartySequence} (h : q.authorizedNext = []) (id : Bytes) :
    ¬ Relation.TransGen q.Succeeds id id :=
  Before.no_cycle (fun _ _ hab => ((succeeds_iff h).mp hab).2) id

theorem position_of_evicted {q : PartySequence} {id : Bytes} (h : q.contains id = false) :
    q.position id = none := by
  unfold PartySequence.contains at h
  unfold position
  rw [List.findIdx?_eq_none_iff]
  intro x hx
  rw [beq_eq_false_iff_ne]
  rintro rfl
  rw [List.contains_iff_mem.mpr hx] at h
  cases h

theorem Succeeds.authorized {q : PartySequence} {pred succ : Bytes}
    (h : q.Succeeds pred succ) (hevicted : q.contains succ = false) :
    q.isAuthorized succ = true := by
  rcases h.cases with hauthorized | ⟨j, hsucc, _⟩
  · exact hauthorized
  · rw [position_of_evicted hevicted] at hsucc
    cases hsucc

/-- What every sequence of calls leaves behind. -/
theorem calls_keep_sequence (script : List SequenceCall) :
    ((calls script).history.Nodup ∧
        (calls script).history.length <= credentialHistoryWindow ∧
        (calls script).current = lastCommitted script) ∧
      ((calls script).authorizedNext = [] ->
        (forall a b, (calls script).Succeeds a b -> ¬ (calls script).Succeeds b a) ∧
          (forall a b c, (calls script).Succeeds a b -> (calls script).Succeeds b c ->
            (calls script).Succeeds a c) ∧
          forall id, ¬ Relation.TransGen (calls script).Succeeds id id) ∧
      forall pred id, (calls script).isPinned id = true ->
        (calls script).contains id = false -> (calls script).Succeeds pred id ->
          (calls script).isAuthorized id = true ∧ .authorize id ∈ script := by
  refine ⟨⟨(kept_calls script).distinct, (kept_calls script).bounded,
    current_calls script⟩, fun hnone => ⟨?_, ?_, ?_⟩, ?_⟩
  · intro a b hab
    exact hab.asymm hnone
  · intro a b c hab hbc
    exact hab.trans hnone hbc
  · intro id
    exact Succeeds.no_cycle hnone id
  · intro pred id _ hevicted hsucceeds
    have hauthorized := hsucceeds.authorized hevicted
    exact ⟨hauthorized, authorized_calls (List.contains_iff_mem.mp hauthorized)⟩

/-- Nine commits evict the first credential; pinned, it still moves on and is never
moved back to. -/
example :
    let q := calls ((List.range 9).map (fun n => .commit [n.toUInt8]) ++ [.pin [0]])
    q.contains [0] = false ∧ q.validSuccessor [0] [8] = true ∧
      q.validSuccessor [8] [0] = false := by
  decide

end PartySequence
end Apq
end TwoMlsPq
