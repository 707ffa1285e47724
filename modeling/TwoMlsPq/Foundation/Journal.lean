import Mathlib.Data.List.Forall2

/-!
# Journals

A machine writes entries to a journal, each showing the state it was written in.
The states shown and the state the machine is in stand on one line: each comes after
those before it.  A machine that resumes from the newest entry stays on the line.
-/

namespace TwoMlsPq
namespace Foundation

section

variable {ε σ : Type} {shows : ε -> σ -> Prop} {after : σ -> σ -> Prop}

/-- The entries show the states `shown`, and these and the present one are a line. -/
structure Journal (shows : ε -> σ -> Prop) (after : σ -> σ -> Prop) (entries : List ε)
    (shown : List σ) (now : σ) : Prop where
  shows : List.Forall₂ shows entries shown
  line : (shown ++ [now]).Pairwise after

namespace Journal

variable {entries : List ε} {shown : List σ} {now now' : σ}

theorem blank (now : σ) : Journal shows after [] [] now where
  shows := List.Forall₂.nil
  line := List.pairwise_singleton _ _

theorem shown_line (h : Journal shows after entries shown now) :
    shown.Pairwise after :=
  (List.pairwise_append.mp h.line).1

theorem now_after (h : Journal shows after entries shown now) {s : σ} (hs : s ∈ shown) :
    after s now :=
  (List.pairwise_append.mp h.line).2.2 s hs now (List.mem_singleton_self now)

theorem move (trans : forall a b c, after a b -> after b c -> after a c)
    (h : Journal shows after entries shown now) (hafter : after now now') :
    Journal shows after entries shown now' where
  shows := h.shows
  line := by
    refine List.pairwise_append.mpr ⟨h.shown_line, List.pairwise_singleton _ _, ?_⟩
    intro s hs s' hs'
    rw [List.mem_singleton.mp hs']
    exact trans s now now' (h.now_after hs) hafter

theorem write (refl : forall a, after a a) (h : Journal shows after entries shown now)
    {e : ε} (hshows : shows e now) :
    Journal shows after (entries ++ [e]) (shown ++ [now]) now where
  shows := List.rel_append h.shows (List.Forall₂.cons hshows List.Forall₂.nil)
  line := by
    refine List.pairwise_append.mpr ⟨h.line, List.pairwise_singleton _ _, ?_⟩
    intro s hs s' hs'
    rw [List.mem_singleton.mp hs']
    rcases List.mem_append.mp hs with hold | hlast
    · exact h.now_after hold
    · rw [List.mem_singleton.mp hlast]
      exact refl now

theorem newest {older : List ε} {e : ε}
    (h : Journal shows after (older ++ [e]) shown now) :
    exists before s, shown = before ++ [s] ∧ shows e s ∧
      List.Forall₂ shows older before := by
  have hreverse := List.forall₂_reverse_iff.mpr h.shows
  rw [List.reverse_append, List.reverse_singleton, List.singleton_append] at hreverse
  rcases hcases : shown.reverse with _ | ⟨s, rest⟩
  · rw [hcases] at hreverse
    cases hreverse
  · rw [hcases] at hreverse
    cases hreverse with
    | cons hnewest hrest =>
        refine ⟨rest.reverse, s, ?_, hnewest, ?_⟩
        · rw [<- List.reverse_reverse shown, hcases, List.reverse_cons]
        · have holder := List.forall₂_reverse_iff.mpr hrest
          rw [List.reverse_reverse] at holder
          exact holder

theorem resume (trans : forall a b c, after a b -> after b c -> after a c)
    {before : List σ} {s : σ}
    (h : Journal shows after entries (before ++ [s]) now) (hafter : after s now') :
    Journal shows after entries (before ++ [s]) now' where
  shows := h.shows
  line := by
    refine List.pairwise_append.mpr ⟨h.shown_line, List.pairwise_singleton _ _, ?_⟩
    intro s₀ hs₀ s' hs'
    rw [List.mem_singleton.mp hs']
    rcases List.mem_append.mp hs₀ with hold | hlast
    · have hbefore := (List.pairwise_append.mp h.shown_line).2.2 s₀ hold s
        (List.mem_singleton_self s)
      exact trans s₀ s now' hbefore hafter
    · rw [List.mem_singleton.mp hlast]
      exact hafter

end Journal

theorem exists_shown {entries : List ε} {shown : List σ}
    (h : List.Forall₂ shows entries shown) {e : ε} (he : e ∈ entries) :
    exists s, s ∈ shown ∧ shows e s := by
  induction h with
  | nil => exact absurd he List.not_mem_nil
  | cons hhead _ ih =>
      cases he with
      | head => exact ⟨_, List.mem_cons_self, hhead⟩
      | tail _ hrest =>
          rcases ih hrest with ⟨s, hs, hshows⟩
          exact ⟨s, List.mem_cons_of_mem _ hs, hshows⟩

theorem exists_entry {entries : List ε} {shown : List σ}
    (h : List.Forall₂ shows entries shown) {s : σ} (hs : s ∈ shown) :
    exists e, e ∈ entries ∧ shows e s := by
  have hflipped : List.Forall₂ (flip shows) shown entries := List.Forall₂.flip h
  exact exists_shown hflipped hs

theorem split_shown {older newer : List ε} {e : ε} {shown : List σ}
    (h : List.Forall₂ shows (older ++ e :: newer) shown) :
    exists before s after, shown = before ++ s :: after ∧
      List.Forall₂ shows older before ∧ shows e s := by
  induction older generalizing shown with
  | nil =>
      cases h with
      | cons hhead hrest => exact ⟨[], _, _, rfl, List.Forall₂.nil, hhead⟩
  | cons e₀ older ih =>
      cases h with
      | cons hhead hrest =>
          rcases ih hrest with ⟨before, s, after, rfl, holder, hshows⟩
          exact ⟨_ :: before, s, after, rfl, List.Forall₂.cons hhead holder, hshows⟩

theorem pairwise_total {before : ε -> ε -> Prop} {entries : List ε}
    (ordered : entries.Pairwise before)
    {a a' : ε} (ha : a ∈ entries) (ha' : a' ∈ entries) :
    a = a' ∨ before a a' ∨ before a' a := by
  induction ordered with
  | nil => exact absurd ha List.not_mem_nil
  | cons hhead _ ih =>
      rcases List.mem_cons.mp ha with rfl | hrest
      · rcases List.mem_cons.mp ha' with rfl | hrest'
        · exact Or.inl rfl
        · exact Or.inr (Or.inl (hhead a' hrest'))
      · rcases List.mem_cons.mp ha' with rfl | hrest'
        · exact Or.inr (Or.inr (hhead a hrest))
        · exact ih hrest hrest'

theorem pairwise_shown {entries : List ε} {shown : List σ}
    (h : List.Forall₂ shows entries shown) (line : shown.Pairwise after) :
    entries.Pairwise fun a a' => exists s s', shows a s ∧ shows a' s' ∧ after s s' := by
  induction h with
  | nil => exact List.Pairwise.nil
  | cons hhead hrest ih =>
      rcases List.pairwise_cons.mp line with ⟨hfirst, hline⟩
      refine List.pairwise_cons.mpr ⟨?_, ih hline⟩
      intro a' ha'
      rcases exists_shown hrest ha' with ⟨s', hs', hshows⟩
      exact ⟨_, s', hhead, hshows, hfirst s' hs'⟩

end

end Foundation
end TwoMlsPq
