import Mathlib.Data.List.Basic

/-!
# Tables in key order

A table holds its entries in strictly ascending order of their keys, so that it is
listed the same way however it was filled.  An entry takes the place of one with the
same key.
-/

namespace TwoMlsPq
namespace Foundation

section

variable {α κ : Type} [LT κ]

def AscendingBy (key : α -> κ) (entries : List α) : Prop :=
  entries.Pairwise fun a b => key a < key b

structure Ordered (key : α -> κ) where
  entries : List α
  ascending : AscendingBy key entries

namespace Ordered

variable {key : α -> κ}

theorem ext_entries {t t' : Ordered key} (h : t.entries = t'.entries) : t = t' := by
  cases t
  cases t'
  cases h
  rfl

def empty : Ordered key :=
  { entries := [], ascending := List.Pairwise.nil }

variable [DecidableLT κ] [DecidableEq κ]

def place (key : α -> κ) (a : α) : List α -> List α
  | [] => [a]
  | b :: rest =>
      if key a < key b then a :: b :: rest
      else if key a = key b then a :: rest
      else b :: place key a rest

theorem mem_place {a x : α} {entries : List α} (h : x ∈ place key a entries) :
    x = a ∨ x ∈ entries := by
  induction entries with
  | nil =>
      rw [place, List.mem_singleton] at h
      exact Or.inl h
  | cons b rest ih =>
      unfold place at h
      split at h
      · exact List.mem_cons.mp h
      · split at h
        · rcases List.mem_cons.mp h with rfl | hrest
          · exact Or.inl rfl
          · exact Or.inr (List.mem_cons_of_mem _ hrest)
        · rcases List.mem_cons.mp h with rfl | hrest
          · exact Or.inr List.mem_cons_self
          · rcases ih hrest with rfl | hold
            · exact Or.inl rfl
            · exact Or.inr (List.mem_cons_of_mem _ hold)

variable [Std.Trichotomous (α := κ) (· < ·)]
  [Trans (α := κ) (· < ·) (· < ·) (· < ·)]

theorem place_ascending (a : α) {entries : List α} (h : AscendingBy key entries) :
    AscendingBy key (place key a entries) := by
  induction entries with
  | nil => exact List.pairwise_singleton _ _
  | cons b rest ih =>
      have hparts := List.pairwise_cons.mp h
      unfold place
      split
      next hlt =>
        refine List.pairwise_cons.mpr ⟨fun x hx => ?_, h⟩
        rcases List.mem_cons.mp hx with rfl | hx
        · exact hlt
        · exact Trans.trans hlt (hparts.1 x hx)
      next hnlt =>
        split
        next heq =>
          refine List.pairwise_cons.mpr ⟨fun x hx => ?_, hparts.2⟩
          rw [heq]
          exact hparts.1 x hx
        next hne =>
          have hgt : key b < key a := by
            by_contra hnot
            exact hne (Std.Trichotomous.trichotomous (key a) (key b) hnlt hnot)
          refine List.pairwise_cons.mpr ⟨fun x hx => ?_, ih hparts.2⟩
          rcases mem_place hx with rfl | hx
          · exact hgt
          · exact hparts.1 x hx

def insert (t : Ordered key) (a : α) : Ordered key :=
  { entries := place key a t.entries, ascending := place_ascending a t.ascending }

def collect (entries : List α) : Ordered key :=
  entries.foldl insert empty

variable [Std.Irrefl (α := κ) (· < ·)]

omit [Std.Trichotomous (α := κ) (· < ·)] in
theorem place_last {a : α} {entries : List α}
    (h : forall b, b ∈ entries -> key b < key a) :
    place key a entries = entries ++ [a] := by
  induction entries with
  | nil => rfl
  | cons b rest ih =>
      have hlt := h b List.mem_cons_self
      have hnlt : ¬ key a < key b := fun hgt =>
        Std.Irrefl.irrefl (r := fun x y : κ => x < y) (key a) (Trans.trans hgt hlt)
      have hne : key a ≠ key b := by
        intro heq
        rw [heq] at hlt
        exact Std.Irrefl.irrefl (r := fun x y : κ => x < y) (key b) hlt
      unfold place
      rw [if_neg hnlt, if_neg hne, ih fun x hx => h x (List.mem_cons_of_mem _ hx)]
      rfl

theorem collect_ascending {entries : List α} (h : AscendingBy key entries) :
    (collect entries : Ordered key).entries = entries := by
  have hfrom : forall (rest : List α) (t : Ordered key),
      AscendingBy key (t.entries ++ rest) ->
        (rest.foldl insert t).entries = t.entries ++ rest := by
    intro rest
    induction rest with
    | nil =>
        intro t _
        rw [List.append_nil]
        rfl
    | cons a rest ih =>
        intro t ht
        have hlast : (t.insert a).entries = t.entries ++ [a] := by
          apply place_last
          intro b hb
          exact (List.pairwise_append.mp ht).2.2 b hb a List.mem_cons_self
        rw [List.foldl_cons, ih, hlast, List.append_assoc]
        · rfl
        · rw [hlast, List.append_assoc]
          exact ht
  exact hfrom entries empty h

theorem collect_entries (t : Ordered key) : collect t.entries = t :=
  ext_entries (collect_ascending t.ascending)

end Ordered

end

end Foundation
end TwoMlsPq
