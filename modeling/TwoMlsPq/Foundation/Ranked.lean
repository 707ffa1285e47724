import Mathlib.Logic.Relation

/-!
# Orders read off a partial rank

A rank that only some elements have orders them all the same when an element
without one counts as older than every element with one.
-/

namespace TwoMlsPq
namespace Foundation

variable {α : Type}

/-- The later element has a rank, and the earlier one none or a smaller one. -/
def Before (rank : α -> Option Nat) (a b : α) : Prop :=
  exists j, rank b = some j ∧ forall i, rank a = some i -> i < j

namespace Before

variable {rank : α -> Option Nat} {a b c : α}

theorem asymm (h : Before rank a b) : ¬ Before rank b a := by
  rcases h with ⟨j, hb, hlt⟩
  rintro ⟨i, ha, hlt'⟩
  have hij := hlt i ha
  have hji := hlt' j hb
  omega

theorem irrefl (a : α) : ¬ Before rank a a :=
  fun h => h.asymm h

theorem trans (h : Before rank a b) (h' : Before rank b c) : Before rank a c := by
  rcases h with ⟨j, hb, hlt⟩
  rcases h' with ⟨k, hc, hlt'⟩
  refine ⟨k, hc, fun i ha => ?_⟩
  have hij := hlt i ha
  have hjk := hlt' j hb
  omega

theorem no_cycle {r : α -> α -> Prop} (hr : forall a b, r a b -> Before rank a b) (a : α) :
    ¬ Relation.TransGen r a a := by
  intro hcycle
  have hbefore : forall b, Relation.TransGen r a b -> Before rank a b := by
    intro b hchain
    induction hchain with
    | single hab => exact hr _ _ hab
    | tail _ hbc ih => exact ih.trans (hr _ _ hbc)
  exact irrefl a (hbefore a hcycle)

end Before

end Foundation
end TwoMlsPq
