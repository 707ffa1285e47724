import Mathlib.Logic.Relation

/-!
# Runs of a deterministic system

A system is a function that says what each action does to a state, and a
predicate that says which actions a state admits.  An invariant that every
admitted action preserves holds along every run.
-/

namespace TwoMlsPq
namespace Foundation

section

variable {σ α : Type}

/-- States connected by admitted actions. -/
def Run (act : σ -> α -> σ) (admits : σ -> α -> Prop) : σ -> σ -> Prop :=
  Relation.ReflTransGen fun s s' => exists a, admits s a ∧ act s a = s'

namespace Run

variable {act : σ -> α -> σ} {admits admits' : σ -> α -> Prop} {s s' s'' : σ}

theorem refl : Run act admits s s :=
  Relation.ReflTransGen.refl

theorem trans (h : Run act admits s s') (h' : Run act admits s' s'') :
    Run act admits s s'' :=
  Relation.ReflTransGen.trans h h'

theorem step {a : α} (h : Run act admits s s') (ha : admits s' a) :
    Run act admits s (act s' a) :=
  Relation.ReflTransGen.tail h ⟨a, ha, rfl⟩

theorem mono (hsub : forall s a, admits s a -> admits' s a)
    (h : Run act admits s s') :
    Run act admits' s s' :=
  Relation.ReflTransGen.mono
    (fun s _ hstep => Exists.imp (fun a ha => ⟨hsub s a ha.1, ha.2⟩) hstep) _ _ h

theorem map {β : Type} {act' : σ -> β -> σ} {admits' : σ -> β -> Prop} (f : α -> β)
    (hact : forall s a, act' s (f a) = act s a)
    (hadm : forall s a, admits s a -> admits' s (f a))
    (h : Run act admits s s') :
    Run act' admits' s s' := by
  induction h with
  | refl => exact Relation.ReflTransGen.refl
  | tail _ hlast ih =>
      rcases hlast with ⟨a, ha, rfl⟩
      exact Relation.ReflTransGen.tail ih ⟨f a, hadm _ a ha, hact _ a⟩

theorem invariant {I : σ -> Prop}
    (hstep : forall s a, I s -> admits s a -> I (act s a))
    (h : Run act admits s s') (hI : I s) :
    I s' := by
  induction h with
  | refl => exact hI
  | tail _ hlast ih =>
      rcases hlast with ⟨a, ha, rfl⟩
      exact hstep _ a ih ha

theorem along {I : σ -> Prop}
    (hstep : forall s a, I s -> admits s a -> I (act s a))
    (h : Run act admits s s') (hI : I s) :
    Run act (fun s a => admits s a ∧ I s) s s' := by
  have hboth : Run act (fun s a => admits s a ∧ I s) s s' ∧ I s' := by
    induction h with
    | refl => exact ⟨refl, hI⟩
    | tail _ hlast ih =>
        rcases hlast with ⟨a, ha, rfl⟩
        exact ⟨ih.1.step ⟨ha, ih.2⟩, hstep _ a ih.2 ha⟩
  exact hboth.1

end Run

end

end Foundation
end TwoMlsPq
