import TwoMlsPq.Foundation.Effect

/-!
# Footprints

A state is read through slots.  The footprint of an operation is a list of the
slots it may write; every other slot reads the same afterwards, whether the
operation succeeds or fails.  An operation is blind to a change of the state that
it neither reads nor writes: it answers the same, and the change stays.
-/

namespace TwoMlsPq
namespace Foundation

section

variable {σ ε α β κ : Type} {V : κ -> Type}

namespace Op

/-- The operation writes no slot outside `W`. -/
def Writes (read : (slot : κ) -> σ -> V slot) (W : List κ) (x : Op σ ε α) : Prop :=
  forall s slot, slot ∉ W -> read slot (x.run s).2 = read slot s

namespace Writes

variable {read : (slot : κ) -> σ -> V slot} {W W' : List κ} {x : Op σ ε α}

theorem mono (hx : Writes read W x) (hsub : W ⊆ W') : Writes read W' x :=
  fun s slot hslot => hx s slot fun hmem => hslot (hsub hmem)

theorem still (hx : Still x) : Writes read W x := by
  intro s slot _
  rw [hx s]

theorem value (a : α) : Writes read W (pure a : Op σ ε α) :=
  still (Still.value a)

theorem fail (e : ε) : Writes read W (Op.fail e : Op σ ε α) :=
  still (Still.fail e)

theorem update {f : σ -> σ}
    (h : forall s slot, slot ∉ W -> read slot (f s) = read slot s) :
    Writes read W (Op.update f : Op σ ε Unit) :=
  h

theorem bind {f : α -> Op σ ε β}
    (hx : Writes read W x) (hf : forall a, Writes read W (f a)) :
    Writes read W (x >>= f) := by
  intro s slot hslot
  have hfirst := hx s slot hslot
  rw [run_bind]
  rcases hrun : x.run s with ⟨r, s'⟩
  rw [hrun] at hfirst
  cases r with
  | ok a => exact (hf a s' slot hslot).trans hfirst
  | error e => exact hfirst

theorem looking {f : α -> Op σ ε β}
    (hx : Still x) (hf : forall a, Writes read W (f a)) :
    Writes read W (x >>= f) :=
  bind (still hx) hf

theorem attempt (hx : Writes read W x) : Writes read W (Op.attempt x) :=
  hx

theorem mapError {f : ε -> ε} (hx : Writes read W x) :
    Writes read W (Op.mapError f x) := by
  intro s slot hslot
  have hkept := hx s slot hslot
  unfold Op.mapError
  rw [run_ofResult]
  rcases hrun : x.run s with ⟨r, s'⟩
  rw [hrun] at hkept
  cases r with
  | ok a => exact hkept
  | error e => exact hkept

theorem ite {c : Prop} [Decidable c] {y : Op σ ε α}
    (hx : Writes read W x) (hy : Writes read W y) :
    Writes read W (if c then x else y) := by
  split
  · exact hx
  · exact hy

end Writes

/-!
## Changes an operation does not see
-/

def Blind (f : σ -> σ) (x : Op σ ε α) : Prop :=
  forall s, x.run (f s) = ((x.run s).1, f (x.run s).2)

namespace Blind

variable {f : σ -> σ} {x : Op σ ε α}

theorem value (a : α) : Blind f (pure a : Op σ ε α) :=
  fun _ => rfl

theorem fail (e : ε) : Blind f (Op.fail e : Op σ ε α) :=
  fun _ => rfl

theorem ofExcept (r : Except ε α) : Blind f (Op.ofExcept r : Op σ ε α) :=
  fun _ => rfl

theorem ofOption (o : Option α) (e : ε) : Blind f (Op.ofOption o e : Op σ ε α) := by
  cases o with
  | none => exact fail e
  | some a => exact value a

theorem update {h : σ -> σ} (hcommutes : forall s, h (f s) = f (h s)) :
    Blind f (Op.update h : Op σ ε Unit) := by
  intro s
  rw [run_update, hcommutes]
  rfl

theorem bind {g : α -> Op σ ε β} (hx : Blind f x) (hg : forall a, Blind f (g a)) :
    Blind f (x >>= g) := by
  intro s
  have hfirst := hx s
  rw [run_bind, run_bind, hfirst]
  rcases x.run s with ⟨r, s'⟩
  cases r with
  | ok a => exact hg a s'
  | error e => rfl

theorem reading {g : σ -> Op σ ε β} (hsame : forall s, g (f s) = g s)
    (hg : forall s, Blind f (g s)) :
    Blind f (Op.state >>= g) := by
  intro s
  rw [run_bind, run_bind, run_state, run_state]
  dsimp only
  rw [hsame]
  exact hg s s

theorem ite {c : Prop} [Decidable c] {y : Op σ ε α} (hx : Blind f x) (hy : Blind f y) :
    Blind f (if c then x else y) := by
  split
  · exact hx
  · exact hy

end Blind

end Op

end

end Foundation
end TwoMlsPq
