import TwoMlsPq.Foundation.Footprint

/-!
# Pre- and postconditions with two exits

An operation leaves through a success or through a failure, and in both cases
the state it leaves behind is real.  A triple therefore has two
postconditions.  An impossible failure is the postcondition `False`.
-/

namespace TwoMlsPq
namespace Foundation

namespace Op

variable {σ ε α β : Type}

/-- Started in `P`, a success of `x` ends in `Q` and a failure in `E`. -/
def Triple (P : σ -> Prop) (x : Op σ ε α) (Q : α -> σ -> Prop)
    (E : ε -> σ -> Prop) : Prop :=
  forall s, P s ->
    match (x.run s).1 with
    | .ok a => Q a (x.run s).2
    | .error e => E e (x.run s).2

def Completes (P : σ -> Prop) (x : Op σ ε α) (Q : α -> σ -> Prop) : Prop :=
  Triple P x Q fun _ _ => False

namespace Triple

variable {P P' : σ -> Prop} {Q Q' : α -> σ -> Prop} {E E' : ε -> σ -> Prop}
variable {x : Op σ ε α}

theorem ok (h : Triple P x Q E) {s : σ} (hs : P s) {a : α}
    (ha : (x.run s).1 = .ok a) :
    Q a (x.run s).2 := by
  have hrun := h s hs
  rw [ha] at hrun
  exact hrun

theorem error (h : Triple P x Q E) {s : σ} (hs : P s) {e : ε}
    (he : (x.run s).1 = .error e) :
    E e (x.run s).2 := by
  have hrun := h s hs
  rw [he] at hrun
  exact hrun

theorem always {I : σ -> Prop} (h : Triple P x (fun _ => I) fun _ => I) {s : σ}
    (hs : P s) :
    I (x.run s).2 := by
  have hrun := h s hs
  cases hresult : (x.run s).1 with
  | ok a =>
      rw [hresult] at hrun
      exact hrun
  | error e =>
      rw [hresult] at hrun
      exact hrun

theorem pre (h : Triple P x Q E) (hpre : forall s, P' s -> P s) : Triple P' x Q E :=
  fun s hs => h s (hpre s hs)

theorem weaken (h : Triple P x Q E) (hQ : forall a s, Q a s -> Q' a s)
    (hE : forall e s, E e s -> E' e s) :
    Triple P x Q' E' := by
  intro s hs
  have hrun := h s hs
  cases hresult : (x.run s).1 with
  | ok a =>
      rw [hresult] at hrun
      exact hQ a _ hrun
  | error e =>
      rw [hresult] at hrun
      exact hE e _ hrun

theorem post (h : Triple P x Q E) (hQ : forall a s, Q a s -> Q' a s) :
    Triple P x Q' E :=
  h.weaken hQ fun _ _ he => he

theorem both {E'' : ε -> σ -> Prop} (h : Triple P x Q E) (h' : Triple P' x Q' E')
    (hE : forall e s, E e s -> E' e s -> E'' e s) :
    Triple (fun s => P s ∧ P' s) x (fun a s => Q a s ∧ Q' a s) E'' := by
  intro s hs
  have hrun := h s hs.1
  have hrun' := h' s hs.2
  cases hresult : (x.run s).1 with
  | ok a =>
      rw [hresult] at hrun hrun'
      exact ⟨hrun, hrun'⟩
  | error e =>
      rw [hresult] at hrun hrun'
      exact hE e _ hrun hrun'

theorem assume {K : Prop} (h : K -> Triple P x Q E) :
    Triple (fun s => K ∧ P s) x Q E :=
  fun s hs => h hs.1 s hs.2

theorem fixed (h : forall s, P s -> Triple (fun s' => s' = s) x Q E) : Triple P x Q E :=
  fun s hs => h s hs s rfl

theorem any (x : Op σ ε α) : Triple P x (fun _ _ => True) fun _ _ => True := by
  intro s _
  cases (x.run s).1 <;> exact True.intro

theorem value {a : α} (h : forall s, P s -> Q a s) :
    Triple P (pure a : Op σ ε α) Q E :=
  h

theorem fail {e : ε} (h : forall s, P s -> E e s) :
    Triple P (Op.fail e : Op σ ε α) Q E :=
  h

theorem update {f : σ -> σ} {Q : Unit -> σ -> Prop} (h : forall s, P s -> Q () (f s)) :
    Triple P (Op.update f : Op σ ε Unit) Q E :=
  h

theorem bind {f : α -> Op σ ε β} {R : β -> σ -> Prop}
    (hx : Triple P x Q E) (hf : forall a, Triple (Q a) (f a) R E) :
    Triple P (x >>= f) R E := by
  intro s hs
  have hfirst := hx s hs
  rw [run_bind]
  rcases hrun : x.run s with ⟨r, s'⟩
  rw [hrun] at hfirst
  cases r with
  | ok a => exact hf a s' hfirst
  | error e => exact hfirst

theorem failing {e : ε} {f : α -> Op σ ε β} {R : β -> σ -> Prop}
    (h : forall s, P s -> E e s) :
    Triple P ((Op.fail e : Op σ ε α) >>= f) R E :=
  h

theorem given {a : α} {f : α -> Op σ ε β} {R : β -> σ -> Prop}
    (h : Triple P (f a) R E) :
    Triple P (Op.ofExcept (.ok a) >>= f) R E :=
  h

theorem present {a : α} {e : ε} {f : α -> Op σ ε β} {R : β -> σ -> Prop}
    (h : Triple P (f a) R E) :
    Triple P (Op.ofOption (some a) e >>= f) R E :=
  h

theorem reading {f : σ -> Op σ ε β} {R : β -> σ -> Prop}
    (hf : forall s, P s -> Triple (fun s' => s' = s) (f s) R E) :
    Triple P (Op.state >>= f) R E := by
  intro s hs
  exact hf s hs s rfl

theorem keptBy (hx : Still x) (hE : forall e s, P s -> E e s) :
    Triple P x (fun _ => P) E := by
  intro s hs
  have hstill := hx s
  cases hresult : (x.run s).1 with
  | ok a =>
      rw [hstill]
      exact hs
  | error e =>
      rw [hstill]
      exact hE e s hs

theorem looking {f : α -> Op σ ε β} {R : β -> σ -> Prop} (hx : Still x)
    (hE : forall e s, P s -> E e s) (hf : forall a, Triple P (f a) R E) :
    Triple P (x >>= f) R E :=
  bind (keptBy hx hE) hf

theorem knowing {f : α -> Op σ ε β} {R : β -> σ -> Prop} {K : α -> Prop}
    (hK : Returns x K) (hx : Triple P x Q E)
    (hf : forall a, K a -> Triple (Q a) (f a) R E) :
    Triple P (x >>= f) R E := by
  refine bind (Q := fun a s => K a ∧ Q a s) ?_ fun a s hs => hf a hs.1 s hs.2
  intro s hs
  have hreturned := hK s
  have hrun := hx s hs
  cases hresult : (x.run s).1 with
  | ok a =>
      rw [hresult] at hrun
      exact ⟨hreturned a hresult, hrun⟩
  | error e =>
      rw [hresult] at hrun
      exact hrun

theorem attempt (hx : Triple P x Q E) {E' : ε -> σ -> Prop} :
    Triple P (Op.attempt x)
      (fun r s => match r with | .ok a => Q a s | .error e => E e s) E' :=
  hx

theorem mapError {f : ε -> ε} (hx : Triple P x Q fun e s => E (f e) s) :
    Triple P (Op.mapError f x) Q E := by
  intro s hs
  have hrun := hx s hs
  unfold Op.mapError
  rw [run_ofResult]
  rcases hx' : x.run s with ⟨r, s'⟩
  rw [hx'] at hrun
  cases r with
  | ok a => exact hrun
  | error e => exact hrun

theorem ite {c : Prop} [Decidable c] {y : Op σ ε α}
    (hx : c -> Triple P x Q E) (hy : ¬ c -> Triple P y Q E) :
    Triple P (if c then x else y) Q E := by
  split
  next hc => exact hx hc
  next hc => exact hy hc

theorem ofKeeps {I : σ -> Prop} (hx : Keeps I x) :
    Triple I x (fun _ => I) fun _ => I := by
  intro s hs
  have hkept := hx s hs
  cases (x.run s).1 with
  | ok a => exact hkept
  | error e => exact hkept

theorem unwritten {κ : Type} {V : κ -> Type} {read : (i : κ) -> σ -> V i}
    {W : List κ} (hx : Writes read W x) {i : κ} (hi : i ∉ W) (v : V i) :
    Triple (fun s => read i s = v) x (fun _ s => read i s = v)
      fun _ s => read i s = v :=
  ofKeeps fun s hs => (hx s i hi).trans hs

end Triple

namespace Completes

variable {P : σ -> Prop} {Q : α -> σ -> Prop} {x : Op σ ε α}

theorem result (h : Completes P x Q) {s : σ} (hs : P s) :
    exists a, (x.run s).1 = .ok a ∧ Q a (x.run s).2 := by
  have hrun := h s hs
  cases hresult : (x.run s).1 with
  | ok a =>
      rw [hresult] at hrun
      exact ⟨a, rfl, hrun⟩
  | error e =>
      rw [hresult] at hrun
      exact hrun.elim

theorem ofExcept {r : Except ε α} {a : α} (hr : r = .ok a) :
    Completes P (Op.ofExcept r) fun b s => b = a ∧ P s := by
  subst hr
  exact fun s hs => ⟨rfl, hs⟩

end Completes

end Op

end Foundation
end TwoMlsPq
