import Mathlib.Logic.Relation

/-!
# Fallible operations over a state that errors do not roll back

A method on a mutable receiver that returns a `Result` keeps whatever it wrote
before it failed.  `Op` is that shape: a failing operation still returns the
state it leaves behind.  The combinators below are the ones a translation of
such methods needs, and `Moves` is the program logic used for them: along
every path of an operation, also the failing ones, the state only moves along
a given preorder.
-/

namespace TwoMlsPq
namespace Foundation

abbrev Op (σ ε : Type) : Type -> Type :=
  ExceptT ε (StateM σ)

namespace Op

variable {σ ε α β : Type}

def run (x : Op σ ε α) (s : σ) : Except ε α × σ :=
  x s

def ofResult (f : σ -> Except ε α × σ) : Op σ ε α :=
  f

def state : Op σ ε σ :=
  ofResult fun s => (.ok s, s)

def update (f : σ -> σ) : Op σ ε Unit :=
  ofResult fun s => (.ok (), f s)

def fail (e : ε) : Op σ ε α :=
  ofResult fun s => (.error e, s)

def ofExcept (r : Except ε α) : Op σ ε α :=
  ofResult fun s => (r, s)

def ofOption (o : Option α) (e : ε) : Op σ ε α :=
  match o with
  | some a => pure a
  | none => fail e

def ensure (c : Prop) [Decidable c] (e : ε) : Op σ ε Unit :=
  if c then pure () else fail e

/-- Run `x` and hand its outcome back as a value, so that the caller decides
what a failure means. -/
def attempt (x : Op σ ε α) : Op σ ε (Except ε α) :=
  ofResult fun s => (.ok (x.run s).1, (x.run s).2)

def mapError (f : ε -> ε) (x : Op σ ε α) : Op σ ε α :=
  ofResult fun s =>
    match x.run s with
    | (.ok a, s') => (.ok a, s')
    | (.error e, s') => (.error (f e), s')

/-!
## Running the combinators
-/

@[simp]
theorem run_pure (a : α) (s : σ) :
    (pure a : Op σ ε α).run s = (.ok a, s) :=
  rfl

theorem run_bind (x : Op σ ε α) (f : α -> Op σ ε β) (s : σ) :
    (x >>= f).run s =
      match x.run s with
      | (.ok a, s') => (f a).run s'
      | (.error e, s') => (.error e, s') := by
  change
    (ExceptT.bindCont f (x s).1) (x s).2 = _
  unfold run
  rcases hx : x s with ⟨r, s'⟩
  cases r with
  | ok a => rfl
  | error e => rfl

theorem run_bind_ok {x : Op σ ε α} {f : α -> Op σ ε β} {s s' : σ} {a : α}
    (h : x.run s = (.ok a, s')) :
    (x >>= f).run s = (f a).run s' := by
  rw [run_bind, h]

theorem run_bind_error {x : Op σ ε α} {f : α -> Op σ ε β} {s s' : σ} {e : ε}
    (h : x.run s = (.error e, s')) :
    (x >>= f).run s = (.error e, s') := by
  rw [run_bind, h]

theorem bind_ok {x : Op σ ε α} {f : α -> Op σ ε β} {s s' : σ} {b : β}
    (h : (x >>= f).run s = (.ok b, s')) :
    exists a s₁, x.run s = (.ok a, s₁) ∧ (f a).run s₁ = (.ok b, s') := by
  rw [run_bind] at h
  rcases hx : x.run s with ⟨r, s₁⟩
  rw [hx] at h
  cases r with
  | ok a => exact ⟨a, s₁, rfl, h⟩
  | error e => cases h

@[simp]
theorem run_ofResult (f : σ -> Except ε α × σ) (s : σ) :
    (ofResult f).run s = f s :=
  rfl

@[simp]
theorem run_state (s : σ) :
    (state : Op σ ε σ).run s = (.ok s, s) :=
  rfl

@[simp]
theorem run_update (f : σ -> σ) (s : σ) :
    (update f : Op σ ε Unit).run s = (.ok (), f s) :=
  rfl

@[simp]
theorem run_fail (e : ε) (s : σ) :
    (fail e : Op σ ε α).run s = (.error e, s) :=
  rfl

@[simp]
theorem run_ofExcept (r : Except ε α) (s : σ) :
    (ofExcept r : Op σ ε α).run s = (r, s) :=
  rfl

theorem run_ofOption_some (a : α) (e : ε) (s : σ) :
    (ofOption (some a) e : Op σ ε α).run s = (.ok a, s) :=
  rfl

theorem run_ensure {c : Prop} [Decidable c] (h : c) (e : ε) (s : σ) :
    (ensure c e : Op σ ε Unit).run s = (.ok (), s) := by
  unfold ensure
  rw [if_pos h]
  rfl

theorem ofExcept_ok {r : Except ε α} {s s' : σ} {a : α}
    (h : (ofExcept r : Op σ ε α).run s = (.ok a, s')) :
    r = .ok a ∧ s = s' := by
  rw [run_ofExcept] at h
  exact ⟨congrArg Prod.fst h, congrArg Prod.snd h⟩

theorem ofOption_ok {o : Option α} {e : ε} {s s' : σ} {a : α}
    (h : (ofOption o e : Op σ ε α).run s = (.ok a, s')) :
    o = some a ∧ s = s' := by
  cases o with
  | some b =>
      rw [run_ofOption_some] at h
      cases h
      exact ⟨rfl, rfl⟩
  | none => cases h

theorem ensure_ok {c : Prop} [Decidable c] {e : ε} {s s' : σ} {a : Unit}
    (h : (ensure c e : Op σ ε Unit).run s = (.ok a, s')) :
    c ∧ s = s' := by
  unfold ensure at h
  by_cases hc : c
  · rw [if_pos hc] at h
    exact ⟨hc, congrArg Prod.snd h⟩
  · rw [if_neg hc] at h
    cases h

theorem run_ensure_not {c : Prop} [Decidable c] (h : ¬ c) (e : ε) (s : σ) :
    (ensure c e : Op σ ε Unit).run s = (.error e, s) := by
  unfold ensure
  rw [if_neg h]
  rfl

@[simp]
theorem run_attempt (x : Op σ ε α) (s : σ) :
    (attempt x).run s = (.ok (x.run s).1, (x.run s).2) :=
  rfl

/-!
## Operations that only look
-/

def Still (x : Op σ ε α) : Prop :=
  forall s, (x.run s).2 = s

namespace Still

theorem value (a : α) : Still (pure a : Op σ ε α) :=
  fun _ => rfl

theorem fail (e : ε) : Still (Op.fail e : Op σ ε α) :=
  fun _ => rfl

theorem state : Still (Op.state : Op σ ε σ) :=
  fun _ => rfl

theorem ofExcept (r : Except ε α) : Still (Op.ofExcept r : Op σ ε α) :=
  fun _ => rfl

theorem ofOption (o : Option α) (e : ε) : Still (Op.ofOption o e : Op σ ε α) := by
  cases o with
  | none => exact fail e
  | some a => exact value a

theorem ensure (c : Prop) [Decidable c] (e : ε) :
    Still (Op.ensure c e : Op σ ε Unit) := by
  unfold Op.ensure
  split
  · exact value ()
  · exact fail e

theorem bind {x : Op σ ε α} {f : α -> Op σ ε β}
    (hx : Still x) (hf : forall a, Still (f a)) :
    Still (x >>= f) := by
  intro s
  have hs := hx s
  rw [run_bind]
  rcases hrun : x.run s with ⟨r, s'⟩
  rw [hrun] at hs
  cases r with
  | ok a => exact (hf a s').trans hs
  | error e => exact hs

theorem attempt {x : Op σ ε α} (hx : Still x) : Still (Op.attempt x) :=
  hx

theorem ite {c : Prop} [Decidable c] {x y : Op σ ε α} (hx : Still x) (hy : Still y) :
    Still (if c then x else y) := by
  split
  · exact hx
  · exact hy

end Still

theorem run_bind_still {x : Op σ ε α} {f : α -> Op σ ε β}
    (hf : forall a, Still (f a)) (s : σ) :
    ((x >>= f).run s).2 = (x.run s).2 := by
  rw [run_bind]
  rcases x.run s with ⟨r, s'⟩
  cases r with
  | ok a => exact hf a s'
  | error e => rfl

/-!
## What a success returns
-/

def Returns (x : Op σ ε α) (Q : α -> Prop) : Prop :=
  forall s a, (x.run s).1 = .ok a -> Q a

namespace Returns

variable {Q : α -> Prop}

theorem any (x : Op σ ε α) : Returns x fun _ => True :=
  fun _ _ _ => True.intro

theorem value {a : α} (h : Q a) : Returns (pure a : Op σ ε α) Q := by
  intro s b hb
  cases hb
  exact h

theorem fail (e : ε) : Returns (Op.fail e : Op σ ε α) Q := by
  intro s a ha
  cases ha

theorem ofExcept (r : Except ε α) :
    Returns (Op.ofExcept r : Op σ ε α) fun a => r = .ok a :=
  fun _ _ ha => ha

theorem ofOption (o : Option α) (e : ε) :
    Returns (Op.ofOption o e : Op σ ε α) fun a => o = some a := by
  cases o with
  | none => exact fail e
  | some a => exact value rfl

theorem ensure (c : Prop) [Decidable c] (e : ε) :
    Returns (Op.ensure c e : Op σ ε Unit) fun _ => c := by
  unfold Op.ensure
  split
  next h => exact value h
  next => exact fail e

theorem attempt {x : Op σ ε α} (hx : Returns x Q) :
    Returns (Op.attempt x) fun r => forall a, r = .ok a -> Q a := by
  intro s r hr a ha
  apply hx s
  cases hr
  exact ha

theorem bind {x : Op σ ε α} {f : α -> Op σ ε β} {Q' : β -> Prop}
    (hx : Returns x Q) (hf : forall a, Q a -> Returns (f a) Q') :
    Returns (x >>= f) Q' := by
  intro s b hb
  rw [run_bind] at hb
  have hs := hx s
  rcases hrun : x.run s with ⟨r, s'⟩
  rw [hrun] at hb hs
  cases r with
  | ok a => exact hf a (hs a rfl) s' b hb
  | error e => cases hb

end Returns

/-!
## What a failure returns
-/

def Fails (x : Op σ ε α) (E : ε -> Prop) : Prop :=
  forall s e, (x.run s).1 = .error e -> E e

namespace Fails

variable {E : ε -> Prop}

theorem value (a : α) : Fails (pure a : Op σ ε α) E := by
  intro s e he
  cases he

theorem state : Fails (Op.state : Op σ ε σ) E := by
  intro s e he
  cases he

theorem update (f : σ -> σ) : Fails (Op.update f : Op σ ε Unit) E := by
  intro s e he
  cases he

theorem ofExcept {r : Except ε α} (h : forall e, r = .error e -> E e) :
    Fails (Op.ofExcept r : Op σ ε α) E :=
  fun _ e he => h e he

theorem bind {x : Op σ ε α} {f : α -> Op σ ε β}
    (hx : Fails x E) (hf : forall a, Fails (f a) E) :
    Fails (x >>= f) E := by
  intro s e he
  rw [run_bind] at he
  have hs := hx s
  rcases hrun : x.run s with ⟨r, s'⟩
  rw [hrun] at he hs
  cases r with
  | ok a => exact hf a s' e he
  | error e' =>
      cases he
      exact hs _ rfl

end Fails

/-!
## Invariants an operation keeps
-/

/-- The invariant holds again when the operation is done, also when it failed. -/
def Keeps (I : σ -> Prop) (x : Op σ ε α) : Prop :=
  forall s, I s -> I (x.run s).2

namespace Keeps

variable {I : σ -> Prop} {x : Op σ ε α}

theorem still (hx : Still x) : Keeps I x := by
  intro s hs
  rw [hx s]
  exact hs

theorem value (a : α) : Keeps I (pure a : Op σ ε α) :=
  still (Still.value a)

theorem fail (e : ε) : Keeps I (Op.fail e : Op σ ε α) :=
  still (Still.fail e)

theorem update {f : σ -> σ} (h : forall s, I s -> I (f s)) :
    Keeps I (Op.update f : Op σ ε Unit) :=
  h

theorem knowing {f : α -> Op σ ε β} {Q : α -> Prop}
    (hr : Returns x Q) (hx : Keeps I x) (hf : forall a, Q a -> Keeps I (f a)) :
    Keeps I (x >>= f) := by
  intro s hs
  have hkept := hx s hs
  have hreturned := hr s
  rw [run_bind]
  rcases hrun : x.run s with ⟨r, s'⟩
  rw [hrun] at hkept hreturned
  cases r with
  | ok a => exact hf a (hreturned a rfl) s' hkept
  | error e => exact hkept

theorem bind {f : α -> Op σ ε β}
    (hx : Keeps I x) (hf : forall a, Keeps I (f a)) :
    Keeps I (x >>= f) :=
  knowing (Returns.any x) hx fun a _ => hf a

theorem looking {f : α -> Op σ ε β}
    (hx : Still x) (hf : forall a, Keeps I (f a)) :
    Keeps I (x >>= f) :=
  bind (still hx) hf

theorem reading {f : σ -> Op σ ε β} (hf : forall s, I s -> Keeps I (f s)) :
    Keeps I (Op.state >>= f) := by
  intro s hs
  exact hf s hs s hs

theorem attempt (hx : Keeps I x) : Keeps I (Op.attempt x) :=
  hx

theorem mapError {f : ε -> ε} (hx : Keeps I x) : Keeps I (Op.mapError f x) := by
  intro s hs
  have hkept := hx s hs
  unfold Op.mapError
  rw [run_ofResult]
  rcases hrun : x.run s with ⟨r, s'⟩
  rw [hrun] at hkept
  cases r with
  | ok a => exact hkept
  | error e => exact hkept

theorem ite {c : Prop} [Decidable c] {y : Op σ ε α}
    (hx : Keeps I x) (hy : Keeps I y) :
    Keeps I (if c then x else y) := by
  split
  · exact hx
  · exact hy

end Keeps

/-!
## Moving along a preorder

`Moves R P x Q` says: started in a state satisfying `P`, the operation `x`
moves the state along `R` whether it succeeds or fails, and a success hands
over a value and a state satisfying `Q`.  The relation composes along `bind`,
so a method that is a sequence of small operations moves along `R` as soon as
each of them does.
-/

def Moves (R : σ -> σ -> Prop) (P : σ -> Prop) (x : Op σ ε α)
    (Q : α -> σ -> Prop) : Prop :=
  forall s, P s ->
    R s (x.run s).2 ∧ forall a, (x.run s).1 = .ok a -> Q a (x.run s).2

namespace Moves

variable {R : σ -> σ -> Prop} {P P' : σ -> Prop}
variable {Q : α -> σ -> Prop} {x : Op σ ε α}

theorem weaken {Q' : α -> σ -> Prop}
    (hx : Moves R P x Q)
    (hpre : forall s, P' s -> P s)
    (hpost : forall a s, Q a s -> Q' a s) :
    Moves R P' x Q' := by
  intro s hs
  rcases hx s (hpre s hs) with ⟨hmove, hok⟩
  exact ⟨hmove, fun a ha => hpost a _ (hok a ha)⟩

theorem pre
    (hx : Moves R P x Q)
    (hpre : forall s, P' s -> P s) :
    Moves R P' x Q :=
  hx.weaken hpre (fun _ _ h => h)

theorem post {Q' : α -> σ -> Prop}
    (hx : Moves R P x Q)
    (hpost : forall a s, Q a s -> Q' a s) :
    Moves R P x Q' :=
  hx.weaken (fun _ h => h) hpost

theorem bind [IsTrans σ R] {f : α -> Op σ ε β} {Q' : β -> σ -> Prop}
    (hx : Moves R P x Q)
    (hf : forall a, Moves R (Q a) (f a) Q') :
    Moves R P (x >>= f) Q' := by
  intro s hs
  rcases hx s hs with ⟨hmove, hok⟩
  rw [run_bind]
  rcases hrun : x.run s with ⟨r, s'⟩
  rw [hrun] at hmove hok
  cases r with
  | ok a =>
      rcases hf a s' (hok a rfl) with ⟨hmove', hok'⟩
      exact ⟨IsTrans.trans _ _ _ hmove hmove', hok'⟩
  | error e =>
      exact ⟨hmove, by intro b hb; cases hb⟩

theorem value [Std.Refl R] (a : α) :
    Moves R P (pure a : Op σ ε α) (fun b s => b = a ∧ P s) := by
  intro s hs
  refine ⟨Std.Refl.refl s, ?_⟩
  intro b hb
  cases hb
  exact ⟨rfl, hs⟩

theorem fail [Std.Refl R] (e : ε) :
    Moves R P (Op.fail e : Op σ ε α) Q := by
  intro s hs
  exact ⟨Std.Refl.refl s, by intro a ha; cases ha⟩

theorem state [Std.Refl R] :
    Moves R P (Op.state : Op σ ε σ) (fun a s => a = s ∧ P s) := by
  intro s hs
  refine ⟨Std.Refl.refl s, ?_⟩
  intro a ha
  cases ha
  exact ⟨rfl, hs⟩

theorem update {f : σ -> σ} {Q : Unit -> σ -> Prop}
    (h : forall s, P s -> R s (f s) ∧ Q () (f s)) :
    Moves R P (Op.update f : Op σ ε Unit) Q := by
  intro s hs
  refine ⟨(h s hs).1, ?_⟩
  intro a _
  exact (h s hs).2

theorem ofExcept [Std.Refl R] (r : Except ε α) :
    Moves R P (Op.ofExcept r) (fun a s => r = .ok a ∧ P s) := by
  intro s hs
  exact ⟨Std.Refl.refl s, fun a ha => ⟨ha, hs⟩⟩

theorem ofOption [Std.Refl R] (o : Option α) (e : ε) :
    Moves R P (Op.ofOption o e) (fun a s => o = some a ∧ P s) := by
  cases o with
  | none => exact Moves.fail e
  | some a =>
      refine (Moves.value a).post ?_
      rintro b s ⟨rfl, hs⟩
      exact ⟨rfl, hs⟩

theorem ensure [Std.Refl R] (c : Prop) [Decidable c] (e : ε) :
    Moves R P (Op.ensure c e) (fun _ s => c ∧ P s) := by
  unfold Op.ensure
  by_cases hc : c
  · rw [if_pos hc]
    exact (Moves.value ()).post fun _ _ h => ⟨hc, h.2⟩
  · rw [if_neg hc]
    exact Moves.fail e

theorem attempt
    (hx : Moves R P x Q) :
    Moves R P (Op.attempt x)
      (fun r s => forall a, r = .ok a -> Q a s) := by
  intro s hs
  rcases hx s hs with ⟨hmove, hok⟩
  refine ⟨hmove, ?_⟩
  intro r hr a ha
  apply hok
  cases hr
  exact ha

theorem mapError {f : ε -> ε}
    (hx : Moves R P x Q) :
    Moves R P (Op.mapError f x) Q := by
  intro s hs
  rcases hx s hs with ⟨hmove, hok⟩
  unfold Op.mapError
  rw [run_ofResult]
  rcases hrun : x.run s with ⟨r, s'⟩
  rw [hrun] at hmove hok
  cases r with
  | ok a => exact ⟨hmove, hok⟩
  | error e => exact ⟨hmove, by intro a ha; cases ha⟩

end Moves
end Op
end Foundation
end TwoMlsPq
