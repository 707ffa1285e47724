import TwoMlsPq.Foundation.Runs

/-!
# A token passed over a lossy channel

Two parties share one token.  Its holder passes it on by posting a message under a
number, and the other party takes it by applying a message that was posted under the
number it has reached, which moves it past that number.  What was posted may be
applied late, again or never, and a party may also move on without taking anything.
The numbers a party posts under never run ahead of what its peer has reached, so a
message that was passed by once is passed by for good.
-/

namespace TwoMlsPq
namespace Foundation

/-- Who holds the token, what each party has reached, and what it has posted. -/
structure Passing (ι : Type) where
  holds : ι -> Bool
  reached : ι -> Nat
  posted : ι -> Nat -> Prop

namespace Passing

section

variable {ι : Type} (other : ι -> ι)

def OnItsWay (b : Passing ι) (i : ι) : Prop :=
  b.posted i (b.reached (other i))

/-- There is one token at most, held or on its way. -/
structure Exclusive (b : Passing ι) : Prop where
  held : forall i, b.holds i = true -> b.holds (other i) = false
  free : forall i, b.OnItsWay other i ->
    b.holds i = false ∧ b.holds (other i) = false
  single : forall i, b.OnItsWay other i -> ¬ b.OnItsWay other (other i)
  bounded : forall i n, b.posted i n -> n <= b.reached (other i)

/-- What party `i` may do: take the token that is on its way to it, pass on the one
it holds, or move on. -/
structure Step (i : ι) (b b' : Passing ι) : Prop where
  others : forall j, j ≠ i ->
    b'.holds j = b.holds j ∧ b'.reached j = b.reached j ∧
      forall n, b'.posted j n -> b.posted j n
  onward : b.reached i <= b'.reached i
  taken : b'.holds i = true ->
    b.holds i = true ∨ b.OnItsWay other (other i) ∧ b.reached i < b'.reached i
  posts : forall n, b'.posted i n ->
    b.posted i n ∨
      b.holds i = true ∧ b'.holds i = false ∧ n <= b.reached (other i)

variable {other} (hne : forall i, other i ≠ i) (hback : forall i, other (other i) = i)
variable (htwo : forall i j : ι, j = i ∨ j = other i)
variable {i : ι} {b b' : Passing ι}

namespace Step

include hne in
theorem bounded (h : Step other i b b') (hback : forall i, other (other i) = i)
    (htwo : forall i j : ι, j = i ∨ j = other i) (hb : b.Exclusive other) (j : ι)
    (n : Nat) (hposted : b'.posted j n) : n <= b'.reached (other j) := by
  rcases htwo i j with rfl | rfl
  · rw [(h.others _ (hne j)).2.1]
    rcases h.posts n hposted with hold | ⟨_, _, hle⟩
    · exact hb.bounded j n hold
    · exact hle
  · have hold := hb.bounded _ n ((h.others _ (hne i)).2.2 n hposted)
    rw [hback] at hold ⊢
    exact Nat.le_trans hold h.onward

include hne hback in
theorem stays (h : Step other i b b') (hb : b.Exclusive other)
    (hway : b'.OnItsWay other (other i)) :
    b.OnItsWay other (other i) ∧ b'.reached i = b.reached i := by
  unfold OnItsWay at hway ⊢
  rw [hback] at hway ⊢
  have hposted := (h.others _ (hne i)).2.2 _ hway
  have hle := hb.bounded _ _ hposted
  rw [hback] at hle
  have hsame : b'.reached i = b.reached i := Nat.le_antisymm hle h.onward
  rw [hsame] at hposted
  exact ⟨hposted, hsame⟩

include hne hback in
theorem leaves (h : Step other i b b') (hb : b.Exclusive other)
    (hway : b'.OnItsWay other (other i)) : b'.holds i = false := by
  rcases h.stays hne hback hb hway with ⟨hold, hsame⟩
  have hfree := (hb.free _ hold).2
  rw [hback] at hfree
  cases htaken : b'.holds i with
  | false => rfl
  | true =>
      rcases h.taken htaken with hheld | ⟨_, hlt⟩
      · rw [hfree] at hheld
        cases hheld
      · omega

include hne in
theorem passes (h : Step other i b b') (hway : b'.OnItsWay other i) :
    b.OnItsWay other i ∨ b.holds i = true ∧ b'.holds i = false := by
  unfold OnItsWay at hway
  rw [(h.others _ (hne i)).2.1] at hway
  rcases h.posts _ hway with hold | ⟨hheld, hpassed, _⟩
  · exact Or.inl hold
  · exact Or.inr ⟨hheld, hpassed⟩

theorem apart (h : Step other i b b') (hb : b.Exclusive other)
    (hheld : b'.holds i = true) : b.holds (other i) = false := by
  rcases h.taken hheld with hold | ⟨hway, _⟩
  · exact hb.held i hold
  · exact (hb.free _ hway).1

include hne hback htwo in
theorem exclusive (h : Step other i b b') (hb : b.Exclusive other) :
    b'.Exclusive other := by
  have hkept : b'.holds (other i) = b.holds (other i) := (h.others _ (hne i)).1
  refine
    { held := ?_
      free := ?_
      single := ?_
      bounded := h.bounded hne hback htwo hb }
  · intro j hj
    rcases htwo i j with rfl | rfl
    · rw [hkept]
      exact h.apart hb hj
    · rw [hback]
      cases hheld : b'.holds i with
      | false => rfl
      | true =>
          have hfree := h.apart hb hheld
          rw [hkept, hfree] at hj
          cases hj
  · intro j hway
    rcases htwo i j with rfl | rfl
    · rw [hkept]
      rcases h.passes hne hway with hold | ⟨hheld, hpassed⟩
      · refine ⟨?_, (hb.free j hold).2⟩
        cases htaken : b'.holds j with
        | false => rfl
        | true =>
            rcases h.taken htaken with hheld | ⟨hback, _⟩
            · rw [(hb.free j hold).1] at hheld
              cases hheld
            · exact (hb.single j hold hback).elim
      · exact ⟨hpassed, hb.held j hheld⟩
    · rw [hback, hkept]
      exact ⟨(hb.free _ (h.stays hne hback hb hway).1).1, h.leaves hne hback hb hway⟩
  · -- were both on their way, the one toward `i` was there before the step
    have hboth : b'.OnItsWay other i -> b'.OnItsWay other (other i) -> False := by
      intro hway hway'
      have hold' := (h.stays hne hback hb hway').1
      rcases h.passes hne hway with hold | ⟨hheld, _⟩
      · exact hb.single i hold hold'
      · have hfree := (hb.free _ hold').2
        rw [hback] at hfree
        rw [hfree] at hheld
        cases hheld
    intro j hway
    rcases htwo i j with rfl | rfl
    · exact hboth hway
    · rw [hback]
      exact fun hway' => hboth hway' hway

end Step

end

end Passing

end Foundation
end TwoMlsPq
