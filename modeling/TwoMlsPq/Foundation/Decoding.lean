import Mathlib.Algebra.Group.Nat.Defs
import Mathlib.Data.List.Basic

/-!
# Decoders over byte slices

A decoder reads a byte slice through indices and sub-slices.  An access out of
bounds, or a subtraction that underflows, is a panic and not an error, so the
result of a decoder has three shapes: a value, an error, or `none` for a panic.
A decoder is exact for an encoder when it gives back every valid value and
answers every byte string outside the encoder's image with an error.
-/

namespace TwoMlsPq
namespace Foundation

/-- The outcome of a decoder; `none` is a panic. -/
abbrev Guarded (ε : Type) : Type -> Type :=
  ExceptT ε Option

namespace Guarded

variable {ε α β : Type}

def refuse (e : ε) : Guarded ε α :=
  ExceptT.mk (some (.error e))

def access (o : Option α) : Guarded ε α :=
  ExceptT.lift o

def byteAt (xs : List UInt8) (i : Nat) : Guarded ε UInt8 :=
  access (xs[i]?)

def sliceTo (xs : List UInt8) (n : Nat) : Guarded ε (List UInt8) :=
  access (if n <= xs.length then some (xs.take n) else none)

def sliceFrom (xs : List UInt8) (n : Nat) : Guarded ε (List UInt8) :=
  access (if n <= xs.length then some (xs.drop n) else none)

def prefixOf (e : ε) (xs : List UInt8) (n : Nat) : Guarded ε (List UInt8) :=
  if n <= xs.length then pure (xs.take n) else refuse e

def settled (r : Except ε α) : Guarded ε α :=
  ExceptT.mk (some r)

def checkedSub (a b : Nat) : Guarded ε Nat :=
  access (if b <= a then some (a - b) else none)

def value? (x : Guarded ε α) : Option α :=
  x.run.bind Except.toOption

@[simp]
theorem value?_pure (a : α) : (pure a : Guarded ε α).value? = some a :=
  rfl

@[simp]
theorem pure_bind (a : α) (f : α -> Guarded ε β) :
    (pure a >>= f : Guarded ε β) = f a :=
  rfl

@[simp]
theorem access_some (a : α) : (access (some a) : Guarded ε α) = pure a :=
  rfl

theorem sliceTo_of_le {xs : List UInt8} {n : Nat} (h : n <= xs.length) :
    (sliceTo xs n : Guarded ε (List UInt8)) = pure (xs.take n) := by
  unfold sliceTo
  rw [if_pos h, access_some]

theorem sliceFrom_of_le {xs : List UInt8} {n : Nat} (h : n <= xs.length) :
    (sliceFrom xs n : Guarded ε (List UInt8)) = pure (xs.drop n) := by
  unfold sliceFrom
  rw [if_pos h, access_some]

theorem prefixOf_of_le (e : ε) {xs : List UInt8} {n : Nat} (h : n <= xs.length) :
    prefixOf e xs n = pure (xs.take n) := by
  unfold prefixOf
  rw [if_pos h]

theorem prefixOf_of_lt (e : ε) {xs : List UInt8} {n : Nat} (h : xs.length < n) :
    prefixOf e xs n = refuse e := by
  unfold prefixOf
  rw [if_neg (by omega)]

@[simp]
theorem settled_ok (a : α) : (settled (.ok a) : Guarded ε α) = pure a :=
  rfl

theorem checkedSub_of_le {a b : Nat} (h : b <= a) :
    (checkedSub a b : Guarded ε Nat) = pure (a - b) := by
  unfold checkedSub
  rw [if_pos h, access_some]

end Guarded

/-- The decoder gives back every valid value, and any other byte string is an
error. -/
structure Exact {ε α : Type} (valid : α -> Prop) (encode : α -> List UInt8)
    (decode : List UInt8 -> Guarded ε α) : Prop where
  roundTrip : forall a, valid a -> decode (encode a) = pure a
  outside : forall bytes, (forall a, valid a -> encode a ≠ bytes) ->
    exists e, decode bytes = Guarded.refuse e

/-- A decoder is exact when it never panics and whatever it accepts was
encoded. -/
theorem Exact.of_cases {ε α : Type} {valid : α -> Prop} {encode : α -> List UInt8}
    {decode : List UInt8 -> Guarded ε α}
    (hround : forall a, valid a -> decode (encode a) = pure a)
    (hcases : forall bytes, (exists a, valid a ∧ encode a = bytes) ∨
      exists e, decode bytes = Guarded.refuse e) :
    Exact valid encode decode where
  roundTrip := hround
  outside := by
    intro bytes hnot
    rcases hcases bytes with ⟨a, hvalid, hencode⟩ | hrefused
    · exact absurd hencode (hnot a hvalid)
    · exact hrefused

theorem Exact.of_decode {ε α : Type} {valid : α -> Prop} {encode : α -> List UInt8}
    {decode : List UInt8 -> Guarded ε α} (h : Exact valid encode decode)
    {bytes : List UInt8} {a : α} (hdecode : decode bytes = pure a) :
    valid a ∧ encode a = bytes := by
  by_cases hinside : exists b, valid b ∧ encode b = bytes
  · rcases hinside with ⟨b, hvalid, rfl⟩
    rw [h.roundTrip b hvalid] at hdecode
    cases hdecode
    exact ⟨hvalid, rfl⟩
  · rcases h.outside bytes fun b hvalid hencode => hinside ⟨b, hvalid, hencode⟩
      with ⟨e, hrefused⟩
    rw [hrefused] at hdecode
    cases hdecode

/-!
## Little-endian lengths
-/

def u32Le (a b c d : UInt8) : Nat :=
  a.toNat + 2 ^ 8 * b.toNat + 2 ^ 16 * c.toNat + 2 ^ 24 * d.toNat

def leBytes (n : Nat) : List UInt8 :=
  [UInt8.ofNat n, UInt8.ofNat (n / 2 ^ 8), UInt8.ofNat (n / 2 ^ 16),
    UInt8.ofNat (n / 2 ^ 24)]

theorem u32Le_lt (a b c d : UInt8) : u32Le a b c d < 2 ^ 32 := by
  have ha := a.toNat_lt
  have hb := b.toNat_lt
  have hc := c.toNat_lt
  have hd := d.toNat_lt
  unfold u32Le
  omega

theorem leBytes_u32Le (a b c d : UInt8) : leBytes (u32Le a b c d) = [a, b, c, d] := by
  have ha := a.toNat_lt
  have hb := b.toNat_lt
  have hc := c.toNat_lt
  have hd := d.toNat_lt
  unfold leBytes u32Le
  simp only [List.cons.injEq, and_true]
  refine ⟨?_, ?_, ?_, ?_⟩ <;> apply UInt8.toNat_inj.mp <;>
    rw [UInt8.toNat_ofNat'] <;> omega

theorem u32Le_leBytes {n : Nat} (h : n < 2 ^ 32) :
    u32Le (UInt8.ofNat n) (UInt8.ofNat (n / 2 ^ 8)) (UInt8.ofNat (n / 2 ^ 16))
      (UInt8.ofNat (n / 2 ^ 24)) = n := by
  unfold u32Le
  simp only [UInt8.toNat_ofNat']
  omega

/-!
## Length-prefixed sections
-/

section

variable {ε : Type}

def lengthPrefixed (part : List UInt8) : List UInt8 :=
  leBytes part.length ++ part

def lengthAt (xs : List UInt8) : Guarded ε Nat := do
  let a <- Guarded.byteAt xs 0
  let b <- Guarded.byteAt xs 1
  let c <- Guarded.byteAt xs 2
  let d <- Guarded.byteAt xs 3
  pure (u32Le a b c d)

theorem lengthAt_cons (a b c d : UInt8) (rest : List UInt8) :
    (lengthAt (a :: b :: c :: d :: rest) : Guarded ε Nat) = pure (u32Le a b c d) :=
  rfl

theorem four_bytes {l : List UInt8} (h : ¬ l.length < 4) :
    exists a b c d rest, l = a :: b :: c :: d :: rest := by
  match l, h with
  | a :: b :: c :: d :: rest, _ => exact ⟨a, b, c, d, rest, rfl⟩
  | [], h => exact absurd (by simp) h
  | [_], h => exact absurd (by simp) h
  | [_, _], h => exact absurd (by simp) h
  | [_, _, _], h => exact absurd (by simp) h

theorem lengthPrefixed_append (part rest : List UInt8) :
    lengthPrefixed part ++ rest =
      UInt8.ofNat part.length :: UInt8.ofNat (part.length / 2 ^ 8) ::
        UInt8.ofNat (part.length / 2 ^ 16) :: UInt8.ofNat (part.length / 2 ^ 24) ::
          (part ++ rest) :=
  rfl

theorem lengthPrefixed_u32Le (a b c d : UInt8) {part : List UInt8}
    (h : part.length = u32Le a b c d) :
    lengthPrefixed part = a :: b :: c :: d :: part := by
  unfold lengthPrefixed
  rw [h, leBytes_u32Le]
  rfl

def readSections (e : ε) : Nat -> List UInt8 -> Guarded ε (List (List UInt8))
  | 0, rest => if rest ≠ [] then Guarded.refuse e else pure []
  | n + 1, rest =>
      if rest.length < 4 then Guarded.refuse e
      else do
        let len <- lengthAt rest
        let rest <- Guarded.sliceFrom rest 4
        if rest.length < len then Guarded.refuse e
        else do
          let slot <- Guarded.sliceTo rest len
          let rest <- Guarded.sliceFrom rest len
          let slots <- readSections e n rest
          pure (slot :: slots)

theorem readSections_succ (e : ε) (n : Nat) (rest : List UInt8) :
    readSections e (n + 1) rest =
      (if rest.length < 4 then Guarded.refuse e
      else do
        let len <- lengthAt rest
        let rest <- Guarded.sliceFrom rest 4
        if rest.length < len then Guarded.refuse e
        else do
          let slot <- Guarded.sliceTo rest len
          let rest <- Guarded.sliceFrom rest len
          let slots <- readSections e n rest
          pure (slot :: slots)) :=
  rfl

theorem readSections_lengthPrefixed (e : ε) (n : Nat) {part : List UInt8}
    (hpart : part.length < 2 ^ 32) (rest : List UInt8) :
    readSections e (n + 1) (lengthPrefixed part ++ rest) =
      (do
        let slots <- readSections e n rest
        pure (part :: slots)) := by
  rw [lengthPrefixed_append, readSections_succ, if_neg (by simp), lengthAt_cons, Guarded.pure_bind,
    Guarded.sliceFrom_of_le (by simp), Guarded.pure_bind, u32Le_leBytes hpart]
  simp only [List.drop_succ_cons, List.drop_zero]
  rw [if_neg (by simp), Guarded.sliceTo_of_le (by simp), Guarded.pure_bind,
    Guarded.sliceFrom_of_le (by simp), Guarded.pure_bind, List.take_left,
    List.drop_left]

theorem readSections_flatten (e : ε) (slots : List (List UInt8))
    (hshort : forall part, part ∈ slots -> part.length < 2 ^ 32) :
    readSections e slots.length (slots.map lengthPrefixed).flatten = pure slots := by
  induction slots with
  | nil => rfl
  | cons part rest ih =>
      rw [List.map_cons, List.flatten_cons, List.length_cons,
        readSections_lengthPrefixed e _ (hshort part List.mem_cons_self),
        ih fun part hpart => hshort part (List.mem_cons_of_mem _ hpart)]
      rfl

theorem readSections_cases (e : ε) (n : Nat) (bytes : List UInt8) :
    (exists slots, slots.length = n ∧
      (forall part, part ∈ slots -> part.length < 2 ^ 32) ∧
      (slots.map lengthPrefixed).flatten = bytes ∧
      readSections e n bytes = pure slots) ∨
    readSections e n bytes = Guarded.refuse e := by
  induction n generalizing bytes with
  | zero =>
      unfold readSections
      by_cases h : bytes ≠ []
      · rw [if_pos h]
        exact Or.inr rfl
      · rw [if_neg h]
        have hnil : bytes = [] := Classical.not_not.mp h
        exact Or.inl ⟨[], rfl, by simp, by simp [hnil], rfl⟩
  | succ n ih =>
      rw [readSections_succ]
      by_cases hshort : bytes.length < 4
      · rw [if_pos hshort]
        exact Or.inr rfl
      rw [if_neg hshort]
      rcases four_bytes hshort with ⟨a, b, c, d, rest, rfl⟩
      rw [lengthAt_cons, Guarded.pure_bind, Guarded.sliceFrom_of_le (by simp),
        Guarded.pure_bind]
      simp only [List.drop_succ_cons, List.drop_zero]
      by_cases hrest : rest.length < u32Le a b c d
      · rw [if_pos hrest]
        exact Or.inr rfl
      rw [if_neg hrest]
      have hle : u32Le a b c d <= rest.length := Nat.le_of_not_lt hrest
      rw [Guarded.sliceTo_of_le hle, Guarded.pure_bind, Guarded.sliceFrom_of_le hle,
        Guarded.pure_bind]
      rcases ih (rest.drop (u32Le a b c d)) with
        ⟨slots, hlength, hsmall, hbytes, hread⟩ | hread
      · have hpart : (rest.take (u32Le a b c d)).length = u32Le a b c d :=
          List.length_take_of_le hle
        refine Or.inl ⟨rest.take (u32Le a b c d) :: slots, ?_, ?_, ?_, ?_⟩
        · rw [List.length_cons, hlength]
        · intro part hmem
          rcases List.mem_cons.mp hmem with rfl | hmem
          · rw [hpart]
            exact u32Le_lt a b c d
          · exact hsmall part hmem
        · rw [List.map_cons, List.flatten_cons, hbytes, lengthPrefixed_u32Le a b c d hpart]
          simp
        · rw [hread, Guarded.pure_bind]
      · rw [hread]
        exact Or.inr rfl

end

end Foundation
end TwoMlsPq
