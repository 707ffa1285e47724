import Mathlib.Algebra.Group.Nat.Defs
import Mathlib.Data.List.Induction
import TwoMlsPq.Foundation.Codec

/-!
# Short vectors, flags and fixed-width integers

Concrete canonical codecs: a byte string behind a length of one byte, a flag, and an
integer of eight bytes in network order.
-/

namespace TwoMlsPq
namespace Foundation

/-!
## Integers in network order
-/

def beBytes : Nat -> Nat -> List UInt8
  | 0, _ => []
  | width + 1, n => beBytes width (n / 256) ++ [UInt8.ofNat n]

def beNat (bytes : List UInt8) : Nat :=
  bytes.foldl (fun n byte => 256 * n + byte.toNat) 0

theorem beNat_append (bytes : List UInt8) (byte : UInt8) :
    beNat (bytes ++ [byte]) = 256 * beNat bytes + byte.toNat := by
  unfold beNat
  rw [List.foldl_append]
  rfl

@[simp]
theorem beBytes_length (width n : Nat) : (beBytes width n).length = width := by
  induction width generalizing n with
  | zero => rfl
  | succ width ih =>
      unfold beBytes
      rw [List.length_append, ih]
      rfl

theorem beNat_beBytes (width n : Nat) : beNat (beBytes width n) = n % 256 ^ width := by
  induction width generalizing n with
  | zero =>
      rw [Nat.pow_zero, Nat.mod_one]
      rfl
  | succ width ih =>
      unfold beBytes
      have hmod : n % (256 * 256 ^ width) = n % 256 + 256 * (n / 256 % 256 ^ width) :=
        Nat.mod_mul
      rw [beNat_append, ih, UInt8.toNat_ofNat', Nat.pow_succ 256 width,
        Nat.mul_comm (256 ^ width) 256, hmod]
      omega

theorem beNat_lt (bytes : List UInt8) : beNat bytes < 256 ^ bytes.length := by
  induction bytes using List.reverseRecOn with
  | nil => decide
  | append_singleton bytes byte ih =>
      have hbyte := byte.toNat_lt
      rw [beNat_append, List.length_append, List.length_singleton, Nat.pow_succ]
      omega

theorem beBytes_beNat (bytes : List UInt8) : beBytes bytes.length (beNat bytes) = bytes := by
  induction bytes using List.reverseRecOn with
  | nil => rfl
  | append_singleton bytes byte ih =>
      have hbyte := byte.toNat_lt
      rw [beNat_append, List.length_append, List.length_singleton]
      unfold beBytes
      have hquotient : (256 * beNat bytes + byte.toNat) / 256 = beNat bytes := by omega
      have hlast : UInt8.ofNat (256 * beNat bytes + byte.toNat) = byte := by
        apply UInt8.toNat_inj.mp
        rw [UInt8.toNat_ofNat']
        omega
      rw [hquotient, hlast, ih]

namespace Codec

def u64 : Codec UInt64 where
  encode n := some (beBytes 8 n.toNat)
  decode bytes :=
    if bytes.length < 8 then none
    else some (UInt64.ofNat (beNat (bytes.take 8)), bytes.drop 8)

theorem canonical_u64 : u64.Canonical := by
  constructor
  · intro n bytes rest h
    cases h
    have hlength : ¬ (beBytes 8 n.toNat ++ rest).length < 8 := by
      rw [List.length_append, beBytes_length]
      omega
    have hvalue : UInt64.ofNat (beNat (beBytes 8 n.toNat)) = n := by
      apply UInt64.toNat_inj.mp
      rw [UInt64.toNat_ofNat', beNat_beBytes]
      have hn := n.toNat_lt
      omega
    unfold u64
    dsimp only
    rw [if_neg hlength, List.take_left' (beBytes_length 8 _),
      List.drop_left' (beBytes_length 8 _), hvalue]
  · intro bytes n rest h
    unfold u64 at h
    dsimp only at h
    split at h
    · cases h
    next hlength =>
      cases h
      have htake : (bytes.take 8).length = 8 := List.length_take_of_le (by omega)
      have hbound : beNat (bytes.take 8) < 256 ^ 8 := by
        have hlt := beNat_lt (bytes.take 8)
        rw [htake] at hlt
        exact hlt
      refine ⟨bytes.take 8, ?_, (List.take_append_drop 8 bytes).symm⟩
      have hvalue : (UInt64.ofNat (beNat (bytes.take 8))).toNat = beNat (bytes.take 8) := by
        rw [UInt64.toNat_ofNat']
        exact Nat.mod_eq_of_lt hbound
      have hround := beBytes_beNat (bytes.take 8)
      rw [htake] at hround
      unfold u64
      dsimp only
      rw [hvalue, hround]

theorem filling_u64 : u64.Filling := by
  intro n h
  have hlength := congrArg (Option.map List.length) h
  unfold u64 at hlength
  simp at hlength

def flag : Codec Bool where
  encode b := some [if b then 1 else 0]
  decode
    | 0 :: rest => some (false, rest)
    | 1 :: rest => some (true, rest)
    | _ => none

theorem canonical_flag : flag.Canonical := by
  constructor
  · intro b bytes rest h
    cases b with
    | true =>
        cases h
        rfl
    | false =>
        cases h
        rfl
  · intro bytes b rest h
    unfold flag at h
    dsimp only at h
    split at h
    · cases h
      exact ⟨[0], rfl, rfl⟩
    · cases h
      exact ⟨[1], rfl, rfl⟩
    · cases h

def shortBytes : Codec (List UInt8) where
  encode content :=
    if content.length < 64 then some (UInt8.ofNat content.length :: content) else none
  decode
    | [] => none
    | length :: rest =>
        if length.toNat < 64 ∧ length.toNat <= rest.length then
          some (rest.take length.toNat, rest.drop length.toNat)
        else none

theorem canonical_shortBytes : shortBytes.Canonical := by
  constructor
  · intro content bytes rest h
    unfold shortBytes at h ⊢
    dsimp only at h
    split at h
    next hshort =>
      cases h
      have hlength : (UInt8.ofNat content.length).toNat = content.length := by
        rw [UInt8.toNat_ofNat']
        omega
      rw [List.cons_append]
      dsimp only
      rw [hlength, if_pos ⟨hshort, by simp⟩, List.take_left, List.drop_left]
    next => cases h
  · intro bytes content rest h
    unfold shortBytes at h
    dsimp only at h
    split at h
    · cases h
    next length tail =>
      split at h
      next hfits =>
        cases h
        have hlength : (tail.take length.toNat).length = length.toNat :=
          List.length_take_of_le hfits.2
        refine ⟨length :: tail.take length.toNat, ?_, ?_⟩
        · unfold shortBytes
          dsimp only
          rw [hlength, if_pos hfits.1, UInt8.ofNat_toNat]
        · rw [List.cons_append, List.take_append_drop]
      next => cases h

theorem filling_shortBytes : shortBytes.Filling := by
  intro content h
  unfold shortBytes at h
  dsimp only at h
  split at h
  · cases h
  · cases h

end Codec

end Foundation
end TwoMlsPq
