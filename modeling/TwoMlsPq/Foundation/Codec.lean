import Mathlib.Data.List.Basic

/-!
# Codecs that read from the front

A codec writes a value as bytes, unless it is too large, and reads one from the front
of a byte string, handing back what follows it.  It is canonical when it reads back
what it wrote, whatever follows, and reads nothing else.  Canonical codecs compose:
one after the other, through an isomorphism, and as the items of a vector.
-/

namespace TwoMlsPq
namespace Foundation

structure Codec (α : Type) where
  encode : α -> Option (List UInt8)
  decode : List UInt8 -> Option (α × List UInt8)

namespace Codec

variable {α β : Type}

structure Canonical (c : Codec α) : Prop where
  decodes : forall a bytes rest, c.encode a = some bytes ->
    c.decode (bytes ++ rest) = some (a, rest)
  exact : forall bytes a rest, c.decode bytes = some (a, rest) ->
    exists part, c.encode a = some part ∧ bytes = part ++ rest

def Filling (c : Codec α) : Prop :=
  forall a, c.encode a ≠ some []

theorem Canonical.whole {c : Codec α} (hc : c.Canonical) {a : α} {bytes : List UInt8} :
    c.decode bytes = some (a, []) <-> c.encode a = some bytes := by
  constructor
  · intro h
    rcases hc.exact bytes a [] h with ⟨part, hpart, hbytes⟩
    rw [hbytes, List.append_nil]
    exact hpart
  · intro h
    have hdecoded := hc.decodes a bytes [] h
    rw [List.append_nil] at hdecoded
    exact hdecoded

/-!
## One after the other
-/

def both (c : Codec α) (d : Codec β) : Codec (α × β) where
  encode p := do
    let first <- c.encode p.1
    let second <- d.encode p.2
    pure (first ++ second)
  decode bytes := do
    let (a, rest) <- c.decode bytes
    let (b, rest) <- d.decode rest
    pure ((a, b), rest)

theorem both_encode {c : Codec α} {d : Codec β} {a : α} {b : β} {bytes : List UInt8} :
    (c.both d).encode (a, b) = some bytes <->
      exists first second, c.encode a = some first ∧ d.encode b = some second ∧
        bytes = first ++ second := by
  unfold both
  cases ha : c.encode a with
  | none => simp [ha]
  | some first =>
      cases hb : d.encode b with
      | none => simp [ha, hb]
      | some second =>
          simp only [ha, hb, Option.bind_eq_bind, Option.bind_some, Option.pure_def,
            Option.some.injEq]
          constructor
          · rintro rfl
            exact ⟨first, second, rfl, rfl, rfl⟩
          · rintro ⟨_, _, rfl, rfl, rfl⟩
            rfl

theorem both_decode {c : Codec α} {d : Codec β} {a : α} {b : β}
    {bytes rest : List UInt8} :
    (c.both d).decode bytes = some ((a, b), rest) <->
      exists middle, c.decode bytes = some (a, middle) ∧
        d.decode middle = some (b, rest) := by
  unfold both
  cases ha : c.decode bytes with
  | none => simp [ha]
  | some p =>
      rcases p with ⟨a', middle⟩
      cases hb : d.decode middle with
      | none =>
          simp only [ha, hb, Option.bind_eq_bind, Option.bind_some, Option.bind_none]
          constructor
          · intro h
            cases h
          · rintro ⟨_, h, h'⟩
            cases h
            rw [hb] at h'
            cases h'
      | some p' =>
          rcases p' with ⟨b', rest'⟩
          simp only [ha, hb, Option.bind_eq_bind, Option.bind_some, Option.pure_def]
          constructor
          · intro h
            cases h
            exact ⟨middle, rfl, hb⟩
          · rintro ⟨_, h, h'⟩
            cases h
            rw [hb] at h'
            cases h'
            rfl

theorem Canonical.both {c : Codec α} {d : Codec β} (hc : c.Canonical)
    (hd : d.Canonical) :
    (c.both d).Canonical := by
  constructor
  · rintro ⟨a, b⟩ bytes rest h
    rcases both_encode.mp h with ⟨first, second, ha, hb, rfl⟩
    rw [both_decode, List.append_assoc]
    exact ⟨second ++ rest, hc.decodes a first _ ha, hd.decodes b second rest hb⟩
  · rintro bytes ⟨a, b⟩ rest h
    rcases both_decode.mp h with ⟨middle, ha, hb⟩
    rcases hc.exact bytes a middle ha with ⟨first, hfirst, rfl⟩
    rcases hd.exact middle b rest hb with ⟨second, hsecond, rfl⟩
    exact ⟨first ++ second, both_encode.mpr ⟨first, second, hfirst, hsecond, rfl⟩,
      (List.append_assoc first second rest).symm⟩

theorem Filling.both {c : Codec α} {d : Codec β} (hc : c.Filling) :
    (c.both d).Filling := by
  rintro ⟨a, b⟩ h
  rcases both_encode.mp h with ⟨first, second, ha, _, hempty⟩
  rw [(List.append_eq_nil_iff.mp hempty.symm).1] at ha
  exact hc a ha

/-!
## The same bytes for other values
-/

def along (c : Codec α) (f : β -> α) (g : α -> β) : Codec β where
  encode b := c.encode (f b)
  decode bytes := (c.decode bytes).map fun p => (g p.1, p.2)

theorem along_decode {c : Codec α} {f : β -> α} {g : α -> β} {b : β}
    {bytes rest : List UInt8} :
    (c.along f g).decode bytes = some (b, rest) <->
      exists a, c.decode bytes = some (a, rest) ∧ g a = b := by
  unfold along
  rw [Option.map_eq_some_iff]
  constructor
  · rintro ⟨⟨a, rest'⟩, h, heq⟩
    cases heq
    exact ⟨a, h, rfl⟩
  · rintro ⟨a, h, rfl⟩
    exact ⟨(a, rest), h, rfl⟩

theorem Canonical.along {c : Codec α} (hc : c.Canonical) {f : β -> α} {g : α -> β}
    (hgf : forall b, g (f b) = b) (hfg : forall a, f (g a) = a) :
    (c.along f g).Canonical := by
  constructor
  · intro b bytes rest h
    exact along_decode.mpr ⟨f b, hc.decodes (f b) bytes rest h, hgf b⟩
  · intro bytes b rest h
    rcases along_decode.mp h with ⟨a, ha, rfl⟩
    rcases hc.exact bytes a rest ha with ⟨part, hpart, hbytes⟩
    refine ⟨part, ?_, hbytes⟩
    change c.encode (f (g a)) = some part
    rw [hfg]
    exact hpart

/-!
## Values that may be absent
-/

def optional (mark : Codec Bool) (c : Codec α) : Codec (Option α) where
  encode
    | none => mark.encode false
    | some a => (mark.both c).encode (true, a)
  decode bytes := do
    let (present, rest) <- mark.decode bytes
    if present then do
      let (a, rest) <- c.decode rest
      pure (some a, rest)
    else pure (none, rest)

theorem Canonical.optional {mark : Codec Bool} {c : Codec α} (hmark : mark.Canonical)
    (hc : c.Canonical) :
    (mark.optional c).Canonical := by
  constructor
  · intro o bytes rest h
    unfold Codec.optional at h ⊢
    cases o with
    | none =>
        dsimp only at h
        simp [hmark.decodes false bytes rest h]
    | some a =>
        rcases both_encode.mp h with ⟨first, second, hfirst, hsecond, rfl⟩
        simp [hmark.decodes true first _ hfirst, hc.decodes a second rest hsecond]
  · intro bytes o rest h
    unfold Codec.optional at h ⊢
    cases hfirst : mark.decode bytes with
    | none => simp [hfirst] at h
    | some p =>
        rcases p with ⟨present, middle⟩
        rcases hmark.exact bytes present middle hfirst with ⟨first, hmarked, rfl⟩
        cases present with
        | false =>
            simp [hfirst] at h
            rcases h with ⟨rfl, rfl⟩
            exact ⟨first, hmarked, rfl⟩
        | true =>
            cases hsecond : c.decode middle with
            | none => simp [hfirst, hsecond] at h
            | some q =>
                rcases q with ⟨a, last⟩
                simp [hfirst, hsecond] at h
                rcases h with ⟨rfl, rfl⟩
                rcases hc.exact middle a last hsecond with ⟨second, ha, rfl⟩
                exact ⟨first ++ second,
                  both_encode.mpr ⟨first, second, hmarked, ha, rfl⟩,
                  (List.append_assoc first second last).symm⟩

/-!
## Vectors
-/

def encodeItems (c : Codec α) : List α -> Option (List UInt8)
  | [] => some []
  | a :: items => do
      let part <- c.encode a
      let rest <- encodeItems c items
      pure (part ++ rest)

def decodeItems (c : Codec α) : Nat -> List UInt8 -> Option (List α)
  | 0, bytes => if bytes = [] then some [] else none
  | n + 1, bytes =>
      if bytes = [] then some []
      else do
        let (a, rest) <- c.decode bytes
        let items <- decodeItems c n rest
        pure (a :: items)

/-- The items behind their length in bytes; `frame` writes a byte string behind its
length. -/
def vector (frame : Codec (List UInt8)) (c : Codec α) : Codec (List α) where
  encode items := do
    let content <- c.encodeItems items
    frame.encode content
  decode bytes := do
    let (content, rest) <- frame.decode bytes
    let items <- c.decodeItems content.length content
    pure (items, rest)

theorem encodeItems_cons {c : Codec α} {a : α} {items : List α} {bytes : List UInt8} :
    c.encodeItems (a :: items) = some bytes <->
      exists part rest, c.encode a = some part ∧ c.encodeItems items = some rest ∧
        bytes = part ++ rest :=
  both_encode (c := c) (d := { encode := c.encodeItems, decode := fun _ => none })

theorem decodeItems_encode {c : Codec α} (hc : c.Canonical) (hfills : c.Filling)
    {items : List α} {bytes : List UInt8} (h : c.encodeItems items = some bytes)
    {n : Nat} (hn : bytes.length <= n) :
    c.decodeItems n bytes = some items := by
  induction items generalizing bytes n with
  | nil =>
      cases h
      cases n with
      | zero => rfl
      | succ n => rfl
  | cons a items ih =>
      rcases encodeItems_cons.mp h with ⟨part, rest, ha, hitems, rfl⟩
      have hfull : part ≠ [] := by
        rintro rfl
        exact hfills a ha
      have hpart : 0 < part.length := List.length_pos_iff.mpr hfull
      rw [List.length_append] at hn
      cases n with
      | zero => omega
      | succ n =>
          have hnonempty : part ++ rest ≠ [] := by
            intro hnil
            exact hfull (List.append_eq_nil_iff.mp hnil).1
          unfold decodeItems
          rw [if_neg hnonempty, hc.decodes a part rest ha]
          simp only [Option.bind_eq_bind, Option.bind_some]
          rw [ih hitems (by omega)]
          rfl

theorem decodeItems_exact {c : Codec α} (hc : c.Canonical) {items : List α} {n : Nat}
    {bytes : List UInt8} (h : c.decodeItems n bytes = some items) :
    c.encodeItems items = some bytes := by
  induction n generalizing bytes items with
  | zero =>
      unfold decodeItems at h
      split at h
      next hnil =>
        cases h
        rw [hnil]
        rfl
      next => cases h
  | succ n ih =>
      unfold decodeItems at h
      split at h
      next hnil =>
        cases h
        rw [hnil]
        rfl
      next =>
        cases hfirst : c.decode bytes with
        | none => simp [hfirst] at h
        | some p =>
            rcases p with ⟨a, rest⟩
            cases hrest : c.decodeItems n rest with
            | none => simp [hfirst, hrest] at h
            | some tail =>
                simp [hfirst, hrest] at h
                rcases hc.exact bytes a rest hfirst with ⟨part, hpart, rfl⟩
                rw [← h]
                exact encodeItems_cons.mpr ⟨part, rest, hpart, ih hrest, rfl⟩

theorem Canonical.vector {frame : Codec (List UInt8)} {c : Codec α}
    (hframe : frame.Canonical) (hc : c.Canonical) (hfills : c.Filling) :
    (frame.vector c).Canonical := by
  constructor
  · intro items bytes rest h
    unfold Codec.vector at h ⊢
    cases hcontent : c.encodeItems items with
    | none => simp [hcontent] at h
    | some content =>
        simp [hcontent] at h
        simp only [hframe.decodes content bytes rest h, Option.bind_eq_bind,
          Option.bind_some]
        rw [decodeItems_encode hc hfills hcontent (Nat.le_refl _)]
        rfl
  · intro bytes items rest h
    unfold Codec.vector at h ⊢
    cases hcontent : frame.decode bytes with
    | none => simp [hcontent] at h
    | some p =>
        rcases p with ⟨content, rest'⟩
        cases hitems : c.decodeItems content.length content with
        | none => simp [hcontent, hitems] at h
        | some items' =>
            simp [hcontent, hitems] at h
            rcases h with ⟨rfl, rfl⟩
            rcases hframe.exact bytes content _ hcontent with ⟨part, hpart, hbytes⟩
            refine ⟨part, ?_, hbytes⟩
            simp only [decodeItems_exact hc hitems, Option.bind_eq_bind,
              Option.bind_some]
            exact hpart

end Codec

end Foundation
end TwoMlsPq
