import TwoMlsPq.Foundation.KeyedLog
import TwoMlsPq.Foundation.Ordered
import Mathlib.Order.Lattice

/-!
# Windows of dated entries

A clock runs forward, and once started it does not stop.  A window holds entries
dated by the readings of the clock at which they were made: the dates ascend, and
none lies ahead of the clock.  An entry is made once; the window forgets its oldest
entries, and a date that was forgotten does not come back.
-/

namespace TwoMlsPq
namespace Foundation

section

variable {τ ν : Type} [LinearOrder τ]

/-!
## The clock
-/

def Later : Option τ -> Option τ -> Prop
  | none, _ => True
  | some _, none => False
  | some t, some t' => t <= t'

theorem Later.refl (now : Option τ) : Later now now := by
  cases now with
  | none => exact True.intro
  | some t => exact le_refl t

theorem Later.trans {now now' now'' : Option τ} (h : Later now now')
    (h' : Later now' now'') : Later now now'' := by
  cases now with
  | none => exact True.intro
  | some t =>
      cases now' with
      | none => exact h.elim
      | some t' =>
          cases now'' with
          | none => exact h'.elim
          | some t'' => exact le_trans h h'

theorem Later.started {t : τ} {now : Option τ} (h : Later (some t) now) :
    exists t', now = some t' ∧ t <= t' := by
  cases now with
  | none => exact h.elim
  | some t' => exact ⟨t', rfl, h⟩

def Past (now : Option τ) (d : τ) : Prop :=
  exists t, now = some t ∧ d <= t

theorem Past.later {now now' : Option τ} {d : τ} (h : Past now d)
    (hlater : Later now now') : Past now' d := by
  rcases h with ⟨t, rfl, hle⟩
  rcases hlater.started with ⟨t', rfl, hle'⟩
  exact ⟨t', rfl, le_trans hle hle'⟩

def Gone (now : Option τ) (d : τ) : Prop :=
  exists t, now = some t ∧ d < t

theorem Gone.later {now now' : Option τ} {d : τ} (h : Gone now d)
    (hlater : Later now now') : Gone now' d := by
  rcases h with ⟨t, rfl, hlt⟩
  rcases hlater.started with ⟨t', rfl, hle⟩
  exact ⟨t', rfl, lt_of_lt_of_le hlt hle⟩

theorem Gone.not_now {now : Option τ} {d : τ} (h : Gone now d) : now ≠ some d := by
  rcases h with ⟨t, rfl, hlt⟩
  intro heq
  exact lt_irrefl d (Option.some.inj heq ▸ hlt)

/-!
## Windows
-/

structure Dated (now : Option τ) (entries : List (τ × ν)) : Prop where
  ascending : AscendingBy Prod.fst entries
  past : forall e, e ∈ entries -> Past now e.1

namespace Dated

variable {now now' : Option τ} {entries : List (τ × ν)}

theorem nothing : Dated now ([] : List (τ × ν)) :=
  { ascending := List.Pairwise.nil, past := fun _ h => absurd h List.not_mem_nil }

theorem later (h : Dated now entries) (hlater : Later now now') : Dated now' entries :=
  { ascending := h.ascending, past := fun e he => (h.past e he).later hlater }

theorem forget {kept : List (τ × ν)} (h : Dated now entries)
    (hkept : kept.Sublist entries) : Dated now kept :=
  { ascending := h.ascending.sublist hkept
    past := fun e he => h.past e (hkept.subset he) }

theorem behind {t : τ} (h : Dated (some t) entries)
    (hnew : forall e, e ∈ entries -> e.1 ≠ t) :
    forall e, e ∈ entries -> e.1 < t := by
  intro e he
  rcases h.past e he with ⟨t', heq, hle⟩
  cases heq
  exact lt_of_le_of_ne hle (hnew e he)

theorem append {t : τ} (h : Dated (some t) entries)
    (hnew : forall e, e ∈ entries -> e.1 ≠ t) (v : ν) :
    Dated (some t) (entries ++ [(t, v)]) := by
  constructor
  · refine List.pairwise_append.mpr ⟨h.ascending, List.pairwise_singleton _ _, ?_⟩
    intro e he e' he'
    rw [List.mem_singleton.mp he']
    exact h.behind hnew e he
  · intro e he
    rcases List.mem_append.mp he with hold | hlast
    · exact h.past e hold
    · rw [List.mem_singleton.mp hlast]
      exact ⟨t, rfl, le_refl t⟩

theorem place {t : τ} (h : Dated (some t) entries)
    (hnew : forall e, e ∈ entries -> e.1 ≠ t) (v : ν) :
    Ordered.place Prod.fst (t, v) entries = entries ++ [(t, v)] :=
  Ordered.place_last fun e he => h.behind hnew e he

theorem unique (h : Dated now entries) {d : τ} {v v' : ν} (hv : (d, v) ∈ entries)
    (hv' : (d, v') ∈ entries) : v' = v := by
  have hdistinct : (entries.map Prod.fst).Nodup := by
    have hascending := List.pairwise_map.mpr h.ascending
    exact hascending.imp fun hlt => ne_of_lt hlt
  have hsame := List.inj_on_of_nodup_map hdistinct hv hv' rfl
  exact (Prod.mk.inj hsame).2.symm

end Dated

/-!
## What a date stands for
-/

/-- The date has its value: it is in the window with it, or it was forgotten and
lies behind the clock. -/
structure Fixed (now : Option τ) (entries : List (τ × ν)) (d : τ) (v : ν) : Prop where
  sole : forall v', (d, v') ∈ entries -> v' = v
  kept : (d, v) ∈ entries ∨ Gone now d

namespace Fixed

variable {now now' : Option τ} {entries : List (τ × ν)} {d : τ} {v : ν}

theorem ofMem (h : Dated now entries) (hv : (d, v) ∈ entries) :
    Fixed now entries d v :=
  { sole := fun _ hv' => h.unique hv hv', kept := Or.inl hv }

theorem later (h : Fixed now entries d v) (hlater : Later now now') :
    Fixed now' entries d v :=
  { sole := h.sole, kept := h.kept.imp_right fun hgone => hgone.later hlater }

theorem push {t : τ} (hdated : Dated (some t) entries) (h : Fixed (some t) entries d v)
    (hnew : forall e, e ∈ entries -> e.1 ≠ t) (v' : ν) {kept : List (τ × ν)}
    (hkept : kept.Sublist (entries ++ [(t, v')])) : Fixed (some t) kept d v := by
  have hbehind : Gone (some t) d := by
    rcases h.kept with hmem | hgone
    · exact ⟨t, rfl, hdated.behind hnew (d, v) hmem⟩
    · exact hgone
  have hne : d ≠ t := fun heq => hbehind.not_now (congrArg some heq.symm)
  constructor
  · intro w hw
    rcases List.mem_append.mp (hkept.subset hw) with hold | hlast
    · exact h.sole w hold
    · exact absurd (Prod.mk.inj (List.mem_singleton.mp hlast)).1 hne
  · exact Or.inr hbehind

end Fixed

end

end Foundation
end TwoMlsPq
