import Mathlib.Data.List.Nodup
import Mathlib.Data.List.Induction

/-!
# Bounded logs of keyed entries

A log grows by inserted entries, overwrites the entry of a key when it holds one, and
forgets its oldest entries.  Every entry it holds has the value last written to its key,
also where updates of forgotten keys came in between.
-/

namespace TwoMlsPq
namespace Foundation

def newest {α : Type} (n : Nat) (xs : List α) : List α :=
  xs.drop (xs.length - n)

theorem newest_length {α : Type} (n : Nat) (xs : List α) : (newest n xs).length <= n := by
  unfold newest
  rw [List.length_drop]
  omega

theorem newest_sublist {α : Type} (n : Nat) (xs : List α) : (newest n xs).Sublist xs :=
  List.drop_sublist _ _

theorem map_newest {α β : Type} (f : α -> β) (n : Nat) (xs : List α) :
    (newest n xs).map f = newest n (xs.map f) := by
  unfold newest
  rw [List.map_drop, List.length_map]

theorem newest_append {α : Type} (n : Nat) (xs ys : List α) :
    newest n (newest n xs ++ ys) = newest n (xs ++ ys) := by
  unfold newest
  by_cases h : n <= xs.length
  · have hlength : (xs.drop (xs.length - n)).length = n := by
      rw [List.length_drop]
      omega
    have hsplit : xs.take (xs.length - n) ++ xs.drop (xs.length - n) = xs :=
      List.take_append_drop _ _
    rw [List.length_append, hlength, List.length_append]
    rw [← List.drop_append_of_le_length (by omega), List.drop_drop]
    congr 1
    omega
  · have hwhole : xs.drop (xs.length - n) = xs := by
      rw [Nat.sub_eq_zero_of_le (by omega : xs.length <= n), List.drop_zero]
    rw [hwhole]

theorem newest_getLast {α : Type} {n : Nat} (h : 0 < n) (xs : List α) :
    (newest n xs).getLast? = xs.getLast? := by
  cases xs using List.reverseRecOn with
  | nil => simp [newest]
  | append_singleton xs x =>
      unfold newest
      rw [List.drop_append_of_le_length (by rw [List.length_append]; simp; omega)]
      simp

section

variable {κ ν : Type} [DecidableEq κ]

inductive LogEvent (κ ν : Type) where
  | insert (key : κ) (value : ν)
  | update (key : κ) (value : ν)

def written (key : κ) (value : Option ν) : LogEvent κ ν -> Option ν
  | .insert k v => if k = key then some v else value
  | .update k v => if k = key then value.map fun _ => v else value

def latest (events : List (LogEvent κ ν)) (key : κ) : Option ν :=
  events.foldl (written key) none

theorem latest_append (events : List (LogEvent κ ν)) (e : LogEvent κ ν) (key : κ) :
    latest (events ++ [e]) key = written key (latest events key) e := by
  unfold latest
  rw [List.foldl_append]
  rfl

def overwrite (log : List (κ × ν)) (key : κ) (value : ν) : List (κ × ν) :=
  match log with
  | [] => []
  | e :: rest => if e.1 = key then (e.1, value) :: rest else e :: overwrite rest key value

theorem overwrite_keys (log : List (κ × ν)) (key : κ) (value : ν) :
    (overwrite log key value).map Prod.fst = log.map Prod.fst := by
  induction log with
  | nil => rfl
  | cons e rest ih =>
      unfold overwrite
      split
      · rfl
      · rw [List.map_cons, ih, List.map_cons]

theorem mem_overwrite {log : List (κ × ν)} (hdistinct : (log.map Prod.fst).Nodup)
    {key : κ} {value : ν} {e : κ × ν} (h : e ∈ overwrite log key value) :
    (e = (key, value) ∧ exists old, (key, old) ∈ log) ∨ (e ∈ log ∧ e.1 ≠ key) := by
  induction log with
  | nil => cases h
  | cons first rest ih =>
      rw [List.map_cons, List.nodup_cons] at hdistinct
      unfold overwrite at h
      split at h
      next hkey =>
        subst hkey
        rcases List.mem_cons.mp h with rfl | hrest
        · exact Or.inl ⟨rfl, first.2, List.mem_cons_self⟩
        · refine Or.inr ⟨List.mem_cons_of_mem _ hrest, ?_⟩
          intro hsame
          apply hdistinct.1
          rw [← hsame]
          exact List.mem_map_of_mem hrest
      next hkey =>
        rcases List.mem_cons.mp h with rfl | hrest
        · exact Or.inr ⟨List.mem_cons_self, hkey⟩
        · rcases ih hdistinct.2 hrest with ⟨heq, old, hold⟩ | ⟨hmem, hne⟩
          · exact Or.inl ⟨heq, old, List.mem_cons_of_mem _ hold⟩
          · exact Or.inr ⟨List.mem_cons_of_mem _ hmem, hne⟩

structure Logs (events : List (LogEvent κ ν)) (log : List (κ × ν)) : Prop where
  distinct : (log.map Prod.fst).Nodup
  values : forall e, e ∈ log -> latest events e.1 = some e.2

namespace Logs

variable {events : List (LogEvent κ ν)} {log : List (κ × ν)}

theorem nothing : Logs (κ := κ) (ν := ν) [] [] :=
  { distinct := List.nodup_nil, values := fun _ h => by cases h }

theorem insert (h : Logs events log) {key : κ} (value : ν)
    (hnew : key ∉ log.map Prod.fst) :
    Logs (events ++ [.insert key value]) (log ++ [(key, value)]) := by
  constructor
  · rw [List.map_append, List.nodup_append]
    refine ⟨h.distinct, by simp, ?_⟩
    intro a ha b hb
    rw [List.map_singleton, List.mem_singleton] at hb
    rintro rfl
    rw [hb] at ha
    exact hnew ha
  · intro e he
    rw [latest_append]
    unfold written
    rcases List.mem_append.mp he with hold | hlast
    · have hne : key ≠ e.1 := by
        rintro rfl
        exact hnew (List.mem_map_of_mem hold)
      dsimp only
      rw [if_neg hne]
      exact h.values e hold
    · rw [List.mem_singleton] at hlast
      rw [hlast]
      exact if_pos rfl

theorem update (h : Logs events log) (key : κ) (value : ν) :
    Logs (events ++ [.update key value]) (overwrite log key value) := by
  constructor
  · rw [overwrite_keys]
    exact h.distinct
  · intro e he
    rw [latest_append]
    unfold written
    dsimp only
    rcases mem_overwrite h.distinct he with ⟨rfl, old, hold⟩ | ⟨hmem, hne⟩
    · rw [if_pos rfl, h.values (key, old) hold]
      rfl
    · rw [if_neg fun heq => hne heq.symm]
      exact h.values e hmem

theorem forget (h : Logs events log) {kept : List (κ × ν)} (hkept : kept.Sublist log) :
    Logs events kept :=
  { distinct := h.distinct.sublist (hkept.map Prod.fst)
    values := fun e he => h.values e (hkept.subset he) }

theorem inserts (h : Logs events log) {entries : List (κ × ν)}
    (hnew : ((log ++ entries).map Prod.fst).Nodup) :
    Logs (events ++ entries.map fun e => .insert e.1 e.2) (log ++ entries) := by
  induction entries generalizing events log with
  | nil =>
      rw [List.map_nil, List.append_nil, List.append_nil]
      exact h
  | cons e rest ih =>
      have hsplit : log ++ e :: rest = log ++ [e] ++ rest := by simp
      have hfresh : e.1 ∉ log.map Prod.fst := by
        rw [List.map_append, List.map_cons, List.nodup_append] at hnew
        intro hmem
        exact hnew.2.2 e.1 hmem e.1 List.mem_cons_self rfl
      rw [hsplit] at hnew ⊢
      have hrest := ih (h.insert e.2 hfresh) hnew
      rw [List.append_assoc] at hrest
      exact hrest

theorem updates (h : Logs events log) (entries : List (κ × ν)) :
    Logs (events ++ entries.map fun e => .update e.1 e.2)
      (entries.foldl (fun log e => overwrite log e.1 e.2) log) := by
  induction entries generalizing events log with
  | nil =>
      rw [List.map_nil, List.append_nil]
      exact h
  | cons e rest ih =>
      have hrest := ih (h.update e.1 e.2)
      rw [List.append_assoc] at hrest
      exact hrest

end Logs

theorem updates_keys (log entries : List (κ × ν)) :
    (entries.foldl (fun log e => overwrite log e.1 e.2) log).map Prod.fst =
      log.map Prod.fst := by
  induction entries generalizing log with
  | nil => rfl
  | cons e rest ih =>
      rw [List.foldl_cons, ih, overwrite_keys]

end

end Foundation
end TwoMlsPq
