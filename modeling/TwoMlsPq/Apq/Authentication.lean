import Mathlib.Data.List.Basic

/-!
# The session's Authentication Service

Each party of a session has a sequence of credentials, oldest first.  The
sequence remembers a bounded window of canonical credentials, the successors
authorized for the next canonical step, and the credentials pinned by leaves
that lag behind the window.  `AuthCore` pairs the two parties' sequences and
answers the questions an MLS library asks of an identity provider.
-/

namespace TwoMlsPq
namespace Apq

abbrev Bytes : Type :=
  List UInt8

def credentialHistoryWindow : Nat :=
  8

structure PartySequence where
  history : List Bytes
  authorizedNext : List Bytes
  pinned : List Bytes
deriving DecidableEq, Repr

namespace PartySequence

def empty : PartySequence :=
  { history := [], authorizedNext := [], pinned := [] }

def current (q : PartySequence) : Option Bytes :=
  q.history.getLast?

def contains (q : PartySequence) (id : Bytes) : Bool :=
  q.history.contains id

def position (q : PartySequence) (id : Bytes) : Option Nat :=
  q.history.findIdx? (fun h => h == id)

def isAuthorized (q : PartySequence) (id : Bytes) : Bool :=
  q.authorizedNext.contains id

def isPinned (q : PartySequence) (id : Bytes) : Bool :=
  q.pinned.contains id

def pin (q : PartySequence) (id : Bytes) : PartySequence :=
  if q.isPinned id then q else { q with pinned := q.pinned ++ [id] }

def unpin (q : PartySequence) (id : Bytes) : PartySequence :=
  { q with pinned := q.pinned.filter (fun p => p != id) }

def authorize (q : PartySequence) (id : Bytes) : PartySequence :=
  if q.isAuthorized id then q
  else { q with authorizedNext := q.authorizedNext ++ [id] }

def evict (history : List Bytes) : List Bytes :=
  history.drop (history.length - credentialHistoryWindow)

def commit (q : PartySequence) (id : Bytes) : PartySequence :=
  if q.current = some id then q
  else
    { q with
      authorizedNext := []
      history := evict (q.history.filter (fun h => h != id) ++ [id]) }

def seeded (id : Bytes) : PartySequence :=
  empty.commit id

def validSuccessor (q : PartySequence) (pred succ : Bytes) : Bool :=
  if pred = succ then true
  else if q.position pred = none ∧ q.isPinned pred = false then false
  else if q.isAuthorized succ then true
  else
    match q.position pred, q.position succ with
    | _, none => false
    | some pp, some sp => decide (pp < sp)
    | none, some _ => true

def knownIds (q : PartySequence) : List Bytes :=
  q.history ++ q.authorizedNext ++ q.pinned

end PartySequence

structure AuthCore where
  mine : PartySequence
  theirs : PartySequence
  adopting : Bool
deriving DecidableEq, Repr

namespace AuthCore

def seeded (ownId : Bytes) : AuthCore :=
  { mine := PartySequence.seeded ownId
    theirs := PartySequence.empty
    adopting := false }

def knows (c : AuthCore) (id : Bytes) : Bool :=
  c.mine.knownIds.contains id || c.theirs.knownIds.contains id

def validateMember (c : AuthCore) (id : Bytes) : Bool :=
  c.adopting || c.knows id

def validSuccessor (c : AuthCore) (pred succ : Bytes) : Bool :=
  decide (pred = succ) || c.mine.validSuccessor pred succ ||
    c.theirs.validSuccessor pred succ

end AuthCore

/-!
## The window always ends in the committed credential
-/

namespace PartySequence

theorem evict_append_singleton (history : List Bytes) (id : Bytes) :
    exists kept, evict (history ++ [id]) = kept ++ [id] := by
  have hle :
      (history ++ [id]).length - credentialHistoryWindow <= history.length := by
    simp only [List.length_append, List.length_singleton, credentialHistoryWindow]
    omega
  exact ⟨_, List.drop_append_of_le_length hle⟩

@[simp]
theorem current_commit (q : PartySequence) (id : Bytes) :
    (q.commit id).current = some id := by
  unfold commit
  by_cases h : q.current = some id
  · rw [if_pos h]
    exact h
  · rw [if_neg h]
    rcases evict_append_singleton (q.history.filter (fun h => h != id)) id
      with ⟨kept, hkept⟩
    simp [current, hkept]

theorem commit_of_current {q : PartySequence} {id : Bytes}
    (h : q.current = some id) :
    q.commit id = q := by
  unfold commit
  rw [if_pos h]

@[simp]
theorem current_authorize (q : PartySequence) (id : Bytes) :
    (q.authorize id).current = q.current := by
  unfold authorize
  split <;> rfl

@[simp]
theorem current_pin (q : PartySequence) (id : Bytes) :
    (q.pin id).current = q.current := by
  unfold pin
  split <;> rfl

@[simp]
theorem current_seeded (id : Bytes) :
    (seeded id).current = some id :=
  current_commit _ _

/-!
## What a sequence has approved
-/

theorem mem_authorize {q : PartySequence} {id x : Bytes} :
    x ∈ (q.authorize id).authorizedNext ↔ x ∈ q.authorizedNext ∨ x = id := by
  unfold authorize
  split
  next hknown =>
    have hmem : id ∈ q.authorizedNext := by
      simpa [isAuthorized] using hknown
    constructor
    · exact Or.inl
    · intro hx
      rcases hx with hx | rfl
      · exact hx
      · exact hmem
  next => simp

theorem authorize_eq_self {q : PartySequence} {id : Bytes}
    (h : id ∈ q.authorizedNext) :
    q.authorize id = q := by
  apply if_pos
  simpa [isAuthorized] using h

theorem authorizedNext_commit (q : PartySequence) (id : Bytes) :
    (q.commit id).authorizedNext =
      if q.current = some id then q.authorizedNext else [] := by
  unfold commit
  split
  · rfl
  · rfl

/-- A sequence admits what is already in it, what is approved, and the step of a
credential to itself. -/
theorem validSuccessor_admits {q : PartySequence} {pred succ : Bytes}
    (h : q.validSuccessor pred succ = true) :
    pred = succ ∨ succ ∈ q.authorizedNext ∨ succ ∈ q.history := by
  unfold validSuccessor at h
  split at h
  next hsame => exact Or.inl hsame
  next =>
    split at h
    · cases h
    · split at h
      next happroved => exact Or.inr (Or.inl (by simpa [isAuthorized] using happroved))
      next =>
        cases hposition : q.position succ with
        | none =>
            rw [hposition] at h
            cases hpred : q.position pred <;> simp at h
        | some n =>
            refine Or.inr (Or.inr ?_)
            unfold position at hposition
            rcases List.findIdx?_eq_some_iff_getElem.mp hposition with ⟨hlt, hfound, -⟩
            have hsame : q.history[n] = succ := by simpa using hfound
            rw [← hsame]
            exact List.getElem_mem hlt

end PartySequence

end Apq
end TwoMlsPq
