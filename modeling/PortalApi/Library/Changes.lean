import Mathlib.Data.List.Induction
import Mathlib.Data.Set.Insert
import PortalApi.Library.Machine

/-! A set under additions and removals of single keys, and what a history of
such changes says about each key. -/

set_option autoImplicit false

namespace Library

structure Change (κ : Type) where
  key : κ
  adds : Bool
  deriving DecidableEq

namespace Change

variable {κ : Type} {change first second : Change κ} {changes : List (Change κ)} {key : κ}
  {members : Set κ}

def apply (change : Change κ) (members : Set κ) : Set κ :=
  if change.adds then insert change.key members else members \ {change.key}

/-- The set that the changes leave of the empty one. -/
def replay (changes : List (Change κ)) : Set κ :=
  changes.foldl (fun members change => change.apply members) ∅

/-- The last of the changes that is about the key. -/
def Last (changes : List (Change κ)) (key : κ) (adds : Bool) : Prop :=
  ∃ earlier later, changes = earlier ++ ⟨key, adds⟩ :: later ∧ ∀ change ∈ later, change.key ≠ key

theorem mem_apply : key ∈ change.apply members ↔
    (key = change.key ∧ change.adds = true) ∨ (key ≠ change.key ∧ key ∈ members) := by
  unfold apply
  cases adds : change.adds with
  | true =>
      by_cases same : key = change.key
      · simp [same]
      · simp [same]
  | false =>
      by_cases same : key = change.key
      · simp [same]
      · simp [same]

theorem apply_apply (change : Change κ) (members : Set κ) :
    change.apply (change.apply members) = change.apply members := by
  apply Set.ext
  intro key
  by_cases named : key = change.key
  · simp [mem_apply, named]
  · simp [mem_apply, named]

theorem apply_comm (different : first.key ≠ second.key) (members : Set κ) :
    first.apply (second.apply members) = second.apply (first.apply members) := by
  apply Set.ext
  intro key
  by_cases named : key = first.key
  · subst named
    simp [mem_apply, different]
  · simp [mem_apply, named]

theorem replay_append : replay (changes ++ [change]) = change.apply (replay changes) := by
  simp [replay]

theorem Last.append_same (changes : List (Change κ)) (change : Change κ) :
    Last (changes ++ [change]) change.key change.adds :=
  ⟨changes, [], rfl, by simp⟩

theorem Last.append_other {adds : Bool} (other : change.key ≠ key) :
    Last (changes ++ [change]) key adds ↔ Last changes key adds := by
  constructor
  · intro ⟨earlier, later, split, silent⟩
    cases split_concat split.symm with
    | inl final => exact absurd (congrArg Change.key final.2.2).symm other
    | inr before =>
        obtain ⟨rest, rfl, same⟩ := before
        exact ⟨earlier, rest, same.symm, fun old member => silent old (by simp [member])⟩
  · intro ⟨earlier, later, split, silent⟩
    refine ⟨earlier, later ++ [change], by simp [split], ?_⟩
    intro old member
    cases List.mem_append.mp member with
    | inl present => exact silent old present
    | inr added => exact List.mem_singleton.mp added ▸ other

/-- The last change of a key says what the newest change says, when that is
about the key. -/
theorem Last.newest {adds : Bool} (last : Last (changes ++ [change]) change.key adds) :
    change.adds = adds := by
  obtain ⟨earlier, later, split, silent⟩ := last
  cases split_concat split.symm with
  | inl final => exact (congrArg Change.adds final.2.2).symm
  | inr before =>
      obtain ⟨rest, rfl, _⟩ := before
      exact absurd rfl (silent change (by simp))

/-- A key is in the set exactly when its last change added it. -/
theorem mem_replay : key ∈ replay changes ↔ Last changes key true := by
  induction changes using List.reverseRecOn with
  | nil =>
      constructor
      · intro member
        cases member
      · intro ⟨earlier, later, split, _⟩
        simp at split
  | append_singleton changes change ih =>
      rw [replay_append, mem_apply]
      by_cases same : key = change.key
      · subst same
        constructor
        · intro member
          have adds : change.adds = true := by simpa using member
          exact adds ▸ Last.append_same changes change
        · intro last
          exact .inl ⟨rfl, last.newest⟩
      · rw [Last.append_other (Ne.symm same), ← ih]
        simp [same]

end Change

end Library
