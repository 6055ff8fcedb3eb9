import Mathlib.Data.List.Basic

/-! Selection by the first test that an input passes. Where no two tests
disagree, their order does not matter. -/

set_option autoImplicit false

namespace Library.Selection

variable {α β : Type}

/-- What the first test that the input passes makes of it. -/
def select (tests : List (α → Option β)) (input : α) : Option β :=
  tests.findSome? fun test => test input

/-- All tests that the input passes make the same of it. -/
def Agree (tests : List (α → Option β)) (input : α) : Prop :=
  ∀ first ∈ tests, ∀ second ∈ tests, ∀ left right,
    first input = some left → second input = some right → left = right

variable {tests others : List (α → Option β)} {input : α}

@[simp] theorem select_nil : select ([] : List (α → Option β)) input = none := rfl

theorem select_cons (test : α → Option β) :
    select (test :: tests) input = (test input).or (select tests input) := by
  cases passed : test input <;> simp [select, passed]

theorem select_append :
    select (tests ++ others) input = (select tests input).or (select others input) := by
  induction tests with
  | nil => rfl
  | cons test rest ih => rw [List.cons_append, select_cons, select_cons, ih, Option.or_assoc]

theorem exists_of_select {value : β} (selected : select tests input = some value) :
    ∃ test ∈ tests, test input = some value :=
  List.exists_of_findSome?_eq_some selected

theorem select_eq_some (agree : Agree tests input) {value : β} :
    select tests input = some value ↔ ∃ test ∈ tests, test input = some value := by
  constructor
  · exact exists_of_select
  · intro passes
    obtain ⟨test, member, passed⟩ := passes
    cases selected : select tests input with
    | none =>
        have refused := List.findSome?_eq_none_iff.mp selected test member
        rw [passed] at refused
        cases refused
    | some other =>
        obtain ⟨first, present, same⟩ := exists_of_select selected
        rw [agree first present test member other value same passed]

theorem Agree.subset (agree : Agree tests input) (among : ∀ test ∈ others, test ∈ tests) :
    Agree others input :=
  fun first present second member =>
    agree first (among first present) second (among second member)

theorem Agree.perm (agree : Agree tests input) (order : others.Perm tests) : Agree others input :=
  agree.subset fun _ => order.mem_iff.mp

/-- Tests that agree select the same in every order. -/
theorem select_perm (agree : Agree tests input) (order : others.Perm tests) :
    select others input = select tests input := by
  apply Option.ext
  intro value
  rw [select_eq_some (agree.perm order), select_eq_some agree]
  simp only [order.mem_iff]

end Library.Selection
