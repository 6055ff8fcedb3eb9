import PortalApi.Library.Interruption

/-! Two programs that ask for the same things in the same order, but for operations that
are twins of each other. What holds between two states when twins are answered holds
between two runs, and between two runs that are cut off at the same operation. -/

set_option autoImplicit false

namespace Library

universe u

section Mirrors

variable {Op : Type u} {Answer : Op → Type} {α β σ τ : Type}

/-- Which operations are twins, and how the answers to the one are those to the other. -/
abbrev Twins {Op : Type u} (Answer : Op → Type) :=
  (op other : Op) → (Answer op → Answer other) → Prop

inductive Program.Mirrors (twins : Twins Answer) : Program Answer α → Program Answer α → Prop where
  | done (value : α) : Mirrors twins (.done value) (.done value)
  | call {op other : Op} {answer : Answer op → Answer other} {next : Answer op → Program Answer α}
      {tail : Answer other → Program Answer α} : twins op other answer →
      (∀ given, Mirrors twins (next given) (tail (answer given))) →
      Mirrors twins (.call op next) (.call other tail)

variable {twins : Twins Answer} {first second : Program Answer α}

namespace Program.Mirrors

/-- When every operation is its own twin, every program mirrors itself. -/
theorem refl (own : ∀ op, twins op op id) (program : Program Answer α) :
    Mirrors twins program program := by
  induction program with
  | done value => exact .done value
  | call op next ih => exact .call (own op) ih

theorem perform {op other : Op} {answer : Answer op → Answer other} (given : twins op other answer)
    {next : Answer op → Program Answer α} {tail : Answer other → Program Answer α}
    (rest : ∀ value, Mirrors twins (next value) (tail (answer value))) :
    Mirrors twins (Program.perform op >>= next) (Program.perform other >>= tail) :=
  .call given rest

theorem bind {next tail : α → Program Answer β} (before : Mirrors twins first second)
    (after : ∀ value, Mirrors twins (next value) (tail value)) :
    Mirrors twins (first >>= next) (second >>= tail) := by
  induction before with
  | done value => exact after value
  | call given _ ih => exact .call given ih

section Semantics

variable {left : Semantics Answer σ} {right : Semantics Answer τ} {related : σ → τ → Prop}
  (alike : ∀ {op other : Op} {answer : Answer op → Answer other} {state : σ} {image : τ},
    twins op other answer → related state image →
      (right other image).1 = answer (left op state).1 ∧
        related (left op state).2 (right other image).2)
include alike

theorem run_related (mirrors : Mirrors twins first second) {state : σ} {image : τ}
    (before : related state image) :
    (second.run right image).1 = (first.run left state).1 ∧
      related (first.run left state).2 (second.run right image).2 := by
  induction mirrors generalizing state image with
  | done value => exact ⟨rfl, before⟩
  | @call op other answer next tail given _ ih =>
      obtain ⟨same, after⟩ := alike given before
      have rest := ih (left op state).1 after
      rw [← same] at rest
      exact rest

theorem cut_related (mirrors : Mirrors twins first second) {state : σ} {image : τ}
    (before : related state image) (count : Nat) :
    related (first.cut left count state).2 (second.cut right count image).2 := by
  induction count generalizing first second state image with
  | zero => exact before
  | succ count ih =>
      cases mirrors with
      | done value => exact before
      | @call op other answer next tail given rest =>
          obtain ⟨same, after⟩ := alike given before
          have later := ih (rest (left op state).1) after
          rw [← same] at later
          exact later

end Semantics

end Program.Mirrors

end Mirrors

end Library
