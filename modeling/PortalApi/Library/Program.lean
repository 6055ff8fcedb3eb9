import Mathlib.Logic.Basic

/-! Programs over a signature of operations. A program is the tree of the
operations it may ask for; a semantics answers each operation from a state.
Nothing here depends on what the operations are. -/

set_option autoImplicit false

namespace Library

universe u

inductive Program {Op : Type u} (Answer : Op → Type) (α : Type) where
  | done (value : α)
  | call (op : Op) (next : Answer op → Program Answer α)

/-- How a state answers every operation, and the state it leaves. -/
abbrev Semantics {Op : Type u} (Answer : Op → Type) (σ : Type) := (op : Op) → σ → Answer op × σ

namespace Program

variable {Op : Type u} {Answer : Op → Type} {α β σ : Type}

def bind (program : Program Answer α) (next : α → Program Answer β) : Program Answer β :=
  match program with
  | .done value => next value
  | .call op rest => .call op fun answer => (rest answer).bind next

instance : Monad (Program Answer) where
  pure := .done
  bind := bind

theorem bind_bind {γ : Type} (program : Program Answer α) (next : α → Program Answer β)
    (last : β → Program Answer γ) :
    program >>= next >>= last = program >>= fun value => next value >>= last := by
  induction program with
  | done value => rfl
  | call op rest ih => exact congrArg (Program.call op) (funext ih)

theorem bind_pure (program : Program Answer α) : (program >>= fun value => pure value) = program := by
  induction program with
  | done value => rfl
  | call op rest ih => exact congrArg (Program.call op) (funext ih)

def perform (op : Op) : Program Answer (Answer op) := .call op .done

def run (semantics : Semantics Answer σ) : Program Answer α → σ → α × σ
  | .done value, state => (value, state)
  | .call op next, state =>
      run semantics (next (semantics op state).1) (semantics op state).2

section Run

variable (semantics : Semantics Answer σ)

@[simp] theorem run_done (value : α) (state : σ) :
    (Program.done value : Program Answer α).run semantics state = (value, state) := rfl

@[simp] theorem run_pure (value : α) (state : σ) :
    (pure value : Program Answer α).run semantics state = (value, state) := rfl

@[simp] theorem run_perform (op : Op) (state : σ) :
    (perform op : Program Answer (Answer op)).run semantics state = semantics op state := rfl

@[simp] theorem run_bind (program : Program Answer α) (next : α → Program Answer β) (state : σ) :
    (program >>= next).run semantics state =
      (next (program.run semantics state).1).run semantics (program.run semantics state).2 := by
  induction program generalizing state with
  | done value => rfl
  | call op rest ih => exact ih _ _

@[simp] theorem run_ite (condition : Prop) [Decidable condition]
    (accepted refused : Program Answer α) (state : σ) :
    (if condition then accepted else refused).run semantics state =
      if condition then accepted.run semantics state else refused.run semantics state := by
  split <;> rfl

end Run

/-- Every operation the program can ask for, whatever it is answered, is allowed. -/
def Uses (allowed : Op → Prop) : Program Answer α → Prop
  | .done _ => True
  | .call op next => allowed op ∧ ∀ answer, Uses allowed (next answer)

/-- An assertion kept by every allowed operation is kept by the whole program. -/
theorem Uses.run_preserves {allowed : Op → Prop} {semantics : Semantics Answer σ}
    {invariant : σ → Prop}
    (kept : ∀ op state, allowed op → invariant state → invariant (semantics op state).2)
    {program : Program Answer α} (uses : program.Uses allowed) {state : σ}
    (holds : invariant state) : invariant (program.run semantics state).2 := by
  induction program generalizing state with
  | done value => exact holds
  | call op next ih => exact ih _ (uses.2 _) (kept op state uses.1 holds)

section Uses

variable {allowed : Op → Prop}

theorem Uses.pure (value : α) : (pure value : Program Answer α).Uses allowed := trivial

theorem Uses.perform {op : Op} (given : allowed op) :
    (perform op : Program Answer (Answer op)).Uses allowed :=
  ⟨given, fun _ => trivial⟩

theorem Uses.bind {program : Program Answer α} {next : α → Program Answer β}
    (before : program.Uses allowed) (after : ∀ value, (next value).Uses allowed) :
    (program >>= next).Uses allowed := by
  induction program with
  | done value => exact after value
  | call op rest ih => exact ⟨before.1, fun answer => ih answer (before.2 answer)⟩

/-- Two semantics that answer every allowed operation alike in related states, and
leave related states, cannot be told apart by a program that only uses these. -/
theorem Uses.run_related {τ : Type} {first : Semantics Answer σ} {second : Semantics Answer τ}
    {related : σ → τ → Prop}
    (alike : ∀ op, allowed op → ∀ state other, related state other →
      (second op other).1 = (first op state).1 ∧ related (first op state).2 (second op other).2)
    {program : Program Answer α} (uses : program.Uses allowed) {state : σ} {other : τ}
    (before : related state other) :
    (program.run second other).1 = (program.run first state).1 ∧
      related (program.run first state).2 (program.run second other).2 := by
  induction program generalizing state other with
  | done value => exact ⟨rfl, before⟩
  | call op next ih =>
      obtain ⟨same, after⟩ := alike op uses.1 state other before
      simp only [run, same]
      exact ih _ (uses.2 _) after

end Uses

theorem uses_any (program : Program Answer α) : program.Uses fun _ => True := by
  induction program with
  | done value => trivial
  | call op next ih => exact ⟨trivial, ih⟩

/-- An assertion kept by every operation is kept by every program. -/
theorem run_preserves {semantics : Semantics Answer σ} {invariant : σ → Prop}
    (kept : ∀ op state, invariant state → invariant (semantics op state).2)
    (program : Program Answer α) {state : σ} (holds : invariant state) :
    invariant (program.run semantics state).2 :=
  program.uses_any.run_preserves (fun op state _ => kept op state) holds

/-- On every path the program asks at most `bound` times for a counted operation. -/
def AtMost (counted : Op → Prop) : Nat → Program Answer α → Prop
  | _, .done _ => True
  | bound, .call op next =>
      (counted op → ∃ fewer, bound = fewer + 1 ∧ ∀ answer, AtMost counted fewer (next answer)) ∧
        (¬ counted op → ∀ answer, AtMost counted bound (next answer))

section AtMost

variable {counted : Op → Prop}

theorem AtMost.pure (bound : Nat) (value : α) :
    AtMost counted bound (pure value : Program Answer α) := trivial

theorem AtMost.perform_counted (op : Op) :
    AtMost counted 1 (perform op : Program Answer (Answer op)) :=
  ⟨fun _ => ⟨0, rfl, fun _ => trivial⟩, fun _ _ => trivial⟩

theorem AtMost.perform_other {op : Op} (other : ¬ counted op) (bound : Nat) :
    AtMost counted bound (perform op : Program Answer (Answer op)) :=
  ⟨fun present => absurd present other, fun _ _ => trivial⟩

theorem AtMost.mono {program : Program Answer α} {bound larger : Nat}
    (bounded : AtMost counted bound program) (within : bound ≤ larger) :
    AtMost counted larger program := by
  induction program generalizing bound larger with
  | done value => trivial
  | call op next ih =>
      refine ⟨fun present => ?_, fun absent answer => ih answer (bounded.2 absent answer) within⟩
      obtain ⟨fewer, rfl, tails⟩ := bounded.1 present
      exact ⟨larger - 1, by omega, fun answer => ih answer (tails answer) (by omega)⟩

theorem AtMost.bind {program : Program Answer α} {next : α → Program Answer β} {first rest : Nat}
    (before : AtMost counted first program) (after : ∀ value, AtMost counted rest (next value)) :
    AtMost counted (first + rest) (program >>= next) := by
  induction program generalizing first with
  | done value => exact (after value).mono (Nat.le_add_left rest first)
  | call op tail ih =>
      refine ⟨fun present => ?_, fun absent answer => ih answer (before.2 absent answer)⟩
      obtain ⟨fewer, rfl, tails⟩ := before.1 present
      exact ⟨fewer + rest, by omega, fun answer => ih answer (tails answer)⟩

/-- A measure that only counted operations raise, by one at a time, grows over
a run by at most the bound. -/
theorem AtMost.run_le {semantics : Semantics Answer σ} {measure : σ → Nat}
    (raised : ∀ op state, measure (semantics op state).2 ≤ measure state + 1)
    (unchanged : ∀ op state, ¬ counted op → measure (semantics op state).2 ≤ measure state)
    {program : Program Answer α} {bound : Nat} (bounded : AtMost counted bound program)
    (state : σ) : measure (program.run semantics state).2 ≤ measure state + bound := by
  induction program generalizing bound state with
  | done value => exact Nat.le_add_right _ _
  | call op next ih =>
      by_cases present : counted op
      · obtain ⟨fewer, rfl, tails⟩ := bounded.1 present
        have step := raised op state
        have tail := ih _ (tails (semantics op state).1) (semantics op state).2
        simp only [run]
        omega
      · have step := unchanged op state present
        have tail := ih _ (bounded.2 present (semantics op state).1) (semantics op state).2
        simp only [run]
        omega

end AtMost

/-- Some operation that the run asks for is met in a chosen way. -/
def Meets (semantics : Semantics Answer σ) (chosen : Op → σ → Prop) : Program Answer α → σ → Prop
  | .done _, _ => False
  | .call op next, state =>
      chosen op state ∨ Meets semantics chosen (next (semantics op state).1) (semantics op state).2

section Meets

variable {semantics : Semantics Answer σ} {chosen : Op → σ → Prop}

@[simp] theorem meets_pure (value : α) (state : σ) :
    ¬ (pure value : Program Answer α).Meets semantics chosen state := id

@[simp] theorem meets_perform (op : Op) (state : σ) :
    (perform op : Program Answer (Answer op)).Meets semantics chosen state ↔ chosen op state := by
  simp [perform, Meets]

@[simp] theorem meets_bind (program : Program Answer α) (next : α → Program Answer β) (state : σ) :
    (program >>= next).Meets semantics chosen state ↔
      program.Meets semantics chosen state ∨
        (next (program.run semantics state).1).Meets semantics chosen
          (program.run semantics state).2 := by
  induction program generalizing state with
  | done value => simp [Meets, Bind.bind, bind]
  | call op rest ih =>
      show chosen op state ∨ ((rest _).bind next).Meets semantics chosen _ ↔ _
      simp only [Meets, run, or_assoc]
      exact or_congr_right (ih _ _)

@[simp] theorem meets_ite (condition : Prop) [Decidable condition]
    (accepted refused : Program Answer α) (state : σ) :
    (if condition then accepted else refused).Meets semantics chosen state ↔
      if condition then accepted.Meets semantics chosen state
      else refused.Meets semantics chosen state := by
  split <;> rfl

/-- What no other operation changes stays when none of the chosen ones is met. -/
theorem run_of_not_meets {τ : Type} (part : σ → τ)
    (unchanged : ∀ op state, ¬ chosen op state → part (semantics op state).2 = part state)
    {program : Program Answer α} {state : σ} (spared : ¬ program.Meets semantics chosen state) :
    part (program.run semantics state).2 = part state := by
  induction program generalizing state with
  | done value => rfl
  | call op next ih =>
      obtain ⟨other, later⟩ := not_or.mp spared
      exact (ih _ later).trans (unchanged op state other)

/-- What a chosen operation brings about, and none undoes, holds after it was met. -/
theorem Meets.run_after {holds : σ → Prop}
    (kept : ∀ op state, holds state → holds (semantics op state).2)
    (reached : ∀ op state, chosen op state → holds (semantics op state).2)
    {program : Program Answer α} {state : σ} (meets : program.Meets semantics chosen state) :
    holds (program.run semantics state).2 := by
  induction program generalizing state with
  | done value => exact meets.elim
  | call op next ih =>
      rcases meets with now | later
      · exact run_preserves kept (next _) (reached op state now)
      · exact ih _ later

/-- Where an invariant rules the chosen operations out, none is met. -/
theorem not_meets_of_invariant {holds : σ → Prop}
    (kept : ∀ op state, holds state → holds (semantics op state).2)
    (never : ∀ op state, holds state → ¬ chosen op state) {program : Program Answer α} {state : σ}
    (initially : holds state) : ¬ program.Meets semantics chosen state := by
  induction program generalizing state with
  | done value => exact id
  | call op next ih => exact not_or.mpr ⟨never op state initially, ih _ (kept op state initially)⟩

theorem Meets.mono {other : Op → σ → Prop} (weaker : ∀ op state, chosen op state → other op state)
    {program : Program Answer α} {state : σ} (meets : program.Meets semantics chosen state) :
    program.Meets semantics other state := by
  induction program generalizing state with
  | done value => exact meets
  | call op next ih =>
      rcases meets with now | later
      · exact .inl (weaker op state now)
      · exact .inr (ih _ later)

end Meets

end Program

end Library
