import PortalApi.Library.Program

/-! Executions of a program whose operations are not determined: any answer may
come and any state be left that the steps allow. An execution records its calls. -/

set_option autoImplicit false

namespace Library

universe u

/-- Which answers an operation may give in a state, and which states it may leave. -/
abbrev Steps {Op : Type u} (Answer : Op → Type) (σ : Type) :=
  (op : Op) → σ → Answer op → σ → Prop

/-- An operation that was asked for, with its answer and the states around it. -/
structure Called {Op : Type u} (Answer : Op → Type) (σ : Type) where
  op : Op
  answer : Answer op
  before : σ
  after : σ

section Executions

variable {Op : Type u} {Answer : Op → Type} {α β σ : Type}

inductive Execution (steps : Steps Answer σ) :
    Program Answer α → σ → List (Called Answer σ) → α → σ → Prop where
  | done {value : α} {state : σ} : Execution steps (.done value) state [] value state
  | call {op : Op} {next : Answer op → Program Answer α} {before after final : σ}
      {answer : Answer op} {calls : List (Called Answer σ)} {value : α} :
      steps op before answer after → Execution steps (next answer) after calls value final →
      Execution steps (.call op next) before ({ op, answer, before, after } :: calls) value final

/-- Every execution from this state ends as said. -/
def Ensures (steps : Steps Answer σ) (program : Program Answer α) (state : σ)
    (post : List (Called Answer σ) → α → σ → Prop) : Prop :=
  ∀ calls value final, Execution steps program state calls value final → post calls value final

variable {steps : Steps Answer σ} {program : Program Answer α} {state : σ}
  {post : List (Called Answer σ) → α → σ → Prop}

theorem Execution.bind_inv {next : α → Program Answer β} {calls : List (Called Answer σ)}
    {result : β} {final : σ} (execution : Execution steps (program >>= next) state calls result final) :
    ∃ first value middle later, calls = first ++ later ∧
      Execution steps program state first value middle ∧
      Execution steps (next value) middle later result final := by
  induction program generalizing state calls with
  | done value => exact ⟨[], value, state, calls, rfl, .done, execution⟩
  | call op rest ih =>
      cases execution with
      | call step execution =>
          obtain ⟨first, value, middle, later, rfl, before, after⟩ := ih _ execution
          exact ⟨_ :: first, value, middle, later, rfl, .call step before, after⟩

theorem Ensures.pure {value : α} (ended : post [] value state) :
    Ensures steps (pure value) state post := by
  intro calls result final execution
  cases execution with
  | done => exact ended

theorem Ensures.mono {weaker : List (Called Answer σ) → α → σ → Prop}
    (ensures : Ensures steps program state post)
    (implied : ∀ calls value final, post calls value final → weaker calls value final) :
    Ensures steps program state weaker :=
  fun calls value final execution => implied _ _ _ (ensures calls value final execution)

theorem Ensures.bind {next : α → Program Answer β} {last : List (Called Answer σ) → β → σ → Prop}
    (first : Ensures steps program state post)
    (rest : ∀ calls value middle, post calls value middle →
      Ensures steps (next value) middle fun later => last (calls ++ later)) :
    Ensures steps (program >>= next) state last := by
  intro calls result final execution
  obtain ⟨earlier, value, middle, later, rfl, before, after⟩ := execution.bind_inv
  exact rest earlier value middle (first _ _ _ before) later result final after

/-- The calls of the run of a determined semantics. -/
def Program.trace (semantics : Semantics Answer σ) :
    Program Answer α → σ → List (Called Answer σ)
  | .done _, _ => []
  | .call op next, state =>
    { op, answer := (semantics op state).1, before := state, after := (semantics op state).2 } ::
      trace semantics (next (semantics op state).1) (semantics op state).2

/-- A semantics that keeps to the steps runs to an execution. -/
theorem Execution.of_semantics {semantics : Semantics Answer σ} {invariant : σ → Prop}
    (allowed : ∀ op state, invariant state →
      steps op state (semantics op state).1 (semantics op state).2 ∧
        invariant (semantics op state).2)
    (program : Program Answer α) {state : σ} (holds : invariant state) :
    Execution steps program state (program.trace semantics state)
      (program.run semantics state).1 (program.run semantics state).2 := by
  induction program generalizing state with
  | done value => exact .done
  | call op next ih =>
      obtain ⟨step, kept⟩ := allowed op state holds
      exact .call step (ih _ kept)

end Executions

/-- Every execution from this state makes only calls that are safe, and ends as said:
the flag tells whether all of its calls succeeded. -/
def Flows {Op : Type u} {Answer : Op → Type} {α σ : Type} (steps : Steps Answer σ)
    (safe : Called Answer σ → Prop) (succeeded : (op : Op) → Answer op → Bool)
    (program : Program Answer α) (state : σ) (post : Bool → α → σ → Prop) : Prop :=
  Ensures steps program state fun calls value final =>
    (∀ call ∈ calls, safe call) ∧ post (calls.all fun call => succeeded call.op call.answer) value final

section Flows

variable {Op : Type u} {Answer : Op → Type} {α β σ : Type} {steps : Steps Answer σ}
  {safe : Called Answer σ → Prop} {succeeded : (op : Op) → Answer op → Bool} {state : σ}

theorem Flows.pure {value : α} {post : Bool → α → σ → Prop} (ended : post true value state) :
    Flows steps safe succeeded (pure value) state post :=
  Ensures.pure ⟨by simp, ended⟩

theorem Flows.bind {program : Program Answer α} {next : α → Program Answer β}
    {post : Bool → α → σ → Prop} {last : Bool → β → σ → Prop}
    (first : Flows steps safe succeeded program state post)
    (rest : ∀ clean value middle, post clean value middle →
      Flows steps safe succeeded (next value) middle fun later => last (clean && later)) :
    Flows steps safe succeeded (program >>= next) state last := by
  refine Ensures.bind first fun calls value middle ended => ?_
  refine Ensures.mono (rest _ value middle ended.2) fun later result final reached => ⟨?_, ?_⟩
  · exact List.forall_mem_append.mpr ⟨ended.1, reached.1⟩
  · rw [List.all_append]
    exact reached.2

/-- One operation before the rest. -/
theorem Flows.call {op : Op} {next : Answer op → Program Answer α} {post : Bool → α → σ → Prop}
    (rest : ∀ answer after, steps op state answer after →
      safe { op, answer, before := state, after } ∧
        Flows steps safe succeeded (next answer) after fun later =>
          post (succeeded op answer && later)) :
    Flows steps safe succeeded (Program.perform op >>= next) state post := by
  intro calls result final execution
  cases execution with
  | call step execution =>
      obtain ⟨now, flows⟩ := rest _ _ step
      obtain ⟨later, ended⟩ := flows _ _ _ execution
      exact ⟨List.forall_mem_cons.mpr ⟨now, later⟩, ended⟩

theorem Flows.last {program : Program Answer α} {post : Bool → α → σ → Prop}
    (flows : Flows steps safe succeeded (program >>= Pure.pure) state post) :
    Flows steps safe succeeded program state post :=
  program.bind_pure ▸ flows

end Flows

end Library
