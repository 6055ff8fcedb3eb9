import PortalApi.Library.Protocol

/-! Programs that are cut off: what a run has done after some of its operations, and
what of it is left to do. -/

set_option autoImplicit false

namespace Library

universe u

section Cut

variable {Op : Type u} {Answer : Op → Type} {α σ τ ς : Type}

/-- The rest of the program and the state after at most this many operations. -/
def Program.cut (semantics : Semantics Answer σ) :
    Nat → Program Answer α → σ → Program Answer α × σ
  | 0, program, state => (program, state)
  | _ + 1, .done value, state => (.done value, state)
  | count + 1, .call op next, state =>
    cut semantics count (next (semantics op state).1) (semantics op state).2

variable {semantics : Semantics Answer σ} {program : Program Answer α} {state : σ}

/-- A run may be resumed where it was cut. -/
theorem Program.run_cut (count : Nat) :
    (program.cut semantics count state).1.run semantics (program.cut semantics count state).2 =
      program.run semantics state := by
  induction count generalizing program state with
  | zero => rfl
  | succ count ih =>
      cases program with
      | done value => rfl
      | call op next => exact ih

theorem Program.exists_cut (semantics : Semantics Answer σ) (program : Program Answer α)
    (state : σ) :
    ∃ count, program.cut semantics count state =
      (.done (program.run semantics state).1, (program.run semantics state).2) := by
  induction program generalizing state with
  | done value => exact ⟨0, rfl⟩
  | call op next ih =>
      obtain ⟨count, whole⟩ := ih (semantics op state).1 (semantics op state).2
      exact ⟨count + 1, whole⟩

theorem Program.Uses.cut_preserves {allowed : Op → Prop} {invariant : σ → Prop}
    (kept : ∀ op state, allowed op → invariant state → invariant (semantics op state).2)
    (uses : program.Uses allowed) (holds : invariant state) (count : Nat) :
    invariant (program.cut semantics count state).2 := by
  induction count generalizing program state with
  | zero => exact holds
  | succ count ih =>
      cases program with
      | done value => exact holds
      | call op next => exact ih (uses.2 _) (kept op state uses.1 holds)

/-- Two semantics that answer alike as long as the first has not come too far leave the
same rest of a program that is cut before it has. -/
theorem Program.Uses.cut_related {allowed : Op → Prop} {first : Semantics Answer σ}
    {second : Semantics Answer τ} {related : σ → τ → Prop} {within : σ → Prop}
    (earlier : ∀ op state, within (first op state).2 → within state)
    (alike : ∀ op, allowed op → ∀ state other, related state other → within (first op state).2 →
      (second op other).1 = (first op state).1 ∧ related (first op state).2 (second op other).2)
    (uses : program.Uses allowed) {other : τ} (before : related state other) {count : Nat}
    (reached : within (program.cut first count state).2) :
    (program.cut second count other).1 = (program.cut first count state).1 ∧
      related (program.cut first count state).2 (program.cut second count other).2 := by
  have back (count : Nat) (program : Program Answer α) (state : σ)
      (reached : within (program.cut first count state).2) : within state := by
    induction count generalizing program state with
    | zero => exact reached
    | succ count ih =>
        cases program with
        | done value => exact reached
        | call op next => exact earlier op state (ih _ _ reached)
  induction count generalizing program state other with
  | zero => exact ⟨rfl, before⟩
  | succ count ih =>
      cases program with
      | done value => exact ⟨rfl, before⟩
      | call op next =>
          obtain ⟨same, after⟩ := alike op uses.1 state other before (back count _ _ reached)
          simp only [Program.cut, same]
          exact ih (uses.2 _) after reached

end Cut

section Commit

variable {Op : Type u} {Answer : Op → Type} {α σ ς τ : Type} {protocol : Protocol Answer ς}
  {post : α → ς → Prop} {program : Program Answer α} {stage : ς} {semantics : Semantics Answer σ}
  {part : σ → τ} {closed : ς → Prop} {state : σ}

theorem Protocol.Keeps.cut_closed
    (still : ∀ stage op state, closed stage → protocol.allows stage op →
      part (semantics op state).2 = part state ∧
        closed (protocol.next stage op (semantics op state).1))
    (keeps : protocol.Keeps post program stage) (holds : closed stage) (count : Nat) :
    part (program.cut semantics count state).2 = part state := by
  induction count generalizing program stage state with
  | zero => rfl
  | succ count ih =>
      cases program with
      | done value => rfl
      | call op next =>
          obtain ⟨same, later⟩ := still stage op state holds keeps.1
          exact (ih (keeps.2 _) later).trans same

theorem Protocol.Keeps.run_closed
    (still : ∀ stage op state, closed stage → protocol.allows stage op →
      part (semantics op state).2 = part state ∧
        closed (protocol.next stage op (semantics op state).1))
    (keeps : protocol.Keeps post program stage) (holds : closed stage) :
    part (program.run semantics state).2 = part state := by
  obtain ⟨count, whole⟩ := program.exists_cut semantics state
  have same : part (program.cut semantics count state).2 = part state :=
    keeps.cut_closed still holds count
  rwa [whole] at same

/-- When what changes a part of the state, or shows that it did, closes the stage, a
program that is cut has left the part as it was and shown nothing, or as it will be. -/
theorem Protocol.Keeps.commits {shown : σ → Prop}
    (still : ∀ stage op state, closed stage → protocol.allows stage op →
      part (semantics op state).2 = part state ∧
        closed (protocol.next stage op (semantics op state).1))
    (commit : ∀ stage op state, protocol.allows stage op → ¬ shown state →
      (part (semantics op state).2 = part state ∧ ¬ shown (semantics op state).2) ∨
        closed (protocol.next stage op (semantics op state).1))
    (keeps : protocol.Keeps post program stage) (hidden : ¬ shown state) (count : Nat) :
    (part (program.cut semantics count state).2 = part state ∧
        ¬ shown (program.cut semantics count state).2) ∨
      part (program.cut semantics count state).2 = part (program.run semantics state).2 := by
  induction count generalizing program stage state with
  | zero => exact .inl ⟨rfl, hidden⟩
  | succ count ih =>
      cases program with
      | done value => exact .inl ⟨rfl, hidden⟩
      | call op next =>
          rcases commit stage op state keeps.1 hidden with ⟨same, still⟩ | closes
          · rcases ih (keeps.2 _) still with ⟨before, silent⟩ | after
            · exact .inl ⟨before.trans same, silent⟩
            · exact .inr after
          · have later := keeps.2 (semantics op state).1
            exact .inr ((later.cut_closed still closes count).trans
              (later.run_closed still closes).symm)

end Commit

end Library
