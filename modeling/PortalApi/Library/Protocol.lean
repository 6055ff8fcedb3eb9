import Mathlib.Data.List.Induction
import PortalApi.Library.Execution

/-! Protocols between a program and what answers its operations. In each stage a
protocol says which operations may be asked for, and where an answer leads. -/

set_option autoImplicit false

namespace Library

universe u

structure Protocol {Op : Type u} (Answer : Op → Type) (ς : Type) where
  allows : ς → Op → Prop
  next : ς → (op : Op) → Answer op → ς

/-- An operation that was asked for, and its answer. -/
structure Inquiry {Op : Type u} (Answer : Op → Type) where
  op : Op
  answer : Answer op

def Called.inquiry {Op : Type u} {Answer : Op → Type} {σ : Type} (called : Called Answer σ) :
    Inquiry Answer where
  op := called.op
  answer := called.answer

section Protocols

variable {Op : Type u} {Answer : Op → Type} {α β σ ς : Type}

/-- What a program may ask for on one of its paths, whatever is answered, and its result. -/
inductive Path : Program Answer α → List (Inquiry Answer) → α → Prop where
  | done {value : α} : Path (.done value) [] value
  | call {op : Op} {next : Answer op → Program Answer α} {path : List (Inquiry Answer)} {value : α}
      (answer : Answer op) : Path (next answer) path value →
      Path (.call op next) ({ op, answer } :: path) value

namespace Protocol

variable (protocol : Protocol Answer ς)

def Admits : ς → List (Inquiry Answer) → Prop
  | _, [] => True
  | stage, inquiry :: rest =>
    protocol.allows stage inquiry.op ∧ Admits (protocol.next stage inquiry.op inquiry.answer) rest

def after : ς → List (Inquiry Answer) → ς
  | stage, [] => stage
  | stage, inquiry :: rest => after (protocol.next stage inquiry.op inquiry.answer) rest

/-- On every path the program keeps to the protocol, and ends as said. -/
def Keeps (post : α → ς → Prop) : Program Answer α → ς → Prop
  | .done value, stage => post value stage
  | .call op next, stage =>
    protocol.allows stage op ∧
      ∀ answer, Keeps post (next answer) (protocol.next stage op answer)

end Protocol

variable {protocol : Protocol Answer ς} {post : α → ς → Prop} {program : Program Answer α}
  {stage : ς}

theorem Path.bind_inv {next : α → Program Answer β} {path : List (Inquiry Answer)} {result : β}
    (taken : Path (program >>= next) path result) :
    ∃ first value later, path = first ++ later ∧ Path program first value ∧
      Path (next value) later result := by
  induction program generalizing path with
  | done value => exact ⟨[], value, path, rfl, .done, taken⟩
  | call op rest ih =>
      cases taken with
      | call answer taken =>
          obtain ⟨first, value, later, rfl, before, after⟩ := ih answer taken
          exact ⟨_ :: first, value, later, rfl, .call answer before, after⟩

/-- What a run asks for is one of the paths. -/
theorem Path.of_semantics (semantics : Semantics Answer σ) (program : Program Answer α)
    (state : σ) :
    Path program ((program.trace semantics state).map Called.inquiry)
      (program.run semantics state).1 := by
  induction program generalizing state with
  | done value => exact .done
  | call op next ih => exact .call _ (ih _ _)

theorem Protocol.admits_append {first later : List (Inquiry Answer)} :
    protocol.Admits stage (first ++ later) ↔
      protocol.Admits stage first ∧ protocol.Admits (protocol.after stage first) later := by
  induction first generalizing stage with
  | nil => simp [Admits, after]
  | cons inquiry rest ih => simp [Admits, after, ih, and_assoc]

theorem Protocol.after_append {first later : List (Inquiry Answer)} :
    protocol.after stage (first ++ later) = protocol.after (protocol.after stage first) later := by
  induction first generalizing stage with
  | nil => rfl
  | cons inquiry rest ih => exact ih

theorem Protocol.Keeps.path (keeps : protocol.Keeps post program stage)
    {path : List (Inquiry Answer)} {value : α} (taken : Path program path value) :
    protocol.Admits stage path ∧ post value (protocol.after stage path) := by
  induction taken generalizing stage with
  | done => exact ⟨trivial, keeps⟩
  | call answer _ ih =>
      obtain ⟨admitted, ended⟩ := ih (keeps.2 answer)
      exact ⟨⟨keeps.1, admitted⟩, ended⟩

theorem Protocol.Keeps.pure {value : α} (ended : post value stage) :
    protocol.Keeps post (pure value : Program Answer α) stage := ended

theorem Protocol.Keeps.bind {next : α → Program Answer β} {last : β → ς → Prop}
    (first : protocol.Keeps post program stage)
    (rest : ∀ value middle, post value middle → protocol.Keeps last (next value) middle) :
    protocol.Keeps last (program >>= next) stage := by
  induction program generalizing stage with
  | done value => exact rest value stage first
  | call op _ ih => exact ⟨first.1, fun answer => ih answer (first.2 answer)⟩

theorem Protocol.Keeps.perform {op : Op} {next : Answer op → Program Answer α}
    (allowed : protocol.allows stage op)
    (rest : ∀ answer, protocol.Keeps post (next answer) (protocol.next stage op answer)) :
    protocol.Keeps post (Program.perform op >>= next) stage := ⟨allowed, rest⟩

/-- A program keeps to every protocol that allows more. -/
theorem Protocol.Keeps.widen {wider : Protocol Answer ς} (same : wider.next = protocol.next)
    (allows : ∀ stage op, protocol.allows stage op → wider.allows stage op)
    (keeps : protocol.Keeps post program stage) : wider.Keeps post program stage := by
  induction program generalizing stage with
  | done value => exact keeps
  | call op next ih =>
      refine ⟨allows stage op keeps.1, fun answer => ?_⟩
      rw [same]
      exact ih answer (keeps.2 answer)

theorem Protocol.Keeps.uses {allowed : Op → Prop} (keeps : protocol.Keeps post program stage)
    (implied : ∀ stage op, protocol.allows stage op → allowed op) : program.Uses allowed := by
  induction program generalizing stage with
  | done value => trivial
  | call op next ih => exact ⟨implied stage op keeps.1, fun answer => ih answer (keeps.2 answer)⟩

/-- What every admitted operation keeps holds along an admitted path, of the path so far
and the stage it led to. -/
theorem Protocol.Admits.recorded {holds : List (Inquiry Answer) → ς → Prop}
    (kept : ∀ path stage op answer, holds path stage → protocol.allows stage op →
      holds (path ++ [⟨op, answer⟩]) (protocol.next stage op answer))
    {path : List (Inquiry Answer)} (admits : protocol.Admits stage path) (start : holds [] stage) :
    holds path (protocol.after stage path) := by
  induction path using List.reverseRecOn with
  | nil => exact start
  | append_singleton path inquiry ih =>
      obtain ⟨earlier, last⟩ := protocol.admits_append.mp admits
      rw [protocol.after_append]
      exact kept path _ inquiry.op inquiry.answer (ih earlier) last.1

end Protocols

end Library
