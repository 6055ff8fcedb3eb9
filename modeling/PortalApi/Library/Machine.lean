import Mathlib.Logic.Basic
import Mathlib.Data.List.Basic

/-! Runs of a deterministic machine. Everything undetermined (the time, the
random draws, the failures of one step) is part of the input of that step, so a
run is decided by its inputs; the events record what each step met and said. -/

set_option autoImplicit false

namespace Library

theorem split_concat {α : Type} {history earlier later : List α} {entry last : α}
    (split : earlier ++ entry :: later = history ++ [last]) :
    (later = [] ∧ earlier = history ∧ entry = last) ∨
      ∃ rest, later = rest ++ [last] ∧ earlier ++ entry :: rest = history := by
  rcases List.eq_nil_or_concat later with rfl | ⟨rest, final, rfl⟩
  · obtain ⟨rfl, same⟩ := List.append_inj' split rfl
    exact .inl ⟨rfl, rfl, by simpa using same⟩
  · have split : (earlier ++ entry :: rest) ++ [final] = history ++ [last] := by
      simpa [List.append_assoc] using split
    obtain ⟨same, singleton⟩ := List.append_inj' split rfl
    have same_last : final = last := by simpa using singleton
    exact .inr ⟨rest, by rw [same_last, List.concat_eq_append], same⟩

structure Event (ι ω σ : Type) where
  input : ι
  before : σ
  output : ω
  after : σ

structure Machine (ι ω σ : Type) where
  initial : σ → Prop
  admits : ι → Prop
  step : ι → σ → ω × σ

namespace Machine

variable {ι ω σ : Type} (machine : Machine ι ω σ)

def event (input : ι) (state : σ) : Event ι ω σ where
  input := input
  before := state
  output := (machine.step input state).1
  after := (machine.step input state).2

inductive Run : List (Event ι ω σ) → σ → Prop where
  | start {state : σ} : machine.initial state → Run [] state
  | next {events : List (Event ι ω σ)} {state : σ} (input : ι) :
      Run events state → machine.admits input →
      Run (events ++ [machine.event input state]) (machine.event input state).after

def play (state : σ) : List ι → List (Event ι ω σ) × σ
  | [] => ([], state)
  | input :: rest =>
    ((machine.event input state) :: (play (machine.event input state).after rest).1,
      (play (machine.event input state).after rest).2)

/-- Two runs from one state: the second leaves out the inputs that are dropped, and
meets every other one again, as the relation says. The pairs are the events of
the inputs that both meet. -/
inductive Pruned (drops : ι → Prop) (again : ι → σ → ι → σ → Prop) (start : σ) :
    List (Event ι ω σ × Event ι ω σ) → σ → σ → Prop where
  | start : Pruned drops again start [] start start
  | dropped {pairs : List (Event ι ω σ × Event ι ω σ)} {state other : σ} (input : ι) :
      Pruned drops again start pairs state other → machine.admits input → drops input →
      Pruned drops again start pairs (machine.event input state).after other
  | kept {pairs : List (Event ι ω σ × Event ι ω σ)} {state other : σ} (input repeated : ι) :
      Pruned drops again start pairs state other → machine.admits input →
      machine.admits repeated → ¬ drops input → again input state repeated other →
      Pruned drops again start
        (pairs ++ [(machine.event input state, machine.event repeated other)])
        (machine.event input state).after (machine.event repeated other).after

variable {machine}

theorem Run.play {events : List (Event ι ω σ)} {state : σ} (run : machine.Run events state)
    {inputs : List ι} (admitted : ∀ input ∈ inputs, machine.admits input) :
    machine.Run (events ++ (machine.play state inputs).1) (machine.play state inputs).2 := by
  induction inputs generalizing events state with
  | nil => simpa [Machine.play] using run
  | cons input rest ih =>
      have first := run.next input (admitted input List.mem_cons_self)
      have later := ih first fun other member => admitted other (List.mem_cons_of_mem _ member)
      simpa [Machine.play] using later

/-- Two lives that meet inputs of a relation, pair by pair: what every step carries on
between two states holds at their ends, and they say the same. -/
theorem play_related {again : ι → ι → Prop} {related : σ → σ → Prop}
    (steps : ∀ input other state image, again input other → related state image →
      (machine.step other image).1 = (machine.step input state).1 ∧
        related (machine.step input state).2 (machine.step other image).2)
    {inputs others : List ι} (pairs : List.Forall₂ again inputs others) {state image : σ}
    (before : related state image) :
    (machine.play image others).1.map (·.output) = (machine.play state inputs).1.map (·.output) ∧
      related (machine.play state inputs).2 (machine.play image others).2 := by
  induction pairs generalizing state image with
  | nil => exact ⟨rfl, before⟩
  | @cons input other _ _ first _ ih =>
      obtain ⟨same, after⟩ := steps input other state image first before
      obtain ⟨rest, ended⟩ := ih after
      exact ⟨congrArg₂ List.cons same rest, ended⟩

theorem Run.invariant {holds : σ → Prop} (initially : ∀ state, machine.initial state → holds state)
    (kept : ∀ input state, machine.admits input → holds state → holds (machine.step input state).2)
    {events : List (Event ι ω σ)} {state : σ} (run : machine.Run events state) : holds state := by
  induction run with
  | start initial => exact initially _ initial
  | next input _ admitted ih => exact kept input _ admitted ih

/-- Every event of a run is a step of the machine from a state an earlier part
of the run reached. -/
theorem Run.event_step {events : List (Event ι ω σ)} {state : σ} (run : machine.Run events state) :
    ∀ event ∈ events, ∃ earlier, machine.Run earlier event.before ∧ machine.admits event.input ∧
      event = machine.event event.input event.before := by
  induction run with
  | start _ => simp
  | @next events state input earlier admitted ih =>
      intro event member
      rcases List.mem_append.mp member with old | new
      · exact ih event old
      · have same : event = machine.event input state := by simpa using new
        subst same
        exact ⟨events, earlier, admitted, rfl⟩

theorem Run.reaches_event {earlier later : List (Event ι ω σ)} {event : Event ι ω σ} {state : σ}
    (run : machine.Run (earlier ++ event :: later) state) :
    machine.Run earlier event.before ∧ machine.admits event.input ∧
      event = machine.event event.input event.before := by
  generalize split : earlier ++ event :: later = events at run
  induction run generalizing later with
  | start _ => simp at split
  | @next events reached input before admitted ih =>
      obtain ⟨_, rfl, rfl⟩ | ⟨rest, _, same⟩ := split_concat split
      · exact ⟨before, admitted, rfl⟩
      · exact ih same

/-- What an event begins and every later step carries on holds at the end of the
run, of all that came after the event. -/
theorem Run.since {earlier later : List (Event ι ω σ)} {event : Event ι ω σ} {final : σ}
    (run : machine.Run (earlier ++ event :: later) final)
    (holds : List (Event ι ω σ) → σ → Prop) (begins : holds [] event.after)
    (continues : ∀ middle input state, machine.Run (earlier ++ event :: middle) state →
      machine.admits input → holds middle state →
      holds (middle ++ [machine.event input state]) (machine.event input state).after) :
    holds later final := by
  generalize split : earlier ++ event :: later = events at run
  induction run generalizing later with
  | start _ => simp at split
  | @next events reached input before admitted ih =>
      obtain ⟨rfl, rfl, rfl⟩ | ⟨rest, rfl, rfl⟩ := split_concat split
      · exact begins
      · exact continues rest input reached before admitted (ih rfl)

/-- What is there at the end of a run and was not at its start, some event of the
run brought about. -/
theorem Run.origin {events : List (Event ι ω σ)} {state : σ} (run : machine.Run events state)
    (present : σ → Prop) (absent : ∀ state, machine.initial state → ¬ present state)
    (now : present state) :
    ∃ earlier event later, events = earlier ++ event :: later ∧
      ¬ present event.before ∧ present event.after := by
  induction run with
  | start initial => exact absurd now (absent _ initial)
  | @next events reached input before admitted ih =>
      by_cases old : present reached
      · obtain ⟨earlier, event, later, rfl, missing, brought⟩ := ih old
        exact ⟨earlier, event, later ++ [machine.event input reached], by simp, missing, brought⟩
      · exact ⟨events, machine.event input reached, [], rfl, old, now⟩

section Pruning

variable {drops : ι → Prop} {again : ι → σ → ι → σ → Prop} {start state other : σ}
  {events : List (Event ι ω σ)} {pairs : List (Event ι ω σ × Event ι ω σ)}

theorem Pruned.runs (run : machine.Run events start)
    (pruned : machine.Pruned drops again start pairs state other) :
    (∃ first, machine.Run first state) ∧ ∃ second, machine.Run second other := by
  induction pruned with
  | start => exact ⟨⟨events, run⟩, events, run⟩
  | dropped input _ admitted _ ih =>
      obtain ⟨⟨first, reached⟩, second⟩ := ih
      exact ⟨⟨_, reached.next input admitted⟩, second⟩
  | kept input repeated _ admitted also _ _ ih =>
      obtain ⟨⟨first, reached⟩, second, met⟩ := ih
      exact ⟨⟨_, reached.next input admitted⟩, _, met.next repeated also⟩

/-- A relation of the two states that holds at first, and that a dropped input
keeps as well as one that both meet, holds at the end. -/
theorem Pruned.related {holds : List (Event ι ω σ × Event ι ω σ) → σ → σ → Prop}
    (run : machine.Run events start) (begins : holds [] start start)
    (dropped : ∀ pairs first second state other input, machine.Run first state →
      machine.Run second other → machine.admits input → drops input → holds pairs state other →
      holds pairs (machine.event input state).after other)
    (kept : ∀ pairs first second state other input repeated, machine.Run first state →
      machine.Run second other → machine.admits input → machine.admits repeated → ¬ drops input →
      again input state repeated other → holds pairs state other →
      holds (pairs ++ [(machine.event input state, machine.event repeated other)])
        (machine.event input state).after (machine.event repeated other).after)
    (pruned : machine.Pruned drops again start pairs state other) : holds pairs state other := by
  induction pruned with
  | start => exact begins
  | dropped input before admitted drop ih =>
      obtain ⟨⟨first, reached⟩, second, met⟩ := before.runs run
      exact dropped _ first second _ _ input reached met admitted drop ih
  | kept input repeated before admitted also keep same ih =>
      obtain ⟨⟨first, reached⟩, second, met⟩ := before.runs run
      exact kept _ first second _ _ input repeated reached met admitted also keep same ih

end Pruning

end Machine

end Library
