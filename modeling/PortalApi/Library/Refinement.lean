import PortalApi.Library.Machine

/-! A machine that refines another: each of its steps is one step of the other or
none, on the part of its state that the other sees. -/

set_option autoImplicit false

namespace Library

/-- How the abstract machine sees the concrete one: its state, and the input, if
any, that it serves when the concrete machine serves one. -/
structure View (ι σ κ τ : Type) where
  state : σ → τ
  input : ι → σ → Option κ

variable {ι ω σ κ ο τ : Type}

def View.event (view : View ι σ κ τ) (abstract : Machine κ ο τ) (event : Event ι ω σ) :
    Option (Event κ ο τ) :=
  (view.input event.input event.before).map fun input =>
    abstract.event input (view.state event.before)

def View.events (view : View ι σ κ τ) (abstract : Machine κ ο τ) (events : List (Event ι ω σ)) :
    List (Event κ ο τ) :=
  events.filterMap (view.event abstract)

/-- Under an invariant of the concrete machine every step of it is a step of the
abstract machine, or leaves all that the abstract machine sees. -/
structure Refines (concrete : Machine ι ω σ) (abstract : Machine κ ο τ) (view : View ι σ κ τ)
    (invariant : σ → Prop) : Prop where
  initial : ∀ state, concrete.initial state → invariant state ∧ abstract.initial (view.state state)
  kept : ∀ input state, concrete.admits input → invariant state →
    invariant (concrete.step input state).2
  silent : ∀ input state, concrete.admits input → invariant state →
    view.input input state = none → view.state (concrete.step input state).2 = view.state state
  active : ∀ input state served, concrete.admits input → invariant state →
    view.input input state = some served → abstract.admits served ∧
      view.state (concrete.step input state).2 = (abstract.step served (view.state state)).2

section Refines

variable {concrete : Machine ι ω σ} {abstract : Machine κ ο τ} {view : View ι σ κ τ}
  {invariant : σ → Prop} {events : List (Event ι ω σ)} {state : σ}

theorem Refines.invariant_run (refines : Refines concrete abstract view invariant)
    (run : concrete.Run events state) : invariant state :=
  run.invariant (fun state initial => (refines.initial state initial).1) refines.kept

theorem View.events_concat (event : Event ι ω σ) :
    view.events abstract (events ++ [event]) =
      view.events abstract events ++ (view.event abstract event).toList := by
  cases seen : view.event abstract event <;> simp [View.events, seen]

/-- What the abstract machine sees of a run is a run of it. -/
theorem Refines.run (refines : Refines concrete abstract view invariant)
    (run : concrete.Run events state) :
    abstract.Run (view.events abstract events) (view.state state) := by
  induction run with
  | start initial => exact .start (refines.initial _ initial).2
  | @next events state input before admitted ih =>
      have holds := refines.invariant_run before
      rw [View.events_concat]
      cases seen : view.input input state with
      | none =>
          have same := refines.silent input state admitted holds seen
          simpa [View.event, Machine.event, seen, same] using ih
      | some served =>
          obtain ⟨allowed, step⟩ := refines.active input state served admitted holds seen
          have later := ih.next served allowed
          simpa [View.event, Machine.event, seen, step] using later

end Refines

end Library
