import PortalApi.ServiceEffects

/-! Runs of the service: the schema holds in every state they reach, time does
not go back, and without failures the connection stays up. -/

set_option autoImplicit false

namespace PortalApi

open Library

section Operations

variable {postgres : Postgres} {environment : Environment}

private theorem interpret_valid (operation : Operation) (exchange : Exchange)
    (valid : exchange.world.database.Valid postgres.lower) :
    (interpret postgres environment operation exchange).2.world.database.Valid postgres.lower := by
  cases operation with
  | pqExecParams statement =>
      simp only [interpret, World.pqExecParams]
      split
      · exact valid
      · split
        · exact valid
        · exact valid
        · split
          · exact valid
          · next executed => exact execute_valid valid executed
  | _ => exact valid

private theorem interpret_clock (start : Time) (operation : Operation) (exchange : Exchange)
    (later : start ≤ exchange.world.clock) :
    start ≤ (interpret postgres environment operation exchange).2.world.clock := by
  cases operation with
  | pqExecParams statement =>
      have passes : start ≤ exchange.world.clock +
          (environment.moment exchange.statements).elapsed :=
        Int.le_trans later (Int.le_add_of_nonneg_right (Int.natCast_nonneg _))
      simp only [interpret, World.pqExecParams]
      split
      · exact passes
      · split
        · exact passes
        · exact passes
        · split <;> exact passes
  | _ => exact later

private theorem interpret_connection (healthy : environment.Healthy) (operation : Operation)
    (exchange : Exchange) (connected : exchange.world.connection = .connectionOk) :
    (interpret postgres environment operation exchange).2.world.connection = .connectionOk := by
  cases operation with
  | pqExecParams statement =>
      simp only [interpret, World.pqExecParams, connected, healthy.fair]
      split <;> rfl
  | _ => exact connected

end Operations

namespace Service

variable {service : Service} {call : Call} {world : World}

theorem serve_valid (valid : world.database.Valid service.postgres.lower) :
    (service.serve call world).2.database.Valid service.postgres.lower :=
  Program.run_preserves interpret_valid _ valid

theorem serve_clock : world.clock ≤ (service.serve call world).2.clock :=
  Program.run_preserves (interpret_clock world.clock) _ (Int.le_refl _)

theorem play_clock {admits : Environment → Prop} {calls : List Call} :
    world.clock ≤ ((service.machine admits).play world calls).2.clock := by
  induction calls generalizing world with
  | nil => exact Int.le_refl _
  | cons call rest ih => exact Int.le_trans serve_clock ih

theorem serve_connection (healthy : call.environment.Healthy)
    (connected : world.connection = .connectionOk) :
    (service.serve call world).2.connection = .connectionOk :=
  Program.run_preserves (interpret_connection healthy) _ connected

section Run

variable {admits : Environment → Prop} {entries : List Entry} {entry : Entry}

theorem Run.valid (run : service.Run admits entries world) :
    world.database.Valid service.postgres.lower := by
  have initially : ∀ state, (service.machine admits).initial state →
      state.database.Valid service.postgres.lower := by
    rintro state ⟨empty, _⟩
    exact empty ▸ Database.empty_valid _
  have kept : ∀ call state, (service.machine admits).admits call →
      state.database.Valid service.postgres.lower →
      ((service.machine admits).step call state).2.database.Valid service.postgres.lower :=
    fun _ _ _ valid => serve_valid valid
  exact run.invariant initially kept

theorem Run.connection (run : service.Run Environment.Healthy entries world) :
    world.connection = .connectionOk := by
  have initially : ∀ state, (service.machine Environment.Healthy).initial state →
      state.connection = .connectionOk := fun _ initial => initial.2
  have kept : ∀ call state, (service.machine Environment.Healthy).admits call →
      state.connection = .connectionOk →
      ((service.machine Environment.Healthy).step call state).2.connection = .connectionOk :=
    fun _ _ healthy connected => serve_connection healthy connected
  exact run.invariant initially kept

/-- Every entry of a run is the service at work in a state that the part of the
run before it reached. -/
theorem Run.reached {earlier later : List Entry}
    (run : service.Run admits (earlier ++ entry :: later) world) :
    service.Run admits earlier entry.before ∧ admits entry.input.environment ∧
      entry.output = (service.serve entry.input entry.before).1 ∧
      entry.after = (service.serve entry.input entry.before).2 := by
  obtain ⟨reached, admitted, same⟩ := run.reaches_event
  exact ⟨reached, admitted, congrArg Event.output same, congrArg Event.after same⟩

theorem Run.effect (lawful : service.postgres.Lawful)
    {earlier later : List Entry} (run : service.Run admits (earlier ++ entry :: later) world) :
    Effect service entry.input entry.before entry.output entry.after := by
  obtain ⟨reached, _, output, after⟩ := Run.reached run
  rw [output, after]
  exact service.serve_effect entry.input lawful (Run.valid reached)

end Run

end Service

end PortalApi
