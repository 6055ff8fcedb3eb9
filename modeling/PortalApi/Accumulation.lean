import PortalApi.Http.Accumulator
import PortalApi.Reference

/-! The body accumulator over any sequence of appends, from a zeroed body on. -/

set_option autoImplicit false

namespace PortalApi

open Library

/-- One call, with all it depends on; the outcome of `realloc` is in the environment. -/
structure AppendCall where
  data : Option Bytes
  size : UInt64
  environment : Environment

/-- The data pointer, if any, has `size` bytes behind it, unless no body is that
large: these are never read. -/
def AppendCall.Readable (call : AppendCall) : Prop :=
  ∀ data, call.data = some data → call.size.toNat ≤ maxBody → data.length = call.size.toNat

section Accumulator

variable (postgres : Postgres) (exchange : Exchange)

def AppendCall.append (call : AppendCall) (body : PortalHttpRequestBody) :
    Option (Bool × PortalHttpRequestBody) :=
  ((portalHttpRequestBodyAppend body call.data call.size).run
    (interpret postgres call.environment) exchange).1

/-- The accumulator from a zeroed body on. A call that never returns says `none`. -/
def accumulator : Machine AppendCall (Option Bool) PortalHttpRequestBody where
  initial body := body = .zeroed
  admits call := call.Readable
  step call body :=
    match call.append postgres exchange body with
    | none => (none, body)
    | some (appended, after) => (some appended, after)

abbrev AppendEvent := Event AppendCall (Option Bool) PortalHttpRequestBody

/-- The data of the calls that returned true, one after the other. -/
def accepted (events : List AppendEvent) : Bytes :=
  events.flatMap fun event => if event.output = some true then event.input.data.getD [] else []

/-- What holds of the body after each call. -/
structure Accumulated (events : List AppendEvent) (body : PortalHttpRequestBody) : Prop where
  length_le : body.length.toNat ≤ 1048576
  content : body.data.take body.length.toNat = accepted events
  length_content : (accepted events).length = body.length.toNat
  buffer :
    (body.data = [] ∧ body.length = 0 ∧ body.capacity = 0) ∨
      ((∃ times, body.capacity.toNat = 4096 * 2 ^ times) ∧
        body.length.toNat < body.capacity.toNat ∧ body.capacity.toNat ≤ 2097152 ∧
        body.data.length = body.capacity.toNat ∧ body.data[body.length.toNat]? = some 0)

/-- An append to this body, exactly: its arithmetic is that of the natural numbers,
it returns, and it returns false in three cases only, with nothing changed. -/
structure AppendExact (call : AppendCall) (body : PortalHttpRequestBody) : Prop where
  guard : (portalHttpMaxBodySize - body.length).toNat = 1048576 - body.length.toNat ∧
    body.length ≤ portalHttpMaxBodySize
  sums : call.size ≤ portalHttpMaxBodySize - body.length →
    (body.length + call.size).toNat = body.length.toNat + call.size.toNat ∧
      (body.required call.size).toNat = body.length.toNat + call.size.toNat + 1
  doublings : call.size ≤ portalHttpMaxBodySize - body.length →
    body.capacity < body.required call.size →
      ∃ capacity, doubleUntil (body.required call.size) 64 body.initialCapacity = some capacity ∧
        ExactDoubling (body.required call.size) body.initialCapacity capacity
  returns : ∃ appended after, call.append postgres exchange body = some (appended, after) ∧
    (appended = false → after = body) ∧
    (appended = false ↔
      call.data = none ∨ 1048576 < body.length.toNat + call.size.toNat ∨
        (body.capacity < body.required call.size ∧
          ∃ capacity, doubleUntil (body.required call.size) 64 body.initialCapacity = some capacity ∧
            call.environment.realloc body.data capacity = none))

variable {postgres : Postgres} {exchange : Exchange} {body : PortalHttpRequestBody}
  {call : AppendCall} {events : List AppendEvent}

theorem AppendCall.append_none (absent : call.data = none) :
    call.append postgres exchange body = some (false, body) := by
  simp only [append, absent, portalHttpRequestBodyAppend, Program.run_pure]

theorem AppendCall.append_some {data : Bytes} (present : call.data = some data)
    (wellFormed : body.WellFormed) :
    ∃ outcome, call.append postgres exchange body = some outcome ∧
      Append call.environment body data call.size outcome := by
  obtain ⟨outcome, run, append⟩ := run_portalHttpRequestBodyAppend postgres call.environment exchange
    wellFormed data call.size
  refine ⟨outcome, ?_, append⟩
  rw [AppendCall.append, present, run]

theorem event_append {outcome : Bool × PortalHttpRequestBody}
    (appended : call.append postgres exchange body = some outcome) :
    (accumulator postgres exchange).event call body =
      { input := call, before := body, output := some outcome.1, after := outcome.2 } := by
  simp only [Machine.event, accumulator, appended]

theorem accepted_concat (event : AppendEvent) :
    accepted (events ++ [event]) =
      accepted events ++ if event.output = some true then event.input.data.getD [] else [] := by
  simp [accepted]

theorem accumulator_kept (run : (accumulator postgres exchange).Run events body) :
    body.WellFormed ∧ body.Buffered ∧ body.content = accepted events := by
  induction run with
  | start initial =>
      rw [show _ = PortalHttpRequestBody.zeroed from initial]
      exact ⟨PortalHttpRequestBody.zeroed_wellFormed, .inl ⟨rfl, rfl, rfl⟩, rfl⟩
  | @next events body call _ readable ih =>
      obtain ⟨wellFormed, buffered, content⟩ := ih
      rw [accepted_concat, ← content]
      cases pointer : call.data with
      | none =>
          rw [event_append (AppendCall.append_none pointer)]
          exact ⟨wellFormed, buffered, by simp⟩
      | some data =>
          obtain ⟨outcome, appended, append⟩ := AppendCall.append_some pointer wellFormed
          rw [event_append appended]
          simpa [pointer] using append.keeps wellFormed buffered (readable data pointer)

theorem append_exact (wellFormed : body.WellFormed) (call : AppendCall) :
    AppendExact postgres exchange call body := by
  have length_le := UInt64.le_iff_toNat_le.mpr
    (wellFormed.length_le.trans_eq portalHttpMaxBodySize_toNat.symm)
  have limited : call.size ≤ portalHttpMaxBodySize - body.length →
      body.length.toNat + call.size.toNat ≤ maxBody := by
    intro within
    have small := UInt64.le_iff_toNat_le.mp within
    rw [wellFormed.left] at small
    have bounded := wellFormed.length_le
    omega
  constructor
  · exact ⟨wellFormed.left, length_le⟩
  · intro within
    have required := PortalHttpRequestBody.required_toNat (limited within)
    refine ⟨?_, required⟩
    rw [UInt64.toNat_add]
    have bounded := limited within
    simp only [maxBody] at bounded
    omega
  · intro within _
    exact wellFormed.doubles (limited within)
  · cases pointer : call.data with
    | none =>
        exact ⟨false, body, AppendCall.append_none pointer, fun _ => rfl,
          fun _ => .inl rfl, fun _ => rfl⟩
    | some data =>
        obtain ⟨⟨appended, after⟩, same, append⟩ := AppendCall.append_some pointer wellFormed
        refine ⟨appended, after, same, append.unchanged, ?_⟩
        simp only [reduceCtorEq, false_or]
        exact append.refused_iff

/-- Over any sequence of appends the accumulator holds what it accepted, and each
further append is exact. -/
theorem accumulator_exact (postgres : Postgres) (exchange : Exchange) {events : List AppendEvent}
    {body : PortalHttpRequestBody} (run : (accumulator postgres exchange).Run events body) :
    Accumulated events body ∧ ∀ call, AppendExact postgres exchange call body := by
  obtain ⟨wellFormed, buffered, content⟩ := accumulator_kept run
  refine ⟨⟨wellFormed.length_le, content, ?_, ?_⟩, append_exact wellFormed⟩
  · rw [← content, wellFormed.length_content]
  · rcases buffered with none | ⟨power, terminated⟩
    · exact .inl none
    · have capacity_le := wellFormed.capacity_le
      have allocated : body.capacity.toNat ≠ 0 := by
        obtain ⟨times, same⟩ := power
        rw [same]
        exact Nat.mul_ne_zero (by decide) (Nat.two_pow_pos times).ne'
      have room := wellFormed.room.resolve_left fun empty => allocated empty.1
      exact .inr ⟨power, room, capacity_le, wellFormed.allocated, terminated⟩

end Accumulator

open Reference in
/-- Two chunks, a NULL between them and the largest size after them. -/
def chunks : List AppendCall :=
  [⟨some (bytes "ab"), 2, environment 0 0⟩, ⟨none, 2, environment 0 0⟩,
    ⟨some (bytes "cd"), 2, environment 0 0⟩, ⟨some [], 0xFFFFFFFFFFFFFFFF, environment 0 0⟩]

open Reference in
theorem accumulator_exact_chunks :
    (accepted ((accumulator postgres start.exchange).play .zeroed chunks).1 = bytes "abcd") ∧
      Accumulated ((accumulator postgres start.exchange).play .zeroed chunks).1
        ((accumulator postgres start.exchange).play .zeroed chunks).2 := by
  have begins : (accumulator postgres start.exchange).Run [] .zeroed := .start rfl
  have readable : ∀ call ∈ chunks, call.Readable := by
    intro call member data present small
    simp only [chunks, List.mem_cons, List.not_mem_nil, or_false] at member
    rcases member with rfl | rfl | rfl | rfl
    · exact Option.some.inj present ▸ rfl
    · cases present
    · exact Option.some.inj present ▸ rfl
    · exact absurd small (by decide)
  refine ⟨rfl, (accumulator_exact postgres start.exchange (begins.play readable)).1⟩

end PortalApi
