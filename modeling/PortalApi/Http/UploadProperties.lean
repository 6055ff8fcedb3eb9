import PortalApi.Http.Accumulator
import PortalApi.Http.Attempts
import PortalApi.Http.Upload

/-! What an append means to the access handler, which always returns. -/

set_option autoImplicit false

namespace PortalApi

open Library

/-- How an append ends: the data stand after the content, or nothing changed. -/
inductive Appends (body : PortalHttpRequestBody) (data : Bytes) :
    Option (Bool × PortalHttpRequestBody) → Prop where
  | stored {appended : PortalHttpRequestBody} : appended.WellFormed →
      appended.content = body.content ++ data →
      appended.responseQueued = body.responseQueued →
      body.content.length + data.length ≤ maxBody → Appends body data (some (true, appended))
  | refused : Appends body data (some (false, body))

section Append

variable (postgres : Postgres) (environment : Environment) (exchange : Exchange)
  {body : PortalHttpRequestBody} {data : Bytes}

theorem portalHttpRequestBodyAppend_ends (wellFormed : body.WellFormed)
    (sized : data.length < 2 ^ 64) :
    Appends body data
        ((portalHttpRequestBodyAppend body (some data) (UInt64.ofNat data.length)).run
          (interpret postgres environment) exchange).1 ∧
      ((portalHttpRequestBodyAppend body (some data) (UInt64.ofNat data.length)).run
        (interpret postgres environment) exchange).2 = exchange := by
  have size : (UInt64.ofNat data.length).toNat = data.length := by
    rw [UInt64.toNat_ofNat', Nat.mod_eq_of_lt sized]
  obtain ⟨outcome, run, append⟩ := run_portalHttpRequestBodyAppend postgres environment exchange
    wellFormed data (UInt64.ofNat data.length)
  rw [run]
  refine ⟨?_, rfl⟩
  cases append with
  | tooLarge _ => exact .refused
  | unavailable _ _ _ _ => exact .refused
  | fits limited room =>
      rw [size] at limited room
      have stored := wellFormed.store_spec data limited room
      exact .stored stored.1 stored.2 rfl (wellFormed.length_content ▸ limited)
  | grown limited needed doubled granted =>
      obtain ⟨resized, content, room⟩ := wellFormed.resized environment limited needed doubled granted
      rw [size] at limited room
      have stored := resized.store_spec data limited room
      exact .stored stored.1 (content ▸ stored.2) rfl (wellFormed.length_content ▸ limited)

end Append

/-! ### The calls of the access handler -/

def payloadTooLarge : Response := errorResponse 413 "payload_too_large"
  "The request body exceeds 1 MiB or could not be allocated."

section Access

variable (postgres : Postgres) (environment : Environment) (exchange : Exchange)
  (context : PortalHttpContext) (jsonC : JsonC) (head : RequestHead) (body : PortalHttpRequestBody)

theorem run_httpAccessHandler_first (data : Option Bytes) (size : UInt64) :
    (httpAccessHandler context jsonC head data size none).run (interpret postgres environment)
        exchange =
      (some (if environment.grants .requestBody then
          { result := .yes, uploadDataSize := size, conCls := some .zeroed }
        else { result := .no, uploadDataSize := size, conCls := none }), exchange) := by
  cases granted : environment.grants .requestBody <;>
    simp [httpAccessHandler, accessBranch, granted]

theorem run_httpAccessHandler_drain (data : Option Bytes) (size : UInt64)
    (queued : body.responseQueued = true) :
    (httpAccessHandler context jsonC head data size (some body)).run
        (interpret postgres environment) exchange =
      (some { result := .yes, uploadDataSize := 0, conCls := some body }, exchange) := by
  simp only [httpAccessHandler, accessBranch, queued, ↓reduceIte]
  rfl

/-- The size that comes with a chunk is not taken for the end of the body. -/
theorem chunk_size_ne_zero {data : Bytes} (nonempty : data ≠ []) (sized : data.length < 2 ^ 64) :
    UInt64.ofNat data.length ≠ 0 := by
  intro zero
  have same := congrArg UInt64.toNat zero
  rw [UInt64.toNat_ofNat', Nat.mod_eq_of_lt sized] at same
  exact nonempty (List.eq_nil_of_length_eq_zero same)

/-- A chunk is taken in whole, or its refusal is tried to be answered. -/
theorem run_httpAccessHandler_append {data : Bytes} (wellFormed : body.WellFormed)
    (unqueued : body.responseQueued = false) (nonempty : data ≠ []) (sized : data.length < 2 ^ 64) :
    (∃ appended, appended.WellFormed ∧ appended.content = body.content ++ data ∧
        appended.responseQueued = false ∧ body.content.length + data.length ≤ maxBody ∧
        (httpAccessHandler context jsonC head (some data) (UInt64.ofNat data.length)
            (some body)).run (interpret postgres environment) exchange =
          (some { result := .yes, uploadDataSize := 0, conCls := some appended }, exchange)) ∨
      (httpAccessHandler context jsonC head (some data) (UInt64.ofNat data.length)
          (some body)).run (interpret postgres environment) exchange =
        (some {
          result := (exchange.answer environment environment.reports payloadTooLarge).1
          uploadDataSize := 0
          conCls := some { body with responseQueued := true } },
        (exchange.answer environment environment.reports payloadTooLarge).2) := by
  have size : UInt64.ofNat data.length ≠ 0 := chunk_size_ne_zero nonempty sized
  have branch : accessBranch (some body) (UInt64.ofNat data.length) = .append body := by
    simp [accessBranch, unqueued, size]
  obtain ⟨ends, same⟩ := portalHttpRequestBodyAppend_ends postgres environment exchange wellFormed
    sized
  simp only [httpAccessHandler, branch, Program.run_bind, same]
  generalize (portalHttpRequestBodyAppend body (some data) (UInt64.ofNat data.length)).run
    (interpret postgres environment) exchange = outcome at ends
  obtain ⟨result, after⟩ := outcome
  cases ends with
  | stored appended content kept limited =>
      exact .inl ⟨_, appended, content, kept.trans unqueued, limited, rfl⟩
  | refused =>
      right
      simp only [Program.run_bind, run_portalHttpResponseError]
      rfl

theorem run_httpAccessHandler_dispatch (data : Option Bytes)
    (unqueued : body.responseQueued = false) :
    (httpAccessHandler context jsonC head data 0 (some body)).run (interpret postgres environment)
        exchange =
      (some {
          result := ((httpDispatch context jsonC (head.request body.content)).run
            (interpret postgres environment) exchange).1
          uploadDataSize := 0
          conCls := some body },
        ((httpDispatch context jsonC (head.request body.content)).run
          (interpret postgres environment) exchange).2) := by
  simp only [httpAccessHandler, accessBranch, unqueued, Bool.false_eq_true, ↓reduceIte, ne_eq,
    not_true_eq_false, Program.run_bind]
  rfl

end Access

end PortalApi
