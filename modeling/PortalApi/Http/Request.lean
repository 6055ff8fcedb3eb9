import PortalApi.Http.Effects

/-! The request as libmicrohttpd presents it, and the body accumulator and JSON
entry point of `request.c`. -/

set_option autoImplicit false

namespace PortalApi

open Library

inductive MhdValueKind where
  | header
  | getArgument
  deriving DecidableEq

/-- `lookup` is `MHD_lookup_connection_value` on this request's connection. -/
structure Request where
  method : Bytes
  url : Bytes
  lookup : MhdValueKind → String → Option Bytes
  body : Bytes

def Request.authorization (request : Request) : Option Bytes :=
  request.lookup .header "Authorization"

def portalHttpMaxBodySize : UInt64 := 1024 * 1024

/-- `data` is the whole allocated buffer, empty for NULL. -/
structure PortalHttpRequestBody where
  data : Bytes
  length : UInt64
  capacity : UInt64
  responseQueued : Bool

/-- The body that `calloc` leaves. -/
def PortalHttpRequestBody.zeroed : PortalHttpRequestBody where
  data := []
  length := 0
  capacity := 0
  responseQueued := false

/-- The bytes received so far. -/
def PortalHttpRequestBody.content (body : PortalHttpRequestBody) : Bytes :=
  body.data.take body.length.toNat

/-- The loop `while (capacity < required) capacity *= 2`. A loop that runs 64
times has shifted every bit out and never ends: `none`. -/
def doubleUntil (required : UInt64) : Nat → UInt64 → Option UInt64
  | 0, capacity => if capacity < required then none else some capacity
  | fuel + 1, capacity =>
    if capacity < required then doubleUntil required fuel (capacity * 2) else some capacity

def overwrite (buffer : Bytes) (start : Nat) (data : Bytes) : Bytes :=
  buffer.take start ++ data ++ buffer.drop (start + data.length)

/-- The copy of the data, the new length and the terminator. -/
def PortalHttpRequestBody.store (body : PortalHttpRequestBody) (data : Bytes) :
    PortalHttpRequestBody :=
  let length := body.length + UInt64.ofNat data.length
  { body with
    data := overwrite (overwrite body.data body.length.toNat data) length.toNat [0]
    length }

/-- Whether the append succeeds and the body it leaves; `none` never returns.
A `none` data pointer is NULL. -/
def portalHttpRequestBodyAppend (body : PortalHttpRequestBody) (data : Option Bytes)
    (size : UInt64) : Handler (Option (Bool × PortalHttpRequestBody)) :=
  match data with
  | none => return some (false, body)
  | some data => do
    if size > portalHttpMaxBodySize - body.length then
      return some (false, body)
    else
      let required := body.length + size + 1
      if required > body.capacity then
        match doubleUntil required 64 (if body.capacity = 0 then 4096 else body.capacity) with
        | none => return none
        | some capacity =>
          match ← realloc body.data capacity with
          | none => return some (false, body)
          | some resized =>
            return some (true, { body with data := resized, capacity }.store data)
      else
        return some (true, body.store data)

def isJsonBlank (character : UInt8) : Bool :=
  character = 32 || character = 9 || character = 13 || character = 10

def intMax : Nat := 2 ^ 31 - 1

/-- What the parse keeps: one object that ends, up to blanks, where the body ends. -/
def parsedObject (jsonC : JsonC) (body : Bytes) : Option Json :=
  let parsed := jsonC.parseEx body
  let parseEnd :=
    parsed.parseEnd + ((body.drop parsed.parseEnd).takeWhile isJsonBlank).length
  match parsed.json with
  | none => none
  | some json =>
    if parsed.error ≠ .tokenerSuccess || parseEnd ≠ body.length || !json.isObject then none
    else some json

/-- `body` is the received content. -/
def portalHttpRequestParseJson (jsonC : JsonC) (body : Bytes) : Handler (Option Json) := do
  if body.length = 0 || body.length > intMax then
    return none
  else if ← allocate .jsonTokener then
    return parsedObject jsonC body
  else return none

/-- The JSON object a body is read as when the tokener can be allocated. -/
def readJson (jsonC : JsonC) (body : Bytes) : Option Json :=
  if body.length = 0 || body.length > intMax then none else parsedObject jsonC body

@[simp] theorem run_portalHttpRequestParseJson (postgres : Postgres) (environment : Environment)
    (exchange : Exchange) (jsonC : JsonC) (body : Bytes) :
    (portalHttpRequestParseJson jsonC body).run (interpret postgres environment) exchange =
      (if environment.grants .jsonTokener then readJson jsonC body else none, exchange) := by
  unfold portalHttpRequestParseJson readJson
  cases granted : environment.grants .jsonTokener with
  | false => simp [granted]
  | true => simp [granted]; split <;> rfl

end PortalApi
