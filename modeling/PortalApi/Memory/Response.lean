import PortalApi.Http.Response
import PortalApi.Library.Ownership

/-! What the process owns, and `response.c` with the memory it handles. -/

set_option autoImplicit false

namespace PortalApi

open Library

/-- What the process allocates or opens and has to give back: by `free`, by
`PQfinish` and `MHD_stop_daemon`, and for a request also by `json_tokener_free`,
`json_object_put`, `PQclear` and `MHD_destroy_response`. -/
inductive Resource where
  | app
  | config
  | databaseUrl
  | database
  | pgConn
  | httpServer
  | mhdDaemon
  | requestBody
  | bodyBuffer
  | jsonTokener
  | jsonObject
  | databaseResult
  | pgResult
  | mhdResponse
  deriving DecidableEq

/-- A function of the source with the memory it handles. -/
abbrev Managed (α : Type) := Owning Operation.Answer Resource α

/-- The JSON that a function owns, or borrows from its caller. -/
abbrev JsonPointer := Pointer Resource Json

namespace Memory

open Owning

/-- The data are read while the response is created from them. -/
def portalHttpResponseBytes (status : Nat) (data : Borrowed Resource Payload)
    (contentType : String) : Managed MhdResult := do
  if ← allocate .mhdResponse then
    let payload ← read data
    let response ← acquire .mhdResponse
    cleaningUp (release .mhdResponse response) do
      access response
      if ← allocate .mhdResponseHeaders then
        mhdQueueResponse { status, headers := responseHeaders contentType, payload }
      else return .no
  else return .no

/-- The text that is printed belongs to the object. -/
def portalHttpResponseJson (status : Nat) (json : JsonPointer) : Managed MhdResult := do
  access json.block
  portalHttpResponseBytes status { owner := some json.block, target := .json json.target }
    jsonContentType

def portalHttpResponseEmpty (status : Nat) : Managed MhdResult :=
  portalHttpResponseBytes status { owner := none, target := .text [] } jsonContentType

def portalHttpResponseError (status : Nat) (code message : String) : Managed MhdResult := do
  if ← allocate .errorObject then
    let json ← acquire .jsonObject
    cleaningUp (release .jsonObject json) do
      access json
      portalHttpResponseJson status { block := json, target := errorJson code message }
  else return .no

def portalHttpResponseOptions : Managed MhdResult := do
  if ← allocate .mhdResponse then
    let response ← acquire .mhdResponse
    cleaningUp (release .mhdResponse response) do
      access response
      if ← allocate .mhdResponseHeaders then
        mhdQueueResponse { status := 204, headers := optionsHeaders, payload := .text [] }
      else return .no
  else return .no

section Tracks

variable {admitted : (operation : Operation) → operation.Answer → Prop}
  {live : Finset (Block Resource)}

theorem portalHttpResponseBytes_tracks (status : Nat) {data : Borrowed Resource Payload}
    (contentType : String) (held : ∀ owner ∈ data.owner, owner ∈ live) :
    Tracks admitted live (portalHttpResponseBytes status data contentType)
      (PortalApi.portalHttpResponseBytes status data.target contentType) (Restores live) := by
  refine .perform fun created _ => .ite (fun _ => ?_) fun _ => .pure ⟨rfl, rfl⟩
  refine .reads (.read held) (.scoped fun response _ => ?_)
  refine .reads (.access (Finset.mem_insert_self _ _)) ?_
  exact .perform fun completed _ => .ite (fun _ => .operation) fun _ => .pure ⟨rfl, rfl⟩

theorem portalHttpResponseJson_tracks (status : Nat) {json : JsonPointer}
    (held : json.block ∈ live) :
    Tracks admitted live (portalHttpResponseJson status json)
      (PortalApi.portalHttpResponseJson status json.target) (Restores live) := by
  refine .reads (.access held) (portalHttpResponseBytes_tracks status jsonContentType ?_)
  intro owner same
  exact Option.mem_some_iff.mp same ▸ held

theorem portalHttpResponseEmpty_tracks (status : Nat) :
    Tracks admitted live (portalHttpResponseEmpty status)
      (PortalApi.portalHttpResponseEmpty status) (Restores live) :=
  portalHttpResponseBytes_tracks status jsonContentType (by simp)

theorem portalHttpResponseError_tracks (status : Nat) (code message : String) :
    Tracks admitted live (portalHttpResponseError status code message)
      (PortalApi.portalHttpResponseError status code message) (Restores live) := by
  refine .perform fun created _ => .ite (fun _ => ?_) fun _ => .pure ⟨rfl, rfl⟩
  refine .scoped fun json _ => ?_
  have present : json ∈ insert json live := Finset.mem_insert_self _ _
  exact .reads (.access present) (portalHttpResponseJson_tracks status present)

theorem portalHttpResponseOptions_tracks :
    Tracks admitted live portalHttpResponseOptions PortalApi.portalHttpResponseOptions
      (Restores live) := by
  refine .perform fun created _ => .ite (fun _ => ?_) fun _ => .pure ⟨rfl, rfl⟩
  refine .scoped fun response _ => ?_
  refine .reads (.access (Finset.mem_insert_self _ _)) ?_
  exact .perform fun completed _ => .ite (fun _ => .operation) fun _ => .pure ⟨rfl, rfl⟩

end Tracks

end Memory

end PortalApi
