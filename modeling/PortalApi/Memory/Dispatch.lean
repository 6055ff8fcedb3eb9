import PortalApi.Http.Upload
import PortalApi.Memory.Routes.Activity
import PortalApi.Memory.Routes.Analytics

/-! `http.c` with the memory it handles: one call of the access handler gives back
all it allocates but the body of its request. -/

set_option autoImplicit false

namespace PortalApi.Memory

open Library Owning

def httpDispatchContent (request : Request) (json : Option JsonPointer) : Managed MhdResult :=
  let path := request.url.drop 9
  let isLike := (request.method = bytes "PUT" || request.method = bytes "DELETE") &&
    path.length > 5 && path.drop (path.length - 5) = bytes "/like"
  let isComment := request.method = bytes "POST" && path.length > 9 &&
    path.drop (path.length - 9) = bytes "/comments"
  if isLike then
    if path.length - 5 ≥ contentIdSize then
      portalHttpResponseError 400 "validation_error" "Invalid content id."
    else portalHttpRouteLike request (path.take (path.length - 5)) json
  else if isComment then
    if path.length - 9 ≥ contentIdSize then
      portalHttpResponseError 400 "validation_error" "Invalid content id."
    else portalHttpRouteComment request (path.take (path.length - 9)) json
  else portalHttpResponseError 404 "not_found" "Route not found."

def httpDispatchWithoutBody (request : Request) : Managed (Bool × MhdResult) :=
  let handled (result : Managed MhdResult) : Managed (Bool × MhdResult) := do
    return (true, ← result)
  if request.method = bytes "OPTIONS" then handled portalHttpResponseOptions
  else if request.method = bytes "GET" && request.url = bytes "/health" then handled do
    if !(← portalDatabaseIsConnected) then
      portalHttpResponseError 503 "database_unavailable" "Database is unavailable."
    else
      portalHttpResponseBytes 200
        { owner := none, target := .text (bytes "\x7b\"status\":\"ok\"\x7d") } jsonContentType
  else if request.method = bytes "GET" && request.url = bytes "/analytics/top-content" then
    handled (portalHttpRouteTopContent request)
  else if request.method = bytes "GET" && request.url = bytes "/me/favorite-sections" then
    handled (portalHttpRouteFavoriteList request .favoriteSection)
  else if request.method = bytes "GET" && request.url = bytes "/me/favorite-tags" then
    handled (portalHttpRouteFavoriteList request .favoriteTag)
  else if request.method = bytes "DELETE" && request.url = bytes "/auth/session" then
    handled (portalHttpRouteLogout request)
  else if request.url.take 22 = bytes "/me/favorite-sections/" &&
      (request.method = bytes "PUT" || request.method = bytes "DELETE") then
    handled (portalHttpRouteFavoriteChange request .favoriteSection (request.url.drop 22))
  else if request.url.take 18 = bytes "/me/favorite-tags/" &&
      (request.method = bytes "PUT" || request.method = bytes "DELETE") then
    handled (portalHttpRouteFavoriteChange request .favoriteTag (request.url.drop 18))
  else return (false, .yes)

def httpDispatchJsonRoute (context : PortalHttpContext) (jsonC : JsonC) (request : Request)
    (json : Option JsonPointer) : Managed MhdResult :=
  if request.method = bytes "POST" && request.url = bytes "/auth/register" then
    portalHttpRouteRegister context json
  else if request.method = bytes "POST" && request.url = bytes "/auth/confirm" then
    portalHttpRouteConfirm json
  else if request.method = bytes "POST" && request.url = bytes "/auth/login" then
    portalHttpRouteLogin context json
  else if request.method = bytes "POST" && request.url = bytes "/activity" then
    portalHttpRouteActivity jsonC request json
  else if request.url.take 9 = bytes "/content/" then
    httpDispatchContent request json
  else portalHttpResponseError 404 "not_found" "Route not found."

/-- Only for a `DELETE` the length of the body is looked at. -/
def bodyExpected (request : Request) (body : PortalHttpRequestBody) : Managed Bool :=
  if request.method = bytes "POST" || request.method = bytes "PUT" then return true
  else if request.method = bytes "DELETE" then do
    access body.block
    return request.body.length > 0
  else return false

/-- The parsed object is given back after the route. -/
def httpDispatch (context : PortalHttpContext) (jsonC : JsonC) (head : RequestHead)
    (body : PortalHttpRequestBody) : Managed MhdResult := do
  let request := head.request body.fields.content
  let (handled, result) ← httpDispatchWithoutBody request
  if handled then return result
  else
    if ← bodyExpected request body then
      match ← portalHttpRequestParseJson jsonC body with
      | none =>
        portalHttpResponseError 400 "invalid_json" "A JSON object request body is required."
      | some json =>
        cleaningUp (release .jsonObject json.block) do
          httpDispatchJsonRoute context jsonC request (some json)
    else httpDispatchJsonRoute context jsonC request none

structure Access where
  result : MhdResult
  uploadDataSize : UInt64
  conCls : Option PortalHttpRequestBody

/-- What a call returns, without its memory. -/
def Access.erased (access : Access) : PortalApi.Access where
  result := access.result
  uploadDataSize := access.uploadDataSize
  conCls := access.conCls.map (·.fields)

/-- `none` never returns. -/
def httpAccessHandler (context : PortalHttpContext) (jsonC : JsonC) (head : RequestHead)
    (uploadData : Option Bytes) (uploadDataSize : UInt64)
    (conCls : Option PortalHttpRequestBody) : Managed (Option Access) :=
  match conCls with
  | none => do
    if ← allocate .requestBody then
      let block ← acquire .requestBody
      return some {
        result := .yes
        uploadDataSize
        conCls := some { block, data := none, fields := .zeroed } }
    else return some { result := .no, uploadDataSize, conCls := none }
  | some body => do
    access body.block
    if body.fields.responseQueued then
      return some { result := .yes, uploadDataSize := 0, conCls := some body }
    else if uploadDataSize ≠ 0 then
      match ← portalHttpRequestBodyAppend body uploadData uploadDataSize with
      | none => return none
      | some (true, appended) =>
        return some { result := .yes, uploadDataSize := 0, conCls := some appended }
      | some (false, refused) =>
        access refused.block
        let result ← portalHttpResponseError 413 "payload_too_large"
          "The request body exceeds 1 MiB or could not be allocated."
        return some {
          result
          uploadDataSize := 0
          conCls := some { refused with fields := { refused.fields with responseQueued := true } } }
    else
      let result ← httpDispatch context jsonC head body
      return some { result, uploadDataSize, conCls := some body }

def httpRequestCompleted (conCls : Option PortalHttpRequestBody) :
    Managed (Option PortalHttpRequestBody) :=
  portalHttpRequestBodyDestroy conCls

/-- A connection has no memory before its request begins, and then a body. -/
inductive HoldsRequest (rest : Finset (Block Resource)) :
    Option PortalHttpRequestBody → Finset (Block Resource) → Prop where
  | unbegun : HoldsRequest rest none rest
  | begun {body : PortalHttpRequestBody} {live : Finset (Block Resource)} : Holds rest body live →
      HoldsRequest rest (some body) live

/-- What a call returns, and what it leaves beside the other live blocks. -/
inductive Accessed (rest live : Finset (Block Resource)) :
    Option Access → Option PortalApi.Access → Finset (Block Resource) → Prop where
  | hangs : Accessed rest live none none live
  | returns {access : Access} {after : Finset (Block Resource)} :
      HoldsRequest rest access.conCls after → Accessed rest live (some access) (some access.erased) after

section Tracks

variable {live rest : Finset (Block Resource)} {json : Option JsonPointer}

theorem httpDispatchContent_tracks (request : Request) (held : JsonHeld live json) :
    Tracks Shapes live (httpDispatchContent request json)
      (PortalApi.httpDispatchContent request (json.map (·.target))) (Restores live) := by
  refine .ite (fun _ => ?_) fun _ => .ite (fun _ => ?_) fun _ => portalHttpResponseError_tracks _ _ _
  · exact .ite (fun _ => portalHttpResponseError_tracks _ _ _)
      fun _ => portalHttpRouteLike_tracks request _ held
  · exact .ite (fun _ => portalHttpResponseError_tracks _ _ _)
      fun _ => portalHttpRouteComment_tracks request _ held

theorem httpDispatchJsonRoute_tracks (context : PortalHttpContext) (jsonC : JsonC)
    (request : Request) (held : JsonHeld live json) :
    Tracks Shapes live (httpDispatchJsonRoute context jsonC request json)
      (PortalApi.httpDispatchJsonRoute context jsonC request (json.map (·.target)))
      (Restores live) := by
  refine .ite (fun _ => portalHttpRouteRegister_tracks context held) fun _ => ?_
  refine .ite (fun _ => portalHttpRouteConfirm_tracks held) fun _ => ?_
  refine .ite (fun _ => portalHttpRouteLogin_tracks context held) fun _ => ?_
  refine .ite (fun _ => portalHttpRouteActivity_tracks jsonC request held) fun _ => ?_
  exact .ite (fun _ => httpDispatchContent_tracks request held)
    fun _ => portalHttpResponseError_tracks _ _ _

/-- What a route does is what the dispatch does when it handles the request. -/
theorem handled_tracks {program : Managed MhdResult} {plain : Handler MhdResult}
    (tracks : Tracks Shapes live program plain (Restores live)) :
    Tracks Shapes live (do return (true, ← program)) (do return (true, ← plain))
      (Restores live) := by
  refine tracks.bind fun value result after restored => ?_
  obtain ⟨rfl, rfl⟩ := restored
  exact .pure ⟨rfl, rfl⟩

theorem httpDispatchWithoutBody_tracks (request : Request) :
    Tracks Shapes live (httpDispatchWithoutBody request)
      (PortalApi.httpDispatchWithoutBody request) (Restores live) := by
  refine .ite (fun _ => handled_tracks portalHttpResponseOptions_tracks) fun _ => ?_
  refine .ite (fun _ => handled_tracks ?_) fun _ => ?_
  · refine .perform fun connection _ => .ite (fun _ => portalHttpResponseError_tracks _ _ _) fun _ => ?_
    exact portalHttpResponseBytes_tracks 200 jsonContentType (by simp)
  refine .ite (fun _ => handled_tracks (portalHttpRouteTopContent_tracks request)) fun _ => ?_
  refine .ite (fun _ => handled_tracks (portalHttpRouteFavoriteList_tracks request _)) fun _ => ?_
  refine .ite (fun _ => handled_tracks (portalHttpRouteFavoriteList_tracks request _)) fun _ => ?_
  refine .ite (fun _ => handled_tracks (portalHttpRouteLogout_tracks request)) fun _ => ?_
  refine .ite (fun _ => handled_tracks (portalHttpRouteFavoriteChange_tracks request _ _)) fun _ => ?_
  refine .ite (fun _ => handled_tracks (portalHttpRouteFavoriteChange_tracks request _ _)) fun _ => ?_
  exact .pure ⟨rfl, rfl⟩

variable {body : PortalHttpRequestBody}

theorem bodyExpected_reads (request : Request) (held : body.block ∈ live) :
    Reads live (bodyExpected request body) (PortalApi.bodyExpected request) := by
  unfold bodyExpected PortalApi.bodyExpected
  by_cases whole : (request.method = bytes "POST" || request.method = bytes "PUT") = true
  · rw [if_pos whole, whole]
    exact .pure _
  · rw [if_neg whole, eq_false_of_ne_true whole]
    by_cases delete : request.method = bytes "DELETE"
    · rw [if_pos delete, decide_eq_true delete]
      exact .bind (.access held) (.pure _)
    · rw [if_neg delete, decide_eq_false delete]
      exact .pure _

theorem httpDispatch_tracks (holds : Holds rest body live) (context : PortalHttpContext)
    (jsonC : JsonC) (head : RequestHead) :
    Tracks Shapes live (httpDispatch context jsonC head body)
      (PortalApi.httpDispatch context jsonC (head.request body.fields.content)) (Restores live) := by
  refine (httpDispatchWithoutBody_tracks _).bind fun handling result after restored => ?_
  obtain ⟨rfl, rfl⟩ := restored
  obtain ⟨handled, result⟩ := handling
  refine .ite (fun _ => .pure ⟨rfl, rfl⟩) fun _ => ?_
  refine .reads (bodyExpected_reads _ holds.block_mem) (.ite (fun _ => ?_) fun _ => ?_)
  · refine (portalHttpRequestParseJson_tracks holds jsonC).bind fun json parsed after given => ?_
    cases given with
    | null => exact portalHttpResponseError_tracks _ _ _
    | @object block json fresh kind =>
        refine .cleaningUp (httpDispatchJsonRoute_tracks context jsonC _ ?_) ?_
        · intro pointer same
          obtain rfl := Option.mem_some_iff.mp same
          exact Finset.mem_insert_self _ _
        · intro value result held restored
          obtain ⟨same, rfl⟩ := restored
          exact ⟨after, .released fresh kind, same, rfl⟩
  · exact httpDispatchJsonRoute_tracks context jsonC _ nofun

theorem httpAccessHandler_tracks {conCls : Option PortalHttpRequestBody}
    (holds : HoldsRequest rest conCls live) (context : PortalHttpContext) (jsonC : JsonC)
    (head : RequestHead) (uploadData : Option Bytes) (uploadDataSize : UInt64) :
    Tracks Shapes live (httpAccessHandler context jsonC head uploadData uploadDataSize conCls)
      (PortalApi.httpAccessHandler context jsonC head uploadData uploadDataSize
        (conCls.map (·.fields)))
      (Accessed rest live) := by
  cases holds with
  | unbegun =>
      refine .perform fun created _ => .ite (fun _ => ?_) fun _ => .pure (.returns .unbegun)
      refine .acquire fun block fresh kind => .pure (.returns (.begun ?_))
      exact .bare fresh kind rfl rfl
  | @begun body _ holds =>
      refine .reads (.access holds.block_mem) ?_
      simp only [PortalApi.httpAccessHandler, accessBranch, Option.map_some]
      by_cases queued : body.fields.responseQueued = true
      · rw [if_pos queued, if_pos queued]
        exact .pure (.returns (.begun holds))
      rw [if_neg queued, if_neg queued]
      by_cases sized : uploadDataSize ≠ 0
      · rw [if_pos sized, if_pos sized]
        refine (portalHttpRequestBodyAppend_tracks holds uploadData uploadDataSize).bind
          fun value result after appended => ?_
        cases appended with
        | hangs => exact .pure .hangs
        | @returns stored body after kept =>
            cases stored with
            | true => exact .pure (.returns (.begun kept))
            | false =>
                refine .reads (.access kept.block_mem) ?_
                refine (portalHttpResponseError_tracks _ _ _).bind fun value result final told => ?_
                obtain ⟨rfl, rfl⟩ := told
                exact .pure (.returns (.begun kept.marked))
      · rw [if_neg sized, if_neg sized]
        refine (httpDispatch_tracks holds context jsonC head).bind fun value result final told => ?_
        obtain ⟨rfl, rfl⟩ := told
        exact .pure (.returns (.begun holds))

/-- After the last callback for a request its memory is given back. -/
theorem httpRequestCompleted_tracks {conCls : Option PortalHttpRequestBody}
    (holds : HoldsRequest rest conCls live) :
    Tracks Shapes live (httpRequestCompleted conCls) (pure () : Handler Unit)
      fun left _ after => left = none ∧ after = rest := by
  cases holds with
  | unbegun => exact .pure ⟨rfl, rfl⟩
  | begun holds => exact portalHttpRequestBodyDestroy_tracks holds

end Tracks

end PortalApi.Memory
