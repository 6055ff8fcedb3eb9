import PortalApi.Http.Dispatch

/-! `http_access_handler` and `http_request_completed`: what libmicrohttpd calls,
several times for one request, with the state of the request in `con_cls`. -/

set_option autoImplicit false

namespace PortalApi

open Library

/-- The request line and the headers, as every call for the request has them. -/
structure RequestHead where
  method : Bytes
  url : Bytes
  lookup : MhdValueKind → String → Option Bytes

def RequestHead.request (head : RequestHead) (body : Bytes) : Request where
  method := head.method
  url := head.url
  lookup := head.lookup
  body := body

/-- What one call returns and leaves in the variables it is given by reference. -/
structure Access where
  result : MhdResult
  uploadDataSize : UInt64
  conCls : Option PortalHttpRequestBody

/-- The ways through `http_access_handler`. -/
inductive AccessBranch where
  | first
  | drain (body : PortalHttpRequestBody)
  | append (body : PortalHttpRequestBody)
  | dispatch (body : PortalHttpRequestBody)

def accessBranch (conCls : Option PortalHttpRequestBody) (uploadDataSize : UInt64) :
    AccessBranch :=
  match conCls with
  | none => .first
  | some body =>
    if body.responseQueued then .drain body
    else if uploadDataSize ≠ 0 then .append body
    else .dispatch body

/-- The body with which `http_dispatch` is entered on this way, if it is. -/
def AccessBranch.entered : AccessBranch → List Bytes
  | .dispatch body => [body.content]
  | _ => []

/-- `none` never returns. A `none` upload is NULL. -/
def httpAccessHandler (context : PortalHttpContext) (jsonC : JsonC) (head : RequestHead)
    (uploadData : Option Bytes) (uploadDataSize : UInt64)
    (conCls : Option PortalHttpRequestBody) : Handler (Option Access) :=
  match accessBranch conCls uploadDataSize with
  | .first => do
    if ← allocate .requestBody then
      return some { result := .yes, uploadDataSize, conCls := some .zeroed }
    else return some { result := .no, uploadDataSize, conCls := none }
  | .drain body => return some { result := .yes, uploadDataSize := 0, conCls := some body }
  | .append body => do
    match ← portalHttpRequestBodyAppend body uploadData uploadDataSize with
    | none => return none
    | some (true, appended) =>
      return some { result := .yes, uploadDataSize := 0, conCls := some appended }
    | some (false, refused) =>
      let result ← portalHttpResponseError 413 "payload_too_large"
        "The request body exceeds 1 MiB or could not be allocated."
      return some {
        result
        uploadDataSize := 0
        conCls := some { refused with responseQueued := true } }
  | .dispatch body => do
    let result ← httpDispatch context jsonC (head.request body.content)
    return some { result, uploadDataSize, conCls := some body }

/-- The freed body's pointer is set to NULL. -/
def portalHttpRequestBodyDestroy (_body : Option PortalHttpRequestBody) :
    Option PortalHttpRequestBody := none

def httpRequestCompleted (conCls : Option PortalHttpRequestBody) : Option PortalHttpRequestBody :=
  portalHttpRequestBodyDestroy conCls

end PortalApi
