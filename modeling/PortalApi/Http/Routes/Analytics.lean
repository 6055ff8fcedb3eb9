import PortalApi.Http.Authentication
import PortalApi.Http.Response
import PortalApi.Validation

/-! `routes/analytics.c`: the most visited contents of a portal. -/

set_option autoImplicit false

namespace PortalApi

open Library

/-- The parsed value, or `none` when the argument is refused. -/
def analyticsParseRange (text : Option Bytes) (fallback minimum maximum : Int) : Option Int :=
  match text with
  | none => some fallback
  | some text =>
    let parsed := strtol text
    if parsed.outOfRange || !parsed.converted || parsed.rest ≠ [] || parsed.value < minimum ||
        parsed.value > maximum then none
    else some parsed.value

/-- `%ld`. -/
def signedDecimal (number : Int) : Bytes :=
  if number < 0 then 45 :: decimal number.natAbs else decimal number.natAbs

def topContentItem (result : Option PgResult) (index : Nat) : Json :=
  .object [(bytes "content_id", .string ((portalDatabaseResultValue result index 0).getD [])),
    (bytes "views", .int (strtol ((portalDatabaseResultValue result index 1).getD [])).value)]

/-- The loop over the rows: it stops at the first item that cannot be allocated. -/
def topContentItems (result : Option PgResult) : List Nat → Handler (Option (List Json))
  | [] => return some []
  | index :: rest => do
    if ← allocate (.item index) then
      match ← topContentItems result rest with
      | none => return none
      | some items => return some (topContentItem result index :: items)
    else return none

def topContentJson (portal : Bytes) (days : Int) (items : List Json) : Json :=
  .object [(bytes "portal_key", .string portal), (bytes "days", .int days),
    (bytes "items", .array items)]

def portalHttpRouteTopContent (request : Request) : Handler MhdResult := do
  let portal := request.lookup .getArgument "portal_key"
  let daysText := request.lookup .getArgument "days"
  let limitText := request.lookup .getArgument "limit"
  let (status, _) ← portalHttpAuthenticate request
  if status ≠ .authenticated then
    portalHttpResponseError 401 "unauthorized" "A valid Bearer token is required."
  else if portal.isNone || !portalValidationKey portal 120 then
    portalHttpResponseError 400 "validation_error" "portal_key is required."
  else
    match analyticsParseRange daysText 7 1 365, analyticsParseRange limitText 10 1 100 with
    | some days, some limit => do
      let daysBuffer := snprintf 12 (signedDecimal days)
      let limitBuffer := snprintf 12 (signedDecimal limit)
      if daysBuffer.1 < 0 || limitBuffer.1 < 0 then
        portalHttpResponseError 500 "serialization_error" "Could not prepare analytics query."
      else
        let result ← portalDatabaseQuery
          (.topContent (portal.getD []) daysBuffer.2 limitBuffer.2)
        if portalDatabaseResultStatus result ≠ .tuples then
          portalHttpResponseError 500 "database_error" "Could not load analytics."
        else
          let response ← allocate .responseObject
          let array ← allocate .itemsArray
          if !response || !array then return .no
          else
            match ← topContentItems result
                (List.range (portalDatabaseResultRowCount result)) with
            | none => return .no
            | some items =>
              portalHttpResponseJson 200 (topContentJson (portal.getD []) days items)
    | _, _ =>
      portalHttpResponseError 400 "validation_error"
        "days must be 1..365 and limit must be 1..100."

end PortalApi
