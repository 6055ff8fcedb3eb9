import PortalApi.Http.Authentication
import PortalApi.Http.Response
import PortalApi.Validation

/-! `routes/favorites.c`: the favorite lists of the authenticated user. -/

set_option autoImplicit false

namespace PortalApi

open Library

def favoriteHasAuthenticatedUser (request : Request) :
    Handler (Bool × PortalAuthenticatedUser) := do
  let (status, user) ← portalHttpAuthenticate request
  return (decide (status = .authenticated), user)

/-- `{"items": [..]}`, with a string for every row. -/
def favoriteItems (result : Option PgResult) : Json :=
  .object [(bytes "items", .array ((List.range (portalDatabaseResultRowCount result)).map fun index =>
    .string ((portalDatabaseResultValue result index 0).getD [])))]

def portalHttpRouteFavoriteList (request : Request) (kind : PortalFavoriteKind) :
    Handler MhdResult := do
  let (authenticated, user) ← favoriteHasAuthenticatedUser request
  if !authenticated then
    portalHttpResponseError 401 "unauthorized" "A valid Bearer token is required."
  else
    let result ← portalDatabaseQuery (.favoriteList kind user.id)
    if portalDatabaseResultStatus result ≠ .tuples then
      portalHttpResponseError 500 "database_error" "Could not load favorites."
    else
      let response ← allocate .responseObject
      let items ← allocate .itemsArray
      if !response || !items then return .no
      else portalHttpResponseJson 200 (favoriteItems result)

/-- `PUT` adds the key and `DELETE` removes it, and both say the same when there is nothing
to do. -/
def portalHttpRouteFavoriteChange (request : Request) (kind : PortalFavoriteKind) (key : Bytes) :
    Handler MhdResult := do
  let (authenticated, user) ← favoriteHasAuthenticatedUser request
  if !authenticated then
    portalHttpResponseError 401 "unauthorized" "A valid Bearer token is required."
  else if !portalValidationKey (some key) 160 then
    portalHttpResponseError 400 "validation_error"
      "The favorite key contains unsupported characters."
  else
    let isPut := request.method = bytes "PUT"
    let result ← portalDatabaseQuery
      (if isPut then .favoriteInsert kind user.id key else .favoriteDelete kind user.id key)
    if portalDatabaseResultStatus result ≠ .command then
      portalHttpResponseError 500 "database_error"
        (if isPut then "Could not save the favorite." else "Could not remove the favorite.")
    else portalHttpResponseEmpty 204

end PortalApi
