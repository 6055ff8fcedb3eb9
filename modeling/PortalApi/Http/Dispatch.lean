import PortalApi.Http.Routes.Activity
import PortalApi.Http.Routes.Analytics
import PortalApi.Http.Routes.Auth
import PortalApi.Http.Routes.Favorites

/-! The routing of `http.c`. -/

set_option autoImplicit false

namespace PortalApi

open Library

def contentIdSize : Nat := 301

def httpDispatchContent (request : Request) (json : Option Json) : Handler MhdResult :=
  let path := request.url.drop 9
  let isLike := (request.method = bytes "PUT" || request.method = bytes "DELETE") &&
    path.length > 5 && path.drop (path.length - 5) = bytes "/like"
  let isComment := request.method = bytes "POST" && path.length > 9 &&
    path.drop (path.length - 9) = bytes "/comments"
  if isLike then
    if path.length - 5 ≥ contentIdSize then
      portalHttpResponseError 400 "validation_error" "Invalid content id."
    else portalHttpRouteLike request (path.take (path.length - 5)) json
  else if isComment then
    if path.length - 9 ≥ contentIdSize then
      portalHttpResponseError 400 "validation_error" "Invalid content id."
    else portalHttpRouteComment request (path.take (path.length - 9)) json
  else portalHttpResponseError 404 "not_found" "Route not found."

/-- Whether the request was handled, and the result if it was. -/
def httpDispatchWithoutBody (request : Request) : Handler (Bool × MhdResult) :=
  let handled (result : Handler MhdResult) : Handler (Bool × MhdResult) := do
    return (true, ← result)
  if request.method = bytes "OPTIONS" then handled portalHttpResponseOptions
  else if request.method = bytes "GET" && request.url = bytes "/health" then handled do
    if !(← portalDatabaseIsConnected) then
      portalHttpResponseError 503 "database_unavailable" "Database is unavailable."
    else portalHttpResponseBytes 200 (.text (bytes "\x7b\"status\":\"ok\"\x7d")) jsonContentType
  else if request.method = bytes "GET" && request.url = bytes "/analytics/top-content" then
    handled (portalHttpRouteTopContent request)
  else if request.method = bytes "GET" && request.url = bytes "/me/favorite-sections" then
    handled (portalHttpRouteFavoriteList request .favoriteSection)
  else if request.method = bytes "GET" && request.url = bytes "/me/favorite-tags" then
    handled (portalHttpRouteFavoriteList request .favoriteTag)
  else if request.method = bytes "DELETE" && request.url = bytes "/auth/session" then
    handled (portalHttpRouteLogout request)
  else if request.url.take 22 = bytes "/me/favorite-sections/" &&
      (request.method = bytes "PUT" || request.method = bytes "DELETE") then
    handled (portalHttpRouteFavoriteChange request .favoriteSection (request.url.drop 22))
  else if request.url.take 18 = bytes "/me/favorite-tags/" &&
      (request.method = bytes "PUT" || request.method = bytes "DELETE") then
    handled (portalHttpRouteFavoriteChange request .favoriteTag (request.url.drop 18))
  else return (false, .yes)

def httpDispatchJsonRoute (context : PortalHttpContext) (jsonC : JsonC) (request : Request)
    (json : Option Json) : Handler MhdResult :=
  if request.method = bytes "POST" && request.url = bytes "/auth/register" then
    portalHttpRouteRegister context json
  else if request.method = bytes "POST" && request.url = bytes "/auth/confirm" then
    portalHttpRouteConfirm json
  else if request.method = bytes "POST" && request.url = bytes "/auth/login" then
    portalHttpRouteLogin context json
  else if request.method = bytes "POST" && request.url = bytes "/activity" then
    portalHttpRouteActivity jsonC request json
  else if request.url.take 9 = bytes "/content/" then
    httpDispatchContent request json
  else portalHttpResponseError 404 "not_found" "Route not found."

def bodyExpected (request : Request) : Bool :=
  request.method = bytes "POST" || request.method = bytes "PUT" ||
    (request.method = bytes "DELETE" && request.body.length > 0)

def httpDispatch (context : PortalHttpContext) (jsonC : JsonC) (request : Request) :
    Handler MhdResult := do
  let (handled, result) ← httpDispatchWithoutBody request
  if handled then return result
  else if bodyExpected request then
    match ← portalHttpRequestParseJson jsonC request.body with
    | none =>
      portalHttpResponseError 400 "invalid_json" "A JSON object request body is required."
    | some json => httpDispatchJsonRoute context jsonC request (some json)
  else httpDispatchJsonRoute context jsonC request none

end PortalApi
