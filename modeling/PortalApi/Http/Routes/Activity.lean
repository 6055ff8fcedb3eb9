import PortalApi.Http.Authentication
import PortalApi.Http.Response
import PortalApi.Validation

/-! `routes/activity.c`: activity events, likes and comments by an actor that is
either a session's user or an anonymous identifier. -/

set_option autoImplicit false

namespace PortalApi

open Library

structure PortalActivityActor where
  user : PortalAuthenticatedUser
  anonymousId : Option Bytes
  actorKey : Bytes

def activityLoadActor (request : Request) (json : Option Json) :
    Handler (PortalAuthStatus × PortalActivityActor) := do
  let (status, user) ← portalHttpAuthenticate request
  let anonymousId := portalHttpJsonOptionalString json (bytes "anonymous_id") 200
  let loaded (written : Int × Bytes) : PortalAuthStatus × PortalActivityActor :=
    if written.1 < 0 || written.1 ≥ 205 then (.invalid, { user, anonymousId, actorKey := written.2 })
    else (status, { user, anonymousId, actorKey := written.2 })
  match status with
  | .invalid => return (.invalid, { user, anonymousId, actorKey := [] })
  | .authenticated => return loaded (snprintf 205 (bytes "u:" ++ user.id))
  | .anonymous =>
    if !portalValidationAnonymousId anonymousId then
      return (.invalid, { user, anonymousId, actorKey := [] })
    else return loaded (snprintf 205 (bytes "a:" ++ anonymousId.getD []))

def activityActorError (request : Request) (authentication : PortalAuthStatus) :
    Handler MhdResult :=
  if authentication = .invalid && request.authorization.getD [] ≠ [] then
    portalHttpResponseError 401 "invalid_token" "The supplied Bearer token is invalid."
  else
    portalHttpResponseError 400 "anonymous_id_required"
      "Anonymous actions need an opaque anonymous_id."

/-- The `user_id` and `anonymous_id` parameters of the actor. -/
def actorUserId (authentication : PortalAuthStatus) (actor : PortalActivityActor) : Bytes :=
  if authentication = .authenticated then actor.user.id else []

def actorAnonymousId (authentication : PortalAuthStatus) (actor : PortalActivityActor) : Bytes :=
  if authentication = .authenticated then [] else actor.anonymousId.getD []

/-- The text sent as `event_data`, or `none` when the member is no object. -/
def activityEventData (jsonC : JsonC) (json : Option Json) : Option Bytes :=
  match jsonMember json (bytes "event_data") with
  | none => some (bytes "\x7b\x7d")
  | some eventData => if eventData.isObject then some (jsonC.toJsonString eventData) else none

def activityJson (result : Option PgResult) : Json :=
  .object [(bytes "event_id",
    .int (strtol ((portalDatabaseResultValue result 0 0).getD [])).value)]

def portalHttpRouteActivity (jsonC : JsonC) (request : Request) (json : Option Json) :
    Handler MhdResult :=
  let portal := portalHttpJsonString json (bytes "portal_key") 1 120
  let eventType := portalHttpJsonString json (bytes "event_type") 1 40
  let contentId := portalHttpJsonOptionalString json (bytes "content_id") 300
  let componentId := portalHttpJsonOptionalString json (bytes "component_id") 300
  let pageUrl := portalHttpJsonOptionalString json (bytes "page_url") 2000
  if portal.isNone || eventType.isNone || !portalValidationKey portal 120 ||
      !portalValidationEventType eventType then
    portalHttpResponseError 400 "validation_error"
      "portal_key and a supported event_type are required."
  else do
    let (authentication, actor) ← activityLoadActor request json
    if authentication = .invalid then
      activityActorError request authentication
    else
      match activityEventData jsonC json with
      | none =>
        portalHttpResponseError 400 "validation_error" "event_data must be a JSON object."
      | some dataText => do
        let result ← portalDatabaseQuery
          (.activityInsert (actorUserId authentication actor) (actorAnonymousId authentication actor)
            (portal.getD []) (eventType.getD []) (contentId.getD []) (componentId.getD [])
            (pageUrl.getD []) dataText)
        if portalDatabaseResultStatus result ≠ .tuples then
          portalHttpResponseError 500 "database_error" "Could not record activity."
        else if ← allocate .responseObject then
          portalHttpResponseJson 201 (activityJson result)
        else return .no

def portalHttpRouteLike (request : Request) (contentId : Bytes) (json : Option Json) :
    Handler MhdResult :=
  let portal := portalHttpJsonString json (bytes "portal_key") 1 120
  let isPut := request.method = bytes "PUT"
  if !portalValidationKey (some contentId) 300 then
    portalHttpResponseError 400 "validation_error"
      "The content id contains unsupported characters."
  else do
    let (authentication, actor) ← activityLoadActor request json
    if authentication = .invalid then
      activityActorError request authentication
    else if isPut && (portal.isNone || !portalValidationKey portal 120) then
      portalHttpResponseError 400 "validation_error" "portal_key is required for a like."
    else
      let result ← portalDatabaseQuery
        (if isPut then
          .likeInsert contentId (actorUserId authentication actor)
            (actorAnonymousId authentication actor) actor.actorKey (portal.getD [])
        else .likeDelete contentId actor.actorKey)
      if (isPut && portalDatabaseResultStatus result ≠ .tuples) ||
          (!isPut && portalDatabaseResultStatus result ≠ .command) then
        portalHttpResponseError 500 "database_error"
          (if isPut then "Could not store the like." else "Could not remove the like.")
      else portalHttpResponseEmpty 204

def commentJson (result : Option PgResult) : Json :=
  .object [(bytes "id", .string ((portalDatabaseResultValue result 0 0).getD [])),
    (bytes "created_at", .string ((portalDatabaseResultValue result 0 1).getD []))]

def portalHttpRouteComment (request : Request) (contentId : Bytes) (json : Option Json) :
    Handler MhdResult :=
  let body := portalHttpJsonString json (bytes "body") 1 5000
  let authorName := portalHttpJsonOptionalString json (bytes "author_name") 100
  let portal := portalHttpJsonString json (bytes "portal_key") 1 120
  if !portalValidationKey (some contentId) 300 || portal.isNone ||
      !portalValidationKey portal 120 || body.isNone then
    portalHttpResponseError 400 "validation_error"
      "content id, portal_key and comment body are required."
  else do
    let (authentication, actor) ← activityLoadActor request json
    if authentication = .invalid then
      activityActorError request authentication
    else
      let result ← portalDatabaseQuery
        (.commentInsert contentId (actorUserId authentication actor)
          (actorAnonymousId authentication actor) (authorName.getD []) (body.getD [])
          (portal.getD []))
      if portalDatabaseResultStatus result ≠ .tuples || portalDatabaseResultRowCount result ≠ 1 then
        portalHttpResponseError 500 "database_error" "Could not store the comment."
      else if ← allocate .responseObject then
        portalHttpResponseJson 201 (commentJson result)
      else return .no

end PortalApi
