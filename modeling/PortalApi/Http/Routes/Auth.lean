import PortalApi.Config
import PortalApi.Http.Authentication
import PortalApi.Http.Response
import PortalApi.Validation

/-! `routes/auth.c`: registration, confirmation, login and logout. -/

set_option autoImplicit false

namespace PortalApi

open Library

structure PortalHttpContext where
  config : PortalConfig

def authDatabaseError (message : String) : Handler MhdResult :=
  portalHttpResponseError 500 "database_error" message

/-- A value of the first result row, as `json_object_new_string` copies it. -/
def resultString (result : Option PgResult) (row column : Nat) : Json :=
  .string ((portalDatabaseResultValue result row column).getD [])

def registerJson (context : PortalHttpContext) (result : Option PgResult) : Json :=
  .object ([(bytes "message", .string (bytes "Account created. Confirm it before signing in.")),
    (bytes "confirmation_expires_at", resultString result 0 1)] ++
    if context.config.exposeConfirmationToken then
      [(bytes "confirmation_token", resultString result 0 0)]
    else [])

def portalHttpRouteRegister (context : PortalHttpContext) (json : Option Json) :
    Handler MhdResult :=
  let email := portalHttpJsonString json (bytes "email") 5 254
  let password := portalHttpJsonString json (bytes "password") 12 256
  let displayName := portalHttpJsonString json (bytes "display_name") 1 100
  match email, password, displayName with
  | some email, some password, some displayName =>
    if !portalValidationEmail (some email) then
      portalHttpResponseError 400 "validation_error"
        "email, display_name and a password of at least 12 characters are required."
    else
      match portalValidationLowercaseCopy 255 (some email) with
      | none => portalHttpResponseError 400 "validation_error" "Invalid email."
      | some normalizedEmail =>
        let ttl := snprintf 12 (decimal context.config.confirmationTtlHours.toNat)
        if ttl.1 < 0 || ttl.1 ≥ 12 then
          portalHttpResponseError 500 "configuration_error" "Invalid token lifetime."
        else do
          let result ← portalDatabaseQuery (.register normalizedEmail password displayName ttl.2)
          if portalDatabaseResultStatus result ≠ .tuples then
            if portalDatabaseResultIsUniqueViolation result then
              portalHttpResponseError 409 "email_already_registered"
                "An account with this email already exists."
            else portalHttpResponseError 500 "database_error" "Could not create the account."
          else if ← allocate .responseObject then
            portalHttpResponseJson 201 (registerJson context result)
          else return .no
  | _, _, _ =>
    portalHttpResponseError 400 "validation_error"
      "email, display_name and a password of at least 12 characters are required."

def portalHttpRouteConfirm (json : Option Json) : Handler MhdResult :=
  match portalHttpJsonString json (bytes "token") portalHttpUuidTextLength
      portalHttpUuidTextLength with
  | none =>
    portalHttpResponseError 400 "validation_error" "A confirmation token is required."
  | some token => do
    let result ← portalDatabaseQuery (.confirm token)
    if portalDatabaseResultStatus result ≠ .tuples || portalDatabaseResultRowCount result ≠ 1 then
      portalHttpResponseError 400 "invalid_confirmation_token"
        "The confirmation token is invalid or expired."
    else
      portalHttpResponseBytes 200
        (.text (bytes "\x7b\"message\":\"Account confirmed. You can now sign in.\"\x7d")) jsonContentType

def loginJson (result : Option PgResult) : Json :=
  .object [(bytes "access_token", resultString result 0 0),
    (bytes "token_type", .string (bytes "Bearer")),
    (bytes "expires_at", resultString result 0 1)]

def portalHttpRouteLogin (context : PortalHttpContext) (json : Option Json) : Handler MhdResult :=
  let email := portalHttpJsonString json (bytes "email") 5 254
  let password := portalHttpJsonString json (bytes "password") 1 256
  match email, password with
  | some email, some password =>
    if !portalValidationEmail (some email) then
      portalHttpResponseError 400 "validation_error" "email and password are required."
    else
      match portalValidationLowercaseCopy 255 (some email) with
      | none => portalHttpResponseError 400 "validation_error" "Invalid email."
      | some normalizedEmail =>
        let ttl := snprintf 12 (decimal context.config.tokenTtlHours.toNat)
        if ttl.1 < 0 || ttl.1 ≥ 12 then
          portalHttpResponseError 500 "configuration_error" "Invalid token lifetime."
        else do
          let result ← portalDatabaseQuery (.login normalizedEmail password ttl.2)
          if portalDatabaseResultStatus result ≠ .tuples then
            authDatabaseError "Could not sign in."
          else if portalDatabaseResultRowCount result ≠ 1 then
            portalHttpResponseError 401 "invalid_credentials"
              "Invalid credentials or unconfirmed account."
          else if ← allocate .responseObject then
            portalHttpResponseJson 200 (loginJson result)
          else return .no
  | _, _ => portalHttpResponseError 400 "validation_error" "email and password are required."

def portalHttpRouteLogout (request : Request) : Handler MhdResult := do
  let (status, _) ← portalHttpAuthenticate request
  if status ≠ .authenticated then
    portalHttpResponseError 401 "unauthorized" "A valid Bearer token is required."
  else
    let result ← portalDatabaseQuery (.logout ((request.authorization.getD []).drop 7))
    if portalDatabaseResultStatus result ≠ .command then
      authDatabaseError "Could not close the session."
    else portalHttpResponseEmpty 204

end PortalApi
