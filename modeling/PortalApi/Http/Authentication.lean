import PortalApi.Database.Access
import PortalApi.Http.Request

/-! `authentication.c`: the Bearer token lookup shared by the routes. -/

set_option autoImplicit false

namespace PortalApi

open Library

def portalHttpUuidTextLength : Nat := 36

/-- The buffers `id[37]` and `email[256]`, as the texts they hold. -/
structure PortalAuthenticatedUser where
  id : Bytes
  email : Bytes

inductive PortalAuthStatus where
  | invalid
  | anonymous
  | authenticated
  deriving DecidableEq

def PortalAuthenticatedUser.blank : PortalAuthenticatedUser := { id := [], email := [] }

/-- Who sends the request. A token that opens no session is as invalid as one that could
not be looked up. -/
def portalHttpAuthenticate (request : Request) :
    Handler (PortalAuthStatus × PortalAuthenticatedUser) :=
  match request.authorization with
  | none => return (.anonymous, .blank)
  | some authorization =>
    if authorization = [] then return (.anonymous, .blank)
    else if authorization.take 7 ≠ bytes "Bearer " ||
        (authorization.drop 7).length ≠ portalHttpUuidTextLength then
      return (.invalid, .blank)
    else do
      let result ← portalDatabaseQuery (.authenticate (authorization.drop 7))
      if portalDatabaseResultStatus result ≠ .tuples || portalDatabaseResultRowCount result ≠ 1 then
        return (.invalid, .blank)
      else
        let id := snprintf 37 ((portalDatabaseResultValue result 0 0).getD [])
        let email := snprintf 256 ((portalDatabaseResultValue result 0 1).getD [])
        if id.1 < 0 || email.1 < 0 then return (.invalid, .blank)
        else return (.authenticated, { id := id.2, email := email.2 })

end PortalApi
