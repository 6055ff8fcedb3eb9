import PortalApi.Http.Routes.Auth
import PortalApi.Memory.Database
import PortalApi.Memory.Request

/-! `authentication.c` and `routes/auth.c` with the memory they handle. -/

set_option autoImplicit false

namespace PortalApi.Memory

open Library Owning

def portalHttpAuthenticate (request : Request) :
    Managed (PortalAuthStatus × PortalAuthenticatedUser) :=
  match request.authorization with
  | none => return (.anonymous, .blank)
  | some authorization =>
    if authorization = [] then return (.anonymous, .blank)
    else if authorization.take 7 ≠ bytes "Bearer " ||
        (authorization.drop 7).length ≠ portalHttpUuidTextLength then
      return (.invalid, .blank)
    else do
      let result ← portalDatabaseQuery (.authenticate (authorization.drop 7))
      cleaningUp (portalDatabaseResultDestroy result) do
        if ← lacksRow result then
          return (.invalid, .blank)
        else
          let id := snprintf 37 (← resultText result 0 0)
          let email := snprintf 256 (← resultText result 0 1)
          if id.1 < 0 || email.1 < 0 then return (.invalid, .blank)
          else return (.authenticated, { id := id.2, email := email.2 })

def authDatabaseError (message : String) : Managed MhdResult :=
  portalHttpResponseError 500 "database_error" message

def registerJson (context : PortalHttpContext) (result : Option PortalDatabaseResult) :
    Managed Json := do
  let expiresAt ← resultText result 0 1
  if context.config.exposeConfirmationToken then
    let token ← resultText result 0 0
    return .object [(bytes "message", .string (bytes "Account created. Confirm it before signing in.")),
      (bytes "confirmation_expires_at", .string expiresAt),
      (bytes "confirmation_token", .string token)]
  else
    return .object [(bytes "message", .string (bytes "Account created. Confirm it before signing in.")),
      (bytes "confirmation_expires_at", .string expiresAt)]

def portalHttpRouteRegister (context : PortalHttpContext) (json : Option JsonPointer) :
    Managed MhdResult := do
  let email ← portalHttpJsonString json (bytes "email") 5 254
  let password ← portalHttpJsonString json (bytes "password") 12 256
  let displayName ← portalHttpJsonString json (bytes "display_name") 1 100
  match email, password, displayName with
  | some email, some password, some displayName =>
    if !portalValidationEmail (some (← read email)) then
      portalHttpResponseError 400 "validation_error"
        "email, display_name and a password of at least 12 characters are required."
    else
      match portalValidationLowercaseCopy 255 (some (← read email)) with
      | none => portalHttpResponseError 400 "validation_error" "Invalid email."
      | some normalizedEmail =>
        let ttl := snprintf 12 (decimal context.config.confirmationTtlHours.toNat)
        if ttl.1 < 0 || ttl.1 ≥ 12 then
          portalHttpResponseError 500 "configuration_error" "Invalid token lifetime."
        else
          let password ← read password
          let displayName ← read displayName
          let result ← portalDatabaseQuery (.register normalizedEmail password displayName ttl.2)
          cleaningUp (portalDatabaseResultDestroy result) do
            if (← portalDatabaseResultStatus result) ≠ .tuples then
              if ← portalDatabaseResultIsUniqueViolation result then
                portalHttpResponseError 409 "email_already_registered"
                  "An account with this email already exists."
              else portalHttpResponseError 500 "database_error" "Could not create the account."
            else if ← allocate .responseObject then
              let response ← acquire .jsonObject
              cleaningUp (release .jsonObject response) do
                access response
                let target ← registerJson context result
                portalHttpResponseJson 201 { block := response, target }
            else return .no
  | _, _, _ =>
    portalHttpResponseError 400 "validation_error"
      "email, display_name and a password of at least 12 characters are required."

def portalHttpRouteConfirm (json : Option JsonPointer) : Managed MhdResult := do
  match ← portalHttpJsonString json (bytes "token") portalHttpUuidTextLength
      portalHttpUuidTextLength with
  | none =>
    portalHttpResponseError 400 "validation_error" "A confirmation token is required."
  | some token =>
    let token ← read token
    let result ← portalDatabaseQuery (.confirm token)
    cleaningUp (portalDatabaseResultDestroy result) do
      if ← lacksRow result then
        portalHttpResponseError 400 "invalid_confirmation_token"
          "The confirmation token is invalid or expired."
      else
        portalHttpResponseBytes 200
          { owner := none
            target := .text (bytes "\x7b\"message\":\"Account confirmed. You can now sign in.\"\x7d") }
          jsonContentType

def loginJson (result : Option PortalDatabaseResult) : Managed Json := do
  let token ← resultText result 0 0
  let expiresAt ← resultText result 0 1
  return .object [(bytes "access_token", .string token),
    (bytes "token_type", .string (bytes "Bearer")), (bytes "expires_at", .string expiresAt)]

def portalHttpRouteLogin (context : PortalHttpContext) (json : Option JsonPointer) :
    Managed MhdResult := do
  let email ← portalHttpJsonString json (bytes "email") 5 254
  let password ← portalHttpJsonString json (bytes "password") 1 256
  match email, password with
  | some email, some password =>
    if !portalValidationEmail (some (← read email)) then
      portalHttpResponseError 400 "validation_error" "email and password are required."
    else
      match portalValidationLowercaseCopy 255 (some (← read email)) with
      | none => portalHttpResponseError 400 "validation_error" "Invalid email."
      | some normalizedEmail =>
        let ttl := snprintf 12 (decimal context.config.tokenTtlHours.toNat)
        if ttl.1 < 0 || ttl.1 ≥ 12 then
          portalHttpResponseError 500 "configuration_error" "Invalid token lifetime."
        else
          let password ← read password
          let result ← portalDatabaseQuery (.login normalizedEmail password ttl.2)
          cleaningUp (portalDatabaseResultDestroy result) do
            if (← portalDatabaseResultStatus result) ≠ .tuples then
              authDatabaseError "Could not sign in."
            else if (← portalDatabaseResultRowCount result) ≠ 1 then
              portalHttpResponseError 401 "invalid_credentials"
                "Invalid credentials or unconfirmed account."
            else if ← allocate .responseObject then
              let response ← acquire .jsonObject
              cleaningUp (release .jsonObject response) do
                access response
                let target ← loginJson result
                portalHttpResponseJson 200 { block := response, target }
            else return .no
  | _, _ => portalHttpResponseError 400 "validation_error" "email and password are required."

def portalHttpRouteLogout (request : Request) : Managed MhdResult := do
  let (status, _) ← portalHttpAuthenticate request
  if status ≠ .authenticated then
    portalHttpResponseError 401 "unauthorized" "A valid Bearer token is required."
  else
    let result ← portalDatabaseQuery (.logout ((request.authorization.getD []).drop 7))
    cleaningUp (portalDatabaseResultDestroy result) do
      if (← portalDatabaseResultStatus result) ≠ .command then
        authDatabaseError "Could not close the session."
      else portalHttpResponseEmpty 204

section Tracks

variable {live : Finset (Block Resource)}

theorem portalHttpAuthenticate_tracks (request : Request) :
    Tracks Shapes live (portalHttpAuthenticate request)
      (PortalApi.portalHttpAuthenticate request) (Restores live) := by
  unfold portalHttpAuthenticate PortalApi.portalHttpAuthenticate
  cases request.authorization with
  | none => exact .pure ⟨rfl, rfl⟩
  | some authorization =>
      refine .ite (fun _ => .pure ⟨rfl, rfl⟩) fun _ => .ite (fun _ => .pure ⟨rfl, rfl⟩) fun _ => ?_
      refine Queried.scoped fun result value after queried => ?_
      refine .reads queried.lacksRow (.ite (fun _ => .pure ⟨rfl, rfl⟩) fun found => ?_)
      have row : 0 < PortalApi.portalDatabaseResultRowCount value := by
        simp only [Bool.or_eq_true, decide_eq_true_eq, not_or, not_not] at found
        omega
      refine .reads (queried.rowText row Nat.two_pos) (.reads (queried.rowText row Nat.one_lt_two) ?_)
      exact .ite (fun _ => .pure ⟨rfl, rfl⟩) fun _ => .pure ⟨rfl, rfl⟩

theorem portalHttpRouteConfirm_tracks {json : Option JsonPointer} (held : JsonHeld live json) :
    Tracks Shapes live (portalHttpRouteConfirm json)
      (PortalApi.portalHttpRouteConfirm (json.map (·.target))) (Restores live) := by
  refine .reads (held.string _ _) ?_
  unfold PortalApi.portalHttpRouteConfirm
  cases PortalApi.portalHttpJsonString (json.map (·.target)) (bytes "token")
      portalHttpUuidTextLength portalHttpUuidTextLength with
  | none => exact portalHttpResponseError_tracks _ _ _
  | some token =>
      refine .reads (held.text token) (Queried.scoped fun result value after queried => ?_)
      refine .reads queried.lacksRow (.ite (fun _ => portalHttpResponseError_tracks _ _ _) fun _ => ?_)
      exact portalHttpResponseBytes_tracks _ _ (by simp)

/-- The response object lives while it is filled and sent. -/
theorem describing_tracks {filled : Managed Json} {content : Json} (status : Nat)
    (reads : ∀ block, Reads (insert block live) filled content) :
    Tracks Shapes live
      (do
        if ← allocate .responseObject then
          let response ← acquire .jsonObject
          cleaningUp (release .jsonObject response) do
            access response
            let target ← filled
            portalHttpResponseJson status { block := response, target }
        else return .no)
      (do
        if ← allocate .responseObject then
          PortalApi.portalHttpResponseJson status content
        else return .no) (Restores live) := by
  refine .perform fun created _ => .ite (fun _ => ?_) fun _ => .pure ⟨rfl, rfl⟩
  refine .scoped fun response _ => ?_
  have present : response ∈ insert response live := Finset.mem_insert_self _ _
  exact .reads (.access present) (.reads (reads response)
    (portalHttpResponseJson_tracks status present))

theorem portalHttpRouteLogout_tracks (request : Request) :
    Tracks Shapes live (portalHttpRouteLogout request) (PortalApi.portalHttpRouteLogout request)
      (Restores live) := by
  refine (portalHttpAuthenticate_tracks request).bind fun value result after restored => ?_
  obtain ⟨rfl, rfl⟩ := restored
  refine .ite (fun _ => portalHttpResponseError_tracks _ _ _) fun _ => ?_
  refine Queried.scoped fun result value after queried => .reads queried.status ?_
  exact .ite (fun _ => portalHttpResponseError_tracks _ _ _)
    fun _ => portalHttpResponseEmpty_tracks _

theorem Queried.registerJson {statement : Statement} {result : Option PortalDatabaseResult}
    {value : Option PgResult} {after : Finset (Block Resource)}
    (queried : Queried statement live result value after)
    (row : 0 < PortalApi.portalDatabaseResultRowCount value) (wide : 1 < statement.columns)
    (context : PortalHttpContext) :
    Reads after (registerJson context result) (PortalApi.registerJson context value) := by
  refine .bind (queried.rowText row wide) ?_
  unfold PortalApi.registerJson
  cases context.config.exposeConfirmationToken with
  | false => exact .pure _
  | true => exact .bind (queried.rowText row (Nat.lt_of_succ_lt wide)) (.pure _)

theorem Queried.loginJson {statement : Statement} {result : Option PortalDatabaseResult}
    {value : Option PgResult} {after : Finset (Block Resource)}
    (queried : Queried statement live result value after)
    (row : 0 < PortalApi.portalDatabaseResultRowCount value) (wide : 1 < statement.columns) :
    Reads after (loginJson result) (PortalApi.loginJson value) :=
  .bind (queried.rowText row (Nat.lt_of_succ_lt wide)) (.bind (queried.rowText row wide) (.pure _))

theorem portalHttpRouteRegister_tracks (context : PortalHttpContext) {json : Option JsonPointer}
    (held : JsonHeld live json) :
    Tracks Shapes live (portalHttpRouteRegister context json)
      (PortalApi.portalHttpRouteRegister context (json.map (·.target))) (Restores live) := by
  refine .reads (held.string _ _) (.reads (held.string _ _) (.reads (held.string _ _) ?_))
  unfold PortalApi.portalHttpRouteRegister
  generalize PortalApi.portalHttpJsonString (json.map (·.target)) (bytes "email") 5 254 = email
  generalize PortalApi.portalHttpJsonString (json.map (·.target)) (bytes "password") 12 256 = password
  generalize PortalApi.portalHttpJsonString (json.map (·.target)) (bytes "display_name") 1 100 =
    displayName
  rcases email with _ | email
  · exact portalHttpResponseError_tracks _ _ _
  rcases password with _ | password
  · exact portalHttpResponseError_tracks _ _ _
  rcases displayName with _ | displayName
  · exact portalHttpResponseError_tracks _ _ _
  refine .reads (held.text email) (.ite (fun _ => portalHttpResponseError_tracks _ _ _) fun _ => ?_)
  refine .reads (held.text email) ?_
  dsimp only
  rcases portalValidationLowercaseCopy 255 (some email) with _ | normalizedEmail
  · exact portalHttpResponseError_tracks _ _ _
  refine .ite (fun _ => portalHttpResponseError_tracks _ _ _) fun _ => ?_
  refine .reads (held.text password) (.reads (held.text displayName) ?_)
  refine Queried.scoped fun result value after queried => .reads queried.status ?_
  refine .ite (fun _ => ?_) fun tuples => ?_
  · exact .reads queried.isUniqueViolation (.ite (fun _ => portalHttpResponseError_tracks _ _ _)
      fun _ => portalHttpResponseError_tracks _ _ _)
  · have row := queried.rowCount_one trivial (not_not.mp tuples)
    have reads := queried.registerJson (row ▸ Nat.one_pos) Nat.one_lt_two context
    exact describing_tracks 201 fun block => reads.mono (Finset.subset_insert _ _)

theorem portalHttpRouteLogin_tracks (context : PortalHttpContext) {json : Option JsonPointer}
    (held : JsonHeld live json) :
    Tracks Shapes live (portalHttpRouteLogin context json)
      (PortalApi.portalHttpRouteLogin context (json.map (·.target))) (Restores live) := by
  refine .reads (held.string _ _) (.reads (held.string _ _) ?_)
  unfold PortalApi.portalHttpRouteLogin
  generalize PortalApi.portalHttpJsonString (json.map (·.target)) (bytes "email") 5 254 = email
  generalize PortalApi.portalHttpJsonString (json.map (·.target)) (bytes "password") 1 256 = password
  rcases email with _ | email
  · exact portalHttpResponseError_tracks _ _ _
  rcases password with _ | password
  · exact portalHttpResponseError_tracks _ _ _
  refine .reads (held.text email) (.ite (fun _ => portalHttpResponseError_tracks _ _ _) fun _ => ?_)
  refine .reads (held.text email) ?_
  dsimp only
  rcases portalValidationLowercaseCopy 255 (some email) with _ | normalizedEmail
  · exact portalHttpResponseError_tracks _ _ _
  refine .ite (fun _ => portalHttpResponseError_tracks _ _ _) fun _ => ?_
  refine .reads (held.text password) ?_
  refine Queried.scoped fun result value after queried => .reads queried.status ?_
  refine .ite (fun _ => portalHttpResponseError_tracks _ _ _) fun _ => .reads queried.rowCount ?_
  refine .ite (fun _ => portalHttpResponseError_tracks _ _ _) fun one => ?_
  have row : 0 < PortalApi.portalDatabaseResultRowCount value := by omega
  have reads := queried.loginJson row Nat.one_lt_two
  exact describing_tracks 200 fun block => reads.mono (Finset.subset_insert _ _)

end Tracks

end PortalApi.Memory
