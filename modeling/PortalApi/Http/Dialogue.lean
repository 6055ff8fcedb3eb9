import PortalApi.Http.DispatchProperties
import PortalApi.Library.Protocol

/-! The dialogue of one request with PostgreSQL and its client: which statements it
may ask for, and which response it may queue. Nothing is assumed of the answers. -/

set_option autoImplicit false

namespace PortalApi

open Library

/-- What a request has come to. -/
structure Progress where
  inquired : Bool
  session : Option Bytes
  link : Option ConnStatusType
  asked : Option (Statement × Option PgResult)
  starved : Bool
  attempt : Option MhdResult

def Progress.start : Progress where
  inquired := false
  session := none
  link := none
  asked := none
  starved := false
  attempt := none

/-- The user id that the lookup of a token found. -/
def sessionUser (result : Option PgResult) : Option Bytes :=
  if portalDatabaseResultStatus result = .tuples ∧ portalDatabaseResultRowCount result = 1 then
    some (((portalDatabaseResultValue result 0 0).getD []).take portalHttpUuidTextLength)
  else none

def Progress.next (progress : Progress) : (operation : Operation) → operation.Answer → Progress
  | .allocate _, granted => if granted then progress else { progress with starved := true }
  | .realloc _ _, _ => progress
  | .pqStatus, link => { progress with link := some link }
  | .pqExecParams (.authenticate _), result =>
    { progress with inquired := true, session := sessionUser result }
  | .pqExecParams statement, result => { progress with asked := some (statement, result) }
  | .mhdQueueResponse _, queued => { progress with attempt := some queued }

/-- What PostgreSQL answers when a statement did what it is for. -/
def Statement.Served (result : Option PgResult) : Statement → Prop
  | .logout _ | .favoriteInsert _ _ _ | .favoriteDelete _ _ _ | .likeDelete _ _ =>
    portalDatabaseResultStatus result = .command
  | .authenticate _ | .confirm _ | .login _ _ _ | .commentInsert _ _ _ _ _ _ =>
    portalDatabaseResultStatus result = .tuples ∧ portalDatabaseResultRowCount result = 1
  | .register _ _ _ _ | .favoriteList _ _ | .activityInsert _ _ _ _ _ _ _ _
  | .likeInsert _ _ _ _ _ | .topContent _ _ _ => portalDatabaseResultStatus result = .tuples

def databaseError (message : String) : Response := errorResponse 500 "database_error" message

/-- The response after a statement that was not served. -/
def Statement.failure (result : Option PgResult) : Statement → Response
  | .authenticate _ => unauthorizedResponse
  | .register _ _ _ _ => registerFailure result
  | .confirm _ => errorResponse 400 "invalid_confirmation_token"
    "The confirmation token is invalid or expired."
  | .login _ _ _ =>
    if portalDatabaseResultStatus result = .tuples then
      errorResponse 401 "invalid_credentials" "Invalid credentials or unconfirmed account."
    else databaseError "Could not sign in."
  | .logout _ => databaseError "Could not close the session."
  | .favoriteList _ _ => databaseError "Could not load favorites."
  | .favoriteInsert _ _ _ => favoriteFailure true
  | .favoriteDelete _ _ _ => favoriteFailure false
  | .activityInsert _ _ _ _ _ _ _ _ => databaseError "Could not record activity."
  | .likeInsert _ _ _ _ _ => likeFailure true
  | .likeDelete _ _ => likeFailure false
  | .commentInsert _ _ _ _ _ _ => databaseError "Could not store the comment."
  | .topContent _ _ _ => databaseError "Could not load analytics."

section Rules

variable (context : PortalHttpContext) (jsonC : JsonC) (request : Request) (endpoint : Endpoint)
  (json : Option Json)

/-- The response after a statement that was served. -/
def Statement.success (result : Option PgResult) : Statement → Response
  | .register _ _ _ _ => jsonResponse 201 (registerJson context result)
  | .login _ _ _ => jsonResponse 200 (loginJson result)
  | .favoriteList _ _ => jsonResponse 200 (favoriteItems result)
  | .activityInsert _ _ _ _ _ _ _ _ => jsonResponse 201 (activityJson result)
  | .commentInsert _ _ _ _ _ _ => jsonResponse 201 (commentJson result)
  | .topContent portalKey _ _ =>
    jsonResponse 200 (topContentJson portalKey (((topContentRange request).map (·.days)).getD 0)
      ((List.range (portalDatabaseResultRowCount result)).map (topContentItem result)))
  | .authenticate _ | .confirm _ => confirmedResponse
  | .logout _ | .favoriteInsert _ _ _ | .favoriteDelete _ _ _ | .likeInsert _ _ _ _ _
  | .likeDelete _ _ => textResponse 204 []

/-- The endpoints that only serve a session. -/
inductive Endpoint.Secured : Endpoint → Prop where
  | topContent : Secured .topContent
  | favoriteList {kind : PortalFavoriteKind} : Secured (.favoriteList kind)
  | logout : Secured .logout
  | favoriteChange {kind : PortalFavoriteKind} {key : Bytes} : Secured (.favoriteChange kind key)

/-- The endpoints that serve a session or an anonymous identifier. -/
inductive Endpoint.Shared : Endpoint → Prop where
  | activity : Shared .activity
  | like {contentId : Bytes} : Shared (.like contentId)
  | comment {contentId : Bytes} : Shared (.comment contentId)

/-- Who acts, as the statements are told: the user id, the anonymous id and the key. -/
inductive Identified : Option Bytes → Bytes → Bytes → Bytes → Prop where
  | user {id : Bytes} : Identified (some id) id [] (bytes "u:" ++ id)
  | anonymous {id : Bytes} : request.authorization.getD [] = [] → anonymousIdText json = some id →
      portalValidationAnonymousId (some id) = true → Identified none [] id (bytes "a:" ++ id)

/-- The one statement a request may ask for besides the lookup of its token, from
the session that was found. -/
inductive Mandated (session : Option Bytes) : Endpoint → Statement → Prop where
  | register {fields : RegisterFields} : registerFields json = some fields →
      Mandated session .register (fields.statement context.config)
  | confirm {token : Bytes} : confirmText json = some token →
      Mandated session .confirm (.confirm token)
  | login {fields : LoginFields} : loginFields json = some fields →
      Mandated session .login (fields.statement context.config)
  | logout {id token : Bytes} : session = some id → bearerToken request = some token →
      Mandated session .logout (.logout token)
  | favoriteList {kind : PortalFavoriteKind} {id : Bytes} : session = some id →
      Mandated session (.favoriteList kind) (.favoriteList kind id)
  | favoriteInsert {kind : PortalFavoriteKind} {id key : Bytes} : session = some id →
      portalValidationKey (some key) 160 = true → request.isPut = true →
      Mandated session (.favoriteChange kind key) (.favoriteInsert kind id key)
  | favoriteDelete {kind : PortalFavoriteKind} {id key : Bytes} : session = some id →
      portalValidationKey (some key) 160 = true → request.isPut = false →
      Mandated session (.favoriteChange kind key) (.favoriteDelete kind id key)
  | topContent {id portalKey : Bytes} {range : TopContentRange} : session = some id →
      request.lookup .getArgument "portal_key" = some portalKey →
      portalValidationKey (some portalKey) 120 = true → topContentRange request = some range →
      Mandated session .topContent (range.statement portalKey)
  | activity {fields : ActivityFields} {userId anonymousId actorKey data : Bytes} :
      activityFields json = some fields →
      Identified request json session userId anonymousId actorKey →
      activityEventData jsonC json = some data →
      Mandated session .activity (.activityInsert userId anonymousId fields.portalKey
        fields.eventType fields.contentId fields.componentId fields.pageUrl data)
  | likeInsert {contentId portalKey userId anonymousId actorKey : Bytes} :
      portalValidationKey (some contentId) 300 = true →
      Identified request json session userId anonymousId actorKey →
      portalKeyField json = some portalKey → request.isPut = true →
      Mandated session (.like contentId)
        (.likeInsert contentId userId anonymousId actorKey portalKey)
  | likeDelete {contentId userId anonymousId actorKey : Bytes} :
      portalValidationKey (some contentId) 300 = true →
      Identified request json session userId anonymousId actorKey → request.isPut = false →
      Mandated session (.like contentId) (.likeDelete contentId actorKey)
  | comment {contentId userId anonymousId actorKey : Bytes} {fields : CommentFields} :
      commentFields contentId json = some fields →
      Identified request json session userId anonymousId actorKey →
      Mandated session (.comment contentId)
        (.commentInsert contentId userId anonymousId fields.authorName fields.body fields.portalKey)

/-- Why nobody acts. -/
inductive Unidentified : Response → Prop where
  | token : request.authorization.getD [] ≠ [] → Unidentified invalidTokenResponse
  | anonymousId : request.authorization.getD [] = [] →
      portalValidationAnonymousId (anonymousIdText json) = false →
      Unidentified anonymousIdRequiredResponse

def validationError (message : String) : Response := errorResponse 400 "validation_error" message

/-- The requests turned down before their statement, from the session that was found. -/
inductive Declined (session : Option Bytes) : Endpoint → Response → Prop where
  | unauthorized {endpoint : Endpoint} : endpoint.Secured → session = none →
      Declined session endpoint unauthorizedResponse
  | unidentified {endpoint : Endpoint} {response : Response} : endpoint.Shared →
      session = none → Unidentified request json response → Declined session endpoint response
  | register : registerFields json = none → Declined session .register
      (validationError
        "email, display_name and a password of at least 12 characters are required.")
  | confirm : confirmText json = none → Declined session .confirm
      (validationError "A confirmation token is required.")
  | login : loginFields json = none → Declined session .login
      (validationError "email and password are required.")
  | favoriteKey {kind : PortalFavoriteKind} {id key : Bytes} : session = some id →
      portalValidationKey (some key) 160 = false → Declined session (.favoriteChange kind key)
        (validationError "The favorite key contains unsupported characters.")
  | portalKey {id : Bytes} : session = some id →
      portalValidationKey (request.lookup .getArgument "portal_key") 120 = false →
      Declined session .topContent (validationError "portal_key is required.")
  | range {id : Bytes} : session = some id → topContentRange request = none →
      Declined session .topContent
        (validationError "days must be 1..365 and limit must be 1..100.")
  | activity : activityFields json = none → Declined session .activity
      (validationError "portal_key and a supported event_type are required.")
  | eventData : activityEventData jsonC json = none → Declined session .activity
      (validationError "event_data must be a JSON object.")
  | contentId {contentId : Bytes} : portalValidationKey (some contentId) 300 = false →
      Declined session (.like contentId)
        (validationError "The content id contains unsupported characters.")
  | like {contentId : Bytes} : request.isPut = true → portalKeyField json = none →
      Declined session (.like contentId) (validationError "portal_key is required for a like.")
  | comment {contentId : Bytes} : commentFields contentId json = none →
      Declined session (.comment contentId)
        (validationError "content id, portal_key and comment body are required.")
  | longContentId : Declined session .longContentId (validationError "Invalid content id.")
  | invalidJson : Declined session .invalidJson
      (errorResponse 400 "invalid_json" "A JSON object request body is required.")
  | notFound : Declined session .notFound (errorResponse 404 "not_found" "Route not found.")

/-- The response that may be queued, from what the request has come to. -/
inductive Told (progress : Progress) : Endpoint → Response → Prop where
  | preflight : Told progress .options
      { status := 204, headers := optionsHeaders, payload := .text [] }
  | healthy : progress.link = some .connectionOk → Told progress .health
      (textResponse 200 (bytes "\x7b\"status\":\"ok\"\x7d"))
  | unavailable : progress.link = some .connectionBad → Told progress .health
      (errorResponse 503 "database_unavailable" "Database is unavailable.")
  | declined {endpoint : Endpoint} {response : Response} : progress.asked = none →
      Declined jsonC request json progress.session endpoint response →
      Told progress endpoint response
  | served {endpoint : Endpoint} {statement : Statement} {result : Option PgResult} :
      progress.asked = some (statement, result) → statement.Served result →
      Told progress endpoint (statement.success context request result)
  | failed {endpoint : Endpoint} {statement : Statement} {result : Option PgResult} :
      progress.asked = some (statement, result) → ¬ statement.Served result →
      Told progress endpoint (statement.failure result)
  | unsent {endpoint : Endpoint} {statement : Statement} : progress.asked = none →
      progress.starved = true →
      Mandated context jsonC request json progress.session endpoint statement →
      Told progress endpoint (statement.failure none)

/-- What a request may do next. After its response was queued it does nothing more. -/
inductive Allowed (progress : Progress) : Operation → Prop where
  | allocate {purpose : Allocation} : progress.attempt = none →
      Allowed progress (.allocate purpose)
  | status : progress.attempt = none → endpoint = .health → Allowed progress .pqStatus
  | inquire {token : Bytes} : progress.attempt = none → progress.asked = none →
      progress.inquired = false → endpoint.Secured ∨ endpoint.Shared →
      bearerToken request = some token →
      Allowed progress (.pqExecParams (.authenticate token))
  | ask {statement : Statement} : progress.attempt = none → progress.asked = none →
      Mandated context jsonC request json progress.session endpoint statement →
      Allowed progress (.pqExecParams statement)
  | tell {response : Response} : progress.attempt = none →
      Told context jsonC request json progress endpoint response →
      Allowed progress (.mhdQueueResponse response)

def dialogue : Protocol Operation.Answer Progress where
  allows := Allowed context jsonC request endpoint json
  next := Progress.next

end Rules

/-- A handler returns what became of its response. Only a refused allocation keeps it
from trying to queue one. -/
def Concluded (value : MhdResult) (progress : Progress) : Prop :=
  progress.attempt = some value ∨
    progress.attempt = none ∧ progress.starved = true ∧ value = .no

section Rules

variable {context : PortalHttpContext} {jsonC : JsonC} {request : Request} {endpoint : Endpoint}
  {json : Option Json} {α β : Type} {post : α → Progress → Prop} {progress : Progress}

/-- Nothing was asked for and nothing was queued. -/
structure Progress.Fresh (progress : Progress) : Prop where
  inquired : progress.inquired = false
  session : progress.session = none
  asked : progress.asked = none
  attempt : progress.attempt = none

/-- The session is settled and the statement is still to come. -/
structure Progress.Open (progress : Progress) (session : Option Bytes) : Prop where
  session : progress.session = session
  asked : progress.asked = none
  attempt : progress.attempt = none

theorem Progress.Fresh.opened (fresh : progress.Fresh) : progress.Open none where
  session := fresh.session
  asked := fresh.asked
  attempt := fresh.attempt

theorem allocate_keeps {purpose : Allocation} {next : Bool → Handler α}
    (calm : progress.attempt = none)
    (granted : (dialogue context jsonC request endpoint json).Keeps post (next true) progress)
    (refused : (dialogue context jsonC request endpoint json).Keeps post (next false)
      { progress with starved := true }) :
    (dialogue context jsonC request endpoint json).Keeps post (allocate purpose >>= next)
      progress := by
  refine .perform (.allocate calm) fun answer => ?_
  cases answer with
  | false => exact refused
  | true => exact granted

/-- A handler that gives up for want of memory. -/
theorem abandon_keeps (calm : progress.attempt = none) :
    (dialogue context jsonC request endpoint json).Keeps Concluded (pure .no)
      { progress with starved := true } :=
  .pure (.inr ⟨calm, rfl, rfl⟩)

theorem mhdQueueResponse_keeps {response : Response} (calm : progress.attempt = none)
    (told : Told context jsonC request json progress endpoint response) :
    (dialogue context jsonC request endpoint json).Keeps Concluded (mhdQueueResponse response)
      progress :=
  ⟨.tell calm told, fun _ => .inl rfl⟩

theorem portalHttpResponseBytes_keeps {status : Nat} {payload : Payload} {contentType : String}
    (calm : progress.attempt = none)
    (told : Told context jsonC request json progress endpoint
      { status, headers := responseHeaders contentType, payload }) :
    (dialogue context jsonC request endpoint json).Keeps Concluded
      (portalHttpResponseBytes status payload contentType) progress :=
  allocate_keeps calm
    (allocate_keeps calm (mhdQueueResponse_keeps calm told) (abandon_keeps calm))
    (abandon_keeps calm)

theorem portalHttpResponseJson_keeps {status : Nat} {value : Json}
    (calm : progress.attempt = none)
    (told : Told context jsonC request json progress endpoint (jsonResponse status value)) :
    (dialogue context jsonC request endpoint json).Keeps Concluded
      (portalHttpResponseJson status value) progress :=
  portalHttpResponseBytes_keeps calm told

theorem portalHttpResponseError_keeps {status : Nat} {code message : String}
    (calm : progress.attempt = none)
    (told : Told context jsonC request json progress endpoint (errorResponse status code message)) :
    (dialogue context jsonC request endpoint json).Keeps Concluded
      (portalHttpResponseError status code message) progress :=
  allocate_keeps calm (portalHttpResponseJson_keeps calm told) (abandon_keeps calm)

theorem describing_keeps {status : Nat} {value : Json} (calm : progress.attempt = none)
    (told : Told context jsonC request json progress endpoint (jsonResponse status value)) :
    (dialogue context jsonC request endpoint json).Keeps Concluded
      (do if ← allocate .responseObject then portalHttpResponseJson status value
          else return .no) progress :=
  allocate_keeps calm (portalHttpResponseJson_keeps calm told) (abandon_keeps calm)

/-- PostgreSQL answered the statement, or there was no memory to ask it. -/
structure Progress.Heard (progress : Progress) (session : Option Bytes) (statement : Statement)
    (result : Option PgResult) : Prop where
  session : progress.session = session
  attempt : progress.attempt = none
  asked : progress.asked = some (statement, result) ∨
    progress.asked = none ∧ progress.starved = true ∧ result = none

theorem Statement.not_served_none (statement : Statement) : ¬ statement.Served none := by
  cases statement <;> simp [Served, portalDatabaseResultStatus]

section Heard

variable {session : Option Bytes} {statement : Statement} {result : Option PgResult}

theorem Progress.Heard.success (heard : progress.Heard session statement result)
    (served : statement.Served result) :
    Told context jsonC request json progress endpoint
      (statement.success context request result) := by
  rcases heard.asked with asked | ⟨_, _, rfl⟩
  · exact .served asked served
  · exact absurd served statement.not_served_none

theorem Progress.Heard.failure (heard : progress.Heard session statement result)
    (mandated : Mandated context jsonC request json session endpoint statement)
    (unserved : ¬ statement.Served result) :
    Told context jsonC request json progress endpoint (statement.failure result) := by
  rcases heard.asked with asked | ⟨unasked, starved, rfl⟩
  · exact .failed asked unserved
  · exact .unsent unasked starved (heard.session ▸ mandated)

theorem Mandated.next (mandated : Mandated context jsonC request json session endpoint statement)
    (progress : Progress) :
    progress.next (.pqExecParams statement) result =
      { progress with asked := some (statement, result) } := by
  cases mandated <;> rfl

theorem portalDatabaseQuery_keeps {next : Option PgResult → Handler α}
    (opened : progress.Open session)
    (mandated : Mandated context jsonC request json session endpoint statement)
    (rest : ∀ result later, Progress.Heard later session statement result →
      (dialogue context jsonC request endpoint json).Keeps post (next result) later) :
    (dialogue context jsonC request endpoint json).Keeps post
      (portalDatabaseQuery statement >>= next) progress := by
  rw [portalDatabaseQuery, Program.bind_bind]
  refine allocate_keeps opened.attempt ?granted ?refused
  case granted =>
    refine .perform (.ask opened.attempt opened.asked (opened.session ▸ mandated)) fun result => ?_
    refine rest result (progress.next (.pqExecParams statement) result) ?_
    rw [mandated.next]
    exact ⟨opened.session, opened.attempt, .inl rfl⟩
  case refused =>
    exact rest none _ ⟨opened.session, opened.attempt, .inr ⟨opened.asked, rfl, rfl⟩⟩

end Heard

/-- What the lookup of the token told, and where it left the request. -/
inductive LookedUp (request : Request) (progress : Progress) :
    PortalAuthStatus × PortalAuthenticatedUser → Prop where
  | anonymous : request.authorization.getD [] = [] → progress.Open none →
      LookedUp request progress (.anonymous, .blank)
  | invalid : request.authorization.getD [] ≠ [] → progress.Open none →
      LookedUp request progress (.invalid, .blank)
  | authenticated {token : Bytes} {user : PortalAuthenticatedUser} :
      bearerToken request = some token → progress.Open (some user.id) →
      user.id.length ≤ portalHttpUuidTextLength →
      LookedUp request progress (.authenticated, user)

theorem portalHttpAuthenticate_keeps
    {next : PortalAuthStatus × PortalAuthenticatedUser → Handler α} (fresh : progress.Fresh)
    (inquires : endpoint.Secured ∨ endpoint.Shared)
    (rest : ∀ outcome later, LookedUp request later outcome →
      (dialogue context jsonC request endpoint json).Keeps post (next outcome) later) :
    (dialogue context jsonC request endpoint json).Keeps post
      (portalHttpAuthenticate request >>= next) progress := by
  have opened := fresh.opened
  unfold portalHttpAuthenticate
  split
  · next absent => exact rest _ _ (.anonymous (by simp [absent]) opened)
  next authorization present =>
  split
  · next empty => exact rest _ _ (.anonymous (by simp [present, empty]) opened)
  next filled =>
  have given : request.authorization.getD [] ≠ [] := by simpa [present] using filled
  split
  · exact rest _ _ (.invalid given opened)
  next wellFormed =>
  have bearer : bearerToken request = some (authorization.drop 7) := by
    simp only [Bool.or_eq_true, decide_eq_true_eq, not_or, not_not] at wellFormed
    simp [bearerToken, present, wellFormed]
  rw [portalDatabaseQuery, Program.bind_bind, Program.bind_bind]
  refine allocate_keeps fresh.attempt ?granted ?refused
  case refused =>
    exact rest _ _ (.invalid given ⟨fresh.session, fresh.asked, fresh.attempt⟩)
  case granted =>
    refine .perform (.inquire fresh.attempt fresh.asked fresh.inquired inquires bearer)
      fun result => ?_
    split
    · next other =>
        refine rest _ _ (.invalid given ⟨?_, fresh.asked, fresh.attempt⟩)
        exact if_neg (not_and_or.mpr (by simpa using other))
    · next one =>
        simp only [snprintf_not_negative, decide_false, Bool.or_self, Bool.false_eq_true, ↓reduceIte]
        refine rest _ _ (.authenticated bearer ⟨?_, fresh.asked, fresh.attempt⟩ ?_)
        · exact if_pos (by simpa using one)
        · simp [portalHttpUuidTextLength]

end Rules

end PortalApi
