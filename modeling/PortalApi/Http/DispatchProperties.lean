import PortalApi.Http.Dispatch
import PortalApi.Http.Routes.ActivityProperties
import PortalApi.Http.Routes.AnalyticsProperties
import PortalApi.Http.Routes.AuthProperties
import PortalApi.Http.Routes.FavoritesProperties

/-! The route table behind the dispatcher: which endpoint a request reaches, with
which path parameter and which JSON object. -/

set_option autoImplicit false

namespace PortalApi

open Library

inductive Endpoint where
  | options
  | health
  | topContent
  | favoriteList (kind : PortalFavoriteKind)
  | logout
  | favoriteChange (kind : PortalFavoriteKind) (key : Bytes)
  | register
  | confirm
  | login
  | activity
  | like (contentId : Bytes)
  | comment (contentId : Bytes)
  | longContentId
  | invalidJson
  | notFound

/-- The endpoints that are tried before the body is parsed. -/
def Request.bodylessEndpoint (request : Request) : Option Endpoint :=
  if request.method = bytes "OPTIONS" then some .options
  else if request.method = bytes "GET" && request.url = bytes "/health" then some .health
  else if request.method = bytes "GET" && request.url = bytes "/analytics/top-content" then
    some .topContent
  else if request.method = bytes "GET" && request.url = bytes "/me/favorite-sections" then
    some (.favoriteList .favoriteSection)
  else if request.method = bytes "GET" && request.url = bytes "/me/favorite-tags" then
    some (.favoriteList .favoriteTag)
  else if request.method = bytes "DELETE" && request.url = bytes "/auth/session" then some .logout
  else if request.url.take 22 = bytes "/me/favorite-sections/" &&
      (request.method = bytes "PUT" || request.method = bytes "DELETE") then
    some (.favoriteChange .favoriteSection (request.url.drop 22))
  else if request.url.take 18 = bytes "/me/favorite-tags/" &&
      (request.method = bytes "PUT" || request.method = bytes "DELETE") then
    some (.favoriteChange .favoriteTag (request.url.drop 18))
  else none

def Request.contentEndpoint (request : Request) : Endpoint :=
  let path := request.url.drop 9
  if (request.method = bytes "PUT" || request.method = bytes "DELETE") &&
      path.length > 5 && path.drop (path.length - 5) = bytes "/like" then
    if path.length - 5 ≥ contentIdSize then .longContentId
    else .like (path.take (path.length - 5))
  else if request.method = bytes "POST" && path.length > 9 &&
      path.drop (path.length - 9) = bytes "/comments" then
    if path.length - 9 ≥ contentIdSize then .longContentId
    else .comment (path.take (path.length - 9))
  else .notFound

def Request.jsonEndpoint (request : Request) : Endpoint :=
  if request.method = bytes "POST" && request.url = bytes "/auth/register" then .register
  else if request.method = bytes "POST" && request.url = bytes "/auth/confirm" then .confirm
  else if request.method = bytes "POST" && request.url = bytes "/auth/login" then .login
  else if request.method = bytes "POST" && request.url = bytes "/activity" then .activity
  else if request.url.take 9 = bytes "/content/" then request.contentEndpoint
  else .notFound

/-- The endpoint of a request and the JSON its handler is given, from what the
body was parsed as. -/
def Request.routed (request : Request) (parsed : Option Json) : Endpoint × Option Json :=
  match request.bodylessEndpoint with
  | some endpoint => (endpoint, none)
  | none =>
    if bodyExpected request then
      match parsed with
      | none => (.invalidJson, none)
      | some json => (request.jsonEndpoint, some json)
    else (request.jsonEndpoint, none)

def Endpoint.handler (context : PortalHttpContext) (jsonC : JsonC) (request : Request)
    (json : Option Json) : Endpoint → Handler MhdResult
  | .options => portalHttpResponseOptions
  | .health => do
    if !(← portalDatabaseIsConnected) then
      portalHttpResponseError 503 "database_unavailable" "Database is unavailable."
    else portalHttpResponseBytes 200 (.text (bytes "\x7b\"status\":\"ok\"\x7d")) jsonContentType
  | .topContent => portalHttpRouteTopContent request
  | .favoriteList kind => portalHttpRouteFavoriteList request kind
  | .logout => portalHttpRouteLogout request
  | .favoriteChange kind key => portalHttpRouteFavoriteChange request kind key
  | .register => portalHttpRouteRegister context json
  | .confirm => portalHttpRouteConfirm json
  | .login => portalHttpRouteLogin context json
  | .activity => portalHttpRouteActivity jsonC request json
  | .like contentId => portalHttpRouteLike request contentId json
  | .comment contentId => portalHttpRouteComment request contentId json
  | .longContentId => portalHttpResponseError 400 "validation_error" "Invalid content id."
  | .invalidJson =>
    portalHttpResponseError 400 "invalid_json" "A JSON object request body is required."
  | .notFound => portalHttpResponseError 404 "not_found" "Route not found."

section Runs

variable {postgres : Postgres} {environment : Environment} {context : PortalHttpContext}
  {jsonC : JsonC} {request : Request} {json : Option Json} {exchange : Exchange}

/-- What the body is parsed as, if at all. -/
def Environment.parse (environment : Environment) (jsonC : JsonC) (body : Bytes) : Option Json :=
  if environment.grants .jsonTokener then readJson jsonC body else none

theorem httpDispatchContent_eq :
    httpDispatchContent request json = request.contentEndpoint.handler context jsonC request json := by
  unfold httpDispatchContent Request.contentEndpoint
  simp only
  split
  · split <;> rfl
  · split
    · split <;> rfl
    · rfl

theorem httpDispatchJsonRoute_eq :
    httpDispatchJsonRoute context jsonC request json =
      request.jsonEndpoint.handler context jsonC request json := by
  unfold httpDispatchJsonRoute Request.jsonEndpoint
  split
  · rfl
  split
  · rfl
  split
  · rfl
  split
  · rfl
  split
  · exact httpDispatchContent_eq
  · rfl

theorem httpDispatchWithoutBody_eq (context : PortalHttpContext) (jsonC : JsonC)
    (json : Option Json) :
    httpDispatchWithoutBody request =
      match request.bodylessEndpoint with
      | some endpoint => do return (true, ← endpoint.handler context jsonC request json)
      | none => return (false, .yes) := by
  unfold httpDispatchWithoutBody Request.bodylessEndpoint
  simp only
  split
  · rfl
  split
  · rfl
  split
  · rfl
  split
  · rfl
  split
  · rfl
  split
  · rfl
  split
  · rfl
  split
  · rfl
  · rfl

theorem run_httpDispatch :
    (httpDispatch context jsonC request).run (interpret postgres environment) exchange =
      ((request.routed (environment.parse jsonC request.body)).1.handler context jsonC request
        (request.routed (environment.parse jsonC request.body)).2).run
        (interpret postgres environment) exchange := by
  unfold httpDispatch Request.routed
  rw [httpDispatchWithoutBody_eq context jsonC none]
  cases request.bodylessEndpoint with
  | some endpoint => simp
  | none =>
      cases bodyExpected request with
      | false => simp [httpDispatchJsonRoute_eq]
      | true =>
          simp only [Program.run_bind, Program.run_pure, Bool.false_eq_true, ↓reduceIte,
            run_portalHttpRequestParseJson]
          change (match environment.parse jsonC request.body with
            | none => portalHttpResponseError 400 "invalid_json"
              "A JSON object request body is required."
            | some json => httpDispatchJsonRoute context jsonC request (some json)).run _ _ = _
          cases environment.parse jsonC request.body with
          | none => rfl
          | some json =>
              simp only
              rw [httpDispatchJsonRoute_eq]

end Runs

/-- A request with this method for this path. -/
structure Request.At (request : Request) (method url : String) : Prop where
  method : request.method = bytes method
  url : request.url = bytes url

def PortalFavoriteKind.path : PortalFavoriteKind → String
  | .favoriteSection => "/me/favorite-sections"
  | .favoriteTag => "/me/favorite-tags"

/-- A method that changes a favorite or a like. -/
def Request.Changes (request : Request) : Prop :=
  request.method = bytes "PUT" ∨ request.method = bytes "DELETE"

/-- The path of an action on a content. -/
structure Request.OnContent (request : Request) (contentId : Bytes) (action : String) : Prop where
  url : request.url = bytes "/content/" ++ contentId ++ bytes action
  present : contentId ≠ []

/-- The requests behind each endpoint. -/
inductive Routes (request : Request) (parsed : Option Json) : Endpoint → Option Json → Prop where
  | options : request.method = bytes "OPTIONS" → Routes request parsed .options none
  | health : request.At "GET" "/health" → Routes request parsed .health none
  | topContent : request.At "GET" "/analytics/top-content" → Routes request parsed .topContent none
  | favoriteList {kind : PortalFavoriteKind} : request.At "GET" kind.path →
      Routes request parsed (.favoriteList kind) none
  | logout : request.At "DELETE" "/auth/session" → Routes request parsed .logout none
  | favoriteChange {kind : PortalFavoriteKind} {key : Bytes} : request.Changes →
      request.url = bytes kind.path ++ bytes "/" ++ key →
      Routes request parsed (.favoriteChange kind key) none
  | register {json : Json} : request.At "POST" "/auth/register" → parsed = some json →
      Routes request parsed .register (some json)
  | confirm {json : Json} : request.At "POST" "/auth/confirm" → parsed = some json →
      Routes request parsed .confirm (some json)
  | login {json : Json} : request.At "POST" "/auth/login" → parsed = some json →
      Routes request parsed .login (some json)
  | activity {json : Json} : request.At "POST" "/activity" → parsed = some json →
      Routes request parsed .activity (some json)
  | like {contentId : Bytes} {json : Option Json} : request.Changes →
      request.OnContent contentId "/like" → contentId.length ≤ 300 →
      (json = if bodyExpected request then parsed else none) →
      Routes request parsed (.like contentId) json
  | comment {contentId : Bytes} {json : Json} : request.method = bytes "POST" →
      request.OnContent contentId "/comments" → contentId.length ≤ 300 → parsed = some json →
      Routes request parsed (.comment contentId) (some json)
  | longContentId {json : Option Json} {contentId : Bytes} {action : String} :
      request.OnContent contentId action → 300 < contentId.length →
      Routes request parsed .longContentId json
  | invalidJson : bodyExpected request = true → parsed = none →
      Routes request parsed .invalidJson none
  | notFound {json : Option Json} : Routes request parsed .notFound json

section Routes

variable {request : Request} {parsed json : Option Json}

theorem bodylessEndpoint_routes {endpoint : Endpoint}
    (reached : request.bodylessEndpoint = some endpoint) :
    Routes request parsed endpoint none := by
  unfold Request.bodylessEndpoint at reached
  split at reached
  · next method =>
      obtain rfl := Option.some.inj reached
      exact .options method
  split at reached
  · next both =>
      obtain rfl := Option.some.inj reached
      simp only [Bool.and_eq_true, decide_eq_true_eq] at both
      exact .health ⟨both.1, both.2⟩
  split at reached
  · next both =>
      obtain rfl := Option.some.inj reached
      simp only [Bool.and_eq_true, decide_eq_true_eq] at both
      exact .topContent ⟨both.1, both.2⟩
  split at reached
  · next both =>
      obtain rfl := Option.some.inj reached
      simp only [Bool.and_eq_true, decide_eq_true_eq] at both
      exact .favoriteList ⟨both.1, both.2⟩
  split at reached
  · next both =>
      obtain rfl := Option.some.inj reached
      simp only [Bool.and_eq_true, decide_eq_true_eq] at both
      exact .favoriteList ⟨both.1, both.2⟩
  split at reached
  · next both =>
      obtain rfl := Option.some.inj reached
      simp only [Bool.and_eq_true, decide_eq_true_eq] at both
      exact .logout ⟨both.1, both.2⟩
  split at reached
  · next both =>
      obtain rfl := Option.some.inj reached
      simp only [Bool.and_eq_true, Bool.or_eq_true, decide_eq_true_eq] at both
      have path : bytes "/me/favorite-sections/" = bytes "/me/favorite-sections" ++ bytes "/" := by
        decide
      exact .favoriteChange both.2 (by
        rw [PortalFavoriteKind.path, ← path, ← both.1, List.take_append_drop])
  split at reached
  · next both =>
      obtain rfl := Option.some.inj reached
      simp only [Bool.and_eq_true, Bool.or_eq_true, decide_eq_true_eq] at both
      have path : bytes "/me/favorite-tags/" = bytes "/me/favorite-tags" ++ bytes "/" := by
        decide
      exact .favoriteChange both.2 (by
        rw [PortalFavoriteKind.path, ← path, ← both.1, List.take_append_drop])
  · cases reached

/-- A path under `/content/` that ends in an action is the content id between. -/
theorem onContent (action : String) {size : Nat} (length : (bytes action).length = size)
    (start : request.url.take 9 = bytes "/content/") (longer : size < (request.url.drop 9).length)
    (ends : (request.url.drop 9).drop ((request.url.drop 9).length - size) = bytes action) :
    request.OnContent ((request.url.drop 9).take ((request.url.drop 9).length - size)) action where
  url := by
    calc request.url
        = request.url.take 9 ++ request.url.drop 9 := (List.take_append_drop 9 _).symm
      _ = bytes "/content/" ++ ((request.url.drop 9).take ((request.url.drop 9).length - size) ++
            (request.url.drop 9).drop ((request.url.drop 9).length - size)) := by
          rw [start, List.take_append_drop]
      _ = _ := by rw [ends, List.append_assoc]
  present := by
    intro empty
    have none := congrArg List.length empty
    simp only [List.length_take, List.length_nil] at none
    omega

theorem contentEndpoint_routes (start : request.url.take 9 = bytes "/content/")
    (given : json = if bodyExpected request then parsed else none)
    (valid : bodyExpected request = true → parsed ≠ none) :
    Routes request parsed request.contentEndpoint json := by
  unfold Request.contentEndpoint
  simp only
  split
  · next isLike =>
      simp only [Bool.and_eq_true, Bool.or_eq_true, decide_eq_true_eq] at isLike
      obtain ⟨⟨changes, longer⟩, ends⟩ := isLike
      have content := onContent "/like" (by decide) start longer ends
      split
      · next long =>
          refine .longContentId content ?_
          simp only [contentIdSize] at long
          simp only [List.length_take]
          omega
      · next short =>
          refine .like changes content ?_ given
          simp only [contentIdSize] at short
          simp only [List.length_take]
          omega
  split
  · next isComment =>
      simp only [Bool.and_eq_true, decide_eq_true_eq] at isComment
      obtain ⟨⟨post, longer⟩, ends⟩ := isComment
      have content := onContent "/comments" (by decide) start longer ends
      split
      · next long =>
          refine .longContentId content ?_
          simp only [contentIdSize] at long
          simp only [List.length_take]
          omega
      · next short =>
          have expected : bodyExpected request = true := by simp [bodyExpected, post]
          cases parsed with
          | none => exact absurd rfl (valid expected)
          | some found =>
              simp only [expected, ↓reduceIte] at given
              subst given
              refine .comment post content ?_ rfl
              simp only [contentIdSize] at short
              simp only [List.length_take]
              omega
  · exact .notFound

theorem jsonEndpoint_routes (given : json = if bodyExpected request then parsed else none)
    (valid : bodyExpected request = true → parsed ≠ none) :
    Routes request parsed request.jsonEndpoint json := by
  have posted : request.method = bytes "POST" → ∃ found, parsed = some found ∧ json = some found := by
    intro post
    have expected : bodyExpected request = true := by simp [bodyExpected, post]
    obtain ⟨found, same⟩ := Option.ne_none_iff_exists'.mp (valid expected)
    exact ⟨found, same, by rw [given, expected, same]; rfl⟩
  unfold Request.jsonEndpoint
  split
  · next both =>
      simp only [Bool.and_eq_true, decide_eq_true_eq] at both
      obtain ⟨found, same, rfl⟩ := posted both.1
      exact .register ⟨both.1, both.2⟩ same
  split
  · next both =>
      simp only [Bool.and_eq_true, decide_eq_true_eq] at both
      obtain ⟨found, same, rfl⟩ := posted both.1
      exact .confirm ⟨both.1, both.2⟩ same
  split
  · next both =>
      simp only [Bool.and_eq_true, decide_eq_true_eq] at both
      obtain ⟨found, same, rfl⟩ := posted both.1
      exact .login ⟨both.1, both.2⟩ same
  split
  · next both =>
      simp only [Bool.and_eq_true, decide_eq_true_eq] at both
      obtain ⟨found, same, rfl⟩ := posted both.1
      exact .activity ⟨both.1, both.2⟩ same
  split
  · next start => exact contentEndpoint_routes start given valid
  · exact .notFound

/-- Every request reaches its endpoint for a reason. -/
theorem routed_routes : Routes request parsed (request.routed parsed).1 (request.routed parsed).2 := by
  unfold Request.routed
  cases bodyless : request.bodylessEndpoint with
  | some endpoint => exact bodylessEndpoint_routes bodyless
  | none =>
      simp only
      split
      · next expected =>
          split
          · exact .invalidJson expected rfl
          · next json => exact jsonEndpoint_routes (by simp [expected]) (by simp)
      · next unexpected =>
          exact jsonEndpoint_routes (by simp [unexpected]) (by simp [unexpected])

/-- The endpoints of the JSON routes with a fixed path. -/
def postEndpoints : List (String × Endpoint) :=
  [("/auth/register", .register), ("/auth/confirm", .confirm), ("/auth/login", .login),
    ("/activity", .activity)]

theorem routed_post {url : String} {endpoint : Endpoint} (post : request.At "POST" url)
    (listed : (url, endpoint) ∈ postEndpoints) :
    request.routed parsed =
      match parsed with
      | none => (.invalidJson, none)
      | some json => (endpoint, some json) := by
  obtain ⟨method, path⟩ := post
  simp only [postEndpoints, List.mem_cons, Prod.mk.injEq, List.not_mem_nil, or_false] at listed
  have bodyless : request.bodylessEndpoint = none := by
    rcases listed with ⟨rfl, rfl⟩ | ⟨rfl, rfl⟩ | ⟨rfl, rfl⟩ | ⟨rfl, rfl⟩ <;>
      · rw [Request.bodylessEndpoint, method, path]
        decide
  have reached : request.jsonEndpoint = endpoint := by
    rcases listed with ⟨rfl, rfl⟩ | ⟨rfl, rfl⟩ | ⟨rfl, rfl⟩ | ⟨rfl, rfl⟩ <;>
      · rw [Request.jsonEndpoint, method, path]
        rfl
  have expected : bodyExpected request = true := by simp [bodyExpected, method]
  simp only [Request.routed, bodyless, reached, expected, ↓reduceIte]

theorem routed_health (get : request.At "GET" "/health") :
    request.routed parsed = (.health, none) := by
  obtain ⟨method, path⟩ := get
  have bodyless : request.bodylessEndpoint = some .health := by
    rw [Request.bodylessEndpoint, method, path]
    rfl
  simp only [Request.routed, bodyless]

theorem routed_favoriteList {kind : PortalFavoriteKind} (get : request.At "GET" kind.path) :
    request.routed parsed = (.favoriteList kind, none) := by
  obtain ⟨method, path⟩ := get
  have bodyless : request.bodylessEndpoint = some (.favoriteList kind) := by
    rw [Request.bodylessEndpoint, method, path]
    cases kind <;> rfl
  simp only [Request.routed, bodyless]

end Routes

end PortalApi
