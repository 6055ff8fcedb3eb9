import PortalApi.Http.DispatchProperties

/-! When a handler sends a statement to the server. -/

set_option autoImplicit false

namespace PortalApi

open Library

def Operation.IsStatement : Operation → Prop
  | .pqExecParams _ => True
  | _ => False

/-- A statement that is sent in such a state. -/
def SentIn (condition : Exchange → Prop) (operation : Operation) (exchange : Exchange) : Prop :=
  operation.IsStatement ∧ condition exchange

section Sends

variable {postgres : Postgres} {environment : Environment} {condition : Exchange → Prop}

/-- The handler sends a statement in such a state. -/
abbrev Sends {α : Type} (postgres : Postgres) (environment : Environment)
    (condition : Exchange → Prop) (program : Handler α) (exchange : Exchange) : Prop :=
  program.Meets (interpret postgres environment) (SentIn condition) exchange

variable {exchange : Exchange} {request : Request} {json : Option Json}

@[simp] theorem sends_allocate (purpose : Allocation) :
    ¬ Sends postgres environment condition (allocate purpose) exchange := by
  simp [Sends, allocate, SentIn, Operation.IsStatement]

@[simp] theorem sends_pqStatus : ¬ Sends postgres environment condition pqStatus exchange := by
  simp [Sends, pqStatus, SentIn, Operation.IsStatement]

@[simp] theorem sends_portalDatabaseIsConnected :
    ¬ Sends postgres environment condition portalDatabaseIsConnected exchange := by
  simp only [portalDatabaseIsConnected, Program.meets_bind, sends_pqStatus, Program.meets_pure,
    or_self, not_false_eq_true]

@[simp] theorem sends_mhdQueueResponse (response : Response) :
    ¬ Sends postgres environment condition (mhdQueueResponse response) exchange := by
  simp [Sends, mhdQueueResponse, SentIn, Operation.IsStatement]

@[simp] theorem sends_portalHttpResponseBytes (status : Nat) (payload : Payload)
    (contentType : String) :
    ¬ Sends postgres environment condition (portalHttpResponseBytes status payload contentType)
      exchange := by
  simp only [portalHttpResponseBytes, Program.meets_bind, Program.meets_ite, sends_allocate,
    sends_mhdQueueResponse, Program.meets_pure, ite_self, or_self, not_false_eq_true]

@[simp] theorem sends_portalHttpResponseJson (status : Nat) (json : Json) :
    ¬ Sends postgres environment condition (portalHttpResponseJson status json) exchange :=
  sends_portalHttpResponseBytes _ _ _

@[simp] theorem sends_portalHttpResponseEmpty (status : Nat) :
    ¬ Sends postgres environment condition (portalHttpResponseEmpty status) exchange :=
  sends_portalHttpResponseBytes _ _ _

@[simp] theorem sends_portalHttpResponseError (status : Nat) (code message : String) :
    ¬ Sends postgres environment condition (portalHttpResponseError status code message)
      exchange := by
  simp only [portalHttpResponseError, Program.meets_bind, Program.meets_ite, sends_allocate,
    sends_portalHttpResponseJson, Program.meets_pure, ite_self, or_self, not_false_eq_true]

theorem sends_describing (status : Nat) (json : Json) :
    ¬ Sends postgres environment condition (do
      if ← allocate .responseObject then portalHttpResponseJson status json else return .no)
      exchange := by
  simp only [Program.meets_bind, Program.meets_ite, sends_allocate, sends_portalHttpResponseJson,
    Program.meets_pure, ite_self, or_self, not_false_eq_true]

@[simp] theorem sends_portalHttpResponseOptions :
    ¬ Sends postgres environment condition portalHttpResponseOptions exchange := by
  simp only [portalHttpResponseOptions, Program.meets_bind, Program.meets_ite, sends_allocate,
    sends_mhdQueueResponse, Program.meets_pure, ite_self, or_self, not_false_eq_true]

@[simp] theorem sends_portalHttpRequestParseJson (jsonC : JsonC) (body : Bytes) :
    ¬ Sends postgres environment condition (portalHttpRequestParseJson jsonC body) exchange := by
  simp only [portalHttpRequestParseJson, Program.meets_bind, Program.meets_ite, sends_allocate,
    Program.meets_pure, ite_self, or_self, not_false_eq_true]

@[simp] theorem sends_topContentItems (result : Option PgResult) (indices : List Nat) :
    ¬ Sends postgres environment condition (topContentItems result indices) exchange := by
  induction indices generalizing exchange with
  | nil => exact Program.meets_pure _ _
  | cons index rest ih =>
      simp only [topContentItems, Program.meets_bind, Program.meets_ite, sends_allocate, false_or]
      split
      · intro sent
        rcases sent with now | later
        · exact ih now
        · split at later
          · exact Program.meets_pure _ _ later
          · exact Program.meets_pure _ _ later
      · exact Program.meets_pure _ _

@[simp] theorem sends_activityActorError (authentication : PortalAuthStatus) :
    ¬ Sends postgres environment condition (activityActorError request authentication) exchange := by
  unfold activityActorError
  split
  · exact sends_portalHttpResponseError _ _ _
  · exact sends_portalHttpResponseError _ _ _

/-- A query sends its statement when its result can be allocated. -/
@[simp] theorem sends_portalDatabaseQuery (statement : Statement) :
    Sends postgres environment condition (portalDatabaseQuery statement) exchange ↔
      environment.grants (.databaseResult statement.sender) = true ∧ condition exchange := by
  cases granted : environment.grants (.databaseResult statement.sender) <;>
    simp [Sends, portalDatabaseQuery, allocate, pqExecParams, interpret, granted, SentIn,
      Operation.IsStatement]

theorem sends_portalHttpAuthenticate :
    Sends postgres environment condition (portalHttpAuthenticate request) exchange ↔
      (bearerToken request).isSome = true ∧
        environment.grants (.databaseResult .authentication) = true ∧ condition exchange := by
  unfold portalHttpAuthenticate
  cases header : request.authorization with
  | none => simp [Sends, bearerToken, header]
  | some authorization =>
      simp only
      split
      · next empty =>
          have short : bytes "Bearer " ≠ [] := by decide
          simp [Sends, bearerToken, header, empty, short.symm]
      · split
        · next shape =>
            have other : bearerToken request = none := by
              simp only [Bool.or_eq_true, decide_eq_true_eq, ne_eq] at shape
              simp only [bearerToken, header, Bool.and_eq_true, decide_eq_true_eq]
              exact if_neg fun both => shape.elim (absurd both.1) (absurd both.2)
            simp [Sends, other]
        · next shape =>
            simp only [Bool.or_eq_true, decide_eq_true_eq, ne_eq, not_or, not_not] at shape
            have bearer : bearerToken request = some (authorization.drop 7) := by
              simp [bearerToken, header, shape]
            simp only [Program.meets_bind, sends_portalDatabaseQuery, Statement.sender, bearer,
              Option.isSome_some, true_and, or_iff_left_iff_imp]
            intro later
            split at later
            · exact (Program.meets_pure _ _ later).elim
            · split at later
              · exact (Program.meets_pure _ _ later).elim
              · exact (Program.meets_pure _ _ later).elim

theorem sends_activityLoadActor :
    Sends postgres environment condition (activityLoadActor request json) exchange ↔
      (bearerToken request).isSome = true ∧
        environment.grants (.databaseResult .authentication) = true ∧ condition exchange := by
  simp only [activityLoadActor, Program.meets_bind, sends_portalHttpAuthenticate,
    or_iff_left_iff_imp]
  intro later
  split at later
  · exact (Program.meets_pure _ _ later).elim
  · exact (Program.meets_pure _ _ later).elim
  · simp only [Program.meets_ite] at later
    split at later
    · exact (Program.meets_pure _ _ later).elim
    · exact (Program.meets_pure _ _ later).elim

/-! ### The routes without a lookup -/

theorem sends_portalHttpRouteRegister (context : PortalHttpContext) :
    Sends postgres environment condition (portalHttpRouteRegister context json) exchange ↔
      (registerFields json).isSome = true ∧ environment.grants (.databaseResult .route) = true ∧
        condition exchange := by
  unfold portalHttpRouteRegister registerFields
  cases portalHttpJsonString json (bytes "email") 5 254 with
  | none => simp
  | some email =>
  cases portalHttpJsonString json (bytes "password") 12 256 with
  | none => simp
  | some password =>
  cases portalHttpJsonString json (bytes "display_name") 1 100 with
  | none => simp
  | some displayName =>
      cases accepted : portalValidationEmail (some email) with
      | false => simp [accepted]
      | true =>
          obtain ⟨written, short⟩ := context.config.snprintf_confirmationTtl
          have fits : ¬ (12 : Int) ≤ context.config.confirmationTtl.length := by omega
          have positive : ¬ (context.config.confirmationTtl.length : Int) < 0 := by omega
          cases described : environment.grants .responseObject <;>
            simp [accepted, described, portalValidationLowercaseCopy_validated accepted, written, fits,
              positive, Statement.sender]

theorem sends_portalHttpRouteConfirm :
    Sends postgres environment condition (portalHttpRouteConfirm json) exchange ↔
      (confirmText json).isSome = true ∧ environment.grants (.databaseResult .route) = true ∧
        condition exchange := by
  unfold portalHttpRouteConfirm confirmText
  cases portalHttpJsonString json (bytes "token") portalHttpUuidTextLength
      portalHttpUuidTextLength with
  | none => simp
  | some token => simp [Statement.sender]

theorem sends_portalHttpRouteLogin (context : PortalHttpContext) :
    Sends postgres environment condition (portalHttpRouteLogin context json) exchange ↔
      (loginFields json).isSome = true ∧ environment.grants (.databaseResult .route) = true ∧
        condition exchange := by
  unfold portalHttpRouteLogin loginFields
  cases portalHttpJsonString json (bytes "email") 5 254 with
  | none => simp
  | some email =>
  cases portalHttpJsonString json (bytes "password") 1 256 with
  | none => simp
  | some password =>
      cases accepted : portalValidationEmail (some email) with
      | false => simp [accepted]
      | true =>
          obtain ⟨written, short⟩ := context.config.snprintf_tokenTtl
          have fits : ¬ (12 : Int) ≤ context.config.tokenTtl.length := by omega
          have positive : ¬ (context.config.tokenTtl.length : Int) < 0 := by omega
          cases described : environment.grants .responseObject <;>
            simp [accepted, described, portalValidationLowercaseCopy_validated accepted, written, fits,
              positive, authDatabaseError, Statement.sender]

theorem sends_httpDispatch {context : PortalHttpContext} {jsonC : JsonC} :
    Sends postgres environment condition (httpDispatch context jsonC request) exchange ↔
      Sends postgres environment condition
        ((request.routed (environment.parse jsonC request.body)).1.handler context jsonC request
          (request.routed (environment.parse jsonC request.body)).2) exchange := by
  unfold httpDispatch Request.routed
  rw [httpDispatchWithoutBody_eq context jsonC none]
  cases request.bodylessEndpoint with
  | some endpoint => simp
  | none =>
      cases bodyExpected request with
      | false => simp [httpDispatchJsonRoute_eq]
      | true =>
          simp only [Program.meets_bind, Program.meets_pure, Program.run_pure, false_or,
            Bool.false_eq_true, ↓reduceIte, sends_portalHttpRequestParseJson,
            run_portalHttpRequestParseJson]
          cases parsed : environment.parse jsonC request.body with
          | none =>
              unfold Environment.parse at parsed
              simp only [parsed]
              rfl
          | some json =>
              unfold Environment.parse at parsed
              simp only [parsed, httpDispatchJsonRoute_eq]

end Sends

/-- A request without a header that names itself by an accepted identifier. -/
def Request.Anonymous (request : Request) (json : Option Json) : Prop :=
  request.authorization.getD [] = [] ∧ portalValidationAnonymousId (anonymousIdText json) = true

/-- The requests that a statement is sent for. -/
def Endpoint.Asks (jsonC : JsonC) (request : Request) (json : Option Json) : Endpoint → Prop
  | .topContent | .favoriteList _ | .logout | .favoriteChange _ _ =>
    (bearerToken request).isSome = true
  | .register => (registerFields json).isSome = true
  | .confirm => (confirmText json).isSome = true
  | .login => (loginFields json).isSome = true
  | .activity => (activityFields json).isSome = true ∧ ((bearerToken request).isSome = true ∨
    request.Anonymous json ∧ (activityEventData jsonC json).isSome = true)
  | .like contentId => portalValidationKey (some contentId) 300 = true ∧
    ((bearerToken request).isSome = true ∨
      request.Anonymous json ∧ (request.isPut = true → (portalKeyField json).isSome = true))
  | .comment contentId => (commentFields contentId json).isSome = true ∧
    ((bearerToken request).isSome = true ∨ request.Anonymous json)
  | _ => False

section Asks

variable {postgres : Postgres} {environment : Environment} {exchange : Exchange}
  {request : Request} {json : Option Json}

/-- The handler sends a statement at all. -/
abbrev Asked {α : Type} (postgres : Postgres) (environment : Environment) (program : Handler α)
    (exchange : Exchange) : Prop :=
  Sends postgres environment (fun _ => True) program exchange

/-- Without a well-formed header nobody is authenticated. -/
theorem run_portalHttpAuthenticate_unasked (none : bearerToken request = none) :
    (portalHttpAuthenticate request).run (interpret postgres environment) exchange =
      ((if request.authorization.getD [] = [] then .anonymous else .invalid, .blank), exchange) := by
  unfold portalHttpAuthenticate
  cases header : request.authorization with
  | none => rfl
  | some authorization =>
      simp only [Option.getD_some]
      split
      · rfl
      · have shape : (decide (authorization.take 7 ≠ bytes "Bearer ") ||
            decide ((authorization.drop 7).length ≠ portalHttpUuidTextLength)) = true := by
          apply Decidable.byContradiction
          intro fits
          simp only [ne_eq, Bool.or_eq_true, decide_eq_true_eq, not_or, not_not] at fits
          simp [bearerToken, header, fits] at none
        rw [if_pos shape]
        rfl

/-- A route that only goes on with a session sends a statement for a well-formed header. -/
theorem asked_portalHttpAuthenticate
    (granted : ∀ sender, environment.grants (.databaseResult sender) = true)
    {next : PortalAuthStatus × PortalAuthenticatedUser → Handler MhdResult}
    (refuses : ∀ status, status ≠ .authenticated → ∀ after,
      ¬ Asked postgres environment (next (status, .blank)) after) :
    Asked postgres environment (portalHttpAuthenticate request >>= next) exchange ↔
      (bearerToken request).isSome = true := by
  refine (Program.meets_bind _ _ _).trans ((or_congr_left sends_portalHttpAuthenticate).trans ?_)
  cases bearer : bearerToken request with
  | some token => simp [granted]
  | none =>
      rw [run_portalHttpAuthenticate_unasked bearer]
      simp only [Option.isSome_none, Bool.false_eq_true, false_and, false_or, iff_false]
      apply refuses
      split <;> simp

theorem run_activityLoadActor_unasked (none : bearerToken request = none)
    (unnamed : ¬ request.Anonymous json) :
    ∃ actor, (activityLoadActor request json).run (interpret postgres environment) exchange =
      ((.invalid, actor), exchange) := by
  have looked : (portalHttpAuthenticate request).run (interpret postgres environment) exchange = _ :=
    run_portalHttpAuthenticate_unasked none
  refine ⟨⟨.blank, anonymousIdText json, []⟩, ?_⟩
  by_cases absent : request.authorization.getD [] = []
  · have invalid : portalValidationAnonymousId
        (portalHttpJsonOptionalString json (bytes "anonymous_id") 200) = false :=
      Bool.eq_false_iff.mpr fun valid => unnamed ⟨absent, valid⟩
    simp [activityLoadActor, looked, absent, invalid, anonymousIdText]
  · simp [activityLoadActor, looked, absent, anonymousIdText]

theorem run_activityLoadActor_anonymous (none : bearerToken request = none)
    (named : request.Anonymous json) :
    ∃ actor, (activityLoadActor request json).run (interpret postgres environment) exchange =
      ((.anonymous, actor), exchange) := by
  have looked : (portalHttpAuthenticate request).run (interpret postgres environment) exchange = _ :=
    run_portalHttpAuthenticate_unasked none
  obtain ⟨absent, valid⟩ := named
  obtain ⟨text, read, _, atMost, _⟩ := portalValidationAnonymousId_iff.mp valid
  have found : portalHttpJsonOptionalString json (bytes "anonymous_id") 200 = some text := read
  have accepted : portalValidationAnonymousId (some text) = true := read ▸ valid
  have start : (bytes "a:").length = 2 := by decide
  have fits : ¬ (205 : Int) ≤ (snprintf 205 (bytes "a:" ++ text)).1 := by
    simp only [snprintf, List.length_append, start]
    omega
  have written : 0 ≤ (snprintf 205 (bytes "a:" ++ text)).1 := by
    simp only [snprintf, List.length_append, start]
    omega
  refine ⟨⟨.blank, some text, (snprintf 205 (bytes "a:" ++ text)).2⟩, ?_⟩
  simp [activityLoadActor, looked, absent, found, accepted, fits]

/-- A route with optional authentication sends a statement for a well-formed
header, or for an anonymous actor when its rest does. -/
theorem asked_activityLoadActor
    (granted : ∀ sender, environment.grants (.databaseResult sender) = true)
    {next : PortalAuthStatus × PortalActivityActor → Handler MhdResult} {rest : Prop}
    (refuses : ∀ actor after, ¬ Asked postgres environment (next (.invalid, actor)) after)
    (continues : ∀ actor after,
      Asked postgres environment (next (.anonymous, actor)) after ↔ rest) :
    Asked postgres environment (activityLoadActor request json >>= next) exchange ↔
      ((bearerToken request).isSome = true ∨ request.Anonymous json ∧ rest) := by
  refine (Program.meets_bind _ _ _).trans ((or_congr_left sends_activityLoadActor).trans ?_)
  cases bearer : bearerToken request with
  | some token => simp [granted]
  | none =>
      by_cases named : request.Anonymous json
      · obtain ⟨actor, ran⟩ := run_activityLoadActor_anonymous bearer named
        rw [ran]
        simp [named, continues]
      · obtain ⟨actor, ran⟩ := run_activityLoadActor_unasked bearer named
        rw [ran]
        simp [named, refuses]

theorem asked_portalHttpRouteLogout
    (granted : ∀ sender, environment.grants (.databaseResult sender) = true) :
    Asked postgres environment (portalHttpRouteLogout request) exchange ↔
      (bearerToken request).isSome = true := by
  apply asked_portalHttpAuthenticate granted
  intro status outside after
  simp [outside]

theorem asked_portalHttpRouteTopContent
    (granted : ∀ sender, environment.grants (.databaseResult sender) = true) :
    Asked postgres environment (portalHttpRouteTopContent request) exchange ↔
      (bearerToken request).isSome = true := by
  apply asked_portalHttpAuthenticate granted
  intro status outside after
  simp [outside]

theorem asked_favoriteHasAuthenticatedUser
    (granted : ∀ sender, environment.grants (.databaseResult sender) = true)
    {next : Bool × PortalAuthenticatedUser → Handler MhdResult}
    (refuses : ∀ after, ¬ Asked postgres environment (next (false, .blank)) after) :
    Asked postgres environment (favoriteHasAuthenticatedUser request >>= next) exchange ↔
      (bearerToken request).isSome = true := by
  rw [favoriteHasAuthenticatedUser, Program.bind_bind]
  apply asked_portalHttpAuthenticate granted
  intro status outside after
  have refused := refuses after
  simpa [outside] using refused

theorem asked_portalHttpRouteActivity
    (granted : ∀ sender, environment.grants (.databaseResult sender) = true)
    (jsonC : JsonC) :
    Asked postgres environment (portalHttpRouteActivity jsonC request json) exchange ↔
      (activityFields json).isSome = true ∧ ((bearerToken request).isSome = true ∨
        request.Anonymous json ∧ (activityEventData jsonC json).isSome = true) := by
  unfold portalHttpRouteActivity
  cases read : activityFields json with
  | none =>
      rw [if_pos (activityFields_eq_none.mp read)]
      simp
  | some fields =>
      rw [if_neg (mt activityFields_eq_none.mpr (by simp [read])), Option.isSome_some,
        and_iff_right rfl]
      apply asked_activityLoadActor granted
      · intro actor after
        simp
      · intro actor after
        cases activityEventData jsonC json with
        | none => simp
        | some data => simp [granted]

theorem asked_portalHttpRouteLike
    (granted : ∀ sender, environment.grants (.databaseResult sender) = true)
    (contentId : Bytes) :
    Asked postgres environment (portalHttpRouteLike request contentId json) exchange ↔
      portalValidationKey (some contentId) 300 = true ∧ ((bearerToken request).isSome = true ∨
        request.Anonymous json ∧ (request.isPut = true → (portalKeyField json).isSome = true)) := by
  unfold portalHttpRouteLike
  cases content : portalValidationKey (some contentId) 300 with
  | false =>
      rw [if_pos (by simp)]
      simp
  | true =>
      rw [if_neg (by simp), and_iff_right rfl]
      apply asked_activityLoadActor granted
      · intro actor after
        simp
      · intro actor after
        simp only [reduceCtorEq, ↓reduceIte, Request.isPut]
        cases portal : portalKeyField json with
        | none =>
            rw [portalKeyField_eq_none.mp portal]
            by_cases put : request.method = bytes "PUT" <;> simp [put, granted]
        | some portalKey =>
            have given : ¬ portalKeyField json = none := by simp [portal]
            rw [Bool.eq_false_iff.mpr (mt portalKeyField_eq_none.mpr given)]
            simp [granted]

theorem asked_portalHttpRouteComment
    (granted : ∀ sender, environment.grants (.databaseResult sender) = true)
    (contentId : Bytes) :
    Asked postgres environment (portalHttpRouteComment request contentId json) exchange ↔
      (commentFields contentId json).isSome = true ∧
        ((bearerToken request).isSome = true ∨ request.Anonymous json) := by
  unfold portalHttpRouteComment
  cases read : commentFields contentId json with
  | none =>
      rw [if_pos (commentFields_eq_none.mp read)]
      simp
  | some fields =>
      rw [if_neg (mt commentFields_eq_none.mpr (by simp [read])), Option.isSome_some,
        and_iff_right rfl, ← and_true (request.Anonymous json)]
      apply asked_activityLoadActor granted
      · intro actor after
        simp
      · intro actor after
        simp [granted]

/-- A request is one that a statement is sent for, or the server hears nothing of it. -/
theorem Endpoint.handler_asked
    (granted : ∀ sender, environment.grants (.databaseResult sender) = true)
    (context : PortalHttpContext) (jsonC : JsonC) (endpoint : Endpoint) :
    Asked postgres environment (endpoint.handler context jsonC request json) exchange ↔
      endpoint.Asks jsonC request json := by
  cases endpoint with
  | topContent => exact asked_portalHttpRouteTopContent granted
  | favoriteList kind =>
      apply asked_favoriteHasAuthenticatedUser granted
      intro after
      simp
  | logout => exact asked_portalHttpRouteLogout granted
  | favoriteChange kind key =>
      apply asked_favoriteHasAuthenticatedUser granted
      intro after
      simp
  | register => simp [handler, Asks, sends_portalHttpRouteRegister, granted]
  | confirm => simp [handler, Asks, sends_portalHttpRouteConfirm, granted]
  | login => simp [handler, Asks, sends_portalHttpRouteLogin, granted]
  | activity => exact asked_portalHttpRouteActivity granted jsonC
  | like contentId => exact asked_portalHttpRouteLike granted contentId
  | comment contentId => exact asked_portalHttpRouteComment granted contentId
  | options => simp [handler, Asks]
  | health => simp [handler, Asks]
  | longContentId => simp [handler, Asks]
  | invalidJson => simp [handler, Asks]
  | notFound => simp [handler, Asks]

end Asks

end PortalApi
