import PortalApi.Http.DispatchProperties

/-! How often a handler queues a response: on every path at most once, whatever
the database, the allocations and libmicrohttpd answer. -/

set_option autoImplicit false

namespace PortalApi

open Library

def Operation.IsQueue : Operation → Prop
  | .mhdQueueResponse _ => True
  | _ => False

/-- The program never queues a response. -/
abbrev Silent {α : Type} (program : Handler α) : Prop := program.AtMost Operation.IsQueue 0

/-- The program queues at most one response. -/
abbrev Once {α : Type} (program : Handler α) : Prop := program.AtMost Operation.IsQueue 1

section Rules

variable {α β : Type}

theorem Silent.pure (value : α) : Silent (Pure.pure value : Handler α) :=
  Program.AtMost.pure 0 value

theorem Once.pure (value : α) : Once (Pure.pure value : Handler α) := Program.AtMost.pure 1 value

theorem Silent.bind {program : Handler α} {next : α → Handler β} (before : Silent program)
    (after : ∀ value, Silent (next value)) : Silent (program >>= next) :=
  Program.AtMost.bind before after

/-- A response may only be queued once the silent part is over. -/
theorem Silent.bind_once {program : Handler α} {next : α → Handler β} (before : Silent program)
    (after : ∀ value, Once (next value)) : Once (program >>= next) :=
  Program.AtMost.bind before after

theorem allocate_silent (purpose : Allocation) : Silent (allocate purpose) :=
  Program.AtMost.perform_other (fun queue => queue) 0

theorem pqStatus_silent : Silent pqStatus := Program.AtMost.perform_other (fun queue => queue) 0

theorem pqExecParams_silent (statement : Statement) : Silent (pqExecParams statement) :=
  Program.AtMost.perform_other (fun queue => queue) 0

theorem mhdQueueResponse_once (response : Response) : Once (mhdQueueResponse response) :=
  Program.AtMost.perform_counted _

def Exchange.attempted (exchange : Exchange) : Nat := exchange.attempts.length

/-- What one run of a program adds to the attempts of the exchange. -/
theorem attempts_le {program : Handler α} {bound : Nat}
    (bounded : program.AtMost Operation.IsQueue bound) (postgres : Postgres)
    (environment : Environment) (exchange : Exchange) :
    (program.run (interpret postgres environment) exchange).2.attempts.length ≤
      exchange.attempts.length + bound := by
  have raised : ∀ operation exchange,
      Exchange.attempted (interpret postgres environment operation exchange).2 ≤
        Exchange.attempted exchange + 1 := by
    intro operation exchange
    cases operation <;> simp [interpret, Exchange.attempted]
  have unchanged : ∀ operation exchange, ¬ operation.IsQueue →
      Exchange.attempted (interpret postgres environment operation exchange).2 ≤
        Exchange.attempted exchange := by
    intro operation exchange other
    cases operation with
    | mhdQueueResponse response => exact absurd trivial other
    | allocate purpose => exact Nat.le_refl _
    | realloc buffer size => exact Nat.le_refl _
    | pqStatus => exact Nat.le_refl _
    | pqExecParams statement => exact Nat.le_refl _
  exact bounded.run_le raised unchanged exchange

end Rules

section Responses

variable (status : Nat)

theorem portalHttpResponseBytes_once (payload : Payload) (contentType : String) :
    Once (portalHttpResponseBytes status payload contentType) := by
  refine (allocate_silent _).bind_once fun created => ?_
  split
  · refine (allocate_silent _).bind_once fun completed => ?_
    split
    · exact mhdQueueResponse_once _
    · exact .pure _
  · exact .pure _

theorem portalHttpResponseJson_once (json : Json) : Once (portalHttpResponseJson status json) :=
  portalHttpResponseBytes_once status _ _

theorem portalHttpResponseEmpty_once : Once (portalHttpResponseEmpty status) :=
  portalHttpResponseBytes_once status _ _

theorem portalHttpResponseError_once (code message : String) :
    Once (portalHttpResponseError status code message) := by
  refine (allocate_silent _).bind_once fun granted => ?_
  split
  · exact portalHttpResponseJson_once _ _
  · exact .pure _

theorem portalHttpResponseOptions_once : Once portalHttpResponseOptions := by
  refine (allocate_silent _).bind_once fun created => ?_
  split
  · refine (allocate_silent _).bind_once fun completed => ?_
    split
    · exact mhdQueueResponse_once _
    · exact .pure _
  · exact .pure _

/-- The end of a route that builds one object: nothing is queued when it cannot. -/
theorem describing_once (json : Json) :
    Once (do if ← allocate .responseObject then portalHttpResponseJson status json
             else return .no) := by
  refine (allocate_silent _).bind_once fun granted => ?_
  split
  · exact portalHttpResponseJson_once _ _
  · exact .pure _

end Responses

section Silent

theorem portalDatabaseQuery_silent (statement : Statement) :
    Silent (portalDatabaseQuery statement) := by
  refine (allocate_silent _).bind fun granted => ?_
  split
  · exact pqExecParams_silent _
  · exact .pure _

theorem portalDatabaseIsConnected_silent : Silent portalDatabaseIsConnected :=
  pqStatus_silent.bind fun _ => .pure _

theorem portalHttpAuthenticate_silent (request : Request) :
    Silent (portalHttpAuthenticate request) := by
  unfold portalHttpAuthenticate
  split
  · exact .pure _
  split
  · exact .pure _
  split
  · exact .pure _
  refine (portalDatabaseQuery_silent _).bind fun result => ?_
  split
  · exact .pure _
  simp only
  split
  · exact .pure _
  · exact .pure _

theorem activityLoadActor_silent (request : Request) (json : Option Json) :
    Silent (activityLoadActor request json) := by
  refine (portalHttpAuthenticate_silent request).bind fun authenticated => ?_
  simp only
  split
  · exact .pure _
  · exact .pure _
  split
  · exact .pure _
  · exact .pure _

theorem topContentItems_silent (result : Option PgResult) (indices : List Nat) :
    Silent (topContentItems result indices) := by
  induction indices with
  | nil => exact .pure _
  | cons index rest ih =>
      refine (allocate_silent _).bind fun granted => ?_
      split
      · refine ih.bind fun items => ?_
        split
        · exact .pure _
        · exact .pure _
      · exact .pure _

end Silent

section Routes

variable (context : PortalHttpContext) (jsonC : JsonC) (request : Request) (json : Option Json)

theorem portalHttpRouteRegister_once : Once (portalHttpRouteRegister context json) := by
  unfold portalHttpRouteRegister
  simp only
  split
  · split
    · exact portalHttpResponseError_once _ _ _
    split
    · exact portalHttpResponseError_once _ _ _
    split
    · exact portalHttpResponseError_once _ _ _
    refine (portalDatabaseQuery_silent _).bind_once fun result => ?_
    split
    · split
      · exact portalHttpResponseError_once _ _ _
      · exact portalHttpResponseError_once _ _ _
    · exact describing_once _ _
  · exact portalHttpResponseError_once _ _ _

theorem portalHttpRouteConfirm_once : Once (portalHttpRouteConfirm json) := by
  unfold portalHttpRouteConfirm
  split
  · exact portalHttpResponseError_once _ _ _
  refine (portalDatabaseQuery_silent _).bind_once fun result => ?_
  split
  · exact portalHttpResponseError_once _ _ _
  · exact portalHttpResponseBytes_once _ _ _

theorem portalHttpRouteLogin_once : Once (portalHttpRouteLogin context json) := by
  unfold portalHttpRouteLogin
  simp only
  split
  · split
    · exact portalHttpResponseError_once _ _ _
    split
    · exact portalHttpResponseError_once _ _ _
    split
    · exact portalHttpResponseError_once _ _ _
    refine (portalDatabaseQuery_silent _).bind_once fun result => ?_
    split
    · exact portalHttpResponseError_once _ _ _
    split
    · exact portalHttpResponseError_once _ _ _
    · exact describing_once _ _
  · exact portalHttpResponseError_once _ _ _

theorem portalHttpRouteLogout_once : Once (portalHttpRouteLogout request) := by
  refine (portalHttpAuthenticate_silent request).bind_once fun authenticated => ?_
  simp only
  split
  · exact portalHttpResponseError_once _ _ _
  refine (portalDatabaseQuery_silent _).bind_once fun result => ?_
  split
  · exact portalHttpResponseError_once _ _ _
  · exact portalHttpResponseEmpty_once _

theorem favoriteHasAuthenticatedUser_silent : Silent (favoriteHasAuthenticatedUser request) :=
  (portalHttpAuthenticate_silent request).bind fun _ => .pure _

theorem portalHttpRouteFavoriteList_once (kind : PortalFavoriteKind) :
    Once (portalHttpRouteFavoriteList request kind) := by
  refine (favoriteHasAuthenticatedUser_silent request).bind_once fun authenticated => ?_
  simp only
  split
  · exact portalHttpResponseError_once _ _ _
  refine (portalDatabaseQuery_silent _).bind_once fun result => ?_
  split
  · exact portalHttpResponseError_once _ _ _
  refine (allocate_silent _).bind_once fun response => ?_
  refine (allocate_silent _).bind_once fun items => ?_
  split
  · exact .pure _
  · exact portalHttpResponseJson_once _ _

theorem portalHttpRouteFavoriteChange_once (kind : PortalFavoriteKind) (key : Bytes) :
    Once (portalHttpRouteFavoriteChange request kind key) := by
  refine (favoriteHasAuthenticatedUser_silent request).bind_once fun authenticated => ?_
  simp only
  split
  · exact portalHttpResponseError_once _ _ _
  split
  · exact portalHttpResponseError_once _ _ _
  refine (portalDatabaseQuery_silent _).bind_once fun result => ?_
  split
  · exact portalHttpResponseError_once _ _ _
  · exact portalHttpResponseEmpty_once _

theorem activityActorError_once (authentication : PortalAuthStatus) :
    Once (activityActorError request authentication) := by
  unfold activityActorError
  split
  · exact portalHttpResponseError_once _ _ _
  · exact portalHttpResponseError_once _ _ _

theorem portalHttpRouteActivity_once : Once (portalHttpRouteActivity jsonC request json) := by
  unfold portalHttpRouteActivity
  simp only
  split
  · exact portalHttpResponseError_once _ _ _
  refine (activityLoadActor_silent request json).bind_once fun loaded => ?_
  split
  · exact activityActorError_once _ _
  split
  · exact portalHttpResponseError_once _ _ _
  refine (portalDatabaseQuery_silent _).bind_once fun result => ?_
  split
  · exact portalHttpResponseError_once _ _ _
  · exact describing_once _ _

theorem portalHttpRouteLike_once (contentId : Bytes) :
    Once (portalHttpRouteLike request contentId json) := by
  unfold portalHttpRouteLike
  simp only
  split
  · exact portalHttpResponseError_once _ _ _
  refine (activityLoadActor_silent request json).bind_once fun loaded => ?_
  split
  · exact activityActorError_once _ _
  split
  · exact portalHttpResponseError_once _ _ _
  refine (portalDatabaseQuery_silent _).bind_once fun result => ?_
  split
  · exact portalHttpResponseError_once _ _ _
  · exact portalHttpResponseEmpty_once _

theorem portalHttpRouteComment_once (contentId : Bytes) :
    Once (portalHttpRouteComment request contentId json) := by
  unfold portalHttpRouteComment
  simp only
  split
  · exact portalHttpResponseError_once _ _ _
  refine (activityLoadActor_silent request json).bind_once fun loaded => ?_
  split
  · exact activityActorError_once _ _
  refine (portalDatabaseQuery_silent _).bind_once fun result => ?_
  split
  · exact portalHttpResponseError_once _ _ _
  · exact describing_once _ _

theorem portalHttpRouteTopContent_once : Once (portalHttpRouteTopContent request) := by
  unfold portalHttpRouteTopContent
  refine (portalHttpAuthenticate_silent request).bind_once fun authenticated => ?_
  simp only
  split
  · exact portalHttpResponseError_once _ _ _
  split
  · exact portalHttpResponseError_once _ _ _
  split
  · split
    · exact portalHttpResponseError_once _ _ _
    refine (portalDatabaseQuery_silent _).bind_once fun result => ?_
    split
    · exact portalHttpResponseError_once _ _ _
    refine (allocate_silent _).bind_once fun response => ?_
    refine (allocate_silent _).bind_once fun array => ?_
    split
    · exact .pure _
    refine (topContentItems_silent _ _).bind_once fun items => ?_
    split
    · exact .pure _
    · exact portalHttpResponseJson_once _ _
  · exact portalHttpResponseError_once _ _ _

theorem Endpoint.handler_once (endpoint : Endpoint) :
    Once (endpoint.handler context jsonC request json) := by
  cases endpoint with
  | options => exact portalHttpResponseOptions_once
  | health =>
      refine portalDatabaseIsConnected_silent.bind_once fun connected => ?_
      split
      · exact portalHttpResponseError_once _ _ _
      · exact portalHttpResponseBytes_once _ _ _
  | topContent => exact portalHttpRouteTopContent_once request
  | favoriteList kind => exact portalHttpRouteFavoriteList_once request kind
  | logout => exact portalHttpRouteLogout_once request
  | favoriteChange kind key => exact portalHttpRouteFavoriteChange_once request kind key
  | register => exact portalHttpRouteRegister_once context json
  | confirm => exact portalHttpRouteConfirm_once json
  | login => exact portalHttpRouteLogin_once context json
  | activity => exact portalHttpRouteActivity_once jsonC request json
  | like contentId => exact portalHttpRouteLike_once request json contentId
  | comment contentId => exact portalHttpRouteComment_once request json contentId
  | longContentId => exact portalHttpResponseError_once _ _ _
  | invalidJson => exact portalHttpResponseError_once _ _ _
  | notFound => exact portalHttpResponseError_once _ _ _

end Routes

theorem httpDispatch_attempts_le (context : PortalHttpContext) (jsonC : JsonC) (request : Request)
    (postgres : Postgres) (environment : Environment) (exchange : Exchange) :
    ((httpDispatch context jsonC request).run (interpret postgres environment)
        exchange).2.attempts.length ≤ exchange.attempts.length + 1 := by
  rw [run_httpDispatch]
  exact attempts_le (Endpoint.handler_once context jsonC request _ _) postgres environment exchange

end PortalApi
