import PortalApi.Http.DispatchProperties
import PortalApi.Service

/-! What one request can do to the tables. Every exit of every route is one of
the effects below, so that what holds over a run is a case analysis over them. -/

set_option autoImplicit false

namespace PortalApi

open Library

def optionsResponse : Response where
  status := 204
  headers := optionsHeaders
  payload := .text []

def healthResponse (connection : ConnStatusType) : Response :=
  if connection = .connectionOk then
    { status := 200
      headers := responseHeaders jsonContentType
      payload := .text (bytes "\x7b\"status\":\"ok\"\x7d") }
  else errorResponse 503 "database_unavailable" "Database is unavailable."

/-- The JSON object the request's body is parsed as, if it is. -/
def Service.parsed (service : Service) (call : Call) : Option Json :=
  call.environment.parse service.jsonC call.request.body

/-- How the handler of each endpoint ends. -/
def Endpoint.Ends (service : Service) (call : Call) (json : Option Json) (world : World)
    (reply : Option Response) (after : World) : Endpoint → Prop
  | .options => after = world ∧ Answered call.environment optionsResponse reply
  | .health => after = world ∧ Answered call.environment (healthResponse world.connection) reply
  | .topContent =>
    TopContentEnds service.postgres call.environment call.request world reply after
  | .favoriteList kind =>
    FavoriteListEnds service.postgres call.environment call.request kind world reply after
  | .logout => LogoutEnds service.postgres call.environment call.request world reply after
  | .favoriteChange kind key =>
    FavoriteChangeEnds service.postgres call.environment call.request kind key world reply after
  | .register =>
    RegisterEnds service.postgres call.environment service.context json world reply after
  | .confirm => ConfirmEnds service.postgres call.environment json world reply after
  | .login => LoginEnds service.postgres call.environment service.context json world reply after
  | .activity =>
    ActivityEnds service.postgres call.environment service.jsonC call.request json world reply after
  | .like contentId =>
    LikeEnds service.postgres call.environment call.request contentId json world reply after
  | .comment contentId =>
    CommentEnds service.postgres call.environment call.request contentId json world reply after
  | .longContentId => after = world ∧ Answered call.environment
    (errorResponse 400 "validation_error" "Invalid content id.") reply
  | .invalidJson => after = world ∧ Answered call.environment
    (errorResponse 400 "invalid_json" "A JSON object request body is required.") reply
  | .notFound => after = world ∧ Answered call.environment
    (errorResponse 404 "not_found" "Route not found.") reply

section Serve

variable {service : Service} {call : Call} {world : World}

theorem Endpoint.handler_ends (lawful : service.postgres.Lawful)
    (valid : world.database.Valid service.postgres.lower) (endpoint : Endpoint)
    (json : Option Json) :
    endpoint.Ends service call json world
      ((endpoint.handler service.context service.jsonC call.request json).run
        (interpret service.postgres call.environment) world.exchange).2.reply
      ((endpoint.handler service.context service.jsonC call.request json).run
        (interpret service.postgres call.environment) world.exchange).2.world := by
  have idle : world.exchange.Idle := ⟨rfl, rfl⟩
  cases endpoint with
  | options =>
      simp only [handler, run_portalHttpResponseOptions, Exchange.answer_world]
      exact ⟨rfl, Exchange.answer_answered idle.attempts (·.builds) _⟩
  | health =>
      simp only [handler, Program.run_bind]
      cases connected : world.connection with
      | connectionOk =>
          have good : world.exchange.world.connection = .connectionOk := connected
          rw [if_neg (by simp [good])]
          simp only [run_portalDatabaseIsConnected, run_portalHttpResponseBytes,
            Exchange.answer_world]
          refine ⟨rfl, ?_⟩
          rw [healthResponse, if_pos connected]
          exact Exchange.answer_answered idle.attempts (·.builds) _
      | connectionBad =>
          have bad : world.exchange.world.connection ≠ .connectionOk := by
            simp [World.exchange, connected]
          rw [if_pos (by simp [bad])]
          simp only [run_portalDatabaseIsConnected, run_portalHttpResponseError,
            Exchange.answer_world]
          refine ⟨rfl, ?_⟩
          rw [healthResponse, if_neg (by simp [connected])]
          exact Exchange.answer_answered idle.attempts (·.reports) _
  | topContent => exact portalHttpRouteTopContent_ends lawful valid idle
  | favoriteList kind => exact portalHttpRouteFavoriteList_ends lawful valid idle
  | logout => exact portalHttpRouteLogout_ends lawful valid idle
  | favoriteChange kind key => exact portalHttpRouteFavoriteChange_ends lawful valid idle
  | register => exact portalHttpRouteRegister_ends lawful idle.attempts
  | confirm => exact portalHttpRouteConfirm_ends valid idle.attempts
  | login => exact portalHttpRouteLogin_ends lawful valid idle.attempts
  | activity => exact portalHttpRouteActivity_ends lawful valid idle
  | like contentId => exact portalHttpRouteLike_ends lawful valid idle
  | comment contentId => exact portalHttpRouteComment_ends lawful valid idle
  | longContentId =>
      simp only [handler, run_portalHttpResponseError, Exchange.answer_world]
      exact ⟨rfl, Exchange.answer_answered idle.attempts (·.reports) _⟩
  | invalidJson =>
      simp only [handler, run_portalHttpResponseError, Exchange.answer_world]
      exact ⟨rfl, Exchange.answer_answered idle.attempts (·.reports) _⟩
  | notFound =>
      simp only [handler, run_portalHttpResponseError, Exchange.answer_world]
      exact ⟨rfl, Exchange.answer_answered idle.attempts (·.reports) _⟩

theorem Service.serve_routed (service : Service) (call : Call) {world : World}
    (lawful : service.postgres.Lawful) (valid : world.database.Valid service.postgres.lower) :
    (call.request.routed (service.parsed call)).1.Ends service call
      (call.request.routed (service.parsed call)).2 world (service.serve call world).1
      (service.serve call world).2 := by
  have ends : (call.request.routed (service.parsed call)).1.Ends service call
      (call.request.routed (service.parsed call)).2 world _ _ :=
    Endpoint.handler_ends lawful valid _ _
  simpa only [Service.serve, Service.dispatch, run_httpDispatch, Service.parsed] using ends

theorem Service.serve_ends (service : Service) (call : Call) {world : World}
    (lawful : service.postgres.Lawful) (valid : world.database.Valid service.postgres.lower) :
    ∃ endpoint json, Routes call.request (service.parsed call) endpoint json ∧
      endpoint.Ends service call json world (service.serve call world).1
        (service.serve call world).2 :=
  ⟨_, _, routed_routes, service.serve_routed call lawful valid⟩

end Serve

end PortalApi
