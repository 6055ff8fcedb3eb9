import PortalApi.Database.Redraws
import PortalApi.Http.DispatchProperties
import PortalApi.Http.Routes.AuthProperties

/-! Requests handled over two databases that differ at most in hidden
confirmation tokens: they cannot tell the one from the other. -/

set_option autoImplicit false

namespace PortalApi

open Library

def Moment.redraw (moment : Moment) (tokens : Nat → Uuid) : Moment :=
  { moment with
    genRandomUuid := fun column =>
      match column with
      | .confirmationTokensToken => tokens
      | other => moment.genRandomUuid other }

/-- The same surroundings with other draws for `confirmation_tokens.token`. -/
def Environment.redraw (environment : Environment) (tokens : Nat → Nat → Uuid) : Environment :=
  { environment with moment := fun index => (environment.moment index).redraw (tokens index) }

structure World.Alike (hidden : Uuid → Prop) (world other : World) : Prop where
  database : world.database.Alike hidden other.database
  clock : other.clock = world.clock
  connection : other.connection = world.connection

structure Exchange.Alike (hidden : Uuid → Prop) (exchange other : Exchange) : Prop where
  world : exchange.world.Alike hidden other.world
  statements : other.statements = exchange.statements
  attempts : other.attempts = exchange.attempts

/-- An operation that tells no hidden token. -/
def Operation.Discreet (postgres : Postgres) (hidden : Uuid → Prop) : Operation → Prop
  | .pqExecParams statement => statement.Discreet postgres hidden
  | _ => True

section Operations

variable {postgres : Postgres} {environment : Environment} {hidden : Uuid → Prop}
  {tokens : Nat → Nat → Uuid}

theorem World.pqExecParams_alike {β : Type} {view : PgResult → β} {world other : World}
    {moment : Moment} {statement : Statement} {draws : Nat → Uuid}
    (alike : world.Alike hidden other)
    (executed : world.connection = .connectionOk → moment.weather = .fair →
      OutcomesAlike hidden view
        (execute postgres (moment.transaction world.clock) statement world.database)
        (execute postgres ((moment.transaction world.clock).redraw draws) statement
          other.database)) :
    (other.pqExecParams postgres (moment.redraw draws) statement).1.map view =
        (world.pqExecParams postgres moment statement).1.map view ∧
      (world.pqExecParams postgres moment statement).2.Alike hidden
        (other.pqExecParams postgres (moment.redraw draws) statement).2 := by
  have same : (moment.redraw draws).transaction other.clock =
      (moment.transaction world.clock).redraw draws := by
    rw [alike.clock]
    rfl
  have later : other.clock + ((moment.redraw draws).elapsed : Int) =
      world.clock + moment.elapsed := by
    rw [alike.clock]
    rfl
  have weather : (moment.redraw draws).weather = moment.weather := rfl
  simp only [World.pqExecParams, same, later, weather, alike.connection]
  cases connected : world.connection with
  | connectionBad => exact ⟨rfl, alike.database, rfl, rfl⟩
  | connectionOk =>
      cases sky : moment.weather with
      | noResult lost => exact ⟨rfl, alike.database, rfl, rfl⟩
      | serverError sqlState lost => exact ⟨rfl, alike.database, rfl, rfl⟩
      | fair =>
          have ends := executed connected sky
          revert ends
          generalize execute postgres (moment.transaction world.clock) statement world.database =
            outcome
          generalize execute postgres ((moment.transaction world.clock).redraw draws) statement
            other.database = otherOutcome
          intro ends
          cases ends with
          | refused failure => exact ⟨rfl, alike.database, rfl, rfl⟩
          | committed shown after => exact ⟨congrArg some shown.symm, after, rfl, rfl⟩

theorem interpret_alike (operation : Operation) (discreet : operation.Discreet postgres hidden)
    (exchange other : Exchange) (alike : exchange.Alike hidden other) :
    (interpret postgres (environment.redraw tokens) operation other).1 =
        (interpret postgres environment operation exchange).1 ∧
      (interpret postgres environment operation exchange).2.Alike hidden
        (interpret postgres (environment.redraw tokens) operation other).2 := by
  cases operation with
  | allocate purpose => exact ⟨rfl, alike⟩
  | realloc buffer size => exact ⟨rfl, alike⟩
  | pqStatus => exact ⟨alike.world.connection, alike⟩
  | mhdQueueResponse response =>
      exact ⟨rfl, alike.world, alike.statements, congrArg (· ++ _) alike.attempts⟩
  | pqExecParams statement =>
      simp only [interpret, alike.statements]
      have executed : exchange.world.connection = .connectionOk →
          (environment.moment exchange.statements).weather = .fair → OutcomesAlike hidden id
            (execute postgres ((environment.moment exchange.statements).transaction
              exchange.world.clock) statement exchange.world.database)
            (execute postgres (((environment.moment exchange.statements).transaction
              exchange.world.clock).redraw (tokens exchange.statements)) statement
              other.world.database) :=
        fun _ _ => execute_alike discreet alike.world.database _
      obtain ⟨same, world⟩ := World.pqExecParams_alike alike.world executed
      rw [Option.map_id, id, id] at same
      exact ⟨same, world, rfl, alike.attempts⟩

end Operations

/-- The handler only uses operations that tell no hidden token. -/
abbrev Discreet {α : Type} (postgres : Postgres) (hidden : Uuid → Prop) (program : Handler α) :
    Prop :=
  program.Uses (Operation.Discreet postgres hidden)

section Handlers

variable {postgres : Postgres} {hidden : Uuid → Prop} (request : Request) (json : Option Json)

theorem allocate_discreet (purpose : Allocation) : Discreet postgres hidden (allocate purpose) :=
  .perform trivial

theorem portalDatabaseIsConnected_discreet :
    Discreet postgres hidden portalDatabaseIsConnected := by
  apply Program.Uses.bind (.perform trivial)
  intro status
  exact .pure _

theorem portalDatabaseQuery_discreet {statement : Statement}
    (discreet : statement.Discreet postgres hidden) :
    Discreet postgres hidden (portalDatabaseQuery statement) := by
  apply (allocate_discreet _).bind
  intro granted
  split
  · exact .perform discreet
  · exact .pure _

theorem portalHttpResponseBytes_discreet (status : Nat) (payload : Payload) (contentType : String) :
    Discreet postgres hidden (portalHttpResponseBytes status payload contentType) := by
  apply (allocate_discreet _).bind
  intro created
  split
  · apply (allocate_discreet _).bind
    intro completed
    split
    · exact .perform trivial
    · exact .pure _
  · exact .pure _

theorem portalHttpResponseError_discreet (status : Nat) (code message : String) :
    Discreet postgres hidden (portalHttpResponseError status code message) := by
  apply (allocate_discreet _).bind
  intro granted
  split
  · exact portalHttpResponseBytes_discreet _ _ _
  · exact .pure _

theorem portalHttpResponseOptions_discreet :
    Discreet postgres hidden portalHttpResponseOptions := by
  apply (allocate_discreet _).bind
  intro created
  split
  · apply (allocate_discreet _).bind
    intro completed
    split
    · exact .perform trivial
    · exact .pure _
  · exact .pure _

theorem describing_discreet (status : Nat) (json : Json) :
    Discreet postgres hidden (do
      if ← allocate .responseObject then portalHttpResponseJson status json else return .no) := by
  apply (allocate_discreet _).bind
  intro granted
  split
  · exact portalHttpResponseBytes_discreet _ _ _
  · exact .pure _

theorem portalHttpAuthenticate_discreet :
    Discreet postgres hidden (portalHttpAuthenticate request) := by
  unfold portalHttpAuthenticate
  split
  · exact .pure _
  split
  · exact .pure _
  split
  · exact .pure _
  apply (portalDatabaseQuery_discreet (by trivial)).bind
  intro result
  split
  · exact .pure _
  simp only
  split
  · exact .pure _
  · exact .pure _

theorem favoriteHasAuthenticatedUser_discreet :
    Discreet postgres hidden (favoriteHasAuthenticatedUser request) :=
  (portalHttpAuthenticate_discreet request).bind fun _ => .pure _

theorem activityLoadActor_discreet :
    Discreet postgres hidden (activityLoadActor request json) := by
  apply (portalHttpAuthenticate_discreet request).bind
  intro authenticated
  simp only
  split
  · exact .pure _
  · exact .pure _
  split
  · exact .pure _
  · exact .pure _

theorem activityActorError_discreet (authentication : PortalAuthStatus) :
    Discreet postgres hidden (activityActorError request authentication) := by
  unfold activityActorError
  split
  · exact portalHttpResponseError_discreet _ _ _
  · exact portalHttpResponseError_discreet _ _ _

theorem topContentItems_discreet (result : Option PgResult) (indices : List Nat) :
    Discreet postgres hidden (topContentItems result indices) := by
  induction indices with
  | nil => exact .pure _
  | cons index rest ih =>
      apply (allocate_discreet _).bind
      intro granted
      split
      · apply ih.bind
        intro items
        split
        · exact .pure _
        · exact .pure _
      · exact .pure _

/-- A confirmation is discreet when the token it presents is not hidden. -/
theorem portalHttpRouteConfirm_discreet
    (shown : ∀ token, (confirmText json).bind postgres.castText = some token → ¬ hidden token) :
    Discreet postgres hidden (portalHttpRouteConfirm json) := by
  unfold portalHttpRouteConfirm
  split
  · exact portalHttpResponseError_discreet _ _ _
  · next text read =>
      have present : confirmText json = some text := read
      have discreet : (Statement.confirm text).Discreet postgres hidden := by
        intro token cast
        exact shown token (by simp [present, cast])
      apply (portalDatabaseQuery_discreet discreet).bind
      intro result
      split
      · exact portalHttpResponseError_discreet _ _ _
      · exact portalHttpResponseBytes_discreet _ _ _

theorem portalHttpRouteLogin_discreet (context : PortalHttpContext) :
    Discreet postgres hidden (portalHttpRouteLogin context json) := by
  unfold portalHttpRouteLogin
  simp only
  split
  · split
    · exact portalHttpResponseError_discreet _ _ _
    split
    · exact portalHttpResponseError_discreet _ _ _
    split
    · exact portalHttpResponseError_discreet _ _ _
    apply (portalDatabaseQuery_discreet (by trivial)).bind
    intro result
    split
    · exact portalHttpResponseError_discreet _ _ _
    split
    · exact portalHttpResponseError_discreet _ _ _
    · exact describing_discreet _ _
  · exact portalHttpResponseError_discreet _ _ _

theorem portalHttpRouteLogout_discreet :
    Discreet postgres hidden (portalHttpRouteLogout request) := by
  apply (portalHttpAuthenticate_discreet request).bind
  intro authenticated
  simp only
  split
  · exact portalHttpResponseError_discreet _ _ _
  apply (portalDatabaseQuery_discreet (by trivial)).bind
  intro result
  split
  · exact portalHttpResponseError_discreet _ _ _
  · exact portalHttpResponseBytes_discreet _ _ _

theorem portalHttpRouteFavoriteList_discreet (kind : PortalFavoriteKind) :
    Discreet postgres hidden (portalHttpRouteFavoriteList request kind) := by
  apply (favoriteHasAuthenticatedUser_discreet request).bind
  intro authenticated
  simp only
  split
  · exact portalHttpResponseError_discreet _ _ _
  apply (portalDatabaseQuery_discreet (by trivial)).bind
  intro result
  split
  · exact portalHttpResponseError_discreet _ _ _
  apply (allocate_discreet _).bind
  intro response
  apply (allocate_discreet _).bind
  intro items
  split
  · exact .pure _
  · exact portalHttpResponseBytes_discreet _ _ _

theorem portalHttpRouteFavoriteChange_discreet (kind : PortalFavoriteKind) (key : Bytes) :
    Discreet postgres hidden (portalHttpRouteFavoriteChange request kind key) := by
  apply (favoriteHasAuthenticatedUser_discreet request).bind
  intro authenticated
  simp only
  split
  · exact portalHttpResponseError_discreet _ _ _
  split
  · exact portalHttpResponseError_discreet _ _ _
  have discreet : ∀ put : Prop, [Decidable put] → Statement.Discreet postgres hidden
      (if put then .favoriteInsert kind authenticated.2.id key
        else .favoriteDelete kind authenticated.2.id key) := by
    intro put _
    split <;> trivial
  apply (portalDatabaseQuery_discreet (discreet _)).bind
  intro result
  split
  · exact portalHttpResponseError_discreet _ _ _
  · exact portalHttpResponseBytes_discreet _ _ _

theorem portalHttpRouteActivity_discreet (jsonC : JsonC) :
    Discreet postgres hidden (portalHttpRouteActivity jsonC request json) := by
  unfold portalHttpRouteActivity
  simp only
  split
  · exact portalHttpResponseError_discreet _ _ _
  apply (activityLoadActor_discreet request json).bind
  intro loaded
  split
  · exact activityActorError_discreet _ _
  split
  · exact portalHttpResponseError_discreet _ _ _
  apply (portalDatabaseQuery_discreet (by trivial)).bind
  intro result
  split
  · exact portalHttpResponseError_discreet _ _ _
  · exact describing_discreet _ _

theorem portalHttpRouteLike_discreet (contentId : Bytes) :
    Discreet postgres hidden (portalHttpRouteLike request contentId json) := by
  unfold portalHttpRouteLike
  simp only
  split
  · exact portalHttpResponseError_discreet _ _ _
  apply (activityLoadActor_discreet request json).bind
  intro loaded
  split
  · exact activityActorError_discreet _ _
  split
  · exact portalHttpResponseError_discreet _ _ _
  apply (portalDatabaseQuery_discreet (by split <;> trivial)).bind
  intro result
  split
  · exact portalHttpResponseError_discreet _ _ _
  · exact portalHttpResponseBytes_discreet _ _ _

theorem portalHttpRouteComment_discreet (contentId : Bytes) :
    Discreet postgres hidden (portalHttpRouteComment request contentId json) := by
  unfold portalHttpRouteComment
  simp only
  split
  · exact portalHttpResponseError_discreet _ _ _
  apply (activityLoadActor_discreet request json).bind
  intro loaded
  split
  · exact activityActorError_discreet _ _
  apply (portalDatabaseQuery_discreet (by trivial)).bind
  intro result
  split
  · exact portalHttpResponseError_discreet _ _ _
  · exact describing_discreet _ _

theorem portalHttpRouteTopContent_discreet :
    Discreet postgres hidden (portalHttpRouteTopContent request) := by
  unfold portalHttpRouteTopContent
  apply (portalHttpAuthenticate_discreet request).bind
  intro authenticated
  simp only
  split
  · exact portalHttpResponseError_discreet _ _ _
  split
  · exact portalHttpResponseError_discreet _ _ _
  split
  · split
    · exact portalHttpResponseError_discreet _ _ _
    apply (portalDatabaseQuery_discreet (by trivial)).bind
    intro result
    split
    · exact portalHttpResponseError_discreet _ _ _
    apply (allocate_discreet _).bind
    intro response
    apply (allocate_discreet _).bind
    intro array
    split
    · exact .pure _
    apply (topContentItems_discreet _ _).bind
    intro items
    split
    · exact .pure _
    · exact portalHttpResponseBytes_discreet _ _ _
  · exact portalHttpResponseError_discreet _ _ _

/-- Every handler but the one of the registration is discreet, unless it is given
a hidden token to confirm. -/
theorem Endpoint.handler_discreet (context : PortalHttpContext) (jsonC : JsonC)
    {endpoint : Endpoint} (other : endpoint ≠ .register)
    (shown : endpoint = .confirm → ∀ token,
      (confirmText json).bind postgres.castText = some token → ¬ hidden token) :
    Discreet postgres hidden (endpoint.handler context jsonC request json) := by
  cases endpoint with
  | options => exact portalHttpResponseOptions_discreet
  | health =>
      apply portalDatabaseIsConnected_discreet.bind
      intro connected
      split
      · exact portalHttpResponseError_discreet _ _ _
      · exact portalHttpResponseBytes_discreet _ _ _
  | topContent => exact portalHttpRouteTopContent_discreet request
  | favoriteList kind => exact portalHttpRouteFavoriteList_discreet request kind
  | logout => exact portalHttpRouteLogout_discreet request
  | favoriteChange kind key => exact portalHttpRouteFavoriteChange_discreet request kind key
  | register => exact absurd rfl other
  | confirm => exact portalHttpRouteConfirm_discreet json (shown rfl)
  | login => exact portalHttpRouteLogin_discreet json context
  | activity => exact portalHttpRouteActivity_discreet request json jsonC
  | like contentId => exact portalHttpRouteLike_discreet request json contentId
  | comment contentId => exact portalHttpRouteComment_discreet request json contentId
  | longContentId => exact portalHttpResponseError_discreet _ _ _
  | invalidJson => exact portalHttpResponseError_discreet _ _ _
  | notFound => exact portalHttpResponseError_discreet _ _ _

end Handlers

end PortalApi
