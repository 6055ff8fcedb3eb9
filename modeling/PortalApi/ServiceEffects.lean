import PortalApi.ServiceProperties

/-! The effects of one request: what it changed in the tables, on whose behalf,
and what it was answered. -/

set_option autoImplicit false

namespace PortalApi

open Library

/-- The JSON that the handlers behind the body parser are given. -/
def Service.body (service : Service) (call : Call) : Option Json :=
  if bodyExpected call.request then service.parsed call else none

/-- A method that the service never writes for. -/
def Request.Reads (request : Request) : Prop :=
  request.method = bytes "GET" ∨ request.method = bytes "OPTIONS"

section Effects

variable (service : Service) (call : Call) (world : World)

structure Registered (fields : RegisterFields) (transaction : Transaction)
    (reply : Option Response) (after : World) : Prop where
  request : call.request.At "POST" "/auth/register"
  read : registerFields (service.body call) = some fields
  encoded : (fields.statement service.config).Encoded
  offered : call.environment.Offers transaction
  now : transaction.now = after.clock
  clock : world.clock ≤ after.clock
  freshUser : ∀ row ∈ world.database.users,
    row.id ≠ (fields.user service.postgres transaction).id ∧ row.email ≠ fields.email
  freshToken : ∀ row ∈ world.database.confirmationTokens,
    row.token ≠ (service.config.confirmationToken transaction).token
  database : after.database = { world.database with
    users := world.database.users ++ [fields.user service.postgres transaction]
    confirmationTokens := world.database.confirmationTokens ++
      [service.config.confirmationToken transaction] }
  answered : Answered call.environment
    (registerResponse service.postgres service.context
      (service.config.confirmationToken transaction)) reply

structure Confirmed (row : ConfirmationTokenRow) (user : UserRow) (transaction : Transaction)
    (reply : Option Response) (after : World) : Prop where
  request : call.request.At "POST" "/auth/confirm"
  presented : (confirmText (service.body call)).bind service.postgres.castText = some row.token
  now : transaction.now = after.clock
  clock : world.clock ≤ after.clock
  row_mem : row ∈ world.database.confirmationTokens
  unconsumed : row.consumedAt = none
  unexpired : after.clock < row.expiresAt
  user_mem : user ∈ world.database.users
  owner : user.id = row.userId
  database : after.database = world.database.confirm transaction row
  answered : Answered call.environment confirmedResponse reply

structure LoggedIn (fields : LoginFields) (user : UserRow) (transaction : Transaction)
    (reply : Option Response) (after : World) : Prop where
  request : call.request.At "POST" "/auth/login"
  read : loginFields (service.body call) = some fields
  offered : call.environment.Offers transaction
  now : transaction.now = after.clock
  clock : world.clock ≤ after.clock
  user_mem : user ∈ world.database.users
  accepted : candidate service.postgres fields.email fields.password user = true
  fresh : ∀ row ∈ world.database.authSessions,
    row.token ≠ (service.config.session transaction user).token
  database : after.database = { world.database with
    authSessions := world.database.authSessions ++ [service.config.session transaction user] }
  answered : Answered call.environment
    (loginResponse service.postgres (service.config.session transaction user)) reply

/-- The session that lets a request in, looked up no later than it ends. -/
structure LetIn (token : Uuid) (session : AuthSessionRow) (user : UserRow) (after : World) :
    Prop where
  admitted : ∃ text middle,
    Admitted service.postgres call.environment call.request world text token session user middle ∧
      middle.clock ≤ after.clock

structure LoggedOut (token : Uuid) (session : AuthSessionRow) (user : UserRow)
    (transaction : Transaction) (reply : Option Response) (after : World) : Prop where
  request : call.request.At "DELETE" "/auth/session"
  letIn : LetIn service call world token session user after
  now : transaction.now = after.clock
  database : after.database = world.database.logout transaction token
  answered : Answered call.environment (textResponse 204 []) reply

/-- The favorite that a change is about. -/
structure ChangesFavorite (kind : PortalFavoriteKind) (user : UserRow) (key : Bytes)
    (reply : Option Response) (after : World) : Prop where
  url : call.request.url = bytes kind.path ++ bytes "/" ++ key
  letIn : ∃ token session, LetIn service call world token session user after
  valid : portalValidationKey (some key) 160 = true
  answered : Answered call.environment (textResponse 204 []) reply

/-- The actor of a request, established no later than it ends. -/
structure ActsAs (actor : Actor) (after : World) : Prop where
  acts : ∃ middle, Acts service.postgres call.environment call.request (service.body call) world actor middle ∧
    middle.clock ≤ after.clock

structure Recorded (fields : ActivityFields) (actor : Actor) (event : ActivityEventRow)
    (reply : Option Response) (after : World) : Prop where
  request : call.request.At "POST" "/activity"
  read : activityFields (service.body call) = some fields
  acts : ActsAs service call world actor after
  event_eq : ∃ transaction data stored, transaction.now = after.clock ∧
    activityEventData service.jsonC (service.body call) = some data ∧
    service.postgres.jsonbIn data = some stored ∧
    event = fields.event transaction world.database actor stored
  database : after.database = { world.database with
    activityEvents := world.database.activityEvents ++ [event] }
  answered : Answered call.environment (eventResponse event) reply

/-- The like that a request is about, and who sends it. -/
structure ChangesLike (contentId : Bytes) (actor : Actor) (reply : Option Response)
    (after : World) : Prop where
  content : call.request.OnContent contentId "/like"
  valid : portalValidationKey (some contentId) 300 = true
  acts : ActsAs service call world actor after
  answered : Answered call.environment (textResponse 204 []) reply

structure Commented (fields : CommentFields) (contentId : Bytes) (actor : Actor)
    (comment : CommentRow) (event : ActivityEventRow) (reply : Option Response) (after : World) :
    Prop where
  method : call.request.method = bytes "POST"
  content : call.request.OnContent contentId "/comments"
  read : commentFields contentId (service.body call) = some fields
  acts : ActsAs service call world actor after
  rows_eq : ∃ transaction, transaction.now = after.clock ∧
    comment = fields.comment transaction actor contentId ∧
    event = actor.derivedEvent transaction world.database fields.portalKey (bytes "comment")
      contentId
  fresh : ∀ row ∈ world.database.comments, row.id ≠ comment.id
  database : after.database = { world.database with
    comments := world.database.comments ++ [comment]
    activityEvents := world.database.activityEvents ++ [event] }
  answered : Answered call.environment (commentResponse service.postgres comment) reply

inductive Effect : Option Response → World → Prop where
  | kept {reply : Option Response} {after : World} : world.Kept after →
      (∀ response, reply = some response → 400 ≤ response.status ∨ call.request.Reads) →
      Effect reply after
  | registered {fields : RegisterFields} {transaction : Transaction} {reply : Option Response}
      {after : World} : Registered service call world fields transaction reply after →
      Effect reply after
  | confirmed {row : ConfirmationTokenRow} {user : UserRow} {transaction : Transaction}
      {reply : Option Response} {after : World} :
      Confirmed service call world row user transaction reply after → Effect reply after
  | loggedIn {fields : LoginFields} {user : UserRow} {transaction : Transaction}
      {reply : Option Response} {after : World} :
      LoggedIn service call world fields user transaction reply after → Effect reply after
  | loggedOut {token : Uuid} {session : AuthSessionRow} {user : UserRow}
      {transaction : Transaction} {reply : Option Response} {after : World} :
      LoggedOut service call world token session user transaction reply after →
      Effect reply after
  | favoriteAdded {kind : PortalFavoriteKind} {user : UserRow} {key : Bytes}
      {reply : Option Response} {after : World} :
      ChangesFavorite service call world kind user key reply after →
      call.request.method = bytes "PUT" →
      (∀ row ∈ world.database.favorites kind, ¬ (row.userId = user.id ∧ row.key = key)) →
      after.database = world.database.setFavorites kind (world.database.favorites kind ++
        [{ userId := user.id, key, createdAt := after.clock }]) →
      Effect reply after
  | favoritePresent {kind : PortalFavoriteKind} {user : UserRow} {key : Bytes}
      {reply : Option Response} {after : World} :
      ChangesFavorite service call world kind user key reply after →
      call.request.method = bytes "PUT" →
      (∃ row ∈ world.database.favorites kind, row.userId = user.id ∧ row.key = key) →
      after.database = world.database → Effect reply after
  | favoriteRemoved {kind : PortalFavoriteKind} {user : UserRow} {key : Bytes}
      {reply : Option Response} {after : World} :
      ChangesFavorite service call world kind user key reply after →
      call.request.method = bytes "DELETE" →
      after.database = world.database.removeFavorite kind user.id key → Effect reply after
  | recorded {fields : ActivityFields} {actor : Actor} {event : ActivityEventRow}
      {reply : Option Response} {after : World} :
      Recorded service call world fields actor event reply after → Effect reply after
  | liked {contentId portalKey : Bytes} {actor : Actor} {transaction : Transaction}
      {reply : Option Response} {after : World} :
      ChangesLike service call world contentId actor reply after →
      call.request.method = bytes "PUT" →
      portalKeyField (service.body call) = some portalKey → transaction.now = after.clock →
      (∀ row ∈ world.database.contentLikes,
        ¬ (row.contentId = contentId ∧ row.actorKey = actor.key service.postgres)) →
      after.database = { world.database with
        contentLikes := world.database.contentLikes ++
          [actor.like service.postgres transaction world.database contentId]
        activityEvents := world.database.activityEvents ++
          [actor.derivedEvent transaction world.database portalKey (bytes "like") contentId] } →
      Effect reply after
  | likePresent {contentId portalKey : Bytes} {actor : Actor} {reply : Option Response}
      {after : World} : ChangesLike service call world contentId actor reply after →
      call.request.method = bytes "PUT" →
      portalKeyField (service.body call) = some portalKey →
      (∃ row ∈ world.database.contentLikes,
        row.contentId = contentId ∧ row.actorKey = actor.key service.postgres) →
      after.database = world.database → Effect reply after
  | unliked {contentId : Bytes} {actor : Actor} {reply : Option Response} {after : World} :
      ChangesLike service call world contentId actor reply after →
      call.request.method = bytes "DELETE" →
      after.database = world.database.unlike contentId (actor.key service.postgres) →
      Effect reply after
  | commented {fields : CommentFields} {contentId : Bytes} {actor : Actor} {comment : CommentRow}
      {event : ActivityEventRow} {reply : Option Response} {after : World} :
      Commented service call world fields contentId actor comment event reply after →
      Effect reply after

end Effects

section Exits

variable {service : Service} {call : Call} {world after : World} {reply : Option Response}

theorem Effect.refused {response : Response} (kept : world.Kept after)
    (answered : Answered call.environment response reply) (error : 400 ≤ response.status) :
    Effect service call world reply after :=
  .kept kept fun _ given => .inl (answered.reply_eq given ▸ error)

theorem Effect.read (kept : world.Kept after) (reads : call.request.Reads) :
    Effect service call world reply after :=
  .kept kept fun _ _ => .inr reads

theorem topContentEnds_effect (reads : call.request.Reads)
    (ends : TopContentEnds service.postgres call.environment call.request world reply after) :
    Effect service call world reply after := by
  cases ends with
  | unauthorized refused _ => exact .read refused.kept reads
  | invalidPortal admitted _ _ => exact .read admitted.kept reads
  | invalidRange admitted _ _ _ => exact .read admitted.kept reads
  | failed admitted _ _ _ failed _ => exact .read (admitted.kept.trans failed.kept) reads
  | listed _ _ _ _ kept _ _ => exact .read kept reads

theorem favoriteListEnds_effect {kind : PortalFavoriteKind} (reads : call.request.Reads)
    (ends : FavoriteListEnds service.postgres call.environment call.request kind world reply after) :
    Effect service call world reply after := by
  cases ends with
  | unauthorized refused _ => exact .read refused.kept reads
  | failed admitted failed _ => exact .read (admitted.kept.trans failed.kept) reads
  | listed _ kept _ _ _ => exact .read kept reads

theorem registerFailure_status (result : Option PgResult) :
    400 ≤ (registerFailure result).status := by
  unfold registerFailure
  split <;> decide

theorem registerEnds_effect (request : call.request.At "POST" "/auth/register")
    (ends : RegisterEnds service.postgres call.environment service.context (service.body call)
      world reply after) : Effect service call world reply after := by
  cases ends with
  | invalid _ answered => exact .refused (.refl _) answered (by decide)
  | failed _ failed answered => exact .refused failed.kept answered (registerFailure_status _)
  | created read encoded offered now clock _ freshUser freshToken database answered =>
      exact .registered ⟨request, read, encoded, offered, now, clock, freshUser, freshToken, database,
        answered⟩

theorem confirmEnds_effect (request : call.request.At "POST" "/auth/confirm")
    (ends : ConfirmEnds service.postgres call.environment (service.body call) world reply after) :
    Effect service call world reply after := by
  cases ends with
  | invalid _ answered => exact .refused (.refl _) answered (by decide)
  | rejected _ kept _ answered => exact .refused kept answered (by decide)
  | confirmed read cast _ now clock _ stored unconsumed unexpired known owner database answered =>
      exact .confirmed ⟨request, by simp [read, cast], now, clock, stored, unconsumed, unexpired,
        known, owner, database, answered⟩

theorem loginEnds_effect (request : call.request.At "POST" "/auth/login")
    (ends : LoginEnds service.postgres call.environment service.context (service.body call)
      world reply after) : Effect service call world reply after := by
  cases ends with
  | invalid _ answered => exact .refused (.refl _) answered (by decide)
  | failed _ failed answered => exact .refused failed.kept answered (by decide)
  | denied _ _ kept _ _ answered => exact .refused kept answered (by decide)
  | opened read _ offered now clock _ known accepted fresh database answered =>
      exact .loggedIn ⟨request, read, offered, now, clock, known, accepted, fresh, database,
        answered⟩

theorem logoutEnds_effect (request : call.request.At "DELETE" "/auth/session")
    (ends : LogoutEnds service.postgres call.environment call.request world reply after) :
    Effect service call world reply after := by
  cases ends with
  | unauthorized refused answered => exact .refused refused.kept answered (by decide)
  | failed admitted failed answered =>
      exact .refused (admitted.kept.trans failed.kept) answered (by decide)
  | closed admitted _ now later _ database answered =>
      exact .loggedOut ⟨request, ⟨_, _, admitted, later⟩, now, database, answered⟩

theorem favoriteChangeEnds_effect {kind : PortalFavoriteKind} {key : Bytes}
    (changes : call.request.Changes)
    (url : call.request.url = bytes kind.path ++ bytes "/" ++ key)
    (ends : FavoriteChangeEnds service.postgres call.environment call.request kind key world reply
      after) : Effect service call world reply after := by
  have deletes : call.request.isPut = false → call.request.method = bytes "DELETE" := by
    intro other
    exact changes.resolve_left (by simpa [Request.isPut] using other)
  cases ends with
  | unauthorized refused answered => exact .refused refused.kept answered (by decide)
  | invalidKey admitted _ answered => exact .refused admitted.kept answered (by decide)
  | failed admitted _ failed answered =>
      exact .refused (admitted.kept.trans failed.kept) answered (show 400 ≤ 500 by decide)
  | added admitted put valid later _ absent database answered =>
      exact .favoriteAdded ⟨url, ⟨_, _, _, _, admitted, later⟩, valid, answered⟩
        (by simpa [Request.isPut] using put) absent database
  | present admitted put valid later same _ stored answered =>
      exact .favoritePresent ⟨url, ⟨_, _, _, _, admitted, later⟩, valid, answered⟩
        (by simpa [Request.isPut] using put) stored same
  | removed admitted other valid later _ database answered =>
      exact .favoriteRemoved ⟨url, ⟨_, _, _, _, admitted, later⟩, valid, answered⟩
        (deletes other) database

theorem ActorRefused.status {response : Response} {json : Option Json}
    (refused : ActorRefused service.postgres call.environment call.request json world response
      after) : 400 ≤ response.status ∧ response.status < 500 := by
  cases refused <;> decide

theorem activityEnds_effect (request : call.request.At "POST" "/activity")
    (ends : ActivityEnds service.postgres call.environment service.jsonC call.request
      (service.body call) world reply after) : Effect service call world reply after := by
  cases ends with
  | invalid _ answered => exact .refused (.refl _) answered (by decide)
  | refused _ refused answered => exact .refused refused.kept answered refused.status.1
  | invalidData _ acts _ answered => exact .refused acts.kept answered (by decide)
  | failed _ acts _ failed answered =>
      exact .refused (acts.kept.trans failed.kept) answered (by decide)
  | recorded read acts data _ stored now later _ database answered =>
      exact .recorded ⟨request, read, ⟨_, acts, later⟩, ⟨_, _, _, now, data, stored, rfl⟩,
        database, answered⟩

theorem likeEnds_effect {contentId : Bytes} (changes : call.request.Changes)
    (content : call.request.OnContent contentId "/like")
    (ends : LikeEnds service.postgres call.environment call.request contentId
      (service.body call) world reply after) : Effect service call world reply after := by
  have deletes : call.request.isPut = false → call.request.method = bytes "DELETE" := by
    intro other
    exact changes.resolve_left (by simpa [Request.isPut] using other)
  cases ends with
  | invalid _ answered => exact .refused (.refl _) answered (by decide)
  | refused _ refused answered => exact .refused refused.kept answered refused.status.1
  | invalidPortal _ acts _ _ answered => exact .refused acts.kept answered (by decide)
  | failed _ acts _ failed answered =>
      exact .refused (acts.kept.trans failed.kept) answered (show 400 ≤ 500 by decide)
  | liked valid acts put portal now later _ absent database answered =>
      exact .liked ⟨content, valid, ⟨_, acts, later⟩, answered⟩
        (by simpa [Request.isPut] using put) portal now absent database
  | present valid acts put portal later same _ stored answered =>
      exact .likePresent ⟨content, valid, ⟨_, acts, later⟩, answered⟩
        (by simpa [Request.isPut] using put) portal stored same
  | unliked valid acts other later _ database answered =>
      exact .unliked ⟨content, valid, ⟨_, acts, later⟩, answered⟩ (deletes other) database

theorem commentEnds_effect {contentId : Bytes} (method : call.request.method = bytes "POST")
    (content : call.request.OnContent contentId "/comments")
    (ends : CommentEnds service.postgres call.environment call.request contentId
      (service.body call) world reply after) : Effect service call world reply after := by
  cases ends with
  | invalid _ answered => exact .refused (.refl _) answered (by decide)
  | refused _ refused answered => exact .refused refused.kept answered refused.status.1
  | failed _ acts failed answered =>
      exact .refused (acts.kept.trans failed.kept) answered (by decide)
  | commented read acts _ _ now later _ fresh database answered =>
      exact .commented ⟨method, content, read, ⟨_, acts, later⟩, ⟨_, now, rfl, rfl⟩, fresh,
        database, answered⟩

end Exits

theorem Service.body_post {service : Service} {call : Call}
    (method : call.request.method = bytes "POST") : service.body call = service.parsed call := by
  simp [Service.body, bodyExpected, method]

theorem Service.serve_post {service : Service} {call : Call} {world : World} {url : String}
    {endpoint : Endpoint} {json : Json} (lawful : service.postgres.Lawful)
    (valid : world.database.Valid service.postgres.lower) (post : call.request.At "POST" url)
    (listed : (url, endpoint) ∈ postEndpoints) (body : service.body call = some json) :
    endpoint.Ends service call (service.body call) world (service.serve call world).1
      (service.serve call world).2 := by
  have parsed : service.parsed call = some json := Service.body_post post.method ▸ body
  have ends := service.serve_routed call lawful valid
  rw [routed_post post listed, parsed] at ends
  rw [body]
  exact ends

theorem Service.serve_effect (service : Service) (call : Call) {world : World}
    (lawful : service.postgres.Lawful) (valid : world.database.Valid service.postgres.lower) :
    Effect service call world (service.serve call world).1 (service.serve call world).2 := by
  obtain ⟨endpoint, json, routes, ends⟩ := service.serve_ends call lawful valid
  cases routes with
  | options method => exact .read (.of_eq ends.1) (.inr method)
  | health request => exact .read (.of_eq ends.1) (.inl request.method)
  | topContent request => exact topContentEnds_effect (.inl request.method) ends
  | favoriteList request => exact favoriteListEnds_effect (.inl request.method) ends
  | logout request => exact logoutEnds_effect request ends
  | favoriteChange changes url => exact favoriteChangeEnds_effect changes url ends
  | register request parsed =>
      exact registerEnds_effect request (Service.body_post request.method ▸ parsed ▸ ends)
  | confirm request parsed =>
      exact confirmEnds_effect request (Service.body_post request.method ▸ parsed ▸ ends)
  | login request parsed =>
      exact loginEnds_effect request (Service.body_post request.method ▸ parsed ▸ ends)
  | activity request parsed =>
      exact activityEnds_effect request (Service.body_post request.method ▸ parsed ▸ ends)
  | like changes content short body =>
      subst body
      exact likeEnds_effect changes content ends
  | comment method content short parsed =>
      exact commentEnds_effect method content (Service.body_post method ▸ parsed ▸ ends)
  | longContentId => exact .refused (.of_eq ends.1) ends.2 (show 400 ≤ 400 by decide)
  | invalidJson => exact .refused (.of_eq ends.1) ends.2 (show 400 ≤ 400 by decide)
  | notFound => exact .refused (.of_eq ends.1) ends.2 (show 400 ≤ 404 by decide)

end PortalApi
