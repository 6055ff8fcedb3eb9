import PortalApi.Accounts

/-! What the effects do to events, likes and comments, and that every row of
these tables names the one actor it belongs to. -/

set_option autoImplicit false

namespace PortalApi

open Library

/-- A row with these two columns belongs to the actor. -/
structure Actor.Owns (actor : Actor) (userId : Option Uuid) (anonymousId : Option Bytes) :
    Prop where
  userId : userId = actor.userId
  anonymousId : anonymousId = actor.anonymousId

/-- Every event, like and comment belongs to an actor, and a like is keyed by it. -/
structure Database.Attributed (postgres : Postgres) (database : Database) : Prop where
  events : ∀ row ∈ database.activityEvents, ∃ actor : Actor, actor.Owns row.userId row.anonymousId
  likes : ∀ row ∈ database.contentLikes, ∃ actor : Actor,
    actor.Owns row.userId row.anonymousId ∧ row.actorKey = actor.key postgres
  comments : ∀ row ∈ database.comments, ∃ actor : Actor, actor.Owns row.userId row.anonymousId

/-- A request with this method for this action on a content was answered with
this status. -/
structure AnsweredOn (call : Call) (reply : Option Response) (method : String)
    (contentId : Bytes) (action : String) (status : Nat) : Prop where
  method : call.request.method = bytes method
  content : call.request.OnContent contentId action
  status : statusOf reply = some status

/-- The answers to the requests that work on likes and comments. -/
def contentAnswers : List (String × String × Nat) :=
  [("PUT", "/like", 204), ("DELETE", "/like", 204), ("POST", "/comments", 201)]

/-- A request that left events, likes and comments alone, and was not answered
as one that works on likes or comments. -/
structure Inactive (call : Call) (world : World) (reply : Option Response) (after : World) :
    Prop where
  activityEvents : after.database.activityEvents = world.database.activityEvents
  contentLikes : after.database.contentLikes = world.database.contentLikes
  comments : after.database.comments = world.database.comments
  answered : ∀ answer ∈ contentAnswers, ∀ contentId,
    ¬ AnsweredOn call reply answer.1 contentId answer.2.1 answer.2.2

/-- A like that was stored with its event. -/
structure Liked (service : Service) (call : Call) (world : World) (contentId portalKey : Bytes)
    (actor : Actor) (transaction : Transaction) (reply : Option Response) (after : World) :
    Prop where
  change : ChangesLike service call world contentId actor reply after
  method : call.request.method = bytes "PUT"
  portal : portalKeyField (service.body call) = some portalKey
  now : transaction.now = after.clock
  absent : ∀ row ∈ world.database.contentLikes,
    ¬ (row.contentId = contentId ∧ row.actorKey = actor.key service.postgres)
  database : after.database = { world.database with
    contentLikes := world.database.contentLikes ++
      [actor.like service.postgres transaction world.database contentId]
    activityEvents := world.database.activityEvents ++
      [actor.derivedEvent transaction world.database portalKey (bytes "like") contentId] }

inductive ActionEffect (service : Service) (call : Call) (world : World) :
    Option Response → World → Prop where
  | recorded {fields : ActivityFields} {actor : Actor} {event : ActivityEventRow}
      {reply : Option Response} {after : World} :
      Recorded service call world fields actor event reply after →
      ActionEffect service call world reply after
  | liked {contentId portalKey : Bytes} {actor : Actor} {transaction : Transaction}
      {reply : Option Response} {after : World} :
      Liked service call world contentId portalKey actor transaction reply after →
      ActionEffect service call world reply after
  | likePresent {contentId portalKey : Bytes} {actor : Actor} {reply : Option Response}
      {after : World} : ChangesLike service call world contentId actor reply after →
      call.request.method = bytes "PUT" →
      portalKeyField (service.body call) = some portalKey →
      (∃ row ∈ world.database.contentLikes,
        row.contentId = contentId ∧ row.actorKey = actor.key service.postgres) →
      after.database = world.database → ActionEffect service call world reply after
  | unliked {contentId : Bytes} {actor : Actor} {reply : Option Response} {after : World} :
      ChangesLike service call world contentId actor reply after →
      call.request.method = bytes "DELETE" →
      after.database = world.database.unlike contentId (actor.key service.postgres) →
      ActionEffect service call world reply after
  | commented {fields : CommentFields} {contentId : Bytes} {actor : Actor} {comment : CommentRow}
      {event : ActivityEventRow} {reply : Option Response} {after : World} :
      Commented service call world fields contentId actor comment event reply after →
      ActionEffect service call world reply after
  | inactive {reply : Option Response} {after : World} : Inactive call world reply after →
      ActionEffect service call world reply after

section Owners

variable {actor other : Actor} {userId : Option Uuid} {anonymousId : Option Bytes}

theorem Actor.owns_self (actor : Actor) : actor.Owns actor.userId actor.anonymousId where
  userId := rfl
  anonymousId := rfl

theorem Actor.Owns.unique (first : actor.Owns userId anonymousId)
    (second : other.Owns userId anonymousId) : actor = other := by
  have users : actor.userId = other.userId := first.userId.symm.trans second.userId
  have ids : actor.anonymousId = other.anonymousId := first.anonymousId.symm.trans second.anonymousId
  cases actor with
  | user id =>
      cases other with
      | user same => rw [Option.some.inj users]
      | anonymous _ => cases users
  | anonymous id =>
      cases other with
      | user _ => cases users
      | anonymous same => rw [Subtype.ext (Option.some.inj ids)]

theorem Actor.Owns.exclusive (owns : actor.Owns userId anonymousId) {id : Uuid}
    (named : userId = some id) : anonymousId = none := by
  cases actor with
  | user _ => exact owns.anonymousId
  | anonymous _ => cases owns.userId.symm.trans named

end Owners

section Frames

variable {service : Service} {call : Call} {world after : World} {reply : Option Response}

private theorem AnsweredOn.not_at {method action : String} {contentId : Bytes} {status : Nat}
    (answered : AnsweredOn call reply method contentId action status) {otherMethod url : String}
    (request : call.request.At otherMethod url) (outside : ¬ bytes "/content/" <+: bytes url) :
    False :=
  answered.content.not_at request outside

private theorem inactive_at {method url : String} (request : call.request.At method url)
    (outside : ¬ bytes "/content/" <+: bytes url)
    (activityEvents : after.database.activityEvents = world.database.activityEvents)
    (contentLikes : after.database.contentLikes = world.database.contentLikes)
    (comments : after.database.comments = world.database.comments) :
    Inactive call world reply after where
  activityEvents := activityEvents
  contentLikes := contentLikes
  comments := comments
  answered _ _ _ given := given.not_at request outside

theorem Request.OnContent.not_favorite {request : Request} {contentId : Bytes} {action : String}
    (content : request.OnContent contentId action) {kind : PortalFavoriteKind} {key : Bytes}
    (url : request.url = bytes kind.path ++ bytes "/" ++ key) : False := by
  have same := (congrArg (List.take 2) (content.url.symm.trans url))
  have start : bytes "/content/" = 47 :: 99 :: bytes "ontent/" := by decide
  cases kind with
  | favoriteSection =>
      have path : bytes (PortalFavoriteKind.path .favoriteSection) =
          47 :: 109 :: bytes "e/favorite-sections" := by decide
      simp [start, path] at same
  | favoriteTag =>
      have path : bytes (PortalFavoriteKind.path .favoriteTag) =
          47 :: 109 :: bytes "e/favorite-tags" := by decide
      simp [start, path] at same

private theorem ChangesFavorite.inactive {kind : PortalFavoriteKind} {user : UserRow} {key : Bytes}
    {rows : List FavoriteRow} (change : ChangesFavorite service call world kind user key reply after)
    (database : after.database = world.database.setFavorites kind rows) :
    Inactive call world reply after where
  activityEvents := by simp [database]
  contentLikes := by simp [database]
  comments := by simp [database]
  answered _ _ _ given := given.content.not_favorite change.url

/-- Events, likes and comments change by the requests that are about them only. -/
theorem Effect.actions (effect : Effect service call world reply after) :
    ActionEffect service call world reply after := by
  cases effect with
  | recorded recorded => exact .recorded recorded
  | liked change put portal now absent database =>
      exact .liked ⟨change, put, portal, now, absent, database⟩
  | likePresent change put portal stored same => exact .likePresent change put portal stored same
  | unliked change delete database => exact .unliked change delete database
  | commented commented => exact .commented commented
  | kept kept silent =>
      refine .inactive ⟨by rw [kept.database], by rw [kept.database], by rw [kept.database], ?_⟩
      have success : ∀ answer ∈ contentAnswers, answer.2.2 < 400 ∧
          bytes answer.1 ≠ bytes "GET" ∧ bytes answer.1 ≠ bytes "OPTIONS" := by decide
      intro answer member contentId given
      obtain ⟨low, get, options⟩ := success answer member
      have sent := given.status
      cases reply with
      | none => cases sent
      | some response =>
          have same : response.status = answer.2.2 := by simpa [statusOf] using sent
          cases silent response rfl with
          | inl error => omega
          | inr reads =>
              cases reads with
              | inl read => exact get (given.method.symm.trans read)
              | inr read => exact options (given.method.symm.trans read)
  | registered registered =>
      exact .inactive (inactive_at registered.request (by decide) (by rw [registered.database])
        (by rw [registered.database]) (by rw [registered.database]))
  | confirmed confirmed =>
      exact .inactive (inactive_at confirmed.request (by decide)
        (by rw [confirmed.database, Database.confirm]) (by rw [confirmed.database, Database.confirm])
        (by rw [confirmed.database, Database.confirm]))
  | loggedIn loggedIn =>
      exact .inactive (inactive_at loggedIn.request (by decide) (by rw [loggedIn.database])
        (by rw [loggedIn.database]) (by rw [loggedIn.database]))
  | loggedOut loggedOut =>
      exact .inactive (inactive_at loggedOut.request (by decide)
        (by rw [loggedOut.database, Database.logout]) (by rw [loggedOut.database, Database.logout])
        (by rw [loggedOut.database, Database.logout]))
  | favoriteAdded change _ _ database => exact .inactive (change.inactive database)
  | @favoritePresent kind _ _ _ _ change _ _ same =>
      have database : after.database = world.database.setFavorites kind
          (world.database.favorites kind) := by
        rw [same, world.database.setFavorites_favorites]
      exact .inactive (change.inactive database)
  | favoriteRemoved change _ database => exact .inactive (change.inactive database)

end Frames

section Attribution

variable {service : Service} {call : Call} {world after : World} {reply : Option Response}

theorem Recorded.owns {fields : ActivityFields} {actor : Actor} {event : ActivityEventRow}
    (recorded : Recorded service call world fields actor event reply after) :
    actor.Owns event.userId event.anonymousId := by
  obtain ⟨transaction, data, stored, _, _, _, rfl⟩ := recorded.event_eq
  exact actor.owns_self

theorem Commented.owns {fields : CommentFields} {contentId : Bytes} {actor : Actor}
    {comment : CommentRow} {event : ActivityEventRow}
    (commented : Commented service call world fields contentId actor comment event reply after) :
    actor.Owns comment.userId comment.anonymousId ∧ actor.Owns event.userId event.anonymousId := by
  obtain ⟨transaction, _, rfl, rfl⟩ := commented.rows_eq
  exact ⟨actor.owns_self, actor.owns_self⟩

theorem ActionEffect.attributed (effect : ActionEffect service call world reply after)
    (holds : world.database.Attributed service.postgres) :
    after.database.Attributed service.postgres := by
  cases effect with
  | recorded recorded =>
      rw [recorded.database]
      exact { holds with
        events := forall_mem_append_singleton holds.events ⟨_, recorded.owns⟩ }
  | @liked _ _ actor _ _ _ liked =>
      rw [liked.database]
      exact { holds with
        events := forall_mem_append_singleton holds.events ⟨actor, actor.owns_self⟩
        likes := forall_mem_append_singleton holds.likes ⟨actor, actor.owns_self, rfl⟩ }
  | likePresent _ _ _ _ same => rwa [same]
  | unliked _ _ database =>
      rw [database]
      exact { holds with likes := fun row member => holds.likes row (List.mem_filter.mp member).1 }
  | commented commented =>
      rw [commented.database]
      exact { holds with
        events := forall_mem_append_singleton holds.events ⟨_, commented.owns.2⟩
        comments := forall_mem_append_singleton holds.comments ⟨_, commented.owns.1⟩ }
  | inactive inactive =>
      constructor
      · rw [inactive.activityEvents]
        exact holds.events
      · rw [inactive.contentLikes]
        exact holds.likes
      · rw [inactive.comments]
        exact holds.comments

theorem activityEnds_recorded (post : call.request.At "POST" "/activity")
    (ends : ActivityEnds service.postgres call.environment service.jsonC call.request
      (service.body call) world reply after) (sent : statusOf reply = some 201) :
    ∃ fields actor event, Recorded service call world fields actor event reply after := by
  cases ends with
  | invalid _ answered => exact absurd sent (answered.status_ne (by decide))
  | refused _ refused answered =>
      have error := refused.status.1
      exact absurd sent (answered.status_ne (by omega))
  | invalidData _ _ _ answered => exact absurd sent (answered.status_ne (by decide))
  | failed _ _ _ _ answered => exact absurd sent (answered.status_ne (by decide))
  | recorded read acts data _ stored now later _ database answered =>
      exact ⟨_, _, _, post, read, ⟨_, acts, later⟩, ⟨_, _, _, now, data, stored, rfl⟩, database,
        answered⟩

namespace Service

variable {admits : Environment → Prop} {entries : List Entry}

theorem Run.actionEffect (lawful : service.postgres.Lawful)
    (run : service.Run admits entries world) (call : Call) :
    ActionEffect service call world (service.serve call world).1 (service.serve call world).2 :=
  (service.serve_effect call lawful (Run.valid run)).actions

theorem serve_recorded (lawful : service.postgres.Lawful)
    (valid : world.database.Valid service.postgres.lower)
    (post : call.request.At "POST" "/activity")
    (sent : statusOf (service.serve call world).1 = some 201) :
    ∃ fields actor event, Recorded service call world fields actor event
      (service.serve call world).1 (service.serve call world).2 := by
  have listed : ("/activity", Endpoint.activity) ∈ postEndpoints := by simp [postEndpoints]
  cases body : service.body call with
  | none =>
      have unparsed : service.parsed call = none := by
        rw [← Service.body_post post.method, body]
      have ends := service.serve_routed call lawful valid
      rw [routed_post post listed, unparsed] at ends
      exact absurd sent (ends.2.status_ne (by decide))
  | some json =>
      exact activityEnds_recorded post (Service.serve_post lawful valid post listed body) sent

/-- In every reachable state the rows of the three tables name their actors. -/
theorem Run.attributed (lawful : service.postgres.Lawful)
    (run : service.Run admits entries world) :
    world.database.Attributed service.postgres := by
  induction run with
  | start initial =>
      rw [initial.1]
      constructor <;> simp [Database.empty]
  | next call reached _ ih => exact (Run.actionEffect lawful reached call).attributed ih

end Service

end Attribution

end PortalApi
