import PortalApi.Comments
import PortalApi.Confirmation

/-! Whom the rows name that the routes with optional authentication write. -/

set_option autoImplicit false

namespace PortalApi

open Library

/-- A request to a route with optional authentication whose other fields are
accepted. -/
def Endpoint.Accepts (service : Service) (request : Request) (json : Option Json) :
    Endpoint → Prop
  | .activity => (activityFields json).isSome = true ∧
    (activityEventData service.jsonC json).isSome = true
  | .like contentId => portalValidationKey (some contentId) 300 = true ∧
    (request.isPut = true → (portalKeyField json).isSome = true)
  | .comment contentId => (commentFields contentId json).isSome = true
  | _ => False

/-- The header is `Bearer ` and the 36 bytes of the token of this session, which
is live when the request is served. -/
def World.Opens (world : World) (service : Service) (call : Call) (session : AuthSessionRow) :
    Prop :=
  ∃ text user, call.request.authorization = some (bytes "Bearer " ++ text) ∧ text.length = 36 ∧
    service.postgres.castText text = some session.token ∧
    world.database.Live (world.lookupTime call.environment) session.token session user

/-- The text that the body gives as an identifier, when it is an accepted one. -/
def Identifies (json : Option Json) (text : Bytes) : Prop :=
  anonymousIdText json = some text ∧ 8 ≤ text.length ∧ text.length ≤ 200 ∧
    ∀ character ∈ text, isAnonymousIdCharacter character = true

/-- Every row that was written has these columns, and no other table changed. -/
structure Database.WritesAs (before after : Database) (userId : Option Uuid)
    (anonymousId : Option Bytes) : Prop where
  events : ∀ row ∈ after.activityEvents, row ∈ before.activityEvents ∨
    row.userId = userId ∧ row.anonymousId = anonymousId
  likes : ∀ row ∈ after.contentLikes, row ∈ before.contentLikes ∨
    row.userId = userId ∧ row.anonymousId = anonymousId
  comments : ∀ row ∈ after.comments, row ∈ before.comments ∨
    row.userId = userId ∧ row.anonymousId = anonymousId
  elsewhere : { after with
    activityEvents := before.activityEvents
    contentLikes := before.contentLikes
    comments := before.comments } = before

/-- The header decides when there is one, and the identifier in the body only
when there is none. -/
structure Attributes (service : Service) (call : Call) (json : Option Json) (world : World)
    (reply : Option Response) (after : World) : Prop where
  token : call.request.authorization.getD [] ≠ [] →
    (reply = some invalidTokenResponse ↔ ¬ ∃ session, world.Opens service call session) ∧
      (reply = some invalidTokenResponse → after.database = world.database)
  session : ∀ session, world.Opens service call session →
    world.database.WritesAs after.database (some session.userId) none
  required : call.request.authorization.getD [] = [] →
    (reply = some anonymousIdRequiredResponse ↔ ¬ ∃ text, Identifies json text) ∧
      (reply = some anonymousIdRequiredResponse → after.database = world.database)
  identifier : call.request.authorization.getD [] = [] → ∀ text, Identifies json text →
    world.database.WritesAs after.database none (some text)

/-- Every row of the three tables names either a user or an identifier. -/
structure Database.Exclusive (database : Database) : Prop where
  events : ∀ row ∈ database.activityEvents, row.userId.isSome ≠ row.anonymousId.isSome
  likes : ∀ row ∈ database.contentLikes, row.userId.isSome ≠ row.anonymousId.isSome
  comments : ∀ row ∈ database.comments, row.userId.isSome ≠ row.anonymousId.isSome

/-- How an accepted request ends: refused for its actor, or with rows of it. -/
inductive AttributedEnds (service : Service) (call : Call) (json : Option Json) (world : World) :
    Option Response → World → Prop where
  | refused {response : Response} {reply : Option Response} {after : World} :
      ActorRefused service.postgres call.environment call.request json world response after →
      Answered call.environment response reply → AttributedEnds service call json world reply after
  | acted {actor : Actor} {reply : Option Response} {after : World} :
      MayAct service.postgres call.environment call.request json world actor →
      world.database.WritesAs after.database actor.userId actor.anonymousId →
      statusOf reply ≠ some 400 → statusOf reply ≠ some 401 →
      AttributedEnds service call json world reply after

section Ends

variable {service : Service} {call : Call} {world after : World} {json : Option Json}
  {reply : Option Response} {userId : Option Uuid} {anonymousId : Option Bytes}

theorem Database.WritesAs.unchanged {before after : Database} (same : after = before) :
    before.WritesAs after userId anonymousId := by
  subst same
  exact ⟨fun _ => .inl, fun _ => .inl, fun _ => .inl, rfl⟩

private theorem added {α : Type} {rows : List α} {new : α} {wanted : α → Prop} (holds : wanted new) :
    ∀ row ∈ rows ++ [new], row ∈ rows ∨ wanted row := by
  intro row member
  cases List.mem_append.mp member with
  | inl old => exact .inl old
  | inr last => exact .inr (List.mem_singleton.mp last ▸ holds)

theorem activityEnds_attributed
    (accepted : Endpoint.activity.Accepts service call.request json)
    (ends : ActivityEnds service.postgres call.environment service.jsonC call.request json world
      reply after) : AttributedEnds service call json world reply after := by
  obtain ⟨named, sent⟩ := accepted
  cases ends with
  | invalid none _ => simp [none] at named
  | refused _ refused answered => exact .refused refused answered
  | invalidData _ _ none _ => simp [none] at sent
  | failed _ acts _ failed answered =>
      exact .acted acts.mayAct (.unchanged (failed.kept.database.trans acts.kept.database))
        (answered.status_ne (by simp)) (answered.status_ne (by simp))
  | recorded _ acts _ _ _ _ _ _ database answered =>
      refine .acted acts.mayAct ?_ (answered.status_ne (by simp [eventResponse]))
        (answered.status_ne (by simp [eventResponse]))
      rw [database]
      exact ⟨added ⟨rfl, rfl⟩, fun _ => .inl, fun _ => .inl, rfl⟩

theorem likeEnds_attributed {contentId : Bytes}
    (accepted : (Endpoint.like contentId).Accepts service call.request json)
    (ends : LikeEnds service.postgres call.environment call.request contentId json world reply
      after) : AttributedEnds service call json world reply after := by
  obtain ⟨key, portal⟩ := accepted
  cases ends with
  | invalid refused _ => simp [refused] at key
  | refused _ refused answered => exact .refused refused answered
  | invalidPortal _ _ put none _ => simp [none, put] at portal
  | failed _ acts _ failed answered =>
      exact .acted acts.mayAct (.unchanged (failed.kept.database.trans acts.kept.database))
        (answered.status_ne (by simp [likeFailure]))
        (answered.status_ne (by simp [likeFailure]))
  | liked _ acts _ _ _ _ _ _ database answered =>
      refine .acted acts.mayAct ?_ (answered.status_ne (by simp))
        (answered.status_ne (by simp))
      rw [database]
      exact ⟨added ⟨rfl, rfl⟩, added ⟨rfl, rfl⟩, fun _ => .inl, rfl⟩
  | present _ acts _ _ _ same _ _ answered =>
      exact .acted acts.mayAct (.unchanged same) (answered.status_ne (by simp))
        (answered.status_ne (by simp))
  | unliked _ acts _ _ _ database answered =>
      refine .acted acts.mayAct ?_ (answered.status_ne (by simp))
        (answered.status_ne (by simp))
      rw [database]
      exact ⟨fun _ => .inl, fun _ member => .inl (List.mem_filter.mp member).1, fun _ => .inl, rfl⟩

theorem commentEnds_attributed {contentId : Bytes}
    (accepted : (Endpoint.comment contentId).Accepts service call.request json)
    (ends : CommentEnds service.postgres call.environment call.request contentId json world reply
      after) : AttributedEnds service call json world reply after := by
  have named : (commentFields contentId json).isSome = true := accepted
  cases ends with
  | invalid none _ => simp [none] at named
  | refused _ refused answered => exact .refused refused answered
  | failed _ acts failed answered =>
      exact .acted acts.mayAct (.unchanged (failed.kept.database.trans acts.kept.database))
        (answered.status_ne (by simp)) (answered.status_ne (by simp))
  | commented _ acts _ _ _ _ _ _ database answered =>
      refine .acted acts.mayAct ?_ (answered.status_ne (by simp [commentResponse]))
        (answered.status_ne (by simp [commentResponse]))
      rw [database]
      exact ⟨added ⟨rfl, rfl⟩, fun _ => .inl, added ⟨rfl, rfl⟩, rfl⟩

theorem Endpoint.Ends.attributed {endpoint : Endpoint}
    (accepted : endpoint.Accepts service call.request json)
    (ends : endpoint.Ends service call json world reply after) :
    AttributedEnds service call json world reply after := by
  cases endpoint with
  | activity => exact activityEnds_attributed accepted ends
  | like contentId => exact likeEnds_attributed accepted ends
  | comment contentId => exact commentEnds_attributed accepted ends
  | _ => exact accepted.elim

end Ends

section Entitlement

variable {service : Service} {call : Call} {world after : World} {json : Option Json}
  {reply : Option Response} {session : AuthSessionRow} {text : Bytes}

theorem World.Opens.mayAct (opens : world.Opens service call session) :
    MayAct service.postgres call.environment call.request json world (.user session.userId) := by
  obtain ⟨text, user, header, length, cast, live⟩ := opens
  have presented : presentedSession service.postgres call.request = some session.token :=
    presentedSession_eq_some.mpr ⟨text, bearerToken_eq_some.mpr ⟨header, length⟩, cast⟩
  exact live.owner ▸ .session presented live

theorem Identifies.valid (named : Identifies json text) :
    portalValidationAnonymousId (some text) = true :=
  portalValidationAnonymousId_iff.mpr ⟨text, rfl, named.2⟩

theorem Identifies.mayAct (absent : call.request.authorization.getD [] = [])
    (named : Identifies json text) :
    MayAct service.postgres call.environment call.request json world
      (.anonymous ⟨text, named.valid⟩) :=
  .anonymous absent named.1

theorem MayAct.opens {actor : Actor} (present : call.request.authorization.getD [] ≠ [])
    (may : MayAct service.postgres call.environment call.request json world actor) :
    ∃ session, world.Opens service call session := by
  cases may with
  | @session token session user presented live =>
      obtain ⟨text, bearer, cast⟩ := presentedSession_eq_some.mp presented
      obtain ⟨header, length⟩ := bearerToken_eq_some.mp bearer
      obtain rfl := live.token
      exact ⟨session, text, user, header, length, cast, live⟩
  | anonymous absent _ => exact absurd absent present

theorem MayAct.identifies {actor : Actor} (absent : call.request.authorization.getD [] = [])
    (may : MayAct service.postgres call.environment call.request json world actor) :
    ∃ text, Identifies json text := by
  cases may with
  | session presented _ => exact absurd absent (presentedSession_present presented)
  | @anonymous id _ read =>
      obtain ⟨text, same, accepted⟩ := portalValidationAnonymousId_iff.mp id.property
      obtain rfl := Option.some.inj same
      exact ⟨id.val, read, accepted⟩

/-- An accepted request is refused for its actor when nobody is entitled to it,
and writes for the one who is otherwise. -/
theorem AttributedEnds.attributes (valid : world.database.Valid service.postgres.lower)
    (smooth : world.Smooth call.environment)
    (ends : AttributedEnds service call json world reply after) :
    Attributes service call json world reply after := by
  cases ends with
  | @refused response _ _ refused answered =>
      have nobody : ∀ actor,
          ¬ MayAct service.postgres call.environment call.request json world actor :=
        fun _ => refused.not_mayAct smooth
      have same := refused.kept.database
      have sent : reply = some response := answered.certain smooth.healthy
      have closed : ¬ ∃ session, world.Opens service call session :=
        fun ⟨_, opens⟩ => nobody _ opens.mayAct
      constructor
      case token =>
        intro present
        cases refused with
        | token _ _ => exact ⟨iff_of_true sent closed, fun _ => same⟩
        | anonymousId absent _ => exact absurd absent present
      case session =>
        intro session opens
        exact absurd ⟨session, opens⟩ closed
      case required =>
        intro absent
        cases refused with
        | token present _ => exact absurd absent present
        | anonymousId _ _ =>
            exact ⟨iff_of_true sent fun ⟨_, named⟩ => nobody _ (named.mayAct absent), fun _ => same⟩
      case identifier =>
        intro absent text named
        exact absurd (named.mayAct absent) (nobody _)
  | acted may writes bad unauthorized =>
      constructor
      case token =>
        intro present
        have other : reply ≠ some invalidTokenResponse := by
          intro same
          exact unauthorized (by simp [same, statusOf, invalidTokenResponse])
        exact ⟨iff_of_false other (not_not_intro (may.opens present)), fun same => absurd same other⟩
      case session =>
        intro session opens
        obtain rfl := may.unique valid opens.mayAct
        exact writes
      case required =>
        intro absent
        have other : reply ≠ some anonymousIdRequiredResponse := by
          intro same
          exact bad (by simp [same, statusOf, anonymousIdRequiredResponse])
        exact ⟨iff_of_false other (not_not_intro (may.identifies absent)),
          fun same => absurd same other⟩
      case identifier =>
        intro absent text named
        obtain rfl := may.unique valid (named.mayAct absent)
        exact writes

end Entitlement

section Rows

variable {postgres : Postgres} {database : Database}

theorem Actor.Owns.isSome_ne {actor : Actor} {userId : Option Uuid} {anonymousId : Option Bytes}
    (owns : actor.Owns userId anonymousId) : userId.isSome ≠ anonymousId.isSome := by
  rw [owns.userId, owns.anonymousId]
  cases actor with
  | user _ => simp [Actor.userId, Actor.anonymousId]
  | anonymous _ => simp [Actor.userId, Actor.anonymousId]

theorem Database.Attributed.exclusive (attributed : database.Attributed postgres) :
    database.Exclusive where
  events row member := by
    obtain ⟨_, owns⟩ := attributed.events row member
    exact owns.isSome_ne
  likes row member := by
    obtain ⟨_, owns, _⟩ := attributed.likes row member
    exact owns.isSome_ne
  comments row member := by
    obtain ⟨_, owns⟩ := attributed.comments row member
    exact owns.isSome_ne

end Rows

/-- In every reachable state the rows name one actor each, and a request with
optional authentication writes for the one it is entitled to act for. -/
theorem optional_requests_attributed {service : Service} (lawful : service.postgres.Lawful)
    {admits : Environment → Prop} {entries : List Service.Entry} {world : World}
    (run : service.Run admits entries world) :
    world.database.Exclusive ∧
      ∀ call : Call, world.Smooth call.environment →
        (call.request.routed (service.parsed call)).1.Accepts service call.request
          (call.request.routed (service.parsed call)).2 →
        Attributes service call (call.request.routed (service.parsed call)).2 world
          (service.serve call world).1 (service.serve call world).2 := by
  refine ⟨(Service.Run.attributed lawful run).exclusive, ?_⟩
  intro call smooth accepted
  have valid := Service.Run.valid run
  have ends := (service.serve_routed call lawful valid).attributed accepted
  exact ends.attributes valid smooth

namespace Reference

/-- Ana signs in, and likes a post with a visitor's identifier in the body. -/
def naming : Service := service (bodies [account, confirmation 1, credentials, liking])

def namedLike : Call := put "/content/a1/like" (bearer (uuidOut (draw 10))) liking 20 0

theorem namedLike_accepted :
    (namedLike.request.routed (naming.parsed namedLike)).1.Accepts naming namedLike.request
      (namedLike.request.routed (naming.parsed namedLike)).2 := by
  have routed : (namedLike.request.routed (naming.parsed namedLike)).1 = .like (bytes "a1") := rfl
  rw [routed]
  exact ⟨by decide, fun _ => by decide +kernel⟩

end Reference

/-- The like is Ana's. -/
theorem optional_requests_attributed_named :
    (Reference.after Reference.naming Reference.signedIn).database.Exclusive ∧
      Attributes Reference.naming Reference.namedLike
        (Reference.namedLike.request.routed (Reference.naming.parsed Reference.namedLike)).2
        (Reference.after Reference.naming Reference.signedIn)
        (Reference.naming.serve Reference.namedLike
          (Reference.after Reference.naming Reference.signedIn)).1
        (Reference.naming.serve Reference.namedLike
          (Reference.after Reference.naming Reference.signedIn)).2 ∧
      (Reference.naming.serve Reference.namedLike
        (Reference.after Reference.naming Reference.signedIn)).2.database.contentLikes.map
          (fun row => (row.userId, row.anonymousId)) = [(some (Reference.draw 1), none)] := by
  obtain ⟨exclusive, attributes⟩ := optional_requests_attributed Reference.lawful
    (Reference.run Reference.naming Reference.signedIn_healthy)
  refine ⟨exclusive, ?_, by decide +kernel⟩
  exact attributes Reference.namedLike
    ⟨Reference.environment_healthy 20 0, by decide +kernel⟩ Reference.namedLike_accepted

end PortalApi
