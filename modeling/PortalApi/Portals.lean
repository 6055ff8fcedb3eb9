import PortalApi.InternalErrors
import PortalApi.Likes

/-! What the requests that name one portal leave of the events of another. -/

set_option autoImplicit false

namespace PortalApi

open Library

/-- The columns of an event that its request decides. -/
structure PortalRow where
  userId : Option Uuid
  anonymousId : Option Bytes
  eventType : Bytes
  contentId : Option Bytes
  componentId : Option Bytes
  pageUrl : Option Bytes
  eventData : Bytes
  deriving DecidableEq

def ActivityEventRow.portalRow (row : ActivityEventRow) : PortalRow where
  userId := row.userId
  anonymousId := row.anonymousId
  eventType := row.eventType
  contentId := row.contentId
  componentId := row.componentId
  pageUrl := row.pageUrl
  eventData := row.eventData

/-- The events of a portal, in order. -/
def Database.portalRows (database : Database) (portalKey : Bytes) : List PortalRow :=
  (database.activityEvents.filter fun row => row.portalKey = portalKey).map (·.portalRow)

/-- A POST of an activity or a comment, or a PUT of a like. -/
inductive Request.Records (request : Request) : Prop where
  | activity : request.At "POST" "/activity" → Request.Records request
  | like {contentId : Bytes} : request.method = bytes "PUT" →
      request.OnContent contentId "/like" → Request.Records request
  | comment {contentId : Bytes} : request.method = bytes "POST" →
      request.OnContent contentId "/comments" → Request.Records request

/-- The endpoint that serves a request, and the JSON that it is given. -/
def Service.target (service : Service) (call : Call) : Endpoint × Option Json :=
  call.request.routed (service.parsed call)

/-- The request names a portal other than this one. -/
def Service.NamesOther (service : Service) (portalKey : Bytes) (call : Call) : Prop :=
  call.request.Records ∧
    ∃ other, portalKeyField (service.target call).2 = some other ∧ other ≠ portalKey

/-- The same request at the same time, with new UUIDs drawn in both places. -/
structure Repeats (call : Call) (world : World) (again : Call) (other : World) : Prop where
  records : call.request.Records
  request : again.request = call.request
  time : other.lookupTime again.environment = world.lookupTime call.environment
  fresh : call.environment.Fresh world.database
  freshAgain : again.environment.Fresh other.database

/-- A run from a state, and the run without the requests that name another
portal. -/
abbrev Service.Pruned (service : Service) (portalKey : Bytes) (start : World) :
    List (Service.Entry × Service.Entry) → World → World → Prop :=
  (service.machine Environment.Healthy).Pruned (service.NamesOther portalKey) Repeats start

/-- The entry is the PUT of a like that is stored, but neither from the start
nor by an earlier request that is kept: one that names another portal stored it. -/
def Service.Overshadowed (service : Service) (start : World)
    (earlier : List (Service.Entry × Service.Entry)) (entry : Service.Entry) : Prop :=
  ∃ like, service.likeChange entry = some ⟨like, true⟩ ∧ like ∈ entry.before.database.likeSet ∧
    like ∉ start.database.likeSet ∧
    ∀ pair ∈ earlier, service.likeChange pair.1 ≠ some ⟨like, true⟩

/-- Some kept request is overshadowed. -/
def Service.Interferes (service : Service) (start : World)
    (pairs : List (Service.Entry × Service.Entry)) : Prop :=
  ∃ earlier pair later, pairs = earlier ++ pair :: later ∧
    service.Overshadowed start earlier pair.1

/-- A like that a request puts, through the portal it names. -/
structure Likes (service : Service) (call : Call) (json : Option Json) (world : World)
    (endpoint : Endpoint) (portalKey : Bytes) (like : Like) : Prop where
  endpoint : endpoint = .like like.1
  valid : portalValidationKey (some like.1) 300 = true
  put : call.request.isPut = true
  portal : portalKeyField json = some portalKey
  may : MayAct service.postgres call.environment call.request json world like.2

/-- The event that a request adds, and its portal. -/
inductive Writes (service : Service) (call : Call) (json : Option Json) (world : World) :
    Endpoint → Bytes → PortalRow → Prop where
  | activity {fields : ActivityFields} {actor : Actor} {data stored : Bytes} :
      activityFields json = some fields → activityEventData service.jsonC json = some data →
      MayAct service.postgres call.environment call.request json world actor →
      (fields.statement service.postgres actor data).Encoded →
      service.postgres.jsonbIn data = some stored →
      Writes service call json world .activity fields.portalKey {
        userId := actor.userId
        anonymousId := actor.anonymousId
        eventType := fields.eventType
        contentId := nullIf fields.contentId
        componentId := nullIf fields.componentId
        pageUrl := nullIf fields.pageUrl
        eventData := stored }
  | like {endpoint : Endpoint} {portalKey : Bytes} {like : Like} :
      Likes service call json world endpoint portalKey like →
      like ∉ world.database.likeSet →
      Writes service call json world endpoint portalKey {
        userId := like.2.userId
        anonymousId := like.2.anonymousId
        eventType := bytes "like"
        contentId := some like.1
        componentId := none
        pageUrl := none
        eventData := bytes "\x7b\x7d" }
  | comment {contentId : Bytes} {fields : CommentFields} {actor : Actor} :
      commentFields contentId json = some fields →
      MayAct service.postgres call.environment call.request json world actor →
      (fields.statement service.postgres actor contentId).Encoded →
      Writes service call json world (.comment contentId) fields.portalKey {
        userId := actor.userId
        anonymousId := actor.anonymousId
        eventType := bytes "comment"
        contentId := some contentId
        componentId := none
        pageUrl := none
        eventData := bytes "\x7b\x7d" }

/-- The users and sessions, which decide whom a request may act for. -/
structure Database.SameAccounts (before after : Database) : Prop where
  users : after.users = before.users
  authSessions : after.authSessions = before.authSessions

/-- What a request that records something does to the events. It may miss to write
only when a UUID that it draws is in use. -/
inductive PortalEffect (service : Service) (call : Call) (json : Option Json) (world : World)
    (endpoint : Endpoint) (after : World) : Prop where
  | wrote {portalKey : Bytes} {row : PortalRow} {event : ActivityEventRow} :
      Writes service call json world endpoint portalKey row → event.portalKey = portalKey →
      event.portalRow = row →
      after.database.activityEvents = world.database.activityEvents ++ [event] →
      world.database.SameAccounts after.database →
      PortalEffect service call json world endpoint after
  | idle : (call.environment.Fresh world.database →
        ∀ portalKey row, ¬ Writes service call json world endpoint portalKey row) →
      after.database.activityEvents = world.database.activityEvents →
      world.database.SameAccounts after.database →
      PortalEffect service call json world endpoint after

section Ends

variable {service : Service} {call : Call} {world after : World} {json : Option Json}
  {reply : Option Response} {endpoint : Endpoint}

theorem PortalEffect.accounts (effect : PortalEffect service call json world endpoint after) :
    world.database.SameAccounts after.database := by
  cases effect with
  | wrote _ _ _ _ accounts => exact accounts
  | idle _ _ accounts => exact accounts

private theorem idle_of_same (silent : ∀ portalKey row,
      ¬ Writes service call json world endpoint portalKey row)
    (same : after.database = world.database) :
    PortalEffect service call json world endpoint after :=
  .idle (fun _ => silent) (by rw [same]) ⟨by rw [same], by rw [same]⟩

/-- Nobody is entitled to a request that is refused, so it writes nothing. -/
theorem ActorRefused.silent {response : Response}
    (refused : ActorRefused service.postgres call.environment call.request json world response
      after) (smooth : world.Smooth call.environment) (portalKey : Bytes) (row : PortalRow) :
    ¬ Writes service call json world endpoint portalKey row := by
  intro writes
  cases writes with
  | activity _ _ may _ _ => exact refused.not_mayAct smooth may
  | like likes _ => exact refused.not_mayAct smooth likes.may
  | comment _ may _ => exact refused.not_mayAct smooth may

theorem activityEnds_portal (lawful : service.postgres.Lawful)
    (valid : world.database.Valid service.postgres.lower) (smooth : world.Smooth call.environment)
    (ends : ActivityEnds service.postgres call.environment service.jsonC call.request json world
      reply after) : PortalEffect service call json world .activity after := by
  cases ends with
  | invalid none _ =>
      refine idle_of_same ?_ rfl
      intro portalKey row writes
      cases writes with
      | activity read _ _ _ _ => simp [none] at read
      | like likes _ => cases likes.endpoint
  | refused _ refused _ => exact idle_of_same (refused.silent smooth) refused.kept.database
  | invalidData _ acts none _ =>
      refine idle_of_same ?_ acts.kept.database
      intro portalKey row writes
      cases writes with
      | activity _ sent _ _ _ => simp [none] at sent
      | like likes _ => cases likes.endpoint
  | @failed middle _ fields actor data _ read acts sent failed _ =>
      refine idle_of_same ?_ (failed.kept.database.trans acts.kept.database)
      obtain ⟨_, transaction, failure, _, _, refused, _⟩ := failed.cause (acts.smooth smooth)
      intro portalKey row writes
      cases writes with
      | activity again also may encoded converted =>
          obtain rfl := Option.some.inj (read.symm.trans again)
          obtain rfl := Option.some.inj (sent.symm.trans also)
          obtain rfl := may.unique valid acts.mayAct
          obtain ⟨outcome, ran⟩ := ActivityFields.execute_total lawful acts.mayAct.owner read
            encoded (Option.isSome_iff_exists.mpr ⟨_, converted⟩)
          cases (acts.kept.database ▸ ran).symm.trans refused
      | like likes _ => cases likes.endpoint
  | recorded read acts sent encoded converted _ _ _ database _ =>
      refine .wrote (.activity read sent acts.mayAct encoded converted) rfl rfl (by rw [database]) ?_
      exact ⟨by rw [database], by rw [database]⟩

/-- A like is stored exactly when a row has its content and its actor's key. -/
theorem Database.Attributed.mem_likeSet {postgres : Postgres} {database : Database} {like : Like}
    (attributed : database.Attributed postgres) (lawful : postgres.Lawful) :
    like ∈ database.likeSet ↔ ∃ row ∈ database.contentLikes,
      row.contentId = like.1 ∧ row.actorKey = like.2.key postgres := by
  constructor
  · intro present
    obtain ⟨row, member⟩ := List.exists_mem_of_ne_nil _ present
    obtain ⟨stored, named, owned⟩ := Database.mem_likesOf.mp member
    exact ⟨row, stored, named, (attributed.key_iff lawful stored).mpr owned⟩
  · intro ⟨row, stored, named, keyed⟩
    have owned := (attributed.key_iff lawful stored).mp keyed
    exact List.ne_nil_of_mem (Database.mem_likesOf.mpr ⟨stored, named, owned⟩)

theorem likeEnds_portal {contentId : Bytes} (lawful : service.postgres.Lawful)
    (valid : world.database.Valid service.postgres.lower)
    (attributed : world.database.Attributed service.postgres)
    (smooth : world.Smooth call.environment) (put : call.request.isPut = true)
    (ends : LikeEnds service.postgres call.environment call.request contentId json world reply
      after) : PortalEffect service call json world (.like contentId) after := by
  have onlyLikes : ∀ {portalKey : Bytes} {row : PortalRow},
      Writes service call json world (.like contentId) portalKey row →
      ∃ actor, Likes service call json world (.like contentId) portalKey (contentId, actor) ∧
        (contentId, actor) ∉ world.database.likeSet := by
    intro portalKey row writes
    cases writes with
    | @like _ _ like likes absent =>
        obtain ⟨content, actor⟩ := like
        obtain rfl := Endpoint.like.inj likes.endpoint
        exact ⟨actor, likes, absent⟩
  cases ends with
  | invalid refused _ =>
      refine idle_of_same ?_ rfl
      intro portalKey row writes
      obtain ⟨actor, likes, _⟩ := onlyLikes writes
      simp [likes.valid] at refused
  | refused _ refused _ => exact idle_of_same (refused.silent smooth) refused.kept.database
  | invalidPortal _ acts _ none _ =>
      refine idle_of_same ?_ acts.kept.database
      intro portalKey row writes
      obtain ⟨actor, likes, _⟩ := onlyLikes writes
      simp [likes.portal] at none
  | failed accepted acts named failed _ =>
      exact absurd failed (likeStatement_not_failed lawful smooth accepted acts named)
  | @liked _ _ actor portalKey _ accepted acts _ portal _ _ _ absent database _ =>
      have missing : (contentId, actor) ∉ world.database.likeSet := by
        rw [attributed.mem_likeSet lawful]
        intro ⟨row, stored, same⟩
        exact absent row stored same
      have likes : Likes service call json world (.like contentId) portalKey (contentId, actor) :=
        ⟨rfl, accepted, put, portal, acts.mayAct⟩
      refine .wrote (.like likes missing) rfl rfl (by rw [database]) ?_
      exact ⟨by rw [database], by rw [database]⟩
  | @present _ _ actor _ _ acts _ _ _ same _ stored _ =>
      refine idle_of_same ?_ same
      intro portalKey row writes
      obtain ⟨other, likes, absent⟩ := onlyLikes writes
      obtain rfl := likes.may.unique valid acts.mayAct
      exact absent ((attributed.mem_likeSet lawful).mpr stored)
  | unliked _ _ delete _ _ _ _ => simp [put] at delete

/-- A put of a like is answered 204 exactly when its actor may like it. -/
theorem likeEnds_sent {contentId : Bytes} (lawful : service.postgres.Lawful)
    (smooth : world.Smooth call.environment) (put : call.request.isPut = true)
    (ends : LikeEnds service.postgres call.environment call.request contentId json world reply
      after) :
    statusOf reply = some 204 ↔ ∃ portalKey actor,
      Likes service call json world (.like contentId) portalKey (contentId, actor) := by
  have refuses : ∀ {response : Response}, Answered call.environment response reply →
      response.status ≠ 204 → (¬ ∃ portalKey actor,
        Likes service call json world (.like contentId) portalKey (contentId, actor)) →
      (statusOf reply = some 204 ↔ ∃ portalKey actor,
        Likes service call json world (.like contentId) portalKey (contentId, actor)) := by
    intro response answered other nobody
    exact iff_of_false (answered.status_ne other) nobody
  have answers : ∀ {response : Response}, Answered call.environment response reply →
      response.status = 204 → statusOf reply = some 204 := by
    intro response answered same
    rw [answered.certain smooth.healthy, statusOf_some, same]
  cases ends with
  | invalid refused answered =>
      refine refuses answered (by simp) ?_
      intro ⟨_, _, likes⟩
      simp [likes.valid] at refused
  | refused _ refused answered =>
      have error := refused.status
      refine refuses answered (by omega) ?_
      intro ⟨_, _, likes⟩
      exact refused.not_mayAct smooth likes.may
  | invalidPortal _ _ _ none answered =>
      refine refuses answered (by simp) ?_
      intro ⟨_, _, likes⟩
      simp [likes.portal] at none
  | failed accepted acts named failed _ =>
      exact absurd failed (likeStatement_not_failed lawful smooth accepted acts named)
  | liked accepted acts _ portal _ _ _ _ _ answered =>
      exact iff_of_true (answers answered rfl) ⟨_, _, rfl, accepted, put, portal, acts.mayAct⟩
  | present accepted acts _ portal _ _ _ _ answered =>
      exact iff_of_true (answers answered rfl) ⟨_, _, rfl, accepted, put, portal, acts.mayAct⟩
  | unliked _ _ delete _ _ _ _ => simp [put] at delete

theorem commentEnds_portal {contentId : Bytes} (lawful : service.postgres.Lawful)
    (valid : world.database.Valid service.postgres.lower) (smooth : world.Smooth call.environment)
    (ends : CommentEnds service.postgres call.environment call.request contentId json world reply
      after) : PortalEffect service call json world (.comment contentId) after := by
  cases ends with
  | invalid none _ =>
      refine idle_of_same ?_ rfl
      intro portalKey row writes
      cases writes with
      | comment read _ _ => simp [none] at read
      | like likes _ => cases likes.endpoint
  | refused _ refused _ => exact idle_of_same (refused.silent smooth) refused.kept.database
  | failed read acts failed _ =>
      have same := failed.kept.database.trans acts.kept.database
      refine .idle ?_ (by rw [same]) ⟨by rw [same], by rw [same]⟩
      obtain ⟨_, transaction, failure, offered, _, refused, _⟩ := failed.cause (acts.smooth smooth)
      intro fresh portalKey row writes
      cases writes with
      | comment again may encoded =>
          obtain rfl := Option.some.inj (read.symm.trans again)
          obtain rfl := may.unique valid acts.mayAct
          obtain ⟨outcome, ran⟩ := CommentFields.execute_total lawful acts.mayAct.owner read
            encoded (fresh.comments transaction offered)
          cases (acts.kept.database ▸ ran).symm.trans refused
      | like likes _ => cases likes.endpoint
  | commented read acts encoded _ _ _ _ _ database _ =>
      refine .wrote (.comment read acts.mayAct encoded) rfl rfl (by rw [database]) ?_
      exact ⟨by rw [database], by rw [database]⟩

/-- The endpoints of the requests that record something. -/
def Endpoint.Records (request : Request) : Endpoint → Prop
  | .activity | .comment _ | .longContentId | .invalidJson | .notFound => True
  | .like _ => request.isPut = true
  | _ => False

theorem Request.Records.method {request : Request} (records : request.Records) :
    request.method = bytes "POST" ∨ request.method = bytes "PUT" := by
  cases records with
  | activity given => exact .inl given.method
  | like put _ => exact .inr put
  | comment post _ => exact .inl post

theorem Request.Records.not_at {request : Request} (records : request.Records)
    {method url : String} (given : request.At method url) (other : bytes url ≠ bytes "/activity")
    (outside : ¬ bytes "/content/" <+: bytes url) : False := by
  cases records with
  | activity also => exact other (given.url.symm.trans also.url)
  | like _ content => exact content.not_at given outside
  | comment _ content => exact content.not_at given outside

theorem Request.Records.routes {request : Request} (records : request.Records)
    {parsed : Option Json} (routes : Routes request parsed endpoint json) :
    endpoint.Records request := by
  have apart : ∀ method ∈ ["OPTIONS", "GET", "DELETE"], request.method ≠ bytes method := by
    have different : ∀ method ∈ ["OPTIONS", "GET", "DELETE"],
        bytes "POST" ≠ bytes method ∧ bytes "PUT" ≠ bytes method := by decide
    intro method member same
    cases records.method with
    | inl post => exact (different method member).1 (post.symm.trans same)
    | inr put => exact (different method member).2 (put.symm.trans same)
  cases routes with
  | options method => exact apart "OPTIONS" (by simp) method
  | health given => exact apart "GET" (by simp) given.method
  | topContent given => exact apart "GET" (by simp) given.method
  | favoriteList given => exact apart "GET" (by simp) given.method
  | logout given => exact apart "DELETE" (by simp) given.method
  | register given _ => exact records.not_at given (by decide) (by decide)
  | confirm given _ => exact records.not_at given (by decide) (by decide)
  | login given _ => exact records.not_at given (by decide) (by decide)
  | @favoriteChange kind key changes url =>
      cases records with
      | activity given =>
          cases changes with
          | inl put => exact absurd (given.method.symm.trans put) (by decide)
          | inr delete => exact apart "DELETE" (by simp) delete
      | like _ content => exact content.not_favorite url
      | comment _ content => exact content.not_favorite url
  | like changes _ _ _ =>
      cases changes with
      | inl put => simpa [Endpoint.Records, Request.isPut] using put
      | inr delete => exact (apart "DELETE" (by simp) delete).elim
  | activity _ _ => trivial
  | comment _ _ _ _ => trivial
  | longContentId _ _ => trivial
  | invalidJson _ _ => trivial
  | notFound => trivial

theorem Endpoint.Ends.portal (lawful : service.postgres.Lawful)
    (valid : world.database.Valid service.postgres.lower)
    (attributed : world.database.Attributed service.postgres)
    (smooth : world.Smooth call.environment) (records : endpoint.Records call.request)
    (ends : endpoint.Ends service call json world reply after) :
    PortalEffect service call json world endpoint after := by
  have elsewhere : after = world → (∀ contentId, endpoint ≠ .like contentId) →
      (∀ contentId, endpoint ≠ .comment contentId) → endpoint ≠ .activity →
      PortalEffect service call json world endpoint after := by
    intro same like comment activity
    refine idle_of_same ?_ (congrArg World.database same)
    intro portalKey row writes
    cases writes with
    | activity _ _ _ _ _ => exact activity rfl
    | like likes _ => exact like _ likes.endpoint
    | comment _ _ _ => exact comment _ rfl
  cases endpoint with
  | activity => exact activityEnds_portal lawful valid smooth ends
  | like contentId => exact likeEnds_portal lawful valid attributed smooth records ends
  | comment contentId => exact commentEnds_portal lawful valid smooth ends
  | longContentId => exact elsewhere ends.1 (by simp) (by simp) (by simp)
  | invalidJson => exact elsewhere ends.1 (by simp) (by simp) (by simp)
  | notFound => exact elsewhere ends.1 (by simp) (by simp) (by simp)
  | _ => exact records.elim

end Ends

section Steps

variable {service : Service} {call repeated : Call} {world other : World} {json : Option Json}
  {endpoint : Endpoint} {portalKey : Bytes} {like : Like} {row : PortalRow}

theorem Writes.portal (writes : Writes service call json world endpoint portalKey row) :
    portalKeyField json = some portalKey := by
  cases writes with
  | activity read _ _ _ _ => exact (activityFields_eq_some.mp read).1
  | like likes _ => exact likes.portal
  | comment read _ _ => exact (commentFields_eq_some.mp read).2.1

theorem Writes.unique (valid : world.database.Valid service.postgres.lower)
    (writes : Writes service call json world endpoint portalKey row) {another : Bytes}
    {other : PortalRow} (also : Writes service call json world endpoint another other) :
    row = other := by
  cases writes with
  | activity read sent may _ converted =>
      cases also with
      | activity again sentAgain mayAgain _ convertedAgain =>
          obtain rfl := Option.some.inj (read.symm.trans again)
          obtain rfl := Option.some.inj (sent.symm.trans sentAgain)
          obtain rfl := Option.some.inj (converted.symm.trans convertedAgain)
          obtain rfl := may.unique valid mayAgain
          rfl
      | like likes _ => cases likes.endpoint
  | @like _ _ like likes _ =>
      cases also with
      | activity _ _ _ _ _ => cases likes.endpoint
      | @like _ _ same likesAgain _ =>
          obtain ⟨content, actor⟩ := like
          obtain ⟨contentAgain, actorAgain⟩ := same
          obtain rfl := Endpoint.like.inj (likes.endpoint.symm.trans likesAgain.endpoint)
          obtain rfl := likes.may.unique valid likesAgain.may
          rfl
      | comment _ _ _ => cases likes.endpoint
  | comment read may _ =>
      cases also with
      | like likes _ => cases likes.endpoint
      | comment again mayAgain _ =>
          obtain rfl := Option.some.inj (read.symm.trans again)
          obtain rfl := may.unique valid mayAgain
          rfl

/-- What is written at the endpoint of a like is the event of the like, which was
not there. -/
theorem Writes.liked (valid : world.database.Valid service.postgres.lower)
    (writes : Writes service call json world endpoint portalKey row) {another : Bytes}
    (likes : Likes service call json world endpoint another like) :
    like ∉ world.database.likeSet ∧ row.eventType = bytes "like" := by
  cases writes with
  | activity _ _ _ _ _ => cases likes.endpoint
  | @like _ _ same again missing =>
      obtain ⟨content, actor⟩ := like
      obtain ⟨contentAgain, actorAgain⟩ := same
      obtain rfl := Endpoint.like.inj (likes.endpoint.symm.trans again.endpoint)
      obtain rfl := likes.may.unique valid again.may
      exact ⟨missing, rfl⟩
  | comment _ _ _ => cases likes.endpoint

theorem Database.SameAccounts.symm {before after : Database} (same : before.SameAccounts after) :
    after.SameAccounts before :=
  ⟨same.users.symm, same.authSessions.symm⟩

/-- The same request at the same time among the same accounts may act alike. -/
theorem MayAct.again {actor : Actor} (request : repeated.request = call.request)
    (time : other.lookupTime repeated.environment = world.lookupTime call.environment)
    (accounts : world.database.SameAccounts other.database)
    (may : MayAct service.postgres call.environment call.request json world actor) :
    MayAct service.postgres repeated.environment repeated.request json other actor := by
  cases may with
  | @session token session user presented live =>
      have still : other.database.Live (other.lookupTime repeated.environment) token session user :=
        time ▸ { live with
          session_mem := accounts.authSessions ▸ live.session_mem
          user_mem := accounts.users ▸ live.user_mem }
      exact .session (by rw [request, presented]) still
  | anonymous absent read => exact .anonymous (by rw [request, absent]) read

theorem Likes.again (request : repeated.request = call.request)
    (time : other.lookupTime repeated.environment = world.lookupTime call.environment)
    (accounts : world.database.SameAccounts other.database)
    (likes : Likes service call json world endpoint portalKey like) :
    Likes service repeated json other endpoint portalKey like := by
  have put : repeated.request.isPut = true := by rw [request, likes.put]
  exact ⟨likes.endpoint, likes.valid, put, likes.portal, likes.may.again request time accounts⟩

theorem Writes.again (request : repeated.request = call.request)
    (time : other.lookupTime repeated.environment = world.lookupTime call.environment)
    (accounts : world.database.SameAccounts other.database)
    (writes : Writes service call json world endpoint portalKey row)
    (absent : ∀ like, Likes service call json world endpoint portalKey like →
      like ∉ world.database.likeSet → like ∉ other.database.likeSet) :
    Writes service repeated json other endpoint portalKey row := by
  cases writes with
  | activity read sent may encoded converted =>
      exact .activity read sent (may.again request time accounts) encoded converted
  | like likes missing =>
      exact .like (likes.again request time accounts) (absent _ likes missing)
  | comment read may encoded => exact .comment read (may.again request time accounts) encoded

end Steps

section Serving

variable {service : Service} {call repeated : Call} {world other : World}
  {entries : List Service.Entry} {like : Like}

theorem Service.target_eq (healthy : call.environment.Healthy)
    (again : repeated.environment.Healthy) (request : repeated.request = call.request) :
    service.target repeated = service.target call := by
  have parsed : service.parsed repeated = service.parsed call := by
    simp only [parsed, Environment.parse, healthy.granted, again.granted, request]
  rw [target, target, parsed, request]

theorem Service.Run.portalEffect (lawful : service.postgres.Lawful)
    (run : service.Run Environment.Healthy entries world) (healthy : call.environment.Healthy)
    (records : call.request.Records) :
    PortalEffect service call (service.target call).2 world (service.target call).1
      (service.serve call world).2 := by
  have valid := Run.valid run
  have ends := service.serve_routed call lawful valid
  exact ends.portal lawful valid (Run.attributed lawful run) ⟨healthy, Run.connection run⟩
    (records.routes routed_routes)

theorem Service.Run.likes_iff (lawful : service.postgres.Lawful)
    (run : service.Run Environment.Healthy entries world) (healthy : call.environment.Healthy)
    (records : call.request.Records) :
    (∃ portalKey, Likes service call (service.target call).2 world (service.target call).1
      portalKey like) ↔
      service.likeChange ((service.machine Environment.Healthy).event call world) =
        some ⟨like, true⟩ := by
  have valid := Run.valid run
  have smooth : world.Smooth call.environment := ⟨healthy, Run.connection run⟩
  have routes : Routes call.request (service.parsed call) (service.target call).1
      (service.target call).2 := routed_routes
  have ends : (service.target call).1.Ends service call (service.target call).2 world
      (service.serve call world).1 (service.serve call world).2 :=
    service.serve_routed call lawful valid
  constructor
  · intro ⟨portalKey, likes⟩
    obtain ⟨contentId, actor⟩ := like
    rw [likes.endpoint] at ends routes
    have named : (service.target call).1 = .like contentId := likes.endpoint
    generalize (service.target call).2 = json at *
    cases routes with
    | like _ content _ read =>
        have body : json = service.body call := read
        have may : MayAct service.postgres call.environment call.request (service.body call) world
          actor := body ▸ likes.may
        have sent := (likeEnds_sent lawful smooth likes.put ends).mpr
          ⟨portalKey, actor, named ▸ likes⟩
        have put : call.request.method = bytes "PUT" := of_decide_eq_true likes.put
        exact Service.likeChange_eq_some.mpr ⟨content, may.identity valid content.apart, sent, put⟩
  · intro changed
    obtain ⟨contentId, actor⟩ := like
    obtain ⟨content, known, sent, put⟩ := Service.likeChange_eq_some.mp changed
    have recorded := records.routes routes
    have put : call.request.method = bytes "PUT" := put
    have post : call.request.method ≠ bytes "POST" := by
      intro post
      exact absurd (post.symm.trans put) (by decide)
    generalize (service.target call).1 = endpoint at *
    generalize (service.target call).2 = json at *
    cases routes with
    | @like other _ _ also _ read =>
        have same : some other = some contentId :=
          (Request.likedContent_eq_some.mpr also).symm.trans
            (Request.likedContent_eq_some.mpr content)
        obtain rfl := Option.some.inj same
        have body : json = service.body call := read
        obtain ⟨portalKey, someone, likes⟩ := (likeEnds_sent lawful smooth recorded ends).mp sent
        have acts : service.identity call world (service.serve call world).2 = some someone :=
          (body ▸ likes.may).identity valid content.apart
        obtain rfl := Option.some.inj (acts.symm.trans known)
        exact ⟨portalKey, likes⟩
    | activity given _ => exact absurd given.method post
    | comment method _ _ _ => exact absurd method post
    | longContentId _ _ => exact absurd sent (ends.2.status_ne (by simp))
    | invalidJson _ _ => exact absurd sent (ends.2.status_ne (by simp))
    | notFound => exact absurd sent (ends.2.status_ne (by simp))
    | _ => exact recorded.elim

/-- The same request at the same time among the same accounts puts the same like. -/
theorem Service.Run.likeChange_repeated {others : List Service.Entry}
    (lawful : service.postgres.Lawful) (run : service.Run Environment.Healthy entries world)
    (also : service.Run Environment.Healthy others other) (healthy : call.environment.Healthy)
    (healthyToo : repeated.environment.Healthy) (repeats : Repeats call world repeated other)
    (accounts : world.database.SameAccounts other.database) :
    service.likeChange ((service.machine Environment.Healthy).event repeated other) =
        some ⟨like, true⟩ ↔
      service.likeChange ((service.machine Environment.Healthy).event call world) =
        some ⟨like, true⟩ := by
  have records := repeats.records
  have recordsToo : repeated.request.Records := repeats.request ▸ records
  have target : service.target repeated = service.target call :=
    Service.target_eq healthy healthyToo repeats.request
  rw [← Run.likes_iff lawful run healthy records, ← Run.likes_iff lawful also healthyToo recordsToo,
    target]
  constructor
  · intro ⟨key, likes⟩
    exact ⟨key, likes.again repeats.request.symm repeats.time.symm accounts.symm⟩
  · intro ⟨key, likes⟩
    exact ⟨key, likes.again repeats.request repeats.time accounts⟩

/-- A request that records something stores the like that it puts, and removes none. -/
theorem Service.Run.mem_likeSet_next (lawful : service.postgres.Lawful)
    (run : service.Run Environment.Healthy entries world) (healthy : call.environment.Healthy)
    (records : call.request.Records) :
    like ∈ (service.serve call world).2.database.likeSet ↔ like ∈ world.database.likeSet ∨
      service.likeChange ((service.machine Environment.Healthy).event call world) =
        some ⟨like, true⟩ := by
  have attributed := Run.attributed lawful run
  cases (Run.likeEffect lawful run healthy).step lawful attributed with
  | inl step =>
      obtain ⟨⟨key, adds⟩, changed, set⟩ := step
      have set : (service.serve call world).2.database.likeSet =
          Change.apply ⟨key, adds⟩ world.database.likeSet := set
      have added : adds = true := by
        cases adds with
        | true => rfl
        | false =>
            obtain ⟨_, _, _, delete⟩ := Service.likeChange_eq_some.mp changed
            have method : call.request.method = bytes "DELETE" := delete
            cases records.method with
            | inl post => exact absurd (post.symm.trans method) (by decide)
            | inr put => exact absurd (put.symm.trans method) (by decide)
      subst added
      rw [set, Change.mem_apply, changed]
      by_cases named : like = key
      · simp [named]
      · simp [named, Ne.symm named]
  | inr silent =>
      have same : (service.serve call world).2.database.likeSet = world.database.likeSet := silent.2
      rw [same, silent.1]
      simp

end Serving

section Relation

variable {service : Service} {portalKey : Bytes} {start world other : World}
  {call repeated : Call} {pairs : List (Service.Entry × Service.Entry)}

/-- What the two runs have in common in what they reach. -/
structure Service.Related (service : Service) (portalKey : Bytes) (start : World)
    (pairs : List (Service.Entry × Service.Entry)) (world other : World) : Prop where
  accounts : world.database.SameAccounts other.database
  shown : other.database.likeSet ⊆ world.database.likeSet
  likes : ∀ like, like ∈ other.database.likeSet ↔ like ∈ start.database.likeSet ∨
    ∃ pair ∈ pairs, service.likeChange pair.1 = some ⟨like, true⟩
  sublist : (world.database.portalRows portalKey).Sublist (other.database.portalRows portalKey)
  others : (world.database.portalRows portalKey).filter (·.eventType ≠ bytes "like") =
    (other.database.portalRows portalKey).filter (·.eventType ≠ bytes "like")
  same_iff : world.database.portalRows portalKey = other.database.portalRows portalKey ↔
    ¬ service.Interferes start pairs

theorem Service.interferes_append {pair : Service.Entry × Service.Entry} :
    service.Interferes start (pairs ++ [pair]) ↔
      service.Interferes start pairs ∨ service.Overshadowed start pairs pair.1 := by
  constructor
  · intro ⟨earlier, last, later, split, overshadowed⟩
    cases split_concat split.symm with
    | inl final =>
        obtain ⟨rfl, rfl, rfl⟩ := final
        exact .inr overshadowed
    | inr before =>
        obtain ⟨rest, rfl, same⟩ := before
        exact .inl ⟨earlier, last, rest, same.symm, overshadowed⟩
  · intro interferes
    cases interferes with
    | inl before =>
        obtain ⟨earlier, last, later, split, overshadowed⟩ := before
        exact ⟨earlier, last, later ++ [pair], by simp [split], overshadowed⟩
    | inr final => exact ⟨pairs, pair, [], rfl, final⟩

theorem Service.Related.refl : service.Related portalKey start [] start start where
  accounts := ⟨rfl, rfl⟩
  shown := subset_rfl
  likes := by simp
  sublist := List.Sublist.refl _
  others := rfl
  same_iff := by simp [Service.Interferes]

theorem Database.portalRows_append {before after : Database} {event : ActivityEventRow}
    (grown : after.activityEvents = before.activityEvents ++ [event]) :
    after.portalRows portalKey = before.portalRows portalKey ++
      if event.portalKey = portalKey then [event.portalRow] else [] := by
  rw [portalRows, grown, List.filter_append, List.map_append, portalRows]
  by_cases named : event.portalKey = portalKey
  · simp [named]
  · simp [named]

theorem Database.portalRows_same {before after : Database}
    (same : after.activityEvents = before.activityEvents) :
    after.portalRows portalKey = before.portalRows portalKey := by
  rw [portalRows, same, portalRows]

/-- A request that names another portal leaves the events of this one alone. -/
theorem Service.Related.dropped {entries : List Service.Entry} (lawful : service.postgres.Lawful)
    (run : service.Run Environment.Healthy entries world) (healthy : call.environment.Healthy)
    (names : service.NamesOther portalKey call)
    (related : service.Related portalKey start pairs world other) :
    service.Related portalKey start pairs (service.serve call world).2 other := by
  obtain ⟨records, named, portal, different⟩ := names
  have rows : (service.serve call world).2.database.portalRows portalKey =
      world.database.portalRows portalKey ∧
        world.database.SameAccounts (service.serve call world).2.database := by
    cases Run.portalEffect lawful run healthy records with
    | @wrote written _ _ writes key _ grown accounts =>
        have same : written = named := Option.some.inj (writes.portal.symm.trans portal)
        refine ⟨?_, accounts⟩
        rw [Database.portalRows_append grown, if_neg, List.append_nil]
        rw [key, same]
        exact different
    | idle _ same accounts => exact ⟨Database.portalRows_same same, accounts⟩
  obtain ⟨rows, accounts⟩ := rows
  refine ⟨?_, ?_, related.likes, ?_, ?_, ?_⟩
  · exact ⟨related.accounts.users.trans accounts.users.symm,
      related.accounts.authSessions.trans accounts.authSessions.symm⟩
  · intro like member
    exact (Run.mem_likeSet_next lawful run healthy records).mpr (.inl (related.shown member))
  · exact rows ▸ related.sublist
  · exact rows ▸ related.others
  · exact rows ▸ related.same_iff

/-- What a request that both runs meet adds to the events of the portal: the same
in both, or, when it is overshadowed, a `like` event in the second only. -/
inductive KeptRows (service : Service) (portalKey : Bytes) (start : World)
    (pairs : List (Service.Entry × Service.Entry)) (entry again : Service.Entry) : Prop where
  | alike {new : List PortalRow} :
      entry.after.database.portalRows portalKey =
        entry.before.database.portalRows portalKey ++ new →
      again.after.database.portalRows portalKey =
        again.before.database.portalRows portalKey ++ new →
      ¬ service.Overshadowed start pairs entry →
      KeptRows service portalKey start pairs entry again
  | missed {row : PortalRow} : row.eventType = bytes "like" →
      entry.after.database.portalRows portalKey = entry.before.database.portalRows portalKey →
      again.after.database.portalRows portalKey =
        again.before.database.portalRows portalKey ++ [row] →
      service.Overshadowed start pairs entry →
      KeptRows service portalKey start pairs entry again

theorem Service.Related.keptRows {entries others : List Service.Entry}
    (lawful : service.postgres.Lawful) (run : service.Run Environment.Healthy entries world)
    (also : service.Run Environment.Healthy others other) (healthy : call.environment.Healthy)
    (healthyToo : repeated.environment.Healthy) (keeps : ¬ service.NamesOther portalKey call)
    (repeats : Repeats call world repeated other)
    (related : service.Related portalKey start pairs world other) :
    KeptRows service portalKey start pairs
      ((service.machine Environment.Healthy).event call world)
      ((service.machine Environment.Healthy).event repeated other) := by
  have records := repeats.records
  have recordsToo : repeated.request.Records := repeats.request ▸ records
  have target : service.target repeated = service.target call :=
    Service.target_eq healthy healthyToo repeats.request
  have effect := Run.portalEffect lawful run healthy records
  have effectToo := Run.portalEffect lawful also healthyToo recordsToo
  rw [target] at effectToo
  have absentToo : ∀ like, like ∉ start.database.likeSet →
      (∀ pair ∈ pairs, service.likeChange pair.1 ≠ some ⟨like, true⟩) →
      like ∉ other.database.likeSet := by
    intro like unstored unliked member
    cases (related.likes like).mp member with
    | inl stored => exact unstored stored
    | inr changed =>
        obtain ⟨pair, earlier, same⟩ := changed
        exact unliked pair earlier same
  cases effect with
  | @wrote key row event writes keyed decided grown _ =>
      have again : Writes service repeated (service.target call).2 other (service.target call).1
          key row :=
        writes.again repeats.request repeats.time related.accounts
          fun _ _ missing member => missing (related.shown member)
      cases effectToo with
      | @wrote keyToo rowToo eventToo writesToo keyedToo decidedToo grownToo _ =>
          obtain rfl : key = keyToo :=
            Option.some.inj (again.portal.symm.trans writesToo.portal)
          obtain rfl := again.unique (Run.valid also) writesToo
          refine .alike (Database.portalRows_append grown) ?_ ?_
          · rw [keyed, decided, ← keyedToo, ← decidedToo]
            exact Database.portalRows_append grownToo
          · intro ⟨like, changed, stored, _⟩
            obtain ⟨_, likes⟩ := (Run.likes_iff lawful run healthy records).mpr changed
            exact (writes.liked (Run.valid run) likes).1 stored
      | idle silent _ _ => exact absurd again (silent repeats.freshAgain _ _)
  | idle silent same _ =>
      cases effectToo with
      | @wrote key row event writes keyed decided grown _ =>
          by_cases overtaken : ∃ like, Likes service repeated (service.target call).2 other
              (service.target call).1 key like ∧ like ∈ world.database.likeSet
          · obtain ⟨like, likes, stored⟩ := overtaken
            obtain ⟨missing, liked⟩ := writes.liked (Run.valid also) likes
            have back := likes.again repeats.request.symm repeats.time.symm related.accounts.symm
            have changed := (Run.likes_iff lawful run healthy records).mp ⟨key, back⟩
            have named : key = portalKey := by
              by_contra different
              exact keeps ⟨records, key, writes.portal, different⟩
            refine .missed liked (Database.portalRows_same same) ?_ ?_
            · have rows : _ = other.database.portalRows portalKey ++ _ :=
                Database.portalRows_append grown
              rwa [if_pos (keyed.trans named), decided] at rows
            · refine ⟨like, changed, stored, ?_, ?_⟩
              · intro started
                exact missing ((related.likes like).mpr (.inl started))
              · intro pair earlier liked
                exact missing ((related.likes like).mpr (.inr ⟨pair, earlier, liked⟩))
          · have back : Writes service call (service.target call).2 world (service.target call).1
                key row :=
              writes.again repeats.request.symm repeats.time.symm related.accounts.symm
                fun like likes _ member => overtaken ⟨like, likes, member⟩
            exact absurd back (silent repeats.fresh _ _)
      | idle silentToo sameToo _ =>
          have rows : ∀ {before after : World},
              after.database.activityEvents = before.database.activityEvents →
              after.database.portalRows portalKey = before.database.portalRows portalKey ++ [] := by
            intro before after unchanged
            rw [List.append_nil]
            exact Database.portalRows_same unchanged
          refine .alike (rows same) (rows sameToo) ?_
          · intro ⟨like, changed, _, unstored, unliked⟩
            obtain ⟨key, likes⟩ := (Run.likes_iff lawful run healthy records).mpr changed
            have again := likes.again repeats.request repeats.time related.accounts
            exact silentToo repeats.freshAgain _ _
              (.like again (absentToo like unstored unliked))

/-- A request that both runs meet keeps what they have in common. -/
theorem Service.Related.kept {entries others : List Service.Entry}
    (lawful : service.postgres.Lawful) (run : service.Run Environment.Healthy entries world)
    (also : service.Run Environment.Healthy others other) (healthy : call.environment.Healthy)
    (healthyToo : repeated.environment.Healthy) (keeps : ¬ service.NamesOther portalKey call)
    (repeats : Repeats call world repeated other)
    (related : service.Related portalKey start pairs world other) :
    service.Related portalKey start
      (pairs ++ [((service.machine Environment.Healthy).event call world,
        (service.machine Environment.Healthy).event repeated other)])
      (service.serve call world).2 (service.serve repeated other).2 := by
  have records := repeats.records
  have recordsToo : repeated.request.Records := repeats.request ▸ records
  have accounts : world.database.SameAccounts (service.serve call world).2.database :=
    (Run.portalEffect lawful run healthy records).accounts
  have accountsToo : other.database.SameAccounts (service.serve repeated other).2.database :=
    (Run.portalEffect lawful also healthyToo recordsToo).accounts
  have stored : ∀ like, like ∈ (service.serve repeated other).2.database.likeSet ↔
      like ∈ other.database.likeSet ∨
        service.likeChange ((service.machine Environment.Healthy).event call world) =
          some ⟨like, true⟩ := by
    intro like
    rw [Run.mem_likeSet_next lawful also healthyToo recordsToo,
      Run.likeChange_repeated lawful run also healthy healthyToo repeats related.accounts]
  have rows := related.keptRows lawful run also healthy healthyToo keeps repeats
  constructor
  case accounts =>
    exact ⟨accountsToo.users.trans (related.accounts.users.trans accounts.users.symm),
      accountsToo.authSessions.trans
        (related.accounts.authSessions.trans accounts.authSessions.symm)⟩
  case shown =>
    intro like member
    apply (Run.mem_likeSet_next lawful run healthy records).mpr
    cases (stored like).mp member with
    | inl old => exact .inl (related.shown old)
    | inr new => exact .inr new
  case likes =>
    intro like
    rw [stored like, related.likes like]
    simp [or_and_right, exists_or, or_assoc]
  case sublist =>
    cases rows with
    | alike here there _ =>
        exact here ▸ there ▸ related.sublist.append (List.Sublist.refl _)
    | missed _ here there _ =>
        exact here ▸ there ▸ related.sublist.trans (List.sublist_append_left _ _)
  case others =>
    cases rows with
    | alike here there _ =>
        have here : (service.serve call world).2.database.portalRows portalKey = _ := here
        have there : (service.serve repeated other).2.database.portalRows portalKey = _ := there
        rw [here, there, List.filter_append, List.filter_append]
        exact congrArg (· ++ _) related.others
    | missed like here there _ =>
        have here : (service.serve call world).2.database.portalRows portalKey = _ := here
        have there : (service.serve repeated other).2.database.portalRows portalKey = _ := there
        rw [here, there, List.filter_append, List.filter_cons_of_neg (by simp [like]),
          List.filter_nil, List.append_nil]
        exact related.others
  case same_iff =>
    rw [interferes_append, not_or]
    cases rows with
    | alike here there clear =>
        have here : (service.serve call world).2.database.portalRows portalKey = _ := here
        have there : (service.serve repeated other).2.database.portalRows portalKey = _ := there
        rw [here, there]
        constructor
        · intro same
          exact ⟨related.same_iff.mp (List.append_cancel_right same), clear⟩
        · intro ⟨untouched, _⟩
          exact congrArg (· ++ _) (related.same_iff.mpr untouched)
    | missed _ here there overshadowed =>
        have here : (service.serve call world).2.database.portalRows portalKey = _ := here
        have there : (service.serve repeated other).2.database.portalRows portalKey = _ := there
        refine iff_of_false ?_ (fun untouched => untouched.2 overshadowed)
        intro same
        have longer := congrArg List.length (here.symm.trans (same.trans there))
        have shorter := related.sublist.length_le
        simp only [Machine.event, List.length_append, List.length_cons, List.length_nil] at longer
        omega

end Relation

/-- In a run and the run without the requests that name another portal, the
events of the portal are the same unless a like of it is overshadowed, and all
but the missing `like` events are there in any case. -/
theorem portals_interfere_by_likes {service : Service} (lawful : service.postgres.Lawful)
    {entries : List Service.Entry} {start : World}
    (run : service.Run Environment.Healthy entries start) {portalKey : Bytes}
    {pairs : List (Service.Entry × Service.Entry)} {world other : World}
    (pruned : service.Pruned portalKey start pairs world other) :
    (world.database.portalRows portalKey = other.database.portalRows portalKey ↔
        ¬ service.Interferes start pairs) ∧
      (world.database.portalRows portalKey).Sublist (other.database.portalRows portalKey) ∧
      (world.database.portalRows portalKey).filter (·.eventType ≠ bytes "like") =
        (other.database.portalRows portalKey).filter (·.eventType ≠ bytes "like") := by
  have related : service.Related portalKey start pairs world other := by
    apply Machine.Pruned.related run Service.Related.refl _ _ pruned
    · intro pairs first second state reached input run _ admitted names holds
      exact holds.dropped lawful run admitted names
    · intro pairs first second state reached input again run also admitted healthy keeps repeats
        holds
      exact holds.kept lawful run also admitted healthy keeps repeats
  exact ⟨related.same_iff, related.sublist, related.others⟩

namespace Reference

def sportsLiking : Members := [("portal_key", bytes "sports"), ("anonymous_id", visitor)]

def portals : Service := service (bodies [sportsLiking, liking])

def sportsLike : Call := put "/content/a1/like" none sportsLiking 1 0

def newsLike : Call := put "/content/a1/like" none liking 2 0

/-- A visitor likes a post through one portal and then through another. -/
def likedTwice : World := (portals.serve newsLike (portals.serve sportsLike start).2).2

def likedOnce : World := (portals.serve newsLike start).2

def likedPairs : List (Service.Entry × Service.Entry) :=
  [((portals.machine Environment.Healthy).event newsLike (portals.serve sportsLike start).2,
    (portals.machine Environment.Healthy).event newsLike start)]

theorem fresh_of_empty {environment : Environment} {database : Database}
    (sessions : database.authSessions = []) (comments : database.comments = []) :
    environment.Fresh database where
  sessions := by simp [sessions]
  comments := by simp [comments]

theorem liked_pruned : portals.Pruned (bytes "news") start likedPairs likedTwice likedOnce := by
  have records : ∀ {members : Members} {seed : Nat},
      (put "/content/a1/like" none members seed 0).request.Records := by
    intro members seed
    have path : bytes "/content/a1/like" = bytes "/content/" ++ bytes "a1" ++ bytes "/like" := by
      decide
    exact .like rfl ⟨path, by decide⟩
  have sports : portalKeyField (portals.target sportsLike).2 = some (bytes "sports") := by
    decide +kernel
  have news : portalKeyField (portals.target newsLike).2 = some (bytes "news") := by
    decide +kernel
  have middle : portals.Pruned (bytes "news") start [] (portals.serve sportsLike start).2 start :=
    .dropped sportsLike .start (environment_healthy 1 0) ⟨records, _, sports, by decide⟩
  refine .kept newsLike newsLike middle (environment_healthy 2 0) (environment_healthy 2 0) ?_ ?_
  · intro ⟨_, other, named, different⟩
    exact different (Option.some.inj (named.symm.trans news))
  · exact ⟨records, rfl, by decide +kernel, fresh_of_empty (by decide +kernel) (by decide +kernel),
      fresh_of_empty rfl rfl⟩

end Reference

/-- With the like through the other portal the portal gets no event, and without
it one. -/
theorem portal_event_missing :
    Reference.portals.Pruned (bytes "news") Reference.start Reference.likedPairs
        Reference.likedTwice Reference.likedOnce ∧
      Reference.likedTwice.database.portalRows (bytes "news") ≠
        Reference.likedOnce.database.portalRows (bytes "news") ∧
      Reference.likedTwice.database.portalRows (bytes "news") = [] ∧
      (Reference.likedOnce.database.portalRows (bytes "news")).map (·.eventType) =
        [bytes "like"] :=
  ⟨Reference.liked_pruned, by decide +kernel, by decide +kernel, by decide +kernel⟩

/-- The second like is overshadowed by the first. -/
theorem portals_interfere_by_likes_twice :
    Reference.portals.Interferes Reference.start Reference.likedPairs ∧
      (Reference.likedTwice.database.portalRows (bytes "news")).Sublist
        (Reference.likedOnce.database.portalRows (bytes "news")) := by
  obtain ⟨same_iff, sublist, _⟩ := portals_interfere_by_likes Reference.lawful
    (.start ⟨rfl, rfl⟩) Reference.liked_pruned
  refine ⟨?_, sublist⟩
  have differ : Reference.likedTwice.database.portalRows (bytes "news") ≠
      Reference.likedOnce.database.portalRows (bytes "news") := by decide +kernel
  exact not_not.mp fun clear => differ (same_iff.mpr clear)

end PortalApi
