import PortalApi.Http.Actor

/-! Every way an activity, a like and a comment end. -/

set_option autoImplicit false

namespace PortalApi

open Library

/-- The `portal_key` of the body, when it is accepted. -/
def portalKeyField (json : Option Json) : Option Bytes :=
  match portalHttpJsonString json (bytes "portal_key") 1 120 with
  | some portalKey => if portalValidationKey (some portalKey) 120 then some portalKey else none
  | none => none

structure ActivityFields where
  portalKey : Bytes
  eventType : Bytes
  contentId : Bytes
  componentId : Bytes
  pageUrl : Bytes

def activityFields (json : Option Json) : Option ActivityFields :=
  match portalKeyField json, portalHttpJsonString json (bytes "event_type") 1 40 with
  | some portalKey, some eventType =>
    if portalValidationEventType (some eventType) then
      some {
        portalKey, eventType
        contentId := (portalHttpJsonOptionalString json (bytes "content_id") 300).getD []
        componentId := (portalHttpJsonOptionalString json (bytes "component_id") 300).getD []
        pageUrl := (portalHttpJsonOptionalString json (bytes "page_url") 2000).getD [] }
    else none
  | _, _ => none

structure CommentFields where
  portalKey : Bytes
  body : Bytes
  authorName : Bytes

def commentFields (contentId : Bytes) (json : Option Json) : Option CommentFields :=
  match portalKeyField json, portalHttpJsonString json (bytes "body") 1 5000 with
  | some portalKey, some body =>
    if portalValidationKey (some contentId) 300 then
      some {
        portalKey, body
        authorName := (portalHttpJsonOptionalString json (bytes "author_name") 100).getD [] }
    else none
  | _, _ => none

def ActivityFields.statement (fields : ActivityFields) (postgres : Postgres) (actor : Actor)
    (data : Bytes) : Statement :=
  .activityInsert (actor.userIdText postgres) actor.anonymousIdText fields.portalKey
    fields.eventType fields.contentId fields.componentId fields.pageUrl data

/-- The event an activity stores in this database. -/
def ActivityFields.event (fields : ActivityFields) (transaction : Transaction)
    (database : Database) (actor : Actor) (stored : Bytes) : ActivityEventRow :=
  recordedEvent transaction database actor.userId actor.anonymousId fields.portalKey
    fields.eventType (nullIf fields.contentId) (nullIf fields.componentId) (nullIf fields.pageUrl)
    stored

def likeStatement (postgres : Postgres) (contentId : Bytes) (actor : Actor) :
    Option Bytes → Statement
  | some portalKey => .likeInsert contentId (actor.userIdText postgres) actor.anonymousIdText
      (actor.key postgres) portalKey
  | none => .likeDelete contentId (actor.key postgres)

/-- The row and the event a like stores in this database. -/
def Actor.like (actor : Actor) (postgres : Postgres) (transaction : Transaction)
    (database : Database) (contentId : Bytes) : ContentLikeRow :=
  addedLike transaction database contentId actor.userId actor.anonymousId (actor.key postgres)

def Actor.derivedEvent (actor : Actor) (transaction : Transaction) (database : Database)
    (portalKey eventType contentId : Bytes) : ActivityEventRow :=
  PortalApi.derivedEvent transaction database actor.userId actor.anonymousId portalKey eventType
    contentId

/-- The likes after this actor's like of a content is removed. -/
def Database.unlike (database : Database) (contentId actorKey : Bytes) : Database :=
  { database with
    contentLikes := database.contentLikes.filter fun row =>
      !(row.contentId = contentId && row.actorKey = actorKey) }

def CommentFields.statement (fields : CommentFields) (postgres : Postgres) (actor : Actor)
    (contentId : Bytes) : Statement :=
  .commentInsert contentId (actor.userIdText postgres) actor.anonymousIdText fields.authorName
    fields.body fields.portalKey

def CommentFields.comment (fields : CommentFields) (transaction : Transaction) (actor : Actor)
    (contentId : Bytes) : CommentRow :=
  addedComment transaction contentId actor.userId actor.anonymousId (nullIf fields.authorName)
    fields.body

def eventResponse (event : ActivityEventRow) : Response :=
  jsonResponse 201 (activityJson (some (.tuples [[decimal event.id]])))

def commentResponse (postgres : Postgres) (comment : CommentRow) : Response :=
  jsonResponse 201 (commentJson (some (.tuples
    [[postgres.uuidOut comment.id, postgres.timestampOut comment.createdAt]])))

def likeFailure (put : Bool) : Response :=
  errorResponse 500 "database_error"
    (if put then "Could not store the like." else "Could not remove the like.")

section Ends

variable (postgres : Postgres) (environment : Environment) (jsonC : JsonC) (request : Request)
  (contentId : Bytes) (json : Option Json) (world : World)

inductive ActivityEnds : Option Response → World → Prop where
  | invalid {reply : Option Response} : activityFields json = none →
      Answered environment (errorResponse 400 "validation_error"
        "portal_key and a supported event_type are required.") reply →
      ActivityEnds reply world
  | refused {reply : Option Response} {after : World} {fields : ActivityFields}
      {response : Response} : activityFields json = some fields →
      ActorRefused postgres environment request json world response after →
      Answered environment response reply → ActivityEnds reply after
  | invalidData {reply : Option Response} {after : World} {fields : ActivityFields}
      {actor : Actor} : activityFields json = some fields →
      Acts postgres environment request json world actor after → activityEventData jsonC json = none →
      Answered environment (errorResponse 400 "validation_error"
        "event_data must be a JSON object.") reply →
      ActivityEnds reply after
  | failed {reply : Option Response} {middle after : World} {fields : ActivityFields}
      {actor : Actor} {data : Bytes} {result : Option PgResult} :
      activityFields json = some fields → Acts postgres environment request json world actor middle →
      activityEventData jsonC json = some data →
      middle.Failed postgres environment (fields.statement postgres actor data) result after →
      Answered environment (errorResponse 500 "database_error" "Could not record activity.") reply →
      ActivityEnds reply after
  | recorded {reply : Option Response} {middle after : World} {fields : ActivityFields}
      {actor : Actor} {data stored : Bytes} {transaction : Transaction} :
      activityFields json = some fields → Acts postgres environment request json world actor middle →
      activityEventData jsonC json = some data →
      (fields.statement postgres actor data).Encoded → postgres.jsonbIn data = some stored →
      transaction.now = after.clock → middle.clock ≤ after.clock →
      after.connection = .connectionOk →
      after.database = { world.database with
        activityEvents := world.database.activityEvents ++
          [fields.event transaction world.database actor stored] } →
      Answered environment (eventResponse (fields.event transaction world.database actor stored))
        reply →
      ActivityEnds reply after

inductive LikeEnds : Option Response → World → Prop where
  | invalid {reply : Option Response} : portalValidationKey (some contentId) 300 = false →
      Answered environment (errorResponse 400 "validation_error"
        "The content id contains unsupported characters.") reply →
      LikeEnds reply world
  | refused {reply : Option Response} {after : World} {response : Response} :
      portalValidationKey (some contentId) 300 = true →
      ActorRefused postgres environment request json world response after →
      Answered environment response reply → LikeEnds reply after
  | invalidPortal {reply : Option Response} {after : World} {actor : Actor} :
      portalValidationKey (some contentId) 300 = true →
      Acts postgres environment request json world actor after → request.isPut = true →
      portalKeyField json = none →
      Answered environment (errorResponse 400 "validation_error"
        "portal_key is required for a like.") reply →
      LikeEnds reply after
  | failed {reply : Option Response} {middle after : World} {actor : Actor}
      {portal : Option Bytes} {result : Option PgResult} :
      portalValidationKey (some contentId) 300 = true →
      Acts postgres environment request json world actor middle →
      (∀ portalKey, portal = some portalKey →
        request.isPut = true ∧ portalKeyField json = some portalKey) →
      middle.Failed postgres environment (likeStatement postgres contentId actor portal) result
        after →
      Answered environment (likeFailure portal.isSome) reply → LikeEnds reply after
  | liked {reply : Option Response} {middle after : World} {actor : Actor} {portalKey : Bytes}
      {transaction : Transaction} : portalValidationKey (some contentId) 300 = true →
      Acts postgres environment request json world actor middle → request.isPut = true →
      portalKeyField json = some portalKey → transaction.now = after.clock →
      middle.clock ≤ after.clock → after.connection = .connectionOk →
      (∀ row ∈ world.database.contentLikes,
        ¬ (row.contentId = contentId ∧ row.actorKey = actor.key postgres)) →
      after.database = { world.database with
        contentLikes := world.database.contentLikes ++
          [actor.like postgres transaction world.database contentId]
        activityEvents := world.database.activityEvents ++
          [actor.derivedEvent transaction world.database portalKey (bytes "like") contentId] } →
      Answered environment (textResponse 204 []) reply → LikeEnds reply after
  | present {reply : Option Response} {middle after : World} {actor : Actor} {portalKey : Bytes} :
      portalValidationKey (some contentId) 300 = true →
      Acts postgres environment request json world actor middle → request.isPut = true →
      portalKeyField json = some portalKey → middle.clock ≤ after.clock →
      after.database = world.database → after.connection = .connectionOk →
      (∃ row ∈ world.database.contentLikes,
        row.contentId = contentId ∧ row.actorKey = actor.key postgres) →
      Answered environment (textResponse 204 []) reply → LikeEnds reply after
  | unliked {reply : Option Response} {middle after : World} {actor : Actor} :
      portalValidationKey (some contentId) 300 = true →
      Acts postgres environment request json world actor middle → request.isPut = false →
      middle.clock ≤ after.clock → after.connection = .connectionOk →
      after.database = world.database.unlike contentId (actor.key postgres) →
      Answered environment (textResponse 204 []) reply → LikeEnds reply after

inductive CommentEnds : Option Response → World → Prop where
  | invalid {reply : Option Response} : commentFields contentId json = none →
      Answered environment (errorResponse 400 "validation_error"
        "content id, portal_key and comment body are required.") reply →
      CommentEnds reply world
  | refused {reply : Option Response} {after : World} {fields : CommentFields}
      {response : Response} : commentFields contentId json = some fields →
      ActorRefused postgres environment request json world response after →
      Answered environment response reply → CommentEnds reply after
  | failed {reply : Option Response} {middle after : World} {fields : CommentFields}
      {actor : Actor} {result : Option PgResult} : commentFields contentId json = some fields →
      Acts postgres environment request json world actor middle →
      middle.Failed postgres environment (fields.statement postgres actor contentId) result after →
      Answered environment (errorResponse 500 "database_error" "Could not store the comment.")
        reply →
      CommentEnds reply after
  | commented {reply : Option Response} {middle after : World} {fields : CommentFields}
      {actor : Actor} {transaction : Transaction} : commentFields contentId json = some fields →
      Acts postgres environment request json world actor middle →
      (fields.statement postgres actor contentId).Encoded → environment.Offers transaction →
      transaction.now = after.clock → middle.clock ≤ after.clock →
      after.connection = .connectionOk →
      (∀ row ∈ world.database.comments,
        row.id ≠ (fields.comment transaction actor contentId).id) →
      after.database = { world.database with
        comments := world.database.comments ++ [fields.comment transaction actor contentId]
        activityEvents := world.database.activityEvents ++
          [actor.derivedEvent transaction world.database fields.portalKey (bytes "comment")
            contentId] } →
      Answered environment (commentResponse postgres (fields.comment transaction actor contentId))
        reply →
      CommentEnds reply after

end Ends

section Runs

variable {postgres : Postgres} {environment : Environment} {jsonC : JsonC} {request : Request}
  {contentId : Bytes} {json : Option Json} {exchange : Exchange}

theorem Actor.owner_eq (lawful : postgres.Lawful) {actor : Actor} {owner : Option Uuid}
    (read : nullIfUuid postgres (actor.userIdText postgres) = .ok owner) :
    owner = actor.userId := by
  simpa [actor.nullIfUuid_userIdText lawful, eq_comm] using read

theorem portalKeyField_eq_some {portalKey : Bytes} :
    portalKeyField json = some portalKey ↔
      portalHttpJsonString json (bytes "portal_key") 1 120 = some portalKey ∧
        portalValidationKey (some portalKey) 120 = true := by
  unfold portalKeyField
  cases portalHttpJsonString json (bytes "portal_key") 1 120 with
  | none => simp
  | some found =>
      simp only [Option.some.injEq]
      split
      · next accepted =>
          simp only [Option.some.injEq]
          exact ⟨fun same => ⟨same, same ▸ accepted⟩, And.left⟩
      · next refused =>
          simp only [reduceCtorEq, false_iff]
          rintro ⟨rfl, accepted⟩
          exact refused accepted

theorem activityFields_eq_some {fields : ActivityFields} :
    activityFields json = some fields ↔
      portalKeyField json = some fields.portalKey ∧
        portalHttpJsonString json (bytes "event_type") 1 40 = some fields.eventType ∧
        portalValidationEventType (some fields.eventType) = true ∧
        fields.contentId = (portalHttpJsonOptionalString json (bytes "content_id") 300).getD [] ∧
        fields.componentId = (portalHttpJsonOptionalString json (bytes "component_id") 300).getD [] ∧
        fields.pageUrl = (portalHttpJsonOptionalString json (bytes "page_url") 2000).getD [] := by
  obtain ⟨portalKey, eventType, contentId, componentId, pageUrl⟩ := fields
  unfold activityFields
  cases portalKeyField json with
  | none => simp
  | some portal =>
  cases portalHttpJsonString json (bytes "event_type") 1 40 with
  | none => simp
  | some event =>
      simp only [Option.some.injEq]
      split
      · next accepted =>
          simp only [Option.some.injEq, ActivityFields.mk.injEq]
          constructor
          · rintro ⟨rfl, rfl, rfl, rfl, rfl⟩
            exact ⟨rfl, rfl, accepted, rfl, rfl, rfl⟩
          · rintro ⟨rfl, rfl, _, rfl, rfl, rfl⟩
            exact ⟨rfl, rfl, rfl, rfl, rfl⟩
      · next refused =>
          simp only [reduceCtorEq, false_iff]
          rintro ⟨rfl, rfl, accepted, _⟩
          exact refused accepted

theorem commentFields_eq_some {fields : CommentFields} :
    commentFields contentId json = some fields ↔
      portalValidationKey (some contentId) 300 = true ∧
        portalKeyField json = some fields.portalKey ∧
        portalHttpJsonString json (bytes "body") 1 5000 = some fields.body ∧
        fields.authorName = (portalHttpJsonOptionalString json (bytes "author_name") 100).getD [] := by
  obtain ⟨portalKey, body, authorName⟩ := fields
  unfold commentFields
  cases portalKeyField json with
  | none => simp
  | some portal =>
  cases portalHttpJsonString json (bytes "body") 1 5000 with
  | none => simp
  | some text =>
      simp only [Option.some.injEq]
      split
      · next accepted =>
          simp only [Option.some.injEq, CommentFields.mk.injEq]
          constructor
          · rintro ⟨rfl, rfl, rfl⟩
            exact ⟨accepted, rfl, rfl, rfl⟩
          · rintro ⟨_, rfl, rfl, rfl⟩
            exact ⟨rfl, rfl, rfl⟩
      · next refused =>
          simp only [reduceCtorEq, false_iff]
          rintro ⟨accepted, _⟩
          exact refused accepted

/-- The check that opens the activity route refuses exactly the missing fields. -/
theorem activityFields_eq_none :
    activityFields json = none ↔
      ((portalHttpJsonString json (bytes "portal_key") 1 120).isNone ||
        (portalHttpJsonString json (bytes "event_type") 1 40).isNone ||
        !portalValidationKey (portalHttpJsonString json (bytes "portal_key") 1 120) 120 ||
        !portalValidationEventType (portalHttpJsonString json (bytes "event_type") 1 40)) = true := by
  unfold activityFields portalKeyField
  cases portalHttpJsonString json (bytes "portal_key") 1 120 with
  | none => simp
  | some portalKey =>
  cases portalHttpJsonString json (bytes "event_type") 1 40 with
  | none => simp
  | some eventType =>
      cases key : portalValidationKey (some portalKey) 120 <;>
        cases type : portalValidationEventType (some eventType) <;> simp [key, type]

theorem commentFields_eq_none :
    commentFields contentId json = none ↔
      (!portalValidationKey (some contentId) 300 ||
        (portalHttpJsonString json (bytes "portal_key") 1 120).isNone ||
        !portalValidationKey (portalHttpJsonString json (bytes "portal_key") 1 120) 120 ||
        (portalHttpJsonString json (bytes "body") 1 5000).isNone) = true := by
  unfold commentFields portalKeyField
  cases portalHttpJsonString json (bytes "portal_key") 1 120 with
  | none => simp
  | some portalKey =>
  cases portalHttpJsonString json (bytes "body") 1 5000 with
  | none => simp
  | some body =>
      cases content : portalValidationKey (some contentId) 300 <;>
        cases key : portalValidationKey (some portalKey) 120 <;> simp [key]

theorem portalHttpRouteActivity_ends (lawful : postgres.Lawful)
    (valid : exchange.world.database.Valid postgres.lower) (idle : exchange.Idle) :
    ActivityEnds postgres environment jsonC request json exchange.world
      ((portalHttpRouteActivity jsonC request json).run (interpret postgres environment)
        exchange).2.reply
      ((portalHttpRouteActivity jsonC request json).run (interpret postgres environment)
        exchange).2.world := by
  unfold portalHttpRouteActivity
  cases read : activityFields json with
  | none =>
      rw [if_pos (activityFields_eq_none.mp read)]
      simp only [run_portalHttpResponseError, Exchange.answer_world]
      exact .invalid read (Exchange.answer_answered idle.attempts (·.reports) _)
  | some fields =>
      obtain ⟨portalKey, eventType, _, contentId, componentId, pageUrl⟩ :=
        activityFields_eq_some.mp read
      rw [if_neg (mt activityFields_eq_none.mpr (by simp [read]))]
      obtain ⟨⟨status, loaded⟩, middle, ran, still, ends⟩ :=
        activityLoadActor_ends environment request json lawful valid idle.statements
      have calm : middle.attempts = [] := still.trans idle.attempts
      simp only [Program.run_bind, ran]
      rcases ends with ⟨response, rfl, refused, answer⟩ | ⟨actor, acts, load⟩
      · rw [if_pos rfl, answer, Exchange.answer_world]
        exact .refused read refused (Exchange.answer_answered calm (·.reports) _)
      rw [if_neg load.valid]
      cases data : activityEventData jsonC json with
      | none =>
          simp only [run_portalHttpResponseError, Exchange.answer_world]
          exact .invalidData read acts data (Exchange.answer_answered calm (·.reports) _)
      | some dataText =>
          have portal := (portalKeyField_eq_some.mp portalKey).1
          have sent : Statement.activityInsert (actorUserId status loaded)
              (actorAnonymousId status loaded)
              ((portalHttpJsonString json (bytes "portal_key") 1 120).getD [])
              ((portalHttpJsonString json (bytes "event_type") 1 40).getD [])
              ((portalHttpJsonOptionalString json (bytes "content_id") 300).getD [])
              ((portalHttpJsonOptionalString json (bytes "component_id") 300).getD [])
              ((portalHttpJsonOptionalString json (bytes "page_url") 2000).getD []) dataText =
              fields.statement postgres actor dataText := by
            simp only [ActivityFields.statement, load.userId, load.anonymousId, portal, eventType,
              contentId, componentId, pageUrl, Option.getD_some]
          have quiet : (middle.query postgres environment
              (fields.statement postgres actor dataText)).2.attempts = [] := by simp [calm]
          simp only [Program.run_bind, run_portalDatabaseQuery, sent]
          rcases middle.query_cases postgres environment (fields.statement postgres actor dataText)
            with failed | ⟨transaction, outcome, result, committed⟩
          · rw [if_pos failed.status_ne.1]
            simp only [run_portalHttpResponseError, Exchange.answer_world]
            exact .failed read acts data failed (Exchange.answer_answered quiet (·.reports) _)
          · obtain ⟨encoded, executed⟩ := execute_eq_ok.mp committed.executed
            obtain ⟨stored, owner, event, converted, cast, rfl, _, _, ran⟩ :=
              executeActivityInsert_eq_ok.mp executed
            obtain rfl := Actor.owner_eq lawful cast
            obtain ⟨rfl, same⟩ := Prod.mk.inj ran
            rw [result, if_neg (by simp)]
            simp only [Program.run_bind, run_describing, Exchange.answer_world]
            rw [acts.kept.database, actor.nullIf_anonymousIdText] at same ⊢
            exact .recorded read acts data encoded converted committed.now committed.clock
              committed.connection same (Exchange.answer_answered quiet (·.describes) _)

theorem portalHttpRouteComment_ends (lawful : postgres.Lawful)
    (valid : exchange.world.database.Valid postgres.lower) (idle : exchange.Idle) :
    CommentEnds postgres environment request contentId json exchange.world
      ((portalHttpRouteComment request contentId json).run (interpret postgres environment)
        exchange).2.reply
      ((portalHttpRouteComment request contentId json).run (interpret postgres environment)
        exchange).2.world := by
  unfold portalHttpRouteComment
  cases read : commentFields contentId json with
  | none =>
      rw [if_pos (commentFields_eq_none.mp read)]
      simp only [run_portalHttpResponseError, Exchange.answer_world]
      exact .invalid read (Exchange.answer_answered idle.attempts (·.reports) _)
  | some fields =>
      obtain ⟨_, portalKey, body, authorName⟩ := commentFields_eq_some.mp read
      have portal := (portalKeyField_eq_some.mp portalKey).1
      rw [if_neg (mt commentFields_eq_none.mpr (by simp [read]))]
      obtain ⟨⟨status, loaded⟩, middle, ran, still, ends⟩ :=
        activityLoadActor_ends environment request json lawful valid idle.statements
      have calm : middle.attempts = [] := still.trans idle.attempts
      simp only [Program.run_bind, ran]
      rcases ends with ⟨response, rfl, refused, answer⟩ | ⟨actor, acts, load⟩
      · rw [if_pos rfl, answer, Exchange.answer_world]
        exact .refused read refused (Exchange.answer_answered calm (·.reports) _)
      have sent : Statement.commentInsert contentId (actorUserId status loaded)
          (actorAnonymousId status loaded)
          ((portalHttpJsonOptionalString json (bytes "author_name") 100).getD [])
          ((portalHttpJsonString json (bytes "body") 1 5000).getD [])
          ((portalHttpJsonString json (bytes "portal_key") 1 120).getD []) =
          fields.statement postgres actor contentId := by
        simp only [CommentFields.statement, load.userId, load.anonymousId, portal, body,
          authorName, Option.getD_some]
      have quiet : (middle.query postgres environment
          (fields.statement postgres actor contentId)).2.attempts = [] := by simp [calm]
      rw [if_neg load.valid]
      simp only [Program.run_bind, run_portalDatabaseQuery, sent]
      rcases middle.query_cases postgres environment (fields.statement postgres actor contentId)
        with failed | ⟨transaction, outcome, result, committed⟩
      · rw [if_pos (by simp [failed.status])]
        simp only [run_portalHttpResponseError, Exchange.answer_world]
        exact .failed read acts failed (Exchange.answer_answered quiet (·.reports) _)
      · obtain ⟨encoded, executed⟩ := execute_eq_ok.mp committed.executed
        obtain ⟨owner, comment, event, cast, rfl, rfl, _, unused, _, _, ran⟩ :=
          executeCommentInsert_eq_ok.mp executed
        obtain rfl := Actor.owner_eq lawful cast
        obtain ⟨rfl, same⟩ := Prod.mk.inj ran
        rw [result, if_neg (by simp)]
        simp only [Program.run_bind, run_describing, Exchange.answer_world]
        rw [acts.kept.database, actor.nullIf_anonymousIdText] at same
        rw [acts.kept.database] at unused
        exact .commented read acts encoded committed.offered committed.now committed.clock
          committed.connection unused same (Exchange.answer_answered quiet (·.describes) _)

theorem portalKeyField_eq_none :
    portalKeyField json = none ↔
      ((portalHttpJsonString json (bytes "portal_key") 1 120).isNone ||
        !portalValidationKey (portalHttpJsonString json (bytes "portal_key") 1 120) 120) = true := by
  unfold portalKeyField
  cases portalHttpJsonString json (bytes "portal_key") 1 120 with
  | none => simp
  | some portalKey => cases key : portalValidationKey (some portalKey) 120 <;> simp [key]

theorem portalHttpRouteLike_ends (lawful : postgres.Lawful)
    (valid : exchange.world.database.Valid postgres.lower) (idle : exchange.Idle) :
    LikeEnds postgres environment request contentId json exchange.world
      ((portalHttpRouteLike request contentId json).run (interpret postgres environment)
        exchange).2.reply
      ((portalHttpRouteLike request contentId json).run (interpret postgres environment)
        exchange).2.world := by
  unfold portalHttpRouteLike
  cases content : portalValidationKey (some contentId) 300 with
  | false =>
      rw [if_pos (by simp)]
      simp only [run_portalHttpResponseError, Exchange.answer_world]
      exact .invalid content (Exchange.answer_answered idle.attempts (·.reports) _)
  | true =>
      rw [if_neg (by simp)]
      obtain ⟨⟨status, loaded⟩, middle, ran, still, ends⟩ :=
        activityLoadActor_ends environment request json lawful valid idle.statements
      have calm : middle.attempts = [] := still.trans idle.attempts
      simp only [Program.run_bind, ran]
      rcases ends with ⟨response, rfl, refused, answer⟩ | ⟨actor, acts, load⟩
      · rw [if_pos rfl, answer, Exchange.answer_world]
        exact .refused content refused (Exchange.answer_answered calm (·.reports) _)
      have actorKey : loaded.actorKey = actor.key postgres := load.actorKey
      rw [if_neg load.valid]
      cases put : request.isPut with
      | true =>
          have method : request.method = bytes "PUT" := by simpa [Request.isPut] using put
          cases read : portalKeyField json with
          | none =>
              have missing := portalKeyField_eq_none.mp read
              rw [if_pos (by simpa [method] using missing)]
              simp only [run_portalHttpResponseError, Exchange.answer_world]
              exact .invalidPortal content acts put read
                (Exchange.answer_answered calm (·.reports) _)
          | some portalKey =>
              have found : portalKeyField json ≠ none := by simp [read]
              have present := mt portalKeyField_eq_none.mpr found
              have portal := (portalKeyField_eq_some.mp read).1
              rw [if_neg (by simpa [method] using present)]
              have sent : Statement.likeInsert contentId (actorUserId status loaded)
                  (actorAnonymousId status loaded) loaded.actorKey
                  ((portalHttpJsonString json (bytes "portal_key") 1 120).getD []) =
                  likeStatement postgres contentId actor (some portalKey) := by
                simp only [likeStatement, load.userId, load.anonymousId, actorKey, portal,
                  Option.getD_some]
              have quiet : (middle.query postgres environment
                  (likeStatement postgres contentId actor (some portalKey))).2.attempts = [] := by
                simp [calm]
              simp only [method, ↓reduceIte, Program.run_bind, run_portalDatabaseQuery, sent]
              rcases middle.query_cases postgres environment
                  (likeStatement postgres contentId actor (some portalKey))
                with failed | ⟨transaction, outcome, result, committed⟩
              · rw [if_pos (by simp [failed.status])]
                simp only [run_portalHttpResponseError, Exchange.answer_world]
                exact .failed content acts (fun _ same => ⟨put, Option.some.inj same ▸ read⟩) failed
                  (Exchange.answer_answered quiet (·.reports) _)
              · obtain ⟨owner, like, cast, rfl, _, change⟩ :=
                  executeLikeInsert_eq_ok.mp (execute_eq_ok.mp committed.executed).2
                obtain rfl := Actor.owner_eq lawful cast
                rw [acts.kept.database, actor.nullIf_anonymousIdText] at change
                rcases change with ⟨stored, ran⟩ | ⟨absent, event, rfl, _, _, ran⟩
                · obtain ⟨rfl, same⟩ := Prod.mk.inj ran
                  rw [result, if_neg (by simp)]
                  simp only [run_portalHttpResponseEmpty, Exchange.answer_world]
                  exact .present content acts put read committed.clock same committed.connection
                    stored (Exchange.answer_answered quiet (·.builds) _)
                · obtain ⟨rfl, same⟩ := Prod.mk.inj ran
                  rw [result, if_neg (by simp)]
                  simp only [run_portalHttpResponseEmpty, Exchange.answer_world]
                  exact .liked content acts put read committed.now committed.clock
                    committed.connection absent same (Exchange.answer_answered quiet (·.builds) _)
      | false =>
          have method : request.method ≠ bytes "PUT" := by simpa [Request.isPut] using put
          have quiet : (middle.query postgres environment
              (likeStatement postgres contentId actor none)).2.attempts = [] := by simp [calm]
          have sent : Statement.likeDelete contentId loaded.actorKey =
              likeStatement postgres contentId actor none := by
            simp only [likeStatement, actorKey]
          rw [if_neg (by simp [method])]
          simp only [method, ↓reduceIte, Program.run_bind, run_portalDatabaseQuery, sent]
          rcases middle.query_cases postgres environment (likeStatement postgres contentId actor none)
            with failed | ⟨transaction, outcome, result, committed⟩
          · rw [if_pos (by simp [failed.status])]
            simp only [run_portalHttpResponseError, Exchange.answer_world]
            exact .failed content acts (fun _ same => by cases same) failed
              (Exchange.answer_answered quiet (·.reports) _)
          · have ran := executeLikeDelete_eq_ok.mp (execute_eq_ok.mp committed.executed).2
            obtain ⟨rfl, same⟩ := Prod.mk.inj ran
            rw [result, if_neg (by simp)]
            simp only [run_portalHttpResponseEmpty, Exchange.answer_world]
            rw [acts.kept.database] at same
            exact .unliked content acts put committed.clock committed.connection same
              (Exchange.answer_answered quiet (·.builds) _)

end Runs

end PortalApi
