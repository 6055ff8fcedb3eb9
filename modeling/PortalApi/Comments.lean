import PortalApi.Actions
import PortalApi.Reference

/-! Every stored like and comment has an event behind it. -/

set_option autoImplicit false

namespace PortalApi

open Library

/-- An event of this type for the content and the actor of these columns. -/
structure ActivityEventRow.Backs (event : ActivityEventRow) (eventType : String)
    (contentId : Bytes) (userId : Option Uuid) (anonymousId : Option Bytes) : Prop where
  eventType : event.eventType = bytes eventType
  contentId : event.contentId = some contentId
  userId : event.userId = userId
  anonymousId : event.anonymousId = anonymousId

/-- Every comment has a `comment` event of its own, and every like some `like`
event. -/
structure Database.Backed (database : Database) : Prop where
  comments : Table.Matching
    (fun (comment : CommentRow) (event : ActivityEventRow) =>
      event.Backs "comment" comment.contentId comment.userId comment.anonymousId)
    database.comments database.activityEvents
  likes : ∀ like ∈ database.contentLikes, ∃ event ∈ database.activityEvents,
    event.Backs "like" like.contentId like.userId like.anonymousId

/-- The `id` member of a JSON response. -/
def Response.createdId (response : Response) : Option Bytes :=
  match response.payload with
  | .text _ => none
  | .json value =>
    match value.objectGetEx (bytes "id") with
    | some (.string id) => some id
    | _ => none

/-- The request added exactly one comment and one event, and answered with the
comment's id. -/
structure StoredComment (postgres : Postgres) (world : World) (reply : Option Response)
    (after : World) (comment : CommentRow) (event : ActivityEventRow) : Prop where
  comments : after.database.comments = world.database.comments ++ [comment]
  activityEvents : after.database.activityEvents = world.database.activityEvents ++ [event]
  createdId : reply.bind Response.createdId = some (postgres.uuidOut comment.id)

section Backing

variable {service : Service} {call : Call} {world after : World} {reply : Option Response}

theorem Actor.derivedEvent_backs (actor : Actor) (transaction : Transaction) (database : Database)
    (portalKey contentId : Bytes) (eventType : String) :
    (actor.derivedEvent transaction database portalKey (bytes eventType) contentId).Backs eventType
      contentId actor.userId actor.anonymousId where
  eventType := rfl
  contentId := rfl
  userId := rfl
  anonymousId := rfl

/-- The identity column sets a new event apart from all there are. -/
theorem Actor.derivedEvent_fresh (actor : Actor) (transaction : Transaction) (database : Database)
    (portalKey eventType contentId : Bytes) :
    actor.derivedEvent transaction database portalKey eventType contentId ∉
      database.activityEvents := by
  intro member
  have used : (actor.derivedEvent transaction database portalKey eventType contentId).id ∈
      database.activityEvents.map (·.id) := List.mem_map_of_mem member
  exact Nat.lt_irrefl _ (Table.nextIdentity_above used)

theorem ActionEffect.backed (effect : ActionEffect service call world reply after)
    (holds : world.database.Backed) : after.database.Backed := by
  have grown : ∀ event, world.database.activityEvents ⊆
      world.database.activityEvents ++ [event] := fun _ => List.subset_append_left _ _
  have likes : ∀ event, ∀ like ∈ world.database.contentLikes,
      ∃ backing ∈ world.database.activityEvents ++ [event],
        backing.Backs "like" like.contentId like.userId like.anonymousId := by
    intro event like member
    obtain ⟨backing, stored, backs⟩ := holds.likes like member
    exact ⟨backing, grown event stored, backs⟩
  cases effect with
  | @recorded _ _ event _ _ recorded =>
      rw [recorded.database]
      exact ⟨holds.comments.mono (grown event), likes event⟩
  | @liked contentId portalKey actor transaction _ _ liked =>
      rw [liked.database]
      refine ⟨holds.comments.mono (grown _), forall_mem_append_singleton (likes _) ?_⟩
      exact ⟨_, List.mem_append_right _ (List.mem_singleton.mpr rfl),
        actor.derivedEvent_backs transaction world.database portalKey contentId "like"⟩
  | likePresent _ _ _ _ same => rwa [same]
  | unliked _ _ database =>
      rw [database]
      exact ⟨holds.comments, fun like member => holds.likes like (List.mem_filter.mp member).1⟩
  | @commented fields contentId actor comment event _ _ commented =>
      rw [commented.database]
      refine ⟨?_, likes event⟩
      obtain ⟨transaction, _, rfl, rfl⟩ := commented.rows_eq
      apply holds.comments.append
      · intro member
        exact commented.fresh _ member rfl
      · exact actor.derivedEvent_fresh _ _ _ _ _
      · exact actor.derivedEvent_backs transaction world.database fields.portalKey contentId
          "comment"
  | inactive inactive =>
      constructor
      · rw [inactive.comments, inactive.activityEvents]
        exact holds.comments
      · rw [inactive.contentLikes, inactive.activityEvents]
        exact holds.likes

end Backing

section Answers

variable {service : Service} {call : Call} {world after : World} {reply : Option Response}

@[simp] theorem createdId_commentResponse (postgres : Postgres) (comment : CommentRow) :
    (commentResponse postgres comment).createdId = some (postgres.uuidOut comment.id) := rfl

/-- A comment is answered 201 exactly when it was stored with its event. -/
theorem ActionEffect.stored_iff (effect : ActionEffect service call world reply after)
    (supplied : call.environment.Supplied) {contentId : Bytes}
    (method : call.request.method = bytes "POST")
    (content : call.request.OnContent contentId "/comments") :
    statusOf reply = some 201 ↔
      ∃ comment event, StoredComment service.postgres world reply after comment event := by
  constructor
  · intro created
    cases effect with
    | recorded recorded =>
        exact (content.not_at recorded.request (by decide)).elim
    | liked liked =>
        exact absurd (method.symm.trans liked.method) (by decide)
    | likePresent _ put _ _ _ => exact absurd (method.symm.trans put) (by decide)
    | unliked _ delete _ => exact absurd (method.symm.trans delete) (by decide)
    | @commented _ _ _ comment event _ _ commented =>
        refine ⟨comment, event, ?_, ?_, ?_⟩
        · rw [commented.database]
        · rw [commented.database]
        · simp [commented.answered.supplied supplied]
    | inactive inactive =>
        exact absurd ⟨method, content, created⟩
          (inactive.answered ("POST", "/comments", 201) (by decide) contentId)
  · intro ⟨comment, event, stored⟩
    have grown : after.database.comments ≠ world.database.comments := by
      rw [stored.comments]
      simp
    cases effect with
    | recorded recorded => exact absurd (by rw [recorded.database]) grown
    | liked liked => exact absurd (by rw [liked.database]) grown
    | likePresent _ _ _ _ same => exact absurd (by rw [same]) grown
    | unliked _ _ database => exact absurd (by rw [database]; rfl) grown
    | commented commented =>
        rw [commented.answered.supplied supplied]
        rfl
    | inactive inactive => exact absurd inactive.comments grown

end Answers

namespace Service

variable {service : Service} {admits : Environment → Prop} {entries : List Entry} {world : World}

theorem Run.backed (lawful : service.postgres.Lawful) (run : service.Run admits entries world) :
    world.database.Backed := by
  induction run with
  | start initial =>
      rw [initial.1]
      exact ⟨.nil, by simp [Database.empty]⟩
  | next call reached _ ih => exact (Run.actionEffect lawful reached call).backed ih

end Service

/-- In every reachable state likes and comments have their events, and a comment
request is answered 201 exactly when it stored one comment with one event. -/
theorem comments_and_likes_backed {service : Service} (lawful : service.postgres.Lawful)
    {admits : Environment → Prop} {entries : List Service.Entry} {world : World}
    (run : service.Run admits entries world) :
    world.database.Backed ∧
      ∀ (call : Call) (contentId : Bytes), call.environment.Supplied →
        call.request.method = bytes "POST" → call.request.OnContent contentId "/comments" →
        (statusOf (service.serve call world).1 = some 201 ↔
          ∃ comment event, StoredComment service.postgres world (service.serve call world).1
            (service.serve call world).2 comment event) :=
  ⟨Service.Run.backed lawful run, fun call _ supplied method content =>
    (Service.Run.actionEffect lawful run call).stored_iff supplied method content⟩

namespace Reference

def visitor : Bytes := bytes "visitor-1"

def liking : Members := [("portal_key", bytes "news"), ("anonymous_id", visitor)]

def remark : Members := liking ++ [("body", bytes "Well said")]

/-- A visitor likes a post and comments on it. -/
def discussed : List Call :=
  [put "/content/a1/like" none liking 1 0, post "/content/a1/comments" remark 2 0]

def discussing : Service := service (bodies [liking, remark])

def secondRemark : Call := post "/content/a1/comments" remark 3 0

theorem discussed_healthy : ∀ call ∈ discussed, call.environment.Healthy := by
  simp [discussed, post, put, environment_healthy]

end Reference

/-- The second comment of the visitor is stored as the first one was. -/
theorem comments_and_likes_backed_discussed :
    (Reference.after Reference.discussing Reference.discussed).database.Backed ∧
      (Reference.after Reference.discussing Reference.discussed).database.comments.length = 1 ∧
      ∃ comment event, StoredComment Reference.postgres
        (Reference.after Reference.discussing Reference.discussed)
        (Reference.discussing.serve Reference.secondRemark
          (Reference.after Reference.discussing Reference.discussed)).1
        (Reference.discussing.serve Reference.secondRemark
          (Reference.after Reference.discussing Reference.discussed)).2 comment event := by
  obtain ⟨backed, stored⟩ := comments_and_likes_backed Reference.lawful
    (Reference.run Reference.discussing Reference.discussed_healthy)
  refine ⟨backed, by decide +kernel, ?_⟩
  apply (stored Reference.secondRemark (bytes "a1") (Reference.environment_healthy 3 0).supplied rfl
    ⟨by decide +kernel, by decide⟩).mp
  decide +kernel

end PortalApi
