import PortalApi.Comments
import PortalApi.Identities

/-! The likes of every actor are a set that the answered requests add to and
remove from, with one event for each like that is added. -/

set_option autoImplicit false

namespace PortalApi

open Library

/-- A like: its content and its actor. -/
abbrev Like := Bytes × Actor

/-- The content that the path of a like names. -/
def Request.likedContent (request : Request) : Option Bytes :=
  let path := request.url.drop 9
  if request.url.take 9 = bytes "/content/" && 5 < path.length &&
      path.drop (path.length - 5) = bytes "/like" then
    some (path.take (path.length - 5))
  else none

/-- The change of a PUT or DELETE of a like that was answered 204. -/
def Service.likeChange (service : Service) (entry : Service.Entry) : Option (Change Like) :=
  match entry.input.request.likedContent,
    service.identity entry.input entry.before entry.after with
  | some contentId, some actor =>
    if statusOf entry.output = some 204 then
      if entry.input.request.method = bytes "PUT" then some ⟨(contentId, actor), true⟩
      else if entry.input.request.method = bytes "DELETE" then some ⟨(contentId, actor), false⟩
      else none
    else none
  | _, _ => none

/-- The rows that hold an actor's like of a content. -/
def Database.likesOf (database : Database) (contentId : Bytes) (actor : Actor) :
    List ContentLikeRow :=
  database.contentLikes.filter fun row => row.contentId = contentId &&
    row.userId = actor.userId && row.anonymousId = actor.anonymousId

def Database.likeSet (database : Database) : Set Like :=
  {like | database.likesOf like.1 like.2 ≠ []}

def addedEvents (entry : Service.Entry) : List ActivityEventRow :=
  entry.after.database.activityEvents.drop entry.before.database.activityEvents.length

/-- The `like` events for a content and an actor that the like route added. -/
def likeEvents (contentId : Bytes) (actor : Actor) (entry : Service.Entry) :
    List ActivityEventRow :=
  if entry.input.request.likedContent.isSome then
    (addedEvents entry).filter fun event => event.eventType = bytes "like" &&
      event.contentId = some contentId && event.userId = actor.userId &&
      event.anonymousId = actor.anonymousId
  else []

/-- A PUT of this like that was executed while it was absent. -/
def Service.likesAnew (service : Service) (contentId : Bytes) (actor : Actor)
    (entry : Service.Entry) : Bool :=
  service.likeChange entry = some ⟨(contentId, actor), true⟩ &&
    (entry.before.database.likesOf contentId actor).isEmpty

section Paths

variable {request : Request} {contentId : Bytes}

theorem Request.likedContent_eq_some :
    request.likedContent = some contentId ↔ request.OnContent contentId "/like" := by
  have size : (bytes "/like").length = 5 := by decide
  have start : (bytes "/content/").length = 9 := by decide
  unfold likedContent
  constructor
  · intro named
    simp only at named
    split at named
    · next shape =>
        simp only [Bool.and_eq_true, decide_eq_true_eq] at shape
        obtain rfl := Option.some.inj named
        exact onContent "/like" size shape.1.1 shape.1.2 shape.2
    · cases named
  · intro content
    have path : request.url.drop 9 = contentId ++ bytes "/like" := by
      rw [content.url, List.append_assoc, ← start, List.drop_left]
    have prefixed : request.url.take 9 = bytes "/content/" := by
      rw [content.url, List.append_assoc, ← start, List.take_left]
    have longer : 5 < (contentId ++ bytes "/like").length := by
      have positive := List.length_pos_iff.mpr content.present
      rw [List.length_append, size]
      omega
    have cut : (contentId ++ bytes "/like").length - 5 = contentId.length := by
      rw [List.length_append, size, Nat.add_sub_cancel]
    simp only [path, prefixed, longer, cut, List.drop_left, List.take_left, decide_true,
      Bool.and_self, ↓reduceIte]

/-- The paths of likes and of comments end otherwise. -/
theorem Request.OnContent.not_liked (content : request.OnContent contentId "/comments") :
    request.likedContent = none := by
  cases liked : request.likedContent with
  | none => rfl
  | some other =>
      have named := Request.likedContent_eq_some.mp liked
      have last := congrArg List.getLast? (content.url.symm.trans named.url)
      have comments : bytes "/comments" = bytes "/comment" ++ [115] := by decide
      have like : bytes "/like" = bytes "/lik" ++ [101] := by decide
      rw [comments, like, ← List.append_assoc, ← List.append_assoc, List.getLast?_append,
        List.getLast?_append] at last
      simp at last

end Paths

section Effects

variable {service : Service} {entry : Service.Entry} {contentId : Bytes} {actor : Actor}

theorem Request.At.not_liked {call : Call} {method url : String}
    (given : call.request.At method url) (outside : ¬ bytes "/content/" <+: bytes url) :
    call.request.likedContent = none := by
  cases liked : call.request.likedContent with
  | none => rfl
  | some other => exact ((Request.likedContent_eq_some.mp liked).not_at given outside).elim

theorem Service.likeChange_eq_some {adds : Bool} :
    service.likeChange entry = some ⟨(contentId, actor), adds⟩ ↔
      entry.input.request.OnContent contentId "/like" ∧
        service.identity entry.input entry.before entry.after = some actor ∧
        statusOf entry.output = some 204 ∧ entry.input.request.method = favoriteMethod adds := by
  have apart : bytes "DELETE" ≠ bytes "PUT" := by decide
  rw [← Request.likedContent_eq_some]
  unfold likeChange
  split
  · next content someone named known =>
      rw [named, known]
      split
      · next sent =>
          split
          · next put =>
              cases adds <;> simp [favoriteMethod, sent, put, apart.symm]
          · next other =>
              split
              · next delete => cases adds <;> simp [favoriteMethod, sent, delete, apart]
              · next neither => cases adds <;> simp [favoriteMethod, other, neither]
      · next silent => simp [silent]
  · next missing =>
      simp only [reduceCtorEq, false_iff]
      intro change
      exact missing _ _ change.1 change.2.1

/-- What one request does to the likes and to the events of the like route. -/
inductive LikeEffect (service : Service) (entry : Service.Entry) : Prop where
  | added {contentId portalKey : Bytes} {actor : Actor} {transaction : Transaction} :
      service.likeChange entry = some ⟨(contentId, actor), true⟩ →
      entry.before.database.likesOf contentId actor = [] →
      entry.after.database = { entry.before.database with
        contentLikes := entry.before.database.contentLikes ++
          [actor.like service.postgres transaction entry.before.database contentId]
        activityEvents := entry.before.database.activityEvents ++
          [actor.derivedEvent transaction entry.before.database portalKey (bytes "like")
            contentId] } → LikeEffect service entry
  | present {contentId : Bytes} {actor : Actor} :
      service.likeChange entry = some ⟨(contentId, actor), true⟩ →
      entry.before.database.likesOf contentId actor ≠ [] →
      entry.after.database = entry.before.database → LikeEffect service entry
  | removed {contentId : Bytes} {actor : Actor} :
      service.likeChange entry = some ⟨(contentId, actor), false⟩ →
      entry.after.database =
        entry.before.database.unlike contentId (actor.key service.postgres) →
      LikeEffect service entry
  | unrelated : service.likeChange entry = none →
      entry.after.database.contentLikes = entry.before.database.contentLikes →
      (entry.input.request.likedContent.isSome = true →
        entry.after.database.activityEvents = entry.before.database.activityEvents) →
      LikeEffect service entry

theorem Database.Attributed.key {postgres : Postgres} {database : Database}
    (attributed : database.Attributed postgres) {row : ContentLikeRow}
    (stored : row ∈ database.contentLikes) (owns : actor.Owns row.userId row.anonymousId) :
    row.actorKey = actor.key postgres := by
  obtain ⟨owner, owned, keyed⟩ := attributed.likes row stored
  obtain rfl := owned.unique owns
  exact keyed

theorem Database.Attributed.key_iff {postgres : Postgres} {database : Database}
    (attributed : database.Attributed postgres) (lawful : postgres.Lawful) {row : ContentLikeRow}
    (stored : row ∈ database.contentLikes) : row.actorKey = actor.key postgres ↔
      row.userId = actor.userId ∧ row.anonymousId = actor.anonymousId := by
  obtain ⟨owner, owns, keyed⟩ := attributed.likes row stored
  constructor
  · intro same
    obtain rfl := Actor.key_injective lawful (keyed.symm.trans same)
    exact ⟨owns.userId, owns.anonymousId⟩
  · intro ⟨users, ids⟩
    exact attributed.key stored ⟨users, ids⟩

theorem Database.mem_likesOf {database : Database} {row : ContentLikeRow} :
    row ∈ database.likesOf contentId actor ↔ row ∈ database.contentLikes ∧
      row.contentId = contentId ∧ row.userId = actor.userId ∧
      row.anonymousId = actor.anonymousId := by
  simp [Database.likesOf, and_assoc]

theorem mem_likeSet {database : Database} {like : Like} :
    like ∈ database.likeSet ↔ database.likesOf like.1 like.2 ≠ [] :=
  Iff.rfl

theorem ChangesLike.likeChange {adds : Bool}
    (valid : entry.before.database.Valid service.postgres.lower)
    (healthy : entry.input.environment.Healthy)
    (change : ChangesLike service entry.input entry.before contentId actor entry.output entry.after)
    (method : entry.input.request.method = favoriteMethod adds) :
    service.likeChange entry = some ⟨(contentId, actor), adds⟩ := by
  have sent : statusOf entry.output = some 204 := by
    rw [change.answered.certain healthy]
    rfl
  have acts : service.identity entry.input entry.before entry.after = some actor :=
    change.acts.identity valid change.content.apart
  exact Service.likeChange_eq_some.mpr ⟨change.content, acts, sent, method⟩

theorem LikeEffect.elsewhere (outside : entry.input.request.likedContent = none)
    (contentLikes : entry.after.database.contentLikes = entry.before.database.contentLikes) :
    LikeEffect service entry := by
  refine .unrelated ?_ contentLikes ?_
  · rw [Service.likeChange, outside]
  · simp [outside]

theorem Inactive.likeChange
    (inactive : Inactive entry.input entry.before entry.output entry.after) :
    service.likeChange entry = none := by
  cases changed : service.likeChange entry with
  | none => rfl
  | some change =>
      obtain ⟨⟨contentId, actor⟩, adds⟩ := change
      obtain ⟨content, _, sent, method⟩ := Service.likeChange_eq_some.mp changed
      cases adds with
      | true =>
          exact absurd ⟨method, content, sent⟩
            (inactive.answered ("PUT", "/like", 204) (by simp [contentAnswers]) contentId)
      | false =>
          exact absurd ⟨method, content, sent⟩
            (inactive.answered ("DELETE", "/like", 204) (by simp [contentAnswers]) contentId)

theorem ActionEffect.likes (lawful : service.postgres.Lawful)
    (valid : entry.before.database.Valid service.postgres.lower)
    (attributed : entry.before.database.Attributed service.postgres)
    (healthy : entry.input.environment.Healthy)
    (effect : ActionEffect service entry.input entry.before entry.output entry.after) :
    LikeEffect service entry := by
  cases effect with
  | recorded recorded =>
      exact .elsewhere (recorded.request.not_liked (by decide)) (by rw [recorded.database])
  | commented commented =>
      exact .elsewhere commented.content.not_liked (by rw [commented.database])
  | liked liked =>
      refine .added (liked.change.likeChange valid healthy liked.method) ?_ liked.database
      apply List.eq_nil_iff_forall_not_mem.mpr
      intro row member
      obtain ⟨stored, named, owned⟩ := Database.mem_likesOf.mp member
      exact liked.absent row stored ⟨named, (attributed.key_iff lawful stored).mpr owned⟩
  | likePresent change put _ stored same =>
      refine .present (change.likeChange valid healthy put) ?_ same
      obtain ⟨row, member, named, keyed⟩ := stored
      have owned := (attributed.key_iff lawful member).mp keyed
      exact List.ne_nil_of_mem (Database.mem_likesOf.mpr ⟨member, named, owned⟩)
  | unliked change delete database =>
      exact .removed (change.likeChange valid healthy delete) database
  | inactive inactive =>
      exact .unrelated inactive.likeChange inactive.contentLikes fun _ => inactive.activityEvents

end Effects

section Steps

variable {service : Service} {entry : Service.Entry} {contentId : Bytes} {actor : Actor}

/-- The likes of others, or of other contents, are as before. -/
theorem LikeEffect.likesOf (lawful : service.postgres.Lawful)
    (attributed : entry.before.database.Attributed service.postgres)
    (effect : LikeEffect service entry)
    (others : ∀ adds, service.likeChange entry ≠ some ⟨(contentId, actor), adds⟩) :
    entry.after.database.likesOf contentId actor =
      entry.before.database.likesOf contentId actor := by
  cases effect with
  | @added content _ liker _ changed absent database =>
      rw [Database.likesOf, database]
      apply Table.filter_append_other
      apply Bool.eq_false_iff.mpr
      intro same
      obtain ⟨rest, ids⟩ := Bool.and_eq_true_iff.mp same
      obtain ⟨contents, users⟩ := Bool.and_eq_true_iff.mp rest
      have named : content = contentId := of_decide_eq_true contents
      have owns : actor.Owns liker.userId liker.anonymousId :=
        ⟨of_decide_eq_true users, of_decide_eq_true ids⟩
      obtain rfl := liker.owns_self.unique owns
      exact others true (named ▸ changed)
  | present _ _ same => rw [same]
  | @removed content liker changed database =>
      rw [Database.likesOf, database]
      apply Table.filter_filter_kept
      intro row member owned
      simp only [Bool.and_eq_true, decide_eq_true_eq] at owned
      obtain ⟨⟨rfl, users⟩, ids⟩ := owned
      have different : row.contentId = content → row.actorKey ≠ liker.key service.postgres := by
        intro named same
        obtain ⟨owner, ownerId⟩ := (attributed.key_iff lawful member).mp same
        have owns : liker.Owns row.userId row.anonymousId := ⟨owner, ownerId⟩
        obtain rfl := owns.unique ⟨users, ids⟩
        exact others false (named ▸ changed)
      simpa [← imp_iff_not_or] using different
  | unrelated _ contentLikes _ => rw [Database.likesOf, contentLikes, Database.likesOf]

/-- The like that a request changes is there exactly when the request put it there. -/
theorem LikeEffect.changed (lawful : service.postgres.Lawful)
    (attributed : entry.before.database.Attributed service.postgres)
    (effect : LikeEffect service entry) {adds : Bool}
    (changes : service.likeChange entry = some ⟨(contentId, actor), adds⟩) :
    entry.after.database.likesOf contentId actor ≠ [] ↔ adds = true := by
  cases effect with
  | @added content portalKey liker transaction changed absent database =>
      have same := Option.some.inj (changes.symm.trans changed)
      simp only [Change.mk.injEq, Prod.mk.injEq] at same
      obtain ⟨⟨rfl, rfl⟩, rfl⟩ := same
      have member : actor.like service.postgres transaction entry.before.database contentId ∈
          entry.after.database.likesOf contentId actor := by
        refine Database.mem_likesOf.mpr ⟨?_, rfl, rfl, rfl⟩
        rw [database]
        exact List.mem_append_right _ (List.mem_singleton_self _)
      simp [List.ne_nil_of_mem member]
  | present changed stored unchanged =>
      have same := Option.some.inj (changes.symm.trans changed)
      simp only [Change.mk.injEq, Prod.mk.injEq] at same
      obtain ⟨⟨rfl, rfl⟩, rfl⟩ := same
      simp [unchanged, stored]
  | removed changed database =>
      have same := Option.some.inj (changes.symm.trans changed)
      simp only [Change.mk.injEq, Prod.mk.injEq] at same
      obtain ⟨⟨rfl, rfl⟩, rfl⟩ := same
      have gone : entry.after.database.likesOf contentId actor = [] := by
        apply List.eq_nil_iff_forall_not_mem.mpr
        intro row member
        obtain ⟨stored, named, owned⟩ := Database.mem_likesOf.mp member
        rw [database] at stored
        obtain ⟨old, kept⟩ := List.mem_filter.mp stored
        simp [named, (attributed.key_iff lawful old).mpr owned] at kept
      simp [gone]
  | unrelated none _ _ => cases changes.symm.trans none

theorem LikeEffect.step (lawful : service.postgres.Lawful)
    (attributed : entry.before.database.Attributed service.postgres)
    (effect : LikeEffect service entry) :
    (∃ change, service.likeChange entry = some change ∧
        entry.after.database.likeSet = change.apply entry.before.database.likeSet) ∨
      (service.likeChange entry = none ∧
        entry.after.database.likeSet = entry.before.database.likeSet) := by
  cases changes : service.likeChange entry with
  | none =>
      refine .inr ⟨rfl, Set.ext fun like => ?_⟩
      have same : entry.after.database.likesOf like.1 like.2 =
          entry.before.database.likesOf like.1 like.2 :=
        effect.likesOf lawful attributed (by simp [changes])
      rw [mem_likeSet, mem_likeSet, same]
  | some change =>
      refine .inl ⟨change, rfl, Set.ext fun like => ?_⟩
      rw [Change.mem_apply]
      by_cases named : like = change.key
      · subst named
        have membership : change.key ∈ entry.after.database.likeSet ↔ change.adds = true :=
          effect.changed lawful attributed changes
        simp [membership]
      · have same : entry.after.database.likesOf like.1 like.2 =
            entry.before.database.likesOf like.1 like.2 := by
          apply effect.likesOf lawful attributed
          intro adds other
          exact named (congrArg Change.key (Option.some.inj (changes.symm.trans other))).symm
        have membership : like ∈ entry.after.database.likeSet ↔
            like ∈ entry.before.database.likeSet := by
          rw [mem_likeSet, mem_likeSet, same]
        simp [membership, named]

/-- A like event is added for a PUT of an absent like, and for nothing else. -/
theorem LikeEffect.events (effect : LikeEffect service entry) :
    (likeEvents contentId actor entry).length =
      if service.likesAnew contentId actor entry then 1 else 0 := by
  have still : entry.after.database.activityEvents = entry.before.database.activityEvents →
      addedEvents entry = [] := by
    intro same
    rw [addedEvents, same, List.drop_length]
  have silent : addedEvents entry = [] → service.likesAnew contentId actor entry = false →
      (likeEvents contentId actor entry).length =
        if service.likesAnew contentId actor entry then 1 else 0 := by
    intro none idle
    simp [likeEvents, none, idle]
  cases effect with
  | @added content portalKey liker transaction changed absent database =>
      have named : entry.input.request.likedContent = some content :=
        Request.likedContent_eq_some.mpr (Service.likeChange_eq_some.mp changed).1
      have added : addedEvents entry = [liker.derivedEvent transaction entry.before.database
          portalKey (bytes "like") content] := by
        rw [addedEvents, database, List.drop_left]
      by_cases same : content = contentId ∧ liker = actor
      · obtain ⟨rfl, rfl⟩ := same
        simp [likeEvents, named, added, Service.likesAnew, changed, absent, Actor.derivedEvent,
          derivedEvent, recordedEvent]
      · have apart : content = contentId → liker.userId = actor.userId →
            liker.anonymousId ≠ actor.anonymousId := by
          intro contents users ids
          exact same ⟨contents, liker.owns_self.unique ⟨users, ids⟩⟩
        have idle : service.likesAnew contentId actor entry = false := by
          simp only [Service.likesAnew, changed]
          simp [same]
        have nothing : likeEvents contentId actor entry = [] := by
          rw [likeEvents, named, added]
          simpa [List.filter_cons, Actor.derivedEvent, derivedEvent, recordedEvent] using apart
        simp [nothing, idle]
  | @present content liker changed stored unchanged =>
      refine silent (still (by rw [unchanged])) ?_
      by_cases same : content = contentId ∧ liker = actor
      · obtain ⟨rfl, rfl⟩ := same
        simp [Service.likesAnew, stored]
      · simp only [Service.likesAnew, changed]
        simp [same]
  | removed changed database =>
      refine silent (still (by rw [database, Database.unlike])) ?_
      simp [Service.likesAnew, changed]
  | unrelated none _ events =>
      have idle : service.likesAnew contentId actor entry = false := by
        simp [Service.likesAnew, none]
      cases named : entry.input.request.likedContent with
      | none => simp [likeEvents, named, idle]
      | some content => exact silent (still (events (by simp [named]))) idle

theorem ActionEffect.grown (effect : ActionEffect service entry.input entry.before entry.output
    entry.after) :
    entry.after.database.activityEvents =
      entry.before.database.activityEvents ++ addedEvents entry := by
  have unchanged : entry.after.database.activityEvents = entry.before.database.activityEvents →
      entry.before.database.activityEvents <+: entry.after.database.activityEvents := by
    intro same
    exact ⟨[], by rw [List.append_nil, same]⟩
  apply Eq.symm
  apply List.prefix_iff_eq_append.mp
  cases effect with
  | recorded recorded =>
      rw [recorded.database]
      exact List.prefix_append _ _
  | liked liked =>
      rw [liked.database]
      exact List.prefix_append _ _
  | likePresent _ _ _ _ same => exact unchanged (by rw [same])
  | unliked _ _ database => exact unchanged (by rw [database, Database.unlike])
  | commented commented =>
      rw [commented.database]
      exact List.prefix_append _ _
  | inactive inactive => exact unchanged inactive.activityEvents

theorem length_likesOf {database : Database} (valid : database.Valid service.postgres.lower)
    (attributed : database.Attributed service.postgres) :
    (database.likesOf contentId actor).length ≤ 1 := by
  cases found : database.likesOf contentId actor with
  | nil => exact Nat.zero_le 1
  | cons row rest =>
      have member : row ∈ database.likesOf contentId actor := by simp [found]
      obtain ⟨stored, named, owned⟩ := Database.mem_likesOf.mp member
      have single : database.likesOf contentId actor = [row] := by
        apply Table.filter_eq_singleton valid.likeActors stored
        · simp [named, owned]
        · intro other present kept
          simp only [Bool.and_eq_true, decide_eq_true_eq] at kept
          obtain ⟨⟨contents, users⟩, ids⟩ := kept
          rw [contents, named, attributed.key present ⟨users, ids⟩,
            attributed.key stored ⟨owned.1, owned.2⟩]
      rw [← found, single]
      exact Nat.le_refl 1

end Steps

/-- The likes and the events of the like route are those of the answered
requests. -/
structure LikesRefine (service : Service) (entries : List Service.Entry) (world : World) :
    Prop where
  stored : ∀ contentId actor, (world.database.likesOf contentId actor).length ≤ 1 ∧
    (world.database.likesOf contentId actor ≠ [] ↔
      Change.Last (entries.filterMap service.likeChange) (contentId, actor) true)
  recorded : world.database.activityEvents = entries.flatMap addedEvents
  events : ∀ contentId actor, (entries.flatMap (likeEvents contentId actor)).length =
    entries.countP (service.likesAnew contentId actor)
  repeated : ∀ call contentId actor, call.environment.Healthy →
    service.likeChange ((service.machine Environment.Healthy).event call world) =
      some ⟨(contentId, actor), true⟩ →
    world.database.likesOf contentId actor ≠ [] →
    (service.serve call world).2.database = world.database
  injective : ∀ first second : Actor,
    first.key service.postgres = second.key service.postgres → first = second
  keyed : ∀ row ∈ world.database.contentLikes, ∃ actor : Actor,
    actor.Owns row.userId row.anonymousId ∧ row.actorKey = actor.key service.postgres
  spelled : ∀ call contentId actor adds token user,
    presentedSession service.postgres call.request = some token →
    world.database.liveOwner (world.lookupTime call.environment) token = some user →
    service.likeChange ((service.machine Environment.Healthy).event call world) =
      some ⟨(contentId, actor), adds⟩ → actor = .user user.id
  separate : ∀ call contentId actor, call.environment.Healthy →
    (∀ adds, service.likeChange ((service.machine Environment.Healthy).event call world) ≠
      some ⟨(contentId, actor), adds⟩) →
    (service.serve call world).2.database.likesOf contentId actor =
      world.database.likesOf contentId actor

section Runs

variable {service : Service} {entries : List Service.Entry} {world : World}

theorem Service.Run.likeEffect (lawful : service.postgres.Lawful)
    (run : service.Run Environment.Healthy entries world) {call : Call}
    (healthy : call.environment.Healthy) :
    LikeEffect service ((service.machine Environment.Healthy).event call world) := by
  have effect : ActionEffect service
      ((service.machine Environment.Healthy).event call world).input
      ((service.machine Environment.Healthy).event call world).before
      ((service.machine Environment.Healthy).event call world).output
      ((service.machine Environment.Healthy).event call world).after :=
    Run.actionEffect lawful run call
  exact effect.likes lawful (Run.valid run) (Run.attributed lawful run) healthy

/-- The stored likes are the replay of the answered changes. -/
theorem Service.Run.likeSet_eq (lawful : service.postgres.Lawful)
    (run : service.Run Environment.Healthy entries world) :
    world.database.likeSet = Change.replay (entries.filterMap service.likeChange) := by
  induction run with
  | start initial =>
      rw [initial.1]
      apply Set.ext
      intro like
      simp [mem_likeSet, Database.likesOf, Database.empty, Change.replay]
  | @next entries state call reached healthy ih =>
      have attributed := Run.attributed lawful reached
      rw [List.filterMap_append, List.filterMap_cons]
      cases (Run.likeEffect lawful reached healthy).step lawful attributed with
      | inl step =>
          obtain ⟨change, changed, set⟩ := step
          rw [changed, List.filterMap_nil, Change.replay_append, ← ih]
          exact set
      | inr silent =>
          rw [silent.1, List.filterMap_nil, List.append_nil, ← ih]
          exact silent.2

theorem Service.Run.events_eq (lawful : service.postgres.Lawful)
    (run : service.Run Environment.Healthy entries world) :
    world.database.activityEvents = entries.flatMap addedEvents := by
  induction run with
  | start initial =>
      rw [initial.1]
      rfl
  | @next entries state call reached _ ih =>
      have effect : ActionEffect service
          ((service.machine Environment.Healthy).event call state).input
          ((service.machine Environment.Healthy).event call state).before
          ((service.machine Environment.Healthy).event call state).output
          ((service.machine Environment.Healthy).event call state).after :=
        Run.actionEffect lawful reached call
      rw [List.flatMap_append, List.flatMap_singleton, ← ih]
      exact effect.grown

theorem Service.Run.likeEvents_eq (lawful : service.postgres.Lawful)
    (run : service.Run Environment.Healthy entries world) (contentId : Bytes) (actor : Actor) :
    (entries.flatMap (likeEvents contentId actor)).length =
      entries.countP (service.likesAnew contentId actor) := by
  induction run with
  | start _ => rfl
  | @next entries state call reached healthy ih =>
      rw [List.flatMap_append, List.length_append, List.flatMap_singleton, ih,
        (Run.likeEffect lawful reached healthy).events, List.countP_append, List.countP_singleton]

/-- In every reachable state the likes and their events are what the answered
requests made of them. -/
theorem likes_refine (lawful : service.postgres.Lawful)
    (run : service.Run Environment.Healthy entries world) :
    LikesRefine service entries world where
  stored contentId actor := by
    refine ⟨length_likesOf (Service.Run.valid run) (Service.Run.attributed lawful run), ?_⟩
    rw [← Change.mem_replay, ← Service.Run.likeSet_eq lawful run]
    rfl
  recorded := Service.Run.events_eq lawful run
  events := Service.Run.likeEvents_eq lawful run
  repeated call contentId actor healthy changed stored := by
    cases Service.Run.likeEffect lawful run healthy with
    | added other absent _ =>
        obtain ⟨rfl, rfl⟩ := Prod.mk.inj (congrArg Change.key
          (Option.some.inj (changed.symm.trans other)))
        exact absurd absent stored
    | present _ _ same => exact same
    | removed other _ => cases changed.symm.trans other
    | unrelated none _ _ => cases changed.symm.trans none
  injective _ _ := Actor.key_injective lawful
  keyed := (Service.Run.attributed lawful run).likes
  spelled call contentId actor adds token user presented live changed := by
    obtain ⟨content, known, _⟩ := Service.likeChange_eq_some.mp changed
    have owner : service.identity call world (service.serve call world).2 = some (.user user.id) :=
      Service.identity_presented content.apart presented live
    exact Option.some.inj (known.symm.trans owner)
  separate _ _ _ healthy others :=
    (Service.Run.likeEffect lawful run healthy).likesOf lawful
      (Service.Run.attributed lawful run) others

end Runs

namespace Reference

def takeBack (seed : Nat) : Call where
  request := request "DELETE" "/content/a1/like" none (objectText liking)
  environment := environment seed 0

/-- A visitor likes a post twice, takes it back and likes it again. -/
def undecided : List Call :=
  [put "/content/a1/like" none liking 1 0, put "/content/a1/like" none liking 2 0, takeBack 3,
    put "/content/a1/like" none liking 4 0]

def visitorActor : Actor := .anonymous ⟨visitor, by decide⟩

theorem undecided_healthy : ∀ call ∈ undecided, call.environment.Healthy := by
  simp [undecided, put, takeBack, environment_healthy]

end Reference

/-- Four answered requests leave one like and two events. -/
theorem likes_refine_undecided :
    LikesRefine Reference.discussing
        (Reference.history Reference.discussing Reference.undecided)
        (Reference.after Reference.discussing Reference.undecided) ∧
      (Reference.history Reference.discussing Reference.undecided).filterMap
        Reference.discussing.likeChange =
          [⟨(bytes "a1", Reference.visitorActor), true⟩, ⟨(bytes "a1", Reference.visitorActor), true⟩,
            ⟨(bytes "a1", Reference.visitorActor), false⟩,
            ⟨(bytes "a1", Reference.visitorActor), true⟩] ∧
      (Reference.after Reference.discussing Reference.undecided).database.activityEvents.length =
        2 :=
  ⟨likes_refine Reference.lawful (Reference.run _ Reference.undecided_healthy),
    by decide +kernel, by decide +kernel⟩

end PortalApi
