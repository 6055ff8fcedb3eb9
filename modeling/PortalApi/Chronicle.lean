import PortalApi.History

/-! The times in the tables agree with what happened. Nothing is stamped in the future,
tokens and sessions end when their lifetime does, the logs are in the order of their times,
and nothing is recorded for an account before the account was confirmed. -/

set_option autoImplicit false

namespace PortalApi

open Library

/-- The account with this id was confirmed no later than this. -/
def Database.ConfirmedBy (database : Database) (id : Uuid) (time : Time) : Prop :=
  ∃ user ∈ database.users, user.id = id ∧
    ∃ confirmed, user.confirmedAt = some confirmed ∧ confirmed ≤ time

section Rows

variable (config : PortalConfig) (clock : Time) (database : Database)

structure UserRow.Timely (user : UserRow) : Prop where
  created : user.createdAt ≤ clock
  confirmed : ∀ time, user.confirmedAt = some time → user.createdAt ≤ time ∧ time ≤ clock

structure ConfirmationTokenRow.Timely (token : ConfirmationTokenRow) : Prop where
  created : token.createdAt ≤ clock
  expires : token.expiresAt = token.createdAt + config.confirmationLifetime
  consumed : ∀ time, token.consumedAt = some time → token.createdAt ≤ time ∧
    time < token.expiresAt ∧ time ≤ clock ∧ database.ConfirmedBy token.userId time

structure AuthSessionRow.Timely (session : AuthSessionRow) : Prop where
  created : session.createdAt ≤ clock
  expires : session.expiresAt = session.createdAt + config.tokenLifetime
  owner : database.ConfirmedBy session.userId session.createdAt
  revoked : ∀ time, session.revokedAt = some time → session.createdAt ≤ time ∧ time ≤ clock

structure FavoriteRow.Timely (row : FavoriteRow) : Prop where
  created : row.createdAt ≤ clock
  owner : database.ConfirmedBy row.userId row.createdAt

/-- What is recorded for an actor at this time. -/
structure Timely (userId : Option Uuid) (time : Time) : Prop where
  past : time ≤ clock
  owner : ∀ id, userId = some id → database.ConfirmedBy id time

structure ActivityEventRow.Timely (event : ActivityEventRow) : Prop where
  occurred : PortalApi.Timely clock database event.userId event.occurredAt
  received : event.receivedAt = event.occurredAt

structure Database.Chronicled : Prop where
  users : ∀ user ∈ database.users, user.Timely clock
  confirmationTokens : ∀ token ∈ database.confirmationTokens, token.Timely config clock database
  authSessions : ∀ session ∈ database.authSessions, session.Timely config clock database
  favorites : ∀ kind, ∀ row ∈ database.favorites kind, row.Timely clock database
  activityEvents : ∀ event ∈ database.activityEvents, event.Timely clock database
  contentLikes : ∀ like ∈ database.contentLikes, Timely clock database like.userId like.createdAt
  comments : ∀ comment ∈ database.comments,
    Timely clock database comment.userId comment.createdAt
  favoriteOrder : ∀ kind, (database.favorites kind).Pairwise fun first second =>
    first.createdAt ≤ second.createdAt
  eventOrder : database.activityEvents.Pairwise fun first second =>
    first.id < second.id ∧ first.occurredAt ≤ second.occurredAt
  likeOrder : database.contentLikes.Pairwise fun first second =>
    first.id < second.id ∧ first.createdAt ≤ second.createdAt
  commentOrder : database.comments.Pairwise fun first second =>
    first.createdAt ≤ second.createdAt

end Rows

section Later

variable {config : PortalConfig} {clock now : Time} {database after : Database}

theorem Database.ConfirmedBy.ages {id : Uuid} {time since : Time}
    (confirmed : database.ConfirmedBy id time) (ages : database.Ages since after) :
    after.ConfirmedBy id time := by
  obtain ⟨user, member, rfl, confirmedAt, known, early⟩ := confirmed
  obtain ⟨later, present, grown⟩ := ages.users.version member
  refine ⟨later, present, ?_, confirmedAt, ?_, early⟩
  · rw [grown.same]
  · rcases grown.confirmed with same | ⟨unconfirmed, _⟩
    · exact same.trans known
    · rw [known] at unconfirmed
      cases unconfirmed

theorem Database.ConfirmedBy.mono {id : Uuid} {time : Time}
    (confirmed : database.ConfirmedBy id time) (later : time ≤ now) :
    database.ConfirmedBy id now := by
  obtain ⟨user, member, owner, confirmedAt, known, early⟩ := confirmed
  exact ⟨user, member, owner, confirmedAt, known, le_trans early later⟩

section Ages

variable {since : Time} (passes : clock ≤ now) (aged : database.Ages since after)
include passes

theorem UserRow.Timely.later {user : UserRow} (timely : user.Timely clock) : user.Timely now where
  created := le_trans timely.created passes
  confirmed time known := ⟨(timely.confirmed time known).1, le_trans (timely.confirmed time known).2 passes⟩

include aged

theorem ConfirmationTokenRow.Timely.later {token : ConfirmationTokenRow}
    (timely : token.Timely config clock database) : token.Timely config now after where
  created := le_trans timely.created passes
  expires := timely.expires
  consumed time known := by
    obtain ⟨begun, ended, past, owner⟩ := timely.consumed time known
    exact ⟨begun, ended, le_trans past passes, owner.ages aged⟩

theorem AuthSessionRow.Timely.later {session : AuthSessionRow}
    (timely : session.Timely config clock database) : session.Timely config now after where
  created := le_trans timely.created passes
  expires := timely.expires
  owner := timely.owner.ages aged
  revoked time known :=
    ⟨(timely.revoked time known).1, le_trans (timely.revoked time known).2 passes⟩

theorem FavoriteRow.Timely.later {row : FavoriteRow} (timely : row.Timely clock database) :
    row.Timely now after where
  created := le_trans timely.created passes
  owner := timely.owner.ages aged

theorem Timely.later {userId : Option Uuid} {time : Time}
    (timely : Timely clock database userId time) : Timely now after userId time where
  past := le_trans timely.past passes
  owner id acts := (timely.owner id acts).ages aged

theorem ActivityEventRow.Timely.later {event : ActivityEventRow}
    (timely : event.Timely clock database) : event.Timely now after where
  occurred := timely.occurred.later passes aged
  received := timely.received

end Ages

section Tables

variable {since : Time}

theorem Database.Chronicled.accounts (chronicled : database.Chronicled config clock)
    (passes : clock ≤ now) {users : List UserRow} {tokens : List ConfirmationTokenRow}
    {sessions : List AuthSessionRow}
    (changed : after = { database with
      users := users, confirmationTokens := tokens, authSessions := sessions })
    (aged : database.Ages since after) (eachUser : ∀ user ∈ users, user.Timely now)
    (eachToken : ∀ token ∈ tokens, token.Timely config now after)
    (eachSession : ∀ session ∈ sessions, session.Timely config now after) :
    after.Chronicled config now := by
  subst changed
  have favorites (kind : PortalFavoriteKind) : Database.favorites { database with
      users := users, confirmationTokens := tokens, authSessions := sessions } kind =
        database.favorites kind := by cases kind <;> rfl
  exact {
    users := eachUser
    confirmationTokens := eachToken
    authSessions := eachSession
    favorites := fun kind row member =>
      (chronicled.favorites kind row (favorites kind ▸ member)).later passes aged
    activityEvents := fun event member =>
      (chronicled.activityEvents event member).later passes aged
    contentLikes := fun like member => (chronicled.contentLikes like member).later passes aged
    comments := fun comment member => (chronicled.comments comment member).later passes aged
    favoriteOrder := fun kind => favorites kind ▸ chronicled.favoriteOrder kind
    eventOrder := chronicled.eventOrder
    likeOrder := chronicled.likeOrder
    commentOrder := chronicled.commentOrder }

theorem Database.Chronicled.setFavorites (chronicled : database.Chronicled config clock)
    (passes : clock ≤ now) {kind : PortalFavoriteKind} {rows : List FavoriteRow}
    (changed : after = database.setFavorites kind rows)
    (each : ∀ row ∈ rows, row.Timely now database)
    (ordered : rows.Pairwise fun first second => first.createdAt ≤ second.createdAt) :
    after.Chronicled config now := by
  have aged : database.Ages clock after := changed ▸ .setFavorites _ _ _
  have tables (other : PortalFavoriteKind) :
      after.favorites other = if other = kind then rows else database.favorites other := by
    subst changed
    split
    · next same => rw [same, Database.favorites_setFavorites]
    · next different => exact Database.favorites_setFavorites_ne database rows different
  subst changed
  exact {
    users := fun user member => (chronicled.users user (by simpa using member)).later passes
    confirmationTokens := fun token member =>
      (chronicled.confirmationTokens token (by simpa using member)).later passes aged
    authSessions := fun session member =>
      (chronicled.authSessions session (by simpa using member)).later passes aged
    favorites := fun other row member => by
      rw [tables other] at member
      split at member
      · exact (each row member).later (le_refl now) aged
      · exact (chronicled.favorites other row member).later passes aged
    activityEvents := fun event member =>
      (chronicled.activityEvents event (by simpa using member)).later passes aged
    contentLikes := fun like member =>
      (chronicled.contentLikes like (by simpa using member)).later passes aged
    comments := fun comment member =>
      (chronicled.comments comment (by simpa using member)).later passes aged
    favoriteOrder := fun other => by
      rw [tables other]
      split
      · exact ordered
      · exact chronicled.favoriteOrder other
    eventOrder := by simpa using chronicled.eventOrder
    likeOrder := by simpa using chronicled.likeOrder
    commentOrder := by simpa using chronicled.commentOrder }

theorem Database.Chronicled.actions (chronicled : database.Chronicled config clock)
    (passes : clock ≤ now) {events : List ActivityEventRow} {likes : List ContentLikeRow}
    {comments : List CommentRow}
    (changed : after = { database with
      activityEvents := events, contentLikes := likes, comments := comments })
    (aged : database.Ages since after)
    (eachEvent : ∀ event ∈ events, event.Timely now after)
    (eachLike : ∀ like ∈ likes, Timely now after like.userId like.createdAt)
    (eachComment : ∀ comment ∈ comments, Timely now after comment.userId comment.createdAt)
    (eventOrder : events.Pairwise fun first second =>
      first.id < second.id ∧ first.occurredAt ≤ second.occurredAt)
    (likeOrder : likes.Pairwise fun first second =>
      first.id < second.id ∧ first.createdAt ≤ second.createdAt)
    (commentOrder : comments.Pairwise fun first second => first.createdAt ≤ second.createdAt) :
    after.Chronicled config now := by
  subst changed
  have favorites (kind : PortalFavoriteKind) : Database.favorites { database with
      activityEvents := events, contentLikes := likes, comments := comments } kind =
        database.favorites kind := by cases kind <;> rfl
  exact {
    users := fun user member => (chronicled.users user member).later passes
    confirmationTokens := fun token member =>
      (chronicled.confirmationTokens token member).later passes aged
    authSessions := fun session member =>
      (chronicled.authSessions session member).later passes aged
    favorites := fun kind row member =>
      (chronicled.favorites kind row (favorites kind ▸ member)).later passes aged
    activityEvents := eachEvent
    contentLikes := eachLike
    comments := eachComment
    favoriteOrder := fun kind => favorites kind ▸ chronicled.favoriteOrder kind
    eventOrder := eventOrder
    likeOrder := likeOrder
    commentOrder := commentOrder }

theorem Database.Chronicled.later (chronicled : database.Chronicled config clock)
    (passes : clock ≤ now) : database.Chronicled config now :=
  chronicled.accounts passes rfl (.refl clock database)
    (fun user member => (chronicled.users user member).later passes)
    (fun token member =>
      (chronicled.confirmationTokens token member).later passes (.refl clock database))
    (fun session member =>
      (chronicled.authSessions session member).later passes (.refl clock database))

end Tables

end Later

section Effects

variable {service : Service} {call : Call} {world after : World} {reply : Option Response}

theorem pairwise_concat {α : Type} {relates : α → α → Prop} {rows : List α} {row : α}
    (ordered : rows.Pairwise relates) (last : ∀ old ∈ rows, relates old row) :
    (rows ++ [row]).Pairwise relates :=
  List.pairwise_append.mpr ⟨ordered, List.pairwise_singleton _ _, by simpa using last⟩

section Who

variable {config : PortalConfig}
  (chronicled : world.database.Chronicled config world.clock)
include chronicled

theorem Database.Chronicled.confirmedBy {user : UserRow} (member : user ∈ world.database.users)
    (confirmed : user.confirmedAt.isSome = true) :
    world.database.ConfirmedBy user.id world.clock := by
  obtain ⟨time, known⟩ := Option.isSome_iff_exists.mp confirmed
  exact ⟨user, member, rfl, time, known, ((chronicled.users user member).confirmed time known).2⟩

theorem LetIn.confirmedBy {token : Uuid} {session : AuthSessionRow} {user : UserRow}
    (letIn : LetIn service call world token session user after) :
    world.database.ConfirmedBy user.id world.clock := by
  obtain ⟨_, _, admitted, _⟩ := letIn.admitted
  exact Database.Chronicled.confirmedBy chronicled admitted.live.user_mem admitted.live.confirmed

theorem ActsAs.confirmedBy {actor : Actor} (acts : ActsAs service call world actor after) (id : Uuid)
    (known : actor.userId = some id) : world.database.ConfirmedBy id world.clock := by
  obtain ⟨_, acts, _⟩ := acts.acts
  cases acts with
  | session _ admitted =>
      obtain rfl := Option.some.inj known
      exact Database.Chronicled.confirmedBy chronicled admitted.live.user_mem
        admitted.live.confirmed
  | anonymous _ _ => cases known

end Who

theorem Registered.chronicled {fields : RegisterFields} {transaction : Transaction}
    (chronicled : world.database.Chronicled service.config world.clock)
    (registered : Registered service call world fields transaction reply after)
    (aged : world.database.Ages world.clock after.database) :
    after.database.Chronicled service.config after.clock := by
  have now := registered.now
  refine chronicled.accounts registered.clock registered.database aged ?_ ?_ ?_
  · refine List.forall_mem_append.mpr
      ⟨fun user member => (chronicled.users user member).later registered.clock, ?_⟩
    refine List.forall_mem_singleton.mpr ⟨now.le, fun time known => ?_⟩
    cases known
  · refine List.forall_mem_append.mpr ⟨fun token member =>
      (chronicled.confirmationTokens token member).later registered.clock aged, ?_⟩
    refine List.forall_mem_singleton.mpr ⟨now.le, rfl, fun time known => ?_⟩
    cases known
  · exact fun session member =>
      (chronicled.authSessions session member).later registered.clock aged

theorem Confirmed.chronicled {row : ConfirmationTokenRow} {user : UserRow}
    {transaction : Transaction} (valid : world.database.Valid service.postgres.lower)
    (chronicled : world.database.Chronicled service.config world.clock)
    (confirmed : Confirmed service call world row user transaction reply after)
    (aged : world.database.Ages world.clock after.database) :
    after.database.Chronicled service.config after.clock := by
  have now := confirmed.now
  have later := confirmed.clock
  refine chronicled.accounts later confirmed.database aged ?_ ?_ ?_
  · intro next member
    rcases Table.mem_update.mp member with ⟨present, _⟩ | ⟨old, present, _, rfl⟩
    · exact (chronicled.users next present).later later
    · have timely := (chronicled.users old present).later later
      refine ⟨timely.created, fun time known => ?_⟩
      have same : old.confirmedAt.getD transaction.now = time := Option.some.inj known
      cases earlier : old.confirmedAt with
      | none =>
          rw [earlier, Option.getD_none, now] at same
          exact same ▸ ⟨timely.created, le_refl _⟩
      | some first =>
          rw [earlier, Option.getD_some] at same
          exact same ▸ timely.confirmed first earlier
  · intro next member
    rcases Table.mem_update.mp member with ⟨present, _⟩ | ⟨old, present, chosen, rfl⟩
    · exact (chronicled.confirmationTokens next present).later later aged
    · obtain rfl : old = row :=
        Table.eq_of_key valid.tokenKeys present confirmed.row_mem (by simpa using chosen)
      have timely := (chronicled.confirmationTokens old present).later later aged
      refine ⟨timely.created, timely.expires, fun time known => ?_⟩
      obtain rfl : transaction.now = time := Option.some.inj known
      refine ⟨now ▸ timely.created, now ▸ confirmed.unexpired, now.le, ?_⟩
      refine ⟨confirmUser transaction user, ?_, confirmed.owner,
        user.confirmedAt.getD transaction.now, rfl, ?_⟩
      · rw [confirmed.database]
        exact Table.mem_update.mpr (.inr ⟨user, confirmed.user_mem, by simp [confirmed.owner], rfl⟩)
      · cases earlier : user.confirmedAt with
        | none => exact le_refl _
        | some first =>
            rw [now]
            exact le_trans ((chronicled.users user confirmed.user_mem).confirmed first earlier).2
              later
  · exact fun session member => (chronicled.authSessions session member).later later aged

theorem LoggedIn.chronicled {fields : LoginFields} {user : UserRow} {transaction : Transaction}
    (chronicled : world.database.Chronicled service.config world.clock)
    (loggedIn : LoggedIn service call world fields user transaction reply after)
    (aged : world.database.Ages world.clock after.database) :
    after.database.Chronicled service.config after.clock := by
  have now := loggedIn.now
  have later := loggedIn.clock
  have accepted := loggedIn.accepted
  simp only [candidate, Bool.and_eq_true] at accepted
  have owner : world.database.ConfirmedBy user.id world.clock :=
    Database.Chronicled.confirmedBy chronicled loggedIn.user_mem accepted.1.2
  refine chronicled.accounts later loggedIn.database aged ?_ ?_ ?_
  · exact fun user member => (chronicled.users user member).later later
  · exact fun token member => (chronicled.confirmationTokens token member).later later aged
  · refine List.forall_mem_append.mpr
      ⟨fun session member => (chronicled.authSessions session member).later later aged, ?_⟩
    refine List.forall_mem_singleton.mpr ⟨now.le, rfl, ?_, fun time known => by cases known⟩
    have passes : world.clock ≤ transaction.now := now.symm ▸ later
    exact (owner.ages aged).mono passes

theorem LoggedOut.chronicled {token : Uuid} {session : AuthSessionRow} {user : UserRow}
    {transaction : Transaction}
    (chronicled : world.database.Chronicled service.config world.clock)
    (loggedOut : LoggedOut service call world token session user transaction reply after)
    (later : world.clock ≤ after.clock) (aged : world.database.Ages world.clock after.database) :
    after.database.Chronicled service.config after.clock := by
  have now := loggedOut.now
  refine chronicled.accounts later loggedOut.database aged ?_ ?_ ?_
  · exact fun user member => (chronicled.users user member).later later
  · exact fun token member => (chronicled.confirmationTokens token member).later later aged
  · intro next member
    rcases Table.mem_update.mp member with ⟨present, _⟩ | ⟨old, present, _, rfl⟩
    · exact (chronicled.authSessions next present).later later aged
    · have timely := (chronicled.authSessions old present).later later aged
      refine ⟨timely.created, timely.expires, timely.owner, fun time known => ?_⟩
      obtain rfl : transaction.now = time := Option.some.inj known
      exact ⟨now ▸ timely.created, now.le⟩

theorem Database.Chronicled.addFavorite {database : Database} {config : PortalConfig}
    {clock now : Time} {kind : PortalFavoriteKind} {user : UserRow} {key : Bytes}
    (chronicled : database.Chronicled config clock) (passes : clock ≤ now)
    (owner : database.ConfirmedBy user.id clock) :
    (database.setFavorites kind (database.favorites kind ++
      [{ userId := user.id, key, createdAt := now }])).Chronicled config now := by
  refine chronicled.setFavorites passes rfl ?_ ?_
  · refine List.forall_mem_append.mpr ⟨fun row member =>
      (chronicled.favorites kind row member).later passes (.refl clock _), ?_⟩
    exact List.forall_mem_singleton.mpr ⟨le_refl now, owner.mono passes⟩
  · exact pairwise_concat (chronicled.favoriteOrder kind) fun old member =>
      le_trans (chronicled.favorites kind old member).created passes

theorem Database.Chronicled.removeFavorite {database : Database} {config : PortalConfig}
    {clock now : Time} (chronicled : database.Chronicled config clock) (passes : clock ≤ now)
    (kind : PortalFavoriteKind) (userId : Uuid) (key : Bytes) :
    (database.removeFavorite kind userId key).Chronicled config now := by
  refine chronicled.setFavorites passes rfl (fun row member => ?_) ?_
  · exact (chronicled.favorites kind row (List.mem_filter.mp member).1).later passes (.refl clock _)
  · exact (chronicled.favoriteOrder kind).sublist List.filter_sublist

section Actions

variable {config : PortalConfig} {clock : Time} {database later : Database}
  {transaction : Transaction} {userId : Option Uuid}
  (chronicled : database.Chronicled config clock) (passes : clock ≤ transaction.now)
  (aged : database.Ages clock later)
  (owner : ∀ id, userId = some id → database.ConfirmedBy id clock)
include passes aged owner

theorem Timely.stamped : Timely transaction.now later userId transaction.now where
  past := le_refl _
  owner id acts := ((owner id acts).ages aged).mono passes

include chronicled

/-- An event is numbered above all that are stored. -/
theorem Database.Chronicled.recordEvent {anonymousId contentId componentId pageUrl : Option Bytes}
    {portalKey eventType eventData : Bytes} {events : List ActivityEventRow}
    (recorded : events = database.activityEvents ++ [recordedEvent transaction database userId
      anonymousId portalKey eventType contentId componentId pageUrl eventData]) :
    (∀ event ∈ events, event.Timely transaction.now later) ∧
      events.Pairwise fun first second =>
        first.id < second.id ∧ first.occurredAt ≤ second.occurredAt := by
  subst recorded
  constructor
  · refine List.forall_mem_append.mpr ⟨fun event member =>
      (chronicled.activityEvents event member).later passes aged, ?_⟩
    exact List.forall_mem_singleton.mpr ⟨.stamped passes aged owner, rfl⟩
  · refine pairwise_concat chronicled.eventOrder fun old member => ⟨?_, ?_⟩
    · exact Table.nextIdentity_above (List.mem_map_of_mem member)
    · exact le_trans (chronicled.activityEvents old member).occurred.past passes

theorem Database.Chronicled.recordLike {anonymousId : Option Bytes} {contentId actorKey : Bytes}
    {likes : List ContentLikeRow}
    (recorded : likes = database.contentLikes ++
      [addedLike transaction database contentId userId anonymousId actorKey]) :
    (∀ like ∈ likes, Timely transaction.now later like.userId like.createdAt) ∧
      likes.Pairwise fun first second =>
        first.id < second.id ∧ first.createdAt ≤ second.createdAt := by
  subst recorded
  constructor
  · refine List.forall_mem_append.mpr ⟨fun like member =>
      (chronicled.contentLikes like member).later passes aged, ?_⟩
    exact List.forall_mem_singleton.mpr (.stamped passes aged owner)
  · refine pairwise_concat chronicled.likeOrder fun old member => ⟨?_, ?_⟩
    · exact Table.nextIdentity_above (List.mem_map_of_mem member)
    · exact le_trans (chronicled.contentLikes old member).past passes

theorem Database.Chronicled.recordComment {anonymousId authorName : Option Bytes}
    {contentId body : Bytes} {comments : List CommentRow}
    (recorded : comments = database.comments ++
      [addedComment transaction contentId userId anonymousId authorName body]) :
    (∀ comment ∈ comments, Timely transaction.now later comment.userId comment.createdAt) ∧
      comments.Pairwise fun first second => first.createdAt ≤ second.createdAt := by
  subst recorded
  constructor
  · refine List.forall_mem_append.mpr ⟨fun comment member =>
      (chronicled.comments comment member).later passes aged, ?_⟩
    exact List.forall_mem_singleton.mpr (.stamped passes aged owner)
  · exact pairwise_concat chronicled.commentOrder fun old member =>
      le_trans (chronicled.comments old member).past passes

end Actions

theorem Effect.chronicled (valid : world.database.Valid service.postgres.lower)
    (chronicled : world.database.Chronicled service.config world.clock)
    (effect : Effect service call world reply after) (later : world.clock ≤ after.clock) :
    after.database.Chronicled service.config after.clock := by
  have aged : world.database.Ages world.clock after.database := effect.ages valid later
  have kept : world.database.Chronicled service.config after.clock := chronicled.later later
  have events := fun event member =>
    (chronicled.activityEvents event member).later later aged
  have likes := fun like member => (chronicled.contentLikes like member).later later aged
  have comments := fun comment member => (chronicled.comments comment member).later later aged
  cases effect with
  | kept same _ => exact same.database ▸ kept
  | registered registered => exact registered.chronicled chronicled aged
  | confirmed confirmed => exact confirmed.chronicled valid chronicled aged
  | loggedIn loggedIn => exact loggedIn.chronicled chronicled aged
  | loggedOut loggedOut => exact loggedOut.chronicled chronicled later aged
  | favoriteAdded changes _ _ database =>
      obtain ⟨token, session, letIn⟩ := changes.letIn
      exact database ▸ chronicled.addFavorite later (letIn.confirmedBy chronicled)
  | favoritePresent _ _ _ database => exact database ▸ kept
  | favoriteRemoved _ _ database => exact database ▸ chronicled.removeFavorite later _ _ _
  | recorded recorded =>
      have owner := recorded.acts.confirmedBy chronicled
      obtain ⟨transaction, _, _, now, _, _, rfl⟩ := recorded.event_eq
      obtain ⟨each, ordered⟩ := chronicled.recordEvent (now ▸ later) aged owner rfl
      rw [now] at each
      exact chronicled.actions later recorded.database aged each likes comments ordered
        chronicled.likeOrder chronicled.commentOrder
  | liked changes _ _ now _ database =>
      have owner := changes.acts.confirmedBy chronicled
      obtain ⟨each, ordered⟩ := chronicled.recordEvent (now ▸ later) aged owner rfl
      obtain ⟨eachLike, likeOrder⟩ := chronicled.recordLike (now ▸ later) aged owner rfl
      rw [now] at each eachLike
      exact chronicled.actions later database aged each eachLike comments ordered likeOrder
        chronicled.commentOrder
  | likePresent _ _ _ _ database => exact database ▸ kept
  | unliked _ _ database =>
      refine chronicled.actions later database aged events (fun like member => ?_) comments
        chronicled.eventOrder (chronicled.likeOrder.sublist List.filter_sublist)
        chronicled.commentOrder
      exact likes like (List.mem_filter.mp member).1
  | commented commented =>
      have owner := commented.acts.confirmedBy chronicled
      obtain ⟨transaction, now, rfl, rfl⟩ := commented.rows_eq
      obtain ⟨each, ordered⟩ := chronicled.recordEvent (now ▸ later) aged owner rfl
      obtain ⟨eachComment, commentOrder⟩ := chronicled.recordComment (now ▸ later) aged owner rfl
      rw [now] at each eachComment
      exact chronicled.actions later commented.database aged each likes eachComment ordered
        chronicled.likeOrder commentOrder

end Effects

section Mortal

variable {service : Service} {admits : Environment → Prop} {world : World}

end Mortal

end PortalApi
