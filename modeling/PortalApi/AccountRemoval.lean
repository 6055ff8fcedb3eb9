import PortalApi.Identities

/-! What `DELETE FROM users` does under the foreign keys of `db/init.sql`, and
which accounts it can remove. -/

set_option autoImplicit false

namespace PortalApi

open Library

/-! `ON DELETE SET NULL` of one row. -/

def ActivityEventRow.withoutUser (row : ActivityEventRow) : ActivityEventRow :=
  { row with userId := none }

def ContentLikeRow.withoutUser (row : ContentLikeRow) : ContentLikeRow :=
  { row with userId := none }

def CommentRow.withoutUser (row : CommentRow) : CommentRow := { row with userId := none }

/-- The state after `DELETE FROM users WHERE id = ...`: rows of the user in the
five cascading tables go, and three tables keep theirs without its id, which
must then pass the CHECK constraints of an update. -/
def executeDeleteUser (database : Database) (id : Uuid) : Except SqlError Database := do
  ensure ((database.activityEvents.filter fun row => row.userId = some id).all fun row =>
    row.withoutUser.check) .checkViolation
  ensure ((database.contentLikes.filter fun row => row.userId = some id).all fun row =>
    row.withoutUser.check) .checkViolation
  ensure ((database.comments.filter fun row => row.userId = some id).all fun row =>
    row.withoutUser.check) .checkViolation
  .ok {
    users := database.users.filter fun row => row.id ≠ id
    confirmationTokens := database.confirmationTokens.filter fun row => row.userId ≠ id
    authSessions := database.authSessions.filter fun row => row.userId ≠ id
    favoriteSections := database.favoriteSections.filter fun row => row.userId ≠ id
    favoriteTags := database.favoriteTags.filter fun row => row.userId ≠ id
    activityEvents := Table.update (fun row => row.userId = some id) (·.withoutUser)
      database.activityEvents
    contentLikes := Table.update (fun row => row.userId = some id) (·.withoutUser)
      database.contentLikes
    comments := Table.update (fun row => row.userId = some id) (·.withoutUser)
      database.comments }

/-- The account and exactly its tokens, sessions and favorites are gone, and
every event, like and comment is there, with nothing but its user removed. -/
structure Removed (database : Database) (user : UserRow) (after : Database) : Prop where
  users : ∀ row, row ∈ after.users ↔ row ∈ database.users ∧ row ≠ user
  confirmationTokens : ∀ row, row ∈ after.confirmationTokens ↔
    row ∈ database.confirmationTokens ∧ row.userId ≠ user.id
  authSessions : ∀ row, row ∈ after.authSessions ↔
    row ∈ database.authSessions ∧ row.userId ≠ user.id
  favorites : ∀ kind row, row ∈ after.favorites kind ↔
    row ∈ database.favorites kind ∧ row.userId ≠ user.id
  activityEvents : after.activityEvents = database.activityEvents.map fun row =>
    if row.userId = some user.id then row.withoutUser else row
  contentLikes : after.contentLikes = database.contentLikes.map fun row =>
    if row.userId = some user.id then row.withoutUser else row
  comments : after.comments = database.comments.map fun row =>
    if row.userId = some user.id then row.withoutUser else row

/-- No event, like or comment names the account. -/
structure Database.Untraced (database : Database) (id : Uuid) : Prop where
  activityEvents : ∀ row ∈ database.activityEvents, row.userId ≠ some id
  contentLikes : ∀ row ∈ database.contentLikes, row.userId ≠ some id
  comments : ∀ row ∈ database.comments, row.userId ≠ some id

section Removal

variable {lower : Bytes → Bytes} {database after : Database} {id : Uuid}

private theorem references_kept {userId : Option Uuid} (refers : database.References userId)
    (other : userId ≠ some id) (users : after.users = database.users.filter fun row => row.id ≠ id) :
    after.References userId := by
  intro owner same
  obtain ⟨user, member, rfl⟩ := refers owner same
  refine ⟨user, ?_, rfl⟩
  rw [users]
  refine List.mem_filter.mpr ⟨member, ?_⟩
  have apart : user.id ≠ id := by
    intro equal
    exact other (equal ▸ same)
  simpa using apart

private theorem owner_kept {owner : Uuid} (owned : ∃ user ∈ database.users, user.id = owner)
    (other : owner ≠ id) (users : after.users = database.users.filter fun row => row.id ≠ id) :
    ∃ user ∈ after.users, user.id = owner := by
  have refers : database.References (some owner) := by
    intro named same
    exact Option.some.inj same ▸ owned
  exact references_kept refers (fun same => other (Option.some.inj same)) users owner rfl

theorem executeDeleteUser_eq_ok : executeDeleteUser database id = .ok after ↔
    (∀ row ∈ database.activityEvents, row.userId = some id → row.withoutUser.check = true) ∧
      (∀ row ∈ database.contentLikes, row.userId = some id → row.withoutUser.check = true) ∧
        (∀ row ∈ database.comments, row.userId = some id → row.withoutUser.check = true) ∧
          after = {
            users := database.users.filter fun row => row.id ≠ id
            confirmationTokens := database.confirmationTokens.filter fun row => row.userId ≠ id
            authSessions := database.authSessions.filter fun row => row.userId ≠ id
            favoriteSections := database.favoriteSections.filter fun row => row.userId ≠ id
            favoriteTags := database.favoriteTags.filter fun row => row.userId ≠ id
            activityEvents := Table.update (fun row => row.userId = some id) (·.withoutUser)
              database.activityEvents
            contentLikes := Table.update (fun row => row.userId = some id) (·.withoutUser)
              database.contentLikes
            comments := Table.update (fun row => row.userId = some id) (·.withoutUser)
              database.comments } := by
  simp only [executeDeleteUser, except_bind_eq_ok, ensure_eq_ok, List.all_eq_true, List.mem_filter,
    decide_eq_true_eq, and_imp, Except.ok.injEq]
  constructor
  · intro ⟨_, events, _, likes, _, comments, same⟩
    exact ⟨events, likes, comments, same.symm⟩
  · intro ⟨events, likes, comments, same⟩
    exact ⟨(), events, (), likes, (), comments, same.symm⟩

theorem executeDeleteUser_valid (valid : database.Valid lower)
    (executed : executeDeleteUser database id = .ok after) : after.Valid lower := by
  obtain ⟨eventChecks, likeChecks, commentChecks, same⟩ := executeDeleteUser_eq_ok.mp executed
  have users : after.users = database.users.filter fun row => row.id ≠ id := by rw [same]
  have favorites : ∀ kind, after.favorites kind =
      (database.favorites kind).filter fun row => row.userId ≠ id := by
    intro kind
    rw [same]
    cases kind <;> rfl
  subst same
  constructor
  case userIds => exact Table.nodup_filter valid.userIds _
  case userEmails => exact Table.nodup_filter valid.userEmails _
  case userChecks =>
    intro row member
    exact valid.userChecks row (List.mem_filter.mp member).1
  case tokenKeys => exact Table.nodup_filter valid.tokenKeys _
  case tokenOwners =>
    intro row member
    obtain ⟨old, other⟩ := List.mem_filter.mp member
    exact owner_kept (valid.tokenOwners row old) (by simpa using other) users
  case sessionKeys => exact Table.nodup_filter valid.sessionKeys _
  case sessionOwners =>
    intro row member
    obtain ⟨old, other⟩ := List.mem_filter.mp member
    exact owner_kept (valid.sessionOwners row old) (by simpa using other) users
  case favoriteKeys =>
    intro kind
    rw [favorites]
    exact Table.nodup_filter (valid.favoriteKeys kind) _
  case favoriteOwners =>
    intro kind row member
    rw [favorites] at member
    obtain ⟨old, other⟩ := List.mem_filter.mp member
    exact owner_kept (valid.favoriteOwners kind row old) (by simpa using other) users
  case favoriteChecks =>
    intro kind row member
    rw [favorites] at member
    exact valid.favoriteChecks kind row (List.mem_filter.mp member).1
  case eventIds => exact Table.nodup_update valid.eventIds fun _ => rfl
  case eventOwners =>
    intro row member
    cases Table.mem_update.mp member with
    | inl kept => exact references_kept (valid.eventOwners row kept.1) (by simpa using kept.2) users
    | inr changed =>
        obtain ⟨old, _, _, rfl⟩ := changed
        intro owner impossible
        cases impossible
  case eventChecks =>
    intro row member
    cases Table.mem_update.mp member with
    | inl kept => exact valid.eventChecks row kept.1
    | inr changed =>
        obtain ⟨old, stored, chosen, rfl⟩ := changed
        exact eventChecks old stored (by simpa using chosen)
  case likeIds => exact Table.nodup_update valid.likeIds fun _ => rfl
  case likeActors => exact Table.nodup_update valid.likeActors fun _ => rfl
  case likeOwners =>
    intro row member
    cases Table.mem_update.mp member with
    | inl kept => exact references_kept (valid.likeOwners row kept.1) (by simpa using kept.2) users
    | inr changed =>
        obtain ⟨old, _, _, rfl⟩ := changed
        intro owner impossible
        cases impossible
  case likeChecks =>
    intro row member
    cases Table.mem_update.mp member with
    | inl kept => exact valid.likeChecks row kept.1
    | inr changed =>
        obtain ⟨old, stored, chosen, rfl⟩ := changed
        exact likeChecks old stored (by simpa using chosen)
  case commentIds => exact Table.nodup_update valid.commentIds fun _ => rfl
  case commentOwners =>
    intro row member
    cases Table.mem_update.mp member with
    | inl kept =>
        exact references_kept (valid.commentOwners row kept.1) (by simpa using kept.2) users
    | inr changed =>
        obtain ⟨old, _, _, rfl⟩ := changed
        intro owner impossible
        cases impossible
  case commentChecks =>
    intro row member
    cases Table.mem_update.mp member with
    | inl kept => exact valid.commentChecks row kept.1
    | inr changed =>
        obtain ⟨old, stored, chosen, rfl⟩ := changed
        exact commentChecks old stored (by simpa using chosen)

theorem executeDeleteUser_removed (valid : database.Valid lower) {user : UserRow}
    (known : user ∈ database.users) (executed : executeDeleteUser database user.id = .ok after) :
    Removed database user after := by
  obtain ⟨_, _, _, rfl⟩ := executeDeleteUser_eq_ok.mp executed
  constructor
  case users =>
    intro row
    simp only [List.mem_filter, decide_eq_true_eq]
    constructor
    · intro ⟨member, other⟩
      exact ⟨member, fun same => other (same ▸ rfl)⟩
    · intro ⟨member, other⟩
      exact ⟨member, fun same => other (Table.eq_of_key valid.userIds member known same)⟩
  case confirmationTokens => simp
  case authSessions => simp
  case favorites =>
    intro kind row
    cases kind <;> simp [Database.favorites]
  case activityEvents => simp [Table.update]
  case contentLikes => simp [Table.update]
  case comments => simp [Table.update]

/-- The rows of an account have no anonymous identifier, so that none of them
can do without the account. -/
theorem Database.Attributed.untraced {postgres : Postgres} (attributed : database.Attributed postgres)
    (executed : executeDeleteUser database id = .ok after) : database.Untraced id := by
  obtain ⟨eventChecks, likeChecks, commentChecks, _⟩ := executeDeleteUser_eq_ok.mp executed
  constructor
  · intro row member named
    obtain ⟨actor, owns⟩ := attributed.events row member
    have nameless := owns.exclusive named
    have passes := eventChecks row member named
    simp [ActivityEventRow.check, ActivityEventRow.withoutUser, nameless] at passes
  · intro row member named
    obtain ⟨actor, owns, _⟩ := attributed.likes row member
    have nameless := owns.exclusive named
    have passes := likeChecks row member named
    simp [ContentLikeRow.check, ContentLikeRow.withoutUser, nameless] at passes
  · intro row member named
    obtain ⟨actor, owns⟩ := attributed.comments row member
    have nameless := owns.exclusive named
    have passes := commentChecks row member named
    simp [CommentRow.check, CommentRow.withoutUser, nameless] at passes

end Removal

/-- In every reachable state exactly the accounts that never acted can be
removed. -/
theorem account_removal_iff {service : Service} (lawful : service.postgres.Lawful)
    {admits : Environment → Prop} {entries : List Service.Entry} {world : World}
    (run : service.Run admits entries world) {user : UserRow} (known : user ∈ world.database.users) :
    (∃ after, executeDeleteUser world.database user.id = .ok after ∧
        after.Valid service.postgres.lower ∧ Removed world.database user after) ↔
      world.database.Untraced user.id := by
  have valid := Service.Run.valid run
  constructor
  · intro ⟨after, executed, _, _⟩
    exact (Service.Run.attributed lawful run).untraced executed
  · intro untraced
    have executed := executeDeleteUser_eq_ok.mpr
      ⟨fun row member named => absurd named (untraced.activityEvents row member),
        fun row member named => absurd named (untraced.contentLikes row member),
        fun row member named => absurd named (untraced.comments row member), rfl⟩
    exact ⟨_, executed, executeDeleteUser_valid valid executed,
      executeDeleteUser_removed valid known executed⟩

namespace Reference

def newsPortal : Members := [("portal_key", bytes "news")]

def tracing : Service := service (bodies [account, confirmation 1, credentials, newsPortal])

/-- Ana likes a post. -/
def traced : List Call :=
  signedIn ++ [put "/content/a1/like" (bearer (uuidOut (draw 10))) newsPortal 20 0]

theorem traced_healthy : ∀ call ∈ traced, call.environment.Healthy := by
  simp [traced, signedIn, confirmed, post, put, environment_healthy]

def ana : UserRow where
  id := draw 1
  email := bytes "ana@example.com"
  displayName := bytes "Ana"
  passwordHash := crypt (bytes "correct-horse") salt.text
  confirmedAt := some hour
  createdAt := 0
  updatedAt := hour

end Reference

/-- Before her like Ana's account can be removed, and after it no more. -/
theorem account_removal_iff_traced :
    ((∃ after, executeDeleteUser (Reference.after Reference.tracing Reference.signedIn).database
          Reference.ana.id = .ok after ∧ after.Valid Reference.lower ∧
          Removed (Reference.after Reference.tracing Reference.signedIn).database Reference.ana after) ↔
        (Reference.after Reference.tracing Reference.signedIn).database.Untraced Reference.ana.id) ∧
      ((∃ after, executeDeleteUser (Reference.after Reference.tracing Reference.traced).database
          Reference.ana.id = .ok after ∧ after.Valid Reference.lower ∧
          Removed (Reference.after Reference.tracing Reference.traced).database Reference.ana after) ↔
        (Reference.after Reference.tracing Reference.traced).database.Untraced Reference.ana.id) :=
  ⟨account_removal_iff Reference.lawful (Reference.run Reference.tracing Reference.signedIn_healthy)
      (by decide +kernel),
    account_removal_iff Reference.lawful (Reference.run Reference.tracing Reference.traced_healthy)
      (by decide +kernel)⟩

/-- An account that liked a post cannot be removed. -/
theorem account_removal_refused :
    Reference.tracing.Run Environment.Healthy
        (Reference.history Reference.tracing Reference.traced)
        (Reference.after Reference.tracing Reference.traced) ∧
      Reference.ana ∈ (Reference.after Reference.tracing Reference.traced).database.users ∧
      executeDeleteUser (Reference.after Reference.tracing Reference.traced).database
        Reference.ana.id = .error .checkViolation :=
  ⟨Reference.run _ Reference.traced_healthy, by decide +kernel, by decide +kernel⟩

end PortalApi
