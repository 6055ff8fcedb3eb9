import PortalApi.Crashes
import PortalApi.Library.Growth

/-! What the tables never lose. Accounts, tokens, sessions, events and comments stay for
good, whatever requests are served and wherever the process dies; what may still change in
them changes once, and to a later time. -/

set_option autoImplicit false

namespace PortalApi

open Library

/-- An account and the same account at a later time. -/
structure UserRow.Ages (since : Time) (user later : UserRow) : Prop where
  same : later = { user with confirmedAt := later.confirmedAt, updatedAt := later.updatedAt }
  confirmed : later.confirmedAt = user.confirmedAt ∨
    user.confirmedAt = none ∧ ∃ time, later.confirmedAt = some time ∧ since ≤ time
  updated : later.updatedAt = user.updatedAt ∨ since ≤ later.updatedAt

structure ConfirmationTokenRow.Ages (since : Time) (token later : ConfirmationTokenRow) : Prop where
  same : later = { token with consumedAt := later.consumedAt }
  consumed : later.consumedAt = token.consumedAt ∨
    token.consumedAt = none ∧ ∃ time, later.consumedAt = some time ∧ since ≤ time ∧
      time < token.expiresAt

structure AuthSessionRow.Ages (since : Time) (session later : AuthSessionRow) : Prop where
  same : later = { session with revokedAt := later.revokedAt }
  revoked : later.revokedAt = session.revokedAt ∨
    session.revokedAt = none ∧ ∃ time, later.revokedAt = some time ∧ since ≤ time

/-- The database and the same database at a later time, with all that it records for good. -/
structure Database.Ages (since : Time) (before after : Database) : Prop where
  users : Table.Grows (UserRow.Ages since)
    (fun user => since ≤ user.createdAt ∧ since ≤ user.updatedAt) before.users after.users
  confirmationTokens : Table.Grows (ConfirmationTokenRow.Ages since)
    (fun token => since ≤ token.createdAt) before.confirmationTokens after.confirmationTokens
  authSessions : Table.Grows (AuthSessionRow.Ages since) (fun session => since ≤ session.createdAt)
    before.authSessions after.authSessions
  activityEvents : Table.Grows Eq
    (fun event => since ≤ event.occurredAt ∧ since ≤ event.receivedAt)
    before.activityEvents after.activityEvents
  comments : Table.Grows Eq
    (fun comment => since ≤ comment.createdAt) before.comments after.comments

section Rows

variable {since now : Time}

theorem UserRow.Ages.refl (since : Time) (user : UserRow) : user.Ages since user :=
  ⟨rfl, .inl rfl, .inl rfl⟩

theorem ConfirmationTokenRow.Ages.refl (since : Time) (token : ConfirmationTokenRow) :
    token.Ages since token := ⟨rfl, .inl rfl⟩

theorem AuthSessionRow.Ages.refl (since : Time) (session : AuthSessionRow) :
    session.Ages since session := ⟨rfl, .inl rfl⟩

theorem UserRow.Ages.trans (later : since ≤ now) {first second third : UserRow}
    (start : first.Ages since second) (rest : second.Ages now third) : first.Ages since third := by
  refine ⟨?_, ?_, ?_⟩
  · rw [rest.same, start.same]
  · rcases rest.confirmed with same | ⟨unconfirmed, time, confirmed, after⟩
    · exact same ▸ start.confirmed
    · rcases start.confirmed with same | ⟨_, _, confirmed, _⟩
      · exact .inr ⟨same ▸ unconfirmed, time, confirmed, le_trans later after⟩
      · rw [unconfirmed] at confirmed
        cases confirmed
  · rcases rest.updated with same | after
    · exact same ▸ start.updated
    · exact .inr (le_trans later after)

theorem ConfirmationTokenRow.Ages.trans (later : since ≤ now)
    {first second third : ConfirmationTokenRow} (start : first.Ages since second)
    (rest : second.Ages now third) : first.Ages since third := by
  refine ⟨?_, ?_⟩
  · rw [rest.same, start.same]
  · rcases rest.consumed with same | ⟨unconsumed, time, consumed, after, valid⟩
    · exact same ▸ start.consumed
    · have expiry : second.expiresAt = first.expiresAt := by rw [start.same]
      rcases start.consumed with same | ⟨_, _, consumed, _⟩
      · exact .inr ⟨same ▸ unconsumed, time, consumed, le_trans later after, expiry ▸ valid⟩
      · rw [unconsumed] at consumed
        cases consumed

theorem AuthSessionRow.Ages.trans (later : since ≤ now) {first second third : AuthSessionRow}
    (start : first.Ages since second) (rest : second.Ages now third) :
    first.Ages since third := by
  refine ⟨?_, ?_⟩
  · rw [rest.same, start.same]
  · rcases rest.revoked with same | ⟨unrevoked, time, revoked, after⟩
    · exact same ▸ start.revoked
    · rcases start.revoked with same | ⟨_, _, revoked, _⟩
      · exact .inr ⟨same ▸ unrevoked, time, revoked, le_trans later after⟩
      · rw [unrevoked] at revoked
        cases revoked

theorem Database.Ages.refl (since : Time) (database : Database) : database.Ages since database where
  users := .refl (UserRow.Ages.refl since) _
  confirmationTokens := .refl (ConfirmationTokenRow.Ages.refl since) _
  authSessions := .refl (AuthSessionRow.Ages.refl since) _
  activityEvents := .refl (fun _ => rfl) _
  comments := .refl (fun _ => rfl) _

theorem Database.Ages.trans (later : since ≤ now) {first second third : Database}
    (start : first.Ages since second) (rest : second.Ages now third) :
    first.Ages since third where
  users := by
    refine start.users.trans rest.users (UserRow.Ages.trans later) ?_
      fun new => ⟨le_trans later new.1, le_trans later new.2⟩
    intro user next new ages
    refine ⟨?_, ages.updated.elim (fun same => same ▸ new.2) (le_trans later)⟩
    rw [ages.same]
    exact new.1
  confirmationTokens := by
    refine start.confirmationTokens.trans rest.confirmationTokens
      (ConfirmationTokenRow.Ages.trans later) ?_ (le_trans later)
    intro token next new ages
    rw [ages.same]
    exact new
  authSessions := by
    refine start.authSessions.trans rest.authSessions (AuthSessionRow.Ages.trans later) ?_
      (le_trans later)
    intro session next new ages
    rw [ages.same]
    exact new
  activityEvents := by
    refine start.activityEvents.trans rest.activityEvents Eq.trans ?_
      fun new => ⟨le_trans later new.1, le_trans later new.2⟩
    rintro event _ new rfl
    exact new
  comments := by
    refine start.comments.trans rest.comments Eq.trans ?_ (le_trans later)
    rintro comment _ new rfl
    exact new

end Rows

section Effects

variable {service : Service} {call : Call} {world after : World} {reply : Option Response}
  {since : Time}

/-- Favorites and likes come and go. -/
theorem Database.Ages.of_same {before after : Database} (users : after.users = before.users)
    (confirmationTokens : after.confirmationTokens = before.confirmationTokens)
    (authSessions : after.authSessions = before.authSessions)
    (activityEvents : after.activityEvents = before.activityEvents)
    (comments : after.comments = before.comments) : before.Ages since after where
  users := users ▸ .refl (UserRow.Ages.refl since) _
  confirmationTokens := confirmationTokens ▸ .refl (ConfirmationTokenRow.Ages.refl since) _
  authSessions := authSessions ▸ .refl (AuthSessionRow.Ages.refl since) _
  activityEvents := activityEvents ▸ .refl (fun _ => rfl) _
  comments := comments ▸ .refl (fun _ => rfl) _

theorem Database.Ages.setFavorites (database : Database) (kind : PortalFavoriteKind)
    (rows : List FavoriteRow) : database.Ages since (database.setFavorites kind rows) :=
  .of_same (by simp) (by simp) (by simp) (by simp) (by simp)

/-- Every event a request records is stamped with the time of its statement. -/
theorem Database.Ages.record {database : Database} {event : ActivityEventRow}
    (occurred : since ≤ event.occurredAt) (received : since ≤ event.receivedAt)
    (likes : List ContentLikeRow) :
    database.Ages since { database with
      activityEvents := database.activityEvents ++ [event], contentLikes := likes } where
  users := .refl (UserRow.Ages.refl since) _
  confirmationTokens := .refl (ConfirmationTokenRow.Ages.refl since) _
  authSessions := .refl (AuthSessionRow.Ages.refl since) _
  activityEvents := .append (fun _ => rfl) ⟨occurred, received⟩
  comments := .refl (fun _ => rfl) _

theorem confirmUser_ages (transaction : Transaction) (later : since ≤ transaction.now)
    (user : UserRow) : user.Ages since (confirmUser transaction user) := by
  refine ⟨rfl, ?_, .inr later⟩
  cases known : user.confirmedAt with
  | none => exact .inr ⟨rfl, transaction.now, by simp [confirmUser, known], later⟩
  | some time => exact .inl (by simp [confirmUser, known])

theorem Effect.ages (valid : world.database.Valid service.postgres.lower)
    (effect : Effect service call world reply after)
    (later : world.clock ≤ after.clock) : world.database.Ages world.clock after.database := by
  cases effect with
  | kept same _ => exact same.database ▸ .refl world.clock _
  | @registered fields transaction _ _ registered =>
      have now : world.clock ≤ transaction.now := registered.now ▸ later
      rw [registered.database]
      exact {
        users := .append (UserRow.Ages.refl _) ⟨now, now⟩
        confirmationTokens := .append (ConfirmationTokenRow.Ages.refl _) now
        authSessions := .refl (AuthSessionRow.Ages.refl _) _
        activityEvents := .refl (fun _ => rfl) _
        comments := .refl (fun _ => rfl) _ }
  | @confirmed row user transaction _ _ confirmed =>
      have now : world.clock ≤ transaction.now := confirmed.now ▸ later
      have unexpired : transaction.now < row.expiresAt := confirmed.now ▸ confirmed.unexpired
      rw [confirmed.database]
      exact {
        users := .update (UserRow.Ages.refl _) fun user _ _ => confirmUser_ages transaction now user
        confirmationTokens := .update (ConfirmationTokenRow.Ages.refl _) fun other member chosen => by
          obtain rfl : other = row :=
            Table.eq_of_key valid.tokenKeys member confirmed.row_mem (by simpa using chosen)
          exact ⟨rfl, .inr ⟨confirmed.unconsumed, transaction.now, rfl, now, unexpired⟩⟩
        authSessions := .refl (AuthSessionRow.Ages.refl _) _
        activityEvents := .refl (fun _ => rfl) _
        comments := .refl (fun _ => rfl) _ }
  | @loggedIn fields user transaction _ _ loggedIn =>
      have now : world.clock ≤ transaction.now := loggedIn.now ▸ later
      rw [loggedIn.database]
      exact {
        users := .refl (UserRow.Ages.refl _) _
        confirmationTokens := .refl (ConfirmationTokenRow.Ages.refl _) _
        authSessions := .append (AuthSessionRow.Ages.refl _) now
        activityEvents := .refl (fun _ => rfl) _
        comments := .refl (fun _ => rfl) _ }
  | @loggedOut token session user transaction _ _ loggedOut =>
      have now : world.clock ≤ transaction.now := loggedOut.now ▸ later
      rw [loggedOut.database]
      exact {
        users := .refl (UserRow.Ages.refl _) _
        confirmationTokens := .refl (ConfirmationTokenRow.Ages.refl _) _
        authSessions := .update (AuthSessionRow.Ages.refl _) fun session _ chosen => by
          have chosen : session.token = token ∧ session.revokedAt = none := by
            simpa [revocable] using chosen
          exact ⟨rfl, .inr ⟨chosen.2, transaction.now, rfl, now⟩⟩
        activityEvents := .refl (fun _ => rfl) _
        comments := .refl (fun _ => rfl) _ }
  | favoriteAdded _ _ _ database => exact database ▸ .setFavorites _ _ _
  | favoritePresent _ _ _ database => exact database ▸ .refl world.clock _
  | favoriteRemoved _ _ database => exact database ▸ .setFavorites _ _ _
  | recorded recorded =>
      obtain ⟨transaction, _, _, now, _, _, rfl⟩ := recorded.event_eq
      have now : world.clock ≤ transaction.now := now ▸ later
      exact recorded.database ▸ .record now now _
  | @liked _ _ _ transaction _ _ _ _ _ now _ database =>
      have now : world.clock ≤ transaction.now := now ▸ later
      exact database ▸ .record now now _
  | likePresent _ _ _ _ database => exact database ▸ .refl world.clock _
  | unliked _ _ database => exact database ▸ .of_same rfl rfl rfl rfl rfl
  | commented commented =>
      obtain ⟨transaction, now, rfl, rfl⟩ := commented.rows_eq
      have now : world.clock ≤ transaction.now := now ▸ later
      rw [commented.database]
      exact {
        users := .refl (UserRow.Ages.refl _) _
        confirmationTokens := .refl (ConfirmationTokenRow.Ages.refl _) _
        authSessions := .refl (AuthSessionRow.Ages.refl _) _
        activityEvents := .append (fun _ => rfl) ⟨now, now⟩
        comments := .append (fun _ => rfl) now }

end Effects

section Mortal

variable {service : Service} {admits : Environment → Prop} {world : World}
  {earlier later : List (Event Incident (Option Response) World)}
  {event : Event Incident (Option Response) World}

theorem suffer_valid (valid : world.database.Valid service.postgres.lower) (incident : Incident) :
    (service.suffer incident world).2.database.Valid service.postgres.lower := by
  have valid : world.reconnected.database.Valid service.postgres.lower := valid
  have database := congrArg World.database (service.suffer_survived incident world).1
  have served : (service.serve (service.survived incident world)
      world.reconnected).2.database.Valid service.postgres.lower := Service.serve_valid valid
  exact database ▸ served

theorem mortal_valid {events : List (Event Incident (Option Response) World)}
    (run : (service.mortal admits).Run events world) :
    world.database.Valid service.postgres.lower := by
  have initially : ∀ state, (service.mortal admits).initial state →
      state.database.Valid service.postgres.lower := by
    rintro state ⟨empty, _⟩
    exact empty ▸ Database.empty_valid _
  exact run.invariant initially fun incident _ _ valid => suffer_valid valid incident

end Mortal

end PortalApi
