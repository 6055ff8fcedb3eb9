import PortalApi.ErrorResponses

/-! What the effects do to the accounts, their confirmation tokens and their
sessions, and where in a run these rows come from. -/

set_option autoImplicit false

namespace PortalApi

open Library

/-- A request with this method for this path was answered with this status. -/
structure AnsweredAt (call : Call) (reply : Option Response) (method url : String) (status : Nat) :
    Prop where
  request : call.request.At method url
  status : statusOf reply = some status

/-- One account at two times: nothing but its confirmation may be new. -/
structure UserRow.Becomes (user later : UserRow) : Prop where
  id : later.id = user.id
  email : later.email = user.email
  passwordHash : later.passwordHash = user.passwordHash
  confirmed : ∀ time, user.confirmedAt = some time → later.confirmedAt = some time

/-- One session at two times: nothing but its revocation may be new. -/
structure AuthSessionRow.Becomes (session later : AuthSessionRow) : Prop where
  token : later.token = session.token
  userId : later.userId = session.userId
  expiresAt : later.expiresAt = session.expiresAt
  revoked : session.revokedAt.isSome = true → later.revokedAt.isSome = true

theorem UserRow.Becomes.refl (user : UserRow) : user.Becomes user where
  id := rfl
  email := rfl
  passwordHash := rfl
  confirmed _ same := same

theorem UserRow.Becomes.trans {first second third : UserRow} (earlier : first.Becomes second)
    (later : second.Becomes third) : first.Becomes third where
  id := later.id.trans earlier.id
  email := later.email.trans earlier.email
  passwordHash := later.passwordHash.trans earlier.passwordHash
  confirmed time same := later.confirmed time (earlier.confirmed time same)

theorem confirmUser_becomes (transaction : Transaction) (user : UserRow) :
    user.Becomes (confirmUser transaction user) where
  id := rfl
  email := rfl
  passwordHash := rfl
  confirmed time same := by simp [confirmUser, same]

theorem AuthSessionRow.Becomes.refl (session : AuthSessionRow) : session.Becomes session where
  token := rfl
  userId := rfl
  expiresAt := rfl
  revoked same := same

theorem AuthSessionRow.Becomes.trans {first second third : AuthSessionRow}
    (earlier : first.Becomes second) (later : second.Becomes third) : first.Becomes third where
  token := later.token.trans earlier.token
  userId := later.userId.trans earlier.userId
  expiresAt := later.expiresAt.trans earlier.expiresAt
  revoked same := later.revoked (earlier.revoked same)

theorem revoke_becomes (transaction : Transaction) (session : AuthSessionRow) :
    session.Becomes (revoke transaction session) where
  token := rfl
  userId := rfl
  expiresAt := rfl
  revoked _ := rfl

section Requests

variable {service : Service} {call : Call} {world after : World} {reply : Option Response}
  {method url : String} {status : Nat}

theorem Request.At.url_ne {request : Request} {otherMethod otherUrl : String}
    (first : request.At method url) (second : request.At otherMethod otherUrl)
    (different : bytes url ≠ bytes otherUrl) : False :=
  different (first.url.symm.trans second.url)

theorem ChangesFavorite.not_at {kind : PortalFavoriteKind} {user : UserRow} {key : Bytes}
    (change : ChangesFavorite service call world kind user key reply after)
    (request : call.request.At method url) (outside : ¬ bytes kind.path <+: bytes url) : False := by
  have same : bytes kind.path ++ (bytes "/" ++ key) = bytes url := by
    rw [← request.url, change.url, List.append_assoc]
  exact outside ⟨_, same⟩

theorem Request.OnContent.not_at {request : Request} {contentId : Bytes} {action : String}
    (content : request.OnContent contentId action) (given : request.At method url)
    (outside : ¬ bytes "/content/" <+: bytes url) : False := by
  have same : bytes "/content/" ++ (contentId ++ bytes action) = bytes url := by
    rw [← given.url, content.url, List.append_assoc]
  exact outside ⟨_, same⟩

theorem AnsweredAt.not_kept (answered : AnsweredAt call reply method url status)
    (kept : ∀ response, reply = some response → 400 ≤ response.status ∨ call.request.Reads)
    (success : status < 400) (get : bytes method ≠ bytes "GET")
    (options : bytes method ≠ bytes "OPTIONS") : False := by
  obtain ⟨request, given⟩ := answered
  cases reply with
  | none => cases given
  | some response =>
      have same : response.status = status := by simpa [statusOf] using given
      rcases kept response rfl with error | reads | reads
      · omega
      · exact get (request.method.symm.trans reads)
      · exact options (request.method.symm.trans reads)

end Requests

/-- The answers to the requests that work on accounts and sessions. -/
def accountAnswers : List (String × String × Nat) :=
  [("POST", "/auth/register", 201), ("POST", "/auth/confirm", 200), ("POST", "/auth/login", 200),
    ("DELETE", "/auth/session", 204)]

/-- A request that left accounts, confirmation tokens and sessions alone, and
was not answered as one that works on them. -/
structure Elsewhere (call : Call) (world : World) (reply : Option Response) (after : World) :
    Prop where
  users : after.database.users = world.database.users
  confirmationTokens : after.database.confirmationTokens = world.database.confirmationTokens
  authSessions : after.database.authSessions = world.database.authSessions
  answered : ∀ answer ∈ accountAnswers, ¬ AnsweredAt call reply answer.1 answer.2.1 answer.2.2

inductive AccountEffect (service : Service) (call : Call) (world : World) :
    Option Response → World → Prop where
  | registered {fields : RegisterFields} {transaction : Transaction} {reply : Option Response}
      {after : World} : Registered service call world fields transaction reply after →
      AccountEffect service call world reply after
  | confirmed {row : ConfirmationTokenRow} {user : UserRow} {transaction : Transaction}
      {reply : Option Response} {after : World} :
      Confirmed service call world row user transaction reply after →
      AccountEffect service call world reply after
  | loggedIn {fields : LoginFields} {user : UserRow} {transaction : Transaction}
      {reply : Option Response} {after : World} :
      LoggedIn service call world fields user transaction reply after →
      AccountEffect service call world reply after
  | loggedOut {token : Uuid} {session : AuthSessionRow} {user : UserRow}
      {transaction : Transaction} {reply : Option Response} {after : World} :
      LoggedOut service call world token session user transaction reply after →
      AccountEffect service call world reply after
  | elsewhere {reply : Option Response} {after : World} : Elsewhere call world reply after →
      AccountEffect service call world reply after

section Frames

variable {service : Service} {call : Call} {world after : World} {reply : Option Response}

private theorem ChangesFavorite.elsewhere {kind : PortalFavoriteKind} {user : UserRow} {key : Bytes}
    {rows : List FavoriteRow} (change : ChangesFavorite service call world kind user key reply after)
    (database : after.database = world.database.setFavorites kind rows) :
    Elsewhere call world reply after where
  users := by simp [database]
  confirmationTokens := by simp [database]
  authSessions := by simp [database]
  answered := by
    have outside : ∀ answer ∈ accountAnswers, ∀ kind : PortalFavoriteKind,
        ¬ bytes kind.path <+: bytes answer.2.1 := by
      intro answer member kind
      cases kind <;> revert answer <;> decide
    exact fun answer member given => change.not_at given.request (outside answer member kind)

private theorem ChangesLike.elsewhere {contentId : Bytes} {actor : Actor}
    (change : ChangesLike service call world contentId actor reply after)
    (users : after.database.users = world.database.users)
    (confirmationTokens : after.database.confirmationTokens = world.database.confirmationTokens)
    (authSessions : after.database.authSessions = world.database.authSessions) :
    Elsewhere call world reply after where
  users := users
  confirmationTokens := confirmationTokens
  authSessions := authSessions
  answered := by
    have outside : ∀ answer ∈ accountAnswers, ¬ bytes "/content/" <+: bytes answer.2.1 := by decide
    exact fun answer member given => change.content.not_at given.request (outside answer member)

/-- Accounts, confirmation tokens and sessions change by the four requests that
are about them only. -/
theorem Effect.accounts (effect : Effect service call world reply after) :
    AccountEffect service call world reply after := by
  cases effect with
  | registered registered => exact .registered registered
  | confirmed confirmed => exact .confirmed confirmed
  | loggedIn loggedIn => exact .loggedIn loggedIn
  | loggedOut loggedOut => exact .loggedOut loggedOut
  | kept kept silent =>
      refine .elsewhere ⟨by rw [kept.database], by rw [kept.database], by rw [kept.database], ?_⟩
      have success : ∀ answer ∈ accountAnswers, answer.2.2 < 400 ∧
          bytes answer.1 ≠ bytes "GET" ∧ bytes answer.1 ≠ bytes "OPTIONS" := by decide
      intro answer member given
      obtain ⟨low, get, options⟩ := success answer member
      exact given.not_kept silent low get options
  | favoriteAdded change _ _ database => exact .elsewhere (change.elsewhere database)
  | @favoritePresent kind _ _ _ _ change _ _ same =>
      have database : after.database = world.database.setFavorites kind
          (world.database.favorites kind) := by
        rw [same, world.database.setFavorites_favorites]
      exact .elsewhere (change.elsewhere database)
  | favoriteRemoved change _ database => exact .elsewhere (change.elsewhere database)
  | recorded recorded =>
      refine .elsewhere ⟨by rw [recorded.database], by rw [recorded.database],
        by rw [recorded.database], ?_⟩
      have outside : ∀ answer ∈ accountAnswers, bytes answer.2.1 ≠ bytes "/activity" := by decide
      exact fun answer member given =>
        given.request.url_ne recorded.request (outside answer member)
  | liked change _ _ _ _ database =>
      exact .elsewhere (change.elsewhere (by rw [database]) (by rw [database]) (by rw [database]))
  | likePresent change _ _ _ same =>
      exact .elsewhere (change.elsewhere (by rw [same]) (by rw [same]) (by rw [same]))
  | unliked change _ database =>
      exact .elsewhere (change.elsewhere (by rw [database]; rfl) (by rw [database]; rfl)
        (by rw [database]; rfl))
  | commented commented =>
      refine .elsewhere ⟨by rw [commented.database], by rw [commented.database],
        by rw [commented.database], ?_⟩
      have outside : ∀ answer ∈ accountAnswers, ¬ bytes "/content/" <+: bytes answer.2.1 := by decide
      exact fun answer member given => commented.content.not_at given.request (outside answer member)

end Frames

section Rows

variable {service : Service} {call : Call} {world after : World} {reply : Option Response}

theorem AccountEffect.users (effect : AccountEffect service call world reply after)
    {user : UserRow} (known : user ∈ world.database.users) :
    ∃ later ∈ after.database.users, user.Becomes later := by
  cases effect with
  | registered registered => exact ⟨user, by simp [registered.database, known], .refl user⟩
  | @confirmed row owner transaction _ _ confirmed =>
      refine ⟨if user.id = row.userId then confirmUser transaction user else user, ?_, ?_⟩
      · simpa [confirmed.database, Database.confirm, Table.update] using ⟨user, known, rfl⟩
      · split
        · exact confirmUser_becomes transaction user
        · exact .refl user
  | loggedIn loggedIn => exact ⟨user, by simp [loggedIn.database, known], .refl user⟩
  | loggedOut loggedOut =>
      exact ⟨user, by simp [loggedOut.database, Database.logout, known], .refl user⟩
  | elsewhere elsewhere => exact ⟨user, by simp [elsewhere.users, known], .refl user⟩

theorem AccountEffect.authSessions (effect : AccountEffect service call world reply after)
    {session : AuthSessionRow} (stored : session ∈ world.database.authSessions) :
    ∃ later ∈ after.database.authSessions, session.Becomes later := by
  cases effect with
  | registered registered => exact ⟨session, by simp [registered.database, stored], .refl session⟩
  | confirmed confirmed =>
      exact ⟨session, by simp [confirmed.database, Database.confirm, stored], .refl session⟩
  | loggedIn loggedIn => exact ⟨session, by simp [loggedIn.database, stored], .refl session⟩
  | @loggedOut token _ _ transaction _ _ loggedOut =>
      refine ⟨if revocable token session then revoke transaction session else session, ?_, ?_⟩
      · simpa [loggedOut.database, Database.logout, Table.update] using ⟨session, stored, rfl⟩
      · split
        · exact revoke_becomes transaction session
        · exact .refl session
  | elsewhere elsewhere => exact ⟨session, by simp [elsewhere.authSessions, stored], .refl session⟩

theorem AccountEffect.emails {holds : Bytes → Prop}
    (registers : ∀ json fields, registerFields json = some fields → holds fields.email)
    (effect : AccountEffect service call world reply after)
    (before : ∀ user ∈ world.database.users, holds user.email) :
    ∀ user ∈ after.database.users, holds user.email := by
  cases effect with
  | registered registered =>
      rw [registered.database]
      exact forall_mem_append_singleton before (registers _ _ registered.read)
  | confirmed confirmed =>
      rw [confirmed.database]
      intro user member
      cases Table.mem_update.mp member with
      | inl kept => exact before user kept.1
      | inr changed =>
          obtain ⟨old, stored, _, rfl⟩ := changed
          exact before old stored
  | loggedIn loggedIn =>
      rw [loggedIn.database]
      exact before
  | loggedOut loggedOut =>
      rw [loggedOut.database]
      exact before
  | elsewhere elsewhere =>
      rw [elsewhere.users]
      exact before

end Rows

namespace Service

variable {service : Service} {admits : Environment → Prop} {entries : List Entry}
  {world : World}

theorem Run.accountEffect (lawful : service.postgres.Lawful)
    (run : service.Run admits entries world) (call : Call) :
    AccountEffect service call world (service.serve call world).1 (service.serve call world).2 :=
  (service.serve_effect call lawful (Run.valid run)).accounts

theorem Run.emails (lawful : service.postgres.Lawful) (run : service.Run admits entries world)
    (holds : Bytes → Prop)
    (registers : ∀ json fields, registerFields json = some fields → holds fields.email) :
    ∀ user ∈ world.database.users, holds user.email := by
  induction run with
  | start initial => simp [initial.1, Database.empty]
  | next call reached _ ih => exact (Run.accountEffect lawful reached call).emails registers ih

/-- A session is kept, with whatever revokes it, by all that follows. -/
theorem Run.session_since (lawful : service.postgres.Lawful) {earlier later : List Entry}
    {entry : Entry} (run : service.Run admits (earlier ++ entry :: later) world)
    {session : AuthSessionRow} (stored : session ∈ entry.after.database.authSessions) :
    ∃ now ∈ world.database.authSessions, session.Becomes now := by
  refine run.since (fun _ state => ∃ now ∈ state.database.authSessions, session.Becomes now)
    ⟨session, stored, .refl session⟩ ?_
  intro middle call state reached _ ⟨now, member, becomes⟩
  obtain ⟨next, found, also⟩ := (Run.accountEffect lawful reached call).authSessions member
  exact ⟨next, found, becomes.trans also⟩

/-- An account is kept, with whatever confirms it, by all that follows. -/
theorem Run.user_since (lawful : service.postgres.Lawful) {earlier later : List Entry}
    {entry : Entry} (run : service.Run admits (earlier ++ entry :: later) world) {user : UserRow}
    (known : user ∈ entry.after.database.users) :
    ∃ now ∈ world.database.users, user.Becomes now := by
  refine run.since (fun _ state => ∃ now ∈ state.database.users, user.Becomes now)
    ⟨user, known, .refl user⟩ ?_
  intro middle call state reached _ ⟨now, member, becomes⟩
  obtain ⟨next, found, also⟩ := (Run.accountEffect lawful reached call).users member
  exact ⟨next, found, becomes.trans also⟩

/-- Later requests may confirm an account, and change nothing else of it. -/
theorem Run.play_users (lawful : service.postgres.Lawful)
    (run : service.Run admits entries world) {calls : List Call}
    (admitted : ∀ call ∈ calls, admits call.environment) {user : UserRow}
    (known : user ∈ world.database.users) :
    ∃ later ∈ ((service.machine admits).play world calls).2.database.users,
      user.Becomes later := by
  induction calls generalizing entries world user with
  | nil => exact ⟨user, known, .refl user⟩
  | cons call rest ih =>
      have allowed : admits call.environment := admitted call List.mem_cons_self
      obtain ⟨now, present, becomes⟩ := (Run.accountEffect lawful run call).users known
      obtain ⟨later, found, becomesLater⟩ := ih (run.next call allowed)
        (fun other member => admitted other (List.mem_cons_of_mem _ member)) present
      exact ⟨later, found, becomes.trans becomesLater⟩

theorem Run.registered (lawful : service.postgres.Lawful)
    (run : service.Run admits entries world) {user : UserRow} (known : user ∈ world.database.users) :
    ∃ earlier entry later fields transaction, entries = earlier ++ entry :: later ∧
      Registered service entry.input entry.before fields transaction entry.output entry.after ∧
      (fields.user service.postgres transaction).id = user.id := by
  have absent : ∀ state, (service.machine admits).initial state →
      ¬ ∃ other ∈ state.database.users, other.id = user.id := by
    intro state initial present
    simp [initial.1, Database.empty] at present
  obtain ⟨earlier, entry, later, rfl, missing, account, present, same⟩ :=
    run.origin (fun state => ∃ other ∈ state.database.users, other.id = user.id) absent
      ⟨user, known, rfl⟩
  cases (Run.effect lawful run).accounts with
  | registered registered =>
      rw [registered.database] at present
      rcases List.mem_append.mp present with old | new
      · exact absurd ⟨account, old, same⟩ missing
      · obtain rfl := List.mem_singleton.mp new
        exact ⟨earlier, entry, later, _, _, rfl, registered, same⟩
  | confirmed confirmed =>
      rw [confirmed.database] at present
      obtain ⟨old, member, rfl⟩ := List.mem_map.mp present
      refine absurd ⟨old, member, ?_⟩ missing
      split at same <;> exact same
  | loggedIn loggedIn =>
      rw [loggedIn.database] at present
      exact absurd ⟨account, present, same⟩ missing
  | loggedOut loggedOut =>
      rw [loggedOut.database] at present
      exact absurd ⟨account, present, same⟩ missing
  | elsewhere elsewhere =>
      rw [elsewhere.users] at present
      exact absurd ⟨account, present, same⟩ missing

theorem Run.opened (lawful : service.postgres.Lawful) (run : service.Run admits entries world)
    {session : AuthSessionRow} (stored : session ∈ world.database.authSessions) :
    ∃ earlier entry later fields user transaction, entries = earlier ++ entry :: later ∧
      LoggedIn service entry.input entry.before fields user transaction entry.output entry.after ∧
      (service.config.session transaction user).Becomes session := by
  have absent : ∀ state, (service.machine admits).initial state →
      ¬ ∃ other ∈ state.database.authSessions, other.token = session.token := by
    intro state initial present
    simp [initial.1, Database.empty] at present
  obtain ⟨earlier, entry, later, rfl, missing, opened, present, same⟩ :=
    run.origin (fun state => ∃ other ∈ state.database.authSessions, other.token = session.token)
      absent ⟨session, stored, rfl⟩
  have becomes : opened.Becomes session := by
    obtain ⟨now, member, becomes⟩ := Run.session_since lawful run present
    obtain rfl := Table.eq_of_key (Run.valid run).sessionKeys member stored
      (becomes.token.trans same)
    exact becomes
  cases (Run.effect lawful run).accounts with
  | loggedIn loggedIn =>
      rw [loggedIn.database] at present
      rcases List.mem_append.mp present with old | new
      · exact absurd ⟨opened, old, same⟩ missing
      · obtain rfl := List.mem_singleton.mp new
        exact ⟨earlier, entry, later, _, _, _, rfl, loggedIn, becomes⟩
  | loggedOut loggedOut =>
      rw [loggedOut.database] at present
      obtain ⟨old, member, rfl⟩ := List.mem_map.mp present
      refine absurd ⟨old, member, ?_⟩ missing
      split at same <;> exact same
  | registered registered =>
      rw [registered.database] at present
      exact absurd ⟨opened, present, same⟩ missing
  | confirmed confirmed =>
      rw [confirmed.database] at present
      exact absurd ⟨opened, present, same⟩ missing
  | elsewhere elsewhere =>
      rw [elsewhere.authSessions] at present
      exact absurd ⟨opened, present, same⟩ missing

end Service

end PortalApi
