import PortalApi.Accounts

/-! The life of a confirmation token: issued by a registration, used once before
it expires, and the account stays confirmed from then on. -/

set_option autoImplicit false

namespace PortalApi

open Library

/-- A confirmation request whose text denotes this token, in whatever spelling. -/
structure Presents (service : Service) (call : Call) (token : Uuid) : Prop where
  request : call.request.At "POST" "/auth/confirm"
  read : (confirmText (service.body call)).bind service.postgres.castText = some token

/-- A presentation of the token that was answered with success. -/
structure Confirms (service : Service) (entry : Service.Entry) (token : Uuid) : Prop where
  presents : Presents service entry.input token
  success : statusOf entry.output = some 200

/-- The registration that created an account and its confirmation token. -/
structure Registers (entry : Service.Entry) (user : UserRow) (token : ConfirmationTokenRow) :
    Prop where
  answered : AnsweredAt entry.input entry.output "POST" "/auth/register" 201
  owner : token.userId = user.id
  users : entry.after.database.users = entry.before.database.users ++ [user]
  confirmationTokens : entry.after.database.confirmationTokens =
    entry.before.database.confirmationTokens ++ [token]

/-- The login that opened a session, and the account it met. -/
structure Opens (entry : Service.Entry) (user : UserRow) (session : AuthSessionRow) : Prop where
  answered : AnsweredAt entry.input entry.output "POST" "/auth/login" 200
  user_mem : user ∈ entry.before.database.users
  owner : session.userId = user.id
  confirmed : user.confirmedAt.isSome = true
  authSessions : entry.after.database.authSessions = entry.before.database.authSessions ++ [session]

section Step

variable (service : Service) (call : Call) (world : World)

/-- What one request can do to accounts and confirmation tokens. -/
inductive ConfirmationEffect : Option Response → World → Prop where
  | registered {fields : RegisterFields} {transaction : Transaction} {reply : Option Response}
      {after : World} : Registered service call world fields transaction reply after →
      ConfirmationEffect reply after
  | confirmed {row : ConfirmationTokenRow} {user : UserRow} {transaction : Transaction}
      {reply : Option Response} {after : World} :
      Confirmed service call world row user transaction reply after →
      ConfirmationEffect reply after
  | unchanged {reply : Option Response} {after : World} :
      after.database.users = world.database.users →
      after.database.confirmationTokens = world.database.confirmationTokens →
      ¬ AnsweredAt call reply "POST" "/auth/register" 201 →
      ¬ AnsweredAt call reply "POST" "/auth/confirm" 200 →
      (∀ token, Presents service call token → ∀ row ∈ world.database.confirmationTokens,
        row.token = token → after.clock < row.expiresAt → row.consumedAt.isSome = true) →
      ConfirmationEffect reply after

variable {service call world}

/-- A confirmation request that a smooth service does not accept presents no
pending token. -/
theorem Presents.pending {token : Uuid} (presents : Presents service call token)
    (lawful : service.postgres.Lawful) (valid : world.database.Valid service.postgres.lower)
    (smooth : world.Smooth call.environment)
    (refused : statusOf (service.serve call world).1 ≠ some 200)
    {row : ConfirmationTokenRow} (stored : row ∈ world.database.confirmationTokens)
    (same : row.token = token) (unexpired : (service.serve call world).2.clock < row.expiresAt) :
    row.consumedAt.isSome = true := by
  obtain ⟨text, sent, cast⟩ := Option.bind_eq_some_iff.mp presents.read
  have parsed : ∃ json, service.body call = some json := by
    cases body : service.body call with
    | some json => exact ⟨json, rfl⟩
    | none => simp [confirmText, body] at sent
  obtain ⟨json, body⟩ := parsed
  have ends := service.serve_post lawful valid presents.request
    (show (_, Endpoint.confirm) ∈ postEndpoints by simp [postEndpoints]) body
  generalize (service.serve call world).1 = reply at ends refused
  generalize (service.serve call world).2 = after at ends unexpired
  cases ends with
  | invalid none _ => simp [sent] at none
  | confirmed _ _ _ _ _ _ _ _ _ _ _ _ answered =>
      have given := answered.certain smooth.healthy
      exact absurd (by simp [given, statusOf, confirmedResponse]) refused
  | rejected read _ pending _ =>
      obtain rfl := Option.some.inj (sent.symm.trans read)
      have unusable := (pending smooth).2 row stored token cast
      cases used : row.consumedAt with
      | some time => rfl
      | none => simp [consumable, same, used, unexpired] at unusable

theorem Service.serve_confirmation (lawful : service.postgres.Lawful)
    (valid : world.database.Valid service.postgres.lower)
    (smooth : world.Smooth call.environment) :
    ConfirmationEffect service call world (service.serve call world).1
      (service.serve call world).2 := by
  have effect := (service.serve_effect call lawful valid).accounts
  have pending : statusOf (service.serve call world).1 ≠ some 200 → ∀ token,
      Presents service call token → ∀ row ∈ world.database.confirmationTokens, row.token = token →
      (service.serve call world).2.clock < row.expiresAt → row.consumedAt.isSome = true :=
    fun refused token presents row stored same unexpired =>
      presents.pending lawful valid smooth refused stored same unexpired
  generalize (service.serve call world).1 = reply at effect pending
  generalize (service.serve call world).2 = after at effect pending
  cases effect with
  | registered registered => exact .registered registered
  | confirmed confirmed => exact .confirmed confirmed
  | loggedIn loggedIn =>
      refine .unchanged (by rw [loggedIn.database]) (by rw [loggedIn.database]) ?_ ?_ ?_
      · exact fun answered => answered.request.url_ne loggedIn.request (by decide)
      · exact fun answered => answered.request.url_ne loggedIn.request (by decide)
      · exact fun token presents => (presents.request.url_ne loggedIn.request (by decide)).elim
  | loggedOut loggedOut =>
      refine .unchanged (by rw [loggedOut.database]; rfl) (by rw [loggedOut.database]; rfl) ?_ ?_ ?_
      · exact fun answered => answered.request.url_ne loggedOut.request (by decide)
      · exact fun answered => answered.request.url_ne loggedOut.request (by decide)
      · exact fun token presents => (presents.request.url_ne loggedOut.request (by decide)).elim
  | elsewhere elsewhere =>
      have unconfirmed : ¬ AnsweredAt call reply "POST" "/auth/confirm" 200 :=
        elsewhere.answered ("POST", "/auth/confirm", 200) (by simp [accountAnswers])
      refine .unchanged elsewhere.users elsewhere.confirmationTokens ?_ unconfirmed ?_
      · exact elsewhere.answered ("POST", "/auth/register", 201) (by simp [accountAnswers])
      · exact fun token presents => pending (fun given => unconfirmed ⟨presents.request, given⟩) token presents

end Step

section Tables

variable {lower : Bytes → Bytes} {database : Database} {transaction : Transaction}
  {row : ConfirmationTokenRow}

theorem Database.confirm_user {user : UserRow} (known : user ∈ database.users) :
    (if user.id = row.userId then confirmUser transaction user else user) ∈
      (database.confirm transaction row).users := by
  simpa [Database.confirm, Table.update] using ⟨user, known, rfl⟩

theorem Database.confirm_token {token : ConfirmationTokenRow}
    (stored : token ∈ database.confirmationTokens) :
    (if token.token = row.token then consume transaction token else token) ∈
      (database.confirm transaction row).confirmationTokens := by
  simpa [Database.confirm, Table.update] using ⟨token, stored, rfl⟩

theorem Database.confirm_tokens {token : ConfirmationTokenRow}
    (stored : token ∈ (database.confirm transaction row).confirmationTokens) :
    ∃ old ∈ database.confirmationTokens,
      token = if old.token = row.token then consume transaction old else old := by
  obtain ⟨old, member, same⟩ := List.mem_map.mp stored
  exact ⟨old, member, by simpa using same.symm⟩

end Tables

/-- What has become of an account and its token since their registration. -/
structure Issued (service : Service) (registration : Service.Entry) (account : UserRow)
    (issued : ConfirmationTokenRow) (later : List Service.Entry) (database : Database)
    (user : UserRow) (row : ConfirmationTokenRow) : Prop where
  user_mem : user ∈ database.users
  row_mem : row ∈ database.confirmationTokens
  identity : user.id = account.id
  token : row.token = issued.token
  owner : row.userId = account.id
  expires : row.expiresAt = registration.after.clock + service.config.confirmationLifetime
  only : ∀ other ∈ database.confirmationTokens, other.userId = account.id → other = row
  together : user.confirmedAt.isSome = row.consumedAt.isSome
  used : row.consumedAt.isSome = true ↔ ∃ entry ∈ later,
    Presents service entry.input issued.token ∧ entry.after.clock < row.expiresAt

section History

variable {service : Service} {registration entry : Service.Entry} {account user : UserRow}
  {issued row : ConfirmationTokenRow} {later : List Service.Entry}

theorem Issued.step
    (valid : entry.before.database.Valid service.postgres.lower)
    (effect : ConfirmationEffect service entry.input entry.before entry.output entry.after)
    (holds : Issued service registration account issued later entry.before.database user row) :
    ∃ user row, Issued service registration account issued (later ++ [entry])
      entry.after.database user row := by
  have extended : (∃ earlier ∈ later ++ [entry], Presents service earlier.input issued.token ∧
      earlier.after.clock < row.expiresAt) ↔ row.consumedAt.isSome = true ∨
        (Presents service entry.input issued.token ∧ entry.after.clock < row.expiresAt) := by
    rw [holds.used]
    simp [or_and_right, exists_or]
  cases effect with
  | registered registered =>
      have elsewhere : ¬ Presents service entry.input issued.token :=
        fun presents => presents.request.url_ne registered.request (by decide)
      refine ⟨user, row, { holds with
        user_mem := by simp [registered.database, holds.user_mem]
        row_mem := by simp [registered.database, holds.row_mem]
        only := ?_
        used := ?_ }⟩
      · intro other member belongs
        rw [registered.database] at member
        rcases List.mem_append.mp member with old | new
        · exact holds.only other old belongs
        · have fresh := (registered.freshUser user holds.user_mem).1
          obtain rfl := List.mem_singleton.mp new
          exact absurd (holds.identity.trans belongs.symm) fresh
      · rw [extended]
        simp [elsewhere]
  | @confirmed consumed owns transaction _ _ confirmed =>
      have tokens : (if row.token = consumed.token then consume transaction row else row) ∈
          entry.after.database.confirmationTokens :=
        confirmed.database ▸ Database.confirm_token holds.row_mem
      have users : (if user.id = consumed.userId then confirmUser transaction user else user) ∈
          entry.after.database.users :=
        confirmed.database ▸ Database.confirm_user holds.user_mem
      have only : ∀ other ∈ entry.after.database.confirmationTokens, other.userId = account.id →
          other = if row.token = consumed.token then consume transaction row else row := by
        intro other member belongs
        rw [confirmed.database] at member
        obtain ⟨old, stored, rfl⟩ := Database.confirm_tokens member
        have same : old = row := by
          apply holds.only old stored
          split at belongs
          · exact belongs
          · exact belongs
        rw [same]
      by_cases chosen : row.token = consumed.token
      · -- The token of this registration is the one that is used now.
        obtain rfl : row = consumed :=
          Table.eq_of_key valid.tokenKeys holds.row_mem confirmed.row_mem chosen
        have owned : user.id = row.userId := holds.identity.trans holds.owner.symm
        rw [if_pos rfl] at tokens only
        rw [if_pos owned] at users
        refine ⟨_, _, { holds with
          user_mem := users
          row_mem := tokens
          only
          together := rfl
          used := ?_ }⟩
        have presents : Presents service entry.input issued.token :=
          ⟨confirmed.request, holds.token ▸ confirmed.presented⟩
        have now := extended.mpr (.inr ⟨presents, confirmed.unexpired⟩)
        exact ⟨fun _ => now, fun _ => rfl⟩
      · have foreign : user.id ≠ consumed.userId := by
          intro owned
          have same := holds.only consumed confirmed.row_mem (owned.symm.trans holds.identity)
          exact chosen (same ▸ rfl)
        rw [if_neg chosen] at tokens only
        rw [if_neg foreign] at users
        refine ⟨user, row, { holds with
          user_mem := users
          row_mem := tokens
          only
          used := ?_ }⟩
        have elsewhere : ¬ Presents service entry.input issued.token := by
          intro presents
          have same := Option.some.inj (presents.read.symm.trans confirmed.presented)
          exact chosen (holds.token.trans same)
        rw [extended]
        simp [elsewhere]
  | unchanged users tokens _ _ pending =>
      refine ⟨user, row, { holds with
        user_mem := users ▸ holds.user_mem
        row_mem := tokens ▸ holds.row_mem
        only := fun other member => holds.only other (tokens ▸ member)
        used := ?_ }⟩
      rw [extended]
      constructor
      · exact .inl
      · intro held
        rcases held with consumed | ⟨presents, unexpired⟩
        · exact consumed
        · exact pending _ presents row holds.row_mem holds.token unexpired

theorem Registered.registers (healthy : entry.input.environment.Healthy) {fields : RegisterFields}
    {transaction : Transaction} (registered : Registered service entry.input entry.before fields
      transaction entry.output entry.after) :
    Registers entry (fields.user service.postgres transaction)
      (service.config.confirmationToken transaction) where
  answered := ⟨registered.request, by
    simp [statusOf, registered.answered.certain healthy, registerResponse, jsonResponse]⟩
  owner := rfl
  users := by rw [registered.database]
  confirmationTokens := by rw [registered.database]

theorem LoggedIn.opens (healthy : entry.input.environment.Healthy) {fields : LoginFields}
    {user : UserRow} {transaction : Transaction} (loggedIn : LoggedIn service entry.input
      entry.before fields user transaction entry.output entry.after) :
    Opens entry user (service.config.session transaction user) where
  answered := ⟨loggedIn.request, by
    simp [statusOf, loggedIn.answered.certain healthy, loginResponse, jsonResponse]⟩
  user_mem := loggedIn.user_mem
  owner := rfl
  confirmed := by
    have accepted := loggedIn.accepted
    simp only [candidate, Bool.and_eq_true, decide_eq_true_eq] at accepted
    exact accepted.1.2
  authSessions := by rw [loggedIn.database]

/-- The rows a registration added are the ones its fields and draws make. -/
theorem Registers.registered (registers : Registers entry account issued)
    (effect : ConfirmationEffect service entry.input entry.before entry.output entry.after) :
    ∃ fields transaction, Registered service entry.input entry.before fields transaction
      entry.output entry.after ∧ account = fields.user service.postgres transaction ∧
      issued = service.config.confirmationToken transaction := by
  cases effect with
  | confirmed confirmed => exact (registers.answered.request.url_ne confirmed.request (by decide)).elim
  | unchanged _ _ unanswered _ _ => exact absurd registers.answered unanswered
  | @registered fields transaction _ _ registered =>
      have users := registers.users.symm.trans (congrArg Database.users registered.database)
      have tokens := registers.confirmationTokens.symm.trans
        (congrArg Database.confirmationTokens registered.database)
      exact ⟨fields, transaction, registered, by simpa using List.append_cancel_left users,
        by simpa using List.append_cancel_left tokens⟩

theorem Registers.begins (valid : entry.before.database.Valid service.postgres.lower)
    (effect : ConfirmationEffect service entry.input entry.before entry.output entry.after)
    (registers : Registers entry account issued) :
    Issued service entry account issued [] entry.after.database account issued := by
  obtain ⟨fields, transaction, registered, rfl, rfl⟩ := registers.registered effect
  exact {
    user_mem := by simp [registers.users]
    row_mem := by simp [registers.confirmationTokens]
    identity := rfl
    token := rfl
    owner := registers.owner
    expires := by rw [← registered.now]; rfl
    only := by
      intro other member belongs
      rw [registers.confirmationTokens] at member
      rcases List.mem_append.mp member with old | new
      · obtain ⟨user, known, owner⟩ := valid.tokenOwners other old
        exact absurd (owner.trans belongs) (registered.freshUser user known).1
      · exact List.mem_singleton.mp new
    together := rfl
    used := by
      constructor
      · intro consumed
        cases consumed
      · rintro ⟨_, none, _⟩
        cases none }

theorem ConfirmationEffect.used {call : Call} {world after : World} {reply : Option Response}
    (effect : ConfirmationEffect service call world reply after) {token : Uuid}
    (used : ∃ row ∈ world.database.confirmationTokens,
      row.token = token ∧ row.consumedAt.isSome = true) :
    ∃ row ∈ after.database.confirmationTokens,
      row.token = token ∧ row.consumedAt.isSome = true := by
  obtain ⟨row, stored, same, consumed⟩ := used
  cases effect with
  | registered registered => exact ⟨row, by simp [registered.database, stored], same, consumed⟩
  | unchanged _ tokens _ _ _ => exact ⟨row, tokens ▸ stored, same, consumed⟩
  | @confirmed chosen _ transaction _ _ confirmed =>
      refine ⟨_, confirmed.database ▸ Database.confirm_token stored, ?_⟩
      split
      · exact ⟨same, rfl⟩
      · exact ⟨same, consumed⟩

end History

namespace Service

variable {service : Service} {entries earlier later : List Entry} {entry : Entry} {world : World}

theorem Run.serve_confirmation (lawful : service.postgres.Lawful)
    (run : service.Run Environment.Healthy entries world) {call : Call}
    (healthy : call.environment.Healthy) :
    ConfirmationEffect service call world (service.serve call world).1
      (service.serve call world).2 :=
  Service.serve_confirmation lawful (Run.valid run) ⟨healthy, Run.connection run⟩

theorem Run.confirmationEffect (lawful : service.postgres.Lawful)
    (run : service.Run Environment.Healthy (earlier ++ entry :: later) world) :
    ConfirmationEffect service entry.input entry.before entry.output entry.after := by
  obtain ⟨reached, healthy, output, after⟩ := Run.reached run
  rw [output, after]
  exact Run.serve_confirmation lawful reached healthy

/-- At the end of a run every registration has become an account and a token
that are confirmed and used together. -/
theorem Run.issued (lawful : service.postgres.Lawful)
    (run : service.Run Environment.Healthy (earlier ++ entry :: later) world) {account : UserRow}
    {issued : ConfirmationTokenRow} (registers : Registers entry account issued) :
    ∃ user row, Issued service entry account issued later world.database user row := by
  have begins := registers.begins (Run.valid (Run.reached run).1) (Run.confirmationEffect lawful run)
  refine run.since (fun middle state =>
    ∃ user row, Issued service entry account issued middle state.database user row)
    ⟨_, _, begins⟩ ?_
  intro middle call state reached healthy ⟨user, row, holds⟩
  exact Issued.step (Run.valid reached) (Run.serve_confirmation lawful reached healthy) holds

theorem Run.used (lawful : service.postgres.Lawful)
    (run : service.Run Environment.Healthy (earlier ++ entry :: later) world) {token : Uuid}
    (confirms : Confirms service entry token) :
    ∃ row ∈ world.database.confirmationTokens,
      row.token = token ∧ row.consumedAt.isSome = true := by
  refine run.since (fun _ state => ∃ row ∈ state.database.confirmationTokens,
    row.token = token ∧ row.consumedAt.isSome = true) ?_ ?_
  · cases Run.confirmationEffect lawful run with
    | registered registered =>
        exact (confirms.presents.request.url_ne registered.request (by decide)).elim
    | unchanged _ _ _ unanswered _ =>
        exact absurd ⟨confirms.presents.request, confirms.success⟩ unanswered
    | @confirmed chosen _ transaction _ _ confirmed =>
        have same : chosen.token = token :=
          Option.some.inj (confirmed.presented.symm.trans confirms.presents.read)
        have stored : (if chosen.token = chosen.token then consume transaction chosen else chosen) ∈
            entry.after.database.confirmationTokens :=
          confirmed.database ▸ Database.confirm_token confirmed.row_mem
        rw [if_pos rfl] at stored
        exact ⟨_, stored, same, rfl⟩
  · intro middle call state reached healthy used
    exact (Run.serve_confirmation lawful reached healthy).used used

theorem Run.confirms_once (lawful : service.postgres.Lawful)
    (run : service.Run Environment.Healthy entries world) :
    entries.Pairwise fun first second =>
      ∀ token, Confirms service first token → ¬ Confirms service second token := by
  induction run with
  | start _ => exact .nil
  | @next events state call reached healthy ih =>
      refine List.pairwise_append.mpr ⟨ih, List.pairwise_singleton _ _, ?_⟩
      intro first member second last token before again
      obtain rfl := List.mem_singleton.mp last
      obtain ⟨earlier, later, rfl⟩ := List.append_of_mem member
      obtain ⟨row, stored, same, consumed⟩ := Run.used lawful reached before
      have next := reached.next call healthy
      cases Run.confirmationEffect lawful next with
      | registered registered =>
          exact again.presents.request.url_ne registered.request (by decide)
      | unchanged _ _ _ unanswered _ => exact unanswered ⟨again.presents.request, again.success⟩
      | @confirmed chosen _ transaction _ _ confirmed =>
          have also : chosen.token = token :=
            Option.some.inj (confirmed.presented.symm.trans again.presents.read)
          obtain rfl := Table.eq_of_key (Run.valid reached).tokenKeys stored confirmed.row_mem
            (same.trans also.symm)
          simp [confirmed.unconsumed] at consumed

end Service

/-- The life of accounts and confirmation tokens over a run. -/
structure ConfirmationLifecycle (service : Service) (entries : List Service.Entry) (world : World) :
    Prop where
  once : entries.Pairwise fun first second =>
    ∀ token, Confirms service first token → ¬ Confirms service second token
  registered : ∀ user ∈ world.database.users, ∃ earlier registration later account issued,
    entries = earlier ++ registration :: later ∧ Registers registration account issued ∧
      account.id = user.id
  confirmed : ∀ earlier registration later account issued,
    entries = earlier ++ registration :: later → Registers registration account issued →
    ∀ user ∈ world.database.users, user.id = account.id →
      (∀ row ∈ world.database.confirmationTokens,
        row.userId = user.id ↔ row.token = issued.token) ∧
      (user.confirmedAt.isSome = true ↔ ∃ entry ∈ later,
        Presents service entry.input issued.token ∧
          entry.after.clock < registration.after.clock + service.config.confirmationLifetime)
  kept : ∀ calls : List Call, (∀ call ∈ calls, call.environment.Healthy) →
    ∀ user ∈ world.database.users, ∀ time, user.confirmedAt = some time →
      ∃ later ∈ ((service.machine Environment.Healthy).play world calls).2.database.users,
        later.id = user.id ∧ later.confirmedAt = some time
  opened : ∀ session ∈ world.database.authSessions, ∃ entry ∈ entries, ∃ user opened,
    Opens entry user opened ∧ opened.token = session.token ∧ opened.userId = session.userId
  authenticated : ∀ call found, service.authenticate call world = (.authenticated, found) →
    ∃ user ∈ world.database.users,
      user.confirmedAt.isSome = true ∧ found = authenticatedUser service.postgres user
  consumed : ∀ row ∈ world.database.confirmationTokens, row.consumedAt.isSome = true →
    ∃ user ∈ world.database.users, user.id = row.userId ∧ user.confirmedAt.isSome = true

theorem Service.authenticate_confirmed {service : Service} {call : Call} {world : World}
    {found : PortalAuthenticatedUser} (lawful : service.postgres.Lawful)
    (valid : world.database.Valid service.postgres.lower)
    (entered : service.authenticate call world = (.authenticated, found)) :
    ∃ user ∈ world.database.users,
      user.confirmedAt.isSome = true ∧ found = authenticatedUser service.postgres user := by
  have valid : world.exchange.world.database.Valid service.postgres.lower := valid
  obtain ⟨result, after, ran, _, ends⟩ :=
    portalHttpAuthenticate_ends call.environment call.request lawful valid rfl
  have same : result = (.authenticated, found) := by
    rw [← entered, Service.authenticate, ran]
  rcases ends.required with ⟨refused, _⟩ | ⟨_, _, _, user, authenticated, admitted⟩
  · exact absurd (congrArg Prod.fst same) refused
  · exact ⟨user, admitted.live.user_mem, admitted.live.confirmed,
      congrArg Prod.snd (same.symm.trans authenticated)⟩

/-- In every run over a service that fails nothing, in whatever order requests come. -/
theorem confirmation_lifecycle {service : Service} (lawful : service.postgres.Lawful)
    {entries : List Service.Entry} {world : World}
    (run : service.Run Environment.Healthy entries world) :
    ConfirmationLifecycle service entries world where
  once := Service.Run.confirms_once lawful run
  registered := by
    intro user known
    obtain ⟨earlier, entry, later, fields, transaction, rfl, registered, same⟩ :=
      Service.Run.registered lawful run known
    have healthy := (Service.Run.reached run).2.1
    exact ⟨earlier, entry, later, _, _, rfl, registered.registers healthy, same⟩
  confirmed := by
    rintro earlier registration later account issued rfl registers user known same
    obtain ⟨current, row, holds⟩ := Service.Run.issued lawful run registers
    obtain rfl := Table.eq_of_key (Service.Run.valid run).userIds known holds.user_mem
      (same.trans holds.identity.symm)
    constructor
    · intro other stored
      constructor
      · intro belongs
        rw [holds.only other stored (belongs.trans same), holds.token]
      · intro named
        obtain rfl := Table.eq_of_key (Service.Run.valid run).tokenKeys stored holds.row_mem
          (named.trans holds.token.symm)
        exact holds.owner.trans same.symm
    · rw [holds.together, holds.used, holds.expires]
  kept := by
    intro calls healthy user known time confirmed
    obtain ⟨later, found, becomes⟩ := Service.Run.play_users lawful run healthy known
    exact ⟨later, found, becomes.id, becomes.confirmed time confirmed⟩
  opened := by
    intro session stored
    obtain ⟨earlier, entry, later, fields, user, transaction, rfl, loggedIn, becomes⟩ :=
      Service.Run.opened lawful run stored
    have healthy := (Service.Run.reached run).2.1
    exact ⟨entry, by simp, user, _, loggedIn.opens healthy, becomes.token.symm,
      becomes.userId.symm⟩
  authenticated call found entered :=
    Service.authenticate_confirmed lawful (Service.Run.valid run) entered
  consumed := by
    intro row stored consumed
    obtain ⟨user, known, owner⟩ := (Service.Run.valid run).tokenOwners row stored
    obtain ⟨earlier, entry, later, fields, transaction, rfl, registered, same⟩ :=
      Service.Run.registered lawful run known
    have healthy := (Service.Run.reached run).2.1
    obtain ⟨current, issued, holds⟩ :=
      Service.Run.issued lawful run (registered.registers healthy)
    obtain rfl := holds.only row stored (owner.symm.trans same.symm)
    exact ⟨current, holds.user_mem, holds.identity.trans (same.trans owner),
      holds.together.trans consumed⟩

namespace Reference

def signing : Service := service (bodies [account, confirmation 1, credentials])

/-- After the confirmation the token is presented again, and then Ana signs in. -/
def signedIn : List Call :=
  confirmed ++ [post "/auth/confirm" (confirmation 1) 3 0, post "/auth/login" credentials 10 0]

theorem signedIn_healthy : ∀ call ∈ signedIn, call.environment.Healthy := by
  simp [signedIn, confirmed, post, environment_healthy]

end Reference

theorem confirmation_lifecycle_signedIn :
    ConfirmationLifecycle Reference.signing (Reference.history Reference.signing Reference.signedIn)
        (Reference.after Reference.signing Reference.signedIn) ∧
      (Reference.after Reference.signing Reference.signedIn).database.users.map
        (·.confirmedAt) = [some hour] ∧
      (Reference.history Reference.signing Reference.signedIn).map
        (fun entry => statusOf entry.output) = [some 201, some 200, some 400, some 200] :=
  ⟨confirmation_lifecycle Reference.lawful (Reference.run _ Reference.signedIn_healthy),
    by decide +kernel, by decide +kernel⟩

end PortalApi
