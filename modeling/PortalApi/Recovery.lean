import PortalApi.Passwords

/-! Whether an account can still be brought to use: until its token expires, and
for good once it is confirmed. -/

set_option autoImplicit false

namespace PortalApi

open Library

/-- `crypt` of a password with the hash made of it gives that hash again. -/
def Postgres.AcceptsOwn (postgres : Postgres) : Prop :=
  ∀ (password : Bytes) (salt : BfSalt),
    postgres.crypt password (postgres.crypt password salt.text) = postgres.crypt password salt.text

/-- Nothing fails, no time passes and what is drawn is not in use. -/
structure Environment.Calm (environment : Environment) (database : Database) : Prop where
  healthy : environment.Healthy
  still : ∀ index, (environment.moment index).elapsed = 0
  fresh : environment.Fresh database

/-- The same tables some time later. -/
def World.later (world : World) (waited : Nat) : World :=
  { world with clock := world.clock + waited }

/-- The account with the email of this registration is confirmed. -/
def AccountConfirmed (service : Service) (registration : Call) (world : World) : Prop :=
  ∃ user ∈ world.database.users, emailOf (service.body registration) = some user.email ∧
    user.confirmedAt.isSome = true

/-- The account that a registration asked for is confirmed, and a login with the
email and the password of that registration is answered with success. -/
structure Usable (service : Service) (registration login : Call) (world : World) : Prop where
  email : emailOf (service.body login) = emailOf (service.body registration)
  password : passwordOf (service.body login) = passwordOf (service.body registration)
  confirmed : AccountConfirmed service registration world
  success : AnsweredAt login (service.serve login world).1 "POST" "/auth/login" 200

/-- Some further requests make the account usable. -/
def Recoverable (service : Service) (registration : Call) (world : World) : Prop :=
  ∃ calls login, (∀ call ∈ calls, call.environment.Healthy) ∧ login.environment.Healthy ∧
    Usable service registration login
      ((service.machine Environment.Healthy).play world calls).2

/-- Every account that a registration was answered 201 for can be brought to use
from every state that the service reaches, at every later time. -/
def NoAccountStuck (service : Service) : Prop :=
  ∀ earlier registration later world, service.Run Environment.Healthy
      (earlier ++ registration :: later) world →
    AnsweredAt registration.input registration.output "POST" "/auth/register" 201 →
    ∀ waited, Recoverable service registration.input (world.later waited)

/-- Some body is read as a confirmation of this token. -/
def Writable (service : Service) (token : Uuid) : Prop :=
  ∃ body, (confirmText (readJson service.jsonC body)).bind service.postgres.castText = some token

/-- An account that was not confirmed, and no token of it can still be used. -/
structure Expired (world : World) (user : UserRow) : Prop where
  user_mem : user ∈ world.database.users
  unconfirmed : user.confirmedAt = none
  expired : ∀ row ∈ world.database.confirmationTokens, row.userId = user.id →
    row.expiresAt ≤ world.clock

section Stuck

variable {service : Service} {call : Call} {world : World} {user : UserRow}

theorem Expired.serve (expired : Expired world user) (lawful : service.postgres.Lawful)
    (valid : world.database.Valid service.postgres.lower)
    (smooth : world.Smooth call.environment) : Expired (service.serve call world).2 user := by
  have later : world.clock ≤ (service.serve call world).2.clock := Service.serve_clock
  have effect := Service.serve_confirmation lawful valid smooth
  generalize (service.serve call world).1 = reply at effect
  generalize (service.serve call world).2 = after at effect later
  cases effect with
  | registered registered =>
      refine ⟨by simp [registered.database, expired.user_mem], expired.unconfirmed, ?_⟩
      intro row member belongs
      rw [registered.database] at member
      rcases List.mem_append.mp member with old | new
      · exact Int.le_trans (expired.expired row old belongs) later
      · obtain rfl := List.mem_singleton.mp new
        exact absurd belongs.symm (registered.freshUser user expired.user_mem).1
  | @confirmed consumed owner transaction _ _ confirmed =>
      have foreign : user.id ≠ consumed.userId := by
        intro owned
        have expires := expired.expired consumed confirmed.row_mem owned.symm
        exact Int.not_le.mpr confirmed.unexpired (Int.le_trans expires later)
      have kept : (if user.id = consumed.userId then confirmUser transaction user else user) ∈
          after.database.users :=
        confirmed.database ▸ Database.confirm_user expired.user_mem
      rw [if_neg foreign] at kept
      refine ⟨kept, expired.unconfirmed, ?_⟩
      intro row member belongs
      rw [confirmed.database] at member
      obtain ⟨old, stored, rfl⟩ := Database.confirm_tokens member
      split at belongs
      · next chosen =>
          rw [if_pos chosen]
          exact Int.le_trans (expired.expired old stored belongs) later
      · next chosen =>
          rw [if_neg chosen]
          exact Int.le_trans (expired.expired old stored belongs) later
  | unchanged users tokens _ _ _ =>
      refine ⟨users ▸ expired.user_mem, expired.unconfirmed, ?_⟩
      intro row member belongs
      exact Int.le_trans (expired.expired row (tokens ▸ member) belongs) later

theorem Expired.play (expired : Expired world user) (lawful : service.postgres.Lawful)
    (valid : world.database.Valid service.postgres.lower)
    (connected : world.connection = .connectionOk) {calls : List Call}
    (healthy : ∀ call ∈ calls, call.environment.Healthy) :
    Expired ((service.machine Environment.Healthy).play world calls).2 user ∧
      ((service.machine Environment.Healthy).play world calls).2.database.Valid
        service.postgres.lower := by
  induction calls generalizing world with
  | nil => exact ⟨expired, valid⟩
  | cons call rest ih =>
      have now : call.environment.Healthy := healthy call List.mem_cons_self
      exact ih (expired.serve lawful valid ⟨now, connected⟩) (Service.serve_valid valid)
        (Service.serve_connection now connected)
        fun other member => healthy other (List.mem_cons_of_mem _ member)

/-- An expired account is never confirmed, whatever is sent by whomever. -/
theorem Expired.not_confirmed (expired : Expired world user) (lawful : service.postgres.Lawful)
    (valid : world.database.Valid service.postgres.lower)
    (connected : world.connection = .connectionOk) {registration : Call}
    (named : emailOf (service.body registration) = some user.email) {calls : List Call}
    (healthy : ∀ call ∈ calls, call.environment.Healthy) :
    ¬ AccountConfirmed service registration
      ((service.machine Environment.Healthy).play world calls).2 := by
  obtain ⟨still, validLater⟩ := expired.play lawful valid connected healthy
  intro ⟨other, known, also, confirmed⟩
  have same : other.email = user.email := Option.some.inj (also.symm.trans named)
  obtain rfl := Table.eq_of_key validLater.userEmails known still.user_mem same
  simp [still.unconfirmed] at confirmed

theorem Expired.not_recoverable (expired : Expired world user) (lawful : service.postgres.Lawful)
    (valid : world.database.Valid service.postgres.lower)
    (connected : world.connection = .connectionOk) {registration : Call}
    (named : emailOf (service.body registration) = some user.email) :
    ¬ Recoverable service registration world := by
  intro ⟨calls, login, healthy, _, usable⟩
  exact expired.not_confirmed lawful valid connected named healthy usable.confirmed

end Stuck

section Usable

variable {service : Service} {call : Call} {world : World}

private theorem interpret_still {postgres : Postgres} {environment : Environment} (start : Time)
    (still : ∀ index, (environment.moment index).elapsed = 0) (operation : Operation)
    (exchange : Exchange) (same : exchange.world.clock = start) :
    (interpret postgres environment operation exchange).2.world.clock = start := by
  cases operation with
  | pqExecParams statement =>
      have passes : exchange.world.clock +
          (environment.moment exchange.statements).elapsed = start := by
        rw [still, same]
        exact Int.add_zero start
      simp only [interpret, World.pqExecParams]
      split
      · exact passes
      · split
        · exact passes
        · exact passes
        · split <;> exact passes
  | _ => exact same

theorem Service.serve_still (still : ∀ index, (call.environment.moment index).elapsed = 0) :
    (service.serve call world).2.clock = world.clock :=
  Program.run_preserves (interpret_still world.clock still) _ rfl

theorem Presents.confirms {token : Uuid} (presents : Presents service call token)
    (lawful : service.postgres.Lawful) (valid : world.database.Valid service.postgres.lower)
    (smooth : world.Smooth call.environment) {row : ConfirmationTokenRow}
    (stored : row ∈ world.database.confirmationTokens) (same : row.token = token)
    (pending : row.consumedAt = none)
    (unexpired : (service.serve call world).2.clock < row.expiresAt) :
    ∃ user transaction, Confirmed service call world row user transaction
      (service.serve call world).1 (service.serve call world).2 := by
  cases Service.serve_confirmation lawful valid smooth with
  | registered registered => exact (presents.request.url_ne registered.request (by decide)).elim
  | unchanged _ _ _ _ used =>
      have consumed := used token presents row stored same unexpired
      simp [pending] at consumed
  | @confirmed chosen user transaction _ _ confirmed =>
      have also : chosen.token = token :=
        Option.some.inj (confirmed.presented.symm.trans presents.read)
      obtain rfl := Table.eq_of_key valid.tokenKeys confirmed.row_mem stored (also.trans same.symm)
      exact ⟨user, transaction, confirmed⟩

/-- What a registration reads, a login can send. -/
theorem registerFields_credentials {json : Option Json} {fields : RegisterFields}
    (read : registerFields json = some fields) :
    emailOf json = some fields.email ∧ ∃ password, passwordOf json = some password := by
  unfold registerFields at read
  split at read
  · next email _ _ readEmail readPassword _ =>
      split at read
      · next accepted =>
          obtain rfl := Option.some.inj read
          refine ⟨by simp [emailOf, readEmail, accepted], ?_⟩
          obtain ⟨found, _⟩ := portalHttpJsonString_eq_some.mp readPassword
          rw [jsonText_password] at found
          obtain ⟨password, given, _⟩ := Option.map_eq_some_iff.mp found
          exact ⟨password, given⟩
      · cases read
  · cases read

/-- A request with a JSON body to a fixed path. -/
def postCall (url : String) (body : Bytes) (environment : Environment) : Call where
  request := { method := bytes "POST", url := bytes url, lookup := fun _ _ => none, body }
  environment := environment

theorem Service.body_postCall (service : Service) {url : String} {body : Bytes}
    {environment : Environment} (healthy : environment.Healthy) :
    service.body (postCall url body environment) = readJson service.jsonC body := by
  rw [Service.body_post rfl]
  simp [Service.parsed, postCall, Environment.parse, healthy.granted]

/-- The login with what a registration sent. -/
def loginAs (registration : Call) (environment : Environment) : Call :=
  postCall "/auth/login" registration.request.body environment

/-- This account, once confirmed, opens to what its registration sent. -/
structure OpenedBy (service : Service) (registration : Call) (user : UserRow) : Prop where
  healthy : registration.environment.Healthy
  post : registration.request.method = bytes "POST"
  named : emailOf (service.body registration) = some user.email
  encoded : validUtf8 user.email = true
  password : ∃ (password : Bytes) (salt : BfSalt),
    passwordOf (service.body registration) = some password ∧ Sendable password ∧
      user.passwordHash = service.postgres.crypt (cString password) salt.text

theorem OpenedBy.becomes {registration : Call} {user later : UserRow}
    (opened : OpenedBy service registration user) (becomes : user.Becomes later) :
    OpenedBy service registration later where
  healthy := opened.healthy
  post := opened.post
  named := becomes.email ▸ opened.named
  encoded := becomes.email ▸ opened.encoded
  password := becomes.passwordHash ▸ opened.password

theorem OpenedBy.usable {registration : Call} {user : UserRow} {environment : Environment}
    (opened : OpenedBy service registration user) (lawful : service.postgres.Lawful)
    (accepts : service.postgres.AcceptsOwn) (valid : world.database.Valid service.postgres.lower)
    (smooth : world.Smooth environment) (fresh : environment.Fresh world.database)
    (known : user ∈ world.database.users) (confirmed : user.confirmedAt.isSome = true) :
    Usable service registration (loginAs registration environment) world := by
  obtain ⟨password, salt, chosen, sendable, hash⟩ := opened.password
  have repeats : service.body (loginAs registration environment) = service.body registration := by
    rw [loginAs, Service.body_postCall service smooth.healthy, Service.body_post opened.post]
    simp [Service.parsed, Environment.parse, opened.healthy.granted]
  have post : (loginAs registration environment).request.At "POST" "/auth/login" := ⟨rfl, rfl⟩
  have accepted := Service.serve_login_iff lawful valid smooth fresh known confirmed opened.encoded
    post (repeats ▸ opened.named) (repeats ▸ chosen)
  refine ⟨by rw [repeats], by rw [repeats], ⟨user, known, opened.named, confirmed⟩, post, ?_⟩
  apply accepted.mpr
  refine ⟨sendable, ?_⟩
  rw [hash]
  exact accepts _ _

/-- A pending token brings its account to use while it can be used. -/
theorem OpenedBy.recoverable {registration : Call} {user : UserRow} {row : ConfirmationTokenRow}
    {environment : Environment} (opened : OpenedBy service registration user)
    (lawful : service.postgres.Lawful) (accepts : service.postgres.AcceptsOwn)
    (valid : world.database.Valid service.postgres.lower) (connected : world.connection = .connectionOk)
    (calm : environment.Calm world.database) (known : user ∈ world.database.users)
    (stored : row ∈ world.database.confirmationTokens) (owner : row.userId = user.id)
    (pending : row.consumedAt = none) (unexpired : world.clock < row.expiresAt)
    (writable : Writable service row.token) : Recoverable service registration world := by
  obtain ⟨body, presented⟩ := writable
  generalize confirms : postCall "/auth/confirm" body environment = call
  have surrounds : call.environment = environment := by rw [← confirms]; rfl
  have presents : Presents service call row.token := by
    rw [← confirms]
    exact ⟨⟨rfl, rfl⟩, by rw [Service.body_postCall service calm.healthy, presented]⟩
  have still : (service.serve call world).2.clock = world.clock :=
    Service.serve_still fun index => by rw [surrounds, calm.still]
  obtain ⟨found, transaction, confirmed⟩ := presents.confirms lawful valid
    ⟨surrounds ▸ calm.healthy, connected⟩ stored rfl pending (by rw [still]; exact unexpired)
  have now : confirmUser transaction user ∈ (service.serve call world).2.database.users := by
    have kept : (if user.id = row.userId then confirmUser transaction user else user) ∈
        (service.serve call world).2.database.users :=
      confirmed.database ▸ Database.confirm_user known
    rwa [if_pos owner.symm] at kept
  have fresh : environment.Fresh (service.serve call world).2.database := by
    rw [confirmed.database]
    exact ⟨calm.fresh.sessions, calm.fresh.comments⟩
  have healthy : call.environment.Healthy := surrounds ▸ calm.healthy
  refine ⟨[call], loginAs registration environment, by simpa using healthy, calm.healthy, ?_⟩
  exact (opened.becomes (confirmUser_becomes transaction user)).usable lawful accepts
    (Service.serve_valid valid) ⟨calm.healthy, Service.serve_connection healthy connected⟩ fresh now
    rfl

end Usable

section Run

variable {service : Service} {earlier later : List Service.Entry} {registration : Service.Entry}
  {world : World} {environment : Environment}

theorem Service.Run.registers (lawful : service.postgres.Lawful)
    (run : service.Run Environment.Healthy (earlier ++ registration :: later) world)
    (answered : AnsweredAt registration.input registration.output "POST" "/auth/register" 201) :
    ∃ fields transaction, Registered service registration.input registration.before fields
      transaction registration.output registration.after := by
  cases Service.Run.confirmationEffect lawful run with
  | registered registered => exact ⟨_, _, registered⟩
  | confirmed confirmed => exact (answered.request.url_ne confirmed.request (by decide)).elim
  | unchanged _ _ unanswered _ _ => exact absurd answered unanswered

/-- The account of a registration is there at the end of the run, with its token. -/
theorem Service.Run.openedBy (lawful : service.postgres.Lawful)
    (run : service.Run Environment.Healthy (earlier ++ registration :: later) world)
    (answered : AnsweredAt registration.input registration.output "POST" "/auth/register" 201) :
    ∃ account token user row, Issued service registration account token later world.database user row ∧
      OpenedBy service registration.input user := by
  have healthy := (Service.Run.reached run).2.1
  obtain ⟨fields, transaction, registered⟩ := Service.Run.registers lawful run answered
  have registers := registered.registers healthy
  obtain ⟨user, row, issued⟩ := Service.Run.issued lawful run registers
  have becomes := Service.Run.account_becomes lawful run registers issued.user_mem issued.identity
  obtain ⟨email, password, chosen⟩ := registerFields_credentials registered.read
  obtain ⟨salt, hash, sendable, encoded⟩ :=
    Service.Run.hash_eq lawful run registers chosen issued.user_mem issued.identity
  refine ⟨_, _, user, row, issued, healthy, registered.request.method, ?_, encoded, password, salt,
    chosen, sendable, hash⟩
  rw [email, becomes.email]
  rfl

/-- An account can be brought to use exactly while its token can be used, and
once it is confirmed for good; after that no requests confirm it. -/
theorem recoverable_iff (lawful : service.postgres.Lawful) (accepts : service.postgres.AcceptsOwn)
    (run : service.Run Environment.Healthy (earlier ++ registration :: later) world)
    (answered : AnsweredAt registration.input registration.output "POST" "/auth/register" 201)
    (writable : ∀ row ∈ world.database.confirmationTokens, Writable service row.token)
    (calm : environment.Calm world.database) (waited : Nat) :
    (Recoverable service registration.input (world.later waited) ↔
        AccountConfirmed service registration.input world ∨
          world.clock + waited < registration.after.clock + service.config.confirmationLifetime) ∧
      (¬ (AccountConfirmed service registration.input world ∨
          world.clock + waited < registration.after.clock + service.config.confirmationLifetime) →
        ∀ calls : List Call, (∀ call ∈ calls, call.environment.Healthy) →
          ¬ AccountConfirmed service registration.input
            ((service.machine Environment.Healthy).play (world.later waited) calls).2) := by
  have valid := Service.Run.valid run
  have connected := Service.Run.connection run
  obtain ⟨account, token, user, row, issued, opened⟩ := Service.Run.openedBy lawful run answered
  have owned : AccountConfirmed service registration.input world ↔ user.confirmedAt.isSome = true := by
    constructor
    · intro ⟨other, known, also, confirmed⟩
      have same : other.email = user.email := Option.some.inj (also.symm.trans opened.named)
      obtain rfl := Table.eq_of_key valid.userEmails known issued.user_mem same
      exact confirmed
    · intro confirmed
      exact ⟨user, issued.user_mem, opened.named, confirmed⟩
  rw [owned, ← issued.expires]
  have expires (neither : ¬ (user.confirmedAt.isSome = true ∨
      world.clock + waited < row.expiresAt)) : Expired (world.later waited) user := by
    obtain ⟨unconfirmed, late⟩ := not_or.mp neither
    refine ⟨issued.user_mem, by simpa using unconfirmed, ?_⟩
    intro other stored belongs
    obtain rfl := issued.only other stored (belongs.trans issued.identity)
    exact Int.not_lt.mp late
  refine ⟨⟨fun recoverable => ?_, fun available => ?_⟩, fun neither calls healthy => ?_⟩
  · apply Classical.byContradiction
    intro neither
    exact (expires neither).not_recoverable lawful valid connected opened.named recoverable
  · have smooth : (world.later waited).Smooth environment := ⟨calm.healthy, connected⟩
    cases confirmed : user.confirmedAt with
    | some time =>
        have usable : Usable service registration.input (loginAs registration.input environment)
            (world.later waited) :=
          opened.usable lawful accepts valid smooth calm.fresh issued.user_mem (by simp [confirmed])
        exact ⟨[], _, by simp, calm.healthy, usable⟩
    | none =>
        have unexpired := available.resolve_left (by simp [confirmed])
        have pending : row.consumedAt = none := by
          have together := issued.together
          simpa [confirmed] using together
        exact opened.recoverable lawful accepts valid connected calm issued.user_mem issued.row_mem
          (issued.owner.trans issued.identity.symm) pending unexpired (writable row issued.row_mem)
  · exact (expires neither).not_confirmed lawful valid connected opened.named healthy

end Run

namespace Reference

def waiting : Service := service (bodies [account, confirmation 1])

def registration : Service.Entry :=
  (waiting.machine Environment.Healthy).event (post "/auth/register" account 1 0) start

theorem registration_run : waiting.Run Environment.Healthy ([] ++ registration :: [])
    registration.after := by
  have healthy : ∀ call ∈ [post "/auth/register" account 1 0], call.environment.Healthy := by
    simp [post, environment_healthy]
  exact run waiting healthy

theorem registration_answered :
    AnsweredAt registration.input registration.output "POST" "/auth/register" 201 :=
  ⟨⟨rfl, rfl⟩, by decide +kernel⟩

theorem acceptsOwn : postgres.AcceptsOwn := fun password salt =>
  (hashesPrefix password password salt).mpr rfl

theorem registration_calm : (environment 10 0).Calm registration.after.database where
  healthy := environment_healthy 10 0
  still _ := rfl
  fresh := by
    have sessions : registration.after.database.authSessions = [] := by decide +kernel
    have comments : registration.after.database.comments = [] := by decide +kernel
    exact ⟨by simp [sessions], by simp [comments]⟩

def unconfirmedAna : UserRow where
  id := draw 1
  email := bytes "ana@example.com"
  displayName := bytes "Ana"
  passwordHash := crypt (bytes "correct-horse") salt.text
  confirmedAt := none
  createdAt := 0
  updatedAt := 0

theorem registration_expired : Expired (registration.after.later 86400000000) unconfirmedAna where
  user_mem := by decide +kernel
  unconfirmed := rfl
  expired := by decide +kernel

end Reference

/-- An hour before the end of its token the account can still be brought to use. -/
theorem recoverable_iff_registered :
    Recoverable Reference.waiting Reference.registration.input
      (Reference.registration.after.later 82800000000) := by
  have writable : ∀ row ∈ Reference.registration.after.database.confirmationTokens,
      Writable Reference.waiting row.token := by
    have tokens : Reference.registration.after.database.confirmationTokens.map (·.token) =
        [Reference.draw 1] := by decide +kernel
    intro row member
    have same : row.token = Reference.draw 1 := by
      have present := List.mem_map_of_mem (f := (·.token)) member
      simpa [tokens] using present
    exact ⟨Reference.objectText (Reference.confirmation 1), by rw [same]; decide +kernel⟩
  have unexpired : Reference.registration.after.clock + (82800000000 : Nat) <
      Reference.registration.after.clock + Reference.waiting.config.confirmationLifetime := by
    decide +kernel
  exact (recoverable_iff Reference.lawful Reference.acceptsOwn Reference.registration_run
    Reference.registration_answered writable Reference.registration_calm 82800000000).1.mpr
      (.inr unexpired)

/-- A day after its registration the account is lost: its token has expired and
no request issues another. -/
theorem account_stuck : ¬ NoAccountStuck Reference.waiting := by
  intro always
  have recoverable := always [] Reference.registration [] _ Reference.registration_run
    Reference.registration_answered 86400000000
  have named : emailOf (Reference.waiting.body Reference.registration.input) =
      some Reference.unconfirmedAna.email := by decide +kernel
  have valid := Service.Run.valid Reference.registration_run
  have connected := Service.Run.connection Reference.registration_run
  exact Reference.registration_expired.not_recoverable Reference.lawful valid connected named
    recoverable

end PortalApi
