import PortalApi.Confirmation
import PortalApi.StatementTotality

/-! Which passwords open an account: all that the hash cannot tell from the
registered one. -/

set_option autoImplicit false

namespace PortalApi

open Library

/-- The `password` member of a JSON body, with its full decoded content. -/
def passwordOf (json : Option Json) : Option Bytes :=
  match jsonMember json (bytes "password") with
  | some (.string content) => some content
  | _ => none

/-- The `email` member as registration and login read it. -/
def emailOf (json : Option Json) : Option Bytes :=
  match portalHttpJsonString json (bytes "email") 5 254 with
  | some email => if portalValidationEmail (some email) then some (email.map toLower) else none
  | none => none

/-- bcrypt tells passwords apart by their first 72 bytes. -/
def Postgres.HashesPrefix (postgres : Postgres) : Prop :=
  ∀ (password sent : Bytes) (salt : BfSalt),
    postgres.crypt sent (postgres.crypt password salt.text) = postgres.crypt password salt.text ↔
      sent.take 72 = password.take 72

/-- A password that the login route sends to the server and the server can read. -/
def Sendable (password : Bytes) : Prop :=
  (1 ≤ (cString password).length ∧ (cString password).length ≤ 256) ∧
    validUtf8 (cString password) = true

section Fields

variable {json : Option Json} {password : Bytes}

theorem jsonText_password : jsonText json (bytes "password") = (passwordOf json).map cString := by
  cases json with
  | none => rfl
  | some json =>
      simp only [jsonText, passwordOf, jsonMember, Option.bind_some]
      split <;> simp_all

theorem RegisterFields.password_eq {fields : RegisterFields}
    (read : registerFields json = some fields) (sent : passwordOf json = some password) :
    fields.password = cString password ∧ 12 ≤ fields.password.length ∧
      fields.password.length ≤ 256 := by
  unfold registerFields at read
  split at read
  · next email text displayName _ readPassword _ =>
      obtain ⟨found, bounds⟩ := portalHttpJsonString_eq_some.mp readPassword
      rw [jsonText_password, sent, Option.map_some] at found
      obtain rfl := Option.some.inj found
      split at read
      · obtain rfl := Option.some.inj read
        exact ⟨rfl, bounds⟩
      · cases read
  · cases read

/-- The login route reads a password by its C string, unless that is empty or
too long. -/
theorem loginFields_eq {email : Bytes} (named : emailOf json = some email)
    (sent : passwordOf json = some password) :
    loginFields json =
      if 1 ≤ (cString password).length ∧ (cString password).length ≤ 256 then
        some ⟨email, cString password⟩
      else none := by
  have found : jsonText json (bytes "password") = some (cString password) := by
    rw [jsonText_password, sent, Option.map_some]
  unfold emailOf at named
  unfold loginFields
  cases readEmail : portalHttpJsonString json (bytes "email") 5 254 with
  | none => simp [readEmail] at named
  | some address =>
      simp only [readEmail] at named
      split at named
      · next accepted =>
          obtain rfl := Option.some.inj named
          by_cases within : 1 ≤ (cString password).length ∧ (cString password).length ≤ 256
          · rw [portalHttpJsonString_eq_some.mpr ⟨found, within⟩]
            simp [accepted, within]
          · have none : portalHttpJsonString json (bytes "password") 1 256 = none := by
              cases read : portalHttpJsonString json (bytes "password") 1 256 with
              | none => rfl
              | some text =>
                  obtain ⟨same, bounds⟩ := portalHttpJsonString_eq_some.mp read
                  obtain rfl := Option.some.inj (found.symm.trans same)
                  exact absurd bounds within
            rw [none, if_neg within]
      · cases named

end Fields

section Login

variable {service : Service} {call : Call} {world : World} {password : Bytes} {user : UserRow}

/-- The statement of a login has two texts that the client chose. -/
theorem LoginFields.encoded_iff {config : PortalConfig} {fields : LoginFields} :
    (fields.statement config).Encoded ↔
      validUtf8 fields.email = true ∧ validUtf8 fields.password = true := by
  simp [Statement.Encoded, LoginFields.statement, Statement.parameters, PortalConfig.tokenTtl,
    (decimal_ascii _).validUtf8]

theorem candidate_of_email {postgres : Postgres} (confirmed : user.confirmedAt.isSome = true) :
    candidate postgres user.email password user = true ↔
      postgres.crypt password user.passwordHash = user.passwordHash := by
  simp [candidate, confirmed, eq_comm]

/-- A confirmed account opens to the passwords that hash as its own. -/
theorem Service.serve_login_iff (lawful : service.postgres.Lawful)
    (valid : world.database.Valid service.postgres.lower) (smooth : world.Smooth call.environment)
    (fresh : call.environment.Fresh world.database) (known : user ∈ world.database.users)
    (confirmed : user.confirmedAt.isSome = true) (encoded : validUtf8 user.email = true)
    (request : call.request.At "POST" "/auth/login")
    (named : emailOf (service.body call) = some user.email)
    (sent : passwordOf (service.body call) = some password) :
    statusOf (service.serve call world).1 = some 200 ↔
      Sendable password ∧
        service.postgres.crypt (cString password) user.passwordHash = user.passwordHash := by
  have parsed : ∃ json, service.body call = some json := by
    cases body : service.body call with
    | some json => exact ⟨json, rfl⟩
    | none => simp [emailOf, body] at named
  obtain ⟨json, body⟩ := parsed
  have ends := service.serve_post lawful valid request
    (show (_, Endpoint.login) ∈ postEndpoints by simp [postEndpoints]) body
  generalize (service.serve call world).1 = reply at ends ⊢
  generalize (service.serve call world).2 = after at ends
  have fields := loginFields_eq named sent
  by_cases within : 1 ≤ (cString password).length ∧ (cString password).length ≤ 256
  · rw [if_pos within] at fields
    cases ends with
    | invalid none _ => simp [fields] at none
    | failed read failed answered =>
        obtain rfl := Option.some.inj (fields.symm.trans read)
        have given := answered.certain smooth.healthy
        obtain ⟨_, transaction, failure, offered, _, refused, _⟩ := failed.cause smooth
        have unsendable : ¬ Sendable password := by
          intro sendable
          have readable : (LoginFields.statement ⟨user.email, cString password⟩
              service.config).Encoded := LoginFields.encoded_iff.mpr ⟨encoded, sendable.2⟩
          obtain ⟨outcome, ran⟩ := LoginFields.execute_total lawful valid readable
            (fresh.sessions transaction offered)
          cases ran.symm.trans refused
        simp [given, unsendable]
    | denied read _ _ _ nobody answered =>
        obtain rfl := Option.some.inj (fields.symm.trans read)
        have given := answered.certain smooth.healthy
        have differs : service.postgres.crypt (cString password) user.passwordHash ≠
            user.passwordHash := by
          intro same
          have none := nobody user known
          simp [(candidate_of_email confirmed).mpr same] at none
        simp [given, differs]
    | @opened _ _ _ owner read readable _ _ _ _ member accepted _ _ answered =>
        obtain rfl := Option.some.inj (fields.symm.trans read)
        have given := answered.certain smooth.healthy
        have email : owner.email = user.email := by
          simp only [candidate, Bool.and_eq_true, decide_eq_true_eq] at accepted
          exact accepted.1.1
        obtain rfl := Table.eq_of_key valid.userEmails member known email
        have same := (candidate_of_email confirmed).mp accepted
        have sendable : Sendable password := ⟨within, (LoginFields.encoded_iff.mp readable).2⟩
        simp [given, loginResponse, sendable, same]
  · rw [if_neg within] at fields
    have unsendable : ¬ Sendable password := fun sendable => within sendable.1
    cases ends with
    | invalid _ answered =>
        have given := answered.certain smooth.healthy
        simp [given, unsendable]
    | failed read _ _ => simp [fields] at read
    | denied read _ _ _ _ _ => simp [fields] at read
    | opened read _ _ _ _ _ _ _ _ _ _ => simp [fields] at read

end Login

section Registered

variable {service : Service} {earlier later : List Service.Entry} {registration : Service.Entry}
  {world : World} {account user : UserRow} {issued : ConfirmationTokenRow}
  {password sent : Bytes} {call : Call}

/-- The account of a registration is the one it stored, but for its confirmation. -/
theorem Service.Run.account_becomes (lawful : service.postgres.Lawful)
    (run : service.Run Environment.Healthy (earlier ++ registration :: later) world)
    (registers : Registers registration account issued) (known : user ∈ world.database.users)
    (same : user.id = account.id) : account.Becomes user := by
  obtain ⟨now, member, becomes⟩ := Service.Run.user_since lawful run
    (show account ∈ registration.after.database.users by simp [registers.users])
  obtain rfl := Table.eq_of_key (Service.Run.valid run).userIds known member
    (same.trans becomes.id.symm)
  exact becomes

theorem Service.Run.hash_eq (lawful : service.postgres.Lawful)
    (run : service.Run Environment.Healthy (earlier ++ registration :: later) world)
    (registers : Registers registration account issued)
    (chosen : passwordOf (service.body registration.input) = some password)
    (known : user ∈ world.database.users) (same : user.id = account.id) :
    ∃ salt : BfSalt, user.passwordHash = service.postgres.crypt (cString password) salt.text ∧
      Sendable password ∧ validUtf8 user.email = true := by
  have becomes := Service.Run.account_becomes lawful run registers known same
  obtain ⟨fields, transaction, registered, rfl, _⟩ :=
    registers.registered (Service.Run.confirmationEffect lawful run)
  obtain ⟨text, atLeast, atMost⟩ := RegisterFields.password_eq registered.read chosen
  have readable := registered.encoded
  refine ⟨transaction.genSalt, ?_, ⟨?_, ?_⟩, ?_⟩
  · rw [becomes.passwordHash, ← text]
    rfl
  · rw [← text]
    omega
  · rw [← text]
    exact readable fields.password (by simp [RegisterFields.statement, Statement.parameters])
  · rw [becomes.email]
    exact readable fields.email (by simp [RegisterFields.statement, Statement.parameters])

/-- The login is answered with success for the registered password alone exactly
when the sent one is that password, cannot be sent or differs from it in the
first 72 bytes of its C string. -/
theorem login_password_iff (lawful : service.postgres.Lawful)
    (hash : service.postgres.HashesPrefix)
    (run : service.Run Environment.Healthy (earlier ++ registration :: later) world)
    (registers : Registers registration account issued)
    (chosen : passwordOf (service.body registration.input) = some password)
    (known : user ∈ world.database.users) (same : user.id = account.id)
    (confirmed : user.confirmedAt.isSome = true) (healthy : call.environment.Healthy)
    (fresh : call.environment.Fresh world.database)
    (request : call.request.At "POST" "/auth/login")
    (named : emailOf (service.body call) = some user.email)
    (given : passwordOf (service.body call) = some sent) :
    (statusOf (service.serve call world).1 = some 200 ↔ sent = password) ↔
      (sent = password ∨ ¬ Sendable sent ∨
        (cString sent).take 72 ≠ (cString password).take 72) := by
  obtain ⟨salt, stored, sendable, encoded⟩ :=
    Service.Run.hash_eq lawful run registers chosen known same
  have accepted := Service.serve_login_iff lawful (Service.Run.valid run)
    ⟨healthy, Service.Run.connection run⟩ fresh known confirmed encoded request named given
  rw [stored, hash] at accepted
  rw [accepted]
  by_cases equal : sent = password
  · simp [equal, sendable]
  · simp only [equal, iff_false, false_or, not_and]
    by_cases sends : Sendable sent
    · simp [sends]
    · simp [sends]

end Registered

namespace Reference

theorem hashesPrefix : postgres.HashesPrefix := by
  intro password sent salt
  show (salt.text.take 29 ++ password.take 72).take 29 ++ sent.take 72 =
    salt.text.take 29 ++ password.take 72 ↔ _
  rw [List.take_of_length_le salt.length.le, List.take_left' salt.length,
    List.append_cancel_left_eq]

/-- 72 letters and one more character. -/
def longPassword (last : UInt8) : Bytes := List.replicate 72 97 ++ [last]

def longAccount : Members :=
  [("email", bytes "ana@example.com"), ("password", longPassword 49), ("display_name", bytes "Ana")]

def otherCredentials : Members :=
  [("email", bytes "Ana@Example.com"), ("password", longPassword 50)]

def hashing : Service := service (bodies [longAccount, confirmation 1, otherCredentials])

def hashed : List Call :=
  [post "/auth/register" longAccount 1 0, post "/auth/confirm" (confirmation 1) 2 0]

def otherLogin : Call := post "/auth/login" otherCredentials 10 0

def hashedUser : UserRow where
  id := draw 1
  email := bytes "ana@example.com"
  displayName := bytes "Ana"
  passwordHash := crypt (longPassword 49) salt.text
  confirmedAt := none
  createdAt := 0
  updatedAt := 0

def hashedToken : ConfirmationTokenRow where
  token := draw 1
  userId := draw 1
  expiresAt := 24 * hour
  consumedAt := none
  createdAt := 0

def hashedRegistration : Service.Entry :=
  (hashing.machine Environment.Healthy).event (post "/auth/register" longAccount 1 0) start

def hashedConfirmation : Service.Entry :=
  (hashing.machine Environment.Healthy).event (post "/auth/confirm" (confirmation 1) 2 0)
    hashedRegistration.after

theorem hashed_run : hashing.Run Environment.Healthy
    ([] ++ hashedRegistration :: [hashedConfirmation]) (after hashing hashed) := by
  have healthy : ∀ call ∈ hashed, call.environment.Healthy := by
    simp [hashed, post, environment_healthy]
  exact run hashing healthy

theorem hashed_registers : Registers hashedRegistration hashedUser hashedToken where
  answered := ⟨⟨rfl, rfl⟩, by decide +kernel⟩
  owner := rfl
  users := by decide +kernel
  confirmationTokens := by decide +kernel

theorem otherLogin_fresh : otherLogin.environment.Fresh (after hashing hashed).database := by
  have sessions : (after hashing hashed).database.authSessions = [] := by decide +kernel
  have comments : (after hashing hashed).database.comments = [] := by decide +kernel
  exact ⟨by simp [sessions], by simp [comments]⟩

end Reference

/-- The two passwords differ in their last character only. -/
theorem login_password_iff_long :
    (statusOf (Reference.hashing.serve Reference.otherLogin
          (Reference.after Reference.hashing Reference.hashed)).1 = some 200 ↔
        Reference.longPassword 50 = Reference.longPassword 49) ↔
      (Reference.longPassword 50 = Reference.longPassword 49 ∨
        ¬ Sendable (Reference.longPassword 50) ∨
        (cString (Reference.longPassword 50)).take 72 ≠
          (cString (Reference.longPassword 49)).take 72) := by
  have known : { Reference.hashedUser with confirmedAt := some 0 } ∈
      (Reference.after Reference.hashing Reference.hashed).database.users := by
    decide +kernel
  exact login_password_iff Reference.lawful Reference.hashesPrefix Reference.hashed_run
    Reference.hashed_registers (by decide +kernel) known rfl rfl
    (Reference.environment_healthy 10 0) Reference.otherLogin_fresh ⟨rfl, rfl⟩
    (by decide +kernel) (by decide +kernel)

/-- A password that was never registered signs in. -/
theorem login_other_password :
    passwordOf (Reference.hashing.body (Reference.post "/auth/register" Reference.longAccount 1 0)) =
        some (Reference.longPassword 49) ∧
      (Reference.history Reference.hashing Reference.hashed).map
        (fun entry => statusOf entry.output) = [some 201, some 200] ∧
      emailOf (Reference.hashing.body Reference.otherLogin) = some (bytes "ana@example.com") ∧
      passwordOf (Reference.hashing.body Reference.otherLogin) = some (Reference.longPassword 50) ∧
      ¬ (statusOf (Reference.hashing.serve Reference.otherLogin
          (Reference.after Reference.hashing Reference.hashed)).1 = some 200 ↔
        Reference.longPassword 50 = Reference.longPassword 49) := by
  refine ⟨by decide +kernel, by decide +kernel, by decide +kernel, by decide +kernel, ?_⟩
  decide +kernel

end PortalApi
