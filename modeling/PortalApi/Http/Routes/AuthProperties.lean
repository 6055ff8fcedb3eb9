import PortalApi.Http.AuthenticationProperties
import PortalApi.Http.Routes.Auth
import PortalApi.TextProperties

/-! Every way a registration, a confirmation, a login and a logout end. -/

set_option autoImplicit false

namespace PortalApi

open Library

structure RegisterFields where
  email : Bytes
  password : Bytes
  displayName : Bytes

/-- The fields the registration sends on, with the email in lower case. -/
def registerFields (json : Option Json) : Option RegisterFields :=
  match portalHttpJsonString json (bytes "email") 5 254,
    portalHttpJsonString json (bytes "password") 12 256,
    portalHttpJsonString json (bytes "display_name") 1 100 with
  | some email, some password, some displayName =>
    if portalValidationEmail (some email) then
      some { email := email.map toLower, password, displayName }
    else none
  | _, _, _ => none

structure LoginFields where
  email : Bytes
  password : Bytes

def loginFields (json : Option Json) : Option LoginFields :=
  match portalHttpJsonString json (bytes "email") 5 254,
    portalHttpJsonString json (bytes "password") 1 256 with
  | some email, some password =>
    if portalValidationEmail (some email) then some { email := email.map toLower, password }
    else none
  | _, _ => none

/-- The hours of validity as the statements receive them. -/
def PortalConfig.confirmationTtl (config : PortalConfig) : Bytes :=
  decimal config.confirmationTtlHours.toNat

def PortalConfig.tokenTtl (config : PortalConfig) : Bytes :=
  decimal config.tokenTtlHours.toNat

def RegisterFields.statement (fields : RegisterFields) (config : PortalConfig) : Statement :=
  .register fields.email fields.password fields.displayName config.confirmationTtl

def LoginFields.statement (fields : LoginFields) (config : PortalConfig) : Statement :=
  .login fields.email fields.password config.tokenTtl

def PortalConfig.confirmationLifetime (config : PortalConfig) : Int :=
  config.confirmationTtlHours.toNat * hour

def PortalConfig.tokenLifetime (config : PortalConfig) : Int :=
  config.tokenTtlHours.toNat * hour

/-- The account and the confirmation token that a registration stores. -/
def RegisterFields.user (fields : RegisterFields) (postgres : Postgres)
    (transaction : Transaction) : UserRow :=
  registeredUser postgres transaction fields.email fields.password fields.displayName

def PortalConfig.confirmationToken (config : PortalConfig) (transaction : Transaction) :
    ConfirmationTokenRow :=
  issuedToken transaction (transaction.genRandomUuid .usersId 0) config.confirmationTtlHours.toNat

def PortalConfig.session (config : PortalConfig) (transaction : Transaction) (user : UserRow) :
    AuthSessionRow :=
  openedSession transaction config.tokenTtlHours.toNat 0 user

theorem PortalConfig.snprintf_confirmationTtl (config : PortalConfig) :
    snprintf 12 (decimal config.confirmationTtlHours.toNat) =
      ((config.confirmationTtl.length : Int), config.confirmationTtl) ∧
        config.confirmationTtl.length < 12 := by
  have bounded := config.confirmationTtlHours_range.2
  have short : config.confirmationTtl.length ≤ 3 := length_decimal_le (by omega) (by omega)
  exact ⟨snprintf_decimal (by omega) (by omega), by omega⟩

theorem PortalConfig.snprintf_tokenTtl (config : PortalConfig) :
    snprintf 12 (decimal config.tokenTtlHours.toNat) =
      ((config.tokenTtl.length : Int), config.tokenTtl) ∧ config.tokenTtl.length < 12 := by
  have bounded := config.tokenTtlHours_range.2
  have short : config.tokenTtl.length ≤ 4 := length_decimal_le (by omega) (by omega)
  exact ⟨snprintf_decimal (by omega) (by omega), by omega⟩

theorem PortalConfig.int4In_confirmationTtl (config : PortalConfig) {postgres : Postgres}
    (lawful : postgres.Lawful) :
    postgres.int4In config.confirmationTtl = some (config.confirmationTtlHours.toNat : Int) :=
  lawful.int4In_decimal _ (by have := config.confirmationTtlHours_range.2; omega)

theorem PortalConfig.int4In_tokenTtl (config : PortalConfig) {postgres : Postgres}
    (lawful : postgres.Lawful) :
    postgres.int4In config.tokenTtl = some (config.tokenTtlHours.toNat : Int) :=
  lawful.int4In_decimal _ (by have := config.tokenTtlHours_range.2; omega)

section Ends

variable (postgres : Postgres) (environment : Environment) (context : PortalHttpContext)
  (json : Option Json) (request : Request) (world : World)

/-- The reply to a registration whose statement failed. -/
def registerFailure (result : Option PgResult) : Response :=
  if portalDatabaseResultIsUniqueViolation result then
    errorResponse 409 "email_already_registered" "An account with this email already exists."
  else errorResponse 500 "database_error" "Could not create the account."

/-- The reply to a registration that stored this token. -/
def registerResponse (token : ConfirmationTokenRow) : Response :=
  jsonResponse 201 (registerJson context (some (.tuples
    [[postgres.uuidOut token.token, postgres.timestampOut token.expiresAt]])))

inductive RegisterEnds : Option Response → World → Prop where
  | invalid {reply : Option Response} : registerFields json = none →
      Answered environment (errorResponse 400 "validation_error"
        "email, display_name and a password of at least 12 characters are required.") reply →
      RegisterEnds reply world
  | failed {reply : Option Response} {after : World} {fields : RegisterFields}
      {result : Option PgResult} : registerFields json = some fields →
      world.Failed postgres environment (fields.statement context.config) result after →
      Answered environment (registerFailure result) reply → RegisterEnds reply after
  | created {reply : Option Response} {after : World} {fields : RegisterFields}
      {transaction : Transaction} : registerFields json = some fields →
      (fields.statement context.config).Encoded → environment.Offers transaction →
      transaction.now = after.clock →
      world.clock ≤ after.clock → after.connection = .connectionOk →
      (∀ row ∈ world.database.users,
        row.id ≠ (fields.user postgres transaction).id ∧ row.email ≠ fields.email) →
      (∀ row ∈ world.database.confirmationTokens,
        row.token ≠ (context.config.confirmationToken transaction).token) →
      after.database = { world.database with
        users := world.database.users ++ [fields.user postgres transaction]
        confirmationTokens := world.database.confirmationTokens ++
          [context.config.confirmationToken transaction] } →
      Answered environment
        (registerResponse postgres context (context.config.confirmationToken transaction)) reply →
      RegisterEnds reply after

def confirmedResponse : Response where
  status := 200
  headers := responseHeaders jsonContentType
  payload := .text (bytes "\x7b\"message\":\"Account confirmed. You can now sign in.\"\x7d")

/-- The tables after the confirmation of a token by its owner. -/
def Database.confirm (database : Database) (transaction : Transaction)
    (row : ConfirmationTokenRow) : Database :=
  { database with
    confirmationTokens := Table.update (fun other => other.token = row.token)
      (consume transaction) database.confirmationTokens
    users := Table.update (fun user => user.id = row.userId) (confirmUser transaction)
      database.users }

/-- The confirmation token of the body. -/
def confirmText (json : Option Json) : Option Bytes :=
  portalHttpJsonString json (bytes "token") portalHttpUuidTextLength portalHttpUuidTextLength

inductive ConfirmEnds : Option Response → World → Prop where
  | invalid {reply : Option Response} : confirmText json = none →
      Answered environment (errorResponse 400 "validation_error"
        "A confirmation token is required.") reply →
      ConfirmEnds reply world
  | rejected {reply : Option Response} {after : World} {text : Bytes} :
      confirmText json = some text → world.Kept after →
      (world.Smooth environment → after.Smooth environment ∧
        ∀ row ∈ world.database.confirmationTokens, ∀ token, postgres.castText text = some token →
          consumable after.clock token row = false) →
      Answered environment (errorResponse 400 "invalid_confirmation_token"
        "The confirmation token is invalid or expired.") reply →
      ConfirmEnds reply after
  | confirmed {reply : Option Response} {after : World} {text : Bytes} {transaction : Transaction}
      {row : ConfirmationTokenRow} {user : UserRow} : confirmText json = some text →
      postgres.castText text = some row.token → environment.Offers transaction →
      transaction.now = after.clock → world.clock ≤ after.clock →
      after.connection = .connectionOk → row ∈ world.database.confirmationTokens →
      row.consumedAt = none → after.clock < row.expiresAt → user ∈ world.database.users →
      user.id = row.userId → after.database = world.database.confirm transaction row →
      Answered environment confirmedResponse reply → ConfirmEnds reply after

def loginResponse (session : AuthSessionRow) : Response :=
  jsonResponse 200 (loginJson (some (.tuples
    [[postgres.uuidOut session.token, postgres.timestampOut session.expiresAt]])))

inductive LoginEnds : Option Response → World → Prop where
  | invalid {reply : Option Response} : loginFields json = none →
      Answered environment (errorResponse 400 "validation_error"
        "email and password are required.") reply →
      LoginEnds reply world
  | failed {reply : Option Response} {after : World} {fields : LoginFields}
      {result : Option PgResult} : loginFields json = some fields →
      world.Failed postgres environment (fields.statement context.config) result after →
      Answered environment (errorResponse 500 "database_error" "Could not sign in.") reply →
      LoginEnds reply after
  | denied {reply : Option Response} {after : World} {fields : LoginFields} :
      loginFields json = some fields → (fields.statement context.config).Encoded →
      world.Kept after → after.connection = .connectionOk →
      (∀ user ∈ world.database.users,
        candidate postgres fields.email fields.password user = false) →
      Answered environment (errorResponse 401 "invalid_credentials"
        "Invalid credentials or unconfirmed account.") reply →
      LoginEnds reply after
  | opened {reply : Option Response} {after : World} {fields : LoginFields}
      {transaction : Transaction} {user : UserRow} : loginFields json = some fields →
      (fields.statement context.config).Encoded → environment.Offers transaction →
      transaction.now = after.clock →
      world.clock ≤ after.clock → after.connection = .connectionOk →
      user ∈ world.database.users →
      candidate postgres fields.email fields.password user = true →
      (∀ row ∈ world.database.authSessions,
        row.token ≠ (context.config.session transaction user).token) →
      after.database = { world.database with
        authSessions := world.database.authSessions ++ [context.config.session transaction user] } →
      Answered environment (loginResponse postgres (context.config.session transaction user))
        reply →
      LoginEnds reply after

def Database.logout (database : Database) (transaction : Transaction) (token : Uuid) : Database :=
  { database with
    authSessions := Table.update (revocable token) (revoke transaction) database.authSessions }

inductive LogoutEnds : Option Response → World → Prop where
  | unauthorized {reply : Option Response} {after : World} :
      Refused postgres environment request world after →
      Answered environment unauthorizedResponse reply → LogoutEnds reply after
  | failed {reply : Option Response} {middle after : World} {text : Bytes} {token : Uuid}
      {session : AuthSessionRow} {user : UserRow} {result : Option PgResult} :
      Admitted postgres environment request world text token session user middle →
      middle.Failed postgres environment (.logout text) result after →
      Answered environment (errorResponse 500 "database_error" "Could not close the session.")
        reply →
      LogoutEnds reply after
  | closed {reply : Option Response} {middle after : World} {text : Bytes} {token : Uuid}
      {session : AuthSessionRow} {user : UserRow} {transaction : Transaction} :
      Admitted postgres environment request world text token session user middle →
      environment.Offers transaction → transaction.now = after.clock →
      middle.clock ≤ after.clock → after.connection = .connectionOk →
      after.database = world.database.logout transaction token →
      Answered environment (textResponse 204 []) reply → LogoutEnds reply after

end Ends

section Runs

variable {postgres : Postgres} {environment : Environment} {context : PortalHttpContext}
  {json : Option Json} {request : Request} {exchange : Exchange}

theorem run_portalHttpRouteRegister :
    (portalHttpRouteRegister context json).run (interpret postgres environment) exchange =
      match registerFields json with
      | none => exchange.answer environment environment.reports
          (errorResponse 400 "validation_error"
            "email, display_name and a password of at least 12 characters are required.")
      | some fields =>
        let queried := exchange.query postgres environment (fields.statement context.config)
        if portalDatabaseResultStatus queried.1 ≠ .tuples then
          queried.2.answer environment environment.reports (registerFailure queried.1)
        else
          queried.2.answer environment environment.describes
            (jsonResponse 201 (registerJson context queried.1)) := by
  unfold portalHttpRouteRegister registerFields
  cases readEmail : portalHttpJsonString json (bytes "email") 5 254 with
  | none => simp
  | some email =>
  cases readPassword : portalHttpJsonString json (bytes "password") 12 256 with
  | none => simp
  | some password =>
  cases readName : portalHttpJsonString json (bytes "display_name") 1 100 with
  | none => simp
  | some displayName =>
      cases accepted : portalValidationEmail (some email) with
      | false => simp [accepted]
      | true =>
          obtain ⟨written, short⟩ := context.config.snprintf_confirmationTtl
          have fits : ¬ (12 : Int) ≤ context.config.confirmationTtl.length := by omega
          have positive : ¬ (context.config.confirmationTtl.length : Int) < 0 := by omega
          simp only [accepted, portalValidationLowercaseCopy_validated accepted, written]
          generalize asked : (Statement.register (email.map toLower) password displayName
            context.config.confirmationTtl) = statement
          by_cases status :
              portalDatabaseResultStatus (exchange.query postgres environment statement).1 = .tuples
          · cases granted : environment.grants .responseObject <;>
              simp [RegisterFields.statement, Environment.describes, fits, asked, status, granted,
                positive]
          · cases violated : portalDatabaseResultIsUniqueViolation
                (exchange.query postgres environment statement).1 <;>
              simp [RegisterFields.statement, registerFailure, fits, asked, status, violated,
                positive]

private theorem executeRegister_created {fields : RegisterFields} {transaction : Transaction}
    {config : PortalConfig} {database after : Database} {outcome : PgResult}
    (lawful : postgres.Lawful)
    (executed : execute postgres transaction (fields.statement config) database =
      .ok (outcome, after)) :
    (fields.statement config).Encoded ∧ (∀ row ∈ database.users,
        row.id ≠ (fields.user postgres transaction).id ∧ row.email ≠ fields.email) ∧
      (∀ row ∈ database.confirmationTokens,
        row.token ≠ (config.confirmationToken transaction).token) ∧
      after = { database with
        users := database.users ++ [fields.user postgres transaction]
        confirmationTokens := database.confirmationTokens ++
          [config.confirmationToken transaction] } ∧
      outcome = .tuples [[postgres.uuidOut (config.confirmationToken transaction).token,
        postgres.timestampOut (config.confirmationToken transaction).expiresAt]] := by
  obtain ⟨encoded, executed⟩ := execute_eq_ok.mp executed
  obtain ⟨hours, read, _, fresh, unused, same⟩ := executeRegister_eq_ok.mp executed
  obtain rfl : (config.confirmationTtlHours.toNat : Int) = hours := by
    simpa [config.int4In_confirmationTtl lawful] using read
  obtain ⟨rfl, rfl⟩ := Prod.mk.inj same
  exact ⟨encoded, fresh, unused, rfl, rfl⟩

theorem portalHttpRouteRegister_ends (lawful : postgres.Lawful) (silent : exchange.attempts = []) :
    RegisterEnds postgres environment context json exchange.world
      ((portalHttpRouteRegister context json).run (interpret postgres environment) exchange).2.reply
      ((portalHttpRouteRegister context json).run (interpret postgres environment)
        exchange).2.world := by
  rw [run_portalHttpRouteRegister]
  cases read : registerFields json with
  | none =>
      rw [Exchange.answer_world]
      exact .invalid read (Exchange.answer_answered silent (·.reports) _)
  | some fields =>
      have quiet : (exchange.query postgres environment (fields.statement context.config)).2.attempts
          = [] := by simp [silent]
      rcases exchange.query_cases postgres environment (fields.statement context.config) with
        failed | ⟨transaction, outcome, result, committed⟩
      · simp only [ne_eq, failed.status_ne, not_false_eq_true, ↓reduceIte, Exchange.answer_world]
        exact .failed read failed (Exchange.answer_answered quiet (·.reports) _)
      · obtain ⟨encoded, fresh, unused, database, rfl⟩ :=
          executeRegister_created lawful committed.executed
        simp only [result, portalDatabaseResultStatus_tuples, ne_eq, not_true_eq_false, ↓reduceIte,
          Exchange.answer_world]
        exact .created read encoded committed.offered committed.now committed.clock
          committed.connection fresh unused database
          (Exchange.answer_answered quiet (·.describes) _)

/-- A confirmation finds the one pending token with its owner, or nothing. -/
private theorem executeConfirm_cases {transaction : Transaction} {database after : Database}
    {text : Bytes} {outcome : PgResult} (valid : database.Valid postgres.lower)
    (executed : execute postgres transaction (.confirm text) database = .ok (outcome, after)) :
    ∃ token, postgres.castText text = some token ∧
      (((∀ row ∈ database.confirmationTokens, consumable transaction.now token row = false) ∧
          outcome = .tuples [] ∧ after = database) ∨
        ∃ row ∈ database.confirmationTokens, consumable transaction.now token row = true ∧
          ∃ user ∈ database.users, user.id = row.userId ∧
            outcome = .tuples [[postgres.uuidOut user.id]] ∧
            after = database.confirm transaction row) := by
  obtain ⟨encoded, executed⟩ := execute_eq_ok.mp executed
  obtain ⟨token, read, same⟩ := executeConfirm_eq_ok.mp executed
  have wellFormed : validUtf8 text = true := encoded text (List.mem_singleton_self _)
  refine ⟨token, by simp [Postgres.castText, wellFormed, read], ?_⟩
  obtain ⟨rfl, rfl⟩ := Prod.mk.inj same
  by_cases pending : ∃ row ∈ database.confirmationTokens, consumable transaction.now token row = true
  · right
    obtain ⟨row, stored, consumed⟩ := pending
    obtain ⟨user, known, owner⟩ := valid.tokenOwners row stored
    have keyed : ∀ other, consumable transaction.now token other = true → other.token = token := by
      intro other passes
      simp only [consumable, Bool.and_eq_true, decide_eq_true_eq] at passes
      exact passes.1.1
    have found : database.confirmationTokens.filter (consumable transaction.now token) = [row] :=
      Table.filter_eq_singleton valid.tokenKeys stored consumed fun other _ passes =>
        (keyed other passes).trans (keyed row consumed).symm
    have owns : ∀ other, ownsOneOf [row] other = decide (other.id = row.userId) := by
      intro other
      simp [ownsOneOf, eq_comm]
    have owners : database.users.filter (ownsOneOf [row]) = [user] :=
      Table.filter_eq_singleton valid.userIds known (by simp [owns, owner]) fun other _ passes => by
        simpa [owns, owner] using passes
    refine ⟨row, stored, consumed, user, known, owner, by simp [found, owners], ?_⟩
    have tokens : Table.update (consumable transaction.now token) (consume transaction)
        database.confirmationTokens = Table.update (fun other => other.token = row.token)
          (consume transaction) database.confirmationTokens := by
      apply Table.update_congr
      intro other member
      by_cases same : other.token = row.token
      · obtain rfl := Table.eq_of_key valid.tokenKeys member stored same
        simp [consumed]
      · simp only [same, decide_false]
        exact Bool.eq_false_iff.mpr fun passes =>
          same ((keyed other passes).trans (keyed row consumed).symm)
    have users : Table.update (ownsOneOf [row]) (confirmUser transaction) database.users =
        Table.update (fun other => other.id = row.userId) (confirmUser transaction)
          database.users :=
      Table.update_congr fun other _ => owns other
    rw [found, tokens, users, Database.confirm]
  · left
    have none : ∀ row ∈ database.confirmationTokens, consumable transaction.now token row = false :=
      fun row member => Bool.eq_false_iff.mpr fun passes => pending ⟨row, member, passes⟩
    have found : database.confirmationTokens.filter (consumable transaction.now token) = [] := by
      simpa [List.filter_eq_nil_iff] using none
    have nobody : ∀ user ∈ database.users, ownsOneOf [] user = false := fun _ _ => rfl
    have owners : database.users.filter (ownsOneOf []) = [] := by
      simpa [List.filter_eq_nil_iff] using nobody
    refine ⟨none, by simp [found, owners], ?_⟩
    rw [found, Table.update_eq_self none, Table.update_eq_self nobody]

theorem portalHttpRouteConfirm_ends {exchange : Exchange}
    (valid : exchange.world.database.Valid postgres.lower) (silent : exchange.attempts = []) :
    ConfirmEnds postgres environment json exchange.world
      ((portalHttpRouteConfirm json).run (interpret postgres environment) exchange).2.reply
      ((portalHttpRouteConfirm json).run (interpret postgres environment) exchange).2.world := by
  unfold portalHttpRouteConfirm
  cases read : portalHttpJsonString json (bytes "token") portalHttpUuidTextLength
      portalHttpUuidTextLength with
  | none =>
      simp only [run_portalHttpResponseError, Exchange.answer_world]
      exact .invalid read (Exchange.answer_answered silent (·.reports) _)
  | some text =>
      have quiet : (exchange.query postgres environment (.confirm text)).2.attempts = [] := by
        simp [silent]
      simp only [Program.run_bind, run_portalDatabaseQuery]
      rcases exchange.query_cases postgres environment (.confirm text) with
        failed | ⟨transaction, outcome, result, committed⟩
      · rw [if_pos (by simp [failed.status])]
        simp only [run_portalHttpResponseError, Exchange.answer_world]
        refine .rejected read failed.kept (fun smooth => ?_)
          (Exchange.answer_answered quiet (·.reports) _)
        obtain ⟨still, transaction, failure, _, _, refused, _⟩ := failed.cause smooth
        refine ⟨still, ?_⟩
        intro row _ token cast
        simp [execute_confirm_error refused] at cast
      · obtain ⟨token, cast, ⟨none, rfl, same⟩ | ⟨row, stored, consumed, user, known, owner, rfl, same⟩⟩ :=
          executeConfirm_cases valid committed.executed
        · rw [result, if_pos (by simp)]
          simp only [run_portalHttpResponseError, Exchange.answer_world]
          refine .rejected read ⟨same, committed.clock⟩
            (fun smooth => ⟨⟨smooth.healthy, committed.connection⟩, ?_⟩)
            (Exchange.answer_answered quiet (·.reports) _)
          intro row member other otherCast
          obtain rfl : token = other := by simpa [cast] using otherCast
          exact committed.now ▸ none row member
        · rw [result, if_neg (by simp)]
          simp only [run_portalHttpResponseBytes, Exchange.answer_world]
          simp only [consumable, Bool.and_eq_true, decide_eq_true_eq, gt_iff_lt,
            Option.isNone_iff_eq_none] at consumed
          obtain ⟨⟨rfl, unconsumed⟩, unexpired⟩ := consumed
          exact .confirmed read cast committed.offered committed.now committed.clock
            committed.connection stored unconsumed (committed.now ▸ unexpired) known owner same
            (Exchange.answer_answered quiet (·.builds) _)

theorem run_portalHttpRouteLogin :
    (portalHttpRouteLogin context json).run (interpret postgres environment) exchange =
      match loginFields json with
      | none => exchange.answer environment environment.reports
          (errorResponse 400 "validation_error" "email and password are required.")
      | some fields =>
        let queried := exchange.query postgres environment (fields.statement context.config)
        if portalDatabaseResultStatus queried.1 ≠ .tuples then
          queried.2.answer environment environment.reports
            (errorResponse 500 "database_error" "Could not sign in.")
        else if portalDatabaseResultRowCount queried.1 ≠ 1 then
          queried.2.answer environment environment.reports (errorResponse 401 "invalid_credentials"
            "Invalid credentials or unconfirmed account.")
        else
          queried.2.answer environment environment.describes
            (jsonResponse 200 (loginJson queried.1)) := by
  unfold portalHttpRouteLogin loginFields
  cases readEmail : portalHttpJsonString json (bytes "email") 5 254 with
  | none => simp
  | some email =>
  cases readPassword : portalHttpJsonString json (bytes "password") 1 256 with
  | none => simp
  | some password =>
      cases accepted : portalValidationEmail (some email) with
      | false => simp [accepted]
      | true =>
          obtain ⟨written, short⟩ := context.config.snprintf_tokenTtl
          have fits : ¬ (12 : Int) ≤ context.config.tokenTtl.length := by omega
          have positive : ¬ (context.config.tokenTtl.length : Int) < 0 := by omega
          simp only [accepted, portalValidationLowercaseCopy_validated accepted, written]
          generalize asked : (Statement.login (email.map toLower) password
            context.config.tokenTtl) = statement
          by_cases status :
              portalDatabaseResultStatus (exchange.query postgres environment statement).1 = .tuples
          · by_cases single :
                portalDatabaseResultRowCount (exchange.query postgres environment statement).1 = 1
            · cases granted : environment.grants .responseObject <;>
                simp [LoginFields.statement, Environment.describes, fits, asked, status, single,
                  granted, positive]
            · simp [LoginFields.statement, fits, asked, status, single, positive]
          · simp [LoginFields.statement, authDatabaseError, fits, asked, status, positive]

/-- The search of a login finds the one account of the email, or none. -/
theorem filter_candidate {database : Database} (valid : database.Valid postgres.lower)
    (email password : Bytes) :
    ((∀ user ∈ database.users, candidate postgres email password user = false) ∧
        database.users.filter (candidate postgres email password) = []) ∨
      ∃ user ∈ database.users, candidate postgres email password user = true ∧
        database.users.filter (candidate postgres email password) = [user] := by
  by_cases somebody : ∃ user ∈ database.users, candidate postgres email password user = true
  · right
    obtain ⟨user, known, accepted⟩ := somebody
    have keyed : ∀ other, candidate postgres email password other = true → other.email = email := by
      intro other passes
      simp only [candidate, Bool.and_eq_true, decide_eq_true_eq] at passes
      exact passes.1.1
    exact ⟨user, known, accepted, Table.filter_eq_singleton valid.userEmails known accepted
      fun other _ passes => (keyed other passes).trans (keyed user accepted).symm⟩
  · left
    have none : ∀ user ∈ database.users, candidate postgres email password user = false :=
      fun user member => Bool.eq_false_iff.mpr fun passes => somebody ⟨user, member, passes⟩
    exact ⟨none, by simpa [List.filter_eq_nil_iff] using none⟩

private theorem executeLogin_cases {fields : LoginFields} {transaction : Transaction}
    {config : PortalConfig} {database after : Database} {outcome : PgResult}
    (lawful : postgres.Lawful) (valid : database.Valid postgres.lower)
    (executed : execute postgres transaction (fields.statement config) database =
      .ok (outcome, after)) :
    (fields.statement config).Encoded ∧
    (((∀ user ∈ database.users, candidate postgres fields.email fields.password user = false) ∧
        outcome = .tuples [] ∧ after = database) ∨
      ∃ user ∈ database.users, candidate postgres fields.email fields.password user = true ∧
        (∀ row ∈ database.authSessions, row.token ≠ (config.session transaction user).token) ∧
        outcome = .tuples [[postgres.uuidOut (config.session transaction user).token,
          postgres.timestampOut (config.session transaction user).expiresAt]] ∧
        after = { database with
          authSessions := database.authSessions ++ [config.session transaction user] }) := by
  obtain ⟨encoded, executed⟩ := execute_eq_ok.mp executed
  refine ⟨encoded, ?_⟩
  obtain ⟨hours, sessions, read, rfl, unique, same⟩ := executeLogin_eq_ok.mp executed
  obtain rfl : (config.tokenTtlHours.toNat : Int) = hours := by
    simpa [config.int4In_tokenTtl lawful] using read
  obtain ⟨rfl, rfl⟩ := Prod.mk.inj same
  obtain ⟨none, found⟩ | ⟨user, known, accepted, found⟩ :=
    filter_candidate valid fields.email fields.password
  · exact .inl ⟨none, by simp [found], by simp [found]⟩
  · right
    rw [found] at unique ⊢
    refine ⟨user, known, accepted, ?_, rfl, rfl⟩
    intro row member same
    simp only [List.map_append, List.nodup_append] at unique
    exact unique.2.2 _ (List.mem_map_of_mem member) _ (List.mem_singleton_self _) same

theorem portalHttpRouteLogin_ends (lawful : postgres.Lawful)
    (valid : exchange.world.database.Valid postgres.lower) (silent : exchange.attempts = []) :
    LoginEnds postgres environment context json exchange.world
      ((portalHttpRouteLogin context json).run (interpret postgres environment) exchange).2.reply
      ((portalHttpRouteLogin context json).run (interpret postgres environment)
        exchange).2.world := by
  rw [run_portalHttpRouteLogin]
  cases read : loginFields json with
  | none =>
      rw [Exchange.answer_world]
      exact .invalid read (Exchange.answer_answered silent (·.reports) _)
  | some fields =>
      have quiet : (exchange.query postgres environment (fields.statement context.config)).2.attempts
          = [] := by simp [silent]
      simp only
      rcases exchange.query_cases postgres environment (fields.statement context.config) with
        failed | ⟨transaction, outcome, result, committed⟩
      · rw [if_pos failed.status_ne.1, Exchange.answer_world]
        exact .failed read failed (Exchange.answer_answered quiet (·.reports) _)
      · obtain ⟨encoded, ⟨nobody, rfl, same⟩ | ⟨user, known, accepted, unused, rfl, same⟩⟩ :=
          executeLogin_cases lawful valid committed.executed
        · rw [result, if_neg (by simp), if_pos (by simp), Exchange.answer_world]
          exact .denied read encoded ⟨same, committed.clock⟩ committed.connection nobody
            (Exchange.answer_answered quiet (·.reports) _)
        · rw [result, if_neg (by simp), if_neg (by simp), Exchange.answer_world]
          exact .opened read encoded committed.offered committed.now committed.clock
            committed.connection known accepted unused same
            (Exchange.answer_answered quiet (·.describes) _)

theorem portalHttpRouteLogout_ends (lawful : postgres.Lawful)
    (valid : exchange.world.database.Valid postgres.lower) (idle : exchange.Idle) :
    LogoutEnds postgres environment request exchange.world
      ((portalHttpRouteLogout request).run (interpret postgres environment) exchange).2.reply
      ((portalHttpRouteLogout request).run (interpret postgres environment)
        exchange).2.world := by
  unfold portalHttpRouteLogout
  obtain ⟨result, middle, looked, still, ends⟩ :=
    portalHttpAuthenticate_ends environment request lawful valid idle.statements
  have calm : middle.attempts = [] := still.trans idle.attempts
  simp only [Program.run_bind, looked]
  rcases ends.required with ⟨outside, refused⟩ | ⟨text, token, session, user, rfl, admitted⟩
  · rw [if_pos outside]
    simp only [run_portalHttpResponseError, Exchange.answer_world]
    exact .unauthorized refused (Exchange.answer_answered calm (·.reports) _)
  · have sent : (request.authorization.getD []).drop 7 = text := by
      simp [(bearerToken_eq_some.mp admitted.bearer).1]
    have quiet : (middle.query postgres environment (.logout text)).2.attempts = [] := by
      simp [calm]
    rw [if_neg (by simp)]
    simp only [Program.run_bind, run_portalDatabaseQuery, sent]
    rcases middle.query_cases postgres environment (.logout text) with
      failed | ⟨transaction, outcome, result, committed⟩
    · rw [if_pos failed.status_ne.2]
      simp only [authDatabaseError, run_portalHttpResponseError, Exchange.answer_world]
      exact .failed admitted failed (Exchange.answer_answered quiet (·.reports) _)
    · obtain ⟨id, cast, ran⟩ := execute_logout_ok committed.executed
      obtain rfl : token = id := by simpa [admitted.cast] using cast
      obtain ⟨rfl, same⟩ := Prod.mk.inj ran
      rw [result, if_neg (by simp)]
      simp only [run_portalHttpResponseEmpty, Exchange.answer_world]
      exact .closed admitted committed.offered committed.now committed.clock committed.connection
        (same.trans (by rw [admitted.kept.database, Database.logout]))
        (Exchange.answer_answered quiet (·.builds) _)

end Runs

end PortalApi
