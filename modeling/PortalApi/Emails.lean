import PortalApi.InternalErrors

/-! One account for each email up to the case of its ASCII letters. -/

set_option autoImplicit false

namespace PortalApi

open Library

/-- Equal when ASCII letters are compared without their case. -/
def SameEmail (first second : Bytes) : Prop := first.map toLower = second.map toLower

/-- `lower` leaves an ASCII text without upper-case letters as it is. -/
def Postgres.KeepsLowerCase (postgres : Postgres) : Prop :=
  ∀ text, Ascii text → text.map toLower = text → postgres.lower text = text

/-- The UUIDs that a registration draws are not in use. -/
structure Environment.FreshAccount (environment : Environment) (database : Database) : Prop where
  users : ∀ transaction, environment.Offers transaction → ∀ row ∈ database.users,
    row.id ≠ transaction.genRandomUuid .usersId 0
  confirmationTokens : ∀ transaction, environment.Offers transaction →
    ∀ row ∈ database.confirmationTokens,
      row.token ≠ transaction.genRandomUuid .confirmationTokensToken 0

def emailTakenResponse : Response :=
  errorResponse 409 "email_already_registered" "An account with this email already exists."

section LowerCase

variable {character : UInt8} {text : Bytes}

theorem toLower_toLower (character : UInt8) : toLower (toLower character) = toLower character := by
  unfold toLower isUpper
  grind

theorem map_toLower_idempotent (text : Bytes) :
    (text.map toLower).map toLower = text.map toLower := by
  rw [List.map_map]
  exact List.map_congr_left fun character _ => toLower_toLower character

theorem Ascii.map_toLower (ascii : Ascii text) : Ascii (text.map toLower) := by
  intro character member
  obtain ⟨old, present, rfl⟩ := List.mem_map.mp member
  have small := ascii old present
  unfold toLower isUpper
  grind

theorem strchr_map_toLower {sought : UInt8} (plain : ∀ character, toLower character = sought ↔ character = sought) :
    strchr sought (text.map toLower) = (strchr sought text).map (List.map toLower) := by
  induction text with
  | nil => rfl
  | cons head tail ih =>
      simp only [List.map_cons, strchr, plain]
      split
      · rfl
      · exact ih

theorem toLower_eq_plain {sought : UInt8} (plain : sought = 32 ∨ sought = 46 ∨ sought = 64)
    (character : UInt8) : toLower character = sought ↔ character = sought := by
  unfold toLower isUpper
  grind

theorem strchr_suffix {sought : UInt8} {found : Bytes} (at_ : strchr sought text = some found) :
    found <:+ text := by
  induction text with
  | nil => cases at_
  | cons head tail ih =>
      unfold strchr at at_
      split at at_
      · exact Option.some.inj at_ ▸ List.suffix_rfl
      · exact (ih at_).trans (List.suffix_cons head tail)

theorem portalValidationEmail_map_toLower (text : Bytes) :
    portalValidationEmail (some (text.map toLower)) = portalValidationEmail (some text) := by
  unfold portalValidationEmail
  simp only [List.length_map, strchr_map_toLower (toLower_eq_plain (.inl rfl)),
    strchr_map_toLower (toLower_eq_plain (.inr (.inr rfl))), Option.isSome_map]
  split
  · rfl
  · cases found : strchr 64 text with
    | none => rfl
    | some rest =>
        have whole : rest.map toLower = text.map toLower ↔ rest = text := by
          constructor
          · intro same
            have length : rest.length = text.length := by simpa using congrArg List.length same
            exact (strchr_suffix found).eq_of_length length
          · intro same
            rw [same]
        have domain : strchr 46 (rest.map toLower).tail =
            (strchr 46 rest.tail).map (List.map toLower) := by
          rw [← List.map_tail, strchr_map_toLower (toLower_eq_plain (.inr (.inl rfl)))]
        have first : (rest.map toLower != text.map toLower) = (rest != text) := by
          apply Bool.eq_iff_iff.mpr
          simp only [bne_iff_ne, ne_eq, whole]
        have second : ((rest.map toLower).tail != []) = (rest.tail != []) := by
          cases rest with
          | nil => rfl
          | cons head tail => cases tail <;> rfl
        simp only [Option.map_some, domain, Option.isSome_map, first, second]

end LowerCase

section Fields

variable {json : Option Json} {email : Bytes}

theorem registerFields_email {fields : RegisterFields} (read : registerFields json = some fields)
    (sent : jsonText json (bytes "email") = some email) : fields.email = email.map toLower := by
  unfold registerFields at read
  split at read
  · next given _ _ readEmail _ _ =>
      obtain ⟨found, _⟩ := portalHttpJsonString_eq_some.mp readEmail
      obtain rfl := Option.some.inj (sent.symm.trans found)
      split at read
      · obtain rfl := Option.some.inj read
        rfl
      · cases read
  · cases read

/-- What login reads of an email is the same for all its spellings. -/
theorem loginFields_congr {other : Option Json} {spelling : Bytes}
    (sent : jsonText json (bytes "email") = some email)
    (also : jsonText other (bytes "email") = some spelling) (same : SameEmail email spelling)
    (password : jsonText json (bytes "password") = jsonText other (bytes "password")) :
    loginFields json = loginFields other := by
  have length : email.length = spelling.length := by simpa using congrArg List.length same
  have valid : portalValidationEmail (some email) = portalValidationEmail (some spelling) := by
    rw [← portalValidationEmail_map_toLower email, same, portalValidationEmail_map_toLower]
  have passwords : portalHttpJsonString json (bytes "password") 1 256 =
      portalHttpJsonString other (bytes "password") 1 256 := by
    rw [portalHttpJsonString, password, portalHttpJsonString]
  have lowered : email.map toLower = spelling.map toLower := same
  have first : portalHttpJsonString json (bytes "email") 5 254 =
      if spelling.length ≥ 5 && spelling.length ≤ 254 then some email else none := by
    simp only [portalHttpJsonString, sent, length]
  have second : portalHttpJsonString other (bytes "email") 5 254 =
      if spelling.length ≥ 5 && spelling.length ≤ 254 then some spelling else none := by
    simp only [portalHttpJsonString, also]
  unfold loginFields
  rw [passwords, first, second]
  by_cases within : spelling.length ≥ 5 && spelling.length ≤ 254
  · simp only [within, ↓reduceIte]
    cases portalHttpJsonString other (bytes "password") 1 256 with
    | none => rfl
    | some password => simp only [valid, lowered]
  · simp only [within, Bool.false_eq_true, ↓reduceIte]

end Fields

section Stored

variable {service : Service} {world : World}

theorem registerFields_lowered {json : Option Json} {fields : RegisterFields}
    (read : registerFields json = some fields) : fields.email.map toLower = fields.email := by
  unfold registerFields at read
  split at read
  · split at read
    · obtain rfl := Option.some.inj read
      exact map_toLower_idempotent _
    · cases read
  · cases read

theorem Service.Run.lowered {admits : Environment → Prop} {entries : List Service.Entry}
    (lawful : service.postgres.Lawful) (run : service.Run admits entries world) :
    ∀ user ∈ world.database.users, user.email.map toLower = user.email :=
  Service.Run.emails lawful run (fun email => email.map toLower = email) fun _ _ =>
    registerFields_lowered

theorem RegisterFields.execute_total {postgres : Postgres} {transaction : Transaction}
    {database : Database} {config : PortalConfig} {fields : RegisterFields}
    (lawful : postgres.Lawful) (encoded : (fields.statement config).Encoded)
    (checked : (fields.user postgres transaction).check postgres.lower = true)
    (unused : ∀ row ∈ database.users,
      row.id ≠ transaction.genRandomUuid .usersId 0 ∧ row.email ≠ fields.email)
    (fresh : ∀ row ∈ database.confirmationTokens,
      row.token ≠ transaction.genRandomUuid .confirmationTokensToken 0) :
    ∃ outcome, execute postgres transaction (fields.statement config) database = .ok outcome :=
  ⟨_, execute_eq_ok.mpr ⟨encoded, executeRegister_eq_ok.mpr
    ⟨_, config.int4In_confirmationTtl lawful, checked, unused, fresh, rfl⟩⟩⟩

end Stored

/-- What emails that differ in case only have to do with one another. -/
structure EmailsFold (service : Service) (world : World) : Prop where
  unique : ∀ user ∈ world.database.users, ∀ other ∈ world.database.users,
    SameEmail user.email other.email → user = other
  registration : ∀ (call : Call) (fields : RegisterFields) (email : Bytes),
    call.environment.Healthy → call.environment.FreshAccount world.database →
    call.request.At "POST" "/auth/register" → registerFields (service.body call) = some fields →
    jsonText (service.body call) (bytes "email") = some email → Ascii email →
    validUtf8 fields.password = true → validUtf8 fields.displayName = true →
    ((∃ user ∈ world.database.users, SameEmail user.email email) ∧
        (service.serve call world).1 = some emailTakenResponse ∧
        (service.serve call world).2.database = world.database) ∨
      ((¬ ∃ user ∈ world.database.users, SameEmail user.email email) ∧
        statusOf (service.serve call world).1 = some 201)
  login : ∀ (first second : Call) (email spelling : Bytes),
    first.request.At "POST" "/auth/login" → second.request.At "POST" "/auth/login" →
    first.environment = second.environment →
    jsonText (service.body first) (bytes "email") = some email →
    jsonText (service.body second) (bytes "email") = some spelling → SameEmail email spelling →
    jsonText (service.body first) (bytes "password") =
      jsonText (service.body second) (bytes "password") →
    loginFields (service.body first) = loginFields (service.body second) ∧
      service.serve first world = service.serve second world
  validation : ∀ email, portalValidationEmail (some email) = true →
    portalValidationEmail (some (email.map toLower)) = true ∧
      portalValidationLowercaseCopy 255 (some email) = some (email.map toLower)

section Requests

variable {service : Service} {world : World}

theorem Service.serve_login {call : Call} {json : Json}
    (post : call.request.At "POST" "/auth/login") (body : service.body call = some json) :
    service.serve call world =
      let done := (portalHttpRouteLogin service.context (some json)).run
        (interpret service.postgres call.environment) world.exchange
      (done.2.reply, done.2.world) := by
  have parsed : call.environment.parse service.jsonC call.request.body = some json :=
    (Service.body_post post.method).symm.trans body
  have listed : ("/auth/login", Endpoint.login) ∈ postEndpoints := by simp [postEndpoints]
  rw [serve, dispatch, run_httpDispatch, routed_post post listed, parsed]
  rfl

theorem Service.serve_login_congr {first second : Call}
    (firstPost : first.request.At "POST" "/auth/login")
    (secondPost : second.request.At "POST" "/auth/login")
    (environment : first.environment = second.environment) {json other : Json}
    (firstBody : service.body first = some json) (secondBody : service.body second = some other)
    (fields : loginFields (some json) = loginFields (some other)) :
    service.serve first world = service.serve second world := by
  rw [Service.serve_login firstPost firstBody, Service.serve_login secondPost secondBody,
    run_portalHttpRouteLogin, run_portalHttpRouteLogin, fields, environment]

/-- A registration with texts that the server can take is refused for a known
email only. -/
theorem registerEnds_taken (lawful : service.postgres.Lawful)
    (keeps : service.postgres.KeepsLowerCase) {call : Call} {json : Option Json}
    {reply : Option Response} {after : World} (smooth : world.Smooth call.environment)
    (fresh : call.environment.FreshAccount world.database) {fields : RegisterFields}
    (read : registerFields json = some fields) (ascii : Ascii fields.email)
    (password : validUtf8 fields.password = true) (displayName : validUtf8 fields.displayName = true)
    (ends : RegisterEnds service.postgres call.environment service.context json world reply after) :
    ((∃ user ∈ world.database.users, user.email = fields.email) ∧
        reply = some emailTakenResponse ∧ after.database = world.database) ∨
      ((¬ ∃ user ∈ world.database.users, user.email = fields.email) ∧
        statusOf reply = some 201) := by
  have healthy := smooth.healthy
  have encoded : (fields.statement service.config).Encoded :=
    RegisterFields.encoded_iff.mpr ⟨ascii.validUtf8, password, displayName⟩
  have checked : ∀ transaction,
      (fields.user service.postgres transaction).check service.postgres.lower = true := by
    intro transaction
    apply (RegisterFields.check_iff read displayName).mpr
    exact (keeps fields.email ascii (registerFields_lowered read)).symm
  cases ends with
  | invalid none _ => cases none.symm.trans read
  | @failed _ other result again failed answered =>
      obtain rfl := Option.some.inj (read.symm.trans again)
      obtain ⟨_, transaction, failure, offered, _, refused, rfl⟩ := failed.cause smooth
      left
      refine ⟨?_, ?_, failed.kept.database⟩
      · apply Classical.byContradiction
        intro unknown
        have unused : ∀ row ∈ world.database.users,
            row.id ≠ transaction.genRandomUuid .usersId 0 ∧ row.email ≠ fields.email :=
          fun row member => ⟨fresh.users transaction offered row member,
            fun same => unknown ⟨row, member, same⟩⟩
        obtain ⟨outcome, ran⟩ := RegisterFields.execute_total lawful encoded
          (checked transaction) unused (fresh.confirmationTokens transaction offered)
        cases ran.symm.trans refused
      · have duplicate : failure = .uniqueViolation :=
          (RegisterFields.execute_refused lawful refused).mpr ⟨encoded, checked transaction⟩
        rw [answered.certain healthy, duplicate]
        rfl
  | @created _ other transaction again _ _ _ _ _ unused _ database answered =>
      obtain rfl := Option.some.inj (read.symm.trans again)
      right
      constructor
      · intro ⟨user, member, same⟩
        exact (unused user member).2 same
      · rw [answered.certain healthy]
        rfl

end Requests

/-- In every reachable state an email stands for one account whatever its case. -/
theorem emails_fold {service : Service} (lawful : service.postgres.Lawful)
    (keeps : service.postgres.KeepsLowerCase) {entries : List Service.Entry} {world : World}
    (run : service.Run Environment.Healthy entries world) : EmailsFold service world where
  unique := by
    intro user known other also same
    have lowered := Service.Run.lowered lawful run
    have emails : user.email = other.email := by
      rw [← lowered user known, ← lowered other also]
      exact same
    exact Table.eq_of_key (Service.Run.valid run).userEmails known also emails
  registration := by
    intro call fields email healthy fresh post read sent ascii password displayName
    have folded : fields.email = email.map toLower := registerFields_email read sent
    have stored : (∃ user ∈ world.database.users, SameEmail user.email email) ↔
        ∃ user ∈ world.database.users, user.email = fields.email := by
      constructor
      · intro ⟨user, known, same⟩
        refine ⟨user, known, ?_⟩
        rw [← Service.Run.lowered lawful run user known, folded]
        exact same
      · intro ⟨user, known, same⟩
        refine ⟨user, known, ?_⟩
        rw [SameEmail, Service.Run.lowered lawful run user known, same, folded]
    have lowered : Ascii fields.email := folded ▸ ascii.map_toLower
    have listed : ("/auth/register", Endpoint.register) ∈ postEndpoints := by
      simp [postEndpoints]
    rw [stored]
    cases body : service.body call with
    | none =>
        rw [body] at sent
        cases sent
    | some json =>
        exact registerEnds_taken lawful keeps ⟨healthy, Service.Run.connection run⟩ fresh read
          lowered password displayName
          (Service.serve_post lawful (Service.Run.valid run) post listed body)
  login := by
    intro first second email spelling firstPost secondPost environment sent also same password
    have fields := loginFields_congr sent also same password
    refine ⟨fields, ?_⟩
    cases firstBody : service.body first with
    | none =>
        rw [firstBody] at sent
        cases sent
    | some json =>
        cases secondBody : service.body second with
        | none =>
            rw [secondBody] at also
            cases also
        | some other =>
            rw [firstBody, secondBody] at fields
            exact Service.serve_login_congr firstPost secondPost environment firstBody secondBody
              fields
  validation := by
    intro email valid
    exact ⟨(portalValidationEmail_map_toLower email).trans valid,
      portalValidationLowercaseCopy_validated valid⟩

namespace Reference

theorem keepsLowerCase : postgres.KeepsLowerCase := by
  intro text ascii lowered
  change lower text = text
  induction text using lower.induct with
  | case1 second rest ih => exact absurd (ascii 0xC3 List.mem_cons_self) (by decide)
  | case2 first rest other ih =>
      obtain ⟨head, tail⟩ := List.cons.inj lowered
      rw [lower.eq_2 _ _ other, head, ih (fun character member =>
        ascii character (List.mem_cons_of_mem _ member)) tail]
  | case3 => rfl

def capitals : Members :=
  [("email", bytes "ANA@EXAMPLE.COM"), ("password", bytes "another-horse"),
    ("display_name", bytes "Ana")]

def doubling : Service := service (bodies [account, capitals])

theorem account_healthy : ∀ call ∈ [post "/auth/register" account 1 0],
    call.environment.Healthy := by
  simp [post, environment_healthy]

end Reference

/-- A second account for the email in capitals is refused. -/
theorem emails_fold_capitals :
    EmailsFold Reference.doubling
        (Reference.after Reference.doubling [Reference.post "/auth/register" Reference.account 1 0]) ∧
      statusOf (Reference.doubling.serve (Reference.post "/auth/register" Reference.capitals 2 0)
        (Reference.after Reference.doubling
          [Reference.post "/auth/register" Reference.account 1 0])).1 = some 409 :=
  ⟨emails_fold Reference.lawful Reference.keepsLowerCase
    (Reference.run _ Reference.account_healthy), by decide +kernel⟩

end PortalApi
