import PortalApi.Reference
import PortalApi.Confirmation

/-! The fixed-size buffers of the request path hold every text that is written
to them. -/

set_option autoImplicit false

namespace PortalApi

open Library

/-- A buffer of this size takes the whole text and its terminator. -/
structure Fits (size : Nat) (text : Bytes) : Prop where
  written : snprintf size text = ((text.length : Int), text)
  short : text.length < size

theorem Fits.of_short {size : Nat} {text : Bytes} (short : text.length < size) : Fits size text where
  written := by simp [snprintf, List.take_of_length_le (show text.length ≤ size - 1 by omega)]
  short := short

/-- What `activity_load_actor` returns for a request that arrives in this world. -/
def Service.loadActor (service : Service) (call : Call) (json : Option Json) (world : World) :
    PortalAuthStatus × PortalActivityActor :=
  ((activityLoadActor call.request json).run (interpret service.postgres call.environment)
    world.exchange).1

/-- Every buffer of the request path holds its text whole, and no branch behind
a truncation is taken. -/
structure BuffersHold (service : Service) (world : World) : Prop where
  -- `user->id[37]` and `user->email[256]`
  user : ∀ call found, service.authenticate call world = (.authenticated, found) →
    ∃ user ∈ world.database.users, Fits 37 (service.postgres.uuidOut user.id) ∧
      Fits 256 user.email ∧ found = { id := service.postgres.uuidOut user.id, email := user.email }
  -- `actor_key[205]` of a user
  userKey : ∀ call json found, service.authenticate call world = (.authenticated, found) →
    Fits 205 (bytes "u:" ++ found.id) ∧ service.loadActor call json world =
      (.authenticated, ⟨found, anonymousIdText json, bytes "u:" ++ found.id⟩)
  -- `actor_key[205]` of an anonymous identifier
  anonymousKey : ∀ call json id found, service.authenticate call world = (.anonymous, found) →
    anonymousIdText json = some id → portalValidationAnonymousId (some id) = true →
    Fits 205 (bytes "a:" ++ id) ∧ service.loadActor call json world =
      (.anonymous, ⟨found, some id, bytes "a:" ++ id⟩)
  -- `normalized_email[255]`
  normalizedEmail : ∀ email, portalValidationEmail (some email) = true →
    email.length < 255 ∧ portalValidationLowercaseCopy 255 (some email) = some (email.map toLower)
  -- `ttl[12]` of the two routes that have one
  ttl : Fits 12 (decimal service.config.confirmationTtlHours.toNat) ∧
    Fits 12 (decimal service.config.tokenTtlHours.toNat)
  -- `days_buffer[12]` and `limit_buffer[12]`
  range : ∀ request range, topContentRange request = some range →
    Fits 12 (signedDecimal range.days) ∧ Fits 12 (signedDecimal range.limit)
  -- `content_id[301]` of a like
  like : ∀ (call : Call) contentId json,
    call.request.routed (service.parsed call) = (.like contentId, json) →
    contentId.length < 301 ∧ call.request.url = bytes "/content/" ++ contentId ++ bytes "/like"
  -- `content_id[301]` of a comment
  comment : ∀ (call : Call) contentId json,
    call.request.routed (service.parsed call) = (.comment contentId, json) →
    contentId.length < 301 ∧ call.request.url = bytes "/content/" ++ contentId ++ bytes "/comments"

section Buffers

variable {service : Service} {call : Call} {world : World} {found : PortalAuthenticatedUser}

theorem registerFields_short {json : Option Json} {fields : RegisterFields}
    (read : registerFields json = some fields) : fields.email.length ≤ 254 := by
  unfold registerFields at read
  split at read
  · next readEmail _ _ =>
      split at read
      · obtain rfl := Option.some.inj read
        simpa using (portalHttpJsonString_eq_some.mp readEmail).2.2
      · cases read
  · cases read

/-- The user that the lookup finds is a stored one. -/
theorem Service.authenticate_stored (lawful : service.postgres.Lawful)
    (valid : world.database.Valid service.postgres.lower)
    (entered : service.authenticate call world = (.authenticated, found)) :
    ∃ user ∈ world.database.users, found = authenticatedUser service.postgres user := by
  have valid : world.exchange.world.database.Valid service.postgres.lower := valid
  obtain ⟨result, after, ran, _, ends⟩ :=
    portalHttpAuthenticate_ends call.environment call.request lawful valid rfl
  have same : result = (.authenticated, found) := by
    rw [← entered, Service.authenticate, ran]
  subst same
  cases ends with
  | authenticated admitted => exact ⟨_, admitted.live.user_mem, rfl⟩

theorem signedDecimal_fits {number : Int} (bounds : 1 ≤ number ∧ number ≤ 365) :
    Fits 12 (signedDecimal number) := by
  have short : (decimal number.natAbs).length ≤ 3 := length_decimal_le (by omega) (by omega)
  apply Fits.of_short
  rw [signedDecimal, if_neg (by omega)]
  omega

theorem Service.loadActor_user (entered : service.authenticate call world = (.authenticated, found))
    (json : Option Json) (fits : Fits 205 (bytes "u:" ++ found.id)) :
    service.loadActor call json world =
      (.authenticated, ⟨found, anonymousIdText json, bytes "u:" ++ found.id⟩) := by
  have short := fits.short
  rw [Service.authenticate] at entered
  simp only [loadActor, activityLoadActor, Program.run_bind, entered, Program.run_pure, fits.written,
    anonymousIdText]
  rw [if_neg]
  simp only [Bool.or_eq_true, decide_eq_true_eq, not_or]
  omega

theorem Service.loadActor_anonymous (entered : service.authenticate call world = (.anonymous, found))
    {json : Option Json} {id : Bytes} (read : anonymousIdText json = some id)
    (valid : portalValidationAnonymousId (some id) = true) (fits : Fits 205 (bytes "a:" ++ id)) :
    service.loadActor call json world = (.anonymous, ⟨found, some id, bytes "a:" ++ id⟩) := by
  have short := fits.short
  have given : portalHttpJsonOptionalString json (bytes "anonymous_id") 200 = some id := read
  rw [Service.authenticate] at entered
  simp only [loadActor, activityLoadActor, Program.run_bind, entered, given, valid,
    Bool.not_true, Bool.false_eq_true, ↓reduceIte, Program.run_pure, Option.getD_some, fits.written]
  rw [if_neg]
  simp only [Bool.or_eq_true, decide_eq_true_eq, not_or]
  omega

theorem routed_like {request : Request} {parsed json : Option Json} {contentId : Bytes}
    (routed : request.routed parsed = (.like contentId, json)) :
    contentId.length < 301 ∧ request.url = bytes "/content/" ++ contentId ++ bytes "/like" := by
  have routes : Routes request parsed (request.routed parsed).1 (request.routed parsed).2 :=
    routed_routes
  rw [routed] at routes
  cases routes with
  | like _ content bounded _ => exact ⟨by omega, content.url⟩

theorem routed_comment {request : Request} {parsed json : Option Json} {contentId : Bytes}
    (routed : request.routed parsed = (.comment contentId, json)) :
    contentId.length < 301 ∧ request.url = bytes "/content/" ++ contentId ++ bytes "/comments" := by
  have routes : Routes request parsed (request.routed parsed).1 (request.routed parsed).2 :=
    routed_routes
  rw [routed] at routes
  cases routes with
  | comment _ content bounded _ => exact ⟨by omega, content.url⟩

end Buffers

/-- Whatever the environment variables and whatever was stored, the buffers
hold. -/
theorem buffers_hold {service : Service} (lawful : service.postgres.Lawful)
    {admits : Environment → Prop} {entries : List Service.Entry} {world : World}
    (run : service.Run admits entries world) : BuffersHold service world := by
  have valid := Service.Run.valid run
  have short : ∀ user ∈ world.database.users, user.email.length ≤ 254 :=
    Service.Run.emails lawful run (fun email => email.length ≤ 254) fun _ _ =>
      registerFields_short
  constructor
  case user =>
    intro call found entered
    obtain ⟨user, known, rfl⟩ := Service.authenticate_stored lawful valid entered
    have bounded := short user known
    refine ⟨user, known, Fits.of_short ?_, Fits.of_short (by omega), ?_⟩
    · rw [lawful.length_uuidOut]
      decide
    · rw [authenticatedUser, List.take_of_length_le (by omega)]
  case userKey =>
    intro call json found entered
    obtain ⟨user, known, rfl⟩ := Service.authenticate_stored lawful valid entered
    have fits : Fits 205 ((Actor.user user.id).key service.postgres) :=
      Fits.of_short ((Actor.user user.id).length_key lawful)
    exact ⟨fits, Service.loadActor_user entered json fits⟩
  case anonymousKey =>
    intro call json id found entered read accepted
    have fits : Fits 205 ((Actor.anonymous ⟨id, accepted⟩).key service.postgres) :=
      Fits.of_short ((Actor.anonymous ⟨id, accepted⟩).length_key lawful)
    exact ⟨fits, Service.loadActor_anonymous entered read accepted fits⟩
  case normalizedEmail =>
    intro email accepted
    obtain ⟨text, same, _, bounded⟩ := portalValidationEmail_length accepted
    obtain rfl := Option.some.inj same
    exact ⟨by omega, portalValidationLowercaseCopy_validated accepted⟩
  case ttl =>
    exact ⟨Fits.of_short service.config.snprintf_confirmationTtl.2,
      Fits.of_short service.config.snprintf_tokenTtl.2⟩
  case range =>
    intro request range read
    obtain ⟨days, limit⟩ := TopContentRange.bounds read
    exact ⟨signedDecimal_fits days, signedDecimal_fits ⟨limit.1, by omega⟩⟩
  case like =>
    intro call contentId json routed
    exact routed_like routed
  case comment =>
    intro call contentId json routed
    exact routed_comment routed

namespace Reference

/-- An environment with the longest lifetimes. -/
def getenv (name : String) : Option Bytes :=
  if name = "DATABASE_URL" then some (bytes "postgresql://portal@db/portal")
  else if name = "TOKEN_TTL_HOURS" then some (bytes "2160")
  else if name = "CONFIRMATION_TTL_HOURS" then some (bytes "720")
  else none

def longest : PortalConfig where
  databaseUrl := bytes "postgresql://portal@db/portal"
  port := 8080
  tokenTtlHours := 2160
  confirmationTtlHours := 720
  exposeConfirmationToken := false
  port_range := config.port_range
  tokenTtlHours_range := by decide
  confirmationTtlHours_range := by decide

end Reference

/-- The buffers after a sign-in under the longest lifetimes. -/
theorem buffers_hold_longest :
    portalConfigCreateFromEnvironment Reference.getenv true true = some Reference.longest ∧
      BuffersHold { Reference.signing with config := Reference.longest }
        (Reference.after { Reference.signing with config := Reference.longest }
          Reference.signedIn) :=
  ⟨rfl, buffers_hold Reference.lawful (Reference.run _ Reference.signedIn_healthy)⟩

end PortalApi
