import PortalApi.Http.AuthenticationProperties
import PortalApi.Http.Routes.Activity
import PortalApi.TextProperties

/-! Who acts on the routes with optional authentication: the user of a live
session or an anonymous identifier, and how the two are written down. -/

set_option autoImplicit false

namespace PortalApi

open Library

/-- An identifier that `portal_validation_anonymous_id` accepts. -/
abbrev AnonymousId := { text : Bytes // portalValidationAnonymousId (some text) = true }

inductive Actor where
  | user (id : Uuid)
  | anonymous (id : AnonymousId)
  deriving DecidableEq

def Actor.userId : Actor → Option Uuid
  | .user id => some id
  | .anonymous _ => none

def Actor.anonymousId : Actor → Option Bytes
  | .user _ => none
  | .anonymous id => some id.val

/-- The `actor_key` column. -/
def Actor.key (postgres : Postgres) : Actor → Bytes
  | .user id => bytes "u:" ++ postgres.uuidOut id
  | .anonymous id => bytes "a:" ++ id.val

/-- The parameters that stand for the actor in the statements. -/
def Actor.userIdText (postgres : Postgres) (actor : Actor) : Bytes :=
  (actor.userId.map postgres.uuidOut).getD []

def Actor.anonymousIdText (actor : Actor) : Bytes := actor.anonymousId.getD []

section Actor

variable {postgres : Postgres}

theorem AnonymousId.length (id : AnonymousId) : 8 ≤ id.val.length ∧ id.val.length ≤ 200 := by
  obtain ⟨text, equal, atLeast, atMost, _⟩ := portalValidationAnonymousId_iff.mp id.property
  cases equal
  exact ⟨atLeast, atMost⟩

theorem AnonymousId.ascii (id : AnonymousId) : Ascii id.val := by
  obtain ⟨text, equal, _, _, characters⟩ := portalValidationAnonymousId_iff.mp id.property
  cases equal
  exact fun character member => isAnonymousIdCharacter_ascii (characters character member)

/-- Two actors never share a key: the first character tells the identity spaces
apart, and inside each the rest is read back. -/
theorem Actor.key_injective (lawful : postgres.Lawful) {first second : Actor}
    (same : first.key postgres = second.key postgres) : first = second := by
  have user : bytes "u:" = [117, 58] := by decide
  have anonymous : bytes "a:" = [97, 58] := by decide
  cases first with
  | user id =>
      cases second with
      | user other =>
          simp only [key, List.append_cancel_left_eq] at same
          rw [lawful.uuidOut_injective same]
      | anonymous other => simp [key, user, anonymous] at same
  | anonymous id =>
      cases second with
      | user other => simp [key, user, anonymous] at same
      | anonymous other =>
          simp only [key, List.append_cancel_left_eq] at same
          rw [Subtype.ext same]

/-- The whole key fits its buffer of 205 bytes. -/
theorem Actor.length_key (lawful : postgres.Lawful) (actor : Actor) :
    (actor.key postgres).length < 205 := by
  have user : (bytes "u:").length = 2 := by decide
  have anonymous : (bytes "a:").length = 2 := by decide
  cases actor with
  | user id => simp [key, lawful.length_uuidOut, user]
  | anonymous id =>
      have bounded := id.length.2
      simp only [key, List.length_append, anonymous]
      omega

theorem Actor.ascii_key (lawful : postgres.Lawful) (actor : Actor) :
    Ascii (actor.key postgres) := by
  have user : bytes "u:" = [117, 58] := by decide
  have anonymous : bytes "a:" = [97, 58] := by decide
  cases actor with
  | user id =>
      have ascii : Ascii (bytes "u:") := by simp [Ascii, user]
      exact ascii.append (lawful.ascii_uuidOut id)
  | anonymous id =>
      have ascii : Ascii (bytes "a:") := by simp [Ascii, anonymous]
      exact ascii.append id.ascii

theorem Actor.snprintf_key (lawful : postgres.Lawful) (actor : Actor) :
    snprintf 205 (actor.key postgres) =
      (((actor.key postgres).length : Int), actor.key postgres) := by
  have fits := actor.length_key lawful
  simp [snprintf, List.take_of_length_le (show (actor.key postgres).length ≤ 204 by omega)]

theorem Actor.nullIf_anonymousIdText (actor : Actor) :
    nullIf actor.anonymousIdText = actor.anonymousId := by
  cases actor with
  | user id => rfl
  | anonymous id =>
      have present : id.val ≠ [] := by
        intro empty
        have positive := id.length.1
        simp [empty] at positive
      simp [anonymousIdText, anonymousId, nullIf, present]

theorem Actor.nullIfUuid_userIdText (lawful : postgres.Lawful) (actor : Actor) :
    nullIfUuid postgres (actor.userIdText postgres) = .ok actor.userId := by
  cases actor with
  | user id =>
      have present : postgres.uuidOut id ≠ [] := by
        intro empty
        have length := lawful.length_uuidOut id
        simp [empty] at length
      simp [userIdText, userId, nullIfUuid, nullIf, present, castUuid, lawful.uuidIn_uuidOut]
  | anonymous id => rfl

end Actor

/-- The `anonymous_id` text of the body. -/
def anonymousIdText (json : Option Json) : Option Bytes :=
  portalHttpJsonOptionalString json (bytes "anonymous_id") 200

def invalidTokenResponse : Response :=
  errorResponse 401 "invalid_token" "The supplied Bearer token is invalid."

def anonymousIdRequiredResponse : Response :=
  errorResponse 400 "anonymous_id_required" "Anonymous actions need an opaque anonymous_id."

section Ends

variable (postgres : Postgres) (environment : Environment) (request : Request)
  (json : Option Json) (world : World)

/-- The actor a request acts as, and the world after it was established. -/
inductive Acts : Actor → World → Prop where
  | session {after : World} {text : Bytes} {token : Uuid} {session : AuthSessionRow}
      {user : UserRow} : request.authorization.getD [] ≠ [] →
      Admitted postgres environment request world text token session user after → Acts (.user user.id) after
  | anonymous {id : AnonymousId} : request.authorization.getD [] = [] →
      anonymousIdText json = some id.val → Acts (.anonymous id) world

/-- Why a request may not act, with the answer to it. -/
inductive ActorRefused : Response → World → Prop where
  | token {after : World} : request.authorization.getD [] ≠ [] →
      Refused postgres environment request world after → ActorRefused invalidTokenResponse after
  | anonymousId : request.authorization.getD [] = [] →
      portalValidationAnonymousId (anonymousIdText json) = false →
      ActorRefused anonymousIdRequiredResponse world

end Ends

section Runs

variable {postgres : Postgres} {environment : Environment} {request : Request}
  {json : Option Json}

theorem Acts.kept {world after : World} {actor : Actor}
    (acts : Acts postgres environment request json world actor after) : world.Kept after := by
  cases acts with
  | session _ admitted => exact admitted.kept
  | anonymous _ _ => exact .refl world

theorem Acts.smooth {world after : World} {actor : Actor}
    (acts : Acts postgres environment request json world actor after)
    (smooth : world.Smooth environment) : after.Smooth environment := by
  cases acts with
  | session _ admitted => exact ⟨smooth.healthy, admitted.connection⟩
  | anonymous _ _ => exact smooth

theorem ActorRefused.kept {world after : World} {response : Response}
    (refused : ActorRefused postgres environment request json world response after) :
    world.Kept after := by
  cases refused with
  | token _ refused => exact refused.kept
  | anonymousId _ _ => exact .refl world

/-- The actor that the header, the body and the sessions entitle a request to. -/
inductive MayAct (postgres : Postgres) (environment : Environment) (request : Request)
    (json : Option Json) (world : World) : Actor → Prop where
  | session {token : Uuid} {session : AuthSessionRow} {user : UserRow} :
      presentedSession postgres request = some token →
      world.database.Live (world.lookupTime environment) token session user →
      MayAct postgres environment request json world (.user user.id)
  | anonymous {id : AnonymousId} : request.authorization.getD [] = [] →
      anonymousIdText json = some id.val →
      MayAct postgres environment request json world (.anonymous id)

theorem Acts.mayAct {world after : World} {actor : Actor}
    (acts : Acts postgres environment request json world actor after) :
    MayAct postgres environment request json world actor := by
  cases acts with
  | session _ admitted =>
      exact .session (presentedSession_eq_some.mpr ⟨_, admitted.bearer, admitted.cast⟩) admitted.live
  | anonymous absent read => exact .anonymous absent read

/-- Over a smooth service the entitlement decides. -/
theorem ActorRefused.not_mayAct {world after : World} {response : Response}
    (refused : ActorRefused postgres environment request json world response after)
    (smooth : world.Smooth environment) {actor : Actor} :
    ¬ MayAct postgres environment request json world actor := by
  intro may
  cases refused with
  | token present refused =>
      cases may with
      | session presented live => exact (refused.stranger smooth).2 _ _ _ presented live
      | anonymous absent _ => exact present absent
  | anonymousId absent invalid =>
      cases may with
      | session presented _ =>
          exact presentedSession_present presented absent
      | @anonymous id _ read => simp [read, id.property] at invalid

theorem MayAct.unique {world : World} (valid : world.database.Valid postgres.lower)
    {actor other : Actor} (may : MayAct postgres environment request json world actor)
    (also : MayAct postgres environment request json world other) : actor = other := by
  cases may with
  | session presented live =>
      cases also with
      | session again same =>
          obtain rfl := Option.some.inj (presented.symm.trans again)
          obtain ⟨_, rfl⟩ := live.unique valid same
          rfl
      | anonymous absent _ => exact absurd absent (presentedSession_present presented)
  | anonymous absent read =>
      cases also with
      | session presented _ => exact absurd absent (presentedSession_present presented)
      | anonymous _ again => rw [Subtype.ext (Option.some.inj (read.symm.trans again))]

theorem MayAct.owner {world : World} {actor : Actor}
    (may : MayAct postgres environment request json world actor) :
    world.database.References actor.userId := by
  intro id same
  cases may with
  | session _ live =>
      obtain rfl := Option.some.inj same
      exact ⟨_, live.user_mem, rfl⟩
  | anonymous _ _ => cases same

/-- What the statements take from a loaded actor. -/
structure LoadedAs (postgres : Postgres) (actor : Actor) (status : PortalAuthStatus)
    (loaded : PortalActivityActor) : Prop where
  valid : status ≠ .invalid
  userId : actorUserId status loaded = actor.userIdText postgres
  anonymousId : actorAnonymousId status loaded = actor.anonymousIdText
  actorKey : loaded.actorKey = actor.key postgres

theorem run_activityActorError (exchange : Exchange) :
    (activityActorError request .invalid).run (interpret postgres environment) exchange =
      exchange.answer environment environment.reports
        (if request.authorization.getD [] ≠ [] then invalidTokenResponse
        else anonymousIdRequiredResponse) := by
  unfold activityActorError
  split
  · next present =>
      have present : request.authorization.getD [] ≠ [] := by simpa using present
      simp [present, invalidTokenResponse]
  · next absent =>
      have absent : request.authorization.getD [] = [] := by simpa using absent
      simp [absent, anonymousIdRequiredResponse]

theorem activityLoadActor_ends (environment : Environment) (request : Request)
    (json : Option Json) (lawful : postgres.Lawful) {exchange : Exchange}
    (valid : exchange.world.database.Valid postgres.lower) (begun : exchange.statements = 0) :
    ∃ result middle, (activityLoadActor request json).run (interpret postgres environment)
        exchange = (result, middle) ∧ middle.attempts = exchange.attempts ∧
      ((∃ response, result.1 = .invalid ∧
          ActorRefused postgres environment request json exchange.world response middle.world ∧
          (activityActorError request .invalid).run (interpret postgres environment) middle =
            middle.answer environment environment.reports response) ∨
        ∃ actor, Acts postgres environment request json exchange.world actor middle.world ∧
          LoadedAs postgres actor result.1 result.2) := by
  obtain ⟨⟨status, user⟩, middle, looked, still, ends⟩ :=
    portalHttpAuthenticate_ends environment request lawful valid begun
  generalize reach : middle.world = reached at ends
  cases ends with
  | anonymous absent =>
      cases accepted : portalValidationAnonymousId (anonymousIdText json) with
      | false =>
          have refused : portalValidationAnonymousId
              (portalHttpJsonOptionalString json (bytes "anonymous_id") 200) = false := accepted
          have ran : (activityLoadActor request json).run (interpret postgres environment) exchange =
              ((.invalid, ⟨.blank, anonymousIdText json, []⟩), middle) := by
            simp [activityLoadActor, looked, refused, anonymousIdText]
          refine ⟨_, middle, ran, still, .inl ⟨anonymousIdRequiredResponse, rfl, ?_, ?_⟩⟩
          · exact reach ▸ .anonymousId absent accepted
          · simp [run_activityActorError, absent]
      | true =>
          obtain ⟨text, read, _⟩ := portalValidationAnonymousId_iff.mp accepted
          let actor : Actor := .anonymous ⟨text, read ▸ accepted⟩
          have found : portalHttpJsonOptionalString json (bytes "anonymous_id") 200 = some text := read
          have valid : portalValidationAnonymousId (some text) = true := read ▸ accepted
          have written : snprintf 205 (bytes "a:" ++ text) =
              (((actor.key postgres).length : Int), actor.key postgres) := actor.snprintf_key lawful
          have fits : ¬ (205 : Int) ≤ (actor.key postgres).length := by
            have short := actor.length_key lawful
            omega
          have ran : (activityLoadActor request json).run (interpret postgres environment) exchange =
              ((.anonymous, ⟨.blank, some text, actor.key postgres⟩), middle) := by
            simp [activityLoadActor, looked, found, valid, written, fits]
          refine ⟨_, middle, ran, still, .inr ⟨actor, ?_, by simp, rfl, rfl, rfl⟩⟩
          exact reach ▸ .anonymous absent read
  | invalid present refused =>
      have ran : (activityLoadActor request json).run (interpret postgres environment) exchange =
          ((.invalid, ⟨.blank, anonymousIdText json, []⟩), middle) := by
        simp [activityLoadActor, looked, anonymousIdText]
      refine ⟨_, middle, ran, still, .inl ⟨invalidTokenResponse, rfl, ?_, ?_⟩⟩
      · exact reach ▸ .token present refused
      · simp [run_activityActorError, present]
  | @authenticated _ _ _ _ user admitted =>
      have present : request.authorization.getD [] ≠ [] := bearerToken_present admitted.bearer
      let actor : Actor := .user user.id
      have written : snprintf 205 (bytes "u:" ++ (authenticatedUser postgres user).id) =
          (((actor.key postgres).length : Int), actor.key postgres) := actor.snprintf_key lawful
      have fits : ¬ (205 : Int) ≤ (actor.key postgres).length := by
        have short := actor.length_key lawful
        omega
      have ran : (activityLoadActor request json).run (interpret postgres environment) exchange =
          ((.authenticated, ⟨authenticatedUser postgres user, anonymousIdText json,
            actor.key postgres⟩), middle) := by
        have whole := congrArg Prod.snd written
        simp only [snprintf_written] at whole
        simp [activityLoadActor, looked, written, fits, whole, anonymousIdText]
      refine ⟨_, middle, ran, still, .inr ⟨actor, ?_, by simp, rfl, rfl, rfl⟩⟩
      exact reach ▸ .session present admitted

end Runs

end PortalApi
