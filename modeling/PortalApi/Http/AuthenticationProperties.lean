import PortalApi.Database.AccessProperties
import PortalApi.Http.Authentication
import PortalApi.Http.Response

/-! Whom a request authenticates: the holder of a live session, and no one else. -/

set_option autoImplicit false

namespace PortalApi

open Library

def Request.isPut (request : Request) : Bool := request.method = bytes "PUT"

/-- The 36 bytes after `Bearer `. -/
def bearerToken (request : Request) : Option Bytes :=
  match request.authorization with
  | none => none
  | some authorization =>
    if authorization.take 7 = bytes "Bearer " &&
        (authorization.drop 7).length = portalHttpUuidTextLength then
      some (authorization.drop 7)
    else none

/-- The session token that the request's header denotes, in whatever spelling. -/
def presentedSession (postgres : Postgres) (request : Request) : Option Uuid :=
  (bearerToken request).bind postgres.castText

/-- A stored session, with its owner, that still authenticates at this time. -/
structure Database.Live (database : Database) (now : Time) (token : Uuid)
    (session : AuthSessionRow) (user : UserRow) : Prop where
  session_mem : session ∈ database.authSessions
  user_mem : user ∈ database.users
  token : session.token = token
  owner : user.id = session.userId
  unrevoked : session.revokedAt = none
  unexpired : now < session.expiresAt
  confirmed : user.confirmedAt.isSome = true

def unauthorizedResponse : Response :=
  errorResponse 401 "unauthorized" "A valid Bearer token is required."

def authenticatedUser (postgres : Postgres) (user : UserRow) : PortalAuthenticatedUser where
  id := postgres.uuidOut user.id
  email := user.email.take 255

section Live

variable {postgres : Postgres} {transaction : Transaction} {database : Database} {token : Uuid}
  {lower : Bytes → Bytes}

theorem mem_liveSessions {session : AuthSessionRow} {user : UserRow} :
    (session, user) ∈ liveSessions transaction database token ↔
      database.Live transaction.now token session user := by
  simp only [liveSessions, List.mem_flatMap, List.mem_map, List.mem_filter, Bool.and_eq_true,
    decide_eq_true_eq, Option.isNone_iff_eq_none, Prod.mk.injEq]
  constructor
  · rintro ⟨_, stored, _, ⟨known, ⟨⟨⟨owner, same⟩, unrevoked⟩, unexpired⟩, confirmed⟩, rfl, rfl⟩
    exact ⟨stored, known, same, owner, unrevoked, unexpired, confirmed⟩
  · intro live
    have joined : (((user.id = session.userId ∧ session.token = token) ∧ session.revokedAt = none) ∧
        session.expiresAt > transaction.now) ∧ user.confirmedAt.isSome = true :=
      ⟨⟨⟨⟨live.owner, live.token⟩, live.unrevoked⟩, live.unexpired⟩, live.confirmed⟩
    exact ⟨session, live.session_mem, user, ⟨live.user_mem, joined⟩, rfl, rfl⟩

theorem Database.Live.unique {now : Time} {session other : AuthSessionRow} {user owner : UserRow}
    (valid : database.Valid lower) (live : database.Live now token session user)
    (same : database.Live now token other owner) : other = session ∧ owner = user := by
  have sessions : other = session :=
    Table.eq_of_key valid.sessionKeys same.session_mem live.session_mem
      (same.token.trans live.token.symm)
  subst sessions
  exact ⟨rfl, Table.eq_of_key valid.userIds same.user_mem live.user_mem
    (same.owner.trans live.owner.symm)⟩

theorem nodup_liveSessions (valid : database.Valid lower) :
    (liveSessions transaction database token).Nodup := by
  have sessions : database.authSessions.Nodup := valid.sessionKeys.of_map _
  have users : database.users.Nodup := valid.userIds.of_map _
  refine List.nodup_flatMap.mpr ⟨fun session _ => ?_, ?_⟩
  · refine (users.filter _).map ?_
    intro user other same
    exact (Prod.mk.inj same).2
  · refine sessions.imp fun different => ?_
    intro pair first second
    obtain ⟨_, _, rfl⟩ := List.mem_map.mp first
    obtain ⟨_, _, same⟩ := List.mem_map.mp second
    exact different (Prod.mk.inj same).1.symm

/-- The lookup joins at most one session with its owner. -/
theorem liveSessions_eq (valid : database.Valid lower) {session : AuthSessionRow} {user : UserRow}
    (live : database.Live transaction.now token session user) :
    liveSessions transaction database token = [(session, user)] := by
  have only : ∀ pair ∈ liveSessions transaction database token, pair = (session, user) := by
    rintro ⟨other, owner⟩ member
    obtain ⟨rfl, rfl⟩ := live.unique valid (mem_liveSessions.mp member)
    rfl
  have present := mem_liveSessions.mpr live
  have unique : (liveSessions transaction database token).Nodup := nodup_liveSessions valid
  match found : liveSessions transaction database token with
  | [] => simp [found] at present
  | [pair] => rw [only pair (by simp [found])]
  | first :: second :: rest =>
      have same := (only first (by simp [found])).trans (only second (by simp [found])).symm
      simp [found, same] at unique

end Live

/-- The time of a lookup that is the first statement of a request. -/
def World.lookupTime (world : World) (environment : Environment) : Time :=
  world.clock + (environment.moment 0).elapsed

/-- No session the request presents is live at this time. -/
def World.Stranger (world : World) (postgres : Postgres) (request : Request) (now : Time) : Prop :=
  ∀ token session user, presentedSession postgres request = some token →
    ¬ world.database.Live now token session user

/-- What the routes that require a session learn from the lookup. -/
structure Refused (postgres : Postgres) (environment : Environment) (request : Request)
    (world after : World) : Prop where
  kept : world.Kept after
  stranger : world.Smooth environment → after.Smooth environment ∧
    world.Stranger postgres request (world.lookupTime environment)

/-- The session behind a request that was let in at this world. -/
structure Admitted (postgres : Postgres) (environment : Environment) (request : Request)
    (world : World) (text : Bytes) (token : Uuid) (session : AuthSessionRow) (user : UserRow)
    (after : World) : Prop where
  bearer : bearerToken request = some text
  cast : postgres.castText text = some token
  kept : world.Kept after
  connection : after.connection = .connectionOk
  time : after.clock = world.lookupTime environment
  live : world.database.Live (world.lookupTime environment) token session user

/-- Every way `portal_http_authenticate` ends. -/
inductive Authenticates (postgres : Postgres) (environment : Environment) (request : Request)
    (world : World) : PortalAuthStatus × PortalAuthenticatedUser → World → Prop where
  | anonymous : request.authorization.getD [] = [] →
      Authenticates postgres environment request world (.anonymous, .blank) world
  | invalid {after : World} : request.authorization.getD [] ≠ [] →
      Refused postgres environment request world after →
      Authenticates postgres environment request world (.invalid, .blank) after
  | authenticated {after : World} {text : Bytes} {token : Uuid} {session : AuthSessionRow}
      {user : UserRow} : Admitted postgres environment request world text token session user after →
      Authenticates postgres environment request world
        (.authenticated, authenticatedUser postgres user) after

section Authenticate

variable {postgres : Postgres} {environment : Environment} {request : Request}

@[simp] theorem take_bearer (text : Bytes) :
    (bytes "Bearer " ++ text).take 7 = bytes "Bearer " :=
  List.take_left' (by decide)

@[simp] theorem drop_bearer (text : Bytes) : (bytes "Bearer " ++ text).drop 7 = text :=
  List.drop_left' (by decide)

theorem presentedSession_eq_some {postgres : Postgres} {token : Uuid} :
    presentedSession postgres request = some token ↔
      ∃ text, bearerToken request = some text ∧ postgres.castText text = some token := by
  simp [presentedSession, Option.bind_eq_some_iff]

theorem Postgres.Lawful.uuidOut_injective {postgres : Postgres} (lawful : postgres.Lawful)
    {first second : Uuid} (same : postgres.uuidOut first = postgres.uuidOut second) :
    first = second := by
  have read := lawful.uuidIn_uuidOut first
  rw [same, lawful.uuidIn_uuidOut] at read
  exact (Option.some.inj read).symm

theorem bearerToken_eq_some {token : Bytes} :
    bearerToken request = some token ↔
      request.authorization = some (bytes "Bearer " ++ token) ∧
        token.length = portalHttpUuidTextLength := by
  unfold bearerToken
  cases header : request.authorization with
  | none => simp
  | some authorization =>
      simp only [Option.some.injEq]
      constructor
      · intro found
        split at found
        · next shape =>
            simp only [Bool.and_eq_true, decide_eq_true_eq] at shape
            have rest : authorization.drop 7 = token := by simpa using found
            refine ⟨?_, rest ▸ shape.2⟩
            rw [← rest, ← shape.1, List.take_append_drop]
        · cases found
      · rintro ⟨rfl, length⟩
        simp [length]

theorem bearerToken_present {text : Bytes} (bearer : bearerToken request = some text) :
    request.authorization.getD [] ≠ [] := by
  have start : bytes "Bearer " ≠ [] := by decide
  simp [(bearerToken_eq_some.mp bearer).1, start]

theorem presentedSession_present {postgres : Postgres} {token : Uuid}
    (presented : presentedSession postgres request = some token) :
    request.authorization.getD [] ≠ [] := by
  obtain ⟨text, bearer, _⟩ := presentedSession_eq_some.mp presented
  exact bearerToken_present bearer

theorem portalHttpAuthenticate_attempts (exchange : Exchange) :
    ((portalHttpAuthenticate request).run (interpret postgres environment) exchange).2.attempts =
      exchange.attempts := by
  unfold portalHttpAuthenticate
  split
  · rfl
  · split
    · rfl
    · split
      · rfl
      · simp only [Program.run_bind, run_portalDatabaseQuery]
        split
        · simp
        · split <;> simp

private theorem portalHttpAuthenticate_cases (lawful : postgres.Lawful) {exchange : Exchange}
    (valid : exchange.world.database.Valid postgres.lower) (begun : exchange.statements = 0) :
    Authenticates postgres environment request exchange.world
      ((portalHttpAuthenticate request).run (interpret postgres environment) exchange).1
      ((portalHttpAuthenticate request).run (interpret postgres environment) exchange).2.world := by
  unfold portalHttpAuthenticate
  cases header : request.authorization with
  | none => exact .anonymous (by simp [header])
  | some authorization =>
      simp only
      split
      · next empty => exact .anonymous (by simp [header, empty])
      · next present =>
          have present : request.authorization.getD [] ≠ [] := by simpa [header] using present
          split
          · next shape =>
              have none : bearerToken request = none := by
                simp only [Bool.or_eq_true, decide_eq_true_eq, ne_eq] at shape
                simp only [bearerToken, header, Bool.and_eq_true, decide_eq_true_eq]
                exact if_neg fun both => shape.elim (absurd both.1) (absurd both.2)
              refine .invalid present ⟨.refl _, fun smooth => ⟨smooth, ?_⟩⟩
              intro token session user presented
              simp [presentedSession, none] at presented
          · next shape =>
              simp only [Bool.or_eq_true, decide_eq_true_eq, ne_eq, not_or, not_not] at shape
              have bearer : bearerToken request = some (authorization.drop 7) := by
                simp [bearerToken, header, shape]
              have presents : presentedSession postgres request =
                  postgres.castText (authorization.drop 7) := by
                simp [presentedSession, bearer]
              simp only [Program.run_bind, run_portalDatabaseQuery]
              rcases exchange.query_cases postgres environment (.authenticate (authorization.drop 7))
                with failed | ⟨transaction, outcome, result, committed⟩
              · simp only [failed.status, ne_eq, reduceCtorEq, not_false_eq_true, decide_true,
                  Bool.true_or, ↓reduceIte, Program.run_pure]
                refine .invalid present ⟨failed.kept, fun smooth => ?_⟩
                obtain ⟨still, _, _, _, _, refused, _⟩ := failed.cause smooth
                refine ⟨still, ?_⟩
                intro token session user presented
                simp [presents, execute_authenticate_error refused] at presented
              · have time : (exchange.query postgres environment
                    (.authenticate (authorization.drop 7))).2.world.clock =
                      exchange.world.lookupTime environment := by
                  rw [World.lookupTime, ← begun]
                  exact exchange.query_clock (Exchange.query_granted result)
                have now := committed.now.trans time
                obtain ⟨id, read, ran⟩ := execute_authenticate_ok committed.executed
                obtain ⟨rfl, same⟩ := Prod.mk.inj ran
                have kept : exchange.world.Kept (exchange.query postgres environment
                    (.authenticate (authorization.drop 7))).2.world := ⟨same, committed.clock⟩
                have smoothly : exchange.world.Smooth environment →
                    (exchange.query postgres environment
                      (.authenticate (authorization.drop 7))).2.world.Smooth environment :=
                  fun smooth => ⟨smooth.healthy, committed.connection⟩
                simp only [result]
                cases found : liveSessions transaction exchange.world.database id with
                | nil =>
                    refine .invalid present ⟨kept, fun smooth => ⟨smoothly smooth, ?_⟩⟩
                    intro token session user presented live
                    obtain rfl : token = id := by simpa [presents, read] using presented.symm
                    have joined := mem_liveSessions.mpr (now ▸ live)
                    simp [found] at joined
                | cons row rest =>
                    cases rest with
                    | nil =>
                        have live : exchange.world.database.Live transaction.now id row.1 row.2 :=
                          mem_liveSessions.mp (by simp [found])
                        have user : Authenticates postgres environment request exchange.world
                            (.authenticated, authenticatedUser postgres row.2)
                            (exchange.query postgres environment
                              (.authenticate (authorization.drop 7))).2.world :=
                          .authenticated ⟨bearer, read, kept, committed.connection, time, now ▸ live⟩
                        have whole : (postgres.uuidOut row.2.id).take 36 = postgres.uuidOut row.2.id :=
                          List.take_of_length_le (Nat.le_of_eq (lawful.length_uuidOut _))
                        simpa [authenticatedUser, whole] using user
                    | cons second others =>
                        refine .invalid present ⟨kept, fun smooth => ⟨smoothly smooth, ?_⟩⟩
                        intro token session user presented live
                        obtain rfl : token = id := by simpa [presents, read] using presented.symm
                        have single := liveSessions_eq valid (now ▸ live)
                        simp [found] at single

theorem Authenticates.required {world after : World}
    {result : PortalAuthStatus × PortalAuthenticatedUser}
    (ends : Authenticates postgres environment request world result after) :
    (result.1 ≠ .authenticated ∧ Refused postgres environment request world after) ∨
      ∃ text token session user, result = (.authenticated, authenticatedUser postgres user) ∧
        Admitted postgres environment request world text token session user after := by
  cases ends with
  | anonymous absent =>
      left
      refine ⟨by simp, .refl _, fun smooth => ⟨smooth, ?_⟩⟩
      intro token session user presented
      exact absurd absent (presentedSession_present presented)
  | invalid present refused => exact .inl ⟨by simp, refused⟩
  | authenticated admitted => exact .inr ⟨_, _, _, _, rfl, admitted⟩

/-- The lookup, as the routes meet it. -/
theorem portalHttpAuthenticate_ends (environment : Environment) (request : Request)
    (lawful : postgres.Lawful) {exchange : Exchange}
    (valid : exchange.world.database.Valid postgres.lower) (begun : exchange.statements = 0) :
    ∃ result middle, (portalHttpAuthenticate request).run (interpret postgres environment) exchange =
        (result, middle) ∧ middle.attempts = exchange.attempts ∧
      Authenticates postgres environment request exchange.world result middle.world :=
  ⟨_, _, rfl, portalHttpAuthenticate_attempts exchange, portalHttpAuthenticate_cases lawful valid begun⟩

end Authenticate

end PortalApi
