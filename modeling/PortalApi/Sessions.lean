import PortalApi.Confirmation

/-! The life of a session: opened by a login, ended by a logout or by its age,
and never affected by what happens to another one. -/

set_option autoImplicit false

namespace PortalApi

open Library

/-- The `access_token` member of a JSON response. -/
def accessToken (response : Response) : Option Bytes :=
  match response.payload with
  | .text _ => none
  | .json value =>
    match value.objectGetEx (bytes "access_token") with
    | some (.string token) => some token
    | _ => none

/-- A login with the email of this account that was answered with this token. -/
structure LogsIn (service : Service) (entry : Service.Entry) (user : UserRow) (token : Uuid) :
    Prop where
  answered : AnsweredAt entry.input entry.output "POST" "/auth/login" 200
  user_mem : user ∈ entry.before.database.users
  email : (loginFields (service.body entry.input)).map (·.email) = some user.email
  issued : entry.output.bind accessToken = some (service.postgres.uuidOut token)

/-- A logout whose header denotes this token, in whatever spelling. -/
structure LogsOut (service : Service) (entry : Service.Entry) (token : Uuid) : Prop where
  answered : AnsweredAt entry.input entry.output "DELETE" "/auth/session" 204
  presented : presentedSession service.postgres entry.input.request = some token

@[simp] theorem accessToken_loginResponse (postgres : Postgres) (session : AuthSessionRow) :
    accessToken (loginResponse postgres session) = some (postgres.uuidOut session.token) := rfl

section Lookup

variable {service : Service} {call : Call} {world : World}

/-- The lookup finds the owner of the one live session that is presented. -/
theorem Service.authenticate_iff_live (lawful : service.postgres.Lawful)
    (valid : world.database.Valid service.postgres.lower) (smooth : world.Smooth call.environment)
    {found : PortalAuthenticatedUser} :
    service.authenticate call world = (.authenticated, found) ↔
      ∃ token session user, presentedSession service.postgres call.request = some token ∧
        world.database.Live (world.lookupTime call.environment) token session user ∧
        found = authenticatedUser service.postgres user := by
  have valid : world.exchange.world.database.Valid service.postgres.lower := valid
  obtain ⟨result, after, ran, _, ends⟩ :=
    portalHttpAuthenticate_ends call.environment call.request lawful valid rfl
  have same : service.authenticate call world = result := by
    rw [Service.authenticate, ran]
  rw [same]
  rcases ends.required with ⟨outside, refused⟩ | ⟨text, token, session, user, rfl, admitted⟩
  · constructor
    · intro entered
      exact absurd (congrArg Prod.fst entered) outside
    · rintro ⟨token, session, user, presented, live, _⟩
      exact absurd live ((refused.stranger smooth).2 token session user presented)
  · have presented : presentedSession service.postgres call.request = some token :=
      presentedSession_eq_some.mpr ⟨text, admitted.bearer, admitted.cast⟩
    constructor
    · intro entered
      exact ⟨token, session, user, presented, admitted.live, (congrArg Prod.snd entered).symm⟩
    · rintro ⟨other, second, owner, also, alive, rfl⟩
      obtain rfl := Option.some.inj (presented.symm.trans also)
      obtain ⟨_, rfl⟩ := admitted.live.unique valid alive
      rfl

end Lookup

section Entries

variable {service : Service} {entry : Service.Entry} {token : Uuid}

theorem LoggedIn.logsIn {fields : LoginFields} {user : UserRow} {transaction : Transaction}
    (healthy : entry.input.environment.Healthy) (loggedIn : LoggedIn service entry.input
      entry.before fields user transaction entry.output entry.after) :
    LogsIn service entry user (service.config.session transaction user).token where
  answered := (loggedIn.opens healthy).answered
  user_mem := loggedIn.user_mem
  email := by
    have accepted := loggedIn.accepted
    simp only [candidate, Bool.and_eq_true, decide_eq_true_eq] at accepted
    simp [loggedIn.read, accepted.1.1]
  issued := by simp [loggedIn.answered.certain healthy]

theorem LogsIn.loggedIn (lawful : service.postgres.Lawful)
    (valid : entry.before.database.Valid service.postgres.lower)
    (effect : AccountEffect service entry.input entry.before entry.output entry.after)
    {user : UserRow} (login : LogsIn service entry user token) :
    ∃ fields transaction, LoggedIn service entry.input entry.before fields user transaction
      entry.output entry.after ∧ (service.config.session transaction user).token = token := by
  cases effect with
  | registered registered => exact (login.answered.request.url_ne registered.request (by decide)).elim
  | confirmed confirmed => exact (login.answered.request.url_ne confirmed.request (by decide)).elim
  | loggedOut loggedOut => exact (login.answered.request.url_ne loggedOut.request (by decide)).elim
  | elsewhere elsewhere =>
      exact absurd login.answered
        (elsewhere.answered ("POST", "/auth/login", 200) (by simp [accountAnswers]))
  | @loggedIn fields owner transaction _ _ loggedIn =>
      have accepted := loggedIn.accepted
      simp only [candidate, Bool.and_eq_true, decide_eq_true_eq] at accepted
      have sent : fields.email = user.email := by simpa [loggedIn.read] using login.email
      obtain rfl : owner = user :=
        Table.eq_of_key valid.userEmails loggedIn.user_mem login.user_mem
          (accepted.1.1.trans sent)
      have issued := login.issued
      cases given : entry.output with
      | none => simp [given] at issued
      | some response =>
          obtain rfl := (given ▸ loggedIn.answered).reply_eq rfl
          simp only [given, Option.bind_some, accessToken_loginResponse, Option.some.injEq] at issued
          exact ⟨fields, transaction, given ▸ loggedIn, lawful.uuidOut_injective issued⟩

theorem LoggedOut.logsOut {session : AuthSessionRow} {user : UserRow} {transaction : Transaction}
    (healthy : entry.input.environment.Healthy) (loggedOut : LoggedOut service entry.input
      entry.before token session user transaction entry.output entry.after) :
    LogsOut service entry token where
  answered := ⟨loggedOut.request, by
    simp [statusOf, loggedOut.answered.certain healthy, textResponse]⟩
  presented := by
    obtain ⟨text, middle, admitted, _⟩ := loggedOut.letIn.admitted
    exact presentedSession_eq_some.mpr ⟨text, admitted.bearer, admitted.cast⟩

theorem LogsOut.revoked (logout : LogsOut service entry token)
    (effect : AccountEffect service entry.input entry.before entry.output entry.after) :
    ∃ session ∈ entry.after.database.authSessions,
      session.token = token ∧ session.revokedAt.isSome = true := by
  cases effect with
  | registered registered => exact (logout.answered.request.url_ne registered.request (by decide)).elim
  | confirmed confirmed => exact (logout.answered.request.url_ne confirmed.request (by decide)).elim
  | loggedIn loggedIn => exact (logout.answered.request.url_ne loggedIn.request (by decide)).elim
  | elsewhere elsewhere =>
      exact absurd logout.answered
        (elsewhere.answered ("DELETE", "/auth/session", 204) (by simp [accountAnswers]))
  | @loggedOut presented session _ transaction _ _ loggedOut =>
      obtain ⟨text, middle, admitted, _⟩ := loggedOut.letIn.admitted
      have same : presented = token := Option.some.inj
        ((presentedSession_eq_some.mpr ⟨text, admitted.bearer, admitted.cast⟩).symm.trans
          logout.presented)
      have live := admitted.live
      refine ⟨revoke transaction session, ?_, live.token.trans same, rfl⟩
      rw [loggedOut.database]
      refine Table.mem_update.mpr (.inr ⟨session, live.session_mem, ?_, rfl⟩)
      simp [revocable, live.token, live.unrevoked]

end Entries

namespace Service

variable {service : Service} {entries earlier later : List Entry} {entry : Entry} {world : World}
  {token : Uuid} {user : UserRow}

/-- The session a login opened is still there, and so is its owner. -/
theorem Run.session_of_login (lawful : service.postgres.Lawful)
    (run : service.Run Environment.Healthy (earlier ++ entry :: later) world)
    (login : LogsIn service entry user token) :
    ∃ session ∈ world.database.authSessions, ∃ owner ∈ world.database.users,
      session.token = token ∧ owner.id = session.userId ∧ user.Becomes owner ∧
      owner.confirmedAt.isSome = true ∧
      session.expiresAt = entry.after.clock + service.config.tokenLifetime := by
  have healthy := (Run.reached run).2.1
  obtain ⟨fields, transaction, loggedIn, same⟩ := login.loggedIn lawful
    (Run.valid (Run.reached run).1) (Run.effect lawful run).accounts
  have opens := loggedIn.opens healthy
  obtain ⟨session, stored, becomes⟩ := Run.session_since lawful run
    (show service.config.session transaction user ∈ entry.after.database.authSessions by
      simp [opens.authSessions])
  obtain ⟨owner, known, keeps⟩ := Run.user_since lawful run
    (show user ∈ entry.after.database.users by simp [loggedIn.database, loggedIn.user_mem])
  refine ⟨session, stored, owner, known, becomes.token.trans same,
    keeps.id.trans becomes.userId.symm, keeps, ?_, ?_⟩
  · obtain ⟨time, confirmed⟩ := Option.isSome_iff_exists.mp opens.confirmed
    simp [keeps.confirmed time confirmed]
  · rw [becomes.expiresAt, ← loggedIn.now]
    rfl

theorem Run.revoked_of_logout (lawful : service.postgres.Lawful)
    (run : service.Run Environment.Healthy (earlier ++ entry :: later) world)
    (logout : LogsOut service entry token) :
    ∃ session ∈ world.database.authSessions,
      session.token = token ∧ session.revokedAt.isSome = true := by
  obtain ⟨session, stored, same, revoked⟩ := logout.revoked (Run.effect lawful run).accounts
  obtain ⟨now, member, becomes⟩ := Run.session_since lawful run stored
  exact ⟨now, member, becomes.token.trans same, becomes.revoked revoked⟩

theorem Run.login_time (lawful : service.postgres.Lawful)
    (run : service.Run Environment.Healthy entries world) {first second : Entry}
    (firstMember : first ∈ entries) (secondMember : second ∈ entries) {holder : UserRow}
    (firstLogin : LogsIn service first user token) (secondLogin : LogsIn service second holder token) :
    first.after.clock = second.after.clock := by
  obtain ⟨earlier, later, split⟩ := List.append_of_mem firstMember
  obtain ⟨session, stored, _, _, named, _, _, _, expires⟩ :=
    Run.session_of_login lawful (split ▸ run) firstLogin
  obtain ⟨before, after, splitAgain⟩ := List.append_of_mem secondMember
  obtain ⟨other, present, _, _, also, _, _, _, ends⟩ :=
    Run.session_of_login lawful (splitAgain ▸ run) secondLogin
  obtain rfl := Table.eq_of_key (Run.valid run).sessionKeys stored present (named.trans also.symm)
  exact (Int.add_left_inj _).mp (expires.symm.trans ends)

/-- Only a logout revokes a session. -/
theorem Run.logout_of_revoked (lawful : service.postgres.Lawful)
    (run : service.Run Environment.Healthy entries world) {session : AuthSessionRow}
    (stored : session ∈ world.database.authSessions) (revoked : session.revokedAt.isSome = true) :
    ∃ logout ∈ entries, LogsOut service logout session.token := by
  have absent : ∀ state, (service.machine Environment.Healthy).initial state →
      ¬ ∃ other ∈ state.database.authSessions,
        other.token = session.token ∧ other.revokedAt.isSome = true := by
    intro state initial present
    simp [initial.1, Database.empty] at present
  obtain ⟨earlier, logout, later, rfl, missing, ended, present, same, now⟩ :=
    run.origin (fun state => ∃ other ∈ state.database.authSessions,
      other.token = session.token ∧ other.revokedAt.isSome = true) absent
      ⟨session, stored, rfl, revoked⟩
  refine ⟨logout, by simp, ?_⟩
  have healthy := (Run.reached run).2.1
  cases (Run.effect lawful run).accounts with
  | registered registered =>
      rw [registered.database] at present
      exact absurd ⟨ended, present, same, now⟩ missing
  | confirmed confirmed =>
      rw [confirmed.database] at present
      exact absurd ⟨ended, present, same, now⟩ missing
  | elsewhere elsewhere =>
      rw [elsewhere.authSessions] at present
      exact absurd ⟨ended, present, same, now⟩ missing
  | loggedIn loggedIn =>
      rw [loggedIn.database] at present
      rcases List.mem_append.mp present with old | new
      · exact absurd ⟨ended, old, same, now⟩ missing
      · obtain rfl := List.mem_singleton.mp new
        cases now
  | loggedOut loggedOut =>
      have logsOut := loggedOut.logsOut healthy
      rw [loggedOut.database] at present
      rcases Table.mem_update.mp present with ⟨old, _⟩ | ⟨old, _, chosen, rfl⟩
      · exact absurd ⟨ended, old, same, now⟩ missing
      · simp only [revocable, Bool.and_eq_true, decide_eq_true_eq] at chosen
        have token : old.token = session.token := same
        rw [← token, chosen.1]
        exact logsOut

/-- What the tables know of a token is what the history tells of it. -/
theorem Run.live_iff (lawful : service.postgres.Lawful)
    (run : service.Run Environment.Healthy entries world) {now : Time}
    {found : PortalAuthenticatedUser} :
    (∃ session user, world.database.Live now token session user ∧
        found = authenticatedUser service.postgres user) ↔
      (∃ login ∈ entries, ∃ user, LogsIn service login user token ∧
        found = authenticatedUser service.postgres user ∧
        now < login.after.clock + service.config.tokenLifetime) ∧
      ∀ logout ∈ entries, ¬ LogsOut service logout token := by
  have valid := Run.valid run
  have same_user : ∀ {first second : UserRow}, first.Becomes second →
      authenticatedUser service.postgres first = authenticatedUser service.postgres second := by
    intro first second becomes
    simp [authenticatedUser, becomes.id, becomes.email]
  constructor
  · rintro ⟨session, user, live, rfl⟩
    constructor
    · obtain ⟨earlier, login, later, fields, owner, transaction, rfl, loggedIn, becomes⟩ :=
        Run.opened lawful run live.session_mem
      have login := loggedIn.logsIn (Run.reached run).2.1
      rw [← becomes.token, live.token] at login
      obtain ⟨other, stored, current, known, token, owned, keeps, _, expires⟩ :=
        Run.session_of_login lawful run login
      obtain rfl := Table.eq_of_key valid.sessionKeys stored live.session_mem
        (token.trans live.token.symm)
      obtain rfl := Table.eq_of_key valid.userIds known live.user_mem
        (owned.trans live.owner.symm)
      exact ⟨_, by simp, owner, login, (same_user keeps).symm, expires ▸ live.unexpired⟩
    · intro logout member ended
      obtain ⟨earlier, later, rfl⟩ := List.append_of_mem member
      obtain ⟨other, stored, token, revoked⟩ := Run.revoked_of_logout lawful run ended
      obtain rfl := Table.eq_of_key valid.sessionKeys stored live.session_mem
        (token.trans live.token.symm)
      simp [live.unrevoked] at revoked
  · rintro ⟨⟨entry, member, user, login, rfl, unexpired⟩, unended⟩
    obtain ⟨earlier, later, rfl⟩ := List.append_of_mem member
    obtain ⟨session, stored, owner, known, token, owned, keeps, confirmed, expires⟩ :=
      Run.session_of_login lawful run login
    have unrevoked : session.revokedAt = none := by
      cases revoked : session.revokedAt with
      | none => rfl
      | some time =>
          obtain ⟨logout, present, ended⟩ :=
            Run.logout_of_revoked lawful run stored (by simp [revoked])
          exact absurd (token ▸ ended) (unended logout present)
    exact ⟨session, owner, ⟨stored, known, token, owned, unrevoked, expires ▸ unexpired, confirmed⟩,
      same_user keeps⟩

end Service

/-- The life of sessions over a run. -/
structure SessionLifecycle (service : Service) (entries : List Service.Entry) (world : World) :
    Prop where
  authenticated : ∀ (call : Call) (text : Bytes) (found : PortalAuthenticatedUser),
    call.environment.Healthy → call.request.authorization = some (bytes "Bearer " ++ text) →
    text.length = portalHttpUuidTextLength →
    (service.authenticate call world = (.authenticated, found) ↔
      ∃ token, service.postgres.castText text = some token ∧
        (∃ login ∈ entries, ∃ user, LogsIn service login user token ∧
          found = authenticatedUser service.postgres user ∧
          world.lookupTime call.environment < login.after.clock + service.config.tokenLifetime) ∧
        ∀ logout ∈ entries, ¬ LogsOut service logout token)
  ended : ∀ token, (∃ logout ∈ entries, LogsOut service logout token) ∨
      (∃ login ∈ entries, ∃ user, LogsIn service login user token ∧
        login.after.clock + service.config.tokenLifetime ≤ world.clock) →
    ∀ calls : List Call, (∀ call ∈ calls, call.environment.Healthy) →
    ∀ (call : Call) (found : PortalAuthenticatedUser), call.environment.Healthy →
      presentedSession service.postgres call.request = some token →
      service.authenticate call ((service.machine Environment.Healthy).play world calls).2 ≠
        (.authenticated, found)
  separate : ∀ logout : Call, logout.environment.Healthy →
    logout.request.At "DELETE" "/auth/session" →
    ∀ (call : Call) (found : PortalAuthenticatedUser), call.environment.Healthy →
      (∀ token, presentedSession service.postgres logout.request = some token →
        presentedSession service.postgres call.request ≠ some token) →
      (service.authenticate call (service.serve logout world).2 = (.authenticated, found) ↔
        service.authenticate call { world with clock := (service.serve logout world).2.clock } =
          (.authenticated, found))

section Logout

variable {service : Service} {logout : Call} {world : World} {token : Uuid}

/-- A request to the logout route leaves every other session as it was. -/
theorem Service.serve_logout_live (lawful : service.postgres.Lawful)
    (valid : world.database.Valid service.postgres.lower)
    (request : logout.request.At "DELETE" "/auth/session")
    (other : presentedSession service.postgres logout.request ≠ some token) {now : Time}
    {session : AuthSessionRow} {user : UserRow} :
    (service.serve logout world).2.database.Live now token session user ↔
      world.database.Live now token session user := by
  have effect := (service.serve_effect logout lawful valid).accounts
  generalize (service.serve logout world).1 = reply at effect
  generalize (service.serve logout world).2 = after at effect
  have carried : after.database.users = world.database.users →
      (∀ row : AuthSessionRow, row.token = token →
        (row ∈ after.database.authSessions ↔ row ∈ world.database.authSessions)) →
      (after.database.Live now token session user ↔
        world.database.Live now token session user) := by
    intro users sessions
    constructor
    · intro live
      exact { live with
        session_mem := (sessions session live.token).mp live.session_mem
        user_mem := users ▸ live.user_mem }
    · intro live
      exact { live with
        session_mem := (sessions session live.token).mpr live.session_mem
        user_mem := users ▸ live.user_mem }
  cases effect with
  | registered registered => exact (request.url_ne registered.request (by decide)).elim
  | confirmed confirmed => exact (request.url_ne confirmed.request (by decide)).elim
  | loggedIn loggedIn => exact (request.url_ne loggedIn.request (by decide)).elim
  | elsewhere elsewhere =>
      exact carried elsewhere.users fun row _ => by rw [elsewhere.authSessions]
  | @loggedOut ended _ _ transaction _ _ loggedOut =>
      obtain ⟨text, middle, admitted, _⟩ := loggedOut.letIn.admitted
      have presented : presentedSession service.postgres logout.request = some ended :=
        presentedSession_eq_some.mpr ⟨text, admitted.bearer, admitted.cast⟩
      have different : token ≠ ended := fun same => other (same ▸ presented)
      refine carried (by rw [loggedOut.database, Database.logout]) ?_
      intro row named
      rw [loggedOut.database, Database.logout, Table.mem_update]
      constructor
      · rintro (⟨stored, _⟩ | ⟨old, _, chosen, rfl⟩)
        · exact stored
        · simp only [revocable, Bool.and_eq_true, decide_eq_true_eq] at chosen
          exact absurd (named.symm.trans chosen.1) different
      · intro stored
        exact .inl ⟨stored, by simp [revocable, named, different]⟩

end Logout

/-- In every run over a service that fails nothing, in whatever order requests come. -/
theorem session_lifecycle {service : Service} (lawful : service.postgres.Lawful)
    {entries : List Service.Entry} {world : World}
    (run : service.Run Environment.Healthy entries world) :
    SessionLifecycle service entries world where
  authenticated := by
    intro call text found healthy header length
    have bearer : bearerToken call.request = some text := bearerToken_eq_some.mpr ⟨header, length⟩
    have presented : presentedSession service.postgres call.request =
        service.postgres.castText text := by
      simp [presentedSession, bearer]
    rw [Service.authenticate_iff_live lawful (Service.Run.valid run)
      ⟨healthy, Service.Run.connection run⟩, presented]
    constructor
    · rintro ⟨token, session, user, cast, live, same⟩
      exact ⟨token, cast, (Service.Run.live_iff lawful run).mp ⟨session, user, live, same⟩⟩
    · rintro ⟨token, cast, history⟩
      obtain ⟨session, user, live, same⟩ := (Service.Run.live_iff lawful run).mpr history
      exact ⟨token, session, user, cast, live, same⟩
  ended := by
    intro token ended calls healthy call found sane presented entered
    have longer := run.play healthy
    obtain ⟨other, session, user, also, live, same⟩ := (Service.authenticate_iff_live lawful
      (Service.Run.valid longer) ⟨sane, Service.Run.connection longer⟩).mp entered
    obtain rfl := Option.some.inj (presented.symm.trans also)
    obtain ⟨⟨login, member, owner, logsIn, _, unexpired⟩, unended⟩ :=
      (Service.Run.live_iff lawful longer).mp ⟨session, user, live, same⟩
    rcases ended with ⟨logout, before, logsOut⟩ | ⟨first, before, holder, opened, expired⟩
    · exact unended logout (List.mem_append_left _ before) logsOut
    · have same := Service.Run.login_time lawful longer (List.mem_append_left _ before) member
        opened logsIn
      have later : world.clock ≤ ((service.machine Environment.Healthy).play world
          calls).2.lookupTime call.environment :=
        Int.le_trans Service.play_clock (Int.le_add_of_nonneg_right (Int.natCast_nonneg _))
      exact Int.not_lt.mpr (Int.le_trans expired later) (same.symm ▸ unexpired)
  separate := by
    intro logout sound request call found healthy others
    have valid := Service.Run.valid run
    have connected := Service.Run.connection run
    have still : ({ world with clock := (service.serve logout world).2.clock } : World).Smooth
        call.environment := ⟨healthy, connected⟩
    have unchanged : ({ world with clock := (service.serve logout world).2.clock } : World).database.Valid
        service.postgres.lower := valid
    rw [Service.authenticate_iff_live lawful (Service.serve_valid valid)
        ⟨healthy, Service.serve_connection sound connected⟩,
      Service.authenticate_iff_live lawful unchanged still]
    constructor
    · rintro ⟨token, session, user, presented, live, same⟩
      have unrelated := fun also => others token also presented
      exact ⟨token, session, user, presented,
        (Service.serve_logout_live lawful valid request unrelated).mp live, same⟩
    · rintro ⟨token, session, user, presented, live, same⟩
      have unrelated := fun also => others token also presented
      exact ⟨token, session, user, presented,
        (Service.serve_logout_live lawful valid request unrelated).mpr live, same⟩

namespace Reference

/-- Ana signs in and out, with her token in upper case. -/
def signedOut : List Call :=
  signedIn ++ [logout ((uuidOut (draw 10)).map fun character =>
    if 97 ≤ character then character - 32 else character) 11 0]

theorem signedOut_healthy : ∀ call ∈ signedOut, call.environment.Healthy := by
  simp [signedOut, signedIn, confirmed, post, logout, environment_healthy]

end Reference

/-- The session ends with the logout. -/
theorem session_lifecycle_signedOut :
    SessionLifecycle Reference.signing (Reference.history Reference.signing Reference.signedOut)
        (Reference.after Reference.signing Reference.signedOut) ∧
      (Reference.signing.authenticate (Reference.logout (Reference.uuidOut (Reference.draw 10)) 12 0)
        (Reference.after Reference.signing Reference.signedIn)).1 = .authenticated ∧
      (Reference.signing.authenticate (Reference.logout (Reference.uuidOut (Reference.draw 10)) 12 0)
        (Reference.after Reference.signing Reference.signedOut)).1 = .invalid :=
  ⟨session_lifecycle Reference.lawful (Reference.run _ Reference.signedOut_healthy),
    by decide +kernel, by decide +kernel⟩

end PortalApi
