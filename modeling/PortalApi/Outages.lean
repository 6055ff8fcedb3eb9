import PortalApi.Http.Sending
import PortalApi.Recovery

/-! Statements that fail for a reason outside of the request, and whom the
response blames for it. -/

set_option autoImplicit false

namespace PortalApi

open Library

/-- The statement fails in a way that says nothing about its parameters. -/
def Weather.Outage : Weather → Prop
  | .fair => False
  | .noResult _ => True
  | .serverError sqlState _ => ∀ failure : SqlError, sqlState ≠ failure.sqlState

/-- The next statement fails whatever it is. -/
def Exchange.Outage (environment : Environment) (exchange : Exchange) : Prop :=
  exchange.world.connection = .connectionBad ∨
    (environment.moment exchange.statements).weather.Outage

/-- Any response the client gets is a server error, and unless the outside fails
more than the statement it gets one. -/
structure ServerFault (environment : Environment) (reply : Option Response) : Prop where
  possible : ∀ response, reply = some response → 500 ≤ response.status ∧ response.status < 600
  supplied : environment.Supplied → reply ≠ none

/-- If a statement of the handler fails for a reason outside of the request, the
response is a server error. -/
def Excuses (postgres : Postgres) (environment : Environment) (program : Handler MhdResult)
    (exchange : Exchange) : Prop :=
  Sends postgres environment (Exchange.Outage environment) program exchange →
    ServerFault environment (program.run (interpret postgres environment) exchange).2.reply

/-- A statement can be sent for this part, and its failure be answered. -/
structure Environment.Tells (environment : Environment) (sender : Sender) : Prop where
  sent : environment.grants (.databaseResult sender) = true
  reports : environment.reports = true
  queues : environment.queues = true

/-- A result that only an error of its own explains. -/
structure Fault (result : Option PgResult) : Prop where
  status : portalDatabaseResultStatus result = .error
  other : portalDatabaseResultIsUniqueViolation result = false

section Rules

variable {postgres : Postgres} {environment : Environment} {exchange : Exchange}

theorem Exchange.query_fault (outage : exchange.Outage environment) (statement : Statement) :
    Fault (exchange.query postgres environment statement).1 := by
  cases granted : environment.grants (.databaseResult statement.sender) with
  | false =>
      simp only [Exchange.query, granted, Bool.false_eq_true, ↓reduceIte]
      exact ⟨rfl, rfl⟩
  | true =>
      simp only [Exchange.query, granted, ↓reduceIte, interpret, World.pqExecParams]
      cases connected : exchange.world.connection with
      | connectionBad => exact ⟨rfl, rfl⟩
      | connectionOk =>
          have weather := outage.resolve_left (by simp [connected])
          cases failing : (environment.moment exchange.statements).weather with
          | fair => simp [failing, Weather.Outage] at weather
          | noResult lost => exact ⟨rfl, rfl⟩
          | serverError sqlState lost =>
              simp only [failing, Weather.Outage] at weather
              have other : sqlState ≠ bytes "23505" := weather .uniqueViolation
              refine ⟨rfl, ?_⟩
              simpa [portalDatabaseResultIsUniqueViolation, PgResult.failure] using other

theorem Answered.serverFault {response : Response} {reply : Option Response}
    (answered : Answered environment response reply)
    (fault : 500 ≤ response.status ∧ response.status < 600) : ServerFault environment reply where
  possible other given := answered.reply_eq given ▸ fault
  supplied supplied := by simp [answered.supplied supplied]

/-- What the client gets of an answer that nothing was queued before. -/
theorem Exchange.answer_reply (silent : exchange.attempts = []) (built : Bool)
    (response : Response) :
    (exchange.answer environment built response).2.reply =
      if built = true ∧ environment.queues = true then some response else none := by
  cases built <;> cases queued : environment.queues <;>
    simp [Exchange.answer, Exchange.reply, Environment.queueResult, silent, queued]

theorem serverFault_error (silent : exchange.attempts = []) (status : Nat) (code message : String)
    (fault : 500 ≤ status ∧ status < 600) :
    ServerFault environment ((portalHttpResponseError status code message).run
      (interpret postgres environment) exchange).2.reply := by
  rw [run_portalHttpResponseError]
  exact (Exchange.answer_answered silent (·.reports) _).serverFault fault

theorem Excuses.of_quiet {program : Handler MhdResult}
    (quiet : ¬ Sends postgres environment (Exchange.Outage environment) program exchange) :
    Excuses postgres environment program exchange := fun sent => absurd sent quiet

/-- A query whose failure is reported as such, and after which nothing is sent. -/
theorem excuses_query (silent : exchange.attempts = []) (statement : Statement)
    {next : Option PgResult → Handler MhdResult}
    (quiet : ∀ result after, ¬ Sends postgres environment (Exchange.Outage environment)
      (next result) after)
    (reported : ∀ result after, Fault result → after.attempts = [] →
      ServerFault environment ((next result).run (interpret postgres environment) after).2.reply) :
    Excuses postgres environment (portalDatabaseQuery statement >>= next) exchange := by
  intro sent
  have now := ((Program.meets_bind _ _ _).mp sent).resolve_right (quiet _ _)
  have outage := ((sends_portalDatabaseQuery statement).mp now).2
  rw [Program.run_bind, run_portalDatabaseQuery]
  exact reported _ _ (Exchange.query_fault outage statement) (by simp [silent])

/-- A lookup whose failure is answered with a client error, before a rest that
excuses its own. -/
theorem excuses_lookup {α : Type} {program : Handler α} {next : α → Handler MhdResult}
    {lookup : Prop} {sender : Sender} {refusal : Response}
    (sent : Sends postgres environment (Exchange.Outage environment) program exchange ↔
      lookup ∧ environment.grants (.databaseResult sender) = true ∧ exchange.Outage environment)
    (rest : ∀ value after, after.attempts = [] → Excuses postgres environment (next value) after)
    (silent : (program.run (interpret postgres environment) exchange).2.attempts = [])
    (refused : lookup → exchange.Outage environment → ∃ after : Exchange, after.attempts = [] ∧
      ((program >>= next).run (interpret postgres environment) exchange).2.reply =
        (after.answer environment environment.reports refusal).2.reply)
    (client : refusal.status < 500) :
    Excuses postgres environment (program >>= next) exchange ↔
      ¬ (lookup ∧ exchange.Outage environment ∧ environment.Tells sender) := by
  constructor
  · intro excuses ⟨met, outage, tells⟩
    have whole : Sends postgres environment (Exchange.Outage environment) (program >>= next)
        exchange := (Program.meets_bind _ _ _).mpr (.inl (sent.mpr ⟨met, tells.sent, outage⟩))
    obtain ⟨after, calm, same⟩ := refused met outage
    have given : ((program >>= next).run (interpret postgres environment) exchange).2.reply =
        some refusal := by
      rw [same, Exchange.answer_reply calm, if_pos ⟨tells.reports, tells.queues⟩]
    have fault := ((excuses whole).possible refusal given).1
    omega
  · intro unmet whole
    by_cases now : Sends postgres environment (Exchange.Outage environment) program exchange
    · obtain ⟨met, granted, outage⟩ := sent.mp now
      obtain ⟨after, calm, same⟩ := refused met outage
      have untold : ¬ (environment.reports = true ∧ environment.queues = true) := fun told =>
        unmet ⟨met, outage, granted, told.1, told.2⟩
      rw [same, Exchange.answer_reply calm, if_neg untold]
      refine ⟨?_, fun supplied => absurd ⟨supplied.reports, supplied.queued⟩ untold⟩
      intro response none
      cases none
    · rw [Program.run_bind]
      exact rest _ _ silent (((Program.meets_bind _ _ _).mp whole).resolve_left now)

end Rules

section Routes

variable {postgres : Postgres} {environment : Environment} {exchange : Exchange}
  {request : Request} {json : Option Json}

theorem portalHttpRouteRegister_excuses (silent : exchange.attempts = [])
    (context : PortalHttpContext) :
    Excuses postgres environment (portalHttpRouteRegister context json) exchange := by
  intro sent
  obtain ⟨present, _, outage⟩ := (sends_portalHttpRouteRegister context).mp sent
  obtain ⟨fields, read⟩ := Option.isSome_iff_exists.mp present
  have fault : Fault (exchange.query postgres environment (fields.statement context.config)).1 :=
    Exchange.query_fault outage _
  simp only [run_portalHttpRouteRegister, read]
  rw [if_pos (by simp [fault.status]), registerFailure, if_neg (by simp [fault.other])]
  exact (Exchange.answer_answered (by simp [silent]) (·.reports) _).serverFault (by simp)

theorem portalHttpRouteLogin_excuses (silent : exchange.attempts = [])
    (context : PortalHttpContext) :
    Excuses postgres environment (portalHttpRouteLogin context json) exchange := by
  intro sent
  obtain ⟨present, _, outage⟩ := (sends_portalHttpRouteLogin context).mp sent
  obtain ⟨fields, read⟩ := Option.isSome_iff_exists.mp present
  have fault : Fault (exchange.query postgres environment (fields.statement context.config)).1 :=
    Exchange.query_fault outage _
  simp only [run_portalHttpRouteLogin, read]
  rw [if_pos (by simp [fault.status])]
  exact (Exchange.answer_answered (by simp [silent]) (·.reports) _).serverFault (by simp)

/-- The confirmation takes every failure of its statement for a wrong token. -/
theorem portalHttpRouteConfirm_excuses (silent : exchange.attempts = []) :
    Excuses postgres environment (portalHttpRouteConfirm json) exchange ↔
      ¬ ((confirmText json).isSome = true ∧ exchange.Outage environment ∧
        environment.Tells .route) := by
  cases read : confirmText json with
  | none =>
      have quiet : ¬ Sends postgres environment (Exchange.Outage environment)
          (portalHttpRouteConfirm json) exchange := by
        simp [sends_portalHttpRouteConfirm, read]
      simpa using Excuses.of_quiet quiet
  | some text =>
      have found : portalHttpJsonString json (bytes "token") portalHttpUuidTextLength
          portalHttpUuidTextLength = some text := read
      unfold portalHttpRouteConfirm
      simp only [found]
      apply excuses_lookup
      · simp [Statement.sender]
      · intro result after silent
        split
        · exact .of_quiet (sends_portalHttpResponseError _ _ _)
        · exact .of_quiet (sends_portalHttpResponseBytes _ _ _)
      · simp [silent]
      · intro _ outage
        have fault : Fault (exchange.query postgres environment (.confirm text)).1 :=
          Exchange.query_fault outage _
        refine ⟨(exchange.query postgres environment (.confirm text)).2, by simp [silent], ?_⟩
        rw [Program.run_bind, run_portalDatabaseQuery, if_pos (by simp [fault.status]),
          run_portalHttpResponseError]
      · decide

/-! The lookup of the session is the first statement of the other routes, and a
lookup that fails is an invalid session. -/

theorem run_portalHttpAuthenticate_outage (postgres : Postgres)
    (present : (bearerToken request).isSome = true) (outage : exchange.Outage environment) :
    ∃ after, (portalHttpAuthenticate request).run (interpret postgres environment) exchange =
      ((.invalid, .blank), after) ∧ after.attempts = exchange.attempts := by
  obtain ⟨text, bearer⟩ := Option.isSome_iff_exists.mp present
  obtain ⟨header, length⟩ := bearerToken_eq_some.mp bearer
  have fault : Fault (exchange.query postgres environment (.authenticate text)).1 :=
    Exchange.query_fault outage _
  have start : bytes "Bearer " ≠ [] := by decide
  refine ⟨(exchange.query postgres environment (.authenticate text)).2, ?_, by simp⟩
  simp [portalHttpAuthenticate, header, length, start, fault.status]

/-- A route behind the lookup that answers an invalid session with 401. -/
theorem excuses_authenticate (silent : exchange.attempts = [])
    {next : PortalAuthStatus × PortalAuthenticatedUser → Handler MhdResult}
    (rest : ∀ value after, after.attempts = [] → Excuses postgres environment (next value) after)
    {code message : String}
    (refuses : next (.invalid, .blank) = portalHttpResponseError 401 code message) :
    Excuses postgres environment (portalHttpAuthenticate request >>= next) exchange ↔
      ¬ ((bearerToken request).isSome = true ∧ exchange.Outage environment ∧
        environment.Tells .authentication) := by
  have client : (errorResponse 401 code message).status < 500 := by simp
  refine excuses_lookup sends_portalHttpAuthenticate rest ?_ ?_ client
  · rw [portalHttpAuthenticate_attempts, silent]
  · intro present outage
    obtain ⟨after, ran, attempts⟩ := run_portalHttpAuthenticate_outage postgres present outage
    refine ⟨after, attempts.trans silent, ?_⟩
    rw [Program.run_bind, ran, refuses, run_portalHttpResponseError]

theorem portalHttpRouteLogout_excuses (silent : exchange.attempts = []) :
    Excuses postgres environment (portalHttpRouteLogout request) exchange ↔
      ¬ ((bearerToken request).isSome = true ∧ exchange.Outage environment ∧
        environment.Tells .authentication) := by
  apply excuses_authenticate silent
  · intro ⟨status, user⟩ after silent
    simp only
    split
    · exact .of_quiet (sends_portalHttpResponseError _ _ _)
    · apply excuses_query silent
      · intro result after
        simp [authDatabaseError]
      · intro result after fault silent
        rw [if_pos (by simp [fault.status]), authDatabaseError]
        exact serverFault_error silent _ _ _ (by decide)
  · rfl

theorem portalHttpRouteFavoriteList_excuses (silent : exchange.attempts = [])
    (kind : PortalFavoriteKind) :
    Excuses postgres environment (portalHttpRouteFavoriteList request kind) exchange ↔
      ¬ ((bearerToken request).isSome = true ∧ exchange.Outage environment ∧
        environment.Tells .authentication) := by
  rw [portalHttpRouteFavoriteList, favoriteHasAuthenticatedUser, Program.bind_bind]
  apply excuses_authenticate silent
  · intro found after silent
    obtain ⟨status, user⟩ := found
    show Excuses _ _ (if _ then _ else _) _
    split
    · exact .of_quiet (sends_portalHttpResponseError _ _ _)
    · apply excuses_query silent
      · intro result after
        split
        · exact sends_portalHttpResponseError _ _ _
        · simp only [Program.meets_bind, sends_allocate, false_or]
          split
          · exact Program.meets_pure _ _
          · exact sends_portalHttpResponseJson _ _
      · intro result after fault silent
        rw [if_pos (by simp [fault.status])]
        exact serverFault_error silent _ _ _ (by decide)
  · rfl

theorem portalHttpRouteFavoriteChange_excuses (silent : exchange.attempts = [])
    (kind : PortalFavoriteKind) (key : Bytes) :
    Excuses postgres environment (portalHttpRouteFavoriteChange request kind key) exchange ↔
      ¬ ((bearerToken request).isSome = true ∧ exchange.Outage environment ∧
        environment.Tells .authentication) := by
  rw [portalHttpRouteFavoriteChange, favoriteHasAuthenticatedUser, Program.bind_bind]
  apply excuses_authenticate silent
  · intro found after silent
    obtain ⟨status, user⟩ := found
    show Excuses _ _ (if _ then _ else _) _
    split
    · exact .of_quiet (sends_portalHttpResponseError _ _ _)
    split
    · exact .of_quiet (sends_portalHttpResponseError _ _ _)
    · apply excuses_query silent
      · intro result after
        simp
      · intro result after fault silent
        rw [if_pos (by simp [fault.status])]
        exact serverFault_error silent _ _ _ (by decide)
  · rfl

theorem portalHttpRouteTopContent_excuses (silent : exchange.attempts = []) :
    Excuses postgres environment (portalHttpRouteTopContent request) exchange ↔
      ¬ ((bearerToken request).isSome = true ∧ exchange.Outage environment ∧
        environment.Tells .authentication) := by
  apply excuses_authenticate silent
  · intro ⟨status, user⟩ after silent
    simp only
    split
    · exact .of_quiet (sends_portalHttpResponseError _ _ _)
    split
    · exact .of_quiet (sends_portalHttpResponseError _ _ _)
    split
    · split
      · exact .of_quiet (sends_portalHttpResponseError _ _ _)
      · apply excuses_query silent
        · intro result after
          split
          · exact sends_portalHttpResponseError _ _ _
          · simp only [Program.meets_bind, sends_allocate, false_or]
            split
            · exact Program.meets_pure _ _
            · simp only [Program.meets_bind, sends_topContentItems, false_or]
              split
              · exact Program.meets_pure _ _
              · exact sends_portalHttpResponseJson _ _
        · intro result after fault silent
          rw [if_pos (by simp [fault.status])]
          exact serverFault_error silent _ _ _ (by decide)
    · exact .of_quiet (sends_portalHttpResponseError _ _ _)
  · rfl

theorem run_activityLoadActor_outage (postgres : Postgres)
    (present : (bearerToken request).isSome = true) (outage : exchange.Outage environment) :
    ∃ actor after, (activityLoadActor request json).run (interpret postgres environment) exchange =
      ((.invalid, actor), after) ∧ after.attempts = exchange.attempts := by
  obtain ⟨after, ran, attempts⟩ := run_portalHttpAuthenticate_outage postgres present outage
  refine ⟨⟨.blank, anonymousIdText json, []⟩, after, ?_, attempts⟩
  simp [activityLoadActor, ran, anonymousIdText]

theorem attempts_activityLoadActor (exchange : Exchange) :
    ((activityLoadActor request json).run (interpret postgres environment) exchange).2.attempts =
      exchange.attempts := by
  simp only [activityLoadActor, Program.run_bind]
  split
  · exact portalHttpAuthenticate_attempts exchange
  · exact portalHttpAuthenticate_attempts exchange
  · split <;> exact portalHttpAuthenticate_attempts exchange

/-- A route with optional authentication, whose rest excuses its own statement. -/
theorem excuses_activityLoadActor (silent : exchange.attempts = [])
    {next : PortalAuthStatus × PortalActivityActor → Handler MhdResult}
    (rest : ∀ value after, after.attempts = [] → Excuses postgres environment (next value) after)
    (refuses : ∀ actor, next (.invalid, actor) = activityActorError request .invalid) :
    Excuses postgres environment (activityLoadActor request json >>= next) exchange ↔
      ¬ ((bearerToken request).isSome = true ∧ exchange.Outage environment ∧
        environment.Tells .authentication) := by
  have client : invalidTokenResponse.status < 500 := by decide
  refine excuses_lookup sends_activityLoadActor rest ?_ ?_ client
  · rw [attempts_activityLoadActor, silent]
  · intro present outage
    obtain ⟨actor, after, ran, attempts⟩ := run_activityLoadActor_outage postgres present outage
    obtain ⟨text, bearer⟩ := Option.isSome_iff_exists.mp present
    have authorized : request.authorization.getD [] ≠ [] := bearerToken_present bearer
    refine ⟨after, attempts.trans silent, ?_⟩
    rw [Program.run_bind, ran, refuses, run_activityActorError, if_pos authorized]

theorem portalHttpRouteActivity_excuses (silent : exchange.attempts = []) (jsonC : JsonC) :
    Excuses postgres environment (portalHttpRouteActivity jsonC request json) exchange ↔
      ¬ (((activityFields json).isSome = true ∧ (bearerToken request).isSome = true) ∧
        exchange.Outage environment ∧ environment.Tells .authentication) := by
  unfold portalHttpRouteActivity
  cases read : activityFields json with
  | none =>
      rw [if_pos (activityFields_eq_none.mp read)]
      simp only [Option.isSome_none, Bool.false_eq_true, false_and, not_false_eq_true, iff_true]
      exact .of_quiet (sends_portalHttpResponseError _ _ _)
  | some fields =>
      rw [if_neg (mt activityFields_eq_none.mpr (by simp [read])), Option.isSome_some,
        and_iff_right rfl]
      apply excuses_activityLoadActor silent
      · intro ⟨status, actor⟩ after silent
        simp only
        split
        · exact .of_quiet (sends_activityActorError _)
        split
        · exact .of_quiet (sends_portalHttpResponseError _ _ _)
        · apply excuses_query silent
          · intro result after
            split
            · exact sends_portalHttpResponseError _ _ _
            · exact sends_describing _ _
          · intro result after fault silent
            rw [if_pos (by simp [fault.status])]
            exact serverFault_error silent _ _ _ (by decide)
      · intro actor
        rfl

theorem portalHttpRouteLike_excuses (silent : exchange.attempts = []) (contentId : Bytes) :
    Excuses postgres environment (portalHttpRouteLike request contentId json) exchange ↔
      ¬ ((portalValidationKey (some contentId) 300 = true ∧ (bearerToken request).isSome = true) ∧
        exchange.Outage environment ∧ environment.Tells .authentication) := by
  unfold portalHttpRouteLike
  cases content : portalValidationKey (some contentId) 300 with
  | false =>
      rw [if_pos (by simp)]
      simp only [Bool.false_eq_true, false_and, not_false_eq_true, iff_true]
      exact .of_quiet (sends_portalHttpResponseError _ _ _)
  | true =>
      rw [if_neg (by simp), and_iff_right rfl]
      apply excuses_activityLoadActor silent
      · intro ⟨status, actor⟩ after silent
        simp only
        split
        · exact .of_quiet (sends_activityActorError _)
        split
        · exact .of_quiet (sends_portalHttpResponseError _ _ _)
        · apply excuses_query silent
          · intro result after
            simp
          · intro result after fault silent
            rw [if_pos (by simp [fault.status])]
            exact serverFault_error silent _ _ _ (by decide)
      · intro actor
        rfl

theorem portalHttpRouteComment_excuses (silent : exchange.attempts = []) (contentId : Bytes) :
    Excuses postgres environment (portalHttpRouteComment request contentId json) exchange ↔
      ¬ (((commentFields contentId json).isSome = true ∧ (bearerToken request).isSome = true) ∧
        exchange.Outage environment ∧ environment.Tells .authentication) := by
  unfold portalHttpRouteComment
  cases read : commentFields contentId json with
  | none =>
      rw [if_pos (commentFields_eq_none.mp read)]
      simp only [Option.isSome_none, Bool.false_eq_true, false_and, not_false_eq_true, iff_true]
      exact .of_quiet (sends_portalHttpResponseError _ _ _)
  | some fields =>
      rw [if_neg (mt commentFields_eq_none.mpr (by simp [read])), Option.isSome_some,
        and_iff_right rfl]
      apply excuses_activityLoadActor silent
      · intro ⟨status, actor⟩ after silent
        simp only
        split
        · exact .of_quiet (sends_activityActorError _)
        · apply excuses_query silent
          · intro result after
            split
            · exact sends_portalHttpResponseError _ _ _
            · exact sends_describing _ _
          · intro result after fault silent
            rw [if_pos (by simp [fault.status])]
            exact serverFault_error silent _ _ _ (by decide)
      · intro actor
        rfl

end Routes

/-- The handler's first statement is one whose failure it blames on the client:
the lookup of the session, or the confirmation. -/
def Endpoint.Blames (request : Request) (json : Option Json) : Endpoint → Prop
  | .topContent | .favoriteList _ | .logout | .favoriteChange _ _ =>
    (bearerToken request).isSome = true
  | .confirm => (confirmText json).isSome = true
  | .activity => (activityFields json).isSome = true ∧ (bearerToken request).isSome = true
  | .like contentId =>
    portalValidationKey (some contentId) 300 = true ∧ (bearerToken request).isSome = true
  | .comment contentId =>
    (commentFields contentId json).isSome = true ∧ (bearerToken request).isSome = true
  | _ => False

/-- The part of the request that the handler's first statement is sent for. -/
def Endpoint.opens : Endpoint → Sender
  | .register | .confirm | .login => .route
  | _ => .authentication

instance (request : Request) (json : Option Json) (endpoint : Endpoint) :
    Decidable (endpoint.Blames request json) :=
  match endpoint with
  | .topContent | .favoriteList _ | .logout | .favoriteChange _ _ =>
    inferInstanceAs (Decidable ((bearerToken request).isSome = true))
  | .confirm => inferInstanceAs (Decidable ((confirmText json).isSome = true))
  | .activity => inferInstanceAs (Decidable (_ ∧ (bearerToken request).isSome = true))
  | .like _ => inferInstanceAs (Decidable (_ ∧ (bearerToken request).isSome = true))
  | .comment _ => inferInstanceAs (Decidable (_ ∧ (bearerToken request).isSome = true))
  | .options | .health | .register | .login | .longContentId | .invalidJson | .notFound =>
    inferInstanceAs (Decidable False)

theorem Endpoint.handler_excuses {postgres : Postgres} {environment : Environment}
    {exchange : Exchange} (silent : exchange.attempts = []) (context : PortalHttpContext)
    (jsonC : JsonC) (request : Request) (json : Option Json) (endpoint : Endpoint) :
    Excuses postgres environment (endpoint.handler context jsonC request json) exchange ↔
      ¬ (endpoint.Blames request json ∧ exchange.Outage environment ∧
        environment.Tells endpoint.opens) := by
  cases endpoint with
  | topContent => exact portalHttpRouteTopContent_excuses silent
  | favoriteList kind => exact portalHttpRouteFavoriteList_excuses silent kind
  | logout => exact portalHttpRouteLogout_excuses silent
  | favoriteChange kind key => exact portalHttpRouteFavoriteChange_excuses silent kind key
  | confirm => exact portalHttpRouteConfirm_excuses silent
  | activity => exact portalHttpRouteActivity_excuses silent jsonC
  | like contentId => exact portalHttpRouteLike_excuses silent contentId
  | comment contentId => exact portalHttpRouteComment_excuses silent contentId
  | register => simpa [Blames, handler] using portalHttpRouteRegister_excuses silent context
  | login => simpa [Blames, handler] using portalHttpRouteLogin_excuses silent context
  | options => simpa [Blames, handler] using Excuses.of_quiet sends_portalHttpResponseOptions
  | health =>
      have quiet : ¬ Sends postgres environment (Exchange.Outage environment)
          (Endpoint.health.handler context jsonC request json) exchange := by
        simp [handler]
      simpa [Blames] using Excuses.of_quiet quiet
  | longContentId =>
      simpa [Blames, handler] using Excuses.of_quiet (sends_portalHttpResponseError _ _ _)
  | invalidJson =>
      simpa [Blames, handler] using Excuses.of_quiet (sends_portalHttpResponseError _ _ _)
  | notFound => simpa [Blames, handler] using Excuses.of_quiet (sends_portalHttpResponseError _ _ _)

namespace Service

variable (service : Service)

/-- If a statement of the request failed for a reason outside of it, the client
was told of a server error. -/
def Excused (entry : Entry) : Prop :=
  Sends service.postgres entry.input.environment (Exchange.Outage entry.input.environment)
      (httpDispatch service.context service.jsonC entry.input.request) entry.before.exchange →
    ServerFault entry.input.environment entry.output

/-- The first statement of the request was the lookup of a session or a
confirmation, and failed for a reason outside of the request. -/
structure Blamed (entry : Entry) : Prop where
  endpoint : (entry.input.request.routed (service.parsed entry.input)).1.Blames entry.input.request
    (entry.input.request.routed (service.parsed entry.input)).2
  outage : entry.before.exchange.Outage entry.input.environment
  tells : entry.input.environment.Tells
    (entry.input.request.routed (service.parsed entry.input)).1.opens

/-- No request of any run is told that it is at fault for such a failure. -/
def OutagesExcused : Prop :=
  ∀ admits entries world, service.Run admits entries world →
    ∀ entry ∈ entries, service.Excused entry

variable {service}

theorem excused_iff {entry : Entry}
    (output : entry.output = (service.serve entry.input entry.before).1) :
    service.Excused entry ↔ ¬ service.Blamed entry := by
  have silent : entry.before.exchange.attempts = [] := rfl
  rw [Excused, output, serve, dispatch, run_httpDispatch, sends_httpDispatch]
  refine (Endpoint.handler_excuses silent _ _ _ _ _).trans (not_congr ?_)
  constructor
  · intro failed
    exact ⟨failed.1, failed.2.1, failed.2.2⟩
  · intro blamed
    exact ⟨blamed.endpoint, blamed.outage, blamed.tells⟩

end Service

/-- In every run, whatever else fails, a failure of the database is reported as
one exactly when it did not hit the lookup of a session or a confirmation. -/
theorem outages_excused_iff {service : Service} {admits : Environment → Prop}
    {entries : List Service.Entry} {world : World} (run : service.Run admits entries world) :
    ∀ entry ∈ entries, service.Excused entry ↔ ¬ service.Blamed entry := by
  intro entry member
  obtain ⟨earlier, later, rfl⟩ := List.append_of_mem member
  exact Service.excused_iff (Service.Run.reached run).2.2.1

namespace Reference

/-- The confirmation of the account over a connection that breaks. -/
def droppedConfirmation : Call where
  request := (post "/auth/confirm" (confirmation 1) 2 0).request
  environment := { environment 2 0 with
    moment := fun index => { (environment 2 0).moment index with weather := .noResult true } }

def dropped : List Call := [post "/auth/register" account 1 0, droppedConfirmation]

def droppedEntries : List Service.Entry :=
  ((waiting.machine Environment.Supplied).play start dropped).1

def droppedEntry : Service.Entry :=
  (waiting.machine Environment.Supplied).event droppedConfirmation
    ((waiting.machine Environment.Supplied).event (post "/auth/register" account 1 0) start).after

theorem dropped_run : waiting.Run Environment.Supplied droppedEntries
    ((waiting.machine Environment.Supplied).play start dropped).2 := by
  have begins : waiting.Run Environment.Supplied [] start := .start ⟨rfl, rfl⟩
  have supplied : ∀ call ∈ dropped, call.environment.Supplied := by
    intro call member
    rcases List.mem_pair.mp member with rfl | rfl
    · exact (environment_healthy 1 0).supplied
    · exact ⟨fun _ => rfl, rfl⟩
  simpa [droppedEntries] using begins.play supplied

end Reference

/-- The valid token is called invalid because the connection was lost. -/
theorem outages_excused_iff_dropped :
    (∀ entry ∈ Reference.droppedEntries,
        Reference.waiting.Excused entry ↔ ¬ Reference.waiting.Blamed entry) ∧
      Reference.droppedEntries.map (fun entry => statusOf entry.output) = [some 201, some 400] :=
  ⟨outages_excused_iff Reference.dropped_run, by decide +kernel⟩

theorem outage_blamed : ¬ Reference.waiting.OutagesExcused := by
  intro always
  have excused := always _ _ _ Reference.dropped_run Reference.droppedEntry (by
    simp [Reference.droppedEntries, Reference.dropped, Machine.play, Reference.droppedEntry])
  refine (Service.excused_iff rfl).mp excused ⟨?_, .inr trivial, rfl, rfl, rfl⟩
  decide +kernel

end PortalApi
