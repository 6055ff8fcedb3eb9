import PortalApi.Outages

/-! What `GET /health` says, and what the other requests meet, over the times in
which PostgreSQL cannot be reached. -/

set_option autoImplicit false

namespace PortalApi

open Library

/-- PostgreSQL goes away, comes back, or a request arrives. -/
inductive Happening where
  | lost
  | returned
  | request (call : Call)

/-- The service beside its server. The one connection that `main` opened is
linked as long as it still leads there; nothing opens another. -/
structure Deployment where
  world : World
  reachable : Bool
  linked : Bool

/-- Over a broken connection a query fails, and libpq records it. -/
def Weather.broken : Weather → Weather
  | .serverError sqlState _ => .serverError sqlState true
  | _ => .noResult true

/-- What a request meets over a connection that leads to the server or does not. -/
def Environment.over (environment : Environment) (linked : Bool) : Environment :=
  { environment with
    moment := fun index =>
      { environment.moment index with
        weather := if linked then .fair else (environment.moment index).weather.broken } }

def Call.over (call : Call) (linked : Bool) : Call :=
  { call with environment := call.environment.over linked }

namespace Service

variable (service : Service)

/-- The service while PostgreSQL comes and goes, started over a server it reaches. -/
def deployment : Machine Happening (Option Response) Deployment where
  initial deployed := deployed.world.connection = .connectionOk ∧
    deployed.world.database = Database.empty ∧ deployed.reachable = true ∧ deployed.linked = true
  admits
    | .request call => call.environment.Supplied
    | _ => True
  step
    | .lost, deployed => (none, { deployed with reachable := false, linked := false })
    | .returned, deployed => (none, { deployed with reachable := true })
    | .request call, deployed =>
      let served := service.serve (call.over deployed.linked) deployed.world
      (served.1, { deployed with world := served.2 })

abbrev Episode := Event Happening (Option Response) Deployment

/-- The request is one that a statement is sent for. -/
def Asks (call : Call) : Prop :=
  (call.request.routed (service.parsed call)).1.Asks service.jsonC call.request
    (call.request.routed (service.parsed call)).2

/-- A statement of the request is sent over a connection that does not carry it. -/
def Disrupted (call : Call) (deployed : Deployment) : Prop :=
  Sends service.postgres (call.environment.over deployed.linked)
    (fun exchange => exchange.world.connection = .connectionBad ∨
      ((call.environment.over deployed.linked).moment exchange.statements).weather ≠ .fair)
    (httpDispatch service.context service.jsonC call.request) deployed.world.exchange

/-- PostgreSQL was away at some time. -/
def Lost (episodes : List Episode) : Prop := ∃ episode ∈ episodes, episode.input = .lost

/-- Some request needed the database after it had been away. -/
def AskedSince (episodes : List Episode) : Prop :=
  ∃ earlier asking later call, episodes = earlier ++ asking :: later ∧ Lost earlier ∧
    asking.input = .request call ∧ service.Asks call

end Service

section Step

variable {service : Service} {call : Call} {world : World}

theorem Environment.Supplied.over {environment : Environment} (supplied : environment.Supplied)
    (linked : Bool) : (environment.over linked).Supplied := ⟨supplied.granted, supplied.queued⟩

theorem weather_over_broken (environment : Environment) (index : Nat) :
    ((environment.over false).moment index).weather = .noResult true ∨
      ∃ sqlState, ((environment.over false).moment index).weather = .serverError sqlState true := by
  cases weather : (environment.moment index).weather with
  | fair => exact .inl (by simp [Environment.over, weather, Weather.broken])
  | noResult lost => exact .inl (by simp [Environment.over, weather, Weather.broken])
  | serverError sqlState lost =>
      exact .inr ⟨sqlState, by simp [Environment.over, weather, Weather.broken]⟩

private theorem interpret_linked (postgres : Postgres) (environment : Environment)
    (operation : Operation) (exchange : Exchange)
    (connected : exchange.world.connection = .connectionOk) :
    (interpret postgres (environment.over true) operation exchange).2.world.connection =
      .connectionOk := by
  cases operation with
  | pqExecParams statement =>
      have fair : ((environment.over true).moment exchange.statements).weather = .fair := rfl
      simp only [interpret, World.pqExecParams, connected, fair]
      split <;> rfl
  | _ => exact connected

private theorem interpret_bad (postgres : Postgres) (environment : Environment)
    (operation : Operation) (exchange : Exchange)
    (bad : exchange.world.connection = .connectionBad) :
    (interpret postgres environment operation exchange).2.world.connection = .connectionBad := by
  cases operation with
  | pqExecParams statement => simp only [interpret, World.pqExecParams, bad]
  | _ => exact bad

private theorem interpret_broken (postgres : Postgres) (environment : Environment)
    (operation : Operation) (exchange : Exchange) (sent : operation.IsStatement) :
    (interpret postgres (environment.over false) operation exchange).2.world.connection =
      .connectionBad := by
  cases operation with
  | pqExecParams statement =>
      cases connected : exchange.world.connection with
      | connectionBad => simp only [interpret, World.pqExecParams, connected]
      | connectionOk =>
          rcases weather_over_broken environment exchange.statements with lost | ⟨sqlState, lost⟩
          · simp only [interpret, World.pqExecParams, connected, lost, afterFailure, ↓reduceIte]
          · simp only [interpret, World.pqExecParams, connected, lost, afterFailure, ↓reduceIte]
  | _ => exact sent.elim

/-- Only statements make libpq look at the connection. -/
private theorem interpret_unasked (postgres : Postgres) (environment : Environment)
    (operation : Operation) (exchange : Exchange)
    (other : ¬ SentIn (fun _ => True) operation exchange) :
    (interpret postgres environment operation exchange).2.world.connection =
      exchange.world.connection := by
  cases operation with
  | pqExecParams statement => exact absurd ⟨trivial, trivial⟩ other
  | _ => rfl

theorem Service.asked_iff (supplied : call.environment.Supplied) (world : World) (linked : Bool) :
    Asked service.postgres (call.environment.over linked)
        (httpDispatch service.context service.jsonC call.request) world.exchange ↔
      service.Asks call := by
  have granted : ∀ sender, (call.environment.over linked).grants (.databaseResult sender) = true :=
    fun sender => supplied.granted _
  exact sends_httpDispatch.trans (Endpoint.handler_asked granted _ _ _)

theorem Service.serve_linked (connected : world.connection = .connectionOk) :
    (service.serve (call.over true) world).2.connection = .connectionOk :=
  Program.run_preserves (interpret_linked service.postgres call.environment) _ connected

/-- Over a broken connection libpq learns of it by the requests that need the database. -/
theorem Service.serve_broken (supplied : call.environment.Supplied) :
    (service.serve (call.over false) world).2.connection = .connectionBad ↔
      world.connection = .connectionBad ∨ service.Asks call := by
  have asked : Asked service.postgres _ _ _ ↔ _ := Service.asked_iff supplied world false
  constructor
  · intro bad
    by_cases asks : service.Asks call
    · exact .inr asks
    · left
      have same := Program.run_of_not_meets (fun exchange : Exchange => exchange.world.connection)
        (interpret_unasked service.postgres (call.environment.over false)) (mt asked.mp asks)
      exact same.symm.trans bad
  · intro either
    rcases either with bad | asks
    · exact Program.run_preserves (interpret_bad service.postgres _) _ bad
    · exact Program.Meets.run_after (interpret_bad service.postgres _)
        (fun operation exchange sent => interpret_broken service.postgres _ operation exchange sent.1)
        (asked.mpr asks)

theorem Service.not_disrupted {deployed : Deployment} (linked : deployed.linked = true)
    (connected : deployed.world.connection = .connectionOk) : ¬ service.Disrupted call deployed := by
  rw [Disrupted, linked]
  refine Program.not_meets_of_invariant (interpret_linked service.postgres call.environment) ?_
    connected
  intro operation exchange good sent
  rcases sent.2 with bad | weather
  · cases bad.symm.trans good
  · exact weather rfl

theorem Service.disrupted_iff {deployed : Deployment} (broken : deployed.linked = false)
    (supplied : call.environment.Supplied) :
    service.Disrupted call deployed ↔ service.Asks call := by
  rw [Disrupted, broken, ← Service.asked_iff supplied deployed.world false]
  constructor
  · intro sent
    exact sent.mono fun operation exchange chosen => ⟨chosen.1, trivial⟩
  · intro sent
    refine sent.mono fun operation exchange chosen => ⟨chosen.1, .inr ?_⟩
    rcases weather_over_broken call.environment exchange.statements with lost | ⟨sqlState, lost⟩
    · simp [lost]
    · simp [lost]

/-- The health check reads what libpq last recorded. -/
theorem Service.serve_health (get : call.request.At "GET" "/health")
    (supplied : call.environment.Supplied) :
    (service.serve call world).1 = some (healthResponse world.connection) := by
  have silent : world.exchange.attempts = [] := rfl
  rw [serve, dispatch, run_httpDispatch, routed_health get]
  simp only [Endpoint.handler, Program.run_bind]
  cases connected : world.connection with
  | connectionOk =>
      have good : world.exchange.world.connection = .connectionOk := connected
      rw [if_neg (by simp [good]), run_portalHttpResponseBytes]
      exact (Exchange.answer_answered silent (·.builds) _).supplied supplied
  | connectionBad =>
      have bad : world.exchange.world.connection ≠ .connectionOk := by
        simp [World.exchange, connected]
      rw [if_pos (by simp [bad]), run_portalHttpResponseError]
      exact (Exchange.answer_answered silent (·.reports) _).supplied supplied

end Step

section Run

variable {service : Service} {episodes : List Service.Episode} {deployed : Deployment}

theorem Service.lost_append {episode : Service.Episode} :
    Service.Lost (episodes ++ [episode]) ↔ Service.Lost episodes ∨ episode.input = .lost := by
  simp [Service.Lost, or_and_right, exists_or]

theorem Service.askedSince_append {episode : Service.Episode} :
    service.AskedSince (episodes ++ [episode]) ↔ service.AskedSince episodes ∨
      Service.Lost episodes ∧ ∃ call, episode.input = .request call ∧ service.Asks call := by
  constructor
  · intro ⟨earlier, asking, later, call, split, lost, request, asks⟩
    obtain ⟨_, rfl, rfl⟩ | ⟨rest, _, rfl⟩ := split_concat split.symm
    · exact .inr ⟨lost, call, request, asks⟩
    · exact .inl ⟨earlier, asking, rest, call, rfl, lost, request, asks⟩
  · intro either
    rcases either with ⟨earlier, asking, later, call, rfl, lost, request, asks⟩ |
      ⟨lost, call, request, asks⟩
    · exact ⟨earlier, asking, later ++ [episode], call, by simp, lost, request, asks⟩
    · exact ⟨episodes, episode, [], call, rfl, lost, request, asks⟩

/-- The connection leads to the server until it is lost once, and is recorded as
bad once a request has needed the database after that. -/
structure Tracked (service : Service) (episodes : List Service.Episode) (deployed : Deployment) :
    Prop where
  linked : deployed.linked = true ↔ ¬ Service.Lost episodes
  connection : deployed.world.connection = .connectionBad ↔ service.AskedSince episodes

theorem Tracked.start (initial : service.deployment.initial deployed) :
    Tracked service [] deployed where
  linked := by simp [Service.Lost, initial.2.2.2]
  connection := by simp [Service.AskedSince, initial.1]

theorem Tracked.connected (tracked : Tracked service episodes deployed)
    (linked : deployed.linked = true) : deployed.world.connection = .connectionOk := by
  have never := tracked.linked.mp linked
  cases recorded : deployed.world.connection with
  | connectionOk => rfl
  | connectionBad =>
      obtain ⟨earlier, _, _, _, split, ⟨loss, member, same⟩, _⟩ := tracked.connection.mp recorded
      exact absurd ⟨loss, by simp [split, member], same⟩ never

theorem Tracked.next (tracked : Tracked service episodes deployed) (happening : Happening)
    (admitted : service.deployment.admits happening) :
    Tracked service (episodes ++ [service.deployment.event happening deployed])
      (service.deployment.event happening deployed).after := by
  cases happening with
  | lost =>
      refine ⟨?_, ?_⟩
      · rw [Service.lost_append]
        simp [Machine.event, Service.deployment]
      · rw [Service.askedSince_append, ← tracked.connection]
        simp [Machine.event, Service.deployment]
  | returned =>
      refine ⟨?_, ?_⟩
      · rw [Service.lost_append]
        simpa [Machine.event, Service.deployment] using tracked.linked
      · rw [Service.askedSince_append, ← tracked.connection]
        simp [Machine.event, Service.deployment]
  | request call =>
      refine ⟨?_, ?_⟩
      · rw [Service.lost_append]
        simpa [Machine.event, Service.deployment] using tracked.linked
      · rw [Service.askedSince_append, ← tracked.connection]
        cases linked : deployed.linked with
        | true =>
            have never := tracked.linked.mp linked
            have connected := tracked.connected linked
            have after : (service.deployment.event (.request call) deployed).after.world.connection =
                .connectionOk := by
              simp only [Machine.event, Service.deployment, linked]
              exact Service.serve_linked connected
            simp [after, connected, never]
        | false =>
            have lost : Service.Lost episodes := by
              apply Classical.byContradiction
              intro never
              cases linked.symm.trans (tracked.linked.mpr never)
            have after : (service.deployment.event (.request call) deployed).after.world.connection =
                .connectionBad ↔ deployed.world.connection = .connectionBad ∨ service.Asks call := by
              simp only [Machine.event, Service.deployment, linked]
              exact Service.serve_broken admitted
            rw [after]
            simp [lost, Machine.event]

theorem Tracked.of_run (run : service.deployment.Run episodes deployed) :
    Tracked service episodes deployed := by
  induction run with
  | start initial => exact .start initial
  | next happening _ admitted ih => exact ih.next happening admitted

/-- An episode of a run with the part of the run before it. -/
theorem Service.deployment_reached {earlier later : List Service.Episode} {episode : Service.Episode}
    (run : service.deployment.Run (earlier ++ episode :: later) deployed) :
    Tracked service earlier episode.before ∧ service.deployment.admits episode.input ∧
      episode.output = (service.deployment.step episode.input episode.before).1 := by
  obtain ⟨reached, admitted, same⟩ := run.reaches_event
  exact ⟨Tracked.of_run reached, admitted, congrArg Event.output same⟩

end Run

namespace Service

variable (service : Service)

/-- The health check tells whether PostgreSQL is there, and what is asked of it
while it is there reaches it. -/
structure Truthful (call : Call) (episode : Episode) : Prop where
  unavailable : call.request.At "GET" "/health" → episode.before.reachable = false →
    statusOf episode.output = some 503
  available : call.request.At "GET" "/health" → episode.before.reachable = true →
    statusOf episode.output = some 200
  served : episode.before.reachable = true → ¬ service.Disrupted call episode.before

/-- A request that comes at a good time: the outage has been noticed by an
earlier request, or there was none that this request could notice. -/
structure Spared (call : Call) (earlier : List Episode) (reachable : Bool) : Prop where
  unavailable : call.request.At "GET" "/health" → reachable = false → service.AskedSince earlier
  available : call.request.At "GET" "/health" → reachable = true → ¬ service.AskedSince earlier
  served : reachable = true → Lost earlier → ¬ service.Asks call

/-- In every run every request meets the truth about PostgreSQL. -/
def AlwaysTruthful : Prop :=
  ∀ earlier episode later deployed call, service.deployment.Run (earlier ++ episode :: later) deployed →
    episode.input = .request call → service.Truthful call episode

end Service

section Truth

variable {service : Service} {earlier later : List Service.Episode} {episode : Service.Episode}
  {deployed : Deployment} {call : Call}

theorem Service.health_answered
    (run : service.deployment.Run (earlier ++ episode :: later) deployed)
    (happens : episode.input = .request call) (get : call.request.At "GET" "/health") :
    episode.output = some (healthResponse episode.before.world.connection) := by
  obtain ⟨_, admitted, output⟩ := Service.deployment_reached run
  rw [happens] at admitted output
  have supplied : (call.over episode.before.linked).environment.Supplied := Environment.Supplied.over admitted _
  have get : (call.over episode.before.linked).request.At "GET" "/health" := get
  rw [output]
  exact Service.serve_health get supplied

theorem Service.status_unavailable
    (run : service.deployment.Run (earlier ++ episode :: later) deployed)
    (happens : episode.input = .request call) (get : call.request.At "GET" "/health") :
    statusOf episode.output = some 503 ↔ service.AskedSince earlier := by
  rw [← (Service.deployment_reached run).1.connection, Service.health_answered run happens get]
  cases connected : episode.before.world.connection with
  | connectionOk => simp [statusOf, healthResponse]
  | connectionBad => simp [statusOf, healthResponse]

theorem Service.status_available
    (run : service.deployment.Run (earlier ++ episode :: later) deployed)
    (happens : episode.input = .request call) (get : call.request.At "GET" "/health") :
    statusOf episode.output = some 200 ↔ ¬ service.AskedSince earlier := by
  rw [← (Service.deployment_reached run).1.connection, Service.health_answered run happens get]
  cases connected : episode.before.world.connection with
  | connectionOk => simp [statusOf, healthResponse]
  | connectionBad => simp [statusOf, healthResponse]

theorem Service.disrupted_since
    (run : service.deployment.Run (earlier ++ episode :: later) deployed)
    (happens : episode.input = .request call) :
    service.Disrupted call episode.before ↔ Service.Lost earlier ∧ service.Asks call := by
  obtain ⟨tracked, admitted, _⟩ := Service.deployment_reached run
  rw [happens] at admitted
  cases linked : episode.before.linked with
  | true =>
      have never := tracked.linked.mp linked
      simp [never, Service.not_disrupted linked (tracked.connected linked)]
  | false =>
      have lost : Service.Lost earlier := by
        apply Classical.byContradiction
        intro never
        cases linked.symm.trans (tracked.linked.mpr never)
      simp [lost, Service.disrupted_iff linked admitted]

/-- In every run, with any number of outages, a request meets the truth exactly
when it comes at a good time: the health check says whether a request has needed
the database since the first outage, and from then on none that needs it is served. -/
theorem truthful_iff_spared (run : service.deployment.Run (earlier ++ episode :: later) deployed)
    (happens : episode.input = .request call) :
    service.Truthful call episode ↔ service.Spared call earlier episode.before.reachable := by
  constructor
  · intro truthful
    constructor
    · intro get away
      exact (Service.status_unavailable run happens get).mp (truthful.unavailable get away)
    · intro get there
      exact (Service.status_available run happens get).mp (truthful.available get there)
    · intro there lost asks
      exact truthful.served there ((Service.disrupted_since run happens).mpr ⟨lost, asks⟩)
  · intro spared
    constructor
    · intro get away
      exact (Service.status_unavailable run happens get).mpr (spared.unavailable get away)
    · intro get there
      exact (Service.status_available run happens get).mpr (spared.available get there)
    · intro there disrupted
      obtain ⟨lost, asks⟩ := (Service.disrupted_since run happens).mp disrupted
      exact spared.served there lost asks

end Truth

namespace Reference

def healthCheck : Call where
  request := request "GET" "/health" none []
  environment := environment 1 0

def deployed : Deployment := { world := start, reachable := true, linked := true }

def episodes (happenings : List Happening) : List Service.Episode :=
  (signing.deployment.play deployed happenings).1

def reached (happenings : List Happening) : Deployment :=
  (signing.deployment.play deployed happenings).2

/-- The health check after these happenings. -/
def checked (happenings : List Happening) : Service.Episode :=
  signing.deployment.event (.request healthCheck) (reached happenings)

theorem checked_run {happenings : List Happening}
    (admitted : ∀ happening ∈ happenings, signing.deployment.admits happening) :
    signing.deployment.Run (episodes happenings ++ [checked happenings])
      (checked happenings).after := by
  have begins : signing.deployment.Run [] deployed := .start ⟨rfl, rfl, rfl, rfl⟩
  have supplied : signing.deployment.admits (.request healthCheck) :=
    (environment_healthy 1 0).supplied
  simpa [episodes, reached, checked] using (begins.play admitted).next _ supplied

/-- PostgreSQL is away for one login. -/
def passed : List Happening := [.lost, .request (post "/auth/login" credentials 2 0), .returned]

theorem passed_admitted : ∀ happening ∈ passed, signing.deployment.admits happening := by
  have supplied : signing.deployment.admits (.request (post "/auth/login" credentials 2 0)) :=
    (environment_healthy 2 0).supplied
  simp only [passed, List.forall_mem_cons]
  exact ⟨trivial, supplied, trivial, by simp⟩

end Reference

/-- The outage is over, and the health check still reports it. -/
theorem truthful_iff_spared_passed :
    (Reference.signing.Truthful Reference.healthCheck (Reference.checked Reference.passed) ↔
        Reference.signing.Spared Reference.healthCheck (Reference.episodes Reference.passed)
          (Reference.reached Reference.passed).reachable) ∧
      (Reference.reached Reference.passed).reachable = true ∧
      statusOf (Reference.checked Reference.passed).output = some 503 :=
  ⟨truthful_iff_spared (Reference.checked_run Reference.passed_admitted) rfl, by decide +kernel,
    by decide +kernel⟩

/-- PostgreSQL is away, and the health check has not noticed. -/
theorem health_untruthful : ¬ Reference.signing.AlwaysTruthful := by
  intro always
  have admitted : ∀ happening ∈ [Happening.lost], Reference.signing.deployment.admits happening := by
    simp only [List.forall_mem_cons]
    exact ⟨trivial, by simp⟩
  have truthful := always _ _ _ _ _ (Reference.checked_run admitted) rfl
  have given := truthful.unavailable ⟨rfl, rfl⟩ rfl
  revert given
  decide +kernel

end PortalApi
