import PortalApi.Atomicity
import PortalApi.Http.Sending
import PortalApi.Library.Refinement
import PortalApi.Reference

/-! The service on a machine that may kill it while it handles a request, and start it
again. To PostgreSQL such a life looks like one in which no process ever died: an
interrupted request is one whose later statements were lost. -/

set_option autoImplicit false

namespace PortalApi

open Library

/-- A request that is served, or that the process dies of after some of its operations. -/
inductive Incident where
  | served (call : Call)
  | killed (call : Call) (count : Nat)

def Incident.call : Incident → Call
  | .served call => call
  | .killed call _ => call

/-- A process that is started connects anew. -/
def World.reconnected (world : World) : World := { world with connection := .connectionOk }

namespace Service

variable (service : Service)

def suffer : Incident → World → Option Response × World
  | .served call, world => service.serve call world
  | .killed call count, world =>
    ((service.interrupted call count world).reply,
      (service.interrupted call count world).world.reconnected)

def mortal (admits : Environment → Prop) : Machine Incident (Option Response) World where
  initial := (service.machine admits).initial
  admits incident := admits incident.call.environment
  step := service.suffer

end Service

/-- What libpq has recorded after one more statement. -/
def Weather.link : ConnStatusType → Weather → ConnStatusType
  | .connectionBad, _ => .connectionBad
  | .connectionOk, .fair => .connectionOk
  | .connectionOk, .noResult lost => afterFailure lost
  | .connectionOk, .serverError _ lost => afterFailure lost

/-- What libpq has recorded when a request sends its statement of this number. -/
def Environment.linkBefore (environment : Environment) (link : ConnStatusType) :
    Nat → ConnStatusType
  | 0 => link
  | index + 1 => (environment.moment index).weather.link (environment.linkBefore link index)

/-- The weather that does the same to one statement over a connection that stays up. -/
def Weather.steadied : ConnStatusType → Weather → Weather
  | .connectionBad, _ => .noResult false
  | .connectionOk, .fair => .fair
  | .connectionOk, .noResult _ => .noResult false
  | .connectionOk, .serverError sqlState _ => .serverError sqlState false

def Moment.steadied (moment : Moment) (link : ConnStatusType) : Moment :=
  { moment with weather := moment.weather.steadied link }

/-- The same surroundings over a connection that stays up, where no statement after the
given number reaches PostgreSQL. -/
def Environment.steadied (environment : Environment) (link : ConnStatusType) (sent : Nat) :
    Environment :=
  { environment with
    moment := fun index =>
      let moment := environment.moment index
      if index < sent then moment.steadied (environment.linkBefore link index)
      else { moment with elapsed := 0, weather := .noResult false } }

/-- How many statements an incident lets its request send. -/
def Service.sent (service : Service) : Incident → World → Nat
  | .served call, world => (service.dispatch call world).2.statements
  | .killed call count, world => (service.interrupted call count world).statements

/-- The request in surroundings that let its first statements pass alone. -/
def Call.steadied (call : Call) (link : ConnStatusType) (sent : Nat) : Call where
  request := call.request
  environment := call.environment.steadied link sent

/-- The request as a process that never dies serves it. -/
def Service.survived (service : Service) (incident : Incident) (world : World) : Call :=
  incident.call.steadied world.connection (service.sent incident world)

section Steadied

variable {postgres : Postgres} {environment : Environment} {link : ConnStatusType} {sent : Nat}

theorem pqExecParams_link (moment : Moment) (statement : Statement) (world : World) :
    (world.pqExecParams postgres moment statement).2.connection =
      moment.weather.link world.connection := by
  unfold World.pqExecParams
  cases linked : world.connection with
  | connectionBad => rfl
  | connectionOk =>
      cases weather : moment.weather with
      | noResult lost => rfl
      | serverError sqlState lost => rfl
      | fair =>
          simp only [Weather.link]
          split <;> rfl

theorem pqExecParams_steadied (moment : Moment) (statement : Statement) (world : World) :
    world.reconnected.pqExecParams postgres (moment.steadied world.connection) statement =
      ((world.pqExecParams postgres moment statement).1,
        (world.pqExecParams postgres moment statement).2.reconnected) := by
  unfold World.pqExecParams
  cases linked : world.connection with
  | connectionBad => rfl
  | connectionOk =>
      cases weather : moment.weather with
      | noResult lost => simp [World.reconnected, Moment.steadied, Weather.steadied, weather,
          afterFailure]
      | serverError sqlState lost => simp [World.reconnected, Moment.steadied, Weather.steadied,
          weather, afterFailure]
      | fair =>
          simp only [World.reconnected, Moment.steadied, Weather.steadied, weather,
            Moment.transaction]
          split <;> simp

/-- The same exchange over a connection that stays up. -/
structure Steady (environment : Environment) (link : ConnStatusType) (exchange other : Exchange) :
    Prop where
  link : exchange.world.connection = environment.linkBefore link exchange.statements
  same : other = { exchange with world := exchange.world.reconnected }

def Exchange.UpTo (sent : Nat) (exchange : Exchange) : Prop := exchange.statements ≤ sent

def Operation.IsStatus : Operation → Prop
  | .pqStatus => True
  | _ => False

/-- Over a connection that stays up every operation but `PQstatus` is answered alike. -/
theorem interpret_steadied (operation : Operation) (other : ¬ operation.IsStatus)
    (exchange steady : Exchange) (related : Steady environment link exchange steady)
    (within : (interpret postgres environment operation exchange).2.UpTo sent) :
    (interpret postgres (environment.steadied link sent) operation steady).1 =
        (interpret postgres environment operation exchange).1 ∧
      Steady environment link (interpret postgres environment operation exchange).2
        (interpret postgres (environment.steadied link sent) operation steady).2 := by
  obtain ⟨recorded, rfl⟩ := related
  cases operation with
  | pqStatus => exact absurd trivial other
  | allocate purpose => exact ⟨rfl, recorded, rfl⟩
  | realloc buffer size => exact ⟨rfl, recorded, rfl⟩
  | mhdQueueResponse response => exact ⟨rfl, recorded, rfl⟩
  | pqExecParams statement =>
      have counted : exchange.statements < sent := within
      have moment : (environment.steadied link sent).moment exchange.statements =
          (environment.moment exchange.statements).steadied exchange.world.connection := by
        rw [recorded]
        exact if_pos counted
      simp only [interpret, moment, pqExecParams_steadied]
      refine ⟨trivial, ?_, rfl⟩
      rw [pqExecParams_link, recorded]
      rfl

theorem interpret_upTo (operation : Operation) (exchange : Exchange)
    (within : (interpret postgres environment operation exchange).2.UpTo sent) :
    exchange.UpTo sent := by
  cases operation with
  | pqExecParams statement => exact Nat.le_of_succ_le within
  | _ => exact within

/-- What no statement beyond the given number changes. -/
structure Settled (sent : Nat) (exchange other : Exchange) : Prop where
  past : sent ≤ other.statements
  world : other.world = exchange.world
  attempts : ∃ later, other.attempts = exchange.attempts ++ later

/-- Later statements of the steadied surroundings reach nothing. -/
theorem interpret_settled {exchange : Exchange}
    (connected : exchange.world.connection = .connectionOk) (operation : Operation)
    (other : Exchange) (settled : Settled sent exchange other) :
    Settled sent exchange
      (interpret postgres (environment.steadied link sent) operation other).2 := by
  obtain ⟨past, same, later, attempts⟩ := settled
  cases operation with
  | pqStatus => exact ⟨past, same, later, attempts⟩
  | allocate purpose => exact ⟨past, same, later, attempts⟩
  | realloc buffer size => exact ⟨past, same, later, attempts⟩
  | mhdQueueResponse response =>
      refine ⟨past, same, later ++ [(response, environment.queueResult)], ?_⟩
      rw [← List.append_assoc, ← attempts]
      rfl
  | pqExecParams statement =>
      refine ⟨Nat.le_succ_of_le past, ?_, later, attempts⟩
      have lost : (environment.steadied link sent).moment other.statements =
          { environment.moment other.statements with elapsed := 0, weather := .noResult false } :=
        if_neg (Nat.not_lt.mpr past)
      have linked : other.world.connection = .connectionOk := same ▸ connected
      rw [← same]
      simp only [interpret, lost, World.pqExecParams, linked, afterFailure]
      simp [← linked]

end Steadied

section Requests

variable {context : PortalHttpContext} {jsonC : JsonC} {request : Request}

/-- Only a health check looks at the state of the connection. -/
theorem httpDispatch_unprobed (other : ¬ request.At "GET" "/health") :
    (httpDispatch context jsonC request).Uses fun operation => ¬ operation.IsStatus := by
  refine httpDispatch_keeps.uses fun progress operation allowed => ?_
  obtain ⟨parsed, allowed⟩ := allowed
  cases allowed with
  | status _ health =>
      have routes : Routes request parsed _ _ := routed_routes
      generalize (request.routed parsed).2 = json at routes
      rw [health] at routes
      cases routes with
      | health get => exact absurd get other
  | _ => exact id

/-- A health check sends no statement. -/
theorem httpDispatch_unasked (get : request.At "GET" "/health") :
    (httpDispatch context jsonC request).Uses fun operation => ¬ operation.IsStatement := by
  refine httpDispatch_keeps.uses fun progress operation allowed => ?_
  obtain ⟨parsed, allowed⟩ := allowed
  rw [routed_health get] at allowed
  cases allowed with
  | inquire _ _ _ inquires _ => rcases inquires with secured | shared <;> contradiction
  | ask _ _ mandated => cases mandated
  | _ => exact id

end Requests

section Incidents

variable {service : Service} {call : Call} {world : World}

theorem interpret_world {postgres : Postgres} {environment : Environment}
    (operation : Operation) (exchange : Exchange) (other : ¬ operation.IsStatement)
    (same : exchange.world = world) :
    (interpret postgres environment operation exchange).2.world = world := by
  cases operation with
  | pqExecParams statement => exact absurd trivial other
  | _ => exact same

theorem Exchange.reply_append {exchange other : Exchange} {response : Response}
    (attempts : ∃ later, other.attempts = exchange.attempts ++ later)
    (given : exchange.reply = some response) : other.reply = some response := by
  obtain ⟨later, same⟩ := attempts
  simp only [Exchange.reply, Option.map_eq_some_iff] at given ⊢
  obtain ⟨attempt, found, rfl⟩ := given
  exact ⟨attempt, by rw [same, List.find?_append, found]; rfl, rfl⟩

theorem interrupted_health (get : call.request.At "GET" "/health") (count : Nat) :
    (service.interrupted call count world).world = world := by
  have unasked : (httpDispatch service.context service.jsonC call.request).Uses _ :=
    httpDispatch_unasked get
  exact unasked.cut_preserves interpret_world rfl count

theorem serve_health_world (get : call.request.At "GET" "/health") :
    (service.serve call world).2 = world := by
  have unasked : (httpDispatch service.context service.jsonC call.request).Uses _ :=
    httpDispatch_unasked get
  exact unasked.run_preserves interpret_world rfl

/-- What was done when a request was cut off is all that the request does in the steadied
surroundings. -/
theorem interrupted_steadied (other : ¬ call.request.At "GET" "/health") (count : Nat)
    {exchange : Exchange} (left : service.interrupted call count world = exchange) :
    (service.serve (call.steadied world.connection exchange.statements) world.reconnected).2 =
        exchange.world.reconnected ∧
      ∀ response, exchange.reply = some response →
        (service.serve (call.steadied world.connection exchange.statements)
          world.reconnected).1 = some response := by
  have unprobed : (httpDispatch service.context service.jsonC call.request).Uses _ :=
    httpDispatch_unprobed other
  have before : Steady call.environment world.connection world.exchange
      world.reconnected.exchange := ⟨rfl, rfl⟩
  have reached : ((httpDispatch service.context service.jsonC call.request).cut
      (interpret service.postgres call.environment) count world.exchange).2.UpTo
        exchange.statements := Nat.le_of_eq (congrArg Exchange.statements left)
  obtain ⟨_, steady⟩ :=
    unprobed.cut_related interpret_upTo interpret_steadied before reached
  have resumed : (service.dispatch (call.steadied world.connection exchange.statements)
      world.reconnected) = _ := (Program.run_cut count).symm
  have left : ((httpDispatch service.context service.jsonC call.request).cut
      (interpret service.postgres (call.environment.steadied world.connection exchange.statements))
      count world.reconnected.exchange).2 =
        { exchange with world := exchange.world.reconnected } := left ▸ steady.same
  have settled : Settled exchange.statements { exchange with world := exchange.world.reconnected }
      (service.dispatch (call.steadied world.connection exchange.statements)
        world.reconnected).2 := by
    rw [resumed]
    refine Program.run_preserves (interpret_settled rfl) _ ?_
    rw [Call.steadied, left]
    exact ⟨Nat.le_refl _, rfl, [], (List.append_nil _).symm⟩
  exact ⟨settled.world, fun response given => Exchange.reply_append settled.attempts given⟩

/-- A request that is served is one that is cut off after all of its operations. -/
theorem Service.exists_interrupted (service : Service) (call : Call) (world : World) :
    ∃ count, service.interrupted call count world = (service.dispatch call world).2 := by
  obtain ⟨count, whole⟩ := Program.exists_cut (interpret service.postgres call.environment)
    (httpDispatch service.context service.jsonC call.request) world.exchange
  exact ⟨count, congrArg Prod.snd whole⟩

/-- Every incident is one request of a service that never dies. -/
theorem Service.suffer_survived (service : Service) (incident : Incident) (world : World) :
    (service.suffer incident world).2.reconnected =
        (service.serve (service.survived incident world) world.reconnected).2 ∧
      (¬ incident.call.request.At "GET" "/health" → ∀ response,
        (service.suffer incident world).1 = some response →
          (service.serve (service.survived incident world) world.reconnected).1 =
            some response) := by
  by_cases get : incident.call.request.At "GET" "/health"
  · refine ⟨?_, fun other => absurd get other⟩
    have unasked : (service.serve (service.survived incident world) world.reconnected).2 =
        world.reconnected := serve_health_world get
    rw [unasked]
    cases incident with
    | served call => exact congrArg World.reconnected (serve_health_world get)
    | killed call count =>
        have get : call.request.At "GET" "/health" := get
        change (service.interrupted call count world).world.reconnected.reconnected = _
        rw [interrupted_health get count]
        rfl
  · cases incident with
    | served call =>
        obtain ⟨count, whole⟩ := service.exists_interrupted call world
        obtain ⟨same, told⟩ := interrupted_steadied get count whole
        exact ⟨same.symm, fun _ => told⟩
    | killed call count =>
        obtain ⟨same, told⟩ := interrupted_steadied get count rfl
        exact ⟨same.symm, fun _ => told⟩

end Incidents

section Lives

variable (service : Service)

/-- PostgreSQL sees every incident as one request, over a connection that stays up. -/
def Service.lifeView : View Incident World Call World where
  state := World.reconnected
  input incident world := some (service.survived incident world)

/-- The entry of the service that never dies at an incident. -/
def Service.life (event : Event Incident (Option Response) World) : Service.Entry :=
  (service.machine fun _ => True).event (service.survived event.input event.before)
    event.before.reconnected

variable {service} {admits : Environment → Prop} {world : World}
  {events : List (Event Incident (Option Response) World)}

theorem mortal_refines :
    Refines (service.mortal admits) (service.machine fun _ => True) service.lifeView
      fun _ => True where
  initial world initial := ⟨trivial, initial.1, rfl⟩
  kept _ _ _ _ := trivial
  silent incident world _ _ unseen := by cases unseen
  active incident world call _ _ seen := by
    obtain rfl := Option.some.inj seen
    exact ⟨trivial, (service.suffer_survived incident world).1⟩

/-- A run with any number of deaths is, to the tables, a run without: of the same requests,
in which every client that was answered is answered the same. -/
theorem mortal_survived (run : (service.mortal admits).Run events world) :
    service.Run (fun _ => True) (events.map service.life) world.reconnected ∧
      ∀ event ∈ events, (service.life event).input.request = event.input.call.request ∧
        (¬ event.input.call.request.At "GET" "/health" → ∀ response,
          event.output = some response → (service.life event).output = some response) := by
  constructor
  · have lived := mortal_refines.run run
    have same : service.lifeView.events (service.machine fun _ => True) events =
        events.map service.life := by
      change events.filterMap (some ∘ service.life) = _
      rw [List.filterMap_eq_map]
    exact same ▸ lived
  · intro event member
    obtain ⟨_, _, _, happened⟩ := run.event_step event member
    refine ⟨rfl, fun other response given => ?_⟩
    rw [happened] at given
    exact (service.suffer_survived event.input event.before).2 other response given

end Lives

namespace Reference

/-- A process that dies after it stored an account, and the client that tries again. -/
def incidents : List Incident :=
  [.killed (post "/auth/register" account 1 0) 3, .served (post "/auth/register" account 5 10)]

def lived : List (Event Incident (Option Response) World) × World :=
  ((service (bodies [account])).mortal Environment.Healthy).play start incidents

theorem lived_run :
    ((service (bodies [account])).mortal Environment.Healthy).Run lived.1 lived.2 := by
  have begins : ((service (bodies [account])).mortal Environment.Healthy).Run [] start :=
    .start ⟨rfl, rfl⟩
  have healthy : ∀ incident ∈ incidents, incident.call.environment.Healthy := by
    intro incident member
    simp only [incidents, List.mem_cons, List.not_mem_nil, or_false] at member
    rcases member with rfl | rfl <;> exact environment_healthy _ _
  simpa [lived] using begins.play healthy

end Reference

/-- The first request is never answered, and the second learns that the account exists. -/
theorem mortal_survived_retried :
    Reference.lived.1.map (fun event => event.output.map (·.status)) = [none, some 409] ∧
      (Reference.service (Reference.bodies [Reference.account])).Run (fun _ => True)
        (Reference.lived.1.map
          (Reference.service (Reference.bodies [Reference.account])).life)
        Reference.lived.2.reconnected :=
  ⟨by decide +kernel, (mortal_survived Reference.lived_run).1⟩

end PortalApi
