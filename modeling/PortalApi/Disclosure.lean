import PortalApi.Confirmation
import PortalApi.Http.Discretion

/-! Confirmation tokens that registration does not expose stay unknown: two runs
that differ in nothing but the tokens drawn give the same responses. -/

set_option autoImplicit false

namespace PortalApi

open Library

def Database.Stores (database : Database) (token : Uuid) : Prop :=
  ∃ row ∈ database.confirmationTokens, row.token = token

/-- The entry stores a confirmation token that was not there before. -/
def Issues (entry : Service.Entry) (token : Uuid) : Prop :=
  entry.after.database.Stores token ∧ ¬ entry.before.database.Stores token

/-- Every token stored since then is hidden. -/
def HidesNew (hidden : Uuid → Prop) (before after : World) : Prop :=
  ∀ token, after.database.Stores token → ¬ before.database.Stores token → hidden token

/-- What is drawn for a registration is no token that is already stored. -/
def DrawsAnew (entry : Service.Entry) : Prop :=
  entry.input.request.At "POST" "/auth/register" → ∀ transaction,
    entry.input.environment.Offers transaction →
      ¬ entry.before.database.Stores (transaction.genRandomUuid .confirmationTokensToken 0)

/-- The same call with other draws for `confirmation_tokens.token`. -/
def Call.redraw (call : Call) (tokens : Nat → Nat → Uuid) : Call :=
  { call with environment := call.environment.redraw tokens }

def Call.Redrawn (call other : Call) : Prop := ∃ tokens, other = call.redraw tokens

/-- The entries of serving these calls, one after the other. -/
def Service.entries (service : Service) (world : World) (calls : List Call) :
    List Service.Entry :=
  ((service.machine fun _ => True).play world calls).1

def Service.responses (service : Service) (world : World) (calls : List Call) :
    List (Option Response) :=
  (service.entries world calls).map (·.output)

section Results

variable (result : Option PgResult)

theorem portalDatabaseResultStatus_conceal :
    portalDatabaseResultStatus (result.map PgResult.conceal) = portalDatabaseResultStatus result := by
  cases result <;> rfl

theorem portalDatabaseResultIsUniqueViolation_conceal :
    portalDatabaseResultIsUniqueViolation (result.map PgResult.conceal) =
      portalDatabaseResultIsUniqueViolation result := by
  cases result <;> rfl

theorem portalDatabaseResultValue_conceal (row column : Nat) :
    portalDatabaseResultValue (result.map PgResult.conceal) row column =
      portalDatabaseResultValue result row (column + 1) := by
  cases result with
  | none => rfl
  | some result =>
      simp only [portalDatabaseResultValue, PgResult.conceal, Option.map_some, List.getElem?_map]
      cases result.rows[row]? with
      | none => rfl
      | some values => simp

theorem registerJson_conceal {context : PortalHttpContext}
    (off : context.config.exposeConfirmationToken = false) :
    registerJson context result =
      .object [(bytes "message", .string (bytes "Account created. Confirm it before signing in.")),
        (bytes "confirmation_expires_at",
          .string ((portalDatabaseResultValue (result.map PgResult.conceal) 0 0).getD []))] := by
  simp [registerJson, resultString, off, portalDatabaseResultValue_conceal]

end Results

section Register

variable {postgres : Postgres} {environment : Environment} {hidden : Uuid → Prop}
  {tokens : Nat → Nat → Uuid} {exchange other : Exchange}

theorem pqExecParams_register_stores {fields : RegisterFields} {config : PortalConfig}
    {world : World} {moment : Moment} {outcome : PgResult × Database}
    (connected : world.connection = .connectionOk) (fair : moment.weather = .fair)
    (ran : execute postgres (moment.transaction world.clock) (fields.statement config)
      world.database = .ok outcome) :
    (world.pqExecParams postgres moment (fields.statement config)).2.database.Stores
      (moment.genRandomUuid .confirmationTokensToken 0) := by
  simp only [World.pqExecParams, connected, fair, ran]
  obtain ⟨encoded, committed⟩ := execute_eq_ok.mp ran
  obtain ⟨hours, _, _, _, _, rfl⟩ := executeRegister_eq_ok.mp committed
  exact ⟨_, List.mem_append_right _ (List.mem_singleton_self _), rfl⟩

theorem Exchange.Alike.answer (alike : exchange.Alike hidden other) (built : Bool)
    (response : Response) :
    (exchange.answer environment built response).2.Alike hidden
      (other.answer (environment.redraw tokens) built response).2 := by
  cases built with
  | false => exact alike
  | true => exact ⟨alike.world, alike.statements, congrArg (· ++ _) alike.attempts⟩

/-- A registration is sent alike when its draws are new and hidden once stored. -/
theorem Exchange.Alike.query_register {fields : RegisterFields} {config : PortalConfig}
    (alike : exchange.Alike hidden other)
    (fresh : ¬ exchange.world.database.Stores
      ((environment.moment exchange.statements).genRandomUuid .confirmationTokensToken 0))
    (otherFresh : ¬ other.world.database.Stores (tokens exchange.statements 0))
    (hides : HidesNew hidden exchange.world
      (exchange.query postgres environment (fields.statement config)).2.world)
    (otherHides : HidesNew hidden other.world
      (other.query postgres (environment.redraw tokens) (fields.statement config)).2.world) :
    (other.query postgres (environment.redraw tokens) (fields.statement config)).1.map
        PgResult.conceal =
      (exchange.query postgres environment (fields.statement config)).1.map PgResult.conceal ∧
    (exchange.query postgres environment (fields.statement config)).2.Alike hidden
      (other.query postgres (environment.redraw tokens) (fields.statement config)).2 := by
  have grants : (environment.redraw tokens).grants = environment.grants := rfl
  unfold Exchange.query at hides otherHides ⊢
  rw [grants] at otherHides ⊢
  cases granted : environment.grants (.databaseResult (fields.statement config).sender) with
  | false => exact ⟨rfl, alike⟩
  | true =>
      simp only [granted, ↓reduceIte, interpret, alike.statements] at hides otherHides ⊢
      have executed : exchange.world.connection = .connectionOk →
          (environment.moment exchange.statements).weather = .fair →
          OutcomesAlike hidden PgResult.conceal
            (execute postgres ((environment.moment exchange.statements).transaction
              exchange.world.clock) (fields.statement config) exchange.world.database)
            (execute postgres (((environment.moment exchange.statements).transaction
              exchange.world.clock).redraw (tokens exchange.statements)) (fields.statement config)
              other.world.database) := by
        intro connected fair
        apply execute_register_alike alike.world.database
        · exact fun row member same => fresh ⟨row, member, same⟩
        · exact fun row member same => otherFresh ⟨row, member, same⟩
        · intro outcome ran
          exact hides _ (pqExecParams_register_stores connected fair ran) fresh
        · intro outcome ran
          have otherConnected : other.world.connection = .connectionOk :=
            alike.world.connection.trans connected
          have otherFair : ((environment.redraw tokens).moment exchange.statements).weather =
              .fair := fair
          rw [← alike.world.clock] at ran
          exact otherHides _ (pqExecParams_register_stores otherConnected otherFair ran) otherFresh
      obtain ⟨same, world⟩ := World.pqExecParams_alike alike.world executed
      exact ⟨same, world, rfl, alike.attempts⟩

/-- Without the flag two registrations with new tokens are answered alike. -/
theorem Exchange.Alike.register {context : PortalHttpContext} {json : Option Json}
    (off : context.config.exposeConfirmationToken = false) (alike : exchange.Alike hidden other)
    (fresh : ¬ exchange.world.database.Stores
      ((environment.moment exchange.statements).genRandomUuid .confirmationTokensToken 0))
    (otherFresh : ¬ other.world.database.Stores (tokens exchange.statements 0))
    (hides : HidesNew hidden exchange.world ((portalHttpRouteRegister context json).run
      (interpret postgres environment) exchange).2.world)
    (otherHides : HidesNew hidden other.world ((portalHttpRouteRegister context json).run
      (interpret postgres (environment.redraw tokens)) other).2.world) :
    ((portalHttpRouteRegister context json).run (interpret postgres environment)
        exchange).2.Alike hidden
      ((portalHttpRouteRegister context json).run
        (interpret postgres (environment.redraw tokens)) other).2 := by
  rw [run_portalHttpRouteRegister] at hides ⊢
  rw [run_portalHttpRouteRegister] at otherHides ⊢
  cases read : registerFields json with
  | none => exact alike.answer _ _
  | some fields =>
      simp only [read] at hides otherHides ⊢
      rw [apply_ite Prod.snd, apply_ite Exchange.world, Exchange.answer_world,
        Exchange.answer_world, ite_self] at hides otherHides
      obtain ⟨concealed, queried⟩ :=
        alike.query_register fresh otherFresh hides otherHides
      have status := congrArg portalDatabaseResultStatus concealed
      have violation := congrArg portalDatabaseResultIsUniqueViolation concealed
      rw [portalDatabaseResultStatus_conceal, portalDatabaseResultStatus_conceal] at status
      rw [portalDatabaseResultIsUniqueViolation_conceal,
        portalDatabaseResultIsUniqueViolation_conceal] at violation
      simp only [registerFailure, registerJson_conceal _ off, status, violation, concealed]
      split
      · exact queried.answer _ _
      · exact queried.answer _ _

end Register

section Step

variable {service : Service} {hidden : Uuid → Prop} {call : Call} {world other : World}
  {tokens : Nat → Nat → Uuid}

theorem World.Alike.exchange (alike : world.Alike hidden other) :
    world.exchange.Alike hidden other.exchange :=
  ⟨alike, rfl, rfl⟩

/-- The handler that a request reaches leaves alike exchanges. -/
theorem Routes.run_alike {endpoint : Endpoint} {json : Option Json}
    (routes : Routes call.request (service.parsed call) endpoint json)
    (off : service.config.exposeConfirmationToken = false) (alike : world.Alike hidden other)
    (anew : DrawsAnew ((service.machine fun _ => True).event call world))
    (otherAnew : DrawsAnew ((service.machine fun _ => True).event (call.redraw tokens) other))
    (hides : HidesNew hidden world ((endpoint.handler service.context service.jsonC call.request
      json).run (interpret service.postgres call.environment) world.exchange).2.world)
    (otherHides : HidesNew hidden other ((endpoint.handler service.context service.jsonC
      call.request json).run (interpret service.postgres (call.environment.redraw tokens))
      other.exchange).2.world)
    (unpresented : ∀ token, hidden token → ¬ Presents service call token) :
    ((endpoint.handler service.context service.jsonC call.request json).run
        (interpret service.postgres call.environment) world.exchange).2.Alike hidden
      ((endpoint.handler service.context service.jsonC call.request json).run
        (interpret service.postgres (call.environment.redraw tokens)) other.exchange).2 := by
  by_cases registering : endpoint = .register
  · subst registering
    cases routes with
    | register request parsed =>
        have fresh := anew request _ ⟨0, 0, rfl⟩
        have otherFresh := otherAnew request _ ⟨0, 0, rfl⟩
        exact alike.exchange.register off fresh otherFresh hides otherHides
  · have shown : endpoint = .confirm → ∀ token,
        (confirmText json).bind service.postgres.castText = some token → ¬ hidden token := by
      intro confirming token read secret
      subst confirming
      cases routes with
      | confirm request parsed =>
          have body := (Service.body_post request.method).trans parsed
          exact unpresented token secret ⟨request, by rw [body]; exact read⟩
    have discreet : Discreet service.postgres hidden _ :=
      Endpoint.handler_discreet call.request json service.context service.jsonC registering shown
    exact (discreet.run_related interpret_alike alike.exchange).2

/-- One request is answered alike over two worlds that differ in hidden tokens only. -/
theorem World.Alike.serve (off : service.config.exposeConfirmationToken = false)
    (alike : world.Alike hidden other)
    (anew : DrawsAnew ((service.machine fun _ => True).event call world))
    (otherAnew : DrawsAnew ((service.machine fun _ => True).event (call.redraw tokens) other))
    (hides : HidesNew hidden world (service.serve call world).2)
    (otherHides : HidesNew hidden other (service.serve (call.redraw tokens) other).2)
    (unpresented : ∀ token, hidden token → ¬ Presents service call token) :
    (service.serve (call.redraw tokens) other).1 = (service.serve call world).1 ∧
      (service.serve call world).2.Alike hidden (service.serve (call.redraw tokens) other).2 := by
  have routes : Routes call.request (service.parsed call) _ _ := routed_routes
  have dispatched : service.dispatch call world = _ := run_httpDispatch
  have redispatched : service.dispatch (call.redraw tokens) other = _ := run_httpDispatch
  simp only [Service.serve] at hides otherHides ⊢
  rw [dispatched] at hides
  rw [redispatched] at otherHides
  have ran : (service.dispatch call world).2.Alike hidden
      (service.dispatch (call.redraw tokens) other).2 := by
    rw [dispatched, redispatched]
    exact routes.run_alike off alike anew otherAnew hides otherHides unpresented
  exact ⟨by simp only [Exchange.reply, ran.attempts], ran.world⟩

/-- Two runs that differ only in hidden tokens give the same responses. -/
theorem World.Alike.responses (off : service.config.exposeConfirmationToken = false)
    {calls others : List Call} (redrawn : List.Forall₂ Call.Redrawn calls others)
    (alike : world.Alike hidden other)
    (anew : ∀ entry ∈ service.entries world calls, DrawsAnew entry)
    (otherAnew : ∀ entry ∈ service.entries other others, DrawsAnew entry)
    (hides : ∀ entry ∈ service.entries world calls, HidesNew hidden entry.before entry.after)
    (otherHides : ∀ entry ∈ service.entries other others,
      HidesNew hidden entry.before entry.after)
    (unpresented : ∀ call ∈ calls, ∀ token, hidden token → ¬ Presents service call token) :
    service.responses other others = service.responses world calls := by
  induction redrawn generalizing world other with
  | nil => rfl
  | @cons call redraw calls others first rest ih =>
      obtain ⟨tokens, rfl⟩ := first
      have step := alike.serve off (anew _ List.mem_cons_self) (otherAnew _ List.mem_cons_self)
        (hides _ List.mem_cons_self) (otherHides _ List.mem_cons_self)
        (unpresented call List.mem_cons_self)
      have later := ih step.2 (fun entry member => anew entry (List.mem_cons_of_mem _ member))
        (fun entry member => otherAnew entry (List.mem_cons_of_mem _ member))
        (fun entry member => hides entry (List.mem_cons_of_mem _ member))
        (fun entry member => otherHides entry (List.mem_cons_of_mem _ member))
        (fun call member => unpresented call (List.mem_cons_of_mem _ member))
      exact congrArg₂ List.cons step.1 later

end Step

/-- With the flag off the responses of a run are the same whatever confirmation
tokens are drawn in it, as long as no request presents one. -/
theorem confirmation_tokens_undisclosed {service : Service} {world : World}
    {calls others : List Call} (off : service.config.exposeConfirmationToken = false)
    (redrawn : List.Forall₂ Call.Redrawn calls others)
    (anew : ∀ entry ∈ service.entries world calls ++ service.entries world others,
      DrawsAnew entry)
    (unpresented : ∀ entry ∈ service.entries world calls ++ service.entries world others,
      ∀ token, Issues entry token → ∀ call ∈ calls, ¬ Presents service call token) :
    service.responses world others = service.responses world calls := by
  have start : World.Alike (fun token => ∃ entry ∈ service.entries world calls ++
      service.entries world others, Issues entry token) world world :=
    ⟨.withTokens (.refl _), rfl, rfl⟩
  apply start.responses off redrawn
  · exact fun entry member => anew entry (List.mem_append_left _ member)
  · exact fun entry member => anew entry (List.mem_append_right _ member)
  · exact fun entry member token stored missing =>
      ⟨entry, List.mem_append_left _ member, stored, missing⟩
  · exact fun entry member token stored missing =>
      ⟨entry, List.mem_append_right _ member, stored, missing⟩
  · intro call member token ⟨entry, present, issues⟩
    exact unpresented entry present token issues call member

namespace Reference

/-- As in production, registration does not show the token. -/
def discreet : Service :=
  { service (bodies [account, confirmation 7]) with
    config := { config with exposeConfirmationToken := false } }

/-- Ana registers, and a token is tried that was never drawn. -/
def guessing : List Call :=
  [post "/auth/register" account 1 0, post "/auth/confirm" (confirmation 7) 2 0]

def regiven : List Call := guessing.map fun call => call.redraw fun _ _ => draw 50

theorem guessing_redrawn : List.Forall₂ Call.Redrawn guessing regiven :=
  .cons ⟨_, rfl⟩ (.cons ⟨_, rfl⟩ .nil)

theorem guessing_anew :
    ∀ entry ∈ discreet.entries start guessing ++ discreet.entries start regiven,
      DrawsAnew entry := by
  have empty : ∀ entry ∈ discreet.entries start guessing ++ discreet.entries start regiven,
      entry.input.request.url = bytes "/auth/register" →
        entry.before.database.confirmationTokens = [] := by decide +kernel
  intro entry member registering transaction _ ⟨row, stored, _⟩
  rw [empty entry member registering.url] at stored
  cases stored

/-- The token that is tried is stored in neither run. -/
theorem guessing_unpresented {entry : Service.Entry} {token : Uuid} {call : Call}
    (member : entry ∈ discreet.entries start guessing ++ discreet.entries start regiven)
    (issues : Issues entry token) (given : call ∈ guessing) :
    ¬ Presents discreet call token := by
  intro presents
  have tried : token = draw 7 := by
    rcases List.mem_cons.mp given with rfl | later
    · have registering : (post "/auth/register" account 1 0).request.At "POST" "/auth/register" :=
        ⟨rfl, rfl⟩
      exact (presents.request.url_ne registering (by decide)).elim
    · obtain rfl := List.mem_singleton.mp later
      have read : (confirmText (discreet.body (post "/auth/confirm" (confirmation 7) 2 0))).bind
          discreet.postgres.castText = some (draw 7) := by decide +kernel
      exact Option.some.inj (presents.read.symm.trans read)
  have unknown : ∀ entry ∈ discreet.entries start guessing ++ discreet.entries start regiven,
      ∀ row ∈ entry.after.database.confirmationTokens, row.token ≠ draw 7 := by decide +kernel
  obtain ⟨row, stored, same⟩ := issues.1
  exact unknown entry member row stored (same.trans tried)

end Reference

theorem confirmation_tokens_undisclosed_guessing :
    Reference.discreet.responses Reference.start Reference.regiven =
      Reference.discreet.responses Reference.start Reference.guessing ∧
    (Reference.discreet.responses Reference.start Reference.guessing).map statusOf =
      [some 201, some 400] :=
  ⟨confirmation_tokens_undisclosed rfl Reference.guessing_redrawn Reference.guessing_anew
    fun _ member _ issues _ given => Reference.guessing_unpresented member issues given,
    by decide +kernel⟩

end PortalApi
