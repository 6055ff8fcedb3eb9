import PortalApi.Http.Sending
import PortalApi.Numerals
import PortalApi.Reference
import PortalApi.Sessions

/-! How a top-content request reads its `days` and `limit` arguments, and when its
query is executed. -/

set_option autoImplicit false

namespace PortalApi

open Library

/-- The argument stands for this number, or is absent and the number is the default. -/
def Argues (text : Option Bytes) (fallback number : Int) : Prop :=
  (text = none ∧ number = fallback) ∨ ∃ numeral, text = some numeral ∧ Denotes numeral number

/-- The argument stands for this number within the bounds. -/
structure Accepted (text : Option Bytes) (fallback minimum maximum number : Int) : Prop where
  argues : Argues text fallback number
  atLeast : minimum ≤ number
  atMost : number ≤ maximum

theorem analyticsParseRange_iff {text : Option Bytes} {fallback minimum maximum number : Int}
    (low : -2 ^ 63 ≤ minimum) (high : maximum ≤ 2 ^ 63 - 1)
    (default : minimum ≤ fallback ∧ fallback ≤ maximum) :
    analyticsParseRange text fallback minimum maximum = some number ↔
      Accepted text fallback minimum maximum number := by
  cases text with
  | none =>
      simp only [analyticsParseRange, Option.some.injEq]
      constructor
      · intro same
        subst same
        exact ⟨.inl ⟨rfl, rfl⟩, default.1, default.2⟩
      · intro accepted
        rcases accepted with ⟨⟨_, rfl⟩ | ⟨_, absent, _⟩, _, _⟩
        · rfl
        · cases absent
  | some text =>
      have read : analyticsParseRange (some text) fallback minimum maximum = some number ↔
          ((strtol text).outOfRange = false ∧ (strtol text).converted = true ∧
            (strtol text).rest = [] ∧ (strtol text).value = number) ∧
            minimum ≤ number ∧ number ≤ maximum := by
        simp only [analyticsParseRange, Option.ite_none_left_eq_some, Bool.or_eq_true,
          Bool.not_eq_true', decide_eq_true_eq, not_or, Option.some.injEq, ne_eq, not_not,
          Bool.not_eq_true, Bool.not_eq_false, Int.not_lt]
        constructor
        · intro scanned
          obtain ⟨⟨⟨⟨⟨inRange, converted⟩, whole⟩, atLeast⟩, atMost⟩, rfl⟩ := scanned
          exact ⟨⟨inRange, converted, whole, rfl⟩, atLeast, atMost⟩
        · intro scanned
          obtain ⟨⟨inRange, converted, whole, rfl⟩, atLeast, atMost⟩ := scanned
          exact ⟨⟨⟨⟨⟨inRange, converted⟩, whole⟩, atLeast⟩, atMost⟩, rfl⟩
      rw [read, strtol_iff]
      constructor
      · intro denoted
        obtain ⟨⟨denotes, _⟩, atLeast, atMost⟩ := denoted
        exact ⟨.inr ⟨text, rfl, denotes⟩, atLeast, atMost⟩
      · intro accepted
        rcases accepted with ⟨⟨absent, _⟩ | ⟨same, equal, denotes⟩, atLeast, atMost⟩
        · cases absent
        · obtain rfl := Option.some.inj equal
          exact ⟨⟨denotes, by omega, by omega⟩, atLeast, atMost⟩

/-- The numeral that is printed for a number of days or items denotes it. -/
theorem decimal_denotes {number : Int} (positive : 0 ≤ number) :
    Denotes (decimal number.toNat) number := by
  have written : Numeral ([] ++ [] ++ decimal number.toNat) false
      (digitsValue (decimal number.toNat)) :=
    .written nofun .none (decimal_ne_nil _) fun _ => isDigit_decimal
  rw [digitsValue_decimal] at written
  exact ⟨false, number.toNat, written, (Int.toNat_of_nonneg positive).symm⟩

theorem topContentRange_iff {request : Request} {range : TopContentRange} :
    topContentRange request = some range ↔
      Accepted (request.lookup .getArgument "days") 7 1 365 range.days ∧
        Accepted (request.lookup .getArgument "limit") 10 1 100 range.limit := by
  rw [← analyticsParseRange_iff (by decide) (by decide) (by decide),
    ← analyticsParseRange_iff (by decide) (by decide) (by decide), topContentRange]
  cases analyticsParseRange (request.lookup .getArgument "days") 7 1 365 with
  | none => simp
  | some days =>
      cases analyticsParseRange (request.lookup .getArgument "limit") 10 1 100 with
      | none => simp
      | some limit =>
          obtain ⟨foundDays, foundLimit⟩ := range
          simp

/-! ### The statements of a request -/

/-- The program executes this statement. -/
def Executes {α : Type} (postgres : Postgres) (environment : Environment) (statement : Statement)
    (program : Handler α) (exchange : Exchange) : Prop :=
  program.Meets (interpret postgres environment)
    (fun operation _ => operation = .pqExecParams statement) exchange

section Executes

variable {postgres : Postgres} {environment : Environment} {exchange : Exchange}
  {request : Request} {statement : Statement}

theorem Executes.asked {α : Type} {program : Handler α}
    (executes : Executes postgres environment statement program exchange) :
    Asked postgres environment program exchange := by
  apply executes.mono
  intro operation _ same
  subst same
  exact ⟨trivial, trivial⟩

theorem executes_portalDatabaseQuery {sent : Statement} :
    Executes postgres environment statement (portalDatabaseQuery sent) exchange ↔
      environment.grants (.databaseResult sent.sender) = true ∧ sent = statement := by
  cases granted : environment.grants (.databaseResult sent.sender) <;>
    simp [Executes, portalDatabaseQuery, allocate, pqExecParams, interpret, granted]

theorem executes_portalHttpAuthenticate
    (executes : Executes postgres environment statement (portalHttpAuthenticate request) exchange) :
    ∃ token, statement = .authenticate token := by
  unfold portalHttpAuthenticate at executes
  split at executes
  · exact absurd executes (Program.meets_pure _ _)
  split at executes
  · exact absurd executes (Program.meets_pure _ _)
  split at executes
  · exact absurd executes (Program.meets_pure _ _)
  rcases (Program.meets_bind _ _ _).mp executes with now | later
  · exact ⟨_, (executes_portalDatabaseQuery.mp now).2.symm⟩
  · split at later
    · exact absurd later (Program.meets_pure _ _)
    · simp only [Program.meets_ite, Program.meets_pure, ite_self] at later

theorem executes_portalHttpResponseError (status : Nat) (code message : String) :
    ¬ Executes postgres environment statement (portalHttpResponseError status code message)
      exchange :=
  fun executes => sends_portalHttpResponseError status code message executes.asked

end Executes

/-! ### A top-content request -/

/-- A top-content request of a user, for a valid portal. -/
structure AsksTopContent (service : Service) (call : Call) (world : World) (portalKey : Bytes) :
    Prop where
  get : call.request.At "GET" "/analytics/top-content"
  authenticated : (service.authenticate call world).1 = .authenticated
  portal : call.request.lookup .getArgument "portal_key" = some portalKey
  valid : portalValidationKey (some portalKey) 120 = true

/-- The request executes this statement. -/
def Service.Executes (service : Service) (call : Call) (world : World) (statement : Statement) :
    Prop :=
  PortalApi.Executes service.postgres call.environment statement
    (httpDispatch service.context service.jsonC call.request) world.exchange

section Route

variable {service : Service} {call : Call} {world : World} {portalKey : Bytes}

theorem httpDispatch_topContent {context : PortalHttpContext} {jsonC : JsonC} {request : Request}
    (get : request.At "GET" "/analytics/top-content") :
    httpDispatch context jsonC request = portalHttpRouteTopContent request := by
  obtain ⟨method, path⟩ := get
  have bodyless : request.bodylessEndpoint = some .topContent := by
    rw [Request.bodylessEndpoint, method, path]
    rfl
  unfold httpDispatch
  rw [httpDispatchWithoutBody_eq context jsonC none, bodyless]
  simp only [Program.bind_bind]
  exact Program.bind_pure (portalHttpRouteTopContent request)

/-- The route behind the two checks, once both were passed. -/
theorem AsksTopContent.executes_iff (asks : AsksTopContent service call world portalKey)
    (key daysText limitText : Bytes) :
    service.Executes call world (.topContent key daysText limitText) ↔
      ∃ range, topContentRange call.request = some range ∧
        call.environment.grants (.databaseResult .route) = true ∧
        range.statement portalKey = .topContent key daysText limitText := by
  have entered := asks.authenticated
  rw [Service.authenticate] at entered
  have looked : ¬ PortalApi.Executes service.postgres call.environment
      (.topContent key daysText limitText) (portalHttpAuthenticate call.request) world.exchange := by
    intro executes
    obtain ⟨token, same⟩ := executes_portalHttpAuthenticate executes
    cases same
  rw [Service.Executes, httpDispatch_topContent asks.get, portalHttpRouteTopContent]
  refine (Program.meets_bind _ _ _).trans ((or_iff_right looked).trans ?_)
  simp only [entered, asks.portal, asks.valid]
  rw [if_neg (by simp), if_neg (by simp), topContentRange]
  cases readDays : analyticsParseRange (call.request.lookup .getArgument "days") 7 1 365 with
  | none =>
      simp only [reduceCtorEq, false_and, exists_false, iff_false]
      exact executes_portalHttpResponseError _ _ _
  | some days =>
  cases readLimit : analyticsParseRange (call.request.lookup .getArgument "limit") 10 1 100 with
  | none =>
      simp only [reduceCtorEq, false_and, exists_false, iff_false]
      exact executes_portalHttpResponseError _ _ _
  | some limit =>
      have daysBounds := analyticsParseRange_bounds (by decide) readDays
      have limitBounds := analyticsParseRange_bounds (by decide) readLimit
      have daysWritten := snprintf_signedDecimal daysBounds
      have limitWritten := snprintf_signedDecimal ⟨limitBounds.1, by omega⟩
      simp only [daysWritten, limitWritten, Option.getD_some, Option.some.injEq, exists_eq_left']
      rw [if_neg (by simp)]
      refine (Program.meets_bind _ _ _).trans ((or_iff_left ?_).trans ?_)
      · intro later
        have asked := Executes.asked later
        revert asked
        split
        · exact sends_portalHttpResponseError _ _ _
        · simp only [Program.meets_bind, sends_allocate, false_or]
          split
          · exact Program.meets_pure _ _
          · simp only [Program.meets_bind, sends_topContentItems, false_or]
            split
            · exact Program.meets_pure _ _
            · exact sends_portalHttpResponseJson _ _
      · exact executes_portalDatabaseQuery

theorem AsksTopContent.serve_refused (asks : AsksTopContent service call world portalKey)
    (refused : topContentRange call.request = none) :
    Answered call.environment
      (errorResponse 400 "validation_error" "days must be 1..365 and limit must be 1..100.")
      (service.serve call world).1 := by
  have entered := asks.authenticated
  rw [Service.authenticate] at entered
  have silent : ((portalHttpAuthenticate call.request).run
      (interpret service.postgres call.environment) world.exchange).2.attempts = [] :=
    portalHttpAuthenticate_attempts world.exchange
  rw [Service.serve, Service.dispatch, httpDispatch_topContent asks.get, portalHttpRouteTopContent]
  simp only [Program.run_bind, entered, asks.portal, asks.valid]
  rw [if_neg (by simp), if_neg (by simp)]
  cases readDays : analyticsParseRange (call.request.lookup .getArgument "days") 7 1 365 with
  | none =>
      simp only [run_portalHttpResponseError]
      exact Exchange.answer_answered silent (·.reports) _
  | some days =>
  cases readLimit : analyticsParseRange (call.request.lookup .getArgument "limit") 10 1 100 with
  | none =>
      simp only [run_portalHttpResponseError]
      exact Exchange.answer_answered silent (·.reports) _
  | some limit =>
      rw [topContentRange, readDays, readLimit] at refused
      cases refused

theorem AsksTopContent.ends (asks : AsksTopContent service call world portalKey)
    (lawful : service.postgres.Lawful) (valid : world.database.Valid service.postgres.lower) :
    TopContentEnds service.postgres call.environment call.request world
      (service.serve call world).1 (service.serve call world).2 := by
  have idle : world.exchange.Idle := ⟨rfl, rfl⟩
  have valid : world.exchange.world.database.Valid service.postgres.lower := valid
  have ends : TopContentEnds service.postgres call.environment call.request world.exchange.world _ _ :=
    portalHttpRouteTopContent_ends lawful valid idle
  rw [Service.serve, Service.dispatch, httpDispatch_topContent asks.get]
  exact ends

/-- The contents that are listed belong to the number of days that was asked for. -/
theorem AsksTopContent.serve_listed (asks : AsksTopContent service call world portalKey)
    (lawful : service.postgres.Lawful) (valid : world.database.Valid service.postgres.lower)
    {response : Response} (reply : (service.serve call world).1 = some response)
    (status : response.status = 200) :
    ∃ range items, topContentRange call.request = some range ∧
      response = jsonResponse 200 (topContentJson portalKey range.days items) := by
  have ends := asks.ends lawful valid
  rw [reply] at ends
  cases ends with
  | unauthorized _ answered => simp [answered.reply_eq rfl, unauthorizedResponse] at status
  | invalidPortal _ _ answered => simp [answered.reply_eq rfl] at status
  | invalidRange _ _ _ answered => simp [answered.reply_eq rfl] at status
  | failed _ _ _ _ _ answered => simp [answered.reply_eq rfl] at status
  | listed _ portal _ read _ _ answered =>
      obtain rfl := Option.some.inj (asks.portal.symm.trans portal)
      exact ⟨_, _, read, answered.reply_eq rfl⟩

/-- How exactly the request's arguments are read. -/
structure ArgumentsExact (service : Service) (call : Call) (world : World) (portalKey : Bytes) :
    Prop where
  proceeds : call.environment.grants (.databaseResult .route) = true →
    ((∃ key days limit, service.Executes call world (.topContent key days limit)) ↔
      (∃ days, Accepted (call.request.lookup .getArgument "days") 7 1 365 days) ∧
        ∃ limit, Accepted (call.request.lookup .getArgument "limit") 10 1 100 limit)
  parameters : ∀ key daysText limitText,
    service.Executes call world (.topContent key daysText limitText) →
      key = portalKey ∧ ∃ days limit, Denotes daysText days ∧ Denotes limitText limit ∧
        Accepted (call.request.lookup .getArgument "days") 7 1 365 days ∧
        Accepted (call.request.lookup .getArgument "limit") 10 1 100 limit
  listed : ∀ response, (service.serve call world).1 = some response → response.status = 200 →
    ∃ days items, Accepted (call.request.lookup .getArgument "days") 7 1 365 days ∧
      response = jsonResponse 200 (topContentJson portalKey days items)
  refused : ¬ ((∃ days, Accepted (call.request.lookup .getArgument "days") 7 1 365 days) ∧
      ∃ limit, Accepted (call.request.lookup .getArgument "limit") 10 1 100 limit) →
    Answered call.environment
      (errorResponse 400 "validation_error" "days must be 1..365 and limit must be 1..100.")
      (service.serve call world).1

end Route

/-- In every state a run reaches, whatever the texts of the arguments. -/
theorem top_content_arguments {service : Service} (lawful : service.postgres.Lawful)
    {admits : Environment → Prop} {entries : List Service.Entry} {world : World}
    (run : service.Run admits entries world) {call : Call} {portalKey : Bytes}
    (asks : AsksTopContent service call world portalKey) :
    ArgumentsExact service call world portalKey where
  proceeds := by
    intro granted
    constructor
    · intro executed
      obtain ⟨key, daysText, limitText, executes⟩ := executed
      obtain ⟨range, read, _, _⟩ := (asks.executes_iff key daysText limitText).mp executes
      have accepted := topContentRange_iff.mp read
      exact ⟨⟨range.days, accepted.1⟩, range.limit, accepted.2⟩
    · intro accepted
      obtain ⟨⟨days, acceptedDays⟩, limit, acceptedLimit⟩ := accepted
      have read : topContentRange call.request = some ⟨days, limit⟩ :=
        topContentRange_iff.mpr ⟨acceptedDays, acceptedLimit⟩
      exact ⟨_, _, _, (asks.executes_iff _ _ _).mpr ⟨_, read, granted, rfl⟩⟩
  parameters := by
    intro key daysText limitText executes
    obtain ⟨range, read, _, same⟩ := (asks.executes_iff key daysText limitText).mp executes
    obtain ⟨rfl, rfl, rfl⟩ := Statement.topContent.inj same
    obtain ⟨days, limit⟩ := topContentRange_iff.mp read
    have daysPositive := days.atLeast
    have limitPositive := limit.atLeast
    exact ⟨rfl, range.days, range.limit, decimal_denotes (by omega), decimal_denotes (by omega),
      days, limit⟩
  listed := by
    intro response reply status
    obtain ⟨range, items, read, same⟩ :=
      asks.serve_listed lawful (Service.Run.valid run) reply status
    exact ⟨range.days, items, (topContentRange_iff.mp read).1, same⟩
  refused := by
    intro outside
    apply asks.serve_refused
    cases read : topContentRange call.request with
    | none => rfl
    | some range =>
        have accepted := topContentRange_iff.mp read
        exact absurd ⟨⟨range.days, accepted.1⟩, range.limit, accepted.2⟩ outside

namespace Reference

/-- A top-content request by the holder of the token drawn with seed 10. -/
def topContent (portalKey : String) (days limit : Option Bytes) (seed elapsed : Nat) : Call where
  request := {
    method := bytes "GET"
    url := bytes "/analytics/top-content"
    lookup := fun
      | .header, "Authorization" => bearer (uuidOut (draw 10))
      | .getArgument, "portal_key" => some (bytes portalKey)
      | .getArgument, "days" => days
      | .getArgument, "limit" => limit
      | _, _ => none
    body := [] }
  environment := environment seed elapsed

end Reference

open Reference in
/-- Seven days written with a blank, a sign and a leading zero, and no limit. -/
theorem top_content_arguments_signed :
    ArgumentsExact signing (topContent "news" (some (bytes " +07")) none 20 0)
      (after signing signedIn) (bytes "news") := by
  have asks : AsksTopContent signing (topContent "news" (some (bytes " +07")) none 20 0)
      (after signing signedIn) (bytes "news") :=
    ⟨⟨rfl, rfl⟩, by decide +kernel, rfl, by decide⟩
  exact top_content_arguments lawful (run signing signedIn_healthy) asks

end PortalApi
