import PortalApi.Http.Effects

/-! `response.c`: building a response and queueing it. -/

set_option autoImplicit false

namespace PortalApi

open Library

def jsonContentType : String := "application/json; charset=utf-8"

def responseHeaders (contentType : String) : List (String × String) :=
  [("Content-Type", contentType), ("X-Content-Type-Options", "nosniff"),
    ("Cache-Control", "no-store"), ("Access-Control-Allow-Origin", "*")]

def optionsHeaders : List (String × String) :=
  [("Access-Control-Allow-Origin", "*"),
    ("Access-Control-Allow-Headers", "Authorization, Content-Type"),
    ("Access-Control-Allow-Methods", "GET, POST, PUT, DELETE, OPTIONS")]

def portalHttpResponseBytes (status : Nat) (payload : Payload) (contentType : String) :
    Handler MhdResult := do
  if ← allocate .mhdResponse then
    if ← allocate .mhdResponseHeaders then
      mhdQueueResponse { status, headers := responseHeaders contentType, payload }
    else return .no
  else return .no

def portalHttpResponseJson (status : Nat) (json : Json) : Handler MhdResult :=
  portalHttpResponseBytes status (.json json) jsonContentType

def portalHttpResponseEmpty (status : Nat) : Handler MhdResult :=
  portalHttpResponseBytes status (.text []) jsonContentType

def errorJson (code message : String) : Json :=
  .object [(bytes "error", .string (bytes code)), (bytes "message", .string (bytes message))]

def portalHttpResponseError (status : Nat) (code message : String) : Handler MhdResult := do
  if ← allocate .errorObject then
    portalHttpResponseJson status (errorJson code message)
  else return .no

def portalHttpResponseOptions : Handler MhdResult := do
  if ← allocate .mhdResponse then
    if ← allocate .mhdResponseHeaders then
      mhdQueueResponse { status := 204, headers := optionsHeaders, payload := .text [] }
    else return .no
  else return .no

/-! Every response function makes at most one attempt to queue, of the one
response it builds, and touches nothing else. -/

/-- The outcome of one attempt, made only when the response could be built. -/
def Exchange.answer (exchange : Exchange) (environment : Environment) (built : Bool)
    (response : Response) : MhdResult × Exchange :=
  if built then
    (environment.queueResult,
      { exchange with attempts := exchange.attempts ++ [(response, environment.queueResult)] })
  else (.no, exchange)

def Environment.builds (environment : Environment) : Bool :=
  environment.grants .mhdResponse && environment.grants .mhdResponseHeaders

/-- An error response can be built. -/
def Environment.reports (environment : Environment) : Bool :=
  environment.grants .errorObject && environment.builds

/-- A response with a freshly allocated object can be built. -/
def Environment.describes (environment : Environment) : Bool :=
  environment.grants .responseObject && environment.builds

/-- The response `portal_http_response_json` queues. -/
def jsonResponse (status : Nat) (json : Json) : Response where
  status := status
  headers := responseHeaders jsonContentType
  payload := .json json

def textResponse (status : Nat) (text : Bytes) : Response where
  status := status
  headers := responseHeaders jsonContentType
  payload := .text text

def errorResponse (status : Nat) (code message : String) : Response :=
  jsonResponse status (errorJson code message)

@[simp] theorem status_textResponse (status : Nat) (data : Bytes) :
    (textResponse status data).status = status := rfl

@[simp] theorem status_jsonResponse (status : Nat) (value : Json) :
    (jsonResponse status value).status = status := rfl

@[simp] theorem status_errorResponse (status : Nat) (code message : String) :
    (errorResponse status code message).status = status := rfl

section Run

variable (postgres : Postgres) (environment : Environment) (exchange : Exchange)

@[simp] theorem Exchange.answer_false (response : Response) :
    exchange.answer environment false response = (.no, exchange) := rfl

@[simp] theorem run_portalHttpResponseBytes (status : Nat) (payload : Payload)
    (contentType : String) :
    (portalHttpResponseBytes status payload contentType).run (interpret postgres environment)
        exchange =
      exchange.answer environment environment.builds
        { status, headers := responseHeaders contentType, payload } := by
  cases created : environment.grants .mhdResponse <;>
    cases completed : environment.grants .mhdResponseHeaders <;>
      simp [portalHttpResponseBytes, Exchange.answer, Environment.builds, created, completed]

@[simp] theorem run_portalHttpResponseJson (status : Nat) (json : Json) :
    (portalHttpResponseJson status json).run (interpret postgres environment) exchange =
      exchange.answer environment environment.builds (jsonResponse status json) := by
  simp [portalHttpResponseJson, jsonResponse]

@[simp] theorem run_portalHttpResponseEmpty (status : Nat) :
    (portalHttpResponseEmpty status).run (interpret postgres environment) exchange =
      exchange.answer environment environment.builds (textResponse status []) := by
  simp [portalHttpResponseEmpty, textResponse]

@[simp] theorem run_portalHttpResponseError (status : Nat) (code message : String) :
    (portalHttpResponseError status code message).run (interpret postgres environment) exchange =
      exchange.answer environment environment.reports (errorResponse status code message) := by
  cases granted : environment.grants .errorObject <;>
    simp [portalHttpResponseError, errorResponse, granted, Exchange.answer, Environment.reports]

/-- A response given up when something it needs could not be allocated. -/
theorem run_refusing (refused : Prop) [Decidable refused] (status : Nat) (json : Json) :
    (if refused then pure .no else portalHttpResponseJson status json : Handler MhdResult).run
        (interpret postgres environment) exchange =
      exchange.answer environment (!decide refused && environment.builds)
        (jsonResponse status json) := by
  by_cases given : refused <;> simp [given]

/-- A response whose object is allocated first. -/
theorem run_describing (status : Nat) (json : Json) :
    (if ((allocate .responseObject).run (interpret postgres environment) exchange).1 then
        portalHttpResponseJson status json
      else pure .no : Handler MhdResult).run (interpret postgres environment)
        ((allocate .responseObject).run (interpret postgres environment) exchange).2 =
      exchange.answer environment environment.describes (jsonResponse status json) := by
  change (if environment.grants .responseObject then portalHttpResponseJson status json
    else pure .no : Handler MhdResult).run (interpret postgres environment) exchange = _
  cases granted : environment.grants .responseObject <;>
    simp [Environment.describes, granted]

@[simp] theorem run_portalHttpResponseOptions :
    portalHttpResponseOptions.run (interpret postgres environment) exchange =
      exchange.answer environment environment.builds
        { status := 204, headers := optionsHeaders, payload := .text [] } := by
  cases created : environment.grants .mhdResponse <;>
    cases completed : environment.grants .mhdResponseHeaders <;>
      simp [portalHttpResponseOptions, Exchange.answer, Environment.builds, created, completed]

@[simp] theorem Exchange.answer_world (built : Bool) (response : Response) :
    (exchange.answer environment built response).2.world = exchange.world := by
  cases built <;> rfl

end Run

/-- The client gets this response, or none when it cannot be built or queued. -/
structure Answered (environment : Environment) (response : Response) (reply : Option Response) :
    Prop where
  possible : reply = none ∨ reply = some response
  supplied : environment.Supplied → reply = some response

theorem Answered.certain {environment : Environment} {response : Response}
    {reply : Option Response} (answered : Answered environment response reply)
    (healthy : environment.Healthy) : reply = some response :=
  answered.supplied healthy.supplied

theorem Answered.reply_eq {environment : Environment} {response other : Response}
    {reply : Option Response} (answered : Answered environment response reply)
    (given : reply = some other) : other = response := by
  rcases answered.possible with silent | same
  · simp [silent] at given
  · simpa [same, eq_comm] using given

theorem Environment.Supplied.builds {environment : Environment} (supplied : environment.Supplied) :
    environment.builds = true := by
  simp [Environment.builds, supplied.granted]

theorem Environment.Supplied.reports {environment : Environment} (supplied : environment.Supplied) :
    environment.reports = true := by
  simp [Environment.reports, supplied.granted, supplied.builds]

theorem Environment.Supplied.describes {environment : Environment}
    (supplied : environment.Supplied) : environment.describes = true := by
  simp [Environment.describes, supplied.granted, supplied.builds]

/-- Without an attempt the client gets nothing, which only a failure outside explains. -/
theorem Exchange.unanswered {exchange : Exchange} {environment : Environment}
    (silent : exchange.attempts = []) (scarce : ¬ environment.Supplied) (response : Response) :
    Answered environment response exchange.reply where
  possible := .inl (by simp [Exchange.reply, silent])
  supplied supplied := absurd supplied scarce

/-- The one attempt of an exchange decides what the client gets. -/
theorem Exchange.answer_answered {exchange : Exchange} {environment : Environment} {built : Bool}
    (silent : exchange.attempts = []) (granted : environment.Supplied → built = true)
    (response : Response) :
    Answered environment response (exchange.answer environment built response).2.reply := by
  constructor
  · cases built <;> cases queued : environment.queues <;>
      simp [Exchange.answer, Exchange.reply, Environment.queueResult, silent, queued]
  · intro supplied
    simp [Exchange.answer, Exchange.reply, Environment.queueResult, silent, granted supplied,
      supplied.queued]

end PortalApi
