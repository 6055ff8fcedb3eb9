import PortalApi.Database.Statements
import PortalApi.Json
import PortalApi.Library.Machine
import PortalApi.Library.Program

/-! What the C code asks of libc, libpq and libmicrohttpd while it handles one
request, and how the outside answers. -/

set_option autoImplicit false

namespace PortalApi

open Library

/-- The JSON or text a response carries; JSON is sent as its plain print. -/
inductive Payload where
  | text (data : Bytes)
  | json (value : Json)

structure Response where
  status : Nat
  headers : List (String × String)
  payload : Payload

inductive MhdResult where
  | no
  | yes
  deriving DecidableEq

inductive ConnStatusType where
  | connectionOk
  | connectionBad
  deriving DecidableEq

/-- The part of a request that a statement is sent for: a request sends no two
statements for one of them. -/
inductive Sender where
  | authentication
  | route
  deriving DecidableEq

def Statement.sender : Statement → Sender
  | .authenticate _ => .authentication
  | _ => .route

/-- The allocations whose failure the code checks, by what they are for. -/
inductive Allocation where
  | requestBody
  | bodyBuffer (size : UInt64)
  | jsonTokener
  | databaseResult (sender : Sender)
  | errorObject
  | responseObject
  | itemsArray
  | item (index : Nat)
  | mhdResponse
  | mhdResponseHeaders
  deriving DecidableEq

inductive Operation where
  | allocate (purpose : Allocation)
  | realloc (buffer : Bytes) (size : UInt64)
  | pqStatus
  | pqExecParams (statement : Statement)
  | mhdQueueResponse (response : Response)

@[reducible] def Operation.Answer : Operation → Type
  | .allocate _ => Bool
  | .realloc _ _ => Option Bytes
  | .pqStatus => ConnStatusType
  | .pqExecParams _ => Option PgResult
  | .mhdQueueResponse _ => MhdResult

abbrev Handler (α : Type) := Program Operation.Answer α

def allocate (purpose : Allocation) : Handler Bool := Program.perform (Operation.allocate purpose)

def realloc (buffer : Bytes) (size : UInt64) : Handler (Option Bytes) :=
  Program.perform (Operation.realloc buffer size)

def pqStatus : Handler ConnStatusType := Program.perform Operation.pqStatus

def pqExecParams (statement : Statement) : Handler (Option PgResult) :=
  Program.perform (Operation.pqExecParams statement)

def mhdQueueResponse (response : Response) : Handler MhdResult :=
  Program.perform (Operation.mhdQueueResponse response)

/-- Whether a statement sent over a good connection reaches the tables. The flag
of the failures says whether libpq notices that the connection is lost. -/
inductive Weather where
  | fair
  | noResult (lost : Bool)
  | serverError (sqlState : Bytes) (lost : Bool)
  deriving DecidableEq

/-- What surrounds one statement: the time since the one before, and its draws. -/
structure Moment where
  elapsed : Nat
  genRandomUuid : UuidColumn → Nat → Uuid
  genSalt : BfSalt
  identityGap : IdentityColumn → Nat
  weather : Weather

/-- Everything outside the program that one request depends on. -/
structure Environment where
  moment : Nat → Moment
  grants : Allocation → Bool
  junk : Nat → UInt8
  queues : Bool

/-- Allocations succeed and responses are queued; statements may still fail. -/
structure Environment.Supplied (environment : Environment) : Prop where
  granted : ∀ purpose, environment.grants purpose = true
  queued : environment.queues = true

/-- Statements run, allocations succeed and responses are queued. -/
structure Environment.Healthy (environment : Environment) : Prop where
  fair : ∀ index, (environment.moment index).weather = .fair
  granted : ∀ purpose, environment.grants purpose = true
  queued : environment.queues = true

theorem Environment.Healthy.supplied {environment : Environment} (healthy : environment.Healthy) :
    environment.Supplied where
  granted := healthy.granted
  queued := healthy.queued

/-- The tables, the clock of the last statement and what libpq last recorded. -/
structure World where
  database : Database
  clock : Time
  connection : ConnStatusType

def Moment.transaction (moment : Moment) (clock : Time) : Transaction where
  now := clock + moment.elapsed
  genRandomUuid := moment.genRandomUuid
  genSalt := moment.genSalt
  identityGap := moment.identityGap

def afterFailure (lost : Bool) : ConnStatusType := if lost then .connectionBad else .connectionOk

/-- `PQexecParams`: every statement is one transaction of its own. -/
def World.pqExecParams (postgres : Postgres) (moment : Moment) (statement : Statement)
    (world : World) : Option PgResult × World :=
  let clock := world.clock + moment.elapsed
  match world.connection with
  | .connectionBad => (none, { world with clock })
  | .connectionOk =>
    match moment.weather with
    | .noResult lost => (none, { world with clock, connection := afterFailure lost })
    | .serverError sqlState lost =>
      (some (.failure sqlState), { world with clock, connection := afterFailure lost })
    | .fair =>
      match execute postgres (moment.transaction world.clock) statement world.database with
      | .error failure => (some (.failure failure.sqlState), { world with clock })
      | .ok (result, database) => (some result, { world with clock, database })

/-- One request while it is handled: the statements sent so far and the calls of
`MHD_queue_response` with their results. -/
structure Exchange where
  world : World
  statements : Nat
  attempts : List (Response × MhdResult)

/-- Nothing has been sent for the request yet. -/
structure Exchange.Idle (exchange : Exchange) : Prop where
  statements : exchange.statements = 0
  attempts : exchange.attempts = []

def Environment.queueResult (environment : Environment) : MhdResult :=
  if environment.queues then .yes else .no

/-- `realloc`: the old bytes and then whatever the memory held. -/
def Environment.realloc (environment : Environment) (buffer : Bytes) (size : UInt64) :
    Option Bytes :=
  if environment.grants (.bodyBuffer size) then
    some (buffer.take size.toNat ++
      (List.range (size.toNat - buffer.length)).map environment.junk)
  else none

def interpret (postgres : Postgres) (environment : Environment) :
    Semantics Operation.Answer Exchange
  | .allocate purpose, exchange => (environment.grants purpose, exchange)
  | .realloc buffer size, exchange => (environment.realloc buffer size, exchange)
  | .pqStatus, exchange => (exchange.world.connection, exchange)
  | .pqExecParams statement, exchange =>
    let outcome :=
      exchange.world.pqExecParams postgres (environment.moment exchange.statements) statement
    (outcome.1, { exchange with world := outcome.2, statements := exchange.statements + 1 })
  | .mhdQueueResponse response, exchange =>
    (environment.queueResult,
      { exchange with
        attempts := exchange.attempts ++ [(response, environment.queueResult)] })

/-- The response the client gets: the first one that was queued. -/
def Exchange.reply (exchange : Exchange) : Option Response :=
  (exchange.attempts.find? fun attempt => attempt.2 = .yes).map (·.1)

section Run

variable (postgres : Postgres) (environment : Environment) (exchange : Exchange)

@[simp] theorem run_allocate (purpose : Allocation) :
    (allocate purpose).run (interpret postgres environment) exchange =
      (environment.grants purpose, exchange) := rfl

@[simp] theorem run_realloc (buffer : Bytes) (size : UInt64) :
    (realloc buffer size).run (interpret postgres environment) exchange =
      (environment.realloc buffer size, exchange) := rfl

@[simp] theorem run_pqStatus :
    pqStatus.run (interpret postgres environment) exchange =
      (exchange.world.connection, exchange) := rfl

@[simp] theorem run_mhdQueueResponse (response : Response) :
    (mhdQueueResponse response).run (interpret postgres environment) exchange =
      (environment.queueResult,
        { exchange with
          attempts := exchange.attempts ++ [(response, environment.queueResult)] }) := rfl

end Run

end PortalApi
