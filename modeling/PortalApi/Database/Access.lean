import PortalApi.Http.Effects

/-! `database.c`: the handle around libpq and its results. A `none` result is a
NULL pointer. -/

set_option autoImplicit false

namespace PortalApi

open Library

inductive PortalDatabaseResultStatus where
  | error
  | command
  | tuples
  deriving DecidableEq

def portalDatabaseIsConnected : Handler Bool := do
  return (← pqStatus) = .connectionOk

def portalDatabaseQuery (statement : Statement) : Handler (Option PgResult) := do
  if ← allocate (.databaseResult statement.sender) then pqExecParams statement else return none

def portalDatabaseResultStatus (result : Option PgResult) : PortalDatabaseResultStatus :=
  match result with
  | none => .error
  | some result =>
    match result.status with
    | .commandOk => .command
    | .tuplesOk => .tuples
    | .fatalError => .error

def portalDatabaseResultRowCount (result : Option PgResult) : Nat :=
  match result with
  | none => 0
  | some result => result.rows.length

def portalDatabaseResultValue (result : Option PgResult) (row column : Nat) : Option Bytes :=
  match result with
  | none => none
  | some result => (result.rows[row]?).bind fun values => values[column]?

def portalDatabaseResultIsUniqueViolation (result : Option PgResult) : Bool :=
  match result with
  | none => false
  | some result => result.sqlState = some (bytes "23505")

@[simp] theorem portalDatabaseResultStatus_tuples (rows : List (List Bytes)) :
    portalDatabaseResultStatus (some (.tuples rows)) = .tuples := rfl

@[simp] theorem portalDatabaseResultStatus_command :
    portalDatabaseResultStatus (some .command) = .command := rfl

@[simp] theorem portalDatabaseResultRowCount_tuples (rows : List (List Bytes)) :
    portalDatabaseResultRowCount (some (.tuples rows)) = rows.length := rfl

@[simp] theorem portalDatabaseResultValue_tuples (rows : List (List Bytes)) (row column : Nat) :
    portalDatabaseResultValue (some (.tuples rows)) row column =
      (rows[row]?).bind fun values => values[column]? := rfl

@[simp] theorem portalDatabaseResultIsUniqueViolation_failure (failure : SqlError) :
    portalDatabaseResultIsUniqueViolation (some (.failure failure.sqlState)) =
      decide (failure = .uniqueViolation) := by
  cases failure <;> decide

/-- What one `portal_database_query` returns and leaves behind. -/
def Exchange.query (exchange : Exchange) (postgres : Postgres) (environment : Environment)
    (statement : Statement) : Option PgResult × Exchange :=
  if environment.grants (.databaseResult statement.sender) then
    interpret postgres environment (.pqExecParams statement) exchange
  else (none, exchange)

section Run

variable (postgres : Postgres) (environment : Environment) (exchange : Exchange)

@[simp] theorem run_portalDatabaseQuery (statement : Statement) :
    (portalDatabaseQuery statement).run (interpret postgres environment) exchange =
      exchange.query postgres environment statement := by
  cases granted : environment.grants (.databaseResult statement.sender) <;>
    simp [portalDatabaseQuery, Exchange.query, granted, pqExecParams]

@[simp] theorem run_portalDatabaseIsConnected :
    portalDatabaseIsConnected.run (interpret postgres environment) exchange =
      (decide (exchange.world.connection = .connectionOk), exchange) := rfl

end Run

end PortalApi
