import PortalApi.Database.Access
import PortalApi.Database.StatementProperties

/-! What one statement sent over the handle can do: it commits, or it leaves the
tables alone and reports an error. -/

set_option autoImplicit false

namespace PortalApi

/-- The transactions a request's statements can run in. -/
def Environment.Offers (environment : Environment) (transaction : Transaction) : Prop :=
  ∃ index clock, transaction = (environment.moment index).transaction clock

/-- The tables are as before; time may have passed. -/
structure World.Kept (before after : World) : Prop where
  database : after.database = before.database
  clock : before.clock ≤ after.clock

/-- The service has its connection and the outside fails nothing. -/
structure World.Smooth (world : World) (environment : Environment) : Prop where
  healthy : environment.Healthy
  connection : world.connection = .connectionOk

theorem World.Kept.refl (world : World) : world.Kept world where
  database := rfl
  clock := Int.le_refl _

theorem World.Kept.of_eq {before after : World} (same : after = before) : before.Kept after :=
  same ▸ .refl after

theorem World.Kept.trans {first second third : World} (earlier : first.Kept second)
    (later : second.Kept third) : first.Kept third where
  database := later.database.trans earlier.database
  clock := Int.le_trans earlier.clock later.clock

/-- A statement without effect reports an error; when the outside fails nothing,
the server itself refused the statement. -/
structure World.Failed (before : World) (postgres : Postgres) (environment : Environment)
    (statement : Statement) (result : Option PgResult) (after : World) : Prop where
  kept : before.Kept after
  status : portalDatabaseResultStatus result = .error
  cause : before.Smooth environment → after.Smooth environment ∧
    ∃ transaction failure, environment.Offers transaction ∧ transaction.now = after.clock ∧
      execute postgres transaction statement before.database = .error failure ∧
      result = some (.failure failure.sqlState)

structure World.Committed (before : World) (postgres : Postgres) (environment : Environment)
    (statement : Statement) (transaction : Transaction) (outcome : PgResult) (after : World) :
    Prop where
  offered : environment.Offers transaction
  now : transaction.now = after.clock
  clock : before.clock ≤ after.clock
  connection : after.connection = .connectionOk
  executed : execute postgres transaction statement before.database = .ok (outcome, after.database)

variable {postgres : Postgres} {environment : Environment} {statement : Statement}

theorem World.Failed.status_ne {before after : World} {result : Option PgResult}
    (failed : before.Failed postgres environment statement result after) :
    portalDatabaseResultStatus result ≠ .tuples ∧ portalDatabaseResultStatus result ≠ .command := by
  simp [failed.status]

@[simp] theorem Exchange.query_attempts (exchange : Exchange) :
    (exchange.query postgres environment statement).2.attempts = exchange.attempts := by
  unfold Exchange.query
  split <;> rfl

theorem Exchange.query_clock (exchange : Exchange)
    (granted : environment.grants (.databaseResult statement.sender) = true) :
    (exchange.query postgres environment statement).2.world.clock =
      exchange.world.clock + (environment.moment exchange.statements).elapsed := by
  simp only [Exchange.query, granted, ↓reduceIte, interpret, World.pqExecParams]
  split
  · rfl
  · split
    · rfl
    · rfl
    · split <;> rfl

theorem Exchange.query_granted {exchange : Exchange} {outcome : PgResult}
    (result : (exchange.query postgres environment statement).1 = some outcome) :
    environment.grants (.databaseResult statement.sender) = true := by
  cases granted : environment.grants (.databaseResult statement.sender) with
  | true => rfl
  | false => simp [Exchange.query, granted] at result

/-- Every call of `portal_database_query` fails without effect or commits. -/
theorem Exchange.query_cases (exchange : Exchange) (postgres : Postgres)
    (environment : Environment) (statement : Statement) :
    exchange.world.Failed postgres environment statement
        (exchange.query postgres environment statement).1
        (exchange.query postgres environment statement).2.world ∨
      ∃ transaction outcome, (exchange.query postgres environment statement).1 = some outcome ∧
        exchange.world.Committed postgres environment statement transaction outcome
          (exchange.query postgres environment statement).2.world := by
  have later : exchange.world.clock ≤
      exchange.world.clock + (environment.moment exchange.statements).elapsed :=
    Int.le_add_of_nonneg_right (Int.natCast_nonneg _)
  cases granted : environment.grants (.databaseResult statement.sender) with
  | false =>
      left
      simp only [Exchange.query, granted, Bool.false_eq_true, ↓reduceIte]
      refine ⟨.refl exchange.world, rfl, fun smooth => ?_⟩
      have present := smooth.healthy.granted (.databaseResult statement.sender)
      simp [granted] at present
  | true =>
      simp only [Exchange.query, granted, ↓reduceIte, interpret, World.pqExecParams]
      cases connected : exchange.world.connection with
      | connectionBad =>
          left
          refine ⟨⟨rfl, later⟩, rfl, fun smooth => ?_⟩
          have good := smooth.connection
          simp [connected] at good
      | connectionOk =>
          cases weather : (environment.moment exchange.statements).weather with
          | noResult lost =>
              left
              refine ⟨⟨rfl, later⟩, rfl, fun smooth => ?_⟩
              have fair := smooth.healthy.fair exchange.statements
              simp [weather] at fair
          | serverError sqlState lost =>
              left
              refine ⟨⟨rfl, later⟩, rfl, fun smooth => ?_⟩
              have fair := smooth.healthy.fair exchange.statements
              simp [weather] at fair
          | fair =>
              simp only
              cases executed : execute postgres
                  ((environment.moment exchange.statements).transaction exchange.world.clock)
                  statement exchange.world.database with
              | error failure =>
                  left
                  exact ⟨⟨rfl, later⟩, rfl, fun smooth =>
                    ⟨⟨smooth.healthy, rfl⟩, _, failure, ⟨_, _, rfl⟩, rfl, executed, rfl⟩⟩
              | ok outcome =>
                  right
                  exact ⟨_, outcome.1, rfl, ⟨_, _, rfl⟩, rfl, later, rfl, executed⟩

end PortalApi
