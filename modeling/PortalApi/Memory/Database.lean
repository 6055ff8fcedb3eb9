import PortalApi.Database.Access
import PortalApi.Database.StatementProperties
import PortalApi.Memory.Response

/-! The results of `database.c` with the memory they own: a handle of the code and
a result of libpq behind it. -/

set_option autoImplicit false

namespace PortalApi

open Library

/-- The columns of the rows that a statement returns. -/
def Statement.columns : Statement → Nat
  | .authenticate _ | .register _ _ _ _ | .login _ _ _ => 2
  | .commentInsert _ _ _ _ _ _ | .topContent _ _ _ => 2
  | .confirm _ | .favoriteList _ _ | .likeInsert _ _ _ _ _ => 1
  | .activityInsert _ _ _ _ _ _ _ _ => 1
  | .logout _ | .favoriteInsert _ _ _ | .favoriteDelete _ _ _ | .likeDelete _ _ => 0

/-- Statements that return one row or fail. -/
def Statement.ReturnsOne : Statement → Prop
  | .register _ _ _ _ | .activityInsert _ _ _ _ _ _ _ _ | .commentInsert _ _ _ _ _ _ => True
  | _ => False

structure PgResult.Shaped (statement : Statement) (result : PgResult) : Prop where
  columns : ∀ row ∈ result.rows, row.length = statement.columns
  one : statement.ReturnsOne → result.status = .tuplesOk → result.rows.length = 1

/-- The answers PostgreSQL can give: the rows have the columns of the statement. -/
def Shapes : (operation : Operation) → operation.Answer → Prop
  | .pqExecParams statement, some result => result.Shaped statement
  | _, _ => True

section Shapes

variable {postgres : Postgres} {transaction : Transaction} {statement : Statement}
  {database : Database} {outcome : PgResult × Database}

/-- A result without rows, of a statement that may return none. -/
theorem PgResult.Shaped.of_empty {result : PgResult} (empty : result.rows = [])
    (several : statement.ReturnsOne → result.status ≠ .tuplesOk) : result.Shaped statement where
  columns row member := by simp [empty] at member
  one returns tuples := absurd tuples (several returns)

/-- Rows that are all written alike, of a statement that may return any number. -/
theorem PgResult.Shaped.of_map {α : Type} {items : List α} {row : α → List Bytes}
    (width : ∀ item, (row item).length = statement.columns) (several : ¬ statement.ReturnsOne) :
    (PgResult.tuples (items.map row)).Shaped statement where
  columns values member := by
    obtain ⟨item, _, rfl⟩ := List.mem_map.mp member
    exact width item
  one returns := absurd returns several

theorem PgResult.Shaped.of_row {values : List Bytes} (width : values.length = statement.columns) :
    (PgResult.tuples [values]).Shaped statement where
  columns _ member := (List.mem_singleton.mp member).symm ▸ width
  one _ _ := rfl

theorem executeConverted_shaped
    (executed : executeConverted postgres transaction statement database = .ok outcome) :
    outcome.1.Shaped statement := by
  cases statement with
  | authenticate token =>
      obtain ⟨id, _, rfl⟩ := executeAuthenticate_eq_ok.mp executed
      exact .of_map (fun _ => rfl) not_false
  | register email password displayName ttl =>
      obtain ⟨hours, _, _, _, _, rfl⟩ := executeRegister_eq_ok.mp executed
      exact .of_row rfl
  | confirm token =>
      obtain ⟨id, _, rfl⟩ := executeConfirm_eq_ok.mp executed
      exact .of_map (fun _ => rfl) not_false
  | login email password ttl =>
      obtain ⟨hours, sessions, _, _, _, rfl⟩ := executeLogin_eq_ok.mp executed
      exact .of_map (fun _ => rfl) not_false
  | logout token =>
      obtain ⟨id, _, rfl⟩ := executeLogout_eq_ok.mp executed
      exact .of_empty rfl False.elim
  | favoriteList kind userId =>
      obtain ⟨id, _, rfl⟩ := executeFavoriteList_eq_ok.mp executed
      exact .of_map (fun _ => rfl) not_false
  | favoriteInsert kind userId key =>
      obtain ⟨id, _, _, ⟨_, rfl⟩ | ⟨_, _, rfl⟩⟩ := executeFavoriteInsert_eq_ok.mp executed
      · exact .of_empty rfl False.elim
      · exact .of_empty rfl False.elim
  | favoriteDelete kind userId key =>
      obtain ⟨id, _, rfl⟩ := executeFavoriteDelete_eq_ok.mp executed
      exact .of_empty rfl False.elim
  | activityInsert userId anonymousId portalKey eventType contentId componentId pageUrl eventData =>
      obtain ⟨stored, owner, event, _, _, _, _, _, rfl⟩ := executeActivityInsert_eq_ok.mp executed
      exact .of_row rfl
  | likeInsert contentId userId anonymousId actorKey portalKey =>
      obtain ⟨owner, like, _, _, _, ⟨_, rfl⟩ | ⟨_, event, _, _, _, rfl⟩⟩ :=
        executeLikeInsert_eq_ok.mp executed
      · exact .of_empty rfl False.elim
      · exact .of_row rfl
  | likeDelete contentId actorKey =>
      obtain rfl := executeLikeDelete_eq_ok.mp executed
      exact .of_empty rfl False.elim
  | commentInsert contentId userId anonymousId authorName body portalKey =>
      obtain ⟨owner, comment, event, _, _, _, _, _, _, _, rfl⟩ :=
        executeCommentInsert_eq_ok.mp executed
      exact .of_row rfl
  | topContent portalKey days limit =>
      simp only [executeConverted, executeTopContent, except_bind_eq_ok, castInt4_eq_ok,
        Except.ok.injEq] at executed
      obtain ⟨_, _, _, _, rfl⟩ := executed
      exact .of_map (fun _ => rfl) not_false

/-- Every answer of the database has the shape of its statement. -/
theorem interpret_shapes {environment : Environment} (operation : Operation)
    (exchange : Exchange) :
    Shapes operation (interpret postgres environment operation exchange).1 := by
  cases operation with
  | pqExecParams statement =>
      simp only [interpret, World.pqExecParams]
      split
      · trivial
      · split
        · trivial
        · exact .of_empty rfl (by simp [PgResult.failure])
        · split
          · exact .of_empty rfl (by simp [PgResult.failure])
          · next executed => exact executeConverted_shaped (execute_eq_ok.mp executed).2
  | _ => trivial

end Shapes

namespace Memory

open Owning

/-- The handle, and the result of libpq it holds unless libpq gave none. -/
structure PortalDatabaseResult where
  block : Block Resource
  result : Option (Pointer Resource PgResult)

def portalDatabaseResultDestroy (result : Option PortalDatabaseResult) : Managed Unit :=
  match result with
  | none => return
  | some result => do
    access result.block
    relinquish .pgResult (result.result.map (·.block))
    release .databaseResult result.block

def portalDatabaseQuery (statement : Statement) : Managed (Option PortalDatabaseResult) := do
  if ← allocate (.databaseResult statement.sender) then
    let block ← acquire .databaseResult
    match ← pqExecParams statement with
    | none =>
      portalDatabaseResultDestroy (some { block, result := none })
      return none
    | some result =>
      let held ← acquire .pgResult
      access block
      return some { block, result := some { block := held, target := result } }
  else return none

/-- What the accessors look at: the result of libpq, if there is one. -/
def portalDatabaseResultHeld (result : Option PortalDatabaseResult) : Managed (Option PgResult) :=
  match result with
  | none => return none
  | some result => do
    access result.block
    match result.result with
    | none => return none
    | some held => do
      access held.block
      return some held.target

def portalDatabaseResultStatus (result : Option PortalDatabaseResult) :
    Managed PortalDatabaseResultStatus := do
  return PortalApi.portalDatabaseResultStatus (← portalDatabaseResultHeld result)

def portalDatabaseResultRowCount (result : Option PortalDatabaseResult) : Managed Nat := do
  return PortalApi.portalDatabaseResultRowCount (← portalDatabaseResultHeld result)

/-- The text belongs to the result of libpq. -/
def portalDatabaseResultValue (result : Option PortalDatabaseResult) (row column : Nat) :
    Managed (Option (Borrowed Resource Bytes)) := do
  let value := PortalApi.portalDatabaseResultValue (← portalDatabaseResultHeld result) row column
  return value.map fun target =>
    { owner := result.bind fun result => result.result.map (·.block), target }

def portalDatabaseResultIsUniqueViolation (result : Option PortalDatabaseResult) : Managed Bool := do
  return PortalApi.portalDatabaseResultIsUniqueViolation (← portalDatabaseResultHeld result)

/-- A value as its readers take it, none of which accepts NULL. -/
def resultText (result : Option PortalDatabaseResult) (row column : Nat) : Managed Bytes := do
  dereference (← portalDatabaseResultValue result row column)

/-- The check for one row: the rows are counted only when there are tuples. -/
def lacksRow (result : Option PortalDatabaseResult) : Managed Bool := do
  if (← portalDatabaseResultStatus result) ≠ .tuples then return true
  else return (← portalDatabaseResultRowCount result) ≠ 1

/-- What a query of a statement returns, and the blocks it adds to the live ones. -/
inductive Queried (statement : Statement) (live : Finset (Block Resource)) :
    Option PortalDatabaseResult → Option PgResult → Finset (Block Resource) → Prop where
  | null : Queried statement live none none live
  | held {block held : Block Resource} {result : PgResult} : block ∉ live →
      block.kind = .databaseResult → held ∉ insert block live → held.kind = .pgResult →
      result.Shaped statement →
      Queried statement live (some { block, result := some { block := held, target := result } })
        (some result) (insert held (insert block live))

section Tracks

variable {live after : Finset (Block Resource)} {statement : Statement}
  {result : Option PortalDatabaseResult} {value : Option PgResult}

theorem portalDatabaseQuery_tracks :
    Tracks Shapes live (portalDatabaseQuery statement) (PortalApi.portalDatabaseQuery statement)
      (Queried statement live) := by
  refine .perform fun created _ => .ite (fun _ => ?_) fun _ => .pure .null
  refine .acquire fun block fresh kind => ?_
  have present : block ∈ insert block live := Finset.mem_insert_self _ _
  refine .last (.perform fun answer shaped => ?_)
  cases answer with
  | none =>
      have freed : Leaves Shapes (insert block live) (relinquish .pgResult none >>= fun _ =>
          release .databaseResult block) live := .reads (.pure ()) (Leaves.released fresh kind)
      exact .leaves (.reads (.access present) freed) (.pure .null)
  | some result =>
      refine .acquire fun held other heldKind => .reads (.access (by simp)) (.pure ?_)
      exact .held fresh kind other heldKind shaped

/-- Both blocks of a result are given back. -/
theorem Queried.destroy (queried : Queried statement live result value after) :
    Leaves Shapes after (portalDatabaseResultDestroy result) live := by
  cases queried with
  | null => exact .pure rfl
  | held fresh kind other heldKind _ =>
      exact .reads (.access (by simp)) (.released other heldKind (Leaves.released fresh kind))

theorem Queried.reads (queried : Queried statement live result value after) :
    Reads after (portalDatabaseResultHeld result) value := by
  cases queried with
  | null => exact .pure _
  | held _ _ _ _ _ =>
      exact .bind (.access (by simp)) (.bind (.access (by simp)) (.pure _))

theorem Queried.status (queried : Queried statement live result value after) :
    Reads after (portalDatabaseResultStatus result)
      (PortalApi.portalDatabaseResultStatus value) :=
  .bind queried.reads (.pure _)

theorem Queried.rowCount (queried : Queried statement live result value after) :
    Reads after (portalDatabaseResultRowCount result)
      (PortalApi.portalDatabaseResultRowCount value) :=
  .bind queried.reads (.pure _)

theorem Queried.isUniqueViolation (queried : Queried statement live result value after) :
    Reads after (portalDatabaseResultIsUniqueViolation result)
      (PortalApi.portalDatabaseResultIsUniqueViolation value) :=
  .bind queried.reads (.pure _)

/-- A value that a row has can be read. -/
theorem Queried.text {row column : Nat} {text : Bytes}
    (queried : Queried statement live result value after)
    (given : PortalApi.portalDatabaseResultValue value row column = some text) :
    Reads after (resultText result row column) text := by
  have reads := queried.reads
  cases queried with
  | null => cases given
  | @held block held shown _ _ _ _ _ =>
      refine .bind (.bind reads (.pure _)) ?_
      simp only [given, Option.map_some, dereference]
      refine .read fun owner same => ?_
      obtain rfl : held = owner := by simpa using same
      exact Finset.mem_insert_self _ _

theorem Queried.shaped (queried : Queried statement live result value after) {shown : PgResult}
    (given : value = some shown) : shown.Shaped statement := by
  cases queried with
  | null => cases given
  | held _ _ _ _ shaped => exact Option.some.inj given ▸ shaped

/-- A row of a result has a value in every column of the statement. -/
theorem Queried.value_some (queried : Queried statement live result value after) {row column : Nat}
    (within : row < PortalApi.portalDatabaseResultRowCount value)
    (present : column < statement.columns) :
    PortalApi.portalDatabaseResultValue value row column =
      some ((PortalApi.portalDatabaseResultValue value row column).getD []) := by
  cases given : value with
  | none => simp [given, PortalApi.portalDatabaseResultRowCount] at within
  | some shown =>
      have row_lt : row < shown.rows.length := by
        simpa [given, PortalApi.portalDatabaseResultRowCount] using within
      have width := (queried.shaped given).columns shown.rows[row] (List.getElem_mem row_lt)
      have column_lt : column < shown.rows[row].length := width.symm ▸ present
      simp [PortalApi.portalDatabaseResultValue, row_lt, column_lt]

theorem Queried.rowText (queried : Queried statement live result value after) {row column : Nat}
    (within : row < PortalApi.portalDatabaseResultRowCount value)
    (present : column < statement.columns) :
    Reads after (resultText result row column)
      ((PortalApi.portalDatabaseResultValue value row column).getD []) :=
  queried.text (queried.value_some within present)

theorem Queried.lacksRow (queried : Queried statement live result value after) :
    Reads after (lacksRow result)
      (PortalApi.portalDatabaseResultStatus value ≠ .tuples ||
        PortalApi.portalDatabaseResultRowCount value ≠ 1) := by
  refine .bind queried.status ?_
  by_cases tuples : PortalApi.portalDatabaseResultStatus value = .tuples
  · simp only [tuples, ne_eq, not_true_eq_false, ↓reduceIte, decide_false, Bool.false_or]
    exact .bind queried.rowCount (.pure _)
  · simp only [tuples, ne_eq, not_false_eq_true, ↓reduceIte, decide_true, Bool.true_or]
    exact .pure _

/-- A statement that returns one row has returned it when there are tuples. -/
theorem Queried.rowCount_one (queried : Queried statement live result value after)
    (returns : statement.ReturnsOne)
    (tuples : PortalApi.portalDatabaseResultStatus value = .tuples) :
    PortalApi.portalDatabaseResultRowCount value = 1 := by
  cases given : value with
  | none => simp [given, PortalApi.portalDatabaseResultStatus] at tuples
  | some shown =>
      have status : shown.status = .tuplesOk := by
        cases known : shown.status <;>
          simp [given, PortalApi.portalDatabaseResultStatus, known] at tuples
        rfl
      exact (queried.shaped given).one returns status

/-- The body of a function that queries, between the query and its cleanup. -/
theorem Queried.scoped {α : Type} {body : Option PortalDatabaseResult → Managed α}
    {plain : Option PgResult → Handler α}
    (rest : ∀ result value after, Queried statement live result value after →
      Tracks Shapes after (body result) (plain value) (Restores after)) :
    Tracks Shapes live
      (portalDatabaseQuery statement >>= fun result =>
        cleaningUp (portalDatabaseResultDestroy result) (body result))
      (PortalApi.portalDatabaseQuery statement >>= plain) (Restores live) := by
  refine portalDatabaseQuery_tracks.bind fun result value after queried => ?_
  refine .cleaningUp (rest result value after queried) ?_
  intro value result held restored
  obtain ⟨same, rfl⟩ := restored
  exact ⟨live, queried.destroy, same, rfl⟩

end Tracks

end Memory

end PortalApi
