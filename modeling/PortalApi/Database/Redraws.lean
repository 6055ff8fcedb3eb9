import PortalApi.Database.StatementProperties
import Mathlib.Data.List.Forall2

/-! Two databases that differ at most in hidden confirmation tokens, and what the
statements make of them when the tokens are drawn again. -/

set_option autoImplicit false

namespace PortalApi

open Library

/-- The same transaction with other draws for `confirmation_tokens.token`. -/
def Transaction.redraw (transaction : Transaction) (tokens : Nat → Uuid) : Transaction :=
  { transaction with
    genRandomUuid := fun column =>
      match column with
      | .confirmationTokensToken => tokens
      | other => transaction.genRandomUuid other }

def Database.withTokens (database : Database) (rows : List ConfirmationTokenRow) : Database :=
  { database with confirmationTokens := rows }

@[simp] theorem Transaction.now_redraw (transaction : Transaction) (tokens : Nat → Uuid) :
    (transaction.redraw tokens).now = transaction.now := rfl

@[simp] theorem Transaction.redraw_same (transaction : Transaction) :
    transaction.redraw (transaction.genRandomUuid .confirmationTokensToken) = transaction := by
  unfold redraw
  congr
  funext column
  cases column <;> rfl

@[simp] theorem Database.confirmationTokens_withTokens (database : Database)
    (rows : List ConfirmationTokenRow) : (database.withTokens rows).confirmationTokens = rows := rfl

@[simp] theorem Database.withTokens_same (database : Database) :
    database.withTokens database.confirmationTokens = database := rfl

/-- The statements that do not touch the table of confirmation tokens. -/
def Statement.Ordinary : Statement → Prop
  | .register _ _ _ _ => False
  | .confirm _ => False
  | _ => True

/-- The outcome of a statement with other rows in that table. -/
def outcomeWith (rows : List ConfirmationTokenRow)
    (outcome : Except SqlError (PgResult × Database)) : Except SqlError (PgResult × Database) :=
  outcome.map fun committed => (committed.1, committed.2.withTokens rows)

section Ordinary

variable {postgres : Postgres} {transaction : Transaction} {database : Database}

theorem outcomeWith_bind {α : Type} (rows : List ConfirmationTokenRow) (source : Except SqlError α)
    (next : α → Except SqlError (PgResult × Database)) :
    outcomeWith rows (source >>= next) = source >>= fun value => outcomeWith rows (next value) := by
  cases source <;> rfl

theorem outcomeWith_ite (rows : List ConfirmationTokenRow) (condition : Prop)
    [Decidable condition] (accepted refused : Except SqlError (PgResult × Database)) :
    outcomeWith rows (if condition then accepted else refused) =
      if condition then outcomeWith rows accepted else outcomeWith rows refused := by
  split <;> rfl

theorem executeConverted_redraw {statement : Statement} (ordinary : statement.Ordinary)
    (tokens : Nat → Uuid) (rows : List ConfirmationTokenRow) :
    executeConverted postgres (transaction.redraw tokens) statement (database.withTokens rows) =
      outcomeWith rows (executeConverted postgres transaction statement database) := by
  cases statement with
  | register email password displayName ttl => exact ordinary.elim
  | confirm token => exact ordinary.elim
  | authenticate token =>
      simp only [executeConverted, executeAuthenticate, outcomeWith_bind]
      rfl
  | login email password ttl =>
      simp only [executeConverted, executeLogin, outcomeWith_bind]
      rfl
  | logout token =>
      simp only [executeConverted, executeLogout, outcomeWith_bind]
      rfl
  | favoriteList kind userId =>
      simp only [executeConverted, executeFavoriteList, outcomeWith_bind]
      cases kind <;> rfl
  | favoriteInsert kind userId key =>
      simp only [executeConverted, executeFavoriteInsert, outcomeWith_bind, outcomeWith_ite]
      cases kind <;> rfl
  | favoriteDelete kind userId key =>
      simp only [executeConverted, executeFavoriteDelete, outcomeWith_bind]
      cases kind <;> rfl
  | activityInsert userId anonymousId portalKey eventType contentId componentId pageUrl eventData =>
      simp only [executeConverted, executeActivityInsert, outcomeWith_bind]
      rfl
  | likeInsert contentId userId anonymousId actorKey portalKey =>
      simp only [executeConverted, executeLikeInsert, outcomeWith_bind, outcomeWith_ite]
      rfl
  | likeDelete contentId actorKey => rfl
  | commentInsert contentId userId anonymousId authorName body portalKey =>
      simp only [executeConverted, executeCommentInsert, outcomeWith_bind]
      rfl
  | topContent portalKey days limit =>
      simp only [executeConverted, executeTopContent, outcomeWith_bind]
      rfl

end Ordinary

/-- A row and the same row with another token, both of which are hidden. -/
inductive ConfirmationTokenRow.Alike (hidden : Uuid → Prop) (row : ConfirmationTokenRow) :
    ConfirmationTokenRow → Prop where
  | same : row.Alike hidden row
  | redrawn {token : Uuid} : hidden row.token → hidden token →
      row.Alike hidden { row with token }

abbrev TokensAlike (hidden : Uuid → Prop) : List ConfirmationTokenRow →
    List ConfirmationTokenRow → Prop :=
  List.Forall₂ (ConfirmationTokenRow.Alike hidden)

/-- Two databases that are the same but for hidden tokens. -/
inductive Database.Alike (hidden : Uuid → Prop) (database : Database) : Database → Prop where
  | withTokens {rows : List ConfirmationTokenRow} :
      TokensAlike hidden database.confirmationTokens rows →
      database.Alike hidden (database.withTokens rows)

/-- Two transactions that end alike: refused for the same reason, or committed
with results that a view cannot tell apart. -/
inductive OutcomesAlike {β : Type} (hidden : Uuid → Prop) (view : PgResult → β) :
    Except SqlError (PgResult × Database) → Except SqlError (PgResult × Database) → Prop where
  | refused (failure : SqlError) : OutcomesAlike hidden view (.error failure) (.error failure)
  | committed {result otherResult : PgResult} {database other : Database} :
      view result = view otherResult → database.Alike hidden other →
      OutcomesAlike hidden view (.ok (result, database)) (.ok (otherResult, other))

/-- A statement whose result shows no hidden token and depends on none. -/
def Statement.Discreet (postgres : Postgres) (hidden : Uuid → Prop) : Statement → Prop
  | .register _ _ _ _ => False
  | .confirm text => ∀ token, postgres.castText text = some token → ¬ hidden token
  | _ => True

section Rows

variable {transaction : Transaction} {hidden : Uuid → Prop} {row other : ConfirmationTokenRow}
  {rows others : List ConfirmationTokenRow} {token : Uuid}

theorem ConfirmationTokenRow.Alike.consumable (alike : row.Alike hidden other)
    (shown : ¬ hidden token) (now : Time) :
    consumable now token other = consumable now token row := by
  cases alike with
  | same => rfl
  | redrawn first second =>
      have before : row.token ≠ token := fun equal => shown (equal ▸ first)
      have after : ¬ _ = token := fun equal => shown (equal ▸ second)
      simp [PortalApi.consumable, before, after]

theorem ConfirmationTokenRow.Alike.consume (alike : row.Alike hidden other) :
    (consume transaction row).Alike hidden (consume transaction other) := by
  cases alike with
  | same => exact .same
  | redrawn first second => exact .redrawn first second

theorem ConfirmationTokenRow.Alike.userId (alike : row.Alike hidden other) :
    other.userId = row.userId := by
  cases alike with
  | same => rfl
  | redrawn first second => rfl

theorem TokensAlike.refl (rows : List ConfirmationTokenRow) : TokensAlike hidden rows rows :=
  List.forall₂_same.mpr fun _ _ => .same

/-- A token that is not hidden finds rows of the same accounts. -/
theorem TokensAlike.ownsOneOf (alike : TokensAlike hidden rows others) (shown : ¬ hidden token)
    (now : Time) :
    ownsOneOf (others.filter (consumable now token)) =
      ownsOneOf (rows.filter (consumable now token)) := by
  funext user
  simp only [PortalApi.ownsOneOf, List.any_filter]
  induction alike with
  | nil => rfl
  | cons first _ ih => simp only [List.any_cons, first.consumable shown, first.userId, ih]

theorem TokensAlike.consumed (alike : TokensAlike hidden rows others) (shown : ¬ hidden token)
    (now : Time) :
    TokensAlike hidden (Table.update (consumable now token) (consume transaction) rows)
      (Table.update (consumable now token) (consume transaction) others) := by
  unfold Table.update
  induction alike with
  | nil => exact .nil
  | cons first _ ih =>
      refine .cons ?_ ih
      simp only [first.consumable shown]
      split
      · exact first.consume
      · exact first

end Rows

section Execute

variable {postgres : Postgres} {transaction : Transaction} {hidden : Uuid → Prop}
  {database other : Database} {tokens : Nat → Uuid}

theorem executeConfirm_alike {rows : List ConfirmationTokenRow}
    (alike : TokensAlike hidden database.confirmationTokens rows) {text : Bytes}
    (shown : ∀ token, postgres.uuidIn text = some token → ¬ hidden token) :
    OutcomesAlike hidden id (executeConfirm postgres transaction database text)
      (executeConfirm postgres (transaction.redraw tokens) (database.withTokens rows) text) := by
  cases read : postgres.uuidIn text with
  | none =>
      simp only [executeConfirm, castUuid, read]
      exact .refused _
  | some token =>
      have owners := alike.ownsOneOf (shown token read) transaction.now
      have ran : executeConfirm postgres (transaction.redraw tokens) (database.withTokens rows)
          text = outcomeWith (Table.update (consumable transaction.now token) (consume transaction)
            rows) (executeConfirm postgres transaction database text) := by
        simp only [executeConfirm, castUuid, read, bind, Except.bind, Transaction.now_redraw,
          Database.confirmationTokens_withTokens, owners]
        rfl
      rw [ran]
      have consumed : TokensAlike hidden
          (Table.update (consumable transaction.now token) (consume transaction)
            database.confirmationTokens)
          (Table.update (consumable transaction.now token) (consume transaction) rows) :=
        alike.consumed (shown token read) transaction.now
      simp only [executeConfirm, castUuid, read]
      exact .committed rfl (.withTokens consumed)

theorem executeConverted_tokens {statement : Statement} (ordinary : statement.Ordinary)
    {result : PgResult} {after : Database}
    (ran : executeConverted postgres transaction statement database = .ok (result, after)) :
    after.confirmationTokens = database.confirmationTokens := by
  have framed : executeConverted postgres
      (transaction.redraw (transaction.genRandomUuid .confirmationTokensToken)) statement
      (database.withTokens database.confirmationTokens) =
        outcomeWith database.confirmationTokens
          (executeConverted postgres transaction statement database) :=
    executeConverted_redraw ordinary _ _
  rw [Transaction.redraw_same, Database.withTokens_same, ran] at framed
  have same : (result, after) = (result, after.withTokens database.confirmationTokens) :=
    Except.ok.inj framed
  rw [(Prod.mk.inj same).2, Database.confirmationTokens_withTokens]

theorem execute_alike {statement : Statement} (discreet : statement.Discreet postgres hidden)
    (alike : database.Alike hidden other) (tokens : Nat → Uuid) :
    OutcomesAlike hidden id (execute postgres transaction statement database)
      (execute postgres (transaction.redraw tokens) statement other) := by
  cases alike with
  | @withTokens rows alike =>
  unfold execute
  cases encoded : statement.parameters.all validUtf8 with
  | false => exact .refused _
  | true =>
      have ordinary : statement.Ordinary → OutcomesAlike hidden id
          (executeConverted postgres transaction statement database)
          (executeConverted postgres (transaction.redraw tokens) statement
            (database.withTokens rows)) := by
        intro ordinary
        rw [executeConverted_redraw ordinary]
        cases ran : executeConverted postgres transaction statement database with
        | error failure => exact .refused failure
        | ok outcome =>
            have kept := executeConverted_tokens ordinary ran
            exact .committed rfl (.withTokens (kept ▸ alike))
      cases statement with
      | register email password displayName ttl => exact discreet.elim
      | confirm text =>
          apply executeConfirm_alike alike
          intro token read
          exact discreet token (Postgres.castText_eq_some.mpr ⟨by simpa [Statement.parameters] using encoded, read⟩)
      | _ => exact ordinary trivial

/-- What is left of a result without its first column. -/
def PgResult.conceal (result : PgResult) : PgResult :=
  { result with rows := result.rows.map (·.drop 1) }

/-- The part of a registration that does not depend on the tokens: the hours of
validity, when the account can be added. -/
def registrable (postgres : Postgres) (transaction : Transaction) (database : Database)
    (email password displayName ttl : Bytes) : Except SqlError Int := do
  let hours ← castInt4 postgres ttl
  let user := registeredUser postgres transaction email password displayName
  ensure (user.check postgres.lower) .checkViolation
  ensure (database.users.all fun row => row.id != user.id && row.email != user.email) .uniqueViolation
  .ok hours

theorem executeRegister_fresh {email password displayName ttl : Bytes}
    (fresh : ∀ row ∈ database.confirmationTokens,
      row.token ≠ transaction.genRandomUuid .confirmationTokensToken 0) :
    executeRegister postgres transaction database email password displayName ttl =
      (registrable postgres transaction database email password displayName ttl).map fun hours =>
        let user := registeredUser postgres transaction email password displayName
        let token := issuedToken transaction user.id hours
        (.tuples [[postgres.uuidOut token.token, postgres.timestampOut token.expiresAt]],
          { database with
            users := database.users ++ [user]
            confirmationTokens := database.confirmationTokens ++ [token] }) := by
  have unused : ∀ hours, (database.confirmationTokens.all fun row => row.token !=
      (issuedToken transaction (registeredUser postgres transaction email password displayName).id
        hours).token) = true := by
    simpa [issuedToken] using fresh
  unfold executeRegister registrable
  cases castInt4 postgres ttl with
  | error failure => rfl
  | ok hours =>
      simp only [bind, Except.bind, unused]
      cases UserRow.check postgres.lower
        (registeredUser postgres transaction email password displayName) with
      | false => rfl
      | true =>
          simp only [ensure, ↓reduceIte]
          split <;> rfl

/-- A registration whose draws are new ends alike, but for the token it shows. -/
theorem execute_register_alike {email password displayName ttl : Bytes}
    (alike : database.Alike hidden other)
    (fresh : ∀ row ∈ database.confirmationTokens,
      row.token ≠ transaction.genRandomUuid .confirmationTokensToken 0)
    (otherFresh : ∀ row ∈ other.confirmationTokens, row.token ≠ tokens 0)
    (issued : ∀ outcome, execute postgres transaction
      (.register email password displayName ttl) database = .ok outcome →
        hidden (transaction.genRandomUuid .confirmationTokensToken 0))
    (otherIssued : ∀ outcome, execute postgres (transaction.redraw tokens)
      (.register email password displayName ttl) other = .ok outcome → hidden (tokens 0)) :
    OutcomesAlike hidden PgResult.conceal
      (execute postgres transaction (.register email password displayName ttl) database)
      (execute postgres (transaction.redraw tokens) (.register email password displayName ttl)
        other) := by
  cases alike with
  | @withTokens rows alike =>
  have redrawnFresh : ∀ row ∈ (database.withTokens rows).confirmationTokens,
      row.token ≠ (transaction.redraw tokens).genRandomUuid .confirmationTokensToken 0 :=
    otherFresh
  revert issued otherIssued
  simp only [execute, executeConverted, executeRegister_fresh fresh,
    executeRegister_fresh redrawnFresh]
  cases Statement.parameters (.register email password displayName ttl) |>.all validUtf8 with
  | false => exact fun _ _ => .refused _
  | true =>
      have same : registrable postgres (transaction.redraw tokens) (database.withTokens rows) email
          password displayName ttl =
          registrable postgres transaction database email password displayName ttl := rfl
      rw [same]
      cases registrable postgres transaction database email password displayName ttl with
      | error failure => exact fun _ _ => .refused failure
      | ok hours =>
          intro issued otherIssued
          have added : ConfirmationTokenRow.Alike hidden (issuedToken transaction
              (transaction.genRandomUuid .usersId 0) hours)
              { issuedToken transaction (transaction.genRandomUuid .usersId 0) hours with
                token := tokens 0 } :=
            .redrawn (issued _ rfl) (otherIssued _ rfl)
          exact .committed rfl (.withTokens (List.rel_append alike (.cons added .nil)))

end Execute

end PortalApi
