import PortalApi.Database.StatementProperties
import Mathlib.Tactic.Simps.Basic

/-! What the service stores and never reads: the names, the texts, most of the times, and who
an event, a like or a comment is from. A statement makes the same of two databases that
differ in nothing else. -/

set_option autoImplicit false

namespace PortalApi

open Library

/-- Whether something happened, and no longer when. -/
def undated (time : Option Time) : Option Time := time.map fun _ => 0

@[simps] def UserRow.outline (row : UserRow) : UserRow :=
  { row with displayName := [], confirmedAt := undated row.confirmedAt, createdAt := 0, updatedAt := 0 }

@[simps] def ConfirmationTokenRow.outline (row : ConfirmationTokenRow) : ConfirmationTokenRow :=
  { row with consumedAt := undated row.consumedAt, createdAt := 0 }

@[simps] def AuthSessionRow.outline (row : AuthSessionRow) : AuthSessionRow :=
  { row with revokedAt := undated row.revokedAt, createdAt := 0, lastSeenAt := 0 }

@[simps] def FavoriteRow.outline (row : FavoriteRow) : FavoriteRow := { row with createdAt := 0 }

@[simps] def ActivityEventRow.outline (row : ActivityEventRow) : ActivityEventRow :=
  { row with
    userId := none
    anonymousId := none
    componentId := none
    pageUrl := none
    eventData := []
    receivedAt := 0 }

@[simps] def ContentLikeRow.outline (row : ContentLikeRow) : ContentLikeRow :=
  { row with userId := none, anonymousId := none, createdAt := 0 }

@[simps] def CommentRow.outline (row : CommentRow) : CommentRow where
  id := row.id
  contentId := []
  userId := none
  anonymousId := none
  authorName := none
  body := []
  createdAt := 0

@[simps] def Database.outline (database : Database) : Database where
  users := database.users.map UserRow.outline
  confirmationTokens := database.confirmationTokens.map ConfirmationTokenRow.outline
  authSessions := database.authSessions.map AuthSessionRow.outline
  favoriteSections := database.favoriteSections.map FavoriteRow.outline
  favoriteTags := database.favoriteTags.map FavoriteRow.outline
  activityEvents := database.activityEvents.map ActivityEventRow.outline
  contentLikes := database.contentLikes.map ContentLikeRow.outline
  comments := database.comments.map CommentRow.outline

/-- The outcome of a statement, with the database in outline. -/
def outlined (outcome : Except SqlError (PgResult × Database)) :
    Except SqlError (PgResult × Database) :=
  outcome.map fun committed => (committed.1, committed.2.outline)

section Rows

@[simp] theorem undated_undated (time : Option Time) : undated (undated time) = undated time := by
  cases time <;> rfl

@[simp] theorem isSome_undated (time : Option Time) : (undated time).isSome = time.isSome := by
  cases time <;> rfl

@[simp] theorem isNone_undated (time : Option Time) : (undated time).isNone = time.isNone := by
  cases time <;> rfl

@[simp] theorem UserRow.outline_outline (row : UserRow) : row.outline.outline = row.outline := by
  simp [outline]

@[simp] theorem ConfirmationTokenRow.outline_outline (row : ConfirmationTokenRow) :
    row.outline.outline = row.outline := by
  simp [outline]

@[simp] theorem AuthSessionRow.outline_outline (row : AuthSessionRow) :
    row.outline.outline = row.outline := by
  simp [outline]

@[simp] theorem FavoriteRow.outline_outline (row : FavoriteRow) :
    row.outline.outline = row.outline := rfl

@[simp] theorem ActivityEventRow.outline_outline (row : ActivityEventRow) :
    row.outline.outline = row.outline := rfl

@[simp] theorem ContentLikeRow.outline_outline (row : ContentLikeRow) :
    row.outline.outline = row.outline := rfl

@[simp] theorem CommentRow.outline_outline (row : CommentRow) :
    row.outline.outline = row.outline := rfl

@[simp] theorem Database.outline_outline (database : Database) :
    database.outline.outline = database.outline := by
  simp [outline]

@[simp] theorem Database.favorites_outline (database : Database) (kind : PortalFavoriteKind) :
    database.outline.favorites kind = (database.favorites kind).map FavoriteRow.outline := by
  cases kind <;> rfl

@[simp] theorem Database.outline_setFavorites (database : Database) (kind : PortalFavoriteKind)
    (rows : List FavoriteRow) :
    (database.setFavorites kind rows).outline =
      database.outline.setFavorites kind (rows.map FavoriteRow.outline) := by
  cases kind <;> rfl

end Rows

section Outlined

variable {α : Type} {database : Database}

theorem outlined_bind (source : Except SqlError α)
    (next : α → Except SqlError (PgResult × Database)) :
    outlined (source >>= next) = source >>= fun value => outlined (next value) := by
  cases source <;> rfl

theorem outlined_ite (condition : Prop) [Decidable condition]
    (accepted refused : Except SqlError (PgResult × Database)) :
    outlined (if condition then accepted else refused) =
      if condition then outlined accepted else outlined refused := by
  split <;> rfl

theorem outlined_ok (result : PgResult) : outlined (.ok (result, database)) =
    .ok (result, database.outline) := rfl

end Outlined

section Execute

variable {postgres : Postgres} {transaction : Transaction} {database : Database}

theorem liveSessions_outline (token : Uuid) :
    liveSessions transaction database.outline token =
      (liveSessions transaction database token).map fun row => (row.1.outline, row.2.outline) := by
  simp [liveSessions, List.flatMap_map, List.map_flatMap, List.filter_map, Function.comp_def]

theorem hasUser_outline (id : Uuid) : database.outline.hasUser id = database.hasUser id := by
  simp [Database.hasUser, Function.comp_def]

theorem executeAuthenticate_outline (token : Bytes) :
    outlined (executeAuthenticate postgres transaction database.outline token) =
      outlined (executeAuthenticate postgres transaction database token) := by
  simp [executeAuthenticate, outlined_bind, outlined_ok, liveSessions_outline, Function.comp_def]

theorem executeRegister_outline (email password displayName ttl : Bytes) :
    outlined (executeRegister postgres transaction database.outline email password displayName ttl) =
      outlined (executeRegister postgres transaction database email password displayName ttl) := by
  simp [executeRegister, outlined_bind, outlined_ok, Database.outline, Function.comp_def]

theorem ownsOneOf_outline (rows : List ConfirmationTokenRow) (now : Time) (token : Uuid) :
    ownsOneOf ((rows.map ConfirmationTokenRow.outline).filter (consumable now token)) =
      ownsOneOf (rows.filter (consumable now token)) := by
  funext user
  simp [ownsOneOf, consumable, List.filter_map, Function.comp_def]

theorem consumed_outline (rows : List ConfirmationTokenRow) (token : Uuid) :
    (Table.update (consumable transaction.now token) (consume transaction)
        (rows.map ConfirmationTokenRow.outline)).map ConfirmationTokenRow.outline =
      (Table.update (consumable transaction.now token) (consume transaction) rows).map
        ConfirmationTokenRow.outline :=
  Table.map_update_map ConfirmationTokenRow.outline_outline (fun row => by simp [consumable])
    fun _ => rfl

theorem confirmed_outline (owned : List ConfirmationTokenRow) (users : List UserRow) :
    (Table.update (ownsOneOf owned) (confirmUser transaction) (users.map UserRow.outline)).map
        UserRow.outline =
      (Table.update (ownsOneOf owned) (confirmUser transaction) users).map UserRow.outline :=
  Table.map_update_map UserRow.outline_outline (fun _ => rfl) fun _ => rfl

theorem revoked_outline (sessions : List AuthSessionRow) (token : Uuid) :
    (Table.update (revocable token) (revoke transaction) (sessions.map AuthSessionRow.outline)).map
        AuthSessionRow.outline =
      (Table.update (revocable token) (revoke transaction) sessions).map AuthSessionRow.outline :=
  Table.map_update_map AuthSessionRow.outline_outline (fun row => by simp [revocable]) fun _ => rfl

theorem executeConfirm_outline (token : Bytes) :
    outlined (executeConfirm postgres transaction database.outline token) =
      outlined (executeConfirm postgres transaction database token) := by
  have owners : ∀ owned : List ConfirmationTokenRow, ownsOneOf owned ∘ UserRow.outline =
      ownsOneOf owned := fun _ => rfl
  simp only [executeConfirm, outlined_bind, outlined_ok, Database.outline_confirmationTokens,
    ownsOneOf_outline, Database.outline_users]
  simp only [List.filter_map, owners]
  simp [Database.outline, consumed_outline, confirmed_outline, Function.comp_def]

theorem openedSessions_outline (hours : Int) (email password : Bytes) (users : List UserRow) :
    ((users.map UserRow.outline).filter (candidate postgres email password)).mapIdx
        (openedSession transaction hours) =
      (users.filter (candidate postgres email password)).mapIdx (openedSession transaction hours) := by
  have same : candidate postgres email password ∘ UserRow.outline =
      candidate postgres email password := by
    funext user
    simp [candidate]
  rw [List.filter_map, same]
  refine List.ext_getElem (by simp) fun index _ _ => ?_
  simp [openedSession]

theorem executeLogin_outline (email password ttl : Bytes) :
    outlined (executeLogin postgres transaction database.outline email password ttl) =
      outlined (executeLogin postgres transaction database email password ttl) := by
  simp only [executeLogin, outlined_bind, outlined_ok, Database.outline_users,
    openedSessions_outline]
  simp [Database.outline, Function.comp_def]

theorem executeLogout_outline (token : Bytes) :
    outlined (executeLogout postgres transaction database.outline token) =
      outlined (executeLogout postgres transaction database token) := by
  simp [executeLogout, outlined_bind, outlined_ok, Database.outline, revoked_outline,
    Function.comp_def]

theorem executeFavoriteList_outline (kind : PortalFavoriteKind) (userId : Bytes) :
    outlined (executeFavoriteList postgres database.outline kind userId) =
      outlined (executeFavoriteList postgres database kind userId) := by
  simp [executeFavoriteList, outlined_bind, outlined_ok, List.filter_map, Function.comp_def]

theorem executeFavoriteInsert_outline (kind : PortalFavoriteKind) (userId key : Bytes) :
    outlined (executeFavoriteInsert postgres transaction database.outline kind userId key) =
      outlined (executeFavoriteInsert postgres transaction database kind userId key) := by
  simp [executeFavoriteInsert, outlined_bind, outlined_ite, outlined_ok, hasUser_outline,
    Function.comp_def]

theorem executeFavoriteDelete_outline (kind : PortalFavoriteKind) (userId key : Bytes) :
    outlined (executeFavoriteDelete postgres database.outline kind userId key) =
      outlined (executeFavoriteDelete postgres database kind userId key) := by
  simp [executeFavoriteDelete, outlined_bind, outlined_ok, List.filter_map, Function.comp_def]

theorem hasOwner_outline (userId : Option Uuid) :
    database.outline.hasOwner userId = database.hasOwner userId := by
  cases userId with
  | none => rfl
  | some id => exact hasUser_outline id

theorem executeActivityInsert_outline
    (userId anonymousId portalKey eventType contentId componentId pageUrl eventData : Bytes) :
    outlined (executeActivityInsert postgres transaction database.outline userId anonymousId
        portalKey eventType contentId componentId pageUrl eventData) =
      outlined (executeActivityInsert postgres transaction database userId anonymousId portalKey
        eventType contentId componentId pageUrl eventData) := by
  simp only [executeActivityInsert, outlined_bind, outlined_ok, hasOwner_outline]
  simp [recordedEvent, Database.outline, Function.comp_def]

theorem executeLikeInsert_outline (contentId userId anonymousId actorKey portalKey : Bytes) :
    outlined (executeLikeInsert postgres transaction database.outline contentId userId anonymousId
        actorKey portalKey) =
      outlined (executeLikeInsert postgres transaction database contentId userId anonymousId
        actorKey portalKey) := by
  simp only [executeLikeInsert, outlined_bind, outlined_ite, outlined_ok, hasOwner_outline]
  simp [addedLike, derivedEvent, recordedEvent, Database.outline, Function.comp_def]

theorem executeLikeDelete_outline (contentId actorKey : Bytes) :
    outlined (executeLikeDelete database.outline contentId actorKey) =
      outlined (executeLikeDelete database contentId actorKey) := by
  simp [executeLikeDelete, outlined_ok, Database.outline, List.filter_map, Function.comp_def]

theorem executeCommentInsert_outline
    (contentId userId anonymousId authorName body portalKey : Bytes) :
    outlined (executeCommentInsert postgres transaction database.outline contentId userId
        anonymousId authorName body portalKey) =
      outlined (executeCommentInsert postgres transaction database contentId userId anonymousId
        authorName body portalKey) := by
  simp only [executeCommentInsert, outlined_bind, outlined_ok, hasOwner_outline]
  simp [addedComment, derivedEvent, recordedEvent, Database.outline, Function.comp_def]

theorem executeTopContent_outline (portalKey days limit : Bytes) :
    outlined (executeTopContent postgres transaction database.outline portalKey days limit) =
      outlined (executeTopContent postgres transaction database portalKey days limit) := by
  have contents (days : Int) : (database.outline.activityEvents.filter
      (countedView transaction.now portalKey days)).filterMap (·.contentId) =
        (database.activityEvents.filter
          (countedView transaction.now portalKey days)).filterMap (·.contentId) := by
    have same : countedView transaction.now portalKey days ∘ ActivityEventRow.outline =
        countedView transaction.now portalKey days := rfl
    rw [Database.outline_activityEvents, List.filter_map, same, List.filterMap_map]
    rfl
  simp only [executeTopContent, outlined_bind, outlined_ok, contents, Database.outline_outline]

/-- No statement reads what is not in the outline. -/
theorem execute_outline (statement : Statement) :
    outlined (execute postgres transaction statement database.outline) =
      outlined (execute postgres transaction statement database) := by
  simp only [execute, outlined_bind]
  congr 1
  funext _
  cases statement with
  | authenticate token => exact executeAuthenticate_outline token
  | register email password displayName ttl =>
      exact executeRegister_outline email password displayName ttl
  | confirm token => exact executeConfirm_outline token
  | login email password ttl => exact executeLogin_outline email password ttl
  | logout token => exact executeLogout_outline token
  | favoriteList kind userId => exact executeFavoriteList_outline kind userId
  | favoriteInsert kind userId key => exact executeFavoriteInsert_outline kind userId key
  | favoriteDelete kind userId key => exact executeFavoriteDelete_outline kind userId key
  | activityInsert userId anonymousId portalKey eventType contentId componentId pageUrl eventData =>
      exact executeActivityInsert_outline userId anonymousId portalKey eventType contentId
        componentId pageUrl eventData
  | likeInsert contentId userId anonymousId actorKey portalKey =>
      exact executeLikeInsert_outline contentId userId anonymousId actorKey portalKey
  | likeDelete contentId actorKey => exact executeLikeDelete_outline contentId actorKey
  | commentInsert contentId userId anonymousId authorName body portalKey =>
      exact executeCommentInsert_outline contentId userId anonymousId authorName body portalKey
  | topContent portalKey days limit => exact executeTopContent_outline portalKey days limit

end Execute

/-- A text that fits a column whose CHECK counts its characters. -/
structure Storable (minimum maximum : Nat) (text : Bytes) : Prop where
  encoded : validUtf8 text = true
  atLeast : minimum ≤ charLength text
  atMost : charLength text ≤ maximum

/-- Two statements that store the same but for texts that are never read. -/
inductive Statement.Reworded (postgres : Postgres) : Statement → Statement → Prop where
  | same (statement : Statement) : Reworded postgres statement statement
  | register {email password displayName other ttl : Bytes} : Storable 1 100 displayName →
      Storable 1 100 other →
      Reworded postgres (.register email password displayName ttl)
        (.register email password other ttl)
  | activityInsert {userId anonymousId portalKey eventType contentId componentId pageUrl eventData
        otherComponent otherUrl otherData : Bytes} :
      (∀ text ∈ [componentId, pageUrl, eventData, otherComponent, otherUrl, otherData],
        validUtf8 text = true) →
      (postgres.jsonbIn eventData).isSome = true → (postgres.jsonbIn otherData).isSome = true →
      Reworded postgres
        (.activityInsert userId anonymousId portalKey eventType contentId componentId pageUrl
          eventData)
        (.activityInsert userId anonymousId portalKey eventType contentId otherComponent otherUrl
          otherData)
  | commentInsert {contentId userId anonymousId authorName body portalKey otherName otherBody :
        Bytes} : validUtf8 authorName = true → validUtf8 otherName = true → Storable 1 5000 body →
      Storable 1 5000 otherBody →
      Reworded postgres (.commentInsert contentId userId anonymousId authorName body portalKey)
        (.commentInsert contentId userId anonymousId otherName otherBody portalKey)

section Reworded

variable {postgres : Postgres} {transaction : Transaction} {database other : Database}
  {statement reworded : Statement}

theorem Statement.Reworded.encoded (alike : statement.Reworded postgres reworded) :
    reworded.parameters.all validUtf8 = statement.parameters.all validUtf8 := by
  cases alike with
  | same _ => rfl
  | register first second => simp [parameters, first.encoded, second.encoded]
  | activityInsert encoded _ _ =>
      simp only [List.forall_mem_cons] at encoded
      simp [parameters, encoded]
  | commentInsert named renamed first second =>
      simp [parameters, named, renamed, first.encoded, second.encoded]

/-- Reworded statements store what has the same outline. -/
theorem executeConverted_reworded (alike : statement.Reworded postgres reworded) :
    outlined (executeConverted postgres transaction reworded database) =
      outlined (executeConverted postgres transaction statement database) := by
  cases alike with
  | same _ => rfl
  | @register email password displayName other ttl first second =>
      have checked : (registeredUser postgres transaction email password other).check
          postgres.lower = (registeredUser postgres transaction email password displayName).check
            postgres.lower := by
        simp only [registeredUser, UserRow.check, first.atLeast, second.atLeast, first.atMost,
          second.atMost]
        rfl
      simp only [executeConverted, executeRegister, outlined_bind, outlined_ok, checked,
        Database.outline, List.map_append, List.map_cons, List.map_nil]
      rfl
  | activityInsert _ first second =>
      obtain ⟨stored, read⟩ := Option.isSome_iff_exists.mp first
      obtain ⟨kept, again⟩ := Option.isSome_iff_exists.mp second
      simp only [executeConverted, executeActivityInsert, outlined_bind, outlined_ok, castJsonb,
        read, again, Database.outline, List.map_append, List.map_cons, List.map_nil]
      rfl
  | @commentInsert contentId userId anonymousId authorName body portalKey otherName otherBody _ _
      first second =>
      have checked (id : Option Uuid) : (addedComment transaction contentId id
          (nullIf anonymousId) (nullIf otherName) otherBody).check =
            (addedComment transaction contentId id (nullIf anonymousId) (nullIf authorName)
              body).check := by
        simp [addedComment, CommentRow.check, first.atLeast, second.atLeast, first.atMost,
          second.atMost]
      simp only [executeConverted, executeCommentInsert, outlined_bind, outlined_ok, checked,
        Database.outline, List.map_append, List.map_cons, List.map_nil]
      rfl

theorem execute_reworded (alike : statement.Reworded postgres reworded)
    (same : other.outline = database.outline) :
    outlined (execute postgres transaction reworded other) =
      outlined (execute postgres transaction statement database) := by
  calc outlined (execute postgres transaction reworded other)
      = outlined (execute postgres transaction reworded other.outline) := (execute_outline _).symm
    _ = outlined (execute postgres transaction reworded database) := by
        rw [same, execute_outline]
    _ = outlined (execute postgres transaction statement database) := by
        simp only [execute, outlined_bind, alike.encoded, executeConverted_reworded alike]

end Reworded

end PortalApi
