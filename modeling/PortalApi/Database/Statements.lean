import PortalApi.Database.Schema
import PortalApi.Library.Ranking
import Mathlib.Data.List.Sort

/-! The SQL statements of the service and what PostgreSQL does for each: one
atomic transaction that either fails without effect or commits. -/

set_option autoImplicit false

namespace PortalApi

open Library

/-- The functions and input conversions of PostgreSQL that the statements call. -/
structure Postgres where
  uuidIn : Bytes → Option Uuid
  uuidOut : Uuid → Bytes
  int4In : Bytes → Option Int
  jsonbIn : Bytes → Option Bytes
  timestampOut : Time → Bytes
  lower : Bytes → Bytes
  crypt : Bytes → Bytes → Bytes
  textLe : Bytes → Bytes → Bool

/-- What the code relies on: UUIDs print as 36 ASCII characters that are read
back, and the decimal numerals of `int` are read as their value. -/
structure Postgres.Lawful (postgres : Postgres) : Prop where
  uuidIn_uuidOut : ∀ id, postgres.uuidIn (postgres.uuidOut id) = some id
  length_uuidOut : ∀ id, (postgres.uuidOut id).length = 36
  ascii_uuidOut : ∀ id, ∀ character ∈ postgres.uuidOut id, character < 128
  int4In_decimal : ∀ number : Nat, number < 2 ^ 31 → postgres.int4In (decimal number) = some (number : Int)

/-- Columns with `DEFAULT gen_random_uuid()`. -/
inductive UuidColumn where
  | usersId
  | confirmationTokensToken
  | authSessionsToken
  | commentsId
  deriving DecidableEq

/-- Columns `GENERATED ALWAYS AS IDENTITY`. -/
inductive IdentityColumn where
  | activityEventsId
  | contentLikesId
  deriving DecidableEq

def isBfCharacter (character : UInt8) : Bool :=
  character = 46 || character = 47 || isDigit character ||
    (65 ≤ character && character ≤ 90) || (97 ≤ character && character ≤ 122)

/-- A salt as `gen_salt('bf', 12)` draws it. -/
structure BfSalt where
  text : Bytes
  method : text.take 7 = bytes "$2a$12$"
  length : text.length = 29
  characters : (text.drop 7).all isBfCharacter = true

/-- What one transaction draws from outside the tables. -/
structure Transaction where
  now : Time
  genRandomUuid : UuidColumn → Nat → Uuid
  genSalt : BfSalt
  identityGap : IdentityColumn → Nat

inductive SqlError where
  | characterNotInRepertoire
  | invalidTextRepresentation
  | checkViolation
  | uniqueViolation
  | foreignKeyViolation
  deriving DecidableEq

def SqlError.sqlState : SqlError → Bytes
  | .characterNotInRepertoire => bytes "22021"
  | .invalidTextRepresentation => bytes "22P02"
  | .checkViolation => bytes "23514"
  | .uniqueViolation => bytes "23505"
  | .foreignKeyViolation => bytes "23503"

inductive ExecStatusType where
  | commandOk
  | tuplesOk
  | fatalError
  deriving DecidableEq

/-- A `PGresult`: its status, its rows in text format and its SQLSTATE field. -/
structure PgResult where
  status : ExecStatusType
  rows : List (List Bytes)
  sqlState : Option Bytes

def PgResult.command : PgResult := { status := .commandOk, rows := [], sqlState := none }

def PgResult.tuples (rows : List (List Bytes)) : PgResult :=
  { status := .tuplesOk, rows, sqlState := none }

def PgResult.failure (sqlState : Bytes) : PgResult :=
  { status := .fatalError, rows := [], sqlState := some sqlState }

/-- The statements, each with its text parameters in their order `$1`, `$2`, ... -/
inductive Statement where
  | authenticate (token : Bytes)
  | register (email password displayName ttl : Bytes)
  | confirm (token : Bytes)
  | login (email password ttl : Bytes)
  | logout (token : Bytes)
  | favoriteList (kind : PortalFavoriteKind) (userId : Bytes)
  | favoriteInsert (kind : PortalFavoriteKind) (userId key : Bytes)
  | favoriteDelete (kind : PortalFavoriteKind) (userId key : Bytes)
  | activityInsert (userId anonymousId portalKey eventType contentId componentId pageUrl eventData : Bytes)
  | likeInsert (contentId userId anonymousId actorKey portalKey : Bytes)
  | likeDelete (contentId actorKey : Bytes)
  | commentInsert (contentId userId anonymousId authorName body portalKey : Bytes)
  | topContent (portalKey days limit : Bytes)

def Statement.parameters : Statement → List Bytes
  | .authenticate token => [token]
  | .register email password displayName ttl => [email, password, displayName, ttl]
  | .confirm token => [token]
  | .login email password ttl => [email, password, ttl]
  | .logout token => [token]
  | .favoriteList _ userId => [userId]
  | .favoriteInsert _ userId key => [userId, key]
  | .favoriteDelete _ userId key => [userId, key]
  | .activityInsert userId anonymousId portalKey eventType contentId componentId pageUrl eventData =>
    [userId, anonymousId, portalKey, eventType, contentId, componentId, pageUrl, eventData]
  | .likeInsert contentId userId anonymousId actorKey portalKey =>
    [contentId, userId, anonymousId, actorKey, portalKey]
  | .likeDelete contentId actorKey => [contentId, actorKey]
  | .commentInsert contentId userId anonymousId authorName body portalKey =>
    [contentId, userId, anonymousId, authorName, body, portalKey]
  | .topContent portalKey days limit => [portalKey, days, limit]

def castUuid (postgres : Postgres) (text : Bytes) : Except SqlError Uuid :=
  match postgres.uuidIn text with
  | some id => .ok id
  | none => .error .invalidTextRepresentation

def castInt4 (postgres : Postgres) (text : Bytes) : Except SqlError Int :=
  match postgres.int4In text with
  | some number => .ok number
  | none => .error .invalidTextRepresentation

def castJsonb (postgres : Postgres) (text : Bytes) : Except SqlError Bytes :=
  match postgres.jsonbIn text with
  | some value => .ok value
  | none => .error .invalidTextRepresentation

/-- `NULLIF(text, '')`. -/
def nullIf (text : Bytes) : Option Bytes := if text = [] then none else some text

/-- `NULLIF(text, '')::uuid`. -/
def nullIfUuid (postgres : Postgres) (text : Bytes) : Except SqlError (Option Uuid) :=
  match nullIf text with
  | none => .ok none
  | some text =>
    match castUuid postgres text with
    | .ok id => .ok (some id)
    | .error failure => .error failure

def ensure (condition : Bool) (failure : SqlError) : Except SqlError Unit :=
  if condition then .ok () else .error failure

def Database.hasOwner (database : Database) (userId : Option Uuid) : Bool :=
  userId.all database.hasUser

section Execute

variable (postgres : Postgres) (transaction : Transaction)

/-- The join of the authentication lookup, session by session. -/
def liveSessions (database : Database) (token : Uuid) : List (AuthSessionRow × UserRow) :=
  database.authSessions.flatMap fun session =>
    (database.users.filter fun user =>
      user.id = session.userId && session.token = token && session.revokedAt.isNone &&
        session.expiresAt > transaction.now && user.confirmedAt.isSome).map fun user =>
      (session, user)

def executeAuthenticate (database : Database) (token : Bytes) :
    Except SqlError (PgResult × Database) := do
  let token ← castUuid postgres token
  let rows := (liveSessions transaction database token).map fun row =>
    [postgres.uuidOut row.2.id, row.2.email]
  .ok (.tuples rows, database)

def registeredUser (email password displayName : Bytes) : UserRow where
  id := transaction.genRandomUuid .usersId 0
  email := email
  displayName := displayName
  passwordHash := postgres.crypt password transaction.genSalt.text
  confirmedAt := none
  createdAt := transaction.now
  updatedAt := transaction.now

def issuedToken (userId : Uuid) (hours : Int) : ConfirmationTokenRow where
  token := transaction.genRandomUuid .confirmationTokensToken 0
  userId := userId
  expiresAt := transaction.now + hours * hour
  consumedAt := none
  createdAt := transaction.now

def executeRegister (database : Database) (email password displayName ttl : Bytes) :
    Except SqlError (PgResult × Database) := do
  let hours ← castInt4 postgres ttl
  let user := registeredUser postgres transaction email password displayName
  ensure (user.check postgres.lower) .checkViolation
  ensure (database.users.all fun row => row.id != user.id && row.email != user.email) .uniqueViolation
  let token := issuedToken transaction user.id hours
  ensure (database.confirmationTokens.all fun row => row.token != token.token) .uniqueViolation
  .ok (.tuples [[postgres.uuidOut token.token, postgres.timestampOut token.expiresAt]],
    { database with
      users := database.users ++ [user]
      confirmationTokens := database.confirmationTokens ++ [token] })

/-- The rows the `consumed` part of the confirmation updates. -/
def consumable (now : Time) (token : Uuid) (row : ConfirmationTokenRow) : Bool :=
  row.token = token && row.consumedAt.isNone && row.expiresAt > now

/-- The rows the outer part of the confirmation updates. -/
def ownsOneOf (consumed : List ConfirmationTokenRow) (user : UserRow) : Bool :=
  consumed.any fun row => row.userId = user.id

def consume (row : ConfirmationTokenRow) : ConfirmationTokenRow :=
  { row with consumedAt := some transaction.now }

def confirmUser (user : UserRow) : UserRow :=
  { user with
    confirmedAt := some (user.confirmedAt.getD transaction.now)
    updatedAt := transaction.now }

def executeConfirm (database : Database) (token : Bytes) :
    Except SqlError (PgResult × Database) := do
  let token ← castUuid postgres token
  let consumed := database.confirmationTokens.filter (consumable transaction.now token)
  let rows := (database.users.filter (ownsOneOf consumed)).map fun user => [postgres.uuidOut user.id]
  .ok (.tuples rows,
    { database with
      confirmationTokens := Table.update (consumable transaction.now token) (consume transaction)
        database.confirmationTokens
      users := Table.update (ownsOneOf consumed) (confirmUser transaction) database.users })

/-- The `candidate` part of the login. -/
def candidate (email password : Bytes) (user : UserRow) : Bool :=
  user.email = email && user.confirmedAt.isSome &&
    user.passwordHash = postgres.crypt password user.passwordHash

def openedSession (hours : Int) (index : Nat) (user : UserRow) : AuthSessionRow where
  token := transaction.genRandomUuid .authSessionsToken index
  userId := user.id
  expiresAt := transaction.now + hours * hour
  revokedAt := none
  createdAt := transaction.now
  lastSeenAt := transaction.now

def executeLogin (database : Database) (email password ttl : Bytes) :
    Except SqlError (PgResult × Database) := do
  let hours ← castInt4 postgres ttl
  let sessions := (database.users.filter (candidate postgres email password)).mapIdx
    (openedSession transaction hours)
  ensure ((database.authSessions ++ sessions).map (·.token)).Nodup .uniqueViolation
  let rows := sessions.map fun session =>
    [postgres.uuidOut session.token, postgres.timestampOut session.expiresAt]
  .ok (.tuples rows, { database with authSessions := database.authSessions ++ sessions })

/-- The rows the logout updates. -/
def revocable (token : Uuid) (session : AuthSessionRow) : Bool :=
  session.token = token && session.revokedAt.isNone

def revoke (session : AuthSessionRow) : AuthSessionRow :=
  { session with revokedAt := some transaction.now }

def executeLogout (database : Database) (token : Bytes) :
    Except SqlError (PgResult × Database) := do
  let token ← castUuid postgres token
  .ok (.command,
    { database with
      authSessions := Table.update (revocable token) (revoke transaction) database.authSessions })

def executeFavoriteList (database : Database) (kind : PortalFavoriteKind) (userId : Bytes) :
    Except SqlError (PgResult × Database) := do
  let userId ← castUuid postgres userId
  let keys := ((database.favorites kind).filter fun row => row.userId = userId).map (·.key)
  .ok (.tuples ((keys.insertionSort fun left right => postgres.textLe left right).map fun key => [key]),
    database)

def executeFavoriteInsert (database : Database) (kind : PortalFavoriteKind) (userId key : Bytes) :
    Except SqlError (PgResult × Database) := do
  let userId ← castUuid postgres userId
  let row : FavoriteRow := { userId, key, createdAt := transaction.now }
  ensure row.check .checkViolation
  if (database.favorites kind).any fun old => old.userId = userId && old.key = key then
    .ok (.command, database)
  else
    ensure (database.hasUser userId) .foreignKeyViolation
    .ok (.command, database.setFavorites kind (database.favorites kind ++ [row]))

def executeFavoriteDelete (database : Database) (kind : PortalFavoriteKind) (userId key : Bytes) :
    Except SqlError (PgResult × Database) := do
  let userId ← castUuid postgres userId
  .ok (.command, database.setFavorites kind
    ((database.favorites kind).filter fun row => !(row.userId = userId && row.key = key)))

def recordedEvent (database : Database) (userId : Option Uuid) (anonymousId : Option Bytes)
    (portalKey eventType : Bytes) (contentId componentId pageUrl : Option Bytes)
    (eventData : Bytes) : ActivityEventRow where
  id := Table.nextIdentity (database.activityEvents.map (·.id))
    (transaction.identityGap .activityEventsId)
  userId := userId
  anonymousId := anonymousId
  portalKey := portalKey
  eventType := eventType
  contentId := contentId
  componentId := componentId
  pageUrl := pageUrl
  eventData := eventData
  occurredAt := transaction.now
  receivedAt := transaction.now

def executeActivityInsert (database : Database)
    (userId anonymousId portalKey eventType contentId componentId pageUrl eventData : Bytes) :
    Except SqlError (PgResult × Database) := do
  let eventData ← castJsonb postgres eventData
  let userId ← nullIfUuid postgres userId
  let event := recordedEvent transaction database userId (nullIf anonymousId) portalKey eventType
    (nullIf contentId) (nullIf componentId) (nullIf pageUrl) eventData
  ensure event.check .checkViolation
  ensure (database.hasOwner userId) .foreignKeyViolation
  .ok (.tuples [[decimal event.id]],
    { database with activityEvents := database.activityEvents ++ [event] })

/-- The event that the like and comment statements add, with the column defaults. -/
def derivedEvent (database : Database) (userId : Option Uuid) (anonymousId : Option Bytes)
    (portalKey eventType contentId : Bytes) : ActivityEventRow :=
  recordedEvent transaction database userId anonymousId portalKey eventType (some contentId) none
    none (bytes "\x7b\x7d")

def addedLike (database : Database) (contentId : Bytes) (userId : Option Uuid)
    (anonymousId : Option Bytes) (actorKey : Bytes) : ContentLikeRow where
  id := Table.nextIdentity (database.contentLikes.map (·.id))
    (transaction.identityGap .contentLikesId)
  contentId := contentId
  userId := userId
  anonymousId := anonymousId
  actorKey := actorKey
  createdAt := transaction.now

def executeLikeInsert (database : Database) (contentId userId anonymousId actorKey portalKey : Bytes) :
    Except SqlError (PgResult × Database) := do
  let userId ← nullIfUuid postgres userId
  let like := addedLike transaction database contentId userId (nullIf anonymousId) actorKey
  ensure like.check .checkViolation
  if database.contentLikes.any fun old => old.contentId = contentId && old.actorKey = actorKey then
    .ok (.tuples [], database)
  else
    let event := derivedEvent transaction database userId (nullIf anonymousId) portalKey
      (bytes "like") contentId
    ensure event.check .checkViolation
    ensure (database.hasOwner userId) .foreignKeyViolation
    .ok (.tuples [[decimal event.id]],
      { database with
        contentLikes := database.contentLikes ++ [like]
        activityEvents := database.activityEvents ++ [event] })

def executeLikeDelete (database : Database) (contentId actorKey : Bytes) :
    Except SqlError (PgResult × Database) :=
  .ok (.command,
    { database with
      contentLikes := database.contentLikes.filter fun row =>
        !(row.contentId = contentId && row.actorKey = actorKey) })

def addedComment (contentId : Bytes) (userId : Option Uuid) (anonymousId authorName : Option Bytes)
    (body : Bytes) : CommentRow where
  id := transaction.genRandomUuid .commentsId 0
  contentId := contentId
  userId := userId
  anonymousId := anonymousId
  authorName := authorName
  body := body
  createdAt := transaction.now

def executeCommentInsert (database : Database)
    (contentId userId anonymousId authorName body portalKey : Bytes) :
    Except SqlError (PgResult × Database) := do
  let userId ← nullIfUuid postgres userId
  let comment := addedComment transaction contentId userId (nullIf anonymousId)
    (nullIf authorName) body
  ensure comment.check .checkViolation
  ensure (database.comments.all fun row => row.id != comment.id) .uniqueViolation
  let event := derivedEvent transaction database userId (nullIf anonymousId) portalKey
    (bytes "comment") contentId
  ensure event.check .checkViolation
  ensure (database.hasOwner userId) .foreignKeyViolation
  .ok (.tuples [[postgres.uuidOut comment.id, postgres.timestampOut comment.createdAt]],
    { database with
      comments := database.comments ++ [comment]
      activityEvents := database.activityEvents ++ [event] })

/-- The rows of the view log that the top-content query counts. -/
def countedView (now : Time) (portalKey : Bytes) (days : Int) (event : ActivityEventRow) : Bool :=
  event.portalKey = portalKey && event.contentId.isSome &&
    (event.eventType = bytes "content_view" || event.eventType = bytes "page_view") &&
    event.occurredAt ≥ now - days * day

def executeTopContent (database : Database) (portalKey days limit : Bytes) :
    Except SqlError (PgResult × Database) := do
  let days ← castInt4 postgres days
  let limit ← castInt4 postgres limit
  let contents := (database.activityEvents.filter
    (countedView transaction.now portalKey days)).filterMap (·.contentId)
  let groups := contents.dedup.map fun content => (content, contents.count content)
  -- `ORDER BY count(*) DESC, content_id ASC`
  let ranked := groups.insertionSort fun left right => Ranking.precedes postgres.textLe left right
  .ok (.tuples ((ranked.take limit.toNat).map fun group => [group.1, decimal group.2]), database)

def executeConverted (statement : Statement) (database : Database) :
    Except SqlError (PgResult × Database) :=
  match statement with
  | .authenticate token => executeAuthenticate postgres transaction database token
  | .register email password displayName ttl =>
    executeRegister postgres transaction database email password displayName ttl
  | .confirm token => executeConfirm postgres transaction database token
  | .login email password ttl => executeLogin postgres transaction database email password ttl
  | .logout token => executeLogout postgres transaction database token
  | .favoriteList kind userId => executeFavoriteList postgres database kind userId
  | .favoriteInsert kind userId key =>
    executeFavoriteInsert postgres transaction database kind userId key
  | .favoriteDelete kind userId key => executeFavoriteDelete postgres database kind userId key
  | .activityInsert userId anonymousId portalKey eventType contentId componentId pageUrl eventData =>
    executeActivityInsert postgres transaction database userId anonymousId portalKey eventType
      contentId componentId pageUrl eventData
  | .likeInsert contentId userId anonymousId actorKey portalKey =>
    executeLikeInsert postgres transaction database contentId userId anonymousId actorKey portalKey
  | .likeDelete contentId actorKey => executeLikeDelete database contentId actorKey
  | .commentInsert contentId userId anonymousId authorName body portalKey =>
    executeCommentInsert postgres transaction database contentId userId anonymousId authorName
      body portalKey
  | .topContent portalKey days limit =>
    executeTopContent postgres transaction database portalKey days limit

/-- Every text parameter is converted from the client encoding before the
statement runs. -/
def execute (statement : Statement) (database : Database) :
    Except SqlError (PgResult × Database) := do
  ensure (statement.parameters.all validUtf8) .characterNotInRepertoire
  executeConverted postgres transaction statement database

end Execute

end PortalApi
