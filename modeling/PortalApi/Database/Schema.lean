import PortalApi.Library.Table
import PortalApi.Text

/-! The tables of `db/init.sql`: their rows, and the declared constraints as
one invariant of the whole database. -/

set_option autoImplicit false

namespace PortalApi

abbrev Uuid := BitVec 128

/-- `timestamptz`, in microseconds. -/
abbrev Time := Int

def hour : Time := 3600000000

/-- What `1 day` is in a session with the time zone UTC. In others a day on which the
clocks change has 23 or 25 hours. -/
def day : Time := 24 * hour

structure UserRow where
  id : Uuid
  email : Bytes
  displayName : Bytes
  passwordHash : Bytes
  confirmedAt : Option Time
  createdAt : Time
  updatedAt : Time
  deriving DecidableEq

structure ConfirmationTokenRow where
  token : Uuid
  userId : Uuid
  expiresAt : Time
  consumedAt : Option Time
  createdAt : Time
  deriving DecidableEq

structure AuthSessionRow where
  token : Uuid
  userId : Uuid
  expiresAt : Time
  revokedAt : Option Time
  createdAt : Time
  lastSeenAt : Time
  deriving DecidableEq

/-- A row of `favorite_sections` or `favorite_tags`. -/
structure FavoriteRow where
  userId : Uuid
  key : Bytes
  createdAt : Time
  deriving DecidableEq

structure ActivityEventRow where
  id : Nat
  userId : Option Uuid
  anonymousId : Option Bytes
  portalKey : Bytes
  eventType : Bytes
  contentId : Option Bytes
  componentId : Option Bytes
  pageUrl : Option Bytes
  eventData : Bytes
  occurredAt : Time
  receivedAt : Time
  deriving DecidableEq, Inhabited

structure ContentLikeRow where
  id : Nat
  contentId : Bytes
  userId : Option Uuid
  anonymousId : Option Bytes
  actorKey : Bytes
  createdAt : Time
  deriving DecidableEq

structure CommentRow where
  id : Uuid
  contentId : Bytes
  userId : Option Uuid
  anonymousId : Option Bytes
  authorName : Option Bytes
  body : Bytes
  createdAt : Time
  deriving DecidableEq

structure Database where
  users : List UserRow
  confirmationTokens : List ConfirmationTokenRow
  authSessions : List AuthSessionRow
  favoriteSections : List FavoriteRow
  favoriteTags : List FavoriteRow
  activityEvents : List ActivityEventRow
  contentLikes : List ContentLikeRow
  comments : List CommentRow
  deriving DecidableEq

/-- The state `db/init.sql` leaves. -/
def Database.empty : Database where
  users := []
  confirmationTokens := []
  authSessions := []
  favoriteSections := []
  favoriteTags := []
  activityEvents := []
  contentLikes := []
  comments := []

inductive PortalFavoriteKind where
  | favoriteSection
  | favoriteTag
  deriving DecidableEq

def Database.favorites (database : Database) : PortalFavoriteKind → List FavoriteRow
  | .favoriteSection => database.favoriteSections
  | .favoriteTag => database.favoriteTags

def Database.setFavorites (database : Database) (kind : PortalFavoriteKind)
    (rows : List FavoriteRow) : Database :=
  match kind with
  | .favoriteSection => { database with favoriteSections := rows }
  | .favoriteTag => { database with favoriteTags := rows }

def Database.hasUser (database : Database) (id : Uuid) : Bool :=
  database.users.any fun user => user.id = id

def eventTypes : List Bytes :=
  [bytes "page_view", bytes "content_view", bytes "component_click", bytes "like",
    bytes "comment"]

/-! The CHECK constraints, one predicate for each table that has some. -/

def UserRow.check (lower : Bytes → Bytes) (row : UserRow) : Bool :=
  row.email = lower row.email && 1 ≤ charLength row.displayName &&
    charLength row.displayName ≤ 100

def FavoriteRow.check (row : FavoriteRow) : Bool :=
  1 ≤ charLength row.key && charLength row.key ≤ 160

def ActivityEventRow.check (row : ActivityEventRow) : Bool :=
  (row.userId.isSome || row.anonymousId.isSome) &&
    1 ≤ charLength row.portalKey && charLength row.portalKey ≤ 120 &&
    eventTypes.contains row.eventType &&
    row.anonymousId.all fun id => 8 ≤ charLength id && charLength id ≤ 200

def ContentLikeRow.check (row : ContentLikeRow) : Bool :=
  row.userId.isSome || row.anonymousId.isSome

def CommentRow.check (row : CommentRow) : Bool :=
  (row.userId.isSome || row.anonymousId.isSome) &&
    1 ≤ charLength row.body && charLength row.body ≤ 5000

/-- A nullable reference to `users`. -/
def Database.References (database : Database) (userId : Option Uuid) : Prop :=
  ∀ id, userId = some id → ∃ user ∈ database.users, user.id = id

/-- The PRIMARY KEY, UNIQUE, REFERENCES and CHECK constraints of the schema. -/
structure Database.Valid (lower : Bytes → Bytes) (database : Database) : Prop where
  userIds : (database.users.map (·.id)).Nodup
  userEmails : (database.users.map (·.email)).Nodup
  userChecks : ∀ row ∈ database.users, row.check lower = true
  tokenKeys : (database.confirmationTokens.map (·.token)).Nodup
  tokenOwners : ∀ row ∈ database.confirmationTokens, ∃ user ∈ database.users, user.id = row.userId
  sessionKeys : (database.authSessions.map (·.token)).Nodup
  sessionOwners : ∀ row ∈ database.authSessions, ∃ user ∈ database.users, user.id = row.userId
  favoriteKeys : ∀ kind, ((database.favorites kind).map fun row => (row.userId, row.key)).Nodup
  favoriteOwners : ∀ kind, ∀ row ∈ database.favorites kind,
    ∃ user ∈ database.users, user.id = row.userId
  favoriteChecks : ∀ kind, ∀ row ∈ database.favorites kind, row.check = true
  eventIds : (database.activityEvents.map (·.id)).Nodup
  eventOwners : ∀ row ∈ database.activityEvents, database.References row.userId
  eventChecks : ∀ row ∈ database.activityEvents, row.check = true
  likeIds : (database.contentLikes.map (·.id)).Nodup
  likeActors : (database.contentLikes.map fun row => (row.contentId, row.actorKey)).Nodup
  likeOwners : ∀ row ∈ database.contentLikes, database.References row.userId
  likeChecks : ∀ row ∈ database.contentLikes, row.check = true
  commentIds : (database.comments.map (·.id)).Nodup
  commentOwners : ∀ row ∈ database.comments, database.References row.userId
  commentChecks : ∀ row ∈ database.comments, row.check = true

theorem Database.empty_valid (lower : Bytes → Bytes) : Database.empty.Valid lower := by
  constructor
  case favoriteKeys => intro kind; cases kind <;> simp [Database.empty, Database.favorites]
  case favoriteOwners => intro kind; cases kind <;> simp [Database.empty, Database.favorites]
  case favoriteChecks => intro kind; cases kind <;> simp [Database.empty, Database.favorites]
  all_goals simp [Database.empty]

@[simp] theorem Database.favorites_setFavorites (database : Database) (kind : PortalFavoriteKind)
    (rows : List FavoriteRow) : (database.setFavorites kind rows).favorites kind = rows := by
  cases kind <;> rfl

theorem Database.favorites_setFavorites_ne (database : Database) {kind other : PortalFavoriteKind}
    (rows : List FavoriteRow) (different : other ≠ kind) :
    (database.setFavorites kind rows).favorites other = database.favorites other := by
  cases kind <;> cases other <;> first | rfl | exact absurd rfl different

theorem Database.setFavorites_favorites (database : Database) (kind : PortalFavoriteKind) :
    database.setFavorites kind (database.favorites kind) = database := by
  cases kind <;> rfl

section SetFavorites

variable (database : Database) (kind : PortalFavoriteKind) (rows : List FavoriteRow)

@[simp] theorem Database.users_setFavorites :
    (database.setFavorites kind rows).users = database.users := by
  cases kind <;> rfl

@[simp] theorem Database.confirmationTokens_setFavorites :
    (database.setFavorites kind rows).confirmationTokens = database.confirmationTokens := by
  cases kind <;> rfl

@[simp] theorem Database.authSessions_setFavorites :
    (database.setFavorites kind rows).authSessions = database.authSessions := by
  cases kind <;> rfl

@[simp] theorem Database.activityEvents_setFavorites :
    (database.setFavorites kind rows).activityEvents = database.activityEvents := by
  cases kind <;> rfl

@[simp] theorem Database.contentLikes_setFavorites :
    (database.setFavorites kind rows).contentLikes = database.contentLikes := by
  cases kind <;> rfl

@[simp] theorem Database.comments_setFavorites :
    (database.setFavorites kind rows).comments = database.comments := by
  cases kind <;> rfl

end SetFavorites

theorem Database.hasUser_iff {database : Database} {id : Uuid} :
    database.hasUser id = true ↔ ∃ user ∈ database.users, user.id = id := by
  simp [Database.hasUser]

end PortalApi
