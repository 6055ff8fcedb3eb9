import PortalApi.Library.Changes
import PortalApi.Actions
import PortalApi.Sessions
import PortalApi.StatementTotality

/-! The favorites of each user and kind are a set that the answered changes
add keys to and remove keys from. -/

set_option autoImplicit false

namespace PortalApi

open Library

/-- A favorite: its kind, its user and its key. -/
abbrev Favorite := PortalFavoriteKind × Uuid × Bytes

/-- The keys of a user's favorites, in no particular order. -/
def Database.favoriteKeys (database : Database) (kind : PortalFavoriteKind) (userId : Uuid) :
    List Bytes :=
  ((database.favorites kind).filter fun row => row.userId = userId).map (·.key)

def Database.favoriteSet (database : Database) : Set Favorite :=
  {favorite | favorite.2.2 ∈ database.favoriteKeys favorite.1 favorite.2.1}

/-- The favorite that the path names. -/
def Request.favorite (request : Request) : Option (PortalFavoriteKind × Bytes) :=
  if request.url.take 22 = bytes "/me/favorite-sections/" then
    some (.favoriteSection, request.url.drop 22)
  else if request.url.take 18 = bytes "/me/favorite-tags/" then
    some (.favoriteTag, request.url.drop 18)
  else none

/-- The user that a request which arrives in this world is authenticated as. -/
def Service.signedIn (service : Service) (call : Call) (world : World) : Option Uuid :=
  match service.authenticate call world with
  | (.authenticated, user) => service.postgres.uuidIn user.id
  | _ => none

/-- The change of a PUT or DELETE of a favorite that was answered 204. -/
def Service.favoriteChange (service : Service) (entry : Service.Entry) : Option (Change Favorite) :=
  match entry.input.request.favorite, service.signedIn entry.input entry.before with
  | some (kind, key), some userId =>
    if statusOf entry.output = some 204 then
      if entry.input.request.method = bytes "PUT" then some ⟨(kind, userId, key), true⟩
      else if entry.input.request.method = bytes "DELETE" then some ⟨(kind, userId, key), false⟩
      else none
    else none
  | _, _ => none

def favoriteMethod (adds : Bool) : Bytes := if adds then bytes "PUT" else bytes "DELETE"

/-- A request that left the favorites alone, and was not answered as one that
changes them. -/
structure Unfavoring (call : Call) (world : World) (reply : Option Response) (after : World) :
    Prop where
  favorites : ∀ kind, after.database.favorites kind = world.database.favorites kind
  answered : ∀ kind key, call.request.Changes →
    call.request.url = bytes (PortalFavoriteKind.path kind) ++ bytes "/" ++ key →
    statusOf reply ≠ some 204

inductive FavoriteEffect (service : Service) (call : Call) (world : World) :
    Option Response → World → Prop where
  | added {kind : PortalFavoriteKind} {user : UserRow} {key : Bytes} {reply : Option Response}
      {after : World} : ChangesFavorite service call world kind user key reply after →
      call.request.method = bytes "PUT" →
      (∀ row ∈ world.database.favorites kind, ¬ (row.userId = user.id ∧ row.key = key)) →
      after.database = world.database.setFavorites kind (world.database.favorites kind ++
        [{ userId := user.id, key, createdAt := after.clock }]) →
      FavoriteEffect service call world reply after
  | present {kind : PortalFavoriteKind} {user : UserRow} {key : Bytes} {reply : Option Response}
      {after : World} : ChangesFavorite service call world kind user key reply after →
      call.request.method = bytes "PUT" →
      (∃ row ∈ world.database.favorites kind, row.userId = user.id ∧ row.key = key) →
      after.database = world.database → FavoriteEffect service call world reply after
  | removed {kind : PortalFavoriteKind} {user : UserRow} {key : Bytes} {reply : Option Response}
      {after : World} : ChangesFavorite service call world kind user key reply after →
      call.request.method = bytes "DELETE" →
      after.database = world.database.removeFavorite kind user.id key →
      FavoriteEffect service call world reply after
  | unfavoring {reply : Option Response} {after : World} : Unfavoring call world reply after →
      FavoriteEffect service call world reply after

section Effects

variable {service : Service} {call : Call} {world after : World} {reply : Option Response}

theorem Request.Changes.not_reads {request : Request} (changes : request.Changes) :
    ¬ request.Reads := by
  have apart : ∀ first ∈ ["PUT", "DELETE"], ∀ second ∈ ["GET", "OPTIONS"],
      bytes first ≠ bytes second := by decide
  intro reads
  cases changes with
  | inl put =>
      cases reads with
      | inl get => exact apart "PUT" (by decide) "GET" (by decide) (put.symm.trans get)
      | inr options => exact apart "PUT" (by decide) "OPTIONS" (by decide) (put.symm.trans options)
  | inr delete =>
      cases reads with
      | inl get => exact apart "DELETE" (by decide) "GET" (by decide) (delete.symm.trans get)
      | inr options =>
          exact apart "DELETE" (by decide) "OPTIONS" (by decide) (delete.symm.trans options)

private theorem unfavoring_at {method url : String} (request : call.request.At method url)
    (outside : ∀ kind, ¬ bytes (PortalFavoriteKind.path kind) <+: bytes url)
    (favorites : ∀ kind, after.database.favorites kind = world.database.favorites kind) :
    Unfavoring call world reply after where
  favorites := favorites
  answered kind key _ named := by
    have same : bytes kind.path ++ (bytes "/" ++ key) = bytes url := by
      rw [← request.url, named, List.append_assoc]
    exact absurd ⟨_, same⟩ (outside kind)

private theorem unfavoring_content {contentId : Bytes} {action : String}
    (content : call.request.OnContent contentId action)
    (favorites : ∀ kind, after.database.favorites kind = world.database.favorites kind) :
    Unfavoring call world reply after where
  favorites := favorites
  answered _ _ _ named := (content.not_favorite named).elim

/-- Favorites change by the requests that are about them only. -/
theorem Effect.favoring (effect : Effect service call world reply after) :
    FavoriteEffect service call world reply after := by
  cases effect with
  | favoriteAdded change put absent database => exact .added change put absent database
  | favoritePresent change put stored same => exact .present change put stored same
  | favoriteRemoved change delete database => exact .removed change delete database
  | kept kept silent =>
      refine .unfavoring ⟨fun kind => by rw [kept.database], ?_⟩
      intro kind key changes _ sent
      cases reply with
      | none => cases sent
      | some response =>
          have same : response.status = 204 := by simpa [statusOf] using sent
          cases silent response rfl with
          | inl error => omega
          | inr reads => exact changes.not_reads reads
  | registered registered =>
      exact .unfavoring (unfavoring_at registered.request (by intro kind; cases kind <;> decide)
        fun kind => by rw [registered.database]; cases kind <;> rfl)
  | confirmed confirmed =>
      exact .unfavoring (unfavoring_at confirmed.request (by intro kind; cases kind <;> decide)
        fun kind => by rw [confirmed.database]; cases kind <;> rfl)
  | loggedIn loggedIn =>
      exact .unfavoring (unfavoring_at loggedIn.request (by intro kind; cases kind <;> decide)
        fun kind => by rw [loggedIn.database]; cases kind <;> rfl)
  | loggedOut loggedOut =>
      exact .unfavoring (unfavoring_at loggedOut.request (by intro kind; cases kind <;> decide)
        fun kind => by rw [loggedOut.database]; cases kind <;> rfl)
  | recorded recorded =>
      exact .unfavoring (unfavoring_at recorded.request (by intro kind; cases kind <;> decide)
        fun kind => by rw [recorded.database]; cases kind <;> rfl)
  | liked change _ _ _ _ database =>
      exact .unfavoring (unfavoring_content change.content
        fun kind => by rw [database]; cases kind <;> rfl)
  | likePresent change _ _ _ same =>
      exact .unfavoring (unfavoring_content change.content fun kind => by rw [same])
  | unliked change _ database =>
      exact .unfavoring (unfavoring_content change.content
        fun kind => by rw [database]; cases kind <;> rfl)
  | commented commented =>
      exact .unfavoring (unfavoring_content commented.content
        fun kind => by rw [commented.database]; cases kind <;> rfl)

end Effects

section Keys

variable {database : Database} {kind other : PortalFavoriteKind} {userId otherId : Uuid}
  {key : Bytes}

theorem mem_favoriteKeys : key ∈ database.favoriteKeys kind userId ↔
    ∃ row ∈ database.favorites kind, row.userId = userId ∧ row.key = key := by
  simp [Database.favoriteKeys, and_assoc]

theorem nodup_favoriteKeys {lower : Bytes → Bytes} (valid : database.Valid lower) :
    (database.favoriteKeys kind userId).Nodup := by
  have pairs : (((database.favorites kind).filter fun row => row.userId = userId).map
      fun row => (row.userId, row.key)).Nodup :=
    (valid.favoriteKeys kind).sublist (List.filter_sublist.map _)
  have rekeyed : ((database.favorites kind).filter fun row => row.userId = userId).map
      (fun row => (row.userId, row.key)) =
        (database.favoriteKeys kind userId).map fun key => (userId, key) := by
    rw [Database.favoriteKeys, List.map_map]
    apply List.map_congr_left
    intro row member
    have owner : row.userId = userId := by simpa using (List.mem_filter.mp member).2
    rw [Function.comp_apply, owner]
  rw [rekeyed] at pairs
  exact pairs.of_map

theorem mem_favoriteSet : (kind, userId, key) ∈ database.favoriteSet ↔
    ∃ row ∈ database.favorites kind, row.userId = userId ∧ row.key = key :=
  mem_favoriteKeys

theorem favoriteSet_add (database : Database) (kind : PortalFavoriteKind) (row : FavoriteRow) :
    (database.setFavorites kind (database.favorites kind ++ [row])).favoriteSet =
      Change.apply ⟨(kind, row.userId, row.key), true⟩ database.favoriteSet := by
  apply Set.ext
  intro ⟨other, userId, key⟩
  rw [Change.mem_apply, mem_favoriteSet, mem_favoriteSet]
  by_cases same : other = kind
  · subst same
    simp only [Database.favorites_setFavorites, List.mem_append, List.mem_singleton, Prod.mk.injEq,
      true_and, and_true, ne_eq]
    constructor
    · intro ⟨stored, member, owner, named⟩
      cases member with
      | inl old =>
          by_cases new : userId = row.userId ∧ key = row.key
          · exact .inl new
          · exact .inr ⟨new, stored, old, owner, named⟩
      | inr new =>
          subst new
          exact .inl ⟨owner.symm, named.symm⟩
    · intro member
      cases member with
      | inl new => exact ⟨row, .inr rfl, new.1.symm, new.2.symm⟩
      | inr old =>
          obtain ⟨_, stored, member, found⟩ := old
          exact ⟨stored, .inl member, found⟩
  · rw [database.favorites_setFavorites_ne _ same]
    simp [same]

theorem favoriteSet_remove (database : Database) (kind : PortalFavoriteKind) (userId : Uuid)
    (key : Bytes) : (database.removeFavorite kind userId key).favoriteSet =
      Change.apply ⟨(kind, userId, key), false⟩ database.favoriteSet := by
  apply Set.ext
  intro entry
  obtain ⟨other, owner, name⟩ := entry
  rw [Change.mem_apply, mem_favoriteSet, mem_favoriteSet, Database.removeFavorite]
  by_cases same : other = kind
  · subst same
    simp only [Database.favorites_setFavorites, List.mem_filter, Prod.mk.injEq, true_and,
      Bool.false_eq_true, and_false, false_or, ne_eq]
    constructor
    · rintro ⟨row, ⟨member, kept⟩, owns, named⟩
      subst owns named
      exact ⟨by simpa [imp_iff_not_or] using kept, row, member, rfl, rfl⟩
    · rintro ⟨different, row, member, owns, named⟩
      subst owns named
      exact ⟨row, ⟨member, by simpa [imp_iff_not_or] using different⟩, rfl, rfl⟩
  · rw [database.favorites_setFavorites_ne _ same]
    simp [same]

theorem favoriteSet_present
    (stored : ∃ row ∈ database.favorites kind, row.userId = userId ∧ row.key = key) :
    Change.apply ⟨(kind, userId, key), true⟩ database.favoriteSet = database.favoriteSet :=
  Set.insert_eq_of_mem (mem_favoriteSet.mpr stored)

theorem favoriteKeys_add {row : FavoriteRow} (apart : other = kind → row.userId ≠ userId) :
    (database.setFavorites kind (database.favorites kind ++ [row])).favoriteKeys other userId =
      database.favoriteKeys other userId := by
  unfold Database.favoriteKeys
  by_cases same : other = kind
  · subst same
    rw [Database.favorites_setFavorites, List.filter_append,
      List.filter_cons_of_neg (by simpa using apart rfl), List.filter_nil, List.append_nil]
  · rw [database.favorites_setFavorites_ne _ same]

theorem favoriteKeys_remove (apart : other = kind → otherId ≠ userId) :
    (database.removeFavorite kind otherId key).favoriteKeys other userId =
      database.favoriteKeys other userId := by
  unfold Database.favoriteKeys Database.removeFavorite
  by_cases same : other = kind
  · subst same
    rw [Database.favorites_setFavorites, List.filter_filter]
    apply congrArg
    apply List.filter_congr
    intro row _
    by_cases owns : row.userId = userId
    · simp [owns, (apart rfl).symm]
    · simp [owns]
  · rw [database.favorites_setFavorites_ne _ same]

end Keys

section Changes

variable {service : Service} {entry : Service.Entry} {call : Call} {world : World}

theorem Request.favorite_eq_some {request : Request} {kind : PortalFavoriteKind} {key : Bytes} :
    request.favorite = some (kind, key) ↔
      request.url = bytes kind.path ++ bytes "/" ++ key := by
  have sections : bytes "/me/favorite-sections/" =
      bytes (PortalFavoriteKind.path .favoriteSection) ++ bytes "/" := by decide
  have tags : bytes "/me/favorite-tags/" =
      bytes (PortalFavoriteKind.path .favoriteTag) ++ bytes "/" := by decide
  constructor
  · intro named
    unfold favorite at named
    split at named
    · next start =>
        obtain ⟨rfl, rfl⟩ := Prod.mk.inj (Option.some.inj named)
        rw [← sections, ← start, List.take_append_drop]
    · split at named
      · next start =>
          obtain ⟨rfl, rfl⟩ := Prod.mk.inj (Option.some.inj named)
          rw [← tags, ← start, List.take_append_drop]
      · cases named
  · intro url
    cases kind with
    | favoriteSection =>
        have length : (bytes "/me/favorite-sections/").length = 22 := by decide
        rw [← sections] at url
        unfold favorite
        rw [url, ← length, List.take_left, if_pos rfl, List.drop_left]
    | favoriteTag =>
        have length : (bytes "/me/favorite-tags/").length = 18 := by decide
        rw [← tags] at url
        have other : request.url.take 22 ≠ bytes "/me/favorite-sections/" := by
          intro start
          have shorter := congrArg (List.take 18) start
          rw [List.take_take, url, ← length, Nat.min_eq_left (by decide), List.take_left] at shorter
          exact absurd shorter (by decide)
        unfold favorite
        rw [if_neg other, url, ← length, List.take_left, if_pos rfl, List.drop_left]

/-- A request is signed in by the owner of the live session it presents. -/
theorem Service.signedIn_eq_some (lawful : service.postgres.Lawful)
    (valid : world.database.Valid service.postgres.lower) (smooth : world.Smooth call.environment)
    {userId : Uuid} : service.signedIn call world = some userId ↔
      ∃ token session user, presentedSession service.postgres call.request = some token ∧
        world.database.Live (world.lookupTime call.environment) token session user ∧
        user.id = userId := by
  constructor
  · intro signed
    unfold signedIn at signed
    split at signed
    · next found looked =>
        obtain ⟨token, session, user, presented, live, rfl⟩ :=
          (Service.authenticate_iff_live lawful valid smooth).mp looked
        exact ⟨token, session, user, presented, live, (lawful.uuidIn_eq signed).symm⟩
    · cases signed
  · intro ⟨token, session, user, presented, live, same⟩
    have looked := (Service.authenticate_iff_live lawful valid smooth).mpr
      ⟨token, session, user, presented, live, rfl⟩
    rw [signedIn, looked, ← same]
    exact lawful.uuidIn_uuidOut user.id

theorem LetIn.signedIn (lawful : service.postgres.Lawful)
    (valid : world.database.Valid service.postgres.lower) (smooth : world.Smooth call.environment)
    {token : Uuid} {session : AuthSessionRow} {user : UserRow} {after : World}
    (letIn : LetIn service call world token session user after) :
    service.signedIn call world = some user.id := by
  obtain ⟨text, middle, admitted, _⟩ := letIn.admitted
  have presented : presentedSession service.postgres call.request = some token :=
    presentedSession_eq_some.mpr ⟨text, admitted.bearer, admitted.cast⟩
  exact (Service.signedIn_eq_some lawful valid smooth).mpr
    ⟨token, session, user, presented, admitted.live, rfl⟩

theorem Service.favoriteChange_eq_some {kind : PortalFavoriteKind} {userId : Uuid} {key : Bytes}
    {adds : Bool} : service.favoriteChange entry = some ⟨(kind, userId, key), adds⟩ ↔
      entry.input.request.url = bytes kind.path ++ bytes "/" ++ key ∧
        service.signedIn entry.input entry.before = some userId ∧
        statusOf entry.output = some 204 ∧ entry.input.request.method = favoriteMethod adds := by
  have apart : bytes "DELETE" ≠ bytes "PUT" := by decide
  rw [← Request.favorite_eq_some]
  unfold favoriteChange
  split
  · next _ _ first id user named signed =>
      rw [named, signed]
      split
      · next sent =>
          split
          · next put => cases adds <;> simp [favoriteMethod, sent, put, apart.symm, and_assoc, and_comm]
          · next other =>
              split
              · next delete => cases adds <;> simp [favoriteMethod, sent, delete, apart, and_assoc, and_comm]
              · next neither => cases adds <;> simp [favoriteMethod, other, neither]
      · next silent => simp [silent]
  · next _ _ missing =>
      simp only [reduceCtorEq, false_iff]
      intro ⟨named, signed, _⟩
      exact missing _ _ _ named signed

end Changes

section Steps

variable {service : Service} {entry : Service.Entry}

theorem ChangesFavorite.favoriteChange (lawful : service.postgres.Lawful)
    (valid : entry.before.database.Valid service.postgres.lower)
    (smooth : entry.before.Smooth entry.input.environment) {kind : PortalFavoriteKind}
    {user : UserRow} {key : Bytes} {adds : Bool}
    (change : ChangesFavorite service entry.input entry.before kind user key entry.output entry.after)
    (method : entry.input.request.method = favoriteMethod adds) :
    service.favoriteChange entry = some ⟨(kind, user.id, key), adds⟩ := by
  obtain ⟨token, session, letIn⟩ := change.letIn
  have sent : statusOf entry.output = some 204 := by
    rw [change.answered.certain smooth.healthy]
    rfl
  exact Service.favoriteChange_eq_some.mpr
    ⟨change.url, letIn.signedIn lawful valid smooth, sent, method⟩

theorem Unfavoring.favoriteChange
    (unfavoring : Unfavoring entry.input entry.before entry.output entry.after) :
    service.favoriteChange entry = none := by
  cases changed : service.favoriteChange entry with
  | none => rfl
  | some change =>
      obtain ⟨⟨kind, userId, key⟩, adds⟩ := change
      obtain ⟨url, _, sent, method⟩ := Service.favoriteChange_eq_some.mp changed
      have changes : entry.input.request.Changes := by
        cases adds with
        | true => exact .inl method
        | false => exact .inr method
      exact absurd sent (unfavoring.answered kind key changes url)

theorem FavoriteEffect.step (lawful : service.postgres.Lawful)
    (valid : entry.before.database.Valid service.postgres.lower)
    (smooth : entry.before.Smooth entry.input.environment)
    (effect : FavoriteEffect service entry.input entry.before entry.output entry.after) :
    (∃ change, service.favoriteChange entry = some change ∧
        entry.after.database.favoriteSet = change.apply entry.before.database.favoriteSet) ∨
      (service.favoriteChange entry = none ∧
        entry.after.database.favoriteSet = entry.before.database.favoriteSet) := by
  cases effect with
  | @added kind user key _ _ change put absent database =>
      refine .inl ⟨⟨(kind, user.id, key), true⟩, change.favoriteChange lawful valid smooth put, ?_⟩
      rw [database, favoriteSet_add]
  | @present kind user key _ _ change put stored same =>
      refine .inl ⟨⟨(kind, user.id, key), true⟩, change.favoriteChange lawful valid smooth put, ?_⟩
      rw [same, favoriteSet_present stored]
  | @removed kind user key _ _ change delete database =>
      refine .inl ⟨⟨(kind, user.id, key), false⟩,
        change.favoriteChange lawful valid smooth delete, ?_⟩
      rw [database, favoriteSet_remove]
  | unfavoring unfavoring =>
      refine .inr ⟨unfavoring.favoriteChange, ?_⟩
      apply Set.ext
      intro ⟨kind, userId, key⟩
      rw [mem_favoriteSet, mem_favoriteSet, unfavoring.favorites]

end Steps

/-- The keys are in the database's text order. -/
def Postgres.Sorted (postgres : Postgres) (keys : List Bytes) : Prop :=
  keys.Pairwise fun left right => postgres.textLe left right = true

/-- The response that lists these keys. -/
def favoritesResponse (keys : List Bytes) : Response :=
  jsonResponse 200 (.object [(bytes "items", .array (keys.map .string))])

theorem favoriteItems_tuples (keys : List Bytes) :
    favoriteItems (some (.tuples (keys.map fun key => [key]))) =
      .object [(bytes "items", .array (keys.map .string))] := by
  have items : (List.range (keys.map fun key => [key]).length).map (fun index => Json.string
      ((portalDatabaseResultValue (some (.tuples (keys.map fun key => [key]))) index 0).getD [])) =
        keys.map .string := by
    apply List.ext_getElem
    · simp
    · intro index low high
      have bound : index < keys.length := by simpa using high
      simp [List.getElem?_eq_getElem bound]
  simp only [favoriteItems, portalDatabaseResultRowCount_tuples, items]

section Listing

variable {service : Service} {call : Call} {world : World} {kind : PortalFavoriteKind}
  {userId : Uuid}

/-- A signed-in user is answered with the sorted keys of the stored rows. -/
theorem Service.serve_favoriteList (lawful : service.postgres.Lawful)
    (valid : world.database.Valid service.postgres.lower) (smooth : world.Smooth call.environment)
    (get : call.request.At "GET" kind.path) (signed : service.signedIn call world = some userId) :
    (service.serve call world).1 = some (favoritesResponse
      ((world.database.favoriteKeys kind userId).insertionSort fun left right =>
        service.postgres.textLe left right)) := by
  have ends := service.serve_routed call lawful valid
  rw [routed_favoriteList get] at ends
  obtain ⟨token, session, user, presented, live, rfl⟩ :=
    (Service.signedIn_eq_some lawful valid smooth).mp signed
  cases ends with
  | unauthorized refused _ =>
      exact absurd live ((refused.stranger smooth).2 token session user presented)
  | failed admitted failed _ =>
      obtain ⟨_, _, _, _, _, refused, _⟩ := failed.cause ⟨smooth.healthy, admitted.connection⟩
      obtain ⟨outcome, ran⟩ := favoriteList_total lawful
      cases ran.symm.trans refused
  | @listed _ _ text other _ _ keys admitted _ _ listed answered =>
      have also : presentedSession service.postgres call.request = some other :=
        presentedSession_eq_some.mpr ⟨text, admitted.bearer, admitted.cast⟩
      obtain rfl := Option.some.inj (presented.symm.trans also)
      obtain ⟨_, rfl⟩ := live.unique valid admitted.live
      rw [answered.certain smooth.healthy, favoriteItems_tuples, listed]
      rfl

end Listing

/-- What each user's favorites are after a run, and what the requests that
follow do to them. -/
structure FavoritesRefine (service : Service) (entries : List Service.Entry) (world : World) :
    Prop where
  listed : ∀ (call : Call) (kind : PortalFavoriteKind) (userId : Uuid),
    call.environment.Healthy → call.request.At "GET" kind.path →
    service.signedIn call world = some userId →
    ∃ keys, (service.serve call world).1 = some (favoritesResponse keys) ∧ keys.Nodup ∧
      service.postgres.Sorted keys ∧ ∀ key, key ∈ keys ↔
        Change.Last (entries.filterMap service.favoriteChange) (kind, userId, key) true
  accepted : ∀ (put get : Call) (kind : PortalFavoriteKind) (userId : Uuid) (key : Bytes),
    put.environment.Healthy → get.environment.Healthy →
    service.favoriteChange ((service.machine Environment.Healthy).event put world) =
      some ⟨(kind, userId, key), true⟩ →
    get.request.At "GET" kind.path →
    service.signedIn get (service.serve put world).2 = some userId →
    ∃ keys, (service.serve get (service.serve put world).2).1 = some (favoritesResponse keys) ∧
      key ∈ keys
  idempotent : ∀ (first second : Call) (change : Change Favorite),
    first.environment.Healthy → second.environment.Healthy →
    service.favoriteChange ((service.machine Environment.Healthy).event first world) = some change →
    service.favoriteChange ((service.machine Environment.Healthy).event second
      (service.serve first world).2) = some change →
    (service.serve second (service.serve first world).2).2.database.favoriteSet =
      (service.serve first world).2.database.favoriteSet
  commute : ∀ (first second : Call) (change other : Change Favorite),
    first.environment.Healthy → second.environment.Healthy → change.key ≠ other.key →
    service.favoriteChange ((service.machine Environment.Healthy).event first world) = some change →
    service.favoriteChange ((service.machine Environment.Healthy).event second
      (service.serve first world).2) = some other →
    service.favoriteChange ((service.machine Environment.Healthy).event second world) = some other →
    service.favoriteChange ((service.machine Environment.Healthy).event first
      (service.serve second world).2) = some change →
    (service.serve second (service.serve first world).2).2.database.favoriteSet =
      (service.serve first (service.serve second world).2).2.database.favoriteSet
  separate : ∀ (call : Call) (kind : PortalFavoriteKind) (userId : Uuid), call.environment.Healthy →
    (∀ key adds, service.favoriteChange ((service.machine Environment.Healthy).event call world) ≠
      some ⟨(kind, userId, key), adds⟩) →
    (service.serve call world).2.database.favoriteKeys kind userId =
      world.database.favoriteKeys kind userId

section Runs

variable {service : Service} {entries : List Service.Entry} {call : Call} {world : World}

theorem Service.Run.favoring (lawful : service.postgres.Lawful)
    (run : service.Run Environment.Healthy entries world) (call : Call) :
    FavoriteEffect service call world (service.serve call world).1 (service.serve call world).2 :=
  (service.serve_effect call lawful (Run.valid run)).favoring

theorem Service.Run.favoriteStep (lawful : service.postgres.Lawful)
    (run : service.Run Environment.Healthy entries world) (healthy : call.environment.Healthy) :
    (∃ change, service.favoriteChange ((service.machine Environment.Healthy).event call world) =
          some change ∧
        (service.serve call world).2.database.favoriteSet =
          change.apply world.database.favoriteSet) ∨
      (service.favoriteChange ((service.machine Environment.Healthy).event call world) = none ∧
        (service.serve call world).2.database.favoriteSet = world.database.favoriteSet) := by
  have effect : FavoriteEffect service
      ((service.machine Environment.Healthy).event call world).input
      ((service.machine Environment.Healthy).event call world).before
      ((service.machine Environment.Healthy).event call world).output
      ((service.machine Environment.Healthy).event call world).after :=
    Run.favoring lawful run call
  exact effect.step lawful (Run.valid run) ⟨healthy, Run.connection run⟩

theorem Service.Run.favoriteSet_changed (lawful : service.postgres.Lawful)
    (run : service.Run Environment.Healthy entries world) (healthy : call.environment.Healthy)
    {change : Change Favorite} (changed : service.favoriteChange
      ((service.machine Environment.Healthy).event call world) = some change) :
    (service.serve call world).2.database.favoriteSet =
      change.apply world.database.favoriteSet := by
  cases Run.favoriteStep lawful run healthy with
  | inl step =>
      obtain ⟨other, same, set⟩ := step
      obtain rfl := Option.some.inj (changed.symm.trans same)
      exact set
  | inr silent => cases changed.symm.trans silent.1

/-- The stored favorites are the replay of the answered changes. -/
theorem Service.Run.favoriteSet_eq (lawful : service.postgres.Lawful)
    (run : service.Run Environment.Healthy entries world) :
    world.database.favoriteSet = Change.replay (entries.filterMap service.favoriteChange) := by
  induction run with
  | start initial =>
      rw [initial.1]
      apply Set.ext
      intro ⟨kind, userId, key⟩
      rw [mem_favoriteSet]
      cases kind <;> simp [Database.empty, Database.favorites, Change.replay]
  | @next entries state call reached healthy ih =>
      rw [List.filterMap_append, List.filterMap_cons]
      cases Run.favoriteStep lawful reached healthy with
      | inl step =>
          obtain ⟨change, changed, set⟩ := step
          rw [changed, List.filterMap_nil, Change.replay_append, ← ih]
          exact set
      | inr silent =>
          rw [silent.1, List.filterMap_nil, List.append_nil, ← ih]
          exact silent.2

/-- A user's keys are as before when the request changed nothing of them. -/
theorem FavoriteEffect.favoriteKeys {entry : Service.Entry} (lawful : service.postgres.Lawful)
    (valid : entry.before.database.Valid service.postgres.lower)
    (smooth : entry.before.Smooth entry.input.environment)
    (effect : FavoriteEffect service entry.input entry.before entry.output entry.after)
    {kind : PortalFavoriteKind} {userId : Uuid}
    (others : ∀ key adds, service.favoriteChange entry ≠ some ⟨(kind, userId, key), adds⟩) :
    entry.after.database.favoriteKeys kind userId =
      entry.before.database.favoriteKeys kind userId := by
  cases effect with
  | @added other user key _ _ change put _ database =>
      rw [database]
      apply favoriteKeys_add
      intro sameKind sameUser
      subst sameKind sameUser
      exact others key true (change.favoriteChange lawful valid smooth put)
  | present _ _ _ same => rw [same]
  | @removed other user key _ _ change delete database =>
      rw [database]
      apply favoriteKeys_remove
      intro sameKind sameUser
      subst sameKind sameUser
      exact others key false (change.favoriteChange lawful valid smooth delete)
  | unfavoring unfavoring =>
      rw [Database.favoriteKeys, unfavoring.favorites]
      rfl

/-- In every reachable state a list is what the last changes of each key say. -/
theorem favorites_refine {service : Service} (lawful : service.postgres.Lawful)
    (orders : Ranking.Orders service.postgres.textLe) {entries : List Service.Entry} {world : World}
    (run : service.Run Environment.Healthy entries world) :
    FavoritesRefine service entries world where
  listed := by
    intro call kind userId healthy get signed
    refine ⟨_, Service.serve_favoriteList lawful (Service.Run.valid run)
      ⟨healthy, Service.Run.connection run⟩ get signed, ?_, orders.sorted _, ?_⟩
    · exact (List.perm_insertionSort _ _).nodup_iff.mpr (nodup_favoriteKeys (Service.Run.valid run))
    · intro key
      rw [List.mem_insertionSort, ← Change.mem_replay, ← Service.Run.favoriteSet_eq lawful run]
      rfl
  accepted := by
    intro put get kind userId key sound healthy changed request signed
    have longer := run.next put sound
    refine ⟨_, Service.serve_favoriteList lawful (Service.Run.valid longer)
      ⟨healthy, Service.Run.connection longer⟩ request signed, ?_⟩
    rw [List.mem_insertionSort]
    have member : (kind, userId, key) ∈ (service.serve put world).2.database.favoriteSet := by
      rw [Service.Run.favoriteSet_changed lawful run sound changed, Change.mem_apply]
      exact .inl ⟨rfl, rfl⟩
    exact member
  idempotent := by
    intro first second change sound healthy changed again
    have once := Service.Run.favoriteSet_changed lawful run sound changed
    have twice : (service.serve second (service.serve first world).2).2.database.favoriteSet =
        change.apply (service.serve first world).2.database.favoriteSet :=
      Service.Run.favoriteSet_changed lawful (run.next first sound) healthy again
    rw [twice, once, Change.apply_apply]
  commute := by
    intro first second change other sound healthy different firstBefore secondAfter secondBefore
      firstAfter
    have one := Service.Run.favoriteSet_changed lawful run sound firstBefore
    have two := Service.Run.favoriteSet_changed lawful run healthy secondBefore
    have oneTwo : (service.serve second (service.serve first world).2).2.database.favoriteSet =
        other.apply (service.serve first world).2.database.favoriteSet :=
      Service.Run.favoriteSet_changed lawful (run.next first sound) healthy secondAfter
    have twoOne : (service.serve first (service.serve second world).2).2.database.favoriteSet =
        change.apply (service.serve second world).2.database.favoriteSet :=
      Service.Run.favoriteSet_changed lawful (run.next second healthy) sound firstAfter
    rw [oneTwo, twoOne, one, two, Change.apply_comm different]
  separate := by
    intro call kind userId healthy others
    have effect : FavoriteEffect service
        ((service.machine Environment.Healthy).event call world).input
        ((service.machine Environment.Healthy).event call world).before
        ((service.machine Environment.Healthy).event call world).output
        ((service.machine Environment.Healthy).event call world).after :=
      Service.Run.favoring lawful run call
    exact effect.favoriteKeys lawful (Service.Run.valid run)
      ⟨healthy, Service.Run.connection run⟩ others

end Runs

namespace Reference

/-- A request for a favorite by the holder of the token drawn with seed 10. -/
def favorite (method url : String) (seed : Nat) : Call where
  request := request method url (bearer (uuidOut (draw 10))) []
  environment := environment seed 0

/-- Ana keeps the tag `arts` and gives up the section `news`. -/
def favored : List Call :=
  signedIn ++ [favorite "PUT" "/me/favorite-sections/news" 20,
    favorite "PUT" "/me/favorite-tags/arts" 21, favorite "DELETE" "/me/favorite-sections/news" 22]

theorem favored_healthy : ∀ call ∈ favored, call.environment.Healthy := by
  simp [favored, signedIn, confirmed, post, favorite, environment_healthy]

end Reference

/-- The list of the tags holds `arts` and nothing else. -/
theorem favorites_refine_favored :
    FavoritesRefine Reference.signing (Reference.history Reference.signing Reference.favored)
        (Reference.after Reference.signing Reference.favored) ∧
      (Reference.history Reference.signing Reference.favored).filterMap
        Reference.signing.favoriteChange =
          [⟨(.favoriteSection, Reference.draw 1, bytes "news"), true⟩,
            ⟨(.favoriteTag, Reference.draw 1, bytes "arts"), true⟩,
            ⟨(.favoriteSection, Reference.draw 1, bytes "news"), false⟩] ∧
      Reference.signing.signedIn (Reference.favorite "GET" "/me/favorite-tags" 23)
        (Reference.after Reference.signing Reference.favored) = some (Reference.draw 1) :=
  ⟨favorites_refine Reference.lawful Reference.ranksText.toOrders
    (Reference.run _ Reference.favored_healthy), by decide +kernel, by decide +kernel⟩

end PortalApi
