import PortalApi.Http.Routes.Favorites
import PortalApi.Memory.Routes.Auth

/-! `routes/favorites.c` with the memory it handles: the array of the items belongs
to the function until the response object takes it. -/

set_option autoImplicit false

namespace PortalApi.Memory

open Library Owning

/-- `json_object_new_object` or `json_object_new_array`: NULL when it fails. -/
def newJson (created : Bool) : Managed (Option (Block Resource)) := do
  if created then
    let block ← acquire .jsonObject
    return some block
  else return none

def favoriteHasAuthenticatedUser (request : Request) :
    Managed (Bool × PortalAuthenticatedUser) := do
  let (status, user) ← portalHttpAuthenticate request
  return (decide (status = .authenticated), user)

/-- The loop over the rows. -/
def favoriteItems (result : Option PortalDatabaseResult) (items : Block Resource) :
    List Nat → Managed (List Json)
  | [] => return []
  | index :: rest => do
    let key ← resultText result index 0
    access items
    let others ← favoriteItems result items rest
    return .string key :: others

def portalHttpRouteFavoriteList (request : Request) (kind : PortalFavoriteKind) :
    Managed MhdResult := do
  let (authenticated, user) ← favoriteHasAuthenticatedUser request
  if !authenticated then
    portalHttpResponseError 401 "unauthorized" "A valid Bearer token is required."
  else
    let result ← portalDatabaseQuery (.favoriteList kind user.id)
    cleaningUp (portalDatabaseResultDestroy result) do
      if (← portalDatabaseResultStatus result) ≠ .tuples then
        portalHttpResponseError 500 "database_error" "Could not load favorites."
      else
        let response ← newJson (← allocate .responseObject)
        let items ← newJson (← allocate .itemsArray)
        match response, items with
        | some response, some items =>
          let keys ← favoriteItems result items
            (List.range (← portalDatabaseResultRowCount result))
          adopt response items
          cleaningUp (release .jsonObject response) do
            portalHttpResponseJson 200
              { block := response, target := .object [(bytes "items", .array keys)] }
        | _, _ =>
          relinquish .jsonObject items
          relinquish .jsonObject response
          return .no

def portalHttpRouteFavoriteChange (request : Request) (kind : PortalFavoriteKind) (key : Bytes) :
    Managed MhdResult := do
  let (authenticated, user) ← favoriteHasAuthenticatedUser request
  if !authenticated then
    portalHttpResponseError 401 "unauthorized" "A valid Bearer token is required."
  else if !portalValidationKey (some key) 160 then
    portalHttpResponseError 400 "validation_error"
      "The favorite key contains unsupported characters."
  else
    let isPut := request.method = bytes "PUT"
    let result ← portalDatabaseQuery
      (if isPut then .favoriteInsert kind user.id key else .favoriteDelete kind user.id key)
    cleaningUp (portalDatabaseResultDestroy result) do
      if (← portalDatabaseResultStatus result) ≠ .command then
        portalHttpResponseError 500 "database_error"
          (if isPut then "Could not save the favorite." else "Could not remove the favorite.")
      else portalHttpResponseEmpty 204

section Tracks

variable {live : Finset (Block Resource)}

/-- What making an object leaves. -/
inductive Created (live : Finset (Block Resource)) :
    Bool → Option (Block Resource) → Finset (Block Resource) → Prop where
  | made {block : Block Resource} : block ∉ live → block.kind = .jsonObject →
      Created live true (some block) (insert block live)
  | missing : Created live false none live

theorem newJson_tracks (created : Bool) :
    Tracks Shapes live (newJson created) (pure () : Handler Unit)
      fun block _ after => Created live created block after := by
  cases created with
  | false => exact .pure .missing
  | true => exact .last (.acquire fun block fresh kind => .pure (.made fresh kind))

theorem favoriteHasAuthenticatedUser_tracks (request : Request) :
    Tracks Shapes live (favoriteHasAuthenticatedUser request)
      (PortalApi.favoriteHasAuthenticatedUser request) (Restores live) := by
  refine (portalHttpAuthenticate_tracks request).bind fun value result after restored => ?_
  obtain ⟨rfl, rfl⟩ := restored
  exact .pure ⟨rfl, rfl⟩

theorem portalHttpRouteFavoriteChange_tracks (request : Request) (kind : PortalFavoriteKind)
    (key : Bytes) :
    Tracks Shapes live (portalHttpRouteFavoriteChange request kind key)
      (PortalApi.portalHttpRouteFavoriteChange request kind key) (Restores live) := by
  refine (favoriteHasAuthenticatedUser_tracks request).bind fun value result after restored => ?_
  obtain ⟨rfl, rfl⟩ := restored
  refine .ite (fun _ => portalHttpResponseError_tracks _ _ _) fun _ => ?_
  refine .ite (fun _ => portalHttpResponseError_tracks _ _ _) fun _ => ?_
  refine Queried.scoped fun result value after queried => .reads queried.status ?_
  exact .ite (fun _ => portalHttpResponseError_tracks _ _ _)
    fun _ => portalHttpResponseEmpty_tracks _

theorem Queried.favoriteItems {statement : Statement} {result : Option PortalDatabaseResult}
    {value : Option PgResult} {after larger : Finset (Block Resource)}
    (queried : Queried statement live result value after) (wide : 0 < statement.columns)
    (within : after ⊆ larger) {items : Block Resource} (held : items ∈ larger) {indices : List Nat}
    (present : ∀ index ∈ indices, index < PortalApi.portalDatabaseResultRowCount value) :
    Reads larger (favoriteItems result items indices) (indices.map fun index =>
      .string ((PortalApi.portalDatabaseResultValue value index 0).getD [])) := by
  induction indices with
  | nil => exact .pure _
  | cons index rest ih =>
      have row := queried.rowText (present index List.mem_cons_self) wide
      have others := ih fun other member => present other (List.mem_cons_of_mem _ member)
      exact .bind (row.mono within) (.bind (.access held) (.bind others (.pure _)))

theorem portalHttpRouteFavoriteList_tracks (request : Request) (kind : PortalFavoriteKind) :
    Tracks Shapes live (portalHttpRouteFavoriteList request kind)
      (PortalApi.portalHttpRouteFavoriteList request kind) (Restores live) := by
  refine (favoriteHasAuthenticatedUser_tracks request).bind fun value result after restored => ?_
  obtain ⟨rfl, rfl⟩ := restored
  refine .ite (fun _ => portalHttpResponseError_tracks _ _ _) fun _ => ?_
  refine Queried.scoped fun result value after queried => .reads queried.status ?_
  refine .ite (fun _ => portalHttpResponseError_tracks _ _ _) fun _ => ?_
  refine .perform fun first _ => .silent (newJson_tracks first) fun response held made => ?_
  refine .perform fun second _ => .silent (newJson_tracks second) fun items both added => ?_
  cases made with
  | missing =>
      cases added with
      | missing => exact .reads (.pure ()) (.reads (.pure ()) (.pure ⟨rfl, rfl⟩))
      | made fresh kind => exact .released fresh kind (.reads (.pure ()) (.pure ⟨rfl, rfl⟩))
  | @made response responseFresh responseKind =>
      cases added with
      | missing =>
          exact .reads (.pure ()) (.released responseFresh responseKind (.pure ⟨rfl, rfl⟩))
      | @made items itemsFresh itemsKind =>
          have within : after ⊆ insert items (insert response after) :=
            (Finset.subset_insert _ _).trans (Finset.subset_insert _ _)
          refine .reads (queried.rowCount.mono within) ?_
          refine .reads (queried.favoriteItems Nat.one_pos within (Finset.mem_insert_self _ _)
            fun index member => List.mem_range.mp member) ?_
          refine .adopt (by simp) (Finset.mem_insert_self _ _) ?_
          rw [Finset.erase_insert itemsFresh]
          have present : response ∈ insert response after := Finset.mem_insert_self _ _
          refine .cleaningUp (portalHttpResponseJson_tracks 200 present) ?_
          intro value result held restored
          obtain ⟨same, rfl⟩ := restored
          exact ⟨after, .released responseFresh responseKind, same, rfl⟩

end Tracks

end PortalApi.Memory
