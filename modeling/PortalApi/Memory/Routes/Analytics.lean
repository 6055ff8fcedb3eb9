import PortalApi.Http.Routes.Analytics
import PortalApi.Memory.Routes.Favorites

/-! `routes/analytics.c` with the memory it handles. -/

set_option autoImplicit false

namespace PortalApi.Memory

open Library Owning

/-- The loop over the rows: an item that was made belongs to the array at once. -/
def topContentItems (result : Option PortalDatabaseResult) (items : Block Resource) :
    List Nat → Managed (Option (List Json))
  | [] => return some []
  | index :: rest => do
    if ← allocate (.item index) then
      let item ← acquire .jsonObject
      access item
      let contentId ← resultText result index 0
      let views ← resultText result index 1
      adopt items item
      match ← topContentItems result items rest with
      | none => return none
      | some others =>
        return some (.object [(bytes "content_id", .string contentId),
          (bytes "views", .int (strtol views).value)] :: others)
    else return none

def portalHttpRouteTopContent (request : Request) : Managed MhdResult := do
  let portal := request.lookup .getArgument "portal_key"
  let daysText := request.lookup .getArgument "days"
  let limitText := request.lookup .getArgument "limit"
  let (status, _) ← portalHttpAuthenticate request
  if status ≠ .authenticated then
    portalHttpResponseError 401 "unauthorized" "A valid Bearer token is required."
  else if portal.isNone || !portalValidationKey portal 120 then
    portalHttpResponseError 400 "validation_error" "portal_key is required."
  else
    match analyticsParseRange daysText 7 1 365, analyticsParseRange limitText 10 1 100 with
    | some days, some limit =>
      let daysBuffer := snprintf 12 (signedDecimal days)
      let limitBuffer := snprintf 12 (signedDecimal limit)
      if daysBuffer.1 < 0 || limitBuffer.1 < 0 then
        portalHttpResponseError 500 "serialization_error" "Could not prepare analytics query."
      else
        let result ← portalDatabaseQuery
          (.topContent (portal.getD []) daysBuffer.2 limitBuffer.2)
        cleaningUp (portalDatabaseResultDestroy result) do
          if (← portalDatabaseResultStatus result) ≠ .tuples then
            portalHttpResponseError 500 "database_error" "Could not load analytics."
          else
            let response ← newJson (← allocate .responseObject)
            let items ← newJson (← allocate .itemsArray)
            match response, items with
            | some response, some items =>
              let rows ← portalDatabaseResultRowCount result
              match ← topContentItems result items (List.range rows) with
              | none =>
                release .jsonObject items
                release .jsonObject response
                return .no
              | some listed =>
                adopt response items
                cleaningUp (release .jsonObject response) do
                  portalHttpResponseJson 200
                    { block := response, target := topContentJson (portal.getD []) days listed }
            | _, _ =>
              relinquish .jsonObject items
              relinquish .jsonObject response
              return .no
    | _, _ =>
      portalHttpResponseError 400 "validation_error"
        "days must be 1..365 and limit must be 1..100."

section Tracks

variable {live : Finset (Block Resource)}

/-- Every item made for the list belongs to the array, also when the loop gives up. -/
theorem Queried.topContentItems {statement : Statement} {result : Option PortalDatabaseResult}
    {value : Option PgResult} {after larger : Finset (Block Resource)}
    (queried : Queried statement live result value after) (wide : 1 < statement.columns)
    (within : after ⊆ larger) {items : Block Resource} (held : items ∈ larger) {indices : List Nat}
    (present : ∀ index ∈ indices, index < PortalApi.portalDatabaseResultRowCount value) :
    Tracks Shapes larger (topContentItems result items indices)
      (PortalApi.topContentItems value indices) (Restores larger) := by
  induction indices with
  | nil => exact .pure ⟨rfl, rfl⟩
  | cons index rest ih =>
      have later := ih fun other member => present other (List.mem_cons_of_mem _ member)
      have first := present index List.mem_cons_self
      refine .perform fun created _ => .ite (fun _ => ?_) fun _ => .pure ⟨rfl, rfl⟩
      refine .acquire fun item fresh kind => .reads (.access (Finset.mem_insert_self _ _)) ?_
      have wider : after ⊆ insert item larger := within.trans (Finset.subset_insert _ _)
      refine .reads ((queried.rowText first (Nat.lt_of_succ_lt wide)).mono wider) ?_
      refine .reads ((queried.rowText first wide).mono wider) ?_
      refine .adopt (Finset.mem_insert_of_mem held) (Finset.mem_insert_self _ _) ?_
      rw [Finset.erase_insert fresh]
      refine later.bind fun listed result left restored => ?_
      obtain ⟨rfl, rfl⟩ := restored
      cases listed with
      | none => exact .pure ⟨rfl, rfl⟩
      | some others => exact .pure ⟨rfl, rfl⟩

theorem portalHttpRouteTopContent_tracks (request : Request) :
    Tracks Shapes live (portalHttpRouteTopContent request)
      (PortalApi.portalHttpRouteTopContent request) (Restores live) := by
  refine (portalHttpAuthenticate_tracks request).bind fun value result after restored => ?_
  obtain ⟨rfl, rfl⟩ := restored
  refine .ite (fun _ => portalHttpResponseError_tracks _ _ _) fun _ => ?_
  refine .ite (fun _ => portalHttpResponseError_tracks _ _ _) fun _ => ?_
  generalize analyticsParseRange (request.lookup .getArgument "days") 7 1 365 = days
  generalize analyticsParseRange (request.lookup .getArgument "limit") 10 1 100 = limit
  rcases days with _ | days
  · exact portalHttpResponseError_tracks _ _ _
  rcases limit with _ | limit
  · exact portalHttpResponseError_tracks _ _ _
  refine .ite (fun _ => portalHttpResponseError_tracks _ _ _) fun _ => ?_
  refine Queried.scoped fun result value after queried => .reads queried.status ?_
  refine .ite (fun _ => portalHttpResponseError_tracks _ _ _) fun _ => ?_
  refine .perform fun first _ => .silent (newJson_tracks first) fun response held made => ?_
  refine .perform fun second _ => .silent (newJson_tracks second) fun items both added => ?_
  cases made with
  | missing =>
      cases added with
      | missing => exact .reads (.pure ()) (.reads (.pure ()) (.pure ⟨rfl, rfl⟩))
      | made fresh kind => exact .released fresh kind (.reads (.pure ()) (.pure ⟨rfl, rfl⟩))
  | @made response responseFresh responseKind =>
      cases added with
      | missing =>
          exact .reads (.pure ()) (.released responseFresh responseKind (.pure ⟨rfl, rfl⟩))
      | @made items itemsFresh itemsKind =>
          have within : after ⊆ insert items (insert response after) :=
            (Finset.subset_insert _ _).trans (Finset.subset_insert _ _)
          refine .reads (queried.rowCount.mono within) ?_
          have loop := queried.topContentItems Nat.one_lt_two within (Finset.mem_insert_self items _)
            fun index member => List.mem_range.mp member
          refine loop.bind fun listed result left restored => ?_
          obtain ⟨rfl, rfl⟩ := restored
          cases listed with
          | none =>
              exact .released itemsFresh itemsKind
                (.released responseFresh responseKind (.pure ⟨rfl, rfl⟩))
          | some listed =>
              refine .adopt (by simp) (Finset.mem_insert_self _ _) ?_
              rw [Finset.erase_insert itemsFresh]
              have present : response ∈ insert response after := Finset.mem_insert_self _ _
              refine .cleaningUp (portalHttpResponseJson_tracks 200 present) ?_
              intro value result held restored
              obtain ⟨same, rfl⟩ := restored
              exact ⟨after, .released responseFresh responseKind, same, rfl⟩

end Tracks

end PortalApi.Memory
