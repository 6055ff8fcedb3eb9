import PortalApi.Http.Routes.Activity
import PortalApi.Memory.Routes.Auth

/-! `routes/activity.c` with the memory it handles. -/

set_option autoImplicit false

namespace PortalApi.Memory

open Library Owning

structure PortalActivityActor where
  user : PortalAuthenticatedUser
  anonymousId : Option Text
  actorKey : Bytes

def activityLoadActor (request : Request) (json : Option JsonPointer) :
    Managed (PortalAuthStatus × PortalActivityActor) := do
  let (status, user) ← portalHttpAuthenticate request
  let anonymousId ← portalHttpJsonOptionalString json (bytes "anonymous_id") 200
  let loaded (written : Int × Bytes) : PortalAuthStatus × PortalActivityActor :=
    if written.1 < 0 || written.1 ≥ 205 then (.invalid, { user, anonymousId, actorKey := written.2 })
    else (status, { user, anonymousId, actorKey := written.2 })
  match status with
  | .invalid => return (.invalid, { user, anonymousId, actorKey := [] })
  | .authenticated => return loaded (snprintf 205 (bytes "u:" ++ user.id))
  | .anonymous =>
    if !portalValidationAnonymousId (← examine anonymousId) then
      return (.invalid, { user, anonymousId, actorKey := [] })
    else
      let text ← dereference anonymousId
      return loaded (snprintf 205 (bytes "a:" ++ text))

def activityActorError (request : Request) (authentication : PortalAuthStatus) :
    Managed MhdResult :=
  if authentication = .invalid && request.authorization.getD [] ≠ [] then
    portalHttpResponseError 401 "invalid_token" "The supplied Bearer token is invalid."
  else
    portalHttpResponseError 400 "anonymous_id_required"
      "Anonymous actions need an opaque anonymous_id."

def actorUserId (authentication : PortalAuthStatus) (actor : PortalActivityActor) : Bytes :=
  if authentication = .authenticated then actor.user.id else []

def actorAnonymousId (authentication : PortalAuthStatus) (actor : PortalActivityActor) :
    Managed Bytes :=
  if authentication = .authenticated then return [] else dereference actor.anonymousId

/-- A text that is replaced by the empty one when it is NULL. -/
def orEmpty (text : Option Text) : Managed Bytes := do
  return (← examine text).getD []

/-- The printed text belongs to the object, the default is static. -/
def activityEventData (jsonC : JsonC) (json : Option JsonPointer) : Managed (Option Text) :=
  match json with
  | none => return some { owner := none, target := bytes "\x7b\x7d" }
  | some json => do
    access json.block
    match jsonMember (some json.target) (bytes "event_data") with
    | none => return some { owner := none, target := bytes "\x7b\x7d" }
    | some eventData =>
      if eventData.isObject then
        return some { owner := some json.block, target := jsonC.toJsonString eventData }
      else return none

def activityJson (result : Option PortalDatabaseResult) : Managed Json := do
  let id ← resultText result 0 0
  return .object [(bytes "event_id", .int (strtol id).value)]

def portalHttpRouteActivity (jsonC : JsonC) (request : Request) (json : Option JsonPointer) :
    Managed MhdResult := do
  let portal ← portalHttpJsonString json (bytes "portal_key") 1 120
  let eventType ← portalHttpJsonString json (bytes "event_type") 1 40
  let contentId ← portalHttpJsonOptionalString json (bytes "content_id") 300
  let componentId ← portalHttpJsonOptionalString json (bytes "component_id") 300
  let pageUrl ← portalHttpJsonOptionalString json (bytes "page_url") 2000
  let portalText ← examine portal
  let eventTypeText ← examine eventType
  if portalText.isNone || eventTypeText.isNone || !portalValidationKey portalText 120 ||
      !portalValidationEventType eventTypeText then
    portalHttpResponseError 400 "validation_error"
      "portal_key and a supported event_type are required."
  else
    let (authentication, actor) ← activityLoadActor request json
    if authentication = .invalid then
      activityActorError request authentication
    else
      match ← activityEventData jsonC json with
      | none =>
        portalHttpResponseError 400 "validation_error" "event_data must be a JSON object."
      | some dataText =>
        let anonymousId ← actorAnonymousId authentication actor
        let portal ← dereference portal
        let eventType ← dereference eventType
        let contentId ← orEmpty contentId
        let componentId ← orEmpty componentId
        let pageUrl ← orEmpty pageUrl
        let dataText ← read dataText
        let result ← portalDatabaseQuery
          (.activityInsert (actorUserId authentication actor) anonymousId portal eventType contentId
            componentId pageUrl dataText)
        cleaningUp (portalDatabaseResultDestroy result) do
          if (← portalDatabaseResultStatus result) ≠ .tuples then
            portalHttpResponseError 500 "database_error" "Could not record activity."
          else if ← allocate .responseObject then
            let response ← acquire .jsonObject
            cleaningUp (release .jsonObject response) do
              access response
              let target ← activityJson result
              portalHttpResponseJson 201 { block := response, target }
          else return .no

def portalHttpRouteLike (request : Request) (contentId : Bytes) (json : Option JsonPointer) :
    Managed MhdResult := do
  let portal ← portalHttpJsonString json (bytes "portal_key") 1 120
  let isPut := request.method = bytes "PUT"
  if !portalValidationKey (some contentId) 300 then
    portalHttpResponseError 400 "validation_error"
      "The content id contains unsupported characters."
  else
    let (authentication, actor) ← activityLoadActor request json
    if authentication = .invalid then
      activityActorError request authentication
    else
      let portalText ← examine portal
      if isPut && (portalText.isNone || !portalValidationKey portalText 120) then
        portalHttpResponseError 400 "validation_error" "portal_key is required for a like."
      else
        let anonymousId ← actorAnonymousId authentication actor
        let portal ← orEmpty portal
        let result ← portalDatabaseQuery
          (if isPut then
            .likeInsert contentId (actorUserId authentication actor) anonymousId actor.actorKey portal
          else .likeDelete contentId actor.actorKey)
        cleaningUp (portalDatabaseResultDestroy result) do
          let status ← portalDatabaseResultStatus result
          if (isPut && status ≠ .tuples) || (!isPut && status ≠ .command) then
            portalHttpResponseError 500 "database_error"
              (if isPut then "Could not store the like." else "Could not remove the like.")
          else portalHttpResponseEmpty 204

def commentJson (result : Option PortalDatabaseResult) : Managed Json := do
  let id ← resultText result 0 0
  let createdAt ← resultText result 0 1
  return .object [(bytes "id", .string id), (bytes "created_at", .string createdAt)]

def portalHttpRouteComment (request : Request) (contentId : Bytes) (json : Option JsonPointer) :
    Managed MhdResult := do
  let body ← portalHttpJsonString json (bytes "body") 1 5000
  let authorName ← portalHttpJsonOptionalString json (bytes "author_name") 100
  let portal ← portalHttpJsonString json (bytes "portal_key") 1 120
  let portalText ← examine portal
  if !portalValidationKey (some contentId) 300 || portal.isNone ||
      !portalValidationKey portalText 120 || body.isNone then
    portalHttpResponseError 400 "validation_error"
      "content id, portal_key and comment body are required."
  else
    let (authentication, actor) ← activityLoadActor request json
    if authentication = .invalid then
      activityActorError request authentication
    else
      let anonymousId ← actorAnonymousId authentication actor
      let authorName ← orEmpty authorName
      let body ← dereference body
      let portal ← dereference portal
      let result ← portalDatabaseQuery
        (.commentInsert contentId (actorUserId authentication actor) anonymousId authorName body
          portal)
      cleaningUp (portalDatabaseResultDestroy result) do
        if ← lacksRow result then
          portalHttpResponseError 500 "database_error" "Could not store the comment."
        else if ← allocate .responseObject then
          let response ← acquire .jsonObject
          cleaningUp (release .jsonObject response) do
            access response
            let target ← commentJson result
            portalHttpResponseJson 201 { block := response, target }
        else return .no

section Tracks

variable {live : Finset (Block Resource)} {json : Option JsonPointer}

theorem activityActorError_tracks (request : Request) (authentication : PortalAuthStatus) :
    Tracks Shapes live (activityActorError request authentication)
      (PortalApi.activityActorError request authentication) (Restores live) :=
  .ite (fun _ => portalHttpResponseError_tracks _ _ _) fun _ => portalHttpResponseError_tracks _ _ _

theorem isNone_textOf (text : Option Bytes) : (textOf json text).isNone = text.isNone := by
  cases text <;> rfl

theorem JsonHeld.orEmpty (held : JsonHeld live json) (text : Option Bytes) :
    Reads live (orEmpty (textOf json text)) (text.getD []) :=
  .bind (held.examine text) (.pure _)

theorem JsonHeld.dereference (held : JsonHeld live json) {text : Option Bytes}
    (given : text ≠ none) :
    Reads live (dereference (textOf json text) : Managed _) (text.getD []) := by
  cases text with
  | none => exact absurd rfl given
  | some text => exact held.text text

/-- An actor whose anonymous id is a text of the object. -/
def actorOf (json : Option JsonPointer) (actor : PortalApi.PortalActivityActor) :
    PortalActivityActor where
  user := actor.user
  anonymousId := textOf json actor.anonymousId
  actorKey := actor.actorKey

/-- The same actor, with an anonymous id where the code reads it. -/
structure Loaded (json : Option JsonPointer) (value : PortalAuthStatus × PortalActivityActor)
    (result : PortalAuthStatus × PortalApi.PortalActivityActor) : Prop where
  same : value = (result.1, actorOf json result.2)
  named : result.1 = .anonymous → result.2.anonymousId ≠ none

theorem activityLoadActor_tracks (request : Request) (held : JsonHeld live json) :
    Tracks Shapes live (activityLoadActor request json)
      (PortalApi.activityLoadActor request (json.map (·.target)))
      fun value result after => Loaded json value result ∧ after = live := by
  refine (portalHttpAuthenticate_tracks request).bind fun value result after restored => ?_
  obtain ⟨rfl, rfl⟩ := restored
  refine .reads (held.optionalString _) ?_
  dsimp only
  generalize PortalApi.portalHttpJsonOptionalString (json.map (·.target)) (bytes "anonymous_id") 200 =
    anonymousId
  obtain ⟨status, user⟩ := value
  cases status with
  | invalid => exact .pure ⟨⟨rfl, by simp⟩, rfl⟩
  | authenticated =>
      refine .pure ⟨⟨?_, ?_⟩, rfl⟩
      · dsimp only
        split <;> rfl
      · dsimp only
        split <;> simp
  | anonymous =>
      refine .reads (held.examine anonymousId) (.ite (fun _ => .pure ⟨⟨rfl, by simp⟩, rfl⟩) fun valid => ?_)
      have given : anonymousId ≠ none := by
        rintro rfl
        simp [portalValidationAnonymousId] at valid
      refine .reads (held.dereference given) (.pure ⟨⟨?_, ?_⟩, rfl⟩)
      · dsimp only
        split <;> rfl
      · intro _
        dsimp only
        split <;> exact given

theorem Loaded.anonymousId {authentication : PortalAuthStatus} {actor : PortalActivityActor}
    {result : PortalAuthStatus × PortalApi.PortalActivityActor} (held : JsonHeld live json)
    (loaded : Loaded json (authentication, actor) result) (valid : result.1 ≠ .invalid) :
    Reads live (actorAnonymousId authentication actor)
      (PortalApi.actorAnonymousId result.1 result.2) := by
  obtain ⟨same, named⟩ := loaded
  obtain ⟨rfl, rfl⟩ := Prod.mk.inj same
  unfold actorAnonymousId PortalApi.actorAnonymousId
  cases status : result.1 with
  | invalid => exact absurd status valid
  | authenticated => exact .pure _
  | anonymous => exact held.dereference (named status)

theorem activityEventData_reads (held : JsonHeld live json) (jsonC : JsonC) :
    ∃ text, Reads live (activityEventData jsonC json) text ∧
      text.map (·.target) = PortalApi.activityEventData jsonC (json.map (·.target)) ∧
      ∀ pointer ∈ text, ∀ owner ∈ pointer.owner, owner ∈ live := by
  cases json with
  | none => exact ⟨_, .pure _, rfl, by simp⟩
  | some json =>
      have block := held json rfl
      unfold activityEventData PortalApi.activityEventData
      simp only [Option.map_some]
      cases jsonMember (some json.target) (bytes "event_data") with
      | none => exact ⟨_, .bind (.access block) (.pure _), rfl, by simp⟩
      | some eventData =>
          by_cases object : eventData.isObject = true
          · simp only [object, ↓reduceIte]
            refine ⟨_, .bind (.access block) (.pure _), rfl, ?_⟩
            simpa using block
          · simp only [object, Bool.false_eq_true, ↓reduceIte]
            exact ⟨none, .bind (.access block) (.pure _), rfl, by simp⟩

theorem Queried.activityJson {statement : Statement} {result : Option PortalDatabaseResult}
    {value : Option PgResult} {after : Finset (Block Resource)}
    (queried : Queried statement live result value after)
    (row : 0 < PortalApi.portalDatabaseResultRowCount value) (wide : 0 < statement.columns) :
    Reads after (activityJson result) (PortalApi.activityJson value) :=
  .bind (queried.rowText row wide) (.pure _)

theorem Queried.commentJson {statement : Statement} {result : Option PortalDatabaseResult}
    {value : Option PgResult} {after : Finset (Block Resource)}
    (queried : Queried statement live result value after)
    (row : 0 < PortalApi.portalDatabaseResultRowCount value) (wide : 1 < statement.columns) :
    Reads after (commentJson result) (PortalApi.commentJson value) :=
  .bind (queried.rowText row (Nat.lt_of_succ_lt wide)) (.bind (queried.rowText row wide) (.pure _))

theorem portalHttpRouteActivity_tracks (jsonC : JsonC) (request : Request)
    (held : JsonHeld live json) :
    Tracks Shapes live (portalHttpRouteActivity jsonC request json)
      (PortalApi.portalHttpRouteActivity jsonC request (json.map (·.target))) (Restores live) := by
  refine .reads (held.string _ _) (.reads (held.string _ _) (.reads (held.optionalString _) ?_))
  refine .reads (held.optionalString _) (.reads (held.optionalString _) ?_)
  refine .reads (held.examine _) (.reads (held.examine _) ?_)
  refine .ite (fun _ => portalHttpResponseError_tracks _ _ _) fun valid => ?_
  simp only [Bool.or_eq_true, Option.isNone_iff_eq_none, not_or] at valid
  obtain ⟨⟨⟨portal, eventType⟩, _⟩, _⟩ := valid
  refine (activityLoadActor_tracks request held).bind fun value result after loaded => ?_
  obtain ⟨loaded, rfl⟩ := loaded
  obtain ⟨authentication, actor⟩ := value
  obtain ⟨rfl, rfl⟩ := Prod.mk.inj loaded.same
  refine .ite (fun _ => activityActorError_tracks _ _) fun accepted => ?_
  obtain ⟨data, reads, same, owned⟩ := activityEventData_reads held jsonC
  refine .reads reads ?_
  rw [← same]
  cases data with
  | none => exact portalHttpResponseError_tracks _ _ _
  | some data =>
      refine .reads (loaded.anonymousId held accepted) ?_
      refine .reads (held.dereference portal) (.reads (held.dereference eventType) ?_)
      refine .reads (held.orEmpty _) (.reads (held.orEmpty _) (.reads (held.orEmpty _) ?_))
      refine .reads (.read (owned data rfl)) ?_
      refine Queried.scoped fun result value after queried => .reads queried.status ?_
      refine .ite (fun _ => portalHttpResponseError_tracks _ _ _) fun tuples => ?_
      have row := queried.rowCount_one trivial (not_not.mp tuples)
      have filled := queried.activityJson (row ▸ Nat.one_pos) Nat.one_pos
      exact describing_tracks 201 fun block => filled.mono (Finset.subset_insert _ _)

theorem portalHttpRouteLike_tracks (request : Request) (contentId : Bytes)
    (held : JsonHeld live json) :
    Tracks Shapes live (portalHttpRouteLike request contentId json)
      (PortalApi.portalHttpRouteLike request contentId (json.map (·.target))) (Restores live) := by
  refine .reads (held.string _ _) (.ite (fun _ => portalHttpResponseError_tracks _ _ _) fun _ => ?_)
  refine (activityLoadActor_tracks request held).bind fun value result after loaded => ?_
  obtain ⟨loaded, rfl⟩ := loaded
  obtain ⟨authentication, actor⟩ := value
  obtain ⟨rfl, rfl⟩ := Prod.mk.inj loaded.same
  refine .ite (fun _ => activityActorError_tracks _ _) fun accepted => ?_
  refine .reads (held.examine _) ?_
  refine .ite (fun _ => portalHttpResponseError_tracks _ _ _) fun _ => ?_
  refine .reads (loaded.anonymousId held accepted) (.reads (held.orEmpty _) ?_)
  refine Queried.scoped fun result value after queried => .reads queried.status ?_
  exact .ite (fun _ => portalHttpResponseError_tracks _ _ _)
    fun _ => portalHttpResponseEmpty_tracks _

theorem portalHttpRouteComment_tracks (request : Request) (contentId : Bytes)
    (held : JsonHeld live json) :
    Tracks Shapes live (portalHttpRouteComment request contentId json)
      (PortalApi.portalHttpRouteComment request contentId (json.map (·.target)))
      (Restores live) := by
  refine .reads (held.string _ _) (.reads (held.optionalString _) (.reads (held.string _ _) ?_))
  refine .reads (held.examine _) ?_
  simp only [isNone_textOf]
  refine .ite (fun _ => portalHttpResponseError_tracks _ _ _) fun valid => ?_
  simp only [Bool.or_eq_true, Option.isNone_iff_eq_none, not_or] at valid
  obtain ⟨⟨⟨_, portal⟩, _⟩, body⟩ := valid
  refine (activityLoadActor_tracks request held).bind fun value result after loaded => ?_
  obtain ⟨loaded, rfl⟩ := loaded
  obtain ⟨authentication, actor⟩ := value
  obtain ⟨rfl, rfl⟩ := Prod.mk.inj loaded.same
  refine .ite (fun _ => activityActorError_tracks _ _) fun accepted => ?_
  refine .reads (loaded.anonymousId held accepted) (.reads (held.orEmpty _) ?_)
  refine .reads (held.dereference body) (.reads (held.dereference portal) ?_)
  refine Queried.scoped fun result value after queried => .reads queried.lacksRow ?_
  refine .ite (fun _ => portalHttpResponseError_tracks _ _ _) fun found => ?_
  have row : 0 < PortalApi.portalDatabaseResultRowCount value := by
    simp only [Bool.or_eq_true, decide_eq_true_eq, not_or, not_not] at found
    omega
  have filled := queried.commentJson row Nat.one_lt_two
  exact describing_tracks 201 fun block => filled.mono (Finset.subset_insert _ _)

end Tracks

end PortalApi.Memory
