import PortalApi.Actions
import PortalApi.JsonProperties
import PortalApi.RouteTable

/-! The optional members of an activity and of a comment, and the columns they
are stored in. -/

set_option autoImplicit false

namespace PortalApi

open Library

/-- A nullable column, with the member it is filled from and the limit of its text. -/
structure OptionalColumn (ρ : Type) where
  key : String
  maximum : Nat
  value : ρ → Option Bytes

def activityColumns : List (OptionalColumn ActivityEventRow) :=
  [⟨"content_id", 300, (·.contentId)⟩, ⟨"component_id", 300, (·.componentId)⟩,
    ⟨"page_url", 2000, (·.pageUrl)⟩]

def commentColumns : List (OptionalColumn CommentRow) := [⟨"author_name", 100, (·.authorName)⟩]

/-- If the member is there, it is a text that a column with this limit can hold. -/
def StorableMember (member : Option Json) (maximum : Nat) : Prop :=
  ∀ json, member = some json → ∃ content, json = .string content ∧ content.length ≤ maximum ∧
    0 ∉ content ∧ validUtf8 content = true

/-- Every text is in the column as it is, and nothing is there only for an absent
member or an empty one. -/
structure HoldsMember (member : Option Json) (column : Option Bytes) : Prop where
  whole : ∀ content, member = some (.string content) → content ≠ [] → column = some content
  absent : column = none → member = none ∨ member = some (.string [])

/-- A request that was answered 201 added a row that holds the members of these
columns; one with a member that cannot be held was answered 400. -/
structure StoresMembers {ρ : Type} (columns : List (OptionalColumn ρ)) (json : Option Json)
    (reply : Option Response) (before after : List ρ) : Prop where
  stored : statusOf reply = some 201 → ∃ row, after = before ++ [row] ∧
    ∀ column ∈ columns, HoldsMember (jsonMember json (bytes column.key)) (column.value row)
  refused : ∀ column ∈ columns,
    ¬ StorableMember (jsonMember json (bytes column.key)) column.maximum →
      statusOf reply = some 400

/-- Neither a token nor an acceptable anonymous identifier. -/
structure Unnamed (request : Request) (json : Option Json) : Prop where
  header : request.authorization.getD [] = []
  invalid : portalValidationAnonymousId (anonymousIdText json) = false

/-- What else an activity is refused for. -/
inductive ActivityInvalid (service : Service) (call : Call) (world : World) : Prop where
  | required : activityFields (service.body call) = none → ActivityInvalid service call world
  | unnamed : Unnamed call.request (service.body call) → ActivityInvalid service call world
  | data {actor : Actor} : MayAct service.postgres call.environment call.request
      (service.body call) world actor → activityEventData service.jsonC (service.body call) = none →
      ActivityInvalid service call world

/-- What else a comment is refused for. -/
inductive CommentInvalid (service : Service) (call : Call) (contentId : Bytes) : Prop where
  | required : commentFields contentId (service.body call) = none →
      CommentInvalid service call contentId
  | unnamed : Unnamed call.request (service.body call) → CommentInvalid service call contentId

section Members

variable {json : Option Json} {key : Bytes} {maximum : Nat}

theorem StorableMember.read (storable : StorableMember (jsonMember json key) maximum)
    {content : Bytes} (member : jsonMember json key = some (.string content)) :
    portalHttpJsonOptionalString json key maximum = some content := by
  obtain ⟨_, same, short, plain, _⟩ := storable _ member
  obtain rfl := Json.string.inj same
  rw [portalHttpJsonOptionalString_eq]
  exact portalHttpJsonString_content.mpr
    ⟨content, member, cString_eq_self.mpr plain, Nat.zero_le _, short⟩

/-- What `NULLIF` makes of a member that can be held. -/
theorem StorableMember.holds (storable : StorableMember (jsonMember json key) maximum) :
    HoldsMember (jsonMember json key)
      (nullIf ((portalHttpJsonOptionalString json key maximum).getD [])) where
  whole content member present := by
    rw [storable.read member, Option.getD_some, nullIf, if_neg present]
  absent missing := by
    cases member : jsonMember json key with
    | none => exact .inl rfl
    | some value =>
        obtain ⟨content, rfl, _⟩ := storable value member
        rw [storable.read member, Option.getD_some] at missing
        have empty : content = [] := by
          by_contra present
          simp [nullIf, present] at missing
        exact .inr (by rw [empty])

end Members

section Requests

variable {service : Service} {call : Call} {world after : World} {reply : Option Response}

theorem MayAct.not_unnamed {postgres : Postgres} {environment : Environment} {request : Request}
    {json : Option Json} {actor : Actor}
    (may : MayAct postgres environment request json world actor) : ¬ Unnamed request json := by
  intro unnamed
  cases may with
  | session presented _ => exact presentedSession_present presented unnamed.header
  | @anonymous id _ read =>
      have invalid := unnamed.invalid
      simp [read, id.property] at invalid

theorem ActivityInvalid.excluded {fields : ActivityFields}
    (read : activityFields (service.body call) = some fields)
    (named : ¬ Unnamed call.request (service.body call))
    (sent : ∀ actor, MayAct service.postgres call.environment call.request (service.body call)
      world actor → activityEventData service.jsonC (service.body call) ≠ none) :
    ¬ ActivityInvalid service call world := by
  intro invalid
  cases invalid with
  | required missing => cases read.symm.trans missing
  | unnamed unnamed => exact named unnamed
  | data may missing => exact sent _ may missing

theorem CommentInvalid.excluded {contentId : Bytes} {fields : CommentFields}
    (read : commentFields contentId (service.body call) = some fields)
    (named : ¬ Unnamed call.request (service.body call)) :
    ¬ CommentInvalid service call contentId := by
  intro invalid
  cases invalid with
  | required missing => cases read.symm.trans missing
  | unnamed unnamed => exact named unnamed

theorem activityEnds_invalid_iff (smooth : world.Smooth call.environment)
    (ends : ActivityEnds service.postgres call.environment service.jsonC call.request
      (service.body call) world reply after) :
    statusOf reply = some 400 ↔ ActivityInvalid service call world := by
  have healthy := smooth.healthy
  cases ends with
  | invalid missing answered =>
      rw [answered.certain healthy]
      exact iff_of_true rfl (.required missing)
  | refused read refused answered =>
      rw [answered.certain healthy]
      cases refused with
      | token present refused =>
          refine iff_of_false (by decide) (ActivityInvalid.excluded read
            (fun unnamed => present unnamed.header) fun actor may => ?_)
          exact ((ActorRefused.token present refused).not_mayAct smooth may).elim
      | anonymousId header invalid => exact iff_of_true rfl (.unnamed ⟨header, invalid⟩)
  | invalidData _ acts missing answered =>
      rw [answered.certain healthy]
      exact iff_of_true rfl (.data acts.mayAct missing)
  | failed read acts sent _ answered =>
      rw [answered.certain healthy]
      exact iff_of_false (by decide) (ActivityInvalid.excluded read
        acts.mayAct.not_unnamed fun _ _ => ne_of_eq_of_ne sent (Option.some_ne_none _))
  | recorded read acts sent _ _ _ _ _ _ answered =>
      rw [answered.certain healthy]
      exact iff_of_false (by simp [eventResponse]) (ActivityInvalid.excluded read
        acts.mayAct.not_unnamed fun _ _ => ne_of_eq_of_ne sent (Option.some_ne_none _))

theorem commentEnds_invalid_iff (smooth : world.Smooth call.environment) {contentId : Bytes}
    (ends : CommentEnds service.postgres call.environment call.request contentId
      (service.body call) world reply after) :
    statusOf reply = some 400 ↔ CommentInvalid service call contentId := by
  have healthy := smooth.healthy
  cases ends with
  | invalid missing answered =>
      rw [answered.certain healthy]
      exact iff_of_true rfl (.required missing)
  | refused read refused answered =>
      rw [answered.certain healthy]
      cases refused with
      | token present _ =>
          exact iff_of_false (by decide)
            (CommentInvalid.excluded read fun unnamed => present unnamed.header)
      | anonymousId header invalid => exact iff_of_true rfl (.unnamed ⟨header, invalid⟩)
  | failed read acts _ answered =>
      rw [answered.certain healthy]
      exact iff_of_false (by decide) (CommentInvalid.excluded read acts.mayAct.not_unnamed)
  | commented read acts _ _ _ _ _ _ _ answered =>
      rw [answered.certain healthy]
      exact iff_of_false (by simp [commentResponse])
        (CommentInvalid.excluded read acts.mayAct.not_unnamed)

theorem Service.serve_activity_invalid_iff (lawful : service.postgres.Lawful)
    (valid : world.database.Valid service.postgres.lower) (smooth : world.Smooth call.environment)
    (post : call.request.At "POST" "/activity") :
    statusOf (service.serve call world).1 = some 400 ↔ ActivityInvalid service call world := by
  have listed : ("/activity", Endpoint.activity) ∈ postEndpoints := by simp [postEndpoints]
  cases body : service.body call with
  | none =>
      have unparsed : service.parsed call = none := by
        rw [← Service.body_post post.method, body]
      have ends := service.serve_routed call lawful valid
      rw [routed_post post listed, unparsed] at ends
      rw [ends.2.certain smooth.healthy]
      exact iff_of_true rfl (.required (by rw [body]; rfl))
  | some json =>
      exact activityEnds_invalid_iff smooth (Service.serve_post lawful valid post listed body)

/-- A comment on a content whose id is not too long ends as its handler does. -/
theorem Service.serve_comments (lawful : service.postgres.Lawful)
    (valid : world.database.Valid service.postgres.lower) {contentId : Bytes} {json : Json}
    (post : call.request.method = bytes "POST")
    (content : call.request.OnContent contentId "/comments") (short : contentId.length ≤ 300)
    (body : service.body call = some json) :
    CommentEnds service.postgres call.environment call.request contentId (service.body call) world
      (service.serve call world).1 (service.serve call world).2 := by
  have parsed : service.parsed call = some json := Service.body_post post ▸ body
  have fits : ¬ contentId.length ≥ contentIdSize := Nat.not_le.mpr (Nat.lt_succ_of_le short)
  have ends := service.serve_routed call lawful valid
  rw [routed_comments post content, parsed] at ends
  simp only [fits, ↓reduceIte] at ends
  rw [body]
  exact ends

theorem commentFields_long {contentId : Bytes} {json : Option Json}
    (long : 300 < contentId.length) : commentFields contentId json = none := by
  rw [Option.eq_none_iff_forall_ne_some]
  intro fields read
  obtain ⟨same, equal, _, bounded, _⟩ :=
    portalValidationKey_iff.mp (commentFields_eq_some.mp read).1
  obtain rfl := Option.some.inj equal
  omega

theorem Service.serve_comment_invalid_iff (lawful : service.postgres.Lawful)
    (valid : world.database.Valid service.postgres.lower) (smooth : world.Smooth call.environment)
    {contentId : Bytes} (post : call.request.method = bytes "POST")
    (content : call.request.OnContent contentId "/comments") :
    statusOf (service.serve call world).1 = some 400 ↔ CommentInvalid service call contentId := by
  have healthy := smooth.healthy
  cases body : service.body call with
  | none =>
      have unparsed : service.parsed call = none := by
        rw [← Service.body_post post, body]
      have ends := service.serve_routed call lawful valid
      rw [routed_comments post content, unparsed] at ends
      rw [ends.2.certain healthy]
      exact iff_of_true rfl (.required (by rw [body]; rfl))
  | some json =>
      by_cases long : 300 < contentId.length
      · have parsed : service.parsed call = some json := Service.body_post post ▸ body
        have full : contentId.length ≥ contentIdSize := long
        have ends := service.serve_routed call lawful valid
        rw [routed_comments post content, parsed] at ends
        simp only [full, ↓reduceIte] at ends
        rw [ends.2.certain healthy]
        exact iff_of_true rfl (.required (commentFields_long long))
      · have ends := Service.serve_comments lawful valid post content (Nat.not_lt.mp long) body
        exact commentEnds_invalid_iff smooth ends

theorem Service.serve_commented (lawful : service.postgres.Lawful)
    (valid : world.database.Valid service.postgres.lower) {contentId : Bytes}
    (post : call.request.method = bytes "POST")
    (content : call.request.OnContent contentId "/comments")
    (sent : statusOf (service.serve call world).1 = some 201) :
    ∃ fields found actor comment event, Commented service call world fields found actor comment
      event (service.serve call world).1 (service.serve call world).2 := by
  have effect := (service.serve_effect call lawful valid).actions
  cases effect with
  | recorded recorded => exact (content.not_at recorded.request (by decide)).elim
  | liked liked =>
      have same := liked.method.symm.trans post
      exact absurd same (by decide)
  | likePresent _ put _ _ _ => exact absurd (put.symm.trans post) (by decide)
  | unliked _ delete _ => exact absurd (delete.symm.trans post) (by decide)
  | commented commented => exact ⟨_, _, _, _, _, commented⟩
  | inactive inactive =>
      have answer : ("POST", "/comments", 201) ∈ contentAnswers := by decide
      exact absurd ⟨post, content, sent⟩ (inactive.answered _ answer contentId)

end Requests

section Stores

variable {service : Service} {call : Call} {world : World}

/-- What is stored of members that can be held, and when a request is refused,
decides whether members are stored. -/
theorem storesMembers_iff {ρ : Type} {columns : List (OptionalColumn ρ)} {json : Option Json}
    {reply : Option Response} {before after : List ρ} {invalid : Prop}
    (answered : statusOf reply = some 400 ↔ invalid)
    (stored : statusOf reply = some 201 → ∃ row, after = before ++ [row] ∧
      ∀ column ∈ columns, column.value row =
        nullIf ((portalHttpJsonOptionalString json (bytes column.key) column.maximum).getD [])) :
    StoresMembers columns json reply before after ↔
      (∀ column ∈ columns, StorableMember (jsonMember json (bytes column.key)) column.maximum) ∨
        invalid := by
  constructor
  · intro stores
    by_cases storable : ∀ column ∈ columns,
        StorableMember (jsonMember json (bytes column.key)) column.maximum
    · exact .inl storable
    · push Not at storable
      obtain ⟨column, listed, unstorable⟩ := storable
      exact .inr (answered.mp (stores.refused column listed unstorable))
  · intro excused
    rcases excused with storable | refused
    · constructor
      · intro created
        obtain ⟨row, same, columns⟩ := stored created
        refine ⟨row, same, fun column listed => ?_⟩
        rw [columns column listed]
        exact (storable column listed).holds
      · intro column listed unstorable
        exact absurd (storable column listed) unstorable
    · have sent := answered.mpr refused
      constructor
      · intro created
        cases sent.symm.trans created
      · exact fun _ _ _ => sent

theorem Service.stores_activity (lawful : service.postgres.Lawful)
    (valid : world.database.Valid service.postgres.lower)
    (post : call.request.At "POST" "/activity")
    (sent : statusOf (service.serve call world).1 = some 201) :
    ∃ row, (service.serve call world).2.database.activityEvents =
        world.database.activityEvents ++ [row] ∧
      ∀ column ∈ activityColumns, column.value row = nullIf
        ((portalHttpJsonOptionalString (service.body call) (bytes column.key) column.maximum).getD
          []) := by
  obtain ⟨fields, actor, event, recorded⟩ := Service.serve_recorded lawful valid post sent
  obtain ⟨transaction, data, stored, _, _, _, same⟩ := recorded.event_eq
  obtain ⟨_, _, _, contentId, componentId, pageUrl⟩ := activityFields_eq_some.mp recorded.read
  refine ⟨event, by rw [recorded.database], ?_⟩
  intro column listed
  simp only [activityColumns, List.mem_cons, List.not_mem_nil, or_false] at listed
  rw [same]
  rcases listed with rfl | rfl | rfl
  · exact congrArg nullIf contentId
  · exact congrArg nullIf componentId
  · exact congrArg nullIf pageUrl

theorem Service.stores_comment (lawful : service.postgres.Lawful)
    (valid : world.database.Valid service.postgres.lower) {contentId : Bytes}
    (post : call.request.method = bytes "POST")
    (content : call.request.OnContent contentId "/comments")
    (sent : statusOf (service.serve call world).1 = some 201) :
    ∃ row, (service.serve call world).2.database.comments = world.database.comments ++ [row] ∧
      ∀ column ∈ commentColumns, column.value row = nullIf
        ((portalHttpJsonOptionalString (service.body call) (bytes column.key) column.maximum).getD
          []) := by
  obtain ⟨fields, found, actor, comment, event, commented⟩ :=
    Service.serve_commented lawful valid post content sent
  obtain ⟨transaction, _, same, _⟩ := commented.rows_eq
  obtain ⟨_, _, _, authorName⟩ := commentFields_eq_some.mp commented.read
  refine ⟨comment, by rw [commented.database], ?_⟩
  intro column listed
  obtain rfl := List.mem_singleton.mp listed
  rw [same]
  exact congrArg nullIf authorName

end Stores

/-- Optional members are stored as they are given exactly when they can be, or
when the request is refused for another reason. -/
theorem optional_members_stored_iff {service : Service} (lawful : service.postgres.Lawful)
    {admits : Environment → Prop} {entries : List Service.Entry} {world : World}
    (run : service.Run admits entries world) {call : Call} (smooth : world.Smooth call.environment) :
    (call.request.At "POST" "/activity" →
      (StoresMembers activityColumns (service.body call) (service.serve call world).1
          world.database.activityEvents (service.serve call world).2.database.activityEvents ↔
        (∀ column ∈ activityColumns,
          StorableMember (jsonMember (service.body call) (bytes column.key)) column.maximum) ∨
          ActivityInvalid service call world)) ∧
    ∀ contentId, call.request.method = bytes "POST" →
      call.request.OnContent contentId "/comments" →
      (StoresMembers commentColumns (service.body call) (service.serve call world).1
          world.database.comments (service.serve call world).2.database.comments ↔
        (∀ column ∈ commentColumns,
          StorableMember (jsonMember (service.body call) (bytes column.key)) column.maximum) ∨
          CommentInvalid service call contentId) := by
  have valid := Service.Run.valid run
  constructor
  · intro post
    exact storesMembers_iff (Service.serve_activity_invalid_iff lawful valid smooth post)
      (Service.stores_activity lawful valid post)
  · intro contentId post content
    exact storesMembers_iff (Service.serve_comment_invalid_iff lawful valid smooth post content)
      (Service.stores_comment lawful valid post content)

namespace Reference

def required : List (Bytes × Json) :=
  [(bytes "portal_key", .string (bytes "news")), (bytes "event_type", .string (bytes "page_view")),
    (bytes "anonymous_id", .string (bytes "visitor-1"))]

def requiredText : Bytes :=
  bytes "\x7b\"portal_key\":\"news\",\"event_type\":\"page_view\",\"anonymous_id\":\"visitor-1\","

/-- A content id that is no text, and a component id with a zero character. -/
def misfitText : Bytes :=
  requiredText ++ bytes "\"content_id\":7,\"component_id\":\"a\\u0000b\"\x7d"

def misfitJson : Json :=
  .object (required ++ [(bytes "content_id", .int 7), (bytes "component_id", .string [97, 0, 98])])

/-- A content id and an empty page. -/
def fittingText : Bytes :=
  requiredText ++ bytes "\"content_id\":\"a1\",\"page_url\":\"\"\x7d"

def fittingJson : Json :=
  .object (required ++ [(bytes "content_id", .string (bytes "a1")), (bytes "page_url", .string [])])

def recording : Service := service [(misfitText, misfitJson), (fittingText, fittingJson)]

def record (text : Bytes) : Call where
  request := request "POST" "/activity" none text
  environment := environment 1 0

end Reference

open Reference in
theorem optional_members_stored_fitting :
    StoresMembers activityColumns (recording.body (record fittingText))
      (recording.serve (record fittingText) start).1 start.database.activityEvents
      (recording.serve (record fittingText) start).2.database.activityEvents := by
  have begins : recording.Run Environment.Healthy [] start := .start ⟨rfl, rfl⟩
  have smooth : start.Smooth (record fittingText).environment := ⟨environment_healthy 1 0, rfl⟩
  have body : recording.body (record fittingText) = some fittingJson := rfl
  refine ((optional_members_stored_iff lawful begins smooth).1 ⟨rfl, rfl⟩).mpr (.inl ?_)
  rw [body]
  intro column listed
  simp only [activityColumns, List.mem_cons, List.not_mem_nil, or_false] at listed
  rcases listed with rfl | rfl | rfl
  · intro json member
    obtain rfl : Json.string (bytes "a1") = json := Option.some.inj member
    exact ⟨_, rfl, by decide, by decide, by decide⟩
  · intro json member
    cases member
  · intro json member
    obtain rfl : Json.string [] = json := Option.some.inj member
    exact ⟨_, rfl, by decide, by decide, by decide⟩

open Reference in
/-- The number is dropped and the text cut, and the answer is 201. -/
theorem optional_members_dropped :
    (recording.serve (record misfitText) start).2.database.activityEvents.map
        (fun event => (event.contentId, event.componentId)) = [(none, some (bytes "a"))] ∧
      statusOf (recording.serve (record misfitText) start).1 = some 201 ∧
      ¬ StoresMembers activityColumns (recording.body (record misfitText))
        (recording.serve (record misfitText) start).1 start.database.activityEvents
        (recording.serve (record misfitText) start).2.database.activityEvents := by
  have created : statusOf (recording.serve (record misfitText) start).1 = some 201 := by
    decide +kernel
  refine ⟨by decide +kernel, created, fun stores => ?_⟩
  have number : (jsonMember (recording.body (record misfitText)) (bytes "content_id")).any
      (fun json => !json.isString) = true := by decide +kernel
  have unstorable : ¬ StorableMember
      (jsonMember (recording.body (record misfitText)) (bytes "content_id")) 300 := by
    intro storable
    obtain ⟨json, member, other⟩ := (Option.any_eq_true _ _).mp number
    obtain ⟨content, rfl, _⟩ := storable json member
    cases other
  have refused := stores.refused ⟨"content_id", 300, (·.contentId)⟩ (by simp [activityColumns])
    unstorable
  cases created.symm.trans refused

end PortalApi
