import PortalApi.Http.Routing
import PortalApi.Reference

/-! The endpoint table of the README, and how exactly the dispatcher follows it. -/

set_option autoImplicit false

namespace PortalApi

open Library

/-- What stands in a path between its fixed parts. -/
inductive PathParameter where
  | absent
  | key
  | contentId

/-- The texts that may stand there. -/
def PathParameter.Admits (text : Bytes) : PathParameter → Prop
  | .absent => text = []
  | .key => True
  | .contentId => 1 ≤ text.length ∧ text.length ≤ 300

/-- The texts that the handlers accept there. -/
def PathParameter.Validates (text : Bytes) : PathParameter → Prop
  | .absent => text = []
  | .key => portalValidationKey (some text) 160 = true
  | .contentId => portalValidationKey (some text) 300 = true

/-- A row of the table, with the endpoint of each parameter. -/
structure Route where
  methods : List String
  before : String
  parameter : PathParameter
  after : String
  parsesBody : Bool
  endpoint : Bytes → Endpoint

def fixedRoute (method url : String) (parsesBody : Bool) (endpoint : Endpoint) : Route where
  methods := [method]
  before := url
  parameter := .absent
  after := ""
  parsesBody := parsesBody
  endpoint _ := endpoint

def favoriteRoute (before : String) (kind : PortalFavoriteKind) : Route where
  methods := ["PUT", "DELETE"]
  before := before
  parameter := .key
  after := ""
  parsesBody := false
  endpoint := .favoriteChange kind

def contentRoute (methods : List String) (after : String) (endpoint : Bytes → Endpoint) : Route where
  methods := methods
  before := "/content/"
  parameter := .contentId
  after := after
  parsesBody := true
  endpoint := endpoint

def endpointTable : List Route :=
  [fixedRoute "GET" "/health" false .health,
    fixedRoute "POST" "/auth/register" true .register,
    fixedRoute "POST" "/auth/confirm" true .confirm,
    fixedRoute "POST" "/auth/login" true .login,
    fixedRoute "DELETE" "/auth/session" false .logout,
    fixedRoute "GET" "/me/favorite-sections" false (.favoriteList .favoriteSection),
    favoriteRoute "/me/favorite-sections/" .favoriteSection,
    fixedRoute "GET" "/me/favorite-tags" false (.favoriteList .favoriteTag),
    favoriteRoute "/me/favorite-tags/" .favoriteTag,
    fixedRoute "POST" "/activity" true .activity,
    contentRoute ["PUT", "DELETE"] "/like" .like,
    contentRoute ["POST"] "/comments" .comment,
    fixedRoute "GET" "/analytics/top-content" false .topContent]

/-- The request has a method of the row and its path around this text. -/
structure Route.Fits (route : Route) (text : Bytes) (request : Request) : Prop where
  method : ∃ method ∈ route.methods, request.method = bytes method
  url : request.url = bytes route.before ++ text ++ bytes route.after

/-- The row of the table and the parameter that a request names. -/
structure Route.Serves (route : Route) (text : Bytes) (request : Request) : Prop
    extends route.Fits text request where
  admitted : route.parameter.Admits text

/-- A body that is read is a JSON object. -/
def Route.Accepts (route : Route) (request : Request) (parsed : Option Json) : Prop :=
  route.parsesBody = true → bodyExpected request = true → parsed ≠ none

section Table

variable {request : Request} {parsed : Option Json} {route : Route} {text : Bytes}
  {endpoint : Endpoint}

/-- The list of the tests that a row is among. -/
def Route.tests (route : Route) : List RouteTest :=
  if route.parsesBody then jsonTests else bodylessTests

theorem fixedRoute_passed {method url : String} {parsesBody : Bool}
    (serves : (fixedRoute method url parsesBody endpoint).Serves text request) :
    fixedTest method url endpoint request = some endpoint := by
  obtain ⟨⟨⟨_, listed, method⟩, url⟩, absent⟩ := serves
  obtain rfl := List.mem_singleton.mp listed
  obtain rfl : text = [] := absent
  refine fixedTest_eq_some.mpr ⟨⟨method, ?_⟩, rfl⟩
  simpa [fixedRoute, bytes] using url

theorem changes_of_listed (listed : ∃ method ∈ ["PUT", "DELETE"], request.method = bytes method) :
    request.Changes := by
  obtain ⟨_, member, same⟩ := listed
  simp only [List.mem_cons, List.not_mem_nil, or_false] at member
  rcases member with rfl | rfl
  · exact .inl same
  · exact .inr same

theorem favoriteRoute_passed {size : Nat} {before : String} {kind : PortalFavoriteKind}
    (length : (bytes before).length = size)
    (serves : (favoriteRoute before kind).Serves text request) :
    favoriteTest size before kind request = some (.favoriteChange kind text) := by
  have url : request.url = bytes before ++ text := by
    simpa [favoriteRoute, bytes] using serves.url
  refine favoriteTest_eq_some.mpr ⟨⟨?_, changes_of_listed serves.method⟩, ?_⟩
  · rw [url, List.take_left' length]
  · rw [url, List.drop_left' length]

/-- The text between the fixed parts of a path under `/content/`. -/
structure Delimited (text : Bytes) (action : String) (size : Nat) (url : Bytes) : Prop where
  starts : url.take 9 = bytes "/content/"
  ends : (url.drop 9).drop ((url.drop 9).length - size) = bytes action
  between : (url.drop 9).take ((url.drop 9).length - size) = text
  length : (url.drop 9).length = text.length + size

theorem delimited {action : String} {size : Nat} (length : (bytes action).length = size)
    (url : request.url = bytes "/content/" ++ text ++ bytes action) :
    Delimited text action size request.url := by
  have rest : request.url.drop 9 = text ++ bytes action := by
    rw [url, List.append_assoc, List.drop_left' (by decide)]
  have cut : (request.url.drop 9).length - size = text.length := by
    rw [rest, List.length_append, length, Nat.add_sub_cancel]
  constructor
  · rw [url, List.append_assoc, List.take_left' (by decide)]
  · rw [cut, rest, List.drop_left' rfl]
  · rw [cut, rest, List.take_left' rfl]
  · rw [rest, List.length_append, length]

theorem likeTest_of_changes (changes : request.Changes) (present : 1 ≤ text.length)
    (url : request.url = bytes "/content/" ++ text ++ bytes "/like") :
    likeTest request = some (if text.length ≥ contentIdSize then .longContentId else .like text) := by
  have path := delimited (by decide : (bytes "/like").length = 5) url
  refine likeTest_eq_some.mpr ⟨⟨path.starts, ⟨changes, ?_⟩, path.ends⟩, ?_⟩
  · rw [path.length]
    omega
  · rw [path.between, path.length, Nat.add_sub_cancel]

theorem commentTest_of_post (post : request.method = bytes "POST") (present : 1 ≤ text.length)
    (url : request.url = bytes "/content/" ++ text ++ bytes "/comments") :
    commentTest request =
      some (if text.length ≥ contentIdSize then .longContentId else .comment text) := by
  have path := delimited (by decide : (bytes "/comments").length = 9) url
  refine commentTest_eq_some.mpr ⟨⟨path.starts, ⟨post, ?_⟩, path.ends⟩, ?_⟩
  · rw [path.length]
    omega
  · rw [path.between, path.length, Nat.add_sub_cancel]

theorem Route.Serves.passed (serves : route.Serves text request) (listed : route ∈ endpointTable) :
    ∃ test ∈ route.tests, test request = some (route.endpoint text) := by
  simp only [endpointTable, List.mem_cons, List.not_mem_nil, or_false] at listed
  rcases listed with rfl | rfl | rfl | rfl | rfl | rfl | rfl | rfl | rfl | rfl | rfl | rfl | rfl
  · exact ⟨_, by simp [tests, fixedRoute, bodylessTests], fixedRoute_passed serves⟩
  · exact ⟨_, by simp [tests, fixedRoute, jsonTests], fixedRoute_passed serves⟩
  · exact ⟨_, by simp [tests, fixedRoute, jsonTests], fixedRoute_passed serves⟩
  · exact ⟨_, by simp [tests, fixedRoute, jsonTests], fixedRoute_passed serves⟩
  · exact ⟨_, by simp [tests, fixedRoute, bodylessTests], fixedRoute_passed serves⟩
  · exact ⟨_, by simp [tests, fixedRoute, bodylessTests], fixedRoute_passed serves⟩
  · exact ⟨favoriteTest 22 _ _, by simp [tests, favoriteRoute, bodylessTests],
      favoriteRoute_passed (by decide) serves⟩
  · exact ⟨_, by simp [tests, fixedRoute, bodylessTests], fixedRoute_passed serves⟩
  · exact ⟨favoriteTest 18 _ _, by simp [tests, favoriteRoute, bodylessTests],
      favoriteRoute_passed (by decide) serves⟩
  · exact ⟨_, by simp [tests, fixedRoute, jsonTests], fixedRoute_passed serves⟩
  · have short : ¬ text.length ≥ contentIdSize := Nat.not_le.mpr (Nat.lt_succ_of_le serves.admitted.2)
    refine ⟨likeTest, by simp [tests, contentRoute, jsonTests], ?_⟩
    rw [likeTest_of_changes (changes_of_listed serves.method) serves.admitted.1 serves.url,
      if_neg short]
    rfl
  · have short : ¬ text.length ≥ contentIdSize := Nat.not_le.mpr (Nat.lt_succ_of_le serves.admitted.2)
    obtain ⟨_, post, method⟩ := serves.method
    obtain rfl := List.mem_singleton.mp post
    refine ⟨commentTest, by simp [tests, contentRoute, jsonTests], ?_⟩
    rw [commentTest_of_post method serves.admitted.1 serves.url, if_neg short]
    rfl
  · exact ⟨_, by simp [tests, fixedRoute, bodylessTests], fixedRoute_passed serves⟩

theorem Route.mem_routeTests {test : RouteTest} (member : test ∈ route.tests) :
    test ∈ routeTests := by
  unfold tests at member
  split at member
  · exact List.mem_append_right _ member
  · exact List.mem_append_left _ member

/-- The endpoint of a test that is passed is reached, once a body that has to be
read was read. -/
theorem routed_of_passed {test : RouteTest} (member : test ∈ route.tests)
    (passed : test request = some endpoint) (accepts : route.Accepts request parsed) :
    (request.routed parsed).1 = endpoint := by
  have selected := select_of_passed (Route.mem_routeTests member) passed
  rw [routeTests, Selection.select_append] at selected
  rw [routed_eq, Request.routedBy.eq_def]
  cases bodyless : Selection.select bodylessTests request with
  | some found =>
      rw [bodyless, Option.some_or] at selected
      exact Option.some.inj selected
  | none =>
      rw [bodyless, Option.none_or] at selected
      have reads : route.parsesBody = true := by
        cases parses : route.parsesBody with
        | true => rfl
        | false =>
            rw [Route.tests, parses] at member
            have refused := List.findSome?_eq_none_iff.mp bodyless test member
            rw [passed] at refused
            cases refused
      rw [selected]
      cases expected : bodyExpected request with
      | false => rfl
      | true =>
          cases parsed with
          | none => exact absurd rfl (accepts reads expected)
          | some json => rfl

theorem fixedRoute_serves {method url : String} {parsesBody : Bool}
    (reached : request.At method url) :
    (fixedRoute method url parsesBody endpoint).Serves [] request where
  method := ⟨method, List.mem_singleton.mpr rfl, reached.method⟩
  url := by simpa [fixedRoute, bytes] using reached.url
  admitted := rfl

theorem listed_of_changes (changes : request.Changes) :
    ∃ method ∈ ["PUT", "DELETE"], request.method = bytes method := by
  rcases changes with put | delete
  · exact ⟨"PUT", by simp, put⟩
  · exact ⟨"DELETE", by simp, delete⟩

theorem favoriteRoute_serves {kind : PortalFavoriteKind} {before : String}
    (path : bytes kind.path ++ bytes "/" = bytes before) (changes : request.Changes)
    (url : request.url = bytes kind.path ++ bytes "/" ++ text) :
    (favoriteRoute before kind).Serves text request where
  method := listed_of_changes changes
  url := by
    rw [url, path]
    simp [favoriteRoute, bytes]
  admitted := trivial

theorem contentRoute_serves {methods : List String} {action : String} {reaches : Bytes → Endpoint}
    (listed : ∃ method ∈ methods, request.method = bytes method)
    (content : request.OnContent text action) (short : text.length ≤ 300) :
    (contentRoute methods action reaches).Serves text request where
  method := listed
  url := content.url
  admitted := ⟨List.length_pos_iff.mpr content.present, short⟩

/-- An endpoint of the table is reached by its row's requests only, and gets the
object their body was read as. -/
theorem serves_of_routes {json : Option Json} (routes : Routes request parsed endpoint json)
    (listed : route ∈ endpointTable) (plain : route.parameter = .absent → text = [])
    (reached : endpoint = route.endpoint text) :
    route.Serves text request ∧
      (route.parsesBody = true → json = if bodyExpected request then parsed else none) := by
  have posted : request.method = bytes "POST" → bodyExpected request = true := by
    intro post
    simp [bodyExpected, post]
  simp only [endpointTable, List.mem_cons, List.not_mem_nil, or_false] at listed
  rcases listed with rfl | rfl | rfl | rfl | rfl | rfl | rfl | rfl | rfl | rfl | rfl | rfl | rfl
  all_goals subst reached
  · cases routes with
    | health reached =>
        obtain rfl := plain rfl
        exact ⟨fixedRoute_serves reached, fun parses => absurd parses Bool.false_ne_true⟩
  · cases routes with
    | register reached same =>
        obtain rfl := plain rfl
        exact ⟨fixedRoute_serves reached, fun _ => same ▸ (if_pos (posted reached.method)).symm⟩
  · cases routes with
    | confirm reached same =>
        obtain rfl := plain rfl
        exact ⟨fixedRoute_serves reached, fun _ => same ▸ (if_pos (posted reached.method)).symm⟩
  · cases routes with
    | login reached same =>
        obtain rfl := plain rfl
        exact ⟨fixedRoute_serves reached, fun _ => same ▸ (if_pos (posted reached.method)).symm⟩
  · cases routes with
    | logout reached =>
        obtain rfl := plain rfl
        exact ⟨fixedRoute_serves reached, fun parses => absurd parses Bool.false_ne_true⟩
  · cases routes with
    | favoriteList reached =>
        obtain rfl := plain rfl
        exact ⟨fixedRoute_serves reached, fun parses => absurd parses Bool.false_ne_true⟩
  · cases routes with
    | favoriteChange changes url =>
        exact ⟨favoriteRoute_serves (by decide) changes url, fun parses => absurd parses Bool.false_ne_true⟩
  · cases routes with
    | favoriteList reached =>
        obtain rfl := plain rfl
        exact ⟨fixedRoute_serves reached, fun parses => absurd parses Bool.false_ne_true⟩
  · cases routes with
    | favoriteChange changes url =>
        exact ⟨favoriteRoute_serves (by decide) changes url, fun parses => absurd parses Bool.false_ne_true⟩
  · cases routes with
    | activity reached same =>
        obtain rfl := plain rfl
        exact ⟨fixedRoute_serves reached, fun _ => same ▸ (if_pos (posted reached.method)).symm⟩
  · cases routes with
    | like changes content short given =>
        exact ⟨contentRoute_serves (listed_of_changes changes) content short, fun _ => given⟩
  · cases routes with
    | comment post content short same =>
        exact ⟨contentRoute_serves ⟨"POST", List.mem_singleton.mpr rfl, post⟩ content short,
          fun _ => same ▸ (if_pos (posted post)).symm⟩
  · cases routes with
    | topContent reached =>
        obtain rfl := plain rfl
        exact ⟨fixedRoute_serves reached, fun parses => absurd parses Bool.false_ne_true⟩

/-! ### Requests behind no row -/

/-- An action on a content whose id is longer than the dispatcher's buffer. -/
def Request.NamesLongContent (request : Request) : Prop :=
  ∃ route ∈ endpointTable, ∃ text,
    route.parameter = .contentId ∧ 300 < text.length ∧ route.Fits text request

/-- A request that neither asks for the options nor fits a row. -/
structure Request.Unknown (request : Request) : Prop where
  method : request.method ≠ bytes "OPTIONS"
  unserved : ∀ route ∈ endpointTable, ∀ text, ¬ route.Serves text request

theorem Request.NamesLongContent.passed (long : request.NamesLongContent) :
    likeTest request = some .longContentId ∨ commentTest request = some .longContentId := by
  obtain ⟨route, listed, text, names, longer, fits⟩ := long
  have present : 1 ≤ text.length := by omega
  have full : text.length ≥ contentIdSize := longer
  simp only [endpointTable, List.mem_cons, List.not_mem_nil, or_false] at listed
  rcases listed with rfl | rfl | rfl | rfl | rfl | rfl | rfl | rfl | rfl | rfl | rfl | rfl | rfl
  case inr.inr.inr.inr.inr.inr.inr.inr.inr.inr.inl =>
    left
    rw [likeTest_of_changes (changes_of_listed fits.method) present fits.url, if_pos full]
  case inr.inr.inr.inr.inr.inr.inr.inr.inr.inr.inr.inl =>
    obtain ⟨_, post, method⟩ := fits.method
    obtain rfl := List.mem_singleton.mp post
    right
    rw [commentTest_of_post method present fits.url, if_pos full]
  all_goals cases names

/-- What a content test makes of a path that fits its row. -/
theorem content_served {methods : List String} {action : String} {size : Nat}
    {reaches : Bytes → Endpoint}
    (member : contentRoute methods action reaches ∈ endpointTable)
    (listed : ∃ method ∈ methods, request.method = bytes method)
    (content : request.OnContent ((request.url.drop 9).take ((request.url.drop 9).length - size))
      action)
    (made : (if (request.url.drop 9).length - size ≥ contentIdSize then .longContentId
      else reaches ((request.url.drop 9).take ((request.url.drop 9).length - size))) = endpoint) :
    (endpoint = .longContentId ∧ request.NamesLongContent) ∨
      ∃ route ∈ endpointTable, ∃ text, route.Serves text request := by
  have length : ((request.url.drop 9).take ((request.url.drop 9).length - size)).length =
      (request.url.drop 9).length - size := by
    rw [List.length_take]
    omega
  by_cases long : (request.url.drop 9).length - size ≥ contentIdSize
  · rw [if_pos long] at made
    exact .inl ⟨made.symm, _, member, _, rfl, by rw [length]; exact long, listed, content.url⟩
  · refine .inr ⟨_, member, _, contentRoute_serves listed content ?_⟩
    rw [length]
    exact Nat.le_of_lt_succ (Nat.not_le.mp long)

theorem served_of_passed {test : RouteTest} (member : test ∈ routeTests)
    (passed : test request = some endpoint) :
    request.method = bytes "OPTIONS" ∨ (endpoint = .longContentId ∧ request.NamesLongContent) ∨
      ∃ route ∈ endpointTable, ∃ text, route.Serves text request := by
  have fixed : ∀ (parsesBody : Bool) {method url : String} {selected : Endpoint},
      fixedTest method url selected request = some endpoint →
        fixedRoute method url parsesBody selected ∈ endpointTable →
          ∃ route ∈ endpointTable, ∃ text, route.Serves text request := by
    intro parsesBody method url selected passed listed
    exact ⟨_, listed, [], fixedRoute_serves (fixedTest_eq_some.mp passed).1⟩
  have favorite : ∀ {size : Nat} {before : String} {kind : PortalFavoriteKind},
      favoriteTest size before kind request = some endpoint →
        favoriteRoute before kind ∈ endpointTable →
          ∃ route ∈ endpointTable, ∃ text, route.Serves text request := by
    intro size before kind passed listed
    obtain ⟨⟨starts, changes⟩, _⟩ := favoriteTest_eq_some.mp passed
    refine ⟨_, listed, request.url.drop size, ⟨listed_of_changes changes, ?_⟩, trivial⟩
    calc request.url
        = request.url.take size ++ request.url.drop size := (List.take_append_drop size _).symm
      _ = bytes before ++ request.url.drop size ++ bytes "" := by
          rw [starts, show bytes "" = [] from rfl, List.append_nil]
  simp only [routeTests, bodylessTests, jsonTests, List.cons_append, List.nil_append,
    List.mem_cons, List.not_mem_nil, or_false] at member
  rcases member with rfl | rfl | rfl | rfl | rfl | rfl | rfl | rfl | rfl | rfl | rfl | rfl | rfl | rfl
  · exact .inl (Option.ite_none_right_eq_some.mp passed).1
  · exact .inr (.inr (fixed false passed (by simp [endpointTable])))
  · exact .inr (.inr (fixed false passed (by simp [endpointTable])))
  · exact .inr (.inr (fixed false passed (by simp [endpointTable])))
  · exact .inr (.inr (fixed false passed (by simp [endpointTable])))
  · exact .inr (.inr (fixed false passed (by simp [endpointTable])))
  · exact .inr (.inr (favorite passed (by simp [endpointTable])))
  · exact .inr (.inr (favorite passed (by simp [endpointTable])))
  · exact .inr (.inr (fixed true passed (by simp [endpointTable])))
  · exact .inr (.inr (fixed true passed (by simp [endpointTable])))
  · exact .inr (.inr (fixed true passed (by simp [endpointTable])))
  · exact .inr (.inr (fixed true passed (by simp [endpointTable])))
  · obtain ⟨⟨starts, ⟨changes, longer⟩, ends⟩, made⟩ := likeTest_eq_some.mp passed
    exact .inr (content_served (by simp [endpointTable]) (listed_of_changes changes)
      (onContent "/like" (by decide) starts longer ends) made)
  · obtain ⟨⟨starts, ⟨post, longer⟩, ends⟩, made⟩ := commentTest_eq_some.mp passed
    exact .inr (content_served (by simp [endpointTable])
      ⟨"POST", List.mem_singleton.mpr rfl, post⟩
      (onContent "/comments" (by decide) starts longer ends) made)

theorem Request.NamesLongContent.routed (long : request.NamesLongContent)
    (read : bodyExpected request = true → parsed ≠ none) :
    (request.routed parsed).1 = .longContentId := by
  have row (test : RouteTest) (member : test ∈ jsonTests) :
      test ∈ (contentRoute ["POST"] "/comments" .comment).tests := member
  rcases long.passed with like | comment
  · exact routed_of_passed (row likeTest (by simp [jsonTests])) like fun _ => read
  · exact routed_of_passed (row commentTest (by simp [jsonTests])) comment fun _ => read

/-- The body of an action on a content is read before its id is looked at. -/
theorem Request.NamesLongContent.bodyless (long : request.NamesLongContent) :
    Selection.select bodylessTests request = none := by
  rcases long.passed with like | comment
  · have ⟨⟨starts, ⟨changes, _⟩, _⟩, _⟩ := likeTest_eq_some.mp like
    exact bodylessTests_content starts changes.method_ne.1
  · have ⟨⟨starts, ⟨post, _⟩, _⟩, _⟩ := commentTest_eq_some.mp comment
    exact bodylessTests_content starts (by rw [post]; decide)

theorem routed_comments {contentId : Bytes} (post : request.method = bytes "POST")
    (content : request.OnContent contentId "/comments") :
    request.routed parsed =
      match parsed with
      | none => (.invalidJson, none)
      | some json =>
        (if contentId.length ≥ contentIdSize then .longContentId else .comment contentId,
          some json) := by
  have present : 1 ≤ contentId.length := List.length_pos_iff.mpr content.present
  have passed := commentTest_of_post post present content.url
  have starts : request.url.take 9 = bytes "/content/" := by
    rw [content.url, List.append_assoc, List.take_left' (by decide)]
  have bodyless := bodylessTests_content starts (by rw [post]; decide)
  have listed : commentTest ∈ routeTests := List.mem_append_right _ (by simp [jsonTests])
  have selected := select_of_passed listed passed
  rw [routeTests, Selection.select_append, bodyless, Option.none_or] at selected
  have expected : bodyExpected request = true := by simp [bodyExpected, post]
  rw [routed_eq, Request.routedBy.eq_def, bodyless, selected]
  cases parsed with
  | none => simp only [expected, ↓reduceIte]
  | some json => simp only [expected, ↓reduceIte, Option.getD_some]

theorem Request.Unknown.bodyless (unknown : request.Unknown) :
    Selection.select bodylessTests request = none := by
  cases bodyless : Selection.select bodylessTests request with
  | none => rfl
  | some found =>
      obtain ⟨test, member, passed⟩ := Selection.exists_of_select bodyless
      rcases served_of_passed (List.mem_append_left _ member) passed with options | long | served
      · exact absurd options unknown.method
      · rw [long.2.bodyless] at bodyless
        cases bodyless
      · obtain ⟨route, listed, text, serves⟩ := served
        exact absurd serves (unknown.unserved route listed text)

theorem Request.Unknown.routed (unknown : request.Unknown)
    (read : bodyExpected request = true → parsed ≠ none) (short : ¬ request.NamesLongContent) :
    (request.routed parsed).1 = .notFound := by
  have refused : Selection.select jsonTests request = none := by
    cases selected : Selection.select jsonTests request with
    | none => rfl
    | some found =>
        obtain ⟨test, member, passed⟩ := Selection.exists_of_select selected
        rcases served_of_passed (List.mem_append_right _ member) passed with options | long | served
        · exact absurd options unknown.method
        · exact absurd long.2 short
        · obtain ⟨route, listed, text, serves⟩ := served
          exact absurd serves (unknown.unserved route listed text)
  rw [routed_eq, Request.routedBy.eq_def, unknown.bodyless, refused]
  cases expected : bodyExpected request with
  | false => rfl
  | true =>
      cases parsed with
      | none => exact absurd rfl (read expected)
      | some json => rfl

theorem Request.Unknown.unread (unknown : request.Unknown) (expected : bodyExpected request = true) :
    (request.routed none).1 = .invalidJson := by
  rw [routed_eq, Request.routedBy.eq_def, unknown.bodyless]
  simp only [expected, ↓reduceIte]

end Table

/-- A request that is refused by the dispatcher itself. -/
theorem Service.serve_refused (service : Service) (call : Call) (world : World) {status : Nat}
    {code message : String}
    (refuses : ∀ json, (call.request.routed (service.parsed call)).1.handler service.context
      service.jsonC call.request json = portalHttpResponseError status code message) :
    (service.serve call world).2 = world ∧
      Answered call.environment (errorResponse status code message)
        (service.serve call world).1 := by
  have dispatched : service.dispatch call world =
      (portalHttpResponseError status code message).run
        (interpret service.postgres call.environment) world.exchange := by
    rw [Service.dispatch, run_httpDispatch, ← refuses]
    rfl
  simp only [Service.serve, dispatched, run_portalHttpResponseError, Exchange.answer_world]
  exact ⟨rfl, Exchange.answer_answered rfl (·.reports) _⟩

/-- The dispatcher against the table: `text` is the parameter in a request's path, and empty
where the row has none. -/
structure RoutingExact (service : Service) : Prop where
  dispatched : ∀ call world, service.dispatch call world =
    ((call.request.routed (service.parsed call)).1.handler service.context service.jsonC
      call.request (call.request.routed (service.parsed call)).2).run
        (interpret service.postgres call.environment) world.exchange
  entered : ∀ route ∈ endpointTable, ∀ text request parsed,
    (route.parameter = .absent → text = []) → route.Accepts request parsed →
      (route.Serves text request ↔ (request.routed parsed).1 = route.endpoint text)
  given : ∀ route ∈ endpointTable, ∀ text request parsed, route.Accepts request parsed →
    route.Serves text request → route.parsesBody = true →
      (request.routed parsed).2 = if bodyExpected request then parsed else none
  validated : ∀ route ∈ endpointTable, ∀ text request parsed, route.Accepts request parsed →
    route.Fits text request → route.parameter.Validates text →
      (request.routed parsed).1 = route.endpoint text
  long : ∀ (call : Call) world, call.request.NamesLongContent →
    (bodyExpected call.request = true → service.parsed call ≠ none) →
      (service.serve call world).2 = world ∧
        Answered call.environment (errorResponse 400 "validation_error" "Invalid content id.")
          (service.serve call world).1
  apart : ∀ route ∈ endpointTable, ∀ other ∈ endpointTable, ∀ text another request,
    route.Serves text request → other.Serves another request →
      route.endpoint text = other.endpoint another
  ordered : ∀ request parsed first second, first.Perm bodylessTests → second.Perm jsonTests →
    Request.routedBy request parsed first second = request.routed parsed
  mixed : ∀ request parsed first second, (first ++ second).Perm routeTests →
    (bodyExpected request = true → parsed ≠ none) →
      (Request.routedBy request parsed first second).1 = (request.routed parsed).1

section Exact

variable {request : Request} {parsed : Option Json} {route : Route} {text : Bytes}

theorem Route.Serves.routed (serves : route.Serves text request) (listed : route ∈ endpointTable)
    (accepts : route.Accepts request parsed) :
    (request.routed parsed).1 = route.endpoint text := by
  obtain ⟨test, member, passed⟩ := serves.passed listed
  exact routed_of_passed member passed accepts

theorem PathParameter.Validates.admits {parameter : PathParameter}
    (validates : parameter.Validates text) : parameter.Admits text := by
  cases parameter with
  | absent => exact validates
  | key => trivial
  | contentId =>
      obtain ⟨same, equal, positive, bounded, -⟩ := portalValidationKey_iff.mp validates
      obtain rfl := Option.some.inj equal
      exact ⟨positive, bounded⟩

/-- Once the body was read, the two lists of tests act as one. -/
theorem routedBy_read (read : bodyExpected request = true → parsed ≠ none)
    (first second : List RouteTest) :
    (request.routedBy parsed first second).1 =
      (Selection.select (first ++ second) request).getD .notFound := by
  rw [Request.routedBy.eq_def, Selection.select_append]
  cases Selection.select first request with
  | some endpoint => rfl
  | none =>
      cases expected : bodyExpected request with
      | false => rfl
      | true =>
          cases parsed with
          | none => exact absurd rfl (read expected)
          | some json => rfl

end Exact

theorem routing_exact (service : Service) : RoutingExact service where
  dispatched call world := by
    rw [Service.dispatch, run_httpDispatch]
    rfl
  entered route listed text request parsed plain accepts := by
    constructor
    · intro serves
      exact serves.routed listed accepts
    · intro reached
      exact (serves_of_routes routed_routes listed plain reached).1
  given route listed text request parsed accepts serves parses := by
    have plain : route.parameter = .absent → text = [] := by
      intro absent
      have admitted := serves.admitted
      rwa [absent] at admitted
    have reached := serves.routed listed accepts
    exact (serves_of_routes routed_routes listed plain reached).2 parses
  validated route listed text request parsed accepts fits validates := by
    have serves : route.Serves text request := ⟨fits, validates.admits⟩
    exact serves.routed listed accepts
  long call world long read := by
    apply service.serve_refused call world
    intro json
    rw [long.routed read]
    rfl
  apart route listed other member text another request serves also := by
    have read : ∀ row : Route, row.Accepts request (some Json.null) := by
      intro row _ _
      exact Option.some_ne_none _
    exact (serves.routed listed (read route)).symm.trans (also.routed member (read other))
  ordered request parsed first second before behind := by
    have bodyless : Selection.Agree bodylessTests request :=
      routeTests_agree.subset fun _ => List.mem_append_left jsonTests
    have reading : Selection.Agree jsonTests request :=
      routeTests_agree.subset fun _ => List.mem_append_right bodylessTests
    simp only [routed_eq, Request.routedBy.eq_def, Selection.select_perm bodyless before,
      Selection.select_perm reading behind]
  mixed request parsed first second order read := by
    rw [routed_eq, routedBy_read read, routedBy_read read,
      Selection.select_perm routeTests_agree order]
    rfl

/-! ### Unknown routes -/

/-- A request behind no row is refused without an effect: for a body that is no
JSON object, then for the length of a content id, then as not found. -/
theorem unknown_route_refused (service : Service) (call : Call) (world : World)
    (unknown : call.request.Unknown) :
    (service.serve call world).2 = world ∧
      (bodyExpected call.request = true → service.parsed call = none →
        Answered call.environment
          (errorResponse 400 "invalid_json" "A JSON object request body is required.")
          (service.serve call world).1) ∧
      ((bodyExpected call.request = true → service.parsed call ≠ none) →
        (call.request.NamesLongContent →
          Answered call.environment
            (errorResponse 400 "validation_error" "Invalid content id.")
            (service.serve call world).1) ∧
        (¬ call.request.NamesLongContent →
          Answered call.environment (errorResponse 404 "not_found" "Route not found.")
            (service.serve call world).1)) := by
  have unread (expected : bodyExpected call.request = true) (empty : service.parsed call = none) :
      (service.serve call world).2 = world ∧ Answered call.environment
        (errorResponse 400 "invalid_json" "A JSON object request body is required.")
        (service.serve call world).1 := by
    apply service.serve_refused call world
    intro json
    rw [empty, unknown.unread expected]
    rfl
  have long (read : bodyExpected call.request = true → service.parsed call ≠ none)
      (names : call.request.NamesLongContent) :
      (service.serve call world).2 = world ∧ Answered call.environment
        (errorResponse 400 "validation_error" "Invalid content id.")
        (service.serve call world).1 := by
    apply service.serve_refused call world
    intro json
    rw [names.routed read]
    rfl
  have missing (read : bodyExpected call.request = true → service.parsed call ≠ none)
      (short : ¬ call.request.NamesLongContent) :
      (service.serve call world).2 = world ∧ Answered call.environment
        (errorResponse 404 "not_found" "Route not found.") (service.serve call world).1 := by
    apply service.serve_refused call world
    intro json
    rw [unknown.routed read short]
    rfl
  refine ⟨?_, fun expected empty => (unread expected empty).2,
    fun read => ⟨fun names => (long read names).2, fun short => (missing read short).2⟩⟩
  by_cases empty : bodyExpected call.request = true ∧ service.parsed call = none
  · exact (unread empty.1 empty.2).1
  · have read : bodyExpected call.request = true → service.parsed call ≠ none :=
      fun expected absent => empty ⟨expected, absent⟩
    by_cases names : call.request.NamesLongContent
    · exact (long read names).1
    · exact (missing read names).1

theorem Request.NamesLongContent.unknown {request : Request} (long : request.NamesLongContent) :
    request.Unknown where
  method := by
    rcases long.passed with like | comment
    · have ⟨⟨_, ⟨changes, _⟩, _⟩, _⟩ := likeTest_eq_some.mp like
      exact changes.method_ne.1
    · have ⟨⟨_, ⟨post, _⟩, _⟩, _⟩ := commentTest_eq_some.mp comment
      rw [post]
      decide
  unserved route listed text serves := by
    have reached : (request.routed (some Json.null)).1 = route.endpoint text :=
      serves.routed listed fun _ _ => Option.some_ne_none _
    rw [long.routed fun _ => Option.some_ne_none _] at reached
    simp only [endpointTable, List.mem_cons, List.not_mem_nil, or_false] at listed
    rcases listed with rfl | rfl | rfl | rfl | rfl | rfl | rfl | rfl | rfl | rfl | rfl | rfl | rfl
    all_goals cases reached

theorem Request.unknown_of_refused {request : Request} (method : request.method ≠ bytes "OPTIONS")
    (refused : Selection.select routeTests request = none) : request.Unknown where
  method := method
  unserved route listed text serves := by
    obtain ⟨test, member, passed⟩ := serves.passed listed
    rw [select_of_passed (Route.mem_routeTests member) passed] at refused
    cases refused

namespace Reference

/-- A request for a path that no row has. -/
def nowhere (method : String) : Call where
  request := request method "/nowhere" none []
  environment := environment 1 0

/-- Taking back a like of a content with a long id. -/
def longUnlike : Call where
  request := {
    method := bytes "DELETE"
    url := bytes "/content/" ++ List.replicate 301 97 ++ bytes "/like"
    lookup := fun _ _ => none
    body := [] }
  environment := environment 1 0

theorem longUnlike_names : longUnlike.request.NamesLongContent := by
  have long : 300 < (List.replicate 301 (97 : UInt8)).length := by
    rw [List.length_replicate]
    decide
  exact ⟨_, List.mem_of_getElem? (i := 10) rfl, _, rfl, long,
    ⟨"DELETE", List.mem_of_getElem? (i := 1) rfl, rfl⟩, rfl⟩

end Reference

open Reference in
/-- A GET is told that there is no such route. -/
theorem unknown_route_refused_get :
    ((service []).serve (nowhere "GET") start).1 =
      some (errorResponse 404 "not_found" "Route not found.") := by
  have unknown : (nowhere "GET").request.Unknown := Request.unknown_of_refused (by decide) rfl
  have refused := unknown_route_refused (service []) (nowhere "GET") start unknown
  have short : ¬ (nowhere "GET").request.NamesLongContent := by
    intro long
    have like : likeTest (nowhere "GET").request = none := rfl
    have comment : commentTest (nowhere "GET").request = none := rfl
    simpa only [like, comment, reduceCtorEq, or_self] using long.passed
  exact ((refused.2.2 (by decide)).2 short).certain (environment_healthy 1 0)

open Reference in
/-- A POST without a body to the same path, and a long id, are told something else. -/
theorem unknown_route_unread :
    ((nowhere "POST").request.Unknown ∧ (nowhere "POST").environment.Healthy ∧
      (nowhere "POST").request.body.length ≤ 1048576 ∧
      ((service []).serve (nowhere "POST") start).1 =
        some (errorResponse 400 "invalid_json" "A JSON object request body is required.")) ∧
    (longUnlike.request.Unknown ∧ longUnlike.environment.Healthy ∧
      longUnlike.request.body.length ≤ 1048576 ∧
      ((service []).serve longUnlike start).1 =
        some (errorResponse 400 "validation_error" "Invalid content id.")) := by
  have unknown : (nowhere "POST").request.Unknown := Request.unknown_of_refused (by decide) rfl
  have unread := (service []).serve_refused (nowhere "POST") start fun _ => rfl
  have long := (service []).serve_refused longUnlike start fun json => by
    rw [longUnlike_names.routed (by decide)]
    rfl
  exact ⟨⟨unknown, environment_healthy 1 0, by decide, unread.2.certain (environment_healthy 1 0)⟩,
    longUnlike_names.unknown, environment_healthy 1 0, by decide,
    long.2.certain (environment_healthy 1 0)⟩

end PortalApi
