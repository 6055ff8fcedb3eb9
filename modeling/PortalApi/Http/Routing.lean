import PortalApi.Http.DispatchProperties
import PortalApi.Library.Selection

/-! The endpoint table of the README, and the tests of the dispatcher as one list:
a request passes the test of the endpoint whose row it fits, and no other. -/

set_option autoImplicit false

namespace PortalApi

open Library

abbrev RouteTest := Request → Option Endpoint

def optionsTest : RouteTest := fun request =>
  if request.method = bytes "OPTIONS" then some .options else none

/-- One method and one path. -/
def fixedTest (method url : String) (endpoint : Endpoint) : RouteTest := fun request =>
  if request.method = bytes method && request.url = bytes url then some endpoint else none

def favoriteTest (size : Nat) (before : String) (kind : PortalFavoriteKind) : RouteTest :=
  fun request =>
    if request.url.take size = bytes before &&
        (request.method = bytes "PUT" || request.method = bytes "DELETE") then
      some (.favoriteChange kind (request.url.drop size))
    else none

def likeTest : RouteTest := fun request =>
  let path := request.url.drop 9
  if request.url.take 9 = bytes "/content/" &&
      ((request.method = bytes "PUT" || request.method = bytes "DELETE") &&
        path.length > 5 && path.drop (path.length - 5) = bytes "/like") then
    some (if path.length - 5 ≥ contentIdSize then .longContentId
      else .like (path.take (path.length - 5)))
  else none

def commentTest : RouteTest := fun request =>
  let path := request.url.drop 9
  if request.url.take 9 = bytes "/content/" &&
      (request.method = bytes "POST" && path.length > 9 &&
        path.drop (path.length - 9) = bytes "/comments") then
    some (if path.length - 9 ≥ contentIdSize then .longContentId
      else .comment (path.take (path.length - 9)))
  else none

/-- The tests before the body is parsed, in the order of the source. -/
def bodylessTests : List RouteTest :=
  [optionsTest,
    fixedTest "GET" "/health" .health,
    fixedTest "GET" "/analytics/top-content" .topContent,
    fixedTest "GET" "/me/favorite-sections" (.favoriteList .favoriteSection),
    fixedTest "GET" "/me/favorite-tags" (.favoriteList .favoriteTag),
    fixedTest "DELETE" "/auth/session" .logout,
    favoriteTest 22 "/me/favorite-sections/" .favoriteSection,
    favoriteTest 18 "/me/favorite-tags/" .favoriteTag]

/-- The tests behind the body parser. -/
def jsonTests : List RouteTest :=
  [fixedTest "POST" "/auth/register" .register,
    fixedTest "POST" "/auth/confirm" .confirm,
    fixedTest "POST" "/auth/login" .login,
    fixedTest "POST" "/activity" .activity,
    likeTest,
    commentTest]

def routeTests : List RouteTest := bodylessTests ++ jsonTests

/-- The dispatcher over two lists of tests, with the body parsed between them. -/
def Request.routedBy (request : Request) (parsed : Option Json) (first second : List RouteTest) :
    Endpoint × Option Json :=
  match Selection.select first request with
  | some endpoint => (endpoint, none)
  | none =>
    if bodyExpected request then
      match parsed with
      | none => (.invalidJson, none)
      | some json => ((Selection.select second request).getD .notFound, some json)
    else ((Selection.select second request).getD .notFound, none)

section Tests

variable {request : Request} {parsed : Option Json} {endpoint : Endpoint}

theorem ite_some_or {α : Type} (condition : Prop) [Decidable condition] (value : α)
    (rest : Option α) :
    (if condition then some value else none).or rest = if condition then some value else rest := by
  split <;> rfl

theorem bodylessEndpoint_eq :
    request.bodylessEndpoint = Selection.select bodylessTests request := by
  simp only [bodylessTests, Selection.select_cons, Selection.select_nil, optionsTest, fixedTest,
    favoriteTest, ite_some_or, Request.bodylessEndpoint]

theorem jsonEndpoint_eq :
    request.jsonEndpoint = (Selection.select jsonTests request).getD .notFound := by
  simp only [jsonTests, Selection.select_cons, Selection.select_nil, fixedTest, likeTest,
    commentTest, ite_some_or, Request.jsonEndpoint, Request.contentEndpoint]
  split
  · rfl
  split
  · rfl
  split
  · rfl
  split
  · rfl
  split
  · next start =>
      simp only [start, decide_true, Bool.true_and]
      split
      · split <;> rfl
      split
      · split <;> rfl
      · rfl
  · next start =>
      simp only [start, decide_false, Bool.false_and, Bool.false_eq_true, ↓reduceIte]
      rfl

/-- The dispatcher tries the tests in the order of the source. -/
theorem routed_eq : request.routed parsed = request.routedBy parsed bodylessTests jsonTests := by
  rw [Request.routed.eq_def, bodylessEndpoint_eq, jsonEndpoint_eq]
  rfl

/-! ### No two tests disagree -/

theorem fixedTest_eq_some {method url : String} {selected : Endpoint} :
    fixedTest method url selected request = some endpoint ↔
      request.At method url ∧ selected = endpoint := by
  simp only [fixedTest, Bool.and_eq_true, decide_eq_true_eq, Option.ite_none_right_eq_some,
    Option.some.injEq]
  exact and_congr_left fun _ => ⟨fun both => ⟨both.1, both.2⟩, fun at_ => ⟨at_.method, at_.url⟩⟩

theorem favoriteTest_eq_some {size : Nat} {before : String} {kind : PortalFavoriteKind} :
    favoriteTest size before kind request = some endpoint ↔
      (request.url.take size = bytes before ∧ request.Changes) ∧
        .favoriteChange kind (request.url.drop size) = endpoint := by
  simp only [favoriteTest, Bool.and_eq_true, Bool.or_eq_true, decide_eq_true_eq,
    Option.ite_none_right_eq_some, Option.some.injEq, Request.Changes]

/-- A path that starts in one way does not start in another. -/
theorem take_congr {text first second : Bytes} {size other : Nat} (starts : text.take size = first)
    (also : text.take other = second) : first.take other = second.take size := by
  rw [← starts, ← also, List.take_take, List.take_take, Nat.min_comm]

theorem optionsTest_refuses (other : request.method ≠ bytes "OPTIONS") :
    optionsTest request = none := if_neg other

section Refusals

variable {size : Nat} {start : Bytes}

theorem fixedTest_refuses {method url : String} {selected : Endpoint}
    (other : request.method ≠ bytes method) : fixedTest method url selected request = none := by
  simp [fixedTest, other]

theorem fixedTest_elsewhere {method url : String} {selected : Endpoint}
    (starts : request.url.take size = start) (other : (bytes url).take size ≠ start) :
    fixedTest method url selected request = none := by
  have apart : request.url ≠ bytes url := by
    intro same
    exact other (same ▸ starts)
  simp [fixedTest, apart]

theorem favoriteTest_elsewhere {length : Nat} {before : String} {kind : PortalFavoriteKind}
    (starts : request.url.take size = start) (other : (bytes before).take size ≠ start.take length) :
    favoriteTest length before kind request = none := by
  have apart : request.url.take length ≠ bytes before :=
    fun same => other (take_congr same starts)
  simp [favoriteTest, apart]

theorem likeTest_refuses (other : ¬ request.Changes) : likeTest request = none := by
  simp only [Request.Changes, not_or] at other
  simp [likeTest, other]

end Refusals

theorem Request.Changes.method_ne (changes : request.Changes) :
    request.method ≠ bytes "OPTIONS" ∧ request.method ≠ bytes "GET" ∧
      request.method ≠ bytes "POST" := by
  rcases changes with method | method
  · rw [method]
    decide
  · rw [method]
    decide

/-- A fixed path is tested the same way whatever else the request carries. -/
theorem select_fixed {method url : String} {selected : Endpoint}
    (closed : ∀ lookup body, Selection.select routeTests
      { method := bytes method, url := bytes url, lookup, body } = some selected)
    (passed : fixedTest method url selected request = some endpoint) :
    Selection.select routeTests request = some endpoint := by
  obtain ⟨reached, rfl⟩ := fixedTest_eq_some.mp passed
  obtain ⟨_, _, lookup, body⟩ := request
  obtain ⟨rfl, rfl⟩ := reached
  exact closed lookup body

theorem select_options (passed : optionsTest request = some endpoint) :
    Selection.select routeTests request = some endpoint := by
  simp only [routeTests, bodylessTests, List.cons_append, Selection.select_cons, passed,
    Option.some_or]

theorem select_favorite {size : Nat} {before : String} {kind : PortalFavoriteKind}
    (listed : (size, before, kind) = (22, "/me/favorite-sections/", .favoriteSection) ∨
      (size, before, kind) = (18, "/me/favorite-tags/", .favoriteTag))
    (passed : favoriteTest size before kind request = some endpoint) :
    Selection.select routeTests request = some endpoint := by
  have ⟨⟨starts, changes⟩, _⟩ := favoriteTest_eq_some.mp passed
  obtain ⟨options, get, _⟩ := changes.method_ne
  rcases listed with same | same
  · obtain ⟨rfl, rfl, rfl⟩ := same
    have logout : fixedTest "DELETE" "/auth/session" .logout request = none :=
      fixedTest_elsewhere starts (by decide)
    simp only [routeTests, bodylessTests, List.cons_append, Selection.select_cons, passed,
      optionsTest_refuses options, fixedTest_refuses get, logout, Option.none_or, Option.some_or]
  · obtain ⟨rfl, rfl, rfl⟩ := same
    have logout : fixedTest "DELETE" "/auth/session" .logout request = none :=
      fixedTest_elsewhere starts (by decide)
    have sections : favoriteTest 22 "/me/favorite-sections/" .favoriteSection request = none :=
      favoriteTest_elsewhere starts (by decide)
    simp only [routeTests, bodylessTests, List.cons_append, Selection.select_cons, passed,
      optionsTest_refuses options, fixedTest_refuses get, logout, sections, Option.none_or,
      Option.some_or]

/-- No test before the body is parsed is passed on a content. -/
theorem bodylessTests_content (starts : request.url.take 9 = bytes "/content/")
    (known : request.method ≠ bytes "OPTIONS") : Selection.select bodylessTests request = none := by
  have health : fixedTest "GET" "/health" .health request = none :=
    fixedTest_elsewhere starts (by decide)
  have topContent : fixedTest "GET" "/analytics/top-content" .topContent request = none :=
    fixedTest_elsewhere starts (by decide)
  have sections : fixedTest "GET" "/me/favorite-sections" (.favoriteList .favoriteSection) request =
      none := fixedTest_elsewhere starts (by decide)
  have tags : fixedTest "GET" "/me/favorite-tags" (.favoriteList .favoriteTag) request = none :=
    fixedTest_elsewhere starts (by decide)
  have logout : fixedTest "DELETE" "/auth/session" .logout request = none :=
    fixedTest_elsewhere starts (by decide)
  have oneSection : favoriteTest 22 "/me/favorite-sections/" .favoriteSection request = none :=
    favoriteTest_elsewhere starts (by decide)
  have oneTag : favoriteTest 18 "/me/favorite-tags/" .favoriteTag request = none :=
    favoriteTest_elsewhere starts (by decide)
  simp only [bodylessTests, Selection.select_cons, Selection.select_nil,
    optionsTest_refuses known, health, topContent, sections, tags, logout, oneSection, oneTag,
    Option.none_or]

theorem likeTest_eq_some :
    likeTest request = some endpoint ↔
      (request.url.take 9 = bytes "/content/" ∧ (request.Changes ∧
        5 < (request.url.drop 9).length) ∧
        (request.url.drop 9).drop ((request.url.drop 9).length - 5) = bytes "/like") ∧
      (if (request.url.drop 9).length - 5 ≥ contentIdSize then .longContentId
        else .like ((request.url.drop 9).take ((request.url.drop 9).length - 5))) = endpoint := by
  simp only [likeTest, Bool.and_eq_true, Bool.or_eq_true, decide_eq_true_eq, gt_iff_lt,
    Option.ite_none_right_eq_some, Option.some.injEq, Request.Changes]

theorem commentTest_eq_some :
    commentTest request = some endpoint ↔
      (request.url.take 9 = bytes "/content/" ∧ (request.method = bytes "POST" ∧
        9 < (request.url.drop 9).length) ∧
        (request.url.drop 9).drop ((request.url.drop 9).length - 9) = bytes "/comments") ∧
      (if (request.url.drop 9).length - 9 ≥ contentIdSize then .longContentId
        else .comment ((request.url.drop 9).take ((request.url.drop 9).length - 9))) = endpoint := by
  simp only [commentTest, Bool.and_eq_true, decide_eq_true_eq, gt_iff_lt,
    Option.ite_none_right_eq_some, Option.some.injEq]

theorem select_content (starts : request.url.take 9 = bytes "/content/")
    (known : request.method ≠ bytes "OPTIONS") :
    Selection.select routeTests request = (likeTest request).or (commentTest request) := by
  have register : fixedTest "POST" "/auth/register" .register request = none :=
    fixedTest_elsewhere starts (by decide)
  have confirm : fixedTest "POST" "/auth/confirm" .confirm request = none :=
    fixedTest_elsewhere starts (by decide)
  have login : fixedTest "POST" "/auth/login" .login request = none :=
    fixedTest_elsewhere starts (by decide)
  have activity : fixedTest "POST" "/activity" .activity request = none :=
    fixedTest_elsewhere starts (by decide)
  simp only [routeTests, Selection.select_append, bodylessTests_content starts known, jsonTests,
    Selection.select_cons, Selection.select_nil, register, confirm, login, activity,
    Option.none_or, Option.or_none]

theorem select_like (passed : likeTest request = some endpoint) :
    Selection.select routeTests request = some endpoint := by
  have ⟨⟨starts, ⟨changes, _⟩, _⟩, _⟩ := likeTest_eq_some.mp passed
  rw [select_content starts changes.method_ne.1, passed, Option.some_or]

theorem select_comment (passed : commentTest request = some endpoint) :
    Selection.select routeTests request = some endpoint := by
  have ⟨⟨starts, ⟨post, _⟩, _⟩, _⟩ := commentTest_eq_some.mp passed
  have unchanging : ¬ request.Changes := fun changes => changes.method_ne.2.2 post
  have known : request.method ≠ bytes "OPTIONS" := by
    rw [post]
    decide
  rw [select_content starts known, likeTest_refuses unchanging, passed, Option.none_or]

/-- A test that is passed is the first one. -/
theorem select_of_passed {test : RouteTest} (member : test ∈ routeTests)
    (passed : test request = some endpoint) :
    Selection.select routeTests request = some endpoint := by
  simp only [routeTests, bodylessTests, jsonTests, List.cons_append, List.nil_append,
    List.mem_cons, List.not_mem_nil, or_false] at member
  rcases member with rfl | rfl | rfl | rfl | rfl | rfl | rfl | rfl | rfl | rfl | rfl | rfl | rfl | rfl
  · exact select_options passed
  · exact select_fixed (fun _ _ => rfl) passed
  · exact select_fixed (fun _ _ => rfl) passed
  · exact select_fixed (fun _ _ => rfl) passed
  · exact select_fixed (fun _ _ => rfl) passed
  · exact select_fixed (fun _ _ => rfl) passed
  · exact select_favorite (.inl rfl) passed
  · exact select_favorite (.inr rfl) passed
  · exact select_fixed (fun _ _ => rfl) passed
  · exact select_fixed (fun _ _ => rfl) passed
  · exact select_fixed (fun _ _ => rfl) passed
  · exact select_fixed (fun _ _ => rfl) passed
  · exact select_like passed
  · exact select_comment passed

theorem routeTests_agree : Selection.Agree routeTests request := by
  intro first inFirst second inSecond left right passed also
  have selected := select_of_passed inFirst passed
  rw [select_of_passed inSecond also] at selected
  exact (Option.some.inj selected).symm

end Tests

end PortalApi
