import Mathlib.Order.Interval.Finset.Nat
import PortalApi.Actions
import PortalApi.AnalyticsArguments
import PortalApi.StatementTotality

/-! The top content of a portal is the exact top of the counts of its view log. -/

set_option autoImplicit false

namespace PortalApi

open Library

/-- A view of this content in the portal, at or after the time. -/
structure Viewed (portalKey : Bytes) (since : Time) (content : Bytes) (event : ActivityEventRow) :
    Prop where
  portal : event.portalKey = portalKey
  content : event.contentId = some content
  view : event.eventType = bytes "content_view" ∨ event.eventType = bytes "page_view"
  recent : since ≤ event.occurredAt

/-- Of another portal, of another type or without a content. -/
def Overlooked (portalKey : Bytes) (event : ActivityEventRow) : Prop :=
  event.portalKey ≠ portalKey ∨ event.contentId = none ∨
    (event.eventType ≠ bytes "content_view" ∧ event.eventType ≠ bytes "page_view")

section Views

variable {portalKey content other : Bytes} {since : Time} {event : ActivityEventRow}
  {events others : List ActivityEventRow}

theorem viewed_iff : Viewed portalKey since content event ↔
    event.portalKey = portalKey ∧ event.contentId = some content ∧
      (event.eventType = bytes "content_view" ∨ event.eventType = bytes "page_view") ∧
      since ≤ event.occurredAt :=
  ⟨fun ⟨portal, content, view, recent⟩ => ⟨portal, content, view, recent⟩,
    fun ⟨portal, content, view, recent⟩ => ⟨portal, content, view, recent⟩⟩

instance : Decidable (Viewed portalKey since content event) :=
  decidable_of_iff _ viewed_iff.symm

/-- How often each content was viewed. -/
def viewCount (portalKey : Bytes) (since : Time) (events : List ActivityEventRow)
    (content : Bytes) : Nat :=
  events.countP fun event => Viewed portalKey since content event

theorem Viewed.content_eq (viewed : Viewed portalKey since content event)
    (also : Viewed portalKey since other event) : content = other :=
  Option.some.inj (viewed.content.symm.trans also.content)

theorem Overlooked.not_viewed (overlooked : Overlooked portalKey event) :
    ¬ Viewed portalKey since content event := by
  intro viewed
  rcases overlooked with portal | missing | ⟨content, page⟩
  · exact portal viewed.portal
  · cases missing.symm.trans viewed.content
  · exact viewed.view.elim content page

theorem viewCount_append : viewCount portalKey since (events ++ others) content =
    viewCount portalKey since events content + viewCount portalKey since others content :=
  List.countP_append

theorem viewCount_overlooked (overlooked : ∀ event ∈ events, Overlooked portalKey event) :
    viewCount portalKey since events content = 0 := by
  rw [viewCount, List.countP_eq_zero]
  intro event member
  simpa using (overlooked event member).not_viewed

theorem viewCount_viewed (viewed : Viewed portalKey since content event) :
    viewCount portalKey since [event] content = 1 := by
  simp [viewCount, viewed]

theorem viewCount_apart (viewed : Viewed portalKey since content event) (apart : other ≠ content) :
    viewCount portalKey since [event] other = 0 := by
  have unviewed : ¬ Viewed portalKey since other event :=
    fun also => apart (also.content_eq viewed)
  simp [viewCount, unviewed]

/-- What the counts read of an event. -/
def ActivityEventRow.seen (event : ActivityEventRow) : Bytes × Option Bytes × Bytes × Time :=
  (event.portalKey, event.contentId, event.eventType, event.occurredAt)

theorem viewCount_reordered (same : (events.map (·.seen)).Perm (others.map (·.seen))) :
    viewCount portalKey since events content = viewCount portalKey since others content := by
  have read : ∀ log : List ActivityEventRow, viewCount portalKey since log content =
      (log.map (·.seen)).countP fun seen => seen.1 = portalKey ∧ seen.2.1 = some content ∧
        (seen.2.2.1 = bytes "content_view" ∨ seen.2.2.1 = bytes "page_view") ∧
        since ≤ seen.2.2.2 := by
    intro log
    rw [List.countP_map, viewCount]
    apply List.countP_congr
    intro event _
    simp [viewed_iff, ActivityEventRow.seen]
  rw [read, read]
  exact same.countP_eq _

theorem count_countedView {now : Time} {days : Int} :
    ((events.filter (countedView now portalKey days)).filterMap (·.contentId)).count content =
      viewCount portalKey (now - days * day) events content := by
  rw [List.count, List.countP_filterMap, List.countP_filter, viewCount]
  apply List.countP_congr
  intro event _
  cases named : event.contentId with
  | none => simp [viewed_iff, named]
  | some found =>
      simp only [countedView, named, Option.map_some, Option.getD_some, Option.isSome_some,
        Bool.and_true, Bool.and_eq_true, Bool.or_eq_true, decide_eq_true_eq, beq_iff_eq,
        viewed_iff, Option.some.injEq, ge_iff_le]
      constructor
      · intro counts
        obtain ⟨same, ⟨portal, view⟩, recent⟩ := counts
        exact ⟨portal, same, view, recent⟩
      · intro views
        obtain ⟨portal, same, view, recent⟩ := views
        exact ⟨same, ⟨portal, view⟩, recent⟩

end Views

/-- The identities of the events are values of their `BIGINT` column's sequence. -/
def Database.Identified (database : Database) : Prop :=
  ∀ event ∈ database.activityEvents, 1 ≤ event.id ∧ event.id < 2 ^ 63

/-- An item of the response: a content with its views. -/
def viewsItem (entry : Bytes × Nat) : Json :=
  .object [(bytes "content_id", .string entry.1), (bytes "views", .int entry.2)]

/-- The response that lists these contents with their views. -/
def topContentResponse (portalKey : Bytes) (days : Int) (ranked : List (Bytes × Nat)) : Response :=
  jsonResponse 200 (topContentJson portalKey days (ranked.map viewsItem))

section Query

variable {postgres : Postgres} {transaction : Transaction} {database : Database}
  {range : TopContentRange} {portalKey : Bytes}

/-- There are fewer events than identities. -/
theorem Database.Identified.length (identified : database.Identified)
    (valid : database.Valid postgres.lower) : database.activityEvents.length < 2 ^ 63 := by
  have inside : (database.activityEvents.map (·.id)).toFinset ⊆ Finset.Ico 1 (2 ^ 63) := by
    intro id member
    obtain ⟨event, stored, rfl⟩ := List.mem_map.mp (List.mem_toFinset.mp member)
    exact Finset.mem_Ico.mpr (identified event stored)
  have fewer := Finset.card_le_card inside
  rw [List.toFinset_card_of_nodup valid.eventIds, List.length_map, Nat.card_Ico] at fewer
  omega

theorem viewCount_bounded (identified : database.Identified)
    (valid : database.Valid postgres.lower) (since : Time) (content : Bytes) :
    viewCount portalKey since database.activityEvents content < 2 ^ 63 :=
  Nat.lt_of_le_of_lt List.countP_le_length (identified.length valid)

theorem strtol_decimal {number : Nat} (bounded : number < 2 ^ 63) :
    (strtol (decimal number)).value = number := by
  have denotes : Denotes (decimal number) number := by
    have natural : (0 : Int) ≤ number := Int.natCast_nonneg number
    simpa using decimal_denotes natural
  exact (strtol_iff.mpr ⟨denotes, by omega, by omega⟩).2.2.2

/-- The contents that the query's events are about, one for each event. -/
def countedContents (now : Time) (portalKey : Bytes) (days : Int)
    (events : List ActivityEventRow) : List Bytes :=
  (events.filter (countedView now portalKey days)).filterMap (·.contentId)

/-- The rows of the query are the top of these contents. -/
theorem execute_topContent (lawful : postgres.Lawful) {request : Request}
    (read : topContentRange request = some range) {outcome : PgResult × Database}
    (ran : execute postgres transaction (range.statement portalKey) database = .ok outcome) :
    outcome.1.rows = (Ranking.top postgres.textLe range.limit.toNat
      (countedContents transaction.now portalKey range.days database.activityEvents)).map
        fun entry => [entry.1, decimal entry.2] := by
  obtain ⟨⟨daysLow, days⟩, limitLow, limit⟩ := TopContentRange.bounds read
  have readDays : castInt4 postgres (decimal range.days.toNat) = .ok range.days := by
    rw [castInt4_eq_ok, lawful.int4In_decimal _ (by omega), Int.toNat_of_nonneg (by omega)]
  have readLimit : castInt4 postgres (decimal range.limit.toNat) = .ok range.limit := by
    rw [castInt4_eq_ok, lawful.int4In_decimal _ (by omega), Int.toNat_of_nonneg (by omega)]
  have executed := (execute_eq_ok.mp ran).2
  simp only [TopContentRange.statement, executeConverted, executeTopContent, readDays, readLimit]
    at executed
  obtain rfl := Except.ok.inj executed
  rfl

theorem map_topContentItem {ranked : List (Bytes × Nat)}
    (bounded : ∀ entry ∈ ranked, entry.2 < 2 ^ 63) {outcome : PgResult}
    (rows : outcome.rows = ranked.map fun entry => [entry.1, decimal entry.2]) :
    (List.range outcome.rows.length).map (topContentItem (some outcome)) =
      ranked.map viewsItem := by
  apply List.ext_getElem
  · simp [rows]
  · intro index low high
    have inside : index < ranked.length := by simpa using high
    have printed := strtol_decimal (bounded _ (List.getElem_mem inside))
    simp [topContentItem, viewsItem, portalDatabaseResultValue, rows, inside, printed]

end Query

/-- A top-content request of a user for a valid portal, these days and this limit. -/
structure QueriesTop (service : Service) (call : Call) (world : World) (portalKey : Bytes)
    (days limit : Int) : Prop where
  asks : AsksTopContent service call world portalKey
  days : Accepted (call.request.lookup .getArgument "days") 7 1 365 days
  limit : Accepted (call.request.lookup .getArgument "limit") 10 1 100 limit

/-- How often each content was viewed in the days before the request is served. -/
def Service.views (service : Service) (call : Call) (world : World) (portalKey : Bytes)
    (days : Int) : Bytes → Nat :=
  viewCount portalKey ((service.serve call world).2.clock - days * day) world.database.activityEvents

/-- The events that the request records. -/
def Service.recorded (service : Service) (call : Call) (world : World) : List ActivityEventRow :=
  (service.serve call world).2.database.activityEvents.drop world.database.activityEvents.length

/-- If both requests are answered with a list, then with the same. -/
def Service.ListsSame (service : Service) (call : Call) (world : World) (second : Call)
    (other : World) : Prop :=
  ∀ response answer, (service.serve call world).1 = some response → response.status = 200 →
    (service.serve second other).1 = some answer → answer.status = 200 → answer = response

section Requests

variable {service : Service} {call : Call} {world : World} {portalKey : Bytes} {days limit : Int}

theorem QueriesTop.read (queries : QueriesTop service call world portalKey days limit) :
    topContentRange call.request = some ⟨days, limit⟩ :=
  topContentRange_iff.mpr ⟨queries.days, queries.limit⟩

/-- The contents that the query of this request groups. -/
def Service.counted (service : Service) (call : Call) (world : World) (portalKey : Bytes)
    (days : Int) : List Bytes :=
  countedContents (service.serve call world).2.clock portalKey days world.database.activityEvents

theorem Service.count_counted (content : Bytes) :
    (service.counted call world portalKey days).count content =
      service.views call world portalKey days content :=
  count_countedView

theorem QueriesTop.serve_listed (queries : QueriesTop service call world portalKey days limit)
    (lawful : service.postgres.Lawful) (orders : Ranking.LinearlyOrders service.postgres.textLe)
    (valid : world.database.Valid service.postgres.lower) (identified : world.database.Identified)
    {response : Response} (reply : (service.serve call world).1 = some response)
    (status : response.status = 200) :
    response = topContentResponse portalKey days (Ranking.top service.postgres.textLe limit.toNat
      (service.counted call world portalKey days)) := by
  have ends := queries.asks.ends lawful valid
  rw [reply] at ends
  cases ends with
  | unauthorized _ answered => simp [answered.reply_eq rfl, unauthorizedResponse] at status
  | invalidPortal _ _ answered => simp [answered.reply_eq rfl] at status
  | invalidRange _ _ _ answered => simp [answered.reply_eq rfl] at status
  | failed _ _ _ _ _ answered => simp [answered.reply_eq rfl] at status
  | listed admitted portal _ read _ committed answered =>
      obtain rfl := Option.some.inj (queries.asks.portal.symm.trans portal)
      obtain rfl := Option.some.inj (queries.read.symm.trans read)
      have rows := execute_topContent lawful read committed.executed
      rw [committed.now, admitted.kept.database] at rows
      have bounded : ∀ entry ∈ Ranking.top service.postgres.textLe limit.toNat
          (service.counted call world portalKey days), entry.2 < 2 ^ 63 := by
        intro entry member
        rw [((Ranking.top_spec orders _ _).counted entry member).2, Service.count_counted]
        exact viewCount_bounded identified valid _ _
      rw [answered.reply_eq rfl, map_topContentItem bounded rows]
      rfl

theorem QueriesTop.serve_answered (queries : QueriesTop service call world portalKey days limit)
    (lawful : service.postgres.Lawful) (valid : world.database.Valid service.postgres.lower)
    (smooth : world.Smooth call.environment) :
    ∃ response, (service.serve call world).1 = some response ∧ response.status = 200 := by
  have ends := queries.asks.ends lawful valid
  cases ends with
  | unauthorized refused _ =>
      obtain ⟨token, session, user, presented, live, _⟩ :=
        (Service.authenticate_iff_live lawful valid smooth).mp (Prod.ext queries.asks.authenticated rfl)
      exact absurd live ((refused.stranger smooth).2 token session user presented)
  | invalidPortal _ refused _ => simp [queries.asks.portal, queries.asks.valid] at refused
  | invalidRange _ _ refused _ => cases queries.read.symm.trans refused
  | failed admitted _ accepted read failed _ =>
      obtain ⟨_, _, _, _, _, refused, _⟩ := failed.cause ⟨smooth.healthy, admitted.connection⟩
      obtain ⟨outcome, ran⟩ := TopContentRange.execute_total lawful read accepted
      cases ran.symm.trans refused
  | listed _ _ _ _ _ _ answered => exact ⟨_, answered.certain smooth.healthy, rfl⟩

theorem QueriesTop.listsSame (queries : QueriesTop service call world portalKey days limit)
    (lawful : service.postgres.Lawful) (orders : Ranking.LinearlyOrders service.postgres.textLe)
    (valid : world.database.Valid service.postgres.lower) (identified : world.database.Identified)
    {second : Call} {other : World} (also : QueriesTop service second other portalKey days limit)
    (otherValid : other.database.Valid service.postgres.lower)
    (otherIdentified : other.database.Identified)
    (counts : ∀ content, service.views second other portalKey days content =
      service.views call world portalKey days content) :
    service.ListsSame call world second other := by
  intro response answer reply status otherReply otherStatus
  have same : Ranking.top service.postgres.textLe limit.toNat
      (service.counted second other portalKey days) = Ranking.top service.postgres.textLe limit.toNat
        (service.counted call world portalKey days) := by
    apply Ranking.top_congr orders
    intro content
    rw [Service.count_counted, Service.count_counted, counts]
  rw [queries.serve_listed lawful orders valid identified reply status,
    also.serve_listed lawful orders otherValid otherIdentified otherReply otherStatus, same]

theorem Service.activityEvents_recorded (lawful : service.postgres.Lawful)
    (valid : world.database.Valid service.postgres.lower) :
    (service.serve call world).2.database.activityEvents =
        world.database.activityEvents ++ service.recorded call world ∧
      (service.recorded call world).length ≤ 1 := by
  have appended : ∃ events : List ActivityEventRow, events.length ≤ 1 ∧
      (service.serve call world).2.database.activityEvents =
        world.database.activityEvents ++ events := by
    have effect := (service.serve_effect call lawful valid).actions
    cases effect with
    | @recorded _ _ event _ _ recorded =>
        exact ⟨[event], Nat.le_refl 1, by rw [recorded.database]⟩
    | liked liked => exact ⟨[_], Nat.le_refl 1, by rw [liked.database]⟩
    | likePresent _ _ _ _ same => exact ⟨[], Nat.zero_le 1, by rw [same, List.append_nil]⟩
    | unliked _ _ database =>
        exact ⟨[], Nat.zero_le 1, by rw [database, Database.unlike, List.append_nil]⟩
    | commented commented => exact ⟨[_], Nat.le_refl 1, by rw [commented.database]⟩
    | inactive inactive =>
        exact ⟨[], Nat.zero_le 1, by rw [inactive.activityEvents, List.append_nil]⟩
  obtain ⟨events, short, same⟩ := appended
  have found : service.recorded call world = events := by
    rw [Service.recorded, same, List.drop_left]
  rw [found]
  exact ⟨same, short⟩

end Requests

/-- What a top-content request is answered with, and what this depends on. -/
structure TopContentExact (service : Service) (admits : Environment → Prop) (call : Call)
    (world : World) (portalKey : Bytes) (days limit : Int) : Prop where
  answered : world.Smooth call.environment →
    ∃ response, (service.serve call world).1 = some response ∧ response.status = 200
  exact : ∀ response, (service.serve call world).1 = some response → response.status = 200 →
    ∃ ranked, response = topContentResponse portalKey days ranked ∧
      Ranking.Top service.postgres.textLe limit.toNat (service.views call world portalKey days) ranked
  determined : ∀ (entries : List Service.Entry) (other : World) (second : Call),
    service.Run admits entries other → other.database.Identified →
    QueriesTop service second other portalKey days limit →
    (∀ content, service.views second other portalKey days content =
      service.views call world portalKey days content) →
    service.ListsSame call world second other
  reordered : ∀ (entries : List Service.Entry) (other : World) (second : Call),
    service.Run admits entries other → other.database.Identified →
    QueriesTop service second other portalKey days limit →
    (service.serve second other).2.clock = (service.serve call world).2.clock →
    (other.database.activityEvents.map (·.seen)).Perm (world.database.activityEvents.map (·.seen)) →
    service.ListsSame call world second other
  unaffected : ∀ record second : Call, admits record.environment →
    (service.serve record world).2.database.Identified →
    QueriesTop service second (service.serve record world).2 portalKey days limit →
    (service.serve second (service.serve record world).2).2.clock =
      (service.serve call world).2.clock →
    (∀ event ∈ service.recorded record world, Overlooked portalKey event) →
    service.ListsSame call world second (service.serve record world).2
  appended : ∀ record : Call, (service.serve record world).2.database.activityEvents =
      world.database.activityEvents ++ service.recorded record world ∧
    (service.recorded record world).length ≤ 1
  raised : ∀ (record : Call) (event : ActivityEventRow) (since : Time) (content : Bytes),
    service.recorded record world = [event] → Viewed portalKey since content event →
    viewCount portalKey since (service.serve record world).2.database.activityEvents content =
        viewCount portalKey since world.database.activityEvents content + 1 ∧
      ∀ other, other ≠ content →
        viewCount portalKey since (service.serve record world).2.database.activityEvents other =
          viewCount portalKey since world.database.activityEvents other
  stored : ∀ record : Call, record.request.At "POST" "/activity" →
    statusOf (service.serve record world).1 = some 201 →
    ∃ fields event, activityFields (service.body record) = some fields ∧
      service.recorded record world = [event] ∧ event.portalKey = fields.portalKey ∧
      event.eventType = fields.eventType ∧ event.contentId = nullIf fields.contentId ∧
      event.occurredAt = (service.serve record world).2.clock

/-- An answered activity is one event with the portal, type and content of its body. -/
theorem Service.recorded_activity {service : Service} {call : Call} {world : World}
    (lawful : service.postgres.Lawful) (valid : world.database.Valid service.postgres.lower)
    (post : call.request.At "POST" "/activity")
    (sent : statusOf (service.serve call world).1 = some 201) :
    ∃ fields event, activityFields (service.body call) = some fields ∧
      service.recorded call world = [event] ∧ event.portalKey = fields.portalKey ∧
      event.eventType = fields.eventType ∧ event.contentId = nullIf fields.contentId ∧
      event.occurredAt = (service.serve call world).2.clock := by
  obtain ⟨fields, actor, event, recorded⟩ := Service.serve_recorded lawful valid post sent
  obtain ⟨transaction, data, stored, now, _, _, same⟩ := recorded.event_eq
  refine ⟨fields, event, recorded.read, ?_, ?_⟩
  · rw [Service.recorded, recorded.database, List.drop_left]
  · rw [same]
    exact ⟨rfl, rfl, rfl, now⟩

/-- In every state a run reaches. -/
theorem top_content_exact {service : Service} (lawful : service.postgres.Lawful)
    (orders : Ranking.LinearlyOrders service.postgres.textLe) {admits : Environment → Prop}
    {entries : List Service.Entry} {world : World} (run : service.Run admits entries world)
    (identified : world.database.Identified) {call : Call} {portalKey : Bytes} {days limit : Int}
    (queries : QueriesTop service call world portalKey days limit) :
    TopContentExact service admits call world portalKey days limit := by
  have valid := Service.Run.valid run
  have appended : ∀ record : Call, (service.serve record world).2.database.activityEvents =
        world.database.activityEvents ++ service.recorded record world ∧
      (service.recorded record world).length ≤ 1 :=
    fun record => Service.activityEvents_recorded lawful valid
  have determined : ∀ (entries : List Service.Entry) (other : World) (second : Call),
      service.Run admits entries other → other.database.Identified →
      QueriesTop service second other portalKey days limit →
      (∀ content, service.views second other portalKey days content =
        service.views call world portalKey days content) →
      service.ListsSame call world second other :=
    fun _ _ _ reached otherIdentified also counts =>
      queries.listsSame lawful orders valid identified also (Service.Run.valid reached)
        otherIdentified counts
  constructor
  case answered => exact queries.serve_answered lawful valid
  case exact =>
    intro response reply status
    have counts : (service.counted call world portalKey days).count =
        service.views call world portalKey days := funext Service.count_counted
    exact ⟨_, queries.serve_listed lawful orders valid identified reply status,
      counts ▸ Ranking.top_spec orders limit.toNat (service.counted call world portalKey days)⟩
  case determined => exact determined
  case reordered =>
    intro entries other second reached otherIdentified also time same
    apply determined entries other second reached otherIdentified also
    intro content
    rw [Service.views, Service.views, time]
    exact viewCount_reordered same
  case unaffected =>
    intro record second admitted laterIdentified also time overlooked
    have reached : service.Run admits _ (service.serve record world).2 := run.next record admitted
    apply determined _ _ second reached laterIdentified also
    intro content
    have added : (service.serve record world).2.database.activityEvents =
        world.database.activityEvents ++ service.recorded record world := (appended record).1
    rw [Service.views, Service.views, added, time, viewCount_append,
      viewCount_overlooked overlooked, Nat.add_zero]
  case appended => exact appended
  case raised =>
    intro record event since content single viewed
    rw [(appended record).1, single]
    refine ⟨?_, fun other apart => ?_⟩
    · rw [viewCount_append, viewCount_viewed viewed]
    · rw [viewCount_append, viewCount_apart viewed apart, Nat.add_zero]
  case stored => exact fun record => Service.recorded_activity lawful valid

namespace Reference

def viewing (portal kind content : String) : Members :=
  [("portal_key", bytes portal), ("event_type", bytes kind), ("content_id", bytes content),
    ("anonymous_id", bytes "visitor-1")]

/-- Views of three contents, one of them in another portal only. -/
def viewings : List Members :=
  [viewing "news" "content_view" "b2", viewing "news" "page_view" "a1",
    viewing "sports" "content_view" "c3", viewing "news" "content_view" "a1"]

def ranking : Service := service (bodies ([account, confirmation 1, credentials] ++ viewings))

/-- Ana signs in, and a visitor views the contents. -/
def visits : List Call :=
  signedIn ++ viewings.map fun members => post "/activity" members 30 0

theorem visits_healthy : ∀ call ∈ visits, call.environment.Healthy := by
  intro call member
  rcases List.mem_append.mp member with before | viewed
  · exact signedIn_healthy call before
  · obtain ⟨members, _, rfl⟩ := List.mem_map.mp viewed
    exact environment_healthy 30 0

end Reference

open Reference in
/-- The two contents of the portal were viewed twice and once. -/
theorem top_content_exact_visits :
    TopContentExact ranking Environment.Healthy (topContent "news" none (some (bytes "1")) 40 0)
        (after ranking visits) (bytes "news") 7 1 ∧
      ranking.views (topContent "news" none (some (bytes "1")) 40 0) (after ranking visits)
        (bytes "news") 7 (bytes "a1") = 2 ∧
      ranking.views (topContent "news" none (some (bytes "1")) 40 0) (after ranking visits)
        (bytes "news") 7 (bytes "b2") = 1 := by
  have asks : AsksTopContent ranking (topContent "news" none (some (bytes "1")) 40 0)
      (after ranking visits) (bytes "news") :=
    ⟨⟨rfl, rfl⟩, by decide +kernel, rfl, by decide⟩
  have limit : Accepted (some (bytes "1")) 10 1 100 1 :=
    (analyticsParseRange_iff (by decide) (by decide) (by decide)).mp (by decide)
  have identified : (after ranking visits).database.Identified := by
    unfold Database.Identified
    decide +kernel
  exact ⟨top_content_exact lawful ranksText (run ranking visits_healthy) identified
    ⟨asks, ⟨.inl ⟨rfl, rfl⟩, by decide, by decide⟩, limit⟩, by decide +kernel, by decide +kernel⟩

end PortalApi
