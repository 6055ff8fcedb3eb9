import PortalApi.History

/-! A client that gets no answer sends its request again. All but three kinds of request
change the tables at most once, however often they are sent and wherever the process dies. -/

set_option autoImplicit false

namespace PortalApi

open Library

/-- A request that may be sent again. The other three open a session, record an activity or
store a comment each time. -/
structure Request.Repeatable (request : Request) : Prop where
  login : ¬ request.At "POST" "/auth/login"
  activity : ¬ request.At "POST" "/activity"
  comment : request.method = bytes "POST" → ∀ contentId, ¬ request.OnContent contentId "/comments"

section Twice

variable {service : Service} {postgres : Postgres} {context : PortalHttpContext}
  {request : Request} {environment other : Environment} {json : Option Json}
  {world middle after later final : World} {reply retold : Option Response}

/-- A session that lets one request in twice is that of the same account. -/
theorem Admitted.again {lower : Bytes → Bytes} {text again : Bytes} {token renewed : Uuid}
    {session resumed : AuthSessionRow} {user owner : UserRow}
    (valid : world.database.Valid lower)
    (first : Admitted postgres environment request world text token session user middle)
    (second : Admitted postgres other request later again renewed resumed owner final)
    (sessions : later.database.authSessions = world.database.authSessions) :
    owner.id = user.id := by
  obtain rfl : again = text := Option.some.inj (second.bearer.symm.trans first.bearer)
  obtain rfl : renewed = token := Option.some.inj (second.cast.symm.trans first.cast)
  have member : resumed ∈ world.database.authSessions := sessions ▸ second.live.session_mem
  obtain rfl : resumed = session :=
    Table.eq_of_key valid.sessionKeys member first.live.session_mem
      (second.live.token.trans first.live.token.symm)
  exact second.live.owner.trans first.live.owner.symm

theorem Acts.again {lower : Bytes → Bytes} {actor another : Actor}
    (valid : world.database.Valid lower)
    (first : Acts postgres environment request json world actor middle)
    (second : Acts postgres other request json later another final)
    (sessions : later.database.authSessions = world.database.authSessions) :
    another = actor := by
  cases first with
  | session given admitted =>
      cases second with
      | session _ readmitted => rw [admitted.again valid readmitted sessions]
      | anonymous empty _ => exact absurd empty given
  | anonymous empty known =>
      cases second with
      | session given _ => exact absurd empty given
      | anonymous _ same => exact congrArg Actor.anonymous (Subtype.ext (Option.some.inj (same.symm.trans known)))

theorem TopContentEnds.kept (ends : TopContentEnds postgres environment request world reply after) :
    after.database = world.database := by
  cases ends with
  | unauthorized refused _ => exact refused.kept.database
  | invalidPortal admitted _ _ => exact admitted.kept.database
  | invalidRange admitted _ _ _ => exact admitted.kept.database
  | failed admitted _ _ _ failed _ => exact (admitted.kept.trans failed.kept).database
  | listed _ _ _ _ kept _ _ => exact kept.database

theorem FavoriteListEnds.kept {kind : PortalFavoriteKind}
    (ends : FavoriteListEnds postgres environment request kind world reply after) :
    after.database = world.database := by
  cases ends with
  | unauthorized refused _ => exact refused.kept.database
  | failed admitted failed _ => exact (admitted.kept.trans failed.kept).database
  | listed _ kept _ _ _ => exact kept.database

theorem RegisterEnds.absorbed
    (first : RegisterEnds postgres environment context json world reply after)
    (second : RegisterEnds postgres other context json later retold final)
    (changed : after.database ≠ world.database) (resumed : later.database = after.database) :
    final.database = later.database := by
  cases first with
  | invalid _ _ => exact absurd rfl changed
  | failed _ failed _ => exact absurd failed.kept.database changed
  | @created _ fields transaction read _ _ _ _ _ _ _ database _ =>
      cases second with
      | invalid _ _ => rfl
      | failed _ failed _ => exact failed.kept.database
      | created again _ _ _ _ _ fresh _ _ _ =>
          obtain rfl := Option.some.inj (read.symm.trans again)
          have stored : fields.user postgres transaction ∈ later.database.users := by
            rw [resumed, database]
            exact List.mem_append_right _ (List.mem_singleton_self _)
          exact absurd rfl (fresh _ stored).2

theorem ConfirmEnds.absorbed (first : ConfirmEnds postgres environment json world reply after)
    (second : ConfirmEnds postgres other json later retold final)
    (changed : after.database ≠ world.database) (resumed : later.database = after.database) :
    final.database = later.database := by
  cases first with
  | invalid _ _ => exact absurd rfl changed
  | rejected _ kept _ _ => exact absurd kept.database changed
  | @confirmed _ text transaction row _ read cast _ _ _ _ _ _ _ _ _ database _ =>
      cases second with
      | invalid _ _ => rfl
      | rejected _ kept _ _ => exact kept.database
      | @confirmed _ _ _ found _ again recast _ _ _ _ stored unconsumed _ _ _ _ _ =>
          obtain rfl := Option.some.inj (again.symm.trans read)
          have same : found.token = row.token := Option.some.inj (recast.symm.trans cast)
          rw [resumed, database] at stored
          rcases Table.mem_update.mp stored with ⟨_, unmatched⟩ | ⟨old, _, _, rfl⟩
          · exact absurd same (by simpa using unmatched)
          · cases unconsumed

theorem LogoutEnds.absorbed (first : LogoutEnds postgres environment request world reply after)
    (second : LogoutEnds postgres other request later retold final)
    (changed : after.database ≠ world.database) (resumed : later.database = after.database) :
    final.database = later.database := by
  cases first with
  | unauthorized refused _ => exact absurd refused.kept.database changed
  | failed admitted failed _ => exact absurd (admitted.kept.trans failed.kept).database changed
  | closed admitted _ _ _ _ database _ =>
      cases second with
      | unauthorized refused _ => exact refused.kept.database
      | failed readmitted failed _ => exact (readmitted.kept.trans failed.kept).database
      | closed readmitted _ _ _ _ _ _ =>
          obtain rfl := Option.some.inj (readmitted.bearer.symm.trans admitted.bearer)
          obtain rfl := Option.some.inj (readmitted.cast.symm.trans admitted.cast)
          have live := readmitted.live
          have stored := live.session_mem
          rw [resumed, database] at stored
          -- every session with this token was revoked by the first attempt
          rcases Table.mem_update.mp stored with ⟨_, unmatched⟩ | ⟨old, _, _, rfl⟩
          · simp [revocable, live.token, live.unrevoked] at unmatched
          · cases live.unrevoked

theorem Database.removeFavorite_twice (database : Database) (kind : PortalFavoriteKind)
    (userId : Uuid) (key : Bytes) :
    (database.removeFavorite kind userId key).removeFavorite kind userId key =
      database.removeFavorite kind userId key := by
  cases kind <;> simp [Database.removeFavorite, Database.setFavorites, Database.favorites]

theorem FavoriteChangeEnds.absorbed {lower : Bytes → Bytes} {kind : PortalFavoriteKind} {key : Bytes}
    (valid : world.database.Valid lower)
    (first : FavoriteChangeEnds postgres environment request kind key world reply after)
    (second : FavoriteChangeEnds postgres other request kind key later retold final)
    (changed : after.database ≠ world.database) (resumed : later.database = after.database) :
    final.database = later.database := by
  cases first with
  | unauthorized refused _ => exact absurd refused.kept.database changed
  | invalidKey admitted _ _ => exact absurd admitted.kept.database changed
  | failed admitted _ failed _ => exact absurd (admitted.kept.trans failed.kept).database changed
  | present _ _ _ _ same _ _ _ => exact absurd same changed
  | @added _ _ _ _ _ user admitted put _ _ _ _ database _ =>
      have sessions : later.database.authSessions = world.database.authSessions := by
        rw [resumed, database, Database.authSessions_setFavorites]
      cases second with
      | unauthorized refused _ => exact refused.kept.database
      | invalidKey readmitted _ _ => exact readmitted.kept.database
      | failed readmitted _ failed _ => exact (readmitted.kept.trans failed.kept).database
      | present _ _ _ _ same _ _ _ => exact same
      | removed _ notPut _ _ _ _ _ => simp [put] at notPut
      | added readmitted _ _ _ _ absent _ _ =>
          have owner := admitted.again valid readmitted sessions
          have stored : { userId := user.id, key, createdAt := after.clock } ∈
              later.database.favorites kind := by
            rw [resumed, database, Database.favorites_setFavorites]
            exact List.mem_append_right _ (List.mem_singleton_self _)
          exact absurd ⟨owner.symm, rfl⟩ (absent _ stored)
  | removed admitted notPut _ _ _ database _ =>
      have sessions : later.database.authSessions = world.database.authSessions := by
        rw [resumed, database, Database.removeFavorite, Database.authSessions_setFavorites]
      cases second with
      | unauthorized refused _ => exact refused.kept.database
      | invalidKey readmitted _ _ => exact readmitted.kept.database
      | failed readmitted _ failed _ => exact (readmitted.kept.trans failed.kept).database
      | present _ _ _ _ same _ _ _ => exact same
      | added _ put _ _ _ _ _ _ => simp [put] at notPut
      | removed readmitted _ _ _ _ again _ =>
          rw [again, admitted.again valid readmitted sessions, resumed, database,
            Database.removeFavorite_twice]

theorem LikeEnds.absorbed {lower : Bytes → Bytes} {contentId : Bytes}
    (valid : world.database.Valid lower)
    (first : LikeEnds postgres environment request contentId json world reply after)
    (second : LikeEnds postgres other request contentId json later retold final)
    (changed : after.database ≠ world.database) (resumed : later.database = after.database) :
    final.database = later.database := by
  cases first with
  | invalid _ _ => exact absurd rfl changed
  | refused _ refused _ => exact absurd refused.kept.database changed
  | invalidPortal _ acts _ _ _ => exact absurd acts.kept.database changed
  | failed _ acts _ failed _ => exact absurd (acts.kept.trans failed.kept).database changed
  | present _ _ _ _ _ same _ _ _ => exact absurd same changed
  | @liked _ _ actor _ transaction _ acts put _ _ _ _ _ database _ =>
      have sessions : later.database.authSessions = world.database.authSessions := by
        rw [resumed, database]
      cases second with
      | invalid _ _ => rfl
      | refused _ refused _ => exact refused.kept.database
      | invalidPortal _ again _ _ _ => exact again.kept.database
      | failed _ again _ failed _ => exact (again.kept.trans failed.kept).database
      | present _ _ _ _ _ same _ _ _ => exact same
      | unliked _ _ notPut _ _ _ _ => simp [put] at notPut
      | liked _ again _ _ _ _ _ absent _ _ =>
          obtain rfl := (acts.again valid again sessions).symm
          have stored : actor.like postgres transaction world.database contentId ∈
              later.database.contentLikes := by
            rw [resumed, database]
            exact List.mem_append_right _ (List.mem_singleton_self _)
          exact absurd ⟨rfl, rfl⟩ (absent _ stored)
  | unliked _ acts notPut _ _ database _ =>
      have sessions : later.database.authSessions = world.database.authSessions := by
        rw [resumed, database, Database.unlike]
      cases second with
      | invalid _ _ => rfl
      | refused _ refused _ => exact refused.kept.database
      | invalidPortal _ again _ _ _ => exact again.kept.database
      | failed _ again _ failed _ => exact (again.kept.trans failed.kept).database
      | present _ _ _ _ _ same _ _ _ => exact same
      | liked _ _ put _ _ _ _ _ _ _ => simp [put] at notPut
      | unliked _ again _ _ _ same _ =>
          rw [same, acts.again valid again sessions, resumed, database]
          simp [Database.unlike]

end Twice

/-- One request is routed alike each time, unless its body could not be parsed. -/
theorem Request.routed_again {request : Request} {first second : Option Json}
    (agree : first = none ∨ second = none ∨ second = first) :
    (request.routed first).1 = .invalidJson ∨ (request.routed second).1 = .invalidJson ∨
      request.routed second = request.routed first := by
  unfold Request.routed
  cases request.bodylessEndpoint with
  | some endpoint => exact .inr (.inr rfl)
  | none =>
      cases bodyExpected request with
      | false => exact .inr (.inr rfl)
      | true =>
          rcases agree with rfl | rfl | rfl
          · exact .inl rfl
          · exact .inr (.inl rfl)
          · exact .inr (.inr rfl)

section Service

variable {service : Service} {call again : Call} {world later : World}

/-- The body of a request is parsed as the same JSON each time it is parsed at all. -/
theorem Service.parsed_again (same : again.request = call.request) :
    service.parsed call = none ∨ service.parsed again = none ∨
      service.parsed again = service.parsed call := by
  simp only [Service.parsed, Environment.parse, same]
  split
  · split
    · exact .inr (.inr rfl)
    · exact .inr (.inl rfl)
  · exact .inl rfl

/-- A request that changed the tables does not change them again. -/
theorem serve_absorbed (lawful : service.postgres.Lawful)
    (valid : world.database.Valid service.postgres.lower) (repeatable : call.request.Repeatable)
    (same : again.request = call.request)
    (changed : (service.serve call world).2.database ≠ world.database)
    (resumed : later.database = (service.serve call world).2.database) :
    (service.serve again later).2.database = later.database := by
  have stillValid : later.database.Valid service.postgres.lower :=
    resumed ▸ Service.serve_valid valid
  obtain ⟨request, environment⟩ := call
  obtain ⟨_, other⟩ := again
  cases same
  have first := service.serve_routed { request, environment } lawful valid
  have second := service.serve_routed { request, environment := other } lawful stillValid
  have routes : Routes request (service.parsed { request, environment }) _ _ := routed_routes
  have agree : service.parsed { request, environment } = none ∨
      service.parsed { request, environment := other } = none ∨ _ := Service.parsed_again rfl
  rcases request.routed_again agree with unparsed | unparsed | routed
  · rw [unparsed] at first
    exact absurd (congrArg World.database first.1) changed
  · rw [unparsed] at second
    exact congrArg World.database second.1
  rw [routed] at second
  generalize request.routed (service.parsed { request, environment }) = reached at *
  obtain ⟨endpoint, json⟩ := reached
  cases endpoint with
  | options => exact congrArg World.database second.1
  | health => exact congrArg World.database second.1
  | longContentId => exact congrArg World.database second.1
  | invalidJson => exact congrArg World.database second.1
  | notFound => exact congrArg World.database second.1
  | topContent =>
      have second : TopContentEnds _ _ _ _ _ _ := second
      exact second.kept
  | favoriteList kind =>
      have second : FavoriteListEnds _ _ _ _ _ _ _ := second
      exact second.kept
  | logout => exact LogoutEnds.absorbed first second changed resumed
  | favoriteChange kind key => exact FavoriteChangeEnds.absorbed valid first second changed resumed
  | register => exact RegisterEnds.absorbed first second changed resumed
  | confirm => exact ConfirmEnds.absorbed first second changed resumed
  | like contentId => exact LikeEnds.absorbed valid first second changed resumed
  | login =>
      cases routes with
      | login reached _ => exact absurd reached repeatable.login
  | activity =>
      cases routes with
      | activity reached _ => exact absurd reached repeatable.activity
  | comment contentId =>
      cases routes with
      | comment method content _ _ => exact absurd content (repeatable.comment method contentId)

end Service

section Mortal

variable {service : Service} {admits : Environment → Prop} {world : World}
  {earlier later : List (Event Incident (Option Response) World)}
  {event : Event Incident (Option Response) World}

theorem suffer_absorbed {incident retry : Incident} {state : World}
    (lawful : service.postgres.Lawful) (valid : world.database.Valid service.postgres.lower)
    (repeatable : incident.call.request.Repeatable)
    (same : retry.call.request = incident.call.request)
    (changed : (service.suffer incident world).2.database ≠ world.database)
    (resumed : state.database = (service.suffer incident world).2.database) :
    (service.suffer retry state).2.database = state.database := by
  have served := congrArg World.database (service.suffer_survived incident world).1
  have again := congrArg World.database (service.suffer_survived retry state).1
  have reconnected : world.reconnected.database.Valid service.postgres.lower := valid
  have repeatable : (service.survived incident world).request.Repeatable := repeatable
  have absorbed : (service.serve (service.survived retry state) state.reconnected).2.database =
      state.reconnected.database :=
    serve_absorbed lawful reconnected repeatable same
      (fun unchanged => changed (served.trans unchanged)) (resumed.trans served)
  exact again.trans absorbed

/-- Once a request has changed the tables, no retry of it does, however many there are, what
becomes of each, and whatever else goes by that leaves the tables alone. -/
theorem mortal_once (lawful : service.postgres.Lawful)
    (run : (service.mortal admits).Run (earlier ++ event :: later) world)
    (repeatable : event.input.call.request.Repeatable)
    (again : ∀ entry ∈ later, entry.input.call.request = event.input.call.request ∨
      entry.after.database = entry.before.database)
    (changed : event.after.database ≠ event.before.database) :
    world.database = event.after.database := by
  obtain ⟨reached, _, happened⟩ := run.reaches_event
  have valid := mortal_valid reached
  have after : event.after = (service.suffer event.input event.before).2 :=
    congrArg Event.after happened
  rw [after] at changed ⊢
  refine run.since (fun middle state =>
    (∀ entry ∈ middle, entry.input.call.request = event.input.call.request ∨
      entry.after.database = entry.before.database) →
        state.database = (service.suffer event.input event.before).2.database) ?_ ?_ again
  · exact fun _ => congrArg World.database after
  · intro middle incident state _ _ ih again
    have same := ih fun entry member => again entry (List.mem_append_left _ member)
    rcases again _ (List.mem_append_right _ (List.mem_singleton_self _)) with retried | unchanged
    · exact (suffer_absorbed lawful valid repeatable retried changed same).trans same
    · exact unchanged.trans same

end Mortal

/-- A registration that was stored before the process died, and is sent again. -/
theorem mortal_once_retried :
    ∃ death retry, Reference.lived.1 = [death, retry] ∧
      death.after.database ≠ death.before.database ∧
      Reference.lived.2.database = death.after.database := by
  refine ⟨_, _, rfl, by decide +kernel, ?_⟩
  refine mortal_once Reference.lawful
    (show Machine.Run _ ([] ++ _ :: [_]) _ from Reference.lived_run) ?_ ?_ (by decide +kernel)
  · refine ⟨fun reached => absurd reached.url (by decide),
      fun reached => absurd reached.url (by decide), fun _ contentId content => ?_⟩
    have url : bytes "/auth/register" = bytes "/content/" ++ contentId ++ bytes "/comments" :=
      content.url
    have start : (bytes "/auth/register").take 9 = bytes "/content/" := by
      rw [url, List.append_assoc]
      exact List.take_left' (by decide)
    exact absurd start (by decide)
  · intro entry member
    exact .inl (List.mem_singleton.mp member ▸ rfl)

end PortalApi
