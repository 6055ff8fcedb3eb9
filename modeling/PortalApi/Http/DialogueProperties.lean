import PortalApi.Http.Dialogue
import PortalApi.Reference

/-! Every handler keeps to the dialogue of its endpoint. -/

set_option autoImplicit false

namespace PortalApi

open Library

section Handlers

variable {context : PortalHttpContext} {jsonC : JsonC} {request : Request} {json : Option Json}
  {progress : Progress}

theorem portalHttpRouteRegister_keeps (fresh : progress.Fresh) :
    (dialogue context jsonC request .register json).Keeps Concluded
      (portalHttpRouteRegister context json) progress := by
  have invalid (missing : registerFields json = none) :
      (dialogue context jsonC request .register json).Keeps Concluded
        (portalHttpResponseError 400 "validation_error"
          "email, display_name and a password of at least 12 characters are required.") progress :=
    portalHttpResponseError_keeps fresh.attempt (.declined fresh.asked (.register missing))
  unfold portalHttpRouteRegister
  cases readEmail : portalHttpJsonString json (bytes "email") 5 254 with
  | none => exact invalid (by simp [registerFields, readEmail])
  | some email =>
  cases readPassword : portalHttpJsonString json (bytes "password") 12 256 with
  | none => exact invalid (by simp [registerFields, readEmail, readPassword])
  | some password =>
  cases readName : portalHttpJsonString json (bytes "display_name") 1 100 with
  | none => exact invalid (by simp [registerFields, readEmail, readPassword, readName])
  | some displayName =>
  cases accepted : portalValidationEmail (some email) with
  | false =>
      simp only [accepted]
      exact invalid (by simp [registerFields, readEmail, readPassword, readName, accepted])
  | true =>
      obtain ⟨written, short⟩ := context.config.snprintf_confirmationTtl
      have fits : ¬ (12 : Int) ≤ context.config.confirmationTtl.length := by omega
      have read : registerFields json =
          some { email := email.map toLower, password, displayName } := by
        simp [registerFields, readEmail, readPassword, readName, accepted]
      simp only [accepted, portalValidationLowercaseCopy_validated accepted, written, ge_iff_le,
        fits, decide_false, Bool.or_false, Int.not_ofNat_neg, Bool.not_true, Bool.false_eq_true, ↓reduceIte]
      have mandated : Mandated context jsonC request json none .register
          (.register (email.map toLower) password displayName context.config.confirmationTtl) :=
        .register read
      refine portalDatabaseQuery_keeps fresh.opened mandated fun result later heard => ?_
      split
      · next other =>
          have told := heard.failure mandated other
          split
          · next violated =>
              have shown : registerFailure result = errorResponse 409 "email_already_registered"
                "An account with this email already exists." := if_pos violated
              exact portalHttpResponseError_keeps heard.attempt (shown ▸ told)
          · next violated =>
              have shown : registerFailure result = errorResponse 500 "database_error"
                "Could not create the account." := if_neg violated
              exact portalHttpResponseError_keeps heard.attempt (shown ▸ told)
      · next served => exact describing_keeps heard.attempt (heard.success (not_not.mp served))

theorem portalHttpRouteConfirm_keeps (fresh : progress.Fresh) :
    (dialogue context jsonC request .confirm json).Keeps Concluded (portalHttpRouteConfirm json)
      progress := by
  unfold portalHttpRouteConfirm
  split
  · next missing =>
      exact portalHttpResponseError_keeps fresh.attempt (.declined fresh.asked (.confirm missing))
  next token read =>
  have mandated : Mandated context jsonC request json none .confirm (.confirm token) :=
    .confirm read
  refine portalDatabaseQuery_keeps fresh.opened mandated fun result later heard => ?_
  split
  · next other =>
      have unserved : ¬ (Statement.confirm token).Served result :=
        not_and_or.mpr (by simpa using other)
      exact portalHttpResponseError_keeps heard.attempt (heard.failure mandated unserved)
  · next one =>
      have served : (Statement.confirm token).Served result := by simpa [Statement.Served] using one
      exact portalHttpResponseBytes_keeps heard.attempt (heard.success served)

theorem portalHttpRouteLogin_keeps (fresh : progress.Fresh) :
    (dialogue context jsonC request .login json).Keeps Concluded
      (portalHttpRouteLogin context json) progress := by
  have invalid (missing : loginFields json = none) :
      (dialogue context jsonC request .login json).Keeps Concluded
        (portalHttpResponseError 400 "validation_error" "email and password are required.")
        progress :=
    portalHttpResponseError_keeps fresh.attempt (.declined fresh.asked (.login missing))
  unfold portalHttpRouteLogin
  cases readEmail : portalHttpJsonString json (bytes "email") 5 254 with
  | none => exact invalid (by simp [loginFields, readEmail])
  | some email =>
  cases readPassword : portalHttpJsonString json (bytes "password") 1 256 with
  | none => exact invalid (by simp [loginFields, readEmail, readPassword])
  | some password =>
  cases accepted : portalValidationEmail (some email) with
  | false =>
      simp only [accepted]
      exact invalid (by simp [loginFields, readEmail, readPassword, accepted])
  | true =>
      obtain ⟨written, short⟩ := context.config.snprintf_tokenTtl
      have fits : ¬ (12 : Int) ≤ context.config.tokenTtl.length := by omega
      have read : loginFields json = some { email := email.map toLower, password } := by
        simp [loginFields, readEmail, readPassword, accepted]
      simp only [accepted, portalValidationLowercaseCopy_validated accepted, written, ge_iff_le,
        fits, decide_false, Bool.or_false, Int.not_ofNat_neg, Bool.not_true, Bool.false_eq_true,
        ↓reduceIte]
      have mandated : Mandated context jsonC request json none .login
          (.login (email.map toLower) password context.config.tokenTtl) := .login read
      refine portalDatabaseQuery_keeps fresh.opened mandated fun result later heard => ?_
      split
      · next other =>
          have told := heard.failure mandated fun served => other served.1
          rw [Statement.failure, if_neg other] at told
          exact portalHttpResponseError_keeps heard.attempt told
      next tuples =>
      have tuples : portalDatabaseResultStatus result = .tuples := not_not.mp tuples
      split
      · next other =>
          have told := heard.failure mandated fun served => other served.2
          rw [Statement.failure, if_pos tuples] at told
          exact portalHttpResponseError_keeps heard.attempt told
      · next one =>
          exact describing_keeps heard.attempt (heard.success ⟨tuples, not_not.mp one⟩)

section Secured

variable {endpoint : Endpoint}

theorem unauthorized_keeps (opened : progress.Open none) (secured : endpoint.Secured) :
    (dialogue context jsonC request endpoint json).Keeps Concluded
      (portalHttpResponseError 401 "unauthorized" "A valid Bearer token is required.") progress :=
  portalHttpResponseError_keeps opened.attempt
    (.declined opened.asked (.unauthorized secured opened.session))

end Secured

theorem portalHttpRouteLogout_keeps (fresh : progress.Fresh) :
    (dialogue context jsonC request .logout json).Keeps Concluded (portalHttpRouteLogout request)
      progress := by
  refine portalHttpAuthenticate_keeps fresh (.inl .logout) fun outcome later looked => ?_
  cases looked with
  | anonymous _ opened => exact unauthorized_keeps opened .logout
  | invalid _ opened => exact unauthorized_keeps opened .logout
  | @authenticated token user bearer opened _ =>
      have header : (request.authorization.getD []).drop 7 = token := by
        simp [(bearerToken_eq_some.mp bearer).1, show (bytes "Bearer ").length = 7 by decide]
      have mandated : Mandated context jsonC request json (some user.id) .logout (.logout token) :=
        .logout rfl bearer
      simp only [ne_eq, not_true_eq_false, ↓reduceIte, header]
      refine portalDatabaseQuery_keeps opened mandated fun result later heard => ?_
      split
      · next other =>
          exact portalHttpResponseError_keeps heard.attempt (heard.failure mandated other)
      · next closed =>
          exact portalHttpResponseBytes_keeps heard.attempt (heard.success (not_not.mp closed))

theorem portalHttpRouteFavoriteList_keeps {kind : PortalFavoriteKind} (fresh : progress.Fresh) :
    (dialogue context jsonC request (.favoriteList kind) json).Keeps Concluded
      (portalHttpRouteFavoriteList request kind) progress := by
  rw [portalHttpRouteFavoriteList, favoriteHasAuthenticatedUser, Program.bind_bind]
  refine portalHttpAuthenticate_keeps fresh (.inl .favoriteList) fun outcome later looked => ?_
  cases looked with
  | anonymous _ opened => exact unauthorized_keeps opened .favoriteList
  | invalid _ opened => exact unauthorized_keeps opened .favoriteList
  | @authenticated _ user bearer opened _ =>
      have mandated : Mandated context jsonC request json (some user.id) (.favoriteList kind)
          (.favoriteList kind user.id) := .favoriteList rfl
      refine portalDatabaseQuery_keeps opened mandated fun result later heard => ?_
      split
      · next other =>
          exact portalHttpResponseError_keeps heard.attempt (heard.failure mandated other)
      next tuples =>
      have told : Told context jsonC request json later (.favoriteList kind)
          (jsonResponse 200 (favoriteItems result)) := heard.success (not_not.mp tuples)
      refine allocate_keeps heard.attempt ?granted ?refused
      case granted =>
        exact allocate_keeps heard.attempt (portalHttpResponseJson_keeps heard.attempt told)
          (abandon_keeps heard.attempt)
      case refused =>
        exact allocate_keeps heard.attempt (abandon_keeps heard.attempt)
          (abandon_keeps heard.attempt)

theorem portalHttpRouteFavoriteChange_keeps {kind : PortalFavoriteKind} {key : Bytes}
    (fresh : progress.Fresh) :
    (dialogue context jsonC request (.favoriteChange kind key) json).Keeps Concluded
      (portalHttpRouteFavoriteChange request kind key) progress := by
  rw [portalHttpRouteFavoriteChange, favoriteHasAuthenticatedUser, Program.bind_bind]
  refine portalHttpAuthenticate_keeps fresh (.inl .favoriteChange) fun outcome later looked => ?_
  cases looked with
  | anonymous _ opened => exact unauthorized_keeps opened .favoriteChange
  | invalid _ opened => exact unauthorized_keeps opened .favoriteChange
  | @authenticated _ user bearer opened _ =>
  change (dialogue context jsonC request (.favoriteChange kind key) json).Keeps Concluded
    (if !portalValidationKey (some key) 160 then _ else _) later
  split
  · next refused =>
      exact portalHttpResponseError_keeps opened.attempt
        (.declined opened.asked (.favoriteKey opened.session (by simpa using refused)))
  next accepted =>
  have accepted : portalValidationKey (some key) 160 = true := by simpa using accepted
  by_cases put : request.method = bytes "PUT"
  · have mandated : Mandated context jsonC request json (some user.id) (.favoriteChange kind key)
        (.favoriteInsert kind user.id key) := .favoriteInsert rfl accepted (by simp [Request.isPut, put])
    simp only [put, ↓reduceIte]
    refine portalDatabaseQuery_keeps opened mandated fun result later heard => ?_
    split
    · next other =>
        exact portalHttpResponseError_keeps heard.attempt (heard.failure mandated other)
    · next added =>
        exact portalHttpResponseBytes_keeps heard.attempt (heard.success (not_not.mp added))
  · have mandated : Mandated context jsonC request json (some user.id) (.favoriteChange kind key)
        (.favoriteDelete kind user.id key) := .favoriteDelete rfl accepted (by simp [Request.isPut, put])
    simp only [put, ↓reduceIte]
    refine portalDatabaseQuery_keeps opened mandated fun result later heard => ?_
    split
    · next other =>
        exact portalHttpResponseError_keeps heard.attempt (heard.failure mandated other)
    · next removed =>
        exact portalHttpResponseBytes_keeps heard.attempt (heard.success (not_not.mp removed))

theorem topContentItems_keeps {result : Option PgResult} {indices : List Nat}
    {endpoint : Endpoint} {next : Option (List Json) → Handler MhdResult}
    (calm : progress.attempt = none)
    (listed : (dialogue context jsonC request endpoint json).Keeps Concluded
      (next (some (indices.map (topContentItem result)))) progress)
    (refused : (dialogue context jsonC request endpoint json).Keeps Concluded (next none)
      { progress with starved := true }) :
    (dialogue context jsonC request endpoint json).Keeps Concluded
      (topContentItems result indices >>= next) progress := by
  induction indices generalizing next with
  | nil => exact listed
  | cons index rest ih =>
      rw [topContentItems, Program.bind_bind]
      refine allocate_keeps calm ?_ refused
      simp only [↓reduceIte, Program.bind_bind]
      exact ih listed refused

theorem portalHttpRouteTopContent_keeps (fresh : progress.Fresh) :
    (dialogue context jsonC request .topContent json).Keeps Concluded
      (portalHttpRouteTopContent request) progress := by
  refine portalHttpAuthenticate_keeps fresh (.inl .topContent) fun outcome later looked => ?_
  cases looked with
  | anonymous _ opened => exact unauthorized_keeps opened .topContent
  | invalid _ opened => exact unauthorized_keeps opened .topContent
  | @authenticated _ user bearer opened _ =>
  simp only [ne_eq, not_true_eq_false, ↓reduceIte]
  cases named : request.lookup .getArgument "portal_key" with
  | none =>
      have refused : portalValidationKey (request.lookup .getArgument "portal_key") 120 = false := by
        simp [named, portalValidationKey]
      exact portalHttpResponseError_keeps opened.attempt
        (.declined opened.asked (.portalKey opened.session refused))
  | some portalKey =>
  cases accepted : portalValidationKey (some portalKey) 120 with
  | false =>
      exact portalHttpResponseError_keeps opened.attempt
        (.declined opened.asked (.portalKey opened.session (named ▸ accepted)))
  | true =>
  simp only [Option.isNone_some, Bool.not_true, Bool.or_self, Bool.false_eq_true,
    ↓reduceIte]
  split
  · next days limit readDays readLimit =>
      have read : topContentRange request = some { days, limit } := by
        simp [topContentRange, readDays, readLimit]
      obtain ⟨daysBounds, limitBounds⟩ := TopContentRange.bounds read
      have limitBounds : 1 ≤ limit ∧ limit ≤ 365 := ⟨limitBounds.1, le_trans limitBounds.2 (by decide)⟩
      simp only [snprintf_signedDecimal daysBounds, snprintf_signedDecimal limitBounds,
        Int.not_ofNat_neg, decide_false, Bool.or_self, Bool.false_eq_true, ↓reduceIte,
        Option.getD_some]
      have mandated : Mandated context jsonC request json (some user.id) .topContent
          (.topContent portalKey (decimal days.toNat) (decimal limit.toNat)) :=
        .topContent rfl named accepted read
      refine portalDatabaseQuery_keeps opened mandated fun result later heard => ?_
      split
      · next other =>
          exact portalHttpResponseError_keeps heard.attempt (heard.failure mandated other)
      next tuples =>
      have told : Told context jsonC request json later .topContent
          (Statement.success context request result
            (.topContent portalKey (decimal days.toNat) (decimal limit.toNat))) :=
        heard.success (not_not.mp tuples)
      simp only [Statement.success, read, Option.map_some, Option.getD_some] at told
      refine allocate_keeps heard.attempt ?granted ?refused
      case granted =>
        refine allocate_keeps heard.attempt ?_ (abandon_keeps heard.attempt)
        exact topContentItems_keeps heard.attempt (portalHttpResponseJson_keeps heard.attempt told)
          (abandon_keeps heard.attempt)
      case refused =>
        exact allocate_keeps heard.attempt (abandon_keeps heard.attempt)
          (abandon_keeps heard.attempt)
  · next unread =>
      have missing : topContentRange request = none := by
        unfold topContentRange
        split
        · next days limit readDays readLimit => exact (unread _ _ readDays readLimit).elim
        · rfl
      exact portalHttpResponseError_keeps opened.attempt
        (.declined opened.asked (.range opened.session missing))

/-- Who acts, or that nobody does, and where this left the request. -/
inductive Loaded (request : Request) (json : Option Json) (progress : Progress) :
    PortalAuthStatus × PortalActivityActor → Prop where
  | refused {actor : PortalActivityActor} {response : Response} : progress.Open none →
      Unidentified request json response → Loaded request json progress (.invalid, actor)
  | identified {session : Option Bytes} {status : PortalAuthStatus} {actor : PortalActivityActor} :
      progress.Open session → status ≠ .invalid →
      Identified request json session (actorUserId status actor) (actorAnonymousId status actor)
        actor.actorKey →
      Loaded request json progress (status, actor)

theorem activityLoadActor_keeps {α : Type} {post : α → Progress → Prop} {endpoint : Endpoint}
    {next : PortalAuthStatus × PortalActivityActor → Handler α} (fresh : progress.Fresh)
    (shared : endpoint.Shared)
    (rest : ∀ outcome later, Loaded request json later outcome →
      (dialogue context jsonC request endpoint json).Keeps post (next outcome) later) :
    (dialogue context jsonC request endpoint json).Keeps post
      (activityLoadActor request json >>= next) progress := by
  rw [activityLoadActor, Program.bind_bind]
  refine portalHttpAuthenticate_keeps fresh (.inr shared) fun outcome later looked => ?_
  cases looked with
  | invalid given opened => exact rest _ later (.refused opened (.token given))
  | @authenticated token user bearer opened short =>
      have user_length : (bytes "u:").length = 2 := by decide
      have fits : (bytes "u:" ++ user.id).length ≤ 38 := by
        rw [List.length_append, user_length]
        exact Nat.add_le_add_left short 2
      have whole : (bytes "u:" ++ user.id).take 204 = bytes "u:" ++ user.id :=
        List.take_of_length_le (by omega)
      have short : ¬ (205 : Int) ≤ (bytes "u:" ++ user.id).length := by omega
      simp only [snprintf, whole, ge_iff_le, short, Int.not_ofNat_neg, decide_false, Bool.or_self,
        Bool.false_eq_true, ↓reduceIte, Nat.add_one_sub_one]
      exact rest _ later (.identified opened (by decide) .user)
  | anonymous absent opened =>
      cases accepted : portalValidationAnonymousId (anonymousIdText json) with
      | false =>
          have refused : portalValidationAnonymousId
              (portalHttpJsonOptionalString json (bytes "anonymous_id") 200) = false := accepted
          simp only [refused, Bool.not_false, ↓reduceIte]
          exact rest _ later (.refused opened (.anonymousId absent accepted))
      | true =>
          obtain ⟨text, read, _, atMost, _⟩ := portalValidationAnonymousId_iff.mp accepted
          have found : portalHttpJsonOptionalString json (bytes "anonymous_id") 200 = some text := read
          have valid : portalValidationAnonymousId (some text) = true := read ▸ accepted
          have anonymous_length : (bytes "a:").length = 2 := by decide
          have fits : (bytes "a:" ++ text).length ≤ 202 := by
            rw [List.length_append, anonymous_length]
            exact Nat.add_le_add_left atMost 2
          have whole : (bytes "a:" ++ text).take 204 = bytes "a:" ++ text :=
            List.take_of_length_le (by omega)
          have short : ¬ (205 : Int) ≤ (bytes "a:" ++ text).length := by omega
          simp only [found, valid, snprintf, whole, ge_iff_le, short, Int.not_ofNat_neg,
            decide_false, Bool.or_self, Bool.false_eq_true, ↓reduceIte, Nat.add_one_sub_one,
            Option.getD_some, Bool.not_true]
          exact rest _ later (.identified opened (by decide) (.anonymous absent read valid))

theorem activityActorError_keeps {endpoint : Endpoint} {response : Response}
    (shared : endpoint.Shared) (opened : progress.Open none)
    (unidentified : Unidentified request json response) :
    (dialogue context jsonC request endpoint json).Keeps Concluded
      (activityActorError request .invalid) progress := by
  have told : Told context jsonC request json progress endpoint response :=
    .declined opened.asked (.unidentified shared opened.session unidentified)
  cases unidentified with
  | token given =>
      have given : decide (request.authorization.getD [] ≠ []) = true := by simpa using given
      simp only [activityActorError, decide_true, given, Bool.and_self, ↓reduceIte]
      exact portalHttpResponseError_keeps opened.attempt told
  | anonymousId absent _ =>
      have absent : decide (request.authorization.getD [] ≠ []) = false := by simpa using absent
      simp only [activityActorError, absent, Bool.and_false, Bool.false_eq_true, ↓reduceIte]
      exact portalHttpResponseError_keeps opened.attempt told

theorem portalHttpRouteActivity_keeps (fresh : progress.Fresh) :
    (dialogue context jsonC request .activity json).Keeps Concluded
      (portalHttpRouteActivity jsonC request json) progress := by
  unfold portalHttpRouteActivity
  simp only
  split
  · next refused =>
      exact portalHttpResponseError_keeps fresh.attempt
        (.declined fresh.asked (.activity (activityFields_eq_none.mpr refused)))
  next accepted =>
  obtain ⟨fields, read⟩ : ∃ fields, activityFields json = some fields :=
    Option.ne_none_iff_exists'.mp fun missing => accepted (activityFields_eq_none.mp missing)
  obtain ⟨portalKey, eventType, _, content, component, page⟩ := activityFields_eq_some.mp read
  have portalKey := (portalKeyField_eq_some.mp portalKey).1
  refine activityLoadActor_keeps fresh .activity fun outcome later loaded => ?_
  cases loaded with
  | refused opened unidentified => exact activityActorError_keeps .activity opened unidentified
  | @identified session status actor opened valid identified =>
  simp only [valid, ↓reduceIte, portalKey, eventType, Option.getD_some, ← content, ← component,
    ← page]
  split
  · next missing =>
      exact portalHttpResponseError_keeps opened.attempt
        (.declined opened.asked (.eventData missing))
  next data present =>
  have mandated : Mandated context jsonC request json session .activity
      (.activityInsert (actorUserId status actor) (actorAnonymousId status actor) fields.portalKey
        fields.eventType fields.contentId fields.componentId fields.pageUrl data) :=
    .activity read identified present
  refine portalDatabaseQuery_keeps opened mandated fun result later heard => ?_
  split
  · next other =>
      exact portalHttpResponseError_keeps heard.attempt (heard.failure mandated other)
  · next tuples => exact describing_keeps heard.attempt (heard.success (not_not.mp tuples))

theorem portalHttpRouteLike_keeps {contentId : Bytes} (fresh : progress.Fresh) :
    (dialogue context jsonC request (.like contentId) json).Keeps Concluded
      (portalHttpRouteLike request contentId json) progress := by
  unfold portalHttpRouteLike
  simp only
  split
  · next refused =>
      exact portalHttpResponseError_keeps fresh.attempt
        (.declined fresh.asked (.contentId (by simpa using refused)))
  next accepted =>
  have accepted : portalValidationKey (some contentId) 300 = true := by simpa using accepted
  refine activityLoadActor_keeps fresh .like fun outcome later loaded => ?_
  cases loaded with
  | refused opened unidentified => exact activityActorError_keeps .like opened unidentified
  | @identified session status actor opened valid identified =>
  by_cases put : request.method = bytes "PUT"
  · have isPut : request.isPut = true := by simp [Request.isPut, put]
    simp only [valid, put, decide_true, Bool.true_and, Bool.not_true, Bool.false_and,
      Bool.or_false, ↓reduceIte]
    split
    · next refused =>
        have missing : portalKeyField json = none := portalKeyField_eq_none.mpr refused
        exact portalHttpResponseError_keeps opened.attempt
          (.declined opened.asked (.like isPut missing))
    next named =>
    obtain ⟨portalKey, read⟩ : ∃ portalKey, portalKeyField json = some portalKey :=
      Option.ne_none_iff_exists'.mp fun missing => named (portalKeyField_eq_none.mp missing)
    simp only [(portalKeyField_eq_some.mp read).1, Option.getD_some]
    have mandated : Mandated context jsonC request json session (.like contentId)
        (.likeInsert contentId (actorUserId status actor) (actorAnonymousId status actor)
          actor.actorKey portalKey) := .likeInsert accepted identified read isPut
    refine portalDatabaseQuery_keeps opened mandated fun result later heard => ?_
    split
    · next other =>
        exact portalHttpResponseError_keeps heard.attempt
          (heard.failure mandated (by simpa [Statement.Served] using other))
    · next tuples =>
        exact portalHttpResponseBytes_keeps heard.attempt
          (heard.success (by simpa [Statement.Served] using tuples))
  · have other : request.isPut = false := by simp [Request.isPut, put]
    have mandated : Mandated context jsonC request json session (.like contentId)
        (.likeDelete contentId actor.actorKey) := .likeDelete accepted identified other
    simp only [valid, put, decide_false, Bool.false_and, Bool.false_eq_true, Bool.not_false,
      Bool.true_and, Bool.false_or, ↓reduceIte]
    refine portalDatabaseQuery_keeps opened mandated fun result later heard => ?_
    split
    · next other =>
        exact portalHttpResponseError_keeps heard.attempt
          (heard.failure mandated (by simpa [Statement.Served] using other))
    · next removed =>
        exact portalHttpResponseBytes_keeps heard.attempt
          (heard.success (by simpa [Statement.Served] using removed))

theorem portalHttpRouteComment_keeps {contentId : Bytes} (fresh : progress.Fresh) :
    (dialogue context jsonC request (.comment contentId) json).Keeps Concluded
      (portalHttpRouteComment request contentId json) progress := by
  unfold portalHttpRouteComment
  simp only
  split
  · next refused =>
      exact portalHttpResponseError_keeps fresh.attempt
        (.declined fresh.asked (.comment (commentFields_eq_none.mpr refused)))
  next accepted =>
  obtain ⟨fields, read⟩ : ∃ fields, commentFields contentId json = some fields :=
    Option.ne_none_iff_exists'.mp fun missing => accepted (commentFields_eq_none.mp missing)
  obtain ⟨_, portalKey, body, author⟩ := commentFields_eq_some.mp read
  have portalKey := (portalKeyField_eq_some.mp portalKey).1
  refine activityLoadActor_keeps fresh .comment fun outcome later loaded => ?_
  cases loaded with
  | refused opened unidentified => exact activityActorError_keeps .comment opened unidentified
  | @identified session status actor opened valid identified =>
  have mandated : Mandated context jsonC request json session (.comment contentId)
      (.commentInsert contentId (actorUserId status actor) (actorAnonymousId status actor)
        fields.authorName fields.body fields.portalKey) := .comment read identified
  simp only [valid, ↓reduceIte, portalKey, body, Option.getD_some, ← author]
  refine portalDatabaseQuery_keeps opened mandated fun result later heard => ?_
  split
  · next other =>
      exact portalHttpResponseError_keeps heard.attempt
        (heard.failure mandated (not_and_or.mpr (by simpa using other)))
  · next one =>
      exact describing_keeps heard.attempt
        (heard.success (by simpa [Statement.Served] using one))

theorem Endpoint.handler_keeps (endpoint : Endpoint) (fresh : progress.Fresh) :
    (dialogue context jsonC request endpoint json).Keeps Concluded
      (endpoint.handler context jsonC request json) progress := by
  have calm := fresh.attempt
  cases endpoint with
  | options =>
      have told : Told context jsonC request json progress .options _ := .preflight
      exact allocate_keeps calm
        (allocate_keeps calm (mhdQueueResponse_keeps calm told) (abandon_keeps calm))
        (abandon_keeps calm)
  | health =>
      refine .perform (.status calm rfl) fun link => ?_
      cases link with
      | connectionOk => exact portalHttpResponseBytes_keeps calm (.healthy rfl)
      | connectionBad => exact portalHttpResponseError_keeps calm (.unavailable rfl)
  | topContent => exact portalHttpRouteTopContent_keeps fresh
  | favoriteList kind => exact portalHttpRouteFavoriteList_keeps fresh
  | logout => exact portalHttpRouteLogout_keeps fresh
  | favoriteChange kind key => exact portalHttpRouteFavoriteChange_keeps fresh
  | register => exact portalHttpRouteRegister_keeps fresh
  | confirm => exact portalHttpRouteConfirm_keeps fresh
  | login => exact portalHttpRouteLogin_keeps fresh
  | activity => exact portalHttpRouteActivity_keeps fresh
  | like contentId => exact portalHttpRouteLike_keeps fresh
  | comment contentId => exact portalHttpRouteComment_keeps fresh
  | longContentId =>
      exact portalHttpResponseError_keeps calm (.declined fresh.asked .longContentId)
  | invalidJson => exact portalHttpResponseError_keeps calm (.declined fresh.asked .invalidJson)
  | notFound => exact portalHttpResponseError_keeps calm (.declined fresh.asked .notFound)

end Handlers

section Dispatch

variable {context : PortalHttpContext} {jsonC : JsonC} {request : Request}

/-- What the body is parsed as, with what this asks for. Only a tokener that cannot be
allocated makes it differ from what the body holds. -/
inductive Parsed (jsonC : JsonC) (request : Request) :
    List (Inquiry Operation.Answer) → Option Json → Prop where
  | unallocated : Parsed jsonC request [] (readJson jsonC request.body)
  | allocated : Parsed jsonC request [⟨.allocate .jsonTokener, true⟩] (readJson jsonC request.body)
  | refused : Parsed jsonC request [⟨.allocate .jsonTokener, false⟩] none

theorem portalHttpRequestParseJson_parsed {path : List (Inquiry Operation.Answer)}
    {parsed : Option Json} (taken : Path (portalHttpRequestParseJson jsonC request.body) path parsed) :
    Parsed jsonC request path parsed := by
  unfold portalHttpRequestParseJson at taken
  split at taken
  · next unread =>
      cases taken with
      | done =>
          have read : readJson jsonC request.body = none := if_pos unread
          exact read ▸ .unallocated
  · next readable =>
      have read : readJson jsonC request.body = parsedObject jsonC request.body := if_neg readable
      cases taken with
      | call answer taken =>
          cases answer with
          | false =>
              cases taken with
              | done => exact .refused
          | true =>
              cases taken with
              | done => exact read ▸ .allocated

/-- The dispatcher parses the body when it has to, and enters one handler. -/
theorem httpDispatch_eq :
    httpDispatch context jsonC request =
      (if request.bodylessEndpoint.isNone && bodyExpected request then
          portalHttpRequestParseJson jsonC request.body
        else pure (readJson jsonC request.body)) >>= fun parsed =>
      (request.routed parsed).1.handler context jsonC request (request.routed parsed).2 := by
  unfold httpDispatch Request.routed
  rw [httpDispatchWithoutBody_eq context jsonC none]
  cases request.bodylessEndpoint with
  | some endpoint =>
      simp only [Program.bind_bind]
      exact Program.bind_pure _
  | none =>
      cases bodyExpected request with
      | false => exact httpDispatchJsonRoute_eq
      | true =>
          simp only [Option.isNone_none, Bool.and_self, ↓reduceIte]
          refine congrArg (portalHttpRequestParseJson jsonC request.body >>= ·)
            (funext fun parsed => ?_)
          cases parsed with
          | none => rfl
          | some json => exact httpDispatchJsonRoute_eq

variable {path opening later : List (Inquiry Operation.Answer)} {value : MhdResult}
  {parsed : Option Json}

/-- Behind the parser a request takes the path of the handler that it is routed to. -/
theorem httpDispatch_parsed (taken : Path (httpDispatch context jsonC request) path value) :
    ∃ opening later parsed, path = opening ++ later ∧ Parsed jsonC request opening parsed ∧
      Path ((request.routed parsed).1.handler context jsonC request (request.routed parsed).2)
        later value := by
  rw [httpDispatch_eq] at taken
  obtain ⟨opening, parsed, later, rfl, before, after⟩ := taken.bind_inv
  have read : Parsed jsonC request opening parsed := by
    split at before
    · exact portalHttpRequestParseJson_parsed before
    · cases before with
      | done => exact .unallocated
  exact ⟨opening, later, parsed, rfl, read, after⟩

/-- What the parser asks for is no part of any dialogue, and the handler keeps to its own. -/
theorem Parsed.keeps (read : Parsed jsonC request opening parsed)
    (taken : Path ((request.routed parsed).1.handler context jsonC request
      (request.routed parsed).2) later value) :
    (dialogue context jsonC request (request.routed parsed).1 (request.routed parsed).2).Admits
        .start (opening ++ later) ∧
      Concluded value ((dialogue context jsonC request (request.routed parsed).1
        (request.routed parsed).2).after .start (opening ++ later)) := by
  rw [Protocol.admits_append, Protocol.after_append]
  have opened : (dialogue context jsonC request (request.routed parsed).1
      (request.routed parsed).2).Admits .start opening ∧
      ((dialogue context jsonC request (request.routed parsed).1
        (request.routed parsed).2).after .start opening).Fresh := by
    cases read with
    | unallocated => exact ⟨trivial, rfl, rfl, rfl, rfl⟩
    | allocated => exact ⟨⟨.allocate rfl, trivial⟩, rfl, rfl, rfl, rfl⟩
    | refused => exact ⟨⟨.allocate rfl, trivial⟩, rfl, rfl, rfl, rfl⟩
  obtain ⟨admitted, concluded⟩ := (Endpoint.handler_keeps _ opened.2).path taken
  exact ⟨⟨opened.1, admitted⟩, concluded⟩

/-- Whatever is answered, the dispatcher keeps to the dialogue of the endpoint that the
request is routed to. -/
theorem httpDispatch_dialogue (taken : Path (httpDispatch context jsonC request) path value) :
    ∃ opening later parsed, path = opening ++ later ∧ Parsed jsonC request opening parsed ∧
      (dialogue context jsonC request (request.routed parsed).1 (request.routed parsed).2).Admits
        .start path ∧
      Concluded value ((dialogue context jsonC request (request.routed parsed).1
        (request.routed parsed).2).after .start path) := by
  obtain ⟨opening, later, parsed, rfl, read, taken⟩ := httpDispatch_parsed taken
  exact ⟨opening, later, parsed, rfl, read, read.keeps taken⟩

end Dispatch

namespace Reference

/-- Answers that find a session and let everything succeed. -/
def obliging : Semantics Operation.Answer Unit
  | .allocate _, _ => (true, ())
  | .realloc buffer _, _ => (some buffer, ())
  | .pqStatus, _ => (.connectionOk, ())
  | .pqExecParams (.authenticate _), _ =>
    (some (.tuples [[uuidOut (draw 1), bytes "ana@example.com"]]), ())
  | .pqExecParams _, _ => (some .command, ())
  | .mhdQueueResponse _, _ => (.yes, ())

def ending : Call := logout (uuidOut (draw 3)) 0 0

/-- What ending a session asks for. -/
def endingPath : List (Inquiry Operation.Answer) :=
  ((httpDispatch (service []).context (jsonC []) ending.request).trace obliging ()).map
    Called.inquiry

end Reference

/-- The seven operations that end a session, and their dialogue. -/
theorem httpDispatch_dialogue_ending :
    Reference.endingPath.length = 7 ∧
      ∃ opening later parsed, Reference.endingPath = opening ++ later ∧
        Parsed (Reference.jsonC []) Reference.ending.request opening parsed ∧
        (dialogue (Reference.service []).context (Reference.jsonC []) Reference.ending.request
          (Reference.ending.request.routed parsed).1
          (Reference.ending.request.routed parsed).2).Admits .start Reference.endingPath ∧
        Concluded .yes ((dialogue (Reference.service []).context (Reference.jsonC [])
          Reference.ending.request (Reference.ending.request.routed parsed).1
          (Reference.ending.request.routed parsed).2).after .start Reference.endingPath) := by
  have taken : Path (httpDispatch (Reference.service []).context (Reference.jsonC [])
      Reference.ending.request) Reference.endingPath .yes :=
    Path.of_semantics Reference.obliging _ ()
  exact ⟨by decide +kernel, httpDispatch_dialogue taken⟩

end PortalApi
