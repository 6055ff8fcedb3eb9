import PortalApi.ServiceRuns

/-! The statements of the routes do not fail on what the validators accept, but
for the encoding of a text, the JSON of an event and the case of an email. -/

set_option autoImplicit false

namespace PortalApi

open Library

/-- The UUIDs that a request draws for its new rows are not in use. -/
structure Environment.Fresh (environment : Environment) (database : Database) : Prop where
  sessions : ∀ transaction, environment.Offers transaction → ∀ row ∈ database.authSessions,
    row.token ≠ transaction.genRandomUuid .authSessionsToken 0
  comments : ∀ transaction, environment.Offers transaction → ∀ row ∈ database.comments,
    row.id ≠ transaction.genRandomUuid .commentsId 0

section Texts

variable {postgres : Postgres}

theorem portalValidationKey_ascii {text : Bytes} {maximumLength : Nat}
    (accepted : portalValidationKey (some text) maximumLength = true) :
    Ascii text ∧ 1 ≤ text.length ∧ text.length ≤ maximumLength := by
  obtain ⟨same, equal, positive, bounded, characters⟩ := portalValidationKey_iff.mp accepted
  cases equal
  exact ⟨fun character member => isKeyCharacter_ascii (characters character member), positive,
    bounded⟩

theorem portalKeyField_ascii {json : Option Json} {portalKey : Bytes}
    (read : portalKeyField json = some portalKey) :
    Ascii portalKey ∧ 1 ≤ portalKey.length ∧ portalKey.length ≤ 120 :=
  portalValidationKey_ascii (portalKeyField_eq_some.mp read).2

theorem Actor.ascii_userIdText (lawful : postgres.Lawful) (actor : Actor) :
    Ascii (actor.userIdText postgres) := by
  cases actor with
  | user id => exact lawful.ascii_uuidOut id
  | anonymous id => exact fun _ member => nomatch member

theorem Actor.ascii_anonymousIdText (actor : Actor) : Ascii actor.anonymousIdText := by
  cases actor with
  | user id => exact fun _ member => nomatch member
  | anonymous id => exact id.ascii

/-- The rows of an actor name it in one of the two columns, in its bounds. -/
theorem Actor.named (actor : Actor) :
    (actor.userId.isSome || actor.anonymousId.isSome) = true ∧
      (actor.anonymousId.all fun id => 8 ≤ charLength id && charLength id ≤ 200) = true := by
  cases actor with
  | user id => exact ⟨rfl, rfl⟩
  | anonymous id =>
      have bounds := id.length
      exact ⟨rfl, by simpa [Actor.anonymousId, id.ascii.charLength] using bounds⟩

theorem recordedEvent_check {transaction : Transaction} {database : Database} {actor : Actor}
    {portalKey eventType stored : Bytes} {contentId componentId pageUrl : Option Bytes}
    (portal : Ascii portalKey ∧ 1 ≤ portalKey.length ∧ portalKey.length ≤ 120)
    (type : eventTypes.contains eventType = true) :
    (recordedEvent transaction database actor.userId actor.anonymousId portalKey eventType
      contentId componentId pageUrl stored).check = true := by
  obtain ⟨identity, bounds⟩ := actor.named
  obtain ⟨ascii, positive, bounded⟩ := portal
  simp only [ActivityEventRow.check, recordedEvent, identity, ascii.charLength, positive, bounded,
    type, bounds, decide_true, Bool.and_self]

end Texts

section Statements

variable {postgres : Postgres} {transaction : Transaction} {database : Database}
  {config : PortalConfig}

theorem Database.hasOwner_of_references {userId : Option Uuid}
    (known : database.References userId) : database.hasOwner userId = true := by
  cases userId with
  | none => rfl
  | some id => exact Database.hasUser_iff.mpr (known id rfl)

theorem LoginFields.execute_total (lawful : postgres.Lawful) (valid : database.Valid postgres.lower)
    {fields : LoginFields} (encoded : (fields.statement config).Encoded)
    (fresh : ∀ row ∈ database.authSessions, row.token ≠ transaction.genRandomUuid .authSessionsToken 0) :
    ∃ outcome, execute postgres transaction (fields.statement config) database = .ok outcome := by
  refine ⟨_, execute_eq_ok.mpr ⟨encoded, executeLogin_eq_ok.mpr
    ⟨_, _, config.int4In_tokenTtl lawful, rfl, ?_, rfl⟩⟩⟩
  obtain ⟨_, found⟩ | ⟨user, _, _, found⟩ := filter_candidate valid fields.email fields.password
  · simpa [found] using valid.sessionKeys
  · rw [found]
    exact Table.nodup_append_fresh valid.sessionKeys fresh

/-- A registration that the server refuses for a duplicate had texts it can store. -/
theorem RegisterFields.execute_refused (lawful : postgres.Lawful) {fields : RegisterFields}
    {failure : SqlError}
    (refused : execute postgres transaction (fields.statement config) database = .error failure) :
    failure = .uniqueViolation ↔ (fields.statement config).Encoded ∧
      (fields.user postgres transaction).check postgres.lower = true := by
  have read : castInt4 postgres config.confirmationTtl = .ok config.confirmationTtlHours.toNat :=
    castInt4_eq_ok.mpr (config.int4In_confirmationTtl lawful)
  simp only [execute, except_bind_eq_error, ensure_eq_error] at refused
  rcases refused with ⟨unencoded, rfl⟩ | ⟨_, encoded, refused⟩
  · have wrong : ¬ (fields.statement config).Encoded := by
      intro all
      simp [List.all_eq_true.mpr all] at unencoded
    simp [wrong]
  · have right : (fields.statement config).Encoded :=
      List.all_eq_true.mp (ensure_eq_ok.mp encoded)
    simp only [RegisterFields.statement, executeConverted, executeRegister, read,
      except_bind_eq_error, ensure_eq_error, reduceCtorEq, false_or, Except.ok.injEq,
      exists_eq_left'] at refused
    rcases refused with ⟨unchecked, rfl⟩ | ⟨_, checked, ⟨_, rfl⟩ | ⟨_, _, ⟨_, rfl⟩ | ⟨_, _, impossible⟩⟩⟩
    · have wrong : (fields.user postgres transaction).check postgres.lower = false := unchecked
      simp [wrong]
    · have sound : (fields.user postgres transaction).check postgres.lower = true :=
        ensure_eq_ok.mp checked
      simp [right, sound]
    · have sound : (fields.user postgres transaction).check postgres.lower = true :=
        ensure_eq_ok.mp checked
      simp [right, sound]
    · cases impossible

section Favorites

variable {kind : PortalFavoriteKind} {user : UserRow}

theorem favoriteList_total (lawful : postgres.Lawful) :
    ∃ outcome, execute postgres transaction (.favoriteList kind (postgres.uuidOut user.id))
      database = .ok outcome := by
  refine ⟨_, execute_eq_ok.mpr ⟨?_, executeFavoriteList_eq_ok.mpr
    ⟨user.id, lawful.uuidIn_uuidOut user.id, rfl⟩⟩⟩
  simpa [Statement.Encoded, Statement.parameters] using
    Ascii.validUtf8 (lawful.ascii_uuidOut user.id)

theorem favoriteStatement_total (lawful : postgres.Lawful) (known : user ∈ database.users)
    {key : Bytes} (accepted : portalValidationKey (some key) 160 = true) (put : Bool) :
    ∃ outcome, execute postgres transaction (favoriteStatement postgres put kind user.id key)
      database = .ok outcome := by
  have identity := lawful.uuidIn_uuidOut user.id
  have idText := Ascii.validUtf8 (lawful.ascii_uuidOut user.id)
  obtain ⟨ascii, positive, bounded⟩ := portalValidationKey_ascii accepted
  cases put with
  | false =>
      refine ⟨_, execute_eq_ok.mpr ⟨?_, executeFavoriteDelete_eq_ok.mpr
        ⟨user.id, identity, rfl⟩⟩⟩
      simp [Statement.Encoded, favoriteStatement, Statement.parameters, idText, ascii.validUtf8]
  | true =>
      have encoded : (favoriteStatement postgres true kind user.id key).Encoded := by
        simp [Statement.Encoded, favoriteStatement, Statement.parameters, idText, ascii.validUtf8]
      have checked : ({ userId := user.id, key, createdAt := transaction.now } :
          FavoriteRow).check = true := by
        simp [FavoriteRow.check, ascii.charLength, positive, bounded]
      by_cases present : ∃ row ∈ database.favorites kind, row.userId = user.id ∧ row.key = key
      · exact ⟨_, execute_eq_ok.mpr ⟨encoded, executeFavoriteInsert_eq_ok.mpr
          ⟨user.id, identity, checked, .inl ⟨present, rfl⟩⟩⟩⟩
      · have absent : ∀ row ∈ database.favorites kind, ¬ (row.userId = user.id ∧ row.key = key) :=
          fun row member both => present ⟨row, member, both⟩
        have owner : database.hasUser user.id = true := Database.hasUser_iff.mpr ⟨user, known, rfl⟩
        exact ⟨_, execute_eq_ok.mpr ⟨encoded, executeFavoriteInsert_eq_ok.mpr
          ⟨user.id, identity, checked, .inr ⟨absent, owner, rfl⟩⟩⟩⟩

end Favorites

theorem TopContentRange.execute_total (lawful : postgres.Lawful) {request : Request}
    {range : TopContentRange} (read : topContentRange request = some range) {portalKey : Bytes}
    (accepted : portalValidationKey (some portalKey) 120 = true) :
    ∃ outcome, execute postgres transaction (range.statement portalKey) database = .ok outcome := by
  obtain ⟨⟨_, days⟩, _, limit⟩ := TopContentRange.bounds read
  have readDays : castInt4 postgres (decimal range.days.toNat) = .ok range.days.toNat :=
    castInt4_eq_ok.mpr (lawful.int4In_decimal _ (by omega))
  have readLimit : castInt4 postgres (decimal range.limit.toNat) = .ok range.limit.toNat :=
    castInt4_eq_ok.mpr (lawful.int4In_decimal _ (by omega))
  have encoded : (range.statement portalKey).Encoded := by
    simp [Statement.Encoded, TopContentRange.statement, Statement.parameters,
      (portalValidationKey_ascii accepted).1.validUtf8, (decimal_ascii _).validUtf8]
  have ran : ∃ outcome, executeConverted postgres transaction (range.statement portalKey)
      database = .ok outcome := by
    simp only [TopContentRange.statement, executeConverted, executeTopContent, readDays, readLimit]
    exact ⟨_, rfl⟩
  obtain ⟨outcome, ran⟩ := ran
  exact ⟨outcome, execute_eq_ok.mpr ⟨encoded, ran⟩⟩

section Actors

variable {actor : Actor}

theorem likeStatement_total (lawful : postgres.Lawful) (known : database.References actor.userId)
    {contentId : Bytes} (accepted : portalValidationKey (some contentId) 300 = true)
    {portal : Option Bytes}
    (sound : ∀ portalKey, portal = some portalKey →
      Ascii portalKey ∧ 1 ≤ portalKey.length ∧ portalKey.length ≤ 120) :
    ∃ outcome, execute postgres transaction (likeStatement postgres contentId actor portal)
      database = .ok outcome := by
  have content := (portalValidationKey_ascii accepted).1.validUtf8
  have key := (actor.ascii_key lawful).validUtf8
  cases portal with
  | none =>
      refine ⟨_, execute_eq_ok.mpr ⟨?_, executeLikeDelete_eq_ok.mpr rfl⟩⟩
      simp [Statement.Encoded, likeStatement, Statement.parameters, content, key]
  | some portalKey =>
      have bounds := sound portalKey rfl
      have encoded : (likeStatement postgres contentId actor (some portalKey)).Encoded := by
        simp [Statement.Encoded, likeStatement, Statement.parameters, content, key,
          bounds.1.validUtf8, (actor.ascii_userIdText lawful).validUtf8,
          actor.ascii_anonymousIdText.validUtf8]
      have owner := actor.nullIfUuid_userIdText lawful
      have checked : (addedLike transaction database contentId actor.userId
          (nullIf actor.anonymousIdText) (actor.key postgres)).check = true := by
        rw [actor.nullIf_anonymousIdText]
        exact actor.named.1
      by_cases present : ∃ row ∈ database.contentLikes,
          row.contentId = contentId ∧ row.actorKey = actor.key postgres
      · exact ⟨_, execute_eq_ok.mpr ⟨encoded, executeLikeInsert_eq_ok.mpr
          ⟨_, _, owner, rfl, checked, .inl ⟨present, rfl⟩⟩⟩⟩
      · have absent : ∀ row ∈ database.contentLikes,
            ¬ (row.contentId = contentId ∧ row.actorKey = actor.key postgres) :=
          fun row member both => present ⟨row, member, both⟩
        have event : (derivedEvent transaction database actor.userId
            (nullIf actor.anonymousIdText) portalKey (bytes "like") contentId).check = true := by
          rw [actor.nullIf_anonymousIdText]
          exact recordedEvent_check bounds (by decide)
        exact ⟨_, execute_eq_ok.mpr ⟨encoded, executeLikeInsert_eq_ok.mpr
          ⟨_, _, owner, rfl, checked, .inr ⟨absent, _, rfl, event,
            Database.hasOwner_of_references known, rfl⟩⟩⟩⟩

theorem ActivityFields.execute_total (lawful : postgres.Lawful)
    (known : database.References actor.userId) {json : Option Json} {fields : ActivityFields}
    (read : activityFields json = some fields) {data : Bytes}
    (encoded : (fields.statement postgres actor data).Encoded)
    (stored : (postgres.jsonbIn data).isSome = true) :
    ∃ outcome, execute postgres transaction (fields.statement postgres actor data) database =
      .ok outcome := by
  obtain ⟨value, converted⟩ := Option.isSome_iff_exists.mp stored
  obtain ⟨portal, _, type, _⟩ := activityFields_eq_some.mp read
  obtain ⟨same, equal, supported⟩ := portalValidationEventType_iff.mp type
  cases equal
  have event : (recordedEvent transaction database actor.userId (nullIf actor.anonymousIdText)
      fields.portalKey fields.eventType (nullIf fields.contentId) (nullIf fields.componentId)
      (nullIf fields.pageUrl) value).check = true := by
    rw [actor.nullIf_anonymousIdText]
    exact recordedEvent_check (portalKeyField_ascii portal) (by simpa [eventTypes] using supported)
  exact ⟨_, execute_eq_ok.mpr ⟨encoded, executeActivityInsert_eq_ok.mpr
    ⟨value, _, _, converted, actor.nullIfUuid_userIdText lawful, rfl, event,
      Database.hasOwner_of_references known, rfl⟩⟩⟩

theorem CommentFields.execute_total (lawful : postgres.Lawful)
    (known : database.References actor.userId) {json : Option Json} {contentId : Bytes}
    {fields : CommentFields} (read : commentFields contentId json = some fields)
    (encoded : (fields.statement postgres actor contentId).Encoded)
    (fresh : ∀ row ∈ database.comments, row.id ≠ transaction.genRandomUuid .commentsId 0) :
    ∃ outcome, execute postgres transaction (fields.statement postgres actor contentId) database =
      .ok outcome := by
  obtain ⟨_, portal, body, _⟩ := commentFields_eq_some.mp read
  obtain ⟨_, atLeast, atMost⟩ := portalHttpJsonString_eq_some.mp body
  have wellFormed : validUtf8 fields.body = true :=
    encoded fields.body (by simp [CommentFields.statement, Statement.parameters])
  have comment : (addedComment transaction contentId actor.userId (nullIf actor.anonymousIdText)
      (nullIf fields.authorName) fields.body).check = true := by
    have present : fields.body ≠ [] := by
      intro empty
      simp [empty] at atLeast
    have positive := charLength_pos wellFormed present
    have bounded : charLength fields.body ≤ 5000 :=
      Nat.le_trans (charLength_le_length fields.body) atMost
    rw [actor.nullIf_anonymousIdText]
    simp [CommentRow.check, addedComment, actor.named.1, positive, bounded]
  have event : (derivedEvent transaction database actor.userId (nullIf actor.anonymousIdText)
      fields.portalKey (bytes "comment") contentId).check = true := by
    rw [actor.nullIf_anonymousIdText]
    exact recordedEvent_check (portalKeyField_ascii portal) (by decide)
  exact ⟨_, execute_eq_ok.mpr ⟨encoded, executeCommentInsert_eq_ok.mpr
    ⟨_, _, _, actor.nullIfUuid_userIdText lawful, rfl, rfl, comment, fresh, event,
      Database.hasOwner_of_references known, rfl⟩⟩⟩

end Actors

end Statements

end PortalApi
