import PortalApi.Database.Statements

/-! When each statement commits and what it commits, and that a committed
statement keeps every declared constraint. -/

set_option autoImplicit false

namespace PortalApi

open Library

section Outcomes

theorem except_bind_eq_ok {ε α β : Type} {source : Except ε α} {next : α → Except ε β} {result : β} :
    (source >>= next) = .ok result ↔ ∃ value, source = .ok value ∧ next value = .ok result := by
  cases source with
  | error failure => simp [bind, Except.bind]
  | ok value => simp [bind, Except.bind]

theorem ensure_eq_ok {condition : Bool} {failure : SqlError} {value : Unit} :
    ensure condition failure = .ok value ↔ condition = true := by
  cases condition <;> simp [ensure]

theorem except_bind_eq_error {ε α β : Type} {source : Except ε α} {next : α → Except ε β}
    {failure : ε} :
    source >>= next = .error failure ↔
      source = .error failure ∨ ∃ value, source = .ok value ∧ next value = .error failure := by
  cases source <;> simp [bind, Except.bind]

theorem ensure_eq_error {condition : Bool} {failure refused : SqlError} :
    ensure condition failure = .error refused ↔ condition = false ∧ refused = failure := by
  cases condition <;> simp [ensure, eq_comm]

theorem castUuid_eq_ok {postgres : Postgres} {text : Bytes} {id : Uuid} :
    castUuid postgres text = .ok id ↔ postgres.uuidIn text = some id := by
  unfold castUuid
  cases postgres.uuidIn text <;> simp

theorem castInt4_eq_ok {postgres : Postgres} {text : Bytes} {number : Int} :
    castInt4 postgres text = .ok number ↔ postgres.int4In text = some number := by
  unfold castInt4
  cases postgres.int4In text <;> simp

theorem castJsonb_eq_ok {postgres : Postgres} {text value : Bytes} :
    castJsonb postgres text = .ok value ↔ postgres.jsonbIn text = some value := by
  unfold castJsonb
  cases postgres.jsonbIn text <;> simp

variable {postgres : Postgres} {transaction : Transaction} {database : Database}
  {outcome : PgResult × Database}

theorem executeAuthenticate_eq_ok {token : Bytes} :
    executeAuthenticate postgres transaction database token = .ok outcome ↔
      ∃ id, postgres.uuidIn token = some id ∧
        outcome = (.tuples ((liveSessions transaction database id).map fun row =>
          [postgres.uuidOut row.2.id, row.2.email]), database) := by
  simp only [executeAuthenticate, except_bind_eq_ok, castUuid_eq_ok, Except.ok.injEq,
    eq_comm (b := outcome)]

theorem executeRegister_eq_ok {email password displayName ttl : Bytes} :
    executeRegister postgres transaction database email password displayName ttl = .ok outcome ↔
      ∃ hours, postgres.int4In ttl = some hours ∧
        (registeredUser postgres transaction email password displayName).check postgres.lower = true ∧
        (∀ row ∈ database.users,
          row.id ≠ transaction.genRandomUuid .usersId 0 ∧ row.email ≠ email) ∧
        (∀ row ∈ database.confirmationTokens,
          row.token ≠ transaction.genRandomUuid .confirmationTokensToken 0) ∧
        outcome = (.tuples [[postgres.uuidOut (transaction.genRandomUuid .confirmationTokensToken 0),
            postgres.timestampOut (transaction.now + hours * hour)]],
          { database with
            users := database.users ++ [registeredUser postgres transaction email password displayName]
            confirmationTokens := database.confirmationTokens ++
              [issuedToken transaction (transaction.genRandomUuid .usersId 0) hours] }) := by
  simp only [executeRegister, except_bind_eq_ok, castInt4_eq_ok, ensure_eq_ok, Except.ok.injEq,
    exists_const, List.all_eq_true, Bool.and_eq_true, bne_iff_ne, ne_eq, registeredUser, issuedToken]
  constructor
  · rintro ⟨hours, read, checked, fresh, unused, rfl⟩
    exact ⟨hours, read, checked, fresh, unused, rfl⟩
  · rintro ⟨hours, read, checked, fresh, unused, rfl⟩
    exact ⟨hours, read, checked, fresh, unused, rfl⟩

theorem executeConfirm_eq_ok {token : Bytes} :
    executeConfirm postgres transaction database token = .ok outcome ↔
      ∃ id, postgres.uuidIn token = some id ∧
        outcome =
          (.tuples ((database.users.filter (ownsOneOf
              (database.confirmationTokens.filter (consumable transaction.now id)))).map
            fun user => [postgres.uuidOut user.id]),
          { database with
            confirmationTokens := Table.update (consumable transaction.now id) (consume transaction)
              database.confirmationTokens
            users := Table.update (ownsOneOf
                (database.confirmationTokens.filter (consumable transaction.now id)))
              (confirmUser transaction) database.users }) := by
  simp only [executeConfirm, except_bind_eq_ok, castUuid_eq_ok, Except.ok.injEq,
    eq_comm (b := outcome)]

theorem executeLogin_eq_ok {email password ttl : Bytes} :
    executeLogin postgres transaction database email password ttl = .ok outcome ↔
      ∃ hours sessions, postgres.int4In ttl = some hours ∧
        sessions = (database.users.filter (candidate postgres email password)).mapIdx
          (openedSession transaction hours) ∧
        ((database.authSessions ++ sessions).map (·.token)).Nodup ∧
        outcome = (.tuples (sessions.map fun session =>
            [postgres.uuidOut session.token, postgres.timestampOut session.expiresAt]),
          { database with authSessions := database.authSessions ++ sessions }) := by
  simp only [executeLogin, except_bind_eq_ok, castInt4_eq_ok, ensure_eq_ok, Except.ok.injEq,
    exists_const, decide_eq_true_eq, eq_comm (b := outcome)]
  constructor
  · rintro ⟨hours, read, unique, same⟩
    exact ⟨hours, _, read, rfl, unique, same⟩
  · rintro ⟨hours, _, read, rfl, unique, same⟩
    exact ⟨hours, read, unique, same⟩

theorem executeLogout_eq_ok {token : Bytes} :
    executeLogout postgres transaction database token = .ok outcome ↔
      ∃ id, postgres.uuidIn token = some id ∧
        outcome = (.command,
          { database with
            authSessions := Table.update (revocable id) (revoke transaction)
              database.authSessions }) := by
  simp only [executeLogout, except_bind_eq_ok, castUuid_eq_ok, Except.ok.injEq,
    eq_comm (b := outcome)]

theorem executeFavoriteList_eq_ok {kind : PortalFavoriteKind} {userId : Bytes} :
    executeFavoriteList postgres database kind userId = .ok outcome ↔
      ∃ id, postgres.uuidIn userId = some id ∧
        outcome = (.tuples (((((database.favorites kind).filter fun row => row.userId = id).map
            (·.key)).insertionSort fun left right => postgres.textLe left right).map
            fun key => [key]), database) := by
  simp only [executeFavoriteList, except_bind_eq_ok, castUuid_eq_ok, Except.ok.injEq,
    eq_comm (b := outcome)]

/-- A favorite is inserted once; inserting it again changes nothing. -/
theorem executeFavoriteInsert_eq_ok {kind : PortalFavoriteKind} {userId key : Bytes} :
    executeFavoriteInsert postgres transaction database kind userId key = .ok outcome ↔
      ∃ id, postgres.uuidIn userId = some id ∧
        ({ userId := id, key, createdAt := transaction.now } : FavoriteRow).check = true ∧
        (((∃ row ∈ database.favorites kind, row.userId = id ∧ row.key = key) ∧
            outcome = (.command, database)) ∨
          ((∀ row ∈ database.favorites kind, ¬ (row.userId = id ∧ row.key = key)) ∧
            database.hasUser id = true ∧
            outcome = (.command, database.setFavorites kind (database.favorites kind ++
              [{ userId := id, key, createdAt := transaction.now }])))) := by
  simp only [executeFavoriteInsert, except_bind_eq_ok, castUuid_eq_ok, ensure_eq_ok, exists_const]
  refine exists_congr fun id => and_congr_right fun _ => and_congr_right fun _ => ?_
  split
  · next present =>
      simp only [List.any_eq_true, Bool.and_eq_true, decide_eq_true_eq] at present
      simp only [Except.ok.injEq, eq_comm (b := outcome), present, true_and]
      obtain ⟨row, member, same⟩ := present
      exact ⟨.inl, fun choice => choice.elim (fun same => same) fun ⟨absent, _⟩ => absurd same (absent row member)⟩
  · next absent =>
      simp only [List.any_eq_true, Bool.and_eq_true, decide_eq_true_eq, not_exists, not_and]
        at absent
      simp only [except_bind_eq_ok, ensure_eq_ok, exists_const, Except.ok.injEq,
        eq_comm (b := outcome)]
      constructor
      · rintro ⟨owner, same⟩
        exact .inr ⟨fun row member both => absent row member both.1 both.2, owner, same⟩
      · rintro (⟨⟨row, member, both⟩, _⟩ | ⟨_, owner, same⟩)
        · exact absurd both.2 (absent row member both.1)
        · exact ⟨owner, same⟩

theorem executeFavoriteDelete_eq_ok {kind : PortalFavoriteKind} {userId key : Bytes} :
    executeFavoriteDelete postgres database kind userId key = .ok outcome ↔
      ∃ id, postgres.uuidIn userId = some id ∧
        outcome = (.command, database.setFavorites kind ((database.favorites kind).filter
          fun row => !(row.userId = id && row.key = key))) := by
  simp only [executeFavoriteDelete, except_bind_eq_ok, castUuid_eq_ok, Except.ok.injEq,
    eq_comm (b := outcome)]

theorem executeActivityInsert_eq_ok
    {userId anonymousId portalKey eventType contentId componentId pageUrl eventData : Bytes} :
    executeActivityInsert postgres transaction database userId anonymousId portalKey eventType
        contentId componentId pageUrl eventData = .ok outcome ↔
      ∃ stored owner event, postgres.jsonbIn eventData = some stored ∧
        nullIfUuid postgres userId = .ok owner ∧
        event = recordedEvent transaction database owner (nullIf anonymousId) portalKey eventType
          (nullIf contentId) (nullIf componentId) (nullIf pageUrl) stored ∧
        event.check = true ∧ database.hasOwner owner = true ∧
        outcome = (.tuples [[decimal event.id]],
          { database with activityEvents := database.activityEvents ++ [event] }) := by
  simp only [executeActivityInsert, except_bind_eq_ok, castJsonb_eq_ok, ensure_eq_ok,
    Except.ok.injEq, exists_const, eq_comm (b := outcome)]
  constructor
  · rintro ⟨stored, read, owner, cast, checked, known, same⟩
    exact ⟨stored, owner, _, read, cast, rfl, checked, known, same⟩
  · rintro ⟨stored, owner, _, read, cast, rfl, checked, known, same⟩
    exact ⟨stored, read, owner, cast, checked, known, same⟩

/-- A like is stored once with its event; repeating it changes nothing. -/
theorem executeLikeInsert_eq_ok {contentId userId anonymousId actorKey portalKey : Bytes} :
    executeLikeInsert postgres transaction database contentId userId anonymousId actorKey
        portalKey = .ok outcome ↔
      ∃ owner like, nullIfUuid postgres userId = .ok owner ∧
        like = addedLike transaction database contentId owner (nullIf anonymousId) actorKey ∧
        like.check = true ∧
        (((∃ row ∈ database.contentLikes, row.contentId = contentId ∧ row.actorKey = actorKey) ∧
            outcome = (.tuples [], database)) ∨
          ((∀ row ∈ database.contentLikes, ¬ (row.contentId = contentId ∧ row.actorKey = actorKey)) ∧
            ∃ event, event = derivedEvent transaction database owner (nullIf anonymousId) portalKey
                (bytes "like") contentId ∧
              event.check = true ∧ database.hasOwner owner = true ∧
              outcome = (.tuples [[decimal event.id]],
                { database with
                  contentLikes := database.contentLikes ++ [like]
                  activityEvents := database.activityEvents ++ [event] }))) := by
  simp only [executeLikeInsert, except_bind_eq_ok, ensure_eq_ok, exists_const, exists_eq_left,
    exists_and_left]
  refine exists_congr fun owner => and_congr_right fun _ => and_congr_right fun _ => ?_
  split
  · next present =>
      simp only [List.any_eq_true, Bool.and_eq_true, decide_eq_true_eq] at present
      simp only [Except.ok.injEq, eq_comm (b := outcome), present, true_and]
      obtain ⟨row, member, same⟩ := present
      exact ⟨.inl, fun choice => choice.elim (fun same => same) fun ⟨absent, _⟩ => absurd same (absent row member)⟩
  · next absent =>
      simp only [List.any_eq_true, Bool.and_eq_true, decide_eq_true_eq, not_exists, not_and]
        at absent
      simp only [except_bind_eq_ok, ensure_eq_ok, exists_const, Except.ok.injEq,
        eq_comm (b := outcome)]
      constructor
      · rintro ⟨checked, known, same⟩
        exact .inr ⟨fun row member both => absent row member both.1 both.2, checked, known, same⟩
      · rintro (⟨⟨row, member, both⟩, _⟩ | ⟨_, checked, known, same⟩)
        · exact absurd both.2 (absent row member both.1)
        · exact ⟨checked, known, same⟩

theorem executeLikeDelete_eq_ok {contentId actorKey : Bytes} :
    executeLikeDelete database contentId actorKey = .ok outcome ↔
      outcome = (.command,
        { database with
          contentLikes := database.contentLikes.filter fun row =>
            !(row.contentId = contentId && row.actorKey = actorKey) }) := by
  simp only [executeLikeDelete, Except.ok.injEq, eq_comm (b := outcome)]

theorem executeCommentInsert_eq_ok {contentId userId anonymousId authorName body portalKey : Bytes} :
    executeCommentInsert postgres transaction database contentId userId anonymousId authorName body
        portalKey = .ok outcome ↔
      ∃ owner comment event, nullIfUuid postgres userId = .ok owner ∧
        comment = addedComment transaction contentId owner (nullIf anonymousId) (nullIf authorName)
          body ∧
        event = derivedEvent transaction database owner (nullIf anonymousId) portalKey
          (bytes "comment") contentId ∧
        comment.check = true ∧ (∀ row ∈ database.comments, row.id ≠ comment.id) ∧
        event.check = true ∧ database.hasOwner owner = true ∧
        outcome = (.tuples [[postgres.uuidOut comment.id, postgres.timestampOut comment.createdAt]],
          { database with
            comments := database.comments ++ [comment]
            activityEvents := database.activityEvents ++ [event] }) := by
  simp only [executeCommentInsert, except_bind_eq_ok, ensure_eq_ok, Except.ok.injEq, exists_const,
    List.all_eq_true, bne_iff_ne, ne_eq, eq_comm (b := outcome)]
  constructor
  · rintro ⟨owner, cast, checked, unused, eventChecked, known, same⟩
    exact ⟨owner, _, _, cast, rfl, rfl, checked, unused, eventChecked, known, same⟩
  · rintro ⟨owner, _, _, cast, rfl, rfl, checked, unused, eventChecked, known, same⟩
    exact ⟨owner, cast, checked, unused, eventChecked, known, same⟩

theorem executeTopContent_database {portalKey days limit : Bytes}
    (committed : executeTopContent postgres transaction database portalKey days limit = .ok outcome) :
    outcome.1.status = .tuplesOk ∧ outcome.2 = database := by
  simp only [executeTopContent, except_bind_eq_ok, castInt4_eq_ok, Except.ok.injEq] at committed
  obtain ⟨_, _, _, _, rfl⟩ := committed
  exact ⟨rfl, rfl⟩

/-- Every text parameter is in the client encoding. -/
def Statement.Encoded (statement : Statement) : Prop :=
  ∀ parameter ∈ statement.parameters, validUtf8 parameter = true

theorem execute_eq_ok {statement : Statement} :
    execute postgres transaction statement database = .ok outcome ↔
      statement.Encoded ∧ executeConverted postgres transaction statement database = .ok outcome := by
  simp only [execute, except_bind_eq_ok, ensure_eq_ok, exists_const, List.all_eq_true,
    Statement.Encoded]

/-- A text parameter read as a UUID. -/
def Postgres.castText (postgres : Postgres) (text : Bytes) : Option Uuid :=
  if validUtf8 text then postgres.uuidIn text else none

theorem Postgres.castText_eq_some {text : Bytes} {id : Uuid} :
    postgres.castText text = some id ↔
      validUtf8 text = true ∧ postgres.uuidIn text = some id := by
  unfold Postgres.castText
  split <;> simp_all

/-- A statement that a UUID would let commit fails only for a text that is none. -/
theorem Postgres.castText_of_error {statement : Statement} {text : Bytes} {failure : SqlError}
    (refused : execute postgres transaction statement database = .error failure)
    (commits : ∀ id, validUtf8 text = true → postgres.uuidIn text = some id →
      ∃ outcome, execute postgres transaction statement database = .ok outcome) :
    postgres.castText text = none := by
  cases cast : postgres.castText text with
  | none => rfl
  | some id =>
      obtain ⟨encoded, read⟩ := Postgres.castText_eq_some.mp cast
      obtain ⟨outcome, committed⟩ := commits id encoded read
      simp [committed] at refused

theorem execute_authenticate_ok {text : Bytes}
    (executed : execute postgres transaction (.authenticate text) database = .ok outcome) :
    ∃ id, postgres.castText text = some id ∧
      outcome = (.tuples ((liveSessions transaction database id).map fun row =>
        [postgres.uuidOut row.2.id, row.2.email]), database) := by
  obtain ⟨encoded, executed⟩ := execute_eq_ok.mp executed
  obtain ⟨id, read, same⟩ := executeAuthenticate_eq_ok.mp executed
  exact ⟨id, Postgres.castText_eq_some.mpr ⟨encoded text (List.mem_singleton_self _), read⟩, same⟩

theorem execute_authenticate_error {text : Bytes} {failure : SqlError}
    (refused : execute postgres transaction (.authenticate text) database = .error failure) :
    postgres.castText text = none :=
  Postgres.castText_of_error refused fun id encoded read =>
    ⟨_, execute_eq_ok.mpr ⟨by simpa [Statement.Encoded, Statement.parameters] using encoded,
      executeAuthenticate_eq_ok.mpr ⟨id, read, rfl⟩⟩⟩

theorem execute_confirm_error {text : Bytes} {failure : SqlError}
    (refused : execute postgres transaction (.confirm text) database = .error failure) :
    postgres.castText text = none :=
  Postgres.castText_of_error refused fun id encoded read =>
    ⟨_, execute_eq_ok.mpr ⟨by simpa [Statement.Encoded, Statement.parameters] using encoded,
      executeConfirm_eq_ok.mpr ⟨id, read, rfl⟩⟩⟩

theorem execute_logout_ok {text : Bytes}
    (executed : execute postgres transaction (.logout text) database = .ok outcome) :
    ∃ id, postgres.castText text = some id ∧
      outcome = (.command, { database with
        authSessions := Table.update (revocable id) (revoke transaction)
          database.authSessions }) := by
  obtain ⟨encoded, executed⟩ := execute_eq_ok.mp executed
  obtain ⟨id, read, same⟩ := executeLogout_eq_ok.mp executed
  exact ⟨id, Postgres.castText_eq_some.mpr ⟨encoded text (List.mem_singleton_self _), read⟩, same⟩

theorem execute_logout_error {text : Bytes} {failure : SqlError}
    (refused : execute postgres transaction (.logout text) database = .error failure) :
    postgres.castText text = none :=
  Postgres.castText_of_error refused fun id encoded read =>
    ⟨_, execute_eq_ok.mpr ⟨by simpa [Statement.Encoded, Statement.parameters] using encoded,
      executeLogout_eq_ok.mpr ⟨id, read, rfl⟩⟩⟩

end Outcomes

section Valid

variable {lower : Bytes → Bytes} {database : Database}

theorem Database.References.mono {userId : Option Uuid} {other : Database}
    (known : database.References userId)
    (kept : ∀ user ∈ database.users, ∃ same ∈ other.users, same.id = user.id) :
    other.References userId := by
  intro id equal
  obtain ⟨user, member, rfl⟩ := known id equal
  exact kept user member

theorem Database.Valid.withUsers (valid : database.Valid lower) {users : List UserRow}
    {tokens : List ConfirmationTokenRow}
    (kept : ∀ user ∈ database.users, ∃ same ∈ users, same.id = user.id)
    (userIds : (users.map (·.id)).Nodup) (userEmails : (users.map (·.email)).Nodup)
    (userChecks : ∀ row ∈ users, row.check lower = true)
    (tokenKeys : (tokens.map (·.token)).Nodup)
    (tokenOwners : ∀ row ∈ tokens, ∃ user ∈ users, user.id = row.userId) :
    ({ database with users := users, confirmationTokens := tokens } : Database).Valid lower := by
  have move : ∀ id, (∃ user ∈ database.users, user.id = id) → ∃ user ∈ users, user.id = id := by
    rintro id ⟨user, member, rfl⟩
    exact kept user member
  have favorites : ∀ kind, ({ database with users := users, confirmationTokens := tokens } :
      Database).favorites kind = database.favorites kind := by
    intro kind
    cases kind <;> rfl
  exact
    { valid with
      userIds
      userEmails
      userChecks
      tokenKeys
      tokenOwners
      sessionOwners := fun row member => move _ (valid.sessionOwners row member)
      favoriteKeys := fun kind => favorites kind ▸ valid.favoriteKeys kind
      favoriteOwners := fun kind row member =>
        move _ (valid.favoriteOwners kind row (favorites kind ▸ member))
      favoriteChecks := fun kind row member =>
        valid.favoriteChecks kind row (favorites kind ▸ member)
      eventOwners := fun row member => (valid.eventOwners row member).mono kept
      likeOwners := fun row member => (valid.likeOwners row member).mono kept
      commentOwners := fun row member => (valid.commentOwners row member).mono kept }

theorem Database.Valid.withSessions (valid : database.Valid lower)
    {sessions : List AuthSessionRow} (sessionKeys : (sessions.map (·.token)).Nodup)
    (sessionOwners : ∀ row ∈ sessions, ∃ user ∈ database.users, user.id = row.userId) :
    ({ database with authSessions := sessions } : Database).Valid lower := by
  have favorites : ∀ kind, ({ database with authSessions := sessions } : Database).favorites kind =
      database.favorites kind := by
    intro kind
    cases kind <;> rfl
  exact
    { valid with
      sessionKeys
      sessionOwners
      favoriteKeys := fun kind => favorites kind ▸ valid.favoriteKeys kind
      favoriteOwners := fun kind row member =>
        valid.favoriteOwners kind row (favorites kind ▸ member)
      favoriteChecks := fun kind row member =>
        valid.favoriteChecks kind row (favorites kind ▸ member) }

theorem Database.Valid.withFavorites (valid : database.Valid lower) (kind : PortalFavoriteKind)
    {rows : List FavoriteRow} (keys : (rows.map fun row => (row.userId, row.key)).Nodup)
    (owners : ∀ row ∈ rows, ∃ user ∈ database.users, user.id = row.userId)
    (checks : ∀ row ∈ rows, row.check = true) :
    (database.setFavorites kind rows).Valid lower := by
  have favorites : ∀ property : List FavoriteRow → Prop, property rows →
      (∀ other, property (database.favorites other)) →
      ∀ other, property ((database.setFavorites kind rows).favorites other) := by
    intro property here elsewhere other
    by_cases same : other = kind
    · subst same
      rwa [database.favorites_setFavorites]
    · rw [database.favorites_setFavorites_ne rows same]
      exact elsewhere other
  have favoriteKeys := favorites (fun rows => (rows.map fun row => (row.userId, row.key)).Nodup)
    keys valid.favoriteKeys
  have favoriteOwners := favorites
    (fun rows => ∀ row ∈ rows, ∃ user ∈ database.users, user.id = row.userId)
    owners valid.favoriteOwners
  have favoriteChecks := favorites (fun rows => ∀ row ∈ rows, row.check = true)
    checks valid.favoriteChecks
  cases kind with
  | favoriteSection => exact { valid with favoriteKeys, favoriteOwners, favoriteChecks }
  | favoriteTag => exact { valid with favoriteKeys, favoriteOwners, favoriteChecks }

/-- The three tables of the actors' actions hang on `users` only. -/
theorem Database.Valid.withActions (valid : database.Valid lower)
    {events : List ActivityEventRow} {likes : List ContentLikeRow} {comments : List CommentRow}
    (eventIds : (events.map (·.id)).Nodup)
    (eventRows : ∀ row ∈ events, database.References row.userId ∧ row.check = true)
    (likeIds : (likes.map (·.id)).Nodup)
    (likeActors : (likes.map fun row => (row.contentId, row.actorKey)).Nodup)
    (likeRows : ∀ row ∈ likes, database.References row.userId ∧ row.check = true)
    (commentIds : (comments.map (·.id)).Nodup)
    (commentRows : ∀ row ∈ comments, database.References row.userId ∧ row.check = true) :
    ({ database with
        activityEvents := events, contentLikes := likes, comments := comments } : Database).Valid
      lower := by
  have favorites : ∀ kind, ({ database with
      activityEvents := events, contentLikes := likes, comments := comments } : Database).favorites
        kind = database.favorites kind := by
    intro kind
    cases kind <;> rfl
  exact
    { valid with
      favoriteKeys := fun kind => favorites kind ▸ valid.favoriteKeys kind
      favoriteOwners := fun kind row member =>
        valid.favoriteOwners kind row (favorites kind ▸ member)
      favoriteChecks := fun kind row member =>
        valid.favoriteChecks kind row (favorites kind ▸ member)
      eventIds
      eventOwners := fun row member => (eventRows row member).1
      eventChecks := fun row member => (eventRows row member).2
      likeIds
      likeActors
      likeOwners := fun row member => (likeRows row member).1
      likeChecks := fun row member => (likeRows row member).2
      commentIds
      commentOwners := fun row member => (commentRows row member).1
      commentChecks := fun row member => (commentRows row member).2 }

theorem Database.Valid.eventRows (valid : database.Valid lower) :
    ∀ row ∈ database.activityEvents, database.References row.userId ∧ row.check = true :=
  fun row member => ⟨valid.eventOwners row member, valid.eventChecks row member⟩

theorem Database.Valid.likeRows (valid : database.Valid lower) :
    ∀ row ∈ database.contentLikes, database.References row.userId ∧ row.check = true :=
  fun row member => ⟨valid.likeOwners row member, valid.likeChecks row member⟩

theorem Database.Valid.commentRows (valid : database.Valid lower) :
    ∀ row ∈ database.comments, database.References row.userId ∧ row.check = true :=
  fun row member => ⟨valid.commentOwners row member, valid.commentChecks row member⟩

theorem Database.hasOwner_references {userId : Option Uuid}
    (known : database.hasOwner userId = true) : database.References userId := by
  intro id equal
  subst equal
  simpa [Database.hasOwner, Database.hasUser_iff] using known

theorem forall_mem_append_singleton {α : Type} {holds : α → Prop} {rows : List α} {row : α}
    (old : ∀ earlier ∈ rows, holds earlier) (new : holds row) :
    ∀ any ∈ rows ++ [row], holds any := by
  intro any member
  rcases List.mem_append.mp member with earlier | added
  · exact old any earlier
  · have same : any = row := by simpa using added
    exact same ▸ new

variable {postgres : Postgres} {transaction : Transaction} {outcome : PgResult × Database}

private theorem executeRegister_valid {email password displayName ttl : Bytes}
    (valid : database.Valid postgres.lower)
    (committed : executeRegister postgres transaction database email password displayName ttl =
      .ok outcome) : outcome.2.Valid postgres.lower := by
  obtain ⟨hours, _, checked, fresh, unused, rfl⟩ := executeRegister_eq_ok.mp committed
  have kept : ∀ user ∈ database.users, ∃ same ∈ database.users ++
      [registeredUser postgres transaction email password displayName], same.id = user.id :=
    fun user member => ⟨user, List.mem_append_left _ member, rfl⟩
  apply valid.withUsers kept
  · exact Table.nodup_append_fresh valid.userIds fun old member => (fresh old member).1
  · exact Table.nodup_append_fresh valid.userEmails fun old member => (fresh old member).2
  · exact forall_mem_append_singleton valid.userChecks checked
  · exact Table.nodup_append_fresh valid.tokenKeys unused
  · apply forall_mem_append_singleton
    · intro row member
      obtain ⟨user, present, same⟩ := valid.tokenOwners row member
      exact ⟨user, List.mem_append_left _ present, same⟩
    · exact ⟨_, List.mem_append_right _ (List.mem_singleton_self _), rfl⟩

private theorem executeConfirm_valid {token : Bytes} (valid : database.Valid postgres.lower)
    (committed : executeConfirm postgres transaction database token = .ok outcome) :
    outcome.2.Valid postgres.lower := by
  obtain ⟨id, _, rfl⟩ := executeConfirm_eq_ok.mp committed
  have sameIds : ∀ user, (confirmUser transaction user).id = user.id := fun _ => rfl
  have sameOwners : ∀ row, (consume transaction row).userId = row.userId := fun _ => rfl
  apply valid.withUsers fun user member => Table.exists_mem_update sameIds member
  · exact Table.nodup_update valid.userIds sameIds
  · exact Table.nodup_update valid.userEmails fun _ => rfl
  · intro row member
    rcases Table.mem_update.mp member with ⟨old, _⟩ | ⟨old, present, _, rfl⟩
    · exact valid.userChecks row old
    · exact valid.userChecks old present
  · exact Table.nodup_update valid.tokenKeys fun _ => rfl
  · intro row member
    have owner : ∃ old ∈ database.confirmationTokens, old.userId = row.userId := by
      rcases Table.mem_update.mp member with ⟨present, _⟩ | ⟨old, present, _, rfl⟩
      · exact ⟨row, present, rfl⟩
      · exact ⟨old, present, rfl⟩
    obtain ⟨old, present, same⟩ := owner
    obtain ⟨user, known, owns⟩ := valid.tokenOwners old present
    have updated : ∃ updated ∈ Table.update (ownsOneOf
        (database.confirmationTokens.filter (consumable transaction.now id)))
        (confirmUser transaction) database.users, updated.id = user.id :=
      Table.exists_mem_update sameIds known
    obtain ⟨updated, stored, equal⟩ := updated
    exact ⟨updated, stored, equal.trans (owns.trans same)⟩

private theorem executeLogin_valid {email password ttl : Bytes}
    (valid : database.Valid postgres.lower)
    (committed : executeLogin postgres transaction database email password ttl = .ok outcome) :
    outcome.2.Valid postgres.lower := by
  obtain ⟨hours, sessions, _, rfl, unique, rfl⟩ := executeLogin_eq_ok.mp committed
  apply valid.withSessions unique
  intro row member
  rcases List.mem_append.mp member with old | new
  · exact valid.sessionOwners row old
  · obtain ⟨index, bounded, rfl⟩ := List.mem_mapIdx.mp new
    exact ⟨_, (List.mem_filter.mp (List.getElem_mem bounded)).1, rfl⟩

private theorem executeLogout_valid {token : Bytes} (valid : database.Valid postgres.lower)
    (committed : executeLogout postgres transaction database token = .ok outcome) :
    outcome.2.Valid postgres.lower := by
  obtain ⟨id, _, rfl⟩ := executeLogout_eq_ok.mp committed
  have keys : ((Table.update (revocable id) (revoke transaction) database.authSessions).map
      (·.token)).Nodup := Table.nodup_update valid.sessionKeys fun _ => rfl
  apply valid.withSessions keys
  intro row member
  rcases Table.mem_update.mp member with ⟨old, _⟩ | ⟨old, present, _, rfl⟩
  · exact valid.sessionOwners row old
  · exact valid.sessionOwners old present

private theorem executeFavoriteInsert_valid {kind : PortalFavoriteKind} {userId key : Bytes}
    (valid : database.Valid postgres.lower)
    (committed : executeFavoriteInsert postgres transaction database kind userId key =
      .ok outcome) : outcome.2.Valid postgres.lower := by
  obtain ⟨id, _, checked, ⟨_, rfl⟩ | ⟨absent, known, rfl⟩⟩ :=
    executeFavoriteInsert_eq_ok.mp committed
  · exact valid
  · apply valid.withFavorites kind
    · apply Table.nodup_append_fresh (valid.favoriteKeys kind)
      intro old member same
      exact absent old member (by simpa using same)
    · exact forall_mem_append_singleton (valid.favoriteOwners kind) (Database.hasUser_iff.mp known)
    · exact forall_mem_append_singleton (valid.favoriteChecks kind) checked

private theorem executeFavoriteDelete_valid {kind : PortalFavoriteKind} {userId key : Bytes}
    (valid : database.Valid postgres.lower)
    (committed : executeFavoriteDelete postgres database kind userId key = .ok outcome) :
    outcome.2.Valid postgres.lower := by
  obtain ⟨id, _, rfl⟩ := executeFavoriteDelete_eq_ok.mp committed
  apply valid.withFavorites kind (Table.nodup_filter (valid.favoriteKeys kind) _)
  · exact fun row member => valid.favoriteOwners kind row (List.mem_filter.mp member).1
  · exact fun row member => valid.favoriteChecks kind row (List.mem_filter.mp member).1

private theorem executeActivityInsert_valid
    {userId anonymousId portalKey eventType contentId componentId pageUrl eventData : Bytes}
    (valid : database.Valid postgres.lower)
    (committed : executeActivityInsert postgres transaction database userId anonymousId portalKey
      eventType contentId componentId pageUrl eventData = .ok outcome) :
    outcome.2.Valid postgres.lower := by
  obtain ⟨stored, owner, event, _, _, rfl, checked, known, rfl⟩ :=
    executeActivityInsert_eq_ok.mp committed
  exact valid.withActions (Table.nodup_append_identity valid.eventIds rfl)
    (forall_mem_append_singleton valid.eventRows ⟨Database.hasOwner_references known, checked⟩)
    valid.likeIds valid.likeActors valid.likeRows valid.commentIds valid.commentRows

private theorem executeLikeInsert_valid {contentId userId anonymousId actorKey portalKey : Bytes}
    (valid : database.Valid postgres.lower)
    (committed : executeLikeInsert postgres transaction database contentId userId anonymousId
      actorKey portalKey = .ok outcome) : outcome.2.Valid postgres.lower := by
  obtain ⟨owner, like, _, rfl, checked, ⟨_, rfl⟩ | ⟨absent, event, rfl, eventChecked, known, rfl⟩⟩ :=
    executeLikeInsert_eq_ok.mp committed
  · exact valid
  · have owned := Database.hasOwner_references known
    refine valid.withActions (Table.nodup_append_identity valid.eventIds rfl)
      (forall_mem_append_singleton valid.eventRows ⟨owned, eventChecked⟩)
      (Table.nodup_append_identity valid.likeIds rfl) ?_
      (forall_mem_append_singleton valid.likeRows ⟨owned, checked⟩)
      valid.commentIds valid.commentRows
    apply Table.nodup_append_fresh valid.likeActors
    intro old member same
    exact absent old member (by simpa [addedLike] using same)

private theorem executeLikeDelete_valid {contentId actorKey : Bytes}
    (valid : database.Valid postgres.lower)
    (committed : executeLikeDelete database contentId actorKey = .ok outcome) :
    outcome.2.Valid postgres.lower := by
  obtain rfl := executeLikeDelete_eq_ok.mp committed
  exact valid.withActions valid.eventIds valid.eventRows (Table.nodup_filter valid.likeIds _)
    (Table.nodup_filter valid.likeActors _)
    (fun row member => valid.likeRows row (List.mem_filter.mp member).1) valid.commentIds
    valid.commentRows

private theorem executeCommentInsert_valid
    {contentId userId anonymousId authorName body portalKey : Bytes}
    (valid : database.Valid postgres.lower)
    (committed : executeCommentInsert postgres transaction database contentId userId anonymousId
      authorName body portalKey = .ok outcome) : outcome.2.Valid postgres.lower := by
  obtain ⟨owner, comment, event, _, rfl, rfl, checked, unused, eventChecked, known, rfl⟩ :=
    executeCommentInsert_eq_ok.mp committed
  have owned := Database.hasOwner_references known
  exact valid.withActions (Table.nodup_append_identity valid.eventIds rfl)
    (forall_mem_append_singleton valid.eventRows ⟨owned, eventChecked⟩) valid.likeIds
    valid.likeActors valid.likeRows (Table.nodup_append_fresh valid.commentIds unused)
    (forall_mem_append_singleton valid.commentRows ⟨owned, checked⟩)

/-- Every committed statement leaves a database that satisfies the schema. -/
theorem execute_valid {statement : Statement} (valid : database.Valid postgres.lower)
    (committed : execute postgres transaction statement database = .ok outcome) :
    outcome.2.Valid postgres.lower := by
  obtain ⟨_, committed⟩ := execute_eq_ok.mp committed
  cases statement with
  | authenticate token =>
      obtain ⟨id, _, rfl⟩ := executeAuthenticate_eq_ok.mp committed
      exact valid
  | register => exact executeRegister_valid valid committed
  | confirm => exact executeConfirm_valid valid committed
  | login => exact executeLogin_valid valid committed
  | logout => exact executeLogout_valid valid committed
  | favoriteList =>
      obtain ⟨id, _, rfl⟩ := executeFavoriteList_eq_ok.mp committed
      exact valid
  | favoriteInsert => exact executeFavoriteInsert_valid valid committed
  | favoriteDelete => exact executeFavoriteDelete_valid valid committed
  | activityInsert => exact executeActivityInsert_valid valid committed
  | likeInsert => exact executeLikeInsert_valid valid committed
  | likeDelete => exact executeLikeDelete_valid valid committed
  | commentInsert => exact executeCommentInsert_valid valid committed
  | topContent => exact (executeTopContent_database committed).2 ▸ valid

end Valid

end PortalApi
