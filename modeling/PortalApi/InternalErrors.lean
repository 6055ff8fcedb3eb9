import PortalApi.Passwords

/-! Which requests are answered with an internal error: those that send the
server a text it cannot take. -/

set_option autoImplicit false

namespace PortalApi

open Library

/-- The server can take every text that a request to this endpoint chooses and
the validators let through. -/
def Endpoint.Storable (service : Service) (call : Call) (world : World) (json : Option Json) :
    Endpoint → Prop
  | .register => ∀ fields, registerFields json = some fields →
    (validUtf8 fields.email = true ∧ validUtf8 fields.password = true ∧
      validUtf8 fields.displayName = true) ∧ fields.email = service.postgres.lower fields.email
  | .login => ∀ fields, loginFields json = some fields →
    validUtf8 fields.email = true ∧ validUtf8 fields.password = true
  | .activity => ∀ fields data actor, activityFields json = some fields →
    activityEventData service.jsonC json = some data →
    MayAct service.postgres call.environment call.request json world actor →
    (validUtf8 fields.contentId = true ∧ validUtf8 fields.componentId = true ∧
      validUtf8 fields.pageUrl = true ∧ validUtf8 data = true) ∧
      (service.postgres.jsonbIn data).isSome = true
  | .comment contentId => ∀ fields actor, commentFields contentId json = some fields →
    MayAct service.postgres call.environment call.request json world actor →
    validUtf8 fields.authorName = true ∧ validUtf8 fields.body = true
  | _ => True

section Fields

variable {postgres : Postgres} {config : PortalConfig} {json : Option Json}

theorem RegisterFields.encoded_iff {fields : RegisterFields} :
    (fields.statement config).Encoded ↔ validUtf8 fields.email = true ∧
      validUtf8 fields.password = true ∧ validUtf8 fields.displayName = true := by
  simp [Statement.Encoded, RegisterFields.statement, Statement.parameters,
    PortalConfig.confirmationTtl, (decimal_ascii _).validUtf8]

theorem ActivityFields.encoded_iff (lawful : postgres.Lawful) {fields : ActivityFields}
    (read : activityFields json = some fields) (actor : Actor) {data : Bytes} :
    (fields.statement postgres actor data).Encoded ↔ validUtf8 fields.contentId = true ∧
      validUtf8 fields.componentId = true ∧ validUtf8 fields.pageUrl = true ∧
      validUtf8 data = true := by
  obtain ⟨portal, _, type, _⟩ := activityFields_eq_some.mp read
  have eventType : validUtf8 fields.eventType = true := by
    obtain ⟨same, equal, supported⟩ := portalValidationEventType_iff.mp type
    cases equal
    revert supported
    generalize fields.eventType = text
    revert text
    decide
  simp [Statement.Encoded, ActivityFields.statement, Statement.parameters, eventType,
    (portalKeyField_ascii portal).1.validUtf8, (actor.ascii_userIdText lawful).validUtf8,
    actor.ascii_anonymousIdText.validUtf8]

theorem CommentFields.encoded_iff (lawful : postgres.Lawful) {contentId : Bytes}
    {fields : CommentFields} (read : commentFields contentId json = some fields) (actor : Actor) :
    (fields.statement postgres actor contentId).Encoded ↔
      validUtf8 fields.authorName = true ∧ validUtf8 fields.body = true := by
  obtain ⟨content, portal, _, _⟩ := commentFields_eq_some.mp read
  simp [Statement.Encoded, CommentFields.statement, Statement.parameters,
    (portalValidationKey_ascii content).1.validUtf8, (portalKeyField_ascii portal).1.validUtf8,
    (actor.ascii_userIdText lawful).validUtf8, actor.ascii_anonymousIdText.validUtf8]

/-- A display name of accepted length has an accepted number of characters. -/
theorem RegisterFields.check_iff {fields : RegisterFields} {transaction : Transaction}
    (read : registerFields json = some fields) (encoded : validUtf8 fields.displayName = true) :
    (fields.user postgres transaction).check postgres.lower = true ↔
      fields.email = postgres.lower fields.email := by
  have bounds : 1 ≤ fields.displayName.length ∧ fields.displayName.length ≤ 100 := by
    unfold registerFields at read
    split at read
    · next readName =>
        split at read
        · obtain rfl := Option.some.inj read
          exact (portalHttpJsonString_eq_some.mp readName).2
        · cases read
    · cases read
  have present : fields.displayName ≠ [] := by
    intro empty
    simp [empty] at bounds
  have positive := charLength_pos encoded present
  have bounded : charLength fields.displayName ≤ 100 :=
    Nat.le_trans (charLength_le_length fields.displayName) bounds.2
  simp only [UserRow.check, RegisterFields.user, registeredUser, positive, bounded, decide_true,
    Bool.and_true]
  exact decide_eq_true_iff

end Fields

section Ends

variable {service : Service} {call : Call} {world after : World} {json : Option Json}
  {reply : Option Response}

theorem Answered.internal_iff {environment : Environment} {response : Response}
    (answered : Answered environment response reply) (healthy : environment.Healthy) :
    statusOf reply ≠ some 500 ↔ response.status ≠ 500 := by
  simp [answered.certain healthy]

theorem registerEnds_internal (lawful : service.postgres.Lawful)
    (valid : after.database.Valid service.postgres.lower) (smooth : world.Smooth call.environment)
    (ends : RegisterEnds service.postgres call.environment service.context json world reply after) :
    statusOf reply ≠ some 500 ↔ Endpoint.register.Storable service call world json := by
  have healthy := smooth.healthy
  cases ends with
  | invalid none answered =>
      have storable : Endpoint.register.Storable service call world json := by
        intro fields read
        simp [none] at read
      simp [answered.internal_iff healthy, storable]
  | @failed _ fields result read failed answered =>
      obtain ⟨_, transaction, failure, _, _, refused, rfl⟩ := failed.cause smooth
      have duplicate : failure = .uniqueViolation ↔
          Endpoint.register.Storable service call world json := by
        rw [RegisterFields.execute_refused lawful refused, RegisterFields.encoded_iff]
        constructor
        · rintro ⟨texts, checked⟩ other again
          obtain rfl := Option.some.inj (read.symm.trans again)
          exact ⟨texts, (RegisterFields.check_iff read texts.2.2).mp checked⟩
        · intro storable
          obtain ⟨texts, lower⟩ := storable fields read
          exact ⟨texts, (RegisterFields.check_iff read texts.2.2).mpr lower⟩
      rw [answered.internal_iff healthy, ← duplicate]
      simp only [registerFailure, portalDatabaseResultIsUniqueViolation_failure, decide_eq_true_eq]
      split
      · next unique => simp [unique]
      · next other => simp [other]
  | @created _ fields transaction read encoded _ _ _ _ _ _ database answered =>
      have checked : (fields.user service.postgres transaction).check service.postgres.lower =
          true := valid.userChecks _ (by simp [database])
      have texts := RegisterFields.encoded_iff.mp encoded
      have lower := (RegisterFields.check_iff read texts.2.2).mp checked
      have storable : Endpoint.register.Storable service call world json := by
        intro other again
        obtain rfl := Option.some.inj (read.symm.trans again)
        exact ⟨texts, lower⟩
      simp [answered.internal_iff healthy, storable, registerResponse]

theorem loginEnds_internal (lawful : service.postgres.Lawful)
    (valid : world.database.Valid service.postgres.lower) (smooth : world.Smooth call.environment)
    (fresh : call.environment.Fresh world.database)
    (ends : LoginEnds service.postgres call.environment service.context json world reply after) :
    statusOf reply ≠ some 500 ↔ Endpoint.login.Storable service call world json := by
  have healthy := smooth.healthy
  have storable : ∀ {fields : LoginFields}, loginFields json = some fields →
      (fields.statement service.config).Encoded →
      Endpoint.login.Storable service call world json := by
    intro fields read encoded other again
    obtain rfl := Option.some.inj (read.symm.trans again)
    exact LoginFields.encoded_iff.mp encoded
  cases ends with
  | invalid none answered =>
      have storable : Endpoint.login.Storable service call world json := by
        intro fields read
        simp [none] at read
      simp [answered.internal_iff healthy, storable]
  | @failed _ fields _ read failed answered =>
      obtain ⟨_, transaction, failure, offered, _, refused, _⟩ := failed.cause smooth
      have unstorable : ¬ Endpoint.login.Storable service call world json := by
        intro storable
        obtain ⟨outcome, ran⟩ := LoginFields.execute_total lawful valid
          (LoginFields.encoded_iff.mpr (storable fields read)) (fresh.sessions transaction offered)
        cases ran.symm.trans refused
      simp [answered.internal_iff healthy, unstorable]
  | denied read encoded _ _ _ answered =>
      simp [answered.internal_iff healthy, storable read encoded]
  | opened read encoded _ _ _ _ _ _ _ _ answered =>
      simp [answered.internal_iff healthy, storable read encoded, loginResponse]

theorem activityEnds_internal (lawful : service.postgres.Lawful)
    (smooth : world.Smooth call.environment)
    (ends : ActivityEnds service.postgres call.environment service.jsonC call.request json world
      reply after) :
    statusOf reply ≠ some 500 ↔ Endpoint.activity.Storable service call world json := by
  have healthy := smooth.healthy
  cases ends with
  | invalid none answered =>
      have storable : Endpoint.activity.Storable service call world json := by
        intro fields data actor read
        simp [none] at read
      simp [answered.internal_iff healthy, storable]
  | refused _ refused answered =>
      have storable : Endpoint.activity.Storable service call world json := by
        intro fields data actor _ _ may
        exact absurd may (refused.not_mayAct smooth)
      simp [answered.internal_iff healthy, storable, refused.status.2.ne]
  | invalidData _ _ none answered =>
      have storable : Endpoint.activity.Storable service call world json := by
        intro fields data actor _ sent
        simp [none] at sent
      simp [answered.internal_iff healthy, storable]
  | @failed middle _ fields actor data _ read acts sent failed answered =>
      obtain ⟨_, transaction, failure, _, _, refused, _⟩ := failed.cause (acts.smooth smooth)
      have unstorable : ¬ Endpoint.activity.Storable service call world json := by
        intro storable
        obtain ⟨texts, stored⟩ := storable fields data actor read sent acts.mayAct
        obtain ⟨outcome, ran⟩ := ActivityFields.execute_total lawful acts.mayAct.owner read
          ((ActivityFields.encoded_iff lawful read actor).mpr texts) stored
        cases (acts.kept.database ▸ ran).symm.trans refused
      simp [answered.internal_iff healthy, unstorable]
  | @recorded middle _ fields actor data stored _ read acts sent encoded converted _ _ _ _ answered =>
      have storable : Endpoint.activity.Storable service call world json := by
        intro other text someone again also _
        obtain rfl := Option.some.inj (read.symm.trans again)
        obtain rfl := Option.some.inj (sent.symm.trans also)
        exact ⟨(ActivityFields.encoded_iff lawful read actor).mp encoded, by simp [converted]⟩
      simp [answered.internal_iff healthy, storable, eventResponse]

theorem commentEnds_internal (lawful : service.postgres.Lawful) {contentId : Bytes}
    (smooth : world.Smooth call.environment) (fresh : call.environment.Fresh world.database)
    (ends : CommentEnds service.postgres call.environment call.request contentId json world reply
      after) :
    statusOf reply ≠ some 500 ↔
      (Endpoint.comment contentId).Storable service call world json := by
  have healthy := smooth.healthy
  cases ends with
  | invalid none answered =>
      have storable : (Endpoint.comment contentId).Storable service call world json := by
        intro fields actor read
        simp [none] at read
      simp [answered.internal_iff healthy, storable]
  | refused _ refused answered =>
      have storable : (Endpoint.comment contentId).Storable service call world json := by
        intro fields actor _ may
        exact absurd may (refused.not_mayAct smooth)
      simp [answered.internal_iff healthy, storable, refused.status.2.ne]
  | @failed middle _ fields actor _ read acts failed answered =>
      obtain ⟨_, transaction, failure, offered, _, refused, _⟩ :=
        failed.cause (acts.smooth smooth)
      have unstorable : ¬ (Endpoint.comment contentId).Storable service call world json := by
        intro storable
        obtain ⟨outcome, ran⟩ := CommentFields.execute_total lawful acts.mayAct.owner read
          ((CommentFields.encoded_iff lawful read actor).mpr
            (storable fields actor read acts.mayAct)) (fresh.comments transaction offered)
        cases (acts.kept.database ▸ ran).symm.trans refused
      simp [answered.internal_iff healthy, unstorable]
  | @commented _ _ fields actor _ read acts encoded _ _ _ _ _ _ answered =>
      have storable : (Endpoint.comment contentId).Storable service call world json := by
        intro other someone again _
        obtain rfl := Option.some.inj (read.symm.trans again)
        exact (CommentFields.encoded_iff lawful read actor).mp encoded
      simp [answered.internal_iff healthy, storable, commentResponse]

/-! The other endpoints ask for nothing that the server could refuse. -/

/-- A like of an acceptable content is executed. -/
theorem likeStatement_not_failed (lawful : service.postgres.Lawful) {contentId : Bytes}
    (smooth : world.Smooth call.environment)
    (accepted : portalValidationKey (some contentId) 300 = true) {actor : Actor} {middle : World}
    (acts : Acts service.postgres call.environment call.request json world actor middle)
    {portal : Option Bytes} (named : ∀ portalKey, portal = some portalKey →
      call.request.isPut = true ∧ portalKeyField json = some portalKey)
    {result : Option PgResult} : ¬ middle.Failed service.postgres call.environment
      (likeStatement service.postgres contentId actor portal) result after := by
  intro failed
  obtain ⟨_, transaction, failure, _, _, refused, _⟩ := failed.cause (acts.smooth smooth)
  obtain ⟨outcome, ran⟩ := likeStatement_total lawful acts.mayAct.owner accepted
    fun portalKey same => portalKeyField_ascii (named portalKey same).2
  cases (acts.kept.database ▸ ran).symm.trans refused

theorem likeEnds_internal (lawful : service.postgres.Lawful) {contentId : Bytes}
    (smooth : world.Smooth call.environment)
    (ends : LikeEnds service.postgres call.environment call.request contentId json world reply
      after) : statusOf reply ≠ some 500 := by
  have healthy := smooth.healthy
  cases ends with
  | invalid _ answered => simp [answered.internal_iff healthy]
  | refused _ refused answered => simp [answered.internal_iff healthy, refused.status.2.ne]
  | invalidPortal _ _ _ _ answered => simp [answered.internal_iff healthy]
  | failed accepted acts named failed _ =>
      exact absurd failed (likeStatement_not_failed lawful smooth accepted acts named)
  | liked _ _ _ _ _ _ _ _ _ answered => simp [answered.internal_iff healthy]
  | present _ _ _ _ _ _ _ _ answered => simp [answered.internal_iff healthy]
  | unliked _ _ _ _ _ _ answered => simp [answered.internal_iff healthy]

theorem confirmEnds_internal (healthy : call.environment.Healthy)
    (ends : ConfirmEnds service.postgres call.environment json world reply after) :
    statusOf reply ≠ some 500 := by
  cases ends with
  | invalid _ answered => simp [answered.internal_iff healthy]
  | rejected _ _ _ answered => simp [answered.internal_iff healthy]
  | confirmed _ _ _ _ _ _ _ _ _ _ _ _ answered =>
      simp [answered.internal_iff healthy, confirmedResponse]

theorem logoutEnds_internal (healthy : call.environment.Healthy)
    (ends : LogoutEnds service.postgres call.environment call.request world reply after) :
    statusOf reply ≠ some 500 := by
  cases ends with
  | unauthorized _ answered => simp [answered.internal_iff healthy, unauthorizedResponse]
  | failed admitted failed answered =>
      obtain ⟨_, _, _, _, _, refused, _⟩ := failed.cause ⟨healthy, admitted.connection⟩
      have cast := execute_logout_error refused
      simp [admitted.cast] at cast
  | closed _ _ _ _ _ _ answered => simp [answered.internal_iff healthy]

theorem favoriteListEnds_internal (lawful : service.postgres.Lawful) {kind : PortalFavoriteKind}
    (healthy : call.environment.Healthy)
    (ends : FavoriteListEnds service.postgres call.environment call.request kind world reply
      after) : statusOf reply ≠ some 500 := by
  cases ends with
  | unauthorized _ answered => simp [answered.internal_iff healthy, unauthorizedResponse]
  | failed admitted failed answered =>
      obtain ⟨_, _, _, _, _, refused, _⟩ := failed.cause ⟨healthy, admitted.connection⟩
      obtain ⟨outcome, ran⟩ := favoriteList_total lawful
      cases ran.symm.trans refused
  | listed _ _ _ _ answered => simp [answered.internal_iff healthy]

theorem favoriteChangeEnds_internal (lawful : service.postgres.Lawful) {kind : PortalFavoriteKind}
    {key : Bytes} (healthy : call.environment.Healthy)
    (ends : FavoriteChangeEnds service.postgres call.environment call.request kind key world reply
      after) : statusOf reply ≠ some 500 := by
  cases ends with
  | unauthorized _ answered => simp [answered.internal_iff healthy, unauthorizedResponse]
  | invalidKey _ _ answered => simp [answered.internal_iff healthy]
  | failed admitted accepted failed answered =>
      obtain ⟨_, _, _, _, _, refused, _⟩ := failed.cause ⟨healthy, admitted.connection⟩
      have known := admitted.live.user_mem
      rw [← admitted.kept.database] at known
      obtain ⟨outcome, ran⟩ := favoriteStatement_total lawful known accepted call.request.isPut
      cases ran.symm.trans refused
  | added _ _ _ _ _ _ _ answered => simp [answered.internal_iff healthy]
  | present _ _ _ _ _ _ _ answered => simp [answered.internal_iff healthy]
  | removed _ _ _ _ _ _ answered => simp [answered.internal_iff healthy]

theorem topContentEnds_internal (lawful : service.postgres.Lawful)
    (healthy : call.environment.Healthy)
    (ends : TopContentEnds service.postgres call.environment call.request world reply after) :
    statusOf reply ≠ some 500 := by
  cases ends with
  | unauthorized _ answered => simp [answered.internal_iff healthy, unauthorizedResponse]
  | invalidPortal _ _ answered => simp [answered.internal_iff healthy]
  | invalidRange _ _ _ answered => simp [answered.internal_iff healthy]
  | failed admitted _ accepted read failed answered =>
      obtain ⟨_, _, _, _, _, refused, _⟩ := failed.cause ⟨healthy, admitted.connection⟩
      obtain ⟨outcome, ran⟩ := TopContentRange.execute_total lawful read accepted
      cases ran.symm.trans refused
  | listed _ _ _ _ _ _ answered => simp [answered.internal_iff healthy]

theorem healthResponse_internal (connection : ConnStatusType) :
    (healthResponse connection).status ≠ 500 := by
  cases connection <;> decide

theorem Endpoint.Ends.internal_iff {endpoint : Endpoint} (lawful : service.postgres.Lawful)
    (valid : world.database.Valid service.postgres.lower)
    (validAfter : after.database.Valid service.postgres.lower)
    (smooth : world.Smooth call.environment) (fresh : call.environment.Fresh world.database)
    (ends : endpoint.Ends service call json world reply after) :
    statusOf reply ≠ some 500 ↔ endpoint.Storable service call world json := by
  have healthy := smooth.healthy
  cases endpoint with
  | register => exact registerEnds_internal lawful validAfter smooth ends
  | login => exact loginEnds_internal lawful valid smooth fresh ends
  | activity => exact activityEnds_internal lawful smooth ends
  | comment contentId => exact commentEnds_internal lawful smooth fresh ends
  | like contentId => exact iff_of_true (likeEnds_internal lawful smooth ends) trivial
  | confirm => exact iff_of_true (confirmEnds_internal healthy ends) trivial
  | logout => exact iff_of_true (logoutEnds_internal healthy ends) trivial
  | favoriteList kind =>
      exact iff_of_true (favoriteListEnds_internal lawful healthy ends) trivial
  | favoriteChange kind key =>
      exact iff_of_true (favoriteChangeEnds_internal lawful healthy ends) trivial
  | topContent => exact iff_of_true (topContentEnds_internal lawful healthy ends) trivial
  | options => exact iff_of_true ((ends.2.internal_iff healthy).mpr (by decide)) trivial
  | health =>
      exact iff_of_true ((ends.2.internal_iff healthy).mpr (healthResponse_internal _)) trivial
  | longContentId => exact iff_of_true ((ends.2.internal_iff healthy).mpr (by simp)) trivial
  | invalidJson => exact iff_of_true ((ends.2.internal_iff healthy).mpr (by simp)) trivial
  | notFound => exact iff_of_true ((ends.2.internal_iff healthy).mpr (by simp)) trivial

end Ends

/-- In every reachable state the reply is no internal error exactly when the
server can take the texts the request chose. -/
theorem internal_error_iff {service : Service} (lawful : service.postgres.Lawful)
    {entries : List Service.Entry} {world : World}
    (run : service.Run Environment.Healthy entries world) (call : Call)
    (healthy : call.environment.Healthy) (fresh : call.environment.Fresh world.database) :
    statusOf (service.serve call world).1 ≠ some 500 ↔
      (call.request.routed (service.parsed call)).1.Storable service call world
        (call.request.routed (service.parsed call)).2 :=
  (service.serve_routed call lawful (Service.Run.valid run)).internal_iff lawful
    (Service.Run.valid run) (Service.serve_valid (Service.Run.valid run))
    ⟨healthy, Service.Run.connection run⟩ fresh

namespace Reference

/-- An email that the service leaves as it is and the schema wants in lower case. -/
def accented : Members :=
  [("email", [0xC3, 0x89] ++ bytes "va@example.com"), ("password", bytes "correct-horse"),
    ("display_name", bytes "Eva")]

def accenting : Service := service (bodies [accented])

def accentedCall : Call := post "/auth/register" accented 1 0

theorem start_run (service : Service) : service.Run Environment.Healthy [] start :=
  .start ⟨rfl, rfl⟩

theorem start_fresh (environment : Environment) : environment.Fresh start.database :=
  ⟨by simp [start, Database.empty], by simp [start, Database.empty]⟩

end Reference

theorem internal_error_iff_accented :
    statusOf (Reference.accenting.serve Reference.accentedCall Reference.start).1 ≠ some 500 ↔
      (Reference.accentedCall.request.routed
          (Reference.accenting.parsed Reference.accentedCall)).1.Storable Reference.accenting
        Reference.accentedCall Reference.start
        (Reference.accentedCall.request.routed
          (Reference.accenting.parsed Reference.accentedCall)).2 :=
  internal_error_iff Reference.lawful (Reference.start_run _) Reference.accentedCall
    (Reference.environment_healthy 1 0) (Reference.start_fresh _)

/-- The first request of a service can be answered with an internal error. -/
theorem internal_error_accented :
    Reference.accenting.Run Environment.Healthy [] Reference.start ∧
      Reference.accentedCall.environment.Healthy ∧
      statusOf (Reference.accenting.serve Reference.accentedCall Reference.start).1 = some 500 :=
  ⟨Reference.start_run _, Reference.environment_healthy 1 0, by decide +kernel⟩

end PortalApi
