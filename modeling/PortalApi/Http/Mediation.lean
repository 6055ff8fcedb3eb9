import PortalApi.Http.DialogueProperties
import PortalApi.Http.Sending

/-! What the dialogue rules out, told of the operations of one request alone: no
statement without the right to it, no success before PostgreSQL served it, and nothing
after the response. -/

set_option autoImplicit false

namespace PortalApi

open Library

abbrev Asking := List (Inquiry Operation.Answer)

section Conduct

variable (request : Request)

/-- The request's own token was looked up, and belongs to the user with this id. -/
def FoundBy (path : Asking) (id : Bytes) : Prop :=
  ∃ token result, bearerToken request = some token ∧
    ⟨.pqExecParams (.authenticate token), result⟩ ∈ path ∧ sessionUser result = some id

/-- The statement is made on behalf of the user with this id alone. -/
def Statement.ActsFor (id : Bytes) : Statement → Prop
  | .favoriteList _ userId | .favoriteInsert _ userId _ | .favoriteDelete _ userId _ => userId = id
  | .activityInsert userId anonymousId _ _ _ _ _ _ | .commentInsert _ userId anonymousId _ _ _ =>
    userId = id ∧ anonymousId = []
  | .likeInsert _ userId anonymousId actorKey _ =>
    userId = id ∧ anonymousId = [] ∧ actorKey = bytes "u:" ++ id
  | .likeDelete _ actorKey => actorKey = bytes "u:" ++ id
  | .logout token => bearerToken request = some token
  | .topContent _ _ _ => True
  | .authenticate _ | .register _ _ _ _ | .confirm _ | .login _ _ _ => False

/-- The statement is made under this anonymous id, and for no user. -/
def Statement.ActsUnder (id : Bytes) : Statement → Prop
  | .activityInsert userId anonymousId _ _ _ _ _ _ | .commentInsert _ userId anonymousId _ _ _ =>
    userId = [] ∧ anonymousId = id
  | .likeInsert _ userId anonymousId actorKey _ =>
    userId = [] ∧ anonymousId = id ∧ actorKey = bytes "a:" ++ id
  | .likeDelete _ actorKey => actorKey = bytes "a:" ++ id
  | _ => False

/-- The right to a statement, from what was asked for before it. -/
inductive Entitled (before : Asking) : Statement → Prop where
  | lookup {token : Bytes} : bearerToken request = some token →
      Entitled before (.authenticate token)
  | register {email password displayName ttl : Bytes} :
      request.At "POST" "/auth/register" →
      Entitled before (.register email password displayName ttl)
  | confirm {token : Bytes} : request.At "POST" "/auth/confirm" → Entitled before (.confirm token)
  | login {email password ttl : Bytes} : request.At "POST" "/auth/login" →
      Entitled before (.login email password ttl)
  | session {id : Bytes} {statement : Statement} : FoundBy request before id →
      statement.ActsFor request id → Entitled before statement
  | anonymous {id : Bytes} {statement : Statement} : request.authorization.getD [] = [] →
      portalValidationAnonymousId (some id) = true → statement.ActsUnder id →
      Entitled before statement

/-- What a response below 300 needs. -/
inductive Earned (before : Asking) : Response → Prop where
  | preflight {response : Response} : request.method = bytes "OPTIONS" → Earned before response
  | healthy {response : Response} : ⟨.pqStatus, .connectionOk⟩ ∈ before → Earned before response
  | served {statement : Statement} {result : Option PgResult} {response : Response} :
      ⟨.pqExecParams statement, result⟩ ∈ before → statement.sender = .route →
      statement.Served result → Earned before response

/-- The conduct of one request, and what its handler returned. -/
structure Conducted (path : Asking) (value : MhdResult) : Prop where
  entitled : ∀ before statement result after,
    path = before ++ ⟨.pqExecParams statement, result⟩ :: after →
    Entitled request before statement
  single : ∀ before statement result after,
    path = before ++ ⟨.pqExecParams statement, result⟩ :: after → statement.sender = .route →
    ∀ inquiry ∈ after, ¬ inquiry.op.IsStatement
  last : ∀ before response queued after,
    path = before ++ ⟨.mhdQueueResponse response, queued⟩ :: after → after = []
  earned : ∀ before response queued after,
    path = before ++ ⟨.mhdQueueResponse response, queued⟩ :: after → response.status < 300 →
    Earned request before response
  answered : (∃ response, ⟨.mhdQueueResponse response, value⟩ ∈ path) ∨
    value = .no ∧ ∃ purpose, ⟨.allocate purpose, false⟩ ∈ path

end Conduct

section Memory

variable {context : PortalHttpContext} {jsonC : JsonC} {request : Request} {endpoint : Endpoint}
  {json : Option Json} {path : Asking} {progress : Progress}

/-- The progress of a request is what the operations so far tell. -/
structure Recalled (request : Request) (path : Asking) (progress : Progress) : Prop where
  session : ∀ id, progress.session = some id → FoundBy request path id
  link : ∀ link, progress.link = some link → ⟨.pqStatus, link⟩ ∈ path
  asked : ∀ statement result, progress.asked = some (statement, result) →
    ⟨.pqExecParams statement, result⟩ ∈ path ∧ statement.sender = .route
  starved : progress.starved = true → ∃ purpose, ⟨.allocate purpose, false⟩ ∈ path
  attempt : ∀ value, progress.attempt = some value →
    ∃ response, ⟨.mhdQueueResponse response, value⟩ ∈ path

theorem FoundBy.append {id : Bytes} (found : FoundBy request path id) (later : Asking) :
    FoundBy request (path ++ later) id := by
  obtain ⟨token, result, bearer, member, user⟩ := found
  exact ⟨token, result, bearer, List.mem_append_left later member, user⟩

theorem Progress.next_statement {statement : Statement} (other : statement.sender = .route)
    (progress : Progress) (result : Option PgResult) :
    progress.next (.pqExecParams statement) result =
      { progress with asked := some (statement, result) } := by
  cases statement with
  | authenticate token => cases other
  | _ => rfl

theorem Mandated.sender_eq {session : Option Bytes} {statement : Statement}
    (mandated : Mandated context jsonC request json session endpoint statement) :
    statement.sender = .route := by
  cases mandated <;> rfl

theorem Recalled.append (recalled : Recalled request path progress) (later : Asking) :
    Recalled request (path ++ later) progress where
  session id known := (recalled.session id known).append later
  link value known := List.mem_append_left later (recalled.link value known)
  asked statement result known :=
    (recalled.asked statement result known).imp_left (List.mem_append_left later)
  starved known := (recalled.starved known).imp fun _ => List.mem_append_left later
  attempt value known := (recalled.attempt value known).imp fun _ => List.mem_append_left later

theorem Recalled.next {operation : Operation} {answer : operation.Answer}
    (recalled : Recalled request path progress)
    (allowed : Allowed context jsonC request endpoint json progress operation) :
    Recalled request (path ++ [⟨operation, answer⟩]) (progress.next operation answer) := by
  have same := recalled.append [⟨operation, answer⟩]
  have last : ⟨operation, answer⟩ ∈ path ++ [⟨operation, answer⟩] :=
    List.mem_append_right path (List.mem_singleton.mpr rfl)
  cases allowed with
  | allocate calm =>
      cases answer with
      | true => exact same
      | false => exact { same with starved := fun _ => ⟨_, last⟩ }
  | status calm =>
      refine { same with link := fun link known => ?_ }
      obtain rfl := Option.some.inj known
      exact last
  | inquire calm _ _ _ bearer =>
      exact { same with session := fun id known => ⟨_, _, bearer, last, known⟩ }
  | ask calm _ mandated =>
      have other := mandated.sender_eq
      rw [Progress.next_statement other]
      refine { same with asked := fun statement result known => ?_ }
      cases known
      exact ⟨last, other⟩
  | tell calm told =>
      refine { same with attempt := fun value known => ?_ }
      obtain rfl := Option.some.inj known
      exact ⟨_, last⟩

theorem Mandated.entitled {parsed : Option Json} {session : Option Bytes} {statement : Statement}
    (mandated : Mandated context jsonC request json session endpoint statement)
    (routes : Routes request parsed endpoint json)
    (found : ∀ id, session = some id → FoundBy request path id) :
    Entitled request path statement := by
  have identified {userId anonymousId actorKey : Bytes} {statement : Statement}
      (identified : Identified request json session userId anonymousId actorKey)
      (acts : ∀ id, userId = id → anonymousId = [] → actorKey = bytes "u:" ++ id →
        statement.ActsFor request id)
      (actsUnder : ∀ id, userId = [] → anonymousId = id → actorKey = bytes "a:" ++ id →
        statement.ActsUnder id) : Entitled request path statement := by
    cases identified with
    | user => exact .session (found _ rfl) (acts _ rfl rfl rfl)
    | anonymous absent _ valid => exact .anonymous absent valid (actsUnder _ rfl rfl rfl)
  cases mandated with
  | register _ =>
      cases routes with
      | register at_ _ => exact .register at_
  | confirm _ =>
      cases routes with
      | confirm at_ _ => exact .confirm at_
  | login _ =>
      cases routes with
      | login at_ _ => exact .login at_
  | logout known bearer => exact .session (found _ known) bearer
  | favoriteList known => exact .session (found _ known) rfl
  | favoriteInsert known _ _ => exact .session (found _ known) rfl
  | favoriteDelete known _ _ => exact .session (found _ known) rfl
  | topContent known _ _ _ => exact .session (found _ known) trivial
  | activity _ acting _ =>
      exact identified acting (fun _ user anonymous _ => ⟨user, anonymous⟩)
        fun _ user anonymous _ => ⟨user, anonymous⟩
  | likeInsert _ acting _ _ =>
      exact identified acting (fun _ user anonymous key => ⟨user, anonymous, key⟩)
        fun _ user anonymous key => ⟨user, anonymous, key⟩
  | likeDelete _ acting _ => exact identified acting (fun _ _ _ key => key) fun _ _ _ key => key
  | comment _ acting =>
      exact identified acting (fun _ user anonymous _ => ⟨user, anonymous⟩)
        fun _ user anonymous _ => ⟨user, anonymous⟩

theorem Declined.status {session : Option Bytes} {response : Response}
    (declined : Declined jsonC request json session endpoint response) : ¬ response.status < 300 := by
  cases declined with
  | unidentified _ _ unidentified => cases unidentified <;> decide
  | _ => decide

theorem Statement.failure_status (statement : Statement) (result : Option PgResult) :
    ¬ (statement.failure result).status < 300 := by
  cases statement with
  | register =>
      simp only [failure, registerFailure]
      split <;> decide
  | login =>
      rw [failure]
      split <;> decide
  | _ => simp [failure, databaseError, unauthorizedResponse, favoriteFailure, likeFailure]

theorem Told.earned {parsed : Option Json} {response : Response}
    (told : Told context jsonC request json progress endpoint response)
    (routes : Routes request parsed endpoint json) (recalled : Recalled request path progress)
    (success : response.status < 300) : Earned request path response := by
  cases told with
  | preflight =>
      cases routes with
      | options method => exact .preflight method
  | healthy linked => exact .healthy (recalled.link _ linked)
  | unavailable _ => exact absurd success (by decide)
  | declined _ declined => exact absurd success declined.status
  | served asked served =>
      obtain ⟨member, other⟩ := recalled.asked _ _ asked
      exact .served member other served
  | failed _ _ => exact absurd success (Statement.failure_status _ _)
  | unsent _ _ _ => exact absurd success (Statement.failure_status _ _)

theorem dialogue_recalled
    (admits : (dialogue context jsonC request endpoint json).Admits .start path) :
    Recalled request path ((dialogue context jsonC request endpoint json).after .start path) := by
  refine admits.recorded (fun path stage operation answer recalled => recalled.next) ?_
  constructor <;> simp [Progress.start]

/-- Once its statement was sent, a request sends no other. -/
theorem asked_still {asked : Statement × Option PgResult}
    (admits : (dialogue context jsonC request endpoint json).Admits progress path)
    (sent : progress.asked = some asked) : ∀ inquiry ∈ path, ¬ inquiry.op.IsStatement := by
  have kept (path : Asking) (stage : Progress) (operation : Operation) (answer : operation.Answer)
      (still : stage.asked = some asked ∧ ∀ inquiry ∈ path, ¬ inquiry.op.IsStatement)
      (allowed : Allowed context jsonC request endpoint json stage operation) :
      (stage.next operation answer).asked = some asked ∧
        ∀ inquiry ∈ path ++ [⟨operation, answer⟩], ¬ inquiry.op.IsStatement := by
    obtain ⟨same, none⟩ := still
    cases allowed with
    | inquire _ unasked _ _ _ => simp [same] at unasked
    | ask _ unasked _ => simp [same] at unasked
    | allocate calm =>
        cases answer <;>
          exact ⟨same, List.forall_mem_append.mpr ⟨none, by simp [Operation.IsStatement]⟩⟩
    | status _ _ =>
        exact ⟨same, List.forall_mem_append.mpr ⟨none, by simp [Operation.IsStatement]⟩⟩
    | tell _ _ =>
        exact ⟨same, List.forall_mem_append.mpr ⟨none, by simp [Operation.IsStatement]⟩⟩
  have start : progress.asked = some asked ∧ ∀ inquiry ∈ ([] : Asking), ¬ inquiry.op.IsStatement :=
    ⟨sent, by simp⟩
  exact (admits.recorded kept start).2

/-- After its response a request asks for nothing. -/
theorem answered_last {value : MhdResult}
    (admits : (dialogue context jsonC request endpoint json).Admits progress path)
    (queued : progress.attempt = some value) : path = [] := by
  cases path with
  | nil => rfl
  | cons inquiry rest =>
      obtain ⟨operation, answer⟩ := inquiry
      obtain ⟨now, _⟩ := admits
      cases now with
      | allocate calm => simp [queued] at calm
      | status calm _ => simp [queued] at calm
      | inquire calm _ _ _ _ => simp [queued] at calm
      | ask calm _ _ => simp [queued] at calm
      | tell calm _ => simp [queued] at calm

theorem dialogue_conducted {parsed : Option Json} {value : MhdResult}
    (admits : (dialogue context jsonC request endpoint json).Admits .start path)
    (concluded : Concluded value
      ((dialogue context jsonC request endpoint json).after .start path))
    (routes : Routes request parsed endpoint json) : Conducted request path value where
  entitled before statement result after split := by
    rw [split, Protocol.admits_append] at admits
    obtain ⟨earlier, now, _⟩ := admits
    have recalled := dialogue_recalled earlier
    cases now with
    | inquire _ _ _ _ bearer => exact .lookup bearer
    | ask _ _ mandated => exact mandated.entitled routes recalled.session
  single before statement result after split other := by
    rw [split, Protocol.admits_append] at admits
    obtain ⟨_, _, later⟩ := admits
    exact asked_still later (congrArg Progress.asked (Progress.next_statement other _ result))
  last before response queued after split := by
    rw [split, Protocol.admits_append] at admits
    obtain ⟨_, _, later⟩ := admits
    exact answered_last later rfl
  earned before response queued after split success := by
    rw [split, Protocol.admits_append] at admits
    obtain ⟨earlier, now, _⟩ := admits
    cases now with
    | tell _ told => exact told.earned routes (dialogue_recalled earlier) success
  answered := by
    have recalled := dialogue_recalled admits
    rcases concluded with attempted | ⟨_, starved, rfl⟩
    · exact .inl (recalled.attempt value attempted)
    · exact .inr ⟨rfl, recalled.starved starved⟩

/-- Every request behaves, whatever PostgreSQL, libmicrohttpd and the allocator answer. -/
theorem httpDispatch_conducted {value : MhdResult}
    (taken : Path (httpDispatch context jsonC request) path value) :
    Conducted request path value := by
  obtain ⟨_, _, _, rfl, read, taken⟩ := httpDispatch_parsed taken
  obtain ⟨admits, concluded⟩ := read.keeps taken
  exact dialogue_conducted admits concluded routed_routes

end Memory

theorem httpDispatch_conducted_ending :
    Reference.endingPath.length = 7 ∧
      Conducted Reference.ending.request Reference.endingPath .yes := by
  have taken : Path (httpDispatch (Reference.service []).context (Reference.jsonC [])
      Reference.ending.request) Reference.endingPath .yes :=
    Path.of_semantics Reference.obliging _ ()
  exact ⟨by decide +kernel, httpDispatch_conducted taken⟩

end PortalApi
