import PortalApi.Crashes
import PortalApi.Http.Wording

/-! Texts that are written and never read: a life of the service in which they are other
texts looks the same to everyone outside. -/

set_option autoImplicit false

namespace PortalApi

open Library

/-- The same request, with a body that says the same in other words. -/
inductive Service.Rewords (service : Service) : Call → Call → Prop where
  | same (call : Call) : Rewords service call call
  | body {call : Call} {body : Bytes} {json other : Json} :
      readJson service.jsonC call.request.body = some json →
      readJson service.jsonC body = some other →
      json.Reworded service.postgres service.jsonC other →
      Rewords service call { call with request := { call.request with body } }

/-- The same incident, of a request in other words. -/
inductive Incident.Reworded (service : Service) : Incident → Incident → Prop where
  | served {call other : Call} : service.Rewords call other →
      Reworded service (.served call) (.served other)
  | killed {call other : Call} (count : Nat) : service.Rewords call other →
      Reworded service (.killed call count) (.killed other count)

theorem World.Resembles.refl (world : World) : world.Resembles world := ⟨rfl, rfl, rfl⟩

section Requests

variable {postgres : Postgres} {context : PortalHttpContext} {jsonC : JsonC} {request : Request}
  {json other : Json} {body : Bytes}

theorem readJson_length (read : readJson jsonC body = some json) :
    0 < body.length ∧ body.length ≤ intMax ∧ parsedObject jsonC body = some json := by
  unfold readJson at read
  split at read
  · cases read
  · next sized =>
      simp only [gt_iff_lt, Bool.or_eq_true, decide_eq_true_eq, not_or, not_lt] at sized
      exact ⟨Nat.pos_of_ne_zero sized.1, sized.2, read⟩

/-- Two bodies that are read take the same steps until they are. -/
theorem portalHttpRequestParseJson_reworded {next tail : Option Json → Handler MhdResult}
    (read : readJson jsonC request.body = some json) (reread : readJson jsonC body = some other)
    (unread : Reworded postgres (next none) (tail none))
    (rest : Reworded postgres (next (some json)) (tail (some other))) :
    Reworded postgres (portalHttpRequestParseJson jsonC request.body >>= next)
      (portalHttpRequestParseJson jsonC body >>= tail) := by
  obtain ⟨present, short, parsed⟩ := readJson_length read
  obtain ⟨given, fits, reparsed⟩ := readJson_length reread
  have sized : ¬ ((decide (request.body.length = 0) || decide (request.body.length > intMax)) =
      true) := by
    simp only [Bool.or_eq_true, decide_eq_true_eq]
    omega
  have resized : ¬ ((decide (body.length = 0) || decide (body.length > intMax)) = true) := by
    simp only [Bool.or_eq_true, decide_eq_true_eq]
    omega
  rw [portalHttpRequestParseJson, portalHttpRequestParseJson, if_neg sized, if_neg resized, parsed,
    reparsed]
  refine Program.Mirrors.call (.same _) fun granted => ?_
  cases granted with
  | false => exact unread
  | true => exact rest

/-- The dispatcher does the same for two bodies that are read, but for their texts. -/
theorem httpDispatch_reworded (reworded : json.Reworded postgres jsonC other)
    (read : readJson jsonC request.body = some json) (reread : readJson jsonC body = some other) :
    Reworded postgres (httpDispatch context jsonC request)
      (httpDispatch context jsonC { request with body }) := by
  have expected : bodyExpected { request with body } = bodyExpected request := by
    have present : 0 < request.body.length := (readJson_length read).1
    have given : 0 < body.length := (readJson_length reread).1
    simp only [bodyExpected, gt_iff_lt, present, given]
  have handled (parsed : Option Json) (endpoint : Endpoint) :
      endpoint.handler context jsonC { request with body } parsed =
        endpoint.handler context jsonC request parsed := by
    cases endpoint <;> rfl
  have bodyless : Request.bodylessEndpoint { request with body } = request.bodylessEndpoint := rfl
  have routed : ∀ parsed, Request.routed { request with body } parsed = request.routed parsed := by
    intro parsed
    simp only [Request.routed, bodyless, expected]
    rfl
  rw [httpDispatch_eq, httpDispatch_eq, bodyless, expected]
  simp only [routed, handled]
  have enters : Reworded postgres
      ((request.routed (some json)).1.handler context jsonC request (request.routed (some json)).2)
      ((request.routed (some other)).1.handler context jsonC request
        (request.routed (some other)).2) := by
    unfold Request.routed
    cases request.bodylessEndpoint with
    | some endpoint => exact Reworded.refl _
    | none =>
        cases bodyExpected request with
        | false => exact Reworded.refl _
        | true => exact Endpoint.handler_reworded reworded request.jsonEndpoint
  split
  · exact portalHttpRequestParseJson_reworded read reread (Reworded.refl _) enters
  · rw [read, reread]
    exact enters

end Requests

section Incidents

variable {service : Service} {call again : Call} {incident reported : Incident}
  {world other : World}

theorem Service.Rewords.environment (rewords : service.Rewords call again) :
    again.environment = call.environment := by
  cases rewords <;> rfl

theorem Service.Rewords.dispatched (rewords : service.Rewords call again) :
    Reworded service.postgres (httpDispatch service.context service.jsonC call.request)
      (httpDispatch service.context service.jsonC again.request) := by
  cases rewords with
  | same => exact Reworded.refl _
  | body read reread reworded => exact httpDispatch_reworded reworded read reread

theorem World.Resembles.exchange (resembles : world.Resembles other) :
    world.exchange.Resembles other.exchange := ⟨resembles, rfl, rfl⟩

theorem World.Resembles.reconnected (resembles : world.Resembles other) :
    world.reconnected.Resembles other.reconnected := ⟨resembles.database, resembles.clock, rfl⟩

theorem Exchange.Resembles.reply {exchange image : Exchange}
    (resembles : exchange.Resembles image) : image.reply = exchange.reply := by
  rw [Exchange.reply, Exchange.reply, resembles.attempts]

/-- The same surroundings answer both requests. -/
theorem Service.Rewords.answered (rewords : service.Rewords call again)
    {operation twin : Operation} {answer : operation.Answer → twin.Answer}
    {exchange image : Exchange} (twins : Rewording service.postgres operation twin answer)
    (resembles : exchange.Resembles image) :
    (interpret service.postgres again.environment twin image).1 =
        answer (interpret service.postgres call.environment operation exchange).1 ∧
      (interpret service.postgres call.environment operation exchange).2.Resembles
        (interpret service.postgres again.environment twin image).2 := by
  rw [rewords.environment]
  exact interpret_reworded twins resembles

/-- One incident says the same in two worlds that resemble each other, and leaves two. -/
theorem Service.suffer_reworded (reworded : incident.Reworded service reported)
    (resembles : world.Resembles other) :
    (service.suffer reported other).1 = (service.suffer incident world).1 ∧
      (service.suffer incident world).2.Resembles (service.suffer reported other).2 := by
  cases reworded with
  | served rewords =>
      obtain ⟨_, done⟩ := rewords.dispatched.run_related rewords.answered resembles.exchange
      exact ⟨done.reply, done.world⟩
  | killed count rewords =>
      have done := rewords.dispatched.cut_related rewords.answered resembles.exchange count
      exact ⟨done.reply, done.world.reconnected⟩

end Incidents

/-- Nobody reads what is written: two lives of the service whose requests differ in nothing
but texts that are stored answer everyone the same, whenever the process dies, and leave
tables that differ in nothing else. -/
theorem mortal_unread {service : Service} {admits : Environment → Prop}
    {incidents reported : List Incident} {world other : World}
    (reworded : List.Forall₂ (Incident.Reworded service) incidents reported)
    (resembles : world.Resembles other) :
    ((service.mortal admits).play other reported).1.map (·.output) =
        ((service.mortal admits).play world incidents).1.map (·.output) ∧
      ((service.mortal admits).play world incidents).2.Resembles
        ((service.mortal admits).play other reported).2 :=
  Machine.play_related (fun _ _ _ _ => Service.suffer_reworded) reworded resembles

namespace Reference

/-- The account under another name. -/
def renamed : Members :=
  [("email", bytes "ana@example.com"), ("password", bytes "correct-horse"),
    ("display_name", bytes "Zoë")]

def twofold : Service := service (bodies [account, renamed])

theorem account_renamed :
    (objectJson account).Reworded twofold.postgres twofold.jsonC (objectJson renamed) where
  others key unwritten := by
    have other : bytes "display_name" ≠ key := fun same => unwritten (same ▸ by decide)
    simp [objectJson, account, renamed, Json.objectGetEx, List.find?, other]
  displayName := .given (by decide) (by decide)
  body := .absent
  eventData := .given (by decide) (by decide) (by decide) (by decide)
  annotated := ⟨by decide, by decide, by decide⟩
  reannotated := ⟨by decide, by decide, by decide⟩

/-- A life in which the account is registered twice, the first time in vain. -/
def registrations (members : Members) : List Incident :=
  [.killed (post "/auth/register" members 1 0) 3, .served (post "/auth/register" members 5 10)]

def registered (members : Members) : List (Event Incident (Option Response) World) × World :=
  (twofold.mortal Environment.Healthy).play start (registrations members)

theorem registrations_renamed :
    List.Forall₂ (Incident.Reworded twofold) (registrations account) (registrations renamed) := by
  have rewords (seed elapsed : Nat) : twofold.Rewords (post "/auth/register" account seed elapsed)
      (post "/auth/register" renamed seed elapsed) :=
    .body (by rfl) (by rfl) account_renamed
  exact .cons (.killed 3 (rewords 1 0)) (.cons (.served (rewords 5 10)) .nil)

end Reference

/-- The two lives store different names, and nobody can tell. -/
theorem mortal_unread_renamed :
    (Reference.registered Reference.account).2.database.users.map (·.displayName) ≠
        (Reference.registered Reference.renamed).2.database.users.map (·.displayName) ∧
      (Reference.registered Reference.renamed).1.map (·.output) =
        (Reference.registered Reference.account).1.map (·.output) :=
  ⟨by decide +kernel, (mortal_unread Reference.registrations_renamed (.refl Reference.start)).1⟩

end PortalApi
