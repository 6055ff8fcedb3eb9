import PortalApi.Http.DialogueProperties
import PortalApi.Library.Interruption
import PortalApi.ServiceRuns

/-! Every request takes effect at one operation. Wherever its handler is cut off, the
tables are untouched and the client was told nothing, or they are as the whole request
leaves them. -/

set_option autoImplicit false

namespace PortalApi

open Library

/-- The dialogue of a request, whatever its body is parsed as. -/
def negotiation (context : PortalHttpContext) (jsonC : JsonC) (request : Request) :
    Protocol Operation.Answer Progress where
  allows progress operation := ∃ parsed,
    Allowed context jsonC request (request.routed parsed).1 (request.routed parsed).2 progress
      operation
  next := Progress.next

/-- The statement was sent, or the response was queued. -/
def Progress.Closed (progress : Progress) : Prop :=
  progress.asked ≠ none ∨ progress.attempt ≠ none

def Exchange.tables (exchange : Exchange) : Database := exchange.world.database

/-- The client may have been told something. -/
def Exchange.Shown (exchange : Exchange) : Prop := exchange.attempts ≠ []

section Atomic

variable {context : PortalHttpContext} {jsonC : JsonC} {request : Request} {progress : Progress}
  {postgres : Postgres} {environment : Environment} {exchange : Exchange} {operation : Operation}

theorem httpDispatch_keeps :
    (negotiation context jsonC request).Keeps Concluded (httpDispatch context jsonC request)
      .start := by
  have opened : (negotiation context jsonC request).Keeps (fun _ progress => progress.Fresh)
      (if request.bodylessEndpoint.isNone && bodyExpected request then
          portalHttpRequestParseJson jsonC request.body
        else pure (readJson jsonC request.body)) .start := by
    have fresh : Progress.start.Fresh := ⟨rfl, rfl, rfl, rfl⟩
    split
    · unfold portalHttpRequestParseJson
      split
      · exact fresh
      · refine ⟨⟨none, .allocate rfl⟩, fun granted => ?_⟩
        cases granted with
        | false => exact ⟨rfl, rfl, rfl, rfl⟩
        | true => exact fresh
    · exact fresh
  rw [httpDispatch_eq]
  refine opened.bind fun parsed middle fresh => ?_
  have keeps : (dialogue context jsonC request (request.routed parsed).1
      (request.routed parsed).2).Keeps Concluded _ middle := Endpoint.handler_keeps _ fresh
  refine Protocol.Keeps.widen ?_ ?_ keeps
  · rfl
  · exact fun _ _ allowed => ⟨parsed, allowed⟩

/-- The lookup of a token reads the tables only. -/
theorem interpret_authenticate (token : Bytes) :
    (interpret postgres environment (.pqExecParams (.authenticate token)) exchange).2.tables =
      exchange.tables := by
  simp only [interpret, World.pqExecParams, Exchange.tables]
  split
  · rfl
  split
  · rfl
  · rfl
  split
  · rfl
  · next executed =>
      obtain ⟨_, _, same⟩ := execute_authenticate_ok executed
      exact congrArg Prod.snd same

theorem interpret_closed (progress : Progress) (operation : Operation) (exchange : Exchange)
    (closed : progress.Closed)
    (allowed : (negotiation context jsonC request).allows progress operation) :
    (interpret postgres environment operation exchange).2.tables = exchange.tables ∧
      ((negotiation context jsonC request).next progress operation
        (interpret postgres environment operation exchange).1).Closed := by
  obtain ⟨parsed, allowed⟩ := allowed
  have sent (calm : progress.attempt = none) : progress.asked ≠ none :=
    closed.resolve_right fun queued => queued calm
  cases allowed with
  | allocate calm =>
      refine ⟨rfl, .inl ?_⟩
      simp only [negotiation, interpret, Progress.next]
      split <;> exact sent calm
  | status calm _ => exact ⟨rfl, .inl (sent calm)⟩
  | inquire calm unasked _ _ _ => exact absurd unasked (sent calm)
  | ask calm unasked _ => exact absurd unasked (sent calm)
  | tell calm _ => exact ⟨rfl, .inl (sent calm)⟩

theorem interpret_commits (progress : Progress) (operation : Operation) (exchange : Exchange)
    (allowed : (negotiation context jsonC request).allows progress operation)
    (hidden : ¬ exchange.Shown) :
    ((interpret postgres environment operation exchange).2.tables = exchange.tables ∧
        ¬ (interpret postgres environment operation exchange).2.Shown) ∨
      ((negotiation context jsonC request).next progress operation
        (interpret postgres environment operation exchange).1).Closed := by
  obtain ⟨parsed, allowed⟩ := allowed
  cases allowed with
  | allocate _ => exact .inl ⟨rfl, hidden⟩
  | status _ _ => exact .inl ⟨rfl, hidden⟩
  | inquire _ _ _ _ _ => exact .inl ⟨interpret_authenticate _, hidden⟩
  | ask _ _ mandated =>
      refine .inr (.inl ?_)
      simp only [negotiation, mandated.next]
      exact Option.some_ne_none _
  | tell _ _ => exact .inr (.inr (Option.some_ne_none _))

end Atomic

/-- A request that is cut off after some of its operations. -/
def Service.interrupted (service : Service) (call : Call) (count : Nat) (world : World) :
    Exchange :=
  ((httpDispatch service.context service.jsonC call.request).cut
    (interpret service.postgres call.environment) count world.exchange).2

/-- Cut off anywhere, in any environment, a request has changed nothing and told nothing, or
has changed all that it ever will. -/
theorem serve_atomic (service : Service) (call : Call) (world : World) (count : Nat) :
    ((service.interrupted call count world).world.database = world.database ∧
        (service.interrupted call count world).attempts = []) ∨
      (service.interrupted call count world).world.database =
        (service.serve call world).2.database := by
  have hidden : ¬ world.exchange.Shown := by simp [Exchange.Shown, World.exchange]
  rcases httpDispatch_keeps.commits interpret_closed interpret_commits hidden count with
    ⟨same, silent⟩ | committed
  · exact .inl ⟨same, not_not.mp silent⟩
  · exact .inr committed

end PortalApi
