import PortalApi.Http.AuthenticationProperties
import PortalApi.Http.Routes.Analytics
import PortalApi.TextProperties

/-! Every way a top-content request ends. -/

set_option autoImplicit false

namespace PortalApi

open Library

structure TopContentRange where
  days : Int
  limit : Int

/-- The two ranges of the query string, when both are accepted. -/
def topContentRange (request : Request) : Option TopContentRange :=
  match analyticsParseRange (request.lookup .getArgument "days") 7 1 365,
    analyticsParseRange (request.lookup .getArgument "limit") 10 1 100 with
  | some days, some limit => some { days, limit }
  | _, _ => none

def TopContentRange.statement (range : TopContentRange) (portalKey : Bytes) : Statement :=
  .topContent portalKey (decimal range.days.toNat) (decimal range.limit.toNat)

section Ends

variable (postgres : Postgres) (environment : Environment) (request : Request) (world : World)

inductive TopContentEnds : Option Response → World → Prop where
  | unauthorized {reply : Option Response} {after : World} :
      Refused postgres environment request world after →
      Answered environment unauthorizedResponse reply → TopContentEnds reply after
  | invalidPortal {reply : Option Response} {after : World} {text : Bytes} {token : Uuid}
      {session : AuthSessionRow} {user : UserRow} :
      Admitted postgres environment request world text token session user after →
      portalValidationKey (request.lookup .getArgument "portal_key") 120 = false →
      Answered environment (errorResponse 400 "validation_error" "portal_key is required.") reply →
      TopContentEnds reply after
  | invalidRange {reply : Option Response} {after : World} {text : Bytes} {token : Uuid}
      {session : AuthSessionRow} {user : UserRow} :
      Admitted postgres environment request world text token session user after →
      portalValidationKey (request.lookup .getArgument "portal_key") 120 = true →
      topContentRange request = none →
      Answered environment (errorResponse 400 "validation_error"
        "days must be 1..365 and limit must be 1..100.") reply →
      TopContentEnds reply after
  | failed {reply : Option Response} {middle after : World} {text portalKey : Bytes}
      {token : Uuid} {session : AuthSessionRow} {user : UserRow} {range : TopContentRange}
      {result : Option PgResult} :
      Admitted postgres environment request world text token session user middle →
      request.lookup .getArgument "portal_key" = some portalKey →
      portalValidationKey (some portalKey) 120 = true → topContentRange request = some range →
      middle.Failed postgres environment (range.statement portalKey) result after →
      Answered environment (errorResponse 500 "database_error" "Could not load analytics.") reply →
      TopContentEnds reply after
  | listed {reply : Option Response} {middle after : World} {text portalKey : Bytes}
      {token : Uuid} {session : AuthSessionRow} {user : UserRow} {range : TopContentRange}
      {transaction : Transaction} {outcome : PgResult} :
      Admitted postgres environment request world text token session user middle →
      request.lookup .getArgument "portal_key" = some portalKey →
      portalValidationKey (some portalKey) 120 = true → topContentRange request = some range →
      world.Kept after →
      middle.Committed postgres environment (range.statement portalKey) transaction outcome after →
      Answered environment (jsonResponse 200 (topContentJson portalKey range.days
        ((List.range outcome.rows.length).map (topContentItem (some outcome))))) reply →
      TopContentEnds reply after

end Ends

section Runs

variable {postgres : Postgres} {environment : Environment} {request : Request}
  {exchange : Exchange}

theorem analyticsParseRange_bounds {text : Option Bytes} {fallback minimum maximum number : Int}
    (default : minimum ≤ fallback ∧ fallback ≤ maximum)
    (read : analyticsParseRange text fallback minimum maximum = some number) :
    minimum ≤ number ∧ number ≤ maximum := by
  unfold analyticsParseRange at read
  cases text with
  | none =>
      obtain rfl := Option.some.inj read
      exact default
  | some text =>
      simp only at read
      split at read
      · cases read
      · next accepted =>
          simp only [Bool.or_eq_true, decide_eq_true_eq, not_or, not_lt] at accepted
          obtain rfl := Option.some.inj read
          exact ⟨accepted.1.2, by simpa using accepted.2⟩

theorem TopContentRange.bounds {range : TopContentRange}
    (read : topContentRange request = some range) :
    (1 ≤ range.days ∧ range.days ≤ 365) ∧ 1 ≤ range.limit ∧ range.limit ≤ 100 := by
  unfold topContentRange at read
  split at read
  · next days limit readDays readLimit =>
      obtain rfl := Option.some.inj read
      exact ⟨analyticsParseRange_bounds (by decide) readDays,
        analyticsParseRange_bounds (by decide) readLimit⟩
  · cases read

theorem snprintf_signedDecimal {number : Int} (bounds : 1 ≤ number ∧ number ≤ 365) :
    snprintf 12 (signedDecimal number) =
      (((decimal number.toNat).length : Int), decimal number.toNat) := by
  have sign : signedDecimal number = decimal number.toNat := by
    rw [signedDecimal, if_neg (by omega)]
    congr 1
    omega
  rw [sign, snprintf_decimal (by omega) (by omega)]

theorem run_topContentItems (result : Option PgResult) (indices : List Nat) :
    (topContentItems result indices).run (interpret postgres environment) exchange =
      (if indices.all fun index => environment.grants (.item index) then
        some (indices.map (topContentItem result))
      else none, exchange) := by
  induction indices with
  | nil => rfl
  | cons index rest ih =>
      rw [topContentItems, Program.run_bind, run_allocate]
      cases granted : environment.grants (.item index) with
      | false => simp [granted]
      | true =>
          simp only [↓reduceIte, Program.run_bind, ih, List.all_cons, granted, Bool.true_and]
          split <;> simp_all

theorem portalHttpRouteTopContent_ends (lawful : postgres.Lawful)
    (valid : exchange.world.database.Valid postgres.lower) (idle : exchange.Idle) :
    TopContentEnds postgres environment request exchange.world
      ((portalHttpRouteTopContent request).run (interpret postgres environment) exchange).2.reply
      ((portalHttpRouteTopContent request).run (interpret postgres environment)
        exchange).2.world := by
  unfold portalHttpRouteTopContent
  obtain ⟨result, middle, looked, still, ends⟩ :=
    portalHttpAuthenticate_ends environment request lawful valid idle.statements
  have calm : middle.attempts = [] := still.trans idle.attempts
  simp only [Program.run_bind, looked]
  rcases ends.required with ⟨outside, refused⟩ | ⟨text, token, session, user, rfl, admitted⟩
  · rw [if_pos outside]
    simp only [run_portalHttpResponseError, Exchange.answer_world]
    exact .unauthorized refused (Exchange.answer_answered calm (·.reports) _)
  rw [if_neg (by simp)]
  cases accepted : portalValidationKey (request.lookup .getArgument "portal_key") 120 with
  | false =>
      rw [if_pos (by simp)]
      simp only [run_portalHttpResponseError, Exchange.answer_world]
      exact .invalidPortal admitted accepted (Exchange.answer_answered calm (·.reports) _)
  | true =>
      obtain ⟨portalKey, portal, _⟩ := portalValidationKey_iff.mp accepted
      rw [if_neg (by simp [portal])]
      cases readDays : analyticsParseRange (request.lookup .getArgument "days") 7 1 365 with
      | none =>
          simp only [run_portalHttpResponseError, Exchange.answer_world]
          exact .invalidRange admitted accepted (by simp [topContentRange, readDays])
            (Exchange.answer_answered calm (·.reports) _)
      | some days =>
      cases readLimit : analyticsParseRange (request.lookup .getArgument "limit") 10 1 100 with
      | none =>
          simp only [run_portalHttpResponseError, Exchange.answer_world]
          exact .invalidRange admitted accepted (by simp [topContentRange, readLimit])
            (Exchange.answer_answered calm (·.reports) _)
      | some limit =>
          let range : TopContentRange := { days, limit }
          have read : topContentRange request = some range := by
            simp [topContentRange, readDays, readLimit, range]
          have key : portalValidationKey (some portalKey) 120 = true := portal ▸ accepted
          obtain ⟨daysBounds, limitBounds⟩ := TopContentRange.bounds read
          have quiet : (middle.query postgres environment (range.statement portalKey)).2.attempts =
              [] := by simp [calm]
          have sent : Statement.topContent portalKey (decimal days.toNat) (decimal limit.toNat) =
              range.statement portalKey := rfl
          have daysText := snprintf_signedDecimal daysBounds
          have limitText := snprintf_signedDecimal ⟨limitBounds.1, by omega⟩
          simp only [range] at daysText limitText
          simp only [daysText, limitText, portal, Option.getD_some, sent]
          rw [if_neg (by simp)]
          simp only [Program.run_bind, run_portalDatabaseQuery]
          rcases middle.query_cases postgres environment (range.statement portalKey) with
            failed | ⟨transaction, outcome, result, committed⟩
          · rw [if_pos failed.status_ne.1]
            simp only [run_portalHttpResponseError, Exchange.answer_world]
            exact .failed admitted portal key read failed
              (Exchange.answer_answered quiet (·.reports) _)
          · obtain ⟨status, same⟩ :=
              executeTopContent_database (execute_eq_ok.mp committed.executed).2
            have tuples : portalDatabaseResultStatus (some outcome) = .tuples := by
              simp only at status
              simp [portalDatabaseResultStatus, status]
            have kept := admitted.kept.trans ⟨same, committed.clock⟩
            rw [result, if_neg (by simp [tuples])]
            simp only [Program.run_bind, Program.run_ite]
            split
            · next lost =>
                have scarce : ¬ environment.Supplied := fun supplied => by
                  simp [supplied.granted] at lost
                exact .listed admitted portal key read kept committed
                  (Exchange.unanswered quiet scarce _)
            · simp only [run_allocate, run_topContentItems]
              cases granted : (List.range (portalDatabaseResultRowCount (some outcome))).all
                  fun index => environment.grants (.item index) with
              | false =>
                  have scarce : ¬ environment.Supplied := fun supplied => by
                    simp [supplied.granted] at granted
                  exact .listed admitted portal key read kept committed
                    (Exchange.unanswered quiet scarce _)
              | true =>
                  simp only [↓reduceIte, run_portalHttpResponseJson, Exchange.answer_world]
                  exact .listed admitted portal key read kept committed
                    (Exchange.answer_answered quiet (·.builds) _)

end Runs

end PortalApi
