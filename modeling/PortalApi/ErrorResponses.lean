import PortalApi.Reference

/-! An error response means that the tables are untouched. -/

set_option autoImplicit false

namespace PortalApi

open Library

/-- The status of a reply, when there is one. -/
def statusOf (reply : Option Response) : Option Nat := reply.map (·.status)

@[simp] theorem statusOf_some (response : Response) :
    statusOf (some response) = some response.status := rfl

theorem Answered.status_eq {environment : Environment} {response : Response}
    {reply : Option Response} (answered : Answered environment response reply) {status : Nat}
    (given : statusOf reply = some status) : response.status = status := by
  rcases answered.possible with rfl | rfl
  · cases given
  · simpa [statusOf] using given

theorem Answered.status_ne {environment : Environment} {response : Response}
    {reply : Option Response} (answered : Answered environment response reply) {status : Nat}
    (other : response.status ≠ status) : statusOf reply ≠ some status :=
  fun sent => other (answered.status_eq sent)

/-- Only a request that got no error response can have changed the tables. -/
theorem Effect.database_of_error {service : Service} {call : Call} {world after : World}
    {reply : Option Response} (effect : Effect service call world reply after) {status : Nat}
    (given : statusOf reply = some status) (error : 400 ≤ status) :
    after.database = world.database := by
  have impossible : ∀ {response : Response}, Answered call.environment response reply →
      response.status < 400 → False := by
    intro response answered success
    have same := answered.status_eq given
    omega
  cases effect with
  | kept kept _ => exact kept.database
  | registered registered => exact (impossible registered.answered (show 201 < 400 by decide)).elim
  | confirmed confirmed => exact (impossible confirmed.answered (by decide)).elim
  | loggedIn loggedIn => exact (impossible loggedIn.answered (show 200 < 400 by decide)).elim
  | loggedOut loggedOut => exact (impossible loggedOut.answered (by decide)).elim
  | favoriteAdded change _ _ _ => exact (impossible change.answered (by decide)).elim
  | favoritePresent _ _ _ same => exact same
  | favoriteRemoved change _ _ => exact (impossible change.answered (by decide)).elim
  | recorded recorded => exact (impossible recorded.answered (show 201 < 400 by decide)).elim
  | liked change _ _ _ _ _ => exact (impossible change.answered (by decide)).elim
  | likePresent _ _ _ _ same => exact same
  | unliked change _ _ => exact (impossible change.answered (by decide)).elim
  | commented commented => exact (impossible commented.answered (show 201 < 400 by decide)).elim

/-- In every state that requests reach, over whatever failures of libpq and of
the allocations, a request answered with an error leaves every table as it was. -/
theorem error_leaves_tables {service : Service} (lawful : service.postgres.Lawful)
    {admits : Environment → Prop} {entries : List Service.Entry} {world : World}
    (run : service.Run admits entries world) (call : Call) {status : Nat}
    (given : statusOf (service.serve call world).1 = some status) (error : 400 ≤ status) :
    (service.serve call world).2.database = world.database :=
  (service.serve_effect call lawful (Service.Run.valid run)).database_of_error given error

namespace Reference

def confirming : Service := service (bodies [account, confirmation 1])

/-- Ana registers and confirms. -/
def confirmed : List Call :=
  [post "/auth/register" account 1 0, post "/auth/confirm" (confirmation 1) 2 hour.toNat]

end Reference

/-- A confirmation that is repeated is refused and changes nothing. -/
theorem error_leaves_tables_replay :
    (Reference.confirming.serve (Reference.post "/auth/confirm" (Reference.confirmation 1) 3 0)
        (Reference.after Reference.confirming Reference.confirmed)).2.database =
      (Reference.after Reference.confirming Reference.confirmed).database := by
  have healthy : ∀ call ∈ Reference.confirmed, call.environment.Healthy := by
    simp [Reference.confirmed, Reference.post, Reference.environment_healthy]
  have refused : statusOf (Reference.confirming.serve
      (Reference.post "/auth/confirm" (Reference.confirmation 1) 3 0)
      (Reference.after Reference.confirming Reference.confirmed)).1 = some 400 := by
    decide +kernel
  exact error_leaves_tables Reference.lawful (Reference.run Reference.confirming healthy) _ refused
    (by decide)

end PortalApi
