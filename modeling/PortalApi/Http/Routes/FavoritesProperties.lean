import PortalApi.Http.AuthenticationProperties
import PortalApi.Http.Routes.Favorites

/-! Every way a favorite list and a favorite change end. -/

set_option autoImplicit false

namespace PortalApi

open Library

section Ends

variable (postgres : Postgres) (environment : Environment) (request : Request)
  (kind : PortalFavoriteKind) (key : Bytes) (world : World)

inductive FavoriteListEnds : Option Response → World → Prop where
  | unauthorized {reply : Option Response} {after : World} :
      Refused postgres environment request world after →
      Answered environment unauthorizedResponse reply → FavoriteListEnds reply after
  | failed {reply : Option Response} {middle after : World} {text : Bytes} {token : Uuid}
      {session : AuthSessionRow} {user : UserRow} {result : Option PgResult} :
      Admitted postgres environment request world text token session user middle →
      middle.Failed postgres environment (.favoriteList kind (postgres.uuidOut user.id)) result
        after →
      Answered environment (errorResponse 500 "database_error" "Could not load favorites.") reply →
      FavoriteListEnds reply after
  | listed {reply : Option Response} {middle after : World} {text : Bytes} {token : Uuid}
      {session : AuthSessionRow} {user : UserRow} {keys : List Bytes} :
      Admitted postgres environment request world text token session user middle → world.Kept after →
      after.connection = .connectionOk →
      keys = (((world.database.favorites kind).filter fun row => row.userId = user.id).map
        (·.key)).insertionSort (fun left right => postgres.textLe left right) →
      Answered environment (jsonResponse 200 (favoriteItems
        (some (.tuples (keys.map fun key => [key]))))) reply →
      FavoriteListEnds reply after

def favoriteStatement (postgres : Postgres) (put : Bool) (kind : PortalFavoriteKind) (userId : Uuid)
    (key : Bytes) : Statement :=
  if put then .favoriteInsert kind (postgres.uuidOut userId) key
  else .favoriteDelete kind (postgres.uuidOut userId) key

def favoriteFailure (put : Bool) : Response :=
  errorResponse 500 "database_error"
    (if put then "Could not save the favorite." else "Could not remove the favorite.")

/-- The favorites after this key is removed from a user's set. -/
def Database.removeFavorite (database : Database) (kind : PortalFavoriteKind) (userId : Uuid)
    (key : Bytes) : Database :=
  database.setFavorites kind ((database.favorites kind).filter fun row =>
    !(row.userId = userId && row.key = key))

inductive FavoriteChangeEnds : Option Response → World → Prop where
  | unauthorized {reply : Option Response} {after : World} :
      Refused postgres environment request world after →
      Answered environment unauthorizedResponse reply → FavoriteChangeEnds reply after
  | invalidKey {reply : Option Response} {after : World} {text : Bytes} {token : Uuid}
      {session : AuthSessionRow} {user : UserRow} :
      Admitted postgres environment request world text token session user after →
      portalValidationKey (some key) 160 = false →
      Answered environment (errorResponse 400 "validation_error"
        "The favorite key contains unsupported characters.") reply →
      FavoriteChangeEnds reply after
  | failed {reply : Option Response} {middle after : World} {text : Bytes} {token : Uuid}
      {session : AuthSessionRow} {user : UserRow} {result : Option PgResult} :
      Admitted postgres environment request world text token session user middle →
      portalValidationKey (some key) 160 = true →
      middle.Failed postgres environment
        (favoriteStatement postgres request.isPut kind user.id key) result after →
      Answered environment (favoriteFailure request.isPut) reply → FavoriteChangeEnds reply after
  | added {reply : Option Response} {middle after : World} {text : Bytes} {token : Uuid}
      {session : AuthSessionRow} {user : UserRow} :
      Admitted postgres environment request world text token session user middle → request.isPut = true →
      portalValidationKey (some key) 160 = true → middle.clock ≤ after.clock →
      after.connection = .connectionOk →
      (∀ row ∈ world.database.favorites kind, ¬ (row.userId = user.id ∧ row.key = key)) →
      after.database = world.database.setFavorites kind (world.database.favorites kind ++
        [{ userId := user.id, key, createdAt := after.clock }]) →
      Answered environment (textResponse 204 []) reply → FavoriteChangeEnds reply after
  | present {reply : Option Response} {middle after : World} {text : Bytes} {token : Uuid}
      {session : AuthSessionRow} {user : UserRow} :
      Admitted postgres environment request world text token session user middle → request.isPut = true →
      portalValidationKey (some key) 160 = true → middle.clock ≤ after.clock →
      after.database = world.database → after.connection = .connectionOk →
      (∃ row ∈ world.database.favorites kind, row.userId = user.id ∧ row.key = key) →
      Answered environment (textResponse 204 []) reply → FavoriteChangeEnds reply after
  | removed {reply : Option Response} {middle after : World} {text : Bytes} {token : Uuid}
      {session : AuthSessionRow} {user : UserRow} :
      Admitted postgres environment request world text token session user middle → request.isPut = false →
      portalValidationKey (some key) 160 = true → middle.clock ≤ after.clock →
      after.connection = .connectionOk →
      after.database = world.database.removeFavorite kind user.id key →
      Answered environment (textResponse 204 []) reply → FavoriteChangeEnds reply after

end Ends

section Runs

variable {postgres : Postgres} {environment : Environment} {request : Request}
  {kind : PortalFavoriteKind} {key : Bytes} {exchange : Exchange}

theorem Postgres.Lawful.uuidIn_eq (lawful : postgres.Lawful) {id other : Uuid}
    (read : postgres.uuidIn (postgres.uuidOut id) = some other) : other = id := by
  simpa [lawful.uuidIn_uuidOut, eq_comm] using read

theorem run_favoriteHasAuthenticatedUser :
    (favoriteHasAuthenticatedUser request).run (interpret postgres environment) exchange =
      ((decide (((portalHttpAuthenticate request).run (interpret postgres environment)
          exchange).1.1 = .authenticated),
        ((portalHttpAuthenticate request).run (interpret postgres environment) exchange).1.2),
        ((portalHttpAuthenticate request).run (interpret postgres environment) exchange).2) := by
  simp [favoriteHasAuthenticatedUser]

theorem portalHttpRouteFavoriteList_ends (lawful : postgres.Lawful)
    (valid : exchange.world.database.Valid postgres.lower) (idle : exchange.Idle) :
    FavoriteListEnds postgres environment request kind exchange.world
      ((portalHttpRouteFavoriteList request kind).run (interpret postgres environment)
        exchange).2.reply
      ((portalHttpRouteFavoriteList request kind).run (interpret postgres environment)
        exchange).2.world := by
  unfold portalHttpRouteFavoriteList
  obtain ⟨result, middle, looked, still, ends⟩ :=
    portalHttpAuthenticate_ends environment request lawful valid idle.statements
  have calm : middle.attempts = [] := still.trans idle.attempts
  simp only [Program.run_bind, run_favoriteHasAuthenticatedUser, looked]
  rcases ends.required with ⟨outside, refused⟩ | ⟨text, token, session, user, rfl, admitted⟩
  · rw [if_pos (by simp [outside])]
    simp only [run_portalHttpResponseError, Exchange.answer_world]
    exact .unauthorized refused (Exchange.answer_answered calm (·.reports) _)
  · have quiet : (middle.query postgres environment
        (.favoriteList kind (postgres.uuidOut user.id))).2.attempts = [] := by simp [calm]
    rw [if_neg (by simp)]
    simp only [Program.run_bind, run_portalDatabaseQuery, authenticatedUser]
    rcases middle.query_cases postgres environment
        (.favoriteList kind (postgres.uuidOut user.id)) with
      failed | ⟨transaction, outcome, result, committed⟩
    · rw [if_pos failed.status_ne.1]
      simp only [run_portalHttpResponseError, Exchange.answer_world]
      exact .failed admitted failed (Exchange.answer_answered quiet (·.reports) _)
    · obtain ⟨id, read, ran⟩ :=
        executeFavoriteList_eq_ok.mp (execute_eq_ok.mp committed.executed).2
      obtain rfl := lawful.uuidIn_eq read
      obtain ⟨rfl, same⟩ := Prod.mk.inj ran
      rw [result, if_neg (by simp)]
      simp only [Program.run_bind, run_refusing, Exchange.answer_world]
      refine .listed admitted (admitted.kept.trans ⟨same, committed.clock⟩) committed.connection ?_
        (Exchange.answer_answered quiet (fun supplied => ?_) _)
      · rw [admitted.kept.database]
      · simp [supplied.granted, supplied.builds]

theorem portalHttpRouteFavoriteChange_ends (lawful : postgres.Lawful)
    (valid : exchange.world.database.Valid postgres.lower) (idle : exchange.Idle) :
    FavoriteChangeEnds postgres environment request kind key exchange.world
      ((portalHttpRouteFavoriteChange request kind key).run (interpret postgres environment)
        exchange).2.reply
      ((portalHttpRouteFavoriteChange request kind key).run (interpret postgres environment)
        exchange).2.world := by
  unfold portalHttpRouteFavoriteChange
  obtain ⟨result, middle, looked, still, ends⟩ :=
    portalHttpAuthenticate_ends environment request lawful valid idle.statements
  have calm : middle.attempts = [] := still.trans idle.attempts
  simp only [Program.run_bind, run_favoriteHasAuthenticatedUser, looked]
  rcases ends.required with ⟨outside, refused⟩ | ⟨text, token, session, user, rfl, admitted⟩
  · rw [if_pos (by simp [outside])]
    simp only [run_portalHttpResponseError, Exchange.answer_world]
    exact .unauthorized refused (Exchange.answer_answered calm (·.reports) _)
  rw [if_neg (by simp)]
  cases accepted : portalValidationKey (some key) 160 with
  | false =>
      rw [if_pos (by simp)]
      simp only [run_portalHttpResponseError, Exchange.answer_world]
      exact .invalidKey admitted accepted (Exchange.answer_answered calm (·.reports) _)
  | true =>
      have quiet : (middle.query postgres environment
          (favoriteStatement postgres request.isPut kind user.id key)).2.attempts = [] := by
        simp [calm]
      have sent : (if request.method = bytes "PUT" then
            Statement.favoriteInsert kind (authenticatedUser postgres user).id key
          else .favoriteDelete kind (authenticatedUser postgres user).id key) =
          favoriteStatement postgres request.isPut kind user.id key := by
        simp [favoriteStatement, Request.isPut, authenticatedUser]
      have failure : errorResponse 500 "database_error" (if request.method = bytes "PUT" then
          "Could not save the favorite." else "Could not remove the favorite.") =
          favoriteFailure request.isPut := by
        simp [favoriteFailure, Request.isPut]
      rw [if_neg (by simp)]
      simp only [Program.run_bind, run_portalDatabaseQuery, sent]
      rcases middle.query_cases postgres environment
          (favoriteStatement postgres request.isPut kind user.id key) with
        failed | ⟨transaction, outcome, result, committed⟩
      · rw [if_pos failed.status_ne.2]
        simp only [run_portalHttpResponseError, Exchange.answer_world, failure]
        exact .failed admitted accepted failed (Exchange.answer_answered quiet (·.reports) _)
      · rw [result]
        generalize (middle.query postgres environment
          (favoriteStatement postgres request.isPut kind user.id key)).2 = final at committed quiet ⊢
        have executed := (execute_eq_ok.mp committed.executed).2
        cases put : request.isPut with
        | true =>
            simp only [favoriteStatement, put, ↓reduceIte, executeConverted] at executed
            obtain ⟨id, read, _, change⟩ := executeFavoriteInsert_eq_ok.mp executed
            obtain rfl := lawful.uuidIn_eq read
            rcases change with ⟨stored, ran⟩ | ⟨absent, _, ran⟩
            · obtain ⟨rfl, same⟩ := Prod.mk.inj ran
              rw [if_neg (by simp)]
              simp only [run_portalHttpResponseEmpty, Exchange.answer_world]
              exact .present admitted put accepted committed.clock
                (same.trans admitted.kept.database) committed.connection
                (by rwa [← admitted.kept.database])
                (Exchange.answer_answered quiet (·.builds) _)
            · obtain ⟨rfl, same⟩ := Prod.mk.inj ran
              rw [if_neg (by simp)]
              simp only [run_portalHttpResponseEmpty, Exchange.answer_world]
              refine .added admitted put accepted committed.clock committed.connection ?_ ?_
                (Exchange.answer_answered quiet (·.builds) _)
              · rwa [← admitted.kept.database]
              · rw [same, admitted.kept.database, committed.now]
        | false =>
            simp only [favoriteStatement, put, Bool.false_eq_true, ↓reduceIte,
              executeConverted] at executed
            obtain ⟨id, read, ran⟩ := executeFavoriteDelete_eq_ok.mp executed
            obtain rfl := lawful.uuidIn_eq read
            obtain ⟨rfl, same⟩ := Prod.mk.inj ran
            rw [if_neg (by simp)]
            simp only [run_portalHttpResponseEmpty, Exchange.answer_world]
            refine .removed admitted put accepted committed.clock committed.connection ?_
              (Exchange.answer_answered quiet (·.builds) _)
            rw [same, admitted.kept.database, Database.removeFavorite]

end Runs

end PortalApi
