import PortalApi.Favorites

/-! Whom a request acts for, and that it leaves the rows of everybody else
alone. -/

set_option autoImplicit false

namespace PortalApi

open Library

/-- The rows of one actor, but for its events and comments. -/
structure Holdings where
  users : List UserRow
  confirmationTokens : List ConfirmationTokenRow
  authSessions : List AuthSessionRow
  favoriteSections : List FavoriteRow
  favoriteTags : List FavoriteRow
  contentLikes : List ContentLikeRow
  deriving DecidableEq

def Database.holdings (database : Database) (actor : Actor) : Holdings where
  users := database.users.filter fun row => actor.userId = some row.id
  confirmationTokens := database.confirmationTokens.filter fun row =>
    actor.userId = some row.userId
  authSessions := database.authSessions.filter fun row => actor.userId = some row.userId
  favoriteSections := database.favoriteSections.filter fun row => actor.userId = some row.userId
  favoriteTags := database.favoriteTags.filter fun row => actor.userId = some row.userId
  contentLikes := database.contentLikes.filter fun row =>
    row.userId = actor.userId && row.anonymousId = actor.anonymousId

/-- The confirmed owner of the session with this token that is open at this time. -/
def Database.liveOwner (database : Database) (now : Time) (token : Uuid) : Option UserRow :=
  (database.authSessions.find? fun session => session.token = token).bind fun session =>
    if session.revokedAt.isNone && session.expiresAt > now then
      (database.users.find? fun user => user.id = session.userId).filter (·.confirmedAt.isSome)
    else none

/-- The anonymous actor that an `anonymous_id` text names. -/
def anonymousActor (text : Bytes) : Option Actor :=
  if valid : portalValidationAnonymousId (some text) = true then some (.anonymous ⟨text, valid⟩)
  else none

/-- Whom a request acts for: the account that it registers, confirms or signs
in; on any other route the owner of the session it presents or, without an
`Authorization` header, the anonymous identifier in its body. -/
def Service.identity (service : Service) (call : Call) (world after : World) : Option Actor :=
  if call.request.method = bytes "POST" && call.request.url = bytes "/auth/register" then
    (registerFields (service.body call)).bind fun fields =>
      (after.database.users.find? fun user => user.email = fields.email).map fun user =>
        .user user.id
  else if call.request.method = bytes "POST" && call.request.url = bytes "/auth/confirm" then
    ((confirmText (service.body call)).bind service.postgres.castText).bind fun token =>
      (world.database.confirmationTokens.find? fun row => row.token = token).map fun row =>
        .user row.userId
  else if call.request.method = bytes "POST" && call.request.url = bytes "/auth/login" then
    (loginFields (service.body call)).bind fun fields =>
      (world.database.users.find? fun user => user.email = fields.email).map fun user =>
        .user user.id
  else if call.request.authorization.getD [] = [] then
    (anonymousIdText (service.body call)).bind anonymousActor
  else
    (presentedSession service.postgres call.request).bind fun token =>
      (world.database.liveOwner (world.lookupTime call.environment) token).map fun user =>
        .user user.id

/-- The request is none of those that act for the account they are about. -/
def Request.Apart (request : Request) : Prop :=
  ∀ url ∈ ["/auth/register", "/auth/confirm", "/auth/login"], ¬ request.At "POST" url

section Identity

variable {service : Service} {call : Call} {world after : World} {reply : Option Response}

theorem Service.identity_apart (apart : call.request.Apart) :
    service.identity call world after =
      if call.request.authorization.getD [] = [] then
        (anonymousIdText (service.body call)).bind anonymousActor
      else
        (presentedSession service.postgres call.request).bind fun token =>
          (world.database.liveOwner (world.lookupTime call.environment) token).map fun user =>
            .user user.id := by
  have other : ∀ url ∈ ["/auth/register", "/auth/confirm", "/auth/login"],
      ¬ (decide (call.request.method = bytes "POST") && decide (call.request.url = bytes url)) =
        true := by
    intro url member same
    simp only [Bool.and_eq_true, decide_eq_true_eq] at same
    exact apart url member ⟨same.1, same.2⟩
  rw [identity, if_neg (other "/auth/register" (by simp)), if_neg (other "/auth/confirm" (by simp)),
    if_neg (other "/auth/login" (by simp))]

theorem Database.Live.liveOwner {lower : Bytes → Bytes} {database : Database} {now : Time}
    {token : Uuid} {session : AuthSessionRow} {user : UserRow} (valid : database.Valid lower)
    (live : database.Live now token session user) : database.liveOwner now token = some user := by
  have found := Table.find_eq_some valid.sessionKeys live.session_mem
  have owner := Table.find_eq_some valid.userIds live.user_mem
  rw [live.token] at found
  rw [live.owner] at owner
  simp [Database.liveOwner, found, owner, live.unrevoked, live.unexpired, live.confirmed]

/-- However the token of a session is spelled, the request acts for its owner. -/
theorem Service.identity_presented (apart : call.request.Apart) {token : Uuid} {user : UserRow}
    (presented : presentedSession service.postgres call.request = some token)
    (live : world.database.liveOwner (world.lookupTime call.environment) token = some user) :
    service.identity call world after = some (.user user.id) := by
  rw [identity_apart apart, if_neg (presentedSession_present presented), presented, Option.bind_some, live]
  rfl

theorem LetIn.identity (valid : world.database.Valid service.postgres.lower)
    (apart : call.request.Apart) {token : Uuid} {session : AuthSessionRow} {user : UserRow}
    {middle : World} (letIn : LetIn service call world token session user middle) :
    service.identity call world after = some (.user user.id) := by
  obtain ⟨text, lookup, admitted, _⟩ := letIn.admitted
  have presented : presentedSession service.postgres call.request = some token :=
    presentedSession_eq_some.mpr ⟨text, admitted.bearer, admitted.cast⟩
  exact Service.identity_presented apart presented (admitted.live.liveOwner valid)

theorem MayAct.identity (valid : world.database.Valid service.postgres.lower)
    (apart : call.request.Apart) {actor : Actor}
    (may : MayAct service.postgres call.environment call.request (service.body call) world actor) :
    service.identity call world after = some actor := by
  cases may with
  | session presented live =>
      exact Service.identity_presented apart presented (live.liveOwner valid)
  | @anonymous id absent read =>
      rw [Service.identity_apart apart, if_pos absent, read, Option.bind_some, anonymousActor,
        dif_pos id.property]

theorem ActsAs.identity (valid : world.database.Valid service.postgres.lower)
    (apart : call.request.Apart) {actor : Actor} {middle : World}
    (acts : ActsAs service call world actor middle) :
    service.identity call world after = some actor := by
  obtain ⟨reached, acts, _⟩ := acts.acts
  exact acts.mayAct.identity valid apart

theorem Registered.identity {fields : RegisterFields} {transaction : Transaction}
    (validAfter : after.database.Valid service.postgres.lower)
    (registered : Registered service call world fields transaction reply after) :
    service.identity call world after =
      some (.user (fields.user service.postgres transaction).id) := by
  have member : fields.user service.postgres transaction ∈ after.database.users := by
    simp [registered.database]
  have found := Table.find_eq_some validAfter.userEmails member
  rw [Service.identity, if_pos (by simp [registered.request.method, registered.request.url]),
    registered.read, Option.bind_some]
  exact congrArg (Option.map fun user => Actor.user user.id) found

theorem Confirmed.identity {row : ConfirmationTokenRow} {user : UserRow}
    {transaction : Transaction} (valid : world.database.Valid service.postgres.lower)
    (confirmed : Confirmed service call world row user transaction reply after) :
    service.identity call world after = some (.user row.userId) := by
  have found := Table.find_eq_some valid.tokenKeys confirmed.row_mem
  have other : bytes "/auth/confirm" ≠ bytes "/auth/register" := by decide
  rw [Service.identity, if_neg (by simp [confirmed.request.url, other]),
    if_pos (by simp [confirmed.request.method, confirmed.request.url]), confirmed.presented,
    Option.bind_some, found]
  rfl

theorem LoggedIn.identity {fields : LoginFields} {user : UserRow} {transaction : Transaction}
    (valid : world.database.Valid service.postgres.lower)
    (loggedIn : LoggedIn service call world fields user transaction reply after) :
    service.identity call world after = some (.user user.id) := by
  have accepted := loggedIn.accepted
  simp only [candidate, Bool.and_eq_true, decide_eq_true_eq] at accepted
  have found := Table.find_eq_some valid.userEmails loggedIn.user_mem
  rw [accepted.1.1] at found
  have others : bytes "/auth/login" ≠ bytes "/auth/register" ∧
      bytes "/auth/login" ≠ bytes "/auth/confirm" := by decide
  rw [Service.identity, if_neg (by simp [loggedIn.request.url, others.1]),
    if_neg (by simp [loggedIn.request.url, others.2]),
    if_pos (by simp [loggedIn.request.method, loggedIn.request.url]), loggedIn.read,
    Option.bind_some, found]
  rfl

end Identity

/-- What a request may do to the tables: nothing outside the rows of the one it
acts for, and there no deletion of what is only ever added. -/
structure Confined (service : Service) (call : Call) (world after : World) : Prop where
  others : ∀ actor, service.identity call world after ≠ some actor →
    after.database.holdings actor = world.database.holdings actor
  events : ∃ added, after.database.activityEvents = world.database.activityEvents ++ added ∧
    ∀ event ∈ added, ∃ actor, service.identity call world after = some actor ∧
      actor.Owns event.userId event.anonymousId
  comments : ∃ added, after.database.comments = world.database.comments ++ added ∧
    ∀ comment ∈ added, ∃ actor, service.identity call world after = some actor ∧
      actor.Owns comment.userId comment.anonymousId
  users : ∀ user ∈ world.database.users, ∃ later ∈ after.database.users, later.id = user.id
  confirmationTokens : ∀ row ∈ world.database.confirmationTokens,
    ∃ later ∈ after.database.confirmationTokens, later.token = row.token
  authSessions : ∀ session ∈ world.database.authSessions,
    ∃ later ∈ after.database.authSessions, later.token = session.token
  kinds : ∀ kind other key, call.request.url = bytes (PortalFavoriteKind.path kind) ++ bytes "/" ++ key →
    other ≠ kind → after.database.favorites other = world.database.favorites other
  attributed : after.database.Attributed service.postgres

section Frames

variable {service : Service} {call : Call} {world after : World} {reply : Option Response}
  {actor : Actor}

theorem Request.At.apart {method url : String} (request : call.request.At method url)
    (outside : ∀ other ∈ ["/auth/register", "/auth/confirm", "/auth/login"],
      bytes url ≠ bytes other) : call.request.Apart := by
  intro other member also
  exact request.url_ne also (outside other member)

theorem Request.OnContent.apart {contentId : Bytes} {action : String}
    (content : call.request.OnContent contentId action) : call.request.Apart := by
  intro other member also
  have outside : ∀ other ∈ ["/auth/register", "/auth/confirm", "/auth/login"],
      ¬ bytes "/content/" <+: bytes other := by decide
  exact content.not_at also (outside other member)

theorem ChangesFavorite.apart {kind : PortalFavoriteKind} {user : UserRow} {key : Bytes}
    (change : ChangesFavorite service call world kind user key reply after) :
    call.request.Apart := by
  intro other member also
  have outside : ∀ kind : PortalFavoriteKind,
      ∀ other ∈ ["/auth/register", "/auth/confirm", "/auth/login"],
        ¬ bytes kind.path <+: bytes other := by
    intro kind
    cases kind <;> decide
  exact change.not_at also (outside kind other member)

/-- A request for one user acts for no row of another actor. -/
private theorem userId_ne {id : Uuid} {identity : Option Actor} (user : identity = some (.user id))
    (other : identity ≠ some actor) : actor.userId ≠ some id := by
  intro same
  cases actor with
  | user own =>
      obtain rfl : own = id := Option.some.inj same
      exact other user
  | anonymous _ => cases same

private theorem AccountEffect.others (valid : world.database.Valid service.postgres.lower)
    (validAfter : after.database.Valid service.postgres.lower)
    (effect : AccountEffect service call world reply after)
    (other : service.identity call world after ≠ some actor) :
    (after.database.holdings actor).users = (world.database.holdings actor).users ∧
      (after.database.holdings actor).confirmationTokens =
        (world.database.holdings actor).confirmationTokens ∧
      (after.database.holdings actor).authSessions =
        (world.database.holdings actor).authSessions := by
  simp only [Database.holdings]
  cases effect with
  | @registered fields transaction _ _ registered =>
      have owner : actor.userId ≠ some (fields.user service.postgres transaction).id :=
        userId_ne (registered.identity validAfter) other
      rw [registered.database]
      refine ⟨Table.filter_append_other ?_, Table.filter_append_other ?_, rfl⟩
      · exact decide_eq_false owner
      · exact decide_eq_false owner
  | @confirmed row user transaction _ _ confirmed =>
      have owner : actor.userId ≠ some row.userId :=
        userId_ne (confirmed.identity valid) other
      rw [confirmed.database, Database.confirm]
      refine ⟨Table.filter_update_other ?_, Table.filter_update_other ?_, rfl⟩
      · intro stored _ chosen
        have same : stored.id = row.userId := by simpa using chosen
        simp [confirmUser, same, owner]
      · intro stored member chosen
        have same : stored.token = row.token := by simpa using chosen
        obtain rfl := Table.eq_of_key valid.tokenKeys member confirmed.row_mem same
        simp [consume, owner]
  | @loggedIn fields user transaction _ _ loggedIn =>
      have owner : actor.userId ≠ some user.id :=
        userId_ne (loggedIn.identity valid) other
      rw [loggedIn.database]
      refine ⟨rfl, rfl, Table.filter_append_other ?_⟩
      exact decide_eq_false owner
  | @loggedOut token session user transaction _ _ loggedOut =>
      have apart := loggedOut.request.apart (by decide)
      obtain ⟨_, _, admitted, _⟩ := loggedOut.letIn.admitted
      have owner : actor.userId ≠ some session.userId := by
        rw [← admitted.live.owner]
        exact userId_ne (loggedOut.letIn.identity valid apart) other
      rw [loggedOut.database, Database.logout]
      refine ⟨rfl, rfl, Table.filter_update_other ?_⟩
      intro stored member chosen
      simp only [revocable, Bool.and_eq_true, decide_eq_true_eq] at chosen
      have same := chosen.1.trans admitted.live.token.symm
      obtain rfl := Table.eq_of_key valid.sessionKeys member admitted.live.session_mem same
      simp [revoke, owner]
  | elsewhere elsewhere =>
      rw [elsewhere.users, elsewhere.confirmationTokens, elsewhere.authSessions]
      exact ⟨rfl, rfl, rfl⟩

private theorem FavoriteEffect.others (valid : world.database.Valid service.postgres.lower)
    (effect : FavoriteEffect service call world reply after)
    (other : service.identity call world after ≠ some actor) (kind : PortalFavoriteKind) :
    (after.database.favorites kind).filter (fun row => actor.userId = some row.userId) =
      (world.database.favorites kind).filter (fun row => actor.userId = some row.userId) := by
  cases effect with
  | @added changed user key _ _ change put absent database =>
      obtain ⟨_, _, letIn⟩ := change.letIn
      have owner : actor.userId ≠ some user.id :=
        userId_ne (letIn.identity valid change.apart) other
      rw [database]
      by_cases same : kind = changed
      · subst same
        rw [Database.favorites_setFavorites]
        exact Table.filter_append_other (by simpa using owner)
      · rw [world.database.favorites_setFavorites_ne _ same]
  | present _ _ _ same => rw [same]
  | @removed changed user key _ _ change delete database =>
      obtain ⟨_, _, letIn⟩ := change.letIn
      have owner : actor.userId ≠ some user.id :=
        userId_ne (letIn.identity valid change.apart) other
      rw [database, Database.removeFavorite]
      by_cases same : kind = changed
      · subst same
        rw [Database.favorites_setFavorites]
        apply Table.filter_filter_kept
        intro row _ owned
        have owned : actor.userId = some row.userId := by simpa using owned
        have apart : row.userId ≠ user.id := by
          intro same
          exact owner (same ▸ owned)
        simp [apart]
      · rw [world.database.favorites_setFavorites_ne _ same]
  | unfavoring unfavoring => rw [unfavoring.favorites]

private theorem ActionEffect.others (lawful : service.postgres.Lawful)
    (valid : world.database.Valid service.postgres.lower)
    (attributed : world.database.Attributed service.postgres)
    (effect : ActionEffect service call world reply after)
    (other : service.identity call world after ≠ some actor) :
    (after.database.holdings actor).contentLikes =
      (world.database.holdings actor).contentLikes := by
  simp only [Database.holdings]
  cases effect with
  | recorded recorded => rw [recorded.database]
  | @liked contentId _ liker transaction _ _ liked =>
      have apart : liker ≠ actor := by
        intro same
        exact other (same ▸ liked.change.acts.identity valid liked.change.content.apart)
      rw [liked.database]
      apply Table.filter_append_other
      have owns : ¬ actor.Owns liker.userId liker.anonymousId :=
        fun owns => apart (liker.owns_self.unique owns)
      apply Bool.eq_false_iff.mpr
      intro same
      obtain ⟨users, ids⟩ := Bool.and_eq_true_iff.mp same
      exact owns ⟨of_decide_eq_true users, of_decide_eq_true ids⟩
  | likePresent _ _ _ _ same => rw [same]
  | @unliked contentId liker _ _ change delete database =>
      have apart : liker ≠ actor := by
        intro same
        exact other (same ▸ change.acts.identity valid change.content.apart)
      rw [database, Database.unlike]
      apply Table.filter_filter_kept
      intro row member owned
      simp only [Bool.and_eq_true, decide_eq_true_eq] at owned
      obtain ⟨owner, owns, keyed⟩ := attributed.likes row member
      obtain rfl := owns.unique ⟨owned.1, owned.2⟩
      have different : row.actorKey ≠ liker.key service.postgres := by
        intro same
        exact apart (Actor.key_injective lawful (keyed.symm.trans same)).symm
      simp [different]
  | commented commented => rw [commented.database]
  | inactive inactive => rw [inactive.contentLikes]

private theorem holdings_ext {first second : Holdings} (users : first.users = second.users)
    (confirmationTokens : first.confirmationTokens = second.confirmationTokens)
    (authSessions : first.authSessions = second.authSessions)
    (favoriteSections : first.favoriteSections = second.favoriteSections)
    (favoriteTags : first.favoriteTags = second.favoriteTags)
    (contentLikes : first.contentLikes = second.contentLikes) : first = second := by
  cases first
  cases second
  simp_all only

/-- Every added event belongs to the actor of the request. -/
private theorem ActionEffect.events (valid : world.database.Valid service.postgres.lower)
    (effect : ActionEffect service call world reply after) :
    ∃ added, after.database.activityEvents = world.database.activityEvents ++ added ∧
      ∀ event ∈ added, ∃ actor, service.identity call world after = some actor ∧
        actor.Owns event.userId event.anonymousId := by
  have one : ∀ {actor : Actor} {event : ActivityEventRow},
      service.identity call world after = some actor →
      actor.Owns event.userId event.anonymousId → ∀ added ∈ [event], ∃ actor,
        service.identity call world after = some actor ∧
          actor.Owns added.userId added.anonymousId := by
    intro actor event identity owns added member
    obtain rfl := List.mem_singleton.mp member
    exact ⟨actor, identity, owns⟩
  cases effect with
  | @recorded _ _ event _ _ recorded =>
      have apart := recorded.request.apart (by decide)
      exact ⟨[event], by rw [recorded.database], one (recorded.acts.identity valid apart)
        recorded.owns⟩
  | @liked contentId portalKey liker transaction _ _ liked =>
      have apart := liked.change.content.apart
      exact ⟨_, by rw [liked.database], one (liked.change.acts.identity valid apart)
        liker.owns_self⟩
  | likePresent _ _ _ _ same => exact ⟨[], by rw [same, List.append_nil], by simp⟩
  | unliked _ _ database =>
      exact ⟨[], by rw [database, List.append_nil]; rfl, by simp⟩
  | @commented _ _ _ _ event _ _ commented =>
      have apart := commented.content.apart
      exact ⟨[event], by rw [commented.database], one (commented.acts.identity valid apart)
        commented.owns.2⟩
  | inactive inactive =>
      exact ⟨[], by rw [inactive.activityEvents, List.append_nil], by simp⟩

private theorem ActionEffect.comments (valid : world.database.Valid service.postgres.lower)
    (effect : ActionEffect service call world reply after) :
    ∃ added, after.database.comments = world.database.comments ++ added ∧
      ∀ comment ∈ added, ∃ actor, service.identity call world after = some actor ∧
        actor.Owns comment.userId comment.anonymousId := by
  cases effect with
  | recorded recorded => exact ⟨[], by rw [recorded.database, List.append_nil], by simp⟩
  | liked liked => exact ⟨[], by rw [liked.database, List.append_nil], by simp⟩
  | likePresent _ _ _ _ same => exact ⟨[], by rw [same, List.append_nil], by simp⟩
  | unliked _ _ database => exact ⟨[], by rw [database, List.append_nil]; rfl, by simp⟩
  | @commented _ _ actor comment _ _ _ commented =>
      refine ⟨[comment], by rw [commented.database], ?_⟩
      intro added member
      obtain rfl := List.mem_singleton.mp member
      exact ⟨actor, commented.acts.identity valid commented.content.apart, commented.owns.1⟩
  | inactive inactive => exact ⟨[], by rw [inactive.comments, List.append_nil], by simp⟩

private theorem AccountEffect.confirmationTokens
    (effect : AccountEffect service call world reply after) {row : ConfirmationTokenRow}
    (stored : row ∈ world.database.confirmationTokens) :
    ∃ later ∈ after.database.confirmationTokens, later.token = row.token := by
  cases effect with
  | registered registered => exact ⟨row, by simp [registered.database, stored], rfl⟩
  | @confirmed _ _ transaction _ _ confirmed =>
      have kept : ∀ other, (consume transaction other).token = other.token := fun _ => rfl
      rw [confirmed.database]
      exact Table.exists_mem_update kept stored
  | loggedIn loggedIn => exact ⟨row, by simp [loggedIn.database, stored], rfl⟩
  | loggedOut loggedOut =>
      exact ⟨row, by simp [loggedOut.database, Database.logout, stored], rfl⟩
  | elsewhere elsewhere => exact ⟨row, by simp [elsewhere.confirmationTokens, stored], rfl⟩

private theorem FavoriteEffect.kinds (effect : FavoriteEffect service call world reply after)
    {kind other : PortalFavoriteKind} {key : Bytes}
    (url : call.request.url = bytes kind.path ++ bytes "/" ++ key) (different : other ≠ kind) :
    after.database.favorites other = world.database.favorites other := by
  have changed : ∀ {named : PortalFavoriteKind} {user : UserRow} {name : Bytes},
      ChangesFavorite service call world named user name reply after → other ≠ named := by
    intro named user name change same
    have here := Request.favorite_eq_some.mpr url
    have there := Request.favorite_eq_some.mpr change.url
    obtain ⟨rfl, _⟩ := Prod.mk.inj (Option.some.inj (here.symm.trans there))
    exact different same
  cases effect with
  | added change _ _ database =>
      rw [database, world.database.favorites_setFavorites_ne _ (changed change)]
  | present _ _ _ same => rw [same]
  | removed change _ database =>
      rw [database, Database.removeFavorite,
        world.database.favorites_setFavorites_ne _ (changed change)]
  | unfavoring unfavoring => exact unfavoring.favorites other

end Frames

/-- In every reachable state every request stays within the rows of the one it
acts for. -/
theorem requests_confined {service : Service} (lawful : service.postgres.Lawful)
    {admits : Environment → Prop} {entries : List Service.Entry} {world : World}
    (run : service.Run admits entries world) (call : Call) :
    Confined service call world (service.serve call world).2 := by
  have valid := Service.Run.valid run
  have validAfter : (service.serve call world).2.database.Valid service.postgres.lower :=
    Service.serve_valid valid
  have attributed := Service.Run.attributed lawful run
  have effect := service.serve_effect call lawful valid
  constructor
  case others =>
    intro actor other
    obtain ⟨users, confirmationTokens, authSessions⟩ :=
      effect.accounts.others valid validAfter other
    exact holdings_ext users confirmationTokens authSessions
      (effect.favoring.others valid other .favoriteSection)
      (effect.favoring.others valid other .favoriteTag)
      (effect.actions.others lawful valid attributed other)
  case events => exact effect.actions.events valid
  case comments => exact effect.actions.comments valid
  case users =>
    intro user known
    obtain ⟨later, present, becomes⟩ := effect.accounts.users known
    exact ⟨later, present, becomes.id⟩
  case confirmationTokens =>
    intro row stored
    exact effect.accounts.confirmationTokens stored
  case authSessions =>
    intro session stored
    obtain ⟨later, present, becomes⟩ := effect.accounts.authSessions stored
    exact ⟨later, present, becomes.token⟩
  case kinds =>
    intro kind other key url different
    exact effect.favoring.kinds url different
  case attributed => exact effect.actions.attributed attributed

/-- Ana's favorite leaves a visitor's rows alone, and is her own. -/
theorem requests_confined_favored :
    Confined Reference.signing (Reference.favorite "PUT" "/me/favorite-tags/news" 23)
        (Reference.after Reference.signing Reference.favored)
        (Reference.signing.serve (Reference.favorite "PUT" "/me/favorite-tags/news" 23)
          (Reference.after Reference.signing Reference.favored)).2 ∧
      Reference.signing.identity (Reference.favorite "PUT" "/me/favorite-tags/news" 23)
        (Reference.after Reference.signing Reference.favored)
        (Reference.signing.serve (Reference.favorite "PUT" "/me/favorite-tags/news" 23)
          (Reference.after Reference.signing Reference.favored)).2 = some (.user (Reference.draw 1)) :=
  ⟨requests_confined Reference.lawful (Reference.run _ Reference.favored_healthy) _,
    by decide +kernel⟩

end PortalApi
