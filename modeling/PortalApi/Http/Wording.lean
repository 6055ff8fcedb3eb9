import PortalApi.Database.Outline
import PortalApi.Http.DialogueProperties
import PortalApi.Library.Mirror

/-! Two bodies that say the same in other words: they differ in nothing but texts that are
stored and never read. Their requests ask for the same, but for those texts. -/

set_option autoImplicit false

namespace PortalApi

open Library

/-- Two worlds that differ in nothing but what is stored and never read. -/
structure World.Resembles (world other : World) : Prop where
  database : other.database.outline = world.database.outline
  clock : other.clock = world.clock
  connection : other.connection = world.connection

structure Exchange.Resembles (exchange other : Exchange) : Prop where
  world : exchange.world.Resembles other.world
  statements : other.statements = exchange.statements
  attempts : other.attempts = exchange.attempts

/-- An operation is its own twin, and so is a statement in other words. -/
inductive Rewording (postgres : Postgres) : Twins Operation.Answer where
  | same (operation : Operation) : Rewording postgres operation operation id
  | statement {statement reworded : Statement} : statement.Reworded postgres reworded →
      Rewording postgres (.pqExecParams statement) (.pqExecParams reworded) id

abbrev Reworded {α : Type} (postgres : Postgres) : Handler α → Handler α → Prop :=
  Program.Mirrors (Rewording postgres)

/-- The members whose values are stored and never read. -/
def writtenMembers : List Bytes :=
  [bytes "display_name", bytes "body", bytes "author_name", bytes "component_id",
    bytes "page_url", bytes "event_data"]

/-- A text and another that PostgreSQL can store as well, if there is one at all. -/
inductive Written : Option Bytes → Option Bytes → Prop where
  | absent : Written none none
  | given {text other : Bytes} : validUtf8 text = true → validUtf8 other = true →
      Written (some text) (some other)

inductive Attached (postgres : Postgres) : Option Bytes → Option Bytes → Prop where
  | absent : Attached postgres none none
  | given {text other : Bytes} : validUtf8 text = true → validUtf8 other = true →
      (postgres.jsonbIn text).isSome = true → (postgres.jsonbIn other).isSome = true →
      Attached postgres (some text) (some other)

/-- The optional texts of a body can be stored. -/
structure Json.Annotated (json : Json) : Prop where
  authorName : validUtf8 ((portalHttpJsonOptionalString (some json) (bytes "author_name") 100).getD
    []) = true
  componentId : validUtf8 ((portalHttpJsonOptionalString (some json) (bytes "component_id")
    300).getD []) = true
  pageUrl : validUtf8 ((portalHttpJsonOptionalString (some json) (bytes "page_url") 2000).getD
    []) = true

structure Json.Reworded (postgres : Postgres) (jsonC : JsonC) (json other : Json) : Prop where
  others : ∀ key, key ∉ writtenMembers → other.objectGetEx key = json.objectGetEx key
  displayName : Written (portalHttpJsonString (some json) (bytes "display_name") 1 100)
    (portalHttpJsonString (some other) (bytes "display_name") 1 100)
  body : Written (portalHttpJsonString (some json) (bytes "body") 1 5000)
    (portalHttpJsonString (some other) (bytes "body") 1 5000)
  eventData : Attached postgres (activityEventData jsonC (some json))
    (activityEventData jsonC (some other))
  annotated : json.Annotated
  reannotated : other.Annotated

section Interpret

variable {postgres : Postgres} {environment : Environment} {world other : World}
  {exchange image : Exchange} {statement reworded : Statement} {moment : Moment}

theorem World.Resembles.pqExecParams (resembles : world.Resembles other)
    (alike : statement.Reworded postgres reworded) :
    (other.pqExecParams postgres moment reworded).1 =
        (world.pqExecParams postgres moment statement).1 ∧
      (world.pqExecParams postgres moment statement).2.Resembles
        (other.pqExecParams postgres moment reworded).2 := by
  obtain ⟨database, clock, connection⟩ := resembles
  have ran : outlined (execute postgres (moment.transaction world.clock) reworded other.database) =
      outlined (execute postgres (moment.transaction world.clock) statement world.database) :=
    execute_reworded alike database
  simp only [World.pqExecParams, clock, connection]
  cases linked : world.connection with
  | connectionBad => exact ⟨rfl, database, rfl, rfl⟩
  | connectionOk =>
      cases moment.weather with
      | noResult lost => exact ⟨rfl, database, rfl, rfl⟩
      | serverError sqlState lost => exact ⟨rfl, database, rfl, rfl⟩
      | fair =>
          simp only
          generalize execute postgres (moment.transaction world.clock) reworded other.database =
            again at *
          generalize execute postgres (moment.transaction world.clock) statement world.database =
            first at *
          cases first with
          | error failure =>
              cases again with
              | error other =>
                  obtain rfl : other = failure := Except.error.inj ran
                  exact ⟨rfl, database, rfl, rfl⟩
              | ok committed => cases ran
          | ok committed =>
              cases again with
              | error other => cases ran
              | ok stored =>
                  obtain ⟨results, tables⟩ := Prod.mk.inj (Except.ok.inj ran)
                  exact ⟨congrArg some results, tables, rfl, rfl⟩

/-- Twins are answered the same in worlds that resemble each other. -/
theorem interpret_reworded {operation twin : Operation} {answer : operation.Answer → twin.Answer}
    (twins : Rewording postgres operation twin answer) (resembles : exchange.Resembles image) :
    (interpret postgres environment twin image).1 =
        answer (interpret postgres environment operation exchange).1 ∧
      (interpret postgres environment operation exchange).2.Resembles
        (interpret postgres environment twin image).2 := by
  obtain ⟨worlds, statements, attempts⟩ := resembles
  have asked {statement reworded : Statement} (alike : statement.Reworded postgres reworded) :
      (interpret postgres environment (.pqExecParams reworded) image).1 =
          (interpret postgres environment (.pqExecParams statement) exchange).1 ∧
        (interpret postgres environment (.pqExecParams statement) exchange).2.Resembles
          (interpret postgres environment (.pqExecParams reworded) image).2 := by
    simp only [interpret, statements]
    obtain ⟨results, later⟩ := worlds.pqExecParams alike
    exact ⟨results, later, rfl, attempts⟩
  cases twins with
  | statement alike => exact asked alike
  | same =>
      cases operation with
      | allocate purpose => exact ⟨rfl, worlds, statements, attempts⟩
      | realloc buffer size => exact ⟨rfl, worlds, statements, attempts⟩
      | pqStatus => exact ⟨worlds.connection, worlds, statements, attempts⟩
      | pqExecParams statement => exact asked (.same statement)
      | mhdQueueResponse response =>
          exact ⟨rfl, worlds, statements, congrArg (· ++ _) attempts⟩

end Interpret

section Handlers

variable {postgres : Postgres} {jsonC : JsonC} {json other : Json} {request : Request}
  {context : PortalHttpContext} {α : Type}

theorem Reworded.refl (program : Handler α) : Reworded postgres program program :=
  Program.Mirrors.refl (fun operation => .same operation) program

theorem Reworded.ite (condition : Prop) [Decidable condition] {first second third fourth : Handler α}
    (accepted : Reworded postgres first third) (refused : Reworded postgres second fourth) :
    Reworded postgres (if condition then first else second)
      (if condition then third else fourth) := by
  split
  · exact accepted
  · exact refused

/-- A statement in other words is sent for the same part of a request. -/
theorem Statement.Reworded.sender {statement reworded : Statement}
    (alike : statement.Reworded postgres reworded) : reworded.sender = statement.sender := by
  cases alike <;> rfl

theorem portalDatabaseQuery_reworded {statement reworded : Statement}
    {next tail : Option PgResult → Handler α} (alike : statement.Reworded postgres reworded)
    (rest : ∀ result, Reworded postgres (next result) (tail result)) :
    Reworded postgres (portalDatabaseQuery statement >>= next)
      (portalDatabaseQuery reworded >>= tail) := by
  refine Program.Mirrors.bind ?_ rest
  rw [portalDatabaseQuery, portalDatabaseQuery, alike.sender]
  refine Program.Mirrors.perform (.same _) fun granted => ?_
  cases granted with
  | false => exact Reworded.refl _
  | true => exact Program.Mirrors.call (.statement alike) fun result => .done result

namespace Json.Reworded

variable (reworded : json.Reworded postgres jsonC other)
include reworded

theorem text {key : Bytes} (unwritten : key ∉ writtenMembers) :
    jsonText (some other) key = jsonText (some json) key := by
  simp only [jsonText, reworded.others key unwritten]

theorem string {key : Bytes} (unwritten : key ∉ writtenMembers) (minimum maximum : Nat) :
    portalHttpJsonString (some other) key minimum maximum =
      portalHttpJsonString (some json) key minimum maximum := by
  simp only [portalHttpJsonString, reworded.text unwritten]

theorem optionalString {key : Bytes} (unwritten : key ∉ writtenMembers) (maximum : Nat) :
    portalHttpJsonOptionalString (some other) key maximum =
      portalHttpJsonOptionalString (some json) key maximum := by
  simp only [portalHttpJsonOptionalString, reworded.text unwritten]

end Json.Reworded

/-- A text of so many bytes has no more characters, and at least one. -/
theorem Storable.of_read {key text : Bytes} {maximum : Nat}
    (read : portalHttpJsonString (some json) key 1 maximum = some text)
    (encoded : validUtf8 text = true) : Storable 1 maximum text := by
  obtain ⟨_, atLeast, atMost⟩ := portalHttpJsonString_eq_some.mp read
  have present : text ≠ [] := List.ne_nil_of_length_pos atLeast
  exact ⟨encoded, charLength_pos encoded present, le_trans (charLength_le_length text) atMost⟩

section Routes

variable (reworded : json.Reworded postgres jsonC other)
include reworded

theorem portalHttpRouteRegister_reworded :
    Reworded postgres (portalHttpRouteRegister context (some json))
      (portalHttpRouteRegister context (some other)) := by
  have names := reworded.displayName
  simp only [portalHttpRouteRegister, reworded.string (show bytes "email" ∉ writtenMembers by decide),
    reworded.string (show bytes "password" ∉ writtenMembers by decide)]
  cases portalHttpJsonString (some json) (bytes "email") 5 254 with
  | none => exact Reworded.refl _
  | some email =>
  cases portalHttpJsonString (some json) (bytes "password") 12 256 with
  | none => exact Reworded.refl _
  | some password =>
  generalize first : portalHttpJsonString (some json) (bytes "display_name") 1 100 = name at *
  generalize second : portalHttpJsonString (some other) (bytes "display_name") 1 100 = rename at *
  cases names with
  | absent => exact Reworded.refl _
  | given encoded again =>
      refine Reworded.ite _ (Reworded.refl _) ?_
      cases portalValidationLowercaseCopy 255 (some email) with
      | none => exact Reworded.refl _
      | some normalizedEmail =>
          refine Reworded.ite _ (Reworded.refl _) ?_
          exact portalDatabaseQuery_reworded
            (.register (.of_read first encoded) (.of_read second again)) fun _ => Reworded.refl _

theorem activityLoadActor_reworded :
    activityLoadActor request (some other) = activityLoadActor request (some json) := by
  simp only [activityLoadActor,
    reworded.optionalString (show bytes "anonymous_id" ∉ writtenMembers by decide)]

theorem portalHttpRouteActivity_reworded :
    Reworded postgres (portalHttpRouteActivity jsonC request (some json))
      (portalHttpRouteActivity jsonC request (some other)) := by
  have attached := reworded.eventData
  have first := reworded.annotated
  have second := reworded.reannotated
  simp only [portalHttpRouteActivity, activityLoadActor_reworded reworded,
    reworded.string (show bytes "portal_key" ∉ writtenMembers by decide),
    reworded.string (show bytes "event_type" ∉ writtenMembers by decide),
    reworded.optionalString (show bytes "content_id" ∉ writtenMembers by decide)]
  refine Reworded.ite _ (Reworded.refl _) ?_
  refine Program.Mirrors.bind (Reworded.refl _) fun loaded => ?_
  refine Reworded.ite _ (Reworded.refl _) ?_
  generalize activityEventData jsonC (some json) = data at *
  generalize activityEventData jsonC (some other) = redata at *
  cases attached with
  | absent => exact Reworded.refl _
  | given encoded again stored kept =>
      refine portalDatabaseQuery_reworded (.activityInsert ?_ stored kept) fun _ => Reworded.refl _
      simp [first.componentId, first.pageUrl, second.componentId, second.pageUrl, encoded, again]

theorem portalHttpRouteLike_reworded (contentId : Bytes) :
    portalHttpRouteLike request contentId (some other) =
      portalHttpRouteLike request contentId (some json) := by
  simp only [portalHttpRouteLike, activityLoadActor_reworded reworded,
    reworded.string (show bytes "portal_key" ∉ writtenMembers by decide)]

theorem portalHttpRouteComment_reworded (contentId : Bytes) :
    Reworded postgres (portalHttpRouteComment request contentId (some json))
      (portalHttpRouteComment request contentId (some other)) := by
  have bodies := reworded.body
  have first := reworded.annotated.authorName
  have second := reworded.reannotated.authorName
  simp only [portalHttpRouteComment, activityLoadActor_reworded reworded,
    reworded.string (show bytes "portal_key" ∉ writtenMembers by decide)]
  generalize read : portalHttpJsonString (some json) (bytes "body") 1 5000 = body at *
  generalize reread : portalHttpJsonString (some other) (bytes "body") 1 5000 = rebody at *
  cases bodies with
  | absent => simpa using Reworded.refl _
  | given encoded again =>
      refine Reworded.ite _ (Reworded.refl _) ?_
      refine Program.Mirrors.bind (Reworded.refl _) fun loaded => ?_
      refine Reworded.ite _ (Reworded.refl _) ?_
      exact portalDatabaseQuery_reworded
        (.commentInsert first second (.of_read read encoded) (.of_read reread again))
        fun _ => Reworded.refl _

theorem Endpoint.handler_reworded (endpoint : Endpoint) :
    Reworded postgres (endpoint.handler context jsonC request (some json))
      (endpoint.handler context jsonC request (some other)) := by
  cases endpoint with
  | register => exact portalHttpRouteRegister_reworded reworded
  | activity => exact portalHttpRouteActivity_reworded reworded
  | comment contentId => exact portalHttpRouteComment_reworded reworded contentId
  | like contentId =>
      simp only [handler, portalHttpRouteLike_reworded reworded]
      exact Reworded.refl _
  | confirm =>
      simp only [handler, portalHttpRouteConfirm,
        reworded.string (show bytes "token" ∉ writtenMembers by decide)]
      exact Reworded.refl _
  | login =>
      simp only [handler, portalHttpRouteLogin,
        reworded.string (show bytes "email" ∉ writtenMembers by decide),
        reworded.string (show bytes "password" ∉ writtenMembers by decide)]
      exact Reworded.refl _
  | _ => exact Reworded.refl _

end Routes

end Handlers

end PortalApi
