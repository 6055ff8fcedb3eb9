import PortalApi.OptionalColumns

/-! The limits of texts are documented in characters and checked in bytes. -/

set_option autoImplicit false

namespace PortalApi

open Library

/-- Well-formed UTF-8 without a zero character. -/
structure PlainText (text : Bytes) : Prop where
  encoded : validUtf8 text = true
  plain : 0 ∉ text

def CharactersWithin (minimum maximum : Nat) (text : Bytes) : Prop :=
  minimum ≤ charLength text ∧ charLength text ≤ maximum

/-- A comment with this body, of an actor who may act, with everything else accepted. -/
structure CommentsWith (service : Service) (call : Call) (world : World) (text : Bytes) : Prop where
  post : call.request.method = bytes "POST"
  content : ∃ contentId, call.request.OnContent contentId "/comments" ∧
    portalValidationKey (some contentId) 300 = true
  portal : portalKeyField (service.body call) ≠ none
  acts : ∃ actor, MayAct service.postgres call.environment call.request (service.body call) world
    actor
  body : jsonMember (service.body call) (bytes "body") = some (.string text)

/-- A registration of an acceptable address. -/
structure RegistersAddress (service : Service) (call : Call) : Prop where
  post : call.request.At "POST" "/auth/register"
  email : ∃ email, portalHttpJsonString (service.body call) (bytes "email") 5 254 = some email ∧
    portalValidationEmail (some email) = true

/-- A registration under this display name, with everything else accepted. -/
structure RegistersAs (service : Service) (call : Call) (text : Bytes) : Prop
    extends RegistersAddress service call where
  password : portalHttpJsonString (service.body call) (bytes "password") 12 256 ≠ none
  displayName : jsonMember (service.body call) (bytes "display_name") = some (.string text)

/-- A registration with this password, with everything else accepted. -/
structure RegistersWith (service : Service) (call : Call) (text : Bytes) : Prop
    extends RegistersAddress service call where
  displayName : portalHttpJsonString (service.body call) (bytes "display_name") 1 100 ≠ none
  password : jsonMember (service.body call) (bytes "password") = some (.string text)

section Lengths

variable {text : Bytes} {maximum : Nat}

theorem PlainText.charLength_pos_iff (plain : PlainText text) :
    1 ≤ charLength text ↔ 1 ≤ text.length := by
  constructor
  · exact fun positive => Nat.le_trans positive (charLength_le_length text)
  · intro present
    exact charLength_pos plain.encoded (List.length_pos_iff.mp present)

/-- A limit in bytes agrees with the one in characters except between the two. -/
theorem PlainText.inBounds_iff (plain : PlainText text) :
    (InBounds 1 maximum text ↔ CharactersWithin 1 maximum text) ↔
      text.length ≤ maximum ∨ maximum < charLength text := by
  have fewer := charLength_le_length text
  rw [InBounds, CharactersWithin, plain.charLength_pos_iff]
  by_cases present : 1 ≤ text.length
  · simp only [present, true_and]
    omega
  · simp only [present, false_and, iff_self, true_iff]
    omega

end Lengths

section Replies

variable {service : Service} {call : Call} {world after : World} {reply : Option Response}
  {text : Bytes}

theorem registerFields_ne_none {json : Option Json} :
    registerFields json ≠ none ↔
      (∃ email, portalHttpJsonString json (bytes "email") 5 254 = some email ∧
        portalValidationEmail (some email) = true) ∧
      portalHttpJsonString json (bytes "password") 12 256 ≠ none ∧
      portalHttpJsonString json (bytes "display_name") 1 100 ≠ none := by
  unfold registerFields
  cases portalHttpJsonString json (bytes "email") 5 254 with
  | none => simp
  | some email =>
  cases portalHttpJsonString json (bytes "password") 12 256 with
  | none => simp
  | some password =>
  cases portalHttpJsonString json (bytes "display_name") 1 100 with
  | none => simp
  | some displayName => simp

theorem commentFields_ne_none {json : Option Json} {contentId : Bytes} :
    commentFields contentId json ≠ none ↔
      portalValidationKey (some contentId) 300 = true ∧ portalKeyField json ≠ none ∧
      portalHttpJsonString json (bytes "body") 1 5000 ≠ none := by
  unfold commentFields
  cases portalKeyField json with
  | none => simp
  | some portalKey =>
  cases portalHttpJsonString json (bytes "body") 1 5000 with
  | none => simp
  | some body => simp

theorem registerEnds_invalid_iff (smooth : world.Smooth call.environment) {json : Option Json}
    (ends : RegisterEnds service.postgres call.environment service.context json world reply after) :
    statusOf reply = some 400 ↔ registerFields json = none := by
  have healthy := smooth.healthy
  cases ends with
  | invalid missing answered =>
      rw [answered.certain healthy]
      exact iff_of_true rfl missing
  | @failed _ _ result read _ answered =>
      have other : (registerFailure result).status ≠ 400 := by
        unfold registerFailure
        split <;> decide
      rw [answered.certain healthy]
      exact iff_of_false (by simpa using other) (by simp [read])
  | created read _ _ _ _ _ _ _ _ answered =>
      rw [answered.certain healthy]
      exact iff_of_false (by simp [registerResponse]) (by simp [read])

theorem RegistersAddress.invalid_iff (registers : RegistersAddress service call) (lawful : service.postgres.Lawful)
    (valid : world.database.Valid service.postgres.lower) (smooth : world.Smooth call.environment) :
    statusOf (service.serve call world).1 = some 400 ↔
      registerFields (service.body call) = none := by
  have listed : ("/auth/register", Endpoint.register) ∈ postEndpoints := by simp [postEndpoints]
  cases body : service.body call with
  | none =>
      obtain ⟨email, read, _⟩ := registers.email
      rw [body] at read
      cases read
  | some json =>
      have ends := Service.serve_post lawful valid registers.post listed body
      rw [body] at ends
      exact registerEnds_invalid_iff smooth ends

theorem CommentsWith.accepted_iff (comments : CommentsWith service call world text)
    (lawful : service.postgres.Lawful) (valid : world.database.Valid service.postgres.lower)
    (smooth : world.Smooth call.environment) (plain : 0 ∉ text) :
    statusOf (service.serve call world).1 ≠ some 400 ↔ InBounds 1 5000 text := by
  obtain ⟨contentId, content, key⟩ := comments.content
  obtain ⟨actor, may⟩ := comments.acts
  rw [← portalHttpJsonString_plain comments.body plain, ne_eq,
    Service.serve_comment_invalid_iff lawful valid smooth comments.post content]
  constructor
  · intro accepted
    have read : commentFields contentId (service.body call) ≠ none :=
      fun missing => accepted (.required missing)
    exact (commentFields_ne_none.mp read).2.2
  · intro read invalid
    cases invalid with
    | required missing =>
        exact commentFields_ne_none.mpr ⟨key, comments.portal, read⟩ missing
    | unnamed unnamed => exact may.not_unnamed unnamed

theorem RegistersAs.accepted_iff (registers : RegistersAs service call text)
    (lawful : service.postgres.Lawful) (valid : world.database.Valid service.postgres.lower)
    (smooth : world.Smooth call.environment) (plain : 0 ∉ text) :
    statusOf (service.serve call world).1 ≠ some 400 ↔ InBounds 1 100 text := by
  rw [← portalHttpJsonString_plain registers.displayName plain, ne_eq,
    registers.toRegistersAddress.invalid_iff lawful valid smooth, ← ne_eq, registerFields_ne_none]
  exact ⟨fun accepted => accepted.2.2, fun read => ⟨registers.email, registers.password, read⟩⟩

theorem RegistersWith.accepted_iff (registers : RegistersWith service call text)
    (lawful : service.postgres.Lawful) (valid : world.database.Valid service.postgres.lower)
    (smooth : world.Smooth call.environment) (plain : 0 ∉ text) :
    statusOf (service.serve call world).1 ≠ some 400 ↔ InBounds 12 256 text := by
  rw [← portalHttpJsonString_plain registers.password plain, ne_eq,
    registers.toRegistersAddress.invalid_iff lawful valid smooth, ← ne_eq, registerFields_ne_none]
  exact ⟨fun accepted => accepted.2.1, fun read => ⟨registers.email, read, registers.displayName⟩⟩

end Replies

/-- When each of the three limits in bytes does what the one in characters says. -/
theorem character_limits_iff {service : Service} (lawful : service.postgres.Lawful)
    {admits : Environment → Prop} {entries : List Service.Entry} {world : World}
    (run : service.Run admits entries world) {call : Call} (smooth : world.Smooth call.environment)
    {text : Bytes} (plain : PlainText text) :
    (CommentsWith service call world text →
      ((statusOf (service.serve call world).1 ≠ some 400 ↔ CharactersWithin 1 5000 text) ↔
        text.length ≤ 5000 ∨ 5000 < charLength text)) ∧
    (RegistersAs service call text →
      ((statusOf (service.serve call world).1 ≠ some 400 ↔ CharactersWithin 1 100 text) ↔
        text.length ≤ 100 ∨ 100 < charLength text)) ∧
    (RegistersWith service call text →
      ((charLength text < 12 → statusOf (service.serve call world).1 = some 400) ↔
        12 ≤ charLength text ∨ text.length < 12 ∨ 256 < text.length)) := by
  have valid := Service.Run.valid run
  refine ⟨fun comments => ?_, fun registers => ?_, fun registers => ?_⟩
  · rw [comments.accepted_iff lawful valid smooth plain.plain]
    exact plain.inBounds_iff
  · rw [registers.accepted_iff lawful valid smooth plain.plain]
    exact plain.inBounds_iff
  · have accepted := registers.accepted_iff lawful valid smooth plain.plain
    have refused : statusOf (service.serve call world).1 = some 400 ↔ ¬ InBounds 12 256 text := by
      rw [← accepted, not_not]
    rw [refused, InBounds]
    omega

namespace Reference

/-- A text of this many letters with an accent, of two bytes each. -/
def acutes (count : Nat) : Bytes := (List.replicate count [0xC3, 0xA9]).flatten

def registering (password displayName : Bytes) : Members :=
  [("email", bytes "ana@example.com"), ("password", password), ("display_name", displayName)]

def shortPassword : Members := registering (acutes 6) (bytes "Ana")

def longName : Members := registering (bytes "correct-horse") (acutes 51)

def accentedRemark : Members :=
  [("portal_key", bytes "news"), ("anonymous_id", bytes "visitor-1"), ("body", acutes 3)]

def limiting : Service := service (bodies [shortPassword, longName, accentedRemark])

def register (members : Members) : Call := post "/auth/register" members 1 0

def commentCall : Call := post "/content/a1/comments" accentedRemark 1 0

theorem registers_shortPassword :
    RegistersWith limiting (register shortPassword) (acutes 6) where
  post := ⟨rfl, rfl⟩
  email := ⟨bytes "ana@example.com", by decide +kernel, by decide +kernel⟩
  displayName := by decide +kernel
  password := rfl

set_option maxRecDepth 2000 in
theorem registers_longName : RegistersAs limiting (register longName) (acutes 51) where
  post := ⟨rfl, rfl⟩
  email := ⟨bytes "ana@example.com", by decide +kernel, by decide +kernel⟩
  password := by decide +kernel
  displayName := rfl

theorem comments_accented : CommentsWith limiting commentCall start (acutes 3) where
  post := rfl
  content := ⟨bytes "a1", ⟨by decide, by decide⟩, by decide⟩
  portal := by decide +kernel
  acts := ⟨.anonymous ⟨bytes "visitor-1", by decide⟩, .anonymous rfl (by decide +kernel)⟩
  body := rfl

end Reference

open Reference in
theorem character_limits_iff_accented :
    ((statusOf (limiting.serve commentCall start).1 ≠ some 400 ↔
        CharactersWithin 1 5000 (acutes 3)) ↔
      (acutes 3).length ≤ 5000 ∨ 5000 < charLength (acutes 3)) ∧
    ((statusOf (limiting.serve (register longName) start).1 ≠ some 400 ↔
        CharactersWithin 1 100 (acutes 51)) ↔
      (acutes 51).length ≤ 100 ∨ 100 < charLength (acutes 51)) ∧
    ((charLength (acutes 6) < 12 →
        statusOf (limiting.serve (register shortPassword) start).1 = some 400) ↔
      12 ≤ charLength (acutes 6) ∨ (acutes 6).length < 12 ∨ 256 < (acutes 6).length) := by
  have begins : limiting.Run Environment.Healthy [] start := .start ⟨rfl, rfl⟩
  have smooth : ∀ {members : Members} {url : String}, start.Smooth (post url members 1 0).environment :=
    ⟨environment_healthy 1 0, rfl⟩
  exact ⟨(character_limits_iff lawful begins smooth ⟨by decide, by decide⟩).1 comments_accented,
    (character_limits_iff lawful begins smooth ⟨by decide, by decide⟩).2.1 registers_longName,
    (character_limits_iff lawful begins smooth ⟨by decide, by decide⟩).2.2 registers_shortPassword⟩

open Reference in
/-- A password of six characters is accepted, and a name of 51 is not. -/
theorem character_limits_differ :
    (PlainText (acutes 6) ∧ RegistersWith limiting (register shortPassword) (acutes 6) ∧
      ¬ (charLength (acutes 6) < 12 →
        statusOf (limiting.serve (register shortPassword) start).1 = some 400)) ∧
    (PlainText (acutes 51) ∧ RegistersAs limiting (register longName) (acutes 51) ∧
      ¬ (statusOf (limiting.serve (register longName) start).1 ≠ some 400 ↔
        CharactersWithin 1 100 (acutes 51))) := by
  have accepted : ¬ (charLength (acutes 6) < 12 →
      statusOf (limiting.serve (register shortPassword) start).1 = some 400) := by
    decide +kernel
  have refused : ¬ (statusOf (limiting.serve (register longName) start).1 ≠ some 400 ↔
      CharactersWithin 1 100 (acutes 51)) := by
    unfold CharactersWithin
    decide +kernel
  exact ⟨⟨⟨by decide, by decide⟩, registers_shortPassword, accepted⟩,
    ⟨by decide, by decide⟩, registers_longName, refused⟩

end PortalApi
