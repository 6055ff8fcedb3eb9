import PortalApi.Text

/-! The pure validators of the `validation` module. A `none` argument is NULL. -/

set_option autoImplicit false

namespace PortalApi

def isKeyCharacter (character : UInt8) : Bool :=
  isAlnum character || character = 45 || character = 95 || character = 46 || character = 58

def portalValidationKey (value : Option Bytes) (maximumLength : Nat) : Bool :=
  match value with
  | none => false
  | some value =>
    if value.length = 0 || value.length > maximumLength then false
    else value.all isKeyCharacter

def isAnonymousIdCharacter (character : UInt8) : Bool :=
  isAlnum character || character = 45 || character = 95

def portalValidationAnonymousId (value : Option Bytes) : Bool :=
  match value with
  | none => false
  | some value =>
    if value.length < 8 || value.length > 200 then false
    else value.all isAnonymousIdCharacter

def portalValidationEmail (email : Option Bytes) : Bool :=
  match email with
  | none => false
  | some email =>
    if email.length < 5 || email.length > 254 || (strchr 32 email).isSome then false
    else
      match strchr 64 email with
      | none => false
      | some found => found != email && found.tail != [] && (strchr 46 found.tail).isSome

def portalValidationEventType (eventType : Option Bytes) : Bool :=
  match eventType with
  | none => false
  | some eventType =>
    eventType = bytes "page_view" || eventType = bytes "content_view" ||
      eventType = bytes "component_click" || eventType = bytes "like" ||
      eventType = bytes "comment"

/-- The target's text when the copy succeeds. -/
def portalValidationLowercaseCopy (targetSize : Nat) (source : Option Bytes) : Option Bytes :=
  match source with
  | none => none
  | some source => if targetSize ≤ source.length then none else some (source.map toLower)

/-! The accepted texts, as the routes and the schema use them. -/

theorem portalValidationKey_iff {value : Option Bytes} {maximumLength : Nat} :
    portalValidationKey value maximumLength = true ↔
      ∃ text, value = some text ∧ 0 < text.length ∧ text.length ≤ maximumLength ∧
        ∀ character ∈ text, isKeyCharacter character = true := by
  cases value with
  | none => simp [portalValidationKey]
  | some text =>
      simp only [portalValidationKey, Option.some.injEq, exists_eq_left']
      split
      · next outside =>
          simp only [Bool.or_eq_true, decide_eq_true_eq] at outside
          simp only [Bool.false_eq_true, false_iff]
          rintro ⟨positive, bounded, -⟩
          omega
      · next inside =>
          simp only [Bool.or_eq_true, decide_eq_true_eq] at inside
          simp only [List.all_eq_true]
          exact ⟨fun accepted => ⟨by omega, by omega, accepted⟩, fun ⟨_, _, accepted⟩ => accepted⟩

theorem portalValidationAnonymousId_iff {value : Option Bytes} :
    portalValidationAnonymousId value = true ↔
      ∃ text, value = some text ∧ 8 ≤ text.length ∧ text.length ≤ 200 ∧
        ∀ character ∈ text, isAnonymousIdCharacter character = true := by
  cases value with
  | none => simp [portalValidationAnonymousId]
  | some text =>
      simp only [portalValidationAnonymousId, Option.some.injEq, exists_eq_left']
      split
      · next outside =>
          simp only [Bool.or_eq_true, decide_eq_true_eq] at outside
          simp only [Bool.false_eq_true, false_iff]
          rintro ⟨atLeast, atMost, -⟩
          omega
      · next inside =>
          simp only [Bool.or_eq_true, decide_eq_true_eq] at inside
          simp only [List.all_eq_true]
          exact ⟨fun accepted => ⟨by omega, by omega, accepted⟩, fun ⟨_, _, accepted⟩ => accepted⟩

theorem isAlnum_ascii {character : UInt8} (accepted : isAlnum character = true) :
    character < 128 := by
  simp only [isAlnum, isDigit, isUpper, isLower, Bool.or_eq_true, Bool.and_eq_true,
    decide_eq_true_eq] at accepted
  grind

theorem isKeyCharacter_ascii {character : UInt8} (accepted : isKeyCharacter character = true) :
    character < 128 := by
  simp only [isKeyCharacter, Bool.or_eq_true, decide_eq_true_eq] at accepted
  rcases accepted with (((alnum | rfl) | rfl) | rfl) | rfl
  · exact isAlnum_ascii alnum
  all_goals decide

theorem isAnonymousIdCharacter_ascii {character : UInt8}
    (accepted : isAnonymousIdCharacter character = true) : character < 128 := by
  simp only [isAnonymousIdCharacter, Bool.or_eq_true, decide_eq_true_eq] at accepted
  rcases accepted with (alnum | rfl) | rfl
  · exact isAlnum_ascii alnum
  all_goals decide

theorem portalValidationEmail_length {email : Option Bytes}
    (accepted : portalValidationEmail email = true) :
    ∃ text, email = some text ∧ 5 ≤ text.length ∧ text.length ≤ 254 := by
  cases email with
  | none => simp [portalValidationEmail] at accepted
  | some text =>
      refine ⟨text, rfl, ?_⟩
      simp only [portalValidationEmail] at accepted
      split at accepted
      · cases accepted
      · next inside =>
          simp only [Bool.or_eq_true, decide_eq_true_eq, not_or] at inside
          omega

/-- A validated email always fits the 255-byte buffer of the routes. -/
theorem portalValidationLowercaseCopy_validated {text : Bytes}
    (accepted : portalValidationEmail (some text) = true) :
    portalValidationLowercaseCopy 255 (some text) = some (text.map toLower) := by
  obtain ⟨same, equal, -, bounded⟩ := portalValidationEmail_length accepted
  cases equal
  exact if_neg (by omega)

theorem portalValidationEventType_iff {eventType : Option Bytes} :
    portalValidationEventType eventType = true ↔
      ∃ text, eventType = some text ∧
        text ∈ [bytes "page_view", bytes "content_view", bytes "component_click", bytes "like",
          bytes "comment"] := by
  cases eventType with
  | none => simp [portalValidationEventType]
  | some text => simp [portalValidationEventType, or_assoc]

end PortalApi
