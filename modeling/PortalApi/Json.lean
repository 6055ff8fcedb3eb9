import PortalApi.Text

/-! JSON values as json-c holds them, and the accessors of `request.c`. -/

set_option autoImplicit false

namespace PortalApi

/-- A string keeps its full decoded content, which may include zero bytes. -/
inductive Json where
  | null
  | boolean (value : Bool)
  | int (value : Int)
  | double (text : Bytes)
  | string (content : Bytes)
  | array (items : List Json)
  | object (members : List (Bytes × Json))

inductive JsonTokenerError where
  | tokenerSuccess
  | tokenerContinue
  | tokenerError
  deriving DecidableEq

/-- What the tokener reports after one `json_tokener_parse_ex`. -/
structure TokenerResult where
  json : Option Json
  error : JsonTokenerError
  parseEnd : Nat

/-- The parts of json-c the service calls: its default tokener and its plain printer. -/
structure JsonC where
  parseEx : Bytes → TokenerResult
  toJsonString : Json → Bytes

def Json.isString : Json → Bool
  | .string _ => true
  | _ => false

def Json.isObject : Json → Bool
  | .object _ => true
  | _ => false

/-- `json_object_object_get_ex`. -/
def Json.objectGetEx (json : Json) (key : Bytes) : Option Json :=
  match json with
  | .object members => (members.find? fun entry => entry.1 = key).map (·.2)
  | _ => none

/-- The member of the request object, when there is an object and it has it. -/
def jsonMember (json : Option Json) (key : Bytes) : Option Json :=
  json.bind fun json => json.objectGetEx key

/-- The field's text behind `json_object_get_string`, when it is a JSON string. -/
def jsonText (json : Option Json) (key : Bytes) : Option Bytes :=
  match json with
  | none => none
  | some json =>
    match json.objectGetEx key with
    | some (.string content) => some (cString content)
    | _ => none

def portalHttpJsonString (json : Option Json) (key : Bytes) (minimumLength maximumLength : Nat) :
    Option Bytes :=
  match jsonText json key with
  | none => none
  | some text =>
    if text.length ≥ minimumLength && text.length ≤ maximumLength then some text else none

def portalHttpJsonOptionalString (json : Option Json) (key : Bytes) (maximumLength : Nat) :
    Option Bytes :=
  match jsonText json key with
  | none => none
  | some text => if text.length ≤ maximumLength then some text else none

@[simp] theorem portalHttpJsonString_none (key : Bytes) (minimumLength maximumLength : Nat) :
    portalHttpJsonString none key minimumLength maximumLength = none := rfl

theorem portalHttpJsonString_eq_some {json : Option Json} {key text : Bytes} {minimum maximum : Nat} :
    portalHttpJsonString json key minimum maximum = some text ↔
      jsonText json key = some text ∧ minimum ≤ text.length ∧ text.length ≤ maximum := by
  unfold portalHttpJsonString
  cases found : jsonText json key with
  | none => simp
  | some content =>
      by_cases within : minimum ≤ content.length ∧ content.length ≤ maximum
      · simp only [ge_iff_le, within, decide_true, Bool.and_self, ↓reduceIte, Option.some.injEq]
        exact ⟨fun same => ⟨same, same ▸ within⟩, fun ⟨same, _⟩ => same⟩
      · rw [not_and_or] at within
        simp only [ge_iff_le, Bool.and_eq_true, decide_eq_true_eq, Option.some.injEq]
        rw [if_neg (by omega)]
        simp only [reduceCtorEq, false_iff]
        rintro ⟨rfl, bounds⟩
        omega

end PortalApi
