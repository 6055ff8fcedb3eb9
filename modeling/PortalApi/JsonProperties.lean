import Mathlib.Data.List.TakeWhile
import PortalApi.Json

/-! What the accessors of `request.c` return of a JSON string: the part before its
first zero byte, which is the whole value when it has none. -/

set_option autoImplicit false

namespace PortalApi

/-- The full length of a string lies within the bounds. -/
def InBounds (minimum maximum : Nat) (text : Bytes) : Prop :=
  minimum ≤ text.length ∧ text.length ≤ maximum

/-- A reading of a member that respects the whole value: something is read exactly
of a string within the bounds, and it is that string. -/
structure ReadsWhole (member : Option Json) (minimum maximum : Nat) (read : Option Bytes) :
    Prop where
  accepted_iff : read ≠ none ↔
    ∃ content, member = some (.string content) ∧ InBounds minimum maximum content
  whole : ∀ text, read = some text → member = some (.string text)

/-- A string with a zero byte is out of bounds, and so is what stands before it. -/
def WholeReadable (member : Option Json) (minimum maximum : Nat) : Prop :=
  ∀ content, member = some (.string content) → 0 ∈ content →
    ¬ InBounds minimum maximum content ∧ ¬ InBounds minimum maximum (cString content)

theorem cString_eq_self {text : Bytes} : cString text = text ↔ 0 ∉ text := by
  rw [cString, List.takeWhile_eq_self_iff]
  constructor
  · intro all zero
    simpa using all 0 zero
  · intro plain character member
    simp only [decide_eq_true_eq]
    intro zero
    subst zero
    exact plain member

section Accessors

variable {json other : Option Json} {key : Bytes} {minimum maximum : Nat}

theorem jsonText_eq_some {text : Bytes} :
    jsonText json key = some text ↔
      ∃ content, jsonMember json key = some (.string content) ∧ cString content = text := by
  unfold jsonText jsonMember
  cases json with
  | none => simp
  | some json =>
      cases found : json.objectGetEx key with
      | none => simp [found]
      | some value => cases value <;> simp [found]

/-- An optional string is a string without a minimum. -/
theorem portalHttpJsonOptionalString_eq :
    portalHttpJsonOptionalString json key maximum = portalHttpJsonString json key 0 maximum := by
  unfold portalHttpJsonOptionalString portalHttpJsonString
  cases jsonText json key with
  | none => rfl
  | some text => simp

theorem portalHttpJsonString_content {text : Bytes} :
    portalHttpJsonString json key minimum maximum = some text ↔
      ∃ content, jsonMember json key = some (.string content) ∧ cString content = text ∧
        InBounds minimum maximum text := by
  rw [portalHttpJsonString_eq_some, jsonText_eq_some]
  constructor
  · intro read
    obtain ⟨⟨content, member, same⟩, bounds⟩ := read
    exact ⟨content, member, same, bounds⟩
  · intro found
    obtain ⟨content, member, same, bounds⟩ := found
    exact ⟨⟨content, member, same⟩, bounds⟩

theorem portalHttpJsonString_plain {text : Bytes}
    (member : jsonMember json key = some (.string text)) (plain : 0 ∉ text) :
    portalHttpJsonString json key minimum maximum ≠ none ↔ InBounds minimum maximum text := by
  have same := cString_eq_self.mpr plain
  rw [Option.ne_none_iff_exists']
  constructor
  · intro accepted
    obtain ⟨read, found⟩ := accepted
    obtain ⟨content, also, rfl, bounds⟩ := portalHttpJsonString_content.mp found
    obtain rfl := Json.string.inj (Option.some.inj (member.symm.trans also))
    rwa [same] at bounds
  · intro bounds
    exact ⟨text, portalHttpJsonString_content.mpr ⟨text, member, same, bounds⟩⟩

theorem readsWhole_of_readable
    (readable : WholeReadable (jsonMember json key) minimum maximum) :
    ReadsWhole (jsonMember json key) minimum maximum
      (portalHttpJsonString json key minimum maximum) := by
  have whole : ∀ text, portalHttpJsonString json key minimum maximum = some text →
      jsonMember json key = some (.string text) := by
    intro text read
    obtain ⟨content, member, rfl, bounds⟩ := portalHttpJsonString_content.mp read
    by_cases zero : 0 ∈ content
    · exact absurd bounds (readable content member zero).2
    · rw [member, cString_eq_self.mpr zero]
  refine ⟨?_, whole⟩
  rw [Option.ne_none_iff_exists']
  constructor
  · intro accepted
    obtain ⟨text, read⟩ := accepted
    obtain ⟨_, _, _, bounds⟩ := portalHttpJsonString_content.mp read
    exact ⟨text, whole text read, bounds⟩
  · intro bounded
    obtain ⟨content, member, bounds⟩ := bounded
    have plain : 0 ∉ content := fun zero => (readable content member zero).1 bounds
    have same := cString_eq_self.mpr plain
    exact ⟨content, portalHttpJsonString_content.mpr ⟨content, member, same, bounds⟩⟩

theorem readable_of_readsWhole
    (reads : ReadsWhole (jsonMember json key) minimum maximum
      (portalHttpJsonString json key minimum maximum)) :
    WholeReadable (jsonMember json key) minimum maximum := by
  intro content member zero
  have outside : ¬ InBounds minimum maximum (cString content) := by
    intro bounds
    have read := portalHttpJsonString_content.mpr ⟨content, member, rfl, bounds⟩
    have same := reads.whole _ read
    rw [member] at same
    exact cString_eq_self.mp (Json.string.inj (Option.some.inj same)).symm zero
  refine ⟨fun bounds => ?_, outside⟩
  obtain ⟨text, read⟩ := Option.ne_none_iff_exists'.mp
    (reads.accepted_iff.mpr ⟨content, member, bounds⟩)
  obtain ⟨found, same, rfl, within⟩ := portalHttpJsonString_content.mp read
  rw [member] at same
  obtain rfl := Json.string.inj (Option.some.inj same)
  exact outside within

end Accessors

/-- The accessors respect the whole value exactly of the members without a zero
byte, and of those that they refuse in any case; of such members no two that
differ are read alike. -/
theorem json_strings_whole_iff (json : Option Json) (key : Bytes) (minimum maximum : Nat) :
    (ReadsWhole (jsonMember json key) minimum maximum
        (portalHttpJsonString json key minimum maximum) ↔
      WholeReadable (jsonMember json key) minimum maximum) ∧
    (ReadsWhole (jsonMember json key) 0 maximum (portalHttpJsonOptionalString json key maximum) ↔
      WholeReadable (jsonMember json key) 0 maximum) ∧
    ∀ other text, WholeReadable (jsonMember json key) minimum maximum →
      WholeReadable (jsonMember other key) minimum maximum →
      portalHttpJsonString json key minimum maximum = some text →
      portalHttpJsonString other key minimum maximum = some text →
        jsonMember json key = jsonMember other key := by
  rw [portalHttpJsonOptionalString_eq]
  refine ⟨⟨readable_of_readsWhole, readsWhole_of_readable⟩,
    ⟨readable_of_readsWhole, readsWhole_of_readable⟩, ?_⟩
  intro other text readable also read same
  have first := (readsWhole_of_readable readable).whole text read
  have second := (readsWhole_of_readable also).whole text same
  exact first.trans second.symm

/-- A token and the same token with a zero byte behind it are read alike. -/
theorem json_strings_confused :
    let token := bytes "00000000-0000-4000-8000-000000000001"
    let plain := Json.object [(bytes "token", .string token)]
    let longer := Json.object [(bytes "token", .string (token ++ [0, 97]))]
    portalHttpJsonString (some plain) (bytes "token") 36 36 = some token ∧
      portalHttpJsonString (some longer) (bytes "token") 36 36 = some token ∧
      portalHttpJsonOptionalString (some longer) (bytes "token") 36 = some token ∧
      ¬ ReadsWhole (jsonMember (some longer) (bytes "token")) 36 36
        (portalHttpJsonString (some longer) (bytes "token") 36 36) := by
  intro token plain longer
  refine ⟨rfl, rfl, rfl, fun reads => ?_⟩
  have same := Json.string.inj (Option.some.inj (reads.whole token rfl))
  exact absurd same (by decide)

end PortalApi
