import Mathlib.Data.List.TakeWhile
import PortalApi.Text

/-! The decimal numerals of the C library, and that `strtol` reads exactly these
to the end. -/

set_option autoImplicit false

namespace PortalApi

/-- The optional sign of a numeral. -/
inductive Sign : Bool → Bytes → Prop where
  | none : Sign false []
  | plus : Sign false [43]
  | minus : Sign true [45]

/-- A whole text that is a numeral: white space, a sign and decimal digits. -/
inductive Numeral : Bytes → Bool → Nat → Prop where
  | written {blanks sign digits : Bytes} {negative : Bool} :
      (∀ character ∈ blanks, isSpace character = true) → Sign negative sign → digits ≠ [] →
      (∀ character ∈ digits, isDigit character = true) →
      Numeral (blanks ++ sign ++ digits) negative (digitsValue digits)

def signedValue (negative : Bool) (magnitude : Nat) : Int :=
  if negative then -magnitude else magnitude

/-- The text is a numeral of this integer. -/
def Denotes (text : Bytes) (number : Int) : Prop :=
  ∃ negative magnitude, Numeral text negative magnitude ∧ number = signedValue negative magnitude

/-- Whether a minus sign comes first, and what follows the sign. -/
def splitSign : Bytes → Bool × Bytes
  | 45 :: unsigned => (true, unsigned)
  | 43 :: unsigned => (false, unsigned)
  | unsigned => (false, unsigned)

theorem isSpace_of_isDigit {character : UInt8} (digit : isDigit character = true) :
    isSpace character = false := by
  simp only [isDigit, Bool.and_eq_true, decide_eq_true_eq] at digit
  simp only [isSpace, Bool.or_eq_false_iff, decide_eq_false_iff_not, Bool.and_eq_false_iff]
  grind

theorem splitSign_digits {digits : Bytes} (plain : ∀ character ∈ digits, isDigit character = true) :
    splitSign digits = (false, digits) := by
  unfold splitSign
  split
  · have digit := plain 45 List.mem_cons_self
    simp [isDigit] at digit
  · have digit := plain 43 List.mem_cons_self
    simp [isDigit] at digit
  · rfl

theorem Sign.splitSign {negative : Bool} {sign digits : Bytes} (signed : Sign negative sign)
    (plain : ∀ character ∈ digits, isDigit character = true) :
    PortalApi.splitSign (sign ++ digits) = (negative, digits) := by
  cases signed with
  | none => exact splitSign_digits plain
  | plus => rfl
  | minus => rfl

theorem Sign.dropWhile {negative : Bool} {sign digits : Bytes} (signed : Sign negative sign)
    (present : digits ≠ []) (plain : ∀ character ∈ digits, isDigit character = true) :
    (sign ++ digits).dropWhile isSpace = sign ++ digits := by
  cases signed with
  | none =>
      obtain ⟨head, tail, rfl⟩ := List.exists_cons_of_ne_nil present
      have visible := isSpace_of_isDigit (plain head List.mem_cons_self)
      simp [visible]
  | plus => rfl
  | minus => rfl

theorem splitSign_spec (text : Bytes) :
    ∃ sign, Sign (splitSign text).1 sign ∧ text = sign ++ (splitSign text).2 := by
  unfold splitSign
  split
  · exact ⟨[45], .minus, rfl⟩
  · exact ⟨[43], .plus, rfl⟩
  · exact ⟨[], .none, rfl⟩

/-- A numeral is recognised by what its scan leaves. -/
theorem numeral_iff {text : Bytes} {negative : Bool} {magnitude : Nat} :
    Numeral text negative magnitude ↔
      (splitSign (text.dropWhile isSpace)).1 = negative ∧
        (splitSign (text.dropWhile isSpace)).2 ≠ [] ∧
        (∀ character ∈ (splitSign (text.dropWhile isSpace)).2, isDigit character = true) ∧
        magnitude = digitsValue (splitSign (text.dropWhile isSpace)).2 := by
  constructor
  · intro numeral
    obtain ⟨blank, signed, present, plain⟩ := numeral
    rw [List.append_assoc, List.dropWhile_append_of_pos blank, signed.dropWhile present plain,
      signed.splitSign plain]
    exact ⟨rfl, present, plain, rfl⟩
  · intro scanned
    obtain ⟨rfl, present, plain, rfl⟩ := scanned
    have blank : ∀ character ∈ text.takeWhile isSpace, isSpace character = true :=
      List.all_eq_true.mp List.all_takeWhile
    obtain ⟨sign, signed, rest⟩ := splitSign_spec (text.dropWhile isSpace)
    have whole : text.takeWhile isSpace ++ sign ++ (splitSign (text.dropWhile isSpace)).2 = text := by
      rw [List.append_assoc, ← rest, List.takeWhile_append_dropWhile]
    have numeral := Numeral.written blank signed present plain
    rwa [whole] at numeral

theorem Numeral.unique {text : Bytes} {negative other : Bool} {magnitude number : Nat}
    (left : Numeral text negative magnitude) (right : Numeral text other number) :
    negative = other ∧ magnitude = number := by
  obtain ⟨rfl, -, -, rfl⟩ := numeral_iff.mp left
  obtain ⟨rfl, -, -, rfl⟩ := numeral_iff.mp right
  exact ⟨rfl, rfl⟩

theorem Denotes.unique {text : Bytes} {first second : Int} (left : Denotes text first)
    (right : Denotes text second) : first = second := by
  obtain ⟨negative, magnitude, numeral, rfl⟩ := left
  obtain ⟨other, number, again, rfl⟩ := right
  obtain ⟨rfl, rfl⟩ := numeral.unique again
  rfl

/-! ### `strtol` -/

theorem takeWhile_digits {digits : Bytes} (plain : ∀ character ∈ digits, isDigit character = true) :
    digits.takeWhile isDigit = digits ∧ digits.dropWhile isDigit = [] := by
  have whole : digits.takeWhile isDigit ++ digits.dropWhile isDigit = digits :=
    List.takeWhile_append_dropWhile
  have rest : digits.dropWhile isDigit = [] :=
    List.dropWhile_eq_nil_iff.mpr plain
  rw [rest, List.append_nil] at whole
  exact ⟨whole, rest⟩

theorem strtol_eq (text : Bytes) :
    strtol text = strtolMagnitude text (splitSign (text.dropWhile isSpace)).1
      (splitSign (text.dropWhile isSpace)).2 := by
  unfold strtol
  generalize text.dropWhile isSpace = rest
  split
  · rfl
  · rfl
  · next notMinus notPlus =>
      rw [splitSign.eq_3 rest notMinus notPlus]

/-- `strtol` saturates and reports what does not fit in 64 bits. -/
theorem strtol_numeral {text : Bytes} {negative : Bool} {magnitude : Nat}
    (numeral : Numeral text negative magnitude) :
    (strtol text).converted = true ∧ (strtol text).rest = [] ∧
      ((strtol text).outOfRange = false ↔ -2 ^ 63 ≤ signedValue negative magnitude ∧
        signedValue negative magnitude ≤ 2 ^ 63 - 1) ∧
      ((strtol text).outOfRange = false →
        (strtol text).value = signedValue negative magnitude) := by
  obtain ⟨rfl, present, plain, rfl⟩ := numeral_iff.mp numeral
  obtain ⟨digits, rest⟩ := takeWhile_digits plain
  rw [strtol_eq]
  simp only [strtolMagnitude, digits, rest, present, ↓reduceIte, signedValue, true_and,
    Bool.or_eq_false_iff, decide_eq_false_iff_not, Int.not_lt]
  intro bounds
  obtain ⟨low, high⟩ := bounds
  rw [if_neg (Int.not_lt.mpr low), if_neg (Int.not_lt.mpr high)]

theorem numeral_of_scan {text : Bytes}
    (digits : (splitSign (text.dropWhile isSpace)).2.takeWhile isDigit ≠ [])
    (whole : (splitSign (text.dropWhile isSpace)).2.dropWhile isDigit = []) :
    ∃ negative magnitude, Numeral text negative magnitude := by
  refine ⟨_, _, numeral_iff.mpr ⟨rfl, ?_, List.dropWhile_eq_nil_iff.mp whole, rfl⟩⟩
  intro empty
  simp [empty] at digits

theorem numeral_of_strtol {text : Bytes} (converted : (strtol text).converted = true)
    (whole : (strtol text).rest = []) : ∃ negative magnitude, Numeral text negative magnitude := by
  rw [strtol_eq] at converted whole
  by_cases digits : (splitSign (text.dropWhile isSpace)).2.takeWhile isDigit = []
  · simp [strtolMagnitude, digits] at converted
  · simp only [strtolMagnitude, digits, ↓reduceIte] at whole
    exact numeral_of_scan digits whole

/-- `strtol` reads exactly the numerals of 64-bit integers without complaint. -/
theorem strtol_iff {text : Bytes} {number : Int} :
    ((strtol text).outOfRange = false ∧ (strtol text).converted = true ∧ (strtol text).rest = [] ∧
        (strtol text).value = number) ↔
      Denotes text number ∧ -2 ^ 63 ≤ number ∧ number ≤ 2 ^ 63 - 1 := by
  constructor
  · intro read
    obtain ⟨inRange, converted, whole, rfl⟩ := read
    obtain ⟨negative, magnitude, numeral⟩ := numeral_of_strtol converted whole
    obtain ⟨_, _, bounds, value⟩ := strtol_numeral numeral
    rw [value inRange]
    exact ⟨⟨negative, magnitude, numeral, rfl⟩, bounds.mp inRange⟩
  · intro denoted
    obtain ⟨⟨negative, magnitude, numeral, rfl⟩, bounds⟩ := denoted
    obtain ⟨converted, whole, inRange, value⟩ := strtol_numeral numeral
    exact ⟨inRange.mpr bounds, converted, whole, value (inRange.mpr bounds)⟩

end PortalApi
