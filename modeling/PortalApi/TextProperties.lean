import PortalApi.Text

/-! ASCII texts, numerals and well-formed texts. -/

set_option autoImplicit false

namespace PortalApi

/-- A text of ASCII characters, each of one byte. -/
def Ascii (text : Bytes) : Prop := ∀ character ∈ text, character < 128

theorem Ascii.append {first second : Bytes} (left : Ascii first) (right : Ascii second) :
    Ascii (first ++ second) := by
  intro character member
  rcases List.mem_append.mp member with inFirst | inSecond
  · exact left character inFirst
  · exact right character inSecond

theorem Ascii.validUtf8 {text : Bytes} (ascii : Ascii text) : validUtf8 text = true := by
  induction text with
  | nil => rfl
  | cons head tail ih =>
      have single : head ≤ 0x7F := by
        have below := ascii head List.mem_cons_self
        grind
      have rest : PortalApi.validUtf8 tail = true :=
        ih fun character member => ascii character (List.mem_cons_of_mem _ member)
      rw [PortalApi.validUtf8.eq_def]
      simp [single, rest]

theorem Ascii.charLength {text : Bytes} (ascii : Ascii text) : charLength text = text.length := by
  unfold PortalApi.charLength
  rw [List.filter_eq_self.mpr]
  intro character member
  have below := ascii character member
  simp only [isContinuation]
  grind

theorem charLength_le_length (text : Bytes) : charLength text ≤ text.length :=
  List.length_filter_le _ _

theorem charLength_pos {text : Bytes} (encoded : validUtf8 text = true) (present : text ≠ []) :
    1 ≤ charLength text := by
  cases text with
  | nil => exact absurd rfl present
  | cons head tail =>
      have starts : isContinuation head = false := by
        cases continues : isContinuation head with
        | false => rfl
        | true =>
            have outside : ¬ head ≤ 0x7F ∧ ¬ 0xC2 ≤ head := by
              simp only [isContinuation, Bool.and_eq_true, decide_eq_true_eq] at continues
              grind
            have refused : validUtf8 (head :: tail) = false := by
              rw [validUtf8.eq_def]
              grind
            simp [refused] at encoded
      simp [charLength, starts]

theorem length_decimal_le {number digits : Nat} (positive : 0 < digits)
    (bounded : number < 10 ^ digits) : (decimal number).length ≤ digits := by
  simpa [decimal] using (Nat.length_toDigits_le_iff (by decide) positive).mpr bounded

theorem digit_bounds {number : Nat} {digit : Char} (present : digit ∈ Nat.toDigits 10 number) :
    48 ≤ digit.toNat ∧ digit.toNat ≤ 57 := by
  have range := Nat.isDigit_of_mem_toDigits (by decide) (by decide) present
  simp only [Char.isDigit, Bool.and_eq_true, decide_eq_true_eq, UInt32.le_iff_toNat_le] at range
  exact range

theorem isDigit_decimal {number : Nat} {character : UInt8} (member : character ∈ decimal number) :
    isDigit character = true := by
  obtain ⟨digit, present, rfl⟩ := List.mem_map.mp member
  have bounds := digit_bounds present
  simp only [isDigit, Bool.and_eq_true, decide_eq_true_eq, UInt8.le_iff_toNat_le,
    UInt8.toNat_ofNat']
  have constants : (48 : UInt8).toNat = 48 ∧ (57 : UInt8).toNat = 57 := by decide
  omega

theorem decimal_ascii (number : Nat) : Ascii (decimal number) := by
  intro character member
  have digit := isDigit_decimal member
  simp only [isDigit, Bool.and_eq_true, decide_eq_true_eq] at digit
  grind

theorem decimal_ne_nil (number : Nat) : decimal number ≠ [] := by
  simp [decimal, Nat.toDigits_ne_nil]

theorem digitsValue_decimal (number : Nat) : digitsValue (decimal number) = number := by
  have step : ∀ (digits : List Char) (total : Nat),
      (∀ digit ∈ digits, 48 ≤ digit.toNat ∧ digit.toNat ≤ 57) →
      (digits.map fun digit => UInt8.ofNat digit.toNat).foldl
        (fun total digit => 10 * total + (digit.toNat - 48)) total =
        Nat.ofDigitChars 10 digits total := by
    intro digits
    induction digits with
    | nil => simp
    | cons digit rest ih =>
        intro total bounds
        have byte : (UInt8.ofNat digit.toNat).toNat = digit.toNat := by
          have bound := bounds digit List.mem_cons_self
          simp only [UInt8.toNat_ofNat']
          omega
        simp only [List.map_cons, List.foldl_cons, byte, Nat.ofDigitChars_cons]
        exact ih _ fun other member => bounds other (List.mem_cons_of_mem _ member)
  have read := step (Nat.toDigits 10 number) 0 fun digit member => digit_bounds member
  rw [Nat.ofDigitChars_ten_toDigits] at read
  exact read

/-- A numeral that fits its buffer is written whole. -/
theorem snprintf_decimal {size number : Nat} (written : number < 10 ^ (size - 1))
    (room : 1 < size) : snprintf size (decimal number) = (((decimal number).length : Int), decimal number) := by
  have short : (decimal number).length ≤ size - 1 := length_decimal_le (by omega) written
  simp [snprintf, List.take_of_length_le short]

end PortalApi
