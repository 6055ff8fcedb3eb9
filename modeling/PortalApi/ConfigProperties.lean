import PortalApi.Config
import PortalApi.Numerals

/-! Which strings the integer settings are read from as the number they denote. -/

set_option autoImplicit false

namespace PortalApi

theorem strtoul_eq (text : Bytes) :
    strtoul text = strtoulMagnitude text (splitSign (text.dropWhile isSpace)).1
      (splitSign (text.dropWhile isSpace)).2 := by
  unfold strtoul
  generalize text.dropWhile isSpace = rest
  split
  · rfl
  · rfl
  · next notMinus notPlus =>
      rw [splitSign.eq_3 rest notMinus notPlus]

/-- `strtoul` takes the magnitude, and negates it modulo `2 ^ 64` behind a minus sign. -/
theorem strtoul_numeral {text : Bytes} {negative : Bool} {magnitude : Nat}
    (numeral : Numeral text negative magnitude) :
    (strtoul text).converted = true ∧ (strtoul text).rest = [] ∧
      ((strtoul text).outOfRange = false ↔ magnitude < 2 ^ 64) ∧
      (magnitude < 2 ^ 64 → (strtoul text).value.toNat =
        if negative then (2 ^ 64 - magnitude) % 2 ^ 64 else magnitude) := by
  obtain ⟨rfl, present, plain, rfl⟩ := numeral_iff.mp numeral
  obtain ⟨digits, rest⟩ := takeWhile_digits plain
  rw [strtoul_eq]
  simp only [strtoulMagnitude, digits, rest, present, ↓reduceIte, true_and,
    decide_eq_false_iff_not, Nat.not_le]
  intro small
  rw [if_neg (Nat.not_le.mpr small)]
  split
  · rw [UInt64.toNat_sub, UInt64.toNat_ofNat', Nat.mod_eq_of_lt small, UInt64.toNat_zero,
      Nat.add_zero]
  · rw [UInt64.toNat_ofNat', Nat.mod_eq_of_lt small]

theorem numeral_of_strtoul {text : Bytes} (converted : (strtoul text).converted = true)
    (whole : (strtoul text).rest = []) : ∃ negative magnitude, Numeral text negative magnitude := by
  rw [strtoul_eq] at converted whole
  by_cases digits : (splitSign (text.dropWhile isSpace)).2.takeWhile isDigit = []
  · simp [strtoulMagnitude, digits] at converted
  · simp only [strtoulMagnitude, digits, ↓reduceIte] at whole
    exact numeral_of_scan digits whole

/-- The variable is set to a numeral of an integer in the range. -/
def Sets (value : Option Bytes) (minimum maximum : UInt32) (number : Int) : Prop :=
  ∃ text, value = some text ∧ Denotes text number ∧ (minimum.toNat : Int) ≤ number ∧
    number ≤ maximum.toNat

theorem Sets.of_denotes {value : Option Bytes} {minimum maximum : UInt32} {text : Bytes}
    {number other : Int} (sets : Sets value minimum maximum number) (given : value = some text)
    (denotes : Denotes text other) :
    number = other ∧ (minimum.toNat : Int) ≤ number ∧ number ≤ maximum.toNat := by
  obtain ⟨found, set, same, bounds⟩ := sets
  obtain rfl := Option.some.inj (given.symm.trans set)
  exact ⟨same.unique denotes, bounds⟩

/-- The integer that the variable is set to, or the fallback. -/
structure SettingExact (value : Option Bytes) (fallback minimum maximum result : UInt32) : Prop where
  accepted : ∀ number, Sets value minimum maximum number → (result.toNat : Int) = number
  refused : (¬ ∃ number, Sets value minimum maximum number) → result = fallback

/-- A negative numeral that, modulo `2 ^ 64`, is another number of the range than
the fallback. -/
def WrapsInto (value : Option Bytes) (fallback minimum maximum : UInt32) : Prop :=
  ∃ text magnitude, value = some text ∧ Numeral text true magnitude ∧
    magnitude ≤ 2 ^ 64 - minimum.toNat ∧ 2 ^ 64 - maximum.toNat ≤ magnitude ∧
    magnitude < 2 ^ 64 ∧ magnitude ≠ 2 ^ 64 - fallback.toNat

section Integers

variable {getenv : String → Option Bytes} {name : String} {fallback minimum maximum : UInt32}

variable (fallback minimum maximum) in
/-- What `strtoul` makes of a numeral is all that the range test sees of it. -/
theorem configParseInteger_numeral {text : Bytes} {negative : Bool} {magnitude wrapped : Nat}
    (given : getenv name = some text) (numeral : Numeral text negative magnitude)
    (value : wrapped = if negative then (2 ^ 64 - magnitude) % 2 ^ 64 else magnitude) :
    configParseInteger getenv name fallback minimum maximum =
      if magnitude < 2 ^ 64 ∧ minimum.toNat ≤ wrapped ∧ wrapped ≤ maximum.toNat then
        UInt32.ofNat wrapped
      else fallback := by
  obtain ⟨converted, whole, inRange, read⟩ := strtoul_numeral numeral
  have present : text ≠ [] := by
    intro empty
    subst empty
    exact (numeral_iff.mp numeral).2.1 rfl
  simp only [configParseInteger, given, present, ↓reduceIte]
  by_cases small : magnitude < 2 ^ 64
  · have same := read small
    rw [← value] at same
    have fits := inRange.mpr small
    by_cases bounds : minimum.toNat ≤ wrapped ∧ wrapped ≤ maximum.toNat
    · rw [if_neg, if_pos ⟨small, bounds⟩]
      · apply UInt32.toNat_inj.mp
        rw [UInt64.toNat_toUInt32, same, UInt32.toNat_ofNat']
      · simp only [fits, converted, whole, UInt64.lt_iff_toNat_lt, same, UInt32.toNat_toUInt64,
          gt_iff_lt, Bool.not_true, Bool.or_eq_true, decide_eq_true_eq, Bool.false_or, ne_eq,
          not_true_eq_false, false_or]
        omega
    · rw [if_pos, if_neg fun both => bounds both.2]
      simp only [fits, converted, whole, UInt64.lt_iff_toNat_lt, same, UInt32.toNat_toUInt64,
        gt_iff_lt, Bool.not_true, Bool.or_eq_true, decide_eq_true_eq, Bool.false_or]
      omega
  · have large : (strtoul text).outOfRange = true := by
      cases range : (strtoul text).outOfRange with
      | true => rfl
      | false => exact absurd (inRange.mp range) small
    rw [if_pos (by simp [large]), if_neg fun both => small both.1]

theorem configParseInteger_other
    (other : ∀ text, getenv name = some text → ¬ ∃ negative magnitude, Numeral text negative magnitude) :
    configParseInteger getenv name fallback minimum maximum = fallback := by
  unfold configParseInteger
  cases given : getenv name with
  | none => rfl
  | some text =>
      simp only
      split
      · rfl
      · apply if_pos
        cases converted : (strtoul text).converted with
        | false => simp
        | true =>
            have rest : (strtoul text).rest ≠ [] := fun whole =>
              other text given (numeral_of_strtoul converted whole)
            simp [rest]

theorem settingExact_plain {text : Bytes} {magnitude : Nat} (given : getenv name = some text)
    (numeral : Numeral text false magnitude) :
    SettingExact (getenv name) fallback minimum maximum
      (configParseInteger getenv name fallback minimum maximum) := by
  have narrow := maximum.toNat_lt
  have result := configParseInteger_numeral fallback minimum maximum given numeral rfl
  simp only [Bool.false_eq_true, ↓reduceIte] at result
  have denotes : Denotes text magnitude := ⟨false, magnitude, numeral, rfl⟩
  constructor
  · intro number sets
    obtain ⟨rfl, least, most⟩ := sets.of_denotes given denotes
    rw [result, if_pos (by omega), UInt32.toNat_ofNat', Nat.mod_eq_of_lt (by omega)]
  · intro unset
    rw [result, if_neg]
    intro within
    obtain ⟨_, least, most⟩ := within
    exact unset ⟨magnitude, text, given, denotes, by omega, by omega⟩

/-- A negative numeral denotes no setting but zero, and is refused unless it wraps
around. -/
theorem settingExact_negative {text : Bytes} {magnitude : Nat} (given : getenv name = some text)
    (numeral : Numeral text true magnitude)
    (fits : ¬ WrapsInto (getenv name) fallback minimum maximum) :
    SettingExact (getenv name) fallback minimum maximum
      (configParseInteger getenv name fallback minimum maximum) := by
  have narrow := maximum.toNat_lt
  have result := configParseInteger_numeral fallback minimum maximum given numeral rfl
  simp only [↓reduceIte] at result
  have denotes : Denotes text (-(magnitude : Int)) := ⟨true, magnitude, numeral, rfl⟩
  constructor
  · intro number sets
    obtain ⟨rfl, least, most⟩ := sets.of_denotes given denotes
    obtain rfl : magnitude = 0 := by omega
    rw [result, if_pos (by omega)]
    rfl
  · intro unset
    rw [result]
    split
    · next within =>
        obtain ⟨small, least, most⟩ := within
        have positive : magnitude ≠ 0 := by
          intro zero
          subst zero
          exact unset ⟨0, text, given, denotes, by omega, by omega⟩
        rw [Nat.mod_eq_of_lt (by omega)] at least most ⊢
        have same : magnitude = 2 ^ 64 - fallback.toNat :=
          Decidable.byContradiction fun other =>
            fits ⟨text, magnitude, given, numeral, by omega, by omega, small, other⟩
        have whole : 2 ^ 64 - magnitude = fallback.toNat := by
          have range := fallback.toNat_lt
          omega
        rw [whole, UInt32.ofNat_toNat]
    · rfl

theorem settingExact_other
    (other : ∀ text, getenv name = some text → ¬ ∃ negative magnitude, Numeral text negative magnitude) :
    SettingExact (getenv name) fallback minimum maximum
      (configParseInteger getenv name fallback minimum maximum) := by
  rw [configParseInteger_other other]
  constructor
  · intro number sets
    obtain ⟨text, given, ⟨negative, magnitude, found, _⟩, _⟩ := sets
    exact absurd ⟨negative, magnitude, found⟩ (other text given)
  · exact fun _ => rfl

/-- The number a wrapping numeral is read as, which it does not denote. -/
theorem WrapsInto.inexact (wraps : WrapsInto (getenv name) fallback minimum maximum) :
    ¬ SettingExact (getenv name) fallback minimum maximum
      (configParseInteger getenv name fallback minimum maximum) := by
  obtain ⟨text, magnitude, given, numeral, low, high, small, other⟩ := wraps
  intro exact
  have narrow := maximum.toNat_lt
  have positive : 2 ^ 64 - magnitude < 2 ^ 64 := by omega
  have result := configParseInteger_numeral fallback minimum maximum given numeral rfl
  rw [if_pos rfl, Nat.mod_eq_of_lt positive, if_pos (by omega)] at result
  have unset : ¬ ∃ number, Sets (getenv name) minimum maximum number := by
    intro accepted
    obtain ⟨number, sets⟩ := accepted
    have denotes : Denotes text (-(magnitude : Int)) := ⟨true, magnitude, numeral, rfl⟩
    obtain ⟨rfl, least, _⟩ := sets.of_denotes given denotes
    omega
  have fallen := congrArg UInt32.toNat (result.symm.trans (exact.refused unset))
  rw [UInt32.toNat_ofNat', Nat.mod_eq_of_lt (by omega)] at fallen
  omega

/-- A setting is the integer its string denotes, or the fallback, except for the
negative numerals that wrap around into the range. -/
theorem setting_exact_iff :
    SettingExact (getenv name) fallback minimum maximum
        (configParseInteger getenv name fallback minimum maximum) ↔
      ¬ WrapsInto (getenv name) fallback minimum maximum := by
  constructor
  · exact fun exact wraps => wraps.inexact exact
  · intro fits
    by_cases numeral : ∃ text negative magnitude,
        getenv name = some text ∧ Numeral text negative magnitude
    · obtain ⟨text, negative, magnitude, given, numeral⟩ := numeral
      cases negative with
      | false => exact settingExact_plain given numeral
      | true => exact settingExact_negative given numeral fits
    · refine settingExact_other fun text given => ?_
      intro denotes
      obtain ⟨negative, magnitude, found⟩ := denotes
      exact numeral ⟨text, negative, magnitude, given, found⟩

end Integers

/-- A negative number of twenty digits is taken for the port 1. -/
theorem negative_port :
    ¬ SettingExact (some (bytes "-18446744073709551615")) 8080 1 65535
      (configParseInteger (fun _ => some (bytes "-18446744073709551615")) "PORT" 8080 1 65535) := by
  have numeral : Numeral (bytes "-18446744073709551615") true 18446744073709551615 :=
    numeral_iff.mpr (by decide +kernel)
  have wraps : WrapsInto (some (bytes "-18446744073709551615")) 8080 1 65535 :=
    ⟨_, _, rfl, numeral, by decide, by decide, by decide, by decide⟩
  exact @WrapsInto.inexact (fun _ => some (bytes "-18446744073709551615")) "PORT" 8080 1 65535 wraps

end PortalApi
