import PortalApi.Validation

/-! What `portal_validation_email` asks of an address. It looks for a blank, for the
first at sign and for a dot behind it, and leaves the rest to the confirmation. -/

set_option autoImplicit false

namespace PortalApi

/-- What stands before the first at sign. -/
def mailbox (text : Bytes) : Bytes := text.takeWhile (· ≠ 64)

def domain (text : Bytes) : Bytes := (text.dropWhile (· ≠ 64)).tail

/-- An address by the grammar: nothing blank or unprintable, one at sign, and a
domain of at least two labels, none of them empty. -/
structure WellFormedEmail (text : Bytes) : Prop where
  length : 5 ≤ text.length ∧ text.length ≤ 254
  printable : ∀ character ∈ text, 32 < character ∧ character ≠ 127
  single : text.count 64 = 1
  mailbox : mailbox text ≠ []
  dotted : 46 ∈ domain text
  labels : [] ∉ (domain text).splitOn 46

structure PlausibleEmail (text : Bytes) : Prop where
  length : 5 ≤ text.length ∧ text.length ≤ 254
  unspaced : 32 ∉ text
  present : 64 ∈ text
  mailbox : mailbox text ≠ []
  dotted : 46 ∈ domain text

section Search

variable {sought : UInt8} {text : Bytes}

theorem strchr_eq_dropWhile :
    strchr sought text = if sought ∈ text then some (text.dropWhile (· ≠ sought)) else none := by
  induction text with
  | nil => rfl
  | cons head tail ih =>
      by_cases same : head = sought
      · simp [strchr, same]
      · simp [strchr, same, ih, Ne.symm same]

theorem strchr_isSome : (strchr sought text).isSome = decide (sought ∈ text) := by
  rw [strchr_eq_dropWhile]
  split
  · next member => exact (decide_eq_true member).symm
  · next absent => exact (decide_eq_false absent).symm

end Search

theorem dropWhile_eq_self_iff_mailbox {text : Bytes} :
    text.dropWhile (· ≠ 64) = text ↔ mailbox text = [] := by
  constructor
  · intro same
    have whole := List.takeWhile_append_dropWhile (p := (· ≠ 64)) (l := text)
    rw [same] at whole
    exact List.append_left_eq_self.mp whole
  · intro empty
    have whole := List.takeWhile_append_dropWhile (p := (· ≠ 64)) (l := text)
    rw [show text.takeWhile (· ≠ 64) = [] from empty, List.nil_append] at whole
    exact whole

/-- An email is accepted exactly when it is plausible. -/
theorem email_accepted_iff (text : Bytes) :
    portalValidationEmail (some text) = true ↔ PlausibleEmail text := by
  simp only [portalValidationEmail, strchr_isSome]
  by_cases refused : text.length < 5 ∨ text.length > 254 ∨ 32 ∈ text
  · rw [if_pos (by simpa [or_assoc] using refused)]
    refine iff_of_false Bool.false_ne_true fun accepted => ?_
    obtain ⟨⟨atLeast, atMost⟩, unspaced, -⟩ := accepted
    rcases refused with short | long | spaced
    · omega
    · omega
    · exact unspaced spaced
  rw [if_neg (by simpa [or_assoc] using refused)]
  simp only [not_or] at refused
  obtain ⟨atLeast, atMost, unspaced⟩ := refused
  rw [strchr_eq_dropWhile]
  by_cases present : 64 ∈ text
  · simp only [present, ↓reduceIte, Bool.and_eq_true, bne_iff_ne, decide_eq_true_eq]
    constructor
    · intro accepted
      obtain ⟨⟨later, _⟩, dotted⟩ := accepted
      have named : mailbox text ≠ [] :=
        fun empty => later (dropWhile_eq_self_iff_mailbox.mpr empty)
      exact ⟨⟨by omega, by omega⟩, unspaced, present, named, dotted⟩
    · intro accepted
      obtain ⟨-, -, -, named, dotted⟩ := accepted
      refine ⟨⟨fun same => named (dropWhile_eq_self_iff_mailbox.mp same), ?_⟩, dotted⟩
      exact List.ne_nil_of_mem dotted
  · simp only [present, ↓reduceIte]
    exact iff_of_false Bool.false_ne_true fun accepted => present accepted.present

/-- Other blanks, a second at sign and empty labels are accepted. -/
theorem emails_implausible :
    (portalValidationEmail (some (bytes "a\tb@c.de")) = true ∧
        ¬ WellFormedEmail (bytes "a\tb@c.de")) ∧
      (portalValidationEmail (some (bytes "a@b@c.de")) = true ∧
        ¬ WellFormedEmail (bytes "a@b@c.de")) ∧
      portalValidationEmail (some (bytes "a@b..c")) = true ∧
        ¬ WellFormedEmail (bytes "a@b..c") := by
  refine ⟨⟨by decide, ?_⟩, ⟨by decide, ?_⟩, by decide, ?_⟩
  · exact fun formed => absurd formed.printable (by decide)
  · exact fun formed => absurd formed.single (by decide)
  · exact fun formed => absurd formed.labels (by decide)

end PortalApi
