import PortalApi.Text

/-! The application configuration, and `config.c`, which loads it from the
environment: its ranges are those the loader enforces. -/

set_option autoImplicit false

namespace PortalApi

structure PortalConfig where
  databaseUrl : Bytes
  port : UInt16
  tokenTtlHours : UInt32
  confirmationTtlHours : UInt32
  exposeConfirmationToken : Bool
  port_range : 1 ≤ port.toNat
  tokenTtlHours_range : 1 ≤ tokenTtlHours.toNat ∧ tokenTtlHours.toNat ≤ 2160
  confirmationTtlHours_range : 1 ≤ confirmationTtlHours.toNat ∧ confirmationTtlHours.toNat ≤ 720

/-- The value, end pointer and `errno` of `strtoul` on a 64-bit `unsigned long`. -/
structure Strtoul where
  value : UInt64
  rest : Bytes
  converted : Bool
  outOfRange : Bool

/-- A minus sign negates the value in the result type. -/
def strtoulMagnitude (text : Bytes) (negative : Bool) (unsigned : Bytes) : Strtoul :=
  let digits := unsigned.takeWhile isDigit
  if digits = [] then
    { value := 0, rest := text, converted := false, outOfRange := false }
  else
    let magnitude := digitsValue digits
    { value :=
        if 2 ^ 64 ≤ magnitude then UInt64.ofNat (2 ^ 64 - 1)
        else if negative then 0 - UInt64.ofNat magnitude
        else UInt64.ofNat magnitude
      rest := unsigned.dropWhile isDigit
      converted := true
      outOfRange := 2 ^ 64 ≤ magnitude }

def strtoul (text : Bytes) : Strtoul :=
  match text.dropWhile isSpace with
  | 45 :: unsigned => strtoulMagnitude text true unsigned
  | 43 :: unsigned => strtoulMagnitude text false unsigned
  | unsigned => strtoulMagnitude text false unsigned

section Load

variable (getenv : String → Option Bytes)

def configParseInteger (name : String) (fallback minimum maximum : UInt32) : UInt32 :=
  match getenv name with
  | none => fallback
  | some value =>
    if value = [] then fallback
    else
      let parsed := strtoul value
      if parsed.outOfRange || !parsed.converted || parsed.rest ≠ [] ||
          parsed.value < minimum.toUInt64 || parsed.value > maximum.toUInt64 then fallback
      else parsed.value.toUInt32

def configAsciiEqualsIgnoreCase : Bytes → Bytes → Bool
  | [], [] => true
  | left :: leftRest, right :: rightRest =>
    if toLower left ≠ toLower right then false
    else configAsciiEqualsIgnoreCase leftRest rightRest
  | _, _ => false

def configParseBoolean (name : String) (fallback : Bool) : Bool :=
  match getenv name with
  | none => fallback
  | some value =>
    if value = [] then fallback
    else value = bytes "1" || configAsciiEqualsIgnoreCase value (bytes "true") ||
      configAsciiEqualsIgnoreCase value (bytes "yes")

variable {getenv}

theorem configParseInteger_range {name : String} {fallback minimum maximum : UInt32}
    (default : minimum ≤ fallback ∧ fallback ≤ maximum) :
    minimum ≤ configParseInteger getenv name fallback minimum maximum ∧
      configParseInteger getenv name fallback minimum maximum ≤ maximum := by
  unfold configParseInteger
  split
  · exact default
  · split
    · exact default
    · simp only
      split
      · exact default
      · next accepted =>
          simp only [Bool.or_eq_true, decide_eq_true_eq, not_or, gt_iff_lt] at accepted
          have low := UInt64.not_lt.mp accepted.1.2
          have high := UInt64.not_lt.mp accepted.2
          simp only [UInt64.le_iff_toNat_le, UInt32.toNat_toUInt64, UInt32.le_iff_toNat_le,
            UInt64.toNat_toUInt32] at low high ⊢
          have bounded := maximum.toNat_lt
          omega

example : configParseInteger (fun _ => some (bytes " +42")) "TOKEN_TTL_HOURS" 168 1 2160 = 42 := by
  decide

variable (getenv)

/-- The configuration of an environment; the two flags are the allocations of
the object and of its copy of the URL. -/
def portalConfigCreateFromEnvironment (object copy : Bool) : Option PortalConfig :=
  match getenv "DATABASE_URL" with
  | none => none
  | some databaseUrl =>
    if databaseUrl = [] then none
    else if !object || !copy then none
    else some {
      databaseUrl
      port := (configParseInteger getenv "PORT" 8080 1 65535).toUInt16
      tokenTtlHours := configParseInteger getenv "TOKEN_TTL_HOURS" 168 1 2160
      confirmationTtlHours := configParseInteger getenv "CONFIRMATION_TTL_HOURS" 24 1 720
      exposeConfirmationToken := configParseBoolean getenv "EXPOSE_CONFIRMATION_TOKEN" false
      port_range := by
        have range : 1 ≤ configParseInteger getenv "PORT" 8080 1 65535 ∧
            configParseInteger getenv "PORT" 8080 1 65535 ≤ 65535 :=
          configParseInteger_range (by decide)
        simp only [UInt32.le_iff_toNat_le, UInt32.reduceToNat] at range
        rw [UInt32.toNat_toUInt16]
        omega
      tokenTtlHours_range := by
        have range : 1 ≤ configParseInteger getenv "TOKEN_TTL_HOURS" 168 1 2160 ∧
            configParseInteger getenv "TOKEN_TTL_HOURS" 168 1 2160 ≤ 2160 :=
          configParseInteger_range (by decide)
        simpa only [UInt32.le_iff_toNat_le, UInt32.reduceToNat] using range
      confirmationTtlHours_range := by
        have range : 1 ≤ configParseInteger getenv "CONFIRMATION_TTL_HOURS" 24 1 720 ∧
            configParseInteger getenv "CONFIRMATION_TTL_HOURS" 24 1 720 ≤ 720 :=
          configParseInteger_range (by decide)
        simpa only [UInt32.le_iff_toNat_le, UInt32.reduceToNat] using range }

end Load

end PortalApi
