import Mathlib.Algebra.Group.Int.Defs
import Mathlib.Algebra.Group.Nat.Defs
import Mathlib.Data.List.Basic

/-! Byte strings, the C library functions the service applies to them in the
default "C" locale, and the UTF-8 reading PostgreSQL gives them. -/

set_option autoImplicit false

namespace PortalApi

/-- The characters of a C string without its terminator, or a counted buffer. -/
abbrev Bytes := List UInt8

def bytes (text : String) : Bytes := text.toUTF8.data.toList

/-- What a reader of a `const char *` sees of a buffer: all before the first zero. -/
def cString (buffer : Bytes) : Bytes := buffer.takeWhile (· ≠ 0)

/-- The suffix at the first occurrence, as the pointer `strchr` returns. -/
def strchr (character : UInt8) : Bytes → Option Bytes
  | [] => none
  | head :: tail => if head = character then some (head :: tail) else strchr character tail

def isUpper (character : UInt8) : Bool := 65 ≤ character && character ≤ 90

def isLower (character : UInt8) : Bool := 97 ≤ character && character ≤ 122

def isDigit (character : UInt8) : Bool := 48 ≤ character && character ≤ 57

def isAlnum (character : UInt8) : Bool :=
  isDigit character || isUpper character || isLower character

def isSpace (character : UInt8) : Bool :=
  character = 32 || (9 ≤ character && character ≤ 13)

def toLower (character : UInt8) : UInt8 :=
  if isUpper character then character + 32 else character

/-- `snprintf` of one formatted text: the length it wanted and what the buffer holds. -/
def snprintf (size : Nat) (text : Bytes) : Int × Bytes := (text.length, text.take (size - 1))

@[simp] theorem snprintf_not_negative (size : Nat) (text : Bytes) : ¬ (snprintf size text).1 < 0 := by
  simp [snprintf]

@[simp] theorem snprintf_written (size : Nat) (text : Bytes) :
    (snprintf size text).2 = text.take (size - 1) := rfl

/-- The conversions `%u`, `%ld` of a non-negative number and PostgreSQL's integer output. -/
def decimal (number : Nat) : Bytes :=
  (Nat.toDigits 10 number).map fun digit => UInt8.ofNat digit.toNat

/-- The value, end pointer and `errno` of `strtol` and `strtoll` on a 64-bit `long`. -/
structure Strtol where
  value : Int
  rest : Bytes
  converted : Bool
  outOfRange : Bool

def digitsValue (digits : Bytes) : Nat :=
  digits.foldl (fun total digit => 10 * total + (digit.toNat - 48)) 0

def strtolMagnitude (text : Bytes) (negative : Bool) (unsigned : Bytes) : Strtol :=
  let digits := unsigned.takeWhile isDigit
  if digits = [] then
    { value := 0, rest := text, converted := false, outOfRange := false }
  else
    let magnitude : Int := digitsValue digits
    let value := if negative then -magnitude else magnitude
    { value := if value < -2 ^ 63 then -2 ^ 63 else if 2 ^ 63 - 1 < value then 2 ^ 63 - 1 else value
      rest := unsigned.dropWhile isDigit
      converted := true
      outOfRange := value < -2 ^ 63 || 2 ^ 63 - 1 < value }

def strtol (text : Bytes) : Strtol :=
  match text.dropWhile isSpace with
  | 45 :: unsigned => strtolMagnitude text true unsigned
  | 43 :: unsigned => strtolMagnitude text false unsigned
  | unsigned => strtolMagnitude text false unsigned

def isContinuation (octet : UInt8) : Bool := 0x80 ≤ octet && octet ≤ 0xBF

/-- The well-formed sequences of the Unicode standard, as the server checks them. -/
def validUtf8 : Bytes → Bool
  | [] => true
  | lead :: rest =>
    if lead ≤ 0x7F then validUtf8 rest
    else if 0xC2 ≤ lead && lead ≤ 0xDF then
      match rest with
      | second :: tail => isContinuation second && validUtf8 tail
      | _ => false
    else if 0xE0 ≤ lead && lead ≤ 0xEF then
      match rest with
      | second :: third :: tail =>
        isContinuation second && isContinuation third &&
          !(lead = 0xE0 && second < 0xA0) && !(lead = 0xED && 0x9F < second) && validUtf8 tail
      | _ => false
    else if 0xF0 ≤ lead && lead ≤ 0xF4 then
      match rest with
      | second :: third :: fourth :: tail =>
        isContinuation second && isContinuation third && isContinuation fourth &&
          !(lead = 0xF0 && second < 0x90) && !(lead = 0xF4 && 0x8F < second) && validUtf8 tail
      | _ => false
    else false

/-- `char_length` of a well-formed text: its bytes that start a character. -/
def charLength (text : Bytes) : Nat := (text.filter fun octet => !isContinuation octet).length

end PortalApi
