import PortalApi.ServiceRuns

/-! A platform that keeps every law the development assumes: the libraries as
they behave on the inputs of the concrete runs. -/

set_option autoImplicit false

namespace PortalApi.Reference

open Library

def hexCharacter (digit : Nat) : UInt8 := UInt8.ofNat (if digit < 10 then 48 + digit else 87 + digit)

def hexValue (character : UInt8) : Option Nat :=
  if isDigit character then some (character.toNat - 48)
  else if 97 ≤ character && character ≤ 102 then some (character.toNat - 87)
  else if 65 ≤ character && character ≤ 70 then some (character.toNat - 55)
  else none

def hexDigits : Nat → Nat → Bytes
  | 0, _ => []
  | count + 1, value => hexDigits count (value / 16) ++ [hexCharacter (value % 16)]

def readHex (text : Bytes) : Option Nat :=
  text.foldlM (fun total character => (hexValue character).map (16 * total + ·)) 0

/-- Groups of 8, 4, 4, 4 and 12 digits. -/
def grouped (digits : Bytes) : Bytes :=
  digits.take 8 ++ 45 :: ((digits.drop 8).take 4 ++ 45 :: ((digits.drop 12).take 4 ++
    45 :: ((digits.drop 16).take 4 ++ 45 :: digits.drop 20)))

/-- The canonical output. -/
def uuidOut (id : Uuid) : Bytes := grouped (hexDigits 32 id.toNat)

/-- The canonical input, in either case. -/
def uuidIn (text : Bytes) : Option Uuid :=
  if text.length = 36 && text[8]? = some 45 && text[13]? = some 45 && text[18]? = some 45 &&
      text[23]? = some 45 then
    let digits := text.filter (· ≠ 45)
    if digits.length = 32 then (readHex digits).map (BitVec.ofNat 128) else none
  else none

theorem hexValue_hexCharacter {digit : Nat} (small : digit < 16) :
    hexValue (hexCharacter digit) = some digit ∧ hexCharacter digit ≠ 45 ∧
      hexCharacter digit < 128 := by
  have all : ∀ digit : Fin 16, hexValue (hexCharacter digit) = some digit.val ∧
      hexCharacter digit ≠ 45 ∧ hexCharacter digit < 128 := by decide
  exact all ⟨digit, small⟩

theorem length_hexDigits (count value : Nat) : (hexDigits count value).length = count := by
  induction count generalizing value with
  | zero => rfl
  | succ count ih => simp [hexDigits, ih]

theorem mem_hexDigits {count value : Nat} {character : UInt8}
    (member : character ∈ hexDigits count value) : character ≠ 45 ∧ character < 128 := by
  induction count generalizing value with
  | zero => cases member
  | succ count ih =>
      rcases List.mem_append.mp member with earlier | last
      · exact ih earlier
      · have same : character = hexCharacter (value % 16) := by simpa using last
        exact same ▸ (hexValue_hexCharacter (Nat.mod_lt _ (by decide))).2

theorem readHex_hexDigits (count value : Nat) :
    readHex (hexDigits count value) = some (value % 16 ^ count) := by
  induction count generalizing value with
  | zero => simp [readHex, hexDigits, Nat.mod_one]
  | succ count ih =>
      have digit := (hexValue_hexCharacter (Nat.mod_lt value (by decide : 0 < 16))).1
      have head := ih (value / 16)
      unfold readHex at head ⊢
      simp only [hexDigits, List.foldlM_append, head]
      simp only [Option.bind_eq_bind, Option.bind_some, List.foldlM_cons, digit, Option.map_some,
        List.foldlM_nil, Option.pure_def, Option.some.injEq]
      rw [Nat.pow_succ, Nat.mul_comm (16 ^ count), Nat.mod_mul]
      omega

theorem filter_grouped {digits : Bytes} (plain : ∀ character ∈ digits, character ≠ 45) :
    (grouped digits).filter (· ≠ 45) = digits := by
  have kept : ∀ part : Bytes, part.Sublist digits → part.filter (· ≠ 45) = part := by
    intro part sublist
    exact List.filter_eq_self.mpr fun character member => by
      simpa using plain character (sublist.subset member)
  have middle : ∀ start, ((digits.drop start).take 4).Sublist digits := fun start =>
    (List.take_sublist _ _).trans (List.drop_sublist _ _)
  simp only [grouped, List.filter_append, List.filter_cons, kept _ (List.take_sublist 8 digits),
    kept _ (middle _), kept _ (List.drop_sublist 20 digits), ne_eq, not_true_eq_false, decide_false,
    Bool.false_eq_true, ↓reduceIte]
  have join : ∀ start, (digits.drop start).take 4 ++ digits.drop (start + 4) =
      digits.drop start := by
    intro start
    rw [← List.drop_drop, List.take_append_drop]
  rw [join 16, join 12, join 8, List.take_append_drop]

theorem uuidIn_grouped {digits : Bytes} (length : digits.length = 32)
    (plain : ∀ character ∈ digits, character ≠ 45) :
    uuidIn (grouped digits) = (readHex digits).map (BitVec.ofNat 128) := by
  have size : (grouped digits).length = 36 := by simp [grouped, length]
  have hyphens : (grouped digits)[8]? = some 45 ∧ (grouped digits)[13]? = some 45 ∧
      (grouped digits)[18]? = some 45 ∧ (grouped digits)[23]? = some 45 := by
    simp [grouped, length]
  simp only [uuidIn, size, hyphens, filter_grouped plain, length, decide_true, Bool.and_self,
    ↓reduceIte]

theorem uuidIn_uuidOut (id : Uuid) : uuidIn (uuidOut id) = some id := by
  have plain : ∀ character ∈ hexDigits 32 id.toNat, character ≠ 45 :=
    fun character member => (mem_hexDigits member).1
  have whole : id.toNat % 16 ^ 32 = id.toNat := Nat.mod_eq_of_lt id.isLt
  rw [uuidOut, uuidIn_grouped (length_hexDigits 32 _) plain, readHex_hexDigits, whole,
    Option.map_some, BitVec.ofNat_toNat, BitVec.setWidth_eq]

theorem length_uuidOut (id : Uuid) : (uuidOut id).length = 36 := by
  simp [uuidOut, grouped, length_hexDigits]

theorem ascii_uuidOut (id : Uuid) : ∀ character ∈ uuidOut id, character < 128 := by
  intro character member
  by_cases hyphen : character = 45
  · exact hyphen ▸ by decide
  · have digit : character ∈ (uuidOut id).filter (· ≠ 45) :=
      List.mem_filter.mpr ⟨member, by simpa using hyphen⟩
    rw [uuidOut, filter_grouped fun other present => (mem_hexDigits present).1] at digit
    exact (mem_hexDigits digit).2

/-! ### The libraries -/

def int4In (text : Bytes) : Option Int :=
  if text ≠ [] && text.all isDigit && digitsValue text < 2 ^ 31 then some (digitsValue text)
  else none

/-- A text with the escape of a zero character is no `jsonb`. -/
def jsonbIn (text : Bytes) : Option Bytes :=
  if text.tails.any ((bytes "\\u0000").isPrefixOf ·) then none else some text

/-- Basic Latin and the Latin-1 letters. -/
def lower : Bytes → Bytes
  | 0xC3 :: second :: rest =>
    0xC3 :: (if 0x80 ≤ second && second ≤ 0x9E && second ≠ 0x97 then second + 32 else second) ::
      lower rest
  | first :: rest => toLower first :: lower rest
  | [] => []

/-- A hash that, as bcrypt, starts with its salt, reads at most 72 bytes of the
password and tells these apart. -/
def crypt (password salt : Bytes) : Bytes :=
  salt.take 29 ++ password.take 72

def twoDigits (number : Nat) : Bytes := if number < 10 then 48 :: decimal number else decimal number

/-- A date by days since 2000-01-01, in the civil calendar. -/
def dateOut (days : Nat) : Bytes :=
  let shifted := days + 730425
  let era := shifted / 146097
  let ofEra := shifted % 146097
  let yearOfEra := (ofEra - ofEra / 1460 + ofEra / 36524 - ofEra / 146096) / 365
  let ofYear := ofEra - (365 * yearOfEra + yearOfEra / 4 - yearOfEra / 100)
  let shiftedMonth := (5 * ofYear + 2) / 153
  let dayOfMonth := ofYear - (153 * shiftedMonth + 2) / 5 + 1
  let month := if shiftedMonth < 10 then shiftedMonth + 3 else shiftedMonth - 9
  let year := yearOfEra + era * 400 + if month ≤ 2 then 1 else 0
  decimal year ++ 45 :: (twoDigits month ++ 45 :: twoDigits dayOfMonth)

/-- A whole second in the UTC time zone. -/
def timestampOut (time : Time) : Bytes :=
  let seconds := time.toNat / 1000000
  dateOut (seconds / 86400) ++ 32 :: (twoDigits (seconds / 3600 % 24) ++ 58 ::
    (twoDigits (seconds / 60 % 60) ++ 58 :: twoDigits (seconds % 60))) ++ bytes "+00"

def postgres : Postgres where
  uuidIn := uuidIn
  uuidOut := uuidOut
  int4In := int4In
  jsonbIn := jsonbIn
  timestampOut := timestampOut
  lower := lower
  crypt := crypt
  textLe left right := left ≤ right

theorem int4In_decimal {number : Nat} (small : number < 2 ^ 31) :
    int4In (decimal number) = some (number : Int) := by
  have digits : (decimal number).all isDigit = true :=
    List.all_eq_true.mpr fun _ member => isDigit_decimal member
  simp only [int4In, decimal_ne_nil, digits, digitsValue_decimal, small, ne_eq, not_false_eq_true,
    decide_true, Bool.and_self, ↓reduceIte]

theorem lawful : postgres.Lawful where
  uuidIn_uuidOut id := by simp only [postgres, uuidIn_uuidOut]
  length_uuidOut id := by simp only [postgres, length_uuidOut]
  ascii_uuidOut id := by simpa only [postgres] using ascii_uuidOut id
  int4In_decimal number small := by simp only [postgres, int4In_decimal small]

theorem ranksText : Ranking.LinearlyOrders postgres.textLe where
  total left right := by simpa [postgres] using List.le_total left right
  transitive first second third := by simpa [postgres] using List.le_trans
  antisymmetric left right := by simpa [postgres] using List.le_antisymm

/-- An object of plain texts and its JSON. -/
abbrev Members := List (String × Bytes)

def objectText (members : Members) : Bytes :=
  123 :: ((members.map fun member =>
    34 :: (bytes member.1 ++ 34 :: 58 :: 34 :: (member.2 ++ [34]))).intersperse [44]).flatten ++ [125]

def objectJson (members : Members) : Json :=
  .object (members.map fun member => (bytes member.1, .string member.2))

/-- The tokener on the given bodies, and the printer on objects of one text. -/
def jsonC (bodies : List (Bytes × Json)) : JsonC where
  parseEx body :=
    match bodies.find? fun entry => entry.1 = body with
    | some entry => { json := some entry.2, error := .tokenerSuccess, parseEnd := body.length }
    | none => { json := none, error := .tokenerError, parseEnd := 0 }
  toJsonString
    | .object [(key, .string content)] =>
      bytes "\x7b\"" ++ key ++ bytes "\":\"" ++
        content.flatMap (fun character => if character = 0 then bytes "\\u0000" else [character]) ++
        bytes "\"\x7d"
    | _ => bytes "\x7b\x7d"

/-! ### The outside -/

/-- The random UUIDs of the given environment, version 4. -/
def draw (seed : Nat) : Uuid := BitVec.ofNat 128 (0x40008000000000000000 + seed)

def salt : BfSalt where
  text := bytes "$2a$12$abcdefghijklmnopqrstuu"
  method := by decide
  length := by decide
  characters := by decide

/-- An environment that fails nothing, some time after the statement before. -/
def environment (seed elapsed : Nat) : Environment where
  moment _ := {
    elapsed
    genRandomUuid := fun _ index => draw (seed + index)
    genSalt := salt
    identityGap := fun _ => 0
    weather := .fair }
  grants _ := true
  junk _ := 0
  queues := true

theorem environment_healthy (seed elapsed : Nat) : (environment seed elapsed).Healthy where
  fair _ := rfl
  granted _ := rfl
  queued := rfl

def request (method url : String) (authorization : Option Bytes) (body : Bytes) : Request where
  method := bytes method
  url := bytes url
  lookup
    | .header, "Authorization" => authorization
    | _, _ => none
  body := body

/-- Sessions of a week, confirmations of a day, and tokens shown on registration. -/
def config : PortalConfig where
  databaseUrl := []
  port := 8080
  tokenTtlHours := 168
  confirmationTtlHours := 24
  exposeConfirmationToken := true
  port_range := by decide
  tokenTtlHours_range := by decide
  confirmationTtlHours_range := by decide

def service (bodies : List (Bytes × Json)) : Service where
  config := config
  jsonC := jsonC bodies
  postgres := postgres

def start : World where
  database := Database.empty
  clock := 0
  connection := .connectionOk

/-- The entries and the world of serving these calls from the start. -/
def history (service : Service) (calls : List Call) : List Service.Entry :=
  ((service.machine Environment.Healthy).play start calls).1

def after (service : Service) (calls : List Call) : World :=
  ((service.machine Environment.Healthy).play start calls).2

theorem run (service : Service) {calls : List Call}
    (healthy : ∀ call ∈ calls, call.environment.Healthy) :
    service.Run Environment.Healthy (history service calls) (after service calls) := by
  have begins : service.Run Environment.Healthy [] start := .start ⟨rfl, rfl⟩
  simpa [history, after] using begins.play healthy

/-! ### An account -/

def account : Members :=
  [("email", bytes "ana@example.com"), ("password", bytes "correct-horse"),
    ("display_name", bytes "Ana")]

def credentials : Members :=
  [("email", bytes "Ana@Example.com"), ("password", bytes "correct-horse")]

/-- The confirmation of the account registered with this seed. -/
def confirmation (seed : Nat) : Members := [("token", uuidOut (draw seed))]

def post (url : String) (members : Members) (seed elapsed : Nat) : Call where
  request := request "POST" url none (objectText members)
  environment := environment seed elapsed

def put (url : String) (authorization : Option Bytes) (members : Members) (seed elapsed : Nat) :
    Call where
  request := request "PUT" url authorization (objectText members)
  environment := environment seed elapsed

def bearer (token : Bytes) : Option Bytes := some (bytes "Bearer " ++ token)

def logout (token : Bytes) (seed elapsed : Nat) : Call where
  request := request "DELETE" "/auth/session" (bearer token) []
  environment := environment seed elapsed

def bodies (objects : List Members) : List (Bytes × Json) :=
  objects.map fun members => (objectText members, objectJson members)

example : uuidOut (draw 1) = bytes "00000000-0000-4000-8000-000000000001" := by decide

example : timestampOut (59 * day + 3723000000) = bytes "2000-02-29 01:02:03+00" := by decide

end PortalApi.Reference
