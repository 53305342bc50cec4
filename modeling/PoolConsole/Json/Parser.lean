import PoolConsole.Json.Basic
import PoolConsole.Text.Blank
import PoolConsole.Text.Digits

/-!
Reading JSON text. Numbers keep their kind (whole, negative, float), a repeated key keeps its first
place and takes its last value, and a value may be nested 127 deep.
-/

namespace PoolConsole.Json

/-- The blanks that may stand between the tokens of a JSON text. -/
def isSpace (c : Char) : Bool :=
  c == ' ' || c == '\n' || c == '\t' || c == '\r'

def skipSpace (cs : List Char) : List Char :=
  cs.dropWhile isSpace

/-! ## Numbers -/

/-- Digits read into 64 bits, and how many of them were left out because they no longer fit. -/
structure Significand where
  value : Nat
  dropped : Nat

/-- Reads whole digits; from the first that does not fit on, all are left out. -/
def Significand.whole (digits : List Char) : Significand :=
  digits.foldl (fun s c =>
    let next := s.value * 10 + (c.toNat - 48)
    if s.dropped = 0 ∧ next < UInt64.size then ⟨next, 0⟩ else ⟨s.value, s.dropped + 1⟩) ⟨0, 0⟩

/-- Appends the digits of a fraction as long as they fit; gives the value and how many fitted. -/
def appendFraction (value : Nat) : List Char → Nat × Nat
  | [] => (value, 0)
  | c :: rest =>
    let next := value * 10 + (c.toNat - 48)
    if next < UInt64.size then
      let (v, n) := appendFraction next rest
      (v, n + 1)
    else (value, 0)

/-- Scales by a power of ten: one multiplication or division, after divisions by `10 ^ 308` as long
as the exponent is below -308. Nothing beyond the range of a float is a number. -/
def scale : Nat → Float → Int → Option Float
  | fuel, x, e =>
    if e.natAbs ≤ 308 then
      let power := Float.ofScientific 1 false e.natAbs
      let y := if 0 ≤ e then x * power else x / power
      if y.isFinite then some y else none
    else if x == 0 then some x
    else if 0 ≤ e then none
    else
      match fuel with
      | 0 => some 0
      | fuel + 1 => scale fuel (x / Float.ofScientific 1 false 308) (e + 308)

def floatNumber? (negative : Bool) (value : Nat) (exponent : Int) : Option Number :=
  (scale 3 (UInt64.ofNat value).toFloat exponent).bind fun x =>
    Number.ofFloat? (if negative then -x else x)

/-- An integer is kept whole where it fits 64 bits, save that a negative zero is a float. -/
def integerNumber? (negative : Bool) (s : Significand) : Option Number :=
  if s.dropped ≠ 0 then floatNumber? negative s.value s.dropped
  else if negative then
    let i := Int64.ofInt (-s.value)
    if h : s.value ≤ 9223372036854775808 ∧ i < 0 then some (.negative i h.2)
    else floatNumber? true s.value 0
  else some (.unsigned (UInt64.ofNat s.value))

/-- The digits of an exponent with its sign, and what follows them. -/
def exponentPart? (cs : List Char) : Option (Int × List Char) :=
  let (sign, body) : Int × List Char := match cs with
    | '+' :: rest => (1, rest)
    | '-' :: rest => (-1, rest)
    | _ => (1, cs)
  match body.takeWhile Char.isDigit with
  | [] => none
  | digits => some (sign * Text.digitsValue digits, body.dropWhile Char.isDigit)

/-- The whole digits: a single zero, or digits that do not start with a zero. -/
def wholePart? (cs : List Char) : Option (List Char × List Char) :=
  match cs.takeWhile Char.isDigit with
  | [] => none
  | '0' :: _ :: _ => none
  | digits => some (digits, cs.dropWhile Char.isDigit)

/-- A number at the start of the text, after its sign. -/
def unsignedNumber? (negative : Bool) (cs : List Char) : Option (Number × List Char) :=
  (wholePart? cs).bind fun (digits, rest) =>
    let s := Significand.whole digits
    let finish (value : Nat) (exponent : Int) (rest : List Char) :=
      match rest with
      | 'e' :: tail | 'E' :: tail =>
        (exponentPart? tail).bind fun (e, rest) =>
          (floatNumber? negative value (exponent + e)).map (·, rest)
      | _ => (floatNumber? negative value exponent).map (·, rest)
    match rest with
    | '.' :: tail =>
      match tail.takeWhile Char.isDigit with
      | [] => none
      | fraction =>
        let (value, fitted) := appendFraction s.value fraction
        finish value (s.dropped - fitted) (tail.dropWhile Char.isDigit)
    | 'e' :: _ | 'E' :: _ => finish s.value s.dropped rest
    | _ => (integerNumber? negative s).map (·, rest)

def number? (cs : List Char) : Option (Number × List Char) :=
  match cs with
  | '-' :: rest => unsignedNumber? true rest
  | _ => unsignedNumber? false cs

/-! ## Strings -/

/-- Four hexadecimal digits. -/
def hexFour? (cs : List Char) : Option (Nat × List Char) :=
  match cs with
  | a :: b :: c :: d :: rest =>
    match Text.hexValue? a, Text.hexValue? b, Text.hexValue? c, Text.hexValue? d with
    | some a, some b, some c, some d => some (((a * 16 + b) * 16 + c) * 16 + d, rest)
    | _, _, _, _ => none
  | _ => none

/-- What follows `\u`: one code unit, or two that make a pair. A half of a pair alone is refused. -/
def unicodeEscape? (cs : List Char) : Option (Char × List Char) :=
  (hexFour? cs).bind fun (n, rest) =>
    if 0xD800 ≤ n ∧ n ≤ 0xDBFF then
      match rest with
      | '\\' :: 'u' :: tail =>
        (hexFour? tail).bind fun (m, rest) =>
          if 0xDC00 ≤ m ∧ m ≤ 0xDFFF then
            some (Char.ofNat (0x10000 + (n - 0xD800) * 0x400 + (m - 0xDC00)), rest)
          else none
      | _ => none
    else if 0xDC00 ≤ n ∧ n ≤ 0xDFFF then none
    else some (Char.ofNat n, rest)

/-- What follows a backslash. -/
def escaped? (cs : List Char) : Option (Char × List Char) :=
  match cs with
  | '"' :: rest => some ('"', rest)
  | '\\' :: rest => some ('\\', rest)
  | '/' :: rest => some ('/', rest)
  | 'b' :: rest => some (Char.ofNat 8, rest)
  | 'f' :: rest => some (Char.ofNat 12, rest)
  | 'n' :: rest => some ('\n', rest)
  | 'r' :: rest => some ('\r', rest)
  | 't' :: rest => some ('\t', rest)
  | 'u' :: rest => unicodeEscape? rest
  | _ => none

/-- The characters up to the closing quote. Each takes at least one character of the text, so fuel
for its length suffices. -/
def stringBody? : Nat → List Char → Option (List Char × List Char)
  | 0, _ => none
  | fuel + 1, cs =>
    match cs with
    | [] => none
    | '"' :: rest => some ([], rest)
    | '\\' :: rest =>
      (escaped? rest).bind fun (c, rest) =>
        (stringBody? fuel rest).map fun (s, rest) => (c :: s, rest)
    | c :: rest =>
      if c.toNat < 0x20 then none
      else (stringBody? fuel rest).map fun (s, rest) => (c :: s, rest)

/-- A string after its opening quote. -/
def string? (cs : List Char) : Option (String × List Char) :=
  (stringBody? (cs.length + 1) cs).map fun (s, rest) => (String.ofList s, rest)

/-! ## Values -/

/-- How deep arrays and objects may be nested. -/
def maxDepth : Nat := 127

/-- The rest of the text after a word. -/
def word? (word : List Char) (cs : List Char) : Option (List Char) :=
  if word.isPrefixOf cs then some (cs.drop word.length) else none

mutual

/-- A value at the start of the text. -/
def value? : Nat → Nat → List Char → Option (Json × List Char)
  | 0, _, _ => none
  | fuel + 1, depth, cs =>
    match skipSpace cs with
    | [] => none
    | '"' :: rest => (string? rest).map fun (s, rest) => (.string s, rest)
    | '[' :: rest =>
      if depth = 0 then none
      else match skipSpace rest with
        | ']' :: rest => some (.array [], rest)
        | rest => (items? fuel (depth - 1) rest).map fun (items, rest) => (.array items, rest)
    | '{' :: rest =>
      if depth = 0 then none
      else match skipSpace rest with
        | '}' :: rest => some (.object [], rest)
        | rest =>
          (members? fuel (depth - 1) rest []).map fun (members, rest) => (.object members, rest)
    | 'n' :: rest => (word? "ull".toList rest).map (.null, ·)
    | 't' :: rest => (word? "rue".toList rest).map (.bool true, ·)
    | 'f' :: rest => (word? "alse".toList rest).map (.bool false, ·)
    | cs => (number? cs).map fun (n, rest) => (.number n, rest)

/-- The items of an array that is not empty, with its closing bracket. -/
def items? : Nat → Nat → List Char → Option (List Json × List Char)
  | 0, _, _ => none
  | fuel + 1, depth, cs =>
    (value? fuel depth cs).bind fun (item, rest) =>
      match skipSpace rest with
      | ',' :: rest => (items? fuel depth rest).map fun (items, rest) => (item :: items, rest)
      | ']' :: rest => some ([item], rest)
      | _ => none

/-- The members of an object that is not empty, with its closing brace, added to those before. -/
def members? :
    Nat → Nat → List Char → List (String × Json) → Option (List (String × Json) × List Char)
  | 0, _, _, _ => none
  | fuel + 1, depth, cs, before =>
    match skipSpace cs with
    | '"' :: rest =>
      (string? rest).bind fun (key, rest) =>
        match skipSpace rest with
        | ':' :: rest =>
          (value? fuel depth rest).bind fun (value, rest) =>
            match skipSpace rest with
            | ',' :: rest => members? fuel depth rest (put key value before)
            | '}' :: rest => some (put key value before, rest)
            | _ => none
        | _ => none
    | _ => none

end

/-- The value that a text is, blanks around it apart. A value takes two steps of fuel at most for
each character. -/
def parse? (text : String) : Option Json :=
  let cs := text.toList
  match value? (2 * cs.length + 2) maxDepth cs with
  | some (j, rest) => if (skipSpace rest).isEmpty then some j else none
  | none => none

/-- The value of a message body: one of blanks only is null. -/
def ofBody? (body : String) : Option Json :=
  if Text.isBlankText body then some .null else parse? body

end PoolConsole.Json
