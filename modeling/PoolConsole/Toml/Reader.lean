import PoolConsole.Text.Digits
import PoolConsole.Decimal.Reader
import PoolConsole.Toml.Basic

/-!
Reading a TOML document, version 1.0. Nesting is limited: in arrays and tables in braces, and in
the parts of a key.
-/

namespace PoolConsole.Toml

/-- How many brackets and braces may be open around a value, and how many parts a key may have. -/
def maxNesting : Nat := 79

/-! ## Blanks and comments -/

def isBlank (c : Char) : Bool :=
  c == ' ' || c == '\t'

def skipBlank (cs : List Char) : List Char :=
  cs.dropWhile isBlank

/-- The characters of a comment: no control characters but the tab. -/
def isCommentChar (c : Char) : Bool :=
  c == '\t' || (0x20 ≤ c.toNat && c.toNat != 0x7F)

def newline? : List Char → Option (List Char)
  | '\n' :: rest => some rest
  | '\r' :: '\n' :: rest => some rest
  | _ => none

def skipComment : List Char → List Char
  | '#' :: rest => rest.dropWhile isCommentChar
  | cs => cs

/-- Blanks, comments and ends of lines. -/
def skipLines : Nat → List Char → List Char
  | 0, cs => cs
  | fuel + 1, cs =>
    let rest := skipComment (skipBlank cs)
    match newline? rest with
    | some rest => skipLines fuel rest
    | none => rest

/-- The end of a line, after blanks and a comment, or the end of the text. -/
def endOfLine? (cs : List Char) : Option (List Char) :=
  match skipComment (skipBlank cs) with
  | [] => some []
  | rest => newline? rest

/-! ## Strings -/

/-- A character named by so many hexadecimal digits. -/
def hexEscape? (count : Nat) (cs : List Char) : Option (Char × List Char) :=
  let digits := cs.take count
  if digits.length = count ∧ digits.all (fun c => (Text.hexValue? c).isSome) then
    let n := digits.foldl (fun n c => n * 16 + (Text.hexValue? c).getD 0) 0
    if n.isValidChar then some (Char.ofNat n, cs.drop count) else none
  else none

/-- What follows a backslash. -/
def escaped? : List Char → Option (Char × List Char)
  | 'b' :: rest => some (Char.ofNat 8, rest)
  | 't' :: rest => some ('\t', rest)
  | 'n' :: rest => some ('\n', rest)
  | 'f' :: rest => some (Char.ofNat 12, rest)
  | 'r' :: rest => some ('\r', rest)
  | '"' :: rest => some ('"', rest)
  | '\\' :: rest => some ('\\', rest)
  | 'u' :: rest => hexEscape? 4 rest
  | 'U' :: rest => hexEscape? 8 rest
  | _ => none

abbrev Piece := Option (List Char × List Char)

/-- A string on one line, after its opening quote. -/
def basicString? : Nat → List Char → Piece
  | 0, _ => none
  | fuel + 1, cs =>
    match cs with
    | [] => none
    | '"' :: rest => some ([], rest)
    | '\\' :: rest =>
      (escaped? rest).bind fun (c, rest) =>
        (basicString? fuel rest).map fun (s, rest) => (c :: s, rest)
    | c :: rest =>
      if isCommentChar c then (basicString? fuel rest).map fun (s, rest) => (c :: s, rest) else none

/-- The closing quotes of a string over lines, of which up to two may belong to it. -/
def closing? (quote : Char) (cs : List Char) : Piece :=
  let quotes := cs.takeWhile (· == quote)
  if 3 ≤ quotes.length then
    let own := min 2 (quotes.length - 3)
    some (List.replicate own quote, cs.drop (own + 3))
  else none

/-- The rest after a backslash at the end of a line: the line end and all blanks and line ends that
follow. -/
def joinedLine? (fuel : Nat) (cs : List Char) : Option (List Char) :=
  let rec skip : Nat → List Char → List Char
    | 0, cs => cs
    | fuel + 1, cs =>
      match newline? (skipBlank cs) with
      | some rest => skip fuel rest
      | none => skipBlank cs
  (newline? (skipBlank cs)).map (skip fuel)

/-- A string over lines, after its opening quotes. -/
def longString? : Nat → List Char → Piece
  | 0, _ => none
  | fuel + 1, cs =>
    match cs with
    | [] => none
    | '\\' :: rest =>
      match joinedLine? fuel rest with
      | some rest => longString? fuel rest
      | none =>
        (escaped? rest).bind fun (c, rest) =>
          (longString? fuel rest).map fun (s, rest) => (c :: s, rest)
    | '"' :: rest =>
      match closing? '"' cs with
      | some done => some done
      | none => (longString? fuel rest).map fun (s, rest) => ('"' :: s, rest)
    | c :: rest =>
      match newline? cs with
      | some rest => (longString? fuel rest).map fun (s, rest) => ('\n' :: s, rest)
      | none =>
        if isCommentChar c then (longString? fuel rest).map fun (s, rest) => (c :: s, rest)
        else none

/-- A literal string on one line, after its opening quote. -/
def literalString? (cs : List Char) : Piece :=
  let body := cs.takeWhile fun c => c != '\'' && isCommentChar c
  match cs.drop body.length with
  | '\'' :: rest => some (body, rest)
  | _ => none

/-- A literal string over lines, after its opening quotes. -/
def longLiteral? : Nat → List Char → Piece
  | 0, _ => none
  | fuel + 1, cs =>
    match cs with
    | [] => none
    | '\'' :: rest =>
      match closing? '\'' cs with
      | some done => some done
      | none => (longLiteral? fuel rest).map fun (s, rest) => ('\'' :: s, rest)
    | c :: rest =>
      match newline? cs with
      | some rest => (longLiteral? fuel rest).map fun (s, rest) => ('\n' :: s, rest)
      | none =>
        if isCommentChar c then (longLiteral? fuel rest).map fun (s, rest) => (c :: s, rest)
        else none

/-- A line end right after the opening quotes does not belong to the string. -/
def afterOpening (cs : List Char) : List Char :=
  (newline? cs).getD cs

def stringValue? (cs : List Char) : Piece :=
  let fuel := cs.length + 1
  match cs with
  | '"' :: '"' :: '"' :: rest => longString? fuel (afterOpening rest)
  | '"' :: rest => basicString? fuel rest
  | '\'' :: '\'' :: '\'' :: rest => longLiteral? fuel (afterOpening rest)
  | '\'' :: rest => literalString? rest
  | _ => none

/-! ## Keys -/

def isBareKeyChar (c : Char) : Bool :=
  c.isAlphanum || c == '_' || c == '-'

def simpleKey? (cs : List Char) : Option (String × List Char) :=
  match cs with
  | '"' :: rest =>
    (basicString? (rest.length + 1) rest).map fun (s, rest) => (String.ofList s, rest)
  | '\'' :: rest => (literalString? rest).map fun (s, rest) => (String.ofList s, rest)
  | _ =>
    match cs.takeWhile isBareKeyChar with
    | [] => none
    | bare => some (String.ofList bare, cs.drop bare.length)

/-- So many keys at most with points between them: those on the way, and the last one. -/
def keyParts? : Nat → List Char → Option (List String × String × List Char)
  | 0, _ => none
  | room + 1, cs =>
    (simpleKey? (skipBlank cs)).bind fun (key, rest) =>
      match skipBlank rest with
      | '.' :: tail =>
        (keyParts? room tail).map fun (way, last, rest) => (key :: way, last, rest)
      | rest => some ([], key, rest)

/-- A key, dotted or not. -/
def dottedKey? (cs : List Char) : Option (List String × String × List Char) :=
  keyParts? maxNesting cs

/-! ## Numbers and times -/

/-- Digits of some kind with single underscores between them. -/
def digitGroups? (isDigit : Char → Bool) : List Char → Piece
  | [] => none
  | c :: rest =>
    if isDigit c then
      let rec more : List Char → List Char × List Char
        | [] => ([], [])
        | '_' :: c :: rest =>
          if isDigit c then
            let (ds, rest) := more rest
            (c :: ds, rest)
          else ([], '_' :: c :: rest)
        | c :: rest =>
          if isDigit c then
            let (ds, rest) := more rest
            (c :: ds, rest)
          else ([], c :: rest)
      let (ds, rest) := more rest
      some (c :: ds, rest)
    else none

def boundedInteger? (i : Int) : Option Toml :=
  (Text.int64? i).map .integer

/-- Digits in some base after its mark. -/
def basedInteger? (base : Nat) (isDigit : Char → Bool) (cs : List Char) :
    Option (Toml × List Char) :=
  (digitGroups? isDigit cs).bind fun (digits, rest) =>
    let n := digits.foldl (fun n c => n * base + (Text.hexValue? c).getD 0) 0
    (boundedInteger? n).map (·, rest)

/-- The fraction and the exponent of a float, as far as they are there. -/
def floatTail? (cs : List Char) : Option (List Char × Int × List Char) := do
  let (fraction, rest) ← match cs with
    | '.' :: tail => digitGroups? Char.isDigit tail
    | _ => some ([], cs)
  match rest with
  | 'e' :: tail | 'E' :: tail =>
    let (sign, tail) : Int × List Char := match tail with
      | '-' :: tail => (-1, tail)
      | '+' :: tail => (1, tail)
      | _ => (1, tail)
    let (digits, rest) ← digitGroups? Char.isDigit tail
    return (fraction, sign * Text.digitsValue digits, rest)
  | _ => return (fraction, 0, rest)

/-- A decimal number after its sign; a positive float may not be too large. -/
def decimalNumber? (negative : Bool) (cs : List Char) : Option (Toml × List Char) := do
  let (digits, rest) ← match cs with
    | '0' :: rest => some (['0'], rest)
    | _ => digitGroups? Char.isDigit cs
  match rest with
  | '.' :: _ | 'e' :: _ | 'E' :: _ =>
    let (fraction, exponent, rest) ← floatTail? rest
    let x :=
      Decimal.nearestFloat (Text.digitsValue (digits ++ fraction)) (exponent - fraction.length)
    if x.isInf && !negative then none else return (.float, rest)
  | _ =>
    let n : Int := Text.digitsValue digits
    (boundedInteger? (if negative then -n else n)).map (·, rest)

def word? (word : String) (cs : List Char) : Option (List Char) :=
  if word.toList.isPrefixOf cs then some (cs.drop word.length) else none

/-- An infinity or NaN after its sign. -/
def specialFloat? (cs : List Char) : Option (Toml × List Char) :=
  ((word? "inf" cs).or (word? "nan" cs)).map (.float, ·)

def number? (cs : List Char) : Option (Toml × List Char) :=
  match cs with
  | '0' :: 'x' :: rest => basedInteger? 16 (fun c => (Text.hexValue? c).isSome) rest
  | '0' :: 'o' :: rest => basedInteger? 8 (fun c => '0' ≤ c && c ≤ '7') rest
  | '0' :: 'b' :: rest => basedInteger? 2 (fun c => c == '0' || c == '1') rest
  | '-' :: rest => (specialFloat? rest).or (decimalNumber? true rest)
  | '+' :: rest => (specialFloat? rest).or (decimalNumber? false rest)
  | _ => (specialFloat? cs).or (decimalNumber? false cs)

/-- A number of so many digits within bounds. -/
def fixedDigits? (count low high : Nat) (cs : List Char) : Option (Nat × List Char) :=
  let digits := cs.take count
  let n := Text.digitsValue digits
  if digits.length = count ∧ digits.all Char.isDigit ∧ low ≤ n ∧ n ≤ high then
    some (n, cs.drop count)
  else none

def char? (c : Char) : List Char → Option (List Char)
  | d :: rest => if d = c then some rest else none
  | [] => none

def daysIn (year month : Nat) : Nat :=
  if month = 2 then
    if year % 4 = 0 ∧ (year % 100 ≠ 0 ∨ year % 400 = 0) then 29 else 28
  else if [4, 6, 9, 11].contains month then 30
  else 31

def date? (cs : List Char) : Option (List Char) := do
  let (year, cs) ← fixedDigits? 4 0 9999 cs
  let cs ← char? '-' cs
  let (month, cs) ← fixedDigits? 2 1 12 cs
  let cs ← char? '-' cs
  let (day, cs) ← fixedDigits? 2 1 31 cs
  if day ≤ daysIn year month then return cs else none

def timeOfDay? (cs : List Char) : Option (List Char) := do
  let (_, cs) ← fixedDigits? 2 0 23 cs
  let cs ← char? ':' cs
  let (_, cs) ← fixedDigits? 2 0 59 cs
  let cs ← char? ':' cs
  let (_, cs) ← fixedDigits? 2 0 60 cs
  match cs with
  | '.' :: tail =>
    if (tail.takeWhile Char.isDigit).isEmpty then return cs else return tail.dropWhile Char.isDigit
  | _ => return cs

def offset? (cs : List Char) : Option (List Char) :=
  match cs with
  | 'Z' :: rest | 'z' :: rest => some rest
  | '+' :: rest | '-' :: rest => do
    let (_, cs) ← fixedDigits? 2 0 23 rest
    let cs ← char? ':' cs
    let (_, cs) ← fixedDigits? 2 0 59 cs
    return cs
  | _ => none

/-- A date, a time of day, or both with or without an offset. -/
def time? (cs : List Char) : Option (List Char) :=
  match date? cs with
  | none => timeOfDay? cs
  | some rest =>
    let time := match rest with
      | 'T' :: tail | 't' :: tail | ' ' :: tail => timeOfDay? tail
      | _ => none
    match time with
    | none => some rest
    | some rest => some ((offset? rest).getD rest)

/-! ## Values -/

mutual

/-- A value in which so many brackets and braces may be opened. -/
def value? : Nat → Nat → List Char → Option (Toml × List Char)
  | 0, _, _ => none
  | fuel + 1, room, cs =>
    match cs, room with
    | [], _ => none
    | '"' :: _, _ | '\'' :: _, _ =>
      (stringValue? cs).map fun (s, rest) => (.string (String.ofList s), rest)
    | '[' :: _, 0 | '{' :: _, 0 => none
    | '[' :: rest, room + 1 =>
      (items? fuel room rest).map fun (items, rest) => (.array items, rest)
    | '{' :: rest, room + 1 =>
      match skipBlank rest with
      | '}' :: rest => some (.table .inBraces [], rest)
      | rest =>
        (inlineEntries? fuel room rest []).map fun (es, rest) => (.table .inBraces es, rest)
    | 't' :: _, _ => (word? "true" cs).map (.boolean true, ·)
    | 'f' :: _, _ => (word? "false" cs).map (.boolean false, ·)
    | _, _ =>
      match time? cs with
      | some rest => some (.time, rest)
      | none => number? cs

/-- The items of an array up to its closing bracket; a comma may follow the last. -/
def items? : Nat → Nat → List Char → Option (List Toml × List Char)
  | 0, _, _ => none
  | fuel + 1, room, cs =>
    match skipLines cs.length cs with
    | ']' :: rest => some ([], rest)
    | cs =>
      (value? fuel room cs).bind fun (item, rest) =>
        match skipLines rest.length rest with
        | ',' :: rest => (items? fuel room rest).map fun (items, rest) => (item :: items, rest)
        | ']' :: rest => some ([item], rest)
        | _ => none

/-- The entries of a table in braces, added to those before. -/
def inlineEntries? : Nat → Nat → List Char → Entries → Option (Entries × List Char)
  | 0, _, _, _ => none
  | fuel + 1, room, cs, before =>
    (dottedKey? cs).bind fun (way, key, rest) =>
      (char? '=' rest).bind fun rest =>
        (value? fuel room (skipBlank rest)).bind fun (value, rest) =>
          (insertDotted way key value before).bind fun entries =>
            match skipBlank rest with
            | ',' :: rest => inlineEntries? fuel room rest entries
            | '}' :: rest => some (entries, rest)
            | _ => none

end

/-! ## Documents -/

/-- A header between its brackets: the way to the table and its key. -/
def header? (close : List Char) (cs : List Char) : Option (List String × String × List Char) :=
  (dottedKey? cs).bind fun (way, key, rest) =>
    if close.isPrefixOf rest then
      (endOfLine? (rest.drop close.length)).map fun rest => (way, key, rest)
    else none

/-- Reads line by line. `current` is the way to the open table. -/
def lines? : Nat → List Char → List String → Entries → Option Entries
  | 0, _, _, _ => none
  | fuel + 1, cs, current, entries =>
    match skipLines cs.length cs with
    | [] => some entries
    | '[' :: '[' :: rest =>
      (header? [']', ']'] rest).bind fun (way, key, rest) =>
        (openRepeated way key entries).bind fun entries =>
          lines? fuel rest (way ++ [key]) entries
    | '[' :: rest =>
      (header? [']'] rest).bind fun (way, key, rest) =>
        (openTable way key entries).bind fun entries =>
          lines? fuel rest (way ++ [key]) entries
    | cs =>
      (dottedKey? cs).bind fun (way, key, rest) =>
        (char? '=' rest).bind fun rest =>
          (value? (2 * rest.length + 2) maxNesting (skipBlank rest)).bind fun (value, rest) =>
            (endOfLine? rest).bind fun rest =>
              (inOpenTable (insertDotted way key value) current entries).bind fun entries =>
                lines? fuel rest current entries

/-- The entries of a document; a byte order mark may stand before it. -/
def parse? (text : String) : Option Entries :=
  let cs := match text.toList with
    | '\uFEFF' :: rest => rest
    | cs => cs
  lines? (cs.length + 1) cs [] []

end PoolConsole.Toml
