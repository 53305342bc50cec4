import PoolConsole.Json.Basic
import PoolConsole.Decimal.Layout

/-!
The text of a JSON value: compact, or spread over lines with an indentation of two blanks. Only the
quote, the backslash and the control characters are escaped.
-/

namespace PoolConsole.Json

/-- A character inside quotes. -/
def escape (c : Char) : List Char :=
  if c = '"' then ['\\', '"']
  else if c = '\\' then ['\\', '\\']
  else if 0x20 ≤ c.toNat then [c]
  else if c = '\n' then ['\\', 'n']
  else if c = '\r' then ['\\', 'r']
  else if c = '\t' then ['\\', 't']
  else if c.toNat = 8 then ['\\', 'b']
  else if c.toNat = 12 then ['\\', 'f']
  else '\\' :: 'u' :: Text.hex 4 c.toNat

def quoted (s : String) : List Char :=
  '"' :: s.toList.flatMap escape ++ ['"']

def numberChars : Number → List Char
  | .unsigned n => Nat.toDigits 10 n.toNat
  | .negative n _ => '-' :: Nat.toDigits 10 n.toInt.natAbs
  | .float x _ => FloatLayout.json.chars (.ofFloat x)

def scalarChars : Json → List Char
  | .null => "null".toList
  | .bool true => "true".toList
  | .bool false => "false".toList
  | .number n => numberChars n
  | .string s => quoted s
  | .array _ => "[]".toList
  | .object _ => "\x7b\x7d".toList

mutual

def compactChars : Json → List Char
  | .array items => '[' :: compactItems items ++ [']']
  | .object members => '{' :: compactMembers members ++ ['}']
  | j => scalarChars j

def compactItems : List Json → List Char
  | [] => []
  | [j] => compactChars j
  | j :: rest => compactChars j ++ ',' :: compactItems rest

def compactMembers : List (String × Json) → List Char
  | [] => []
  | [(k, j)] => quoted k ++ ':' :: compactChars j
  | (k, j) :: rest => quoted k ++ ':' :: compactChars j ++ ',' :: compactMembers rest

end

/-- The start of a line at a depth of nesting. -/
def lineStart (depth : Nat) : List Char :=
  '\n' :: List.replicate (2 * depth) ' '

mutual

def prettyChars (depth : Nat) : Json → List Char
  | .array (j :: rest) => '[' :: prettyItems (depth + 1) (j :: rest) ++ lineStart depth ++ [']']
  | .object (m :: rest) =>
    '{' :: prettyMembers (depth + 1) (m :: rest) ++ lineStart depth ++ ['}']
  | j => scalarChars j

def prettyItems (depth : Nat) : List Json → List Char
  | [] => []
  | [j] => lineStart depth ++ prettyChars depth j
  | j :: rest => lineStart depth ++ prettyChars depth j ++ ',' :: prettyItems depth rest

def prettyMembers (depth : Nat) : List (String × Json) → List Char
  | [] => []
  | [(k, j)] => lineStart depth ++ quoted k ++ ':' :: ' ' :: prettyChars depth j
  | (k, j) :: rest =>
    lineStart depth ++ quoted k ++ ':' :: ' ' :: prettyChars depth j ++
      ',' :: prettyMembers depth rest

end

/-- The text without blanks. -/
def compact (j : Json) : String :=
  String.ofList (compactChars j)

/-- The text over lines. -/
def pretty (j : Json) : String :=
  String.ofList (prettyChars 0 j)

/-- A string as it is, and any other value as its compact text. -/
def plainText : Json → String
  | .string s => s
  | j => j.compact

end PoolConsole.Json
