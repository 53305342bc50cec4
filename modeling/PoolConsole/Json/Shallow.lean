import PoolConsole.Json.Parser

/-!
Reading some members of an object straight from its text. The other members are passed over: they
must be well formed, but their numbers may be of any size, their escapes may name halves of pairs,
and they may be nested to any depth.
-/

namespace PoolConsole.Json

/-- The rest of the text after a string whose opening quote has been read. -/
def passString? : List Char → Option (List Char)
  | [] => none
  | '"' :: rest => some rest
  | ['\\'] => none
  | '\\' :: 'u' :: a :: b :: c :: d :: rest =>
    if [a, b, c, d].all fun x => (Text.hexValue? x).isSome then passString? rest else none
  | '\\' :: c :: rest =>
    if ['"', '\\', '/', 'b', 'f', 'n', 'r', 't'].contains c then passString? rest else none
  | c :: rest => if c.toNat < 0x20 then none else passString? rest

def passDigits? (cs : List Char) : Option (List Char) :=
  match cs.takeWhile Char.isDigit with
  | [] => none
  | _ => some (cs.dropWhile Char.isDigit)

/-- The rest of the text after a number. -/
def passNumber? (cs : List Char) : Option (List Char) := do
  let (_, rest) ← wholePart? (match cs with
    | '-' :: rest => rest
    | _ => cs)
  let rest ← match rest with
    | '.' :: tail => passDigits? tail
    | _ => some rest
  match rest with
  | 'e' :: tail | 'E' :: tail => (exponentPart? tail).map Prod.snd
  | _ => some rest

mutual

/-- The rest of the text after a value. -/
def passValue? : Nat → List Char → Option (List Char)
  | 0, _ => none
  | fuel + 1, cs =>
    match skipSpace cs with
    | [] => none
    | '"' :: rest => passString? rest
    | '[' :: rest =>
      match skipSpace rest with
      | ']' :: rest => some rest
      | rest => passItems? fuel rest
    | '{' :: rest =>
      match skipSpace rest with
      | '}' :: rest => some rest
      | rest => passMembers? fuel rest
    | 'n' :: rest => word? "ull".toList rest
    | 't' :: rest => word? "rue".toList rest
    | 'f' :: rest => word? "alse".toList rest
    | cs => passNumber? cs

def passItems? : Nat → List Char → Option (List Char)
  | 0, _ => none
  | fuel + 1, cs =>
    (passValue? fuel cs).bind fun rest =>
      match skipSpace rest with
      | ',' :: rest => passItems? fuel rest
      | ']' :: rest => some rest
      | _ => none

def passMembers? : Nat → List Char → Option (List Char)
  | 0, _ => none
  | fuel + 1, cs =>
    match skipSpace cs with
    | '"' :: rest =>
      (passString? rest).bind fun rest =>
        match skipSpace rest with
        | ':' :: rest =>
          (passValue? fuel rest).bind fun rest =>
            match skipSpace rest with
            | ',' :: rest => passMembers? fuel rest
            | '}' :: rest => some rest
            | _ => none
        | _ => none
    | _ => none

end

/-- The known members up to the closing brace. None of them may come twice. -/
def knownMembers? (known : List String) :
    Nat → List Char → List (String × Json) → Option (List (String × Json) × List Char)
  | 0, _, _ => none
  | fuel + 1, cs, before =>
    match skipSpace cs with
    | '"' :: rest =>
      (string? rest).bind fun (key, rest) =>
        match skipSpace rest with
        | ':' :: rest =>
          let member : Option (List (String × Json) × List Char) :=
            if known.contains key then
              if (before.lookup key).isSome then none
              else
                (value? fuel (maxDepth - 1) rest).map fun (v, rest) => (before ++ [(key, v)], rest)
            else (passValue? fuel rest).map fun rest => (before, rest)
          member.bind fun (members, rest) =>
            match skipSpace rest with
            | ',' :: rest => knownMembers? known fuel rest members
            | '}' :: rest => some (members, rest)
            | _ => none
        | _ => none
    | _ => none

/-- The record that a text is: an object of which only the known members are read, or an array. -/
def shallowRecord? (known : List String) (text : String) : Option Json :=
  let cs := text.toList
  match skipSpace cs with
  | '{' :: rest =>
    match skipSpace rest with
    | '}' :: rest => if (skipSpace rest).isEmpty then some (.object []) else none
    | rest =>
      (knownMembers? known (2 * cs.length + 2) rest []).bind fun (members, rest) =>
        if (skipSpace rest).isEmpty then some (.object members) else none
  | _ => parse? text

end PoolConsole.Json
