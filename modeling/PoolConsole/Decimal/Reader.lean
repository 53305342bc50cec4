import PoolConsole.Text.Digits

namespace PoolConsole.Decimal

def foldCase (cs : List Char) : List Char :=
  cs.map Char.toLower

/-- The float nearest to `digits · 10 ^ exponent`; beyond the range it is infinite or zero. -/
def nearestFloat (digits : Nat) (exponent : Int) : Float :=
  let magnitude := (Nat.toDigits 10 digits).length + exponent
  if digits = 0 ∨ magnitude < -330 then 0
  else if 310 < magnitude then 1 / 0
  else if exponent < 0 then Float.ofScientific digits true exponent.natAbs
  else Float.ofScientific digits false exponent.natAbs

/-- An exponent: an optional sign and digits. -/
def exponent? (cs : List Char) : Option Int :=
  match cs with
  | '-' :: rest => (Text.digitRun? rest).map fun n => -(n : Int)
  | '+' :: rest => (Text.digitRun? rest).map Int.ofNat
  | _ => (Text.digitRun? cs).map Int.ofNat

/-- Digits with at most one point and at least one digit, then an optional exponent. -/
def magnitude? (cs : List Char) : Option Float :=
  let whole := cs.takeWhile Char.isDigit
  let rest := cs.dropWhile Char.isDigit
  let (fraction, rest) := match rest with
    | '.' :: tail => (tail.takeWhile Char.isDigit, tail.dropWhile Char.isDigit)
    | _ => ([], rest)
  let digits := whole ++ fraction
  let exponent := match rest with
    | [] => some 0
    | c :: tail => if c = 'e' ∨ c = 'E' then exponent? tail else none
  match digits, exponent with
  | [], _ => none
  | _, none => none
  | _, some e => some (nearestFloat (Text.digitsValue digits) (e - fraction.length))

/-- A number, an infinity or NaN, which one sign may precede; the words in any case. -/
def float? (cs : List Char) : Option Float :=
  let (negative, body) := match cs with
    | '-' :: rest => (true, rest)
    | '+' :: rest => (false, rest)
    | _ => (false, cs)
  let word := String.ofList (foldCase body)
  let magnitude :=
    if word = "inf" ∨ word = "infinity" then some (1 / 0)
    else if word = "nan" then some (0 / 0)
    else magnitude? body
  magnitude.map fun x => if negative then -x else x

end PoolConsole.Decimal
