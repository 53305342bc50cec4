namespace PoolConsole.Text

/-- The decimal text of a whole number, without leading zeros. -/
def natural (n : Nat) : String :=
  String.ofList (Nat.toDigits 10 n)

/-- The decimal text of an integer, with a minus sign where it is negative. -/
def integer (i : Int) : String :=
  if i < 0 then "-" ++ natural i.natAbs else natural i.natAbs

/-- The value of a run of decimal digits. -/
def digitsValue (cs : List Char) : Nat :=
  Nat.ofDigitChars 10 cs 0

/-- One or more decimal digits and nothing else. -/
def digitRun? (cs : List Char) : Option Nat :=
  if cs ≠ [] ∧ cs.all Char.isDigit then some (digitsValue cs) else none

/-- A whole number of at most 64 bits: digits, which a plus sign may precede. -/
def unsigned? (cs : List Char) : Option UInt64 :=
  let digits := match cs with
    | '+' :: rest => rest
    | _ => cs
  (digitRun? digits).bind fun n => if n < UInt64.size then some (UInt64.ofNat n) else none

/-- An integer as one of 64 bits, where it fits. -/
def int64? (n : Int) : Option Int64 :=
  if -9223372036854775808 ≤ n ∧ n < 9223372036854775808 then some (Int64.ofInt n) else none

/-- An integer of 64 bits with its sign: digits, which one sign may precede. -/
def signed? (cs : List Char) : Option Int64 :=
  let read (sign : Int) (digits : List Char) : Option Int64 :=
    (digitRun? digits).bind fun n => int64? (sign * n)
  match cs with
  | '-' :: rest => read (-1) rest
  | '+' :: rest => read 1 rest
  | _ => read 1 cs

/-- The value of a hexadecimal digit of either case. -/
def hexValue? (c : Char) : Option Nat :=
  if '0' ≤ c ∧ c ≤ '9' then some (c.toNat - 48)
  else if 'a' ≤ c ∧ c ≤ 'f' then some (c.toNat - 87)
  else if 'A' ≤ c ∧ c ≤ 'F' then some (c.toNat - 55)
  else none

/-- Hexadecimal text of exactly `width` digits. -/
def hex (width : Nat) (n : Nat) : List Char :=
  match width with
  | 0 => []
  | w + 1 => hex w (n / 16) ++ [Nat.digitChar (n % 16)]

end PoolConsole.Text
