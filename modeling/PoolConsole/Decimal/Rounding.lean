import PoolConsole.Decimal.Binary64
import PoolConsole.Text.Digits

namespace PoolConsole.Decimal

/-- The quotient `m / 2 ^ k` rounded to a whole number, a half away from zero. -/
def halfAway (m k : Nat) : Nat :=
  let unit := Nat.pow 2 k
  m / unit + if unit ≤ 2 * (m % unit) then 1 else 0

/-- The quotient `m / 2 ^ k` rounded to a whole number, a half to the even neighbour. -/
def halfEven (m k : Nat) : Nat :=
  let unit := Nat.pow 2 k
  let q := m / unit
  let r := 2 * (m % unit)
  q + if unit < r ∨ (r = unit ∧ q % 2 = 1) then 1 else 0

/-- The nearest whole number, a half away from zero; the sign is kept, also that of a zero. -/
def round (x : Float) : Float :=
  match Binary64.ofFloat x with
  | .finite negative m e =>
    if 0 ≤ e then x
    else
      let y := (UInt64.ofNat (halfAway m e.natAbs)).toFloat
      if negative then -y else y
  | _ => x

/-- The text of a float without decimal places, a half to the even neighbour. -/
def wholeText (x : Float) : String :=
  match Binary64.ofFloat x with
  | .nan => "NaN"
  | .infinite negative => if negative then "-inf" else "inf"
  | .finite negative m e =>
    let n := if 0 ≤ e then m * Nat.pow 2 e.toNat else halfEven m e.natAbs
    (if negative then "-" else "") ++ Text.natural n

end PoolConsole.Decimal
