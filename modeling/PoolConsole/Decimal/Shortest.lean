import PoolConsole.Decimal.Binary64

/-!
The shortest decimal that reads back as a given float: the coarsest decimal grid with a point among
the reals that round to the float, and on it the point nearest to the float.
-/

namespace PoolConsole

/-- The decimal `digits · 10 ^ exponent`. -/
structure Decimal where
  digits : Nat
  exponent : Int
  deriving DecidableEq, Repr

/-- Which of two equally near decimals is taken. -/
inductive TieRule where
  | toEven
  | up
  deriving DecidableEq, Repr

namespace Decimal

/-- The reals that round to `m · 2 ^ e`, in quarters of `2 ^ e`: the ends belong to them iff `m` is
even, and below a power of two the next float is only half as far away. -/
structure Neighbourhood where
  low : Nat
  value : Nat
  high : Nat
  closed : Bool
  scale : Int

def Neighbourhood.of (m : Nat) (e : Int) : Neighbourhood where
  low := if m = Binary64.hiddenBit ∧ Binary64.minExponent < e then 4 * m - 1 else 4 * m - 2
  value := 4 * m
  high := 4 * m + 2
  closed := m % 2 == 0
  scale := e - 2

/-- The factor `b ^ k` for the exponents `k` that are not negative, and else one. -/
def power (b : Nat) (k : Int) : Nat :=
  Nat.pow b k.toNat

/-- The point of the grid of step `10 ^ p` that lies in the neighbourhood and is nearest to its
value, if there is one. -/
def Neighbourhood.gridPoint? (n : Neighbourhood) (tie : TieRule) (p : Int) : Option Nat :=
  let step := power 10 p * power 2 (-n.scale)
  let unit := power 10 (-p) * power 2 n.scale
  let inside (c : Nat) : Bool :=
    if n.closed then n.low * unit ≤ c * step && c * step ≤ n.high * unit
    else n.low * unit < c * step && c * step < n.high * unit
  let below := n.value * unit / step
  let remainder := n.value * unit % step
  match inside below, inside (below + 1) with
  | true, false => some below
  | false, true => some (below + 1)
  | false, false => none
  | true, true =>
    if 2 * remainder < step then some below
    else if step < 2 * remainder then some (below + 1)
    else match tie with
      | .up => some (below + 1)
      | .toEven => some (if below % 2 = 0 then below else below + 1)

/-- Tries the grids of step `10 ^ p`, `10 ^ (p - 1)`, and so on. -/
def search (n : Neighbourhood) (tie : TieRule) : Nat → Int → Decimal
  | 0, p => ⟨n.value * power 2 n.scale * power 10 (-p) / (power 10 p * power 2 (-n.scale)), p⟩
  | fuel + 1, p =>
    match n.gridPoint? tie p with
    | some c => ⟨c, p⟩
    | none => search n tie fuel (p - 1)

/-- The shortest decimal that reads back as `m · 2 ^ e`, for `m` between one and `2 ^ 53`. The
first grid tried is coarser than the number, and seventeen digits always suffice. -/
def shortest (tie : TieRule) (m : Nat) (e : Int) : Decimal :=
  search (.of m e) tie 24 ((Nat.log2 m + 1 + e) * 30103 / 100000 + 2)

end Decimal

end PoolConsole
