import PoolConsole.Decimal.Reader
import PoolConsole.Decimal.Rounding
import PoolConsole.Json.Record
import PoolConsole.Text.Blank

namespace PoolConsole

namespace Quantity

/-- A number is itself, a text the number that it holds, true is one; anything else is zero. -/
def ofJson : Json → Float
  | .number n => n.toFloat
  | .string s => (Decimal.float? (Text.trimChars s.toList)).getD 0
  | .bool b => if b then 1 else 0
  | _ => 0

/-- Two decimal places, a half away from zero. -/
def round2 (x : Float) : Float :=
  Decimal.round (x * 100) / 100

/-- Null, or an object of quantities. -/
def mapOfJson? (j : Json) : Option (KeyMap Float) :=
  Json.nullOr? ∅ (Json.asKeyMap? fun q => some (ofJson q)) j

end Quantity

/-- How much of something is free, and how much there is. -/
structure Gauge where
  online : Float
  total : Float
  deriving DecidableEq

namespace Gauge

/-- The share in use in percent, between 0 and 100; zero where the total is no positive finite
number. -/
def fillPercent (g : Gauge) : Float :=
  if g.total ≤ 0 || !g.total.isFinite then 0
  else
    let used := (g.total - g.online) / g.total * 100
    if used.isNaN then 0
    else if used < 0 then 0
    else if 100 < used then 100
    else used

/-- The amount in use, never below zero. -/
def used (g : Gauge) : Float :=
  let difference := g.total - g.online
  if 0 < difference then difference else 0

end Gauge

end PoolConsole
