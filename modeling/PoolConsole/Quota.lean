import PoolConsole.Decimal.Rounding
import PoolConsole.Json.Record
import PoolConsole.Text.Blank
import PoolConsole.Text.Digits

/-!
The quota of a namespace: how much of a resource is used and how much is allowed, reduced from a
listing whose numbers may be texts with a unit.
-/

namespace PoolConsole

namespace Quantity

/-- A number cut to a whole number of 64 bits; negative ones are zero. -/
def floor (n : Number) : UInt64 :=
  match n.toUInt64? with
  | some u => u
  | none =>
    let x := n.toFloat
    if 0 < x then x.toUInt64 else 0

/-- The value of a run of digits, zero where there is none or it does not fit. -/
def boundedDigits (digits : List Char) : UInt64 :=
  (Text.unsigned? digits).getD 0

/-- The number that a text starts with, blanks at its start apart. -/
def leading : Option Json → UInt64
  | some (.number n) => floor n
  | some (.string s) => boundedDigits ((Text.trimChars s.toList).takeWhile Char.isDigit)
  | _ => 0

/-- The number that all digits of a text make up. -/
def digitsOnly : Option Json → UInt64
  | some (.number n) => floor n
  | some (.string s) => boundedDigits (s.toList.filter Char.isDigit)
  | _ => 0

end Quantity

structure QuotaMeter where
  used : UInt64 := 0
  max : UInt64 := 0
  deriving DecidableEq, Repr, Inhabited

/-- The share used, in whole percent and at most 100; zero where nothing is allowed. -/
def QuotaMeter.percent (m : QuotaMeter) : Nat :=
  if m.max = 0 then 0
  else min 100 (Decimal.round (m.used.toFloat / m.max.toFloat * 100)).toUInt64.toNat

structure Quota where
  cpu : QuotaMeter := {}
  gpu : QuotaMeter := {}
  memory : QuotaMeter := {}
  deriving DecidableEq, Repr, Inhabited

namespace Quota

def cpuKey : String := "limits.cpu"
def gpuKey : String := "limits.nvidia.com/gpu"
def memoryKey : String := "limits.memory"

/-- The quota that the first entry of a listing states; anything else is no quota. -/
def ofListing? : Json → Option Quota
  | .array (first :: _) =>
    let side (name : String) (key : String) : Option Json :=
      ((first.get? "status").bind (Json.get? name)).bind (Json.get? key)
    let meter (reduce : Option Json → UInt64) (key : String) : QuotaMeter :=
      { used := reduce (side "used" key), max := reduce (side "hard" key) }
    some {
      cpu := meter Quantity.leading cpuKey
      gpu := meter Quantity.leading gpuKey
      memory := meter Quantity.digitsOnly memoryKey }
  | _ => none

end Quota

/-- New limits for a namespace; those not given stay as they are. -/
structure QuotaLimits where
  cpu : Option String := none
  gpu : Option String := none
  memory : Option String := none
  deriving DecidableEq, Repr

namespace QuotaLimits

def toKeyMap (l : QuotaLimits) : KeyMap String :=
  .ofList ([(Quota.cpuKey, l.cpu), (Quota.gpuKey, l.gpu), (Quota.memoryKey, l.memory)].filterMap
    fun e => e.2.map (e.1, ·))

def isEmpty (l : QuotaLimits) : Bool :=
  l.cpu.isNone && l.gpu.isNone && l.memory.isNone

end QuotaLimits

end PoolConsole
