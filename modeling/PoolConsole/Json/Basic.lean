namespace PoolConsole

/-- A number is a whole number of 64 bits, a negative integer of 64 bits, or a finite float. -/
inductive Number where
  | unsigned (n : UInt64)
  | negative (n : Int64) (neg : n < 0)
  | float (x : Float) (finite : x.isFinite = true)
  deriving DecidableEq

namespace Number

def ofInt64 (i : Int64) : Number :=
  if h : i < 0 then .negative i h else .unsigned i.toUInt64

/-- A float that is not finite is no number. -/
def ofFloat? (x : Float) : Option Number :=
  if h : x.isFinite = true then some (.float x h) else none

def toFloat : Number → Float
  | .unsigned n => n.toFloat
  | .negative n _ => -(UInt64.ofNat n.toInt.natAbs).toFloat
  | .float x _ => x

/-- The value as an integer of 64 bits with a sign; a float has none. -/
def toInt64? : Number → Option Int64
  | .unsigned n => if n.toNat < 9223372036854775808 then some n.toInt64 else none
  | .negative n _ => some n
  | .float _ _ => none

/-- The value as a whole number of 64 bits; a float has none. -/
def toUInt64? : Number → Option UInt64
  | .unsigned n => some n
  | _ => none

end Number

inductive Json where
  | null
  | bool (b : Bool)
  | number (n : Number)
  | string (s : String)
  | array (items : List Json)
  | object (members : List (String × Json))

namespace Json

instance : Inhabited Json := ⟨.null⟩

/-- Sets a member: a key that is there keeps its place, a new one comes last. -/
def put (key : String) (value : Json) : List (String × Json) → List (String × Json)
  | [] => [(key, value)]
  | (k, v) :: rest => if k = key then (k, value) :: rest else (k, v) :: put key value rest

/-- The member of an object; no other value has members. -/
def get? (key : String) : Json → Option Json
  | .object members => members.lookup key
  | _ => none

theorem get?_eq_some_iff {key : String} {j value : Json} :
    j.get? key = some value ↔
      ∃ members, j = .object members ∧ members.lookup key = some value := by
  cases j with
  | object members => simp [get?]
  | null | bool | number | string | array => simp [get?]

def asString? : Json → Option String
  | .string s => some s
  | _ => none

def asArray? : Json → Option (List Json)
  | .array items => some items
  | _ => none

def asObject? : Json → Option (List (String × Json))
  | .object members => some members
  | _ => none

def isNull : Json → Bool
  | .null => true
  | _ => false

/-- An object or an array. -/
def isNested : Json → Bool
  | .array _ | .object _ => true
  | _ => false

def ofStrings (items : List String) : Json :=
  .array (items.map .string)

/-- A text, or null where there is none. -/
def ofText? (s : Option String) : Json :=
  s.elim .null .string

end Json

end PoolConsole
