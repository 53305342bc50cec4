import PoolConsole.Decimal.Shortest
import PoolConsole.Text.Digits

/-!
How a decimal is laid out as text: the decisions of a format as one record, and the text that
follows from them.
-/

namespace PoolConsole

structure FloatLayout where
  /-- Whether a number `d.ddd · 10 ^ x` is written without an exponent. -/
  positional : Int → Bool
  /-- What follows a number that is written without an exponent and has no fraction. -/
  wholeSuffix : String
  tie : TieRule

namespace FloatLayout

def zeros (n : Nat) : List Char :=
  List.replicate n '0'

def exponentText (x : Int) : List Char :=
  'e' :: (if x < 0 then '-' else '+') :: Nat.toDigits 10 x.natAbs

def positionalText (layout : FloatLayout) (digits : List Char) (exponent : Int) : List Char :=
  let point := digits.length + exponent
  if 0 ≤ exponent then digits ++ zeros exponent.toNat ++ layout.wholeSuffix.toList
  else if 0 < point then digits.take point.toNat ++ '.' :: digits.drop point.toNat
  else '0' :: '.' :: zeros (-point).toNat ++ digits

def scientificText (digits : List Char) (x : Int) : List Char :=
  match digits with
  | [] => []
  | [d] => d :: exponentText x
  | d :: ds => d :: '.' :: ds ++ exponentText x

/-- The text of a decimal that is not zero. -/
def decimalText (layout : FloatLayout) (d : Decimal) : List Char :=
  let digits := Nat.toDigits 10 d.digits
  let x := d.exponent + digits.length - 1
  if layout.positional x then layout.positionalText digits d.exponent else scientificText digits x

def chars (layout : FloatLayout) : Binary64 → List Char
  | .nan => "NaN".toList
  | .infinite negative => if negative then "-inf".toList else "inf".toList
  | .finite negative m e =>
    let sign := if negative then ['-'] else []
    if m = 0 then sign ++ '0' :: layout.wholeSuffix.toList
    else sign ++ layout.decimalText (.shortest layout.tie m e)

def text (layout : FloatLayout) (x : Float) : String :=
  String.ofList (layout.chars (.ofFloat x))

/-- Numbers for a reader: never an exponent, and no fraction where there is none. -/
def plain : FloatLayout where
  positional _ := true
  wholeSuffix := ""
  tie := .up

/-- Numbers of a JSON text: a fraction or an exponent always, the exponent from `10 ^ 16` up and
below `10 ^ -5`. -/
def json : FloatLayout where
  positional x := -5 ≤ x && x < 16
  wholeSuffix := ".0"
  tie := .toEven

end FloatLayout

end PoolConsole
