import PoolConsole.Text.Digits

/-!
Form encoding, in which a query is written after a URL: a blank is a plus, letters, digits and
`*-._` stand for themselves, and any other byte is written with a percent sign and two hexadecimal
digits.
-/

namespace PoolConsole.Http

/-- The characters that stand for themselves. -/
def isFormChar (c : Char) : Bool :=
  c.isAlphanum || c == '*' || c == '-' || c == '.' || c == '_'

def formByte (b : UInt8) : List Char :=
  let c := Char.ofNat b.toNat
  if c = ' ' then ['+']
  else if isFormChar c then [c]
  else '%' :: (Text.hex 2 b.toNat).map Char.toUpper

def formText (s : String) : String :=
  String.ofList (s.toUTF8.data.toList.flatMap formByte)

/-- The query of some pairs; without pairs there is no query. -/
def formQuery (pairs : List (String × String)) : Option String :=
  if pairs.isEmpty then none
  else some ("&".intercalate (pairs.map fun p => formText p.1 ++ "=" ++ formText p.2))

end PoolConsole.Http
