namespace PoolConsole.Text

def padding (width : Nat) (s : String) : String :=
  String.ofList (List.replicate (width - s.length) ' ')

/-- A cell whose text stands at the left. -/
def left (width : Nat) (s : String) : String :=
  s ++ padding width s

/-- A cell whose text stands at the right. -/
def right (width : Nat) (s : String) : String :=
  padding width s ++ s

/-- A line of `width` dashes. -/
def rule (width : Nat) : String :=
  String.ofList (List.replicate width '-')

end PoolConsole.Text
