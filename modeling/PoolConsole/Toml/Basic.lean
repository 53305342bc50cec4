/-!
Values of a TOML document. A table remembers how it came to be, since that decides whether it may
still grow.
-/

namespace PoolConsole

/-- How a table came to be: in braces, by its own header, on the way to another header, or on the
way of a dotted key. -/
inductive TableOrigin where
  | inBraces
  | header
  | implied
  | dotted
  deriving DecidableEq, Repr

inductive Toml where
  | string (s : String)
  | integer (i : Int64)
  | float
  | boolean (b : Bool)
  | time
  | array (items : List Toml)
  | table (origin : TableOrigin) (entries : List (String × Toml))
  /-- The tables of a repeated header, the latest first. -/
  | tables (latestFirst : List (List (String × Toml)))

namespace Toml

instance : Inhabited Toml := ⟨.boolean false⟩

abbrev Entries := List (String × Toml)

/-- Replaces the value of a key or adds it at the end. -/
def put (key : String) (value : Toml) : Entries → Entries
  | [] => [(key, value)]
  | (k, v) :: rest => if k = key then (k, value) :: rest else (k, v) :: put key value rest

/-! ## Growing a document -/

/-- Goes down a way of keys and changes the entries at its end. On the way tables are made where
there are none; what a dotted key may not enter is a table with a header of its own. -/
def alter (dotted : Bool) (change : Bool → Entries → Option Entries) :
    List String → Bool → Entries → Option Entries
  | [], inDotted, entries => change inDotted entries
  | key :: way, _, entries =>
    match entries.lookup key with
    | none => do
      let inner ← alter dotted change way dotted []
      return put key (.table (if dotted then .dotted else .implied) inner) entries
    | some (.table .inBraces _) => none
    | some (.table origin inner) =>
      if dotted && origin == .header then none
      else do
        let inner ← alter dotted change way (origin == .dotted) inner
        return put key (.table origin inner) entries
    | some (.tables (latest :: older)) => do
      let latest ← alter dotted change way false latest
      return put key (.tables (latest :: older)) entries
    | some _ => none

/-- Adds a value under a key that is not taken. -/
def insertNew (key : String) (value : Toml) (entries : Entries) : Option Entries :=
  if (entries.lookup key).isSome then none else some (entries ++ [(key, value)])

/-- Adds the value of a dotted key below the table that is open. -/
def insertDotted (way : List String) (key : String) (value : Toml) (entries : Entries) :
    Option Entries :=
  alter true (fun inDotted entries =>
    if inDotted = way.isEmpty then none else insertNew key value entries) way false entries

/-- Opens the table of a header: a new one, or one that so far is only implied. -/
def openTable (way : List String) (key : String) (entries : Entries) : Option Entries :=
  alter false (fun _ entries =>
    match entries.lookup key with
    | none => some (entries ++ [(key, .table .header [])])
    | some (.table .implied inner) => some (put key (.table .header inner) entries)
    | some _ => none) way false entries

/-- Opens one more table of a repeated header. -/
def openRepeated (way : List String) (key : String) (entries : Entries) : Option Entries :=
  alter false (fun _ entries =>
    match entries.lookup key with
    | none => some (entries ++ [(key, .tables [[]])])
    | some (.tables older) => some (put key (.tables ([] :: older)) entries)
    | some _ => none) way false entries

/-- Changes the entries of the table that the last header opened. -/
def inOpenTable (change : Entries → Option Entries) : List String → Entries → Option Entries
  | [], entries => change entries
  | key :: way, entries =>
    match entries.lookup key with
    | some (.table origin inner) => do
      let inner ← inOpenTable change way inner
      return put key (.table origin inner) entries
    | some (.tables (latest :: older)) => do
      let latest ← inOpenTable change way latest
      return put key (.tables (latest :: older)) entries
    | _ => none

end Toml

end PoolConsole
