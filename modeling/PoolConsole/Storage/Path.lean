import PoolConsole.Text.Blank

/-!
Paths to files: their names, and the paths to the folders above. A path keeps its text, for its
length and a slash at its end count.
-/

namespace PoolConsole.Path

/-- The names in a path in their order, `.` and `..` among them. -/
def names (path : String) : List String :=
  (Text.split '/' path).filter (· ≠ "")

def isAbsolute (path : String) : Bool :=
  path.startsWith "/"

/-- A path that stands below a folder, unless it is absolute. -/
def below (folder path : String) : String :=
  if isAbsolute path then path else folder ++ "/" ++ path

/-- Drops slashes and names `.` from the end of a path that is given in reverse. What stays is the
root, a `.` at the start, or a path that ends in another name. -/
def dropIdle : List Char → List Char
  | [] => []
  | '/' :: rest => if rest.isEmpty then ['/'] else dropIdle rest
  | '.' :: rest =>
    match rest with
    | '/' :: _ => dropIdle rest
    | _ => '.' :: rest
  | c :: rest => c :: rest

/-- The path to the folder above, if there is one; above a lone name it is the empty path. -/
def parent? (path : String) : Option String :=
  match dropIdle path.toList.reverse with
  | [] | ['/'] => none
  | cs => some (String.ofList (dropIdle (cs.dropWhile (· ≠ '/'))).reverse)

/-- A path and the paths to the folders above it, as many as asked for, the nearest first. -/
def ascend : Nat → String → List String
  | 0, _ => []
  | n + 1, path => if path = "" then [] else path :: (parent? path).elim [] (ascend n)

/-- A path and the paths to all folders above it, the nearest first. -/
def ancestors (path : String) : List String :=
  ascend path.length path

end PoolConsole.Path
