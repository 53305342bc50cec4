import PoolConsole.Storage.Path

/-!
A tree of files, as far as it takes to keep a small text in one of them: reading a file, making the
folders above it and writing it. Each fails where what is on its way, or not there, makes it fail. A
file that can be opened is read and written as a whole: a disk that is full or broken is left out. A
path is walked name by name, so that what it passes has to be there, even where it turns back.
-/

namespace PoolConsole

/-- Why a file could not be read or written. -/
inductive FileError where
  | notFound
  | exists
  | notFolder
  | isFolder
  | nameTooLong
  | nulInName
  | notText
  | denied
  deriving DecidableEq, Repr

def FileError.message : FileError → String
  | .notFound => "No such file or directory (os error 2)"
  | .exists => "File exists (os error 17)"
  | .notFolder => "Not a directory (os error 20)"
  | .isFolder => "Is a directory (os error 21)"
  | .nameTooLong => "File name too long (os error 36)"
  | .nulInName => "file name contained an unexpected NUL byte"
  | .notText => "stream did not contain valid UTF-8"
  | .denied => "Permission denied (os error 13)"

inductive FileNode where
  | folder
  /-- A file with the text that it holds, if what it holds is a text. -/
  | file (text : Option String)
  deriving DecidableEq, Repr

/-- The names of the folders above a node and its own, from the root on. -/
abbrev Way := List String

/-- The nodes of a tree, and the folder where a path starts that is not absolute. -/
structure FileTree where
  nodes : List (Way × FileNode) := []
  workingFolder : Way := []
  deriving DecidableEq, Repr, Inhabited

/-- Where a path leads once the folders on it are passed: to one of them, or to a name in the last
one, under which there may or may not be a node. -/
inductive PathEnd where
  | folder (way : Way)
  | entry (folder : Way) (name : String)
  deriving DecidableEq, Repr

namespace FileTree

def maxNameBytes : Nat := 255

def maxPathBytes : Nat := 4095

/-- The node at the end of a way; the root is a folder. -/
def node? (tree : FileTree) (way : Way) : Option FileNode :=
  if way = [] then some .folder else tree.nodes.lookup way

def put (tree : FileTree) (way : Way) (node : FileNode) : FileTree :=
  { tree with nodes := (way, node) :: tree.nodes.filter fun n => n.1 ≠ way }

/-- The node of a name in a folder, if there is one. -/
def entry? (tree : FileTree) (folder : Way) (name : String) :
    Except FileError (Option FileNode) :=
  if maxNameBytes < name.utf8ByteSize then .error .nameTooLong
  else .ok (tree.node? (folder ++ [name]))

/-- Walks from a folder down the names of others. -/
def walk (tree : FileTree) : Way → List String → Except FileError Way
  | here, [] => .ok here
  | here, name :: names =>
    if name = "." then tree.walk here names
    else if name = ".." then tree.walk here.dropLast names
    else
      match tree.entry? here name with
      | .ok (some .folder) => tree.walk (here ++ [name]) names
      | .ok (some (.file _)) => .error .notFolder
      | .ok none => .error .notFound
      | .error e => .error e

/-- Follows a path to its end. -/
def locate (tree : FileTree) (path : String) : Except FileError PathEnd :=
  let start := if Path.isAbsolute path then [] else tree.workingFolder
  let names := Path.names path
  if path.toList.contains (Char.ofNat 0) then .error .nulInName
  else if path = "" then .error .notFound
  else if maxPathBytes < path.utf8ByteSize then .error .nameTooLong
  else
    match names.getLast? with
    | none | some "." | some ".." => (tree.walk start names).map .folder
    | some name => (tree.walk start names.dropLast).map (.entry · name)

def isFolder (tree : FileTree) (path : String) : Bool :=
  match tree.locate path with
  | .ok (.folder _) => true
  | .ok (.entry folder name) => (tree.entry? folder name).toOption = some (some .folder)
  | .error _ => false

/-- The text of a file. -/
def read (tree : FileTree) (path : String) : Except FileError String := do
  match ← tree.locate path with
  | .folder _ => throw .isFolder
  | .entry folder name =>
    match ← tree.entry? folder name with
    | none => throw .notFound
    | some .folder => throw .isFolder
    | some (.file text) =>
      if path.endsWith "/" then throw .notFolder
      else
        match text with
        | some text => return text
        | none => throw .notText

/-- Makes one folder in another. -/
def makeFolder (tree : FileTree) (path : String) : Except FileError FileTree := do
  match ← tree.locate path with
  | .folder _ => throw .exists
  | .entry folder name =>
    match ← tree.entry? folder name with
    | none => return tree.put (folder ++ [name]) .folder
    | some _ => throw .exists

/-- Makes a folder unless it is there. -/
def ensureFolder (tree : FileTree) (path : String) : Except FileError Unit × FileTree :=
  match tree.makeFolder path with
  | .ok tree => (.ok (), tree)
  | .error e => (if tree.isFolder path then .ok () else .error e, tree)

/-- Makes the first of some folders, each of which is in the next one, and those that it needs. -/
def ensureFolders (tree : FileTree) : List String → Except FileError Unit × FileTree
  | [] => (.ok (), tree)
  | path :: above =>
    match tree.ensureFolder path with
    | (.error .notFound, tree) =>
      match tree.ensureFolders above with
      | (.ok (), tree) => tree.ensureFolder path
      | failed => failed
    | done => done

/-- Makes the folders above the end of a path. -/
def ensureParent (tree : FileTree) (path : String) : Except FileError Unit × FileTree :=
  tree.ensureFolders (Path.ancestors ((Path.parent? path).getD ""))

/-- Writes a text to a file in a folder that is there. -/
def write (tree : FileTree) (path text : String) : Except FileError FileTree := do
  match ← tree.locate path with
  | .folder _ => throw .isFolder
  | .entry folder name =>
    if path.endsWith "/" then throw .isFolder
    match ← tree.entry? folder name with
    | some .folder => throw .isFolder
    | _ => return tree.put (folder ++ [name]) (.file (some text))

/-- Makes the folders above a file and writes it. The folders stay when the writing fails. -/
def save (tree : FileTree) (path text : String) : Except FileError Unit × FileTree :=
  match tree.ensureParent path with
  | (.error e, tree) => (.error e, tree)
  | (.ok (), tree) =>
    match tree.write path text with
    | .error e => (.error e, tree)
    | .ok tree => (.ok (), tree)

/-- A tree with a node at the end of a path, and the folders above it. -/
def plant (tree : FileTree) (path : String) (node : FileNode) : FileTree :=
  let (_, tree) := tree.ensureParent path
  match tree.locate path with
  | .ok (.entry folder name) => tree.put (folder ++ [name]) node
  | _ => tree

/-- A tree of which only the working folder is there, and those above it. -/
def startingAt (folder : String) : FileTree :=
  { plant {} folder .folder with workingFolder := Path.names folder }

end FileTree

end PoolConsole
