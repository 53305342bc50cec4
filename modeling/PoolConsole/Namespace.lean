/-!
The namespace filter that the views share. Nothing that depends on it is fetched until it is
resolved: by itself at most once, and from then on by explicit selection only.
-/

namespace PoolConsole

inductive Scope where
  | pending
  | all
  | only (space : String)
  deriving DecidableEq, Repr, Inhabited

namespace Scope

def display : Scope → String
  | .pending => "(pending)"
  | .all => "all"
  | .only space => space

def isInitialized : Scope → Bool
  | .pending => false
  | _ => true

/-- What to fetch: nothing yet, everything, or one namespace. -/
def toFetch : Scope → Option (Option String)
  | .pending => none
  | .all => some none
  | .only space => some (some space)

/-- The namespace that a new job is forced into. -/
def forced : Scope → Option String
  | .only space => some space
  | _ => none

def admits : Scope → String → Bool
  | .pending, _ => false
  | .all, _ => true
  | .only space, other => space == other

/-- The scope of an explicit choice. -/
def ofChoice : Option String → Scope
  | some space => .only space
  | none => .all

end Scope

structure NamespaceFilter where
  scope : Scope := .pending
  /-- Whether the filter no longer resolves by itself. -/
  settled : Bool := false
  deriving DecidableEq, Repr, Inhabited

namespace NamespaceFilter

/-- What the filter resolves to by itself: the default namespace, or everything if the namespaces
are known and there are none. -/
def automatic? (default : Option String) (loaded : Bool) (spaces : List String) : Option Scope :=
  match default with
  | some space => some (.only space)
  | none => if loaded && spaces.isEmpty then some .all else none

/-- Resolves the filter by itself, unless it is settled, and tells whether it did. -/
def autoResolve (f : NamespaceFilter) (default : Option String) (loaded : Bool)
    (spaces : List String) : Bool × NamespaceFilter :=
  if f.settled then (false, f)
  else match automatic? default loaded spaces with
    | some scope => (true, ⟨scope, true⟩)
    | none => (false, f)

/-- An explicit selection. -/
def select (_ : NamespaceFilter) (choice : Option String) : NamespaceFilter :=
  ⟨.ofChoice choice, true⟩

end NamespaceFilter

end PoolConsole
