import PoolConsole.Config
import PoolConsole.Namespace
import PoolConsole.Preferences
import PoolConsole.Quota

namespace PoolConsole

structure PoolStatus where
  connected : Bool := false
  agentRunning : Bool := false
  isServer : Bool := false
  deriving DecidableEq, Repr, Inhabited

structure Connection where
  /-- Whether a load of the connection has come to an end, well or not. -/
  loaded : Bool := false
  status : PoolStatus := {}
  spaces : List String := []
  selected : Option String := none
  quota : Option Quota := none
  deriving DecidableEq, Repr, Inhabited

structure Auth where
  loggedIn : Bool := false
  error : Option String := none
  deriving DecidableEq, Repr, Inhabited

structure Session where
  connection : Connection := {}
  filter : NamespaceFilter := {}
  auth : Auth := {}
  preferences : PreferenceStore := {}
  ui : UiConfig := {}
  deriving DecidableEq, Repr, Inhabited

namespace Connection

/-- Takes over what the pool answered. A namespace already selected stays selected, else the first
one is. -/
def connect (c : Connection) (connected : Bool) (spaces : List String) : Connection :=
  { c with
    loaded := true
    status := { c.status with connected }
    spaces
    selected := c.selected.or spaces.head? }

/-- Selects a namespace, whose quota is not known yet. -/
def select (c : Connection) (space : String) : Connection :=
  { c with selected := some space, quota := none }

/-- Takes over the quota of a namespace, if that is still the selected one. -/
def takeQuota (c : Connection) (space : String) (quota : Option Quota) : Connection :=
  if c.selected = some space then { c with quota } else c

end Connection

namespace Session

/-- Lets the namespace filter resolve by itself. -/
def resolve (s : Session) : Session :=
  let c := s.connection
  { s with filter := (s.filter.autoResolve c.selected c.loaded c.spaces).2 }

def selectNamespace (s : Session) (choice : Option String) : Session :=
  { s with filter := s.filter.select choice }

/-- Lets the operator in if the key opens the console. -/
def authorize (s : Session) (key : String) : Bool × Session :=
  let granted := s.preferences.current.grants key
  (granted, { s with auth := ⟨granted, if granted then none else some "Invalid user key"⟩ })

def signOut (s : Session) : Session :=
  { s with auth := {} }

end Session

end PoolConsole
