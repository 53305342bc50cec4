import PoolConsole.Console

namespace PoolConsole.Operation

open Console

/-- Loads the quota of a namespace. A failed load changes nothing. -/
def loadQuota (space : String) : Action Console Unit := do
  match ← .request (.quota space) with
  | .ok quota =>
    onSession (.modify fun s => { s with connection := s.connection.takeQuota space quota })
  | .error _ => return ()

/-- Takes over what a load of the connection answered, and gives the selected namespace. The filter
resolves at once and does not wait for the quota. -/
def takeConnection (connected : Bool) (spaces : List String) (s : Session) :
    Option String × Session :=
  let connection := s.connection.connect connected spaces
  (connection.selected, { s with connection }.resolve)

/-- Loads the connection, then the quota of the selected namespace. -/
def loadConnection : Action Console (Outcome Unit) := do
  match ← .requestAll [.connected, .spaces] with
  | .error e =>
    onSession (.modify fun s => { s with connection := { s.connection with loaded := true } })
    return .error e
  | .ok (connected, spaces, ()) =>
    let selected ← onSession (.update (takeConnection connected spaces))
    selected.forM loadQuota
    return .ok ()

/-- Selects the operator's own namespace and loads its quota. -/
def selectSpace (space : String) : Action Console Unit := do
  onSession (.modify fun s => { s with connection := s.connection.select space }.resolve)
  loadQuota space

/-- Filters the views by a namespace, or by none. -/
def selectNamespace (choice : Option String) : Action Console Scope :=
  onSession (.update fun s => ((s.selectNamespace choice).filter.scope, s.selectNamespace choice))

def refreshStatus : Action Console (Outcome PoolStatus) :=
  (Action.requestAll [.agentRunning, .connected, .isServer]).attempt
    fun (agentRunning, connected, isServer, ()) => do
      let status : PoolStatus := { connected, agentRunning, isServer }
      onSession (.modify fun s => { s with connection := { s.connection with status } })
      return .ok status

def pauseAgent : Action Console (Outcome PoolStatus) :=
  (Action.request .pauseAgent).attempt fun () => refreshStatus

def resumeAgent : Action Console (Outcome PoolStatus) :=
  (Action.request .resumeAgent).attempt fun () => refreshStatus

/-- Sets limits for a namespace and reads the quota back if it is the selected one. -/
def setQuota (space : String) (limits : QuotaLimits) : Action Console (Outcome Unit) :=
  if Text.isBlankText space then
    return .error (.validation "Namespace is required")
  else if limits.isEmpty then
    return .error (.validation "At least one limit is required")
  else
    (Action.request (.setQuota space limits.toKeyMap)).attempt fun () => do
      if (← .read fun c => c.session.connection.selected) = some space then loadQuota space
      return .ok ()

def authorize (key : String) : Action Console Bool :=
  onSession (.update fun s => s.authorize key)

def signOut : Action Console Unit :=
  onSession (.modify Session.signOut)

/-- Changes the preferences and keeps them where they are kept, if anywhere. -/
def changePreferences (change : Preferences → Preferences) : Action Console (Outcome Unit) := do
  let store ← onSession (.update fun s =>
    let store := { s.preferences with current := change s.preferences.current }
    (store, { s with preferences := store }))
  match store.place with
  | some place => .save place store.current.text .done
  | none => return .ok ()

def setDarkMode (darkMode : Bool) : Action Console (Outcome Unit) :=
  changePreferences fun p => { p with darkMode }

def setAccessKey (accessKey : Option String) : Action Console (Outcome Unit) :=
  changePreferences fun p => { p with accessKey }

end PoolConsole.Operation
