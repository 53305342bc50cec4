import PoolConsole.Cli.Program
import PoolConsole.Simulation.ScriptedServer

namespace PoolConsole.Cli

structure MemoryMachine where
  files : FileTree := {}
  server : Http.ScriptedServer := {}
  /-- Whether the server can be reached. -/
  online : Bool := true

namespace MemoryMachine

/-- The files of a machine on which nothing is kept yet: the home folder, in which the program is
started, a folder for all, and the file that is always empty. -/
def freshFiles (home : String) : FileTree :=
  ((FileTree.startingAt home).plant "/tmp" .folder).plant "/dev/null" (.file (some ""))

/-- Sends a request, which a server that cannot be reached does not receive. -/
def send (request : Http.Request) (m : MemoryMachine) : Outcome Http.Reply × MemoryMachine :=
  if m.online then
    let (reply, server) := m.server.reply request
    (.ok reply, { m with server })
  else (.error (.transport ("error sending request for url (" ++ request.url ++ ")")), m)

def save (place text : String) (m : MemoryMachine) : Outcome Unit × MemoryMachine :=
  let (r, files) := m.files.save place text
  (r.mapError fun e => .io e.message, { m with files })

def handler (client : Http.Client) : Handler (StateM MemoryMachine) where
  answer c := do return (← send (client.request c)) >>= Http.Client.answer c
  save := save

def machine : Machine (StateM MemoryMachine) where
  fileAt path := return (← get).files.read path
  connect client _ := handler client

end MemoryMachine

end PoolConsole.Cli
