import PoolConsole.Cli.Program
import PoolConsole.Http.Wire
import Std.Async.DNS
import Std.Async.TCP
import Std.Async.Timer
import Std.Time.DateTime.Timestamp

namespace PoolConsole.Cli

/-! ## Files -/

/-- Why a file cannot be used, as far as the machine says. -/
def fileError : IO.Error → FileError
  | .noFileOrDirectory .. => .notFound
  | .permissionDenied .. => .denied
  | .alreadyExists .. => .exists
  | .inappropriateType _ code _ =>
    if code = 20 then .notFolder else .isFolder
  | _ => .notFound

def readText (path : String) : IO (Except FileError String) := do
  match ← (IO.FS.readBinFile path).toBaseIO with
  | .error e => return .error (fileError e)
  | .ok bytes =>
    match String.fromUTF8? bytes with
    | some text => return .ok text
    | none => return .error .notText

def saveText (path text : String) : IO (Outcome Unit) := do
  let write : IO Unit := do
    let folder := (Path.parent? path).getD ""
    if folder ≠ "" then IO.FS.createDirAll folder
    IO.FS.writeFile path text
  match ← write.toBaseIO with
  | .ok () => return .ok ()
  | .error e => return .error (.io (fileError e).message)

/-! ## Network -/

open Std.Async

/-- All that comes in until the connection is closed. -/
partial def receiveAll (socket : TCP.Socket.Client) (received : ByteArray) : Async ByteArray := do
  match ← socket.recv? 65536 with
  | some bytes => receiveAll socket (received ++ bytes)
  | none => return received

def exchange (l : Http.Location) (request : Http.Request) : Async (Outcome Http.Reply) := do
  let addresses ← DNS.getAddrInfo l.host ""
  match addresses[0]? with
  | none => return .error (.transport ("no address for " ++ l.host))
  | some address =>
    let port := UInt16.ofNat l.port
    let socket ← TCP.Socket.Client.mk
    socket.connect (match address with
      | .v4 a => .v4 ⟨a, port⟩
      | .v6 a => .v6 ⟨a, port⟩)
    socket.send (request.text l).toUTF8
    let bytes ← receiveAll socket .empty
    return match Http.Reply.ofBytes? bytes.data.toList with
      | some reply => .ok reply
      | none => .error (.transport "the reply is no HTTP")

/-- Sends a request and waits for its reply, at most so many seconds. -/
def send (timeoutSeconds : Nat) (request : Http.Request) : IO (Outcome Http.Reply) := do
  match Http.Location.ofUrl? request.url with
  | none => return .error (.transport ("no URL of plain HTTP: " ++ request.url))
  | some l =>
    let late : Async (Outcome Http.Reply) := do
      sleep (Std.Time.Millisecond.Offset.ofNat (1000 * timeoutSeconds))
      return .error (.transport "operation timed out")
    match ← (Async.block (Async.race (exchange l request) late)).toBaseIO with
    | .ok outcome => return outcome
    | .error e => return .error (.transport e.toString)

def localMachine : Machine IO where
  fileAt := readText
  connect client timeoutSeconds := {
    answer := fun c => do return (← send timeoutSeconds (client.request c)) >>= Http.Client.answer c
    save := saveText }

/-! ## Terminal -/

def currentInstant : IO Instant := do
  let now ← Std.Time.Timestamp.now
  let nanos := now.toNanosecondsSinceUnixEpoch.toInt
  return ⟨nanos / 1000000000, (nanos % 1000000000).toNat⟩

def printLines (lines : List String) : IO Unit := do
  let out ← IO.getStdout
  out.putStr (String.join (lines.map (· ++ "\n")))
  out.flush

/-- Answers queries line by line, each once nothing has been entered for the quiet time. -/
partial def answerLines (names : List String) (d : Debouncer) (line : Task (Except IO.Error String))
    (ended : Bool) : IO Unit := do
  let now ← IO.monoMsNow
  let (queries, d) := d.dispatch now
  printLines (queries.flatMap (matchLines names))
  if ended then
    unless d.sleeping.isEmpty do
      IO.sleep 5
      answerLines names d line true
  else if ← IO.hasFinished line then
    match line.get with
    | .error _ | .ok "" => answerLines names d line true
    | .ok text =>
      let next ← IO.asTask (do (← IO.getStdin).getLine)
      answerLines names (d.push now (Text.trim text)) next false
  else
    IO.sleep 5
    answerLines names d line false

/-- Looks at the logs over and over again. -/
partial def followLogs (handler : Handler IO) (seconds : Nat) (t : Terminal) : IO Unit := do
  let (_, t) ← handler.run Script.lookAgain.run t
  IO.print t.out
  (← IO.getStdout).flush
  IO.sleep (UInt32.ofNat (1000 * seconds))
  followLogs handler seconds { t with out := "" }

end PoolConsole.Cli

open PoolConsole PoolConsole.Cli

def main (args : List String) : IO UInt32 := do
  let env : Environment := {
    home := ← IO.getEnv "HOME"
    apiKey := ← IO.getEnv "POOLDASH_API_KEY"
    userKey := ← IO.getEnv "POOLDASH_USER_KEY"
    now := ← currentInstant }
  let (ending, handler) ← run localMachine env args
  IO.print ending.terminal.out
  IO.eprint ending.terminal.err
  match ending.next, handler with
  | .search names, _ =>
    let quiet := ending.terminal.console.session.ui.searchQuietMs
    let line ← IO.asTask (do (← IO.getStdin).getLine)
    answerLines names { quiet } line false
  | .follow seconds, some handler =>
    followLogs handler seconds { ending.terminal with out := "", err := "" }
  | _, _ => return UInt32.ofNat ending.code
  return 0
