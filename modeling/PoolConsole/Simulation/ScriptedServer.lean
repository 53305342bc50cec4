import PoolConsole.Http.Client
import PoolConsole.Interpreter

namespace PoolConsole.Http

structure ScriptedServer where
  /-- The replies to come, by endpoint. The last one is repeated. -/
  replies : KeyMap (List Reply) := ∅
  /-- The requests received, latest first. -/
  received : List Request := []

namespace ScriptedServer

/-- The reply of an endpoint of which nothing is laid down. -/
def notFound : Reply where
  status := 404
  body := "\x7b\"detail\":\"Not Found\"\x7d"

def reply (s : ScriptedServer) (r : Request) : Reply × ScriptedServer :=
  let s := { s with received := r :: s.received }
  match (s.replies.get? r.endpoint).getD [] with
  | [] => (notFound, s)
  | [last] => (last, s)
  | next :: rest => (next, { s with replies := s.replies.insert r.endpoint rest })

/-- Answers the calls of a client. Nothing can be saved. -/
def handler (client : Client) : Handler (StateM ScriptedServer) where
  answer c := fun s =>
    let (r, s) := s.reply (client.request c)
    (Client.answer c r, s)
  save _ _ := return .ok ()

end ScriptedServer

end PoolConsole.Http
