import PoolConsole.Http.Message
import PoolConsole.Text.Blank
import PoolConsole.Text.Digits

/-!
HTTP/1.1 as it goes over a connection that serves one request: where a URL points to, the text of a
request, and reading a reply from the bytes received until the connection closed.
-/

namespace PoolConsole.Http

/-- Where a URL points to. -/
structure Location where
  host : String
  port : Nat
  path : String
  deriving DecidableEq, Repr

namespace Location

/-- The host and port before a path; without a port it is 80. -/
def ofAuthority? (authority : List Char) (path : String) : Option Location :=
  let host := String.ofList (authority.takeWhile (· ≠ ':'))
  if host = "" then none
  else match authority.dropWhile (· ≠ ':') with
    | [] => some ⟨host, 80, path⟩
    | _ :: port =>
      (Text.digitRun? port).bind fun n => if n < UInt16.size then some ⟨host, n, path⟩ else none

/-- What a URL of plain HTTP points to; no other URL can be followed. -/
def ofUrl? (url : String) : Option Location :=
  let scheme := "http://".toList
  if scheme.isPrefixOf url.toList then
    let rest := url.toList.drop scheme.length
    let path := String.ofList (rest.dropWhile fun c => c ≠ '/' ∧ c ≠ '?')
    ofAuthority? (rest.takeWhile fun c => c ≠ '/' ∧ c ≠ '?')
      (if path.startsWith "/" then path else "/" ++ path)
  else none

end Location

/-- What a request asks its server for. -/
def Request.target (r : Request) (l : Location) : String :=
  match r.query with
  | none => l.path
  | some query => l.path ++ (if l.path.toList.contains '?' then "&" else "?") ++ query

/-- The text of a request. -/
def Request.text (r : Request) (l : Location) : String :=
  let body := r.body.getD ""
  let headers :=
    [r.method.word ++ " " ++ r.target l ++ " HTTP/1.1",
      "host: " ++ l.host ++ ":" ++ Text.natural l.port,
      "connection: close",
      "accept: */*",
      "content-type: " ++ Request.contentType,
      "content-length: " ++ Text.natural body.utf8ByteSize] ++
    r.key.toList.map fun key => Request.keyHeader ++ ": " ++ key
  String.join (headers.map (· ++ "\r\n")) ++ "\r\n" ++ body

/-! ## Replies -/

/-- The lines of a reply's head, and the bytes behind its blank line. -/
def splitHead : List UInt8 → List UInt8 → List (List UInt8) → List (List UInt8) × List UInt8
  | [], line, lines => ((line.reverse :: lines).reverse, [])
  | 13 :: 10 :: rest, line, lines =>
    if line.isEmpty then (lines.reverse, rest) else splitHead rest [] (line.reverse :: lines)
  | b :: rest, line, lines => splitHead rest (b :: line) lines

/-- Bytes as characters, each for itself. -/
def asciiChars (bytes : List UInt8) : List Char :=
  bytes.map fun b => Char.ofNat b.toNat

/-- The status code of a reply's first line. -/
def statusOf? (line : List UInt8) : Option Nat :=
  match Text.split ' ' (String.ofList (asciiChars line)) with
  | version :: code :: _ =>
    if version.startsWith "HTTP/1." then Text.digitRun? code.toList else none
  | _ => none

/-- Whether the body of a reply comes in chunks. -/
def isChunked (headers : List (List UInt8)) : Bool :=
  headers.any fun line =>
    let text := (asciiChars line).map Char.toLower
    "transfer-encoding:".toList.isPrefixOf text &&
      (Text.trimEndChars text).reverse.take 7 == "deknuhc".toList

/-- The value of a chunk's length, which stands before anything else on its line. -/
def chunkLength (line : List UInt8) : Nat :=
  ((asciiChars line).map Text.hexValue?).takeWhile Option.isSome
    |>.foldl (fun n digit => 16 * n + digit.getD 0) 0

/-- The bytes that chunks hold, of which there are at most `fuel`. -/
def unchunk : Nat → List UInt8 → List UInt8
  | 0, _ => []
  | fuel + 1, bytes =>
    let line := bytes.takeWhile (· ≠ 13)
    let rest := bytes.drop (line.length + 2)
    let length := chunkLength line
    if length = 0 then [] else rest.take length ++ unchunk fuel (rest.drop (length + 2))

/-- The reply that some bytes make up, if they do. -/
def Reply.ofBytes? (bytes : List UInt8) : Option Reply :=
  let (lines, rest) := splitHead bytes [] []
  match lines with
  | [] => none
  | first :: headers => do
    let status ← statusOf? first
    let body := if isChunked headers then unchunk bytes.length rest else rest
    return { status, body := ← String.fromUTF8? ⟨body.toArray⟩ }

end PoolConsole.Http
