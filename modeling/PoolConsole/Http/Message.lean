namespace PoolConsole.Http

inductive Method where
  | get
  | post
  deriving DecidableEq, Repr

def Method.word : Method → String
  | .get => "GET"
  | .post => "POST"

structure Request where
  method : Method
  url : String
  /-- What stands behind the question mark. -/
  query : Option String := none
  /-- The access key. -/
  key : Option String := none
  body : Option String := none
  deriving DecidableEq, Repr

namespace Request

/-- Every request says that its body is JSON, also one without a body. -/
def contentType : String := "application/json"

def keyHeader : String := "X-API-Key"

/-- What stands behind the last slash of the URL. -/
def endpoint (r : Request) : String :=
  String.ofList ((r.url.toList.reverse.takeWhile (· ≠ '/')).reverse)

end Request

structure Reply where
  status : Nat := 200
  body : String := ""
  deriving DecidableEq, Repr

namespace Reply

def isSuccess (r : Reply) : Bool :=
  200 ≤ r.status && r.status < 300

/-- The phrases that go with status codes. -/
def reasons : List (Nat × String) := [
  (100, "Continue"), (101, "Switching Protocols"), (102, "Processing"),
  (200, "OK"), (201, "Created"), (202, "Accepted"), (203, "Non Authoritative Information"),
  (204, "No Content"), (205, "Reset Content"), (206, "Partial Content"), (207, "Multi-Status"),
  (208, "Already Reported"), (226, "IM Used"),
  (300, "Multiple Choices"), (301, "Moved Permanently"), (302, "Found"), (303, "See Other"),
  (304, "Not Modified"), (305, "Use Proxy"), (307, "Temporary Redirect"),
  (308, "Permanent Redirect"),
  (400, "Bad Request"), (401, "Unauthorized"), (402, "Payment Required"), (403, "Forbidden"),
  (404, "Not Found"), (405, "Method Not Allowed"), (406, "Not Acceptable"),
  (407, "Proxy Authentication Required"), (408, "Request Timeout"), (409, "Conflict"),
  (410, "Gone"), (411, "Length Required"), (412, "Precondition Failed"),
  (413, "Payload Too Large"), (414, "URI Too Long"), (415, "Unsupported Media Type"),
  (416, "Range Not Satisfiable"), (417, "Expectation Failed"), (418, "I'm a teapot"),
  (421, "Misdirected Request"), (422, "Unprocessable Entity"), (423, "Locked"),
  (424, "Failed Dependency"), (426, "Upgrade Required"), (428, "Precondition Required"),
  (429, "Too Many Requests"), (431, "Request Header Fields Too Large"),
  (451, "Unavailable For Legal Reasons"),
  (500, "Internal Server Error"), (501, "Not Implemented"), (502, "Bad Gateway"),
  (503, "Service Unavailable"), (504, "Gateway Timeout"), (505, "HTTP Version Not Supported"),
  (506, "Variant Also Negotiates"), (507, "Insufficient Storage"), (508, "Loop Detected"),
  (510, "Not Extended"), (511, "Network Authentication Required")]

def reason (status : Nat) : String :=
  (reasons.lookup status).getD "<unknown status code>"

end Reply

end PoolConsole.Http
