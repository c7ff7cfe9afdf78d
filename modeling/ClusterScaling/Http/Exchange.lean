import ClusterScaling.Duration
import ClusterScaling.Http.Url

/-!
# Asking a web server

An exchange is one request and what comes of it. What a server does with
a request is not known here: a `Network` is a function from requests to
deliveries, and `send` says what a caller makes of a delivery, from the
check of the address to the limit on the time.
-/

namespace ClusterScaling.Http

/-- A request that is about to be sent. -/
structure Request where
  /-- The method. -/
  method : String
  /-- The address. -/
  url : Url
  /-- The body, if there is one. It is JSON. -/
  body : Option String
  deriving DecidableEq, Repr

/-- What comes of a request. -/
inductive Delivery where
  /-- The server answers with a status and a body. -/
  | answered (status : Nat) (body : String)
  /-- Nobody can be reached, and why. -/
  | unreachable (detail : String)
  /-- The connection ends without a proper answer. -/
  | broken
  /-- No answer arrives in time. -/
  | silent
  deriving DecidableEq, Repr

/-- What comes of every request. -/
abbrev Network := Request → Delivery

/-- An answer. -/
structure Reply where
  /-- The status. -/
  status : Nat
  /-- The body. -/
  body : String
  deriving DecidableEq, Repr

/-- Why there is no answer. -/
inductive Failure where
  /-- The address is none. -/
  | invalidUrl (text : String)
  /-- The time is up. -/
  | timeout (limit : Duration)
  /-- Nobody can be reached. -/
  | connect (detail : String)
  /-- The answer is not proper. -/
  | protocol
  deriving DecidableEq

/-- The wording of a failure. -/
def Failure.message : Failure → String
  | invalidUrl text => "invalid url " ++ text
  | timeout limit => "request timed out after " ++ limit.display
  | connect detail => "connection failed: " ++ detail
  | protocol => "protocol error"

/-- The usual words for a status. -/
def statusWords : Nat → String
  | 100 => "Continue"
  | 101 => "Switching Protocols"
  | 102 => "Processing"
  | 103 => "Early Hints"
  | 200 => "OK"
  | 201 => "Created"
  | 202 => "Accepted"
  | 203 => "Non Authoritative Information"
  | 204 => "No Content"
  | 205 => "Reset Content"
  | 206 => "Partial Content"
  | 207 => "Multi-Status"
  | 208 => "Already Reported"
  | 226 => "IM Used"
  | 300 => "Multiple Choices"
  | 301 => "Moved Permanently"
  | 302 => "Found"
  | 303 => "See Other"
  | 304 => "Not Modified"
  | 305 => "Use Proxy"
  | 307 => "Temporary Redirect"
  | 308 => "Permanent Redirect"
  | 400 => "Bad Request"
  | 401 => "Unauthorized"
  | 402 => "Payment Required"
  | 403 => "Forbidden"
  | 404 => "Not Found"
  | 405 => "Method Not Allowed"
  | 406 => "Not Acceptable"
  | 407 => "Proxy Authentication Required"
  | 408 => "Request Timeout"
  | 409 => "Conflict"
  | 410 => "Gone"
  | 411 => "Length Required"
  | 412 => "Precondition Failed"
  | 413 => "Payload Too Large"
  | 414 => "URI Too Long"
  | 415 => "Unsupported Media Type"
  | 416 => "Range Not Satisfiable"
  | 417 => "Expectation Failed"
  | 418 => "I'm a teapot"
  | 421 => "Misdirected Request"
  | 422 => "Unprocessable Entity"
  | 423 => "Locked"
  | 424 => "Failed Dependency"
  | 425 => "Too Early"
  | 426 => "Upgrade Required"
  | 428 => "Precondition Required"
  | 429 => "Too Many Requests"
  | 431 => "Request Header Fields Too Large"
  | 451 => "Unavailable For Legal Reasons"
  | 500 => "Internal Server Error"
  | 501 => "Not Implemented"
  | 502 => "Bad Gateway"
  | 503 => "Service Unavailable"
  | 504 => "Gateway Timeout"
  | 505 => "HTTP Version Not Supported"
  | 506 => "Variant Also Negotiates"
  | 507 => "Insufficient Storage"
  | 508 => "Loop Detected"
  | 510 => "Not Extended"
  | 511 => "Network Authentication Required"
  | _ => "<unknown status code>"

namespace Reply

/-- The status in figures and words. -/
def statusText (r : Reply) : String := toString r.status ++ " " ++ statusWords r.status

/-- Whether the request succeeded. -/
def isSuccess (r : Reply) : Bool := 200 ≤ r.status && r.status < 300

/-- Whether an answer with a status has no body, whatever the server sends. -/
def isBodiless (status : Nat) : Bool := status < 200 || status == 204 || status == 304

end Reply

/-- Asks a server. -/
def send (net : Network) (method url : String) (body : Option String) (limit : Duration) :
    Except Failure Reply :=
  match Url.ofText? url with
  | none => .error (.invalidUrl url)
  | some address =>
    match net ⟨method, address, body⟩ with
    | .answered status body => .ok ⟨status, if Reply.isBodiless status then "" else body⟩
    | .unreachable detail => .error (.connect detail)
    | .broken => .error .protocol
    | .silent => .error (.timeout limit)

/-- Asks a server for a document. -/
def get (net : Network) (url : String) (limit : Duration) : Except Failure Reply :=
  send net "GET" url none limit

/-- Marks that may stand in the name of a method besides letters and digits. -/
def methodMarks : List Char := "!#$%&'*+-.^_|~".toList ++ [Char.ofNat 0x60]

/-- The method that a text names in any mixture of cases, if it names one. -/
def method? (s : String) : Option String :=
  let cs := s.toList.map Char.toUpper
  if !cs.isEmpty && cs.all fun c => c.isAlphanum || methodMarks.contains c then
    some (String.ofList cs)
  else none

end ClusterScaling.Http
