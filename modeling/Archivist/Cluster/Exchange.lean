import Archivist.Dialogue
import Archivist.Json.Value
import Archivist.Numeral
import Archivist.Web.Address

set_option autoImplicit false

namespace Archivist.Cluster

inductive Method where
  | get
  | head
  | put
  | post
deriving Repr, DecidableEq

/-- What a request carries beside its address. -/
inductive Payload where
  | none
  | json (value : Json.Value)
  /-- Lines of JSON, each with its line end. -/
  | lines (text : String)
deriving Repr

structure Request where
  method : Method
  url : String
  /-- The value of the authorization header. -/
  authorization : Option String
  payload : Payload
deriving Repr

structure Response where
  status : Nat
  body : String
  /-- The address that answered, as the carrier writes it. -/
  address : String
deriving Repr, DecidableEq

inductive Delivery where
  | answered (response : Response)
  | failed (reason : String)
deriving Repr, DecidableEq

abbrev Exchange (Result : Type) : Type := Dialogue (fun _ : Request => Delivery) Result

namespace Response

def isSuccess (response : Response) : Bool := 200 ≤ response.status && response.status < 300

/-- A refusal that may not be repeated when the same request is made again. -/
def isPassing (response : Response) : Bool :=
  response.status = 429 || (500 ≤ response.status && response.status < 600)

end Response

namespace Request

/-- A request that can be put on its way: its address is one of the web, and no header breaks its
line. -/
def isSendable (request : Request) : Bool :=
  (Web.Address.read request.url).any Web.Address.isSendable
    && ((request.authorization.getD "").toList.all fun character =>
      character = '\t' || (32 ≤ character.toNat && character.toNat ≠ 127))

end Request

def offline (request : Request) : Delivery :=
  if request.isSendable then .failed ("error sending request for url (" ++ request.url ++ ")")
  else .failed "builder error"

def reason? : Nat → Option String
  | 100 => some "Continue"
  | 101 => some "Switching Protocols"
  | 102 => some "Processing"
  | 200 => some "OK"
  | 201 => some "Created"
  | 202 => some "Accepted"
  | 203 => some "Non Authoritative Information"
  | 204 => some "No Content"
  | 205 => some "Reset Content"
  | 206 => some "Partial Content"
  | 207 => some "Multi-Status"
  | 208 => some "Already Reported"
  | 226 => some "IM Used"
  | 300 => some "Multiple Choices"
  | 301 => some "Moved Permanently"
  | 302 => some "Found"
  | 303 => some "See Other"
  | 304 => some "Not Modified"
  | 305 => some "Use Proxy"
  | 307 => some "Temporary Redirect"
  | 308 => some "Permanent Redirect"
  | 400 => some "Bad Request"
  | 401 => some "Unauthorized"
  | 402 => some "Payment Required"
  | 403 => some "Forbidden"
  | 404 => some "Not Found"
  | 405 => some "Method Not Allowed"
  | 406 => some "Not Acceptable"
  | 407 => some "Proxy Authentication Required"
  | 408 => some "Request Timeout"
  | 409 => some "Conflict"
  | 410 => some "Gone"
  | 411 => some "Length Required"
  | 412 => some "Precondition Failed"
  | 413 => some "Payload Too Large"
  | 414 => some "URI Too Long"
  | 415 => some "Unsupported Media Type"
  | 416 => some "Range Not Satisfiable"
  | 417 => some "Expectation Failed"
  | 418 => some "I'm a teapot"
  | 421 => some "Misdirected Request"
  | 422 => some "Unprocessable Entity"
  | 423 => some "Locked"
  | 424 => some "Failed Dependency"
  | 426 => some "Upgrade Required"
  | 428 => some "Precondition Required"
  | 429 => some "Too Many Requests"
  | 431 => some "Request Header Fields Too Large"
  | 451 => some "Unavailable For Legal Reasons"
  | 500 => some "Internal Server Error"
  | 501 => some "Not Implemented"
  | 502 => some "Bad Gateway"
  | 503 => some "Service Unavailable"
  | 504 => some "Gateway Timeout"
  | 505 => some "HTTP Version Not Supported"
  | 506 => some "Variant Also Negotiates"
  | 507 => some "Insufficient Storage"
  | 508 => some "Loop Detected"
  | 510 => some "Not Extended"
  | 511 => some "Network Authentication Required"
  | _ => none

def statusText (status : Nat) : String :=
  Numeral.ofNat status ++ " " ++ (reason? status).getD "<unknown status code>"

end Archivist.Cluster
