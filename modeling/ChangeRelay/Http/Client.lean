import ChangeRelay.Http.Url

/-!
# Sending requests

A client hands an outgoing request to a `Transport`, which answers the response's status and
body, or a `SendFault` when no response came: the connection was refused or reset, or the time
allowed ran out. A URL that cannot be read fails before anything is sent.

A status is written with its reason phrase, `404 Not Found`, as the registry names it; a code the
registry does not name is written `<code> <unknown status code>`.
-/

namespace ChangeRelay.Http

/-- A request as a client sends it. -/
structure Outgoing where
  method : String
  url : Url
  /-- The `Authorization` header, if one is sent. -/
  authorization : Option String := none
  body : Option String := none
  deriving Inhabited

/-- A response as a client receives it. -/
structure Incoming where
  status : Nat
  body : String
  deriving Inhabited

/-- Why a request got no response. -/
inductive SendFault where
  /-- The connection failed, or the response did not come in the time allowed. -/
  | noResponse
  deriving DecidableEq, Repr

/-- Sends requests. -/
abbrev Transport := Outgoing → Except SendFault Incoming

/-- A transport that reaches nothing: every request fails to be sent. -/
def Transport.unreachable : Transport := fun _ => .error .noResponse

/-- Why a client call failed, as the client words it. -/
inductive ClientFault where
  /-- The URL could not be read. -/
  | badUrl
  /-- The request was not answered. -/
  | unsent (url : Url)
  /-- A body that is not what the caller wanted. -/
  | undecodable (url : Url)
  deriving Repr

/-- The client's text for a fault. -/
def ClientFault.message : ClientFault → String
  | .badUrl => "builder error"
  | .unsent u => "error sending request for url (" ++ u.toText ++ ")"
  | .undecodable _ => "error decoding response body"

/-- The reason phrases of the status codes the registry names. -/
def reasons : List (Nat × String) :=
  [(100, "Continue"), (101, "Switching Protocols"), (102, "Processing"), (103, "Early Hints"),
    (200, "OK"), (201, "Created"), (202, "Accepted"), (203, "Non Authoritative Information"),
    (204, "No Content"), (205, "Reset Content"), (206, "Partial Content"),
    (207, "Multi-Status"), (208, "Already Reported"), (226, "IM Used"),
    (300, "Multiple Choices"), (301, "Moved Permanently"), (302, "Found"), (303, "See Other"),
    (304, "Not Modified"), (305, "Use Proxy"), (307, "Temporary Redirect"),
    (308, "Permanent Redirect"), (400, "Bad Request"), (401, "Unauthorized"),
    (402, "Payment Required"), (403, "Forbidden"), (404, "Not Found"),
    (405, "Method Not Allowed"), (406, "Not Acceptable"), (407, "Proxy Authentication Required"),
    (408, "Request Timeout"), (409, "Conflict"), (410, "Gone"), (411, "Length Required"),
    (412, "Precondition Failed"), (413, "Payload Too Large"), (414, "URI Too Long"),
    (415, "Unsupported Media Type"), (416, "Range Not Satisfiable"), (417, "Expectation Failed"),
    (418, "I'm a teapot"), (421, "Misdirected Request"), (422, "Unprocessable Entity"),
    (423, "Locked"), (424, "Failed Dependency"), (425, "Too Early"), (426, "Upgrade Required"),
    (428, "Precondition Required"), (429, "Too Many Requests"),
    (431, "Request Header Fields Too Large"), (451, "Unavailable For Legal Reasons"),
    (500, "Internal Server Error"), (501, "Not Implemented"), (502, "Bad Gateway"),
    (503, "Service Unavailable"), (504, "Gateway Timeout"), (505, "HTTP Version Not Supported"),
    (506, "Variant Also Negotiates"), (507, "Insufficient Storage"), (508, "Loop Detected"),
    (510, "Not Extended"), (511, "Network Authentication Required")]

/-- A status with its reason phrase. -/
def statusText (code : Nat) : String :=
  toString code ++ " " ++ ((reasons.lookup code).getD "<unknown status code>")

/-- Whether a status reports success. -/
def isSuccess (code : Nat) : Bool := 200 ≤ code && code < 300

/-- Whether a status reports a failure of the server. -/
def isServerError (code : Nat) : Bool := 500 ≤ code && code < 600

end ChangeRelay.Http
