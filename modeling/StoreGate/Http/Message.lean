import StoreGate.Url.Parser
/-!
# HTTP messages

Requests and responses with their headers, and what may stand in a header.
-/

namespace StoreGate.Http

/-- Names and values, in the order in which they are sent. -/
abbrev Headers := List (String × String)

/-- Whether a character may stand in a name. -/
def isTokenChar (char : Char) : Bool :=
  char.isAlphanum || "!#$%&'*+-.^_\x60|~".toList.contains char

/-- The lowercase form of a name, which must be a token. -/
def headerName? (name : String) : Option String :=
  if !name.isEmpty && name.toList.all isTokenChar then
    some (String.ofList (name.toList.map Char.toLower))
  else none

/-- Whether a text may be the value of a header: it has no control characters but tabs. -/
def isHeaderValue (value : String) : Bool :=
  value.toList.all fun char => char = '\t' || (0x20 ≤ char.toNat && char.toNat ≠ 0x7f)

structure Request where
  method : String
  url : Url
  headers : Headers
  body : List UInt8

structure Response where
  status : Nat
  headers : Headers
  body : List UInt8

namespace Response

def isSuccess (response : Response) : Bool :=
  200 ≤ response.status && response.status < 300

/-- The first value of a header. -/
def header? (response : Response) (name : String) : Option String :=
  (response.headers.find? fun header =>
    String.ofList (header.1.toList.map Char.toLower) = name).map (·.2)

end Response

/-- What the standard calls a status. -/
def reasons : List (Nat × String) :=
  [(100, "Continue"), (101, "Switching Protocols"), (102, "Processing"), (200, "OK"),
    (201, "Created"), (202, "Accepted"), (203, "Non Authoritative Information"),
    (204, "No Content"), (205, "Reset Content"), (206, "Partial Content"), (207, "Multi-Status"),
    (208, "Already Reported"), (226, "IM Used"), (300, "Multiple Choices"),
    (301, "Moved Permanently"), (302, "Found"), (303, "See Other"), (304, "Not Modified"),
    (305, "Use Proxy"), (307, "Temporary Redirect"), (308, "Permanent Redirect"),
    (400, "Bad Request"), (401, "Unauthorized"), (402, "Payment Required"), (403, "Forbidden"),
    (404, "Not Found"), (405, "Method Not Allowed"), (406, "Not Acceptable"),
    (407, "Proxy Authentication Required"), (408, "Request Timeout"), (409, "Conflict"),
    (410, "Gone"), (411, "Length Required"), (412, "Precondition Failed"),
    (413, "Payload Too Large"), (414, "URI Too Long"), (415, "Unsupported Media Type"),
    (416, "Range Not Satisfiable"), (417, "Expectation Failed"), (418, "I'm a teapot"),
    (421, "Misdirected Request"), (422, "Unprocessable Entity"), (423, "Locked"),
    (424, "Failed Dependency"), (425, "Too Early"), (426, "Upgrade Required"),
    (428, "Precondition Required"), (429, "Too Many Requests"),
    (431, "Request Header Fields Too Large"), (451, "Unavailable For Legal Reasons"),
    (500, "Internal Server Error"), (501, "Not Implemented"), (502, "Bad Gateway"),
    (503, "Service Unavailable"), (504, "Gateway Timeout"), (505, "HTTP Version Not Supported"),
    (506, "Variant Also Negotiates"), (507, "Insufficient Storage"), (508, "Loop Detected"),
    (510, "Not Extended"), (511, "Network Authentication Required")]

/-- A status with what it is called. -/
def statusText (status : Nat) : String :=
  toString status ++ " " ++ (reasons.lookup status).getD "<unknown status code>"

end StoreGate.Http
