/-!
# HTTP status codes

## Main definitions

* `Status` — a code of three digits
* `Status.describe` — a code with its reason
-/

namespace ApiContract

/-- A status code, of three digits. -/
structure Status where
  code : Nat
  code_ge : 100 ≤ code := by decide
  code_lt : code < 1000 := by decide
  deriving DecidableEq, Repr

namespace Status

/-- The status of a number, if it has three digits. -/
def of? (n : Nat) : Option Status :=
  if h : 100 ≤ n ∧ n < 1000 then some ⟨n, h.1, h.2⟩ else none

def ok : Status := { code := 200 }
def badRequest : Status := { code := 400 }
def unauthorized : Status := { code := 401 }
def notFound : Status := { code := 404 }
def methodNotAllowed : Status := { code := 405 }
def requestTimeout : Status := { code := 408 }
def payloadTooLarge : Status := { code := 413 }
def internalServerError : Status := { code := 500 }

/-- Whether a status reports success. -/
def isSuccess (s : Status) : Bool := 200 ≤ s.code && s.code < 300

/-- Whether a status reports a failure of the server. -/
def isServerError (s : Status) : Bool := 500 ≤ s.code && s.code < 600

/-- The reasons of the registered codes. -/
def reasons : List (Nat × String) :=
  [(100, "Continue"), (101, "Switching Protocols"), (102, "Processing"),
    (103, "Early Hints"), (200, "OK"), (201, "Created"), (202, "Accepted"),
    (203, "Non Authoritative Information"), (204, "No Content"), (205, "Reset Content"),
    (206, "Partial Content"), (207, "Multi-Status"), (208, "Already Reported"),
    (226, "IM Used"), (300, "Multiple Choices"), (301, "Moved Permanently"), (302, "Found"),
    (303, "See Other"), (304, "Not Modified"), (305, "Use Proxy"),
    (307, "Temporary Redirect"), (308, "Permanent Redirect"), (400, "Bad Request"),
    (401, "Unauthorized"), (402, "Payment Required"), (403, "Forbidden"), (404, "Not Found"),
    (405, "Method Not Allowed"), (406, "Not Acceptable"),
    (407, "Proxy Authentication Required"), (408, "Request Timeout"), (409, "Conflict"),
    (410, "Gone"), (411, "Length Required"), (412, "Precondition Failed"),
    (413, "Payload Too Large"), (414, "URI Too Long"), (415, "Unsupported Media Type"),
    (416, "Range Not Satisfiable"), (417, "Expectation Failed"), (418, "I'm a teapot"),
    (421, "Misdirected Request"), (422, "Unprocessable Entity"), (423, "Locked"),
    (424, "Failed Dependency"), (425, "Too Early"), (426, "Upgrade Required"),
    (428, "Precondition Required"), (429, "Too Many Requests"),
    (431, "Request Header Fields Too Large"), (451, "Unavailable For Legal Reasons"),
    (500, "Internal Server Error"), (501, "Not Implemented"), (502, "Bad Gateway"),
    (503, "Service Unavailable"), (504, "Gateway Timeout"),
    (505, "HTTP Version Not Supported"), (506, "Variant Also Negotiates"),
    (507, "Insufficient Storage"), (508, "Loop Detected"), (510, "Not Extended"),
    (511, "Network Authentication Required")]

/-- A code with its reason. -/
def describe (s : Status) : String :=
  s!"{s.code} " ++ ((reasons.lookup s.code).getD "<unknown status code>")

end Status

end ApiContract
