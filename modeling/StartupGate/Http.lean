/-
# StartupGate.Http -- requests, responses and request targets

A target is a path with an optional query, or a whole URL, of which the part behind the
authority counts.  A fragment is dropped.  `reasonPhrase?` names the status codes.
-/
import StartupGate.Number.Integer
import StartupGate.Text.Split

set_option autoImplicit false

namespace StartupGate.Http

/-- A request without a body. -/
structure Request where
  method : String
  target : String
  deriving DecidableEq, Repr

/-- An answer with the headers that matter. -/
structure Response where
  status : Nat
  body : String
  contentType : Option String
  allow : Option String
  deriving DecidableEq, Repr

/-! ## Targets -/

/-- The parts of a target that a server looks at. -/
structure Target where
  path : List Char
  query : List Char
  deriving DecidableEq, Repr

/-- A path and what stands behind its first question mark. -/
def Target.ofPath (cs : List Char) : Target :=
  match Text.splitFirst '?' cs with
  | some (path, query) => ⟨path, query⟩
  | none => ⟨cs, []⟩

def Target.read (target : String) : Target :=
  let cs := target.toList.takeWhile (· ≠ '#')
  match cs with
  | '/' :: _ => .ofPath cs
  | _ =>
      match Text.splitFirstText [':', '/', '/'] cs with
      | none => ⟨[], []⟩
      | some (_, rest) =>
          let behind := rest.dropWhile fun c => c ≠ '/' ∧ c ≠ '?'
          match behind with
          | '/' :: _ => .ofPath behind
          | _ => .ofPath ('/' :: behind)

/-! ## Status codes -/

def reasonPhrase? (status : Nat) : Option String :=
  [(100, "Continue"), (101, "Switching Protocols"), (102, "Processing"), (200, "OK"),
    (201, "Created"), (202, "Accepted"), (203, "Non Authoritative Information"),
    (204, "No Content"), (205, "Reset Content"), (206, "Partial Content"), (207, "Multi-Status"),
    (208, "Already Reported"), (226, "IM Used"), (300, "Multiple Choices"),
    (301, "Moved Permanently"), (302, "Found"), (303, "See Other"), (304, "Not Modified"),
    (305, "Use Proxy"), (307, "Temporary Redirect"), (308, "Permanent Redirect"),
    (400, "Bad Request"), (401, "Unauthorized"), (402, "Payment Required"), (403, "Forbidden"),
    (404, "Not Found"), (405, "Method Not Allowed"), (406, "Not Acceptable"),
    (407, "Proxy Authentication Required"), (408, "Request Timeout"), (409, "Conflict"),
    (410, "Gone"), (411, "Length Required"), (412, "Precondition Failed"),
    (413, "Payload Too Large"), (414, "URI Too Long"), (415, "Unsupported Media Type"),
    (416, "Range Not Satisfiable"), (417, "Expectation Failed"), (418, "I'm a teapot"),
    (421, "Misdirected Request"), (422, "Unprocessable Entity"), (423, "Locked"),
    (424, "Failed Dependency"), (425, "Too Early"), (426, "Upgrade Required"),
    (428, "Precondition Required"), (429, "Too Many Requests"),
    (431, "Request Header Fields Too Large"), (451, "Unavailable For Legal Reasons"),
    (500, "Internal Server Error"), (501, "Not Implemented"), (502, "Bad Gateway"),
    (503, "Service Unavailable"), (504, "Gateway Timeout"), (505, "HTTP Version Not Supported"),
    (506, "Variant Also Negotiates"), (507, "Insufficient Storage"), (508, "Loop Detected"),
    (510, "Not Extended"), (511, "Network Authentication Required")].lookup status

def statusText (status : Nat) : String :=
  Integer.toText status ++ " " ++ (reasonPhrase? status).getD "<unknown status code>"

end StartupGate.Http
