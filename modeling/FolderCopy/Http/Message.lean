import FolderCopy.Json.Value
import FolderCopy.Text.Utf8

/-!
# Web requests and responses

A request is built up from its method and address; a header set again replaces the old one. Header
names are told apart by case.
-/

namespace FolderCopy.Http

/-- What a request does. -/
inductive Method where
  | get
  | post
  | delete
  deriving DecidableEq, Repr

/-- The name of a method. -/
def Method.name : Method → String
  | .get => "GET"
  | .post => "POST"
  | .delete => "DELETE"

/-- A request. The time limit is in milliseconds. -/
structure Request where
  method : Method
  url : String
  headers : List (String × String) := []
  body : Option String := none
  timeout : Option Nat := none
  deriving DecidableEq, Repr

namespace Request

/-- The value of a header. -/
def header? (r : Request) (name : String) : Option String :=
  (r.headers.find? (·.1 == name)).map (·.2)

/-- Sets a header. -/
def withHeader (r : Request) (name value : String) : Request :=
  { r with headers := Json.put name value r.headers }

/-- Sets the access token that the request is made with. -/
def withToken (r : Request) (token : String) : Request :=
  r.withHeader "Authorization" ("Bearer " ++ token)

/-- Sets a JSON body. -/
def withJson (r : Request) (v : Json) : Request :=
  { r with body := some v.render }.withHeader "Content-Type" "application/json"

/-- Sets the time limit. -/
def withTimeout (r : Request) (ms : Nat) : Request :=
  { r with timeout := some ms }

end Request

/-- A response. -/
structure Response where
  status : Nat
  body : Bytes
  deriving DecidableEq, Repr

namespace Response

/-- Whether the request was carried out. -/
def isSuccess (r : Response) : Bool :=
  200 ≤ r.status && r.status < 300

/-- A request was carried out where the status is two hundred and something. -/
theorem isSuccess_iff (r : Response) : r.isSuccess ↔ 200 ≤ r.status ∧ r.status ≤ 299 := by
  rw [isSuccess, Bool.and_eq_true, decide_eq_true_eq, decide_eq_true_eq]
  exact and_congr_right fun _ => Nat.lt_succ_iff

/-- The body as text, whatever bytes it holds. -/
def text (r : Response) : String :=
  Text.Utf8.decodeLossy r.body

end Response

end FolderCopy.Http
