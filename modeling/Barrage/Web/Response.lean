import Barrage.Json.Value
import Barrage.Text.Symbol

/-! Requests to the server and its responses. -/

namespace Barrage.Web

structure Request where
  method : String
  /-- The path as it was sent. -/
  path : List Char
  /-- The query as it was sent, without its mark. -/
  query : List Char
  contentType : Option String
  body : List Symbol

inductive Body where
  | empty
  | text (s : String)
  | document (v : Json.Value)

structure Response where
  status : Nat
  body : Body
  /-- The methods of the path, if the response tells them. -/
  allow : Option String
  /-- Whether it answers the question what may be asked from elsewhere. -/
  preflight : Bool

namespace Response

def ofBody (status : Nat) (b : Body) : Response := ⟨status, b, none, false⟩

def document (v : Json.Value) : Response := ofBody 200 (.document v)

def error (status : Nat) (message : String) : Response :=
  ofBody status (.document (.object [("error", .string message)]))

def refusal (status : Nat) (message : String) : Response := ofBody status (.text message)

@[simp] theorem status_ofBody (status : Nat) (b : Body) : (ofBody status b).status = status := rfl

@[simp] theorem status_document (v : Json.Value) : (document v).status = 200 := rfl

@[simp] theorem status_error (status : Nat) (message : String) :
    (error status message).status = status := rfl

@[simp] theorem status_refusal (status : Nat) (message : String) :
    (refusal status message).status = status := rfl

def contentType? (r : Response) : Option String :=
  match r.body with
  | .empty => none
  | .text _ => some "text/plain; charset=utf-8"
  | .document _ => some "application/json"

def headers (r : Response) : List (String × String) :=
  (match r.contentType? with
    | some t => [("content-type", t)]
    | none => []) ++
  (match r.allow with
    | some a => [("allow", a)]
    | none => []) ++
  [("access-control-allow-origin", "*"),
    ("vary", "origin, access-control-request-method, access-control-request-headers")] ++
  (if r.preflight then
    [("access-control-allow-methods", "*"), ("access-control-allow-headers", "*")] else [])

end Response
end Barrage.Web
