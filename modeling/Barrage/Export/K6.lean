import Barrage.Json.Value
import Barrage.Plan
import Barrage.Script
import Barrage.Text.Blank

/-! Scripts as test files of the load generator k6.
Each step becomes one call and one check of its response; every text of a step that is part of a
call stands there as a string literal. -/

namespace Barrage.K6

inductive Argument where
  | literal (s : String)
  | null
  /-- Parameters that carry headers. -/
  | headers (h : Dict String)
  /-- Parameters that carry nothing. -/
  | noParameters
  deriving DecidableEq

def headerText (e : String × String) : List Char := Json.quote e.1 ++ ':' :: ' ' :: Json.quote e.2

def commaList : List (List Char) → List Char
  | [] => []
  | [a] => a
  | a :: rest => a ++ ',' :: ' ' :: commaList rest

def Argument.text : Argument → List Char
  | .literal s => Json.quote s
  | .null => "null".toList
  | .headers h =>
    "\x7b headers: \x7b ".toList ++ commaList (h.entries.map headerText) ++ " \x7d \x7d".toList
  | .noParameters => "\x7b\x7d".toList

structure Call where
  function : String
  arguments : List Argument
  deriving DecidableEq

def Call.text (c : Call) : List Char :=
  "http.".toList ++ c.function.toList ++ '(' :: commaList (c.arguments.map Argument.text) ++ [')']

/-- Methods with a function of their own that takes no body. -/
def bodilessMethods : List String := ["get", "head", "options"]

def bodyMethods : List String := ["post", "put", "patch", "delete"]

def functionName (method : String) : String := if method = "delete" then "del" else method

def bodyArgument (s : Step) : Argument :=
  match s.body with
  | some b => .literal b
  | none => .null

/-- The call that performs a step; a method without a function of its own goes to `request`. -/
def call (s : Step) : Call :=
  let method := Text.lower (Text.trim s.method)
  let url := Argument.literal s.url
  let body := bodyArgument s
  if method ∈ bodilessMethods then
    ⟨method, if s.header.isEmpty then [url] else [url, .headers s.header]⟩
  else if method ∈ bodyMethods then
    ⟨functionName method,
      if !s.header.isEmpty then [url, body, .headers s.header]
      else if s.body.isSome then [url, body]
      else [url]⟩
  else
    ⟨"request", [.literal (Text.upper s.method), url, body,
      if s.header.isEmpty then .noParameters else .headers s.header]⟩

def unlines (ls : List String) : String := String.join (ls.map (· ++ "\n"))

def opening (p : Plan) : String :=
  unlines [
    "import http from \"k6/http\";",
    "import \x7b check, sleep \x7d from \"k6\";",
    "",
    "export const options = \x7b",
    "  vus: " ++ toString p.users.toNat ++ ",",
    "  duration: \"" ++ toString p.seconds.toNat ++ "s\",",
    "  thresholds: \x7b",
    "    http_req_duration: ['p(95)<2000', 'p(99)<5000'],",
    "    http_req_failed: ['rate<0.1'],",
    "  \x7d,",
    "\x7d;",
    "",
    "export default function () \x7b"]

def block (i : Nat) (s : Step) : String :=
  let response := "res" ++ toString i
  unlines [
    "",
    "  // Step " ++ toString (i + 1) ++ ": " ++ Text.upper s.method ++ " " ++ s.url,
    "  const " ++ response ++ " = " ++ String.ofList (call s).text ++ ";",
    "  check(" ++ response ++ ", \x7b",
    "    \"status is 2xx\": (r) => r.status >= 200 && r.status < 300,",
    "  \x7d);"]

def blocks : Nat → List Step → String
  | _, [] => ""
  | i, s :: rest => block i s ++ blocks (i + 1) rest

def closing : String := unlines ["", "  sleep(1);", "\x7d"]

def file (s : Script) (p : Plan) : String := opening p ++ blocks 0 s.steps ++ closing

end Barrage.K6
