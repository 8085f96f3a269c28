import Barrage.Document.Plan
import Barrage.Export.K6
import Barrage.Program
import Barrage.Text.Percent
import Barrage.Web.MediaType
import Barrage.Web.Response
import Barrage.Workspace

/-! The server: which request does what.
Only two requests change anything: one that creates a script and one that runs a plan. -/

namespace Barrage.Web

inductive Endpoint where
  | health
  | scripts
  | k6
  /-- One script, by the segment that names it. -/
  | script (segment : List Char)
  | run
  | history
  deriving DecidableEq, Repr

namespace Endpoint

/-- The endpoint of a path as it was sent; a fixed name comes before any script of that name. -/
def ofPath? (path : List Char) : Option Endpoint :=
  match (Text.splitAt '/' path).map String.ofList with
  | ["", "health"] => some .health
  | ["", "scripts"] => some .scripts
  | ["", "scripts", "k6"] => some .k6
  | ["", "scripts", segment] => if segment.isEmpty then none else some (.script segment.toList)
  | ["", "tests", "run"] => some .run
  | ["", "history"] => some .history
  | _ => none

def methods : Endpoint → List String
  | .scripts => ["GET", "HEAD", "POST"]
  | .run => ["POST"]
  | _ => ["GET", "HEAD"]

def allow (e : Endpoint) : String := Text.join "," e.methods

end Endpoint

structure Moment where
  engine : Engine
  startedAt : Instant
  /-- Nanoseconds since 1970. -/
  now : Int
  freshId : String

def bodyLimit : Nat := 2097152

def createRecord : Json.Record (Option String) String where
  name := "CreateScriptRequest"
  empty := none
  fields := [.of "url" false id (fun _ v => some v) Json.readString]
  build d := d.getD ""

def readBody (read : Json.Reader α) (r : Request) : Except Response α :=
  if !(r.contentType.map MediaType.isDocument).getD false then
    .error (.refusal 415 "Expected request with \x60Content-Type: application/json\x60")
  else if bodyLimit < Symbol.bytes r.body then
    .error (.refusal 413 "Failed to buffer the request body: length limit exceeded")
  else match Json.readDocument read r.body with
    | .ok a => .ok a
    | .error f =>
      match f.reason.kind with
      | .data => .error (.refusal 422
          ("Failed to deserialize the JSON body into the target type: " ++ f.pathMessage r.body))
      | _ => .error (.refusal 400
          ("Failed to parse the request body as JSON: " ++ f.pathMessage r.body))

def readQuery (name : String) (r : Request) : Except Response (Option String) :=
  match (Percent.formPairs r.query).filter (·.1 == name) with
  | [] => .ok none
  | [e] => .ok (some e.2)
  | _ => .error (.refusal 400
      ("Failed to deserialize query string: duplicate field \x60" ++ name ++ "\x60"))

def notFound (id : String) : Response := .error 404 ("script not found: " ++ id)

def refuse : WorkspaceFault → Response
  | .store f => .error 500 f.message
  | f => .error 400 f.message

def exportPlan (id : String) : Plan := ⟨id, .load, 10, 30⟩

def health : Response :=
  .document (.object [("status", .string "ok"), ("version", .string Program.version)])

def getScript (w : Workspace) (segment : List Char) : Response :=
  match Percent.decodeText? segment with
  | none => .refusal 400 "Invalid URL: Invalid UTF-8 in \x60id\x60"
  | some id =>
    match w.scripts.find? id with
    | some s => .document s.toValue
    | none => notFound id

def getK6 (w : Workspace) (r : Request) : Response :=
  match readQuery "id" r with
  | .error refusal => refusal
  | .ok id? =>
    match id?.filter fun id => !(Text.trim id).isEmpty with
    | none => .error 400 "missing query parameter: id"
    | some id =>
      match w.scripts.find? id with
      | some s => .ofBody 200 (.text (K6.file s (exportPlan id)))
      | none => notFound id

def getHistory (w : Workspace) (r : Request) : Response :=
  match readQuery "scriptId" r with
  | .error refusal => refusal
  | .ok id? =>
    match w.history (id?.filter (!·.isEmpty)) with
    | .ok rs => .document (.array (rs.map RunResult.toValue))
    | .error f => .error 500 f.message

def look (w : Workspace) (r : Request) : Endpoint → Response
  | .health => health
  | .scripts => .document (.array (w.scripts.findAll.map Script.toValue))
  | .k6 => getK6 w r
  | .script segment => getScript w segment
  | .history => getHistory w r
  | .run => .ofBody 405 .empty

def createScript (w : Workspace) (m : Moment) (r : Request) : Response × Workspace :=
  match readBody createRecord.read r with
  | .error refusal => (refusal, w)
  | .ok url =>
    match w.createScript m.now m.freshId url with
    | (.ok s, w) => (.document s.toValue, w)
    | (.error f, w) => (refuse f, w)

def runResponse : Workspace.RunEnd → Option Response
  | .refused f => some (.error 400 f.message)
  | .beyondClock => none
  | .done result => some (.document result.toValue)

def runTest (w : Workspace) (m : Moment) (r : Request) : Option Response × Workspace :=
  match readBody Plan.record.read r with
  | .error refusal => (some refusal, w)
  | .ok p =>
    let (ending, w) := w.runTest m.engine m.startedAt m.now p
    (runResponse ending, w)

def toRun? (w : Workspace) (r : Request) : Option (Script × Plan) := do
  if Endpoint.ofPath? r.path ≠ some .run ∨ r.method ≠ "POST" then none
  let p ← (readBody Plan.record.read r).toOption
  let s ← (w.runnable p).toOption
  some (s, p)

structure Answer where
  response : Response
  /-- Whether the body is sent. -/
  hasBody : Bool

/-- The answer to a request and the state after it; no answer where the request breaks down. -/
def handle (w : Workspace) (m : Moment) (r : Request) : Option Answer × Workspace :=
  let endpoint? := Endpoint.ofPath? r.path
  if r.method = "OPTIONS" then
    (some ⟨⟨200, .empty, endpoint?.map Endpoint.allow, true⟩, true⟩, w)
  else match endpoint? with
    | none => (some ⟨.ofBody 404 .empty, true⟩, w)
    | some e =>
      if !e.methods.contains r.method then
        (some ⟨⟨405, .empty, some e.allow, false⟩, true⟩, w)
      else match e, r.method with
        | .scripts, "POST" =>
          let (response, w) := createScript w m r
          (some ⟨response, true⟩, w)
        | .run, _ =>
          let (response, w) := runTest w m r
          (response.map (⟨·, true⟩), w)
        | e, method => (some ⟨look w r e, method ≠ "HEAD"⟩, w)

/-- Take a request in: it is answered at once, unless the server has to run something for it. -/
def receive (w : Workspace) (m : Moment) (r : Request) :
    (Option Answer ⊕ (Script × Plan)) × Workspace :=
  match toRun? w r with
  | some job => (.inr job, w)
  | none =>
    let (answer, w) := handle w m r
    (.inl answer, w)

/-- The answer to a request whose run is over, in a workspace that may have changed since. -/
def conclude (w : Workspace) (now : Int) (result : Option RunResult) :
    Option Answer × Workspace :=
  let (ending, w) := w.finishRun now result
  ((runResponse ending).map (⟨·, true⟩), w)

end Barrage.Web
