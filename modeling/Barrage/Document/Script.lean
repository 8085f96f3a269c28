import Barrage.Json.Reader
import Barrage.Json.Value
import Barrage.Script

/-! Scripts as documents.
An empty set of headers and a missing body are not written, and reading takes a missing member for
what was left out. -/

namespace Barrage
open Json

def Protocol.name : Protocol → String
  | .http => "HTTP"

def Protocol.named? (s : String) : Option Protocol :=
  if s = Protocol.http.name then some .http else none

def Dict.toValue (f : α → Value) (d : Dict α) : Value := .object (d.entries.map fun e => (e.1, f e.2))

def Step.toValue (s : Step) : Value :=
  .object <|
    [("type", .string s.protocol.name), ("method", .string s.method), ("url", .string s.url)] ++
    (if s.header.isEmpty then [] else [("header", s.header.toValue .string)]) ++
    (match s.body with
      | some b => [("body", .string b)]
      | none => [])

structure Step.Draft where
  protocol : Option Protocol := none
  method : Option String := none
  url : Option String := none
  header : Option (Dict String) := none
  body : Option (Option String) := none

def Step.record : Record Step.Draft Step where
  name := "Step"
  empty := {}
  fields := [
    .of "type" true (·.protocol) (fun d v => { d with protocol := some v })
      (readVariant ["HTTP"] Protocol.named?),
    .of "method" false (·.method) (fun d v => { d with method := some v }) readString,
    .of "url" false (·.url) (fun d v => { d with url := some v }) readString,
    .of "header" true (·.header) (fun d v => { d with header := some v }) (readMap readString),
    .of "body" true (·.body) (fun d v => { d with body := some v }) (readOption readString)]
  build d := {
    protocol := d.protocol.getD .http
    method := d.method.getD ""
    url := d.url.getD ""
    header := d.header.getD {}
    body := d.body.getD none }

def Script.toValue (s : Script) : Value :=
  .object [("id", .string s.id), ("steps", .array (s.steps.map Step.toValue))]

structure Script.Draft where
  id : Option String := none
  steps : Option (List Step) := none

def Script.record : Record Script.Draft Script where
  name := "Script"
  empty := {}
  fields := [
    .of "id" false (·.id) (fun d v => { d with id := some v }) readString,
    .of "steps" false (·.steps) (fun d v => { d with steps := some v }) (readList Step.record.read)]
  build d := { id := d.id.getD "", steps := d.steps.getD [] }

def Script.ofText (text : String) : Except Fault Script := readText Script.record.read text

end Barrage
