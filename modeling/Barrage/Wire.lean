import Barrage.Load.Network
import Barrage.Web.Router

/-! Requests and responses as they travel: a head of lines, an empty line, and a body.
One message travels each way, then the connection is closed. -/

namespace Barrage.Wire

structure Head where
  /-- The words of the first line. -/
  first : List String
  /-- The other lines: names in lower case, and their values. -/
  fields : List (String × String)

def longestHead : Nat := 65536

/-- How many letters stand before the first empty line, once it is there; `n` letters stand before
these. -/
def headLength? (n : Nat) : List Char → Option Nat
  | '\r' :: '\n' :: '\r' :: '\n' :: _ => some n
  | _ :: rest => headLength? (n + 1) rest
  | [] => none

namespace Head

def fieldOfLine? (line : List Char) : Option (String × String) :=
  let name := line.takeWhile (· ≠ ':')
  match line.drop name.length with
  | ':' :: value =>
    some (Text.lower (String.ofList name), String.ofList (Text.trimChars value))
  | _ => none

def ofLetters (letters : List Char) : Head :=
  match (Text.splitAt '\n' letters).map (·.filter (· ≠ '\r')) with
  | [] => ⟨[], []⟩
  | line :: rest => ⟨(Text.splitAt ' ' line).map String.ofList, rest.filterMap fieldOfLine?⟩

def field? (h : Head) (name : String) : Option String :=
  (h.fields.find? (·.1 == name)).map (·.2)

def status? (h : Head) : Option UInt16 := do Decimal.word16? (← h.first[1]?)

def isInterim (h : Head) : Bool :=
  match h.status? with
  | some s => 100 ≤ s && s < 200 && s ≠ 101
  | none => false

def bodyLength (h : Head) : Nat := ((h.field? "content-length").bind (·.toNat?)).getD 0

def request? (h : Head) (body : List UInt8) : Option Web.Request := do
  let method ← h.first[0]?
  let target := (← h.first[1]?).toList
  some {
    method
    path := target.takeWhile (· ≠ '?')
    query := (target.dropWhile (· ≠ '?')).drop 1
    contentType := h.field? "content-type"
    body := Symbol.ofBytes body }

end Head

def lines (l : List String) : String := Text.join "" (l.map (· ++ "\r\n")) ++ "\r\n"

def target (u : Url) : String :=
  String.ofList (u.pathText ++ match u.query with
    | some q => '?' :: q
    | none => [])

def hostText (u : Url) : String :=
  String.ofList (((u.host.map Host.text).getD []) ++ match u.port with
    | some p => ':' :: Decimal.digits p
    | none => [])

def requestText (r : Request) : String :=
  lines [r.method ++ " " ++ target r.url ++ " HTTP/1.1", "accept: */*",
    "host: " ++ hostText r.url, "connection: close"]

def reason : Nat → String
  | 200 => "OK"
  | 400 => "Bad Request"
  | 404 => "Not Found"
  | 405 => "Method Not Allowed"
  | 413 => "Payload Too Large"
  | 415 => "Unsupported Media Type"
  | 422 => "Unprocessable Entity"
  | _ => "Internal Server Error"

def bodyText : Web.Body → String
  | .empty => ""
  | .text s => s
  | .document v => v.compact

def responseText (a : Web.Answer) : String :=
  let body := bodyText a.response.body
  let fields := a.response.headers ++
    [("content-length", toString body.utf8ByteSize), ("connection", "close")]
  lines (("HTTP/1.1 " ++ toString a.response.status ++ " " ++ reason a.response.status) ::
    fields.map fun (name, value) => name ++ ": " ++ value) ++ (if a.hasBody then body else "")

end Barrage.Wire
