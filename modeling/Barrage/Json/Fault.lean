import Barrage.Found
import Barrage.Text.Symbol

/-! Why a document could not be read, and where. -/

namespace Barrage.Json

inductive Reason where
  | endInValue
  | endInString
  | endInList
  | endInObject
  | expectedValue
  | expectedWord
  | expectedColon
  | expectedListEnd
  | expectedObjectEnd
  | expectedKey
  | invalidEscape
  | loneSurrogate
  | missingSurrogate
  | brokenCharacter
  | controlCharacter
  | invalidNumber
  | numberOutOfRange
  | trailingComma
  | trailingCharacters
  /-- A well-formed value that does not fit. -/
  | misfit (m : Misfit)
  | wrongLength (length : Nat) (expected : String)
  | unknownVariant (name : String) (known : List String)
  | missingField (name : String)
  | duplicateField (name : String)
  /-- A text that does not stand for a value of its type. -/
  | unreadable (message : String)
  deriving DecidableEq, Repr

inductive Kind where
  | form
  | data
  | ending
  deriving DecidableEq, Repr

def Reason.kind : Reason → Kind
  | .endInValue | .endInString | .endInList | .endInObject => .ending
  | .misfit _ | .wrongLength .. | .unknownVariant .. | .missingField _
  | .duplicateField _ | .unreadable _ => .data
  | _ => .form

private def ticked (s : String) : String := "\x60" ++ s ++ "\x60"

def alternatives : List String → String
  | [] => "there are no variants"
  | [a] => "expected " ++ ticked a
  | [a, b] => "expected " ++ ticked a ++ " or " ++ ticked b
  | names => "expected one of " ++ String.intercalate ", " (names.map ticked)

def Reason.message : Reason → String
  | .endInValue => "EOF while parsing a value"
  | .endInString => "EOF while parsing a string"
  | .endInList => "EOF while parsing a list"
  | .endInObject => "EOF while parsing an object"
  | .expectedValue => "expected value"
  | .expectedWord => "expected ident"
  | .expectedColon => "expected \x60:\x60"
  | .expectedListEnd => "expected \x60,\x60 or \x60]\x60"
  | .expectedObjectEnd => "expected \x60,\x60 or \x60\x7d\x60"
  | .expectedKey => "key must be a string"
  | .invalidEscape => "invalid escape"
  | .loneSurrogate => "lone leading surrogate in hex escape"
  | .missingSurrogate => "unexpected end of hex escape"
  | .brokenCharacter => "invalid unicode code point"
  | .controlCharacter => "control character (\\u0000-\\u001F) found while parsing a string"
  | .invalidNumber => "invalid number"
  | .numberOutOfRange => "number out of range"
  | .trailingComma => "trailing comma"
  | .trailingCharacters => "trailing characters"
  | .misfit m => m.message Binary64.documentStyle
  | .wrongLength n expected => "invalid length " ++ toString n ++ ", expected " ++ expected
  | .unknownVariant name known => "unknown variant " ++ ticked name ++ ", " ++ alternatives known
  | .missingField name => "missing field " ++ ticked name
  | .duplicateField name => "duplicate field " ++ ticked name
  | .unreadable m => m

inductive Segment where
  | key (name : String)
  | index (n : Nat)
  deriving DecidableEq, Repr

def pathText : List Segment → String
  | [] => ""
  | [.key k] => k
  | [.index n] => "[" ++ toString n ++ "]"
  | .key k :: rest => k ++ (match rest with
      | .key _ :: _ => "."
      | _ => "") ++ pathText rest
  | .index n :: rest => "[" ++ toString n ++ "]" ++ (match rest with
      | .key _ :: _ => "."
      | _ => "") ++ pathText rest

/-- A reason with its place: what is left of the document there, and how many bytes of that are
already taken. -/
structure Fault where
  reason : Reason
  rest : List Symbol
  taken : Nat
  /-- The way to the value in which the fault lies. -/
  path : List Segment

namespace Fault

def here (reason : Reason) (rest : List Symbol) : Fault := ⟨reason, rest, 0, []⟩

def next (reason : Reason) (rest : List Symbol) : Fault := ⟨reason, rest, 1, []⟩

def within (s : Segment) (f : Fault) : Fault := { f with path := s :: f.path }

def position (document : List Symbol) (f : Fault) : Symbol.Place :=
  Symbol.Place.advance (Symbol.bytes document - Symbol.bytes f.rest + f.taken) document ⟨1, 0⟩

def message (document : List Symbol) (f : Fault) : String :=
  let p := f.position document
  f.reason.message ++ " at line " ++ toString p.line ++ " column " ++ toString p.column

def pathMessage (document : List Symbol) (f : Fault) : String :=
  (if f.path.isEmpty then "" else pathText f.path ++ ": ") ++ f.message document

end Fault
end Barrage.Json
