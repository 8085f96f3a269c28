import Barrage.Dict

/-! Test scripts: an ordered list of requests that one virtual user performs per iteration. -/

namespace Barrage

/-- The protocol of a step; plain request and response is the only one. -/
inductive Protocol where
  | http
  deriving DecidableEq, Repr, Inhabited

structure Step where
  protocol : Protocol
  method : String
  url : String
  /-- Request headers by name; part of the script, not sent. -/
  header : Dict String
  /-- A missing body differs from an empty one. -/
  body : Option String
  deriving DecidableEq, Inhabited

def Step.get (url : String) : Step := ⟨.http, "GET", url, {}, none⟩

def Step.requestLine (s : Step) : String := s.method ++ " " ++ s.url

structure Script where
  id : String
  steps : List Step
  deriving DecidableEq, Inhabited

end Barrage
