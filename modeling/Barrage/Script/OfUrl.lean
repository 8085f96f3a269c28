import Barrage.Script
import Barrage.Text.Blank
import Barrage.Url.Reader

/-! Scripts that ask for a single URL. -/

namespace Barrage

structure UrlRefusal where
  /-- The text as it was given. -/
  url : String
  cause : UrlFault
  deriving DecidableEq, Repr

def UrlRefusal.message (r : UrlRefusal) : String :=
  "invalid URL '" ++ r.url ++ "': " ++ r.cause.message

def hostedUrl (text : String) : Except UrlFault Url := do
  let u ← Url.ofText text
  if u.hasHost then .ok u else .error .noHost

/-- A script of one step for the URL of a text, without the blanks around it, under an identifier. -/
def Script.ofUrl (id text : String) : Except UrlRefusal Script :=
  match hostedUrl (Text.trim text) with
  | .ok _ => .ok ⟨id, [Step.get (Text.trim text)]⟩
  | .error cause => .error ⟨text, cause⟩

end Barrage
