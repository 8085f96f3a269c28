import Barrage.Load.Outcome
import Barrage.Script
import Barrage.Text.Blank
import Barrage.Url.Reader

/-! Requests over the network.
A step becomes a request if its method is one and its URL can be asked for; what a network answers to
a request is given from outside. -/

namespace Barrage

structure Request where
  method : String
  url : Url
  deriving DecidableEq, Repr

namespace Request

def methodOf (s : Step) : String := Text.upper (Text.trim s.method)

def isMethod (m : String) : Bool := m.toList ≠ [] && m.toList.all Text.isTokenChar

def isUnsendable (c : Char) : Bool := c = '"' || c.toNat = 0x60 || c = '\x7b' || c = '\x7d'

def longest : Nat := 65534

def isSendable (u : Url) : Bool :=
  (u.scheme = "http".toList || u.scheme = "https".toList) && u.hasHost &&
    !((u.host.map Host.text).getD []).any isUnsendable && u.text.length ≤ longest

/-- The address as messages show it; credentials are taken out of one with a host. -/
def shown (u : Url) : String :=
  String.ofList (if u.hasHost then u.withoutCredentials else u).text

def ofStep (s : Step) : Except Failure Request :=
  if !isMethod (methodOf s) then
    .error (.invalidRequest ("invalid method '" ++ s.method ++ "': invalid HTTP method"))
  else match Url.ofText s.url with
    | .error _ => .error (.invalidRequest "builder error")
    | .ok u =>
      if isSendable u then .ok ⟨methodOf s, u.withoutCredentials⟩
      else .error (.invalidRequest ("builder error for url (" ++ shown u ++ ")"))

end Request

abbrev Network := Request → Delivery

def Network.send (n : Network) (s : Step) : Delivery := do n (← Request.ofStep s)

end Barrage
