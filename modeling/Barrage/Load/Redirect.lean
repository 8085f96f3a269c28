import Barrage.Load.Network
import Barrage.Url.Reference

/-! Responses that point elsewhere, and the requests that follow them. -/

namespace Barrage.Request

def mostRedirects : Nat := 10

/-- The method with which to follow a response; none when its status does not point elsewhere. -/
def redirectMethod? (method : String) (status : UInt16) : Option String :=
  match status.toNat with
  | 301 | 302 | 303 => some (if method = "HEAD" then method else "GET")
  | 307 | 308 => some method
  | _ => none

/-- The request that follows a response; none when the response is the last one. -/
def next? (r : Request) (status : UInt16) (location : Option String) : Option Request := do
  let method ← redirectMethod? r.method status
  let url ← r.url.follow? (← location)
  if isSendable url then some ⟨method, url.withoutCredentials⟩ else none

end Barrage.Request
