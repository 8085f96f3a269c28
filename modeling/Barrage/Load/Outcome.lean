/-! How a request ends: with a response, or with a failure of one of four categories. -/

namespace Barrage

inductive Failure where
  /-- A response with a status of 400 or above. -/
  | http (status : UInt16)
  | timeout
  | connection (message : String)
  /-- The request could not be built from its step. -/
  | invalidRequest (message : String)
  deriving DecidableEq, Repr

namespace Failure

def category : Failure → String
  | .http _ => "http"
  | .timeout => "timeout"
  | .connection _ => "connection"
  | .invalidRequest _ => "invalid_request"

def message : Failure → String
  | .http status => "HTTP " ++ toString status.toNat
  | .timeout => "Request timed out"
  | .connection m => "Connection error: " ++ m
  | .invalidRequest m => "Invalid request: " ++ m

def categories : List String := ["connection", "http", "invalid_request", "timeout"]

theorem category_mem (f : Failure) : f.category ∈ categories := by
  cases f <;> simp [category, categories]

end Failure

abbrev Delivery := Except Failure UInt16

abbrev Outcome := Except Failure Unit

/-- A status below 400 is a success, any other a failure; without a response the reason stands. -/
def Delivery.outcome : Delivery → Outcome
  | .ok status => if status < 400 then .ok () else .error (.http status)
  | .error f => .error f

structure Duration where
  seconds : UInt64
  /-- Below a thousand million. -/
  nanos : Nat
  deriving DecidableEq, Repr

namespace Duration

def ofSeconds (seconds : UInt64) : Duration := ⟨seconds, 0⟩

def ofParts? (seconds : UInt64) (nanos : Nat) : Option Duration :=
  let total := seconds.toNat + nanos / 1000000000
  if total < UInt64.size then some ⟨UInt64.ofNat total, nanos % 1000000000⟩ else none

def toNanos (d : Duration) : Nat := d.seconds.toNat * 1000000000 + d.nanos

def millis (d : Duration) : UInt64 :=
  UInt64.ofNat (min (d.seconds.toNat * 1000 + d.nanos / 1000000) (UInt64.size - 1))

end Duration

structure Sample where
  millis : UInt64
  outcome : Outcome

end Barrage
