import Barrage.Load.Result

/-! Running a plan: the users make their moves, and what they recorded becomes a result. -/

namespace Barrage

structure Engine where
  /-- Seconds on the steady clock when the run starts. -/
  uptime : Nat
  /-- How the users' moves, the network and the deadline work together: the final state of a run of
  some steps by a number of users for a number of seconds. -/
  course : List Step → Nat → Nat → Run
  /-- How long the run takes. -/
  elapsed : Duration

namespace Engine

/-- The steady clock counts seconds below this number. -/
def clockEnd : Nat := 9223372036854775808

/-- An engine whose network answers at once, until it brings each user down after a number of
requests; the deadline of a run has passed at its start or lies beyond all requests. -/
def scripted (uptime : Nat) (t : Transport) (requests : Nat) : Engine where
  uptime := uptime
  course steps users seconds :=
    if seconds = 0 then Run.untilDeadline steps t users 0 else Run.toEnd steps t users requests
  elapsed := ⟨0, 1000000⟩

def play (e : Engine) (s : Script) (p : Plan) : Option Run :=
  if e.uptime + p.seconds.toNat < clockEnd then
    some (e.course s.steps p.users.toNat p.seconds.toNat)
  else none

def run (e : Engine) (startedAt : Instant) (s : Script) (p : Plan) : Option RunResult :=
  (e.play s p).map fun r => RunResult.ofMetrics p r.metrics r.iterations e.elapsed startedAt

end Engine
end Barrage
