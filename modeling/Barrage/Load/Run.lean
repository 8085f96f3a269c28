import Barrage.Script
import Barrage.Load.Metrics

/-! The course of a run: virtual users that share metrics and an iteration counter.
Each user looks at the clock, performs the steps of one iteration in order and counts it, over and
over, until the deadline has passed. The moves of all users interleave in any order; each is a
single action on the shared state. -/

namespace Barrage

inductive Place where
  /-- About to look at the clock. -/
  | deciding
  /-- Waiting for the reply to a step, with more steps of the iteration to come. -/
  | waiting (step : Step) (rest : List Step)
  /-- All steps are done and the iteration is not yet counted. -/
  | counting
  /-- Found the deadline passed. -/
  | left
  /-- Failed in the middle of a step. -/
  | crashed (step : Step) (rest : List Step)
  deriving DecidableEq

structure User where
  place : Place
  /-- The steps recorded so far, in order. -/
  sent : List Step
  deriving DecidableEq

def User.initial : User := ⟨.deciding, []⟩

def Place.performing : List Step → Place
  | [] => .counting
  | s :: rest => .waiting s rest

structure Run where
  metrics : Metrics
  iterations : Nat
  /-- Whether the deadline has passed. -/
  expired : Bool
  users : List User

inductive Move where
  | expire
  | look (user : Nat)
  /-- The reply to the current step arrives and is recorded. -/
  | reply (user : Nat) (sample : Sample)
  | crash (user : Nat)
  | count (user : Nat)

namespace Run

def start (users : Nat) : Run := ⟨.empty, 0, false, List.replicate users .initial⟩

def setPlace (r : Run) (u : Nat) (user : User) (p : Place) : Run :=
  { r with users := r.users.set u { user with place := p } }

def move? (steps : List Step) (r : Run) : Move → Option Run
  | .expire => some { r with expired := true }
  | .look u => do
    let user ← r.users[u]?
    match user.place with
    | .deciding => some (r.setPlace u user (if r.expired then .left else .performing steps))
    | _ => none
  | .reply u sample => do
    let user ← r.users[u]?
    match user.place with
    | .waiting step rest =>
      some { r with
        metrics := r.metrics.record sample
        users := r.users.set u ⟨.performing rest, user.sent ++ [step]⟩ }
    | _ => none
  | .crash u => do
    let user ← r.users[u]?
    match user.place with
    | .waiting step rest => some (r.setPlace u user (.crashed step rest))
    | _ => none
  | .count u => do
    let user ← r.users[u]?
    match user.place with
    | .counting => some { r.setPlace u user .deciding with iterations := r.iterations + 1 }
    | _ => none

inductive Reachable (steps : List Step) (users : Nat) : Run → Prop where
  | start : Reachable steps users (start users)
  | move {r s : Run} (m : Move) : Reachable steps users r → r.move? steps m = some s →
      Reachable steps users s

end Run

/-- How the requests of users are answered: for a user and the number of its earlier requests, a
measured reply, or none when the request brings the user down. -/
abbrev Transport := (user : Nat) → (earlier : Nat) → Option Sample

namespace Run

def next? (t : Transport) (u : Nat) (user : User) : Option Move :=
  match user.place with
  | .deciding => some (.look u)
  | .waiting _ _ =>
    match t u user.sent.length with
    | some sample => some (.reply u sample)
    | none => some (.crash u)
  | .counting => some (.count u)
  | .left | .crashed _ _ => none

def advance (steps : List Step) (t : Transport) (may : User → Bool) (u : Nat) :
    Nat → Run → Run
  | 0, r => r
  | fuel + 1, r =>
    match r.users[u]? with
    | none => r
    | some user =>
      if may user then
        match (next? t u user).bind (r.move? steps) with
        | some s => advance steps t may u fuel s
        | none => r
      else r

def advanceAll (steps : List Step) (t : Transport) (may : User → Bool) (fuel : Nat) (r : Run) : Run :=
  (List.range r.users.length).foldl (fun s u => advance steps t may u fuel s) r

/-- Not yet waiting for the reply to the request with this number. -/
def before (n : Nat) (user : User) : Bool :=
  match user.place with
  | .waiting _ _ => user.sent.length + 1 < n
  | _ => true

/-- A run in which the deadline passes while every user's request number `n` is under way, or before
the start when `n` is zero. -/
def untilDeadline (steps : List Step) (t : Transport) (users n : Nat) : Run :=
  let fuel := 3 * (n + steps.length) + 3
  let first := if n = 0 then start users else advanceAll steps t (before n) fuel (start users)
  advanceAll steps t (fun _ => true) fuel { first with expired := true }

def toEnd (steps : List Step) (t : Transport) (users requests : Nat) : Run :=
  advanceAll steps t (fun _ => true) (3 * requests + 6) (start users)

def activeUsers (r : Run) : Nat :=
  r.users.countP fun u => match u.place with
    | .crashed _ _ => true
    | _ => !u.sent.isEmpty

end Run
end Barrage
