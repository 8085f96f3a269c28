import Barrage.Load.Result
import Barrage.Number.Decimals

/-! The summary of a run for a terminal, with or without colours. -/

namespace Barrage.Summary

inductive Style where
  | bold
  | red
  | green
  | yellow
  deriving DecidableEq, Repr

def Style.code : Style → String
  | .bold => "1"
  | .red => "31"
  | .green => "32"
  | .yellow => "33"

def paint (colour : Bool) (style : Style) (s : String) : String :=
  if colour then "\x1b[" ++ style.code ++ "m" ++ s ++ "\x1b[0m" else s

/-- How many characters the name of a row takes, with the dots after it. -/
def nameWidth : Nat := 32

def row (name value : String) : String :=
  "  " ++ name ++ String.ofList (List.replicate (nameWidth - name.length) '.') ++ ": " ++ value

def count (n : UInt64) : String := toString n.toNat

def header (colour : Bool) (r : RunResult) (p : Plan) (s : Script) : String :=
  Text.join "\n" [
    "",
    "          /\\      |  " ++ paint colour .bold "loadrig",
    "         /  \\     |",
    "    /\\  /    \\    |  script:    " ++ r.scriptId,
    "   /  \\/      \\   |  type:      " ++ p.kind.name,
    "  /    \\       \\  |  vus:       " ++ toString p.users.toNat,
    " /      \\       \\ |  duration:  " ++ count p.seconds ++ "s (" ++
      toString s.steps.length ++ " steps)",
    ""]

def latencyText (r : RunResult) : String :=
  "avg=" ++ count r.averageMillis ++ "ms  p90=" ++ count r.p90Millis ++ "ms  p95=" ++
    count r.p95Millis ++ "ms  p99=" ++ count r.p99Millis ++ "ms"

/-- Green while 99 of 100 requests take less than a second. -/
def latencyStyle (r : RunResult) : Style := if r.p99Millis < 1000 then .green else .yellow

def failurePercent (r : RunResult) : Binary64 := r.failureRate * .ofNat 100

def failureText (r : RunResult) : String :=
  count r.failure ++ " (" ++ String.ofList ((failurePercent r).fixed 1) ++ "%)"

/-- Red above five percent, yellow above one. -/
def failureStyle? (r : RunResult) : Option Style :=
  if (failurePercent r).exceeds 5 then some .red
  else if (failurePercent r).exceeds 1 then some .yellow
  else none

def paint? (colour : Bool) (style : Option Style) (s : String) : String :=
  match style with
  | some st => paint colour st s
  | none => s

/-- The failures by category: the most frequent first, equally frequent ones by name. -/
def byCount (errors : Dict UInt64) : List (String × UInt64) :=
  errors.entries.mergeSort fun a b => b.2 ≤ a.2

def errorLines (colour : Bool) (r : RunResult) : List String :=
  if r.errors.isEmpty then []
  else "" :: "  errors:" :: (byCount r.errors).map fun e =>
    row ("    " ++ e.1) (paint colour .red (count e.2))

def lines (colour : Bool) (r : RunResult) (p : Plan) (s : Script) : List String :=
  [header colour r p s,
    row "http_req_duration" (paint colour (latencyStyle r) (latencyText r)),
    row "http_reqs" (count r.totalRequests),
    row "http_req_success" (paint colour .green (count r.success)),
    row "http_req_failed" (paint? colour (failureStyle? r) (failureText r)),
    row "http_req_rate" (String.ofList (r.rate.fixed 1) ++ " req/s"),
    row "iterations" (count r.iterations)] ++ errorLines colour r

def render (colour : Bool) (r : RunResult) (p : Plan) (s : Script) : String :=
  Text.join "\n" (lines colour r p s)

end Barrage.Summary
