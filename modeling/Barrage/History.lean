import Barrage.Load.Result
import Barrage.Number.Decimals
import Barrage.Text.Ascii

/-! The history of runs as a table: a line for each run below a line of headings.
A text stands at the left of its column and a number at the right; what is wider than its column is
written in full. -/

namespace Barrage.History

def padding (width : Nat) (s : String) : String :=
  String.ofList (List.replicate (width - s.length) ' ')

def left (width : Nat) (s : String) : String := s ++ padding width s

def right (width : Nat) (s : String) : String := padding width s ++ s

def line (testId scriptId requests failed average p95 rate : String) : String :=
  Text.join " " [left 16 testId, left 38 scriptId, right 8 requests, right 8 failed,
    right 8 average, right 8 p95, right 10 rate] ++ "\n"

def headings : String := line "TEST ID" "SCRIPT" "REQS" "FAILED" "AVG ms" "P95 ms" "RPS"

def count (n : UInt64) : String := toString n.toNat

def row (r : RunResult) : String :=
  line r.testId r.scriptId (count r.totalRequests) (count r.failure) (count r.averageMillis)
    (count r.p95Millis) (String.ofList (r.rate.fixed 1))

def table (rs : List RunResult) : String := String.join (headings :: rs.map row)

end Barrage.History
