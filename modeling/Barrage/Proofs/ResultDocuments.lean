import Barrage.Document.Result
import Barrage.Proofs.Bindings
import Barrage.Proofs.Instants
import Barrage.Proofs.Numerals

/-! Records of runs come back from their documents.
All counts of 64 bits, the failures by category and the start come back exactly, and so does the
rate if its decimal digits stand for it. -/

namespace Barrage
open Json

theorem Instant.Regular.reads {t : Instant} (h : t.Regular) (l : Layout) :
    Reads readInstant l (.string (String.ofList t.text)) t := by
  refine .named ?_
  rw [Instant.ofText_of_written h h.written]
  rfl

theorem reads_wordValue (l : Layout) (n : UInt64) : Reads readWord64 l (wordValue n) n := .word64 n

theorem Dict.reads_toValue (l : Layout) (d : Dict UInt64) :
    Reads (readMap readWord64) l (d.toValue wordValue) d := by
  have members : Reads (readMap readWord64) l (d.toValue wordValue) (Dict.ofList d.entries) :=
    .map <| List.forall₂_map_left_iff.2 <|
      List.forall₂_same.2 fun e _ => ⟨rfl, reads_wordValue l e.2⟩
  rwa [Dict.ofList_of_perm (.refl _)] at members

theorem Dict.isEmpty_iff {α : Type} {d : Dict α} : d.isEmpty = true ↔ d = {} := by
  obtain ⟨entries, ascending⟩ := d
  cases entries with
  | nil => exact ⟨fun _ => rfl, fun _ => rfl⟩
  | cons e rest => exact ⟨fun h => (by cases h), fun h => (by cases h)⟩

namespace RunResult

def drafted (r : RunResult) : Draft where
  testId := some r.testId
  scriptId := some r.scriptId
  totalRequests := some r.totalRequests
  success := some r.success
  failure := some r.failure
  averageMillis := some r.averageMillis
  p90Millis := some r.p90Millis
  p95Millis := some r.p95Millis
  p99Millis := some r.p99Millis
  rate := some r.rate
  iterations := some r.iterations
  startedAt := some r.startedAt

theorem fills_drafted {r : RunResult} (rate : r.rate.ReadsBack) (started : r.startedAt.Regular)
    (l : Layout) :
    record.Fills l {}
      [("testId", .string r.testId), ("scriptId", .string r.scriptId),
        ("totalRequests", wordValue r.totalRequests), ("success", wordValue r.success),
        ("failure", wordValue r.failure), ("avgLatencyMs", wordValue r.averageMillis),
        ("p90LatencyMs", wordValue r.p90Millis), ("p95LatencyMs", wordValue r.p95Millis),
        ("p99LatencyMs", wordValue r.p99Millis), ("rps", .real r.rate),
        ("iterations", wordValue r.iterations),
        ("startedAt", .string (String.ofList r.startedAt.text))] r.drafted :=
  .cons rfl rfl (.field (.string r.testId) _) <|
  .cons rfl rfl (.field (.string r.scriptId) _) <|
  .cons rfl rfl (.field (reads_wordValue l r.totalRequests) _) <|
  .cons rfl rfl (.field (reads_wordValue l r.success) _) <|
  .cons rfl rfl (.field (reads_wordValue l r.failure) _) <|
  .cons rfl rfl (.field (reads_wordValue l r.averageMillis) _) <|
  .cons rfl rfl (.field (reads_wordValue l r.p90Millis) _) <|
  .cons rfl rfl (.field (reads_wordValue l r.p95Millis) _) <|
  .cons rfl rfl (.field (reads_wordValue l r.p99Millis) _) <|
  .cons rfl rfl (.field (rate.reads l) _) <|
  .cons rfl rfl (.field (reads_wordValue l r.iterations) _) <|
  .cons rfl rfl (.field (started.reads l) _) <| .nil _

theorem fills_errors (l : Layout) (errors : Dict UInt64) {d : Draft} (unset : d.errors = none) :
    record.Fills l d [("errors", errors.toValue wordValue)] { d with errors := some errors } :=
  .cons rfl (congrArg Option.isSome unset) (.field (errors.reads_toValue l) _) (.nil _)

theorem reads_toValue {r : RunResult} (rate : r.rate.ReadsBack) (started : r.startedAt.Regular)
    (l : Layout) : Reads record.read l r.toValue r := by
  have start := fills_drafted rate started l
  by_cases none : r.errors.isEmpty
  · have built : record.build r.drafted = { r with errors := {} } := rfl
    rw [← Dict.isEmpty_iff.1 none] at built
    have read := Reads.record start rfl
    rw [built] at read
    rw [toValue, if_pos none]
    exact read
  · rw [toValue, if_neg none]
    exact Reads.record (start.append (fills_errors l r.errors rfl)) rfl

end RunResult

/-- A record is read from its own text in both layouts, if its rate comes back from its digits and
its start is one that can be read at all. The start is written in UTC, and the failures by category
are left out when there are none. -/
theorem results_come_back (r : RunResult) (rate : r.rate.ReadsBack)
    (started : ∃ text, Instant.ofText text = .ok r.startedAt) :
    readText RunResult.record.read r.toValue.compact = .ok r ∧
    readText RunResult.record.read r.toValue.pretty = .ok r ∧
    ∃ members, r.toValue = .object members ∧
      ("startedAt", .string (String.ofList r.startedAt.text)) ∈ members ∧
      r.startedAt.Written r.startedAt.text ∧
      ("errors" ∈ members.map Prod.fst ↔ r.errors ≠ {}) := by
  have regular := Instant.exists_ofText_iff.1 started
  have read (l : Layout) := (RunResult.reads_toValue rate regular l).text
  refine ⟨read .compact, read .pretty, _, rfl, by simp, regular.written, ?_⟩
  rw [Ne, ← Dict.isEmpty_iff]
  cases r.errors.isEmpty <;> simp

/-- A leap second far in the future, the greatest counts, and a rate of one and a half. -/
theorem results_come_back_leap_second :
    let rate := Binary64.finite false ⟨6755399441055744 + 1022 * Binary64.stride, by decide⟩
    let errors : Dict UInt64 := ⟨[("http", 18446744073709551615), ("timeout", 0)], by decide⟩
    let r : RunResult := ⟨"id", "s\n", 18446744073709551615, 0, 18446744073709551615, 1, 2, 3, 4,
      rate, 0, ⟨327434918399, 1500000000⟩, errors⟩
    realText rate = "1.5".toList ∧ r.startedAt.text = "+12345-12-31T23:59:60.500Z".toList ∧
      readText RunResult.record.read r.toValue.pretty = .ok r := by
  intro rate errors r
  have digits : realText rate = "1.5".toList := by decide +kernel
  have back : rate.ReadsBack := by
    rw [Binary64.ReadsBack, digits]
    exact eq_ok_of_toOption (by decide +kernel)
  have started : Instant.ofText "+12345-12-31 23:59:60.5 UTC" = .ok r.startedAt := by rfl
  exact ⟨digits, by decide +kernel, (results_come_back r back ⟨_, started⟩).2.1⟩

end Barrage
