import Mathlib.Data.List.Pairwise
import Barrage.Proofs.SummaryRows
import Barrage.Proofs.Ties
import Barrage.Proofs.Totals

/-! Failures by category in a summary.
Below the figures of a run stands a row for each category with its count, the greatest count first
and equal counts by name, and nothing if there were no failures; so they are read back from the
text. The sort looks at counts only: that names decide between equal ones is the order of the
dictionary, which sorting keeps. -/

namespace Barrage

namespace Summary

section
variable (errors : Dict UInt64)

theorem byCount_perm : (byCount errors).Perm errors.entries := List.mergeSort_perm ..

theorem count_trans (a b c : String × UInt64) (h : decide (b.2 ≤ a.2) = true)
    (g : decide (c.2 ≤ b.2) = true) : decide (c.2 ≤ a.2) = true :=
  decide_eq_true (UInt64.le_trans (of_decide_eq_true g) (of_decide_eq_true h))

theorem count_total (a b : String × UInt64) :
    (decide (b.2 ≤ a.2) || decide (a.2 ≤ b.2)) = true := by
  simpa using UInt64.le_total b.2 a.2

theorem byCount_ties (n : UInt64) :
    (byCount errors).filter (·.2 = n) = errors.entries.filter (·.2 = n) := by
  refine filter_mergeSort count_trans count_total (fun a b here there => ?_) errors.entries
  rw [of_decide_eq_true here, of_decide_eq_true there]
  exact decide_eq_true (UInt64.le_refl n)

/-- The order of the rows: a category with a greater count comes first, and one with the same count
by its name. -/
def Precedes (a b : String × UInt64) : Prop := b.2 < a.2 ∨ a.2 = b.2 ∧ a.1 < b.1

instance (a b : String × UInt64) : Decidable (Precedes a b) :=
  inferInstanceAs (Decidable (b.2 < a.2 ∨ a.2 = b.2 ∧ a.1 < b.1))

theorem byCount_precedes : (byCount errors).Pairwise Precedes := by
  have falling := List.pairwise_mergeSort count_trans count_total errors.entries
  refine List.pairwise_iff_forall_sublist.2 fun {a b} pair => ?_
  have le : b.2 ≤ a.2 := of_decide_eq_true (List.pairwise_iff_forall_sublist.1 falling pair)
  rcases UInt64.lt_or_eq_of_le le with less | same
  · exact .inl less
  · -- both are among the categories with this count, where the dictionary's order stands
    have tied := pair.filter (·.2 = a.2)
    rw [byCount_ties] at tied
    have kept : [a, b].Sublist errors.entries := by
      refine .trans ?_ (tied.trans List.filter_sublist)
      simp [same]
    exact .inr ⟨same.symm, List.pairwise_iff_forall_sublist.1 errors.ascending kept⟩

theorem Precedes.antisymm {a b : String × UInt64} (h : Precedes a b) (g : Precedes b a) :
    a = b := by
  rcases h with less | ⟨same, before⟩
  · rcases g with more | ⟨same, -⟩
    · exact absurd less (UInt64.lt_asymm more)
    · exact absurd (same ▸ less) (UInt64.lt_irrefl _)
  · rcases g with more | ⟨-, after⟩
    · exact absurd (same ▸ more) (UInt64.lt_irrefl _)
    · exact absurd before (String.lt_asymm after)

theorem byCount_names_nodup : ((byCount errors).map Prod.fst).Nodup := by
  have names : (errors.entries.map Prod.fst).Nodup :=
    (List.pairwise_map.2 errors.ascending).imp String.ne_of_lt
  exact ((byCount_perm errors).map Prod.fst).nodup_iff.2 names

theorem mem_byCount_iff {category : String} {n : UInt64} :
    (category, n) ∈ byCount errors ↔ errors.get? category = some n := by
  rw [(byCount_perm errors).mem_iff, Dict.get?_eq_some_iff]

end

section
variable (colour : Bool) (r : RunResult) (p : Plan) (s : Script)

def figures : String := render colour { r with errors := {} } p s

theorem lines_eq_append :
    lines colour r p s = lines colour { r with errors := {} } p s ++ errorLines colour r := by
  rfl

theorem render_of_no_errors (none : r.errors.entries = []) :
    render colour r p s = figures colour r p s := by
  rw [figures, render, render, lines_eq_append, errorLines_eq, if_pos none, List.append_nil]

theorem render_of_errors (some : r.errors.entries ≠ []) :
    render colour r p s = figures colour r p s ++ "\n" ++
      Text.join "\n" ("" :: "  errors:" :: (byCount r.errors).map (errorRow colour)) := by
  rw [render, Text.join, lines_eq_append, errorLines_eq, if_neg some,
    String.intercalate_append_of_ne_nil (by simp [lines]) (by simp)]
  rfl

theorem render_eq_figures_iff :
    render colour r p s = figures colour r p s ↔ r.errors.entries = [] := by
  refine ⟨fun same => ?_, render_of_no_errors colour r p s⟩
  by_contra some
  have size := congrArg String.length (same.symm.trans (render_of_errors colour r p s some))
  simp only [String.length_append] at size
  have feed : "\n".length = 1 := rfl
  omega

theorem figures_failures : ∃ before after, figures colour r p s =
    before ++ "\n" ++ row "http_req_failed" (paint? colour (failureStyle? r) (failureText r)) ++
      "\n" ++ after := by
  let above := [header colour r p s,
    row "http_req_duration" (paint colour (latencyStyle r) (latencyText r)),
    row "http_reqs" (count r.totalRequests),
    row "http_req_success" (paint colour .green (count r.success))]
  let failed := row "http_req_failed" (paint? colour (failureStyle? r) (failureText r))
  let below := [row "http_req_rate" (String.ofList (r.rate.fixed 1) ++ " req/s"),
    row "iterations" (count r.iterations)]
  refine ⟨Text.join "\n" above, Text.join "\n" below, ?_⟩
  have parts : lines colour { r with errors := {} } p s = above ++ [failed] ++ below := rfl
  rw [figures, render, parts, Text.join,
    String.intercalate_append_of_ne_nil (by simp) (by simp [below]),
    String.intercalate_append_of_ne_nil (by simp [above]) (by simp), String.intercalate_singleton]
  rfl

end

section
variable {steps : List Step} {users : Nat} {run : Run} {e : Engine} {startedAt : Instant}
variable {s : Script} {p : Plan} {r : RunResult}
variable (reached : Run.Reachable steps users run) (played : e.play s p = some run)
variable (ran : e.run startedAt s p = some r)
include reached played ran

theorem sum_byCount_of_run :
    ((byCount r.errors).map (·.2.toNat)).sum % 2 ^ 64 = r.failure.toNat ∧
    (run.metrics.failure < 2 ^ 64 →
      ((byCount r.errors).map (·.2.toNat)).sum = r.failure.toNat) := by
  have balanced := reached.consistent.balanced
  rw [Engine.run, played, Option.map_some] at ran
  obtain rfl := Option.some.inj ran
  have same (errors : Dict UInt64) : ((byCount errors).map (·.2.toNat)).sum =
      (errors.values.map UInt64.toNat).sum := by
    rw [((byCount_perm errors).map _).sum_nat, Dict.values, List.map_map]
    rfl
  refine ⟨?_, fun small => (same _).trans (balanced.sum_errors small ..)⟩
  rw [same]
  simp only [RunResult.ofMetrics, Dict.values_map, List.map_map]
  have words : UInt64.toNat ∘ UInt64.ofNat = (· % 2 ^ 64) := by
    funext n
    simp
  rw [words, ← List.sum_nat_mod, ← balanced.failure]
  simp

theorem category_of_run : ∀ category ∈ r.errors.entries, category.1 ∈ Failure.categories := by
  have balanced := reached.consistent.balanced
  rw [Engine.run, played, Option.map_some] at ran
  obtain rfl := Option.some.inj ran
  intro category member
  obtain ⟨counted, known, rfl⟩ := List.mem_map.1 member
  exact (balanced.categories counted known).2

theorem oneLine_of_run : ∀ category ∈ r.errors.entries, '\n' ∉ category.1.toList := by
  have oneLine : ∀ c ∈ Failure.categories, '\n' ∉ c.toList := by decide
  exact fun category member => oneLine _ (category_of_run reached played ran category member)

theorem readErrors?_of_run (colour : Bool) : readErrors? (render colour r p s) =
    if r.errors.entries = [] then none else some (byCount r.errors) := by
  have known := category_of_run reached played ran
  have whole : ∀ c ∈ Failure.categories, String.ofList (withoutDots c.toList) = c := by decide
  have names : (byCount r.errors).map (fun e => (String.ofList (withoutDots e.1.toList), e.2)) =
      (byCount r.errors).map id :=
    List.map_congr_left fun e member => by
      rw [whole _ (known e (List.mem_mergeSort.1 member))]
      rfl
  rw [readErrors?_render colour p s (oneLine_of_run reached played ran), names, List.map_id]

theorem readFailures?_of_run (colour : Bool) :
    readFailures? (render colour r p s) = some r.failure :=
  readFailures?_render colour p s (oneLine_of_run reached played ran)

end

/-- For every result: below the figures, which tell the number of failures, a summary has rows for
the categories exactly if there are any. Every category has one row, with its own count, and they
stand in the order of their counts from the greatest down, and of their names where counts are
equal. This is what the text reads as from its last line up, where no name breaks its line and but
for dots at the end of a name; in a result of a run there are no such names, and the counts that are
read sum up to the number of failures that is read. -/
theorem errors_broken_down (colour : Bool) (r : RunResult) (p : Plan) (s : Script) :
    let rows := byCount r.errors
    let text := render colour r p s
    (text = figures colour r p s ↔ r.errors.entries = []) ∧
    (r.errors.entries ≠ [] → text = figures colour r p s ++ "\n" ++
      Text.join "\n" ("" :: "  errors:" :: rows.map (errorRow colour))) ∧
    rows.Perm r.errors.entries ∧ (rows.map Prod.fst).Nodup ∧
    (∀ category n, (category, n) ∈ rows ↔ r.errors.get? category = some n) ∧
    rows.Pairwise Precedes ∧
    (∃ before after, figures colour r p s =
      before ++ "\n" ++ row "http_req_failed" (paint? colour (failureStyle? r) (failureText r)) ++
        "\n" ++ after) ∧
    printed? (failureText r) = some r.failure ∧
    (∀ e ∈ rows, printed? (count e.2) = some e.2 ∧
      readRow? (errorRow colour e).toList = some (margin ++ withoutDots e.1.toList, e.2)) ∧
    ((∀ e ∈ r.errors.entries, '\n' ∉ e.1.toList) → readFailures? text = some r.failure ∧
      readErrors? text = if r.errors.entries = [] then none
        else some (rows.map fun e => (String.ofList (withoutDots e.1.toList), e.2))) ∧
    ∀ (steps : List Step) (users : Nat) (run : Run) (e : Engine) (startedAt : Instant),
      Run.Reachable steps users run → e.play s p = some run → e.run startedAt s p = some r →
      readErrors? text = (if r.errors.entries = [] then none else some rows) ∧
      readFailures? text = some r.failure ∧
      (rows.map (·.2.toNat)).sum % 2 ^ 64 = r.failure.toNat ∧
      (run.metrics.failure < 2 ^ 64 → (rows.map (·.2.toNat)).sum = r.failure.toNat) :=
  ⟨render_eq_figures_iff colour r p s, render_of_errors colour r p s, byCount_perm r.errors,
    byCount_names_nodup r.errors, fun _ _ => mem_byCount_iff r.errors, byCount_precedes r.errors,
    figures_failures colour r p s, printed?_failureText r,
    fun e _ => ⟨printed?_count e.2, readRow?_errorRow colour e⟩,
    fun oneLine => ⟨readFailures?_render colour p s oneLine, readErrors?_render colour p s oneLine⟩,
    fun _ _ _ _ _ reached played ran => ⟨readErrors?_of_run reached played ran colour,
      readFailures?_of_run reached played ran colour, sum_byCount_of_run reached played ran⟩⟩

/-- A run of one user with four failures, of which two are timeouts. -/
theorem errors_broken_down_tied :
    let steps := [Step.get "http://h/"]
    let s : Script := ⟨"s", steps⟩
    let p : Plan := ⟨"s", .load, 1, 1⟩
    let run : Run := ⟨⟨4, 0, 4, [1, 2, 3, 4],
      Dict.ofList [("connection", 1), ("http", 1), ("timeout", 2)]⟩, 4, true,
      [⟨.left, steps ++ steps ++ steps ++ steps⟩]⟩
    let e : Engine := ⟨0, fun _ _ _ => run, ⟨1, 0⟩⟩
    Run.Reachable steps 1 run ∧ run.metrics.failure < 2 ^ 64 ∧ e.play s p = some run ∧
      ∃ r, e.run ⟨0, 0⟩ s p = some r ∧ r.errors.entries ≠ [] ∧
        readErrors? (render true r p s) = some [("timeout", 2), ("connection", 1), ("http", 1)] ∧
        readFailures? (render true r p s) = some 4 ∧
        ((byCount r.errors).map (·.2.toNat)).sum = r.failure.toNat ∧
        render true r p s = figures true r p s ++ "\n" ++
          Text.join "\n" ("" :: "  errors:" :: (byCount r.errors).map (errorRow true)) := by
  intro steps s p run e
  have reached : Run.Reachable steps 1 run := Run.Reachable.start.moves
    [.look 0, .reply 0 ⟨1, .error .timeout⟩, .count 0,
      .look 0, .reply 0 ⟨2, .error (.http 503)⟩, .count 0,
      .look 0, .reply 0 ⟨3, .error (.connection "refused")⟩, .count 0,
      .look 0, .reply 0 ⟨4, .error .timeout⟩, .expire, .count 0, .look 0] (by rfl)
  have small : run.metrics.failure < 2 ^ 64 := by decide
  have played : e.play s p = some run := rfl
  obtain ⟨r, ran, failures⟩ : ∃ r, e.run ⟨0, 0⟩ s p = some r ∧ r.failure = 4 := ⟨_, rfl, rfl⟩
  have entries : r.errors.entries = [("connection", 1), ("http", 1), ("timeout", 2)] := by
    obtain rfl := Option.some.inj ran
    decide
  have failed : r.errors.entries ≠ [] := by
    rw [entries]
    decide
  obtain ⟨-, block, perm, -, -, order, -, -, -, -, reads⟩ := errors_broken_down true r p s
  obtain ⟨errors, failures', -, counts⟩ := reads steps 1 run e _ reached played ran
  rw [entries] at perm
  have shuffled : [("connection", 1), ("http", 1), ("timeout", 2)].Perm
      [("timeout", (2 : UInt64)), ("connection", 1), ("http", 1)] := by decide
  have rows : byCount r.errors = [("timeout", 2), ("connection", 1), ("http", 1)] :=
    List.Perm.eq_of_pairwise (fun _ _ _ _ => Precedes.antisymm) order (by decide)
      (perm.trans shuffled)
  rw [if_neg failed, rows] at errors
  rw [failures] at failures'
  exact ⟨reached, small, played, r, ran, failed, errors, failures', counts small, block failed⟩

end Summary
end Barrage
