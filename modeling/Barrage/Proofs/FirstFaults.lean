import Barrage.Load.Validation
import Barrage.Proofs.Trimming

/-! The first fault of a script.
A script is fit to run if it has steps and each of them is complete: neither its URL nor its method
is blank. The check goes through the steps in their order and blames the first that is not complete,
for its URL before its method. -/

namespace Barrage

def Step.fault? (k : Nat) (s : Step) : Option ScriptFault :=
  if (Text.trim s.url).isEmpty then some (.emptyUrl k)
  else if (Text.trim s.method).isEmpty then some (.emptyMethod k)
  else none

namespace Step
variable {s : Step} {k n : Nat}

theorem isComplete_iff :
    s.isComplete = true ↔ Text.isBlankText s.url = false ∧ Text.isBlankText s.method = false := by
  simp [isComplete, Text.isEmpty_trim]

theorem fault?_eq_none_iff : s.fault? k = none ↔ s.isComplete = true := by
  simp only [fault?, isComplete_iff, Text.isEmpty_trim]
  cases Text.isBlankText s.url <;> cases Text.isBlankText s.method <;> simp

theorem fault?_eq_emptyUrl_iff :
    s.fault? k = some (.emptyUrl n) ↔ n = k ∧ Text.isBlankText s.url = true := by
  simp only [fault?, Text.isEmpty_trim]
  cases Text.isBlankText s.url <;> cases Text.isBlankText s.method <;> simp [eq_comm]

theorem fault?_eq_emptyMethod_iff :
    s.fault? k = some (.emptyMethod n) ↔
      n = k ∧ Text.isBlankText s.url = false ∧ Text.isBlankText s.method = true := by
  simp only [fault?, Text.isEmpty_trim]
  cases Text.isBlankText s.url <;> cases Text.isBlankText s.method <;> simp [eq_comm]

theorem fault?_names_step {f : ScriptFault} (h : s.fault? k = some f) :
    f = .emptyUrl k ∨ f = .emptyMethod k := by
  rw [fault?] at h
  split at h
  · exact .inl (Option.some.inj h).symm
  split at h
  · exact .inr (Option.some.inj h).symm
  · cases h

end Step

/-- The first step that is not complete, with the number of steps before it. -/
structure FirstIncomplete (steps : List Step) (n : Nat) (s : Step) : Prop where
  there : steps[n]? = some s
  incomplete : s.isComplete = false
  before : ∀ t ∈ steps.take n, t.isComplete = true

section
variable {s t : Step} {rest steps : List Step} {k n : Nat} {f : ScriptFault}

theorem firstIncomplete_cons_zero_iff :
    FirstIncomplete (s :: rest) 0 t ↔ s = t ∧ t.isComplete = false := by
  constructor
  · rintro ⟨there, incomplete, -⟩
    exact ⟨by simpa using there, incomplete⟩
  · rintro ⟨rfl, incomplete⟩
    exact ⟨rfl, incomplete, by simp⟩

theorem firstIncomplete_cons_succ_iff :
    FirstIncomplete (s :: rest) (n + 1) t ↔ s.isComplete = true ∧ FirstIncomplete rest n t := by
  constructor
  · rintro ⟨there, incomplete, before⟩
    rw [List.take_succ_cons, List.forall_mem_cons] at before
    exact ⟨before.1, by simpa using there, incomplete, before.2⟩
  · rintro ⟨first, there, incomplete, before⟩
    exact ⟨by simpa using there, incomplete, List.forall_mem_cons.2 ⟨first, before⟩⟩

theorem checkSteps_cons (k : Nat) (s : Step) (rest : List Step) :
    checkSteps k (s :: rest) =
      match s.fault? k with
      | some f => .error f
      | none => checkSteps (k + 1) rest := by
  rw [checkSteps, Step.fault?]
  split_ifs <;> rfl

theorem checkSteps_eq_ok_iff :
    checkSteps k steps = .ok () ↔ ∀ s ∈ steps, s.isComplete = true := by
  induction steps generalizing k with
  | nil => simp [checkSteps]
  | cons s rest ih =>
    rw [checkSteps_cons, List.forall_mem_cons, ← Step.fault?_eq_none_iff (k := k)]
    cases s.fault? k with
    | some f => simp
    | none => simpa using ih

theorem checkSteps_eq_error_iff :
    checkSteps k steps = .error f ↔
      ∃ n s, FirstIncomplete steps n s ∧ s.fault? (k + n) = some f := by
  induction steps generalizing k with
  | nil =>
    refine iff_of_false (by simp [checkSteps]) ?_
    rintro ⟨n, s, first, -⟩
    simpa using first.there
  | cons s rest ih =>
    rw [checkSteps_cons]
    cases fault : s.fault? k with
    | some g =>
      have incomplete : s.isComplete = false := by
        rw [← Bool.not_eq_true, ← Step.fault?_eq_none_iff (k := k), fault]
        simp
      constructor
      · intro same
        cases same
        exact ⟨0, s, firstIncomplete_cons_zero_iff.2 ⟨rfl, incomplete⟩, fault⟩
      · rintro ⟨n, t, first, named⟩
        cases n with
        | zero =>
          obtain ⟨rfl, -⟩ := firstIncomplete_cons_zero_iff.1 first
          rw [Nat.add_zero, fault] at named
          rw [Option.some.inj named]
        | succ n =>
          rw [(firstIncomplete_cons_succ_iff.1 first).1] at incomplete
          cases incomplete
    | none =>
      have complete : s.isComplete = true := Step.fault?_eq_none_iff.1 fault
      refine ih.trans ⟨?_, ?_⟩
      · rintro ⟨n, t, first, named⟩
        refine ⟨n + 1, t, firstIncomplete_cons_succ_iff.2 ⟨complete, first⟩, ?_⟩
        rwa [Nat.add_right_comm] at named
      · rintro ⟨n, t, first, named⟩
        cases n with
        | zero =>
          obtain ⟨rfl, incomplete⟩ := firstIncomplete_cons_zero_iff.1 first
          rw [complete] at incomplete
          cases incomplete
        | succ n =>
          refine ⟨n, t, (firstIncomplete_cons_succ_iff.1 first).2, ?_⟩
          rwa [Nat.add_right_comm]

end

theorem Script.check_eq_ok_iff {s : Script} :
    s.check = .ok () ↔ s.steps ≠ [] ∧ ∀ t ∈ s.steps, t.isComplete = true := by
  rw [check]
  split
  · next none => simp [List.isEmpty_iff.1 none]
  · next some =>
    rw [checkSteps_eq_ok_iff]
    exact (and_iff_right fun none => some (List.isEmpty_iff.2 none)).symm

theorem Script.check_eq_error_iff {s : Script} {f : ScriptFault} :
    s.check = .error f ↔ (s.steps = [] ∧ f = .noSteps) ∨
      ∃ n t, FirstIncomplete s.steps n t ∧ t.fault? (n + 1) = some f := by
  rw [check]
  split
  · next none =>
    have empty := List.isEmpty_iff.1 none
    have never : ¬ ∃ n t, FirstIncomplete s.steps n t ∧ t.fault? (n + 1) = some f := by
      rintro ⟨n, t, first, -⟩
      simpa [empty] using first.there
    rw [or_iff_left never, and_iff_right empty, Except.error.injEq, eq_comm]
  · next some =>
    simp only [checkSteps_eq_error_iff, Nat.add_comm 1]
    exact ⟨.inr, fun h => h.resolve_left fun none => some (List.isEmpty_iff.2 none.1)⟩

theorem Script.check_ne_scriptNotFound (s : Script) (id : String) :
    s.check ≠ .error (.scriptNotFound id) := by
  rw [Ne, check_eq_error_iff]
  rintro (⟨-, same⟩ | ⟨n, t, -, fault⟩)
  · cases same
  · rcases Step.fault?_names_step fault with same | same <;> cases same

theorem Script.check_eq_noSteps_iff {s : Script} : s.check = .error .noSteps ↔ s.steps = [] := by
  rw [check_eq_error_iff]
  constructor
  · rintro (⟨none, -⟩ | ⟨n, t, -, fault⟩)
    · exact none
    · rcases Step.fault?_names_step fault with same | same <;> cases same
  · exact fun none => .inl ⟨none, rfl⟩

theorem Script.check_eq_emptyUrl_iff {s : Script} {k : Nat} :
    s.check = .error (.emptyUrl k) ↔
      ∃ n t, k = n + 1 ∧ FirstIncomplete s.steps n t ∧ Text.isBlankText t.url = true := by
  simp only [check_eq_error_iff, Step.fault?_eq_emptyUrl_iff, reduceCtorEq, and_false, false_or]
  exact exists_congr fun n => exists_congr fun t => and_left_comm

theorem Script.check_eq_emptyMethod_iff {s : Script} {k : Nat} :
    s.check = .error (.emptyMethod k) ↔
      ∃ n t, k = n + 1 ∧ FirstIncomplete s.steps n t ∧ Text.isBlankText t.url = false := by
  simp only [check_eq_error_iff, Step.fault?_eq_emptyMethod_iff, reduceCtorEq, and_false, false_or]
  refine exists_congr fun n => exists_congr fun t => ?_
  constructor
  · rintro ⟨first, number, url, -⟩
    exact ⟨number, first, url⟩
  · rintro ⟨number, first, url⟩
    -- the step is not complete, and it is not its URL that is missing
    have incomplete := first.incomplete
    rw [← Bool.not_eq_true, Step.isComplete_iff, not_and, Bool.not_eq_false] at incomplete
    exact ⟨first, number, url, incomplete url⟩

theorem checkFound_eq_ok_iff {id : String} {found : Option Script} {s : Script} :
    checkFound id found = .ok s ↔ found = some s ∧ s.check = .ok () := by
  cases found with
  | none => simp [checkFound]
  | some t =>
    cases checked : t.check with
    | error f =>
      simp only [checkFound, checked, Except.map, reduceCtorEq, Option.some.injEq, false_iff]
      rintro ⟨rfl, fit⟩
      rw [checked] at fit
      cases fit
    | ok =>
      simp only [checkFound, checked, Except.map, Except.ok.injEq, Option.some.injEq]
      exact ⟨fun same => ⟨same, same ▸ checked⟩, And.left⟩

theorem checkFound_eq_error_iff {id : String} {found : Option Script} {f : ScriptFault} :
    checkFound id found = .error f ↔ (found = none ∧ f = .scriptNotFound id) ∨
      ∃ s, found = some s ∧ s.check = .error f := by
  cases found with
  | none => simp [checkFound, eq_comm]
  | some t => cases checked : t.check <;> simp [checkFound, checked, Except.map]

/-- The check accepts a script exactly if it was found, has steps, and all of them are complete.
Otherwise it names the identifier that nothing was found under, or that there are no steps, or the
first step that is not complete, counted from one: for its URL if that is blank, whatever its method
is, and else for its method. -/
theorem script_faults_decided (id : String) (found : Option Script) :
    (∀ s, checkFound id found = .ok s ↔
      found = some s ∧ s.steps ≠ [] ∧ ∀ t ∈ s.steps, t.isComplete = true) ∧
    (∀ t : Step, t.isComplete = true ↔
      Text.isBlankText t.url = false ∧ Text.isBlankText t.method = false) ∧
    (∀ other, checkFound id found = .error (.scriptNotFound other) ↔
      found = none ∧ other = id) ∧
    (checkFound id found = .error .noSteps ↔ ∃ s, found = some s ∧ s.steps = []) ∧
    (∀ k, checkFound id found = .error (.emptyUrl k) ↔ ∃ s n t, found = some s ∧ k = n + 1 ∧
      FirstIncomplete s.steps n t ∧ Text.isBlankText t.url = true) ∧
    ∀ k, checkFound id found = .error (.emptyMethod k) ↔ ∃ s n t, found = some s ∧ k = n + 1 ∧
      FirstIncomplete s.steps n t ∧ Text.isBlankText t.url = false := by
  refine ⟨fun s => ?_, fun t => Step.isComplete_iff, fun other => ?_, ?_, fun k => ?_, fun k => ?_⟩
  · rw [checkFound_eq_ok_iff, Script.check_eq_ok_iff]
  · simp [checkFound_eq_error_iff, Script.check_ne_scriptNotFound]
  · simp [checkFound_eq_error_iff, Script.check_eq_noSteps_iff]
  · simp [checkFound_eq_error_iff, Script.check_eq_emptyUrl_iff]
  · simp [checkFound_eq_error_iff, Script.check_eq_emptyMethod_iff]

/-- The second step has neither a URL nor a method. -/
example : checkFound "s" (some ⟨"s", [Step.get "http://h/", ⟨.http, " ", "\t", {}, none⟩]⟩) =
    .error (.emptyUrl 2) := by decide +kernel

end Barrage
