import Barrage.Proofs.ByteOrder
import Barrage.Proofs.ExportedRequests

/-! Calls told apart by their texts.
What can be read off a call is its function, the URL, the headers, and the body if the function is
written with one. Two steps have one call for a text exactly if they agree on these, since the
texts of a step stand in literals that end where they end. The headers are printed in the order of
the bytes of their names, in whatever order they come. -/

namespace Barrage.K6

/-- What a step selects by its method. -/
inductive Selection where
  /-- The function made for a method. -/
  | own (verb : String)
  /-- The function that is given the method. -/
  | request (method : String)
  deriving DecidableEq

def selection (s : Step) : Selection :=
  if isKnown s then .own (verb s) else .request (Text.upper s.method)

def Selection.takesBody : Selection → Bool
  | .own verb => verb ∉ bodilessMethods
  | .request _ => true

theorem takesBody_selection (s : Step) :
    (selection s).takesBody = true ↔ verb s ∉ bodilessMethods := by
  rw [selection]
  cases known : isKnown s with
  | true => simp [Selection.takesBody]
  | false =>
    have less : verb s ∉ bodilessMethods := ((isKnown_eq_false_iff s).1 known).1
    simp [Selection.takesBody, less]

def byName (names : List String) : List String :=
  names.mergeSort fun a b => decide (a.toUTF8.toList ≤ b.toUTF8.toList)

theorem keys_ascending (h : Dict String) :
    (h.keys.map fun n => n.toUTF8.toList).Pairwise (· < ·) :=
  List.pairwise_map.2 (List.pairwise_map.2 (h.ascending.imp bytes_lt))

theorem eq_of_bytes_le {a b : String} (le : a.toUTF8.toList ≤ b.toUTF8.toList)
    (ge : b.toUTF8.toList ≤ a.toUTF8.toList) : a = b :=
  String.le_antisymm (String.not_lt.1 fun less => le (bytes_lt less))
    (String.not_lt.1 fun less => ge (bytes_lt less))

theorem byName_sorted (names : List String) :
    (byName names).Pairwise fun a b => a.toUTF8.toList ≤ b.toUTF8.toList := by
  have ordered : (byName names).Pairwise
      fun a b => decide (a.toUTF8.toList ≤ b.toUTF8.toList) = true := by
    refine List.pairwise_mergeSort (fun a b c ab bc => ?_) (fun a b => ?_) names
    · exact decide_eq_true (List.le_trans (of_decide_eq_true ab) (of_decide_eq_true bc))
    · simpa using List.le_total a.toUTF8.toList b.toUTF8.toList
  exact ordered.imp of_decide_eq_true

theorem byName_of_perm {h : Dict String} {names : List String} (listed : names.Perm h.keys) :
    byName names = h.keys := by
  have ascending : h.keys.Pairwise fun a b => a.toUTF8.toList ≤ b.toUTF8.toList :=
    (List.pairwise_map.1 (keys_ascending h)).imp List.le_of_lt
  exact List.Perm.eq_of_pairwise (fun _ _ _ _ => eq_of_bytes_le) (byName_sorted names) ascending
    ((List.mergeSort_perm names _).trans listed)

/-- The headers that stand in the last argument, as they stand there. -/
def Reading.printedHeaders (c : Reading) : List (String × Option String) :=
  match c.arguments.getLast? with
  | some (.object [("headers", .object properties)]) => properties.map fun p => (p.1, p.2.text?)
  | _ => []

theorem printedHeaders_call (s : Step) :
    (call s).reading.printedHeaders = s.header.entries.map fun e => (e.1, some e.2) := by
  cases empty : s.header.isEmpty with
  | true =>
    have none : s.header.entries = [] := List.isEmpty_iff.1 empty
    rw [none]
    refine call_cases s (fun _ => ?_) (fun _ => ?_) (fun _ _ => ?_)
    · rw [empty]
      rfl
    · rw [empty, bodyArgument]
      cases s.body <;> rfl
    · rw [empty]
      rfl
  | false =>
    have printed : ((s.header.entries.map fun e => (e.1, Expression.string e.2)).map
        fun p => (p.1, p.2.text?)) = s.header.entries.map fun e => (e.1, some e.2) := by
      rw [List.map_map]
      rfl
    rw [← printed]
    refine call_cases s (fun _ => ?_) (fun _ => ?_) (fun _ _ => ?_)
    all_goals
      rw [empty]
      rfl

theorem function_call (s : Step) :
    (call s).reading.function = if isKnown s then functionName (verb s) else "request" := by
  have own : ∀ m ∈ bodilessMethods, functionName m = m := by decide
  refine call_cases s (fun less => ?_) (fun body => ?_) (fun less body => ?_)
  · rw [(isKnown_iff s).2 (.inl less), if_pos rfl, own _ less, Call.reading]
  · rw [(isKnown_iff s).2 (.inr body), if_pos rfl, Call.reading]
  · have unknown : isKnown s = false := (isKnown_eq_false_iff s).2 ⟨less, body⟩
    rw [unknown]
    rfl

theorem selection_eq {a b : Step} (same : (call a).reading = (call b).reading) :
    selection a = selection b := by
  have other : ∀ m ∈ bodilessMethods ++ bodyMethods, functionName m ≠ "request" := by decide
  have apart : ∀ m ∈ bodilessMethods ++ bodyMethods, ∀ n ∈ bodilessMethods ++ bodyMethods,
      functionName m = functionName n → m = n := by decide
  have function := congrArg Reading.function same
  have method := congrArg Reading.method? same
  rw [function_call, function_call] at function
  rw [method?_call, method?_call] at method
  rw [selection, selection]
  cases left : isKnown a <;> cases right : isKnown b <;>
    simp only [left, right, if_true, Bool.false_eq_true, if_false, Option.some.injEq]
      at function method ⊢
  · rw [method]
  · exact absurd function.symm (other _ (of_decide_eq_true right))
  · exact absurd function (other _ (of_decide_eq_true left))
  · rw [apart _ (of_decide_eq_true left) _ (of_decide_eq_true right) function]

theorem call_congr {a b : Step} (selected : selection a = selection b) (url : a.url = b.url)
    (header : a.header = b.header) (body : verb a ∉ bodilessMethods → a.body = b.body) :
    call a = call b := by
  rw [selection, selection] at selected
  cases left : isKnown a <;> cases right : isKnown b <;>
    simp only [left, right, if_true, Bool.false_eq_true, if_false, Selection.own.injEq,
      Selection.request.injEq, reduceCtorEq] at selected
  · obtain ⟨less, withBody⟩ := (isKnown_eq_false_iff a).1 left
    obtain ⟨less', withBody'⟩ := (isKnown_eq_false_iff b).1 right
    rw [call_of_other less withBody, call_of_other less' withBody', selected, url, header,
      bodyArgument, bodyArgument, body less]
  · rcases (isKnown_iff a).1 left with less | withBody
    · rw [call_of_bodiless less, call_of_bodiless (selected ▸ less), selected, url, header]
    · have apart : ∀ m ∈ bodyMethods, m ∉ bodilessMethods := by decide
      rw [call_of_withBody withBody, call_of_withBody (selected ▸ withBody), selected, url, header,
        bodyArgument, bodyArgument, body (apart _ withBody)]

theorem header_eq {a b : Step} (same : (call a).reading = (call b).reading) :
    a.header = b.header := by
  have printed := congrArg Reading.printedHeaders same
  have given : Function.Injective fun e : String × String => (e.1, some e.2) := by
    rintro ⟨n, v⟩ ⟨m, w⟩ same
    simpa using same
  rw [printedHeaders_call, printedHeaders_call] at printed
  have same : a.header.entries = b.header.entries := given.list_map printed
  cases left : a.header
  cases right : b.header
  simpa [left, right] using same

/-- Two steps have one call for a text exactly if they select the same function and have the same
URL and headers, and the same body too where the function is written with one. The headers of a call
are those of the step, in ascending order of the bytes of their names, each of them once, whatever
order the names are taken in. -/
theorem calls_told_apart :
    (∀ a b : Step, (call a).text = (call b).text ↔
      selection a = selection b ∧ a.url = b.url ∧ a.header = b.header ∧
        (verb a ∉ bodilessMethods → a.body = b.body)) ∧
    ∀ (s : Step) (names : List String), names.Perm s.header.keys →
      ∃ c, readCall (call s).text = some c ∧
        c.printedHeaders = (byName names).map (fun n => (n, s.header.get? n)) ∧
        ((byName names).map fun n => n.toUTF8.toList).Pairwise (· < ·) := by
  refine ⟨fun a b => ⟨fun same => ?_, fun ⟨selected, url, header, body⟩ => ?_⟩,
    fun s names listed => ⟨_, readCall_call s, ?_, ?_⟩⟩
  · have reading : (call a).reading = (call b).reading := by
      have read := readCall_call a
      rw [same, readCall_call b] at read
      exact (Option.some.inj read).symm
    have selected := selection_eq reading
    have url : some a.url = some b.url := by rw [← url?_call, ← url?_call, reading]
    refine ⟨selected, Option.some.inj url, header_eq reading, fun takes => ?_⟩
    have alsoTakes : verb b ∉ bodilessMethods := by
      rwa [← takesBody_selection, ← selected, takesBody_selection]
    have body : a.body.map Expression.string = b.body.map Expression.string := by
      rw [← body?_call takes, ← body?_call alsoTakes, reading]
    exact Option.map_injective (fun _ _ => Expression.string.inj) body
  · rw [call_congr selected url header body]
  · rw [printedHeaders_call, byName_of_perm listed, Dict.keys, List.map_map]
    refine List.map_congr_left fun e bound => ?_
    exact congrArg (e.1, ·) ((s.header.get?_eq_some_iff).2 bound).symm
  · rw [byName_of_perm listed]
    exact keys_ascending s.header

/-- Headers are printed in order though their names come the other way round, and no body is told
from one that says null. -/
theorem calls_told_apart_purge :
    let header : Dict String := .ofList [("X-B", "2"), ("X-A", "1")]
    let s : Step := ⟨.http, "PURGE", "http://h/", header, none⟩
    let t : Step := ⟨.http, "purge", "http://h/", header, some "null"⟩
    (call s).text ≠ (call t).text ∧
    ["X-B", "X-A"].Perm header.keys ∧
    ∃ c, readCall (call s).text = some c ∧
      c.printedHeaders = [("X-A", some "1"), ("X-B", some "2")] := by
  intro header s t
  have listed : ["X-B", "X-A"].Perm header.keys := by decide
  refine ⟨fun same => ?_, listed, ?_⟩
  · have takes : verb s ∉ bodilessMethods := by decide
    have body := ((calls_told_apart.1 s t).1 same).2.2.2 takes
    cases body
  · obtain ⟨c, read, printed, -⟩ := calls_told_apart.2 s ["X-B", "X-A"] listed
    refine ⟨c, read, ?_⟩
    rw [printed, byName_of_perm listed]
    decide

end Barrage.K6
