import Mathlib.Data.List.Forall2
import Barrage.Summary

/-! Colours of a summary.
A colour sequence is an ESC, an opening square bracket, parameters and an `m`. Each is written whole
around a text that has no ESC, so a summary without its colour sequences is the one that is written
without colours, down to the dots of every row: their number depends on the names alone. -/

namespace Barrage

theorem Binary64.mem_fixed {places : Nat} {x : Binary64} {c : Char} (h : c ∈ x.fixed places) :
    c.isDigit = true ∨ c ∈ "-.infNaN".toList := by
  have sign {negative : Bool} (h : c ∈ if negative then ['-'] else []) :
      c ∈ "-.infNaN".toList := by
    cases negative with
    | false => cases h
    | true =>
      rw [List.mem_singleton.1 h]
      decide
  cases x with
  | nan =>
    exact .inr (List.mem_append_right ['-', '.', 'i', 'n', 'f'] h)
  | infinite negative =>
    rw [fixed, List.mem_append] at h
    exact .inr (h.elim sign fun named =>
      List.mem_append_left ['N', 'a', 'N'] (List.mem_append_right ['-', '.'] named))
  | finite negative r =>
    simp only [fixed, List.mem_append] at h
    rcases h with (h | whole) | h
    · exact .inr (sign h)
    · exact .inl (Decimal.isDigit_of_mem_padded (List.mem_of_mem_take whole))
    · split at h
      · cases h
      · rcases List.mem_cons.1 h with rfl | fraction
        · exact .inr (by decide)
        · exact .inl (Decimal.isDigit_of_mem_padded (List.mem_of_mem_drop fraction))

namespace Summary

def isParameter (c : Char) : Bool := c.isDigit || c = ';'

def opensColour : List Char → Bool
  | '[' :: rest => (rest.dropWhile isParameter).head? = some 'm'
  | _ => false

/-- The characters outside of colour sequences; one that was opened goes on up to its `m`. -/
def outside : (opened : Bool) → List Char → List Char
  | _, [] => []
  | true, c :: rest => outside (c ≠ 'm') rest
  | false, c :: rest =>
    if c = '\x1b' ∧ opensColour rest then outside true rest else c :: outside false rest

def uncoloured (s : String) : String := String.ofList (outside false s.toList)

def NoEscape (s : String) : Prop := '\x1b' ∉ s.toList

instance (s : String) : Decidable (NoEscape s) := inferInstanceAs (Decidable ('\x1b' ∉ s.toList))

theorem noEscape_append {s t : String} : NoEscape (s ++ t) ↔ NoEscape s ∧ NoEscape t := by
  rw [NoEscape, String.toList_append, List.mem_append, not_or, NoEscape, NoEscape]

theorem noEscape_number (n : Nat) : NoEscape (toString n) := fun member =>
  Decimal.ne_of_isDigit (Decimal.isDigit_of_mem_toString member) rfl rfl

theorem noEscape_dots (n : Nat) : NoEscape (String.ofList (List.replicate n '.')) := by
  rw [NoEscape, String.toList_ofList, List.mem_replicate]
  simp

theorem noEscape_fixed (places : Nat) (x : Binary64) :
    NoEscape (String.ofList (x.fixed places)) := by
  rw [NoEscape, String.toList_ofList]
  exact fun member => (Binary64.mem_fixed member).elim (by decide) (by decide)

/-- Wherever the first text stands outside of colour sequences, the second is left of it. -/
def Leaves (s t : String) : Prop :=
  ∀ rest, outside false (s.toList ++ rest) = t.toList ++ outside false rest

theorem outside_append {cs : List Char} (h : '\x1b' ∉ cs) (rest : List Char) :
    outside false (cs ++ rest) = cs ++ outside false rest := by
  induction cs with
  | nil => rfl
  | cons c cs ih =>
    rw [List.mem_cons, not_or] at h
    rw [List.cons_append, outside, if_neg fun both => h.1 both.1.symm, ih h.2, List.cons_append]

namespace Leaves

theorem uncoloured_eq {s t : String} (h : Leaves s t) : uncoloured s = t := by
  have whole := h []
  rw [List.append_nil, outside, List.append_nil] at whole
  rw [uncoloured, whole, String.ofList_toList]

theorem itself {s : String} (h : NoEscape s) : Leaves s s := outside_append h

theorem append {s t u v : String} (h : Leaves s t) (g : Leaves u v) : Leaves (s ++ u) (t ++ v) := by
  intro rest
  rw [String.toList_append, String.toList_append, List.append_assoc, h, g, List.append_assoc]

theorem code (st : Style) : Leaves ("\x1b[" ++ st.code ++ "m") "" := by
  intro rest
  cases st <;> rfl

theorem reset : Leaves "\x1b[0m" "" := fun _ => rfl

theorem join {ss ts : List String} (h : List.Forall₂ Leaves ss ts) :
    Leaves (Text.join "\n" ss) (Text.join "\n" ts) := by
  induction h with
  | nil => exact itself (by decide)
  | @cons s t ss ts first later ih =>
    cases later with
    | nil => simpa [Text.join] using first
    | cons second later =>
      simp only [Text.join, String.intercalate_cons_cons] at ih ⊢
      exact (first.append (itself (by decide))).append ih

theorem paint {s : String} (h : NoEscape s) (st : Style) :
    Leaves (Summary.paint true st s) (Summary.paint false st s) := by
  have whole := ((code st).append (itself h)).append reset
  rwa [String.empty_append, String.append_empty] at whole

theorem paint? {s : String} (h : NoEscape s) (st : Option Style) :
    Leaves (Summary.paint? true st s) (Summary.paint? false st s) := by
  cases st with
  | none => exact itself h
  | some st => exact paint h st

theorem row {name value value' : String} (named : NoEscape name) (h : Leaves value value') :
    Leaves (Summary.row name value) (Summary.row name value') := by
  have margin : Leaves "  " "  " := itself (by decide)
  have colon : Leaves ": " ": " := itself (by decide)
  exact (((margin.append (itself named)).append (itself (noEscape_dots _))).append colon).append h

end Leaves

section
variable {r : RunResult}

theorem noEscape_latencyText (r : RunResult) : NoEscape (latencyText r) := by
  unfold latencyText
  simp only [count, noEscape_append, noEscape_number, and_true]
  decide

theorem noEscape_failureText (r : RunResult) : NoEscape (failureText r) := by
  simp only [failureText, count, noEscape_append, noEscape_number, noEscape_fixed, and_true]
  decide

theorem noEscape_kind (k : TestKind) : NoEscape k.name := by
  cases k <;> decide

theorem leaves_header (named : NoEscape r.scriptId) (p : Plan) (s : Script) :
    Leaves (header true r p s) (header false r p s) := by
  have title : Leaves ("          /\\      |  " ++ paint true .bold "loadrig")
      ("          /\\      |  " ++ paint false .bold "loadrig") :=
    (Leaves.itself (by decide)).append (.paint (by decide) .bold)
  have script : NoEscape ("    /\\  /    \\    |  script:    " ++ r.scriptId) :=
    noEscape_append.2 ⟨by decide, named⟩
  have kind : NoEscape ("   /  \\/      \\   |  type:      " ++ p.kind.name) :=
    noEscape_append.2 ⟨by decide, noEscape_kind p.kind⟩
  have users : NoEscape ("  /    \\       \\  |  vus:       " ++ toString p.users.toNat) :=
    noEscape_append.2 ⟨by decide, noEscape_number _⟩
  have duration : NoEscape (" /      \\       \\ |  duration:  " ++ count p.seconds ++ "s (" ++
      toString s.steps.length ++ " steps)") := by
    simp only [count, noEscape_append, noEscape_number, and_true]
    decide
  exact .join (.cons (.itself (by decide)) (.cons title (.cons (.itself (by decide))
    (.cons (.itself script) (.cons (.itself kind) (.cons (.itself users)
      (.cons (.itself duration) (.cons (.itself (by decide)) .nil))))))))

theorem leaves_errorLines (categories : ∀ e ∈ r.errors.entries, NoEscape e.1) :
    List.Forall₂ Leaves (errorLines true r) (errorLines false r) := by
  rw [errorLines, errorLines]
  split
  · exact .nil
  · refine .cons (.itself (by decide)) (.cons (.itself (by decide)) ?_)
    refine List.forall₂_map_left_iff.2 (List.forall₂_map_right_iff.2 ?_)
    refine List.forall₂_same.2 fun e member => ?_
    have category := categories e (List.mem_mergeSort.1 member)
    exact .row (noEscape_append.2 ⟨by decide, category⟩) (.paint (noEscape_number _) .red)

theorem leaves_lines (named : NoEscape r.scriptId)
    (categories : ∀ e ∈ r.errors.entries, NoEscape e.1) (p : Plan) (s : Script) :
    List.Forall₂ Leaves (lines true r p s) (lines false r p s) := by
  have number (n : UInt64) : Leaves (count n) (count n) := .itself (noEscape_number _)
  have rate : NoEscape (String.ofList (r.rate.fixed 1) ++ " req/s") :=
    noEscape_append.2 ⟨noEscape_fixed 1 r.rate, by decide⟩
  refine List.rel_append (.cons (leaves_header named p s) ?_) (leaves_errorLines categories)
  exact .cons (.row (by decide) (.paint (noEscape_latencyText r) _))
    (.cons (.row (by decide) (number r.totalRequests))
    (.cons (.row (by decide) (.paint (noEscape_number _) .green))
    (.cons (.row (by decide) (.paint? (noEscape_failureText r) _))
    (.cons (.row (by decide) (.itself rate))
    (.cons (.row (by decide) (number r.iterations)) .nil)))))

end

/-- Whatever the latencies, the failures and their categories are: a summary with colours, without
its colour sequences, is the summary without colours. -/
theorem uncoloured_render {r : RunResult} (named : NoEscape r.scriptId)
    (categories : ∀ e ∈ r.errors.entries, NoEscape e.1) (p : Plan) (s : Script) :
    uncoloured (render true r p s) = render false r p s :=
  (Leaves.join (leaves_lines named categories p s)).uncoloured_eq

/-- A slow run with many failures, whose script has a name that looks like a colour sequence. -/
theorem uncoloured_render_failing :
    let errors : Dict UInt64 := ⟨[("http", 60), ("timeout", 40)], by decide⟩
    let r : RunResult :=
      ⟨"20260101000000", "[31m", 1000, 900, 100, 45, 80, 1200, 2000, .infinite true, 500, ⟨0, 0⟩,
        errors⟩
    let p : Plan := ⟨"[31m", .stress, 10, 30⟩
    let s : Script := ⟨"[31m", [Step.get "http://h/"]⟩
    NoEscape r.scriptId ∧ (∀ e ∈ r.errors.entries, NoEscape e.1) ∧
      latencyStyle r = .yellow ∧ failureStyle? r = some .red ∧
      uncoloured (render true r p s) = render false r p s := by
  intro errors r p s
  have named : NoEscape r.scriptId := by decide
  have categories : ∀ e ∈ r.errors.entries, NoEscape e.1 := by decide
  exact ⟨named, categories, by decide, by decide +kernel, uncoloured_render named categories p s⟩

end Summary
end Barrage
