import Barrage.Proofs.Colours
import Barrage.Proofs.Encodings
import Barrage.Proofs.Trimming

/-! Reading a summary.
The rows are read back from the text of a whole summary, from its last line up. A row has its number
behind the last colon, whether it is painted or not, and its name before the dots; the rows of the
categories are at the end, under a heading and farther to the right than all others. -/

namespace Barrage

theorem Text.splitLast?_append {c : Char} (cs : List Char) {tail : List Char} (absent : c ∉ tail) :
    splitLast? c (cs ++ c :: tail) = some (cs, tail) := by
  have behind : ((cs ++ c :: tail).reverse.takeWhile (· ≠ c)).reverse = tail := by
    have all : ∀ d ∈ tail.reverse, decide (d ≠ c) = true := fun d member =>
      decide_eq_true fun same => absent (same ▸ List.mem_reverse.1 member)
    rw [List.reverse_append, List.reverse_cons, List.append_assoc,
      List.takeWhile_append_of_pos all]
    simp
  have shorter : tail.length ≠ (cs ++ c :: tail).length := by simp; omega
  have before : (cs ++ c :: tail).length - tail.length - 1 = cs.length := by simp; omega
  simp only [splitLast?, behind, if_neg shorter, before, List.take_left']

theorem Decimal.readBelow?_digits {n bound : Nat} (small : n < bound) :
    readBelow? bound (digits n) = some n := by
  have some : digits n ≠ [] := by simp [digits]
  have all : (digits n).all Char.isDigit = true :=
    List.all_eq_true.2 fun c member => isDigit_of_mem_digits member
  have spelled : value (digits n) = n := Nat.ofDigitChars_ten_toDigits
  rw [readBelow?]
  · rw [read?, if_pos ⟨some, all⟩, spelled]
    simp [small]
  · intro rest plus
    have sign : '+' ∈ digits n := plus ▸ List.mem_cons_self
    exact ne_of_isDigit (isDigit_of_mem_digits sign) (by decide) rfl

namespace Summary

def printed? (value : String) : Option UInt64 :=
  Decimal.word64? (String.ofList (value.toList.takeWhile Char.isDigit))

theorem printed?_count_append (n : UInt64) {rest : String}
    (ends : rest.toList.takeWhile Char.isDigit = []) : printed? (count n ++ rest) = some n := by
  have digits : (count n).toList = Decimal.digits n.toNat := by simp [count, Decimal.digits]
  rw [printed?, String.toList_append, digits,
    List.takeWhile_append_of_pos fun c => Decimal.isDigit_of_mem_digits, ends, List.append_nil,
    Decimal.word64?, String.toList_ofList, Decimal.readBelow?_digits n.toNat_lt_size]
  simp

theorem printed?_failureText (r : RunResult) : printed? (failureText r) = some r.failure := by
  rw [failureText, String.append_assoc, String.append_assoc]
  exact printed?_count_append r.failure (by simp)

theorem printed?_count (n : UInt64) : printed? (count n) = some n := by
  simpa using @printed?_count_append n "" (by simp)

/-- What a name is read as: dots at its end are not told from those that fill the row. -/
def withoutDots (cs : List Char) : List Char := Text.dropRight (· = '.') cs

theorem withoutDots_eq (cs : List Char) :
    withoutDots cs = (cs.reverse.dropWhile (· = '.')).reverse := by rfl

theorem withoutDots_fill (cs : List Char) (n : Nat) :
    withoutDots (cs ++ List.replicate n '.') = withoutDots cs := by
  rw [withoutDots_eq, List.reverse_append, List.dropWhile_append_of_pos (by simp), withoutDots_eq]

theorem withoutDots_append {cs : List Char} {c : Char} (other : c ≠ '.') (ds : List Char) :
    withoutDots (cs ++ c :: ds) = cs ++ c :: withoutDots ds := by
  rw [withoutDots_eq, withoutDots_eq, List.reverse_append, List.reverse_cons, List.append_assoc,
    List.dropWhile_append]
  split
  · next none =>
    rw [List.isEmpty_iff.1 none]
    simp [other]
  · simp

/-- A value has neither line feeds nor colons. -/
def Inline (s : String) : Prop := '\n' ∉ s.toList ∧ ':' ∉ s.toList

instance (s : String) : Decidable (Inline s) :=
  inferInstanceAs (Decidable ('\n' ∉ s.toList ∧ ':' ∉ s.toList))

theorem inline_append {s t : String} : Inline (s ++ t) ↔ Inline s ∧ Inline t := by
  simp only [Inline, String.toList_append, List.mem_append, not_or]
  tauto

theorem inline_number (n : Nat) : Inline (toString n) := by
  have other {c : Char} (h : c.isDigit = false) : c ∉ (toString n).toList := fun member =>
    Decimal.ne_of_isDigit (Decimal.isDigit_of_mem_toString member) h rfl
  exact ⟨other rfl, other rfl⟩

theorem inline_fixed (places : Nat) (x : Binary64) : Inline (String.ofList (x.fixed places)) := by
  have other {c : Char} (digit : c.isDigit = false) (sign : c ∉ "-.infNaN".toList) :
      c ∉ x.fixed places := fun member =>
    (Binary64.mem_fixed member).elim (fun h => by rw [digit] at h; cases h) sign
  rw [Inline, String.toList_ofList]
  exact ⟨other rfl (by decide), other rfl (by decide)⟩

theorem Inline.paint {s : String} (h : Inline s) (colour : Bool) (st : Style) :
    Inline (Summary.paint colour st s) := by
  rw [Summary.paint]
  split
  · have code : Inline ("\x1b[" ++ st.code ++ "m") := by cases st <;> decide
    exact inline_append.2 ⟨inline_append.2 ⟨code, h⟩, by decide⟩
  · exact h

theorem Inline.paint? {s : String} (h : Inline s) (colour : Bool) (st : Option Style) :
    Inline (Summary.paint? colour st s) := by
  cases st with
  | none => exact h
  | some st => exact h.paint colour st

theorem inline_failureText (r : RunResult) : Inline (failureText r) := by
  simp only [failureText, count, inline_append, inline_number, inline_fixed, and_true]
  decide

theorem feed_not_mem_row {name value : String} (named : '\n' ∉ name.toList) (h : Inline value) :
    '\n' ∉ (row name value).toList := by
  simp [row, named, h.1]

theorem Leaves.painted {s : String} (h : NoEscape s) (colour : Bool) (st : Style) :
    Leaves (Summary.paint colour st s) s := by
  cases colour with
  | false => exact itself h
  | true => exact paint h st

theorem Leaves.painted? {s : String} (h : NoEscape s) (colour : Bool) (st : Option Style) :
    Leaves (Summary.paint? colour st s) s := by
  cases st with
  | none => exact itself h
  | some st => exact painted h colour st

/-- The name of a row, with the blanks before it, and its number. -/
def readRow? (line : List Char) : Option (List Char × UInt64) := do
  let (name, value) ← Text.splitLast? ':' line
  let n ← printed? (String.ofList ((outside false value).drop 1))
  some (withoutDots name, n)

theorem readRow?_row {name value text : String} (h : Inline value) (shown : Leaves value text) :
    readRow? (row name value).toList =
      (printed? text).map fun n => (withoutDots (' ' :: ' ' :: name.toList), n) := by
  have shape : (row name value).toList = (' ' :: ' ' :: name.toList ++
      List.replicate (nameWidth - name.length) '.') ++ ':' :: ' ' :: value.toList := by
    simp [row]
  have absent : ':' ∉ ' ' :: value.toList := by simp [h.2]
  have left : outside false (' ' :: value.toList) = ' ' :: text.toList := by
    have whole := shown []
    rw [List.append_nil, outside, List.append_nil] at whole
    rw [outside, if_neg fun both => absurd both.1 (by decide), whole]
  rw [readRow?, shape, Text.splitLast?_append _ absent]
  simp only [Option.bind_eq_bind, Option.bind_some, left, List.drop_one, List.tail_cons,
    String.ofList_toList, withoutDots_fill]
  cases printed? text <;> rfl

def errorRow (colour : Bool) (e : String × UInt64) : String :=
  row ("    " ++ e.1) (paint colour .red (count e.2))

def margin : List Char := List.replicate 6 ' '

theorem readRow?_errorRow (colour : Bool) (e : String × UInt64) :
    readRow? (errorRow colour e).toList = some (margin ++ withoutDots e.1.toList, e.2) := by
  have name : ' ' :: ' ' :: ("    " ++ e.1).toList =
      List.replicate 5 ' ' ++ ' ' :: e.1.toList := by simp
  have inline : Inline (count e.2) := inline_number _
  have plain : NoEscape (count e.2) := noEscape_number _
  rw [errorRow, readRow?_row (inline.paint colour .red) (.painted plain colour .red),
    printed?_count, name, withoutDots_append (by decide)]
  rfl

def linesOf (text : String) : List (List Char) := Text.splitAt '\n' text.toList

theorem linesOf_of_not_mem {text : String} (h : '\n' ∉ text.toList) :
    linesOf text = [text.toList] := Text.splitAt_of_not_mem h

theorem linesOf_join {parts : List String} (some : parts ≠ []) :
    linesOf (Text.join "\n" parts) = parts.flatMap linesOf := by
  induction parts with
  | nil => exact absurd rfl some
  | cons first rest ih =>
    cases rest with
    | nil => simp [Text.join]
    | cons second rest =>
      have later := ih (by simp)
      simp only [Text.join, String.intercalate_cons_cons] at later ⊢
      have feed : (first ++ "\n" ++ String.intercalate "\n" (second :: rest)).toList =
          first.toList ++ '\n' :: (String.intercalate "\n" (second :: rest)).toList := by simp
      rw [linesOf, feed, Text.splitAt_append_cons, List.flatMap_cons, ← later]
      rfl

theorem linesOf_join_of_not_mem {parts : List String} (h : ∀ s ∈ parts, '\n' ∉ s.toList) :
    parts.flatMap linesOf = parts.map String.toList := by
  induction parts with
  | nil => rfl
  | cons first rest ih =>
    rw [List.flatMap_cons, linesOf_of_not_mem (h first List.mem_cons_self), List.map_cons,
      ih fun s member => h s (List.mem_cons_of_mem first member)]
    rfl

section
variable (colour : Bool) (r : RunResult) (p : Plan) (s : Script)

def lastFigures : List String :=
  [row "http_req_failed" (paint? colour (failureStyle? r) (failureText r)),
    row "http_req_rate" (String.ofList (r.rate.fixed 1) ++ " req/s"),
    row "iterations" (count r.iterations)]

theorem inline_rate : Inline (String.ofList (r.rate.fixed 1) ++ " req/s") :=
  inline_append.2 ⟨inline_fixed 1 r.rate, by decide⟩

theorem feed_not_mem_lastFigures : ∀ line ∈ lastFigures colour r, '\n' ∉ line.toList := by
  have failed : Inline (paint? colour (failureStyle? r) (failureText r)) :=
    (inline_failureText r).paint? colour _
  simp only [lastFigures, List.mem_cons, List.not_mem_nil, or_false]
  rintro line (rfl | rfl | rfl)
  · exact feed_not_mem_row (by decide) failed
  · exact feed_not_mem_row (by decide) (inline_rate r)
  · exact feed_not_mem_row (by decide) (inline_number _)

theorem errorLines_eq : errorLines colour r = if r.errors.entries = [] then []
    else "" :: "  errors:" :: (byCount r.errors).map (errorRow colour) := by
  by_cases none : r.errors.entries = []
  · simp [errorLines, Dict.isEmpty, none]
  · rw [errorLines, Dict.isEmpty, if_neg (by simpa using none), if_neg none]
    rfl

variable {r} (oneLine : ∀ e ∈ r.errors.entries, '\n' ∉ e.1.toList)
include oneLine

theorem feed_not_mem_errorLines : ∀ line ∈ errorLines colour r, '\n' ∉ line.toList := by
  rw [errorLines_eq]
  split
  · simp
  · intro line member
    simp only [List.mem_cons, List.mem_map] at member
    rcases member with rfl | rfl | ⟨e, category, rfl⟩
    · decide
    · decide
    · have named := oneLine e (List.mem_mergeSort.1 category)
      exact feed_not_mem_row (by simpa using named) ((inline_number _).paint colour .red)

theorem exists_linesOf_render : ∃ above, linesOf (render colour r p s) =
    above ++ (lastFigures colour r).map String.toList ++
      (errorLines colour r).map String.toList := by
  let first := [header colour r p s,
    row "http_req_duration" (paint colour (latencyStyle r) (latencyText r)),
    row "http_reqs" (count r.totalRequests),
    row "http_req_success" (paint colour .green (count r.success))]
  have parts : lines colour r p s = first ++ lastFigures colour r ++ errorLines colour r := rfl
  refine ⟨first.flatMap linesOf, ?_⟩
  rw [render, linesOf_join (by simp [lines]), parts, List.flatMap_append, List.flatMap_append,
    linesOf_join_of_not_mem (feed_not_mem_lastFigures colour r),
    linesOf_join_of_not_mem (feed_not_mem_errorLines colour oneLine)]

end

def isIndented (line : List Char) : Bool := margin.isPrefixOf line

def errorHeading : List Char := "  errors:".toList

def errorRows? (lines : List (List Char)) : Option (List (List Char)) :=
  match lines.dropWhile isIndented with
  | line :: gap :: _ =>
    if line = errorHeading ∧ gap = [] then some (lines.takeWhile isIndented).reverse else none
  | _ => none

/-- The categories at the end of a summary, if there is a heading for them. -/
def readErrors? (text : String) : Option (List (String × UInt64)) :=
  (errorRows? (linesOf text).reverse).map fun rows =>
    (rows.filterMap readRow?).map fun e => (String.ofList (e.1.drop margin.length), e.2)

def failureName : List Char := "  http_req_failed".toList

def failuresIn? (line : List Char) : Option UInt64 :=
  (readRow? line).bind fun e => if e.1 = failureName then some e.2 else none

/-- The number of failures in the last line that tells it. -/
def readFailures? (text : String) : Option UInt64 := (linesOf text).reverse.findSome? failuresIn?

theorem errorRows?_reverse {above rows : List (List Char)} {gap line : List Char}
    (other : isIndented line = false) (all : ∀ row ∈ rows, isIndented row = true) :
    errorRows? (above ++ gap :: line :: rows).reverse =
      if line = errorHeading ∧ gap = [] then some rows else none := by
  have upward : (above ++ gap :: line :: rows).reverse =
      rows.reverse ++ line :: gap :: above.reverse := by simp
  have indented : ∀ row ∈ rows.reverse, isIndented row = true := fun row member =>
    all row (List.mem_reverse.1 member)
  have stop : ¬ isIndented line = true := by simp [other]
  rw [errorRows?, upward, List.dropWhile_append_of_pos indented,
    List.takeWhile_append_of_pos indented, List.dropWhile_cons_of_neg stop,
    List.takeWhile_cons_of_neg stop, List.append_nil, List.reverse_reverse]

theorem isIndented_errorRow (colour : Bool) (e : String × UInt64) :
    isIndented (errorRow colour e).toList = true := by
  simp only [errorRow, row, String.toList_append]
  rfl

theorem readRow?_errorRows (colour : Bool) (l : List (String × UInt64)) :
    (l.map fun e => (errorRow colour e).toList).filterMap readRow? =
      l.map fun e => (margin ++ withoutDots e.1.toList, e.2) := by
  rw [List.filterMap_map, ← List.filterMap_eq_map]
  exact List.filterMap_congr fun e _ => readRow?_errorRow colour e

theorem failuresIn?_row {name value text : String} (h : Inline value) (shown : Leaves value text)
    (other : withoutDots (' ' :: ' ' :: name.toList) ≠ failureName) :
    failuresIn? (row name value).toList = none := by
  rw [failuresIn?, readRow?_row h shown]
  cases printed? text with
  | none => rfl
  | some n => exact if_neg other

theorem failuresIn?_errorRow (colour : Bool) (e : String × UInt64) :
    failuresIn? (errorRow colour e).toList = none := by
  have other : margin ++ withoutDots e.1.toList ≠ failureName := by
    intro same
    have third : failureName[2]? = some ' ' := by
      rw [← same]
      rfl
    exact absurd third (by decide)
  rw [failuresIn?, readRow?_errorRow, Option.bind_some, if_neg other]

section
variable (colour : Bool) {r : RunResult} (p : Plan) (s : Script)
variable (oneLine : ∀ e ∈ r.errors.entries, '\n' ∉ e.1.toList)
include oneLine

theorem readErrors?_render : readErrors? (render colour r p s) =
    if r.errors.entries = [] then none
    else some ((byCount r.errors).map fun e =>
      (String.ofList (withoutDots e.1.toList), e.2)) := by
  obtain ⟨above, split⟩ := exists_linesOf_render colour p s oneLine
  rw [readErrors?, split, errorLines_eq]
  split_ifs with none
  · have last : isIndented (row "iterations" (count r.iterations)).toList = false := by
      simp only [row, String.toList_append]
      rfl
    have other : (row "iterations" (count r.iterations)).toList ≠ errorHeading := by
      intro same
      have third : errorHeading[2]? = some 'i' := by
        rw [← same]
        simp [row]
      exact absurd third (by decide)
    simp only [lastFigures, List.map_cons, List.map_nil, List.append_nil]
    rw [List.append_cons, errorRows?_reverse last (by simp), if_neg fun both => other both.1]
    rfl
  · simp only [List.map_cons, List.map_map]
    rw [errorRows?_reverse rfl ?_, if_pos ⟨rfl, rfl⟩, Option.map_some]
    · have rows := readRow?_errorRows colour (byCount r.errors)
      rw [Function.comp_def, rows, List.map_map]
      rfl
    · intro line member
      obtain ⟨e, -, rfl⟩ := List.mem_map.1 member
      exact isIndented_errorRow colour e

theorem readFailures?_render : readFailures? (render colour r p s) = some r.failure := by
  obtain ⟨above, split⟩ := exists_linesOf_render colour p s oneLine
  have errors : ((errorLines colour r).map String.toList).reverse.findSome? failuresIn? = none := by
    rw [List.findSome?_eq_none_iff, errorLines_eq]
    split_ifs
    · simp
    · intro line member
      simp only [List.mem_reverse, List.mem_map, List.mem_cons] at member
      rcases member with ⟨_, rfl | rfl | ⟨e, -, rfl⟩, rfl⟩
      · rfl
      · rfl
      · exact failuresIn?_errorRow colour e
  have rate : failuresIn? (row "http_req_rate"
      (String.ofList (r.rate.fixed 1) ++ " req/s")).toList = none :=
    failuresIn?_row (inline_rate r)
      (.itself (noEscape_append.2 ⟨noEscape_fixed 1 r.rate, by decide⟩)) (by decide)
  have iterations : failuresIn? (row "iterations" (count r.iterations)).toList = none :=
    failuresIn?_row (inline_number _) (.itself (noEscape_number _)) (by decide)
  have failed : failuresIn? (row "http_req_failed"
      (paint? colour (failureStyle? r) (failureText r))).toList = some r.failure := by
    rw [failuresIn?, readRow?_row ((inline_failureText r).paint? colour _)
      (.painted? (noEscape_failureText r) colour _), printed?_failureText]
    rfl
  rw [readFailures?, split, List.reverse_append, List.findSome?_append, errors, Option.none_or]
  simp only [lastFigures, List.map_cons, List.map_nil, List.reverse_append, List.reverse_cons,
    List.reverse_nil, List.nil_append, List.cons_append, List.findSome?_cons, iterations, rate,
    failed]

end
end Summary
end Barrage
