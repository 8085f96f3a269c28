import Mathlib.Tactic.SplitIfs
import Barrage.Json.Value
import Barrage.Text.Blank

/-! The statements of a function in a test file.
A statement ends with a semicolon that stands in no brackets, no string literal and no comment; a
comment ends with its line. Only what a test file has to use is understood: block comments,
divisions, patterns and templates are not. -/

namespace Barrage.K6

def isLineEnd (c : Char) : Bool := c = '\n' || c = '\r' || c.toNat = 0x2028 || c.toNat = 0x2029

/-- What the next character is part of. -/
inductive Mode where
  | code
  /-- A slash was read. -/
  | slash
  | comment
  | literal (quote : Char)
  /-- A backslash was read in a literal. -/
  | escaped (quote : Char)

/-- Where a scan is: also the brackets to be closed, and the statement so far. -/
structure Scan where
  mode : Mode
  awaited : List Char
  text : List Char

inductive Effect where
  | moves (s : Scan)
  | endsStatement
  | endsFunction
  | fails

def closer? (c : Char) : Option Char :=
  if c = '(' then some ')'
  else if c = '[' then some ']'
  else if c = '\x7b' then some '\x7d'
  else none

def isCloser (c : Char) : Bool := c = ')' || c = ']' || c = '\x7d'

def isPlain (c : Char) : Bool :=
  (closer? c).isNone && !isCloser c && c ≠ '/' && c ≠ '"' && c ≠ '\'' && c ≠ '\x60' && c ≠ ';'

def Scan.code (s : Scan) (c : Char) : Effect :=
  if isPlain c then
    if s.text = [] ∧ Text.isBlank c then .moves s else .moves { s with text := s.text ++ [c] }
  else match closer? c, s.awaited with
    | some d, awaited => .moves ⟨.code, d :: awaited, s.text ++ [c]⟩
    | none, awaited =>
      if c = '/' then .moves { s with mode := .slash }
      else if c = '"' ∨ c = '\'' then .moves ⟨.literal c, awaited, s.text ++ [c]⟩
      else match awaited with
        | d :: outer =>
          if c = ';' then .moves { s with text := s.text ++ [c] }
          else if c = d then .moves ⟨.code, outer, s.text ++ [c]⟩
          else .fails
        | [] => if c = ';' then .endsStatement else if c = '\x7d' then .endsFunction else .fails

def Scan.next (s : Scan) (c : Char) : Effect :=
  match s.mode with
  | .code => s.code c
  | .slash => if c = '/' then .moves { s with mode := .comment } else .fails
  | .comment => .moves (if isLineEnd c then { s with mode := .code } else s)
  | .literal quote =>
    if c = '\n' ∨ c = '\r' then .fails
    else if c = quote then .moves ⟨.code, s.awaited, s.text ++ [c]⟩
    else if c = '\\' then .moves ⟨.escaped quote, s.awaited, s.text ++ [c]⟩
    else .moves { s with text := s.text ++ [c] }
  | .escaped quote => .moves ⟨.literal quote, s.awaited, s.text ++ [c]⟩

def Scan.run (s : Scan) : List Char → Option (List (List Char) × List Char)
  | [] => none
  | c :: rest =>
    match s.next c with
    | .moves t => t.run rest
    | .endsStatement => (run ⟨.code, [], []⟩ rest).map fun (more, after) => (s.text :: more, after)
    | .endsFunction => some (if s.text = [] then [] else [s.text], rest)
    | .fails => none

/-- The statements of a function whose opening brace was read, and what follows the function. -/
def functionBody (text : List Char) : Option (List (List Char) × List Char) :=
  Scan.run ⟨.code, [], []⟩ text

theorem Scan.run_cons {s t : Scan} {c : Char} (step : s.next c = .moves t) (rest : List Char) :
    s.run (c :: rest) = t.run rest := by rw [run, step]

/-- Within a statement, the text is read whole and leaves no bracket, literal or comment open. -/
def Passes (t : List Char) : Prop :=
  ∀ (awaited text rest : List Char), text ≠ [] →
    Scan.run ⟨.code, awaited, text⟩ (t ++ rest) = Scan.run ⟨.code, awaited, text ++ t⟩ rest

theorem next_plain {c : Char} (plain : isPlain c = true) {text : List Char} (started : text ≠ [])
    (awaited : List Char) :
    Scan.next ⟨.code, awaited, text⟩ c = .moves ⟨.code, awaited, text ++ [c]⟩ := by
  simp [Scan.next, Scan.code, plain, started]

theorem next_opener {o c : Char} (pair : closer? o = some c) (awaited text : List Char) :
    Scan.next ⟨.code, awaited, text⟩ o = .moves ⟨.code, c :: awaited, text ++ [o]⟩ := by
  have special : isPlain o = false := by simp [isPlain, pair]
  simp [Scan.next, Scan.code, special, pair]

theorem next_closer {o c : Char} (pair : closer? o = some c) (awaited text : List Char) :
    Scan.next ⟨.code, c :: awaited, text⟩ c = .moves ⟨.code, awaited, text ++ [c]⟩ := by
  obtain rfl | rfl | rfl : c = ')' ∨ c = ']' ∨ c = '\x7d' := by
    rw [closer?] at pair
    split_ifs at pair <;> cases pair <;> decide
  all_goals rfl

namespace Passes

theorem nil : Passes [] := by
  intro awaited text rest _
  rw [List.nil_append, List.append_nil]

theorem append {t u : List Char} (h : Passes t) (g : Passes u) : Passes (t ++ u) := by
  intro awaited text rest started
  have started' : text ++ t ≠ [] := List.append_ne_nil_of_left_ne_nil started t
  rw [List.append_assoc, h _ _ _ started, g _ _ _ started', List.append_assoc]

theorem plain {t : List Char} (h : t.all isPlain = true) : Passes t := by
  induction t with
  | nil => exact nil
  | cons c t ih =>
    intro awaited text rest started
    obtain ⟨first, later⟩ : isPlain c = true ∧ t.all isPlain = true := by
      rwa [List.all_cons, Bool.and_eq_true] at h
    rw [List.cons_append, Scan.run_cons (next_plain first started awaited),
      ih later _ _ _ (by simp), List.append_assoc, List.singleton_append]

theorem brackets {o c : Char} {t : List Char} (pair : closer? o = some c) (h : Passes t) :
    Passes (o :: t ++ [c]) := by
  intro awaited text rest _
  have whole : o :: t ++ [c] ++ rest = o :: (t ++ c :: rest) := by simp
  rw [whole, Scan.run_cons (next_opener pair awaited text), h _ _ _ (by simp),
    Scan.run_cons (next_closer pair awaited _)]
  simp

end Passes

/-- Within a literal, the text is read whole and does not end it. -/
def Inside (t : List Char) : Prop :=
  ∀ (awaited text rest : List Char),
    Scan.run ⟨.literal '"', awaited, text⟩ (t ++ rest) =
      Scan.run ⟨.literal '"', awaited, text ++ t⟩ rest

namespace Inside

theorem append {t u : List Char} (h : Inside t) (g : Inside u) : Inside (t ++ u) := by
  intro awaited text rest
  rw [List.append_assoc, h, g, List.append_assoc]

theorem ordinary {c : Char} (h : c ≠ '\n' ∧ c ≠ '\r' ∧ c ≠ '"' ∧ c ≠ '\\') : Inside [c] := by
  intro awaited text rest
  refine Scan.run_cons ?_ rest
  simp [Scan.next, h]

theorem escape (c : Char) : Inside ['\\', c] := by
  intro awaited text rest
  have first : Scan.next ⟨.literal '"', awaited, text⟩ '\\' =
      .moves ⟨.escaped '"', awaited, text ++ ['\\']⟩ := by rfl
  have second : Scan.next ⟨.escaped '"', awaited, text ++ ['\\']⟩ c =
      .moves ⟨.literal '"', awaited, text ++ ['\\'] ++ [c]⟩ := by rfl
  rw [List.cons_append, Scan.run_cons first, List.singleton_append, Scan.run_cons second,
    List.append_assoc]
  rfl

theorem hexDigit (n : Nat) (h : n < 16) : Inside [Text.hexDigit false n] := by
  refine ordinary ?_
  have digits : ∀ m < 16, Text.hexDigit false m ≠ '\n' ∧ Text.hexDigit false m ≠ '\r' ∧
      Text.hexDigit false m ≠ '"' ∧ Text.hexDigit false m ≠ '\\' := by decide
  exact digits n h

theorem escaped (c : Char) : Inside (Json.escape c) := by
  rw [Json.escape]
  iterate 7
    split
    · exact escape _
  split
  · next control =>
    have zero : Inside ['0'] := ordinary (by decide)
    have high := hexDigit (c.toNat / 16) (by omega)
    have low := hexDigit (c.toNat % 16) (by omega)
    exact (((escape 'u').append zero).append zero).append (high.append low)
  · next quote backslash newline carriage _ _ _ _ =>
    exact ordinary ⟨newline, carriage, quote, backslash⟩

theorem all {cs : List Char} : Inside (cs.flatMap Json.escape) := by
  induction cs with
  | nil =>
    intro awaited text rest
    rw [List.flatMap_nil, List.nil_append, List.append_nil]
  | cons c cs ih =>
    rw [List.flatMap_cons]
    exact (escaped c).append ih

end Inside

theorem Passes.quote (s : String) : Passes (Json.quote s) := by
  intro awaited text rest _
  have opens (text : List Char) : Scan.next ⟨.code, awaited, text⟩ '"' =
      .moves ⟨.literal '"', awaited, text ++ ['"']⟩ := by rfl
  have closes (text : List Char) : Scan.next ⟨.literal '"', awaited, text⟩ '"' =
      .moves ⟨.code, awaited, text ++ ['"']⟩ := by rfl
  have whole : Json.quote s ++ rest = '"' :: (s.toList.flatMap Json.escape ++ '"' :: rest) := by
    simp [Json.quote]
  rw [whole, Scan.run_cons (opens _), Inside.all, Scan.run_cons (closes _)]
  simp [Json.quote]

theorem run_blank {c : Char} (blank : Text.isBlank c = true) (plain : isPlain c = true)
    (rest : List Char) : functionBody (c :: rest) = functionBody rest := by
  refine Scan.run_cons ?_ rest
  simp [Scan.next, Scan.code, plain, blank]

theorem run_statement {c : Char} {t : List Char} (first : isPlain c = true)
    (visible : Text.isBlank c = false) (passes : Passes t) (rest : List Char) :
    functionBody (c :: t ++ ';' :: rest) =
      (functionBody rest).map fun (more, after) => ((c :: t) :: more, after) := by
  have starts : Scan.next ⟨.code, [], []⟩ c = .moves ⟨.code, [], [c]⟩ := by
    simp [Scan.next, Scan.code, first, visible]
  rw [functionBody, List.cons_append, Scan.run_cons starts, passes _ _ _ (by simp)]
  rfl

theorem run_comment {t : List Char} (line : ∀ c ∈ t, isLineEnd c = false) {e : Char}
    (ends : isLineEnd e = true) (rest : List Char) :
    functionBody ('/' :: '/' :: t ++ e :: rest) = functionBody rest := by
  have inside (awaited text : List Char) :
      Scan.run ⟨.comment, awaited, text⟩ (t ++ e :: rest) =
        Scan.run ⟨.code, awaited, text⟩ rest := by
    induction t with
    | nil =>
      refine Scan.run_cons ?_ rest
      simp [Scan.next, ends]
    | cons c t ih =>
      have stays : Scan.next ⟨.comment, awaited, text⟩ c = .moves ⟨.comment, awaited, text⟩ := by
        simp [Scan.next, line c List.mem_cons_self]
      rw [List.cons_append, Scan.run_cons stays]
      exact ih fun d member => line d (List.mem_cons_of_mem c member)
  exact inside [] []

end Barrage.K6
