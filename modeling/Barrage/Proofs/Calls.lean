import Barrage.Export.K6
import Barrage.Proofs.Tokens

/-! Reading the calls of a test file.
A call names a function of `http` and has arguments between round brackets: string literals, null,
and objects of such. A string of a document is a string literal and stands for the same text. What
is read off a call is what it was written from, whatever stands in its literals. -/

namespace Barrage.K6

inductive Expression where
  | null
  | string (s : String)
  /-- Properties in the order of writing. -/
  | object (properties : List (String × Expression))

structure Reading where
  function : String
  arguments : List Expression

/-- Readers take what they read off the front of the symbols and return the rest. -/
abbrev Takes (α : Type) := List Symbol → Option (α × List Symbol)

def readItems {α : Type} (item : Takes α) (close : Char) : Nat → Takes (List α)
  | 0, _ => none
  | count + 1, s => do
    let (a, rest) ← item s
    match Json.skipBlanks rest with
    | .char c :: rest =>
      if c = close then some ([a], rest)
      else if c = ',' then do
        let (more, rest) ← readItems item close count (Json.skipBlanks rest)
        some (a :: more, rest)
      else none
    | _ => none

def readList {α : Type} (item : Takes α) (close : Char) : Takes (List α) := fun s =>
  match Json.skipBlanks s with
  | .char c :: rest =>
    if c = close then some ([], rest) else readItems item close s.length (.char c :: rest)
  | _ => none

def isNameChar (c : Char) : Bool := c.isAlphanum || c = '_' || c = '$'

def takeName : List Symbol → List Char × List Symbol
  | .char c :: rest =>
    if isNameChar c then
      let (name, rest) := takeName rest
      (c :: name, rest)
    else ([], .char c :: rest)
  | s => ([], s)

def readLiteral : Takes String
  | .char '"' :: rest => (Json.restOfString rest).toOption
  | _ => none

def readKey : Takes String := fun s =>
  match readLiteral s with
  | some literal => some literal
  | none =>
    let (name, rest) := takeName s
    if name = [] then none else some (String.ofList name, rest)

def readProperty {α : Type} (value : Takes α) : Takes (String × α) := fun s => do
  let (key, rest) ← readKey s
  match Json.skipBlanks rest with
  | .char ':' :: rest => do
    let (v, rest) ← value (Json.skipBlanks rest)
    some ((key, v), rest)
  | _ => none

def readObject {α : Type} (value : Takes α) : Takes (List (String × α))
  | .char '\x7b' :: rest => readList (readProperty value) '\x7d' rest
  | _ => none

def readExpression : Nat → Takes Expression
  | 0, _ => none
  | depth + 1, s =>
    match readLiteral s with
    | some (t, rest) => some (.string t, rest)
    | none =>
      match readObject (readExpression depth) s with
      | some (properties, rest) => some (.object properties, rest)
      | none =>
        let (name, rest) := takeName s
        if name = "null".toList then some (.null, rest) else none

def readCall (text : List Char) : Option Reading := do
  let s ← Text.afterStart? ("http.".toList.map .char) (text.map .char)
  match takeName s with
  | (function, .char '(' :: rest) =>
    match ← readList (readExpression text.length) ')' rest with
    | (arguments, []) => some ⟨String.ofList function, arguments⟩
    | _ => none
  | _ => none

def Stops (rest : List Symbol) : Prop := ∀ c, rest.head? = some (.char c) → isNameChar c = false

def isFirst (c : Char) : Bool := !Json.isBlank (.char c) && c ≠ ')' && c ≠ '\x7d'

/-- A text is read as an item wherever it stands. -/
structure Spells {α : Type} (read : Takes α) (text : List Char) (a : α) : Prop where
  first : ∃ c later, text = c :: later ∧ isFirst c = true
  reads : ∀ rest, Stops rest → read (text.map .char ++ rest) = some (a, rest)

theorem skipBlanks_char {c : Char} (visible : Json.isBlank (.char c) = false) (rest : List Symbol) :
    Json.skipBlanks (.char c :: rest) = .char c :: rest := by
  simp [Json.skipBlanks, List.dropWhile, visible]

theorem skipBlanks_first {gap : List Char} (blank : gap = [] ∨ gap = [' ']) {c : Char}
    (first : isFirst c = true) (rest : List Symbol) :
    Json.skipBlanks (gap.map .char ++ .char c :: rest) = .char c :: rest := by
  have visible : Json.isBlank (.char c) = false := by
    simp only [isFirst, Bool.and_eq_true] at first
    simpa using first.1.1
  rcases blank with rfl | rfl
  · exact skipBlanks_char visible rest
  · exact skipBlanks_char visible rest

theorem stops_char {c : Char} (h : isNameChar c = false) (rest : List Symbol) :
    Stops (.char c :: rest) := by
  rintro d head
  obtain rfl : c = d := by simpa using head
  exact h

theorem takeName_append (name : List Char) (letters : name.all isNameChar = true)
    {rest : List Symbol} (stops : Stops rest) :
    takeName (name.map .char ++ rest) = (name, rest) := by
  induction name with
  | nil =>
    cases rest with
    | nil => rfl
    | cons a rest =>
      cases a with
      | stray b => rfl
      | char c => simp [takeName, stops c rfl]
  | cons c name ih =>
    obtain ⟨letter, later⟩ : isNameChar c = true ∧ name.all isNameChar = true := by
      rwa [List.all_cons, Bool.and_eq_true] at letters
    rw [List.map_cons, List.cons_append, takeName, if_pos letter, ih later]

theorem readLiteral_quote (t : String) (rest : List Symbol) :
    readLiteral ((Json.quote t).map .char ++ rest) = some (t, rest) := by
  have text : (Json.quote t).map .char ++ rest =
      .char '"' :: ((t.toList.flatMap Json.escape ++ ['"']).map .char ++ rest) := by
    simp [Json.quote]
  rw [text, readLiteral, Json.restOfString_quoted]
  rfl

section
variable {ι α : Type} {item : Takes α} {text : ι → List Char} {value : ι → α} {close : Char}
  {gap : List Char}

structure Closes (gap : List Char) (close : Char) : Prop where
  gap : gap = [] ∨ gap = [' ']
  close : close = ')' ∨ close = '\x7d'

theorem Closes.skipBlanks (h : Closes gap close) (rest : List Symbol) :
    Json.skipBlanks (gap.map .char ++ .char close :: rest) = .char close :: rest := by
  obtain ⟨rfl | rfl, rfl | rfl⟩ := h <;> rfl

theorem Closes.stops (h : Closes gap close) (rest : List Symbol) :
    Stops (gap.map .char ++ .char close :: rest) := by
  obtain ⟨rfl | rfl, rfl | rfl⟩ := h <;> exact stops_char rfl _

theorem Closes.ne_of_isFirst (h : Closes gap close) {c : Char} (first : isFirst c = true) :
    c ≠ close := by
  rintro rfl
  obtain ⟨-, rfl | rfl⟩ := h <;> simp [isFirst] at first

theorem exists_commaList {x : ι} (xs : List ι) (spelled : Spells item (text x) (value x)) :
    ∃ c later, commaList ((x :: xs).map text) = c :: later ∧ isFirst c = true := by
  obtain ⟨c, later, same, first⟩ := spelled.first
  cases xs with
  | nil => exact ⟨c, later, same, first⟩
  | cons y xs =>
    refine ⟨c, later ++ ',' :: ' ' :: commaList ((y :: xs).map text), ?_, first⟩
    simp [commaList, same]

theorem length_le_commaList {xs : List ι} (h : ∀ x ∈ xs, Spells item (text x) (value x)) :
    xs.length ≤ (commaList (xs.map text)).length := by
  induction xs with
  | nil => exact Nat.zero_le _
  | cons x xs ih =>
    obtain ⟨c, later, first, -⟩ := (h x List.mem_cons_self).first
    have others := ih fun y member => h y (List.mem_cons_of_mem x member)
    cases xs with
    | nil => simp [commaList, first]
    | cons y xs =>
      simp only [List.map_cons, commaList, List.length_append, List.length_cons] at others ⊢
      omega

theorem readItems_last {count : Nat} {s rest after : List Symbol} {a : α}
    (taken : item s = some (a, rest)) (closed : Json.skipBlanks rest = .char close :: after) :
    readItems item close (count + 1) s = some ([a], after) := by
  rw [readItems, taken]
  simp [closed]

theorem readItems_more {count : Nat} {s rest after final : List Symbol} {a : α} {more : List α}
    (taken : item s = some (a, rest)) (comma : Json.skipBlanks rest = .char ',' :: after)
    (apart : ',' ≠ close)
    (others : readItems item close count (Json.skipBlanks after) = some (more, final)) :
    readItems item close (count + 1) s = some (a :: more, final) := by
  rw [readItems, taken]
  simp [comma, apart, others]

theorem readItems_commaList (closes : Closes gap close) {xs : List ι}
    (h : ∀ x ∈ xs, Spells item (text x) (value x)) (some : xs ≠ []) {count : Nat}
    (enough : xs.length ≤ count) (rest : List Symbol) :
    readItems item close count ((commaList (xs.map text)).map .char ++
      (gap.map .char ++ .char close :: rest)) = .some (xs.map value, rest) := by
  -- on the items; each but the last is followed by a comma
  induction xs generalizing count with
  | nil => exact absurd rfl some
  | cons x xs ih =>
    have spelled := h x List.mem_cons_self
    obtain ⟨count, rfl⟩ := Nat.exists_eq_add_of_lt enough
    cases xs with
    | nil => exact readItems_last (spelled.reads _ (closes.stops rest)) (closes.skipBlanks rest)
    | cons y xs =>
      have later : ∀ z ∈ y :: xs, Spells item (text z) (value z) :=
        fun z member => h z (List.mem_cons_of_mem x member)
      have others := ih later (by simp) (Nat.le_add_right (y :: xs).length count)
      obtain ⟨c, tail, same, first⟩ := exists_commaList xs (later y List.mem_cons_self)
      have comma : (commaList ((x :: y :: xs).map text)).map Symbol.char =
          (text x).map .char ++ .char ',' :: .char ' ' :: .char c :: tail.map .char := by
        rw [List.map_cons] at same
        simp [commaList, same]
      rw [same] at others
      rw [comma, List.append_assoc]
      refine readItems_more (spelled.reads _ (stops_char rfl _)) rfl
        (closes.ne_of_isFirst (by decide)) ?_
      have skipped := skipBlanks_first (.inr rfl) first
        (tail.map .char ++ (gap.map .char ++ .char close :: rest))
      exact (congrArg _ skipped).trans others

theorem readList_commaList {lead : List Char} (blank : lead = [] ∨ lead = [' '])
    (closes : Closes gap close) (xs : List ι) (h : ∀ x ∈ xs, Spells item (text x) (value x))
    (rest : List Symbol) :
    readList item close (lead.map .char ++ ((commaList (xs.map text)).map .char ++
      (gap.map .char ++ .char close :: rest))) = some (xs.map value, rest) := by
  cases xs with
  | nil =>
    have closed : Json.skipBlanks (lead.map .char ++ (gap.map .char ++ .char close :: rest)) =
        .char close :: rest := by
      rcases blank with rfl | rfl
      · exact closes.skipBlanks rest
      · exact closes.skipBlanks rest
    simp [readList, commaList, closed]
  | cons x xs =>
    obtain ⟨c, tail, same, first⟩ := exists_commaList xs (h x List.mem_cons_self)
    obtain ⟨s, whole⟩ : ∃ s, s = lead.map .char ++ ((commaList ((x :: xs).map text)).map .char ++
      (gap.map .char ++ .char close :: rest)) := ⟨_, rfl⟩
    have enough : (x :: xs).length ≤ s.length := by
      have long := length_le_commaList h
      simp only [whole, List.length_append, List.length_map]
      omega
    have items := readItems_commaList closes h (by simp) enough rest
    have skipped := skipBlanks_first blank first
      (tail.map .char ++ (gap.map .char ++ .char close :: rest))
    rw [same, List.map_cons, List.cons_append] at items whole
    rw [← whole] at skipped
    rw [same, List.map_cons, List.cons_append, ← whole, readList, skipped]
    simp only [if_neg (closes.ne_of_isFirst first)]
    exact items

end

theorem spells_string (depth : Nat) (t : String) :
    Spells (readExpression (depth + 1)) (Json.quote t) (.string t) where
  first := ⟨'"', _, rfl, rfl⟩
  reads rest _ := by rw [readExpression, readLiteral_quote]

theorem spells_null (depth : Nat) :
    Spells (readExpression (depth + 1)) "null".toList .null where
  first := ⟨'n', _, rfl, rfl⟩
  reads rest stops := by
    have literal : readLiteral ("null".toList.map .char ++ rest) = none := rfl
    have object : readObject (readExpression depth) ("null".toList.map .char ++ rest) = none := rfl
    have name := takeName_append "null".toList (by decide) stops
    rw [readExpression, literal, object, name]
    rfl

def propertyText (key text : List Char) : List Char := key ++ ':' :: ' ' :: text

theorem spells_property {α : Type} {value : Takes α} {key : List Char} {k : String}
    (name : Spells readKey key k) {text : List Char} {a : α} (spelled : Spells value text a) :
    Spells (readProperty value) (propertyText key text) (k, a) where
  first := by
    obtain ⟨c, later, rfl, first⟩ := name.first
    exact ⟨c, _, rfl, first⟩
  reads rest stops := by
    obtain ⟨c, later, same, first⟩ := spelled.first
    have whole : (propertyText key text).map Symbol.char ++ rest =
        key.map .char ++ .char ':' :: .char ' ' :: .char c :: (later.map .char ++ rest) := by
      simp [propertyText, same]
    have skipped : Json.skipBlanks (.char ' ' :: .char c :: (later.map .char ++ rest)) =
        text.map .char ++ rest := by
      rw [same]
      exact skipBlanks_first (.inr rfl) first _
    have colon (s : List Symbol) : Json.skipBlanks (.char ':' :: s) = .char ':' :: s := rfl
    rw [whole, readProperty, name.reads _ (stops_char rfl _)]
    simp [colon, skipped, spelled.reads rest stops]

theorem spells_literal_key (k : String) : Spells readKey (Json.quote k) k where
  first := ⟨'"', _, rfl, rfl⟩
  reads rest _ := by rw [readKey, readLiteral_quote]

theorem spells_headers_key : Spells readKey "headers".toList "headers" where
  first := ⟨'h', _, rfl, rfl⟩
  reads rest stops := by
    have literal : readLiteral ("headers".toList.map .char ++ rest) = none := rfl
    have name := takeName_append "headers".toList (by decide) stops
    rw [readKey, literal, name]
    rfl

def objectText (gap : List Char) (properties : List (List Char)) : List Char :=
  '\x7b' :: gap ++ commaList properties ++ gap ++ ['\x7d']

theorem spells_object {ι : Type} {depth : Nat} {gap : List Char}
    (blank : gap = [] ∨ gap = [' ']) (xs : List ι) (text : ι → List Char)
    (value : ι → String × Expression)
    (h : ∀ x ∈ xs, Spells (readProperty (readExpression depth)) (text x) (value x)) :
    Spells (readExpression (depth + 1)) (objectText gap (xs.map text))
      (.object (xs.map value)) where
  first := ⟨'\x7b', _, rfl, rfl⟩
  reads rest _ := by
    have properties := readList_commaList blank ⟨blank, .inr rfl⟩ xs h rest
    have whole : (objectText gap (xs.map text)).map .char ++ rest =
        .char '\x7b' :: (gap.map .char ++ ((commaList (xs.map text)).map .char ++
          (gap.map .char ++ .char '\x7d' :: rest))) := by simp [objectText]
    have literal (s : List Symbol) : readLiteral (.char '\x7b' :: s) = none := rfl
    rw [whole, readExpression, literal, readObject, properties]

def headersObject (h : Dict String) : Expression :=
  .object (h.entries.map fun e => (e.1, .string e.2))

def Argument.expression : Argument → Expression
  | .literal s => .string s
  | .null => .null
  | .headers h => .object [("headers", headersObject h)]
  | .noParameters => .object []

theorem headerText_eq (e : String × String) :
    headerText e = propertyText (Json.quote e.1) (Json.quote e.2) := rfl

theorem headers_text (h : Dict String) :
    (Argument.headers h).text = objectText [' '] [propertyText "headers".toList
      (objectText [' '] (h.entries.map headerText))] := by
  have text : (Argument.headers h).text =
      '\x7b' :: ' ' :: ("headers".toList ++ [':', ' ', '\x7b', ' ']) ++
        commaList (h.entries.map headerText) ++ [' ', '\x7d', ' ', '\x7d'] := rfl
  rw [text, objectText, objectText, commaList, propertyText]
  -- the letters of the name do not matter
  generalize "headers".toList = key
  simp

theorem spells_headers (depth : Nat) (h : Dict String) :
    Spells (readExpression (depth + 3)) (Argument.headers h).text
      (Argument.headers h).expression := by
  have entries : Spells (readExpression (depth + 2)) (objectText [' '] (h.entries.map headerText))
      (headersObject h) := by
    refine spells_object (.inr rfl) h.entries _ _ fun e _ => ?_
    rw [headerText_eq]
    exact spells_property (spells_literal_key e.1) (spells_string depth e.2)
  rw [headers_text]
  exact spells_object (.inr rfl) [()] (fun _ => _) (fun _ => _) fun _ _ =>
    spells_property spells_headers_key entries

theorem spells_argument (depth : Nat) (a : Argument) :
    Spells (readExpression (depth + 3)) a.text a.expression := by
  cases a with
  | literal s => exact spells_string (depth + 2) s
  | null => exact spells_null (depth + 2)
  | headers h => exact spells_headers depth h
  | noParameters =>
    have none : ∀ e ∈ [], Spells (readProperty (readExpression (depth + 2))) (headerText e)
      (e.1, .string e.2) := by simp
    exact spells_object (.inl rfl) [] _ _ none

def Call.reading (c : Call) : Reading := ⟨c.function, c.arguments.map Argument.expression⟩

theorem afterStart?_append {α : Type} [DecidableEq α] (start rest : List α) :
    Text.afterStart? start (start ++ rest) = some rest := by
  induction start with
  | nil => rfl
  | cons a start ih => rw [List.cons_append, Text.afterStart?, if_pos rfl, ih]

theorem readCall_text {c : Call} (name : c.function.toList.all isNameChar = true) :
    readCall c.text = some c.reading := by
  have whole : c.text.map Symbol.char = "http.".toList.map .char ++ (c.function.toList.map .char ++
      .char '(' :: ((commaList (c.arguments.map Argument.text)).map .char ++ [.char ')'])) := by
    have text : c.text = "http.".toList ++ c.function.toList ++
        '(' :: commaList (c.arguments.map Argument.text) ++ [')'] := rfl
    rw [text]
    generalize "http.".toList = start
    simp
  obtain ⟨depth, long⟩ : ∃ depth, c.text.length = depth + 3 := by
    have text : c.text = 'h' :: 't' :: 't' :: _ := rfl
    exact ⟨_, by rw [text]; rfl⟩
  have arguments := readList_commaList (.inl rfl) ⟨.inl rfl, .inl rfl⟩ c.arguments
    (fun a _ => spells_argument depth a) []
  simp only [List.map_nil, List.nil_append] at arguments
  rw [readCall, whole, afterStart?_append, long]
  simp only [Option.bind_eq_bind, Option.bind_some]
  rw [takeName_append _ name (stops_char rfl _)]
  simp [arguments, Call.reading]

end Barrage.K6
