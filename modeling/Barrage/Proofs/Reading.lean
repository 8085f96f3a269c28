import Mathlib.Data.List.Forall2
import Barrage.Json.Reader
import Barrage.Proofs.Tokens

/-! Reading back what was written.
A reader reads a value if it takes the text of the value, in a layout and at any depth, and leaves
what follows. Readers of lists, maps and records do so when those of their parts do: the loop over
the parts keeps what it has read and stands in front of the text of the rest. -/

namespace Barrage

def StartsDecimal (cs : List Char) : Prop := ∃ c rest, cs = c :: rest ∧ c.isDigit

theorem StartsDecimal.append {cs : List Char} (h : StartsDecimal cs) (more : List Char) :
    StartsDecimal (cs ++ more) := by
  obtain ⟨c, rest, rfl, digit⟩ := h
  exact ⟨c, rest ++ more, rfl, digit⟩

theorem StartsDecimal.take {cs : List Char} (h : StartsDecimal cs) {n : Nat} (some : n ≠ 0) :
    StartsDecimal (cs.take n) := by
  obtain ⟨c, rest, rfl, digit⟩ := h
  obtain ⟨n, rfl⟩ := Nat.exists_eq_succ_of_ne_zero some
  exact ⟨c, rest.take n, rfl, digit⟩

theorem Decimal.startsDecimal_digits (n : Nat) : StartsDecimal (digits n) := by
  cases writing : digits n with
  | nil => exact absurd writing Nat.toDigits_ne_nil
  | cons c ds =>
    have member : c ∈ digits n := by
      rw [writing]
      exact List.mem_cons_self
    exact ⟨c, ds, rfl, isDigit_of_mem_digits member⟩

namespace Binary64

theorem startsDecimal_positional (d : Decimals) : StartsDecimal (positional d) := by
  have digits := Decimal.startsDecimal_digits d.digits
  unfold positional
  cases d.exponent with
  | ofNat k => exact (digits.append _).append _
  | negSucc k =>
    dsimp only
    split
    · next inside => exact (digits.take (Nat.sub_ne_zero_of_lt inside)).append _
    · exact ⟨'0', _, rfl, by decide⟩

theorem startsDecimal_scientific (d : Decimals) : StartsDecimal (scientific d) :=
  (((Decimal.startsDecimal_digits d.digits).take Nat.one_ne_zero).append _).append _

theorem startsDecimal_magnitudeText (style : DecimalStyle) (rank : Nat) :
    StartsDecimal (magnitudeText style rank) := by
  unfold magnitudeText
  split
  · exact ⟨'0', _, rfl, by decide⟩
  · dsimp only
    split
    · exact startsDecimal_positional _
    · exact startsDecimal_scientific _

end Binary64

namespace Json

def between : List Char := [' ', '\t', '\n', '\r', ']']

theorem not_mem_between_of_isDigit {c : Char} (h : c.isDigit) : c ∉ between := by
  intro member
  simp only [between, List.mem_cons, List.not_mem_nil, or_false] at member
  rcases member with rfl | rfl | rfl | rfl | rfl <;> exact absurd h (by decide)

theorem Value.exists_write (v : Value) (l : Layout) (depth : Nat) :
    ∃ c cs, v.write l depth = c :: cs ∧ c ∉ between := by
  cases v with
  | null => exact ⟨'n', _, by rw [Value.write], by decide⟩
  | boolean b => cases b <;> exact ⟨_, _, by rw [Value.write]; rfl, by decide⟩
  | natural n =>
    obtain ⟨c, ds, writing, digit⟩ := Decimal.startsDecimal_digits n
    exact ⟨c, ds, by rw [Value.write, writing], not_mem_between_of_isDigit digit⟩
  | real x =>
    rw [Value.write]
    cases x with
    | nan | infinite => exact ⟨'n', _, rfl, by decide⟩
    | finite s r =>
      obtain ⟨c, ds, writing, digit⟩ :=
        Binary64.startsDecimal_magnitudeText Binary64.documentStyle r
      cases s with
      | true => exact ⟨'-', _, rfl, by decide⟩
      | false => exact ⟨c, ds, writing, not_mem_between_of_isDigit digit⟩
  | string s => exact ⟨'"', _, by rw [Value.write, quote]; rfl, by decide⟩
  | array items =>
    cases items with
    | nil => exact ⟨'[', _, by rw [Value.write], by decide⟩
    | cons v rest => exact ⟨'[', _, by rw [Value.write]; rfl, by decide⟩
  | object members =>
    cases members with
    | nil => exact ⟨'\x7b', _, by rw [Value.write], by decide⟩
    | cons m rest => exact ⟨'\x7b', _, by rw [Value.write]; rfl, by decide⟩

theorem skipBlanks_gap (l : Layout) (depth : Nat) (rest : List Symbol) :
    skipBlanks ((l.gap depth).map .char ++ rest) = skipBlanks rest := by
  unfold skipBlanks
  refine List.dropWhile_append_of_pos fun a member => ?_
  cases l with
  | compact => simp [Layout.gap] at member
  | pretty =>
    simp only [Layout.gap, List.map_cons, List.map_replicate, List.mem_cons] at member
    rcases member with rfl | member
    · rfl
    · rw [List.eq_of_mem_replicate member]
      rfl

theorem cons_ne_close {c : Char} (h : c ∉ between) (s rest : List Symbol) :
    Symbol.char c :: s ≠ .char ']' :: rest := by
  intro close
  obtain ⟨rfl, -⟩ : c = ']' ∧ s = rest := by simpa using close
  exact absurd h (by decide)

theorem skipBlanks_of_not_mem {c : Char} (h : c ∉ between) (rest : List Symbol) :
    skipBlanks (.char c :: rest) = .char c :: rest := by
  have solid : isBlank (.char c) = false := by
    simp only [between, List.mem_cons, List.not_mem_nil, or_false, not_or] at h
    simp [isBlank, h]
  rw [skipBlanks, List.dropWhile_cons_of_neg (by simp [solid])]

/-- A reader takes the text of a value for `a`, at any depth, behind blanks, and whatever follows. -/
def Reads (read : Reader α) (l : Layout) (v : Value) (a : α) : Prop :=
  ∀ (depth : Nat) (s rest : List Symbol), Ends rest →
    skipBlanks s = (v.write l depth).map .char ++ rest → read s = .ok (a, rest)

theorem skipBlanks_write (l : Layout) (depth : Nat) (v : Value) (rest : List Symbol) :
    skipBlanks ((v.write l depth).map .char ++ rest) = (v.write l depth).map .char ++ rest := by
  obtain ⟨c, cs, writing, solid⟩ := v.exists_write l depth
  rw [writing, List.map_cons, List.cons_append, skipBlanks_of_not_mem solid]

theorem skipBlanks_gap_write (l : Layout) (gap depth : Nat) (v : Value) (rest : List Symbol) :
    skipBlanks ((l.gap gap ++ v.write l depth).map .char ++ rest) =
      (v.write l depth).map .char ++ rest := by
  rw [List.map_append, List.append_assoc, skipBlanks_gap, skipBlanks_write]

theorem Reads.here {α : Type} {read : Reader α} {l : Layout} {v : Value} {a : α}
    (h : Reads read l v a) (depth : Nat) {rest : List Symbol} (ends : Ends rest) :
    read ((v.write l depth).map .char ++ rest) = .ok (a, rest) :=
  h depth _ rest ends (skipBlanks_write l depth v rest)

section
variable {α : Type} {l : Layout}

theorem write_string (l : Layout) (depth : Nat) (t : String) (rest : List Symbol) :
    ((Value.string t).write l depth).map .char ++ rest =
      .char '"' :: ((t.toList.flatMap escape ++ ['"']).map .char ++ rest) := by
  rw [Value.write, quote, List.cons_append, List.map_cons, List.cons_append]

theorem Reads.named {expected t : String} {convert : String → Except Reason α} {a : α}
    (h : convert t = .ok a) : Reads (readNamed expected convert) l (.string t) a := by
  intro depth s rest _ text
  rw [write_string] at text
  rw [readNamed, text]
  simp only [restOfString_quoted, ok_bind, h]

theorem Reads.string (t : String) : Reads readString l (.string t) t := .named rfl

theorem Reads.some_string (t : String) :
    Reads (readOption readString) l (.string t) (some t) := by
  intro depth s rest ends text
  have read := (Reads.string t).here (l := l) depth ends
  rw [write_string] at text read
  rw [readOption, text]
  change (readString _ >>= fun (r : String × List Symbol) => .ok (some r.1, r.2)) = _
  rw [read, ok_bind]

theorem Reads.variant {names : List String} {value? : String → Option α} {t : String} {a : α}
    (h : value? t = some a) : Reads (readVariant names value?) l (.string t) a := by
  intro depth s rest ends text
  rw [write_string] at text
  rw [readVariant, text]
  change readNamed _ _ (.char '"' :: _) = _
  rw [← write_string l depth]
  refine (Reads.named ?_).here (l := l) depth ends
  rw [h]

theorem Reads.number {expected : String} {convert : Numeral → Except Reason α} {a : α} {n : Nat}
    (fits : n < UInt64.size) (h : convert (.natural (UInt64.ofNat n)) = .ok a) :
    Reads (readNumber expected convert) l (.natural n) a := by
  intro depth s rest ends text
  have numeral := readNumeral_digits fits ends
  obtain ⟨c, ds, writing, digit⟩ := Decimal.startsDecimal_digits n
  rw [Value.write, writing, List.map_cons, List.cons_append] at text
  rw [writing, List.map_cons, List.cons_append] at numeral
  have first : startsWithDigit (.char c :: (ds.map .char ++ rest)) := by
    rw [startsWithDigit, digit?_of_isDigit digit]
    rfl
  rw [readNumber, text]
  split
  · next nothing => exact absurd nothing (by simp)
  · next sign =>
    obtain ⟨rfl, -⟩ : c = '-' ∧ _ := by simpa using sign
    exact absurd digit (by decide)
  · simp only [first, if_true, numeral, ok_bind, h]

theorem Reads.word64 (n : UInt64) : Reads readWord64 l (.natural n.toNat) n :=
  .number n.toNat_lt (by rw [Json.word64, UInt64.ofNat_toNat])

theorem Reads.word32 (n : UInt32) : Reads readWord32 l (.natural n.toNat) n := by
  have small : n.toNat < UInt64.size := Nat.lt_trans n.toNat_lt (by decide)
  refine .number small ?_
  rw [Json.word32, UInt64.toNat_ofNat_of_lt' small, if_pos n.toNat_lt, UInt32.ofNat_toNat]

theorem ends_gap (l : Layout) (depth : Nat) {c : Char} (rest : List Symbol)
    (h : c = ']' ∨ c = '\x7d') : Ends ((l.gap depth).map .char ++ .char c :: rest) := by
  intro a ha
  cases l with
  | compact =>
    obtain rfl : Symbol.char c = a := by simpa [Layout.gap] using ha
    rcases h with rfl | rfl <;> simp
  | pretty =>
    obtain rfl : Symbol.char '\n' = a := by simpa [Layout.gap] using ha
    simp

theorem ends_comma (rest : List Symbol) : Ends (.char ',' :: rest) := by
  intro a ha
  obtain rfl : Symbol.char ',' = a := by simpa using ha
  exact .inl rfl

theorem ends_writeItems (l : Layout) (depth : Nat) (vs : List Value) (rest : List Symbol) :
    Ends ((writeItems l depth vs).map .char ++ .char ']' :: rest) := by
  cases vs with
  | nil =>
    rw [writeItems]
    exact ends_gap l depth rest (.inl rfl)
  | cons v vs =>
    rw [writeItems]
    exact ends_comma _

theorem length_le_writeItems (l : Layout) (depth : Nat) (vs : List Value) :
    vs.length ≤ (writeItems l depth vs).length := by
  induction vs with
  | nil => exact Nat.zero_le _
  | cons v vs ih =>
    rw [writeItems]
    simp only [List.length_append, List.length_cons]
    omega

theorem nextItem_first {s rest : List Symbol} {v : Value} {depth : Nat}
    (text : skipBlanks s = (v.write l depth).map .char ++ rest) :
    nextItem true s = .ok (true, (v.write l depth).map .char ++ rest) := by
  obtain ⟨c, cs, writing, solid⟩ := v.exists_write l depth
  rw [nextItem, text, writing, List.map_cons, List.cons_append]
  split
  · next nothing => exact absurd nothing (by simp)
  · next close => exact absurd close (cons_ne_close solid _ _)
  · next same => simp [← same]

theorem nextItem_behind_comma {s rest : List Symbol} {v : Value} {depth : Nat}
    (text : skipBlanks s = (v.write l depth).map .char ++ rest) :
    nextItem false (.char ',' :: s) = .ok (true, (v.write l depth).map .char ++ rest) := by
  obtain ⟨c, cs, writing, solid⟩ := v.exists_write l depth
  have comma : skipBlanks (.char ',' :: s) = .char ',' :: s := rfl
  rw [writing, List.map_cons, List.cons_append] at text ⊢
  rw [nextItem, comma]
  split
  · next nothing => cases nothing
  · next close => exact absurd close (by simp)
  · next same =>
    obtain ⟨rfl, rfl⟩ := List.cons.inj same
    rw [if_neg Bool.false_ne_true, if_pos rfl, text]
    split
    · next nothing => cases nothing
    · next close => exact absurd close (cons_ne_close solid _ _)
    · rfl

theorem nextItem_close (first : Bool) (depth : Nat) (rest : List Symbol) :
    nextItem first ((l.gap depth).map .char ++ .char ']' :: rest) =
      .ok (false, .char ']' :: rest) := by
  rw [nextItem, skipBlanks_gap]
  rfl

@[simp] theorem inside_ok (segment : Segment) (a : α) : inside segment (.ok a) = .ok a := rfl

theorem nextItem_writeItems (l : Layout) (depth : Nat) (v : Value) (vs : List Value)
    (rest : List Symbol) :
    nextItem false ((writeItems l depth (v :: vs)).map .char ++ rest) =
      .ok (true, (v.write l (depth + 1)).map .char ++
        ((writeItems l depth vs).map .char ++ rest)) := by
  have next := nextItem_behind_comma
    (skipBlanks_gap_write l (depth + 1) (depth + 1) v ((writeItems l depth vs).map .char ++ rest))
  rw [← next, writeItems]
  simp

theorem readItems_writeItems {read : Reader α} {vs : List Value} {as : List α}
    (items : List.Forall₂ (Reads read l) vs as) (depth : Nat) {fuel : Nat}
    (enough : vs.length < fuel) {acc : List α} (some : acc ≠ []) (rest : List Symbol) :
    readItems read fuel acc ((writeItems l depth vs).map .char ++ .char ']' :: rest) =
      .ok (acc.reverse ++ as, .char ']' :: rest) := by
  -- what has been read stands in the accumulator, latest first
  have later : acc.isEmpty = false := by simpa using some
  induction items generalizing fuel acc with
  | nil =>
    obtain ⟨fuel, rfl⟩ := Nat.exists_eq_succ_of_ne_zero (Nat.ne_zero_of_lt enough)
    rw [readItems, writeItems, nextItem_close]
    simp
  | @cons v a vs as item items ih =>
    obtain ⟨fuel, rfl⟩ := Nat.exists_eq_succ_of_ne_zero (Nat.ne_zero_of_lt enough)
    have read := item.here (depth + 1) (ends_writeItems l depth vs rest)
    rw [readItems, later, nextItem_writeItems]
    simp only [ok_bind, if_true, read, inside_ok]
    rw [ih (by simpa using enough) (by simp) rfl]
    simp

theorem write_cons_array (l : Layout) (depth : Nat) (v : Value) (vs : List Value)
    (rest : List Symbol) :
    ((Value.array (v :: vs)).write l depth).map .char ++ rest =
      .char '[' :: ((l.gap (depth + 1) ++ v.write l (depth + 1)).map .char ++
        ((writeItems l depth vs).map .char ++ .char ']' :: rest)) := by
  rw [Value.write]
  simp

theorem Reads.list {read : Reader α} {vs : List Value} {as : List α}
    (items : List.Forall₂ (Reads read l) vs as) : Reads (readList read) l (.array vs) as := by
  intro depth s rest _ text
  cases items with
  | nil =>
    rw [Value.write] at text
    rw [readList, text]
    rfl
  | @cons v a vs as item items =>
    rw [write_cons_array] at text
    have read := item.here (depth + 1) (ends_writeItems l depth vs rest)
    have more := nextItem_first (skipBlanks_gap_write l (depth + 1) (depth + 1) v
      ((writeItems l depth vs).map .char ++ .char ']' :: rest))
    have enough : vs.length < ((l.gap (depth + 1) ++ v.write l (depth + 1)).map Symbol.char ++
        ((writeItems l depth vs).map Symbol.char ++ Symbol.char ']' :: rest)).length := by
      have least := length_le_writeItems l depth vs
      simp only [List.length_append, List.length_map, List.length_cons]
      omega
    rw [readList, text]
    simp only [readItems, List.isEmpty_nil, more, ok_bind, if_true, read, inside_ok]
    rw [readItems_writeItems items depth enough (List.cons_ne_nil a [])]
    rfl

theorem write_cons_object (l : Layout) (depth : Nat) (k : String) (v : Value)
    (ms : List (String × Value)) (rest : List Symbol) :
    ((Value.object ((k, v) :: ms)).write l depth).map .char ++ rest =
      .char '\x7b' :: ((l.gap (depth + 1) ++ (Value.string k).write l (depth + 1)).map .char ++
        ((l.colon ++ v.write l (depth + 1)).map .char ++
          ((writeMembers l depth ms).map .char ++ .char '\x7d' :: rest))) := by
  rw [Value.write, Value.write]
  simp

theorem ends_writeMembers (l : Layout) (depth : Nat) (ms : List (String × Value))
    (rest : List Symbol) : Ends ((writeMembers l depth ms).map .char ++ .char '\x7d' :: rest) := by
  cases ms with
  | nil =>
    rw [writeMembers]
    exact ends_gap l depth rest (.inr rfl)
  | cons m ms =>
    rw [writeMembers]
    exact ends_comma _

theorem length_le_writeMembers (l : Layout) (depth : Nat) (ms : List (String × Value)) :
    ms.length ≤ (writeMembers l depth ms).length := by
  induction ms with
  | nil => exact Nat.zero_le _
  | cons m ms ih =>
    rw [writeMembers]
    simp only [List.length_append, List.length_cons]
    omega

theorem length_lt_object (depth : Nat) (k : String) (v : Value) (ms : List (String × Value))
    (rest : List Symbol) :
    ms.length < ((l.gap (depth + 1) ++ (Value.string k).write l (depth + 1)).map Symbol.char ++
      ((l.colon ++ v.write l (depth + 1)).map Symbol.char ++
        ((writeMembers l depth ms).map Symbol.char ++ Symbol.char '\x7d' :: rest))).length := by
  have each := length_le_writeMembers l depth ms
  simp only [List.length_append, List.length_map, List.length_cons]
  omega

theorem nextName_first {s rest : List Symbol} {k : String} {depth : Nat}
    (text : skipBlanks s = ((Value.string k).write l depth).map .char ++ rest) :
    nextName true s = .ok (some k, rest) := by
  rw [write_string] at text
  rw [nextName, text]
  change (restOfString _ >>= fun (r : String × List Symbol) => .ok (some r.1, r.2)) = _
  rw [restOfString_quoted, ok_bind]

theorem nextName_behind_comma {s rest : List Symbol} {k : String} {depth : Nat}
    (text : skipBlanks s = ((Value.string k).write l depth).map .char ++ rest) :
    nextName false (.char ',' :: s) = .ok (some k, rest) := by
  have comma : skipBlanks (.char ',' :: s) = .char ',' :: s := rfl
  rw [write_string] at text
  rw [nextName, comma]
  split
  · next nothing => cases nothing
  · next close => exact absurd close (by simp)
  · next same =>
    obtain ⟨rfl, rfl⟩ := List.cons.inj same
    rw [if_neg Bool.false_ne_true, if_pos rfl, text]
    change (restOfString _ >>= fun (r : String × List Symbol) => .ok (some r.1, r.2)) = _
    rw [restOfString_quoted, ok_bind]

theorem nextName_writeMembers (l : Layout) (depth : Nat) (k : String) (v : Value)
    (ms : List (String × Value)) (rest : List Symbol) :
    nextName false ((writeMembers l depth ((k, v) :: ms)).map .char ++ rest) =
      .ok (some k, (l.colon ++ v.write l (depth + 1)).map .char ++
        ((writeMembers l depth ms).map .char ++ rest)) := by
  have next := nextName_behind_comma (skipBlanks_gap_write l (depth + 1) (depth + 1) (.string k)
    ((l.colon ++ v.write l (depth + 1)).map .char ++
      ((writeMembers l depth ms).map .char ++ rest)))
  rw [← next, writeMembers, Value.write]
  simp

theorem nextName_close (first : Bool) (depth : Nat) (rest : List Symbol) :
    nextName first ((l.gap depth).map .char ++ .char '\x7d' :: rest) =
      .ok (none, .char '\x7d' :: rest) := by
  rw [nextName, skipBlanks_gap]
  rfl

theorem Reads.after_colon {read : Reader α} {v : Value} {a : α} (h : Reads read l v a)
    (depth : Nat) {rest : List Symbol} (ends : Ends rest) :
    (readColon ((l.colon ++ v.write l depth).map .char ++ rest) >>= read) = .ok (a, rest) := by
  cases l with
  | compact => exact h.here depth ends
  | pretty =>
    exact h depth _ rest ends (skipBlanks_write .pretty depth v rest)

theorem readEntries_writeMembers {read : Reader α} {ms : List (String × Value)}
    {es : List (String × α)}
    (members : List.Forall₂ (fun m e => m.1 = e.1 ∧ Reads read l m.2 e.2) ms es) (depth : Nat)
    {fuel : Nat} (enough : ms.length < fuel) (d : Dict α) (rest : List Symbol) :
    readEntries read fuel false d ((writeMembers l depth ms).map .char ++ .char '\x7d' :: rest) =
      .ok (es.foldl (fun d e => d.insert e.1 e.2) d, .char '\x7d' :: rest) := by
  induction members generalizing fuel d with
  | nil =>
    obtain ⟨fuel, rfl⟩ := Nat.exists_eq_succ_of_ne_zero (Nat.ne_zero_of_lt enough)
    rw [readEntries, writeMembers, nextName_close]
    rfl
  | @cons m e ms es member members ih =>
    obtain ⟨k, v⟩ := m
    obtain ⟨j, a⟩ := e
    obtain ⟨rfl, value⟩ : k = j ∧ Reads read l v a := member
    obtain ⟨fuel, rfl⟩ := Nat.exists_eq_succ_of_ne_zero (Nat.ne_zero_of_lt enough)
    have read := value.after_colon (depth + 1) (ends_writeMembers l depth ms rest)
    rw [readEntries, nextName_writeMembers]
    simp only [ok_bind, read, inside_ok]
    exact ih (by simpa using enough) (d.insert k a)

theorem Reads.map {read : Reader α} {ms : List (String × Value)} {es : List (String × α)}
    (members : List.Forall₂ (fun m e => m.1 = e.1 ∧ Reads read l m.2 e.2) ms es) :
    Reads (readMap read) l (.object ms) (Dict.ofList es) := by
  intro depth s rest _ text
  cases members with
  | nil =>
    rw [Value.write] at text
    rw [readMap, text]
    rfl
  | @cons m e ms es member members =>
    obtain ⟨k, v⟩ := m
    obtain ⟨j, a⟩ := e
    obtain ⟨rfl, value⟩ : k = j ∧ Reads read l v a := member
    rw [write_cons_object] at text
    have name := nextName_first (skipBlanks_gap_write l (depth + 1) (depth + 1) (.string k)
      ((l.colon ++ v.write l (depth + 1)).map .char ++
        ((writeMembers l depth ms).map .char ++ .char '\x7d' :: rest)))
    have read := value.after_colon (depth + 1) (ends_writeMembers l depth ms rest)
    have enough := length_lt_object (l := l) depth k v ms rest
    rw [readMap, text]
    simp only [readEntries, name, ok_bind, read, inside_ok]
    rw [readEntries_writeMembers members depth enough]
    rfl

theorem Reads.field {σ : Type} {name : String} {optional : Bool} {get : σ → Option α}
    {set : σ → α → σ} {read : Reader α} {v : Value} {a : α} (h : Reads read l v a) (d : σ) :
    Reads ((Field.of name optional get set read).read d) l v (set d a) := by
  intro depth s rest ends text
  change (read s).map _ = _
  rw [h depth s rest ends text]
  rfl

/-- Members that a record reads one after the other, from one draft of it to another. -/
inductive Record.Fills {σ : Type} (r : Record σ α) (l : Layout) :
    σ → List (String × Value) → σ → Prop where
  | nil (d : σ) : Fills r l d [] d
  | cons {d next e : σ} {k : String} {v : Value} {f : Field σ} {ms : List (String × Value)}
      (found : r.fields.find? (·.name == k) = some f) (unset : f.isSet d = false)
      (reads : Reads (f.read d) l v next) (rest : Fills r l next ms e) :
      Fills r l d ((k, v) :: ms) e

theorem Record.Fills.append {σ : Type} {r : Record σ α} {d e f : σ}
    {ms ns : List (String × Value)} (first : r.Fills l d ms e) (second : r.Fills l e ns f) :
    r.Fills l d (ms ++ ns) f := by
  induction first with
  | nil => exact second
  | cons found unset reads _ ih => exact .cons found unset reads (ih second)

theorem Record.Fills.readMembers {σ : Type} {r : Record σ α} {d e : σ}
    {ms : List (String × Value)} (fills : r.Fills l d ms e) (complete : r.missing? e = none)
    (depth : Nat) {fuel : Nat} (enough : ms.length < fuel) (rest : List Symbol) :
    r.readMembers fuel false d ((writeMembers l depth ms).map .char ++ .char '\x7d' :: rest) =
      .ok (e, .char '\x7d' :: rest) := by
  induction fills generalizing fuel with
  | nil d =>
    obtain ⟨fuel, rfl⟩ := Nat.exists_eq_succ_of_ne_zero (Nat.ne_zero_of_lt enough)
    rw [Record.readMembers, writeMembers, nextName_close]
    simp only [ok_bind, complete]
  | @cons d next e k v f ms found unset reads fills ih =>
    obtain ⟨fuel, rfl⟩ := Nat.exists_eq_succ_of_ne_zero (Nat.ne_zero_of_lt enough)
    have read := reads.after_colon (depth + 1) (ends_writeMembers l depth ms rest)
    rw [Record.readMembers, nextName_writeMembers]
    simp only [ok_bind, found, unset, read, inside_ok]
    exact ih complete (by simpa using enough)

theorem Reads.record {σ : Type} {r : Record σ α} {e : σ} {m : String × Value}
    {ms : List (String × Value)} (fills : r.Fills l r.empty (m :: ms) e)
    (complete : r.missing? e = none) : Reads r.read l (.object (m :: ms)) (r.build e) := by
  intro depth s rest _ text
  cases fills with
  | @cons _ next _ k v f _ found unset reads fills =>
    rw [write_cons_object] at text
    have name := nextName_first (skipBlanks_gap_write l (depth + 1) (depth + 1) (.string k)
      ((l.colon ++ v.write l (depth + 1)).map .char ++
        ((writeMembers l depth ms).map .char ++ .char '\x7d' :: rest)))
    have read := reads.after_colon (depth + 1) (ends_writeMembers l depth ms rest)
    have enough := length_lt_object (l := l) depth k v ms rest
    rw [Record.read, text]
    simp only [Record.readMembers, name, ok_bind, found, unset, read, inside_ok]
    rw [fills.readMembers complete depth enough]
    rfl

theorem Reads.text {read : Reader α} {v : Value} {a : α} (h : Reads read l v a) :
    readText read (v.text l) = .ok a := by
  have whole : read ((v.write l 0).map .char ++ []) = .ok (a, []) := h.here 0 (by simp [Ends])
  rw [List.append_nil] at whole
  rw [readText, Value.text, Symbol.ofText_ofList, readDocument, whole]
  rfl

end

end Json
end Barrage
