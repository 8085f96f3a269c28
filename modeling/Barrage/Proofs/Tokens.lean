import Mathlib.Tactic.SplitIfs
import Barrage.Json.Token
import Barrage.Json.Value

/-! Reading back strings and whole numbers.
Every character of a string comes back, escaped or not, and the closing quotation mark ends it
whatever follows. The digits of a number are taken up to the first character that is no part of
one, and make up the same number as long as it fits a word. -/

namespace Barrage

@[simp] theorem ok_bind {ε α β : Type} (a : α) (f : α → Except ε β) : (Except.ok a >>= f) = f a := rfl

@[simp] theorem error_bind {ε α β : Type} (e : ε) (f : α → Except ε β) :
    (Except.error e >>= f) = .error e := rfl

theorem bind_eq_ok {ε α β : Type} {x : Except ε α} {f : α → Except ε β} {b : β}
    (h : (x >>= f) = .ok b) : ∃ a, x = .ok a ∧ f a = .ok b := by
  cases x with
  | error e => cases h
  | ok a => exact ⟨a, rfl, h⟩

theorem eq_ok_of_toOption {ε α : Type} {x : Except ε α} {a : α} (h : x.toOption = some a) :
    x = .ok a := by
  cases x with
  | error e => cases h
  | ok b => rw [Option.some.inj h]

namespace Json

theorem hexValue?_hexDigit : ∀ n < 16, Text.hexValue? (Text.hexDigit false n) = some n := by
  decide

theorem hexCode_low {n : Nat} (small : n < 256) (rest : List Symbol) :
    hexCode (['0', '0', Text.hexDigit false (n / 16), Text.hexDigit false (n % 16)].map .char ++
      rest) = .ok n := by
  have zero : Text.hexValue? '0' = some 0 := by decide
  have high := hexValue?_hexDigit (n / 16) (by omega)
  have low := hexValue?_hexDigit (n % 16) (by omega)
  simp only [List.map_cons, List.map_nil, List.cons_append, List.nil_append, hexCode, zero, high, low]
  congr
  omega

theorem unescape_low {c : Char} (small : c.toNat < 32) (rest : List Symbol) :
    unescape (['u', '0', '0', Text.hexDigit false (c.toNat / 16),
      Text.hexDigit false (c.toNat % 16)].map .char ++ rest) = .ok (c, 5) := by
  have code := hexCode_low (n := c.toNat) (by omega) rest
  have notLow : isLowSurrogate c.toNat = false := by simp [isLowSurrogate]; omega
  have notHigh : isHighSurrogate c.toNat = false := by simp [isHighSurrogate]; omega
  rw [List.map_cons, List.cons_append, unescape, code]
  simp [notLow, notHigh]

theorem readChars_skip (sound : Bool) (acc : List Char) (taken rest : List Symbol) :
    readChars sound acc taken.length (taken ++ rest) = readChars sound acc 0 rest := by
  induction taken with
  | nil => rfl
  | cons a taken ih => rw [List.length_cons, List.cons_append, readChars, ih]

theorem readChars_backslash {c : Char} (code : List Char) {rest : List Symbol}
    (read : unescape (code.map .char ++ rest) = .ok (c, code.length)) (acc : List Char) :
    readChars true acc 0 (('\\' :: code).map .char ++ rest) = readChars true (c :: acc) 0 rest := by
  have skipped := readChars_skip true (c :: acc) (code.map .char) rest
  rw [List.length_map] at skipped
  rw [List.map_cons, List.cons_append, readChars, if_neg (by decide), if_pos rfl, read]
  exact skipped

theorem readChars_escape (c : Char) (acc : List Char) (rest : List Symbol) :
    readChars true acc 0 ((escape c).map .char ++ rest) = readChars true (c :: acc) 0 rest := by
  have named (n : Nat) (d : Char) (same : c.toNat = n) (h : d.toNat = n) : c = d :=
    Char.toNat_inj.1 (same.trans h.symm)
  unfold escape
  split_ifs with quote backslash line back tab bell feed low
  · exact readChars_backslash ['"'] (by rw [quote]; rfl) acc
  · exact readChars_backslash ['\\'] (by rw [backslash]; rfl) acc
  · exact readChars_backslash ['n'] (by rw [line]; rfl) acc
  · exact readChars_backslash ['r'] (by rw [back]; rfl) acc
  · exact readChars_backslash ['t'] (by rw [tab]; rfl) acc
  · exact readChars_backslash ['b'] (by rw [named 8 '\x08' bell rfl]; rfl) acc
  · exact readChars_backslash ['f'] (by rw [named 12 '\x0C' feed rfl]; rfl) acc
  · exact readChars_backslash _ (unescape_low low rest) acc
  · simp [readChars, quote, backslash, low]

theorem readChars_flatMap (cs acc : List Char) (rest : List Symbol) :
    readChars true acc 0 ((cs.flatMap escape ++ ['"']).map .char ++ rest) =
      .ok (String.ofList (acc.reverse ++ cs), rest) := by
  induction cs generalizing acc with
  | nil => simp [readChars]
  | cons c cs ih =>
    rw [List.flatMap_cons, List.append_assoc, List.map_append, List.append_assoc, readChars_escape,
      ih]
    simp

theorem restOfString_quoted (s : String) (rest : List Symbol) :
    restOfString ((s.toList.flatMap escape ++ ['"']).map .char ++ rest) = .ok (s, rest) := by
  rw [restOfString, readChars_flatMap]
  simp

theorem digit?_of_isDigit {c : Char} (h : c.isDigit) : digit? (.char c) = some (c.toNat - 48) :=
  if_pos h

theorem head?_digits {n : Nat} (positive : 0 < n) : (Decimal.digits n).head? ≠ some '0' := by
  unfold Decimal.digits
  induction n using Nat.strongRecOn with
  | _ n ih =>
    by_cases small : n < 10
    · rw [Nat.toDigits_of_lt_base small, List.head?_cons, Ne, Option.some_inj, Nat.digitChar_eq_zero]
      omega
    · have first := ih (n / 10) (by omega) (by omega)
      rw [Nat.toDigits_of_base_le (by decide) (by omega), List.head?_append]
      cases tens : (Nat.toDigits 10 (n / 10)).head? with
      | none => exact absurd (List.head?_eq_none_iff.1 tens) Nat.toDigits_ne_nil
      | some c => simpa [tens] using first

/-- What may follow a number: nothing, or a character that a number cannot hold. -/
def Ends (rest : List Symbol) : Prop :=
  ∀ a ∈ rest.head?, a = .char ',' ∨ a = .char ']' ∨ a = .char '\x7d' ∨ a = .char '\n'

theorem Ends.startsWithDigit {rest : List Symbol} (h : Ends rest) : startsWithDigit rest = false := by
  cases rest with
  | nil => rfl
  | cons a rest => rcases h a rfl with rfl | rfl | rfl | rfl <;> rfl

theorem ofDigitChars_cons_ten (c : Char) (ds : List Char) (acc : Nat) :
    Nat.ofDigitChars 10 (c :: ds) acc = Nat.ofDigitChars 10 ds (acc * 10 + (c.toNat - 48)) := by
  rw [Nat.ofDigitChars_cons, Nat.mul_comm]
  rfl

theorem takeDigits_append (bound : Nat) {ds : List Char} (digits : ∀ c ∈ ds, c.isDigit)
    {acc : Nat} (small : Nat.ofDigitChars 10 ds acc < bound) (count : Nat) {rest : List Symbol}
    (ends : startsWithDigit rest = false) :
    takeDigits bound acc count (ds.map .char ++ rest) =
      (Nat.ofDigitChars 10 ds acc, count + ds.length, rest) := by
  induction ds generalizing acc count with
  | nil =>
    cases rest with
    | nil => rfl
    | cons a rest =>
      have stop : digit? a = none := by simpa [startsWithDigit] using ends
      simp [takeDigits, stop]
  | cons c ds ih =>
    have first := digit?_of_isDigit (digits c List.mem_cons_self)
    rw [ofDigitChars_cons_ten] at small ⊢
    have room : acc * 10 + (c.toNat - 48) < bound := by
      refine Nat.lt_of_le_of_lt ?_ small
      rw [Nat.ofDigitChars_eq_ofDigitChars_zero]
      exact Nat.le_add_right_of_le (Nat.le_mul_of_pos_left _ (Nat.pow_pos (by decide)))
    rw [List.map_cons, List.cons_append, takeDigits, first]
    simp only [room, if_true]
    rw [ih (fun d hd => digits d (List.mem_cons_of_mem _ hd)) small, List.length_cons,
      Nat.add_assoc, Nat.add_comm 1]

theorem readWhole_of_ends (n : Nat) {rest : List Symbol} (ends : Ends rest) :
    readWhole false n rest = .ok (.natural (UInt64.ofNat n), rest) := by
  cases rest with
  | nil => rfl
  | cons a rest => rcases ends a rfl with rfl | rfl | rfl | rfl <;> rfl

theorem readNumeral_digits {n : Nat} (fits : n < UInt64.size) {rest : List Symbol}
    (ends : Ends rest) :
    readNumeral false ((Decimal.digits n).map .char ++ rest) =
      .ok (.natural (UInt64.ofNat n), rest) := by
  have digits (c : Char) (h : c ∈ Decimal.digits n) : c.isDigit :=
    Decimal.isDigit_of_mem_digits h
  have value : Nat.ofDigitChars 10 (Decimal.digits n) 0 = n := Nat.ofDigitChars_ten_toDigits
  have leading := head?_digits (n := n)
  have zero : Decimal.digits 0 = ['0'] := Nat.toDigits_zero 10
  rcases Nat.eq_zero_or_pos n with rfl | positive
  · rw [zero]
    simp [readNumeral, digit?, ends.startsWithDigit, readWhole_of_ends 0 ends]
  · cases writing : Decimal.digits n with
    | nil => exact absurd writing Nat.toDigits_ne_nil
    | cons c ds =>
      rw [writing] at digits value leading
      have first := digit?_of_isDigit (digits c List.mem_cons_self)
      rw [ofDigitChars_cons_ten, Nat.zero_mul, Nat.zero_add] at value
      have others := takeDigits_append UInt64.size
        (fun d hd => digits d (List.mem_cons_of_mem _ hd)) (value.symm ▸ fits) 1
        ends.startsWithDigit
      rw [value] at others
      rw [List.map_cons, List.cons_append, readNumeral, first]
      cases least : c.toNat - 48 with
      | zero =>
        have range := Char.isDigit_iff_toNat.1 (digits c List.mem_cons_self)
        have same : c.toNat = 48 := Nat.le_antisymm (Nat.sub_eq_zero_iff_le.1 least) range.1
        exact absurd (congrArg some (Char.toNat_inj.1 same)) (leading positive)
      | succ d =>
        rw [least] at others
        simp only [others, ends.startsWithDigit]
        exact readWhole_of_ends n ends

end Json
end Barrage
