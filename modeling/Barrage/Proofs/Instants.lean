import Mathlib.Data.List.Induction
import Mathlib.Data.List.TakeWhile
import Barrage.Instant.Reading
import Barrage.Proofs.Calendar
import Barrage.Proofs.Tokens

/-! Instants come back from their texts.
A text is written field by field, each with its digits: the year with a sign outside of four digits,
the fraction of the second with as few groups of three as it takes, and a `Z` at the end. What is
written in this way is read as the instant that it was written for, which is any instant that can be
read at all: its year is in range, and a leap second ends its minute. -/

namespace Barrage

namespace Decimal

structure Spells (width n : Nat) (ds : List Char) : Prop where
  length : ds.length = width
  digits : ∀ c ∈ ds, c.isDigit
  value : Decimal.value ds = n

theorem Spells.exists_cons {width n : Nat} {ds : List Char} (h : Spells (width + 1) n ds) :
    ∃ c rest, ds = c :: rest ∧ c.isDigit := by
  cases ds with
  | nil => cases h.length
  | cons c rest => exact ⟨c, rest, rfl, h.digits c List.mem_cons_self⟩

theorem value_eq_ofDigitChars (ds : List Char) : value ds = Nat.ofDigitChars 10 ds 0 := rfl

theorem value_lt {ds : List Char} (digits : ∀ c ∈ ds, c.isDigit) : value ds < 10 ^ ds.length := by
  induction ds using List.reverseRecOn with
  | nil => decide
  | append_singleton ds c ih =>
    have range : 48 ≤ c.toNat ∧ c.toNat ≤ 57 := Char.isDigit_iff_toNat.1 (digits c (by simp))
    have before := ih fun d hd => digits d (by simp [hd])
    have next : value (ds ++ [c]) = 10 * value ds + (c.toNat - 48) := by simp [value]
    rw [next, List.length_append, List.length_singleton, Nat.pow_succ]
    omega

theorem spells_padded_width (width n : Nat) :
    Spells (padded width n).length n (padded width n) where
  length := rfl
  digits _ member := isDigit_of_mem_padded member
  value := by
    rw [value_eq_ofDigitChars, padded, Nat.ofDigitChars_append, Nat.ofDigitChars_replicate_zero,
      Nat.mul_zero]
    exact Nat.ofDigitChars_ten_toDigits

theorem le_length_padded (width n : Nat) : width ≤ (padded width n).length := by
  simp only [padded, List.length_append, List.length_replicate]
  omega

theorem length_padded {width n : Nat} (some : 0 < width) (small : n < 10 ^ width) :
    (padded width n).length = width := by
  have few : (digits n).length ≤ width := (Nat.length_toDigits_le_iff (by decide) some).2 small
  simp only [padded, List.length_append, List.length_replicate]
  omega

theorem spells_padded {width n : Nat} (some : 0 < width) (small : n < 10 ^ width) :
    Spells width n (padded width n) := by
  have spelled := spells_padded_width width n
  rwa [length_padded some small] at spelled

end Decimal

namespace Instant
open Decimal

inductive SpellsYear : Int → List Char → Prop
  | plain {year : Nat} {ds : List Char} (range : year ≤ 9999) (spelled : Spells 4 year ds) :
      SpellsYear year ds
  | before {year : Nat} {width : Nat} {ds : List Char} (range : 0 < year) (wide : 4 ≤ width)
      (spelled : Spells width year ds) : SpellsYear (-year) ('-' :: ds)
  | after {year : Nat} {width : Nat} {ds : List Char} (range : 9999 < year) (wide : 4 ≤ width)
      (spelled : Spells width year ds) : SpellsYear year ('+' :: ds)

inductive SpellsFraction : Nat → List Char → Prop
  | whole : SpellsFraction 0 []
  | digits {width n : Nat} {ds : List Char} (groups : width = 3 ∨ width = 6 ∨ width = 9)
      (spelled : Spells width n ds) : SpellsFraction (n * 10 ^ (9 - width)) ('.' :: ds)

inductive Written (t : Instant) : List Char → Prop
  | fields {year month day hour minute second fraction : List Char}
      (hyear : SpellsYear t.date.year year) (hmonth : Spells 2 t.date.month month)
      (hday : Spells 2 t.date.day day) (hhour : Spells 2 t.hour hour)
      (hminute : Spells 2 t.minute minute) (hsecond : Spells 2 t.second second)
      (hfraction : SpellsFraction t.fraction fraction) :
      Written t (year ++ '-' :: (month ++ '-' :: (day ++ 'T' :: (hour ++ ':' :: (minute ++
        ':' :: (second ++ (fraction ++ ['Z'])))))))

/-- The year can be told, and a second that is longer than others is the last of its minute. -/
structure Regular (t : Instant) : Prop where
  first : firstYear ≤ t.date.year
  last : t.date.year ≤ lastYear
  nanos : t.nanos < 2000000000
  leap : 1000000000 ≤ t.nanos → t.seconds % 60 = 59

theorem spellsYear_yearText (year : Int) : SpellsYear year (yearText year) := by
  rw [yearText]
  split
  · next range =>
    obtain ⟨n, rfl⟩ := Int.eq_ofNat_of_zero_le range.1
    rw [Int.toNat_natCast]
    exact .plain (by omega) (spells_padded (by decide) (by omega))
  · next range =>
    split
    · next negative =>
      obtain ⟨n, rfl⟩ : ∃ n : Nat, year = -n := ⟨year.natAbs, by omega⟩
      rw [Int.natAbs_neg, Int.natAbs_natCast]
      exact .before (by omega) (le_length_padded 4 n) (spells_padded_width 4 n)
    · next positive =>
      obtain ⟨n, rfl⟩ := Int.eq_ofNat_of_zero_le (Int.not_lt.1 positive)
      rw [Int.natAbs_natCast]
      exact .after (by omega) (le_length_padded 4 n) (spells_padded_width 4 n)

theorem spellsFraction_fractionText {nanos : Nat} (below : nanos < 1000000000) :
    SpellsFraction nanos (fractionText nanos) := by
  have groups {width n : Nat} (h : width = 3 ∨ width = 6 ∨ width = 9)
      (same : n * 10 ^ (9 - width) = nanos) (small : n < 10 ^ width) :
      SpellsFraction nanos ('.' :: padded width n) := by
    have spelled := SpellsFraction.digits h (spells_padded (by omega) small)
    rwa [same] at spelled
  rw [fractionText]
  split
  · next none =>
    rw [none]
    exact .whole
  · split
    · exact groups (by decide) (by omega) (by omega)
    · split
      · exact groups (by decide) (by omega) (by omega)
      · exact groups (by decide) (by omega) (by omega)

theorem secondOfDay_lt (t : Instant) : t.secondOfDay < 86400 := by
  have below := Int.fmod_lt_of_pos t.seconds (b := 86400) (by decide)
  rw [secondOfDay]
  omega

theorem seconds_eq (t : Instant) : t.seconds = t.date.toDays * 86400 + t.secondOfDay := by
  rw [date, Date.toDays_ofDays, secondOfDay, Int.fdiv_eq_ediv_of_nonneg _ (by decide),
    Int.fmod_eq_emod_of_nonneg _ (by decide)]
  omega

theorem Regular.second_le {t : Instant} (h : t.Regular) : t.second ≤ 60 := by
  have nanos := h.nanos
  rw [second]
  omega

theorem Regular.written {t : Instant} (h : t.Regular) : t.Written t.text := by
  obtain ⟨-, month, -, day⟩ := (Date.isValid_iff t.date).1 (Date.isValid_ofDays _)
  have length := Date.monthLength_le t.date.year t.date.month
  have clock := t.secondOfDay_lt
  have second := h.second_le
  have two {n : Nat} (small : n < 100) : Spells 2 n (padded 2 n) :=
    spells_padded (by decide) small
  have fields := Written.fields (spellsYear_yearText t.date.year)
    (two (Nat.lt_of_le_of_lt month (by decide))) (two (Nat.lt_of_le_of_lt day (by omega)))
    (two (show t.hour < 100 by rw [hour]; omega)) (two (show t.minute < 100 by rw [minute]; omega))
    (two (Nat.lt_of_le_of_lt second (by decide)))
    (spellsFraction_fractionText (show t.fraction < _ from Nat.mod_lt _ (by decide)))
  simpa [text, dateText, clockText] using fields

theorem not_isBlank_of_isDigit {c : Char} (h : c.isDigit) : Text.isBlank c = false := by
  have range : 48 ≤ c.toNat ∧ c.toNat ≤ 57 := Char.isDigit_iff_toNat.1 h
  simp only [Text.isBlank, Bool.or_eq_false_iff, Bool.and_eq_false_iff, beq_eq_false_iff_ne,
    decide_eq_false_iff_not]
  omega

theorem skipBlanks_cons {c : Char} (solid : Text.isBlank c = false) (rest : List Char) :
    skipBlanks (c :: rest) = c :: rest := by
  rw [skipBlanks, List.dropWhile_cons_of_neg (by simp [solid])]

theorem skipBlanks_spelled {width n : Nat} {ds : List Char} (h : Spells (width + 1) n ds)
    (rest : List Char) : skipBlanks (ds ++ rest) = ds ++ rest := by
  obtain ⟨c, ds, rfl, digit⟩ := h.exists_cons
  exact skipBlanks_cons (not_isBlank_of_isDigit digit) _

theorem readNumber_spelled {most width n : Nat} {ds rest : List Char}
    (h : Spells (width + 1) n ds) (small : n < 9223372036854775808) (fits : width + 1 ≤ most)
    (stop : width + 1 = most ∨ ∀ c ∈ rest.head?, c.isDigit = false) :
    readNumber most (ds ++ rest) = .ok (n, rest) := by
  have none : (rest.take (most - ds.length)).takeWhile Char.isDigit = [] := by
    rcases stop with full | stop
    · rw [h.length, full, Nat.sub_self, List.take_zero, List.takeWhile_nil]
    · cases rest with
      | nil => rw [List.take_nil, List.takeWhile_nil]
      | cons c rest =>
        cases most - ds.length with
        | zero => rfl
        | succ k => simp [stop c rfl]
  have taken : ((ds ++ rest).take most).takeWhile Char.isDigit = ds := by
    rw [List.take_append, List.take_of_length_le (h.length ▸ fits),
      List.takeWhile_append_of_pos h.digits, none, List.append_nil]
  have nonempty : ds ≠ [] := by
    obtain ⟨c, ds, rfl, -⟩ := h.exists_cons
    exact List.cons_ne_nil c ds
  simp only [readNumber, taken, h.value, List.append_eq_nil_iff, nonempty,
    false_and, if_false, if_neg (Nat.not_le.2 small), List.drop_left]

theorem readField_spelled {low high n : Nat} {ds : List Char} (h : Spells 2 n ds)
    (least : low ≤ n) (greatest : n ≤ high) (short : high < 100) (rest : List Char) :
    readField low high (ds ++ rest) = .ok (n, rest) := by
  have number : readNumber 2 (ds ++ rest) = .ok (n, rest) :=
    readNumber_spelled h (by omega) (Nat.le_refl 2) (.inl rfl)
  rw [readField, skipBlanks_spelled h, number]
  exact if_pos ⟨least, greatest⟩

theorem readMark_self {c : Char} (solid : Text.isBlank c = false) (rest : List Char) :
    readMark c (c :: rest) = .ok rest := by
  simp [readMark, skipBlanks_cons solid]

theorem readNumber_year {width n : Nat} {ds : List Char} (wide : 4 ≤ width)
    (h : Spells width n ds) (small : n ≤ 2147483648) (rest : List Char) :
    readNumber (ds ++ '-' :: rest).length (ds ++ '-' :: rest) = .ok (n, '-' :: rest) := by
  obtain ⟨width, rfl⟩ := Nat.exists_eq_succ_of_ne_zero (Nat.ne_zero_of_lt wide)
  refine readNumber_spelled h (by omega) ?_ (.inr (by simp))
  rw [List.length_append, h.length]
  exact Nat.le_add_right _ _

theorem readYear_spelled {year : Int} {cs : List Char} (h : SpellsYear year cs)
    (least : firstYear ≤ year) (greatest : year ≤ lastYear) (rest : List Char) :
    readYear (cs ++ '-' :: rest) = .ok (year, '-' :: rest) := by
  have range : -2147483648 ≤ year ∧ year ≤ 2147483647 := by
    rw [firstYear] at least
    rw [lastYear] at greatest
    omega
  cases h with
  | @plain n _ small spelled =>
    have number : readNumber 4 (cs ++ '-' :: rest) = .ok (n, '-' :: rest) :=
      readNumber_spelled spelled (by omega) (Nat.le_refl 4) (.inl rfl)
    obtain ⟨c, ds, rfl, digit⟩ := spelled.exists_cons
    rw [readYear, skipBlanks_spelled spelled]
    split
    · next sign =>
      obtain ⟨rfl, -⟩ := List.cons.inj sign
      cases digit
    · next sign =>
      obtain ⟨rfl, -⟩ := List.cons.inj sign
      cases digit
    · rw [number]
      exact if_pos range
  | @before n width ds positive wide spelled =>
    have number := readNumber_year wide spelled (by omega) rest
    rw [List.cons_append, readYear, skipBlanks_cons rfl]
    simp only [number, Except.map, ok_bind]
    exact if_pos range
  | @after n width ds large wide spelled =>
    have number := readNumber_year wide spelled (by omega) rest
    rw [List.cons_append, readYear, skipBlanks_cons rfl]
    simp only [number, Except.map, ok_bind]
    exact if_pos range

theorem readFraction_spelled {n : Nat} {cs : List Char} (h : SpellsFraction n cs)
    (below : n < 1000000000) : readFraction (cs ++ ['Z']) = .ok (n, ['Z']) := by
  cases h with
  | whole => rfl
  | @digits width n ds groups spelled =>
    obtain ⟨width, rfl⟩ := Nat.exists_eq_succ_of_ne_zero (show width ≠ 0 by omega)
    have small : n < 9223372036854775808 := by
      refine Nat.lt_of_le_of_lt (Nat.le_mul_of_pos_right n ?_) (Nat.lt_trans below (by decide))
      exact Nat.pow_pos (by decide)
    have number : readNumber 9 (ds ++ ['Z']) = .ok (n, ['Z']) :=
      readNumber_spelled spelled small (by omega) (.inr (by simp))
    have taken : (ds ++ ['Z']).length - ['Z'].length = width + 1 := by
      rw [List.length_append, Nat.add_sub_cancel, spelled.length]
    simp only [List.cons_append, readFraction, number, ok_bind, taken]
    rfl

theorem ofLocal_of_regular {t : Instant} (h : t.Regular) :
    ofLocal t.date t.hour t.minute t.second t.fraction 0 = .ok t := by
  have valid : t.date.isValid = true := Date.isValid_ofDays _
  have first : ¬ t.date.year < firstYear := Int.not_lt.2 h.first
  have last : ¬ lastYear < t.date.year := Int.not_lt.2 h.last
  have whole := t.seconds_eq
  have nanos := h.nanos
  have ends := h.leap
  have clock : t.hour * 3600 + t.minute * 60 + (if t.second = 60 then 59 else t.second) =
      t.secondOfDay := by
    rw [hour, minute, second]
    split <;> omega
  have rest : t.fraction + (if t.second = 60 then 1000000000 else 0) = t.nanos := by
    rw [fraction, second]
    split <;> omega
  have same : (⟨t.date.toDays * 86400 + t.secondOfDay - 0, t.nanos⟩ : Instant) = t := by
    rw [Int.sub_zero, ← whole]
  simp only [ofLocal, valid, first, last, clock, rest, same, decide_false, Bool.not_true,
    Bool.or_false, Bool.false_eq_true, if_false]
  rfl

theorem ofText_of_written {t : Instant} (h : t.Regular) {cs : List Char} (written : t.Written cs) :
    ofText (String.ofList cs) = .ok t := by
  obtain ⟨least, month, low, day⟩ := (Date.isValid_iff t.date).1 (Date.isValid_ofDays _)
  have length := Date.monthLength_le t.date.year t.date.month
  have clock := t.secondOfDay_lt
  have hour : t.hour ≤ 23 := by
    rw [Instant.hour]
    omega
  have minute : t.minute ≤ 59 := by
    rw [Instant.minute]
    omega
  cases written with
  | fields hyear hmonth hday hhour hminute hsecond hfraction =>
    have readYear := readYear_spelled hyear h.first h.last
    have readMonth := readField_spelled hmonth least month (by decide)
    have readDay := readField_spelled hday low (Nat.le_trans day length) (by decide)
    have readHour := readField_spelled hhour (Nat.zero_le _) hour (by decide)
    have readMinute := readField_spelled hminute (Nat.zero_le _) minute (by decide)
    have readSecond := readField_spelled hsecond (Nat.zero_le _) h.second_le (by decide)
    have readFraction := readFraction_spelled hfraction (Nat.mod_lt _ (by decide))
    have readDivider (rest : List Char) : readDivider ('T' :: rest) = .ok rest := rfl
    have zulu : readOffset (skipBlanks ['Z']) = .ok (0, []) := by rfl
    have nothing : skipBlanks [] = [] := rfl
    simp only [ofText, String.toList_ofList, readYear, readMark_self (c := '-') rfl, readMonth,
      readDay, readDivider, readHour, readMark_self (c := ':') rfl, readMinute, readSecond,
      readFraction, zulu, nothing, ok_bind, if_true]
    exact ofLocal_of_regular h

theorem readNumber_ok {most n : Nat} {s rest : List Char}
    (h : readNumber most s = .ok (n, rest)) :
    ∃ ds, s = ds ++ rest ∧ ds.length ≤ most ∧ (∀ c ∈ ds, c.isDigit) ∧ value ds = n := by
  simp only [readNumber] at h
  split at h
  · cases h
  split at h
  · cases h
  split at h
  · cases h
  · cases h
    generalize taken : (s.take most).takeWhile Char.isDigit = ds
    have start : ds <+: s.take most := taken ▸ List.takeWhile_prefix _
    obtain ⟨rest, rfl⟩ := start.trans (List.take_prefix most s)
    refine ⟨ds, by rw [List.drop_left], ?_, fun c hc => ?_, rfl⟩
    · exact start.length_le.trans (List.length_take_le _ _)
    · exact List.mem_takeWhile_imp (taken ▸ hc)

theorem readFraction_lt {n : Nat} {s rest : List Char} (h : readFraction s = .ok (n, rest)) :
    n < 1000000000 := by
  unfold readFraction at h
  split at h
  · next s =>
    obtain ⟨⟨m, after⟩, number, found⟩ := bind_eq_ok h
    cases found
    obtain ⟨ds, rfl, few, digits, rfl⟩ := readNumber_ok number
    have small := value_lt digits
    have powers : 10 ^ ds.length * 10 ^ (9 - ds.length) = 1000000000 := by
      rw [← Nat.pow_add, Nat.add_sub_cancel' few]
    rw [List.length_append, Nat.add_sub_cancel]
    calc value ds * tenTo (9 - ds.length)
        < 10 ^ ds.length * 10 ^ (9 - ds.length) :=
          Nat.mul_lt_mul_of_pos_right small (Nat.pow_pos (by decide))
      _ = 1000000000 := powers
  · cases h
    decide

theorem readMagnitude_minutes {east : Int} {s rest : List Char}
    (h : readMagnitude s = .ok (east, rest)) : east % 60 = 0 := by
  obtain ⟨⟨⟨a, b⟩, s⟩, -, h⟩ := bind_eq_ok h
  obtain ⟨⟨⟨c, d⟩, s⟩, -, h⟩ := bind_eq_ok h
  dsimp only at h
  split at h
  · cases h
  · cases h
    omega

theorem readOffset_minutes {east : Int} {s rest : List Char}
    (h : readOffset s = .ok (east, rest)) : east % 60 = 0 := by
  have west {s : List Char} (h : (readMagnitude s).map (fun p => (-p.1, p.2)) = .ok (east, rest)) :
      east % 60 = 0 := by
    cases magnitude : readMagnitude s with
    | error fault => simp [magnitude, Except.map] at h
    | ok found =>
      simp only [magnitude, Except.map] at h
      cases h
      have minutes := readMagnitude_minutes magnitude
      omega
  unfold readOffset at h
  split at h
  · cases h
    rfl
  · split at h
    · cases h
    · cases h
      rfl
    · cases h
      rfl
    · exact readMagnitude_minutes h
    · exact west h
    · exact west h
    · cases h

theorem regular_of_ofLocal {d : Date} {hour minute second nanos : Nat} {east : Int} {t : Instant}
    (made : ofLocal d hour minute second nanos east = .ok t) (below : nanos < 1000000000)
    (minutes : east % 60 = 0) : t.Regular := by
  unfold ofLocal at made
  dsimp only at made
  split at made
  · cases made
  split at made
  · cases made
  generalize place : (⟨d.toDays * 86400 + (hour * 3600 + minute * 60 +
    (if second = 60 then 59 else second) : Nat) - east,
    nanos + if second = 60 then 1000000000 else 0⟩ : Instant) = u at made
  split at made
  · cases made
  · next range =>
    cases made
    simp only [Bool.or_eq_true, decide_eq_true_eq, not_or, Int.not_lt] at range
    refine ⟨range.1, range.2, ?_, ?_⟩
    · rw [← place]
      dsimp only
      split <;> omega
    · rw [← place]
      dsimp only
      split <;> omega

theorem regular_of_ofText {text : String} {t : Instant} (h : ofText text = .ok t) : t.Regular := by
  obtain ⟨⟨y, s⟩, -, h⟩ := bind_eq_ok h
  obtain ⟨s, -, h⟩ := bind_eq_ok h
  obtain ⟨⟨mo, s⟩, -, h⟩ := bind_eq_ok h
  obtain ⟨s, -, h⟩ := bind_eq_ok h
  obtain ⟨⟨d, s⟩, -, h⟩ := bind_eq_ok h
  obtain ⟨s, -, h⟩ := bind_eq_ok h
  obtain ⟨⟨hour, s⟩, -, h⟩ := bind_eq_ok h
  obtain ⟨s, -, h⟩ := bind_eq_ok h
  obtain ⟨⟨minute, s⟩, -, h⟩ := bind_eq_ok h
  obtain ⟨s, -, h⟩ := bind_eq_ok h
  obtain ⟨⟨second, s⟩, -, h⟩ := bind_eq_ok h
  obtain ⟨⟨nanos, s⟩, fraction, h⟩ := bind_eq_ok h
  obtain ⟨⟨east, s⟩, offset, h⟩ := bind_eq_ok h
  dsimp only at h
  split at h
  · exact regular_of_ofLocal h (readFraction_lt fraction) (readOffset_minutes offset)
  · cases h

theorem exists_ofText_iff {t : Instant} : (∃ text, ofText text = .ok t) ↔ t.Regular :=
  ⟨fun ⟨_, h⟩ => regular_of_ofText h, fun h => ⟨_, ofText_of_written h h.written⟩⟩

end Instant
end Barrage
