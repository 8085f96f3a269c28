import Mathlib.Tactic.IntervalCases
import Barrage.Calendar

/-! Dates and numbers of days determine each other.
An era of 400 years is cut into centuries, these into cycles of four years, and these into years, of
which the last one may be longer. Every number of days is that of a valid date, and the dates of
later days are later. -/

namespace Barrage.Date

def yearOfEra (day : Nat) : Nat := (day - day / 1460 + day / 36524 - day / 146096) / 365

def yearStart (year : Nat) : Nat := 365 * year + year / 4 - year / 100

def ofMarch (year : Int) (rest : Nat) : Date :=
  let m := (5 * rest + 2) / 153
  ⟨if m < 10 then year else year + 1, if m < 10 then m + 3 else m - 9,
    rest - (153 * m + 2) / 5 + 1⟩

structure HasDay (year rest : Nat) : Prop where
  inEra : year < 400
  short : rest ≤ 365
  leap : rest = 365 → (year + 1) % 4 = 0 ∧ ((year + 1) % 100 ≠ 0 ∨ year = 399)

theorem exists_cycles {day : Nat} (h : day < 146097) :
    ∃ c q k, day = 36524 * c + 1461 * q + k ∧ c < 4 ∧ q < 25 ∧ k < 1461 ∧
      (q = 24 → k = 1460 → c = 3) := by
  by_cases final : day = 146096
  · exact ⟨3, 24, 1460, by omega⟩
  · exact ⟨day / 36524, day % 36524 / 1461, day % 36524 % 1461, by omega⟩

theorem yearOfEra_eq {day c q k : Nat} (cut : day = 36524 * c + 1461 * q + k) (hc : c < 4)
    (hq : q < 25) (hk : k < 1461) (last : q = 24 → k = 1460 → c = 3) :
    yearOfEra day = 100 * c + 4 * q + min (k / 365) 3 := by
  have cycles : day / 1460 = 25 * c + q + (24 * c + q + k) / 1460 := by omega
  -- the last day of an era counts for a century too many, and is taken off again
  have centuries : day / 36524 = c + day / 146096 := by
    by_cases final : q = 24 ∧ k = 1460
    · omega
    · have inside : 1461 * q + k < 36524 := by omega
      omega
  have sum : day - day / 1460 + day / 36524 - day / 146096 =
      36500 * c + 1460 * q + k - (24 * c + q + k) / 1460 := by omega
  have late : (24 * c + q + k) / 1460 = if 1460 ≤ 24 * c + q + k then 1 else 0 := by
    split <;> omega
  rw [yearOfEra, sum]
  split at late <;> omega

theorem exists_hasDay {day : Nat} (h : day < 146097) :
    ∃ rest, day = yearStart (yearOfEra day) + rest ∧ HasDay (yearOfEra day) rest := by
  obtain ⟨c, q, k, cut, hc, hq, hk, last⟩ := exists_cycles h
  have year := yearOfEra_eq cut hc hq hk last
  have fours : yearOfEra day / 4 = 25 * c + q := by omega
  have hundreds : yearOfEra day / 100 = c := by omega
  refine ⟨k - 365 * min (k / 365) 3, ?_, by omega, by omega, by omega⟩
  rw [yearStart, fours, hundreds]
  omega

theorem ofDays_of_hasDay (era : Int) {day rest : Nat} (h : day < 146097)
    (cut : day = yearStart (yearOfEra day) + rest) (has : HasDay (yearOfEra day) rest) :
    ofDays (era * 146097 + day - 719468) = ofMarch (era * 400 + yearOfEra day) rest := by
  have shifted : era * 146097 + day - 719468 + 719468 = day + 146097 * era := by omega
  have quotient : (day + 146097 * era : Int).fdiv 146097 = era := by
    rw [Int.fdiv_eq_ediv_of_nonneg _ (by decide)]
    omega
  have remainder : ((day + 146097 * era : Int).fmod 146097).toNat = day := by
    rw [Int.fmod_eq_emod_of_nonneg _ (by decide)]
    omega
  have year : (day - day / 1460 + day / 36524 - day / 146096) / 365 = yearOfEra day := rfl
  have ofYear : day - (365 * yearOfEra day + yearOfEra day / 4 - yearOfEra day / 100) = rest := by
    rw [yearStart] at cut
    omega
  have short := has.short
  simp only [ofDays, shifted, quotient, remainder, year, ofYear, ofMarch]
  by_cases late : (5 * rest + 2) / 153 < 10
  · have month : ¬ (5 * rest + 2) / 153 + 3 ≤ 2 := by omega
    simp only [late, if_true, month, if_false, Int.add_comm]
  · have month : (5 * rest + 2) / 153 - 9 ≤ 2 := by omega
    simp only [late, if_false, month, if_true, Int.add_comm]

theorem exists_ofDays (days : Int) : ∃ (era : Int) (year rest : Nat), HasDay year rest ∧
    days = era * 146097 + yearStart year + rest - 719468 ∧
    ofDays days = ofMarch (era * 400 + year) rest := by
  obtain ⟨era, day, inEra, place⟩ : ∃ (era : Int) (day : Nat), day < 146097 ∧
      days = era * 146097 + day - 719468 :=
    ⟨(days + 719468) / 146097, ((days + 719468) % 146097).toNat, by omega, by omega⟩
  obtain ⟨rest, cut, has⟩ := exists_hasDay inEra
  refine ⟨era, yearOfEra day, rest, has, by omega, ?_⟩
  rw [place, ofDays_of_hasDay era inEra cut has]

theorem toDays_ofMarch (era : Int) {year rest : Nat} (has : HasDay year rest) :
    (ofMarch (era * 400 + year) rest).toDays = era * 146097 + yearStart year + rest - 719468 := by
  obtain ⟨inEra, short, -⟩ := has
  have quotient : (era * 400 + year : Int).fdiv 400 = era := by
    rw [Int.fdiv_eq_ediv_of_nonneg _ (by decide)]
    omega
  have remainder : (era * 400 + year : Int).fmod 400 = year := by
    rw [Int.fmod_eq_emod_of_nonneg _ (by decide)]
    omega
  rw [toDays, ofMarch, yearStart]
  by_cases late : (5 * rest + 2) / 153 < 10
  · have month : ¬ (5 * rest + 2) / 153 + 3 ≤ 2 := by omega
    simp only [late, if_true, month, if_false, quotient, remainder]
    omega
  · have month : (5 * rest + 2) / 153 - 9 ≤ 2 := by omega
    simp only [late, if_false, month, if_true, Int.add_sub_cancel, quotient, remainder]
    omega

theorem isLeap_of_long (era : Int) {year : Nat}
    (leap : (year + 1) % 4 = 0 ∧ ((year + 1) % 100 ≠ 0 ∨ year = 399)) :
    isLeap (era * 400 + year + 1) = true := by
  simp only [isLeap, Bool.and_eq_true, Bool.or_eq_true, decide_eq_true_eq]
  omega

theorem isValid_iff (d : Date) : d.isValid = true ↔
    1 ≤ d.month ∧ d.month ≤ 12 ∧ 1 ≤ d.day ∧ d.day ≤ monthLength d.year d.month := by
  simp [isValid, and_assoc]

theorem isValid_ofMarch (era : Int) {year rest : Nat} (has : HasDay year rest) :
    (ofMarch (era * 400 + year) rest).isValid = true := by
  obtain ⟨-, short, leap⟩ := has
  rw [isValid_iff, ofMarch]
  by_cases longest : rest = 365
  · -- the leap day
    simp [longest, monthLength, isLeap_of_long era (leap longest)]
  · have months : (5 * rest + 2) / 153 < 12 := by omega
    generalize found : (5 * rest + 2) / 153 = m at months
    interval_cases m <;> simp [monthLength] <;> (try split) <;> omega

@[simp] theorem toDays_ofDays (days : Int) : (ofDays days).toDays = days := by
  obtain ⟨era, year, rest, has, place, date⟩ := exists_ofDays days
  rw [date, toDays_ofMarch era has, ← place]

@[simp] theorem isValid_ofDays (days : Int) : (ofDays days).isValid = true := by
  obtain ⟨era, year, rest, has, -, date⟩ := exists_ofDays days
  rw [date, isValid_ofMarch era has]

theorem monthLength_le (year : Int) (month : Nat) : monthLength year month ≤ 31 := by
  unfold monthLength
  split
  · split <;> decide
  all_goals decide

def number (d : Date) : Int := d.year * 10000 + d.month * 100 + d.day

theorem number_ofMarch_lt (year : Int) {rest rest' : Nat} (lt : rest < rest') :
    (ofMarch year rest).number < (ofMarch year rest').number := by
  simp only [number, ofMarch]
  have months : (5 * rest + 2) / 153 ≤ (5 * rest' + 2) / 153 := Nat.div_le_div_right (by omega)
  rcases Nat.lt_or_eq_of_le months with earlier | same
  · split <;> split <;> omega
  · rw [same]
    omega

theorem number_ofMarch_lt_of_year {year year' : Int} (lt : year < year') {rest rest' : Nat}
    (short : rest ≤ 365) (short' : rest' ≤ 365) :
    (ofMarch year rest).number < (ofMarch year' rest').number := by
  simp only [number, ofMarch]
  split <;> split <;> omega

theorem yearStart_mono {year year' : Nat} (le : year ≤ year') :
    yearStart year ≤ yearStart year' := by
  have leaps : year / 4 ≤ year' / 4 := Nat.div_le_div_right le
  simp only [yearStart]
  omega

theorem HasDay.before {year rest year' : Nat} (has : HasDay year rest) (lt : year < year')
    (inEra : year' < 400) : yearStart year + rest < yearStart year' := by
  obtain ⟨-, short, leap⟩ := has
  refine Nat.lt_of_lt_of_le ?_ (yearStart_mono lt)
  simp only [yearStart]
  omega

theorem HasDay.inside {year rest : Nat} (has : HasDay year rest) :
    yearStart year + rest < 146097 := by
  obtain ⟨inEra, short, leap⟩ := has
  have start : yearStart year ≤ yearStart 399 := yearStart_mono (by omega)
  have last : yearStart 399 = 145731 := by rfl
  omega

theorem number_ofDays_lt {days days' : Int} (lt : days < days') :
    (ofDays days).number < (ofDays days').number := by
  obtain ⟨era, year, rest, has, place, date⟩ := exists_ofDays days
  obtain ⟨era', year', rest', has', place', date'⟩ := exists_ofDays days'
  have inside := has.inside
  have inside' := has'.inside
  have inEra := has.inEra
  have inEra' := has'.inEra
  rw [date, date']
  obtain earlier | same | later := Int.lt_trichotomy (era * 400 + year) (era' * 400 + year')
  · exact number_ofMarch_lt_of_year earlier has.short has'.short
  · obtain ⟨rfl, rfl⟩ : era = era' ∧ year = year' := by omega
    exact number_ofMarch_lt _ (by omega)
  · -- a later year begins after all days of an earlier one
    exfalso
    obtain eras | ⟨rfl, years⟩ : era' < era ∨ era' = era ∧ year' < year := by omega
    · omega
    · have before := has'.before years inEra
      omega

end Barrage.Date
