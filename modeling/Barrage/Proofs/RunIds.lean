import Mathlib.Tactic.Ring
import Barrage.Proofs.Histories
import Barrage.Proofs.Instants

/-! Runs are named for the second they start in.
The digits of a date and a time of day stand in fields of a set width, so their order as texts is
their order as numbers, and that is the order of time. A name of a file ends in these digits, so what
stands before them can be told apart, whatever it is. -/

namespace Barrage

namespace Decimal
variable {width width' n m : Nat} {cs ds : List Char}

theorem value_append (cs ds : List Char) :
    value (cs ++ ds) = value cs * 10 ^ ds.length + value ds := by
  induction ds using List.reverseRecOn with
  | nil => simp
  | append_singleton ds d ih =>
    have next (s : List Char) : value (s ++ [d]) = 10 * value s + (d.toNat - 48) := by simp [value]
    rw [← List.append_assoc, next, next, ih, List.length_append, List.length_singleton]
    ring

theorem Spells.append (h : Spells width n cs) (g : Spells width' m ds) :
    Spells (width + width') (n * 10 ^ width' + m) (cs ++ ds) where
  length := by rw [List.length_append, h.length, g.length]
  digits := by
    intro c hc
    exact (List.mem_append.1 hc).elim (h.digits c) (g.digits c)
  value := by rw [value_append, h.value, g.value, g.length]

theorem Spells.exists_first (h : Spells (width + 1) n cs) :
    ∃ c rest k, cs = c :: rest ∧ 48 ≤ c.toNat ∧ n = (c.toNat - 48) * 10 ^ width + k ∧
      k < 10 ^ width ∧ Spells width k rest := by
  obtain ⟨c, rest, rfl, digit⟩ := h.exists_cons
  have length : rest.length = width := Nat.succ.inj h.length
  have digits : ∀ d ∈ rest, d.isDigit := fun d hd => h.digits d (List.mem_cons_of_mem c hd)
  have first : Decimal.value [c] = c.toNat - 48 := by simp [Decimal.value]
  refine ⟨c, rest, Decimal.value rest, rfl, (Char.isDigit_iff_toNat.1 digit).1, ?_,
    length ▸ value_lt digits, length, digits, rfl⟩
  rw [← h.value, ← List.singleton_append, value_append, first, length]

theorem spells_pair (small : n < 100) : Spells 2 n (padded 2 n) :=
  spells_padded (by decide) small

theorem Spells.lt_of_lt (h : Spells width n cs) (g : Spells width m ds) (lt : n < m) : cs < ds := by
  induction width generalizing n m cs ds with
  | zero =>
    rw [← h.value, ← g.value, List.length_eq_zero_iff.1 h.length,
      List.length_eq_zero_iff.1 g.length] at lt
    exact absurd lt (Nat.lt_irrefl _)
  | succ width ih =>
    obtain ⟨c, cs, k, rfl, low, rfl, small, rest⟩ := h.exists_first
    obtain ⟨d, ds, l, rfl, low', rfl, small', rest'⟩ := g.exists_first
    rw [List.cons_lt_cons_iff]
    obtain less | same | more := Nat.lt_trichotomy c.toNat d.toNat
    · exact .inl (Char.lt_def.2 (UInt32.lt_iff_toNat_lt.2 less))
    · rw [same] at lt
      exact .inr ⟨Char.toNat_inj.1 same, ih rest rest' (Nat.lt_of_add_lt_add_left lt)⟩
    · -- the first digit decides against what follows
      have digit : d.toNat - 48 + 1 ≤ c.toNat - 48 := by omega
      have whole := Nat.mul_le_mul_right (10 ^ width) digit
      rw [Nat.succ_mul] at whole
      omega

end Decimal

namespace Instant
open Decimal
variable {a b t : Instant}

structure PlainYear (t : Instant) : Prop where
  regular : t.Regular
  least : 0 ≤ t.date.year
  greatest : t.date.year ≤ 9999

def SameSecond (a b : Instant) : Prop :=
  a.seconds = b.seconds ∧ (1000000000 ≤ a.nanos ↔ 1000000000 ≤ b.nanos)

def clock (t : Instant) : Nat := t.hour * 10000 + t.minute * 100 + t.second

def number (t : Instant) : Int := t.date.number * 1000000 + t.clock

theorem PlainYear.spells_date (h : t.PlainYear) :
    ∃ n : Nat, Spells 8 n (dateText [] t) ∧ (n : Int) = t.date.number := by
  obtain ⟨-, month, -, day⟩ := (Date.isValid_iff t.date).1 (Date.isValid_ofDays _)
  have length := Date.monthLength_le t.date.year t.date.month
  have least := h.least
  have greatest := h.greatest
  have year : Spells 4 t.date.year.toNat (yearText t.date.year) := by
    rw [yearText, if_pos ⟨least, greatest⟩]
    exact spells_padded (by decide) (by omega)
  have fields := (year.append (spells_pair (Nat.lt_of_le_of_lt month (by decide)))).append
    (spells_pair (show t.date.day < 100 by omega))
  refine ⟨_, by simpa [dateText] using fields, ?_⟩
  rw [Date.number]
  omega

theorem Regular.spells_clock (h : t.Regular) : Spells 6 t.clock (clockText [] t) := by
  have inDay := t.secondOfDay_lt
  have hour : t.hour < 100 := by
    rw [hour]
    omega
  have minute : t.minute < 100 := by
    rw [minute]
    omega
  have second : t.second < 100 := Nat.lt_of_le_of_lt h.second_le (by decide)
  have fields := ((spells_pair hour).append (spells_pair minute)).append (spells_pair second)
  have same : (t.hour * 10 ^ 2 + t.minute) * 10 ^ 2 + t.second = t.clock := by
    rw [clock]
    omega
  rw [same] at fields
  simpa [clockText] using fields

theorem PlainYear.spells_runId (h : t.PlainYear) :
    ∃ n : Nat, Spells 14 n t.runId.toList ∧ (n : Int) = t.number := by
  obtain ⟨n, date, same⟩ := h.spells_date
  refine ⟨n * 10 ^ 6 + t.clock, ?_, ?_⟩
  · rw [runId, String.toList_ofList]
    exact date.append h.regular.spells_clock
  · rw [number, ← same]
    omega

theorem Regular.clock_lt (h : t.Regular) : t.clock < 1000000 := by
  have inDay := t.secondOfDay_lt
  have second := h.second_le
  rw [clock, hour, minute]
  omega

theorem SameSecond.fields (h : SameSecond a b) (ha : a.Regular) (hb : b.Regular) :
    a.date = b.date ∧ a.hour = b.hour ∧ a.minute = b.minute ∧ a.second = b.second := by
  obtain ⟨seconds, leap⟩ := h
  have nanos := ha.nanos
  have nanos' := hb.nanos
  have carried : a.nanos / 1000000000 = b.nanos / 1000000000 := by omega
  simp only [date, hour, minute, second, secondOfDay, seconds, carried, true_and]

theorem clock_eq (t : Instant) :
    t.clock = t.secondOfDay / 60 / 60 * 10000 + t.secondOfDay / 60 % 60 * 100 + t.second := by
  rw [clock, hour, minute, Nat.div_div_eq_div_mul]

theorem clock_lt_clock (ha : a.Regular)
    (before : a.secondOfDay < b.secondOfDay ∨ a.secondOfDay = b.secondOfDay ∧
      a.nanos < 1000000000 ∧ 1000000000 ≤ b.nanos) : a.clock < b.clock := by
  have nanos := ha.nanos
  have leap : 1000000000 ≤ a.nanos → a.secondOfDay % 60 = 59 := by
    intro long
    have last := ha.leap long
    rw [secondOfDay, Int.fmod_eq_emod_of_nonneg _ (by decide)]
    omega
  have second := ha.second_le
  have second' : b.secondOfDay % 60 + b.nanos / 1000000000 = b.second := rfl
  have minutes : a.secondOfDay / 60 ≤ b.secondOfDay / 60 := Nat.div_le_div_right (by omega)
  rw [clock_eq, clock_eq]
  rcases Nat.lt_or_eq_of_le minutes with earlier | same
  · omega
  · have seconds : a.second < b.second := by
      rw [Instant.second] at second ⊢
      omega
    rw [same]
    omega

theorem number_lt (ha : a.Regular) (before : a.le b = true)
    (apart : ¬ SameSecond a b) : a.number < b.number := by
  rw [le_iff] at before
  rw [SameSecond] at apart
  have clock := ha.clock_lt
  have days : a.seconds.fdiv 86400 ≤ b.seconds.fdiv 86400 := by
    rw [Int.fdiv_eq_ediv_of_nonneg _ (by decide), Int.fdiv_eq_ediv_of_nonneg _ (by decide)]
    omega
  rcases Int.lt_or_eq_of_le days with earlier | same
  · have date : a.date.number < b.date.number := Date.number_ofDays_lt earlier
    rw [number, number]
    omega
  · have date : a.date = b.date := congrArg Date.ofDays same
    have later : a.clock < b.clock := by
      refine clock_lt_clock ha ?_
      have whole := a.seconds_eq
      have whole' := b.seconds_eq
      rw [date] at whole
      omega
    rw [number, number, date]
    omega

theorem runId_lt (ha : a.PlainYear) (hb : b.PlainYear) (before : a.le b = true)
    (apart : ¬ SameSecond a b) : a.runId < b.runId := by
  obtain ⟨n, spelled, same⟩ := ha.spells_runId
  obtain ⟨m, spelled', same'⟩ := hb.spells_runId
  have later := number_lt ha.regular before apart
  exact String.lt_iff.2 (spelled.lt_of_lt spelled' (by omega))

theorem SameSecond.runId (h : SameSecond a b) (ha : a.Regular) (hb : b.Regular) :
    a.runId = b.runId := by
  obtain ⟨date, hour, minute, second⟩ := h.fields ha hb
  simp only [Instant.runId, dateText, clockText, date, hour, minute, second]

theorem runId_le (ha : a.PlainYear) (hb : b.PlainYear) (before : a.le b = true) :
    a.runId ≤ b.runId := by
  by_cases same : SameSecond a b
  · exact same.runId ha.regular hb.regular ▸ String.le_refl a.runId
  · exact Std.le_of_lt (runId_lt ha hb before same)

theorem runId_eq_iff (ha : a.PlainYear) (hb : b.PlainYear) :
    a.runId = b.runId ↔ SameSecond a b := by
  refine ⟨fun same => ?_, fun same => same.runId ha.regular hb.regular⟩
  by_contra apart
  have apart' : ¬ SameSecond b a := fun h => apart ⟨h.1.symm, h.2.symm⟩
  rcases le_total a b with before | before
  · have less := runId_lt ha hb before apart
    rw [same] at less
    exact String.lt_irrefl _ less
  · have less := runId_lt hb ha before apart'
    rw [same] at less
    exact String.lt_irrefl _ less

theorem PlainYear.stamp_eq_iff (ha : a.PlainYear) (hb : b.PlainYear) :
    a.stamp = b.stamp ↔ a.runId = b.runId := by
  obtain ⟨_, date, -⟩ := ha.spells_date
  obtain ⟨_, date', -⟩ := hb.spells_date
  have width := date.length.trans date'.length.symm
  rw [runId, runId, ← String.toList_inj, String.toList_ofList, String.toList_ofList, stamp, stamp]
  constructor
  · intro same
    obtain ⟨dates, clocks⟩ := List.append_inj same width
    rw [dates, List.cons.inj clocks |>.2]
  · intro same
    obtain ⟨dates, clocks⟩ := List.append_inj same width
    rw [dates, clocks]

theorem PlainYear.length_stamp (h : t.PlainYear) : t.stamp.length = 15 := by
  obtain ⟨_, date, -⟩ := h.spells_date
  rw [stamp, List.length_append, List.length_cons, date.length, h.regular.spells_clock.length]

end Instant

theorem ResultStore.fileName_eq_iff {r s : RunResult} (hr : r.startedAt.PlainYear)
    (hs : s.startedAt.PlainYear) :
    fileName r = fileName s ↔ fileStem r.scriptId = fileStem s.scriptId ∧
      r.startedAt.stamp = s.startedAt.stamp := by
  have width : ('-' :: r.startedAt.stamp).length = ('-' :: s.startedAt.stamp).length := by
    rw [List.length_cons, List.length_cons, hr.length_stamp, hs.length_stamp]
  simp only [fileName, ← String.toList_inj, String.toList_ofList, List.append_assoc,
    List.append_cancel_left_eq]
  rw [← List.append_assoc, ← List.append_assoc, List.append_cancel_right_eq]
  constructor
  · intro same
    obtain ⟨stems, stamps⟩ := List.append_inj' same width
    exact ⟨stems, (List.cons.inj stamps).2⟩
  · rintro ⟨stems, stamps⟩
    rw [stems, stamps]

/-- A run that starts earlier has no greater identifier, and runs of one second and no others share
theirs. Their results have the same name of a file exactly if also the identifiers of the scripts
look the same there, whatever dashes and digits these have. -/
theorem runs_named_by_second (a b : Instant) (ha : a.PlainYear) (hb : b.PlainYear) :
    (a.le b = true → a.runId ≤ b.runId) ∧
    (a.runId = b.runId ↔ a.SameSecond b) ∧
    ∀ r s : RunResult, r.startedAt = a → s.startedAt = b →
      (ResultStore.fileName r = ResultStore.fileName s ↔
        fileStem r.scriptId = fileStem s.scriptId ∧ a.SameSecond b) := by
  refine ⟨Instant.runId_le ha hb, Instant.runId_eq_iff ha hb, ?_⟩
  rintro r s rfl rfl
  rw [ResultStore.fileName_eq_iff ha hb, ha.stamp_eq_iff hb, Instant.runId_eq_iff ha hb]

/-- The last second of 2016 and the leap second after it, of which two runs share the name. -/
theorem runs_named_by_second_leap :
    let a : Instant := ⟨1483228799, 999999999⟩
    let b : Instant := ⟨1483228799, 1000000001⟩
    let c : Instant := ⟨1483228799, 1500000000⟩
    let r : RunResult := ⟨c.runId, "a-20161231 235960", 1, 1, 0, 2, 2, 2, 2, .zero, 1, c, {}⟩
    let s : RunResult := { r with scriptId := "a-20161231_235960", startedAt := b }
    a.PlainYear ∧ b.PlainYear ∧ c.PlainYear ∧ a.le b = true ∧ a.runId ≤ b.runId ∧
      a.runId ≠ b.runId ∧ ResultStore.fileName s = ResultStore.fileName r := by
  intro a b c r s
  have ha : a.PlainYear := ⟨⟨by decide, by decide, by decide, by decide⟩, by decide, by decide⟩
  have hb : b.PlainYear := ⟨⟨by decide, by decide, by decide, by decide⟩, by decide, by decide⟩
  have hc : c.PlainYear := ⟨⟨by decide, by decide, by decide, by decide⟩, by decide, by decide⟩
  have before : a.le b = true := by decide
  obtain ⟨le, same, -⟩ := runs_named_by_second a b ha hb
  obtain ⟨-, -, names⟩ := runs_named_by_second b c hb hc
  refine ⟨ha, hb, hc, before, le before, fun ids => ?_, (names s r rfl rfl).2 ⟨by decide, ?_⟩⟩
  · exact absurd (same.1 ids).2 (by decide)
  · exact ⟨rfl, by decide⟩

end Barrage
