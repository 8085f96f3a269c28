import Mathlib.Data.Nat.Log
import Mathlib.Tactic.Ring
import Barrage.Number.Binary64

/-! Rounding keeps the order.
A greater rank stands for a greater magnitude, and the rank nearest to a fraction grows with the
fraction. A rank is the nearest one to the magnitude that it stands for, so what is computed with
whole numbers is exact as long as the outcome has a rank, and otherwise stays on its side of every
magnitude that has one. -/

namespace Barrage.Binary64

section
variable {a b c d : Nat}

theorem quotient_le (hb : 0 < b) (hd : 0 < d) (h : a * d ≤ c * b) : a / b ≤ c / d := by
  rw [Nat.le_div_iff_mul_le hd]
  apply Nat.le_of_mul_le_mul_right _ hb
  calc a / b * d * b = a / b * b * d := Nat.mul_right_comm ..
    _ ≤ a * d := Nat.mul_le_mul_right d (Nat.div_mul_le_self a b)
    _ ≤ c * b := h

theorem quotient_le_roundEven (a b : Nat) : a / b ≤ roundEven a b := by
  simp only [roundEven]
  split
  · exact le_rfl
  · split <;> omega

theorem roundEven_le_succ (a b : Nat) : roundEven a b ≤ a / b + 1 := by
  simp only [roundEven]
  split
  · omega
  · split <;> omega

theorem roundEven_le (hb : 0 < b) (hd : 0 < d) (h : a * d ≤ c * b) :
    roundEven a b ≤ roundEven c d := by
  rcases Nat.lt_or_eq_of_le (quotient_le hb hd h) with less | same
  · have below := roundEven_le_succ a b
    have above := quotient_le_roundEven c d
    omega
  -- the whole parts are equal, so the remainders are in the order of the fractions
  have rest : a % b * d ≤ c % d * b := by
    have left := Nat.div_add_mod a b
    have right := Nat.div_add_mod c d
    rw [same] at left
    apply Nat.le_of_add_le_add_left (a := b * (c / d) * d)
    calc b * (c / d) * d + a % b * d = (b * (c / d) + a % b) * d := by ring
      _ = a * d := by rw [left]
      _ ≤ c * b := h
      _ = (d * (c / d) + c % d) * b := by rw [right]
      _ = b * (c / d) * d + c % d * b := by ring
  have under (small : 2 * (c % d) < d) : 2 * (a % b) < b := by
    apply Nat.lt_of_mul_lt_mul_right (a := d)
    have scaled := (Nat.mul_lt_mul_right hb).2 small
    rw [Nat.mul_assoc] at scaled ⊢
    rw [Nat.mul_comm b d]
    omega
  have upTo (small : 2 * (c % d) ≤ d) : 2 * (a % b) ≤ b := by
    apply Nat.le_of_mul_le_mul_right _ hd
    have scaled := Nat.mul_le_mul_right b small
    rw [Nat.mul_assoc] at scaled ⊢
    rw [Nat.mul_comm b d]
    omega
  simp only [roundEven, same]
  split_ifs <;> omega

theorem roundEven_mul (k : Nat) (hb : 0 < b) : roundEven (k * b) b = k := by
  simp [roundEven, hb, Nat.mul_div_cancel _ hb]

end

theorem scale_mul_add_mantissa (r : Nat) : scale r * stride + mantissa r = r := by
  have whole : r / stride * stride ≤ r := Nat.div_mul_le_self r stride
  rw [mantissa, scale, Nat.sub_mul]
  omega

theorem mantissa_lt (r : Nat) : mantissa r < 2 * stride := by
  unfold mantissa scale stride
  omega

theorem le_mantissa {r : Nat} (h : 0 < scale r) : stride ≤ mantissa r := by
  unfold mantissa scale stride at *
  omega

theorem units_eq (r : Nat) : units r = mantissa r * 2 ^ scale r := Nat.shiftLeft_eq ..

theorem units_lt (r : Nat) : units r < 2 * stride * 2 ^ scale r := by
  rw [units_eq]
  exact (Nat.mul_lt_mul_right (Nat.two_pow_pos _)).2 (mantissa_lt r)

theorem le_units {r : Nat} (h : 0 < scale r) : stride * 2 ^ scale r ≤ units r := by
  rw [units_eq]
  exact Nat.mul_le_mul_right _ (le_mantissa h)

theorem units_mono {r s : Nat} (h : r ≤ s) : units r ≤ units s := by
  have scales : scale r ≤ scale s := Nat.sub_le_sub_right (Nat.div_le_div_right h) 1
  rcases Nat.lt_or_eq_of_le scales with less | same
  · calc units r ≤ stride * 2 ^ (scale r + 1) := by
          rw [pow_succ, Nat.mul_comm (2 ^ _), ← Nat.mul_assoc, Nat.mul_comm stride]
          exact (units_lt r).le
      _ ≤ stride * 2 ^ scale s := Nat.mul_le_mul_left _ (Nat.pow_le_pow_right (by decide) less)
      _ ≤ units s := le_units (by omega)
  · have left := scale_mul_add_mantissa r
    have right := scale_mul_add_mantissa s
    rw [same] at left
    rw [units_eq, units_eq, same]
    apply Nat.mul_le_mul_right
    omega

theorem exists_units {k : Nat} (e : Nat) (small : k ≤ 2 * stride) :
    ∃ r ≤ (e + 2) * stride, units r = k * 1 <<< e := by
  -- on the power; a factor that leaves room in the mantissa is doubled
  induction e generalizing k with
  | zero =>
    refine ⟨k, by omega, ?_⟩
    rcases Nat.lt_or_eq_of_le small with less | rfl
    · have scale : scale k = 0 := by
        unfold scale stride at *
        omega
      rw [units_eq, mantissa, scale]
      simp
    · decide
  | succ e ih =>
    rw [Nat.one_shiftLeft, pow_succ]
    by_cases room : k ≤ stride
    · obtain ⟨r, bound, value⟩ := ih (k := 2 * k) (by omega)
      rw [Nat.one_shiftLeft] at value
      refine ⟨r, bound.trans (Nat.mul_le_mul_right _ (by omega)), ?_⟩
      rw [value]
      ring
    rcases Nat.lt_or_eq_of_le small with less | rfl
    · have scale : scale ((e + 1) * stride + k) = e + 1 := by
        unfold scale stride at *
        omega
      have bound : (e + 1) * stride + k ≤ (e + 1 + 2) * stride := by
        rw [Nat.add_mul (e + 1)]
        omega
      refine ⟨(e + 1) * stride + k, bound, ?_⟩
      rw [units_eq, mantissa, scale, Nat.add_sub_cancel_left, pow_succ]
    · have scale : scale ((e + 3) * stride) = e + 2 := by
        unfold scale stride
        omega
      have one : e + 3 - (e + 2) = 1 := by omega
      refine ⟨(e + 3) * stride, le_rfl, ?_⟩
      rw [units_eq, mantissa, scale, ← Nat.sub_mul, one, pow_succ, pow_succ]
      ring

/-- The scale of the rank nearest to a fraction, before the mantissa is rounded. -/
def shift (num den : Nat) : Nat := (num / den).log2 - 52

theorem nearestRank_eq (num den : Nat) :
    nearestRank num den =
      shift num den * stride + roundEven num (den * 2 ^ shift num den) := by
  simp only [nearestRank, shift, Nat.shiftLeft_eq]

section
variable {a b c d : Nat}

theorem rounded_le (a : Nat) (hb : 0 < b) :
    roundEven a (b * 2 ^ shift a b) ≤ 2 * stride := by
  have below : a / b < 2 ^ (53 + shift a b) := by
    refine Nat.lt_log2_self.trans_le (Nat.pow_le_pow_right (by decide) ?_)
    unfold shift
    omega
  have fits : a ≤ 2 * stride * (b * 2 ^ shift a b) := by
    have less := (Nat.div_lt_iff_lt_mul hb).1 below
    rw [pow_add] at less
    calc a ≤ 2 ^ 53 * 2 ^ shift a b * b := less.le
      _ = 2 * stride * (b * 2 ^ shift a b) := by
        unfold stride
        ring
  have positive : 0 < b * 2 ^ shift a b := Nat.mul_pos hb (Nat.two_pow_pos _)
  rw [← roundEven_mul (2 * stride) positive]
  exact roundEven_le positive positive (Nat.mul_le_mul_right _ fits)

theorem le_rounded (hb : 0 < b) (large : 0 < shift a b) :
    stride ≤ roundEven a (b * 2 ^ shift a b) := by
  have above : 2 ^ (52 + shift a b) ≤ a / b := by
    have whole : 52 + shift a b = (a / b).log2 := by
      unfold shift at *
      omega
    rw [whole]
    apply Nat.log2_self_le
    rintro zero
    simp [shift, zero] at large
  have fits : stride * (b * 2 ^ shift a b) ≤ a := by
    have less := (Nat.le_div_iff_mul_le hb).1 above
    rw [pow_add] at less
    calc stride * (b * 2 ^ shift a b) = 2 ^ 52 * 2 ^ shift a b * b := by
          unfold stride
          ring
      _ ≤ a := less
  have positive : 0 < b * 2 ^ shift a b := Nat.mul_pos hb (Nat.two_pow_pos _)
  rw [← roundEven_mul stride positive]
  exact roundEven_le positive positive (Nat.mul_le_mul_right _ fits)

theorem nearestRank_le (hb : 0 < b) (hd : 0 < d) (h : a * d ≤ c * b) :
    nearestRank a b ≤ nearestRank c d := by
  have shifts : shift a b ≤ shift c d := by
    unfold shift
    rw [Nat.log2_eq_log_two, Nat.log2_eq_log_two]
    exact Nat.sub_le_sub_right (Nat.log_mono_right (quotient_le hb hd h)) 52
  rw [nearestRank_eq, nearestRank_eq]
  rcases Nat.lt_or_eq_of_le shifts with less | same
  · have below := rounded_le a hb
    have above := le_rounded (a := c) hd (by omega)
    unfold stride at *
    omega
  · rw [same]
    apply Nat.add_le_add_left
    have power : 0 < 2 ^ shift c d := Nat.two_pow_pos _
    apply roundEven_le (Nat.mul_pos hb power) (Nat.mul_pos hd power)
    rw [← Nat.mul_assoc, ← Nat.mul_assoc]
    exact Nat.mul_le_mul_right _ h

theorem nearestRank_congr (hb : 0 < b) (hd : 0 < d) (h : a * d = c * b) :
    nearestRank a b = nearestRank c d :=
  Nat.le_antisymm (nearestRank_le hb hd h.le) (nearestRank_le hd hb h.ge)

theorem nearestRank_units (r : Nat) (hb : 0 < b) : nearestRank (units r * b) b = r := by
  have scales : shift (units r * b) b = scale r := by
    rw [shift, Nat.mul_div_cancel _ hb]
    by_cases small : scale r = 0
    · have less := units_lt r
      rw [small, pow_zero, Nat.mul_one] at less
      have log : (units r).log2 ≤ 52 := by
        by_cases zero : units r = 0
        · simp [zero]
        · exact Nat.le_of_lt_succ ((Nat.log2_lt zero).2 less)
      omega
    · have nonzero : units r ≠ 0 := by
        have above := le_units (Nat.pos_of_ne_zero small)
        have positive : 0 < stride * 2 ^ scale r := Nat.mul_pos (by decide) (Nat.two_pow_pos _)
        omega
      have log : (units r).log2 = 52 + scale r := by
        rw [Nat.log2_eq_iff nonzero]
        constructor
        · rw [pow_add]
          exact le_units (Nat.pos_of_ne_zero small)
        · rw [Nat.add_right_comm, pow_add]
          exact units_lt r
      omega
  have value : units r * b = mantissa r * (b * 2 ^ scale r) := by
    rw [units_eq]
    ring
  rw [nearestRank_eq, scales, value, roundEven_mul _ (Nat.mul_pos hb (Nat.two_pow_pos _)),
    scale_mul_add_mantissa]

theorem le_nearestRank {r : Nat} (hb : 0 < b) (h : units r * b ≤ a) : r ≤ nearestRank a b := by
  rw [← nearestRank_units r hb]
  exact nearestRank_le hb hb (Nat.mul_le_mul_right b h)

theorem nearestRank_le_of_le {r : Nat} (hb : 0 < b) (h : a ≤ units r * b) :
    nearestRank a b ≤ r := by
  rw [← nearestRank_units r hb]
  exact nearestRank_le hb hb (Nat.mul_le_mul_right b h)

end

theorem one_pos : 0 < one := Nat.pos_of_ne_zero fun zero => absurd zero (by decide)

theorem exists_parts : ∃ part, 0 < part ∧ one = 128 * part ∧ ∀ k ≤ 2 * stride,
    (∃ r < rankLimit, units r = k * one) ∧ ∃ r < rankLimit, units r = k * part := by
  refine ⟨1 <<< 1067, by decide +kernel, by decide +kernel, fun k small => ⟨?_, ?_⟩⟩
  · obtain ⟨r, bound, value⟩ := exists_units 1074 small
    exact ⟨r, bound.trans_lt (by decide), value⟩
  · obtain ⟨r, bound, value⟩ := exists_units 1067 small
    exact ⟨r, bound.trans_lt (by decide), value⟩

theorem ofNat_exact {k : Nat} (small : k ≤ 2 * stride) :
    ∃ r : Fin rankLimit, ofNat k = .finite false r ∧ units r = k * one := by
  obtain ⟨part, -, -, ranked⟩ := exists_parts
  obtain ⟨r, finite, value⟩ := (ranked k small).1
  refine ⟨⟨r, finite⟩, ?_, value⟩
  have nearest := nearestRank_units r Nat.one_pos
  rw [value, Nat.mul_one] at nearest
  rw [ofNat, ofFraction, nearest, ofRank, dif_pos finite]

theorem ofNat_mul_ofNat {j k : Nat} (hj : j ≤ 2 * stride) (hk : k ≤ 2 * stride) :
    ofNat j * ofNat k = ofNat (j * k) := by
  obtain ⟨x, first, xUnits⟩ := ofNat_exact hj
  obtain ⟨y, second, yUnits⟩ := ofNat_exact hk
  have product : ofNat j * ofNat k =
      ofRank (false != false) (nearestRank (units x * units y) one) := by
    rw [first, second]
    rfl
  rw [product, xUnits, yUnits, ofNat, ofFraction, nearestRank_congr one_pos Nat.one_pos]
  · rfl
  · ring

theorem orZero_ofNat {k : Nat} (small : k ≤ 2 * stride) : (ofNat k).orZero = ofNat k := by
  obtain ⟨r, exact, -⟩ := ofNat_exact small
  rw [exact, orZero]
  by_cases zero : r = 0
  · rw [zero]
    rfl
  · exact if_pos (decide_eq_true (Nat.pos_of_ne_zero fun none => zero (Fin.ext none)))

/-- A quotient by a small number is so far from the next whole number that rounding does not get
there. -/
theorem units_quotient {j k : Nat} (positive : 0 < k) (small : k ≤ 128)
    (fits : j < k * 70368744177664) :
    nearestRank (j * one) k < rankLimit ∧ units (nearestRank (j * one) k) / one = j / k := by
  have whole : j / k < 70368744177664 := (Nat.div_lt_iff_lt_mul positive).2 (by omega)
  obtain ⟨part, unit, parts, ranked⟩ := exists_parts
  obtain ⟨low, -, lowUnits⟩ := (ranked (j / k) (by unfold stride; omega)).1
  -- the last of the parts before the next whole number
  obtain ⟨high, finite, highUnits⟩ := (ranked (128 * (j / k) + 127) (by unfold stride; omega)).2
  have lower : low ≤ nearestRank (j * one) k := by
    apply le_nearestRank positive
    rw [lowUnits, Nat.mul_right_comm]
    exact Nat.mul_le_mul_right _ (Nat.div_mul_le_self j k)
  have upper : nearestRank (j * one) k ≤ high := by
    apply nearestRank_le_of_le positive
    have enough : j * 128 ≤ (128 * (j / k) + 127) * k := by
      have rest := Nat.div_add_mod j k
      have less := Nat.mod_lt j positive
      rw [Nat.add_mul, Nat.mul_assoc, Nat.mul_comm (j / k)]
      omega
    calc j * one = j * 128 * part := by rw [parts, Nat.mul_assoc]
      _ ≤ (128 * (j / k) + 127) * k * part := Nat.mul_le_mul_right _ enough
      _ = units high * k := by rw [highUnits, Nat.mul_right_comm]
  refine ⟨upper.trans_lt finite, ?_⟩
  apply Nat.div_eq_of_lt_le
  · calc j / k * one = units low := lowUnits.symm
      _ ≤ units (nearestRank (j * one) k) := units_mono lower
  · calc units (nearestRank (j * one) k) ≤ units high := units_mono upper
      _ = (128 * (j / k) + 127) * part := highUnits
      _ < (128 * (j / k) + 128) * part := (Nat.mul_lt_mul_right unit).2 (by omega)
      _ = (j / k + 1) * one := by
        rw [parts]
        ring

theorem floorUpTo_div {j k : Nat} (top : Nat) (positive : 0 < k) (small : k ≤ 128)
    (fits : j < k * 70368744177664) : (ofNat j / ofNat k).floorUpTo top = min (j / k) top := by
  obtain ⟨finite, value⟩ := units_quotient positive small fits
  obtain ⟨x, num, xUnits⟩ := ofNat_exact (k := j) (by unfold stride; omega)
  obtain ⟨y, den, yUnits⟩ := ofNat_exact (k := k) (by unfold stride; omega)
  have nonzero : 0 < units y := by
    rw [yUnits]
    exact Nat.mul_pos positive one_pos
  have rank : nearestRank (units x * one) (units y) = nearestRank (j * one) k := by
    apply nearestRank_congr nonzero positive
    rw [xUnits, yUnits]
    ring
  have quotient : ofNat j / ofNat k =
      ofRank (false != false) (nearestRank (units x * one) (units y)) := by
    rw [num, den]
    refine if_neg fun zero => ?_
    rw [zero, units_zero] at nonzero
    exact absurd nonzero (Nat.lt_irrefl 0)
  rw [quotient, rank, bne_self_eq_false, ofRank, dif_pos finite]
  exact congrArg (min · top) value

def signed (negative : Bool) (magnitude : Nat) : Int := if negative then -magnitude else magnitude

def le : Binary64 → Binary64 → Prop
  | .nan, _ | _, .nan => False
  | .infinite true, _ | _, .infinite false => True
  | .infinite false, _ | _, .infinite true => False
  | .finite a x, .finite b y => signed a (units x) ≤ signed b (units y)

theorem ofNat_le_ofNat {j k : Nat} (h : j ≤ k) (small : k ≤ 2 * stride) :
    (ofNat j).le (ofNat k) := by
  obtain ⟨x, first, xUnits⟩ := ofNat_exact (h.trans small)
  obtain ⟨y, second, yUnits⟩ := ofNat_exact small
  have less : units x ≤ units y := by
    rw [xUnits, yUnits]
    exact Nat.mul_le_mul_right _ h
  rw [first, second]
  exact Int.ofNat_le.2 less

theorem exists_ofNat {k : Nat} (positive : 0 < k) :
    ∃ r, 0 < r ∧ ofNat k = ofRank false r ∧ (k ≤ 2 * stride → r < rankLimit) := by
  refine ⟨nearestRank (k * one) 1, ?_, rfl, fun small => ?_⟩
  · apply le_nearestRank Nat.one_pos
    rw [units_of_small (by decide), Nat.mul_one]
    exact Nat.mul_pos positive one_pos
  · obtain ⟨part, -, -, ranked⟩ := exists_parts
    obtain ⟨r, finite, value⟩ := (ranked k small).1
    apply lt_of_le_of_lt _ finite
    apply nearestRank_le_of_le Nat.one_pos
    rw [value, Nat.mul_one]

def height : Binary64 → Nat
  | .finite false r => r
  | .infinite false => rankLimit
  | _ => 0

theorem le_of_units_le {r s : Nat} (h : units r ≤ units s) : r ≤ s := by
  have ranks := nearestRank_le Nat.one_pos Nat.one_pos
    (Nat.mul_le_mul_right 1 (Nat.mul_le_mul_right 1 h))
  rwa [nearestRank_units r Nat.one_pos, nearestRank_units s Nat.one_pos] at ranks

@[simp] theorem height_finite (r : Fin rankLimit) : (finite false r).height = r := rfl

@[simp] theorem height_finite_below (r : Fin rankLimit) : (finite true r).height = 0 := rfl

@[simp] theorem height_infinite_below : (infinite true).height = 0 := rfl

theorem le_finite {a b : Bool} {r s : Fin rankLimit} :
    (finite a r).le (finite b s) ↔ signed a (units r) ≤ signed b (units s) := Iff.rfl

theorem height_le_of_le {x y : Binary64} (h : x.le y) : x.height ≤ y.height := by
  cases x with
  | nan => exact h.elim
  | infinite negative =>
    cases negative with
    | true => simp
    | false =>
      cases y with
      | nan => exact h.elim
      | finite negative s => exact h.elim
      | infinite negative =>
        cases negative with
        | false => exact le_rfl
        | true => exact h.elim
  | finite negative r =>
    cases negative with
    | true => simp
    | false =>
      cases y with
      | nan => exact h.elim
      | infinite negative =>
        cases negative with
        | false => exact r.isLt.le
        | true => exact h.elim
      | finite negative s =>
        rw [le_finite] at h
        apply le_of_units_le
        cases negative with
        | false => simpa [signed] using h
        | true =>
          have below : (units r : Int) ≤ -units s := by simpa [signed] using h
          rw [height_finite, height_finite_below, units_zero]
          omega

theorem ofRank_finite {r : Nat} (h : r < rankLimit) : ofRank false r = .finite false ⟨r, h⟩ :=
  dif_pos h

theorem ofRank_infinite {r : Nat} (h : rankLimit ≤ r) : ofRank false r = .infinite false :=
  dif_neg (Nat.not_lt.2 h)

theorem rankLimit_pos : 0 < rankLimit := Nat.mul_pos (by decide) (by decide)

theorem orZero_eq (x : Binary64) : x.orZero = ofRank false x.height := by
  have zero : Binary64.zero = ofRank false 0 := (ofRank_finite rankLimit_pos).symm
  cases x with
  | nan => exact zero
  | infinite negative =>
    cases negative with
    | false => exact (ofRank_infinite le_rfl).symm
    | true => exact zero
  | finite negative r =>
    cases negative with
    | true => exact zero
    | false =>
      rw [height_finite, ofRank_finite r.isLt, orZero]
      by_cases above : 0 < r.val
      · exact if_pos (decide_eq_true above)
      · have none : r = ⟨0, rankLimit_pos⟩ := Fin.ext (Nat.eq_zero_of_not_pos above)
        rw [none]
        rfl

theorem mul_ofRank (r : Nat) {k : Nat} (positive : 0 < k) :
    ofRank false r * ofRank false k =
      if r < rankLimit ∧ k < rankLimit then ofRank false (nearestRank (units r * units k) one)
      else if r = 0 then nan else infinite false := by
  by_cases left : r < rankLimit
  · rw [ofRank_finite left]
    by_cases right : k < rankLimit
    · rw [ofRank_finite right, if_pos ⟨left, right⟩]
      rfl
    · rw [ofRank_infinite (Nat.le_of_not_lt right), if_neg fun h => right h.2]
      rfl
  · have nonzero : r ≠ 0 := fun zero => left (zero ▸ rankLimit_pos)
    rw [ofRank_infinite (Nat.le_of_not_lt left), if_neg fun h => left h.1, if_neg nonzero]
    by_cases right : k < rankLimit
    · rw [ofRank_finite right]
      exact if_neg positive.ne'
    · rw [ofRank_infinite (Nat.le_of_not_lt right)]
      rfl

theorem div_ofRank (r : Nat) {k : Nat} (positive : 0 < k) (finite : k < rankLimit) :
    ofRank false r / ofRank false k =
      if r < rankLimit then ofRank false (nearestRank (units r * one) (units k))
      else infinite false := by
  rw [ofRank_finite finite]
  by_cases left : r < rankLimit
  · rw [ofRank_finite left, if_pos left]
    exact if_neg positive.ne'
  · rw [ofRank_infinite (Nat.le_of_not_lt left), if_neg left]
    rfl

theorem floorUpTo_ofRank (r top : Nat) :
    (ofRank false r).floorUpTo top = if r < rankLimit then min (units r / one) top else top := by
  by_cases finite : r < rankLimit
  · rw [ofRank_finite finite, if_pos finite]
    rfl
  · rw [ofRank_infinite (Nat.le_of_not_lt finite), if_neg finite]
    rfl

inductive Below : Binary64 → Binary64 → Prop
  | nan (y : Binary64) : Below nan y
  | ranks {r s : Nat} (h : r ≤ s) : Below (ofRank false r) (ofRank false s)

namespace Below
variable {x y : Binary64}

theorem infinite (r : Nat) : Below (ofRank false r) (.infinite false) := by
  rw [← ofRank_infinite (Nat.le_add_left rankLimit r)]
  exact .ranks (Nat.le_add_right ..)

theorem refl_infinite : Below (.infinite false) (.infinite false) := by
  have top := infinite rankLimit
  rwa [ofRank_infinite le_rfl] at top

theorem orZero (h : x.le y) : Below x.orZero y.orZero := by
  rw [orZero_eq, orZero_eq]
  exact .ranks (height_le_of_le h)

theorem mul (h : Below x y) {k : Nat} (positive : 0 < k) :
    Below (x * ofRank false k) (y * ofRank false k) := by
  cases h with
  | nan y => exact .nan _
  | @ranks r s h =>
    rw [mul_ofRank r positive, mul_ofRank s positive]
    by_cases first : r < rankLimit ∧ k < rankLimit
    · rw [if_pos first]
      by_cases second : s < rankLimit
      · rw [if_pos ⟨second, first.2⟩]
        apply ranks
        apply nearestRank_le one_pos one_pos
        exact Nat.mul_le_mul_right _ (Nat.mul_le_mul_right _ (units_mono h))
      · have nonzero : s ≠ 0 := fun zero => second (zero ▸ rankLimit_pos)
        rw [if_neg fun both => second both.1, if_neg nonzero]
        exact infinite _
    · have second : ¬ (s < rankLimit ∧ k < rankLimit) := fun both =>
        first ⟨h.trans_lt both.1, both.2⟩
      rw [if_neg first, if_neg second]
      by_cases zero : r = 0
      · rw [if_pos zero]
        exact .nan _
      · rw [if_neg zero, if_neg (by omega)]
        exact refl_infinite

theorem div (h : Below x y) {k : Nat} (positive : 0 < k) (finite : k < rankLimit) :
    Below (x / ofRank false k) (y / ofRank false k) := by
  cases h with
  | nan y => exact .nan _
  | @ranks r s h =>
    have divisor : 0 < units k := by
      apply Nat.pos_of_ne_zero
      intro zero
      have none := le_of_units_le (r := k) (s := 0) (by omega)
      omega
    rw [div_ofRank r positive finite, div_ofRank s positive finite]
    by_cases second : s < rankLimit
    · rw [if_pos (h.trans_lt second), if_pos second]
      apply ranks
      apply nearestRank_le divisor divisor
      exact Nat.mul_le_mul_right _ (Nat.mul_le_mul_right _ (units_mono h))
    · rw [if_neg second]
      split
      · exact infinite _
      · exact refl_infinite

theorem floorUpTo (h : Below x y) (top : Nat) : x.floorUpTo top ≤ y.floorUpTo top := by
  cases h with
  | nan y => exact Nat.zero_le _
  | @ranks r s h =>
    rw [floorUpTo_ofRank, floorUpTo_ofRank]
    by_cases second : s < rankLimit
    · rw [if_pos (h.trans_lt second), if_pos second]
      exact min_le_min_right top (Nat.div_le_div_right (units_mono h))
    · rw [if_neg second]
      split
      · exact Nat.min_le_right ..
      · exact le_rfl

end Below

theorem floorUpTo_le_top (x : Binary64) (top : Nat) : x.floorUpTo top ≤ top := by
  cases x with
  | nan => exact Nat.zero_le _
  | infinite negative =>
    cases negative with
    | false => exact le_rfl
    | true => exact Nat.zero_le _
  | finite negative r =>
    cases negative with
    | false => exact Nat.min_le_right ..
    | true => exact Nat.zero_le _

end Barrage.Binary64
