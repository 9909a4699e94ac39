import Mathlib.Data.Nat.Cast.Order.Field
import HandlerWiring.Decimal.Shortest
import HandlerWiring.Proofs.Decimal.Rounding

/-!
# Shortest decimals are read back

The decimal that is chosen for a floating point number is near it, so reading it gives the number
again. Grids of decimals are tried from coarse to fine. On the grid with seventeen digits the point
next to the number is near it, so one of these grids has a point that is near.

That no decimal with fewer digits is near is not proved here.
-/

namespace HandlerWiring.Decimal

/-! ## The interval -/

/-- The ends and the middle of the interval, as fractions. -/
structure Interval.Spans (i : Interval) (mantissa : Nat) (exponent : Int) : Prop where
  positive : 0 < i.denominator
  low : (i.low : Rat) / i.denominator = (mantissa - gapBelow mantissa exponent) * 2 ^ exponent
  middle : (i.middle : Rat) / i.denominator = mantissa * 2 ^ exponent
  high : (i.high : Rat) / i.denominator = (mantissa + 1 / 2) * 2 ^ exponent
  closed : i.closed = true ↔ mantissa % 2 = 0

theorem spans_interval {m : Nat} {e : Int} {narrowBelow : Bool} (positive : 0 < m)
    (narrow : narrowBelow = true ↔ m = 2 ^ (52 : Nat) ∧ -1074 < e) :
    (interval m e narrowBelow).Spans m e := by
  -- Both cases scale by a power of two.
  obtain ⟨scale, denominator, made, there, unit⟩ : ∃ scale denominator : Nat,
      interval m e narrowBelow =
        ⟨(4 * m - (if narrowBelow then 1 else 2)) * scale, 4 * m * scale, (4 * m + 2) * scale,
          denominator, m % 2 == 0⟩ ∧
      0 < denominator ∧ (scale : Rat) / denominator = 2 ^ e / 4 := by
    refine ⟨_, _, rfl, ?_, ?_⟩
    · split_ifs
      · exact Nat.two_pow_pos _
      · exact Nat.one_pos
    · have quarter : (2 : Rat) ^ e / 4 = 2 ^ (e - 2) := by
        rw [zpow_sub₀ two_ne_zero, zpow_ofNat]
        norm_num
      rw [quarter, zpow_eq_div]
      by_cases large : 2 ≤ e
      · have none : (-(e - 2)).toNat = 0 := by omega
        rw [if_pos large, if_neg (by omega), none, Nat.cast_pow, Nat.cast_ofNat, Nat.cast_one,
          pow_zero]
      · have none : (e - 2).toNat = 0 := by omega
        have same : -(e - 2) = 2 - e := by omega
        rw [if_neg large, if_pos (by omega), none, same, Nat.cast_one, Nat.cast_pow, Nat.cast_ofNat,
          pow_zero]
  have gap : ((4 * m - (if narrowBelow then 1 else 2) : Nat) : Rat) = 4 * (m - gapBelow m e) := by
    unfold gapBelow
    cases narrowBelow with
    | true =>
      rw [if_pos rfl, if_pos (narrow.mp rfl), Nat.cast_sub (by omega)]
      push_cast
      ring
    | false =>
      rw [if_neg Bool.false_ne_true, if_neg (mt narrow.mpr Bool.false_ne_true),
        Nat.cast_sub (by omega)]
      push_cast
      ring
  rw [made]
  refine ⟨there, ?_, ?_, ?_, ?_⟩
  · rw [Nat.cast_mul, gap, mul_div_assoc, unit]
    ring
  · rw [Nat.cast_mul, mul_div_assoc, unit]
    push_cast
    ring
  · rw [Nat.cast_mul, mul_div_assoc, unit]
    push_cast
    ring
  · exact beq_iff_eq

namespace Interval

variable {i : Interval} {m : Nat} {e : Int}

/-- A point of a grid over the denominator of an interval. -/
theorem div_le_grid_iff (positive : 0 < i.denominator) (bound count : Nat) (step : Int) :
    ((bound : Rat) / i.denominator ≤ count * 10 ^ step ↔
        bound * 10 ^ (-step).toNat ≤ count * 10 ^ step.toNat * i.denominator) ∧
      ((count : Rat) * 10 ^ step ≤ bound / i.denominator ↔
        count * 10 ^ step.toNat * i.denominator ≤ bound * 10 ^ (-step).toNat) := by
  have there : (0 : Rat) < i.denominator := Nat.cast_pos.mpr positive
  have shift : (0 : Rat) < (10 ^ (-step).toNat : Nat) :=
    Nat.cast_pos.mpr (Nat.pow_pos (by decide))
  rw [mul_ten_pow_eq_div, div_le_div_iff₀ there shift, div_le_div_iff₀ shift there]
  constructor
  · exact_mod_cast Iff.rfl
  · exact_mod_cast Iff.rfl

/-- An interval holds what is near the number it is around. -/
theorem Spans.holds_iff (spans : i.Spans m e) (count : Nat) (step : Int) :
    i.holds count step = true ↔ IsNear m e (count * 10 ^ step) := by
  obtain ⟨above, aboveStrict⟩ := div_le_grid_iff spans.positive i.low count step
  obtain ⟨belowStrict, below⟩ := div_le_grid_iff spans.positive i.high count step
  have aboveStrict := not_congr aboveStrict
  have belowStrict := not_congr belowStrict
  rw [not_le, not_le] at aboveStrict belowStrict
  rw [spans.low] at above aboveStrict
  rw [spans.high] at below belowStrict
  unfold holds
  dsimp only
  by_cases even : m % 2 = 0
  · rw [if_pos (spans.closed.mpr even), Bool.and_eq_true, decide_eq_true_eq, decide_eq_true_eq,
      ← above, ← below]
    exact ⟨fun ends => ⟨ends.1, ends.2, fun odd => absurd even odd⟩, fun near =>
      ⟨near.above, near.below⟩⟩
  · rw [if_neg (mt spans.closed.mp even), Bool.and_eq_true, decide_eq_true_eq, decide_eq_true_eq,
      ← aboveStrict, ← belowStrict]
    exact ⟨fun ends => ⟨ends.1.le, ends.2.le, fun _ => ends⟩, fun near => near.inside even⟩

/-! ## The search -/

theorem holds_of_hit? {step : Int} {count : Nat} (hit : i.hit? step = some count) :
    i.holds count step = true := by
  have first {a b : Nat} (found : (if i.holds a step then some a
      else if i.holds b step then some b else none) = some count) : i.holds count step = true := by
    split at found
    · next held =>
      cases found
      exact held
    · split at found
      · next held =>
        cases found
        exact held
      · cases found
  exact first hit

/-- The grid has a hit if the point next to the middle is inside. -/
theorem isSome_hit? {step : Int}
    (held : i.holds (roundedRatio (i.middle * 10 ^ (-step).toNat)
      (i.denominator * 10 ^ step.toNat)) step = true) : (i.hit? step).isSome := by
  unfold hit? overshoot below
  unfold roundedRatio at held
  simp only [beq_iff_eq] at held ⊢
  rw [if_pos held]
  rfl

/-- A search finds a point inside if one of the grids it tries has a hit. -/
theorem holds_search {step : Int} {fuel k : Nat} (tried : k < fuel)
    (hit : (i.hit? (step - k)).isSome) :
    i.holds (i.search step fuel).1 (i.search step fuel).2 = true := by
  induction fuel generalizing step k with
  | zero => exact absurd tried (Nat.not_lt_zero k)
  | succ fuel ih =>
    unfold search
    cases here : i.hit? step with
    | some count => exact holds_of_hit? here
    | none =>
      cases k with
      | zero =>
        rw [Nat.cast_zero, sub_zero, here] at hit
        cases hit
      | succ k =>
        refine ih (Nat.lt_of_succ_lt_succ tried) ?_
        have same : step - 1 - k = step - (k + 1 : Nat) := by omega
        rwa [same]

/-- The magnitude is not above the middle. -/
theorem Spans.ten_pow_magnitude_le (spans : i.Spans m e) {fuel : Nat}
    (reaches : (10 : Rat) ^ (-fuel : Int) ≤ m * 2 ^ e) :
    (10 : Rat) ^ i.magnitude fuel ≤ m * 2 ^ e := by
  have there : (0 : Rat) < i.denominator := Nat.cast_pos.mpr spans.positive
  rw [← spans.middle] at reaches ⊢
  unfold magnitude
  split
  · next whole =>
    have some : 0 < i.middle / i.denominator := Nat.div_pos whole spans.positive
    have least := (pow_length_digits some).1
    have shown : 0 < (Nat.toDigits 10 (i.middle / i.denominator)).length := Nat.length_toDigits_pos
    have digits : ((Nat.toDigits 10 (i.middle / i.denominator)).length : Int) - 1 =
        ((Nat.toDigits 10 (i.middle / i.denominator)).length - 1 : Nat) := by
      omega
    rw [digits, zpow_natCast]
    calc (10 : Rat) ^ ((Nat.toDigits 10 (i.middle / i.denominator)).length - 1)
        ≤ (i.middle / i.denominator : Nat) := by exact_mod_cast least
      _ ≤ i.middle / i.denominator := Nat.cast_div_le
  · split
    · next k found =>
      have reached := List.find?_some found
      have reached := of_decide_eq_true reached
      rw [zpow_neg, ← Nat.cast_succ, zpow_natCast, inv_eq_one_div,
        div_le_div_iff₀ (by positivity) there, one_mul]
      exact_mod_cast reached
    · exact reaches

/-- On the grid with seventeen digits the point next to the middle is near. -/
theorem Spans.isNear_rounded (spans : i.Spans m e) (double : IsDouble m e) {step : Int}
    (fine : (10 : Rat) ^ (step + 16) ≤ m * 2 ^ e) :
    IsNear m e (roundedRatio (i.middle * 10 ^ (-step).toNat) (i.denominator * 10 ^ step.toNat) *
      10 ^ step) := by
  have grid : (0 : Rat) < 10 ^ step := by positivity
  have unit : (0 : Rat) < 2 ^ e := by positivity
  have ratio :
      ((i.middle * 10 ^ (-step).toNat : Nat) : Rat) / (i.denominator * 10 ^ step.toNat : Nat) =
        m * 2 ^ e / 10 ^ step := by
    rw [← spans.middle, zpow_eq_div 10]
    push_cast
    field_simp
  have there : 0 < i.denominator * 10 ^ step.toNat :=
    Nat.mul_pos spans.positive (Nat.pow_pos (by decide))
  -- Half a step of the grid is less than either gap.
  have close : 10 ^ step / 2 < gapBelow m e * 2 ^ e := by
    have small : (10 : Rat) ^ step * 10 ^ (16 : Nat) ≤ m * 2 ^ e := by
      rw [zpow_add₀ (by norm_num), zpow_ofNat] at fine
      exact fine
    unfold gapBelow
    split
    · next edge =>
      rw [edge.1] at small
      norm_num at small
      linarith
    · have most : (m : Rat) * 2 ^ e < 2 ^ (53 : Nat) * 2 ^ e :=
        mul_lt_mul_of_pos_right (by exact_mod_cast double.fits) unit
      norm_num at small most
      linarith
  obtain ⟨above, below⟩ := roundedRatio_dist (n := i.middle * 10 ^ (-step).toNat) there
  rw [ratio] at above below
  generalize roundedRatio (i.middle * 10 ^ (-step).toNat) (i.denominator * 10 ^ step.toNat) = count
    at above below ⊢
  have smallGap : gapBelow m e * 2 ^ e ≤ 1 / 2 * 2 ^ e :=
    mul_le_mul_of_nonneg_right (gapBelow_le m e) unit.le
  have inside : (m - gapBelow m e) * 2 ^ e < count * 10 ^ step ∧
      (count : Rat) * 10 ^ step < (m + 1 / 2) * 2 ^ e := by
    rw [sub_le_iff_le_add, div_le_iff₀ grid] at above
    rw [← sub_le_iff_le_add, le_div_iff₀ grid] at below
    constructor <;> linarith
  exact ⟨inside.1.le, inside.2.le, fun _ => inside⟩

/-- The search from the magnitude finds a decimal that is near. -/
theorem Spans.isNear_search (spans : i.Spans m e) (double : IsDouble m e) :
    IsNear m e ((i.search (i.magnitude 330) 18).1 * 10 ^ (i.search (i.magnitude 330) 18).2) := by
  have reaches : (10 : Rat) ^ (-(330 : Nat) : Int) ≤ m * 2 ^ e := by
    have least : (2 : Rat) ^ (-1074 : Int) ≤ 2 ^ e := zpow_le_zpow_right₀ one_le_two double.least
    have one : (1 : Rat) ≤ m := Nat.one_le_cast.mpr double.positive
    calc (10 : Rat) ^ (-(330 : Nat) : Int) ≤ 2 ^ (-1075 : Int) := ten_pow_lt_two_pow.le
      _ ≤ 2 ^ (-1074 : Int) := zpow_le_zpow_right₀ one_le_two (by decide)
      _ ≤ 2 ^ e := least
      _ ≤ m * 2 ^ e := le_mul_of_one_le_left (by positivity) one
  have fine := spans.ten_pow_magnitude_le reaches
  have same : i.magnitude 330 - (16 : Nat) + 16 = i.magnitude 330 := by omega
  have near := spans.isNear_rounded double (same ▸ fine)
  exact (spans.holds_iff _ _).mp
    (holds_search (by decide) (isSome_hit? ((spans.holds_iff _ _).mpr near)))

end Interval

/-! ## The decimal -/

/-- Zeros that are left out make up for the exponent. -/
theorem stripZeros_value (fuel count : Nat) (exponent : Int) :
    ((stripZeros fuel count exponent).1 : Rat) * 10 ^ (stripZeros fuel count exponent).2 =
      count * 10 ^ exponent := by
  induction fuel generalizing count exponent with
  | zero => rfl
  | succ fuel ih =>
    unfold stripZeros
    split
    · next ends =>
      have whole : (count : Rat) = (count / 10 : Nat) * 10 := by
        exact_mod_cast (Nat.div_mul_cancel (Nat.dvd_of_mod_eq_zero ends.2)).symm
      rw [ih, whole, zpow_add₀ (by norm_num), zpow_one]
      ring
    · rfl

theorem isNear_shortestPositive {m : Nat} {e : Int} {narrowBelow : Bool} (double : IsDouble m e)
    (narrow : narrowBelow = true ↔ m = 2 ^ (52 : Nat) ∧ -1074 < e) :
    IsNear m e
      ((shortestPositive m e narrowBelow).1 * 10 ^ (shortestPositive m e narrowBelow).2) := by
  have spans := spans_interval double.positive narrow
  have near := spans.isNear_search double
  rw [← stripZeros_value 20] at near
  exact near

/-- The fields of a number are the exponent above the least and the mantissa, where the leading bit
of a full mantissa is left out. -/
theorem fields_eq (biased fraction : Nat) :
    ((if biased = 0 then 1 else (biased : Int)) - 1075 + 1074).toNat * 2 ^ (52 : Nat) +
        (if biased = 0 then fraction else fraction + 2 ^ (52 : Nat)) =
      biased * 2 ^ (52 : Nat) + fraction := by
  cases biased with
  | zero => rfl
  | succ below =>
    have above : below + 1 ≠ 0 := Nat.succ_ne_zero below
    have unit : (((below + 1 : Nat) : Int) - 1075 + 1074).toNat = below := by omega
    rw [if_neg above, if_neg above, unit, Nat.succ_mul, Nat.add_assoc, Nat.add_comm fraction]

/-- The bits of a number are its sign and its fields. -/
theorem fields_toNat (bits : UInt64) :
    signBits (decide (2 ^ (63 : Nat) ≤ bits.toNat)) +
      (bits.toNat / 2 ^ (52 : Nat) % 2 ^ (11 : Nat) * 2 ^ (52 : Nat) +
        bits.toNat % 2 ^ (52 : Nat)) = bits.toNat := by
  have bound : bits.toNat < 2 ^ (64 : Nat) := bits.toNat_lt
  unfold signBits
  split
  · next negative =>
    have negative := of_decide_eq_true negative
    omega
  · next positive =>
    have positive := mt decide_eq_true positive
    omega

theorem toUInt64_toNat {n : Nat} {bits : UInt64} (same : n = bits.toNat) : n.toUInt64 = bits := by
  rw [same]
  exact UInt64.ofNat_toNat

/-- Only numbers with the last exponent have no decimal. -/
theorem shortest_eq_finite {bits : UInt64}
    (usual : bits.toNat / 2 ^ (52 : Nat) % 2 ^ (11 : Nat) ≠ 2047) :
    ∃ d, shortest bits = .finite d := by
  unfold shortest
  dsimp only
  rw [if_neg usual]
  by_cases zero :
      (if bits.toNat / 2 ^ (52 : Nat) % 2 ^ (11 : Nat) = 0 then bits.toNat % 2 ^ (52 : Nat)
        else bits.toNat % 2 ^ (52 : Nat) + 2 ^ (52 : Nat)) = 0
  · exact ⟨_, if_pos zero⟩
  · exact ⟨_, if_neg zero⟩

/-- A number with the last exponent is infinite, or none if it has a fraction. -/
theorem shortest_of_last {bits : UInt64}
    (last : bits.toNat / 2 ^ (52 : Nat) % 2 ^ (11 : Nat) = 2047) :
    shortest bits = if bits.toNat % 2 ^ (52 : Nat) = 0 then
      .infinite (decide (2 ^ (63 : Nat) ≤ bits.toNat)) else .undefined :=
  if_pos last

theorem bits_of_infinite {bits : UInt64} {negative : Bool}
    (infinite : shortest bits = .infinite negative) :
    (signBits negative + infinityBits).toUInt64 = bits := by
  by_cases last : bits.toNat / 2 ^ (52 : Nat) % 2 ^ (11 : Nat) = 2047
  · rw [shortest_of_last last] at infinite
    split at infinite
    · next zero =>
      cases infinite
      have whole := fields_toNat bits
      rw [last, zero, Nat.add_zero] at whole
      exact toUInt64_toNat whole
    · cases infinite
  · obtain ⟨d, finite⟩ := shortest_eq_finite last
    cases finite.symm.trans infinite

theorem fields_of_undefined {bits : UInt64} (undefined : shortest bits = .undefined) :
    bits.toNat / 2 ^ (52 : Nat) % 2 ^ (11 : Nat) = 2047 ∧ bits.toNat % 2 ^ (52 : Nat) ≠ 0 := by
  by_cases last : bits.toNat / 2 ^ (52 : Nat) % 2 ^ (11 : Nat) = 2047
  · rw [shortest_of_last last] at undefined
    split at undefined
    · cases undefined
    · next nonzero => exact ⟨last, nonzero⟩
  · obtain ⟨d, finite⟩ := shortest_eq_finite last
    cases finite.symm.trans undefined

/-- Reading the shortest decimal of a number gives its bits, however its zeros are written. -/
theorem nearest_shortest {bits : UInt64} {d : Scientific} (finite : shortest bits = .finite d)
    {digits : Nat} {exponent : Int}
    (same : (digits : Rat) * 10 ^ exponent = d.digits * 10 ^ d.exponent) :
    nearest d.negative digits exponent = bits := by
  have whole := fields_toNat bits
  have biasedFits : bits.toNat / 2 ^ (52 : Nat) % 2 ^ (11 : Nat) < 2048 := Nat.mod_lt _ (by decide)
  have fractionFits : bits.toNat % 2 ^ (52 : Nat) < 2 ^ (52 : Nat) := Nat.mod_lt _ (by decide)
  unfold shortest at finite
  dsimp only at finite
  generalize decide (2 ^ (63 : Nat) ≤ bits.toNat) = negative at finite whole
  generalize bits.toNat / 2 ^ (52 : Nat) % 2 ^ (11 : Nat) = biased at finite whole biasedFits
  generalize bits.toNat % 2 ^ (52 : Nat) = fraction at finite whole fractionFits
  have fields := fields_eq biased fraction
  generalize mantissa :
    (if biased = 0 then fraction else fraction + 2 ^ (52 : Nat)) = m at finite fields
  generalize power : (if biased = 0 then 1 else (biased : Int)) - 1075 = e at finite fields
  have leading : m = fraction ∧ biased = 0 ∨ m = fraction + 2 ^ (52 : Nat) ∧ 0 < biased := by
    split at mantissa <;> omega
  have least : e = max biased 1 - 1075 := by
    split at power <;> omega
  split at finite
  · split at finite
    all_goals cases finite
  · next notLast =>
    split at finite
    · next zero =>
      cases finite
      have nothing : digits = 0 := by
        rw [Nat.cast_zero, zero_mul, mul_eq_zero, Nat.cast_eq_zero] at same
        exact same.resolve_right (zpow_ne_zero exponent (by norm_num))
      have noFields : biased = 0 ∧ fraction = 0 := by omega
      rw [noFields.1, noFields.2] at whole
      rw [nothing]
      exact (nearest_zero negative exponent).trans (toUInt64_toNat whole)
    · next some =>
      cases finite
      have double : IsDouble m e :=
        ⟨Nat.pos_of_ne_zero some, by omega, by omega, by omega, by omega⟩
      have narrow : (decide (fraction = 0) && decide (1 < biased)) = true ↔
          m = 2 ^ (52 : Nat) ∧ -1074 < e := by
        rw [Bool.and_eq_true, decide_eq_true_eq, decide_eq_true_eq]
        omega
      have near := isNear_shortestPositive double narrow
      rw [← same] at near
      rw [← fields] at whole
      exact (nearest_eq negative double near).trans (toUInt64_toNat whole)

end HandlerWiring.Decimal
