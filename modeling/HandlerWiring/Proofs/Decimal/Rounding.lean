import Mathlib.Algebra.Order.Field.Power
import Mathlib.Tactic.FieldSimp
import Mathlib.Tactic.Linarith
import Mathlib.Tactic.Positivity
import Mathlib.Tactic.Ring
import HandlerWiring.Proofs.Decimal.Digits

/-!
# Rounding to the nearest number

A positive floating point number is a mantissa times a power of two. Every fraction between the
midpoints to its neighbours is rounded to it, and the midpoints are if the mantissa is even. The
neighbour below a power of two is half as far away as the one above, unless both have the least
power.

What is rounded to zero or to infinity is not looked at here.
-/

namespace HandlerWiring.Decimal

/-! ## Powers -/

/-- A power is a fraction of two powers, of which one is one. -/
theorem zpow_eq_div (b : Rat) (e : Int) : b ^ e = b ^ e.toNat / b ^ (-e).toNat := by
  rcases Int.le_total 0 e with up | down
  · have none : (-e).toNat = 0 := by omega
    rw [none, pow_zero, div_one, ← zpow_natCast, Int.toNat_of_nonneg up]
  · have none : e.toNat = 0 := by omega
    rw [none, pow_zero, one_div, ← zpow_natCast, Int.toNat_of_nonneg (by omega), zpow_neg, inv_inv]

/-- A decimal is a fraction of whole numbers. -/
theorem mul_ten_pow_eq_div (count : Nat) (e : Int) :
    (count : Rat) * 10 ^ e = (count * 10 ^ e.toNat : Nat) / (10 ^ (-e).toNat : Nat) := by
  rw [zpow_eq_div]
  push_cast
  rw [mul_div_assoc]

theorem two_pow_le_ten_pow (a b : Nat) : (2 : Rat) ^ (93 * a + 3 * b) ≤ 10 ^ (28 * a + b) := by
  have long : ((2 : Rat) ^ (93 : Nat)) ^ a ≤ (10 ^ (28 : Nat)) ^ a :=
    pow_le_pow_left₀ (by norm_num) (by norm_num) a
  have short : ((2 : Rat) ^ (3 : Nat)) ^ b ≤ 10 ^ b :=
    pow_le_pow_left₀ (by norm_num) (by norm_num) b
  rw [pow_add, pow_add, pow_mul, pow_mul, pow_mul]
  exact mul_le_mul long short (by positivity) (by positivity)

/-- A decimal of this size is larger than all floating point numbers. -/
theorem two_pow_lt_ten_pow : (2 : Rat) ^ (1024 : Int) < 10 ^ (310 : Int) :=
  calc (2 : Rat) ^ (1024 : Int) ≤ 2 ^ (93 * 11 + 3 * 1) := by
        rw [zpow_ofNat]
        exact pow_le_pow_right₀ one_le_two (by decide)
    _ ≤ 10 ^ (28 * 11 + 1) := two_pow_le_ten_pow 11 1
    _ < 10 ^ (310 : Int) := by
        rw [zpow_ofNat]
        exact pow_lt_pow_right₀ (by norm_num) (by decide)

/-- A decimal of this size is smaller than all of them. -/
theorem ten_pow_lt_two_pow : (10 : Rat) ^ (-330 : Int) < 2 ^ (-1075 : Int) := by
  have apart : (2 : Rat) ^ (1075 : Nat) < 10 ^ (330 : Nat) :=
    calc (2 : Rat) ^ (1075 : Nat)
        ≤ 2 ^ (93 * 11 + 3 * 18) := pow_le_pow_right₀ one_le_two (by decide)
      _ ≤ 10 ^ (28 * 11 + 18) := two_pow_le_ten_pow 11 18
      _ < 10 ^ (330 : Nat) := pow_lt_pow_right₀ (by norm_num) (by decide)
  rw [zpow_neg, zpow_neg, zpow_ofNat, zpow_ofNat]
  exact inv_strictAnti₀ (pow_pos two_pos _) apart

/-! ## Numbers -/

/-- A positive floating point number: a mantissa of at most 53 bits times a power of two, of 53 bits
unless the power is the least. -/
structure IsDouble (mantissa : Nat) (exponent : Int) : Prop where
  positive : 0 < mantissa
  fits : mantissa < 2 ^ (53 : Nat)
  least : -1074 ≤ exponent
  greatest : exponent ≤ 971
  full : -1074 < exponent → 2 ^ (52 : Nat) ≤ mantissa

/-- How far below a number the midpoint is, in units of the last bit. -/
def gapBelow (mantissa : Nat) (exponent : Int) : Rat :=
  if mantissa = 2 ^ (52 : Nat) ∧ -1074 < exponent then 1 / 4 else 1 / 2

/-- A number is between the midpoints around `mantissa · 2 ^ exponent`, or is one of them and the
mantissa is even. -/
structure IsNear (mantissa : Nat) (exponent : Int) (x : Rat) : Prop where
  above : (mantissa - gapBelow mantissa exponent) * 2 ^ exponent ≤ x
  below : x ≤ (mantissa + 1 / 2) * 2 ^ exponent
  inside : mantissa % 2 ≠ 0 →
    (mantissa - gapBelow mantissa exponent) * 2 ^ exponent < x ∧
      x < (mantissa + 1 / 2) * 2 ^ exponent

theorem gapBelow_le (m : Nat) (e : Int) : gapBelow m e ≤ 1 / 2 := by
  unfold gapBelow
  split_ifs <;> norm_num

/-! ## The power of the last bit -/

theorem scaledRatio_div (n d : Nat) (p : Int) :
    ((scaledRatio n d p).1 : Rat) / (scaledRatio n d p).2 = n / d / 2 ^ p := by
  rw [scaledRatio, zpow_eq_div]
  push_cast
  field_simp

theorem scaledRatio_pos {d : Nat} (positive : 0 < d) (n : Nat) (p : Int) :
    0 < (scaledRatio n d p).2 :=
  Nat.mul_pos positive (Nat.two_pow_pos _)

theorem div_lt_two_pow_iff {n d : Nat} (positive : 0 < d) (k : Nat) :
    n / d < 2 ^ k ↔ (n : Rat) / d < 2 ^ k := by
  have there : (0 : Rat) < d := Nat.cast_pos.mpr positive
  rw [Nat.div_lt_iff_lt_mul positive, div_lt_iff₀ there]
  exact_mod_cast Iff.rfl

/-- A fraction lies between the two powers of two that the lengths of numerator and denominator
tell. -/
theorem log2_div {n d : Nat} (some : 0 < n) (positive : 0 < d) :
    (2 : Rat) ^ ((n.log2 : Int) - d.log2 - 1) ≤ n / d ∧
      (n : Rat) / d < 2 ^ ((n.log2 : Int) - d.log2 + 1) := by
  have there : (0 : Rat) < d := Nat.cast_pos.mpr positive
  have low : (2 : Rat) ^ (n.log2 : Int) ≤ n := by
    rw [zpow_natCast]
    exact_mod_cast Nat.log2_self_le some.ne'
  have high : (n : Rat) < 2 ^ ((n.log2 : Int) + 1) := by
    have less := Nat.lt_log2_self (n := n)
    exact_mod_cast less
  have low' : (2 : Rat) ^ (d.log2 : Int) ≤ d := by
    rw [zpow_natCast]
    exact_mod_cast Nat.log2_self_le positive.ne'
  have high' : (d : Rat) < 2 ^ ((d.log2 : Int) + 1) := by
    have less := Nat.lt_log2_self (n := d)
    exact_mod_cast less
  rw [le_div_iff₀ there, div_lt_iff₀ there]
  constructor
  · calc (2 : Rat) ^ ((n.log2 : Int) - d.log2 - 1) * d
        ≤ 2 ^ ((n.log2 : Int) - d.log2 - 1) * 2 ^ ((d.log2 : Int) + 1) := by gcongr
      _ = 2 ^ (n.log2 : Int) := by rw [← zpow_add₀ two_ne_zero]; ring_nf
      _ ≤ n := low
  · calc (n : Rat) < 2 ^ ((n.log2 : Int) + 1) := high
      _ = 2 ^ ((n.log2 : Int) - d.log2 + 1) * 2 ^ (d.log2 : Int) := by
        rw [← zpow_add₀ two_ne_zero]; ring_nf
      _ ≤ 2 ^ ((n.log2 : Int) - d.log2 + 1) * d := by gcongr

/-- A fraction is below 53 bits over the power that is chosen, and not below 52 unless the power is
the least of all. -/
theorem unitPower_spec {n d : Nat} (some : 0 < n) (positive : 0 < d) :
    -1074 ≤ unitPower n d ∧ (n : Rat) / d < 2 ^ (unitPower n d + 53) ∧
      (unitPower n d = -1074 ∨ (2 : Rat) ^ (unitPower n d + 52) ≤ n / d) := by
  obtain ⟨low, high⟩ := log2_div some positive
  -- The guess is the power sought or the one below.
  obtain ⟨p, chosen, fits, full⟩ : ∃ p, unitPower n d = max (-1074) p ∧
      (n : Rat) / d < 2 ^ (p + 53) ∧ (2 : Rat) ^ (p + 52) ≤ n / d := by
    let guess : Int := (n.log2 : Int) - d.log2 - 53
    have unit : (0 : Rat) < 2 ^ guess := zpow_pos two_pos guess
    have compared : (scaledRatio n d guess).1 / (scaledRatio n d guess).2 < 2 ^ (53 : Nat) ↔
        (n : Rat) / d < 2 ^ (guess + 53) := by
      rw [div_lt_two_pow_iff (scaledRatio_pos positive n guess), scaledRatio_div, div_lt_iff₀ unit,
        zpow_add₀ two_ne_zero, mul_comm]
      norm_num
    by_cases fits : (scaledRatio n d guess).1 / (scaledRatio n d guess).2 < 2 ^ (53 : Nat)
    · have power : guess + 52 = (n.log2 : Int) - d.log2 - 1 := by omega
      exact ⟨guess, congrArg (max (-1074)) (if_pos fits), compared.mp fits, power ▸ low⟩
    · have power : guess + 1 + 53 = (n.log2 : Int) - d.log2 + 1 := by omega
      have power' : guess + 1 + 52 = guess + 53 := by omega
      exact ⟨guess + 1, congrArg (max (-1074)) (if_neg fits), power ▸ high,
        power' ▸ not_lt.mp (mt compared.mpr fits)⟩
  rw [chosen]
  rcases le_total p (-1074) with small | large
  · rw [max_eq_left small]
    refine ⟨le_refl _, lt_of_lt_of_le fits ?_, .inl rfl⟩
    exact zpow_le_zpow_right₀ one_le_two (by omega)
  · rw [max_eq_right large]
    exact ⟨large, fits, .inr full⟩

/-- Only one power fits a fraction. -/
theorem unitPower_eq {n d : Nat} {p : Int} (some : 0 < n) (positive : 0 < d) (least : -1074 ≤ p)
    (fits : (n : Rat) / d < 2 ^ (p + 53)) (full : p = -1074 ∨ (2 : Rat) ^ (p + 52) ≤ n / d) :
    unitPower n d = p := by
  obtain ⟨least', fits', full'⟩ := unitPower_spec some positive
  have ordered {a b : Int} (least : -1074 ≤ b) (full : a = -1074 ∨ (2 : Rat) ^ (a + 52) ≤ n / d)
      (fits : (n : Rat) / d < 2 ^ (b + 53)) : a ≤ b := by
    rcases full with rfl | full
    · exact least
    · have exponents := (zpow_lt_zpow_iff_right₀ one_lt_two).mp (lt_of_le_of_lt full fits)
      omega
  exact Int.le_antisymm (ordered least full' fits) (ordered least' full fits')

/-! ## The last bit -/

theorem roundedRatio_eq {n d m : Nat} (positive : 0 < d) (above : 2 * (m * d) ≤ 2 * n + d)
    (below : 2 * n ≤ 2 * (m * d) + d)
    (inside : m % 2 ≠ 0 → 2 * (m * d) < 2 * n + d ∧ 2 * n < 2 * (m * d) + d) :
    roundedRatio n d = m := by
  have whole : d * (n / d) + n % d = n := Nat.div_add_mod n d
  have rest : n % d < d := Nat.mod_lt n positive
  have atLeast : n / d ≤ m := by
    by_contra less
    have step : (m + 1) * d ≤ (n / d) * d := Nat.mul_le_mul_right d (by omega)
    rw [Nat.mul_comm (n / d) d, Nat.add_mul] at step
    omega
  have atMost : m ≤ n / d + 1 := by
    by_contra more
    have step : (n / d + 2) * d ≤ m * d := Nat.mul_le_mul_right d (by omega)
    rw [Nat.add_mul, Nat.mul_comm (n / d) d] at step
    omega
  unfold roundedRatio
  dsimp only
  rcases Nat.eq_or_lt_of_le atLeast with same | less
  · rw [← same] at above below inside ⊢
    rw [Nat.mul_comm (n / d) d] at above below inside
    split_ifs <;> omega
  · have next : m = n / d + 1 := by omega
    rw [next] at above below inside ⊢
    rw [Nat.add_mul, Nat.mul_comm (n / d) d] at above below inside
    split_ifs <;> omega

/-- Rounding moves a fraction by at most half a unit. -/
theorem roundedRatio_dist {n d : Nat} (positive : 0 < d) :
    (n : Rat) / d - 1 / 2 ≤ roundedRatio n d ∧ (roundedRatio n d : Rat) ≤ n / d + 1 / 2 := by
  have there : (0 : Rat) < d := Nat.cast_pos.mpr positive
  have whole : d * (n / d) + n % d = n := Nat.div_add_mod n d
  have rest : n % d < d := Nat.mod_lt n positive
  have ends : 2 * n ≤ 2 * (roundedRatio n d * d) + d ∧ 2 * (roundedRatio n d * d) ≤ 2 * n + d := by
    unfold roundedRatio
    dsimp only
    split_ifs
    all_goals
      first
      | rw [Nat.mul_comm (n / d) d]
      | rw [Nat.add_mul, Nat.mul_comm (n / d) d]
      omega
  have low : (2 : Rat) * n ≤ 2 * (roundedRatio n d * d) + d := by exact_mod_cast ends.1
  have high : (2 : Rat) * (roundedRatio n d * d) ≤ 2 * n + d := by exact_mod_cast ends.2
  constructor
  · rw [sub_le_iff_le_add, div_le_iff₀ there]
    linarith
  · rw [← sub_le_iff_le_add, le_div_iff₀ there]
    linarith

/-- A fraction within half a unit is rounded to the whole number. -/
theorem roundedRatio_of_near {n d m : Nat} (positive : 0 < d) (above : (m : Rat) - 1 / 2 ≤ n / d)
    (below : (n : Rat) / d ≤ m + 1 / 2)
    (inside : m % 2 ≠ 0 → (m : Rat) - 1 / 2 < n / d ∧ (n : Rat) / d < m + 1 / 2) :
    roundedRatio n d = m := by
  have there : (0 : Rat) < d := Nat.cast_pos.mpr positive
  rw [le_div_iff₀ there] at above
  rw [div_le_iff₀ there] at below
  rw [lt_div_iff₀ there, div_lt_iff₀ there] at inside
  refine roundedRatio_eq positive ?_ ?_ fun odd => ?_
  · have scaled : (2 : Rat) * (m * d) ≤ 2 * n + d := by linarith
    exact_mod_cast scaled
  · have scaled : (2 : Rat) * n ≤ 2 * (m * d) + d := by linarith
    exact_mod_cast scaled
  · obtain ⟨above, below⟩ := inside odd
    have scaled : (2 : Rat) * (m * d) < 2 * n + d := by linarith
    have scaled' : (2 : Rat) * n < 2 * (m * d) + d := by linarith
    exact ⟨by exact_mod_cast scaled, by exact_mod_cast scaled'⟩

/-! ## Rounding -/

/-- The bits of a number of which the power of the last bit and the mantissa are known. -/
theorem nearestRatio_of_rounded {n d m : Nat} {p : Int} (power : unitPower n d = p)
    (rounded : roundedRatio (scaledRatio n d p).1 (scaledRatio n d p).2 = m) :
    nearestRatio n d = min infinityBits ((p + 1074).toNat * 2 ^ (52 : Nat) + m) := by
  subst power
  subst rounded
  rfl

section

variable {n d m : Nat} {e : Int}

/-- A fraction that is as long as the number near to it is rounded to its mantissa. -/
theorem nearestRatio_of_usual (some : 0 < n) (positive : 0 < d) (double : IsDouble m e)
    (near : IsNear m e (n / d)) (usual : e = -1074 ∨ (2 : Rat) ^ (e + 52) ≤ n / d) :
    nearestRatio n d = min infinityBits ((e + 1074).toNat * 2 ^ (52 : Nat) + m) := by
  have unit : (0 : Rat) < 2 ^ e := zpow_pos two_pos e
  have power : unitPower n d = e := by
    have most : (m : Rat) + 1 / 2 < 2 ^ (53 : Nat) := by
      have whole : (m : Rat) + 1 ≤ 2 ^ (53 : Nat) := by exact_mod_cast double.fits
      linarith
    refine unitPower_eq some positive double.least (lt_of_le_of_lt near.below ?_) usual
    rw [zpow_add₀ two_ne_zero, mul_comm, zpow_ofNat]
    exact mul_lt_mul_of_pos_left most unit
  refine nearestRatio_of_rounded power ?_
  have smallGap := gapBelow_le m e
  refine roundedRatio_of_near (scaledRatio_pos positive n e) ?_ ?_ fun odd => ?_
  · rw [scaledRatio_div]
    have scaled := (le_div_iff₀ unit).mpr near.above
    linarith
  · rw [scaledRatio_div]
    exact (div_le_iff₀ unit).mpr near.below
  · rw [scaledRatio_div]
    obtain ⟨above, below⟩ := near.inside odd
    have scaled := (lt_div_iff₀ unit).mpr above
    exact ⟨by linarith, (div_lt_iff₀ unit).mpr below⟩

/-- A number with a shorter fraction near to it is a power of two. -/
theorem IsNear.edge {x : Rat} (near : IsNear m e x) (double : IsDouble m e) (notLeast : -1074 < e)
    (shorter : x < 2 ^ (52 : Nat) * 2 ^ e) : m = 2 ^ (52 : Nat) := by
  refine le_antisymm ?_ (double.full notLeast)
  by_contra more
  have more : (2 : Rat) ^ (52 : Nat) + 1 ≤ m := by exact_mod_cast not_le.mp more
  have smallGap := gapBelow_le m e
  have atLeast : (2 : Rat) ^ (52 : Nat) * 2 ^ e ≤ (m - gapBelow m e) * 2 ^ e :=
    mul_le_mul_of_nonneg_right (by linarith) (zpow_pos two_pos e).le
  exact absurd (lt_of_le_of_lt (atLeast.trans near.above) shorter) (lt_irrefl _)

/-- A fraction that is shorter than the number near to it is measured in the next smaller unit, and
rounded up to a power of two. -/
theorem nearestRatio_of_edge (some : 0 < n) (positive : 0 < d) (notLeast : -1074 < e)
    (near : IsNear (2 ^ (52 : Nat)) e (n / d)) (shorter : (n : Rat) / d < 2 ^ (52 : Nat) * 2 ^ e) :
    nearestRatio n d =
      min infinityBits ((e - 1 + 1074).toNat * 2 ^ (52 : Nat) + 2 ^ (53 : Nat)) := by
  have above := near.above
  have gap : gapBelow (2 ^ (52 : Nat)) e = 1 / 4 := if_pos ⟨rfl, notLeast⟩
  rw [gap] at above
  have unit : (0 : Rat) < 2 ^ e := zpow_pos two_pos e
  have half : (2 : Rat) ^ (e - 1) = 2 ^ e / 2 := by
    rw [zpow_sub₀ two_ne_zero, zpow_one]
  have power : unitPower n d = e - 1 := by
    refine unitPower_eq some positive (by omega) ?_ (.inr (le_trans ?_ above))
    · rw [zpow_add₀ two_ne_zero, half]
      norm_num at shorter ⊢
      linarith
    · rw [zpow_add₀ two_ne_zero, half]
      norm_num
      linarith
  refine nearestRatio_of_rounded power ?_
  have even : (2 ^ (53 : Nat)) % 2 = 0 := rfl
  refine roundedRatio_of_near (scaledRatio_pos positive n (e - 1)) ?_ ?_ (absurd even)
  · rw [scaledRatio_div, half, le_div_iff₀ (by linarith)]
    norm_num at above ⊢
    linarith
  · rw [scaledRatio_div, half, div_le_iff₀ (by linarith)]
    norm_num at shorter ⊢
    linarith

/-- A fraction near a number is rounded to its bits. -/
theorem nearestRatio_eq (some : 0 < n) (positive : 0 < d) (double : IsDouble m e)
    (near : IsNear m e (n / d)) :
    nearestRatio n d = (e + 1074).toNat * 2 ^ (52 : Nat) + m := by
  have finite : (e + 1074).toNat * 2 ^ (52 : Nat) + m ≤ infinityBits := by
    have fits := double.fits
    have greatest := double.greatest
    unfold infinityBits
    omega
  by_cases usual : e = -1074 ∨ (2 : Rat) ^ (e + 52) ≤ n / d
  · rw [nearestRatio_of_usual some positive double near usual, min_eq_right finite]
  · obtain ⟨above, shorter⟩ := not_or.mp usual
    have notLeast : -1074 < e := lt_of_le_of_ne double.least (Ne.symm above)
    have shorter : (n : Rat) / d < 2 ^ (52 : Nat) * 2 ^ e := by
      have shorter := not_le.mp shorter
      rwa [zpow_add₀ two_ne_zero, mul_comm] at shorter
    have edge := near.edge double notLeast shorter
    subst edge
    have same : (e - 1 + 1074).toNat * 2 ^ (52 : Nat) + 2 ^ (53 : Nat) =
        (e + 1074).toNat * 2 ^ (52 : Nat) + 2 ^ (52 : Nat) := by
      omega
    rw [nearestRatio_of_edge some positive notLeast near shorter, same, min_eq_right finite]

end

/-- Any number near a floating point number is well inside the range. -/
theorem IsNear.inRange {m : Nat} {e : Int} {x : Rat} (double : IsDouble m e) (near : IsNear m e x) :
    (2 : Rat) ^ (-1075 : Int) ≤ x ∧ x ≤ 2 ^ (1024 : Int) := by
  have unit : (0 : Rat) < 2 ^ e := zpow_pos two_pos e
  constructor
  · have leastUnit : (2 : Rat) ^ (-1074 : Int) ≤ 2 ^ e :=
      zpow_le_zpow_right₀ one_le_two double.least
    have half : (1 / 2 : Rat) ≤ m - gapBelow m e := by
      have one : (1 : Rat) ≤ m := Nat.one_le_cast.mpr double.positive
      have smallGap := gapBelow_le m e
      linarith
    calc (2 : Rat) ^ (-1075 : Int) = 1 / 2 * 2 ^ (-1074 : Int) := by
          rw [show (-1075 : Int) = -1 + -1074 by rfl, zpow_add₀ two_ne_zero, zpow_neg_one, one_div]
      _ ≤ (m - gapBelow m e) * 2 ^ e :=
          mul_le_mul half leastUnit (zpow_pos two_pos _).le (le_trans (by norm_num) half)
      _ ≤ x := near.above
  · have greatestUnit : (2 : Rat) ^ e ≤ 2 ^ (971 : Int) :=
      zpow_le_zpow_right₀ one_le_two double.greatest
    have most : (m : Rat) + 1 / 2 ≤ 2 ^ (53 : Int) := by
      have whole : (m : Rat) + 1 ≤ 2 ^ (53 : Int) := by exact_mod_cast double.fits
      linarith
    calc x ≤ (m + 1 / 2) * 2 ^ e := near.below
      _ ≤ 2 ^ (53 : Int) * 2 ^ (971 : Int) :=
          mul_le_mul most greatestUnit unit.le (zpow_pos two_pos _).le
      _ = 2 ^ (1024 : Int) := by rw [← zpow_add₀ two_ne_zero]; rfl

/-- The bits of a floating point number that is not zero. -/
def doubleBits (negative : Bool) (mantissa : Nat) (exponent : Int) : UInt64 :=
  (signBits negative + ((exponent + 1074).toNat * 2 ^ (52 : Nat) + mantissa)).toUInt64

theorem nearest_zero (negative : Bool) (exponent : Int) :
    nearest negative 0 exponent = (signBits negative).toUInt64 := by
  unfold nearest
  dsimp only
  rw [if_pos (.inl rfl), Nat.add_zero]

/-- The digits of a decimal that is inside the range neither end far behind the point nor begin far
before it. -/
theorem length_digits_inRange {digits : Nat} {exponent : Int} (some : 0 < digits)
    (low : (2 : Rat) ^ (-1075 : Int) ≤ digits * 10 ^ exponent)
    (high : (digits : Rat) * 10 ^ exponent ≤ 2 ^ (1024 : Int)) :
    -330 ≤ ((Nat.toDigits 10 digits).length : Int) + exponent ∧
      ((Nat.toDigits 10 digits).length : Int) + exponent ≤ 310 := by
  obtain ⟨least, most⟩ := pow_length_digits some
  have shown : 0 < (Nat.toDigits 10 digits).length := Nat.length_toDigits_pos
  generalize (Nat.toDigits 10 digits).length = length at least most shown ⊢
  have ten (k : Int) : (0 : Rat) < 10 ^ k := zpow_pos (by norm_num) k
  constructor
  · by_contra small
    have digitsBelow : (digits : Rat) < 10 ^ (length : Int) := by exact_mod_cast most
    have below : (digits : Rat) * 10 ^ exponent < 10 ^ (-330 : Int) :=
      calc (digits : Rat) * 10 ^ exponent
          < 10 ^ (length : Int) * 10 ^ exponent :=
            mul_lt_mul_of_pos_right digitsBelow (ten exponent)
        _ = 10 ^ ((length : Int) + exponent) := (zpow_add₀ (by norm_num) _ _).symm
        _ ≤ 10 ^ (-330 : Int) := zpow_le_zpow_right₀ (by norm_num) (by omega)
    exact absurd (low.trans_lt (below.trans ten_pow_lt_two_pow)) (lt_irrefl _)
  · by_contra large
    have digitsAbove : (10 : Rat) ^ ((length - 1 : Nat) : Int) ≤ digits := by exact_mod_cast least
    have above : (10 : Rat) ^ (310 : Int) ≤ digits * 10 ^ exponent :=
      calc (10 : Rat) ^ (310 : Int)
          ≤ 10 ^ (((length - 1 : Nat) : Int) + exponent) :=
            zpow_le_zpow_right₀ (by norm_num) (by omega)
        _ = 10 ^ ((length - 1 : Nat) : Int) * 10 ^ exponent := zpow_add₀ (by norm_num) _ _
        _ ≤ digits * 10 ^ exponent := mul_le_mul_of_nonneg_right digitsAbove (ten exponent).le
    exact absurd (above.trans_lt (high.trans_lt two_pow_lt_ten_pow)) (lt_irrefl _)

/-- A decimal near a floating point number is read as that number. -/
theorem nearest_eq (negative : Bool) {digits m : Nat} {exponent e : Int} (double : IsDouble m e)
    (near : IsNear m e (digits * 10 ^ exponent)) :
    nearest negative digits exponent = doubleBits negative m e := by
  obtain ⟨low, high⟩ := near.inRange double
  have some : 0 < digits := by
    rcases Nat.eq_zero_or_pos digits with rfl | some
    · rw [Nat.cast_zero, zero_mul] at low
      exact absurd (zpow_pos two_pos (-1075)) (not_lt.mpr low)
    · exact some
  obtain ⟨notSmall, notLarge⟩ := length_digits_inRange some low high
  rw [mul_ten_pow_eq_div] at near
  have ratio := nearestRatio_eq (Nat.mul_pos some (Nat.pow_pos (by decide)))
    (Nat.pow_pos (by decide)) double near
  unfold nearest doubleBits
  dsimp only
  rw [if_neg (not_or.mpr ⟨some.ne', not_lt.mpr notSmall⟩), if_neg (not_lt.mpr notLarge), ratio]

end HandlerWiring.Decimal
