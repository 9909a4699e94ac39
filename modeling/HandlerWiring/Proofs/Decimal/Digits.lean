import Mathlib.Data.List.Basic
import Mathlib.Data.List.Induction
import HandlerWiring.Decimal.Format

/-!
# Digits

What number some digits stand for, and how large it is. Any characters are taken for digits here
where nothing else is said.
-/

namespace HandlerWiring.Decimal

theorem valueOf_append (ds es : List Char) :
    valueOf (ds ++ es) = es.foldl (fun n c => n * 10 + (c.toNat - '0'.toNat)) (valueOf ds) := by
  rw [valueOf, List.foldl_append]
  rfl

theorem valueOf_digitsOf (n : Nat) : valueOf (digitsOf n) = n := by
  have same : valueOf (digitsOf n) = Nat.ofDigitChars 10 (Nat.toDigits 10 n) 0 := by
    unfold valueOf Nat.ofDigitChars digitsOf
    simp only [Nat.mul_comm]
  rw [same, Nat.ofDigitChars_ten_toDigits]

/-- Zeros in front of a number change nothing. -/
theorem valueOf_zeros_append (count : Nat) (ds : List Char) :
    valueOf (List.replicate count '0' ++ ds) = valueOf ds := by
  induction count with
  | zero => rfl
  | succ count ih =>
    rw [List.replicate_succ, List.cons_append, ← ih, valueOf, List.foldl_cons]
    rfl

/-- Zeros behind a number multiply it. -/
theorem valueOf_append_zeros (ds : List Char) (count : Nat) :
    valueOf (ds ++ List.replicate count '0') = valueOf ds * 10 ^ count := by
  rw [valueOf_append]
  generalize valueOf ds = n
  induction count generalizing n with
  | zero => rw [List.replicate_zero, List.foldl_nil, Nat.pow_zero, Nat.mul_one]
  | succ count ih =>
    rw [List.replicate_succ, List.foldl_cons, ih, Nat.pow_succ', ← Nat.mul_assoc]
    rfl

/-- So many digits stay below that power of ten. -/
theorem valueOf_lt {ds : List Char} (digits : ∀ c ∈ ds, c.isDigit = true) :
    valueOf ds < 10 ^ ds.length := by
  induction ds using List.reverseRecOn with
  | nil => exact Nat.one_pos
  | append_singleton ds d ih =>
    have front := ih fun c among => digits c (List.mem_append_left _ among)
    have last := digits d (List.mem_append_right _ List.mem_cons_self)
    have small : d.toNat - '0'.toNat ≤ 9 := by
      have upper : d.toNat ≤ '9'.toNat := by
        simp only [Char.isDigit, Bool.and_eq_true, decide_eq_true_eq] at last
        exact last.2
      have nine : '9'.toNat = 57 := rfl
      have zero : '0'.toNat = 48 := rfl
      omega
    rw [valueOf_append, List.foldl_cons, List.foldl_nil, List.length_append, List.length_singleton,
      Nat.pow_succ]
    omega

/-- A number is as large as the count of its digits tells. -/
theorem pow_length_digits {n : Nat} (some : 0 < n) :
    10 ^ ((Nat.toDigits 10 n).length - 1) ≤ n ∧ n < 10 ^ (Nat.toDigits 10 n).length := by
  have shown : 0 < (Nat.toDigits 10 n).length := Nat.length_toDigits_pos
  refine ⟨?_, (Nat.length_toDigits_le_iff (by decide) shown).mp (Nat.le_refl _)⟩
  by_contra less
  rcases Nat.eq_zero_or_pos ((Nat.toDigits 10 n).length - 1) with none | more
  · rw [none, Nat.pow_zero] at less
    omega
  · have shorter := (Nat.length_toDigits_le_iff (by decide) more).mpr (Nat.not_le.mp less)
    omega

end HandlerWiring.Decimal
