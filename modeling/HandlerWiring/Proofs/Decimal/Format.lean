import HandlerWiring.Proofs.Decimal.Shortest
import HandlerWiring.Proofs.Json.Numeral

/-!
# Decimals without an exponent

A number that is written around a point, never with an exponent, is the number to which the value of
its text is rounded. The zeros that fill up the places before the point or behind it are accounted
for, and so is a point that no digits follow, which is left out.

Formats that write exponents, or keep a point, are not looked at here.
-/

namespace HandlerWiring.Decimal

open Json.Numeral (AreDigits AreWhole FractionDenotes)

/-- The text of a number in decimal: a numeral without an exponent, which is rounded to the number,
or a name. -/
inductive Spells : List Char → UInt64 → Prop
  | finite (negative : Bool) {whole fractionText fraction : List Char} :
    AreWhole whole → FractionDenotes fractionText fraction →
      Spells ((if negative then ['-'] else []) ++ (whole ++ fractionText))
        (nearest negative (valueOf (whole ++ fraction)) (-fraction.length))
  | infinite (negative : Bool) :
    Spells ((if negative then ['-'] else []) ++ "inf".toList)
      (signBits negative + infinityBits).toUInt64
  | undefined {bits : UInt64} :
    bits.toNat / 2 ^ (52 : Nat) % 2 ^ (11 : Nat) = 2047 → bits.toNat % 2 ^ (52 : Nat) ≠ 0 →
      Spells "NaN".toList bits

/-! ## Digits around a point -/

/-- A numeral without an exponent has the value of a decimal. -/
def WritesPlain (cs : List Char) (value : Rat) : Prop :=
  ∃ whole fractionText fraction, AreWhole whole ∧ FractionDenotes fractionText fraction ∧
    cs = whole ++ fractionText ∧
    (valueOf (whole ++ fraction) : Rat) * 10 ^ (-(fraction.length : Int)) = value

theorem areWhole_zero : AreWhole ['0'] :=
  ⟨⟨List.cons_ne_nil '0' [], List.forall_mem_singleton.mpr rfl⟩, .inl rfl⟩

/-- Zeros before the point. -/
theorem writesPlain_zeros {digits : List Char} (areDigits : AreDigits digits) {count : Nat}
    (leading : digits = ['0'] ∧ count = 0 ∨ digits.head? ≠ some '0') :
    WritesPlain (digits ++ List.replicate count '0') (valueOf digits * 10 ^ (count : Int)) := by
  refine ⟨digits ++ List.replicate count '0', [], [], ⟨⟨?_, ?_⟩, ?_⟩, .nothing, ?_, ?_⟩
  · exact List.append_ne_nil_of_left_ne_nil areDigits.nonempty _
  · intro c among
    rcases List.mem_append.mp among with digit | zero
    · exact areDigits.isDigit c digit
    · rw [(List.mem_replicate.mp zero).2]
      rfl
  · rcases leading with ⟨rfl, rfl⟩ | other
    · exact .inl rfl
    · right
      rwa [List.head?_append_of_ne_nil _ areDigits.nonempty]
  · rw [List.append_nil]
  · rw [List.append_nil, valueOf_append_zeros, List.length_nil, Nat.cast_zero, neg_zero, zpow_zero,
      mul_one, zpow_natCast]
    push_cast
    rfl

/-- The point among the digits. -/
theorem writesPlain_point {before behind : List Char} (areWhole : AreWhole before)
    (areDigits : AreDigits behind) :
    WritesPlain (before ++ '.' :: behind)
      (valueOf (before ++ behind) * 10 ^ (-(behind.length : Int))) :=
  ⟨before, '.' :: behind, behind, areWhole, .point areDigits, rfl, rfl⟩

/-- Digits that do not start with a zero, or are one, keep their value in positional form. -/
theorem writesPlain_positionalForm {digits : List Char} (areDigits : AreDigits digits)
    {exponent : Int} (leading : digits = ['0'] ∧ exponent = 0 ∨ digits.head? ≠ some '0') :
    WritesPlain (positionalForm false digits exponent) (valueOf digits * 10 ^ exponent) := by
  unfold positionalForm
  dsimp only
  split
  · next whole =>
    have count : ((exponent.toNat : Nat) : Int) = exponent := Int.toNat_of_nonneg whole
    rw [if_neg Bool.false_ne_true, List.append_nil, ← count]
    refine writesPlain_zeros areDigits (leading.imp_left fun zero => ⟨zero.1, ?_⟩)
    omega
  · next fraction =>
    have places : exponent = -((-exponent).toNat : Int) := by omega
    have positive : 0 < (-exponent).toNat := by omega
    have other : digits.head? ≠ some '0' := leading.resolve_left fun zero => fraction zero.2.ge
    generalize (-exponent).toNat = count at places positive ⊢
    rw [places]
    split
    · next inside =>
      have before : AreWhole (digits.take (digits.length - count)) := by
        refine ⟨⟨?_, fun c among => areDigits.isDigit c (List.mem_of_mem_take among)⟩, .inr ?_⟩
        · rw [← List.length_pos_iff, List.length_take]
          omega
        · rwa [List.head?_take, if_neg (by omega)]
      have length : (digits.drop (digits.length - count)).length = count := by
        rw [List.length_drop]
        omega
      have behind : AreDigits (digits.drop (digits.length - count)) := by
        refine ⟨?_, fun c among => areDigits.isDigit c (List.mem_of_mem_drop among)⟩
        rwa [← List.length_pos_iff, length]
      have written := writesPlain_point before behind
      rwa [List.take_append_drop, length] at written
    · next beyond =>
      have length : (List.replicate (count - digits.length) '0' ++ digits).length = count := by
        rw [List.length_append, List.length_replicate]
        omega
      have behind : AreDigits (List.replicate (count - digits.length) '0' ++ digits) := by
        refine ⟨List.append_ne_nil_of_right_ne_nil _ areDigits.nonempty, fun c among => ?_⟩
        rcases List.mem_append.mp among with zero | digit
        · rw [(List.mem_replicate.mp zero).2]
          rfl
        · exact areDigits.isDigit c digit
      have value := (valueOf_zeros_append 1 _).trans
        (valueOf_zeros_append (count - digits.length) digits)
      have written := writesPlain_point areWhole_zero behind
      rw [length] at written
      exact value ▸ written

/-- The digits of a decimal keep its value in positional form. -/
theorem writesPlain_digitsOf (d : Scientific) :
    WritesPlain
      (if d.digits = 0 then positionalForm false ['0'] 0
        else positionalForm false (digitsOf d.digits) d.exponent)
      (d.digits * 10 ^ d.exponent) := by
  split
  · next zero =>
    have written := writesPlain_positionalForm areWhole_zero.toAreDigits (.inl ⟨rfl, rfl⟩)
    have nothing : (valueOf ['0'] : Rat) = 0 := Nat.cast_eq_zero.mpr rfl
    rw [nothing, zero_mul] at written
    rwa [zero, Nat.cast_zero, zero_mul]
  · next nonzero =>
    have whole := Json.Numeral.areWhole_digitsOf d.digits
    have other : (digitsOf d.digits).head? ≠ some '0' := by
      obtain ⟨c, cs, spelt, other⟩ := Json.Numeral.digitsOf_eq_cons (Nat.pos_of_ne_zero nonzero)
      rw [spelt]
      exact fun same => other (Option.some.inj same)
    have value : (d.digits : Rat) = valueOf (digitsOf d.digits) := by rw [valueOf_digitsOf]
    rw [value]
    exact writesPlain_positionalForm whole.toAreDigits (.inr other)

/-! ## Numbers -/

/-- The text of a number, written positionally, stands for it. -/
theorem spells_writeBits (bits : UInt64) : Spells (plain.writeBits bits) bits := by
  unfold Format.writeBits
  cases reading : shortest bits with
  | undefined =>
    obtain ⟨last, nonzero⟩ := fields_of_undefined reading
    exact .undefined last nonzero
  | infinite negative =>
    rw [← bits_of_infinite reading]
    exact .infinite negative
  | finite d =>
    obtain ⟨whole, fractionText, fraction, areWhole, denotes, written, value⟩ :=
      writesPlain_digitsOf d
    have text : plain.write d = (if d.negative then ['-'] else []) ++ (whole ++ fractionText) := by
      rw [← written]
      rfl
    change Spells (plain.write d) bits
    rw [text, ← nearest_shortest reading value]
    exact .finite d.negative areWhole denotes

end HandlerWiring.Decimal
