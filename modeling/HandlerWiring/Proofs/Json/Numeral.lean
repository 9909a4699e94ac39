import HandlerWiring.Json.Printer
import HandlerWiring.Proofs.Json.Grammar

/-!
# Scanning numerals

The characters of a numeral are scanned as that numeral, part by part. The scan stops in front of
anything that cannot continue a numeral.

An integer is printed as the characters of a numeral without fraction and exponent. If it fits 64
bits it is the value of that numeral.
-/

namespace HandlerWiring.Json.Numeral

/-- Whether a character behind a numeral would be taken for a part of it. -/
def continuesNumeral (c : Char) : Bool :=
  c.isDigit || c == '.' || c == 'e' || c == 'E'

/-- A text in front of which a numeral ends. -/
def EndsBefore (rest : List Char) : Prop :=
  ∀ c ∈ rest.head?, continuesNumeral c = false

theorem endsBefore_nil : EndsBefore [] := by
  simp [EndsBefore]

theorem endsBefore_cons {c : Char} {cs : List Char} (h : continuesNumeral c = false) :
    EndsBefore (c :: cs) := by
  simpa [EndsBefore] using h

theorem EndsBefore.head {rest : List Char} (h : EndsBefore rest) :
    ∀ c ∈ rest.head?, c.isDigit = false ∧ c ≠ '.' ∧ c ≠ 'e' ∧ c ≠ 'E' := by
  intro c hc
  have stop := h c hc
  simp only [continuesNumeral, Bool.or_eq_false_iff, beq_eq_false_iff_ne] at stop
  exact ⟨stop.1.1.1, stop.1.1.2, stop.1.2, stop.2⟩

/-! ## Scanning -/

/-- No digit stands at the start of a text. -/
def NoDigitFirst (rest : List Char) : Prop := ∀ c ∈ rest.head?, c.isDigit = false

theorem EndsBefore.noDigitFirst {rest : List Char} (h : EndsBefore rest) : NoDigitFirst rest :=
  fun c hc => (h.head c hc).1

/-- Digits start with a digit. -/
theorem AreDigits.append_ne {digits : List Char} (h : AreDigits digits) {c : Char}
    (other : c.isDigit = false) {rest tail : List Char} : digits ++ rest ≠ c :: tail := by
  obtain ⟨d, ds, rfl⟩ := List.exists_cons_of_ne_nil h.nonempty
  have digit : d.isDigit = true := h.isDigit d List.mem_cons_self
  intro same
  rw [(List.cons.inj same).1, other] at digit
  cases digit

/-- Digits are scanned up to what is no digit. -/
theorem AreDigits.scan {digits : List Char} (h : AreDigits digits) (p : Place) {rest : List Char}
    (stop : NoDigitFirst rest) :
    ∃ q, scanDigits ⟨p, digits ++ rest⟩ = .ok (digits, ⟨q, rest⟩) := by
  have ended : rest.takeWhile Char.isDigit = [] ∧ rest.dropWhile Char.isDigit = rest := by
    cases rest with
    | nil => exact ⟨rfl, rfl⟩
    | cons c cs => simp [stop c rfl]
  refine ⟨(forward p digits rest).place, ?_⟩
  simp only [scanDigits, List.takeWhile_append_of_pos h.isDigit,
    List.dropWhile_append_of_pos h.isDigit, ended, List.append_nil, List.isEmpty_iff, h.nonempty,
    if_false]
  rfl

/-- The digits before the point are scanned up to what is no digit. -/
theorem AreWhole.scan {digits : List Char} (h : AreWhole digits) (p : Place) {rest : List Char}
    (stop : NoDigitFirst rest) :
    ∃ q, scanWhole ⟨p, digits ++ rest⟩ = .ok (digits, ⟨q, rest⟩) := by
  rcases h.noLeadingZero with rfl | other
  · refine ⟨(forward p ['0'] rest).place, ?_⟩
    rw [List.singleton_append, scanWhole]
    cases rest with
    | nil => rfl
    | cons c cs => simp only [stop c rfl]; rfl
  · obtain ⟨q, scan⟩ := h.toAreDigits.scan p stop
    obtain ⟨d, ds, rfl⟩ := List.exists_cons_of_ne_nil h.nonempty
    refine ⟨q, ?_⟩
    rw [← scan, List.cons_append]
    unfold scanWhole
    split
    · next zero =>
      rw [(List.cons.inj zero).1] at other
      exact absurd rfl other
    · rfl

/-- An exponent starts with a letter. -/
theorem ExponentDenotes.head {cs : List Char} {exponent : Option (List Char × List Char)}
    (h : ExponentDenotes cs exponent) {rest : List Char} (ends : EndsBefore rest) :
    ∀ c ∈ (cs ++ rest).head?, c.isDigit = false ∧ c ≠ '.' := by
  intro c hc
  cases h with
  | nothing =>
    obtain ⟨digit, point, _⟩ := ends.head c hc
    exact ⟨digit, point⟩
  | power letter _ _ =>
    cases hc
    rcases letter with rfl | rfl <;> decide

/-- No digit follows the digits before the point. -/
theorem FractionDenotes.noDigitFirst {cs fraction : List Char} (h : FractionDenotes cs fraction)
    {rest : List Char} (stop : ∀ c ∈ rest.head?, c.isDigit = false ∧ c ≠ '.') :
    NoDigitFirst (cs ++ rest) := by
  intro c hc
  cases h with
  | nothing => exact (stop c hc).1
  | point _ =>
    cases hc
    decide

/-- A fraction is scanned up to an exponent or the end of the numeral. -/
theorem FractionDenotes.scan {cs fraction : List Char} (h : FractionDenotes cs fraction)
    (p : Place) {rest : List Char} (stop : ∀ c ∈ rest.head?, c.isDigit = false ∧ c ≠ '.') :
    ∃ q, scanFraction ⟨p, cs ++ rest⟩ = .ok (fraction, ⟨q, rest⟩) := by
  cases h with
  | nothing =>
    refine ⟨p, ?_⟩
    rw [List.nil_append]
    unfold scanFraction
    split
    · next tail point =>
      cases point
      exact absurd rfl (stop '.' rfl).2
    · rfl
  | point digits =>
    obtain ⟨q, scan⟩ := digits.scan (forward p ['.'] (fraction ++ rest)).place
      fun c hc => (stop c hc).1
    exact ⟨q, scan⟩

/-- The sign before digits is scanned, or nothing if there is none. -/
theorem AreDigits.scanSign {sign digits : List Char} (h : AreDigits digits)
    (signs : sign = [] ∨ sign = ['+'] ∨ sign = ['-']) (p : Place) (rest : List Char) :
    ∃ q, Numeral.scanSign ⟨p, sign ++ (digits ++ rest)⟩ = (sign, ⟨q, digits ++ rest⟩) := by
  rcases signs with rfl | rfl | rfl
  · refine ⟨p, ?_⟩
    rw [List.nil_append]
    unfold Numeral.scanSign
    split
    · next tail plus => exact absurd plus (h.append_ne (by decide))
    · next tail minus => exact absurd minus (h.append_ne (by decide))
    · rfl
  · exact ⟨_, rfl⟩
  · exact ⟨_, rfl⟩

/-- An exponent is scanned up to the end of the numeral. -/
theorem ExponentDenotes.scan {cs : List Char} {exponent : Option (List Char × List Char)}
    (h : ExponentDenotes cs exponent) (p : Place) {rest : List Char} (ends : EndsBefore rest) :
    ∃ q, scanExponent ⟨p, cs ++ rest⟩ = .ok (exponent, ⟨q, rest⟩) := by
  cases h with
  | nothing =>
    refine ⟨p, ?_⟩
    cases rest with
    | nil => rfl
    | cons c cs =>
      obtain ⟨_, _, small, large⟩ := ends.head c rfl
      simp only [List.nil_append, scanExponent, small, large, or_self, if_false]
  | @power e sign digits letter signs areDigits =>
    obtain ⟨q, signed⟩ := areDigits.scanSign signs (forward p [e] (sign ++ (digits ++ rest))).place
      rest
    rw [forward] at signed
    obtain ⟨r, scan⟩ := areDigits.scan q ends.noDigitFirst
    refine ⟨r, ?_⟩
    rw [List.cons_append, List.append_assoc]
    simp only [scanExponent, letter, if_true, forward, signed, scan, bind, Except.bind]
    rfl

/-- The characters of a numeral are scanned as that numeral, up to its end. -/
theorem Denotes.scan {cs : List Char} {numeral : Numeral} (h : numeral.Denotes cs) (p : Place)
    {rest : List Char} (ends : EndsBefore rest) :
    ∃ q, Numeral.scan ⟨p, cs ++ rest⟩ = .ok (numeral, ⟨q, rest⟩) := by
  obtain @⟨negative, whole, fractionText, fraction', exponentText, exponent', areWhole, fraction,
    exponent⟩ := h
  have parts (p : Place) : ∃ q r s,
      scanWhole ⟨p, whole ++ (fractionText ++ (exponentText ++ rest))⟩ =
        .ok (whole, ⟨q, fractionText ++ (exponentText ++ rest)⟩) ∧
      scanFraction ⟨q, fractionText ++ (exponentText ++ rest)⟩ =
        .ok (fraction', ⟨r, exponentText ++ rest⟩) ∧
      scanExponent ⟨r, exponentText ++ rest⟩ = .ok (exponent', ⟨s, rest⟩) := by
    obtain ⟨q, scanned⟩ := areWhole.scan p (fraction.noDigitFirst (exponent.head ends))
    obtain ⟨r, scannedFraction⟩ := fraction.scan q (exponent.head ends)
    obtain ⟨s, scannedExponent⟩ := exponent.scan r ends
    exact ⟨q, r, s, scanned, scannedFraction, scannedExponent⟩
  cases negative with
  | true =>
    obtain ⟨q, r, s, whole, fraction, exponent⟩ :=
      parts (forward p ['-'] (whole ++ (fractionText ++ (exponentText ++ rest)))).place
    refine ⟨s, ?_⟩
    rw [forward] at whole
    simp only [if_true, List.cons_append, List.nil_append, List.append_assoc, Numeral.scan, forward,
      whole, fraction, exponent, bind, Except.bind]
    rfl
  | false =>
    obtain ⟨q, r, s, scanned, fraction, exponent⟩ := parts p
    refine ⟨s, ?_⟩
    simp only [Bool.false_eq_true, if_false, List.append_assoc, List.nil_append, Numeral.scan]
    split
    · next tail minus => exact absurd minus (areWhole.toAreDigits.append_ne (by decide))
    · simp only [scanned, fraction, exponent, bind, Except.bind]
      rfl

/-! ## The digits of a number -/

/-- The digits of a number are digits. -/
theorem isDigit_of_mem_digitsOf {n : Nat} {c : Char} (h : c ∈ Decimal.digitsOf n) :
    c.isDigit = true :=
  Nat.isDigit_of_mem_toDigits (by decide) (by decide) h

/-- A positive number does not start with a zero. -/
theorem digitsOf_eq_cons {n : Nat} (hn : 0 < n) :
    ∃ d ds, Decimal.digitsOf n = d :: ds ∧ d ≠ '0' := by
  induction n using Nat.strongRecOn with
  | ind n ih =>
    unfold Decimal.digitsOf at ih ⊢
    rw [Nat.toDigits_eq_if (by decide)]
    split
    · next small =>
      have nonzero : ∀ k < 10, 0 < k → Nat.digitChar k ≠ '0' := by decide
      exact ⟨_, [], rfl, nonzero n small hn⟩
    · next large =>
      obtain ⟨d, ds, hds, hd⟩ := ih (n / 10) (by omega) (by omega)
      exact ⟨d, ds ++ [Nat.digitChar (n % 10)], by rw [hds, List.cons_append], hd⟩

/-- The digits of a number make the digits before a point. -/
theorem areWhole_digitsOf (n : Nat) : AreWhole (Decimal.digitsOf n) where
  nonempty := Nat.toDigits_ne_nil
  isDigit _ := isDigit_of_mem_digitsOf
  noLeadingZero := by
    rcases Nat.eq_zero_or_pos n with rfl | hn
    · exact .inl (Nat.toDigits_zero 10)
    · obtain ⟨d, ds, hds, hd⟩ := digitsOf_eq_cons hn
      refine .inr ?_
      rw [hds]
      exact fun same => hd (Option.some.inj same)

/-- The number of some digits is no smaller than what stands before them. -/
theorem le_ofDigitChars (digits : List Char) (k : Nat) : k ≤ Nat.ofDigitChars 10 digits k := by
  rw [Nat.ofDigitChars_eq_ofDigitChars_zero]
  have positive : 0 < 10 ^ digits.length := Nat.pow_pos (by decide)
  exact Nat.le_add_right_of_le (Nat.le_mul_of_pos_left k positive)

/-- Digits are all appended to a significand if the result stays below the bound. -/
theorem append_eq_ofDigitChars {bound : Nat} (digits : List Char) (significand : Nat)
    (h : Nat.ofDigitChars 10 digits significand < bound) :
    append bound significand digits = (Nat.ofDigitChars 10 digits significand, []) := by
  induction digits generalizing significand with
  | nil => rw [append, Nat.ofDigitChars_nil]
  | cons d ds ih =>
    rw [Nat.ofDigitChars_cons, Nat.mul_comm] at h ⊢
    have next : significand * 10 + digitValue d < bound :=
      Nat.lt_of_le_of_lt (le_ofDigitChars ds _) h
    rw [append]
    simp only [next, if_true]
    exact ih _ h

/-- The digits of a number below the bound are appended to that number. -/
theorem append_digitsOf {bound n : Nat} (h : n < bound) :
    append bound 0 (Decimal.digitsOf n) = (n, []) := by
  have value : Nat.ofDigitChars 10 (Decimal.digitsOf n) 0 = n := Nat.ofDigitChars_ten_toDigits
  rw [append_eq_ofDigitChars _ _ (by rwa [value]), value]

/-! ## Printed integers -/

/-- The numeral that an integer is printed as. -/
def ofInteger (n : Int) : Numeral := ⟨decide (n < 0), Decimal.digitsOf n.natAbs, [], none⟩

/-- A printed integer is made of the characters of its numeral. -/
theorem denotes_printInteger (n : Int) : (ofInteger n).Denotes (printInteger n) := by
  have written := Denotes.mk (decide (n < 0)) (areWhole_digitsOf n.natAbs) .nothing .nothing
  simpa only [decide_eq_true_eq, List.append_nil, printInteger, ofInteger] using written

/-- The value of a printed integer of 64 bits is that integer. -/
theorem value_ofInteger {n : Int} (lower : -(2 ^ (63 : Nat)) ≤ n) (upper : n < 2 ^ (64 : Nat)) :
    (ofInteger n).value = .ok (.integer n) := by
  have bound : n.natAbs < 2 ^ (64 : Nat) := by omega
  simp only [value, ofInteger, append_digitsOf bound, List.isEmpty_nil, Option.isNone_none,
    and_self, if_true, decide_eq_true_eq]
  split
  · next positive => rw [Int.natAbs_of_nonneg (by omega)]
  · next negative =>
    have size : 0 < n.natAbs ∧ n.natAbs ≤ 2 ^ (63 : Nat) := by omega
    simp only [size, and_self, if_true]
    congr 2
    omega

end HandlerWiring.Json.Numeral
