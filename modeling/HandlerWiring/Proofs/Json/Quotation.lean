import HandlerWiring.Json.Printer
import HandlerWiring.Proofs.Json.Grammar

/-!
# Reading quoted texts

Characters that denote a text by the grammar are read as that text, and as none where the grammar
has none; who skips over them stops behind the closing quote in either case. Where the characters
stand does not matter to either, so the places are only said to exist.

The printer escapes the quote, the backslash and the control characters and lets every other
character stand. What it prints denotes the text it was given.
-/

namespace HandlerWiring.Json.Quotation

/-- The three ways to spell a character: an escape of one letter, an escape by number, and the
character itself. -/
theorem spelling_cases (c : Char) :
    (∃ e, short? e = some c ∧ spelling c = ['\\', e]) ∨
    (c.toNat < 0x20 ∧ spelling c =
      ['\\', 'u', '0', '0', Nat.digitChar (c.toNat / 16), Nat.digitChar (c.toNat % 16)]) ∨
    (c ≠ '"' ∧ c ≠ '\\' ∧ ¬c.toNat < 0x20 ∧ spelling c = [c]) := by
  unfold spelling
  split
  · subst c; exact .inl ⟨'"', by decide⟩
  split
  · subst c; exact .inl ⟨'\\', by decide⟩
  split
  · subst c; exact .inl ⟨'b', by decide⟩
  split
  · subst c; exact .inl ⟨'f', by decide⟩
  split
  · subst c; exact .inl ⟨'n', by decide⟩
  split
  · subst c; exact .inl ⟨'r', by decide⟩
  split
  · subst c; exact .inl ⟨'t', by decide⟩
  split
  · next control => exact .inr (.inl ⟨control, rfl⟩)
  · next quote backslash _ _ _ _ _ control => exact .inr (.inr ⟨quote, backslash, control, rfl⟩)

/-- Two zeros and the two digits of a control character stand for its number. -/
private theorem quad_control : ∀ n < 0x20,
    quad? '0' '0' (Nat.digitChar (n / 16)) (Nat.digitChar (n % 16)) = some n := by
  decide

/-- The number of a control character is no surrogate. -/
private theorem control_not_surrogate :
    ∀ n < 0x20, isTrailing n = false ∧ isLeading n = false := by
  decide

/-- What is read behind one more character starts with that character. -/
theorem toOption_prepend (c : Char) (r : Except Fault (List Char × Cursor)) :
    (prepend c r).toOption.map (·.1) = (r.toOption.map (·.1)).map (c :: ·) := by
  cases r <;> rfl

/-- The letter of a short escape is not the one that stands before a number. -/
theorem ne_u_of_short {e c : Char} (letter : short? e = some c) : e ≠ 'u' := by
  rintro rfl
  cases letter

/-- A leading surrogate is not read where the escape of a trailing one does not follow. -/
theorem read_leading (p : Place) {a b c d : Char} {n : Nat} {cs : List Char}
    {s : Option (List Char)} (number : quad? a b c d = some n) (notTrailing : isTrailing n = false)
    (leading : isLeading n = true) (alone : ¬OpensTrailing cs) (behind : Denotes cs s)
    (rest : List Char) :
    (read p ('\\' :: 'u' :: a :: b :: c :: d :: (cs ++ '"' :: rest))).toOption = none := by
  rw [read.eq_def]
  simp only [if_true, number, notTrailing, leading]
  cases behind with
  | done => rfl
  | plain _ backslash _ _ =>
    simp [backslash]
    rfl
  | short letter _ =>
    simp [ne_u_of_short letter]
    rfl
  | quad other notTrailing _ _ =>
    simp [other, notTrailing]
    rfl
  | pair other notTrailing _ _ _ _ =>
    simp [other, notTrailing]
    rfl
  | trailing other isTrailing _ => exact absurd ⟨_, _, _, _, _, _, rfl, other, isTrailing⟩ alone
  | leading other notTrailing _ _ _ =>
    simp [other, notTrailing]
    rfl

/-- Characters that denote a text are read as that text, up to the closing quote. -/
theorem Denotes.read {cs : List Char} {s : Option (List Char)} (h : Denotes cs s) (p : Place)
    (rest : List Char) :
    (Quotation.read p (cs ++ '"' :: rest)).toOption.map (·.1) = s := by
  induction h generalizing p with
  | done =>
    rw [List.nil_append, read.eq_def]
    rfl
  | plain quote backslash control _ ih =>
    rw [List.cons_append, read.eq_def]
    simp only [quote, backslash, control, if_false]
    rw [toOption_prepend, ih]
  | short letter _ ih =>
    rw [List.cons_append, List.cons_append, read.eq_def]
    simp only [ne_u_of_short letter, letter, Char.reduceEq, if_true, if_false]
    rw [toOption_prepend, ih]
  | quad number notTrailing notLeading _ ih =>
    simp only [List.cons_append]
    rw [read.eq_def]
    simp only [number, notTrailing, notLeading, Char.reduceEq, Bool.false_eq_true, not_false_eq_true,
      if_true, if_false]
    rw [toOption_prepend, ih]
  | pair number notTrailing leading number' trailing _ ih =>
    simp only [List.cons_append]
    rw [read.eq_def]
    simp only [number, notTrailing, leading, number', trailing, Char.reduceEq, Bool.false_eq_true,
      not_true_eq_false, if_true, if_false]
    rw [toOption_prepend, ih]
  | trailing number trailing _ _ =>
    simp only [List.cons_append]
    rw [read.eq_def]
    simp [number, trailing]
    rfl
  | leading number notTrailing leading alone behind _ =>
    simp only [List.cons_append]
    rw [read_leading p number notTrailing leading alone behind rest]
    rfl

/-- Characters that denote a text or none are skipped up to the closing quote. -/
theorem Denotes.skip {cs : List Char} {s : Option (List Char)} (h : Denotes cs s) (p : Place)
    (rest : List Char) : ∃ q, Quotation.skip p (cs ++ '"' :: rest) = .ok ⟨q, rest⟩ := by
  induction h generalizing p with
  | done =>
    refine ⟨p.after '"', ?_⟩
    rw [List.nil_append, skip.eq_def]
    simp
  | plain quote backslash control _ ih =>
    rw [List.cons_append, skip.eq_def]
    simp only [quote, backslash, control, if_false]
    exact ih _
  | short letter _ ih =>
    rw [List.cons_append, List.cons_append, skip.eq_def]
    simp only [ne_u_of_short letter, letter, Char.reduceEq, if_true, if_false]
    exact ih _
  | quad number _ _ _ ih | trailing number _ _ ih | leading number _ _ _ _ ih =>
    simp only [List.cons_append]
    rw [skip.eq_def]
    simp only [number, Char.reduceEq, if_true, if_false]
    exact ih _
  | pair number _ _ number' _ _ ih =>
    simp only [List.cons_append]
    rw [skip.eq_def]
    simp only [number, Char.reduceEq, if_true, if_false]
    rw [skip.eq_def]
    simp only [number', Char.reduceEq, if_true, if_false]
    exact ih _

/-- What the printer spells for a text denotes that text. -/
theorem denotes_printed (cs : List Char) : Denotes (cs.flatMap spelling) (some cs) := by
  induction cs with
  | nil => exact .done
  | cons c cs ih =>
    rw [List.flatMap_cons]
    rcases spelling_cases c with ⟨e, he, hs⟩ | ⟨control, hs⟩ | ⟨quote, backslash, control, hs⟩
    · rw [hs]
      exact .short he ih
    · obtain ⟨trailing, leading⟩ := control_not_surrogate _ control
      have same : Char.ofNat c.toNat = c := Char.ofNat_toNat c
      have step := Denotes.quad (quad_control _ control) trailing leading ih
      rw [Option.map_some, same] at step
      rw [hs]
      exact step
    · rw [hs]
      exact .plain quote backslash control ih

end HandlerWiring.Json.Quotation
