import Mathlib.Data.List.TakeWhile
import HandlerWiring.Proofs.Decimal.Digits
import HandlerWiring.Toml.Moment

/-!
# Moments read back

The text of a moment is read as the moment again, up to its last character. That holds of every
moment that is real: its day exists, the hour, minute and second are those of a clock, with a second
to spare, and the offset stays below a day. Whatever the reader makes of a text is real, so it holds
of every moment that was read.

The texts are read piece by piece, numbers of a fixed width with a mark between. In a fraction of a
second the zeros at its end are not written, and made up for by a power of ten.

Other spellings of a moment, such as a blank before the time or a fraction that goes on below the
nanosecond, are read too. Which ones is not looked at here.
-/

namespace HandlerWiring

namespace Toml

open Decimal

/-! ## Numbers of a fixed width -/

theorem isDigit_of_mem_padded {width n : Nat} {c : Char} (among : c ∈ padded width n) :
    c.isDigit = true := by
  rcases List.mem_append.mp among with zero | digit
  · rw [(List.mem_replicate.mp zero).2]
    rfl
  · exact Nat.isDigit_of_mem_toDigits (by decide) (by decide) digit

theorem valueOf_padded (width n : Nat) : valueOf (padded width n) = n := by
  rw [padded, valueOf_zeros_append, valueOf_digitsOf]

theorem length_padded {width n : Nat} (positive : 0 < width) (small : n < 10 ^ width) :
    (padded width n).length = width := by
  have fits : (digitsOf n).length ≤ width :=
    (Nat.length_toDigits_le_iff (by decide) positive).mpr small
  rw [padded, List.length_append, List.length_replicate]
  omega

/-- A number of a fixed width is read again, and nothing behind it. -/
theorem readFixed_append {ds : List Char} (digits : ∀ c ∈ ds, c.isDigit = true)
    (rest : List Char) : readFixed ds.length (ds ++ rest) = some (valueOf ds, rest) := by
  have all : ds.all Char.isDigit = true := List.all_eq_true.mpr digits
  rw [readFixed, List.take_left, List.drop_left, if_pos ⟨rfl, all⟩]

theorem readFixed_padded {width n : Nat} (positive : 0 < width) (small : n < 10 ^ width)
    (rest : List Char) : readFixed width (padded width n ++ rest) = some (n, rest) := by
  have digits : ∀ c ∈ padded width n, c.isDigit = true := fun _ => isDigit_of_mem_padded
  have read := readFixed_append digits rest
  rwa [length_padded positive small, valueOf_padded] at read

theorem readMark_cons (mark : Char) (cs : List Char) : readMark mark (mark :: cs) = some cs :=
  if_pos rfl

/-- What is read with a fixed width stays below the power of ten. -/
theorem lt_of_readFixed {count n : Nat} {cs rest : List Char}
    (h : readFixed count cs = some (n, rest)) : n < 10 ^ count := by
  unfold readFixed at h
  dsimp only at h
  split at h
  · next fine =>
    cases h
    have small := valueOf_lt (List.all_eq_true.mp fine.2)
    rwa [fine.1] at small
  · cases h

/-! ## Days -/

/-- A day of the calendar, with a year of four digits. -/
structure Date.IsReal (d : Date) : Prop where
  year : d.year < 10 ^ (4 : Nat)
  month : 1 ≤ d.month ∧ d.month ≤ 12
  day : 1 ≤ d.day ∧ d.day ≤ Date.daysIn d.year d.month

namespace Date

theorem exists?_iff {d : Date} :
    d.exists? = true ↔
      (1 ≤ d.month ∧ d.month ≤ 12) ∧ 1 ≤ d.day ∧ d.day ≤ daysIn d.year d.month := by
  simp only [exists?, Bool.and_eq_true, decide_eq_true_eq, and_assoc]

theorem daysIn_le (year month : Nat) : daysIn year month ≤ 31 := by
  unfold daysIn
  split
  · split <;> decide
  · split <;> decide

theorem read_text {d : Date} (real : d.IsReal) (rest : List Char) :
    read (d.text ++ rest) = some (d, rest) := by
  have month : d.month < 10 ^ (2 : Nat) := Nat.lt_of_le_of_lt real.month.2 (by decide)
  have day : d.day < 10 ^ (2 : Nat) :=
    Nat.lt_of_le_of_lt (Nat.le_trans real.day.2 (daysIn_le d.year d.month)) (by decide)
  have there : d.exists? = true := exists?_iff.mpr ⟨real.month, real.day⟩
  unfold read text
  simp only [List.append_assoc, List.cons_append, readFixed_padded (by decide) real.year,
    readFixed_padded (by decide) month, readFixed_padded (by decide) day, readMark_cons,
    Option.bind_eq_bind, Option.bind_some, there, if_true]

theorem isReal_of_read {d : Date} {cs rest : List Char} (h : read cs = some (d, rest)) :
    d.IsReal := by
  unfold read at h
  simp only [Option.bind_eq_bind, Option.bind_eq_some_iff] at h
  obtain ⟨⟨year, _⟩, four, _, -, ⟨month, _⟩, -, _, -, ⟨day, _⟩, -, made⟩ := h
  split at made
  · next there =>
    cases made
    obtain ⟨month, day⟩ := exists?_iff.mp there
    exact ⟨lt_of_readFixed four, month, day⟩
  · cases made

end Date

/-! ## Times of day -/

/-- A time of a clock, in which a minute may have one second more than usual. -/
structure Time.IsReal (t : Time) : Prop where
  hour : t.hour ≤ 23
  minute : t.minute ≤ 59
  second : t.second ≤ 60
  nanosecond : t.nanosecond < 10 ^ (9 : Nat)

namespace Time

/-- What may stand behind a time: neither a point nor a digit. -/
def EndsTime (rest : List Char) : Prop :=
  ∀ c cs, rest = c :: cs → c ≠ '.' ∧ c.isDigit = false

theorem endsTime_nil : EndsTime [] := nofun

/-- The digits of a fraction are those of the nanoseconds but for some zeros at the end. -/
theorem exists_fraction {nanosecond : Nat} (positive : 0 < nanosecond)
    (small : nanosecond < 10 ^ (9 : Nat)) :
    ∃ ds, fractionText nanosecond = '.' :: ds ∧ ds ≠ [] ∧ ds.length ≤ 9 ∧
      (∀ c ∈ ds, c.isDigit = true) ∧ valueOf ds * 10 ^ (9 - ds.length) = nanosecond := by
  let digits := padded 9 nanosecond
  have length : digits.length = 9 := length_padded (by decide) small
  -- The zeros that are left out stand behind the others.
  let ds := (digits.reverse.dropWhile (· = '0')).reverse
  let zeros := (digits.reverse.takeWhile (· = '0')).reverse
  have whole : ds ++ zeros = digits := by
    rw [← List.reverse_append, List.takeWhile_append_dropWhile, List.reverse_reverse]
  have spelt : zeros = List.replicate zeros.length '0' := by
    refine List.eq_replicate_iff.mpr ⟨rfl, fun c among => ?_⟩
    have kept : c ∈ digits.reverse.takeWhile (· = '0') := List.mem_reverse.mp among
    have zero := List.mem_takeWhile_imp kept
    exact of_decide_eq_true zero
  have count : zeros.length = 9 - ds.length ∧ ds.length ≤ 9 := by
    rw [← whole, List.length_append] at length
    omega
  have value : valueOf ds * 10 ^ (9 - ds.length) = nanosecond := by
    rw [← count.1, ← valueOf_append_zeros, ← spelt, whole, valueOf_padded]
  refine ⟨ds, by rw [fractionText, if_neg (by omega)], ?_, count.2, fun c among => ?_, value⟩
  · rintro nothing
    rw [nothing] at value
    have zero : valueOf [] = 0 := rfl
    rw [zero, Nat.zero_mul] at value
    omega
  · have inside : c ∈ digits := whole ▸ List.mem_append_left zeros among
    exact isDigit_of_mem_padded inside

theorem readFraction_text {nanosecond : Nat} (small : nanosecond < 10 ^ (9 : Nat))
    {rest : List Char} (ends : EndsTime rest) :
    readFraction (fractionText nanosecond ++ rest) = (nanosecond, rest) := by
  rcases Nat.eq_zero_or_pos nanosecond with rfl | positive
  · rw [fractionText, if_pos rfl, List.nil_append]
    unfold readFraction
    split
    · next cs => exact absurd rfl (ends '.' cs rfl).1
    · rfl
  · obtain ⟨ds, spelt, nonempty, most, digits, value⟩ := exists_fraction positive small
    have noDigit : rest.takeWhile Char.isDigit = [] ∧ rest.dropWhile Char.isDigit = rest := by
      cases rest with
      | nil => exact ⟨rfl, rfl⟩
      | cons c cs =>
        have other := (ends c cs rfl).2
        simp only [List.takeWhile_cons, List.dropWhile_cons, other, Bool.false_eq_true, if_false,
          and_self]
    have taken : (ds ++ rest).takeWhile Char.isDigit = ds := by
      rw [List.takeWhile_append_of_pos digits, noDigit.1, List.append_nil]
    have dropped : (ds ++ rest).dropWhile Char.isDigit = rest := by
      rw [List.dropWhile_append_of_pos digits, noDigit.2]
    have here : ds.isEmpty = false := List.isEmpty_eq_false_iff.mpr nonempty
    rw [spelt, List.cons_append, readFraction]
    simp only [taken, dropped, here, Bool.false_eq_true, if_false, List.take_of_length_le most,
      value]

theorem read_text {t : Time} (real : t.IsReal) {rest : List Char} (ends : EndsTime rest) :
    read (t.text ++ rest) = some (t, rest) := by
  have hour : t.hour < 10 ^ (2 : Nat) := Nat.lt_of_le_of_lt real.hour (by decide)
  have minute : t.minute < 10 ^ (2 : Nat) := Nat.lt_of_le_of_lt real.minute (by decide)
  have second : t.second < 10 ^ (2 : Nat) := Nat.lt_of_le_of_lt real.second (by decide)
  unfold read text
  simp only [List.append_assoc, List.cons_append, readFixed_padded (by decide) hour,
    readFixed_padded (by decide) minute, readFixed_padded (by decide) second, readMark_cons,
    readFraction_text real.nanosecond ends, Option.bind_eq_bind, Option.bind_some, real.hour,
    real.minute, real.second, and_self, if_true]

theorem readFraction_lt (cs : List Char) : (readFraction cs).1 < 10 ^ (9 : Nat) := by
  unfold readFraction
  split
  · next cs =>
    dsimp only
    split
    · exact Nat.pow_pos (by decide)
    · have digits : ∀ c ∈ (cs.takeWhile Char.isDigit).take 9, c.isDigit = true :=
        fun c among => List.mem_takeWhile_imp (List.mem_of_mem_take among)
      have small := valueOf_lt digits
      have most : ((cs.takeWhile Char.isDigit).take 9).length ≤ 9 := List.length_take_le 9 _
      generalize (cs.takeWhile Char.isDigit).take 9 = kept at small most ⊢
      calc valueOf kept * 10 ^ (9 - kept.length)
          < 10 ^ kept.length * 10 ^ (9 - kept.length) :=
            Nat.mul_lt_mul_of_pos_right small (Nat.pow_pos (by decide))
        _ = 10 ^ (9 : Nat) := by rw [← Nat.pow_add, Nat.add_sub_cancel' most]
  · exact Nat.pow_pos (by decide)

theorem isReal_of_read {t : Time} {cs rest : List Char} (h : read cs = some (t, rest)) :
    t.IsReal := by
  unfold read at h
  simp only [Option.bind_eq_bind, Option.bind_eq_some_iff] at h
  obtain ⟨⟨hour, _⟩, -, _, -, ⟨minute, _⟩, -, _, -, ⟨second, behind⟩, -, made⟩ := h
  split at made
  · next fine =>
    cases made
    exact ⟨fine.1, fine.2.1, fine.2.2, readFraction_lt behind⟩
  · cases made

end Time

/-! ## Offsets -/

/-- Less than a day from universal time. -/
def Offset.IsReal : Offset → Prop
  | .universal => True
  | .minutes ahead => ahead.natAbs < 24 * 60

namespace Offset

theorem readMinutes_text {minutes : Nat} (real : minutes < 24 * 60) :
    readMinutes (padded 2 (minutes / 60) ++ ':' :: padded 2 (minutes % 60)) =
      some (minutes, []) := by
  have hour : minutes / 60 ≤ 23 := by omega
  have minute : minutes % 60 ≤ 59 := by omega
  have whole : minutes / 60 * 60 + minutes % 60 = minutes := Nat.div_add_mod' minutes 60
  have hourFits : minutes / 60 < 10 ^ (2 : Nat) := Nat.lt_of_le_of_lt hour (by decide)
  have minuteFits : minutes % 60 < 10 ^ (2 : Nat) := Nat.lt_of_le_of_lt minute (by decide)
  have minuteRead := readFixed_padded (by decide) minuteFits []
  rw [List.append_nil] at minuteRead
  unfold readMinutes
  simp only [readFixed_padded (by decide) hourFits, readMark_cons, minuteRead, Option.bind_eq_bind,
    Option.bind_some, hour, minute, and_self, if_true, whole]

theorem read?_text {offset : Offset} (real : offset.IsReal) :
    read? offset.text = some (some offset, []) := by
  cases offset with
  | universal => rfl
  | minutes ahead =>
    have digits := readMinutes_text real
    have minus (cs : List Char) : read? ('-' :: cs) =
        (readMinutes cs).map fun found => (some (.minutes (-found.1)), found.2) := rfl
    have plus (cs : List Char) : read? ('+' :: cs) =
        (readMinutes cs).map fun found => (some (.minutes found.1), found.2) := rfl
    simp only [text]
    by_cases behind : ahead < 0
    · have same : (-(ahead.natAbs : Int)) = ahead := by omega
      rw [if_pos behind, List.cons_append, minus, digits, Option.map_some]
      exact congrArg (fun n => some (some (minutes n), [])) same
    · have same : (ahead.natAbs : Int) = ahead := by omega
      rw [if_neg behind, List.cons_append, plus, digits, Option.map_some]
      exact congrArg (fun n => some (some (minutes n), [])) same

theorem endsTime_text (offset : Offset) : Time.EndsTime offset.text := by
  intro c cs spelt
  cases offset with
  | universal =>
    cases spelt
    decide
  | minutes ahead =>
    cases spelt
    split <;> decide

theorem lt_of_readMinutes {cs rest : List Char} {n : Nat} (h : readMinutes cs = some (n, rest)) :
    n < 24 * 60 := by
  unfold readMinutes at h
  simp only [Option.bind_eq_bind, Option.bind_eq_some_iff] at h
  obtain ⟨⟨hour, _⟩, -, _, -, ⟨minute, _⟩, -, made⟩ := h
  split at made
  · cases made
    omega
  · cases made

theorem isReal_of_read? {cs rest : List Char} {offset : Offset}
    (h : read? cs = some (some offset, rest)) : offset.IsReal := by
  unfold read? at h
  split at h
  · cases h
  · split at h
    · cases h
      trivial
    · split at h
      · obtain ⟨⟨n, _⟩, minutes, same⟩ := Option.map_eq_some_iff.mp h
        cases same
        have small := lt_of_readMinutes minutes
        change (n : Int).natAbs < 24 * 60
        omega
      · split at h
        · obtain ⟨⟨n, _⟩, minutes, same⟩ := Option.map_eq_some_iff.mp h
          cases same
          have small := lt_of_readMinutes minutes
          change (-(n : Int)).natAbs < 24 * 60
          omega
        · cases h

end Offset

/-! ## Moments -/

/-- A moment whose parts are real. -/
def Moment.IsReal : Moment → Prop
  | .day d => d.IsReal
  | .instant d t offset => d.IsReal ∧ t.IsReal ∧ ∀ o, offset = some o → o.IsReal
  | .time t => t.IsReal

namespace Moment

/-- No day begins where a time does: its third character is no digit. -/
theorem read_date_of_time {t : Time} (real : t.IsReal) : Date.read t.text = none := by
  have two : (padded 2 t.hour).length = 2 :=
    length_padded (by decide) (Nat.lt_of_le_of_lt real.hour (by decide))
  obtain ⟨a, b, hour⟩ := List.length_eq_two.mp two
  unfold Date.read Time.text readFixed
  rw [hour]
  simp [List.all_cons]

/-- A real moment is read from its text. -/
theorem read_text {m : Moment} (real : m.IsReal) : read m.text = some (m, []) := by
  cases m with
  | day d =>
    have date := Date.read_text real []
    rw [List.append_nil] at date
    rw [text, read, date]
    rfl
  | instant d t offset =>
    obtain ⟨day, time, distance⟩ := real
    rw [text, List.append_assoc, read, Date.read_text day]
    cases offset with
    | none =>
      have clock := Time.read_text time Time.endsTime_nil
      simp only [Option.map_none, Option.getD_none, List.cons_append, readAfter, clock]
      rfl
    | some o =>
      have clock := Time.read_text time o.endsTime_text
      have zone := Offset.read?_text (distance o rfl)
      simp only [Option.map_some, Option.getD_some, List.cons_append, readAfter, clock, zone]
      rfl
  | time t =>
    have clock := Time.read_text real Time.endsTime_nil
    rw [List.append_nil] at clock
    rw [text, read, read_date_of_time real, clock]
    rfl

/-- What is read is real. -/
theorem isReal_of_read {m : Moment} {cs rest : List Char} (h : read cs = some (m, rest)) :
    m.IsReal := by
  unfold read at h
  split at h
  · next d behind date =>
    have day := Date.isReal_of_read date
    unfold readAfter at h
    split at h
    · cases h
      exact day
    · split at h
      · split at h
        · cases h
          exact day
        · next t behind clock =>
          obtain ⟨⟨offset, _⟩, zone, same⟩ := Option.map_eq_some_iff.mp h
          cases same
          refine ⟨day, Time.isReal_of_read clock, ?_⟩
          rintro o rfl
          exact Offset.isReal_of_read? zone
      · cases h
        exact day
  · obtain ⟨⟨t, _⟩, clock, same⟩ := Option.map_eq_some_iff.mp h
    cases same
    exact Time.isReal_of_read clock

end Moment

end Toml

end HandlerWiring
