import Mathlib.Logic.Basic
import Mathlib.Logic.Relation
import HandlerWiring.Proofs.Text.Pieces
import HandlerWiring.Repetition

/-!
# The first difference of two texts

Two texts are compared line by line. A round of the comparison passes over a line that both have, so
the lines passed so far stand in front of both texts and the number of the next line is one more than
theirs. The rounds end at the first line in which the texts differ, one of the two lines perhaps being
absent; that both are absent at once cannot happen, since the lines determine the text.

A text that ends in a line feed has an empty last line, so it differs from the text without it behind
all of the latter's lines. How a difference is told in words is not said here.
-/

namespace HandlerWiring

/-- The longest list that two lists begin with. -/
structure IsLongestCommonPrefix (common xs ys : List α) : Prop where
  left : common <+: xs
  right : common <+: ys
  longest : ∀ other, other <+: xs → other <+: ys → other <+: common

/-- What stands in front of two lists is all they have in common there if they go on differently or
both end. -/
theorem isLongestCommonPrefix_append {common xs ys : List α}
    (apart : xs.head? ≠ ys.head? ∨ xs = [] ∧ ys = []) :
    IsLongestCommonPrefix common (common ++ xs) (common ++ ys) where
  left := List.prefix_append common xs
  right := List.prefix_append common ys
  longest := by
    intro other left right
    rcases List.prefix_or_prefix_of_prefix left (List.prefix_append common xs) with within | beyond
    · exact within
    · obtain ⟨more, rfl⟩ := beyond
      rw [List.prefix_append_right_inj] at left right
      cases more with
      | nil => exact ⟨[], (List.append_nil _).trans (List.append_nil common)⟩
      | cons x more =>
        -- Both lists would go on with the same.
        obtain ⟨xs, rfl⟩ := left
        obtain ⟨ys, rfl⟩ := right
        rcases apart with unlike | ⟨ended, -⟩
        · exact absurd rfl unlike
        · cases ended

namespace Difference

/-! ## Rounds -/

/-- Where a comparison stands: the number of the next line, and the lines from it on. -/
structure Comparison where
  line : Nat
  expected : List (List Char)
  actual : List (List Char)

namespace Comparison

/-- The comparison of two texts before its first round. -/
def start (expected actual : String) : Comparison :=
  ⟨1, expected.toList.splitOn '\n', actual.toList.splitOn '\n'⟩

/-- A round passes over a line that both texts have. -/
inductive Round : Comparison → Comparison → Prop where
  | passed (line : Nat) (same : List Char) (es as : List (List Char)) :
    Round ⟨line, same :: es, same :: as⟩ ⟨line + 1, es, as⟩

/-- Any number of rounds. -/
abbrev Rounds : Comparison → Comparison → Prop := Relation.ReflTransGen Round

/-- Neither text has a line left. -/
def Exhausted (c : Comparison) : Prop := c.expected = [] ∧ c.actual = []

/-- What the comparison finds from here on. -/
def found (c : Comparison) (run : Nat) : Option Difference := ofLines run c.line c.expected c.actual

variable {c next : Comparison}

/-- A round does not change what is found. -/
theorem Round.found (h : Round c next) (run : Nat) : c.found run = next.found run := by
  cases h with
  | passed line same es as => rw [Comparison.found, ofLines, if_pos rfl]; rfl

theorem Rounds.found (h : Rounds c next) (run : Nat) : c.found run = next.found run := by
  induction h with
  | refl => rfl
  | tail _ last ih => rw [ih, last.found]

/-- The lines passed over stand in front of both texts, and the number of the next line counts
them. -/
theorem Rounds.exists_passed (h : Rounds c next) :
    ∃ passed, c.expected = passed ++ next.expected ∧ c.actual = passed ++ next.actual ∧
      next.line = c.line + passed.length := by
  induction h with
  | refl => exact ⟨[], rfl, rfl, rfl⟩
  | tail _ last ih =>
    obtain ⟨passed, expected, actual, line⟩ := ih
    cases last with
    | passed number same es as =>
      refine ⟨passed ++ [same], ?_, ?_, ?_⟩
      · rw [expected, List.append_assoc, List.singleton_append]
      · rw [actual, List.append_assoc, List.singleton_append]
      · rw [List.length_append, List.length_singleton, ← Nat.add_assoc, ← line]

/-- The rounds come to an end, where the next lines differ or both texts are over. -/
theorem exists_last : ∀ c : Comparison,
    ∃ last, Rounds c last ∧ (last.expected.head? ≠ last.actual.head? ∨ last.Exhausted)
  | ⟨line, [], []⟩ => ⟨⟨line, [], []⟩, .refl, .inr ⟨rfl, rfl⟩⟩
  | ⟨line, [], a :: as⟩ => ⟨⟨line, [], a :: as⟩, .refl, .inl nofun⟩
  | ⟨line, e :: es, []⟩ => ⟨⟨line, e :: es, []⟩, .refl, .inl nofun⟩
  | ⟨line, e :: es, a :: as⟩ => by
    by_cases same : e = a
    · subst same
      obtain ⟨last, rounds, ended⟩ := exists_last ⟨line + 1, es, as⟩
      exact ⟨last, .head (.passed line e es as) rounds, ended⟩
    · exact ⟨⟨line, e :: es, a :: as⟩, .refl, .inl fun heads => same (Option.some.inj heads)⟩

/-- There is no round behind the last one. -/
theorem not_round (ended : c.expected.head? ≠ c.actual.head? ∨ c.Exhausted) : ¬Round c next := by
  rintro ⟨line, same, es, as⟩
  rcases ended with unlike | ⟨ended, -⟩
  · exact unlike rfl
  · cases ended

/-- Where the next lines differ, they are what is found. -/
theorem found_of_head?_ne (unlike : c.expected.head? ≠ c.actual.head?) (run : Nat) :
    c.found run = some ⟨c.line, c.expected.head?.map String.ofList,
      c.actual.head?.map String.ofList, run⟩ := by
  obtain ⟨line, expected, actual⟩ := c
  cases expected with
  | nil =>
    cases actual with
    | nil => exact absurd rfl unlike
    | cons a as => rfl
  | cons e es =>
    cases actual with
    | nil => rfl
    | cons a as => exact if_neg fun same => unlike (congrArg some same)

end Comparison

/-! ## Texts -/

/-- The lines determine the text. -/
theorem splitOn_injective {s t : String} (same : s.toList.splitOn '\n' = t.toList.splitOn '\n') :
    s = t := by
  have whole := congrArg (List.intercalate ['\n']) same
  rw [List.intercalate_splitOn, List.intercalate_splitOn] at whole
  exact String.toList_inj.mp whole

open Comparison

variable {expected actual : String} {run : Nat}

theorem first?_of_ne (unlike : expected ≠ actual) (run : Nat) :
    first? expected actual run = (start expected actual).found run := by
  rw [first?, if_neg unlike, Text.lines, Text.lines, Text.piecesAt_eq_splitOn,
    Text.piecesAt_eq_splitOn]
  rfl

/-- Two texts are never over at once if they are not the same. -/
theorem not_exhausted (unlike : expected ≠ actual) {c : Comparison}
    (rounds : Rounds (start expected actual) c) : ¬c.Exhausted := by
  rintro ⟨expectedOver, actualOver⟩
  obtain ⟨passed, expectedLines, actualLines, -⟩ := rounds.exists_passed
  rw [expectedOver] at expectedLines
  rw [actualOver] at actualLines
  exact unlike (splitOn_injective (expectedLines.trans actualLines.symm))

/-- A difference with the sides exchanged. -/
def swap (d : Difference) : Difference := { d with expected := d.actual, actual := d.expected }

theorem ofLines_swap (run line : Nat) (es as : List (List Char)) :
    ofLines run line as es = (ofLines run line es as).map swap := by
  induction line, es, as using ofLines.induct with
  | case1 line => rfl
  | case2 line a as => rfl
  | case3 line e es => rfl
  | case4 line e es as ih => rw [ofLines, if_pos rfl, ofLines, if_pos rfl, ih]
  | case5 line e es a as unlike =>
    rw [ofLines, if_neg (Ne.symm unlike), ofLines, if_neg unlike]
    rfl

theorem first?_swap (expected actual : String) (run : Nat) :
    first? actual expected run = (first? expected actual run).map swap := by
  unfold first?
  by_cases same : expected = actual
  · rw [if_pos same, if_pos same.symm]
    rfl
  · rw [if_neg same, if_neg (Ne.symm same), ofLines_swap]

/-- What is found in two texts that are not the same: the lines behind their longest common
beginning. -/
theorem exists_first? (unlike : expected ≠ actual) (run : Nat) :
    let es := expected.toList.splitOn '\n'
    let as := actual.toList.splitOn '\n'
    ∃ common, IsLongestCommonPrefix common es as ∧ es[common.length]? ≠ as[common.length]? ∧
      first? expected actual run = some ⟨common.length + 1,
        es[common.length]?.map String.ofList, as[common.length]?.map String.ofList, run⟩ := by
  intro es as
  obtain ⟨last, rounds, ended⟩ := exists_last (start expected actual)
  have differs := ended.resolve_right (not_exhausted unlike rounds)
  obtain ⟨common, expectedLines, actualLines, line⟩ := rounds.exists_passed
  have behind (rest : List (List Char)) : (common ++ rest)[common.length]? = rest.head? := by
    rw [List.getElem?_append_right (Nat.le_refl _), Nat.sub_self, List.head?_eq_getElem?]
  have spelt : es = common ++ last.expected ∧ as = common ++ last.actual :=
    ⟨expectedLines, actualLines⟩
  refine ⟨common, ?_⟩
  rw [spelt.1, spelt.2, behind, behind]
  refine ⟨isLongestCommonPrefix_append (.inl differs), differs, ?_⟩
  rw [first?_of_ne unlike, rounds.found, found_of_head?_ne differs, line, start, Nat.add_comm]

theorem first?_eq_none_iff : first? expected actual run = none ↔ expected = actual := by
  constructor
  · intro nothing
    refine Classical.byContradiction fun unlike => ?_
    obtain ⟨common, -, -, found⟩ := exists_first? unlike run
    cases nothing.symm.trans found
  · intro same
    rw [first?, if_pos same]

/-- Lines that differ are still different as texts. -/
theorem map_ofList_ne {e a : Option (List Char)} (unlike : e ≠ a) :
    e.map String.ofList ≠ a.map String.ofList := by
  intro same
  have back (line : Option (List Char)) : (line.map String.ofList).map String.toList = line := by
    simp only [Option.map_map, Function.comp_def, String.toList_ofList, Option.map_id']
  rw [← back e, same, back] at unlike
  exact unlike rfl

end Difference

open Difference.Comparison (start Round Rounds)

/-- There is no first difference exactly if the texts are the same. If they are not, it is in the
line behind the longest common beginning of their lines, as the line of either text there or none
past its end; at least one is there, and they are not the same. The sides may be exchanged. The
rounds of the comparison come to an end. If the texts are not the same, both of them are over at none
of the places that the rounds come to, and what is found from there on is the first difference. -/
theorem first_difference_behind_common_lines (expected actual : String) (run : Nat) :
    let es := expected.toList.splitOn '\n'
    let as := actual.toList.splitOn '\n'
    (Difference.first? expected actual run = none ↔ expected = actual) ∧
      (expected ≠ actual → ∃ d common, Difference.first? expected actual run = some d ∧
        IsLongestCommonPrefix common es as ∧ d.line = common.length + 1 ∧
        d.expected = es[common.length]?.map String.ofList ∧
        d.actual = as[common.length]?.map String.ofList ∧
        (d.expected ≠ none ∨ d.actual ≠ none) ∧ d.expected ≠ d.actual ∧ d.run = run) ∧
      Difference.first? actual expected run =
        (Difference.first? expected actual run).map
          (fun d => { d with expected := d.actual, actual := d.expected }) ∧
      (∃ last, Rounds (start expected actual) last ∧ ∀ next, ¬Round last next) ∧
      (expected ≠ actual → ∀ c, Rounds (start expected actual) c →
        ¬c.Exhausted ∧ Difference.first? expected actual run = c.found run) := by
  intro es as
  refine ⟨Difference.first?_eq_none_iff, ?_, Difference.first?_swap expected actual run, ?_, ?_⟩
  · intro unlike
    obtain ⟨common, longest, apart, found⟩ := Difference.exists_first? unlike run
    have differs := Difference.map_ofList_ne apart
    refine ⟨_, common, found, longest, rfl, rfl, rfl, ?_, differs, rfl⟩
    -- If both were absent they would be the same.
    exact not_and_or.mp fun absent => differs (absent.1.trans absent.2.symm)
  · obtain ⟨last, rounds, ended⟩ := Difference.Comparison.exists_last (start expected actual)
    exact ⟨last, rounds, fun next => Difference.Comparison.not_round ended⟩
  · intro unlike c rounds
    exact ⟨Difference.not_exhausted unlike rounds,
      (Difference.first?_of_ne unlike run).trans (rounds.found run)⟩

/-- A line feed at the end of one text makes an empty line behind the other one. -/
theorem first_difference_behind_common_lines_sample :
    "a\nb\n" ≠ "a\nb" ∧
      Difference.first? "a\nb\n" "a\nb" 1 = some ⟨3, some "", none, 1⟩ ∧
      Difference.first? "a\nb" "a\nb\n" 1 = some ⟨3, none, some "", 1⟩ ∧
      IsLongestCommonPrefix [['a'], ['b']] [['a'], ['b'], []] [['a'], ['b']] := by
  have unlike : "a\nb\n" ≠ "a\nb" := by decide
  obtain ⟨-, exact, exchanged, -, -⟩ := first_difference_behind_common_lines "a\nb\n" "a\nb" 1
  obtain ⟨d, common, found, longest, line, expected, actual, -, -, run⟩ := exact unlike
  have expectedLines : "a\nb\n".toList.splitOn '\n' = [['a'], ['b'], []] := by decide
  have actualLines : "a\nb".toList.splitOn '\n' = [['a'], ['b']] := by decide
  rw [expectedLines, actualLines] at longest
  have whole : common = [['a'], ['b']] :=
    longest.right.eq_of_length_le (longest.longest _ (by decide) (by decide)).length_le
  subst whole
  rw [expectedLines] at expected
  rw [actualLines] at actual
  have told : d = ⟨3, some "", none, 1⟩ := by
    obtain ⟨_, _, _, _⟩ := d
    cases line
    cases expected
    cases actual
    cases run
    rfl
  subst told
  rw [found] at exchanged
  exact ⟨unlike, found, exchanged, longest⟩

end HandlerWiring
