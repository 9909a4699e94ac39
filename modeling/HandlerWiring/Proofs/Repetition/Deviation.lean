import Mathlib.Data.Nat.Find
import Mathlib.Order.Bounds.Basic
import HandlerWiring.Proofs.Repetition.Difference

/-!
# The first run that deviates

Repeated runs are compared with the first one in their order. A run that agrees with it changes
nothing, and one that does not ends the trial; so as long as the trial goes on all runs made agree,
and the run that ends it early is the first that deviates. Whether there is one is told in three
ways, which are the same because a difference is found exactly between texts that are not the same.

The outputs are any sequence: nothing is asked of the pass that gives them, and what it does besides
giving them is not told.
-/

namespace HandlerWiring.Repetition

open Trial (conductFrom)

variable {output : Nat → String} {reference : String} {agreement : Repetition} {run : Nat}

/-! ## One run -/

/-- A run that agrees is passed over. -/
theorem compareRuns_of_eq (agrees : output run = reference) (count : Nat) :
    (compareRuns reference agreement run (count + 1)).conductFrom output run =
      (compareRuns reference agreement (run + 1) count).conductFrom output (run + 1) := by
  have nothing : Difference.first? reference (output run) run = none :=
    Difference.first?_eq_none_iff.mpr agrees.symm
  rw [compareRuns, conductFrom]
  simp only [nothing]

/-- The outcome in which a run deviates. -/
def deviating (agreement : Repetition) (reference output : String) (run : Nat) : Repetition :=
  { agreement with
    isDeterministic := false
    difference := Difference.first? reference output run }

/-- A run that deviates is the last one, and its difference is there. -/
theorem compareRuns_of_ne (deviates : output run ≠ reference) (count : Nat) :
    (compareRuns reference agreement run (count + 1)).conductFrom output run =
      (deviating agreement reference (output run) run, run + 1) := by
  have something : Difference.first? reference (output run) run ≠ none :=
    fun nothing => deviates (Difference.first?_eq_none_iff.mp nothing).symm
  obtain ⟨d, found⟩ := Option.ne_none_iff_exists'.mp something
  rw [compareRuns, conductFrom, deviating]
  simp only [found, conductFrom]

/-! ## All runs -/

/-- If all runs agree, all are made. -/
theorem compareRuns_of_forall_eq {count : Nat}
    (agree : ∀ i, run ≤ i → i < run + count → output i = reference) :
    (compareRuns reference agreement run count).conductFrom output run =
      (agreement, run + count) := by
  induction count generalizing run with
  | zero => rfl
  | succ count ih =>
    rw [compareRuns_of_eq (agree run (Nat.le_refl run) (by omega)) count,
      ih fun i after before => agree i (by omega) (by omega), Nat.add_assoc, Nat.add_comm 1]

/-- If runs agree up to one that deviates, no run is made behind that one. -/
theorem compareRuns_of_first_ne {count k : Nat} (started : run ≤ k) (within : k < run + count)
    (agree : ∀ i, run ≤ i → i < k → output i = reference) (deviates : output k ≠ reference) :
    (compareRuns reference agreement run count).conductFrom output run =
      (deviating agreement reference (output k) k, k + 1) := by
  induction count generalizing run with
  | zero => omega
  | succ count ih =>
    by_cases here : run = k
    · subst here
      exact compareRuns_of_ne deviates count
    · rw [compareRuns_of_eq (agree run (Nat.le_refl run) (by omega)) count]
      exact ih (by omega) (by omega) fun i after before => agree i (by omega) before

/-! ## Trials -/

/-- Changing the result of a trial leaves the runs as they are. -/
theorem conductFrom_map (f : α → β) (output : Nat → String) (made : Nat) (t : Trial α) :
    (t.map f).conductFrom output made =
      (f (t.conductFrom output made).1, (t.conductFrom output made).2) := by
  induction t generalizing made with
  | done a => rfl
  | run next ih => exact ih (output made) (made + 1)

/-- Too few runs are refused before the first one. -/
theorem conduct_trial_of_lt {runs : Nat} (few : runs < 2) (output : Nat → String) :
    (trial runs).conduct output = (.error tooFewRuns, 0) := by
  rw [trial, if_pos few]
  rfl

/-- Enough runs are compared with the first one. -/
theorem conduct_trial {runs : Nat} (enough : 2 ≤ runs) (output : Nat → String) :
    (trial runs).conduct output =
      let compared := (compareRuns (output 0) (agreeing (output 0) runs) 1 (runs - 1)).conductFrom
        output 1
      (.ok compared.1, compared.2) := by
  rw [trial, if_neg (Nat.not_lt.mpr enough), Trial.conduct, conductFrom, conductFrom_map]

theorem conduct_trial_of_forall_eq {runs : Nat} (enough : 2 ≤ runs)
    (agree : ∀ i < runs, output i = output 0) :
    (trial runs).conduct output = (.ok (agreeing (output 0) runs), runs) := by
  have total : 1 + (runs - 1) = runs := Nat.add_sub_cancel' (Nat.le_of_succ_le enough)
  have rest : ∀ i, 1 ≤ i → i < 1 + (runs - 1) → output i = output 0 :=
    fun i _ within => agree i (total ▸ within)
  rw [conduct_trial enough, compareRuns_of_forall_eq rest, total]

theorem conduct_trial_of_isLeast {runs k : Nat}
    (first : IsLeast {i | 1 ≤ i ∧ i < runs ∧ output i ≠ output 0} k) :
    (trial runs).conduct output =
      (.ok (deviating (agreeing (output 0) runs) (output 0) (output k) k), k + 1) := by
  obtain ⟨⟨later, within, deviates⟩, least⟩ := first
  have agree : ∀ i, 1 ≤ i → i < k → output i = output 0 := by
    intro i after before
    by_cases same : output i = output 0
    · exact same
    · have bound : k ≤ i := least ⟨after, by omega, same⟩
      omega
  rw [conduct_trial (by omega),
    compareRuns_of_first_ne later (by omega) agree deviates]

/-- Either all runs agree or one of those that deviate is the first. -/
theorem forall_eq_or_exists_isLeast (output : Nat → String) (runs : Nat) :
    (∀ i < runs, output i = output 0) ∨
      ∃ k, IsLeast {i | 1 ≤ i ∧ i < runs ∧ output i ≠ output 0} k := by
  by_cases some : ∃ i, 1 ≤ i ∧ i < runs ∧ output i ≠ output 0
  · exact .inr ⟨Nat.find some, Nat.find_spec some, fun i among => Nat.find_min' some among⟩
  · left
    intro i within
    by_cases first : i = 0
    · rw [first]
    · by_cases same : output i = output 0
      · exact same
      · exact absurd ⟨i, by omega, within, same⟩ some

end HandlerWiring.Repetition

namespace HandlerWiring

open Repetition

/-- Fewer than two runs are refused and none is made. Otherwise there is an outcome, and it describes
the first output. That it is deterministic, that no difference is reported and that there is nothing
to complain of are the same, and they mean that all outputs are the first one; then as many runs
are made as were asked for. If not, the difference reported is the one between the first output and
that of the first run that deviates, and that run is the last one made. -/
theorem trial_reports_first_deviation (output : Nat → String) (runs : Nat) :
    (runs < 2 → (trial runs).conduct output = (.error tooFewRuns, 0)) ∧
      (2 ≤ runs → ∃ r made, (trial runs).conduct output = (.ok r, made) ∧
        r.runs = runs ∧ r.hash = Digest.ofText (output 0) ∧ r.size = (output 0).utf8ByteSize ∧
        (r.isDeterministic = true ↔ ∀ i < runs, output i = output 0) ∧
        (r.isDeterministic = true ↔ r.difference = none) ∧
        (r.isDeterministic = true ↔ r.complaint? = none) ∧
        (r.isDeterministic = true → made = runs) ∧
        (r.isDeterministic = false →
          ∃ k, IsLeast {i | 1 ≤ i ∧ i < runs ∧ output i ≠ output 0} k ∧
            r.difference = Difference.first? (output 0) (output k) k ∧ made = k + 1)) := by
  refine ⟨fun few => conduct_trial_of_lt few output, fun enough => ?_⟩
  rcases forall_eq_or_exists_isLeast output runs with agree | ⟨k, first⟩
  · refine ⟨_, _, conduct_trial_of_forall_eq enough agree, rfl, rfl, rfl, ?_, ?_, ?_, ?_, ?_⟩
    · exact iff_of_true rfl agree
    · exact iff_of_true rfl rfl
    · exact iff_of_true rfl rfl
    · exact fun _ => rfl
    · exact nofun
  · obtain ⟨later, within, deviates⟩ := first.1
    have reported : Difference.first? (output 0) (output k) k ≠ none :=
      fun nothing => deviates (Difference.first?_eq_none_iff.mp nothing).symm
    have complained : (deviating (agreeing (output 0) runs) (output 0) (output k) k).complaint? ≠
        none :=
      fun nothing => reported (Option.map_eq_none_iff.mp nothing)
    refine ⟨_, _, conduct_trial_of_isLeast first, rfl, rfl, rfl, ?_, ?_, ?_, ?_, ?_⟩
    · exact iff_of_false Bool.false_ne_true fun agree => deviates (agree k within)
    · exact iff_of_false Bool.false_ne_true reported
    · exact iff_of_false Bool.false_ne_true complained
    · exact nofun
    · exact fun _ => ⟨k, first, rfl, rfl⟩

/-- Of four runs the third is the first that deviates: it is the last one made, although the fourth
agrees again. -/
theorem trial_reports_first_deviation_sample :
    let output (i : Nat) := if i = 2 then "a\nc" else "a\nb"
    2 ≤ 4 ∧ (trial 1).conduct output = (.error tooFewRuns, 0) ∧
      ∃ r, (trial 4).conduct output = (.ok r, 3) ∧ r.isDeterministic = false ∧
        r.difference = some ⟨2, some "b", some "c", 2⟩ := by
  intro output
  obtain ⟨refused, -⟩ := trial_reports_first_deviation output 1
  obtain ⟨-, made⟩ := trial_reports_first_deviation output 4
  obtain ⟨r, count, outcome, -, -, -, agree, -, -, -, deviates⟩ := made (by decide)
  have flag : r.isDeterministic = false := by
    refine Bool.eq_false_iff.mpr fun deterministic => ?_
    exact absurd (agree.mp deterministic 2 (by decide)) (by decide)
  obtain ⟨k, first, difference, rfl⟩ := deviates flag
  have third : k = 2 := first.unique (by
    refine ⟨by decide, ?_⟩
    rintro i ⟨later, -, unlike⟩
    have notFirst : i ≠ 1 := by
      rintro rfl
      exact unlike rfl
    omega)
  subst third
  exact ⟨by decide, refused (by decide), r, outcome, flag, difference.trans (by decide)⟩

end HandlerWiring
