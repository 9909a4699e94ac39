import Mathlib.Data.List.TakeWhile
import HandlerWiring.Text.Basic

/-!
# What trimming leaves

A text is what trimming leaves of it, with blanks on both sides. Trimming finds a text again among
blanks if the text itself neither starts nor ends with one; how many blanks there are, and which,
does not matter. What trimming leaves is such a text, so a second trimming changes nothing.
-/

namespace HandlerWiring.Text

/-- Nothing but blanks. -/
def AreBlank (cs : List Char) : Prop := ∀ c ∈ cs, isBlank c = true

instance (cs : List Char) : Decidable (AreBlank cs) :=
  decidable_of_iff (cs.all isBlank = true) List.all_eq_true

/-- A text that neither starts nor ends with a blank. -/
structure Unpadded (cs : List Char) : Prop where
  first : ∀ c ∈ cs.head?, isBlank c = false
  last : ∀ c ∈ cs.getLast?, isBlank c = false

instance (cs : List Char) : Decidable (Unpadded cs) :=
  decidable_of_iff
    (cs.head?.all (!isBlank ·) = true ∧ cs.getLast?.all (!isBlank ·) = true) <| by
      simp only [Option.all_eq_true, Bool.not_eq_true']
      exact ⟨fun h => ⟨h.1, h.2⟩, fun h => ⟨h.first, h.last⟩⟩

variable {cs before behind : List Char}

/-- A text without blanks neither starts nor ends with one. -/
theorem Unpadded.of_noBlank (h : cs.any isBlank = false) : Unpadded cs := by
  have noBlank (c : Char) (among : c ∈ cs) : isBlank c = false :=
    Bool.eq_false_iff.mpr (List.any_eq_false.mp h c among)
  constructor
  · intro c first
    exact noBlank c (List.mem_of_mem_head? first)
  · intro c last
    exact noBlank c (List.mem_of_getLast? last)

/-- Texts that neither start nor end with a blank are put together to such a text. -/
theorem Unpadded.append {cs' : List Char} (h : Unpadded cs) (h' : Unpadded cs') :
    Unpadded (cs ++ cs') where
  first := by
    intro c first
    rw [List.head?_append, Option.mem_def, Option.or_eq_some_iff] at first
    rcases first with first | ⟨-, first⟩
    · exact h.first c first
    · exact h'.first c first
  last := by
    intro c last
    rw [List.getLast?_append, Option.mem_def, Option.or_eq_some_iff] at last
    rcases last with last | ⟨-, last⟩
    · exact h'.last c last
    · exact h.last c last

theorem areBlank_nil : AreBlank [] := fun _ among => (List.not_mem_nil among).elim

theorem AreBlank.reverse (h : AreBlank cs) : AreBlank cs.reverse :=
  fun c among => h c (List.mem_reverse.mp among)

/-! ## Blanks that are taken away -/

theorem trimStart_append (blank : AreBlank before) (cs : List Char) :
    trimStart (before ++ cs) = trimStart cs :=
  List.dropWhile_append_of_pos blank

theorem trimEnd_append (blank : AreBlank behind) (cs : List Char) :
    trimEnd (cs ++ behind) = trimEnd cs := by
  rw [trimEnd, trimEnd, List.reverse_append, List.dropWhile_append_of_pos blank.reverse]

/-- Blanks behind a text do not matter, even if there is nothing else in it. -/
theorem trim_append (blank : AreBlank behind) (cs : List Char) :
    trim (cs ++ behind) = trim cs := by
  unfold trim
  cases left : trimStart cs with
  | nil =>
    have blanks : AreBlank cs := List.dropWhile_eq_nil_iff.mp left
    have nothing : trimStart behind = [] := List.dropWhile_eq_nil_iff.mpr blank
    rw [trimStart_append blanks, nothing]
  | cons c rest =>
    have kept : trimStart (cs ++ behind) = trimStart cs ++ behind := by
      rw [trimStart, trimStart, List.dropWhile_append, if_neg]
      change ¬(trimStart cs).isEmpty = true
      rw [left]
      exact Bool.false_ne_true
    rw [kept, trimEnd_append blank, left]

/-! ## What is kept -/

theorem trimStart_eq_self (first : ∀ c ∈ cs.head?, isBlank c = false) : trimStart cs = cs := by
  cases cs with
  | nil => rfl
  | cons c cs =>
    have kept : isBlank c = false := first c rfl
    exact List.dropWhile_cons_of_neg (Bool.eq_false_iff.mp kept)

theorem trimEnd_eq_self (last : ∀ c ∈ cs.getLast?, isBlank c = false) : trimEnd cs = cs := by
  have reversed : trimStart cs.reverse = cs.reverse :=
    trimStart_eq_self (by rwa [List.head?_reverse])
  rw [trimStart] at reversed
  rw [trimEnd, reversed, List.reverse_reverse]

/-- A text is found again among blanks. -/
theorem trim_padded (h : Unpadded cs) (blank : AreBlank before) (blank' : AreBlank behind) :
    trim (before ++ cs ++ behind) = cs := by
  rw [trim_append blank', trim, trimStart_append blank, trimStart_eq_self h.first,
    trimEnd_eq_self h.last]

/-! ## What a text is made of -/

theorem exists_trimStart (cs : List Char) : ∃ before, AreBlank before ∧ cs = before ++ trimStart cs :=
  ⟨cs.takeWhile isBlank, fun _ among => List.mem_takeWhile_imp among,
    List.takeWhile_append_dropWhile.symm⟩

theorem exists_trimEnd (cs : List Char) : ∃ behind, AreBlank behind ∧ cs = trimEnd cs ++ behind := by
  obtain ⟨behind, blank, whole⟩ := exists_trimStart cs.reverse
  refine ⟨behind.reverse, blank.reverse, ?_⟩
  rw [trimStart] at whole
  rw [trimEnd, ← List.reverse_append, ← whole, List.reverse_reverse]

/-- A text is what trimming leaves of it, with blanks on both sides. -/
theorem exists_padding (cs : List Char) :
    ∃ before behind, AreBlank before ∧ AreBlank behind ∧ cs = before ++ trim cs ++ behind := by
  obtain ⟨before, blank, whole⟩ := exists_trimStart cs
  obtain ⟨behind, blank', rest⟩ := exists_trimEnd (trimStart cs)
  refine ⟨before, behind, blank, blank', ?_⟩
  rw [List.append_assoc, trim, ← rest]
  exact whole

/-! ## Trimmed texts -/

theorem first_trimStart (cs : List Char) : ∀ c ∈ (trimStart cs).head?, isBlank c = false := by
  intro c first
  have kept := List.head?_dropWhile_not isBlank cs
  rw [← trimStart, Option.mem_def.mp first] at kept
  exact kept

/-- What trimming leaves neither starts nor ends with a blank. -/
theorem unpadded_trim (cs : List Char) : Unpadded (trim cs) where
  first := by
    intro c first
    rw [trim] at first
    obtain ⟨behind, -, whole⟩ := exists_trimEnd (trimStart cs)
    -- It is the front of what is left behind the first blanks, so it starts like that.
    apply first_trimStart cs
    rw [whole, List.head?_append, Option.mem_def.mp first]
    rfl
  last := by
    intro c last
    apply first_trimStart (trimStart cs).reverse
    rwa [trim, trimEnd, List.getLast?_reverse] at last

theorem trim_eq_self (h : Unpadded cs) : trim cs = cs := by
  have padded := trim_padded h areBlank_nil areBlank_nil
  rwa [List.nil_append, List.append_nil] at padded

theorem trimmed_trimmed (s : String) : trimmed (trimmed s) = trimmed s := by
  rw [trimmed, trimmed, String.toList_ofList, trim_eq_self (unpadded_trim s.toList)]

/-- Trimming leaves nothing of blanks, and of nothing else. -/
theorem trim_eq_nil_iff : trim cs = [] ↔ AreBlank cs := by
  constructor
  · intro nothing
    obtain ⟨before, behind, blank, blank', whole⟩ := exists_padding cs
    rw [nothing, List.append_nil] at whole
    rw [whole]
    intro c among
    exact (List.mem_append.mp among).elim (blank c) (blank' c)
  · intro blank
    have padding := trim_append blank []
    rwa [List.nil_append, trim_nil] at padding

theorem trimmed_eq_empty_iff {s : String} : trimmed s = "" ↔ AreBlank s.toList := by
  rw [trimmed, ← String.toList_inj, String.toList_ofList]
  exact trim_eq_nil_iff

theorem trimmed_padded {s before behind : String} (h : Unpadded s.toList)
    (blank : AreBlank before.toList) (blank' : AreBlank behind.toList) :
    trimmed (before ++ s ++ behind) = s := by
  rw [trimmed, String.toList_append, String.toList_append, trim_padded h blank blank',
    String.ofList_toList]

theorem exists_trimmed_padding (s : String) :
    ∃ before behind : String, AreBlank before.toList ∧ AreBlank behind.toList ∧
      s = before ++ trimmed s ++ behind := by
  obtain ⟨before, behind, blank, blank', whole⟩ := exists_padding s.toList
  refine ⟨String.ofList before, String.ofList behind, ?_, ?_, ?_⟩
  · rwa [String.toList_ofList]
  · rwa [String.toList_ofList]
  · rw [← String.toList_inj, trimmed, String.toList_append, String.toList_append,
      String.toList_ofList, String.toList_ofList, String.toList_ofList]
    exact whole

end HandlerWiring.Text
