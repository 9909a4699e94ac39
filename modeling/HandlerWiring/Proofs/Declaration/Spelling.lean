import HandlerWiring.Declaration.Interface
import HandlerWiring.Proofs.Text.Blank

/-!
# How a definition may be spelt

Hosts export the name of a generic definition among blanks, perhaps under the global alias, and
perhaps with a generic suffix: a mark and anything behind it. `DefinitionSpelling` lists these
spellings. A definition has a bare name exactly if it is a spelling of that name
(`definitionName_eq_iff`), so all spellings of one bare name are one definition.

A name that has the alias, a mark or an outer blank itself is not bare; it is not found again in its
spellings.
-/

namespace HandlerWiring

open Text (AreBlank Unpadded)

/-- The qualifier that a name may have at its start. -/
def globalAlias : List Char := "global::".toList

/-- What may stand behind the bare name of a definition: nothing, or a mark with anything behind
it. -/
def IsGenericSuffix (cs : List Char) : Prop :=
  cs = [] ∨ ∃ mark rest, (mark = '<' ∨ mark = '`') ∧ cs = mark :: rest

/-- A text spells the definition of a name: blanks, perhaps the global alias, blanks, the name,
blanks, and perhaps a generic suffix. -/
inductive DefinitionSpelling (name : List Char) : List Char → Prop
  | intro {before qualifier between behind suffix : List Char} (blankBefore : AreBlank before)
      (qualified : qualifier = [] ∨ qualifier = globalAlias) (blankBetween : AreBlank between)
      (blankBehind : AreBlank behind) (generic : IsGenericSuffix suffix) :
    DefinitionSpelling name (before ++ qualifier ++ between ++ name ++ behind ++ suffix)

/-- A name without the marks of a generic suffix, blanks around it or the global alias. -/
structure IsBareName (name : List Char) : Prop where
  unmarked : '<' ∉ name ∧ '`' ∉ name
  unpadded : Unpadded name
  unqualified : ¬globalAlias <+: name

/-! ## Marks and blanks -/

theorem endsDefinition_iff {c : Char} : endsDefinition c = true ↔ c = '<' ∨ c = '`' := by
  rw [endsDefinition, Bool.or_eq_true, beq_iff_eq, beq_iff_eq]

/-- No blank is the mark of a generic suffix. -/
theorem endsDefinition_of_isBlank {c : Char} (blank : Text.isBlank c = true) :
    endsDefinition c = false := by
  rw [Bool.eq_false_iff, Ne, endsDefinition_iff]
  rintro (rfl | rfl)
  · exact absurd blank (by decide)
  · exact absurd blank (by decide)

theorem IsBareName.noMark {name : List Char} (bare : IsBareName name) :
    ∀ c ∈ name, endsDefinition c = false := by
  intro c among
  rw [Bool.eq_false_iff, Ne, endsDefinition_iff]
  rintro (rfl | rfl)
  · exact bare.unmarked.1 among
  · exact bare.unmarked.2 among

/-- What stands before the first mark of a generic suffix. -/
def beforeMark (cs : List Char) : List Char := cs.takeWhile fun c => !endsDefinition c

/-- Behind what has no mark, a suffix is cut off. -/
theorem beforeMark_append {front suffix : List Char}
    (unmarked : ∀ c ∈ front, endsDefinition c = false) (generic : IsGenericSuffix suffix) :
    beforeMark (front ++ suffix) = front := by
  have passes : ∀ c ∈ front, (!endsDefinition c) = true :=
    fun c among => Bool.not_eq_true' _ ▸ unmarked c among
  rw [beforeMark, List.takeWhile_append_of_pos passes]
  rcases generic with rfl | ⟨mark, rest, marked, rfl⟩
  · rw [List.takeWhile_nil, List.append_nil]
  · rw [List.takeWhile_cons_of_neg, List.append_nil]
    rw [endsDefinition_iff.mpr marked]
    exact Bool.false_ne_true

/-- Behind what stands before the first mark there is nothing or a suffix. -/
theorem exists_beforeMark (cs : List Char) :
    ∃ suffix, IsGenericSuffix suffix ∧ cs = beforeMark cs ++ suffix := by
  refine ⟨cs.dropWhile fun c => !endsDefinition c, ?_, List.takeWhile_append_dropWhile.symm⟩
  have stops := List.head?_dropWhile_not (fun c => !endsDefinition c) cs
  cases left : cs.dropWhile fun c => !endsDefinition c with
  | nil => exact .inl rfl
  | cons mark rest =>
    rw [left] at stops
    have marked : (!endsDefinition mark) = false := stops
    rw [Bool.not_eq_false'] at marked
    exact .inr ⟨mark, rest, endsDefinition_iff.mp marked, rfl⟩

/-! ## The alias -/

/-- A text without the global alias at its very start. -/
def withoutQualifier (cs : List Char) : List Char :=
  if globalAlias.isPrefixOf cs then cs.drop globalAlias.length else cs

theorem withoutQualifier_append (cs : List Char) : withoutQualifier (globalAlias ++ cs) = cs := by
  rw [withoutQualifier, if_pos (List.isPrefixOf_iff_prefix.mpr (List.prefix_append _ _)),
    List.drop_left]

theorem withoutQualifier_of_unqualified {cs : List Char} (h : ¬globalAlias <+: cs) :
    withoutQualifier cs = cs := by
  rw [withoutQualifier, if_neg (mt List.isPrefixOf_iff_prefix.mp h)]

/-- A text has the alias in front of what is left without it, or is left as it is. -/
theorem exists_qualifier (cs : List Char) :
    ∃ qualifier, (qualifier = [] ∨ qualifier = globalAlias) ∧
      cs = qualifier ++ withoutQualifier cs := by
  by_cases qualified : globalAlias <+: cs
  · obtain ⟨rest, rfl⟩ := qualified
    exact ⟨globalAlias, .inr rfl, by rw [withoutQualifier_append]⟩
  · exact ⟨[], .inl rfl, by rw [withoutQualifier_of_unqualified qualified, List.nil_append]⟩

/-- The alias does not arise from the start of a name and what may stand behind the name. -/
theorem not_qualified_append {name behind suffix : List Char} (unqualified : ¬globalAlias <+: name)
    (blank : AreBlank behind) (generic : IsGenericSuffix suffix) :
    ¬globalAlias <+: name ++ (behind ++ suffix) := by
  rintro ⟨rest, whole⟩
  rcases List.append_eq_append_iff.mp whole with ⟨more, spelt, -⟩ | ⟨reach, spelt, there⟩
  · exact unqualified ⟨more, spelt.symm⟩
  -- The alias would reach beyond the name, to a character that it does not have.
  cases reach with
  | nil => exact unqualified ⟨[], by rw [List.append_nil, spelt, List.append_nil]⟩
  | cons c reach =>
    have inAlias : c ∈ globalAlias := spelt ▸ List.mem_append_right name List.mem_cons_self
    cases behind with
    | nil =>
      rcases generic with rfl | ⟨mark, rest', marked, rfl⟩
      · cases there
      · obtain ⟨rfl, -⟩ := List.cons.inj there
        rcases marked with rfl | rfl
        · exact absurd inAlias (by decide)
        · exact absurd inAlias (by decide)
    | cons d behind =>
      obtain ⟨rfl, -⟩ := List.cons.inj there
      have noBlank : globalAlias.any Text.isBlank = false := by decide
      exact List.any_eq_false.mp noBlank d inAlias (blank d List.mem_cons_self)

/-! ## The bare name -/

/-- The alias is found whether or not the blanks behind a definition are taken away first. -/
theorem withoutQualifier_trimStart (cs : List Char) :
    ∃ behind, AreBlank behind ∧
      withoutQualifier (Text.trimStart cs) = withoutAlias cs ++ behind := by
  have trimmed : withoutAlias cs = withoutQualifier (Text.trimEnd (Text.trimStart cs)) := rfl
  obtain ⟨behind, blank, whole⟩ := Text.exists_trimEnd (Text.trimStart cs)
  refine ⟨behind, blank, ?_⟩
  rw [trimmed]
  generalize Text.trimEnd (Text.trimStart cs) = kept at whole
  rw [whole]
  by_cases qualified : globalAlias <+: kept
  · obtain ⟨rest, rfl⟩ := qualified
    rw [List.append_assoc, withoutQualifier_append, withoutQualifier_append]
  · have still := not_qualified_append qualified blank (.inl rfl)
    rw [List.append_nil] at still
    rw [withoutQualifier_of_unqualified qualified, withoutQualifier_of_unqualified still]

/-- Blanks behind a text do not matter for what stands before its first mark, once that is
trimmed. -/
theorem trim_beforeMark_append {behind : List Char} (blank : AreBlank behind) (cs : List Char) :
    Text.trim (beforeMark (cs ++ behind)) = Text.trim (beforeMark cs) := by
  obtain ⟨suffix, generic, whole⟩ := exists_beforeMark cs
  have unmarked : ∀ c ∈ beforeMark cs, endsDefinition c = false := by
    intro c among
    have passed := List.mem_takeWhile_imp among
    rwa [Bool.not_eq_true'] at passed
  rcases generic with rfl | ⟨mark, rest, marked, rfl⟩
  · have front : ∀ c ∈ beforeMark cs ++ behind, endsDefinition c = false := by
      intro c among
      rcases List.mem_append.mp among with among | among
      · exact unmarked c among
      · exact endsDefinition_of_isBlank (blank c among)
    have same : beforeMark (beforeMark cs ++ behind) = beforeMark cs ++ behind := by
      simpa only [List.append_nil] using beforeMark_append front (.inl rfl)
    rw [List.append_nil] at whole
    rw [← whole] at same
    rw [same, Text.trim_append blank, ← whole]
  · have generic : IsGenericSuffix (mark :: rest ++ behind) :=
      .inr ⟨mark, rest ++ behind, marked, rfl⟩
    have same := beforeMark_append unmarked generic
    rw [← List.append_assoc, ← whole] at same
    rw [same]

namespace Interface

/-- The bare name is what stands before the first mark, without the alias and the blanks. -/
theorem toList_definitionName (i : Interface) :
    i.definitionName.toList =
      Text.trim (beforeMark (withoutQualifier (Text.trimStart i.definition.toList))) := by
  obtain ⟨behind, blank, whole⟩ := withoutQualifier_trimStart i.definition.toList
  rw [whole, trim_beforeMark_append blank, definitionName, String.toList_ofList]
  rfl

/-- A definition spells its bare name. -/
theorem spells_definitionName (i : Interface) :
    DefinitionSpelling i.definitionName.toList i.definition.toList := by
  rw [toList_definitionName]
  obtain ⟨before, blankBefore, start⟩ := Text.exists_trimStart i.definition.toList
  obtain ⟨qualifier, qualified, rest⟩ := exists_qualifier (Text.trimStart i.definition.toList)
  generalize Text.trimStart i.definition.toList = trimmed at start rest ⊢
  obtain ⟨suffix, generic, front⟩ := exists_beforeMark (withoutQualifier trimmed)
  generalize withoutQualifier trimmed = unqualified at rest front ⊢
  obtain ⟨between, behind, blankBetween, blankBehind, name⟩ :=
    Text.exists_padding (beforeMark unqualified)
  have whole : i.definition.toList =
      before ++ qualifier ++ between ++ Text.trim (beforeMark unqualified) ++ behind ++ suffix :=
    calc i.definition.toList = before ++ (qualifier ++ unqualified) := by rw [start, rest]
      _ = before ++ (qualifier ++
            (between ++ Text.trim (beforeMark unqualified) ++ behind ++ suffix)) := by
          rw [← name, ← front]
      _ = _ := by simp only [List.append_assoc]
  rw [whole]
  exact .intro blankBefore qualified blankBetween blankBehind generic

end Interface

/-- Blanks in front of a bare name and what follows it can be taken away, and no others but those
right behind an empty name. -/
theorem IsBareName.trimStart_append {name behind suffix : List Char} (bare : IsBareName name)
    (blank : AreBlank behind) (generic : IsGenericSuffix suffix) :
    ∃ kept, AreBlank kept ∧
      Text.trimStart (name ++ (behind ++ suffix)) = name ++ (kept ++ suffix) := by
  cases name with
  | nil =>
    have noBlanks : Text.trimStart suffix = suffix := by
      apply Text.trimStart_eq_self
      rcases generic with rfl | ⟨mark, rest, marked, rfl⟩
      · exact fun c among => (nomatch among)
      · rintro c ⟨⟩
        rcases marked with rfl | rfl
        · rfl
        · rfl
    refine ⟨[], Text.areBlank_nil, ?_⟩
    rw [List.nil_append, Text.trimStart_append blank, noBlanks]
    rfl
  | cons c rest => exact ⟨behind, blank, Text.trimStart_eq_self bare.unpadded.first⟩

/-- A bare name is found among blanks in front of a suffix. -/
theorem IsBareName.trim_beforeMark {name before behind suffix : List Char} (bare : IsBareName name)
    (blankBefore : AreBlank before) (blankBehind : AreBlank behind)
    (generic : IsGenericSuffix suffix) :
    Text.trim (beforeMark (before ++ (name ++ (behind ++ suffix)))) = name := by
  have unmarked : ∀ c ∈ before ++ name ++ behind, endsDefinition c = false := by
    intro c among
    rcases List.mem_append.mp among with among | among
    · rcases List.mem_append.mp among with among | among
      · exact endsDefinition_of_isBlank (blankBefore c among)
      · exact bare.noMark c among
    · exact endsDefinition_of_isBlank (blankBehind c among)
  have front := beforeMark_append unmarked generic
  simp only [List.append_assoc] at front
  rw [front, ← List.append_assoc]
  exact Text.trim_padded bare.unpadded blankBefore blankBehind

/-- A definition has a bare name exactly if it spells that name. -/
theorem Interface.definitionName_eq_iff {i : Interface} {name : String}
    (bare : IsBareName name.toList) :
    i.definitionName = name ↔ DefinitionSpelling name.toList i.definition.toList := by
  constructor
  · rintro rfl
    exact i.spells_definitionName
  intro spelt
  rw [← String.toList_inj, toList_definitionName]
  generalize i.definition.toList = written at spelt
  obtain @⟨before, qualifier, between, behind, suffix, blankBefore, qualified, blankBetween,
    blankBehind, generic⟩ := spelt
  simp only [List.append_assoc]
  rw [Text.trimStart_append blankBefore]
  rcases qualified with rfl | rfl
  · obtain ⟨kept, blank, rest⟩ := bare.trimStart_append blankBehind generic
    rw [List.nil_append, Text.trimStart_append blankBetween, rest,
      withoutQualifier_of_unqualified (not_qualified_append bare.unqualified blank generic)]
    have found := bare.trim_beforeMark Text.areBlank_nil blank generic
    rwa [List.nil_append] at found
  · have stays (cs : List Char) : Text.trimStart (globalAlias ++ cs) = globalAlias ++ cs := by
      apply Text.trimStart_eq_self
      rintro c ⟨⟩
      rfl
    rw [stays, withoutQualifier_append]
    exact bare.trim_beforeMark blankBetween blankBehind generic

end HandlerWiring
