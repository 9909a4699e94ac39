import HandlerWiring.Proofs.Setting.Name
import HandlerWiring.Proofs.Text.Category

/-!
# Names as identifiers of the host language

An identifier of the host language starts with a letter or an underscore, goes on with these,
digits, marks, connecting punctuation and formatting characters, and is no reserved word. A name
that a setting accepts need not be one: the check of characters goes by `Alphabetic` and by all
numbers, and nothing is compared with the reserved words. Here is which accepted names are no
identifiers, and that all others are.

That some identifiers are not accepted, those with marks that are not `Alphabetic` for example, is
not said here.
-/

namespace HandlerWiring

open Text (Category category?)

/-! ## The grammar -/

namespace HostName

/-- The words that the host language reserves. -/
def reservedWords : List String :=
  ["abstract", "as", "base", "bool", "break", "byte", "case", "catch", "char", "checked", "class",
    "const", "continue", "decimal", "default", "delegate", "do", "double", "else", "enum", "event",
    "explicit", "extern", "false", "finally", "fixed", "float", "for", "foreach", "goto", "if",
    "implicit", "in", "int", "interface", "internal", "is", "lock", "long", "namespace", "new",
    "null", "object", "operator", "out", "override", "params", "private", "protected", "public",
    "readonly", "ref", "return", "sbyte", "sealed", "short", "sizeof", "stackalloc", "static",
    "string", "struct", "switch", "this", "throw", "true", "try", "typeof", "uint", "ulong",
    "unchecked", "unsafe", "ushort", "using", "virtual", "void", "volatile", "while"]

/-- The categories that an identifier may start with. -/
def startCategories : List Category := [.letter, .letterNumber]

/-- The categories that an identifier may go on with. The underscore has one of them. -/
def partCategories : List Category :=
  startCategories ++ [.decimal, .mark, .connector, .format]

/-- A character that an identifier may start with. -/
def IsStart (c : Char) : Prop := c = '_' ∨ ∃ k ∈ startCategories, category? c = some k

/-- A character that an identifier may go on with. -/
def IsPart (c : Char) : Prop := ∃ k ∈ partCategories, category? c = some k

/-- An identifier of the host language. -/
structure IsIdentifier (s : String) : Prop where
  /-- There is a first character, and it may start one. -/
  start : ∃ c, s.toList.head? = some c ∧ IsStart c
  /-- What follows may follow. -/
  parts : ∀ c ∈ s.toList.tail, IsPart c
  /-- It is not reserved. -/
  free : s ∉ reservedWords

instance (c : Char) : Decidable (IsStart c) := inferInstanceAs (Decidable (_ ∨ _))

instance (c : Char) : Decidable (IsPart c) := inferInstanceAs (Decidable (∃ k ∈ _, _))

theorem isIdentifier_iff {s : String} :
    IsIdentifier s ↔ s.toList.head?.any (IsStart ·) = true ∧ s.toList.tail.all (IsPart ·) = true ∧
      s ∉ reservedWords := by
  rw [Option.any_eq_true, List.all_eq_true]
  simp only [decide_eq_true_eq]
  constructor
  · intro h
    exact ⟨h.start, h.parts, h.free⟩
  · rintro ⟨start, parts, free⟩
    exact ⟨start, parts, free⟩

instance (s : String) : Decidable (IsIdentifier s) := decidable_of_iff' _ isIdentifier_iff

theorem category?_underscore : category? '_' = some .connector := by decide +kernel

theorem IsStart.isPart {c : Char} (h : IsStart c) : IsPart c := by
  rcases h with rfl | ⟨k, among, found⟩
  · exact ⟨.connector, by decide, category?_underscore⟩
  · exact ⟨k, List.mem_append_left _ among, found⟩

theorem IsPart.category?_ne {c : Char} {k : Category} (h : IsPart c) (foreign : k ∉ partCategories) :
    category? c ≠ some k := by
  obtain ⟨other, among, found⟩ := h
  intro same
  cases found.symm.trans same
  exact foreign among

theorem not_isPart_dot : ¬IsPart '.' := by
  have none : category? '.' = none := by decide +kernel
  rintro ⟨k, -, found⟩
  rw [none] at found
  cases found

/-- Every character of an identifier is one that it may go on with. -/
theorem IsIdentifier.isPart {s : String} (h : IsIdentifier s) {c : Char} (among : c ∈ s.toList) :
    IsPart c := by
  obtain ⟨first, found, start⟩ := h.start
  obtain ⟨rest, spelt⟩ := List.head?_eq_some_iff.mp found
  rw [spelt] at among
  rcases List.mem_cons.mp among with rfl | among
  · exact start.isPart
  · apply h.parts
    rw [spelt]
    exact among

end HostName

/-! ## Accepted names -/

open HostName

/-- A name that is accepted although it is no identifier. -/
inductive IsMisfit (s : String) : Prop where
  /-- It is a reserved word. -/
  | reserved (word : s ∈ reservedWords)
  /-- It starts with a combining mark. -/
  | markFirst {c : Char} (first : s.toList.head? = some c) (mark : category? c = some .mark)
  /-- It has a letter in a circle or square. -/
  | enclosed {c : Char} (among : c ∈ s.toList) (letter : category? c = some .enclosedLetter)
  /-- It has a number that is neither a digit nor made of letters. -/
  | number {c : Char} (among : c ∈ s.toList) (other : category? c = some .otherNumber)

/-- What is checked of a first character lets marks and letters in circles through. -/
theorem category_of_startsIdentifier {c : Char} (h : startsIdentifier c = true) :
    IsStart c ∨ category? c = some .mark ∨ category? c = some .enclosedLetter := by
  rw [startsIdentifier, Bool.or_eq_true, beq_iff_eq] at h
  rcases h with alphabetic | rfl
  · obtain ⟨k, among, found⟩ := Text.category?_of_isAlphabetic alphabetic
    rw [found]
    cases k with
    | letter => exact .inl (.inr ⟨.letter, by decide, found⟩)
    | letterNumber => exact .inl (.inr ⟨.letterNumber, by decide, found⟩)
    | mark => exact .inr (.inl rfl)
    | enclosedLetter => exact .inr (.inr rfl)
    | _ => exact absurd among (by decide)
  · exact .inl (.inl rfl)

/-- What is checked of a further character lets letters in circles and all numbers through. -/
theorem category_of_continuesIdentifier {c : Char} (h : continuesIdentifier c = true) :
    IsPart c ∨ category? c = some .enclosedLetter ∨ category? c = some .otherNumber := by
  rcases continuesIdentifier_iff.mp h with alphanumeric | rfl
  · obtain ⟨k, among, found⟩ := Text.category?_of_isAlphanumeric alphanumeric
    by_cases allowed : k ∈ partCategories
    · exact .inl ⟨k, allowed, found⟩
    · rw [found]
      cases k with
      | enclosedLetter => exact .inr (.inl rfl)
      | otherNumber => exact .inr (.inr rfl)
      | _ => exact absurd (by decide) allowed
  · exact .inl (IsStart.isPart (.inl rfl))

/-- No identifier is a misfit. -/
theorem HostName.IsIdentifier.not_isMisfit {s : String} (h : IsIdentifier s) : ¬IsMisfit s := by
  intro misfit
  cases misfit with
  | reserved word => exact h.free word
  | markFirst first mark =>
    obtain ⟨c, found, start⟩ := h.start
    cases found.symm.trans first
    rcases start with rfl | ⟨k, among, found⟩
    · cases category?_underscore.symm.trans mark
    · cases found.symm.trans mark
      exact absurd among (by decide)
  | enclosed among letter => exact (h.isPart among).category?_ne (by decide) letter
  | number among other => exact (h.isPart among).category?_ne (by decide) other

/-- An accepted name that is no misfit is an identifier. -/
theorem isIdentifier_of_not_isMisfit {s : String} (accepted : isIdentifier s.toList = true)
    (fit : ¬IsMisfit s) : IsIdentifier s := by
  cases spelt : s.toList with
  | nil =>
    rw [spelt] at accepted
    cases accepted
  | cons c cs =>
    rw [spelt, isIdentifier, Bool.and_eq_true, List.all_eq_true] at accepted
    obtain ⟨starts, continues⟩ := accepted
    have first : s.toList.head? = some c := by rw [spelt, List.head?_cons]
    have among (d : Char) (later : d ∈ cs) : d ∈ s.toList := by
      rw [spelt]
      exact List.mem_cons_of_mem c later
    refine ⟨⟨c, first, ?_⟩, ?_, fun word => fit (.reserved word)⟩
    · rcases category_of_startsIdentifier starts with start | mark | enclosed
      · exact start
      · exact absurd (.markFirst first mark) fit
      · exact absurd (.enclosed (List.mem_of_head? first) enclosed) fit
    · intro d later
      rw [spelt, List.tail_cons] at later
      rcases category_of_continuesIdentifier (continues d later) with part | enclosed | number
      · exact part
      · exact absurd (.enclosed (among d later) enclosed) fit
      · exact absurd (.number (among d later) number) fit

/-- An accepted name is an identifier unless it is a misfit. -/
theorem isIdentifier_iff_not_isMisfit {s : String} (accepted : isIdentifier s.toList = true) :
    IsIdentifier s ↔ ¬IsMisfit s := by
  constructor
  · exact IsIdentifier.not_isMisfit
  · exact isIdentifier_of_not_isMisfit accepted

end HandlerWiring
