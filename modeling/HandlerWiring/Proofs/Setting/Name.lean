import HandlerWiring.Proofs.Setting.Resolution
import HandlerWiring.Proofs.Text.Pieces

/-!
# Resolved names

Whatever the sources hold, the names of what is synthesized are made of words: the access modifier
is one of two, the class has a word for its name, and the namespace is words with dots between. So
none of the three has a character that opens, closes, quotes, ends or comments out code.

That a word starts with a letter or an underscore is checked and not used here. A word may be one
that the host language reserves; nothing says otherwise.
-/

namespace HandlerWiring

/-- Letters, numbers and underscores, at least one. -/
structure IsWord (s : String) : Prop where
  nonempty : s ≠ ""
  plain : ∀ c ∈ s.toList, Text.isAlphanumeric c = true ∨ c = '_'

/-- Words with dots between, at least one. -/
def IsDotted (s : String) : Prop :=
  ∃ words : List String, words ≠ [] ∧ (∀ word ∈ words, IsWord word) ∧
    s = String.intercalate "." words

/-- The access modifier is one of two, the other names are words or words with dots between. -/
structure Names.Plain (n : Names) : Prop where
  accessModifier : n.accessModifier = "public" ∨ n.accessModifier = "internal"
  className : IsWord n.className
  namespaceName : IsDotted n.namespaceName

/-! ## What the settings accept -/

theorem continuesIdentifier_iff {c : Char} :
    continuesIdentifier c = true ↔ Text.isAlphanumeric c = true ∨ c = '_' := by
  rw [continuesIdentifier, Bool.or_eq_true, beq_iff_eq]

/-- What may start an identifier may also continue one. -/
theorem continuesIdentifier_of_starts {c : Char} (h : startsIdentifier c = true) :
    continuesIdentifier c = true := by
  rw [startsIdentifier, Bool.or_eq_true] at h
  rw [continuesIdentifier, Text.isAlphanumeric, Bool.or_eq_true, Bool.or_eq_true]
  exact h.imp_left .inl

/-- An identifier is a word. -/
theorem isWord_of_isIdentifier {s : String} (h : isIdentifier s.toList = true) : IsWord s := by
  cases spelt : s.toList with
  | nil =>
    rw [spelt] at h
    cases h
  | cons c cs =>
    rw [spelt, isIdentifier, Bool.and_eq_true, List.all_eq_true] at h
    obtain ⟨starts, continues⟩ := h
    constructor
    · rintro rfl
      cases spelt
    · intro d among
      rw [spelt] at among
      rcases List.mem_cons.mp among with rfl | among
      · exact continuesIdentifier_iff.mp (continuesIdentifier_of_starts starts)
      · exact continuesIdentifier_iff.mp (continues d among)

/-- The parts of a dotted name. -/
def dottedParts (s : String) : List String := (Text.piecesAt '.' s.toList).map String.ofList

theorem dottedParts_ne_nil (s : String) : dottedParts s ≠ [] := by
  rw [dottedParts, Ne, List.map_eq_nil_iff, Text.piecesAt_eq_splitOn]
  exact List.splitOn_ne_nil '.' s.toList

theorem intercalate_dottedParts (s : String) : String.intercalate "." (dottedParts s) = s := by
  rw [← String.toList_inj, String.toList_intercalate, dottedParts, List.map_map,
    Text.piecesAt_eq_splitOn]
  simp only [Function.comp_def, String.toList_ofList, List.map_id']
  exact List.intercalate_splitOn '.'

/-- The parts of an accepted namespace are accepted names. -/
theorem isIdentifier_of_mem_dottedParts {s part : String}
    (accepted : Setting.namespaceName.accepts s = true) (among : part ∈ dottedParts s) :
    isIdentifier part.toList = true := by
  obtain ⟨cs, piece, rfl⟩ := List.mem_map.mp among
  rw [Setting.accepts, List.all_eq_true] at accepted
  rw [String.toList_ofList]
  exact accepted cs piece

/-- Identifiers with dots between are words with dots between. -/
theorem isDotted_of_accepts {s : String} (h : Setting.namespaceName.accepts s = true) :
    IsDotted s := by
  refine ⟨dottedParts s, dottedParts_ne_nil s, ?_, (intercalate_dottedParts s).symm⟩
  intro word among
  exact isWord_of_isIdentifier (isIdentifier_of_mem_dottedParts h among)

/-- The names from any two sources are plain. -/
theorem Names.plain_resolve (sources : Sources) : (Names.resolve sources).value.Plain where
  accessModifier := by
    have accepted := Setting.accessModifier.accepts_resolve sources
    rw [Setting.accepts, Bool.or_eq_true, beq_iff_eq, beq_iff_eq] at accepted
    exact accepted
  className := isWord_of_isIdentifier (Setting.className.accepts_resolve sources)
  namespaceName := isDotted_of_accepts (Setting.namespaceName.accepts_resolve sources)

theorem Names.Plain.accessModifier_ne {n : Names} (h : n.Plain) : n.accessModifier ≠ "" := by
  rcases h.accessModifier with written | written
  · rw [written]
    decide
  · rw [written]
    decide

/-! ## What is in no name -/

/-- The characters that structure code: braces, the ends of lines, quotes, the semicolon, and what
comments are made of. The backslash is a slash in some paths. -/
def codeMarks : List Char :=
  ['\x7b', '\x7d', '\n', '\r', '\u0085', '\u2028', '\u2029', '"', '\'', ';', '/', '*', '\\']

/-- A text that has none of them. -/
def MarkFree (s : String) : Prop := ∀ c ∈ s.toList, c ∉ codeMarks

instance (s : String) : Decidable (MarkFree s) := List.decidableBAll (· ∉ codeMarks) s.toList

/-- No identifier has one of them. -/
theorem continuesIdentifier_of_mem_codeMarks {c : Char} (h : c ∈ codeMarks) :
    continuesIdentifier c = false := by
  have checked : (codeMarks.all fun c => !continuesIdentifier c) = true := by decide +kernel
  exact Bool.not_eq_true' _ ▸ List.all_eq_true.mp checked c h

theorem MarkFree.append {s t : String} (hs : MarkFree s) (ht : MarkFree t) : MarkFree (s ++ t) := by
  intro c among
  rw [String.toList_append] at among
  exact (List.mem_append.mp among).elim (hs c) (ht c)

theorem MarkFree.intercalate {separator : String} (h : MarkFree separator) {parts : List String}
    (each : ∀ part ∈ parts, MarkFree part) : MarkFree (String.intercalate separator parts) := by
  intro c among mark
  have free (part : String) (member : part ∈ parts) : c ∉ part.toList :=
    fun inPart => each part member c inPart mark
  exact Text.not_mem_intercalate (fun between => h c between mark) free among

theorem IsWord.markFree {s : String} (h : IsWord s) : MarkFree s := by
  intro c among mark
  have continues := continuesIdentifier_iff.mpr (h.plain c among)
  rw [continuesIdentifier_of_mem_codeMarks mark] at continues
  cases continues

theorem IsDotted.markFree {s : String} (h : IsDotted s) : MarkFree s := by
  obtain ⟨words, -, each, rfl⟩ := h
  exact MarkFree.intercalate (by decide) fun word among => (each word among).markFree

theorem IsDotted.nonempty {s : String} (h : IsDotted s) : s ≠ "" := by
  obtain ⟨words, nonempty, each, rfl⟩ := h
  obtain ⟨word, rest, rfl⟩ := List.exists_cons_of_ne_nil nonempty
  have spelt : word ≠ "" := (each word List.mem_cons_self).nonempty
  cases rest with
  | nil => exact spelt
  | cons next rest =>
    rw [String.intercalate_cons_cons]
    intro empty
    exact spelt (String.append_eq_empty_iff.mp (String.append_eq_empty_iff.mp empty).1).1

/-- None of the names has a character that structures code. -/
theorem Names.Plain.markFree {n : Names} (h : n.Plain) :
    MarkFree n.accessModifier ∧ MarkFree n.className ∧ MarkFree n.namespaceName := by
  refine ⟨?_, h.className.markFree, h.namespaceName.markFree⟩
  rcases h.accessModifier with written | written
  · rw [written]
    decide
  · rw [written]
    decide

end HandlerWiring
