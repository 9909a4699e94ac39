import HandlerWiring.Proofs.Unit.Mark

/-!
# Depth in a source

Open braces are counted in a text alone, character by character. Where laid out lines close only
what is open, and no text of theirs has a mark of the layout, the depth that a line is laid out at
is the number of braces that the text before it leaves open, and the line stands behind four spaces
for each.

The spaces of a line are those of its depth and whatever its own text begins with, so they tell the
depth of a line whose text does not begin with a space.
-/

namespace HandlerWiring.Unit

open Session (textOfLines)

/-! ## Open braces -/

/-- How many braces are open behind a character. A closing brace needs one to close. -/
def openBehindOne? (depth : Nat) (c : Char) : Option Nat :=
  if c = '\x7b' then some (depth + 1)
  else if c = '\x7d' then
    match depth with
    | 0 => none
    | outer + 1 => some outer
  else some depth

/-- How many braces are open behind a text, if so many were open before it and none is closed that
is not open. -/
def openBehind? (depth : Nat) (cs : List Char) : Option Nat := cs.foldlM openBehindOne? depth

theorem openBehind?_append {depth depth' : Nat} {before : List Char}
    (opened : openBehind? depth before = some depth') (behind : List Char) :
    openBehind? depth (before ++ behind) = openBehind? depth' behind := by
  unfold openBehind? at *
  rw [List.foldlM_append, opened]
  rfl

/-- A text without braces opens and closes none. -/
theorem openBehind?_of_not_mem {cs : List Char} (opening : '\x7b' ∉ cs) (closing : '\x7d' ∉ cs)
    (depth : Nat) : openBehind? depth cs = some depth := by
  induction cs with
  | nil => rfl
  | cons c cs ih =>
    obtain ⟨unlikeOpening, opening⟩ := List.ne_and_not_mem_of_not_mem_cons opening
    obtain ⟨unlikeClosing, closing⟩ := List.ne_and_not_mem_of_not_mem_cons closing
    have one : openBehindOne? depth c = some depth := by
      unfold openBehindOne?
      rw [if_neg unlikeOpening.symm, if_neg unlikeClosing.symm]
    rw [openBehind?, List.foldlM_cons, one]
    exact ih opening closing

theorem IsInline.openBehind?_eq {s : String} (h : IsInline s) (depth : Nat) :
    openBehind? depth s.toList = some depth :=
  openBehind?_of_not_mem (h _ (by decide)) (h _ (by decide)) depth

theorem openBehind?_lineText (depth outer : Nat) (s : String) :
    openBehind? depth (lineText outer s).toList = openBehind? depth s.toList := by
  rw [lineText, String.toList_append]
  exact openBehind?_append ((isInline_indentation outer).openBehind?_eq depth) s.toList

/-- What a line leaves open is open before the next one. -/
theorem openBehind?_textOfLines_cons {depth depth' : Nat} {line : String}
    (left : openBehind? depth line.toList = some depth') (rest : List String) :
    openBehind? depth (textOfLines (line :: rest)).toList =
      openBehind? depth' (textOfLines rest).toList := by
  have ending : openBehind? depth' "\n".toList = some depth' := rfl
  rw [textOfLines, String.toList_append, String.toList_append, List.append_assoc,
    openBehind?_append left, openBehind?_append ending]

/-! ## Lines at their depth -/

/-- A line changes what is open as it changes the depth, if it closes only what is open. -/
theorem Line.openBehind?_shown {depth : Nat} {line : Line}
    (inline : ∀ s, line = .text s → IsInline s) (closes : line = .closing → 0 < depth) :
    openBehind? depth (line.shown depth).toList = some (line.depthBehind depth) := by
  cases line with
  | text s =>
    rw [shown, openBehind?_lineText]
    exact (inline s rfl).openBehind?_eq depth
  | blank => rfl
  | opening =>
    rw [shown, openBehind?_lineText]
    rfl
  | closing =>
    obtain ⟨outer, rfl⟩ := Nat.exists_eq_add_one.mpr (closes rfl)
    rw [shown, openBehind?_lineText]
    rfl

/-- How a line of code stands where some braces are open: a text that is there behind the spaces of
the depth, an opening brace likewise, a closing brace behind those of the depth that it leads back
to. -/
def Line.StandsAt (depth : Nat) (shown : String) : Line → Prop
  | .text s => IsInline s ∧ s ≠ "" ∧ shown = lineText depth s
  | .blank => shown = ""
  | .opening => shown = lineText depth "\x7b"
  | .closing => ∃ outer, depth = outer + 1 ∧ shown = lineText outer "\x7d"

theorem Line.standsAt_shown {depth : Nat} {line : Line}
    (filled : ∀ s, line = .text s → IsInline s ∧ s ≠ "") (closes : line = .closing → 0 < depth) :
    line.StandsAt depth (line.shown depth) := by
  cases line with
  | text s => exact ⟨(filled s rfl).1, (filled s rfl).2, rfl⟩
  | blank => rfl
  | opening => rfl
  | closing =>
    obtain ⟨outer, rfl⟩ := Nat.exists_eq_add_one.mpr (closes rfl)
    exact ⟨outer, rfl, rfl⟩

/-! ## Lines that nest -/

theorem forall_text_cons {Q : String → Prop} {line : Line} {rest : List Line} :
    (∀ s, .text s ∈ line :: rest → Q s) ↔
      (∀ s, line = .text s → Q s) ∧ ∀ s, .text s ∈ rest → Q s := by
  simp only [List.mem_cons, or_imp, forall_and, eq_comm]

/-- Lines that lead from one depth to another and close only what is open. -/
inductive Nests : Nat → List Line → Nat → Prop
  | done (depth : Nat) : Nests depth [] depth
  | line {depth depth' : Nat} {line : Line} {rest : List Line}
      (closes : line = .closing → 0 < depth) (behind : Nests (line.depthBehind depth) rest depth') :
      Nests depth (line :: rest) depth'

namespace Nests

variable {depth depth' depth'' : Nat} {lines lines' : List Line}

theorem text (s : String) (behind : Nests depth lines depth') :
    Nests depth (.text s :: lines) depth' :=
  .line nofun behind

theorem blank (behind : Nests depth lines depth') : Nests depth (.blank :: lines) depth' :=
  .line nofun behind

theorem opening (behind : Nests (depth + 1) lines depth') :
    Nests depth (.opening :: lines) depth' :=
  .line nofun behind

theorem closing (behind : Nests depth lines depth') :
    Nests (depth + 1) (.closing :: lines) depth' :=
  .line (fun _ => Nat.succ_pos depth) behind

theorem append (h : Nests depth lines depth') (h' : Nests depth' lines' depth'') :
    Nests depth (lines ++ lines') depth'' := by
  induction h with
  | done depth => exact h'
  | line closes _ ih => exact .line closes (ih h')

/-- Lines that nest leave open what their depth says. -/
theorem openBehind?_eq (h : Nests depth lines depth') (inline : ∀ s, .text s ∈ lines → IsInline s) :
    openBehind? depth (textOfLines (indented depth lines)).toList = some depth' := by
  induction h with
  | done depth => rfl
  | @line depth depth' line rest closes _ ih =>
    obtain ⟨first, others⟩ := forall_text_cons.mp inline
    rw [indented_cons, openBehind?_textOfLines_cons (line.openBehind?_shown first closes)]
    exact ih others

/-- Each line stands at the depth that the text before it leaves open. -/
theorem standsAt (h : Nests depth lines depth')
    (filled : ∀ s, .text s ∈ lines → IsInline s ∧ s ≠ "") {before behind : List String}
    {shown : String} (cut : indented depth lines = before ++ shown :: behind) :
    ∃ depth' line, openBehind? depth (textOfLines before).toList = some depth' ∧
      lines[before.length]? = some line ∧ line.StandsAt depth' shown := by
  induction h generalizing before with
  | done depth => exact absurd cut.symm (List.append_ne_nil_of_right_ne_nil _ (List.cons_ne_nil _ _))
  | @line depth _ line rest closes _ ih =>
    obtain ⟨first, others⟩ := forall_text_cons.mp filled
    rw [indented_cons] at cut
    -- The line is the first one, or it stands in the rest and the first one is before it.
    cases before with
    | nil =>
      obtain ⟨rfl, -⟩ := List.cons.inj cut
      exact ⟨depth, line, rfl, rfl, line.standsAt_shown first closes⟩
    | cons heading before =>
      obtain ⟨rfl, tail⟩ := List.cons.inj cut
      obtain ⟨depth', line', left, found, stands⟩ := ih others tail
      have passed : openBehind? depth (line.shown depth).toList =
          some (line.depthBehind depth) :=
        line.openBehind?_shown (fun s same => (first s same).1) closes
      exact ⟨depth', line', (openBehind?_textOfLines_cons passed before).trans left, found, stands⟩

end Nests

/-! ## Closing what is open -/

/-- Laying out without a way to close a brace where none is open. -/
def layOut? : Nat → List Line → Option (List Char)
  | _, [] => some []
  | depth, .text s :: rest => (lineAt depth s.toList ++ ·) <$> layOut? depth rest
  | depth, .blank :: rest => ('\n' :: ·) <$> layOut? depth rest
  | depth, .opening :: rest => (lineAt depth ['\x7b'] ++ ·) <$> layOut? (depth + 1) rest
  | 0, .closing :: _ => none
  | outer + 1, .closing :: rest => (lineAt outer ['\x7d'] ++ ·) <$> layOut? outer rest

/-- Lines that nest are laid out without a depth that would be less than nothing. -/
theorem Nests.layOut?_eq {depth depth' : Nat} {lines : List Line} (h : Nests depth lines depth') :
    layOut? depth lines = some (layOut depth lines) := by
  induction h with
  | done depth => rfl
  | @line depth _ line rest closes _ ih =>
    cases line with
    | text s | blank | opening =>
      exact congrArg (Option.map _) ih
    | closing =>
      obtain ⟨outer, rfl⟩ := Nat.exists_eq_add_one.mpr (closes rfl)
      exact congrArg (Option.map _) ih

/-! ## Lines of a source -/

/-- The lines of a source, without what stands behind the last line feed. -/
def linesOf (source : String) : List String :=
  (Text.lines source.toList).dropLast.map String.ofList

theorem linesOf_textOfLines {texts : List String} (each : ∀ s ∈ texts, OneLine s) :
    linesOf (textOfLines texts) = texts := by
  rw [linesOf, Text.lines_textOfLines each, List.dropLast_concat, List.map_map]
  simp only [Function.comp_def, String.ofList_toList, List.map_id']

/-! ## Spaces before a line -/

/-- A text that begins with a space. -/
def StartsWithSpace (s : String) : Prop := s.toList.head? = some ' '

instance (s : String) : Decidable (StartsWithSpace s) :=
  inferInstanceAs (Decidable (s.toList.head? = some ' '))

theorem startsWithSpace_append {s t : String} (starts : StartsWithSpace (s ++ t)) :
    StartsWithSpace s ∨ s = "" ∧ StartsWithSpace t := by
  unfold StartsWithSpace at *
  rw [String.toList_append, List.head?_append] at starts
  cases first : s.toList.head? with
  | none =>
    rw [first] at starts
    exact .inr ⟨String.toList_eq_nil_iff.mp (List.head?_eq_none_iff.mp first), starts⟩
  | some c =>
    rw [first] at starts
    exact .inl starts

/-- How many spaces a text begins with. -/
def leadingSpaces (s : String) : Nat := (s.toList.takeWhile (· = ' ')).length

theorem leadingSpaces_lineText {s : String} (flush : ¬StartsWithSpace s) (depth : Nat) :
    leadingSpaces (lineText depth s) = 4 * depth := by
  have spaces : ∀ c ∈ indentation depth, decide (c = ' ') = true :=
    fun c among => decide_eq_true (List.mem_replicate.mp among).2
  have none : s.toList.takeWhile (· = ' ') = [] := by
    unfold StartsWithSpace at flush
    cases spelt : s.toList with
    | nil => rfl
    | cons c cs =>
      rw [spelt] at flush
      exact List.takeWhile_cons_of_neg fun same => flush (congrArg some (of_decide_eq_true same))
  rw [leadingSpaces, toList_lineText, List.takeWhile_append_of_pos spaces, none, List.append_nil,
    indentation, List.length_replicate]

/-- The spaces of a line that is there tell its depth, if its text does not begin with one. -/
theorem Line.StandsAt.leadingSpaces_eq {depth : Nat} {shown : String} {line : Line}
    (h : line.StandsAt depth shown) (flush : ∀ s, line = .text s → ¬StartsWithSpace s)
    (nonempty : shown ≠ "") :
    leadingSpaces shown = 4 * if '\x7d' ∈ shown.toList then depth - 1 else depth := by
  have indent (outer : Nat) : '\x7d' ∉ (String.ofList (indentation outer)).toList :=
    isInline_indentation outer _ (by decide)
  cases line with
  | text s =>
    obtain ⟨inline, -, rfl⟩ := h
    have absent : '\x7d' ∉ (lineText depth s).toList :=
      Text.not_mem_append.mpr ⟨indent depth, inline _ (by decide)⟩
    rw [if_neg absent, leadingSpaces_lineText (flush s rfl)]
  | blank => exact absurd h nonempty
  | opening =>
    obtain rfl := h
    have absent : '\x7d' ∉ (lineText depth "\x7b").toList :=
      Text.not_mem_append.mpr ⟨indent depth, by decide⟩
    rw [if_neg absent, leadingSpaces_lineText (by decide)]
  | closing =>
    obtain ⟨outer, rfl, rfl⟩ := h
    have present : '\x7d' ∈ (lineText outer "\x7d").toList := by
      rw [toList_lineText]
      exact List.mem_append_right _ List.mem_cons_self
    rw [if_pos present, leadingSpaces_lineText (by decide), Nat.add_sub_cancel]

end HandlerWiring.Unit
