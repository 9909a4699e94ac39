import HandlerWiring.Proofs.Session
import HandlerWiring.Unit.Render

/-!
# The lines of a unit

Laid out code is a text of lines, each behind the indentation of its depth. A unit is two lines of
header and, for each method, an empty line and a block: headings with braces below them, one inside
the other, and the body of the method in the innermost ones. The texts in it are those of the header
and five kinds for each method; empty lines stand before methods and nowhere in them.
-/

namespace HandlerWiring.Unit

open Session (textOfLines)

/-- The lines of laid out code, the first at a depth. -/
def indented : Nat → List Line → List String
  | _, [] => []
  | depth, .text s :: rest => (String.ofList (indentation depth) ++ s) :: indented depth rest
  | depth, .blank :: rest => "" :: indented depth rest
  | depth, .opening :: rest =>
    (String.ofList (indentation depth) ++ "\x7b") :: indented (depth + 1) rest
  | depth, .closing :: rest =>
    (String.ofList (indentation (depth - 1)) ++ "\x7d") :: indented (depth - 1) rest

theorem ofList_layOut (depth : Nat) (lines : List Line) :
    String.ofList (layOut depth lines) = textOfLines (indented depth lines) := by
  have line (depth : Nat) (s : String) (rest : List Char) :
      String.ofList (lineAt depth s.toList ++ rest) =
        String.ofList (indentation depth) ++ s ++ "\n" ++ String.ofList rest := by
    rw [lineAt, String.ofList_append, String.ofList_append, String.ofList_append,
      String.ofList_toList]
  induction depth, lines using layOut.induct with
  | case1 depth => rfl
  | case2 depth s rest ih => rw [layOut, indented, textOfLines, line, ih]
  | case3 depth rest ih =>
    rw [layOut, indented, textOfLines, ← ih]
    change String.ofList (['\n'] ++ layOut depth rest) = _
    rw [String.ofList_append]
    rfl
  | case4 depth rest ih =>
    rw [layOut, indented, textOfLines, ← ih]
    exact line depth "\x7b" _
  | case5 depth rest ih =>
    rw [layOut, indented, textOfLines, ← ih]
    exact line (depth - 1) "\x7d" _

/-- Lines of text stay at their depth. -/
theorem indented_texts (depth : Nat) (text : α → String) (xs : List α) (rest : List Line) :
    indented depth (xs.map (fun x => .text (text x)) ++ rest) =
      xs.map (fun x => String.ofList (indentation depth) ++ text x) ++ indented depth rest := by
  induction xs with
  | nil => rfl
  | cons x xs ih => exact congrArg (_ :: ·) ih

/-- A text behind the indentation of a depth. -/
def lineText (depth : Nat) (s : String) : String := String.ofList (indentation depth) ++ s

theorem toList_lineText (depth : Nat) (s : String) :
    (lineText depth s).toList = indentation depth ++ s.toList := by
  rw [lineText, String.toList_append, String.toList_ofList]

/-! ## Lines at their depth -/

/-- What is written for a line at a depth. -/
def Line.shown (depth : Nat) : Line → String
  | .text s => lineText depth s
  | .blank => ""
  | .opening => lineText depth "\x7b"
  | .closing => lineText (depth - 1) "\x7d"

/-- The depth behind a line. -/
def Line.depthBehind (depth : Nat) : Line → Nat
  | .text _ => depth
  | .blank => depth
  | .opening => depth + 1
  | .closing => depth - 1

theorem indented_cons (depth : Nat) (line : Line) (rest : List Line) :
    indented depth (line :: rest) = line.shown depth :: indented (line.depthBehind depth) rest := by
  cases line
  all_goals rfl

theorem length_indented (depth : Nat) (lines : List Line) :
    (indented depth lines).length = lines.length := by
  induction lines generalizing depth with
  | nil => rfl
  | cons line rest ih => rw [indented_cons, List.length_cons, List.length_cons, ih]

/-- What is written is some line at some depth. -/
theorem exists_of_mem_indented {depth : Nat} {lines : List Line} {shown : String}
    (among : shown ∈ indented depth lines) : ∃ line ∈ lines, ∃ depth', shown = line.shown depth' := by
  induction lines generalizing depth with
  | nil => exact absurd among List.not_mem_nil
  | cons line rest ih =>
    rw [indented_cons] at among
    rcases List.mem_cons.mp among with rfl | among
    · exact ⟨line, List.mem_cons_self, depth, rfl⟩
    · obtain ⟨line', member, found⟩ := ih among
      exact ⟨line', List.mem_cons_of_mem line member, found⟩

theorem lineText_ne_empty {s : String} (nonempty : s ≠ "") (depth : Nat) : lineText depth s ≠ "" :=
  fun empty => nonempty (String.append_eq_empty_iff.mp empty).2

/-- Only an empty line and an empty text outside of all braces are written as nothing. -/
theorem Line.shown_ne_empty {line : Line} (there : line ≠ .blank)
    (nonempty : ∀ s, line = .text s → s ≠ "") (depth : Nat) : line.shown depth ≠ "" := by
  cases line with
  | text s => exact lineText_ne_empty (nonempty s rfl) depth
  | blank => exact absurd rfl there
  | opening => exact lineText_ne_empty (by decide) depth
  | closing => exact lineText_ne_empty (by decide) (depth - 1)

/-! ## Methods -/

/-- A heading with some lines in braces below it. -/
def braced (depth : Nat) (heading : String) (inner : List String) : List String :=
  [lineText depth heading, lineText depth "\x7b"] ++ inner ++ [lineText depth "\x7d"]

namespace MethodText

/-- The lines of the body of a method. -/
def bodyLines (m : MethodText) (registrations : List Registration) (depth : Nat) : List String :=
  registrations.map (fun r => lineText depth (registrationText r m.services m.lifetime)) ++
    [lineText depth ("return " ++ m.services ++ ";")]

/-- The lines of the class of a method. -/
def classBlock (m : MethodText) (registrations : List Registration) (depth : Nat) : List String :=
  braced depth m.classDeclaration <|
    braced (depth + 1) m.declaration (m.bodyLines registrations (depth + 2))

/-- The lines of a method with what is around it. -/
def block (m : MethodText) (registrations : List Registration) : List String :=
  if m.namespaceName.isEmpty then m.classBlock registrations 0
  else braced 0 ("namespace " ++ m.namespaceName) (m.classBlock registrations 1)

theorem indented_classLines (m : MethodText) (registrations : List Registration) (depth : Nat)
    (rest : List Line) :
    indented depth (m.classLines registrations ++ rest) =
      m.classBlock registrations depth ++ indented depth rest := by
  simp only [classLines, body, classBlock, bodyLines, braced, lineText, List.append_assoc,
    List.cons_append, List.nil_append, indented, indented_texts, Nat.add_sub_cancel]

theorem indented_lines (m : MethodText) (registrations : List Registration) (rest : List Line) :
    indented 0 (m.lines registrations ++ rest) =
      m.block registrations ++ indented 0 rest := by
  unfold lines block
  split
  · exact m.indented_classLines registrations 0 rest
  · simp only [braced, lineText, List.append_assoc, List.cons_append, List.nil_append, indented,
      indented_classLines]

end MethodText

/-- The lines of a unit. -/
theorem indented_unitLines (methods : List MethodText) (registrations : List Registration) :
    indented 0 (unitLines methods registrations) =
      [autoGeneratedHeader, "#nullable enable"] ++
        methods.flatMap fun m => "" :: m.block registrations := by
  have each : indented 0 (methods.flatMap fun m => .blank :: m.lines registrations) =
      methods.flatMap fun m => "" :: m.block registrations := by
    induction methods with
    | nil => rfl
    | cons m methods ih =>
      rw [List.flatMap_cons, List.flatMap_cons, List.cons_append, List.cons_append, indented,
        MethodText.indented_lines, ih]
  rw [unitLines, header, List.cons_append, List.cons_append, indented, indented, List.nil_append,
    each]
  rfl

/-- A unit as its lines. -/
theorem unitText_eq (methods : List MethodText) (registrations : List Registration) :
    unitText methods registrations =
      textOfLines ([autoGeneratedHeader, "#nullable enable"] ++
        methods.flatMap fun m => "" :: m.block registrations) := by
  rw [unitText, ofList_layOut, indented_unitLines]

/-! ## Texts of a unit -/

theorem registrationText_ne_empty (r : Registration) (services lifetime : String) :
    registrationText r services lifetime ≠ "" :=
  fun empty => absurd (String.append_eq_empty_iff.mp empty).2 (by decide)

namespace MethodText

/-- Each text of a method is a heading, the declaration, a statement, or the return. -/
theorem text_mem_lines {m : MethodText} {registrations : List Registration} {s : String}
    (among : .text s ∈ m.lines registrations) :
    s = "namespace " ++ m.namespaceName ∨ s = m.classDeclaration ∨ s = m.declaration ∨
      (∃ r ∈ registrations, s = registrationText r m.services m.lifetime) ∨
        s = "return " ++ m.services ++ ";" := by
  have inner (among : .text s ∈ m.classLines registrations) :
      s = m.classDeclaration ∨ s = m.declaration ∨
        (∃ r ∈ registrations, s = registrationText r m.services m.lifetime) ∨
          s = "return " ++ m.services ++ ";" := by
    simp only [classLines, body, List.mem_append, List.mem_cons, List.mem_map, Line.text.injEq,
      reduceCtorEq, List.not_mem_nil, or_false, false_or] at among
    grind
  unfold lines at among
  split at among
  · exact .inr (inner among)
  · simp only [List.mem_append, List.mem_cons, Line.text.injEq, reduceCtorEq, List.not_mem_nil,
      or_false] at among
    exact among.imp_right inner

theorem blank_not_mem_lines (m : MethodText) (registrations : List Registration) :
    .blank ∉ m.lines registrations := by
  unfold lines
  split
  all_goals simp [classLines, body]

theorem declaration_ne_empty (m : MethodText) : m.declaration ≠ "" :=
  fun empty => absurd (String.append_eq_empty_iff.mp empty).2 (by decide)

/-- The texts of a method are there if its class is declared. -/
theorem text_ne_empty {m : MethodText} (declared : m.classDeclaration ≠ "")
    {registrations : List Registration} {s : String} (among : .text s ∈ m.lines registrations) :
    s ≠ "" := by
  rcases text_mem_lines among with rfl | rfl | rfl | ⟨r, -, rfl⟩ | rfl
  · exact fun empty => absurd (String.append_eq_empty_iff.mp empty).1 (by decide)
  · exact declared
  · exact m.declaration_ne_empty
  · exact registrationText_ne_empty r m.services m.lifetime
  · exact fun empty => absurd (String.append_eq_empty_iff.mp empty).2 (by decide)

theorem block_eq (m : MethodText) (registrations : List Registration) :
    m.block registrations = indented 0 (m.lines registrations) := by
  have whole := m.indented_lines registrations []
  rw [List.append_nil] at whole
  exact (whole.trans (List.append_nil _)).symm

/-- No line of a method is empty if its class is declared. -/
theorem ne_empty_of_mem_block {m : MethodText} (declared : m.classDeclaration ≠ "")
    {registrations : List Registration} {shown : String}
    (among : shown ∈ m.block registrations) : shown ≠ "" := by
  rw [block_eq] at among
  obtain ⟨line, member, depth, rfl⟩ := exists_of_mem_indented among
  have there : line ≠ .blank := fun same => m.blank_not_mem_lines registrations (same ▸ member)
  exact line.shown_ne_empty there (fun s same => text_ne_empty declared (same ▸ member)) depth

end MethodText

/-- Each text of a unit is in its header or in one of its methods. -/
theorem text_mem_unitLines {methods : List MethodText} {registrations : List Registration}
    {s : String} (among : .text s ∈ unitLines methods registrations) :
    s ∈ [autoGeneratedHeader, "#nullable enable"] ∨
      ∃ m ∈ methods, .text s ∈ m.lines registrations := by
  rcases List.mem_append.mp among with among | among
  · left
    simpa only [header, List.mem_cons, Line.text.injEq, List.not_mem_nil] using among
  · right
    obtain ⟨m, member, among⟩ := List.mem_flatMap.mp among
    rcases List.mem_cons.mp among with among | among
    · cases among
    · exact ⟨m, member, among⟩

end HandlerWiring.Unit
