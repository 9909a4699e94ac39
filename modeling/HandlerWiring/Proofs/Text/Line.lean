import Mathlib.Data.List.Basic
import HandlerWiring.Proofs.Session
import HandlerWiring.Proofs.Setting.Name

/-!
# Lines that are found again

Texts without line feeds, laid out one below the other, are the lines of the whole. Within a line
a mark is found where it was put, if nothing before it looks like it and it does not overlap
itself.
-/

namespace HandlerWiring

/-- A text without line feeds. -/
def OneLine (s : String) : Prop := '\n' ∉ s.toList

instance (s : String) : Decidable (OneLine s) := inferInstanceAs (Decidable ('\n' ∉ s.toList))

theorem oneLine_append {s t : String} : OneLine (s ++ t) ↔ OneLine s ∧ OneLine t :=
  Text.not_mem_append

/-- A word has no character that no word has. -/
theorem IsWord.not_mem {s : String} (h : IsWord s) {c : Char}
    (foreign : continuesIdentifier c = false) : c ∉ s.toList := by
  intro among
  rw [continuesIdentifier_iff.mpr (h.plain c among)] at foreign
  cases foreign

theorem IsWord.oneLine {s : String} (h : IsWord s) : OneLine s := h.not_mem (by decide +kernel)

theorem MarkFree.oneLine {s : String} (h : MarkFree s) : OneLine s :=
  fun among => h _ among (by decide)

namespace Text

theorem trim_sublist (cs : List Char) : (trim cs).Sublist cs := by
  have start : (trimStart cs).Sublist cs := List.dropWhile_sublist _
  have ending : (trimEnd (trimStart cs)).Sublist (trimStart cs) := by
    rw [← List.reverse_sublist, trimEnd, List.reverse_reverse]
    exact List.dropWhile_sublist _
  exact ending.trans start

/-- The lines of texts below each other are the texts, and an empty one behind the last. -/
theorem lines_textOfLines {texts : List String} (each : ∀ s ∈ texts, OneLine s) :
    lines (Session.textOfLines texts).toList = texts.map String.toList ++ [[]] := by
  rw [lines, piecesAt_eq_splitOn]
  induction texts with
  | nil => rfl
  | cons s rest ih =>
    have first : OneLine s := each s List.mem_cons_self
    have ending : "\n".toList = ['\n'] := rfl
    rw [Session.textOfLines, String.toList_append, String.toList_append, ending,
      List.append_assoc, List.singleton_append,
      List.splitOn_append_cons_self_of_not_mem first,
      ih fun other among => each other (List.mem_cons_of_mem s among)]
    rfl

theorem dropPrefix?_append (front behind : List Char) :
    (front ++ behind).dropPrefix? front = some behind :=
  List.dropPrefix?_append_of_beq behind (beq_self_eq_true front)

theorem dropSuffix?_append (before ending : List Char) :
    (before ++ ending).dropSuffix? ending = some before :=
  List.dropSuffix?_eq_some_iff.mpr ⟨ending, rfl, beq_self_eq_true ending⟩

/-- A mark is found where it was put, if what stands before has none and the mark does not start
again within itself. -/
theorem dropInfix?_append {c : Char} {mark before : List Char} (once : c ∉ mark)
    (clean : ¬(c :: mark) <:+: before) (behind : List Char) :
    (before ++ (c :: mark) ++ behind).dropInfix? (c :: mark) = some (before, behind) := by
  rw [List.dropInfix?_eq_some_iff]
  refine ⟨⟨c :: mark, rfl, beq_self_eq_true _⟩, ?_⟩
  intro before' mark' behind' same alike
  obtain rfl := eq_of_beq alike
  rw [List.append_assoc, List.append_assoc] at same
  rcases List.append_eq_append_iff.mp same with ⟨between, rfl, -⟩ | ⟨overlap, rfl, inner⟩
  · rw [List.length_append]
    omega
  -- The other occurrence starts in what stands before: it lies there or reaches into the mark.
  rcases List.append_eq_append_iff.mp inner with ⟨rest, rfl, -⟩ | ⟨rest, reaches, again⟩
  · exact absurd ⟨before', rest, List.append_assoc ..⟩ clean
  · cases overlap with
    | nil => simp
    | cons d overlap =>
      obtain ⟨rfl, rfl⟩ := List.cons.inj reaches
      cases rest with
      | nil => exact absurd ⟨before', [], by simp⟩ clean
      | cons e rest =>
        obtain ⟨rfl, -⟩ := List.cons.inj again
        exact absurd (List.mem_append_right _ List.mem_cons_self) once

/-- A single character is found where it was put if what stands before does not have it. -/
theorem dropInfix?_singleton {c : Char} {before : List Char} (clean : c ∉ before)
    (behind : List Char) : (before ++ [c] ++ behind).dropInfix? [c] = some (before, behind) :=
  dropInfix?_append List.not_mem_nil
    (fun among => clean (among.subset List.mem_cons_self)) behind

end Text

end HandlerWiring
