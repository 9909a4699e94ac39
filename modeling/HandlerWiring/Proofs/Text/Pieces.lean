import HandlerWiring.Text.Basic

/-!
# Pieces of a text

The pieces of a text are those of the core library's `List.splitOn`, so its laws hold of them: the
pieces with the mark between them are the text again, and pieces without marks are found as they
were put together. A text put together from others has no character that none of them has.
-/

namespace HandlerWiring.Text

theorem piecesAt_eq_splitOn (mark : Char) (cs : List Char) :
    piecesAt mark cs = cs.splitOn mark := by
  induction cs with
  | nil => rw [piecesAt, List.splitOn_nil]
  | cons c cs ih =>
    rw [piecesAt, List.splitOn_cons_eq_if_modifyHead, ih]
    by_cases marked : c = mark
    · rw [if_pos marked, if_pos (beq_iff_eq.mpr marked)]
    · rw [if_neg marked, if_neg (mt beq_iff_eq.mp marked)]
      obtain ⟨piece, rest, found⟩ := List.exists_cons_of_ne_nil (List.splitOn_ne_nil mark cs)
      rw [found]
      rfl

/-- No piece has a mark in it. -/
theorem not_mem_of_mem_piecesAt {mark : Char} {piece cs : List Char}
    (h : piece ∈ piecesAt mark cs) : mark ∉ piece := by
  induction cs generalizing piece with
  | nil =>
    cases List.mem_singleton.mp h
    exact List.not_mem_nil
  | cons c cs ih =>
    rw [piecesAt] at h
    split at h
    · rcases List.mem_cons.mp h with rfl | h
      · exact List.not_mem_nil
      · exact ih h
    · next unlike =>
      split at h
      · next none => exact absurd (piecesAt_eq_splitOn mark cs ▸ none) (List.splitOn_ne_nil mark cs)
      · next first rest found =>
        rcases List.mem_cons.mp h with rfl | h
        · have clean : mark ∉ first := ih (found ▸ List.mem_cons_self)
          exact fun there => (List.mem_cons.mp there).elim (fun same => unlike same.symm) clean
        · exact ih (found ▸ List.mem_cons_of_mem first h)

/-! ## Texts put together -/

theorem not_mem_append {c : Char} {s t : String} :
    c ∉ (s ++ t).toList ↔ c ∉ s.toList ∧ c ∉ t.toList := by
  rw [String.toList_append, List.mem_append, not_or]

theorem not_mem_intercalate {c : Char} {separator : String} (h : c ∉ separator.toList) :
    ∀ {parts : List String}, (∀ part ∈ parts, c ∉ part.toList) →
      c ∉ (String.intercalate separator parts).toList
  | [], _ => List.not_mem_nil
  | [part], each => each part List.mem_cons_self
  | part :: next :: rest, each => by
    rw [String.intercalate_cons_cons, not_mem_append, not_mem_append]
    exact ⟨⟨each part List.mem_cons_self, h⟩,
      not_mem_intercalate h fun other among => each other (List.mem_cons_of_mem part among)⟩

end HandlerWiring.Text
