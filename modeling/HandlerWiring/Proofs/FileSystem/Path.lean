import HandlerWiring.FileSystem.Path
import HandlerWiring.Proofs.Text.Pieces

/-!
# Pieces of paths

A name without a slash is the last piece of the path that joins it to a directory, behind the
pieces of the directory. The directories above a path have the first pieces of the path and lead
from where the path leads from; only the root is written with a piece of its own.
-/

namespace HandlerWiring.Path

theorem pieces_eq_splitOn (p : Path) :
    p.pieces = (p.text.toList.splitOn '/').map String.ofList := by
  rw [pieces, Text.piecesAt_eq_splitOn]

theorem slash_not_mem_of_mem_pieces {p : Path} {piece : String} (h : piece ∈ p.pieces) :
    '/' ∉ piece.toList := by
  obtain ⟨cs, among, rfl⟩ := List.mem_map.mp h
  rw [String.toList_ofList]
  exact Text.not_mem_of_mem_piecesAt among

/-- Pieces that are put together to a path are its pieces. -/
theorem pieces_ofPieces {pieces : List String} (nonempty : pieces ≠ [])
    (plain : ∀ piece ∈ pieces, '/' ∉ piece.toList) : (ofPieces pieces).pieces = pieces := by
  have texts : ∀ cs ∈ pieces.map String.toList, '/' ∉ cs := by
    intro cs among
    obtain ⟨piece, here, rfl⟩ := List.mem_map.mp among
    exact plain piece here
  rw [pieces_eq_splitOn, ofPieces, String.toList_intercalate]
  change ((['/'].intercalate _).splitOn '/').map _ = _
  rw [List.splitOn_intercalate '/' texts (mt List.map_eq_nil_iff.mp nonempty), List.map_map]
  exact (List.map_congr_left fun piece _ => String.ofList_toList).trans (List.map_id pieces)

/-- A path leads from the root if its first piece is empty and not its only one. -/
theorem isAbsolute_iff (p : Path) :
    p.isAbsolute = true ↔ ∃ piece rest, p.pieces = "" :: piece :: rest := by
  rw [isAbsolute, pieces_eq_splitOn]
  cases p.text.toList with
  | nil =>
    rw [List.splitOn_nil]
    exact ⟨fun h => (nomatch h), fun ⟨_, _, h⟩ => (nomatch h)⟩
  | cons c cs =>
    rw [List.splitOn_cons_eq_if_modifyHead]
    by_cases slash : c = '/'
    · subst slash
      refine ⟨fun _ => ?_, fun _ => rfl⟩
      obtain ⟨first, rest, found⟩ := List.exists_cons_of_ne_nil (List.splitOn_ne_nil '/' cs)
      refine ⟨String.ofList first, rest.map String.ofList, ?_⟩
      rw [if_pos (by rfl), found]
      rfl
    · rw [if_neg (mt beq_iff_eq.mp slash)]
      obtain ⟨first, rest, found⟩ := List.exists_cons_of_ne_nil (List.splitOn_ne_nil '/' cs)
      rw [found]
      constructor
      · intro starts
        have same : '/' = c := by simpa [List.isPrefixOf] using starts
        exact absurd same.symm slash
      · rintro ⟨_, _, same⟩
        have empty : String.ofList (c :: first) = "" := (List.cons.inj same).1
        exact absurd (congrArg String.toList empty) (by simp)

/-- A path without a slash leads from the working directory. -/
theorem isAbsolute_of_not_mem {p : Path} (h : '/' ∉ p.text.toList) : p.isAbsolute = false := by
  rw [← Bool.not_eq_true, isAbsolute_iff, pieces_eq_splitOn, List.splitOn_eq_singleton h]
  rintro ⟨_, _, same⟩
  cases (List.cons.inj same).2

/-! ## Joining -/

/-- A name is the last piece of a path that it was joined to. -/
theorem pieces_join (directory : Path) {name : String} (inside : '/' ∉ name.toList) :
    ∃ before, (directory.join name).pieces = before ++ [name] ∧
      (directory.pieces = before ∨ directory.pieces = before ++ [""]) := by
  have alone : name.toList.splitOn '/' = [name.toList] := List.splitOn_eq_singleton inside
  have single : [name.toList].map String.ofList = [name] := by
    rw [List.map_singleton, String.ofList_toList]
  unfold join
  split
  · next short =>
    rcases Bool.or_eq_true_iff.mp short with empty | slashed
    · have nothing : directory.text = "" := String.isEmpty_iff.mp empty
      refine ⟨[], ?_, .inr ?_⟩
      · rw [pieces_eq_splitOn, nothing, String.empty_append, alone, single]
        rfl
      · rw [pieces_eq_splitOn, nothing]
        rfl
    · obtain ⟨cs, ends⟩ := List.getLast?_eq_some_iff.mp (beq_iff_eq.mp slashed)
      refine ⟨(cs.splitOn '/').map String.ofList, ?_, .inr ?_⟩
      · rw [pieces_eq_splitOn, String.toList_append, ends, List.append_assoc,
          List.singleton_append, List.splitOn_append_cons_self, List.map_append, alone, single]
      · rw [pieces_eq_splitOn, ends, List.splitOn_append_cons_self, List.map_append]
        rfl
  · refine ⟨directory.pieces, ?_, .inl rfl⟩
    rw [pieces_eq_splitOn, String.toList_append, String.toList_append, List.append_assoc,
      pieces_eq_splitOn]
    change ((directory.text.toList ++ '/' :: name.toList).splitOn '/').map _ = _
    rw [List.splitOn_append_cons_self, List.map_append, alone, single]

/-- A name in a directory leads from where the directory leads from. -/
theorem isAbsolute_join (directory : Path) {name : String} (inside : '/' ∉ name.toList) :
    (directory.join name).isAbsolute = directory.isAbsolute := by
  unfold isAbsolute join
  cases written : directory.text.toList with
  | nil =>
    have nothing : directory.text = "" := String.toList_eq_nil_iff.mp written
    have empty : directory.text.isEmpty = true := String.isEmpty_iff.mpr nothing
    rw [empty, Bool.true_or, if_pos rfl, nothing, String.empty_append]
    cases named : name.toList with
    | nil => rfl
    | cons c cs =>
      have unlike : '/' ≠ c := fun same => inside (by rw [named, same]; exact List.mem_cons_self)
      change ('/' == c && true) = false
      rw [beq_false_of_ne unlike, Bool.false_and]
  | cons c cs =>
    split
    · rw [String.toList_append, written]
      rfl
    · rw [String.toList_append, String.toList_append, written]
      rfl

/-- Joined to an empty name, a directory is an empty path or ends in a slash. -/
theorem join_empty (directory : Path) :
    (directory.join "").text = "" ∨ (directory.join "").endsInSlash = true := by
  unfold join
  split
  · next short =>
    rw [String.append_empty]
    exact (Bool.or_eq_true_iff.mp short).imp_left String.isEmpty_iff.mp
  · right
    rw [endsInSlash, String.append_empty, String.toList_append]
    exact beq_iff_eq.mpr List.getLast?_concat

/-! ## Directories above -/

theorem lineage_of_nonempty {p : Path} (spelt : p.text ≠ "") :
    p.lineage = p :: above p.pieces.length p.pieces.reverse := by
  rw [lineage, if_neg (mt String.isEmpty_iff.mp spelt)]

/-- Taking idle pieces from the end leaves the first pieces. -/
theorem withoutIdleEnd_suffix : ∀ pieces : List String, withoutIdleEnd pieces <:+ pieces
  | [] => List.suffix_rfl
  | [_] => List.suffix_rfl
  | last :: piece :: rest => by
    rw [withoutIdleEnd]
    split
    · exact (withoutIdleEnd_suffix (piece :: rest)).trans (List.suffix_cons last _)
    · exact List.suffix_rfl
    · exact fun h => nomatch h

/-- The first piece stays. -/
theorem withoutIdleEnd_ne_nil : ∀ {pieces : List String}, pieces ≠ [] → withoutIdleEnd pieces ≠ []
  | [], nonempty => nonempty
  | [_], _ => List.cons_ne_nil _ _
  | last :: piece :: rest, _ => by
    rw [withoutIdleEnd]
    split
    · exact withoutIdleEnd_ne_nil (List.cons_ne_nil piece rest)
    · exact List.cons_ne_nil _ _
    · exact fun h => nomatch h

/-- A directory above some pieces, the last one first, has the first of them. -/
theorem mem_above {fuel : Nat} {pieces : List String} {q : Path} (h : q ∈ above fuel pieces) :
    ∃ parent, parent <:+ pieces ∧ parent ≠ [] ∧ q = ofReversed parent := by
  induction fuel generalizing pieces with
  | zero => exact (List.not_mem_nil h).elim
  | succ fuel ih =>
    rw [above] at h
    split at h
    · next last first rest cut =>
      have shorter : first :: rest <:+ pieces :=
        (List.suffix_cons last _).trans (cut ▸ withoutIdleEnd_suffix pieces)
      have parent := (withoutIdleEnd_suffix (first :: rest)).trans shorter
      rcases List.mem_cons.mp h with rfl | h
      · exact ⟨_, parent, withoutIdleEnd_ne_nil (List.cons_ne_nil first rest), rfl⟩
      · obtain ⟨further, above, nonempty, rfl⟩ := ih h
        exact ⟨further, above.trans parent, nonempty, rfl⟩
    · exact (List.not_mem_nil h).elim

/-- The path and the directories above it have its first pieces and lead from where it leads from;
the root may be among them. -/
theorem mem_lineage {p q : Path} (h : q ∈ p.lineage) :
    q = ⟨"/"⟩ ∨ (q.pieces <+: p.pieces ∧ q.isAbsolute = p.isAbsolute) := by
  rw [lineage] at h
  split at h
  · exact (List.not_mem_nil h).elim
  rcases List.mem_cons.mp h with rfl | h
  · exact .inr ⟨List.prefix_rfl, rfl⟩
  obtain ⟨parent, first, nonempty, rfl⟩ := mem_above h
  rw [ofReversed]
  split
  · exact .inl rfl
  next unlike =>
  have front : parent.reverse <+: p.pieces := by
    simpa using List.reverse_prefix.mpr first
  have written : (ofPieces parent.reverse).pieces = parent.reverse :=
    pieces_ofPieces (mt List.reverse_eq_nil_iff.mp nonempty) fun piece here =>
      slash_not_mem_of_mem_pieces (front.subset here)
  refine .inr ⟨by rw [written]; exact front, ?_⟩
  -- Both are decided by the first two pieces; a lone empty piece would have been the root.
  rw [Bool.eq_iff_iff, isAbsolute_iff, isAbsolute_iff, written]
  obtain ⟨rest, whole⟩ := front
  rw [← whole]
  cases reversed : parent.reverse with
  | nil => exact absurd reversed (mt List.reverse_eq_nil_iff.mp nonempty)
  | cons piece others =>
    cases others with
    | nil =>
      have spelt : piece ≠ "" := by
        rintro rfl
        exact unlike (List.reverse_eq_iff.mp reversed)
      constructor
      · rintro ⟨_, _, same⟩
        cases same
      · rintro ⟨_, _, same⟩
        exact absurd (List.cons.inj same).1 spelt
    | cons second others =>
      constructor
      · rintro ⟨_, _, same⟩
        cases same
        exact ⟨_, _, rfl⟩
      · rintro ⟨_, _, same⟩
        cases same
        exact ⟨_, _, rfl⟩

end HandlerWiring.Path
