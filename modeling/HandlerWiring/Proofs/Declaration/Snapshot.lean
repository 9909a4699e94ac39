import HandlerWiring.Declaration.Snapshot
import HandlerWiring.Proofs.Json.Form

/-!
# Snapshots as texts

The schema of snapshots is well-formed, so both texts of a snapshot, the one that is stored and the
one that is hashed, are read back as that snapshot.
-/

namespace HandlerWiring.Snapshot

/-- Snapshots are read back from their texts. -/
theorem form_readable : form.Readable where
  wellFormed := by decide
  fits := by decide

/-- Both texts of a snapshot are read back as that snapshot, no other snapshot has the same
canonical text, and what is written, read and written again is the same text. -/
theorem texts_read_back (s : Snapshot) :
    form.parse (form.pretty s) = .ok s ∧
      form.parse (form.compact s) = .ok s ∧
      (∀ t, form.compact t = form.compact s ↔ t = s) ∧
      (form.parse (form.pretty s)).map form.pretty = .ok (form.pretty s) ∧
      (form.parse (form.compact s)).map form.compact = .ok (form.compact s) := by
  have pretty := form_readable.parse_pretty s
  have compact := form_readable.parse_compact s
  have tells : ∀ t, form.compact t = form.compact s ↔ t = s := fun _ =>
    form_readable.compact_injective.eq_iff
  refine ⟨pretty, compact, tells, ?_, ?_⟩
  · rw [pretty]
    rfl
  · rw [compact]
    rfl

end HandlerWiring.Snapshot
