import HandlerWiring.Json.Form
import HandlerWiring.Proofs.Json.Decode.Read
import HandlerWiring.Proofs.Json.Document
import HandlerWiring.Proofs.Json.Sound

/-!
# Texts of a form

A form whose schema is well-formed and not too high reads its own texts back, in every layout that
puts only gaps between the tokens. So a text tells the value it was written for. A form whose schema
is closed takes a text for the value of the text, and takes no text with a fault in it.
-/

namespace HandlerWiring.Json

/-- What a form has to observe for its texts to be read back. -/
structure Form.Readable (form : Form α) : Prop where
  wellFormed : form.schema.WellFormed
  fits : form.schema.height ≤ depthLimit

namespace Form

variable {form : Form α}

/-- A text that denotes the document of a value is read as that value. -/
theorem Readable.parse_denoted (h : form.Readable) {text : String} {a : α}
    (denotes : TextDenotes text (some (form.document a))) : form.parse text = .ok a := by
  obtain ⟨shows, nothing⟩ := shows_of_valueOf? denotes.valueOf?
  have fits : 0 + form.schema.height ≤ depthLimit := by
    rw [Nat.zero_add]
    exact h.fits
  have read : form.schema.read false (Document.ofText text.toList).root = .ok (form.toRow a) :=
    form.schema.read_write false (form.toRow a) h.wellFormed fits shows
  rw [parse, ofDocument, read, nothing]
  exact congrArg Except.ok (form.ofRow_toRow a)

/-- The text of a value, with gaps behind it, is read as that value. -/
theorem Readable.parse_print (h : form.Readable) {layout : Layout} (gaps : layout.OnlyGaps)
    {behind : List Char} (hgap : IsGap behind) (a : α) :
    form.parse (String.ofList ((form.document a).print layout 0 ++ behind)) = .ok a :=
  h.parse_denoted <|
    (form.document a).textDenotes_print gaps hgap (form.schema.whole_write (form.toRow a))

theorem Readable.parse_compact (h : form.Readable) (a : α) :
    form.parse (form.compact a) = .ok a := by
  have read := h.parse_print Layout.onlyGaps_compact isGap_nil a
  rwa [List.append_nil] at read

theorem Readable.parse_pretty (h : form.Readable) (a : α) : form.parse (form.pretty a) = .ok a := by
  have read := h.parse_print Layout.onlyGaps_indented isGap_nil a
  rwa [List.append_nil] at read

/-- Texts that are read back as the values they were written for differ with the values. -/
theorem injective_of_parse {text : α → String} (reads : ∀ a, form.parse (text a) = .ok a) :
    Function.Injective text := by
  intro a b same
  have read := reads a
  rw [same, reads b] at read
  exact (Except.ok.inj read).symm

/-- Different values have different texts. -/
theorem Readable.compact_injective (h : form.Readable) : Function.Injective form.compact :=
  injective_of_parse h.parse_compact

theorem Readable.pretty_injective (h : form.Readable) : Function.Injective form.pretty :=
  injective_of_parse h.parse_pretty

/-- A text that a form with a closed schema accepts has a value, and nothing in it is too deep. -/
theorem value_of_parse (closed : form.schema.isClosed = true) {text : String} {a : α}
    (h : form.parse text = .ok a) :
    ∃ v, valueOf? text = some v ∧ v.shallow 0 = true := by
  obtain ⟨row, read, h⟩ := ok_of_bind h
  have sound := form.schema.sound_of_read false closed _ row read
  cases excess : (Document.ofText text.toList).excess with
  | some fault =>
    rw [excess] at h
    cases h
  | none =>
    obtain ⟨v, value⟩ := valueOf?_of_sound sound excess
    exact ⟨v, value, (shows_of_valueOf? value).1.sound_iff.mp sound⟩

/-- A text with a value is accepted for what its value is decoded as. -/
theorem toOption_parse (wf : form.schema.WellFormed) {text : String} {v : Value}
    (h : valueOf? text = some v) :
    (form.parse text).toOption = (form.schema.decode 0 v).map form.ofRow := by
  obtain ⟨shows, nothing⟩ := shows_of_valueOf? h
  rw [parse, ofDocument, nothing, ← form.schema.toOption_read false wf shows]
  exact toOption_bind_pure _ _

/-- A form with a closed schema accepts the texts whose value is decoded, and no others. -/
theorem parse_eq_ok_iff (wf : form.schema.WellFormed) (closed : form.schema.isClosed = true)
    {text : String} {a : α} :
    form.parse text = .ok a ↔
      ∃ v, valueOf? text = some v ∧ (form.schema.decode 0 v).map form.ofRow = some a := by
  constructor
  · intro h
    obtain ⟨v, value, -⟩ := value_of_parse closed h
    exact ⟨v, value, (toOption_parse wf value).symm.trans (toOption_eq_some_iff.mpr h)⟩
  · rintro ⟨v, value, decoded⟩
    exact toOption_eq_some_iff.mp ((toOption_parse wf value).trans decoded)

end Form

end HandlerWiring.Json
