import HandlerWiring.Proofs.Command.Document
import HandlerWiring.Proofs.Json.Form

/-!
# Printed documents are read back

What a command prints when it is asked for a document is read back, under the form of the document,
as the document that was printed. So no two documents have the same text, be they of one command or
of two: a field that is left out because there is nothing to say is read back as nothing, and the
documents of different commands differ in their keys.
-/

namespace HandlerWiring

open Json

/-- Documents of a form are printed as one text each, which is read back. -/
structure Json.Form.ReadsBack (form : Form α) : Prop where
  parse_pretty (d : α) : form.parse (form.pretty d) = .ok d
  /-- What a command prints ends with a line break. -/
  parse_printed (d : α) (w : World) : ∃ text,
    ((Command.printDocument form d).run w).2 = w.printing text ∧ form.parse text = .ok d
  pretty_injective : Function.Injective form.pretty

/-- Documents of a readable form are read back. -/
theorem Json.Form.Readable.readsBack {form : Form α} (h : form.Readable) : form.ReadsBack where
  parse_pretty := h.parse_pretty
  parse_printed d w := by
    have gap : IsGap ['\n'] := by decide
    refine ⟨form.pretty d ++ "\n", rfl, ?_⟩
    have read := h.parse_print Layout.onlyGaps_indented gap d
    rwa [String.ofList_append] at read
  pretty_injective := h.pretty_injective

/-- Documents of two forms with the same text are the same value. -/
theorem Json.Form.document_eq_of_pretty {form : Form α} {form' : Form β} {d : α} {d' : β}
    (same : form.pretty d = form'.pretty d') : form.document d = form'.document d' := by
  have value := valueOf?_print Layout.onlyGaps_indented (form.schema.whole_write (form.toRow d))
  have value' := valueOf?_print Layout.onlyGaps_indented (form'.schema.whole_write (form'.toRow d'))
  refine Option.some.inj (value.symm.trans (Eq.trans ?_ value'))
  exact congrArg valueOf? same

/-- A record has the key of each field that is always written, and no key that is no field. -/
theorem Json.Form.pretty_ne {form : Form α} {form' : Form β} {title title' : String}
    {closed closed' : Bool} {fields fields' : Fields}
    (schema : form.schema = .record title closed fields)
    (schema' : form'.schema = .record title' closed' fields') (name : String)
    (loud : name ∈ fields.loudNames) (foreign : name ∉ fields'.names) (d : α) (d' : β) :
    form.pretty d ≠ form'.pretty d' := by
  intro same
  have documents := Form.document_eq_of_pretty same
  obtain ⟨_, toRow, _, _⟩ := form
  obtain ⟨_, toRow', _, _⟩ := form'
  subst schema schema'
  have members : fields.write (toRow d) = fields'.write (toRow' d') := Value.record.inj documents
  have key := fields.mem_keys_write (toRow d) loud
  rw [members] at key
  exact foreign (fields'.keys_write (toRow' d') key)

/-! ## The documents of the commands -/

/-- The documents of `generate` are read back from their texts. -/
theorem GenerateDocument.form_readable : GenerateDocument.form.Readable where
  wellFormed := by decide
  fits := by decide

/-- The documents of `validate` are read back from their texts. -/
theorem ValidateDocument.form_readable : ValidateDocument.form.Readable where
  wellFormed := by decide
  fits := by decide

/-- The documents of `scan` are read back from their texts. -/
theorem ScanDocument.form_readable : ScanDocument.form.Readable where
  wellFormed := by decide
  fits := by decide

/-- The documents of `config` are read back from their texts. -/
theorem ConfigDocument.form_readable : ConfigDocument.form.Readable where
  wellFormed := by decide
  fits := by decide

namespace Document

private theorem eq_of_lines {line line' : String} (same : line ++ "\n" = line' ++ "\n") :
    line = line' :=
  (String.append_left_inj "\n").mp same

/-- A printed document tells which one it is. Documents of two commands differ in a key that one of
the commands always has and the other never. -/
theorem text_injective : Function.Injective text := by
  intro d d' same
  cases d with
  | generate d =>
    cases d' with
    | generate d' =>
      exact congrArg generate (GenerateDocument.form_readable.pretty_injective (eq_of_lines same))
    | validate d' =>
      exact absurd (eq_of_lines same) <|
        Form.pretty_ne rfl rfl "stubs" (by decide) (by decide) d d'
    | scan d' =>
      exact absurd (eq_of_lines same) <|
        Form.pretty_ne rfl rfl "diagnostics" (by decide) (by decide) d d'
    | config d' =>
      exact absurd (eq_of_lines same) <|
        Form.pretty_ne rfl rfl "stubs" (by decide) (by decide) d d'
  | validate d =>
    cases d' with
    | generate d' =>
      exact absurd (eq_of_lines same) <|
        Form.pretty_ne rfl rfl "extension_points" (by decide) (by decide) d d'
    | validate d' =>
      exact congrArg validate (ValidateDocument.form_readable.pretty_injective (eq_of_lines same))
    | scan d' | config d' =>
      exact absurd (eq_of_lines same) <|
        Form.pretty_ne rfl rfl "extension_points" (by decide) (by decide) d d'
  | scan d =>
    cases d' with
    | generate d' =>
      exact absurd (eq_of_lines same).symm <|
        Form.pretty_ne rfl rfl "diagnostics" (by decide) (by decide) d' d
    | scan d' =>
      exact congrArg scan (ScanDocument.form_readable.pretty_injective (eq_of_lines same))
    | validate d' | config d' =>
      exact absurd (eq_of_lines same) <|
        Form.pretty_ne rfl rfl "stubs" (by decide) (by decide) d d'
  | config d =>
    cases d' with
    | config d' =>
      exact congrArg config (ConfigDocument.form_readable.pretty_injective (eq_of_lines same))
    | generate d' | validate d' | scan d' =>
      exact absurd (eq_of_lines same) <|
        Form.pretty_ne rfl rfl "settings" (by decide) (by decide) d d'

/-- Every document of every command is read back from what the command prints, and no two documents
are printed as the same text. -/
theorem documents_read_back :
    GenerateDocument.form.ReadsBack ∧ ValidateDocument.form.ReadsBack ∧
      ScanDocument.form.ReadsBack ∧ ConfigDocument.form.ReadsBack ∧ Function.Injective text := by
  refine ⟨?_, ?_, ?_, ?_, text_injective⟩
  · exact GenerateDocument.form_readable.readsBack
  · exact ValidateDocument.form_readable.readsBack
  · exact ScanDocument.form_readable.readsBack
  · exact ConfigDocument.form_readable.readsBack

end Document

end HandlerWiring
