import HandlerWiring.Pass
import HandlerWiring.Proofs.Declaration.UnknownKey
import HandlerWiring.Proofs.Json.Alike

/-!
# The formatting of a snapshot

How the text of a snapshot is laid out, how its characters are spelt, in what order its keys stand
and whether defaults are written out makes no difference: either no text of the document is a
snapshot, or all of them are the same snapshot. So whatever is made of the snapshot is the same.

The digest of the text itself does tell texts apart; it is no part of a snapshot.
-/

namespace HandlerWiring

open Json

namespace Snapshot

/-- Two texts stand for the same snapshot, or both for none, and the same is made of them. -/
structure ReadAlike (text text' : String) : Prop where
  refused : (∃ fault, form.parse text = .error fault) ↔ ∃ fault, form.parse text' = .error fault
  accepted (s : Snapshot) : form.parse text = .ok s ↔ form.parse text' = .ok s
  hash : (form.parse text).toOption.map Snapshot.hash =
    (form.parse text').toOption.map Snapshot.hash
  /-- The outcome of a pass, whatever sources the settings come from. -/
  outcome (sources : Sources) :
    (form.parse text).toOption.map (fun s => (s.generate sources).value) =
      (form.parse text').toOption.map fun s => (s.generate sources).value
  /-- The generated unit, with the settings from the snapshot's own options. -/
  unit : (form.parse text).toOption.map (fun s => s.generateOwn.value.unit) =
    (form.parse text').toOption.map fun s => s.generateOwn.value.unit

/-- Texts that come to the same without their faults are read alike. -/
theorem readAlike_of_toOption {text text' : String}
    (same : (form.parse text).toOption = (form.parse text').toOption) : ReadAlike text text' where
  refused := by rw [← toOption_eq_none_iff, ← toOption_eq_none_iff, same]
  accepted s := by rw [← toOption_eq_some_iff, ← toOption_eq_some_iff, same]
  hash := by rw [same]
  outcome sources := by rw [same]
  unit := by rw [same]

/-- Texts that differ in gaps, in the spelling of characters, in the order of keys and in defaults
that are written out are read alike. -/
theorem formatting_does_not_matter {text text' : String}
    (same : form.SameDocument text text') : ReadAlike text text' :=
  readAlike_of_toOption (form.toOption_parse_eq form_readable form_closed same)

/-- Two texts of the empty snapshot that differ in all of this. -/
theorem formatting_does_not_matter_sample :
    form.SameDocument "\x7b\"methods\":[],\"types\":[]\x7d" " \x7b\"t\\u0079pes\" : [ ]\x7d\n" ∧
      ReadAlike "\x7b\"methods\":[],\"types\":[]\x7d" " \x7b\"t\\u0079pes\" : [ ]\x7d\n" ∧
      form.parse "\x7b\"methods\":[],\"types\":[]\x7d" = .ok .empty := by
  have full : TextDenotes "\x7b\"methods\":[],\"types\":[]\x7d"
      (some (.record [("methods", .list []), ("types", .list [])])) := by
    have methods : Quotation.Denotes "methods".toList _ := Quotation.denotes_printed "methods".toList
    have types : Quotation.Denotes "types".toList _ := Quotation.denotes_printed "types".toList
    have nothing : Denotes "[]".toList (some (.list [])) := .list (.close isGap_nil)
    have members : EntriesDenote true _ _ := .more isGap_nil isGap_nil methods isGap_nil isGap_nil
      nothing (.more isGap_nil isGap_nil types isGap_nil isGap_nil nothing (.close isGap_nil))
    exact .mk isGap_nil isGap_nil (.record members)
  have short : TextDenotes " \x7b\"t\\u0079pes\" : [ ]\x7d\n"
      (some (.record [("types", .list [])])) := by
    have gap : IsGap [' '] := by decide
    have behind : IsGap ['\n'] := by decide
    have pes : Quotation.Denotes "pes".toList _ := Quotation.denotes_printed "pes".toList
    have ypes : Quotation.Denotes "\\u0079pes".toList _ := .quad (n := 0x79) rfl rfl rfl pes
    have types : Quotation.Denotes "t\\u0079pes".toList _ :=
      .plain (by decide) (by decide) (by decide) ypes
    have nothing : Denotes "[ ]".toList (some (.list [])) := .list (.close gap)
    have members : EntriesDenote true _ _ := .more isGap_nil isGap_nil types gap gap nothing
      (.close isGap_nil)
    exact .mk gap behind (.record members)
  have reordered : Value.Reorders (.record [("methods", .list []), ("types", .list [])])
      (.record [("types", .list []), ("methods", .list [])]) := .here (.swap _ _ _) (by decide)
  have leftOut : form.schema.WritesOut (.record [("types", .list []), ("methods", .list [])])
      (.record [("types", .list [])]) := by
    have implied : form.schema.Implies (.record ([("types", .list [])] ++ []))
        (.record ([("types", .list [])] ++ ("methods", .list []) :: [])) :=
      .member (.tail _ (.head _)) (by decide)
    exact .mk (.here form.schema) implied
  have same : form.SameDocument "\x7b\"methods\":[],\"types\":[]\x7d"
      " \x7b\"t\\u0079pes\" : [ ]\x7d\n" :=
    ⟨_, _, full, short,
      .some (.trans _ _ _ (.rel _ _ (.inl reordered)) (.rel _ _ (.inr leftOut)))⟩
  have read : form.parse "\x7b\"methods\":[],\"types\":[]\x7d" = .ok .empty :=
    (Form.parse_eq_ok_iff form_readable.wellFormed form_closed).mpr ⟨_, full.valueOf?, rfl⟩
  exact ⟨same, formatting_does_not_matter same, read⟩

-- What may be left out of a snapshot, of a type and of a method.
example : ∃ title closed fields, form.schema = .record title closed fields ∧
    fields.implied = [("types", .list []), ("methods", .list []), ("options", .record [])] :=
  ⟨_, _, _, rfl, rfl⟩

example : ∃ title closed fields, Candidate.form.schema = .record title closed fields ∧
    fields.implied =
      [("is_value_type", .boolean false), ("is_abstract", .boolean false),
        ("is_unbound_generic", .boolean false), ("interfaces", .list []), ("location", .null)] :=
  ⟨_, _, _, rfl, rfl⟩

example : ∃ title closed fields, Method.form.schema = .record title closed fields ∧
    fields.implied =
      [("role", .text "ordinary"), ("is_static", .boolean false), ("is_virtual", .boolean false),
        ("is_abstract", .boolean false), ("is_async", .boolean false),
        ("is_extension", .boolean false),
        ("completeness", .record [("state", .text "declaration")]), ("parameters", .list []),
        ("namespace", .text ""), ("location", .null)] :=
  ⟨_, _, _, rfl, rfl⟩

end Snapshot

end HandlerWiring
