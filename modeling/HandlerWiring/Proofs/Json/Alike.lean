import Mathlib.Logic.Relation
import HandlerWiring.Proofs.Json.Arrangement
import HandlerWiring.Proofs.Json.Form
import HandlerWiring.Proofs.Json.Implied

/-!
# Texts of one document

Two documents are alike for a schema if one is got from the other by putting members in another
order and by writing defaults out or leaving them out, in any number of steps, each anywhere. A form
with a closed schema makes the same of all texts whose documents are alike, however they are spelt:
gaps between tokens and escapes are no part of a document.

Which fault a text is refused for may differ, as its place does.
-/

namespace HandlerWiring.Json

/-- Documents that differ in the order of members and in defaults that are written out. -/
def Schema.Alike (schema : Schema) : Value → Value → Prop :=
  Relation.EqvGen fun v w => v.Reorders w ∨ schema.WritesOut v w

/-- One step between documents that are alike changes neither whether they are too deep nor, if they
are not, what they are decoded as. -/
theorem Schema.Alike.decode {schema : Schema} {v w : Value} (h : schema.Alike v w)
    (wf : schema.WellFormed) (fits : schema.height ≤ depthLimit) :
    (v.shallow 0 = true ↔ w.shallow 0 = true) ∧
      (v.shallow 0 = true → schema.decode 0 v = schema.decode 0 w) := by
  induction h with
  | rel v w step =>
    rcases step with reorders | writesOut
    · have like := reorders.like
      rw [like.shallow]
      exact ⟨Iff.rfl, fun _ => like.decode schema 0⟩
    · exact ⟨writesOut.shallow_iff fits, writesOut.decode wf fits⟩
  | refl v => exact ⟨Iff.rfl, fun _ => rfl⟩
  | symm v w _ ih =>
    obtain ⟨low, same⟩ := ih
    exact ⟨low.symm, fun h => (same (low.mpr h)).symm⟩
  | trans v w x _ _ ih ih' =>
    obtain ⟨low, same⟩ := ih
    obtain ⟨low', same'⟩ := ih'
    exact ⟨low.trans low', fun h => (same h).trans (same' (low.mp h))⟩

namespace Form

variable {form : Form α} {text text' : String}

/-- Two texts of the grammar whose documents are alike, or that have none. -/
def SameDocument (form : Form α) (text text' : String) : Prop :=
  ∃ v v', TextDenotes text v ∧ TextDenotes text' v' ∧ Option.Rel form.schema.Alike v v'

/-- A form with a closed schema accepts a text of the grammar for what its document is decoded as.
It accepts none without a document, and none whose document is too deep. -/
theorem toOption_parse_denoted (wf : form.schema.WellFormed)
    (closed : form.schema.isClosed = true) {v : Option Value} (denotes : TextDenotes text v) :
    (form.parse text).toOption =
      v.bind fun v =>
        if v.shallow 0 = true then (form.schema.decode 0 v).map form.ofRow else none := by
  have accepted {a : α} (parsed : form.parse text = .ok a) :
      ∃ v', v = some v' ∧ v'.shallow 0 = true := by
    obtain ⟨v', value, low⟩ := value_of_parse closed parsed
    exact ⟨v', denotes.valueOf?.symm.trans value, low⟩
  cases v with
  | none =>
    cases parsed : form.parse text with
    | error fault => rfl
    | ok a =>
      obtain ⟨_, none, _⟩ := accepted parsed
      cases none
  | some v =>
    by_cases low : v.shallow 0 = true
    · rw [toOption_parse wf denotes.valueOf?, Option.bind_some, if_pos low]
    · rw [Option.bind_some, if_neg low]
      cases parsed : form.parse text with
      | error fault => rfl
      | ok a =>
        obtain ⟨_, same, shallow⟩ := accepted parsed
        cases same
        exact absurd shallow low

/-- Texts of one document are read alike. -/
theorem toOption_parse_eq (h : form.Readable) (closed : form.schema.isClosed = true)
    (same : form.SameDocument text text') :
    (form.parse text).toOption = (form.parse text').toOption := by
  obtain ⟨v, v', denotes, denotes', alike⟩ := same
  rw [toOption_parse_denoted h.wellFormed closed denotes,
    toOption_parse_denoted h.wellFormed closed denotes']
  cases alike with
  | none => rfl
  | some alike =>
    obtain ⟨low, same⟩ := alike.decode h.wellFormed h.fits
    simp only [Option.bind_some, low]
    split
    · next shallow => rw [same (low.mpr shallow)]
    · rfl

end Form

end HandlerWiring.Json
