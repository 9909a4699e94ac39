import HandlerWiring.Proofs.Declaration.Snapshot
import HandlerWiring.Proofs.Json.UnknownKey

/-!
# Unknown keys in snapshots

Every record of a snapshot is closed, wherever it stands: the snapshot itself, its types with their
interfaces and locations, its methods with their parameters, containing types and locations. A text
in which one of them has an unknown key is refused. The completeness of a method is no such record.
It is a union told apart by its state, and what stands beside the state without being known there is
passed over: a misspelt location is lost without a word, and so is the location of a declaration.
-/

namespace HandlerWiring

open Json

/-- The keys of a completeness in one of its states. -/
def Completeness.keys (state : String) : List String :=
  if state = "separate_implementation" then ["state", "location"] else ["state"]

namespace Snapshot

/-- Every record of a snapshot is closed. -/
theorem form_closed : form.schema.isClosed = true := by decide

/-- What is known beside the state of a completeness, as its schema has it. -/
theorem mem_keys_of_chosen {title tag state key : String} {cases : Cases} {fields : Fields}
    (schema : Completeness.form.schema = .tagged title tag cases)
    (chosen : cases.named? state = some fields) :
    key ∈ Completeness.keys state ↔ key = tag ∨ key ∈ fields.names := by
  obtain ⟨-, rfl, rfl⟩ := Schema.tagged.inj schema
  obtain ⟨rfl, rfl⟩ | ⟨-, chosen⟩ := Cases.eq_of_named? chosen
  · simp [Completeness.keys, Fields.names]
  obtain ⟨rfl, rfl⟩ | ⟨-, chosen⟩ := Cases.eq_of_named? chosen
  · simp [Completeness.keys, Fields.names]
  obtain ⟨rfl, rfl⟩ | ⟨-, chosen⟩ := Cases.eq_of_named? chosen
  · simp [Completeness.keys, Fields.names]
  obtain ⟨rfl, rfl⟩ | ⟨-, chosen⟩ := Cases.eq_of_named? chosen
  · simp [Completeness.keys, Fields.names]
  · cases chosen

/-- A snapshot is read only from texts with known keys in every record, and one unknown key in any
of its records is enough for a text to be refused. Beside the state of a completeness an unknown
key makes no difference, as long as what stands under it is not too deep. -/
theorem unknown_keys_refused_except_beside_state {text : String} {s : Snapshot}
    (accepted : form.parse text = .ok s) :
    (∃ v, valueOf? text = some v) ∧
      (∀ title strict fields depth plug ms,
        RecordAt form.schema depth plug (.record title strict fields) ms text →
          (∀ m ∈ ms, m.1 ∈ fields.names) ∧
            ∀ before behind key w text', before ++ behind = ms → key ∉ fields.names →
              RecordAt form.schema depth plug (.record title strict fields)
                (before ++ (key, w) :: behind) text' →
              ∃ fault, form.parse text' = .error fault) ∧
      ∀ depth plug ms, RecordAt form.schema depth plug Completeness.form.schema ms text →
        ∃ state, valuesUnder "state" ms = [.text state] ∧
          ∀ before behind key w text', before ++ behind = ms → key ∉ Completeness.keys state →
            RecordAt form.schema depth plug Completeness.form.schema
              (before ++ (key, w) :: behind) text' →
            (form.parse text' = .ok s ↔ w.shallow (depth + 1) = true) := by
  obtain ⟨v, value, -⟩ := Form.value_of_parse form_closed accepted
  have wf := form_readable.wellFormed
  refine ⟨⟨v, value⟩, fun title strict fields depth plug ms stands => ⟨?_, ?_⟩,
    fun depth plug ms stands => ?_⟩
  · exact Form.known_of_parse wf form_closed accepted stands
  · intro before behind key w text' _ unknown stands'
    exact Form.refuses_unknown wf form_closed stands'
      (List.mem_append_right before (List.mem_cons_self ..)) unknown
  · obtain ⟨state, fields, chosen, only⟩ := Form.tag_of_parse wf form_closed accepted stands
    refine ⟨state, only, fun before behind key w text' together unknown stands' => ?_⟩
    subst together
    rw [mem_keys_of_chosen rfl chosen, not_or] at unknown
    exact Form.passes_unknown wf form_closed accepted stands chosen only unknown.1 unknown.2 stands'

end Snapshot

/-- A snapshot with a method that is declared and no more. -/
def Sample.declared : Snapshot := Snapshot.empty.addMethod (.ofName "A" "E")

/-- The document of such a snapshot, with a completeness. -/
def Sample.declaredAs (completeness : Value) : Value :=
  .record
    [ ("types", .list []),
      ("methods", .list
        [ .record
          [ ("name", .text "A"), ("accessibility", .text "public"),
            ("completeness", completeness), ("parameters", .list []),
            ("return_type", .text "void"),
            ("containing_type",
              .record [("name", .text "E"), ("accessibility", .text "public")]),
            ("namespace", .text "")]])]

/-- A declaration is read as one although a flag stands where no location may stand. -/
theorem Snapshot.unknown_keys_refused_except_beside_state_sample :
    form.parse (form.compact Sample.declared) = .ok Sample.declared ∧
      form.parse (Sample.declaredAs (.record
        [("state", .text "declaration"), ("location", .boolean true)])).compact =
          .ok Sample.declared := by
  have accepted := form_readable.parse_compact Sample.declared
  have ofMethod : Method.form.schema.Position 1 (fun v => .record
      ([("name", .text "A"), ("accessibility", .text "public")] ++ ("completeness", v) ::
        [("parameters", .list []), ("return_type", .text "void"),
          ("containing_type", .record [("name", .text "E"), ("accessibility", .text "public")]),
          ("namespace", .text "")])) Completeness.form.schema :=
    .member _ _ rfl (.here _)
  have position : form.schema.Position 3 Sample.declaredAs Completeness.form.schema :=
    .member [("types", .list [])] [] rfl (.item [] [] ofMethod)
  have written : valueOf? (form.compact Sample.declared) =
      some (Sample.declaredAs (.record [("state", .text "declaration")])) :=
    valueOf?_print Layout.onlyGaps_compact (form.schema.whole_write (form.toRow Sample.declared))
  obtain ⟨-, -, beside⟩ := unknown_keys_refused_except_beside_state accepted
  obtain ⟨state, only, passes⟩ := beside _ _ _ ⟨position, written⟩
  cases only
  refine ⟨accepted, (passes [("state", .text "declaration")] [] "location" (.boolean true) _ rfl
    (by decide) ⟨position, valueOf?_print Layout.onlyGaps_compact ?_⟩).mpr rfl⟩
  simp [Sample.declaredAs, Value.Whole, WholeMembers, WholeItems]

end HandlerWiring
