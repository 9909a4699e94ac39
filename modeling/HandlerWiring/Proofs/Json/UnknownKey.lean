import HandlerWiring.Proofs.Json.Form
import HandlerWiring.Proofs.Json.Position

/-!
# Unknown keys

What a form makes of a key it does not know, wherever a record stands in a text. A closed record has
no other keys than its fields, so a text with an unknown key in it is refused. A union is never
closed: beside its tag and the fields of its case there may be any other members, and the text is
read as if they were not there. Only how deep they are still matters, as everything beside the tag
is taken in before the case is known.
-/

namespace HandlerWiring.Json

/-! ## Records by themselves -/

theorem of_unlessDeep {depth : Nat} {result : Option α} {x : α}
    (h : unlessDeep depth result = some x) : result = some x := by
  rw [unlessDeep, Option.ite_none_right_eq_some] at h
  exact h.2

namespace Schema

variable {title tag : String} {fields : Fields} {cases : Cases} {depth : Nat}

/-- The members of a closed record that is decoded all stand for fields. -/
theorem known_of_decode {ms : List (String × Value)} {x : (record title true fields).El}
    (decoded : (record title true fields).decode depth (.record ms) = some x) :
    ∀ m ∈ ms, m.1 ∈ fields.names := by
  have row := of_unlessDeep decoded
  by_cases known : true = true → ∀ m ∈ ms, m.1 ∈ fields.names
  · exact known rfl
  · cases (if_neg known).symm.trans row

/-- A union that is decoded has its tag once, with the name of a case. -/
theorem tag_of_decode {ms : List (String × Value)} {x : (tagged title tag cases).El}
    (decoded : (tagged title tag cases).decode depth (.record ms) = some x) :
    ∃ label ∈ cases.names, valuesUnder tag ms = [.text label] := by
  have row := of_unlessDeep decoded
  by_cases low : shallowMembers (depth + 1) (ms.filter (·.1 ≠ tag)) = true
  · rw [if_pos low] at row
    obtain ⟨label, chosen, -⟩ := Option.bind_eq_some_iff.mp row
    obtain ⟨known, only⟩ := eq_tag_of_decode chosen
    exact ⟨label, known, only⟩
  · cases (if_neg low).symm.trans row

end Schema

/-! ## Records in texts -/

/-- In a text of one schema, a record with these members stands at a position of another. -/
structure RecordAt (outer : Schema) (depth : Nat) (plug : Value → Value) (inner : Schema)
    (ms : List (String × Value)) (text : String) : Prop where
  position : outer.Position depth plug inner
  value : valueOf? text = some (plug (.record ms))

namespace Form

variable {form : Form α} {text text' : String} {a : α} {title tag : String} {fields : Fields}
  {depth : Nat} {plug : Value → Value} {inner : Schema} {ms : List (String × Value)}
  (wf : form.schema.WellFormed) (closed : form.schema.isClosed = true)

include wf closed

/-- In a text that is accepted, a record is decoded wherever it stands, and nothing in it is too
deep. -/
theorem decode_of_parse (accepted : form.parse text = .ok a)
    (h : RecordAt form.schema depth plug inner ms text) :
    (∃ y, inner.decode depth (.record ms) = some y) ∧ (Value.record ms).shallow depth = true := by
  obtain ⟨v, value, decoded⟩ := (parse_eq_ok_iff wf closed).mp accepted
  obtain ⟨v', value', low⟩ := value_of_parse closed accepted
  cases value.symm.trans h.value
  cases value'.symm.trans h.value
  obtain ⟨x, decoded, -⟩ := Option.map_eq_some_iff.mp decoded
  obtain ⟨y, inside⟩ := h.position.decode_part wf (by nofun) low decoded
  obtain ⟨others, split⟩ := h.position.shallow_iff 0
  rw [Nat.zero_add] at inside split
  exact ⟨⟨y, inside⟩, ((split _).mp low).1⟩

/-- A record in a text that is accepted has no keys but its fields. -/
theorem known_of_parse {strict : Bool} (accepted : form.parse text = .ok a)
    (h : RecordAt form.schema depth plug (.record title strict fields) ms text) :
    ∀ m ∈ ms, m.1 ∈ fields.names := by
  cases (Bool.and_eq_true_iff.mp (h.position.isClosed closed)).1
  obtain ⟨⟨y, decoded⟩, -⟩ := decode_of_parse wf closed accepted h
  exact Schema.known_of_decode decoded

/-- A text with an unknown key in a record is refused. -/
theorem refuses_unknown {strict : Bool} {m : String × Value}
    (h : RecordAt form.schema depth plug (.record title strict fields) ms text) (present : m ∈ ms)
    (unknown : m.1 ∉ fields.names) :
    ∃ fault, form.parse text = .error fault := by
  cases parsed : form.parse text with
  | error fault => exact ⟨fault, rfl⟩
  | ok a => exact absurd (known_of_parse wf closed parsed h m present) unknown

/-- A union in a text that is accepted has its tag once, with the name of a case. -/
theorem tag_of_parse {cases : Cases} (accepted : form.parse text = .ok a)
    (h : RecordAt form.schema depth plug (.tagged title tag cases) ms text) :
    ∃ label fields, cases.named? label = some fields ∧ valuesUnder tag ms = [.text label] := by
  obtain ⟨⟨y, decoded⟩, -⟩ := decode_of_parse wf closed accepted h
  obtain ⟨label, known, names⟩ := Schema.tag_of_decode decoded
  obtain ⟨fields, chosen⟩ := cases.named?_of_mem known
  exact ⟨label, fields, chosen, names⟩

/-- A text with one more member beside the tag of a union, which is no field of its case, is
accepted for the same value, unless that member is too deep. -/
theorem passes_unknown {cases : Cases} {label key : String} {w : Value} {before behind : List (String × Value)}
    (accepted : form.parse text = .ok a)
    (h : RecordAt form.schema depth plug (.tagged title tag cases) (before ++ behind) text)
    (chosen : cases.named? label = some fields)
    (names : valuesUnder tag (before ++ behind) = [.text label]) (untagged : key ≠ tag)
    (unknown : key ∉ fields.names)
    (h' : RecordAt form.schema depth plug (.tagged title tag cases)
      (before ++ (key, w) :: behind) text') :
    form.parse text' = .ok a ↔ w.shallow (depth + 1) = true := by
  constructor
  · intro accepted'
    exact (shallow_record_insert.mp (decode_of_parse wf closed accepted' h').2).1
  · intro low
    have rest := (decode_of_parse wf closed accepted h).2
    have exchanged : form.schema.decode 0 (plug (.record (before ++ (key, w) :: behind))) =
        form.schema.decode 0 (plug (.record (before ++ behind))) := by
      refine h.position.decode_exchange wf ⟨nofun, nofun⟩ ?_ ?_
      · rw [Nat.zero_add]
        exact ⟨shallow_record_insert.mpr ⟨low, rest⟩, rest⟩
      · rw [Nat.zero_add]
        have tagged := mem_valuesUnder.mp (names ▸ List.mem_singleton_self (Value.text label))
        exact Schema.decode_tagged_insert chosen tagged untagged low
          (fields.decode_insert w before behind unknown)
    obtain ⟨v, value, decoded⟩ := (parse_eq_ok_iff wf closed).mp accepted
    cases value.symm.trans h.value
    refine (parse_eq_ok_iff wf closed).mpr ⟨_, h'.value, ?_⟩
    rw [exchanged, decoded]

end Form

end HandlerWiring.Json
