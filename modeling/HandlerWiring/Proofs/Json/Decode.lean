import HandlerWiring.Json.Schema.Reader
import HandlerWiring.Proofs.Json.Node

/-!
# Decoding values

What the reader of a schema makes of a document, leaving aside which fault it reports, can be said
of the value of the document alone: `Schema.decode` looks each field up under its key, wherever it
stands. Here are the definition and the parts of the reader that know no fields: scalars, lists and
dictionaries.
-/

namespace HandlerWiring.Json

/-! ## Decoding -/

/-- The values of the members under a key. -/
def valuesUnder (key : String) (ms : List (String × Value)) : List Value :=
  ms.filterMap fun m => if m.1 = key then some m.2 else none

/-- What one value is decoded as, or something else if there is no value. Several are refused. -/
def uniqueOr (absent : Option α) (decode : Value → Option α) : List Value → Option α
  | [] => absent
  | [v] => decode v
  | _ :: _ :: _ => none

/-- A result that stands in a list or record, unless that lies too deep. -/
def unlessDeep (depth : Nat) (result : Option α) : Option α :=
  if depth < depthLimit then result else none

/-- A text. -/
def Value.decodeText : Value → Option String
  | .text s => some s
  | _ => none

/-- A flag. -/
def Value.decodeFlag : Value → Option Bool
  | .boolean b => some b
  | _ => none

/-- An unsigned number of 32 bits. -/
def Value.decodeWord : Value → Option UInt32
  | .number (.integer n) =>
    if 0 ≤ n ∧ n < 2 ^ (32 : Nat) then some (UInt32.ofNat n.toNat) else none
  | _ => none

/-- One of several names: a text, or a record with the name as its only key and `null` there. -/
def Value.decodeName (depth : Nat) (choices : List String) : Value → Option (Fin choices.length)
  | .text name => choices.findFinIdx? (· == name)
  | .record ms =>
    unlessDeep depth <|
      match ms with
      | [(name, .null)] => choices.findFinIdx? (· == name)
      | _ => none
  | _ => none

/-- The tag of a union: a text that is one of the names. -/
def Value.decodeTag (names : List String) : Value → Option String
  | .text name => if names.contains name then some name else none
  | _ => none

/-- The entries of a dictionary. -/
def decodePairs : List (String × Value) → Option (List (String × String))
  | [] => some []
  | (key, v) :: ms => do
    let x ← v.decodeText
    return (key, x) :: (← decodePairs ms)

mutual

/-- The value of a schema that a document stands for, inside `depth` lists and records. -/
def Schema.decode (depth : Nat) : (schema : Schema) → Value → Option schema.El
  | .text, v => v.decodeText
  | .flag, v => v.decodeFlag
  | .word, v => v.decodeWord
  | .name choices, v => v.decodeName depth choices
  | .list item, v =>
    match v with
    | .list vs => unlessDeep depth (vs.mapM (item.decode (depth + 1)))
    | _ => none
  | .optional item, v =>
    match v with
    | .null => some none
    | v => (item.decode depth v).map some
  | .dictionary, v =>
    match v with
    | .record ms =>
      unlessDeep depth ((decodePairs ms).map Dictionary.ofList)
    | _ => none
  | .record _ closed fields, v =>
    match v with
    | .record ms =>
      unlessDeep depth <|
        if closed = true → ∀ m ∈ ms, m.1 ∈ fields.names then fields.decode (depth + 1) ms
        else none
    | .list vs => unlessDeep depth (fields.decodeList (depth + 1) vs)
    | _ => none
  | .tagged _ tag cases, v =>
    match v with
    | .record ms =>
      unlessDeep depth <|
        if shallowMembers (depth + 1) (ms.filter (·.1 ≠ tag)) = true then
          (uniqueOr none (Value.decodeTag cases.names) (valuesUnder tag ms)).bind fun name =>
            cases.decode (depth + 1) name ms
        else none
    | .list (v :: vs) =>
      unlessDeep depth <|
        if shallowItems (depth + 1) vs = true then
          (v.decodeTag cases.names).bind fun name => cases.decodeList (depth + 1) name vs
        else none
    | _ => none
termination_by structural schema => schema

/-- The values of the fields in a record: each stands at most once, and one that may lack is given
its default. -/
def Fields.decode (depth : Nat) : (fields : Fields) → List (String × Value) → Option fields.El
  | .none, _ => some ()
  | .field name presence schema rest, ms =>
    (uniqueOr (if presence.recordMayLack then schema.default? else none) (schema.decode depth)
      (valuesUnder name ms)).bind fun x => (rest.decode depth ms).map (x, ·)
termination_by structural fields => fields

/-- The values of the fields in a list, which ends with them or before one that it may lack. -/
def Fields.decodeList (depth : Nat) : (fields : Fields) → List Value → Option fields.El
  | .none, vs => if vs.isEmpty then some () else none
  | .field _ presence schema rest, vs =>
    (match vs with
      | [] => if presence.listMayLack then schema.default? else none
      | v :: _ => schema.decode depth v).bind fun x => (rest.decodeList depth vs.tail).map (x, ·)
termination_by structural fields => fields

/-- The case with a name, its fields in a record. -/
def Cases.decode (depth : Nat) (name : String) :
    (cases : Cases) → List (String × Value) → Option cases.El
  | .none, _ => none
  | .case n fields rest, ms =>
    if n = name then (fields.decode depth ms).map .inl
    else (rest.decode depth name ms).map .inr
termination_by structural cases => cases

/-- The case with a name, its fields in a list. -/
def Cases.decodeList (depth : Nat) (name : String) :
    (cases : Cases) → List Value → Option cases.El
  | .none, _ => none
  | .case n fields rest, vs =>
    if n = name then (fields.decodeList depth vs).map .inl
    else (rest.decodeList depth name vs).map .inr
termination_by structural cases => cases

end

/-! ## Values under a key -/

theorem valuesUnder_self (key : String) (v : Value) (ms : List (String × Value)) :
    valuesUnder key ((key, v) :: ms) = v :: valuesUnder key ms := by
  rw [valuesUnder, List.filterMap_cons, if_pos rfl, valuesUnder]

theorem valuesUnder_other {key k : String} (other : k ≠ key) (v : Value)
    (ms : List (String × Value)) : valuesUnder key ((k, v) :: ms) = valuesUnder key ms := by
  rw [valuesUnder, List.filterMap_cons, if_neg other, valuesUnder]

theorem valuesUnder_append (key : String) (ms ms' : List (String × Value)) :
    valuesUnder key (ms ++ ms') = valuesUnder key ms ++ valuesUnder key ms' :=
  List.filterMap_append

/-- The values under a key are those of the members with that key. -/
theorem mem_valuesUnder {key : String} {v : Value} {ms : List (String × Value)} :
    v ∈ valuesUnder key ms ↔ (key, v) ∈ ms := by
  rw [valuesUnder, List.mem_filterMap]
  constructor
  · rintro ⟨m, stands, under⟩
    obtain ⟨rfl, value⟩ := Option.ite_none_right_eq_some.mp under
    cases value
    exact stands
  · exact fun stands => ⟨(key, v), stands, if_pos rfl⟩

/-- A slot that is given the default if it is empty holds what is decoded. -/
theorem uniqueOr_or (absent : Option α) (decode : Value → Option α) (vs : List Value) :
    ((uniqueOr (some none) (fun v => (decode v).map some) vs).bind fun slot => slot.or absent) =
      uniqueOr absent decode vs := by
  cases vs with
  | nil => rfl
  | cons v vs =>
    cases vs with
    | nil =>
      dsimp only [uniqueOr]
      cases decode v with
      | none => rfl
      | some x => rfl
    | cons _ _ => rfl

theorem uniqueOr_bind (decode : Value → Option α) (next : α → Option β) (vs : List Value) :
    ((uniqueOr (some none) (fun v => (decode v).map some) vs).bind fun slot => slot.bind next) =
      (uniqueOr none decode vs).bind next := by
  rw [← uniqueOr_or none decode, Option.bind_assoc]
  simp only [Option.or_none]

/-! ## Results without faults -/

theorem toOption_eq_some_iff {r : Except Fault α} {x : α} : r.toOption = some x ↔ r = .ok x := by
  cases r with
  | error fault => exact ⟨fun h => (nomatch h), fun h => (nomatch h)⟩
  | ok y => exact ⟨fun h => congrArg _ (Option.some.inj h), fun h => congrArg _ (Except.ok.inj h)⟩

theorem toOption_eq_none_iff {r : Except Fault α} :
    r.toOption = none ↔ ∃ fault, r = .error fault := by
  cases r with
  | error fault => exact ⟨fun _ => ⟨fault, rfl⟩, fun _ => rfl⟩
  | ok y => exact ⟨fun h => (nomatch h), fun ⟨_, h⟩ => (nomatch h)⟩

theorem toOption_bind (r : Except Fault α) (f : α → Except Fault β) :
    (r >>= f).toOption = r.toOption.bind fun x => (f x).toOption := by
  cases r with
  | error fault => rfl
  | ok x => rfl

theorem toOption_bind_pure (r : Except Fault α) (f : α → β) :
    (do return f (← r) : Except Fault β).toOption = r.toOption.map f := by
  cases r with
  | error fault => rfl
  | ok x => rfl

theorem toOption_pure (x : α) : (pure x : Except Fault α).toOption = some x := rfl

theorem toOption_placedAt (p : Place) (r : Except Fault α) :
    (placedAt p r).toOption = r.toOption := by
  cases r with
  | error fault => rfl
  | ok x => rfl

theorem toOption_withoutPlace (r : Except Fault α) : (withoutPlace r).toOption = r.toOption := by
  cases r with
  | error fault => rfl
  | ok x => rfl

theorem toOption_checkDepth (start : Place) (depth : Nat) (r : Except Fault α) :
    (do checkDepth start depth; r).toOption = unlessDeep depth r.toOption := by
  unfold checkDepth unlessDeep
  split
  · rfl
  · rfl

/-! ## Scalars -/

theorem toOption_chooseName (choices : List String) (name : String) (stop : Place) :
    (chooseName choices name stop).toOption = choices.findFinIdx? (· == name) := by
  unfold chooseName
  cases choices.findFinIdx? (· == name) with
  | none => rfl
  | some i => rfl

section

variable {depth : Nat} {node : Node} {v : Value}

theorem Node.Shows.toOption_readText (h : node.Shows depth v) :
    node.readText.toOption = v.decodeText := by
  cases h <;> rfl

theorem Node.Shows.toOption_readFlag (h : node.Shows depth v) :
    node.readFlag.toOption = v.decodeFlag := by
  cases h <;> rfl

theorem Node.Shows.toOption_readWord (h : node.Shows depth v) :
    node.readWord.toOption = v.decodeWord := by
  cases h with
  | @number _ _ _ n =>
    cases n with
    | real bits => rfl
    | integer n =>
      rw [Node.readWord, Value.decodeWord]
      split
      · rfl
      · rfl
  | _ => rfl

theorem Node.Shows.toOption_readTag (h : node.Shows depth v) (names : List String) :
    (node.readTag names).toOption = v.decodeTag names := by
  cases h with
  | text =>
    rw [Node.readTag, Value.decodeTag]
    split
    · rfl
    · rfl
  | _ => rfl

theorem Node.Shows.toOption_readName (h : node.Shows depth v) (choices : List String) :
    (node.readName choices).toOption = v.decodeName depth choices := by
  cases h with
  | text => exact toOption_chooseName choices _ _
  | @record _ start entries ms h =>
    refine (toOption_checkDepth start depth _).trans (congrArg (unlessDeep depth) ?_)
    cases h with
    | close => rfl
    | @more _ _ _ name _ _ value rest v ms first behind =>
      dsimp only
      rw [toOption_bind, toOption_chooseName]
      cases first <;> cases behind <;> dsimp only <;>
        cases choices.findFinIdx? (· == name) <;> rfl
  | _ => rfl

end

/-! ## Lists and dictionaries -/

/-- Items that are read one by one as they are decoded. -/
theorem Items.Shows.toOption_readAll {read : Node → Except Fault α} {decode : Value → Option α}
    {depth : Nat} (each : ∀ node v, node.Shows depth v → (read node).toOption = decode v)
    {items : Items} {vs : List Value} (h : items.Shows depth vs) :
    (items.readAll read).toOption = vs.mapM decode := by
  induction vs generalizing items with
  | nil =>
    cases h
    rfl
  | cons v vs ih =>
    cases h with
    | more first behind =>
      simp only [Items.readAll, toOption_bind, toOption_placedAt, each _ _ first, ih behind,
        toOption_pure, List.mapM_cons]
      rfl

theorem Entries.Shows.toOption_readPairs {depth : Nat} {entries : Entries}
    {ms : List (String × Value)} (h : entries.Shows depth ms) :
    (entries.readPairs Node.readText).toOption = decodePairs ms := by
  induction ms generalizing entries with
  | nil =>
    cases h
    rfl
  | cons m ms ih =>
    cases h with
    | more first behind =>
      simp only [Entries.readPairs, toOption_bind, toOption_placedAt, first.toOption_readText,
        ih behind, toOption_pure, decodePairs]
      rfl

end HandlerWiring.Json
