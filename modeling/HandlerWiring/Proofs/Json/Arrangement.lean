import Mathlib.Data.List.Forall2
import HandlerWiring.Proofs.Dictionary
import HandlerWiring.Proofs.Json.Decode
import HandlerWiring.Proofs.Json.Schema

/-!
# The order of members

What a document is decoded as does not depend on the order in which the members of its records
stand, wherever the records stand, as long as no key is repeated in them. This is said of every
schema at once: values that are `Like` each other are told apart by none, be it in a record, in a
list or in a dictionary.

Records with repeated keys are not considered: their members are refused or, in a dictionary, the
last one counts.
-/

namespace HandlerWiring.Json

/-- Two values that no schema tells apart, at whatever depth they stand. -/
structure Value.Like (v w : Value) : Prop where
  decode (schema : Schema) (depth : Nat) : schema.decode depth v = schema.decode depth w
  shallow (depth : Nat) : v.shallow depth = w.shallow depth
  null_iff : v = .null ↔ w = .null

/-- Members that have the same under each key, up to `Value.Like`. -/
def MembersLike (ms ns : List (String × Value)) : Prop :=
  ∀ key, List.Forall₂ Value.Like (valuesUnder key ms) (valuesUnder key ns)

namespace Value.Like

variable {v w : Value}

theorem refl (v : Value) : v.Like v := ⟨fun _ _ => rfl, fun _ => rfl, Iff.rfl⟩

theorem symm (h : v.Like w) : w.Like v where
  decode schema depth := (h.decode schema depth).symm
  shallow depth := (h.shallow depth).symm
  null_iff := h.null_iff.symm

theorem decodeText (h : v.Like w) : v.decodeText = w.decodeText :=
  h.decode .text 0

theorem decodeTag (h : v.Like w) (names : List String) : v.decodeTag names = w.decodeTag names := by
  have tag (v : Value) : v.decodeTag names =
      v.decodeText.bind fun name => if names.contains name then some name else none := by
    cases v <;> rfl
  rw [tag, tag, h.decodeText]

theorem forall_refl (vs : List Value) : List.Forall₂ Value.Like vs vs :=
  List.forall₂_same.mpr fun v _ => .refl v

end Value.Like

/-! ## Lists -/

section

variable {vs ws : List Value}

/-- Values one of which is looked for are decoded alike. -/
theorem uniqueOr_like {decode decode' : Value → Option α} (absent : Option α)
    (same : ∀ v w, v.Like w → decode v = decode' w) (h : List.Forall₂ Value.Like vs ws) :
    uniqueOr absent decode vs = uniqueOr absent decode' ws := by
  cases h with
  | nil => rfl
  | cons first behind =>
    cases behind with
    | nil => exact same _ _ first
    | cons _ _ => rfl

theorem mapM_like (item : Schema) (depth : Nat) (h : List.Forall₂ Value.Like vs ws) :
    vs.mapM (item.decode depth) = ws.mapM (item.decode depth) := by
  induction h with
  | nil => rfl
  | cons first _ ih => rw [List.mapM_cons, List.mapM_cons, first.decode, ih]

theorem shallowItems_like (depth : Nat) (h : List.Forall₂ Value.Like vs ws) :
    shallowItems depth vs = shallowItems depth ws := by
  induction h with
  | nil => rfl
  | cons first _ ih => rw [shallowItems, shallowItems, first.shallow, ih]

theorem Fields.decodeList_like (depth : Nat) : ∀ (fields : Fields) {vs ws : List Value},
    List.Forall₂ Value.Like vs ws → fields.decodeList depth vs = fields.decodeList depth ws
  | .none, _, _, .nil | .none, _, _, .cons _ _ => rfl
  | .field .., _, _, .nil => rfl
  | .field _ _ schema rest, _, _, .cons first behind => by
    rw [Fields.decodeList, Fields.decodeList, List.tail_cons, List.tail_cons,
      rest.decodeList_like depth behind]
    exact congrArg (Option.bind · _) (first.decode schema depth)

theorem Cases.decodeList_like (depth : Nat) (name : String) (h : List.Forall₂ Value.Like vs ws) :
    ∀ (cases : Cases), cases.decodeList depth name vs = cases.decodeList depth name ws
  | .none => rfl
  | .case n fields rest => by
    rw [Cases.decodeList, Cases.decodeList, fields.decodeList_like depth h,
      rest.decodeList_like depth name h]

/-- An option that is present is decoded as what it holds. -/
theorem Schema.decode_optional (item : Schema) (depth : Nat) {v : Value} (present : v ≠ .null) :
    (Schema.optional item).decode depth v = (item.decode depth v).map some := by
  cases v with
  | null => exact absurd rfl present
  | _ => rfl

/-- No schema tells two lists apart whose items it does not tell apart. -/
theorem Schema.decode_list_like (depth : Nat) (h : List.Forall₂ Value.Like vs ws) :
    ∀ (schema : Schema), schema.decode depth (.list vs) = schema.decode depth (.list ws)
  | .text | .flag | .word | .name _ | .dictionary => rfl
  | .list item => congrArg (unlessDeep depth) (mapM_like item (depth + 1) h)
  | .optional item => by
    rw [decode_optional item depth (by nofun), decode_optional item depth (by nofun),
      item.decode_list_like depth h]
  | .record _ _ fields => congrArg (unlessDeep depth) (fields.decodeList_like (depth + 1) h)
  | .tagged _ _ cases => by
    cases h with
    | nil => rfl
    | cons first behind =>
      refine congrArg (unlessDeep depth) ?_
      rw [shallowItems_like (depth + 1) behind, first.decodeTag]
      simp only [cases.decodeList_like (depth + 1) _ behind]

theorem Value.Like.list (h : List.Forall₂ Value.Like vs ws) :
    (Value.list vs).Like (.list ws) where
  decode schema depth := schema.decode_list_like depth h
  shallow depth := by rw [Value.shallow, Value.shallow, shallowItems_like (depth + 1) h]
  null_iff := ⟨nofun, nofun⟩

end

/-! ## Records -/

/-- The texts under some keys, without what is no text. -/
def textPairs (ms : List (String × Value)) : List (String × String) :=
  ms.filterMap fun m => m.2.decodeText.map (m.1, ·)

theorem textPairs_cons (key : String) (v : Value) (ms : List (String × Value)) :
    textPairs ((key, v) :: ms) = (v.decodeText.map (key, ·)).toList ++ textPairs ms := by
  rw [textPairs, List.filterMap_cons, textPairs]
  cases v.decodeText <;> rfl

/-- The entries of a dictionary are the texts, if there is nothing else. -/
theorem decodePairs_eq (ms : List (String × Value)) :
    decodePairs ms =
      if ms.all fun m => m.2.decodeText.isSome then some (textPairs ms) else none := by
  induction ms with
  | nil => rfl
  | cons m ms ih =>
    obtain ⟨key, v⟩ := m
    rw [decodePairs, ih, List.all_cons, textPairs_cons]
    cases v.decodeText with
    | none => rfl
    | some x => cases (ms.all fun m => m.2.decodeText.isSome) <;> rfl

/-- The last text under a key is the last one among the values there. -/
theorem lastUnder?_textPairs (key : String) (ms : List (String × Value)) :
    Dictionary.lastUnder? key (textPairs ms) =
      ((valuesUnder key ms).filterMap Value.decodeText).getLast? := by
  induction ms with
  | nil => rfl
  | cons m ms ih =>
    obtain ⟨k, v⟩ := m
    have first : Dictionary.lastUnder? key (textPairs ((k, v) :: ms)) =
        (Dictionary.lastUnder? key (textPairs ms)).or
          (if k = key then v.decodeText else none) := by
      rw [textPairs_cons]
      cases v.decodeText with
      | none => simp
      | some x => exact Dictionary.lastUnder?_cons key (k, x) (textPairs ms)
    rw [first, ih]
    by_cases same : k = key
    · subst same
      rw [valuesUnder_self, List.filterMap_cons, if_pos rfl]
      cases v.decodeText with
      | none => rw [Option.or_none]
      | some x => rw [List.getLast?_cons, Option.or_some]
    · rw [valuesUnder_other same, if_neg same, Option.or_none]

/-- Values that are decoded alike have the same texts among them. -/
theorem filterMap_decodeText_like {vs ws : List Value} (h : List.Forall₂ Value.Like vs ws) :
    vs.filterMap Value.decodeText = ws.filterMap Value.decodeText := by
  induction h with
  | nil => rfl
  | cons first _ ih => rw [List.filterMap_cons, List.filterMap_cons, first.decodeText, ih]

/-- The name of an only member that holds nothing. -/
def onlyName? : List (String × Value) → Option String
  | [(name, .null)] => some name
  | _ => none

theorem onlyName?_eq_some_iff {ms : List (String × Value)} {name : String} :
    onlyName? ms = some name ↔ ms = [(name, .null)] := by
  constructor
  · intro only
    unfold onlyName? at only
    split at only
    · cases only
      rfl
    · cases only
  · rintro rfl
    rfl

/-- A record that stands for a name has it as its only key. -/
theorem Value.decodeName_record (depth : Nat) (choices : List String)
    (ms : List (String × Value)) :
    (Value.record ms).decodeName depth choices =
      unlessDeep depth ((onlyName? ms).bind fun name => choices.findFinIdx? (· == name)) := by
  refine congrArg (unlessDeep depth) ?_
  cases only : onlyName? ms with
  | some name =>
    rw [onlyName?_eq_some_iff.mp only]
    rfl
  | none =>
    split
    · cases only
    · rfl

section

variable {ms ns : List (String × Value)}

theorem MembersLike.symm (h : MembersLike ms ns) : MembersLike ns ms := fun key =>
  List.Forall₂.flip ((h key).imp fun _ _ like => like.symm)

/-- Each member has its counterpart under the same key. -/
theorem MembersLike.exists_of_mem (h : MembersLike ms ns) {m : String × Value} (stands : m ∈ ms) :
    ∃ n ∈ ns, n.1 = m.1 ∧ m.2.Like n.2 := by
  have counterpart {vs ws : List Value} (h : List.Forall₂ Value.Like vs ws) :
      ∀ v ∈ vs, ∃ w ∈ ws, v.Like w := by
    induction h with
    | nil => exact fun v hv => (List.not_mem_nil hv).elim
    | cons first _ ih =>
      intro v hv
      rcases List.mem_cons.mp hv with rfl | hv
      · exact ⟨_, List.mem_cons_self, first⟩
      · obtain ⟨w, hw, like⟩ := ih v hv
        exact ⟨w, List.mem_cons_of_mem _ hw, like⟩
  obtain ⟨w, hw, like⟩ := counterpart (h m.1) m.2 (mem_valuesUnder.mpr stands)
  exact ⟨(m.1, w), mem_valuesUnder.mp hw, rfl, like⟩

/-- What holds of all members of one record holds of all of the other. -/
theorem MembersLike.forall_iff (h : MembersLike ms ns) (P : String → Value → Prop)
    (same : ∀ key v w, v.Like w → (P key v ↔ P key w)) :
    (∀ m ∈ ms, P m.1 m.2) ↔ ∀ n ∈ ns, P n.1 n.2 := by
  constructor
  · intro all n stands
    obtain ⟨m, hm, key, like⟩ := h.symm.exists_of_mem stands
    rw [same n.1 n.2 m.2 like, ← key]
    exact all m hm
  · intro all m stands
    obtain ⟨n, hn, key, like⟩ := h.exists_of_mem stands
    rw [same m.1 m.2 n.2 like, ← key]
    exact all n hn

theorem Fields.decode_like (h : MembersLike ms ns) (depth : Nat) : ∀ (fields : Fields),
    fields.decode depth ms = fields.decode depth ns
  | .none => rfl
  | .field name presence schema rest => by
    rw [Fields.decode, Fields.decode, rest.decode_like h depth,
      uniqueOr_like _ (fun _ _ like => like.decode schema depth) (h name)]

theorem Cases.decode_like (h : MembersLike ms ns) (depth : Nat) (name : String) :
    ∀ (cases : Cases), cases.decode depth name ms = cases.decode depth name ns
  | .none => rfl
  | .case n fields rest => by
    rw [Cases.decode, Cases.decode, fields.decode_like h depth, rest.decode_like h depth name]

theorem MembersLike.shallow (h : MembersLike ms ns) (depth : Nat) :
    shallowMembers depth ms = shallowMembers depth ns := by
  rw [Bool.eq_iff_iff, shallowMembers_iff, shallowMembers_iff]
  refine h.forall_iff (fun _ v => v.shallow depth = true) ?_
  intro key v w like
  rw [like.shallow]

theorem MembersLike.shallow_beside (h : MembersLike ms ns) (tag : String) (depth : Nat) :
    shallowMembers depth (ms.filter (·.1 ≠ tag)) =
      shallowMembers depth (ns.filter (·.1 ≠ tag)) := by
  rw [Bool.eq_iff_iff, shallowMembers_iff, shallowMembers_iff]
  simp only [List.mem_filter, decide_eq_true_eq, and_imp]
  refine h.forall_iff (fun key v => key ≠ tag → v.shallow depth = true) ?_
  intro key v w like
  rw [like.shallow]

/-- Dictionaries are put together alike. -/
theorem MembersLike.decodePairs (h : MembersLike ms ns) :
    (Json.decodePairs ms).map Dictionary.ofList = (Json.decodePairs ns).map Dictionary.ofList := by
  have texts : (ms.all fun m => m.2.decodeText.isSome) = ns.all fun n => n.2.decodeText.isSome := by
    rw [Bool.eq_iff_iff, List.all_eq_true, List.all_eq_true]
    refine h.forall_iff (fun _ v => v.decodeText.isSome = true) ?_
    intro key v w like
    rw [like.decodeText]
  have values (key : String) : Dictionary.lastUnder? key (textPairs ms) =
      Dictionary.lastUnder? key (textPairs ns) := by
    rw [lastUnder?_textPairs, lastUnder?_textPairs, filterMap_decodeText_like (h key)]
  rw [decodePairs_eq, decodePairs_eq, texts]
  split
  · exact congrArg some (Dictionary.ofList_congr values)
  · rfl

/-- Where one record has a single member that holds nothing, so has the other. -/
theorem MembersLike.eq_of_only (h : MembersLike ms ns) {name : String}
    (only : ms = [(name, .null)]) : ns = [(name, .null)] := by
  subst only
  have alone : ∀ n ∈ ns, n = (name, .null) := by
    intro n stands
    obtain ⟨m, hm, key, like⟩ := h.symm.exists_of_mem stands
    rw [List.mem_singleton] at hm
    subst hm
    exact Prod.ext key.symm (like.null_iff.mpr rfl)
  have count : (valuesUnder name ns).length = 1 := by
    rw [← (h name).length_eq, valuesUnder_self]
    rfl
  -- All members of the other record are under that key, so they are as many as the values there.
  have all : valuesUnder name ns = ns.map (·.2) := by
    refine List.filterMap_eq_map_iff_forall_eq_some.mpr fun n stands => ?_
    rw [alone n stands, if_pos rfl]
  rw [all, List.length_map] at count
  obtain ⟨n, rfl⟩ := List.length_eq_one_iff.mp count
  rw [alone n List.mem_cons_self]

theorem MembersLike.onlyName? (h : MembersLike ms ns) : Json.onlyName? ms = Json.onlyName? ns := by
  refine Option.ext fun name => ?_
  rw [onlyName?_eq_some_iff, onlyName?_eq_some_iff]
  exact ⟨h.eq_of_only, h.symm.eq_of_only⟩

/-- No schema tells two records apart that have the same under each key, as far as it can tell. -/
theorem Schema.decode_record_like (depth : Nat) (h : MembersLike ms ns) :
    ∀ (schema : Schema), schema.decode depth (.record ms) = schema.decode depth (.record ns)
  | .text | .flag | .word | .list _ => rfl
  | .name choices => by
    have names := congrArg
      (fun only : Option String =>
        unlessDeep depth (only.bind fun name => choices.findFinIdx? (· == name))) h.onlyName?
    exact (Value.decodeName_record depth choices ms).trans
      (names.trans (Value.decodeName_record depth choices ns).symm)
  | .optional item => by
    rw [decode_optional item depth (by nofun), decode_optional item depth (by nofun),
      item.decode_record_like depth h]
  | .dictionary => congrArg (unlessDeep depth) h.decodePairs
  | .record _ closed fields => by
    have known : (∀ m ∈ ms, m.1 ∈ fields.names) ↔ ∀ n ∈ ns, n.1 ∈ fields.names :=
      h.forall_iff (fun key _ => key ∈ fields.names) fun _ _ _ _ => Iff.rfl
    refine congrArg (unlessDeep depth) ?_
    rw [fields.decode_like h (depth + 1)]
    simp only [known]
  | .tagged _ tag cases => by
    have name := uniqueOr_like none (fun _ _ like => like.decodeTag cases.names) (h tag)
    refine congrArg (unlessDeep depth) ?_
    rw [h.shallow_beside tag (depth + 1), name]
    simp only [cases.decode_like h (depth + 1)]

theorem Value.Like.record (h : MembersLike ms ns) : (Value.record ms).Like (.record ns) where
  decode schema depth := schema.decode_record_like depth h
  shallow depth := by rw [Value.shallow, Value.shallow, h.shallow (depth + 1)]
  null_iff := ⟨nofun, nofun⟩

end

/-! ## Reordering -/

/-- Keys that are not repeated have at most one value each. -/
theorem valuesUnder_of_nodup {ms : List (String × Value)} (distinct : (ms.map (·.1)).Nodup)
    (key : String) : valuesUnder key ms = [] ∨ ∃ v, valuesUnder key ms = [v] := by
  induction ms with
  | nil => exact .inl rfl
  | cons m ms ih =>
    obtain ⟨k, v⟩ := m
    obtain ⟨new, distinct⟩ := List.nodup_cons.mp distinct
    by_cases same : k = key
    · subst same
      have nothing : valuesUnder k ms = [] := by
        refine List.eq_nil_iff_forall_not_mem.mpr fun w hw => new ?_
        exact List.mem_map.mpr ⟨(k, w), mem_valuesUnder.mp hw, rfl⟩
      exact .inr ⟨v, by rw [valuesUnder_self, nothing]⟩
    · rw [valuesUnder_other same]
      exact ih distinct

/-- Members in another order have the same under each key, if no key is repeated. -/
theorem membersLike_of_perm {ms ns : List (String × Value)} (perm : ms.Perm ns)
    (distinct : (ms.map (·.1)).Nodup) : MembersLike ms ns := by
  intro key
  have values : (valuesUnder key ms).Perm (valuesUnder key ns) := perm.filterMap _
  have same : valuesUnder key ms = valuesUnder key ns := by
    rcases valuesUnder_of_nodup distinct key with nothing | ⟨v, one⟩
    · rw [nothing] at values ⊢
      exact values.nil_eq
    · rw [one] at values ⊢
      exact values.singleton_eq
  rw [← same]
  exact Value.Like.forall_refl _

/-- Somewhere in a document the members of a record, no two of them under one key, stand in another
order. -/
inductive Value.Reorders : Value → Value → Prop
  | here {ms ns : List (String × Value)} :
    ms.Perm ns → (ms.map (·.1)).Nodup → Reorders (.record ms) (.record ns)
  | item {v w : Value} (before behind : List Value) :
    Reorders v w → Reorders (.list (before ++ v :: behind)) (.list (before ++ w :: behind))
  | member {v w : Value} (before : List (String × Value)) (key : String)
      (behind : List (String × Value)) :
    Reorders v w →
      Reorders (.record (before ++ (key, v) :: behind)) (.record (before ++ (key, w) :: behind))

/-- No schema tells documents apart that differ in the order of members. -/
theorem Value.Reorders.like {v w : Value} (h : v.Reorders w) : v.Like w := by
  induction h with
  | here perm distinct => exact .record (membersLike_of_perm perm distinct)
  | item before behind _ ih =>
    exact .list (List.rel_append (Value.Like.forall_refl before)
      (.cons ih (Value.Like.forall_refl behind)))
  | @member v w before key behind _ ih =>
    refine .record fun k => ?_
    rw [valuesUnder_append, valuesUnder_append]
    refine List.rel_append (Value.Like.forall_refl _) ?_
    by_cases same : key = k
    · subst same
      rw [valuesUnder_self, valuesUnder_self]
      exact .cons ih (Value.Like.forall_refl _)
    · rw [valuesUnder_other same, valuesUnder_other same]
      exact Value.Like.forall_refl _

end HandlerWiring.Json
