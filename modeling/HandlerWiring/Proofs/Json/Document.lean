import HandlerWiring.Proofs.Json.Printer

/-!
# The value of a text

The scanner marks every list and record with the number of lists and records around it. So a
scanned node without faults shows a value: the value of its text. Nothing is said of texts with
faults, which have no value.
-/

namespace HandlerWiring.Json

/-! ## Marks -/

mutual

/-- Every list and record in a node at a depth is marked with its own depth. -/
def Node.Marked (depth : Nat) : Node → Prop
  | .null .. | .boolean .. | .number .. | .text .. | .broken .. => True
  | .list _ mark items => mark = depth ∧ items.Marked (depth + 1)
  | .record _ mark entries => mark = depth ∧ entries.Marked (depth + 1)

/-- `Node.Marked` of all items. -/
def Items.Marked (depth : Nat) : Items → Prop
  | .close _ | .broken .. => True
  | .more _ _ item rest => item.Marked depth ∧ rest.Marked depth

/-- `Node.Marked` of the values of all entries. -/
def Entries.Marked (depth : Nat) : Entries → Prop
  | .close _ | .broken .. => True
  | .more _ _ _ _ _ value rest => value.Marked depth ∧ rest.Marked depth

end

theorem wordNode_marked {word : List Char} {make : Place → Place → Node} {depth : Nat}
    (marked : ∀ start stop, (make start stop).Marked depth) (c : Cursor) :
    (wordNode word make c).1.Marked depth := by
  unfold wordNode
  split
  · exact marked _ _
  · exact trivial

theorem numberNode_marked (depth : Nat) (c : Cursor) : (numberNode c).1.Marked depth := by
  unfold numberNode
  split
  · exact trivial
  · exact trivial

theorem textNode_marked (depth : Nat) (start : Place) (inner : Cursor) :
    (textNode start inner).1.Marked depth := by
  unfold textNode
  dsimp only
  split
  · exact trivial
  · exact trivial

/-- What is scanned with some fuel is marked. -/
structure ScansMarked (fuel : Nat) : Prop where
  node : ∀ depth c, (scanNode fuel depth c).1.Marked depth
  items : ∀ depth first c, (scanItems fuel depth first c).1.Marked depth
  entries : ∀ depth first c, (scanEntries fuel depth first c).1.Marked depth

namespace ScansMarked

variable {fuel : Nat}

theorem node_succ (h : ScansMarked fuel) (depth : Nat) (c : Cursor) :
    (scanNode (fuel + 1) depth c).1.Marked depth := by
  rw [scanNode]
  split
  · exact trivial
  · split
    · refine wordNode_marked ?_ _
      exact fun _ _ => trivial
    split
    · refine wordNode_marked ?_ _
      exact fun _ _ => trivial
    split
    · refine wordNode_marked ?_ _
      exact fun _ _ => trivial
    split
    · exact textNode_marked depth _ _
    split
    · exact ⟨rfl, h.items (depth + 1) true _⟩
    split
    · exact ⟨rfl, h.entries (depth + 1) true _⟩
    split
    · exact numberNode_marked depth _
    · exact trivial

/-- An item and those behind it. -/
theorem items_more (h : ScansMarked fuel) (depth : Nat) (resting : Place) (whenEnded : Fault)
    (c : Cursor) : Items.Marked depth
      (match scanNode fuel depth c with
        | (node, none) => (Items.more resting whenEnded node .lost, (none : Option Cursor))
        | (node, some next) =>
          let (items, last) := scanItems fuel depth false next
          (.more resting whenEnded node items, last)).1 := by
  have here := h.node depth c
  split
  · next scan =>
    rw [scan] at here
    exact ⟨here, trivial⟩
  · next scan =>
    rw [scan] at here
    exact ⟨here, h.items depth false _⟩

theorem items_succ (h : ScansMarked fuel) (depth : Nat) (first : Bool) (c : Cursor) :
    (scanItems (fuel + 1) depth first c).1.Marked depth := by
  rw [scanItems]
  dsimp only
  split
  · exact trivial
  · split
    · exact trivial
    split
    · exact h.items_more depth _ _ _
    split
    · split
      · exact trivial
      · exact trivial
      · exact h.items_more depth _ _ _
    · exact trivial

/-- A member from its value on, and those behind it. -/
theorem entries_more (h : ScansMarked fuel) (depth : Nat) (resting : Place) (whenEnded : Fault)
    (key : Except Fault String) (keyStop keyResting : Place) (c : Cursor) : Entries.Marked depth
      (match scanNode fuel depth c with
        | (value, none) =>
          (Entries.more resting whenEnded key keyStop keyResting value .lost,
            (none : Option Cursor))
        | (value, some next) =>
          let (entries, last) := scanEntries fuel depth false next
          (.more resting whenEnded key keyStop keyResting value entries, last)).1 := by
  have here := h.node depth c
  split
  · next scan =>
    rw [scan] at here
    exact ⟨here, trivial⟩
  · next scan =>
    rw [scan] at here
    exact ⟨here, h.entries depth false _⟩

theorem entries_succ (h : ScansMarked fuel) (depth : Nat) (first : Bool) (c : Cursor) :
    (scanEntries (fuel + 1) depth first c).1.Marked depth := by
  rw [scanEntries]
  dsimp only
  split
  · exact trivial
  · split
    · exact trivial
    split
    · split
      · split
        · exact trivial
        · split
          · exact h.entries_more depth _ _ _ _ _ _
          · exact ⟨trivial, trivial⟩
          · exact ⟨trivial, trivial⟩
      · exact trivial
    split
    · split
      · exact trivial
      · split
        · split
          · exact trivial
          · split
            · exact h.entries_more depth _ _ _ _ _ _
            · exact ⟨trivial, trivial⟩
            · exact ⟨trivial, trivial⟩
        split
        · exact trivial
        · exact trivial
    · exact trivial

/-- Whatever is scanned is marked. -/
theorem all (fuel : Nat) : ScansMarked fuel := by
  induction fuel with
  | zero =>
    refine ⟨?_, ?_, ?_⟩
    · intro depth c
      rw [scanNode]
      exact trivial
    · intro depth first c
      rw [scanItems]
      exact trivial
    · intro depth first c
      rw [scanEntries]
      exact trivial
  | succ fuel ih => exact ⟨ih.node_succ, ih.items_succ, ih.entries_succ⟩

end ScansMarked

/-- The root of a text is marked. -/
theorem Document.marked_ofText (cs : List Char) : (Document.ofText cs).root.Marked 0 := by
  have marked := (ScansMarked.all (2 * cs.length + 2)).node 0 (.ofText cs)
  unfold Document.ofText
  split
  · next scan =>
    rw [scan] at marked
    exact marked
  · next scan =>
    rw [scan] at marked
    exact marked

/-! ## Values -/

mutual

/-- A marked node that has a value shows it. -/
theorem Node.shows_of_value? {depth : Nat} {v : Value} : ∀ (node : Node),
    node.Marked depth → node.value? = some v → node.Shows depth v
  | .null .., _, h => Option.some.inj h ▸ .null
  | .boolean .., _, h => Option.some.inj h ▸ .boolean
  | .number _ _ (.ok _), _, h => Option.some.inj h ▸ .number
  | .number _ _ (.error _), _, h => nomatch h
  | .text _ _ (.ok _), _, h => Option.some.inj h ▸ .text
  | .text _ _ (.error _), _, h => nomatch h
  | .list _ _ items, marked, h => by
    obtain ⟨rfl, marked⟩ := marked
    obtain ⟨vs, has, rfl⟩ := Option.map_eq_some_iff.mp h
    exact .list (items.shows_of_values? marked has)
  | .record _ _ entries, marked, h => by
    obtain ⟨rfl, marked⟩ := marked
    obtain ⟨ms, has, rfl⟩ := Option.map_eq_some_iff.mp h
    exact .record (entries.shows_of_members? marked has)
  | .broken .., _, h => nomatch h

theorem Items.shows_of_values? {depth : Nat} {vs : List Value} : ∀ (items : Items),
    items.Marked depth → items.values? = some vs → items.Shows depth vs
  | .close _, _, h => Option.some.inj h ▸ .close
  | .broken .., _, h => nomatch h
  | .more _ _ item rest, ⟨here, behind⟩, h => by
    obtain ⟨v, first, h⟩ := Option.bind_eq_some_iff.mp h
    obtain ⟨vs, others, h⟩ := Option.bind_eq_some_iff.mp h
    cases h
    exact .more (item.shows_of_value? here first) (rest.shows_of_values? behind others)

theorem Entries.shows_of_members? {depth : Nat} {ms : List (String × Value)} :
    ∀ (entries : Entries),
      entries.Marked depth → entries.members? = some ms → entries.Shows depth ms
  | .close _, _, h => Option.some.inj h ▸ .close
  | .broken .., _, h => nomatch h
  | .more _ _ (.error _) _ _ _ _, _, h => nomatch h
  | .more _ _ (.ok key) _ _ value rest, ⟨here, behind⟩, h => by
    obtain ⟨v, first, h⟩ := Option.bind_eq_some_iff.mp h
    obtain ⟨ms, others, h⟩ := Option.bind_eq_some_iff.mp h
    cases h
    exact .more (value.shows_of_value? here first) (rest.shows_of_members? behind others)

end

mutual

/-- A node in which a reader of any value meets no fault has a value. -/
theorem Node.value?_of_sound : ∀ (node : Node), node.sound = .ok () → ∃ v, node.value? = some v
  | .null .., _ | .boolean .., _ | .number _ _ (.ok _), _ | .text _ _ (.ok _), _ => ⟨_, rfl⟩
  | .number _ _ (.error _), h | .text _ _ (.error _), h | .broken .., h => nomatch h
  | .list _ _ items, h => by
    obtain ⟨vs, has⟩ := items.values?_of_sound (bind_ok_iff.mp h).2
    exact ⟨.list vs, congrArg (Option.map Value.list) has⟩
  | .record _ _ entries, h => by
    obtain ⟨ms, has⟩ := entries.members?_of_sound (bind_ok_iff.mp h).2
    exact ⟨.record ms, congrArg (Option.map Value.record) has⟩

theorem Items.values?_of_sound : ∀ (items : Items),
    items.sound = .ok () → ∃ vs, items.values? = some vs
  | .close _, _ => ⟨_, rfl⟩
  | .broken .., h => nomatch h
  | .more _ _ item rest, h => by
    obtain ⟨here, behind⟩ := bind_ok_iff.mp h
    obtain ⟨v, first⟩ := item.value?_of_sound here
    obtain ⟨vs, others⟩ := rest.values?_of_sound behind
    refine ⟨v :: vs, ?_⟩
    rw [Items.values?, first, others]
    rfl

theorem Entries.members?_of_sound : ∀ (entries : Entries),
    entries.sound = .ok () → ∃ ms, entries.members? = some ms
  | .close _, _ => ⟨_, rfl⟩
  | .broken .., h | .more _ _ (.error _) _ _ _ _, h => nomatch h
  | .more _ _ (.ok key) _ _ value rest, h => by
    obtain ⟨here, behind⟩ := bind_ok_iff.mp h
    obtain ⟨v, first⟩ := value.value?_of_sound here
    obtain ⟨ms, others⟩ := rest.members?_of_sound behind
    refine ⟨(key, v) :: ms, ?_⟩
    rw [Entries.members?, first, others]
    rfl

end

/-- The value of a document, none if a fault stands in it. -/
def Document.value? (d : Document) : Option Value :=
  match d.excess with
  | none => d.root.value?
  | some _ => none

/-- The value of a text, none if a fault stands in it. -/
def valueOf? (text : String) : Option Value := (Document.ofText text.toList).value?

/-- A text with a value is scanned as a node that shows it, with nothing behind. -/
theorem shows_of_valueOf? {text : String} {v : Value} (h : valueOf? text = some v) :
    (Document.ofText text.toList).root.Shows 0 v ∧ (Document.ofText text.toList).excess = none := by
  unfold valueOf? Document.value? at h
  split at h
  · next nothing =>
    exact ⟨Node.shows_of_value? _ (Document.marked_ofText text.toList) h, nothing⟩
  · cases h

/-- A text whose root is without faults has a value, if nothing stands behind the root. -/
theorem valueOf?_of_sound {text : String}
    (sound : (Document.ofText text.toList).root.sound = .ok ())
    (nothing : (Document.ofText text.toList).excess = none) : ∃ v, valueOf? text = some v := by
  unfold valueOf? Document.value?
  rw [nothing]
  exact Node.value?_of_sound _ sound

/-- The value of a text is what it denotes by the grammar. -/
theorem TextDenotes.valueOf? {text : String} {v : Option Value} (h : TextDenotes text v) :
    Json.valueOf? text = v := by
  obtain ⟨node, scan, value⟩ := h.scan
  rw [Json.valueOf?, scan]
  exact value

/-- The value of a printed text is what was printed. -/
theorem valueOf?_print {layout : Layout} (gaps : layout.OnlyGaps) {v : Value} (h : v.Whole) :
    valueOf? (String.ofList (v.print layout 0)) = some v := by
  have denotes := v.textDenotes_print gaps isGap_nil h
  rw [List.append_nil] at denotes
  exact denotes.valueOf?

end HandlerWiring.Json
