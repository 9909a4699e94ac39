import HandlerWiring.Proofs.Json.Scan

/-!
# Printed values are scanned back

Whatever is laid out between the tokens, as long as it is gaps, the text of a value denotes that
value by the grammar, so it is scanned as that value. Only numbers that are integers of 64 bits are
considered: these are the numbers that documents of a schema hold.
-/

namespace HandlerWiring.Json

/-- Only gaps are laid out between the tokens. -/
structure Layout.OnlyGaps (layout : Layout) : Prop where
  line (depth : Nat) : IsGap (layout.line depth)
  behindColon : IsGap layout.behindColon

theorem Layout.onlyGaps_compact : Layout.compact.OnlyGaps where
  line _ := isGap_nil
  behindColon := isGap_nil

theorem Layout.onlyGaps_indented : Layout.indented.OnlyGaps where
  line depth := by
    intro c hc
    rcases List.mem_cons.mp hc with rfl | hc
    · rfl
    · rw [List.eq_of_mem_replicate hc]
      rfl
  behindColon := by decide

mutual

/-- Every number in a value is an integer of 64 bits. -/
def Value.Whole : Value → Prop
  | .null | .boolean _ | .text _ => True
  | .number (.integer n) => -(2 ^ (63 : Nat)) ≤ n ∧ n < 2 ^ (64 : Nat)
  | .number (.real _) => False
  | .list items => WholeItems items
  | .record members => WholeMembers members
termination_by structural value => value

/-- `Value.Whole` of all items. -/
def WholeItems : List Value → Prop
  | [] => True
  | item :: items => item.Whole ∧ WholeItems items
termination_by structural items => items

/-- `Value.Whole` of all members. -/
def WholeMembers : List (String × Value) → Prop
  | [] => True
  | (_, value) :: members => value.Whole ∧ WholeMembers members
termination_by structural members => members

end

/-! ## Printed texts -/

mutual

/-- The text of a value denotes that value. -/
theorem Value.denotes_print {layout : Layout} (gaps : layout.OnlyGaps) (depth : Nat) (v : Value)
    (h : v.Whole) : Denotes (v.print layout depth) (some v) := by
  match v with
  | .null => exact .null
  | .boolean true => exact .boolean true
  | .boolean false => exact .boolean false
  | .number (.integer n) =>
    have number := Denotes.number (Numeral.denotes_printInteger n)
    rw [Numeral.value_ofInteger h.1 h.2] at number
    exact number
  | .number (.real bits) => exact h.elim
  | .text s =>
    have text := Denotes.text (Quotation.denotes_printed s.toList)
    rw [Option.map_some, String.ofList_toList] at text
    exact text
  | .list [] => exact .list (.close isGap_nil)
  | .list (item :: items) =>
    obtain ⟨whole, wholeItems⟩ := h
    have others := itemsDenote_print gaps (depth + 1) (gaps.line depth) items wholeItems
    have all := Denotes.list (.more isGap_nil (gaps.line (depth + 1))
      (item.denotes_print gaps (depth + 1) whole) others)
    simpa [Value.print, separator] using all
  | .record [] => exact .record (.close isGap_nil)
  | .record ((key, value) :: members) =>
    obtain ⟨whole, wholeMembers⟩ := h
    have others := entriesDenote_print gaps (depth + 1) (gaps.line depth) members wholeMembers
    have all := Denotes.record (.more isGap_nil (gaps.line (depth + 1))
      (Quotation.denotes_printed key.toList) isGap_nil gaps.behindColon
      (value.denotes_print gaps (depth + 1) whole) others)
    simpa [Value.print, printText, separator] using all
termination_by structural v

/-- The text of the items behind others, with the bracket behind them, denotes these items. -/
theorem itemsDenote_print {layout : Layout} (gaps : layout.OnlyGaps) (depth : Nat)
    {gap : List Char} (hgap : IsGap gap) (vs : List Value) (h : WholeItems vs) :
    ItemsDenote false (printItems layout depth vs ++ (gap ++ [']'])) (some vs) := by
  match vs with
  | [] => exact .close hgap
  | v :: vs =>
    obtain ⟨whole, wholeItems⟩ := h
    have all : ItemsDenote false _ _ := .more isGap_nil (gaps.line depth)
      (v.denotes_print gaps depth whole) (itemsDenote_print gaps depth hgap vs wholeItems)
    simpa [printItems, separator] using all
termination_by structural vs

/-- The text of the members behind others, with the brace behind them, denotes these members. -/
theorem entriesDenote_print {layout : Layout} (gaps : layout.OnlyGaps) (depth : Nat)
    {gap : List Char} (hgap : IsGap gap) (ms : List (String × Value)) (h : WholeMembers ms) :
    EntriesDenote false (printMembers layout depth ms ++ (gap ++ ['\x7d'])) (some ms) := by
  match ms with
  | [] => exact .close hgap
  | (key, v) :: ms =>
    obtain ⟨whole, wholeMembers⟩ := h
    have all : EntriesDenote false _ _ := .more isGap_nil (gaps.line depth)
      (Quotation.denotes_printed key.toList) isGap_nil gaps.behindColon
      (v.denotes_print gaps depth whole) (entriesDenote_print gaps depth hgap ms wholeMembers)
    simpa [printMembers, printText, separator] using all
termination_by structural ms

end

/-- The text of a value, with gaps behind it, denotes that value. -/
theorem Value.textDenotes_print {layout : Layout} (gaps : layout.OnlyGaps) {behind : List Char}
    (hgap : IsGap behind) {v : Value} (h : v.Whole) :
    TextDenotes (.ofList (v.print layout 0 ++ behind)) (some v) :=
  .mk isGap_nil hgap (v.denotes_print gaps 0 h)

end HandlerWiring.Json
