import HandlerWiring.Json.Scan
import HandlerWiring.Proofs.Json.Node
import HandlerWiring.Proofs.Json.Numeral
import HandlerWiring.Proofs.Json.Quotation

/-!
# Scanning what the grammar allows

The scanner takes every text of the grammar for what the text denotes. The steps are said of texts
in general, one for each kind of value and for each way in which a list or a record goes on; the
run is an induction on how the text is made by the grammar. A step gives one unit of fuel away, and
the characters of a value are at least as many as the fuel it needs.
-/

namespace HandlerWiring.Json

/-- A text is scanned as a value or none, up to the rest. -/
def ScansAs (fuel depth : Nat) (text rest : List Char) (v : Option Value) : Prop :=
  ∀ p, ∃ node q, scanNode fuel depth ⟨p, text⟩ = (node, some ⟨q, rest⟩) ∧ node.value? = v

/-- A text is scanned as the remaining items of a list, up to the rest. -/
def ItemsScanAs (fuel depth : Nat) (first : Bool) (text rest : List Char)
    (vs : Option (List Value)) : Prop :=
  ∀ p, ∃ items q, scanItems fuel depth first ⟨p, text⟩ = (items, some ⟨q, rest⟩) ∧
    items.values? = vs

/-- A text is scanned as the remaining members of a record, up to the rest. -/
def EntriesScanAs (fuel depth : Nat) (first : Bool) (text rest : List Char)
    (ms : Option (List (String × Value))) : Prop :=
  ∀ p, ∃ entries q, scanEntries fuel depth first ⟨p, text⟩ = (entries, some ⟨q, rest⟩) ∧
    entries.members? = ms

/-! ## Gaps -/

theorem isGap_nil : IsGap [] :=
  fun _ hc => (List.not_mem_nil hc).elim

theorem IsGap.append {gap gap' : List Char} (h : IsGap gap) (h' : IsGap gap') :
    IsGap (gap ++ gap') := by
  intro c hc
  rcases List.mem_append.mp hc with before | behind
  · exact h c before
  · exact h' c behind

/-- A gap in front of a token is skipped. -/
theorem skipGap_append (p : Place) {gap : List Char} (c : Char) (cs : List Char)
    (hgap : IsGap gap) (hc : Cursor.isGap c = false) :
    ∃ q, Cursor.skipGap ⟨p, gap ++ c :: cs⟩ = ⟨q, c :: cs⟩ := by
  unfold Cursor.skipGap
  induction gap generalizing p with
  | nil => exact ⟨p, by simp [Cursor.skipWhile, hc]⟩
  | cons g gap ih =>
    obtain ⟨q, hq⟩ := ih (p.after g) fun d hd => hgap d (List.mem_cons_of_mem g hd)
    refine ⟨q, ?_⟩
    have hg : Cursor.isGap g = true := hgap g List.mem_cons_self
    simpa only [List.cons_append, Cursor.skipWhile, hg, if_true] using hq

/-- A cursor that faces a token stays. -/
theorem skipGap_of_token (p : Place) {cs : List Char} {c : Char} (hc : Cursor.isGap c = false) :
    Cursor.skipGap ⟨p, c :: cs⟩ = ⟨p, c :: cs⟩ := by
  simp [Cursor.skipGap, Cursor.skipWhile, hc]

/-- A gap at the end of a text is skipped. -/
theorem skipGap_end (p : Place) {gap : List Char} (hgap : IsGap gap) :
    (Cursor.skipGap ⟨p, gap⟩).rest = [] := by
  unfold Cursor.skipGap
  induction gap generalizing p with
  | nil => rfl
  | cons g gap ih =>
    have hg : Cursor.isGap g = true := hgap g List.mem_cons_self
    simp only [Cursor.skipWhile, hg, if_true]
    exact ih _ fun d hd => hgap d (List.mem_cons_of_mem g hd)

/-- The first character of a text starts a token, though not a closing bracket. -/
def StartsValue (text : List Char) : Prop :=
  ∃ c cs, text = c :: cs ∧ Cursor.isGap c = false ∧ c ≠ ']'

theorem StartsValue.append {text : List Char} (h : StartsValue text) (rest : List Char) :
    StartsValue (text ++ rest) := by
  obtain ⟨c, cs, rfl, token, notEnd⟩ := h
  exact ⟨c, cs ++ rest, rfl, token, notEnd⟩

theorem StartsValue.length_pos {text : List Char} (h : StartsValue text) : 0 < text.length := by
  obtain ⟨c, cs, rfl, _⟩ := h
  exact Nat.zero_lt_succ _

/-- A gap in front of a value does not matter. -/
theorem ScansAs.behindGap {fuel depth : Nat} {gap text rest : List Char} {v : Option Value}
    (hgap : IsGap gap) (start : StartsValue text) (h : ScansAs fuel depth text rest v) :
    ScansAs fuel depth (gap ++ text) rest v := by
  intro p
  obtain ⟨c, cs, rfl, hc, _⟩ := start
  obtain ⟨q, hq⟩ := skipGap_append p c cs hgap hc
  obtain ⟨node, r, scan, hnode⟩ := h q
  refine ⟨node, r, ?_, hnode⟩
  cases fuel with
  | zero => simp [scanNode] at scan
  | succ fuel =>
    rw [← scan, scanNode, scanNode]
    simp only [hq, skipGap_of_token q hc]

/-- A numeral ends before a gap, if it ends before what follows the gap. -/
theorem IsGap.endsBefore {gap rest : List Char} (hgap : IsGap gap) (h : Numeral.EndsBefore rest) :
    Numeral.EndsBefore (gap ++ rest) := by
  cases gap with
  | nil => exact h
  | cons g gap =>
    have blank : Cursor.isGap g = true := hgap g List.mem_cons_self
    simp only [Cursor.isGap, Bool.or_eq_true, decide_eq_true_eq] at blank
    refine Numeral.endsBefore_cons ?_
    rcases blank with ((rfl | rfl) | rfl) | rfl <;> rfl

/-! ## Steps -/

theorem scansAs_null (fuel depth : Nat) (rest : List Char) :
    ScansAs (fuel + 1) depth ("null".toList ++ rest) rest (some .null) :=
  fun _ => ⟨_, _, rfl, rfl⟩

theorem scansAs_boolean (fuel depth : Nat) (b : Bool) (rest : List Char) :
    ScansAs (fuel + 1) depth ((if b then "true".toList else "false".toList) ++ rest) rest
      (some (.boolean b)) := by
  cases b with
  | true => exact fun _ => ⟨_, _, rfl, rfl⟩
  | false => exact fun _ => ⟨_, _, rfl, rfl⟩

/-- A text is read and skipped up to its closing quote; the opening one is behind the cursor. -/
theorem readQuotation_denoted {cs : List Char} {s : Option (List Char)}
    (h : Quotation.Denotes cs s) (p : Place) (rest : List Char) :
    ∃ q, (readQuotation ⟨p, cs ++ '"' :: rest⟩).toOption = s.map .ofList ∧
      Quotation.skip p (cs ++ '"' :: rest) = .ok ⟨q, rest⟩ := by
  obtain ⟨q, skipping⟩ := h.skip p rest
  have reading := h.read p rest
  refine ⟨q, ?_, skipping⟩
  rw [← reading, readQuotation]
  cases Quotation.read p (cs ++ '"' :: rest) <;> rfl

/-- A text node holds the text between its quotes. -/
theorem Node.value?_text (start stop : Place) (value : Except Fault String) :
    (Node.text start stop value).value? = value.toOption.map .text := by
  cases value <;> rfl

/-- A quoted text is scanned as that text. -/
theorem scansAs_text (fuel depth : Nat) {cs : List Char} {s : Option (List Char)}
    (h : Quotation.Denotes cs s) (rest : List Char) :
    ScansAs (fuel + 1) depth ('"' :: (cs ++ '"' :: rest)) rest
      (s.map fun s => .text (.ofList s)) := by
  intro p
  obtain ⟨q, reading, skipping⟩ := readQuotation_denoted h (p.after '"') rest
  refine ⟨.text p q (readQuotation ⟨p.after '"', cs ++ '"' :: rest⟩), q, ?_, ?_⟩
  · rw [scanNode, skipGap_of_token p rfl]
    simp [textNode, skipping]
  · rw [Node.value?_text, reading, Option.map_map]
    rfl

/-- No digit is a gap. -/
theorem isGap_of_isDigit {c : Char} (digit : c.isDigit = true) : Cursor.isGap c = false := by
  simp only [Cursor.isGap, Bool.or_eq_false_iff, decide_eq_false_iff_not]
  refine ⟨⟨⟨?_, ?_⟩, ?_⟩, ?_⟩ <;> (rintro rfl; exact absurd digit (by decide))

/-- A minus sign or a digit starts no other token than a numeral. -/
theorem scanNode_of_numeral {fuel depth : Nat} (p : Place) {c : Char} {cs : List Char}
    (hc : c = '-' ∨ c.isDigit = true) :
    scanNode (fuel + 1) depth ⟨p, c :: cs⟩ = numberNode ⟨p, c :: cs⟩ := by
  have other : Cursor.isGap c = false ∧ c ≠ 'n' ∧ c ≠ 't' ∧ c ≠ 'f' ∧ c ≠ '"' ∧ c ≠ '[' ∧
      c ≠ '\x7b' := by
    rcases hc with rfl | digit
    · decide
    · refine ⟨isGap_of_isDigit digit, ?_, ?_, ?_, ?_, ?_, ?_⟩
      all_goals (rintro rfl; exact absurd digit (by decide))
  obtain ⟨gap, n, t, f, quote, list, record⟩ := other
  rw [scanNode, skipGap_of_token p gap]
  simp only [n, t, f, quote, list, record, hc, if_true, if_false]

/-- The characters of a numeral start with a minus sign or a digit. -/
theorem Numeral.Denotes.head {cs : List Char} {numeral : Numeral} (h : numeral.Denotes cs) :
    ∃ c tail, cs = c :: tail ∧ (c = '-' ∨ c.isDigit = true) := by
  obtain @⟨negative, whole, _, _, _, _, areWhole, _, _⟩ := h
  obtain ⟨d, ds, rfl⟩ := List.exists_cons_of_ne_nil areWhole.nonempty
  have digit : d.isDigit = true := areWhole.isDigit d List.mem_cons_self
  cases negative with
  | true => exact ⟨'-', _, rfl, .inl rfl⟩
  | false => exact ⟨d, _, rfl, .inr digit⟩

/-- A numeral is scanned as its value. -/
theorem scansAs_number (fuel depth : Nat) {cs : List Char} {numeral : Numeral}
    (h : numeral.Denotes cs) {rest : List Char} (ends : Numeral.EndsBefore rest) :
    ScansAs (fuel + 1) depth (cs ++ rest) rest (numeral.value.toOption.map .number) := by
  intro p
  obtain ⟨q, scan⟩ := h.scan p ends
  obtain ⟨c, tail, rfl, hc⟩ := h.head
  rw [List.cons_append] at scan ⊢
  rw [scanNode_of_numeral p hc, numberNode, scan]
  refine ⟨_, q, rfl, ?_⟩
  cases numeral.value <;> rfl

/-- A list is scanned by its items. -/
theorem scansAs_list {fuel depth : Nat} {text rest : List Char} {vs : Option (List Value)}
    (h : ItemsScanAs fuel (depth + 1) true text rest vs) :
    ScansAs (fuel + 1) depth ('[' :: text) rest (vs.map .list) := by
  intro p
  obtain ⟨items, q, scan, hitems⟩ := h (p.after '[')
  refine ⟨.list p depth items, q, ?_, ?_⟩
  · rw [scanNode, skipGap_of_token p rfl]
    simp [scan]
  · rw [Node.value?, hitems]

/-- A record is scanned by its members. -/
theorem scansAs_record {fuel depth : Nat} {text rest : List Char}
    {ms : Option (List (String × Value))} (h : EntriesScanAs fuel (depth + 1) true text rest ms) :
    ScansAs (fuel + 1) depth ('\x7b' :: text) rest (ms.map .record) := by
  intro p
  obtain ⟨entries, q, scan, hentries⟩ := h (p.after '\x7b')
  refine ⟨.record p depth entries, q, ?_, ?_⟩
  · rw [scanNode, skipGap_of_token p rfl]
    simp [scan]
  · rw [Node.value?, hentries]

/-- A closing bracket ends a list. -/
theorem itemsScanAs_close (fuel depth : Nat) (first : Bool) {gap : List Char} (rest : List Char)
    (hgap : IsGap gap) :
    ItemsScanAs (fuel + 1) depth first (gap ++ ']' :: rest) rest (some []) := by
  intro p
  obtain ⟨q, hq⟩ := skipGap_append p ']' rest hgap rfl
  refine ⟨.close (q.after ']'), q.after ']', ?_, rfl⟩
  rw [scanItems, hq]
  simp

/-- What the scanner finds from an item of a list on. -/
def itemsFrom (fuel depth : Nat) (c : Cursor) : Items × Option Cursor :=
  match scanNode fuel depth c with
  | (node, none) => (.more c.place (.atPlace .trailingCharacters c.facing) node .lost, none)
  | (node, some next) =>
    let (items, last) := scanItems fuel depth false next
    (.more c.place (.atPlace .trailingCharacters c.facing) node items, last)

/-- An item of a list, and those behind it. -/
theorem itemsScanAs_more {fuel depth : Nat} (first : Bool)
    {before behind text tail rest : List Char} {v : Option Value} {vs : Option (List Value)}
    (hbefore : IsGap before) (hbehind : IsGap behind) (start : StartsValue text)
    (head : ScansAs fuel depth text tail v)
    (others : ItemsScanAs fuel depth false tail rest vs) :
    ItemsScanAs (fuel + 1) depth first (before ++ (separator first ++ (behind ++ text))) rest
      (do return (← v) :: (← vs)) := by
  intro p
  obtain ⟨c, cs, rfl, token, item⟩ := start
  -- The cursor at the item, whether a comma stands before it or not.
  have arrives : ∃ q, scanItems (fuel + 1) depth first
      ⟨p, before ++ (separator first ++ (behind ++ c :: cs))⟩ =
        itemsFrom fuel depth ⟨q, c :: cs⟩ := by
    cases first with
    | true =>
      obtain ⟨q, hq⟩ := skipGap_append p c cs (hbefore.append hbehind) token
      refine ⟨q, ?_⟩
      rw [separator, if_pos rfl, List.nil_append, ← List.append_assoc, scanItems, hq]
      simp only [item, if_false, if_true]
      rfl
    | false =>
      obtain ⟨o, ho⟩ := skipGap_append p ',' (behind ++ c :: cs) hbefore rfl
      obtain ⟨q, hq⟩ := skipGap_append (o.after ',') c cs hbehind token
      refine ⟨q, ?_⟩
      rw [separator, if_neg Bool.false_ne_true, List.singleton_append, scanItems, ho]
      simp [hq, item]
      rfl
  obtain ⟨q, arrives⟩ := arrives
  obtain ⟨node, r, scan, hnode⟩ := head q
  obtain ⟨items, s, run, hitems⟩ := others r
  refine ⟨.more q (.atPlace .trailingCharacters (Cursor.facing ⟨q, c :: cs⟩)) node items, s, ?_, ?_⟩
  · rw [arrives, itemsFrom, scan]
    simp only [run]
  · rw [Items.values?, hnode, hitems]

/-- A closing brace ends a record. -/
theorem entriesScanAs_close (fuel depth : Nat) (first : Bool) {gap : List Char} (rest : List Char)
    (hgap : IsGap gap) :
    EntriesScanAs (fuel + 1) depth first (gap ++ '\x7d' :: rest) rest (some []) := by
  intro p
  obtain ⟨q, hq⟩ := skipGap_append p '\x7d' rest hgap rfl
  refine ⟨.close (q.after '\x7d'), q.after '\x7d', ?_, rfl⟩
  rw [scanEntries, hq]
  simp

/-- A member counts if its key and its value have no fault. -/
theorem Entries.members?_more (resting : Place) (whenEnded : Fault) (key : Except Fault String)
    (keyStop keyResting : Place) (value : Node) (rest : Entries) :
    (Entries.more resting whenEnded key keyStop keyResting value rest).members? =
      (do return (← key.toOption, ← value.value?) :: (← rest.members?)) := by
  cases key with
  | error fault => rfl
  | ok key => rw [Entries.members?]; rfl

/-- A member of a record, and those behind it. -/
theorem entriesScanAs_more {fuel depth : Nat} (first : Bool)
    {before behind key beforeColon text tail rest : List Char} {k : Option (List Char)}
    {v : Option Value} {ms : Option (List (String × Value))} (hbefore : IsGap before)
    (hbehind : IsGap behind) (hkey : Quotation.Denotes key k) (hcolon : IsGap beforeColon)
    (head : ScansAs fuel depth text tail v) (others : EntriesScanAs fuel depth false tail rest ms) :
    EntriesScanAs (fuel + 1) depth first
      (before ++ (separator first ++ (behind ++
        ('"' :: (key ++ '"' :: (beforeColon ++ ':' :: text)))))) rest
      (do return (.ofList (← k), ← v) :: (← ms)) := by
  intro p
  -- What the scanner does from the opening quote of the key on.
  have entry (q : Place) : ∃ r s t u node entries,
      Quotation.skip (q.after '"') (key ++ '"' :: (beforeColon ++ ':' :: text)) =
        .ok ⟨r, beforeColon ++ ':' :: text⟩ ∧
      Cursor.skipGap ⟨r, beforeColon ++ ':' :: text⟩ = ⟨s, ':' :: text⟩ ∧
      scanNode fuel depth ⟨s.after ':', text⟩ = (node, some ⟨t, tail⟩) ∧
      scanEntries fuel depth false ⟨t, tail⟩ = (entries, some ⟨u, rest⟩) ∧
      ∀ resting ended,
        (Entries.more resting ended
          (readQuotation ⟨q.after '"', key ++ '"' :: (beforeColon ++ ':' :: text)⟩) r s node
          entries).members? = (do return (.ofList (← k), ← v) :: (← ms)) := by
    obtain ⟨r, reading, skipping⟩ :=
      readQuotation_denoted hkey (q.after '"') (beforeColon ++ ':' :: text)
    obtain ⟨s, colon⟩ := skipGap_append r ':' text hcolon rfl
    obtain ⟨node, t, scan, hnode⟩ := head (s.after ':')
    obtain ⟨entries, u, run, hentries⟩ := others t
    refine ⟨r, s, t, u, node, entries, skipping, colon, scan, run, ?_⟩
    intro resting ended
    rw [Entries.members?_more, reading, hnode, hentries]
    cases k <;> rfl
  cases first with
  | true =>
    obtain ⟨q, hq⟩ := skipGap_append p '"' (key ++ '"' :: (beforeColon ++ ':' :: text))
      (hbefore.append hbehind) rfl
    obtain ⟨r, s, t, u, node, entries, skipping, colon, scan, run, members⟩ := entry q
    refine ⟨.more q (.atPlace .noValue q) _ r s node entries, u, ?_, members _ _⟩
    rw [separator, if_pos rfl, List.nil_append, ← List.append_assoc, scanEntries, hq]
    simp [skipping, colon, scan, run]
  | false =>
    obtain ⟨o, ho⟩ := skipGap_append p ','
      (behind ++ '"' :: (key ++ '"' :: (beforeColon ++ ':' :: text))) hbefore rfl
    obtain ⟨q, hq⟩ := skipGap_append (o.after ',') '"'
      (key ++ '"' :: (beforeColon ++ ':' :: text)) hbehind rfl
    obtain ⟨r, s, t, u, node, entries, skipping, colon, scan, run, members⟩ := entry q
    -- A reader that gives up in front of a member rests in front of its comma.
    refine ⟨.more o (.atPlace .noValue o) _ r s node entries, u, ?_, members _ _⟩
    rw [separator, if_neg Bool.false_ne_true, List.singleton_append, scanEntries, ho]
    simp [hq, skipping, colon, scan, run]

/-! ## The run -/

/-- The characters of a value start with a token. -/
theorem Denotes.start {cs : List Char} {v : Option Value} (h : Denotes cs v) : StartsValue cs := by
  cases h with
  | null => exact ⟨'n', _, rfl, rfl, by decide⟩
  | boolean b =>
    cases b with
    | true => exact ⟨'t', _, rfl, rfl, by decide⟩
    | false => exact ⟨'f', _, rfl, rfl, by decide⟩
  | number numeral =>
    obtain ⟨c, tail, rfl, hc⟩ := numeral.head
    refine ⟨c, tail, rfl, ?_⟩
    rcases hc with rfl | digit
    · decide
    · exact ⟨isGap_of_isDigit digit, by rintro rfl; exact absurd digit (by decide)⟩
  | text _ => exact ⟨'"', _, rfl, rfl, by decide⟩
  | list _ => exact ⟨'[', _, rfl, rfl, by decide⟩
  | record _ => exact ⟨'\x7b', _, rfl, rfl, by decide⟩

/-- What has a mark behind a gap is not empty, and a numeral ends before it. -/
theorem IsGap.ends {gap : List Char} (hgap : IsGap gap) {mark : Char} {tail : List Char}
    (stops : Numeral.continuesNumeral mark = false) (rest : List Char) :
    0 < (gap ++ mark :: tail).length ∧ Numeral.EndsBefore ((gap ++ mark :: tail) ++ rest) := by
  constructor
  · rw [List.length_append, List.length_cons]
    omega
  · rw [List.append_assoc]
    exact hgap.endsBefore (Numeral.endsBefore_cons stops)

/-- There is a character in the rest of a list, and a numeral ends before it. -/
theorem ItemsDenote.ends {cs : List Char} {vs : Option (List Value)}
    (h : ItemsDenote false cs vs) (rest : List Char) :
    0 < cs.length ∧ Numeral.EndsBefore (cs ++ rest) := by
  cases h with
  | close hgap => exact hgap.ends rfl rest
  | more hbefore _ _ _ => exact hbefore.ends rfl rest

/-- There is a character in the rest of a record, and a numeral ends before it. -/
theorem EntriesDenote.ends {cs : List Char} {ms : Option (List (String × Value))}
    (h : EntriesDenote false cs ms) (rest : List Char) :
    0 < cs.length ∧ Numeral.EndsBefore (cs ++ rest) := by
  cases h with
  | close hgap => exact hgap.ends rfl rest
  | more hbefore _ _ _ _ _ _ => exact hbefore.ends rfl rest

mutual

/-- The characters of a value are scanned as that value. -/
theorem Denotes.scansAs {cs : List Char} {v : Option Value} :
    Denotes cs v → ∀ (fuel depth : Nat), cs.length ≤ fuel → ∀ {rest : List Char},
      Numeral.EndsBefore rest → ScansAs fuel depth (cs ++ rest) rest v
  | h, 0, _, enough, _, _ => absurd enough (Nat.not_le_of_lt h.start.length_pos)
  | .null, fuel + 1, depth, _, rest, _ => scansAs_null fuel depth rest
  | .boolean b, fuel + 1, depth, _, rest, _ => scansAs_boolean fuel depth b rest
  | .number numeral, fuel + 1, depth, _, _, ends => scansAs_number fuel depth numeral ends
  | .text s, fuel + 1, depth, _, rest, _ => by
    have scan := scansAs_text fuel depth s rest
    simpa only [List.cons_append, List.append_assoc, List.nil_append] using scan
  | .list items, fuel + 1, depth, enough, rest, _ =>
    scansAs_list (items.scanAs fuel (depth + 1) (Nat.le_of_succ_le_succ enough) rest)
  | .record entries, fuel + 1, depth, enough, rest, _ =>
    scansAs_record (entries.scanAs fuel (depth + 1) (Nat.le_of_succ_le_succ enough) rest)

/-- The characters of the rest of a list are scanned as its items. -/
theorem ItemsDenote.scanAs {first : Bool} {cs : List Char} {vs : Option (List Value)} :
    ItemsDenote first cs vs → ∀ (fuel depth : Nat), cs.length ≤ fuel → ∀ (rest : List Char),
      ItemsScanAs fuel depth first (cs ++ rest) rest vs
  | .close hgap, fuel, depth, enough, rest => by
    rw [List.length_append, List.length_singleton] at enough
    obtain ⟨fuel, rfl⟩ : ∃ k, fuel = k + 1 := Nat.exists_eq_succ_of_ne_zero (by omega)
    rw [List.append_assoc]
    exact itemsScanAs_close fuel depth first rest hgap
  | .more hbefore hbehind item others, fuel, depth, enough, rest => by
    obtain ⟨nonempty, ends⟩ := others.ends rest
    have positive := item.start.length_pos
    simp only [List.length_append] at enough
    obtain ⟨fuel, rfl⟩ : ∃ k, fuel = k + 1 := Nat.exists_eq_succ_of_ne_zero (by omega)
    have scan := itemsScanAs_more first hbefore hbehind (item.start.append _)
      (item.scansAs fuel depth (by omega) ends) (others.scanAs fuel depth (by omega) rest)
    simpa only [List.append_assoc] using scan

/-- The characters of the rest of a record are scanned as its members. -/
theorem EntriesDenote.scanAs {first : Bool} {cs : List Char}
    {ms : Option (List (String × Value))} :
    EntriesDenote first cs ms → ∀ (fuel depth : Nat), cs.length ≤ fuel → ∀ (rest : List Char),
      EntriesScanAs fuel depth first (cs ++ rest) rest ms
  | .close hgap, fuel, depth, enough, rest => by
    rw [List.length_append, List.length_singleton] at enough
    obtain ⟨fuel, rfl⟩ : ∃ k, fuel = k + 1 := Nat.exists_eq_succ_of_ne_zero (by omega)
    rw [List.append_assoc]
    exact entriesScanAs_close fuel depth first rest hgap
  | .more hbefore hbehind key hcolon hvalue value others, fuel, depth, enough, rest => by
    obtain ⟨nonempty, ends⟩ := others.ends rest
    simp only [List.length_append, List.length_cons] at enough
    obtain ⟨fuel, rfl⟩ : ∃ k, fuel = k + 1 := Nat.exists_eq_succ_of_ne_zero (by omega)
    have head := value.scansAs fuel depth (by omega) ends
    have scan := entriesScanAs_more first hbefore hbehind key hcolon
      (head.behindGap hvalue (value.start.append _)) (others.scanAs fuel depth (by omega) rest)
    simpa only [List.cons_append, List.append_assoc] using scan

end

/-- A text that denotes a value or none is a document with that value and nothing behind it. -/
theorem TextDenotes.scan {text : String} {v : Option Value} (h : TextDenotes text v) :
    ∃ node : Node, Document.ofText text.toList = ⟨node, none⟩ ∧ node.value? = v := by
  obtain @⟨before, cs, behind, _, hbefore, hbehind, h⟩ := h
  have ends : Numeral.EndsBefore behind := by
    have gap := hbehind.endsBefore Numeral.endsBefore_nil
    rwa [List.append_nil] at gap
  have root := h.scansAs (2 * (before ++ (cs ++ behind)).length + 2) 0
    (by simp only [List.length_append]; omega) ends
  obtain ⟨node, q, scan, value⟩ := root.behindGap hbefore (h.start.append behind) .start
  refine ⟨node, ?_, value⟩
  rw [String.toList_ofList, Document.ofText, Cursor.ofText, scan]
  simp only [skipGap_end q hbehind, List.isEmpty_nil, if_true]

end HandlerWiring.Json
