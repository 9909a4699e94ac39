import Mathlib.Order.Bounds.Basic
import HandlerWiring.Proofs.Decimal.Format
import HandlerWiring.Proofs.Dictionary.Operation
import HandlerWiring.Proofs.Input
import HandlerWiring.Proofs.Text.Bytes
import HandlerWiring.Proofs.Toml.Table

/-!
# Settings files are read whole or not at all

A document that follows the grammar is refused exactly if one of its names stands for a list or a
table, and then the first of these names in the order of their bytes is the reason. Otherwise every
name is a setting, with the text of its scalar.

What is read is told twice. `SettingsFile.collect` goes through the table in the order of its names
and writes one setting after the other until it meets a list or a table; what it has written up to
then is lost. That gives the same as looking for lists and tables first.

Which texts are documents is not decided here.
-/

namespace HandlerWiring

open Toml

/-! ## Nodes and scalars -/

/-- The node is a list or a table: on one line, of a section or on the way to one, of a dotted key,
or of repeated sections. -/
def Toml.Node.IsCompound : Node → Prop
  | .scalar _ => False
  | .list _ => True
  | .sealed _ => True
  | .table _ _ => True
  | .tables _ => True

theorem Toml.Node.text?_eq_none_iff (node : Node) : node.text? = none ↔ node.IsCompound := by
  cases node with
  | scalar s => exact iff_of_false nofun id
  | list items => exact iff_of_true rfl trivial
  | «sealed» entries => exact iff_of_true rfl trivial
  | table making entries => exact iff_of_true rfl trivial
  | tables elements => exact iff_of_true rfl trivial

/-- The scalar that a node is, if it is one. -/
def Toml.Node.scalar? : Node → Option Scalar
  | .scalar s => some s
  | _ => none

/-- The scalars of a table, and the names that stand for none. -/
theorem Toml.mem_iff_of_scalars {t : Table} {shown : List (String × Option Scalar)}
    (scalars : t.map (fun entry => (entry.1, entry.2.scalar?)) = shown) (key : String) :
    ((∃ node, (key, node) ∈ t ∧ node.IsCompound) ↔ (key, none) ∈ shown) ∧
      ∀ s, (key, Node.scalar s) ∈ t ↔ (key, some s) ∈ shown := by
  subst scalars
  simp only [List.mem_map, Prod.mk.injEq, Prod.exists]
  constructor
  · constructor
    · rintro ⟨node, among, compound⟩
      refine ⟨key, node, among, rfl, ?_⟩
      cases node with
      | scalar s => exact compound.elim
      | list _ | «sealed» _ | table _ _ | tables _ => rfl
    · rintro ⟨_, node, among, rfl, none⟩
      refine ⟨node, among, ?_⟩
      cases node with
      | scalar s => cases none
      | list _ | «sealed» _ | table _ _ | tables _ => trivial
  · intro s
    constructor
    · intro among
      exact ⟨key, .scalar s, among, rfl, rfl⟩
    · rintro ⟨_, node, among, rfl, scalar⟩
      cases node with
      | scalar s' =>
        cases scalar
        exact among
      | list _ | «sealed» _ | table _ _ | tables _ => cases scalar

theorem Toml.Node.text?_eq_some_iff {node : Node} {text : String} :
    node.text? = some text ↔ ∃ s, node = .scalar s ∧ s.asText = text := by
  cases node with
  | scalar s =>
    constructor
    · intro same
      exact ⟨s, rfl, Option.some.inj same⟩
    · rintro ⟨_, ⟨⟩, rfl⟩
      rfl
  | list items => exact iff_of_false nofun nofun
  | «sealed» entries => exact iff_of_false nofun nofun
  | table making entries => exact iff_of_false nofun nofun
  | tables elements => exact iff_of_false nofun nofun

/-- What a scalar counts as: a text as itself, a truth value as its name, a number in decimal, which
is rounded to the same number, a date or time in its normal form, which is read as the same date or
time. -/
inductive Toml.Scalar.CountsAs : Scalar → String → Prop where
  | text (s : String) : CountsAs (.text s) s
  | integer (n : Int) : CountsAs (.number (.integer n)) (toString n)
  | real {bits : UInt64} {text : List Char} (shortest : Decimal.plain.writeBits bits = text)
      (spelt : Decimal.Spells text bits) : CountsAs (.number (.real bits)) (String.ofList text)
  | boolean (b : Bool) : CountsAs (.boolean b) (toString b)
  | moment {m : Moment} {text : List Char} (normal : m.text = text)
      (readBack : Moment.read text = some (m, [])) : CountsAs (.moment m) (String.ofList text)

/-- An integer is written as usual. -/
theorem Toml.Number.ofList_text_integer (n : Int) :
    String.ofList (Number.integer n).text = toString n := by
  rw [Number.text, Int.toString_eq_repr, Int.repr_eq_if]
  by_cases negative : n < 0
  · have size : n.natAbs = (-n).toNat := by omega
    rw [if_pos negative, if_neg (by omega), size, String.ofList_append]
    rfl
  · have size : n.natAbs = n.toNat := by omega
    rw [if_neg negative, if_pos (by omega), size, List.nil_append]
    rfl

theorem Toml.Scalar.countsAs_asText {s : Scalar} (sound : (Node.scalar s).IsSound) :
    s.CountsAs s.asText := by
  cases s with
  | text s => exact .text s
  | number n =>
    cases n with
    | integer n =>
      rw [asText, Number.ofList_text_integer]
      exact .integer n
    | real bits => exact .real rfl (Decimal.spells_writeBits bits)
  | boolean b => cases b <;> exact .boolean _
  | moment m => exact .moment rfl (Moment.read_text sound)

namespace SettingsFile

/-- Write the settings of a table one after the other, up to the first list or table. -/
def collect : Dictionary → Table → Except SettingsFault Dictionary
  | d, [] => .ok d
  | d, (key, node) :: rest =>
    match node.text? with
    | some text => collect (d.insert key text) rest
    | none => .error (.compound key)

/-- The nodes of a table in the order of their names. -/
def inOrder (t : Table) : Table := t.mergeSort fun a b => a.1 ≤ b.1

/-- A name of the table stands for a list or a table. -/
def HasCompound (t : Table) (key : String) : Prop := ∃ node, (key, node) ∈ t ∧ node.IsCompound

variable {t t' : Table} {d : Dictionary} {key : String}

theorem inOrder_perm (t : Table) : (inOrder t).Perm t := List.mergeSort_perm _ _

/-- The names of a table in order are increasing if they are distinct. -/
theorem pairwise_inOrder (distinct : t.Distinct) : (inOrder t).Pairwise (·.1 < ·.1) := by
  have weakly : (inOrder t).Pairwise fun a b => decide (a.1 ≤ b.1) = true := by
    apply List.pairwise_mergeSort
    · intro a b c lower upper
      exact decide_eq_true (String.le_trans (of_decide_eq_true lower) (of_decide_eq_true upper))
    · intro a b
      rw [Bool.or_eq_true, decide_eq_true_eq, decide_eq_true_eq]
      exact String.le_total a.1 b.1
  have apart : (inOrder t).Pairwise fun a b => a.1 ≠ b.1 :=
    List.pairwise_map.mp (((inOrder_perm t).map _).nodup_iff.mpr distinct)
  refine (weakly.and apart).imp fun {a b} both => ?_
  by_contra notLower
  exact both.2 (String.le_antisymm (of_decide_eq_true both.1) (String.not_lt.mp notLower))

/-! ## The names that are refused -/

theorem mem_compounds : key ∈ compounds t ↔ HasCompound t key := by
  rw [compounds, List.mem_map]
  constructor
  · rintro ⟨⟨k, node⟩, among, rfl⟩
    obtain ⟨there, none⟩ := List.mem_filter.mp among
    exact ⟨node, there, node.text?_eq_none_iff.mp (Option.isNone_iff_eq_none.mp none)⟩
  · rintro ⟨node, there, compound⟩
    have none : node.text?.isNone = true := by
      rw [node.text?_eq_none_iff.mpr compound]
      rfl
    exact ⟨(key, node), List.mem_filter.mpr ⟨there, none⟩, rfl⟩

theorem hasCompound_perm (perm : t.Perm t') (key : String) :
    HasCompound t key ↔ HasCompound t' key := by
  simp only [HasCompound, perm.mem_iff]

/-- The least text of a list is one of them, and none is smaller; only the empty list has none. -/
theorem least?_spec (keys : List String) :
    (least? keys = none ∧ keys = []) ∨
      ∃ k, least? keys = some k ∧ k ∈ keys ∧ ∀ other ∈ keys, ¬other < k := by
  induction keys with
  | nil => exact .inl ⟨rfl, rfl⟩
  | cons k ks ih =>
    right
    rw [least?]
    rcases ih with ⟨none, rfl⟩ | ⟨m, found, among, least⟩
    · rw [none]
      refine ⟨k, rfl, List.mem_cons_self, fun other mem => ?_⟩
      rw [List.mem_singleton.mp mem]
      exact String.lt_irrefl k
    · rw [found]
      by_cases lower : m < k
      · refine ⟨m, congrArg some (if_pos lower), List.mem_cons_of_mem k among, fun other mem => ?_⟩
        rcases List.mem_cons.mp mem with rfl | mem
        · exact String.lt_asymm lower
        · exact least other mem
      · refine ⟨k, congrArg some (if_neg lower), List.mem_cons_self, fun other mem smaller => ?_⟩
        rcases List.mem_cons.mp mem with rfl | mem
        · exact String.lt_irrefl _ smaller
        · -- `m` is not above the other one, which is below `k`.
          have atMost : m ≤ other := String.not_lt.mp (least other mem)
          exact lower (Std.lt_of_le_of_lt atMost smaller)

theorem least?_eq_some_iff {keys : List String} :
    least? keys = some key ↔ key ∈ keys ∧ ∀ other ∈ keys, ¬other < key := by
  rcases least?_spec keys with ⟨none, rfl⟩ | ⟨k, found, among, least⟩
  · rw [none]
    exact iff_of_false nofun fun least => List.not_mem_nil least.1
  · rw [found, Option.some.injEq]
    constructor
    · rintro rfl
      exact ⟨among, least⟩
    · rintro ⟨among', least'⟩
      have atMost : k ≤ key := String.not_lt.mp (least key among')
      exact String.le_antisymm atMost (String.not_lt.mp (least' k among))

theorem least?_eq_none_iff {keys : List String} : least? keys = none ↔ keys = [] := by
  rcases least?_spec keys with ⟨none, rfl⟩ | ⟨k, found, among, -⟩
  · exact iff_of_true none rfl
  · rw [found]
    exact iff_of_false nofun (List.ne_nil_of_mem among)

/-- A table is refused for the least of its names that stand for a list or a table. -/
theorem ofTable_eq_error_iff :
    ofTable t = .error (.compound key) ↔
      HasCompound t key ∧ ∀ other, HasCompound t other → ¬other < key := by
  have least : least? (compounds t) = some key ↔
      HasCompound t key ∧ ∀ other, HasCompound t other → ¬other < key := by
    simp only [least?_eq_some_iff, mem_compounds]
  rw [← least, ofTable]
  cases least? (compounds t) with
  | none => exact iff_of_false nofun nofun
  | some k => rw [Except.error.injEq, SettingsFault.compound.injEq, Option.some.injEq]

/-! ## The settings that are read -/

theorem mem_scalars {value : String} :
    (key, value) ∈ scalars t ↔ ∃ s, (key, Node.scalar s) ∈ t ∧ s.asText = value := by
  rw [scalars, List.mem_filterMap]
  constructor
  · rintro ⟨⟨k, node⟩, among, made⟩
    obtain ⟨text, has, same⟩ := Option.map_eq_some_iff.mp made
    cases same
    obtain ⟨s, rfl, rfl⟩ := Node.text?_eq_some_iff.mp has
    exact ⟨s, among, rfl⟩
  · rintro ⟨s, among, rfl⟩
    exact ⟨(key, .scalar s), among, rfl⟩

theorem scalars_cons {node : Node} {text : String} (has : node.text? = some text) :
    scalars ((key, node) :: t) = (key, text) :: scalars t := by
  rw [scalars, List.filterMap_cons, has]
  rfl

/-- The first node of a table is a scalar if no name stands for a list or a table, and so are the
others. -/
theorem scalar_cons {node : Node} (scalar : ∀ other, ¬HasCompound ((key, node) :: t) other) :
    (∃ text, node.text? = some text) ∧ ∀ other, ¬HasCompound t other := by
  constructor
  · cases has : node.text? with
    | none => exact absurd ⟨node, List.mem_cons_self, node.text?_eq_none_iff.mp has⟩ (scalar key)
    | some text => exact ⟨text, rfl⟩
  · rintro other ⟨n, among, compound⟩
    exact scalar other ⟨n, List.mem_cons_of_mem _ among, compound⟩

/-- The settings of a table without lists and tables have its names. -/
theorem names_scalars (scalar : ∀ key, ¬HasCompound t key) :
    (scalars t).map (·.1) = t.map (·.1) := by
  induction t with
  | nil => rfl
  | cons entry rest ih =>
    obtain ⟨⟨text, has⟩, later⟩ := scalar_cons scalar
    rw [scalars_cons has, List.map_cons, List.map_cons, ih later]

/-- Lists and tables only take names away. -/
theorem names_scalars_sublist (t : Table) : ((scalars t).map (·.1)).Sublist (t.map (·.1)) := by
  induction t with
  | nil => exact .slnil
  | cons entry rest ih =>
    rw [scalars, List.filterMap_cons]
    cases entry.2.text? with
    | none => exact ih.cons _
    | some text => exact ih.cons_cons _

theorem nodup_names_scalars (distinct : t.Distinct) : ((scalars t).map (·.1)).Nodup :=
  distinct.sublist (names_scalars_sublist t)

/-- A table is refused or read, as it has a list or a table under some name or not. -/
theorem ofTable_cases (t : Table) :
    (∃ key, HasCompound t key ∧ ofTable t = .error (.compound key)) ∨
      (∀ key, ¬HasCompound t key) ∧ ofTable t = .ok (.ofList (scalars t)) := by
  cases least : least? (compounds t) with
  | none =>
    refine .inr ⟨fun key compound => ?_, by rw [ofTable, least]⟩
    exact List.not_mem_nil (least?_eq_none_iff.mp least ▸ mem_compounds.mpr compound)
  | some key =>
    exact .inl ⟨key, mem_compounds.mp (least?_eq_some_iff.mp least).1, by rw [ofTable, least]⟩

/-! ## One setting after the other -/

theorem collect_of_scalar (scalar : ∀ key, ¬HasCompound t key) (d : Dictionary) :
    collect d t = .ok (d.insertAll (scalars t)) := by
  induction t generalizing d with
  | nil => rfl
  | cons entry rest ih =>
    obtain ⟨⟨text, has⟩, later⟩ := scalar_cons scalar
    simp only [collect, has]
    rw [ih later, scalars_cons has]
    rfl

/-- What was written before a list or a table is met does not matter: of increasing names the first
one that stands for either is the reason. -/
theorem collect_of_compound (ordered : t.Pairwise (·.1 < ·.1)) (compound : HasCompound t key)
    (least : ∀ other, HasCompound t other → ¬other < key) (d : Dictionary) :
    collect d t = .error (.compound key) := by
  induction t generalizing d with
  | nil =>
    obtain ⟨_, among, -⟩ := compound
    cases among
  | cons entry rest ih =>
    obtain ⟨k, node⟩ := entry
    obtain ⟨first, later⟩ := List.pairwise_cons.mp ordered
    obtain ⟨n, among, isCompound⟩ := compound
    cases has : node.text? with
    | none =>
      simp only [collect, has]
      have here : HasCompound ((k, node) :: rest) k :=
        ⟨node, List.mem_cons_self, node.text?_eq_none_iff.mp has⟩
      rcases List.mem_cons.mp among with same | behind
      · cases same
        rfl
      · exact absurd (first (key, n) behind) (least k here)
    | some text =>
      simp only [collect, has]
      rcases List.mem_cons.mp among with same | behind
      · cases same
        rw [node.text?_eq_none_iff.mpr isCompound] at has
        cases has
      · refine ih later ⟨n, behind, isCompound⟩ (fun other there => ?_) _
        obtain ⟨n', among', compound'⟩ := there
        exact least other ⟨n', List.mem_cons_of_mem _ among', compound'⟩

/-- The order in which settings are written does not matter. -/
theorem ofList_scalars_perm (distinct : t.Distinct) (perm : t.Perm t') :
    Dictionary.ofList (scalars t) = Dictionary.ofList (scalars t') := by
  have distinct' : t'.Distinct := (perm.map _).nodup_iff.mp distinct
  have same : (scalars t).Perm (scalars t') := perm.filterMap _
  refine Dictionary.ofList_congr fun key => ?_
  by_cases there : key ∈ (scalars t).map (·.1)
  · obtain ⟨⟨k, value⟩, among, rfl⟩ := List.mem_map.mp there
    rw [Dictionary.lastUnder?_of_mem (nodup_names_scalars distinct) among,
      Dictionary.lastUnder?_of_mem (nodup_names_scalars distinct') (same.mem_iff.mp among)]
  · rw [Dictionary.lastUnder?_eq_none there,
      Dictionary.lastUnder?_eq_none (mt (same.map _).mem_iff.mpr there)]

/-- Looking for lists and tables first and going through the table in the order of its names give
the same. -/
theorem ofTable_eq_collect (distinct : t.Distinct) : ofTable t = collect .empty (inOrder t) := by
  have moved (key : String) : HasCompound (inOrder t) key ↔ HasCompound t key :=
    hasCompound_perm (inOrder_perm t) key
  rcases ofTable_cases t with ⟨key, -, refused⟩ | ⟨scalar, whole⟩
  · obtain ⟨compound, least⟩ := ofTable_eq_error_iff.mp refused
    rw [refused, collect_of_compound (pairwise_inOrder distinct) ((moved key).mpr compound)
      fun other there => least other ((moved other).mp there)]
  · rw [whole, collect_of_scalar fun key => mt (moved key).mp (scalar key),
      ofList_scalars_perm distinct (inOrder_perm t).symm]
    rfl

/-- A setting is found under each name, with the text of its scalar. -/
theorem get?_ofList_scalars (distinct : t.Distinct) {s : Scalar}
    (among : (key, Node.scalar s) ∈ t) :
    (Dictionary.ofList (scalars t)).get? key = some s.asText :=
  Dictionary.get?_ofList_of_mem (nodup_names_scalars distinct) (mem_scalars.mpr ⟨s, among, rfl⟩)

theorem read_of_document {text : String} (document : Toml.read text = some t) :
    read text = ofTable t := by
  rw [read, document]

end SettingsFile

namespace Sources

variable {w : World} {path : Path} {text key : String} {d : Dictionary}

/-- A settings file that is refused gives no sources, and leaves everything as it is. -/
theorem run_assemble_of_compound (stored : w.files.read path = .ok text)
    (refused : SettingsFile.read text = .error (.compound key)) (options : Dictionary)
    (properties : List Property) :
    (assemble options (some path) properties).run w = (.error (.compoundSetting key), w) := by
  have told : settingsOf path text = .error (.compoundSetting key) := by
    rw [settingsOf, refused]
  rw [run_assemble, found, settingsFound, stored]
  simp only [told, Except.map]

/-- A settings file that is read gives the sources with its settings. -/
theorem run_assemble_of_read (stored : w.files.read path = .ok text)
    (given : SettingsFile.read text = .ok d) (options : Dictionary)
    (properties : List Property) :
    (assemble options (some path) properties).run w =
      (.ok (combine options properties d), w) := by
  have told : settingsOf path text = .ok d := by
    rw [settingsOf, given]
  rw [run_assemble, found, settingsFound, stored]
  simp only [told, Except.map]

end Sources

/-- Of a document every name stands once in its table. Reading it comes to going through the table in
the order of the bytes of the names. It fails exactly if some name stands for a list or a table, and
the first such name in this order is the reason. Otherwise it gives a dictionary with exactly the
names of the document, each with the text of its scalar. The sources of a command are put together
with all of it, or not at all. -/
theorem settings_read_whole_or_refused {text : String} {t : Toml.Table}
    (document : Toml.read text = some t) :
    let result := SettingsFile.read text
    let ordered := SettingsFile.inOrder t
    let compound (key : String) := ∃ node, (key, node) ∈ t ∧ node.IsCompound
    (ordered.Perm t ∧ ordered.Pairwise (fun a b => Text.bytes a.1 < Text.bytes b.1) ∧
        result = SettingsFile.collect .empty ordered) ∧
      ((∃ fault, result = .error fault) ↔ ∃ key, compound key) ∧
      (∀ fault, result = .error fault ↔ ∃ key, fault = .compound key ∧
        compound key ∧ ∀ other, compound other → ¬Text.bytes other < Text.bytes key) ∧
      ((¬∃ key, compound key) → ∃ d, result = .ok d ∧
        (∀ key, key ∈ d.entries.map (·.1) ↔ key ∈ t.map (·.1)) ∧
        ∀ key s, (key, Node.scalar s) ∈ t → ∃ value, s.CountsAs value ∧ d.get? key = some value) ∧
      ∀ (w : World) (path : Path) (options : Dictionary) (properties : List Property),
        w.files.read path = .ok text →
          (∀ key, result = .error (.compound key) →
            (Sources.assemble options (some path) properties).run w =
              (.error (.compoundSetting key), w)) ∧
          ∀ d, result = .ok d → (Sources.assemble options (some path) properties).run w =
            (.ok (Sources.combine options properties d), w) := by
  intro result ordered compound
  have distinct := distinct_of_read document
  have comes : result = SettingsFile.ofTable t := SettingsFile.read_of_document document
  have blamed (key : String) : result = .error (.compound key) ↔
      compound key ∧ ∀ other, compound other → ¬Text.bytes other < Text.bytes key := by
    rw [comes, SettingsFile.ofTable_eq_error_iff]
    simp only [Text.lt_iff_bytes_lt]
    rfl
  have either : (∃ key, compound key ∧ result = .error (.compound key)) ∨
      (∀ key, ¬compound key) ∧ result = .ok (.ofList (SettingsFile.scalars t)) := by
    rw [comes]
    exact SettingsFile.ofTable_cases t
  refine ⟨⟨SettingsFile.inOrder_perm t, ?_, ?_⟩, ?_, ?_, ?_, ?_⟩
  · exact (SettingsFile.pairwise_inOrder distinct).imp Text.lt_iff_bytes_lt.mp
  · rw [comes, SettingsFile.ofTable_eq_collect distinct]
  · rcases either with ⟨key, there, refused⟩ | ⟨scalar, whole⟩
    · exact iff_of_true ⟨_, refused⟩ ⟨key, there⟩
    · rw [whole]
      exact iff_of_false nofun (not_exists.mpr scalar)
  · intro fault
    constructor
    · intro failed
      rcases either with ⟨key, -, refused⟩ | ⟨-, whole⟩
      · exact ⟨key, Except.error.inj (failed.symm.trans refused), (blamed key).mp refused⟩
      · cases failed.symm.trans whole
    · rintro ⟨key, rfl, least⟩
      exact (blamed key).mpr least
  · intro scalar
    have scalar := not_exists.mp scalar
    rcases either with ⟨key, there, -⟩ | ⟨-, whole⟩
    · exact absurd there (scalar key)
    · refine ⟨_, whole, fun key => ?_, fun key s among => ?_⟩
      · rw [Dictionary.mem_keys_ofList, SettingsFile.names_scalars scalar]
      · exact ⟨s.asText, Scalar.countsAs_asText (isSound_of_read document among),
          SettingsFile.get?_ofList_scalars distinct among⟩
  · intro w path options properties stored
    exact ⟨fun key refused => Sources.run_assemble_of_compound stored refused options properties,
      fun d given => Sources.run_assemble_of_read stored given options properties⟩

/-- A list, a dotted key, a table on one line and a section: the least of their names is the reason,
although it stands neither first nor last. A truth value, a moment, a number in base sixteen, one
with an exponent and a text count as their texts. -/
theorem settings_read_whole_or_refused_sample :
    let compounds := "z = []\nb.c = 1\na = 'x'\nd = \x7b\x7d\n[e.f]\n"
    let scalars := "on = true\nat = 1979-05-27 07:32:00.50-08:00\nn = 0x1F\nr = 1e3\ns = 'x'\n"
    (∃ t, Toml.read compounds = some t) ∧ SettingsFile.read compounds = .error (.compound "b") ∧
      ∃ d, SettingsFile.read scalars = .ok d ∧ d.get? "on" = some "true" ∧
        d.get? "at" = some "1979-05-27T07:32:00.5-08:00" ∧ d.get? "n" = some "31" ∧
        d.get? "r" = some "1000" ∧ d.get? "s" = some "x" := by
  intro compounds scalars
  have refused : ∃ t, Toml.read compounds = some t ∧
      t.map (fun entry => (entry.1, entry.2.scalar?)) =
        [("z", none), ("b", none), ("a", some (.text "x")), ("d", none), ("e", none)] :=
    Option.map_eq_some_iff.mp (by decide +kernel)
  have given : ∃ t, Toml.read scalars = some t ∧
      t.map (fun entry => (entry.1, entry.2.scalar?)) =
        [("on", some (.boolean true)),
          ("at", some (.moment (.instant ⟨1979, 5, 27⟩ ⟨7, 32, 0, 500000000⟩
            (some (.minutes (-480)))))),
          ("n", some (.number (.integer 31))), ("r", some (.number (.real 0x408f400000000000))),
          ("s", some (.text "x"))] :=
    Option.map_eq_some_iff.mp (by decide +kernel)
  obtain ⟨t, document, shown⟩ := refused
  obtain ⟨t', document', shown'⟩ := given
  obtain ⟨-, -, blamed, -⟩ := settings_read_whole_or_refused document
  obtain ⟨-, -, -, whole, -⟩ := settings_read_whole_or_refused document'
  refine ⟨⟨t, document⟩, (blamed _).mpr ⟨"b", rfl, ?_, ?_⟩, ?_⟩
  · exact (mem_iff_of_scalars shown "b").1.mpr (by decide)
  · intro other there smaller
    have among := (mem_iff_of_scalars shown other).1.mp there
    simp only [List.mem_cons, Prod.mk.injEq, reduceCtorEq, and_true, and_false, List.not_mem_nil,
      or_false, false_or] at among
    rcases among with rfl | rfl | rfl | rfl
    all_goals
      revert smaller
      decide +kernel
  · obtain ⟨d, read, -, counts⟩ := whole fun compound => by
      obtain ⟨key, compound⟩ := compound
      have among := (mem_iff_of_scalars shown' key).1.mp compound
      simp at among
    have value (key : String) (s : Scalar) (among : (key, some s) ∈ _) :=
      counts key s (((mem_iff_of_scalars shown' key).2 s).mpr among)
    refine ⟨d, read, ?_, ?_, ?_, ?_, ?_⟩
    · obtain ⟨_, ⟨⟩, has⟩ := value "on" (.boolean true) (by decide)
      exact has
    · obtain ⟨_, counted, has⟩ := value "at" (.moment (.instant ⟨1979, 5, 27⟩
        ⟨7, 32, 0, 500000000⟩ (some (.minutes (-480))))) (by decide)
      cases counted with
      | moment normal _ =>
        subst normal
        rw [has]
        decide +kernel
    · obtain ⟨_, ⟨⟩, has⟩ := value "n" (.number (.integer 31)) (by decide)
      exact has
    · obtain ⟨_, counted, has⟩ := value "r" (.number (.real 0x408f400000000000)) (by decide)
      cases counted with
      | real shortest _ =>
        subst shortest
        rw [has]
        decide +kernel
    · obtain ⟨_, ⟨⟩, has⟩ := value "s" (.text "x") (by decide)
      exact has

end HandlerWiring
