import HandlerWiring.Proofs.Dictionary.Operation
import HandlerWiring.Proofs.Setting.Precedence
import HandlerWiring.Proofs.Text.Blank
import HandlerWiring.Proofs.Text.Pieces

/-!
# How a property is spelt

A property is given as its name, an equals sign and its value. `Property.Spelling` lists the texts
that give it: there may be blanks on both sides of the name, and nowhere else. A text is read as a
property exactly if it spells that property and the name is one that can be told from the rest
(`parse_eq_ok_iff`). The first equals sign ends the name, so further ones belong to the value, and
so do all blanks behind it. A text is refused for one of two reasons only: it has no equals sign, or
nothing but blanks in front of the first.

A setting may be overridden under its local key as well as under its build-wide one. All the texts
that do so write the same entry into the build-wide source.

Whether the setting then takes that value is not said here: a usable local value is stronger.
-/

namespace HandlerWiring

open Text (AreBlank Unpadded)

namespace Property

/-- A name that is found again in front of an equals sign: it has none itself, it is not empty, and
it neither starts nor ends with a blank. -/
structure IsName (name : String) : Prop where
  nonempty : name ≠ ""
  noEquals : '=' ∉ name.toList
  unpadded : Unpadded name.toList

instance (name : String) : Decidable (IsName name) :=
  decidable_of_iff (name ≠ "" ∧ '=' ∉ name.toList ∧ Unpadded name.toList)
    ⟨fun h => ⟨h.1, h.2.1, h.2.2⟩, fun h => ⟨h.nonempty, h.noEquals, h.unpadded⟩⟩

/-- Names are put together to a name. -/
theorem IsName.append {front name : String} (h : IsName front) (h' : IsName name) :
    IsName (front ++ name) where
  nonempty := fun nothing => h.nonempty (String.append_eq_empty_iff.mp nothing).1
  noEquals := Text.not_mem_append.mpr ⟨h.noEquals, h'.noEquals⟩
  unpadded := String.toList_append ▸ h.unpadded.append h'.unpadded

/-- A text spells a property: blanks, the name, blanks, an equals sign, and the value as it is. -/
inductive Spelling (p : Property) : String → Prop
  | intro {before behind : String} (blankBefore : AreBlank before.toList)
      (blankBehind : AreBlank behind.toList) :
    Spelling p (before ++ p.name ++ behind ++ "=" ++ p.value)

/-! ## The first equals sign -/

theorem cut?_append {before : List Char} (clean : '=' ∉ before) (behind : List Char) :
    cut? (before ++ '=' :: behind) = some (before, behind) := by
  induction before with
  | nil => rfl
  | cons c before ih =>
    have unlike : c ≠ '=' := fun same => clean (same ▸ List.mem_cons_self)
    rw [List.cons_append, cut?, if_neg unlike, ih (List.not_mem_of_not_mem_cons clean)]
    rfl

theorem cut?_eq_none {cs : List Char} (clean : '=' ∉ cs) : cut? cs = none := by
  induction cs with
  | nil => rfl
  | cons c cs ih =>
    have unlike : c ≠ '=' := fun same => clean (same ▸ List.mem_cons_self)
    rw [cut?, if_neg unlike, ih (List.not_mem_of_not_mem_cons clean)]
    rfl

variable {text before behind : String} {p : Property}

theorem exists_first_equals (h : '=' ∈ text.toList) :
    ∃ before behind : String, text = before ++ "=" ++ behind ∧ '=' ∉ before.toList := by
  obtain ⟨before, behind, whole, clean⟩ := List.eq_append_cons_of_mem h
  refine ⟨String.ofList before, String.ofList behind, ?_, ?_⟩
  · rw [← String.toList_inj, whole, String.toList_append, String.toList_append,
      String.toList_ofList, String.toList_ofList, String.toList_ofList, List.append_assoc,
      List.singleton_append]
  · rwa [String.toList_ofList]

/-! ## Reading a text -/

theorem parse_of_not_mem (clean : '=' ∉ text.toList) :
    parse text = .error (.withoutEquals text) := by
  rw [parse, cut?_eq_none clean]

/-- What stands before the first equals sign decides whether a text is refused. -/
theorem parse_append (clean : '=' ∉ before.toList) (behind : String) :
    parse (before ++ "=" ++ behind) =
      if AreBlank before.toList then .error (.blankName (before ++ "=" ++ behind))
      else .ok ⟨Text.trimmed before, behind⟩ := by
  have cut : cut? (before ++ "=" ++ behind).toList = some (before.toList, behind.toList) := by
    rw [String.toList_append, String.toList_append, List.append_assoc]
    exact cut?_append clean behind.toList
  rw [parse, cut]
  simp only [List.isEmpty_iff, Text.trim_eq_nil_iff, String.ofList_toList, Text.trimmed]

/-- A text that is read has more than blanks before its first equals sign: the name, which is what
trimming leaves there, and the value behind. -/
theorem exists_of_parse (read : parse text = .ok p) :
    ∃ before : String, text = before ++ "=" ++ p.value ∧ '=' ∉ before.toList ∧
      ¬AreBlank before.toList ∧ p.name = Text.trimmed before := by
  by_cases cut : '=' ∈ text.toList
  · obtain ⟨before, behind, rfl, clean⟩ := exists_first_equals cut
    rw [parse_append clean] at read
    split at read
    · cases read
    · next filled =>
      cases read
      exact ⟨before, rfl, clean, filled, rfl⟩
  · rw [parse_of_not_mem cut] at read
    cases read

theorem isName_trimmed (clean : '=' ∉ text.toList) (filled : ¬AreBlank text.toList) :
    IsName (Text.trimmed text) where
  nonempty := mt Text.trimmed_eq_empty_iff.mp filled
  noEquals := by
    obtain ⟨before, behind, -, -, whole⟩ := Text.exists_trimmed_padding text
    rw [whole, Text.not_mem_append, Text.not_mem_append] at clean
    exact clean.1.2
  unpadded := by
    rw [Text.trimmed, String.toList_ofList]
    exact Text.unpadded_trim text.toList

/-- The blanks around a name bring no equals sign in front of the one that ends it. -/
theorem IsName.noEquals_padded {name : String} (h : IsName name) (blank : AreBlank before.toList)
    (blank' : AreBlank behind.toList) : '=' ∉ (before ++ name ++ behind).toList := by
  have noBlank {s : String} (blank : AreBlank s.toList) : '=' ∉ s.toList :=
    fun among => absurd (blank '=' among) (by decide)
  rw [Text.not_mem_append, Text.not_mem_append]
  exact ⟨⟨noBlank blank, h.noEquals⟩, noBlank blank'⟩

/-- A text is read as a property exactly if it spells that property under a name. -/
theorem parse_eq_ok_iff : parse text = .ok p ↔ IsName p.name ∧ p.Spelling text := by
  constructor
  · intro read
    obtain ⟨name, value⟩ := p
    obtain ⟨before, rfl, clean, filled, rfl⟩ := exists_of_parse read
    refine ⟨isName_trimmed clean filled, ?_⟩
    obtain ⟨left, right, blank, blank', whole⟩ := Text.exists_trimmed_padding before
    have spelt : (⟨Text.trimmed before, value⟩ : Property).Spelling
        (left ++ Text.trimmed before ++ right ++ "=" ++ value) := .intro blank blank'
    rwa [← whole] at spelt
  · rintro ⟨name, spelt⟩
    obtain @⟨before, behind, blank, blank'⟩ := spelt
    have trimmed := Text.trimmed_padded name.unpadded blank blank'
    have filled : ¬AreBlank (before ++ p.name ++ behind).toList := by
      rw [← Text.trimmed_eq_empty_iff, trimmed]
      exact name.nonempty
    rw [parse_append (name.noEquals_padded blank blank'), if_neg filled, trimmed]

end Property

/-! ## Overriding a setting -/

namespace Setting

/-- A text overrides a setting by a value: it spells a property with that value, whose name is the
key of the setting with or without what build-wide keys start with. -/
inductive IsOverride (s : Setting) (value text : String) : Prop
  | bare (spelt : Property.Spelling ⟨s.localKey, value⟩ text)
  | full (spelt : Property.Spelling ⟨s.buildKey, value⟩ text)

theorem buildKey_eq (s : Setting) : s.buildKey = buildStem ++ s.localKey := String.append_assoc

theorem bare_localKey (s : Setting) : ¬buildStem.toList <+: s.localKey.toList := by
  cases s with
  | accessModifier => decide
  | className => decide
  | namespaceName => decide
  | parameterNames => decide
  | requireStatic => decide

theorem buildPropertyKey_localKey (s : Setting) : buildPropertyKey s.localKey = s.buildKey := by
  rw [buildPropertyKey, if_neg (mt List.isPrefixOf_iff_prefix.mp s.bare_localKey), buildKey_eq]

theorem buildPropertyKey_buildKey (s : Setting) : buildPropertyKey s.buildKey = s.buildKey := by
  rw [buildKey_eq, buildPropertyKey_append s.bare_localKey, buildPropertyKey_localKey, buildKey_eq]

theorem isName_localKey (s : Setting) : Property.IsName s.localKey := by
  have stem : Property.IsName settingStem := by decide
  have ending : Property.IsName s.name := by
    cases s with
    | accessModifier => decide
    | className => decide
    | namespaceName => decide
    | parameterNames => decide
    | requireStatic => decide
  exact stem.append ending

theorem isName_buildKey (s : Setting) : Property.IsName s.buildKey := by
  have stem : Property.IsName buildStem := by decide
  rw [buildKey_eq]
  exact stem.append s.isName_localKey

/-- An override is read as a property that is written under the build-wide key. -/
theorem IsOverride.exists_parse {s : Setting} {value text : String} (h : s.IsOverride value text) :
    ∃ p, Property.parse text = .ok p ∧ buildPropertyKey p.name = s.buildKey ∧ p.value = value := by
  cases h with
  | bare spelt =>
    have read := Property.parse_eq_ok_iff.mpr ⟨s.isName_localKey, spelt⟩
    exact ⟨_, read, s.buildPropertyKey_localKey, rfl⟩
  | full spelt =>
    have read := Property.parse_eq_ok_iff.mpr ⟨s.isName_buildKey, spelt⟩
    exact ⟨_, read, s.buildPropertyKey_buildKey, rfl⟩

end Setting

namespace Sources

/-- Among other properties, one property writes its value under its key. -/
theorem buildOf_append_cons (options : Dictionary) (before behind : List Property) (p : Property) :
    buildOf options (before ++ p :: behind) =
      buildOf ((buildOf options before).insert (buildPropertyKey p.name) p.value) behind := by
  rw [buildOf, List.foldl_append, List.foldl_cons]
  rfl

/-- The sources with one property among others, whose name is known by its key alone. -/
theorem run_assemble_append_cons {key : String} {p : Property}
    (named : buildPropertyKey p.name = key) (options : Dictionary) (settings : Option Path)
    (before behind : List Property) (w : World) :
    (assemble options settings (before ++ p :: behind)).run w =
      ((settingsFound w.files settings).map fun table =>
        { build := buildOf ((buildOf options before).insert key p.value) behind
          locals := options.insertAll table.entries }, w) := by
  have combined : combine options (before ++ p :: behind) = fun table =>
      { build := buildOf ((buildOf options before).insert key p.value) behind
        locals := options.insertAll table.entries } := by
    funext table
    rw [combine, buildOf_append_cons, named]
  rw [run_assemble, found, combined]

end Sources

/-- Texts are read as properties exactly as they are spelt. A text is refused if it has no equals
sign or only blanks before the first; else the name is what stands there without the blanks around
it, and the value is all that stands behind. So blanks around a name do not matter, and each
property under a name is read from its spellings and from nothing else. All texts that override a
setting by a value are read, and all have the same effect on the sources, whatever other properties
stand around: the value is written under the build-wide key of the setting, and the local source
does not depend on it. -/
theorem properties_read_as_spelt :
    (∀ text : String, (∃ p, Property.parse text = .ok p) ↔
      ∃ before behind : String, text = before ++ "=" ++ behind ∧ '=' ∉ before.toList ∧
        ¬AreBlank before.toList) ∧
    (∀ before behind : String, '=' ∉ before.toList →
      (¬AreBlank before.toList →
        Property.parse (before ++ "=" ++ behind) = .ok ⟨Text.trimmed before, behind⟩) ∧
      (AreBlank before.toList → Property.parse (before ++ "=" ++ behind) =
        .error (.blankName (before ++ "=" ++ behind)))) ∧
    (∀ text : String, '=' ∉ text.toList →
      Property.parse text = .error (.withoutEquals text)) ∧
    (∀ (text : String) (p : Property),
      Property.parse text = .ok p ↔ Property.IsName p.name ∧ p.Spelling text) ∧
    ∀ (options : Dictionary) (before behind : List Property) (s : Setting) (value : String),
      let build := Sources.buildOf ((Sources.buildOf options before).insert s.buildKey value) behind
      ∀ text, s.IsOverride value text → ∃ p, Property.parse text = .ok p ∧
        ∀ (settings : Option Path) (w : World),
          (Sources.assemble options settings (before ++ p :: behind)).run w =
            ((Sources.settingsFound w.files settings).map fun table =>
              ⟨build, options.insertAll table.entries⟩, w) := by
  refine ⟨?_, ?_, ?_, ?_, ?_⟩
  · intro text
    constructor
    · rintro ⟨p, read⟩
      obtain ⟨before, whole, clean, filled, -⟩ := Property.exists_of_parse read
      exact ⟨before, p.value, whole, clean, filled⟩
    · rintro ⟨before, behind, rfl, clean, filled⟩
      rw [Property.parse_append clean, if_neg filled]
      exact ⟨_, rfl⟩
  · intro before behind clean
    constructor
    · intro filled
      rw [Property.parse_append clean, if_neg filled]
    · intro blank
      rw [Property.parse_append clean, if_pos blank]
  · intro text clean
    exact Property.parse_of_not_mem clean
  · intro text p
    exact Property.parse_eq_ok_iff
  · intro options before behind s value build text overriding
    obtain ⟨p, read, named, rfl⟩ := overriding.exists_parse
    refine ⟨p, read, fun settings w => ?_⟩
    exact Sources.run_assemble_append_cons named options settings before behind w

/-- A class name with an equals sign and a blank at its end, given under either key of the setting
behind another property for it: both texts are read, and come to the same sources. -/
theorem properties_read_as_spelt_sample :
    let bare := " CQRSToolkit_DIGen_ClassName\u3000=a=b "
    let full := "build_property.CQRSToolkit_DIGen_ClassName=a=b "
    let earlier : Property := ⟨Setting.className.buildKey, "Earlier"⟩
    let sources (p : Property) :=
      ((Sources.assemble .empty (some ⟨"wiring.toml"⟩) [earlier, p]).run Sample.settingsWorld).1
    ∃ p p' combined, Property.parse bare = .ok p ∧ Property.parse full = .ok p' ∧ p ≠ p' ∧
      sources p = .ok combined ∧ sources p' = .ok combined ∧
      combined.build.get? Setting.className.buildKey = some "a=b " ∧
      Property.parse "\t=x" = .error (.blankName "\t=x") ∧
      Property.parse "x" = .error (.withoutEquals "x") := by
  intro bare full earlier sources
  obtain ⟨-, cut, uncut, spelt, overridden⟩ := properties_read_as_spelt
  have bareSpelling : Property.Spelling ⟨Setting.className.localKey, "a=b "⟩ bare := by
    have whole : bare = " " ++ Setting.className.localKey ++ "\u3000" ++ "=" ++ "a=b " := by decide
    exact whole ▸ .intro (by decide) (by decide)
  have fullSpelling : Property.Spelling ⟨Setting.className.buildKey, "a=b "⟩ full := by
    have whole : full = "" ++ Setting.className.buildKey ++ "" ++ "=" ++ "a=b " := by decide
    exact whole ▸ .intro (by decide) (by decide)
  obtain ⟨p, read, effect⟩ :=
    overridden .empty [earlier] [] .className "a=b " bare (.bare bareSpelling)
  obtain ⟨p', read', effect'⟩ :=
    overridden .empty [earlier] [] .className "a=b " full (.full fullSpelling)
  have name : p = ⟨Setting.className.localKey, "a=b "⟩ := by
    have again := (spelt _ _).mpr ⟨Setting.className.isName_localKey, bareSpelling⟩
    exact Except.ok.inj (read.symm.trans again)
  have name' : p' = ⟨Setting.className.buildKey, "a=b "⟩ := by
    have again := (spelt _ _).mpr ⟨Setting.className.isName_buildKey, fullSpelling⟩
    exact Except.ok.inj (read'.symm.trans again)
  have combined := congrArg Prod.fst (effect (some ⟨"wiring.toml"⟩) Sample.settingsWorld)
  have combined' := congrArg Prod.fst (effect' (some ⟨"wiring.toml"⟩) Sample.settingsWorld)
  rw [Sample.settingsWorld_found] at combined combined'
  refine ⟨p, p', _, read, read', ?_, combined, combined', ?_, ?_, ?_⟩
  · rw [name, name']
    decide
  · exact (Dictionary.get?_insert _ _ _ _).trans (if_pos rfl)
  · exact (cut "\t" "x" (by decide)).2 (by decide)
  · exact uncut "x" (by decide)

end HandlerWiring
