import HandlerWiring.Proofs.Command.Agreement
import HandlerWiring.Proofs.Pass.Selection
import HandlerWiring.Proofs.Setting.Resolution

/-!
# The settings that `config` lists are in use

On the same inputs, the values that `config` prints are those that `validate` and `generate` go by.
The three names are the names of the pass. The two other values are texts: each is read as the
strictness that the methods are checked with, and neither reading falls back on anything.

What `config` prints is spelt out here as rows of a name, a value and an origin, with the line and
the record of a row beside the code that writes them. How a record is laid out as text is left to
the printer of documents. The lines that `validate` and `generate` print for people are not looked
at here, only their documents and how they end.
-/

namespace HandlerWiring

open Session (textOfLines)

/-! ## How settings are shown -/

/-- What is shown of a setting. -/
structure SettingRow where
  name : String
  value : String
  /-- Where the value comes from. -/
  origin : Origin

namespace SettingRow

/-- The heading of the lines about settings. -/
def heading (colours : Bool) : String :=
  if colours then "\x1b[1;36mSettings:\x1b[0m" else "Settings:"

/-- An origin as it is shown, in a colour of its own if there are colours. -/
def shownOrigin (colours : Bool) : Origin → String
  | .default => if colours then "\x1b[2mdefault\x1b[0m" else "default"
  | .buildWide => if colours then "\x1b[34mbuild-wide\x1b[0m" else "build-wide"
  | .locally => if colours then "\x1b[32mlocal\x1b[0m" else "local"

/-- So many blanks. -/
def blanks (count : Nat) : String := String.ofList (List.replicate count ' ')

/-- The line of a row: the name in a column of 16 characters, the value in one of 40. -/
def line (colours : Bool) (r : SettingRow) : String :=
  "  " ++ r.name ++ blanks (16 - r.name.length) ++ " " ++
    r.value ++ blanks (40 - r.value.length) ++ " [" ++ shownOrigin colours r.origin ++ "]"

/-- The lines about some settings. -/
def lines (colours : Bool) (rows : List SettingRow) : List String :=
  heading colours :: rows.map (line colours)

/-- The record of a row in a document, with its keys in the two sources. -/
def record (r : SettingRow) : Json.Value :=
  .record
    [("name", .text r.name),
      ("value", .text r.value),
      ("origin", .text (shownOrigin false r.origin)),
      ("build_key", .text ("build_property.CQRSToolkit_DIGen_" ++ r.name)),
      ("local_key", .text ("CQRSToolkit_DIGen_" ++ r.name))]

/-- The document about some settings. -/
def document (rows : List SettingRow) : Json.Value :=
  .record [("success", .boolean true), ("errors", .list []), ("settings", .list (rows.map record))]

/-- The row of a resolved setting. -/
def ofResolved (r : Resolved) : SettingRow := ⟨r.setting.name, r.value, r.origin⟩

theorem settingLine_eq (colours : Bool) (r : Resolved) :
    Command.settingLine colours r = line colours (ofResolved r) := by
  have origin : Command.originText colours r.origin = shownOrigin colours r.origin := by
    cases colours
    all_goals
      cases r.origin
      all_goals rfl
  rw [Command.settingLine, origin]
  simp only [Text.leftAligned, line, ofResolved, blanks, String.append_assoc]

theorem document_ofResolved (r : Resolved) :
    SettingEntry.form.document (.ofResolved r) = record (ofResolved r) := by
  have build : r.setting.buildKey = "build_property.CQRSToolkit_DIGen_" ++ r.setting.name := by
    cases r.setting
    all_goals rfl
  have origin : r.origin.text = shownOrigin false r.origin := by
    cases r.origin
    all_goals rfl
  rw [record, ofResolved, ← build, ← origin]
  rfl

/-- The document of `config` is that of the rows. -/
theorem document_configDocument (resolved : List Resolved) :
    ConfigDocument.form.document (Command.configDocument resolved) =
      document (resolved.map ofResolved) := by
  have records : resolved.map (fun r => SettingEntry.form.document (.ofResolved r)) =
      (resolved.map ofResolved).map record := by
    rw [List.map_map]
    exact List.map_congr_left fun r _ => document_ofResolved r
  rw [document, ← records]
  have rows : List.map SettingEntry.form.schema.write
      ((resolved.map SettingEntry.ofResolved).map SettingEntry.form.toRow) =
        resolved.map fun r => SettingEntry.form.document (.ofResolved r) := by
    rw [List.map_map, List.map_map]
    rfl
  rw [← rows]
  rfl

/-- In either output `config` prints the rows of the settings. -/
theorem configText_eq (resolved : List Resolved) :
    (∀ colours, Command.configText resolved (.prose colours) =
        textOfLines (lines colours (resolved.map ofResolved))) ∧
      Command.configText resolved .document =
        textOfLines [(document (resolved.map ofResolved)).pretty] := by
  constructor
  · intro colours
    have title : Text.styled colours .boldCyan "Settings:" = heading colours := by
      cases colours
      all_goals rfl
    have each := List.map_congr_left (l := resolved) fun r _ => settingLine_eq colours r
    rw [Command.configText, title, each, lines, List.map_map]
    rfl
  · rw [← document_configDocument]
    rfl

end SettingRow

/-! ## Where the settings are used -/

/-- `config` lists the settings in use. Where the inputs are found, in either output it prints the
name, the value and the origin of each setting. The first three values are the names of the pass
that `generate` runs, and a synthesized unit has them in its own name and in its source, which is
what is written. The other two values name the strictness under which `validate` reports, and under
which the pass reports if it finds something to register. -/
theorem config_lists_settings_in_use (filter : LogFilter) {w : World} {decls : Path}
    {settings : Option Path} {properties : List Property} {loaded : LoadedSnapshot}
    {sources : Sources} (found : InputsFound w.files decls settings properties loaded sources) :
    let ending (command : Command) (output : Output) := Program.ending filter command output w
    let outcome := (loaded.snapshot.generate sources).value
    let strictness := (Strictness.resolve sources).value
    let report := (Report.ofMethods strictness loaded.snapshot.methods).value
    let value (s : Setting) := (s.resolve sources).value.value
    let origin (s : Setting) := (s.resolve sources).value.origin
    let rows : List SettingRow :=
      [⟨"AccessModifier", outcome.names.accessModifier, origin .accessModifier⟩,
        ⟨"ClassName", outcome.names.className, origin .className⟩,
        ⟨"Namespace", outcome.names.namespaceName, origin .namespaceName⟩,
        ⟨"ParameterNames", value .parameterNames, origin .parameterNames⟩,
        ⟨"RequireStatic", value .requireStatic, origin .requireStatic⟩]
    (∀ colours, ending (.config (some decls) settings properties) (.prose colours) =
        ⟨0, w.files, w.printed ++ textOfLines (SettingRow.lines colours rows)⟩) ∧
      ending (.config (some decls) settings properties) .document =
        ⟨0, w.files, w.printed ++ textOfLines [(SettingRow.document rows).pretty]⟩ ∧
      NameMatching.parse? (value .parameterNames) = some strictness.parameterNames ∧
      (strictness.requireStatic = true ↔
        Text.sameIgnoringCase (value .requireStatic) "true" = true) ∧
      (∀ denyWarnings,
        let diagnostics := Command.taken denyWarnings report.diagnostics
        let status := ExitStatus.ofDiagnostics diagnostics
        (∀ output, (ending (.validate decls settings properties denyWarnings) output).code =
            status.code) ∧
          ∃ validated,
            ending (.validate decls settings properties denyWarnings) .document =
                .ofDocument w w.files ValidateDocument.form validated status ∧
              validated.points = report.points ∧
              validated.diagnostics = diagnostics.map DiagnosticEntry.ofDiagnostic) ∧
      (∀ denyWarnings outDir path, (outcome.placed outDir w.files).1 = .ok path →
        let diagnostics := Command.taken denyWarnings outcome.diagnostics
        let status := ExitStatus.ofDiagnostics diagnostics
        (∀ output, (ending (.generate decls outDir settings properties denyWarnings) output).code =
            status.code) ∧
          ∃ generated after,
            ending (.generate decls outDir settings properties denyWarnings) .document =
                .ofDocument w after GenerateDocument.form generated status ∧
              generated.diagnostics = diagnostics.map DiagnosticEntry.ofDiagnostic ∧
              ∀ u, outcome.unit = some u → ∃ place, path = some place ∧
                generated.unit =
                    some ⟨u.hintName, u.kind.text, place.text, Digest.ofText u.source⟩ ∧
                  after.read place = .ok u.source) ∧
      (outcome.registrations = [] → outcome.validation = .empty) ∧
      (outcome.registrations ≠ [] → outcome.validation = report) ∧
      ∀ u, outcome.unit = some u → u.kind = .synthesized →
        u.hintName =
            outcome.names.namespaceName ++ "." ++ outcome.names.className ++ ".AddGenerated.g.cs" ∧
          u.source = textOfLines (Unit.synthesizedLines outcome.names outcome.registrations) := by
  intro ending outcome strictness report value origin rows
  have registrations : outcome.registrations = (Registration.scan loaded.snapshot.types).value :=
    Snapshot.registrations_generate loaded.snapshot sources
  have names : outcome.names = (Names.resolve sources).value :=
    Snapshot.names_generate loaded.snapshot sources
  have listed : (Setting.resolveAll sources).value.map SettingRow.ofResolved = rows := by
    simp only [rows, names, Setting.resolveAll, Setting.value_resolveEach, Setting.all,
      List.map_cons, List.map_nil, SettingRow.ofResolved, Setting.setting_resolve,
      Names.value_resolve]
    rfl
  obtain ⟨prose, document⟩ := SettingRow.configText_eq (Setting.resolveAll sources).value
  rw [listed] at prose document
  refine ⟨?prose, ?document, Strictness.parse?_parameterNames sources, ?static, ?validate,
    ?generate, ?nothing, ?something, ?synthesized⟩
  case prose =>
    intro colours
    rw [← prose colours]
    exact Command.ending_config filter (.prose colours) found
  case document =>
    rw [← document]
    exact Command.ending_config filter .document found
  case static => rw [Strictness.requireStatic_resolve]
  case validate =>
    intro denyWarnings diagnostics status
    have ends output := Command.ending_validate filter output denyWarnings found
    exact ⟨fun output => congrArg Program.Ending.code (ends output), _, ends .document, rfl, rfl⟩
  case generate =>
    intro denyWarnings outDir path written diagnostics status
    have ends output := Command.ending_generate_of_found filter output denyWarnings found written
    refine ⟨fun output => congrArg Program.Ending.code (ends output), _, _, ends .document, rfl, ?_⟩
    intro u present
    obtain ⟨place, rfl, read⟩ := Outcome.read_of_placed present written
    refine ⟨place, rfl, ?_, read⟩
    simp only [Command.generateDocument]
    rw [present]
    rfl
  case nothing =>
    intro none
    exact (Snapshot.generate_of_nil sources (registrations.symm.trans none)).1
  case something =>
    intro some
    refine Snapshot.validation_generate sources ?_
    rw [← registrations]
    exact some
  case synthesized =>
    intro u has kind
    rw [registrations, names, Snapshot.synthesized_generate has kind]
    exact loaded.snapshot.synthesizedUnit_resolve sources

/-- The list of settings of a snapshot that sets nothing but a class name. -/
theorem config_lists_settings_in_use_sample :
    let w := Sample.worldOf (Snapshot.empty.setOption Setting.className.localKey "Wiring")
    let rows : List SettingRow :=
      [⟨"AccessModifier", "internal", .default⟩,
        ⟨"ClassName", "Wiring", .locally⟩,
        ⟨"Namespace", "CQRSToolkit.DependencyInjection", .default⟩,
        ⟨"ParameterNames", "off", .default⟩,
        ⟨"RequireStatic", "true", .default⟩]
    let config (output : Output) :=
      Program.ending (.ofText .warn "") (.config (some ⟨"decls.json"⟩) none []) output w
    config .document =
        ⟨0, w.files, w.printed ++ textOfLines [(SettingRow.document rows).pretty]⟩ ∧
      config (.prose false) = ⟨0, w.files, w.printed ++ textOfLines
        ["Settings:",
          "  AccessModifier   internal                                 [default]",
          "  ClassName        Wiring                                   [local]",
          "  Namespace        CQRSToolkit.DependencyInjection          [default]",
          "  ParameterNames   off                                      [default]",
          "  RequireStatic    true                                     [default]"]⟩ := by
  intro w rows config
  have found := Sample.worldOf_found (Snapshot.empty.setOption Setting.className.localKey "Wiring")
  obtain ⟨prose, document, -⟩ := config_lists_settings_in_use (.ofText .warn "") found
  exact ⟨document, prose false⟩

end HandlerWiring
