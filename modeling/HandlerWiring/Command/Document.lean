import HandlerWiring.Diagnostic
import HandlerWiring.Unit.Generated

/-!
# Documents of the commands

Each command can print one machine readable document. A document says whether the command
succeeded, which inputs failed, and what was found; a command whose inputs failed leaves the rest
empty.
-/

namespace HandlerWiring

open Json

/-- An input that failed. -/
structure ErrorEntry where
  /-- The stable code of the kind of failure. -/
  code : String
  message : String
  /-- The path of the input. -/
  file : Option String
deriving DecidableEq, Repr

/-- A diagnostic. -/
structure DiagnosticEntry where
  code : String
  severity : String
  title : String
  message : String
  method : String
  file : Option String
  line : Option UInt32
  column : Option UInt32
deriving DecidableEq, Repr

/-- A registration. -/
structure RegistrationEntry where
  /-- The signature of the handler shape. -/
  shape : String
  serviceType : String
  implementation : String
deriving DecidableEq, Repr

/-- A written unit. -/
structure UnitEntry where
  hintName : String
  kind : String
  /-- Where it was written. -/
  path : String
  sourceHash : String
deriving DecidableEq, Repr

/-- A resolved setting. -/
structure SettingEntry where
  name : String
  value : String
  origin : String
  buildKey : String
  localKey : String
deriving DecidableEq, Repr

/-- What `generate` prints. -/
structure GenerateDocument where
  success : Bool
  errors : List ErrorEntry
  diagnostics : List DiagnosticEntry
  registrations : List RegistrationEntry
  unit : Option UnitEntry
  sourceHash : Option String
deriving DecidableEq, Repr

/-- What `validate` prints. -/
structure ValidateDocument where
  success : Bool
  errors : List ErrorEntry
  diagnostics : List DiagnosticEntry
  points : List ExtensionPoint
  sourceHash : Option String
deriving DecidableEq, Repr

/-- What `scan` prints. -/
structure ScanDocument where
  success : Bool
  errors : List ErrorEntry
  registrations : List RegistrationEntry
  sourceHash : Option String
deriving DecidableEq, Repr

/-- What `config` prints. -/
structure ConfigDocument where
  success : Bool
  errors : List ErrorEntry
  settings : List SettingEntry
deriving DecidableEq, Repr

/-- How a failed input stands in documents. -/
def ErrorEntry.form : Form ErrorEntry where
  schema := .record "JsonError" false <|
    .field "code" .required .text <|
    .field "message" .required .text <|
    .field "file" .unlisted (.optional .text) .none
  toRow e := (e.code, e.message, e.file, ())
  ofRow := fun (code, message, file, ()) => ⟨code, message, file⟩
  ofRow_toRow _ := rfl

namespace DiagnosticEntry

/-- The entry of a diagnostic. -/
def ofDiagnostic (d : Diagnostic) : DiagnosticEntry :=
  { code := d.code.text
    severity := d.severity.text
    title := d.code.title
    message := d.message
    method := d.method
    file := d.location.map (·.file)
    line := d.location.map (·.line)
    column := d.location.map (·.column) }

/-- How a diagnostic stands in documents. -/
def form : Form DiagnosticEntry where
  schema := .record "JsonDiagnostic" false <|
    .field "code" .required .text <|
    .field "severity" .required .text <|
    .field "title" .required .text <|
    .field "message" .required .text <|
    .field "method" .required .text <|
    .field "file" .unlisted (.optional .text) <|
    .field "line" .unlisted (.optional .word) <|
    .field "col" .unlisted (.optional .word) .none
  toRow d :=
    (d.code, d.severity, d.title, d.message, d.method, d.file, d.line, d.column, ())
  ofRow := fun (code, severity, title, message, method, file, line, column, ()) =>
    ⟨code, severity, title, message, method, file, line, column⟩
  ofRow_toRow _ := rfl

end DiagnosticEntry

namespace RegistrationEntry

/-- The entry of a registration. -/
def ofRegistration (r : Registration) : RegistrationEntry :=
  ⟨r.shape.signature, r.serviceType, r.implementation⟩

/-- How a registration stands in documents. -/
def form : Form RegistrationEntry where
  schema := .record "JsonStub" false <|
    .field "shape" .required .text <|
    .field "service_type" .required .text <|
    .field "implementation" .required .text .none
  toRow r := (r.shape, r.serviceType, r.implementation, ())
  ofRow := fun (shape, serviceType, implementation, ()) => ⟨shape, serviceType, implementation⟩
  ofRow_toRow _ := rfl

end RegistrationEntry

namespace UnitEntry

/-- The entry of a unit that was written to a path. -/
def ofUnit (u : GeneratedUnit) (path : String) : UnitEntry :=
  ⟨u.hintName, u.kind.text, path, u.sourceHash⟩

/-- How a unit stands in documents. -/
def form : Form UnitEntry where
  schema := .record "JsonUnit" false <|
    .field "hint_name" .required .text <|
    .field "kind" .required .text <|
    .field "path" .required .text <|
    .field "source_hash" .required .text .none
  toRow u := (u.hintName, u.kind, u.path, u.sourceHash, ())
  ofRow := fun (hintName, kind, path, sourceHash, ()) => ⟨hintName, kind, path, sourceHash⟩
  ofRow_toRow _ := rfl

end UnitEntry

namespace SettingEntry

/-- The entry of a resolved setting. -/
def ofResolved (r : Resolved) : SettingEntry :=
  ⟨r.setting.name, r.value, r.origin.text, r.setting.buildKey, r.setting.localKey⟩

/-- How a setting stands in documents. -/
def form : Form SettingEntry where
  schema := .record "JsonSetting" false <|
    .field "name" .required .text <|
    .field "value" .required .text <|
    .field "origin" .required .text <|
    .field "build_key" .required .text <|
    .field "local_key" .required .text .none
  toRow s := (s.name, s.value, s.origin, s.buildKey, s.localKey, ())
  ofRow := fun (name, value, origin, buildKey, localKey, ()) =>
    ⟨name, value, origin, buildKey, localKey⟩
  ofRow_toRow _ := rfl

end SettingEntry

namespace GenerateDocument

/-- The document of a run that failed. -/
def failure (error : ErrorEntry) (sourceHash : Option String) : GenerateDocument :=
  ⟨false, [error], [], [], none, sourceHash⟩

/-- How the document is written. -/
def form : Form GenerateDocument where
  schema := .record "GenerateOutput" false <|
    .field "success" .required .flag <|
    .field "errors" .required (.list ErrorEntry.form.schema) <|
    .field "diagnostics" .required (.list DiagnosticEntry.form.schema) <|
    .field "stubs" .required (.list RegistrationEntry.form.schema) <|
    .field "unit" .unlisted (.optional UnitEntry.form.schema) <|
    .field "source_hash" .unlisted (.optional .text) .none
  toRow d :=
    (d.success, d.errors.map ErrorEntry.form.toRow, d.diagnostics.map DiagnosticEntry.form.toRow,
      d.registrations.map RegistrationEntry.form.toRow, d.unit.map UnitEntry.form.toRow,
      d.sourceHash, ())
  ofRow := fun (success, errors, diagnostics, registrations, unit, sourceHash, ()) =>
    ⟨success, List.map ErrorEntry.form.ofRow errors,
      List.map DiagnosticEntry.form.ofRow diagnostics,
      List.map RegistrationEntry.form.ofRow registrations,
      Option.map UnitEntry.form.ofRow unit, sourceHash⟩
  ofRow_toRow d := by simp

end GenerateDocument

namespace ValidateDocument

/-- The document of a run that failed. -/
def failure (error : ErrorEntry) : ValidateDocument := ⟨false, [error], [], [], none⟩

/-- How the document is written. -/
def form : Form ValidateDocument where
  schema := .record "ValidateOutput" false <|
    .field "success" .required .flag <|
    .field "errors" .required (.list ErrorEntry.form.schema) <|
    .field "diagnostics" .required (.list DiagnosticEntry.form.schema) <|
    .field "extension_points" .required (.list ExtensionPoint.form.schema) <|
    .field "source_hash" .unlisted (.optional .text) .none
  toRow d :=
    (d.success, d.errors.map ErrorEntry.form.toRow, d.diagnostics.map DiagnosticEntry.form.toRow,
      d.points.map ExtensionPoint.form.toRow, d.sourceHash, ())
  ofRow := fun (success, errors, diagnostics, points, sourceHash, ()) =>
    ⟨success, List.map ErrorEntry.form.ofRow errors,
      List.map DiagnosticEntry.form.ofRow diagnostics,
      List.map ExtensionPoint.form.ofRow points, sourceHash⟩
  ofRow_toRow d := by simp

end ValidateDocument

namespace ScanDocument

/-- The document of a run that failed. -/
def failure (error : ErrorEntry) : ScanDocument := ⟨false, [error], [], none⟩

/-- How the document is written. -/
def form : Form ScanDocument where
  schema := .record "ScanOutput" false <|
    .field "success" .required .flag <|
    .field "errors" .required (.list ErrorEntry.form.schema) <|
    .field "stubs" .required (.list RegistrationEntry.form.schema) <|
    .field "source_hash" .unlisted (.optional .text) .none
  toRow d :=
    (d.success, d.errors.map ErrorEntry.form.toRow,
      d.registrations.map RegistrationEntry.form.toRow, d.sourceHash, ())
  ofRow := fun (success, errors, registrations, sourceHash, ()) =>
    ⟨success, List.map ErrorEntry.form.ofRow errors,
      List.map RegistrationEntry.form.ofRow registrations, sourceHash⟩
  ofRow_toRow d := by simp

end ScanDocument

namespace ConfigDocument

/-- The document of a run that failed. -/
def failure (error : ErrorEntry) : ConfigDocument := ⟨false, [error], []⟩

/-- How the document is written. -/
def form : Form ConfigDocument where
  schema := .record "ConfigOutput" false <|
    .field "success" .required .flag <|
    .field "errors" .required (.list ErrorEntry.form.schema) <|
    .field "settings" .required (.list SettingEntry.form.schema) .none
  toRow d :=
    (d.success, d.errors.map ErrorEntry.form.toRow, d.settings.map SettingEntry.form.toRow, ())
  ofRow := fun (success, errors, settings, ()) =>
    ⟨success, List.map ErrorEntry.form.ofRow errors, List.map SettingEntry.form.ofRow settings⟩
  ofRow_toRow d := by simp

end ConfigDocument

end HandlerWiring
