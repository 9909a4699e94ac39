import Mathlib.Logic.Relation
import HandlerWiring.Proofs.Pass
import HandlerWiring.Proofs.Setting.Resolution
import HandlerWiring.Sample

/-!
# What a pass does not depend on

`Unrelated` lists the changes of a snapshot and of the two sources that a pass takes no notice of:
types and interfaces without a handler, methods without the marker, where a type stands and who may
use it, the options of a snapshot whose settings come from elsewhere, and keys of a source that are
not those of a setting. One change leaves the outcome as it is, the registrations, the names, the
report and the unit alike, and so does any number of them, made or undone, one after the other.

The events of a pass are not considered: each type that is passed over is reported.
-/

namespace HandlerWiring

/-- A type in which no handler is found: it is not looked at, or none of its interfaces has a
shape. -/
def Candidate.IsIdle (c : Candidate) : Prop :=
  c.isEligible = false ∨ ∀ i ∈ c.interfaces, Shape.of? i = none

/-- A change of a snapshot or of its sources that has nothing to do with what a pass produces. -/
inductive Unrelated : Snapshot × Sources → Snapshot × Sources → Prop
  /-- A type without a handler is put between two others. -/
  | addType {c : Candidate} (idle : c.IsIdle) (before behind : List Candidate)
      (methods : List Method) (options : Dictionary) (sources : Sources) :
    Unrelated (⟨before ++ behind, methods, options⟩, sources)
      (⟨before ++ c :: behind, methods, options⟩, sources)
  /-- An interface without a shape is put between two others of a type. -/
  | addInterface {i : Interface} (shapeless : Shape.of? i = none) (first last : List Interface)
      (c : Candidate) (before behind : List Candidate) (methods : List Method)
      (options : Dictionary) (sources : Sources) :
    Unrelated
      (⟨before ++ { c with interfaces := first ++ last } :: behind, methods, options⟩, sources)
      (⟨before ++ { c with interfaces := first ++ i :: last } :: behind, methods, options⟩,
        sources)
  /-- A method without the marker is put between two others. -/
  | addMethod {m : Method} (unmarked : m.isExtensionPoint = false) (types : List Candidate)
      (before behind : List Method) (options : Dictionary) (sources : Sources) :
    Unrelated (⟨types, before ++ behind, options⟩, sources)
      (⟨types, before ++ m :: behind, options⟩, sources)
  /-- A type gets another accessibility and another location. -/
  | moveType (accessibility : Accessibility) (location : Option Location) (c : Candidate)
      (before behind : List Candidate) (methods : List Method) (options : Dictionary)
      (sources : Sources) :
    Unrelated (⟨before ++ c :: behind, methods, options⟩, sources)
      (⟨before ++ { c with accessibility, location } :: behind, methods, options⟩, sources)
  /-- The snapshot gets other options, and the sources stay. -/
  | setOptions (options : Dictionary) (s : Snapshot) (sources : Sources) :
    Unrelated (s, sources) ({ s with options }, sources)
  /-- The sources change where no setting looks. -/
  | setSources {sources sources' : Sources} (same : sources.SameSettings sources')
      (s : Snapshot) :
    Unrelated (s, sources) (s, sources')

namespace Registration

/-- A type that has no interface has no handler either, so only its kind decides whether it is
looked at. -/
theorem ofType_eq (c : Candidate) :
    ofType c = if c.isValueType || c.isAbstract || c.isUnboundGeneric then []
      else c.interfaces.filterMap (of? c) := by
  unfold ofType Candidate.isEligible
  cases c.isValueType with
  | true => rfl
  | false =>
    cases c.isAbstract with
    | true => rfl
    | false =>
      cases c.isUnboundGeneric with
      | true => rfl
      | false =>
        cases c.interfaces with
        | nil => rfl
        | cons i rest => rfl

/-- There is nothing to register for an idle type. -/
theorem ofType_of_isIdle {c : Candidate} (idle : c.IsIdle) : ofType c = [] := by
  rcases idle with ineligible | shapeless
  · rw [ofType, ineligible]
    rfl
  · rw [ofType]
    split
    · refine List.filterMap_eq_nil_iff.mpr fun i hi => ?_
      rw [of?, shapeless i hi]
      rfl
    · rfl

/-- An interface without a shape adds nothing to a type, even if it is the only one. -/
theorem ofType_addInterface {i : Interface} (shapeless : Shape.of? i = none) (c : Candidate)
    (first last : List Interface) :
    ofType { c with interfaces := first ++ i :: last } =
      ofType { c with interfaces := first ++ last } := by
  have skipped (c : Candidate) : of? c i = none := by
    rw [of?, shapeless]
    rfl
  rw [ofType_eq, ofType_eq]
  dsimp only
  split
  · rfl
  · rw [List.filterMap_append, List.filterMap_cons, skipped, List.filterMap_append]
    rfl

/-- A type may be exchanged for one with the same registrations. -/
theorem value_scan_exchange {c c' : Candidate} (same : ofType c = ofType c')
    (before behind : List Candidate) :
    (scan (before ++ c :: behind)).value = (scan (before ++ c' :: behind)).value := by
  rw [value_scan_append, value_scan_append, value_scan_cons, value_scan_cons, same]

end Registration

/-- A pass produces the same from snapshots in which the same is found, with sources that hold the
same settings. -/
theorem Snapshot.value_generate_congr {s s' : Snapshot} {sources sources' : Sources}
    (types : (Registration.scan s.types).value = (Registration.scan s'.types).value)
    (methods : s.markedMethods = s'.markedMethods) (same : sources.SameSettings sources') :
    (s.generate sources).value = (s'.generate sources').value := by
  have reports := fun strictness => Report.ofMethods_congr strictness methods
  rw [value_generate, value_generate, types, same.names, same.strictness, reports]

/-- One unrelated change leaves the outcome as it is. -/
theorem Unrelated.value_generate {a b : Snapshot × Sources} (h : Unrelated a b) :
    (a.1.generate a.2).value = (b.1.generate b.2).value := by
  have unchanged (sources : Sources) : sources.SameSettings sources := ⟨fun _ => rfl, fun _ => rfl⟩
  cases h with
  | addType idle before behind methods options sources =>
    refine Snapshot.value_generate_congr ?_ rfl (unchanged sources)
    simp only [Registration.value_scan_append, Registration.value_scan_cons,
      Registration.ofType_of_isIdle idle, List.nil_append]
  | addInterface shapeless first last c before behind methods options sources =>
    have same := Registration.ofType_addInterface shapeless c first last
    exact Snapshot.value_generate_congr
      (Registration.value_scan_exchange same.symm before behind) rfl (unchanged sources)
  | addMethod unmarked types before behind options sources =>
    refine Snapshot.value_generate_congr rfl ?_ (unchanged sources)
    simp only [Snapshot.markedMethods, List.filter_append, List.filter_cons, unmarked,
      Bool.false_eq_true, if_false]
  | moveType accessibility location c before behind methods options sources =>
    have same : Registration.ofType c =
        Registration.ofType { c with accessibility, location } := rfl
    exact Snapshot.value_generate_congr
      (Registration.value_scan_exchange same before behind) rfl (unchanged sources)
  | setOptions options s sources =>
    exact Snapshot.value_generate_congr rfl rfl (unchanged sources)
  | setSources same s => exact Snapshot.value_generate_congr rfl rfl same

/-- Any unrelated changes, made or undone one after the other, leave the outcome of a pass exactly
as it is: the registrations, the names, the report and the unit. -/
theorem generate_ignores_unrelated {a b : Snapshot × Sources} (h : Relation.EqvGen Unrelated a b) :
    (a.1.generate a.2).value = (b.1.generate b.2).value := by
  induction h with
  | rel a b change => exact change.value_generate
  | refl a => rfl
  | symm a b _ ih => exact ih.symm
  | trans a b c _ _ first second => exact first.trans second

/-- The sample application among two types, a method, an option and two keys that are of no concern
to its pass. -/
theorem generate_ignores_unrelated_sample :
    let abstractHandler := { Candidate.ofName "A.H" with
      isAbstract := true, interfaces := [⟨"CQRSToolkit.ICommandHandler", ["A.C"]⟩] }
    let disposable := (Candidate.ofName "A.D").implementing ⟨"System.IDisposable", []⟩
    let plain : Snapshot × Sources := (Sample.basicApiWithExtensionPoint, ⟨.empty, .empty⟩)
    let among : Snapshot × Sources :=
      (⟨[abstractHandler, disposable] ++ Sample.types,
        Sample.ordinaryMethod :: Sample.basicApiWithExtensionPoint.methods,
        Dictionary.empty.insert "k" "v"⟩,
        ⟨Dictionary.empty.insert "CQRSToolkit_DIGen_ClassName" "C",
          Dictionary.empty.insert "build_property.CQRSToolkit_DIGen_ClassName" "C"⟩)
    (among.1.generate among.2).value = (plain.1.generate plain.2).value := by
  intro abstractHandler disposable plain among
  have foreignBuild : ∀ s : Setting, s.buildKey ≠ "CQRSToolkit_DIGen_ClassName" := by
    intro s
    cases s <;> decide
  have foreignLocal : ∀ s : Setting,
      s.localKey ≠ "build_property.CQRSToolkit_DIGen_ClassName" := by
    intro s
    cases s <;> decide
  -- The second type comes without its interface first: that it becomes eligible does not matter.
  have changes : Relation.EqvGen Unrelated plain among :=
    .trans _ _ _ (.rel _ _ (.addType (c := .ofName "A.D") (.inl rfl) [] Sample.types _ _ _)) <|
    .trans _ _ _ (.rel _ _ (.addInterface (i := ⟨"System.IDisposable", []⟩) rfl [] []
      (.ofName "A.D") [] Sample.types _ _ _)) <|
    .trans _ _ _ (.rel _ _ (.addType (c := abstractHandler) (.inl rfl) []
      (disposable :: Sample.types) _ _ _)) <|
    .trans _ _ _ (.rel _ _ (.addMethod (m := Sample.ordinaryMethod) rfl _ [] _ _ _)) <|
    .trans _ _ _ (.rel _ _ (.setOptions _ _ _)) <|
    .trans _ _ _ (.rel _ _ (.setSources (.insertBuild foreignBuild "C" _) _)) <|
    .rel _ _ (.setSources (.insertLocal foreignLocal "C" _) _)
  exact (generate_ignores_unrelated changes).symm

end HandlerWiring
