import HandlerWiring.Proofs.ExtensionPoint.Report
import HandlerWiring.Sample
import HandlerWiring.Unit.Generated

/-!
# Names of units

A unit is named after a namespace, a class and a method with dots between them. The namespace may
have dots of its own or be left out, so the name is read from its end: what stands behind its last
dot is the method, what stands behind the dot before is the class, and only without such a dot the
namespace is the global one. Class and method may be any texts without dots, the empty one too.

A class with a dot in its name is not told from a longer namespace.
-/

namespace HandlerWiring

/-- What stands before and behind the last mark of a text. -/
theorem Text.append_mark_inj {mark : Char} {a b a' b' : List Char} (last : mark ∉ b)
    (last' : mark ∉ b') : a ++ mark :: b = a' ++ mark :: b' ↔ a = a' ∧ b = b' := by
  constructor
  · intro same
    rcases List.append_eq_append_iff.mp same with ⟨c, rfl, rest⟩ | ⟨c, rfl, rest⟩
    · cases c with
      | nil => exact ⟨(List.append_nil a).symm, (List.cons.inj rest).2⟩
      | cons _ c =>
        -- The last mark of the second text would stand behind the one of the first.
        have there : mark ∈ b := by
          rw [(List.cons.inj rest).2]
          exact List.mem_append_right c List.mem_cons_self
        exact absurd there last
    · cases c with
      | nil => exact ⟨List.append_nil a', (List.cons.inj rest).2.symm⟩
      | cons _ c =>
        have there : mark ∈ b' := by
          rw [(List.cons.inj rest).2]
          exact List.mem_append_right c List.mem_cons_self
        exact absurd there last'
  · rintro ⟨rfl, rfl⟩
    rfl

variable {namespaceName className methodName namespaceName' className' methodName' : String}

/-- What stands before and behind the last dot of a name. -/
theorem append_dot_inj {front front' last last' : String} (plain : '.' ∉ last.toList)
    (plain' : '.' ∉ last'.toList) :
    front ++ "." ++ last = front' ++ "." ++ last' ↔ front = front' ∧ last = last' := by
  have spelt (s t : String) : (s ++ "." ++ t).toList = s.toList ++ '.' :: t.toList := by
    rw [String.toList_append, String.toList_append, List.append_assoc]
    rfl
  rw [← String.toList_inj, spelt, spelt, Text.append_mark_inj plain plain', String.toList_inj,
    String.toList_inj]

/-- The name of a type with its namespace. -/
def qualifyType (namespaceName typeName : String) : String :=
  if namespaceName = "" then typeName else namespaceName ++ "." ++ typeName

theorem qualify_eq (namespaceName typeName member : String) :
    qualify namespaceName typeName member = qualifyType namespaceName typeName ++ "." ++ member := by
  rw [qualify, qualifyType]
  by_cases global : namespaceName = ""
  · rw [if_pos (String.isEmpty_iff.mpr global), if_pos global]
  · rw [if_neg (mt String.isEmpty_iff.mp global), if_neg global]

/-- A class without dots is told from its namespace, also from none. -/
theorem qualifyType_inj (plain : '.' ∉ className.toList) (plain' : '.' ∉ className'.toList) :
    qualifyType namespaceName className = qualifyType namespaceName' className' ↔
      namespaceName = namespaceName' ∧ className = className' := by
  -- A dot in front of a class shows that there is a namespace.
  have dotted (front name : String) : '.' ∈ (front ++ "." ++ name).toList := by
    rw [String.toList_append, String.toList_append]
    exact List.mem_append_left _ (List.mem_append_right _ List.mem_cons_self)
  constructor
  · intro same
    rw [qualifyType, qualifyType] at same
    split at same
    · next global =>
      split at same
      · next global' => exact ⟨global.trans global'.symm, same⟩
      · exact absurd (same ▸ dotted _ _) plain
    · split at same
      · exact absurd (same ▸ dotted _ _) plain'
      · exact (append_dot_inj plain plain').mp same
  · rintro ⟨rfl, rfl⟩
    rfl

/-- The name of a unit determines what it is named after. -/
theorem unitName_inj (plainClass : '.' ∉ className.toList) (plainMethod : '.' ∉ methodName.toList)
    (plainClass' : '.' ∉ className'.toList) (plainMethod' : '.' ∉ methodName'.toList) :
    unitName namespaceName className methodName =
        unitName namespaceName' className' methodName' ↔
      namespaceName = namespaceName' ∧ className = className' ∧ methodName = methodName' := by
  rw [unitName, unitName, String.append_left_inj, qualify_eq, qualify_eq,
    append_dot_inj plainMethod plainMethod', qualifyType_inj plainClass plainClass',
    and_assoc]

/-- Without its condition on the class the law fails. -/
example : unitName "A" "B.C" "M" = unitName "A.B" "C" "M" := by decide

/-- The extension point of an accepted method has the name of the method. -/
theorem Method.qualifiedName_of_accepted {s : Strictness} {m : Method} {p : ExtensionPoint}
    (accepted : m.validate s = .ok p) : p.qualifiedName = m.qualifiedName := by
  obtain ⟨services, lifetime, -, rfl⟩ := Method.validate_accepts accepted
  rfl

/-- The names of two units are the same only if namespace, class and method are, as long as the
latter two have no dots. The unit of an accepted method is named as the method is, and as its
extension point: namespace, class and method with dots between, the global namespace left out. -/
theorem unit_names_do_not_collide :
    (∀ namespaceName className methodName namespaceName' className' methodName' : String,
      '.' ∉ className.toList → '.' ∉ methodName.toList → '.' ∉ className'.toList →
      '.' ∉ methodName'.toList →
      unitName namespaceName className methodName =
        unitName namespaceName' className' methodName' →
      namespaceName = namespaceName' ∧ className = className' ∧ methodName = methodName') ∧
    ∀ (s : Strictness) (m : Method) (p : ExtensionPoint), m.validate s = .ok p →
      unitName p.namespaceName p.className p.methodName = p.qualifiedName ++ ".g.cs" ∧
      p.qualifiedName ++ ".g.cs" = m.qualifiedName ++ ".g.cs" ∧
      (m.namespaceName = "" →
        m.qualifiedName ++ ".g.cs" = m.containingType.name ++ "." ++ m.name ++ ".g.cs") ∧
      (m.namespaceName ≠ "" →
        m.qualifiedName ++ ".g.cs" =
          m.namespaceName ++ "." ++ m.containingType.name ++ "." ++ m.name ++ ".g.cs") := by
  refine ⟨?_, ?_⟩
  · intro _ _ _ _ _ _ plainClass plainMethod plainClass' plainMethod' same
    exact (unitName_inj plainClass plainMethod plainClass' plainMethod').mp same
  · intro s m p accepted
    refine ⟨rfl, congrArg (· ++ ".g.cs") (Method.qualifiedName_of_accepted accepted), ?_, ?_⟩
    · intro global
      rw [Method.qualifiedName, qualify_eq, qualifyType, if_pos global]
    · intro inside
      rw [Method.qualifiedName, qualify_eq, qualifyType, if_neg inside]

/-- Of three classes with the same method the units have three names, and the sample method gives
its unit the name it has itself. -/
theorem unit_names_do_not_collide_sample :
    unitName "A.B" "C" "M" ≠ unitName "A" "B" "M" ∧ unitName "A" "B" "M" ≠ unitName "" "A" "M" ∧
      ∃ p, (Sample.validExtensionPoint "App" "Ext" "Add").validate .standard = .ok p ∧
        unitName p.namespaceName p.className p.methodName = "App.Ext.Add.g.cs" := by
  obtain ⟨apart, named⟩ := unit_names_do_not_collide
  refine ⟨?_, ?_, ?_⟩
  · intro same
    obtain ⟨namespaces, -⟩ :=
      apart "A.B" "C" "M" "A" "B" "M" (by decide) (by decide) (by decide) (by decide) same
    exact absurd namespaces (by decide)
  · intro same
    obtain ⟨namespaces, -⟩ :=
      apart "A" "B" "M" "" "A" "M" (by decide) (by decide) (by decide) (by decide) same
    exact absurd namespaces (by decide)
  · have sound : ((Sample.validExtensionPoint "App" "Ext" "Add").validate .standard).isOk = true := by
      decide +kernel
    cases accepted : (Sample.validExtensionPoint "App" "Ext" "Add").validate .standard with
    | error d =>
      rw [accepted] at sound
      cases sound
    | ok p =>
      obtain ⟨first, second, -, whole⟩ := named _ _ p accepted
      exact ⟨p, rfl, first.trans (second.trans (whole (by decide)))⟩

end HandlerWiring
