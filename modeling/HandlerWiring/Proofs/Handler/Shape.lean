import Mathlib.Data.List.Nodup
import HandlerWiring.Handler.Shape
import HandlerWiring.Proofs.Declaration.Spelling

/-!
# Which interfaces have a shape

An interface has a shape exactly if it has as many type arguments as the shape and its definition
spells the name of the shape's. No interface has two shapes, so the shapes may be tried in any
order.
-/

namespace HandlerWiring.Shape

variable {i i' : Interface} {s s' : Shape}

/-- The definitions of the shapes have bare names. -/
theorem isBareName_definition (s : Shape) : IsBareName s.definition.toList := by
  cases s with
  | query => exact ⟨by decide, .of_noBlank (by decide), by decide⟩
  | command => exact ⟨by decide, .of_noBlank (by decide), by decide⟩
  | commandResponse => exact ⟨by decide, .of_noBlank (by decide), by decide⟩

theorem mem_all (s : Shape) : s ∈ all := by cases s <;> decide

/-- The shapes have different definitions. -/
theorem definition_injective (h : s.definition = s'.definition) : s = s' := by
  have different : (all.map definition).Nodup := by decide
  exact List.inj_on_of_nodup_map different s.mem_all s'.mem_all h

theorem fits_iff : s.fits i = true ↔ i.definitionName = s.definition ∧ i.arity = s.arity := by
  rw [fits, Bool.and_eq_true, beq_iff_eq, beq_iff_eq]

/-- A shape fits the interfaces that spell its definition and have as many type arguments. -/
theorem fits_iff_spells :
    s.fits i = true ↔
      i.arity = s.arity ∧ DefinitionSpelling s.definition.toList i.definition.toList := by
  rw [fits_iff, Interface.definitionName_eq_iff s.isBareName_definition, and_comm]

/-- At most one shape fits an interface. -/
theorem eq_of_fits (first : s.fits i = true) (second : s'.fits i = true) : s = s' :=
  definition_injective ((fits_iff.mp first).1.symm.trans (fits_iff.mp second).1)

/-- Among shapes that include it, the one that fits is found, wherever it stands. -/
theorem find?_fits {order : List Shape} (among : s ∈ order) :
    order.find? (·.fits i) = some s ↔ s.fits i = true := by
  constructor
  · exact List.find?_some
  intro fits
  have found : (order.find? (·.fits i)).isSome = true := List.find?_isSome.mpr ⟨s, among, fits⟩
  obtain ⟨other, first⟩ := Option.isSome_iff_exists.mp found
  have fitting := List.find?_some first
  rw [first, eq_of_fits fitting fits]

theorem of?_eq_some_iff : of? i = some s ↔ s.fits i = true := find?_fits s.mem_all

/-- The order in which the shapes are tried does not matter. -/
theorem find?_perm {order : List Shape} (perm : order.Perm all) (i : Interface) :
    order.find? (·.fits i) = of? i := by
  apply Option.ext
  intro s
  rw [find?_fits (perm.mem_iff.mpr s.mem_all), of?_eq_some_iff]

/-- The shape depends on the bare name and the number of type arguments. -/
theorem of?_congr (name : i.definitionName = i'.definitionName) (arity : i.arity = i'.arity) :
    of? i = of? i' := by
  simp only [of?, fits, name, arity]

end HandlerWiring.Shape
