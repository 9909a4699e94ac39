import HandlerWiring.Handler.Registration

/-!
# What a scan finds

The registrations of a list of types are those of each eligible type, one for each interface that
has a shape, in declaration order. Nothing is found exactly if no eligible type has such an
interface.
-/

namespace HandlerWiring.Registration

/-- The registration of a type for an interface, if the interface has a shape. -/
def of? (c : Candidate) (i : Interface) : Option Registration :=
  (Shape.of? i).map fun shape => ⟨shape, i, c.name⟩

/-- The registrations of a type. -/
def ofType (c : Candidate) : List Registration :=
  if c.isEligible then c.interfaces.filterMap (of? c) else []

theorem value_ofInterfaces (c : Candidate) (interfaces : List Interface) :
    (ofInterfaces c interfaces).value = interfaces.filterMap (of? c) := by
  induction interfaces with
  | nil => rfl
  | cons i rest ih =>
    rw [ofInterfaces, List.filterMap_cons, of?]
    cases Shape.of? i with
    | none => exact ih
    | some shape => exact congrArg (⟨shape, i, c.name⟩ :: ·) ih

theorem value_ofCandidate (c : Candidate) : (ofCandidate c).value = ofType c := by
  rw [ofCandidate, ofType]
  split
  · exact value_ofInterfaces c c.interfaces
  · rfl

/-- A scan finds the registrations of the types, one type after the other. -/
theorem value_scan (types : List Candidate) : (scan types).value = types.flatMap ofType := by
  induction types with
  | nil => rfl
  | cons c rest ih =>
    rw [List.flatMap_cons, ← ih, ← value_ofCandidate]
    rfl

/-- A scan of types in a row is that of the first ones and that of the others. -/
theorem value_scan_append (types types' : List Candidate) :
    (scan (types ++ types')).value = (scan types).value ++ (scan types').value := by
  rw [value_scan, value_scan, value_scan, List.flatMap_append]

theorem value_scan_cons (c : Candidate) (types : List Candidate) :
    (scan (c :: types)).value = ofType c ++ (scan types).value := by
  rw [value_scan, value_scan, List.flatMap_cons]

/-- An eligible type among the given ones has an interface with a shape. -/
def SomeHandler (types : List Candidate) : Prop :=
  ∃ c ∈ types, c.isEligible = true ∧ ∃ i ∈ c.interfaces, (Shape.of? i).isSome = true

/-- A scan finds something exactly if there is a handler. -/
theorem scan_ne_nil_iff (types : List Candidate) :
    (scan types).value ≠ [] ↔ SomeHandler types := by
  rw [value_scan]
  constructor
  · intro found
    obtain ⟨r, hr⟩ := List.exists_mem_of_ne_nil _ found
    obtain ⟨c, hc, hr⟩ := List.mem_flatMap.mp hr
    rw [ofType] at hr
    split at hr
    · next eligible =>
      obtain ⟨i, hi, found⟩ := List.mem_filterMap.mp hr
      obtain ⟨shape, fits, -⟩ := Option.map_eq_some_iff.mp found
      exact ⟨c, hc, eligible, i, hi, Option.isSome_of_eq_some fits⟩
    · exact (List.not_mem_nil hr).elim
  · rintro ⟨c, hc, eligible, i, hi, fits⟩
    obtain ⟨shape, fits⟩ := Option.isSome_iff_exists.mp fits
    have here : ⟨shape, i, c.name⟩ ∈ ofType c := by
      rw [ofType, if_pos eligible]
      refine List.mem_filterMap.mpr ⟨i, hi, ?_⟩
      rw [of?, fits]
      rfl
    exact List.ne_nil_of_mem (List.mem_flatMap.mpr ⟨c, hc, here⟩)

end HandlerWiring.Registration
