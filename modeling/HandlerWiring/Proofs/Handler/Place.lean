import Mathlib.Algebra.GroupWithZero.Nat
import Mathlib.Data.List.Forall2
import HandlerWiring.Proofs.Handler.Registration
import HandlerWiring.Sample

/-!
# Each handler once, in declaration order

A handler stands at a place: a type, counted among the types, and one of its interfaces. `StandsAt`
says of a place that its type is eligible and its interface has a shape, and what is registered for
it. The places of handlers, in their order, are those of the registrations that a scan finds, one
for one (`exists_inOrder`). Since nothing but the declarations decides which places these are, the
registration at a position of the scan is determined by them.

Places, not interfaces, are counted: an interface that is declared twice is registered twice.
-/

namespace HandlerWiring

/-- A type that is not looked at: a value type, an abstract type, an open generic definition or a
type without interfaces. -/
def Candidate.IsPassedOver (c : Candidate) : Prop :=
  c.isValueType = true ∨ c.isAbstract = true ∨ c.isUnboundGeneric = true ∨ c.interfaces = []

theorem Candidate.isEligible_iff {c : Candidate} : c.isEligible = true ↔ ¬c.IsPassedOver := by
  simp only [isEligible, IsPassedOver, Bool.and_eq_true, Bool.not_eq_true', not_or,
    Bool.not_eq_true, List.isEmpty_eq_false_iff, ne_eq, and_assoc]

namespace Registration

variable {c : Candidate} {i : Interface} {r : Registration}

theorem of?_eq_some_iff :
    of? c i = some r ↔ r.interface = i ∧ r.implementation = c.name ∧ Shape.of? i = some r.shape := by
  rw [of?, Option.map_eq_some_iff]
  constructor
  · rintro ⟨shape, found, rfl⟩
    exact ⟨rfl, rfl, found⟩
  · rintro ⟨rfl, named, found⟩
    refine ⟨r.shape, found, ?_⟩
    rw [← named]

theorem isSome_of? : (of? c i).isSome = (Shape.of? i).isSome := Option.isSome_map

/-! ## One type -/

/-- For each interface that has a shape there is one registration, in the same order. -/
theorem forall₂_interfaces (c : Candidate) (interfaces : List Interface) :
    List.Forall₂ (fun i r => of? c i = some r)
      (interfaces.filter fun i => (Shape.of? i).isSome) (interfaces.filterMap (of? c)) := by
  induction interfaces with
  | nil => exact .nil
  | cons i rest ih =>
    rw [List.filter_cons, List.filterMap_cons, ← isSome_of? (c := c)]
    cases found : of? c i with
    | none => exact ih
    | some r => exact .cons found ih

/-! ## Places -/

/-- The interface at a place has a shape and its type is eligible, and this is what is registered
for it. -/
def StandsAt (types : List Candidate) (place : Nat × Nat) (r : Registration) : Prop :=
  ∃ c, types[place.1]? = some c ∧ c.isEligible = true ∧
    c.interfaces[place.2]? = some r.interface ∧ r.implementation = c.name ∧
    Shape.of? r.interface = some r.shape

/-- A place comes before another one: its type is declared earlier, or the type is the same and its
interface is declared earlier. -/
def Before (place other : Nat × Nat) : Prop :=
  place.1 < other.1 ∨ place.1 = other.1 ∧ place.2 < other.2

/-- Places in their order, one for each registration, and no place left out at which there is
one. -/
structure InOrder {ι : Type} (before : ι → ι → Prop) (standsAt : ι → Registration → Prop)
    (places : List ι) (found : List Registration) : Prop where
  ascending : places.Pairwise before
  complete : ∀ {place r}, standsAt place r → place ∈ places
  each : List.Forall₂ standsAt places found

/-- At each of the places there is a registration. -/
theorem InOrder.exists_of_mem {ι : Type} {before : ι → ι → Prop} {standsAt : ι → Registration → Prop}
    {places : List ι} {found : List Registration} (h : InOrder before standsAt places found)
    {place : ι} (among : place ∈ places) : ∃ r, standsAt place r := by
  obtain ⟨⟨k, inside⟩, rfl⟩ := List.mem_iff_get.mp among
  exact ⟨_, h.each.get inside (h.each.length_eq ▸ inside)⟩

/-- The interfaces of a type that have a shape, by their places. -/
theorem exists_inOrder_interfaces (c : Candidate) (interfaces : List Interface) :
    ∃ places : List Nat, InOrder (· < ·)
      (fun n r => ∃ i, interfaces[n]? = some i ∧ of? c i = some r) places
      (interfaces.filterMap (of? c)) := by
  induction interfaces with
  | nil => exact ⟨[], .nil, fun ⟨_, nothing, _⟩ => (nomatch nothing), .nil⟩
  | cons i rest ih =>
    obtain ⟨places, listed⟩ := ih
    have ascending : (places.map (· + 1)).Pairwise (· < ·) :=
      listed.ascending.map (· + 1) fun _ _ => Nat.succ_lt_succ
    have further {n : Nat} {r : Registration}
        (stands : ∃ j, (i :: rest)[n + 1]? = some j ∧ of? c j = some r) :
        n + 1 ∈ places.map (· + 1) := List.mem_map_of_mem (listed.complete stands)
    have each : List.Forall₂ (fun n r => ∃ j, (i :: rest)[n]? = some j ∧ of? c j = some r)
        (places.map (· + 1)) (rest.filterMap (of? c)) :=
      List.forall₂_map_left_iff.mpr listed.each
    rw [List.filterMap_cons]
    cases found : of? c i with
    | none =>
      refine ⟨places.map (· + 1), ascending, ?_, each⟩
      rintro (_ | n) r stands
      · obtain ⟨j, first, registered⟩ := stands
        cases first
        rw [found] at registered
        cases registered
      · exact further stands
    | some r =>
      refine ⟨0 :: places.map (· + 1), ?_, ?_, .cons ⟨i, rfl, found⟩ each⟩
      · refine List.pairwise_cons.mpr ⟨fun n among => ?_, ascending⟩
        obtain ⟨m, -, rfl⟩ := List.mem_map.mp among
        exact Nat.succ_pos m
      · rintro (_ | n) r stands
        · exact List.mem_cons_self
        · exact List.mem_cons_of_mem _ (further stands)

/-- The handlers of the first type, by the places of their interfaces. -/
theorem exists_inOrder_first (c : Candidate) (rest : List Candidate) :
    ∃ places : List Nat, InOrder (· < ·) (fun n r => StandsAt (c :: rest) (0, n) r) places
      (ofType c) := by
  rw [ofType]
  split
  · next eligible =>
    obtain ⟨places, listed⟩ := exists_inOrder_interfaces c c.interfaces
    refine ⟨places, listed.ascending, ?_, listed.each.imp ?_⟩
    · rintro n r ⟨_, ⟨⟩, -, declared, named, shaped⟩
      exact listed.complete ⟨r.interface, declared, of?_eq_some_iff.mpr ⟨rfl, named, shaped⟩⟩
    · rintro n r ⟨i, declared, registered⟩
      obtain ⟨rfl, named, shaped⟩ := of?_eq_some_iff.mp registered
      exact ⟨c, rfl, eligible, declared, named, shaped⟩
  · next ineligible =>
    refine ⟨[], .nil, ?_, .nil⟩
    rintro n r ⟨_, ⟨⟩, eligible, -⟩
    exact absurd eligible ineligible

/-- The registrations of a scan are those of the places of handlers, in the order of the places. -/
theorem exists_inOrder (types : List Candidate) :
    ∃ places, InOrder Before (StandsAt types) places (scan types).value := by
  rw [value_scan]
  induction types with
  | nil => exact ⟨[], .nil, fun ⟨_, nothing, _⟩ => (nomatch nothing), .nil⟩
  | cons c rest ih =>
    obtain ⟨later, others⟩ := ih
    obtain ⟨here, first⟩ := exists_inOrder_first c rest
    -- The other types move one place on, and their interfaces stay where they are.
    refine ⟨here.map (0, ·) ++ later.map fun place => (place.1 + 1, place.2), ?_, ?_, ?_⟩
    · refine List.pairwise_append.mpr ⟨?_, ?_, ?_⟩
      · exact first.ascending.map _ fun _ _ earlier => .inr ⟨rfl, earlier⟩
      · refine others.ascending.map _ fun _ _ earlier => ?_
        exact earlier.imp Nat.succ_lt_succ fun ⟨same, earlier⟩ => ⟨congrArg (· + 1) same, earlier⟩
      · intro place among other among'
        obtain ⟨n, -, rfl⟩ := List.mem_map.mp among
        obtain ⟨m, -, rfl⟩ := List.mem_map.mp among'
        exact .inl (Nat.succ_pos m.1)
    · rintro ⟨_ | m, n⟩ r stands
      · exact List.mem_append_left _ (List.mem_map_of_mem (first.complete stands))
      · have among : (m, n) ∈ later := others.complete stands
        exact List.mem_append_right _ (List.mem_map_of_mem (f := fun place => (place.1 + 1, place.2)) among)
    · rw [List.flatMap_cons]
      exact List.rel_append (List.forall₂_map_left_iff.mpr first.each)
        (List.forall₂_map_left_iff.mpr others.each)

/-! ## How many -/

theorem length_ofType (c : Candidate) :
    (ofType c).length =
      if c.isEligible then c.interfaces.countP fun i => (Shape.of? i).isSome else 0 := by
  rw [ofType]
  split
  · simp only [List.length_filterMap_eq_countP, isSome_of?]
  · rfl

/-- There are as many registrations as eligible types have interfaces with a shape. -/
theorem length_scan (types : List Candidate) :
    (scan types).value.length = ((types.filter Candidate.isEligible).map fun c =>
      c.interfaces.countP fun i => (Shape.of? i).isSome).sum := by
  induction types with
  | nil => rfl
  | cons c rest ih =>
    rw [value_scan_cons, List.length_append, ih, length_ofType, List.filter_cons]
    split
    · rw [List.map_cons, List.sum_cons]
    · rw [Nat.zero_add]

end Registration

/-- The scan finds each handler exactly once, in declaration order. A scan of types in a row is that
of the first ones followed by that of the others. A type that is passed over adds nothing. Any other
type adds one registration for each of its interfaces that has a shape, in the declared order, with
that very interface, its shape and the name of the type. So there are as many registrations as
eligible types have interfaces with a shape, and the registrations are those of the places of
handlers, one for one and in the order of the places. -/
theorem scan_finds_each_handler_once (types : List Candidate) :
    (∀ types', (Registration.scan (types ++ types')).value =
        (Registration.scan types).value ++ (Registration.scan types').value) ∧
      (∀ c : Candidate, c.IsPassedOver →
        c.isEligible = false ∧ (Registration.scan [c]).value = []) ∧
      (∀ c : Candidate, ¬c.IsPassedOver → c.isEligible = true ∧
        List.Forall₂ (fun i r => r.interface = i ∧ r.implementation = c.name ∧
            Shape.of? i = some r.shape)
          (c.interfaces.filter fun i => (Shape.of? i).isSome) (Registration.scan [c]).value) ∧
      (Registration.scan types).value.length =
        ((types.filter Candidate.isEligible).map fun c =>
          c.interfaces.countP fun i => (Shape.of? i).isSome).sum ∧
      ∃ places, places.Pairwise Registration.Before ∧
        (∀ place, place ∈ places ↔ ∃ r, Registration.StandsAt types place r) ∧
        List.Forall₂ (Registration.StandsAt types) places (Registration.scan types).value := by
  have alone (c : Candidate) : (Registration.scan [c]).value = Registration.ofType c := by
    rw [Registration.value_scan, List.flatMap_singleton]
  refine ⟨Registration.value_scan_append types, ?_, ?_, Registration.length_scan types, ?_⟩
  · intro c passed
    have ineligible : c.isEligible = false :=
      Bool.eq_false_iff.mpr fun eligible => Candidate.isEligible_iff.mp eligible passed
    rw [alone, Registration.ofType, ineligible]
    exact ⟨rfl, rfl⟩
  · intro c looked
    have eligible := Candidate.isEligible_iff.mpr looked
    rw [alone, Registration.ofType, if_pos eligible]
    refine ⟨eligible, (Registration.forall₂_interfaces c c.interfaces).imp fun i r registered => ?_⟩
    exact Registration.of?_eq_some_iff.mp registered
  · obtain ⟨places, listed⟩ := Registration.exists_inOrder types
    refine ⟨places, listed.ascending, fun place => ⟨listed.exists_of_mem, ?_⟩, listed.each⟩
    rintro ⟨r, stands⟩
    exact listed.complete stands

namespace Sample

/-- An interface of handlers of one query. -/
def queryHandler : Interface := ⟨"CQRSToolkit.IQueryHandler", ["A.Q", "A.R"]⟩

/-- A class that handles a query twice and disposes of something in between. -/
def repeatedHandler : Candidate :=
  classAt "A.H" [queryHandler, ⟨"System.IDisposable", []⟩, queryHandler] "H.cs" 1

/-- A value type that would handle a query. -/
def valueHandler : Candidate := { classAt "A.V" [queryHandler] "V.cs" 1 with isValueType := true }

end Sample

/-- A handler that is declared twice is registered twice, the interface between is not, and neither
is the value type. -/
theorem scan_finds_each_handler_once_sample :
    (Sample.valueHandler.IsPassedOver ∧ (Registration.scan [Sample.valueHandler]).value = []) ∧
      (¬Sample.repeatedHandler.IsPassedOver ∧
        List.Forall₂ (fun i r => r.interface = i ∧ r.implementation = "A.H" ∧
            Shape.of? i = some r.shape)
          [Sample.queryHandler, Sample.queryHandler]
          (Registration.scan [Sample.repeatedHandler]).value) ∧
      (Registration.scan [Sample.repeatedHandler, Sample.valueHandler]).value.length = 2 := by
  have passed : Sample.valueHandler.IsPassedOver := .inl rfl
  have looked : ¬Sample.repeatedHandler.IsPassedOver := Candidate.isEligible_iff.mp rfl
  have shaped : Sample.repeatedHandler.interfaces.filter (fun i => (Shape.of? i).isSome) =
      [Sample.queryHandler, Sample.queryHandler] := by decide +kernel
  obtain ⟨-, idle, found, number, -⟩ :=
    scan_finds_each_handler_once [Sample.repeatedHandler, Sample.valueHandler]
  have registered := (found Sample.repeatedHandler looked).2
  rw [shaped] at registered
  exact ⟨⟨passed, (idle Sample.valueHandler passed).2⟩, ⟨looked, registered⟩,
    number.trans (by decide +kernel)⟩

end HandlerWiring
