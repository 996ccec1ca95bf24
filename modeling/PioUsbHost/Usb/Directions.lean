/-
**At most one endpoint in each direction.**

The class parsers read every endpoint descriptor of a section, keep one variable for each direction
and refuse a second endpoint of the same direction. `read` is what a class accepts as an endpoint.

* `onePerDirection_concat`: one more descriptor is accepted when it reads and is the first in its
  direction.
* `OnePerDirection.length_le`: so there are at most two.
* `OnePerDirection.two`: with an endpoint in each direction, these are all.
-/

import PioUsbHost.Usb.Descriptor

namespace PioUsbHost.Usb

variable {read : List UInt8 → Option EndpointDescriptor} {found others : List (List UInt8)}
  {descriptor : List UInt8} {endpoint : EndpointDescriptor} {isIn : Bool}

/-- The endpoints of one direction. -/
def inDirection (read : List UInt8 → Option EndpointDescriptor) (isIn : Bool)
    (found : List (List UInt8)) : List EndpointDescriptor :=
  (found.filterMap read).filter fun endpoint => endpoint.isIn = isIn

/-- Every descriptor reads, and at most one in each direction. -/
structure OnePerDirection (read : List UInt8 → Option EndpointDescriptor)
    (found : List (List UInt8)) : Prop where
  reads : ∀ descriptor ∈ found, (read descriptor).isSome
  few : ∀ isIn, (inDirection read isIn found).length ≤ 1

theorem inDirection_append :
    inDirection read isIn (found ++ others) =
      inDirection read isIn found ++ inDirection read isIn others := by
  rw [inDirection, List.filterMap_append, List.filter_append, inDirection, inDirection]

theorem inDirection_concat (reads : read descriptor = some endpoint) :
    inDirection read isIn (found ++ [descriptor]) =
      inDirection read isIn found ++ if endpoint.isIn = isIn then [endpoint] else [] := by
  have one : inDirection read isIn [descriptor] =
      if endpoint.isIn = isIn then [endpoint] else [] := by
    rw [inDirection, List.filterMap_cons_some reads, List.filterMap_nil]
    simp only [List.filter_cons, List.filter_nil, decide_eq_true_eq]
  rw [inDirection_append, one]

theorem onePerDirection_nil : OnePerDirection read [] :=
  ⟨fun _ member => absurd member List.not_mem_nil, fun _ => Nat.zero_le _⟩

theorem OnePerDirection.of_append (one : OnePerDirection read (found ++ others)) :
    OnePerDirection read found := by
  refine ⟨fun other member => one.reads other (List.mem_append_left _ member), fun isIn => ?_⟩
  have few := one.few isIn
  rw [inDirection_append, List.length_append] at few
  exact Nat.le_trans (Nat.le_add_right _ _) few

/-- **One more descriptor** is accepted when it reads and is the first in its direction. -/
theorem onePerDirection_concat (one : OnePerDirection read found) :
    OnePerDirection read (found ++ [descriptor]) ↔
      ∃ endpoint, read descriptor = some endpoint ∧ inDirection read endpoint.isIn found = [] := by
  constructor
  · intro extended
    have reads := extended.reads descriptor (List.mem_append_right _ (List.mem_singleton_self _))
    obtain ⟨endpoint, reads⟩ := Option.isSome_iff_exists.mp reads
    have few := extended.few endpoint.isIn
    rw [inDirection_concat reads, if_pos rfl, List.length_append, List.length_singleton] at few
    exact ⟨endpoint, reads, List.length_eq_zero_iff.mp (by omega)⟩
  · rintro ⟨endpoint, reads, first⟩
    refine ⟨?_, fun isIn => ?_⟩
    · intro other member
      rcases List.mem_append.mp member with earlier | last
      · exact one.reads other earlier
      · rw [List.mem_singleton.mp last, reads]
        rfl
    · rw [inDirection_concat reads]
      split
      next same =>
        rw [← same, first]
        exact Nat.le_refl 1
      next =>
        rw [List.append_nil]
        exact one.few isIn

/-- Both directions together are all endpoints. -/
theorem OnePerDirection.length_eq (one : OnePerDirection read found) :
    found.length =
      (inDirection read true found).length + (inDirection read false found).length := by
  have all : (found.filterMap read).length = found.length :=
    List.filterMap_length_eq_length.mpr one.reads
  have split := List.length_eq_length_filter_add (l := found.filterMap read)
    fun endpoint => endpoint.isIn = true
  rw [← all, split, inDirection, inDirection]
  simp only [decide_not, ← Bool.not_eq_true]

theorem OnePerDirection.length_le (one : OnePerDirection read found) : found.length ≤ 2 := by
  have ins := one.few true
  have outs := one.few false
  have all := one.length_eq
  omega

/-- **With an endpoint in each direction**, these two are all there are. -/
theorem OnePerDirection.two {outward inward : EndpointDescriptor} (one : OnePerDirection read found)
    (isOut : (inDirection read false found).head? = some outward)
    (isIn : (inDirection read true found).head? = some inward) :
    ∃ first second, (found = [first, second] ∨ found = [second, first]) ∧
      read first = some outward ∧ read second = some inward ∧
      outward.isIn = false ∧ inward.isIn = true := by
  have outs : inDirection read false found ≠ [] := by
    intro none
    rw [none] at isOut
    cases isOut
  have ins : inDirection read true found ≠ [] := by
    intro none
    rw [none] at isIn
    cases isIn
  have length : found.length = 2 := by
    have all := one.length_eq
    have atMost := one.length_le
    have out := List.length_pos_iff.mpr outs
    have in_ := List.length_pos_iff.mpr ins
    omega
  obtain ⟨first, second, rfl⟩ := List.length_eq_two.mp length
  obtain ⟨endpoint, readsFirst⟩ := Option.isSome_iff_exists.mp (one.reads first List.mem_cons_self)
  obtain ⟨other, readsSecond⟩ := Option.isSome_iff_exists.mp
    (one.reads second (List.mem_cons_of_mem _ List.mem_cons_self))
  rw [inDirection, List.filterMap_cons_some readsFirst, List.filterMap_cons_some readsSecond,
    List.filterMap_nil] at isOut isIn
  cases directionFirst : endpoint.isIn <;> cases directionSecond : other.isIn <;>
    simp [directionFirst, directionSecond] at isOut isIn
  · subst isOut isIn
    exact ⟨first, second, .inl rfl, readsFirst, readsSecond, directionFirst, directionSecond⟩
  · subst isOut isIn
    exact ⟨second, first, .inr rfl, readsSecond, readsFirst, directionSecond, directionFirst⟩

end PioUsbHost.Usb
