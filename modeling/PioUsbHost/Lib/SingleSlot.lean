/-
**Slots that a loop fills at most once.**

A parser that accepts at most one item of a kind keeps it in an optional variable: it reads each item
of that kind, refuses the ones it cannot read, and refuses a second one. Over the list of the items
seen so far, `Single` says that none was refused and `slot` is the variable.

* `single_concat`: one more item is accepted when it is the first and reads.
* `accept_iff`: what the loop does with one more item.
* `slot_eq_none`: the variable is empty as long as nothing was seen.
-/

import Mathlib.Data.List.Basic

namespace PioUsbHost.Lib.SingleSlot

universe u v

variable {α : Type u} {β : Type v} {read : α → Option β} {found : List α}

/-- A list of at most one item is what a variable can hold. -/
theorem toList_head? {items : List α} (few : items.length ≤ 1) : items.head?.toList = items := by
  cases items with
  | nil => rfl
  | cons item others =>
    rw [List.length_eq_zero_iff.mp (Nat.le_zero.mp (Nat.le_of_succ_le_succ few))]
    rfl

/-- At most one item was seen, and it was read. -/
def Single (read : α → Option β) (found : List α) : Prop :=
  found.length ≤ 1 ∧ ∀ item ∈ found, (read item).isSome

/-- The variable, after these items. -/
def slot (read : α → Option β) (found : List α) : Option β := found.head?.bind read

instance : Decidable (Single read found) := inferInstanceAs (Decidable (_ ∧ _))

@[simp] theorem single_nil : Single read [] :=
  ⟨Nat.zero_le _, fun _ member => absurd member List.not_mem_nil⟩

@[simp] theorem slot_nil : slot read [] = none := rfl

@[simp] theorem slot_singleton (item : α) : slot read [item] = read item := rfl

/-- **One more item is accepted when it is the first and reads.** -/
@[simp] theorem single_concat {item : α} :
    Single read (found ++ [item]) ↔ found = [] ∧ (read item).isSome := by
  constructor
  · rintro ⟨short, reads⟩
    rw [List.length_append, List.length_singleton] at short
    refine ⟨List.length_eq_zero_iff.mp (by omega), reads item (by simp)⟩
  · rintro ⟨rfl, reads⟩
    exact ⟨Nat.le_refl _, by simpa using reads⟩

/-- The variable is empty as long as nothing was seen. -/
theorem slot_eq_none (single : Single read found) : slot read found = none ↔ found = [] := by
  constructor
  · intro empty
    cases found with
    | nil => rfl
    | cons item others =>
      have reads := single.2 item List.mem_cons_self
      rw [slot, List.head?_cons, Option.bind_some] at empty
      rw [empty] at reads
      cases reads
  · rintro rfl
    rfl

/-- A variable with a value was filled from the only item. -/
theorem slot_eq_some (single : Single read found) {value : β} :
    slot read found = some value ↔ ∃ item, found = [item] ∧ read item = some value := by
  cases found with
  | nil => simp
  | cons item others =>
    obtain rfl : others = [] := List.length_eq_zero_iff.mp (Nat.le_zero.mp (Nat.le_of_succ_le_succ
      single.1))
    simp

/-- **What the loop does with one more item**: it wants the variable empty and a value to put there,
that is, the first item and one that reads. -/
theorem accept_iff {γ : Type*} {item : α} {result : γ} (single : Single read found)
    (build : Option β → γ) :
    (slot read found = none ∧ ∃ value, read item = some value ∧ result = build (some value)) ↔
      (found = [] ∧ (read item).isSome) ∧ result = build (slot read (found ++ [item])) := by
  rw [slot_eq_none single]
  constructor
  · rintro ⟨rfl, value, reads, rfl⟩
    exact ⟨⟨rfl, by rw [reads]; rfl⟩, by rw [List.nil_append, slot_singleton, reads]⟩
  · rintro ⟨⟨rfl, reads⟩, rfl⟩
    obtain ⟨value, reads⟩ := Option.isSome_iff_exists.mp reads
    exact ⟨rfl, value, reads, by rw [List.nil_append, slot_singleton, reads]⟩

theorem single_of_prefix {others : List α} (single : Single read (found ++ others)) :
    Single read found :=
  ⟨Nat.le_trans (by simp) single.1, fun item member => single.2 item (by simp [member])⟩

end PioUsbHost.Lib.SingleSlot
