/-
**The first entry of each key.**

`firstOfKey` goes over a list of entries and keeps those whose key has not come up before.

* `firstOfKey_sublist`: the entries that are kept are in their order.
* `mem_firstOfKey`: the first entry of a key is kept.
-/

import Mathlib.Data.List.Basic

namespace PioUsbHost.Lib

universe u v

variable {κ : Type u} {α : Type v} [DecidableEq κ] {seen : List κ} {entries : List (κ × α)}

/-- The entries whose keys have not been seen, neither at the start nor before in the list. -/
def firstOfKey (seen : List κ) : List (κ × α) → List (κ × α)
  | [] => []
  | entry :: rest =>
    if entry.1 ∈ seen then firstOfKey seen rest
    else entry :: firstOfKey (entry.1 :: seen) rest

theorem firstOfKey_cons_of_mem {entry : κ × α} (came : entry.1 ∈ seen) :
    firstOfKey seen (entry :: entries) = firstOfKey seen entries :=
  if_pos came

theorem firstOfKey_cons_of_not_mem {entry : κ × α} (fresh : entry.1 ∉ seen) :
    firstOfKey seen (entry :: entries) = entry :: firstOfKey (entry.1 :: seen) entries :=
  if_neg fresh

theorem firstOfKey_sublist : (firstOfKey seen entries).Sublist entries := by
  induction entries generalizing seen with
  | nil => exact List.Sublist.slnil
  | cons entry rest ih =>
    rw [firstOfKey]
    split
    · exact ih.cons entry
    · exact ih.cons_cons entry

/-- **The first entry of a key is kept.** -/
theorem mem_firstOfKey {entry : κ × α} {before after : List (κ × α)} (fresh : entry.1 ∉ seen)
    (first : ∀ other ∈ before, other.1 ≠ entry.1) :
    entry ∈ firstOfKey seen (before ++ entry :: after) := by
  induction before generalizing seen with
  | nil =>
    rw [List.nil_append, firstOfKey_cons_of_not_mem fresh]
    exact List.mem_cons_self
  | cons other rest ih =>
    have different := first other List.mem_cons_self
    have later := fun another member => first another (List.mem_cons_of_mem _ member)
    rw [List.cons_append, firstOfKey]
    split
    · exact ih fresh later
    · refine List.mem_cons_of_mem _ (ih ?_ later)
      intro came
      rcases List.mem_cons.mp came with same | came
      · exact different same.symm
      · exact fresh came

end PioUsbHost.Lib
