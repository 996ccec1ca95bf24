/-
**Cutting a list into chunks.**

`IsChunks size data chunks`: the chunks have `size` elements, up to a last one that may have fewer,
and are the data in order. There is one such list of chunks for each list of data.

* `isChunks_step`: the first chunk and those of what is behind it.
* `isChunks_range`: chunks that are computed from their indices.
-/

import Mathlib.Data.List.Basic
import Mathlib.Tactic.Ring

namespace PioUsbHost.Lib.Chunks

universe u

variable {α : Type u} {size : Nat} {data : List α} {chunks others : List (List α)}

/-- The data, cut into chunks of `size` elements, the last one possibly shorter. -/
inductive IsChunks (size : Nat) : List α → List (List α) → Prop where
  | nil : IsChunks size [] []
  | last {chunk : List α} (nonempty : chunk ≠ []) (short : chunk.length ≤ size) :
      IsChunks size chunk [chunk]
  | cons {chunk rest : List α} {chunks : List (List α)} (full : chunk.length = size)
      (nonempty : rest ≠ []) (more : IsChunks size rest chunks) :
      IsChunks size (chunk ++ rest) (chunk :: chunks)

theorem IsChunks.flatten (cut : IsChunks size data chunks) : chunks.flatten = data := by
  induction cut with
  | nil => rfl
  | last => exact List.append_nil _
  | cons full nonempty more ih => rw [List.flatten_cons, ih]

theorem isChunks_nil_iff : IsChunks size ([] : List α) chunks ↔ chunks = [] := by
  constructor
  · intro cut
    generalize same : ([] : List α) = data at cut
    cases cut with
    | nil => rfl
    | last nonempty => exact absurd same.symm nonempty
    | cons full nonempty more => exact absurd (List.append_eq_nil_iff.mp same.symm).2 nonempty
  · rintro rfl
    exact .nil

/-- **The first chunk**, and those of what is behind it. -/
theorem isChunks_step (nonempty : data ≠ []) (rest : IsChunks size (data.drop size) chunks) :
    IsChunks size data (data.take size :: chunks) := by
  by_cases short : data.length ≤ size
  · rw [List.drop_of_length_le short, isChunks_nil_iff] at rest
    rw [List.take_of_length_le short, rest]
    exact .last nonempty short
  · have more : data.drop size ≠ [] := by
      rw [Ne, List.drop_eq_nil_iff]
      exact short
    have full : (data.take size).length = size := List.length_take_of_le (by omega)
    have cut := IsChunks.cons full more rest
    rwa [List.take_append_drop] at cut

/-- All data can be cut. -/
theorem exists_isChunks (positive : 0 < size) (data : List α) :
    ∃ chunks, IsChunks size data chunks := by
  by_cases empty : data = []
  · exact ⟨[], empty ▸ .nil⟩
  · have some := List.length_pos_iff.mpr empty
    have shorter : (data.drop size).length < data.length := by
      rw [List.length_drop]
      omega
    obtain ⟨rest, cut⟩ := exists_isChunks positive (data.drop size)
    exact ⟨_, isChunks_step empty cut⟩
  termination_by data.length

/-- The chunks of data that is not empty, from the first one. -/
theorem IsChunks.eq_step (cut : IsChunks size data chunks)
    (nonempty : data ≠ []) :
    ∃ rest, chunks = data.take size :: rest ∧ IsChunks size (data.drop size) rest := by
  cases cut with
  | nil => exact absurd rfl nonempty
  | last _ short =>
    refine ⟨[], by rw [List.take_of_length_le short], ?_⟩
    rw [List.drop_of_length_le short]
    exact .nil
  | cons full _ more =>
    refine ⟨_, by rw [List.take_left' full], ?_⟩
    rw [List.drop_left' full]
    exact more

/-- **The chunks are determined** by the data. -/
theorem IsChunks.unique (first : IsChunks size data chunks)
    (second : IsChunks size data others) : chunks = others := by
  induction chunks generalizing data others with
  | nil =>
    rw [← first.flatten, List.flatten_nil, isChunks_nil_iff] at second
    exact second.symm
  | cons chunk rest ih =>
    by_cases empty : data = []
    · subst empty
      exact absurd (isChunks_nil_iff.mp first) (List.cons_ne_nil _ _)
    · obtain ⟨tail, same, cut⟩ := first.eq_step empty
      obtain ⟨tail', same', cut'⟩ := second.eq_step empty
      cases same
      rw [same', ih cut cut']

/-- **Chunks by index**: as many as it takes to reach the end of the data, and no more. -/
theorem isChunks_range {count : Nat} (enough : data.length ≤ count * size)
    (needed : ∀ fewer < count, fewer * size < data.length) :
    IsChunks size data
      ((List.range count).map fun index => (data.drop (index * size)).take size) := by
  induction count generalizing data with
  | zero =>
    rw [Nat.zero_mul, Nat.le_zero, List.length_eq_zero_iff] at enough
    rw [enough]
    exact .nil
  | succ count ih =>
    have nonempty : data ≠ [] := by
      rintro rfl
      have first := needed 0 (Nat.succ_pos _)
      simp at first
    have later : (List.range count).map
        ((fun index => (data.drop (index * size)).take size) ∘ Nat.succ) =
        (List.range count).map fun index => ((data.drop size).drop (index * size)).take size := by
      refine List.map_congr_left fun index _ => ?_
      rw [Function.comp_apply, List.drop_drop, Nat.succ_mul, Nat.add_comm]
    rw [List.range_succ_eq_map, List.map_cons, List.map_map, later, Nat.zero_mul, List.drop_zero]
    refine isChunks_step nonempty (ih ?_ ?_)
    · rw [Nat.succ_mul] at enough
      rw [List.length_drop]
      omega
    · intro fewer below
      have reached := needed (fewer + 1) (by omega)
      rw [Nat.succ_mul] at reached
      rw [List.length_drop]
      omega

end PioUsbHost.Lib.Chunks
