/-
**Debouncing: the value of the most recent long enough run.**

A history of samples ends in a run when its last `required` samples are equal. The debounced value of
a history is that of the longest prefix that ends in a run, or an initial value when none does.

* `endsInRun_concat_iff`: how one more sample prolongs a run.
* `Debounced.unique`: a history has one debounced value.
* `debounced_of_run`, `Debounced.concat_of_not`, `Debounced.concat_same`: the debounced value after
  one more sample.
-/

import Mathlib.Data.List.Infix

namespace PioUsbHost.Lib.Debounce

universe u

variable {α : Type u}

/-- The last `required` samples of the history are `value`. -/
def EndsInRun (required : Nat) (history : List α) (value : α) : Prop :=
  List.replicate required value <:+ history

/-- The longest prefix of the history that ends in a run ends in one of `value`. -/
def MostRecentRun (required : Nat) (history : List α) (value : α) : Prop :=
  ∃ seen rest, history = seen ++ rest ∧ EndsInRun required seen value ∧
    ∀ more, more <+: rest → more ≠ [] → ∀ other, ¬ EndsInRun required (seen ++ more) other

/-- No prefix of the history ends in a run. -/
def NoRun (required : Nat) (history : List α) : Prop :=
  ∀ seen, seen <+: history → ∀ value, ¬ EndsInRun required seen value

/-- The debounced value of a history: that of the most recent run, or the initial one. -/
def Debounced (required : Nat) (initial : α) (history : List α) (value : α) : Prop :=
  MostRecentRun required history value ∨ NoRun required history ∧ value = initial

section Runs

variable {required count : Nat} {history : List α} {sample value other : α}

theorem endsInRun_zero (history : List α) (value : α) : EndsInRun 0 history value :=
  List.nil_suffix

/-- One more sample prolongs the runs of its value and ends all others. -/
theorem endsInRun_concat_iff :
    EndsInRun (count + 1) (history ++ [sample]) value ↔
      sample = value ∧ EndsInRun count history value := by
  unfold EndsInRun
  rw [List.replicate_succ', List.suffix_concat_iff]
  constructor
  · rintro (empty | ⟨run, same, suffix⟩)
    · simp at empty
    · obtain ⟨rfl, last⟩ := List.append_inj' same rfl
      exact ⟨(List.singleton_inj.mp last).symm, suffix⟩
  · rintro ⟨rfl, suffix⟩
    exact Or.inr ⟨_, rfl, suffix⟩

/-- A history ends in a run of one value only. -/
theorem EndsInRun.unique (positive : 0 < required) (first : EndsInRun required history value)
    (second : EndsInRun required history other) : value = other := by
  obtain ⟨count, rfl⟩ := Nat.exists_eq_succ_of_ne_zero (Nat.ne_of_gt positive)
  rcases List.eq_nil_or_concat' history with rfl | ⟨before, last, rfl⟩
  · exact absurd (List.suffix_nil.mp first) (by simp)
  · exact (endsInRun_concat_iff.mp first).1.symm.trans (endsInRun_concat_iff.mp second).1

/-- A run that one more sample completes is one of that sample. -/
theorem EndsInRun.eq_last (positive : 0 < required)
    (run : EndsInRun required (history ++ [sample]) value) : value = sample := by
  obtain ⟨count, rfl⟩ := Nat.exists_eq_succ_of_ne_zero (Nat.ne_of_gt positive)
  exact (endsInRun_concat_iff.mp run).1.symm

end Runs

section Debounced

variable {required : Nat} {initial sample value other : α} {history : List α}

/-- **A history has one debounced value.** -/
theorem Debounced.unique (positive : 0 < required)
    (first : Debounced required initial history value)
    (second : Debounced required initial history other) : value = other := by
  rcases first with ⟨seen, rest, rfl, run, last⟩ | ⟨none, rfl⟩
  · rcases second with ⟨seen', rest', same, run', last'⟩ | ⟨none, -⟩
    · rcases List.append_eq_append_iff.mp same with ⟨more, rfl, rfl⟩ | ⟨more, rfl, rfl⟩
      · by_cases empty : more = []
        · subst empty
          rw [List.append_nil] at run'
          exact run.unique positive run'
        · exact absurd run' (last more (List.prefix_append _ _) empty other)
      · by_cases empty : more = []
        · subst empty
          rw [List.append_nil] at run
          exact run.unique positive run'
        · exact absurd run (last' more (List.prefix_append _ _) empty value)
    · exact absurd run (none seen (List.prefix_append _ _) value)
  · rcases second with ⟨seen, rest, rfl, run, -⟩ | ⟨-, rfl⟩
    · exact absurd run (none seen (List.prefix_append _ _) other)
    · rfl

theorem debounced_nil (positive : 0 < required) (initial : α) :
    Debounced required initial [] initial := by
  refine Or.inr ⟨?_, rfl⟩
  intro seen inside value run
  rw [List.prefix_nil.mp inside] at run
  have empty := List.suffix_nil.mp run
  simp at empty
  omega

/-- A run at the end of the history is the most recent one. -/
theorem debounced_of_run (run : EndsInRun required history value) :
    Debounced required initial history value := by
  refine Or.inl ⟨history, [], (List.append_nil _).symm, run, ?_⟩
  intro more inside nonempty
  exact absurd (List.prefix_nil.mp inside) nonempty

/-- A sample that completes no run leaves the debounced value as it was. -/
theorem Debounced.concat_of_not (debounced : Debounced required initial history value)
    (noRun : ∀ other, ¬ EndsInRun required (history ++ [sample]) other) :
    Debounced required initial (history ++ [sample]) value := by
  rcases debounced with ⟨seen, rest, rfl, run, last⟩ | ⟨none, rfl⟩
  · refine Or.inl ⟨seen, rest ++ [sample], List.append_assoc _ _ _, run, ?_⟩
    intro more inside nonempty
    rcases List.prefix_concat_iff.mp inside with rfl | before
    · rw [← List.append_assoc]
      exact noRun
    · exact last more before nonempty
  · refine Or.inr ⟨?_, rfl⟩
    intro seen inside
    rcases List.prefix_concat_iff.mp inside with rfl | before
    · exact noRun
    · exact none seen before

/-- A sample of the debounced value leaves it as it was. -/
theorem Debounced.concat_same (positive : 0 < required)
    (debounced : Debounced required initial history value) :
    Debounced required initial (history ++ [value]) value := by
  by_cases run : EndsInRun required (history ++ [value]) value
  · exact debounced_of_run run
  · apply debounced.concat_of_not
    intro other completed
    rw [completed.eq_last positive] at completed
    exact run completed

end Debounced

end PioUsbHost.Lib.Debounce
