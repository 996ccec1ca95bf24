/-
**What holds of every entry of a history, given the entries before it.**

`AtEach P history` says that each entry is in the relation `P` to the part of the history before it.

* `atEach_concat`: one more entry at the end.
* `atEach_or_first`: the relation holds at each entry, or there is a first one where it does not.
* `first_unique`: there is one such place only.

`AtLast P wanted history` says that the last entry in the relation is one of those wanted.

* `atLast_concat_of`, `atLast_concat_of_not`: one more entry at the end.
-/

import Mathlib.Data.List.Basic
import Mathlib.Data.List.Induction

namespace PioUsbHost.Lib.History

universe u

variable {α : Type u} {P : List α → α → Prop} {history more : List α} {entry : α}

/-- Each entry is in the relation to the entries before it. -/
def AtEach (P : List α → α → Prop) (history : List α) : Prop :=
  ∀ before entry after, history = before ++ entry :: after → P before entry

theorem atEach_nil : AtEach P [] := by
  intro before entry after split
  exact absurd split.symm (List.append_ne_nil_of_right_ne_nil _ (List.cons_ne_nil _ _))

theorem AtEach.of_append (each : AtEach P (history ++ more)) : AtEach P history := by
  rintro before entry after rfl
  exact each before entry (after ++ more) (by rw [List.append_assoc, List.cons_append])

/-- **One more entry at the end.** -/
theorem atEach_concat : AtEach P (history ++ [entry]) ↔ AtEach P history ∧ P history entry := by
  constructor
  · intro each
    exact ⟨each.of_append, each history entry [] rfl⟩
  · rintro ⟨each, last⟩ before other after split
    rcases List.eq_nil_or_concat' after with rfl | ⟨rest, final, rfl⟩
    · obtain ⟨rfl, same⟩ := List.append_inj' split rfl
      cases same
      exact last
    · rw [← List.cons_append, ← List.append_assoc] at split
      obtain ⟨rfl, -⟩ := List.append_inj' split rfl
      exact each before other rest rfl

/-- **The first entry** that is not in the relation, unless all are. -/
theorem atEach_or_first (history : List α) :
    AtEach P history ∨ ∃ before entry after, history = before ++ entry :: after ∧
      AtEach P before ∧ ¬ P before entry := by
  induction history using List.reverseRecOn with
  | nil => exact .inl atEach_nil
  | append_singleton history entry ih =>
    rcases ih with each | ⟨before, first, after, rfl, each, fails⟩
    · by_cases holds : P history entry
      · exact .inl (atEach_concat.mpr ⟨each, holds⟩)
      · exact .inr ⟨history, entry, [], rfl, each, holds⟩
    · exact .inr ⟨before, first, after ++ [entry], by rw [List.append_assoc, List.cons_append],
        each, fails⟩

/-- The first entry that is not in the relation stands at one place. -/
theorem first_unique {before others after rest : List α} {other : α} (each : AtEach P before)
    (fails : ¬ P before entry) (otherEach : AtEach P others) (otherFails : ¬ P others other)
    (same : before ++ entry :: after = others ++ other :: rest) : before = others ∧ entry = other := by
  rcases List.append_eq_append_iff.mp same with ⟨between, split, tail⟩ | ⟨between, split, tail⟩
  · cases between with
    | nil =>
      rw [List.append_nil] at split
      exact ⟨split.symm, (List.cons.inj tail).1⟩
    | cons next more =>
      obtain ⟨rfl, -⟩ := List.cons.inj tail
      exact absurd (otherEach before entry more split) fails
  · cases between with
    | nil =>
      rw [List.append_nil] at split
      exact ⟨split, (List.cons.inj tail).1.symm⟩
    | cons next more =>
      obtain ⟨rfl, -⟩ := List.cons.inj tail
      exact absurd (each others other more split) otherFails

/-! ### The last entry of a kind -/

variable {wanted : α → Prop}

/-- The last entry in the relation is a wanted one. -/
def AtLast (P : List α → α → Prop) (wanted : α → Prop) (history : List α) : Prop :=
  ∃ before entry after, history = before ++ entry :: after ∧ P before entry ∧ wanted entry ∧
    ∀ between other rest, after = between ++ other :: rest → ¬ P (before ++ entry :: between) other

theorem not_atLast_nil : ¬ AtLast P wanted [] := by
  rintro ⟨before, entry, after, split, -⟩
  exact absurd split.symm (List.append_ne_nil_of_right_ne_nil _ (List.cons_ne_nil _ _))

/-- **One more entry in the relation** is the last. -/
theorem atLast_concat_of (holds : P history entry) :
    AtLast P wanted (history ++ [entry]) ↔ wanted entry := by
  constructor
  · rintro ⟨before, found, after, split, -, wants, last⟩
    rcases List.eq_nil_or_concat' after with rfl | ⟨rest, final, rfl⟩
    · obtain ⟨-, same⟩ := List.append_inj' split rfl
      cases same
      exact wants
    · rw [← List.cons_append, ← List.append_assoc] at split
      obtain ⟨rfl, same⟩ := List.append_inj' split rfl
      cases same
      exact absurd holds (last rest entry [] rfl)
  · intro wants
    exact ⟨history, entry, [], rfl, holds, wants, fun between other rest split =>
      absurd split.symm (List.append_ne_nil_of_right_ne_nil _ (List.cons_ne_nil _ _))⟩

/-- **One more entry outside the relation** changes nothing. -/
theorem atLast_concat_of_not (fails : ¬ P history entry) :
    AtLast P wanted (history ++ [entry]) ↔ AtLast P wanted history := by
  constructor
  · rintro ⟨before, found, after, split, holds, wants, last⟩
    rcases List.eq_nil_or_concat' after with rfl | ⟨rest, final, rfl⟩
    · obtain ⟨rfl, same⟩ := List.append_inj' split rfl
      cases same
      exact absurd holds fails
    · rw [← List.cons_append, ← List.append_assoc] at split
      obtain ⟨rfl, -⟩ := List.append_inj' split rfl
      refine ⟨before, found, rest, rfl, holds, wants, ?_⟩
      rintro between other tail rfl
      exact last between other (tail ++ [final]) (by rw [List.append_assoc, List.cons_append])
  · rintro ⟨before, found, after, rfl, holds, wants, last⟩
    refine ⟨before, found, after ++ [entry], ?_, holds, wants, fun between other rest split => ?_⟩
    · rw [List.append_assoc, List.cons_append]
    · rcases List.eq_nil_or_concat' rest with rfl | ⟨more, final, rfl⟩
      · obtain ⟨rfl, same⟩ := List.append_inj' split rfl
        cases same
        exact fails
      · rw [← List.cons_append, ← List.append_assoc] at split
        obtain ⟨rfl, -⟩ := List.append_inj' split rfl
        exact last between other more rfl

end PioUsbHost.Lib.History
