/-
**A mutex and the parties that believe to hold it.**

Each party knows from its own program point whether it holds the mutex. `MutexMove` lists what a step
may do to these beliefs and to the owner; `Exclusive.move` says that the beliefs then stay right, so at
most one party holds the mutex.
-/

import Mathlib.Logic.Basic

namespace PioUsbHost.Lib

universe u

variable {ι : Type u} {holds after : ι → Prop} {owner next : Option ι}

/-- Only the owner believes to hold the mutex. -/
def Exclusive (holds : ι → Prop) (owner : Option ι) : Prop :=
  ∀ party, holds party → owner = some party

theorem Exclusive.unique (exclusive : Exclusive holds owner) {first second : ι}
    (one : holds first) (other : holds second) : first = second :=
  Option.some.inj ((exclusive first one).symm.trans (exclusive second other))

/-- What a step may do: nobody takes the mutex, one party takes the free mutex, or a holder lets go. -/
inductive MutexMove (holds after : ι → Prop) : Option ι → Option ι → Prop where
  | keep (owner : Option ι) (same : ∀ party, after party → holds party) :
      MutexMove holds after owner owner
  | acquire (party : ι) (others : ∀ other, after other → other = party ∨ holds other) :
      MutexMove holds after none (some party)
  | release (owner : Option ι) (party : ι) (held : holds party)
      (others : ∀ other, after other → holds other ∧ other ≠ party) :
      MutexMove holds after owner none

/-- **Mutual exclusion, one step.** -/
theorem Exclusive.move (exclusive : Exclusive holds owner)
    (move : MutexMove holds after owner next) : Exclusive after next := by
  intro party believes
  cases move with
  | keep _ same => exact exclusive party (same party believes)
  | acquire taker others =>
    rcases others party believes with rfl | held
    · rfl
    · exact absurd (exclusive party held) nofun
  | release _ holder held others =>
    obtain ⟨stillHeld, different⟩ := others party believes
    exact absurd (exclusive.unique stillHeld held) different

end PioUsbHost.Lib
