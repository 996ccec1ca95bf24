/-
**A register behind an unreliable channel.**

A write that is confirmed has been made. One that is not confirmed was made, or was lost.

* `Write.leaves_sound`: what the register holds is among what one write more leaves possible.
* `possible_confirmed`: behind a confirmed write, that is the value written.
-/

import Mathlib.Data.Set.Insert

namespace PioUsbHost.Lib.Register

universe u

/-- A write, by what its sender knows of it. -/
inductive Write (α : Type u) where
  | confirmed (value : α)
  | tried (value : α)

variable {α : Type u} {before after : α} {held : Set α} {write : Write α}

/-- What a write makes of the register. -/
def Write.Makes (before after : α) : Write α → Prop
  | .confirmed value => after = value
  | .tried value => after = value ∨ after = before

/-- What the register may hold after a write. -/
def Write.leaves (held : Set α) : Write α → Set α
  | .confirmed value => {value}
  | .tried value => insert value held

/-- What the register may hold after a history of writes. -/
def possible (held : Set α) (history : List (Write α)) : Set α :=
  history.foldl Write.leaves held

/-- **One write more.** -/
theorem Write.leaves_sound (inside : before ∈ held) (makes : write.Makes before after) :
    after ∈ write.leaves held := by
  cases write with
  | confirmed value => exact makes
  | tried value =>
    rcases makes with made | lost
    · exact Or.inl made
    · exact Or.inr (lost.symm ▸ inside)

theorem possible_append (held : Set α) (early late : List (Write α)) :
    possible held (early ++ late) = possible (possible held early) late :=
  List.foldl_append

/-- **Behind a confirmed write**, whatever was before it. -/
theorem possible_confirmed (held : Set α) (early : List (Write α)) (value : α) :
    possible held (early ++ [.confirmed value]) = {value} :=
  possible_append held early [.confirmed value]

end PioUsbHost.Lib.Register
