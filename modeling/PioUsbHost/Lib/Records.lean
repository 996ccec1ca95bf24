/-
**Cutting a list into records that say where they end.**

A reader takes the first record off a list, or says what is wrong with the list's front. Reading again
and again cuts the list into records (`Cut`), up to its end or up to a front that no record starts.

* `exists_cut`, `Cut.unique`: every list is cut, in one way.
* `Cut.split`: the records are the front of the list, and what is behind them is nothing, or is where
  the reader fails.
* `Cut.length_le`: how many records there can be.
* `Iterates.nth_eq`, `Iterates.collect_eq`: an iterator over the records yields them, then the error,
  then nothing.
-/

import Mathlib.Data.List.Basic
import PioUsbHost.Lib.Calls

namespace PioUsbHost.Lib.Records

open PioUsbHost.Lib.Calls

universe u v w

variable {α : Type u} {ε : Type v} {read : List α → Except ε (List α)}

/-! ### Cuts -/

/-- What the reader takes is the front of the list, and not empty. -/
structure TakesFront (read : List α → Except ε (List α)) : Prop where
  front : ∀ {left record}, read left = .ok record → ∃ behind, left = record ++ behind
  nonempty : ∀ {left record}, read left = .ok record → record ≠ []

/-- Reading again and again takes the records off the list, and ends with it or with an error. -/
inductive Cut (read : List α → Except ε (List α)) :
    List α → List (List α) → Option ε → Prop where
  | ended : Cut read [] [] none
  | stopped {left : List α} {error : ε} (nonempty : left ≠ []) (fails : read left = .error error) :
      Cut read left [] (some error)
  | record {left record behind : List α} {records : List (List α)} {verdict : Option ε}
      (reads : read left = .ok record) (split : left = record ++ behind)
      (more : Cut read behind records verdict) : Cut read left (record :: records) verdict

/-- The records and the error, one after the other. -/
def cutItems (records : List (List α)) (verdict : Option ε) : List (Except ε (List α)) :=
  records.map .ok ++ (verdict.map .error).toList

theorem length_cutItems (records : List (List α)) (verdict : Option ε) :
    (cutItems records verdict).length = records.length + verdict.toList.length := by
  cases verdict <;> simp [cutItems]

section Cut

variable {left : List α} {records others : List (List α)} {verdict other : Option ε}

/-- Every list is cut. -/
theorem exists_cut (takes : TakesFront read) (left : List α) :
    ∃ records verdict, Cut read left records verdict := by
  by_cases empty : left = []
  · exact ⟨[], none, empty ▸ .ended⟩
  · cases reads : read left with
    | error error => exact ⟨[], some error, .stopped empty reads⟩
    | ok record =>
      obtain ⟨behind, split⟩ := takes.front reads
      have shorter : behind.length < left.length := by
        have some := List.length_pos_iff.mpr (takes.nonempty reads)
        rw [split, List.length_append]
        omega
      obtain ⟨records, verdict, cut⟩ := exists_cut takes behind
      exact ⟨record :: records, verdict, .record reads split cut⟩
  termination_by left.length

/-- **In one way only.** -/
theorem Cut.unique (takes : TakesFront read) (first : Cut read left records verdict)
    (second : Cut read left others other) : records = others ∧ verdict = other := by
  induction first generalizing others other with
  | ended =>
    cases second with
    | ended => exact ⟨rfl, rfl⟩
    | stopped nonempty => exact absurd rfl nonempty
    | record reads split =>
      exact absurd (List.append_eq_nil_iff.mp split.symm).1 (takes.nonempty reads)
  | stopped nonempty fails =>
    cases second with
    | ended => exact absurd rfl nonempty
    | stopped _ fails' =>
      cases fails.symm.trans fails'
      exact ⟨rfl, rfl⟩
    | record reads => cases fails.symm.trans reads
  | record reads split more ih =>
    cases second with
    | ended => exact absurd (List.append_eq_nil_iff.mp split.symm).1 (takes.nonempty reads)
    | stopped _ fails => cases reads.symm.trans fails
    | record reads' split' more' =>
      cases reads.symm.trans reads'
      cases List.append_cancel_left (split.symm.trans split')
      obtain ⟨rfl, rfl⟩ := ih more'
      exact ⟨rfl, rfl⟩

/-- What is behind the records: nothing, or a front at which the reader fails. -/
def Stops (read : List α → Except ε (List α)) (behind : List α) : Option ε → Prop
  | none => behind = []
  | some error => behind ≠ [] ∧ read behind = .error error

/-- **The records are the front of the list**, and the cut stops behind them. -/
theorem Cut.split (cut : Cut read left records verdict) :
    ∃ behind, left = records.flatten ++ behind ∧ Stops read behind verdict := by
  induction cut with
  | ended => exact ⟨[], rfl, rfl⟩
  | stopped nonempty fails => exact ⟨_, rfl, nonempty, fails⟩
  | record reads split more ih =>
    obtain ⟨behind, rfl, stops⟩ := ih
    exact ⟨behind, by rw [split, List.flatten_cons, List.append_assoc], stops⟩

/-- Every record has been read. -/
theorem Cut.reads (cut : Cut read left records verdict) :
    ∀ record ∈ records, ∃ left, read left = .ok record := by
  induction cut with
  | ended => exact fun record member => nomatch member
  | stopped => exact fun record member => nomatch member
  | record reads _ _ ih => exact List.forall_mem_cons.mpr ⟨⟨_, reads⟩, ih⟩

/-- **How many records**, when each has some length, and an error takes at least one element. -/
theorem Cut.length_le {least : Nat} (cut : Cut read left records verdict)
    (long : ∀ record ∈ records, least ≤ record.length) :
    least * records.length + verdict.toList.length ≤ left.length := by
  induction cut with
  | ended => exact Nat.le_refl 0
  | stopped nonempty => exact List.length_pos_iff.mpr nonempty
  | record _ split _ ih =>
    obtain ⟨here, later⟩ := List.forall_mem_cons.mp long
    have behind := ih later
    rw [split, List.length_append, List.length_cons, Nat.mul_succ]
    omega

theorem Cut.length_cutItems_le (takes : TakesFront read) (cut : Cut read left records verdict) :
    (cutItems records verdict).length ≤ left.length := by
  have long : ∀ record ∈ records, 1 ≤ record.length := by
    intro record member
    obtain ⟨left, reads⟩ := cut.reads record member
    exact List.length_pos_iff.mpr (takes.nonempty reads)
  rw [length_cutItems, ← Nat.one_mul records.length]
  exact cut.length_le long

end Cut

/-! ### Iterators -/

variable {ι : Type w} {next : Next ι (Except ε (List α))} {Inv Over : ι → Prop}
  {left : ι → List α}

/-- The iterator takes the records off what is left. When that is nothing, or after an error, it is
over and stays so. -/
structure Iterates (next : Next ι (Except ε (List α))) (read : List α → Except ε (List α))
    (Inv Over : ι → Prop) (left : ι → List α) : Prop where
  stays : ∀ {iter}, Over iter → next iter = (none, iter)
  ended : ∀ {iter}, Inv iter → left iter = [] → Over iter
  stops : ∀ {iter error}, Inv iter → left iter ≠ [] → read (left iter) = .error error →
    ∃ rest, next iter = (some (.error error), rest) ∧ Over rest
  takes : ∀ {iter record}, Inv iter → read (left iter) = .ok record →
    ∃ rest, next iter = (some (.ok record), rest) ∧ Inv rest ∧ left iter = record ++ left rest

section Iterates

variable {iter : ι} {records : List (List α)} {verdict : Option ε}

theorem Iterates.nth_of_over (iterates : Iterates next read Inv Over left) (finished : Over iter)
    (calls : Nat) : nth next calls iter = none := by
  induction calls with
  | zero => rw [nth, after, iterates.stays finished]
  | succ calls ih =>
    rw [nth, after, iterates.stays finished]
    exact ih

/-- **Every call.** -/
theorem Iterates.nth_eq (iterates : Iterates next read Inv Over left) (inv : Inv iter)
    (cut : Cut read (left iter) records verdict) (calls : Nat) :
    nth next calls iter = (cutItems records verdict)[calls]? := by
  generalize here : left iter = before at cut
  induction cut generalizing iter calls with
  | ended => exact iterates.nth_of_over (iterates.ended inv here) calls
  | stopped nonempty fails =>
    subst here
    obtain ⟨rest, called, finished⟩ := iterates.stops inv nonempty fails
    cases calls with
    | zero =>
      rw [nth, after, called]
      rfl
    | succ calls =>
      rw [nth, after, called]
      exact iterates.nth_of_over finished calls
  | record reads split more ih =>
    subst here
    obtain ⟨rest, called, inv, taken⟩ := iterates.takes inv reads
    have same : left rest = _ := List.append_cancel_left (taken.symm.trans split)
    cases calls with
    | zero =>
      rw [nth, after, called]
      rfl
    | succ calls =>
      rw [nth, after, called]
      exact ih inv calls same

/-- **What the calls have taken off.** -/
theorem Iterates.taken (iterates : Iterates next read Inv Over left) (inv : Inv iter)
    (cut : Cut read (left iter) records verdict) {calls : Nat} (yielded : calls ≤ records.length) :
    Inv (after next calls iter) ∧
      left iter = (records.take calls).flatten ++ left (after next calls iter) := by
  generalize here : left iter = before at cut
  induction cut generalizing iter calls with
  | ended =>
    cases Nat.le_zero.mp yielded
    exact ⟨inv, here.symm⟩
  | stopped =>
    cases Nat.le_zero.mp yielded
    exact ⟨inv, here.symm⟩
  | record reads split more ih =>
    subst here
    cases calls with
    | zero => exact ⟨inv, rfl⟩
    | succ calls =>
      obtain ⟨rest, called, inv, taken⟩ := iterates.takes inv reads
      have same : left rest = _ := List.append_cancel_left (taken.symm.trans split)
      obtain ⟨onward, off⟩ := ih inv (Nat.le_of_succ_le_succ yielded) same
      rw [after, called]
      exact ⟨onward, by rw [split, off, List.take_succ_cons, List.flatten_cons, List.append_assoc]⟩

/-- **Enough calls** collect everything. -/
theorem Iterates.collect_eq (iterates : Iterates next read Inv Over left) (inv : Inv iter)
    (cut : Cut read (left iter) records verdict) {calls : Nat}
    (enough : (cutItems records verdict).length ≤ calls) :
    collect next calls iter = cutItems records verdict :=
  collect_eq_of_nth (iterates.nth_eq inv cut) enough

end Iterates

end PioUsbHost.Lib.Records
