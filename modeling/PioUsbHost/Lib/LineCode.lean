/-
**Line codes: bit stuffing, and transitions between two levels.**

A stuffing encoder inserts a zero after every run of `limit` ones, so that a receiver never sees more
than `limit` of them; a differential code sends a zero as a change of level and a one as none.

* `unstuff_stuff`: the receiver recovers the bits.
* `stuff_append`: stuffing a concatenation, with the run that the first part leaves open.
* `stuff_ones`: a run that ends the data is followed by its inserted zero too.
* `length_stuff`: the bits on the wire are the data and the inserted zeros (`stuffedZeros`).
* `stuff_of_unstuff`: what the receiver accepts is stuffed, up to a zero missing at its end, and
  `receivedRun_eq_iff` says when that one is missing.
* `transitions_levels`, `levels_transitions`: the changes of level are the bits.
-/

import Mathlib.Data.List.Basic

namespace PioUsbHost.Lib.LineCode

/-! ### Bit stuffing -/

section Stuffing

variable (limit : Nat)

/-- The bits on the wire, when `run` ones have just been sent. -/
def stuff : Nat → List Bool → List Bool
  | _, [] => []
  | _, false :: rest => false :: stuff 0 rest
  | run, true :: rest =>
    if run + 1 = limit then true :: false :: stuff 0 rest else true :: stuff (run + 1) rest

/-- The run of ones that the data leaves open. -/
def openRun : Nat → List Bool → Nat
  | run, [] => run
  | _, false :: rest => openRun 0 rest
  | run, true :: rest => if run + 1 = limit then openRun 0 rest else openRun (run + 1) rest

/-- The receiver drops the bit after `limit` ones, and gives up when it is a one. -/
def unstuff : Nat → List Bool → Option (List Bool)
  | _, [] => some []
  | run, bit :: rest =>
    if run = limit then
      if bit then none else unstuff 0 rest
    else
      (unstuff (if bit then run + 1 else 0) rest).map (bit :: ·)

variable {limit}

/-- **The receiver recovers the bits.** -/
theorem unstuff_stuff {run : Nat} (short : run < limit) (bits : List Bool) :
    unstuff limit run (stuff limit run bits) = some bits := by
  induction bits generalizing run with
  | nil => rfl
  | cons bit rest ih =>
    have differs : ¬ run = limit := by omega
    cases bit with
    | false =>
      rw [stuff, unstuff, if_neg differs, if_neg Bool.false_ne_true, ih (by omega), Option.map_some]
    | true =>
      rw [stuff]
      by_cases full : run + 1 = limit
      · rw [if_pos full, unstuff, if_neg differs, if_pos rfl, full, unstuff, if_pos rfl,
          if_neg Bool.false_ne_true, ih (by omega), Option.map_some]
      · rw [if_neg full, unstuff, if_neg differs, if_pos rfl, ih (by omega), Option.map_some]

/-- **Stuffing a concatenation.** -/
theorem stuff_append (run : Nat) (first second : List Bool) :
    stuff limit run (first ++ second) =
      stuff limit run first ++ stuff limit (openRun limit run first) second := by
  induction first generalizing run with
  | nil => rfl
  | cons bit rest ih =>
    cases bit with
    | false => rw [List.cons_append, stuff, stuff, openRun, ih, List.cons_append]
    | true =>
      rw [List.cons_append, stuff, stuff, openRun]
      split
      · rw [ih, List.cons_append, List.cons_append]
      · rw [ih, List.cons_append]

/-- **A run that completes the limit is followed by its zero**, also when nothing comes after. -/
theorem stuff_ones {run count : Nat} (positive : 0 < count) (full : run + count = limit) :
    stuff limit run (List.replicate count true) = List.replicate count true ++ [false] := by
  induction count generalizing run with
  | zero => omega
  | succ count ih =>
    rw [List.replicate_succ, stuff]
    by_cases last : run + 1 = limit
    · have none : count = 0 := by omega
      subst none
      rw [if_pos last]
      rfl
    · rw [if_neg last, ih (by omega) (by omega), List.cons_append]

/-- The zeros that stuffing inserts, when `run` ones have just been sent. -/
def stuffedZeros (limit : Nat) : Nat → List Bool → Nat
  | _, [] => 0
  | _, false :: rest => stuffedZeros limit 0 rest
  | run, true :: rest =>
    if run + 1 = limit then stuffedZeros limit 0 rest + 1 else stuffedZeros limit (run + 1) rest

/-- **The bits on the wire** are the data and the inserted zeros. -/
theorem length_stuff (run : Nat) (bits : List Bool) :
    (stuff limit run bits).length = bits.length + stuffedZeros limit run bits := by
  induction bits generalizing run with
  | nil => rfl
  | cons bit rest ih =>
    cases bit with
    | false =>
      rw [stuff, stuffedZeros, List.length_cons, List.length_cons, ih]
      omega
    | true =>
      rw [stuff, stuffedZeros]
      split
      · rw [List.length_cons, List.length_cons, List.length_cons, ih]
        omega
      · rw [List.length_cons, List.length_cons, ih]
        omega

end Stuffing

/-! ### What the receiver accepts -/

section Receiver

variable {limit : Nat}

/-- The run of ones the receiver has counted when the bits end. -/
def receivedRun (limit : Nat) : Nat → List Bool → Nat
  | run, [] => run
  | run, bit :: rest =>
    if run = limit then receivedRun limit 0 rest
    else receivedRun limit (if bit then run + 1 else 0) rest

/-- What a sender would still send for `data` after `run` ones, of which the last may have completed
the limit. -/
def toSend (limit run : Nat) (data : List Bool) : List Bool :=
  if run = limit then false :: stuff limit 0 data else stuff limit run data

/-- **What the receiver accepts is stuffed**, but for the zero of a run that ends it. -/
theorem toSend_of_unstuff (positive : 0 < limit) {run : Nat} {bits data : List Bool}
    (accepted : unstuff limit run bits = some data) :
    toSend limit run data =
      bits ++ if receivedRun limit run bits = limit then [false] else [] := by
  have fresh : ∀ rest : List Bool, toSend limit 0 rest = stuff limit 0 rest := by
    intro rest
    rw [toSend, if_neg (by omega)]
  induction bits generalizing run data with
  | nil =>
    cases accepted
    rw [toSend, receivedRun, List.nil_append]
    rfl
  | cons bit rest ih =>
    rw [unstuff] at accepted
    rw [receivedRun, toSend]
    by_cases full : run = limit
    · -- The zero after the limit.
      rw [if_pos full] at accepted ⊢
      rw [if_pos full, List.cons_append]
      cases bit with
      | true =>
        rw [if_pos rfl] at accepted
        cases accepted
      | false =>
        rw [if_neg Bool.false_ne_true] at accepted
        rw [← ih accepted, fresh]
    · rw [if_neg full, Option.map_eq_some_iff] at accepted
      obtain ⟨later, accepted, rfl⟩ := accepted
      rw [if_neg full, if_neg full, List.cons_append, ← ih accepted]
      cases bit with
      | false => rw [stuff, if_neg Bool.false_ne_true, fresh]
      | true =>
        rw [stuff, if_pos rfl, toSend]
        split <;> rfl

/-- From the start, in terms of `stuff`. -/
theorem stuff_of_unstuff (positive : 0 < limit) {bits data : List Bool}
    (accepted : unstuff limit 0 bits = some data) :
    stuff limit 0 data = bits ++ if receivedRun limit 0 bits = limit then [false] else [] := by
  rw [← toSend_of_unstuff positive accepted, toSend, if_neg (by omega)]

/-- A run of ones that ends the bits lies behind the last zero. -/
theorem replicate_suffix_zero_iff (count : Nat) (front back : List Bool) :
    List.replicate count true <:+ front ++ false :: back ↔ List.replicate count true <:+ back := by
  constructor
  · intro ones
    have zero : false :: back <:+ front ++ false :: back := List.suffix_append _ _
    rcases List.suffix_or_suffix_of_suffix ones zero with inside | beyond
    · rcases List.suffix_cons_iff.mp inside with same | inside
      · have first : false ∈ List.replicate count true := by
          rw [same]
          exact List.mem_cons_self
        cases List.eq_of_mem_replicate first
      · exact inside
    · have first : false ∈ List.replicate count true := beyond.subset List.mem_cons_self
      cases List.eq_of_mem_replicate first
  · intro ones
    exact ones.trans ((List.suffix_cons _ _).trans (List.suffix_append _ _))

/-- **When the zero is missing**: the bits the receiver accepts end in a run of `limit` ones. -/
theorem receivedRun_eq_iff_of_run {run : Nat} (short : run ≤ limit) {bits data : List Bool}
    (accepted : unstuff limit run bits = some data) :
    receivedRun limit run bits = limit ↔
      List.replicate limit true <:+ List.replicate run true ++ bits := by
  induction bits generalizing run data with
  | nil =>
    rw [receivedRun, List.append_nil]
    constructor
    · rintro rfl
      exact List.suffix_rfl
    · intro ones
      have length := ones.length_le
      rw [List.length_replicate, List.length_replicate] at length
      omega
  | cons bit rest ih =>
    rw [unstuff] at accepted
    rw [receivedRun]
    by_cases full : run = limit
    · rw [if_pos full] at accepted ⊢
      cases bit with
      | true =>
        rw [if_pos rfl] at accepted
        cases accepted
      | false =>
        rw [if_neg Bool.false_ne_true] at accepted
        rw [ih (Nat.zero_le _) accepted, replicate_suffix_zero_iff]
        rfl
    · rw [if_neg full, Option.map_eq_some_iff] at accepted
      obtain ⟨later, accepted, -⟩ := accepted
      rw [if_neg full]
      cases bit with
      | false =>
        rw [if_neg Bool.false_ne_true] at accepted ⊢
        rw [ih (Nat.zero_le _) accepted, replicate_suffix_zero_iff]
        rfl
      | true =>
        rw [if_pos rfl] at accepted ⊢
        rw [ih (by omega) accepted, List.replicate_succ', List.append_assoc]
        rfl

theorem receivedRun_eq_iff {bits data : List Bool} (accepted : unstuff limit 0 bits = some data) :
    receivedRun limit 0 bits = limit ↔ List.replicate limit true <:+ bits :=
  receivedRun_eq_iff_of_run (Nat.zero_le _) accepted

end Receiver

/-! ### Levels -/

section Levels

variable {Level : Type*} (flip : Level → Level)

/-- The level after a bit. -/
def levelAfter (level : Level) (bit : Bool) : Level := if bit then level else flip level

/-- The levels that send `bits`, from an idle level. -/
def levels : Level → List Bool → List Level
  | _, [] => []
  | level, bit :: rest => levelAfter flip level bit :: levels (levelAfter flip level bit) rest

/-- Where the line stands after sending `bits`. -/
def lastLevel (level : Level) (bits : List Bool) : Level := bits.foldl (levelAfter flip) level

/-- The bits that a sequence of levels sends: whether the level stays. -/
def transitions [DecidableEq Level] : Level → List Level → List Bool
  | _, [] => []
  | previous, level :: rest => decide (level = previous) :: transitions level rest

variable {flip}

/-- **The changes of level are the bits.** -/
theorem transitions_levels [DecidableEq Level] (moves : ∀ level, flip level ≠ level) (level : Level)
    (bits : List Bool) : transitions level (levels flip level bits) = bits := by
  induction bits generalizing level with
  | nil => rfl
  | cons bit rest ih =>
    rw [levels, transitions, ih]
    cases bit with
    | false => rw [show decide (levelAfter flip level false = level) = false from
        decide_eq_false (moves level)]
    | true => rw [show decide (levelAfter flip level true = level) = true from decide_eq_true rfl]

/-- **The bits are the changes of level**, on a line with two of them. -/
theorem levels_transitions [DecidableEq Level]
    (two : ∀ level other : Level, other ≠ level → other = flip level) (level : Level)
    (line : List Level) : levels flip level (transitions level line) = line := by
  induction line generalizing level with
  | nil => rfl
  | cons next rest ih =>
    have reached : levelAfter flip level (decide (next = level)) = next := by
      by_cases same : next = level
      · rw [decide_eq_true same, same]
        rfl
      · rw [decide_eq_false same]
        exact (two level next same).symm
    rw [transitions, levels, reached, ih]

theorem length_levels (level : Level) (bits : List Bool) :
    (levels flip level bits).length = bits.length := by
  induction bits generalizing level with
  | nil => rfl
  | cons bit rest ih => rw [levels, List.length_cons, List.length_cons, ih]

theorem length_transitions [DecidableEq Level] (previous : Level) (line : List Level) :
    (transitions previous line).length = line.length := by
  induction line generalizing previous with
  | nil => rfl
  | cons next rest ih => rw [transitions, List.length_cons, List.length_cons, ih]

/-- The levels of a concatenation. -/
theorem levels_append (level : Level) (first second : List Bool) :
    levels flip level (first ++ second) =
      levels flip level first ++ levels flip (lastLevel flip level first) second := by
  induction first generalizing level with
  | nil => rfl
  | cons bit rest ih =>
    rw [List.cons_append, levels, ih]
    rfl

end Levels

end PioUsbHost.Lib.LineCode
