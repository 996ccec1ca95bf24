/-
**A clock derived from a faster one.**

A component that runs from a divided clock moves in some cycles of the undivided one and holds its
state in the others. `Ticks` lists the cycles in which it moves; `hold` and `hold_first` say that its
state changes nowhere else.

A fractional divider adds 256 to an accumulator in every cycle and ticks when the accumulator passes
the divisor, which is in units of 1/256 (`Divider`). It is a clock of this kind (`Divider.ticks`),
and where a whole number of ticks fills a whole number of cycles, it repeats (`time_add`).
-/

import Mathlib.Order.Monotone.Basic
import Mathlib.Order.Nat
import Mathlib.Data.Nat.Find

namespace PioUsbHost.Lib

/-- The cycles in which a derived clock ticks. -/
structure Ticks where
  enabled : Nat → Bool
  /-- The cycle of each tick. -/
  time : Nat → Nat
  increases : ∀ tick, time tick < time (tick + 1)
  enabled_iff : ∀ cycle, enabled cycle = true ↔ ∃ tick, time tick = cycle

namespace Ticks

variable (ticks : Ticks)

theorem strictMono : StrictMono ticks.time := strictMono_nat_of_lt_succ ticks.increases

theorem enabled_time (tick : Nat) : ticks.enabled (ticks.time tick) = true :=
  (ticks.enabled_iff _).mpr ⟨tick, rfl⟩

/-- Ticks take at least a cycle each. -/
theorem time_add_le (tick count : Nat) : ticks.time tick + count ≤ ticks.time (tick + count) := by
  induction count with
  | zero => exact le_rfl
  | succ count ih => exact Nat.le_trans (Nat.succ_le_succ ih) (ticks.increases (tick + count))

theorem le_time (tick : Nat) : tick ≤ ticks.time tick := by
  have := ticks.time_add_le 0 tick
  rw [Nat.zero_add] at this
  omega

/-- Between two ticks nothing ticks. -/
theorem not_enabled {tick cycle : Nat} (after : ticks.time tick < cycle)
    (before : cycle < ticks.time (tick + 1)) : ticks.enabled cycle = false := by
  refine Bool.not_eq_true _ ▸ fun enabled => ?_
  obtain ⟨other, rfl⟩ := (ticks.enabled_iff cycle).mp enabled
  have later := ticks.strictMono.lt_iff_lt.mp after
  have earlier := ticks.strictMono.lt_iff_lt.mp before
  omega

theorem not_enabled_first {cycle : Nat} (before : cycle < ticks.time 0) :
    ticks.enabled cycle = false := by
  refine Bool.not_eq_true _ ▸ fun enabled => ?_
  obtain ⟨other, rfl⟩ := (ticks.enabled_iff cycle).mp enabled
  exact Nat.not_lt_zero _ (ticks.strictMono.lt_iff_lt.mp before)

/-- The first tick at or after a cycle. -/
def firstFrom (cycle : Nat) : Nat :=
  Nat.find (show ∃ tick, cycle ≤ ticks.time tick from ⟨cycle, ticks.le_time cycle⟩)

theorem firstFrom_le_iff (cycle tick : Nat) : ticks.firstFrom cycle ≤ tick ↔ cycle ≤ ticks.time tick := by
  constructor
  · intro reached
    have found : cycle ≤ ticks.time (ticks.firstFrom cycle) :=
      Nat.find_spec (show ∃ tick, cycle ≤ ticks.time tick from ⟨cycle, ticks.le_time cycle⟩)
    exact found.trans (ticks.strictMono.monotone reached)
  · exact fun reached => Nat.find_min' _ reached

theorem lt_firstFrom_iff (cycle tick : Nat) : tick < ticks.firstFrom cycle ↔ ticks.time tick < cycle := by
  rw [← Nat.not_le, firstFrom_le_iff, Nat.not_le]

section Hold

variable {State : Type*} {state : Nat → State} {ticks}

/-- **The state is held** from one tick to the next. -/
theorem hold (still : ∀ cycle, ticks.enabled cycle = false → state (cycle + 1) = state cycle)
    {tick cycle : Nat} (after : ticks.time tick < cycle) (before : cycle ≤ ticks.time (tick + 1)) :
    state cycle = state (ticks.time tick + 1) := by
  induction cycle with
  | zero => exact absurd after (Nat.not_lt_zero _)
  | succ cycle ih =>
    by_cases first : cycle = ticks.time tick
    · rw [first]
    · have later : ticks.time tick < cycle := by omega
      rw [still cycle (ticks.not_enabled later (by omega)), ih later (by omega)]

/-- **The state is held** until the first tick. -/
theorem hold_first (still : ∀ cycle, ticks.enabled cycle = false → state (cycle + 1) = state cycle)
    {cycle : Nat} (before : cycle ≤ ticks.time 0) : state cycle = state 0 := by
  induction cycle with
  | zero => rfl
  | succ cycle ih => rw [still cycle (ticks.not_enabled_first (by omega)), ih (by omega)]

end Hold

end Ticks

/-! ### The fractional divider -/

/-- A divisor in units of 1/256, of at least one, and the accumulator at cycle zero. -/
structure Divider where
  divisor : Nat
  phase : Nat
  whole : 256 ≤ divisor
  inside : phase < divisor

namespace Divider

variable (divider : Divider)

/-- How many ticks there have been before a cycle. -/
def count (cycle : Nat) : Nat := (256 * cycle + divider.phase) / divider.divisor

/-- The cycle of a tick. -/
def time (tick : Nat) : Nat := ((tick + 1) * divider.divisor - divider.phase - 1) / 256

/-- The divider ticks when its accumulator passes the divisor. -/
def enabled (cycle : Nat) : Bool := decide (divider.count cycle < divider.count (cycle + 1))

/-- A tick comes after `tick` others, and no cycle later. -/
theorem time_eq_iff (tick cycle : Nat) : divider.time tick = cycle ↔
    divider.count cycle = tick ∧ divider.count (cycle + 1) = tick + 1 := by
  have whole := divider.whole
  have inside := divider.inside
  have positive : 0 < divider.divisor := by omega
  unfold time count
  rw [Nat.div_eq_iff positive, Nat.div_eq_iff positive, Nat.div_eq_iff (by decide)]
  have next : (tick + 1) * divider.divisor = tick * divider.divisor + divider.divisor :=
    Nat.succ_mul _ _
  rw [next]
  constructor
  · intro between
    omega
  · intro counts
    omega

/-- The ticks before a cycle are those counted. -/
theorem lt_count_iff (tick cycle : Nat) : divider.time tick < cycle ↔ tick < divider.count cycle := by
  have inside := divider.inside
  have positive : 0 < divider.divisor := by omega
  have first : divider.divisor ≤ (tick + 1) * divider.divisor := Nat.le_mul_of_pos_left _ (by omega)
  unfold time count
  show _ ↔ tick + 1 ≤ _
  rw [Nat.le_div_iff_mul_le positive, Nat.div_lt_iff_lt_mul (by decide)]
  omega

/-- A cycle has at most one tick. -/
theorem count_succ (cycle : Nat) : divider.count (cycle + 1) = divider.count cycle ∨
    divider.count (cycle + 1) = divider.count cycle + 1 := by
  have positive : 0 < divider.divisor := Nat.lt_of_lt_of_le (by decide) divider.whole
  have up : divider.count cycle ≤ divider.count (cycle + 1) :=
    Nat.div_le_div_right (by omega)
  have most : divider.count (cycle + 1) ≤ divider.count cycle + 1 := by
    unfold count
    rw [← Nat.add_div_right _ positive]
    exact Nat.div_le_div_right (by have := divider.whole; omega)
  omega

/-- **The divided clock.** -/
def ticks : Ticks where
  enabled := divider.enabled
  time := divider.time
  increases tick := by
    have whole := divider.whole
    have inside := divider.inside
    have next : (tick + 1 + 1) * divider.divisor =
        (tick + 1) * divider.divisor + divider.divisor := Nat.succ_mul _ _
    have first : divider.divisor ≤ (tick + 1) * divider.divisor := Nat.le_mul_of_pos_left _ (by omega)
    unfold time
    rw [next]
    omega
  enabled_iff cycle := by
    unfold enabled
    rw [decide_eq_true_iff]
    constructor
    · intro passed
      refine ⟨divider.count cycle, (divider.time_eq_iff _ _).mpr ⟨rfl, ?_⟩⟩
      have := divider.count_succ cycle
      omega
    · rintro ⟨tick, time⟩
      obtain ⟨before, after⟩ := (divider.time_eq_iff _ _).mp time
      omega

/-- **The clock repeats** where its ticks fill whole cycles. -/
theorem time_add {cycles count : Nat} (fills : 256 * cycles = count * divider.divisor) (tick : Nat) :
    divider.time (tick + count) = divider.time tick + cycles := by
  have inside := divider.inside
  have later : (tick + count + 1) * divider.divisor = (tick + 1) * divider.divisor + 256 * cycles := by
    rw [fills, ← Nat.add_mul]
    congr 1
    omega
  have first : divider.divisor ≤ (tick + 1) * divider.divisor := Nat.le_mul_of_pos_left _ (by omega)
  unfold time
  rw [later, show (tick + 1) * divider.divisor + 256 * cycles - divider.phase - 1 =
    (tick + 1) * divider.divisor - divider.phase - 1 + 256 * cycles by omega,
    Nat.add_mul_div_left _ _ (by decide)]

/-- Some ticks fill at least the cycles of their divisors. -/
theorem add_le_time {cycles count : Nat} (fit : 256 * cycles ≤ count * divider.divisor) (tick : Nat) :
    divider.time tick + cycles ≤ divider.time (tick + count) := by
  have inside := divider.inside
  have first : divider.divisor ≤ (tick + 1) * divider.divisor := Nat.le_mul_of_pos_left _ (by omega)
  have later : (tick + count + 1) * divider.divisor =
      (tick + 1) * divider.divisor + count * divider.divisor := by
    rw [← Nat.add_mul]
    congr 1
    omega
  unfold time
  rw [later, ← Nat.add_mul_div_left _ _ (by decide)]
  exact Nat.div_le_div_right (by omega)

end Divider

end PioUsbHost.Lib
