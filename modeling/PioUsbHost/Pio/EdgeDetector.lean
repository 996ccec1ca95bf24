/-
**The edge detector is a loop locked to the edges of its pin.**

The program counts eight ticks a bit, in one of two loops: one for a low pin, which looks for a rising
edge in six of its ticks, and one for a high pin, which looks once. `EdgePhase` is where it stands,
with the count of the ticks since its last sample flag; a rising edge sets that count back so that the
next flag comes three ticks after it.
-/

import Mathlib.Tactic.IntervalCases
import PioUsbHost.Pio.RxProgram
import PioUsbHost.Usb.Nrzi

namespace PioUsbHost.Pio

open PioUsbHost.Lib.PioInput PioUsbHost.Usb
open PioUsbHost.Lib.PioMachine (Word)

/-! ### Where the program stands -/

/-- `low` and `high` count the ticks since the last sample flag; `sample` is the data pin as the high
loop has last read it. -/
inductive EdgePhase where
  | waiting
  | starting (second : Bool)
  | low (phase : Nat)
  | turning
  | high (phase : Nat) (sample : Bool)
  | ending
  | parked
  deriving DecidableEq

namespace EdgePhase

/-- A tick, with the pin it jumps on and the data pin; `held` says that the end-of-packet flag is
still set. -/
def next (held data edge : Bool) : EdgePhase → EdgePhase
  | waiting => if edge then waiting else starting false
  | starting second => if second then low 0 else starting true
  | low phase => if 2 ≤ phase ∧ edge then high 6 false else low ((phase + 1) % 8)
  | turning => low 3
  | high phase sample =>
    if phase = 1 then if edge then high 2 sample else turning
    else if phase = 5 then if sample then ending else high 6 false
    else if phase = 7 then high 0 data
    else high (phase + 1) sample
  | ending => parked
  | parked => if held then parked else waiting

/-- The flag a tick raises. -/
def raises : EdgePhase → Option Nat
  | starting false => some 3
  | low 0 => some 4
  | high 0 _ => some 4
  | ending => some 2
  | _ => none

/-- Where the program stands in a phase. -/
def pc : EdgePhase → Nat
  | waiting => 16
  | starting second => if second then 18 else 17
  | low phase => if phase = 0 then 18 else if phase = 1 then 19 else 17 + phase
  | turning => 31
  | high phase _ => if phase < 2 then 29 + phase else if phase = 2 then 25 else
      if phase < 6 then 26 else 21 + phase
  | ending => 15
  | parked => 15

/-- The delay cycles left. -/
def delay : EdgePhase → Nat
  | starting second => if second then 1 else 0
  | low phase => if phase = 1 then 1 else 0
  | high phase _ => if phase = 3 then 2 else if phase = 4 then 1 else 0
  | _ => 0

/-- What the registers hold where they matter. -/
def Registers (machine : Machine) : EdgePhase → Prop
  | low phase => phase < 8
  | high phase sample => phase < 8 ∧
      (phase < 3 → machine.isr = if sample then 1 else 0) ∧
      (2 < phase ∧ phase < 6 → machine.x = if sample then 1 else 0) ∧
      (phase = 7 → machine.isr = 0)
  | _ => True

/-- The machine stands at a phase. -/
structure Stands (phase : EdgePhase) (machine : Machine) : Prop where
  pc : machine.pc = phase.pc
  delay : machine.delay = phase.delay
  waiting : machine.waiting = decide (phase = parked)
  registers : phase.Registers machine

/-! ### The program runs through the phases -/

section Refinement

variable {machine : Machine} {inputs : Inputs}

/-- What the machine does in a cycle to follow a phase. -/
def Follows (inputs : Inputs) (phase : EdgePhase) (machine : Machine) : Prop :=
  (phase.next (inputs.irqs 2) inputs.inPin inputs.jumpPin).Stands
      (cycle detectorConfig inputs machine).1 ∧
    (cycle detectorConfig inputs machine).2 =
      { raised := phase.raises, cleared := none, pushed := none }

theorem program_at_edge {pc : Nat} {instr : Instr} (here : machine.pc = pc)
    (found : rxProgram[pc]? = some instr) : detectorConfig.program machine.pc = some instr :=
  here ▸ found

theorem nextPc_of_edge {pc : Nat} (here : machine.pc = pc) :
    machine.nextPc detectorConfig = if pc = 24 then 18 else pc + 1 := by
  unfold Machine.nextPc
  rw [here]
  rfl

theorem registers_low {phase : Nat} (inside : phase < 8) : (low phase).Registers machine := inside

/-- The high loop keeps nothing but the registers of its phase. -/
theorem registers_high {phase : Nat} {sample : Bool} (inside : phase < 8)
    (isr : phase < 3 → machine.isr = if sample then 1 else 0)
    (x : 2 < phase ∧ phase < 6 → machine.x = if sample then 1 else 0)
    (cleared : phase = 7 → machine.isr = 0) : (high phase sample).Registers machine :=
  ⟨inside, isr, x, cleared⟩

/-- Entering the high loop at its first instruction asks nothing of the registers. -/
theorem registers_high_six (sample : Bool) : (high 6 sample).Registers machine :=
  registers_high (by decide) (fun early => absurd early (by decide))
    (fun middle => absurd middle (by decide)) (fun last => absurd last (by decide))

/-- The low loop: a flag and its delay, and six looks at the pin. -/
theorem Stands.follows_low {phase : Nat} (stands : (low phase).Stands machine) :
    Follows inputs (low phase) machine := by
  obtain ⟨here, idle, awake, inside⟩ := stands
  have bound : phase < 8 := inside
  unfold Follows
  by_cases flag : phase = 0
  · subst flag
    rw [cycle_instr idle (program_at_edge here rfl)]
    exact ⟨⟨nextPc_of_edge here, rfl, awake, registers_low (by decide)⟩, rfl⟩
  by_cases second : phase = 1
  · subst second
    rw [cycle_delay idle]
    exact ⟨⟨here, rfl, awake, registers_low (by decide)⟩, rfl⟩
  have pc : machine.pc = 17 + phase := here.trans ((if_neg flag).trans (if_neg second))
  have looks : rxProgram[17 + phase]? = some { op := .jmp .pin 27, delay := 0 } := by
    interval_cases phase <;> first | rfl | contradiction
  have still : machine.delay = 0 := idle.trans (if_neg second)
  have quiet : (low phase).raises = none := by
    cases phase with
    | zero => exact absurd rfl flag
    | succ phase => rfl
  rw [quiet]
  cases edge : inputs.jumpPin with
  | true =>
    rw [cycle_jmp_taken still (program_at_edge pc looks) edge, next, if_pos ⟨by omega, rfl⟩]
    exact ⟨⟨rfl, rfl, awake, registers_high_six false⟩, rfl⟩
  | false =>
    rw [cycle_jmp_passed still (program_at_edge pc looks) edge, next,
      if_neg fun both => Bool.false_ne_true both.2]
    refine ⟨⟨(nextPc_of_edge pc).trans ?_, ?_, awake, registers_low (Nat.mod_lt _ (by decide))⟩, rfl⟩
    · interval_cases phase <;> first | rfl | contradiction
    · interval_cases phase <;> first | rfl | contradiction

/-- The high loop: a flag, a look at the pin, a look at the last sample, and the next sample. -/
theorem Stands.follows_high {phase : Nat} {sample : Bool} (stands : (high phase sample).Stands machine) :
    Follows inputs (high phase sample) machine := by
  obtain ⟨here, idle, awake, inside, isr, x, cleared⟩ := stands
  unfold Follows
  interval_cases phase
  · -- `irq 4`
    rw [cycle_instr idle (program_at_edge here rfl)]
    refine ⟨⟨nextPc_of_edge here, rfl, awake, registers_high (by decide) (fun _ => isr (by decide))
      (fun middle => absurd middle (by decide)) (fun last => absurd last (by decide))⟩, rfl⟩
  · -- `jmp pin pin_still_high`
    cases edge : inputs.jumpPin with
    | true =>
      rw [cycle_jmp_taken idle (program_at_edge here rfl) edge]
      refine ⟨⟨rfl, rfl, awake, registers_high (by decide) (fun _ => isr (by decide))
        (fun middle => absurd middle (by decide)) (fun last => absurd last (by decide))⟩, rfl⟩
    | false =>
      rw [cycle_jmp_passed idle (program_at_edge here rfl) edge]
      exact ⟨⟨nextPc_of_edge here, rfl, awake, trivial⟩, rfl⟩
  · -- `mov x, isr [2]`
    rw [cycle_instr idle (program_at_edge here rfl)]
    refine ⟨⟨nextPc_of_edge here, rfl, awake, registers_high (by decide)
      (fun early => absurd early (by decide)) (fun _ => isr (by decide))
      (fun last => absurd last (by decide))⟩, rfl⟩
  · rw [cycle_delay idle]
    refine ⟨⟨here, rfl, awake, registers_high (by decide) (fun early => absurd early (by decide))
      (fun _ => x (by decide)) (fun last => absurd last (by decide))⟩, rfl⟩
  · rw [cycle_delay idle]
    refine ⟨⟨here, rfl, awake, registers_high (by decide) (fun early => absurd early (by decide))
      (fun _ => x (by decide)) (fun last => absurd last (by decide))⟩, rfl⟩
  · -- `jmp x-- eop`
    have held := x (by decide)
    cases sample with
    | true =>
      rw [cycle_jmp_taken idle (program_at_edge here rfl) (by
        rw [Machine.holds, held]
        decide)]
      exact ⟨⟨rfl, rfl, awake, trivial⟩, rfl⟩
    | false =>
      rw [cycle_jmp_passed idle (program_at_edge here rfl) (by
        rw [Machine.holds, held]
        decide)]
      exact ⟨⟨nextPc_of_edge here, rfl, awake, registers_high_six false⟩, rfl⟩
  · -- `mov isr, null`
    rw [cycle_instr idle (program_at_edge here rfl)]
    refine ⟨⟨nextPc_of_edge here, rfl, awake, registers_high (by decide)
      (fun early => absurd early (by decide)) (fun middle => absurd middle (by decide))
      (fun _ => rfl)⟩, rfl⟩
  · -- `in pins, 1`
    rw [cycle_shiftIn idle (program_at_edge here rfl) rfl]
    refine ⟨⟨nextPc_of_edge here, rfl, awake, registers_high (by decide) (fun _ => ?_)
      (fun middle => absurd middle (by decide)) (fun last => absurd last (by decide))⟩, rfl⟩
    show machine.isr <<< 1 ||| (if inputs.inPin then 1 else 0) = _
    rw [cleared rfl]
    cases inputs.inPin <;> decide

/-- **The program runs through the phases**, raising their flags and touching nothing else. -/
theorem Stands.follows {phase : EdgePhase} (stands : phase.Stands machine) :
    Follows inputs phase machine := by
  cases phase with
  | low phase => exact stands.follows_low
  | high phase sample => exact stands.follows_high
  | waiting =>
    obtain ⟨here, idle, awake, -⟩ := stands
    unfold Follows
    cases edge : inputs.jumpPin with
    | true =>
      rw [cycle_jmp_taken idle (program_at_edge here rfl) edge]
      exact ⟨⟨rfl, rfl, awake, trivial⟩, rfl⟩
    | false =>
      rw [cycle_jmp_passed idle (program_at_edge here rfl) edge]
      exact ⟨⟨nextPc_of_edge here, rfl, awake, trivial⟩, rfl⟩
  | starting second =>
    obtain ⟨here, idle, awake, -⟩ := stands
    unfold Follows
    cases second with
    | false =>
      rw [cycle_instr idle (program_at_edge here rfl)]
      exact ⟨⟨nextPc_of_edge here, rfl, awake, trivial⟩, rfl⟩
    | true =>
      rw [cycle_delay idle]
      exact ⟨⟨here, rfl, awake, registers_low (by decide)⟩, rfl⟩
  | turning =>
    obtain ⟨here, idle, awake, -⟩ := stands
    unfold Follows
    rw [cycle_instr idle (program_at_edge here rfl)]
    exact ⟨⟨rfl, rfl, awake, registers_low (by decide)⟩, rfl⟩
  | ending =>
    obtain ⟨here, idle, awake, -⟩ := stands
    unfold Follows
    rw [cycle_irqWait_raise idle (program_at_edge here rfl) awake]
    exact ⟨⟨here, idle, rfl, trivial⟩, rfl⟩
  | parked =>
    obtain ⟨here, idle, stalled, -⟩ := stands
    unfold Follows
    cases held : inputs.irqs 2 with
    | true =>
      rw [cycle_irqWait_stall idle (program_at_edge here rfl) stalled held]
      exact ⟨⟨here, idle, stalled, trivial⟩, rfl⟩
    | false =>
      rw [cycle_irqWait_pass idle (program_at_edge here rfl) stalled held]
      exact ⟨⟨nextPc_of_edge here, rfl, rfl, trivial⟩, rfl⟩

end Refinement

end EdgePhase

end PioUsbHost.Pio
