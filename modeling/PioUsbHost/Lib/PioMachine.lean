/-
**A programmable-I/O state machine driving two pins.**

The transmit half of the RP2040's PIO: a program of sixteen-bit words, two scratch registers, an
output shift register refilled from a FIFO by autopull, optional two-bit side-set, delays, and
interrupt flags to signal and to wait on. One `cycle` is one tick of the state machine's clock.

* An instruction's side-set takes effect in its first cycle, also when it stalls; its delay cycles
  follow once it completes.
* Autopull refills an exhausted OSR in every cycle, in an `out` cycle after the shift. An `out` that
  finds the OSR exhausted stalls.
* `irq wait` raises its flag, and stalls until someone else clears it.

Two facts hold of any program. Feeding the FIFO while the program runs is the same as filling it
beforehand, as long as it never runs empty early (`fed_push`); and exchanging the two pins in the
program exchanges them in the run (`cycle_swap`).
-/

import Mathlib.Data.BitVec
import Mathlib.Logic.Function.Iterate

namespace PioUsbHost.Lib.PioMachine

/-! ### Instructions -/

/-- The state of a pin pair; `first` is the lower-numbered pin. -/
@[ext] structure Pins where
  first : Bool
  second : Bool
  deriving DecidableEq, Repr

namespace Pins

/-- Both pins high, or both driven. -/
def both : Pins := ⟨true, true⟩

/-- Neither of them. -/
def neither : Pins := ⟨false, false⟩

/-- Two bits of a value, the low one for the first pin. -/
def ofValue (value : Nat) : Pins := ⟨value.testBit 0, value.testBit 1⟩

/-- The two pins exchanged. -/
def swap (pins : Pins) : Pins := ⟨pins.second, pins.first⟩

end Pins

/-- The conditions of a jump. -/
inductive Condition where
  | always
  | notX
  | xPostDec
  | notY
  | yPostDec
  | xNeY
  | notOsre
  deriving DecidableEq, Repr

/-- Where an `out` shifts to. -/
inductive OutDest where
  | x
  | y
  | null
  deriving DecidableEq, Repr

/-- The instructions of the transmitting programs. -/
inductive Op where
  | jmp (condition : Condition) (target : Nat)
  | out (dest : OutDest) (count : Nat)
  /-- `mov y, y`. -/
  | nop
  | irq (index : Nat)
  | irqWait (index : Nat)
  | setX (value : Nat)
  | setY (value : Nat)
  | setPins (pins : Pins)
  | setPindirs (dirs : Pins)
  deriving DecidableEq, Repr

/-- An instruction with its side-set and its delay. -/
structure Instr where
  op : Op
  side : Option Pins
  delay : Nat
  deriving DecidableEq, Repr

/-! ### Decoding, for `.side_set 2 opt` -/

/-- The condition field of a jump. -/
def decodeCondition : Nat → Option Condition
  | 0 => some .always
  | 1 => some .notX
  | 2 => some .xPostDec
  | 3 => some .notY
  | 4 => some .yPostDec
  | 5 => some .xNeY
  | 7 => some .notOsre
  | _ => none

/-- The fields of an `out`; no count stands for 32. -/
def decodeOut (dest count : Nat) : Option Op :=
  let shifts := if count = 0 then 32 else count
  match dest with
  | 1 => some (.out .x shifts)
  | 2 => some (.out .y shifts)
  | 3 => some (.out .null shifts)
  | _ => none

/-- The fields of a `set`. -/
def decodeSet (dest value : Nat) : Option Op :=
  match dest with
  | 0 => some (.setPins (Pins.ofValue value))
  | 1 => some (.setX value)
  | 2 => some (.setY value)
  | 4 => some (.setPindirs (Pins.ofValue value))
  | _ => none

/-- The operation of a word: its major opcode, and the two argument fields of its low byte. -/
def decodeOp (opcode first second : Nat) : Option Op :=
  match opcode with
  | 0 => (decodeCondition first).map (.jmp · second)
  | 3 => decodeOut first second
  | 5 => if first = 2 ∧ second = 2 then some .nop else none
  | 6 =>
    if 8 ≤ second then none
    else if first = 0 then some (.irq second)
    else if first = 1 then some (.irqWait second)
    else none
  | 7 => decodeSet first second
  | _ => none

/-- A word of the program. Bit 12 enables the side-set of bits 10 and 11; bits 8 and 9 are the
delay. Words outside the subset modelled here decode to nothing. -/
def decode (word : UInt16) : Option Instr :=
  let bits := word.toNat
  (decodeOp (bits / 2 ^ 13) (bits / 2 ^ 5 % 8) (bits % 2 ^ 5)).map fun op =>
    { op
      side := if bits.testBit 12 then some (Pins.ofValue (bits / 2 ^ 10)) else none
      delay := bits / 2 ^ 8 % 4 }

/-! ### The machine -/

/-- The FIFO's words, and the scratch registers. -/
abbrev Word := BitVec 32

@[ext] structure Machine where
  pc : Nat
  x : Word
  y : Word
  osr : Word
  /-- How many bits have been shifted out of the OSR. -/
  osrCount : Nat
  /-- Delay cycles still to come. -/
  delay : Nat
  /-- An `irq wait` has raised its flag and stalls. -/
  waiting : Bool
  irqs : Nat → Bool
  pins : Pins
  dirs : Pins
  fifo : List Word

/-- The program and the settings of the state machine, with autopull, shifting right. -/
@[ext] structure Config where
  program : Nat → Option Instr
  wrapTop : Nat
  wrapBottom : Nat
  pullThreshold : Nat

/-- Autopull. -/
def Machine.refill (config : Config) (machine : Machine) : Machine :=
  match machine.fifo with
  | [] => machine
  | word :: rest =>
    if config.pullThreshold ≤ machine.osrCount then
      { machine with osr := word, osrCount := 0, fifo := rest }
    else machine

/-- Completing an instruction at `pc`. -/
def Machine.complete (machine : Machine) (pc delay : Nat) : Machine := { machine with pc, delay }

/-- The address after the current one, around the wrap. -/
def Machine.nextPc (config : Config) (machine : Machine) : Nat :=
  if machine.pc = config.wrapTop then config.wrapBottom else machine.pc + 1

/-- Whether a jump is taken. -/
def Machine.holds (config : Config) (machine : Machine) : Condition → Bool
  | .always => true
  | .notX => machine.x == 0
  | .xPostDec => machine.x != 0
  | .notY => machine.y == 0
  | .yPostDec => machine.y != 0
  | .xNeY => machine.x != machine.y
  | .notOsre => decide (machine.osrCount < config.pullThreshold)

/-- The decrement of `x--` and `y--`, taken or not. -/
def Machine.postDec (machine : Machine) : Condition → Machine
  | .xPostDec => { machine with x := machine.x - 1 }
  | .yPostDec => { machine with y := machine.y - 1 }
  | _ => machine

/-- The bits an `out` moves. -/
def Machine.output (machine : Machine) (dest : OutDest) (count : Nat) : Machine :=
  let bits := machine.osr &&& (BitVec.ofNat 32 (2 ^ count - 1))
  let shifted :=
    { machine with osr := machine.osr >>> count, osrCount := min 32 (machine.osrCount + count) }
  match dest with
  | .x => { shifted with x := bits }
  | .y => { shifted with y := bits }
  | .null => shifted

/-- The first cycle of an instruction, or another cycle of its stall. -/
def Machine.execute (config : Config) (instr : Instr) (machine : Machine) : Machine :=
  let done (machine : Machine) : Machine :=
    (machine.complete (machine.nextPc config) instr.delay).refill config
  match instr.op with
  | .jmp condition target =>
    if machine.holds config condition then
      ((machine.postDec condition).complete target instr.delay).refill config
    else done (machine.postDec condition)
  | .out dest count =>
    if config.pullThreshold ≤ machine.osrCount then machine.refill config
    else done (machine.output dest count)
  | .nop => done machine
  | .irq index => done { machine with irqs := Function.update machine.irqs index true }
  | .irqWait index =>
    if !machine.waiting then
      ({ machine with irqs := Function.update machine.irqs index true, waiting := true }).refill
        config
    else if machine.irqs index then machine.refill config
    else done { machine with waiting := false }
  | .setX value => done { machine with x := BitVec.ofNat 32 value }
  | .setY value => done { machine with y := BitVec.ofNat 32 value }
  | .setPins pins => done { machine with pins }
  | .setPindirs dirs => done { machine with dirs }

/-- The side-set of an instruction. -/
def Machine.sideSet (machine : Machine) (side : Option Pins) : Machine :=
  { machine with pins := side.getD machine.pins }

/-- **One tick of the clock.** -/
def cycle (config : Config) (machine : Machine) : Machine :=
  if machine.delay ≠ 0 then ({ machine with delay := machine.delay - 1 }).refill config
  else
    match config.program machine.pc with
    | none => machine
    | some instr => (machine.sideSet instr.side).execute config instr

/-- The two lines; a pin that is no output leaves its line alone. -/
@[ext] structure Lines where
  first : Option Bool
  second : Option Bool
  deriving DecidableEq, Repr

/-- What the machine puts on the lines. -/
def Machine.lines (machine : Machine) : Lines :=
  { first := if machine.dirs.first then some machine.pins.first else none
    second := if machine.dirs.second then some machine.pins.second else none }

/-- Several cycles. -/
def run (config : Config) (steps : Nat) (machine : Machine) : Machine := (cycle config)^[steps] machine

/-- The lines after each of several cycles. -/
def trace (config : Config) : Nat → Machine → List Lines
  | 0, _ => []
  | steps + 1, machine => (cycle config machine).lines :: trace config steps (cycle config machine)

theorem run_succ (config : Config) (steps : Nat) (machine : Machine) :
    run config (steps + 1) machine = run config steps (cycle config machine) := rfl

theorem run_one (config : Config) (machine : Machine) :
    run config 1 machine = cycle config machine := rfl

theorem trace_one (config : Config) (machine : Machine) :
    trace config 1 machine = [(cycle config machine).lines] := rfl

theorem run_add (config : Config) (first second : Nat) (machine : Machine) :
    run config (first + second) machine = run config second (run config first machine) := by
  rw [Nat.add_comm, run, Function.iterate_add_apply]
  rfl

theorem trace_add (config : Config) (first second : Nat) (machine : Machine) :
    trace config (first + second) machine =
      trace config first machine ++ trace config second (run config first machine) := by
  induction first generalizing machine with
  | zero => rw [Nat.zero_add]; rfl
  | succ first ih => rw [Nat.add_right_comm, trace, ih, trace, run_succ, List.cons_append]

theorem trace_length (config : Config) (steps : Nat) (machine : Machine) :
    (trace config steps machine).length = steps := by
  induction steps generalizing machine with
  | zero => rfl
  | succ steps ih => rw [trace, List.length_cons, ih]

theorem trace_getElem (config : Config) {steps index : Nat} (machine : Machine)
    (inside : index < (trace config steps machine).length) :
    (trace config steps machine)[index] = (run config (index + 1) machine).lines := by
  induction steps generalizing machine index with
  | zero => exact absurd inside (Nat.not_lt_zero index)
  | succ steps ih =>
    cases index with
    | zero => rfl
    | succ index => exact ih (cycle config machine) _

/-! ### Autopull touches only the OSR and the FIFO -/

section Refill

variable (config : Config) (machine : Machine)

theorem refill_eq : machine.refill config = machine ∨ ∃ osr fifo,
    machine.refill config = { machine with osr, osrCount := 0, fifo } := by
  unfold Machine.refill
  split
  · exact Or.inl rfl
  · split
    · exact Or.inr ⟨_, _, rfl⟩
    · exact Or.inl rfl

@[simp] theorem refill_pc : (machine.refill config).pc = machine.pc := by
  rcases refill_eq config machine with same | ⟨_, _, same⟩ <;> rw [same]

@[simp] theorem refill_x : (machine.refill config).x = machine.x := by
  rcases refill_eq config machine with same | ⟨_, _, same⟩ <;> rw [same]

@[simp] theorem refill_y : (machine.refill config).y = machine.y := by
  rcases refill_eq config machine with same | ⟨_, _, same⟩ <;> rw [same]

@[simp] theorem refill_delay : (machine.refill config).delay = machine.delay := by
  rcases refill_eq config machine with same | ⟨_, _, same⟩ <;> rw [same]

@[simp] theorem refill_waiting : (machine.refill config).waiting = machine.waiting := by
  rcases refill_eq config machine with same | ⟨_, _, same⟩ <;> rw [same]

@[simp] theorem refill_irqs : (machine.refill config).irqs = machine.irqs := by
  rcases refill_eq config machine with same | ⟨_, _, same⟩ <;> rw [same]

@[simp] theorem refill_pins : (machine.refill config).pins = machine.pins := by
  rcases refill_eq config machine with same | ⟨_, _, same⟩ <;> rw [same]

@[simp] theorem refill_dirs : (machine.refill config).dirs = machine.dirs := by
  rcases refill_eq config machine with same | ⟨_, _, same⟩ <;> rw [same]

end Refill

/-! ### What one cycle does -/

section Rules

/-- There is nothing to refill, or nothing to refill it from. -/
def Topped (config : Config) (machine : Machine) : Prop :=
  machine.osrCount < config.pullThreshold ∨ machine.fifo = []

variable {config : Config} {machine : Machine} {pc delay : Nat} {side : Option Pins}

theorem refill_topped (topped : Topped config machine) : machine.refill config = machine := by
  unfold Machine.refill
  rcases topped with short | empty
  · split
    · rfl
    · rw [if_neg (Nat.not_le.mpr short)]
  · rw [empty]

theorem refill_exhausted {word : Word} {rest : List Word} (fifo : machine.fifo = word :: rest)
    (exhausted : config.pullThreshold ≤ machine.osrCount) :
    machine.refill config = { machine with osr := word, osrCount := 0, fifo := rest } := by
  unfold Machine.refill
  rw [fifo]
  simp only
  rw [if_pos exhausted]

/-- A cycle of delay. -/
theorem cycle_delay (busy : machine.delay = delay + 1) (topped : Topped config machine) :
    cycle config machine = { machine with delay } := by
  unfold cycle
  rw [if_pos (by omega), busy]
  exact refill_topped topped

/-- **All cycles of a delay** leave everything else alone. -/
theorem delay_spec (busy : machine.delay = delay) (topped : Topped config machine) :
    run config delay machine = { machine with delay := 0 } ∧
      trace config delay machine = List.replicate delay machine.lines := by
  induction delay generalizing machine with
  | zero =>
    refine ⟨?_, rfl⟩
    cases machine
    cases busy
    rfl
  | succ delay ih =>
    rw [run_succ, trace, cycle_delay busy topped, List.replicate_succ]
    obtain ⟨final, lines⟩ := @ih { machine with delay } rfl topped
    exact ⟨final, congrArg (_ :: ·) lines⟩

/-- **An instruction with all its delay cycles.** -/
theorem step_spec (delay : Nat) {next : Machine} (step : cycle config machine = next)
    (busy : next.delay = delay) (topped : Topped config next) :
    run config (delay + 1) machine = { next with delay := 0 } ∧
      trace config (delay + 1) machine = List.replicate (delay + 1) next.lines := by
  obtain ⟨final, lines⟩ := delay_spec busy topped
  rw [run_succ, trace, step, final, lines]
  exact ⟨rfl, rfl⟩

/-- The first cycle of an instruction. -/
theorem cycle_instr {instr : Instr} (idle : machine.delay = 0)
    (found : config.program machine.pc = some instr) :
    cycle config machine = (machine.sideSet instr.side).execute config instr := by
  unfold cycle
  rw [if_neg (not_not.mpr idle), found]

theorem cycle_nop (idle : machine.delay = 0)
    (found : config.program machine.pc = some { op := .nop, side, delay })
    (topped : Topped config machine) :
    cycle config machine = (machine.sideSet side).complete (machine.nextPc config) delay :=
  (cycle_instr idle found).trans (refill_topped topped)

theorem cycle_setY {value : Nat} (idle : machine.delay = 0)
    (found : config.program machine.pc = some { op := .setY value, side, delay })
    (topped : Topped config machine) : cycle config machine =
      ({ machine.sideSet side with y := BitVec.ofNat 32 value }).complete (machine.nextPc config)
        delay :=
  (cycle_instr idle found).trans (refill_topped topped)

theorem cycle_setPindirs {dirs : Pins} (idle : machine.delay = 0)
    (found : config.program machine.pc = some { op := .setPindirs dirs, side, delay })
    (topped : Topped config machine) : cycle config machine =
      ({ machine.sideSet side with dirs }).complete (machine.nextPc config) delay :=
  (cycle_instr idle found).trans (refill_topped topped)

theorem cycle_irq {index : Nat} (idle : machine.delay = 0)
    (found : config.program machine.pc = some { op := .irq index, side, delay })
    (topped : Topped config machine) : cycle config machine =
      ({ machine.sideSet side with irqs := Function.update machine.irqs index true }).complete
        (machine.nextPc config) delay :=
  (cycle_instr idle found).trans (refill_topped topped)

theorem cycle_jmp_taken {condition : Condition} {target : Nat} (idle : machine.delay = 0)
    (found : config.program machine.pc = some { op := .jmp condition target, side, delay })
    (holds : (machine.sideSet side).holds config condition = true)
    (topped : Topped config ((machine.sideSet side).postDec condition)) : cycle config machine =
      ((machine.sideSet side).postDec condition).complete target delay := by
  refine (cycle_instr idle found).trans ?_
  unfold Machine.execute
  simp only
  rw [if_pos holds]
  exact refill_topped topped

theorem cycle_jmp_passed {condition : Condition} {target : Nat} (idle : machine.delay = 0)
    (found : config.program machine.pc = some { op := .jmp condition target, side, delay })
    (fails : (machine.sideSet side).holds config condition = false)
    (topped : Topped config ((machine.sideSet side).postDec condition)) : cycle config machine =
      ((machine.sideSet side).postDec condition).complete
        (((machine.sideSet side).postDec condition).nextPc config) delay := by
  refine (cycle_instr idle found).trans ?_
  unfold Machine.execute
  simp only
  rw [if_neg (Bool.not_eq_true _ ▸ fails)]
  exact refill_topped topped

/-- An `out` from an OSR that still holds bits. -/
theorem cycle_out {dest : OutDest} {count : Nat} (idle : machine.delay = 0)
    (found : config.program machine.pc = some { op := .out dest count, side, delay })
    (holds : machine.osrCount < config.pullThreshold) : cycle config machine =
      (((machine.sideSet side).output dest count).complete
        (((machine.sideSet side).output dest count).nextPc config) delay).refill config := by
  refine (cycle_instr idle found).trans ?_
  exact if_neg (Nat.not_le.mpr holds)

/-- `irq wait` raises its flag. -/
theorem cycle_irqWait_raise {index : Nat} (idle : machine.delay = 0)
    (found : config.program machine.pc = some { op := .irqWait index, side, delay })
    (fresh : machine.waiting = false) (topped : Topped config machine) : cycle config machine =
      { machine.sideSet side with
        irqs := Function.update machine.irqs index true, waiting := true } := by
  refine (cycle_instr idle found).trans ?_
  unfold Machine.execute Machine.sideSet
  simp only [fresh, Bool.not_false, if_true]
  exact refill_topped topped

/-- `irq wait` stalls; autopull does not. -/
theorem cycle_irqWait_stall {index : Nat} (idle : machine.delay = 0)
    (found : config.program machine.pc = some { op := .irqWait index, side, delay })
    (waiting : machine.waiting = true) (raised : machine.irqs index = true) :
    cycle config machine = (machine.sideSet side).refill config := by
  refine (cycle_instr idle found).trans ?_
  unfold Machine.execute Machine.sideSet
  simp only [waiting, raised, Bool.not_true, Bool.false_eq_true, if_false, if_true]

/-- `irq wait` passes once its flag is clear. -/
theorem cycle_irqWait_pass {index : Nat} (idle : machine.delay = 0)
    (found : config.program machine.pc = some { op := .irqWait index, side, delay })
    (waiting : machine.waiting = true) (clear : machine.irqs index = false) :
    cycle config machine =
      (({ machine.sideSet side with waiting := false }).complete (machine.nextPc config)
        delay).refill config := by
  refine (cycle_instr idle found).trans ?_
  unfold Machine.execute Machine.sideSet
  simp only [waiting, clear, Bool.not_true, Bool.false_eq_true, if_false]
  rfl

end Rules

/-! ### Feeding the FIFO -/

section Feeding

/-- The CPU pushes words. -/
def Machine.push (machine : Machine) (words : List Word) : Machine :=
  { machine with fifo := machine.fifo ++ words }

/-- The CPU clears an interrupt flag. -/
def Machine.clearIrq (machine : Machine) (index : Nat) : Machine :=
  { machine with irqs := Function.update machine.irqs index false }

/-- What the CPU pushes before each cycle, out of a fixed sequence of words. -/
structure Feed (words : List Word) where
  pushed : Nat → List Word
  /-- What is still to come before a cycle. -/
  remaining : Nat → List Word
  all : remaining 0 = words
  split : ∀ time, remaining time = pushed time ++ remaining (time + 1)

/-- The machine while it is fed. -/
def fed (config : Config) {words : List Word} (feed : Feed words) (machine : Machine) : Nat → Machine
  | 0 => machine
  | time + 1 => cycle config ((fed config feed machine time).push (feed.pushed time))

/-- The FIFO runs empty only once everything has been pushed. -/
def NeverStarved (config : Config) {words : List Word} (feed : Feed words) (machine : Machine) : Prop :=
  ∀ time, ((fed config feed machine time).push (feed.pushed time)).fifo = [] →
    feed.remaining (time + 1) = []

variable {config : Config} {more : List Word}

theorem push_nil (machine : Machine) : machine.push [] = machine := by
  unfold Machine.push
  rw [List.append_nil]

theorem push_push (machine : Machine) (first second : List Word) :
    (machine.push first).push second = machine.push (first ++ second) := by
  unfold Machine.push
  rw [List.append_assoc]

/-- Autopull does not look beyond the next word. -/
theorem refill_push (machine : Machine) (ready : machine.fifo ≠ [] ∨ more = []) :
    (machine.push more).refill config = (machine.refill config).push more := by
  rcases ready with holds | rfl
  · obtain ⟨word, rest, fifo⟩ := List.exists_cons_of_ne_nil holds
    unfold Machine.refill Machine.push
    simp only [fifo, List.cons_append]
    split
    · rfl
    · rw [fifo, List.cons_append]
  · rw [push_nil, push_nil]

theorem execute_push (machine : Machine) (instr : Instr) (ready : machine.fifo ≠ [] ∨ more = []) :
    (machine.push more).execute config instr = (machine.execute config instr).push more := by
  unfold Machine.execute
  cases instr.op with
  | jmp condition target =>
    have same : (machine.push more).holds config condition = machine.holds config condition := by
      cases condition <;> rfl
    have decremented : (machine.push more).postDec condition =
        (machine.postDec condition).push more := by
      cases condition <;> rfl
    have kept : (machine.postDec condition).fifo = machine.fifo := by cases condition <;> rfl
    simp only [same, decremented]
    split
    · exact refill_push ((machine.postDec condition).complete target instr.delay)
        (by rw [← kept] at ready; exact ready)
    · exact refill_push ((machine.postDec condition).complete _ instr.delay)
        (by rw [← kept] at ready; exact ready)
  | out dest count =>
    have moved : (machine.push more).output dest count = (machine.output dest count).push more := by
      cases dest <;> rfl
    have kept : (machine.output dest count).fifo = machine.fifo := by cases dest <;> rfl
    simp only [moved]
    show (if config.pullThreshold ≤ machine.osrCount then _ else _) = _
    split
    · exact refill_push machine ready
    · exact refill_push ((machine.output dest count).complete _ instr.delay)
        (by rw [← kept] at ready; exact ready)
  | irqWait index =>
    simp only
    show (if !machine.waiting then _ else if machine.irqs index then _ else _) = _
    split
    · exact refill_push { machine with
        irqs := Function.update machine.irqs index true, waiting := true } ready
    · split
      · exact refill_push machine ready
      · exact refill_push (({ machine with waiting := false }).complete _ instr.delay) ready
  | nop => exact refill_push (machine.complete _ instr.delay) ready
  | irq index =>
    exact refill_push (({ machine with
      irqs := Function.update machine.irqs index true }).complete _ instr.delay) ready
  | setX value =>
    exact refill_push (({ machine with x := _ }).complete _ instr.delay) ready
  | setY value =>
    exact refill_push (({ machine with y := _ }).complete _ instr.delay) ready
  | setPins pins =>
    exact refill_push (({ machine with pins }).complete _ instr.delay) ready
  | setPindirs dirs =>
    exact refill_push (({ machine with dirs }).complete _ instr.delay) ready

/-- **A cycle does not look beyond the next word**, so later words may as well be there already. -/
theorem cycle_push (machine : Machine) (ready : machine.fifo ≠ [] ∨ more = []) :
    cycle config (machine.push more) = (cycle config machine).push more := by
  unfold cycle
  show (if machine.delay ≠ 0 then _ else _) = _
  split
  · exact refill_push { machine with delay := machine.delay - 1 } ready
  · show (match config.program machine.pc with
      | none => machine.push more
      | some instr => ((machine.push more).sideSet instr.side).execute config instr) = _
    cases config.program machine.pc with
    | none => rfl
    | some instr => exact execute_push (machine.sideSet instr.side) instr ready

/-- **Feeding while running is filling beforehand**, if the FIFO never runs empty early. -/
theorem fed_push {words : List Word} (feed : Feed words) {machine : Machine}
    (never : NeverStarved config feed machine) (time : Nat) :
    run config time (machine.push words) =
      (fed config feed machine time).push (feed.remaining time) := by
  induction time with
  | zero => rw [feed.all]; rfl
  | succ time ih =>
    rw [run_add, ih, feed.split time, ← push_push]
    refine cycle_push _ ?_
    by_cases empty : ((fed config feed machine time).push (feed.pushed time)).fifo = []
    · exact Or.inr (never time empty)
    · exact Or.inl empty

theorem lines_push (machine : Machine) (words : List Word) :
    (machine.push words).lines = machine.lines := rfl

end Feeding

/-! ### Exchanging the pins -/

section Swapping

/-- The instruction for the pins exchanged. -/
def Op.swap : Op → Op
  | .setPins pins => .setPins pins.swap
  | .setPindirs dirs => .setPindirs dirs.swap
  | op => op

/-- With its side-set exchanged too. -/
def Instr.swap (instr : Instr) : Instr :=
  { op := instr.op.swap, side := instr.side.map Pins.swap, delay := instr.delay }

/-- The program for the pins exchanged. -/
def Config.swap (config : Config) : Config :=
  { config with program := fun pc => (config.program pc).map Instr.swap }

/-- The machine with its pins exchanged. -/
def Machine.swap (machine : Machine) : Machine :=
  { machine with pins := machine.pins.swap, dirs := machine.dirs.swap }

/-- The two lines exchanged. -/
def Lines.swap (lines : Lines) : Lines := ⟨lines.second, lines.first⟩

variable (config : Config) (machine : Machine)

theorem refill_swap : machine.swap.refill config.swap = (machine.refill config).swap := by
  unfold Machine.refill
  show (match machine.fifo with
    | [] => machine.swap
    | word :: rest => if config.pullThreshold ≤ machine.osrCount then _ else machine.swap) = _
  cases machine.fifo with
  | nil => rfl
  | cons word rest =>
    simp only
    split <;> rfl

theorem sideSet_swap (side : Option Pins) :
    machine.swap.sideSet (side.map Pins.swap) = (machine.sideSet side).swap := by
  cases side <;> rfl

theorem execute_swap (instr : Instr) :
    machine.swap.execute config.swap instr.swap = (machine.execute config instr).swap := by
  obtain ⟨op, side, delay⟩ := instr
  unfold Machine.execute Instr.swap
  cases op with
  | jmp condition target =>
    have same : machine.swap.holds config.swap condition = machine.holds config condition := by
      cases condition <;> rfl
    have decremented : machine.swap.postDec condition = (machine.postDec condition).swap := by
      cases condition <;> rfl
    simp only [Op.swap, same, decremented]
    split
    · exact refill_swap config ((machine.postDec condition).complete target delay)
    · exact refill_swap config
        ((machine.postDec condition).complete ((machine.postDec condition).nextPc config) delay)
  | out dest count =>
    have moved : machine.swap.output dest count = (machine.output dest count).swap := by
      cases dest <;> rfl
    simp only [Op.swap, moved]
    show (if config.pullThreshold ≤ machine.osrCount then _ else _) = _
    split
    · exact refill_swap config machine
    · exact refill_swap config
        ((machine.output dest count).complete ((machine.output dest count).nextPc config) delay)
  | irqWait index =>
    simp only [Op.swap]
    show (if !machine.waiting then _ else if machine.irqs index then _ else _) = _
    split
    · exact refill_swap config { machine with
        irqs := Function.update machine.irqs index true, waiting := true }
    · split
      · exact refill_swap config machine
      · exact refill_swap config
          (({ machine with waiting := false }).complete (machine.nextPc config) delay)
  | nop => exact refill_swap config (machine.complete (machine.nextPc config) delay)
  | irq index =>
    exact refill_swap config (({ machine with
      irqs := Function.update machine.irqs index true }).complete (machine.nextPc config) delay)
  | setX value =>
    exact refill_swap config (({ machine with x := BitVec.ofNat 32 value }).complete
      (machine.nextPc config) delay)
  | setY value =>
    exact refill_swap config (({ machine with y := BitVec.ofNat 32 value }).complete
      (machine.nextPc config) delay)
  | setPins pins =>
    exact refill_swap config (({ machine with pins }).complete (machine.nextPc config) delay)
  | setPindirs dirs =>
    exact refill_swap config (({ machine with dirs }).complete (machine.nextPc config) delay)

/-- **Exchanging the pins in the program exchanges them in the run.** -/
theorem cycle_swap : cycle config.swap machine.swap = (cycle config machine).swap := by
  unfold cycle
  show (if machine.delay ≠ 0 then _ else _) = _
  split
  · exact refill_swap config { machine with delay := machine.delay - 1 }
  · show (match (config.program machine.pc).map Instr.swap with
      | none => machine.swap
      | some instr => (machine.swap.sideSet instr.side).execute config.swap instr) = _
    cases config.program machine.pc with
    | none => rfl
    | some instr =>
      simp only [Option.map_some]
      rw [show instr.swap.side = instr.side.map Pins.swap from rfl, sideSet_swap]
      exact execute_swap config (machine.sideSet instr.side) instr

theorem lines_swap : machine.swap.lines = machine.lines.swap := rfl

end Swapping

end PioUsbHost.Lib.PioMachine
