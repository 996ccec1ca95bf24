/-
**A programmable-I/O state machine reading two pins.**

The receive half of the RP2040's PIO, one bit at a time: a pin to jump on and a pin to shift in, two
scratch registers, an input shift register pushed to a FIFO by autopush, delays, and interrupt flags
to wait for and to raise. There is no side-set, so all five bits beside the opcode are the delay.

* One `cycle` takes what the machine sees of its surroundings (`Inputs`) and says what it does to
  them (`Effect`); several machines that share the flags are put together from their effects.
* `wait 1 irq` takes the flag it has waited for with it.
* Autopush empties a full ISR in the cycle that fills it, and stalls while the FIFO has no room.

The rules `cycle_…` say what a cycle does at each instruction; `cycle_cleared` and `cycle_raised` which
instructions touch the flags.
-/

import PioUsbHost.Lib.PioMachine

namespace PioUsbHost.Lib.PioInput

open PioUsbHost.Lib.PioMachine (Word)

/-! ### Instructions -/

/-- The conditions of a jump. -/
inductive Condition where
  | always
  | notX
  | xPostDec
  | notY
  | yPostDec
  | pin
  deriving DecidableEq, Repr

/-- Where `in` takes its bit from. -/
inductive Source where
  | pin
  | x
  | null
  | osr
  deriving DecidableEq, Repr

/-- The instructions of the receiving programs. -/
inductive Op where
  | jmp (condition : Condition) (target : Nat)
  /-- `wait 1 irq`. -/
  | waitIrq (index : Nat)
  /-- `in source, 1`. -/
  | shiftIn (source : Source)
  /-- `mov x, ~x`. -/
  | invertX
  /-- `mov x, isr`. -/
  | copyIsr
  /-- `mov isr, null`. -/
  | clearIsr
  | irq (index : Nat)
  | irqWait (index : Nat)
  | setY (value : Nat)
  deriving DecidableEq, Repr

/-- An instruction with its delay. -/
structure Instr where
  op : Op
  delay : Nat
  deriving DecidableEq, Repr

/-! ### Decoding, without side-set -/

/-- The condition field of a jump. -/
def decodeCondition : Nat → Option Condition
  | 0 => some .always
  | 1 => some .notX
  | 2 => some .xPostDec
  | 3 => some .notY
  | 4 => some .yPostDec
  | 6 => some .pin
  | _ => none

/-- The source field of an `in`. -/
def decodeSource : Nat → Option Source
  | 0 => some .pin
  | 1 => some .x
  | 3 => some .null
  | 7 => some .osr
  | _ => none

/-- The moves modelled here, by destination, operation and source. -/
def decodeMov (dest operand : Nat) : Option Op :=
  match dest, operand with
  | 1, 0b01001 => some .invertX
  | 1, 0b00110 => some .copyIsr
  | 6, 0b00011 => some .clearIsr
  | _, _ => none

/-- The operation of a word: its major opcode, and the two argument fields of its low byte. -/
def decodeOp (opcode first second : Nat) : Option Op :=
  match opcode with
  | 0 => (decodeCondition first).map (.jmp · second)
  | 1 => if first = 6 ∧ second < 8 then some (.waitIrq second) else none
  | 2 => if second = 1 then (decodeSource first).map .shiftIn else none
  | 5 => decodeMov first second
  | 6 =>
    if 8 ≤ second then none
    else if first = 0 then some (.irq second)
    else if first = 1 then some (.irqWait second)
    else none
  | 7 => if first = 2 then some (.setY second) else none
  | _ => none

/-- A word of the program. Words outside the subset modelled here decode to nothing. -/
def decode (word : UInt16) : Option Instr :=
  let bits := word.toNat
  (decodeOp (bits / 2 ^ 13) (bits / 2 ^ 5 % 8) (bits % 2 ^ 5)).map fun op =>
    { op, delay := bits / 2 ^ 8 % 2 ^ 5 }

/-! ### The machine -/

@[ext] structure Machine where
  pc : Nat
  x : Word
  y : Word
  isr : Word
  /-- How many bits have been shifted into the ISR. -/
  isrCount : Nat
  osr : Word
  /-- Delay cycles still to come. -/
  delay : Nat
  /-- An `irq wait` has raised its flag and stalls. -/
  waiting : Bool
  deriving DecidableEq

/-- The program and the settings of the state machine. -/
structure Config where
  program : Nat → Option Instr
  wrapTop : Nat
  wrapBottom : Nat
  /-- `in` shifts right, from the top of the ISR. -/
  shiftsRight : Bool
  /-- Autopush once so many bits are in the ISR, if it is on. -/
  pushThreshold : Option Nat

/-- What a cycle sees. -/
structure Inputs where
  jumpPin : Bool
  inPin : Bool
  irqs : Nat → Bool
  /-- The FIFO can take a word. -/
  room : Bool

/-- What a cycle does to the flags and to the FIFO. -/
structure Effect where
  raised : Option Nat
  cleared : Option Nat
  pushed : Option Word
  deriving DecidableEq

namespace Effect

/-- No effect. -/
def quiet : Effect := { raised := none, cleared := none, pushed := none }

/-- A flag is raised. -/
def raising (index : Nat) : Effect := { quiet with raised := some index }

/-- A flag is cleared. -/
def clearing (index : Nat) : Effect := { quiet with cleared := some index }

/-- A word is pushed. -/
def pushing (word : Word) : Effect := { quiet with pushed := some word }

end Effect

namespace Machine

/-- The address after the current one, around the wrap. -/
def nextPc (config : Config) (machine : Machine) : Nat :=
  if machine.pc = config.wrapTop then config.wrapBottom else machine.pc + 1

/-- Completing an instruction at `pc`. -/
def complete (machine : Machine) (pc delay : Nat) : Machine := { machine with pc, delay }

/-- Whether a jump is taken. -/
def holds (inputs : Inputs) (machine : Machine) : Condition → Bool
  | .always => true
  | .notX => machine.x == 0
  | .xPostDec => machine.x != 0
  | .notY => machine.y == 0
  | .yPostDec => machine.y != 0
  | .pin => inputs.jumpPin

/-- The decrement of `x--` and `y--`, taken or not. -/
def postDec (machine : Machine) : Condition → Machine
  | .xPostDec => { machine with x := machine.x - 1 }
  | .yPostDec => { machine with y := machine.y - 1 }
  | _ => machine

/-- The bit an `in` takes. -/
def bitOf (inputs : Inputs) (machine : Machine) : Source → Bool
  | .pin => inputs.inPin
  | .x => machine.x.getLsbD 0
  | .null => false
  | .osr => machine.osr.getLsbD 0

/-- One bit into the ISR. -/
def shift (config : Config) (machine : Machine) (bit : Bool) : Machine :=
  { machine with
    isr :=
      if config.shiftsRight then machine.isr >>> 1 ||| (if bit then BitVec.twoPow 32 31 else 0)
      else machine.isr <<< 1 ||| (if bit then 1 else 0)
    isrCount := min 32 (machine.isrCount + 1) }

/-- Autopush is due. -/
def full (config : Config) (machine : Machine) : Bool :=
  match config.pushThreshold with
  | none => false
  | some threshold => decide (threshold ≤ machine.isrCount)

/-- The first cycle of an instruction, or another cycle of its stall. -/
def execute (config : Config) (inputs : Inputs) (instr : Instr) (machine : Machine) :
    Machine × Effect :=
  let done (machine : Machine) : Machine := machine.complete (machine.nextPc config) instr.delay
  match instr.op with
  | .jmp condition target =>
    if machine.holds inputs condition then
      ((machine.postDec condition).complete target instr.delay, .quiet)
    else (done (machine.postDec condition), .quiet)
  | .waitIrq index =>
    if inputs.irqs index then (done machine, .clearing index) else (machine, .quiet)
  | .shiftIn source =>
    let shifted := machine.shift config (machine.bitOf inputs source)
    if !shifted.full config then (done shifted, .quiet)
    else if inputs.room then (done { shifted with isr := 0, isrCount := 0 }, .pushing shifted.isr)
    else (machine, .quiet)
  | .invertX => (done { machine with x := ~~~machine.x }, .quiet)
  | .copyIsr => (done { machine with x := machine.isr }, .quiet)
  | .clearIsr => (done { machine with isr := 0, isrCount := 0 }, .quiet)
  | .irq index => (done machine, .raising index)
  | .irqWait index =>
    if !machine.waiting then ({ machine with waiting := true }, .raising index)
    else if inputs.irqs index then (machine, .quiet)
    else (done { machine with waiting := false }, .quiet)
  | .setY value => (done { machine with y := BitVec.ofNat 32 value }, .quiet)

end Machine

/-- **One tick of the clock.** -/
def cycle (config : Config) (inputs : Inputs) (machine : Machine) : Machine × Effect :=
  if machine.delay ≠ 0 then ({ machine with delay := machine.delay - 1 }, .quiet)
  else
    match config.program machine.pc with
    | none => (machine, .quiet)
    | some instr => machine.execute config inputs instr

/-! ### What one cycle does -/

section Rules

variable {config : Config} {inputs : Inputs} {machine : Machine} {delay : Nat}

/-- A cycle of delay. -/
theorem cycle_delay (busy : machine.delay = delay + 1) :
    cycle config inputs machine = ({ machine with delay }, .quiet) := by
  unfold cycle
  rw [if_pos (by omega), busy]
  rfl

/-- The first cycle of an instruction. -/
theorem cycle_instr {instr : Instr} (idle : machine.delay = 0)
    (found : config.program machine.pc = some instr) :
    cycle config inputs machine = machine.execute config inputs instr := by
  unfold cycle
  rw [if_neg (not_not.mpr idle), found]

theorem cycle_jmp_taken {condition : Condition} {target : Nat} (idle : machine.delay = 0)
    (found : config.program machine.pc = some { op := .jmp condition target, delay })
    (holds : machine.holds inputs condition = true) : cycle config inputs machine =
      ((machine.postDec condition).complete target delay, .quiet) :=
  (cycle_instr idle found).trans (if_pos holds)

theorem cycle_jmp_passed {condition : Condition} {target : Nat} (idle : machine.delay = 0)
    (found : config.program machine.pc = some { op := .jmp condition target, delay })
    (fails : machine.holds inputs condition = false) : cycle config inputs machine =
      ((machine.postDec condition).complete ((machine.postDec condition).nextPc config) delay,
        .quiet) :=
  (cycle_instr idle found).trans (if_neg (Bool.not_eq_true _ ▸ fails))

/-- `wait 1 irq` stalls. -/
theorem cycle_waitIrq_stall {index : Nat} (idle : machine.delay = 0)
    (found : config.program machine.pc = some { op := .waitIrq index, delay })
    (clear : inputs.irqs index = false) : cycle config inputs machine = (machine, .quiet) :=
  (cycle_instr idle found).trans (if_neg (Bool.not_eq_true _ ▸ clear))

/-- `wait 1 irq` passes, and clears the flag. -/
theorem cycle_waitIrq_pass {index : Nat} (idle : machine.delay = 0)
    (found : config.program machine.pc = some { op := .waitIrq index, delay })
    (raised : inputs.irqs index = true) : cycle config inputs machine =
      (machine.complete (machine.nextPc config) delay, .clearing index) :=
  (cycle_instr idle found).trans (if_pos raised)

/-- An `in` that leaves the ISR short of the threshold. -/
theorem cycle_shiftIn {source : Source} (idle : machine.delay = 0)
    (found : config.program machine.pc = some { op := .shiftIn source, delay })
    (short : (machine.shift config (machine.bitOf inputs source)).full config = false) :
    cycle config inputs machine =
      ((machine.shift config (machine.bitOf inputs source)).complete
        (machine.nextPc config) delay, .quiet) :=
  (cycle_instr idle found).trans (if_pos (by rw [short]; rfl))

/-- An `in` that fills the ISR: autopush. -/
theorem cycle_shiftIn_push {source : Source} (idle : machine.delay = 0)
    (found : config.program machine.pc = some { op := .shiftIn source, delay })
    (full : (machine.shift config (machine.bitOf inputs source)).full config = true)
    (room : inputs.room = true) : cycle config inputs machine =
      (({ machine with isr := 0, isrCount := 0 } : Machine).complete (machine.nextPc config) delay,
        .pushing (machine.shift config (machine.bitOf inputs source)).isr) := by
  refine (cycle_instr idle found).trans ((if_neg (by rw [full]; decide)).trans ?_)
  exact if_pos room

/-- `irq wait` raises its flag. -/
theorem cycle_irqWait_raise {index : Nat} (idle : machine.delay = 0)
    (found : config.program machine.pc = some { op := .irqWait index, delay })
    (fresh : machine.waiting = false) : cycle config inputs machine =
      ({ machine with waiting := true }, .raising index) :=
  (cycle_instr idle found).trans (if_pos (by rw [fresh]; rfl))

/-- `irq wait` stalls. -/
theorem cycle_irqWait_stall {index : Nat} (idle : machine.delay = 0)
    (found : config.program machine.pc = some { op := .irqWait index, delay })
    (waiting : machine.waiting = true) (raised : inputs.irqs index = true) :
    cycle config inputs machine = (machine, .quiet) :=
  (cycle_instr idle found).trans ((if_neg (by rw [waiting]; decide)).trans (if_pos raised))

/-- `irq wait` passes once its flag is clear. -/
theorem cycle_irqWait_pass {index : Nat} (idle : machine.delay = 0)
    (found : config.program machine.pc = some { op := .irqWait index, delay })
    (waiting : machine.waiting = true) (clear : inputs.irqs index = false) :
    cycle config inputs machine =
      (({ machine with waiting := false } : Machine).complete (machine.nextPc config) delay,
        .quiet) :=
  (cycle_instr idle found).trans
    ((if_neg (by rw [waiting]; decide)).trans (if_neg (Bool.not_eq_true _ ▸ clear)))

end Rules

/-! ### Flags and addresses -/

section Flags

variable {config : Config} {inputs : Inputs} {machine : Machine} {index : Nat}

theorem execute_cleared {instr : Instr}
    (cleared : (machine.execute config inputs instr).2.cleared = some index) :
    instr.op = .waitIrq index := by
  obtain ⟨op, delay⟩ := instr
  unfold Machine.execute at cleared
  cases op with
  | waitIrq other =>
    simp only at cleared
    split at cleared
    · cases cleared
      rfl
    · cases cleared
  | jmp condition target =>
    simp only at cleared
    split at cleared <;> cases cleared
  | shiftIn source =>
    simp only at cleared
    split at cleared
    · cases cleared
    · split at cleared <;> cases cleared
  | irqWait other =>
    simp only at cleared
    split at cleared
    · cases cleared
    · split at cleared <;> cases cleared
  | _ => cases cleared

theorem execute_raised {instr : Instr}
    (raised : (machine.execute config inputs instr).2.raised = some index) :
    instr.op = .irq index ∨ instr.op = .irqWait index := by
  obtain ⟨op, delay⟩ := instr
  unfold Machine.execute at raised
  cases op with
  | irq other =>
    cases raised
    exact Or.inl rfl
  | irqWait other =>
    simp only at raised
    split at raised
    · cases raised
      exact Or.inr rfl
    · split at raised <;> cases raised
  | waitIrq other =>
    simp only at raised
    split at raised <;> cases raised
  | jmp condition target =>
    simp only at raised
    split at raised <;> cases raised
  | shiftIn source =>
    simp only at raised
    split at raised
    · cases raised
    · split at raised <;> cases raised
  | _ => cases raised

/-- A cycle that has an effect executes an instruction. -/
theorem cycle_effect (acts : (cycle config inputs machine).2 ≠ .quiet) :
    ∃ instr, config.program machine.pc = some instr ∧
      cycle config inputs machine = machine.execute config inputs instr := by
  unfold cycle at acts ⊢
  split at acts
  · exact absurd rfl acts
  next idle =>
    cases found : config.program machine.pc with
    | none =>
      rw [found] at acts
      exact absurd rfl acts
    | some instr =>
      exact ⟨instr, rfl, if_neg idle⟩

/-- **Only `wait 1 irq` clears a flag.** -/
theorem cycle_cleared (cleared : (cycle config inputs machine).2.cleared = some index) :
    ∃ delay, config.program machine.pc = some { op := .waitIrq index, delay } := by
  obtain ⟨instr, found, executed⟩ := @cycle_effect config inputs machine fun quiet => by
    rw [quiet] at cleared
    cases cleared
  rw [executed] at cleared
  exact ⟨instr.delay, found.trans (by rw [← execute_cleared cleared])⟩

/-- **Only `irq` raises one.** -/
theorem cycle_raised (raised : (cycle config inputs machine).2.raised = some index) :
    ∃ instr, config.program machine.pc = some instr ∧
      (instr.op = .irq index ∨ instr.op = .irqWait index) := by
  obtain ⟨instr, found, executed⟩ := @cycle_effect config inputs machine fun quiet => by
    rw [quiet] at raised
    cases raised
  rw [executed] at raised
  exact ⟨instr, found, execute_raised raised⟩

/-- **Where a cycle leads**: nowhere, on, or to the target of a jump; an unconditional one is taken. -/
theorem cycle_pc {instr : Instr} (found : config.program machine.pc = some instr) :
    (cycle config inputs machine).1.pc = machine.pc ∨
      (cycle config inputs machine).1.pc = machine.nextPc config ∧
        (∀ target, instr.op ≠ .jmp .always target) ∨
      ∃ condition, instr.op = .jmp condition (cycle config inputs machine).1.pc := by
  by_cases idle : machine.delay = 0
  · rw [cycle_instr idle found]
    obtain ⟨op, delay⟩ := instr
    cases op with
    | jmp condition target =>
      cases holds : machine.holds inputs condition with
      | true =>
        rw [← cycle_instr idle found, cycle_jmp_taken idle found holds]
        exact Or.inr (Or.inr ⟨condition, rfl⟩)
      | false =>
        rw [← cycle_instr idle found, cycle_jmp_passed idle found holds]
        refine Or.inr (Or.inl ⟨?_, fun other same => ?_⟩)
        · cases condition <;> rfl
        · cases same
          cases holds
    | waitIrq other =>
      cases raised : inputs.irqs other with
      | true =>
        rw [← cycle_instr idle found, cycle_waitIrq_pass idle found raised]
        exact Or.inr (Or.inl ⟨rfl, nofun⟩)
      | false =>
        rw [← cycle_instr idle found, cycle_waitIrq_stall idle found raised]
        exact Or.inl rfl
    | shiftIn source =>
      unfold Machine.execute
      simp only
      split
      · exact Or.inr (Or.inl ⟨rfl, nofun⟩)
      · split
        · exact Or.inr (Or.inl ⟨rfl, nofun⟩)
        · exact Or.inl rfl
    | irqWait other =>
      unfold Machine.execute
      simp only
      split
      · exact Or.inl rfl
      · split
        · exact Or.inl rfl
        · exact Or.inr (Or.inl ⟨rfl, nofun⟩)
    | _ => exact Or.inr (Or.inl ⟨rfl, nofun⟩)
  · unfold cycle
    rw [if_pos idle]
    exact Or.inl rfl
end Flags

/-! ### Runs -/

/-- A machine cycle by cycle, and all it has pushed. -/
structure Running (config : Config) (inputs : Nat → Inputs) (machine : Nat → Machine)
    (pushed : Nat → List Word) : Prop where
  moves : ∀ time, machine (time + 1) = (cycle config (inputs time) (machine time)).1
  logs : ∀ time, pushed (time + 1) =
    pushed time ++ (cycle config (inputs time) (machine time)).2.pushed.toList

section Running

variable {config : Config} {inputs : Nat → Inputs} {machine : Nat → Machine}
  {pushed : Nat → List Word} {time : Nat}

theorem Running.step (running : Running config inputs machine pushed) {next : Machine}
    {effect : Effect} (step : cycle config (inputs time) (machine time) = (next, effect)) :
    machine (time + 1) = next ∧ pushed (time + 1) = pushed time ++ effect.pushed.toList := by
  rw [running.moves, running.logs, step]
  exact ⟨rfl, rfl⟩

end Running

end PioUsbHost.Lib.PioInput
