/-
**The transmit program sends NRZI with bit stuffing.**

The program keeps the line's level in its program counter and the run of ones in Y. At the head of a
bit slot (`Sending`) the machine stands at the check of its level with the bits still to come in the
OSR and the FIFO; the rest of the packet follows from what the four cycles of a slot do.

* `loadBit_spec`, `sendZero_spec`, `sendOne_spec`, `sendStuffed_spec`: the two halves of a slot.
* `sendBits_spec`: all slots of a packet, by induction on its bits.
* `start_spec`, `endOfPacket_spec`: what comes before the first slot and after the last.
* `sendPacket_spec`: a whole packet, from the FIFO to the parked program.
-/

import PioUsbHost.Pio.TxProgram
import PioUsbHost.Usb.Nrzi

namespace PioUsbHost.Pio

open PioUsbHost.Lib.LineCode PioUsbHost.Lib.PioMachine PioUsbHost.Usb

/-! ### Lines and words -/

/-- The pins at a level, at full speed. -/
def levelPins : WireState → Pins
  | .J => dpHigh
  | .K => dmHigh

/-- Both lines driven. -/
def drivenLines (pins : Pins) : Lines := ⟨some pins.first, some pins.second⟩

/-- The lines that a state of the wire drives. -/
def levelLines (level : WireState) : Lines := drivenLines (levelPins level)

/-- Both lines driven low. -/
def se0 : Lines := drivenLines Pins.neither

/-- Neither line is driven. -/
def released : Lines := ⟨none, none⟩

/-- `u32::from(byte) * 0x0101_0101`. -/
def txWord (byte : UInt8) : Word := BitVec.ofNat 32 (byte.toNat * 0x01010101)

/-- The bits autopull takes from a word. -/
def wordBits (word : Word) : List Bool := (List.range 8).map word.getLsbD

theorem wordBits_txWord (byte : UInt8) : wordBits (txWord byte) = byteBits byte := by
  have all : ∀ bits : BitVec 8,
      wordBits (txWord (UInt8.ofBitVec bits)) = byteBits (UInt8.ofBitVec bits) := by
    decide +kernel
  exact all byte.toBitVec

theorem flatMap_wordBits (bytes : List UInt8) :
    (bytes.map txWord).flatMap wordBits = dataBits bytes := by
  rw [List.flatMap_map, dataBits]
  congr 1
  funext byte
  exact wordBits_txWord byte

/-! ### The bits still to come -/

/-- What an OSR with `osrCount` bits gone and a FIFO still hold. -/
def pendingBits (osr : Word) (osrCount : Nat) (fifo : List Word) : List Bool :=
  (List.range (8 - osrCount)).map osr.getLsbD ++ fifo.flatMap wordBits

/-- Shifting takes the first bit. -/
theorem pendingBits_shift (osr : Word) {osrCount : Nat} (short : osrCount < 8) (fifo : List Word) :
    pendingBits osr osrCount fifo =
      osr.getLsbD 0 :: pendingBits (osr >>> 1) (osrCount + 1) fifo := by
  have count : 8 - osrCount = (8 - (osrCount + 1)) + 1 := by omega
  unfold pendingBits
  rw [count, List.range_succ_eq_map, List.map_cons, List.map_map, List.cons_append]
  refine congrArg (_ :: · ++ _) (List.map_congr_left fun index _ => ?_)
  rw [Function.comp_apply, BitVec.getLsbD_ushiftRight, Nat.add_comm]

theorem pendingBits_nil {osr : Word} {osrCount : Nat} {fifo : List Word}
    (none : pendingBits osr osrCount fifo = []) : 8 ≤ osrCount ∧ fifo = [] := by
  unfold pendingBits at none
  rw [List.append_eq_nil_iff, List.map_eq_nil_iff, List.range_eq_nil] at none
  refine ⟨by omega, ?_⟩
  cases fifo with
  | nil => rfl
  | cons word rest => simp [wordBits] at none

/-- **Autopull keeps the bits to come**, and leaves nothing to refill. -/
theorem refill_spec (machine : Machine) :
    Topped (txConfig .full) (machine.refill (txConfig .full)) ∧
      pendingBits (machine.refill (txConfig .full)).osr (machine.refill (txConfig .full)).osrCount
        (machine.refill (txConfig .full)).fifo =
        pendingBits machine.osr machine.osrCount machine.fifo := by
  by_cases short : machine.osrCount < 8
  · rw [refill_topped (Or.inl short)]
    exact ⟨Or.inl short, rfl⟩
  cases fifo : machine.fifo with
  | nil =>
    rw [refill_topped (Or.inr fifo)]
    exact ⟨Or.inr fifo, by rw [fifo]⟩
  | cons word rest =>
    rw [refill_exhausted fifo (Nat.not_lt.mp short)]
    refine ⟨Or.inl (Nat.succ_pos 7), ?_⟩
    unfold pendingBits
    rw [show 8 - machine.osrCount = 0 by omega]
    rfl

/-! ### The program by level -/

/-- Where the program stands at the head of a bit slot. -/
def checkPc : WireState → Nat
  | .J => 2
  | .K => 15

/-- Where a bit is loaded. -/
def loadPc : WireState → Nat
  | .J => 10
  | .K => 17

/-- Where its value is tested. -/
def choosePc : WireState → Nat
  | .J => 11
  | .K => 18

/-- Where a one goes on. -/
def highPc : WireState → Nat
  | .J => 12
  | .K => 19

/-- Where a zero goes on. -/
def lowPc : WireState → Nat
  | .J => 14
  | .K => 21

section Program

variable (level : WireState)

theorem program_at {pc : Nat} {instr : Instr} (found : txProgram[pc]? = some instr) :
    (txConfig .full).program pc = some instr := (txConfig_full_program pc).trans found

theorem program_check : (txConfig .full).program (checkPc level) =
    some { op := .jmp .notOsre (loadPc level), side := none, delay := 0 } := by
  cases level <;> exact program_at rfl

theorem program_load : (txConfig .full).program (loadPc level) =
    some { op := .out .x 1, side := none, delay := 0 } := by
  cases level <;> exact program_at rfl

theorem program_choose : (txConfig .full).program (choosePc level) =
    some { op := .jmp .notX (lowPc level), side := none, delay := 0 } := by
  cases level <;> exact program_at rfl

theorem program_high : (txConfig .full).program (highPc level) =
    some { op := .jmp .yPostDec (checkPc level), side := some (levelPins level), delay := 0 } := by
  cases level <;> exact program_at rfl

theorem program_stuff : (txConfig .full).program (highPc level + 1) =
    some { op := .nop, side := none, delay := 2 } := by
  cases level <;> exact program_at rfl

theorem program_low : (txConfig .full).program (lowPc level) =
    some { op := .setY 5, side := some (levelPins level.flip), delay := 0 } := by
  cases level <;> exact program_at rfl

end Program

/-! ### One bit slot -/

/-- The program at `pc`, driving `pins`, with `bits` still to come. -/
structure At (pc : Nat) (pins : Pins) (bits : List Bool) (machine : Machine) : Prop where
  pc : machine.pc = pc
  delay : machine.delay = 0
  waiting : machine.waiting = false
  pins : machine.pins = pins
  dirs : machine.dirs = Pins.both
  topped : Topped (txConfig .full) machine
  pending : pendingBits machine.osr machine.osrCount machine.fifo = bits

/-- Y after `ones` ones. -/
def onesLeft (ones : Nat) : Word := BitVec.ofNat 32 (5 - ones)

section Slot

variable {level : WireState} {bit : Bool} {bits : List Bool} {machine : Machine}

theorem At.lines {pc : Nat} {pins : Pins} (here : At pc pins bits machine) :
    machine.lines = drivenLines pins := by
  unfold Machine.lines
  rw [here.dirs, here.pins]
  rfl

theorem nextPc_of {pc : Nat} (here : machine.pc = pc) :
    machine.nextPc (txConfig .full) = if pc = 21 then 2 else pc + 1 := by
  unfold Machine.nextPc
  rw [here]
  rfl

/-- **Holding a level**: a `nop` and its delay. -/
theorem hold_spec {pc delay : Nat} {pins : Pins} {side : Option Pins}
    (here : At pc pins bits machine) (inside : pc ≠ 21)
    (found : (txConfig .full).program pc = some { op := .nop, side, delay }) :
    trace (txConfig .full) (delay + 1) machine =
        List.replicate (delay + 1) (drivenLines (side.getD pins)) ∧
      At (pc + 1) (side.getD pins) bits (run (txConfig .full) (delay + 1) machine) := by
  have next : At (pc + 1) (side.getD pins) bits
      { (machine.sideSet side).complete (machine.nextPc (txConfig .full)) delay with delay := 0 } :=
    ⟨(nextPc_of here.pc).trans (if_neg inside), rfl, here.waiting,
      congrArg side.getD here.pins, here.dirs, here.topped, here.pending⟩
  obtain ⟨waited, lines⟩ := step_spec delay
    (cycle_nop here.delay (here.pc ▸ found) here.topped) rfl here.topped
  rw [lines, waited]
  exact ⟨congrArg (List.replicate (delay + 1)) next.lines, next⟩

/-- With bits to come, the OSR holds the next one. -/
theorem At.short {pc : Nat} {pins : Pins} (here : At pc pins (bit :: bits) machine) : machine.osrCount < 8 := by
  by_contra full
  have none := here.pending
  rw [here.topped.resolve_left full, pendingBits, show 8 - machine.osrCount = 0 by omega] at none
  cases none

theorem check_spec (here : At (checkPc level) (levelPins level) (bit :: bits) machine) :
    At (loadPc level) (levelPins level) (bit :: bits) (cycle (txConfig .full) machine) ∧
      (cycle (txConfig .full) machine).y = machine.y := by
  have step := cycle_jmp_taken here.delay (here.pc ▸ program_check level)
    (show machine.holds (txConfig .full) .notOsre = true from decide_eq_true here.short) here.topped
  rw [step]
  exact ⟨⟨rfl, rfl, here.waiting, here.pins, here.dirs, here.topped, here.pending⟩, rfl⟩

theorem and_one_beq_zero (osr : Word) :
    (osr &&& BitVec.ofNat 32 (2 ^ 1 - 1) == 0) = !osr.getLsbD 0 := by
  rw [show BitVec.ofNat 32 (2 ^ 1 - 1) = 1#32 from rfl,
    BitVec.and_one_eq_setWidth_ofBool_getLsbD]
  cases osr.getLsbD 0 <;> rfl

/-- **Loading a bit** shifts it into X. -/
theorem load_spec (here : At (loadPc level) (levelPins level) (bit :: bits) machine) :
    At (choosePc level) (levelPins level) bits (cycle (txConfig .full) machine) ∧
      (cycle (txConfig .full) machine).y = machine.y ∧
      ((cycle (txConfig .full) machine).x == 0) = !bit := by
  have step := cycle_out here.delay (here.pc ▸ program_load level) here.short
  have pending := here.pending
  rw [pendingBits_shift machine.osr here.short] at pending
  obtain ⟨first, rest⟩ := List.cons.inj pending
  have count : min 32 (machine.osrCount + 1) = machine.osrCount + 1 := by
    have := here.short
    omega
  have pc : machine.nextPc (txConfig .full) = choosePc level :=
    (nextPc_of here.pc).trans (by cases level <;> rfl)
  obtain ⟨topped, kept⟩ := refill_spec (((machine.sideSet none).output .x 1).complete
    (((machine.sideSet none).output .x 1).nextPc (txConfig .full)) 0)
  rw [step]
  refine ⟨⟨?_, ?_, ?_, ?_, ?_, topped, kept.trans ?_⟩, ?_, ?_⟩
  · exact (refill_pc _ _).trans pc
  · exact refill_delay _ _
  · exact (refill_waiting _ _).trans here.waiting
  · exact (refill_pins _ _).trans here.pins
  · exact (refill_dirs _ _).trans here.dirs
  · show pendingBits (machine.osr >>> 1) (min 32 (machine.osrCount + 1)) machine.fifo = bits
    rw [count, rest]
  · exact refill_y _ _
  · rw [refill_x, ← first]
    exact and_one_beq_zero machine.osr

theorem chooseZero_spec (here : At (choosePc level) (levelPins level) bits machine)
    (zero : (machine.x == 0) = true) :
    At (lowPc level) (levelPins level) bits (cycle (txConfig .full) machine) := by
  have step := cycle_jmp_taken here.delay (here.pc ▸ program_choose level)
    (show machine.holds (txConfig .full) .notX = true from zero) here.topped
  rw [step]
  exact ⟨rfl, rfl, here.waiting, here.pins, here.dirs, here.topped, here.pending⟩

theorem chooseOne_spec (here : At (choosePc level) (levelPins level) bits machine)
    (one : (machine.x == 0) = false) :
    At (highPc level) (levelPins level) bits (cycle (txConfig .full) machine) ∧
      (cycle (txConfig .full) machine).y = machine.y := by
  have step := cycle_jmp_passed here.delay (here.pc ▸ program_choose level)
    (show machine.holds (txConfig .full) .notX = false from one) here.topped
  have pc : machine.nextPc (txConfig .full) = highPc level :=
    (nextPc_of here.pc).trans (by cases level <;> rfl)
  rw [step]
  exact ⟨⟨pc, rfl, here.waiting, here.pins, here.dirs, here.topped, here.pending⟩, rfl⟩

/-- **A zero changes the level**, and forgets the ones before it. -/
theorem low_spec (here : At (lowPc level) (levelPins level) bits machine) :
    At (checkPc level.flip) (levelPins level.flip) bits (cycle (txConfig .full) machine) ∧
      (cycle (txConfig .full) machine).y = onesLeft 0 := by
  have step := cycle_setY here.delay (here.pc ▸ program_low level) here.topped
  have pc : machine.nextPc (txConfig .full) = checkPc level.flip :=
    (nextPc_of here.pc).trans (by cases level <;> rfl)
  rw [step]
  exact ⟨⟨pc, rfl, here.waiting, rfl, here.dirs, here.topped, here.pending⟩, rfl⟩

/-- **A one keeps the level**, before the sixth in a row. -/
theorem highAgain_spec {ones : Nat} (here : At (highPc level) (levelPins level) bits machine)
    (y : machine.y = onesLeft ones) (few : ones < 5) :
    At (checkPc level) (levelPins level) bits (cycle (txConfig .full) machine) ∧
      (cycle (txConfig .full) machine).y = onesLeft (ones + 1) := by
  have counted : ∀ ones < 5, (onesLeft ones != 0) = true ∧
      onesLeft ones - 1 = onesLeft (ones + 1) := by decide
  have step := cycle_jmp_taken here.delay (here.pc ▸ program_high level)
    (show machine.holds (txConfig .full) .yPostDec = true from by
      rw [Machine.holds, y]; exact (counted ones few).1) here.topped
  rw [step]
  refine ⟨⟨rfl, rfl, here.waiting, rfl, here.dirs, here.topped, here.pending⟩, ?_⟩
  show machine.y - 1 = _
  rw [y, (counted ones few).2]

/-- **The sixth one** leads to the stuffed zero, three cycles of waiting away. -/
theorem highFull_spec (here : At (highPc level) (levelPins level) bits machine) (y : machine.y = onesLeft 5) :
    trace (txConfig .full) 4 machine = List.replicate 4 (levelLines level) ∧
      At (lowPc level) (levelPins level) bits (run (txConfig .full) 4 machine) := by
  have step := cycle_jmp_passed here.delay (here.pc ▸ program_high level)
    (show machine.holds (txConfig .full) .yPostDec = false from by rw [Machine.holds, y]; rfl) here.topped
  have pc : machine.nextPc (txConfig .full) = highPc level + 1 :=
    (nextPc_of here.pc).trans (by cases level <;> rfl)
  have passed : At (highPc level + 1) (levelPins level) bits (cycle (txConfig .full) machine) := by
    rw [step]
    exact ⟨pc, rfl, here.waiting, rfl, here.dirs, here.topped, here.pending⟩
  obtain ⟨lines, low⟩ := hold_spec passed (by cases level <;> decide) (program_stuff level)
  rw [trace_add _ 1 3, run_add _ 1 3, trace_one, run_one, passed.lines, lines]
  exact ⟨rfl, by cases level <;> exact low⟩

/-! ### All bit slots -/

/-- The lines over bit slots that begin at `level`: the level moves in a slot's last cycle. -/
def slots : WireState → List WireState → List Lines
  | _, [] => []
  | level, next :: rest =>
    List.replicate 3 (levelLines level) ++ levelLines next :: slots next rest

theorem slots_append (level : WireState) (next : WireState) (rest : List WireState) :
    slots level (next :: rest) = slots level [next] ++ slots next rest := by
  simp only [slots, List.append_assoc, List.cons_append, List.nil_append]

/-- The head of a bit slot, after `ones` ones. -/
structure Sending (level : WireState) (ones : Nat) (bits : List Bool) (machine : Machine) :
    Prop where
  here : At (checkPc level) (levelPins level) bits machine
  y : machine.y = onesLeft ones

/-- The first half of a slot. -/
theorem loadBit_spec {ones : Nat} (sending : Sending level ones (bit :: bits) machine) :
    trace (txConfig .full) 2 machine = List.replicate 2 (levelLines level) ∧
      At (choosePc level) (levelPins level) bits (run (txConfig .full) 2 machine) ∧
      (run (txConfig .full) 2 machine).y = onesLeft ones ∧
      ((run (txConfig .full) 2 machine).x == 0) = !bit := by
  obtain ⟨checked, kept⟩ := check_spec sending.here
  obtain ⟨loaded, still, x⟩ := load_spec checked
  refine ⟨?_, loaded, still.trans (kept.trans sending.y), x⟩
  show [_, _] = _
  rw [checked.lines, loaded.lines]
  rfl

/-- **The slot of a zero.** -/
theorem sendZero_spec {ones : Nat} (sending : Sending level ones (false :: bits) machine) :
    trace (txConfig .full) 4 machine = slots level [level.flip] ∧
      Sending level.flip 0 bits (run (txConfig .full) 4 machine) := by
  obtain ⟨lines, chosen, -, x⟩ := loadBit_spec sending
  have low := chooseZero_spec chosen x
  obtain ⟨sent, y⟩ := low_spec low
  rw [trace_add _ 2 2, run_add _ 2 2, lines]
  refine ⟨?_, sent, y⟩
  show _ ++ [_, _] = _
  rw [low.lines, sent.lines]
  rfl

/-- **The slot of a one**, before the sixth in a row. -/
theorem sendOne_spec {ones : Nat} (sending : Sending level ones (true :: bits) machine)
    (few : ones < 5) :
    trace (txConfig .full) 4 machine = slots level [level] ∧
      Sending level (ones + 1) bits (run (txConfig .full) 4 machine) := by
  obtain ⟨lines, chosen, y, x⟩ := loadBit_spec sending
  obtain ⟨high, kept⟩ := chooseOne_spec chosen x
  obtain ⟨sent, counted⟩ := highAgain_spec high (kept.trans y) few
  rw [trace_add _ 2 2, run_add _ 2 2, lines]
  refine ⟨?_, sent, counted⟩
  show _ ++ [_, _] = _
  rw [high.lines, sent.lines]
  rfl

/-- **The slots of the sixth one and of its stuffed zero.** -/
theorem sendStuffed_spec (sending : Sending level 5 (true :: bits) machine) :
    trace (txConfig .full) 8 machine = slots level [level, level.flip] ∧
      Sending level.flip 0 bits (run (txConfig .full) 8 machine) := by
  obtain ⟨lines, chosen, y, x⟩ := loadBit_spec sending
  obtain ⟨high, kept⟩ := chooseOne_spec chosen x
  obtain ⟨waited, low⟩ := highFull_spec high (kept.trans y)
  obtain ⟨sent, counted⟩ := low_spec low
  rw [trace_add _ 2 6, run_add _ 2 6, trace_add _ 1 5, run_add _ 1 5, trace_add _ 4 1,
    run_add _ 4 1, run_one, trace_one, run_one, trace_one, lines, waited, high.lines, sent.lines]
  exact ⟨rfl, sent, counted⟩

/-- **All bit slots of a packet**, by induction on the bits to come. -/
theorem sendBits_spec {ones : Nat} (few : ones < 6) (sending : Sending level ones bits machine) :
    trace (txConfig .full) (4 * (stuff 6 ones bits).length) machine =
        slots level (levels WireState.flip level (stuff 6 ones bits)) ∧
      At (checkPc (lastLevel WireState.flip level (stuff 6 ones bits)))
        (levelPins (lastLevel WireState.flip level (stuff 6 ones bits))) []
        (run (txConfig .full) (4 * (stuff 6 ones bits).length) machine) := by
  induction bits generalizing level ones machine with
  | nil => exact ⟨rfl, sending.here⟩
  | cons bit bits ih =>
    cases bit with
    | false =>
      obtain ⟨lines, sent⟩ := sendZero_spec sending
      obtain ⟨later, done⟩ := ih (Nat.succ_pos 5) sent
      rw [stuff, List.length_cons, Nat.mul_succ, Nat.add_comm, trace_add, run_add, lines, later]
      exact ⟨(slots_append level level.flip _).symm, done⟩
    | true =>
      by_cases full : ones + 1 = 6
      · obtain rfl : ones = 5 := by omega
        obtain ⟨lines, sent⟩ := sendStuffed_spec sending
        obtain ⟨later, done⟩ := ih (Nat.succ_pos 5) sent
        rw [stuff, if_pos full, List.length_cons, List.length_cons,
          show 4 * ((stuff 6 0 bits).length + 1 + 1) = 8 + 4 * (stuff 6 0 bits).length by omega,
          trace_add, run_add, lines, later, slots_append level level [level.flip],
          List.append_assoc, ← slots_append level level.flip]
        exact ⟨(slots_append level level _).symm, done⟩
      · obtain ⟨lines, sent⟩ := sendOne_spec sending (by omega)
        obtain ⟨later, done⟩ := ih (by omega) sent
        rw [stuff, if_neg full, List.length_cons, Nat.mul_succ, Nat.add_comm, trace_add, run_add,
          lines, later]
        exact ⟨(slots_append level level _).symm, done⟩

end Slot

/-! ### The end of the packet -/

/-- At `irq wait 0`, having raised the flag, with `bits` queued. -/
structure Loaded (bits : List Bool) (machine : Machine) : Prop where
  pc : machine.pc = 8
  delay : machine.delay = 0
  waiting : machine.waiting = true
  dirs : machine.dirs = Pins.neither
  pending : pendingBits machine.osr machine.osrCount machine.fifo = bits

/-- Parked with nothing to send. -/
structure Parked (machine : Machine) : Prop where
  loaded : Loaded [] machine
  raised : machine.irqs 0 = true

theorem lines_released {machine : Machine} (dirs : machine.dirs = Pins.neither) :
    machine.lines = released := by
  unfold Machine.lines
  rw [dirs]
  rfl

section EndOfPacket

variable {level : WireState} {machine : Machine}

/-- With nothing to come, the check falls through to the end of the packet. -/
theorem checkEmpty_spec (here : At (checkPc level) (levelPins level) [] machine) :
    trace (txConfig .full) 3 machine = List.replicate 3 (levelLines level) ∧
      At 4 (levelPins level) [] (run (txConfig .full) 3 machine) := by
  obtain ⟨exhausted, -⟩ := pendingBits_nil here.pending
  have step := cycle_jmp_passed here.delay (here.pc ▸ program_check level)
    (show machine.holds (txConfig .full) .notOsre = false from
      decide_eq_false (Nat.not_lt.mpr exhausted)) here.topped
  have passed : At (checkPc level + 1) (levelPins level) [] (cycle (txConfig .full) machine) := by
    rw [step]
    refine ⟨?_, rfl, here.waiting, here.pins, here.dirs, here.topped, here.pending⟩
    show machine.nextPc (txConfig .full) = _
    unfold Machine.nextPc
    rw [here.pc]
    cases level <;> rfl
  rw [trace_add _ 1 2, run_add _ 1 2, trace_one, run_one, passed.lines]
  generalize cycle (txConfig .full) machine = second at passed ⊢
  cases level with
  | J =>
    obtain ⟨lines, held⟩ := hold_spec passed (by decide) (program_at rfl)
    rw [lines]
    exact ⟨rfl, held⟩
  | K =>
    have found : (txConfig .full).program second.pc =
        some { op := .jmp .always 4, side := none, delay := 1 } := by
      rw [passed.pc]
      exact program_at rfl
    obtain ⟨waited, lines⟩ := step_spec 1 (cycle_jmp_taken passed.delay found rfl passed.topped) rfl
      passed.topped
    rw [lines, waited]
    exact ⟨congrArg (_ :: List.replicate 2 ·) passed.lines, ⟨rfl, rfl, passed.waiting, passed.pins,
      passed.dirs, passed.topped, passed.pending⟩⟩

/-- The first bit of SE0. -/
theorem irq_spec {pins : Pins} (here : At 4 pins [] machine) :
    trace (txConfig .full) 4 machine = List.replicate 4 se0 ∧
      At 5 Pins.neither [] (run (txConfig .full) 4 machine) := by
  have found : (txConfig .full).program machine.pc =
      some { op := .irq 1, side := some Pins.neither, delay := 3 } := by
    rw [here.pc]
    exact program_at rfl
  obtain ⟨waited, lines⟩ := step_spec 3 (cycle_irq here.delay found here.topped) rfl here.topped
  have next : At 5 Pins.neither [] (run (txConfig .full) 4 machine) := by
    rw [waited]
    exact ⟨nextPc_of here.pc, rfl, here.waiting, rfl, here.dirs, here.topped, here.pending⟩
  rw [lines]
  refine ⟨congrArg (List.replicate 4) ?_, next⟩
  rw [waited] at next
  exact next.lines

/-- Releasing the bus, and parking. -/
theorem park_spec {pins : Pins} (here : At 7 pins [] machine) :
    trace (txConfig .full) 2 machine = List.replicate 2 released ∧
      Parked (run (txConfig .full) 2 machine) := by
  have found : (txConfig .full).program machine.pc =
      some { op := .setPindirs Pins.neither, side := none, delay := 0 } := by
    rw [here.pc]
    exact program_at rfl
  have freed := cycle_setPindirs here.delay found here.topped
  have pc : machine.nextPc (txConfig .full) = 8 := nextPc_of here.pc
  rw [pc] at freed
  have idle : (cycle (txConfig .full) machine).delay = 0 := by rw [freed]; rfl
  have waits : (txConfig .full).program (cycle (txConfig .full) machine).pc =
      some { op := .irqWait 0, side := none, delay := 0 } := by
    rw [freed]
    exact program_at rfl
  have raised := cycle_irqWait_raise idle waits (by rw [freed]; exact here.waiting)
    (by rw [freed]; exact here.topped)
  have quiet : (cycle (txConfig .full) machine).lines = released := by
    rw [freed]
    exact lines_released rfl
  rw [trace_add _ 1 1, run_add _ 1 1, trace_one, trace_one, run_one, run_one, quiet, raised, freed]
  refine ⟨?_, ⟨rfl, rfl, rfl, rfl, here.pending⟩, ?_⟩
  · rw [lines_released rfl]
    rfl
  · show Function.update machine.irqs 0 true 0 = true
    exact Function.update_self _ _ _

/-- **The end of the packet**: two bits of SE0, one of J, and release. -/
theorem endOfPacket_spec {pins : Pins} (here : At 4 pins [] machine) :
    trace (txConfig .full) 14 machine =
        List.replicate 8 se0 ++ List.replicate 4 (levelLines .J) ++ List.replicate 2 released ∧
      Parked (run (txConfig .full) 14 machine) := by
  obtain ⟨first, fifth⟩ := irq_spec here
  obtain ⟨second, sixth⟩ := hold_spec fifth (by decide) (program_at rfl)
  obtain ⟨closing, seventh⟩ := hold_spec sixth (by decide) (program_at rfl)
  obtain ⟨quiet, parked⟩ := park_spec seventh
  rw [trace_add _ 4 10, run_add _ 4 10, trace_add _ 4 6, run_add _ 4 6, trace_add _ 4 2,
    run_add _ 4 2, first, second, closing, quiet]
  exact ⟨rfl, parked⟩

end EndOfPacket

/-! ### The start of the packet -/

section Start

variable {bits : List Bool} {machine : Machine}

/-- **Leaving the park**: three cycles later the idle J is driven. -/
theorem start_spec (loaded : Loaded bits machine) (clear : machine.irqs 0 = false) :
    trace (txConfig .full) 4 machine = List.replicate 3 released ++ [levelLines .J] ∧
      Sending .J 0 bits (run (txConfig .full) 4 machine) := by
  have waits : (txConfig .full).program machine.pc =
      some { op := .irqWait 0, side := none, delay := 0 } := by
    rw [loaded.pc]
    exact program_at rfl
  have passed := cycle_irqWait_pass loaded.delay waits loaded.waiting clear
  have pc : machine.nextPc (txConfig .full) = 9 := nextPc_of loaded.pc
  obtain ⟨topped, kept⟩ := refill_spec
    (({ machine.sideSet none with waiting := false }).complete (machine.nextPc (txConfig .full)) 0)
  rw [← passed] at topped kept
  have second : (cycle (txConfig .full) machine).pc = 9 := by rw [passed, refill_pc]; exact pc
  have idle : (cycle (txConfig .full) machine).delay = 0 := by rw [passed, refill_delay]; rfl
  have awake : (cycle (txConfig .full) machine).waiting = false := by rw [passed, refill_waiting]; rfl
  have dirs : (cycle (txConfig .full) machine).dirs = Pins.neither := by
    rw [passed, refill_dirs]
    exact loaded.dirs
  have pending := kept.trans loaded.pending
  rw [trace_add _ 1 3, run_add _ 1 3, trace_one, run_one, lines_released dirs]
  generalize cycle (txConfig .full) machine = jumping at *
  have found : (txConfig .full).program jumping.pc =
      some { op := .jmp .always 0, side := none, delay := 0 } := by
    rw [second]
    exact program_at rfl
  have jumped : cycle (txConfig .full) jumping = { jumping with pc := 0, delay := 0 } :=
    cycle_jmp_taken idle found rfl topped
  have counted : cycle (txConfig .full) { jumping with pc := 0, delay := 0 } =
      { jumping with pc := 1, delay := 0, y := onesLeft 0, pins := dpHigh } :=
    @cycle_setY _ _ 0 (some dpHigh) 5 rfl (program_at rfl) topped
  have driven : cycle (txConfig .full)
      { jumping with pc := 1, delay := 0, y := onesLeft 0, pins := dpHigh } =
      { jumping with
        pc := 2, delay := 0, y := onesLeft 0, pins := dpHigh, dirs := Pins.both } :=
    @cycle_setPindirs _ _ 0 none Pins.both rfl (program_at rfl) topped
  rw [trace_add _ 1 2, run_add _ 1 2, trace_one, run_one, jumped, trace_add _ 1 1, run_add _ 1 1,
    trace_one, run_one, counted, trace_one, run_one, driven]
  have quiet : ∀ pc y pins, ({ jumping with pc, delay := 0, y, pins } : Machine).lines = released :=
    fun _ _ _ => lines_released dirs
  rw [quiet, quiet]
  exact ⟨rfl, ⟨rfl, rfl, awake, rfl, rfl, topped, pending⟩, rfl⟩

end Start

/-! ### A whole packet -/

/-- Where the slots of a packet begin and end, put together. -/
theorem levelLines_slots (level : WireState) (states : List WireState) :
    levelLines level :: (slots level states ++
      List.replicate 3 (levelLines (states.getLastD level))) =
      (level :: states).flatMap fun state => List.replicate 4 (levelLines state) := by
  induction states generalizing level with
  | nil => rfl
  | cons next rest ih =>
    rw [List.flatMap_cons, ← ih, slots, List.getLastD_cons]
    simp only [List.append_assoc, List.cons_append]
    rfl

/-- The last level sent is the one the line stands at. -/
theorem getLastD_levels (level : WireState) (bits : List Bool) :
    (levels WireState.flip level bits).getLastD level = lastLevel WireState.flip level bits := by
  induction bits generalizing level with
  | nil => rfl
  | cons bit rest ih => rw [levels, List.getLastD_cons, ih]; rfl

/-- The lines over a packet: the idle J, its wire states, and its end, four cycles a bit. -/
def packetLines (states : List WireState) : List Lines :=
  (WireState.J :: states).flatMap (fun state => List.replicate 4 (levelLines state)) ++
    List.replicate 8 se0 ++ List.replicate 4 (levelLines .J)

/-- **A whole packet** from the moment its flag is cleared. -/
theorem sendPacket_spec {bits : List Bool} {machine : Machine} (loaded : Loaded bits machine)
    (clear : machine.irqs 0 = false) :
    trace (txConfig .full) (4 * (stuff 6 0 bits).length + 21) machine =
        List.replicate 3 released ++ packetLines (levels WireState.flip .J (stuff 6 0 bits)) ++
          List.replicate 2 released ∧
      Parked (run (txConfig .full) (4 * (stuff 6 0 bits).length + 21) machine) := by
  obtain ⟨started, sending⟩ := start_spec loaded clear
  obtain ⟨sent, finished⟩ := sendBits_spec (Nat.succ_pos 5) sending
  obtain ⟨checked, ending⟩ := checkEmpty_spec finished
  obtain ⟨ended, parked⟩ := endOfPacket_spec ending
  rw [show 4 * (stuff 6 0 bits).length + 21 = 4 + (4 * (stuff 6 0 bits).length + (3 + 14)) by omega,
    trace_add, run_add, trace_add, run_add, trace_add, run_add, started, sent, checked, ended]
  refine ⟨?_, parked⟩
  unfold packetLines
  rw [← levelLines_slots, getLastD_levels]
  simp only [List.append_assoc, List.cons_append, List.nil_append]

end PioUsbHost.Pio
