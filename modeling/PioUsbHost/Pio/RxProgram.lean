/-
**The receive programs and their image.**

Two programs share the instruction memory of the receiving block. The byte decoder, from address 0,
waits for a flag, samples the data line and shifts one bit in; the edge detector, from address 15,
finds the middle of every bit on the other line and raises that flag. `rxProgram` is their assembler
text with its labels resolved, as the image has it that the driver writes over the assembled words. The
two differ in the last instruction of the edge detector: the text has `jmp pin pin_went_low`, the image
an unconditional jump there (0x0014). With the registers of either profile the two state machines run
the same two programs (`decoderConfig`, `detectorConfig`).
-/

import Mathlib.Tactic.IntervalCases
import PioUsbHost.Lib.PioInput
import PioUsbHost.Pio.WireProfile

namespace PioUsbHost.Pio

open PioUsbHost.Lib.PioInput
open PioUsbHost.Lib.PioMachine (Word)

/-! ### The image -/

/-- `RX_PROGRAM_IMAGE`. -/
def rxProgramImage : List UInt16 :=
  [0xe046, 0x20c4, 0x00c9, 0x006e, 0x0027, 0x4061, 0x000e, 0x40e1, 0x0081, 0x006e, 0x002d,
    0x4021, 0x0081, 0x4061, 0xa029, 0xc022, 0x00d0, 0xc103, 0xc104, 0x00db, 0x00db, 0x00db,
    0x00db, 0x00db, 0x00db, 0xa226, 0x004f, 0xa0c3, 0x4001, 0xc004, 0x00d9, 0x0014]

/-- The value written to `SM0_SHIFTCTRL`: autopush at eight bits, shifting right. -/
def rxShiftctrl : Word := 0x808d0000

/-- The value written to `SM1_SHIFTCTRL`: no autopush, shifting left. -/
def edgeShiftctrl : Word := 0x00880000

/-- What the registers of a receiving state machine make of the image. -/
def inputConfig (execctrl shiftctrl : Word) : Config where
  program := fun pc => rxProgramImage[pc]?.bind decode
  wrapTop := WireProfile.wrapTop execctrl
  wrapBottom := WireProfile.wrapBottom execctrl
  shiftsRight := shiftctrl.getLsbD 18
  pushThreshold := if shiftctrl.getLsbD 16 then some (field shiftctrl 20 5) else none

/-- SM0 of the receiving block. -/
def rxConfig (profile : WireProfile) : Config := inputConfig profile.rxExecctrlImage rxShiftctrl

/-- SM1 of the receiving block. -/
def edgeConfig (profile : WireProfile) : Config :=
  inputConfig profile.edgeExecctrlImage edgeShiftctrl

/-! ### The programs -/

/-- The byte decoder, and the edge detector behind it. -/
def rxProgram : List Instr :=
  [ -- the byte decoder (wrap target):
    { op := .setY 6, delay := 0 },
    -- irq_wait:
    { op := .waitIrq 4, delay := 0 },
    { op := .jmp .pin 9, delay := 0 },
    -- pin_low:
    { op := .jmp .notY 14, delay := 0 },
    { op := .jmp .notX 7, delay := 0 },
    { op := .shiftIn .null, delay := 0 },
    { op := .jmp .always 14, delay := 0 },
    -- k1:
    { op := .shiftIn .osr, delay := 0 },
    { op := .jmp .yPostDec 1, delay := 0 },
    -- pin_high:
    { op := .jmp .notY 14, delay := 0 },
    { op := .jmp .notX 13, delay := 0 },
    { op := .shiftIn .x, delay := 0 },
    { op := .jmp .yPostDec 1, delay := 0 },
    -- j1:
    { op := .shiftIn .null, delay := 0 },
    -- flip:
    { op := .invertX, delay := 0 },
    -- the edge detector, eop:
    { op := .irqWait 2, delay := 0 },
    -- start:
    { op := .jmp .pin 16, delay := 0 },
    { op := .irq 3, delay := 1 },
    -- pin_still_low (wrap target):
    { op := .irq 4, delay := 1 },
    -- pin_low:
    { op := .jmp .pin 27, delay := 0 },
    -- pin_went_low:
    { op := .jmp .pin 27, delay := 0 },
    { op := .jmp .pin 27, delay := 0 },
    { op := .jmp .pin 27, delay := 0 },
    { op := .jmp .pin 27, delay := 0 },
    { op := .jmp .pin 27, delay := 0 },
    -- pin_still_high:
    { op := .copyIsr, delay := 2 },
    { op := .jmp .xPostDec 15, delay := 0 },
    -- pin_went_high:
    { op := .clearIsr, delay := 0 },
    { op := .shiftIn .pin, delay := 0 },
    { op := .irq 4, delay := 0 },
    { op := .jmp .pin 25, delay := 0 },
    { op := .jmp .always 20, delay := 0 } ]

/-- **The image is the two programs.** -/
theorem decode_rxProgramImage : rxProgramImage.map decode = rxProgram.map some := by decide

/-- The byte decoder, running its program. -/
def decoderConfig : Config where
  program := fun pc => rxProgram[pc]?
  wrapTop := 14
  wrapBottom := 0
  shiftsRight := true
  pushThreshold := some 8

/-- The edge detector, running its program. -/
def detectorConfig : Config where
  program := fun pc => rxProgram[pc]?
  wrapTop := 24
  wrapBottom := 18
  shiftsRight := false
  pushThreshold := none

theorem inputConfig_eq (execctrl shiftctrl : Word) : inputConfig execctrl shiftctrl =
    { program := fun pc => rxProgram[pc]?
      wrapTop := WireProfile.wrapTop execctrl
      wrapBottom := WireProfile.wrapBottom execctrl
      shiftsRight := shiftctrl.getLsbD 18
      pushThreshold := if shiftctrl.getLsbD 16 then some (field shiftctrl 20 5) else none } := by
  have program : (inputConfig execctrl shiftctrl).program = fun pc => rxProgram[pc]? := by
    funext pc
    show (rxProgramImage[pc]?).bind decode = _
    rw [bind_getElem?, decode_rxProgramImage, List.getElem?_map]
    cases rxProgram[pc]? <;> rfl
  rw [← program]
  rfl

/-! ### Two programs in one memory -/

/-- The byte decoder jumps within its own part, raises no flag, and waits in one place. -/
theorem decoder_region {pc : Nat} (inside : pc ≤ 14) : ∃ instr, rxProgram[pc]? = some instr ∧
    (∀ condition target, instr.op = .jmp condition target → target ≤ 14) ∧
    (∀ index, instr.op ≠ .irq index ∧ instr.op ≠ .irqWait index) ∧
    ∀ index, instr.op = .waitIrq index → pc = 1 ∧ index = 4 := by
  interval_cases pc <;> refine ⟨_, rfl, ?_, ?_, ?_⟩ <;> simp

/-- So does the edge detector, which raises flags 2 to 4 and clears none. -/
theorem detector_region {pc : Nat} (low : 15 ≤ pc) (high : pc ≤ 31) :
    ∃ instr, rxProgram[pc]? = some instr ∧
    (∀ condition target, instr.op = .jmp condition target → 15 ≤ target ∧ target ≤ 31) ∧
    (pc = 31 → instr.op = .jmp .always 20) ∧
    (∀ index, instr.op = .irq index ∨ instr.op = .irqWait index → 2 ≤ index ∧ index ≤ 4) ∧
    ∀ index, instr.op ≠ .waitIrq index := by
  interval_cases pc <;> refine ⟨_, rfl, ?_, ?_, ?_, ?_⟩ <;> simp

section Regions

variable {machine : Machine} {inputs : Inputs}

/-- **A cycle of the byte decoder** stays in its part, raises nothing, and clears flag 4 alone, at its
wait. -/
theorem decoder_cycle (inside : machine.pc ≤ 14) :
    (cycle decoderConfig inputs machine).1.pc ≤ 14 ∧
      (cycle decoderConfig inputs machine).2.raised = none ∧
      ∀ index, (cycle decoderConfig inputs machine).2.cleared = some index →
        machine.pc = 1 ∧ index = 4 := by
  obtain ⟨instr, found, jumps, raises, waits⟩ := decoder_region inside
  refine ⟨?_, ?_, fun index cleared => ?_⟩
  · rcases @cycle_pc decoderConfig inputs machine instr found with stays | ⟨next, -⟩ | ⟨condition, jump⟩
    · rw [stays]
      exact inside
    · rw [next]
      unfold Machine.nextPc
      split
      · exact Nat.zero_le 14
      next before =>
        have before : machine.pc ≠ 14 := before
        omega
    · exact jumps condition _ jump
  · rw [Option.eq_none_iff_forall_ne_some]
    intro index raised
    obtain ⟨other, same, flag⟩ := cycle_raised raised
    cases found.symm.trans same
    rcases flag with flag | flag
    · exact (raises index).1 flag
    · exact (raises index).2 flag
  · obtain ⟨delay, same⟩ := cycle_cleared cleared
    cases found.symm.trans same
    exact waits index rfl

/-- **A cycle of the edge detector** stays in its part, clears nothing, and raises flags 2 to 4 alone. -/
theorem detector_cycle (low : 15 ≤ machine.pc) (high : machine.pc ≤ 31) :
    (15 ≤ (cycle detectorConfig inputs machine).1.pc ∧
      (cycle detectorConfig inputs machine).1.pc ≤ 31) ∧
      (cycle detectorConfig inputs machine).2.cleared = none ∧
      ∀ index, (cycle detectorConfig inputs machine).2.raised = some index →
        2 ≤ index ∧ index ≤ 4 := by
  obtain ⟨instr, found, jumps, last, raises, waits⟩ := detector_region low high
  refine ⟨?_, ?_, fun index raised => ?_⟩
  · rcases @cycle_pc detectorConfig inputs machine instr found with
      stays | ⟨next, conditional⟩ | ⟨condition, jump⟩
    · rw [stays]
      exact ⟨low, high⟩
    · rw [next]
      unfold Machine.nextPc
      split
      · exact ⟨by decide, by decide⟩
      · have before : machine.pc ≠ 31 := fun ends => conditional 20 (last ends)
        omega
    · exact jumps condition _ jump
  · rw [Option.eq_none_iff_forall_ne_some]
    intro index cleared
    obtain ⟨delay, same⟩ := cycle_cleared cleared
    cases found.symm.trans same
    exact waits index rfl
  · obtain ⟨other, same, flag⟩ := cycle_raised raised
    cases found.symm.trans same
    exact raises index flag

end Regions

section Settings

variable (speed : Speed) {dpPin dmPin : UInt8}

/-- **SM0 runs the byte decoder**, at either speed and on any pins. -/
theorem rxConfig_forSpeed (dp : dpPin.toNat < 2 ^ 5) (dm : dmPin.toNat < 2 ^ 5) :
    rxConfig (WireProfile.forSpeed speed dpPin dmPin) = decoderConfig := by
  obtain ⟨⟨-, top, bottom, -⟩, -⟩ := WireProfile.forSpeed_images speed dp dm
  have threshold : field rxShiftctrl 20 5 = 8 := by decide
  rw [rxConfig, inputConfig_eq, top, bottom, threshold]
  rfl

/-- **SM1 runs the edge detector**, at either speed and on any pins. -/
theorem edgeConfig_forSpeed (dp : dpPin.toNat < 2 ^ 5) (dm : dmPin.toNat < 2 ^ 5) :
    edgeConfig (WireProfile.forSpeed speed dpPin dmPin) = detectorConfig := by
  obtain ⟨-, -, top, bottom, -⟩ := WireProfile.forSpeed_images speed dp dm
  rw [edgeConfig, inputConfig_eq, top, bottom]
  rfl

end Settings

end PioUsbHost.Pio
