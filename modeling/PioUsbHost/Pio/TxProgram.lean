/-
**The transmit program and its two images.**

`txProgram` is the assembler text of the transmitter with its labels resolved; the constants around it
are the words and the register values the driver writes. Both images are that program: the full-speed
one as it stands, the low-speed one with D+ and D- exchanged.
-/

import PioUsbHost.Lib.PioMachine

namespace PioUsbHost.Pio

open PioUsbHost.Lib.PioMachine

/-! ### The images -/

/-- The speed of the wire. -/
inductive Speed where
  | full
  | low
  deriving DecidableEq, Repr

/-- `TX_FULL_SPEED_PROGRAM_IMAGE`. -/
def txFullSpeedProgramImage : List UInt16 :=
  [0xf445, 0xe083, 0x00ea, 0xa142, 0xd301, 0xa342, 0xb742, 0xe080, 0xc020, 0x0000, 0x6021, 0x002e,
    0x1482, 0xa242, 0xf845, 0x00f1, 0x0104, 0x6021, 0x0035, 0x188f, 0xa242, 0xf445]

/-- `TX_LOW_SPEED_PROGRAM_IMAGE`. -/
def txLowSpeedProgramImage : List UInt16 :=
  [0xf845, 0xe083, 0x00ea, 0xa142, 0xd301, 0xa342, 0xbb42, 0xe080, 0xc020, 0x0000, 0x6021, 0x002e,
    0x1882, 0xa242, 0xf445, 0x00f1, 0x0104, 0x6021, 0x0035, 0x148f, 0xa242, 0xf845]

/-- `tx_program` of the wire profile. -/
def txProgramImage : Speed → List UInt16
  | .full => txFullSpeedProgramImage
  | .low => txLowSpeedProgramImage

/-- The value written to `SM0_EXECCTRL`: optional side-set and the wrap. -/
def txExecctrl : Nat := 0x40015100

/-- The value written to `SM0_SHIFTCTRL`: autopull at eight bits, shifting right. -/
def txShiftctrl : Nat := 0x500e0000

/-- The state machine as the driver sets it up. -/
def txConfig (speed : Speed) : Config where
  program := fun pc => (txProgramImage speed)[pc]?.bind decode
  wrapTop := txExecctrl / 2 ^ 12 % 2 ^ 5
  wrapBottom := txExecctrl / 2 ^ 7 % 2 ^ 5
  pullThreshold := txShiftctrl / 2 ^ 25 % 2 ^ 5

/-! ### The program -/

/-- D+ high, D- low: the full-speed J. -/
def dpHigh : Pins := ⟨true, false⟩

/-- D- high, D+ low: the full-speed K. -/
def dmHigh : Pins := ⟨false, true⟩

/-- The transmit program. -/
def txProgram : List Instr :=
  [ -- start:
    { op := .setY 5, side := some dpHigh, delay := 0 },
    { op := .setPindirs Pins.both, side := none, delay := 0 },
    -- check_eop1 (wrap target):
    { op := .jmp .notOsre 10, side := none, delay := 0 },
    { op := .nop, side := none, delay := 1 },
    -- send_eop:
    { op := .irq 1, side := some Pins.neither, delay := 3 },
    { op := .nop, side := none, delay := 3 },
    { op := .nop, side := some dpHigh, delay := 3 },
    { op := .setPindirs Pins.neither, side := none, delay := 0 },
    { op := .irqWait 0, side := none, delay := 0 },
    { op := .jmp .always 0, side := none, delay := 0 },
    -- load_bit1:
    { op := .out .x 1, side := none, delay := 0 },
    { op := .jmp .notX 14, side := none, delay := 0 },
    -- high1:
    { op := .jmp .yPostDec 2, side := some dpHigh, delay := 0 },
    { op := .nop, side := none, delay := 2 },
    -- low1:
    { op := .setY 5, side := some dmHigh, delay := 0 },
    -- check_eop2:
    { op := .jmp .notOsre 17, side := none, delay := 0 },
    { op := .jmp .always 4, side := none, delay := 1 },
    -- load_bit2:
    { op := .out .x 1, side := none, delay := 0 },
    { op := .jmp .notX 21, side := none, delay := 0 },
    -- high2:
    { op := .jmp .yPostDec 15, side := some dmHigh, delay := 0 },
    { op := .nop, side := none, delay := 2 },
    -- low2:
    { op := .setY 5, side := some dpHigh, delay := 0 } ]

/-- **The full-speed image is the program.** -/
theorem decode_txFullSpeedProgramImage :
    txFullSpeedProgramImage.map decode = txProgram.map some := by decide

/-- **The low-speed image is the program with the pins exchanged.** -/
theorem decode_txLowSpeedProgramImage :
    txLowSpeedProgramImage.map decode = txProgram.map (fun instr => some instr.swap) := by decide

theorem bind_getElem? {α β : Type*} (items : List α) (f : α → Option β) (index : Nat) :
    items[index]?.bind f = (items.map f)[index]?.join := by
  rw [List.getElem?_map]
  cases items[index]? <;> rfl

theorem txConfig_full_program (pc : Nat) : (txConfig .full).program pc = txProgram[pc]? := by
  show (txFullSpeedProgramImage[pc]?).bind decode = _
  rw [bind_getElem?, decode_txFullSpeedProgramImage, List.getElem?_map]
  cases txProgram[pc]? <;> rfl

/-- The low-speed transmitter is the full-speed one with the pins exchanged. -/
theorem txConfig_low : txConfig .low = (txConfig .full).swap := by
  refine Config.ext (funext fun pc => ?_) rfl rfl rfl
  show (txLowSpeedProgramImage[pc]?).bind decode = ((txConfig .full).program pc).map Instr.swap
  rw [txConfig_full_program, bind_getElem?, decode_txLowSpeedProgramImage, List.getElem?_map]
  cases txProgram[pc]? <;> rfl

end PioUsbHost.Pio
