/-
**The register images of a bus speed.**

`WireProfile.forSpeed` is `for_speed` of `rp2040.rs`: the images of its speed with the pin numbers put
into their fields. Putting a value into a field (`replaceField`) leaves every other field as it is, so
the programs keep their wraps whatever the pins; the receivers look at the pin that is high in J
(`dataPin`) and at the other one (`edgePin`).
-/

import PioUsbHost.Pio.TxProgram

namespace PioUsbHost.Pio

open PioUsbHost.Lib.PioMachine (Word)

/-! ### Fields of a register -/

/-- `replace_field`. -/
def replaceField (image : Word) (shift width : Nat) (value : UInt8) : Word :=
  let mask : Word := BitVec.ofNat 32 (2 ^ width - 1) <<< shift
  (image &&& ~~~mask) ||| (BitVec.ofNat 32 value.toNat <<< shift)

/-- The value of a field. -/
def field (image : Word) (shift width : Nat) : Nat := (image.extractLsb' shift width).toNat

section Fields

variable (image : Word) {shift width other otherWidth : Nat} {value : UInt8}

/-- The bits of a replaced field. -/
theorem getLsbD_replaceField (fits : value.toNat < 2 ^ width) (inside : shift + width ≤ 32)
    (index : Nat) : (replaceField image shift width value).getLsbD index =
      if shift ≤ index ∧ index < shift + width then value.toNat.testBit (index - shift)
      else image.getLsbD index := by
  have beyond : width ≤ index - shift → value.toNat.testBit (index - shift) = false := fun high =>
    Nat.testBit_lt_two_pow (Nat.lt_of_lt_of_le fits (Nat.pow_le_pow_right (by decide) high))
  unfold replaceField
  rw [BitVec.getLsbD_or, BitVec.getLsbD_and, BitVec.getLsbD_not, BitVec.getLsbD_shiftLeft,
    BitVec.getLsbD_shiftLeft, BitVec.getLsbD_ofNat, BitVec.getLsbD_ofNat,
    Nat.testBit_two_pow_sub_one]
  by_cases short : index < 32
  · by_cases low : index < shift
    · rw [if_neg (by omega)]
      simp [short, low]
    · by_cases high : index < shift + width
      · rw [if_pos ⟨Nat.not_lt.mp low, high⟩]
        have within : index - shift < width := by omega
        have whole : index - shift < 32 := by omega
        simp [short, low, within, whole]
      · rw [if_neg (fun both => high both.2), beyond (by omega)]
        have without : ¬ index - shift < width := by omega
        simp [short, without]
  · rw [if_neg (by omega), BitVec.getLsbD_of_ge _ _ (by omega)]
    simp [short]

/-- **A replaced field holds its value.** -/
theorem field_replaceField (fits : value.toNat < 2 ^ width) (inside : shift + width ≤ 32) :
    field (replaceField image shift width value) shift width = value.toNat := by
  unfold field
  refine Nat.eq_of_testBit_eq fun index => ?_
  rw [BitVec.testBit_toNat, BitVec.getLsbD_extractLsb', getLsbD_replaceField image fits inside]
  by_cases within : index < width
  · rw [if_pos ⟨Nat.le_add_right _ _, by omega⟩, Nat.add_sub_cancel_left, decide_eq_true within,
      Bool.true_and]
  · rw [decide_eq_false within, Bool.false_and]
    exact (Nat.testBit_lt_two_pow (Nat.lt_of_lt_of_le fits
      (Nat.pow_le_pow_right (by decide) (Nat.not_lt.mp within)))).symm

/-- **The other fields keep theirs.** -/
theorem field_replaceField_of_disjoint (fits : value.toNat < 2 ^ width) (inside : shift + width ≤ 32)
    (disjoint : other + otherWidth ≤ shift ∨ shift + width ≤ other) :
    field (replaceField image shift width value) other otherWidth = field image other otherWidth := by
  unfold field
  refine congrArg BitVec.toNat (BitVec.eq_of_getLsbD_eq fun index within => ?_)
  rw [BitVec.getLsbD_extractLsb', BitVec.getLsbD_extractLsb', decide_eq_true within, Bool.true_and,
    Bool.true_and, getLsbD_replaceField image fits inside, if_neg (by omega)]

end Fields

/-! ### The profiles -/

/-- The register images of one speed. -/
structure WireProfile where
  speed : Speed
  txProgram : List UInt16
  txClkdivImage : Word
  rxExecctrlImage : Word
  rxPinctrlImage : Word
  edgeClkdivImage : Word
  edgeExecctrlImage : Word
  edgePinctrlImage : Word
  txEopGuardCycles : UInt32
  rxAckEopGuardCycles : UInt32
  handshakeStartTimeoutUs : Nat
  handshakePacketTimeoutUs : Nat

/-- The system clock. -/
def sysClockHz : UInt32 := 120000000

/-- `rx_execctrl_image`. -/
def withJmpPin (image : Word) (jmpPin : UInt8) : Word := replaceField image 24 5 jmpPin

/-- `rx_pinctrl_image`. -/
def withInBase (image : Word) (inBase : UInt8) : Word := replaceField image 15 5 inBase

namespace WireProfile

/-- `WireProfile::FULL`. -/
def full : WireProfile where
  speed := .full
  txProgram := txFullSpeedProgramImage
  txClkdivImage := 0x00028000
  rxExecctrlImage := 0x1000e000
  rxPinctrlImage := 0x00080000
  edgeClkdivImage := 0x00014000
  edgeExecctrlImage := 0x11018900
  edgePinctrlImage := 0x00080000
  txEopGuardCycles := sysClockHz / 2000000
  rxAckEopGuardCycles := 0
  handshakeStartTimeoutUs := 5
  handshakePacketTimeoutUs := 20

/-- `WireProfile::LOW`. -/
def low : WireProfile where
  speed := .low
  txProgram := txLowSpeedProgramImage
  txClkdivImage := 0x00140000
  rxExecctrlImage := 0x1100e000
  rxPinctrlImage := 0x00088000
  edgeClkdivImage := 0x000a0000
  edgeExecctrlImage := 0x10018900
  edgePinctrlImage := 0x00088000
  txEopGuardCycles := sysClockHz / 333333
  rxAckEopGuardCycles := sysClockHz / 500000
  handshakeStartTimeoutUs := 20
  handshakePacketTimeoutUs := 100

/-- The pin that is high in J. -/
def dataPin (speed : Speed) (dpPin dmPin : UInt8) : UInt8 :=
  match speed with
  | .full => dpPin
  | .low => dmPin

/-- The pin that is low in J. -/
def edgePin (speed : Speed) (dpPin dmPin : UInt8) : UInt8 :=
  match speed with
  | .full => dmPin
  | .low => dpPin

/-- The profile of a speed, before its pins are set. -/
def ofSpeed : Speed → WireProfile
  | .full => full
  | .low => low

/-- **`for_speed`**, for the two speeds there is a profile of. -/
def forSpeed (speed : Speed) (dpPin dmPin : UInt8) : WireProfile :=
  let profile := ofSpeed speed
  let rxPin := dataPin speed dpPin dmPin
  let edgeJmpPin := edgePin speed dpPin dmPin
  { profile with
    rxExecctrlImage := withJmpPin profile.rxExecctrlImage rxPin
    rxPinctrlImage := withInBase profile.rxPinctrlImage rxPin
    edgeExecctrlImage := withJmpPin profile.edgeExecctrlImage edgeJmpPin
    edgePinctrlImage := withInBase profile.edgePinctrlImage rxPin }

/-! ### What the state machines take from the images -/

/-- The pin of a `jmp pin`. -/
def jmpPin (execctrl : Word) : Nat := field execctrl 24 5

/-- The first pin of an `in pins`. -/
def inBase (pinctrl : Word) : Nat := field pinctrl 15 5

/-- The last address of the program, in `EXECCTRL`. -/
def wrapTop (execctrl : Word) : Nat := field execctrl 12 5

/-- The address that follows it, in `EXECCTRL`. -/
def wrapBottom (execctrl : Word) : Nat := field execctrl 7 5

/-- The divisor of a clock, in units of 1/256. -/
def divisor (clkdiv : Word) : Nat := field clkdiv 8 24

section Images

variable (speed : Speed) {dpPin dmPin : UInt8}

theorem dataPin_lt (dp : dpPin.toNat < 2 ^ 5) (dm : dmPin.toNat < 2 ^ 5) :
    (dataPin speed dpPin dmPin).toNat < 2 ^ 5 := by
  cases speed
  · exact dp
  · exact dm

theorem edgePin_lt (dp : dpPin.toNat < 2 ^ 5) (dm : dmPin.toNat < 2 ^ 5) :
    (edgePin speed dpPin dmPin).toNat < 2 ^ 5 := by
  cases speed
  · exact dm
  · exact dp

/-- **Whatever the pins**, the images keep their wraps, and send the decoder to the data pin and the
edge detector to both. -/
theorem forSpeed_images (dp : dpPin.toNat < 2 ^ 5) (dm : dmPin.toNat < 2 ^ 5) :
    let profile := forSpeed speed dpPin dmPin
    (jmpPin profile.rxExecctrlImage = (dataPin speed dpPin dmPin).toNat ∧
      wrapTop profile.rxExecctrlImage = 14 ∧ wrapBottom profile.rxExecctrlImage = 0 ∧
      inBase profile.rxPinctrlImage = (dataPin speed dpPin dmPin).toNat) ∧
    jmpPin profile.edgeExecctrlImage = (edgePin speed dpPin dmPin).toNat ∧
      wrapTop profile.edgeExecctrlImage = 24 ∧ wrapBottom profile.edgeExecctrlImage = 18 ∧
      inBase profile.edgePinctrlImage = (dataPin speed dpPin dmPin).toNat := by
  have data := dataPin_lt speed dp dm
  have edge := edgePin_lt speed dp dm
  refine ⟨⟨?_, ?_, ?_, ?_⟩, ?_, ?_, ?_, ?_⟩
  · exact field_replaceField _ data (by decide)
  · refine (field_replaceField_of_disjoint _ data (by decide) (by decide)).trans ?_
    cases speed <;> decide
  · refine (field_replaceField_of_disjoint _ data (by decide) (by decide)).trans ?_
    cases speed <;> decide
  · exact field_replaceField _ data (by decide)
  · exact field_replaceField _ edge (by decide)
  · refine (field_replaceField_of_disjoint _ edge (by decide) (by decide)).trans ?_
    cases speed <;> decide
  · refine (field_replaceField_of_disjoint _ edge (by decide) (by decide)).trans ?_
    cases speed <;> decide
  · exact field_replaceField _ data (by decide)

end Images

end WireProfile

end PioUsbHost.Pio
