/-
**What a divisor on the wire means.**

The chip reads the integer part and the fraction code from wValue, one more bit of the fraction code
from wIndex, and, on the H types, the selection of the faster clock from the bit above it. Where wIndex
also carries the channel, it stands in the low byte.

* `baudIndex_toNat`: the high bits of the code and the channel do not mix.
* `decodeEighths_eighthsCode`: the special codes are no codes of other divisors.
* `wireCode_wireDivisor`: the chip reads the code that was sent.
* `convertBaudRate_decodes`: the rate of the decoded divisor is the rate that was reported.
-/

import PioUsbHost.Ftdi.Baud

namespace PioUsbHost.Ftdi

open PioUsbHost.Lib.Panic PioUsbHost.Lib.Nearest

/-! ### How the chip decodes -/

/-- wIndex carries the channel in its low byte. -/
def FtdiChip.carriesChannel (chip : FtdiChip) : Bool :=
  chip ∈ [ft2232C, ft2232H, ft4232H, ft232H, ft230X]

/-- The code that a chip puts together from wValue and wIndex. -/
def wireCode (chip : FtdiChip) (value index : UInt16) : Nat :=
  value.toNat + 65536 * if chip.carriesChannel then index.toNat / 256 else index.toNat

/-- Bit 17 selects the clock of 120 MHz / 10 on the H types; the others have 48 MHz / 16. -/
def decodeClock (chip : FtdiChip) (code : Nat) : Nat :=
  if chip.isHType = true ∧ code / 0x20000 = 1 then 12000000 else 3000000

/-- The divisor in eighths: a 14-bit integer part and a 3-bit fraction code, of which 0 and 1 together
mean the divisors 1 and 1.5. -/
def decodeEighths (code : Nat) : Nat :=
  if code % 0x20000 = 0 then 8
  else if code % 0x20000 = 1 then 12
  else 8 * (code % 0x4000) + fractionCode.idxOf (code / 0x4000 % 8)

/-! ### The channel in the low byte -/

/-- A mask of the high byte. -/
theorem and_highByte {word : Nat} (small : word < 65536) : word &&& 0xff00 = 256 * (word / 256) := by
  have high : (word &&& 0xff00) / 256 = word / 256 := by
    have masked := Nat.and_div_two_pow (a := word) (b := 0xff00) (n := 8)
    exact masked.trans ((Nat.and_two_pow_sub_one_eq_mod (word / 256) 8).trans
      (Nat.mod_eq_of_lt (by omega)))
  have low : (word &&& 0xff00) % 256 = 0 := by
    have masked := Nat.and_mod_two_pow (a := word) (b := 0xff00) (n := 8)
    exact masked.trans (Nat.and_zero _)
  omega

theorem or_channel (high : Nat) {channel : Nat} (small : channel < 256) :
    256 * high ||| channel = 256 * high + channel :=
  (Nat.two_pow_add_eq_or_of_lt (i := 8) small high).symm

/-- **The high bits and the channel do not mix.** -/
theorem baudIndex_toNat (chip : FtdiChip) {code : Nat} {channel : UInt16} (bits : code < 0x40000)
    (plain : chip.isHType = false → code < 0x20000) (small : channel.toNat < 256) :
    (baudIndex chip code channel).toNat =
      if chip.carriesChannel then 256 * (code / 65536) + channel.toNat else code / 65536 := by
  have shifted : (UInt16.ofNat (code >>> 8)).toNat = code / 256 := by
    rw [UInt16.toNat_ofNat', Nat.shiftRight_eq_div_pow]
    omega
  have top : (UInt16.ofNat (code >>> 16)).toNat = code / 65536 := by
    rw [UInt16.toNat_ofNat', Nat.shiftRight_eq_div_pow]
    omega
  have masked : ((UInt16.ofNat (code >>> 8) &&& 0xff00) ||| channel).toNat =
      256 * (code / 65536) + channel.toNat := by
    rw [UInt16.toNat_or, UInt16.toNat_and, shifted]
    have mask := and_highByte (show code / 256 < 65536 by omega)
    rw [show (0xff00 : UInt16).toNat = 0xff00 from rfl, mask, or_channel _ small]
    omega
  have moved : code < 0x20000 → ((UInt16.ofNat (code >>> 16) <<< 8) ||| channel).toNat =
      256 * (code / 65536) + channel.toNat := by
    intro oneBit
    rw [UInt16.toNat_or, UInt16.toNat_shiftLeft, top, Nat.shiftLeft_eq]
    have product : code / 65536 * 2 ^ ((8 : UInt16).toNat % 16) % 2 ^ 16 = 256 * (code / 65536) := by
      rw [show (8 : UInt16).toNat % 16 = 8 from rfl]
      omega
    rw [product, or_channel _ small]
  cases chip with
  | ft2232H | ft4232H | ft232H => exact masked
  | ft2232C | ft230X => exact moved (plain rfl)
  | ft232Am | ft232Bm | ft232R => exact top

/-! ### The code -/

theorem clockCode_bits (base : Nat) {eighths : Nat} (most : eighths ≤ 0x1ffff) :
    clockCode base eighths % 0x20000 = eighthsCode eighths ∧
      clockCode base eighths / 0x20000 = if base = 12000000 then 1 else 0 := by
  have small := eighthsCode_lt most
  rw [clockCode]
  split
  · omega
  · omega

/-- **The special codes are no codes of other divisors**: a chip decodes every divisor that it can be
given. -/
theorem decodeEighths_eighthsCode {base eighths : Nat} (most : eighths ≤ 0x1ffff)
    (divisor : eighths = 8 ∨ eighths = 12 ∨ 16 ≤ eighths) :
    decodeEighths (clockCode base eighths) = eighths := by
  have bits := clockCode_bits base most
  rw [decodeEighths, bits.1]
  rcases divisor with rfl | rfl | least
  · rfl
  · rfl
  have fractions : ∀ residue < 8, fractionCode.getD residue 0 < 8 ∧
      fractionCode.idxOf (fractionCode.getD residue 0) = residue := by decide
  have fraction := fractions (eighths % 8) (Nat.mod_lt _ (by decide))
  have code := eighthsCode_of_le least
  have integer : clockCode base eighths % 0x4000 = eighths / 8 := by omega
  have third : clockCode base eighths / 0x4000 % 8 = fractionCode.getD (eighths % 8) 0 := by omega
  rw [if_neg (by omega), if_neg (by omega), integer, third, fraction.2]
  omega

theorem clockCode_lt {base eighths : Nat} (most : eighths ≤ 0x1ffff) :
    clockCode base eighths < 0x40000 := by
  have small := eighthsCode_lt most
  rw [clockCode]
  split
  · omega
  · omega

/-- Bit 17 is never set for a chip that has one clock. -/
theorem plain_of_clock {chip : FtdiChip} {base eighths : Nat} (most : eighths ≤ 0x1ffff)
    (hType : base = 12000000 → chip.isHType = true) (other : chip.isHType = false) :
    clockCode base eighths < 0x20000 := by
  have bits := clockCode_bits base most
  have slow : base ≠ 12000000 := by
    intro fast
    rw [hType fast] at other
    cases other
  rw [if_neg slow] at bits
  omega

theorem of_baseClock {chip : FtdiChip} {baud : Nat} (fast : baseClock chip baud = 12000000) :
    chip.isHType = true := by
  rw [baseClock] at fast
  split at fast
  next both => exact both.1
  · cases fast

theorem decodeClock_clockCode {chip : FtdiChip} {base eighths : Nat} (most : eighths ≤ 0x1ffff)
    (clock : base = 3000000 ∨ base = 12000000) (hType : base = 12000000 → chip.isHType = true) :
    decodeClock chip (clockCode base eighths) = base := by
  have bits := (clockCode_bits base most).2
  rw [decodeClock, bits]
  rcases clock with rfl | rfl
  · exact if_neg fun both => absurd both.2 (by decide)
  · exact if_pos ⟨hType rfl, by decide⟩

/-- **The chip reads the code that was sent.** -/
theorem wireCode_wireDivisor {chip : FtdiChip} {base eighths : Nat} {channel : UInt16}
    (most : eighths ≤ 0x1ffff) (hType : base = 12000000 → chip.isHType = true)
    (small : channel.toNat < 256) :
    wireCode chip (wireDivisor chip base eighths channel).value
      (wireDivisor chip base eighths channel).index = clockCode base eighths := by
  have mask : clockCode base eighths &&& 0xffff = clockCode base eighths % 65536 :=
    Nat.and_two_pow_sub_one_eq_mod _ 16
  have low : (UInt16.ofNat (clockCode base eighths &&& 0xffff)).toNat =
      clockCode base eighths % 65536 := by
    rw [UInt16.toNat_ofNat', mask]
    omega
  rw [wireCode, wireDivisor, low,
    baudIndex_toNat chip (clockCode_lt most) (plain_of_clock most hType) small]
  split
  · omega
  · omega

/-- The low byte of wIndex is the channel. -/
theorem wireDivisor_channel {chip : FtdiChip} {base eighths : Nat} {channel : UInt16}
    (most : eighths ≤ 0x1ffff) (hType : base = 12000000 → chip.isHType = true)
    (small : channel.toNat < 256) (carries : chip.carriesChannel = true) :
    (wireDivisor chip base eighths channel).index.toNat % 256 = channel.toNat := by
  rw [wireDivisor, baudIndex_toNat chip (clockCode_lt most) (plain_of_clock most hType) small,
    if_pos carries]
  omega

/-- **The divisor on the wire means the reported rate.** -/
theorem convertBaudRate_decodes (chip : FtdiChip) (baud : UInt32) (channel : UInt16)
    (divisor : BaudDivisor) (positive : 1 ≤ baud.toNat) (small : baud.toNat < 2147483648)
    (byte : channel.toNat < 256)
    (converted : convertBaudRate baud chip channel = .ok (some divisor)) :
    divisor.actual.toNat =
        rounded (8 * decodeClock chip (wireCode chip divisor.value divisor.index))
          (decodeEighths (wireCode chip divisor.value divisor.index)) ∧
      (chip.carriesChannel → divisor.index.toNat % 256 = channel.toNat) := by
  have bounds := chosenEighths_bounds chip positive
  have rate := convertBaudRate_actual positive (fun _ => small) converted
  have converts := convertBaudRate_eq channel positive fun _ : chip = .ft232Am => small
  rw [converted, Except.ok.injEq, Option.some.injEq] at converts
  have hType : baseClock chip baud.toNat = 12000000 → chip.isHType = true := of_baseClock
  have code := wireCode_wireDivisor bounds.1 hType byte
  have clock := decodeClock_clockCode bounds.1 (baseClock_cases chip _) hType
  refine ⟨?_, fun carries => ?_⟩
  · rw [rate, converts, code, clock, decodeEighths_eighthsCode bounds.1 bounds.2, actualRate]
  · rw [converts]
    exact wireDivisor_channel bounds.1 hType byte carries

/-- The second channel of an FT2232H at 115200 baud. -/
theorem convertBaudRate_decodes_115200 :
    rounded (8 * decodeClock .ft2232H (wireCode .ft2232H 0xc068 0x0202))
      (decodeEighths (wireCode .ft2232H 0xc068 0x0202)) = 115246 :=
  (convertBaudRate_decodes .ft2232H 115200 2 ⟨115246, 0xc068, 0x0202⟩ (by decide) (by decide)
    (by decide) (by decide +kernel)).1.symm

end PioUsbHost.Ftdi
