/-
**The table-driven CRC-16 of the receive path is the bit loop, and its residue is the CRC test.**

`crc16UpdateRam` is the SRAM table step of `rp2040.rs`. It agrees with one byte of the bit loop of
`crc16Data` (`crc16UpdateRam_eq`), and folding it over a DATA body, payload and CRC together, ends in
the residue `0xb001` exactly when the trailing two bytes are the CRC of the rest
(`crc16Residue_iff`). Both are instances of `Lib.ReflectedCrc` at width 16.
-/

import PioUsbHost.Lib.ReflectedCrc
import PioUsbHost.Usb.Packet

namespace PioUsbHost.Usb

open PioUsbHost.Lib.ReflectedCrc

/-! ### The table -/

/-- One table entry: the index, shifted eight times. -/
def crc16TableEntry (index : Nat) : UInt16 := crc16Bit^[8] (UInt16.ofNat index)

/-- `make_crc16_table()`. -/
def makeCrc16Table : Vector UInt16 256 := Vector.ofFn fun index => crc16TableEntry index.val

theorem makeCrc16Table_get (index : Fin 256) :
    makeCrc16Table.get index = crc16TableEntry index.val := by
  show makeCrc16Table[index.val] = crc16TableEntry index.val
  rw [makeCrc16Table, Vector.getElem_ofFn]

/-- One byte of the streaming CRC, from the table. -/
def crc16UpdateRam (crc : UInt16) (byte : UInt8) : UInt16 :=
  (crc >>> 8) ^^^ makeCrc16Table.get ⟨(crc.toUInt8 ^^^ byte).toNat, UInt8.toNat_lt _⟩

/-- `CRC16_USB_RESIDUE`. -/
def crc16UsbResidue : UInt16 := 0xb001

/-! ### The bit loop on bit vectors -/

/-- The reflected CRC-16 polynomial. -/
def crc16Poly : BitVec 16 := 0xa001

theorem crc16Poly_top : crc16Poly.getLsbD 15 = true := by decide

/-- The low bit test of the loop. -/
theorem and_one_ne_zero_iff (crc : UInt16) : crc &&& 1 ≠ 0 ↔ crc.toBitVec.getLsbD 0 = true := by
  have masked : (crc &&& 1).toBitVec = BitVec.setWidth 16 (BitVec.ofBool (crc.toBitVec.getLsbD 0)) := by
    rw [UInt16.toBitVec_and]
    exact BitVec.and_one_eq_setWidth_ofBool_getLsbD
  rw [Ne, ← UInt16.toBitVec_inj, masked]
  cases crc.toBitVec.getLsbD 0 <;> decide

theorem crc16Bit_toBitVec (crc : UInt16) :
    (crc16Bit crc).toBitVec = shiftBit crc16Poly crc.toBitVec := by
  unfold crc16Bit shiftBit
  by_cases low : crc &&& 1 ≠ 0
  · rw [if_pos low, if_pos ((and_one_ne_zero_iff crc).mp low), UInt16.toBitVec_xor,
      UInt16.toBitVec_shiftRight]
    rfl
  · rw [if_neg low, if_neg fun set => low ((and_one_ne_zero_iff crc).mpr set),
      UInt16.toBitVec_shiftRight]
    rfl

theorem crc16Bit_iterate_toBitVec (steps : Nat) (crc : UInt16) :
    (crc16Bit^[steps] crc).toBitVec = (shiftBit crc16Poly)^[steps] crc.toBitVec := by
  induction steps generalizing crc with
  | zero => rfl
  | succ steps ih => rw [Function.iterate_succ_apply, ih, crc16Bit_toBitVec]; rfl

theorem crc16Byte_toBitVec (crc : UInt16) (byte : UInt8) :
    (crc16Byte crc byte).toBitVec =
      (shiftBit crc16Poly)^[8] (crc.toBitVec ^^^ byte.toBitVec.setWidth 16) := by
  rw [crc16Byte, crc16Bit_iterate_toBitVec, UInt16.toBitVec_xor]
  rfl

/-! ### The table step is the bit loop -/

/-- The table index is the low byte of the register with the byte absorbed. -/
theorem tableIndex_toBitVec (crc : UInt16) (byte : UInt8) :
    (UInt16.ofNat (crc.toUInt8 ^^^ byte).toNat).toBitVec =
      ((crc.toBitVec.setWidth 8) ^^^ byte.toBitVec).setWidth 16 := by
  apply BitVec.eq_of_toNat_eq
  have bound := (crc.toUInt8 ^^^ byte).toNat_lt
  rw [UInt16.toNat_toBitVec, UInt16.toNat_ofNat', Nat.mod_eq_of_lt (by omega)]
  rw [← UInt8.toNat_toBitVec, UInt8.toBitVec_xor, BitVec.toNat_setWidth_of_le (by omega)]
  rfl

/-- **The table step is one byte of the bit loop.** -/
theorem crc16UpdateRam_eq (crc : UInt16) (byte : UInt8) :
    crc16UpdateRam crc byte = crc16Byte crc byte := by
  rw [← UInt16.toBitVec_inj, crc16Byte_toBitVec, crc16UpdateRam, makeCrc16Table_get,
    crc16TableEntry, UInt16.toBitVec_xor, crc16Bit_iterate_toBitVec, tableIndex_toBitVec,
    UInt16.toBitVec_shiftRight]
  have split := iterate_shiftBit_split crc16Poly 8 (crc.toBitVec ^^^ byte.toBitVec.setWidth 16)
    (((crc.toBitVec.setWidth 8) ^^^ byte.toBitVec).setWidth 16)
    (fun i inside => by
      simp [inside, show i < 16 by omega])
    (by
      apply BitVec.eq_of_getLsbD_eq
      intro i _
      simp [BitVec.getLsbD_ushiftRight, BitVec.getLsbD_setWidth])
  rw [split, BitVec.ushiftRight_xor_distrib]
  have byteGone : (byte.toBitVec.setWidth 16) >>> 8 = 0#16 := by
    apply BitVec.eq_of_getLsbD_eq
    intro i _
    simp [BitVec.getLsbD_ushiftRight, BitVec.getLsbD_setWidth]
  rw [byteGone, BitVec.xor_zero]
  rfl

/-- However the bytes are split between drains, the streaming register is the bit loop's. -/
theorem foldl_crc16UpdateRam (crc : UInt16) (bytes : List UInt8) :
    bytes.foldl crc16UpdateRam crc = bytes.foldl crc16Byte crc := by
  congr 1
  funext register byte
  exact crc16UpdateRam_eq register byte

/-- The streaming register is `crc16Data` with its final inversion undone. -/
theorem foldl_crc16Byte_eq (data : List UInt8) :
    data.foldl crc16Byte 0xffff = crc16Data data ^^^ 0xffff := by
  rw [crc16Data, UInt16.xor_assoc, UInt16.xor_self, UInt16.xor_zero]

/-! ### The residue -/

/-- Two bytes absorbed one after the other are absorbed as one little-endian word. -/
theorem crc16Byte_crc16Byte_toBitVec (crc : UInt16) (low high : UInt8) :
    (crc16Byte (crc16Byte crc low) high).toBitVec =
      (shiftBit crc16Poly)^[16] (crc.toBitVec ^^^ (u16FromLeBytes low high).toBitVec) := by
  rw [crc16Byte_toBitVec, crc16Byte_toBitVec]
  have absorbed := iterate_shiftBit_absorb crc16Poly 8 8
    (crc.toBitVec ^^^ low.toBitVec.setWidth 16) (high.toBitVec.setWidth 16) (by
      apply BitVec.eq_of_getLsbD_eq
      intro i inside
      simp only [BitVec.getLsbD_ushiftRight, BitVec.getLsbD_shiftLeft, BitVec.getLsbD_setWidth]
      by_cases small : i < 8
      · simp [small, show 8 + i < 16 by omega]
      · simp [BitVec.getLsbD_of_ge high.toBitVec i (by omega)])
  rw [absorbed]
  have word : low.toBitVec.setWidth 16 ^^^ (high.toBitVec.setWidth 16) <<< 8 =
      (u16FromLeBytes low high).toBitVec := by
    unfold u16FromLeBytes
    rw [UInt16.toBitVec_or, UInt16.toBitVec_shiftLeft]
    apply BitVec.eq_of_getLsbD_eq
    intro i inside
    show (low.toBitVec.setWidth 16 ^^^ (high.toBitVec.setWidth 16) <<< 8).getLsbD i =
      (low.toBitVec.setWidth 16 ||| (high.toBitVec.setWidth 16) <<< 8).getLsbD i
    simp only [BitVec.getLsbD_xor, BitVec.getLsbD_or, BitVec.getLsbD_shiftLeft,
      BitVec.getLsbD_setWidth]
    by_cases small : i < 8
    · simp [small]
    · simp [BitVec.getLsbD_of_ge low.toBitVec i (by omega)]
  rw [BitVec.xor_assoc, word]

/-- From any register, two bytes reach the residue exactly when they are the inverted register. -/
theorem residue_step_iff (crc : UInt16) (low high : UInt8) :
    crc16Byte (crc16Byte crc low) high = crc16UsbResidue ↔
      crc ^^^ 0xffff = u16FromLeBytes low high := by
  have constant : (crc16UsbResidue).toBitVec = (shiftBit crc16Poly)^[16] (0xffff : BitVec 16) := by
    decide +kernel
  rw [← UInt16.toBitVec_inj, ← UInt16.toBitVec_inj, crc16Byte_crc16Byte_toBitVec, constant,
    residue_iff crc16Poly_top, UInt16.toBitVec_xor]
  rfl

/-- A body of at least two bytes is its payload and two CRC bytes. -/
theorem body_split {body : List UInt8} (long : 2 ≤ body.length) :
    ∃ low high, body = dataPayload body ++ [low, high] ∧
      dataCrc body = u16FromLeBytes low high := by
  have tail : (body.drop (body.length - 2)).length = 2 := by rw [List.length_drop]; omega
  obtain ⟨low, high, same⟩ := List.length_eq_two.mp tail
  have parts : body = dataPayload body ++ [low, high] := by
    rw [dataPayload, ← same, List.take_append_drop]
  have payloadLength : (dataPayload body).length = body.length - 2 := by
    rw [dataPayload, List.length_take]; omega
  refine ⟨low, high, parts, ?_⟩
  have first : body.getD (body.length - 2) 0 = low := by
    conv_lhs => arg 1; rw [parts]
    rw [List.getD_eq_getElem?_getD, List.getElem?_append_right (by omega), payloadLength,
      Nat.sub_self]
    rfl
  have second : body.getD (body.length - 1) 0 = high := by
    conv_lhs => arg 1; rw [parts]
    rw [List.getD_eq_getElem?_getD, List.getElem?_append_right (by omega), payloadLength,
      show body.length - 1 - (body.length - 2) = 1 by omega]
    rfl
  rw [dataCrc, first, second]

/-- **The streaming residue is the plain CRC test**, for every body of at least two bytes. -/
theorem crc16Residue_iff {body : List UInt8} (long : 2 ≤ body.length) :
    body.foldl crc16UpdateRam 0xffff = crc16UsbResidue ↔
      crc16Data (dataPayload body) = dataCrc body := by
  obtain ⟨low, high, parts, trailer⟩ := body_split long
  rw [foldl_crc16UpdateRam]
  conv_lhs => lhs; rw [parts]
  rw [List.foldl_append, trailer, List.foldl_cons, List.foldl_cons, List.foldl_nil, residue_step_iff]
  rw [crc16Data]

end PioUsbHost.Usb
