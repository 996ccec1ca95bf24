/-
**What the CRC-16 of a DATA packet detects.**

The bytes after the PID are on the wire low bit first (`dataBits`), and the byte loop of `crc16Data`
is the bit-serial register of `Lib.ErrorDetection` over them (`foldl_crc16Byte_register`). A packet the
parser accepts stays acceptable under an error pattern exactly when the pattern's syndrome is zero
(`crc16_corrupt_iff`), which the general results exclude for the polynomial `0xa001`:

* odd parity, since the polynomial has three bits (`crc16Poly_parity`);
* bursts of sixteen bits, since its top bit is set;
* two bits of one packet, since the register does not return within its length (`crc16Poly_avoids`).
-/

import PioUsbHost.Lib.ErrorDetection
import PioUsbHost.Usb.Crc16
import PioUsbHost.Usb.Nrzi

namespace PioUsbHost.Usb

open PioUsbHost.Lib.ReflectedCrc PioUsbHost.Lib.ErrorDetection

/-! ### The polynomial -/

theorem crc16Poly_parity : parity crc16Poly = true := by decide

/-- The register of one flip does not return within the bits of a packet of 104 bytes. -/
theorem crc16Poly_avoids : avoids crc16Poly 1#16 815 (shiftBit crc16Poly 1#16) = true := by
  decide +kernel

/-! ### The byte loop, bit by bit -/

theorem crc16Byte_register (crc : UInt16) (byte : UInt8) :
    (crc16Byte crc byte).toBitVec = register crc16Poly crc.toBitVec (byteBits byte) := by
  have bits : byteBits byte = (List.range 8).map (byte.toBitVec.setWidth 16).getLsbD := by
    refine List.map_congr_left fun index inside => ?_
    have below := List.mem_range.mp inside
    rw [BitVec.getLsbD_setWidth, decide_eq_true (by omega), Bool.true_and]
  have small : (byte.toBitVec.setWidth 16) >>> 8 = 0#16 := by
    apply BitVec.eq_of_getLsbD_eq
    intro index _
    simp [BitVec.getLsbD_ushiftRight, BitVec.getLsbD_setWidth]
  rw [crc16Byte_toBitVec, bits, register_range _ _ small]

theorem foldl_crc16Byte_register (crc : UInt16) (bytes : List UInt8) :
    (bytes.foldl crc16Byte crc).toBitVec = register crc16Poly crc.toBitVec (dataBits bytes) := by
  induction bytes generalizing crc with
  | nil => rfl
  | cons byte rest ih =>
    rw [List.foldl_cons, ih, crc16Byte_register, ← register_append]
    rfl

/-! ### Error patterns -/

/-- The bytes with the bits of `errors` flipped. -/
def flip (bytes errors : List UInt8) : List UInt8 :=
  List.zipWith (fun byte error => byte ^^^ error) bytes errors

/-- A packet with an error pattern applied to the bytes after its PID. -/
def corrupt (bytes errors : List UInt8) : List UInt8 := bytes.take 2 ++ flip (bytes.drop 2) errors

theorem flip_length {bytes errors : List UInt8} (same : errors.length = bytes.length) :
    (flip bytes errors).length = bytes.length := by
  rw [flip, List.length_zipWith, same, Nat.min_self]

theorem byteBits_xor (byte error : UInt8) :
    byteBits (byte ^^^ error) =
      List.zipWith (fun bit flipped => bit ^^ flipped) (byteBits byte) (byteBits error) := by
  unfold byteBits
  rw [List.zipWith_map, List.zipWith_self]
  refine List.map_congr_left fun index _ => ?_
  rw [UInt8.toBitVec_xor, BitVec.getLsbD_xor]

/-- On the wire, the flipped bits are those of the pattern. -/
theorem dataBits_flip {bytes errors : List UInt8} (same : errors.length = bytes.length) :
    dataBits (flip bytes errors) =
      List.zipWith (fun bit flipped => bit ^^ flipped) (dataBits bytes) (dataBits errors) := by
  induction bytes generalizing errors with
  | nil => rfl
  | cons byte rest ih =>
    cases errors with
    | nil => cases same
    | cons error errors =>
      rw [flip, List.zipWith_cons_cons, ← flip, dataBits_cons, dataBits_cons, dataBits_cons,
        ih (Nat.succ.inj same), byteBits_xor,
        List.zipWith_append (by rw [byteBits_length, byteBits_length])]

/-- **An error pattern goes undetected** exactly when its syndrome is zero. -/
theorem crc16_corrupt_iff {body errors : List UInt8} (long : 2 ≤ body.length)
    (same : errors.length = body.length) (valid : crc16Data (dataPayload body) = dataCrc body) :
    crc16Data (dataPayload (flip body errors)) = dataCrc (flip body errors) ↔
      syndrome crc16Poly (dataBits errors) = 0#16 := by
  have bits : (dataBits body).length = (dataBits errors).length := by
    rw [dataBits_length, dataBits_length, same]
  rw [← crc16Residue_iff long, foldl_crc16UpdateRam] at valid
  rw [← crc16Residue_iff (by rw [flip_length same]; exact long), foldl_crc16UpdateRam, ← valid,
    ← UInt16.toBitVec_inj, foldl_crc16Byte_register, foldl_crc16Byte_register, dataBits_flip same]
  exact register_errors_iff crc16Poly _ bits

/-! ### What is detected -/

/-- The error patterns that the CRC is meant to detect in a packet: an odd number of flipped bits,
flips within sixteen consecutive bits in wire order, and two flips in at most 104 bytes. -/
def Detectable (bytes errors : List UInt8) : Prop :=
  (dataBits errors).count true % 2 = 1 ∨
    (∃ start, ∀ position, (dataBits errors)[position]? = some true →
      start ≤ position ∧ position < start + 16) ∨
    bytes.length ≤ 104 ∧ (dataBits errors).count true = 2

/-- A byte that is not zero flips a bit. -/
theorem mem_dataBits_of_ne_zero {errors : List UInt8} (nonzero : ∃ error ∈ errors, error ≠ 0) :
    true ∈ dataBits errors := by
  obtain ⟨error, member, differs⟩ := nonzero
  have some : ∃ index < 8, error.toBitVec.getLsbD index = true := by
    by_contra none
    apply differs
    rw [← UInt8.toBitVec_inj]
    apply BitVec.eq_of_getLsbD_eq
    intro index inside
    rw [UInt8.toBitVec_zero, BitVec.getLsbD_zero, Bool.eq_false_iff]
    exact fun set => none ⟨index, inside, set⟩
  obtain ⟨index, inside, set⟩ := some
  refine List.mem_flatMap.mpr ⟨error, member, ?_⟩
  exact List.mem_map.mpr ⟨index, List.mem_range.mpr inside, set⟩

theorem syndrome_ne_zero_of_detectable {bytes errors : List UInt8}
    (same : errors.length + 2 = bytes.length) (nonzero : ∃ error ∈ errors, error ≠ 0)
    (detectable : Detectable bytes errors) : syndrome crc16Poly (dataBits errors) ≠ 0#16 := by
  rcases detectable with odd | ⟨start, within⟩ | ⟨short, two⟩
  · exact syndrome_ne_zero_of_odd crc16Poly_parity odd
  · obtain ⟨before, after, burst, bits, size⟩ := exists_burst within
    have flipped := mem_dataBits_of_ne_zero nonzero
    rw [bits] at flipped ⊢
    refine syndrome_ne_zero_of_burst crc16Poly_top size ?_ before after
    simpa [List.mem_append, List.mem_replicate] using flipped
  · obtain ⟨before, distance, after, bits⟩ := exists_two_flips two
    have length := congrArg List.length bits
    simp only [dataBits_length, List.length_append, List.length_cons, List.length_replicate] at length
    rw [bits]
    refine syndrome_ne_zero_of_two crc16Poly_top ?_ before after
    rw [Function.iterate_succ_apply]
    exact iterate_ne_of_avoids crc16Poly_avoids (by omega)

/-- **CRC-16 protection of DATA packets**: a packet the parser accepts is rejected with
`InvalidCrc16` after any such error. -/
theorem parsePacket_corrupt {bytes errors : List UInt8} {pid : UInt8} {payload : List UInt8}
    (accepted : parsePacket bytes = .ok (.data pid payload))
    (same : errors.length + 2 = bytes.length) (nonzero : ∃ error ∈ errors, error ≠ 0)
    (detectable : Detectable bytes errors) :
    parsePacket (corrupt bytes errors) = .error .invalidCrc16 := by
  obtain ⟨body, rfl, data, long, valid, -⟩ := parsePacket_data_iff.mp accepted
  have bodySame : errors.length = body.length := by simpa using same
  have detected := syndrome_ne_zero_of_detectable same nonzero detectable
  show parsePacket (sync :: pid :: flip body errors) = _
  rw [parsePacket_of_data data, parseData, flip_length bodySame, if_neg (by omega), if_pos]
  rw [Ne, crc16_corrupt_iff long bodySame valid]
  exact detected

/-- Two flipped bits of a DATA0 packet with three payload bytes. -/
theorem parsePacket_corrupt_two_bits :
    parsePacket (corrupt [sync, pidData0, 1, 2, 3, 0x9e, 0x9e] [0x10, 0, 0, 0, 0x80]) =
      .error .invalidCrc16 := by
  have accepted : parsePacket [sync, pidData0, 1, 2, 3, 0x9e, 0x9e] =
      .ok (.data pidData0 [1, 2, 3]) := by
    decide +kernel
  have twoFlips : Detectable [sync, pidData0, 1, 2, 3, 0x9e, 0x9e] [0x10, 0, 0, 0, 0x80] :=
    Or.inr (Or.inr (by decide))
  exact parsePacket_corrupt accepted (by decide) (by decide) twoFlips

end PioUsbHost.Usb
