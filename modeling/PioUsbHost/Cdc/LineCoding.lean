/-
**The line coding of a CDC-ACM function, and its seven bytes.**

* `fromBytes_eq_ok`: the bytes that are accepted are those that a valid coding is sent as.
-/

import PioUsbHost.Usbtmc.Response

namespace PioUsbHost.Cdc

open PioUsbHost.Lib.Panic PioUsbHost.Usbtmc

/-- Number of serial stop bits. -/
inductive CdcStopBits where
  | one
  | onePointFive
  | two
  deriving DecidableEq, Repr

/-- `bParityType` of a line coding. -/
inductive CdcParity where
  | none
  | odd
  | even
  | mark
  | space
  deriving DecidableEq, Repr

/-- Why seven bytes are not a line coding. -/
inductive CdcLineCodingError where
  | invalidLength
  | invalidStopBits
  | invalidParity
  | invalidDataBits
  deriving DecidableEq, Repr

/-- The payload of the line-coding requests. -/
structure CdcLineCoding where
  dataTerminalRate : UInt32
  stopBits : CdcStopBits
  parity : CdcParity
  dataBits : UInt8
  deriving DecidableEq, Repr

/-- `stop_bits as u8`. -/
def CdcStopBits.code : CdcStopBits → UInt8
  | one => 0
  | onePointFive => 1
  | two => 2

/-- `parity as u8`. -/
def CdcParity.code : CdcParity → UInt8
  | none => 0
  | odd => 1
  | even => 2
  | mark => 3
  | space => 4

/-- `bCharFormat`. -/
def stopBitsOf (byte : UInt8) : Checked CdcLineCodingError CdcStopBits :=
  match byte with
  | 0 => .ok .one
  | 1 => .ok .onePointFive
  | 2 => .ok .two
  | _ => fail .invalidStopBits

/-- `bParityType`. -/
def parityOf (byte : UInt8) : Checked CdcLineCodingError CdcParity :=
  match byte with
  | 0 => .ok .none
  | 1 => .ok .odd
  | 2 => .ok .even
  | 3 => .ok .mark
  | 4 => .ok .space
  | _ => fail .invalidParity

namespace CdcLineCoding

/-- `CdcLineCoding::ENCODED_LEN`. -/
def encodedLen : Nat := 7

/-- Eight data bits, no parity, one stop bit. -/
def eightNOne (dataTerminalRate : UInt32) : CdcLineCoding where
  dataTerminalRate
  stopBits := .one
  parity := .none
  dataBits := 8

/-- The data bits that a coding can have. -/
def validate (coding : CdcLineCoding) : Checked CdcLineCodingError Unit :=
  if coding.dataBits ∈ [5, 6, 7, 8, 16] then .ok () else fail .invalidDataBits

/-- The fields of seven bytes. -/
def fields (rate : UInt32) (stop parity dataBits : UInt8) :
    Checked CdcLineCodingError CdcLineCoding := do
  let coding : CdcLineCoding :=
    { dataTerminalRate := rate
      stopBits := ← stopBitsOf stop
      parity := ← parityOf parity
      dataBits }
  coding.validate
  return coding

/-- Parse the payload returned by GET_LINE_CODING. -/
def fromBytes (bytes : List UInt8) : Checked CdcLineCodingError CdcLineCoding :=
  match bytes with
  | [rate0, rate1, rate2, rate3, stop, parity, dataBits] =>
    fields (UInt32.ofNat (fromLeBytes rate0 rate1 rate2 rate3)) stop parity dataBits
  | _ => fail .invalidLength

/-- The payload of `SET_LINE_CODING`. -/
def toBytes (coding : CdcLineCoding) : List UInt8 :=
  toLeBytes coding.dataTerminalRate ++ [coding.stopBits.code, coding.parity.code, coding.dataBits]

end CdcLineCoding

/-! ### The codes -/

theorem stopBitsOf_eq_ok {byte : UInt8} {stop : CdcStopBits} :
    stopBitsOf byte = .ok stop ↔ byte = stop.code := by
  unfold stopBitsOf
  split
  · cases stop <;> simp [CdcStopBits.code]
  · cases stop <;> simp [CdcStopBits.code]
  · cases stop <;> simp [CdcStopBits.code]
  next zero one two =>
    constructor
    · exact nofun
    · rintro rfl
      cases stop with
      | one => exact absurd rfl zero
      | onePointFive => exact absurd rfl one
      | two => exact absurd rfl two

theorem parityOf_eq_ok {byte : UInt8} {parity : CdcParity} :
    parityOf byte = .ok parity ↔ byte = parity.code := by
  unfold parityOf
  split
  · cases parity <;> simp [CdcParity.code]
  · cases parity <;> simp [CdcParity.code]
  · cases parity <;> simp [CdcParity.code]
  · cases parity <;> simp [CdcParity.code]
  · cases parity <;> simp [CdcParity.code]
  next none odd even mark space =>
    constructor
    · exact nofun
    · rintro rfl
      cases parity with
      | none => exact absurd rfl none
      | odd => exact absurd rfl odd
      | even => exact absurd rfl even
      | mark => exact absurd rfl mark
      | space => exact absurd rfl space

theorem bytes_of_or (b0 b1 b2 b3 : BitVec 8) :
    let word := b0.setWidth 32 ||| b1.setWidth 32 <<< 8 ||| b2.setWidth 32 <<< 16 |||
      b3.setWidth 32 <<< 24
    word.setWidth 8 = b0 ∧ (word >>> 8).setWidth 8 = b1 ∧ (word >>> 16).setWidth 8 = b2 ∧
      (word >>> 24).setWidth 8 = b3 := by
  refine ⟨?_, ?_, ?_, ?_⟩
  all_goals
    apply BitVec.eq_of_getLsbD_eq
    intro i small
    simp only [BitVec.getLsbD_or, BitVec.getLsbD_shiftLeft, BitVec.getLsbD_setWidth,
      BitVec.getLsbD_ushiftRight]
  · simp [small, show i < 16 by omega, show i < 24 by omega, show i < 32 by omega]
  · simp [small, show ¬ 8 + i < 8 by omega, show 8 + i < 16 by omega, show 8 + i < 24 by omega,
      show 8 + i < 32 by omega, show i < 32 by omega]
  · simp [small, b0.getLsbD_of_ge (16 + i) (by omega), b1.getLsbD_of_ge (16 + i - 8) (by omega),
      show ¬ 16 + i < 16 by omega, show 16 + i < 24 by omega, show 16 + i < 32 by omega,
      show i < 32 by omega]
  · simp [small, b0.getLsbD_of_ge (24 + i) (by omega), b1.getLsbD_of_ge (24 + i - 8) (by omega),
      b2.getLsbD_of_ge (24 + i - 16) (by omega), show ¬ 24 + i < 24 by omega,
      show 24 + i < 32 by omega, show i < 32 by omega]

/-- The rate is the four bytes. -/
theorem toLeBytes_ofNat_fromLeBytes (b0 b1 b2 b3 : UInt8) :
    toLeBytes (UInt32.ofNat (fromLeBytes b0 b1 b2 b3)) = [b0, b1, b2, b3] := by
  obtain ⟨zero, one, two, three⟩ := bytes_of_or b0.toBitVec b1.toBitVec b2.toBitVec b3.toBitVec
  rw [fromLeBytes, UInt32.ofNat_toNat]
  exact congrArg₂ List.cons (UInt8.toBitVec_inj.mp zero) (congrArg₂ List.cons
    (UInt8.toBitVec_inj.mp one) (congrArg₂ List.cons (UInt8.toBitVec_inj.mp two)
      (congrArg₂ List.cons (UInt8.toBitVec_inj.mp three) rfl)))

theorem ofNat_fromLeBytes_toLeBytes (value : UInt32) :
    UInt32.ofNat (fromLeBytes value.toUInt8 (value >>> 8).toUInt8 (value >>> 16).toUInt8
      (value >>> 24).toUInt8) = value := by
  rw [fromLeBytes_toLeBytes, UInt32.ofNat_toNat]

namespace CdcLineCoding

theorem fields_eq_ok {rate : UInt32} {stop parity dataBits : UInt8} {coding : CdcLineCoding} :
    fields rate stop parity dataBits = .ok coding ↔
      coding.dataTerminalRate = rate ∧ coding.stopBits.code = stop ∧ coding.parity.code = parity ∧
        coding.dataBits = dataBits ∧ coding.validate = .ok () := by
  constructor
  · intro accepted
    obtain ⟨stopBits, stopped, accepted⟩ := bind_eq_ok.mp accepted
    obtain ⟨parityMode, pared, accepted⟩ := bind_eq_ok.mp accepted
    obtain ⟨_, valid, same⟩ := bind_eq_ok.mp accepted
    cases same
    exact ⟨rfl, (stopBitsOf_eq_ok.mp stopped).symm, (parityOf_eq_ok.mp pared).symm, rfl, valid⟩
  · rintro ⟨rfl, rfl, rfl, rfl, valid⟩
    unfold fields
    rw [stopBitsOf_eq_ok.mpr rfl, parityOf_eq_ok.mpr rfl]
    show (do coding.validate; return coding) = _
    rw [valid]
    rfl

/-- **The seven bytes and the coding.** -/
theorem fromBytes_eq_ok {bytes : List UInt8} {coding : CdcLineCoding} :
    fromBytes bytes = .ok coding ↔ bytes = coding.toBytes ∧ coding.validate = .ok () := by
  constructor
  · intro accepted
    unfold fromBytes at accepted
    split at accepted
    next rate0 rate1 rate2 rate3 stop parity dataBits =>
      obtain ⟨rate, rfl, rfl, rfl, valid⟩ := fields_eq_ok.mp accepted
      refine ⟨?_, valid⟩
      unfold toBytes
      rw [rate, toLeBytes_ofNat_fromLeBytes]
      rfl
    next => exact nomatch accepted
  · rintro ⟨rfl, valid⟩
    have rate := ofNat_fromLeBytes_toLeBytes coding.dataTerminalRate
    exact fields_eq_ok.mpr ⟨rate.symm, rfl, rfl, rfl, valid⟩

/-- No two codings are sent alike, also where they are not valid. -/
theorem toBytes_injective : Function.Injective toBytes := by
  intro first second same
  obtain ⟨rate, rest⟩ := List.append_inj same rfl
  have rates : first.dataTerminalRate = second.dataTerminalRate := by
    obtain ⟨zero, one, two, three, -⟩ : _ ∧ _ ∧ _ ∧ _ ∧ True := by
      simpa only [toLeBytes, List.cons.injEq, and_true] using rate
    rw [← ofNat_fromLeBytes_toLeBytes first.dataTerminalRate, zero, one, two, three,
      ofNat_fromLeBytes_toLeBytes]
  obtain ⟨stopCodes, parityCodes, widths⟩ : _ ∧ _ ∧ _ := by
    simpa only [List.cons.injEq, and_true] using rest
  have stops : first.stopBits = second.stopBits :=
    Except.ok.inj ((stopBitsOf_eq_ok.mpr rfl).symm.trans (stopBitsOf_eq_ok.mpr stopCodes))
  have parities : first.parity = second.parity :=
    Except.ok.inj ((parityOf_eq_ok.mpr rfl).symm.trans (parityOf_eq_ok.mpr parityCodes))
  cases first
  cases second
  cases rates
  cases stops
  cases parities
  cases widths
  rfl

end CdcLineCoding

end PioUsbHost.Cdc
