/-
**USB packets: identifiers, checksums, and the plain packet parser.**

`parsePacket` is the reference decision on a complete packet (SYNC, PID, body); `classifyInData`
decides what a CRC-valid DATA packet does to the receive state. Both are translated from `usb.rs`,
with `crc5Token` and `crc16Data` as the bit loops of the source.

* `parsePacket_data_iff`: the DATA packets the parser accepts, in terms of framing and CRC-16.
* `parsePacket_handshake_iff`: the handshakes it accepts.
* `parsePacket_rawDataPacket`: a DATA packet that is built parses as what it carries.
* `parsePacket_tokenPacket`: so does a token packet, for the addresses and endpoints of USB.
-/

import Mathlib.Data.List.Basic
import Mathlib.Logic.Function.Iterate

namespace PioUsbHost.Usb

/-! ### Constants -/

/-- The SYNC byte, sent least-significant bit first. -/
def sync : UInt8 := 0x80

/-- `PID_SOF`. -/
def pidSof : UInt8 := 0xa5

/-- `PID_OUT`. -/
def pidOut : UInt8 := 0xe1

/-- `PID_IN`. -/
def pidIn : UInt8 := 0x69

/-- `PID_SETUP`. -/
def pidSetup : UInt8 := 0x2d

/-- `PID_DATA0`. -/
def pidData0 : UInt8 := 0xc3

/-- `PID_DATA1`. -/
def pidData1 : UInt8 := 0x4b

/-- `PID_ACK`. -/
def pidAck : UInt8 := 0xd2

/-- `PID_NAK`. -/
def pidNak : UInt8 := 0x5a

/-- `PID_STALL`. -/
def pidStall : UInt8 := 0x1e

/-- SYNC, PID, one 100-byte payload and its CRC-16. -/
def maxDecodedBytes : Nat := 104

/-- `matches!(pid, PID_DATA0 | PID_DATA1)`. -/
def isDataPid (pid : UInt8) : Bool := pid == pidData0 || pid == pidData1

/-- `(pid >> 4) == ((!pid) & 0x0f)`. -/
def pidComplementValid (pid : UInt8) : Bool := pid >>> 4 == ~~~pid &&& 0x0f

/-- `u16::from_le_bytes([low, high])`. -/
def u16FromLeBytes (low high : UInt8) : UInt16 := low.toUInt16 ||| (high.toUInt16 <<< 8)

/-! ### The DATA toggle -/

/-- The DATA0/DATA1 sequence state of one endpoint direction. -/
inductive DataToggle where
  | data0
  | data1
  deriving DecidableEq, Repr

namespace DataToggle

/-- The PID of a data packet with the toggle. -/
def pid : DataToggle → UInt8
  | data0 => pidData0
  | data1 => pidData1

/-- The sequence state after, and only after, a successful ACK. -/
def afterAck : DataToggle → DataToggle
  | data0 => data1
  | data1 => data0

@[simp] theorem afterAck_ne (toggle : DataToggle) : toggle.afterAck ≠ toggle := by
  cases toggle <;> decide

@[simp] theorem ne_afterAck (toggle : DataToggle) : toggle ≠ toggle.afterAck :=
  (afterAck_ne toggle).symm

/-- There are only two sequence states. -/
theorem eq_afterAck_of_ne {first second : DataToggle} (different : first ≠ second) :
    first = second.afterAck := by
  cases first <;> cases second <;> simp_all [afterAck]

theorem pid_injective : Function.Injective pid := by
  intro first second same
  cases first <;> cases second <;> first | rfl | exact absurd same (by decide)

theorem isDataPid_pid (toggle : DataToggle) : isDataPid toggle.pid = true := by
  cases toggle <;> decide

end DataToggle

/-! ### What a validated IN DATA packet does to the receive state -/

/-- What becomes of a data packet. -/
inductive InDataDisposition where
  | accept
  | duplicate
  | reject
  deriving DecidableEq, Repr

/-- `classify_in_data`. -/
def classifyInData (wireValid : Bool) (expectedPid : UInt8) (maxExpectedPayloadLen : Nat)
    (receiveCapacity : Nat) (receivedPid : UInt8) (receivedPayloadLen : Nat) :
    InDataDisposition :=
  if !wireValid || !isDataPid expectedPid || !isDataPid receivedPid
      || decide (maxExpectedPayloadLen > receiveCapacity)
      || decide (receivedPayloadLen > receiveCapacity) then
    .reject
  else if receivedPid ≠ expectedPid then
    .duplicate
  else if receivedPayloadLen ≤ maxExpectedPayloadLen then
    .accept
  else
    .reject

section Classify

variable {expectedPid receivedPid : UInt8} {maxExpectedPayloadLen receiveCapacity len : Nat}

/-- The packets that are rejected whatever their toggle. -/
def Unusable (expectedPid receivedPid : UInt8) (maxExpectedPayloadLen receiveCapacity len : Nat) :
    Prop :=
  isDataPid expectedPid = false ∨ isDataPid receivedPid = false ∨
    maxExpectedPayloadLen > receiveCapacity ∨ len > receiveCapacity

theorem accept_iff :
    classifyInData true expectedPid maxExpectedPayloadLen receiveCapacity receivedPid len = .accept ↔
      ¬ Unusable expectedPid receivedPid maxExpectedPayloadLen receiveCapacity len ∧
        receivedPid = expectedPid ∧ len ≤ maxExpectedPayloadLen := by
  unfold classifyInData Unusable
  grind

theorem duplicate_iff :
    classifyInData true expectedPid maxExpectedPayloadLen receiveCapacity receivedPid len =
        .duplicate ↔
      ¬ Unusable expectedPid receivedPid maxExpectedPayloadLen receiveCapacity len ∧
        receivedPid ≠ expectedPid := by
  unfold classifyInData Unusable
  grind

end Classify

/-! ### Checksums -/

/-- One bit of the CRC-5 loop; the token is consumed from its low end. -/
def crc5Bit (state : UInt8 × UInt16) : UInt8 × UInt16 :=
  let mix := (state.1 ^^^ state.2.toUInt8) &&& 1
  let shifted := state.1 >>> 1
  (if mix ≠ 0 then shifted ^^^ 0x14 else shifted, state.2 >>> 1)

/-- The CRC-5 over the eleven token bits. -/
def crc5Token (token : UInt16) : UInt8 :=
  (crc5Bit^[11] (0x1f, token &&& 0x07ff)).1 ^^^ 0x1f

/-- One bit of the CRC-16 loop. -/
def crc16Bit (crc : UInt16) : UInt16 :=
  if crc &&& 1 ≠ 0 then (crc >>> 1) ^^^ 0xa001 else crc >>> 1

/-- One byte of the CRC-16 loop. -/
def crc16Byte (crc : UInt16) (byte : UInt8) : UInt16 := crc16Bit^[8] (crc ^^^ byte.toUInt16)

/-- The CRC-16 over a DATA payload. -/
def crc16Data (data : List UInt8) : UInt16 := data.foldl crc16Byte 0xffff ^^^ 0xffff

/-! ### Building packets -/

/-- Why there is no such data packet. -/
inductive DataPacketError where
  | invalidPid
  | payloadTooLong
  deriving DecidableEq, Repr

/-- `RawDataPacket::new(..).as_bytes()`: SYNC, PID, payload and CRC-16. -/
def rawDataPacket (pid : UInt8) (payload : List UInt8) : Except DataPacketError (List UInt8) :=
  if !isDataPid pid then
    .error .invalidPid
  else if payload.length > maxDecodedBytes - 4 then
    .error .payloadTooLong
  else
    let crc := crc16Data payload
    .ok ([sync, pid] ++ payload ++ [crc.toUInt8, (crc >>> 8).toUInt8])

/-- A token packet for a device address and endpoint. -/
def tokenPacket (pid address endpoint : UInt8) : List UInt8 :=
  let value := ((endpoint.toUInt16 &&& 0x0f) <<< 7) ||| (address.toUInt16 &&& 0x7f)
  let crc := crc5Token value
  [sync, pid, value.toUInt8, (((value >>> 8).toUInt8 &&& (0x07 : UInt8)) ||| (crc <<< 3))]

/-! ### The plain parser -/

/-- Why bytes are not a packet. -/
inductive PacketError where
  | tooShort
  | invalidSync
  | invalidPid
  | invalidLength
  | invalidCrc5
  | invalidCrc16
  | unsupportedPid
  deriving DecidableEq, Repr

/-- The three kinds of packets. -/
inductive ParsedPacket where
  | handshake (pid : UInt8)
  | token (pid : UInt8) (value : UInt16)
  | data (pid : UInt8) (payload : List UInt8)
  deriving DecidableEq, Repr

/-- `&bytes[2..bytes.len() - 2]`, of the bytes after SYNC and PID. -/
def dataPayload (body : List UInt8) : List UInt8 := body.take (body.length - 2)

/-- The little-endian CRC in the last two bytes. -/
def dataCrc (body : List UInt8) : UInt16 :=
  u16FromLeBytes (body.getD (body.length - 2) 0) (body.getD (body.length - 1) 0)

/-- The eleven token bits of the two bytes after the PID. -/
def tokenValue (low high : UInt8) : UInt16 := low.toUInt16 ||| ((high &&& 0x07).toUInt16 <<< 8)

/-- The body of a token packet. -/
def parseToken (pid : UInt8) : List UInt8 → Except PacketError ParsedPacket
  | [low, high] =>
    if crc5Token (tokenValue low high) ≠ high >>> 3 then .error .invalidCrc5
    else .ok (.token pid (tokenValue low high))
  | _ => .error .invalidLength

/-- The body of a DATA packet. -/
def parseData (pid : UInt8) (body : List UInt8) : Except PacketError ParsedPacket :=
  if body.length < 2 then .error .invalidLength
  else if crc16Data (dataPayload body) ≠ dataCrc body then .error .invalidCrc16
  else .ok (.data pid (dataPayload body))

/-- Validate and classify decoded USB bytes. -/
def parsePacket : List UInt8 → Except PacketError ParsedPacket
  | first :: pid :: body =>
    if first ≠ sync then .error .invalidSync
    else if !pidComplementValid pid then .error .invalidPid
    else if pid == pidAck || pid == pidNak || pid == pidStall then
      if body ≠ [] then .error .invalidLength else .ok (.handshake pid)
    else if pid == pidOut || pid == pidIn || pid == pidSetup || pid == pidSof then
      parseToken pid body
    else if isDataPid pid then parseData pid body
    else .error .unsupportedPid
  | _ => .error .tooShort

/-! ### What the parser accepts -/

theorem isDataPid_iff (pid : UInt8) : isDataPid pid = true ↔ pid = pidData0 ∨ pid = pidData1 := by
  simp [isDataPid]

/-- A token packet never parses as DATA or as a handshake. -/
theorem parseToken_ok {pid : UInt8} {body : List UInt8} {parsed : ParsedPacket}
    (accepted : parseToken pid body = .ok parsed) : ∃ value, parsed = .token pid value := by
  unfold parseToken at accepted
  split at accepted
  · split at accepted
    · cases accepted
    · exact ⟨_, (Except.ok.inj accepted).symm⟩
  · cases accepted

theorem parseData_ok_iff {pid : UInt8} {body : List UInt8} {parsed : ParsedPacket} :
    parseData pid body = .ok parsed ↔
      2 ≤ body.length ∧ crc16Data (dataPayload body) = dataCrc body ∧
        parsed = .data pid (dataPayload body) := by
  unfold parseData
  by_cases short : body.length < 2
  · rw [if_pos short]
    constructor
    · intro accepted; cases accepted
    · rintro ⟨long, -⟩; omega
  · rw [if_neg short]
    by_cases crc : crc16Data (dataPayload body) = dataCrc body
    · rw [if_neg (not_not.mpr crc)]
      constructor
      · intro accepted
        exact ⟨by omega, crc, (Except.ok.inj accepted).symm⟩
      · rintro ⟨-, -, rfl⟩; rfl
    · rw [if_pos crc]
      constructor
      · intro accepted; cases accepted
      · rintro ⟨-, valid, -⟩; exact absurd valid crc

/-- On a DATA PID after SYNC, the parser is `parseData`. -/
theorem parsePacket_of_data {pid : UInt8} (data : isDataPid pid = true) (body : List UInt8) :
    parsePacket (sync :: pid :: body) = parseData pid body := by
  rcases (isDataPid_iff pid).mp data with rfl | rfl <;> rfl

/-- **The DATA packets the parser accepts.** -/
theorem parsePacket_data_iff {bytes : List UInt8} {pid : UInt8} {payload : List UInt8} :
    parsePacket bytes = .ok (.data pid payload) ↔
      ∃ body, bytes = sync :: pid :: body ∧ isDataPid pid = true ∧ 2 ≤ body.length ∧
        crc16Data (dataPayload body) = dataCrc body ∧ payload = dataPayload body := by
  constructor
  · intro accepted
    match bytes with
    | [] => cases accepted
    | [_] => cases accepted
    | first :: second :: body =>
      simp only [parsePacket] at accepted
      split at accepted
      · cases accepted
      rename_i isSync
      rw [not_not] at isSync
      split at accepted
      · cases accepted
      split at accepted
      · split at accepted <;> cases accepted
      split at accepted
      · obtain ⟨value, same⟩ := parseToken_ok accepted
        cases same
      split at accepted
      · rename_i isData
        obtain ⟨long, crc, same⟩ := parseData_ok_iff.mp accepted
        cases same
        exact ⟨body, by rw [isSync], isData, long, crc, rfl⟩
      · cases accepted
  · rintro ⟨body, rfl, isData, long, crc, rfl⟩
    rw [parsePacket_of_data isData]
    exact parseData_ok_iff.mpr ⟨long, crc, rfl⟩

/-- **The handshakes the parser accepts.** -/
theorem parsePacket_handshake_iff {bytes : List UInt8} {pid : UInt8} :
    parsePacket bytes = .ok (.handshake pid) ↔
      bytes = [sync, pid] ∧ (pid = pidAck ∨ pid = pidNak ∨ pid = pidStall) := by
  constructor
  · intro accepted
    match bytes with
    | [] => cases accepted
    | [_] => cases accepted
    | first :: second :: body =>
      simp only [parsePacket] at accepted
      split at accepted
      · cases accepted
      rename_i isSync
      rw [not_not] at isSync
      split at accepted
      · cases accepted
      split at accepted
      · rename_i isHandshake
        split at accepted
        · cases accepted
        · rename_i empty
          cases accepted
          rw [not_not] at empty
          simp only [Bool.or_eq_true, beq_iff_eq, or_assoc] at isHandshake
          exact ⟨by rw [isSync, empty], isHandshake⟩
      split at accepted
      · obtain ⟨value, same⟩ := parseToken_ok accepted
        cases same
      split at accepted
      · cases (parseData_ok_iff.mp accepted).2.2
      · cases accepted
  · rintro ⟨rfl, rfl | rfl | rfl⟩ <;> rfl

example : parsePacket [sync, pidData0, 0, 0] = .ok (.data pidData0 []) := by decide

/-! ### What is built parses -/

/-- The two bytes of a word are read back. -/
theorem u16FromLeBytes_bytes (word : UInt16) :
    u16FromLeBytes word.toUInt8 (word >>> 8).toUInt8 = word := by
  apply UInt16.toBitVec_inj.mp
  rw [u16FromLeBytes, UInt16.toBitVec_or, UInt16.toBitVec_shiftLeft]
  apply BitVec.eq_of_getLsbD_eq
  intro i inside
  show ((word.toBitVec.setWidth 8).setWidth 16 |||
    ((word.toBitVec >>> 8).setWidth 8).setWidth 16 <<< 8).getLsbD i = word.toBitVec.getLsbD i
  simp only [BitVec.getLsbD_or, BitVec.getLsbD_shiftLeft, BitVec.getLsbD_setWidth,
    BitVec.getLsbD_ushiftRight]
  by_cases small : i < 8
  · simp [small, inside]
  · simp [small, inside, show i - 8 < 8 by omega, show i - 8 < 16 by omega,
      show 8 + (i - 8) = i by omega]

theorem dataPayload_append (payload : List UInt8) (low high : UInt8) :
    dataPayload (payload ++ [low, high]) = payload := by
  simp [dataPayload]

theorem dataCrc_append (payload : List UInt8) (low high : UInt8) :
    dataCrc (payload ++ [low, high]) = u16FromLeBytes low high := by
  simp [dataCrc]

/-- When a DATA packet can be built. -/
theorem rawDataPacket_eq_ok {pid : UInt8} {payload bytes : List UInt8} :
    rawDataPacket pid payload = .ok bytes ↔
      isDataPid pid = true ∧ payload.length ≤ 100 ∧
        bytes = [sync, pid] ++ payload ++
          [(crc16Data payload).toUInt8, (crc16Data payload >>> 8).toUInt8] := by
  unfold rawDataPacket
  by_cases data : isDataPid pid = true
  · by_cases long : payload.length > maxDecodedBytes - 4
    · have tooLong : ¬ payload.length ≤ 100 := Nat.not_le.mpr long
      simp [data, long, tooLong]
    · have fits : payload.length ≤ 100 := Nat.le_of_not_lt long
      simp [data, long, fits, eq_comm]
  · simp [data]

/-- **A DATA packet that is built parses as what it carries.** -/
theorem parsePacket_rawDataPacket {pid : UInt8} {payload bytes : List UInt8}
    (built : rawDataPacket pid payload = .ok bytes) :
    parsePacket bytes = .ok (.data pid payload) := by
  obtain ⟨data, -, rfl⟩ := rawDataPacket_eq_ok.mp built
  refine parsePacket_data_iff.mpr ⟨payload ++ [(crc16Data payload).toUInt8,
    (crc16Data payload >>> 8).toUInt8], by simp, data, by simp, ?_, ?_⟩
  · rw [dataPayload_append, dataCrc_append, u16FromLeBytes_bytes]
  · rw [dataPayload_append]

/-! ### Tokens -/

/-- The eleven token bits: the address, and the endpoint number above it. -/
theorem token_toNat {address endpoint : UInt8} (small : address.toNat < 128)
    (inside : endpoint.toNat < 16) :
    (((endpoint.toUInt16 &&& 0x0f) <<< 7) ||| (address.toUInt16 &&& 0x7f)).toNat =
      endpoint.toNat * 128 + address.toNat := by
  have low : (endpoint.toUInt16 &&& 0x0f).toNat = endpoint.toNat := by
    rw [UInt16.toNat_and]
    exact (Nat.and_two_pow_sub_one_eq_mod _ 4).trans (Nat.mod_eq_of_lt inside)
  have high : (address.toUInt16 &&& 0x7f).toNat = address.toNat := by
    rw [UInt16.toNat_and]
    exact (Nat.and_two_pow_sub_one_eq_mod _ 7).trans (Nat.mod_eq_of_lt small)
  have shifted : ((endpoint.toUInt16 &&& 0x0f) <<< 7).toNat = endpoint.toNat <<< 7 := by
    rw [UInt16.toNat_shiftLeft, low]
    apply Nat.mod_eq_of_lt
    rw [Nat.shiftLeft_eq]
    show endpoint.toNat * 128 < 65536
    omega
  rw [UInt16.toNat_or, shifted, high, ← Nat.shiftLeft_add_eq_or_of_lt small, Nat.shiftLeft_eq]

/-- The CRC-5 register has five bits. -/
theorem crc5Bit_lt {state : UInt8 × UInt16} (small : state.1.toNat < 32) :
    (crc5Bit state).1.toNat < 32 := by
  have halved : (state.1 >>> 1).toNat < 2 ^ 5 := by
    rw [UInt8.toNat_shiftRight]
    show state.1.toNat >>> 1 < 2 ^ 5
    rw [Nat.shiftRight_eq_div_pow]
    omega
  simp only [crc5Bit]
  split
  · rw [UInt8.toNat_xor]
    exact Nat.xor_lt_two_pow halved (by decide)
  · exact halved

theorem crc5Token_lt (token : UInt16) : (crc5Token token).toNat < 32 := by
  have kept : ∀ rounds (state : UInt8 × UInt16), state.1.toNat < 32 →
      (crc5Bit^[rounds] state).1.toNat < 32 := by
    intro rounds
    induction rounds with
    | zero => exact fun _ small => small
    | succ rounds ih => exact fun state small => ih _ (crc5Bit_lt small)
  rw [crc5Token, UInt8.toNat_xor]
  exact Nat.xor_lt_two_pow (n := 5) (kept 11 _ (show (0x1f : UInt8).toNat < 32 by decide)) (by decide)

/-- The last byte of a token packet holds three token bits and the CRC-5. -/
theorem tokenHigh {bits crc : UInt8} (small : bits.toNat < 8) (five : crc.toNat < 32) :
    ((bits &&& (0x07 : UInt8)) ||| (crc <<< 3)) &&& 0x07 = bits ∧
      ((bits &&& (0x07 : UInt8)) ||| (crc <<< 3)) >>> 3 = crc := by
  have all : ∀ low < 8, ∀ high < 32,
      ((UInt8.ofNat low &&& (0x07 : UInt8)) ||| (UInt8.ofNat high <<< 3)) &&& 0x07 = UInt8.ofNat low ∧
        ((UInt8.ofNat low &&& (0x07 : UInt8)) ||| (UInt8.ofNat high <<< 3)) >>> 3 =
          UInt8.ofNat high := by
    decide +kernel
  have here := all bits.toNat small crc.toNat five
  rwa [UInt8.ofNat_toNat, UInt8.ofNat_toNat] at here

/-- **A token packet carries its address and its endpoint number.** -/
theorem parsePacket_tokenPacket {pid address endpoint : UInt8} (small : address.toNat < 128)
    (inside : endpoint.toNat < 16) (isToken : pid ∈ [pidOut, pidIn, pidSetup, pidSof]) :
    ∃ value : UInt16, value.toNat = endpoint.toNat * 128 + address.toNat ∧
      parsePacket (tokenPacket pid address endpoint) = .ok (.token pid value) := by
  have bits := token_toNat small inside
  rw [tokenPacket]
  generalize ((endpoint.toUInt16 &&& 0x0f) <<< 7) ||| (address.toUInt16 &&& 0x7f) = value at bits
  have eleven : value.toNat < 2048 := by omega
  have high : (value >>> 8).toUInt8.toNat < 8 := by
    rw [UInt16.toNat_toUInt8, UInt16.toNat_shiftRight]
    show (value.toNat >>> 8) % 256 < 8
    rw [Nat.shiftRight_eq_div_pow]
    omega
  obtain ⟨kept, check⟩ := tokenHigh high (crc5Token_lt value)
  refine ⟨value, bits, ?_⟩
  have reads : tokenValue value.toUInt8
      (((value >>> 8).toUInt8 &&& (0x07 : UInt8)) ||| (crc5Token value <<< 3)) = value := by
    rw [tokenValue, kept]
    exact u16FromLeBytes_bytes value
  have parsed : parseToken pid [value.toUInt8,
      ((value >>> 8).toUInt8 &&& (0x07 : UInt8)) ||| (crc5Token value <<< 3)] =
      .ok (.token pid value) := by
    rw [parseToken, reads, check, if_neg fun different => different rfl]
  simp only [List.mem_cons, List.not_mem_nil, or_false] at isToken
  rcases isToken with rfl | rfl | rfl | rfl <;> exact parsed

end PioUsbHost.Usb
