/-
**What the drains know of the bytes they have pulled.**

The receive path validates a packet byte by byte. Whatever the split between drains, its variables are
a function of the bytes pulled so far (`drainedOf`), given here in closed form:

* `drained_spec`: header bits, PID, length limit, running CRC and the `ackable` flag;
* `drainedOf_raw`: the raw buffer holds the bytes, as far as it reaches;
* `ackable_drainedOf`: the incremental `ackable` flag is the plain decision `ackableBytes`, that is,
  `parsePacket` finds a DATA packet and `classifyInData` does not reject it;
* `drainTerminalDataFifo_eq`: the terminal drain computes what the ordinary drain does;
* `drains_crc`: the running CRC, over any split between drains.
-/

import PioUsbHost.Rx.AckDiscipline

namespace PioUsbHost.Rx

open PioUsbHost.Usb

/-! ### The plain decision -/

/-- The plain parser finds a DATA packet that the classification does not reject. -/
def ackableBytes (params : InParams) (bytes : List UInt8) : Bool :=
  match parsePacket bytes with
  | .ok (.data pid payload) =>
    classifyInData true params.expectedPid params.maxPayloadLen params.payloadLen pid payload.length
      != .reject
  | _ => false

/-- The plain verdict on a complete packet. -/
def plainVerdict (params : InParams) (bytes : List UInt8) : InReceiveResult :=
  match parsePacket bytes with
  | .ok (.data pid payload) =>
    match classifyInData true params.expectedPid params.maxPayloadLen params.payloadLen pid
      payload.length with
    | .accept => .data (UInt8.ofNat payload.length)
    | .duplicate => .unexpectedToggle (UInt8.ofNat payload.length)
    | .reject => .invalidPacket
  | .ok (.handshake pid) =>
    if pid = pidNak then .nak else if pid = pidStall then .stall else .invalidPacket
  | _ => .invalidPacket

/-! ### The header bits -/

/-- The header bits after SYNC and PID. -/
def headerOf (params : InParams) (first pid : UInt8) : UInt8 :=
  pidFlags params.expectedPid pid (if first == sync then 1 else 0)

theorem pidComplementValid_of_data {pid : UInt8} (data : isDataPid pid = true) :
    pidComplementValid pid = true := by
  rcases (isDataPid_iff pid).mp data with rfl | rfl <;> decide

theorem dataHeader_headerOf (params : InParams) (first pid : UInt8) :
    dataHeader (headerOf params first pid) = true ↔ first = sync ∧ isDataPid pid = true := by
  unfold headerOf pidFlags
  rw [← beq_iff_eq (a := first)]
  cases data : isDataPid pid with
  | true =>
    rw [pidComplementValid_of_data data]
    cases first == sync <;> cases pid == params.expectedPid <;> decide
  | false =>
    cases first == sync <;> cases pidComplementValid pid <;> cases pid == params.expectedPid <;>
      decide

theorem headerOf_expected (params : InParams) (first pid : UInt8) :
    headerOf params first pid &&& 8 = 0 ↔ pid ≠ params.expectedPid := by
  refine pidFlags_expected ?_ params.expectedPid pid
  cases first == sync
  · exact Or.inl rfl
  · exact Or.inr rfl

theorem headerOf_framed (params : InParams) (first pid : UInt8) :
    headerOf params first pid &&& 3 = 3 ↔ first = sync ∧ pidComplementValid pid = true := by
  unfold headerOf pidFlags
  rw [← beq_iff_eq (a := first)]
  cases first == sync <;> cases pidComplementValid pid <;> cases isDataPid pid <;>
    cases pid == params.expectedPid <;> decide

/-! ### The closed form of the drain variables -/

/-- The drain variables once `bytes` have been pulled. -/
def drainedOf (params : InParams) (raw : RawBuffer) (bytes : List UInt8) : InDrain :=
  drainInFifo params (initialDrain raw) bytes

theorem drainInFifo_drainedOf (params : InParams) (raw : RawBuffer) (bytes more : List UInt8) :
    drainInFifo params (drainedOf params raw bytes) more = drainedOf params raw (bytes ++ more) := by
  unfold drainedOf drainInFifo
  rw [List.foldl_append]

theorem drainedOf_snoc (params : InParams) (raw : RawBuffer) (bytes : List UInt8) (byte : UInt8) :
    drainedOf params raw (bytes ++ [byte]) = drainByte params (drainedOf params raw bytes) byte := by
  rw [← drainInFifo_drainedOf]
  rfl

theorem drainedOf_len (params : InParams) (raw : RawBuffer) (bytes : List UInt8) :
    (drainedOf params raw bytes).len = bytes.length := by
  induction bytes using List.reverseRecOn with
  | nil => rfl
  | append_singleton bytes byte ih =>
    rw [drainedOf_snoc, drainByte_len, ih, List.length_append]
    rfl

/-- The streaming test on a body behind a given length limit. -/
def bodyAckable (limit : Nat) (body : List UInt8) : Bool :=
  decide (4 ≤ body.length + 2) && decide (body.length + 2 ≤ limit)
    && body.foldl crc16UpdateRam 0xffff == crc16UsbResidue

/-- The drain variables after SYNC, PID and a body. -/
structure DrainedAs (params : InParams) (first pid : UInt8) (body : List UInt8) (drain : InDrain) :
    Prop where
  len : drain.len = body.length + 2
  headerFlags : drain.headerFlags = headerOf params first pid
  lastPid : drain.pid = pid
  limit : drain.ackWireLenLimit =
    if dataHeader (headerOf params first pid) then wireLenLimit params pid else 0
  crc : drain.crc = body.foldl crc16UpdateRam 0xffff
  ackable : drain.ackable = bodyAckable drain.ackWireLenLimit body

/-- **The closed form**, by induction on the body from its end. -/
theorem drained_spec (params : InParams) (raw : RawBuffer) (first pid : UInt8) (body : List UInt8) :
    DrainedAs params first pid body (drainedOf params raw (first :: pid :: body)) := by
  induction body using List.reverseRecOn with
  | nil => exact ⟨rfl, rfl, rfl, rfl, rfl, rfl⟩
  | append_singleton body byte ih =>
    rw [show first :: pid :: (body ++ [byte]) = (first :: pid :: body) ++ [byte] from rfl,
      drainedOf_snoc]
    have long := ih.len
    unfold drainByte
    rw [if_neg (by omega), if_neg (by omega)]
    refine ⟨?_, ih.headerFlags, ih.lastPid, ih.limit, ?_, ?_⟩
    · simp only [ih.len, List.length_append, List.length_singleton]
    · simp only [ih.crc, List.foldl_append, List.foldl_cons, List.foldl_nil]
    · simp only [bodyAckable, ih.len, ih.crc, List.length_append, List.length_singleton,
        List.foldl_append, List.foldl_cons, List.foldl_nil]

/-! ### The raw buffer -/

theorem storeRaw_getD (raw : RawBuffer) (len index : Nat) (byte : UInt8) :
    (storeRaw raw len byte).toList.getD index 0 =
      if index = len ∧ len < maxDecodedBytes then byte else raw.toList.getD index 0 := by
  unfold storeRaw
  split
  · rename_i inside
    rw [Vector.toList_set, List.getD_eq_getElem?_getD, List.getD_eq_getElem?_getD,
      List.getElem?_set]
    by_cases same : index = len
    · subst same
      simp [inside]
    · rw [if_neg (fun other => same other.symm), if_neg (fun both => same both.1)]
  · rename_i outside
    rw [if_neg (fun both => outside both.2)]

/-- The raw buffer holds what has been pulled, as far as it reaches. -/
theorem drainedOf_raw (params : InParams) (raw : RawBuffer) (bytes : List UInt8) (index : Nat)
    (inside : index < bytes.length) (fits : index < maxDecodedBytes) :
    (drainedOf params raw bytes).raw.toList.getD index 0 = bytes.getD index 0 := by
  induction bytes using List.reverseRecOn with
  | nil => simp at inside
  | append_singleton bytes byte ih =>
    have stored : (drainedOf params raw (bytes ++ [byte])).raw =
        storeRaw (drainedOf params raw bytes).raw bytes.length byte := by
      rw [drainedOf_snoc]
      unfold drainByte
      rw [drainedOf_len]
      split
      · rfl
      · split <;> rfl
    rw [stored, storeRaw_getD]
    rw [List.length_append, List.length_singleton] at inside
    by_cases last : index = bytes.length
    · subst last
      rw [if_pos ⟨rfl, fits⟩]
      simp
    · rw [if_neg (fun both => last both.1), ih (by omega)]
      rw [List.getD_eq_getElem?_getD, List.getD_eq_getElem?_getD,
        List.getElem?_append_left (by omega)]

theorem copyPayload_eq (raw : RawBuffer) (payload : List UInt8) (count : Nat)
    (fits : count ≤ payload.length) :
    copyPayload raw payload count =
      (List.range count).map (fun index => raw.toList.getD (index + 2) 0) ++ payload.drop count := by
  unfold copyPayload
  induction count with
  | zero => simp
  | succ count ih =>
    rw [List.range_succ, List.foldl_append, ih (by omega), List.map_append]
    simp only [List.foldl_cons, List.foldl_nil, List.map_cons, List.map_nil]
    rw [List.set_append_right _ _ (by simp), List.length_map, List.length_range, Nat.sub_self,
      List.drop_eq_getElem_cons (by omega), List.set_cons_zero, List.append_assoc,
      List.singleton_append]

/-! ### The incremental flag is the plain decision -/

variable {params : InParams}

/-- The length limit is the classification's bound on the payload. -/
theorem classify_ne_reject (expected : isDataPid params.expectedPid = true)
    (capacity : params.maxPayloadLen ≤ params.payloadLen) {pid : UInt8}
    (data : isDataPid pid = true) (len : Nat) :
    classifyInData true params.expectedPid params.maxPayloadLen params.payloadLen pid len ≠ .reject ↔
      len + 4 ≤ wireLenLimit params pid := by
  unfold classifyInData wireLenLimit
  simp only [expected, data, Bool.not_true, Bool.false_or, Bool.or_eq_true, decide_eq_true_eq,
    beq_iff_eq]
  by_cases large : len > params.payloadLen
  · rw [if_pos (Or.inr large)]
    simp only [ne_eq, not_true_eq_false, false_iff]
    split <;> omega
  · rw [if_neg (by omega)]
    by_cases same : pid = params.expectedPid
    · rw [if_neg (not_not.mpr same), if_pos same]
      by_cases short : len ≤ params.maxPayloadLen
      · simp [short]
      · rw [if_neg short]
        simp only [ne_eq, not_true_eq_false, false_iff]
        omega
    · rw [if_pos same, if_neg same]
      simp only [ne_eq, reduceCtorEq, not_false_eq_true, true_iff]
      omega

theorem ackableBytes_iff {bytes : List UInt8} :
    ackableBytes params bytes = true ↔ ∃ pid payload, parsePacket bytes = .ok (.data pid payload) ∧
      classifyInData true params.expectedPid params.maxPayloadLen params.payloadLen pid
        payload.length ≠ .reject := by
  unfold ackableBytes
  split
  · rename_i pid payload parsed
    rw [bne_iff_ne]
    constructor
    · exact fun kept => ⟨pid, payload, parsed, kept⟩
    · rintro ⟨other, data, same, kept⟩
      rw [parsed] at same
      cases same
      exact kept
  · rename_i other
    constructor
    · intro absurd; cases absurd
    · rintro ⟨pid, payload, parsed, -⟩
      exact absurd parsed (other pid payload)

theorem dataPayload_length (body : List UInt8) : (dataPayload body).length = body.length - 2 := by
  rw [dataPayload, List.length_take]
  omega

/-- **The incremental flag is the plain decision** on the bytes pulled so far. -/
theorem ackable_drainedOf (expected : isDataPid params.expectedPid = true)
    (capacity : params.maxPayloadLen ≤ params.payloadLen) (raw : RawBuffer) (bytes : List UInt8) :
    (drainedOf params raw bytes).ackable = ackableBytes params bytes := by
  match bytes with
  | [] => rfl
  | [_] => rfl
  | first :: pid :: body =>
    have drained := drained_spec params raw first pid body
    rw [Bool.eq_iff_iff, ackableBytes_iff, drained.ackable, drained.limit, bodyAckable]
    simp only [Bool.and_eq_true, decide_eq_true_eq, beq_iff_eq]
    constructor
    · rintro ⟨⟨long, short⟩, crc⟩
      by_cases header : dataHeader (headerOf params first pid) = true
      · rw [if_pos header] at short
        obtain ⟨rfl, data⟩ := (dataHeader_headerOf params first pid).mp header
        refine ⟨pid, dataPayload body, ?_, ?_⟩
        · exact parsePacket_data_iff.mpr ⟨body, rfl, data, by omega,
            (crc16Residue_iff (by omega)).mp crc, rfl⟩
        · rw [classify_ne_reject expected capacity data, dataPayload_length]
          omega
      · rw [if_neg header] at short
        omega
    · rintro ⟨other, payload, parsed, kept⟩
      obtain ⟨body', same, data, long, crc, rfl⟩ := parsePacket_data_iff.mp parsed
      cases same
      rw [if_pos ((dataHeader_headerOf params sync pid).mpr ⟨rfl, data⟩)]
      rw [classify_ne_reject expected capacity data, dataPayload_length] at kept
      exact ⟨⟨by omega, by omega⟩, (crc16Residue_iff long).mpr crc⟩

/-! ### The terminal drain -/

theorem drainTerminalByte_eq (params : InParams) (drain : InDrain) (long : 2 ≤ drain.len)
    (byte : UInt8) :
    ∃ ackable, drainByte params drain byte = { drainTerminalByte drain byte with ackable } := by
  unfold drainByte drainTerminalByte
  rw [if_neg (by omega), if_neg (by omega), if_pos long]
  exact ⟨_, rfl⟩

theorem foldl_drainTerminalByte_eq (params : InParams) (drain : InDrain) (long : 2 ≤ drain.len)
    (bytes : List UInt8) (ackable : Bool) :
    ∃ final, drainInFifo params { drain with ackable } bytes =
      { bytes.foldl drainTerminalByte drain with ackable := final } := by
  induction bytes generalizing drain ackable with
  | nil => exact ⟨ackable, rfl⟩
  | cons byte rest ih =>
    obtain ⟨next, step⟩ := drainTerminalByte_eq params { drain with ackable } long byte
    have longer : 2 ≤ (drainTerminalByte drain byte).len := by
      simp only [drainTerminalByte]; omega
    obtain ⟨final, run⟩ := ih (drainTerminalByte drain byte) longer next
    refine ⟨final, ?_⟩
    rw [List.foldl_cons, ← run]
    show drainInFifo params (drainByte params { drain with ackable } byte) rest = _
    rw [step]
    rfl

/-- **The terminal drain computes what the ordinary drain does**, on a packet whose header is
complete. -/
theorem drainTerminalDataFifo_eq (params : InParams) (raw : RawBuffer) (bytes more : List UInt8)
    (long : 2 ≤ bytes.length) :
    drainTerminalDataFifo (drainedOf params raw bytes) more =
      drainedOf params raw (bytes ++ more) := by
  obtain ⟨final, run⟩ := foldl_drainTerminalByte_eq params (drainedOf params raw bytes)
    (by rw [drainedOf_len]; exact long) more (drainedOf params raw bytes).ackable
  rw [show ({ drainedOf params raw bytes with
    ackable := (drainedOf params raw bytes).ackable } : InDrain) = drainedOf params raw bytes
    from rfl, drainInFifo_drainedOf] at run
  match bytes with
  | [] => simp at long
  | [_] => simp at long
  | first :: pid :: body =>
    have drained := drained_spec params raw first pid (body ++ more)
    rw [← List.cons_append, ← List.cons_append] at drained
    rw [run]
    have verdict := drained.ackable
    have len := drained.len
    have crc := drained.crc
    rw [run] at verdict len crc
    simp only at verdict len crc
    unfold drainTerminalDataFifo
    rw [verdict, bodyAckable]
    simp only [len, crc]

/-! ### The running CRC, however the bytes are split between drains -/

theorem drainByte_crc (params : InParams) (drain : InDrain) (byte : UInt8) :
    (drainByte params drain byte).crc =
      if 2 ≤ drain.len then crc16UpdateRam drain.crc byte else drain.crc := by
  unfold drainByte
  by_cases first : drain.len = 0
  · rw [if_pos first, if_neg (show ¬ 2 ≤ drain.len by omega)]
  · by_cases second : drain.len < 2
    · rw [if_neg first, if_pos second, if_neg (show ¬ 2 ≤ drain.len by omega)]
    · rw [if_neg first, if_neg second, if_pos (by omega)]

/-- A drain updates the CRC with every byte after SYNC and PID. -/
theorem drainInFifo_crc (params : InParams) (drain : InDrain) (bytes : List UInt8) :
    (drainInFifo params drain bytes).crc =
      (bytes.drop (2 - drain.len)).foldl crc16UpdateRam drain.crc := by
  unfold drainInFifo
  induction bytes generalizing drain with
  | nil => rw [List.drop_nil]; rfl
  | cons byte rest ih =>
    rw [List.foldl_cons, ih, drainByte_len, drainByte_crc]
    by_cases body : 2 ≤ drain.len
    · rw [if_pos body, show 2 - (drain.len + 1) = 0 by omega, show 2 - drain.len = 0 by omega]
      rfl
    · rw [if_neg body, show 2 - drain.len = 2 - (drain.len + 1) + 1 by omega]
      rfl

theorem drainTerminalDataFifo_crc (drain : InDrain) (bytes : List UInt8) :
    (drainTerminalDataFifo drain bytes).crc =
      (bytes.drop (2 - drain.len)).foldl crc16UpdateRam drain.crc := by
  show (bytes.foldl drainTerminalByte drain).crc = _
  induction bytes generalizing drain with
  | nil => rw [List.drop_nil]; rfl
  | cons byte rest ih =>
    rw [List.foldl_cons, ih]
    by_cases body : 2 ≤ drain.len
    · simp only [drainTerminalByte, if_pos body]
      rw [show 2 - (drain.len + 1) = 0 by omega, show 2 - drain.len = 0 by omega]
      rfl
    · simp only [drainTerminalByte, if_neg body]
      rw [show 2 - drain.len = 2 - (drain.len + 1) + 1 by omega]
      rfl

/-- Drains one after another are one drain of everything they pull. -/
theorem foldl_drainInFifo (params : InParams) (drain : InDrain) (drains : List (List UInt8)) :
    drains.foldl (drainInFifo params) drain = drainInFifo params drain drains.flatten := by
  induction drains generalizing drain with
  | nil => rfl
  | cons bytes rest ih =>
    rw [List.foldl_cons, ih, List.flatten_cons]
    unfold drainInFifo
    rw [List.foldl_append]

/-- Ordinary drains and a terminal one fold the table step over everything after SYNC and PID. -/
theorem drains_crc (params : InParams) (raw : RawBuffer) (drains : List (List UInt8))
    (terminal : List UInt8) :
    (drainTerminalDataFifo (drains.foldl (drainInFifo params) (initialDrain raw)) terminal).crc =
      ((drains.flatten ++ terminal).drop 2).foldl crc16UpdateRam 0xffff := by
  rw [foldl_drainInFifo, drainTerminalDataFifo_crc, drainInFifo_crc]
  show (terminal.drop (2 - (drainedOf params raw drains.flatten).len)).foldl crc16UpdateRam
    ((drains.flatten.drop 2).foldl crc16UpdateRam 0xffff) = _
  rw [drainedOf_len, List.drop_append, List.foldl_append]

/-- **The streaming check is the plain one.** The residue test on a whole body is the comparison of
its last two bytes with the CRC of the rest. The register is that CRC with its inversion undone,
whatever the split of the bytes: between calls of the table step, and between the drains of a
received packet, whose last may be the terminal one. -/
theorem streaming_crc16_eq_plain :
    (∀ bytes : List UInt8, 2 ≤ bytes.length →
      (bytes.foldl crc16UpdateRam 0xffff = crc16UsbResidue ↔
        crc16Data (bytes.take (bytes.length - 2)) =
          u16FromLeBytes (bytes.getD (bytes.length - 2) 0) (bytes.getD (bytes.length - 1) 0))) ∧
      (∀ parts : List (List UInt8),
        parts.foldl (fun crc part => part.foldl crc16UpdateRam crc) 0xffff =
          crc16Data parts.flatten ^^^ 0xffff) ∧
      ∀ (params : InParams) (raw : RawBuffer) (drains : List (List UInt8)) (terminal : List UInt8),
        (drains.foldl (drainInFifo params) (initialDrain raw)).crc =
            crc16Data (drains.flatten.drop 2) ^^^ 0xffff ∧
          (drainTerminalDataFifo (drains.foldl (drainInFifo params) (initialDrain raw))
              terminal).crc = crc16Data ((drains.flatten ++ terminal).drop 2) ^^^ 0xffff := by
  have plain : ∀ bytes : List UInt8,
      bytes.foldl crc16UpdateRam 0xffff = crc16Data bytes ^^^ 0xffff := by
    intro bytes
    rw [foldl_crc16UpdateRam, foldl_crc16Byte_eq]
  refine ⟨?_, ?_, ?_⟩
  · intro bytes long
    exact crc16Residue_iff long
  · intro parts
    rw [← plain, List.foldl_flatten]
  · intro params raw drains terminal
    refine ⟨?_, ?_⟩
    · rw [foldl_drainInFifo, drainInFifo_crc, ← plain]
      rfl
    · rw [drains_crc, plain]

end PioUsbHost.Rx
