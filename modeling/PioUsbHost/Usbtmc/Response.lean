/-
**What `read_response` returns, from the packets of a transfer.**

The loop is described by the wire bytes taken so far (`Received`), and its successful runs by a
relation that takes one packet at a time (`Completes`).

* `copyLoop_of_completes`, `completes_of_copyLoop`: the loop succeeds along the derivations of `Completes`.
* `completes_of_full`: a transfer in packets of a multiple of four bytes completes.
* `not_completes_of_broken`: a transfer that breaks off after full packets does not.
* `readResponse_delivers_iff`: a response is delivered exactly when packets are not of eight bytes.
-/

import PioUsbHost.Usbtmc.Host

namespace PioUsbHost.Usbtmc

open PioUsbHost.Lib.Panic PioUsbHost.Usb

theorem bytes_or (value : BitVec 32) :
    (value.setWidth 8).setWidth 32 ||| ((value >>> 8).setWidth 8).setWidth 32 <<< 8 |||
      ((value >>> 16).setWidth 8).setWidth 32 <<< 16 |||
      ((value >>> 24).setWidth 8).setWidth 32 <<< 24 = value := by
  apply BitVec.eq_of_getLsbD_eq
  intro i small
  simp only [BitVec.getLsbD_or, BitVec.getLsbD_shiftLeft, BitVec.getLsbD_setWidth,
    BitVec.getLsbD_ushiftRight]
  -- one case for each byte of the value
  by_cases first : i < 8
  · simp [first, small, show i < 16 by omega, show i < 24 by omega]
  by_cases second : i < 16
  · simp [first, second, small, show i < 24 by omega, show i - 8 < 32 by omega,
      show i - 8 < 8 by omega, show 8 + (i - 8) = i by omega]
  by_cases third : i < 24
  · simp [first, second, third, small, show i - 8 < 32 by omega, show ¬ i - 8 < 8 by omega,
      show i - 16 < 32 by omega, show i - 16 < 8 by omega, show 16 + (i - 16) = i by omega]
  · simp [first, second, third, small, show i - 8 < 32 by omega, show ¬ i - 8 < 8 by omega,
      show ¬ i - 16 < 8 by omega, show i - 24 < 8 by omega, show i - 24 < 32 by omega,
      show 24 + (i - 24) = i by omega]

/-- The announced length is read back. -/
theorem fromLeBytes_toLeBytes (value : UInt32) :
    fromLeBytes value.toUInt8 (value >>> 8).toUInt8 (value >>> 16).toUInt8 (value >>> 24).toUInt8 =
      value.toNat := by
  rw [fromLeBytes]
  congr 1
  apply UInt32.toBitVec_inj.mp
  exact bytes_or value.toBitVec

/-! ### One packet -/

/-- The bytes of the transfer taken so far, and the buffer that the payload goes to. -/
structure Received (announced : Nat) (buffer wire : List UInt8) (progress : Progress) : Prop where
  room : announced ≤ buffer.length
  header : headerLen ≤ wire.length
  wireReceived : progress.wireReceived = wire.length
  copied : progress.copied = min (wire.length - headerLen) announced
  response : progress.response =
    (wire.drop headerLen).take announced ++ buffer.drop progress.copied

variable {packetSize announced : Nat} {buffer wire : List UInt8} {progress : Progress}

theorem Received.length (received : Received announced buffer wire progress) :
    ((wire.drop headerLen).take announced).length = progress.copied := by
  rw [List.length_take, List.length_drop, received.copied, Nat.min_comm]

/-- **One packet more.** -/
theorem Received.step (received : Received announced buffer wire progress) (packet : List UInt8)
    (unfinished : progress.copied < announced) :
    ∃ response, copyInto progress.response progress.copied
        (packet.take (min packet.length (announced - progress.copied))) = .ok response ∧
      Received announced buffer (wire ++ packet)
        { copied := progress.copied + min packet.length (announced - progress.copied)
          wireReceived := progress.wireReceived + packet.length
          lastPacketLen := packet.length
          response } := by
  have room := received.room
  have header := received.header
  have copied := received.copied
  have payload : wire.length - headerLen = progress.copied := by omega
  have sofar : (wire.drop headerLen).take announced = wire.drop headerLen :=
    List.take_of_length_le (by rw [List.length_drop]; omega)
  have count : (packet.take (min packet.length (announced - progress.copied))).length =
      min packet.length (announced - progress.copied) := by
    rw [List.length_take]
    omega
  have long : progress.response.length = buffer.length := by
    rw [received.response, List.length_append, received.length, List.length_drop]
    omega
  have kept : progress.response.take progress.copied = wire.drop headerLen := by
    rw [received.response, sofar, List.take_left' (by rw [List.length_drop, payload])]
  have untouched : progress.response.drop
      (progress.copied + min packet.length (announced - progress.copied)) =
      buffer.drop (progress.copied + min packet.length (announced - progress.copied)) := by
    rw [← List.drop_drop, received.response, List.drop_left' received.length, List.drop_drop]
  have payloads : ((wire ++ packet).drop headerLen).take announced =
      wire.drop headerLen ++ packet.take (min packet.length (announced - progress.copied)) := by
    rw [List.drop_append_of_le_length header, List.take_append, sofar, List.length_drop, payload]
    congr 1
    rw [List.take_eq_take_iff]
    omega
  refine ⟨_, if_pos (by rw [count, long]; omega), ⟨room, ?_, ?_, ?_, ?_⟩⟩
  · rw [List.length_append]
    omega
  · rw [received.wireReceived, List.length_append]
  · rw [List.length_append]
    simp only
    omega
  · rw [payloads, kept, count, untouched]

/-! ### The loop -/

/-- The runs of the loop that succeed: `wire` is taken and its last packet has the given length;
`whole` is what will have been taken, and the last list the transfers left over. -/
inductive Completes (packetSize announced : Nat) :
    List UInt8 → Nat → List InTransfer → List UInt8 → List InTransfer → Prop where
  | short {wire : List UInt8} {lastPacketLen : Nat} {transfers : List InTransfer} :
      headerLen + announced ≤ wire.length → lastPacketLen ≠ packetSize →
      Completes packetSize announced wire lastPacketLen transfers wire transfers
  | terminated {wire : List UInt8} {lastPacketLen : Nat} {rest : List InTransfer} :
      headerLen + announced ≤ wire.length → lastPacketLen = packetSize →
      Completes packetSize announced wire lastPacketLen (.ok [] :: rest) wire rest
  | packet {wire packet whole : List UInt8} {lastPacketLen : Nat}
      {rest remaining : List InTransfer} :
      wire.length < headerLen + announced → packet ≠ [] → packet.length ≤ packetSize →
      wire.length + packet.length ≤ headerLen + nextMultipleOf4 announced →
      Completes packetSize announced (wire ++ packet) packet.length rest whole remaining →
      Completes packetSize announced wire lastPacketLen (.ok packet :: rest) whole remaining

/-- What a successful call leaves behind. -/
def delivered (announced : Nat) (buffer whole : List UInt8) (remaining : List InTransfer) :
    ReadOutcome :=
  ⟨.returned (.ok announced), (whole.drop headerLen).take announced ++ buffer.drop announced,
    remaining⟩

theorem Received.copied_lt_iff (received : Received announced buffer wire progress) :
    progress.copied < announced ↔ wire.length < headerLen + announced := by
  have header := received.header
  rw [received.copied]
  omega

theorem Received.copied_eq (received : Received announced buffer wire progress)
    (complete : headerLen + announced ≤ wire.length) : progress.copied = announced := by
  rw [received.copied]
  omega

/-- A short last packet ends the call. -/
theorem finish_short (received : Received announced buffer wire progress)
    (complete : headerLen + announced ≤ wire.length) (short : progress.lastPacketLen ≠ packetSize)
    (transfers : List InTransfer) :
    finish packetSize announced transfers progress = delivered announced buffer wire transfers := by
  have copied := received.copied_eq complete
  unfold finish
  rw [if_neg (by rw [received.wireReceived]; omega), if_neg short, received.response, copied]
  rfl

/-- A full last packet needs a zero-length one. -/
theorem finish_terminated (received : Received announced buffer wire progress)
    (complete : headerLen + announced ≤ wire.length) (full : progress.lastPacketLen = packetSize)
    (rest : List InTransfer) :
    finish packetSize announced (.ok [] :: rest) progress =
      delivered announced buffer wire rest := by
  have copied := received.copied_eq complete
  unfold finish
  rw [if_neg (by rw [received.wireReceived]; omega), if_pos full, received.response, copied]
  rfl

theorem terminated_of_finish {n : Nat} {transfers : List InTransfer}
    (full : progress.lastPacketLen = packetSize)
    (succeeds : (finish packetSize announced transfers progress).result = .returned (.ok n)) :
    ∃ rest, transfers = .ok [] :: rest := by
  unfold finish at succeeds
  rw [if_pos full] at succeeds
  split at succeeds
  · simp at succeeds
  · cases transfers with
    | nil => simp at succeeds
    | cons transfer rest =>
      cases taken : receive packetSize transfer with
      | error error => simp [taken] at succeeds
      | ok packet =>
        by_cases empty : packet.length = 0
        · obtain ⟨rfl, -⟩ := receive_eq_ok.mp taken
          rw [List.length_eq_zero_iff.mp empty]
          exact ⟨rest, rfl⟩
        · simp [taken, empty] at succeeds

/-- **The loop succeeds along the derivations.** -/
theorem copyLoop_of_completes {whole : List UInt8} {lastPacketLen : Nat}
    {transfers remaining : List InTransfer}
    (completes : Completes packetSize announced wire lastPacketLen transfers whole remaining)
    (received : Received announced buffer wire progress)
    (last : progress.lastPacketLen = lastPacketLen) :
    copyLoop packetSize announced transfers progress =
      delivered announced buffer whole remaining := by
  induction completes generalizing progress with
  | @short wire lastPacketLen transfers complete different =>
    have finished := mt received.copied_lt_iff.mp (Nat.not_lt.mpr complete)
    have ends := finish_short received complete (last ▸ different) transfers
    cases transfers <;> rw [copyLoop, if_neg finished, ends]
  | @terminated wire lastPacketLen rest complete full =>
    have finished := mt received.copied_lt_iff.mp (Nat.not_lt.mpr complete)
    rw [copyLoop, if_neg finished, finish_terminated received complete (last.trans full)]
  | @packet wire packet whole lastPacketLen rest remaining unfinished nonempty fits bounded _ ih =>
    have positive : packet.length ≠ 0 := mt List.length_eq_zero_iff.mp nonempty
    have copying := received.copied_lt_iff.mpr unfinished
    obtain ⟨response, copies, next⟩ := received.step packet copying
    have proceeds : ¬ (packet.length = 0 ∨
        progress.wireReceived + packet.length > headerLen + nextMultipleOf4 announced) := by
      rw [received.wireReceived]
      omega
    rw [copyLoop, if_pos copying, receive_of_le fits]
    simp only [if_neg proceeds, copies]
    exact ih next rfl

/-- **Conversely, a loop that succeeds is one of them.** -/
theorem completes_of_copyLoop {n : Nat} {transfers : List InTransfer}
    (received : Received announced buffer wire progress)
    (succeeds : (copyLoop packetSize announced transfers progress).result = .returned (.ok n)) :
    ∃ whole remaining,
      Completes packetSize announced wire progress.lastPacketLen transfers whole remaining := by
  induction transfers generalizing progress wire with
  | nil =>
    rw [copyLoop] at succeeds
    split at succeeds
    · simp at succeeds
    next finished =>
      have complete := Nat.not_lt.mp (mt received.copied_lt_iff.mpr finished)
      by_cases full : progress.lastPacketLen = packetSize
      · obtain ⟨rest, ⟨⟩⟩ := terminated_of_finish full succeeds
      · exact ⟨wire, [], .short complete full⟩
  | cons transfer rest ih =>
    rw [copyLoop] at succeeds
    split at succeeds
    next copying =>
      have unfinished := received.copied_lt_iff.mp copying
      cases taken : receive packetSize transfer with
      | error error => simp [taken] at succeeds
      | ok packet =>
        obtain ⟨rfl, fits⟩ := receive_eq_ok.mp taken
        rw [taken] at succeeds
        simp only at succeeds
        split at succeeds
        · simp at succeeds
        next proceeds =>
          obtain ⟨response, copies, next⟩ := received.step packet copying
          rw [received.wireReceived] at proceeds
          rw [copies] at succeeds
          obtain ⟨whole, remaining, completes⟩ := ih next succeeds
          refine ⟨whole, remaining, .packet unfinished ?_ fits (by omega) completes⟩
          rintro rfl
          exact proceeds (.inl rfl)
    next finished =>
      have complete := Nat.not_lt.mp (mt received.copied_lt_iff.mpr finished)
      by_cases full : progress.lastPacketLen = packetSize
      · obtain ⟨left, same⟩ := terminated_of_finish full succeeds
        rw [same]
        exact ⟨wire, left, .terminated complete full⟩
      · exact ⟨wire, transfer :: rest, .short complete full⟩

/-! ### Transfers -/

/-- The packets of one bulk transfer: full ones, then a shorter one that ends it. -/
def IsTransfer (packetSize : Nat) (wire : List UInt8) (packets : List (List UInt8)) : Prop :=
  ∃ full last, packets = full ++ [last] ∧ (∀ packet ∈ full, packet.length = packetSize) ∧
    last.length < packetSize ∧ wire = full.flatten ++ last

/-- A transfer in packets of a multiple of four bytes completes: when everything announced is there,
only the end of the transfer is left. -/
theorem completes_of_full {full : List (List UInt8)} {last : List UInt8}
    (aligned : 4 ∣ packetSize) (positive : 0 < packetSize)
    (sizes : ∀ packet ∈ full, packet.length = packetSize) (ends : last.length < packetSize)
    (sofar : packetSize ∣ wire.length)
    (enough : headerLen + announced ≤ wire.length + (full.flatten ++ last).length)
    (bounded : wire.length + (full.flatten ++ last).length ≤
      headerLen + nextMultipleOf4 announced) (later : List InTransfer) :
    Completes packetSize announced wire packetSize ((full ++ [last]).map .ok ++ later)
      (wire ++ (full.flatten ++ last)) later := by
  have multiple : 4 ∣ wire.length := Nat.dvd_trans aligned sofar
  -- while bytes are left, not everything announced is there
  have unfinished : 0 < (full.flatten ++ last).length → wire.length < headerLen + announced := by
    intro left
    unfold nextMultipleOf4 headerLen at *
    omega
  induction full generalizing wire with
  | nil =>
    rw [List.flatten_nil, List.nil_append] at *
    by_cases empty : last = []
    · subst empty
      have whole : wire ++ ([] ++ []) = wire := List.append_nil wire
      rw [whole]
      exact .terminated (by simpa using enough) rfl
    · have left : 0 < last.length := List.length_pos_iff.mpr empty
      refine .packet (unfinished left) empty (Nat.le_of_lt ends) bounded (.short ?_ (by omega))
      rw [List.length_append]
      exact enough
  | cons packet others ih =>
    have size := sizes packet List.mem_cons_self
    have nonempty : packet ≠ [] := by
      rintro rfl
      rw [List.length_nil] at size
      omega
    rw [List.flatten_cons, List.append_assoc, List.length_append] at enough bounded unfinished
    rw [List.flatten_cons, List.append_assoc, ← List.append_assoc wire]
    refine .packet (unfinished (by omega)) nonempty (Nat.le_of_eq size) (by omega) ?_
    rw [size]
    apply ih (fun other member => sizes other (List.mem_cons_of_mem _ member))
    · rw [List.length_append, size]
      exact Nat.dvd_add sofar (Nat.dvd_refl _)
    · rw [List.length_append]
      omega
    · rw [List.length_append]
      omega
    · rw [List.length_append, size]
      exact Nat.dvd_add multiple aligned
    · intro left
      rw [List.length_append]
      unfold nextMultipleOf4 headerLen at *
      omega

/-- A transfer that breaks off after full packets does not complete. -/
theorem not_completes_of_broken {sent : List (List UInt8)} {stop transfers remaining : List InTransfer}
    {whole : List UInt8} {lastPacketLen : Nat} (positive : 0 < packetSize)
    (sizes : ∀ packet ∈ sent, packet.length = packetSize)
    (broken : ∀ packet, .ok packet ∉ stop.head?) (same : transfers = sent.map .ok ++ stop)
    (full : lastPacketLen = packetSize) :
    ¬ Completes packetSize announced wire lastPacketLen transfers whole remaining := by
  intro completes
  induction completes generalizing sent with
  | short _ different => exact different full
  | @terminated wire lastPacketLen rest _ _ =>
    cases sent with
    | nil => exact broken [] (by rw [← List.nil_append stop, ← List.map_nil, ← same]; rfl)
    | cons packet others =>
      obtain ⟨first, -⟩ := List.cons.inj same
      have size := sizes packet List.mem_cons_self
      rw [← Except.ok.inj first, List.length_nil] at size
      omega
  | @packet wire packet whole lastPacketLen rest remaining _ _ _ _ _ ih =>
    cases sent with
    | nil => exact broken packet (by rw [← List.nil_append stop, ← List.map_nil, ← same]; rfl)
    | cons other others =>
      obtain ⟨first, left⟩ := List.cons.inj same
      have size := sizes other List.mem_cons_self
      rw [← Except.ok.inj first] at size
      exact ih (fun another member => sizes another (List.mem_cons_of_mem _ member)) left size

/-! ### The whole call -/

/-- The header of a response: DEV_DEP_MSG_IN, the tag and its inverse, a length, attributes, and four
reserved bytes. -/
structure ResponseHeader where
  tag : UInt8
  length : UInt32
  attributes : UInt8
  reserved : UInt8 × UInt8 × UInt8 × UInt8

/-- The header's twelve bytes. -/
def ResponseHeader.bytes (header : ResponseHeader) : List UInt8 :=
  [msgidDevDepMsgIn, header.tag, ~~~header.tag, header.reserved.1] ++
    toLeBytes header.length ++
    [header.attributes, header.reserved.2.1, header.reserved.2.2.1, header.reserved.2.2.2]

/-- What the device puts on the bus: header, payload and alignment bytes. -/
def responseWire (header : ResponseHeader) (payload padding : List UInt8) : List UInt8 :=
  header.bytes ++ payload ++ padding

theorem ResponseHeader.bytes_length (header : ResponseHeader) :
    header.bytes.length = headerLen := rfl

theorem checkHeader_bytes {header : ResponseHeader} {rest : List UInt8} :
    checkHeader header.tag (header.bytes ++ rest) = .ok header.length.toNat := by
  have read := fromLeBytes_toLeBytes header.length
  have long : ¬ (header.bytes ++ rest).length < headerLen := by
    rw [List.length_append, header.bytes_length]
    omega
  rw [checkHeader, decide_eq_false long, ResponseHeader.bytes]
  simp [orElse, index, toLeBytes, read]

/-- A first packet that is too short for a header ends the call. -/
theorem readResponse_of_short {tag : UInt8} {response packet : List UInt8} {rest : List InTransfer}
    (fits : packet.length ≤ packetSize) (short : packet.length < headerLen) :
    readResponse packetSize tag response (.ok packet :: rest) =
      ⟨.returned (fail .invalidMessage), response, rest⟩ := by
  simp [readResponse, receive_of_le fits, firstPacket, checkHeader, orElse, short]
  rfl

/-- A first packet that passes the checks starts the loop. -/
theorem firstPacket_received {tag : UInt8} {response packet : List UInt8}
    (checked : checkHeader tag packet = .ok announced) (header : headerLen ≤ packet.length)
    (room : announced ≤ response.length)
    (bounded : packet.length ≤ headerLen + nextMultipleOf4 announced) :
    ∃ progress, firstPacket tag response packet = .ok (announced, progress) ∧
      Received announced response packet progress ∧ progress.lastPacketLen = packet.length := by
  have small : headerLen + min (packet.length - headerLen) announced ≤ packet.length := by omega
  have cut : (packet.drop headerLen).take (min (packet.length - headerLen) announced) =
      (packet.drop headerLen).take announced := by
    rw [List.take_eq_take_iff, List.length_drop]
    omega
  have copied : ((packet.drop headerLen).take announced).length =
      min (packet.length - headerLen) announced := by
    rw [List.length_take, List.length_drop, Nat.min_comm]
  refine ⟨⟨min (packet.length - headerLen) announced, packet.length, packet.length,
    (packet.drop headerLen).take announced ++
      response.drop (min (packet.length - headerLen) announced)⟩, ?_,
    ⟨room, header, rfl, rfl, rfl⟩, rfl⟩
  · rw [firstPacket, checked, ok_bind, if_neg (Nat.not_lt.mpr room),
      if_neg (Nat.not_lt.mpr bounded)]
    simp only [slice_of_le (Nat.le_add_right _ _) small, Nat.add_sub_cancel_left, cut, ok_bind]
    rw [copyInto, if_pos (by rw [copied]; omega), copied]
    simp

theorem conditions_of_firstPacket {tag : UInt8} {response packet : List UInt8}
    (starts : firstPacket tag response packet = .ok (announced, progress)) :
    checkHeader tag packet = .ok announced ∧ headerLen ≤ packet.length ∧
      announced ≤ response.length ∧
      packet.length ≤ headerLen + nextMultipleOf4 announced := by
  obtain ⟨length, checked, starts⟩ := bind_eq_ok.mp starts
  split at starts
  · exact absurd starts (fail_ne_ok _ _)
  next room =>
    split at starts
    · exact absurd starts (fail_ne_ok _ _)
    next bounded =>
      obtain ⟨cut, -, starts⟩ := bind_eq_ok.mp starts
      obtain ⟨copied, -, starts⟩ := bind_eq_ok.mp starts
      obtain ⟨rfl, -⟩ := Prod.mk.inj (Except.ok.inj starts)
      refine ⟨checked, ?_, Nat.not_lt.mp room, Nat.not_lt.mp bounded⟩
      by_contra short
      rw [checkHeader, decide_eq_true (Nat.lt_of_not_le short)] at checked
      exact absurd checked (fail_ne_ok _ _)

/-- **The end of the loop is the end of the call.** -/
theorem readResponse_of_completes {tag : UInt8} {response packet whole : List UInt8}
    {rest remaining : List InTransfer} (fits : packet.length ≤ packetSize)
    (checked : checkHeader tag packet = .ok announced) (header : headerLen ≤ packet.length)
    (room : announced ≤ response.length)
    (bounded : packet.length ≤ headerLen + nextMultipleOf4 announced)
    (completes : Completes packetSize announced packet packet.length rest whole remaining) :
    readResponse packetSize tag response (.ok packet :: rest) =
      delivered announced response whole remaining := by
  obtain ⟨progress, starts, received, last⟩ := firstPacket_received checked header room bounded
  rw [readResponse, receive_of_le fits]
  simp only [starts]
  exact copyLoop_of_completes completes received last

/-- The packet sizes of a discovered interface, other than eight bytes, hold a header. -/
theorem discovered_packetSize {bytes : List UInt8} {interface : UsbtmcInterface}
    (discovered : UsbtmcInterface.discover bytes = .ok interface)
    (notEight : interface.bulkInEndpoint.maxPacketSize ≠ 8) :
    4 ∣ interface.bulkInEndpoint.maxPacketSize.toNat ∧
      headerLen ≤ interface.bulkInEndpoint.maxPacketSize.toNat := by
  have valid := discover_bulkInEndpoint discovered
  generalize interface.bulkInEndpoint.maxPacketSize = size at *
  rw [validBulkPacketSize, decide_eq_true_eq] at valid
  simp only [List.mem_cons, List.not_mem_nil, or_false] at valid
  rcases valid with rfl | rfl | rfl | rfl | rfl
  · exact absurd rfl notEight
  all_goals decide

section Transfer

variable {header : ResponseHeader} {payload padding response : List UInt8}
  {packets : List (List UInt8)}

theorem responseWire_length :
    (responseWire header payload padding).length = headerLen + payload.length + padding.length := by
  rw [responseWire, List.length_append, List.length_append, header.bytes_length]

/-- **A response in packets of a multiple of four bytes, at least a header long, is delivered.** -/
theorem readResponse_of_transfer (aligned : 4 ∣ packetSize) (large : headerLen ≤ packetSize)
    (announces : header.length.toNat = payload.length)
    (room : payload.length ≤ response.length)
    (padded : payload.length + padding.length ≤ nextMultipleOf4 payload.length)
    (isTransfer : IsTransfer packetSize (responseWire header payload padding) packets)
    (later : List InTransfer) :
    readResponse packetSize header.tag response (packets.map .ok ++ later) =
      ⟨.returned (.ok payload.length), payload ++ response.drop payload.length, later⟩ := by
  obtain ⟨full, last, rfl, sizes, ends, wire⟩ := isTransfer
  have total : (full.flatten ++ last).length = headerLen + payload.length + padding.length := by
    rw [← wire, responseWire_length]
  have outcome : delivered payload.length response (responseWire header payload padding) later =
      ⟨.returned (.ok payload.length), payload ++ response.drop payload.length, later⟩ := by
    rw [delivered, responseWire, List.append_assoc, List.drop_left' header.bytes_length,
      List.take_left' rfl]
  have checked {packet : List UInt8} {rest : List UInt8}
      (starts : responseWire header payload padding = packet ++ rest)
      (long : headerLen ≤ packet.length) : checkHeader header.tag packet = .ok payload.length := by
    have front : packet = header.bytes ++ packet.drop headerLen := by
      have cut := congrArg (List.take headerLen) starts
      rw [responseWire, List.append_assoc, List.take_left' header.bytes_length,
        List.take_append_of_le_length long] at cut
      rw [cut, List.take_append_drop]
    rw [front, checkHeader_bytes, announces]
  rw [← outcome]
  cases full with
  | nil =>
    rw [List.flatten_nil, List.nil_append] at wire total
    have long : headerLen ≤ last.length := by omega
    apply readResponse_of_completes (Nat.le_of_lt ends)
      (checked (by rw [wire, List.append_nil]) long) long room (by omega)
    rw [wire]
    exact .short (by omega) (by omega)
  | cons first others =>
    have size := sizes first List.mem_cons_self
    rw [List.flatten_cons, List.append_assoc] at wire
    rw [List.flatten_cons, List.append_assoc, List.length_append] at total
    have long : headerLen ≤ first.length := by omega
    apply readResponse_of_completes (Nat.le_of_eq size) (checked wire long) long room (by omega)
    rw [wire, size]
    exact completes_of_full aligned (by unfold headerLen at large; omega)
      (fun other member => sizes other (List.mem_cons_of_mem _ member)) ends
      (size ▸ Nat.dvd_refl _) (by omega) (by omega) later

/-- What the first packet of a call that succeeds has passed, and the packets behind it. -/
structure Succeeds (packetSize : Nat) (tag : UInt8) (response : List UInt8)
    (first : List UInt8) (rest : List InTransfer) (announced : Nat) (whole : List UInt8)
    (remaining : List InTransfer) : Prop where
  fits : first.length ≤ packetSize
  checked : checkHeader tag first = .ok announced
  header : headerLen ≤ first.length
  room : announced ≤ response.length
  bounded : first.length ≤ headerLen + nextMultipleOf4 announced
  completes : Completes packetSize announced first first.length rest whole remaining

/-- A call that succeeds completes a transfer. -/
theorem succeeds_of_readResponse {tag : UInt8} {n : Nat} {transfers : List InTransfer}
    (succeeds : (readResponse packetSize tag response transfers).result = .returned (.ok n)) :
    ∃ first rest announced whole remaining, transfers = .ok first :: rest ∧
      Succeeds packetSize tag response first rest announced whole remaining := by
  cases transfers with
  | nil => simp [readResponse] at succeeds
  | cons transfer rest =>
    rw [readResponse] at succeeds
    cases taken : receive packetSize transfer with
    | error error => simp [taken] at succeeds
    | ok packet =>
      obtain ⟨rfl, fits⟩ := receive_eq_ok.mp taken
      cases starts : firstPacket tag response packet with
      | error fault => simp [taken, starts] at succeeds
      | ok started =>
        obtain ⟨announced, progress⟩ := started
        rw [taken] at succeeds
        simp only [starts] at succeeds
        obtain ⟨checked, header, room, bounded⟩ := conditions_of_firstPacket starts
        obtain ⟨same, restarts, received, last⟩ := firstPacket_received checked header room bounded
        obtain ⟨-, rfl⟩ := Prod.mk.inj (Except.ok.inj (starts.symm.trans restarts))
        obtain ⟨whole, remaining, completes⟩ := completes_of_copyLoop received succeeds
        exact ⟨packet, rest, announced, whole, remaining, rfl, fits, checked, header, room, bounded,
          last ▸ completes⟩

/-- In packets shorter than a header, it is not. -/
theorem readResponse_of_small (small : packetSize < headerLen) (tag : UInt8)
    (isTransfer : IsTransfer packetSize (responseWire header payload padding) packets)
    (later : List InTransfer) :
    (readResponse packetSize tag response (packets.map .ok ++ later)).result =
      .returned (fail .invalidMessage) := by
  obtain ⟨full, last, rfl, sizes, ends, wire⟩ := isTransfer
  cases full with
  | nil =>
    have total := congrArg List.length wire
    rw [responseWire_length, List.flatten_nil, List.nil_append] at total
    omega
  | cons first others =>
    have size := sizes first List.mem_cons_self
    rw [List.cons_append, List.map_cons, List.cons_append,
      readResponse_of_short (Nat.le_of_eq size) (by omega)]

/-- The call returns the payload's length, the buffer starts with the payload, and the transfer is
used up. -/
def IsDelivered (payload : List UInt8) (later : List InTransfer) (outcome : ReadOutcome) : Prop :=
  outcome.result = .returned (.ok payload.length) ∧
    outcome.response.take payload.length = payload ∧ outcome.bulkIn = later

/-- **A response to a discovered interface is delivered exactly when its packets are not of eight
bytes.** -/
theorem readResponse_delivers_iff {bytes : List UInt8} {interface : UsbtmcInterface}
    (discovered : UsbtmcInterface.discover bytes = .ok interface)
    (announces : header.length.toNat = payload.length) (room : payload.length ≤ response.length)
    (padded : payload.length + padding.length ≤ nextMultipleOf4 payload.length)
    (isTransfer : IsTransfer interface.bulkInEndpoint.maxPacketSize.toNat
      (responseWire header payload padding) packets) (later : List InTransfer) :
    IsDelivered payload later (readResponse interface.bulkInEndpoint.maxPacketSize.toNat header.tag
        response (packets.map .ok ++ later)) ↔
      interface.bulkInEndpoint.maxPacketSize ≠ 8 := by
  by_cases eight : interface.bulkInEndpoint.maxPacketSize = 8
  · have small : interface.bulkInEndpoint.maxPacketSize.toNat < headerLen := by
      rw [eight]
      decide
    rw [IsDelivered, readResponse_of_small small header.tag isTransfer later]
    simp [eight, fail]
  · obtain ⟨aligned, large⟩ := discovered_packetSize discovered eight
    have returned := readResponse_of_transfer aligned large announces room padded isTransfer later
    rw [IsDelivered, returned]
    simp [eight]

end Transfer

/-! ### Two configurations -/

/-- A USBTMC configuration with one bulk-OUT and one bulk-IN endpoint of the given packet size. -/
def bulkConfiguration (packetSize : UInt8) : List UInt8 :=
  [9, 2, 32, 0, 1, 1, 0, 0xc0, 50] ++ [9, 4, 0, 0, 2, 0xfe, 3, 0, 0] ++
    [7, 5, 1, 2, packetSize, 0, 0] ++ [7, 5, 0x82, 2, packetSize, 0, 0]

/-- An interface with two bulk endpoints of that packet size. -/
def bulkInterface (packetSize : UInt16) : UsbtmcInterface where
  configuration := ⟨32, 1, 1, 0, 0xc0, 100⟩
  interfaceNumber := 0
  protocol := 0
  bulkOutEndpoint := ⟨1, 2, packetSize, 0⟩
  bulkInEndpoint := ⟨0x82, 2, packetSize, 0⟩
  interruptInEndpoint := none

/-- A one-byte answer to the request with tag 1. -/
def oneByteHeader : ResponseHeader := ⟨1, 1, attributeEom, 0, 0, 0, 0⟩

/-- In packets of 64 bytes the answer is one packet, and is delivered. -/
theorem readResponse_delivers_iff_oneByte :
    IsDelivered [0x41] [] (readResponse 64 1 [0, 0] [.ok (responseWire oneByteHeader [0x41] [])]) :=
  (@readResponse_delivers_iff oneByteHeader [0x41] [] [0, 0] [responseWire oneByteHeader [0x41] []]
    (bulkConfiguration 64) (bulkInterface 64) (by rfl) (by decide) (by decide) (by decide)
    ⟨[], responseWire oneByteHeader [0x41] [], by rfl, by simp, by decide, by rfl⟩ []).mpr
    (by decide)

/-- In packets of eight bytes, which the allocator accepts, the header does not fit
into the first packet and the answer is refused. -/
theorem readResponse_eightByte :
    allocationChecks (bulkConfiguration 8) 1 64 = .ok (bulkInterface 8) ∧
      IsTransfer 8 (responseWire oneByteHeader [0x41] [])
        [[2, 1, 0xfe, 0, 1, 0, 0, 0], [1, 0, 0, 0, 0x41]] ∧
      ¬ IsDelivered [0x41] [] (readResponse 8 1 [0, 0]
        [.ok [2, 1, 0xfe, 0, 1, 0, 0, 0], .ok [1, 0, 0, 0, 0x41]]) := by
  refine ⟨by rfl, ⟨[[2, 1, 0xfe, 0, 1, 0, 0, 0]], [1, 0, 0, 0, 0x41], by rfl, by decide, by decide,
    by rfl⟩, ?_⟩
  rintro ⟨succeeds, -⟩
  exact absurd succeeds (by decide)

end PioUsbHost.Usbtmc
