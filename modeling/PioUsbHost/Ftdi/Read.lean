/-
**The byte stream of an FTDI UART.**

`read` hands out the payloads of the packets in order: what does not fit into a destination stays in the
packet buffer for the next call. Calls that fail, or are dropped where they wait, lose nothing; only a
reset, a purge of the receive side and a reset of the DATA toggles drop what is buffered.

* `copyBuffered_spec`: the bytes handed out and the bytes kept are the bytes that were buffered.
* `readLoop_spec`: the loop takes the payloads of the packets that it uses.
* `afterTurn_stream`: no call loses or reorders a byte, but for those that drop the buffer.
* `stream_faithful`: nor does any run; and the status is that of the latest packet.
-/

import PioUsbHost.Ftdi.Host
import PioUsbHost.Lib.Stream

namespace PioUsbHost.Ftdi

open PioUsbHost.Lib PioUsbHost.Lib.Panic PioUsbHost.Lib.Stream PioUsbHost.Usb

/-! ### Packets -/

/-- The packet of a transfer, if the pipe returned one that fits the packet size. -/
def packetOf (packetSize : Nat) : InTransfer → Option (List UInt8)
  | .error _ => none
  | .ok packet => if packet.length ≤ packetSize then some packet else none

/-- A packet without its status bytes. -/
def payload (packet : List UInt8) : List UInt8 := packet.drop 2

/-- The status bytes of a packet that has them. -/
def statusOf (packet : List UInt8) : Option FtdiStatus :=
  if 2 ≤ packet.length then some { modem := packet.getD 0 0, line := packet.getD 1 0 } else none

namespace FtdiHost

/-! ### What a call leaves -/

/-- The call leaves these bytes buffered, and the pipe and the status as they were. -/
structure Leaves (kept : List UInt8) (host after : FtdiHost) : Prop where
  interface : after.interface = host.interface
  bulkIn : after.bulkIn = host.bulkIn
  status : after.status = host.status
  capacity : after.rxPacket.length = host.rxPacket.length
  buffered : after.buffered = kept

namespace Leaves

variable {kept : List UInt8} {host middle after : FtdiHost}

theorem refl (host : FtdiHost) : Leaves host.buffered host host := ⟨rfl, rfl, rfl, rfl, rfl⟩

theorem trans {early : List UInt8} (first : Leaves early host middle)
    (second : Leaves kept middle after) : Leaves kept host after :=
  ⟨second.interface.trans first.interface, second.bulkIn.trans first.bulkIn,
    second.status.trans first.status, second.capacity.trans first.capacity, second.buffered⟩

/-- A sequence that leaves the buffer alone. -/
theorem awaitThen {α β : Type} {outcome : Call FtdiError α × FtdiHost}
    {next : α → FtdiHost → Call FtdiError β × FtdiHost}
    (first : Leaves host.buffered host outcome.2)
    (follows : ∀ value middle, middle.buffered = host.buffered →
      Leaves middle.buffered middle (next value middle).2) :
    Leaves host.buffered host (Usb.awaitThen outcome next).2 := by
  rcases outcome with ⟨result, middle⟩
  rcases result with (fault | value) | _
  · exact first
  · have second := follows value middle first.buffered
    rw [first.buffered] at second
    exact first.trans second
  · exact first

end Leaves

theorem buffered_of_empty {host : FtdiHost} (empty : host.rxStart = host.rxEnd) :
    host.buffered = [] := by
  rw [buffered, empty, Nat.sub_self, List.take_zero]

theorem clearRx_leaves (host : FtdiHost) : Leaves [] host host.clearRx :=
  ⟨rfl, rfl, rfl, rfl, buffered_of_empty rfl⟩

/-- A request on the control pipe. -/
theorem vendorOut_leaves (host : FtdiHost) (request : UInt8) (value index : UInt16) :
    Leaves host.buffered host (host.vendorOut request value index).2 := by
  rw [vendorOut]
  split
  · exact ⟨rfl, rfl, rfl, rfl, rfl⟩
  · exact ⟨rfl, rfl, rfl, rfl, rfl⟩
  · exact ⟨rfl, rfl, rfl, rfl, rfl⟩

/-- A request that clears the buffer once it has succeeded. -/
def clearAfter (outcome : Call FtdiError Unit × FtdiHost) : Call FtdiError Unit × FtdiHost :=
  awaitThen outcome fun _ host => (.returned (.ok ()), host.clearRx)

theorem clearAfter_leaves {host : FtdiHost} {outcome : Call FtdiError Unit × FtdiHost}
    (first : Leaves host.buffered host outcome.2) :
    Leaves (if (clearAfter outcome).1 = .returned (.ok ()) then [] else host.buffered) host
      (clearAfter outcome).2 := by
  rcases outcome with ⟨result, middle⟩
  rcases result with (fault | value) | _
  · rw [if_neg (by intro same; cases same)]
    exact first
  · have done : (clearAfter (.returned (.ok value), middle)).1 = .returned (.ok ()) := rfl
    rw [if_pos done]
    exact first.trans (clearRx_leaves middle)
  · rw [if_neg (by intro same; cases same)]
    exact first

theorem reset_leaves (host : FtdiHost) :
    Leaves (if host.reset.1 = .returned (.ok ()) then [] else host.buffered) host host.reset.2 :=
  clearAfter_leaves (vendorOut_leaves host _ _ _)

theorem purgeRx_leaves (host : FtdiHost) :
    Leaves (if host.purgeRx.1 = .returned (.ok ()) then [] else host.buffered) host host.purgeRx.2 :=
  clearAfter_leaves (vendorOut_leaves host _ _ _)

theorem setBaudRate_leaves (host : FtdiHost) (requested : UInt32) :
    Leaves host.buffered host (host.setBaudRate requested).2 := by
  rw [setBaudRate]
  split
  · exact Leaves.refl host
  · exact (vendorOut_leaves host _ _ _).awaitThen fun _ _ _ => ⟨rfl, rfl, rfl, rfl, rfl⟩

theorem setLineProperties_leaves (host : FtdiHost) (dataBits : UInt8) (stop : FtdiStopBits)
    (parity : FtdiParity) (breakEnabled : Bool) :
    Leaves host.buffered host (host.setLineProperties dataBits stop parity breakEnabled).2 := by
  rw [setLineProperties]
  split
  · exact Leaves.refl host
  · exact vendorOut_leaves host _ _ _

theorem setFlowControl_leaves (host : FtdiHost) (flow : FtdiFlowControl) :
    Leaves host.buffered host (host.setFlowControl flow).2 := by
  cases flow with
  | disabled | rtsCts | dtrDsr | xonXoff => exact vendorOut_leaves host _ _ _

/-- What follows the reset finds the buffer empty, and leaves it so. -/
theorem configureAfterReset_leaves (host : FtdiHost) (baudRate : UInt32)
    (empty : host.buffered = []) :
    Leaves host.buffered host (host.configureAfterReset baudRate).2 := by
  have purged : ∀ middle : FtdiHost, middle.buffered = [] →
      Leaves middle.buffered middle middle.purgeRx.2 := by
    intro middle nothing
    have leaves := purgeRx_leaves middle
    rw [nothing, ite_self] at leaves
    rw [nothing]
    exact leaves
  refine (vendorOut_leaves host _ _ _).awaitThen fun _ host same => ?_
  refine (purged host (same.trans empty)).awaitThen fun _ host _ => ?_
  refine (setBaudRate_leaves host baudRate).awaitThen fun _ host _ => ?_
  refine (setLineProperties_leaves host _ _ _ _).awaitThen fun _ host _ => ?_
  exact (setFlowControl_leaves host _).awaitThen fun _ host _ => Leaves.refl host

theorem configure8n1_leaves (host : FtdiHost) (baudRate : UInt32) :
    Leaves (if host.reset.1 = .returned (.ok ()) then [] else host.buffered) host
      (host.configure8n1 baudRate).2 := by
  have first := reset_leaves host
  rw [configure8n1]
  generalize host.reset = outcome at first ⊢
  rcases outcome with ⟨result, middle⟩
  rcases result with (fault | value) | _
  · exact first
  · rw [if_pos rfl] at first ⊢
    have second := configureAfterReset_leaves middle baudRate first.buffered
    rw [first.buffered] at second
    exact first.trans second
  · exact first

theorem write_leaves (host : FtdiHost) (data : List UInt8) :
    Leaves host.buffered host (host.write data).2 := by
  rw [write]
  split
  · exact Leaves.refl host
  split
  · exact Leaves.refl host
  · exact ⟨rfl, rfl, rfl, rfl, rfl⟩
  · exact ⟨rfl, rfl, rfl, rfl, rfl⟩

/-! ### Reading -/

/-- The bytes that a call has returned. -/
def bytesOf : Call FtdiError (List UInt8) → List UInt8
  | .returned (.ok bytes) => bytes
  | .returned (.error _) => []
  | .waiting => []

/-- **The bytes handed out and the bytes kept** are the bytes that were buffered. -/
theorem copyBuffered_spec (host : FtdiHost) (bufferLen : Nat) :
    host.buffered = (host.copyBuffered bufferLen).1 ++ (host.copyBuffered bufferLen).2.buffered ∧
      Leaves (host.copyBuffered bufferLen).2.buffered host (host.copyBuffered bufferLen).2 := by
  have window := window_split host.rxPacket (Nat.min_le_right bufferLen (host.rxEnd - host.rxStart))
  rw [copyBuffered]
  split
  next finished =>
    rw [finished, Nat.sub_self, List.take_zero] at window
    rw [buffered_of_empty (show host.clearRx.rxStart = host.clearRx.rxEnd from rfl)]
    exact ⟨window, clearRx_leaves host⟩
  next more => exact ⟨window, rfl, rfl, rfl, rfl, rfl⟩

/-- What reading has done: which transfers it has used, and what became of their packets. -/
structure Takes (host : FtdiHost) (transfers : List InTransfer)
    (outcome : Call FtdiError (List UInt8) × FtdiHost) : Prop where
  interface : outcome.2.interface = host.interface
  capacity : outcome.2.rxPacket.length = host.rxPacket.length
  used : ∃ used, transfers = used ++ outcome.2.bulkIn ∧
    host.buffered ++ (used.filterMap (packetOf host.packetSize)).flatMap payload =
      bytesOf outcome.1 ++ outcome.2.buffered ∧
    outcome.2.status =
      ((used.filterMap (packetOf host.packetSize)).filterMap statusOf).getLastD host.status

theorem length_written (host : FtdiHost) (packet : List UInt8) :
    (host.written packet).rxPacket.length = host.rxPacket.length := by
  have supports : host.packetSize ≤ host.rxPacket.length := host.supports
  rw [written, List.length_append, List.length_drop, List.length_take]
  omega

/-- The packets of one more transfer, whose packet fits. -/
theorem filterMap_packetOf_cons {packetSize : Nat} {packet : List UInt8}
    (fits : packet.length ≤ packetSize) (used : List InTransfer) :
    (.ok packet :: used).filterMap (packetOf packetSize) =
      packet :: used.filterMap (packetOf packetSize) :=
  List.filterMap_cons_some (if_pos fits)

/-- The latest status after one more packet. -/
theorem getLastD_statusOf_cons (packet : List UInt8) (packets : List (List UInt8))
    (status : FtdiStatus) :
    ((packet :: packets).filterMap statusOf).getLastD status =
      (packets.filterMap statusOf).getLastD ((statusOf packet).getD status) := by
  cases shown : statusOf packet with
  | none => rw [List.filterMap_cons_none shown, Option.getD_none]
  | some latest => rw [List.filterMap_cons_some shown, List.getLastD_cons, Option.getD_some]

/-- One packet that is skipped. -/
theorem Takes.skip {host middle : FtdiHost} {packet : List UInt8} {rest : List InTransfer}
    {outcome : Call FtdiError (List UInt8) × FtdiHost} (taken : Takes middle rest outcome)
    (interface : middle.interface = host.interface)
    (capacity : middle.rxPacket.length = host.rxPacket.length)
    (buffered : middle.buffered = host.buffered) (fits : packet.length ≤ host.packetSize)
    (noPayload : payload packet = [])
    (status : middle.status = (statusOf packet).getD host.status) :
    Takes host (.ok packet :: rest) outcome := by
  obtain ⟨used, same, bytes, latest⟩ := taken.used
  have size : middle.packetSize = host.packetSize := by rw [packetSize, packetSize, interface]
  rw [size, buffered] at bytes
  rw [size, status] at latest
  refine ⟨taken.interface.trans interface, taken.capacity.trans capacity, .ok packet :: used, ?_, ?_, ?_⟩
  · rw [same, List.cons_append]
  · rw [filterMap_packetOf_cons fits, List.flatMap_cons, noPayload, List.nil_append, bytes]
  · rw [filterMap_packetOf_cons fits, getLastD_statusOf_cons, latest]

theorem rxPacket_written {host : FtdiHost} {packet : List UInt8}
    (fits : packet.length ≤ host.packetSize) :
    (host.written packet).rxPacket = packet ++ host.rxPacket.drop packet.length := by
  change packet.take host.packetSize ++ host.rxPacket.drop (packet.take host.packetSize).length = _
  rw [List.take_of_length_le fits]

/-- The status bytes stand at the front of the packet buffer. -/
theorem latchStatus_written {host : FtdiHost} {packet : List UInt8}
    (fits : packet.length ≤ host.packetSize) (header : 2 ≤ packet.length) :
    statusOf packet = some (host.written packet).latchStatus.status := by
  have front : ∀ i < packet.length, (host.written packet).rxPacket.getD i 0 = packet.getD i 0 := by
    intro i small
    rw [rxPacket_written fits, List.getD_eq_getElem?_getD, List.getElem?_append_left small,
      List.getD_eq_getElem?_getD]
  rw [statusOf, if_pos header, latchStatus, front 0 (by omega), front 1 (by omega)]

/-- The payload stands behind them. -/
theorem fill_buffered {host : FtdiHost} {packet : List UInt8} (header : 2 ≤ packet.length)
    (fits : packet.length ≤ host.packetSize) :
    ((host.written packet).latchStatus.fill packet.length header fits).buffered = payload packet := by
  change ((host.written packet).rxPacket.drop 2).take (packet.length - 2) = _
  rw [rxPacket_written fits, List.drop_append_of_le_length header, payload]
  exact List.take_left' (List.length_drop)

/-- **The loop takes the payloads** of the packets that it uses. The induction is on the transfers: the
packets before the one that ends the loop have no payload. -/
theorem readLoop_spec (bufferLen : Nat) (transfers : List InTransfer) (host : FtdiHost)
    (empty : host.rxStart = host.rxEnd) :
    Takes host transfers (readLoop bufferLen transfers host) := by
  induction transfers generalizing host with
  | nil => exact ⟨rfl, rfl, [], rfl, List.append_nil _, rfl⟩
  | cons transfer rest ih =>
    rcases transfer with error | packet
    · exact ⟨rfl, rfl, [.error error], rfl, List.append_nil _, rfl⟩
    · have nothing := buffered_of_empty empty
      have capacity := length_written host packet
      have stillEmpty : (host.written packet).buffered = host.buffered := by
        rw [nothing]
        exact buffered_of_empty empty
      rw [readLoop]
      split
      next long =>
        have none : packetOf host.packetSize (.ok packet) = none := if_neg (Nat.not_le.mpr long)
        refine ⟨rfl, capacity, [.ok packet], rfl, ?_, ?_⟩
        · rw [List.filterMap_cons_none none, List.filterMap_nil, List.flatMap_nil, List.append_nil]
          exact stillEmpty.symm
        · rw [List.filterMap_cons_none none]
          rfl
      next fits =>
      have fits : packet.length ≤ host.packetSize := Nat.not_lt.mp fits
      split
      next short =>
        have noStatus : statusOf packet = none := if_neg (Nat.not_le.mpr short)
        refine (ih (host.written packet) empty).skip rfl capacity stillEmpty fits ?_ ?_
        · exact List.drop_of_length_le (by omega)
        · rw [noStatus]
          rfl
      next header =>
      have header : 2 ≤ packet.length := Nat.not_lt.mp header
      have latched := latchStatus_written fits header
      split
      next statusOnly =>
        refine (ih (host.written packet).latchStatus empty).skip rfl capacity stillEmpty fits ?_ ?_
        · exact List.drop_of_length_le (Nat.le_of_eq statusOnly)
        · rw [latched, Option.getD_some]
      next more =>
        have copied := copyBuffered_spec ((host.written packet).latchStatus.fill packet.length header
          fits) bufferLen
        rw [fill_buffered header fits] at copied
        obtain ⟨bytes, leaves⟩ := copied
        refine ⟨leaves.interface, leaves.capacity.trans capacity, [.ok packet], rfl, ?_, ?_⟩
        · rw [filterMap_packetOf_cons fits, nothing]
          exact (List.append_nil _).trans bytes
        · rw [filterMap_packetOf_cons fits, getLastD_statusOf_cons, latched]
          exact leaves.status

theorem read_spec (host : FtdiHost) (bufferLen : Nat) :
    Takes host host.bulkIn (host.read bufferLen) := by
  rw [read]
  split
  · exact ⟨rfl, rfl, [], rfl, List.append_nil _, rfl⟩
  split
  · obtain ⟨bytes, leaves⟩ := copyBuffered_spec host bufferLen
    exact ⟨leaves.interface, leaves.capacity, [], leaves.bulkIn.symm, (List.append_nil _).trans bytes,
      leaves.status⟩
  next empty => exact readLoop_spec bufferLen host.bulkIn host (not_not.mp empty)

/-! ### Runs -/

/-- The packets that a call has received. -/
def received (host : FtdiHost) (turn : Turn) : List (List UInt8) :=
  (turn.bulkIn.take (turn.bulkIn.length - (host.afterTurn turn).bulkIn.length)).filterMap
    (packetOf host.packetSize)

/-- The bytes that a call of `read` has returned. -/
def returned (host : FtdiHost) (turn : Turn) : List UInt8 :=
  match turn.call with
  | .read bufferLen => bytesOf ((host.supplied turn).read bufferLen).1
  | _ => []

/-- The bytes that a call drops: what is buffered, when a reset or a purge of the receive side succeeds,
or the DATA toggles are reset. -/
def dropped (host : FtdiHost) (turn : Turn) : List UInt8 :=
  match turn.call with
  | .reset | .configure8n1 _ =>
    if (host.supplied turn).reset.1 = .returned (.ok ()) then host.buffered else []
  | .purgeRx => if (host.supplied turn).purgeRx.1 = .returned (.ok ()) then host.buffered else []
  | .resetDataToggles => host.buffered
  | _ => []

/-- What one call does to the stream and the status. -/
structure Streams (host : FtdiHost) (turn : Turn) : Prop where
  interface : (host.afterTurn turn).interface = host.interface
  capacity : (host.afterTurn turn).rxPacket.length = host.rxPacket.length
  stream : host.buffered ++ (host.received turn).flatMap payload =
    host.returned turn ++ host.dropped turn ++ (host.afterTurn turn).buffered
  status : (host.afterTurn turn).status =
    ((host.received turn).filterMap statusOf).getLastD host.status

/-- A call that takes no packet. -/
theorem Leaves.streams {kept : List UInt8} {host : FtdiHost} {turn : Turn}
    (leaves : Leaves kept (host.supplied turn) (host.afterTurn turn)) (nothing : host.returned turn = [])
    (parts : host.buffered = host.dropped turn ++ kept) : Streams host turn := by
  have bulkIn : (host.afterTurn turn).bulkIn = turn.bulkIn := leaves.bulkIn
  have none : host.received turn = [] := by
    rw [received, bulkIn, Nat.sub_self, List.take_zero, List.filterMap_nil]
  refine ⟨leaves.interface, leaves.capacity, ?_, ?_⟩
  · rw [none, nothing, leaves.buffered, List.flatMap_nil, List.append_nil, List.nil_append, parts]
  · rw [none, leaves.status]
    rfl

/-- A call that leaves the buffer alone. -/
theorem Leaves.streams_same {host : FtdiHost} {turn : Turn}
    (leaves : Leaves (host.supplied turn).buffered (host.supplied turn) (host.afterTurn turn))
    (nothing : host.returned turn = []) (none : host.dropped turn = []) : Streams host turn :=
  leaves.streams nothing (by rw [none]; rfl)

/-- The bytes that are dropped, or kept. -/
theorem ite_append_ite {condition : Prop} [Decidable condition] (bytes : List UInt8) :
    bytes = (if condition then bytes else []) ++ if condition then [] else bytes := by
  split
  · rw [List.append_nil]
  · rw [List.nil_append]

/-- A call of `read`. -/
theorem Takes.streams {host : FtdiHost} {turn : Turn} {bufferLen : Nat}
    (call : turn.call = .read bufferLen)
    (taken : Takes (host.supplied turn) turn.bulkIn ((host.supplied turn).read bufferLen)) :
    Streams host turn := by
  have after : host.afterTurn turn = ((host.supplied turn).read bufferLen).2 := by
    rw [afterTurn, call]
  have bytes : host.returned turn = bytesOf ((host.supplied turn).read bufferLen).1 := by
    rw [returned, call]
  have none : host.dropped turn = [] := by rw [dropped, call]
  obtain ⟨used, same, stream, status⟩ := taken.used
  have front : turn.bulkIn.take (turn.bulkIn.length - (host.afterTurn turn).bulkIn.length) = used := by
    rw [after]
    generalize ((host.supplied turn).read bufferLen).2.bulkIn = left at same ⊢
    rw [same, List.length_append, Nat.add_sub_cancel]
    exact List.take_left
  refine ⟨?_, ?_, ?_, ?_⟩
  · rw [after]
    exact taken.interface
  · rw [after]
    exact taken.capacity
  · rw [received, front, bytes, none, after, List.append_nil]
    exact stream
  · rw [received, front, after]
    exact status

/-- **No call loses or reorders a byte**, but for those that drop the buffer. -/
theorem afterTurn_stream (host : FtdiHost) (turn : Turn) : Streams host turn := by
  rcases turn with ⟨call, control, bulkIn, bulkOut⟩
  cases call with
  | reset => exact (reset_leaves _).streams rfl (ite_append_ite _)
  | purgeRx => exact (purgeRx_leaves _).streams rfl (ite_append_ite _)
  | purgeTx => exact Leaves.streams_same (vendorOut_leaves _ _ _ _) rfl rfl
  | configure8n1 baudRate => exact (configure8n1_leaves _ baudRate).streams rfl (ite_append_ite _)
  | setBaudRate requested => exact Leaves.streams_same (setBaudRate_leaves _ requested) rfl rfl
  | setLineProperties dataBits stop parity breakEnabled =>
    exact Leaves.streams_same (setLineProperties_leaves _ dataBits stop parity breakEnabled) rfl rfl
  | setFlowControl flow => exact Leaves.streams_same (setFlowControl_leaves _ flow) rfl rfl
  | setDtrRts dtr rts => exact Leaves.streams_same (vendorOut_leaves _ _ _ _) rfl rfl
  | resetDataToggles => exact (clearRx_leaves _).streams rfl (List.append_nil _).symm
  | write data => exact Leaves.streams_same (write_leaves _ data) rfl rfl
  | read bufferLen => exact Takes.streams rfl (read_spec _ bufferLen)

/-- **The stream is faithful** over a run from a new host: the bytes returned, and those dropped where
the buffer is cleared, followed by the bytes still buffered, are the payloads of the packets received;
the window stays inside the buffer; and the status is that of the latest packet that has one. -/
theorem stream_faithful (capacity : Nat) (interface : FtdiInterface) (chip : FtdiChip)
    (supports : interface.bulkInEndpoint.maxPacketSize.toNat ≤ capacity) (turns : List Turn) :
    let start := new capacity interface chip supports
    let last := start.afterTurns turns
    (last.rxStart ≤ last.rxEnd ∧ last.rxEnd ≤ capacity) ∧
      gather afterTurn (fun host turn => host.returned turn ++ host.dropped turn) start turns ++
          last.buffered =
        gather afterTurn (fun host turn => (host.received turn).flatMap payload) start turns ∧
      last.status =
        (gather afterTurn (fun host turn => (host.received turn).filterMap statusOf) start
          turns).getLastD { modem := 0, line := 0 } := by
  intro start last
  let size : FtdiHost → Nat := fun host => host.rxPacket.length
  have kept : ∀ host turn, size (afterTurn host turn) = size host :=
    fun host turn => (afterTurn_stream host turn).capacity
  have stream := conserved (fun host turn => (afterTurn_stream host turn).stream) start turns
  have status := latest (fun host turn => (afterTurn_stream host turn).status) start turns
  have fresh : start.buffered = [] := buffered_of_empty rfl
  rw [fresh, List.nil_append] at stream
  refine ⟨⟨last.window.1, last.window.2.trans (Nat.le_of_eq ?_)⟩, stream.symm, status⟩
  exact (preserved kept start turns).trans List.length_replicate

/-- A packet with three bytes of payload, read into a destination of two. -/
theorem stream_faithful_secondUart :
    let last := secondUart.afterTurns [⟨.read 2, [], [.ok [0x31, 0x60, 0x61, 0x62, 0x63]], []⟩]
    (last.rxStart ≤ last.rxEnd ∧ last.rxEnd ≤ 64) ∧
      [0x61, 0x62] ++ last.buffered = [0x61, 0x62, 0x63] ∧ last.status = ⟨0x31, 0x60⟩ :=
  stream_faithful 64 secondUart.interface .ft2232H (by decide)
    [⟨.read 2, [], [.ok [0x31, 0x60, 0x61, 0x62, 0x63]], []⟩]

end FtdiHost

end PioUsbHost.Ftdi
