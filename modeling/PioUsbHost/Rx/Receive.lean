/-
**The SRAM receive path: one IN token, one device response, one timely ACK.**

`receiveDataPacket` is `receive_data_packet` of `rp2040.rs`, with the two FIFO drains
(`drainInFifo`, `drainTerminalDataFifo`) and the cold classification it calls. What the CPU reads
from the hardware is an input:

* `RxPoll` is what one polling pass sees: the decoder-error and EOP flags at its entry, the bytes its
  drain pulls before the FIFO is empty, the three flags it reads afterwards, and the bytes a terminal
  drain would find;
* `TxIrqs` says which of the four waits on the transmitter end within their poll budget.

The transmitter itself is modelled as far as the path depends on it: the byte autopull has moved into
the OSR, the FIFO behind it, and the packets released by clearing IRQ0 (`Transmitter`).
-/

import PioUsbHost.Usb.Crc16

namespace PioUsbHost.Rx

open PioUsbHost.Usb

/-! ### The transmitter, parked on `irq wait 0` -/

/-- The parked transmitter. `pushed` records every byte ever pushed, `released` the packets let go
by clearing IRQ0. -/
structure Transmitter where
  osr : Option UInt8
  fifo : List UInt8
  autopull : Bool
  pushed : List UInt8
  released : List (List UInt8)

namespace Transmitter

/-- Autopull fills an empty OSR from the FIFO, also while the program is stalled. -/
def refill (tx : Transmitter) : Transmitter :=
  match tx.autopull, tx.osr, tx.fifo with
  | true, none, byte :: rest => { tx with osr := some byte, fifo := rest }
  | _, _, _ => tx

/-- `tx().push(..)`. -/
def push (tx : Transmitter) (byte : UInt8) : Transmitter :=
  refill { tx with fifo := tx.fifo ++ [byte], pushed := tx.pushed ++ [byte] }

/-- Bytes pushed in their order. -/
def pushAll (tx : Transmitter) (bytes : List UInt8) : Transmitter := bytes.foldl push tx

/-- The bytes a release would send. -/
def queued (tx : Transmitter) : List UInt8 := tx.osr.toList ++ tx.fifo

/-- Clearing IRQ0 ends `irq wait 0`: everything queued leaves as one packet. -/
def clearIrq0 (tx : Transmitter) : Transmitter :=
  { tx with osr := none, fifo := [], released := tx.released ++ [tx.queued] }

/-- `AUTOPULL` in `SHIFTCTRL`. -/
def setAutopull (tx : Transmitter) (enabled : Bool) : Transmitter :=
  refill { tx with autopull := enabled }

/-- The FIFO is cleared, and the OSR is not. -/
def clearFifos (tx : Transmitter) : Transmitter := { tx with fifo := [] }

/-- `out null, 32`: mark the OSR as consumed. -/
def discardOsr (tx : Transmitter) : Transmitter := refill { tx with osr := none }

end Transmitter

/-- `discard_preloaded_ack`. -/
def discardPreloadedAck (tx : Transmitter) : Transmitter :=
  (((tx.setAutopull false).clearFifos).discardOsr).setAutopull true

/-! ### Results and inputs -/

/-- Why a packet was not sent. -/
inductive TxError where
  | eopMissing
  deriving DecidableEq, Repr

/-- `InReceiveResult`. -/
inductive InReceiveResult where
  | data (len : UInt8)
  | unexpectedToggle (len : UInt8)
  | nak
  | stall
  | noResponse
  | invalidPacket
  deriving DecidableEq, Repr

/-- The arguments no step of the loop changes. -/
structure InParams where
  /-- `payload.len()`. -/
  payloadLen : Nat
  maxPayloadLen : Nat
  expectedPid : UInt8
  ackEopGuardCycles : UInt32
  acknowledge : Bool

/-- What one polling pass reads from the receiver. -/
structure RxPoll where
  /-- The decoder-error flag (IRQ1) at the pass's entry. -/
  entryError : Bool
  /-- The EOP flag (IRQ2) at the pass's entry. -/
  entryEop : Bool
  /-- What the drain pulls before it finds the FIFO empty. -/
  drained : List UInt8
  /-- The start flag (IRQ3) after the drain. -/
  start : Bool
  /-- The decoder-error flag after the drain. -/
  error : Bool
  /-- The EOP flag after the drain. -/
  eop : Bool
  /-- What a drain after that EOP flag pulls. -/
  terminal : List UInt8

/-- Which waits on the transmitter see their flag within the poll budget. -/
structure TxIrqs where
  tokenEop : Bool
  tokenDone : Bool
  ackEop : Bool
  ackDone : Bool

/-! ### Draining the FIFO -/

/-- The buffer that the wire's bytes are stored in. -/
abbrev RawBuffer := Vector UInt8 maxDecodedBytes

/-- `if *len < raw.len() { raw[*len] = byte; }`. -/
def storeRaw (raw : RawBuffer) (len : Nat) (byte : UInt8) : RawBuffer :=
  if inside : len < maxDecodedBytes then raw.set len byte inside else raw

/-- The variables the drains update. -/
structure InDrain where
  raw : RawBuffer
  len : Nat
  crc : UInt16
  headerFlags : UInt8
  pid : UInt8
  ackWireLenLimit : Nat
  ackable : Bool

/-- The header bits the PID byte adds: complement, DATA PID, expected PID. -/
def pidFlags (expectedPid byte headerFlags : UInt8) : UInt8 :=
  let complement := if pidComplementValid byte then headerFlags ||| 2 else headerFlags
  let data := if isDataPid byte then complement ||| 4 else complement
  if byte == expectedPid then data ||| 8 else data

/-- `header_flags & 0b0111 == 0b0111`: SYNC, PID complement and DATA PID. -/
def dataHeader (headerFlags : UInt8) : Bool := headerFlags &&& 7 == 7

/-- The wire length up to which a DATA packet with this header may be ACKed. -/
def wireLenLimit (params : InParams) (byte : UInt8) : Nat :=
  (if byte == params.expectedPid then params.maxPayloadLen else params.payloadLen) + 4

/-- One byte of `drain_in_fifo`. -/
def drainByte (params : InParams) (drain : InDrain) (byte : UInt8) : InDrain :=
  let raw := storeRaw drain.raw drain.len byte
  if drain.len = 0 then
    { drain with raw, len := drain.len + 1, headerFlags := if byte == sync then 1 else 0 }
  else if drain.len < 2 then
    let headerFlags := pidFlags params.expectedPid byte drain.headerFlags
    let ackWireLenLimit :=
      if dataHeader headerFlags then wireLenLimit params byte else drain.ackWireLenLimit
    { drain with raw, len := drain.len + 1, pid := byte, headerFlags, ackWireLenLimit }
  else
    let crc := crc16UpdateRam drain.crc byte
    let wireLen := drain.len + 1
    let ackable := decide (4 ≤ wireLen) && decide (wireLen ≤ drain.ackWireLenLimit)
      && crc == crc16UsbResidue
    { drain with raw, len := wireLen, crc, ackable }

/-- `drain_in_fifo`, on the bytes it pulls. -/
def drainInFifo (params : InParams) (drain : InDrain) (bytes : List UInt8) : InDrain :=
  bytes.foldl (drainByte params) drain

/-- One byte of `drain_terminal_data_fifo`. -/
def drainTerminalByte (drain : InDrain) (byte : UInt8) : InDrain :=
  { drain with
    raw := storeRaw drain.raw drain.len byte
    crc := if 2 ≤ drain.len then crc16UpdateRam drain.crc byte else drain.crc
    len := drain.len + 1 }

/-- `drain_terminal_data_fifo`, with its result assigned to `ackable`. -/
def drainTerminalDataFifo (drain : InDrain) (bytes : List UInt8) : InDrain :=
  let drained := bytes.foldl drainTerminalByte drain
  { drained with
    ackable := decide (4 ≤ drained.len) && decide (drained.len ≤ drained.ackWireLenLimit)
      && drained.crc == crc16UsbResidue }

/-- `classify_unacknowledged_in_packet`. -/
def classifyUnacknowledgedInPacket (len : Nat) (headerFlags pid : UInt8) : InReceiveResult :=
  if len = 2 ∧ headerFlags &&& 3 = 3 then
    if pid = pidNak then .nak else if pid = pidStall then .stall else .invalidPacket
  else
    .invalidPacket

/-! ### The polling loop -/

/-- The variables of the loop. -/
structure InLoop where
  drain : InDrain
  sawStart : Bool
  ackPreloaded : Bool
  ackReleased : Bool
  tx : Transmitter

/-- The header is that of a DATA packet: queue the ACK behind the parked transmitter. -/
def preloadAck (params : InParams) (loop : InLoop) : InLoop :=
  if params.acknowledge && !loop.ackPreloaded && dataHeader loop.drain.headerFlags then
    { loop with tx := (loop.tx.push sync).push pidAck, ackPreloaded := true }
  else loop

/-- `if ack_preloaded { discard_preloaded_ack(tx_sm); }`. -/
def discardIfPreloaded (loop : InLoop) : InLoop :=
  if loop.ackPreloaded then { loop with tx := discardPreloadedAck loop.tx } else loop

/-- The shortcut at the head of the loop applies to full-speed packets already validated. -/
def shortcutArmed (params : InParams) (loop : InLoop) : Bool :=
  params.acknowledge && params.ackEopGuardCycles == 0 && loop.drain.ackable

/-- The terminal drain, unless streaming validation has already completed. -/
def terminalDrain (params : InParams) (loop : InLoop) (bytes : List UInt8) : InLoop :=
  if loop.drain.ackable then loop
  else if loop.ackPreloaded then
    { loop with drain := drainTerminalDataFifo loop.drain bytes }
  else
    { loop with drain := drainInFifo params loop.drain bytes }

/-- `if acknowledge && ack_eop_guard_cycles == 0 && ackable && !ack_released`. -/
def releaseAtEop (params : InParams) (loop : InLoop) : InLoop :=
  if shortcutArmed params loop && !loop.ackReleased then
    { loop with tx := loop.tx.clearIrq0, ackReleased := true }
  else loop

/-- How a pass over the loop body ends. -/
inductive Pass where
  | again (loop : InLoop)
  | returned (result : InReceiveResult) (loop : InLoop)
  | broke (loop : InLoop)

/-- The loop body after its FIFO drain. -/
def passAfterDrain (params : InParams) (poll : RxPoll) (drained : InLoop) : Pass :=
  let loop := { preloadAck params drained with
    sawStart := drained.sawStart || decide (drained.drain.len ≠ 0) || poll.start }
  if poll.error then
    .returned .invalidPacket (discardIfPreloaded loop)
  else if poll.eop then
    .broke (releaseAtEop params (preloadAck params (terminalDrain params loop poll.terminal)))
  else
    .again loop

/-- The loop body, up to its budget test. -/
def pass (params : InParams) (poll : RxPoll) (loop : InLoop) : Pass :=
  if shortcutArmed params loop && poll.entryError then
    .returned .invalidPacket { loop with tx := discardPreloadedAck loop.tx }
  else if shortcutArmed params loop && poll.entryEop then
    .broke { loop with tx := loop.tx.clearIrq0, ackReleased := true }
  else
    passAfterDrain params poll
      { loop with drain := drainInFifo params loop.drain poll.drained }

/-- The loop has spent its budget. -/
def budgetSpent (loop : InLoop) : InReceiveResult :=
  if !loop.sawStart && loop.drain.len == 0 then .noResponse else .invalidPacket

/-- How the loop ends: a `return` out of it, or its `break`. -/
inductive LoopExit where
  | returned (result : InReceiveResult) (loop : InLoop)
  | broke (loop : InLoop)

/-- The polling loop; pass number `index` reads `polls index`. -/
def receiveLoop (params : InParams) (polls : Nat → RxPoll) :
    (budget index : Nat) → InLoop → LoopExit
  | budget, index, loop =>
    match pass params (polls index) loop with
    | .returned result final => .returned result final
    | .broke final => .broke final
    | .again next =>
      match budget with
      | 0 => .returned (budgetSpent next) (discardIfPreloaded next)
      | budget + 1 => receiveLoop params polls budget (index + 1) next

/-! ### The whole routine -/

/-- What the call leaves behind; `wireLen` is its local `len`. -/
structure ReceiveOutcome where
  result : Except TxError InReceiveResult
  wireLen : Nat
  raw : RawBuffer
  payload : List UInt8
  tx : Transmitter

/-- The byte loop `payload[index] = raw[index + 2]`. -/
def copyPayload (raw : RawBuffer) (payload : List UInt8) (count : Nat) : List UInt8 :=
  (List.range count).foldl (fun copied index => copied.set index (raw.toList.getD (index + 2) 0))
    payload

/-- After the `break`: discard or release the ACK, then classify and copy. -/
def finishReceive (params : InParams) (irqs : TxIrqs) (payload : List UInt8) (loop : InLoop) :
    ReceiveOutcome :=
  let leave (result : Except TxError InReceiveResult) (payload : List UInt8)
      (tx : Transmitter) : ReceiveOutcome :=
    { result, wireLen := loop.drain.len, raw := loop.drain.raw, payload, tx }
  if !loop.drain.ackable then
    leave (.ok (classifyUnacknowledgedInPacket loop.drain.len loop.drain.headerFlags
      loop.drain.pid)) payload
      (if loop.ackPreloaded && !loop.ackReleased then discardPreloadedAck loop.tx else loop.tx)
  else
    let tx := if params.acknowledge && !loop.ackReleased then loop.tx.clearIrq0 else loop.tx
    if params.acknowledge && !(irqs.ackEop && irqs.ackDone) then
      leave (.error .eopMissing) payload tx
    else
      let actualPayloadLen := loop.drain.len - 4
      if loop.drain.headerFlags &&& 8 = 0 then
        leave (.ok (.unexpectedToggle (UInt8.ofNat actualPayloadLen))) payload tx
      else
        leave (.ok (.data (UInt8.ofNat actualPayloadLen)))
          (copyPayload loop.drain.raw payload actualPayloadLen) tx

/-- The drain variables before the first byte. -/
def initialDrain (raw : RawBuffer) : InDrain :=
  { raw, len := 0, crc := 0xffff, headerFlags := 0, pid := 0, ackWireLenLimit := 0
    ackable := false }

/-- The loop variables before the first pass. -/
def initialLoop (raw : RawBuffer) (tx : Transmitter) : InLoop :=
  { drain := initialDrain raw
    sawStart := false
    ackPreloaded := false
    ackReleased := false
    tx }

/-- `RX_PACKET_POLL_BUDGET`. -/
def rxPacketPollBudget : Nat := 20000

/-- **`receive_data_packet`**, with the budget of its loop as an argument. -/
def receiveDataPacket (tx : Transmitter) (irqs : TxIrqs) (polls : Nat → RxPoll) (budget : Nat)
    (token payload : List UInt8) (raw : RawBuffer) (maxPayloadLen : Nat) (expectedPid : UInt8)
    (ackEopGuardCycles : UInt32) (acknowledge : Bool) : ReceiveOutcome :=
  let params : InParams :=
    { payloadLen := payload.length, maxPayloadLen, expectedPid, ackEopGuardCycles, acknowledge }
  let sent := (tx.pushAll token).clearIrq0
  if !(irqs.tokenEop && irqs.tokenDone) then
    { result := .error .eopMissing, wireLen := 0, raw, payload, tx := sent }
  else
    match receiveLoop params polls budget 0 (initialLoop raw sent) with
    | .returned result loop =>
      { result := .ok result, wireLen := loop.drain.len, raw := loop.drain.raw, payload
        tx := loop.tx }
    | .broke loop => finishReceive params irqs payload loop

end PioUsbHost.Rx
