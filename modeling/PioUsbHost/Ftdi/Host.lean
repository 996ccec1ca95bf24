/-
**The FTDI host: vendor requests, and the byte stream of a UART.**

Requests go to endpoint zero and name a channel of the chip in wIndex. Each bulk-IN packet starts with
two status bytes; what follows is kept in the packet buffer until it has been read.
-/

import PioUsbHost.Ftdi.Baud
import PioUsbHost.Ftdi.Discovery

namespace PioUsbHost.Ftdi

open PioUsbHost.Lib.Panic PioUsbHost.Usb

/-! ### Constants -/

/-- Reset the chip, or purge its buffers. -/
def requestReset : UInt8 := 0x00

/-- Set DTR and RTS. -/
def requestModemCtrl : UInt8 := 0x01

/-- Set the flow control. -/
def requestFlowCtrl : UInt8 := 0x02

/-- Set the rate. -/
def requestSetBaud : UInt8 := 0x03

/-- Set the line properties. -/
def requestSetData : UInt8 := 0x04

/-- `wValue` of a reset of the chip. -/
def resetSio : UInt16 := 0

/-- `wValue` of a purge of what is to be sent. -/
def purgeTxValue : UInt16 := 1

/-- `wValue` of a purge of what was received. -/
def purgeRxValue : UInt16 := 2

/-- A USB setup request. -/
structure SetupRequest where
  requestType : UInt8
  request : UInt8
  value : UInt16
  index : UInt16
  length : UInt16
  deriving DecidableEq, Repr

/-- The eight bytes of a SETUP packet. -/
def SetupRequest.toBytes (setup : SetupRequest) : List UInt8 :=
  [setup.requestType, setup.request, setup.value.toUInt8, (setup.value >>> 8).toUInt8,
    setup.index.toUInt8, (setup.index >>> 8).toUInt8, setup.length.toUInt8,
    (setup.length >>> 8).toUInt8]

/-- UART parity. -/
inductive FtdiParity where
  | none
  | odd
  | even
  | mark
  | space
  deriving DecidableEq, Repr

/-- UART stop-bit selection. -/
inductive FtdiStopBits where
  | one
  | onePointFive
  | two
  deriving DecidableEq, Repr

/-- FTDI flow-control mode. -/
inductive FtdiFlowControl where
  | disabled
  | rtsCts
  | dtrDsr
  | xonXoff (xon xoff : UInt8)
  deriving DecidableEq, Repr

/-- Latest status bytes received from an FTDI bulk-IN packet. -/
structure FtdiStatus where
  modem : UInt8
  line : UInt8
  deriving DecidableEq, Repr

/-! ### The host -/

/-- A configured FTDI UART; the pipes are what they will do. -/
structure FtdiHost where
  interface : FtdiInterface
  chip : FtdiChip
  control : List OutTransfer
  bulkIn : List InTransfer
  bulkOut : List OutTransfer
  rxPacket : List UInt8
  rxStart : Nat
  rxEnd : Nat
  status : FtdiStatus
  baudRate : UInt32
  /-- The SETUP packets handed to the control pipe. -/
  setups : List (List UInt8)
  supports : interface.bulkInEndpoint.maxPacketSize.toNat ≤ rxPacket.length
  /-- The bytes received and not yet read are in the packet buffer. -/
  window : rxStart ≤ rxEnd ∧ rxEnd ≤ rxPacket.length

namespace FtdiHost

/-- The packet size of the bulk-IN endpoint. -/
def packetSize (host : FtdiHost) : Nat := host.interface.bulkInEndpoint.maxPacketSize.toNat

/-- A host behind its allocation, for a capacity that holds a packet. -/
def new (capacity : Nat) (interface : FtdiInterface) (chip : FtdiChip)
    (supports : interface.bulkInEndpoint.maxPacketSize.toNat ≤ capacity) : FtdiHost :=
  { interface
    chip
    control := []
    bulkIn := []
    bulkOut := []
    rxPacket := List.replicate capacity 0
    rxStart := 0
    rxEnd := 0
    status := { modem := 0, line := 0 }
    baudRate := 0
    setups := []
    supports := by rw [List.length_replicate]; exact supports
    window := ⟨Nat.le_refl 0, Nat.zero_le _⟩ }

/-- `usb_index`: channels count from one, and a single channel is zero. -/
def usbIndex (host : FtdiHost) : UInt16 :=
  if host.chip.isMultiChannel then host.interface.interfaceNumber.toUInt16 + 1 else 0

/-- `self.rx_start = 0; self.rx_end = 0;` -/
def clearRx (host : FtdiHost) : FtdiHost :=
  { host with rxStart := 0, rxEnd := 0, window := ⟨Nat.le_refl 0, Nat.zero_le _⟩ }

/-- The bulk pipes' DATA toggles are of no concern here. -/
def resetDataToggles (host : FtdiHost) : FtdiHost := host.clearRx

/-! ### Vendor requests -/

/-- `vendor_out`. -/
def vendorOut (host : FtdiHost) (request : UInt8) (value index : UInt16) :
    Call FtdiError Unit × FtdiHost :=
  let setup : SetupRequest := { requestType := 0x40, request, value, index, length := 0 }
  let setups := host.setups ++ [setup.toBytes]
  match host.control with
  | [] => (.waiting, { host with setups })
  | .error error :: rest => (.returned (fail (.transfer error)), { host with control := rest, setups })
  | .ok () :: rest => (.returned (.ok ()), { host with control := rest, setups })

/-- Reset the FTDI SIO engine. -/
def reset (host : FtdiHost) : Call FtdiError Unit × FtdiHost :=
  awaitThen (host.vendorOut requestReset resetSio 0) fun _ host => (.returned (.ok ()), host.clearRx)

/-- `purge_rx`. -/
def purgeRx (host : FtdiHost) : Call FtdiError Unit × FtdiHost :=
  awaitThen (host.vendorOut requestReset purgeRxValue host.usbIndex) fun _ host =>
    (.returned (.ok ()), host.clearRx)

/-- `purge_tx`. -/
def purgeTx (host : FtdiHost) : Call FtdiError Unit × FtdiHost :=
  host.vendorOut requestReset purgeTxValue host.usbIndex

/-- Set the closest supported baud rate and return the actual rate. -/
def setBaudRate (host : FtdiHost) (requested : UInt32) : Call FtdiError UInt32 × FtdiHost :=
  match baudDivisor requested host.chip host.usbIndex with
  | .error fault => (.returned (.error fault), host)
  | .ok divisor =>
    awaitThen (host.vendorOut requestSetBaud divisor.value divisor.index) fun _ host =>
      (.returned (.ok divisor.actual), { host with baudRate := divisor.actual })

/-- The parity in `wValue`. -/
def parityBits : FtdiParity → UInt16
  | .none => 0
  | .odd => 1
  | .even => 2
  | .mark => 3
  | .space => 4

/-- The stop bits in `wValue`. -/
def stopBits : FtdiStopBits → UInt16
  | .one => 0
  | .onePointFive => 1
  | .two => 2

/-- `set_line_properties`. -/
def setLineProperties (host : FtdiHost) (dataBits : UInt8) (stop : FtdiStopBits)
    (parity : FtdiParity) (breakEnabled : Bool) : Call FtdiError Unit × FtdiHost :=
  if dataBits ∉ [7, 8] then (.returned (fail .invalidDataBits), host)
  else
    let value := dataBits.toUInt16 ||| (parityBits parity <<< 8) ||| (stopBits stop <<< 11) |||
      (breakEnabled.toUInt16 <<< 14)
    host.vendorOut requestSetData value host.usbIndex

/-- `set_flow_control`. -/
def setFlowControl (host : FtdiHost) (flow : FtdiFlowControl) : Call FtdiError Unit × FtdiHost :=
  match flow with
  | .disabled => host.vendorOut requestFlowCtrl 0 host.usbIndex
  | .rtsCts => host.vendorOut requestFlowCtrl 0 (0x0100 ||| host.usbIndex)
  | .dtrDsr => host.vendorOut requestFlowCtrl 0 (0x0200 ||| host.usbIndex)
  | .xonXoff xon xoff =>
    host.vendorOut requestFlowCtrl (xon.toUInt16 ||| (xoff.toUInt16 <<< 8)) (0x0400 ||| host.usbIndex)

/-- `set_dtr_rts`. -/
def setDtrRts (host : FtdiHost) (dtr rts : Bool) : Call FtdiError Unit × FtdiHost :=
  let dtr : UInt16 := if dtr then 0x0101 else 0x0100
  let rts : UInt16 := if rts then 0x0202 else 0x0200
  host.vendorOut requestModemCtrl (dtr ||| rts) host.usbIndex

/-- `configure_8n1` after its `reset`. -/
def configureAfterReset (host : FtdiHost) (baudRate : UInt32) : Call FtdiError UInt32 × FtdiHost :=
  awaitThen host.purgeTx fun _ host =>
  awaitThen host.purgeRx fun _ host =>
  awaitThen (host.setBaudRate baudRate) fun actual host =>
  awaitThen (host.setLineProperties 8 .one .none false) fun _ host =>
  awaitThen (host.setFlowControl .disabled) fun _ host => (.returned (.ok actual), host)

/-- Configure a conventional 8N1 UART with flow control disabled. -/
def configure8n1 (host : FtdiHost) (baudRate : UInt32) : Call FtdiError UInt32 × FtdiHost :=
  awaitThen host.reset fun _ host => host.configureAfterReset baudRate

/-! ### The byte stream -/

/-- `rx_packet[rx_start..rx_end]`, the bytes received and not yet read. -/
def buffered (host : FtdiHost) : List UInt8 :=
  (host.rxPacket.drop host.rxStart).take (host.rxEnd - host.rxStart)

/-- `copy_buffered`, into a destination of `bufferLen` bytes; its result is the bytes written there. -/
def copyBuffered (host : FtdiHost) (bufferLen : Nat) : List UInt8 × FtdiHost :=
  let count := min bufferLen (host.rxEnd - host.rxStart)
  let bytes := (host.rxPacket.drop host.rxStart).take count
  if finished : host.rxStart + count = host.rxEnd then (bytes, host.clearRx)
  else
    (bytes,
      { host with
        rxStart := host.rxStart + count
        window := ⟨by have := host.window.1; omega, host.window.2⟩ })

/-- The bulk-IN pipe has written a packet into `&mut rx_packet[..packet_size]`. -/
def written (host : FtdiHost) (packet : List UInt8) : FtdiHost :=
  { host with
    rxPacket := packet.take host.packetSize ++ host.rxPacket.drop (packet.take host.packetSize).length
    supports := by
      have supports := host.supports
      rw [List.length_append, List.length_drop]
      omega
    window := by
      refine ⟨host.window.1, ?_⟩
      have inside := host.window.2
      rw [List.length_append, List.length_drop]
      omega }

/-- `self.status` from the first two bytes of the packet buffer. -/
def latchStatus (host : FtdiHost) : FtdiHost :=
  { host with status := { modem := host.rxPacket.getD 0 0, line := host.rxPacket.getD 1 0 } }

/-- `self.rx_start = 2; self.rx_end = received;` -/
def fill (host : FtdiHost) (received : Nat) (header : 2 ≤ received)
    (fits : received ≤ host.packetSize) : FtdiHost :=
  { host with
    rxStart := 2
    rxEnd := received
    window := ⟨header, fits.trans host.supports⟩ }

/-- The bulk-IN pipe, with the transfers that it has left. -/
def withBulkIn (host : FtdiHost) (bulkIn : List InTransfer) : FtdiHost := { host with bulkIn }

/-- The loop of `read`, which skips the packets without a payload. -/
def readLoop (bufferLen : Nat) : List InTransfer → FtdiHost → Call FtdiError (List UInt8) × FtdiHost
  | [], host => (.waiting, host.withBulkIn [])
  | .error error :: rest, host => (.returned (fail (.transfer error)), host.withBulkIn rest)
  | .ok packet :: rest, host =>
    let host := host.written packet
    if long : packet.length > host.packetSize then
      (.returned (fail (.transfer .bufferOverflow)), host.withBulkIn rest)
    else if short : packet.length < 2 then readLoop bufferLen rest host
    else if packet.length = 2 then readLoop bufferLen rest host.latchStatus
    else
      let copied := (host.latchStatus.fill packet.length (Nat.not_lt.mp short)
        (Nat.not_lt.mp long)).copyBuffered bufferLen
      (.returned (.ok copied.1), copied.2.withBulkIn rest)

/-- Read serial payload, into a destination of `bufferLen` bytes; its result is the bytes written
there. -/
def read (host : FtdiHost) (bufferLen : Nat) : Call FtdiError (List UInt8) × FtdiHost :=
  if bufferLen = 0 then (.returned (.ok []), host)
  else if host.rxStart ≠ host.rxEnd then
    let copied := host.copyBuffered bufferLen
    (.returned (.ok copied.1), copied.2)
  else readLoop bufferLen host.bulkIn host

/-- `write`. -/
def write (host : FtdiHost) (data : List UInt8) : Call FtdiError Nat × FtdiHost :=
  if data = [] then (.returned (.ok 0), host)
  else
    match host.bulkOut with
    | [] => (.waiting, host)
    | .error error :: rest => (.returned (fail (.transfer error)), { host with bulkOut := rest })
    | .ok () :: rest => (.returned (.ok data.length), { host with bulkOut := rest })

end FtdiHost

/-! ### Calls -/

/-- The calls of a UART. -/
inductive FtdiCall where
  | reset
  | purgeRx
  | purgeTx
  | configure8n1 (baudRate : UInt32)
  | setBaudRate (requested : UInt32)
  | setLineProperties (dataBits : UInt8) (stop : FtdiStopBits) (parity : FtdiParity)
      (breakEnabled : Bool)
  | setFlowControl (flow : FtdiFlowControl)
  | setDtrRts (dtr rts : Bool)
  | resetDataToggles
  | read (bufferLen : Nat)
  | write (data : List UInt8)
  deriving DecidableEq

/-- One call, with what the pipes do during it. If they do too little, the call waits and is dropped
there. -/
structure Turn where
  call : FtdiCall
  control : List OutTransfer
  bulkIn : List InTransfer
  bulkOut : List OutTransfer

namespace FtdiHost

/-- The host, with what its pipes will do. -/
def supplied (host : FtdiHost) (turn : Turn) : FtdiHost :=
  { host with control := turn.control, bulkIn := turn.bulkIn, bulkOut := turn.bulkOut }

/-- The host after a call. -/
def afterTurn (host : FtdiHost) (turn : Turn) : FtdiHost :=
  let host := host.supplied turn
  match turn.call with
  | .reset => host.reset.2
  | .purgeRx => host.purgeRx.2
  | .purgeTx => host.purgeTx.2
  | .configure8n1 baudRate => (host.configure8n1 baudRate).2
  | .setBaudRate requested => (host.setBaudRate requested).2
  | .setLineProperties dataBits stop parity breakEnabled =>
    (host.setLineProperties dataBits stop parity breakEnabled).2
  | .setFlowControl flow => (host.setFlowControl flow).2
  | .setDtrRts dtr rts => (host.setDtrRts dtr rts).2
  | .resetDataToggles => host.resetDataToggles
  | .read bufferLen => (host.read bufferLen).2
  | .write data => (host.write data).2

/-- The host after a run. -/
def afterTurns (host : FtdiHost) (turns : List Turn) : FtdiHost := turns.foldl afterTurn host

end FtdiHost

/-- The second UART of an FT2232H, as it is created. -/
def secondUart : FtdiHost :=
  FtdiHost.new 64
    { configuration := {
        totalLength := 55, numInterfaces := 2, configurationValue := 1, stringIndex := 0,
        attributes := 0x80, maxPowerMa := 500 }
      interfaceNumber := 1
      interfaceSubclass := 0xff
      interfaceProtocol := 0xff
      bulkOutEndpoint := { address := 0x04, attributes := 0x02, maxPacketSize := 64, interval := 0 }
      bulkInEndpoint := { address := 0x83, attributes := 0x02, maxPacketSize := 64, interval := 0 } }
    .ft2232H (by decide)

end PioUsbHost.Ftdi
