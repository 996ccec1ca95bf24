/-
**The USBTMC host: outgoing messages, and the reassembly of a response.**

The host writes a message as one bulk-OUT transfer and reads a response by sending a request of the
same form and taking bulk-IN packets until the announced length, and the end of the transfer, are
reached (`readResponse`).
-/

import PioUsbHost.Usb.UsbPipe
import PioUsbHost.Usbtmc.Discovery

namespace PioUsbHost.Usbtmc

open PioUsbHost.Lib.Panic PioUsbHost.Usb

/-! ### Constants -/

/-- `MsgID` of `DEV_DEP_MSG_OUT`. -/
def msgidDevDepMsgOut : UInt8 := 1

/-- `MsgID` of `DEV_DEP_MSG_IN`, and of the request for it. -/
def msgidDevDepMsgIn : UInt8 := 2

/-- `HEADER_LEN`. -/
def headerLen : Nat := 12

/-- The bit of a message's last transfer. -/
def attributeEom : UInt8 := 1

/-- Error returned by a USBTMC host. -/
inductive UsbtmcError where
  | transfer (error : PipeError)
  | commandTooLong
  | responseBufferTooSmall
  | invalidMessage
  | tagMismatch
  deriving DecidableEq, Repr

/-- `len.next_multiple_of(4)` -/
def nextMultipleOf4 (len : Nat) : Nat := (len + 3) / 4 * 4

/-- `value.to_le_bytes()` -/
def toLeBytes (value : UInt32) : List UInt8 :=
  [value.toUInt8, (value >>> 8).toUInt8, (value >>> 16).toUInt8, (value >>> 24).toUInt8]

/-- `u32::from_le_bytes([..]) as usize` -/
def fromLeBytes (b0 b1 b2 b3 : UInt8) : Nat :=
  (b0.toUInt32 ||| b1.toUInt32 <<< 8 ||| b2.toUInt32 <<< 16 ||| b3.toUInt32 <<< 24).toNat

/-! ### The host -/

/-- A USBTMC interface backed by bulk pipes; the pipes are what they will do. -/
structure UsbtmcHost where
  interface : UsbtmcInterface
  outMessageCapacity : Nat
  nextTag : UInt8
  bulkIn : List InTransfer
  bulkOut : List OutTransfer
  /-- The OUT transfers handed to the pipe. -/
  sent : List (List UInt8)

namespace UsbtmcHost

/-- A host with fresh tags. -/
def new (interface : UsbtmcInterface) (outMessageCapacity : Nat) (bulkIn : List InTransfer)
    (bulkOut : List OutTransfer) : UsbtmcHost :=
  { interface, outMessageCapacity, nextTag := 1, bulkIn, bulkOut, sent := [] }

/-- `take_tag`: tags go from 1 to 255, and zero is none. -/
def takeTag (host : UsbtmcHost) : UInt8 × UsbtmcHost :=
  (host.nextTag, { host with nextTag := if host.nextTag = 255 then 1 else host.nextTag + 1 })

/-- `self.bulk_out.request_out(data, false).await?` -/
def requestOut (host : UsbtmcHost) (data : List UInt8) : Call UsbtmcError Unit × UsbtmcHost :=
  match host.bulkOut with
  | [] => (.waiting, { host with sent := host.sent ++ [data] })
  | .error error :: rest =>
    (.returned (fail (.transfer error)), { host with bulkOut := rest, sent := host.sent ++ [data] })
  | .ok () :: rest => (.returned (.ok ()), { host with bulkOut := rest, sent := host.sent ++ [data] })

/-- The header, command and alignment bytes that `write` puts into its buffer. -/
def outgoing (tag : UInt8) (command : List UInt8) : List UInt8 :=
  [msgidDevDepMsgOut, tag, ~~~tag, 0] ++ toLeBytes (UInt32.ofNat command.length) ++
    [attributeEom, 0, 0, 0] ++ command ++
    List.replicate (nextMultipleOf4 command.length - command.length) 0

/-- Send one complete device-dependent message with EOM asserted. -/
def write (host : UsbtmcHost) (command : List UInt8) : Call UsbtmcError Unit × UsbtmcHost :=
  if command.length + headerLen + 3 > host.outMessageCapacity then
    (.returned (fail .commandTooLong), host)
  else
    let (tag, host) := host.takeTag
    if headerLen + nextMultipleOf4 command.length > host.outMessageCapacity then
      (.returned (.error .panic), host)
    else host.requestOut (outgoing tag command)

end UsbtmcHost

/-- `build_request_in`. -/
def buildRequestIn (tag : UInt8) (capacity : Nat) : List UInt8 :=
  [msgidDevDepMsgIn, tag, ~~~tag, 0] ++ toLeBytes (UInt32.ofNat (min capacity 0xffffffff)) ++
    [0, 0, 0, 0]

/-! ### Reading a response -/

/-- What a call of `read_response` leaves behind. -/
structure ReadOutcome where
  result : Call UsbtmcError Nat
  response : List UInt8
  /-- The transfers that the call did not use. -/
  bulkIn : List InTransfer
  deriving DecidableEq

/-- The variables of the loop. -/
structure Progress where
  copied : Nat
  wireReceived : Nat
  lastPacketLen : Nat
  response : List UInt8

/-- `response[start..start + source.len()].copy_from_slice(source)` -/
def copyInto (response : List UInt8) (start : Nat) (source : List UInt8) :
    Checked UsbtmcError (List UInt8) :=
  if start + source.length ≤ response.length then
    .ok (response.take start ++ source ++ response.drop (start + source.length))
  else .error .panic

/-- After the loop: a full last packet needs a zero-length one to end the transfer. -/
def finish (packetSize announced : Nat) (transfers : List InTransfer) (progress : Progress) :
    ReadOutcome :=
  if progress.wireReceived < headerLen + announced then
    ⟨.returned (fail .invalidMessage), progress.response, transfers⟩
  else if progress.lastPacketLen = packetSize then
    match transfers with
    | [] => ⟨.waiting, progress.response, []⟩
    | transfer :: rest =>
      match receive packetSize transfer with
      | .error error => ⟨.returned (fail (.transfer error)), progress.response, rest⟩
      | .ok packet =>
        if packet.length ≠ 0 then
          ⟨.returned (fail .invalidMessage), progress.response, rest⟩
        else ⟨.returned (.ok progress.copied), progress.response, rest⟩
  else ⟨.returned (.ok progress.copied), progress.response, transfers⟩

/-- The loop, and what follows it. -/
def copyLoop (packetSize announced : Nat) : List InTransfer → Progress → ReadOutcome
  | [], progress =>
    if progress.copied < announced then ⟨.waiting, progress.response, []⟩
    else finish packetSize announced [] progress
  | transfer :: rest, progress =>
    if progress.copied < announced then
      match receive packetSize transfer with
      | .error error => ⟨.returned (fail (.transfer error)), progress.response, rest⟩
      | .ok packet =>
        if packet.length = 0
            ∨ progress.wireReceived + packet.length > headerLen + nextMultipleOf4 announced then
          ⟨.returned (fail .invalidMessage), progress.response, rest⟩
        else
          let count := min packet.length (announced - progress.copied)
          match copyInto progress.response progress.copied (packet.take count) with
          | .error fault => ⟨.returned (.error fault), progress.response, rest⟩
          | .ok response =>
            copyLoop packetSize announced rest
              { copied := progress.copied + count
                wireReceived := progress.wireReceived + packet.length
                lastPacketLen := packet.length
                response }
    else finish packetSize announced (transfer :: rest) progress

/-- The checks of the first packet, up to the announced length. -/
def checkHeader (tag : UInt8) (packet : List UInt8) : Checked UsbtmcError Nat := do
  let invalid ← orElse (packet.length < headerLen) do
    orElse ((← index packet 0) ≠ msgidDevDepMsgIn) do
      return (← index packet 2) ≠ ~~~(← index packet 1)
  if invalid then fail .invalidMessage
  else if (← index packet 1) ≠ tag then fail .tagMismatch
  else return fromLeBytes (← index packet 4) (← index packet 5) (← index packet 6) (← index packet 7)

/-- Everything before the loop, from the first packet. -/
def firstPacket (tag : UInt8) (response packet : List UInt8) :
    Checked UsbtmcError (Nat × Progress) := do
  let announced ← checkHeader tag packet
  if announced > response.length then fail .responseBufferTooSmall
  else if packet.length > headerLen + nextMultipleOf4 announced then fail .invalidMessage
  else
    let copied := min (packet.length - headerLen) announced
    let response ← copyInto response 0 (← slice packet headerLen (headerLen + copied))
    return (announced, {
      copied
      wireReceived := packet.length
      lastPacketLen := packet.length
      response })

/-- `read_response`. -/
def readResponse (packetSize : Nat) (tag : UInt8) (response : List UInt8) :
    List InTransfer → ReadOutcome
  | [] => ⟨.waiting, response, []⟩
  | transfer :: rest =>
    match receive packetSize transfer with
    | .error error => ⟨.returned (fail (.transfer error)), response, rest⟩
    | .ok packet =>
      match firstPacket tag response packet with
      | .error fault => ⟨.returned (.error fault), response, rest⟩
      | .ok (announced, progress) => copyLoop packetSize announced rest progress

namespace UsbtmcHost

/-- Request and read one complete device-dependent response message. -/
def read (host : UsbtmcHost) (response : List UInt8) :
    Call UsbtmcError Nat × List UInt8 × UsbtmcHost :=
  let (tag, host) := host.takeTag
  match host.requestOut (buildRequestIn tag response.length) with
  | (.waiting, host) => (.waiting, response, host)
  | (.returned (.error fault), host) => (.returned (.error fault), response, host)
  | (.returned (.ok ()), host) =>
    let outcome := readResponse host.interface.bulkInEndpoint.maxPacketSize.toNat tag response
      host.bulkIn
    (outcome.result, outcome.response, { host with bulkIn := outcome.bulkIn })

/-- Send one SCPI/program message and request one response message. -/
def exchange (host : UsbtmcHost) (command response : List UInt8) :
    Call UsbtmcError Nat × List UInt8 × UsbtmcHost :=
  match host.write command with
  | (.waiting, host) => (.waiting, response, host)
  | (.returned (.error fault), host) => (.returned (.error fault), response, host)
  | (.returned (.ok ()), host) => host.read response

end UsbtmcHost

end PioUsbHost.Usbtmc
