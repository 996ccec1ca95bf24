/-
**Frames, waits and bus resets of the packet engine.**

The part of `Rp2040PioEngine` that decides when anything is put on the bus: the frame markers
(`advance_frame`, `transmit_frame_marker`, `transmit_due_sof_if_needed`), the deadlines between them
(`schedule_frame_after`, `schedule_retry_frame_from_now`), and the bus reset (`reset`, `reset_bus` and
`BusResetGuard`). The engine belongs to one operation at a time, so a run is a sequence of the pieces
of code between two waits (`Step`), with time passing between them and any wait dropped at any time.

Times are in microseconds of the embassy clock. `Effect` is what a step does to the bus.
-/

import PioUsbHost.Lib.Run
import PioUsbHost.Usb.Packet
import PioUsbHost.Pio.TxProgram

namespace PioUsbHost.Frame

open PioUsbHost.Usb PioUsbHost.Pio PioUsbHost.Lib

/-! ### The engine -/

/-- `Duration::from_millis`. -/
def millis (count : Nat) : Nat := 1000 * count

/-- `USB_RESET_MS`. -/
def usbResetMs : Nat := 20

/-- `USB_RESET_RECOVERY_MS`. -/
def usbResetRecoveryMs : Nat := 10

/-- The four bytes of a Start-of-Frame token. -/
def sofPacket (frameNumber : UInt16) : List UInt8 :=
  let frame := frameNumber &&& 0x07ff
  let crc := crc5Token frame
  [sync, pidSof, frame.toUInt8, ((frame >>> 8).toUInt8 &&& (0x07 : UInt8)) ||| (crc <<< 3)]

/-- The fields of `Rp2040PioEngine` that time the bus. -/
structure FrameEngine where
  /-- `profile.speed`. -/
  speed : Speed
  frameNumber : UInt16
  nextFrame : Nat
  busReadyAt : Nat

namespace FrameEngine

variable (engine : FrameEngine)

/-- What `transmit_frame_marker` puts on the bus: the bytes of a token, or no bytes for the end of
packet that keeps a low-speed device awake. The number moves on even if the token is not sent. -/
def transmitFrameMarker : List UInt8 × FrameEngine :=
  match engine.speed with
  | .full => (sofPacket engine.frameNumber,
      { engine with frameNumber := (engine.frameNumber + 1) &&& 0x07ff })
  | .low => ([], engine)

/-- `schedule_frame_after`. -/
def scheduleFrameAfter (scheduledFrame now : Nat) : FrameEngine :=
  let nominalNext := scheduledFrame + millis 1
  { engine with nextFrame := if now < nominalNext then nominalNext else now + millis 1 }

/-- `schedule_retry_frame_from_now`. -/
def scheduleRetryFrameFromNow (now : Nat) : FrameEngine :=
  { engine with nextFrame := now + millis 1 }

/-- `BusResetGuard::release_bus`, but for the pins. -/
def releaseBus (now : Nat) : FrameEngine :=
  { engine with busReadyAt := now + millis usbResetRecoveryMs }

end FrameEngine

/-! ### What is put on the bus -/

/-- A frame marker: when it is transmitted, the frame it was scheduled for, its bytes, and whether the
transmitter has sent it. -/
structure Marker where
  time : Nat
  slot : Nat
  bytes : List UInt8
  sent : Bool

/-- What a step does to the bus. -/
inductive Effect where
  | none
  /-- Both pins are driven low. -/
  | drive (time : Nat)
  /-- They are released; `dropped` says that the reset was cancelled. -/
  | release (time : Nat) (dropped : Bool)
  | marker (marker : Marker)
  /-- The packets of a transaction. -/
  | packets (time : Nat)

/-- **A frame marker and what follows it**, for the slot it was scheduled for; the clock has gone on to
`after` by the time the next frame is scheduled. -/
def FrameEngine.frameMarker (engine : FrameEngine) (slot now after : Nat) (sent : Bool) :
    Marker × FrameEngine :=
  let (bytes, engine) := engine.transmitFrameMarker
  ({ time := now, slot, bytes, sent },
    if sent then engine.scheduleFrameAfter slot after else engine)

/-- `transmit_due_sof_if_needed` reads the clock before each of its tests. -/
def FrameEngine.dueSof (engine : FrameEngine) (first second after : Nat) (sent : Bool) :
    Option Marker × FrameEngine :=
  if first < engine.busReadyAt then (none, engine)
  else if second < engine.nextFrame then (none, engine)
  else
    let (marker, engine) := engine.frameMarker engine.nextFrame second after sent
    (some marker, engine)

/-- What a test for a due frame does to the bus. -/
def dueEffect : Option Marker → Effect
  | none => .none
  | some marker => .marker marker

/-- Whether the operation goes on: a marker that is not sent ends it with a timeout. -/
def dueSent : Option Marker → Bool
  | none => true
  | some marker => marker.sent

/-! ### Operations and their waits -/

/-- Where the operation that owns the engine stands. -/
inductive Task where
  | idle
  /-- The reset timer, to its deadline. -/
  | resetting (deadline : Nat)
  /-- The recovery timer. -/
  | recovering
  /-- The wait at the head of `out_once` and `in_once`, with their `frame_scheduled`. -/
  | ready (frameScheduled : Bool)
  /-- The first wait of `advance_frame`. -/
  | advancing
  /-- Its second wait. -/
  | awaitingFrame (scheduledFrame : Nat)
  /-- A transaction past its frame; it waits no more. -/
  | transmitting
  deriving DecidableEq

/-- The task waits, so it can be dropped. -/
def Task.awaits : Task → Bool
  | .idle | .transmitting => false
  | _ => true

/-- The engine, the operation that owns it, and the clock. -/
structure System where
  engine : FrameEngine
  /-- Both pins are driven low by the engine. -/
  driving : Bool
  task : Task
  now : Nat

/-- **The code between two waits.** -/
inductive Step : System → Effect → System → Prop where
  | pass {system : System} (later : Nat) (onward : system.now ≤ later) :
      Step system .none { system with now := later }
  /-- `reset` up to the first timer of `reset_bus`; the pins are driven between its two looks at the
  clock. -/
  | resetBegin {system : System} (speed : Speed) (later : Nat) (onward : system.now ≤ later)
      (idle : system.task = .idle) :
      Step system (.drive later)
        { engine :=
            { system.engine with
              speed
              frameNumber := 0
              busReadyAt := system.now + millis (usbResetMs + usbResetRecoveryMs) }
          driving := true
          task := .resetting (later + millis usbResetMs)
          now := later }
  | resetRelease {system : System} (deadline : Nat) (resetting : system.task = .resetting deadline)
      (elapsed : deadline ≤ system.now) :
      Step system (.release system.now false)
        { system with
          engine := system.engine.releaseBus system.now, driving := false, task := .recovering }
  | resetDone {system : System} (recovering : system.task = .recovering)
      (elapsed : system.engine.busReadyAt ≤ system.now) :
      Step system .none
        { system with
          engine := { system.engine with nextFrame := system.now + millis 1 }, task := .idle }
  /-- A wait is dropped outside a reset's first timer. -/
  | drop {system : System} (awaits : system.task.awaits = true) (quiet : system.driving = false) :
      Step system .none { system with task := .idle }
  /-- `BusResetGuard` is dropped in its first timer. -/
  | dropReset {system : System} (awaits : system.task.awaits = true) (driving : system.driving = true) :
      Step system (.release system.now true)
        { system with
          engine := system.engine.releaseBus system.now, driving := false, task := .idle }
  /-- `service_frame`. -/
  | serviceFrame {system : System} (second after : Nat) (sent : Bool) (onward : system.now ≤ second)
      (later : second ≤ after) (idle : system.task = .idle) :
      Step system (dueEffect (system.engine.dueSof system.now second after sent).1)
        { system with engine := (system.engine.dueSof system.now second after sent).2, now := after }
  /-- A failed status stage waits for the next frame. -/
  | retryLater {system : System} (idle : system.task = .idle) :
      Step system .none
        { system with engine := system.engine.scheduleRetryFrameFromNow system.now }
  /-- A transaction begins. -/
  | begin {system : System} (frameScheduled : Bool) (idle : system.task = .idle) :
      Step system .none { system with task := .ready frameScheduled }
  | readyScheduled {system : System} (ready : system.task = .ready true)
      (elapsed : system.engine.busReadyAt ≤ system.now) :
      Step system .none { system with task := .advancing }
  | readyDue {system : System} (second after : Nat) (sent : Bool) (onward : system.now ≤ second)
      (later : second ≤ after) (ready : system.task = .ready false)
      (elapsed : system.engine.busReadyAt ≤ system.now) :
      Step system (dueEffect (system.engine.dueSof system.now second after sent).1)
        { system with
          engine := (system.engine.dueSof system.now second after sent).2
          task :=
            if dueSent (system.engine.dueSof system.now second after sent).1 then .transmitting
            else .idle
          now := after }
  | advance {system : System} (advancing : system.task = .advancing)
      (elapsed : system.engine.busReadyAt ≤ system.now) :
      Step system .none { system with task := .awaitingFrame system.engine.nextFrame }
  | frame {system : System} (slot after : Nat) (sent : Bool) (later : system.now ≤ after)
      (awaiting : system.task = .awaitingFrame slot) (elapsed : slot ≤ system.now) :
      Step system (.marker (system.engine.frameMarker slot system.now after sent).1)
        { system with
          engine := (system.engine.frameMarker slot system.now after sent).2
          task := if sent then .transmitting else .idle
          now := after }
  /-- The packets of the transaction. -/
  | transmit {system : System} (transmitting : system.task = .transmitting) :
      Step system (.packets system.now) { system with task := .idle }
  /-- The transaction ends before its packets, with an error. -/
  | giveUp {system : System} (transmitting : system.task = .transmitting) :
      Step system .none { system with task := .idle }

/-- A fresh engine, at any time; the clock may go on between the constructor's looks at it. -/
def System.Fresh (system : System) : Prop :=
  system.engine.frameNumber = 0 ∧ system.engine.nextFrame ≤ system.now + millis 1 ∧
    system.engine.busReadyAt ≤ system.now ∧ system.driving = false ∧ system.task = .idle

end PioUsbHost.Frame
