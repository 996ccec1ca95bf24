/-
**The shared host state and the tasks that work on it.**

`PioHostState` of `pio_host.rs`: the port, the pending events and the reset flag behind one blocking
mutex, the engine behind an async mutex, and the wake-up signal. Around it, where each party has got
to: requests on allocated pipes, bus resets, reporters between their two steps, and the one event
consumer.

A phase names a point at which another party may run, so every access to the shared state is a step of
its own. The one exception is the tail that checks a pipe and calls the engine, which is one step.
-/

import Mathlib.Logic.Function.Basic
import PioUsbHost.Pipe.Request

namespace PioUsbHost.Host

open PioUsbHost.Usb PioUsbHost.Pipe PioUsbHost.Lib.Panic

/-! ### Events -/

/-- The device events that this host produces. -/
inductive DeviceEvent where
  | connected (speed : BusSpeed)
  | disconnected
  | overcurrent
  deriving DecidableEq

/-- The events that wait for the consumer: a connection and what came before it. -/
structure PendingEvents where
  destructive : Option DeviceEvent
  connected : Option BusSpeed
  deriving DecidableEq

namespace PendingEvents

/-- `PendingEvents::new`. -/
def none : PendingEvents := { destructive := .none, connected := .none }

/-- Events that end a connection take it back, and an overcurrent stays. -/
def push (events : PendingEvents) : DeviceEvent → PendingEvents
  | .connected speed => { events with connected := some speed }
  | .disconnected =>
    { destructive :=
        if events.destructive ≠ some .overcurrent then some .disconnected else events.destructive
      connected := .none }
  | .overcurrent => { destructive := some .overcurrent, connected := .none }

/-- The event taken, and what is left. -/
def take (events : PendingEvents) : Option DeviceEvent × PendingEvents :=
  match events.destructive with
  | some event => (some event, { events with destructive := .none })
  | .none => (events.connected.map .connected, none)

end PendingEvents

/-! ### The shared state -/

/-- What the host's parties share. -/
structure SharedState where
  port : PortState
  pendingEvents : PendingEvents
  resetInProgress : Bool
  deriving DecidableEq

namespace SharedState

/-- `SharedState::new`. -/
def initial : SharedState :=
  { port := .initial, pendingEvents := .none, resetInProgress := false }

/-- The critical section that publishes a connection. -/
def publish (shared : SharedState) (speed : BusSpeed) : SharedState :=
  { shared with
    port := shared.port.afterConnection speed
    pendingEvents := shared.pendingEvents.push (.connected speed) }

/-- The critical section of the three detach and overcurrent reports. -/
def report (shared : SharedState) (event : DeviceEvent) : SharedState :=
  { shared with
    port := shared.port.afterDisconnection
    pendingEvents := shared.pendingEvents.push event }

/-- `mark_bus_reset`. -/
def markBusReset (shared : SharedState) : SharedState :=
  { shared with port := shared.port.afterBusReset }

end SharedState

/-! ### Requests -/

/-- A call of one of the four methods of a pipe. -/
inductive PipeCall where
  | controlIn (setup : List UInt8) (bufferLen : Nat)
  | controlOut (setup data : List UInt8)
  | requestIn (buffer : List UInt8)
  | requestOut (data : List UInt8) (ensureTransactionEnd : Bool)

/-- A call in progress, with its variables. -/
inductive PipeRequest where
  | controlIn (setup : List UInt8) (bufferLen : Nat)
  | controlOut (setup data : List UInt8)
  | requestIn (request : InRequest)
  | requestOut (request : OutRequest)

/-- What a request returns. -/
inductive Value where
  | received (count : Nat)
  | done
  deriving DecidableEq

/-- A call up to its first suspension. It returns at once for an empty IN buffer, and panics at once for
a packet size of zero. -/
def PipeCall.start (target : PipeTarget) : PipeCall → Next PipeRequest Value
  | controlIn setup bufferLen => .again (.controlIn setup bufferLen)
  | controlOut setup data => .again (.controlOut setup data)
  | requestIn buffer =>
    if buffer = [] then .returned (.ok (.received 0)) else .again (.requestIn (.start buffer))
  | requestOut data ensureTransactionEnd =>
    match OutRequest.start target data ensureTransactionEnd with
    | .ok request => .again (.requestOut request)
    | .error fault => .returned (.error fault)

/-- How a request goes on, with its variables and its result renamed. -/
def rename {σ τ α : Type} (request : σ → τ) (value : α → Value) : Next σ α → Next τ Value
  | .again next => .again (request next)
  | .returned result => .returned (result.map value)

/-- The ways a request goes on after an engine operation. A control transfer is one operation. -/
inductive Follows (target : PipeTarget) : PipeRequest → Next PipeRequest Value → Prop where
  | failed (request : PipeRequest) (error : PipeError) :
      Follows target request (.returned (fail error))
  | controlIn (setup : List UInt8) (bufferLen count : Nat) :
      Follows target (.controlIn setup bufferLen) (.returned (.ok (.received count)))
  | controlOut (setup data : List UInt8) :
      Follows target (.controlOut setup data) (.returned (.ok .done))
  | requestIn (request : InRequest) (outcome : TransactionOutcome (List UInt8)) :
      Follows target (.requestIn request)
        (rename .requestIn (fun received => .received received.2)
          (request.afterOutcome target outcome))
  | requestOut (request : OutRequest) (outcome : TransactionOutcome Unit) :
      Follows target (.requestOut request)
        (rename .requestOut (fun _ => .done) (request.afterOutcome target outcome))

/-- Where a request has got to. `transactionDue`, `engineLock`, `operating`, `servicing` and
`otherPipes` are its suspension points. -/
inductive RequestPhase where
  | transactionDue
  | engineLock
  | locked
  | operating
  | servicing (next : Next PipeRequest Value)
  | unlocked (next : Next PipeRequest Value)
  | settled (result : Checked PipeError Value)
  | otherPipes

namespace RequestPhase

/-- The request holds the engine. -/
def HoldsEngine : RequestPhase → Prop
  | locked => True
  | operating => True
  | servicing _ => True
  | _ => False

/-- The request may be dropped here. -/
def Suspended : RequestPhase → Prop
  | transactionDue => True
  | engineLock => True
  | operating => True
  | servicing _ => True
  | otherPipes => True
  | _ => False

end RequestPhase

/-- An allocated pipe, and the request on it, if there is one. -/
structure PipeSlot where
  pipe : PioHostPipe
  request : Option (PipeRequest × RequestPhase)

/-! ### Resets -/

/-- A controller's `bus_reset`, or a `reset_and_report_connected` with its speed and the connection
generation it saw when it was called. -/
inductive ResetKind where
  | controller
  | connect (speed : BusSpeed) (connectionGeneration : UInt32)
  deriving DecidableEq

/-- Where a reset has got to. `engineLock` and `resetting` are its suspension points. -/
inductive ResetPhase where
  | engineLock
  | locked
  | driving (speed : BusSpeed)
  | marked (speed : BusSpeed)
  | resetting (speed : BusSpeed)
  | settled (result : Except PipeError Unit)
  | published (connected : Bool)
  | inactive (report signal : Bool)
  | reported
  | signalling
  | ended
  deriving DecidableEq

namespace ResetPhase

/-- The reset holds the engine. -/
def HoldsEngine : ResetPhase → Prop
  | engineLock => False
  | signalling => False
  | ended => False
  | _ => True

/-- The reset has marked the port and still holds the engine. -/
def Open : ResetPhase → Prop
  | engineLock => False
  | locked => False
  | driving _ => False
  | signalling => False
  | ended => False
  | _ => True

end ResetPhase

/-- A call of `bus_reset`, and where it stands. -/
structure ResetTask where
  kind : ResetKind
  phase : ResetPhase

/-! ### The whole host -/

/-- Who holds the engine mutex. -/
inductive EngineOwner where
  | pipe (index : Nat)
  | reset (index : Nat)
  | frame
  deriving DecidableEq

/-- Where the event consumer has got to in `wait_for_device_event`. -/
inductive ConsumerPhase where
  | taking
  | waiting
  deriving DecidableEq

/-- The host with its pipes, its resets and its reporters. -/
structure PioHostState where
  shared : SharedState
  eventWake : Bool
  engine : Option EngineOwner
  pipes : Nat → Option PipeSlot
  resets : Nat → Option ResetTask
  /-- The reporters that have recorded their event and not yet signalled. -/
  reporters : Nat
  consumer : ConsumerPhase

namespace PioHostState

/-- `PioHostState::new`, before any call. -/
def initial : PioHostState :=
  { shared := .initial
    eventWake := false
    engine := none
    pipes := fun _ => none
    resets := fun _ => none
    reporters := 0
    consumer := .taking }

end PioHostState

end PioUsbHost.Host
