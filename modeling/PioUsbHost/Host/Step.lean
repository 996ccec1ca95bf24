/-
**The steps of the host, under any interleaving.**

Each party moves by its own relation (`PipeMove`, `ResetMove`); a step of the host is a move of one
party. The label of a step says what happens to the shared state (`Effect.apply`), so what a run does to
it is a fold over its trace.

* `Step.port`: the port changes by a publication, a report or the start of a reset, and by nothing else.
* `connectionGeneration_run`, `resetGeneration_run`: the generations count the labels of the trace.
-/

import PioUsbHost.Host.State
import PioUsbHost.Lib.Run

namespace PioUsbHost.Host

open PioUsbHost.Usb PioUsbHost.Pipe PioUsbHost.Lib PioUsbHost.Lib.Panic

/-! ### Labels -/

/-- What a step does that others can see. Pipes and resets are named by their index. -/
inductive Effect where
  | silent
  | allocated (pipe : Nat)
  | called (pipe : Nat)
  | operationStarted (pipe : Nat)
  | operationReturned (pipe : Nat)
  | returned (pipe : Nat) (result : Checked PipeError Value)
  | resetMarked (reset : Nat)
  | activityBegan (reset : Nat)
  | activityEnded (reset : Nat)
  | published (reset : Nat) (speed : BusSpeed)
  | reported (event : DeviceEvent)
  | suppressed
  | resetEnded (reset : Nat)
  | taken (event : DeviceEvent)
  deriving DecidableEq

namespace Effect

/-- What a label does to the shared state. -/
def apply (shared : SharedState) : Effect → SharedState
  | resetMarked _ => shared.markBusReset
  | activityBegan _ => { shared with resetInProgress := true }
  | activityEnded _ => { shared with resetInProgress := false }
  | published _ speed => shared.publish speed
  | reported event => shared.report event
  | taken _ => { shared with pendingEvents := shared.pendingEvents.take.2 }
  | _ => shared

/-- A disconnect or overcurrent report, or the publication of a connection. -/
def isConnection : Effect → Bool
  | published _ _ => true
  | reported _ => true
  | _ => false

/-- The start of a bus reset. -/
def isReset : Effect → Bool
  | resetMarked _ => true
  | _ => false

/-- What advances the reset generation. -/
def advancesReset : Effect → Bool
  | resetMarked _ => true
  | published _ _ => true
  | _ => false

end Effect

/-! ### Requests -/

/-- One move of the request on a pipe: what it finds (port and engine owner), the label, and the slot
and the engine owner it leaves. -/
inductive PipeMove (index : Nat) (port : PortState) :
    Option EngineOwner → PipeSlot → Effect → PipeSlot → Option EngineOwner → Prop where
  | call {engine : Option EngineOwner} {pipe : PioHostPipe} {request : PipeRequest} (call : PipeCall)
      (starts : call.start pipe.target = .again request) :
      PipeMove index port engine { pipe, request := none } (.called index)
        { pipe, request := some (request, .transactionDue) } engine
  | callAtOnce {engine : Option EngineOwner} {pipe : PioHostPipe} {result : Checked PipeError Value}
      (call : PipeCall) (returns : call.start pipe.target = .returned result) :
      PipeMove index port engine { pipe, request := none } .silent { pipe, request := none } engine
  | due {engine : Option EngineOwner} {pipe : PioHostPipe} {request : PipeRequest}
      (valid : pipe.checkValid port = .ok ()) :
      PipeMove index port engine { pipe, request := some (request, .transactionDue) } .silent
        { pipe, request := some (request, .engineLock) } engine
  | dueInvalid {engine : Option EngineOwner} {pipe : PioHostPipe} {request : PipeRequest}
      {error : PipeError} (invalid : pipe.checkValid port = .error error) :
      PipeMove index port engine { pipe, request := some (request, .transactionDue) } .silent
        { pipe, request := some (request, .settled (fail error)) } engine
  | lock {pipe : PioHostPipe} {request : PipeRequest} :
      PipeMove index port none { pipe, request := some (request, .engineLock) } .silent
        { pipe, request := some (request, .locked) } (some (.pipe index))
  | operate {engine : Option EngineOwner} {pipe : PioHostPipe} {request : PipeRequest}
      (valid : pipe.checkValid port = .ok ()) :
      PipeMove index port engine { pipe, request := some (request, .locked) }
        (.operationStarted index) { pipe, request := some (request, .operating) } engine
  | lockedInvalid {engine : Option EngineOwner} {pipe : PioHostPipe} {request : PipeRequest}
      {error : PipeError} (invalid : pipe.checkValid port = .error error) :
      PipeMove index port engine { pipe, request := some (request, .locked) } .silent
        { pipe, request := some (request, .settled (fail error)) } none
  | operated {engine : Option EngineOwner} {pipe : PioHostPipe} {request : PipeRequest}
      {next : Next PipeRequest Value} (toggle : DataToggle)
      (follows : Follows pipe.target request next) :
      PipeMove index port engine { pipe, request := some (request, .operating) }
        (.operationReturned index)
        { pipe := { pipe with dataToggle := toggle }, request := some (request, .servicing next) }
        engine
  | serviced {engine : Option EngineOwner} {pipe : PioHostPipe} {request : PipeRequest}
      {next : Next PipeRequest Value} :
      PipeMove index port engine { pipe, request := some (request, .servicing next) } .silent
        { pipe, request := some (request, .unlocked next) } none
  | goesOn {engine : Option EngineOwner} {pipe : PioHostPipe} {request next : PipeRequest}
      (valid : pipe.checkValid port = .ok ()) :
      PipeMove index port engine { pipe, request := some (request, .unlocked (.again next)) } .silent
        { pipe, request := some (next, .otherPipes) } engine
  | settles {engine : Option EngineOwner} {pipe : PioHostPipe} {request : PipeRequest}
      {result : Checked PipeError Value} (valid : pipe.checkValid port = .ok ()) :
      PipeMove index port engine { pipe, request := some (request, .unlocked (.returned result)) }
        .silent { pipe, request := some (request, .settled result) } engine
  | unlockedInvalid {engine : Option EngineOwner} {pipe : PioHostPipe} {request : PipeRequest}
      {next : Next PipeRequest Value} {error : PipeError}
      (invalid : pipe.checkValid port = .error error) :
      PipeMove index port engine { pipe, request := some (request, .unlocked next) } .silent
        { pipe, request := some (request, .settled (fail error)) } engine
  | yielded {engine : Option EngineOwner} {pipe : PioHostPipe} {request : PipeRequest} :
      PipeMove index port engine { pipe, request := some (request, .otherPipes) } .silent
        { pipe, request := some (request, .transactionDue) } engine
  | returns {engine : Option EngineOwner} {pipe : PioHostPipe} {request : PipeRequest}
      {result : Checked PipeError Value} :
      PipeMove index port engine { pipe, request := some (request, .settled result) }
        (.returned index result) { pipe, request := none } engine
  | drop {engine : Option EngineOwner} {pipe : PioHostPipe} {request : PipeRequest}
      {phase : RequestPhase} (suspended : phase.Suspended) (free : ¬ phase.HoldsEngine) :
      PipeMove index port engine { pipe, request := some (request, phase) } .silent
        { pipe, request := none } engine
  | dropHolding {engine : Option EngineOwner} {pipe : PioHostPipe} {request : PipeRequest}
      {phase : RequestPhase} (suspended : phase.Suspended) (holds : phase.HoldsEngine) :
      PipeMove index port engine { pipe, request := some (request, phase) } .silent
        { pipe, request := none } none

/-! ### Resets -/

/-- The speed that a reset drives. -/
def ResetKind.speed (kind : ResetKind) (port : PortState) : Option BusSpeed :=
  match kind with
  | controller => port.speed
  | connect speed _ => some speed

/-- One move of a reset: the port and the engine owner it finds, its phases, the label, the engine owner
it leaves, and whether it signals the consumer. -/
inductive ResetMove (index : Nat) (port : PortState) (kind : ResetKind) :
    Option EngineOwner → ResetPhase → Effect → ResetPhase → Option EngineOwner → Bool → Prop where
  | lock : ResetMove index port kind none .engineLock .silent .locked (some (.reset index)) false
  | drive {engine : Option EngineOwner} {speed : BusSpeed} (driven : kind.speed port = some speed) :
      ResetMove index port kind engine .locked .silent (.driving speed) engine false
  | mark {engine : Option EngineOwner} {speed : BusSpeed} :
      ResetMove index port kind engine (.driving speed) (.resetMarked index) (.marked speed) engine
        false
  | skip {engine : Option EngineOwner} (detached : kind.speed port = none) :
      ResetMove index port kind engine .locked .silent .ended none false
  | begin {engine : Option EngineOwner} {speed : BusSpeed} :
      ResetMove index port kind engine (.marked speed) (.activityBegan index) (.resetting speed) engine
        false
  | settle {engine : Option EngineOwner} {speed : BusSpeed} (result : Except PipeError Unit) :
      ResetMove index port kind engine (.resetting speed) .silent (.settled result) engine false
  | publish {engine : Option EngineOwner} {speed : BusSpeed}
      (same : kind = .connect speed port.connectionGeneration) :
      ResetMove index port kind engine (.settled (.ok ())) (.published index speed) (.published true)
        engine false
  | outdated {engine : Option EngineOwner} {speed : BusSpeed} {generation : UInt32}
      (connect : kind = .connect speed generation)
      (changed : port.connectionGeneration ≠ generation) :
      ResetMove index port kind engine (.settled (.ok ())) .silent (.published false) engine false
  | endFailed {engine : Option EngineOwner} {error : PipeError} :
      ResetMove index port kind engine (.settled (.error error)) (.activityEnded index)
        (.inactive (error = .disconnected) false) engine false
  | endReset {engine : Option EngineOwner} (controller : kind = .controller) :
      ResetMove index port kind engine (.settled (.ok ())) (.activityEnded index)
        (.inactive false false) engine false
  | endPublished {engine : Option EngineOwner} {connected : Bool} :
      ResetMove index port kind engine (.published connected) (.activityEnded index)
        (.inactive false connected) engine false
  | report {engine : Option EngineOwner} {signal : Bool} :
      ResetMove index port kind engine (.inactive true signal) (.reported .disconnected) .reported
        engine false
  | signalReport {engine : Option EngineOwner} :
      ResetMove index port kind engine .reported .silent (.inactive false false) engine true
  | release {engine : Option EngineOwner} {signal : Bool} :
      ResetMove index port kind engine (.inactive false signal) (.resetEnded index)
        (if signal then .signalling else .ended) none false
  | signal {engine : Option EngineOwner} :
      ResetMove index port kind engine .signalling .silent .ended engine true
  | dropWaiting {engine : Option EngineOwner} :
      ResetMove index port kind engine .engineLock .silent .ended engine false
  | dropResetting {engine : Option EngineOwner} {speed : BusSpeed} :
      ResetMove index port kind engine (.resetting speed) (.activityEnded index)
        (.inactive false false) engine false

/-! ### The host -/

namespace PioHostState

/-- The shared state after a label. -/
def after (state : PioHostState) (effect : Effect) : PioHostState :=
  { state with shared := effect.apply state.shared }

/-- One pipe in a new place. -/
def setPipe (state : PioHostState) (index : Nat) (slot : PipeSlot) : PioHostState :=
  { state with pipes := Function.update state.pipes index (some slot) }

/-- One reset in a new place. -/
def setReset (state : PioHostState) (index : Nat) (task : ResetTask) : PioHostState :=
  { state with resets := Function.update state.resets index (some task) }

/-- The engine with another owner. -/
def setEngine (state : PioHostState) (engine : Option EngineOwner) : PioHostState :=
  { state with engine }

/-- `event_wake.signal(())`, if the step does that. -/
def signal (state : PioHostState) (signals : Bool) : PioHostState :=
  { state with eventWake := state.eventWake || signals }

end PioHostState

/-- **One step of one party.** -/
inductive Step : PioHostState → Effect → PioHostState → Prop where
  | alloc {state : PioHostState} {pipe : PioHostPipe} (index : Nat) (request : AllocRequest)
      (fresh : state.pipes index = none)
      (allocated : allocPipe state.shared.port request = .ok pipe) :
      Step state (.allocated index) (state.setPipe index { pipe, request := none })
  | pipe {state : PioHostState} {slot next : PipeSlot} {effect : Effect}
      {engine : Option EngineOwner} (index : Nat) (current : state.pipes index = some slot)
      (move : PipeMove index state.shared.port state.engine slot effect next engine) :
      Step state effect (((state.after effect).setPipe index next).setEngine engine)
  | startController {state : PioHostState} (index : Nat) (fresh : state.resets index = none) :
      Step state .silent (state.setReset index { kind := .controller, phase := .engineLock })
  | startConnect {state : PioHostState} (index : Nat) (speed : BusSpeed)
      (fresh : state.resets index = none) :
      Step state .silent
        (state.setReset index
          { kind := .connect speed state.shared.port.connectionGeneration, phase := .engineLock })
  | reset {state : PioHostState} {task : ResetTask} {phase : ResetPhase} {effect : Effect}
      {engine : Option EngineOwner} {signals : Bool} (index : Nat) (current : state.resets index = some task)
      (move : ResetMove index state.shared.port task.kind state.engine task.phase effect phase engine
        signals) :
      Step state effect
        ((((state.after effect).setReset index { task with phase }).setEngine engine).signal signals)
  | reportDisconnected {state : PioHostState} :
      Step state (.reported .disconnected)
        { state.after (.reported .disconnected) with reporters := state.reporters + 1 }
  | reportDisconnectedIfNotResetting {state : PioHostState}
      (idle : state.shared.resetInProgress = false) :
      Step state (.reported .disconnected)
        { state.after (.reported .disconnected) with reporters := state.reporters + 1 }
  | suppress {state : PioHostState} (resetting : state.shared.resetInProgress = true) :
      Step state .suppressed state
  | reportOvercurrent {state : PioHostState} :
      Step state (.reported .overcurrent)
        { state.after (.reported .overcurrent) with reporters := state.reporters + 1 }
  | signalReporter {state : PioHostState} {others : Nat} (recorded : state.reporters = others + 1) :
      Step state .silent ({ state with reporters := others }.signal true)
  | take {state : PioHostState} {event : DeviceEvent} (taking : state.consumer = .taking)
      (pending : state.shared.pendingEvents.take.1 = some event) :
      Step state (.taken event) (state.after (.taken event))
  | takeNone {state : PioHostState} (taking : state.consumer = .taking)
      (nothing : state.shared.pendingEvents.take.1 = none) :
      Step state .silent { state with consumer := .waiting }
  | wake {state : PioHostState} (waiting : state.consumer = .waiting)
      (signalled : state.eventWake = true) :
      Step state .silent { state with eventWake := false, consumer := .taking }
  | dropWait {state : PioHostState} (waiting : state.consumer = .waiting) :
      Step state .silent { state with consumer := .taking }
  | serviceFrame {state : PioHostState} (free : state.engine = none)
      (attached : state.shared.port.speed = some .low ∨ state.shared.port.speed = some .full) :
      Step state .silent (state.setEngine (some .frame))
  | frameServiced {state : PioHostState} (servicing : state.engine = some .frame) :
      Step state .silent (state.setEngine none)

/-! ### What a run does to the shared state -/

/-- **The label of a step says what it does to the shared state.** -/
theorem Step.shared {first second : PioHostState} {effect : Effect} (step : Step first effect second) :
    second.shared = effect.apply first.shared := by
  cases step <;> rfl

theorem Run.shared {first last : PioHostState} {trace : List Effect}
    (run : Run Step first trace last) : last.shared = trace.foldl Effect.apply first.shared :=
  Run.observes PioHostState.shared Effect.apply Step.shared run

/-- The publications and reports of a trace. -/
def connections (trace : List Effect) : Nat := trace.countP Effect.isConnection

/-- The bus resets of a trace. -/
def resets (trace : List Effect) : Nat := trace.countP Effect.isReset

/-- How often a trace advances the reset generation. -/
def resetAdvances (trace : List Effect) : Nat := trace.countP Effect.advancesReset

theorem Step.connectionGeneration {first second : PioHostState} {effect : Effect}
    (step : Step first effect second) :
    second.shared.port.connectionGeneration =
      first.shared.port.connectionGeneration +
        UInt32.ofNat (if effect.isConnection then 1 else 0) := by
  rw [step.shared]
  cases effect <;> first | rfl | exact (UInt32.add_zero _).symm

theorem Step.resetGeneration {first second : PioHostState} {effect : Effect}
    (step : Step first effect second) :
    second.shared.port.resetGeneration =
      first.shared.port.resetGeneration +
        UInt32.ofNat (if effect.advancesReset then 1 else 0) := by
  rw [step.shared]
  cases effect <;> first | rfl | exact (UInt32.add_zero _).symm

variable {first last : PioHostState} {trace : List Effect}

/-- **The connection generation counts** publications and reports. -/
theorem connectionGeneration_run (run : Run Step first trace last) :
    last.shared.port.connectionGeneration =
      first.shared.port.connectionGeneration + UInt32.ofNat (connections trace) :=
  Run.counts (·.shared.port.connectionGeneration) Effect.isConnection Step.connectionGeneration run

/-- **The reset generation counts** resets and publications. -/
theorem resetGeneration_run (run : Run Step first trace last) :
    last.shared.port.resetGeneration =
      first.shared.port.resetGeneration + UInt32.ofNat (resetAdvances trace) :=
  Run.counts (·.shared.port.resetGeneration) Effect.advancesReset Step.resetGeneration run

end PioUsbHost.Host
