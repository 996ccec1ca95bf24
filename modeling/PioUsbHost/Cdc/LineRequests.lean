/-
**The line requests of a CDC-ACM function.**

`set_line_coding`, `get_line_coding`, `set_control_line_state` and `send_break` are one control
transfer each, to the control interface of the function. The device keeps what it is told in a register
each; a transfer may fail, or be dropped, with the device having taken its request or not.

* `run_spec`: what one request writes, and what it returns.
* `lineRequests_spec`: over any session, the registers hold what the requests leave possible, and a
  line coding that is read back is the one last set.
-/

import PioUsbHost.Cdc.Discovery
import PioUsbHost.Cdc.LineCoding
import PioUsbHost.Ftdi.Host
import PioUsbHost.Lib.Register
import PioUsbHost.Lib.Run

namespace PioUsbHost.Cdc

open PioUsbHost.Ftdi (SetupRequest)
open PioUsbHost.Lib PioUsbHost.Lib.Panic PioUsbHost.Lib.Register PioUsbHost.Usb

/-! ### Setup requests -/

/-- `SET_LINE_CODING`. -/
def cdcRequestSetLineCoding : UInt8 := 0x20

/-- `GET_LINE_CODING`. -/
def cdcRequestGetLineCoding : UInt8 := 0x21

/-- `SET_CONTROL_LINE_STATE`. -/
def cdcRequestSetControlLineState : UInt8 := 0x22

/-- `SEND_BREAK`. -/
def cdcRequestSendBreak : UInt8 := 0x23

/-- The capability bit of the first three. -/
def cdcAcmCapabilityLineRequests : UInt8 := 0x02

/-- The capability bit of the last. -/
def cdcAcmCapabilitySendBreak : UInt8 := 0x04

/-- `SetupRequest::set_control_line_state`. -/
def setControlLineStateSetup (controlInterface : UInt8) (dtr rts : Bool) : SetupRequest where
  requestType := 0x21
  request := cdcRequestSetControlLineState
  value := dtr.toUInt16 ||| rts.toUInt16 <<< 1
  index := controlInterface.toUInt16
  length := 0

/-- `SetupRequest::set_line_coding`. -/
def setLineCodingSetup (controlInterface : UInt8) : SetupRequest where
  requestType := 0x21
  request := cdcRequestSetLineCoding
  value := 0
  index := controlInterface.toUInt16
  length := 7

/-- `SetupRequest::get_line_coding`. -/
def getLineCodingSetup (controlInterface : UInt8) : SetupRequest where
  requestType := 0xa1
  request := cdcRequestGetLineCoding
  value := 0
  index := controlInterface.toUInt16
  length := 7

/-- `SetupRequest::send_break`. -/
def sendBreakSetup (controlInterface : UInt8) (durationMs : UInt16) : SetupRequest where
  requestType := 0x21
  request := cdcRequestSendBreak
  value := durationMs
  index := controlInterface.toUInt16
  length := 0

namespace CdcAcmFunction

/-- The device has declared line requests. -/
def supportsLineRequests (function : CdcAcmFunction) : Bool :=
  function.acmCapabilities &&& cdcAcmCapabilityLineRequests != 0

/-- The device has declared breaks. -/
def supportsSendBreak (function : CdcAcmFunction) : Bool :=
  function.acmCapabilities &&& cdcAcmCapabilitySendBreak != 0

end CdcAcmFunction

/-! ### The requests, over any control pipe -/

/-- The errors of the requests, `CdcAcmError`. -/
inductive LineRequestError where
  | transfer (error : PipeError)
  | lineRequestsUnsupported
  | sendBreakUnsupported
  | invalidLineCoding (error : CdcLineCodingError)
  deriving DecidableEq, Repr

/-- The control transfers of a pipe: `control_in` returns the bytes received. -/
structure ControlPipe (σ : Type) where
  controlIn : List UInt8 → Nat → σ → Call PipeError (List UInt8) × σ
  controlOut : List UInt8 → List UInt8 → σ → Call PipeError Unit × σ

section Requests

variable {σ α β : Type} (pipe : ControlPipe σ) (function : CdcAcmFunction)

/-- `transfer.await?`, into `CdcAcmError::Transfer`. -/
def transferred : Call PipeError α × σ → Call LineRequestError α × σ
  | (.returned result, state) => (.returned (convert .transfer result), state)
  | (.waiting, state) => (.waiting, state)

/-- The check that every line request but the break makes first. -/
def requireLineRequests : Checked LineRequestError Unit :=
  if function.supportsLineRequests then .ok () else fail .lineRequestsUnsupported

/-- Set baud rate, stop bits, parity and data bits. -/
def setLineCoding (coding : CdcLineCoding) (state : σ) : Call LineRequestError Unit × σ :=
  awaitThen (.returned (requireLineRequests function), state) fun _ state =>
  awaitThen (.returned (convert .invalidLineCoding coding.validate), state) fun _ state =>
  transferred (pipe.controlOut (setLineCodingSetup function.controlInterface).toBytes coding.toBytes
    state)

/-- Read the line coding currently selected by the device. -/
def getLineCoding (state : σ) : Call LineRequestError CdcLineCoding × σ :=
  awaitThen (.returned (requireLineRequests function), state) fun _ state =>
  awaitThen (transferred (pipe.controlIn (getLineCodingSetup function.controlInterface).toBytes
    CdcLineCoding.encodedLen state)) fun data state =>
  if data.length ≠ CdcLineCoding.encodedLen then
    (.returned (fail (.invalidLineCoding .invalidLength)), state)
  else (.returned (convert .invalidLineCoding (CdcLineCoding.fromBytes data)), state)

/-- Set the DTR and RTS control signals. -/
def setControlLineState (dtr rts : Bool) (state : σ) : Call LineRequestError Unit × σ :=
  awaitThen (.returned (requireLineRequests function), state) fun _ state =>
  transferred (pipe.controlOut (setControlLineStateSetup function.controlInterface dtr rts).toBytes []
    state)

/-- Start, stop or time a serial break condition. -/
def sendBreak (durationMs : UInt16) (state : σ) : Call LineRequestError Unit × σ :=
  if ¬ function.supportsSendBreak then (.returned (fail .sendBreakUnsupported), state)
  else transferred (pipe.controlOut (sendBreakSetup function.controlInterface durationMs).toBytes []
    state)

end Requests

/-! ### A session with a device -/

/-- What a request may set. -/
inductive LineRegister where
  | coding
  | controlState
  | breakTime
  deriving DecidableEq

/-- A function of a device, by what it has been told. -/
structure LineDevice where
  controlInterface : UInt8
  registers : LineRegister → List UInt8

/-- The register that a class request is for. -/
def LineRegister.ofRequest (request : UInt8) : Option LineRegister :=
  if request = cdcRequestSetLineCoding then some .coding
  else if request = cdcRequestSetControlLineState then some .controlState
  else if request = cdcRequestSendBreak then some .breakTime
  else none

namespace LineDevice

/-- The device after a request has written a register. -/
def store (device : LineDevice) (register : LineRegister) (contents : List UInt8) : LineDevice :=
  { device with registers := Function.update device.registers register contents }

/-- The device takes a request to its interface: a line coding is the data, anything else the value. -/
def take (device : LineDevice) (setup data : List UInt8) : LineDevice :=
  match setup with
  | [0x21, request, value0, value1, index0, index1, _, _] =>
    if u16FromLeBytes index0 index1 = device.controlInterface.toUInt16 then
      match LineRegister.ofRequest request with
      | some .coding => device.store .coding data
      | some register => device.store register [value0, value1]
      | none => device
    else device
  | _ => device

/-- The device answers with the line coding, when it is asked for its own. -/
def answer (device : LineDevice) (setup : List UInt8) : List UInt8 :=
  if setup = (getLineCodingSetup device.controlInterface).toBytes then device.registers .coding else []

end LineDevice

/-- What becomes of a control transfer, and whether the device has taken its request. -/
inductive TransferFate where
  | completes
  | fails (error : PipeError) (taken : Bool)
  | dropped (taken : Bool)

/-- Whether the device has done what it was asked. -/
def TransferFate.taken : TransferFate → Bool
  | completes => true
  | fails _ taken => taken
  | dropped taken => taken

/-- What the call makes of a transfer that would return the value. -/
def TransferFate.returns {α : Type} (value : Except PipeError α) : TransferFate → Call PipeError α
  | completes =>
    match value with
    | .ok value => .returned (.ok value)
    | .error error => .returned (fail error)
  | fails error _ => .returned (fail error)
  | dropped _ => .waiting

/-- The control pipe of the device. -/
def linePipe (fate : TransferFate) : ControlPipe LineDevice where
  controlIn setup length device := (fate.returns (receive length (.ok (device.answer setup))), device)
  controlOut setup data device :=
    (fate.returns (.ok ()), if fate.taken then device.take setup data else device)

/-- The four line requests of the host. -/
inductive LineRequest where
  | setLineCoding (coding : CdcLineCoding)
  | getLineCoding
  | setControlLineState (dtr rts : Bool)
  | sendBreak (durationMs : UInt16)
  deriving DecidableEq

namespace LineRequest

/-- The register that a request is to set. -/
def register : LineRequest → Option LineRegister
  | setLineCoding _ => some .coding
  | getLineCoding => none
  | setControlLineState _ _ => some .controlState
  | sendBreak _ => some .breakTime

/-- The bytes of a word on the wire. -/
def wordBytes (word : UInt16) : List UInt8 := [word.toUInt8, (word >>> 8).toUInt8]

/-- What the request puts into its register. -/
def contents : LineRequest → List UInt8
  | setLineCoding coding => coding.toBytes
  | getLineCoding => []
  | setControlLineState dtr rts => wordBytes (dtr.toUInt16 ||| rts.toUInt16 <<< 1)
  | sendBreak durationMs => wordBytes durationMs

/-- What is checked before anything is sent. -/
def check (function : CdcAcmFunction) : LineRequest → Checked LineRequestError Unit
  | setLineCoding coding => do
    requireLineRequests function
    convert .invalidLineCoding coding.validate
  | getLineCoding => requireLineRequests function
  | setControlLineState _ _ => requireLineRequests function
  | sendBreak _ => if function.supportsSendBreak then .ok () else fail .sendBreakUnsupported

/-- The setup packet of a request that sets a register, and the data behind it. -/
def setup (controlInterface : UInt8) : LineRequest → SetupRequest
  | setLineCoding _ => setLineCodingSetup controlInterface
  | getLineCoding => getLineCodingSetup controlInterface
  | setControlLineState dtr rts => setControlLineStateSetup controlInterface dtr rts
  | sendBreak durationMs => sendBreakSetup controlInterface durationMs

/-- The bytes of a request's data stage. -/
def payload : LineRequest → List UInt8
  | setLineCoding coding => coding.toBytes
  | _ => []

end LineRequest

/-- A request, and how its call has ended, or that it was dropped. -/
structure LineRecord where
  request : LineRequest
  result : Call LineRequestError (Option CdcLineCoding)

/-- The call, with a line coding that it returns. -/
def LineRequest.run {σ : Type} (pipe : ControlPipe σ) (function : CdcAcmFunction) (state : σ) :
    LineRequest → Call LineRequestError (Option CdcLineCoding) × σ
  | setLineCoding coding =>
    awaitThen (Cdc.setLineCoding pipe function coding state) fun _ state =>
      (.returned (.ok none), state)
  | getLineCoding =>
    awaitThen (Cdc.getLineCoding pipe function state) fun coding state =>
      (.returned (.ok (some coding)), state)
  | setControlLineState dtr rts =>
    awaitThen (Cdc.setControlLineState pipe function dtr rts state) fun _ state =>
      (.returned (.ok none), state)
  | sendBreak durationMs =>
    awaitThen (Cdc.sendBreak pipe function durationMs state) fun _ state =>
      (.returned (.ok none), state)

/-- One request of the session. -/
def LineStep (function : CdcAcmFunction) (first : LineDevice) (record : LineRecord)
    (last : LineDevice) : Prop :=
  ∃ fate, record.request.run (linePipe fate) function first = (record.result, last)

/-- What a request has written to a register, as its caller knows it. -/
def LineRecord.write (function : CdcAcmFunction) (register : LineRegister) (record : LineRecord) :
    Option (Write (List UInt8)) :=
  if record.request.register = some register ∧ record.request.check function = .ok () then
    match record.result with
    | .returned (.ok _) => some (.confirmed record.request.contents)
    | _ => some (.tried record.request.contents)
  else none

/-- The writes to a register. -/
def writes (function : CdcAcmFunction) (register : LineRegister) (trace : List LineRecord) :
    List (Write (List UInt8)) :=
  trace.filterMap (LineRecord.write function register)

/-! ### One request -/

section OneRequest

variable {σ : Type} {pipe : ControlPipe σ} {function : CdcAcmFunction} {state : σ}
  {request : LineRequest} {register : LineRegister} {fault : Fault LineRequestError}

/-- **A refused request** sends nothing. -/
theorem LineRequest.run_refused (refused : request.check function = .error fault) :
    request.run pipe function state = (.returned (.error fault), state) := by
  cases request with
  | setLineCoding coding =>
    show awaitThen (Cdc.setLineCoding pipe function coding state) _ = _
    unfold Cdc.setLineCoding
    cases line : requireLineRequests function with
    | error other =>
      have same : (.error other : Checked LineRequestError Unit) = .error fault := by
        rw [← refused, check, line]
        rfl
      cases same
      rfl
    | ok _ =>
      have invalid : convert .invalidLineCoding coding.validate = .error fault := by
        rw [← refused, check, line]
        rfl
      rw [invalid]
      rfl
  | getLineCoding =>
    show awaitThen (Cdc.getLineCoding pipe function state) _ = _
    unfold Cdc.getLineCoding
    rw [show requireLineRequests function = .error fault from refused]
    rfl
  | setControlLineState dtr rts =>
    show awaitThen (Cdc.setControlLineState pipe function dtr rts state) _ = _
    unfold Cdc.setControlLineState
    rw [show requireLineRequests function = .error fault from refused]
    rfl
  | sendBreak durationMs =>
    change (if function.supportsSendBreak then _ else _) = _ at refused
    show awaitThen (Cdc.sendBreak pipe function durationMs state) _ = _
    unfold Cdc.sendBreak
    by_cases supported : function.supportsSendBreak = true
    · rw [if_pos supported] at refused
      cases refused
    · rw [if_neg supported] at refused
      cases refused
      rw [if_pos supported]
      rfl

/-- **A request that sets a register** is one transfer to the control interface. -/
theorem LineRequest.run_sets (sets : request.register = some register)
    (checked : request.check function = .ok ()) :
    request.run pipe function state =
      awaitThen (transferred (pipe.controlOut (request.setup function.controlInterface).toBytes
        request.payload state)) fun _ state => (.returned (.ok none), state) := by
  cases request with
  | setLineCoding coding =>
    obtain ⟨_, line, valid⟩ := bind_eq_ok.mp checked
    show awaitThen (Cdc.setLineCoding pipe function coding state) _ = _
    unfold Cdc.setLineCoding
    rw [line, valid]
    rfl
  | getLineCoding => cases sets
  | setControlLineState dtr rts =>
    show awaitThen (Cdc.setControlLineState pipe function dtr rts state) _ = _
    unfold Cdc.setControlLineState
    rw [show requireLineRequests function = .ok () from checked]
    rfl
  | sendBreak durationMs =>
    change (if function.supportsSendBreak then _ else _) = _ at checked
    show awaitThen (Cdc.sendBreak pipe function durationMs state) _ = _
    unfold Cdc.sendBreak
    by_cases supported : function.supportsSendBreak = true
    · rw [if_neg (not_not_intro supported)]
      rfl
    · rw [if_neg supported] at checked
      cases checked

theorem interface_bytes (interface : UInt8) :
    u16FromLeBytes interface.toUInt16.toUInt8 (interface.toUInt16 >>> 8).toUInt8 =
      interface.toUInt16 :=
  u16FromLeBytes_bytes interface.toUInt16

/-- **The device takes the request** into its register. -/
theorem LineDevice.take_setup (device : LineDevice) (sets : request.register = some register) :
    device.take (request.setup device.controlInterface).toBytes request.payload =
      device.store register request.contents := by
  cases request with
  | setLineCoding coding =>
    cases sets
    exact if_pos (interface_bytes device.controlInterface)
  | getLineCoding => cases sets
  | setControlLineState dtr rts =>
    cases sets
    exact if_pos (interface_bytes device.controlInterface)
  | sendBreak durationMs =>
    cases sets
    exact if_pos (interface_bytes device.controlInterface)

end OneRequest

/-! ### Sessions -/

section Session

variable {function : CdcAcmFunction} {first last : LineDevice} {record : LineRecord}
  {register : LineRegister} {trace : List LineRecord} {held : Set (List UInt8)}

/-- What a request that is sent makes of the device, and what its caller then knows. -/
theorem LineStep.sets (step : LineStep function first record last)
    (own : first.controlInterface = function.controlInterface)
    (sets : record.request.register = some register)
    (checked : record.request.check function = .ok ()) :
    record.result = .returned (.ok none) ∧ last = first.store register record.request.contents ∨
      (∀ value, record.result ≠ .returned (.ok value)) ∧
        (last = first.store register record.request.contents ∨ last = first) := by
  obtain ⟨fate, ran⟩ := step
  rw [LineRequest.run_sets sets checked, ← own] at ran
  change awaitThen (transferred (fate.returns (.ok ()), if fate.taken then first.take
    (record.request.setup first.controlInterface).toBytes record.request.payload
    else first)) _ = _ at ran
  rw [first.take_setup sets] at ran
  cases fate with
  | completes =>
    obtain ⟨result, device⟩ := Prod.mk.inj ran
    exact Or.inl ⟨result.symm, device.symm⟩
  | fails error taken =>
    obtain ⟨result, device⟩ := Prod.mk.inj ran
    refine Or.inr ⟨fun value same => (nomatch result.trans same), ?_⟩
    cases taken with
    | true => exact Or.inl device.symm
    | false => exact Or.inr device.symm
  | dropped taken =>
    obtain ⟨result, device⟩ := Prod.mk.inj ran
    refine Or.inr ⟨fun value same => (nomatch result.trans same), ?_⟩
    cases taken with
    | true => exact Or.inl device.symm
    | false => exact Or.inr device.symm

/-- **A line coding that is read back** is the one that the device has. -/
theorem LineStep.reads (step : LineStep function first record last)
    (own : first.controlInterface = function.controlInterface)
    (asks : record.request = .getLineCoding) :
    last = first ∧ ∀ coding, record.result = .returned (.ok (some coding)) →
      first.registers .coding = coding.toBytes ∧ coding.validate = .ok () := by
  obtain ⟨fate, ran⟩ := step
  rw [asks] at ran
  change awaitThen (getLineCoding _ _ _) _ = _ at ran
  unfold getLineCoding at ran
  cases supported : requireLineRequests function with
  | error fault =>
    rw [supported] at ran
    obtain ⟨result, device⟩ := Prod.mk.inj ran
    exact ⟨device.symm, fun coding same => (nomatch result.trans same)⟩
  | ok _ =>
    rw [supported, ← own] at ran
    change awaitThen (awaitThen (transferred (fate.returns (receive 7 (.ok (first.answer _))), first))
      _) _ = _ at ran
    rw [show first.answer (getLineCodingSetup first.controlInterface).toBytes = first.registers .coding
      from if_pos rfl] at ran
    cases fate with
    | fails error taken =>
      obtain ⟨result, device⟩ := Prod.mk.inj ran
      exact ⟨device.symm, fun coding same => (nomatch result.trans same)⟩
    | dropped taken =>
      obtain ⟨result, device⟩ := Prod.mk.inj ran
      exact ⟨device.symm, fun coding same => (nomatch result.trans same)⟩
    | completes =>
      cases received : receive 7 (.ok (first.registers .coding)) with
      | error error =>
        rw [received] at ran
        obtain ⟨result, device⟩ := Prod.mk.inj ran
        exact ⟨device.symm, fun coding same => (nomatch result.trans same)⟩
      | ok data =>
        cases (receive_eq_ok.mp received).1
        rw [received] at ran
        change awaitThen (if (first.registers .coding).length ≠ CdcLineCoding.encodedLen then _
          else _) _ = _ at ran
        by_cases seven : (first.registers .coding).length ≠ CdcLineCoding.encodedLen
        · rw [if_pos seven] at ran
          obtain ⟨result, device⟩ := Prod.mk.inj ran
          exact ⟨device.symm, fun coding same => (nomatch result.trans same)⟩
        · rw [if_neg seven] at ran
          cases parsed : CdcLineCoding.fromBytes (first.registers .coding) with
          | error fault =>
            rw [parsed] at ran
            cases fault with
            | _ =>
              obtain ⟨result, device⟩ := Prod.mk.inj ran
              exact ⟨device.symm, fun coding same => (nomatch result.trans same)⟩
          | ok found =>
            rw [parsed] at ran
            obtain ⟨result, device⟩ := Prod.mk.inj ran
            refine ⟨device.symm, fun coding same => ?_⟩
            cases result.trans same
            exact CdcLineCoding.fromBytes_eq_ok.mp parsed

/-- Any other request leaves the device alone. -/
theorem LineStep.keeps (step : LineStep function first record last)
    (own : first.controlInterface = function.controlInterface)
    (other : record.request.register = none ∨ record.request.check function ≠ .ok ()) :
    last = first := by
  by_cases checked : record.request.check function = .ok ()
  · have none := other.resolve_right (not_not_intro checked)
    refine (step.reads own ?_).1
    cases asks : record.request with
    | getLineCoding => rfl
    | _ => rw [asks] at none; cases none
  · obtain ⟨fate, ran⟩ := step
    cases refused : record.request.check function with
    | error fault =>
      rw [LineRequest.run_refused refused] at ran
      exact (Prod.mk.inj ran).2.symm
    | ok _ => exact absurd refused checked

/-- Whatever becomes of it, a request changes no register but its own. -/
theorem LineStep.untouched (step : LineStep function first record last)
    (own : first.controlInterface = function.controlInterface)
    (other : ¬ (record.request.register = some register ∧ record.request.check function = .ok ())) :
    last.registers register = first.registers register := by
  by_cases checked : record.request.check function = .ok ()
  · cases sets : record.request.register with
    | none => rw [step.keeps own (Or.inl sets)]
    | some written =>
      have different : register ≠ written := fun same => other ⟨same ▸ sets, checked⟩
      have stored : (first.store written record.request.contents).registers register =
          first.registers register := Function.update_of_ne different _ _
      rcases step.sets own sets checked with ⟨-, rfl⟩ | ⟨-, rfl | rfl⟩
      · exact stored
      · exact stored
      · rfl
  · rw [step.keeps own (Or.inr checked)]

/-- **What a request may have left** in a register. -/
theorem LineStep.leaves (step : LineStep function first record last)
    (own : first.controlInterface = function.controlInterface)
    (inside : first.registers register ∈ held) :
    last.registers register ∈ possible held (record.write function register).toList := by
  unfold LineRecord.write
  by_cases written : record.request.register = some register ∧ record.request.check function = .ok ()
  · rw [if_pos written]
    have stored : (first.store register record.request.contents).registers register =
        record.request.contents := Function.update_self _ _ _
    rcases step.sets own written.1 written.2 with ⟨result, rfl⟩ | ⟨unknown, made⟩
    · rw [result]
      exact @Write.leaves_sound _ _ _ _ (.confirmed _) inside stored
    · have tried : last.registers register = record.request.contents ∨
          last.registers register = first.registers register := by
        rcases made with rfl | rfl
        · exact Or.inl stored
        · exact Or.inr rfl
      cases result : record.result with
      | waiting => exact @Write.leaves_sound _ _ _ _ (.tried _) inside tried
      | returned outcome =>
        cases outcome with
        | ok value => exact absurd result (unknown value)
        | error fault => exact @Write.leaves_sound _ _ _ _ (.tried _) inside tried
  · rw [if_neg written, step.untouched own written]
    exact inside

theorem LineStep.interface (step : LineStep function first record last)
    (own : first.controlInterface = function.controlInterface) :
    last.controlInterface = function.controlInterface := by
  by_cases checked : record.request.check function = .ok ()
  · cases sets : record.request.register with
    | none => rw [step.keeps own (Or.inl sets), own]
    | some written =>
      rcases step.sets own sets checked with ⟨-, rfl⟩ | ⟨-, rfl | rfl⟩
      · exact own
      · exact own
      · exact own
  · rw [step.keeps own (Or.inr checked), own]

theorem writes_cons (record : LineRecord) (trace : List LineRecord) :
    writes function register (record :: trace) =
      (record.write function register).toList ++ writes function register trace := by
  unfold writes
  rw [List.filterMap_cons]
  cases record.write function register with
  | none => rfl
  | some write => rfl

/-- **What a session may have left**, by induction on its requests. -/
theorem LineStep.run (run : Run (LineStep function) first trace last)
    (own : first.controlInterface = function.controlInterface)
    (inside : first.registers register ∈ held) :
    last.controlInterface = function.controlInterface ∧
      last.registers register ∈ possible held (writes function register trace) := by
  induction run generalizing held with
  | nil => exact ⟨own, inside⟩
  | @cons first second last record trace step rest ih =>
    rw [writes_cons, possible_append]
    exact ih (step.interface own) (step.leaves own inside)

/-- A request that its checks refuse returns what they say. -/
theorem LineStep.refused (step : LineStep function first record last) {fault : Fault LineRequestError}
    (checked : record.request.check function = .error fault) :
    record.result = .returned (.error fault) := by
  obtain ⟨fate, ran⟩ := step
  rw [LineRequest.run_refused checked] at ran
  exact (Prod.mk.inj ran).1.symm

/-- A line coding that has been set, as its caller knows it. -/
theorem LineStep.confirmed {set : CdcLineCoding} {value : Option CdcLineCoding}
    (step : LineStep function first ⟨.setLineCoding set, .returned (.ok value)⟩ last) :
    LineRecord.write function .coding ⟨.setLineCoding set, .returned (.ok value)⟩ =
      some (.confirmed set.toBytes) := by
  cases checked : (LineRequest.setLineCoding set).check function with
  | error fault => exact nomatch step.refused checked
  | ok _ => exact if_pos ⟨rfl, checked⟩

/-- A function with line requests and no breaks, on interface 2. -/
def lineFunction : CdcAcmFunction where
  configuration := ⟨75, 4, 1, 0, 0x80, 100⟩
  controlInterface := 2
  dataInterface := 3
  cdcVersionBcd := 0x0110
  acmCapabilities := 2
  notificationEndpoint := none
  bulkOutEndpoint := ⟨2, 2, 64, 0⟩
  bulkInEndpoint := ⟨0x82, 2, 64, 0⟩

/-- It has been told nothing. -/
def newDevice : LineDevice where
  controlInterface := 2
  registers _ := []

/-- A coding is set by a call that is dropped; another is set, and is read back. -/
def setAgain : List LineRecord :=
  [⟨.setLineCoding (.eightNOne 9600), .waiting⟩,
    ⟨.setLineCoding (.eightNOne 115200), .returned (.ok none)⟩,
    ⟨.setControlLineState true false, .returned (fail (.transfer .timeout))⟩,
    ⟨.sendBreak 100, .returned (fail .sendBreakUnsupported)⟩,
    ⟨.getLineCoding, .returned (.ok (some (.eightNOne 115200)))⟩]

theorem setAgain_run : ∃ last, Run (LineStep lineFunction) newDevice setAgain last :=
  ⟨_, .cons ⟨.dropped true, rfl⟩ (.cons ⟨.completes, rfl⟩ (.cons ⟨.fails .timeout true, rfl⟩
    (.cons ⟨.completes, rfl⟩ (.single ⟨.completes, rfl⟩))))⟩

/-- **Line requests.** In any session of requests on a function, whatever becomes of their transfers, a
register of the device holds a value that the requests leave possible. A line coding that is read back
is valid and is what the device has at that point of the session: it is the one last set, if that call has
returned and no call behind it was sent. A request that the function does not support, or that is not
valid, is refused; and the bytes that are accepted are those that a valid coding is sent as. -/
theorem lineRequests_spec (run : Run (LineStep function) first trace last)
    (own : first.controlInterface = function.controlInterface) :
    (∀ register, last.registers register ∈
        possible {first.registers register} (writes function register trace)) ∧
      (∀ before coding after,
        trace = before ++ ⟨.getLineCoding, .returned (.ok (some coding))⟩ :: after →
          coding.validate = .ok () ∧
            (∃ device, Run (LineStep function) first before device ∧
              device.registers .coding = coding.toBytes ∧
                Run (LineStep function) device
                  (⟨.getLineCoding, .returned (.ok (some coding))⟩ :: after) last) ∧
            coding.toBytes ∈ possible {first.registers .coding} (writes function .coding before) ∧
            ∀ early set middle, before = early ++ ⟨.setLineCoding set, .returned (.ok none)⟩ :: middle →
              writes function .coding middle = [] → coding = set) ∧
      (∀ record ∈ trace, ∀ fault, record.request.check function = .error fault →
        record.result = .returned (.error fault)) ∧
      ∀ bytes coding, CdcLineCoding.fromBytes bytes = .ok coding ↔
        bytes = coding.toBytes ∧ coding.validate = .ok () := by
  refine ⟨fun register => (LineStep.run run own (Set.mem_singleton _)).2, ?_, ?_,
    fun bytes coding => CdcLineCoding.fromBytes_eq_ok⟩
  · rintro before coding after rfl
    obtain ⟨second, third, earlier, step, later⟩ := run.around
    obtain ⟨interface, inside⟩ := @LineStep.run _ _ _ .coding _ _ earlier own (Set.mem_singleton _)
    obtain ⟨-, read⟩ := step.reads interface rfl
    obtain ⟨held, valid⟩ := read coding rfl
    rw [held] at inside
    refine ⟨valid, ⟨second, earlier, held, .cons step later⟩, inside, ?_⟩
    rintro early set middle rfl quiet
    obtain ⟨_, _, -, sets, -⟩ := earlier.around
    have history : writes function .coding
        (early ++ ⟨.setLineCoding set, .returned (.ok none)⟩ :: middle) =
          writes function .coding early ++ [.confirmed set.toBytes] := by
      have one := @writes_cons function .coding ⟨.setLineCoding set, .returned (.ok none)⟩ middle
      rw [sets.confirmed, quiet] at one
      unfold writes at one ⊢
      rw [List.filterMap_append, one]
      rfl
    rw [history, possible_confirmed] at inside
    exact CdcLineCoding.toBytes_injective inside
  · intro record among fault checked
    obtain ⟨before, after, rfl⟩ := List.append_of_mem among
    obtain ⟨_, _, -, step, -⟩ := run.around
    exact step.refused checked

/-- The dropped call does not show, and the failed one leaves two states possible. -/
theorem lineRequests_spec_setAgain : ∃ last, Run (LineStep lineFunction) newDevice setAgain last ∧
    last.registers .coding ∈ possible {[]} (writes lineFunction .coding setAgain) ∧
      last.registers .controlState ∈ possible {[]} [.tried [1, 0]] := by
  obtain ⟨last, run⟩ := setAgain_run
  obtain ⟨registers, -⟩ := lineRequests_spec run rfl
  exact ⟨last, run, registers .coding, registers .controlState⟩

end Session

end PioUsbHost.Cdc
