/-
**Control transfers of the packet engine.**

`Rp2040PioEngine::control_in` and `control_out`: a SETUP stage, a data stage and a status stage, each
a loop around one call of `out_once` or `in_once`. What the wire makes of a call, and whether the
deadline has passed then, is an input; the checks of the two routines on their arguments are not.

* `WireCall.Passes`: the arguments of a call pass those checks.
* `ControlIn.transfer`, `ControlOut.transfer`: the two transfers, from one call to the next.
* `Transfer.forall_calls`: what every call of a transfer satisfies, wherever it ends.
-/

import PioUsbHost.Pipe.Engine

namespace PioUsbHost.Pipe

open PioUsbHost.Usb PioUsbHost.Host PioUsbHost.Rx PioUsbHost.Lib.Panic

/-! ### Calls -/

/-- A call of `out_once` or of `in_once`, with the arguments that they check. -/
inductive WireCall where
  | out (tokenPid dataPid : UInt8) (payload : List UInt8)
  | receive (expectedPid : UInt8) (maxPayloadLen : Nat)
  deriving DecidableEq, Repr

/-- What a call meets: the wait for the frame, the wire, the payload array after it, and whether the
deadline of the transfer has passed. -/
structure WireReply where
  frame : Except PipeError Unit
  response : Except PipeError OutResponse
  received : Except PipeError InReceiveResult
  packet : List UInt8
  late : Bool

/-- What `out_once` returns. -/
def outReturns (dataPid : UInt8) (payload : List UInt8) (reply : WireReply) :
    Except PipeError OutResponse :=
  match reply.frame, rawDataPacket dataPid payload with
  | .error error, _ => .error error
  | .ok (), .error _ => .error .bufferOverflow
  | .ok (), .ok _ => reply.response

/-- What `in_once` returns. -/
def inReturns (target : PipeTarget) (expectedPid : UInt8) (maxPayloadLen : Nat)
    (reply : WireReply) : Except PipeError InReceiveResult :=
  match reply.frame, checkReceive target expectedPid maxPayloadLen packetArray with
  | .error error, _ => .error error
  | .ok (), .error error => .error error
  | .ok (), .ok () => reply.received

/-- The arguments of the call pass the checks of `RawDataPacket::new`, or those of `in_once`. -/
def WireCall.Passes (target : PipeTarget) : WireCall → Prop
  | .out _ dataPid payload => ∃ bytes, rawDataPacket dataPid payload = .ok bytes
  | .receive expectedPid maxPayloadLen =>
    checkReceive target expectedPid maxPayloadLen packetArray = .ok ()

/-- The bytes that the call hands down. -/
def WireCall.payload : WireCall → List UInt8
  | .out _ _ payload => payload
  | .receive _ _ => []

theorem passes_out {target : PipeTarget} {tokenPid dataPid : UInt8} {payload : List UInt8}
    (isData : isDataPid dataPid = true) (small : payload.length ≤ 100) :
    (WireCall.out tokenPid dataPid payload).Passes target :=
  ⟨_, rawDataPacket_eq_ok.mpr ⟨isData, small, rfl⟩⟩

theorem passes_receive {target : PipeTarget} {expectedPid : UInt8} {maxPayloadLen : Nat}
    (bounded : target.maxPacketSize ≤ 100) (isData : isDataPid expectedPid = true)
    (small : maxPayloadLen ≤ target.maxPacketSize) :
    (WireCall.receive expectedPid maxPayloadLen).Passes target := by
  have fits : ¬ target.maxPacketSize > packetArray.length := Nat.not_lt.mpr bounded
  simp only [WireCall.Passes, checkReceive, if_neg fits, isData, Bool.not_true, Bool.false_or,
    decide_eq_true_eq, if_neg (Nat.not_lt.mpr small)]

/-! ### Transfers -/

/-- A loop around calls: the call of a state, and what follows its reply. -/
structure Transfer (σ α : Type) where
  call : σ → WireCall
  after : σ → WireReply → Next σ α

namespace Transfer

variable {σ α : Type} (transfer : Transfer σ α)

/-- The calls of a transfer, one reply after the other, and how it ends. Without a reply left, it
waits in its last call. -/
def run : List WireReply → σ → List WireCall × Call PipeError α
  | [], state => ([transfer.call state], .waiting)
  | reply :: rest, state =>
    match transfer.after state reply with
    | .returned result => ([transfer.call state], .returned result)
    | .again next =>
      let (calls, outcome) := run rest next
      (transfer.call state :: calls, outcome)

variable {transfer}

/-- **What holds of every call** of a transfer whose states keep an invariant. -/
theorem forall_calls (Inv : σ → Prop) {Pre : WireCall → Prop}
    (calls : ∀ state, Inv state → Pre (transfer.call state))
    (steps : ∀ state reply next, Inv state → transfer.after state reply = .again next → Inv next)
    {state : σ} (holds : Inv state) (replies : List WireReply) :
    ∀ call ∈ (transfer.run replies state).1, Pre call := by
  induction replies generalizing state with
  | nil =>
    intro call member
    rw [List.mem_singleton.mp member]
    exact calls state holds
  | cons reply rest ih =>
    rw [run]
    cases after : transfer.after state reply with
    | returned result =>
      intro call member
      rw [List.mem_singleton.mp member]
      exact calls state holds
    | again next =>
      intro call member
      rcases List.mem_cons.mp member with rfl | later
      · exact calls state holds
      · exact ih (steps state reply next holds after) call later

end Transfer

/-! ### The SETUP stage -/

/-- `CONTROL_SETUP_BAD_RESPONSE_RETRY_LIMIT`. -/
def controlSetupBadResponseRetryLimit : Nat := 3

/-- `CONTROL_SETUP_NO_RESPONSE_RETRY_LIMIT`. -/
def controlSetupNoResponseRetryLimit : Nat := 16

/-- `setup_data_packet`. -/
def setupDataPacket (setup : Vector UInt8 8) : List UInt8 :=
  [sync, pidData0] ++ setup.toList ++
    [(crc16Data setup.toList).toUInt8, (crc16Data setup.toList >>> 8).toUInt8]

/-- `&setup_packet[2..10]`. -/
def setupPayload (setup : Vector UInt8 8) : List UInt8 := ((setupDataPacket setup).drop 2).take 8

/-- `u16::from_le_bytes([setup[6], setup[7]]) as usize`. -/
def requestedLength (setup : Vector UInt8 8) : Nat := (u16FromLeBytes setup[6] setup[7]).toNat

/-- The attempts of the SETUP stage. -/
structure SetupAttempts where
  badResponse : Nat := 0
  noResponse : Nat := 0
  deriving DecidableEq, Repr

/-- The `match` of `control_setup_stage`. -/
def afterSetup (attempts : SetupAttempts) (late : Bool) :
    Except PipeError OutResponse → Next SetupAttempts Unit
  | .ok .ack => .returned (.ok ())
  | .ok .nak => if late then .returned (fail .timeout) else .again { attempts with noResponse := 0 }
  | .ok .noResponse =>
    let noResponse := min (attempts.noResponse + 1) 255
    if noResponse ≥ controlSetupNoResponseRetryLimit ∨ late then .returned (fail .timeout)
    else .again { attempts with noResponse }
  | .error .badResponse =>
    let badResponse := attempts.badResponse + 1
    if badResponse ≥ controlSetupBadResponseRetryLimit ∨ late then .returned (fail .badResponse)
    else .again { attempts with badResponse }
  | .error error => .returned (fail error)

/-! ### IN transfers -/

/-- Where `control_in` stands. -/
inductive ControlInStage where
  | setup (attempts : SetupAttempts)
  | data
  | status
  deriving DecidableEq, Repr

/-- The arguments and the variables of `control_in`. -/
structure ControlIn where
  target : PipeTarget
  setup : Vector UInt8 8
  stage : ControlInStage
  buffer : List UInt8
  received : Nat
  expected : DataToggle

/-- `checked_control_in_packet_end`; a sum that overflows is more than what was requested. -/
def checkedControlInPacketEnd (received packetLen requested : Nat) : Option Nat :=
  if received + packetLen ≤ requested then some (received + packetLen) else none

namespace ControlIn

/-- The bytes requested by the SETUP packet. -/
def requested (transfer : ControlIn) : Nat := requestedLength transfer.setup

/-- `control_in`, up to its first call. -/
def start (target : PipeTarget) (setup : Vector UInt8 8) (buffer : List UInt8) :
    Except PipeError ControlIn :=
  if target.endpoint.epType ≠ .control ∨ target.endpoint.index ≠ 0 ∨ setup[0] &&& 0x80 = 0 then
    .error .badResponse
  else if requestedLength setup > buffer.length then .error .bufferOverflow
  else
    .ok { target, setup, stage := .setup {}, buffer, received := 0, expected := .data1 }

/-- A transfer starts on control endpoints only. -/
theorem epType_of_start {target : PipeTarget} {setup : Vector UInt8 8} {buffer : List UInt8}
    {transfer : ControlIn} (started : start target setup buffer = .ok transfer) :
    target.endpoint.epType = .control := by
  rw [start] at started
  split at started
  · cases started
  next accepted =>
    rw [not_or, Decidable.not_not] at accepted
    exact accepted.1

/-- The call of a stage. -/
def call (transfer : ControlIn) : WireCall :=
  match transfer.stage with
  | .setup _ => .out pidSetup pidData0 (setupPayload transfer.setup)
  | .data => .receive transfer.expected.pid transfer.target.maxPacketSize
  | .status => .out pidOut pidData1 []

/-- `while received < requested`. -/
def dataOrStatus (transfer : ControlIn) : ControlInStage :=
  if transfer.received < transfer.requested then .data else .status

/-- `buffer[received..end].copy_from_slice(&packet[..packet_len])`. -/
def copy (transfer : ControlIn) (stop len : Nat) (packet : List UInt8) :
    Checked PipeError (List UInt8) := do
  let place ← slice transfer.buffer transfer.received stop
  let bytes ← slice packet 0 len
  if place.length = bytes.length then .ok (overwrite transfer.buffer transfer.received bytes)
  else .error .panic

/-- An accepted packet. -/
def accept (transfer : ControlIn) (len : Nat) (packet : List UInt8) :
    Next ControlIn (List UInt8 × Nat) :=
  match checkedControlInPacketEnd transfer.received len transfer.requested with
  | none => .returned (fail .badResponse)
  | some stop =>
    match transfer.copy stop len packet with
    | .error fault => .returned (.error fault)
    | .ok buffer =>
      let next :=
        { transfer with buffer, received := stop, expected := transfer.expected.afterAck }
      .again { next with
        stage := if len < transfer.target.maxPacketSize then .status else next.dataOrStatus }

/-- What follows a reply. -/
def after (transfer : ControlIn) (reply : WireReply) : Next ControlIn (List UInt8 × Nat) :=
  match transfer.stage with
  | .setup attempts =>
    match afterSetup attempts reply.late
        (outReturns pidData0 (setupPayload transfer.setup) reply) with
    | .again attempts => .again { transfer with stage := .setup attempts }
    | .returned (.error fault) => .returned (.error fault)
    | .returned (.ok ()) => .again { transfer with stage := transfer.dataOrStatus }
  | .data =>
    match inReturns transfer.target transfer.expected.pid transfer.target.maxPacketSize reply with
    | .error error => .returned (fail error)
    | .ok (.data len) => transfer.accept len.toNat reply.packet
    | .ok .stall => .returned (fail .stall)
    | .ok .invalidPacket => .returned (fail .badResponse)
    | .ok (.unexpectedToggle _) | .ok .nak | .ok .noResponse =>
      if reply.late then .returned (fail .timeout) else .again transfer
  | .status =>
    match outReturns pidData1 [] reply with
    | .error error => .returned (fail error)
    | .ok .ack => .returned (.ok (transfer.buffer, transfer.received))
    | .ok .nak | .ok .noResponse =>
      if reply.late then .returned (fail .timeout) else .again transfer

/-- `control_in`. -/
def transfer : Transfer ControlIn (List UInt8 × Nat) := { call, after }

end ControlIn

/-! ### OUT transfers -/

/-- Where `control_out` stands. -/
inductive ControlOutStage where
  | setup (attempts : SetupAttempts)
  | data (remaining : List UInt8) (toggle : DataToggle)
  | status
  deriving DecidableEq, Repr

/-- The arguments and the variables of `control_out`. -/
structure ControlOut where
  target : PipeTarget
  setup : Vector UInt8 8
  stage : ControlOutStage
  data : List UInt8

namespace ControlOut

/-- `control_out`, up to its first call. -/
def start (target : PipeTarget) (setup : Vector UInt8 8) (data : List UInt8) :
    Except PipeError ControlOut :=
  if target.endpoint.epType ≠ .control ∨ target.endpoint.index ≠ 0 ∨ setup[0] &&& 0x80 ≠ 0 then
    .error .badResponse
  else if requestedLength setup ≠ data.length then .error .bufferOverflow
  else .ok { target, setup, stage := .setup {}, data }

/-- A transfer starts on control endpoints only. -/
theorem epType_of_start {target : PipeTarget} {setup : Vector UInt8 8} {data : List UInt8}
    {transfer : ControlOut} (started : start target setup data = .ok transfer) :
    target.endpoint.epType = .control := by
  rw [start] at started
  split at started
  · cases started
  next accepted =>
    rw [not_or, Decidable.not_not] at accepted
    exact accepted.1

/-- The call of a stage; a data stage sends the first chunk of what remains. -/
def call (transfer : ControlOut) : WireCall :=
  match transfer.stage with
  | .setup _ => .out pidSetup pidData0 (setupPayload transfer.setup)
  | .data remaining toggle => .out pidOut toggle.pid (remaining.take transfer.target.maxPacketSize)
  | .status => .receive pidData1 0

/-- The loop over the chunks, at the next one. -/
def dataOrStatus (remaining : List UInt8) (toggle : DataToggle) : ControlOutStage :=
  if remaining = [] then .status else .data remaining toggle

/-- What follows a reply. `chunks` panics on a packet size of zero. -/
def after (transfer : ControlOut) (reply : WireReply) : Next ControlOut Unit :=
  match transfer.stage with
  | .setup attempts =>
    match afterSetup attempts reply.late
        (outReturns pidData0 (setupPayload transfer.setup) reply) with
    | .again attempts => .again { transfer with stage := .setup attempts }
    | .returned (.error fault) => .returned (.error fault)
    | .returned (.ok ()) =>
      if transfer.target.maxPacketSize = 0 then .returned (.error .panic)
      else .again { transfer with stage := dataOrStatus transfer.data .data1 }
  | .data remaining toggle =>
    match outReturns toggle.pid (remaining.take transfer.target.maxPacketSize) reply with
    | .error error => .returned (fail error)
    | .ok .ack =>
      .again { transfer with
        stage := dataOrStatus (remaining.drop transfer.target.maxPacketSize) toggle.afterAck }
    | .ok .nak | .ok .noResponse =>
      if reply.late then .returned (fail .timeout) else .again transfer
  | .status =>
    match inReturns transfer.target pidData1 0 reply with
    | .error error => .returned (fail error)
    | .ok (.data len) => .returned (if len = 0 then .ok () else fail .badResponse)
    | .ok .stall => .returned (fail .stall)
    | .ok .invalidPacket => .returned (fail .badResponse)
    | .ok (.unexpectedToggle _) | .ok .nak | .ok .noResponse =>
      if reply.late then .returned (fail .timeout) else .again transfer

/-- `control_out`. -/
def transfer : Transfer ControlOut Unit := { call, after }

end ControlOut

/-! ### What the calls hand down -/

theorem setupPayload_eq (setup : Vector UInt8 8) : setupPayload setup = setup.toList := by
  have long : setup.toList.length = 8 := setup.length_toList
  rw [setupPayload, setupDataPacket, List.append_assoc]
  exact List.take_left' long

/-- The target is an argument of the transfer. -/
theorem ControlIn.after_target {state next : ControlIn} {reply : WireReply}
    (step : state.after reply = .again next) : next.target = state.target := by
  unfold ControlIn.after at step
  split at step
  next attempts =>
    split at step
    · cases step
      rfl
    · cases step
    · cases step
      rfl
  next =>
    split at step
    · cases step
    next len =>
      unfold ControlIn.accept at step
      split at step
      · cases step
      · split at step
        · cases step
        · cases step
          rfl
    · cases step
    · cases step
    all_goals
      split at step
      · cases step
      · cases step
        rfl
  next =>
    split at step
    · cases step
    · cases step
    all_goals
      split at step
      · cases step
      · cases step
        rfl

theorem ControlOut.after_target {state next : ControlOut} {reply : WireReply}
    (step : state.after reply = .again next) : next.target = state.target := by
  unfold ControlOut.after at step
  split at step
  next attempts =>
    split at step
    · cases step
      rfl
    · cases step
    · split at step
      · cases step
      · cases step
        rfl
  next remaining toggle =>
    split at step
    · cases step
    · cases step
      rfl
    all_goals
      split at step
      · cases step
      · cases step
        rfl
  next =>
    split at step
    · cases step
    · cases step
    · cases step
    · cases step
    all_goals
      split at step
      · cases step
      · cases step
        rfl

/-- What a control endpoint relies on: the call passes the checks, and fits its packet size. -/
structure Fits (target : PipeTarget) (call : WireCall) : Prop where
  passes : call.Passes target
  small : call.payload.length ≤ max 8 target.maxPacketSize

section Fits

variable {target : PipeTarget}

theorem fits_setup (setup : Vector UInt8 8) :
    Fits target (.out pidSetup pidData0 (setupPayload setup)) := by
  have long : setup.toList.length = 8 := setup.length_toList
  rw [setupPayload_eq]
  refine ⟨passes_out rfl (by omega), ?_⟩
  show setup.toList.length ≤ _
  omega

theorem fits_status : Fits target (.out pidOut pidData1 []) :=
  ⟨passes_out rfl (Nat.zero_le _), Nat.zero_le _⟩

theorem fits_receive (bounded : target.maxPacketSize ≤ 100) {expectedPid : UInt8}
    {maxPayloadLen : Nat} (isData : isDataPid expectedPid = true)
    (small : maxPayloadLen ≤ target.maxPacketSize) :
    Fits target (.receive expectedPid maxPayloadLen) :=
  ⟨passes_receive bounded isData small, Nat.zero_le _⟩

/-- **Every call of an IN transfer** passes its checks. -/
theorem ControlIn.fits_calls (bounded : target.maxPacketSize ≤ 100) {setup : Vector UInt8 8}
    {buffer : List UInt8} {state : ControlIn} (started : start target setup buffer = .ok state)
    (replies : List WireReply) : ∀ call ∈ (transfer.run replies state).1, Fits target call := by
  refine Transfer.forall_calls (fun state : ControlIn => state.target = target) ?_ ?_ ?_ replies
  · rintro state rfl
    show Fits state.target state.call
    unfold ControlIn.call
    split
    · exact fits_setup _
    · exact fits_receive bounded (DataToggle.isDataPid_pid _) (Nat.le_refl _)
    · exact fits_status
  · rintro state reply next rfl step
    exact ControlIn.after_target step
  · unfold ControlIn.start at started
    split at started
    · cases started
    · split at started
      · cases started
      · cases started
        rfl

/-- **Every call of an OUT transfer** passes its checks, and its data packets are of the endpoint's
size. -/
theorem ControlOut.fits_calls (bounded : target.maxPacketSize ≤ 100) {setup : Vector UInt8 8}
    {data : List UInt8} {state : ControlOut} (started : start target setup data = .ok state)
    (replies : List WireReply) : ∀ call ∈ (transfer.run replies state).1, Fits target call := by
  refine Transfer.forall_calls (fun state : ControlOut => state.target = target) ?_ ?_ ?_ replies
  · rintro state rfl
    show Fits state.target state.call
    unfold ControlOut.call
    split
    · exact fits_setup _
    next remaining toggle _ =>
      have short : (remaining.take state.target.maxPacketSize).length ≤ state.target.maxPacketSize :=
        List.length_take_le _ _
      refine ⟨passes_out (DataToggle.isDataPid_pid _) (Nat.le_trans short bounded), ?_⟩
      exact Nat.le_trans short (Nat.le_max_right _ _)
    · exact fits_receive bounded rfl (Nat.zero_le _)
  · rintro state reply next rfl step
    exact ControlOut.after_target step
  · unfold ControlOut.start at started
    split at started
    · cases started
    · split at started
      · cases started
      · cases started
        rfl

end Fits

end PioUsbHost.Pipe
