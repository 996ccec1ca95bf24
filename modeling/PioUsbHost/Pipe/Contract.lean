/-
**An allocated pipe keeps to what the packet engine relies on.**

The limits are in four places: the allocator's checks by speed and transfer type, the packets that the
adapter cuts, the 104-byte packets of the engine, and the masks of the token encoder. `EngineContract`
says, for every request and every control transfer on a pipe, that no call that the engine gets runs
into one of the last three.

* `outOnce_of_passes`, `inOnce_of_passes`: what passes the checks of the engine fails on the wire only.
* `requestOutCalls`, `requestInCalls`: the calls of the two requests, on any packet engine.
* `forall_requestOutCalls`, `forall_requestInCalls`: what every such call satisfies.
* `validatePipe_engineContract`: a validated pipe keeps the contract.
-/

import PioUsbHost.Pipe.Control
import PioUsbHost.Pipe.OutDelivery

namespace PioUsbHost.Pipe

open PioUsbHost.Usb PioUsbHost.Host PioUsbHost.Rx PioUsbHost.Lib.Panic

/-! ### The calls of a request -/

/-- `request_out_once` refuses the type or the direction of the endpoint. -/
def RefusesOut (target : PipeTarget) : Prop :=
  target.endpoint.epType ∉ [EndpointType.bulk, .interrupt] ∨ target.endpoint.isIn = true

/-- `request_in_once` refuses the type or the direction of the endpoint. -/
def RefusesIn (target : PipeTarget) : Prop :=
  target.endpoint.epType ∉ [EndpointType.bulk, .interrupt, .isochronous] ∨
    target.endpoint.isIn = false

/-- The call of `out_once` in `request_out_once`. -/
def outOnceCall (toggle : DataToggle) (packet : List UInt8) : WireCall :=
  .out pidOut toggle.pid packet

/-- The call of `in_once` in `request_in_once`, on a buffer of `bufferLen` bytes. -/
def inOnceCall (target : PipeTarget) (toggle : DataToggle) (bufferLen : Nat) : WireCall :=
  .receive (if target.endpoint.epType = .isochronous then pidData0 else toggle.pid)
    (min bufferLen target.maxPacketSize)

/-- **A call that passes the checks** overflows only if the wire says so. -/
theorem outOnce_of_passes {target : PipeTarget} {toggle : DataToggle} {packet : List UInt8}
    (passes : (outOnceCall toggle packet).Passes target) {wire : OutWire} {endpoint : OutEndpoint}
    (overflows : (outOnce toggle.pid packet wire endpoint).1 = .error .bufferOverflow) :
    wire = .frameFailed .bufferOverflow ∨ wire = .receiverNotParked .bufferOverflow := by
  obtain ⟨bytes, built⟩ := passes
  cases wire with
  | frameFailed error =>
    cases overflows
    exact .inl rfl
  | receiverNotParked error =>
    simp only [outOnce, built] at overflows
    cases overflows
    exact .inr rfl
  | transmitFailed reached =>
    simp only [outOnce, built] at overflows
    cases overflows
  | sent reached handshake =>
    simp only [outOnce, built] at overflows
    unfold outResponse at overflows
    repeat' split at overflows
    all_goals cases overflows

/-- **A reception that passes the checks** fails only if the wire does. -/
theorem inOnce_of_passes {target : PipeTarget} {expectedPid : UInt8} {maxPayloadLen : Nat}
    (passes : (WireCall.receive expectedPid maxPayloadLen).Passes target) {acknowledge : Bool}
    {wire : InWire} {endpoint : InEndpoint} {error : PipeError}
    (failed : (inOnce target expectedPid maxPayloadLen packetArray acknowledge wire endpoint).result =
      .error error) :
    wire = .frameFailed error ∨ wire = .receiverNotParked error ∨ error = .timeout := by
  rw [WireCall.Passes] at passes
  cases wire with
  | frameFailed other =>
    cases failed
    exact .inl rfl
  | receiverNotParked other =>
    simp only [inOnce, passes] at failed
    cases failed
    exact .inr (.inl rfl)
  | sent answered fate irqs ackEopGuardCycles ackArrives =>
    simp only [inOnce, passes] at failed
    cases returned : (receiveAnswer target expectedPid maxPayloadLen packetArray acknowledge
      (answered.bind (answerToken endpoint)) fate irqs ackEopGuardCycles).result with
    | ok result =>
      rw [returned] at failed
      cases failed
    | error fault =>
      cases fault
      rw [returned] at failed
      cases failed
      exact .inr (.inr rfl)

/-- A pipe, with the calls that its requests have made. -/
structure Caller where
  pipe : PioHostPipe
  calls : List WireCall

/-- What a packet engine makes of a transaction: any outcome, and any toggle. -/
structure EngineReply (ο : Type) where
  result : Except PipeError (TransactionOutcome ο)
  toggle : DataToggle

/-- The pipe after a transaction, with one more call. -/
def Caller.record (caller : Caller) (toggle : DataToggle) (call : WireCall) : Caller :=
  { pipe := { caller.pipe with dataToggle := toggle }, calls := caller.calls ++ [call] }

/-- The retry loop of `request_out`, on any packet engine. -/
def outCaller : RetryLoop Caller (EngineReply Unit) OutRequest Unit Unit where
  pipe := Caller.pipe
  operate reply request caller :=
    (reply.result, caller.record reply.toggle
      (outOnceCall caller.pipe.dataToggle (request.packet caller.pipe.target)))
  afterOutcome := OutRequest.afterOutcome

/-- The retry loop of `request_in`, on any packet engine. -/
def inCaller :
    RetryLoop Caller (EngineReply (List UInt8)) InRequest (List UInt8) (List UInt8 × Nat) where
  pipe := Caller.pipe
  operate reply request caller :=
    (reply.result, caller.record reply.toggle
      (inOnceCall caller.pipe.target caller.pipe.dataToggle request.room))
  afterOutcome := InRequest.afterOutcome

/-- The calls of `request_out`. -/
def requestOutCalls (pipe : PioHostPipe) (data : List UInt8) (ensureTransactionEnd : Bool)
    (completions : List (Completion (EngineReply Unit))) : List WireCall :=
  match OutRequest.start pipe.target data ensureTransactionEnd with
  | .error _ => []
  | .ok request => (outCaller.run completions .transactionDue request ⟨pipe, []⟩).2.calls

/-- The calls of `request_in`. -/
def requestInCalls (pipe : PioHostPipe) (buffer : List UInt8)
    (completions : List (Completion (EngineReply (List UInt8)))) : List WireCall :=
  if buffer = [] then []
  else (inCaller.run completions .transactionDue (InRequest.start buffer) ⟨pipe, []⟩).2.calls

/-! ### What every call satisfies -/

section Calls

variable {ε σ ο α : Type} {target : PipeTarget} {Pre : WireCall → Prop}

/-- The pipe has its target, and its calls satisfy the precondition. -/
structure Kept (target : PipeTarget) (Pre : WireCall → Prop) (caller : Caller) : Prop where
  target : caller.pipe.target = target
  calls : ∀ call ∈ caller.calls, Pre call

theorem Kept.record {caller : Caller} (kept : Kept target Pre caller) {call : WireCall}
    (allowed : Pre call) (toggle : DataToggle) : Kept target Pre (caller.record toggle call) := by
  refine ⟨kept.target, ?_⟩
  intro other member
  rcases List.mem_append.mp member with earlier | last
  · exact kept.calls other earlier
  · rw [List.mem_singleton.mp last]
    exact allowed

/-- **Every call of a retry loop** satisfies what each operation of the loop makes sure of. -/
theorem forall_calls_run {loop : RetryLoop Caller ε σ ο α}
    (operates : ∀ wire request caller, Kept target Pre caller →
      Kept target Pre (loop.operate wire request caller).2)
    {caller : Caller} (kept : Kept target Pre caller) (completions : List (Completion ε))
    (point : AwaitPoint) (request : σ) :
    ∀ call ∈ (loop.run completions point request caller).2.calls, Pre call := by
  have transacts : ∀ {completion request caller next after}, Kept target Pre caller →
      loop.transact completion request caller = (next, after) → Kept target Pre after := by
    intro completion request caller next after kept step
    have world := loop.transact_world completion request caller
    rw [step] at world
    rw [show after = _ from world]
    exact operates _ _ _ kept
  exact RetryLoop.run_spec (fun _ caller => Kept target Pre caller)
    (fun _ caller => ∀ call ∈ caller.calls, Pre call)
    (fun _ _ kept => kept.calls) (fun _ _ kept => kept.calls)
    (fun _ _ _ _ _ kept step => transacts kept step)
    (fun _ _ _ _ _ kept step => (transacts kept step).calls) kept completions point

theorem packetAt_length_le (maxPacketSize : Nat) (data : List UInt8) (index : Nat) :
    (OutRequest.packetAt maxPacketSize data index).length ≤ maxPacketSize := by
  rw [OutRequest.packetAt_eq]
  exact List.length_take_le _ _

/-- **The calls of `request_out`** hand down packets of the endpoint's size. -/
theorem forall_requestOutCalls {pipe : PioHostPipe}
    (allowed : ∀ toggle packet, packet.length ≤ pipe.target.maxPacketSize →
      Pre (outOnceCall toggle packet))
    (data : List UInt8) (ensureTransactionEnd : Bool)
    (completions : List (Completion (EngineReply Unit))) :
    ∀ call ∈ requestOutCalls pipe data ensureTransactionEnd completions, Pre call := by
  rw [requestOutCalls]
  cases OutRequest.start pipe.target data ensureTransactionEnd with
  | error fault => exact nofun
  | ok request =>
    refine @forall_calls_run _ _ _ _ pipe.target Pre outCaller ?_ ⟨pipe, []⟩ ⟨rfl, nofun⟩ completions
      .transactionDue request
    intro reply request caller kept
    refine kept.record (allowed _ _ ?_) reply.toggle
    rw [OutRequest.packet, kept.target]
    exact packetAt_length_le _ _ _

/-- **The calls of `request_in`** ask for no more than a packet. -/
theorem forall_requestInCalls {pipe : PioHostPipe}
    (allowed : ∀ toggle bufferLen, Pre (inOnceCall pipe.target toggle bufferLen))
    (buffer : List UInt8) (completions : List (Completion (EngineReply (List UInt8)))) :
    ∀ call ∈ requestInCalls pipe buffer completions, Pre call := by
  rw [requestInCalls]
  split
  · exact nofun
  · refine @forall_calls_run _ _ _ _ pipe.target Pre inCaller ?_ ⟨pipe, []⟩ ⟨rfl, nofun⟩ completions
      .transactionDue _
    intro reply request caller kept
    refine kept.record ?_ reply.toggle
    rw [kept.target]
    exact allowed _ _

end Calls

/-! ### The contract -/

/-- A call that passes the checks of the engine, and hands down at most `limit` bytes. -/
def WithinLimit (target : PipeTarget) (limit : Nat) (call : WireCall) : Prop :=
  call.Passes target ∧ call.payload.length ≤ limit

/-- What the packet engine relies on, for a pipe with this direction parameter. -/
structure EngineContract (direction : PipeDirection) (target : PipeTarget) : Prop where
  /-- `request_out` does not divide by zero. -/
  outStarts : direction.isOut = true → ∀ data ensureTransactionEnd,
    ∃ request, OutRequest.start target data ensureTransactionEnd = .ok request
  /-- It hands down packets that can be built. -/
  requestOut : direction.isOut = true → ∀ pipe : PioHostPipe, pipe.target = target →
    ∀ data ensureTransactionEnd completions,
      ∀ call ∈ requestOutCalls pipe data ensureTransactionEnd completions,
        WithinLimit target 100 call
  requestIn : direction.isIn = true → ∀ pipe : PioHostPipe, pipe.target = target →
    ∀ buffer completions, ∀ call ∈ requestInCalls pipe buffer completions, WithinLimit target 0 call
  /-- A pipe that is no control pipe is of the type and the direction that the request wants. -/
  acceptsOut : target.endpoint.epType ≠ .control → direction.isOut = true → ¬ RefusesOut target
  acceptsIn : target.endpoint.epType ≠ .control → direction.isIn = true → ¬ RefusesIn target
  /-- Control transfers hand down packets of the endpoint's size, and of at most 64 bytes. -/
  controlIn : ∀ setup buffer state, ControlIn.start target setup buffer = .ok state →
    ∀ replies, ∀ call ∈ (ControlIn.transfer.run replies state).1,
      WithinLimit target (min target.maxPacketSize 64) call
  controlOut : ∀ setup data state, ControlOut.start target setup data = .ok state →
    ∀ replies, ∀ call ∈ (ControlOut.transfer.run replies state).1,
      WithinLimit target (min target.maxPacketSize 64) call
  /-- Every token carries the whole address and the whole endpoint number. -/
  token : ∀ pid ∈ [pidOut, pidIn, pidSetup], ∃ value : UInt16,
    value.toNat = target.endpoint.index * 128 + target.deviceAddress.toNat ∧
      parsePacket (tokenPacket pid target.deviceAddress (UInt8.ofNat target.endpoint.index)) =
        .ok (.token pid value)

section Contract

variable {direction : PipeDirection} {target : PipeTarget}

/-- `in_once` accepts what `request_in_once` asks for. -/
theorem withinLimit_inOnceCall (bounded : target.maxPacketSize ≤ 100) (toggle : DataToggle)
    (bufferLen : Nat) : WithinLimit target 0 (inOnceCall target toggle bufferLen) := by
  refine ⟨passes_receive bounded ?_ (Nat.min_le_right _ _), Nat.le_refl 0⟩
  split
  · rfl
  · exact DataToggle.isDataPid_pid toggle

/-- A call that fits a control endpoint is within the limits of one. -/
theorem withinLimit_of_fits {call : WireCall} (least : 8 ≤ target.maxPacketSize)
    (most : target.maxPacketSize ≤ 64) (fits : Fits target call) :
    WithinLimit target (min target.maxPacketSize 64) call := by
  refine ⟨fits.passes, ?_⟩
  have small := fits.small
  omega

theorem parsePacket_token_of_validPipe (valid : ValidPipe direction target) {pid : UInt8}
    (isToken : pid ∈ [pidOut, pidIn, pidSetup, pidSof]) :
    ∃ value : UInt16,
      value.toNat = target.endpoint.index * 128 + target.deviceAddress.toNat ∧
        parsePacket (tokenPacket pid target.deviceAddress (UInt8.ofNat target.endpoint.index)) =
          .ok (.token pid value) := by
  have inside := valid.index
  have number : (UInt8.ofNat target.endpoint.index).toNat = target.endpoint.index :=
    UInt8.toNat_ofNat_of_lt' (Nat.lt_trans inside (by decide))
  obtain ⟨value, bits, parsed⟩ := @parsePacket_tokenPacket pid target.deviceAddress
    (UInt8.ofNat target.endpoint.index) valid.address (by rw [number]; exact inside) isToken
  rw [number] at bits
  exact ⟨value, bits, parsed⟩

/-- **A pipe that is valid** keeps the contract. -/
theorem engineContract_of_validPipe (valid : ValidPipe direction target) :
    EngineContract direction target where
  outStarts := by
    intro isOut data ensureTransactionEnd
    have positive := Nat.pos_iff_ne_zero.mp valid.positive
    exact ⟨_, by rw [OutRequest.start, if_neg positive]⟩
  requestOut := by
    rintro - pipe rfl data ensureTransactionEnd completions
    apply forall_requestOutCalls
    intro toggle packet small
    have fits := Nat.le_trans small valid.bounded
    exact ⟨passes_out (DataToggle.isDataPid_pid toggle) fits, fits⟩
  requestIn := by
    rintro - pipe rfl buffer completions
    exact forall_requestInCalls (withinLimit_inOnceCall valid.bounded) buffer completions
  acceptsOut := by
    rintro other isOut (type | isIn)
    · exact type (valid.outward other isOut).2
    · rw [(valid.outward other isOut).1] at isIn
      cases isIn
  acceptsIn := by
    rintro other isIn (type | isOut)
    · cases kind : target.endpoint.epType <;> rw [kind] at type other
      · exact other rfl
      all_goals exact type (by decide)
    · rw [valid.inward other isIn] at isOut
      cases isOut
  controlIn := by
    intro setup buffer state started replies call member
    obtain ⟨-, least, most⟩ := valid.control (ControlIn.epType_of_start started)
    exact withinLimit_of_fits least most
      (ControlIn.fits_calls valid.bounded started replies call member)
  controlOut := by
    intro setup data state started replies call member
    obtain ⟨-, least, most⟩ := valid.control (ControlOut.epType_of_start started)
    exact withinLimit_of_fits least most
      (ControlOut.fits_calls valid.bounded started replies call member)
  token := by
    intro pid isToken
    refine parsePacket_token_of_validPipe valid ?_
    simp only [List.mem_cons, List.not_mem_nil, or_false] at isToken ⊢
    tauto

end Contract

/-- **An allocated pipe never violates what the packet engine relies on.** -/
theorem validatePipe_engineContract {epType : EndpointType} {direction : PipeDirection}
    {deviceAddress : UInt8} {endpoint : EndpointInfo} {split : Bool} {speed : BusSpeed}
    (validated : validatePipe epType direction deviceAddress endpoint split speed = .ok ()) :
    EngineContract direction { deviceAddress, endpoint } :=
  engineContract_of_validPipe (validPipe_of_validatePipe validated)

/-- The largest packets there are, of an isochronous endpoint. -/
theorem validatePipe_engineContract_audio :
    EngineContract .inward ⟨127, ⟨0x8f, .isochronous, 100, 1⟩⟩ :=
  @validatePipe_engineContract .isochronous .inward 127 ⟨0x8f, .isochronous, 100, 1⟩ false .full
    (by rfl)

end PioUsbHost.Pipe
