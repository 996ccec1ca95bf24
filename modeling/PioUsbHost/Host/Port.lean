/-
**The root port and the pipes allocated on it.**

`PortState`, `PioHostAllocator::alloc_pipe` and `PioHostPipe::check_valid` of `pio_host.rs`. The port
carries two generation counters that wrap at 32 bits; a pipe remembers the two values it was allocated
under.

* `checkValid_eq_ok`: a pipe is valid while the port is connected in the same connection generation
  and, unless it addresses device zero, in the same reset generation.
* `validPipe_of_validatePipe`: a validated pipe has an address, an endpoint number, a packet size and a
  direction that the packet engine can serve.
* `allocPipe_eq_ok`: an allocation succeeds on a connected port only, and what it allocates is valid.
-/

import PioUsbHost.Usb.Packet
import PioUsbHost.Usb.UsbPipe

namespace PioUsbHost.Host

open PioUsbHost.Usb

/-! ### The port -/

/-- The speed of the attached device. -/
inductive BusSpeed where
  | low
  | full
  | high
  deriving DecidableEq, Repr

/-- What is known of the device, and the generations of the connection and of the reset. -/
structure PortState where
  connected : Bool
  speed : Option BusSpeed
  connectionGeneration : UInt32
  resetGeneration : UInt32
  deriving DecidableEq

namespace PortState

/-- `PortState::new`. -/
def initial : PortState :=
  { connected := false, speed := none, connectionGeneration := 0, resetGeneration := 0 }

/-- A device of the speed is attached; what was made before is out of date. -/
def afterConnection (port : PortState) (speed : BusSpeed) : PortState :=
  { connected := true
    speed := some speed
    connectionGeneration := port.connectionGeneration + 1
    resetGeneration := port.resetGeneration + 1 }

/-- The device is gone. -/
def afterDisconnection (port : PortState) : PortState :=
  { connected := false
    speed := none
    connectionGeneration := port.connectionGeneration + 1
    resetGeneration := port.resetGeneration }

/-- What was made before the reset is out of date. -/
def afterBusReset (port : PortState) : PortState :=
  { port with resetGeneration := port.resetGeneration + 1 }

end PortState

/-! ### Endpoints and pipes -/

/-- The four transfer types of an endpoint. -/
inductive EndpointType where
  | control
  | isochronous
  | bulk
  | interrupt
  deriving DecidableEq, Repr

/-- An endpoint, with its address byte. -/
structure EndpointInfo where
  addr : UInt8
  epType : EndpointType
  maxPacketSize : UInt16
  intervalMs : UInt8
  deriving DecidableEq

namespace EndpointInfo

/-- `addr.is_in()`. -/
def isIn (endpoint : EndpointInfo) : Bool := endpoint.addr &&& 0x80 ≠ 0

/-- `addr.index()`. -/
def index (endpoint : EndpointInfo) : Nat := (endpoint.addr &&& 0x7f).toNat

end EndpointInfo

/-- What a pipe talks to. -/
structure PipeTarget where
  deviceAddress : UInt8
  endpoint : EndpointInfo
  deriving DecidableEq

/-- `target.endpoint.max_packet_size as usize`. -/
def PipeTarget.maxPacketSize (target : PipeTarget) : Nat := target.endpoint.maxPacketSize.toNat

/-- `PioHostPipe`, with the generations that it was made in. -/
structure PioHostPipe where
  target : PipeTarget
  dataToggle : DataToggle
  connectionGeneration : UInt32
  resetGeneration : UInt32
  deriving DecidableEq

/-- `PioHostPipe::check_valid`, on the port as it finds it. -/
def PioHostPipe.checkValid (pipe : PioHostPipe) (port : PortState) : Except PipeError Unit :=
  if !port.connected || port.connectionGeneration ≠ pipe.connectionGeneration then
    .error .disconnected
  else if pipe.target.deviceAddress ≠ 0 ∧ port.resetGeneration ≠ pipe.resetGeneration then
    .error .disconnected
  else .ok ()

/-- **When a pipe is valid.** -/
theorem checkValid_eq_ok {pipe : PioHostPipe} {port : PortState} :
    pipe.checkValid port = .ok () ↔
      port.connected = true ∧ port.connectionGeneration = pipe.connectionGeneration ∧
        (pipe.target.deviceAddress = 0 ∨ port.resetGeneration = pipe.resetGeneration) := by
  unfold PioHostPipe.checkValid
  by_cases connected : port.connected = true
  · by_cases connection : port.connectionGeneration = pipe.connectionGeneration
    · by_cases address : pipe.target.deviceAddress = 0 <;>
        by_cases reset : port.resetGeneration = pipe.resetGeneration <;>
          simp [connected, connection, address, reset]
    · simp [connection]
  · simp [connected]

/-- `check_valid` has one error. -/
theorem checkValid_cases (pipe : PioHostPipe) (port : PortState) :
    pipe.checkValid port = .ok () ∨ pipe.checkValid port = .error .disconnected := by
  unfold PioHostPipe.checkValid
  split
  · exact .inr rfl
  · split
    · exact .inr rfl
    · exact .inl rfl

/-! ### Allocation -/

/-- The allocation errors, with the texts of `HostError::Other`. -/
inductive HostError where
  | noSuchDevice
  | invalidDescriptor
  | other (text : String)
  deriving DecidableEq, Repr

/-- The direction parameter of a pipe: `pipe::In`, `pipe::Out` or `pipe::InOut`. -/
inductive PipeDirection where
  | inward
  | outward
  | both
  deriving DecidableEq, Repr

namespace PipeDirection

/-- The pipe can receive. -/
def isIn : PipeDirection → Bool
  | inward => true
  | outward => false
  | both => true

/-- The pipe can send. -/
def isOut : PipeDirection → Bool
  | inward => false
  | outward => true
  | both => true

end PipeDirection

/-- `validate_non_control_direction`. -/
def validateNonControlDirection (direction : PipeDirection) (endpoint : EndpointInfo) :
    Except HostError Unit :=
  let directionMatches :=
    if endpoint.isIn then direction.isIn && !direction.isOut
    else direction.isOut && !direction.isIn
  if directionMatches then .ok ()
  else .error (.other "pipe direction does not match endpoint direction")

/-- The control endpoint's checks, which the two speeds share. -/
def validateControlPipe (sizes : List UInt16) (direction : PipeDirection) (endpoint : EndpointInfo) :
    Except HostError Unit :=
  if endpoint.index ≠ 0 ∨ direction.isIn = false ∨ direction.isOut = false then
    .error (.other "a control pipe must be bidirectional endpoint zero")
  else if endpoint.maxPacketSize ∉ sizes then .error .invalidDescriptor
  else .ok ()

/-- `validate_low_speed_pipe`. -/
def validateLowSpeedPipe (direction : PipeDirection) (endpoint : EndpointInfo) :
    Except HostError Unit :=
  match endpoint.epType with
  | .control => validateControlPipe [8] direction endpoint
  | .interrupt => do
    validateNonControlDirection direction endpoint
    if endpoint.index = 0 ∨ endpoint.maxPacketSize = 0 ∨ endpoint.maxPacketSize > 8
        ∨ endpoint.intervalMs < 10 then
      throw .invalidDescriptor
  | .bulk => .error (.other "bulk transfers are not valid for low-speed USB devices")
  | .isochronous => .error (.other "isochronous transfers are not valid for low-speed USB devices")

/-- `validate_full_speed_pipe`. -/
def validateFullSpeedPipe (direction : PipeDirection) (endpoint : EndpointInfo) :
    Except HostError Unit :=
  match endpoint.epType with
  | .control => validateControlPipe [8, 16, 32, 64] direction endpoint
  | .bulk => do
    validateNonControlDirection direction endpoint
    if endpoint.index = 0 ∨ endpoint.maxPacketSize ∉ ([8, 16, 32, 64] : List UInt16) then
      throw .invalidDescriptor
  | .interrupt => do
    validateNonControlDirection direction endpoint
    if endpoint.index = 0 ∨ endpoint.maxPacketSize = 0 ∨ endpoint.maxPacketSize > 64
        ∨ endpoint.intervalMs = 0 then
      throw .invalidDescriptor
  | .isochronous => do
    validateNonControlDirection direction endpoint
    if direction.isIn = false ∨ direction.isOut = true then
      throw (.other "only isochronous IN is implemented by the RP2040 PIO backend")
    if endpoint.index = 0 ∨ endpoint.maxPacketSize = 0 ∨ endpoint.maxPacketSize > 100
        ∨ endpoint.intervalMs = 0 then
      throw .invalidDescriptor

/-- `validate_pipe`. Of the split metadata only `split.is_some()` is read. -/
def validatePipe (epType : EndpointType) (direction : PipeDirection) (deviceAddress : UInt8)
    (endpoint : EndpointInfo) (split : Bool) (speed : BusSpeed) : Except HostError Unit :=
  if deviceAddress > 127 then .error .noSuchDevice
  else if split then
    .error (.other "split transactions are not implemented by the RP2040 PIO backend")
  else if endpoint.epType ≠ epType then
    .error (.other "pipe type does not match endpoint transfer type")
  else if endpoint.index > 15 then .error .invalidDescriptor
  else
    match speed with
    | .low => validateLowSpeedPipe direction endpoint
    | .full => validateFullSpeedPipe direction endpoint
    | .high => .error (.other "high-speed devices are not supported by the RP2040 PIO backend")

/-! ### What a validated pipe is -/

/-- The endpoint and the direction parameter of a pipe that the allocator accepts. -/
structure ValidPipe (direction : PipeDirection) (target : PipeTarget) : Prop where
  address : target.deviceAddress.toNat < 128
  index : target.endpoint.index < 16
  positive : 0 < target.maxPacketSize
  bounded : target.maxPacketSize ≤ 100
  /-- A control pipe is endpoint zero. -/
  control : target.endpoint.epType = .control →
    target.endpoint.index = 0 ∧ 8 ≤ target.maxPacketSize ∧ target.maxPacketSize ≤ 64
  /-- The others have the direction of their endpoint, and only bulk and interrupt ones go out. -/
  inward : target.endpoint.epType ≠ .control → direction.isIn = true → target.endpoint.isIn = true
  outward : target.endpoint.epType ≠ .control → direction.isOut = true →
    target.endpoint.isIn = false ∧ target.endpoint.epType ∈ [EndpointType.bulk, .interrupt]

/-- The packet sizes of control and bulk endpoints. -/
theorem size_of_mem {size : UInt16} (listed : size ∈ ([8, 16, 32, 64] : List UInt16)) :
    8 ≤ size.toNat ∧ size.toNat ≤ 64 := by
  simp only [List.mem_cons, List.not_mem_nil, or_false] at listed
  rcases listed with rfl | rfl | rfl | rfl <;> decide

/-- A packet size between the two bounds of a check. -/
theorem size_of_checks {size bound : UInt16} (positive : ¬ size = 0) (bounded : ¬ size > bound) :
    0 < size.toNat ∧ size.toNat ≤ bound.toNat := by
  refine ⟨Nat.pos_of_ne_zero fun zero => positive (UInt16.toNat_inj.mp zero), ?_⟩
  exact Nat.not_lt.mp fun large => bounded (UInt16.lt_iff_toNat_lt.mpr large)

theorem validateNonControlDirection_eq_ok {direction : PipeDirection} {endpoint : EndpointInfo} :
    validateNonControlDirection direction endpoint = .ok () ↔
      (endpoint.isIn = true ∧ direction = .inward) ∨
        (endpoint.isIn = false ∧ direction = .outward) := by
  cases isIn : endpoint.isIn <;> cases direction <;>
    simp [validateNonControlDirection, isIn, PipeDirection.isIn, PipeDirection.isOut]

theorem validateControlPipe_eq_ok {sizes : List UInt16} {direction : PipeDirection}
    {endpoint : EndpointInfo} :
    validateControlPipe sizes direction endpoint = .ok () ↔
      endpoint.index = 0 ∧ direction = .both ∧ endpoint.maxPacketSize ∈ sizes := by
  by_cases zero : endpoint.index = 0 <;> by_cases listed : endpoint.maxPacketSize ∈ sizes <;>
    cases direction <;>
      simp [validateControlPipe, zero, listed, PipeDirection.isIn, PipeDirection.isOut]

/-- The packet size of a low-speed control endpoint is one of them. -/
theorem eight_known : ∀ size ∈ ([8] : List UInt16), size ∈ ([8, 16, 32, 64] : List UInt16) := by
  intro size listed
  rw [List.mem_singleton.mp listed]
  exact List.mem_cons_self

section ValidPipe

variable {direction : PipeDirection} {deviceAddress : UInt8} {endpoint : EndpointInfo}

theorem validPipe_of_control (address : deviceAddress.toNat < 128) {sizes : List UInt16}
    (known : ∀ size ∈ sizes, size ∈ ([8, 16, 32, 64] : List UInt16))
    (isControl : endpoint.epType = .control)
    (checked : validateControlPipe sizes direction endpoint = .ok ()) :
    ValidPipe direction { deviceAddress, endpoint } := by
  obtain ⟨zero, -, listed⟩ := validateControlPipe_eq_ok.mp checked
  have sized := size_of_mem (known _ listed)
  exact {
    address
    index := by simp only [zero]; decide
    positive := Nat.lt_of_lt_of_le (by decide) sized.1
    bounded := Nat.le_trans sized.2 (by decide)
    control := fun _ => ⟨zero, sized⟩
    inward := fun other => absurd isControl other
    outward := fun other => absurd isControl other }

/-- The checks of the other pipes, after the one for the direction. -/
theorem validPipe_of_nonControl (address : deviceAddress.toNat < 128) (index : endpoint.index < 16)
    (other : endpoint.epType ≠ .control)
    (sized : 0 < endpoint.maxPacketSize.toNat ∧ endpoint.maxPacketSize.toNat ≤ 100)
    (directed : validateNonControlDirection direction endpoint = .ok ())
    (outType : direction = .outward → endpoint.epType ∈ [EndpointType.bulk, .interrupt]) :
    ValidPipe direction { deviceAddress, endpoint } where
  address := address
  index := index
  positive := sized.1
  bounded := sized.2
  control := fun isControl => absurd isControl other
  inward := by
    rintro - isIn
    rcases validateNonControlDirection_eq_ok.mp directed with ⟨matched, -⟩ | ⟨-, rfl⟩
    · exact matched
    · cases isIn
  outward := by
    rintro - isOut
    rcases validateNonControlDirection_eq_ok.mp directed with ⟨-, rfl⟩ | ⟨matched, outward⟩
    · cases isOut
    · exact ⟨matched, outType outward⟩

/-- The same, after the checks of the index, the packet size and the interval. -/
theorem validPipe_of_checks (address : deviceAddress.toNat < 128) (index : endpoint.index < 16)
    (other : endpoint.epType ≠ .control) {bound : UInt16} (small : bound.toNat ≤ 100)
    (directed : validateNonControlDirection direction endpoint = .ok ()) {interval : Prop}
    (checks : ¬ (endpoint.index = 0 ∨ endpoint.maxPacketSize = 0 ∨ endpoint.maxPacketSize > bound ∨
      interval))
    (outType : direction = .outward → endpoint.epType ∈ [EndpointType.bulk, .interrupt]) :
    ValidPipe direction { deviceAddress, endpoint } := by
  rw [not_or, not_or, not_or] at checks
  obtain ⟨-, positive, bounded, -⟩ := checks
  have sized := size_of_checks positive bounded
  exact validPipe_of_nonControl address index other ⟨sized.1, Nat.le_trans sized.2 small⟩ directed
    outType

/-- The direction is checked first. -/
theorem of_directed {rest : Except HostError Unit}
    (validated : (do validateNonControlDirection direction endpoint; rest) = .ok ()) :
    validateNonControlDirection direction endpoint = .ok () ∧ rest = .ok () := by
  cases directed : validateNonControlDirection direction endpoint with
  | error error =>
    rw [directed] at validated
    cases validated
  | ok _ =>
    rw [directed] at validated
    exact ⟨rfl, validated⟩

/-- What is not rejected passes. -/
theorem of_not_rejected {rejected : Prop} [Decidable rejected] {error : HostError}
    {rest : Except HostError Unit}
    (validated : (if rejected then Except.error error else rest) = .ok ()) :
    ¬ rejected ∧ rest = .ok () := by
  split at validated
  · cases validated
  next passes => exact ⟨passes, validated⟩

theorem validPipe_of_lowSpeed (address : deviceAddress.toNat < 128) (index : endpoint.index < 16)
    (validated : validateLowSpeedPipe direction endpoint = .ok ()) :
    ValidPipe direction { deviceAddress, endpoint } := by
  unfold validateLowSpeedPipe at validated
  split at validated
  next isControl => exact validPipe_of_control address eight_known isControl validated
  next isInterrupt =>
    obtain ⟨directed, validated⟩ := of_directed validated
    exact validPipe_of_checks address index (by rw [isInterrupt]; decide) (by decide) directed
      (of_not_rejected validated).1 fun _ => by rw [isInterrupt]; decide
  next => cases validated
  next => cases validated

theorem validPipe_of_fullSpeed (address : deviceAddress.toNat < 128) (index : endpoint.index < 16)
    (validated : validateFullSpeedPipe direction endpoint = .ok ()) :
    ValidPipe direction { deviceAddress, endpoint } := by
  unfold validateFullSpeedPipe at validated
  split at validated
  next isControl => exact validPipe_of_control address (fun _ => id) isControl validated
  next isBulk =>
    obtain ⟨directed, validated⟩ := of_directed validated
    have checks := (of_not_rejected validated).1
    rw [not_or, Decidable.not_not] at checks
    have sized := size_of_mem checks.2
    exact validPipe_of_nonControl address index (by rw [isBulk]; decide)
      ⟨Nat.lt_of_lt_of_le (by decide) sized.1, Nat.le_trans sized.2 (by decide)⟩ directed
      fun _ => by rw [isBulk]; decide
  next isInterrupt =>
    obtain ⟨directed, validated⟩ := of_directed validated
    exact validPipe_of_checks address index (by rw [isInterrupt]; decide) (by decide) directed
      (of_not_rejected validated).1 fun _ => by rw [isInterrupt]; decide
  next isIsochronous =>
    obtain ⟨directed, validated⟩ := of_directed validated
    obtain ⟨onlyIn, validated⟩ := of_not_rejected validated
    refine validPipe_of_checks address index (by rw [isIsochronous]; decide) (by decide) directed
      (of_not_rejected validated).1 ?_
    rintro rfl
    exact absurd (.inl rfl) onlyIn

/-- **What the allocator accepts.** -/
theorem validPipe_of_validatePipe {epType : EndpointType} {split : Bool} {speed : BusSpeed}
    (validated : validatePipe epType direction deviceAddress endpoint split speed = .ok ()) :
    ValidPipe direction { deviceAddress, endpoint } := by
  unfold validatePipe at validated
  split at validated
  · cases validated
  next address =>
  split at validated
  · cases validated
  split at validated
  · cases validated
  split at validated
  · cases validated
  next index =>
  have small : deviceAddress.toNat < 128 :=
    Nat.lt_succ_of_le (Nat.not_lt.mp fun large => address (UInt8.lt_iff_toNat_lt.mpr large))
  have inside : endpoint.index < 16 := Nat.lt_succ_of_le (Nat.not_lt.mp index)
  cases speed with
  | low => exact validPipe_of_lowSpeed small inside validated
  | full => exact validPipe_of_fullSpeed small inside validated
  | high => cases validated

end ValidPipe

/-! ### Allocation on the port -/

/-- The arguments of `alloc_pipe`. -/
structure AllocRequest where
  epType : EndpointType
  direction : PipeDirection
  deviceAddress : UInt8
  endpoint : EndpointInfo
  split : Bool

/-- `PioHostAllocator::alloc_pipe`, on the port as it finds it. -/
def allocPipe (port : PortState) (request : AllocRequest) : Except HostError PioHostPipe :=
  if !port.connected then .error .noSuchDevice
  else
    match port.speed with
    | none => .error .noSuchDevice
    | some speed =>
      match validatePipe request.epType request.direction request.deviceAddress request.endpoint
          request.split speed with
      | .error error => .error error
      | .ok () =>
        .ok
          { target := { deviceAddress := request.deviceAddress, endpoint := request.endpoint }
            dataToggle := .data0
            connectionGeneration := port.connectionGeneration
            resetGeneration := port.resetGeneration }

/-- **What an allocation gives.** -/
theorem allocPipe_eq_ok {port : PortState} {request : AllocRequest} {pipe : PioHostPipe}
    (allocated : allocPipe port request = .ok pipe) :
    port.connected = true ∧ pipe.target.deviceAddress = request.deviceAddress ∧
      pipe.connectionGeneration = port.connectionGeneration ∧
        pipe.resetGeneration = port.resetGeneration := by
  unfold allocPipe at allocated
  split at allocated
  · cases allocated
  rename_i connected
  split at allocated
  · cases allocated
  split at allocated
  · cases allocated
  cases allocated
  exact ⟨by simpa using connected, rfl, rfl, rfl⟩

end PioUsbHost.Host
