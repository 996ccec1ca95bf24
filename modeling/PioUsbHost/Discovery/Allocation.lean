/-
**From untrusted descriptors to the wire.**

A class driver is allocated from the bytes of a configuration: its function is discovered, its sizes
are checked, and its pipes are allocated on the port one behind the other, with no suspension point
between.

* `allocatePipes_ok`: the pipes of a class host are current, and keep the contract of the engine.
* `allocation_spec`: whatever the bytes are, no allocation panics; when one succeeds, and that it then
  has pipes to the endpoints of the function that discovery selects.
-/

import PioUsbHost.Cdc.Read
import PioUsbHost.Discovery.Untrusted
import PioUsbHost.Pipe.Contract

namespace PioUsbHost

open PioUsbHost.Host PioUsbHost.Lib.Panic PioUsbHost.Pipe PioUsbHost.Usb

/-! ### What the classes share -/

/-- The errors of an allocation: each class has them under its own name. -/
inductive CreateError (ε : Type) where
  | configuration (error : ε)
  | invalidDeviceAddress
  | invalidControlMaxPacketSize
  | unsupportedInMaxPacketSize
  | allocation (error : HostError)
  deriving DecidableEq

/-- The address of the device, the packet size of its endpoint zero, and `split.is_some()`. -/
structure AllocationInputs where
  deviceAddress : UInt8
  controlMaxPacketSize : UInt16
  split : Bool

/-- A class driver: what it drives, and its pipes. -/
structure ClassHost (α : Type) where
  selected : α
  control : PioHostPipe
  dataIn : PioHostPipe
  dataOut : Option PioHostPipe

section Shared

variable {ε α : Type}

/-- `validate_allocation_inputs`. -/
def validateAllocationInputs (inputs : AllocationInputs) : Checked (CreateError ε) Unit :=
  if inputs.deviceAddress > 0x7f then fail .invalidDeviceAddress
  else if inputs.controlMaxPacketSize ∉ [8, 16, 32, 64] then fail .invalidControlMaxPacketSize
  else .ok ()

/-- Endpoint zero. -/
def controlInfo (inputs : AllocationInputs) : EndpointInfo where
  addr := 0x80
  epType := .control
  maxPacketSize := inputs.controlMaxPacketSize
  intervalMs := 0

/-- `endpoint_info`. -/
def endpointInfo (epType : EndpointType) (endpoint : EndpointDescriptor) : EndpointInfo where
  addr := endpoint.address
  epType
  maxPacketSize := endpoint.maxPacketSize
  intervalMs := endpoint.interval

/-- `allocator.alloc_pipe::<_, _>(..)?`. -/
def allocate (port : PortState) (inputs : AllocationInputs) (epType : EndpointType)
    (direction : PipeDirection) (endpoint : EndpointInfo) : Checked (CreateError ε) PioHostPipe :=
  match allocPipe port
      { epType, direction, deviceAddress := inputs.deviceAddress, endpoint, split := inputs.split } with
  | .ok pipe => .ok pipe
  | .error error => fail (.allocation error)

/-- The pipes of a class: endpoint zero, the endpoint in, and the endpoint out if there is one. -/
def allocatePipes (port : PortState) (inputs : AllocationInputs) (epType : EndpointType) (selected : α)
    (dataIn : EndpointInfo) (dataOut : Option EndpointInfo) :
    Checked (CreateError ε) (ClassHost α) := do
  let control ← allocate port inputs .control .both (controlInfo inputs)
  let pipeIn ← allocate port inputs epType .inward dataIn
  match dataOut with
  | none => return { selected, control, dataIn := pipeIn, dataOut := none }
  | some endpoint =>
    let pipeOut ← allocate port inputs epType .outward endpoint
    return { selected, control, dataIn := pipeIn, dataOut := some pipeOut }

/-- The allocation of a function that is already selected. -/
def allocateSelected (supported : Bool) (port : PortState) (inputs : AllocationInputs)
    (epType : EndpointType) (selected : α) (dataIn : EndpointInfo) (dataOut : Option EndpointInfo) :
    Checked (CreateError ε) (ClassHost α) := do
  validateAllocationInputs inputs
  if supported then allocatePipes port inputs epType selected dataIn dataOut
  else fail .unsupportedInMaxPacketSize

/-- The inputs are checked, the function is discovered, and then allocated. -/
def allocateDiscovered (inputs : AllocationInputs) (discovered : Checked ε α)
    (onward : α → Checked (CreateError ε) (ClassHost α)) : Checked (CreateError ε) (ClassHost α) := do
  validateAllocationInputs inputs
  let selected ← convert .configuration discovered
  onward selected

end Shared

/-! ### The classes -/

/-- The endpoint that the audio class reads. -/
def Audio.AudioInputInterface.endpointInfo (interface : Audio.AudioInputInterface) : EndpointInfo where
  addr := interface.endpointAddress
  epType := .isochronous
  maxPacketSize := interface.maxPacketSize
  intervalMs := interface.interval

section Classes

variable (port : PortState) (inputs : AllocationInputs)

/-- `allocate_cdc_acm_function_with_rx_capacity`. -/
def Cdc.allocateCdcAcmFunction (capacity : Nat) (function : Cdc.CdcAcmFunction) :
    Checked (CreateError ConfigurationError) (ClassHost Cdc.CdcAcmFunction) :=
  allocateSelected
    (Cdc.rxPacketCapacitySupports capacity function.bulkInEndpoint.maxPacketSize.toNat) port inputs
    .bulk function (endpointInfo .bulk function.bulkInEndpoint)
    (some (endpointInfo .bulk function.bulkOutEndpoint))

/-- A host for the first function of the configuration. -/
def Cdc.allocateCdcAcmHost (capacity : Nat) (configuration : List UInt8) :
    Checked (CreateError ConfigurationError) (ClassHost Cdc.CdcAcmFunction) :=
  allocateDiscovered inputs (Cdc.CdcAcmFunction.discover configuration)
    (Cdc.allocateCdcAcmFunction port inputs capacity)

/-- A host for the function of one control interface. -/
def Cdc.allocateCdcAcmHostForControlInterface (capacity : Nat) (controlInterface : UInt8)
    (configuration : List UInt8) :
    Checked (CreateError ConfigurationError) (ClassHost Cdc.CdcAcmFunction) :=
  allocateDiscovered inputs (Cdc.discoverControlInterface configuration controlInterface)
    (Cdc.allocateCdcAcmFunction port inputs capacity)

/-- `validate_interrupt_in`. -/
def Hid.validateInterruptIn (interface : Hid.HidInterface) : Bool :=
  !(interface.interruptInEndpoint.maxPacketSize = 0 ∨ interface.interruptInEndpoint.maxPacketSize > 64)

/-- A host for a HID interface. -/
def Hid.allocateHidInterface (interface : Hid.HidInterface) :
    Checked (CreateError Hid.HidConfigurationError) (ClassHost Hid.HidInterface) :=
  allocateSelected (Hid.validateInterruptIn interface) port inputs .interrupt interface
    (endpointInfo .interrupt interface.interruptInEndpoint)
    (interface.interruptOutEndpoint.map (endpointInfo .interrupt))

/-- A host for the first HID interface of the configuration. -/
def Hid.allocateHidHost (configuration : List UInt8) :
    Checked (CreateError Hid.HidConfigurationError) (ClassHost Hid.HidInterface) :=
  allocateDiscovered inputs (Hid.HidInterface.discover configuration)
    (Hid.allocateHidInterface port inputs)

/-- A host for one HID interface. -/
def Hid.allocateHidHostForInterface (interfaceNumber : UInt8) (configuration : List UInt8) :
    Checked (CreateError Hid.HidConfigurationError) (ClassHost Hid.HidInterface) :=
  allocateDiscovered inputs (Hid.HidInterface.discoverInterface configuration interfaceNumber)
    (Hid.allocateHidInterface port inputs)

/-- `allocate_ftdi_interface_with_rx_capacity`; endpoint zero's size is in the device descriptor. -/
def Ftdi.allocateFtdiInterface (capacity : Nat) (interface : Ftdi.FtdiInterface) :
    Checked (CreateError Ftdi.FtdiConfigurationError) (ClassHost Ftdi.FtdiInterface) :=
  allocateSelected (decide (interface.bulkInEndpoint.maxPacketSize.toNat ≤ capacity)) port inputs .bulk
    interface (endpointInfo .bulk interface.bulkInEndpoint)
    (some (endpointInfo .bulk interface.bulkOutEndpoint))

/-- A host for the first FTDI interface of the device. -/
def Ftdi.allocateFtdiHost (capacity : Nat) (device : Ftdi.DeviceDescriptor)
    (configuration : List UInt8) :
    Checked (CreateError Ftdi.FtdiConfigurationError) (ClassHost Ftdi.FtdiInterface) :=
  allocateDiscovered inputs (Ftdi.FtdiInterface.discover device configuration)
    (Ftdi.allocateFtdiInterface port inputs capacity)

/-- USBTMC checks its inputs once. -/
def Usbtmc.allocateUsbtmcHost (configuration : List UInt8) :
    Checked (CreateError Usbtmc.UsbtmcConfigurationError) (ClassHost Usbtmc.UsbtmcInterface) :=
  allocateDiscovered inputs (Usbtmc.UsbtmcInterface.discover configuration) fun interface =>
    if interface.bulkInEndpoint.maxPacketSize.toNat > Usbtmc.defaultPacketCapacity then
      fail .unsupportedInMaxPacketSize
    else
      allocatePipes port inputs .bulk interface (endpointInfo .bulk interface.bulkInEndpoint)
        (some (endpointInfo .bulk interface.bulkOutEndpoint))

/-- Audio leaves the device address to the allocator. -/
def Audio.allocateAudioInput (configuration : List UInt8) :
    Checked (CreateError Audio.AudioConfigurationError) (ClassHost Audio.AudioInputInterface) :=
  if inputs.controlMaxPacketSize ∉ [8, 16, 32, 64] then fail .invalidControlMaxPacketSize
  else do
    let interface ← convert .configuration (Audio.AudioInputInterface.discover configuration)
    allocatePipes port inputs .isochronous interface interface.endpointInfo none

end Classes

/-! ### What an allocation gives -/

/-- A pipe of the host: its target, that it is current, and the contract of the engine. -/
structure GoodPipe (port : PortState) (direction : PipeDirection) (target : PipeTarget)
    (pipe : PioHostPipe) : Prop where
  leadsTo : pipe.target = target
  current : pipe.checkValid port = .ok ()
  fresh : pipe.dataToggle = .data0
  contract : EngineContract direction target

/-- The pipes of a class host, to the endpoints that it is to have. -/
structure Allocated {α : Type} (port : PortState) (inputs : AllocationInputs) (dataIn : EndpointInfo)
    (dataOut : Option EndpointInfo) (host : ClassHost α) : Prop where
  zero : GoodPipe port .both ⟨inputs.deviceAddress, controlInfo inputs⟩ host.control
  inward : GoodPipe port .inward ⟨inputs.deviceAddress, dataIn⟩ host.dataIn
  outward : ∀ pipe ∈ host.dataOut, ∃ endpoint ∈ dataOut,
    GoodPipe port .outward ⟨inputs.deviceAddress, endpoint⟩ pipe
  complete : host.dataOut.isSome = dataOut.isSome

/-- The allocator accepts the pipe, on the port as it is. -/
def Accepts (port : PortState) (inputs : AllocationInputs) (epType : EndpointType)
    (direction : PipeDirection) (endpoint : EndpointInfo) : Prop :=
  port.connected = true ∧ ∃ speed, port.speed = some speed ∧
    validatePipe epType direction inputs.deviceAddress endpoint inputs.split speed = .ok ()

/-- It accepts all pipes of a class. -/
structure AcceptsPipes (port : PortState) (inputs : AllocationInputs) (epType : EndpointType)
    (dataIn : EndpointInfo) (dataOut : Option EndpointInfo) : Prop where
  zero : Accepts port inputs .control .both (controlInfo inputs)
  inward : Accepts port inputs epType .inward dataIn
  outward : ∀ endpoint ∈ dataOut, Accepts port inputs epType .outward endpoint

section Spec

variable {ε α : Type} {port : PortState} {inputs : AllocationInputs} {epType : EndpointType}
  {direction : PipeDirection} {endpoint dataIn : EndpointInfo} {dataOut : Option EndpointInfo}
  {pipe : PioHostPipe} {selected : α} {host : ClassHost α}

theorem allocate_safe : Safe (allocate port inputs epType direction endpoint :
    Checked (CreateError ε) PioHostPipe) := by
  unfold allocate
  split
  · exact safe_ok _
  · exact safe_fail _

/-- **One pipe.** -/
theorem allocate_ok (allocated : (allocate port inputs epType direction endpoint :
    Checked (CreateError ε) PioHostPipe) = .ok pipe) :
    Accepts port inputs epType direction endpoint ∧
      GoodPipe port direction ⟨inputs.deviceAddress, endpoint⟩ pipe := by
  unfold allocate allocPipe at allocated
  cases connected : port.connected with
  | false =>
    rw [connected] at allocated
    cases allocated
  | true =>
    rw [connected] at allocated
    cases running : port.speed with
    | none =>
      rw [running] at allocated
      cases allocated
    | some speed =>
      rw [running] at allocated
      cases validated : validatePipe epType direction inputs.deviceAddress endpoint inputs.split
          speed with
      | error error =>
        simp only [validated] at allocated
        cases allocated
      | ok _ =>
        simp only [validated] at allocated
        cases allocated
        refine ⟨⟨connected, speed, running, validated⟩, rfl, ?_, rfl, ?_⟩
        · exact checkValid_eq_ok.mpr ⟨connected, rfl, Or.inr rfl⟩
        · exact engineContract_of_validPipe (validPipe_of_validatePipe validated)

theorem allocate_of_accepts (accepts : Accepts port inputs epType direction endpoint) :
    ∃ pipe, (allocate port inputs epType direction endpoint :
      Checked (CreateError ε) PioHostPipe) = .ok pipe := by
  obtain ⟨connected, speed, running, validated⟩ := accepts
  unfold allocate allocPipe
  rw [connected, running]
  simp only [validated]
  exact ⟨_, rfl⟩

/-- The checks of the inputs refuse nothing that the allocator accepts. -/
theorem inputs_of_accepts (accepts : Accepts port inputs .control .both (controlInfo inputs)) :
    ¬ inputs.deviceAddress > 0x7f ∧
      inputs.controlMaxPacketSize ∈ ([8, 16, 32, 64] : List UInt16) := by
  obtain ⟨-, speed, -, validated⟩ := accepts
  unfold validatePipe at validated
  split at validated
  · cases validated
  next address =>
  refine ⟨address, ?_⟩
  split at validated
  · cases validated
  split at validated
  · cases validated
  split at validated
  · cases validated
  cases speed with
  | low =>
    obtain ⟨-, -, listed⟩ := validateControlPipe_eq_ok.mp validated
    rw [show inputs.controlMaxPacketSize = 8 from List.mem_singleton.mp listed]
    exact List.mem_cons_self
  | full => exact (validateControlPipe_eq_ok.mp validated).2.2
  | high => cases validated

theorem validateAllocationInputs_of_accepts
    (accepts : Accepts port inputs .control .both (controlInfo inputs)) :
    (validateAllocationInputs inputs : Checked (CreateError ε) Unit) = .ok () := by
  obtain ⟨address, size⟩ := inputs_of_accepts accepts
  unfold validateAllocationInputs
  rw [if_neg address, if_neg (not_not_intro size)]

theorem allocatePipes_safe : Safe (allocatePipes port inputs epType selected dataIn dataOut :
    Checked (CreateError ε) (ClassHost α)) := by
  unfold allocatePipes
  refine safe_bind allocate_safe fun _ _ => safe_bind allocate_safe fun _ _ => ?_
  cases dataOut with
  | none => exact safe_ok _
  | some endpoint => exact safe_bind allocate_safe fun _ _ => safe_ok _

/-- **The pipes of a class host.** -/
theorem allocatePipes_ok (allocated : (allocatePipes port inputs epType selected dataIn dataOut :
    Checked (CreateError ε) (ClassHost α)) = .ok host) :
    host.selected = selected ∧ AcceptsPipes port inputs epType dataIn dataOut ∧
      Allocated port inputs dataIn dataOut host := by
  unfold allocatePipes at allocated
  obtain ⟨control, isControl, allocated⟩ := bind_eq_ok.mp allocated
  obtain ⟨pipeIn, isIn, allocated⟩ := bind_eq_ok.mp allocated
  obtain ⟨zero, goodControl⟩ := allocate_ok isControl
  obtain ⟨inward, goodIn⟩ := allocate_ok isIn
  cases dataOut with
  | none =>
    cases allocated
    exact ⟨rfl, ⟨zero, inward, nofun⟩, goodControl, goodIn, nofun, rfl⟩
  | some endpoint =>
    obtain ⟨pipeOut, isOut, allocated⟩ := bind_eq_ok.mp allocated
    obtain ⟨outward, goodOut⟩ := allocate_ok isOut
    cases allocated
    refine ⟨rfl, ⟨zero, inward, ?_⟩, goodControl, goodIn, ?_, rfl⟩
    · rintro _ ⟨⟩
      exact outward
    · rintro _ ⟨⟩
      exact ⟨endpoint, rfl, goodOut⟩

theorem allocatePipes_of_accepts (accepts : AcceptsPipes port inputs epType dataIn dataOut) :
    ∃ host, (allocatePipes port inputs epType selected dataIn dataOut :
      Checked (CreateError ε) (ClassHost α)) = .ok host := by
  obtain ⟨control, isControl⟩ := @allocate_of_accepts ε _ _ _ _ _ accepts.zero
  obtain ⟨pipeIn, isIn⟩ := @allocate_of_accepts ε _ _ _ _ _ accepts.inward
  unfold allocatePipes
  rw [isControl, ok_bind, isIn, ok_bind]
  cases dataOut with
  | none => exact ⟨_, rfl⟩
  | some endpoint =>
    obtain ⟨pipeOut, isOut⟩ := @allocate_of_accepts ε _ _ _ _ _ (accepts.outward endpoint rfl)
    dsimp only
    rw [isOut]
    exact ⟨_, rfl⟩

/-- What the allocations of one class do on any bytes: when they succeed, and with what. -/
def AllocatesFrom (port : PortState) (inputs : AllocationInputs) (epType : EndpointType)
    (discover : List UInt8 → Checked ε α) (supported : α → Prop) (dataIn : α → EndpointInfo)
    (dataOut : α → Option EndpointInfo)
    (create : List UInt8 → Checked (CreateError ε) (ClassHost α)) : Prop :=
  ∀ bytes, Safe (create bytes) ∧
    ((∃ host, create bytes = .ok host) ↔ ∃ selected, discover bytes = .ok selected ∧
      supported selected ∧ AcceptsPipes port inputs epType (dataIn selected) (dataOut selected)) ∧
    ∀ host, create bytes = .ok host → discover bytes = .ok host.selected ∧
      supported host.selected ∧
        Allocated port inputs (dataIn host.selected) (dataOut host.selected) host

theorem validateAllocationInputs_safe :
    Safe (validateAllocationInputs inputs : Checked (CreateError ε) Unit) := by
  unfold validateAllocationInputs
  exact safe_ite (fun _ => safe_fail _) fun _ => safe_ite (fun _ => safe_fail _) fun _ => safe_ok _

/-- The allocation behind a discovery. -/
theorem allocatesFrom_discovered {discover : List UInt8 → Checked ε α} {supported : α → Prop}
    {dataIn : α → EndpointInfo} {dataOut : α → Option EndpointInfo}
    {onward : α → Checked (CreateError ε) (ClassHost α)} (robust : Robust discover)
    (safe : ∀ selected, Safe (onward selected))
    (gives : ∀ selected host, onward selected = .ok host → host.selected = selected ∧
      supported selected ∧ AcceptsPipes port inputs epType (dataIn selected) (dataOut selected) ∧
        Allocated port inputs (dataIn selected) (dataOut selected) host)
    (succeeds : ∀ selected, supported selected →
      AcceptsPipes port inputs epType (dataIn selected) (dataOut selected) →
        ∃ host, onward selected = .ok host) :
    AllocatesFrom port inputs epType discover supported dataIn dataOut
      fun bytes => allocateDiscovered inputs (discover bytes) onward := by
  have inverted : ∀ bytes host, allocateDiscovered inputs (discover bytes) onward = .ok host →
      ∃ selected, discover bytes = .ok selected ∧ onward selected = .ok host := by
    intro bytes host created
    obtain ⟨_, -, created⟩ := bind_eq_ok.mp created
    obtain ⟨selected, discovered, created⟩ := bind_eq_ok.mp created
    exact ⟨selected, convert_eq_ok.mp discovered, created⟩
  refine fun bytes => ⟨?_, ⟨?_, ?_⟩, fun host created => ?_⟩
  · exact safe_bind validateAllocationInputs_safe fun _ _ =>
      safe_bind (safe_convert (robust.safe bytes)) fun selected _ => safe selected
  · rintro ⟨host, created⟩
    obtain ⟨selected, discovered, created⟩ := inverted bytes host created
    obtain ⟨-, fits, accepts, -⟩ := gives selected host created
    exact ⟨selected, discovered, fits, accepts⟩
  · rintro ⟨selected, discovered, fits, accepts⟩
    obtain ⟨host, created⟩ := succeeds selected fits accepts
    refine ⟨host, ?_⟩
    show (do validateAllocationInputs inputs; let selected ← convert .configuration (discover bytes)
             onward selected) = .ok host
    rw [validateAllocationInputs_of_accepts accepts.zero, discovered]
    exact created
  · obtain ⟨selected, discovered, created⟩ := inverted bytes host created
    obtain ⟨rfl, fits, -, allocated⟩ := gives selected host created
    exact ⟨discovered, fits, allocated⟩

theorem allocateSelected_safe {supported : Bool} :
    Safe (allocateSelected supported port inputs epType selected dataIn dataOut :
      Checked (CreateError ε) (ClassHost α)) := by
  unfold allocateSelected
  refine safe_bind validateAllocationInputs_safe fun _ _ => ?_
  exact safe_ite (fun _ => allocatePipes_safe) fun _ => safe_fail _

theorem allocateSelected_ok {supported : Bool}
    (allocated : (allocateSelected supported port inputs epType selected dataIn dataOut :
      Checked (CreateError ε) (ClassHost α)) = .ok host) :
    host.selected = selected ∧ supported = true ∧ AcceptsPipes port inputs epType dataIn dataOut ∧
      Allocated port inputs dataIn dataOut host := by
  obtain ⟨_, -, allocated⟩ := bind_eq_ok.mp allocated
  cases supported with
  | false => cases allocated
  | true =>
    obtain ⟨same, pipes⟩ := allocatePipes_ok allocated
    exact ⟨same, rfl, pipes⟩

theorem allocateSelected_of_accepts {supported : Bool} (fits : supported = true)
    (accepts : AcceptsPipes port inputs epType dataIn dataOut) :
    ∃ host, (allocateSelected supported port inputs epType selected dataIn dataOut :
      Checked (CreateError ε) (ClassHost α)) = .ok host := by
  unfold allocateSelected
  rw [validateAllocationInputs_of_accepts accepts.zero, ok_bind, if_pos fits]
  exact allocatePipes_of_accepts accepts

end Spec

theorem Audio.allocateAudioInput_allocates (port : PortState) (inputs : AllocationInputs) :
    AllocatesFrom port inputs .isochronous Audio.AudioInputInterface.discover (fun _ => True)
      Audio.AudioInputInterface.endpointInfo (fun _ => none)
      (Audio.allocateAudioInput port inputs) := by
  intro bytes
  unfold Audio.allocateAudioInput
  by_cases size : inputs.controlMaxPacketSize ∈ ([8, 16, 32, 64] : List UInt16)
  · rw [if_neg (not_not_intro size)]
    refine ⟨safe_bind (safe_convert (Audio.discover_robust.safe bytes)) fun _ _ => allocatePipes_safe,
      ⟨?_, ?_⟩, ?_⟩
    · rintro ⟨host, created⟩
      obtain ⟨interface, discovered, created⟩ := bind_eq_ok.mp created
      exact ⟨interface, convert_eq_ok.mp discovered, trivial, (allocatePipes_ok created).2.1⟩
    · rintro ⟨interface, discovered, -, accepts⟩
      rw [discovered]
      exact allocatePipes_of_accepts accepts
    · intro host created
      obtain ⟨interface, discovered, created⟩ := bind_eq_ok.mp created
      obtain ⟨rfl, -, allocated⟩ := allocatePipes_ok created
      exact ⟨convert_eq_ok.mp discovered, trivial, allocated⟩
  · rw [if_pos size]
    refine ⟨safe_fail _, ⟨?_, ?_⟩, fun host created => absurd created (fail_ne_ok _ _)⟩
    · rintro ⟨host, created⟩
      exact absurd created (fail_ne_ok _ _)
    · rintro ⟨interface, -, -, accepts⟩
      exact absurd (inputs_of_accepts accepts.zero).2 size

/-- **From untrusted descriptors to the wire.** Whatever the bytes of the configuration, the state of the
port, and the address, size and split of the device: no class's allocation panics; it succeeds exactly
when discovery selects a function whose packets the class supports and whose pipes the allocator accepts;
and its pipes are then current, lead to endpoint zero and the endpoints of that function, and hand down
to the packet engine nothing that its contract does not allow. -/
theorem allocation_spec (port : PortState) (inputs : AllocationInputs) (capacity : Nat) :
    AllocatesFrom port inputs .bulk Cdc.CdcAcmFunction.discover
        (fun function => Cdc.rxPacketCapacitySupports capacity
          function.bulkInEndpoint.maxPacketSize.toNat = true)
        (fun function => endpointInfo .bulk function.bulkInEndpoint)
        (fun function => some (endpointInfo .bulk function.bulkOutEndpoint))
        (Cdc.allocateCdcAcmHost port inputs capacity) ∧
      (∀ interface, AllocatesFrom port inputs .bulk (Cdc.discoverControlInterface · interface)
        (fun function => Cdc.rxPacketCapacitySupports capacity
          function.bulkInEndpoint.maxPacketSize.toNat = true)
        (fun function => endpointInfo .bulk function.bulkInEndpoint)
        (fun function => some (endpointInfo .bulk function.bulkOutEndpoint))
        (Cdc.allocateCdcAcmHostForControlInterface port inputs capacity interface)) ∧
      AllocatesFrom port inputs .interrupt Hid.HidInterface.discover
        (fun interface => Hid.validateInterruptIn interface = true)
        (fun interface => endpointInfo .interrupt interface.interruptInEndpoint)
        (fun interface => interface.interruptOutEndpoint.map (endpointInfo .interrupt))
        (Hid.allocateHidHost port inputs) ∧
      (∀ number, AllocatesFrom port inputs .interrupt (Hid.HidInterface.discoverInterface · number)
        (fun interface => Hid.validateInterruptIn interface = true)
        (fun interface => endpointInfo .interrupt interface.interruptInEndpoint)
        (fun interface => interface.interruptOutEndpoint.map (endpointInfo .interrupt))
        (Hid.allocateHidHostForInterface port inputs number)) ∧
      (∀ device, AllocatesFrom port inputs .bulk (Ftdi.FtdiInterface.discover device)
        (fun interface => interface.bulkInEndpoint.maxPacketSize.toNat ≤ capacity)
        (fun interface => endpointInfo .bulk interface.bulkInEndpoint)
        (fun interface => some (endpointInfo .bulk interface.bulkOutEndpoint))
        (Ftdi.allocateFtdiHost port inputs capacity device)) ∧
      AllocatesFrom port inputs .bulk Usbtmc.UsbtmcInterface.discover
        (fun interface => interface.bulkInEndpoint.maxPacketSize.toNat ≤ Usbtmc.defaultPacketCapacity)
        (fun interface => endpointInfo .bulk interface.bulkInEndpoint)
        (fun interface => some (endpointInfo .bulk interface.bulkOutEndpoint))
        (Usbtmc.allocateUsbtmcHost port inputs) ∧
      AllocatesFrom port inputs .isochronous Audio.AudioInputInterface.discover (fun _ => True)
        Audio.AudioInputInterface.endpointInfo (fun _ => none)
        (Audio.allocateAudioInput port inputs) := by
  refine ⟨?_, fun interface => ?_, ?_, fun number => ?_, fun device => ?_, ?_,
    Audio.allocateAudioInput_allocates port inputs⟩
  · exact allocatesFrom_discovered (CandidateClass.robust_discover Cdc.acmControls_robust)
      (fun _ => allocateSelected_safe) (fun _ _ created => allocateSelected_ok created)
      fun _ fits accepts => allocateSelected_of_accepts fits accepts
  · exact allocatesFrom_discovered (Cdc.discoverControlInterface_robust interface)
      (fun _ => allocateSelected_safe) (fun _ _ created => allocateSelected_ok created)
      fun _ fits accepts => allocateSelected_of_accepts fits accepts
  · exact allocatesFrom_discovered (CandidateClass.robust_discover Hid.hidInterfaces_robust)
      (fun _ => allocateSelected_safe) (fun _ _ created => allocateSelected_ok created)
      fun _ fits accepts => allocateSelected_of_accepts fits accepts
  · have robust := CandidateClass.robust_discoverInterface Hid.hidInterfaces_robust number
    exact allocatesFrom_discovered robust
      (fun _ => allocateSelected_safe) (fun _ _ created => allocateSelected_ok created)
      fun _ fits accepts => allocateSelected_of_accepts fits accepts
  · refine allocatesFrom_discovered (Ftdi.discoverInterface_robust device none)
      (fun _ => allocateSelected_safe) (fun interface host created => ?_)
      fun interface fits accepts => ?_
    · obtain ⟨same, fits, pipes⟩ := allocateSelected_ok created
      exact ⟨same, of_decide_eq_true fits, pipes⟩
    · exact allocateSelected_of_accepts (decide_eq_true fits) accepts
  · refine allocatesFrom_discovered Usbtmc.discover_robust
      (fun _ => safe_ite (fun _ => safe_fail _) fun _ => allocatePipes_safe)
      (fun interface host created => ?_) fun interface fits accepts => ?_
    · by_cases large : interface.bulkInEndpoint.maxPacketSize.toNat > Usbtmc.defaultPacketCapacity
      · rw [if_pos large] at created
        cases created
      · rw [if_neg large] at created
        obtain ⟨same, pipes⟩ := allocatePipes_ok created
        exact ⟨same, Nat.le_of_not_lt large, pipes⟩
    · rw [if_neg (Nat.not_lt.mpr fits)]
      exact allocatePipes_of_accepts accepts

end PioUsbHost
