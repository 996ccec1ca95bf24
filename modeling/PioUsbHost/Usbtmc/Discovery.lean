/-
**USBTMC interface discovery.**

`UsbtmcInterface.discover` takes the first alternate-setting-zero USBTMC interface and the endpoints
of its section, and stops at the next one. `allocationChecks` are the checks of the allocator before
it allocates the pipes.

* `discover_bulkInEndpoint`: the bulk-IN packet sizes that discovery accepts.
-/

import PioUsbHost.Usb.Descriptor

namespace PioUsbHost.Usbtmc

open PioUsbHost.Lib.Panic PioUsbHost.Usb

/-! ### Constants -/

/-- `bInterfaceClass` of USBTMC. -/
def usbtmcInterfaceClass : UInt8 := 0xfe

/-- `bInterfaceSubClass` of USBTMC. -/
def usbtmcInterfaceSubclass : UInt8 := 0x03

/-- `bInterfaceProtocol` of plain USBTMC. -/
def usbtmcProtocol : UInt8 := 0x00

/-- `bInterfaceProtocol` of USB488. -/
def usbtmcUsb488Protocol : UInt8 := 0x01

/-- Full-speed USBTMC bulk packet capacity. -/
def defaultPacketCapacity : Nat := 64

/-- Default maximum outbound USBTMC message, including its 12-byte header. -/
def defaultOutMessageCapacity : Nat := 512

/-- Error while discovering a USBTMC interface. -/
inductive UsbtmcConfigurationError where
  | configuration (error : ConfigurationError)
  | missingInterface
  | invalidInterfaceDescriptor
  | invalidEndpointDescriptor
  | missingBulkInEndpoint
  | missingBulkOutEndpoint
  deriving DecidableEq, Repr

/-- A descriptor-validated USBTMC interface. -/
structure UsbtmcInterface where
  configuration : ConfigurationDescriptorHeader
  interfaceNumber : UInt8
  protocol : UInt8
  bulkOutEndpoint : EndpointDescriptor
  bulkInEndpoint : EndpointDescriptor
  interruptInEndpoint : Option EndpointDescriptor
  deriving DecidableEq, Repr

/-! ### Endpoints -/

/-- `parse_endpoint`. -/
def parseEndpoint (bytes : List UInt8) : Checked UsbtmcConfigurationError EndpointDescriptor := do
  let rejected ← orElse (bytes.length ≠ 7) do return (← index bytes 1) ≠ descriptorTypeEndpoint
  if rejected then fail .invalidEndpointDescriptor
  else
    let (endpoint, rawMaxPacketSize) ← convert .configuration (EndpointDescriptor.read bytes)
    if endpoint.address &&& 0x70 ≠ 0 ∨ endpoint.number = 0
        ∨ endpoint.attributes &&& 0x03 ∉ [0x02, 0x03] ∨ rawMaxPacketSize &&& 0xf800 ≠ 0 then
      fail .invalidEndpointDescriptor
    else return endpoint

/-- The packet sizes of a bulk endpoint. -/
def validBulkPacketSize (maxPacketSize : UInt16) : Bool := maxPacketSize ∈ [8, 16, 32, 64, 512]

/-- The packet sizes of an interrupt endpoint. -/
def validInterruptPacketSize (maxPacketSize : UInt16) : Bool :=
  maxPacketSize ≥ 2 ∧ maxPacketSize ≤ 1024

/-! ### The loop -/

/-- The variables of the loop. -/
structure Search where
  selected : Option (UInt8 × UInt8) := none
  currentSelected : Bool := false
  bulkIn : Option EndpointDescriptor := none
  bulkOut : Option EndpointDescriptor := none
  interruptIn : Option EndpointDescriptor := none
  deriving DecidableEq, Repr

/-- An interface descriptor of nine bytes that starts a USBTMC section. -/
def isUsbtmc (descriptor : List UInt8) : Checked UsbtmcConfigurationError Bool := do
  let alternateSetting ← index descriptor 3
  let class_ ← index descriptor 5
  let subclass ← index descriptor 6
  let protocol ← index descriptor 7
  return alternateSetting = 0 ∧ class_ = usbtmcInterfaceClass ∧ subclass = usbtmcInterfaceSubclass
    ∧ protocol ∈ [usbtmcProtocol, usbtmcUsb488Protocol]

/-- An endpoint of the selected section; each of the three slots is filled once. -/
def acceptEndpoint (search : Search) (endpoint : EndpointDescriptor) :
    Checked UsbtmcConfigurationError Search :=
  if endpoint.attributes &&& 0x03 = 0x02 ∧ endpoint.isIn then
    if validBulkPacketSize endpoint.maxPacketSize ∧ search.bulkIn.isNone then
      return { search with bulkIn := some endpoint }
    else fail .invalidEndpointDescriptor
  else if endpoint.attributes &&& 0x03 = 0x02 then
    if validBulkPacketSize endpoint.maxPacketSize ∧ search.bulkOut.isNone then
      return { search with bulkOut := some endpoint }
    else fail .invalidEndpointDescriptor
  else if endpoint.attributes &&& 0x03 = 0x03 ∧ endpoint.isIn then
    if validInterruptPacketSize endpoint.maxPacketSize ∧ endpoint.interval ≠ 0
        ∧ search.interruptIn.isNone then
      return { search with interruptIn := some endpoint }
    else fail .invalidEndpointDescriptor
  else fail .invalidEndpointDescriptor

/-- The loop over the descriptors, which a second USBTMC interface ends. -/
def searchFrom (search : Search) :
    List DescriptorIter.Item → Checked UsbtmcConfigurationError Search
  | [] => .ok search
  | item :: rest => do
    let descriptor ← convert .configuration item
    let kind ← index descriptor 1
    if kind = descriptorTypeInterface then
      if descriptor.length ≠ 9 then fail .invalidInterfaceDescriptor
      else if ← isUsbtmc descriptor then
        if search.selected.isSome then return search
        else
          searchFrom
            { selected := some (← index descriptor 2, ← index descriptor 7), currentSelected := true }
            rest
      else searchFrom { search with currentSelected := false } rest
    else if kind = descriptorTypeEndpoint ∧ search.currentSelected then
      searchFrom (← acceptEndpoint search (← parseEndpoint descriptor)) rest
    else searchFrom search rest

/-- Discover the first alternate-setting-zero USBTMC interface. -/
def UsbtmcInterface.discover (bytes : List UInt8) :
    Checked UsbtmcConfigurationError UsbtmcInterface := do
  let configuration ← convert .configuration (ConfigurationDescriptorHeader.parse bytes)
  let iter ← convert .configuration (DescriptorIter.new bytes)
  let search ← searchFrom {} iter.items
  let (interfaceNumber, protocol) ← okOr search.selected .missingInterface
  return {
    configuration
    interfaceNumber
    protocol
    bulkOutEndpoint := ← okOr search.bulkOut .missingBulkOutEndpoint
    bulkInEndpoint := ← okOr search.bulkIn .missingBulkInEndpoint
    interruptInEndpoint := search.interruptIn }

/-! ### The allocator's checks -/

/-- Error while allocating a USBTMC class instance. -/
inductive UsbtmcCreateError where
  | configuration (error : UsbtmcConfigurationError)
  | invalidDeviceAddress
  | invalidControlMaxPacketSize
  | unsupportedBulkInMaxPacketSize
  deriving DecidableEq, Repr

/-- `allocate_usbtmc_host`, up to the allocation of the pipes. -/
def allocationChecks (configuration : List UInt8) (deviceAddress : UInt8)
    (controlMaxPacketSize : UInt16) : Checked UsbtmcCreateError UsbtmcInterface := do
  if deviceAddress > 0x7f then fail .invalidDeviceAddress
  else if controlMaxPacketSize ∉ [8, 16, 32, 64] then fail .invalidControlMaxPacketSize
  else
    let interface ← convert .configuration (UsbtmcInterface.discover configuration)
    if interface.bulkInEndpoint.maxPacketSize.toNat > defaultPacketCapacity then
      fail .unsupportedBulkInMaxPacketSize
    else return interface

/-! ### The packet sizes that discovery accepts -/

/-- The bulk-IN slot holds an endpoint with a valid packet size. -/
def Search.Valid (search : Search) : Prop :=
  ∀ endpoint ∈ search.bulkIn, validBulkPacketSize endpoint.maxPacketSize

theorem acceptEndpoint_valid {search next : Search} {endpoint : EndpointDescriptor}
    (valid : search.Valid) (accepted : acceptEndpoint search endpoint = .ok next) : next.Valid := by
  unfold acceptEndpoint at accepted
  repeat' split at accepted
  case isTrue.isTrue bulkIn fits =>
    cases accepted
    rintro _ ⟨⟩
    exact fits.1
  all_goals first
    | cases accepted; exact valid
    | exact absurd accepted (fail_ne_ok _ _)

theorem searchFrom_valid {search result : Search} {items : List DescriptorIter.Item}
    (valid : search.Valid) (found : searchFrom search items = .ok result) : result.Valid := by
  induction items generalizing search with
  | nil =>
    cases found
    exact valid
  | cons item rest ih =>
    rw [searchFrom] at found
    obtain ⟨descriptor, -, found⟩ := bind_eq_ok.mp found
    obtain ⟨kind, -, found⟩ := bind_eq_ok.mp found
    split at found
    · split at found
      · exact absurd found (fail_ne_ok _ _)
      · obtain ⟨current, -, found⟩ := bind_eq_ok.mp found
        split at found
        · split at found
          · cases found
            exact valid
          · obtain ⟨number, -, found⟩ := bind_eq_ok.mp found
            obtain ⟨protocol, -, found⟩ := bind_eq_ok.mp found
            exact ih (by rintro _ ⟨⟩) found
        · refine ih ?_ found
          exact valid
    · split at found
      · obtain ⟨endpoint, -, found⟩ := bind_eq_ok.mp found
        obtain ⟨next, accepted, found⟩ := bind_eq_ok.mp found
        exact ih (acceptEndpoint_valid valid accepted) found
      · exact ih valid found

/-- **Discovery accepts five bulk-IN packet sizes.** -/
theorem discover_bulkInEndpoint {bytes : List UInt8} {interface : UsbtmcInterface}
    (discovered : UsbtmcInterface.discover bytes = .ok interface) :
    validBulkPacketSize interface.bulkInEndpoint.maxPacketSize := by
  obtain ⟨configuration, -, discovered⟩ := bind_eq_ok.mp discovered
  obtain ⟨iter, -, discovered⟩ := bind_eq_ok.mp discovered
  obtain ⟨search, found, discovered⟩ := bind_eq_ok.mp discovered
  obtain ⟨⟨number, protocol⟩, -, discovered⟩ := bind_eq_ok.mp discovered
  obtain ⟨bulkOut, -, discovered⟩ := bind_eq_ok.mp discovered
  obtain ⟨bulkIn, filled, discovered⟩ := bind_eq_ok.mp discovered
  cases discovered
  have valid := searchFrom_valid (show Search.Valid {} from by rintro _ ⟨⟩) found
  apply valid
  cases slot : search.bulkIn with
  | none => simp [slot] at filled
  | some endpoint =>
    rw [slot] at filled
    cases filled
    rfl

/-- An interface that passes the allocator's checks was discovered, and its packets fit the host's
buffer. -/
theorem discovered_of_allocationChecks {configuration : List UInt8} {deviceAddress : UInt8}
    {controlMaxPacketSize : UInt16} {interface : UsbtmcInterface}
    (allocated : allocationChecks configuration deviceAddress controlMaxPacketSize = .ok interface) :
    UsbtmcInterface.discover configuration = .ok interface ∧
      interface.bulkInEndpoint.maxPacketSize.toNat ≤ defaultPacketCapacity := by
  rw [allocationChecks] at allocated
  split at allocated
  · exact absurd allocated (fail_ne_ok _ _)
  · split at allocated
    · exact absurd allocated (fail_ne_ok _ _)
    · obtain ⟨discovered, found, allocated⟩ := bind_eq_ok.mp allocated
      split at allocated
      · exact absurd allocated (fail_ne_ok _ _)
      next fits =>
        cases allocated
        exact ⟨convert_eq_ok.mp found, Nat.not_lt.mp fits⟩

end PioUsbHost.Usbtmc
