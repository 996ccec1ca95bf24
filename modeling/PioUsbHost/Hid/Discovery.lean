/-
**HID interface discovery.**

`discoverCandidate` validates one alternate-setting-zero HID interface: its HID class descriptor, which
must name one report descriptor, and its interrupt endpoints. `HidInterfaces` is the iterator over the
HID interfaces, `HidInterface.discover` its first valid item, and `discoverInterface` the explicit
selection of one interface number.
-/

import PioUsbHost.Usb.Candidates
import PioUsbHost.Usb.InterfaceScan

namespace PioUsbHost.Hid

open PioUsbHost.Lib.Panic PioUsbHost.Usb

/-! ### Constants -/

/-- `bDescriptorType` of a HID descriptor. -/
def descriptorTypeHid : UInt8 := 0x21

/-- `bDescriptorType` of a report descriptor. -/
def descriptorTypeHidReport : UInt8 := 0x22

/-- `bInterfaceClass` of a HID interface. -/
def usbClassHid : UInt8 := 0x03

/-- Error while discovering and validating one HID interface. -/
inductive HidConfigurationError where
  | configuration (error : ConfigurationError)
  | missingInterface
  | invalidInterfaceDescriptor
  | missingHidDescriptor
  | invalidHidDescriptor
  | duplicateHidDescriptor
  | missingReportDescriptor
  | duplicateReportDescriptor
  | invalidEndpointDescriptor
  | missingInterruptInEndpoint
  | duplicateInterruptInEndpoint
  | duplicateInterruptOutEndpoint
  deriving DecidableEq, Repr

/-- A validated alternate-setting-zero HID interface and its report endpoints. -/
structure HidInterface where
  interfaceNumber : UInt8
  interfaceSubclass : UInt8
  interfaceProtocol : UInt8
  hidVersionBcd : UInt16
  countryCode : UInt8
  reportDescriptorLen : UInt16
  interruptInEndpoint : EndpointDescriptor
  interruptOutEndpoint : Option EndpointDescriptor
  deriving DecidableEq, Repr

/-- The default setting of a HID interface. -/
def isHid (interface : InterfaceDescriptor) : Bool :=
  interface.alternateSetting = 0 ∧ interface.class_ = usbClassHid

/-- An interrupt endpoint that a HID interface can have. -/
def isSupportedHidInterrupt (endpoint : EndpointDescriptor) : Bool :=
  endpoint.transferType = 0x03 ∧ endpoint.attributes &&& 0xfc = 0
    ∧ endpoint.maxPacketSize ≤ 1024 ∧ endpoint.interval ≠ 0

/-! ### The HID class descriptor -/

/-- The fields of a HID descriptor that the host uses. -/
structure HidDescriptor where
  hidVersionBcd : UInt16
  countryCode : UInt8
  reportDescriptorLen : UInt16
  deriving DecidableEq, Repr

/-- One entry of the list of class descriptors. -/
def reportDescriptorEntry (reportDescriptorLen : Option UInt16) (descriptor : List UInt8) :
    Checked HidConfigurationError (Option UInt16) := do
  let descriptorType ← index descriptor 0
  let descriptorLen := u16FromLeBytes (← index descriptor 1) (← index descriptor 2)
  if descriptorLen = 0 then fail .invalidHidDescriptor
  else if descriptorType = descriptorTypeHidReport then
    if reportDescriptorLen.isSome then fail .duplicateReportDescriptor else return some descriptorLen
  else return reportDescriptorLen

/-- `6 + 3 * count`, the length of a HID descriptor with that many entries. -/
def expectedLen (descriptorCount : Nat) : Checked HidConfigurationError Nat := do
  let entries ← okOr (checked UInt32.size (descriptorCount * 3)) .invalidHidDescriptor
  okOr (checked UInt32.size (6 + entries)) .invalidHidDescriptor

/-- `HidDescriptor::parse`. -/
def HidDescriptor.parse (bytes : List UInt8) : Checked HidConfigurationError HidDescriptor := do
  let rejected ← orElse (bytes.length < 6) do return (← index bytes 1) ≠ descriptorTypeHid
  if rejected then fail .invalidHidDescriptor
  else
    let descriptorCount := (← index bytes 5).toNat
    if bytes.length ≠ (← expectedLen descriptorCount) then fail .invalidHidDescriptor
    else
      let entries := chunksExact 3 (← slice bytes 6 bytes.length)
      let reportDescriptorLen ← entries.foldlM reportDescriptorEntry none
      return {
        hidVersionBcd := u16FromLeBytes (← index bytes 2) (← index bytes 3)
        countryCode := ← index bytes 4
        reportDescriptorLen := ← okOr reportDescriptorLen .missingReportDescriptor }

/-! ### The interface's section -/

/-- What the pass finds. -/
structure HidFindings where
  hidDescriptor : Option HidDescriptor := none
  endpointsSeen : UInt8 := 0
  interruptInEndpoint : Option EndpointDescriptor := none
  interruptOutEndpoint : Option EndpointDescriptor := none
  deriving DecidableEq, Repr

/-- The `DESCRIPTOR_TYPE_HID` branch in the section. -/
def hidBranch (found : HidFindings) (descriptor : List UInt8) :
    Checked HidConfigurationError HidFindings := do
  let parsed ← HidDescriptor.parse descriptor
  if found.hidDescriptor.isSome then fail .duplicateHidDescriptor
  else return { found with hidDescriptor := some parsed }

/-- The `DESCRIPTOR_TYPE_ENDPOINT` branch in the section. -/
def interruptBranch (found : HidFindings) (descriptor : List UInt8) :
    Checked HidConfigurationError HidFindings := do
  let endpoint ← convert (fun _ => .invalidEndpointDescriptor) (EndpointDescriptor.parse descriptor)
  let endpointsSeen ← okOr (increment found.endpointsSeen) .invalidEndpointDescriptor
  if ¬ isSupportedHidInterrupt endpoint then fail .invalidEndpointDescriptor
  else if endpoint.isIn then
    if found.interruptInEndpoint.isSome then fail .duplicateInterruptInEndpoint
    else return { found with endpointsSeen, interruptInEndpoint := some endpoint }
  else
    if found.interruptOutEndpoint.isSome then fail .duplicateInterruptOutEndpoint
    else return { found with endpointsSeen, interruptOutEndpoint := some endpoint }

/-- One descriptor of the requested interface; `isHid` asks for alternate setting 0 as well. -/
def hidInside (interface : InterfaceDescriptor) (found : HidFindings) (descriptor : List UInt8) :
    Checked HidConfigurationError HidFindings := do
  let kind ← index descriptor 1
  if kind = descriptorTypeHid then
    if isHid interface then hidBranch found descriptor else return found
  else if kind = descriptorTypeEndpoint then
    if isHid interface then interruptBranch found descriptor else return found
  else return found

/-! ### The interface -/

/-- The checks after the pass, and the result. -/
def hidInterfaceOf (requestedInterface : UInt8) (scan : InterfaceScan HidFindings) :
    Checked HidConfigurationError HidInterface := do
  let interface ← okOr scan.selected .missingInterface
  if ¬ isHid interface then fail .missingInterface
  else if interface.endpointCount ≠ scan.found.endpointsSeen
      ∨ interface.endpointCount ∉ [1, 2] then
    fail .invalidEndpointDescriptor
  else
    let hidDescriptor ← okOr scan.found.hidDescriptor .missingHidDescriptor
    let interruptInEndpoint ← okOr scan.found.interruptInEndpoint .missingInterruptInEndpoint
    return {
      interfaceNumber := requestedInterface
      interfaceSubclass := interface.subclass
      interfaceProtocol := interface.protocol
      hidVersionBcd := hidDescriptor.hidVersionBcd
      countryCode := hidDescriptor.countryCode
      reportDescriptorLen := hidDescriptor.reportDescriptorLen
      interruptInEndpoint
      interruptOutEndpoint := scan.found.interruptOutEndpoint }

/-- `discover_candidate`. -/
def discoverCandidate (bytes : List UInt8) (requestedInterface : UInt8) :
    Checked HidConfigurationError HidInterface := do
  let scan ← forDescriptors .configuration bytes
    (InterfaceScan.step requestedInterface .invalidInterfaceDescriptor hidInside) ⟨none, none, {}⟩
  hidInterfaceOf requestedInterface scan

/-! ### The iterator -/

/-- A malformed interface descriptor with enough fields to identify a HID interface. -/
def isMalformedHid (descriptor : List UInt8) : Checked HidConfigurationError Bool :=
  andThen (7 ≤ descriptor.length) do
    andThen ((← index descriptor 3) = 0) do return (← index descriptor 5) = usbClassHid

/-- What the iterator looks for. -/
def hidInterfaces : CandidateClass HidConfigurationError HidInterface where
  into := .configuration
  isCandidate := isHid
  isMalformedCandidate := isMalformedHid
  malformed := fun _ => .invalidInterfaceDescriptor
  discoverCandidate := discoverCandidate
  missing := .missingInterface

/-- Iterates over independently validated HID interfaces in a configuration. -/
abbrev HidInterfaces := CandidateIter

namespace HidInterfaces

/-- `HidInterfaces::new`. -/
def new (bytes : List UInt8) : Checked HidConfigurationError HidInterfaces := hidInterfaces.new bytes

/-- Its `Iterator::next`. -/
def next (interfaces : HidInterfaces) :
    Option (Checked HidConfigurationError HidInterface) × HidInterfaces :=
  hidInterfaces.next interfaces

end HidInterfaces

namespace HidInterface

/-- Discover the first valid alternate-setting-zero HID interface. -/
def discover (bytes : List UInt8) : Checked HidConfigurationError HidInterface :=
  hidInterfaces.discover bytes

/-- Discover and validate a particular alternate-setting-zero HID interface. -/
def discoverInterface (bytes : List UInt8) (interfaceNumber : UInt8) :
    Checked HidConfigurationError HidInterface :=
  hidInterfaces.discoverInterface bytes interfaceNumber

end HidInterface

end PioUsbHost.Hid
