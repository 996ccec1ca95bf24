/-
**CDC-ACM function discovery.**

`discoverControlInterface` is the explicit selection of one communications interface. It makes one
pass for the control interface's section (`controlInside`), checks the subordinates that the Union
descriptor lists, and makes one pass over the configuration for each of them
(`discoverDataInterface`) until the data interface is known.
-/

import PioUsbHost.Usb.InterfaceScan

namespace PioUsbHost.Cdc

open PioUsbHost.Lib.Panic PioUsbHost.Usb

/-! ### Constants -/

/-- `bDescriptorType` of a class-specific interface descriptor. -/
def descriptorTypeClassInterface : UInt8 := 0x24

/-- `bInterfaceClass` of a communications interface. -/
def usbClassCommunications : UInt8 := 0x02

/-- `bInterfaceSubClass` of the abstract control model. -/
def usbSubclassAcm : UInt8 := 0x02

/-- `bInterfaceClass` of a data interface. -/
def usbClassCdcData : UInt8 := 0x0a

/-- The Header functional descriptor. -/
def cdcDescriptorSubtypeHeader : UInt8 := 0x00

/-- The Call Management functional descriptor. -/
def cdcDescriptorSubtypeCallManagement : UInt8 := 0x01

/-- The ACM functional descriptor. -/
def cdcDescriptorSubtypeAcm : UInt8 := 0x02

/-- The Union functional descriptor. -/
def cdcDescriptorSubtypeUnion : UInt8 := 0x06

/-- The device can do call management over the data interface. -/
def cdcCallManagementCapabilityDataInterface : UInt8 := 0x02

/-- The device does call management itself. -/
def cdcCallManagementCapabilityHandlesCalls : UInt8 := 0x01

/-! ### Results -/

/-- The interfaces and endpoints needed by a first CDC-ACM class driver. -/
structure CdcAcmFunction where
  configuration : ConfigurationDescriptorHeader
  controlInterface : UInt8
  dataInterface : UInt8
  cdcVersionBcd : UInt16
  acmCapabilities : UInt8
  notificationEndpoint : Option EndpointDescriptor
  bulkOutEndpoint : EndpointDescriptor
  bulkInEndpoint : EndpointDescriptor
  deriving DecidableEq, Repr

/-- A data interface with its two endpoints. -/
structure DataInterface where
  number : UInt8
  bulkOutEndpoint : EndpointDescriptor
  bulkInEndpoint : EndpointDescriptor
  deriving DecidableEq, Repr

/-- The default setting of an interface with the class and subclass of ACM control. -/
def isAcmControl (interface : InterfaceDescriptor) : Bool :=
  interface.alternateSetting = 0 ∧ interface.class_ = usbClassCommunications
    ∧ interface.subclass = usbSubclassAcm

/-- `endpoints_seen.checked_add(1).ok_or(InvalidEndpointDescriptor)?` -/
def countEndpoint (endpointsSeen : UInt8) : Checked ConfigurationError UInt8 :=
  if endpointsSeen.toNat + 1 < 256 then .ok (endpointsSeen + 1) else fail .invalidEndpointDescriptor

/-! ### The control interface's section -/

/-- What the pass for the control interface finds. -/
structure ControlFindings where
  endpointsSeen : UInt8 := 0
  notificationEndpoint : Option EndpointDescriptor := none
  firstFunctionalDescriptorSeen : Bool := false
  cdcVersionBcd : Option UInt16 := none
  acmCapabilities : Option UInt8 := none
  unionDescriptor : Option (List UInt8) := none
  callManagement : Option (UInt8 × UInt8) := none
  deriving DecidableEq, Repr

/-- The `match` on a functional descriptor's subtype. -/
def functionalDescriptor (found : ControlFindings) (subtype : UInt8) (descriptor : List UInt8) :
    Checked ConfigurationError ControlFindings := do
  if subtype = cdcDescriptorSubtypeHeader then
    if descriptor.length ≠ 5 ∨ found.cdcVersionBcd.isSome then fail .invalidFunctionalDescriptor
    else
      return { found with
        cdcVersionBcd := some (u16FromLeBytes (← index descriptor 3) (← index descriptor 4)) }
  else if subtype = cdcDescriptorSubtypeCallManagement then
    let rejected ← orElse (descriptor.length ≠ 5 ∨ found.callManagement.isSome) do
      let capabilities ← index descriptor 3
      return capabilities &&& ~~~0x03 ≠ 0
        ∨ capabilities &&& 0x03 = cdcCallManagementCapabilityDataInterface
    if rejected then fail .invalidFunctionalDescriptor
    else return { found with callManagement := some (← index descriptor 3, ← index descriptor 4) }
  else if subtype = cdcDescriptorSubtypeAcm then
    let rejected ← orElse (descriptor.length ≠ 4 ∨ found.acmCapabilities.isSome) do
      return (← index descriptor 3) &&& 0xf0 ≠ 0
    if rejected then fail .invalidFunctionalDescriptor
    else return { found with acmCapabilities := some (← index descriptor 3) }
  else if subtype = cdcDescriptorSubtypeUnion then
    if descriptor.length < 5 ∨ found.unionDescriptor.isSome then fail .invalidFunctionalDescriptor
    else return { found with unionDescriptor := some descriptor }
  else return found

/-- The `DESCRIPTOR_TYPE_CLASS_INTERFACE` branch in the section. -/
def classInterfaceBranch (found : ControlFindings) (descriptor : List UInt8) :
    Checked ConfigurationError ControlFindings := do
  if descriptor.length < 3 then fail .invalidFunctionalDescriptor
  else
    let subtype ← index descriptor 2
    if ¬ found.firstFunctionalDescriptorSeen ∧ subtype ≠ cdcDescriptorSubtypeHeader then
      fail .invalidFunctionalDescriptor
    else
      functionalDescriptor { found with firstFunctionalDescriptorSeen := true } subtype descriptor

/-- The `DESCRIPTOR_TYPE_ENDPOINT` branch in the section. -/
def notificationBranch (found : ControlFindings) (descriptor : List UInt8) :
    Checked ConfigurationError ControlFindings := do
  let endpoint ← EndpointDescriptor.parse descriptor
  let endpointsSeen ← countEndpoint found.endpointsSeen
  if ¬ endpoint.isSupportedInterruptIn ∨ found.notificationEndpoint.isSome then
    fail .invalidEndpointDescriptor
  else return { found with endpointsSeen, notificationEndpoint := some endpoint }

/-- A descriptor behind the requested control interface. -/
def controlInside (interface : InterfaceDescriptor) (found : ControlFindings)
    (descriptor : List UInt8) : Checked ConfigurationError ControlFindings := do
  let kind ← index descriptor 1
  if kind = descriptorTypeClassInterface then
    if isAcmControl interface then classInterfaceBranch found descriptor else return found
  else if kind = descriptorTypeEndpoint then
    if isAcmControl interface then notificationBranch found descriptor else return found
  else return found

/-! ### A data interface's section -/

/-- What the pass for a data interface finds. -/
structure DataFindings where
  endpointsSeen : UInt8 := 0
  bulkOutEndpoint : Option EndpointDescriptor := none
  bulkInEndpoint : Option EndpointDescriptor := none
  deriving DecidableEq, Repr

/-- The endpoints of the section; its interface's class is not looked at here. -/
def dataInside (_ : InterfaceDescriptor) (found : DataFindings) (descriptor : List UInt8) :
    Checked ConfigurationError DataFindings := do
  if (← index descriptor 1) = descriptorTypeEndpoint then
    let endpoint ← EndpointDescriptor.parse descriptor
    let endpointsSeen ← countEndpoint found.endpointsSeen
    if ¬ endpoint.isSupportedBulk then fail .invalidEndpointDescriptor
    else if endpoint.isIn then
      if found.bulkInEndpoint.isSome then fail .invalidEndpointDescriptor
      else return { found with endpointsSeen, bulkInEndpoint := some endpoint }
    else
      if found.bulkOutEndpoint.isSome then fail .invalidEndpointDescriptor
      else return { found with endpointsSeen, bulkOutEndpoint := some endpoint }
  else return found

/-- The decision after the pass for a data interface. -/
def dataInterfaceOf (requestedDataInterface : UInt8) (scan : InterfaceScan DataFindings) :
    Checked ConfigurationError (Option DataInterface) := do
  match scan.selected with
  | none => return none
  | some dataDescriptor =>
    if dataDescriptor.class_ ≠ usbClassCdcData then return none
    else if dataDescriptor.subclass ≠ 0 then fail .invalidInterfaceDescriptor
    else if dataDescriptor.endpointCount ≠ scan.found.endpointsSeen then
      fail .invalidEndpointDescriptor
    else
      let bulkOutEndpoint ← okOr scan.found.bulkOutEndpoint .missingBulkOutEndpoint
      let bulkInEndpoint ← okOr scan.found.bulkInEndpoint .missingBulkInEndpoint
      if dataDescriptor.endpointCount ≠ 2 then fail .invalidEndpointDescriptor
      else return some { number := requestedDataInterface, bulkOutEndpoint, bulkInEndpoint }

/-- The second pass: the requested data interface, if it is one. -/
def discoverDataInterface (bytes : List UInt8) (requestedDataInterface : UInt8) :
    Checked ConfigurationError (Option DataInterface) := do
  let scan ← forDescriptors id bytes
    (InterfaceScan.step requestedDataInterface .invalidInterfaceDescriptor dataInside)
    ⟨none, none, {}⟩
  dataInterfaceOf requestedDataInterface scan

/-! ### The Union descriptor's subordinates -/

/-- The loop of `interface_exists`, which stops at the first interface found. -/
def interfaceExistsIn (requestedInterface : UInt8) :
    List DescriptorIter.Item → Checked ConfigurationError Bool
  | [] => .ok false
  | item :: rest => do
    let descriptor ← item
    if (← index descriptor 1) ≠ descriptorTypeInterface then
      interfaceExistsIn requestedInterface rest
    else
      match InterfaceDescriptor.parse descriptor with
      | .ok interface =>
        if interface.isRequested requestedInterface then return true
        else interfaceExistsIn requestedInterface rest
      | .error .panic => .error .panic
      | .error (.error error) =>
        if ← InterfaceScan.claims requestedInterface descriptor then fail error
        else interfaceExistsIn requestedInterface rest

/-- Whether the configuration has the interface. -/
def interfaceExists (bytes : List UInt8) (requestedInterface : UInt8) :
    Checked ConfigurationError Bool := do
  interfaceExistsIn requestedInterface (← DescriptorIter.new bytes).items

/-- The loop that checks the subordinates; `earlier` are those already checked. -/
def checkSubordinates (bytes : List UInt8) (requestedControlInterface : UInt8)
    (earlier : List UInt8) : List UInt8 → Checked ConfigurationError Unit
  | [] => .ok ()
  | subordinate :: rest => do
    if subordinate = requestedControlInterface ∨ subordinate ∈ earlier then
      fail .invalidUnionDescriptor
    else if ← interfaceExists bytes subordinate then
      checkSubordinates bytes requestedControlInterface (earlier ++ [subordinate]) rest
    else fail .invalidUnionDescriptor

/-- The loop that looks for the data interface among the subordinates. -/
def selectSubordinate (bytes : List UInt8) (selected : Option DataInterface)
    (subordinate : UInt8) : Checked ConfigurationError (Option DataInterface) := do
  match ← discoverDataInterface bytes subordinate with
  | none => return selected
  | some candidate =>
    if selected.isSome then fail .ambiguousDataInterface else return some candidate

/-- The data interface that the Call Management descriptor names, when the device manages calls over
it. -/
def managedDataInterface (callManagement : Option (UInt8 × UInt8)) : Option UInt8 :=
  callManagement.bind fun (capabilities, dataInterface) =>
    if capabilities &&& 0x03 = cdcCallManagementCapabilityHandlesCalls
        ||| cdcCallManagementCapabilityDataInterface then
      some dataInterface
    else none

/-- The data interface that Call Management names, or the one among the subordinates. -/
def selectDataInterface (bytes : List UInt8) (callManagement : Option (UInt8 × UInt8))
    (subordinateInterfaces : List UInt8) : Checked ConfigurationError DataInterface := do
  match managedDataInterface callManagement with
  | some callManagementInterface =>
    if callManagementInterface ∉ subordinateInterfaces then fail .invalidUnionDescriptor
    else okOr (← discoverDataInterface bytes callManagementInterface) .missingDataInterface
  | none =>
    okOr (← subordinateInterfaces.foldlM (selectSubordinate bytes) none) .missingDataInterface

/-! ### The function -/

/-- What the control interface's section must hold, once the pass is over. -/
structure ControlSection where
  cdcVersionBcd : UInt16
  acmCapabilities : UInt8
  notificationEndpoint : Option EndpointDescriptor
  callManagement : Option (UInt8 × UInt8)
  subordinateInterfaces : List UInt8
  deriving DecidableEq, Repr

/-- The checks between the pass and the subordinates. -/
def controlSectionOf (requestedControlInterface : UInt8) (scan : InterfaceScan ControlFindings) :
    Checked ConfigurationError ControlSection := do
  let controlDescriptor ← okOr scan.selected .missingControlInterface
  if ¬ isAcmControl controlDescriptor then fail .missingControlInterface
  else if controlDescriptor.endpointCount > 1
      ∨ controlDescriptor.endpointCount ≠ scan.found.endpointsSeen then
    fail .invalidEndpointDescriptor
  else
    let cdcVersionBcd ← okOr scan.found.cdcVersionBcd .missingCdcHeader
    let acmCapabilities ← okOr scan.found.acmCapabilities .missingAcmDescriptor
    let unionDescriptor ← okOr scan.found.unionDescriptor .missingUnionDescriptor
    if (← index unionDescriptor 3) ≠ requestedControlInterface then fail .invalidUnionDescriptor
    else
      return {
        cdcVersionBcd
        acmCapabilities
        notificationEndpoint := scan.found.notificationEndpoint
        callManagement := scan.found.callManagement
        subordinateInterfaces := ← slice unionDescriptor 4 unionDescriptor.length }

/-- The last check, and the result. -/
def candidateOf (configuration : ConfigurationDescriptorHeader) (requestedControlInterface : UInt8)
    (control : ControlSection) (dataInterface : DataInterface) :
    Checked ConfigurationError CdcAcmFunction :=
  if control.notificationEndpoint.any (·.address = dataInterface.bulkInEndpoint.address) then
    fail .invalidEndpointDescriptor
  else
    return {
      configuration
      controlInterface := requestedControlInterface
      dataInterface := dataInterface.number
      cdcVersionBcd := control.cdcVersionBcd
      acmCapabilities := control.acmCapabilities
      notificationEndpoint := control.notificationEndpoint
      bulkOutEndpoint := dataInterface.bulkOutEndpoint
      bulkInEndpoint := dataInterface.bulkInEndpoint }

/-- `discover_candidate`. -/
def discoverCandidate (bytes : List UInt8) (requestedControlInterface : UInt8) :
    Checked ConfigurationError CdcAcmFunction := do
  let configuration ← ConfigurationDescriptorHeader.parse bytes
  let scan ← forDescriptors id bytes
    (InterfaceScan.step requestedControlInterface .invalidInterfaceDescriptor controlInside)
    ⟨none, none, {}⟩
  let control ← controlSectionOf requestedControlInterface scan
  checkSubordinates bytes requestedControlInterface [] control.subordinateInterfaces
  let dataInterface ←
    selectDataInterface bytes control.callManagement control.subordinateInterfaces
  candidateOf configuration requestedControlInterface control dataInterface

/-- The framing is validated before the candidate is. -/
def discoverControlInterface (bytes : List UInt8) (controlInterface : UInt8) :
    Checked ConfigurationError CdcAcmFunction := do
  let _ ← DescriptorIter.new bytes
  discoverCandidate bytes controlInterface

end PioUsbHost.Cdc
