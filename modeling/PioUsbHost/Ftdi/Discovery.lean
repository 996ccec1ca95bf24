/-
**FTDI interface discovery.**

`discoverInterface` takes the first alternate-setting-zero vendor interface of a known FTDI product,
or the one with a requested number, and the two bulk endpoints of its section; it stops at the next
such interface.
-/

import PioUsbHost.Usb.Descriptor

namespace PioUsbHost.Ftdi

open PioUsbHost.Lib.Panic PioUsbHost.Usb

/-! ### Constants -/

/-- `idVendor` of FTDI. -/
def ftdiVendorId : UInt16 := 0x0403

/-- `idProduct` of an FT232. -/
def ftdiProductIdFt232 : UInt16 := 0x6001

/-- `idProduct` of an FT2232. -/
def ftdiProductIdFt2232 : UInt16 := 0x6010

/-- `idProduct` of an FT4232H. -/
def ftdiProductIdFt4232H : UInt16 := 0x6011

/-- `idProduct` of an FT232H. -/
def ftdiProductIdFt232H : UInt16 := 0x6014

/-- `idProduct` of an FT230X. -/
def ftdiProductIdFt230X : UInt16 := 0x6015

/-- `bInterfaceClass` of a vendor-specific interface. -/
def ftdiInterfaceClass : UInt8 := 0xff

/-- The fields of the device descriptor that discovery looks at. -/
structure DeviceDescriptor where
  vendorId : UInt16
  productId : UInt16
  deriving DecidableEq, Repr

/-- Error while discovering an FTDI interface. -/
inductive FtdiConfigurationError where
  | configuration (error : ConfigurationError)
  | notFtdiDevice
  | unsupportedProduct
  | missingInterface
  | invalidInterfaceDescriptor
  | invalidEndpointDescriptor
  | missingBulkInEndpoint
  | missingBulkOutEndpoint
  deriving DecidableEq, Repr

/-- A descriptor-validated FTDI vendor interface. -/
structure FtdiInterface where
  configuration : ConfigurationDescriptorHeader
  interfaceNumber : UInt8
  interfaceSubclass : UInt8
  interfaceProtocol : UInt8
  bulkOutEndpoint : EndpointDescriptor
  bulkInEndpoint : EndpointDescriptor
  deriving DecidableEq, Repr

/-! ### Endpoints -/

/-- `parse_bulk_endpoint`. -/
def parseBulkEndpoint (bytes : List UInt8) : Checked FtdiConfigurationError EndpointDescriptor := do
  let rejected ← orElse (bytes.length ≠ 7) do return (← index bytes 1) ≠ descriptorTypeEndpoint
  if rejected then fail .invalidEndpointDescriptor
  else
    let (endpoint, rawMaxPacketSize) ← convert .configuration (EndpointDescriptor.read bytes)
    if endpoint.address &&& 0x70 ≠ 0 ∨ endpoint.number = 0 ∨ endpoint.attributes ≠ 0x02
        ∨ endpoint.maxPacketSize ∉ [8, 16, 32, 64, 512] ∨ rawMaxPacketSize &&& 0xf800 ≠ 0 then
      fail .invalidEndpointDescriptor
    else return endpoint

/-! ### The loop -/

/-- The fields of the current interface descriptor. -/
structure CurrentInterface where
  number : UInt8
  alternateSetting : UInt8
  endpointCount : UInt8
  class_ : UInt8
  subclass : UInt8
  deriving DecidableEq, Repr

/-- The fields of the selected interface descriptor. -/
structure SelectedInterface where
  number : UInt8
  endpointCount : UInt8
  subclass : UInt8
  protocol : UInt8
  deriving DecidableEq, Repr

/-- The variables of the loop. -/
structure Search where
  current : Option CurrentInterface := none
  selected : Option SelectedInterface := none
  endpointsSeen : UInt8 := 0
  bulkIn : Option EndpointDescriptor := none
  bulkOut : Option EndpointDescriptor := none
  deriving DecidableEq, Repr

/-- The default setting of a vendor interface, the requested one if there is a request. -/
def isWanted (requested : Option UInt8) (interface : CurrentInterface) : Bool :=
  interface.alternateSetting = 0 ∧ interface.class_ = ftdiInterfaceClass
    ∧ requested.all (· = interface.number)

/-- The fields of an interface descriptor. -/
def readInterface (descriptor : List UInt8) : Checked FtdiConfigurationError CurrentInterface := do
  return {
    number := ← index descriptor 2
    alternateSetting := ← index descriptor 3
    endpointCount := ← index descriptor 4
    class_ := ← index descriptor 5
    subclass := ← index descriptor 6 }

/-- An endpoint of the selected section; there is one slot for each direction. -/
def acceptEndpoint (search : Search) (descriptor : List UInt8) :
    Checked FtdiConfigurationError Search := do
  let endpoint ← parseBulkEndpoint descriptor
  let endpointsSeen ← okOr (increment search.endpointsSeen) .invalidEndpointDescriptor
  if endpoint.isIn then
    if search.bulkIn.isSome then fail .invalidEndpointDescriptor
    else return { search with endpointsSeen, bulkIn := some endpoint }
  else
    if search.bulkOut.isSome then fail .invalidEndpointDescriptor
    else return { search with endpointsSeen, bulkOut := some endpoint }

/-- The loop over the descriptors, which a second wanted interface ends. -/
def searchFrom (requested : Option UInt8) (search : Search) :
    List DescriptorIter.Item → Checked FtdiConfigurationError Search
  | [] => .ok search
  | item :: rest => do
    let descriptor ← convert .configuration item
    let kind ← index descriptor 1
    if kind = descriptorTypeInterface then
      if descriptor.length ≠ 9 then fail .invalidInterfaceDescriptor
      else
        let interface ← readInterface descriptor
        if isWanted requested interface then
          if search.selected.isSome then return { search with current := some interface }
          else
            let selected : SelectedInterface := {
              number := interface.number
              endpointCount := interface.endpointCount
              subclass := interface.subclass
              protocol := ← index descriptor 7 }
            searchFrom requested { current := some interface, selected := some selected } rest
        else searchFrom requested { search with current := some interface } rest
    else if kind = descriptorTypeEndpoint then
      match search.current with
      | none => searchFrom requested search rest
      | some interface =>
        if search.selected.map (·.number) ≠ some interface.number
            ∨ interface.alternateSetting ≠ 0 then
          searchFrom requested search rest
        else searchFrom requested (← acceptEndpoint search descriptor) rest
    else searchFrom requested search rest

namespace FtdiInterface

/-- `discover_interface`, for any of its interfaces where none is requested. -/
def discoverInterface (device : DeviceDescriptor) (bytes : List UInt8) (requested : Option UInt8) :
    Checked FtdiConfigurationError FtdiInterface := do
  if device.vendorId ≠ ftdiVendorId then fail .notFtdiDevice
  else if device.productId ∉ [ftdiProductIdFt232, ftdiProductIdFt2232, ftdiProductIdFt4232H,
      ftdiProductIdFt232H, ftdiProductIdFt230X] then
    fail .unsupportedProduct
  else
    let configuration ← convert .configuration (ConfigurationDescriptorHeader.parse bytes)
    let iter ← convert .configuration (DescriptorIter.new bytes)
    let search ← searchFrom requested {} iter.items
    let selected ← okOr search.selected .missingInterface
    if selected.endpointCount ≠ 2 ∨ search.endpointsSeen ≠ selected.endpointCount then
      fail .invalidEndpointDescriptor
    else
      return {
        configuration
        interfaceNumber := selected.number
        interfaceSubclass := selected.subclass
        interfaceProtocol := selected.protocol
        bulkOutEndpoint := ← okOr search.bulkOut .missingBulkOutEndpoint
        bulkInEndpoint := ← okOr search.bulkIn .missingBulkInEndpoint }

/-- Discover the first alternate-setting-zero FTDI vendor interface. -/
def discover (device : DeviceDescriptor) (configuration : List UInt8) :
    Checked FtdiConfigurationError FtdiInterface :=
  discoverInterface device configuration none

/-- Discover a specific alternate-setting-zero FTDI vendor interface. -/
def discoverNumber (device : DeviceDescriptor) (configuration : List UInt8)
    (interfaceNumber : UInt8) : Checked FtdiConfigurationError FtdiInterface :=
  discoverInterface device configuration (some interfaceNumber)

end FtdiInterface

end PioUsbHost.Ftdi
