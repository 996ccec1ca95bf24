/-
**Audio capture discovery.**

`AudioInputInterface.discover` takes the first alternate setting that streams mono 16-bit PCM at
48 kHz over an isochronous IN endpoint. The loop keeps what it has seen of the current alternate
setting: that it is a candidate, that its general descriptor says PCM, and that its format descriptor
fits.
-/

import PioUsbHost.Usb.Descriptor

namespace PioUsbHost.Audio

open PioUsbHost.Lib.Panic PioUsbHost.Usb

/-! ### Constants -/

/-- `bDescriptorType` of a class-specific interface descriptor. -/
def descriptorTypeClassInterface : UInt8 := 0x24

/-- `bInterfaceClass` of an audio interface. -/
def audioClass : UInt8 := 0x01

/-- `bInterfaceSubClass` of an audio-streaming interface. -/
def audioStreamingSubclass : UInt8 := 0x02

/-- `bDescriptorSubtype` of a general streaming descriptor. -/
def asGeneral : UInt8 := 0x01

/-- `bDescriptorSubtype` of a format descriptor. -/
def formatType : UInt8 := 0x02

/-- `bFormatType` of a type-I format. -/
def formatTypeI : UInt8 := 0x01

/-- `wFormatTag` of PCM. -/
def formatTagPcm : UInt16 := 0x0001

/-- Sample rate selected by the initial capture implementation. -/
def captureSampleRateHz : UInt32 := 48000

/-- Largest supported audio payload per full-speed frame. -/
def capturePacketCapacity : Nat := 100

/-- UAC1 descriptor discovery failure. -/
inductive AudioConfigurationError where
  | configuration (error : ConfigurationError)
  | missingCaptureInterface
  deriving DecidableEq, Repr

/-- One descriptor-selected UAC1 capture alternate setting. -/
structure AudioInputInterface where
  configuration : ConfigurationDescriptorHeader
  interfaceNumber : UInt8
  alternateSetting : UInt8
  endpointAddress : UInt8
  maxPacketSize : UInt16
  interval : UInt8
  channels : UInt8
  subframeSize : UInt8
  bitResolution : UInt8
  deriving DecidableEq, Repr

/-! ### The descriptors of an alternate setting -/

/-- The variables of the loop. -/
structure Search where
  interfaceNumber : UInt8 := 0
  alternateSetting : UInt8 := 0
  candidate : Bool := false
  pcmStream : Bool := false
  formatValid : Bool := false
  channels : UInt8 := 0
  subframeSize : UInt8 := 0
  bitResolution : UInt8 := 0
  deriving DecidableEq, Repr

/-- What audio discovery computes. -/
abbrev Result := Checked AudioConfigurationError

/-- The branch of a nine-byte interface descriptor. -/
def interfaceBranch (search : Search) (descriptor : List UInt8) : Result Search := do
  let interfaceNumber ← index descriptor 2
  let alternateSetting ← index descriptor 3
  let candidate ← andThen (alternateSetting ≠ 0) do
    andThen ((← index descriptor 4) = 1) do
      andThen ((← index descriptor 5) = audioClass) do
        andThen ((← index descriptor 6) = audioStreamingSubclass) do
          return (← index descriptor 7) = 0
  return { search with
    interfaceNumber, alternateSetting, candidate, pcmStream := false, formatValid := false }

/-- The guard of the branch of a general streaming descriptor. -/
def isGeneral (search : Search) (descriptor : List UInt8) : Result Bool :=
  andThen search.candidate do
    andThen (7 ≤ descriptor.length) do return (← index descriptor 2) = asGeneral

/-- The guard of the branch of a format descriptor. -/
def isFormat (search : Search) (descriptor : List UInt8) : Result Bool :=
  andThen (search.candidate ∧ search.pcmStream ∧ 11 ≤ descriptor.length) do
    andThen ((← index descriptor 2) = formatType) do return (← index descriptor 3) = formatTypeI

/-- Whether one of the sampling frequencies is the selected one. -/
def anyFrequency : List (List UInt8) → Result Bool
  | [] => .ok false
  | frequency :: rest => do
    let rate := (← index frequency 0).toUInt32 ||| ((← index frequency 1).toUInt32 <<< 8)
      ||| ((← index frequency 2).toUInt32 <<< 16)
    if rate = captureSampleRateHz then return true else anyFrequency rest

/-- The branch of a format descriptor. -/
def formatBranch (search : Search) (descriptor : List UInt8) : Result Search := do
  let channels ← index descriptor 4
  let subframeSize ← index descriptor 5
  let bitResolution ← index descriptor 6
  let frequencyCount := (← index descriptor 7).toNat
  let frequenciesLen ← fits UInt32.size (frequencyCount * 3)
  let expectedLen ← fits UInt32.size (8 + frequenciesLen)
  let supports48k ← andThen (frequencyCount ≠ 0 ∧ descriptor.length = expectedLen) do
    anyFrequency (chunksExact 3 (← slice descriptor 8 descriptor.length))
  return { search with
    channels, subframeSize, bitResolution
    formatValid := channels = 1 ∧ subframeSize = 2 ∧ bitResolution = 16 ∧ supports48k }

/-- The endpoint of the alternate setting, when it can be used for capture. -/
def captureEndpoint (configuration : ConfigurationDescriptorHeader) (search : Search)
    (descriptor : List UInt8) : Result (Option AudioInputInterface) := do
  let address ← index descriptor 2
  let attributes ← index descriptor 3
  let maxPacketSize := u16FromLeBytes (← index descriptor 4) (← index descriptor 5) &&& 0x07ff
  let interval ← index descriptor 6
  if address &&& 0x80 ≠ 0 ∧ address &&& 0x70 = 0 ∧ address &&& 0x0f ≠ 0
      ∧ attributes &&& 0x03 = 0x01 ∧ maxPacketSize ≠ 0
      ∧ maxPacketSize.toNat ≤ capturePacketCapacity ∧ interval = 1 then
    return some {
      configuration
      interfaceNumber := search.interfaceNumber
      alternateSetting := search.alternateSetting
      endpointAddress := address
      maxPacketSize
      interval
      channels := search.channels
      subframeSize := search.subframeSize
      bitResolution := search.bitResolution }
  else return none

/-! ### The loop -/

/-- The loop over the descriptors, which the first usable endpoint ends. -/
def searchFrom (configuration : ConfigurationDescriptorHeader) (search : Search) :
    List DescriptorIter.Item → Result AudioInputInterface
  | [] => fail .missingCaptureInterface
  | item :: rest => do
    let descriptor ← convert .configuration item
    let kind ← index descriptor 1
    if kind = descriptorTypeInterface ∧ descriptor.length = 9 then
      searchFrom configuration (← interfaceBranch search descriptor) rest
    else if ← andThen (kind = descriptorTypeClassInterface) (isGeneral search descriptor) then
      let formatTag := u16FromLeBytes (← index descriptor 5) (← index descriptor 6)
      searchFrom configuration { search with pcmStream := formatTag = formatTagPcm } rest
    else if ← andThen (kind = descriptorTypeClassInterface) (isFormat search descriptor) then
      searchFrom configuration (← formatBranch search descriptor) rest
    else if kind = descriptorTypeEndpoint ∧ search.candidate ∧ search.pcmStream
        ∧ search.formatValid then
      if descriptor.length ≠ 9 then searchFrom configuration search rest
      else
        match ← captureEndpoint configuration search descriptor with
        | some interface => return interface
        | none => searchFrom configuration search rest
    else searchFrom configuration search rest

/-- Find the first mono 16-bit PCM capture interface advertising 48 kHz. -/
def AudioInputInterface.discover (configuration : List UInt8) : Result AudioInputInterface := do
  let header ← convert .configuration (ConfigurationDescriptorHeader.parse configuration)
  let descriptors ← convert .configuration (DescriptorIter.new configuration)
  searchFrom header {} descriptors.items

end PioUsbHost.Audio
