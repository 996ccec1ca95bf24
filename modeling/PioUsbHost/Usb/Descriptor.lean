/-
**Configuration descriptors: the header, the iterator, endpoints and interfaces.**

A configuration is a byte string from the device. `DescriptorIter` cuts it into descriptors by their
own length bytes and fails on the first one that does not fit; every class parser loops over it
(`forDescriptors`). Indexing is checked throughout, so a parser that could panic would show here.

* `WellFramed`: the configuration is a concatenation of descriptors.
* `InterfaceDescriptor.parse_eq_ok`, `EndpointDescriptor.parse_eq_ok`: what the parsers accept.
-/

import PioUsbHost.Lib.Panic
import PioUsbHost.Usb.Packet

namespace PioUsbHost.Usb

open PioUsbHost.Lib.Panic

/-! ### Constants -/

/-- `bDescriptorType` of a configuration descriptor. -/
def descriptorTypeConfiguration : UInt8 := 0x02

/-- `bDescriptorType` of an interface descriptor. -/
def descriptorTypeInterface : UInt8 := 0x04

/-- `bDescriptorType` of an endpoint descriptor. -/
def descriptorTypeEndpoint : UInt8 := 0x05

/-- Error while validating a configuration descriptor or CDC-ACM function. -/
inductive ConfigurationError where
  | tooShort
  | invalidLength
  | invalidType
  | invalidTotalLength
  | invalidConfigurationValue
  | invalidAttributes
  | invalidDescriptorLength
  | descriptorOverrun
  | invalidInterfaceDescriptor
  | invalidFunctionalDescriptor
  | invalidEndpointDescriptor
  | missingControlInterface
  | missingCdcHeader
  | missingAcmDescriptor
  | missingUnionDescriptor
  | invalidUnionDescriptor
  | missingDataInterface
  | ambiguousDataInterface
  | missingBulkInEndpoint
  | missingBulkOutEndpoint
  deriving DecidableEq, Repr

/-! ### The configuration header -/

/-- The fixed fields in the leading nine-byte configuration descriptor. -/
structure ConfigurationDescriptorHeader where
  totalLength : UInt16
  numInterfaces : UInt8
  configurationValue : UInt8
  stringIndex : UInt8
  attributes : UInt8
  maxPowerMa : UInt16
  deriving DecidableEq, Repr

/-- `ConfigurationDescriptorHeader::parse`. -/
def ConfigurationDescriptorHeader.parse (bytes : List UInt8) :
    Checked ConfigurationError ConfigurationDescriptorHeader := do
  if bytes.length < 9 then fail .tooShort
  if (← index bytes 0) ≠ 9 then fail .invalidLength
  if (← index bytes 1) ≠ descriptorTypeConfiguration then fail .invalidType
  let totalLength := u16FromLeBytes (← index bytes 2) (← index bytes 3)
  if totalLength < 9 then fail .invalidTotalLength
  if (← index bytes 5) = 0 then fail .invalidConfigurationValue
  let attributes ← index bytes 7
  if attributes &&& 0x80 = 0 ∨ attributes &&& 0x1f ≠ 0 then fail .invalidAttributes
  return {
    totalLength
    numInterfaces := ← index bytes 4
    configurationValue := ← index bytes 5
    stringIndex := ← index bytes 6
    attributes
    maxPowerMa := (← index bytes 8).toUInt16 * 2 }

/-! ### The iterator -/

/-- Iterates over the descriptors bounded by a configuration's wTotalLength. -/
structure DescriptorIter where
  bytes : List UInt8
  offset : Nat
  totalLength : Nat
  failed : Bool
  deriving DecidableEq, Repr

namespace DescriptorIter

/-- What one call of `next` yields: a descriptor, an error, or a panic. -/
abbrev Item := Checked ConfigurationError (List UInt8)

/-- `DescriptorIter::new`. -/
def new (bytes : List UInt8) : Checked ConfigurationError DescriptorIter := do
  let header ← ConfigurationDescriptorHeader.parse bytes
  let totalLength := header.totalLength.toNat
  if bytes.length < totalLength then fail .descriptorOverrun
  return { bytes, offset := 0, totalLength, failed := false }

/-- The descriptor at the offset, once the iterator is known not to be at its end. -/
def descriptor (iter : DescriptorIter) : Item := do
  let remaining ← subtract iter.totalLength iter.offset
  if remaining < 2 then fail .descriptorOverrun
  let descriptorLength := (← index iter.bytes iter.offset).toNat
  if descriptorLength < 2 then fail .invalidDescriptorLength
  if descriptorLength > remaining then fail .descriptorOverrun
  slice iter.bytes iter.offset (iter.offset + descriptorLength)

/-- One call; the offset moves past the descriptor, and any other outcome ends the iteration. -/
def next (iter : DescriptorIter) : Option Item × DescriptorIter :=
  if iter.failed ∨ iter.offset = iter.totalLength then (none, iter)
  else
    match iter.descriptor with
    | .ok bytes => (some (.ok bytes), { iter with offset := iter.offset + bytes.length })
    | .error fault => (some (.error fault), { iter with failed := true })

/-- What the first calls yield, up to the first one that yields nothing. -/
def take : Nat → DescriptorIter → List Item
  | 0, _ => []
  | calls + 1, iter =>
    match iter.next with
    | (none, _) => []
    | (some item, rest) => item :: take calls rest

/-- Everything the iterator yields; a call that yields a descriptor moves the offset. -/
def items (iter : DescriptorIter) : List Item := iter.take (iter.totalLength + 1)

end DescriptorIter

/-- `for descriptor in DescriptorIter::new(bytes)? { let descriptor = descriptor?; … }` -/
def forDescriptors {ε : Type} {σ : Type} (into : ConfigurationError → ε) (bytes : List UInt8)
    (step : σ → List UInt8 → Checked ε σ) (start : σ) : Checked ε σ := do
  let iter ← convert into (DescriptorIter.new bytes)
  iter.items.foldlM (fun state item => do step state (← convert into item)) start

/-! ### Well-framed configurations -/

/-- A descriptor is as long as its first byte says. -/
def IsDescriptor (descriptor : List UInt8) : Prop :=
  2 ≤ descriptor.length ∧ descriptor.head?.map UInt8.toNat = some descriptor.length

instance (descriptor : List UInt8) : Decidable (IsDescriptor descriptor) :=
  inferInstanceAs (Decidable (_ ∧ _))

/-- The configuration has a valid header and is, up to wTotalLength, the concatenation of the
descriptors. -/
structure WellFramed (bytes : List UInt8) (header : ConfigurationDescriptorHeader)
    (descriptors : List (List UInt8)) : Prop where
  parsed : ConfigurationDescriptorHeader.parse bytes = .ok header
  complete : header.totalLength.toNat ≤ bytes.length
  tiled : bytes.take header.totalLength.toNat = descriptors.flatten
  framed : ∀ descriptor ∈ descriptors, IsDescriptor descriptor

/-- What is left of the configuration. -/
def DescriptorIter.rest (iter : DescriptorIter) : List UInt8 :=
  (iter.bytes.take iter.totalLength).drop iter.offset

/-! ### Endpoint descriptors -/

/-- A validated non-control USB endpoint. -/
structure EndpointDescriptor where
  address : UInt8
  attributes : UInt8
  maxPacketSize : UInt16
  interval : UInt8
  deriving DecidableEq, Repr

namespace EndpointDescriptor

/-- The endpoint's number, without its direction. -/
def number (endpoint : EndpointDescriptor) : UInt8 := endpoint.address &&& 0x0f

/-- The endpoint sends to the host. -/
def isIn (endpoint : EndpointDescriptor) : Bool := endpoint.address &&& 0x80 ≠ 0

/-- The transfer type in `bmAttributes`. -/
def transferType (endpoint : EndpointDescriptor) : UInt8 := endpoint.attributes &&& 0x03

/-- The fields of a seven-byte endpoint descriptor. -/
def read (bytes : List UInt8) : Checked ConfigurationError (EndpointDescriptor × UInt16) := do
  let rawMaxPacketSize := u16FromLeBytes (← index bytes 4) (← index bytes 5)
  return ({
    address := ← index bytes 2
    attributes := ← index bytes 3
    maxPacketSize := rawMaxPacketSize &&& 0x07ff
    interval := ← index bytes 6 }, rawMaxPacketSize)

/-- `EndpointDescriptor::parse`. -/
def parse (bytes : List UInt8) : Checked ConfigurationError EndpointDescriptor := do
  let rejected ← orElse (bytes.length ≠ 7) do return (← index bytes 1) ≠ descriptorTypeEndpoint
  if rejected then fail .invalidEndpointDescriptor
  let (endpoint, rawMaxPacketSize) ← read bytes
  if endpoint.address &&& 0x70 ≠ 0 ∨ endpoint.number = 0 ∨ endpoint.maxPacketSize = 0
      ∨ rawMaxPacketSize &&& 0xf800 ≠ 0 then
    fail .invalidEndpointDescriptor
  return endpoint

/-- `is_supported_bulk`. -/
def isSupportedBulk (endpoint : EndpointDescriptor) : Bool :=
  endpoint.transferType = 0x02 ∧ endpoint.attributes &&& 0xfc = 0
    ∧ endpoint.maxPacketSize ∈ [8, 16, 32, 64, 512]

/-- `is_supported_interrupt_in`. -/
def isSupportedInterruptIn (endpoint : EndpointDescriptor) : Bool :=
  endpoint.isIn ∧ endpoint.transferType = 0x03 ∧ endpoint.attributes &&& 0xfc = 0
    ∧ endpoint.maxPacketSize ≤ 64 ∧ endpoint.interval ≠ 0

end EndpointDescriptor

/-- A well-formed endpoint descriptor, of seven bytes and without reserved address or size bits. -/
structure IsEndpoint (bytes : List UInt8) (endpoint : EndpointDescriptor) : Prop where
  bytes : ∃ length low high, bytes = [length, descriptorTypeEndpoint, endpoint.address,
    endpoint.attributes, low, high, endpoint.interval] ∧
      u16FromLeBytes low high = endpoint.maxPacketSize
  address : endpoint.address &&& 0x70 = 0
  number : endpoint.number ≠ 0
  maxPacketSize : endpoint.maxPacketSize ≠ 0 ∧ endpoint.maxPacketSize &&& 0xf800 = 0

namespace EndpointDescriptor

/-- A packet size without reserved bits is its low eleven bits. -/
theorem and_size {raw : UInt16} (reserved : raw &&& 0xf800 = 0) : raw &&& 0x07ff = raw := by
  have whole : (0x07ff : UInt16) ||| 0xf800 = -1 := by decide
  calc raw &&& 0x07ff = raw &&& 0x07ff ||| raw &&& 0xf800 := by rw [reserved, UInt16.or_zero]
    _ = raw &&& (0x07ff ||| 0xf800) := by
      rw [← UInt16.toBitVec_inj]
      simp only [UInt16.toBitVec_or, UInt16.toBitVec_and]
      rw [BitVec.and_or_distrib_left]
    _ = raw := by rw [whole, UInt16.and_neg_one]

/-- The parser accepts the well-formed endpoint descriptors. -/
theorem parse_eq_ok {bytes : List UInt8} {endpoint : EndpointDescriptor} :
    parse bytes = .ok endpoint ↔ IsEndpoint bytes endpoint := by
  constructor
  · intro accepted
    by_cases seven : bytes.length = 7
    · match bytes, seven with
      | [length, kind, address, attributes, low, high, interval], _ =>
        by_cases isEndpoint : kind = descriptorTypeEndpoint
        · subst isEndpoint
          obtain ⟨valid, rfl⟩ := guard_eq_ok.mp accepted
          simp only [not_or, Decidable.not_not] at valid
          obtain ⟨free, number, size, reserved⟩ := valid
          have same := and_size reserved
          exact ⟨⟨length, low, high, rfl, same.symm⟩, free, number, size, by rw [same]; exact reserved⟩
        · simp [parse, orElse, index, isEndpoint] at accepted
    · simp [parse, orElse, seven] at accepted
  · intro is
    obtain ⟨length, low, high, rfl, size⟩ := is.bytes
    have reserved : u16FromLeBytes low high &&& 0xf800 = 0 := size ▸ is.maxPacketSize.2
    have same : u16FromLeBytes low high &&& 0x07ff = endpoint.maxPacketSize :=
      (and_size reserved).trans size
    refine guard_eq_ok.mpr ⟨?_, ?_⟩
    · simp only [not_or, Decidable.not_not]
      exact ⟨is.address, is.number, same ▸ is.maxPacketSize.1, reserved⟩
    · rw [same]
end EndpointDescriptor

/-! ### Interface descriptors -/

/-- The fields of an interface descriptor. -/
structure InterfaceDescriptor where
  number : UInt8
  alternateSetting : UInt8
  endpointCount : UInt8
  class_ : UInt8
  subclass : UInt8
  protocol : UInt8
  deriving DecidableEq, Repr

namespace InterfaceDescriptor

/-- `InterfaceDescriptor::parse`. -/
def parse (bytes : List UInt8) : Checked ConfigurationError InterfaceDescriptor := do
  let rejected ← orElse (bytes.length ≠ 9) do return (← index bytes 1) ≠ descriptorTypeInterface
  if rejected then fail .invalidInterfaceDescriptor
  return {
    number := ← index bytes 2
    alternateSetting := ← index bytes 3
    endpointCount := ← index bytes 4
    class_ := ← index bytes 5
    subclass := ← index bytes 6
    protocol := ← index bytes 7 }

/-- The parser accepts the nine-byte interface descriptors, and reads their fields. -/
theorem parse_eq_ok {bytes : List UInt8} {interface : InterfaceDescriptor} :
    parse bytes = .ok interface ↔ ∃ length string,
      bytes = [length, descriptorTypeInterface, interface.number, interface.alternateSetting,
        interface.endpointCount, interface.class_, interface.subclass, interface.protocol,
        string] := by
  constructor
  · intro accepted
    by_cases nine : bytes.length = 9
    · match bytes, nine with
      | [length, kind, number, alternate, count, class_, subclass, protocol, string], _ =>
        by_cases isInterface : kind = descriptorTypeInterface
        · subst isInterface
          cases accepted
          exact ⟨length, string, rfl⟩
        · simp [parse, orElse, index, isInterface] at accepted
    · simp [parse, orElse, nine] at accepted
  · rintro ⟨length, string, rfl⟩
    rfl

/-- The parser has one error, and does not panic. -/
theorem parse_eq_error {bytes : List UInt8} {fault : Fault ConfigurationError}
    (rejected : parse bytes = .error fault) : fault = .error .invalidInterfaceDescriptor := by
  by_cases nine : bytes.length = 9
  · match bytes, nine with
    | [length, kind, number, alternate, count, class_, subclass, protocol, string], _ =>
      by_cases isInterface : kind = descriptorTypeInterface
      · subst isInterface
        cases rejected
      · simpa [parse, orElse, index, isInterface, fail, eq_comm] using rejected
  · simpa [parse, orElse, nine, fail, eq_comm] using rejected

end InterfaceDescriptor

end PioUsbHost.Usb
