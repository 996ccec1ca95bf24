/-
**What the audio search does with a descriptor.**

The loop of `AudioInputInterface.discover` keeps flags about the alternate setting that it is in. Each
descriptor either ends the loop or is noted in the flags (`Takes`), and what is noted is said exactly
(`Notes`): a general descriptor is looked at in a candidate setting only, a format descriptor only
behind a general descriptor with the PCM tag.

* `searchFrom_cons`: a search that returns takes each descriptor so.
-/

import PioUsbHost.Audio.Discovery
import PioUsbHost.Usb.Framing
import PioUsbHost.Usb.InterfaceScan

namespace PioUsbHost.Audio

open PioUsbHost.Lib.Panic PioUsbHost.Usb

/-! ### A capture setting -/

/-- A nine-byte interface descriptor of an audio-streaming alternate setting with one endpoint. -/
structure IsSetting (descriptor : List UInt8) (interfaceNumber alternateSetting : UInt8) :
    Prop where
  isInterface : IsInterface descriptor
  nine : descriptor.length = 9
  number : descriptor[2]? = some interfaceNumber
  alternate : descriptor[3]? = some alternateSetting
  nonzero : alternateSetting ≠ 0
  endpointCount : descriptor[4]? = some 1
  class_ : descriptor[5]? = some audioClass
  subclass : descriptor[6]? = some audioStreamingSubclass

/-- An alternate setting that the search enters: one without a protocol. -/
structure IsCandidate (descriptor : List UInt8) : Prop where
  setting : ∃ interfaceNumber alternateSetting, IsSetting descriptor interfaceNumber alternateSetting
  protocol : descriptor[7]? = some 0

/-- A general streaming descriptor with the PCM format tag. -/
structure IsPcmGeneral (descriptor : List UInt8) : Prop where
  kind : descriptor[1]? = some descriptorTypeClassInterface
  subtype : descriptor[2]? = some asGeneral
  formatTag : ∃ low high, descriptor[5]? = some low ∧ descriptor[6]? = some high ∧
    u16FromLeBytes low high = formatTagPcm

/-- A general streaming descriptor that is long enough to be looked at. -/
structure IsGeneral (descriptor : List UInt8) : Prop where
  kind : descriptor[1]? = some descriptorTypeClassInterface
  seven : 7 ≤ descriptor.length
  subtype : descriptor[2]? = some asGeneral

/-- A type-I format descriptor that is long enough to be looked at. -/
structure IsFormat (descriptor : List UInt8) : Prop where
  kind : descriptor[1]? = some descriptorTypeClassInterface
  eleven : 11 ≤ descriptor.length
  subtype : descriptor[2]? = some formatType
  format : descriptor[3]? = some formatTypeI

theorem IsGeneral.not_interface {descriptor : List UInt8} (is : IsGeneral descriptor) :
    ¬ (IsInterface descriptor ∧ descriptor.length = 9) := fun both => by
  cases both.1.symm.trans is.kind

theorem IsFormat.not_interface {descriptor : List UInt8} (is : IsFormat descriptor) :
    ¬ (IsInterface descriptor ∧ descriptor.length = 9) := fun both => by
  cases both.1.symm.trans is.kind

theorem IsFormat.not_general {descriptor : List UInt8} (is : IsFormat descriptor) :
    ¬ IsGeneral descriptor := fun general => by
  cases is.subtype.symm.trans general.subtype

/-- The three bytes of a sampling frequency. -/
def rateOf (low middle high : UInt8) : UInt32 :=
  low.toUInt32 ||| (middle.toUInt32 <<< 8) ||| (high.toUInt32 <<< 16)

/-- A type-I format descriptor, mono with 16 bits, as long as its frequencies need, that lists the
capture rate. -/
structure IsCaptureFormat (descriptor : List UInt8) : Prop where
  kind : descriptor[1]? = some descriptorTypeClassInterface
  subtype : descriptor[2]? = some formatType
  format : descriptor[3]? = some formatTypeI
  channels : descriptor[4]? = some 1
  subframeSize : descriptor[5]? = some 2
  bitResolution : descriptor[6]? = some 16
  frequencies : ∃ count : UInt8, descriptor[7]? = some count ∧
    descriptor.length = 8 + count.toNat * 3 ∧
    ∃ i < count.toNat, ∃ low middle high, descriptor[8 + 3 * i]? = some low ∧
      descriptor[8 + 3 * i + 1]? = some middle ∧ descriptor[8 + 3 * i + 2]? = some high ∧
      rateOf low middle high = captureSampleRateHz

/-- A nine-byte isochronous IN endpoint descriptor with the endpoint's fields. -/
structure IsCaptureEndpoint (descriptor : List UInt8) (interface : AudioInputInterface) : Prop where
  kind : descriptor[1]? = some descriptorTypeEndpoint
  nine : descriptor.length = 9
  address : descriptor[2]? = some interface.endpointAddress
  isIn : interface.endpointAddress &&& 0x80 ≠ 0
  attributes : ∃ attributes, descriptor[3]? = some attributes ∧ attributes &&& 0x03 = 0x01
  maxPacketSize : ∃ low high, descriptor[4]? = some low ∧ descriptor[5]? = some high ∧
    u16FromLeBytes low high &&& 0x07ff = interface.maxPacketSize
  size : 1 ≤ interface.maxPacketSize.toNat ∧ interface.maxPacketSize.toNat ≤ 100
  interval : descriptor[6]? = some 1 ∧ interface.interval = 1

/-- An endpoint descriptor that ends the search: nine bytes, isochronous IN, at most 100 bytes in every
frame. -/
structure IsUsable (descriptor : List UInt8) : Prop where
  kind : descriptor[1]? = some descriptorTypeEndpoint
  nine : descriptor.length = 9
  address : ∃ address, descriptor[2]? = some address ∧ address &&& 0x80 ≠ 0 ∧ address &&& 0x70 = 0 ∧
    address &&& 0x0f ≠ 0
  attributes : ∃ attributes, descriptor[3]? = some attributes ∧ attributes &&& 0x03 = 0x01
  maxPacketSize : ∃ low high, descriptor[4]? = some low ∧ descriptor[5]? = some high ∧
    u16FromLeBytes low high &&& 0x07ff ≠ 0 ∧ (u16FromLeBytes low high &&& 0x07ff).toNat ≤ 100
  interval : descriptor[6]? = some 1

/-! ### The branches -/

section Branches

variable {search next : Search} {descriptor : List UInt8}

theorem interfaceBranch_eq_ok (isInterface : IsInterface descriptor) (nine : descriptor.length = 9)
    (branch : interfaceBranch search descriptor = .ok next) :
    (next.candidate = true → IsSetting descriptor next.interfaceNumber next.alternateSetting) ∧
      (next.candidate = true ↔ IsCandidate descriptor) ∧
      next.pcmStream = false ∧ next.formatValid = false := by
  obtain ⟨number, second, branch⟩ := bind_eq_ok.mp branch
  obtain ⟨alternate, third, branch⟩ := bind_eq_ok.mp branch
  obtain ⟨candidate, evaluated, branch⟩ := bind_eq_ok.mp branch
  cases branch
  have fields (is : candidate = true) :
      IsSetting descriptor number alternate ∧ descriptor[7]? = some 0 := by
    obtain ⟨nonzero, evaluated⟩ := of_andThen evaluated is
    obtain ⟨count, fourth, evaluated⟩ := bind_eq_ok.mp evaluated
    obtain ⟨one, evaluated⟩ := of_andThen evaluated rfl
    obtain ⟨class_, fifth, evaluated⟩ := bind_eq_ok.mp evaluated
    obtain ⟨audio, evaluated⟩ := of_andThen evaluated rfl
    obtain ⟨subclass, sixth, evaluated⟩ := bind_eq_ok.mp evaluated
    obtain ⟨streaming, evaluated⟩ := of_andThen evaluated rfl
    obtain ⟨protocol, seventh, decided⟩ := bind_eq_ok.mp evaluated
    have none := of_decide_eq_true (Except.ok.inj decided)
    refine ⟨?_, none ▸ index_eq_ok.mp seventh⟩
    exact {
      isInterface
      nine
      number := index_eq_ok.mp second
      alternate := index_eq_ok.mp third
      nonzero := of_decide_eq_true nonzero
      endpointCount := of_decide_eq_true one ▸ index_eq_ok.mp fourth
      class_ := of_decide_eq_true audio ▸ index_eq_ok.mp fifth
      subclass := of_decide_eq_true streaming ▸ index_eq_ok.mp sixth }
  refine ⟨fun is => (fields is).1, ⟨fun is => ⟨⟨_, _, (fields is).1⟩, (fields is).2⟩, ?_⟩, rfl, rfl⟩
  rintro ⟨⟨_, other, is⟩, protocol⟩
  have same : alternate = other :=
    Option.some.inj ((index_eq_ok.mp third).symm.trans is.alternate)
  simp only [same, andThen, index_of_getElem? is.endpointCount, index_of_getElem? is.class_,
    index_of_getElem? is.subclass, index_of_getElem? protocol, ok_bind, is.nonzero, ne_eq,
    not_false_eq_true, decide_true, if_true] at evaluated
  exact (Except.ok.inj evaluated).symm

/-- A chunk of the frequencies, in the descriptor. -/
theorem getElem?_of_mem_frequencies {frequency : List UInt8} {count : Nat}
    (member : frequency ∈ chunksExact 3 (descriptor.drop 8))
    (length : descriptor.length = 8 + count * 3) :
    ∃ i < count, ∀ j < 3, frequency[j]? = descriptor[8 + 3 * i + j]? := by
  obtain ⟨i, inside, rfl⟩ := List.mem_map.mp member
  rw [List.mem_range, List.length_drop, length] at inside
  refine ⟨i, by omega, fun j small => ?_⟩
  rw [List.getElem?_take_of_lt small, List.getElem?_drop, List.getElem?_drop, Nat.add_assoc]

/-- And every frequency is a chunk. -/
theorem exists_mem_frequencies {i count : Nat} (inside : i < count)
    (length : descriptor.length = 8 + count * 3) :
    ∃ frequency ∈ chunksExact 3 (descriptor.drop 8),
      ∀ j < 3, frequency[j]? = descriptor[8 + 3 * i + j]? := by
  refine ⟨_, List.mem_map.mpr ⟨i, List.mem_range.mpr ?_, rfl⟩, fun j small => ?_⟩
  · rw [List.length_drop, length]
    omega
  · rw [List.getElem?_take_of_lt small, List.getElem?_drop, List.getElem?_drop, Nat.add_assoc]

theorem anyFrequency_eq_ok {frequencies : List (List UInt8)} {found : Bool}
    (evaluated : anyFrequency frequencies = .ok found) :
    found = true ↔ ∃ frequency ∈ frequencies, ∃ low middle high, frequency[0]? = some low ∧
      frequency[1]? = some middle ∧ frequency[2]? = some high ∧
      rateOf low middle high = captureSampleRateHz := by
  induction frequencies with
  | nil =>
    cases evaluated
    exact ⟨nofun, fun ⟨_, member, _⟩ => absurd member List.not_mem_nil⟩
  | cons frequency rest ih =>
    obtain ⟨low, zeroth, evaluated⟩ := bind_eq_ok.mp evaluated
    obtain ⟨middle, first, evaluated⟩ := bind_eq_ok.mp evaluated
    obtain ⟨high, second, evaluated⟩ := bind_eq_ok.mp evaluated
    dsimp only at evaluated
    split at evaluated
    next capture =>
      cases evaluated
      exact ⟨fun _ => ⟨frequency, List.mem_cons_self, low, middle, high, index_eq_ok.mp zeroth,
        index_eq_ok.mp first, index_eq_ok.mp second, capture⟩, fun _ => rfl⟩
    next other =>
      refine (ih evaluated).trans ⟨fun ⟨found, member, about⟩ =>
        ⟨found, List.mem_cons_of_mem _ member, about⟩, ?_⟩
      rintro ⟨found, member, low', middle', high', zeroth', first', second', rate⟩
      rcases List.mem_cons.mp member with rfl | member
      · cases (index_eq_ok.mp zeroth).symm.trans zeroth'
        cases (index_eq_ok.mp first).symm.trans first'
        cases (index_eq_ok.mp second).symm.trans second'
        exact absurd rate other
      · exact ⟨found, member, low', middle', high', zeroth', first', second', rate⟩

theorem isGeneral_eq_ok {kind : UInt8} {general : Bool}
    (typed : (index descriptor 1 : Result UInt8) = .ok kind)
    (evaluated : andThen (kind = descriptorTypeClassInterface) (isGeneral search descriptor) =
      .ok general) : general = true ↔ search.candidate = true ∧ IsGeneral descriptor := by
  constructor
  · intro is
    obtain ⟨class_, guarded⟩ := of_andThen evaluated is
    obtain ⟨candidate, guarded⟩ := of_andThen guarded rfl
    obtain ⟨seven, guarded⟩ := of_andThen guarded rfl
    obtain ⟨subtype, second, decided⟩ := bind_eq_ok.mp guarded
    have general := of_decide_eq_true (Except.ok.inj decided)
    exact ⟨candidate, of_decide_eq_true class_ ▸ index_eq_ok.mp typed, of_decide_eq_true seven,
      general ▸ index_eq_ok.mp second⟩
  · rintro ⟨candidate, is⟩
    cases (index_eq_ok.mp typed).symm.trans is.kind
    simp only [isGeneral, andThen, candidate, is.seven, index_of_getElem? is.subtype, ok_bind,
      decide_true, if_true] at evaluated
    exact (Except.ok.inj evaluated).symm

theorem isFormat_eq_ok {kind : UInt8} {format : Bool}
    (typed : (index descriptor 1 : Result UInt8) = .ok kind)
    (evaluated : andThen (kind = descriptorTypeClassInterface) (isFormat search descriptor) =
      .ok format) :
    format = true ↔ search.candidate = true ∧ search.pcmStream = true ∧ IsFormat descriptor := by
  constructor
  · intro is
    obtain ⟨class_, guarded⟩ := of_andThen evaluated is
    obtain ⟨ready, guarded⟩ := of_andThen guarded rfl
    obtain ⟨candidate, pcm, eleven⟩ := of_decide_eq_true ready
    obtain ⟨subtype, second, guarded⟩ := bind_eq_ok.mp guarded
    obtain ⟨format, guarded⟩ := of_andThen guarded rfl
    obtain ⟨tag, third, decided⟩ := bind_eq_ok.mp guarded
    have typeI := of_decide_eq_true (Except.ok.inj decided)
    exact ⟨candidate, pcm, of_decide_eq_true class_ ▸ index_eq_ok.mp typed, eleven,
      of_decide_eq_true format ▸ index_eq_ok.mp second, typeI ▸ index_eq_ok.mp third⟩
  · rintro ⟨candidate, pcm, is⟩
    cases (index_eq_ok.mp typed).symm.trans is.kind
    simp only [isFormat, andThen, candidate, pcm, is.eleven, index_of_getElem? is.subtype,
      index_of_getElem? is.format, ok_bind, and_self, decide_true, if_true] at evaluated
    exact (Except.ok.inj evaluated).symm

theorem formatBranch_eq_ok (isFormat : IsFormat descriptor)
    (branch : formatBranch search descriptor = .ok next) :
    (next.formatValid = true ↔ IsCaptureFormat descriptor) ∧
      next = { search with
        channels := next.channels, subframeSize := next.subframeSize
        bitResolution := next.bitResolution, formatValid := next.formatValid } := by
  obtain ⟨channels, fourth, branch⟩ := bind_eq_ok.mp branch
  obtain ⟨subframeSize, fifth, branch⟩ := bind_eq_ok.mp branch
  obtain ⟨bitResolution, sixth, branch⟩ := bind_eq_ok.mp branch
  obtain ⟨count, seventh, branch⟩ := bind_eq_ok.mp branch
  obtain ⟨frequenciesLen, fitted, branch⟩ := bind_eq_ok.mp branch
  obtain ⟨expectedLen, fits, branch⟩ := bind_eq_ok.mp branch
  obtain ⟨supports, evaluated, built⟩ := bind_eq_ok.mp branch
  obtain ⟨-, rfl⟩ := fits_eq_ok.mp fitted
  obtain ⟨-, rfl⟩ := fits_eq_ok.mp fits
  cases built
  have slices (length : descriptor.length = 8 + count.toNat * 3) :
      (slice descriptor 8 descriptor.length : Result (List UInt8)) = .ok (descriptor.drop 8) := by
    rw [slice_of_le (by omega) (Nat.le_refl _),
      List.take_of_length_le (Nat.le_of_eq List.length_drop)]
  refine ⟨⟨fun valid => ?_, fun capture => ?_⟩, rfl⟩
  · obtain ⟨mono, two, sixteen, lists⟩ := of_decide_eq_true valid
    obtain ⟨counted, evaluated⟩ := of_andThen evaluated lists
    obtain ⟨-, length⟩ := of_decide_eq_true counted
    rw [slices length, ok_bind] at evaluated
    obtain ⟨frequency, member, low, middle, high, zeroth, first, second, rate⟩ :=
      (anyFrequency_eq_ok evaluated).mp rfl
    obtain ⟨i, inside, same⟩ := getElem?_of_mem_frequencies member length
    exact {
      kind := isFormat.kind
      subtype := isFormat.subtype
      format := isFormat.format
      channels := mono ▸ index_eq_ok.mp fourth
      subframeSize := two ▸ index_eq_ok.mp fifth
      bitResolution := sixteen ▸ index_eq_ok.mp sixth
      frequencies := ⟨count, index_eq_ok.mp seventh, length, i, inside, low, middle, high,
        (same 0 (by omega)).symm.trans zeroth, (same 1 (by omega)).symm.trans first,
        (same 2 (by omega)).symm.trans second, rate⟩ }
  · obtain ⟨others, counts, length, i, inside, low, middle, high, zeroth, first, second, rate⟩ :=
      capture.frequencies
    cases (index_eq_ok.mp seventh).symm.trans counts
    have counted : count ≠ 0 ∧ descriptor.length = 8 + count.toNat * 3 := by
      refine ⟨?_, length⟩
      rintro rfl
      exact absurd inside (Nat.not_lt_zero i)
    have nonzero : count.toNat ≠ 0 := by omega
    obtain ⟨frequency, member, same⟩ := exists_mem_frequencies inside length
    have lists : supports = true := by
      rw [andThen, if_pos (decide_eq_true ⟨nonzero, length⟩), slices length, ok_bind] at evaluated
      exact (anyFrequency_eq_ok evaluated).mpr ⟨frequency, member, low, middle, high,
        (same 0 (by omega)).trans zeroth, (same 1 (by omega)).trans first,
        (same 2 (by omega)).trans second, rate⟩
    exact decide_eq_true ⟨Option.some.inj ((index_eq_ok.mp fourth).symm.trans capture.channels),
      Option.some.inj ((index_eq_ok.mp fifth).symm.trans capture.subframeSize),
      Option.some.inj ((index_eq_ok.mp sixth).symm.trans capture.bitResolution), lists⟩

/-- The endpoint that ends the search. -/
theorem captureEndpoint_eq_some {header : ConfigurationDescriptorHeader}
    {interface : AudioInputInterface} (kind : descriptor[1]? = some descriptorTypeEndpoint)
    (nine : descriptor.length = 9)
    (capture : captureEndpoint header search descriptor = .ok (some interface)) :
    (IsCaptureEndpoint descriptor interface ∧ IsUsable descriptor) ∧
      interface.configuration = header ∧
      interface.interfaceNumber = search.interfaceNumber ∧
      interface.alternateSetting = search.alternateSetting := by
  obtain ⟨address, second, capture⟩ := bind_eq_ok.mp capture
  obtain ⟨attributes, third, capture⟩ := bind_eq_ok.mp capture
  obtain ⟨low, fourth, capture⟩ := bind_eq_ok.mp capture
  obtain ⟨high, fifth, capture⟩ := bind_eq_ok.mp capture
  obtain ⟨interval, sixth, capture⟩ := bind_eq_ok.mp capture
  split at capture
  next usable =>
    cases capture
    obtain ⟨isIn, reserved, number, isochronous, size, fits, one⟩ := usable
    refine ⟨⟨?_, ?_⟩, rfl, rfl, rfl⟩
    · exact {
        kind
        nine
        address := index_eq_ok.mp second
        isIn
        attributes := ⟨attributes, index_eq_ok.mp third, isochronous⟩
        maxPacketSize := ⟨low, high, index_eq_ok.mp fourth, index_eq_ok.mp fifth, rfl⟩
        size := ⟨Nat.pos_of_ne_zero fun zero => size (UInt16.toNat_inj.mp zero), fits⟩
        interval := ⟨one ▸ index_eq_ok.mp sixth, one⟩ }
    · exact {
        kind
        nine
        address := ⟨address, index_eq_ok.mp second, isIn, reserved, number⟩
        attributes := ⟨attributes, index_eq_ok.mp third, isochronous⟩
        maxPacketSize := ⟨low, high, index_eq_ok.mp fourth, index_eq_ok.mp fifth, size, fits⟩
        interval := one ▸ index_eq_ok.mp sixth }
  next =>
    cases capture

/-- No other endpoint does. -/
theorem captureEndpoint_eq_none {header : ConfigurationDescriptorHeader}
    (capture : captureEndpoint header search descriptor = .ok none) : ¬ IsUsable descriptor := by
  intro is
  obtain ⟨address, second, isIn, reserved, number⟩ := is.address
  obtain ⟨attributes, third, isochronous⟩ := is.attributes
  obtain ⟨low, high, fourth, fifth, size, fits⟩ := is.maxPacketSize
  simp only [captureEndpoint, index_of_getElem? second, index_of_getElem? third,
    index_of_getElem? fourth, index_of_getElem? fifth, index_of_getElem? is.interval, ok_bind] at capture
  rw [if_pos ⟨isIn, reserved, number, isochronous, size, fits, trivial⟩] at capture
  cases capture

end Branches

/-! ### One descriptor -/

/-- What the loop notes of a descriptor that does not end it. -/
inductive Notes (search : Search) (descriptor : List UInt8) (next : Search) : Prop where
  | setting (isInterface : IsInterface descriptor) (nine : descriptor.length = 9)
      (isSetting : next.candidate = true →
        IsSetting descriptor next.interfaceNumber next.alternateSetting)
      (candidate : next.candidate = true ↔ IsCandidate descriptor)
      (started : next.pcmStream = false ∧ next.formatValid = false)
  | general (candidate : search.candidate = true) (isGeneral : IsGeneral descriptor)
      (pcm : next.pcmStream = true ↔ IsPcmGeneral descriptor)
      (same : next = { search with pcmStream := next.pcmStream })
  | format (pcm : search.pcmStream = true) (isFormat : IsFormat descriptor)
      (valid : next.formatValid = true ↔ IsCaptureFormat descriptor)
      (same : next = { search with
        channels := next.channels, subframeSize := next.subframeSize
        bitResolution := next.bitResolution, formatValid := next.formatValid })
  | nothing (other : ¬ (IsInterface descriptor ∧ descriptor.length = 9))
      (notGeneral : search.candidate = true → ¬ IsGeneral descriptor)
      (notFormat : search.candidate = true → search.pcmStream = true → ¬ IsFormat descriptor)
      (incomplete : search.candidate = true → search.pcmStream = true → search.formatValid = true →
        ¬ IsUsable descriptor) (same : next = search)

/-- A descriptor ends the loop with the interface, whatever follows, or the loop goes on with what
it noted. -/
inductive Takes (header : ConfigurationDescriptorHeader) (search : Search)
    (descriptor : List UInt8) (interface : AudioInputInterface) : Prop where
  | stops (ends : ∀ rest, searchFrom header search (.ok descriptor :: rest) = .ok interface)
      (complete : search.candidate = true ∧ search.pcmStream = true ∧ search.formatValid = true)
      (isEndpoint : IsCaptureEndpoint descriptor interface) (usable : IsUsable descriptor)
      (setting : interface.configuration = header ∧
        interface.interfaceNumber = search.interfaceNumber ∧
        interface.alternateSetting = search.alternateSetting)
  | onward (next : Search) (notes : Notes search descriptor next)
      (goes : ∀ rest,
        searchFrom header search (.ok descriptor :: rest) = searchFrom header next rest)

/-- **One turn of a loop that returns.** -/
theorem searchFrom_cons {header : ConfigurationDescriptorHeader} {search : Search}
    {interface : AudioInputInterface} {item : DescriptorIter.Item} {rest : List DescriptorIter.Item}
    (runs : searchFrom header search (item :: rest) = .ok interface) :
    ∃ descriptor, item = .ok descriptor ∧ Takes header search descriptor interface := by
  rw [searchFrom] at runs
  obtain ⟨descriptor, converted, runs⟩ := bind_eq_ok.mp runs
  obtain ⟨kind, typed, runs⟩ := bind_eq_ok.mp runs
  refine ⟨descriptor, convert_eq_ok.mp converted, ?_⟩
  have reads (more : List DescriptorIter.Item) :
      searchFrom header search (.ok descriptor :: more) = _ := searchFrom.eq_2 ..
  simp only [convert, ok_bind, typed] at reads
  have kindIs {value : UInt8} (is : descriptor[1]? = some value) : kind = value :=
    Option.some.inj ((index_eq_ok.mp typed).symm.trans is)
  have isInterface : IsInterface descriptor ↔ kind = descriptorTypeInterface := by
    rw [IsInterface, index_eq_ok.mp typed, Option.some.injEq]
  split at runs
  next here =>
    obtain ⟨next, branch, -⟩ := bind_eq_ok.mp runs
    obtain ⟨isSetting, candidate, started⟩ :=
      interfaceBranch_eq_ok (isInterface.mpr here.1) here.2 branch
    refine .onward next (.setting (isInterface.mpr here.1) here.2 isSetting candidate started)
      fun more => ?_
    rw [reads, if_pos here, branch, ok_bind]
  next here =>
    have other : ¬ (IsInterface descriptor ∧ descriptor.length = 9) := fun both =>
      here ⟨isInterface.mp both.1, both.2⟩
    simp only [if_neg here] at reads
    obtain ⟨general, evaluated, runs⟩ := bind_eq_ok.mp runs
    have generalIff := isGeneral_eq_ok typed evaluated
    simp only [evaluated, ok_bind] at reads
    split at runs
    next is =>
      obtain ⟨candidate, isGeneral⟩ := generalIff.mp is
      obtain ⟨low, fifth, runs⟩ := bind_eq_ok.mp runs
      obtain ⟨high, sixth, runs⟩ := bind_eq_ok.mp runs
      simp only [if_pos is, fifth, sixth, ok_bind] at reads
      refine .onward _ (.general candidate isGeneral ⟨fun pcm => ?_, fun pcm => ?_⟩ rfl) reads
      · exact {
          kind := isGeneral.kind
          subtype := isGeneral.subtype
          formatTag := ⟨low, high, index_eq_ok.mp fifth, index_eq_ok.mp sixth,
            of_decide_eq_true pcm⟩ }
      · obtain ⟨low', high', fifth', sixth', tag⟩ := pcm.formatTag
        cases (index_eq_ok.mp fifth).symm.trans fifth'
        cases (index_eq_ok.mp sixth).symm.trans sixth'
        exact decide_eq_true tag
    next no =>
      have notGeneral (candidate : search.candidate = true) : ¬ IsGeneral descriptor :=
        fun isGeneral => no (generalIff.mpr ⟨candidate, isGeneral⟩)
      simp only [if_neg no] at reads
      obtain ⟨format, evaluated, runs⟩ := bind_eq_ok.mp runs
      have formatIff := isFormat_eq_ok typed evaluated
      simp only [evaluated, ok_bind] at reads
      split at runs
      next is =>
        obtain ⟨candidate, pcm, isFormat⟩ := formatIff.mp is
        obtain ⟨next, branch, -⟩ := bind_eq_ok.mp runs
        obtain ⟨valid, same⟩ := formatBranch_eq_ok isFormat branch
        simp only [if_pos is, branch, ok_bind] at reads
        exact .onward next (.format pcm isFormat valid same) reads
      next no =>
        have notFormat (candidate : search.candidate = true) (pcm : search.pcmStream = true) :
            ¬ IsFormat descriptor := fun isFormat => no (formatIff.mpr ⟨candidate, pcm, isFormat⟩)
        simp only [if_neg no] at reads
        split at runs
        next complete =>
          simp only [if_pos complete] at reads
          split at runs
          next short =>
            simp only [if_pos short] at reads
            exact .onward search (.nothing other notGeneral notFormat
              (fun _ _ _ usable => short usable.nine) rfl) reads
          next nine =>
            simp only [if_neg nine] at reads
            obtain ⟨found, capture, runs⟩ := bind_eq_ok.mp runs
            simp only [capture, ok_bind] at reads
            cases found with
            | some taken =>
              cases runs
              obtain ⟨⟨isEndpoint, usable⟩, setting⟩ := captureEndpoint_eq_some
                (complete.1 ▸ index_eq_ok.mp typed) (Decidable.not_not.mp nine) capture
              exact .stops reads complete.2 isEndpoint usable setting
            | none =>
              exact .onward search (.nothing other notGeneral notFormat
                (fun _ _ _ => captureEndpoint_eq_none capture) rfl) reads
        next incomplete =>
          simp only [if_neg incomplete] at reads
          exact .onward search (.nothing other notGeneral notFormat (fun candidate pcm valid usable =>
            incomplete ⟨kindIs usable.kind, candidate, pcm, valid⟩) rfl) reads

/-- Where the search goes on, no usable endpoint has found a complete setting. -/
theorem Notes.incomplete {search next : Search} {descriptor : List UInt8}
    (notes : Notes search descriptor next) (candidate : search.candidate = true)
    (pcm : search.pcmStream = true) (valid : search.formatValid = true) : ¬ IsUsable descriptor := by
  intro usable
  cases notes with
  | setting isInterface nine isSetting candidate started =>
    cases isInterface.symm.trans usable.kind
  | general candidate isGeneral pcm same => cases isGeneral.kind.symm.trans usable.kind
  | format pcm isFormat valid same => cases isFormat.kind.symm.trans usable.kind
  | nothing other notGeneral notFormat incomplete same => exact incomplete candidate pcm valid usable

end PioUsbHost.Audio
