/-
**HID discovery accepts exactly the specified interfaces.**

* `hidDescriptor_eq_ok`: what a HID class descriptor is made of.
* `foldlM_hidInside`: the section of a HID interface is accepted exactly when it is a `HidSection`,
  with the findings `hidFindings`.
* `discoverInterface_eq_ok`: so discovery returns an interface exactly when the configuration
  specifies it.
-/

import PioUsbHost.Hid.Discovery
import PioUsbHost.Lib.SingleSlot
import PioUsbHost.Usb.Directions
import PioUsbHost.Usb.SectionOfPass

namespace PioUsbHost.Hid

open PioUsbHost.Lib.Panic PioUsbHost.Lib.SingleSlot PioUsbHost.Usb

/-! ### What is specified -/

/-- The types and lengths of the subordinate descriptors, three bytes each. -/
def subordinates : List UInt8 → List (UInt8 × UInt16)
  | kind :: low :: high :: rest => (kind, u16FromLeBytes low high) :: subordinates rest
  | _ => []

/-- The lengths of the report descriptors among them. -/
def reportLengths (bytes : List UInt8) : List UInt16 :=
  (subordinates bytes).filterMap fun subordinate =>
    if subordinate.1 = descriptorTypeHidReport then some subordinate.2 else none

/-- A HID class descriptor: as long as its count says, without an empty subordinate and with one
report descriptor. -/
structure IsHidDescriptor (bytes : List UInt8) (descriptor : HidDescriptor) : Prop where
  kind : bytes[1]? = some descriptorTypeHid
  length : ∃ count : UInt8, bytes[5]? = some count ∧ bytes.length = 6 + 3 * count.toNat
  nonzero : ∀ subordinate ∈ subordinates (bytes.drop 6), subordinate.2 ≠ 0
  report : reportLengths (bytes.drop 6) = [descriptor.reportDescriptorLen]
  version : ∃ low high, bytes[2]? = some low ∧ bytes[3]? = some high ∧
    descriptor.hidVersionBcd = u16FromLeBytes low high
  country : bytes[4]? = some descriptor.countryCode

/-- A well-formed interrupt endpoint descriptor. -/
structure IsInterruptEndpoint (bytes : List UInt8) (endpoint : EndpointDescriptor) : Prop where
  isEndpoint : IsEndpoint bytes endpoint
  interrupt : endpoint.transferType = 0x03
  reserved : endpoint.attributes &&& 0xfc = 0
  maxPacketSize : 1 ≤ endpoint.maxPacketSize.toNat ∧ endpoint.maxPacketSize.toNat ≤ 1024
  interval : endpoint.interval ≠ 0

/-- The interrupt endpoint that a descriptor describes. -/
def readInterrupt (bytes : List UInt8) : Option EndpointDescriptor :=
  (EndpointDescriptor.parse bytes).toOption.filter isSupportedHidInterrupt

/-- The HID descriptor that the bytes are. -/
def readHid (bytes : List UInt8) : Option HidDescriptor := (HidDescriptor.parse bytes).toOption

/-- The HID descriptors of a section. -/
def hids (body : List (List UInt8)) : List (List UInt8) := ofType descriptorTypeHid body

/-- The endpoint descriptors of a section. -/
def endpoints (body : List (List UInt8)) : List (List UInt8) := ofType descriptorTypeEndpoint body

/-! ### The HID class descriptor -/

theorem chunksExact_three_cons {kind low high : UInt8} {rest : List UInt8} :
    chunksExact 3 (kind :: low :: high :: rest) = [kind, low, high] :: chunksExact 3 rest := by
  show chunksExact 3 ([kind, low, high] ++ rest) = _
  exact chunksExact_append (by decide) rfl

theorem reportLengths_cons {kind low high : UInt8} {rest : List UInt8} :
    reportLengths (kind :: low :: high :: rest) =
      (if kind = descriptorTypeHidReport then [u16FromLeBytes low high] else []) ++
        reportLengths rest := by
  rw [reportLengths, subordinates, List.filterMap_cons]
  split <;> simp_all [reportLengths]

/-- One subordinate; `known` is the report descriptor before it. -/
theorem reportDescriptorEntry_eq_ok {kind low high : UInt8} {known next : Option UInt16} :
    reportDescriptorEntry known [kind, low, high] = .ok next ↔
      u16FromLeBytes low high ≠ 0 ∧
        (kind = descriptorTypeHidReport → known = none) ∧
        next =
          if kind = descriptorTypeHidReport then some (u16FromLeBytes low high) else known := by
  simp only [reportDescriptorEntry, index, List.getElem?_cons_zero, List.getElem?_cons_succ,
    ok_bind]
  by_cases empty : u16FromLeBytes low high = 0
  · simp [empty]
  · by_cases report : kind = descriptorTypeHidReport
    · cases known <;> simp [empty, report, eq_comm]
    · simp [empty, report, eq_comm]

/-- **The loop over the subordinates** finds the only report descriptor, if there is one. -/
theorem foldlM_reportDescriptorEntry {bytes : List UInt8} {known result : Option UInt16} :
    (chunksExact 3 bytes).foldlM reportDescriptorEntry known = .ok result ↔
      (∀ subordinate ∈ subordinates bytes, subordinate.2 ≠ 0) ∧
        (known.toList ++ reportLengths bytes).length ≤ 1 ∧
        result = (known.toList ++ reportLengths bytes).head? := by
  induction bytes using subordinates.induct generalizing known with
  | case1 kind low high rest ih =>
    rw [chunksExact_three_cons, List.foldlM_cons, bind_eq_ok, subordinates, List.forall_mem_cons,
      reportLengths_cons]
    simp only [reportDescriptorEntry_eq_ok, ih]
    by_cases report : kind = descriptorTypeHidReport
    · cases known with
      | none => simp [report, and_assoc]
      | some length => simp [report]
    · simp [report, and_assoc]
  | case2 bytes short =>
    have few : bytes.length < 3 := by
      rcases bytes with _ | ⟨kind, _ | ⟨low, _ | ⟨high, rest⟩⟩⟩
      · exact Nat.succ_pos _
      · exact Nat.succ_lt_succ (Nat.succ_pos _)
      · exact Nat.succ_lt_succ (Nat.succ_lt_succ (Nat.succ_pos _))
      · exact absurd rfl (short kind low high rest)
    have none : subordinates bytes = [] := by
      rw [subordinates]
      exact short
    rw [chunksExact_of_lt few, reportLengths, none]
    cases known <;> simp [eq_comm]

theorem expectedLen_eq (count : UInt8) : expectedLen count.toNat = .ok (6 + count.toNat * 3) := by
  have small := count.toNat_lt
  have size : UInt32.size = 4294967296 := rfl
  rw [expectedLen, checked, if_pos (by omega), okOr_some, ok_bind, checked, if_pos (by omega),
    okOr_some]

/-- The parser on a descriptor that has its first six bytes. -/
theorem hidDescriptor_cons {length kind low high country count : UInt8} {rest : List UInt8} :
    HidDescriptor.parse (length :: kind :: low :: high :: country :: count :: rest) =
      if kind ≠ descriptorTypeHid then fail .invalidHidDescriptor
      else if rest.length ≠ 3 * count.toNat then fail .invalidHidDescriptor
      else do
        let found ← (chunksExact 3 rest).foldlM reportDescriptorEntry none
        let reportDescriptorLen ← okOr found .missingReportDescriptor
        return ⟨u16FromLeBytes low high, country, reportDescriptorLen⟩ := by
  have long : ¬ (length :: kind :: low :: high :: country :: count :: rest).length < 6 := by
    simp only [List.length_cons]
    omega
  have sliced : (slice (length :: kind :: low :: high :: country :: count :: rest) 6
      (length :: kind :: low :: high :: country :: count :: rest).length :
        Checked HidConfigurationError (List UInt8)) = .ok rest := by
    rw [slice_of_le (Nat.le_of_not_lt long) (Nat.le_refl _),
      List.take_of_length_le (Nat.le_of_eq List.length_drop)]
    rfl
  have counted : (length :: kind :: low :: high :: country :: count :: rest).length ≠
      6 + count.toNat * 3 ↔ rest.length ≠ 3 * count.toNat := by
    simp only [List.length_cons]
    omega
  rw [HidDescriptor.parse, orElse, decide_eq_false long]
  simp only [Bool.false_eq_true, if_false, index, List.getElem?_cons_zero,
    List.getElem?_cons_succ, ok_bind, pure_eq_ok, expectedLen_eq, sliced, counted,
    decide_eq_true_eq]

/-- **What a HID class descriptor is made of.** -/
theorem hidDescriptor_eq_ok {bytes : List UInt8} {descriptor : HidDescriptor} :
    HidDescriptor.parse bytes = .ok descriptor ↔ IsHidDescriptor bytes descriptor := by
  rcases bytes with _ | ⟨b0, _ | ⟨b1, _ | ⟨b2, _ | ⟨b3, _ | ⟨b4, _ | ⟨b5, rest⟩⟩⟩⟩⟩⟩
  case cons.cons.cons.cons.cons.cons =>
    rw [hidDescriptor_cons]
    constructor
    · intro parsed
      split at parsed
      · exact absurd parsed (fail_ne_ok _ _)
      next kind =>
        split at parsed
        · exact absurd parsed (fail_ne_ok _ _)
        next length =>
          obtain ⟨report, entries, parsed⟩ := bind_eq_ok.mp parsed
          obtain ⟨reportLen, found, built⟩ := bind_eq_ok.mp parsed
          obtain ⟨nonzero, few, rfl⟩ := foldlM_reportDescriptorEntry.mp entries
          have only := toList_head? few
          rw [okOr_eq_ok.mp found] at only
          cases built
          exact {
            kind := congrArg some (Decidable.not_not.mp kind)
            length := ⟨b5, rfl, by simp only [List.length_cons]; omega⟩
            nonzero
            report := only.symm
            version := ⟨b2, b3, rfl, rfl, rfl⟩
            country := rfl }
    · intro is
      obtain ⟨count, counted, length⟩ := is.length
      obtain ⟨low, high, second, third, version⟩ := is.version
      have kind : b1 = descriptorTypeHid := Option.some.inj is.kind
      have country : b4 = descriptor.countryCode := Option.some.inj is.country
      have report : reportLengths rest = [descriptor.reportDescriptorLen] := is.report
      have entries : (chunksExact 3 rest).foldlM reportDescriptorEntry none =
          .ok (some descriptor.reportDescriptorLen) :=
        foldlM_reportDescriptorEntry.mpr ⟨is.nonzero, by rw [report]; exact Nat.le_refl 1,
          by rw [report]; rfl⟩
      cases counted
      cases second
      cases third
      have length : rest.length = 3 * b5.toNat := by
        simp only [List.length_cons] at length
        omega
      rw [if_neg (Decidable.not_not.mpr kind), if_neg (Decidable.not_not.mpr length), entries,
        ok_bind, okOr_some, ok_bind, ← version, country]
      rfl
  all_goals
    constructor
    · intro parsed
      cases parsed
    · intro is
      obtain ⟨count, -, length⟩ := is.length
      simp only [List.length_cons, List.length_nil] at length
      omega

theorem readHid_eq_some {bytes : List UInt8} {descriptor : HidDescriptor} :
    readHid bytes = some descriptor ↔ IsHidDescriptor bytes descriptor :=
  toOption_eq_some.trans hidDescriptor_eq_ok

/-! ### The endpoints -/

theorem readInterrupt_eq_some {bytes : List UInt8} {endpoint : EndpointDescriptor} :
    readInterrupt bytes = some endpoint ↔ IsInterruptEndpoint bytes endpoint := by
  have reads : readInterrupt bytes = some endpoint ↔
      IsEndpoint bytes endpoint ∧ isSupportedHidInterrupt endpoint = true := by
    rw [readInterrupt, filter_toOption_eq_some, EndpointDescriptor.parse_eq_ok]
  rw [reads, isSupportedHidInterrupt, decide_eq_true_eq]
  constructor
  · rintro ⟨isEndpoint, interrupt, reserved, size, interval⟩
    have positive : 1 ≤ endpoint.maxPacketSize.toNat := Nat.pos_of_ne_zero fun zero =>
      isEndpoint.maxPacketSize.1 (UInt16.toNat_inj.mp zero)
    exact ⟨isEndpoint, interrupt, reserved, ⟨positive, size⟩, interval⟩
  · intro is
    exact ⟨is.isEndpoint, is.interrupt, is.reserved, is.maxPacketSize.2, is.interval⟩

/-! ### The section -/

/-- The section has at most one HID class descriptor and one interrupt endpoint in each direction,
and all of them read. -/
structure HidSection (body : List (List UInt8)) : Prop where
  hid : Single readHid (hids body)
  one : OnePerDirection readInterrupt (endpoints body)

/-- What the section holds. -/
def hidFindings (body : List (List UInt8)) : HidFindings where
  hidDescriptor := slot readHid (hids body)
  endpointsSeen := UInt8.ofNat (endpoints body).length
  interruptInEndpoint := (inDirection readInterrupt true (endpoints body)).head?
  interruptOutEndpoint := (inDirection readInterrupt false (endpoints body)).head?

section Concat

variable {body : List (List UInt8)} {descriptor : List UInt8} {found result : HidFindings}

theorem hids_append {others : List (List UInt8)} :
    hids (body ++ others) = hids body ++ hids others := ofType_append

theorem endpoints_append {others : List (List UInt8)} :
    endpoints (body ++ others) = endpoints body ++ endpoints others := ofType_append

theorem HidSection.of_append {others : List (List UInt8)}
    (isSection : HidSection (body ++ others)) : HidSection body where
  hid := single_of_prefix (hids_append ▸ isSection.hid)
  one := (endpoints_append ▸ isSection.one : OnePerDirection readInterrupt (_ ++ _)).of_append

theorem hidBranch_eq_ok : hidBranch found descriptor = .ok result ↔
    found.hidDescriptor = none ∧ ∃ parsed, readHid descriptor = some parsed ∧
      result = { found with hidDescriptor := some parsed } := by
  rw [hidBranch, readHid]
  cases HidDescriptor.parse descriptor with
  | error fault => simp [Except.toOption]
  | ok parsed => cases found.hidDescriptor <;> simp [Except.toOption, eq_comm]

theorem interruptBranch_eq_ok (few : found.endpointsSeen.toNat + 1 < 256) :
    interruptBranch found descriptor = .ok result ↔
      ∃ endpoint, readInterrupt descriptor = some endpoint ∧
        if endpoint.isIn then
          found.interruptInEndpoint = none ∧ result = { found with
            endpointsSeen := found.endpointsSeen + 1, interruptInEndpoint := some endpoint }
        else
          found.interruptOutEndpoint = none ∧ result = { found with
            endpointsSeen := found.endpointsSeen + 1, interruptOutEndpoint := some endpoint } := by
  have counted : increment found.endpointsSeen = some (found.endpointsSeen + 1) := if_pos few
  rw [interruptBranch, readInterrupt, counted]
  cases parsed : EndpointDescriptor.parse descriptor with
  | error fault => cases fault <;> simp [convert, Except.toOption]
  | ok endpoint =>
    cases supported : isSupportedHidInterrupt endpoint with
    | false => simp [convert, Except.toOption, supported]
    | true =>
      cases direction : endpoint.isIn with
      | false =>
        cases found.interruptOutEndpoint <;>
          simp [convert, Except.toOption, supported, direction, eq_comm (a := result)]
      | true =>
        cases found.interruptInEndpoint <;>
          simp [convert, Except.toOption, supported, direction, eq_comm (a := result)]

/-- A HID class descriptor of a HID interface's section. -/
theorem hidBranch_concat (isHid : descriptor[1]? = some descriptorTypeHid)
    (isSection : HidSection body) :
    hidBranch (hidFindings body) descriptor = .ok result ↔
      HidSection (body ++ [descriptor]) ∧ result = hidFindings (body ++ [descriptor]) := by
  have listed : hids (body ++ [descriptor]) = hids body ++ [descriptor] := by
    rw [hids_append, hids, hids, ofType_singleton isHid, if_pos rfl]
  have same : endpoints (body ++ [descriptor]) = endpoints body := by
    rw [endpoints_append, endpoints, endpoints, ofType_singleton isHid, if_neg (by decide),
      List.append_nil]
  have extended : HidSection (body ++ [descriptor]) ↔
      hids body = [] ∧ (readHid descriptor).isSome := by
    constructor
    · intro both
      exact single_concat.mp (listed ▸ both.hid)
    · intro first
      exact ⟨listed ▸ single_concat.mpr first, same ▸ isSection.one⟩
  have findings : hidFindings (body ++ [descriptor]) = { hidFindings body with
      hidDescriptor := slot readHid (hids body ++ [descriptor]) } := by
    simp only [hidFindings, listed, same]
  rw [hidBranch_eq_ok, extended, findings]
  exact Lib.SingleSlot.accept_iff isSection.hid fun hidDescriptor =>
    ({ hidFindings body with hidDescriptor := hidDescriptor } : HidFindings)

theorem endpoints_concat (isEndpoint : descriptor[1]? = some descriptorTypeEndpoint) :
    endpoints (body ++ [descriptor]) = endpoints body ++ [descriptor] ∧
      hids (body ++ [descriptor]) = hids body := by
  rw [endpoints_append, endpoints, endpoints, ofType_singleton isEndpoint, if_pos rfl, hids_append,
    hids, hids, ofType_singleton isEndpoint, if_neg (by decide), List.append_nil]
  exact ⟨rfl, rfl⟩

theorem hidFindings_concat {endpoint : EndpointDescriptor}
    (isEndpoint : descriptor[1]? = some descriptorTypeEndpoint)
    (reads : readInterrupt descriptor = some endpoint)
    (first : inDirection readInterrupt endpoint.isIn (endpoints body) = []) :
    hidFindings (body ++ [descriptor]) =
      if endpoint.isIn then { hidFindings body with
        endpointsSeen := (hidFindings body).endpointsSeen + 1
        interruptInEndpoint := some endpoint }
      else { hidFindings body with
        endpointsSeen := (hidFindings body).endpointsSeen + 1
        interruptOutEndpoint := some endpoint } := by
  obtain ⟨listed, same⟩ : endpoints (body ++ [descriptor]) = endpoints body ++ [descriptor] ∧
      hids (body ++ [descriptor]) = hids body := endpoints_concat isEndpoint
  cases direction : endpoint.isIn <;> rw [direction] at first <;>
    simp [hidFindings, listed, same, inDirection_concat reads, direction, first]

/-- An endpoint descriptor of a HID interface's section. -/
theorem interruptBranch_concat (isEndpoint : descriptor[1]? = some descriptorTypeEndpoint)
    (isSection : HidSection body) :
    interruptBranch (hidFindings body) descriptor = .ok result ↔
      HidSection (body ++ [descriptor]) ∧ result = hidFindings (body ++ [descriptor]) := by
  obtain ⟨listed, same⟩ : endpoints (body ++ [descriptor]) = endpoints body ++ [descriptor] ∧
      hids (body ++ [descriptor]) = hids body := endpoints_concat isEndpoint
  have extended : HidSection (body ++ [descriptor]) ↔ ∃ endpoint,
      readInterrupt descriptor = some endpoint ∧
        inDirection readInterrupt endpoint.isIn (endpoints body) = [] := by
    rw [← onePerDirection_concat isSection.one, ← listed]
    exact ⟨fun both => both.one, fun one => ⟨same ▸ isSection.hid, one⟩⟩
  have few : (hidFindings body).endpointsSeen.toNat + 1 < 256 := by
    have atMostTwo := isSection.one.length_le
    rw [hidFindings, UInt8.toNat_ofNat']
    omega
  have empty (isIn : Bool) : (inDirection readInterrupt isIn (endpoints body)).head? = none ↔
      inDirection readInterrupt isIn (endpoints body) = [] := List.head?_eq_none_iff
  rw [interruptBranch_eq_ok few, extended]
  constructor
  · rintro ⟨endpoint, reads, taken⟩
    have first : inDirection readInterrupt endpoint.isIn (endpoints body) = [] := by
      cases direction : endpoint.isIn <;> rw [direction] at taken
      · exact (empty false).mp taken.1
      · exact (empty true).mp taken.1
    refine ⟨⟨endpoint, reads, first⟩, ?_⟩
    rw [hidFindings_concat isEndpoint reads first]
    cases direction : endpoint.isIn <;> rw [direction] at taken <;> exact taken.2
  · rintro ⟨⟨endpoint, reads, first⟩, rfl⟩
    refine ⟨endpoint, reads, ?_⟩
    rw [hidFindings_concat isEndpoint reads first]
    cases direction : endpoint.isIn <;> rw [direction] at first
    · exact ⟨(empty false).mpr first, rfl⟩
    · exact ⟨(empty true).mpr first, rfl⟩

/-- A descriptor of another type changes nothing. -/
theorem concat_other {kind : UInt8} (typed : descriptor[1]? = some kind)
    (notHid : kind ≠ descriptorTypeHid) (notEndpoint : kind ≠ descriptorTypeEndpoint) :
    hids (body ++ [descriptor]) = hids body ∧
      endpoints (body ++ [descriptor]) = endpoints body := by
  rw [hids_append, hids, hids, ofType_singleton typed, if_neg notHid, endpoints_append, endpoints,
    endpoints, ofType_singleton typed, if_neg notEndpoint, List.append_nil, List.append_nil]
  exact ⟨rfl, rfl⟩

/-- **One more descriptor of a HID interface's section.** -/
theorem hidInside_concat {interface : InterfaceDescriptor} (hid : isHid interface = true)
    (isDescriptor : IsDescriptor descriptor) (isSection : HidSection body) :
    hidInside interface (hidFindings body) descriptor = .ok result ↔
      HidSection (body ++ [descriptor]) ∧ result = hidFindings (body ++ [descriptor]) := by
  obtain ⟨kind, typed, read⟩ := isDescriptor.index_one HidConfigurationError
  rw [hidInside, read, ok_bind]
  by_cases isHidType : kind = descriptorTypeHid
  · rw [if_pos isHidType, if_pos hid]
    exact hidBranch_concat (typed.trans (congrArg some isHidType)) isSection
  by_cases isEndpoint : kind = descriptorTypeEndpoint
  · rw [if_neg isHidType, if_pos isEndpoint, if_pos hid]
    exact interruptBranch_concat (typed.trans (congrArg some isEndpoint)) isSection
  · obtain ⟨sameHids, sameEndpoints⟩ : hids (body ++ [descriptor]) = hids body ∧
        endpoints (body ++ [descriptor]) = endpoints body := concat_other typed isHidType isEndpoint
    have kept : HidSection (body ++ [descriptor]) :=
      ⟨sameHids ▸ isSection.hid, sameEndpoints ▸ isSection.one⟩
    rw [if_neg isHidType, if_neg isEndpoint]
    simp [kept, hidFindings, sameHids, sameEndpoints, eq_comm (a := result)]

end Concat

/-- **The section of a HID interface is accepted exactly when it is a HID section.** -/
theorem foldlM_hidInside {interface : InterfaceDescriptor} (hid : isHid interface = true)
    {body : List (List UInt8)} {result : HidFindings}
    (framed : ∀ descriptor ∈ body, IsDescriptor descriptor) :
    body.foldlM (hidInside interface) {} = .ok result ↔
      HidSection body ∧ result = hidFindings body :=
  foldlM_eq_ok_iff ⟨single_nil, onePerDirection_nil⟩ rfl HidSection.of_append
    (hidInside_concat hid) framed

/-! ### The interface -/

/-- **The configuration specifies the interface.** -/
structure Specifies (bytes : List UInt8) (n : UInt8) (h : HidInterface)
    (header : ConfigurationDescriptorHeader) (descriptors : List (List UInt8))
    (interface : InterfaceDescriptor) (body : List (List UInt8)) : Prop where
  wellFramed : WellFramed bytes header descriptors
  /-- One descriptor claims the interface, of whatever length; it is well formed, and its section
  follows it. -/
  only : IsSection descriptors n interface body
  class_ : interface.class_ = usbClassHid
  hid : ∃ descriptor, hids body = [descriptor] ∧ IsHidDescriptor descriptor
    ⟨h.hidVersionBcd, h.countryCode, h.reportDescriptorLen⟩
  endpoints : ∀ descriptor ∈ endpoints body, ∃ endpoint, IsInterruptEndpoint descriptor endpoint
  interruptIn : inDirection readInterrupt true (Hid.endpoints body) = [h.interruptInEndpoint]
  interruptOut : inDirection readInterrupt false (Hid.endpoints body) =
    h.interruptOutEndpoint.toList
  endpointCount : interface.endpointCount.toNat = (Hid.endpoints body).length
  interfaceNumber : h.interfaceNumber = n
  interfaceSubclass : h.interfaceSubclass = interface.subclass
  interfaceProtocol : h.interfaceProtocol = interface.protocol

section Interface

variable {bytes : List UInt8} {n : UInt8} {h : HidInterface}

/-- What the checks after the pass have found. -/
structure HidChecked (n : UInt8) (scan : InterfaceScan HidFindings) (h : HidInterface)
    (interface : InterfaceDescriptor) : Prop where
  selected : scan.selected = some interface
  hid : isHid interface = true
  endpointCount : interface.endpointCount = scan.found.endpointsSeen
  few : interface.endpointCount ∈ [1, 2]
  hidDescriptor : scan.found.hidDescriptor =
    some ⟨h.hidVersionBcd, h.countryCode, h.reportDescriptorLen⟩
  interruptIn : scan.found.interruptInEndpoint = some h.interruptInEndpoint
  interruptOut : scan.found.interruptOutEndpoint = h.interruptOutEndpoint
  interfaceNumber : h.interfaceNumber = n
  interfaceSubclass : h.interfaceSubclass = interface.subclass
  interfaceProtocol : h.interfaceProtocol = interface.protocol

theorem hidInterfaceOf_eq_ok {scan : InterfaceScan HidFindings} :
    hidInterfaceOf n scan = .ok h ↔ ∃ interface, HidChecked n scan h interface := by
  constructor
  · intro accepted
    obtain ⟨interface, selected, accepted⟩ := bind_eq_ok.mp accepted
    split at accepted
    · exact absurd accepted (fail_ne_ok _ _)
    next hid =>
    split at accepted
    · exact absurd accepted (fail_ne_ok _ _)
    next counted =>
    obtain ⟨hidDescriptor, found, accepted⟩ := bind_eq_ok.mp accepted
    obtain ⟨interruptIn, isIn, accepted⟩ := bind_eq_ok.mp accepted
    cases accepted
    rw [not_or, Decidable.not_not, Decidable.not_not] at counted
    exact ⟨interface, {
      selected := okOr_eq_ok.mp selected
      hid := Decidable.not_not.mp hid
      endpointCount := counted.1
      few := counted.2
      hidDescriptor := okOr_eq_ok.mp found
      interruptIn := okOr_eq_ok.mp isIn
      interruptOut := rfl
      interfaceNumber := rfl
      interfaceSubclass := rfl
      interfaceProtocol := rfl }⟩
  · rintro ⟨interface, checked⟩
    have counted : ¬ (interface.endpointCount ≠ scan.found.endpointsSeen ∨
        interface.endpointCount ∉ [1, 2]) := by
      rw [not_or, Decidable.not_not, Decidable.not_not]
      exact ⟨checked.endpointCount, checked.few⟩
    rw [hidInterfaceOf, checked.selected, okOr_some, ok_bind,
      if_neg (Decidable.not_not.mpr checked.hid), if_neg counted, checked.hidDescriptor, okOr_some,
      ok_bind, checked.interruptIn, okOr_some, ok_bind, checked.interruptOut,
      ← checked.interfaceSubclass, ← checked.interfaceProtocol, ← checked.interfaceNumber]
    rfl

theorem specifies_of_discoverCandidate (discovered : discoverCandidate bytes n = .ok h) :
    ∃ header descriptors interface body, Specifies bytes n h header descriptors interface body := by
  obtain ⟨scan, scanned, accepted⟩ := bind_eq_ok.mp discovered
  obtain ⟨interface, checked⟩ := hidInterfaceOf_eq_ok.mp accepted
  obtain ⟨header, descriptors, body, wellFramed, isSection, collected⟩ :=
    InterfaceScan.section_of_pass scanned checked.selected
  obtain ⟨hidSection, found⟩ :=
    (foldlM_hidInside checked.hid (isSection.framed wellFramed.framed)).mp collected
  obtain ⟨descriptor, onlyHid, readsHid⟩ := (slot_eq_some hidSection.hid).mp
    (found ▸ checked.hidDescriptor)
  have isIn : (inDirection readInterrupt true (endpoints body)).head? =
      some h.interruptInEndpoint := by
    rw [← checked.interruptIn, found]
    rfl
  have isOut : (inDirection readInterrupt false (endpoints body)).head? =
      h.interruptOutEndpoint := by
    rw [← checked.interruptOut, found]
    rfl
  refine ⟨header, descriptors, interface, body, ?_⟩
  exact {
    wellFramed
    only := isSection
    class_ := (of_decide_eq_true checked.hid).2
    hid := ⟨descriptor, onlyHid, readHid_eq_some.mp readsHid⟩
    endpoints := by
      intro descriptor member
      obtain ⟨endpoint, reads⟩ := Option.isSome_iff_exists.mp
        (hidSection.one.reads descriptor member)
      exact ⟨endpoint, readInterrupt_eq_some.mp reads⟩
    interruptIn := by
      rw [← toList_head? (hidSection.one.few true), isIn]
      rfl
    interruptOut := by
      rw [← toList_head? (hidSection.one.few false), isOut]
    endpointCount := by
      have atMostTwo := hidSection.one.length_le
      rw [checked.endpointCount, found, hidFindings, UInt8.toNat_ofNat',
        Nat.mod_eq_of_lt (by omega)]
    interfaceNumber := checked.interfaceNumber
    interfaceSubclass := checked.interfaceSubclass
    interfaceProtocol := checked.interfaceProtocol }

section Specified

variable {header : ConfigurationDescriptorHeader} {descriptors : List (List UInt8)}
  {interface : InterfaceDescriptor} {body : List (List UInt8)}

theorem Specifies.hidSection (specifies : Specifies bytes n h header descriptors interface body) :
    HidSection body := by
  obtain ⟨descriptor, onlyHid, isHidDescriptor⟩ := specifies.hid
  refine ⟨?_, fun descriptor member => ?_, fun isIn => ?_⟩
  · rw [onlyHid]
    exact single_concat.mpr
      ⟨rfl, Option.isSome_iff_exists.mpr ⟨_, readHid_eq_some.mpr isHidDescriptor⟩⟩
  · obtain ⟨endpoint, is⟩ := specifies.endpoints descriptor member
    exact Option.isSome_iff_exists.mpr ⟨endpoint, readInterrupt_eq_some.mpr is⟩
  · cases isIn with
    | false =>
      rw [specifies.interruptOut]
      cases h.interruptOutEndpoint
      · exact Nat.zero_le 1
      · exact Nat.le_refl 1
    | true =>
      rw [specifies.interruptIn]
      exact Nat.le_refl 1

/-- One IN endpoint, and at most one OUT endpoint. -/
theorem Specifies.few (specifies : Specifies bytes n h header descriptors interface body) :
    interface.endpointCount ∈ [1, 2] := by
  have counted := specifies.endpointCount
  rw [specifies.hidSection.one.length_eq, specifies.interruptIn, specifies.interruptOut] at counted
  have one : interface.endpointCount = 1 ∨ interface.endpointCount = 2 := by
    cases out : h.interruptOutEndpoint <;> rw [out] at counted
    · exact .inl (UInt8.toNat_inj.mp counted)
    · exact .inr (UInt8.toNat_inj.mp counted)
  rcases one with same | same <;> rw [same] <;> decide

theorem Specifies.discoverCandidate
    (specifies : Specifies bytes n h header descriptors interface body) :
    discoverCandidate bytes n = .ok h := by
  obtain ⟨descriptor, onlyHid, isHidDescriptor⟩ := specifies.hid
  have hid : isHid interface = true :=
    decide_eq_true ⟨specifies.only.alternateSetting, specifies.class_⟩
  have hidSection := specifies.hidSection
  have atMostTwo := hidSection.one.length_le
  -- the pass over the configuration is the pass over the section
  obtain ⟨current, passes⟩ := InterfaceScan.foldlM_step_section
    HidConfigurationError.invalidInterfaceDescriptor hidInside {} specifies.only
    specifies.wellFramed.framed
  rw [(foldlM_hidInside hid (specifies.only.framed specifies.wellFramed.framed)).mpr
    ⟨hidSection, rfl⟩] at passes
  rw [Hid.discoverCandidate, forDescriptors_wellFramed specifies.wellFramed, passes]
  simp only [ok_bind, pure_eq_ok]
  refine hidInterfaceOf_eq_ok.mpr ⟨interface, ?_⟩
  exact {
    selected := rfl
    hid
    endpointCount := by
      apply UInt8.toNat_inj.mp
      show _ = (UInt8.ofNat (Hid.endpoints body).length).toNat
      rw [UInt8.toNat_ofNat', Nat.mod_eq_of_lt (by omega), specifies.endpointCount]
    few := specifies.few
    hidDescriptor := (slot_eq_some hidSection.hid).mpr
      ⟨descriptor, onlyHid, readHid_eq_some.mpr isHidDescriptor⟩
    interruptIn := by
      show (inDirection readInterrupt true (Hid.endpoints body)).head? = _
      rw [specifies.interruptIn]
      rfl
    interruptOut := by
      show (inDirection readInterrupt false (Hid.endpoints body)).head? = _
      rw [specifies.interruptOut]
      cases h.interruptOutEndpoint <;> rfl
    interfaceNumber := specifies.interfaceNumber
    interfaceSubclass := specifies.interfaceSubclass
    interfaceProtocol := specifies.interfaceProtocol }

end Specified

/-- **HID discovery returns an interface exactly when the configuration specifies it.** -/
theorem discoverInterface_eq_ok :
    HidInterface.discoverInterface bytes n = .ok h ↔
      ∃ header descriptors interface body,
        Specifies bytes n h header descriptors interface body := by
  constructor
  · intro discovered
    obtain ⟨-, -, discovered⟩ := bind_eq_ok.mp discovered
    exact specifies_of_discoverCandidate discovered
  · rintro ⟨header, descriptors, interface, body, specifies⟩
    obtain ⟨iter, created, -⟩ := specifies.wellFramed.items
    rw [HidInterface.discoverInterface, CandidateClass.discoverInterface, created]
    exact specifies.discoverCandidate

/-- A device with both endpoints, as the driver's own tests describe it. -/
def hidInOutConfiguration : List UInt8 := List.flatten [
  [9, 2, 41, 0, 1, 1, 0, 0x80, 0x32],
  [9, 4, 3, 0, 2, 3, 0, 0, 7],
  [9, 0x21, 0x11, 1, 0x21, 1, 0x22, 0x34, 0x12],
  [7, 5, 0x84, 3, 8, 0, 0x0a],
  [7, 5, 4, 3, 8, 0, 5]]

example : HidInterface.discoverInterface hidInOutConfiguration 3 =
    .ok ⟨3, 0, 0, 0x0111, 0x21, 0x1234, ⟨0x84, 3, 8, 0x0a⟩, some ⟨4, 3, 8, 5⟩⟩ := by
  rfl

end Interface

end PioUsbHost.Hid
