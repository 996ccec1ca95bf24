/-
**CDC-ACM discovery never pairs unrelated endpoints.**

`PairedFunction` says what a function is made of in its configuration: the section of its control
interface, with its functional descriptors, and the section of a subordinate of its Union descriptor,
with its two bulk endpoints.

* `twoEndpoints_of_bulkSection`: a bulk section with two endpoints has one in each direction.
* `discoverControlInterface_paired`: a discovered function is so made.
-/

import PioUsbHost.Cdc.Inversion

namespace PioUsbHost.Cdc

open PioUsbHost.Lib.Panic PioUsbHost.Lib.SingleSlot PioUsbHost.Usb

/-- One descriptor claims the interface: it has nine bytes, and the section follows it. -/
structure IsOnly (descriptors : List (List UInt8)) (requested : UInt8)
    (interface : InterfaceDescriptor) (body : List (List UInt8)) : Prop where
  claims : ∃ head, descriptors.filter (fun descriptor => Claims requested descriptor) = [head] ∧
    head.length = 9 ∧ InterfaceDescriptor.parse head = .ok interface
  isSection : IsSection descriptors requested interface body

/-- A bulk endpoint of the direction, as the driver supports it. -/
structure IsBulkEndpoint (isIn : Bool) (endpoint : EndpointDescriptor) : Prop where
  isIn : endpoint.isIn = isIn
  transferType : endpoint.transferType = 0x02
  number : endpoint.number ≠ 0
  maxPacketSize : endpoint.maxPacketSize ∈ [8, 16, 32, 64, 512]

/-- What a CDC-ACM function is made of. -/
structure PairedFunction (bytes : List UInt8) (c : UInt8) (function : CdcAcmFunction)
    (descriptors : List (List UInt8)) (control data : InterfaceDescriptor)
    (controlBody dataBody : List (List UInt8)) (union : List UInt8) : Prop where
  wellFramed : WellFramed bytes function.configuration descriptors
  /-- The control interface. -/
  controlInterface : function.controlInterface = c
  controlOnly : IsOnly descriptors c control controlBody
  controlClass : control.alternateSetting = 0 ∧ control.class_ = usbClassCommunications ∧
    control.subclass = usbSubclassAcm
  /-- The Header comes first among the functional descriptors, and is the only one. -/
  header : ∃ descriptor, (functional controlBody).head? = some descriptor ∧
    ofSubtype cdcDescriptorSubtypeHeader controlBody = [descriptor] ∧
    readHeader descriptor = some function.cdcVersionBcd
  acm : ∃ descriptor, ofSubtype cdcDescriptorSubtypeAcm controlBody = [descriptor] ∧
    readAcm descriptor = some function.acmCapabilities
  isUnion : ofSubtype cdcDescriptorSubtypeUnion controlBody = [union]
  master : union[3]? = some c
  /-- The data interface. -/
  listed : function.dataInterface ∈ union.drop 4
  different : function.dataInterface ≠ c
  dataOnly : IsOnly descriptors function.dataInterface data dataBody
  dataClass : data.alternateSetting = 0 ∧ data.class_ = usbClassCdcData ∧ data.subclass = 0 ∧
    data.endpointCount = 2
  /-- Its two endpoints, in either order. -/
  dataEndpoints : ∃ bulkOut bulkIn,
    (endpoints dataBody = [bulkOut, bulkIn] ∨ endpoints dataBody = [bulkIn, bulkOut]) ∧
    EndpointDescriptor.parse bulkOut = .ok function.bulkOutEndpoint ∧
    EndpointDescriptor.parse bulkIn = .ok function.bulkInEndpoint
  bulkOut : IsBulkEndpoint false function.bulkOutEndpoint
  bulkIn : IsBulkEndpoint true function.bulkInEndpoint
  /-- The endpoint of the control interface. -/
  withoutNotification : function.notificationEndpoint = none → endpoints controlBody = []
  notification : ∀ endpoint ∈ function.notificationEndpoint, ∃ descriptor,
    endpoints controlBody = [descriptor] ∧
    EndpointDescriptor.parse descriptor = .ok endpoint ∧
    endpoint.isIn = true ∧ endpoint.transferType = 0x03 ∧
    endpoint.address ≠ function.bulkInEndpoint.address

/-! ### One claim -/

theorem isOnly_of_isSection {descriptors body : List (List UInt8)} {requested : UInt8}
    {interface : InterfaceDescriptor} (isSection : IsSection descriptors requested interface body) :
    IsOnly descriptors requested interface body := by
  refine ⟨?_, isSection⟩
  obtain ⟨before, head, after, rfl, parsed, isRequested, plain, -, unclaimed⟩ := isSection
  have claims : Claims requested head := by
    obtain ⟨length, string, rfl⟩ := InterfaceDescriptor.parse_eq_ok.mp parsed
    obtain ⟨number, alternate⟩ := of_decide_eq_true isRequested
    exact ⟨rfl, congrArg some number, congrArg some alternate⟩
  have none : ∀ others : List (List UInt8), (∀ other ∈ others, ¬ Claims requested other) →
      others.filter (fun other => Claims requested other) = [] := by
    intro others not
    exact List.filter_eq_nil_iff.mpr fun other member => by simpa using not other member
  refine ⟨head, ?_, ?_, parsed⟩
  · rw [List.filter_append, none before fun other member =>
        unclaimed other (List.mem_append_left _ member), List.nil_append,
      List.filter_cons, if_pos (decide_eq_true claims), List.filter_append,
      none body fun other member claimed => plain other member claimed.1,
      none after fun other member => unclaimed other (List.mem_append_right _ member)]
    rfl
  · obtain ⟨length, string, rfl⟩ := InterfaceDescriptor.parse_eq_ok.mp parsed
    rfl

/-! ### Endpoints -/

/-- A supported bulk endpoint, from its descriptor. -/
theorem isBulkEndpoint {descriptor : List UInt8} {endpoint : EndpointDescriptor} {isIn : Bool}
    (reads : readBulk descriptor = some endpoint) (direction : endpoint.isIn = isIn) :
    IsBulkEndpoint isIn endpoint := by
  obtain ⟨parsed, supported⟩ := readBulk_eq_some.mp reads
  obtain ⟨bulk, -, size⟩ := of_decide_eq_true supported
  exact ⟨direction, bulk, (EndpointDescriptor.parse_eq_ok.mp parsed).number, size⟩

/-- **A bulk section with two endpoints** has one in each direction. -/
theorem twoEndpoints_of_bulkSection {body : List (List UInt8)} (bulk : BulkSection body)
    {bulkOut bulkIn : EndpointDescriptor}
    (out : (bulkEndpoints false body).head? = some bulkOut)
    (in_ : (bulkEndpoints true body).head? = some bulkIn) :
    ∃ first second, (endpoints body = [first, second] ∨ endpoints body = [second, first]) ∧
      readBulk first = some bulkOut ∧ readBulk second = some bulkIn ∧
      bulkOut.isIn = false ∧ bulkIn.isIn = true :=
  (bulkSection_iff.mp bulk).two out in_

/-! ### The function -/

/-- The Header of an ACM section comes first among its functional descriptors. -/
theorem header_head {body : List (List UInt8)} (acmSection : AcmSection body) {header : List UInt8}
    (only : ofSubtype cdcDescriptorSubtypeHeader body = [header]) :
    (functional body).head? = some header := by
  have present : header ∈ functional body := by
    have member : header ∈ ofSubtype cdcDescriptorSubtypeHeader body := by
      rw [only]
      exact List.mem_cons_self
    exact (List.mem_filter.mp member).1
  cases first : (functional body).head? with
  | none =>
    rw [List.head?_eq_none_iff.mp first] at present
    cases present
  | some descriptor =>
    have isHeader := acmSection.headerFirst descriptor first
    have member : descriptor ∈ ofSubtype cdcDescriptorSubtypeHeader body :=
      List.mem_filter.mpr ⟨List.mem_of_head? first, decide_eq_true isHeader⟩
    rw [only] at member
    rw [List.mem_singleton.mp member]

/-- A notification endpoint, from its descriptor. -/
theorem readNotification_eq_some {descriptor : List UInt8} {endpoint : EndpointDescriptor} :
    readNotification descriptor = some endpoint ↔
      EndpointDescriptor.parse descriptor = .ok endpoint ∧ endpoint.isSupportedInterruptIn = true :=
  filter_toOption_eq_some

/-- **CDC-ACM discovery never pairs unrelated endpoints.** -/
theorem discoverControlInterface_paired {bytes : List UInt8} {c : UInt8} {function : CdcAcmFunction}
    (discovered : discoverControlInterface bytes c = .ok function) :
    ∃ descriptors control data controlBody dataBody union,
      PairedFunction bytes c function descriptors control data controlBody dataBody union := by
  obtain ⟨-, -, discovered⟩ := bind_eq_ok.mp discovered
  obtain ⟨control, data, parts⟩ := discoverCandidate_eq_ok discovered
  obtain ⟨configuration, controlInterface, dataInterface, version, capabilities, notification,
    bulkOut, bulkIn⟩ := function
  have function := parts.function
  simp only [CdcAcmFunction.mk.injEq, true_and] at function
  obtain ⟨rfl, rfl, rfl, rfl, rfl, rfl, rfl⟩ := function
  -- the control interface
  obtain ⟨scan, scanned, checked⟩ := parts.scanned
  obtain ⟨interface, union, controlChecked⟩ := controlSectionOf_eq_ok checked
  obtain ⟨header, descriptors, controlBody, wellFramed, isSection, acmSection, found, onlyUnion⟩ :=
    controlChecked.section scanned
  -- the data interface
  obtain ⟨subordinate, listed, isData⟩ := selectDataInterface_eq_ok parts.selects
  obtain ⟨rfl, header', descriptors', dataInterface, dataBody, dataScan, wellFramed', isSection',
    collected', dataChecked⟩ := discoverDataInterface_eq_some isData
  obtain ⟨rfl, rfl⟩ := wellFramed.unique wellFramed'
  obtain ⟨bulkSection, found'⟩ := (foldlM_dataInside
    (isSection'.framed wellFramed.framed)).mp collected'
  obtain ⟨headerDescriptor, onlyHeader, readsHeader⟩ := (slot_eq_some acmSection.header).mp
    (found ▸ controlChecked.version)
  obtain ⟨acmDescriptor, onlyAcm, readsAcm⟩ := (slot_eq_some acmSection.acm).mp
    (found ▸ controlChecked.acm)
  obtain ⟨outDescriptor, inDescriptor, both, readsOut, readsIn, isOut, isIn⟩ :=
    twoEndpoints_of_bulkSection bulkSection (found' ▸ dataChecked.bulkOut)
      (found' ▸ dataChecked.bulkIn)
  have notified : slot readNotification (endpoints controlBody) = control.notificationEndpoint :=
    (congrArg ControlFindings.notificationEndpoint found).symm.trans controlChecked.notification
  refine ⟨descriptors, interface, dataInterface, controlBody, dataBody, union, ?_⟩
  exact {
    wellFramed := Except.ok.inj (wellFramed.parsed.symm.trans parts.parsed) ▸ wellFramed
    controlInterface := rfl
    controlOnly := isOnly_of_isSection isSection
    controlClass := of_decide_eq_true controlChecked.acmControl
    header := ⟨headerDescriptor, header_head acmSection onlyHeader, onlyHeader, readsHeader⟩
    acm := ⟨acmDescriptor, onlyAcm, readsAcm⟩
    isUnion := onlyUnion
    master := controlChecked.master
    listed := controlChecked.subordinates ▸ listed
    different := fun same => not_mem_of_checkSubordinates parts.subordinates (same ▸ listed)
    dataOnly := isOnly_of_isSection isSection'
    dataClass := ⟨isSection'.alternateSetting, dataChecked.class_,
      dataChecked.subclass, dataChecked.endpointCount⟩
    dataEndpoints := ⟨outDescriptor, inDescriptor, both, (readBulk_eq_some.mp readsOut).1,
      (readBulk_eq_some.mp readsIn).1⟩
    bulkOut := isBulkEndpoint readsOut isOut
    bulkIn := isBulkEndpoint readsIn isIn
    withoutNotification := fun none =>
      (slot_eq_none acmSection.notification).mp (notified.trans none)
    notification := by
      intro endpoint present
      obtain ⟨descriptor, only, reads⟩ :=
        (slot_eq_some acmSection.notification).mp (notified.trans present)
      obtain ⟨parsed, supported⟩ := readNotification_eq_some.mp reads
      obtain ⟨isIn, interrupt, -⟩ := of_decide_eq_true supported
      exact ⟨descriptor, only, parsed, isIn, interrupt, parts.addresses endpoint present⟩ }

/-- A modem with a notification endpoint, as the driver's own tests describe it. -/
def cdcAcmConfiguration : List UInt8 := List.flatten [
  [9, 2, 75, 0, 2, 1, 0, 0x80, 50],
  [8, 11, 0, 2, 2, 2, 1, 0],
  [9, 4, 0, 0, 1, 2, 2, 1, 0],
  [5, 0x24, 0, 0x10, 1],
  [5, 0x24, 1, 0, 1],
  [4, 0x24, 2, 2],
  [5, 0x24, 6, 0, 1],
  [7, 5, 0x81, 3, 8, 0, 16],
  [9, 4, 1, 0, 2, 0x0a, 0, 0, 0],
  [7, 5, 2, 2, 64, 0, 0],
  [7, 5, 0x82, 2, 64, 0, 0]]

theorem discoverControlInterface_paired_modem :
    ∃ descriptors control data controlBody dataBody union,
      PairedFunction cdcAcmConfiguration 0
        ⟨⟨75, 2, 1, 0, 0x80, 100⟩, 0, 1, 0x0110, 2, some ⟨0x81, 3, 8, 16⟩, ⟨2, 2, 64, 0⟩,
          ⟨0x82, 2, 64, 0⟩⟩
        descriptors control data controlBody dataBody union :=
  discoverControlInterface_paired (by rfl)

end PioUsbHost.Cdc
