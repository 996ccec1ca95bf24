/-
**What a successful CDC-ACM discovery has checked.**

Each check of the discovery is read backwards: from its success to what it has found.

* `controlSectionOf_eq_ok`, `dataInterfaceOf_eq_some`: the checks after the passes.
* `ControlChecked.section`: the control interface's section, with its only Union descriptor.
* `discoverDataInterface_eq_some`: a data interface is the section of the one descriptor that claims it.
* `not_mem_of_checkSubordinates`, `mem_of_selectSubordinate`: the control interface is not among the
  subordinates, and the data interface is.
* `selectDataInterface_eq_ok`: the data interface is one of the subordinates.
* `discoverCandidate_eq_ok`: the parts of a discovered function.
-/

import PioUsbHost.Cdc.Sections
import PioUsbHost.Usb.SectionOfPass

namespace PioUsbHost.Cdc

open PioUsbHost.Lib.Panic PioUsbHost.Lib.SingleSlot PioUsbHost.Usb

/-! ### The control interface -/

/-- What the checks between the pass and the subordinates have found. -/
structure ControlChecked (requested : UInt8) (scan : InterfaceScan ControlFindings)
    (control : ControlSection) (interface : InterfaceDescriptor) (union : List UInt8) : Prop where
  selected : scan.selected = some interface
  acmControl : isAcmControl interface = true
  few : interface.endpointCount ≤ 1
  endpointCount : interface.endpointCount = scan.found.endpointsSeen
  version : scan.found.cdcVersionBcd = some control.cdcVersionBcd
  acm : scan.found.acmCapabilities = some control.acmCapabilities
  notification : scan.found.notificationEndpoint = control.notificationEndpoint
  callManagement : scan.found.callManagement = control.callManagement
  hasUnion : scan.found.unionDescriptor = some union
  master : union[3]? = some requested
  subordinates : control.subordinateInterfaces = union.drop 4

theorem controlSectionOf_eq_ok {requested : UInt8} {scan : InterfaceScan ControlFindings}
    {control : ControlSection} (accepted : controlSectionOf requested scan = .ok control) :
    ∃ interface union, ControlChecked requested scan control interface union := by
  obtain ⟨interface, selected, accepted⟩ := bind_eq_ok.mp accepted
  split at accepted
  · exact absurd accepted (fail_ne_ok _ _)
  next acmControl =>
  split at accepted
  · exact absurd accepted (fail_ne_ok _ _)
  next counted =>
  obtain ⟨version, hasVersion, accepted⟩ := bind_eq_ok.mp accepted
  obtain ⟨acm, hasAcm, accepted⟩ := bind_eq_ok.mp accepted
  obtain ⟨union, hasUnion, accepted⟩ := bind_eq_ok.mp accepted
  obtain ⟨master, read, accepted⟩ := bind_eq_ok.mp accepted
  split at accepted
  · exact absurd accepted (fail_ne_ok _ _)
  next isMaster =>
  obtain ⟨subordinates, listed, accepted⟩ := bind_eq_ok.mp accepted
  cases accepted
  rw [not_or, Decidable.not_not, UInt8.not_lt] at counted
  refine ⟨interface, union, okOr_eq_ok.mp selected, Decidable.not_not.mp acmControl, counted.1,
    counted.2, okOr_eq_ok.mp hasVersion, okOr_eq_ok.mp hasAcm, rfl, rfl, okOr_eq_ok.mp hasUnion,
    ?_, ?_⟩
  · rw [index_eq_ok.mp read, Decidable.not_not.mp isMaster]
  · rw [slice] at listed
    split at listed
    · cases listed
      exact List.take_of_length_le (Nat.le_of_eq List.length_drop)
    · cases listed

/-- **The section of a control interface that passes the checks**, with its only Union descriptor. -/
theorem ControlChecked.section {bytes : List UInt8} {requested : UInt8}
    {scan : InterfaceScan ControlFindings} {control : ControlSection}
    {interface : InterfaceDescriptor} {union : List UInt8}
    (checked : ControlChecked requested scan control interface union)
    (scanned : forDescriptors id bytes (InterfaceScan.step requested .invalidInterfaceDescriptor
      controlInside) ⟨none, none, {}⟩ = .ok scan) :
    ∃ header descriptors body, WellFramed bytes header descriptors ∧
      IsSection descriptors requested interface body ∧ AcmSection body ∧
      scan.found = controlFindings body ∧ ofSubtype cdcDescriptorSubtypeUnion body = [union] := by
  obtain ⟨header, descriptors, body, wellFramed, isSection, collected⟩ :=
    InterfaceScan.section_of_pass scanned checked.selected
  obtain ⟨acmSection, found⟩ := (foldlM_controlInside checked.acmControl
    (isSection.framed wellFramed.framed)).mp collected
  obtain ⟨descriptor, only, reads⟩ := (slot_eq_some acmSection.union).mp
    (found ▸ checked.hasUnion)
  obtain rfl : descriptor = union := by
    rw [readUnion] at reads
    split at reads <;> cases reads
    rfl
  exact ⟨header, descriptors, body, wellFramed, isSection, acmSection, found, only⟩

/-! ### A data interface -/

/-- What the decision after the pass for a data interface has found. -/
structure DataChecked (scan : InterfaceScan DataFindings) (data : DataInterface)
    (interface : InterfaceDescriptor) : Prop where
  selected : scan.selected = some interface
  class_ : interface.class_ = usbClassCdcData
  subclass : interface.subclass = 0
  endpointCount : interface.endpointCount = 2
  counted : scan.found.endpointsSeen = 2
  bulkOut : scan.found.bulkOutEndpoint = some data.bulkOutEndpoint
  bulkIn : scan.found.bulkInEndpoint = some data.bulkInEndpoint

theorem dataInterfaceOf_eq_some {requested : UInt8} {scan : InterfaceScan DataFindings}
    {data : DataInterface} (accepted : dataInterfaceOf requested scan = .ok (some data)) :
    data.number = requested ∧ ∃ interface, DataChecked scan data interface := by
  rw [dataInterfaceOf] at accepted
  cases selected : scan.selected with
  | none =>
    rw [selected] at accepted
    cases accepted
  | some interface =>
    rw [selected] at accepted
    simp only at accepted
    split at accepted
    · cases accepted
    next isData =>
    split at accepted
    · exact absurd accepted (fail_ne_ok _ _)
    next subclass =>
    split at accepted
    · exact absurd accepted (fail_ne_ok _ _)
    next counted =>
    obtain ⟨bulkOut, hasBulkOut, accepted⟩ := bind_eq_ok.mp accepted
    obtain ⟨bulkIn, hasBulkIn, accepted⟩ := bind_eq_ok.mp accepted
    split at accepted
    · exact absurd accepted (fail_ne_ok _ _)
    next two =>
    cases accepted
    rw [Decidable.not_not] at isData subclass counted two
    exact ⟨rfl, interface, selected, isData, subclass, two, counted ▸ two, okOr_eq_ok.mp hasBulkOut,
      okOr_eq_ok.mp hasBulkIn⟩

/-- **A data interface** is the section of the one descriptor that claims it. -/
theorem discoverDataInterface_eq_some {bytes : List UInt8} {requested : UInt8}
    {data : DataInterface} (accepted : discoverDataInterface bytes requested = .ok (some data)) :
    data.number = requested ∧ ∃ header descriptors interface body scan,
      WellFramed bytes header descriptors ∧ IsSection descriptors requested interface body ∧
      body.foldlM (dataInside interface) {} = .ok scan.found ∧ DataChecked scan data interface := by
  obtain ⟨scan, scanned, accepted⟩ := bind_eq_ok.mp accepted
  obtain ⟨number, interface, checked⟩ := dataInterfaceOf_eq_some accepted
  obtain ⟨header, descriptors, body, wellFramed, isSection, collected⟩ :=
    InterfaceScan.section_of_pass scanned checked.selected
  exact ⟨number, header, descriptors, interface, body, scan, wellFramed, isSection, collected, checked⟩

/-! ### The subordinates -/

theorem not_mem_of_checkSubordinates {bytes : List UInt8} {control : UInt8}
    {earlier subordinates : List UInt8}
    (checked : checkSubordinates bytes control earlier subordinates = .ok ()) :
    control ∉ subordinates := by
  induction subordinates generalizing earlier with
  | nil => exact List.not_mem_nil
  | cons subordinate rest ih =>
    rw [checkSubordinates] at checked
    split at checked
    · exact absurd checked (fail_ne_ok _ _)
    next fresh =>
    obtain ⟨found, -, checked⟩ := bind_eq_ok.mp checked
    split at checked
    · intro member
      rcases List.mem_cons.mp member with same | member
      · exact fresh (.inl same.symm)
      · exact ih checked member
    · exact absurd checked (fail_ne_ok _ _)

/-- A data interface found among the subordinates is one of them. -/
theorem mem_of_selectSubordinate {bytes : List UInt8} {subordinates : List UInt8}
    {start : Option DataInterface} {data : DataInterface}
    (selects : subordinates.foldlM (selectSubordinate bytes) start = .ok (some data)) :
    start = some data ∨
      ∃ subordinate ∈ subordinates, discoverDataInterface bytes subordinate = .ok (some data) := by
  induction subordinates generalizing start with
  | nil =>
    cases selects
    exact .inl rfl
  | cons subordinate rest ih =>
    rw [List.foldlM_cons] at selects
    obtain ⟨next, stepped, selects⟩ := bind_eq_ok.mp selects
    rcases ih selects with rfl | ⟨other, member, found⟩
    · obtain ⟨candidate, found, stepped⟩ := bind_eq_ok.mp stepped
      cases candidate with
      | none =>
        cases stepped
        exact .inl rfl
      | some candidate =>
        simp only at stepped
        split at stepped
        · exact absurd stepped (fail_ne_ok _ _)
        · cases stepped
          exact .inr ⟨subordinate, List.mem_cons_self, found⟩
    · exact .inr ⟨other, List.mem_cons_of_mem _ member, found⟩

/-- **The data interface is one of the subordinates.** -/
theorem selectDataInterface_eq_ok {bytes : List UInt8} {callManagement : Option (UInt8 × UInt8)}
    {subordinates : List UInt8} {data : DataInterface}
    (selects : selectDataInterface bytes callManagement subordinates = .ok data) :
    ∃ subordinate ∈ subordinates, discoverDataInterface bytes subordinate = .ok (some data) := by
  rw [selectDataInterface] at selects
  cases managed : managedDataInterface callManagement with
  | some interface =>
    rw [managed] at selects
    simp only at selects
    split at selects
    · exact absurd selects (fail_ne_ok _ _)
    next listed =>
    obtain ⟨found, discovered, selects⟩ := bind_eq_ok.mp selects
    rw [okOr_eq_ok.mp selects] at discovered
    exact ⟨interface, Decidable.not_not.mp listed, discovered⟩
  | none =>
    rw [managed] at selects
    obtain ⟨found, discovered, selects⟩ := bind_eq_ok.mp selects
    rw [okOr_eq_ok.mp selects] at discovered
    rcases mem_of_selectSubordinate discovered with same | found
    · cases same
    · exact found

/-! ### The function -/

/-- The parts of a discovered function. -/
structure Discovered (bytes : List UInt8) (requested : UInt8) (function : CdcAcmFunction)
    (control : ControlSection) (data : DataInterface) : Prop where
  parsed : ConfigurationDescriptorHeader.parse bytes = .ok function.configuration
  scanned : ∃ scan, forDescriptors id bytes
      (InterfaceScan.step requested .invalidInterfaceDescriptor controlInside) ⟨none, none, {}⟩ =
        .ok scan ∧ controlSectionOf requested scan = .ok control
  subordinates : checkSubordinates bytes requested [] control.subordinateInterfaces = .ok ()
  selects :
    selectDataInterface bytes control.callManagement control.subordinateInterfaces = .ok data
  addresses : ∀ notification ∈ control.notificationEndpoint,
    notification.address ≠ data.bulkInEndpoint.address
  function : function = {
    configuration := function.configuration
    controlInterface := requested
    dataInterface := data.number
    cdcVersionBcd := control.cdcVersionBcd
    acmCapabilities := control.acmCapabilities
    notificationEndpoint := control.notificationEndpoint
    bulkOutEndpoint := data.bulkOutEndpoint
    bulkInEndpoint := data.bulkInEndpoint }

theorem discoverCandidate_eq_ok {bytes : List UInt8} {requested : UInt8} {function : CdcAcmFunction}
    (discovered : discoverCandidate bytes requested = .ok function) :
    ∃ control data, Discovered bytes requested function control data := by
  obtain ⟨configuration, parsed, discovered⟩ := bind_eq_ok.mp discovered
  obtain ⟨scan, scanned, discovered⟩ := bind_eq_ok.mp discovered
  obtain ⟨control, checked, discovered⟩ := bind_eq_ok.mp discovered
  obtain ⟨⟨⟩, subordinates, discovered⟩ := bind_eq_ok.mp discovered
  obtain ⟨data, selects, discovered⟩ := bind_eq_ok.mp discovered
  rw [candidateOf] at discovered
  split at discovered
  · exact absurd discovered (fail_ne_ok _ _)
  next distinct =>
  cases discovered
  refine ⟨control, data, parsed, ⟨scan, scanned, checked⟩, subordinates, selects, ?_, rfl⟩
  intro notification present same
  exact distinct ((Option.any_eq_true _ _).mpr ⟨notification, present, decide_eq_true same⟩)

end PioUsbHost.Cdc
