/-
**Which Union subordinates block the discovery of a CDC-ACM function.**

A `UnionFunction` is an ACM control interface whose Union descriptor lists one CDC Data interface
among interfaces of other classes. The pass for a subordinate refuses every endpoint that is not a
supported bulk endpoint before the subordinate's class is looked at, so an interface of another class
blocks the discovery of the function unless its endpoints happen to look like a data interface's.

* `discoverDataInterface_section`: what the pass for one subordinate decides, from its section.
* `discoverControlInterface_selects_iff`: the Data interface is selected exactly when Call Management
  names it or the endpoints of every other subordinate are supported bulk endpoints, at most one in
  each direction.
* `discoverControlInterface_blocked`: a second ACM control interface with a notification endpoint
  blocks it.
-/

import PioUsbHost.Cdc.Sections
import PioUsbHost.Usb.Framing

namespace PioUsbHost.Cdc

open PioUsbHost.Lib.Panic PioUsbHost.Lib.SingleSlot PioUsbHost.Usb

variable {bytes : List UInt8} {header : ConfigurationDescriptorHeader}
  {descriptors : List (List UInt8)}

/-! ### The passes, from the sections -/

section Passes

variable {requested : UInt8} {interface : InterfaceDescriptor} {body : List (List UInt8)}

/-- The pass for the control interface. -/
theorem controlPass (wellFramed : WellFramed bytes header descriptors)
    (isSection : IsSection descriptors requested interface body)
    (acmControl : isAcmControl interface = true) (acmSection : AcmSection body) :
    ∃ current, forDescriptors id bytes
      (InterfaceScan.step requested .invalidInterfaceDescriptor controlInside) ⟨none, none, {}⟩ =
        .ok ⟨current, some interface, controlFindings body⟩ := by
  obtain ⟨current, runs⟩ := InterfaceScan.foldlM_step_section
    ConfigurationError.invalidInterfaceDescriptor controlInside {} isSection wellFramed.framed
  refine ⟨current, ?_⟩
  have accepted := (foldlM_controlInside acmControl (isSection.framed wellFramed.framed)).mpr
    ⟨acmSection, rfl⟩
  rw [forDescriptors_wellFramed wellFramed, runs, accepted]
  rfl

/-- **The pass for one subordinate accepts exactly the bulk sections, whatever its class.** -/
theorem discoverDataInterface_section (wellFramed : WellFramed bytes header descriptors)
    (isSection : IsSection descriptors requested interface body) {result : Option DataInterface} :
    discoverDataInterface bytes requested = .ok result ↔
      BulkSection body ∧ ∀ current,
        dataInterfaceOf requested ⟨current, some interface, dataFindings body⟩ = .ok result := by
  obtain ⟨current, runs⟩ := InterfaceScan.foldlM_step_section
    ConfigurationError.invalidInterfaceDescriptor dataInside {} isSection wellFramed.framed
  rw [discoverDataInterface, forDescriptors_wellFramed wellFramed, runs, bind_assoc, bind_eq_ok]
  simp only [foldlM_dataInside (isSection.framed wellFramed.framed)]
  constructor
  · rintro ⟨found, ⟨bulk, rfl⟩, decides⟩
    exact ⟨bulk, fun _ => decides⟩
  · rintro ⟨bulk, decides⟩
    exact ⟨dataFindings body, ⟨bulk, rfl⟩, decides current⟩

/-- An interface of another class is not a data interface, if the pass for it gets that far. -/
theorem discoverDataInterface_of_class (wellFramed : WellFramed bytes header descriptors)
    (isSection : IsSection descriptors requested interface body)
    (otherClass : interface.class_ ≠ usbClassCdcData) {result : Option DataInterface} :
    discoverDataInterface bytes requested = .ok result ↔ BulkSection body ∧ result = none := by
  rw [discoverDataInterface_section wellFramed isSection]
  simp [dataInterfaceOf, otherClass, eq_comm]

/-- Descriptors that do not claim the interface are passed over. -/
theorem interfaceExistsIn_unclaimed {before : List (List UInt8)} (rest : List DescriptorIter.Item)
    (framed : ∀ descriptor ∈ before, IsDescriptor descriptor)
    (unclaimed : ∀ descriptor ∈ before, ¬ Claims requested descriptor) :
    interfaceExistsIn requested (before.map .ok ++ rest) = interfaceExistsIn requested rest := by
  induction before with
  | nil => rfl
  | cons descriptor others ih =>
    have skips := ih (fun other member => framed other (List.mem_cons_of_mem _ member))
      fun other member => unclaimed other (List.mem_cons_of_mem _ member)
    obtain ⟨kind, typed, read⟩ := (framed descriptor List.mem_cons_self).index_one
      ConfigurationError
    rw [List.map_cons, List.cons_append, interfaceExistsIn, ok_bind, read, ok_bind]
    by_cases isInterface : kind = descriptorTypeInterface
    · subst isInterface
      have first := unclaimed descriptor List.mem_cons_self
      have outside := InterfaceScan.outside_of_unclaimed typed first
      rw [if_neg (not_not_intro rfl)]
      cases parsed : InterfaceDescriptor.parse descriptor with
      | error fault =>
        rw [InterfaceDescriptor.parse_eq_error parsed]
        simpa [InterfaceScan.claims_of_isInterface typed, first] using skips
      | ok other =>
        rw [parsed] at outside
        simpa [outside other rfl] using skips
    · rw [if_pos isInterface, skips]

/-- A subordinate with a section exists. -/
theorem interfaceExists_section (wellFramed : WellFramed bytes header descriptors)
    (isSection : IsSection descriptors requested interface body) :
    interfaceExists bytes requested = .ok true := by
  obtain ⟨iter, created, items⟩ := wellFramed.items
  have framed := wellFramed.framed
  obtain ⟨before, head, after, rfl, parsed, isRequested, -, -, unclaimed⟩ := isSection
  rw [interfaceExists, created, ok_bind, items, List.map_append,
    interfaceExistsIn_unclaimed _ (fun descriptor member => framed descriptor (by simp [member]))
      (fun descriptor member => unclaimed descriptor (by simp [member]))]
  have read : (index head 1 : Checked ConfigurationError UInt8) = .ok descriptorTypeInterface := by
    obtain ⟨length, string, rfl⟩ := InterfaceDescriptor.parse_eq_ok.mp parsed
    rfl
  rw [List.map_cons, interfaceExistsIn, ok_bind, read, ok_bind, if_neg (not_not_intro rfl), parsed]
  simp only [isRequested, if_true, pure_eq_ok]

/-- Distinct existing subordinates pass the check. -/
theorem checkSubordinates_eq_ok {control : UInt8} {earlier subordinates : List UInt8}
    (distinct : (earlier ++ subordinates).Nodup) (without : control ∉ subordinates)
    (existing : ∀ subordinate ∈ subordinates, interfaceExists bytes subordinate = .ok true) :
    checkSubordinates bytes control earlier subordinates = .ok () := by
  induction subordinates generalizing earlier with
  | nil => rfl
  | cons subordinate others ih =>
    have fresh : ¬ (subordinate = control ∨ subordinate ∈ earlier) := by
      rintro (rfl | repeated)
      · exact without List.mem_cons_self
      · exact (List.nodup_append.mp distinct).2.2 _ repeated _ List.mem_cons_self rfl
    rw [checkSubordinates, if_neg fresh, existing subordinate List.mem_cons_self, ok_bind,
      if_pos rfl]
    apply ih
    · rwa [List.append_assoc]
    · exact fun member => without (List.mem_cons_of_mem _ member)
    · exact fun other member => existing other (List.mem_cons_of_mem _ member)

end Passes

/-! ### Functions with one Data interface among their subordinates -/

/-- A CDC Data interface with one bulk endpoint in each direction, in either order. -/
structure IsDataInterface (interface : InterfaceDescriptor) (body : List (List UInt8))
    (bulkOut bulkIn : EndpointDescriptor) : Prop where
  class_ : interface.class_ = usbClassCdcData
  subclass : interface.subclass = 0
  endpointCount : interface.endpointCount = 2
  endpoints : (endpoints body).map readBulk = [some bulkOut, some bulkIn] ∨
    (endpoints body).map readBulk = [some bulkIn, some bulkOut]
  isOut : bulkOut.isIn = false
  isIn : bulkIn.isIn = true

/-- A well-framed configuration with a valid ACM control interface, whose Union descriptor lists
distinct interfaces of the configuration, one of them a CDC Data interface and the others of other
classes, and whose Call Management descriptor names no other data interface. -/
structure UnionFunction where
  bytes : List UInt8
  header : ConfigurationDescriptorHeader
  descriptors : List (List UInt8)
  wellFramed : WellFramed bytes header descriptors
  /-- The control interface and its section. -/
  control : UInt8
  interface : InterfaceDescriptor
  body : List (List UInt8)
  isSection : IsSection descriptors control interface body
  acmControl : isAcmControl interface = true
  acmSection : AcmSection body
  hasHeader : ofSubtype cdcDescriptorSubtypeHeader body ≠ []
  hasAcm : ofSubtype cdcDescriptorSubtypeAcm body ≠ []
  endpointCount : interface.endpointCount.toNat = (endpoints body).length
  /-- Its Union descriptor, and the sections of the subordinates. -/
  union : List UInt8
  isUnion : ofSubtype cdcDescriptorSubtypeUnion body = [union]
  isMaster : union[3]? = some control
  distinct : (union.drop 4).Nodup
  withoutControl : control ∉ union.drop 4
  sections : UInt8 → InterfaceDescriptor × List (List UInt8)
  existing : ∀ subordinate ∈ union.drop 4,
    IsSection descriptors subordinate (sections subordinate).1 (sections subordinate).2
  /-- The Data interface. -/
  data : UInt8
  bulkOut : EndpointDescriptor
  bulkIn : EndpointDescriptor
  listed : data ∈ union.drop 4
  isData : IsDataInterface (sections data).1 (sections data).2 bulkOut bulkIn
  others : ∀ subordinate ∈ union.drop 4, subordinate ≠ data →
    (sections subordinate).1.class_ ≠ usbClassCdcData
  named : ∀ interface ∈ managedDataInterface (controlFindings body).callManagement,
    interface = data
  /-- Endpoint addresses are not shared. -/
  addresses : ∀ notification ∈ (controlFindings body).notificationEndpoint,
    notification.address ≠ bulkIn.address

section DataInterface

variable {requested : UInt8} {interface : InterfaceDescriptor} {body : List (List UInt8)}
  {bulkOut bulkIn : EndpointDescriptor}

theorem bulkEndpoints_of_isData (isData : IsDataInterface interface body bulkOut bulkIn) :
    bulkEndpoints false body = [bulkOut] ∧ bulkEndpoints true body = [bulkIn] := by
  have read : (endpoints body).filterMap readBulk = ((endpoints body).map readBulk).filterMap id := by
    rw [List.filterMap_map, Function.id_comp]
  rw [bulkEndpoints, bulkEndpoints, read]
  rcases isData.endpoints with order | order <;> rw [order] <;> simp [isData.isOut, isData.isIn]

theorem bulkSection_of_isData (isData : IsDataInterface interface body bulkOut bulkIn) :
    BulkSection body where
  supported descriptor member := by
    have reads := List.mem_map_of_mem (f := readBulk) member
    rcases isData.endpoints with order | order <;> rw [order] at reads <;>
      rcases List.mem_pair.mp reads with read | read <;> rw [read] <;> rfl
  bulkOut := by rw [(bulkEndpoints_of_isData isData).1]; exact Nat.le_refl 1
  bulkIn := by rw [(bulkEndpoints_of_isData isData).2]; exact Nat.le_refl 1

/-- The pass for the Data interface finds it. -/
theorem discoverDataInterface_of_isData (wellFramed : WellFramed bytes header descriptors)
    (isSection : IsSection descriptors requested interface body)
    (isData : IsDataInterface interface body bulkOut bulkIn) :
    discoverDataInterface bytes requested = .ok (some ⟨requested, bulkOut, bulkIn⟩) := by
  have counted : (endpoints body).length = 2 := by
    rw [← List.length_map readBulk]
    rcases isData.endpoints with order | order <;> rw [order] <;> rfl
  rw [discoverDataInterface_section wellFramed isSection]
  refine ⟨bulkSection_of_isData isData, fun current => ?_⟩
  simp [dataInterfaceOf, dataFindings, isData.class_, isData.subclass, isData.endpointCount, counted,
    bulkEndpoints_of_isData isData]

end DataInterface

namespace UnionFunction

variable (function : UnionFunction)

/-- The interfaces that the Union descriptor lists. -/
def subordinates : List UInt8 := function.union.drop 4

/-- Discovery succeeds with the Data interface and its endpoints. -/
def Selected : Prop :=
  ∃ found, discoverControlInterface function.bytes function.control = .ok found ∧
    found.controlInterface = function.control ∧ found.dataInterface = function.data ∧
    found.bulkOutEndpoint = function.bulkOut ∧ found.bulkInEndpoint = function.bulkIn

/-- The Call Management descriptor says which interface the data interface is. -/
def Managed : Prop :=
  managedDataInterface (controlFindings function.body).callManagement = some function.data

/-- Every other subordinate has only supported bulk endpoints, at most one in each direction. -/
def OthersLookLikeData : Prop :=
  ∀ subordinate ∈ function.subordinates, subordinate ≠ function.data →
    BulkSection (function.sections subordinate).2

/-- The Data interface, as the passes report it. -/
def dataInterface : DataInterface := ⟨function.data, function.bulkOut, function.bulkIn⟩

theorem discoverDataInterface_data :
    discoverDataInterface function.bytes function.data = .ok (some function.dataInterface) :=
  discoverDataInterface_of_isData function.wellFramed (function.existing _ function.listed)
    function.isData

theorem discoverDataInterface_other {subordinate : UInt8} {result : Option DataInterface}
    (listed : subordinate ∈ function.subordinates) (other : subordinate ≠ function.data) :
    discoverDataInterface function.bytes subordinate = .ok result ↔
      BulkSection (function.sections subordinate).2 ∧ result = none :=
  discoverDataInterface_of_class function.wellFramed (function.existing _ listed)
    (function.others _ listed other)

/-- A subordinate of another class leaves the selection alone, if the pass for it gets through. -/
theorem selectSubordinate_other {selected result : Option DataInterface} {subordinate : UInt8}
    (listed : subordinate ∈ function.subordinates) (other : subordinate ≠ function.data) :
    selectSubordinate function.bytes selected subordinate = .ok result ↔
      BulkSection (function.sections subordinate).2 ∧ result = selected := by
  rw [selectSubordinate, bind_eq_ok]
  simp only [function.discoverDataInterface_other listed other]
  constructor
  · rintro ⟨found, ⟨bulk, rfl⟩, decides⟩
    exact ⟨bulk, (Except.ok.inj decides).symm⟩
  · rintro ⟨bulk, rfl⟩
    exact ⟨none, ⟨bulk, rfl⟩, rfl⟩

theorem foldlM_selectSubordinate_others {selected result : Option DataInterface}
    {subordinates : List UInt8} (listed : ∀ other ∈ subordinates, other ∈ function.subordinates)
    (others : function.data ∉ subordinates) :
    subordinates.foldlM (selectSubordinate function.bytes) selected = .ok result ↔
      (∀ other ∈ subordinates, BulkSection (function.sections other).2) ∧ result = selected := by
  induction subordinates with
  | nil => simp [eq_comm (a := result)]
  | cons subordinate rest ih =>
    have different : subordinate ≠ function.data := by
      rintro rfl
      exact others List.mem_cons_self
    have tail := ih (fun other member => listed other (List.mem_cons_of_mem _ member))
      fun member => others (List.mem_cons_of_mem _ member)
    rw [List.foldlM_cons, bind_eq_ok, List.forall_mem_cons]
    simp only [function.selectSubordinate_other (listed subordinate List.mem_cons_self) different]
    constructor
    · rintro ⟨_, ⟨bulk, rfl⟩, runs⟩
      obtain ⟨bulks, same⟩ := tail.mp runs
      exact ⟨⟨bulk, bulks⟩, same⟩
    · rintro ⟨⟨bulk, bulks⟩, same⟩
      exact ⟨selected, ⟨bulk, rfl⟩, tail.mpr ⟨bulks, same⟩⟩

/-- **The loop over the subordinates finds the Data interface exactly when no other pass fails.** -/
theorem foldlM_selectSubordinate {result : Option DataInterface} :
    function.subordinates.foldlM (selectSubordinate function.bytes) none = .ok result ↔
      function.OthersLookLikeData ∧ result = some function.dataInterface := by
  have listed : function.data ∈ function.subordinates := function.listed
  have distinct : function.subordinates.Nodup := function.distinct
  obtain ⟨before, after, split⟩ := List.append_of_mem listed
  rw [split, List.nodup_append, List.nodup_cons] at distinct
  have notBefore : function.data ∉ before := fun member =>
    distinct.2.2 _ member _ List.mem_cons_self rfl
  have notAfter : function.data ∉ after := distinct.2.1.1
  have beforeLoop := @foldlM_selectSubordinate_others function none
  have afterLoop := @foldlM_selectSubordinate_others function (some function.dataInterface) result
    after (by rw [split]; intro other member; simp [member]) notAfter
  have finds : selectSubordinate function.bytes none function.data =
      .ok (some function.dataInterface) := by
    rw [selectSubordinate, discoverDataInterface_data]
    rfl
  rw [split, List.foldlM_append, bind_eq_ok]
  simp only [List.foldlM_cons, fun middle => @beforeLoop middle before
    (by rw [split]; intro other member; simp [member]) notBefore]
  constructor
  · rintro ⟨_, ⟨bulkBefore, rfl⟩, runs⟩
    rw [finds, ok_bind, afterLoop] at runs
    refine ⟨?_, runs.2⟩
    intro other member different
    rw [split, List.mem_append, List.mem_cons] at member
    rcases member with earlier | same | later
    · exact bulkBefore other earlier
    · exact absurd same different
    · exact runs.1 other later
  · rintro ⟨looksLike, rfl⟩
    refine ⟨none, ⟨?_, rfl⟩, ?_⟩
    · intro other earlier
      exact looksLike other (by rw [split]; simp [earlier])
        fun same => notBefore (same ▸ earlier)
    · rw [finds, ok_bind, afterLoop]
      refine ⟨?_, rfl⟩
      intro other later
      exact looksLike other (by rw [split]; simp [later]) fun same => notAfter (same ▸ later)

/-- The selection, by Call Management or by the loop. -/
theorem selectDataInterface_eq_ok {result : DataInterface} :
    selectDataInterface function.bytes (controlFindings function.body).callManagement
        function.subordinates = .ok result ↔
      (function.Managed ∨ function.OthersLookLikeData) ∧ result = function.dataInterface := by
  rw [selectDataInterface]
  cases managed : managedDataInterface (controlFindings function.body).callManagement with
  | some named =>
    have isManaged : function.Managed := by rw [Managed, managed, function.named named managed]
    have same : named = function.data := function.named named managed
    have listed : ¬ named ∉ function.subordinates := not_not_intro (same ▸ function.listed)
    simp only [if_neg listed]
    rw [same, discoverDataInterface_data]
    simp [isManaged, eq_comm (a := result)]
  | none =>
    have unmanaged : ¬ function.Managed := by
      rw [Managed, managed]
      rintro ⟨⟩
    simp only [unmanaged, false_or]
    rw [bind_eq_ok]
    simp only [foldlM_selectSubordinate]
    constructor
    · rintro ⟨_, ⟨looksLike, rfl⟩, same⟩
      exact ⟨looksLike, (Except.ok.inj same).symm⟩
    · rintro ⟨looksLike, rfl⟩
      exact ⟨_, ⟨looksLike, rfl⟩, rfl⟩

theorem endpointCount_le : function.interface.endpointCount.toNat ≤ 1 := by
  rw [function.endpointCount]
  exact function.acmSection.notification.1

/-- The checks of the control interface's section. -/
theorem controlSectionOf_eq (current : Option InterfaceDescriptor) :
    ∃ control, controlSectionOf function.control
        ⟨current, some function.interface, controlFindings function.body⟩ = .ok control ∧
      control.notificationEndpoint = (controlFindings function.body).notificationEndpoint ∧
      control.callManagement = (controlFindings function.body).callManagement ∧
      control.subordinateInterfaces = function.subordinates := by
  have single := function.acmSection.union
  rw [function.isUnion] at single
  have long : 5 ≤ function.union.length := by
    have reads := single.2 function.union List.mem_cons_self
    by_contra short
    rw [readUnion, if_neg short] at reads
    cases reads
  have union : (controlFindings function.body).unionDescriptor = some function.union := by
    rw [controlFindings, function.isUnion, slot_singleton, readUnion, if_pos long]
  obtain ⟨version, hasVersion⟩ := Option.ne_none_iff_exists'.mp
    (mt (slot_eq_none function.acmSection.header).mp function.hasHeader)
  obtain ⟨capabilities, hasCapabilities⟩ := Option.ne_none_iff_exists'.mp
    (mt (slot_eq_none function.acmSection.acm).mp function.hasAcm)
  have accepted : ¬ (function.interface.endpointCount > 1 ∨
      function.interface.endpointCount ≠ (controlFindings function.body).endpointsSeen) := by
    rintro (many | different)
    · exact Nat.not_lt.mpr function.endpointCount_le (UInt8.lt_iff_toNat_lt.mp many)
    · apply different
      rw [controlFindings, ← function.endpointCount, UInt8.ofNat_toNat]
  refine ⟨⟨version, capabilities, _, _, function.subordinates⟩, ?_, rfl, rfl, rfl⟩
  rw [controlSectionOf, okOr_some, ok_bind, if_neg (not_not_intro function.acmControl),
    if_neg accepted, union]
  simp only [controlFindings, hasVersion, hasCapabilities, okOr_some, ok_bind,
    index_of_getElem? function.isMaster, ne_eq, not_true, if_false,
    slice_of_le (show 4 ≤ function.union.length by omega) (Nat.le_refl _), pure_eq_ok]
  rw [List.take_of_length_le (by simp), subordinates]

/-- What is left of the discovery is the selection of the data interface. -/
theorem discoverControlInterface_eq :
    ∃ control : ControlSection,
      control.notificationEndpoint = (controlFindings function.body).notificationEndpoint ∧
      discoverControlInterface function.bytes function.control =
        (selectDataInterface function.bytes (controlFindings function.body).callManagement
          function.subordinates >>= candidateOf function.header function.control control) := by
  obtain ⟨iter, created, -⟩ := function.wellFramed.items
  obtain ⟨current, passes⟩ := controlPass function.wellFramed function.isSection
    function.acmControl function.acmSection
  obtain ⟨control, checked, notification, callManagement, subordinates⟩ :=
    function.controlSectionOf_eq current
  have existing : checkSubordinates function.bytes function.control [] function.subordinates =
      .ok () :=
    checkSubordinates_eq_ok function.distinct function.withoutControl fun subordinate member =>
      interfaceExists_section function.wellFramed (function.existing subordinate member)
  refine ⟨control, notification, ?_⟩
  rw [discoverControlInterface, created, ok_bind, discoverCandidate, function.wellFramed.parsed,
    ok_bind, passes, ok_bind, checked, ok_bind, subordinates, existing, ok_bind, callManagement]

end UnionFunction

/-- **The Data interface is selected exactly when Call Management names it, or the endpoints of every
other subordinate look like a data interface's.** -/
theorem discoverControlInterface_selects_iff (function : UnionFunction) :
    function.Selected ↔ function.Managed ∨ function.OthersLookLikeData := by
  obtain ⟨control, notification, reduces⟩ := function.discoverControlInterface_eq
  rw [UnionFunction.Selected]
  simp only [reduces]
  constructor
  · rintro ⟨found, succeeds, -⟩
    obtain ⟨selected, selects, -⟩ := bind_eq_ok.mp succeeds
    exact (function.selectDataInterface_eq_ok.mp selects).1
  · intro condition
    have unshared : ¬ control.notificationEndpoint.any
        (·.address = function.dataInterface.bulkInEndpoint.address) := by
      rw [notification, Option.any_eq_true]
      rintro ⟨endpoint, present, same⟩
      exact function.addresses endpoint present (of_decide_eq_true same)
    rw [function.selectDataInterface_eq_ok.mpr ⟨condition, rfl⟩, ok_bind, candidateOf,
      if_neg unshared]
    exact ⟨_, rfl, rfl, rfl, rfl, rfl⟩

/-! ### A second ACM control interface among the subordinates -/

/-- The descriptors of a configuration with two ACM control interfaces, 0 and 2, and the Data
interface 1 of the first; the first has a notification endpoint. -/
def notifyingModem : List (List UInt8) := [
  [9, 2, 72, 0, 3, 1, 0, 0x80, 50],
  [9, 4, 0, 0, 1, 2, 2, 1, 0],
  [5, 0x24, 0, 0x10, 1],
  [4, 0x24, 2, 2],
  [6, 0x24, 6, 0, 2, 1],
  [7, 5, 0x83, 3, 8, 0, 16],
  [9, 4, 1, 0, 2, 0x0a, 0, 0, 0],
  [7, 5, 1, 2, 64, 0, 0],
  [7, 5, 0x81, 2, 64, 0, 0],
  [9, 4, 2, 0, 0, 2, 2, 1, 0]]

/-- The first of them, whose Union descriptor lists 2 and 1. -/
def notifyingFunction : UnionFunction where
  bytes := notifyingModem.flatten
  header := ⟨72, 3, 1, 0, 0x80, 100⟩
  descriptors := notifyingModem
  wellFramed := ⟨by decide, by decide, by decide, by decide⟩
  control := 0
  interface := ⟨0, 0, 1, 2, 2, 1⟩
  body := (notifyingModem.drop 2).take 4
  isSection := ⟨notifyingModem.take 1, _, notifyingModem.drop 6, by rfl, by rfl, by decide,
    by decide, by decide, by decide⟩
  acmControl := by decide
  acmSection := ⟨by decide, by decide, by decide, by decide, by decide, by decide, by decide⟩
  hasHeader := by decide
  hasAcm := by decide
  endpointCount := by decide
  union := [6, 0x24, 6, 0, 2, 1]
  isUnion := by decide
  isMaster := by decide
  distinct := by decide
  withoutControl := by decide
  sections subordinate :=
    if subordinate = 1 then (⟨1, 0, 2, 0x0a, 0, 0⟩, (notifyingModem.drop 7).take 2)
    else (⟨2, 0, 0, 2, 2, 1⟩, [])
  existing := by
    intro subordinate listed
    rcases List.mem_pair.mp (show subordinate ∈ [(2 : UInt8), 1] from listed) with rfl | rfl
    · exact ⟨notifyingModem.take 9, _, [], by rfl, by rfl, by decide, by decide, by decide,
        by decide⟩
    · exact ⟨notifyingModem.take 6, _, notifyingModem.drop 9, by rfl, by rfl, by decide, by decide,
        by decide, by decide⟩
  data := 1
  bulkOut := ⟨1, 2, 64, 0⟩
  bulkIn := ⟨0x81, 2, 64, 0⟩
  listed := by decide
  isData := ⟨by decide, by decide, by decide, by decide, by decide, by decide⟩
  others := by
    intro subordinate listed different
    rcases List.mem_pair.mp (show subordinate ∈ [(2 : UInt8), 1] from listed) with rfl | rfl
    · exact (by decide : (2 : UInt8) ≠ usbClassCdcData)
    · exact absurd rfl different
  named := by
    have unnamed : managedDataInterface
      (controlFindings ((notifyingModem.drop 2).take 4)).callManagement = none := by rfl
    rw [unnamed]
    rintro _ ⟨⟩
  addresses := by
    have found : (controlFindings ((notifyingModem.drop 2).take 4)).notificationEndpoint =
      some ⟨0x83, 3, 8, 16⟩ := by rfl
    rw [found]
    rintro _ ⟨⟩
    decide

/-- The second ACM control interface has no endpoint, and is passed over. -/
theorem discoverControlInterface_selects_iff_passed : notifyingFunction.Selected := by
  refine (discoverControlInterface_selects_iff notifyingFunction).mpr (.inr ?_)
  intro subordinate listed different
  rcases List.mem_pair.mp (show subordinate ∈ [(2 : UInt8), 1] from listed) with rfl | rfl
  · exact ⟨by decide, by decide, by decide⟩
  · exact absurd rfl different

/-- The descriptors of a configuration with two ACM control interfaces, 0 and 2, and the Data
interface 1 of the first; the second has a notification endpoint. -/
def twoModems : List (List UInt8) := [
  [9, 2, 72, 0, 3, 1, 0, 0x80, 50],
  [9, 4, 0, 0, 0, 2, 2, 1, 0],
  [5, 0x24, 0, 0x10, 1],
  [4, 0x24, 2, 2],
  [6, 0x24, 6, 0, 2, 1],
  [9, 4, 1, 0, 2, 0x0a, 0, 0, 0],
  [7, 5, 1, 2, 64, 0, 0],
  [7, 5, 0x81, 2, 64, 0, 0],
  [9, 4, 2, 0, 1, 2, 2, 1, 0],
  [7, 5, 0x82, 3, 8, 0, 16]]

/-- The first of them, whose Union descriptor lists 2 and 1. -/
def firstModem : UnionFunction where
  bytes := twoModems.flatten
  header := ⟨72, 3, 1, 0, 0x80, 100⟩
  descriptors := twoModems
  wellFramed := ⟨by decide, by decide, by decide, by decide⟩
  control := 0
  interface := ⟨0, 0, 0, 2, 2, 1⟩
  body := (twoModems.drop 2).take 3
  isSection := ⟨twoModems.take 1, _, twoModems.drop 5, by rfl, by rfl, by decide, by decide,
    by decide, by decide⟩
  acmControl := by decide
  acmSection := ⟨by decide, by decide, by decide, by decide, by decide, by decide, by decide⟩
  hasHeader := by decide
  hasAcm := by decide
  endpointCount := by decide
  union := [6, 0x24, 6, 0, 2, 1]
  isUnion := by decide
  isMaster := by decide
  distinct := by decide
  withoutControl := by decide
  sections subordinate :=
    if subordinate = 1 then (⟨1, 0, 2, 0x0a, 0, 0⟩, (twoModems.drop 6).take 2)
    else (⟨2, 0, 1, 2, 2, 1⟩, twoModems.drop 9)
  existing := by
    intro subordinate listed
    rcases List.mem_pair.mp (show subordinate ∈ [(2 : UInt8), 1] from listed) with rfl | rfl
    · exact ⟨twoModems.take 8, _, [], by rfl, by rfl, by decide, by decide, by decide, by decide⟩
    · exact ⟨twoModems.take 5, _, twoModems.drop 8, by rfl, by rfl, by decide, by decide, by decide,
        by decide⟩
  data := 1
  bulkOut := ⟨1, 2, 64, 0⟩
  bulkIn := ⟨0x81, 2, 64, 0⟩
  listed := by decide
  isData := ⟨by decide, by decide, by decide, by decide, by decide, by decide⟩
  others := by
    intro subordinate listed different
    rcases List.mem_pair.mp (show subordinate ∈ [(2 : UInt8), 1] from listed) with rfl | rfl
    · exact (by decide : (2 : UInt8) ≠ usbClassCdcData)
    · exact absurd rfl different
  named := by
    have unnamed : managedDataInterface
      (controlFindings ((twoModems.drop 2).take 3)).callManagement = none := by rfl
    rw [unnamed]
    rintro _ ⟨⟩
  addresses := by
    have silent : (controlFindings ((twoModems.drop 2).take 3)).notificationEndpoint = none := by rfl
    rw [silent]
    rintro _ ⟨⟩

/-- The notification endpoint of the second modem blocks the discovery of the first. -/
theorem discoverControlInterface_blocked :
    discoverControlInterface firstModem.bytes firstModem.control =
      fail .invalidEndpointDescriptor ∧ ¬ firstModem.Selected := by
  have refused : discoverControlInterface firstModem.bytes firstModem.control =
      fail .invalidEndpointDescriptor := by rfl
  refine ⟨refused, ?_⟩
  rintro ⟨found, succeeds, -⟩
  rw [refused] at succeeds
  exact fail_ne_ok _ _ succeeds

end PioUsbHost.Cdc
