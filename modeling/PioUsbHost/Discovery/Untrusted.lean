/-
**Discovery on untrusted bytes.**

Each class's discovery is robust: no byte string makes it index out of range or overflow an integer,
and it reads only the configuration. The pass for a CDC-ACM control interface keeps that a Union
descriptor has at least five bytes, which the checks after the pass rely on.
-/

import PioUsbHost.Audio.Discovery
import PioUsbHost.Cdc.Functions
import PioUsbHost.Ftdi.Discovery
import PioUsbHost.Hid.Discovery
import PioUsbHost.Usb.Robust
import PioUsbHost.Usbtmc.Discovery

namespace PioUsbHost

open PioUsbHost.Lib.Panic PioUsbHost.Usb

/-! ### CDC-ACM -/

namespace Cdc

/-- A Union descriptor has its master interface and at least one subordinate. -/
def UnionLong (found : ControlFindings) : Prop :=
  ∀ union ∈ found.unionDescriptor, 5 ≤ union.length

variable {found : ControlFindings} {descriptor : List UInt8}

theorem ensures_functionalDescriptor (subtype : UInt8) (long : UnionLong found) :
    Ensures UnionLong (functionalDescriptor found subtype descriptor) := by
  rw [functionalDescriptor]
  refine ensures_ite (fun _ => ?header) fun _ => ensures_ite (fun _ => ?callManagement) fun _ =>
    ensures_ite (fun _ => ?acm) fun _ => ensures_ite (fun _ => ?union) fun _ => ensures_ok long
  case header =>
    refine ensures_ite (fun _ => ensures_fail _) fun five => ?_
    refine ensures_bind (safe_index (by omega)) fun _ _ => ?_
    exact ensures_bind (safe_index (by omega)) fun _ _ => ensures_ok long
  case callManagement =>
    refine ensures_bind (safe_orElse fun five => ?_) fun rejected evaluated =>
      ensures_ite (fun _ => ensures_fail _) fun accepted => ?_
    · have five := of_decide_eq_false five
      exact safe_bind (safe_index (by omega)) fun _ _ => safe_ok _
    · have five := of_decide_eq_false (of_orElse evaluated accepted).1
      refine ensures_bind (safe_index (by omega)) fun _ _ => ?_
      exact ensures_bind (safe_index (by omega)) fun _ _ => ensures_ok long
  case acm =>
    refine ensures_bind (safe_orElse fun four => ?_) fun rejected evaluated =>
      ensures_ite (fun _ => ensures_fail _) fun accepted => ?_
    · have four := of_decide_eq_false four
      exact safe_bind (safe_index (by omega)) fun _ _ => safe_ok _
    · have four := of_decide_eq_false (of_orElse evaluated accepted).1
      exact ensures_bind (safe_index (by omega)) fun _ _ => ensures_ok long
  case union =>
    refine ensures_ite (fun _ => ensures_fail _) fun accepted => ensures_ok ?_
    rintro _ ⟨⟩
    omega

theorem countEndpoint_safe (endpointsSeen : UInt8) : Safe (countEndpoint endpointsSeen) :=
  safe_ite (fun _ => safe_ok _) fun _ => safe_fail _

theorem ensures_controlInside (interface : InterfaceDescriptor)
    (isDescriptor : IsDescriptor descriptor) (long : UnionLong found) :
    Ensures UnionLong (controlInside interface found descriptor) := by
  obtain ⟨kind, -, read⟩ := isDescriptor.index_one ConfigurationError
  rw [controlInside, read, ok_bind]
  refine ensures_ite (fun _ => ensures_ite (fun _ => ?_) fun _ => ensures_ok long) fun _ =>
    ensures_ite (fun _ => ensures_ite (fun _ => ?_) fun _ => ensures_ok long) fun _ =>
      ensures_ok long
  · refine ensures_ite (fun _ => ensures_fail _) fun three => ?_
    refine ensures_bind (safe_index (by omega)) fun subtype _ => ?_
    refine ensures_ite (fun _ => ensures_fail _) fun _ => ?_
    exact ensures_functionalDescriptor subtype long
  · refine ensures_bind (EndpointDescriptor.parse_safe descriptor) fun endpoint _ => ?_
    refine ensures_bind (countEndpoint_safe _) fun endpointsSeen _ => ?_
    exact ensures_ite (fun _ => ensures_fail _) fun _ => ensures_ok long

theorem dataInside_safe (interface : InterfaceDescriptor) (found : DataFindings)
    (isDescriptor : IsDescriptor descriptor) : Safe (dataInside interface found descriptor) := by
  obtain ⟨kind, -, read⟩ := isDescriptor.index_one ConfigurationError
  rw [dataInside, read, ok_bind]
  refine safe_ite (fun _ => ?_) fun _ => safe_ok _
  refine safe_bind (EndpointDescriptor.parse_safe descriptor) fun endpoint _ => ?_
  refine safe_bind (countEndpoint_safe _) fun endpointsSeen _ => ?_
  refine safe_ite (fun _ => safe_fail _) fun _ => safe_ite (fun _ => ?_) fun _ => ?_
  · exact safe_ite (fun _ => safe_fail _) fun _ => safe_ok _
  · exact safe_ite (fun _ => safe_fail _) fun _ => safe_ok _

theorem dataInterfaceOf_safe (requested : UInt8) (scan : InterfaceScan DataFindings) :
    Safe (dataInterfaceOf requested scan) := by
  rw [dataInterfaceOf]
  cases scan.selected with
  | none => exact safe_ok _
  | some interface =>
    refine safe_ite (fun _ => safe_ok _) fun _ => safe_ite (fun _ => safe_fail _) fun _ =>
      safe_ite (fun _ => safe_fail _) fun _ => ?_
    refine safe_bind (safe_okOr _ _) fun bulkOut _ => safe_bind (safe_okOr _ _) fun bulkIn _ => ?_
    exact safe_ite (fun _ => safe_fail _) fun _ => safe_ok _

theorem discoverDataInterface_safe (bytes : List UInt8) (requested : UInt8) :
    Safe (discoverDataInterface bytes requested) := by
  exact safe_bind (InterfaceScan.pass_safe _ _ _ _ (fun interface found _ isDescriptor =>
    dataInside_safe interface found isDescriptor) bytes) fun scan _ =>
      dataInterfaceOf_safe requested scan

theorem interfaceExistsIn_safe (requested : UInt8) {items : List DescriptorIter.Item}
    (sound : ∀ item ∈ items, Safe item ∧ DescriptorIter.IsItem item) :
    Safe (interfaceExistsIn requested items) := by
  induction items with
  | nil => exact safe_ok _
  | cons item rest ih =>
    have onward := ih fun other member => sound other (List.mem_cons_of_mem _ member)
    obtain ⟨safe, isItem⟩ := sound item List.mem_cons_self
    refine safe_bind safe fun descriptor same => ?_
    obtain ⟨kind, -, read⟩ := (isItem descriptor same).index_one ConfigurationError
    rw [read, ok_bind]
    refine safe_ite (fun _ => onward) fun _ => ?_
    cases parsed : InterfaceDescriptor.parse descriptor with
    | ok interface => exact safe_ite (fun _ => safe_ok _) fun _ => onward
    | error fault =>
      rw [InterfaceDescriptor.parse_eq_error parsed]
      refine safe_bind (InterfaceScan.claims_safe requested descriptor) fun claimed _ => ?_
      exact safe_ite (fun _ => safe_fail _) fun _ => onward

theorem interfaceExists_safe (bytes : List UInt8) (requested : UInt8) :
    Safe (interfaceExists bytes requested) :=
  safe_bind (DescriptorIter.new_safe bytes) fun _ created => interfaceExistsIn_safe requested
    fun _ member => DescriptorIter.mem_items (DescriptorIter.new_bounded created) member

theorem checkSubordinates_safe (bytes : List UInt8) (control : UInt8)
    (earlier subordinates : List UInt8) :
    Safe (checkSubordinates bytes control earlier subordinates) := by
  induction subordinates generalizing earlier with
  | nil => exact safe_ok _
  | cons subordinate rest ih =>
    refine safe_ite (fun _ => safe_fail _) fun _ => ?_
    refine safe_bind (interfaceExists_safe bytes subordinate) fun _ _ => ?_
    exact safe_ite (fun _ => ih _) fun _ => safe_fail _

theorem selectDataInterface_safe (bytes : List UInt8) (callManagement : Option (UInt8 × UInt8))
    (subordinates : List UInt8) : Safe (selectDataInterface bytes callManagement subordinates) := by
  rw [selectDataInterface]
  cases managedDataInterface callManagement with
  | some interface =>
    refine safe_ite (fun _ => safe_fail _) fun _ => ?_
    exact safe_bind (discoverDataInterface_safe bytes interface) fun _ _ => safe_okOr _ _
  | none =>
    refine safe_bind (safe_foldlM (fun selected subordinate _ => ?_) none) fun _ _ => safe_okOr _ _
    refine safe_bind (discoverDataInterface_safe bytes subordinate) fun candidate _ => ?_
    cases candidate with
    | none => exact safe_ok _
    | some candidate => exact safe_ite (fun _ => safe_fail _) fun _ => safe_ok _

theorem controlSectionOf_safe (requested : UInt8) {scan : InterfaceScan ControlFindings}
    (long : UnionLong scan.found) : Safe (controlSectionOf requested scan) := by
  refine safe_bind (safe_okOr _ _) fun interface _ => ?_
  refine safe_ite (fun _ => safe_fail _) fun _ => safe_ite (fun _ => safe_fail _) fun _ => ?_
  refine safe_bind (safe_okOr _ _) fun version _ => safe_bind (safe_okOr _ _) fun acm _ => ?_
  refine safe_bind (safe_okOr _ _) fun union found => ?_
  have five : 5 ≤ union.length := by
    cases present : scan.found.unionDescriptor with
    | none => simp [present] at found
    | some other =>
      rw [present] at found
      cases found
      exact long union present
  refine safe_bind (safe_index (by omega)) fun master _ => safe_ite (fun _ => safe_fail _) fun _ => ?_
  exact safe_bind (safe_slice (by omega) (Nat.le_refl _)) fun _ _ => safe_ok _

theorem discoverCandidate_safe (bytes : List UInt8) (requested : UInt8) :
    Safe (discoverCandidate bytes requested) := by
  refine safe_bind (ConfigurationDescriptorHeader.parse_safe bytes) fun configuration _ => ?_
  have pass := InterfaceScan.ensures_pass id requested .invalidInterfaceDescriptor
    (fun interface _ _ isDescriptor long => ensures_controlInside interface isDescriptor long)
    (show UnionLong {} from by rintro _ ⟨⟩) bytes
  refine safe_bind pass.1 fun scan scanned => ?_
  refine safe_bind (controlSectionOf_safe requested (pass.2 scan scanned)) fun control _ => ?_
  refine safe_bind (checkSubordinates_safe bytes requested [] _) fun _ _ => ?_
  refine safe_bind (selectDataInterface_safe bytes _ _) fun dataInterface _ => ?_
  exact safe_ite (fun _ => safe_fail _) fun _ => safe_ok _

section Reads

variable {first second : List UInt8}

theorem discoverDataInterface_reads (same : SameView first second) (requested : UInt8) :
    discoverDataInterface first requested = discoverDataInterface second requested := by
  rw [discoverDataInterface, discoverDataInterface, same.forDescriptors_eq]

theorem interfaceExists_reads (same : SameView first second) (requested : UInt8) :
    interfaceExists first requested = interfaceExists second requested := by
  have items := same.bind_items id (interfaceExistsIn requested)
  rwa [convert_id, convert_id] at items

theorem checkSubordinates_reads (same : SameView first second) (control : UInt8)
    (earlier subordinates : List UInt8) :
    checkSubordinates first control earlier subordinates =
      checkSubordinates second control earlier subordinates := by
  induction subordinates generalizing earlier with
  | nil => rfl
  | cons subordinate rest ih =>
    rw [checkSubordinates, checkSubordinates, interfaceExists_reads same, ih]

theorem discoverCandidate_reads (same : SameView first second) (requested : UInt8) :
    discoverCandidate first requested = discoverCandidate second requested := by
  have data : discoverDataInterface first = discoverDataInterface second :=
    funext fun interface => discoverDataInterface_reads same interface
  have select : selectSubordinate first = selectSubordinate second := by
    funext selected subordinate
    rw [selectSubordinate, selectSubordinate, data]
  simp only [discoverCandidate, selectDataInterface, same.header, same.forDescriptors_eq,
    checkSubordinates_reads same, data, select]

end Reads

theorem isMalformedAcmControl_eq (descriptor : List UInt8) :
    ∃ named, isMalformedAcmControl descriptor = .ok named ∧ (named = true → 2 < descriptor.length) := by
  by_cases seven : 7 ≤ descriptor.length
  · rw [isMalformedAcmControl, decide_eq_true seven, andThen, if_pos rfl,
      index_of_lt (by omega : 3 < descriptor.length), index_of_lt (by omega : 5 < descriptor.length),
      index_of_lt (by omega : 6 < descriptor.length)]
    simp only [ok_bind, andThen, pure_eq_ok]
    repeat' split
    all_goals exact ⟨_, rfl, fun _ => by omega⟩
  · refine ⟨false, by rw [isMalformedAcmControl, decide_eq_false seven]; rfl, ?_⟩
    intro named
    cases named

theorem acmControls_robust : CandidateClass.RobustCandidates acmControls where
  proper := ⟨isMalformedAcmControl_eq, discoverCandidate_safe⟩
  reads := discoverCandidate_reads

end Cdc

/-! ### HID -/

namespace Hid

theorem HidDescriptor.parse_safe (bytes : List UInt8) : Safe (HidDescriptor.parse bytes) := by
  refine safe_bind (safe_orElse fun six => ?_) fun rejected evaluated =>
    safe_ite (fun _ => safe_fail _) fun accepted => ?_
  · have six := of_decide_eq_false six
    exact safe_bind (safe_index (by omega)) fun _ _ => safe_ok _
  have six := of_decide_eq_false (of_orElse evaluated accepted).1
  refine safe_bind (safe_index (by omega)) fun count _ => ?_
  refine safe_bind (safe_bind (safe_okOr _ _) fun _ _ => safe_okOr _ _) fun expected _ => ?_
  refine safe_ite (fun _ => safe_fail _) fun _ => ?_
  refine safe_bind (safe_slice (by omega) (Nat.le_refl _)) fun entries _ => ?_
  refine safe_bind (safe_foldlM (fun reported entry member => ?_) none) fun reported _ => ?_
  · have three := length_of_mem_chunksExact member
    refine safe_bind (safe_index (by omega)) fun kind _ => ?_
    refine safe_bind (safe_index (by omega)) fun low _ => ?_
    refine safe_bind (safe_index (by omega)) fun high _ => ?_
    refine safe_ite (fun _ => safe_fail _) fun _ => safe_ite (fun _ => ?_) fun _ => safe_ok _
    exact safe_ite (fun _ => safe_fail _) fun _ => safe_ok _
  · refine safe_bind (safe_index (by omega)) fun low _ => ?_
    refine safe_bind (safe_index (by omega)) fun high _ => ?_
    refine safe_bind (safe_index (by omega)) fun country _ => ?_
    exact safe_bind (safe_okOr _ _) fun _ _ => safe_ok _

theorem hidInside_safe (interface : InterfaceDescriptor) (found : HidFindings)
    {descriptor : List UInt8} (isDescriptor : IsDescriptor descriptor) :
    Safe (hidInside interface found descriptor) := by
  obtain ⟨kind, -, read⟩ := isDescriptor.index_one HidConfigurationError
  rw [hidInside, read, ok_bind]
  refine safe_ite (fun _ => safe_ite (fun _ => ?_) fun _ => safe_ok _) fun _ =>
    safe_ite (fun _ => safe_ite (fun _ => ?_) fun _ => safe_ok _) fun _ => safe_ok _
  · refine safe_bind (HidDescriptor.parse_safe descriptor) fun parsed _ => ?_
    exact safe_ite (fun _ => safe_fail _) fun _ => safe_ok _
  · refine safe_bind (safe_convert (EndpointDescriptor.parse_safe descriptor)) fun endpoint _ => ?_
    refine safe_bind (safe_okOr _ _) fun endpointsSeen _ => ?_
    refine safe_ite (fun _ => safe_fail _) fun _ => safe_ite (fun _ => ?_) fun _ => ?_
    · exact safe_ite (fun _ => safe_fail _) fun _ => safe_ok _
    · exact safe_ite (fun _ => safe_fail _) fun _ => safe_ok _

theorem discoverCandidate_safe (bytes : List UInt8) (requested : UInt8) :
    Safe (discoverCandidate bytes requested) := by
  refine safe_bind (InterfaceScan.pass_safe _ _ _ _ (fun interface found _ isDescriptor =>
    hidInside_safe interface found isDescriptor) bytes) fun scan _ => ?_
  refine safe_bind (safe_okOr _ _) fun interface _ => ?_
  refine safe_ite (fun _ => safe_fail _) fun _ => safe_ite (fun _ => safe_fail _) fun _ => ?_
  exact safe_bind (safe_okOr _ _) fun _ _ => safe_bind (safe_okOr _ _) fun _ _ => safe_ok _

theorem isMalformedHid_eq (descriptor : List UInt8) :
    ∃ named, isMalformedHid descriptor = .ok named ∧ (named = true → 2 < descriptor.length) := by
  by_cases seven : 7 ≤ descriptor.length
  · rw [isMalformedHid, decide_eq_true seven, andThen, if_pos rfl,
      index_of_lt (by omega : 3 < descriptor.length), index_of_lt (by omega : 5 < descriptor.length)]
    simp only [ok_bind, andThen, pure_eq_ok]
    split <;> exact ⟨_, rfl, fun _ => by omega⟩
  · refine ⟨false, by rw [isMalformedHid, decide_eq_false seven]; rfl, ?_⟩
    intro named
    cases named

theorem hidInterfaces_robust : CandidateClass.RobustCandidates hidInterfaces where
  proper := ⟨isMalformedHid_eq, discoverCandidate_safe⟩
  reads {first second} same requested := by
    show discoverCandidate first requested = discoverCandidate second requested
    rw [discoverCandidate, discoverCandidate, same.forDescriptors_eq]

end Hid

/-! ### FTDI -/

namespace Ftdi

theorem parseBulkEndpoint_safe (bytes : List UInt8) : Safe (parseBulkEndpoint bytes) := by
  by_cases seven : bytes.length = 7
  · match bytes, seven with
    | [_, _, _, _, _, _, _], _ =>
      simp [parseBulkEndpoint, orElse, EndpointDescriptor.read, index, convert]
  · simp [parseBulkEndpoint, orElse, seven]

theorem searchFrom_safe (requested : Option UInt8) (search : Search)
    {items : List DescriptorIter.Item}
    (sound : ∀ item ∈ items, Safe item ∧ DescriptorIter.IsItem item) :
    Safe (searchFrom requested search items) := by
  induction items generalizing search with
  | nil => exact safe_ok _
  | cons item rest ih =>
    have onward := fun search =>
      ih search fun other member => sound other (List.mem_cons_of_mem _ member)
    obtain ⟨safe, isItem⟩ := sound item List.mem_cons_self
    refine safe_bind (safe_convert safe) fun descriptor same => ?_
    obtain ⟨kind, -, read⟩ :=
      (isItem descriptor (convert_eq_ok.mp same)).index_one FtdiConfigurationError
    rw [read, ok_bind]
    refine safe_ite (fun _ => safe_ite (fun _ => safe_fail _) fun nine => ?_) fun _ =>
      safe_ite (fun _ => ?_) fun _ => onward search
    · have reads : Safe (readInterface descriptor) := by
        refine safe_bind (safe_index (by omega)) fun _ _ => ?_
        refine safe_bind (safe_index (by omega)) fun _ _ => ?_
        refine safe_bind (safe_index (by omega)) fun _ _ => ?_
        refine safe_bind (safe_index (by omega)) fun _ _ => ?_
        exact safe_bind (safe_index (by omega)) fun _ _ => safe_ok _
      refine safe_bind reads fun interface _ => safe_ite (fun _ => ?_) fun _ => onward _
      refine safe_ite (fun _ => safe_ok _) fun _ => ?_
      exact safe_bind (safe_index (by omega)) fun protocol _ => onward _
    · cases search.current with
      | none => exact onward search
      | some interface =>
        refine safe_ite (fun _ => onward search) fun _ => ?_
        refine safe_bind ?_ fun next _ => onward next
        refine safe_bind (parseBulkEndpoint_safe descriptor) fun endpoint _ => ?_
        refine safe_bind (safe_okOr _ _) fun endpointsSeen _ => safe_ite (fun _ => ?_) fun _ => ?_
        · exact safe_ite (fun _ => safe_fail _) fun _ => safe_ok _
        · exact safe_ite (fun _ => safe_fail _) fun _ => safe_ok _

theorem discoverInterface_robust (device : DeviceDescriptor) (requested : Option UInt8) :
    Robust (FtdiInterface.discoverInterface device · requested) where
  safe bytes := by
    refine safe_ite (fun _ => safe_fail _) fun _ => safe_ite (fun _ => safe_fail _) fun _ => ?_
    refine safe_bind (safe_convert (ConfigurationDescriptorHeader.parse_safe bytes))
      fun configuration _ => ?_
    refine safe_bind (safe_convert (DescriptorIter.new_safe bytes)) fun iter created => ?_
    have bounded := DescriptorIter.new_bounded (convert_eq_ok.mp created)
    refine safe_bind (searchFrom_safe requested _ fun _ member =>
      DescriptorIter.mem_items bounded member) fun search _ => ?_
    refine safe_bind (safe_okOr _ _) fun selected _ => safe_ite (fun _ => safe_fail _) fun _ => ?_
    exact safe_bind (safe_okOr _ _) fun _ _ => safe_bind (safe_okOr _ _) fun _ _ => safe_ok _
  reads bytes := by
    have same := sameView_configurationBytes bytes
    rcases same.start with ⟨fault, fails, fails'⟩ | ⟨iter, other, created, created', rest⟩
    · simp only [FtdiInterface.discoverInterface, same.header, fails, fails']
    · simp only [FtdiInterface.discoverInterface, same.header, created, created', convert, ok_bind, rest.items_eq]

end Ftdi

/-! ### USBTMC -/

namespace Usbtmc

theorem parseEndpoint_safe (bytes : List UInt8) : Safe (parseEndpoint bytes) := by
  by_cases seven : bytes.length = 7
  · match bytes, seven with
    | [_, _, _, _, _, _, _], _ =>
      simp [parseEndpoint, orElse, EndpointDescriptor.read, index, convert]
  · simp [parseEndpoint, orElse, seven]

theorem acceptEndpoint_safe (search : Search) (endpoint : EndpointDescriptor) :
    Safe (acceptEndpoint search endpoint) := by
  have slot : ∀ {accepted : Prop} [Decidable accepted] {next : Search},
      Safe (if accepted then .ok next else fail .invalidEndpointDescriptor :
        Checked UsbtmcConfigurationError Search) :=
    safe_ite (fun _ => safe_ok _) fun _ => safe_fail _
  exact safe_ite (fun _ => slot) fun _ => safe_ite (fun _ => slot) fun _ =>
    safe_ite (fun _ => slot) fun _ => safe_fail _

theorem searchFrom_safe (search : Search) {items : List DescriptorIter.Item}
    (sound : ∀ item ∈ items, Safe item ∧ DescriptorIter.IsItem item) :
    Safe (searchFrom search items) := by
  induction items generalizing search with
  | nil => exact safe_ok _
  | cons item rest ih =>
    have onward := fun search =>
      ih search fun other member => sound other (List.mem_cons_of_mem _ member)
    obtain ⟨safe, isItem⟩ := sound item List.mem_cons_self
    refine safe_bind (safe_convert safe) fun descriptor same => ?_
    obtain ⟨kind, -, read⟩ :=
      (isItem descriptor (convert_eq_ok.mp same)).index_one UsbtmcConfigurationError
    rw [read, ok_bind]
    refine safe_ite (fun _ => safe_ite (fun _ => safe_fail _) fun nine => ?_) fun _ =>
      safe_ite (fun _ => ?_) fun _ => onward search
    · have reads : Safe (isUsbtmc descriptor) := by
        refine safe_bind (safe_index (by omega)) fun _ _ => ?_
        refine safe_bind (safe_index (by omega)) fun _ _ => ?_
        refine safe_bind (safe_index (by omega)) fun _ _ => ?_
        exact safe_bind (safe_index (by omega)) fun _ _ => safe_ok _
      refine safe_bind reads fun current _ => safe_ite (fun _ => ?_) fun _ => onward _
      refine safe_ite (fun _ => safe_ok _) fun _ => ?_
      refine safe_bind (safe_index (by omega)) fun number _ => ?_
      exact safe_bind (safe_index (by omega)) fun protocol _ => onward _
    · refine safe_bind (parseEndpoint_safe descriptor) fun endpoint _ => ?_
      exact safe_bind (acceptEndpoint_safe search endpoint) fun next _ => onward next

theorem discover_robust : Robust UsbtmcInterface.discover where
  safe bytes := by
    refine safe_bind (safe_convert (ConfigurationDescriptorHeader.parse_safe bytes))
      fun configuration _ => ?_
    refine safe_bind (safe_convert (DescriptorIter.new_safe bytes)) fun iter created => ?_
    have bounded := DescriptorIter.new_bounded (convert_eq_ok.mp created)
    refine safe_bind (searchFrom_safe {} fun _ member =>
      DescriptorIter.mem_items bounded member) fun search _ => ?_
    refine safe_bind (safe_okOr _ _) fun selected _ => safe_bind (safe_okOr _ _) fun bulkOut _ => ?_
    exact safe_bind (safe_okOr _ _) fun bulkIn _ => safe_ok _
  reads bytes := by
    have same := sameView_configurationBytes bytes
    rcases same.start with ⟨fault, fails, fails'⟩ | ⟨iter, other, created, created', rest⟩
    · simp only [UsbtmcInterface.discover, same.header, fails, fails']
    · simp only [UsbtmcInterface.discover, same.header, created, created', convert, ok_bind, rest.items_eq]

end Usbtmc

/-! ### Audio -/

namespace Audio

theorem interfaceBranch_safe (search : Search) {descriptor : List UInt8}
    (nine : descriptor.length = 9) : Safe (interfaceBranch search descriptor) := by
  refine safe_bind (safe_index (by omega)) fun _ _ => safe_bind (safe_index (by omega)) fun _ _ => ?_
  refine safe_bind (safe_andThen fun _ => ?_) fun _ _ => safe_ok _
  refine safe_bind (safe_index (by omega)) fun _ _ => safe_andThen fun _ => ?_
  refine safe_bind (safe_index (by omega)) fun _ _ => safe_andThen fun _ => ?_
  refine safe_bind (safe_index (by omega)) fun _ _ => safe_andThen fun _ => ?_
  exact safe_bind (safe_index (by omega)) fun _ _ => safe_ok _

theorem anyFrequency_safe {frequencies : List (List UInt8)}
    (three : ∀ frequency ∈ frequencies, frequency.length = 3) : Safe (anyFrequency frequencies) := by
  induction frequencies with
  | nil => exact safe_ok _
  | cons frequency rest ih =>
    have long := three frequency List.mem_cons_self
    refine safe_bind (safe_index (by omega)) fun _ _ => ?_
    refine safe_bind (safe_index (by omega)) fun _ _ => ?_
    refine safe_bind (safe_index (by omega)) fun _ _ => safe_ite (fun _ => safe_ok _) fun _ => ?_
    exact ih fun other member => three other (List.mem_cons_of_mem _ member)

theorem formatBranch_safe (search : Search) {descriptor : List UInt8}
    (eleven : 11 ≤ descriptor.length) : Safe (formatBranch search descriptor) := by
  refine safe_bind (safe_index (by omega)) fun _ _ => safe_bind (safe_index (by omega)) fun _ _ => ?_
  refine safe_bind (safe_index (by omega)) fun _ _ => ?_
  refine safe_bind (safe_index (by omega)) fun count _ => ?_
  have small := count.toNat_lt
  have size : UInt32.size = 4294967296 := rfl
  dsimp only
  rw [fits_of_lt (by omega : count.toNat * 3 < UInt32.size), ok_bind,
    fits_of_lt (by omega : 8 + count.toNat * 3 < UInt32.size), ok_bind]
  refine safe_bind (safe_andThen fun _ => ?_) fun _ _ => safe_ok _
  refine safe_bind (safe_slice (by omega) (Nat.le_refl _)) fun _ _ => ?_
  exact anyFrequency_safe fun frequency member => length_of_mem_chunksExact member

theorem captureEndpoint_safe (configuration : ConfigurationDescriptorHeader) (search : Search)
    {descriptor : List UInt8} (nine : descriptor.length = 9) :
    Safe (captureEndpoint configuration search descriptor) := by
  refine safe_bind (safe_index (by omega)) fun _ _ => safe_bind (safe_index (by omega)) fun _ _ => ?_
  refine safe_bind (safe_index (by omega)) fun _ _ => safe_bind (safe_index (by omega)) fun _ _ => ?_
  exact safe_bind (safe_index (by omega)) fun _ _ => safe_ite (fun _ => safe_ok _) fun _ => safe_ok _

theorem searchFrom_safe (configuration : ConfigurationDescriptorHeader) (search : Search)
    {items : List DescriptorIter.Item}
    (sound : ∀ item ∈ items, Safe item ∧ DescriptorIter.IsItem item) :
    Safe (searchFrom configuration search items) := by
  induction items generalizing search with
  | nil => exact safe_fail _
  | cons item rest ih =>
    have onward := fun search =>
      ih search fun other member => sound other (List.mem_cons_of_mem _ member)
    obtain ⟨safe, isItem⟩ := sound item List.mem_cons_self
    refine safe_bind (safe_convert safe) fun descriptor same => ?_
    obtain ⟨kind, -, read⟩ :=
      (isItem descriptor (convert_eq_ok.mp same)).index_one AudioConfigurationError
    rw [read, ok_bind]
    refine safe_ite (fun here => ?_) fun _ => ?_
    · exact safe_bind (interfaceBranch_safe search here.2) fun next _ => onward next
    refine safe_bind (safe_andThen fun _ => safe_andThen fun _ => safe_andThen fun seven => ?_)
      fun general evaluated => safe_ite (fun is => ?_) fun _ => ?_
    · have seven := of_decide_eq_true seven
      exact safe_bind (safe_index (by omega)) fun _ _ => safe_ok _
    · have general := (of_andThen (of_andThen evaluated is).2 rfl).2
      have seven := of_decide_eq_true (of_andThen general rfl).1
      refine safe_bind (safe_index (by omega)) fun _ _ => ?_
      exact safe_bind (safe_index (by omega)) fun _ _ => onward _
    refine safe_bind (safe_andThen fun _ => safe_andThen fun eleven => ?_)
      fun format evaluated => safe_ite (fun is => ?_) fun _ => ?_
    · have eleven := (of_decide_eq_true eleven).2.2
      refine safe_bind (safe_index (by omega)) fun _ _ => safe_andThen fun _ => ?_
      exact safe_bind (safe_index (by omega)) fun _ _ => safe_ok _
    · have eleven := (of_decide_eq_true (of_andThen (of_andThen evaluated is).2 rfl).1).2.2
      exact safe_bind (formatBranch_safe search eleven) fun next _ => onward next
    refine safe_ite (fun _ => safe_ite (fun _ => onward search) fun nine => ?_) fun _ =>
      onward search
    refine safe_bind (captureEndpoint_safe configuration search (by omega)) fun found _ => ?_
    cases found with
    | some interface => exact safe_ok _
    | none => exact onward search

theorem discover_robust : Robust AudioInputInterface.discover where
  safe bytes := by
    refine safe_bind (safe_convert (ConfigurationDescriptorHeader.parse_safe bytes))
      fun header _ => ?_
    refine safe_bind (safe_convert (DescriptorIter.new_safe bytes)) fun iter created => ?_
    have bounded := DescriptorIter.new_bounded (convert_eq_ok.mp created)
    exact searchFrom_safe header {} fun _ member => DescriptorIter.mem_items bounded member
  reads bytes := by
    have same := sameView_configurationBytes bytes
    rcases same.start with ⟨fault, fails, fails'⟩ | ⟨iter, other, created, created', rest⟩
    · simp only [AudioInputInterface.discover, same.header, fails, fails']
    · simp only [AudioInputInterface.discover, same.header, created, created', convert, ok_bind,
        rest.items_eq]

end Audio

/-! ### All classes -/

/-- The explicit selection of a CDC-ACM function. -/
theorem Cdc.discoverControlInterface_robust (controlInterface : UInt8) :
    Robust (Cdc.discoverControlInterface · controlInterface) :=
  (CandidateClass.robust_discoverInterface Cdc.acmControls_robust controlInterface).congr
    fun bytes => Cdc.discoverControlInterface_eq bytes controlInterface

/-- **Untrusted descriptors cannot crash the host.** Every discovery function is robust, at every
position of the iterators; no loop misses an item; offsets stay within wTotalLength, and the one
multiplication of the header does not wrap around. -/
theorem discovery_robust :
    RobustIterator DescriptorIter.new DescriptorIter.next ∧
    RobustIterator Hid.HidInterfaces.new Hid.HidInterfaces.next ∧
    RobustIterator Cdc.CdcAcmFunctions.new Cdc.CdcAcmFunctions.next ∧
    Robust Hid.HidInterface.discover ∧
    (∀ interface, Robust (Hid.HidInterface.discoverInterface · interface)) ∧
    Robust Cdc.CdcAcmFunction.discover ∧
    (∀ interface, Robust (Cdc.discoverControlInterface · interface)) ∧
    (∀ device, Robust (Ftdi.FtdiInterface.discover device)) ∧
    (∀ device interface, Robust (Ftdi.FtdiInterface.discoverNumber device · interface)) ∧
    Robust Usbtmc.UsbtmcInterface.discover ∧
    Robust Audio.AudioInputInterface.discover ∧
    (∀ bytes iter, DescriptorIter.new bytes = .ok iter → ∀ calls,
      (Lib.Calls.after DescriptorIter.next calls iter).offset ≤ wTotalLength bytes ∧
      (wTotalLength bytes ≤ calls → iter.take calls = iter.items)) ∧
    ∀ bytes header, ConfigurationDescriptorHeader.parse bytes = .ok header →
      header.maxPowerMa.toNat = (bytes[8]?.getD 0).toNat * 2 := by
  refine ⟨DescriptorIter.robust_iterator,
    CandidateClass.robust_iterator Hid.hidInterfaces_robust,
    CandidateClass.robust_iterator Cdc.acmControls_robust,
    CandidateClass.robust_discover Hid.hidInterfaces_robust,
    CandidateClass.robust_discoverInterface Hid.hidInterfaces_robust,
    CandidateClass.robust_discover Cdc.acmControls_robust,
    Cdc.discoverControlInterface_robust,
    fun device => Ftdi.discoverInterface_robust device none,
    fun device interface => Ftdi.discoverInterface_robust device (some interface),
    Usbtmc.discover_robust, Audio.discover_robust, ?_, ?_⟩
  · intro bytes iter created calls
    refine ⟨DescriptorIter.offset_le created calls, fun enough => ?_⟩
    rw [← DescriptorIter.new_totalLength created] at enough
    exact DescriptorIter.take_eq_items (DescriptorIter.new_bounded created)
      (Nat.le_trans iter.remaining_le enough)
  · intro bytes header parsed
    obtain ⟨-, -, -, power⟩ := ConfigurationDescriptorHeader.of_parse parsed
    have small := (bytes[8]?.getD 0).toNat_lt
    rw [power, UInt16.toNat_mul, UInt8.toNat_toUInt16]
    show (bytes[8]?.getD 0).toNat * 2 % 65536 = _
    exact Nat.mod_eq_of_lt (by omega)

/-- The nine bytes of the header are read whatever wTotalLength says: these configurations agree on
their first four bytes, as many as both declare, and are rejected for different reasons. -/
theorem short_total_reads_header :
    ¬ ∀ first second : List UInt8, wTotalLength first = wTotalLength second →
      first.take (wTotalLength first) = second.take (wTotalLength second) →
      Cdc.discoverControlInterface first 0 = Cdc.discoverControlInterface second 0 := by
  intro depends
  have same := depends [9, 2, 4, 0] [9, 2, 4, 0, 1, 1, 0, 0x80, 50] rfl rfl
  have short : Cdc.discoverControlInterface [9, 2, 4, 0] 0 = fail .tooShort := rfl
  have total : Cdc.discoverControlInterface [9, 2, 4, 0, 1, 1, 0, 0x80, 50] 0 =
    fail .invalidTotalLength := rfl
  rw [short, total] at same
  cases same

end PioUsbHost
