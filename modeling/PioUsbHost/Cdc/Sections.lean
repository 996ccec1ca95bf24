/-
**What the passes over a section accept.**

Both passes fill optional variables from the descriptors of the section. Their results are given in
closed form over the section, without the loop:

* `foldlM_controlInside`: the control interface's section is accepted exactly when it is an
  `AcmSection`, with the findings `controlFindings`.
* `foldlM_dataInside`: a data interface's section is accepted exactly when its endpoints are
  supported bulk endpoints, at most one in each direction, with the findings `dataFindings`.
-/

import PioUsbHost.Cdc.Discovery
import PioUsbHost.Lib.SingleSlot
import PioUsbHost.Usb.Directions

namespace PioUsbHost.Cdc

open PioUsbHost.Lib.Panic PioUsbHost.Lib.SingleSlot PioUsbHost.Usb

/-! ### The descriptors of a section -/

/-- The class-specific descriptors. -/
def functional (body : List (List UInt8)) : List (List UInt8) :=
  body.filter fun descriptor => descriptor[1]? = some descriptorTypeClassInterface

/-- The class-specific descriptors of one subtype. -/
def ofSubtype (subtype : UInt8) (body : List (List UInt8)) : List (List UInt8) :=
  (functional body).filter fun descriptor => descriptor[2]? = some subtype

/-- The endpoint descriptors of a section. -/
def endpoints (body : List (List UInt8)) : List (List UInt8) :=
  body.filter fun descriptor => descriptor[1]? = some descriptorTypeEndpoint

/-! ### The control interface's section -/

/-- bcdCDC. -/
def readHeader : List UInt8 → Option UInt16
  | [_, _, _, low, high] => some (u16FromLeBytes low high)
  | _ => none

/-- bmCapabilities and bDataInterface; a data interface without call handling is no combination. -/
def readCallManagement : List UInt8 → Option (UInt8 × UInt8)
  | [_, _, _, capabilities, dataInterface] =>
    if capabilities &&& ~~~0x03 = 0
        ∧ capabilities &&& 0x03 ≠ cdcCallManagementCapabilityDataInterface then
      some (capabilities, dataInterface)
    else none
  | _ => none

/-- bmCapabilities. -/
def readAcm : List UInt8 → Option UInt8
  | [_, _, _, capabilities] => if capabilities &&& 0xf0 = 0 then some capabilities else none
  | _ => none

/-- A Union descriptor names a master and at least one subordinate. -/
def readUnion (descriptor : List UInt8) : Option (List UInt8) :=
  if 5 ≤ descriptor.length then some descriptor else none

/-- The notification endpoint that a descriptor describes. -/
def readNotification (descriptor : List UInt8) : Option EndpointDescriptor :=
  (EndpointDescriptor.parse descriptor).toOption.filter EndpointDescriptor.isSupportedInterruptIn

/-- The section starts its functional descriptors with a Header, repeats none of the kinds that the
driver reads, and has at most a notification endpoint. -/
structure AcmSection (body : List (List UInt8)) : Prop where
  subtypes : ∀ descriptor ∈ functional body, 3 ≤ descriptor.length
  headerFirst : ∀ descriptor ∈ (functional body).head?,
    descriptor[2]? = some cdcDescriptorSubtypeHeader
  header : Single readHeader (ofSubtype cdcDescriptorSubtypeHeader body)
  callManagement : Single readCallManagement (ofSubtype cdcDescriptorSubtypeCallManagement body)
  acm : Single readAcm (ofSubtype cdcDescriptorSubtypeAcm body)
  union : Single readUnion (ofSubtype cdcDescriptorSubtypeUnion body)
  notification : Single readNotification (endpoints body)

/-- What the section holds. -/
def controlFindings (body : List (List UInt8)) : ControlFindings where
  endpointsSeen := UInt8.ofNat (endpoints body).length
  notificationEndpoint := slot readNotification (endpoints body)
  firstFunctionalDescriptorSeen := !(functional body).isEmpty
  cdcVersionBcd := slot readHeader (ofSubtype cdcDescriptorSubtypeHeader body)
  acmCapabilities := slot readAcm (ofSubtype cdcDescriptorSubtypeAcm body)
  unionDescriptor := slot readUnion (ofSubtype cdcDescriptorSubtypeUnion body)
  callManagement := slot readCallManagement (ofSubtype cdcDescriptorSubtypeCallManagement body)

/-! ### One more descriptor -/

section Concat

variable {body others : List (List UInt8)} {descriptor : List UInt8} {subtype other : UInt8}

theorem functional_append : functional (body ++ others) = functional body ++ functional others :=
  ofType_append

theorem ofSubtype_append :
    ofSubtype subtype (body ++ others) = ofSubtype subtype body ++ ofSubtype subtype others := by
  rw [ofSubtype, functional_append, List.filter_append, ofSubtype, ofSubtype]

theorem endpoints_append : endpoints (body ++ others) = endpoints body ++ endpoints others :=
  ofType_append

theorem functional_singleton (isFunctional : descriptor[1]? = some descriptorTypeClassInterface) :
    functional [descriptor] = [descriptor] :=
  (ofType_singleton isFunctional).trans (if_pos rfl)

theorem ofSubtype_singleton (isFunctional : descriptor[1]? = some descriptorTypeClassInterface)
    (isSubtype : descriptor[2]? = some subtype) :
    ofSubtype other [descriptor] = if subtype = other then [descriptor] else [] := by
  rw [ofSubtype, functional_singleton isFunctional]
  split <;> simp_all

/-- A descriptor of another type changes nothing. -/
theorem functional_of_ne {kind : UInt8} (typed : descriptor[1]? = some kind)
    (different : kind ≠ descriptorTypeClassInterface) : functional [descriptor] = [] :=
  (ofType_singleton typed).trans (if_neg different)

theorem endpoints_singleton {kind : UInt8} (typed : descriptor[1]? = some kind) :
    endpoints [descriptor] = if kind = descriptorTypeEndpoint then [descriptor] else [] :=
  ofType_singleton typed

end Concat

theorem AcmSection.of_append {body others : List (List UInt8)}
    (acmSection : AcmSection (body ++ others)) : AcmSection body where
  subtypes descriptor member :=
    acmSection.subtypes descriptor (by rw [functional_append]; exact List.mem_append_left _ member)
  headerFirst descriptor first := by
    apply acmSection.headerFirst descriptor
    rw [functional_append, List.head?_append, first]
    rfl
  header := single_of_prefix (ofSubtype_append ▸ acmSection.header)
  callManagement := single_of_prefix (ofSubtype_append ▸ acmSection.callManagement)
  acm := single_of_prefix (ofSubtype_append ▸ acmSection.acm)
  union := single_of_prefix (ofSubtype_append ▸ acmSection.union)
  notification := single_of_prefix (endpoints_append ▸ acmSection.notification)

/-! ### One functional descriptor -/

section Functional

variable {found result : ControlFindings} {descriptor : List UInt8}

theorem subtype_ne :
    cdcDescriptorSubtypeHeader ≠ cdcDescriptorSubtypeCallManagement ∧
    cdcDescriptorSubtypeHeader ≠ cdcDescriptorSubtypeAcm ∧
    cdcDescriptorSubtypeHeader ≠ cdcDescriptorSubtypeUnion ∧
    cdcDescriptorSubtypeCallManagement ≠ cdcDescriptorSubtypeHeader ∧
    cdcDescriptorSubtypeCallManagement ≠ cdcDescriptorSubtypeAcm ∧
    cdcDescriptorSubtypeCallManagement ≠ cdcDescriptorSubtypeUnion ∧
    cdcDescriptorSubtypeAcm ≠ cdcDescriptorSubtypeHeader ∧
    cdcDescriptorSubtypeAcm ≠ cdcDescriptorSubtypeCallManagement ∧
    cdcDescriptorSubtypeAcm ≠ cdcDescriptorSubtypeUnion ∧
    cdcDescriptorSubtypeUnion ≠ cdcDescriptorSubtypeHeader ∧
    cdcDescriptorSubtypeUnion ≠ cdcDescriptorSubtypeCallManagement ∧
    cdcDescriptorSubtypeUnion ≠ cdcDescriptorSubtypeAcm := by
  decide

theorem functionalDescriptor_header :
    functionalDescriptor found cdcDescriptorSubtypeHeader descriptor = .ok result ↔
      found.cdcVersionBcd = none ∧ ∃ version, readHeader descriptor = some version ∧
        result = { found with cdcVersionBcd := some version } := by
  by_cases five : descriptor.length = 5
  · match descriptor, five with
    | [_, _, _, low, high], _ =>
      cases empty : found.cdcVersionBcd <;>
        simp [functionalDescriptor, readHeader, index, empty, eq_comm]
  · have unread : readHeader descriptor = none := by
      unfold readHeader
      split <;> simp_all
    simp [functionalDescriptor, five, unread]

theorem functionalDescriptor_callManagement :
    functionalDescriptor found cdcDescriptorSubtypeCallManagement descriptor = .ok result ↔
      found.callManagement = none ∧ ∃ management, readCallManagement descriptor = some management ∧
        result = { found with callManagement := some management } := by
  have different : cdcDescriptorSubtypeCallManagement ≠ cdcDescriptorSubtypeHeader := by decide
  by_cases five : descriptor.length = 5
  · match descriptor, five with
    | [_, _, _, capabilities, dataInterface], _ =>
      cases empty : found.callManagement <;>
        simp [functionalDescriptor, different, readCallManagement, orElse, index, empty,
          guard_eq_ok]
  · have unread : readCallManagement descriptor = none := by
      unfold readCallManagement
      split <;> simp_all
    simp [functionalDescriptor, different, orElse, five, unread]

theorem functionalDescriptor_acm :
    functionalDescriptor found cdcDescriptorSubtypeAcm descriptor = .ok result ↔
      found.acmCapabilities = none ∧ ∃ capabilities, readAcm descriptor = some capabilities ∧
        result = { found with acmCapabilities := some capabilities } := by
  have notHeader : cdcDescriptorSubtypeAcm ≠ cdcDescriptorSubtypeHeader := by decide
  have notManagement : cdcDescriptorSubtypeAcm ≠ cdcDescriptorSubtypeCallManagement := by decide
  by_cases four : descriptor.length = 4
  · match descriptor, four with
    | [_, _, _, capabilities], _ =>
      cases empty : found.acmCapabilities <;>
        simp [functionalDescriptor, notHeader, notManagement, readAcm, orElse, index, empty,
          require_eq_ok]
  · have unread : readAcm descriptor = none := by
      unfold readAcm
      split <;> simp_all
    simp [functionalDescriptor, notHeader, notManagement, orElse, four, unread]

theorem functionalDescriptor_union :
    functionalDescriptor found cdcDescriptorSubtypeUnion descriptor = .ok result ↔
      found.unionDescriptor = none ∧ ∃ union, readUnion descriptor = some union ∧
        result = { found with unionDescriptor := some union } := by
  have notHeader : cdcDescriptorSubtypeUnion ≠ cdcDescriptorSubtypeHeader := by decide
  have notManagement : cdcDescriptorSubtypeUnion ≠ cdcDescriptorSubtypeCallManagement := by decide
  have notAcm : cdcDescriptorSubtypeUnion ≠ cdcDescriptorSubtypeAcm := by decide
  by_cases long : 5 ≤ descriptor.length
  · cases empty : found.unionDescriptor <;>
      simp [functionalDescriptor, notHeader, notManagement, notAcm, readUnion, long, empty,
        Nat.not_lt.mpr long, eq_comm]
  · simp [functionalDescriptor, notHeader, notManagement, notAcm, readUnion, long,
      Nat.lt_of_not_le long]

end Functional

section ControlConcat

variable {body : List (List UInt8)} {descriptor : List UInt8} {subtype : UInt8}
  {result : ControlFindings}

theorem single_ofSubtype_concat {β : Type} {read : List UInt8 → Option β} {other : UInt8}
    (isFunctional : descriptor[1]? = some descriptorTypeClassInterface)
    (isSubtype : descriptor[2]? = some subtype) (single : Single read (ofSubtype other body)) :
    Single read (ofSubtype other (body ++ [descriptor])) ↔
      (subtype = other → ofSubtype other body = [] ∧ (read descriptor).isSome) := by
  rw [ofSubtype_append, ofSubtype_singleton isFunctional isSubtype]
  by_cases same : subtype = other
  · simp only [same, if_true, single_concat, forall_const]
  · simp only [same, if_false, List.append_nil, single, false_implies]

theorem slot_ofSubtype_concat {β : Type} {read : List UInt8 → Option β} {other : UInt8}
    (isFunctional : descriptor[1]? = some descriptorTypeClassInterface)
    (isSubtype : descriptor[2]? = some subtype) :
    slot read (ofSubtype other (body ++ [descriptor])) =
      if subtype = other then slot read (ofSubtype other body ++ [descriptor])
      else slot read (ofSubtype other body) := by
  rw [ofSubtype_append, ofSubtype_singleton isFunctional isSubtype]
  split
  · rfl
  · rw [List.append_nil]

/-- A functional descriptor fits: it is a Header if it is the first, the first of its subtype if
that is a kind the driver reads, and it reads. -/
@[mk_iff]
structure Fits (body : List (List UInt8)) (subtype : UInt8) (descriptor : List UInt8) : Prop where
  headerFirst : functional body = [] → subtype = cdcDescriptorSubtypeHeader
  header : subtype = cdcDescriptorSubtypeHeader →
    ofSubtype cdcDescriptorSubtypeHeader body = [] ∧ (readHeader descriptor).isSome
  callManagement : subtype = cdcDescriptorSubtypeCallManagement →
    ofSubtype cdcDescriptorSubtypeCallManagement body = [] ∧
      (readCallManagement descriptor).isSome
  acm : subtype = cdcDescriptorSubtypeAcm →
    ofSubtype cdcDescriptorSubtypeAcm body = [] ∧ (readAcm descriptor).isSome
  union : subtype = cdcDescriptorSubtypeUnion →
    ofSubtype cdcDescriptorSubtypeUnion body = [] ∧ (readUnion descriptor).isSome

/-- The findings with one more functional descriptor. -/
def withFunctional (body : List (List UInt8)) (subtype : UInt8) (descriptor : List UInt8) :
    ControlFindings :=
  { controlFindings body with
    firstFunctionalDescriptorSeen := true
    cdcVersionBcd := if subtype = cdcDescriptorSubtypeHeader then
      slot readHeader (ofSubtype cdcDescriptorSubtypeHeader body ++ [descriptor])
      else (controlFindings body).cdcVersionBcd
    callManagement := if subtype = cdcDescriptorSubtypeCallManagement then
      slot readCallManagement (ofSubtype cdcDescriptorSubtypeCallManagement body ++ [descriptor])
      else (controlFindings body).callManagement
    acmCapabilities := if subtype = cdcDescriptorSubtypeAcm then
      slot readAcm (ofSubtype cdcDescriptorSubtypeAcm body ++ [descriptor])
      else (controlFindings body).acmCapabilities
    unionDescriptor := if subtype = cdcDescriptorSubtypeUnion then
      slot readUnion (ofSubtype cdcDescriptorSubtypeUnion body ++ [descriptor])
      else (controlFindings body).unionDescriptor }

theorem acmSection_concat_functional
    (isFunctional : descriptor[1]? = some descriptorTypeClassInterface)
    (isSubtype : descriptor[2]? = some subtype) (acmSection : AcmSection body) :
    AcmSection (body ++ [descriptor]) ↔ Fits body subtype descriptor := by
  have appended : functional (body ++ [descriptor]) = functional body ++ [descriptor] := by
    rw [functional_append, functional_singleton isFunctional]
  have noEndpoint : endpoints (body ++ [descriptor]) = endpoints body := by
    rw [endpoints_append, endpoints_singleton isFunctional, if_neg (by decide), List.append_nil]
  constructor
  · intro extended
    refine ⟨?_, (single_ofSubtype_concat isFunctional isSubtype acmSection.header).mp
        extended.header,
      (single_ofSubtype_concat isFunctional isSubtype acmSection.callManagement).mp
        extended.callManagement,
      (single_ofSubtype_concat isFunctional isSubtype acmSection.acm).mp extended.acm,
      (single_ofSubtype_concat isFunctional isSubtype acmSection.union).mp extended.union⟩
    intro empty
    have first := extended.headerFirst descriptor (by rw [appended, empty]; rfl)
    rw [isSubtype] at first
    exact Option.some.inj first
  · intro fits
    refine ⟨?_, ?_,
      (single_ofSubtype_concat isFunctional isSubtype acmSection.header).mpr fits.header,
      (single_ofSubtype_concat isFunctional isSubtype acmSection.callManagement).mpr
        fits.callManagement,
      (single_ofSubtype_concat isFunctional isSubtype acmSection.acm).mpr fits.acm,
      (single_ofSubtype_concat isFunctional isSubtype acmSection.union).mpr fits.union,
      noEndpoint ▸ acmSection.notification⟩
    · intro other member
      rw [appended, List.mem_append, List.mem_singleton] at member
      rcases member with earlier | rfl
      · exact acmSection.subtypes other earlier
      · exact (List.getElem?_eq_some_iff.mp isSubtype).1
    · intro other leading
      rw [appended] at leading
      by_cases empty : functional body = []
      · rw [empty] at leading
        cases leading
        rw [isSubtype, fits.headerFirst empty]
      · rw [List.head?_append_of_ne_nil _ empty] at leading
        exact acmSection.headerFirst other leading

theorem controlFindings_concat_functional
    (isFunctional : descriptor[1]? = some descriptorTypeClassInterface)
    (isSubtype : descriptor[2]? = some subtype) :
    controlFindings (body ++ [descriptor]) = withFunctional body subtype descriptor := by
  have noEndpoint : endpoints (body ++ [descriptor]) = endpoints body := by
    rw [endpoints_append, endpoints_singleton isFunctional, if_neg (by decide), List.append_nil]
  have someFunctional : (functional (body ++ [descriptor])).isEmpty = false := by
    simp [functional_append, functional_singleton isFunctional]
  simp only [controlFindings, withFunctional, noEndpoint, someFunctional, Bool.not_false,
    slot_ofSubtype_concat isFunctional isSubtype]

/-- The handler of a functional descriptor agrees, subtype by subtype. -/
theorem functionalDescriptor_concat (acmSection : AcmSection body)
    (first : functional body = [] → subtype = cdcDescriptorSubtypeHeader) :
    functionalDescriptor { controlFindings body with firstFunctionalDescriptorSeen := true }
        subtype descriptor = .ok result ↔
      Fits body subtype descriptor ∧ result = withFunctional body subtype descriptor := by
  by_cases header : subtype = cdcDescriptorSubtypeHeader
  · subst header
    refine functionalDescriptor_header.trans ((accept_iff acmSection.header fun version =>
      ({ controlFindings body with
        firstFunctionalDescriptorSeen := true
        cdcVersionBcd := version } : ControlFindings)).trans ?_)
    simp [fits_iff, withFunctional, subtype_ne]
  have started : functional body ≠ [] := fun empty => header (first empty)
  by_cases callManagement : subtype = cdcDescriptorSubtypeCallManagement
  · subst callManagement
    refine functionalDescriptor_callManagement.trans
      ((accept_iff acmSection.callManagement fun management =>
        ({ controlFindings body with
          firstFunctionalDescriptorSeen := true
          callManagement := management } : ControlFindings)).trans ?_)
    simp [fits_iff, withFunctional, subtype_ne, started]
  by_cases acm : subtype = cdcDescriptorSubtypeAcm
  · subst acm
    refine functionalDescriptor_acm.trans ((accept_iff acmSection.acm fun capabilities =>
      ({ controlFindings body with
        firstFunctionalDescriptorSeen := true
        acmCapabilities := capabilities } : ControlFindings)).trans ?_)
    simp [fits_iff, withFunctional, subtype_ne, started]
  by_cases union : subtype = cdcDescriptorSubtypeUnion
  · subst union
    refine functionalDescriptor_union.trans ((accept_iff acmSection.union fun union =>
      ({ controlFindings body with
        firstFunctionalDescriptorSeen := true
        unionDescriptor := union } : ControlFindings)).trans ?_)
    simp [fits_iff, withFunctional, subtype_ne, started]
  · rw [functionalDescriptor, if_neg header, if_neg callManagement, if_neg acm, if_neg union]
    simp [fits_iff, withFunctional, header, callManagement, acm, union, started,
      eq_comm (a := result)]

theorem classInterfaceBranch_concat
    (isFunctional : descriptor[1]? = some descriptorTypeClassInterface)
    (acmSection : AcmSection body) :
    classInterfaceBranch (controlFindings body) descriptor = .ok result ↔
      AcmSection (body ++ [descriptor]) ∧ result = controlFindings (body ++ [descriptor]) := by
  have appended : functional (body ++ [descriptor]) = functional body ++ [descriptor] := by
    rw [functional_append, functional_singleton isFunctional]
  by_cases long : 3 ≤ descriptor.length
  · have isSubtype : descriptor[2]? = some descriptor[2] := List.getElem?_eq_getElem _
    generalize descriptor[2] = subtype at isSubtype
    rw [acmSection_concat_functional isFunctional isSubtype acmSection,
      controlFindings_concat_functional isFunctional isSubtype, classInterfaceBranch,
      if_neg (by omega), index_of_getElem? isSubtype, ok_bind]
    by_cases first : functional body = [] → subtype = cdcDescriptorSubtypeHeader
    · have seen : ¬ (¬ (controlFindings body).firstFunctionalDescriptorSeen ∧
          subtype ≠ cdcDescriptorSubtypeHeader) := by
        rintro ⟨unseen, other⟩
        exact other (first (by simpa [controlFindings] using unseen))
      rw [if_neg seen]
      exact functionalDescriptor_concat acmSection first
    · have unseen : ¬ (controlFindings body).firstFunctionalDescriptorSeen ∧
          subtype ≠ cdcDescriptorSubtypeHeader := by
        simpa [controlFindings] using first
      have unfit : ¬ Fits body subtype descriptor := fun fits => first fits.headerFirst
      simp only [if_pos unseen, fail_ne_ok, unfit, false_and]
  · have rejected : ¬ AcmSection (body ++ [descriptor]) := by
      intro extended
      exact long (extended.subtypes descriptor (by simp [appended]))
    rw [classInterfaceBranch, if_pos (by omega)]
    simp only [fail_ne_ok, rejected, false_and]

theorem notificationBranch_eq_ok {found : ControlFindings} (few : found.endpointsSeen.toNat < 255) :
    notificationBranch found descriptor = .ok result ↔
      found.notificationEndpoint = none ∧ ∃ endpoint, readNotification descriptor = some endpoint ∧
        result = { found with
          endpointsSeen := found.endpointsSeen + 1, notificationEndpoint := some endpoint } := by
  rw [notificationBranch]
  cases parsed : EndpointDescriptor.parse descriptor with
  | error fault => simp [readNotification, parsed, Except.toOption]
  | ok endpoint =>
    cases found.notificationEndpoint <;>
      simp [readNotification, parsed, Except.toOption, countEndpoint, Nat.succ_lt_succ few,
        Option.filter, guard_eq_ok]

/-- A descriptor that is not functional only counts as an endpoint. -/
theorem acmSection_concat_plain (plain : functional [descriptor] = [])
    (acmSection : AcmSection body) :
    AcmSection (body ++ [descriptor]) ↔
      Single readNotification (endpoints (body ++ [descriptor])) := by
  have same : functional (body ++ [descriptor]) = functional body := by
    rw [functional_append, plain, List.append_nil]
  have sameSubtype (other : UInt8) : ofSubtype other (body ++ [descriptor]) = ofSubtype other body := by
    rw [ofSubtype, same, ofSubtype]
  constructor
  · exact AcmSection.notification
  · intro notification
    exact ⟨same ▸ acmSection.subtypes, same ▸ acmSection.headerFirst,
      sameSubtype _ ▸ acmSection.header, sameSubtype _ ▸ acmSection.callManagement,
      sameSubtype _ ▸ acmSection.acm, sameSubtype _ ▸ acmSection.union, notification⟩

theorem controlFindings_concat_plain (plain : functional [descriptor] = []) :
    controlFindings (body ++ [descriptor]) = { controlFindings body with
      endpointsSeen := UInt8.ofNat (endpoints (body ++ [descriptor])).length
      notificationEndpoint := slot readNotification (endpoints (body ++ [descriptor])) } := by
  have same : functional (body ++ [descriptor]) = functional body := by
    rw [functional_append, plain, List.append_nil]
  simp only [controlFindings, ofSubtype, same]

theorem notificationBranch_concat (isEndpoint : descriptor[1]? = some descriptorTypeEndpoint)
    (acmSection : AcmSection body) :
    notificationBranch (controlFindings body) descriptor = .ok result ↔
      AcmSection (body ++ [descriptor]) ∧ result = controlFindings (body ++ [descriptor]) := by
  have plain : functional [descriptor] = [] := functional_of_ne isEndpoint (by decide)
  have appended : endpoints (body ++ [descriptor]) = endpoints body ++ [descriptor] := by
    rw [endpoints_append, endpoints_singleton isEndpoint, if_pos rfl]
  have few : (controlFindings body).endpointsSeen.toNat < 255 := by
    have atMostOne := acmSection.notification.1
    rw [controlFindings, UInt8.toNat_ofNat']
    omega
  refine (notificationBranch_eq_ok few).trans ((accept_iff acmSection.notification fun notification =>
    ({ controlFindings body with
      endpointsSeen := (controlFindings body).endpointsSeen + 1
      notificationEndpoint := notification } : ControlFindings)).trans ?_)
  rw [acmSection_concat_plain plain acmSection, controlFindings_concat_plain plain, appended,
    single_concat]
  simp [controlFindings]

end ControlConcat

/-- **One more descriptor of the control interface's section.** -/
theorem controlInside_concat {interface : InterfaceDescriptor} {body : List (List UInt8)}
    {descriptor : List UInt8} {result : ControlFindings}
    (acmControl : isAcmControl interface = true) (isDescriptor : IsDescriptor descriptor)
    (acmSection : AcmSection body) :
    controlInside interface (controlFindings body) descriptor = .ok result ↔
      AcmSection (body ++ [descriptor]) ∧ result = controlFindings (body ++ [descriptor]) := by
  obtain ⟨kind, typed, read⟩ := isDescriptor.index_one ConfigurationError
  rw [controlInside, read, ok_bind]
  by_cases isFunctional : kind = descriptorTypeClassInterface
  · subst isFunctional
    rw [if_pos rfl, if_pos acmControl]
    exact classInterfaceBranch_concat typed acmSection
  by_cases isEndpoint : kind = descriptorTypeEndpoint
  · subst isEndpoint
    rw [if_neg isFunctional, if_pos rfl, if_pos acmControl]
    exact notificationBranch_concat typed acmSection
  · have plain := functional_of_ne typed isFunctional
    have same : endpoints (body ++ [descriptor]) = endpoints body := by
      rw [endpoints_append, endpoints_singleton typed, if_neg isEndpoint, List.append_nil]
    rw [if_neg isFunctional, if_neg isEndpoint, acmSection_concat_plain plain acmSection,
      controlFindings_concat_plain plain, same]
    simp [acmSection.notification, controlFindings, eq_comm (a := result)]

/-- **The control interface's section is accepted exactly when it is an ACM section.** -/
theorem foldlM_controlInside {interface : InterfaceDescriptor} {body : List (List UInt8)}
    {result : ControlFindings} (acmControl : isAcmControl interface = true)
    (framed : ∀ descriptor ∈ body, IsDescriptor descriptor) :
    body.foldlM (controlInside interface) {} = .ok result ↔
      AcmSection body ∧ result = controlFindings body :=
  foldlM_eq_ok_iff ⟨by simp [functional], by simp [functional], single_nil, single_nil, single_nil,
    single_nil, single_nil⟩ rfl AcmSection.of_append (controlInside_concat acmControl) framed

/-! ### A data interface's section -/

/-- A supported bulk endpoint. -/
def readBulk (descriptor : List UInt8) : Option EndpointDescriptor :=
  (EndpointDescriptor.parse descriptor).toOption.filter EndpointDescriptor.isSupportedBulk

theorem readBulk_eq_some {descriptor : List UInt8} {endpoint : EndpointDescriptor} :
    readBulk descriptor = some endpoint ↔
      EndpointDescriptor.parse descriptor = .ok endpoint ∧ endpoint.isSupportedBulk = true :=
  filter_toOption_eq_some

/-- The supported bulk endpoints of the section, by direction. -/
def bulkEndpoints (isIn : Bool) (body : List (List UInt8)) : List EndpointDescriptor :=
  ((endpoints body).filterMap readBulk).filter fun endpoint => endpoint.isIn = isIn

/-- The section has only supported bulk endpoints, at most one in each direction. -/
structure BulkSection (body : List (List UInt8)) : Prop where
  supported : ∀ descriptor ∈ endpoints body, (readBulk descriptor).isSome
  bulkOut : (bulkEndpoints false body).length ≤ 1
  bulkIn : (bulkEndpoints true body).length ≤ 1

/-- What the section holds. -/
def dataFindings (body : List (List UInt8)) : DataFindings where
  endpointsSeen := UInt8.ofNat (endpoints body).length
  bulkOutEndpoint := (bulkEndpoints false body).head?
  bulkInEndpoint := (bulkEndpoints true body).head?

section DataConcat

variable {body : List (List UInt8)} {descriptor : List UInt8} {result : DataFindings}

theorem bulkSection_iff : BulkSection body ↔ OnePerDirection readBulk (endpoints body) := by
  constructor
  · intro bulk
    refine ⟨bulk.supported, fun isIn => ?_⟩
    cases isIn with
    | false => exact bulk.bulkOut
    | true => exact bulk.bulkIn
  · intro one
    exact ⟨one.reads, one.few false, one.few true⟩

theorem BulkSection.of_append {others : List (List UInt8)} (bulk : BulkSection (body ++ others)) :
    BulkSection body := by
  rw [bulkSection_iff, endpoints_append] at bulk
  exact bulkSection_iff.mpr bulk.of_append

theorem endpoints_concat (isEndpoint : descriptor[1]? = some descriptorTypeEndpoint) :
    endpoints (body ++ [descriptor]) = endpoints body ++ [descriptor] := by
  rw [endpoints_append, endpoints_singleton isEndpoint, if_pos rfl]

theorem bulkEndpoints_concat {isIn : Bool} {endpoint : EndpointDescriptor}
    (isEndpoint : descriptor[1]? = some descriptorTypeEndpoint)
    (reads : readBulk descriptor = some endpoint) :
    bulkEndpoints isIn (body ++ [descriptor]) =
      bulkEndpoints isIn body ++ if endpoint.isIn = isIn then [endpoint] else [] := by
  rw [bulkEndpoints, endpoints_concat isEndpoint]
  exact inDirection_concat reads

/-- One more endpoint is accepted when it is a supported one and the first in its direction. -/
theorem bulkSection_concat (isEndpoint : descriptor[1]? = some descriptorTypeEndpoint)
    (bulk : BulkSection body) :
    BulkSection (body ++ [descriptor]) ↔ ∃ endpoint, readBulk descriptor = some endpoint ∧
      bulkEndpoints endpoint.isIn body = [] := by
  rw [bulkSection_iff, endpoints_concat isEndpoint]
  exact onePerDirection_concat (bulkSection_iff.mp bulk)

theorem dataFindings_concat {endpoint : EndpointDescriptor}
    (isEndpoint : descriptor[1]? = some descriptorTypeEndpoint)
    (reads : readBulk descriptor = some endpoint)
    (first : bulkEndpoints endpoint.isIn body = []) :
    dataFindings (body ++ [descriptor]) =
      if endpoint.isIn then
        { dataFindings body with
          endpointsSeen := (dataFindings body).endpointsSeen + 1, bulkInEndpoint := some endpoint }
      else
        { dataFindings body with
          endpointsSeen := (dataFindings body).endpointsSeen + 1
          bulkOutEndpoint := some endpoint } := by
  have counted : (endpoints (body ++ [descriptor])).length = (endpoints body).length + 1 := by
    rw [endpoints_concat isEndpoint, List.length_append, List.length_singleton]
  cases direction : endpoint.isIn <;> rw [direction] at first <;>
    simp [dataFindings, counted, bulkEndpoints_concat isEndpoint reads, direction, first]

/-- **One more descriptor of a data interface's section.** -/
theorem dataInside_concat {interface : InterfaceDescriptor} (isDescriptor : IsDescriptor descriptor)
    (bulk : BulkSection body) :
    dataInside interface (dataFindings body) descriptor = .ok result ↔
      BulkSection (body ++ [descriptor]) ∧ result = dataFindings (body ++ [descriptor]) := by
  obtain ⟨kind, typed, read⟩ := isDescriptor.index_one ConfigurationError
  rw [dataInside, read, ok_bind]
  by_cases isEndpoint : kind = descriptorTypeEndpoint
  · subst isEndpoint
    rw [if_pos rfl]
    cases reads : readBulk descriptor with
    | none =>
      have rejected : ¬ BulkSection (body ++ [descriptor]) := by
        simp [bulkSection_concat typed bulk, reads]
      cases parsed : EndpointDescriptor.parse descriptor with
      | error fault => simp [rejected]
      | ok endpoint =>
        have unsupported : endpoint.isSupportedBulk = false := by
          simpa [readBulk, parsed, Except.toOption, Option.filter] using reads
        cases countEndpoint (dataFindings body).endpointsSeen <;> simp [unsupported, rejected]
    | some endpoint =>
      obtain ⟨parsed, supported⟩ := readBulk_eq_some.mp reads
      have few : (dataFindings body).endpointsSeen.toNat + 1 < 256 := by
        have atMostTwo := (bulkSection_iff.mp bulk).length_le
        rw [dataFindings, UInt8.toNat_ofNat']
        omega
      have extended : BulkSection (body ++ [descriptor]) ↔ bulkEndpoints endpoint.isIn body = [] := by
        simp [bulkSection_concat typed bulk, reads]
      rw [extended, parsed, ok_bind, countEndpoint, if_pos few, ok_bind,
        if_neg (by simp [supported])]
      by_cases first : bulkEndpoints endpoint.isIn body = []
      · rw [dataFindings_concat typed reads first]
        cases direction : endpoint.isIn <;> rw [direction] at first <;>
          simp [dataFindings, first, eq_comm (a := result)]
      · have taken : (bulkEndpoints endpoint.isIn body).head?.isSome := by
          simpa [List.isSome_head?] using first
        cases direction : endpoint.isIn <;> rw [direction] at first taken <;>
          simp [dataFindings, first, taken]
  · have same : endpoints (body ++ [descriptor]) = endpoints body := by
      rw [endpoints_append, endpoints_singleton typed, if_neg isEndpoint, List.append_nil]
    have sameSection : BulkSection (body ++ [descriptor]) :=
      ⟨same ▸ bulk.supported, by rw [bulkEndpoints, same]; exact bulk.bulkOut,
        by rw [bulkEndpoints, same]; exact bulk.bulkIn⟩
    rw [if_neg isEndpoint]
    simp [sameSection, dataFindings, bulkEndpoints, same, eq_comm (a := result)]

end DataConcat

/-- **A data interface's section is accepted exactly when it is a bulk section.** -/
theorem foldlM_dataInside {interface : InterfaceDescriptor} {body : List (List UInt8)}
    {result : DataFindings} (framed : ∀ descriptor ∈ body, IsDescriptor descriptor) :
    body.foldlM (dataInside interface) {} = .ok result ↔
      BulkSection body ∧ result = dataFindings body :=
  foldlM_eq_ok_iff ⟨by simp [endpoints], Nat.zero_le _, Nat.zero_le _⟩ rfl BulkSection.of_append
    dataInside_concat framed

end PioUsbHost.Cdc
