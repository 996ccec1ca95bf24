/-
**Explicit CDC-ACM selection is isolated from other functions.**

The discovery of a control interface looks at its section and at those of the subordinates that its
Union descriptor lists. Two configurations that agree there give the same result, error or not.

* `controlPass_subordinates`: the subordinates that the control interface's section gives are those
  that `subordinatesOf` reads from the bytes.
* `discoverControlInterface_isolated`: the two results are the same.
-/

import PioUsbHost.Cdc.Inversion
import PioUsbHost.Usb.Isolation

namespace PioUsbHost.Cdc

open PioUsbHost.Lib.Panic PioUsbHost.Usb

/-! ### What is relevant -/

/-- The interfaces that the Union descriptor of a control interface lists. -/
def subordinatesOf (bytes : List UInt8) (controlInterface : UInt8) : List UInt8 :=
  match ofSubtype cdcDescriptorSubtypeUnion
      (sectionOf controlInterface none (descriptorsOf bytes)) with
  | [union] => union.drop 4
  | _ => []

/-- The alternate setting 0 of the control interface or of one of its subordinates. -/
def relevant (bytes : List UInt8) (controlInterface : UInt8) (interface : InterfaceDescriptor) :
    Bool :=
  interface.alternateSetting = 0 ∧
    (interface.number = controlInterface ∨ interface.number ∈ subordinatesOf bytes controlInterface)

theorem relevant_control {bytes : List UInt8} {controlInterface : UInt8}
    (interface : InterfaceDescriptor) (isRequested : interface.isRequested controlInterface = true) :
    relevant bytes controlInterface interface = true := by
  obtain ⟨number, alternate⟩ := of_decide_eq_true isRequested
  exact decide_eq_true ⟨alternate, .inl number⟩

theorem relevant_subordinate {bytes : List UInt8} {controlInterface subordinate : UInt8}
    (listed : subordinate ∈ subordinatesOf bytes controlInterface) (interface : InterfaceDescriptor)
    (isRequested : interface.isRequested subordinate = true) :
    relevant bytes controlInterface interface = true := by
  obtain ⟨number, alternate⟩ := of_decide_eq_true isRequested
  exact decide_eq_true ⟨alternate, .inr (number ▸ listed)⟩

/-- **The subordinates that the checks return** are those in the bytes. -/
theorem controlPass_subordinates {bytes : List UInt8} {controlInterface : UInt8}
    {scan : InterfaceScan ControlFindings} {control : ControlSection}
    (scanned : forDescriptors id bytes (InterfaceScan.step controlInterface
      .invalidInterfaceDescriptor controlInside) ⟨none, none, {}⟩ = .ok scan)
    (accepted : controlSectionOf controlInterface scan = .ok control) :
    control.subordinateInterfaces = subordinatesOf bytes controlInterface := by
  obtain ⟨interface, union, checked⟩ := controlSectionOf_eq_ok accepted
  obtain ⟨header, descriptors, body, wellFramed, isSection, -, -, onlyUnion⟩ :=
    checked.section scanned
  rw [subordinatesOf, wellFramed.descriptorsOf_eq, sectionOf_of_isSection isSection, onlyUnion]
  exact checked.subordinates

/-! ### The scans -/

section TwoRuns

variable {first second : List UInt8} {looksAt : InterfaceDescriptor → Bool}

/-- The search for an interface looks at interface descriptors only. -/
theorem interfaceExistsIn_agree {current : Option InterfaceDescriptor}
    {items others : List DescriptorIter.Item} (requested : UInt8)
    (agree : AgreeOn looksAt current items others) :
    interfaceExistsIn requested items = interfaceExistsIn requested others := by
  induction items generalizing others current with
  | nil =>
    rcases agree.cases with ⟨-, rfl⟩ | ⟨_, _, _, _, same, -⟩ | ⟨_, _, _, same, -⟩
    · rfl
    · cases same
    · cases same
  | cons item rest ih =>
    rcases agree.cases with ⟨same, -⟩ | ⟨descriptor, other, _, rest', same, rfl, typed, equal, tail⟩ |
      ⟨fault, _, rest', same, rfl⟩
    · cases same
    · cases same
      have onward := ih tail
      by_cases isInterface : IsInterface descriptor
      · rw [equal (.inl isInterface)]
        simp only [interfaceExistsIn, onward]
      · rw [interfaceExistsIn, interfaceExistsIn, ok_bind, ok_bind, index, index, ← typed]
        cases read : descriptor[1]? with
        | none => rfl
        | some kind =>
          have plain : kind ≠ descriptorTypeInterface := by
            rintro rfl
            exact isInterface read
          simp only [ok_bind, if_pos plain]
          exact onward
    · cases same
      rfl

theorem interfaceExists_agree (alike : Alike looksAt first second) (requested : UInt8) :
    interfaceExists first requested = interfaceExists second requested := by
  rcases alike.new with ⟨fault, fails, fails'⟩ | ⟨iter, other, created, created', agree⟩
  · rw [interfaceExists, interfaceExists, fails, fails']
  · rw [interfaceExists, interfaceExists, created, created', ok_bind, ok_bind]
    exact interfaceExistsIn_agree requested agree

theorem checkSubordinates_agree (alike : Alike looksAt first second) (control : UInt8)
    (earlier subordinates : List UInt8) :
    checkSubordinates first control earlier subordinates =
      checkSubordinates second control earlier subordinates := by
  induction subordinates generalizing earlier with
  | nil => rfl
  | cons subordinate rest ih =>
    rw [checkSubordinates, checkSubordinates, interfaceExists_agree alike]
    simp only [ih]

/-- The pass for a relevant interface. -/
theorem discoverDataInterface_agree (alike : Alike looksAt first second) {requested : UInt8}
    (covered : ∀ interface : InterfaceDescriptor,
      interface.isRequested requested = true → looksAt interface = true) :
    discoverDataInterface first requested = discoverDataInterface second requested := by
  rw [discoverDataInterface, discoverDataInterface, alike.forDescriptors_eq covered]

theorem foldlM_selectSubordinate_agree {subordinates : List UInt8}
    (same : ∀ subordinate ∈ subordinates,
      discoverDataInterface first subordinate = discoverDataInterface second subordinate)
    (selected : Option DataInterface) :
    subordinates.foldlM (selectSubordinate first) selected =
      subordinates.foldlM (selectSubordinate second) selected := by
  induction subordinates generalizing selected with
  | nil => rfl
  | cons subordinate rest ih =>
    have here : selectSubordinate first selected subordinate =
        selectSubordinate second selected subordinate := by
      rw [selectSubordinate, selectSubordinate, same subordinate List.mem_cons_self]
    rw [List.foldlM_cons, List.foldlM_cons, here]
    congr 1
    funext next
    exact ih (fun other member => same other (List.mem_cons_of_mem _ member)) next

/-- **The selection looks at the subordinates only.** -/
theorem selectDataInterface_agree {subordinates : List UInt8}
    (same : ∀ subordinate ∈ subordinates,
      discoverDataInterface first subordinate = discoverDataInterface second subordinate)
    (callManagement : Option (UInt8 × UInt8)) :
    selectDataInterface first callManagement subordinates =
      selectDataInterface second callManagement subordinates := by
  rw [selectDataInterface, selectDataInterface]
  cases managedDataInterface callManagement with
  | some interface =>
    simp only
    split
    · rfl
    next listed => rw [same interface (Decidable.not_not.mp listed)]
  | none =>
    simp only
    rw [foldlM_selectSubordinate_agree same]

end TwoRuns

/-! ### The selection -/

/-- **Explicit CDC-ACM selection is isolated from other functions.** -/
theorem discoverControlInterface_isolated {first second : List UInt8} {controlInterface : UInt8}
    (alike : Alike (relevant first controlInterface) first second) :
    discoverControlInterface first controlInterface =
      discoverControlInterface second controlInterface := by
  have framing : (do let _ ← DescriptorIter.new first; discoverCandidate first controlInterface) =
      (do let _ ← DescriptorIter.new second; discoverCandidate first controlInterface) := by
    rcases alike.new with ⟨fault, fails, fails'⟩ | ⟨iter, other, created, created', -⟩
    · rw [fails, fails']
    · rw [created, created']
      rfl
  rw [discoverControlInterface, discoverControlInterface, framing]
  congr 1
  funext _
  rw [discoverCandidate, discoverCandidate, ConfigurationDescriptorHeader.parse_congr alike.header]
  congr 1
  funext configuration
  -- the control interface's own section is relevant
  have pass := @Alike.forDescriptors_eq _ _ _ _ (.invalidInterfaceDescriptor) controlInside _ _ alike
    relevant_control id {}
  rw [← pass]
  cases scanned : forDescriptors id first (InterfaceScan.step controlInterface
      .invalidInterfaceDescriptor controlInside) ⟨none, none, {}⟩ with
  | error fault => rfl
  | ok scan =>
    rw [ok_bind, ok_bind]
    cases accepted : controlSectionOf controlInterface scan with
    | error fault => rfl
    | ok control =>
      -- and so are those of the subordinates it lists
      have listed := controlPass_subordinates scanned accepted
      have same : ∀ subordinate ∈ control.subordinateInterfaces,
          discoverDataInterface first subordinate = discoverDataInterface second subordinate := by
        intro subordinate member
        rw [listed] at member
        exact discoverDataInterface_agree alike (relevant_subordinate member)
      rw [ok_bind, ok_bind, checkSubordinates_agree alike, selectDataInterface_agree same]

/-- Two modems, as the driver's own tests describe them, with the ACM capabilities of the first. -/
def dualCdcAcmConfiguration (capabilities : UInt8) : List UInt8 := List.flatten [
  [9, 2, 102, 0, 4, 1, 0, 0x80, 50],
  [9, 4, 0, 0, 0, 2, 2, 1, 0],
  [5, 0x24, 0, 0x10, 1],
  [4, 0x24, 2, capabilities],
  [6, 0x24, 6, 0, 2, 1],
  [9, 4, 1, 0, 2, 0x0a, 0, 0, 0],
  [7, 5, 1, 2, 64, 0, 0],
  [7, 5, 0x81, 2, 64, 0, 0],
  [9, 4, 2, 0, 0, 2, 2, 1, 0],
  [5, 0x24, 0, 0x10, 1],
  [4, 0x24, 2, 6],
  [5, 0x24, 6, 2, 3],
  [9, 4, 3, 0, 2, 0x0a, 0, 0, 0],
  [7, 5, 3, 2, 64, 0, 0],
  [7, 5, 0x83, 2, 64, 0, 0]]

/-- Reserved capabilities, which make the first modem invalid, do not reach the second. -/
theorem discoverControlInterface_isolated_broken :
    discoverControlInterface (dualCdcAcmConfiguration 0x02) 2 =
      discoverControlInterface (dualCdcAcmConfiguration 0x12) 2 :=
  discoverControlInterface_isolated ⟨by rfl, by rfl, by decide +kernel⟩

end PioUsbHost.Cdc
