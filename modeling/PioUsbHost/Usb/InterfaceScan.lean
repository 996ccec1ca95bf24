/-
**One pass over a configuration for the section of one interface.**

The class parsers share a loop: interface descriptors set the current interface, the one with the
requested number and alternate setting 0 is selected once, and other descriptors count only while it
is current. `InterfaceScan` holds the variables of that loop, with the findings of the class as a
parameter.

* `IsSection`: the descriptors between the requested interface descriptor and the next interface
  descriptor, when nothing else claims that interface.
* `foldlM_step_section`: the pass over the whole configuration is the pass over that section.
-/

import PioUsbHost.Usb.Descriptor

namespace PioUsbHost.Usb

open PioUsbHost.Lib.Panic

/-- The variables of a pass. -/
structure InterfaceScan (σ : Type) where
  current : Option InterfaceDescriptor
  selected : Option InterfaceDescriptor
  found : σ

/-- `interface.number == requested && interface.alternate_setting == 0` -/
def InterfaceDescriptor.isRequested (requested : UInt8) (interface : InterfaceDescriptor) : Bool :=
  interface.number = requested ∧ interface.alternateSetting = 0

namespace InterfaceScan

variable {ε σ : Type}

/-- `descriptor.len() >= 4 && descriptor[2] == requested && descriptor[3] == 0` -/
def claims (requested : UInt8) (descriptor : List UInt8) : Checked ε Bool :=
  andThen (4 ≤ descriptor.length) do
    let number ← index descriptor 2
    andThen (number = requested) do return (← index descriptor 3) = 0

/-- The `DESCRIPTOR_TYPE_INTERFACE` branch; `error` is what a malformed or repeated descriptor of
the requested interface reports. -/
def interfaceBranch (requested : UInt8) (error : ε) (scan : InterfaceScan σ)
    (descriptor : List UInt8) : Checked ε (InterfaceScan σ) :=
  match InterfaceDescriptor.parse descriptor with
  | .error .panic => .error .panic
  | .error (.error _) => do
    if ← claims requested descriptor then fail error
    return { scan with current := none }
  | .ok interface =>
    if interface.isRequested requested then
      if scan.selected.isSome then fail error
      else return { scan with current := some interface, selected := some interface }
    else return { scan with current := some interface }

/-- One descriptor; `inside` handles those in the requested interface's section. -/
def step (requested : UInt8) (error : ε)
    (inside : InterfaceDescriptor → σ → List UInt8 → Checked ε σ) (scan : InterfaceScan σ)
    (descriptor : List UInt8) : Checked ε (InterfaceScan σ) := do
  if (← index descriptor 1) = descriptorTypeInterface then
    interfaceBranch requested error scan descriptor
  else
    match scan.current with
    | none => return scan
    | some interface =>
      if interface.isRequested requested then
        return { scan with found := ← inside interface scan.found descriptor }
      else return scan

end InterfaceScan

/-! ### Sections -/

/-- A descriptor of interface type, whatever its length. -/
def IsInterface (descriptor : List UInt8) : Prop := descriptor[1]? = some descriptorTypeInterface

/-- An interface descriptor, of whatever length, that names the interface and alternate setting 0. -/
def Claims (requested : UInt8) (descriptor : List UInt8) : Prop :=
  IsInterface descriptor ∧ descriptor[2]? = some requested ∧ descriptor[3]? = some 0

instance (descriptor : List UInt8) : Decidable (IsInterface descriptor) :=
  inferInstanceAs (Decidable (_ = _))

instance (requested : UInt8) (descriptor : List UInt8) : Decidable (Claims requested descriptor) :=
  inferInstanceAs (Decidable (_ ∧ _))

/-- The descriptors of one type. -/
def ofType (kind : UInt8) (descriptors : List (List UInt8)) : List (List UInt8) :=
  descriptors.filter fun descriptor => descriptor[1]? = some kind

theorem ofType_append {kind : UInt8} {first second : List (List UInt8)} :
    ofType kind (first ++ second) = ofType kind first ++ ofType kind second :=
  List.filter_append ..

theorem ofType_singleton {kind other : UInt8} {descriptor : List UInt8}
    (typed : descriptor[1]? = some other) :
    ofType kind [descriptor] = if other = kind then [descriptor] else [] := by
  simp only [ofType, List.filter_cons, List.filter_nil, typed, Option.some.injEq,
    decide_eq_true_eq]

/-- `body` is the section of the alternate-setting-zero interface `requested`, and nothing else in
the configuration claims that interface. -/
def IsSection (descriptors : List (List UInt8)) (requested : UInt8)
    (interface : InterfaceDescriptor) (body : List (List UInt8)) : Prop :=
  ∃ before head after, descriptors = before ++ head :: (body ++ after) ∧
    InterfaceDescriptor.parse head = .ok interface ∧
    interface.isRequested requested = true ∧
    (∀ descriptor ∈ body, ¬ IsInterface descriptor) ∧
    (∀ descriptor ∈ after.head?, IsInterface descriptor) ∧
    ∀ descriptor ∈ before ++ after, ¬ Claims requested descriptor

theorem IsSection.framed {descriptors body : List (List UInt8)} {requested : UInt8}
    {interface : InterfaceDescriptor} (isSection : IsSection descriptors requested interface body)
    (framed : ∀ descriptor ∈ descriptors, IsDescriptor descriptor) :
    ∀ descriptor ∈ body, IsDescriptor descriptor := by
  obtain ⟨before, head, after, rfl, -⟩ := isSection
  intro descriptor member
  exact framed descriptor (by simp [member])

theorem IsSection.alternateSetting {descriptors body : List (List UInt8)} {requested : UInt8}
    {interface : InterfaceDescriptor} (isSection : IsSection descriptors requested interface body) :
    interface.alternateSetting = 0 := by
  obtain ⟨-, -, -, -, -, isRequested, -⟩ := isSection
  exact (of_decide_eq_true isRequested).2

/-- A descriptor has a type. -/
theorem IsDescriptor.index_one (ε : Type) {descriptor : List UInt8}
    (isDescriptor : IsDescriptor descriptor) :
    ∃ kind, descriptor[1]? = some kind ∧ (index descriptor 1 : Checked ε UInt8) = .ok kind :=
  have long : 1 < descriptor.length := isDescriptor.1
  ⟨descriptor[1], List.getElem?_eq_getElem long, index_of_lt long⟩

namespace InterfaceScan

variable {ε σ : Type} {requested : UInt8} {error : ε}
  {inside : InterfaceDescriptor → σ → List UInt8 → Checked ε σ}

/-- The descriptors that follow do not belong to the requested interface. -/
def Outside (requested : UInt8) (current : Option InterfaceDescriptor) : Prop :=
  ∀ interface ∈ current, interface.isRequested requested = false

theorem claims_of_isInterface {descriptor : List UInt8} (isInterface : IsInterface descriptor) :
    (claims requested descriptor : Checked ε Bool) = .ok (decide (Claims requested descriptor)) := by
  by_cases long : 4 ≤ descriptor.length
  · have second : descriptor[2]? = some descriptor[2] := List.getElem?_eq_getElem _
    have third : descriptor[3]? = some descriptor[3] := List.getElem?_eq_getElem _
    rw [claims, andThen, decide_eq_true long, if_pos rfl, index_of_getElem? second,
      index_of_getElem? third]
    simp only [Claims, isInterface, second, third, andThen, ok_bind, pure_eq_ok, true_and,
      Option.some.injEq, decide_eq_true_eq, Bool.decide_and]
    split <;> simp_all
  · have missing : descriptor[3]? = none := List.getElem?_eq_none (by omega)
    simp [claims, andThen, long, Claims, missing]

/-- An interface descriptor replaces the current interface, or leaves none when it is malformed. -/
def currentAfter (current : Option InterfaceDescriptor) (descriptor : List UInt8) :
    Option InterfaceDescriptor :=
  if IsInterface descriptor then (InterfaceDescriptor.parse descriptor).toOption else current

theorem currentAfter_isInterface {current : Option InterfaceDescriptor} {descriptor : List UInt8}
    (isInterface : IsInterface descriptor) :
    currentAfter current descriptor = (InterfaceDescriptor.parse descriptor).toOption :=
  if_pos isInterface

/-- An interface descriptor that does not claim the interface leaves it. -/
theorem outside_of_unclaimed {descriptor : List UInt8} (isInterface : IsInterface descriptor)
    (unclaimed : ¬ Claims requested descriptor) :
    Outside requested (InterfaceDescriptor.parse descriptor).toOption := by
  intro interface parsed
  cases accepted : InterfaceDescriptor.parse descriptor with
  | error fault => simp [accepted, Except.toOption] at parsed
  | ok other =>
    rw [accepted] at parsed
    cases parsed
    obtain ⟨length, string, rfl⟩ := InterfaceDescriptor.parse_eq_ok.mp accepted
    simpa [Claims, IsInterface, InterfaceDescriptor.isRequested] using unclaimed

theorem outside_currentAfter {current : Option InterfaceDescriptor} {descriptor : List UInt8}
    (unclaimed : ¬ Claims requested descriptor) (outside : Outside requested current) :
    Outside requested (currentAfter current descriptor) := by
  rw [currentAfter]
  split
  next isInterface => exact outside_of_unclaimed isInterface unclaimed
  next => exact outside

theorem step_unclaimed_interface {descriptor : List UInt8} (scan : InterfaceScan σ)
    (isInterface : IsInterface descriptor) (unclaimed : ¬ Claims requested descriptor) :
    step requested error inside scan descriptor =
      .ok { scan with current := currentAfter scan.current descriptor } := by
  have outside := outside_of_unclaimed isInterface unclaimed
  rw [step, index_of_getElem? isInterface, ok_bind, if_pos rfl, interfaceBranch,
    currentAfter_isInterface isInterface]
  cases parsed : InterfaceDescriptor.parse descriptor with
  | error fault =>
    rw [InterfaceDescriptor.parse_eq_error parsed]
    simp only [claims_of_isInterface isInterface, decide_eq_false unclaimed, ok_bind,
      Bool.false_eq_true, if_false, pure_eq_ok, Except.toOption]
  | ok interface =>
    rw [parsed] at outside
    simp only [outside interface rfl, Bool.false_eq_true, if_false, pure_eq_ok, Except.toOption]

theorem step_outside {descriptor : List UInt8} {scan : InterfaceScan σ}
    (isDescriptor : IsDescriptor descriptor) (unclaimed : ¬ Claims requested descriptor)
    (outside : Outside requested scan.current) :
    step requested error inside scan descriptor =
      .ok { scan with current := currentAfter scan.current descriptor } := by
  by_cases isInterface : IsInterface descriptor
  · exact step_unclaimed_interface scan isInterface unclaimed
  · obtain ⟨kind, typed, read⟩ := isDescriptor.index_one ε
    have other : kind ≠ descriptorTypeInterface := by
      rintro rfl
      exact isInterface typed
    rw [step, read, ok_bind, if_neg other, currentAfter, if_neg isInterface]
    split
    next => rfl
    next interface current =>
      simp only [outside interface current, Bool.false_eq_true, if_false, pure_eq_ok]

/-- **Outside the section, a pass changes nothing but the current interface.** -/
theorem foldlM_step_outside {descriptors : List (List UInt8)} {scan : InterfaceScan σ}
    (framed : ∀ descriptor ∈ descriptors, IsDescriptor descriptor)
    (unclaimed : ∀ descriptor ∈ descriptors, ¬ Claims requested descriptor)
    (outside : Outside requested scan.current) :
    descriptors.foldlM (step requested error inside) scan =
      .ok { scan with current := descriptors.foldl currentAfter scan.current } := by
  induction descriptors generalizing scan with
  | nil => rfl
  | cons descriptor others ih =>
    have first := unclaimed descriptor List.mem_cons_self
    rw [List.foldlM_cons, step_outside (framed descriptor List.mem_cons_self) first outside,
      ok_bind, ih (fun other member => framed other (List.mem_cons_of_mem _ member))
        (fun other member => unclaimed other (List.mem_cons_of_mem _ member))
        (outside_currentAfter first outside), List.foldl_cons]

/-- Inside the section, a pass is the class's handler. -/
theorem foldlM_step_inside {body : List (List UInt8)} {interface : InterfaceDescriptor}
    {selected : Option InterfaceDescriptor} {found : σ}
    (isRequested : interface.isRequested requested = true)
    (framed : ∀ descriptor ∈ body, IsDescriptor descriptor)
    (plain : ∀ descriptor ∈ body, ¬ IsInterface descriptor) :
    body.foldlM (step requested error inside) ⟨some interface, selected, found⟩ =
      (do return ⟨some interface, selected, ← body.foldlM (inside interface) found⟩) := by
  induction body generalizing found with
  | nil => rfl
  | cons descriptor others ih =>
    obtain ⟨kind, typed, read⟩ := (framed descriptor List.mem_cons_self).index_one ε
    have other : kind ≠ descriptorTypeInterface := by
      rintro rfl
      exact plain descriptor List.mem_cons_self typed
    have steps : step requested error inside ⟨some interface, selected, found⟩ descriptor =
        (do return ⟨some interface, selected, ← inside interface found descriptor⟩) := by
      simp only [step, read, ok_bind, other, if_false, isRequested, if_true]
    rw [List.foldlM_cons, steps, List.foldlM_cons]
    cases inside interface found descriptor with
    | error fault => rfl
    | ok next =>
      simp only [ok_bind, pure_eq_ok]
      rw [ih (fun other member => framed other (List.mem_cons_of_mem _ member))
        (fun other member => plain other (List.mem_cons_of_mem _ member))]
      rfl

/-- **The pass over a configuration is the pass over the requested section.** -/
theorem foldlM_step_section {descriptors body : List (List UInt8)}
    {interface : InterfaceDescriptor} (error : ε)
    (inside : InterfaceDescriptor → σ → List UInt8 → Checked ε σ) (init : σ)
    (isSection : IsSection descriptors requested interface body)
    (framed : ∀ descriptor ∈ descriptors, IsDescriptor descriptor) :
    ∃ current, descriptors.foldlM (step requested error inside) ⟨none, none, init⟩ =
      (do return ⟨current, some interface, ← body.foldlM (inside interface) init⟩) := by
  obtain ⟨before, head, after, rfl, parsed, isRequested, plain, bounded, unclaimed⟩ := isSection
  simp only [List.mem_append, List.mem_cons] at framed unclaimed
  -- up to the interface descriptor nothing is selected
  have reaches : before.foldlM (step requested error inside) ⟨none, none, init⟩ =
      .ok ⟨before.foldl currentAfter none, none, init⟩ :=
    foldlM_step_outside (fun descriptor member => framed descriptor (.inl member))
      (fun descriptor member => unclaimed descriptor (.inl member)) (by rintro _ ⟨⟩)
  have isInterface : head[1]? = some descriptorTypeInterface := by
    obtain ⟨length, string, rfl⟩ := InterfaceDescriptor.parse_eq_ok.mp parsed
    rfl
  have selects (current : Option InterfaceDescriptor) :
      step requested error inside ⟨current, none, init⟩ head =
        .ok ⟨some interface, some interface, init⟩ := by
    rw [step, index_of_getElem? isInterface, ok_bind, if_pos rfl, interfaceBranch, parsed]
    simp only [isRequested, if_true, Option.isSome_none, Bool.false_eq_true, if_false, pure_eq_ok]
  -- after the section, the next interface descriptor leaves it
  have leaves (found : σ) :
      after.foldlM (step requested error inside) ⟨some interface, some interface, found⟩ =
        .ok ⟨after.foldl currentAfter (some interface), some interface, found⟩ := by
    cases after with
    | nil => rfl
    | cons next others =>
      have nextInterface := bounded next rfl
      have nextUnclaimed := unclaimed next (.inr List.mem_cons_self)
      rw [List.foldlM_cons, step_unclaimed_interface _ nextInterface nextUnclaimed, ok_bind,
        foldlM_step_outside (fun other member => framed other (by simp [member]))
          (fun other member => unclaimed other (by simp [member]))
          (by
            rw [currentAfter_isInterface nextInterface]
            exact outside_of_unclaimed nextInterface nextUnclaimed), List.foldl_cons]
  refine ⟨after.foldl currentAfter (some interface), ?_⟩
  rw [foldlM_append_ok reaches, List.foldlM_cons, selects, ok_bind, List.foldlM_append,
    foldlM_step_inside isRequested (fun descriptor member => framed descriptor (by simp [member]))
      plain]
  cases body.foldlM (inside interface) init with
  | error fault => rfl
  | ok found => exact leaves found

end InterfaceScan

end PioUsbHost.Usb
