/-
**Two configurations that differ outside some interfaces.**

A pass for one interface reads a descriptor's type everywhere, interface descriptors, and the
descriptors in the section of that interface. `AgreeOn` compares two configurations on no more than
that: the same boundaries, the same types, the same interface descriptors, and equal descriptors
while the current interface is relevant.

* `AgreeOn.foldlM_step_eq`: a pass for a relevant interface gives the same on both.
* `sectionOf_of_isSection`: the section of an interface, cut out of all descriptors.
-/

import PioUsbHost.Usb.SectionOfPass

namespace PioUsbHost.Usb

open PioUsbHost.Lib.Panic

/-! ### The items of two configurations -/

/-- What a configuration is cut into, or nothing if its header is not accepted. -/
def itemsOf (bytes : List UInt8) : List DescriptorIter.Item :=
  match DescriptorIter.new bytes with
  | .ok iter => iter.items
  | .error _ => []

/-- The descriptors have the same boundaries and the same types. They are equal if they are interface
descriptors, or in the section of a relevant interface. -/
def AgreeOn (relevant : InterfaceDescriptor → Bool) :
    Option InterfaceDescriptor → List DescriptorIter.Item → List DescriptorIter.Item → Prop
  | _, [], [] => True
  | current, .ok descriptor :: rest, .ok other :: others =>
    (descriptor.length = other.length ∧ descriptor[1]? = other[1]? ∧
      (IsInterface descriptor ∨ current.any relevant = true → descriptor = other)) ∧
    AgreeOn relevant (InterfaceScan.currentAfter current descriptor) rest others
  | _, .error fault :: _, .error other :: _ => fault = other
  | _, _, _ => False

instance decidableAgreeOn (relevant : InterfaceDescriptor → Bool) :
    ∀ current items others, Decidable (AgreeOn relevant current items others)
  | _, [], [] => inferInstanceAs (Decidable True)
  | current, .ok descriptor :: rest, .ok _ :: others =>
    have := decidableAgreeOn relevant (InterfaceScan.currentAfter current descriptor) rest others
    inferInstanceAs (Decidable (_ ∧ _))
  | _, .error _ :: _, .error _ :: _ => inferInstanceAs (Decidable (_ = _))
  | _, [], _ :: _ => inferInstanceAs (Decidable False)
  | _, .ok _ :: _, [] | _, .error _ :: _, [] => inferInstanceAs (Decidable False)
  | _, .ok _ :: _, .error _ :: _ => inferInstanceAs (Decidable False)
  | _, .error _ :: _, .ok _ :: _ => inferInstanceAs (Decidable False)

/-- Two configurations of the same length with the same header, which agree on what is relevant. -/
structure Alike (relevant : InterfaceDescriptor → Bool) (first second : List UInt8) : Prop where
  lengths : first.length = second.length
  header : first.take 9 = second.take 9
  agree : AgreeOn relevant none (itemsOf first) (itemsOf second)

variable {ε σ : Type} {relevant : InterfaceDescriptor → Bool} {requested : UInt8} {error : ε}
  {inside : InterfaceDescriptor → σ → List UInt8 → Checked ε σ}

/-- **The cases of an agreement.** -/
theorem AgreeOn.cases {current : Option InterfaceDescriptor} {items others : List DescriptorIter.Item}
    (agree : AgreeOn relevant current items others) :
    (items = [] ∧ others = []) ∨
      (∃ descriptor other rest rest', items = .ok descriptor :: rest ∧ others = .ok other :: rest' ∧
        descriptor[1]? = other[1]? ∧
        (IsInterface descriptor ∨ current.any relevant = true → descriptor = other) ∧
        AgreeOn relevant (InterfaceScan.currentAfter current descriptor) rest rest') ∨
      ∃ fault rest rest', items = .error fault :: rest ∧ others = .error fault :: rest' := by
  match items, others with
  | [], [] => exact .inl ⟨rfl, rfl⟩
  | .ok descriptor :: rest, .ok other :: rest' =>
    obtain ⟨⟨-, typed, equal⟩, tail⟩ := agree
    exact .inr (.inl ⟨descriptor, other, rest, rest', rfl, rfl, typed, equal, tail⟩)
  | .error fault :: rest, .error other :: rest' =>
    obtain rfl : fault = other := agree
    exact .inr (.inr ⟨fault, rest, rest', rfl, rfl⟩)

/-- The iterators are created alike. -/
theorem Alike.new {first second : List UInt8} (alike : Alike relevant first second) :
    (∃ fault, DescriptorIter.new first = .error fault ∧ DescriptorIter.new second = .error fault) ∨
      ∃ iter other, DescriptorIter.new first = .ok iter ∧ DescriptorIter.new second = .ok other ∧
        AgreeOn relevant none iter.items other.items := by
  have agree := alike.agree
  have parsed := ConfigurationDescriptorHeader.parse_congr alike.header
  cases accepted : ConfigurationDescriptorHeader.parse first with
  | error fault =>
    left
    refine ⟨fault, ?_, ?_⟩
    · rw [DescriptorIter.new, accepted, error_bind]
    · rw [DescriptorIter.new, ← parsed, accepted, error_bind]
  | ok header =>
    have creates : ∀ bytes : List UInt8, ConfigurationDescriptorHeader.parse bytes = .ok header →
        DescriptorIter.new bytes = if bytes.length < header.totalLength.toNat then
          fail .descriptorOverrun else .ok ⟨bytes, 0, header.totalLength.toNat, false⟩ := by
      intro bytes accepts
      rw [DescriptorIter.new, accepts, ok_bind]
      dsimp only
      split <;> rfl
    have created := creates first accepted
    have created' := creates second (parsed ▸ accepted)
    rw [← alike.lengths] at created'
    by_cases short : first.length < header.totalLength.toNat
    · rw [if_pos short] at created created'
      exact .inl ⟨_, created, created'⟩
    · rw [if_neg short] at created created'
      rw [itemsOf, itemsOf, created, created'] at agree
      exact .inr ⟨_, _, created, created', agree⟩

/-! ### A pass -/

namespace InterfaceScan

/-- A step moves the current interface as `currentAfter` says. -/
theorem current_of_step {scan next : InterfaceScan σ} {descriptor : List UInt8}
    (stepped : step requested error inside scan descriptor = .ok next) :
    next.current = currentAfter scan.current descriptor := by
  obtain ⟨kind, read, stepped⟩ := bind_eq_ok.mp stepped
  have typed := index_eq_ok.mp read
  split at stepped
  next isInterface =>
    subst isInterface
    rw [currentAfter_isInterface typed]
    rw [interfaceBranch] at stepped
    cases parsed : InterfaceDescriptor.parse descriptor with
    | error fault =>
      rw [parsed, InterfaceDescriptor.parse_eq_error parsed] at stepped
      obtain ⟨claimed, -, stepped⟩ := bind_eq_ok.mp stepped
      split at stepped
      · exact absurd stepped (fail_ne_ok _ _)
      · cases stepped
        rfl
    | ok interface =>
      rw [parsed] at stepped
      simp only at stepped
      split at stepped
      · split at stepped
        · exact absurd stepped (fail_ne_ok _ _)
        · cases stepped
          rfl
      · cases stepped
        rfl
  next other =>
    have plain : ¬ IsInterface descriptor := fun isInterface =>
      other (Option.some.inj (typed.symm.trans isInterface))
    rw [currentAfter, if_neg plain]
    split at stepped
    next same =>
      cases stepped
      rfl
    next interface same =>
      split at stepped
      · obtain ⟨found, -, stepped⟩ := bind_eq_ok.mp stepped
        cases stepped
        rfl
      · cases stepped
        rfl

/-- Outside the section, a step looks at the type only. -/
theorem step_eq_of_not_isInterface {scan : InterfaceScan σ} {descriptor other : List UInt8}
    (typed : descriptor[1]? = other[1]?) (plain : ¬ IsInterface descriptor)
    (outside : Outside requested scan.current) :
    step requested error inside scan descriptor = step requested error inside scan other := by
  rw [step, step, index, index, ← typed]
  cases read : descriptor[1]? with
  | none => rfl
  | some kind =>
    have notInterface : kind ≠ descriptorTypeInterface := by
      rintro rfl
      exact plain read
    simp only [ok_bind, if_neg notInterface]
    split
    · rfl
    next interface current => simp only [outside interface current, Bool.false_eq_true, if_false]

end InterfaceScan

/-- **A pass for a relevant interface** gives the same on both configurations. -/
theorem AgreeOn.foldlM_step_eq {into : ConfigurationError → ε}
    (covered : ∀ interface : InterfaceDescriptor,
      interface.isRequested requested = true → relevant interface = true)
    {items others : List DescriptorIter.Item} {scan : InterfaceScan σ}
    (agree : AgreeOn relevant scan.current items others) :
    items.foldlM (fun state item => do
        InterfaceScan.step requested error inside state (← convert into item)) scan =
      others.foldlM (fun state item => do
        InterfaceScan.step requested error inside state (← convert into item)) scan := by
  induction items generalizing others scan with
  | nil =>
    rcases agree.cases with ⟨-, rfl⟩ | ⟨_, _, _, _, same, -⟩ | ⟨_, _, _, same, -⟩
    · rfl
    · cases same
    · cases same
  | cons item rest ih =>
    rcases agree.cases with ⟨same, -⟩ | ⟨descriptor, other, _, rest', same, rfl, typed, equal, tail⟩ |
      ⟨fault, _, rest', same, rfl⟩
    · cases same
    · cases same
      have steps : InterfaceScan.step requested error inside scan descriptor =
          InterfaceScan.step requested error inside scan other := by
        by_cases looked : IsInterface descriptor ∨ scan.current.any relevant = true
        · rw [equal looked]
        · rw [not_or] at looked
          refine InterfaceScan.step_eq_of_not_isInterface typed looked.1 ?_
          intro interface current
          refine Bool.eq_false_iff.mpr fun isRequested => looked.2 ?_
          exact (Option.any_eq_true _ _).mpr ⟨interface, current, covered interface isRequested⟩
      rw [List.foldlM_cons, List.foldlM_cons, convert, ok_bind, convert, ok_bind, ← steps]
      cases stepped : InterfaceScan.step requested error inside scan descriptor with
      | error fault => rfl
      | ok next =>
        rw [ok_bind, ok_bind]
        apply ih
        rw [InterfaceScan.current_of_step stepped]
        exact tail
    · cases same
      rw [List.foldlM_cons, List.foldlM_cons]
      cases fault <;> rfl

/-- The same over the bytes. -/
theorem Alike.forDescriptors_eq {first second : List UInt8} (alike : Alike relevant first second)
    (covered : ∀ interface : InterfaceDescriptor,
      interface.isRequested requested = true → relevant interface = true)
    (into : ConfigurationError → ε) (init : σ) :
    forDescriptors into first (InterfaceScan.step requested error inside) ⟨none, none, init⟩ =
      forDescriptors into second (InterfaceScan.step requested error inside) ⟨none, none, init⟩ := by
  rcases alike.new with ⟨fault, fails, fails'⟩ | ⟨iter, other, created, created', agree⟩
  · rw [forDescriptors, forDescriptors, fails, fails']
  · rw [forDescriptors, forDescriptors, created, created', convert, ok_bind, convert, ok_bind]
    exact AgreeOn.foldlM_step_eq covered agree

/-! ### A section, cut out -/

/-- The descriptors that follow a descriptor of the requested interface and alternate setting 0, each
up to the next interface descriptor. -/
def sectionOf (requested : UInt8) :
    Option InterfaceDescriptor → List (List UInt8) → List (List UInt8)
  | _, [] => []
  | current, descriptor :: rest =>
    let others := sectionOf requested (InterfaceScan.currentAfter current descriptor) rest
    if ¬ IsInterface descriptor ∧ current.any (·.isRequested requested) = true then
      descriptor :: others
    else others

section SectionOf

variable {descriptors body : List (List UInt8)} {interface : InterfaceDescriptor}

/-- Nothing is cut out of descriptors that do not claim the interface. -/
theorem sectionOf_outside {current : Option InterfaceDescriptor}
    (unclaimed : ∀ descriptor ∈ descriptors, ¬ Claims requested descriptor)
    (outside : InterfaceScan.Outside requested current) (others : List (List UInt8)) :
    sectionOf requested current (descriptors ++ others) =
      sectionOf requested (descriptors.foldl InterfaceScan.currentAfter current) others := by
  induction descriptors generalizing current with
  | nil => rfl
  | cons descriptor rest ih =>
    have away : ¬ current.any (·.isRequested requested) = true := by
      rw [Option.any_eq_true]
      rintro ⟨interface, present, isRequested⟩
      rw [outside interface present] at isRequested
      cases isRequested
    rw [List.cons_append, sectionOf, if_neg fun both => away both.2, List.foldl_cons]
    exact ih (fun other member => unclaimed other (List.mem_cons_of_mem _ member))
      (InterfaceScan.outside_currentAfter (unclaimed descriptor List.mem_cons_self) outside)

/-- All of the section is cut out. -/
theorem sectionOf_inside (isRequested : interface.isRequested requested = true)
    (plain : ∀ descriptor ∈ body, ¬ IsInterface descriptor) (others : List (List UInt8)) :
    sectionOf requested (some interface) (body ++ others) =
      body ++ sectionOf requested (some interface) others := by
  induction body with
  | nil => rfl
  | cons descriptor rest ih =>
    have here := plain descriptor List.mem_cons_self
    rw [List.cons_append, sectionOf, if_pos ⟨here, isRequested⟩, InterfaceScan.currentAfter,
      if_neg here, ih fun other member => plain other (List.mem_cons_of_mem _ member)]
    rfl

/-- **The section of an interface**, cut out of all descriptors. -/
theorem sectionOf_of_isSection (isSection : IsSection descriptors requested interface body) :
    sectionOf requested none descriptors = body := by
  obtain ⟨before, head, after, rfl, parsed, isRequested, plain, bounded, unclaimed⟩ := isSection
  have isInterface : IsInterface head := by
    obtain ⟨length, string, rfl⟩ := InterfaceDescriptor.parse_eq_ok.mp parsed
    rfl
  have entered : InterfaceScan.currentAfter
      (before.foldl InterfaceScan.currentAfter none) head = some interface := by
    rw [InterfaceScan.currentAfter_isInterface isInterface, parsed]
    rfl
  have nothing : InterfaceScan.Outside requested (none : Option InterfaceDescriptor) := nofun
  rw [sectionOf_outside (fun other member => unclaimed other (List.mem_append_left _ member)) nothing,
    sectionOf, if_neg fun both => both.1 isInterface, entered, sectionOf_inside isRequested plain]
  suffices ended : sectionOf requested (some interface) after = [] by
    rw [ended, List.append_nil]
  cases after with
  | nil => rfl
  | cons next others =>
    have nextInterface := bounded next rfl
    have unclaimedNext : ¬ Claims requested next :=
      unclaimed next (List.mem_append_right _ List.mem_cons_self)
    rw [sectionOf, if_neg fun both => both.1 nextInterface,
      InterfaceScan.currentAfter_isInterface nextInterface, ← List.append_nil others]
    refine sectionOf_outside ?_ (InterfaceScan.outside_of_unclaimed nextInterface unclaimedNext) []
    intro other member
    exact unclaimed other (List.mem_append_right _ (List.mem_cons_of_mem _ member))

end SectionOf

end PioUsbHost.Usb
