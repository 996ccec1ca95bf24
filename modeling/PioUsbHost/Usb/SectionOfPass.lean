/-
**What a successful pass says about the configuration.**

A pass that returns with the requested interface selected has gone over a well-framed configuration in
which one descriptor claims that interface, and its findings are those of that interface's section.

* `wellFramed_of_forDescriptors`: a loop that returns has seen no framing error.
* `foldlM_step_inversion`: the pass is the pass over the section, or nothing claims the interface.
* `section_of_pass`: both for a pass over the bytes.
-/

import PioUsbHost.Usb.Framing
import PioUsbHost.Usb.InterfaceScan

namespace PioUsbHost.Usb

open PioUsbHost.Lib.Panic

variable {ε σ : Type}

/-! ### Framing -/

/-- A loop over items that returns has seen descriptors only. -/
theorem items_of_foldlM {into : ConfigurationError → ε} {step : σ → List UInt8 → Checked ε σ}
    {items : List DescriptorIter.Item} {start stop : σ}
    (runs : items.foldlM (fun state item => do step state (← convert into item)) start = .ok stop) :
    ∃ descriptors : List (List UInt8), items = descriptors.map .ok ∧
      descriptors.foldlM step start = .ok stop := by
  induction items generalizing start with
  | nil => exact ⟨[], rfl, runs⟩
  | cons item rest ih =>
    rw [List.foldlM_cons] at runs
    obtain ⟨next, stepped, runs⟩ := bind_eq_ok.mp runs
    obtain ⟨descriptor, converted, stepped⟩ := bind_eq_ok.mp stepped
    obtain ⟨others, rfl, onward⟩ := ih runs
    refine ⟨descriptor :: others, by rw [convert_eq_ok.mp converted, List.map_cons], ?_⟩
    rw [List.foldlM_cons, stepped, ok_bind, onward]

/-- **A loop that returns** has gone over a well-framed configuration. -/
theorem wellFramed_of_forDescriptors {into : ConfigurationError → ε} {bytes : List UInt8}
    {step : σ → List UInt8 → Checked ε σ} {start stop : σ}
    (runs : forDescriptors into bytes step start = .ok stop) :
    ∃ header descriptors, WellFramed bytes header descriptors ∧
      descriptors.foldlM step start = .ok stop := by
  obtain ⟨iter, created, runs⟩ := bind_eq_ok.mp runs
  obtain ⟨descriptors, items, runs⟩ := items_of_foldlM runs
  obtain ⟨header, wellFramed⟩ := items_wellFramed (convert_eq_ok.mp created) items
  exact ⟨header, descriptors, wellFramed, runs⟩

/-- A configuration has one header and one list of descriptors. -/
theorem WellFramed.unique {bytes : List UInt8} {header other : ConfigurationDescriptorHeader}
    {descriptors others : List (List UInt8)} (first : WellFramed bytes header descriptors)
    (second : WellFramed bytes other others) : header = other ∧ descriptors = others := by
  cases first.parsed.symm.trans second.parsed
  have cut := DescriptorIter.cut_flatten first.framed
  have cut' := DescriptorIter.cut_flatten second.framed
  rw [← first.tiled] at cut
  rw [← second.tiled] at cut'
  exact ⟨rfl, (cut.unique DescriptorIter.takesFront cut').1⟩

/-! ### Sections -/

namespace InterfaceScan

variable {requested : UInt8} {error : ε}
  {inside : InterfaceDescriptor → σ → List UInt8 → Checked ε σ}

theorem isRequested_of_claims {descriptor : List UInt8} {interface : InterfaceDescriptor}
    (claimed : Claims requested descriptor)
    (parsed : InterfaceDescriptor.parse descriptor = .ok interface) :
    interface.isRequested requested = true := by
  obtain ⟨length, string, rfl⟩ := InterfaceDescriptor.parse_eq_ok.mp parsed
  obtain ⟨-, number, alternate⟩ := claimed
  simp only [InterfaceDescriptor.isRequested, decide_eq_true_eq]
  exact ⟨Option.some.inj number, Option.some.inj alternate⟩

/-- A descriptor that claims the interface selects it, once. -/
theorem step_of_claims {descriptor : List UInt8} (claimed : Claims requested descriptor)
    {scan next : InterfaceScan σ} (stepped : step requested error inside scan descriptor = .ok next) :
    scan.selected = none ∧ ∃ interface, InterfaceDescriptor.parse descriptor = .ok interface ∧
      interface.isRequested requested = true ∧
      next = { scan with current := some interface, selected := some interface } := by
  rw [step, index_of_getElem? claimed.1, ok_bind, if_pos rfl, interfaceBranch] at stepped
  cases parsed : InterfaceDescriptor.parse descriptor with
  | error fault =>
    rw [parsed, InterfaceDescriptor.parse_eq_error parsed] at stepped
    simp only [claims_of_isInterface claimed.1, decide_eq_true claimed, ok_bind, if_true, fail_bind,
      fail_ne_ok] at stepped
  | ok interface =>
    have isRequested := isRequested_of_claims claimed parsed
    rw [parsed] at stepped
    simp only [isRequested, if_true] at stepped
    split at stepped
    · exact absurd stepped (fail_ne_ok _ _)
    next unselected =>
      cases stepped
      refine ⟨?_, interface, rfl, isRequested, rfl⟩
      exact Option.not_isSome_iff_eq_none.mp unselected

/-- The first descriptor of a list that claims the interface, if any does. -/
theorem first_claim (requested : UInt8) (descriptors : List (List UInt8)) :
    (∀ descriptor ∈ descriptors, ¬ Claims requested descriptor) ∨
      ∃ before head after, descriptors = before ++ head :: after ∧ Claims requested head ∧
        ∀ descriptor ∈ before, ¬ Claims requested descriptor := by
  induction descriptors with
  | nil => exact .inl nofun
  | cons descriptor others ih =>
    by_cases claimed : Claims requested descriptor
    · exact .inr ⟨[], descriptor, others, rfl, claimed, nofun⟩
    rcases ih with none | ⟨before, head, after, rfl, claims, first⟩
    · left
      rintro other (_ | ⟨_, member⟩)
      · exact claimed
      · exact none other member
    · refine .inr ⟨descriptor :: before, head, after, rfl, claims, ?_⟩
      rintro other (_ | ⟨_, member⟩)
      · exact claimed
      · exact first other member

/-- Once the interface is selected and left, a pass that returns finds no other claim. -/
theorem unclaimed_of_foldlM {descriptors : List (List UInt8)} {scan stop : InterfaceScan σ}
    (framed : ∀ descriptor ∈ descriptors, IsDescriptor descriptor)
    (selected : scan.selected.isSome) (outside : Outside requested scan.current)
    (runs : descriptors.foldlM (step requested error inside) scan = .ok stop) :
    ∀ descriptor ∈ descriptors, ¬ Claims requested descriptor := by
  rcases first_claim requested descriptors with unclaimed | ⟨before, head, after, rfl, claims, first⟩
  · exact unclaimed
  · have reaches : before.foldlM (step requested error inside) scan = .ok _ := foldlM_step_outside
      (fun descriptor member => framed descriptor (List.mem_append_left _ member)) first outside
    rw [foldlM_append_ok reaches, List.foldlM_cons] at runs
    obtain ⟨next, stepped, -⟩ := bind_eq_ok.mp runs
    have unselected := (step_of_claims claims stepped).1
    rw [unselected] at selected
    cases selected

/-- A section's body ends before the next interface descriptor. -/
theorem section_split (tail : List (List UInt8)) :
    ∃ body after, tail = body ++ after ∧ (∀ descriptor ∈ body, ¬ IsInterface descriptor) ∧
      ∀ descriptor ∈ after.head?, IsInterface descriptor := by
  induction tail with
  | nil => exact ⟨[], [], rfl, nofun, nofun⟩
  | cons first rest ih =>
    by_cases isInterface : IsInterface first
    · refine ⟨[], first :: rest, rfl, nofun, ?_⟩
      rintro _ ⟨⟩
      exact isInterface
    · obtain ⟨body, after, rfl, plain, bounded⟩ := ih
      refine ⟨first :: body, after, rfl, ?_, bounded⟩
      intro descriptor member
      rcases List.mem_cons.mp member with rfl | member
      · exact isInterface
      · exact plain descriptor member

/-- What follows the section claims nothing and changes no findings. -/
theorem afterSection_of_foldlM {after : List (List UInt8)} {scan stop : InterfaceScan σ}
    (framed : ∀ descriptor ∈ after, IsDescriptor descriptor)
    (bounded : ∀ descriptor ∈ after.head?, IsInterface descriptor)
    (selected : scan.selected.isSome)
    (runs : after.foldlM (step requested error inside) scan = .ok stop) :
    (∀ descriptor ∈ after, ¬ Claims requested descriptor) ∧ stop.selected = scan.selected ∧
      stop.found = scan.found := by
  cases after with
  | nil =>
    cases runs
    exact ⟨nofun, rfl, rfl⟩
  | cons next others =>
    have isInterface := bounded next rfl
    have framedOthers : ∀ descriptor ∈ others, IsDescriptor descriptor :=
      fun descriptor member => framed descriptor (List.mem_cons_of_mem _ member)
    rw [List.foldlM_cons] at runs
    obtain ⟨left, stepped, runs⟩ := bind_eq_ok.mp runs
    have unclaimed : ¬ Claims requested next := by
      intro claims
      rw [(step_of_claims claims stepped).1] at selected
      cases selected
    rw [step_unclaimed_interface scan isInterface unclaimed] at stepped
    cases stepped
    have outside : Outside requested (currentAfter scan.current next) := by
      rw [currentAfter_isInterface isInterface]
      exact outside_of_unclaimed isInterface unclaimed
    have othersUnclaimed : ∀ descriptor ∈ others, ¬ Claims requested descriptor := by
      refine unclaimed_of_foldlM framedOthers ?_ ?_ runs
      · exact selected
      · exact outside
    rw [foldlM_step_outside framedOthers othersUnclaimed outside] at runs
    cases runs
    refine ⟨?_, rfl, rfl⟩
    rintro descriptor (_ | ⟨_, member⟩)
    · exact unclaimed
    · exact othersUnclaimed descriptor member

/-- **What a pass that selects the interface has gone over.** -/
theorem foldlM_step_inversion {descriptors : List (List UInt8)} {init : σ}
    {stop : InterfaceScan σ} {interface : InterfaceDescriptor}
    (framed : ∀ descriptor ∈ descriptors, IsDescriptor descriptor)
    (runs : descriptors.foldlM (step requested error inside) ⟨none, none, init⟩ = .ok stop)
    (selected : stop.selected = some interface) :
    ∃ body, IsSection descriptors requested interface body ∧
      body.foldlM (inside interface) init = .ok stop.found := by
  have nothing : Outside requested (none : Option InterfaceDescriptor) := nofun
  rcases first_claim requested descriptors with unclaimed | ⟨before, head, tail, rfl, claims, first⟩
  · rw [foldlM_step_outside framed unclaimed nothing] at runs
    cases runs
    cases selected
  have framedBefore : ∀ descriptor ∈ before, IsDescriptor descriptor :=
    fun descriptor member => framed descriptor (List.mem_append_left _ member)
  have framedTail : ∀ descriptor ∈ tail, IsDescriptor descriptor :=
    fun descriptor member => framed descriptor (by simp [member])
  -- the claiming descriptor selects the interface
  have reaches : before.foldlM (step requested error inside) ⟨none, none, init⟩ = .ok _ :=
    foldlM_step_outside framedBefore first nothing
  rw [foldlM_append_ok reaches, List.foldlM_cons] at runs
  obtain ⟨entered, stepped, runs⟩ := bind_eq_ok.mp runs
  obtain ⟨-, found, parsed, isRequested, rfl⟩ := step_of_claims claims stepped
  -- its section ends at the next interface descriptor
  obtain ⟨body, after, rfl, plain, bounded⟩ := section_split tail
  have framedBody : ∀ descriptor ∈ body, IsDescriptor descriptor :=
    fun descriptor member => framedTail descriptor (List.mem_append_left _ member)
  rw [List.foldlM_append, foldlM_step_inside isRequested framedBody plain] at runs
  obtain ⟨left, returned, runs⟩ := bind_eq_ok.mp runs
  obtain ⟨findings, collected, same⟩ := bind_eq_ok.mp returned
  cases same
  obtain ⟨last, kept, same⟩ := afterSection_of_foldlM
    (fun descriptor member => framedTail descriptor (List.mem_append_right _ member)) bounded rfl runs
  rw [selected] at kept
  cases kept
  refine ⟨body, ⟨before, head, after, rfl, parsed, isRequested, plain, bounded, ?_⟩, ?_⟩
  · intro descriptor member
    rcases List.mem_append.mp member with earlier | later
    · exact first descriptor earlier
    · exact last descriptor later
  · rw [same]
    exact collected

/-- **What a pass over the bytes that selects the interface says about them.** -/
theorem section_of_pass {into : ConfigurationError → ε} {bytes : List UInt8} {init : σ}
    {scan : InterfaceScan σ} {interface : InterfaceDescriptor}
    (scanned : forDescriptors into bytes (step requested error inside) ⟨none, none, init⟩ = .ok scan)
    (selected : scan.selected = some interface) :
    ∃ header descriptors body, WellFramed bytes header descriptors ∧
      IsSection descriptors requested interface body ∧
      body.foldlM (inside interface) init = .ok scan.found := by
  obtain ⟨header, descriptors, wellFramed, runs⟩ := wellFramed_of_forDescriptors scanned
  obtain ⟨body, isSection, collected⟩ := foldlM_step_inversion wellFramed.framed runs selected
  exact ⟨header, descriptors, body, wellFramed, isSection, collected⟩

end InterfaceScan

end PioUsbHost.Usb
