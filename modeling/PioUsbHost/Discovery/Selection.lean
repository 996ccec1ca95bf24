/-
**The iterator, the first match and the explicit selection agree.**

* `found_unique`: a valid function is the section of the one descriptor that claims its interface.
* `mem_collect_iff`: the iterator yields a valid function exactly when the explicit selection of its
  interface finds it.
* `entries_ordered`: the valid functions come in the order of their interface descriptors, so none comes
  twice.
* `firstValid_eq_ok`, `firstValid_eq_error`: the first match is the first valid item, or else the
  first error.
-/

import PioUsbHost.Cdc.Inversion
import PioUsbHost.Discovery.Untrusted
import PioUsbHost.Usb.SectionOfPass

namespace PioUsbHost

open PioUsbHost.Lib PioUsbHost.Lib.Panic PioUsbHost.Lib.Calls PioUsbHost.Usb

/-! ### Where interfaces appear -/

/-- Where the alternate-setting-zero descriptor of an interface first appears. -/
def firstAppearance (bytes : List UInt8) (interface : UInt8) : Nat :=
  (descriptorsOf bytes).findIdx fun descriptor => Claims interface descriptor

/-- The three ways to discover a function of one class give matching answers. -/
structure PathsAgree {ι ε α : Type} (new : List UInt8 → Checked ε ι) (next : Next ι (Checked ε α))
    (discover : List UInt8 → Checked ε α) (explicit : List UInt8 → UInt8 → Checked ε α)
    (numberOf : α → UInt8) (missing : ε) (bytes : List UInt8) : Prop where
  /-- Without an iterator all report the same. -/
  rejected : ∀ fault, new bytes = .error fault →
    discover bytes = .error fault ∧ ∀ interface, explicit bytes interface = .error fault
  explicit_iff : ∀ iter, new bytes = .ok iter → ∀ calls, wTotalLength bytes < calls →
    ∀ interface found, explicit bytes interface = .ok found ↔
      .ok found ∈ collect next calls iter ∧ numberOf found = interface
  once : ∀ iter, new bytes = .ok iter → ∀ calls, wTotalLength bytes < calls →
    (collect next calls iter).Pairwise fun first second => ∀ found other,
      first = .ok found → second = .ok other → numberOf found ≠ numberOf other
  ordered : ∀ iter, new bytes = .ok iter → ∀ calls, wTotalLength bytes < calls →
    (collect next calls iter).Pairwise fun first second => ∀ found other,
      first = .ok found → second = .ok other →
        firstAppearance bytes (numberOf found) < firstAppearance bytes (numberOf other)
  discover_isOk : (∃ found, discover bytes = .ok found) ↔
    ∃ interface found, explicit bytes interface = .ok found
  discover_ok : ∀ iter, new bytes = .ok iter → ∀ calls, wTotalLength bytes < calls →
    ∀ found, discover bytes = .ok found ↔
      ∃ before after, collect next calls iter = before ++ .ok found :: after ∧
        ∀ other, .ok other ∉ before
  discover_error : ∀ iter, new bytes = .ok iter → ∀ calls, wTotalLength bytes < calls →
    ∀ fault, discover bytes = .error fault ↔
      (∀ other, .ok other ∉ collect next calls iter) ∧
        ((collect next calls iter).head? = some (.error fault) ∨
          collect next calls iter = [] ∧ fault = .error missing)

namespace Usb.CandidateClass

variable {ε α : Type} {class_ : CandidateClass ε α} {numberOf : α → UInt8} {bytes : List UInt8}

/-- What a class's validation says about the configuration. -/
structure Selects (class_ : CandidateClass ε α) (numberOf : α → UInt8) : Prop where
  proper : class_.Proper
  alternateZero : ∀ {interface}, class_.isCandidate interface = true →
    interface.alternateSetting = 0
  malformed : ∀ {descriptor}, class_.isMalformedCandidate descriptor = .ok true →
    descriptor[3]? = some 0
  found : ∀ {bytes interface found}, class_.discoverCandidate bytes interface = .ok found →
    numberOf found = interface ∧ ∃ header descriptors descriptor body,
      WellFramed bytes header descriptors ∧ IsSection descriptors interface descriptor body ∧
        class_.isCandidate descriptor = true

/-! ### Candidates -/

/-- A candidate claims its interface. -/
theorem claims_of_candidate (selects : Selects class_ numberOf) {descriptor : List UInt8}
    {interface : UInt8} {item : Checked ε α}
    (candidate : class_.candidate? bytes descriptor = some (interface, item)) :
    Claims interface descriptor := by
  rw [candidate?] at candidate
  split at candidate
  next isInterface =>
    cases parsed : InterfaceDescriptor.parse descriptor with
    | ok found =>
      rw [parsed] at candidate
      simp only at candidate
      split at candidate
      next wanted =>
        cases candidate
        have zero := selects.alternateZero wanted
        obtain ⟨length, string, rfl⟩ := InterfaceDescriptor.parse_eq_ok.mp parsed
        exact ⟨rfl, rfl, congrArg some zero⟩
      · cases candidate
    | error fault =>
      rw [parsed] at candidate
      simp only at candidate
      split at candidate
      next named =>
        obtain ⟨number, second, same⟩ := Option.map_eq_some_iff.mp candidate
        cases same
        exact ⟨isInterface, second, selects.malformed named⟩
      · cases candidate
  · cases candidate

/-- A valid candidate is well formed, and is what the validation returns. -/
theorem discover_of_candidate {descriptor : List UInt8} {interface : UInt8} {found : α}
    (candidate : class_.candidate? bytes descriptor = some (interface, .ok found)) :
    class_.discoverCandidate bytes interface = .ok found := by
  rw [candidate?] at candidate
  repeat' split at candidate
  · simp only [Option.some.injEq, Prod.mk.injEq] at candidate
    exact candidate.1 ▸ candidate.2
  · cases candidate
  · obtain ⟨number, -, same⟩ := Option.map_eq_some_iff.mp candidate
    exact absurd (Prod.mk.inj same).2 (fail_ne_ok _ _)
  all_goals cases candidate

/-- **A valid function is the section of the one descriptor that claims its interface.** -/
theorem found_unique (selects : Selects class_ numberOf) {interface : UInt8} {found : α}
    (valid : class_.discoverCandidate bytes interface = .ok found) :
    ∃ before head after, descriptorsOf bytes = before ++ head :: after ∧
      (∀ descriptor ∈ before ++ after, ¬ Claims interface descriptor) ∧
      class_.candidate? bytes head = some (interface, .ok found) := by
  obtain ⟨-, header, descriptors, descriptor, body, wellFramed, isSection, wanted⟩ :=
    selects.found valid
  have listed := wellFramed.descriptorsOf_eq
  obtain ⟨before, head, after, rfl, parsed, isRequested, plain, -, unclaimed⟩ := isSection
  refine ⟨before, head, body ++ after, listed, ?_, ?_⟩
  · intro other member
    rcases List.mem_append.mp member with earlier | member
    · exact unclaimed other (List.mem_append_left _ earlier)
    rcases List.mem_append.mp member with inside | later
    · exact fun claims => plain other inside claims.1
    · exact unclaimed other (List.mem_append_right _ later)
  · have number : descriptor.number = interface :=
      (of_decide_eq_true isRequested).1
    have isInterface : IsInterface head := by
      obtain ⟨length, string, rfl⟩ := InterfaceDescriptor.parse_eq_ok.mp parsed
      rfl
    rw [candidate?, if_pos isInterface, parsed]
    simp only [wanted, if_true, number, valid]

/-! ### What the iterator yields -/

/-- The first candidate of each interface number. -/
def entries (class_ : CandidateClass ε α) (bytes : List UInt8) : List (UInt8 × Checked ε α) :=
  firstOfKey [] ((descriptorsOf bytes).filterMap (class_.candidate? bytes))

theorem collect_eq_entries (proper : class_.Proper) {iter : CandidateIter}
    (created : class_.new bytes = .ok iter) {calls : Nat} (enough : wTotalLength bytes < calls) :
    collect class_.next calls iter =
      (class_.entries bytes).map Prod.snd ++ class_.errorsOf iter.descriptors.items := by
  have all : collect class_.next calls iter = _ := collect_eq_upcoming proper (new_valid created) (by
    rw [← new_totalLength created] at enough
    exact Nat.lt_of_le_of_lt iter.descriptors.remaining_le enough)
  obtain ⟨descriptors, framed, rfl⟩ := new_eq_ok.mp created
  rw [all, upcoming, entries, descriptorsOf, framed]

theorem errorsOf_ne_ok {items : List DescriptorIter.Item} {found : α} :
    .ok found ∉ class_.errorsOf items := by
  intro member
  obtain ⟨item, -, reported⟩ := List.mem_filterMap.mp member
  cases item with
  | ok descriptor => cases reported
  | error fault => cases fault <;> exact absurd (Option.some.inj reported) nofun

theorem candidate_of_mem_entries {entry : UInt8 × Checked ε α} (member : entry ∈ class_.entries bytes) :
    ∃ descriptor ∈ descriptorsOf bytes, class_.candidate? bytes descriptor = some entry :=
  List.mem_filterMap.mp (firstOfKey_sublist.subset member)

/-- A valid function is yielded. -/
theorem mem_entries (selects : Selects class_ numberOf) {interface : UInt8} {found : α}
    (valid : class_.discoverCandidate bytes interface = .ok found) :
    (interface, .ok found) ∈ class_.entries bytes := by
  obtain ⟨before, head, after, listed, unclaimed, candidate⟩ := found_unique selects valid
  rw [entries, listed, List.filterMap_append, List.filterMap_cons_some candidate]
  refine mem_firstOfKey List.not_mem_nil fun other member same => ?_
  obtain ⟨descriptor, earlier, came⟩ := List.mem_filterMap.mp member
  have claims := claims_of_candidate selects (show _ = some (other.1, other.2) from came)
  rw [same] at claims
  exact unclaimed descriptor (List.mem_append_left _ earlier) claims

/-- **The iterator yields what the explicit selection finds.** -/
theorem mem_collect_iff (selects : Selects class_ numberOf) {iter : CandidateIter}
    (created : class_.new bytes = .ok iter) {calls : Nat} (enough : wTotalLength bytes < calls)
    {interface : UInt8} {found : α} :
    class_.discoverInterface bytes interface = .ok found ↔
      .ok found ∈ collect class_.next calls iter ∧ numberOf found = interface := by
  have explicit : class_.discoverInterface bytes interface =
      class_.discoverCandidate bytes interface := by
    obtain ⟨descriptors, framed, rfl⟩ := new_eq_ok.mp created
    rw [discoverInterface, framed]
    rfl
  rw [explicit, collect_eq_entries selects.proper created enough]
  constructor
  · intro valid
    refine ⟨List.mem_append_left _ ?_, (selects.found valid).1⟩
    exact List.mem_map.mpr ⟨_, mem_entries selects valid, rfl⟩
  · rintro ⟨member, rfl⟩
    rcases List.mem_append.mp member with member | reported
    · obtain ⟨⟨number, item⟩, member, rfl⟩ := List.mem_map.mp member
      obtain ⟨descriptor, -, candidate⟩ := candidate_of_mem_entries member
      have valid := discover_of_candidate candidate
      rw [(selects.found valid).1]
      exact valid
    · exact absurd reported errorsOf_ne_ok

/-! ### Order -/

/-- A valid candidate stands where its interface first appears. -/
theorem firstAppearance_of_valid (selects : Selects class_ numberOf) {interface : UInt8} {found : α}
    (valid : class_.discoverCandidate bytes interface = .ok found) {position : Nat}
    {descriptor : List UInt8} (here : (descriptorsOf bytes)[position]? = some descriptor)
    (claims : Claims interface descriptor) : firstAppearance bytes interface = position := by
  obtain ⟨before, head, after, listed, unclaimed, -⟩ := found_unique selects valid
  have only : ∀ k other, (descriptorsOf bytes)[k]? = some other → Claims interface other →
      k = before.length := by
    intro k other there claimed
    rw [listed] at there
    rcases Nat.lt_trichotomy k before.length with less | same | more
    · rw [List.getElem?_append_left less] at there
      exact absurd claimed
        (unclaimed other (List.mem_append_left _ (List.mem_of_getElem? there)))
    · exact same
    · obtain ⟨further, rfl⟩ := Nat.exists_eq_add_of_lt more
      rw [List.getElem?_append_right (by omega), (by omega :
        before.length + further + 1 - before.length = further + 1), List.getElem?_cons_succ] at there
      exact absurd claimed
        (unclaimed other (List.mem_append_right _ (List.mem_of_getElem? there)))
  obtain ⟨inside, same⟩ := List.getElem?_eq_some_iff.mp here
  rw [firstAppearance, List.findIdx_eq inside]
  refine ⟨by rw [same]; exact decide_eq_true claims, fun j earlier => ?_⟩
  refine decide_eq_false fun claimed => ?_
  have first := only j _ (List.getElem?_eq_getElem (by omega)) claimed
  have second := only position _ here claims
  omega

/-- **The valid candidates come in the order of their interface descriptors.** -/
theorem entries_ordered (selects : Selects class_ numberOf) :
    (class_.entries bytes).Pairwise fun first second => ∀ found other,
      first.2 = .ok found → second.2 = .ok other →
        firstAppearance bytes (numberOf found) < firstAppearance bytes (numberOf other) := by
  refine List.Pairwise.sublist firstOfKey_sublist (List.pairwise_filterMap.mpr ?_)
  rw [List.pairwise_iff_getElem]
  intro i j hi hj earlier first candidate second candidate' found other valid valid'
  obtain ⟨number, _⟩ := first
  obtain ⟨number', _⟩ := second
  cases valid
  cases valid'
  have discovered := discover_of_candidate candidate
  have discovered' := discover_of_candidate candidate'
  rw [(selects.found discovered).1, (selects.found discovered').1,
    firstAppearance_of_valid selects discovered (List.getElem?_eq_getElem hi)
      (claims_of_candidate selects candidate),
    firstAppearance_of_valid selects discovered' (List.getElem?_eq_getElem hj)
      (claims_of_candidate selects candidate')]
  exact earlier

/-! ### The first match -/

section FirstValid

variable {firstError : Option ε} {items : List (Checked ε α)}

/-- The loop returns the first valid item. -/
theorem firstValid_eq_ok (safe : ∀ item ∈ items, Safe item) {found : α} :
    class_.firstValid firstError items = .ok found ↔
      ∃ before after, items = before ++ .ok found :: after ∧ ∀ other, .ok other ∉ before := by
  induction items generalizing firstError with
  | nil =>
    refine ⟨fun same => absurd same (fail_ne_ok _ _), ?_⟩
    rintro ⟨before, after, empty, -⟩
    exact absurd empty.symm (List.append_ne_nil_of_right_ne_nil before (List.cons_ne_nil _ _))
  | cons item rest ih =>
    have onward := fun firstError =>
      @ih firstError fun other member => safe other (List.mem_cons_of_mem _ member)
    cases item with
    | ok first =>
      constructor
      · rintro ⟨⟩
        exact ⟨[], rest, rfl, fun other => List.not_mem_nil⟩
      · rintro ⟨_ | ⟨head, before⟩, after, split, none⟩
        · cases split
          rfl
        · cases split
          exact absurd List.mem_cons_self (none first)
    | error fault =>
      cases fault with
      | panic => exact absurd rfl (safe _ List.mem_cons_self)
      | error error =>
        rw [firstValid, onward]
        constructor
        · rintro ⟨before, after, rfl, none⟩
          refine ⟨.error (.error error) :: before, after, rfl, fun other member => ?_⟩
          rcases List.mem_cons.mp member with same | member
          · cases same
          · exact none other member
        · rintro ⟨_ | ⟨head, before⟩, after, split, none⟩
          · cases split
          · cases split
            exact ⟨before, after, rfl, fun other member =>
              none other (List.mem_cons_of_mem _ member)⟩

/-- Without a valid item, the loop reports the error it has, or else the first one. -/
theorem firstValid_eq_error (safe : ∀ item ∈ items, Safe item) {fault : Fault ε} :
    class_.firstValid firstError items = .error fault ↔ (∀ other, .ok other ∉ items) ∧
      match firstError with
      | some error => fault = .error error
      | none => items.head? = some (.error fault) ∨ items = [] ∧ fault = .error class_.missing := by
  induction items generalizing firstError with
  | nil =>
    rw [firstValid, fail, Except.error.injEq]
    cases firstError with
    | none => simp [eq_comm]
    | some error => simp [eq_comm]
  | cons item rest ih =>
    have onward := fun firstError =>
      @ih firstError fun other member => safe other (List.mem_cons_of_mem _ member)
    cases item with
    | ok first =>
      constructor
      · intro same
        cases same
      · rintro ⟨none, -⟩
        exact absurd List.mem_cons_self (none first)
    | error reported =>
      cases reported with
      | panic => exact absurd rfl (safe _ List.mem_cons_self)
      | error error =>
        rw [firstValid, onward]
        cases firstError with
        | none => simp [eq_comm (a := fault)]
        | some kept => simp

end FirstValid

/-! ### The three ways -/

section Iterating

variable {iter : CandidateIter} {calls : Nat}

theorem collect_safe (proper : class_.Proper) (created : class_.new bytes = .ok iter) (calls : Nat) :
    ∀ item ∈ collect class_.next calls iter, Safe item :=
  (ends proper).collect_preserves (call_safe proper) (new_running created) calls

/-- The first match goes over what the iterator yields. -/
theorem discover_eq_firstValid (proper : class_.Proper) (created : class_.new bytes = .ok iter)
    (enough : wTotalLength bytes < calls) :
    class_.discover bytes = class_.firstValid none (collect class_.next calls iter) := by
  have all : wTotalLength bytes < iter.descriptors.totalLength + 1 := by
    rw [new_totalLength created]
    exact Nat.lt_succ_self _
  rw [discover, created, ok_bind, items, collect_eq_entries proper created all,
    collect_eq_entries proper created enough]

/-- Without an iterator there is no function. -/
theorem rejected_of_new {fault : Fault ε} (rejected : class_.new bytes = .error fault) :
    class_.discover bytes = .error fault ∧
      ∀ interface, class_.discoverInterface bytes interface = .error fault := by
  refine ⟨by rw [discover, rejected, error_bind], fun interface => ?_⟩
  rw [new] at rejected
  rw [discoverInterface]
  cases created : convert class_.into (DescriptorIter.new bytes) with
  | error other =>
    rw [created] at rejected
    cases rejected
    rfl
  | ok descriptors =>
    rw [created] at rejected
    cases rejected

/-- **The iterator yields the valid functions in order.** -/
theorem collect_ordered (selects : Selects class_ numberOf) (created : class_.new bytes = .ok iter)
    (enough : wTotalLength bytes < calls) :
    (collect class_.next calls iter).Pairwise fun first second => ∀ found other,
      first = .ok found → second = .ok other →
        firstAppearance bytes (numberOf found) < firstAppearance bytes (numberOf other) := by
  rw [collect_eq_entries selects.proper created enough]
  refine List.pairwise_append.mpr ⟨List.pairwise_map.mpr (entries_ordered selects), ?_, ?_⟩
  · refine List.pairwise_of_forall_mem_list fun first member _ _ found _ same => ?_
    exact absurd (same ▸ member) errorsOf_ne_ok
  · intro _ _ second member found other _ same
    exact absurd (same ▸ member) errorsOf_ne_ok

end Iterating

/-- **There is a first match exactly when some explicit selection succeeds.** -/
theorem discover_isOk_iff (selects : Selects class_ numberOf) (bytes : List UInt8) :
    (∃ found, class_.discover bytes = .ok found) ↔
      ∃ interface found, class_.discoverInterface bytes interface = .ok found := by
  cases created : class_.new bytes with
  | error fault =>
    obtain ⟨first, explicit⟩ := rejected_of_new created
    simp only [first, explicit, reduceCtorEq, exists_false]
  | ok iter =>
    have enough := Nat.lt_succ_self (wTotalLength bytes)
    have agree : ∀ {interface found}, class_.discoverInterface bytes interface = .ok found ↔ _ :=
      mem_collect_iff selects created enough
    have safe := collect_safe selects.proper created (wTotalLength bytes + 1)
    rw [discover_eq_firstValid selects.proper created enough]
    constructor
    · rintro ⟨found, first⟩
      obtain ⟨before, after, split, -⟩ := (firstValid_eq_ok safe).mp first
      have member : .ok found ∈ collect class_.next (wTotalLength bytes + 1) iter := by
        rw [split]
        exact List.mem_append_right _ List.mem_cons_self
      exact ⟨numberOf found, found, agree.mpr ⟨member, rfl⟩⟩
    · rintro ⟨interface, found, explicit⟩
      cases first : class_.firstValid none (collect class_.next (wTotalLength bytes + 1) iter) with
      | ok other => exact ⟨other, rfl⟩
      | error fault =>
        exact absurd (agree.mp explicit).1 (((firstValid_eq_error safe).mp first).1 found)

/-- **The iterator, the first match and the explicit selection agree.** -/
theorem pathsAgree (selects : Selects class_ numberOf) (bytes : List UInt8) :
    PathsAgree class_.new class_.next class_.discover class_.discoverInterface numberOf
      class_.missing bytes where
  rejected _ rejected := rejected_of_new rejected
  explicit_iff _ created _ enough _ _ := mem_collect_iff selects created enough
  once := by
    intro iter created calls enough
    refine (collect_ordered selects created enough).imp
      fun before found other same same' equal => ?_
    have earlier := before found other same same'
    rw [equal] at earlier
    exact absurd earlier (Nat.lt_irrefl _)
  ordered _ created _ enough := collect_ordered selects created enough
  discover_isOk := discover_isOk_iff selects bytes
  discover_ok := by
    intro iter created calls enough found
    rw [discover_eq_firstValid selects.proper created enough]
    exact firstValid_eq_ok (collect_safe selects.proper created calls)
  discover_error := by
    intro iter created calls enough fault
    rw [discover_eq_firstValid selects.proper created enough]
    exact firstValid_eq_error (collect_safe selects.proper created calls)

end Usb.CandidateClass

/-! ### CDC-ACM and HID -/

theorem Cdc.acmControls_selects : CandidateClass.Selects Cdc.acmControls (·.controlInterface) where
  proper := Cdc.acmControls_robust.proper
  alternateZero wanted := (of_decide_eq_true wanted).1
  malformed := by
    intro descriptor named
    obtain ⟨alternate, read, zero⟩ := bind_eq_ok.mp (of_andThen named rfl).2
    rw [index_eq_ok.mp read, of_decide_eq_true (of_andThen zero rfl).1]
  found := by
    intro bytes interface found valid
    obtain ⟨control, data, discovered⟩ := Cdc.discoverCandidate_eq_ok valid
    obtain ⟨scan, scanned, checked⟩ := discovered.scanned
    obtain ⟨descriptor, union, control⟩ := Cdc.controlSectionOf_eq_ok checked
    obtain ⟨header, descriptors, body, wellFramed, isSection, -⟩ :=
      InterfaceScan.section_of_pass scanned control.selected
    refine ⟨?_, header, descriptors, descriptor, body, wellFramed, isSection, control.acmControl⟩
    rw [discovered.function]

theorem Hid.hidInterfaces_selects : CandidateClass.Selects Hid.hidInterfaces (·.interfaceNumber) where
  proper := Hid.hidInterfaces_robust.proper
  alternateZero wanted := (of_decide_eq_true wanted).1
  malformed := by
    intro descriptor named
    obtain ⟨alternate, read, zero⟩ := bind_eq_ok.mp (of_andThen named rfl).2
    rw [index_eq_ok.mp read, of_decide_eq_true (of_andThen zero rfl).1]
  found := by
    intro bytes interface found valid
    obtain ⟨scan, scanned, checked⟩ := bind_eq_ok.mp valid
    obtain ⟨descriptor, selected, checked⟩ := bind_eq_ok.mp checked
    split at checked
    · exact absurd checked (fail_ne_ok _ _)
    next isHid =>
    split at checked
    · exact absurd checked (fail_ne_ok _ _)
    obtain ⟨hidDescriptor, -, checked⟩ := bind_eq_ok.mp checked
    obtain ⟨interruptIn, -, checked⟩ := bind_eq_ok.mp checked
    cases checked
    obtain ⟨header, descriptors, body, wellFramed, isSection, -⟩ :=
      InterfaceScan.section_of_pass scanned (okOr_eq_ok.mp selected)
    exact ⟨rfl, header, descriptors, descriptor, body, wellFramed, isSection,
      Decidable.not_not.mp isHid⟩

/-- **The three ways to discover a CDC-ACM function or a HID interface agree.** -/
theorem discovery_paths_agree (bytes : List UInt8) :
    PathsAgree Cdc.CdcAcmFunctions.new Cdc.CdcAcmFunctions.next Cdc.CdcAcmFunction.discover
        Cdc.discoverControlInterface (·.controlInterface) .missingControlInterface bytes ∧
      PathsAgree Hid.HidInterfaces.new Hid.HidInterfaces.next Hid.HidInterface.discover
        Hid.HidInterface.discoverInterface (·.interfaceNumber) .missingInterface bytes := by
  have explicit : Cdc.discoverControlInterface = Cdc.acmControls.discoverInterface := by
    funext bytes interface
    exact Cdc.discoverControlInterface_eq bytes interface
  rw [explicit]
  exact ⟨CandidateClass.pathsAgree Cdc.acmControls_selects bytes,
    CandidateClass.pathsAgree Hid.hidInterfaces_selects bytes⟩

end PioUsbHost
