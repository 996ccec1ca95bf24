/-
**Discovery functions that withstand any byte string.**

A discovery function is robust if it never panics and reads only the configuration: the bytes up to
wTotalLength, and at least the nine of the header. For an iterator this is asked of every call, and
that it ends.

* `sameView_configurationBytes`: what is behind the configuration changes nothing.
* `ensures_forDescriptors`: a loop over the descriptors keeps what its body keeps.
* `InterfaceScan.ensures_step`: the loop body of the class parsers keeps what the class's part keeps.
* `CandidateClass.robust_iterator`: the iterator over a class's candidates is robust if the validation
  of a candidate is, and with it `discover` and the explicit selection.
-/

import PioUsbHost.Usb.Candidates

namespace PioUsbHost.Usb

open PioUsbHost.Lib PioUsbHost.Lib.Panic PioUsbHost.Lib.Calls

/-! ### The configuration in the bytes -/

/-- The bytes that the header declares, if it is there. -/
def wTotalLength (bytes : List UInt8) : Nat :=
  (u16FromLeBytes (bytes[2]?.getD 0) (bytes[3]?.getD 0)).toNat

/-- The bytes up to wTotalLength, and at least those of the header. -/
def configurationBytes (bytes : List UInt8) : List UInt8 := bytes.take (max 9 (wTotalLength bytes))

/-- What an accepted header is made of. -/
theorem ConfigurationDescriptorHeader.of_parse {bytes : List UInt8}
    {header : ConfigurationDescriptorHeader}
    (parsed : ConfigurationDescriptorHeader.parse bytes = .ok header) :
    9 ≤ bytes.length ∧ header.totalLength.toNat = wTotalLength bytes ∧ 9 ≤ wTotalLength bytes ∧
      header.maxPowerMa = (bytes[8]?.getD 0).toUInt16 * 2 := by
  match bytes with
  | b0 :: b1 :: b2 :: b3 :: b4 :: b5 :: b6 :: b7 :: b8 :: rest =>
    simp only [parse, index, List.length_cons, List.getElem?_cons_zero, List.getElem?_cons_succ,
      ok_bind] at parsed
    rw [if_neg (by omega)] at parsed
    split at parsed
    · cases parsed
    split at parsed
    · cases parsed
    split at parsed
    · cases parsed
    next total =>
    split at parsed
    · cases parsed
    split at parsed
    · cases parsed
    cases parsed
    refine ⟨by simp, rfl, ?_, rfl⟩
    have nine := UInt16.lt_iff_toNat_lt.not.mp total
    exact Nat.not_lt.mp nine
  | [] | [_] | [_, _] | [_, _, _] | [_, _, _, _] | [_, _, _, _, _] | [_, _, _, _, _, _]
  | [_, _, _, _, _, _, _] | [_, _, _, _, _, _, _, _] => cases parsed

/-- The first byte of an accepted header is its length. -/
theorem ConfigurationDescriptorHeader.first_of_parse {bytes : List UInt8}
    {header : ConfigurationDescriptorHeader}
    (parsed : ConfigurationDescriptorHeader.parse bytes = .ok header) : bytes[0]? = some 9 := by
  have long := (of_parse parsed).1
  have read : (index bytes 0 : Checked ConfigurationError UInt8) = .ok bytes[0] :=
    index_of_lt (by omega)
  rw [parse, if_neg (by omega), read] at parsed
  simp only [ok_bind] at parsed
  split at parsed
  · cases parsed
  next nine => rw [List.getElem?_eq_getElem (by omega), not_not.mp nine]

theorem DescriptorIter.new_totalLength {bytes : List UInt8} {iter : DescriptorIter}
    (created : DescriptorIter.new bytes = .ok iter) : iter.totalLength = wTotalLength bytes := by
  obtain ⟨header, parsed, -, rfl⟩ := DescriptorIter.new_eq_ok.mp created
  exact (ConfigurationDescriptorHeader.of_parse parsed).2.1

/-- Two byte strings with the same header, whose descriptor iterators start alike. -/
structure SameView (first second : List UInt8) : Prop where
  header : ConfigurationDescriptorHeader.parse first = ConfigurationDescriptorHeader.parse second
  start : (∃ fault, DescriptorIter.new first = .error fault ∧
      DescriptorIter.new second = .error fault) ∨
    ∃ iter other, DescriptorIter.new first = .ok iter ∧ DescriptorIter.new second = .ok other ∧
      DescriptorIter.SameRest iter other

/-- **What is behind the configuration** changes nothing. -/
theorem sameView_configurationBytes (bytes : List UInt8) :
    SameView (configurationBytes bytes) bytes := by
  have header : ConfigurationDescriptorHeader.parse (configurationBytes bytes) =
      ConfigurationDescriptorHeader.parse bytes := by
    apply ConfigurationDescriptorHeader.parse_congr
    rw [configurationBytes, List.take_take, Nat.min_eq_left (Nat.le_max_left _ _)]
  refine ⟨header, ?_⟩
  rw [DescriptorIter.new, DescriptorIter.new, header]
  cases parsed : ConfigurationDescriptorHeader.parse bytes with
  | error fault => exact .inl ⟨fault, rfl, rfl⟩
  | ok found =>
    obtain ⟨-, total, -⟩ := ConfigurationDescriptorHeader.of_parse parsed
    have lengths : (configurationBytes bytes).length = min (max 9 (wTotalLength bytes)) bytes.length :=
      List.length_take
    simp only [ok_bind, total, lengths]
    by_cases short : bytes.length < wTotalLength bytes
    · rw [if_pos short, if_pos (by omega)]
      exact .inl ⟨_, rfl, rfl⟩
    · rw [if_neg short, if_neg (by omega)]
      refine .inr ⟨_, _, rfl, rfl, ⟨Nat.zero_le _, ?_⟩, ⟨Nat.zero_le _, ?_⟩, rfl, rfl, rfl, ?_⟩
      · simp only [lengths]
        omega
      · simp only
        omega
      · rw [DescriptorIter.rest, DescriptorIter.rest, configurationBytes, List.take_take,
          Nat.min_eq_left (Nat.le_max_right _ _)]

variable {ε σ α : Type}

/-- A function of the items sees the same. -/
theorem SameView.bind_items {first second : List UInt8} (same : SameView first second)
    (into : ConfigurationError → ε) (read : List DescriptorIter.Item → Checked ε α) :
    (do let iter ← convert into (DescriptorIter.new first); read iter.items) =
      (do let iter ← convert into (DescriptorIter.new second); read iter.items) := by
  rcases same.start with ⟨fault, fails, fails'⟩ | ⟨iter, other, created, created', rest⟩
  · rw [fails, fails']
  · rw [created, created', convert, ok_bind, convert, ok_bind, rest.items_eq]

/-- The explicit selections create an iterator, and drop it. -/
theorem SameView.bind_new {first second : List UInt8} (same : SameView first second)
    (into : ConfigurationError → ε) (result : Checked ε α) :
    (do let _ ← convert into (DescriptorIter.new first); result) =
      (do let _ ← convert into (DescriptorIter.new second); result) :=
  same.bind_items into fun _ => result

theorem SameView.forDescriptors_eq {first second : List UInt8} (same : SameView first second)
    (into : ConfigurationError → ε) (step : σ → List UInt8 → Checked ε σ) (start : σ) :
    forDescriptors into first step start = forDescriptors into second step start :=
  same.bind_items into _

/-! ### Robust functions -/

/-- The function never panics, and reads only the configuration. -/
structure Robust (discover : List UInt8 → Checked ε α) : Prop where
  safe : ∀ bytes, Safe (discover bytes)
  reads : ∀ bytes, discover (configurationBytes bytes) = discover bytes

/-- No call of the iterator panics, it ends, and every call reads only the configuration. -/
structure RobustIterator {ι : Type} (new : List UInt8 → Checked ε ι) (next : Next ι (Checked ε α)) :
    Prop where
  creates : ∀ bytes, Safe (new bytes)
  yields : ∀ {bytes iter}, new bytes = .ok iter → ∀ calls, ∀ item ∈ nth next calls iter, Safe item
  ends : ∀ {bytes iter}, new bytes = .ok iter → ∀ calls, wTotalLength bytes ≤ calls →
    nth next calls iter = none
  reads : ∀ bytes calls, (new (configurationBytes bytes)).map (nth next calls) =
    (new bytes).map (nth next calls)

theorem Robust.congr {discover other : List UInt8 → Checked ε α} (robust : Robust discover)
    (same : ∀ bytes, other bytes = discover bytes) : Robust other :=
  (funext same : other = discover) ▸ robust

/-- **The descriptor iterator is robust.** -/
theorem DescriptorIter.robust_iterator : RobustIterator DescriptorIter.new DescriptorIter.next where
  creates := DescriptorIter.new_safe
  yields created := DescriptorIter.ends.nth_preserves
    (fun bounded item yielded => (DescriptorIter.next_safe bounded item yielded).1)
    (DescriptorIter.new_bounded created)
  ends := by
    intro bytes iter created calls enough
    refine DescriptorIter.ends.nth_eq_none (DescriptorIter.new_bounded created) ?_
    rw [← DescriptorIter.new_totalLength created] at enough
    exact Nat.le_trans iter.remaining_le enough
  reads := by
    intro bytes calls
    rcases (sameView_configurationBytes bytes).start with ⟨fault, fails, fails'⟩ |
      ⟨iter, other, created, created', same⟩
    · rw [fails, fails']
    · rw [created, created']
      exact congrArg Except.ok (nth_eq_of_simulation DescriptorIter.next_simulation same calls)

/-- The iterator is inside a configuration of that length. -/
structure DescriptorIter.Within (total : Nat) (iter : DescriptorIter) : Prop where
  bounded : iter.Bounded
  totalLength : iter.totalLength = total

/-- **At every position** the iterator is inside the configuration. -/
theorem DescriptorIter.offset_le {bytes : List UInt8} {iter : DescriptorIter}
    (created : DescriptorIter.new bytes = .ok iter) (calls : Nat) :
    (after DescriptorIter.next calls iter).offset ≤ wTotalLength bytes := by
  have step : ∀ {iter}, Within (wTotalLength bytes) iter → Within (wTotalLength bytes) iter.next.2 :=
    fun inv => ⟨next_bounded inv.bounded, (next_totalLength _).trans inv.totalLength⟩
  have start : Within (wTotalLength bytes) iter := ⟨new_bounded created, new_totalLength created⟩
  have within : Within (wTotalLength bytes) (after DescriptorIter.next calls iter) :=
    after_preserves step start calls
  exact within.totalLength ▸ within.bounded.inside

/-- The items of an iterator are descriptors and errors. -/
theorem DescriptorIter.mem_items {iter : DescriptorIter} (bounded : iter.Bounded)
    {item : DescriptorIter.Item} (member : item ∈ iter.items) : Safe item ∧ IsItem item := by
  have error : ∀ error, Safe (fail error : DescriptorIter.Item) ∧
      IsItem (fail error : DescriptorIter.Item) := fun error =>
    ⟨safe_fail error, fun _ same => absurd same (fail_ne_ok _ _)⟩
  obtain ⟨descriptors, framed, shape⟩ := items_shape bounded
  have cases : (∃ descriptor ∈ descriptors, .ok descriptor = item) ∨ ∃ error, item = fail error := by
    rcases shape with ⟨items, -⟩ | ⟨error, items⟩ <;> rw [items] at member
    · exact .inl (List.mem_map.mp member)
    · rcases List.mem_append.mp member with member | member
      · exact .inl (List.mem_map.mp member)
      · exact .inr ⟨error, List.mem_singleton.mp member⟩
  rcases cases with ⟨descriptor, listed, rfl⟩ | ⟨reported, rfl⟩
  · refine ⟨safe_ok _, fun other same => ?_⟩
    cases same
    exact framed descriptor listed
  · exact error reported

/-- **A loop over the descriptors** keeps what its body keeps. -/
theorem ensures_forDescriptors {into : ConfigurationError → ε}
    {step : σ → List UInt8 → Checked ε σ} {Inv : σ → Prop} {start : σ}
    (steps : ∀ state descriptor, IsDescriptor descriptor → Inv state →
      Ensures Inv (step state descriptor))
    (initial : Inv start) (bytes : List UInt8) :
    Ensures Inv (forDescriptors into bytes step start) := by
  refine ensures_bind (safe_convert (DescriptorIter.new_safe bytes)) fun iter created => ?_
  have bounded := DescriptorIter.new_bounded (convert_eq_ok.mp created)
  refine ensures_foldlM (fun state item member inv => ?_) initial
  obtain ⟨safe, isItem⟩ := DescriptorIter.mem_items bounded member
  refine ensures_bind (safe_convert safe) fun descriptor converted => ?_
  exact steps state descriptor (isItem _ (convert_eq_ok.mp converted)) inv

/-! ### The loop body of the class parsers -/

namespace InterfaceScan

variable {requested : UInt8} {error : ε}
  {inside : InterfaceDescriptor → σ → List UInt8 → Checked ε σ} {Inv : σ → Prop}

theorem claims_safe (requested : UInt8) (descriptor : List UInt8) :
    Safe (claims requested descriptor : Checked ε Bool) := by
  refine safe_andThen fun long => ?_
  have long := of_decide_eq_true long
  refine safe_bind (safe_index (by omega)) fun number _ => safe_andThen fun _ => ?_
  exact safe_bind (safe_index (by omega)) fun alternate _ => safe_ok _

/-- **The loop body** keeps what the class's part keeps. -/
theorem ensures_step {scan : InterfaceScan σ} {descriptor : List UInt8}
    (insides : ∀ interface found descriptor, IsDescriptor descriptor → Inv found →
      Ensures Inv (inside interface found descriptor))
    (isDescriptor : IsDescriptor descriptor) (inv : Inv scan.found) :
    Ensures (fun next => Inv next.found) (step requested error inside scan descriptor) := by
  obtain ⟨kind, -, read⟩ := isDescriptor.index_one ε
  rw [step, read, ok_bind]
  refine ensures_ite (fun _ => ?_) fun _ => ?_
  · rw [interfaceBranch]
    cases parsed : InterfaceDescriptor.parse descriptor with
    | error fault =>
      rw [InterfaceDescriptor.parse_eq_error parsed]
      refine ensures_bind (claims_safe requested descriptor) fun claimed _ => ?_
      exact ensures_ite (fun _ => ensures_fail error) fun _ => ensures_ok inv
    | ok interface =>
      refine ensures_ite (fun _ => ?_) fun _ => ensures_ok inv
      exact ensures_ite (fun _ => ensures_fail error) fun _ => ensures_ok inv
  · cases scan.current with
    | none => exact ensures_ok inv
    | some interface =>
      refine ensures_ite (fun _ => ?_) fun _ => ensures_ok inv
      exact (insides interface scan.found descriptor isDescriptor inv).bind fun _ kept =>
        ensures_ok kept

/-- **A pass over the configuration** keeps what the class's part keeps. -/
theorem ensures_pass (into : ConfigurationError → ε) (requested : UInt8) (error : ε) {init : σ}
    (insides : ∀ interface found descriptor, IsDescriptor descriptor → Inv found →
      Ensures Inv (inside interface found descriptor))
    (initial : Inv init) (bytes : List UInt8) :
    Ensures (fun scan => Inv scan.found)
      (forDescriptors into bytes (step requested error inside) ⟨none, none, init⟩) :=
  ensures_forDescriptors (fun _ _ isDescriptor inv => ensures_step insides isDescriptor inv) initial
    bytes

theorem pass_safe (into : ConfigurationError → ε) (requested : UInt8) (error : ε) (init : σ)
    (insides : ∀ interface found descriptor, IsDescriptor descriptor →
      Safe (inside interface found descriptor)) (bytes : List UInt8) :
    Safe (forDescriptors into bytes (step requested error inside) ⟨none, none, init⟩) :=
  (ensures_forDescriptors
    (fun _ _ isDescriptor _ => ensures_step (fun interface found descriptor isDescriptor _ =>
      ⟨insides interface found descriptor isDescriptor, fun _ _ => trivial⟩) isDescriptor trivial)
    trivial bytes).1

end InterfaceScan

/-! ### The iterator over a class's candidates -/

namespace CandidateClass

variable {class_ : CandidateClass ε α}

/-- The iterators are at the same place, and validate candidates alike. -/
structure Related (class_ : CandidateClass ε α) (first second : CandidateIter) : Prop where
  descriptors : DescriptorIter.SameRest first.descriptors second.descriptors
  seenInterfaces : first.seenInterfaces = second.seenInterfaces
  candidates : ∀ interface,
    class_.discoverCandidate first.bytes interface = class_.discoverCandidate second.bytes interface

theorem body_congr {first second : List UInt8}
    (candidates : ∀ interface,
      class_.discoverCandidate first interface = class_.discoverCandidate second interface)
    (seen : SeenInterfaces) (descriptor : List UInt8) :
    class_.body first seen descriptor = class_.body second seen descriptor := by
  rw [body, body]
  simp only [candidates]

theorem pass_simulation {first second : CandidateIter} (related : Related class_ first second) :
    (class_.pass first).1 = (class_.pass second).1 ∧
      Related class_ (class_.pass first).2 (class_.pass second).2 := by
  obtain ⟨descriptors, seen, candidates⟩ := related
  obtain ⟨same, onward⟩ := DescriptorIter.next_simulation descriptors
  rw [pass, pass]
  rcases called : first.descriptors.next with ⟨_ | ⟨fault | descriptor⟩, rest⟩ <;>
    rcases called' : second.descriptors.next with ⟨_ | ⟨fault' | descriptor'⟩, rest'⟩ <;>
    rw [called, called'] at same <;> cases same <;> rw [called, called'] at onward
  · exact ⟨rfl, onward, seen, candidates⟩
  · exact ⟨rfl, onward, seen, candidates⟩
  · simp only [seen, body_congr candidates]
    rcases class_.body second.bytes second.seenInterfaces descriptor with fault | ⟨_ | item, marked⟩
    · exact ⟨rfl, onward, rfl, candidates⟩
    · exact ⟨rfl, onward, rfl, candidates⟩
    · exact ⟨rfl, onward, rfl, candidates⟩

theorem next_simulation : Simulation class_.next class_.next (Related class_) := by
  intro first second related
  induction left : first.descriptors.totalLength - first.descriptors.offset using Nat.strongRecOn
    generalizing first second with
  | ind remaining ih =>
    subst left
    obtain ⟨same, onward⟩ := pass_simulation related
    rcases passed : class_.pass first with ⟨_ | result, after⟩ <;>
      rcases passed' : class_.pass second with ⟨_ | result', after'⟩ <;>
      rw [passed, passed'] at same <;> cases same <;> rw [passed, passed'] at onward
    · rw [next_of_continues passed, next_of_continues passed']
      exact ih _ (pass_advances class_ passed) onward rfl
    · rw [next_of_returns passed, next_of_returns passed']
      exact ⟨rfl, onward⟩

theorem new_eq_ok {bytes : List UInt8} {iter : CandidateIter} :
    class_.new bytes = .ok iter ↔ ∃ descriptors, DescriptorIter.new bytes = .ok descriptors ∧
      iter = ⟨bytes, descriptors, List.replicate 8 0⟩ := by
  rw [new, bind_eq_ok]
  simp only [convert_eq_ok, pure_eq_ok, Except.ok.injEq, eq_comm (a := iter)]

theorem new_valid {bytes : List UInt8} {iter : CandidateIter} (created : class_.new bytes = .ok iter) :
    Valid iter [] := by
  obtain ⟨descriptors, framed, rfl⟩ := new_eq_ok.mp created
  exact ⟨DescriptorIter.new_bounded framed, holds_nil⟩

theorem new_running {bytes : List UInt8} {iter : CandidateIter}
    (created : class_.new bytes = .ok iter) : Running iter :=
  ⟨[], new_valid created⟩

theorem new_totalLength {bytes : List UInt8} {iter : CandidateIter}
    (created : class_.new bytes = .ok iter) :
    iter.descriptors.totalLength = wTotalLength bytes := by
  obtain ⟨descriptors, framed, rfl⟩ := new_eq_ok.mp created
  exact DescriptorIter.new_totalLength framed

theorem new_safe (class_ : CandidateClass ε α) (bytes : List UInt8) : Safe (class_.new bytes) :=
  safe_bind (safe_convert (DescriptorIter.new_safe bytes)) fun _ _ => safe_ok _

/-- What a class's validation must satisfy for its iterator to be robust. -/
structure RobustCandidates (class_ : CandidateClass ε α) : Prop where
  proper : class_.Proper
  reads : ∀ {first second}, SameView first second → ∀ interface,
    class_.discoverCandidate first interface = class_.discoverCandidate second interface

/-- What two byte strings with the same view create. -/
theorem new_related (robust : RobustCandidates class_) {first second : List UInt8}
    (same : SameView first second) :
    (∃ fault, class_.new first = .error fault ∧ class_.new second = .error fault) ∨
      ∃ iter other, class_.new first = .ok iter ∧ class_.new second = .ok other ∧
        Related class_ iter other := by
  rcases same.start with ⟨fault, fails, fails'⟩ | ⟨iter, other, created, created', rest⟩
  · rw [new, new, fails, fails']
    cases fault with
    | panic => exact .inl ⟨_, rfl, rfl⟩
    | error error => exact .inl ⟨_, rfl, rfl⟩
  · refine .inr ⟨_, _, new_eq_ok.mpr ⟨iter, created, rfl⟩, new_eq_ok.mpr ⟨other, created', rfl⟩,
      rest, rfl, fun interface => robust.reads same interface⟩

theorem call_safe (proper : class_.Proper) {iter : CandidateIter} (valid : Running iter) :
    ∀ item ∈ (class_.next iter).1, Safe item := by
  obtain ⟨came, valid⟩ := valid
  obtain ⟨later, call⟩ := next_spec proper valid
  exact call.safe

/-- **The iterator over a class's candidates is robust.** -/
theorem robust_iterator (robust : RobustCandidates class_) :
    RobustIterator class_.new class_.next where
  creates := class_.new_safe
  yields created :=
    (ends robust.proper).nth_preserves (call_safe robust.proper) (new_running created)
  ends := by
    intro bytes iter created calls enough
    refine (ends robust.proper).nth_eq_none (new_running created) ?_
    rw [← new_totalLength created] at enough
    exact Nat.le_trans iter.descriptors.remaining_le enough
  reads := by
    intro bytes calls
    rcases new_related robust (sameView_configurationBytes bytes) with
      ⟨fault, fails, fails'⟩ | ⟨iter, other, created, created', related⟩
    · rw [fails, fails']
    · rw [created, created']
      exact congrArg Except.ok (nth_eq_of_simulation next_simulation related calls)

theorem firstValid_safe {items : List (Checked ε α)} (firstError : Option ε)
    (safe : ∀ item ∈ items, Safe item) : Safe (class_.firstValid firstError items) := by
  induction items generalizing firstError with
  | nil => exact safe_fail _
  | cons item rest ih =>
    have later := fun other member => safe other (List.mem_cons_of_mem _ member)
    cases item with
    | ok found => exact safe_ok found
    | error fault =>
      cases fault with
      | panic => exact absurd rfl (safe _ List.mem_cons_self)
      | error error => exact ih _ later

theorem robust_discover (robust : RobustCandidates class_) : Robust class_.discover where
  safe bytes := by
    refine safe_bind (class_.new_safe bytes) fun iter created => firstValid_safe none ?_
    exact (ends robust.proper).collect_preserves (call_safe robust.proper) (new_running created) _
  reads bytes := by
    rw [discover, discover]
    rcases new_related robust (sameView_configurationBytes bytes) with
      ⟨fault, fails, fails'⟩ | ⟨iter, other, created, created', related⟩
    · rw [fails, fails']
    · rw [created, created', ok_bind, ok_bind, items, items, related.descriptors.totalLength,
        collect_eq_of_simulation next_simulation related]

theorem robust_discoverInterface (robust : RobustCandidates class_) (interface : UInt8) :
    Robust (class_.discoverInterface · interface) where
  safe bytes := safe_bind (safe_convert (DescriptorIter.new_safe bytes)) fun _ _ =>
    robust.proper.discovers bytes interface
  reads bytes := by
    have same := sameView_configurationBytes bytes
    show class_.discoverInterface _ _ = class_.discoverInterface _ _
    rw [discoverInterface, discoverInterface, robust.reads same, same.bind_new]

end CandidateClass

end PioUsbHost.Usb
