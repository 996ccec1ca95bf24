/-
**What the descriptor iterator yields on any byte string.**

The iterator yields descriptors, each as long as its first byte says, and then either ends at
wTotalLength or yields one framing error. It reads nothing behind wTotalLength and never panics.

* `next_spec`: one call, by the end, a descriptor or a framing error.
* `ends`: after enough calls the iterator yields nothing.
* `iterates`: the iterator takes the descriptors off the bytes that are left.
* `items_shape`, `items_wellFramed`: descriptors, then at most one error, and none exactly on the
  well-framed configurations.
* `forDescriptors_wellFramed`: a parser's loop over a well-framed configuration is a loop over its
  descriptors.
* `next_simulation`: two iterators with the same bytes left yield the same.
-/

import PioUsbHost.Lib.Records
import PioUsbHost.Usb.Descriptor

namespace PioUsbHost.Usb

open PioUsbHost.Lib.Panic PioUsbHost.Lib.Calls PioUsbHost.Lib.Records

/-! ### Parsers -/

theorem ConfigurationDescriptorHeader.parse_safe (bytes : List UInt8) :
    Safe (ConfigurationDescriptorHeader.parse bytes) := by
  by_cases short : bytes.length < 9
  · simp only [parse, short, if_true, fail_bind, safe_fail]
  · have read : ∀ i, i < 9 → ∃ byte : UInt8,
        (index bytes i : Checked ConfigurationError UInt8) = .ok byte := fun i small =>
      ⟨bytes[i], index_of_lt (by omega)⟩
    obtain ⟨_, zeroth⟩ := read 0 (by decide)
    obtain ⟨_, first⟩ := read 1 (by decide)
    obtain ⟨_, second⟩ := read 2 (by decide)
    obtain ⟨_, third⟩ := read 3 (by decide)
    obtain ⟨_, fourth⟩ := read 4 (by decide)
    obtain ⟨_, fifth⟩ := read 5 (by decide)
    obtain ⟨_, sixth⟩ := read 6 (by decide)
    obtain ⟨_, seventh⟩ := read 7 (by decide)
    obtain ⟨_, eighth⟩ := read 8 (by decide)
    simp only [parse, short, if_false, zeroth, first, second, third, fourth, fifth, sixth, seventh,
      eighth, ok_bind, pure_eq_ok]
    repeat' split
    all_goals simp only [fail_bind, safe_fail, safe_ok]

/-- The header is in the first nine bytes. -/
theorem ConfigurationDescriptorHeader.parse_congr {first second : List UInt8}
    (same : first.take 9 = second.take 9) :
    ConfigurationDescriptorHeader.parse first = ConfigurationDescriptorHeader.parse second := by
  have read : ∀ i, i < 9 → (index first i : Checked ConfigurationError UInt8) = index second i := by
    intro i small
    rw [index, index, ← List.getElem?_take_of_lt small, same, List.getElem?_take_of_lt small]
  have short : (first.length < 9) = (second.length < 9) := by
    have lengths := congrArg List.length same
    rw [List.length_take, List.length_take] at lengths
    exact propext (by omega)
  rw [parse, parse]
  simp only [short, read _ (by decide : 0 < 9), read _ (by decide : 1 < 9),
    read _ (by decide : 2 < 9), read _ (by decide : 3 < 9), read _ (by decide : 4 < 9),
    read _ (by decide : 5 < 9), read _ (by decide : 6 < 9), read _ (by decide : 7 < 9),
    read _ (by decide : 8 < 9)]

theorem EndpointDescriptor.parse_safe (bytes : List UInt8) :
    Safe (EndpointDescriptor.parse bytes) := by
  by_cases seven : bytes.length = 7
  · match bytes, seven with
    | [_, _, _, _, _, _, _], _ => simp [parse, orElse, read, index]
  · simp [parse, orElse, seven]

namespace DescriptorIter

variable {iter : DescriptorIter}

/-! ### The bytes that are left -/

/-- The iterator is inside the configuration, which the bytes hold. -/
structure Bounded (iter : DescriptorIter) : Prop where
  inside : iter.offset ≤ iter.totalLength
  complete : iter.totalLength ≤ iter.bytes.length

theorem new_eq_ok {bytes : List UInt8} :
    new bytes = .ok iter ↔ ∃ header, ConfigurationDescriptorHeader.parse bytes = .ok header ∧
      header.totalLength.toNat ≤ bytes.length ∧
      iter = ⟨bytes, 0, header.totalLength.toNat, false⟩ := by
  rw [new, bind_eq_ok]
  refine exists_congr fun header => and_congr_right fun _ => ?_
  by_cases short : bytes.length < header.totalLength.toNat
  · simp [short, Nat.not_le.mpr short]
  · simp [short, Nat.not_lt.mp short, eq_comm]

theorem new_bounded {bytes : List UInt8} (created : new bytes = .ok iter) : iter.Bounded := by
  obtain ⟨header, -, complete, rfl⟩ := new_eq_ok.mp created
  exact ⟨Nat.zero_le _, complete⟩

theorem new_safe (bytes : List UInt8) : Safe (new bytes) := by
  refine safe_bind (ConfigurationDescriptorHeader.parse_safe bytes) fun header _ => ?_
  by_cases short : bytes.length < header.totalLength.toNat <;> simp [short]

theorem Bounded.length_rest (bounded : iter.Bounded) :
    iter.rest.length = iter.totalLength - iter.offset := by
  rw [rest, List.length_drop, List.length_take, Nat.min_eq_left bounded.complete]

/-- The descriptor that starts a list of bytes. -/
def front (left : List UInt8) : Item := do
  if left.length < 2 then fail .descriptorOverrun
  let descriptorLength := (← index left 0).toNat
  if descriptorLength < 2 then fail .invalidDescriptorLength
  if descriptorLength > left.length then fail .descriptorOverrun
  return left.take descriptorLength

/-- What a call yields depends on the bytes that are left. -/
theorem Bounded.descriptor_eq (bounded : iter.Bounded) : iter.descriptor = front iter.rest := by
  have lengths := bounded.length_rest
  obtain ⟨inside, complete⟩ := bounded
  rw [descriptor, front, subtract_of_le inside, ok_bind, lengths]
  by_cases few : iter.totalLength - iter.offset < 2
  · simp only [few, if_true, fail_bind]
  have here : iter.rest[0]? = some iter.bytes[iter.offset] := by
    rw [rest, List.getElem?_drop, Nat.add_zero, List.getElem?_take_of_lt (by omega),
      List.getElem?_eq_getElem]
  rw [if_neg few, if_neg few, index_of_lt (by omega), index_of_getElem? here]
  simp only [ok_bind]
  by_cases tiny : iter.bytes[iter.offset].toNat < 2
  · simp only [tiny, if_true, fail_bind]
  by_cases long : iter.bytes[iter.offset].toNat > iter.totalLength - iter.offset
  · simp only [tiny, if_false, long, if_true, fail_bind, pure_eq_ok]
  rw [if_neg tiny, if_neg tiny, if_neg long, if_neg long, slice_of_le (by omega) (by omega),
    Nat.add_sub_cancel_left, rest, List.drop_take, List.take_take, Nat.min_eq_left (by omega)]
  rfl

theorem front_of_few {left : List UInt8} (few : left.length < 2) :
    front left = fail .descriptorOverrun := by
  rw [front, if_pos few]
  rfl

theorem front_of_read {left : List UInt8} {length : UInt8} (enough : 2 ≤ left.length)
    (read : left[0]? = some length) :
    front left =
      if length.toNat < 2 then fail .invalidDescriptorLength
      else if left.length < length.toNat then fail .descriptorOverrun
      else .ok (left.take length.toNat) := by
  rw [front, if_neg (Nat.not_lt.mpr enough), index_of_getElem? read]
  simp only [ok_bind]
  split
  · rfl
  · split
    · rfl
    · rfl

/-- **A list of bytes starts with a descriptor**, or there is a framing error. -/
theorem front_cases (left : List UInt8) :
    (∃ descriptor after, front left = .ok descriptor ∧ IsDescriptor descriptor ∧
        left = descriptor ++ after) ∨
      ∃ error, front left = fail error := by
  by_cases few : left.length < 2
  · exact .inr ⟨_, front_of_few few⟩
  have read : left[0]? = some left[0] := List.getElem?_eq_getElem (by omega)
  rw [front_of_read (Nat.not_lt.mp few) read]
  by_cases tiny : left[0].toNat < 2
  · exact .inr ⟨_, if_pos tiny⟩
  by_cases long : left.length < left[0].toNat
  · exact .inr ⟨_, by rw [if_neg tiny, if_pos long]⟩
  have lengths : (left.take left[0].toNat).length = left[0].toNat := by
    rw [List.length_take]
    omega
  refine .inl ⟨left.take left[0].toNat, left.drop left[0].toNat, ?_, ⟨by omega, ?_⟩,
    (List.take_append_drop _ _).symm⟩
  · rw [if_neg tiny, if_neg long]
  · rw [lengths, List.head?_take, if_neg (by omega), List.head?_eq_getElem?, read]
    rfl

/-! ### One call -/

/-- The iteration is over. -/
def AtEnd (iter : DescriptorIter) : Prop := iter.failed = true ∨ iter.offset = iter.totalLength

instance (iter : DescriptorIter) : Decidable iter.AtEnd := inferInstanceAs (Decidable (_ ∨ _))

/-- The iterator after a descriptor. -/
def advance (iter : DescriptorIter) (descriptor : List UInt8) : DescriptorIter :=
  { iter with offset := iter.offset + descriptor.length }

/-- The iterator after a framing error. -/
def stop (iter : DescriptorIter) : DescriptorIter := { iter with failed := true }

theorem stop_atEnd (iter : DescriptorIter) : iter.stop.AtEnd := .inl rfl

theorem next_of_atEnd (ended : iter.AtEnd) : iter.next = (none, iter) := if_pos ended

/-- **One call**: nothing at the end, and before it a descriptor or a framing error. -/
theorem next_spec (bounded : iter.Bounded) :
    (iter.AtEnd ∧ iter.next = (none, iter)) ∨
      (∃ descriptor, ¬ iter.AtEnd ∧ iter.next = (some (.ok descriptor), iter.advance descriptor) ∧
        front iter.rest = .ok descriptor ∧ IsDescriptor descriptor ∧
        (iter.advance descriptor).Bounded ∧
        iter.rest = descriptor ++ (iter.advance descriptor).rest) ∨
      ∃ error, ¬ iter.AtEnd ∧ iter.next = (some (fail error), iter.stop) ∧
        front iter.rest = fail error := by
  by_cases ended : iter.AtEnd
  · exact .inl ⟨ended, next_of_atEnd ended⟩
  right
  rcases front_cases iter.rest with ⟨descriptor, after, cuts, isDescriptor, split⟩ | ⟨error, fails⟩
  · left
    have called : iter.next = (some (.ok descriptor), iter.advance descriptor) := by
      rw [next, bounded.descriptor_eq, cuts]
      exact if_neg ended
    have lengths := bounded.length_rest
    rw [split, List.length_append] at lengths
    have tail : (iter.advance descriptor).rest = after := by
      show (iter.bytes.take iter.totalLength).drop (iter.offset + descriptor.length) = after
      rw [← List.drop_drop, ← rest, split, List.drop_left]
    have descriptorLong := isDescriptor.1
    exact ⟨descriptor, ended, called, cuts, isDescriptor,
      ⟨by show iter.offset + descriptor.length ≤ iter.totalLength; omega, bounded.complete⟩,
      by rw [tail]; exact split⟩
  · right
    have called : iter.next = (some (fail error), iter.stop) := by
      rw [next, bounded.descriptor_eq, fails]
      exact if_neg ended
    exact ⟨error, ended, called, fails⟩

/-- What a call yields is a descriptor or an error. -/
def IsItem (item : Item) : Prop := ∀ descriptor, item = .ok descriptor → IsDescriptor descriptor

theorem next_bounded (bounded : iter.Bounded) : iter.next.2.Bounded := by
  rcases next_spec bounded with ⟨-, called⟩ | ⟨_, -, called, -, -, within, -⟩ | ⟨_, -, called, -⟩
  · rw [called]
    exact bounded
  · rw [called]
    exact within
  · rw [called]
    exact ⟨bounded.inside, bounded.complete⟩

theorem next_totalLength (iter : DescriptorIter) : iter.next.2.totalLength = iter.totalLength := by
  rw [next]
  split
  · rfl
  · cases iter.descriptor <;> rfl

theorem next_safe (bounded : iter.Bounded) : ∀ item ∈ iter.next.1, Safe item ∧ IsItem item := by
  intro item yielded
  rcases next_spec bounded with ⟨-, called⟩ | ⟨descriptor, -, called, -, isDescriptor, -⟩ |
    ⟨error, -, called, -⟩
  · rw [called] at yielded
    cases yielded
  · rw [called] at yielded
    cases yielded
    refine ⟨safe_ok _, fun other same => ?_⟩
    cases same
    exact isDescriptor
  · rw [called] at yielded
    cases yielded
    exact ⟨safe_fail _, fun other same => absurd same (fail_ne_ok _ _)⟩

/-- A descriptor is not empty, and the iterator moves past it. -/
theorem next_advances {descriptor : List UInt8} {after : DescriptorIter}
    (called : iter.next = (some (.ok descriptor), after)) :
    after.totalLength - after.offset < iter.totalLength - iter.offset := by
  rw [next] at called
  split at called
  · cases called
  cases cuts : iter.descriptor with
  | error fault =>
    rw [cuts] at called
    cases called
  | ok bytes =>
    rw [cuts] at called
    cases called
    rw [DescriptorIter.descriptor] at cuts
    obtain ⟨remaining, subtracted, cuts⟩ := bind_eq_ok.mp cuts
    rw [subtract] at subtracted
    split at subtracted <;> cases subtracted
    split at cuts
    · cases cuts
    obtain ⟨length, -, cuts⟩ := bind_eq_ok.mp cuts
    dsimp only at cuts
    split at cuts
    · cases cuts
    split at cuts
    · cases cuts
    rw [slice] at cuts
    split at cuts <;> cases cuts
    rw [List.length_take, List.length_drop]
    simp only
    omega

/-! ### All calls -/

/-- How far the end is. -/
def remaining (iter : DescriptorIter) : Nat :=
  if iter.AtEnd then 0 else iter.totalLength - iter.offset

theorem remaining_le (iter : DescriptorIter) : iter.remaining ≤ iter.totalLength := by
  rw [remaining]
  split <;> omega

theorem remaining_advance_lt {descriptor : List UInt8} (bounded : iter.Bounded)
    (running : ¬ iter.AtEnd) (long : 2 ≤ descriptor.length) :
    (iter.advance descriptor).remaining < iter.remaining := by
  have before : iter.offset < iter.totalLength :=
    Nat.lt_of_le_of_ne bounded.inside fun same => running (.inr same)
  have here : iter.remaining = iter.totalLength - iter.offset := if_neg running
  have there : (iter.advance descriptor).remaining ≤
      iter.totalLength - (iter.offset + descriptor.length) := by
    rw [remaining]
    split
    · exact Nat.zero_le _
    · exact Nat.le_refl _
  omega

theorem remaining_pos (bounded : iter.Bounded) (running : ¬ iter.AtEnd) : 0 < iter.remaining := by
  have before : iter.offset < iter.totalLength :=
    Nat.lt_of_le_of_ne bounded.inside fun same => running (.inr same)
  rw [remaining, if_neg running]
  omega

theorem atEnd_of_remaining (bounded : iter.Bounded) (zero : iter.remaining = 0) : iter.AtEnd := by
  by_cases ended : iter.AtEnd
  · exact ended
  · rw [remaining, if_neg ended] at zero
    exact .inr (Nat.le_antisymm bounded.inside (Nat.sub_eq_zero_iff_le.mp zero))

/-- **The iterator ends.** -/
theorem ends : Ends DescriptorIter.next Bounded remaining where
  invariant := next_bounded
  ended := by
    intro iter bounded zero
    rw [next_of_atEnd (atEnd_of_remaining bounded zero)]
    exact ⟨rfl, zero⟩
  advances := by
    intro iter bounded positive
    rcases next_spec bounded with ⟨ended, -⟩ | ⟨descriptor, running, called, -, isDescriptor, -⟩ |
      ⟨error, -, called, -⟩
    · rw [remaining, if_pos ended] at positive
      exact absurd positive (Nat.lt_irrefl 0)
    · rw [called]
      exact remaining_advance_lt bounded running isDescriptor.1
    · rw [called, remaining, if_pos (stop_atEnd iter)]
      exact positive

theorem take_eq_collect (calls : Nat) (iter : DescriptorIter) :
    iter.take calls = collect DescriptorIter.next calls iter := by
  induction calls generalizing iter with
  | zero => rfl
  | succ calls ih =>
    rw [take, collect]
    rcases iter.next with ⟨_ | item, rest⟩
    · rfl
    · exact congrArg _ (ih rest)

/-- Enough calls yield all items. -/
theorem take_eq_items (bounded : iter.Bounded) {calls : Nat} (enough : iter.remaining ≤ calls) :
    iter.take calls = iter.items := by
  rw [items, take_eq_collect, take_eq_collect, ends.collect_eq bounded (Nat.le_refl _) enough,
    ends.collect_eq bounded (Nat.le_refl _) (Nat.le_succ_of_le iter.remaining_le)]

theorem items_of_atEnd (ended : iter.AtEnd) : iter.items = [] := by
  rw [items, take, next_of_atEnd ended]

/-- **The items, call by call.** -/
theorem items_spec (bounded : iter.Bounded) :
    (iter.AtEnd ∧ iter.items = []) ∨
      (∃ descriptor, iter.next = (some (.ok descriptor), iter.advance descriptor) ∧
        IsDescriptor descriptor ∧ (iter.advance descriptor).Bounded ∧
        (iter.advance descriptor).remaining < iter.remaining ∧
        iter.rest = descriptor ++ (iter.advance descriptor).rest ∧
        iter.items = .ok descriptor :: (iter.advance descriptor).items) ∨
      ∃ error, iter.next = (some (fail error), iter.stop) ∧ 0 < iter.remaining ∧
        iter.items = [fail error] := by
  rcases next_spec bounded with ⟨ended, called⟩ |
    ⟨descriptor, running, called, -, isDescriptor, within, split⟩ | ⟨error, running, called, -⟩
  · exact .inl ⟨ended, items_of_atEnd ended⟩
  · have closer := remaining_advance_lt bounded running isDescriptor.1
    refine .inr (.inl ⟨descriptor, called, isDescriptor, within, closer, split, ?_⟩)
    have onward : (iter.advance descriptor).take iter.totalLength = _ :=
      take_eq_items within (Nat.le_trans (Nat.le_of_lt closer) iter.remaining_le)
    rw [items, take, called, ← onward]
  · refine .inr (.inr ⟨error, called, remaining_pos bounded running, ?_⟩)
    rw [items, take, called]
    cases iter.totalLength with
    | zero => rfl
    | succ calls => simp only [take, next_of_atEnd iter.stop_atEnd]

/-- The iterator has not failed. -/
structure Running (iter : DescriptorIter) : Prop extends iter.Bounded where
  running : iter.failed = false

/-- What is taken off the bytes is a descriptor. -/
theorem front_ok {left descriptor : List UInt8} (cuts : front left = .ok descriptor) :
    IsDescriptor descriptor ∧ ∃ behind, left = descriptor ++ behind := by
  rcases front_cases left with ⟨other, behind, cuts', isDescriptor, split⟩ | ⟨error, fails⟩
  · cases cuts.symm.trans cuts'
    exact ⟨isDescriptor, behind, split⟩
  · exact absurd (cuts.symm.trans fails) (ok_ne_fail _ _)

/-- The descriptor that starts a list of bytes is its front. -/
theorem takesFront : TakesFront front where
  front cuts := (front_ok cuts).2
  nonempty cuts := List.ne_nil_of_length_pos (Nat.lt_of_lt_of_le Nat.two_pos (front_ok cuts).1.1)

/-- A descriptor is taken off whatever is behind it. -/
theorem front_append {descriptor : List UInt8} (isDescriptor : IsDescriptor descriptor)
    (behind : List UInt8) : front (descriptor ++ behind) = .ok descriptor := by
  obtain ⟨long, counted⟩ := isDescriptor
  obtain ⟨length, first, agrees⟩ := Option.map_eq_some_iff.mp counted
  have more : descriptor.length ≤ (descriptor ++ behind).length := by
    rw [List.length_append]
    omega
  have read : (descriptor ++ behind)[0]? = some length := by
    rw [List.getElem?_append_left (by omega), ← List.head?_eq_getElem?, first]
  rw [front_of_read (by omega) read, if_neg (by omega), if_neg (by omega), agrees, List.take_left]

/-- Descriptors, one after the other, are cut into themselves. -/
theorem cut_flatten {descriptors : List (List UInt8)}
    (framed : ∀ descriptor ∈ descriptors, IsDescriptor descriptor) :
    Cut front descriptors.flatten descriptors none := by
  induction descriptors with
  | nil => exact .ended
  | cons descriptor others ih =>
    obtain ⟨here, later⟩ := List.forall_mem_cons.mp framed
    exact .record (front_append here _) List.flatten_cons (ih later)

theorem Running.rest_of_atEnd (running : iter.Running) (ended : iter.AtEnd) : iter.rest = [] := by
  have finished : iter.offset = iter.totalLength := by
    rcases ended with failed | finished
    · cases running.running.symm.trans failed
    · exact finished
  exact List.eq_nil_of_length_eq_zero (by rw [running.length_rest, finished, Nat.sub_self])

/-- **The iterator takes the descriptors off the bytes that are left.** -/
theorem iterates : Iterates DescriptorIter.next front Running AtEnd rest where
  stays := next_of_atEnd
  ended := by
    intro iter running empty
    have none := running.length_rest
    rw [empty, List.length_nil] at none
    exact .inr (Nat.le_antisymm running.inside (Nat.sub_eq_zero_iff_le.mp none.symm))
  stops := by
    intro iter error running nonempty fails
    rcases next_spec running.toBounded with ⟨ended, -⟩ | ⟨descriptor, -, -, cuts, -⟩ |
      ⟨error, -, called, fails'⟩
    · exact absurd (running.rest_of_atEnd ended) nonempty
    · cases fails.symm.trans cuts
    · cases fails.symm.trans fails'
      exact ⟨iter.stop, called, iter.stop_atEnd⟩
  takes := by
    intro iter descriptor running cuts
    rcases next_spec running.toBounded with ⟨ended, -⟩ |
      ⟨other, -, called, cuts', -, within, split⟩ | ⟨error, -, -, fails⟩
    · rw [running.rest_of_atEnd ended] at cuts
      obtain ⟨behind, split⟩ := takesFront.front cuts
      exact absurd (List.append_eq_nil_iff.mp split.symm).1 (takesFront.nonempty cuts)
    · cases cuts.symm.trans cuts'
      exact ⟨_, called, ⟨within, running.running⟩, split⟩
    · exact absurd (cuts.symm.trans fails) (ok_ne_fail _ _)

/-- The records of a cut are descriptors. -/
theorem isDescriptor_of_cut {left : List UInt8} {descriptors : List (List UInt8)}
    {verdict : Option (Fault ConfigurationError)} (cut : Cut front left descriptors verdict) :
    ∀ descriptor ∈ descriptors, IsDescriptor descriptor := by
  intro descriptor member
  obtain ⟨left, cuts⟩ := cut.reads descriptor member
  exact (front_ok cuts).1

/-- The verdict is not a panic. -/
theorem verdict_eq {left : List UInt8} {descriptors : List (List UInt8)}
    {verdict : Option (Fault ConfigurationError)} (cut : Cut front left descriptors verdict) :
    ∃ error : Option ConfigurationError, verdict = error.map Fault.error := by
  obtain ⟨behind, -, stops⟩ := cut.split
  cases verdict with
  | none => exact ⟨none, rfl⟩
  | some fault =>
    rcases front_cases behind with ⟨descriptor, after, cuts, -⟩ | ⟨error, fails⟩
    · cases stops.2.symm.trans cuts
    · cases stops.2.symm.trans fails
      exact ⟨some error, rfl⟩

/-- The items of an iterator are those of the cut. -/
theorem Running.items_eq (running : iter.Running) {descriptors : List (List UInt8)}
    {verdict : Option (Fault ConfigurationError)} (cut : Cut front iter.rest descriptors verdict) :
    iter.items = cutItems descriptors verdict := by
  have few := cut.length_cutItems_le takesFront
  have bounded := running.length_rest
  rw [items, take_eq_collect]
  exact iterates.collect_eq running cut (by omega)

/-- **The items are descriptors, followed by at most one error.** Without an error they tile what is
left. -/
theorem items_shape (bounded : iter.Bounded) :
    ∃ descriptors : List (List UInt8), (∀ descriptor ∈ descriptors, IsDescriptor descriptor) ∧
      ((iter.items = descriptors.map .ok ∧ (iter.failed = false → iter.rest = descriptors.flatten)) ∨
        ∃ error, iter.items = descriptors.map .ok ++ [fail error]) := by
  by_cases failed : iter.failed = true
  · refine ⟨[], nofun, .inl ⟨items_of_atEnd (.inl failed), fun running => ?_⟩⟩
    cases running.symm.trans failed
  · have running : iter.Running := ⟨bounded, Bool.eq_false_iff.mpr failed⟩
    obtain ⟨descriptors, verdict, cut⟩ := exists_cut takesFront iter.rest
    have items := running.items_eq cut
    obtain ⟨behind, split, stops⟩ := cut.split
    refine ⟨descriptors, isDescriptor_of_cut cut, ?_⟩
    obtain ⟨error, rfl⟩ := verdict_eq cut
    cases error with
    | none =>
      refine .inl ⟨items.trans (List.append_nil _), fun _ => ?_⟩
      rw [split, show behind = [] from stops, List.append_nil]
    | some error => exact .inr ⟨error, items⟩

/-! ### Two iterators -/

/-- The iterators are at the same offset and have the same bytes left. -/
structure SameRest (first second : DescriptorIter) : Prop where
  left : first.Bounded
  right : second.Bounded
  totalLength : first.totalLength = second.totalLength
  offset : first.offset = second.offset
  failed : first.failed = second.failed
  rest : first.rest = second.rest

theorem SameRest.atEnd {first second : DescriptorIter} (same : SameRest first second) :
    first.AtEnd ↔ second.AtEnd := by
  rw [AtEnd, AtEnd, same.failed, same.offset, same.totalLength]

/-- **Iterators with the same bytes left** yield the same. -/
theorem next_simulation : Simulation DescriptorIter.next DescriptorIter.next SameRest := by
  intro first second same
  rcases next_spec same.left with ⟨ended, called⟩ |
    ⟨descriptor, running, called, cuts, -, within, split⟩ | ⟨error, running, called, fails⟩
  · rw [called, next_of_atEnd (same.atEnd.mp ended)]
    exact ⟨rfl, same⟩
  · rw [same.rest] at cuts
    rcases next_spec same.right with ⟨ended, -⟩ |
      ⟨other, -, called', cuts', -, within', split'⟩ | ⟨error, -, -, fails⟩
    · exact absurd (same.atEnd.mpr ended) running
    · rw [cuts] at cuts'
      cases cuts'
      rw [called, called']
      refine ⟨rfl, within, within', same.totalLength, ?_, same.failed, ?_⟩
      · exact congrArg (· + descriptor.length) same.offset
      · exact List.append_cancel_left (split.symm.trans (same.rest.trans split'))
    · rw [cuts] at fails
      exact absurd fails (ok_ne_fail _ _)
  · rw [same.rest] at fails
    rcases next_spec same.right with ⟨ended, -⟩ | ⟨other, -, -, cuts, -⟩ |
      ⟨error', -, called', fails'⟩
    · exact absurd (same.atEnd.mpr ended) running
    · rw [fails] at cuts
      exact absurd cuts (fail_ne_ok _ _)
    · rw [fails] at fails'
      cases fails'
      rw [called, called']
      exact ⟨rfl, ⟨same.left.inside, same.left.complete⟩,
        ⟨same.right.inside, same.right.complete⟩, same.totalLength, same.offset, rfl, same.rest⟩

theorem SameRest.items_eq {first second : DescriptorIter} (same : SameRest first second) :
    first.items = second.items := by
  rw [items, items, take_eq_collect, take_eq_collect, same.totalLength]
  exact collect_eq_of_simulation next_simulation same _

end DescriptorIter

/-! ### Well-framed configurations -/

/-- The iterator of a well-framed configuration yields its descriptors. -/
theorem WellFramed.items {bytes : List UInt8} {header : ConfigurationDescriptorHeader}
    {descriptors : List (List UInt8)} (wellFramed : WellFramed bytes header descriptors) :
    ∃ iter, DescriptorIter.new bytes = .ok iter ∧ iter.items = descriptors.map .ok := by
  refine ⟨⟨bytes, 0, header.totalLength.toNat, false⟩, ?_, ?_⟩
  · rw [DescriptorIter.new, wellFramed.parsed, ok_bind,
      if_neg (Nat.not_lt.mpr wellFramed.complete)]
    rfl
  · have running : (⟨bytes, 0, header.totalLength.toNat, false⟩ : DescriptorIter).Running :=
      ⟨⟨Nat.zero_le _, wellFramed.complete⟩, rfl⟩
    have cut := DescriptorIter.cut_flatten wellFramed.framed
    rw [← wellFramed.tiled] at cut
    exact (running.items_eq cut).trans (List.append_nil _)

/-- **A parser's loop over a well-framed configuration is a loop over its descriptors.** -/
theorem forDescriptors_wellFramed {ε σ : Type} {into : ConfigurationError → ε}
    {bytes : List UInt8} {header : ConfigurationDescriptorHeader}
    {descriptors : List (List UInt8)} (wellFramed : WellFramed bytes header descriptors)
    (step : σ → List UInt8 → Checked ε σ) (start : σ) :
    forDescriptors into bytes step start = descriptors.foldlM step start := by
  obtain ⟨iter, created, items⟩ := wellFramed.items
  rw [forDescriptors, created, convert, ok_bind, items, List.foldlM_map]
  rfl

/-- The descriptors before a framing error. -/
def descriptorsOf (bytes : List UInt8) : List (List UInt8) :=
  match DescriptorIter.new bytes with
  | .ok iter => iter.items.filterMap Except.toOption
  | .error _ => []

/-- The descriptors among the items. -/
def yielded (items : List DescriptorIter.Item) : List (List UInt8) :=
  items.filterMap Except.toOption

@[simp] theorem yielded_nil : yielded [] = [] := rfl

@[simp] theorem yielded_cons (descriptor : List UInt8) (rest : List DescriptorIter.Item) :
    yielded (.ok descriptor :: rest) = descriptor :: yielded rest :=
  List.filterMap_cons_some rfl

theorem descriptorsOf_eq_yielded {bytes : List UInt8} {iter : DescriptorIter}
    (created : DescriptorIter.new bytes = .ok iter) : descriptorsOf bytes = yielded iter.items := by
  rw [descriptorsOf, created]
  rfl

theorem WellFramed.descriptorsOf_eq {bytes : List UInt8} {header : ConfigurationDescriptorHeader}
    {descriptors : List (List UInt8)} (wellFramed : WellFramed bytes header descriptors) :
    descriptorsOf bytes = descriptors := by
  obtain ⟨iter, created, items⟩ := wellFramed.items
  rw [descriptorsOf, created]
  simp only [items, List.filterMap_map]
  exact List.filterMap_some

/-- **Without a framing error, a configuration is well framed.** -/
theorem items_wellFramed {bytes : List UInt8} {iter : DescriptorIter}
    {descriptors : List (List UInt8)} (created : DescriptorIter.new bytes = .ok iter)
    (items : iter.items = descriptors.map .ok) :
    ∃ header, WellFramed bytes header descriptors := by
  obtain ⟨others, framed, shape⟩ := DescriptorIter.items_shape (DescriptorIter.new_bounded created)
  obtain ⟨header, parsed, complete, rfl⟩ := DescriptorIter.new_eq_ok.mp created
  rw [items] at shape
  rcases shape with ⟨same, tiled⟩ | ⟨error, broken⟩
  · obtain rfl : descriptors = others :=
      List.map_injective_iff.mpr (fun _ _ same => Except.ok.inj same) same
    refine ⟨header, parsed, complete, ?_, framed⟩
    rw [← tiled rfl, DescriptorIter.rest, List.drop_zero]
  · have member : fail error ∈ descriptors.map Except.ok := by
      rw [broken]
      exact List.mem_append_right _ (List.mem_singleton_self _)
    obtain ⟨descriptor, -, same⟩ := List.mem_map.mp member
    exact absurd same (ok_ne_fail _ _)

end PioUsbHost.Usb
