/-
**The descriptor iterator tiles the configuration.**

The calls of the iterator, over any byte string that it is created for. The slices between its offsets
are the descriptors; they follow one another from the first byte on, and end at wTotalLength or where
no descriptor starts.

* `FramingError`, `framingError_iff`: where no descriptor starts, and what the iterator says there.
* `length_cutItems_le`: how many calls yield something; the configuration descriptor itself has nine
  bytes.
* `descriptorIter_tiles`: every call.
-/

import PioUsbHost.Usb.Robust

namespace PioUsbHost.Usb

open PioUsbHost.Lib.Panic PioUsbHost.Lib.Calls PioUsbHost.Lib.Records

/-! ### Where no descriptor starts -/

/-- The bytes at the offset, which is before the end of the configuration, are not a descriptor. -/
inductive FramingError (bytes : List UInt8) (total offset : Nat) : ConfigurationError → Prop where
  /-- There is only one byte left. -/
  | alone (last : offset + 1 = total) : FramingError bytes total offset .descriptorOverrun
  /-- The descriptor is shorter than two bytes. -/
  | short {length : UInt8} (room : offset + 2 ≤ total) (read : bytes[offset]? = some length)
      (tiny : length.toNat < 2) : FramingError bytes total offset .invalidDescriptorLength
  /-- The descriptor is longer than what remains. -/
  | long {length : UInt8} (room : offset + 2 ≤ total) (read : bytes[offset]? = some length)
      (exceeds : total - offset < length.toNat) : FramingError bytes total offset .descriptorOverrun

namespace DescriptorIter

/-- **Where no descriptor starts**, the iterator says why. -/
theorem framingError_iff {bytes : List UInt8} {total offset : Nat} {error : ConfigurationError}
    (complete : total ≤ bytes.length) :
    FramingError bytes total offset error ↔
      offset < total ∧ front ((bytes.take total).drop offset) = fail error := by
  have lengths : ((bytes.take total).drop offset).length = total - offset := by
    rw [List.length_drop, List.length_take, Nat.min_eq_left complete]
  have first : ∀ {length : UInt8}, offset < total → bytes[offset]? = some length →
      ((bytes.take total).drop offset)[0]? = some length := by
    intro length inside read
    rw [List.getElem?_drop, Nat.add_zero, List.getElem?_take_of_lt inside, read]
  constructor
  · intro wrong
    cases wrong with
    | alone last => exact ⟨by omega, front_of_few (by omega)⟩
    | short room read tiny =>
      refine ⟨by omega, ?_⟩
      rw [front_of_read (by omega) (first (by omega) read), if_pos tiny]
    | long room read exceeds =>
      refine ⟨by omega, ?_⟩
      rw [front_of_read (by omega) (first (by omega) read), if_neg (by omega), if_pos (by omega)]
  · rintro ⟨inside, fails⟩
    by_cases few : total - offset < 2
    · rw [front_of_few (by omega)] at fails
      cases fails
      exact .alone (by omega)
    · have read : bytes[offset]? = some bytes[offset] := List.getElem?_eq_getElem (by omega)
      rw [front_of_read (by omega) (first inside read)] at fails
      split at fails
      next tiny =>
        cases fails
        exact .short (by omega) read tiny
      next =>
        split at fails
        next exceeds =>
          cases fails
          exact .long (by omega) read (by omega)
        next => exact absurd fails (ok_ne_fail _ _)

/-! ### The iterator that is created -/

section Created

variable {bytes : List UInt8} {iter : DescriptorIter} {descriptors : List (List UInt8)}
  {verdict : Option (Fault ConfigurationError)}

theorem new_running (created : new bytes = .ok iter) : iter.Running := by
  have bounded := new_bounded created
  obtain ⟨header, -, -, rfl⟩ := new_eq_ok.mp created
  exact ⟨bounded, rfl⟩

theorem new_offset (created : new bytes = .ok iter) : iter.offset = 0 := by
  obtain ⟨header, -, -, rfl⟩ := new_eq_ok.mp created
  rfl

theorem new_bytes (created : new bytes = .ok iter) : iter.bytes = bytes := by
  obtain ⟨header, -, -, rfl⟩ := new_eq_ok.mp created
  rfl

theorem new_complete (created : new bytes = .ok iter) : wTotalLength bytes ≤ bytes.length := by
  have complete := (new_bounded created).complete
  rwa [new_totalLength created, new_bytes created] at complete

/-- All of the configuration is left. -/
theorem new_rest (created : new bytes = .ok iter) : iter.rest = bytes.take (wTotalLength bytes) := by
  rw [rest, new_bytes created, new_totalLength created, new_offset created, List.drop_zero]

/-- The configuration descriptor has nine bytes. -/
theorem length_configurationDescriptor (created : new bytes = .ok iter) {descriptor : List UInt8}
    (cuts : front iter.rest = .ok descriptor) : descriptor.length = 9 := by
  obtain ⟨header, parsed, -⟩ := new_eq_ok.mp created
  obtain ⟨-, -, nine, -⟩ := ConfigurationDescriptorHeader.of_parse parsed
  obtain ⟨⟨long, counted⟩, behind, split⟩ := front_ok cuts
  have first : descriptor.head? = some 9 := by
    have byte : iter.rest[0]? = some 9 := by
      rw [new_rest created, List.getElem?_take_of_lt (by omega),
        ConfigurationDescriptorHeader.first_of_parse parsed]
    rwa [split, List.getElem?_append_left (by omega), ← List.head?_eq_getElem?] at byte
  rw [first] at counted
  exact (Option.some.inj counted).symm

/-- **How many calls yield something.** -/
theorem length_cutItems_le (created : new bytes = .ok iter)
    (cut : Cut front iter.rest descriptors verdict) :
    (cutItems descriptors verdict).length ≤ wTotalLength bytes / 2 := by
  have all : iter.rest.length = wTotalLength bytes := by
    rw [(new_running created).length_rest, new_offset created, new_totalLength created, Nat.sub_zero]
  obtain ⟨header, parsed, -⟩ := new_eq_ok.mp created
  obtain ⟨-, -, nine, -⟩ := ConfigurationDescriptorHeader.of_parse parsed
  rw [length_cutItems]
  generalize here : iter.rest = left at cut all
  cases cut with
  | ended => exact Nat.zero_le _
  | stopped =>
    show 0 + 1 ≤ _
    omega
  | @record _ descriptor behind others _ cuts split more =>
    -- behind the nine bytes, each descriptor takes two and the error one
    have first := length_configurationDescriptor created (here ▸ cuts)
    have long : ∀ descriptor ∈ others, 2 ≤ descriptor.length := fun descriptor member =>
      (isDescriptor_of_cut more descriptor member).1
    have count := more.length_le long
    have one : verdict.toList.length ≤ 1 := Option.length_toList_le
    rw [split, List.length_append] at all
    rw [List.length_cons]
    omega

end Created

/-! ### One call, and any number of calls -/

variable {iter : DescriptorIter}

theorem next_bytes (iter : DescriptorIter) : iter.next.2.bytes = iter.bytes := by
  rw [next]
  split
  · rfl
  · cases iter.descriptor <;> rfl

/-- **A descriptor is the slice** between the offsets before and after its call. -/
theorem slice_of_next (bounded : iter.Bounded) {descriptor : List UInt8}
    (yields : iter.next.1 = some (.ok descriptor)) :
    (slice iter.bytes iter.offset iter.next.2.offset : Item) = .ok descriptor := by
  rcases next_spec bounded with ⟨-, called⟩ | ⟨other, -, called, -, -, within, split⟩ |
    ⟨error, -, called, -⟩
  · rw [called] at yields
    cases yields
  · rw [called] at yields ⊢
    cases yields
    have inside : iter.offset + descriptor.length ≤ iter.totalLength := within.inside
    have complete := bounded.complete
    have front := congrArg (List.take descriptor.length) split
    rw [List.take_left, rest, List.drop_take, List.take_take, Nat.min_eq_left (by omega)] at front
    show slice iter.bytes iter.offset (iter.offset + descriptor.length) = _
    rw [slice_of_le (Nat.le_add_right _ _) (by omega), Nat.add_sub_cancel_left, front]
  · rw [called] at yields
    cases yields

/-- The calls leave the bytes and their number. -/
theorem after_same (iter : DescriptorIter) (calls : Nat) :
    (after DescriptorIter.next calls iter).bytes = iter.bytes ∧
      (after DescriptorIter.next calls iter).totalLength = iter.totalLength := by
  induction calls with
  | zero => exact ⟨rfl, rfl⟩
  | succ calls ih =>
    rw [after_succ, next_bytes, next_totalLength]
    exact ih

/-- **The offset after some calls** is the end of the descriptors they have yielded. -/
theorem offset_after {descriptors : List (List UInt8)} {verdict : Option (Fault ConfigurationError)}
    (running : iter.Running) (first : iter.offset = 0) (cut : Cut front iter.rest descriptors verdict)
    {calls : Nat} (yielded : calls ≤ descriptors.length) :
    (after DescriptorIter.next calls iter).offset = (descriptors.take calls).flatten.length := by
  obtain ⟨onward, taken⟩ := iterates.taken running cut yielded
  have lengths := congrArg List.length taken
  rw [List.length_append, running.length_rest, onward.length_rest, (after_same iter calls).2,
    first] at lengths
  have inside := onward.inside
  rw [(after_same iter calls).2] at inside
  omega

end DescriptorIter

/-! ### All calls -/

/-- **The iterator tiles the configuration**, with these descriptors and up to this verdict. -/
structure Tiles (bytes : List UInt8) (iter : DescriptorIter) (descriptors : List (List UInt8))
    (verdict : Option ConfigurationError) : Prop where
  /-- The descriptors, then the error if there is one, and nothing from then on. -/
  yields : ∀ calls, nth DescriptorIter.next calls iter =
    (descriptors.map .ok ++ (verdict.map fail).toList)[calls]?
  /-- By its call number wTotalLength / 2 + 1 the iteration is over. -/
  terminates : ∀ calls, wTotalLength bytes / 2 ≤ calls →
    nth DescriptorIter.next calls iter = none
  framed : ∀ descriptor ∈ descriptors, IsDescriptor descriptor
  /-- Each call starts where the descriptors before it end. -/
  offset : ∀ calls ≤ descriptors.length,
    (after DescriptorIter.next calls iter).offset = (descriptors.take calls).flatten.length
  /-- A descriptor is the slice between the offsets before and after its call. -/
  placed : ∀ calls descriptor, nth DescriptorIter.next calls iter = some (.ok descriptor) →
    (slice bytes (after DescriptorIter.next calls iter).offset
      (after DescriptorIter.next (calls + 1) iter).offset : DescriptorIter.Item) = .ok descriptor
  /-- One after the other, the descriptors are the first bytes of the configuration. -/
  consecutive : descriptors.flatten <+: bytes.take (wTotalLength bytes)
  /-- Without an error they are all of it. -/
  whole : verdict = none → descriptors.flatten = bytes.take (wTotalLength bytes)
  /-- The error says what is wrong behind them. -/
  stopped : ∀ error, verdict = some error →
    FramingError bytes (wTotalLength bytes) descriptors.flatten.length error

/-- **`DescriptorIter` tiles the configuration**, whatever its bytes. -/
theorem descriptorIter_tiles {bytes : List UInt8} {iter : DescriptorIter}
    (created : DescriptorIter.new bytes = .ok iter) :
    ∃ descriptors verdict, Tiles bytes iter descriptors verdict := by
  have running := DescriptorIter.new_running created
  obtain ⟨descriptors, fault, cut⟩ := exists_cut DescriptorIter.takesFront iter.rest
  obtain ⟨verdict, rfl⟩ := DescriptorIter.verdict_eq cut
  obtain ⟨behind, split, stops⟩ := cut.split
  have yields := DescriptorIter.iterates.nth_eq running cut
  rw [DescriptorIter.new_rest created] at split
  refine ⟨descriptors, verdict, ?_, ?_, DescriptorIter.isDescriptor_of_cut cut, ?_, ?_,
    ⟨behind, split.symm⟩, ?_, ?_⟩
  · intro calls
    rw [yields, cutItems, Option.map_map]
    rfl
  · intro calls enough
    have few := DescriptorIter.length_cutItems_le created cut
    rw [yields, List.getElem?_eq_none (Nat.le_trans few enough)]
  · intro calls yielded
    exact DescriptorIter.offset_after running (DescriptorIter.new_offset created) cut yielded
  · intro calls descriptor item
    have bounded := after_preserves DescriptorIter.next_bounded running.toBounded calls
    have placed := DescriptorIter.slice_of_next bounded item
    rw [(DescriptorIter.after_same iter calls).1, DescriptorIter.new_bytes created] at placed
    rw [after_succ]
    exact placed
  · rintro rfl
    rw [split, show behind = [] from stops, List.append_nil]
  · rintro error rfl
    obtain ⟨nonempty, fails⟩ := stops
    have stop : (bytes.take (wTotalLength bytes)).drop descriptors.flatten.length = behind := by
      rw [split, List.drop_left]
    rw [← stop] at nonempty fails
    have inside := DescriptorIter.new_complete created
    refine (DescriptorIter.framingError_iff inside).mpr ⟨?_, fails⟩
    rw [Ne, List.drop_eq_nil_iff, List.length_take, Nat.min_eq_left inside] at nonempty
    exact Nat.not_le.mp nonempty

/-- A configuration that ends in a descriptor of no bytes. -/
theorem descriptorIter_tiles_error :
    ∃ iter, DescriptorIter.new [9, 2, 14, 0, 1, 1, 0, 0x80, 50, 3, 0x24, 0, 0, 4] = .ok iter ∧
      nth DescriptorIter.next 1 iter = some (.ok [3, 0x24, 0]) ∧
      nth DescriptorIter.next 2 iter = some (fail .invalidDescriptorLength) ∧
      ∃ descriptors verdict,
        Tiles [9, 2, 14, 0, 1, 1, 0, 0x80, 50, 3, 0x24, 0, 0, 4] iter descriptors verdict :=
  ⟨⟨[9, 2, 14, 0, 1, 1, 0, 0x80, 50, 3, 0x24, 0, 0, 4], 0, 14, false⟩, rfl, rfl, rfl,
    descriptorIter_tiles rfl⟩

end PioUsbHost.Usb
