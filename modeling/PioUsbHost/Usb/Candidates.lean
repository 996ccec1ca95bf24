/-
**The iterators over the functions of one class.**

`CdcAcmFunctions` and `HidInterfaces` are the same loop over the descriptors: an interface descriptor
that the class asks for is a candidate the first time its interface number comes up, and a candidate
is validated on its own. `CandidateIter` is that loop, with the class as a parameter; a bitmap holds
the interface numbers that have come up.

* `markSeen_spec`: the bitmap is a set of interface numbers.
* `body_of_none`, `body_of_came`, `body_of_fresh`: what the loop does with one descriptor.
* `next_spec`: one call, by induction on the bytes that are left.
* `collect_eq_upcoming`: the iterator yields the first candidate of each interface number, and then at
  most one framing error.
-/

import Mathlib.Data.Nat.Bitwise
import PioUsbHost.Lib.FirstOfKey
import PioUsbHost.Usb.Framing
import PioUsbHost.Usb.InterfaceScan

namespace PioUsbHost.Usb

open PioUsbHost.Lib PioUsbHost.Lib.Panic PioUsbHost.Lib.Calls

/-! ### The bitmap -/

/-- `[u32; 8]`, one bit for each interface number. -/
abbrev SeenInterfaces := List UInt32

/-- `1_u32 << amount`. -/
def shiftOne {ε : Type} (amount : UInt8) : Checked ε UInt32 :=
  if amount < 32 then .ok (1 <<< amount.toUInt32) else .error .panic

/-- Whether the interface had been seen, and the bitmap in which it has. -/
def markSeen {ε : Type} (seen : SeenInterfaces) (interface : UInt8) :
    Checked ε (Bool × SeenInterfaces) := do
  let word := (interface / 32).toNat
  let mask ← shiftOne (interface % 32)
  let bits ← index seen word
  return (bits &&& mask ≠ 0, seen.set word (bits ||| mask))

/-- The interface number is in the set that the bitmap stands for. -/
def Seen (seen : SeenInterfaces) (interface : UInt8) : Prop :=
  ∃ bits ∈ seen[interface.toNat / 32]?, bits.toNat.testBit (interface.toNat % 32) = true

theorem not_seen_replicate (interface : UInt8) : ¬ Seen (List.replicate 8 0) interface := by
  rintro ⟨bits, read, bit⟩
  rw [List.getElem?_replicate] at read
  split at read <;> cases read
  simp at bit

theorem toNat_shiftOne {amount : Nat} (small : amount < 32) :
    ((1 : UInt32) <<< UInt32.ofNat amount).toNat = 2 ^ amount := by
  rw [UInt32.toNat_shiftLeft, UInt32.toNat_ofNat', Nat.mod_eq_of_lt (by omega : amount < 2 ^ 32),
    Nat.mod_eq_of_lt small, UInt32.toNat_one, Nat.one_shiftLeft]
  exact Nat.mod_eq_of_lt (Nat.pow_lt_pow_right (by decide) small)

/-- One bit of a word, tested as the source does. -/
theorem and_shiftOne_ne_zero (bits : UInt32) {amount : Nat} (small : amount < 32) :
    bits &&& 1 <<< UInt32.ofNat amount ≠ 0 ↔ bits.toNat.testBit amount = true := by
  rw [ne_eq, ← UInt32.toNat_inj, UInt32.toNat_and, toNat_shiftOne small, Nat.and_two_pow]
  cases bits.toNat.testBit amount <;> simp

theorem testBit_or_shiftOne (bits : UInt32) {amount : Nat} (small : amount < 32) (position : Nat) :
    (bits ||| 1 <<< UInt32.ofNat amount).toNat.testBit position =
      (bits.toNat.testBit position || decide (amount = position)) := by
  rw [UInt32.toNat_or, Nat.testBit_or, toNat_shiftOne small, Nat.testBit_two_pow]

/-- **The bitmap is a set of interface numbers**: marking one tells whether it was in, and puts it
in. -/
theorem markSeen_spec (ε : Type) {seen : SeenInterfaces} (size : seen.length = 8)
    (interface : UInt8) :
    ∃ was after, (markSeen seen interface : Checked ε _) = .ok (was, after) ∧ after.length = 8 ∧
      (was = true ↔ Seen seen interface) ∧
      ∀ other, Seen after other ↔ other = interface ∨ Seen seen other := by
  have range := interface.toNat_lt
  have low : (interface % 32).toUInt32 = UInt32.ofNat (interface.toNat % 32) := by
    rw [← UInt32.toNat_inj, UInt8.toNat_toUInt32, UInt8.toNat_mod, UInt32.toNat_ofNat']
    simp; omega
  have word : (interface / 32).toNat = interface.toNat / 32 := UInt8.toNat_div _ _
  have small : interface.toNat % 32 < 32 := Nat.mod_lt _ (by decide)
  have shift : (shiftOne (interface % 32) : Checked ε UInt32) =
      .ok (1 <<< UInt32.ofNat (interface.toNat % 32)) := by
    rw [shiftOne, if_pos, low]
    rw [UInt8.lt_iff_toNat_lt, UInt8.toNat_mod]
    exact small
  have inside : interface.toNat / 32 < seen.length := by omega
  have read : seen[interface.toNat / 32]? = some seen[interface.toNat / 32] :=
    List.getElem?_eq_getElem inside
  refine ⟨_, _, by rw [markSeen, shift, word]; simp only [ok_bind, index_of_lt inside]; rfl,
    by rw [List.length_set, size], ?_, fun other => ?_⟩
  · rw [decide_eq_true_iff, and_shiftOne_ne_zero _ small, Seen, read]
    simp
  · by_cases sameWord : interface.toNat / 32 = other.toNat / 32
    · rw [Seen, Seen, ← sameWord, List.getElem?_set_self inside, read]
      simp only [Option.mem_def, Option.some.injEq, exists_eq_left', testBit_or_shiftOne _ small,
        Bool.or_eq_true, decide_eq_true_eq]
      rw [or_comm, ← UInt8.toNat_inj]
      refine or_congr_left ⟨fun sameBit => ?_, fun same => by rw [same]⟩
      omega
    · have different : other ≠ interface := fun same => sameWord (by rw [same])
      rw [Seen, Seen, List.getElem?_set_ne sameWord]
      simp only [different, false_or]

/-! ### The loop -/

/-- What a class looks for, and how it validates a candidate. -/
structure CandidateClass (ε α : Type) where
  /-- `From<ConfigurationError>`. -/
  into : ConfigurationError → ε
  isCandidate : InterfaceDescriptor → Bool
  /-- A malformed interface descriptor that still identifies a candidate. -/
  isMalformedCandidate : List UInt8 → Checked ε Bool
  /-- What a malformed candidate reports, from the error of the parser. -/
  malformed : ConfigurationError → ε
  discoverCandidate : List UInt8 → UInt8 → Checked ε α
  /-- What `discover` reports when there is no candidate. -/
  missing : ε

/-- An iterator over the interfaces of one kind. -/
structure CandidateIter where
  bytes : List UInt8
  descriptors : DescriptorIter
  seenInterfaces : SeenInterfaces
  deriving DecidableEq, Repr

namespace CandidateClass

variable {ε α : Type} (class_ : CandidateClass ε α)

/-- Validate the configuration framing and create the iterator. -/
def new (bytes : List UInt8) : Checked ε CandidateIter := do
  return {
    bytes
    descriptors := ← convert class_.into (DescriptorIter.new bytes)
    seenInterfaces := List.replicate 8 0 }

/-- The body of the loop: what it returns for one descriptor, or nothing when it continues. -/
def body (bytes : List UInt8) (seen : SeenInterfaces) (descriptor : List UInt8) :
    Checked ε (Option (Checked ε α) × SeenInterfaces) := do
  if (← index descriptor 1) ≠ descriptorTypeInterface then return (none, seen)
  else
    match InterfaceDescriptor.parse descriptor with
    | .error .panic => .error .panic
    | .error (.error error) =>
      if ← class_.isMalformedCandidate descriptor then
        let (wasSeen, seen) ← markSeen seen (← index descriptor 2)
        if wasSeen then return (none, seen)
        else return (some (fail (class_.malformed error)), seen)
      else return (none, seen)
    | .ok interface =>
      if class_.isCandidate interface then
        let (wasSeen, seen) ← markSeen seen interface.number
        if wasSeen then return (none, seen)
        else return (some (class_.discoverCandidate bytes interface.number), seen)
      else return (none, seen)

/-- The end of a pass: what the call returns, or nothing when the loop continues. -/
def settle (iter : CandidateIter) :
    Checked ε (Option (Checked ε α) × SeenInterfaces) →
      Option (Option (Checked ε α)) × CandidateIter
  | .error fault => (some (some (.error fault)), iter)
  | .ok (none, seenInterfaces) => (none, { iter with seenInterfaces })
  | .ok (some item, seenInterfaces) => (some (some item), { iter with seenInterfaces })

/-- One pass through the loop. -/
def pass (iter : CandidateIter) : Option (Option (Checked ε α)) × CandidateIter :=
  match iter.descriptors.next with
  | (none, descriptors) => (some none, { iter with descriptors })
  | (some (.error fault), descriptors) =>
    (some (some (convert class_.into (.error fault))), { iter with descriptors })
  | (some (.ok descriptor), descriptors) =>
    settle { iter with descriptors } (class_.body iter.bytes iter.seenInterfaces descriptor)

theorem pass_advances {iter after : CandidateIter} (continues : class_.pass iter = (none, after)) :
    after.descriptors.totalLength - after.descriptors.offset <
      iter.descriptors.totalLength - iter.descriptors.offset := by
  rw [pass] at continues
  rcases called : iter.descriptors.next with ⟨_ | ⟨fault | descriptor⟩, descriptors⟩ <;>
    rw [called] at continues
  · cases continues
  · cases continues
  · have lower := DescriptorIter.next_advances called
    rcases did : class_.body iter.bytes iter.seenInterfaces descriptor with
        fault | ⟨_ | item, seen⟩ <;> simp only [did] at continues <;> cases continues
    exact lower

/-- One call. -/
def next (iter : CandidateIter) : Option (Checked ε α) × CandidateIter :=
  match _passed : class_.pass iter with
  | (some result, after) => (result, after)
  | (none, after) => next after
termination_by iter.descriptors.totalLength - iter.descriptors.offset
decreasing_by exact pass_advances class_ (by assumption)

/-- Everything the iterator yields; each call that yields something takes a descriptor. -/
def items (iter : CandidateIter) : List (Checked ε α) :=
  collect class_.next (iter.descriptors.totalLength + 1) iter

/-- The loop over the items; it ends at the first function that is valid. -/
def firstValid (firstError : Option ε) : List (Checked ε α) → Checked ε α
  | [] => fail (firstError.getD class_.missing)
  | .ok found :: _ => .ok found
  | .error .panic :: _ => .error .panic
  | .error (.error error) :: rest =>
    firstValid (if firstError.isNone then some error else firstError) rest

/-- The first valid function, or else the first error. -/
def discover (bytes : List UInt8) : Checked ε α := do
  class_.firstValid none (class_.items (← class_.new bytes))

/-- Validate a particular candidate, once the configuration framing is validated. -/
def discoverInterface (bytes : List UInt8) (interface : UInt8) : Checked ε α := do
  let _ ← convert class_.into (DescriptorIter.new bytes)
  class_.discoverCandidate bytes interface

/-! ### One descriptor -/

/-- The class's own part does not panic. -/
structure Proper : Prop where
  names : ∀ descriptor, ∃ named, class_.isMalformedCandidate descriptor = .ok named ∧
    (named = true → 2 < descriptor.length)
  discovers : ∀ bytes interface, Safe (class_.discoverCandidate bytes interface)

/-- The candidate that a descriptor is, by its interface number, with what is returned for it. -/
def candidate? (bytes : List UInt8) (descriptor : List UInt8) : Option (UInt8 × Checked ε α) :=
  if IsInterface descriptor then
    match InterfaceDescriptor.parse descriptor with
    | .ok interface =>
      if class_.isCandidate interface then
        some (interface.number, class_.discoverCandidate bytes interface.number)
      else none
    | .error _ =>
      match class_.isMalformedCandidate descriptor with
      | .ok true =>
        descriptor[2]?.map (·, fail (class_.malformed .invalidInterfaceDescriptor))
      | _ => none
  else none

variable {class_} {bytes descriptor : List UInt8} {seen : SeenInterfaces} {came : List UInt8}

/-- The bitmap stands for a list of interface numbers. -/
structure Holds (seen : SeenInterfaces) (came : List UInt8) : Prop where
  size : seen.length = 8
  mem : ∀ interface, Seen seen interface ↔ interface ∈ came

theorem holds_nil : Holds (List.replicate 8 0) [] where
  size := rfl
  mem interface := iff_of_false (not_seen_replicate interface) List.not_mem_nil

/-- An interface descriptor is read by the parser, and by the check for malformed ones. -/
theorem body_isInterface (isInterface : IsInterface descriptor) :
    class_.body bytes seen descriptor =
      match InterfaceDescriptor.parse descriptor with
      | .ok interface =>
        if class_.isCandidate interface then do
          let (wasSeen, seen) ← markSeen seen interface.number
          if wasSeen then return (none, seen)
          else return (some (class_.discoverCandidate bytes interface.number), seen)
        else .ok (none, seen)
      | .error _ => do
        if ← class_.isMalformedCandidate descriptor then
          let (wasSeen, seen) ← markSeen seen (← index descriptor 2)
          if wasSeen then return (none, seen)
          else return (some (fail (class_.malformed .invalidInterfaceDescriptor)), seen)
        else return (none, seen) := by
  rw [body, index_of_getElem? isInterface, ok_bind, if_neg (not_not_intro rfl)]
  cases parsed : InterfaceDescriptor.parse descriptor with
  | ok interface => rfl
  | error fault =>
    rw [InterfaceDescriptor.parse_eq_error parsed]

/-- What is not a candidate is skipped. -/
theorem body_of_none (proper : class_.Proper) (isDescriptor : IsDescriptor descriptor)
    (other : class_.candidate? bytes descriptor = none) :
    class_.body bytes seen descriptor = .ok (none, seen) := by
  by_cases isInterface : IsInterface descriptor
  · rw [body_isInterface isInterface]
    rw [candidate?, if_pos isInterface] at other
    cases parsed : InterfaceDescriptor.parse descriptor with
    | ok interface =>
      rw [parsed] at other
      simp only at other ⊢
      split at other
      · cases other
      next unwanted => rw [if_neg unwanted]
    | error fault =>
      rw [parsed] at other
      obtain ⟨named, names, long⟩ := proper.names descriptor
      cases named with
      | false =>
        rw [names]
        rfl
      | true =>
        rw [names] at other
        simp only [List.getElem?_eq_getElem (long rfl), Option.map_some, reduceCtorEq] at other
  · obtain ⟨kind, typed, read⟩ := isDescriptor.index_one ε
    have plain : kind ≠ descriptorTypeInterface := by
      rintro rfl
      exact isInterface typed
    rw [body, read, ok_bind, if_pos plain, pure_eq_ok]

/-- What is returned for a candidate is not a panic. -/
theorem item_safe {interface : UInt8} {item : Checked ε α} (proper : class_.Proper)
    (candidate : class_.candidate? bytes descriptor = some (interface, item)) : Safe item := by
  rw [candidate?] at candidate
  repeat' split at candidate
  · cases candidate
    exact proper.discovers _ _
  · cases candidate
  · obtain ⟨number, -, same⟩ := Option.map_eq_some_iff.mp candidate
    cases same
    exact safe_fail _
  all_goals cases candidate

/-- A candidate is looked up in the bitmap, and returned if it is not there. -/
theorem body_of_some {interface : UInt8} {item : Checked ε α} (proper : class_.Proper)
    (candidate : class_.candidate? bytes descriptor = some (interface, item)) :
    class_.body bytes seen descriptor = (do
      let (wasSeen, seen) ← markSeen seen interface
      if wasSeen then return (none, seen) else return (some item, seen)) := by
  rw [candidate?] at candidate
  split at candidate
  next isInterface =>
    rw [body_isInterface isInterface]
    cases parsed : InterfaceDescriptor.parse descriptor with
    | ok found =>
      rw [parsed] at candidate
      simp only at candidate ⊢
      split at candidate
      next wanted =>
        cases candidate
        rw [if_pos wanted]
      · cases candidate
    | error fault =>
      rw [parsed] at candidate
      obtain ⟨named, names, long⟩ := proper.names descriptor
      rw [names] at candidate ⊢
      cases named with
      | false => cases candidate
      | true =>
        simp only [List.getElem?_eq_getElem (long rfl), Option.map_some, Option.some.injEq,
          Prod.mk.injEq] at candidate
        obtain ⟨rfl, rfl⟩ := candidate
        simp only [ok_bind, if_true, index_of_lt (long rfl)]
  · cases candidate

/-- **A candidate whose interface number has come up** is skipped. -/
theorem body_of_came {interface : UInt8} {item : Checked ε α} (proper : class_.Proper)
    (holds : Holds seen came)
    (candidate : class_.candidate? bytes descriptor = some (interface, item))
    (again : interface ∈ came) :
    ∃ after, Holds after came ∧ class_.body bytes seen descriptor = .ok (none, after) := by
  obtain ⟨was, after, marks, size, before, adds⟩ := markSeen_spec ε holds.size interface
  obtain rfl : was = true := before.mpr ((holds.mem interface).mpr again)
  refine ⟨after, ⟨size, fun other => ?_⟩, ?_⟩
  · rw [adds, holds.mem]
    refine ⟨?_, .inr⟩
    rintro (rfl | came)
    · exact again
    · exact came
  · rw [body_of_some proper candidate, marks]
    rfl

/-- **A candidate whose interface number has not come up** is returned. -/
theorem body_of_fresh {interface : UInt8} {item : Checked ε α} (proper : class_.Proper)
    (holds : Holds seen came)
    (candidate : class_.candidate? bytes descriptor = some (interface, item))
    (fresh : interface ∉ came) :
    ∃ after, Holds after (interface :: came) ∧
      class_.body bytes seen descriptor = .ok (some item, after) := by
  obtain ⟨was, after, marks, size, before, adds⟩ := markSeen_spec ε holds.size interface
  obtain rfl : was = false := Bool.eq_false_iff.mpr fun is =>
    fresh ((holds.mem interface).mp (before.mp is))
  refine ⟨after, ⟨size, fun other => ?_⟩, ?_⟩
  · rw [adds, holds.mem, List.mem_cons]
  · rw [body_of_some proper candidate, marks]
    rfl

/-! ### One call -/

variable {iter after : CandidateIter}

theorem next_of_returns {result : Option (Checked ε α)}
    (returns : class_.pass iter = (some result, after)) : class_.next iter = (result, after) := by
  rw [next]
  split <;> simp_all

theorem next_of_continues (continues : class_.pass iter = (none, after)) :
    class_.next iter = class_.next after := by
  rw [next]
  split <;> simp_all

/-- The iterator is inside the configuration; the interface numbers have come up. -/
structure Valid (iter : CandidateIter) (came : List UInt8) : Prop where
  bounded : iter.descriptors.Bounded
  holds : Holds iter.seenInterfaces came

/-- Some interface numbers have come up. -/
def Running (iter : CandidateIter) : Prop := ∃ came, Valid iter came

/-- The framing errors among the items. -/
def errorsOf (class_ : CandidateClass ε α) (items : List DescriptorIter.Item) : List (Checked ε α) :=
  items.filterMap fun
    | .ok _ => none
    | .error fault => some (convert class_.into (.error fault))

/-- What is still to be yielded: the first candidate of each interface number that has not come up,
and then the framing errors. -/
def upcoming (class_ : CandidateClass ε α) (bytes : List UInt8) (came : List UInt8)
    (items : List DescriptorIter.Item) : List (Checked ε α) :=
  (firstOfKey came ((items.filterMap Except.toOption).filterMap (class_.candidate? bytes))).map
    Prod.snd ++ class_.errorsOf items

section Upcoming

variable {came : List UInt8} {items : List DescriptorIter.Item}

theorem upcoming_nil : class_.upcoming bytes came [] = [] := rfl

theorem upcoming_fail (error : ConfigurationError) :
    class_.upcoming bytes came [fail error] = [fail (class_.into error)] := rfl

theorem upcoming_of_none (candidate : class_.candidate? bytes descriptor = none) :
    class_.upcoming bytes came (.ok descriptor :: items) = class_.upcoming bytes came items := by
  have listed : ((.ok descriptor :: items).filterMap Except.toOption).filterMap
        (class_.candidate? bytes) =
      (items.filterMap Except.toOption).filterMap (class_.candidate? bytes) :=
    List.filterMap_cons_none candidate
  rw [upcoming, upcoming, listed]
  rfl

variable {interface : UInt8} {item : Checked ε α}

/-- The candidates of a list that starts with one. -/
theorem upcoming_of_some (candidate : class_.candidate? bytes descriptor = some (interface, item)) :
    class_.upcoming bytes came (.ok descriptor :: items) =
      (firstOfKey came ((interface, item) ::
        (items.filterMap Except.toOption).filterMap (class_.candidate? bytes))).map Prod.snd ++
        class_.errorsOf items := by
  have listed : ((.ok descriptor :: items).filterMap Except.toOption).filterMap
        (class_.candidate? bytes) =
      (interface, item) :: (items.filterMap Except.toOption).filterMap (class_.candidate? bytes) :=
    List.filterMap_cons_some candidate
  rw [upcoming, listed]
  rfl

theorem upcoming_of_came (candidate : class_.candidate? bytes descriptor = some (interface, item))
    (again : interface ∈ came) :
    class_.upcoming bytes came (.ok descriptor :: items) = class_.upcoming bytes came items := by
  rw [upcoming_of_some candidate, firstOfKey_cons_of_mem again, upcoming]

theorem upcoming_of_fresh (candidate : class_.candidate? bytes descriptor = some (interface, item))
    (fresh : interface ∉ came) :
    class_.upcoming bytes came (.ok descriptor :: items) =
      item :: class_.upcoming bytes (interface :: came) items := by
  rw [upcoming_of_some candidate, firstOfKey_cons_of_not_mem fresh, List.map_cons,
    List.cons_append, upcoming]

end Upcoming

/-- A call that yields nothing is at the end, and one that yields something takes it from what is
still to be yielded. -/
structure Call (class_ : CandidateClass ε α) (iter : CandidateIter) (came : List UInt8)
    (result : Option (Checked ε α)) (after : CandidateIter) (later : List UInt8) : Prop where
  valid : Valid after later
  bytes : after.bytes = iter.bytes
  safe : ∀ item ∈ result, Safe item
  ended : result = none → after.descriptors.remaining = 0
  advances : result.isSome → after.descriptors.remaining < iter.descriptors.remaining
  yields : class_.upcoming iter.bytes came iter.descriptors.items =
    result.toList ++ if result.isSome then
      class_.upcoming iter.bytes later after.descriptors.items else []

section Turns

variable {came : List UInt8}

/-- At the end a call yields nothing. -/
theorem call_atEnd (valid : Valid iter came) (ended : iter.descriptors.AtEnd)
    (items : iter.descriptors.items = []) :
    Call class_ iter came (class_.next iter).1 (class_.next iter).2 came := by
  have returns : class_.pass iter = (some none, iter) := by
    rw [pass, DescriptorIter.next_of_atEnd ended]
  rw [next_of_returns returns]
  refine ⟨valid, rfl, ?_, fun _ => if_pos ended, ?_, ?_⟩
  · intro item member
    cases member
  · intro some
    cases some
  · rw [items, upcoming_nil]
    rfl

/-- A framing error is yielded, and the last item. -/
theorem call_fails (valid : Valid iter came) {error : ConfigurationError}
    (called : iter.descriptors.next = (some (fail error), iter.descriptors.stop))
    (positive : 0 < iter.descriptors.remaining) (items : iter.descriptors.items = [fail error]) :
    Call class_ iter came (class_.next iter).1 (class_.next iter).2 came := by
  have returns : class_.pass iter = (some (some (fail (class_.into error))),
      { iter with descriptors := iter.descriptors.stop }) := by
    rw [pass, called]
    rfl
  have atEnd := DescriptorIter.stop_atEnd iter.descriptors
  have finished : iter.descriptors.stop.remaining = 0 := if_pos atEnd
  rw [next_of_returns returns]
  refine ⟨⟨⟨valid.bounded.inside, valid.bounded.complete⟩, valid.holds⟩, rfl, ?_, ?_, ?_, ?_⟩
  · rintro _ ⟨⟩
    exact safe_fail _
  · intro none
    cases none
  · intro some
    rw [finished]
    exact positive
  · rw [items, upcoming_fail, DescriptorIter.items_of_atEnd atEnd, upcoming_nil]
    rfl

/-- A candidate whose interface number has not come up is yielded. -/
theorem call_returns (valid : Valid iter came) (proper : class_.Proper)
    (passes : class_.pass iter = settle
      { iter with descriptors := iter.descriptors.advance descriptor }
      (class_.body iter.bytes iter.seenInterfaces descriptor))
    (within : (iter.descriptors.advance descriptor).Bounded)
    (closer : (iter.descriptors.advance descriptor).remaining < iter.descriptors.remaining)
    (items : iter.descriptors.items = .ok descriptor :: (iter.descriptors.advance descriptor).items)
    {interface : UInt8} {item : Checked ε α}
    (candidate : class_.candidate? iter.bytes descriptor = some (interface, item))
    (fresh : interface ∉ came) :
    Call class_ iter came (class_.next iter).1 (class_.next iter).2 (interface :: came) := by
  obtain ⟨seenInterfaces, marked, body⟩ := body_of_fresh proper valid.holds candidate fresh
  rw [body] at passes
  rw [next_of_returns passes]
  refine ⟨⟨within, marked⟩, rfl, ?_, ?_, fun _ => closer, ?_⟩
  · rintro _ ⟨⟩
    exact item_safe proper candidate
  · intro none
    cases none
  · rw [items, upcoming_of_fresh candidate fresh]
    rfl

/-- **One call.** -/
theorem next_spec (proper : class_.Proper) (valid : Valid iter came) :
    ∃ later, Call class_ iter came (class_.next iter).1 (class_.next iter).2 later := by
  induction left : iter.descriptors.remaining using Nat.strongRecOn generalizing iter came with
  | ind remaining ih =>
    subst left
    rcases DescriptorIter.items_spec valid.bounded with ⟨ended, items⟩ |
      ⟨descriptor, called, isDescriptor, within, closer, -, items⟩ | ⟨error, called, positive, items⟩
    · exact ⟨came, call_atEnd valid ended items⟩
    · have passes : class_.pass iter = settle
          { iter with descriptors := iter.descriptors.advance descriptor }
          (class_.body iter.bytes iter.seenInterfaces descriptor) := by
        rw [pass, called]
      -- a pass that returns nothing leaves what is still to be yielded as it was
      have skips : ∀ seenInterfaces, Holds seenInterfaces came →
          class_.body iter.bytes iter.seenInterfaces descriptor = .ok (none, seenInterfaces) →
          class_.upcoming iter.bytes came iter.descriptors.items =
            class_.upcoming iter.bytes came (iter.descriptors.advance descriptor).items →
          ∃ later, Call class_ iter came (class_.next iter).1 (class_.next iter).2 later := by
        intro seenInterfaces still body same
        rw [body] at passes
        rw [next_of_continues passes]
        obtain ⟨later, call⟩ := @ih _ closer { iter with
          descriptors := iter.descriptors.advance descriptor, seenInterfaces } came ⟨within, still⟩ rfl
        exact ⟨later, call.valid, call.bytes, call.safe, call.ended,
          fun some => Nat.lt_trans (call.advances some) closer, same.trans call.yields⟩
      cases candidate : class_.candidate? iter.bytes descriptor with
      | none =>
        refine skips _ valid.holds (body_of_none proper isDescriptor candidate) ?_
        rw [items, upcoming_of_none candidate]
      | some pair =>
        obtain ⟨interface, item⟩ := pair
        by_cases again : interface ∈ came
        · obtain ⟨seenInterfaces, still, body⟩ := body_of_came proper valid.holds candidate again
          refine skips _ still body ?_
          rw [items, upcoming_of_came candidate again]
        · exact ⟨interface :: came,
            call_returns valid proper passes within closer items candidate again⟩
    · exact ⟨came, call_fails valid called positive items⟩

end Turns

/-! ### All calls -/

/-- **The iterator ends.** -/
theorem ends (proper : class_.Proper) :
    Ends class_.next Running (·.descriptors.remaining) where
  invariant := by
    rintro iter ⟨came, valid⟩
    obtain ⟨later, call⟩ := next_spec proper valid
    exact ⟨later, call.valid⟩
  ended := by
    rintro iter ⟨came, valid⟩ zero
    obtain ⟨later, call⟩ := next_spec proper valid
    have none : (class_.next iter).1 = none := by
      cases result : (class_.next iter).1 with
      | none => rfl
      | some item =>
        have closer := call.advances (result ▸ rfl)
        rw [zero] at closer
        exact absurd closer (Nat.not_lt_zero _)
    exact ⟨none, call.ended none⟩
  advances := by
    rintro iter ⟨came, valid⟩ positive
    obtain ⟨later, call⟩ := next_spec proper valid
    cases result : (class_.next iter).1 with
    | none =>
      rw [call.ended result]
      exact positive
    | some item => exact call.advances (result ▸ rfl)

/-- Enough calls yield all that is to be yielded. -/
theorem collect_eq_upcoming (proper : class_.Proper) (valid : Valid iter came) {calls : Nat}
    (enough : iter.descriptors.remaining < calls) :
    collect class_.next calls iter = class_.upcoming iter.bytes came iter.descriptors.items := by
  induction calls generalizing iter came with
  | zero => exact absurd enough (Nat.not_lt_zero _)
  | succ calls ih =>
    obtain ⟨later, call⟩ := next_spec proper valid
    rw [call.yields]
    cases result : (class_.next iter).1 with
    | none =>
      rw [collect_of_none result]
      rfl
    | some item =>
      have closer := call.advances (result ▸ rfl)
      rw [collect_of_some result, ih call.valid (by omega), call.bytes]
      rfl

end CandidateClass

end PioUsbHost.Usb
