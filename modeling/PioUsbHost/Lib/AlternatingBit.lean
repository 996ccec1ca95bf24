/-
**The alternating bit: a sender that repeats, a receiver that discards what it has seen.**

A receiver expects one of two bits. It accepts an item that carries the expected bit and then expects
the other one; an item with the other bit is a repetition and is discarded. A sender repeats the head
of its queue until it sees an acknowledgement.

* `receive_expected`: whatever the receiver did with an item, it then expects the other bit, so a
  repetition changes nothing (`receive_receive`).
* `deliverAll_repeat`: an item delivered ahead of time does not change what a whole message delivers.
* `deliverAll_accepted_iff`: a message arrives whole exactly when the bits agree at its start, and
  otherwise without its first item.
* `InStep`: sender and receiver hold the sequence between them, kept by a delivery whether its
  acknowledgement arrives (`InStep.acknowledged`) or not (`InStep.delivered`).
-/

import Mathlib.Data.List.Basic

namespace PioUsbHost.Lib

universe u v

/-- A type of two values. -/
class AlternatingBit (β : Type u) where
  flip : β → β
  flip_ne : ∀ bit, flip bit ≠ bit
  eq_flip_of_ne : ∀ {first second : β}, first ≠ second → first = flip second

namespace AlternatingBit

variable {β : Type u} {α : Type v} [AlternatingBit β]

/-! ### The receiver -/

/-- The bit the receiver expects, and what it has accepted so far. -/
structure Receiver (β : Type u) (α : Type v) where
  expected : β
  accepted : List α
  deriving DecidableEq

namespace Receiver

variable [DecidableEq β]

/-- Accept an item with the expected bit, discard any other. -/
def receive (receiver : Receiver β α) (bit : β) (item : α) : Receiver β α :=
  if bit = receiver.expected then
    { expected := flip receiver.expected, accepted := receiver.accepted ++ [item] }
  else receiver

theorem receive_of_eq {receiver : Receiver β α} {bit : β} (agrees : bit = receiver.expected)
    (item : α) : receiver.receive bit item =
      { expected := flip receiver.expected, accepted := receiver.accepted ++ [item] } :=
  if_pos agrees

theorem receive_of_ne {receiver : Receiver β α} {bit : β} (differs : bit ≠ receiver.expected)
    (item : α) : receiver.receive bit item = receiver :=
  if_neg differs

/-- **Accepted or discarded, the receiver then expects the other bit.** -/
theorem receive_expected (receiver : Receiver β α) (bit : β) (item : α) :
    (receiver.receive bit item).expected = flip bit := by
  by_cases agrees : bit = receiver.expected
  · rw [receive_of_eq agrees, agrees]
  · rw [receive_of_ne agrees]
    exact eq_flip_of_ne (Ne.symm agrees)

/-- A repetition is discarded. -/
theorem receive_receive (receiver : Receiver β α) (bit : β) (item repeated : α) :
    (receiver.receive bit item).receive bit repeated = receiver.receive bit item := by
  apply receive_of_ne
  rw [receive_expected]
  exact (flip_ne bit).symm

/-! ### A message of several items -/

/-- Every item of a message, delivered with alternating bits. -/
def deliverAll (receiver : Receiver β α) (bit : β) : List α → Receiver β α
  | [] => receiver
  | item :: rest => deliverAll (receiver.receive bit item) (flip bit) rest

@[simp] theorem deliverAll_nil (receiver : Receiver β α) (bit : β) :
    receiver.deliverAll bit [] = receiver := rfl

@[simp] theorem deliverAll_cons (receiver : Receiver β α) (bit : β) (item : α) (rest : List α) :
    receiver.deliverAll bit (item :: rest) =
      (receiver.receive bit item).deliverAll (flip bit) rest := rfl

/-- **An item that has already arrived does not change what the message delivers.** -/
theorem deliverAll_repeat (receiver : Receiver β α) (bit : β) (item : α) (rest : List α) :
    (receiver.receive bit item).deliverAll bit (item :: rest) =
      receiver.deliverAll bit (item :: rest) := by
  rw [deliverAll_cons, deliverAll_cons, receive_receive]

theorem deliverAll_of_eq {receiver : Receiver β α} {bit : β} (agrees : bit = receiver.expected)
    (items : List α) :
    (receiver.deliverAll bit items).accepted = receiver.accepted ++ items := by
  induction items generalizing receiver bit with
  | nil => exact (List.append_nil _).symm
  | cons item rest ih =>
    have next : flip bit = (receiver.receive bit item).expected :=
      (receive_expected receiver bit item).symm
    rw [deliverAll_cons, ih next, receive_of_eq agrees, List.append_assoc, List.singleton_append]

/-- The first item of a message whose bit does not agree is taken for a repetition. -/
theorem deliverAll_of_ne {receiver : Receiver β α} {bit : β} (differs : bit ≠ receiver.expected)
    (items : List α) :
    (receiver.deliverAll bit items).accepted = receiver.accepted ++ items.tail := by
  cases items with
  | nil => exact (List.append_nil _).symm
  | cons item rest =>
    have next : flip bit = receiver.expected := (eq_flip_of_ne (Ne.symm differs)).symm
    rw [deliverAll_cons, receive_of_ne differs, deliverAll_of_eq next, List.tail_cons]

/-- **A message arrives whole exactly when the bits agree at its start.** -/
theorem deliverAll_accepted_iff {receiver : Receiver β α} {bit : β} {items : List α} :
    (receiver.deliverAll bit items).accepted = receiver.accepted ++ items ↔
      items = [] ∨ bit = receiver.expected := by
  constructor
  · intro whole
    by_contra neither
    obtain ⟨nonempty, differs⟩ := not_or.mp neither
    rw [deliverAll_of_ne differs] at whole
    have short := congrArg List.length (List.append_cancel_left whole)
    have long := List.length_pos_iff.mpr nonempty
    rw [List.length_tail] at short
    omega
  · rintro (rfl | agrees)
    · exact (List.append_nil _).symm
    · exact deliverAll_of_eq agrees items

end Receiver

/-! ### The sender -/

/-- The bit of the item being sent, and the items not yet acknowledged. -/
structure Sender (β : Type u) (α : Type v) where
  bit : β
  pending : List α
  deriving DecidableEq

/-- An acknowledgement arrives. -/
def Sender.acknowledge (sender : Sender β α) : Sender β α :=
  { bit := flip sender.bit, pending := sender.pending.tail }

/-- **Sender and receiver hold the whole sequence between them.** Either they agree on the bit, or the
receiver has the head of the queue already and its acknowledgement was lost. -/
inductive InStep (items : List α) (sender : Sender β α) (receiver : Receiver β α) : Prop where
  | agreed (bit : sender.bit = receiver.expected)
      (sequence : receiver.accepted ++ sender.pending = items)
  | ahead (bit : receiver.expected = flip sender.bit) (sent : List α) (head : α) (rest : List α)
      (queue : sender.pending = head :: rest) (accepted : receiver.accepted = sent ++ [head])
      (sequence : receiver.accepted ++ rest = items)

namespace InStep

variable {items : List α} {sender : Sender β α} {receiver : Receiver β α}

theorem accepted_prefix (inStep : InStep items sender receiver) :
    receiver.accepted <+: items := by
  cases inStep with
  | agreed _ sequence => exact ⟨_, sequence⟩
  | ahead _ _ _ rest _ _ sequence => exact ⟨rest, sequence⟩

/-- **What the sender has let go of has been accepted.** -/
theorem sent_prefix (inStep : InStep items sender receiver) :
    ∃ sent, sent ++ sender.pending = items ∧ sent <+: receiver.accepted := by
  cases inStep with
  | agreed _ sequence => exact ⟨_, sequence, List.prefix_refl _⟩
  | ahead _ sent head rest queue accepted sequence =>
    refine ⟨sent, ?_, [head], accepted.symm⟩
    rw [queue, ← sequence, accepted, List.append_assoc, List.singleton_append]

variable [DecidableEq β] {head : α} {rest : List α}

/-- After a delivery the receiver has the head of the queue. -/
theorem receive_sequence (inStep : InStep items sender receiver)
    (queue : sender.pending = head :: rest) :
    (∃ sent, (receiver.receive sender.bit head).accepted = sent ++ [head]) ∧
      (receiver.receive sender.bit head).accepted ++ rest = items := by
  cases inStep with
  | agreed bit sequence =>
    rw [Receiver.receive_of_eq bit]
    refine ⟨⟨_, rfl⟩, ?_⟩
    rw [List.append_assoc, List.singleton_append, ← queue, sequence]
  | ahead bit sent other others same accepted sequence =>
    have differs : sender.bit ≠ receiver.expected := by
      rw [bit]
      exact (flip_ne _).symm
    rw [Receiver.receive_of_ne differs]
    rw [same] at queue
    obtain ⟨rfl, rfl⟩ := List.cons.inj queue
    exact ⟨⟨sent, accepted⟩, sequence⟩

/-- **A delivery whose acknowledgement is lost** keeps them in step. -/
theorem delivered (inStep : InStep items sender receiver) (queue : sender.pending = head :: rest) :
    InStep items sender (receiver.receive sender.bit head) := by
  obtain ⟨⟨sent, accepted⟩, sequence⟩ := inStep.receive_sequence queue
  exact .ahead (Receiver.receive_expected _ _ _) sent head rest queue accepted sequence

/-- **A delivery whose acknowledgement arrives** keeps them in step. -/
theorem acknowledged (inStep : InStep items sender receiver)
    (queue : sender.pending = head :: rest) :
    InStep items sender.acknowledge (receiver.receive sender.bit head) := by
  refine .agreed (Receiver.receive_expected _ _ _).symm ?_
  rw [Sender.acknowledge, queue, List.tail_cons]
  exact (inStep.receive_sequence queue).2

end InStep

end AlternatingBit

end PioUsbHost.Lib
