/-
**The transactions of a control transfer.**

The calls of a transfer that were answered, each with its reply, and the stages that they fall into.

* `Transfer.run_spec`: the invariant rule of a transfer, over the transactions made so far.
* `Repeated`, `AckedAfter`: a stage that makes one call until it is acknowledged.
* `Answers.len_le`: the packet of an IN transaction is inside the payload array.
-/

import PioUsbHost.Lib.History
import PioUsbHost.Pipe.Control

namespace PioUsbHost.Pipe

open PioUsbHost.Usb PioUsbHost.Host PioUsbHost.Rx PioUsbHost.Lib.Panic

/-- A call of a transfer, and the reply to it. -/
structure WireTransaction where
  call : WireCall
  reply : WireReply

namespace Transfer

variable {σ α : Type} (transfer : Transfer σ α)

/-- The transactions of a transfer: its calls that were answered. -/
def transactions : List WireReply → σ → List WireTransaction
  | [], _ => []
  | reply :: rest, state =>
    ⟨transfer.call state, reply⟩ ::
      match transfer.after state reply with
      | .returned _ => []
      | .again next => transactions rest next

/-- The state in which the last call was made. -/
def last : List WireReply → σ → σ
  | [], state => state
  | reply :: rest, state =>
    match transfer.after state reply with
    | .returned _ => state
    | .again next => last rest next

variable {transfer}

/-- **The invariant rule of a transfer**, over the transactions that it has made. -/
theorem run_spec (Inv : List WireTransaction → σ → Prop)
    (Post : List WireTransaction → σ → Call PipeError α → Prop)
    (waits : ∀ before state, Inv before state → Post before state .waiting)
    (again : ∀ before state reply next, Inv before state →
      transfer.after state reply = .again next → Inv (before ++ [⟨transfer.call state, reply⟩]) next)
    (returns : ∀ before state reply result, Inv before state →
      transfer.after state reply = .returned result →
      Post (before ++ [⟨transfer.call state, reply⟩]) state (.returned result))
    {before : List WireTransaction} {state : σ} (holds : Inv before state)
    (replies : List WireReply) :
    Post (before ++ transfer.transactions replies state) (transfer.last replies state)
      (transfer.run replies state).2 := by
  induction replies generalizing before state with
  | nil =>
    rw [transactions, List.append_nil]
    exact waits before state holds
  | cons reply rest ih =>
    cases after : transfer.after state reply with
    | returned result =>
      simp only [transactions, last, run, after]
      exact returns before state reply result holds after
    | again next =>
      have onward := ih (again before state reply next holds after)
      rw [List.append_assoc, List.singleton_append] at onward
      simp only [transactions, last, run, after]
      exact onward

end Transfer

/-! ### What a transaction returns -/

namespace WireTransaction

/-- What `out_once` returns. -/
def outResult (transaction : WireTransaction) : Option (Except PipeError OutResponse) :=
  match transaction.call with
  | .out _ dataPid payload => some (outReturns dataPid payload transaction.reply)
  | .receive _ _ => none

/-- What `in_once` returns. -/
def inResult (target : PipeTarget) (transaction : WireTransaction) :
    Option (Except PipeError InReceiveResult) :=
  match transaction.call with
  | .out _ _ _ => none
  | .receive expectedPid maxPayloadLen =>
    some (inReturns target expectedPid maxPayloadLen transaction.reply)

/-- The device acknowledges what it was sent. -/
def Acked (transaction : WireTransaction) : Prop := transaction.outResult = some (.ok .ack)

/-- The packet, if it was accepted with the expected toggle. -/
def accepted (target : PipeTarget) (transaction : WireTransaction) : List (List UInt8) :=
  match transaction.inResult target with
  | some (.ok (.data len)) => [transaction.reply.packet.take len.toNat]
  | _ => []

/-- A packet with the wrong toggle, a NAK, or no response. -/
def Ignored (target : PipeTarget) (transaction : WireTransaction) : Prop :=
  transaction.inResult target = some (.ok .nak) ∨
    transaction.inResult target = some (.ok .noResponse) ∨
    ∃ len, transaction.inResult target = some (.ok (.unexpectedToggle len))

end WireTransaction

/-- The packets that were accepted with the expected toggle, in order. -/
def acceptedPackets (target : PipeTarget) (transactions : List WireTransaction) :
    List (List UInt8) :=
  transactions.flatMap (WireTransaction.accepted target)

section Accepted

variable {target : PipeTarget} {first second : List WireTransaction} {transaction : WireTransaction}

theorem acceptedPackets_append :
    acceptedPackets target (first ++ second) =
      acceptedPackets target first ++ acceptedPackets target second := List.flatMap_append

theorem acceptedPackets_singleton :
    acceptedPackets target [transaction] = transaction.accepted target :=
  List.flatMap_singleton _ _

theorem accepted_of_data {len : UInt8}
    (result : transaction.inResult target = some (.ok (.data len))) :
    transaction.accepted target = [transaction.reply.packet.take len.toNat] := by
  rw [WireTransaction.accepted, result]

theorem accepted_of_ignored (ignored : transaction.Ignored target) :
    transaction.accepted target = [] := by
  unfold WireTransaction.accepted
  rcases ignored with result | result | ⟨len, result⟩
  all_goals rw [result]

theorem inResult_of_out {tokenPid dataPid : UInt8} {payload : List UInt8}
    (out : transaction.call = .out tokenPid dataPid payload) : transaction.inResult target = none := by
  rw [WireTransaction.inResult, out]

theorem accepted_of_out {tokenPid dataPid : UInt8} {payload : List UInt8}
    (out : transaction.call = .out tokenPid dataPid payload) : transaction.accepted target = [] := by
  rw [WireTransaction.accepted, inResult_of_out out]

/-- Only IN transactions accept packets. -/
theorem acceptedPackets_of_out {tokenPid dataPid : UInt8} {payload : List UInt8}
    (out : ∀ transaction ∈ first, transaction.call = .out tokenPid dataPid payload) :
    acceptedPackets target first = [] := by
  rw [acceptedPackets, List.flatMap_eq_nil_iff]
  exact fun transaction member => accepted_of_out (out transaction member)

end Accepted

/-! ### Stages of one call -/

/-- The call has been made, and has not been acknowledged yet. -/
structure Repeated (call : WireCall) (stage : List WireTransaction) : Prop where
  sameCall : ∀ transaction ∈ stage, transaction.call = call
  unacked : ∀ transaction ∈ stage, ¬ transaction.Acked

/-- The call has been made until it was acknowledged, and only until then. -/
structure AckedAfter (call : WireCall) (stage : List WireTransaction) : Prop where
  sameCall : ∀ transaction ∈ stage, transaction.call = call
  acked : ∃ tries last, stage = tries ++ [last] ∧ (∀ transaction ∈ tries, ¬ transaction.Acked) ∧
    last.Acked

section Stage

variable {call : WireCall} {stage : List WireTransaction} {reply : WireReply}

theorem repeated_nil : Repeated call [] := by
  constructor
  · intro transaction member
    cases member
  · intro transaction member
    cases member

theorem Repeated.sameCall_concat (repeated : Repeated call stage) :
    ∀ transaction ∈ stage ++ [⟨call, reply⟩], transaction.call = call :=
  List.forall_mem_append.mpr ⟨repeated.sameCall, List.forall_mem_singleton.mpr rfl⟩

theorem Repeated.concat (repeated : Repeated call stage)
    (unacked : ¬ WireTransaction.Acked ⟨call, reply⟩) : Repeated call (stage ++ [⟨call, reply⟩]) :=
  ⟨repeated.sameCall_concat,
    List.forall_mem_append.mpr ⟨repeated.unacked, List.forall_mem_singleton.mpr unacked⟩⟩

theorem Repeated.ackedAfter (repeated : Repeated call stage)
    (acked : WireTransaction.Acked ⟨call, reply⟩) : AckedAfter call (stage ++ [⟨call, reply⟩]) :=
  ⟨repeated.sameCall_concat, stage, _, rfl, repeated.unacked, acked⟩

end Stage

/-- The call of the SETUP stage. -/
def setupCall (setup : Vector UInt8 8) : WireCall := .out pidSetup pidData0 (setupPayload setup)

/-- The SETUP stage goes on until the SETUP packet is acknowledged, or fails. -/
theorem afterSetup_spec (attempts : SetupAttempts) (late : Bool)
    (response : Except PipeError OutResponse) :
    (∃ next, afterSetup attempts late response = .again next ∧ response ≠ .ok .ack) ∨
      (afterSetup attempts late response = .returned (.ok ()) ∧ response = .ok .ack) ∨
      ∃ error, afterSetup attempts late response = .returned (fail error) := by
  cases response with
  | ok answer =>
    cases answer with
    | ack => exact .inr (.inl ⟨rfl, rfl⟩)
    | nak =>
      rw [afterSetup]
      split
      · exact .inr (.inr ⟨_, rfl⟩)
      · exact .inl ⟨_, rfl, by simp⟩
    | noResponse =>
      simp only [afterSetup]
      split
      · exact .inr (.inr ⟨_, rfl⟩)
      · exact .inl ⟨_, rfl, by simp⟩
  | error error =>
    unfold afterSetup
    split
    · rename_i same
      cases same
    · rename_i same
      cases same
    · rename_i same
      cases same
    · simp only
      split
      · exact .inr (.inr ⟨_, rfl⟩)
      · exact .inl ⟨_, rfl, by simp⟩
    · exact .inr (.inr ⟨_, rfl⟩)

/-- **One reply in the SETUP stage**: the stage goes on, ends with the ACK, or fails. -/
theorem Repeated.setup {setup : Vector UInt8 8} {stage : List WireTransaction}
    (repeated : Repeated (setupCall setup) stage) (attempts : SetupAttempts) (reply : WireReply) :
    (∃ next, afterSetup attempts reply.late (outReturns pidData0 (setupPayload setup) reply) =
        .again next ∧ Repeated (setupCall setup) (stage ++ [⟨setupCall setup, reply⟩])) ∨
      (afterSetup attempts reply.late (outReturns pidData0 (setupPayload setup) reply) =
          .returned (.ok ()) ∧
        AckedAfter (setupCall setup) (stage ++ [⟨setupCall setup, reply⟩])) ∨
      ∃ error, afterSetup attempts reply.late (outReturns pidData0 (setupPayload setup) reply) =
        .returned (fail error) := by
  have result : WireTransaction.outResult ⟨setupCall setup, reply⟩ =
      some (outReturns pidData0 (setupPayload setup) reply) := rfl
  rcases afterSetup_spec attempts reply.late (outReturns pidData0 (setupPayload setup) reply) with
    ⟨next, step, unacked⟩ | ⟨step, acked⟩ | ⟨error, step⟩
  · refine .inl ⟨next, step, repeated.concat ?_⟩
    rw [WireTransaction.Acked, result]
    exact fun same => unacked (Option.some.inj same)
  · refine .inr (.inl ⟨step, repeated.ackedAfter ?_⟩)
    rw [WireTransaction.Acked, result, acked]
  · exact .inr (.inr ⟨error, step⟩)

/-! ### What an IN transaction can reply -/

/-- What `receive_data_packet` reads and is given by `in_once`. -/
structure Reception where
  tx : Transmitter
  irqs : TxIrqs
  polls : Nat → RxPoll
  token : List UInt8
  /-- The payload array before the call. -/
  array : List UInt8
  raw : RawBuffer
  ackEopGuardCycles : UInt32

/-- The call of `receive_data_packet`, on the front of the payload array. -/
def Reception.outcome (reception : Reception) (target : PipeTarget) (expectedPid : UInt8)
    (maxPayloadLen : Nat) : ReceiveOutcome :=
  receiveDataPacket reception.tx reception.irqs reception.polls rxPacketPollBudget reception.token
    (reception.array.take target.maxPacketSize) reception.raw maxPayloadLen expectedPid
    reception.ackEopGuardCycles true

/-- The transaction is one of the engine: what an IN transaction has received, `receive_data_packet`
has received on an idle transmitter, whatever it read. -/
def Answers (target : PipeTarget) (transaction : WireTransaction) : Prop :=
  match transaction.call with
  | .out _ _ _ => True
  | .receive expectedPid maxPayloadLen =>
    ∀ result, transaction.reply.received = .ok result →
      ∃ reception : Reception, reception.tx.Idle ∧
        reception.array.length = packetArray.length ∧
        (reception.outcome target expectedPid maxPayloadLen).result = .ok result ∧
        transaction.reply.packet =
          (reception.outcome target expectedPid maxPayloadLen).payload ++
            reception.array.drop target.maxPacketSize

section Answers

/-- **The packet of an IN transaction** is no longer than asked for, and inside the payload array. -/
theorem Answers.len_le {target : PipeTarget} {transaction : WireTransaction} {expectedPid : UInt8}
    {maxPayloadLen : Nat} {len : UInt8} (answers : Answers target transaction)
    (call : transaction.call = .receive expectedPid maxPayloadLen)
    (result : transaction.inResult target = some (.ok (.data len))) :
    len.toNat ≤ maxPayloadLen ∧ len.toNat ≤ transaction.reply.packet.length := by
  rw [WireTransaction.inResult, call] at result
  simp only [inReturns, Option.some.injEq] at result
  split at result
  · cases result
  · cases result
  next passes =>
    rw [Answers, call] at answers
    obtain ⟨reception, idle, long, ok, packet⟩ := answers _ result
    obtain ⟨bounded, fits⟩ : target.maxPacketSize ≤ packetArray.length ∧
        maxPayloadLen ≤ target.maxPacketSize := by
      unfold checkReceive at passes
      split at passes
      · cases passes
      next bounded =>
        split at passes
        · cases passes
        next fits =>
          rw [Bool.or_eq_true, decide_eq_true_eq, not_or] at fits
          exact ⟨Nat.not_lt.mp bounded, Nat.not_lt.mp fits.2⟩
    have small : packetArray.length = 100 := List.length_replicate
    have slice : (reception.array.take target.maxPacketSize).length = target.maxPacketSize :=
      List.length_take_of_le (long ▸ bounded)
    have short : len.toNat ≤ maxPayloadLen :=
      receiveDataPacket_data_le idle (slice.symm ▸ fits) (slice.symm ▸ small ▸ bounded) ok
    refine ⟨short, ?_⟩
    rw [packet, List.length_append, Reception.outcome, length_receiveDataPacket, slice]
    omega

end Answers

end PioUsbHost.Pipe
