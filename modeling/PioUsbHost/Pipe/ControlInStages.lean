/-
**What a control IN transfer leaves in the caller's buffer.**

`control_in` by its transactions. The bytes of the buffer, the number of bytes received and the toggle
expected next are functions of the packets that were accepted with the expected toggle; the stage says
how the transactions so far fall into a SETUP stage, a data stage and a status stage.

* `ControlIn.UnderWay`: the invariant of the transfer, over its transactions.
* `ControlIn.UnderWay.accepts`: one accepted packet.
* `controlIn_assembles`: what a transfer that returns has received, and what every transfer writes.
-/

import PioUsbHost.Pipe.Transactions

namespace PioUsbHost.Pipe

open PioUsbHost.Usb PioUsbHost.Host PioUsbHost.Rx PioUsbHost.Lib.Panic PioUsbHost.Lib.History

/-! ### The whole call -/

/-- What a call of `control_in` leaves: its result, its transactions and the caller's buffer. -/
structure ControlInOutcome where
  result : Call PipeError (List UInt8 × Nat)
  transactions : List WireTransaction
  buffer : List UInt8

/-- `control_in`, with its checks. -/
def controlIn (target : PipeTarget) (setup : Vector UInt8 8) (buffer : List UInt8)
    (replies : List WireReply) : ControlInOutcome :=
  match ControlIn.start target setup buffer with
  | .error error => { result := .returned (fail error), transactions := [], buffer }
  | .ok state =>
    { result := (ControlIn.transfer.run replies state).2
      transactions := ControlIn.transfer.transactions replies state
      buffer := (ControlIn.transfer.last replies state).buffer }

/-! ### Its stages -/

section Stages

variable (target : PipeTarget) (requested : Nat)

/-- The data stage is not over: bytes are missing, and no packet was short. -/
structure DataDue (packets : List (List UInt8)) : Prop where
  missing : packets.flatten.length < requested
  full : ∀ packet ∈ packets, target.maxPacketSize ≤ packet.length

/-- A transaction of the data stage, behind those before it. The toggle starts at DATA1 and flips with
each accepted packet. -/
structure InDataTransaction (before : List WireTransaction) (transaction : WireTransaction) :
    Prop where
  due : DataDue target requested (acceptedPackets target before)
  call : transaction.call = .receive
    (DataToggle.afterAck^[(acceptedPackets target before).length] .data1).pid target.maxPacketSize
  result : (∃ packet, transaction.accepted target = [packet]) ∨ transaction.Ignored target

/-- The data stage stops at the first short packet or when all bytes are there, and at no other
point. -/
structure InDataStage (stage : List WireTransaction) : Prop where
  transactions : AtEach (InDataTransaction target requested) stage
  ended : (acceptedPackets target stage).flatten.length = requested ∨
    ∃ packet ∈ acceptedPackets target stage, packet.length < target.maxPacketSize

end Stages

/-- The call of the status stage. -/
def inStatusCall : WireCall := .out pidOut pidData1 []

/-- A transfer that has returned `n` bytes. -/
structure ControlInCompletes (target : PipeTarget) (setup : Vector UInt8 8) (buffer : List UInt8)
    (transactions : List WireTransaction) (filled : List UInt8) (n : Nat) : Prop where
  within : n ≤ requestedLength setup ∧ requestedLength setup ≤ buffer.length
  /-- The bytes of the packets accepted with the expected toggle. -/
  count : n = ((acceptedPackets target transactions).map List.length).sum
  filled : filled = (acceptedPackets target transactions).flatten ++ buffer.drop n
  stages : ∃ setups datas statuses, transactions = setups ++ datas ++ statuses ∧
    AckedAfter (setupCall setup) setups ∧
    InDataStage target (requestedLength setup) datas ∧
    AckedAfter inStatusCall statuses

/-- **What a control IN transfer does**, by its transactions. -/
structure ControlInAssembles (target : PipeTarget) (setup : Vector UInt8 8) (buffer : List UInt8)
    (outcome : ControlInOutcome) : Prop where
  ok : ∀ filled n, outcome.result = .returned (.ok (filled, n)) →
    outcome.buffer = filled ∧
      ControlInCompletes target setup buffer outcome.transactions filled n
  /-- Only the requested bytes of the buffer are written. -/
  written : ∃ bytes, outcome.buffer = bytes ++ buffer.drop bytes.length ∧
    bytes.length ≤ requestedLength setup ∧ bytes.length ≤ buffer.length
  /-- No slice is out of range. -/
  safe : (∀ transaction ∈ outcome.transactions, Answers target transaction) →
    outcome.result ≠ .returned (.error .panic)

/-! ### The invariant -/

/-- How the transactions so far fall into stages. -/
inductive InStages (target : PipeTarget) (setup : Vector UInt8 8) :
    List WireTransaction → ControlInStage → Prop where
  | setup {setups : List WireTransaction} {attempts : SetupAttempts}
      (repeated : Repeated (setupCall setup) setups) :
      InStages target setup setups (.setup attempts)
  | data {setups datas : List WireTransaction} (acked : AckedAfter (setupCall setup) setups)
      (transactions : AtEach (InDataTransaction target (requestedLength setup)) datas)
      (due : DataDue target (requestedLength setup) (acceptedPackets target datas)) :
      InStages target setup (setups ++ datas) .data
  | status {setups datas statuses : List WireTransaction}
      (acked : AckedAfter (setupCall setup) setups)
      (data : InDataStage target (requestedLength setup) datas)
      (repeated : Repeated inStatusCall statuses) :
      InStages target setup (setups ++ datas ++ statuses) .status

/-- **The transfer is under way.** Its variables are functions of the accepted packets. -/
structure ControlIn.UnderWay (target : PipeTarget) (setup : Vector UInt8 8) (buffer : List UInt8)
    (before : List WireTransaction) (state : ControlIn) : Prop where
  sameTarget : state.target = target
  sameSetup : state.setup = setup
  room : requestedLength setup ≤ buffer.length
  bounded : state.received ≤ requestedLength setup
  received : state.received = (acceptedPackets target before).flatten.length
  expected : state.expected = DataToggle.afterAck^[(acceptedPackets target before).length] .data1
  filled : state.buffer = (acceptedPackets target before).flatten ++ buffer.drop state.received
  stages : InStages target setup before state.stage

section UnderWay

variable {target : PipeTarget} {setup : Vector UInt8 8} {buffer : List UInt8}
  {before setups datas : List WireTransaction} {state next : ControlIn} {reply : WireReply}

theorem acceptedPackets_setups (acked : AckedAfter (setupCall setup) setups) :
    acceptedPackets target (setups ++ datas) = acceptedPackets target datas := by
  rw [acceptedPackets_append, acceptedPackets_of_out acked.sameCall, List.nil_append]

namespace ControlIn.UnderWay

theorem length_buffer (under : ControlIn.UnderWay target setup buffer before state) :
    state.buffer.length = buffer.length := by
  have room := under.room
  have bounded := under.bounded
  rw [under.filled, List.length_append, ← under.received, List.length_drop]
  omega

/-- A transaction that accepts no packet leaves the variables. -/
theorem keeps (under : ControlIn.UnderWay target setup buffer before state)
    {transaction : WireTransaction} (nothing : transaction.accepted target = [])
    {stage : ControlInStage} (stages : InStages target setup (before ++ [transaction]) stage) :
    ControlIn.UnderWay target setup buffer (before ++ [transaction]) { state with stage } := by
  have same : acceptedPackets target (before ++ [transaction]) = acceptedPackets target before := by
    rw [acceptedPackets_append, acceptedPackets_singleton, nothing, List.append_nil]
  exact
    { sameTarget := under.sameTarget
      sameSetup := under.sameSetup
      room := under.room
      bounded := under.bounded
      received := by rw [same]; exact under.received
      expected := by rw [same]; exact under.expected
      filled := by rw [same]; exact under.filled
      stages }

/-- The stage behind the SETUP stage. -/
theorem stages_dataOrStatus (under : ControlIn.UnderWay target setup buffer before state)
    (acked : AckedAfter (setupCall setup) setups) (first : state.received = 0) :
    InStages target setup setups state.dataOrStatus := by
  unfold ControlIn.dataOrStatus ControlIn.requested
  rw [first, under.sameSetup]
  by_cases some : 0 < requestedLength setup
  · rw [if_pos some, ← List.append_nil setups]
    refine .data acked atEach_nil ⟨some, ?_⟩
    intro packet member
    cases member
  · rw [if_neg some, ← List.append_nil setups, ← List.append_nil (setups ++ [])]
    exact .status acked ⟨atEach_nil, .inl (Nat.eq_zero_of_not_pos some).symm⟩ repeated_nil

/-- The slice of the buffer is in range; that of the payload array is, if the packet is inside. -/
theorem copy_eq (under : ControlIn.UnderWay target setup buffer before state) {len : Nat}
    {packet : List UInt8} (fits : state.received + len ≤ requestedLength setup) :
    state.copy (state.received + len) len packet =
      if len ≤ packet.length then .ok (overwrite state.buffer state.received (packet.take len))
      else .error .panic := by
  have inside : state.received + len ≤ state.buffer.length := by
    have room := under.room
    rw [under.length_buffer]
    omega
  rw [ControlIn.copy, slice_of_le (Nat.le_add_right _ _) inside, ok_bind]
  by_cases whole : len ≤ packet.length
  · rw [slice_of_le (Nat.zero_le _) whole, ok_bind, List.drop_zero, Nat.sub_zero, if_pos whole, if_pos]
    rw [List.length_take, List.length_drop, List.length_take]
    omega
  · rw [slice, if_neg (by omega), error_bind, if_neg whole]

/-- The stage behind an accepted packet. -/
theorem stage_after {after : ControlIn} {len received : Nat} (sameSetup : after.setup = setup)
    (sameReceived : after.received = received) :
    (if len < target.maxPacketSize then .status else after.dataOrStatus) =
      if len < target.maxPacketSize ∨ requestedLength setup ≤ received then
        ControlInStage.status else .data := by
  rw [ControlIn.dataOrStatus, ControlIn.requested, sameSetup, sameReceived]
  by_cases short : len < target.maxPacketSize
  · rw [if_pos short, if_pos (.inl short)]
  · by_cases missing : received < requestedLength setup
    · rw [if_neg short, if_pos missing, if_neg (not_or.mpr ⟨short, Nat.not_le.mpr missing⟩)]
    · rw [if_neg short, if_neg missing, if_pos (.inr (Nat.not_lt.mp missing))]

/-- **What becomes of a packet** with the expected toggle. -/
theorem accept_spec (under : ControlIn.UnderWay target setup buffer before state) (len : Nat)
    (packet : List UInt8) :
    (requestedLength setup < state.received + len ∧
        state.accept len packet = .returned (fail .badResponse)) ∨
      (packet.length < len ∧ state.accept len packet = .returned (.error .panic)) ∨
      (state.received + len ≤ requestedLength setup ∧ len ≤ packet.length ∧
        state.accept len packet = .again
          { state with
            buffer := overwrite state.buffer state.received (packet.take len)
            received := state.received + len
            expected := state.expected.afterAck
            stage := if len < target.maxPacketSize ∨
              requestedLength setup ≤ state.received + len then .status else .data }) := by
  rw [ControlIn.accept, ControlIn.requested, under.sameSetup, under.sameTarget]
  by_cases fits : state.received + len ≤ requestedLength setup
  · rw [checkedControlInPacketEnd, if_pos fits]
    simp only [under.copy_eq fits]
    by_cases whole : len ≤ packet.length
    · refine .inr (.inr ⟨fits, whole, ?_⟩)
      simp only [if_pos whole]
      rw [stage_after rfl rfl]
    · rw [if_neg whole]
      exact .inr (.inl ⟨Nat.not_le.mp whole, rfl⟩)
  · rw [checkedControlInPacketEnd, if_neg fits]
    exact .inl ⟨Nat.not_le.mp fits, rfl⟩

/-- The stages behind an accepted packet. -/
theorem stages_accepted {transaction : WireTransaction} {bytes : List UInt8}
    (acked : AckedAfter (setupCall setup) setups)
    (transactions : AtEach (InDataTransaction target (requestedLength setup)) datas)
    (data : InDataTransaction target (requestedLength setup) datas transaction)
    (packet : transaction.accepted target = [bytes])
    (fits : (acceptedPackets target datas).flatten.length + bytes.length ≤
      requestedLength setup) :
    InStages target setup (setups ++ datas ++ [transaction])
      (if bytes.length < target.maxPacketSize ∨ requestedLength setup ≤
        (acceptedPackets target datas).flatten.length + bytes.length then .status else .data) := by
  have packets : acceptedPackets target (datas ++ [transaction]) =
      acceptedPackets target datas ++ [bytes] := by
    rw [acceptedPackets_append, acceptedPackets_singleton, packet]
  have count : (acceptedPackets target (datas ++ [transaction])).flatten.length =
      (acceptedPackets target datas).flatten.length + bytes.length := by
    rw [packets, List.flatten_append, List.flatten_singleton, List.length_append]
  rw [List.append_assoc]
  by_cases stops : bytes.length < target.maxPacketSize ∨ requestedLength setup ≤
      (acceptedPackets target datas).flatten.length + bytes.length
  · have ended : InDataStage target (requestedLength setup) (datas ++ [transaction]) := by
      refine ⟨atEach_concat.mpr ⟨transactions, data⟩, ?_⟩
      rcases stops with short | complete
      · exact .inr ⟨bytes, packets ▸ List.mem_append_right _ (List.mem_singleton_self _), short⟩
      · exact .inl (count.trans (Nat.le_antisymm fits complete))
    rw [if_pos stops, ← List.append_nil (setups ++ (datas ++ [transaction]))]
    exact .status acked ended repeated_nil
  · obtain ⟨full, missing⟩ := not_or.mp stops
    have due : DataDue target (requestedLength setup)
        (acceptedPackets target (datas ++ [transaction])) := by
      refine ⟨count ▸ Nat.not_le.mp missing, ?_⟩
      rw [packets]
      exact List.forall_mem_append.mpr
        ⟨data.due.full, List.forall_mem_singleton.mpr (Nat.not_lt.mp full)⟩
    rw [if_neg stops]
    exact .data acked (atEach_concat.mpr ⟨transactions, data⟩) due

/-- **An accepted packet** is copied behind the bytes before it. -/
theorem accepts (under : ControlIn.UnderWay target setup buffer before state) {len : UInt8}
    (acked : AckedAfter (setupCall setup) setups) (split : before = setups ++ datas)
    (transactions : AtEach (InDataTransaction target (requestedLength setup)) datas)
    (due : DataDue target (requestedLength setup) (acceptedPackets target datas))
    {transaction : WireTransaction}
    (call : transaction.call = .receive state.expected.pid target.maxPacketSize)
    (result : transaction.inResult target = some (.ok (.data len)))
    (step : state.accept len.toNat transaction.reply.packet = .again next) :
    ControlIn.UnderWay target setup buffer (before ++ [transaction]) next := by
  have packet : transaction.accepted target = [transaction.reply.packet.take len.toNat] :=
    accepted_of_data result
  have same : acceptedPackets target before = acceptedPackets target datas := by
    rw [split, acceptedPackets_setups acked]
  have more : acceptedPackets target (before ++ [transaction]) =
      acceptedPackets target before ++ [transaction.reply.packet.take len.toNat] := by
    rw [acceptedPackets_append, acceptedPackets_singleton, packet]
  have received : state.received = (acceptedPackets target datas).flatten.length := by
    rw [under.received, same]
  rcases under.accept_spec len.toNat transaction.reply.packet with
    ⟨-, failed⟩ | ⟨-, failed⟩ | ⟨fits, whole, accepted⟩
  · rw [failed] at step
    cases step
  · rw [failed] at step
    cases step
  rw [accepted] at step
  cases step
  have long : (transaction.reply.packet.take len.toNat).length = len.toNat :=
    List.length_take_of_le whole
  have data : InDataTransaction target (requestedLength setup) datas transaction := by
    refine ⟨due, ?_, .inl ⟨_, packet⟩⟩
    rw [call, under.expected, same]
  have stages := stages_accepted acked transactions data packet (by rw [long, ← received]; exact fits)
  rw [long, ← received, ← split] at stages
  have front : state.buffer.take state.received = (acceptedPackets target before).flatten := by
    rw [under.filled, List.take_left' under.received.symm]
  have behind : state.buffer.drop (state.received + len.toNat) =
      buffer.drop (state.received + len.toNat) := by
    rw [under.filled, ← List.drop_drop, List.drop_left' under.received.symm, List.drop_drop]
  refine
    { sameTarget := under.sameTarget
      sameSetup := under.sameSetup
      room := under.room
      bounded := fits
      received := ?_
      expected := ?_
      filled := ?_
      stages := stages }
  · rw [more, List.flatten_append, List.flatten_singleton, List.length_append, ← under.received,
      long]
  · rw [more, List.length_append, List.length_singleton, Function.iterate_succ_apply',
      ← under.expected]
  · rw [more, List.flatten_append, List.flatten_singleton, overwrite, long, front, behind]

/-- A transfer that has not returned its bytes. -/
theorem unfinished (under : ControlIn.UnderWay target setup buffer before state)
    {transactions : List WireTransaction} {result : Call PipeError (List UInt8 × Nat)}
    (notOk : ∀ value, result ≠ .returned (.ok value))
    (safe : (∀ transaction ∈ transactions, Answers target transaction) →
      result ≠ .returned (.error .panic)) :
    ControlInAssembles target setup buffer
      { result, transactions, buffer := state.buffer } where
  ok := fun filled n returned => absurd returned (notOk (filled, n))
  written := by
    have bounded := under.bounded
    refine ⟨(acceptedPackets target before).flatten, ?_, ?_, ?_⟩
    · rw [← under.received]
      exact under.filled
    · rw [← under.received]
      exact bounded
    · rw [← under.received]
      exact Nat.le_trans bounded under.room
  safe := safe

theorem failed (under : ControlIn.UnderWay target setup buffer before state)
    {transactions : List WireTransaction} {error : PipeError} :
    ControlInAssembles target setup buffer
      { result := .returned (fail error), transactions, buffer := state.buffer } := by
  refine under.unfinished ?_ ?_
  · intro value returned
    cases returned
  · intro answers returned
    cases returned

/-- **The ACK of the status stage** completes the transfer. -/
theorem completes (under : ControlIn.UnderWay target setup buffer before state)
    (acked : AckedAfter (setupCall setup) setups) {statuses : List WireTransaction}
    (split : before = setups ++ datas ++ statuses)
    (data : InDataStage target (requestedLength setup) datas) {transaction : WireTransaction}
    (status : AckedAfter inStatusCall (statuses ++ [transaction]))
    (nothing : transaction.accepted target = []) :
    ControlInAssembles target setup buffer
      { result := .returned (.ok (state.buffer, state.received))
        transactions := before ++ [transaction]
        buffer := state.buffer } := by
  have same : acceptedPackets target (before ++ [transaction]) = acceptedPackets target before := by
    rw [acceptedPackets_append, acceptedPackets_singleton, nothing, List.append_nil]
  have unfinished : ControlInAssembles target setup buffer
      { result := .waiting, transactions := before ++ [transaction], buffer := state.buffer } :=
    under.unfinished (fun value returned => by cases returned) fun _ returned => by cases returned
  refine ⟨?_, unfinished.written, ?_⟩
  · intro filled n returned
    cases returned
    refine ⟨rfl, ⟨under.bounded, under.room⟩, ?_, ?_, ?_⟩
    · rw [same, under.received, List.length_flatten]
    · rw [same]
      exact under.filled
    · refine ⟨setups, datas, statuses ++ [transaction], ?_, acked, data, status⟩
      rw [split, List.append_assoc]
  · intro answers returned
    cases returned

/-- What one reply makes of a transfer under way. -/
def StepSpec (target : PipeTarget) (setup : Vector UInt8 8) (buffer : List UInt8)
    (before : List WireTransaction) (state : ControlIn) (reply : WireReply) :
    Next ControlIn (List UInt8 × Nat) → Prop
  | .again next => ControlIn.UnderWay target setup buffer (before ++ [⟨state.call, reply⟩]) next
  | .returned result => ControlInAssembles target setup buffer
      { result := .returned result
        transactions := before ++ [⟨state.call, reply⟩]
        buffer := state.buffer }

/-- **The SETUP stage.** -/
theorem step_setup (under : ControlIn.UnderWay target setup buffer before state)
    {attempts : SetupAttempts} (stage : state.stage = .setup attempts)
    (repeated : Repeated (setupCall setup) before) (reply : WireReply) :
    StepSpec target setup buffer before state reply (state.after reply) := by
  have call : state.call = setupCall setup := by
    rw [ControlIn.call, stage, under.sameSetup]
    rfl
  have nothing : WireTransaction.accepted target ⟨state.call, reply⟩ = [] := accepted_of_out call
  have payload : setupPayload state.setup = setupPayload setup := by
    rw [under.sameSetup]
  simp only [ControlIn.after, stage, payload]
  rcases repeated.setup attempts reply with ⟨next, step, going⟩ | ⟨step, acked⟩ | ⟨error, step⟩
  · rw [step]
    exact under.keeps nothing (.setup (call ▸ going))
  · rw [step]
    refine under.keeps nothing (under.stages_dataOrStatus (call ▸ acked) ?_)
    rw [under.received, acceptedPackets_of_out repeated.sameCall]
    rfl
  · rw [step]
    exact under.failed

/-- **The data stage.** -/
theorem step_data (under : ControlIn.UnderWay target setup buffer before state)
    (stage : state.stage = .data) (acked : AckedAfter (setupCall setup) setups)
    (split : before = setups ++ datas)
    (transactions : AtEach (InDataTransaction target (requestedLength setup)) datas)
    (due : DataDue target (requestedLength setup) (acceptedPackets target datas))
    (reply : WireReply) :
    StepSpec target setup buffer before state reply (state.after reply) := by
  have call : state.call = .receive state.expected.pid target.maxPacketSize := by
    rw [ControlIn.call, stage, under.sameTarget]
  have response : WireTransaction.inResult target ⟨state.call, reply⟩ =
      some (inReturns target state.expected.pid target.maxPacketSize reply) := by
    rw [WireTransaction.inResult, call]
  -- A reply that accepts nothing is waited out until the deadline.
  have waits : WireTransaction.Ignored target ⟨state.call, reply⟩ →
      StepSpec target setup buffer before state reply
        (if reply.late then .returned (fail .timeout) else .again state) := by
    intro ignored
    split
    · exact under.failed
    · have nothing := accepted_of_ignored ignored
      have toggle : (⟨state.call, reply⟩ : WireTransaction).call = .receive
          (DataToggle.afterAck^[(acceptedPackets target datas).length] .data1).pid
          target.maxPacketSize := by
        rw [call, under.expected, split, acceptedPackets_setups acked]
      have same : acceptedPackets target (datas ++ [⟨state.call, reply⟩]) =
          acceptedPackets target datas := by
        rw [acceptedPackets_append, acceptedPackets_singleton, nothing, List.append_nil]
      show ControlIn.UnderWay target setup buffer _ { state with stage := state.stage }
      refine under.keeps nothing ?_
      rw [stage, split, List.append_assoc]
      exact .data acked (atEach_concat.mpr ⟨transactions, due, toggle, .inr ignored⟩)
        (same.symm ▸ due)
  simp only [ControlIn.after, stage, under.sameTarget]
  cases returns : inReturns target state.expected.pid target.maxPacketSize reply with
  | error error => exact under.failed
  | ok received =>
    rw [returns] at response
    cases received with
    | data len =>
      rcases under.accept_spec len.toNat reply.packet with
        ⟨-, step⟩ | ⟨outside, step⟩ | ⟨-, -, step⟩
      · simp only [step]
        exact under.failed
      · simp only [step]
        refine under.unfinished (fun value returned => by cases returned) ?_
        intro answers
        have inside := ((answers ⟨state.call, reply⟩ (by simp)).len_le call response).2
        exact absurd inside (Nat.not_le.mpr outside)
      · have onward := under.accepts acked split transactions due call response step
        simp only [step]
        exact onward
    | unexpectedToggle len => exact waits (.inr (.inr ⟨len, response⟩))
    | nak => exact waits (.inl response)
    | noResponse => exact waits (.inr (.inl response))
    | stall => exact under.failed
    | invalidPacket => exact under.failed

/-- **The status stage.** -/
theorem step_status (under : ControlIn.UnderWay target setup buffer before state)
    (stage : state.stage = .status) {statuses : List WireTransaction}
    (acked : AckedAfter (setupCall setup) setups)
    (split : before = setups ++ datas ++ statuses)
    (data : InDataStage target (requestedLength setup) datas)
    (repeated : Repeated inStatusCall statuses) (reply : WireReply) :
    StepSpec target setup buffer before state reply (state.after reply) := by
  have call : state.call = inStatusCall := by
    rw [ControlIn.call, stage]
    rfl
  have nothing : WireTransaction.accepted target ⟨state.call, reply⟩ = [] := accepted_of_out call
  have result : WireTransaction.outResult ⟨inStatusCall, reply⟩ =
      some (outReturns pidData1 [] reply) := rfl
  have waits : ¬ WireTransaction.Acked ⟨inStatusCall, reply⟩ →
      StepSpec target setup buffer before state reply
        (if reply.late then .returned (fail .timeout) else .again state) := by
    intro unacked
    split
    · exact under.failed
    · show ControlIn.UnderWay target setup buffer _ { state with stage := state.stage }
      refine under.keeps nothing ?_
      rw [stage, split, List.append_assoc, call]
      exact .status acked data (repeated.concat unacked)
  simp only [ControlIn.after, stage]
  cases returns : outReturns pidData1 [] reply with
  | error error => exact under.failed
  | ok response =>
    rw [returns] at result
    cases response with
    | ack =>
      exact under.completes acked split data (call ▸ repeated.ackedAfter result) nothing
    | nak =>
      refine waits ?_
      rw [WireTransaction.Acked, result]
      simp
    | noResponse =>
      refine waits ?_
      rw [WireTransaction.Acked, result]
      simp

/-- **One reply** keeps the transfer under way, or ends it. -/
theorem step (under : ControlIn.UnderWay target setup buffer before state) (reply : WireReply) :
    StepSpec target setup buffer before state reply (state.after reply) := by
  have stages := under.stages
  generalize stage : state.stage = current at stages
  cases stages with
  | setup repeated => exact under.step_setup stage repeated reply
  | data acked transactions due => exact under.step_data stage acked rfl transactions due reply
  | status acked data repeated => exact under.step_status stage acked rfl data repeated reply

end ControlIn.UnderWay

/-- A transfer before its first call. -/
theorem ControlIn.underWay_of_start (started : ControlIn.start target setup buffer = .ok state) :
    ControlIn.UnderWay target setup buffer [] state := by
  unfold ControlIn.start at started
  split at started
  · cases started
  · split at started
    · cases started
    next room =>
      cases started
      exact
        { sameTarget := rfl
          sameSetup := rfl
          room := Nat.not_lt.mp room
          bounded := Nat.zero_le _
          received := rfl
          expected := rfl
          filled := rfl
          stages := .setup repeated_nil }

end UnderWay

/-- **Control IN assembly.** -/
theorem controlIn_assembles (target : PipeTarget) (setup : Vector UInt8 8) (buffer : List UInt8)
    (replies : List WireReply) :
    ControlInAssembles target setup buffer (controlIn target setup buffer replies) := by
  unfold controlIn
  split
  next error failed =>
    refine ⟨?_, ⟨[], rfl, Nat.zero_le _, Nat.zero_le _⟩, ?_⟩
    · intro filled n returned
      cases returned
    · intro answers returned
      cases returned
  next state started =>
    refine Transfer.run_spec (ControlIn.UnderWay target setup buffer)
      (fun transactions state result => ControlInAssembles target setup buffer
        { result, transactions, buffer := state.buffer }) ?_ ?_ ?_
      (ControlIn.underWay_of_start started) replies
    · intro before state under
      refine under.unfinished ?_ ?_
      · intro value returned
        cases returned
      · intro answers returned
        cases returned
    · intro before state reply next under step
      have spec := under.step reply
      rw [show state.after reply = .again next from step] at spec
      exact spec
    · intro before state reply result under step
      have spec := under.step reply
      rw [show state.after reply = .returned result from step] at spec
      exact spec

/-- Two bytes behind a NAK, and their status stage. -/
example :
    let target : PipeTarget := ⟨1, ⟨0, .control, 8, 0⟩⟩
    let setup : Vector UInt8 8 := #v[0x80, 6, 0, 1, 0, 0, 4, 0]
    let ack : WireReply := ⟨.ok (), .ok .ack, .ok .noResponse, packetArray, false⟩
    let nak : WireReply := ⟨.ok (), .ok .nak, .ok .nak, packetArray, false⟩
    let data : WireReply := ⟨.ok (), .ok .nak, .ok (.data 2), 7 :: 8 :: packetArray.drop 2, false⟩
    (controlIn target setup [1, 2, 3, 4, 5] [ack, nak, data, ack]).result =
      .returned (.ok ([7, 8, 3, 4, 5], 2)) := rfl

end PioUsbHost.Pipe
