/-
**One OUT request sends its packets one after the other.**

`request_out` of the adapter over `request_out_once` of the RP2040 engine, by what each `out_once`
returns. `out_once` may return anything; the engine decides from it whether the packet is complete and
the toggle advances, the adapter which packet comes next.

* `canonical_iff`: the packets of a request are the chunks of its data, and the empty packet that
  may follow them.
* `Sends`: the invariant of the retry loop. The packets completed so far are the first ones, and
  each transaction sends the packet behind them, with the toggle they leave.
* `requestOut_packetises`: what is sent at every moment, and what the request returns.
-/

import PioUsbHost.Lib.Chunks
import PioUsbHost.Lib.Debounce
import PioUsbHost.Lib.History
import PioUsbHost.Pipe.OutDelivery

namespace PioUsbHost.Pipe

open PioUsbHost.Usb PioUsbHost.Host PioUsbHost.Lib.Panic
open PioUsbHost.Lib.Chunks PioUsbHost.Lib.Debounce PioUsbHost.Lib.History

/-! ### The packets of a request -/

/-- The empty packet that ends the transfer of data that is empty, or of full packets only. -/
def zeroLengthPacket (maxPacketSize : Nat) (data : List UInt8) (ensureTransactionEnd : Bool) :
    List (List UInt8) :=
  if data = [] ∨ ensureTransactionEnd = true ∧ maxPacketSize ∣ data.length then [[]] else []

/-- The packets that a transfer of the data consists of. -/
def Canonical (maxPacketSize : Nat) (data : List UInt8) (ensureTransactionEnd : Bool)
    (packets : List (List UInt8)) : Prop :=
  ∃ chunks, IsChunks maxPacketSize data chunks ∧
    packets = chunks ++ zeroLengthPacket maxPacketSize data ensureTransactionEnd

namespace OutRequest

variable {maxPacketSize : Nat} {data : List UInt8} {ensureTransactionEnd : Bool}

theorem mul_lt_of_lt_divCeil {len size fewer : Nat} (positive : 0 < size)
    (below : fewer < divCeil len size) : fewer * size < len := by
  have split := Nat.div_add_mod len size
  rw [Nat.mul_comm] at split
  unfold divCeil at below
  by_cases rest : len % size > 0
  · rw [if_pos rest] at below
    have least := Nat.mul_le_mul_right size (Nat.lt_succ_iff.mp below)
    omega
  · rw [if_neg rest, Nat.add_zero] at below
    have least := Nat.mul_le_mul_right size (Nat.succ_le_of_lt below)
    rw [Nat.succ_mul] at least
    omega

/-- The packets with data are its chunks. -/
theorem isChunks_packetAt (positive : 0 < maxPacketSize) :
    IsChunks maxPacketSize data
      ((List.range (divCeil data.length maxPacketSize)).map (packetAt maxPacketSize data)) := by
  have cut := isChunks_range (le_divCeil_mul data.length positive)
    fun fewer below => mul_lt_of_lt_divCeil positive below
  rwa [List.map_congr_left fun index _ => (packetAt_eq index).symm] at cut

theorem canonical_packets (positive : 0 < maxPacketSize) :
    Canonical maxPacketSize data ensureTransactionEnd
      (packets maxPacketSize data ensureTransactionEnd) := by
  refine ⟨_, isChunks_packetAt positive, ?_⟩
  unfold packets countPackets zeroLengthPacket
  by_cases empty : data = []
  · subst empty
    rw [if_pos rfl, if_pos (.inl rfl)]
    simp [divCeil, packetAt]
  · rw [if_neg empty]
    have divides : maxPacketSize ∣ data.length ↔ data.length % maxPacketSize = 0 :=
      Nat.dvd_iff_mod_eq_zero
    by_cases full : ensureTransactionEnd = true ∧ data.length % maxPacketSize = 0
    · have behind : packetAt maxPacketSize data (divCeil data.length maxPacketSize) = [] := by
        rw [packetAt_eq, List.drop_of_length_le (le_divCeil_mul _ positive), List.take_nil]
      rw [if_pos full, if_pos (.inr ⟨full.1, divides.mpr full.2⟩), List.range_succ, List.map_append,
        List.map_singleton, behind]
    · rw [if_neg full, if_neg (not_or.mpr ⟨empty, fun ends => full ⟨ends.1, divides.mp ends.2⟩⟩),
        List.append_nil]

/-- **The packets of a request** are the chunks of its data, and the empty one that may follow. -/
theorem canonical_iff (positive : 0 < maxPacketSize) {others : List (List UInt8)} :
    Canonical maxPacketSize data ensureTransactionEnd others ↔
      others = packets maxPacketSize data ensureTransactionEnd := by
  constructor
  · rintro ⟨chunks, cut, rfl⟩
    obtain ⟨same, cut', packets⟩ := canonical_packets positive
    rw [packets, cut.unique cut']
  · rintro rfl
    exact canonical_packets positive

end OutRequest

/-! ### The transactions of a request -/

/-- One call of `request_out_once`: its packet, the toggle it is sent with, and its result. -/
structure OutTransaction where
  packet : List UInt8
  toggle : DataToggle
  result : Except PipeError (TransactionOutcome Unit)

/-- A pipe, with the transactions that its request has made. -/
structure OutSender where
  pipe : PioHostPipe
  sent : List OutTransaction

/-- `request_out_once`, by what `out_once` returns. -/
def requestOutOnceReply (target : PipeTarget) (toggle : DataToggle)
    (reply : Except PipeError OutResponse) :
    Except PipeError (TransactionOutcome Unit) × DataToggle :=
  if target.endpoint.epType ∉ [EndpointType.bulk, .interrupt] ∨ target.endpoint.isIn then
    (.error .badResponse, toggle)
  else
    match reply with
    | .error error => (.error error, toggle)
    | .ok .ack => (.ok (.complete ()), toggle.afterAck)
    | .ok .nak => (.ok .nak, toggle)
    | .ok .noResponse => (.ok .noResponse, toggle)

/-- Over the wire, the reply is that of `out_once`. -/
theorem requestOutOnce_eq_reply (target : PipeTarget) (toggle : DataToggle) (packet : List UInt8)
    (wire : OutWire) (endpoint : OutEndpoint) :
    ((requestOutOnce target toggle packet wire endpoint).result,
        (requestOutOnce target toggle packet wire endpoint).toggle) =
      requestOutOnceReply target toggle (outOnce toggle.pid packet wire endpoint).1 := by
  unfold requestOutOnce requestOutOnceReply
  split
  · rfl
  · split
    all_goals rename_i out; rw [out]

/-- The packet is complete exactly when the toggle advances. -/
theorem requestOutOnceReply_spec (target : PipeTarget) (toggle : DataToggle)
    (reply : Except PipeError OutResponse) :
    requestOutOnceReply target toggle reply = (.ok (.complete ()), toggle.afterAck) ∨
      (requestOutOnceReply target toggle reply).1 ≠ .ok (.complete ()) ∧
        (requestOutOnceReply target toggle reply).2 = toggle := by
  unfold requestOutOnceReply
  split
  · exact .inr ⟨by simp, rfl⟩
  · split
    · exact .inr ⟨by simp, rfl⟩
    · exact .inl rfl
    · exact .inr ⟨by simp, rfl⟩
    · exact .inr ⟨by simp, rfl⟩

/-- The retry loop of `request_out`. -/
def outSender : RetryLoop OutSender (Except PipeError OutResponse) OutRequest Unit Unit where
  pipe := OutSender.pipe
  operate reply request sender :=
    let (result, toggle) :=
      requestOutOnceReply sender.pipe.target sender.pipe.dataToggle reply
    (result,
      { pipe := { sender.pipe with dataToggle := toggle }
        sent := sender.sent ++ [⟨request.packet sender.pipe.target, sender.pipe.dataToggle, result⟩] })
  afterOutcome := OutRequest.afterOutcome

/-- `request_out`, with the transactions it has made. -/
def requestOut (pipe : PioHostPipe) (data : List UInt8) (ensureTransactionEnd : Bool)
    (completions : List (Completion (Except PipeError OutResponse))) :
    Call PipeError Unit × OutSender :=
  match OutRequest.start pipe.target data ensureTransactionEnd with
  | .error fault => (.returned (.error fault), ⟨pipe, []⟩)
  | .ok request => outSender.run completions .transactionDue request ⟨pipe, []⟩

/-- The packet, if the transaction completed. -/
def OutTransaction.completed (transaction : OutTransaction) : List (List UInt8) :=
  match transaction.result with
  | .ok (.complete ()) => [transaction.packet]
  | _ => []

/-- The packets whose transactions completed, in order. -/
def completedPackets (sent : List OutTransaction) : List (List UInt8) :=
  sent.flatMap OutTransaction.completed

/-- The transaction sends the packet behind the completed ones, with the toggle they leave. -/
def SendsNext (packets : List (List UInt8)) (toggle : DataToggle) (before : List OutTransaction)
    (transaction : OutTransaction) : Prop :=
  packets[(completedPackets before).length]? = some transaction.packet ∧
    transaction.toggle = DataToggle.afterAck^[(completedPackets before).length] toggle

/-- The results of the transactions. -/
def resultsOf (sent : List OutTransaction) : List (Except PipeError (TransactionOutcome Unit)) :=
  sent.map OutTransaction.result

/-- There was no response, 128 times in a row. -/
def Silence (sent : List OutTransaction) : Prop :=
  List.replicate 128 (.ok .noResponse) <:+: resultsOf sent

/-! ### The invariant of the retry loop -/

/-- What holds of the transactions of a request at every moment. -/
structure Moment (packets : List (List UInt8)) (toggle : DataToggle) (sent : List OutTransaction) :
    Prop where
  /-- The packets whose transactions completed are the first ones, in order. -/
  completed : completedPackets sent <+: packets
  /-- A packet is sent again, with its toggle, until its transaction completes. -/
  sends : AtEach (SendsNext packets toggle) sent

/-- What a request on a valid pipe returns, by its transactions. -/
structure Concluded (packets : List (List UInt8)) (result : Call PipeError Unit)
    (sent : List OutTransaction) : Prop where
  ok : result = .returned (.ok ()) ↔ completedPackets sent = packets
  timeout : result = .returned (fail .timeout) ↔
    Silence sent ∨ .error .timeout ∈ resultsOf sent

/-- The request is under way: the packets before the current one are completed. -/
structure Sends (packets : List (List UInt8)) (target : PipeTarget) (toggle : DataToggle)
    (request : OutRequest) (sender : OutSender) : Prop where
  sameTarget : sender.pipe.target = target
  cut : ∀ index < request.packetCount,
    packets[index]? = some (OutRequest.packetAt target.maxPacketSize request.data index)
  count : packets.length = request.packetCount
  index : request.packetIndex < request.packetCount
  reached : sender.pipe.dataToggle = DataToggle.afterAck^[request.packetIndex] toggle
  completed : completedPackets sender.sent = packets.take request.packetIndex
  sends : AtEach (SendsNext packets toggle) sender.sent
  few : request.noResponseCount < 128
  /-- The counter is the number of times in a row that there was no response. -/
  trailing : ∀ length, EndsInRun length (resultsOf sender.sent) (.ok .noResponse) ↔
    length ≤ request.noResponseCount
  loud : ¬ Silence sender.sent
  unfailed : ∀ error, .error error ∉ resultsOf sender.sent

theorem resultsOf_concat (sent : List OutTransaction) (transaction : OutTransaction) :
    resultsOf (sent ++ [transaction]) = resultsOf sent ++ [transaction.result] := List.map_append

theorem completedPackets_concat (sent : List OutTransaction) (transaction : OutTransaction) :
    completedPackets (sent ++ [transaction]) =
      completedPackets sent ++ transaction.completed := by
  rw [completedPackets, List.flatMap_append, List.flatMap_singleton, completedPackets]

theorem completed_eq_nil {transaction : OutTransaction}
    (incomplete : transaction.result ≠ .ok (.complete ())) : transaction.completed = [] := by
  unfold OutTransaction.completed
  split
  · rename_i complete
    exact absurd complete incomplete
  · rfl

/-- Silence that one more transaction completes. -/
theorem silence_concat_iff (sent : List OutTransaction) (transaction : OutTransaction) :
    Silence (sent ++ [transaction]) ↔ Silence sent ∨
      EndsInRun 128 (resultsOf sent ++ [transaction.result]) (.ok .noResponse) := by
  rw [Silence, resultsOf_concat, List.infix_concat_iff, or_comm]
  rfl

section Step

variable {packets : List (List UInt8)} {target : PipeTarget} {toggle : DataToggle}
  {request : OutRequest} {sender : OutSender}

namespace Sends

/-- The transaction that the request makes next. -/
def transaction (request : OutRequest) (sender : OutSender) (reply : Except PipeError OutResponse) :
    OutTransaction where
  packet := request.packet sender.pipe.target
  toggle := sender.pipe.dataToggle
  result := (requestOutOnceReply sender.pipe.target sender.pipe.dataToggle reply).1

theorem length_completed (sends : Sends packets target toggle request sender) :
    (completedPackets sender.sent).length = request.packetIndex := by
  have index := sends.index
  rw [sends.completed, List.length_take, sends.count]
  omega

/-- The next transaction sends the packet behind the completed ones. -/
theorem sendsNext (sends : Sends packets target toggle request sender)
    (reply : Except PipeError OutResponse) :
    SendsNext packets toggle sender.sent (transaction request sender reply) := by
  refine ⟨?_, ?_⟩
  · rw [sends.length_completed, sends.cut _ sends.index, transaction, OutRequest.packet,
      sends.sameTarget]
  · rw [sends.length_completed]
    exact sends.reached

/-- A transaction that completes has sent the current packet. -/
theorem completed_of_complete (sends : Sends packets target toggle request sender)
    {reply : Except PipeError OutResponse}
    (complete : (transaction request sender reply).result = .ok (.complete ())) :
    (transaction request sender reply).completed = [request.packet target] := by
  rw [OutTransaction.completed, complete, transaction, sends.sameTarget]

/-- A completed transaction adds the current packet to the completed ones. -/
theorem take_succ (sends : Sends packets target toggle request sender) :
    packets.take request.packetIndex ++ [request.packet target] =
      packets.take (request.packetIndex + 1) := by
  rw [List.take_add_one, sends.cut _ sends.index]
  rfl

/-- **At every moment**, after one more transaction. -/
theorem moment (sends : Sends packets target toggle request sender)
    (reply : Except PipeError OutResponse) :
    Moment packets toggle (sender.sent ++ [transaction request sender reply]) := by
  refine ⟨?_, atEach_concat.mpr ⟨sends.sends, sends.sendsNext reply⟩⟩
  rw [completedPackets_concat, sends.completed]
  by_cases complete : (transaction request sender reply).result = .ok (.complete ())
  · rw [sends.completed_of_complete complete, sends.take_succ]
    exact List.take_prefix _ _
  · rw [completed_eq_nil complete, List.append_nil]
    exact List.take_prefix _ _

/-- A request under way has neither completed its packets nor timed out. -/
theorem waiting (sends : Sends packets target toggle request sender) :
    Concluded packets .waiting sender.sent := by
  have index := sends.index
  refine ⟨iff_of_false (by simp) ?_, iff_of_false (by simp) ?_⟩
  · intro all
    have length := sends.length_completed
    rw [all, sends.count] at length
    omega
  · exact not_or.mpr ⟨sends.loud, sends.unfailed .timeout⟩

/-- A transaction that fails ends the request with its error. -/
theorem failed (sends : Sends packets target toggle request sender)
    {reply : Except PipeError OutResponse} {error : PipeError}
    (result : (transaction request sender reply).result = .error error) :
    Concluded packets (.returned (fail error))
      (sender.sent ++ [transaction request sender reply]) := by
  have waiting := sends.waiting
  refine ⟨?_, ?_⟩
  · rw [completedPackets_concat, completed_eq_nil (by rw [result]; simp), List.append_nil,
      ← waiting.ok]
    exact iff_of_false (by simp [fail]) (by simp)
  · rw [silence_concat_iff, resultsOf_concat, result, endsInRun_concat_iff, List.mem_append,
      List.mem_singleton]
    simp only [sends.loud, sends.unfailed .timeout, reduceCtorEq, false_and, false_or,
      Except.error.injEq, fail, Call.returned.injEq, Fault.error.injEq]
    exact eq_comm

/-- **A transaction that completes** its packet. -/
theorem completes (sends : Sends packets target toggle request sender)
    {reply : Except PipeError OutResponse}
    (result : (transaction request sender reply).result = .ok (.complete ())) :
    completedPackets (sender.sent ++ [transaction request sender reply]) =
        packets.take (request.packetIndex + 1) ∧
      ¬ Silence (sender.sent ++ [transaction request sender reply]) ∧
      ∀ error, .error error ∉ resultsOf (sender.sent ++ [transaction request sender reply]) := by
  refine ⟨?_, ?_, ?_⟩
  · rw [completedPackets_concat, sends.completed_of_complete result, sends.completed,
      sends.take_succ]
  · rw [silence_concat_iff, result, endsInRun_concat_iff]
    simp [sends.loud]
  · intro error
    rw [resultsOf_concat, result, List.mem_append, List.mem_singleton]
    simp [sends.unfailed error]

/-- **A transaction that has to be repeated** leaves the packet and the toggle. -/
theorem repeats (sends : Sends packets target toggle request sender)
    {reply : Except PipeError OutResponse} {outcome : TransactionOutcome Unit}
    (result : (transaction request sender reply).result = .ok outcome)
    (incomplete : outcome ≠ .complete ()) {noResponseCount : Nat} (few : noResponseCount < 128)
    (trailing : ∀ length,
      EndsInRun length (resultsOf sender.sent ++ [.ok outcome]) (.ok .noResponse) ↔
        length ≤ noResponseCount) :
    Sends packets target toggle { request with noResponseCount }
      ⟨sender.pipe, sender.sent ++ [transaction request sender reply]⟩ where
  sameTarget := sends.sameTarget
  cut := sends.cut
  count := sends.count
  index := sends.index
  reached := sends.reached
  completed := by
    have nothing : (transaction request sender reply).completed = [] := by
      refine completed_eq_nil ?_
      rw [result]
      exact fun same => incomplete (Except.ok.inj same)
    rw [completedPackets_concat, nothing, List.append_nil]
    exact sends.completed
  sends := atEach_concat.mpr ⟨sends.sends, sends.sendsNext reply⟩
  few := few
  trailing := by
    intro length
    rw [resultsOf_concat, result]
    exact trailing length
  loud := by
    rw [silence_concat_iff, result, trailing]
    exact not_or.mpr ⟨sends.loud, by omega⟩
  unfailed := by
    intro error
    rw [resultsOf_concat, result, List.mem_append, List.mem_singleton]
    simp [sends.unfailed error]

/-- The packet after a completed one. -/
theorem advances (sends : Sends packets target toggle request sender)
    {reply : Except PipeError OutResponse}
    (result : (transaction request sender reply).result = .ok (.complete ()))
    (more : request.packetIndex + 1 < request.packetCount) :
    Sends packets target toggle
      { request with packetIndex := request.packetIndex + 1, noResponseCount := 0 }
      ⟨{ sender.pipe with dataToggle := sender.pipe.dataToggle.afterAck },
        sender.sent ++ [transaction request sender reply]⟩ where
  sameTarget := sends.sameTarget
  cut := sends.cut
  count := sends.count
  index := more
  reached := by
    rw [Function.iterate_succ_apply', ← sends.reached]
  completed := (sends.completes result).1
  sends := atEach_concat.mpr ⟨sends.sends, sends.sendsNext reply⟩
  few := Nat.succ_pos 127
  trailing := by
    intro length
    rw [resultsOf_concat, result]
    cases length with
    | zero => exact iff_of_true (endsInRun_zero _ _) (Nat.le_refl 0)
    | succ length =>
      rw [endsInRun_concat_iff]
      simp
  loud := (sends.completes result).2.1
  unfailed := (sends.completes result).2.2

/-- The last packet of the request. -/
theorem returnsOk (sends : Sends packets target toggle request sender)
    {reply : Except PipeError OutResponse}
    (result : (transaction request sender reply).result = .ok (.complete ()))
    (last : ¬ request.packetIndex + 1 < request.packetCount) :
    Concluded packets (.returned (.ok ()))
      (sender.sent ++ [transaction request sender reply]) := by
  obtain ⟨completed, loud, unfailed⟩ := sends.completes result
  have all : packets.take (request.packetIndex + 1) = packets :=
    List.take_of_length_le (by rw [sends.count]; omega)
  refine ⟨iff_of_true rfl (completed.trans all), iff_of_false (by simp [fail]) ?_⟩
  exact not_or.mpr ⟨loud, unfailed .timeout⟩

/-- The 128th time without a response. -/
theorem timesOut (sends : Sends packets target toggle request sender)
    {reply : Except PipeError OutResponse}
    (result : (transaction request sender reply).result = .ok .noResponse)
    (limit : request.noResponseCount + 1 ≥ nonResponseRetryLimit) :
    Concluded packets (.returned (fail .timeout))
      (sender.sent ++ [transaction request sender reply]) := by
  refine ⟨?_, iff_of_true rfl (.inl ?_)⟩
  · rw [completedPackets_concat, completed_eq_nil (by rw [result]; simp), List.append_nil,
      ← sends.waiting.ok]
    exact iff_of_false (by simp [fail]) (by simp)
  · have reached : 127 ≤ request.noResponseCount := Nat.le_of_succ_le_succ limit
    rw [silence_concat_iff, result, endsInRun_concat_iff, sends.trailing]
    exact .inr ⟨rfl, reached⟩

/-- A transaction leaves the target. -/
theorem target_operate (sends : Sends packets target toggle request sender)
    {reply : Except PipeError OutResponse} {result : Except PipeError (TransactionOutcome Unit)}
    {after : OutSender} (operation : outSender.operate reply request sender = (result, after)) :
    (outSender.pipe after).target = target := by
  rw [← sends.sameTarget]
  exact (congrArg (fun step => step.2.pipe.target) operation).symm

/-- **What the loop makes of an outcome.** -/
theorem outcome (sends : Sends packets target toggle request sender)
    {reply : Except PipeError OutResponse} {outcome : TransactionOutcome Unit} {after : OutSender}
    (operation : outSender.operate reply request sender = (.ok outcome, after)) :
    match OutRequest.afterOutcome target request outcome with
    | .again next => Sends packets target toggle next after
    | .returned result => Concluded packets (.returned result) after.sent := by
  have result : (transaction request sender reply).result = .ok outcome :=
    congrArg Prod.fst operation
  have world : after = ⟨{ sender.pipe with dataToggle :=
        (requestOutOnceReply sender.pipe.target sender.pipe.dataToggle reply).2 },
      sender.sent ++ [transaction request sender reply]⟩ :=
    (congrArg Prod.snd operation).symm
  rcases requestOutOnceReply_spec sender.pipe.target sender.pipe.dataToggle reply with
    done | ⟨incomplete, same⟩
  · have complete : (transaction request sender reply).result = .ok (.complete ()) :=
      congrArg Prod.fst done
    rw [complete] at result
    cases result
    rw [world, done, OutRequest.afterOutcome]
    by_cases more : request.packetIndex + 1 < request.packetCount
    · rw [if_pos more]
      exact sends.advances complete more
    · rw [if_neg more]
      exact sends.returnsOk complete more
  · rw [world, same]
    cases outcome with
    | complete received => exact absurd result incomplete
    | nak =>
      refine sends.repeats result (by simp) (Nat.succ_pos 127) ?_
      intro length
      cases length with
      | zero => exact iff_of_true (endsInRun_zero _ _) (Nat.le_refl 0)
      | succ length =>
        rw [endsInRun_concat_iff]
        simp
    | noResponse =>
      rw [OutRequest.afterOutcome]
      by_cases limit : request.noResponseCount + 1 ≥ nonResponseRetryLimit
      · rw [if_pos limit]
        exact sends.timesOut result limit
      · rw [if_neg limit]
        refine sends.repeats result (by simp) (Nat.not_le.mp limit) ?_
        intro length
        cases length with
        | zero => exact iff_of_true (endsInRun_zero _ _) (Nat.zero_le _)
        | succ length =>
          rw [endsInRun_concat_iff, sends.trailing, Nat.succ_le_succ_iff]
          exact and_iff_right rfl

/-- **A request on a valid pipe**, by induction on the replies. -/
theorem serve_concluded (sends : Sends packets target toggle request sender)
    (replies : List (Except PipeError OutResponse)) :
    Concluded packets (outSender.serve replies request sender).1
      (outSender.serve replies request sender).2.sent := by
  induction replies generalizing request sender with
  | nil => exact sends.waiting
  | cons reply rest ih =>
    cases operation : outSender.operate reply request sender with
    | mk result after =>
      cases result with
      | error error =>
        rw [RetryLoop.serve_error operation]
        have sent : after.sent = sender.sent ++ [transaction request sender reply] :=
          (congrArg (fun step => step.2.sent) operation).symm
        rw [sent]
        exact sends.failed (congrArg Prod.fst operation)
      | ok outcome =>
        have step := sends.outcome operation
        have same := sends.target_operate operation
        cases followed : OutRequest.afterOutcome target request outcome with
        | again next =>
          rw [followed] at step
          rw [RetryLoop.serve_again operation (by rw [same]; exact followed)]
          exact ih step
        | returned result =>
          rw [followed] at step
          rw [RetryLoop.serve_returned operation (by rw [same]; exact followed)]
          exact step

/-- **A request at every moment**, whatever the checks of the pipe find. -/
theorem run_moment (sends : Sends packets target toggle request sender)
    (completions : List (Completion (Except PipeError OutResponse))) (point : AwaitPoint) :
    Moment packets toggle (outSender.run completions point request sender).2.sent := by
  have now : ∀ request sender, Sends packets target toggle request sender →
      Moment packets toggle sender.sent := by
    intro request sender sends
    exact ⟨by rw [sends.completed]; exact List.take_prefix _ _, sends.sends⟩
  refine RetryLoop.run_spec (Sends packets target toggle)
    (fun _ after => Moment packets toggle after.sent) now now ?_ ?_ sends completions point
  · intro completion request sender next after sends step
    rcases RetryLoop.transact_of_valid step with ⟨error, impossible⟩ | ⟨outcome, operation, followed⟩
    · cases impossible
    · have same := sends.target_operate operation
      have kept := sends.outcome operation
      rw [same] at followed
      rw [show OutRequest.afterOutcome target request outcome = .again next from followed] at kept
      exact kept
  · intro completion request sender result after sends step
    have world := outSender.transact_world completion request sender
    rw [step] at world
    rw [show after = _ from world]
    exact sends.moment completion.wire

end Sends

end Step

/-! ### The whole request -/

/-- **The request sends its packets**, each until its transaction completes. -/
structure Packetises (pipe : PioHostPipe) (data : List UInt8) (ensureTransactionEnd : Bool)
    (completions : List (Completion (Except PipeError OutResponse)))
    (packets : List (List UInt8)) : Prop where
  /-- The chunks of the data, and the empty packet that may follow. -/
  canonical : Canonical pipe.target.maxPacketSize data ensureTransactionEnd packets
  /-- At every moment, whatever the checks of the pipe find. -/
  moment : Moment packets pipe.dataToggle
    (requestOut pipe data ensureTransactionEnd completions).2.sent
  /-- The result, while the pipe is valid. -/
  concluded : (∀ completion ∈ completions, pipe.checkValid completion.port = .ok ()) →
    Concluded packets (requestOut pipe data ensureTransactionEnd completions).1
      (requestOut pipe data ensureTransactionEnd completions).2.sent

section Request

variable {pipe : PioHostPipe} {data : List UInt8} {ensureTransactionEnd : Bool}

/-- The request before its first transaction. -/
def firstRequest (pipe : PioHostPipe) (data : List UInt8) (ensureTransactionEnd : Bool) :
    OutRequest where
  data := data
  packetCount := OutRequest.countPackets pipe.target.maxPacketSize data ensureTransactionEnd
  packetIndex := 0
  noResponseCount := 0

theorem sends_firstRequest (positive : 0 < pipe.target.maxPacketSize) :
    Sends (OutRequest.packets pipe.target.maxPacketSize data ensureTransactionEnd) pipe.target
      pipe.dataToggle (firstRequest pipe data ensureTransactionEnd) ⟨pipe, []⟩ where
  sameTarget := rfl
  cut := by
    intro index below
    have inside : index < OutRequest.countPackets pipe.target.maxPacketSize data
        ensureTransactionEnd := below
    rw [OutRequest.packets, List.getElem?_map, List.getElem?_range inside]
    rfl
  count := OutRequest.packets_length
  index := OutRequest.countPackets_pos positive
  reached := rfl
  completed := rfl
  sends := atEach_nil
  few := Nat.succ_pos 127
  trailing := by
    intro length
    rw [EndsInRun, resultsOf, List.map_nil, List.suffix_nil, List.replicate_eq_nil_iff]
    exact Nat.le_zero.symm
  loud := by
    intro silence
    have length := silence.length_le
    rw [List.length_replicate] at length
    exact Nat.not_succ_le_zero 127 length
  unfailed := by
    intro error member
    cases member

theorem requestOut_eq_run (positive : 0 < pipe.target.maxPacketSize)
    (completions : List (Completion (Except PipeError OutResponse))) :
    requestOut pipe data ensureTransactionEnd completions =
      outSender.run completions .transactionDue (firstRequest pipe data ensureTransactionEnd)
        ⟨pipe, []⟩ := by
  rw [requestOut, OutRequest.start, if_neg (by omega)]
  rfl

/-- A bulk OUT pipe on the first device of a port. -/
def bulkOutPipe : PioHostPipe where
  target := ⟨1, ⟨0x01, .bulk, 64, 0⟩⟩
  dataToggle := .data0
  connectionGeneration := 1
  resetGeneration := 1

/-- **`request_out` packetises exactly.** -/
theorem requestOut_packetises (positive : 0 < pipe.target.maxPacketSize)
    (completions : List (Completion (Except PipeError OutResponse))) :
    ∃ packets, Packetises pipe data ensureTransactionEnd completions packets := by
  have sends := @sends_firstRequest pipe data ensureTransactionEnd positive
  refine ⟨_, (OutRequest.canonical_iff positive).mpr rfl, ?_, ?_⟩
  · rw [requestOut_eq_run positive]
    exact sends.run_moment completions .transactionDue
  · intro valid
    have served : outSender.run completions .transactionDue
        (firstRequest pipe data ensureTransactionEnd) ⟨pipe, []⟩ =
        outSender.serve (RetryLoop.transactions completions .transactionDue)
          (firstRequest pipe data ensureTransactionEnd) ⟨pipe, []⟩ := by
      refine @RetryLoop.run_eq_serve _ _ _ _ _ outSender
        (fun sender => sender.pipe.checkValid = pipe.checkValid) completions ?_ ?_ .transactionDue
        _ ⟨pipe, []⟩ rfl
      · intro completion member sender same
        show sender.pipe.checkValid completion.port = .ok ()
        rw [same]
        exact valid completion member
      · intro reply request sender same
        exact same
    rw [requestOut_eq_run positive, served]
    exact sends.serve_concluded _

end Request

/-- One packet, sent again after a NAK. -/
theorem requestOut_packetises_nak :
    let nak : Completion (Except PipeError OutResponse) :=
      ⟨PortState.initial.afterConnection .full, .ok .nak⟩
    let ack : Completion (Except PipeError OutResponse) :=
      ⟨PortState.initial.afterConnection .full, .ok .ack⟩
    ∃ packets, Packetises bulkOutPipe [7, 8] true [nak, nak, nak, ack, ack, ack] packets :=
  requestOut_packetises (by decide) _

/-- Silence is not the only way to a timeout: a transmitter that does not start is another. -/
theorem not_timeout_iff_silence_of_out :
    (outOnce DataToggle.data0.pid [7] (.transmitFailed none) ⟨.data0, []⟩).1 = .error .timeout ∧
      ¬ ∀ (pipe : PioHostPipe) (data : List UInt8) (ensureTransactionEnd : Bool)
        (completions : List (Completion (Except PipeError OutResponse))),
        0 < pipe.target.maxPacketSize → pipe.target.endpoint.epType = .bulk →
        pipe.target.endpoint.isIn = false →
        (∀ completion ∈ completions, pipe.checkValid completion.port = .ok ()) →
        ((requestOut pipe data ensureTransactionEnd completions).1 = .returned (fail .timeout) ↔
          Silence (requestOut pipe data ensureTransactionEnd completions).2.sent) := by
  refine ⟨by decide, ?_⟩
  intro claimed
  let failed : Completion (Except PipeError OutResponse) :=
    ⟨PortState.initial.afterConnection .full, .error .timeout⟩
  have silence : Silence (requestOut bulkOutPipe [7] false [failed, failed, failed]).2.sent :=
    (claimed bulkOutPipe [7] false [failed, failed, failed] (by decide) rfl rfl (by decide)).mp rfl
  have length := silence.length_le
  rw [List.length_replicate] at length
  have once : (resultsOf (requestOut bulkOutPipe [7] false
    [failed, failed, failed]).2.sent).length = 1 := rfl
  omega

end PioUsbHost.Pipe
