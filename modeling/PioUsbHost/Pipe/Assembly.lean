/-
**One IN request assembles one transfer.**

`request_in` on any packet engine, by the replies that its transactions get. The retry counter starts
over at every packet and at every NAK, the buffer offset goes through the whole request.

* `Unfinished`: the replies after which a request still wants another transaction.
* `Ends`: the replies that end it, with what it returns.
* `serve_unfinished`: after an unfinished sequence the request holds the packets, in order.
* `requestIn_assembles`: what a request returns, and after how many transactions.
-/

import PioUsbHost.Lib.History
import PioUsbHost.Pipe.Contract
import PioUsbHost.Pipe.InDelivery

namespace PioUsbHost.Pipe

open PioUsbHost.Usb PioUsbHost.Host PioUsbHost.Lib.Panic PioUsbHost.Lib.History

/-- What one transaction of `request_in` gets from the packet engine; a completed one has written its
packet into the buffer. -/
abbrev InReply := Except PipeError (TransactionOutcome (List UInt8))

/-- `request_in`, on any packet engine. -/
def requestIn (pipe : PioHostPipe) (buffer : List UInt8)
    (completions : List (Completion (EngineReply (List UInt8)))) :
    Call PipeError (List UInt8 × Nat) × Caller :=
  if buffer = [] then (.returned (.ok ([], 0)), ⟨pipe, []⟩)
  else inCaller.run completions .transactionDue (InRequest.start buffer) ⟨pipe, []⟩

/-! ### Sequences of replies -/

/-- The packets of the completed transactions, in order. -/
def received (replies : List InReply) : List UInt8 := (replies.flatMap completed).flatten

/-- The number of times in a row without a response, after one more reply. -/
def countSilent (count : Nat) : InReply → Nat
  | .ok .noResponse => count + 1
  | _ => 0

/-- The number of times in a row that there was no response, at the end. -/
def silent (replies : List InReply) : Nat := replies.foldl countSilent 0

/-- The packet is the last of the transfer. -/
def IsLast (target : PipeTarget) (buffer : List UInt8) (before : List InReply)
    (packet : List UInt8) : Prop :=
  target.endpoint.epType ≠ .bulk ∨ packet.length < target.maxPacketSize ∨
    (received before).length + packet.length = buffer.length

/-- After these replies and this one, the request wants another transaction. -/
inductive GoesOn (target : PipeTarget) (buffer : List UInt8) (before : List InReply) :
    InReply → Prop where
  | nak (retries : target.endpoint.epType ≠ .isochronous) : GoesOn target buffer before (.ok .nak)
  | noResponse (retries : target.endpoint.epType ≠ .isochronous)
      (few : silent before + 1 < 128) : GoesOn target buffer before (.ok .noResponse)
  | packet (packet : List UInt8) (more : ¬ IsLast target buffer before packet)
      (fits : (received before).length + packet.length ≤ buffer.length) :
      GoesOn target buffer before (.ok (.complete packet))

/-- The request still wants another transaction. -/
def Unfinished (target : PipeTarget) (buffer : List UInt8) (replies : List InReply) : Prop :=
  ∀ before reply after, replies = before ++ reply :: after → GoesOn target buffer before reply

/-- The reply ends the request with the result. -/
inductive Ends (target : PipeTarget) (buffer : List UInt8) (before : List InReply) :
    InReply → Checked PipeError (List UInt8 × Nat) → Prop where
  | error (error : PipeError) : Ends target buffer before (.error error) (fail error)
  | isochronous (once : target.endpoint.epType = .isochronous) (reply : InReply)
      (missing : reply = .ok .nak ∨ reply = .ok .noResponse) :
      Ends target buffer before reply (fail .timeout)
  | silence (retries : target.endpoint.epType ≠ .isochronous) (limit : silent before + 1 = 128) :
      Ends target buffer before (.ok .noResponse) (fail .timeout)
  | packet (packet : List UInt8) (last : IsLast target buffer before packet)
      (fits : (received before).length + packet.length ≤ buffer.length) :
      Ends target buffer before (.ok (.complete packet))
        (.ok (received before ++ packet ++ buffer.drop ((received before).length + packet.length),
          (received before).length + packet.length))

/-- Every packet fits the slice that is handed to the engine. -/
def PacketsFit (target : PipeTarget) (buffer : List UInt8) (replies : List InReply) : Prop :=
  ∀ before packet after, replies = before ++ .ok (.complete packet) :: after →
    Unfinished target buffer before →
    (received before).length + packet.length ≤ buffer.length

section Replies

variable {target : PipeTarget} {buffer : List UInt8} {replies before after : List InReply}
  {reply : InReply}

theorem received_append :
    received (before ++ after) = received before ++ received after := by
  rw [received, List.flatMap_append, List.flatten_append, received, received]

theorem received_packet (packet : List UInt8) :
    received (before ++ [.ok (.complete packet)]) = received before ++ packet := by
  rw [received_append]
  exact congrArg _ (List.append_nil packet)

theorem silent_concat : silent (before ++ [reply]) = countSilent (silent before) reply := by
  rw [silent, List.foldl_append]
  rfl

theorem silent_replicate (count : Nat) :
    silent (before ++ List.replicate count (.ok .noResponse)) = silent before + count := by
  induction count with
  | zero => rw [List.replicate_zero, List.append_nil, Nat.add_zero]
  | succ count ih =>
    rw [List.replicate_succ', ← List.append_assoc, silent_concat, ih]
    rfl

/-- The sequence ends with the counted replies. -/
theorem exists_replicate (replies : List InReply) :
    ∃ before, replies = before ++ List.replicate (silent replies) (.ok .noResponse) := by
  induction replies using List.reverseRecOn with
  | nil => exact ⟨[], rfl⟩
  | append_singleton replies reply ih =>
    rw [silent_concat]
    rcases reply with error | ⟨packet | - | -⟩
    · exact ⟨_, (List.append_nil _).symm⟩
    · exact ⟨_, (List.append_nil _).symm⟩
    · exact ⟨_, (List.append_nil _).symm⟩
    · obtain ⟨before, same⟩ := ih
      refine ⟨before, ?_⟩
      rw [countSilent, List.replicate_succ', ← List.append_assoc, ← same]

theorem unfinished_nil : Unfinished target buffer [] := atEach_nil

theorem Unfinished.of_append (unfinished : Unfinished target buffer (before ++ after)) :
    Unfinished target buffer before :=
  AtEach.of_append unfinished

/-- **One more reply.** -/
theorem unfinished_concat :
    Unfinished target buffer (before ++ [reply]) ↔
      Unfinished target buffer before ∧ GoesOn target buffer before reply :=
  atEach_concat

/-- A sequence of replies is unfinished, or one of them is the first that the request does not go on
after. -/
theorem unfinished_or_first (replies : List InReply) :
    Unfinished target buffer replies ∨ ∃ before reply after, replies = before ++ reply :: after ∧
      Unfinished target buffer before ∧ ¬ GoesOn target buffer before reply :=
  atEach_or_first replies

theorem silent_lt (unfinished : Unfinished target buffer replies) : silent replies < 128 := by
  rcases List.eq_nil_or_concat replies with rfl | ⟨before, last, rfl⟩
  · decide
  · rw [List.concat_eq_append] at unfinished ⊢
    rw [silent_concat]
    cases (unfinished_concat.mp unfinished).2 with
    | nak retries => exact Nat.succ_pos 127
    | noResponse retries few => exact few
    | packet packet more fits => exact Nat.succ_pos 127

/-- A reply that the request does not go on after ends it. -/
theorem ends_of_not_goesOn (unfinished : Unfinished target buffer before)
    (fits : ∀ packet, reply = .ok (.complete packet) →
      (received before).length + packet.length ≤ buffer.length)
    (stops : ¬ GoesOn target buffer before reply) : ∃ result, Ends target buffer before reply result := by
  rcases reply with error | ⟨packet | - | -⟩
  · exact ⟨_, .error error⟩
  · by_cases last : IsLast target buffer before packet
    · exact ⟨_, .packet packet last (fits packet rfl)⟩
    · exact absurd (.packet packet last (fits packet rfl)) stops
  · by_cases once : target.endpoint.epType = .isochronous
    · exact ⟨_, .isochronous once _ (.inl rfl)⟩
    · exact absurd (.nak once) stops
  · by_cases once : target.endpoint.epType = .isochronous
    · exact ⟨_, .isochronous once _ (.inr rfl)⟩
    · have few := silent_lt unfinished
      by_cases limit : silent before + 1 < 128
      · exact absurd (.noResponse once limit) stops
      · exact ⟨_, .silence once (by omega)⟩

/-- Packets that fit together fit one by one. -/
theorem packetsFit_of_length_le (fit : (received replies).length ≤ buffer.length) :
    PacketsFit target buffer replies := by
  rintro before packet after rfl -
  rw [List.append_cons, received_append, received_packet, List.length_append,
    List.length_append] at fit
  omega

end Replies

/-! ### The request by its replies -/

section Serve

variable {target : PipeTarget} {buffer : List UInt8} {before : List InReply}

/-- The request after these replies. -/
def requestAfter (buffer : List UInt8) (replies : List InReply) : InRequest where
  buffer := received replies ++ buffer.drop (received replies).length
  received := (received replies).length
  noResponseCount := silent replies

theorem room_requestAfter : (requestAfter buffer before).room =
    buffer.length - (received before).length := by
  rw [InRequest.room, requestAfter, List.length_append, List.length_drop, Nat.add_sub_cancel_left]

theorem length_requestAfter (fits : (received before).length ≤ buffer.length) :
    (requestAfter buffer before).buffer.length = buffer.length := by
  rw [requestAfter, List.length_append, List.length_drop, Nat.add_sub_cancel' fits]

/-- The packet is written behind the earlier ones. -/
theorem overwrite_requestAfter (packet : List UInt8) :
    overwrite (requestAfter buffer before).buffer (requestAfter buffer before).received packet =
      received before ++ packet ++ buffer.drop ((received before).length + packet.length) := by
  rw [overwrite, requestAfter, List.take_left, List.drop_length_add_append, List.drop_drop]

/-- A reply without a packet changes the counter only. -/
theorem requestAfter_concat {reply : InReply} (nothing : completed reply = []) :
    requestAfter buffer (before ++ [reply]) =
      { requestAfter buffer before with noResponseCount := countSilent (silent before) reply } := by
  have same : received (before ++ [reply]) = received before := by
    rw [received, List.flatMap_append, List.flatMap_singleton, nothing, List.append_nil, received]
  rw [requestAfter, same, silent_concat, requestAfter]

theorem requestAfter_packet (packet : List UInt8) :
    requestAfter buffer (before ++ [.ok (.complete packet)]) =
      { buffer := received before ++ packet ++
          buffer.drop ((received before).length + packet.length)
        received := (received before).length + packet.length
        noResponseCount := 0 } := by
  rw [requestAfter, received_packet, silent_concat, List.length_append]
  rfl

/-- A packet that fits is written, and is the last of the transfer or not. -/
theorem afterOutcome_packet {packet : List UInt8}
    (fits : (received before).length + packet.length ≤ buffer.length) :
    InRequest.afterOutcome target (requestAfter buffer before) (.complete packet) =
      if target.endpoint.epType ≠ .bulk ∨
          (received before).length + packet.length = buffer.length ∨
          packet.length < target.maxPacketSize then
        .returned (.ok (received before ++ packet ++
          buffer.drop ((received before).length + packet.length),
          (received before).length + packet.length))
      else .again (requestAfter buffer (before ++ [.ok (.complete packet)])) := by
  have small : packet.length ≤ (requestAfter buffer before).room := by
    rw [room_requestAfter]
    omega
  rw [InRequest.afterOutcome, if_pos small, length_requestAfter (by omega), requestAfter_packet]
  simp only [overwrite_requestAfter]
  rfl

theorem isLast_iff {packet : List UInt8} :
    IsLast target buffer before packet ↔ target.endpoint.epType ≠ .bulk ∨
      (received before).length + packet.length = buffer.length ∨
      packet.length < target.maxPacketSize := by
  rw [IsLast, or_comm (a := packet.length < target.maxPacketSize)]

/-- **One reply**, after which the request goes on. -/
theorem afterOutcome_goesOn {outcome : TransactionOutcome (List UInt8)}
    (goesOn : GoesOn target buffer before (.ok outcome)) :
    InRequest.afterOutcome target (requestAfter buffer before) outcome =
      .again (requestAfter buffer (before ++ [.ok outcome])) := by
  cases goesOn with
  | nak retries =>
    rw [InRequest.afterOutcome, if_neg retries, requestAfter_concat rfl]
    rfl
  | noResponse retries few =>
    have more : ¬ (requestAfter buffer before).noResponseCount + 1 ≥ nonResponseRetryLimit :=
      Nat.not_le.mpr few
    rw [InRequest.afterOutcome, if_neg retries, if_neg more, requestAfter_concat rfl]
    rfl
  | packet packet more fits =>
    rw [afterOutcome_packet fits, if_neg (isLast_iff.not.mp more)]

/-- **One reply**, which ends the request. -/
theorem afterOutcome_ends {outcome : TransactionOutcome (List UInt8)}
    {result : Checked PipeError (List UInt8 × Nat)}
    (ends : Ends target buffer before (.ok outcome) result) :
    InRequest.afterOutcome target (requestAfter buffer before) outcome = .returned result := by
  cases ends with
  | isochronous once reply missing =>
    rcases missing with same | same
    · cases same
      rw [InRequest.afterOutcome, if_pos once]
    · cases same
      rw [InRequest.afterOutcome, if_pos once]
  | silence retries limit =>
    have reached : (requestAfter buffer before).noResponseCount + 1 ≥ nonResponseRetryLimit :=
      Nat.le_of_eq limit.symm
    rw [InRequest.afterOutcome, if_neg retries, if_pos reached]
  | packet packet last fits =>
    rw [afterOutcome_packet fits, if_pos (isLast_iff.mp last)]

/-- The pipe after a transaction of the request. -/
def callAfter (buffer : List UInt8) (before : List InReply) (toggle : DataToggle)
    (caller : Caller) : Caller :=
  caller.record toggle (inOnceCall caller.pipe.target caller.pipe.dataToggle
    (requestAfter buffer before).room)

theorem serve_goesOn {result : InReply} {toggle : DataToggle}
    {rest : List (EngineReply (List UInt8))} {caller : Caller}
    (goesOn : GoesOn caller.pipe.target buffer before result) :
    inCaller.serve (⟨result, toggle⟩ :: rest) (requestAfter buffer before) caller =
      inCaller.serve rest (requestAfter buffer (before ++ [result]))
        (callAfter buffer before toggle caller) := by
  cases result with
  | error error => cases goesOn
  | ok outcome => exact RetryLoop.serve_again rfl (afterOutcome_goesOn goesOn)

theorem serve_ends {result : InReply} {toggle : DataToggle}
    {rest : List (EngineReply (List UInt8))} {caller : Caller}
    {returned : Checked PipeError (List UInt8 × Nat)}
    (ends : Ends caller.pipe.target buffer before result returned) :
    inCaller.serve (⟨result, toggle⟩ :: rest) (requestAfter buffer before) caller =
      (.returned returned, callAfter buffer before toggle caller) := by
  cases result with
  | error error =>
    cases ends with
    | error => exact RetryLoop.serve_error rfl
    | isochronous once _ missing => rcases missing with same | same <;> cases same
  | ok outcome => exact RetryLoop.serve_returned rfl (afterOutcome_ends ends)

/-- The results that the engine replies with. -/
def replied (replies : List (EngineReply (List UInt8))) : List InReply :=
  replies.map EngineReply.result

/-- **An unfinished sequence of replies** leaves the request with its packets, after one call for each
of them. -/
theorem serve_unfinished {replies rest : List (EngineReply (List UInt8))} {caller : Caller}
    (unfinished : Unfinished caller.pipe.target buffer (replied replies)) :
    ∃ after : Caller, after.pipe.target = caller.pipe.target ∧
      after.calls.length = caller.calls.length + replies.length ∧
      inCaller.serve (replies ++ rest) (requestAfter buffer []) caller =
        inCaller.serve rest (requestAfter buffer (replied replies)) after := by
  induction replies using List.reverseRecOn generalizing rest with
  | nil => exact ⟨caller, rfl, rfl, rfl⟩
  | append_singleton replies reply ih =>
    rw [replied, List.map_append] at unfinished
    obtain ⟨earlier, goesOn⟩ := unfinished_concat.mp unfinished
    obtain ⟨after, target, calls, serves⟩ := @ih (reply :: rest) earlier
    refine ⟨callAfter buffer (replied replies) reply.toggle after, target, ?_, ?_⟩
    · rw [callAfter, Caller.record, List.length_append, calls, List.length_append]
      rfl
    · have last : replied (replies ++ [reply]) = replied replies ++ [reply.result] :=
        List.map_append
      rw [List.append_assoc, List.singleton_append, serves, last]
      exact serve_goesOn (target ▸ goesOn)

end Serve

section Request

variable {pipe : PioHostPipe} {buffer : List UInt8}
  {completions : List (Completion (EngineReply (List UInt8)))}

/-- The replies to the transactions of the request. -/
def repliesOf (completions : List (Completion (EngineReply (List UInt8)))) : List InReply :=
  replied (RetryLoop.transactions completions .transactionDue)

/-- While the connection stays valid, a request is its transactions. -/
theorem requestIn_eq_serve (nonempty : buffer ≠ [])
    (valid : ∀ completion ∈ completions, pipe.checkValid completion.port = .ok ()) :
    requestIn pipe buffer completions =
      inCaller.serve (RetryLoop.transactions completions .transactionDue) (requestAfter buffer [])
        ⟨pipe, []⟩ := by
  rw [requestIn, if_neg nonempty]
  refine @RetryLoop.run_eq_serve _ _ _ _ _ inCaller
    (fun caller => caller.pipe.checkValid = pipe.checkValid) completions ?_ ?_ .transactionDue
    (requestAfter buffer []) ⟨pipe, []⟩ rfl
  · intro completion member caller same
    show caller.pipe.checkValid completion.port = .ok ()
    rw [same]
    exact valid completion member
  · intro reply request caller same
    exact same

/-- **A reply that ends the request** is the last it gets. -/
theorem requestIn_ends (nonempty : buffer ≠ [])
    (valid : ∀ completion ∈ completions, pipe.checkValid completion.port = .ok ())
    {before rest : List InReply} {reply : InReply} {result : Checked PipeError (List UInt8 × Nat)}
    (split : repliesOf completions = before ++ reply :: rest)
    (unfinished : Unfinished pipe.target buffer before)
    (ends : Ends pipe.target buffer before reply result) :
    (requestIn pipe buffer completions).1 = .returned result ∧
      (requestIn pipe buffer completions).2.calls.length = before.length + 1 := by
  obtain ⟨first, others, listed, rfl, tail⟩ := List.map_eq_append_iff.mp split
  obtain ⟨⟨answer, toggle⟩, more, rfl, rfl, rfl⟩ := List.map_eq_cons_iff.mp tail
  obtain ⟨after, target, calls, serves⟩ :=
    @serve_unfinished buffer first (⟨answer, toggle⟩ :: more) ⟨pipe, []⟩ unfinished
  rw [requestIn_eq_serve nonempty valid, listed, serves, serve_ends (target ▸ ends)]
  refine ⟨rfl, ?_⟩
  rw [callAfter, Caller.record, List.length_append, calls, List.length_map, List.length_nil,
    Nat.zero_add, List.length_singleton]

theorem requestIn_unfinished (nonempty : buffer ≠ [])
    (valid : ∀ completion ∈ completions, pipe.checkValid completion.port = .ok ())
    (unfinished : Unfinished pipe.target buffer (repliesOf completions)) :
    (requestIn pipe buffer completions).1 = .waiting := by
  obtain ⟨after, -, -, serves⟩ :=
    @serve_unfinished buffer (RetryLoop.transactions completions .transactionDue) [] ⟨pipe, []⟩
      unfinished
  rw [List.append_nil] at serves
  rw [requestIn_eq_serve nonempty valid, serves]
  rfl

/-- **What a request returns** is decided by the first reply that it does not go on after. -/
theorem requestIn_eq_returned (nonempty : buffer ≠ [])
    (valid : ∀ completion ∈ completions, pipe.checkValid completion.port = .ok ())
    (fits : PacketsFit pipe.target buffer (repliesOf completions))
    {result : Checked PipeError (List UInt8 × Nat)} :
    (requestIn pipe buffer completions).1 = .returned result ↔
      ∃ before reply rest, repliesOf completions = before ++ reply :: rest ∧
        Unfinished pipe.target buffer before ∧ Ends pipe.target buffer before reply result := by
  constructor
  · intro returned
    rcases unfinished_or_first (repliesOf completions) with
      unfinished | ⟨before, reply, rest, split, unfinished, stops⟩
    · rw [requestIn_unfinished nonempty valid unfinished] at returned
      cases returned
    · obtain ⟨other, ends⟩ := ends_of_not_goesOn unfinished
        (fun packet same => fits before packet rest (same ▸ split) unfinished) stops
      rw [(requestIn_ends nonempty valid split unfinished ends).1] at returned
      cases returned
      exact ⟨before, reply, rest, split, unfinished, ends⟩
  · rintro ⟨before, reply, rest, split, unfinished, ends⟩
    exact (requestIn_ends nonempty valid split unfinished ends).1

/-! ### One transfer -/

/-- **The request assembles one transfer** from its replies, with this result and this number of IN
transactions. -/
structure Assembles (target : PipeTarget) (buffer : List UInt8) (replies : List InReply)
    (result : Call PipeError (List UInt8 × Nat)) (transactions : Nat) : Prop where
  /-- It returns the packets up to the last one, in order, and leaves the rest of the buffer. -/
  ok : ∀ filled n, result = .returned (.ok (filled, n)) ↔
    ∃ before packet rest, replies = before ++ .ok (.complete packet) :: rest ∧
      Unfinished target buffer before ∧ IsLast target buffer before packet ∧
      n = (received before).length + packet.length ∧
      filled = received before ++ packet ++ buffer.drop n
  /-- No transaction follows the last packet. -/
  stops : ∀ before packet rest, replies = before ++ .ok (.complete packet) :: rest →
    Unfinished target buffer before → IsLast target buffer before packet →
    transactions = before.length + 1
  /-- It times out by itself after 128 times in a row without a response. -/
  timeout : target.endpoint.epType ≠ .isochronous → (result = .returned (fail .timeout) ↔
    (∃ before rest, replies = before ++ (List.replicate 128 (.ok .noResponse) ++ rest) ∧
      Unfinished target buffer before) ∨
    ∃ before rest, replies = before ++ .error .timeout :: rest ∧ Unfinished target buffer before)
  /-- It returns an error of the engine as it occurs. -/
  error : ∀ before error rest, replies = before ++ .error error :: rest →
    Unfinished target buffer before → result = .returned (fail error)
  /-- Interrupt and isochronous pipes return one packet. -/
  one : target.endpoint.epType ≠ .bulk → ∀ filled n, result = .returned (.ok (filled, n)) →
    ∃ before packet rest, replies = before ++ .ok (.complete packet) :: rest ∧
      before.flatMap completed = [] ∧ n = packet.length ∧ filled = packet ++ buffer.drop n
  /-- On an isochronous pipe there is one transaction. -/
  isochronous : target.endpoint.epType = .isochronous → ∀ reply rest, replies = reply :: rest →
    reply = .ok .nak ∨ reply = .ok .noResponse →
    result = .returned (fail .timeout) ∧ transactions = 1

/-- A pipe that is not a bulk pipe goes on before its first packet only. -/
theorem Unfinished.completed_eq_nil {target : PipeTarget} {before : List InReply}
    (unfinished : Unfinished target buffer before) (other : target.endpoint.epType ≠ .bulk) :
    before.flatMap completed = [] := by
  rw [List.flatMap_eq_nil_iff]
  intro reply member
  obtain ⟨first, rest, rfl⟩ := List.append_of_mem member
  cases unfinished first reply rest rfl with
  | nak retries => rfl
  | noResponse retries few => rfl
  | packet packet more fits => exact absurd (.inl other) more

/-- A request goes on while fewer than 128 times in a row there is no response. -/
theorem Unfinished.silence {target : PipeTarget} {before : List InReply} {count : Nat}
    (unfinished : Unfinished target buffer before)
    (retries : target.endpoint.epType ≠ .isochronous) (few : silent before + count < 128) :
    Unfinished target buffer (before ++ List.replicate count (.ok .noResponse)) := by
  induction count with
  | zero =>
    rw [List.replicate_zero, List.append_nil]
    exact unfinished
  | succ count ih =>
    rw [List.replicate_succ', ← List.append_assoc, unfinished_concat]
    refine ⟨ih (by omega), .noResponse retries ?_⟩
    rw [silent_replicate]
    omega

/-- **A request times out** after 128 times in a row without a response. -/
theorem exists_silence_iff {target : PipeTarget} {replies : List InReply}
    (retries : target.endpoint.epType ≠ .isochronous) :
    (∃ before rest, replies = before ++ .ok .noResponse :: rest ∧
      Unfinished target buffer before ∧ silent before + 1 = 128) ↔
    ∃ before rest, replies = before ++ (List.replicate 128 (.ok .noResponse) ++ rest) ∧
      Unfinished target buffer before := by
  constructor
  · rintro ⟨before, rest, rfl, unfinished, limit⟩
    obtain ⟨first, same⟩ := exists_replicate before
    obtain limit : silent before = 127 := by omega
    rw [limit] at same
    refine ⟨first, rest, ?_, ?_⟩
    · rw [same, List.replicate_succ' (n := 127), List.append_assoc, List.append_assoc,
        List.singleton_append]
    · rw [same] at unfinished
      exact unfinished.of_append
  · rintro ⟨before, rest, rfl, unfinished⟩
    have few := silent_lt unfinished
    have counts : 128 = (127 - silent before) + 1 + silent before := by omega
    refine ⟨before ++ List.replicate (127 - silent before) (.ok .noResponse),
      List.replicate (silent before) (.ok .noResponse) ++ rest, ?_,
      unfinished.silence retries (by omega), by rw [silent_replicate]; omega⟩
    rw [counts, List.replicate_add, List.replicate_succ']
    simp only [List.append_assoc, List.cons_append, List.nil_append]

/-- A bulk IN pipe on the first device of a port. -/
def bulkPipe : PioHostPipe where
  target := ⟨1, ⟨0x81, .bulk, 64, 0⟩⟩
  dataToggle := .data0
  connectionGeneration := 1
  resetGeneration := 1

/-- **`request_in` assembles exactly one transfer.** -/
theorem requestIn_assembles (nonempty : buffer ≠ [])
    (valid : ∀ completion ∈ completions, pipe.checkValid completion.port = .ok ())
    (fits : PacketsFit pipe.target buffer (repliesOf completions)) :
    Assembles pipe.target buffer (repliesOf completions) (requestIn pipe buffer completions).1
      (requestIn pipe buffer completions).2.calls.length where
  ok := by
    intro filled n
    rw [requestIn_eq_returned nonempty valid fits]
    constructor
    · rintro ⟨before, reply, rest, split, unfinished, ends⟩
      cases ends with
      | packet packet last small =>
        exact ⟨before, packet, rest, split, unfinished, last, rfl, rfl⟩
    · rintro ⟨before, packet, rest, split, unfinished, last, rfl, rfl⟩
      exact ⟨before, _, rest, split, unfinished,
        .packet packet last (fits before packet rest split unfinished)⟩
  stops := by
    intro before packet rest split unfinished last
    exact (requestIn_ends nonempty valid split unfinished
      (.packet packet last (fits before packet rest split unfinished))).2
  timeout := by
    intro retries
    rw [requestIn_eq_returned nonempty valid fits, ← exists_silence_iff retries]
    constructor
    · rintro ⟨before, reply, rest, split, unfinished, ends⟩
      cases ends with
      | error => exact .inr ⟨before, rest, split, unfinished⟩
      | isochronous once => exact absurd once retries
      | silence retries limit => exact .inl ⟨before, rest, split, unfinished, limit⟩
    · rintro (⟨before, rest, split, unfinished, limit⟩ | ⟨before, rest, split, unfinished⟩)
      · exact ⟨before, _, rest, split, unfinished, .silence retries limit⟩
      · exact ⟨before, _, rest, split, unfinished, .error .timeout⟩
  error := by
    intro before error rest split unfinished
    exact (requestIn_ends nonempty valid split unfinished (.error error)).1
  one := by
    intro other filled n returned
    obtain ⟨before, reply, rest, split, unfinished, ends⟩ :=
      (requestIn_eq_returned nonempty valid fits).mp returned
    cases ends with
    | packet packet last small =>
      have none := unfinished.completed_eq_nil other
      have nothing : received before = [] := by
        rw [received, none, List.flatten_nil]
      refine ⟨before, packet, rest, split, none, ?_, ?_⟩
      · rw [nothing, List.length_nil, Nat.zero_add]
      · rw [nothing, List.nil_append, List.length_nil]
  isochronous := by
    intro once reply rest split missing
    have alone : repliesOf completions = [] ++ reply :: rest := split
    exact requestIn_ends nonempty valid alone unfinished_nil (.isochronous once reply missing)

end Request

/-- A full packet, a NAK, silence and a short packet, each with every await of its transaction. -/
def interruptedTransfer : List (Completion (EngineReply (List UInt8))) :=
  [(.ok (.complete (List.replicate 64 7)), .data1), (.ok .nak, .data1), (.ok .noResponse, .data1),
    (.ok (.complete [7, 8]), .data0)].flatMap fun (reply : InReply × DataToggle) =>
      List.replicate 4 ⟨PortState.initial.afterConnection .full, ⟨reply.1, reply.2⟩⟩

/-- Two packets make a transfer, across a NAK and a missing response. -/
theorem requestIn_assembles_retried :
    (requestIn bulkPipe (List.replicate 80 0) interruptedTransfer).1 =
        .returned (.ok (List.replicate 64 7 ++ [7, 8] ++ List.replicate 14 0, 66)) ∧
      Assembles bulkPipe.target (List.replicate 80 0) (repliesOf interruptedTransfer)
        (requestIn bulkPipe (List.replicate 80 0) interruptedTransfer).1
        (requestIn bulkPipe (List.replicate 80 0) interruptedTransfer).2.calls.length :=
  ⟨by rfl, requestIn_assembles (by decide) (by decide) (packetsFit_of_length_le (by decide))⟩

/-- Silence is not the only way to a timeout: the packet engine has the error too. -/
theorem not_timeout_iff_silence :
    ¬ ∀ (pipe : PioHostPipe) (buffer : List UInt8)
      (completions : List (Completion (EngineReply (List UInt8)))),
      pipe.target.endpoint.epType = .bulk → buffer ≠ [] →
      (∀ completion ∈ completions, pipe.checkValid completion.port = .ok ()) →
      PacketsFit pipe.target buffer (repliesOf completions) →
      ((requestIn pipe buffer completions).1 = .returned (fail .timeout) ↔
        ∃ before rest, repliesOf completions =
          before ++ (List.replicate 128 (.ok .noResponse) ++ rest) ∧
          Unfinished pipe.target buffer before) := by
  intro claimed
  let completion : Completion (EngineReply (List UInt8)) :=
    ⟨PortState.initial.afterConnection .full, ⟨.error .timeout, .data0⟩⟩
  obtain ⟨before, rest, split, -⟩ :=
    (claimed bulkPipe [0] [completion, completion, completion] rfl (by decide) (by decide)
      (packetsFit_of_length_le (by decide))).mp rfl
  have count := congrArg List.length split
  rw [List.length_append, List.length_append, List.length_replicate] at count
  have one : (repliesOf [completion, completion, completion]).length = 1 := rfl
  omega

end PioUsbHost.Pipe
