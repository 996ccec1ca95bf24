/-
**When a returned message is a complete one.**

A device answers a request with at most as many bytes of its pending message as the request allows,
and says in the header's EOM attribute whether they reach the end of the message. The host never
looks at that attribute.

* `Answers`: the answers of a compliant device to one request.
* `reportsComplete_iff`: what `read` and `exchange` return is the complete message exactly when the
  answer reaches its end, or nothing can be returned at all.
* `read_truncated`: a message longer than the buffer is returned as a complete shorter one.
-/

import PioUsbHost.Usbtmc.Response

namespace PioUsbHost.Usbtmc

open PioUsbHost.Lib.Panic PioUsbHost.Usb

/-! ### The device's answer -/

/-- The transfer size of a request. -/
def requestCapacity : List UInt8 → Nat
  | _ :: _ :: _ :: _ :: b0 :: b1 :: b2 :: b3 :: _ => fromLeBytes b0 b1 b2 b3
  | _ => 0

/-- A compliant device answers a request with `sent` bytes of its pending message: no more than the
request allows, under the request's tag, and with EOM exactly when they reach the message's end. -/
structure Answers (request message : List UInt8) (sent : Nat) (header : ResponseHeader)
    (padding : List UInt8) : Prop where
  tag : request[1]? = some header.tag
  capacity : sent ≤ requestCapacity request
  within : sent ≤ message.length
  length : header.length.toNat = sent
  endOfMessage : header.attributes &&& attributeEom ≠ 0 ↔ sent = message.length
  padded : sent + padding.length ≤ nextMultipleOf4 sent

/-- The packets arrive, or the transfer breaks off before the last of them. -/
def Delivers (packets : List (List UInt8)) (transfers : List InTransfer) : Prop :=
  (∃ later, transfers = packets.map .ok ++ later) ∨
    ∃ sent left stop, packets = sent ++ left ∧ left ≠ [] ∧ transfers = sent.map .ok ++ stop ∧
      ∀ packet, .ok packet ∉ stop.head?

theorem requestCapacity_buildRequestIn (tag : UInt8) (capacity : Nat) :
    requestCapacity (buildRequestIn tag capacity) = min capacity 0xffffffff := by
  have read := fromLeBytes_toLeBytes (UInt32.ofNat (min capacity 0xffffffff))
  rw [UInt32.toNat_ofNat', Nat.mod_eq_of_lt (by omega)] at read
  exact read

/-! ### The calls -/

/-- The calls that return a response. -/
inductive Operation where
  | read
  | exchange (command : List UInt8)

namespace Operation

/-- The host's call. -/
def run (operation : Operation) (host : UsbtmcHost) (response : List UInt8) :
    Call UsbtmcError Nat × List UInt8 × UsbtmcHost :=
  match operation with
  | read => host.read response
  | exchange command => host.exchange command response

/-- The tag of the call's request. -/
def requestTag (operation : Operation) (host : UsbtmcHost) : UInt8 :=
  match operation with
  | read => host.nextTag
  | exchange _ => host.takeTag.2.nextTag

/-- The OUT transfers of the call are accepted. -/
def GetsOut (operation : Operation) (host : UsbtmcHost) : Prop :=
  match operation with
  | read => host.bulkOut.take 1 = [.ok ()]
  | exchange command => command.length + headerLen + 3 ≤ host.outMessageCapacity ∧
    host.bulkOut.take 2 = [.ok (), .ok ()]

/-- A returned length is the message's, and the response is the message. -/
def ReportsComplete (operation : Operation) (host : UsbtmcHost) (message response : List UInt8) :
    Prop :=
  ∀ n, (operation.run host response).1 = .returned (.ok n) →
    n = message.length ∧ (operation.run host response).2.1.take n = message

/-- The call can return a message: its OUT transfers are accepted, its packets can hold a header, and
the answer arrives. -/
def CanReturn (operation : Operation) (host : UsbtmcHost) (packets : List (List UInt8)) : Prop :=
  operation.GetsOut host ∧ host.interface.bulkInEndpoint.maxPacketSize ≠ 8 ∧
    ∃ later, host.bulkIn = packets.map .ok ++ later

variable {operation : Operation} {host : UsbtmcHost} {response : List UInt8}

/-- The reading part of the call. -/
def outcome (operation : Operation) (host : UsbtmcHost) (response : List UInt8) : ReadOutcome :=
  readResponse host.interface.bulkInEndpoint.maxPacketSize.toNat (operation.requestTag host) response
    host.bulkIn

theorem requestOut_of_accepted {data : List UInt8} {rest : List OutTransfer}
    (accepted : host.bulkOut = .ok () :: rest) : host.requestOut data =
      (.returned (.ok ()), { host with bulkOut := rest, sent := host.sent ++ [data] }) := by
  rw [UsbtmcHost.requestOut, accepted]

theorem accepted_of_requestOut {data : List UInt8} {next : UsbtmcHost}
    (returned : host.requestOut data = (.returned (.ok ()), next)) :
    ∃ rest, host.bulkOut = .ok () :: rest ∧
      next = { host with bulkOut := rest, sent := host.sent ++ [data] } := by
  rw [UsbtmcHost.requestOut] at returned
  split at returned
  · cases returned
  · cases returned
  next rest accepted =>
    cases returned
    exact ⟨rest, accepted, rfl⟩

theorem read_of_accepted {rest : List OutTransfer} (accepted : host.bulkOut = .ok () :: rest) :
    (host.read response).1 = (read.outcome host response).result ∧
      (host.read response).2.1 = (read.outcome host response).response := by
  have out : host.takeTag.2.bulkOut = .ok () :: rest := accepted
  rw [UsbtmcHost.read]
  simp only [requestOut_of_accepted out]
  exact ⟨rfl, rfl⟩

theorem accepted_of_read {n : Nat} (returned : (host.read response).1 = .returned (.ok n)) :
    ∃ rest, host.bulkOut = .ok () :: rest := by
  rw [UsbtmcHost.read] at returned
  simp only at returned
  split at returned
  · cases returned
  · cases returned
  next requested =>
    obtain ⟨rest, accepted, -⟩ := accepted_of_requestOut requested
    exact ⟨rest, accepted⟩

/-- A command that fits is written with the host's next tag. -/
theorem write_of_fits {command : List UInt8}
    (fits : command.length + headerLen + 3 ≤ host.outMessageCapacity) :
    host.write command = host.takeTag.2.requestOut (UsbtmcHost.outgoing host.nextTag command) := by
  have padded : ¬ headerLen + nextMultipleOf4 command.length > host.outMessageCapacity := by
    unfold nextMultipleOf4
    omega
  rw [UsbtmcHost.write, if_neg (Nat.not_lt.mpr fits)]
  exact if_neg padded

theorem run_of_getsOut (getsOut : operation.GetsOut host) :
    (operation.run host response).1 = (operation.outcome host response).result ∧
      (operation.run host response).2.1 = (operation.outcome host response).response := by
  cases operation with
  | read =>
    obtain ⟨rest, accepted⟩ : ∃ rest, host.bulkOut = .ok () :: rest := by
      rw [GetsOut] at getsOut
      cases out : host.bulkOut <;> simp_all
    exact read_of_accepted accepted
  | exchange command =>
    obtain ⟨fits, accepted⟩ := getsOut
    obtain ⟨rest, accepted⟩ : ∃ rest, host.takeTag.2.bulkOut = .ok () :: .ok () :: rest := by
      change ∃ rest, host.bulkOut = _
      rcases out : host.bulkOut with _ | ⟨first, _ | ⟨second, rest⟩⟩ <;> simp_all
    rw [run, UsbtmcHost.exchange, write_of_fits fits, requestOut_of_accepted accepted]
    exact read_of_accepted rfl

/-- A call that returns got its OUT transfers accepted. -/
theorem getsOut_of_returned {n : Nat}
    (returned : (operation.run host response).1 = .returned (.ok n)) : operation.GetsOut host := by
  cases operation with
  | read =>
    obtain ⟨rest, accepted⟩ := accepted_of_read returned
    rw [GetsOut, accepted]
    rfl
  | exchange command =>
    rw [run, UsbtmcHost.exchange] at returned
    by_cases fits : command.length + headerLen + 3 ≤ host.outMessageCapacity
    · rw [write_of_fits fits] at returned
      split at returned
      · cases returned
      · cases returned
      next written =>
        obtain ⟨rest, accepted, rfl⟩ := accepted_of_requestOut written
        obtain ⟨others, acceptedToo⟩ := accepted_of_read returned
        have both : host.bulkOut = .ok () :: .ok () :: others :=
          accepted.trans (congrArg _ acceptedToo)
        refine ⟨fits, ?_⟩
        rw [both]
        rfl
    · rw [UsbtmcHost.write, if_pos (Nat.lt_of_not_le fits)] at returned
      cases returned

end Operation

section Answer

variable {message response padding : List UInt8} {operation : Operation} {host : UsbtmcHost}
  {header : ResponseHeader} {packets : List (List UInt8)}

/-- An answer breaks off before its end, and nothing is returned. -/
theorem not_returned_of_broken {tag : UInt8} {packetSize n : Nat} {wire : List UInt8}
    {left : List (List UInt8)} {before : List (List UInt8)} {stop : List InTransfer}
    (isTransfer : IsTransfer packetSize wire (before ++ left)) (nonempty : left ≠ [])
    (broken : ∀ packet, .ok packet ∉ stop.head?) :
    (readResponse packetSize tag response (before.map .ok ++ stop)).result ≠
      .returned (.ok n) := by
  intro succeeds
  obtain ⟨full, last, same, sizes, ends, -⟩ := isTransfer
  obtain ⟨first, rest, announced, whole, remaining, starts, ended⟩ :=
    succeeds_of_readResponse succeeds
  have completes := ended.completes
  -- what has arrived are full packets
  obtain ⟨more, rfl⟩ : ∃ more, full = before ++ more := by
    rcases List.eq_nil_or_concat' left with rfl | ⟨more, final, rfl⟩
    · exact absurd rfl nonempty
    · rw [← List.append_assoc] at same
      exact ⟨more, (List.append_inj' same rfl).1.symm⟩
  cases before with
  | nil => exact broken first (by rw [← List.nil_append stop, ← List.map_nil, starts]; rfl)
  | cons packet others =>
    obtain ⟨taken, rfl⟩ := List.cons.inj starts
    have size := sizes packet (by simp)
    rw [← Except.ok.inj taken] at completes
    exact not_completes_of_broken (by omega) (fun other member => sizes other (by simp [member]))
      broken rfl size completes

/-- A call that returns could. -/
theorem canReturn_of_returned {n : Nat}
    (isTransfer : IsTransfer host.interface.bulkInEndpoint.maxPacketSize.toNat
      (responseWire header message padding) packets)
    (delivers : Delivers packets host.bulkIn)
    (returned : (operation.run host response).1 = .returned (.ok n)) :
    operation.CanReturn host packets := by
  have getsOut := Operation.getsOut_of_returned returned
  rw [(Operation.run_of_getsOut getsOut).1, Operation.outcome] at returned
  rcases delivers with ⟨later, arrives⟩ | ⟨before, left, stop, rfl, nonempty, breaks, broken⟩
  · refine ⟨getsOut, ?_, later, arrives⟩
    intro eight
    have small : host.interface.bulkInEndpoint.maxPacketSize.toNat < headerLen := by
      rw [eight]
      decide
    rw [arrives, readResponse_of_small small _ isTransfer later] at returned
    cases returned
  · rw [breaks] at returned
    exact absurd returned (not_returned_of_broken isTransfer nonempty broken)

end Answer

/-- **A returned message is complete exactly when the answer reaches its end, or nothing can be
returned.** -/
theorem reportsComplete_iff {bytes message response padding : List UInt8} {operation : Operation}
    {host : UsbtmcHost} {sent : Nat} {header : ResponseHeader} {packets : List (List UInt8)}
    (discovered : UsbtmcInterface.discover bytes = .ok host.interface)
    (answers : Answers (buildRequestIn (operation.requestTag host) response.length) message sent
      header padding)
    (isTransfer : IsTransfer host.interface.bulkInEndpoint.maxPacketSize.toNat
      (responseWire header (message.take sent) padding) packets)
    (delivers : Delivers packets host.bulkIn) :
    operation.ReportsComplete host message response ↔
      sent = message.length ∨ ¬ operation.CanReturn host packets := by
  by_cases canReturn : operation.CanReturn host packets
  · simp only [canReturn, not_true, or_false]
    obtain ⟨getsOut, notEight, later, arrives⟩ := canReturn
    obtain ⟨aligned, large⟩ := discovered_packetSize discovered notEight
    have tagged : operation.requestTag host = header.tag := Option.some.inj answers.tag
    have payload : (message.take sent).length = sent := by
      rw [List.length_take]
      exact Nat.min_eq_left answers.within
    have capacity := answers.capacity
    rw [requestCapacity_buildRequestIn] at capacity
    have outcome : operation.outcome host response =
        ⟨.returned (.ok sent), message.take sent ++ response.drop sent, later⟩ := by
      have room : (message.take sent).length ≤ response.length := by omega
      have returned := readResponse_of_transfer aligned large (answers.length.trans payload.symm)
        room (by rw [payload]; exact answers.padded) isTransfer later
      rw [Operation.outcome, tagged, arrives, returned, payload]
    obtain ⟨result, buffer⟩ := @Operation.run_of_getsOut operation host response getsOut
    rw [Operation.ReportsComplete, result, buffer, outcome]
    constructor
    · intro complete
      exact (complete sent rfl).1
    · rintro complete n ⟨⟩
      refine ⟨complete, ?_⟩
      rw [List.take_left' payload, complete, List.take_length]
  · simp only [canReturn, not_false_eq_true, or_true, iff_true]
    intro n returned
    exact absurd (canReturn_of_returned isTransfer delivers returned) canReturn

/-! ### A message longer than the buffer -/

/-- The pending message of eight bytes. -/
def pending : List UInt8 := [1, 2, 3, 4, 5, 6, 7, 8]

/-- The header of an answer with the first bytes of it, under the tag 1. -/
def pendingHeader (length : UInt32) (attributes : UInt8) : ResponseHeader :=
  ⟨1, length, attributes, 0, 0, 0, 0⟩

/-- A new host, and a device that answers its request. -/
def asking (answer : List UInt8) : UsbtmcHost :=
  .new (bulkInterface 64) defaultOutMessageCapacity [.ok answer] [.ok ()]

/-- With room for the whole message, it is returned complete. -/
theorem reportsComplete_iff_pending :
    Operation.read.ReportsComplete
      (asking (responseWire (pendingHeader 8 attributeEom) (pending.take 8) [])) pending
      (List.replicate 8 0) :=
  (@reportsComplete_iff (bulkConfiguration 64) pending (List.replicate 8 0) [] .read
    (asking (responseWire (pendingHeader 8 attributeEom) (pending.take 8) [])) 8
    (pendingHeader 8 attributeEom)
    [responseWire (pendingHeader 8 attributeEom) (pending.take 8) []] (by rfl)
    ⟨by rfl, by decide, by decide, by decide, by decide, by decide⟩
    ⟨[], _, by rfl, by simp, by decide, by rfl⟩ (.inl ⟨[], by rfl⟩)).mpr (.inl (by rfl))

/-- With room for half of it, the first half is returned as a complete message. -/
theorem read_truncated :
    Answers (buildRequestIn 1 4) pending 4 (pendingHeader 4 0) [] ∧
      IsTransfer 64 (responseWire (pendingHeader 4 0) (pending.take 4) [])
        [responseWire (pendingHeader 4 0) (pending.take 4) []] ∧
      ((asking (responseWire (pendingHeader 4 0) (pending.take 4) [])).read [0, 0, 0, 0]).1 =
        .returned (.ok 4) ∧
      ¬ Operation.read.ReportsComplete
        (asking (responseWire (pendingHeader 4 0) (pending.take 4) [])) pending [0, 0, 0, 0] := by
  have returned : ((asking (responseWire (pendingHeader 4 0) (pending.take 4) [])).read
      [0, 0, 0, 0]).1 = .returned (.ok 4) := by rfl
  refine ⟨⟨by rfl, by decide, by decide, by decide, by decide, by decide⟩,
    ⟨[], _, by rfl, by simp, by decide, by rfl⟩, returned, ?_⟩
  intro complete
  exact absurd (complete 4 returned).1 (by decide)

end PioUsbHost.Usbtmc
