/-
**What a completed OUT request has delivered.**

`request_out` against an endpoint that accepts or discards each packet by its toggle. A packet is
repeated with one toggle until its ACK is seen, so a completed request delivers its packets as the
alternating bit delivers a message: whole if the toggles agree when it starts, and without its first
packet if they do not.

* `packets_flatten`: the packets of a request are its data, cut up.
* `transact_again`, `transact_returned`: the invariant of the retry loop, one transaction at a time.
* `requestOut_spec`: what a completed request has delivered, for every wire.
-/

import PioUsbHost.Pipe.Engine

namespace PioUsbHost.Pipe

open PioUsbHost.Usb PioUsbHost.Host PioUsbHost.Lib PioUsbHost.Lib.AlternatingBit
open PioUsbHost.Lib.Panic

/-! ### The packets of a request -/

namespace OutRequest

/-- The packets that `request_out` sends, in order. -/
def packets (maxPacketSize : Nat) (data : List UInt8) (ensureTransactionEnd : Bool) :
    List (List UInt8) :=
  (List.range (countPackets maxPacketSize data ensureTransactionEnd)).map
    (packetAt maxPacketSize data)

variable {maxPacketSize : Nat} {data : List UInt8} {ensureTransactionEnd : Bool}

theorem packets_length :
    (packets maxPacketSize data ensureTransactionEnd).length =
      countPackets maxPacketSize data ensureTransactionEnd := by
  rw [packets, List.length_map, List.length_range]

/-- The packets still to be sent start with the current one. -/
theorem packets_drop {index : Nat}
    (inside : index < countPackets maxPacketSize data ensureTransactionEnd) :
    (packets maxPacketSize data ensureTransactionEnd).drop index =
      packetAt maxPacketSize data index ::
        (packets maxPacketSize data ensureTransactionEnd).drop (index + 1) := by
  rw [List.drop_eq_getElem_cons (by rw [packets_length]; exact inside)]
  simp [packets]

theorem le_divCeil_mul (len : Nat) {size : Nat} (positive : 0 < size) :
    len ≤ divCeil len size * size := by
  have split := Nat.div_add_mod len size
  have small := Nat.mod_lt len positive
  rw [Nat.mul_comm] at split
  unfold divCeil
  by_cases rest : len % size > 0
  · rw [if_pos rest, Nat.add_mul]
    omega
  · rw [if_neg rest, Nat.add_zero]
    omega

/-- The packets reach the end of the data. -/
theorem le_countPackets_mul (positive : 0 < maxPacketSize) :
    data.length ≤ countPackets maxPacketSize data ensureTransactionEnd * maxPacketSize := by
  have enough := le_divCeil_mul data.length positive
  unfold countPackets
  split
  next empty => simp [empty]
  · split
    · rw [Nat.add_mul]
      omega
    · exact enough

/-- There is always a packet to send. -/
theorem countPackets_pos (positive : 0 < maxPacketSize) :
    0 < countPackets maxPacketSize data ensureTransactionEnd := by
  by_cases empty : data = []
  · simp [countPackets, empty]
  · have some := List.length_pos_iff.mpr empty
    have enough : data.length ≤
        countPackets maxPacketSize data ensureTransactionEnd * maxPacketSize :=
      le_countPackets_mul positive
    by_contra none
    simp only [Nat.not_lt, Nat.le_zero] at none
    rw [none] at enough
    omega

theorem packetAt_eq (index : Nat) :
    packetAt maxPacketSize data index = (data.drop (index * maxPacketSize)).take maxPacketSize := by
  simp only [packetAt]
  by_cases inside : index * maxPacketSize ≤ data.length
  · rw [Nat.min_eq_left inside]
    by_cases full : index * maxPacketSize + maxPacketSize ≤ data.length
    · rw [Nat.min_eq_left full, Nat.add_sub_cancel_left]
    · rw [Nat.min_eq_right (by omega), List.take_of_length_le (by rw [List.length_drop]),
        List.take_of_length_le (by rw [List.length_drop]; omega)]
  · have past : min (index * maxPacketSize) data.length = data.length :=
      Nat.min_eq_right (by omega)
    rw [past, List.drop_of_length_le (Nat.le_refl _), List.drop_of_length_le (by omega),
      List.take_nil, List.take_nil]

/-- The first packets are the front of the data. -/
theorem flatten_packetAt (count : Nat) :
    ((List.range count).map (packetAt maxPacketSize data)).flatten =
      data.take (count * maxPacketSize) := by
  induction count with
  | zero => simp
  | succ count ih =>
    rw [List.range_succ, List.map_append, List.flatten_append, ih, List.map_singleton,
      List.flatten_singleton, packetAt_eq, Nat.add_mul, Nat.one_mul, List.take_add]

/-- **The packets of a request are its data.** -/
theorem packets_flatten (positive : 0 < maxPacketSize) :
    (packets maxPacketSize data ensureTransactionEnd).flatten = data := by
  rw [packets, flatten_packetAt, List.take_of_length_le (le_countPackets_mul positive)]

end OutRequest

/-! ### The two parties -/

/-- The host's pipe and the endpoint at its other end. -/
structure OutLink where
  pipe : PioHostPipe
  endpoint : OutEndpoint
  deriving DecidableEq

/-- The retry loop of `request_out`. -/
def outLoop : RetryLoop OutLink OutWire OutRequest Unit Unit where
  pipe := OutLink.pipe
  operate wire request link :=
    let after := requestOutOnce link.pipe.target link.pipe.dataToggle
      (request.packet link.pipe.target) wire link.endpoint
    (after.result,
      { pipe := { link.pipe with dataToggle := after.toggle }, endpoint := after.endpoint })
  afterOutcome := OutRequest.afterOutcome

namespace OutLink

/-- `request_out`. -/
def requestOut (link : OutLink) (data : List UInt8) (ensureTransactionEnd : Bool)
    (completions : List (Completion OutWire)) : Call PipeError Unit × OutLink :=
  match OutRequest.start link.pipe.target data ensureTransactionEnd with
  | .error fault => (.returned (.error fault), link)
  | .ok request => outLoop.run completions .transactionDue request link

/-- The pipe sends its next packet with the toggle that the endpoint expects. -/
def Agrees (link : OutLink) : Prop := link.pipe.dataToggle = link.endpoint.expected

instance (link : OutLink) : Decidable link.Agrees :=
  inferInstanceAs (Decidable (link.pipe.dataToggle = link.endpoint.expected))

/-- The packets of a request on this pipe. -/
def packets (link : OutLink) (data : List UInt8) (ensureTransactionEnd : Bool) :
    List (List UInt8) :=
  OutRequest.packets link.pipe.target.maxPacketSize data ensureTransactionEnd

/-! ### The invariant of the retry loop -/

/-- What is already delivered and what is left to send make up the whole message. -/
structure Sending (start : OutLink) (data : List UInt8) (ensureTransactionEnd : Bool)
    (request : OutRequest) (link : OutLink) : Prop where
  target : link.pipe.target = start.pipe.target
  sameData : request.data = data
  count : request.packetCount =
    OutRequest.countPackets start.pipe.target.maxPacketSize data ensureTransactionEnd
  index : request.packetIndex < request.packetCount
  message : link.endpoint.deliverAll link.pipe.dataToggle
      ((start.packets data ensureTransactionEnd).drop request.packetIndex) =
    start.endpoint.deliverAll start.pipe.dataToggle (start.packets data ensureTransactionEnd)

/-- The whole message is delivered, and the parties agree again. -/
structure Sent (start : OutLink) (data : List UInt8) (ensureTransactionEnd : Bool)
    (link : OutLink) : Prop where
  agrees : link.Agrees
  message : link.endpoint =
    start.endpoint.deliverAll start.pipe.dataToggle (start.packets data ensureTransactionEnd)

section Loop

variable {start link : OutLink} {data : List UInt8} {ensureTransactionEnd : Bool}
  {request : OutRequest}

/-- What is left to send starts with the current packet. -/
theorem Sending.remaining (sending : Sending start data ensureTransactionEnd request link) :
    (start.packets data ensureTransactionEnd).drop request.packetIndex =
      request.packet link.pipe.target ::
        (start.packets data ensureTransactionEnd).drop (request.packetIndex + 1) := by
  have inside := sending.index
  rw [sending.count] at inside
  rw [packets, OutRequest.packets_drop inside, OutRequest.packet, sending.sameData, sending.target]

/-- A transaction that does not complete keeps the invariant, whether or not it delivered the
packet. -/
theorem Sending.repeated (sending : Sending start data ensureTransactionEnd request link)
    {endpoint : OutEndpoint} {noResponseCount : Nat}
    (delivered : endpoint = link.endpoint ∨
      endpoint = link.endpoint.receive link.pipe.dataToggle (request.packet link.pipe.target)) :
    Sending start data ensureTransactionEnd { request with noResponseCount }
      { pipe := link.pipe, endpoint } := by
  refine ⟨sending.target, sending.sameData, sending.count, sending.index, ?_⟩
  have message := sending.message
  rcases delivered with rfl | rfl
  · exact message
  · rw [sending.remaining] at message
    calc (link.endpoint.receive link.pipe.dataToggle
            (request.packet link.pipe.target)).deliverAll link.pipe.dataToggle
            ((start.packets data ensureTransactionEnd).drop request.packetIndex) =
          link.endpoint.deliverAll link.pipe.dataToggle (request.packet link.pipe.target ::
            (start.packets data ensureTransactionEnd).drop (request.packetIndex + 1)) := by
          rw [sending.remaining, Receiver.deliverAll_repeat]
      _ = start.endpoint.deliverAll start.pipe.dataToggle
            (start.packets data ensureTransactionEnd) := message

/-- The link after a packet has been delivered and acknowledged. -/
def acknowledged (link : OutLink) (packet : List UInt8) : OutLink :=
  { pipe := { link.pipe with dataToggle := link.pipe.dataToggle.afterAck }
    endpoint := link.endpoint.receive link.pipe.dataToggle packet }

theorem acknowledged_agrees (link : OutLink) (packet : List UInt8) :
    (link.acknowledged packet).Agrees :=
  (Receiver.receive_expected _ _ _).symm

/-- A completed transaction moves the first packet of what is left to what is delivered. -/
theorem Sending.advanced (sending : Sending start data ensureTransactionEnd request link) :
    (link.acknowledged (request.packet link.pipe.target)).endpoint.deliverAll
        (link.acknowledged (request.packet link.pipe.target)).pipe.dataToggle
        ((start.packets data ensureTransactionEnd).drop (request.packetIndex + 1)) =
      start.endpoint.deliverAll start.pipe.dataToggle
        (start.packets data ensureTransactionEnd) := by
  rw [← sending.message, sending.remaining, Receiver.deliverAll_cons]
  rfl

/-- The engine operation of the loop: the packet is acknowledged and the toggle advances, or the
transaction does not complete. -/
theorem operate_spec (request : OutRequest) (link : OutLink) (wire : OutWire) :
    outLoop.operate wire request link =
        (.ok (.complete ()), link.acknowledged (request.packet link.pipe.target)) ∨
      ∃ result endpoint,
        outLoop.operate wire request link = (result, { pipe := link.pipe, endpoint }) ∧
          result ≠ .ok (.complete ()) ∧
            (endpoint = link.endpoint ∨
              endpoint = link.endpoint.receive link.pipe.dataToggle
                (request.packet link.pipe.target)) := by
  have spec := requestOutOnce_spec link.pipe.target link.pipe.dataToggle
    (request.packet link.pipe.target) wire link.endpoint
  simp only [outLoop, acknowledged]
  rcases spec with ⟨result, toggle, endpoint⟩ | ⟨result, toggle, endpoint⟩
  · left
    rw [result, toggle, endpoint]
  · right
    refine ⟨_, _, ?_, result, endpoint⟩
    rw [toggle]

/-- The loop goes on with the invariant. -/
theorem transact_again (sending : Sending start data ensureTransactionEnd request link)
    {completion : Completion OutWire} {next : OutRequest} {after : OutLink}
    (step : outLoop.transact completion request link = (.again next, after)) :
    Sending start data ensureTransactionEnd next after := by
  rcases RetryLoop.transact_of_valid step with ⟨error, impossible⟩ | ⟨outcome, operation, followed⟩
  · cases impossible
  rcases operate_spec request link completion.wire with done | ⟨result, endpoint, same, notDone, sent⟩
  · rw [done] at operation
    cases operation
    simp only [outLoop, OutRequest.afterOutcome] at followed
    split at followed
    next more =>
      cases followed
      exact ⟨sending.target, sending.sameData, sending.count, more, sending.advanced⟩
    next => cases followed
  · rw [same] at operation
    cases operation
    cases outcome with
    | complete _ => exact absurd rfl notDone
    | nak =>
      cases followed
      exact sending.repeated sent
    | noResponse =>
      simp only [outLoop, OutRequest.afterOutcome] at followed
      split at followed
      next => cases followed
      next =>
        cases followed
        exact sending.repeated sent

/-- The loop returns without an error only when the last packet is acknowledged. -/
theorem transact_returned (sending : Sending start data ensureTransactionEnd request link)
    {completion : Completion OutWire} {after : OutLink}
    (step : outLoop.transact completion request link = (.returned (.ok ()), after)) :
    Sent start data ensureTransactionEnd after := by
  rcases RetryLoop.transact_of_valid step with ⟨error, impossible⟩ | ⟨outcome, operation, followed⟩
  · cases impossible
  rcases operate_spec request link completion.wire with done | ⟨result, endpoint, same, notDone, sent⟩
  · rw [done] at operation
    cases operation
    simp only [outLoop, OutRequest.afterOutcome] at followed
    split at followed
    next => cases followed
    next last =>
      have advanced := sending.advanced
      have ended : (start.packets data ensureTransactionEnd).length ≤ request.packetIndex + 1 := by
        rw [packets, OutRequest.packets_length, ← sending.count]
        exact Nat.not_lt.mp last
      rw [List.drop_of_length_le ended] at advanced
      exact ⟨acknowledged_agrees link _, advanced⟩
  · rw [same] at operation
    cases operation
    cases outcome with
    | complete _ => exact absurd rfl notDone
    | nak => cases followed
    | noResponse =>
      simp only [outLoop, OutRequest.afterOutcome] at followed
      split at followed
      next => cases followed
      next => cases followed

/-- **What a completed request has delivered**, whatever happened on the wire. -/
theorem requestOut_spec {completions : List (Completion OutWire)} {after : OutLink}
    (completed : start.requestOut data ensureTransactionEnd completions =
      (.returned (.ok ()), after)) :
    Sent start data ensureTransactionEnd after := by
  unfold requestOut at completed
  split at completed
  next => cases completed
  next request started =>
    unfold OutRequest.start at started
    split at started
    next => cases started
    next positive =>
      cases started
      have sending : Sending start data ensureTransactionEnd
          { data
            packetCount := OutRequest.countPackets start.pipe.target.maxPacketSize data
              ensureTransactionEnd
            packetIndex := 0, noResponseCount := 0 } start :=
        ⟨rfl, rfl, rfl, OutRequest.countPackets_pos (Nat.pos_of_ne_zero positive), rfl⟩
      have spec := RetryLoop.run_spec (Sending start data ensureTransactionEnd)
        (fun result link => result = .returned (.ok ()) →
          Sent start data ensureTransactionEnd link)
        (fun _ _ _ impossible => by cases impossible)
        (fun _ _ _ impossible => by cases impossible)
        (fun _ _ _ _ _ sending step => transact_again sending step)
        (fun _ _ _ _ _ sending step same => by
          cases same
          exact transact_returned sending step)
        sending completions .transactionDue
      rw [completed] at spec
      exact spec rfl

end Loop

end OutLink

end PioUsbHost.Pipe
