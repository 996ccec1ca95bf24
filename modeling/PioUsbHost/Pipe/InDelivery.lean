/-
**What an IN request accepts, packet by packet.**

`request_in` against an endpoint that repeats a packet until it sees the ACK. A packet is accepted when
its transaction completes; a repetition is acknowledged and discarded. Host and endpoint hold the
endpoint's sequence between them, as the two ends of the alternating bit.

* `operate_spec`: one transaction keeps them in step, and accepts the packet it completes with.
* `transact_onePacket`: with a buffer of one packet the request returns at its first completed
  transaction.
-/

import PioUsbHost.Pipe.Engine

namespace PioUsbHost.Pipe

open PioUsbHost.Usb PioUsbHost.Host PioUsbHost.Lib.AlternatingBit PioUsbHost.Lib.Panic

/-- The host's pipe and the endpoint at its other end, with the packets the pipe has accepted. -/
structure InLink where
  pipe : PioHostPipe
  endpoint : InEndpoint
  accepted : List (List UInt8)
  deriving DecidableEq

/-- The packet a transaction completes with. -/
def completed : Except PipeError (TransactionOutcome (List UInt8)) → List (List UInt8)
  | .ok (.complete packet) => [packet]
  | _ => []

/-- The retry loop of `request_in`. -/
def inLoop : RetryLoop InLink InWire InRequest (List UInt8) (List UInt8 × Nat) where
  pipe := InLink.pipe
  operate wire request link :=
    let after := requestInOnce link.pipe.target link.pipe.dataToggle request.room wire link.endpoint
    (after.result,
      { pipe := { link.pipe with dataToggle := after.toggle }
        endpoint := after.endpoint
        accepted := link.accepted ++ completed after.result })
  afterOutcome := InRequest.afterOutcome

namespace InLink

/-- The host's end, as a receiver of the alternating bit. -/
def receiver (link : InLink) : Receiver DataToggle (List UInt8) :=
  { expected := link.pipe.dataToggle, accepted := link.accepted }

/-- Host and endpoint hold the endpoint's sequence of packets between them. -/
def Delivers (packets : List (List UInt8)) (link : InLink) : Prop :=
  InStep packets link.endpoint link.receiver

/-- The transaction that a request makes on the link. -/
def transaction (link : InLink) (request : InRequest) (wire : InWire) : InTransaction :=
  { target := link.pipe.target
    toggle := link.pipe.dataToggle
    bufferLen := request.room
    endpoint := link.endpoint
    wire }

/-- A completion on a valid pipe whose transmitter reports the end of its ACKs. -/
structure Undisturbed (link : InLink) (completion : Completion InWire) : Prop where
  valid : link.pipe.checkValid completion.port = .ok ()
  completes : completion.wire.ackStalls = false

variable {packets : List (List UInt8)} {link : InLink} {request : InRequest} {wire : InWire}

/-- What a transaction on the link does. -/
theorem requestInOnce_spec (link : InLink)
    (toggled : link.pipe.target.endpoint.epType ≠ .isochronous) (completes : wire.ackStalls = false)
    (judged : (link.transaction request wire).Judged) :
    RequestInOnceSpec link.pipe.dataToggle request.room link.endpoint
      (requestInOnce link.pipe.target link.pipe.dataToggle request.room wire link.endpoint) :=
  @Pipe.requestInOnce_spec (link.transaction request wire) toggled completes judged.rejects judged.whole

/-- The endpoint sends the head of its queue, and may see the ACK or not. -/
theorem Delivers.received (delivers : Delivers packets link) {head : List UInt8}
    {rest : List (List UInt8)} (queue : link.endpoint.pending = head :: rest)
    {endpoint : InEndpoint}
    (acknowledged : endpoint = link.endpoint ∨ endpoint = link.endpoint.acknowledge) :
    InStep packets endpoint (link.receiver.receive link.endpoint.bit head) := by
  rcases acknowledged with rfl | rfl
  · exact InStep.delivered delivers queue
  · exact InStep.acknowledged delivers queue

/-- **One transaction** keeps host and endpoint in step. -/
theorem operate_delivers (toggled : link.pipe.target.endpoint.epType ≠ .isochronous)
    (completes : wire.ackStalls = false) (judged : (link.transaction request wire).Judged)
    (delivers : Delivers packets link) : Delivers packets (inLoop.operate wire request link).2 := by
  simp only [inLoop, Delivers, receiver]
  cases link.requestInOnce_spec toggled completes judged with
  | unanswered result toggle endpoint =>
    have none : completed (requestInOnce link.pipe.target link.pipe.dataToggle request.room wire
        link.endpoint).result = [] := by
      unfold completed
      split
      next packet same => exact absurd same (result packet)
      next => rfl
    rw [toggle, endpoint, none, List.append_nil]
    exact delivers
  | repeated head rest queue differs result toggle endpoint =>
    rw [result, toggle]
    have received := delivers.received queue endpoint
    rw [Receiver.receive_of_ne differs] at received
    simp only [completed, List.append_nil]
    exact received
  | accepted head rest queue agrees fits result toggle endpoint =>
    rw [result, toggle]
    have received := delivers.received queue endpoint
    rw [Receiver.receive_of_eq agrees] at received
    exact received

/-- A transaction completes only with a packet that fits. -/
theorem operate_fits (toggled : link.pipe.target.endpoint.epType ≠ .isochronous)
    (completes : wire.ackStalls = false) (judged : (link.transaction request wire).Judged)
    {packet : List UInt8}
    (complete : (inLoop.operate wire request link).1 = .ok (.complete packet)) :
    packet.length ≤ request.room := by
  have once : (requestInOnce link.pipe.target link.pipe.dataToggle request.room wire
      link.endpoint).result = .ok (.complete packet) := complete
  cases link.requestInOnce_spec toggled completes judged with
  | unanswered result => exact absurd once (result packet)
  | repeated head rest queue differs result =>
    rw [result] at once
    cases once
  | accepted head rest queue agrees fits result =>
    rw [result] at once
    cases once
    exact fits

/-! ### A buffer of one packet -/

/-- A request whose buffer holds one packet, and which has received nothing yet. -/
structure OnePacket (link : InLink) (request : InRequest) : Prop where
  bulk : link.pipe.target.endpoint.epType = .bulk
  size : request.buffer.length = link.pipe.target.maxPacketSize
  fresh : request.received = 0

/-- How one transaction of a request for one packet ends on an undisturbed pipe. -/
inductive OnePacketSpec (link : InLink) (request : InRequest)
    (next : Next InRequest (List UInt8 × Nat)) (after : InLink) : Prop where
  | again (request' : InRequest) (same : next = .again request')
      (accepted : after.accepted = link.accepted) (one : OnePacket after request')
  | failed (error : PipeError) (same : next = .returned (fail error))
      (accepted : after.accepted = link.accepted)
  | returned (packet : List UInt8) (fits : packet.length ≤ request.buffer.length)
      (same : next = .returned (.ok (overwrite request.buffer 0 packet, packet.length)))
      (accepted : after.accepted = link.accepted ++ [packet])

/-- **A request for one packet** returns the packet it accepts, and nothing is accepted without being
returned. -/
theorem transact_onePacket {completion : Completion InWire} (one : OnePacket link request)
    (undisturbed : Undisturbed link completion)
    (judged : (link.transaction request completion.wire).Judged) :
    OnePacketSpec link request (inLoop.transact completion request link).1
      (inLoop.transact completion request link).2 := by
  have toggled : link.pipe.target.endpoint.epType ≠ .isochronous := by
    rw [one.bulk]
    decide
  have room : request.room = request.buffer.length := by
    rw [InRequest.room, one.fresh, Nat.sub_zero]
  have valid : (inLoop.pipe (inLoop.operate completion.wire request link).2).checkValid
      completion.port = .ok () := undisturbed.valid
  have accepted : (inLoop.operate completion.wire request link).2.accepted =
      link.accepted ++ completed (inLoop.operate completion.wire request link).1 := rfl
  have target : (inLoop.operate completion.wire request link).2.pipe.target = link.pipe.target := rfl
  have fits : ∀ packet, (inLoop.operate completion.wire request link).1 = .ok (.complete packet) →
      packet.length ≤ request.room := fun packet complete =>
    operate_fits toggled undisturbed.completes judged complete
  cases operation : inLoop.operate completion.wire request link with
  | mk result after =>
    rw [operation] at valid accepted target fits
    have again : OnePacket after request := ⟨by rw [target]; exact one.bulk,
      by rw [target]; exact one.size, one.fresh⟩
    have bulk : after.pipe.target.endpoint.epType = .bulk := again.bulk
    simp only [RetryLoop.transact, operation, valid]
    cases result with
    | error error => exact .failed error rfl (by simpa [completed] using accepted)
    | ok outcome =>
      cases outcome with
      | complete packet =>
        have inside := fits packet rfl
        have ended : request.received + packet.length = request.buffer.length ∨
            packet.length < after.pipe.target.maxPacketSize := by
          rw [one.fresh, ← again.size]
          omega
        have short : packet.length ≤ request.buffer.length := by
          rw [← room]
          exact inside
        refine .returned packet short ?_ accepted
        simp only [inLoop, InRequest.afterOutcome, inside, if_true, bulk, ne_eq, not_true_eq_false,
          false_or, ended]
        rw [one.fresh, Nat.zero_add]
      | nak =>
        refine .again { request with noResponseCount := 0 } ?_ (by simpa [completed] using accepted)
          ⟨again.bulk, again.size, again.fresh⟩
        simp only [inLoop, InRequest.afterOutcome, bulk, reduceCtorEq, if_false]
      | noResponse =>
        simp only [inLoop, InRequest.afterOutcome, bulk, reduceCtorEq, if_false]
        split
        next => exact .failed .timeout rfl (by simpa [completed] using accepted)
        next =>
          exact .again { request with noResponseCount := request.noResponseCount + 1 } rfl
            (by simpa [completed] using accepted) ⟨again.bulk, again.size, again.fresh⟩

/-! ### The pipe stays the same -/

/-- The pipe of a later link: only its toggle may have changed. -/
def SamePipe (link after : InLink) : Prop :=
  after.pipe = { link.pipe with dataToggle := after.pipe.dataToggle }

theorem SamePipe.refl (link : InLink) : SamePipe link link := rfl

theorem SamePipe.trans {first second third : InLink} (early : SamePipe first second)
    (late : SamePipe second third) : SamePipe first third := by
  unfold SamePipe at *
  rw [late, early]

theorem SamePipe.undisturbed {after : InLink} {completion : Completion InWire}
    (same : SamePipe link after) (undisturbed : Undisturbed link completion) :
    Undisturbed after completion := by
  refine ⟨?_, undisturbed.completes⟩
  rw [same]
  exact undisturbed.valid

theorem transact_samePipe (completion : Completion InWire) (request : InRequest) (link : InLink) :
    SamePipe link (inLoop.transact completion request link).2 := by
  rw [RetryLoop.transact_world]
  rfl

theorem poll_samePipe (completion : Completion InWire) (point : AwaitPoint) (request : InRequest)
    (link : InLink) : SamePipe link (inLoop.poll completion point request link).2 := by
  have transacted := transact_samePipe completion request link
  unfold RetryLoop.poll
  cases point with
  | engineOperation =>
    dsimp only
    split
    next step => rw [step] at transacted; exact transacted
    next step => rw [step] at transacted; exact transacted
  | _ => exact SamePipe.refl link

end InLink

end PioUsbHost.Pipe
