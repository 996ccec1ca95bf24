/-
**A request on a pipe, from one suspension point to the next.**

`PioHostPipe::request_in` and `request_out` run the same retry loop around one engine operation: wait
for the deadline, check the pipe, wait for the engine, check again, operate, check once more, and then
go on, return, or yield and try again. `RetryLoop.poll` is the code between two suspension points and
`RetryLoop.run` a whole request, given what each completed await finds. A run with no completion left
is a request still suspended there, which its caller may drop.

* `OutRequest.afterOutcome`, `InRequest.afterOutcome`: what each direction makes of an outcome.
* `RetryLoop.run_spec`: an invariant kept by the engine operation holds of a whole request, wherever it
  is suspended, fails or returns.
-/

import PioUsbHost.Host.Port

namespace PioUsbHost.Pipe

open PioUsbHost.Usb PioUsbHost.Host PioUsbHost.Lib.Panic

/-- `NON_RESPONSE_RETRY_LIMIT`. -/
def nonResponseRetryLimit : Nat := 128

/-- The result of one non-control wire transaction. -/
inductive TransactionOutcome (ο : Type) where
  | complete (result : ο)
  | nak
  | noResponse
  deriving DecidableEq

/-- Where a request is suspended. -/
inductive AwaitPoint where
  | transactionDue
  | engineLock
  | engineOperation
  | otherPipes
  deriving DecidableEq, Repr

/-- How a request goes on after a transaction. -/
inductive Next (σ α : Type) where
  | again (request : σ)
  | returned (result : Checked PipeError α)
  deriving DecidableEq

/-! ### OUT requests -/

/-- The arguments and the variables of `request_out`. -/
structure OutRequest where
  data : List UInt8
  packetCount : Nat
  packetIndex : Nat
  noResponseCount : Nat
  deriving DecidableEq

namespace OutRequest

/-- `len.div_ceil(size)`. -/
def divCeil (len size : Nat) : Nat := len / size + if len % size > 0 then 1 else 0

/-- The packets a transfer takes. -/
def countPackets (maxPacketSize : Nat) (data : List UInt8) (ensureTransactionEnd : Bool) : Nat :=
  if data = [] then 1
  else if ensureTransactionEnd ∧ data.length % maxPacketSize = 0 then
    divCeil data.length maxPacketSize + 1
  else divCeil data.length maxPacketSize

/-- `request_out` up to its first suspension. A packet size of zero divides by zero. -/
def start (target : PipeTarget) (data : List UInt8) (ensureTransactionEnd : Bool) :
    Checked PipeError OutRequest :=
  if target.maxPacketSize = 0 then .error .panic
  else
    .ok
      { data, packetCount := countPackets target.maxPacketSize data ensureTransactionEnd
        packetIndex := 0, noResponseCount := 0 }

/-- `&data[start..end]` of a packet. -/
def packetAt (maxPacketSize : Nat) (data : List UInt8) (packetIndex : Nat) : List UInt8 :=
  let first := min (packetIndex * maxPacketSize) data.length
  let last := min (first + maxPacketSize) data.length
  (data.drop first).take (last - first)

/-- The packet being sent. -/
def packet (target : PipeTarget) (request : OutRequest) : List UInt8 :=
  packetAt target.maxPacketSize request.data request.packetIndex

/-- What `request_out` does with an outcome. -/
def afterOutcome (_ : PipeTarget) (request : OutRequest) : TransactionOutcome Unit →
    Next OutRequest Unit
  | .complete () =>
    if request.packetIndex + 1 < request.packetCount then
      .again { request with packetIndex := request.packetIndex + 1, noResponseCount := 0 }
    else .returned (.ok ())
  | .nak => .again { request with noResponseCount := 0 }
  | .noResponse =>
    if request.noResponseCount + 1 ≥ nonResponseRetryLimit then .returned (fail .timeout)
    else .again { request with noResponseCount := request.noResponseCount + 1 }

end OutRequest

/-! ### IN requests -/

/-- The arguments and the variables of `request_in`. -/
structure InRequest where
  buffer : List UInt8
  received : Nat
  noResponseCount : Nat
  deriving DecidableEq

/-- `buffer[start..start + bytes.len()].copy_from_slice(bytes)`. -/
def overwrite (buffer : List UInt8) (start : Nat) (bytes : List UInt8) : List UInt8 :=
  buffer.take start ++ bytes ++ buffer.drop (start + bytes.length)

namespace InRequest

/-- `request_in` after its check for an empty buffer, up to its first suspension. -/
def start (buffer : List UInt8) : InRequest := { buffer, received := 0, noResponseCount := 0 }

/-- The bytes left for the packet. -/
def room (request : InRequest) : Nat := request.buffer.length - request.received

/-- A completed transaction carries the bytes that the engine has written into the rest of the
buffer. The result of the request is its buffer and the number of bytes received. -/
def afterOutcome (target : PipeTarget) (request : InRequest) : TransactionOutcome (List UInt8) →
    Next InRequest (List UInt8 × Nat)
  | .complete packet =>
    if packet.length ≤ request.room then
      let buffer := overwrite request.buffer request.received packet
      let received := request.received + packet.length
      if target.endpoint.epType ≠ .bulk ∨ received = request.buffer.length
          ∨ packet.length < target.maxPacketSize then
        .returned (.ok (buffer, received))
      else .again { buffer, received, noResponseCount := 0 }
    else .returned (fail .bufferOverflow)
  | .nak =>
    if target.endpoint.epType = .isochronous then .returned (fail .timeout)
    else .again { request with noResponseCount := 0 }
  | .noResponse =>
    if target.endpoint.epType = .isochronous then .returned (fail .timeout)
    else if request.noResponseCount + 1 ≥ nonResponseRetryLimit then .returned (fail .timeout)
    else .again { request with noResponseCount := request.noResponseCount + 1 }

end InRequest

/-! ### The retry loop -/

/-- One direction of the loop: the pipe, the engine operation on a world, and what follows an
outcome. -/
structure RetryLoop (ω ε σ ο α : Type) where
  pipe : ω → PioHostPipe
  operate : ε → σ → ω → Except PipeError (TransactionOutcome ο) × ω
  afterOutcome : PipeTarget → σ → TransactionOutcome ο → Next σ α

/-- What a completed await finds: the port, and the wire if it is the engine operation. -/
structure Completion (ε : Type) where
  port : PortState
  wire : ε

/-- The code between two suspension points ends at the next one, or returns. -/
inductive Poll (σ α : Type) where
  | suspended (point : AwaitPoint) (request : σ)
  | returned (result : Checked PipeError α)
  deriving DecidableEq

namespace RetryLoop

variable {ω ε σ ο α : Type} (loop : RetryLoop ω ε σ ο α)

/-- The engine operation, the check after it, `result?` and the `match` on the outcome. -/
def transact (completion : Completion ε) (request : σ) (world : ω) : Next σ α × ω :=
  let (result, after) := loop.operate completion.wire request world
  match (loop.pipe after).checkValid completion.port with
  | .error error => (.returned (fail error), after)
  | .ok () =>
    match result with
    | .error error => (.returned (fail error), after)
    | .ok outcome => (loop.afterOutcome (loop.pipe after).target request outcome, after)

/-- `self.check_valid()?`, and on to the next await. -/
def afterCheck (completion : Completion ε) (point : AwaitPoint) (request : σ) (world : ω) :
    Poll σ α :=
  match (loop.pipe world).checkValid completion.port with
  | .error error => .returned (fail error)
  | .ok () => .suspended point request

/-- **From one suspension point to the next.** -/
def poll (completion : Completion ε) (point : AwaitPoint) (request : σ) (world : ω) :
    Poll σ α × ω :=
  match point with
  | .transactionDue => (loop.afterCheck completion .engineLock request world, world)
  | .engineLock => (loop.afterCheck completion .engineOperation request world, world)
  | .engineOperation =>
    match loop.transact completion request world with
    | (.again next, after) => (.suspended .otherPipes next, after)
    | (.returned result, after) => (.returned result, after)
  | .otherPipes => (.suspended .transactionDue request, world)

/-- A request, resumed once for each completion. -/
def run : List (Completion ε) → AwaitPoint → σ → ω → Call PipeError α × ω
  | [], _, _, world => (.waiting, world)
  | completion :: rest, point, request, world =>
    match loop.poll completion point request world with
    | (.returned result, after) => (.returned result, after)
    | (.suspended next request, after) => run rest next request after

/-! ### Reasoning about a request -/

variable {loop}

/-- The world after a transaction is the one the engine operation leaves. -/
theorem transact_world (completion : Completion ε) (request : σ) (world : ω) :
    (loop.transact completion request world).2 =
      (loop.operate completion.wire request world).2 := by
  unfold transact
  dsimp only
  split
  · rfl
  · split <;> rfl

/-- What a request goes on with, or returns without an error, comes from an outcome of the engine
operation. -/
theorem transact_of_valid {completion : Completion ε} {request : σ} {world after : ω}
    {next : Next σ α} (step : loop.transact completion request world = (next, after)) :
    (∃ error, next = .returned (fail error)) ∨
      ∃ outcome, loop.operate completion.wire request world = (.ok outcome, after) ∧
        loop.afterOutcome (loop.pipe after).target request outcome = next := by
  unfold transact at step
  cases operation : loop.operate completion.wire request world with
  | mk result now =>
    simp only [operation] at step
    split at step
    · cases step
      exact .inl ⟨_, rfl⟩
    · split at step
      · cases step
        exact .inl ⟨_, rfl⟩
      next outcome =>
        cases step
        exact .inr ⟨outcome, rfl, rfl⟩

/-- **The invariant rule for one poll.** Suspended requests satisfy `Inv`, finished ones `Post`. -/
theorem poll_spec (Inv : σ → ω → Prop) (Post : Checked PipeError α → ω → Prop)
    {completion : Completion ε} {request : σ} {world : ω}
    (invalid : (loop.pipe world).checkValid completion.port = .error .disconnected →
      Inv request world → Post (fail .disconnected) world)
    (again : ∀ next after, Inv request world →
      loop.transact completion request world = (.again next, after) → Inv next after)
    (returned : ∀ result after, Inv request world →
      loop.transact completion request world = (.returned result, after) → Post result after)
    (holds : Inv request world) (point : AwaitPoint) :
    match loop.poll completion point request world with
    | (.suspended _ next, after) => Inv next after
    | (.returned result, after) => Post result after := by
  have checked : ∀ target : AwaitPoint,
      match (loop.afterCheck completion target request world, world) with
      | (.suspended _ next, after) => Inv next after
      | (.returned result, after) => Post result after := by
    intro target
    unfold afterCheck
    rcases checkValid_cases (loop.pipe world) completion.port with valid | disconnected
    · rw [valid]
      exact holds
    · rw [disconnected]
      exact invalid disconnected holds
  cases point with
  | transactionDue => exact checked .engineLock
  | engineLock => exact checked .engineOperation
  | engineOperation =>
    simp only [poll]
    cases step : loop.transact completion request world with
    | mk outcome after =>
      cases outcome with
      | again next => exact again next after holds step
      | returned result => exact returned result after holds step
  | otherPipes => exact holds

/-- **The invariant rule for a request.** -/
theorem run_spec (Inv : σ → ω → Prop) (Post : Call PipeError α → ω → Prop)
    (waiting : ∀ request world, Inv request world → Post .waiting world)
    (invalid : ∀ request world, Inv request world → Post (.returned (fail .disconnected)) world)
    (again : ∀ completion request world next after, Inv request world →
      loop.transact completion request world = (.again next, after) → Inv next after)
    (returned : ∀ completion request world result after, Inv request world →
      loop.transact completion request world = (.returned result, after) →
        Post (.returned result) after)
    {request : σ} {world : ω} (holds : Inv request world) (completions : List (Completion ε))
    (point : AwaitPoint) :
    Post (loop.run completions point request world).1
      (loop.run completions point request world).2 := by
  induction completions generalizing point request world with
  | nil => exact waiting request world holds
  | cons completion rest ih =>
    have step := poll_spec Inv (fun result after => Post (.returned result) after)
      (fun _ => invalid request world) (again completion request world)
      (returned completion request world) holds point
    simp only [run]
    split
    next result after polled =>
      rw [polled] at step
      exact step
    next point next after polled =>
      rw [polled] at step
      exact ih step point

/-! ### A pipe that stays valid -/

/-- What the completed engine operations of a request find. -/
def transactions : List (Completion ε) → AwaitPoint → List ε
  | [], _ => []
  | _ :: rest, .transactionDue => transactions rest .engineLock
  | _ :: rest, .engineLock => transactions rest .engineOperation
  | completion :: rest, .engineOperation => completion.wire :: transactions rest .otherPipes
  | _ :: rest, .otherPipes => transactions rest .transactionDue

variable (loop)

/-- A request, transaction by transaction. -/
def serve : List ε → σ → ω → Call PipeError α × ω
  | [], _, world => (.waiting, world)
  | wire :: rest, request, world =>
    let (result, after) := loop.operate wire request world
    match result with
    | .error error => (.returned (fail error), after)
    | .ok outcome =>
      match loop.afterOutcome (loop.pipe after).target request outcome with
      | .returned result => (.returned result, after)
      | .again next => serve rest next after

variable {loop}

section Serve

variable {wire : ε} {rest : List ε} {request next : σ} {world after : ω}

theorem serve_error {error : PipeError}
    (operation : loop.operate wire request world = (.error error, after)) :
    loop.serve (wire :: rest) request world = (.returned (fail error), after) := by
  rw [serve, operation]

theorem serve_again {outcome : TransactionOutcome ο}
    (operation : loop.operate wire request world = (.ok outcome, after))
    (again : loop.afterOutcome (loop.pipe after).target request outcome = .again next) :
    loop.serve (wire :: rest) request world = loop.serve rest next after := by
  rw [serve, operation]
  simp only [again]

theorem serve_returned {outcome : TransactionOutcome ο} {result : Checked PipeError α}
    (operation : loop.operate wire request world = (.ok outcome, after))
    (returned : loop.afterOutcome (loop.pipe after).target request outcome = .returned result) :
    loop.serve (wire :: rest) request world = (.returned result, after) := by
  rw [serve, operation]
  simp only [returned]

end Serve

/-- **While the pipe stays valid**, a request is its transactions. -/
theorem run_eq_serve {Valid : ω → Prop} {completions : List (Completion ε)}
    (valid : ∀ completion ∈ completions, ∀ world, Valid world →
      (loop.pipe world).checkValid completion.port = .ok ())
    (keeps : ∀ wire request world, Valid world → Valid (loop.operate wire request world).2)
    (point : AwaitPoint) (request : σ) {world : ω} (holds : Valid world) :
    loop.run completions point request world =
      loop.serve (transactions completions point) request world := by
  induction completions generalizing point request world with
  | nil => rfl
  | cons completion rest ih =>
    have now := valid completion List.mem_cons_self
    have onward := fun point request {world} (holds : Valid world) =>
      @ih (fun other member => valid other (List.mem_cons_of_mem _ member)) point request world holds
    cases point with
    | transactionDue =>
      rw [run, poll, afterCheck, now world holds]
      exact onward .engineLock request holds
    | engineLock =>
      rw [run, poll, afterCheck, now world holds]
      exact onward .engineOperation request holds
    | engineOperation =>
      have kept := keeps completion.wire request world holds
      rw [run, poll, transact, transactions, serve]
      cases operation : loop.operate completion.wire request world with
      | mk result after =>
        rw [operation] at kept
        simp only [now after kept]
        cases result with
        | error error => rfl
        | ok outcome =>
          simp only
          cases loop.afterOutcome (loop.pipe after).target request outcome with
          | returned result => rfl
          | again next => exact onward .otherPipes next kept
    | otherPipes => exact onward .transactionDue request holds

end RetryLoop

end PioUsbHost.Pipe
