/-
**When a pipe makes its attempts.**

A pipe waits for `next_transaction` before each attempt, and sets it after each outcome that it
accepts: an interrupt pipe to its interval later, a retry to a millisecond later. An attempt that fails
sets nothing, and neither does one that is dropped.

* `schedules_of_again`: a request goes on only behind an outcome that sets the next attempt.
* `Due.step`: what is due at one time stays due no earlier.
* `pacing_spec`: no attempt comes before what the attempts before it have set, over any requests.
-/

import PioUsbHost.Frame.Engine
import PioUsbHost.Pipe.Request

namespace PioUsbHost.Pipe

open PioUsbHost.Frame (millis)
open PioUsbHost.Host PioUsbHost.Lib PioUsbHost.Lib.Panic PioUsbHost.Usb

/-! ### The deadline of a pipe -/

/-- `next_transaction_delay_ms`. -/
def nextTransactionDelayMs (target : PipeTarget) (retry : Bool) : Nat :=
  if target.endpoint.epType = .interrupt then max target.endpoint.intervalMs.toNat 1
  else if retry then 1
  else 0

/-- A pipe, the request that it is in, and the clock. -/
structure PacedPipe (ω σ : Type) where
  world : ω
  now : Nat
  nextTransaction : Nat
  request : Option (AwaitPoint × σ)

/-- What a step of a pipe shows. -/
inductive PaceEvent where
  | silent
  /-- A request is made. -/
  | started
  /-- An attempt begins. -/
  | began (time : Nat)
  /-- `schedule_after_attempt`: an outcome is accepted, and sets the next attempt. -/
  | scheduled (time : Nat) (retry : Bool)
  deriving DecidableEq

namespace RetryLoop

variable {ω ε σ ο α : Type} (loop : RetryLoop ω ε σ ο α)

/-- The calls of `schedule_after_attempt` behind an outcome, with their argument. -/
def scheduledRetry (next : Next σ α) : TransactionOutcome ο → Option Bool
  | .complete _ => some false
  | _ =>
    match next with
    | .again _ => some true
    | .returned _ => none

/-- Whether an attempt sets the next one, with the argument of `schedule_after_attempt`. -/
def schedules (completion : Completion ε) (request : σ) (world : ω) : Option Bool :=
  let (result, after) := loop.operate completion.wire request world
  match (loop.pipe after).checkValid completion.port, result with
  | .ok (), .ok outcome =>
    scheduledRetry (loop.afterOutcome (loop.pipe after).target request outcome) outcome
  | _, _ => none

/-- Where the request is after a poll. -/
def requestAfter : Poll σ α → Option (AwaitPoint × σ)
  | .suspended point request => some (point, request)
  | .returned _ => none

/-- **One poll of the request**, at the time that the clock shows. -/
def pacedPoll (target : PipeTarget) (completion : Completion ε) (point : AwaitPoint) (request : σ)
    (pipe : PacedPipe ω σ) : PaceEvent × PacedPipe ω σ :=
  let (poll, world) := loop.poll completion point request pipe.world
  let polled := { pipe with world, request := requestAfter poll }
  match point with
  | .engineLock =>
    -- The attempt starts where the second check lets it.
    match poll with
    | .suspended _ _ => (.began pipe.now, polled)
    | .returned _ => (.silent, polled)
  | .engineOperation =>
    match loop.schedules completion request pipe.world with
    | some retry =>
      (.scheduled pipe.now retry,
        { polled with nextTransaction := pipe.now + millis (nextTransactionDelayMs target retry) })
    | none => (.silent, polled)
  | _ => (.silent, polled)

end RetryLoop

/-- **One step of a pipe.** `wait_until_transaction_due` ends when the deadline is over; any call may
be dropped. -/
inductive PacedStep {ω ε σ ο α : Type} (loop : RetryLoop ω ε σ ο α) (target : PipeTarget) :
    PacedPipe ω σ → PaceEvent → PacedPipe ω σ → Prop where
  | pass {pipe : PacedPipe ω σ} {later : Nat} (onward : pipe.now ≤ later) :
      PacedStep loop target pipe .silent { pipe with now := later }
  | start {pipe : PacedPipe ω σ} (idle : pipe.request = none) (request : σ) :
      PacedStep loop target pipe .started { pipe with request := some (.transactionDue, request) }
  | drop {pipe : PacedPipe ω σ} (world : ω) :
      PacedStep loop target pipe .silent { pipe with world, request := none }
  | poll {pipe : PacedPipe ω σ} {point : AwaitPoint} {request : σ}
      (at_ : pipe.request = some (point, request)) (completion : Completion ε)
      (due : point = .transactionDue → pipe.nextTransaction ≤ pipe.now) :
      PacedStep loop target pipe (loop.pacedPoll target completion point request pipe).1
        (loop.pacedPoll target completion point request pipe).2

/-! ### What one poll does -/

section OnePoll

variable {ω ε σ ο α : Type} {loop : RetryLoop ω ε σ ο α} {target : PipeTarget}
  {completion : Completion ε} {point : AwaitPoint} {request next : σ} {world after : ω}
  {pipe : PacedPipe ω σ}

/-- **A request goes on** only behind an outcome that sets the next attempt. -/
theorem RetryLoop.schedules_of_again
    (again : loop.transact completion request world = (.again next, after)) :
    ∃ retry, loop.schedules completion request world = some retry := by
  unfold transact at again
  unfold schedules
  generalize operated : loop.operate completion.wire request world = outcome at again ⊢
  obtain ⟨result, other⟩ := outcome
  dsimp only at again ⊢
  cases valid : (loop.pipe other).checkValid completion.port with
  | error error =>
    rw [valid] at again
    exact nomatch again
  | ok _ =>
    rw [valid] at again
    cases result with
    | error error => exact nomatch again
    | ok outcome =>
      obtain ⟨same, -⟩ := Prod.mk.inj again
      dsimp only
      rw [same]
      cases outcome with
      | complete value => exact ⟨false, rfl⟩
      | nak => exact ⟨true, rfl⟩
      | noResponse => exact ⟨true, rfl⟩

/-- What a step does to the deadline and to where the request is. -/
inductive PaceMove (target : PipeTarget) (before after : PacedPipe ω σ) : PaceEvent → Prop where
  | ended (kept : after.nextTransaction = before.nextTransaction) (idle : after.request = none) :
      PaceMove target before after .silent
  | passed (kept : after.nextTransaction = before.nextTransaction)
      (stays : after.request = before.request) : PaceMove target before after .silent
  | started (request : σ) (kept : after.nextTransaction = before.nextTransaction)
      (at_ : after.request = some (.transactionDue, request)) : PaceMove target before after .started
  | waited (request : σ) (kept : after.nextTransaction = before.nextTransaction)
      (due : before.nextTransaction ≤ before.now)
      (was : before.request = some (.transactionDue, request))
      (at_ : after.request = some (.engineLock, request)) : PaceMove target before after .silent
  | began (request : σ) (kept : after.nextTransaction = before.nextTransaction)
      (was : before.request = some (.engineLock, request))
      (at_ : after.request = some (.engineOperation, request)) :
      PaceMove target before after (.began before.now)
  | scheduled (request : σ) (retry : Bool)
      (set : after.nextTransaction = before.now + millis (nextTransactionDelayMs target retry))
      (was : before.request = some (.engineOperation, request))
      (at_ : after.request = none ∨ ∃ next, after.request = some (.otherPipes, next)) :
      PaceMove target before after (.scheduled before.now retry)
  | yielded (request : σ) (kept : after.nextTransaction = before.nextTransaction)
      (was : before.request = some (.otherPipes, request))
      (at_ : after.request = some (.transactionDue, request)) : PaceMove target before after .silent

/-- **Every step is one of these**, and the clock does not go back. -/
theorem PacedStep.move {before last : PacedPipe ω σ} {event : PaceEvent}
    (step : PacedStep loop target before event last) :
    before.now ≤ last.now ∧ PaceMove target before last event := by
  cases step with
  | pass onward => exact ⟨onward, .passed rfl rfl⟩
  | start idle request => exact ⟨Nat.le_refl _, .started request rfl rfl⟩
  | drop world => exact ⟨Nat.le_refl _, .ended rfl rfl⟩
  | @poll point request at_ completion due =>
    cases point with
    | transactionDue =>
      refine ⟨Nat.le_refl _, ?_⟩
      unfold RetryLoop.pacedPoll RetryLoop.poll RetryLoop.afterCheck
      dsimp only
      split
      · exact .ended rfl rfl
      · exact .waited request rfl (due rfl) at_ rfl
    | engineLock =>
      unfold RetryLoop.pacedPoll RetryLoop.poll RetryLoop.afterCheck
      cases valid : (loop.pipe before.world).checkValid completion.port with
      | error error => exact ⟨Nat.le_refl _, .ended rfl rfl⟩
      | ok _ => exact ⟨Nat.le_refl _, .began request rfl at_ rfl⟩
    | engineOperation =>
      unfold RetryLoop.pacedPoll RetryLoop.poll
      cases transacted : loop.transact completion request before.world with
      | mk next after =>
        cases next with
        | again next =>
          obtain ⟨retry, sets⟩ := RetryLoop.schedules_of_again transacted
          rw [sets]
          exact ⟨Nat.le_refl _, .scheduled request retry rfl at_ (Or.inr ⟨next, rfl⟩)⟩
        | returned result =>
          cases sets : loop.schedules completion request before.world with
          | none => exact ⟨Nat.le_refl _, .ended rfl rfl⟩
          | some retry => exact ⟨Nat.le_refl _, .scheduled request retry rfl at_ (Or.inl rfl)⟩
    | otherPipes => exact ⟨Nat.le_refl _, .yielded request rfl at_ rfl⟩

end OnePoll

/-! ### Runs -/

section Run

variable {ω ε σ ο α : Type} {loop : RetryLoop ω ε σ ο α} {target : PipeTarget}
  {first last before after : PacedPipe ω σ} {event : PaceEvent} {trace : List PaceEvent}
  {bound time : Nat} {retry : Bool}

/-- No attempt begins before the bound. -/
structure Due (bound : Nat) (pipe : PacedPipe ω σ) : Prop where
  deadline : bound ≤ pipe.nextTransaction
  waited : ∀ request, pipe.request = some (.engineLock, request) ∨
    pipe.request = some (.engineOperation, request) → pipe.nextTransaction ≤ pipe.now

/-- A request that is not between its deadline and its outcome. -/
theorem Due.outside {pipe : PacedPipe ω σ} (deadline : bound ≤ pipe.nextTransaction)
    (outside : pipe.request = none ∨ ∃ point request, pipe.request = some (point, request) ∧
      point ≠ .engineLock ∧ point ≠ .engineOperation) : Due bound pipe := by
  refine ⟨deadline, fun request inside => ?_⟩
  rcases outside with idle | ⟨point, other, there, notLock, notOperation⟩
  · rw [idle] at inside
    rcases inside with inside | inside <;> cases inside
  · rw [there] at inside
    rcases inside with inside | inside
    · cases inside
      exact absurd rfl notLock
    · cases inside
      exact absurd rfl notOperation

/-- **What is due stays due no earlier.** -/
theorem Due.step (due : Due bound before) (step : PacedStep loop target before event after) :
    Due bound after := by
  obtain ⟨onward, move⟩ := step.move
  cases move with
  | ended kept idle => exact .outside (kept ▸ due.deadline) (Or.inl idle)
  | passed kept stays =>
    refine ⟨kept ▸ due.deadline, fun request at_ => ?_⟩
    rw [stays] at at_
    exact kept ▸ (due.waited request at_).trans onward
  | started request kept there =>
    exact .outside (kept ▸ due.deadline) (Or.inr ⟨_, request, there, nofun, nofun⟩)
  | waited request kept finished was there =>
    exact ⟨kept ▸ due.deadline, fun _ _ => kept ▸ finished.trans onward⟩
  | began request kept was there =>
    exact ⟨kept ▸ due.deadline, fun _ _ => kept ▸ (due.waited request (Or.inl was)).trans onward⟩
  | scheduled request retry set was at_ =>
    have passed := due.waited request (Or.inr was)
    refine .outside ?_ (at_.imp_right fun ⟨next, there⟩ => ⟨_, next, there, nofun, nofun⟩)
    rw [set]
    exact (due.deadline.trans passed).trans (Nat.le_add_right _ _)
  | yielded request kept was there =>
    exact .outside (kept ▸ due.deadline) (Or.inr ⟨_, request, there, nofun, nofun⟩)

/-- An outcome that is accepted sets what is due. -/
theorem due_of_scheduled (step : PacedStep loop target before (.scheduled time retry) after) :
    Due (time + millis (nextTransactionDelayMs target retry)) after ∧ time = before.now := by
  obtain ⟨-, move⟩ := step.move
  cases move with
  | scheduled request retry set was at_ =>
    refine ⟨.outside set.ge (at_.imp_right fun ⟨next, there⟩ => ?_), rfl⟩
    exact ⟨_, next, there, nofun, nofun⟩

/-- An attempt begins when it is due. -/
theorem Due.of_began (due : Due bound before)
    (step : PacedStep loop target before (.began time) after) : bound ≤ time := by
  obtain ⟨-, move⟩ := step.move
  cases move with
  | began request kept was there => exact due.deadline.trans (due.waited request (Or.inl was))

theorem now_le_of_run (run : Run (PacedStep loop target) first trace last) : first.now ≤ last.now := by
  induction run with
  | nil => exact Nat.le_refl _
  | cons step _ ih => exact step.move.1.trans ih

theorem Due.run (due : Due bound first) (run : Run (PacedStep loop target) first trace last) :
    Due bound last :=
  run.preserves (Due bound) (fun step due => due.step step) due

/-- Behind an accepted outcome, no attempt begins before what it has set. -/
theorem le_of_scheduled {start : Nat} {middle late : List PaceEvent}
    (run : Run (PacedStep loop target) first (.scheduled time retry :: middle ++ .began start :: late)
      last) : first.now ≤ time ∧ time + millis (nextTransactionDelayMs target retry) ≤ start := by
  cases run with
  | cons step rest =>
    obtain ⟨due, rfl⟩ := due_of_scheduled step
    obtain ⟨_, _, more, begins, -⟩ := rest.around
    exact ⟨Nat.le_refl _, (due.run more).of_began begins⟩

/-- **Between two attempts of a request** there is an accepted outcome. -/
theorem scheduled_between {start next : Nat} {middle : List PaceEvent}
    (begins : PacedStep loop target before (.began start) first)
    (run : Run (PacedStep loop target) first middle last)
    (again : PacedStep loop target last (.began next) after) (same : .started ∉ middle) :
    ∃ time retry, .scheduled time retry ∈ middle := by
  by_contra none
  have stuck : last.request = .none ∨ ∃ request, last.request = some (.engineOperation, request) := by
    refine Run.preserves_unless
      (fun pipe => pipe.request = .none ∨ ∃ request, pipe.request = some (.engineOperation, request))
      (fun event => event = .started ∨ ∃ time retry, event = .scheduled time retry) ?_ run ?_ ?_
    · intro before event after step other was
      cases step.move.2 with
      | ended kept idle => exact Or.inl idle
      | passed kept stays => rwa [stays]
      | started request kept there => exact absurd (Or.inl rfl) other
      | scheduled request retry set at_ there => exact absurd (Or.inr ⟨_, _, rfl⟩) other
      | began request kept there at_ => exact Or.inr ⟨request, at_⟩
      | waited request kept due there at_ =>
        rcases was with was | ⟨_, was⟩
        · cases there.symm.trans was
        · cases there.symm.trans was
      | yielded request kept there at_ =>
        rcases was with was | ⟨_, was⟩
        · cases there.symm.trans was
        · cases there.symm.trans was
    · rintro event among (rfl | ⟨time, retry, rfl⟩)
      · exact same among
      · exact none ⟨time, retry, among⟩
    · cases begins.move.2 with
      | began request kept was at_ => exact Or.inr ⟨request, at_⟩
  cases again.move.2 with
  | began request kept was there =>
    rcases stuck with stuck | ⟨_, stuck⟩
    · cases was.symm.trans stuck
    · cases was.symm.trans stuck

/-- An interrupt endpoint that is polled every eight milliseconds. -/
def mousePipe : PioHostPipe where
  target := ⟨1, { addr := 0x81, epType := .interrupt, maxPacketSize := 4, intervalMs := 8 }⟩
  dataToggle := .data0
  connectionGeneration := 1
  resetGeneration := 2

/-- A device that has nothing to send. -/
def nakLoop : RetryLoop Unit Unit InRequest (List UInt8) (List UInt8 × Nat) where
  pipe _ := mousePipe
  operate _ _ world := (.ok .nak, world)
  afterOutcome := InRequest.afterOutcome

/-- A wait that ends with the device still there. -/
def connectedPort : Completion Unit where
  port := { connected := true, speed := some .full, connectionGeneration := 1, resetGeneration := 2 }
  wire := ()

/-- A poll, by what it is found to do. -/
theorem PacedStep.polled {point : AwaitPoint} {request : σ} (completion : Completion ε)
    (at_ : before.request = some (point, request))
    (due : point = .transactionDue → before.nextTransaction ≤ before.now)
    (found : loop.pacedPoll target completion point request before = (event, after)) :
    PacedStep loop target before event after := by
  have step : PacedStep loop target before _ _ := .poll at_ completion due
  rwa [found] at step

/-- A request is answered with a NAK, and tries again. -/
def twoPolls : List PaceEvent :=
  [.started, .silent, .began 0, .scheduled 0 true, .silent, .silent, .silent, .began 8000]

theorem twoPolls_run : ∃ last, Run (PacedStep nakLoop mousePipe.target)
    { world := (), now := 0, nextTransaction := 0, request := none } twoPolls last :=
  ⟨_, .cons (.start rfl (InRequest.start [0, 0, 0, 0]))
    (.cons (.polled connectedPort rfl (fun _ => Nat.le_refl 0) rfl)
    (.cons (.polled connectedPort rfl nofun rfl)
    (.cons (.polled connectedPort rfl nofun rfl)
    (.cons (.polled connectedPort rfl nofun rfl)
    (.cons (.pass (Nat.zero_le 8000))
    (.cons (.polled connectedPort rfl (fun _ => Nat.le_refl 8000) rfl)
    (.single (.polled connectedPort rfl nofun rfl))))))))⟩

/-- **The pace of a pipe.** In any run of requests on a pipe, of either direction and over any engine,
with any of them dropped anywhere: no attempt begins before what an earlier outcome has set, and between
two attempts of one request there is an outcome that keeps them apart; on an interrupt pipe that is by
the interval of its endpoint, whatever the outcome. -/
theorem pacing_spec (run : Run (PacedStep loop target) first trace last) :
    (∀ early time retry middle start late,
      trace = early ++ .scheduled time retry :: (middle ++ .began start :: late) →
        time + millis (nextTransactionDelayMs target retry) ≤ start) ∧
      ∀ early start middle next late,
        trace = early ++ .began start :: (middle ++ .began next :: late) → .started ∉ middle →
          (∃ time retry, .scheduled time retry ∈ middle ∧ start ≤ time ∧
            time + millis (nextTransactionDelayMs target retry) ≤ next) ∧
            (target.endpoint.epType = .interrupt →
              start + millis (max target.endpoint.intervalMs.toNat 1) ≤ next) := by
  refine ⟨?_, ?_⟩
  · rintro early time retry middle start late rfl
    obtain ⟨_, -, rest⟩ := run.split
    exact (le_of_scheduled rest).2
  · rintro early start middle next late rfl same
    obtain ⟨_, second, -, begins, rest⟩ := run.around
    obtain ⟨_, _, between, again, -⟩ := rest.around
    obtain ⟨time, retry, among⟩ := scheduled_between begins between again same
    obtain ⟨before, after, rfl⟩ := List.append_of_mem among
    rw [List.append_assoc, List.cons_append] at rest
    obtain ⟨third, leading, behind⟩ := rest.split
    obtain ⟨later, spaced⟩ := le_of_scheduled behind
    have began : start ≤ time := by
      have onward := now_le_of_run leading
      have moved := begins.move
      cases moved.2 with
      | began request kept was at_ => exact (moved.1.trans onward).trans later
    refine ⟨⟨time, retry, among, began, spaced⟩, fun interrupt => ?_⟩
    have apart := (Nat.add_le_add_right began _).trans spaced
    rwa [nextTransactionDelayMs, if_pos interrupt] at apart

/-- The second attempt comes eight milliseconds after the first. -/
theorem pacing_spec_twoPolls :
    (∃ last, Run (PacedStep nakLoop mousePipe.target)
      { world := (), now := 0, nextTransaction := 0, request := none } twoPolls last) ∧
      0 + 8000 ≤ 8000 ∧ 0 + millis (max 8 1) ≤ 8000 := by
  obtain ⟨last, run⟩ := twoPolls_run
  obtain ⟨due, apart⟩ := pacing_spec run
  have later := due [.started, .silent, .began 0] 0 true [.silent, .silent, .silent] 8000 [] rfl
  refine ⟨⟨last, run⟩, later, ?_⟩
  exact (apart [.started, .silent] 0 [.scheduled 0 true, .silent, .silent, .silent] 8000 [] rfl
    (by decide)).2 rfl

end Run

end PioUsbHost.Pipe
