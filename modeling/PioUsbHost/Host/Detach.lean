/-
**Detach invalidation, under any interleaving.**

A pipe remembers the connection generation it was allocated under. Every disconnect or overcurrent
report and every publication of a connection moves the port to the next one, so from then on the pipe
is outdated: its check fails wherever a request makes it.

* `AllocatedBy.run`: no pipe is from a generation the port has not had yet.
* `Outdated.step`, `Outdated.run`: an outdated pipe stays outdated, starts no engine operation, and no
  request on it passes its final check.
* `detach_invalidates`: the theorem over whole runs.
-/

import PioUsbHost.Host.Parties

namespace PioUsbHost.Host

open PioUsbHost.Usb PioUsbHost.Pipe PioUsbHost.Lib PioUsbHost.Lib.Panic

/-! ### The rest of a request -/

/-- The moves that a request has left if its pipe fails every check. -/
def RequestPhase.movesLeft : RequestPhase → Nat
  | settled _ => 1
  | transactionDue => 2
  | locked => 2
  | unlocked _ => 2
  | engineLock => 3
  | servicing _ => 3
  | otherPipes => 3
  | operating => 4

theorem RequestPhase.movesLeft_pos (phase : RequestPhase) : 0 < phase.movesLeft := by
  cases phase <;> exact Nat.succ_pos _

/-- No moves are left on a pipe without a request. -/
def PipeSlot.movesLeft (slot : PipeSlot) : Nat :=
  match slot.request with
  | some (_, phase) => phase.movesLeft
  | none => 0

/-- The moves left of the request on a pipe. -/
def PioHostState.movesLeft (state : PioHostState) (index : Nat) : Nat :=
  match state.pipes index with
  | some slot => slot.movesLeft
  | none => 0

theorem PioHostState.movesLeft_eq {state : PioHostState} {index : Nat} {slot : PipeSlot}
    (current : state.pipes index = some slot) : state.movesLeft index = slot.movesLeft := by
  unfold PioHostState.movesLeft
  rw [current]

section Moves

variable {index : Nat} {port : PortState} {engine owner : Option EngineOwner}
  {slot next : PipeSlot} {effect : Effect}

/-- What returns was settled. -/
theorem PipeMove.settled_of_returned {result : Checked PipeError Value}
    (move : PipeMove index port engine slot (.returned index result) next owner) :
    ∃ pipe request, slot = { pipe, request := some (request, .settled result) } := by
  cases move
  exact ⟨_, _, rfl⟩

/-- An engine operation returns to a request that waits for it. -/
theorem PipeMove.operating_of_returned
    (move : PipeMove index port engine slot (.operationReturned index) next owner) :
    ∃ pipe request, slot = { pipe, request := some (request, .operating) } := by
  cases move
  exact ⟨_, _, rfl⟩

/-- A request on an invalid pipe can only settle with an error. -/
theorem PipeMove.settled_of_invalid {pipe : PioHostPipe} {request : PipeRequest}
    {result : Checked PipeError Value}
    (move : PipeMove index port engine slot effect
      { pipe, request := some (request, .settled result) } owner)
    (invalid : slot.pipe.checkValid port ≠ .ok ()) : result = fail .disconnected := by
  have disconnected := (checkValid_cases slot.pipe port).resolve_left invalid
  cases move with
  | settles valid => exact absurd valid invalid
  | dueInvalid failed | lockedInvalid failed | unlockedInvalid failed =>
    cases disconnected.symm.trans failed
    rfl

/-- Each move of a request on an invalid pipe, other than the call, brings it closer to its end. -/
theorem PipeMove.movesLeft_lt
    (move : PipeMove index port engine slot effect next owner)
    (invalid : slot.pipe.checkValid port ≠ .ok ()) :
    next = slot ∨ effect = .called index ∨ next.movesLeft < slot.movesLeft := by
  cases move with
  | callAtOnce => exact .inl rfl
  | call => exact .inr (.inl rfl)
  | due valid | operate valid | goesOn valid | settles valid => exact absurd valid invalid
  | drop | dropHolding => exact .inr (.inr (RequestPhase.movesLeft_pos _))
  | _ => exact .inr (.inr (Nat.lt_succ_self _))

end Moves

variable {first second last : PioHostState} {effect : Effect} {index : Nat} {slot : PipeSlot}

/-! ### Requests past their final check -/

/-- The request on a pipe has passed its final check with this result, and has still to return. -/
def PioHostState.SettledWith (state : PioHostState) (index : Nat)
    (result : Checked PipeError Value) : Prop :=
  ∃ pipe request, state.pipes index = some { pipe, request := some (request, .settled result) }

/-- What returns was settled. -/
theorem Step.settled_of_returned {result : Checked PipeError Value}
    (step : Step first (.returned index result) second) (current : first.pipes index = some slot) :
    first.SettledWith index result := by
  rcases step.slot_cases current with ⟨-, other⟩ | ⟨next, engine, -, move⟩
  · exact absurd rfl other
  · obtain ⟨pipe, request, rfl⟩ := move.settled_of_returned
    exact ⟨pipe, request, current⟩

/-- A request whose operation returns is not settled yet. -/
theorem Step.not_settled_of_operated {result : Checked PipeError Value}
    (step : Step first (.operationReturned index) second) : ¬ first.SettledWith index result := by
  rintro ⟨pipe, request, current⟩
  rcases step.slot_cases current with ⟨-, other⟩ | ⟨next, engine, -, move⟩
  · exact absurd rfl other
  · obtain ⟨pipe', request', operating⟩ := move.operating_of_returned
    cases operating

/-! ### Generations -/

/-- The port is in its `count`-th connection generation, and no pipe is from a later one. -/
structure AllocatedBy (count : Nat) (state : PioHostState) : Prop where
  port : state.shared.port.connectionGeneration = UInt32.ofNat count
  pipes : ∀ index slot, state.pipes index = some slot →
    ∃ generation ≤ count, slot.pipe.connectionGeneration = UInt32.ofNat generation

theorem AllocatedBy.initial : AllocatedBy 0 PioHostState.initial :=
  ⟨rfl, fun _ _ impossible => by cases impossible⟩

theorem connections_cons (effect : Effect) (trace : List Effect) :
    connections (effect :: trace) =
      connections trace + if effect.isConnection then 1 else 0 :=
  List.countP_cons

theorem connections_append (early late : List Effect) :
    connections (early ++ late) = connections early + connections late :=
  List.countP_append

theorem AllocatedBy.step {count : Nat} (allocated : AllocatedBy count first)
    (step : Step first effect second) :
    AllocatedBy (count + if effect.isConnection then 1 else 0) second := by
  refine ⟨?_, fun index slot there => ?_⟩
  · rw [step.connectionGeneration, allocated.port, UInt32.ofNat_add]
  · rcases step.slot_origin there with ⟨before, was, same⟩ | ⟨-, fresh⟩
    · obtain ⟨generation, early, from_it⟩ := allocated.pipes index before was
      exact ⟨generation, Nat.le_trans early (Nat.le_add_right _ _), by rw [same, ← from_it]⟩
    · exact ⟨count, Nat.le_add_right _ _, fresh.trans allocated.port⟩

/-- **No pipe is from a generation the port has not had.** -/
theorem AllocatedBy.run {count : Nat} {trace : List Effect} (allocated : AllocatedBy count first)
    (run : Run Step first trace last) : AllocatedBy (count + connections trace) last := by
  induction run generalizing count with
  | nil => exact allocated
  | cons taken _ ih =>
    rw [connections_cons, Nat.add_comm (connections _), ← Nat.add_assoc]
    exact ih (allocated.step taken)

/-! ### Outdated pipes -/

/-- The pipe is from an earlier connection generation, and remains so for `budget` more events. -/
def Outdated (index budget : Nat) (state : PioHostState) : Prop :=
  ∃ slot generation count, state.pipes index = some slot ∧
    slot.pipe.connectionGeneration = UInt32.ofNat generation ∧
      state.shared.port.connectionGeneration = UInt32.ofNat count ∧
        generation < count ∧ count + budget < UInt32.size

/-- An outdated pipe is not valid. -/
theorem Outdated.invalid {budget : Nat} (outdated : Outdated index budget first)
    (current : first.pipes index = some slot) :
    slot.pipe.checkValid first.shared.port ≠ .ok () := by
  obtain ⟨same, generation, count, there, from_it, now, earlier, few⟩ := outdated
  rw [current] at there
  cases there
  intro valid
  have equal := congrArg UInt32.toNat (checkValid_eq_ok.mp valid).2.1
  have size : UInt32.size = 4294967296 := rfl
  rw [now, from_it, UInt32.toNat_ofNat_of_lt' (by omega), UInt32.toNat_ofNat_of_lt' (by omega)]
    at equal
  omega

/-- **One step** leaves an outdated pipe outdated, starts no operation on it, and lets no request on it
settle except with an error. -/
theorem Outdated.step {budget : Nat}
    (outdated : Outdated index (budget + if effect.isConnection then 1 else 0) first)
    (step : Step first effect second) :
    Outdated index budget second ∧ effect ≠ .operationStarted index ∧
      ∀ result, second.SettledWith index result →
        result = fail .disconnected ∨ first.SettledWith index result := by
  obtain ⟨slot, generation, count, current, from_it, now, earlier, few⟩ := id outdated
  have invalid := outdated.invalid current
  have port : second.shared.port.connectionGeneration =
      UInt32.ofNat (count + if effect.isConnection then 1 else 0) := by
    rw [step.connectionGeneration, now, UInt32.ofNat_add]
  have later : ∀ next : PipeSlot, second.pipes index = some next →
      next.pipe.connectionGeneration = slot.pipe.connectionGeneration →
        Outdated index budget second := fun next there same =>
    ⟨next, generation, _, there, same.trans from_it, port, by omega, by omega⟩
  rcases step.slot_cases current with ⟨there, other⟩ | ⟨next, engine, there, move⟩
  · refine ⟨later slot there rfl, ?_, ?_⟩
    · rintro rfl
      exact other rfl
    · rintro result ⟨pipe, request, settled⟩
      rw [there] at settled
      exact .inr ⟨pipe, request, current.trans settled⟩
  · refine ⟨later next there (by rw [move.samePipe]), ?_, ?_⟩
    · rintro rfl
      exact invalid move.valid_of_started
    · rintro result ⟨pipe, request, settled⟩
      rw [there] at settled
      cases settled
      exact .inl (move.settled_of_invalid invalid)

/-- **A whole run.** -/
theorem Outdated.run {trace : List Effect} {budget : Nat}
    (outdated : Outdated index (budget + connections trace) first)
    (run : Run Step first trace last) :
    Outdated index budget last ∧ .operationStarted index ∉ trace ∧
      ∀ result, last.SettledWith index result →
        result = fail .disconnected ∨ first.SettledWith index result := by
  induction run with
  | nil => exact ⟨outdated, List.not_mem_nil, fun _ => .inr⟩
  | cons taken _ ih =>
    rw [connections_cons, ← Nat.add_assoc] at outdated
    obtain ⟨next, notStarted, settled⟩ := outdated.step taken
    obtain ⟨stays, never, earlier⟩ := ih next
    refine ⟨stays, ?_, fun result later => (earlier result later).elim .inl (settled result)⟩
    rintro (_ | ⟨_, later⟩)
    · exact notStarted rfl
    · exact never later

/-- Each step leaves an outdated pipe as it is, calls a request on it, or brings its request closer to
its end. -/
theorem Outdated.movesLeft_lt {budget : Nat} (outdated : Outdated index budget first)
    (step : Step first effect second) :
    second.pipes index = first.pipes index ∨ effect = .called index ∨
      second.movesLeft index < first.movesLeft index := by
  obtain ⟨slot, _, _, current, -⟩ := id outdated
  rcases step.slot_cases current with ⟨there, -⟩ | ⟨next, engine, there, move⟩
  · exact .inl (there.trans current.symm)
  · rw [PioHostState.movesLeft_eq there, PioHostState.movesLeft_eq current, there, current]
    exact (move.movesLeft_lt (outdated.invalid current)).imp_left (congrArg some)

/-- A request on an outdated pipe that is about to return anything else than the error was about to
return it all along. -/
theorem Outdated.settled_throughout {trace : List Effect} {budget : Nat}
    {result : Checked PipeError Value}
    (outdated : Outdated index (budget + connections trace) first)
    (run : Run Step first trace last) (settled : last.SettledWith index result) :
    result = fail .disconnected ∨
      .operationReturned index ∉ trace ∧ first.SettledWith index result := by
  by_cases disconnected : result = fail .disconnected
  · exact .inl disconnected
  refine .inr ⟨fun operated => ?_,
    ((outdated.run run).2.2 result settled).resolve_left disconnected⟩
  obtain ⟨early, late, rfl⟩ := List.append_of_mem operated
  obtain ⟨before, start, rest⟩ := run.split
  rw [connections_append, Nat.add_comm (connections early), ← Nat.add_assoc] at outdated
  have still := (outdated.run start).1
  have settledBefore := ((still.run rest).2.2 result settled).resolve_left disconnected
  cases rest with
  | cons operating _ => exact operating.not_settled_of_operated settledBefore

/-- A connection event leaves every pipe as it is. -/
theorem Step.pipes_of_connection (step : Step first effect second)
    (connection : effect.isConnection = true) (current : first.pipes index = some slot) :
    second.pipes index = some slot := by
  rcases step.slot_cases current with ⟨there, -⟩ | ⟨next, engine, -, move⟩
  · exact there
  · rw [move.label.2] at connection
    cases connection

/-- **Detach invalidation.** In every run with fewer than 2³² connection events, once a disconnect or
overcurrent is reported or a connection is published, of each pipe allocated before:
it starts no further engine operation; what a request on it returns is the error, unless its last
engine operation had returned before and its final check with it; and every move of the request, after
its call, brings it closer to its return. -/
theorem detach_invalidates {early late : List Effect} {state after : PioHostState}
    (before : Run Step .initial early state) (allocated : state.pipes index = some slot)
    (event : Step state effect after) (connection : effect.isConnection = true)
    (later : Run Step after late last)
    (few : connections (early ++ effect :: late) < UInt32.size) :
    .operationStarted index ∉ late ∧
      (∀ middle result rest, late = middle ++ .returned index result :: rest →
        result = fail .disconnected ∨
          .operationReturned index ∉ middle ∧ state.SettledWith index result) ∧
      ∀ middle label rest now next, late = middle ++ label :: rest → Run Step after middle now →
        Step now label next → next.pipes index = now.pipes index ∨ label = .called index ∨
          next.movesLeft index < now.movesLeft index := by
  have there := event.pipes_of_connection connection allocated
  rw [connections_append, connections_cons, if_pos connection] at few
  have outdated : Outdated index (connections late) after := by
    obtain ⟨port, pipes⟩ := AllocatedBy.initial.run before
    obtain ⟨generation, earlier, from_it⟩ := pipes index slot allocated
    refine ⟨slot, generation, connections early + 1, there, from_it, ?_, by omega, by omega⟩
    rw [event.connectionGeneration, port, if_pos connection, ← UInt32.ofNat_add, Nat.zero_add]
  refine ⟨(Outdated.run (by rwa [Nat.zero_add]) later).2.1, ?_, ?_⟩
  · rintro middle result rest rfl
    obtain ⟨returning, _, toIt, returns, -⟩ := later.around
    rw [connections_append, Nat.add_comm (connections middle)] at outdated
    obtain ⟨slotThen, _, _, slotThere, -⟩ := (outdated.run toIt).1
    have settled := returns.settled_of_returned slotThere
    refine (outdated.settled_throughout toIt settled).imp_right ?_
    rintro ⟨notOperated, pipe, request, settledAfter⟩
    exact ⟨notOperated, pipe, request, allocated.trans (there.symm.trans settledAfter)⟩
  · rintro middle label rest now next rfl toNow step
    rw [connections_append, Nat.add_comm (connections middle)] at outdated
    exact (outdated.run toNow).1.movesLeft_lt step

/-! ### A run -/

/-- A pipe for a bulk OUT endpoint of the device with address 1. -/
def bulkOut : AllocRequest :=
  { epType := .bulk
    direction := .outward
    deviceAddress := 1
    endpoint := { addr := 1, epType := .bulk, maxPacketSize := 64, intervalMs := 0 }
    split := false }

/-- The trace of an attachment. -/
def attachment : List Effect :=
  [.silent, .silent, .silent, .resetMarked 0, .activityBegan 0, .silent, .published 0 .full,
    .activityEnded 0, .resetEnded 0, .silent]

/-- The host with a full-speed device attached. -/
def attached (resets : Nat → Option ResetTask) : PioHostState :=
  { shared :=
      { port :=
          { connected := true, speed := some .full, connectionGeneration := 1, resetGeneration := 2 }
        pendingEvents := { destructive := none, connected := some .full }
        resetInProgress := false }
    eventWake := true
    engine := none
    pipes := fun _ => none
    resets
    reporters := 0
    consumer := .taking }

theorem attachment_run : ∃ resets,
    Run Step .initial attachment (attached resets) ∧ resets 1 = none :=
  ⟨_, .cons (.startConnect 0 .full rfl)
        (.cons (.reset 0 rfl .lock)
        (.cons (.reset 0 rfl (.drive rfl))
        (.cons (.reset 0 rfl .mark)
        (.cons (.reset 0 rfl .begin)
        (.cons (.reset 0 rfl (.settle (.ok ())))
        (.cons (.reset 0 rfl (.publish rfl))
        (.cons (.reset 0 rfl .endPublished)
        (.cons (.reset 0 rfl .release)
        (.single (.reset 0 rfl .signal)))))))))), rfl⟩

/-- The engine may return at any time, and the request on an outdated pipe then ends. -/
theorem operation_ends {pipe : PioHostPipe} {request : PipeRequest}
    (current : first.pipes index = some { pipe, request := some (request, .operating) })
    (invalid : pipe.checkValid first.shared.port = .error .disconnected) :
    ∃ last, Run Step first
      [.operationReturned index, .silent, .silent, .returned index (fail .disconnected)] last :=
  ⟨_, .cons (.pipe index current (.operated pipe.dataToggle (.failed request .timeout)))
        (.cons (.pipe index (Function.update_self ..) .serviced)
        (.cons (.pipe index (Function.update_self ..) (.unlockedInvalid invalid))
        (.single (.pipe index (Function.update_self ..) .returns))))⟩

/-- The device detaches while a packet is on the wire. -/
theorem detach_invalidates_in_flight :
    ∃ state after last, (∃ slot, state.pipes 0 = some slot) ∧
      Run Step .initial
        (attachment ++ [.allocated 0, .called 0, .silent, .silent, .operationStarted 0]) state ∧
      Step state (.reported .disconnected) after ∧
      Run Step after [.operationReturned 0, .silent, .silent, .returned 0 (fail .disconnected)] last ∧
      ∀ middle result rest,
        [.operationReturned 0, .silent, .silent, .returned 0 (fail .disconnected)] =
            middle ++ Effect.returned 0 result :: rest →
          result = fail .disconnected ∨
            .operationReturned 0 ∉ middle ∧ state.SettledWith 0 result := by
  obtain ⟨resets, attaching, -⟩ := attachment_run
  obtain ⟨state, pipe, request, running, current⟩ : ∃ state pipe request,
      Run Step (attached resets) [.allocated 0, .called 0, .silent, .silent, .operationStarted 0]
        state ∧
      state.pipes 0 = some { pipe, request := some (request, .operating) } :=
    ⟨_, _, _, .cons (.alloc 0 bulkOut rfl rfl)
        (.cons (.pipe 0 rfl (.call (.requestOut [0] false) rfl))
        (.cons (.pipe 0 rfl (.due rfl))
        (.cons (.pipe 0 rfl .lock)
        (.single (.pipe 0 rfl (.operate rfl)))))), rfl⟩
  let after : PioHostState :=
    { state.after (.reported .disconnected) with reporters := state.reporters + 1 }
  have report : Step state (.reported .disconnected) after := .reportDisconnected
  have onWire : after.pipes 0 = some { pipe, request := some (request, .operating) } := current
  obtain ⟨last, ending⟩ := operation_ends onWire rfl
  exact ⟨state, after, last, ⟨_, current⟩, attaching.append running, report, ending,
    (detach_invalidates (attaching.append running) current report rfl ending (by decide)).2.1⟩

end PioUsbHost.Host
