/-
**Where a connection comes from.**

`reset_and_report_connected` remembers the connection generation when it is called, waits for the
engine, resets the bus, and publishes the connection only if the generation is still the same.

* `call_of_reset`: a reset in progress was called earlier, and its generation is the one of that moment.
* `speedRight_run`: it drives the speed it was called with.
* `publication_spec`: who marks the port connected and pushes a connection, and when.
-/

import PioUsbHost.Host.Detach
import PioUsbHost.Host.EngineLock
import PioUsbHost.Host.Events

namespace PioUsbHost.Host

open PioUsbHost.Usb PioUsbHost.Lib PioUsbHost.Lib.Panic

variable {first second last : PioHostState} {effect : Effect} {index : Nat} {trace : List Effect}

/-! ### The call of a reset -/

/-- A reset keeps its kind. -/
theorem kind_run {task : ResetTask} (run : Run Step first trace last)
    (there : first.resets index = some task) :
    ∃ later, last.resets index = some later ∧ later.kind = task.kind := by
  refine Run.preserves (fun state => ∃ later, state.resets index = some later ∧
    later.kind = task.kind) ?_ run ⟨task, there, rfl⟩
  rintro before label after step ⟨current, found, same⟩
  rcases step.task_cases found with ⟨unchanged, -⟩ | ⟨phase, engine, signals, moved, -⟩
  · exact ⟨current, unchanged, same⟩
  · exact ⟨_, moved, same⟩

/-- The call of `reset_and_report_connected(speed)`, as the reset with this index. -/
structure Calls (index : Nat) (speed : BusSpeed) (called started : PioHostState) : Prop where
  fresh : called.resets index = none
  call : started.resets index = some
    { kind := .connect speed called.shared.port.connectionGeneration, phase := .engineLock }

/-- **A reset that reports a connection was called**, and remembers the generation of that moment. -/
theorem call_of_reset {phase : ResetPhase} {speed : BusSpeed} {generation : UInt32}
    (run : Run Step first trace last) (absent : first.resets index = none)
    (there : last.resets index = some { kind := .connect speed generation, phase }) :
    ∃ before called started since,
      Run.Passes Step first trace last before called .silent started since ∧
        Calls index speed called started ∧
        generation = called.shared.port.connectionGeneration := by
  obtain ⟨before, called, label, started, since, passes, out, ⟨fresh, found⟩⟩ :=
    Run.crossing (fun state => ∃ fresh, state.resets index = some fresh) run
      (by rintro ⟨_, impossible⟩; cases absent.symm.trans impossible) ⟨_, there⟩
  obtain ⟨later, there', same⟩ := kind_run passes.rest found
  cases there.symm.trans there'
  rcases passes.step.task_origin found with ⟨earlier, was, -⟩ | ⟨engineLock, none, rfl, remembers⟩
  · exact absurd ⟨earlier, was⟩ out
  · have generation := remembers speed _ same.symm
    refine ⟨before, called, started, since, passes, ⟨none, ?_⟩, generation⟩
    obtain ⟨freshKind, freshPhase⟩ := fresh
    cases same
    cases engineLock
    rw [found, ← generation]

/-! ### The speed of a reset -/

/-- A reset that reports a connection drives the speed it was called with. -/
def ResetTask.SpeedRight (task : ResetTask) : Prop :=
  ∀ speed generation, task.kind = .connect speed generation →
    ∀ driven, task.phase = .driving driven ∨ task.phase = .marked driven ∨
      task.phase = .resetting driven → driven = speed

section Moves

variable {port : PortState} {kind : ResetKind} {engine owner : Option EngineOwner}
  {phase after : ResetPhase} {signals : Bool}

theorem ResetMove.speedRight
    (move : ResetMove index port kind engine phase effect after owner signals)
    (right : ResetTask.SpeedRight { kind, phase }) : ResetTask.SpeedRight { kind, phase := after } := by
  intro speed generation connect driven phases
  cases move with
  | drive found =>
    simp only at connect
    subst connect
    rcases phases with same | same | same <;> cases same
    exact (Option.some.inj found).symm
  | mark =>
    rcases phases with same | same | same <;> cases same
    exact right speed generation connect driven (.inl rfl)
  | begin =>
    rcases phases with same | same | same <;> cases same
    exact right speed generation connect driven (.inr (.inl rfl))
  | @release _ signal => cases signal <;> rcases phases with same | same | same <;> cases same
  | _ => rcases phases with same | same | same <;> cases same

/-- A publication comes from a bus reset that returned, in the generation of the call. -/
theorem ResetMove.of_published {reset : Nat} {speed : BusSpeed}
    (move : ResetMove index port kind engine phase (.published reset speed) after owner signals) :
    phase = .settled (.ok ()) ∧ after = .published true ∧
      kind = .connect speed port.connectionGeneration := by
  cases move with
  | publish same => exact ⟨rfl, rfl, same⟩

/-- What a bus reset returned, it returned while it was in progress. -/
theorem ResetMove.of_settled {result : Except PipeError Unit}
    (move : ResetMove index port kind engine phase effect after owner signals)
    (settled : after = .settled result) : ∃ speed, phase = .resetting speed ∧ effect = .silent := by
  cases move with
  | settle => exact ⟨_, rfl, rfl⟩
  | @release _ signal => cases signal <;> cases settled
  | _ => cases settled

/-- A reset has a disconnect to report once its bus reset returned that error. -/
theorem ResetMove.of_reporting {signal : Bool}
    (move : ResetMove index port kind engine phase effect after owner signals)
    (reporting : after = .inactive true signal) : phase = .settled (.error .disconnected) := by
  cases move with
  | @endFailed _ error =>
    have disconnected : decide (error = .disconnected) = true :=
      (ResetPhase.inactive.inj reporting).1
    rw [of_decide_eq_true disconnected]
  | @release _ signal => cases signal <;> cases reporting
  | _ => cases reporting

theorem ResetMove.notEnded
    (move : ResetMove index port kind engine .ended effect after owner signals) : False := by
  cases move

/-- The labels by which a reset changes the port's connection or the pending events. -/
theorem ResetMove.of_connection
    (move : ResetMove index port kind engine phase effect after owner signals)
    (connection : effect.isConnection = true) :
    (∃ speed, effect = .published index speed) ∨
      (effect = .reported .disconnected ∧ ∃ signal, phase = .inactive true signal) := by
  cases move with
  | publish => exact .inl ⟨_, rfl⟩
  | report => exact .inr ⟨rfl, _, rfl⟩
  | _ => cases connection

end Moves

/-- The phases after a publication. -/
def ResetPhase.AfterPublication : ResetPhase → Prop
  | published connected => connected = true
  | inactive report signal => report = false ∧ signal = true
  | signalling => True
  | ended => True
  | _ => False

theorem ResetMove.afterPublication {port : PortState} {kind : ResetKind}
    {engine owner : Option EngineOwner} {phase after : ResetPhase} {signals : Bool}
    (move : ResetMove index port kind engine phase effect after owner signals)
    (past : phase.AfterPublication ∨ ∃ speed, effect = .published index speed) :
    after.AfterPublication := by
  cases move with
  | publish => rfl
  | endPublished =>
    rcases past with past | ⟨_, impossible⟩
    · exact ⟨rfl, past⟩
    · cases impossible
  | release =>
    rcases past with ⟨-, rfl⟩ | ⟨_, impossible⟩
    · trivial
    · cases impossible
  | signal => trivial
  | report =>
    rcases past with ⟨impossible, -⟩ | ⟨_, impossible⟩ <;> cases impossible
  | _ => rcases past with impossible | ⟨_, impossible⟩ <;> cases impossible

/-- A reset that has published is in one of these phases. -/
theorem afterPublication_run {task : ResetTask} {speed : BusSpeed} (run : Run Step first trace last)
    (published : .published index speed ∈ trace) (there : last.resets index = some task) :
    task.phase.AfterPublication := by
  obtain ⟨early, late, rfl⟩ := List.append_of_mem published
  obtain ⟨before, after, -, step, rest⟩ := run.around
  obtain ⟨_, phase, _, _, -, moved, move⟩ := step.reset_of_label rfl
  have past : ∃ task, last.resets index = some task ∧ task.phase.AfterPublication := by
    refine Run.preserves (fun state => ∃ task, state.resets index = some task ∧
      task.phase.AfterPublication) ?_ rest ⟨_, moved, move.afterPublication (.inr ⟨speed, rfl⟩)⟩
    rintro first label second step ⟨task, found, past⟩
    rcases step.task_cases found with ⟨same, -⟩ | ⟨_, _, _, moved, move⟩
    · exact ⟨task, same, past⟩
    · exact ⟨_, moved, move.afterPublication (.inl past)⟩
  obtain ⟨found, there', past⟩ := past
  cases there.symm.trans there'
  exact past

/-- A reset that has ended publishes nothing any more. -/
theorem ended_run {task : ResetTask} (run : Run Step first trace last)
    (there : first.resets index = some task) (ended : task.phase = .ended) (speed : BusSpeed) :
    .published index speed ∉ trace := by
  intro published
  obtain ⟨early, late, rfl⟩ := List.append_of_mem published
  obtain ⟨before, after, start, step, -⟩ := run.around
  have stays : ∃ task, before.resets index = some task ∧ task.phase = .ended := by
    refine Run.preserves (fun state => ∃ task, state.resets index = some task ∧
      task.phase = .ended) ?_ start ⟨task, there, ended⟩
    rintro first label second step ⟨task, found, ended⟩
    rcases step.task_cases found with ⟨same, -⟩ | ⟨_, _, _, moved, move⟩
    · exact ⟨task, same, ended⟩
    · rw [ended] at move
      exact move.notEnded.elim
  obtain ⟨_, _, _, _, was, -, move⟩ := step.reset_of_label rfl
  obtain ⟨found, there', ended⟩ := stays
  cases was.symm.trans there'
  rw [ended] at move
  exact move.notEnded

/-! ### What the engine's reset returns -/

/-- The engine's `bus_reset(speed)` returns to the reset, which holds the engine. -/
structure Returns (index : Nat) (speed : BusSpeed) (result : Except PipeError Unit)
    (before after : PioHostState) : Prop where
  holds : before.engine = some (.reset index)
  resetting : ∃ kind, before.resets index = some { kind, phase := .resetting speed }
  settled : ∃ kind, after.resets index = some { kind, phase := .settled result }

theorem speedRight_run (run : Run Step .initial trace last) :
    ∀ index task, last.resets index = some task → task.SpeedRight := by
  refine Run.preserves (fun state => ∀ index task, state.resets index = some task →
    task.SpeedRight) ?_ run (fun _ _ impossible => by cases impossible)
  intro before label after step right index task there
  rcases step.task_origin there with ⟨earlier, was, -⟩ | ⟨fresh, -⟩
  · rcases step.task_cases was with ⟨same, -⟩ | ⟨_, _, _, moved, move⟩
    · cases same.symm.trans there
      exact right index _ was
    · cases moved.symm.trans there
      exact move.speedRight (right index _ was)
  · rintro speed generation - driven (same | same | same) <;> cases fresh.symm.trans same

/-- **A settled reset has its result from the engine**, while it held the engine. -/
theorem returned_before {kind : ResetKind} {result : Except PipeError Unit} {earlier : List Effect}
    (reached : Run Step .initial earlier first) (run : Run Step first trace last)
    (outside : ∀ kind, first.resets index ≠ some { kind, phase := .settled result })
    (there : last.resets index = some { kind, phase := .settled result }) :
    ∃ early before after late speed,
      Run.Passes Step first trace last early before .silent after late ∧
        Returns index speed result before after ∧
        ∀ called generation, kind = .connect called generation → speed = called := by
  obtain ⟨early, before, label, after, late, passes, out, ⟨settledKind, settled⟩⟩ :=
    Run.crossing (fun state => ∃ kind, state.resets index = some { kind, phase := .settled result })
      run (fun ⟨kind, impossible⟩ => outside kind impossible) ⟨kind, there⟩
  obtain ⟨later, there', same⟩ := kind_run passes.rest settled
  cases there.symm.trans there'
  rcases passes.step.task_origin settled with ⟨task, was, -⟩ | ⟨impossible, -⟩
  · rcases passes.step.task_cases was with ⟨unchanged, -⟩ | ⟨phase, _, _, moved, move⟩
    · cases unchanged.symm.trans settled
      exact absurd ⟨settledKind, was⟩ out
    · cases moved.symm.trans settled
      obtain ⟨speed, resetting, rfl⟩ := move.of_settled rfl
      obtain ⟨taskKind, taskPhase⟩ := task
      cases resetting
      have reachable := reached.append passes.start
      refine ⟨early, before, after, late, speed, passes, ⟨?_, ⟨taskKind, was⟩, ⟨taskKind, settled⟩⟩, ?_⟩
      · exact exclusive_of_run reachable (.reset index) ⟨_, was, trivial⟩
      · intro called generation connect
        exact speedRight_run reachable index _ was called generation (same.symm.trans connect) speed
          (.inr (.inr rfl))
  · cases impossible

/-! ### Publications -/

/-- **What marks the port connected.** Any other step than a publication leaves the connection flag, the
speed and the pending connection as they are, or clears them with a report. -/
theorem Step.port_connection (step : Step first effect second) :
    (∃ reset speed, effect = .published reset speed ∧ second.shared.port.connected = true ∧
        second.shared.port.speed = some speed ∧
        second.shared.pendingEvents.connected = some speed) ∨
      (∃ event, effect = .reported event ∧ (event = .disconnected ∨ event = .overcurrent) ∧
        second.shared.port.connected = false ∧ second.shared.port.speed = none ∧
        second.shared.pendingEvents.connected = none) ∨
      (effect.isConnection = false ∧ second.shared.port.connected = first.shared.port.connected ∧
        second.shared.port.speed = first.shared.port.speed ∧
        (second.shared.pendingEvents.connected = first.shared.pendingEvents.connected ∨
          second.shared.pendingEvents.connected = none)) := by
  rw [step.shared]
  cases effect with
  | published reset speed => exact .inl ⟨reset, speed, rfl, rfl, rfl, rfl⟩
  | reported event =>
    refine .inr (.inl ⟨event, rfl, step.of_reported, rfl, rfl, ?_⟩)
    rcases step.of_reported with rfl | rfl <;> rfl
  | taken event =>
    refine .inr (.inr ⟨rfl, rfl, rfl, ?_⟩)
    obtain ⟨⟨_, ⟨destructive, connected⟩, _⟩, _⟩ := first
    cases destructive
    · exact .inr rfl
    · exact .inl rfl
  | _ => exact .inr (.inr ⟨rfl, rfl, rfl, .inl rfl⟩)

variable {early late : List Effect} {before after : PioHostState}

/-- **Who publishes a connection.** -/
theorem published_by {speed : BusSpeed} (few : connections trace < UInt32.size)
    (passes : Run.Passes Step .initial trace last early before (.published index speed) after late) :
    before.engine = some (.reset index) ∧ ∃ earlier called started since,
      Run.Passes Step .initial early before earlier called .silent started since ∧
      Calls index speed called started ∧ connections since = 0 ∧
      ∃ waiting returning returned between,
        Run.Passes Step started since before waiting returning .silent returned between ∧
        Returns index speed (.ok ()) returning returned := by
  obtain ⟨⟨kind, phase⟩, _, _, _, was, -, move⟩ := passes.step.reset_of_label rfl
  obtain ⟨settled, -, connect⟩ := move.of_published
  cases settled
  cases connect
  refine ⟨exclusive_of_run passes.start (.reset index) ⟨_, was, trivial⟩, ?_⟩
  obtain ⟨earlier, called, started, since, calling, call, same⟩ :=
    call_of_reset passes.start rfl was
  refine ⟨earlier, called, started, since, calling, call, ?_, ?_⟩
  · have still : started.shared.port = called.shared.port := by rw [calling.step.shared]; rfl
    have counted := connectionGeneration_run calling.rest
    rw [still, ← same] at counted
    have whole : UInt32.size ∣ connections since := add_ofNat_eq_self_iff.mp counted.symm
    by_contra positive
    have bound := Nat.le_of_dvd (Nat.pos_of_ne_zero positive) whole
    rw [passes.split, calling.split] at few
    simp only [connections, List.countP_append, List.countP_cons] at few bound
    omega
  · obtain ⟨waiting, returning, returned, between, speed', inside, returns, right⟩ :=
      returned_before (calling.start.append (.single calling.step)) calling.rest
        (fun kind impossible => by cases call.call.symm.trans impossible) was
    cases right speed _ rfl
    exact ⟨waiting, returning, returned, between, inside, returns⟩

/-- **Only publications mark the port connected.** -/
theorem unpublished_unchanged (step : Step before effect after)
    (other : ∀ reset speed, effect ≠ .published reset speed) :
    (after.shared.port.connected = before.shared.port.connected ∧
        after.shared.port.speed = before.shared.port.speed ∨
      (∃ event, effect = .reported event) ∧
        after.shared.port.connected = false ∧ after.shared.port.speed = none) ∧
    (after.shared.pendingEvents.connected = before.shared.pendingEvents.connected ∨
      after.shared.pendingEvents.connected = none) := by
  rcases step.port_connection with
    ⟨reset, speed, same, -⟩ | ⟨event, same, -, connected, speed, pending⟩ |
    ⟨-, connected, speed, pending⟩
  · exact absurd same (other reset speed)
  · exact ⟨.inr ⟨⟨event, same⟩, connected, speed⟩, .inr pending⟩
  · exact ⟨.inl ⟨connected, speed⟩, pending⟩

/-- **A call that ends without having published** never publishes. -/
theorem unpublished_of_ended {task ended : ResetTask}
    (passes : Run.Passes Step .initial trace last early before effect after late)
    (was : before.resets index = some task) (unpublished : ¬ task.phase.AfterPublication)
    (there : after.resets index = some ended) (done : ended.phase = .ended) (speed : BusSpeed) :
    .published index speed ∉ trace := by
  rw [passes.split]
  intro published
  rcases List.mem_append.mp published with published | published
  · exact unpublished (afterPublication_run passes.start published was)
  · rcases List.mem_cons.mp published with rfl | published
    · obtain ⟨_, _, _, _, -, moved, move⟩ := passes.step.reset_of_label rfl
      cases moved.symm.trans there
      cases done.symm.trans move.of_published.2.1
    · exact ended_run passes.rest there done speed published

/-- A reset that has a disconnect to report got it from its own bus reset. -/
theorem reporting_before {kind : ResetKind} {signal : Bool} (run : Run Step .initial trace last)
    (there : last.resets index = some { kind, phase := .inactive true signal }) :
    ∃ waiting returning returned between speed,
      Run.Passes Step .initial trace last waiting returning .silent returned between ∧
      Returns index speed (.error .disconnected) returning returned := by
  obtain ⟨early, before, label, after, late, passes, out, ⟨_, _, reporting⟩⟩ :=
    Run.crossing (fun state => ∃ kind signal,
      state.resets index = some { kind, phase := .inactive true signal }) run
      (fun ⟨_, _, impossible⟩ => by cases impossible) ⟨kind, signal, there⟩
  rcases passes.step.task_origin reporting with ⟨task, was, -⟩ | ⟨impossible, -⟩
  · rcases passes.step.task_cases was with ⟨unchanged, -⟩ | ⟨phase, _, _, moved, move⟩
    · cases unchanged.symm.trans reporting
      exact absurd ⟨_, _, was⟩ out
    · cases moved.symm.trans reporting
      obtain ⟨taskKind, taskPhase⟩ := task
      cases move.of_reporting rfl
      obtain ⟨waiting, returning, returned, between, speed, inside, returns, -⟩ :=
        returned_before (.nil _) passes.start (fun _ => nofun) was
      exact ⟨waiting, returning, returned, _, speed,
        passes.split ▸ inside.onward (.cons passes.step passes.rest), returns⟩
  · cases impossible

/-- **What else a call does to the port's connection** and to the pending events. -/
theorem unpublished_report {task : ResetTask}
    (passes : Run.Passes Step .initial trace last early before effect after late)
    (was : before.resets index = some task) (moves : after.resets index ≠ some task)
    (other : ∀ speed, effect ≠ .published index speed) :
    (after.shared.port.connected = before.shared.port.connected ∧
        after.shared.port.speed = before.shared.port.speed ∧
        after.shared.pendingEvents = before.shared.pendingEvents) ∨
      effect = .reported .disconnected ∧ ∃ waiting returning returned between speed,
        Run.Passes Step .initial early before waiting returning .silent returned between ∧
        Returns index speed (.error .disconnected) returning returned := by
  rcases passes.step.task_cases was with ⟨same, -⟩ | ⟨phase, _, _, -, move⟩
  · exact absurd same moves
  cases connection : effect.isConnection with
  | true =>
    rcases move.of_connection connection with ⟨speed, same⟩ | ⟨same, signal, reporting⟩
    · exact absurd same (other speed)
    · obtain ⟨kind, _⟩ := task
      cases reporting
      exact .inr ⟨same, reporting_before passes.start was⟩
  | false =>
    refine .inl ?_
    have pending := passes.step.pending_unchanged connection fun event taken => by
      subst taken
      exact move.notTaken
    rcases passes.step.port_connection with ⟨_, _, rfl, -⟩ | ⟨_, rfl, -⟩ | ⟨-, connected, speed, -⟩
    · cases connection
    · cases connection
    · exact ⟨connected, speed, pending⟩

/-- **No stale connection.** In every run with fewer than 2³² connection events:

* a connection is published by a `reset_and_report_connected` that was called with its speed, whose
  engine `bus_reset` at this speed has returned `Ok` while it held the engine, and since whose call
  nothing was reported and no connection published;
* no other step marks the port connected, changes its speed or pushes a connection;
* a call that ends without having published never publishes;
* of its own, a call that has not published changes the port's connection and the pending events only to
  report a disconnect that its engine `bus_reset` has returned. -/
theorem publication_spec (few : connections trace < UInt32.size) :
    (∀ {early late speed now next},
      Run.Passes Step .initial trace last early now (.published index speed) next late →
        now.engine = some (.reset index) ∧ ∃ before called started since,
          Run.Passes Step .initial early now before called .silent started since ∧
          Calls index speed called started ∧ connections since = 0 ∧
          ∃ waiting returning returned between,
            Run.Passes Step started since now waiting returning .silent returned between ∧
            Returns index speed (.ok ()) returning returned) ∧
    (∀ {early late effect before after},
      Run.Passes Step .initial trace last early before effect after late →
        (∀ reset speed, effect ≠ .published reset speed) →
          (after.shared.port.connected = before.shared.port.connected ∧
              after.shared.port.speed = before.shared.port.speed ∨
            (∃ event, effect = .reported event) ∧
              after.shared.port.connected = false ∧ after.shared.port.speed = none) ∧
          (after.shared.pendingEvents.connected = before.shared.pendingEvents.connected ∨
            after.shared.pendingEvents.connected = none)) ∧
    (∀ {early late effect before after task ended},
      Run.Passes Step .initial trace last early before effect after late →
        before.resets index = some task → ¬ task.phase.AfterPublication →
          after.resets index = some ended → ended.phase = .ended →
            ∀ speed, .published index speed ∉ trace) ∧
    ∀ {early late effect before after task},
      Run.Passes Step .initial trace last early before effect after late →
        before.resets index = some task → after.resets index ≠ some task →
          (∀ speed, effect ≠ .published index speed) →
            (after.shared.port.connected = before.shared.port.connected ∧
                after.shared.port.speed = before.shared.port.speed ∧
                after.shared.pendingEvents = before.shared.pendingEvents) ∨
              effect = .reported .disconnected ∧ ∃ waiting returning returned between speed,
                Run.Passes Step .initial early before waiting returning .silent returned between ∧
                Returns index speed (.error .disconnected) returning returned := by
  exact ⟨published_by few, fun passes => unpublished_unchanged passes.step, unpublished_of_ended,
    unpublished_report⟩

/-- The attachment of a full-speed device. -/
theorem publication_spec_attachment :
    ∃ early now next late last,
      Run.Passes Step .initial attachment last early now (.published 0 .full) next late ∧
      now.engine = some (.reset 0) ∧ ∃ before called started since,
        Run.Passes Step .initial early now before called .silent started since ∧
        Calls 0 .full called started ∧ connections since = 0 := by
  obtain ⟨resets, run, -⟩ := attachment_run
  have split : attachment =
      [.silent, .silent, .silent, .resetMarked 0, .activityBegan 0, .silent] ++
        .published 0 .full :: [.activityEnded 0, .resetEnded 0, .silent] := rfl
  rw [split] at run
  obtain ⟨now, next, start, publishes, rest⟩ := run.around
  have passes : Run.Passes Step .initial attachment _ _ now (.published 0 .full) next _ :=
    ⟨split, start, publishes, rest⟩
  obtain ⟨holds, before, called, started, since, calling, call, quiet, -⟩ :=
    (publication_spec (by decide)).1 passes
  exact ⟨_, now, next, _, _, passes, holds, before, called, started, since, calling, call, quiet⟩

/-- **A call whose bus reset returns that the device is gone** disconnects the port by itself. -/
theorem failed_call_disconnects :
    ∃ resets before after, Run Step .initial attachment (attached resets) ∧
      Run Step (attached resets) [.silent, .silent, .silent, .resetMarked 1, .activityBegan 1, .silent,
        .activityEnded 1] before ∧
      before.resets 1 = some { kind := .connect .full 1, phase := .inactive true false } ∧
      before.shared.port.connected = true ∧ before.shared.port.speed = some .full ∧
      Step before (.reported .disconnected) after ∧
      after.resets 1 = some { kind := .connect .full 1, phase := .reported } ∧
      after.shared.port.connected = false ∧ after.shared.port.speed = none ∧
      connections (attachment ++ [.silent, .silent, .silent, .resetMarked 1, .activityBegan 1, .silent,
        .activityEnded 1, .reported .disconnected]) < UInt32.size := by
  obtain ⟨resets, run, free⟩ := attachment_run
  obtain ⟨before, after, failing, rest⟩ : ∃ before after,
      Run Step (attached resets) [.silent, .silent, .silent, .resetMarked 1, .activityBegan 1, .silent,
        .activityEnded 1] before ∧
      before.resets 1 = some { kind := .connect .full 1, phase := .inactive true false } ∧
      before.shared.port.connected = true ∧ before.shared.port.speed = some .full ∧
      Step before (.reported .disconnected) after ∧
      after.resets 1 = some { kind := .connect .full 1, phase := .reported } ∧
      after.shared.port.connected = false ∧ after.shared.port.speed = none :=
    ⟨_, _,
      .cons (.startConnect 1 .full free)
      (.cons (.reset 1 rfl .lock)
      (.cons (.reset 1 rfl (.drive rfl))
      (.cons (.reset 1 rfl .mark)
      (.cons (.reset 1 rfl .begin)
      (.cons (.reset 1 rfl (.settle (.error .disconnected)))
      (.single (.reset 1 rfl .endFailed))))))),
      rfl, rfl, rfl, .reset 1 rfl .report, rfl, rfl, rfl⟩
  obtain ⟨failed, connected, speed, report, reported, disconnected, cleared⟩ := rest
  exact ⟨resets, before, after, run, failing, failed, connected, speed, report, reported, disconnected,
    cleared, by decide⟩

end PioUsbHost.Host
