/-
**A bus reset and the addressed pipes.**

A bus reset moves the port to its next reset generation when it starts, and an addressed pipe remembers
the one it was allocated under. A pipe allocated later, while the reset is still in progress, remembers
the new one already.

* `valid_iff`: an addressed pipe is valid as long as the port is connected and neither generation has
  moved since its allocation, up to a whole turn of both counters.
* `resets_of_open`: while a reset is open, no other reset starts.
* `bus_reset_kills_iff`: when a bus reset kills an addressed pipe.
-/

import PioUsbHost.Host.Detach
import PioUsbHost.Host.EngineLock

namespace PioUsbHost.Host

open PioUsbHost.Usb PioUsbHost.Pipe PioUsbHost.Lib PioUsbHost.Lib.Panic

variable {first second last : PioHostState} {effect : Effect} {index : Nat}

/-! ### Addressed pipes -/

/-- The pipe passes its check. -/
def PioHostState.Valid (state : PioHostState) (index : Nat) : Prop :=
  ∃ slot, state.pipes index = some slot ∧ slot.pipe.checkValid state.shared.port = .ok ()

/-- Engine operations start on valid pipes only. -/
theorem Step.valid_of_started (step : Step first (.operationStarted index) second) :
    first.Valid index := by
  cases step with
  | pipe other current move =>
    rcases move.label.1 with impossible | own
    · cases impossible
    · cases own
      exact ⟨_, current, move.valid_of_started⟩
  | reset other current move => cases move.label.1

/-- A pipe stays where it is, with its target and its generations. -/
theorem pipe_run {pipe : PioHostPipe} {trace : List Effect} (run : Run Step first trace last)
    (there : ∃ slot, first.pipes index = some slot ∧
      slot.pipe = { pipe with dataToggle := slot.pipe.dataToggle }) :
    ∃ slot, last.pipes index = some slot ∧
      slot.pipe = { pipe with dataToggle := slot.pipe.dataToggle } := by
  refine Run.preserves (fun state => ∃ slot, state.pipes index = some slot ∧
    slot.pipe = { pipe with dataToggle := slot.pipe.dataToggle }) ?_ run there
  rintro before label after step ⟨slot, current, same⟩
  rcases step.slot_cases current with ⟨unchanged, -⟩ | ⟨next, engine, moved, move⟩
  · exact ⟨slot, unchanged, same⟩
  · refine ⟨next, moved, ?_⟩
    rw [move.samePipe, same]

/-- What an allocation leaves. -/
theorem Step.of_allocated (step : Step first (.allocated index) second) :
    first.shared.port.connected = true ∧ second.shared.port = first.shared.port ∧
      ∃ slot, second.pipes index = some slot ∧
        slot.pipe.connectionGeneration = second.shared.port.connectionGeneration ∧
          slot.pipe.resetGeneration = second.shared.port.resetGeneration := by
  cases step with
  | alloc _ request fresh allocated =>
    obtain ⟨connected, -, connection, reset⟩ := allocPipe_eq_ok allocated
    exact ⟨connected, rfl, _, Function.update_self _ _ _, connection, reset⟩
  | pipe other current move => exact move.notAllocated.elim
  | reset other current move => exact move.notAllocated.elim

/-- **When an addressed pipe is valid**: while the port is connected and each generation has moved by a
whole turn of its counter, or not at all, since the allocation. -/
theorem valid_iff {state : PioHostState} {slot : PipeSlot} {trace : List Effect}
    (allocated : Step state (.allocated index) first) (current : first.pipes index = some slot)
    (addressed : slot.pipe.target.deviceAddress ≠ 0) (run : Run Step first trace last) :
    last.Valid index ↔ last.shared.port.connected = true ∧
      UInt32.size ∣ connections trace ∧ UInt32.size ∣ resetAdvances trace := by
  obtain ⟨-, -, slot', there, connection, reset⟩ := allocated.of_allocated
  cases current.symm.trans there
  obtain ⟨slotNow, now, same⟩ := pipe_run run ⟨slot, current, rfl⟩
  have check : slotNow.pipe.checkValid last.shared.port = .ok () ↔
      last.shared.port.connected = true ∧
        UInt32.size ∣ connections trace ∧ UInt32.size ∣ resetAdvances trace := by
    rw [same, checkValid_eq_ok, connectionGeneration_run run, resetGeneration_run run]
    show _ ∧ _ = slot.pipe.connectionGeneration ∧
      (slot.pipe.target.deviceAddress = 0 ∨ _ = slot.pipe.resetGeneration) ↔ _
    rw [connection, reset, add_ofNat_eq_self_iff, add_ofNat_eq_self_iff, or_iff_right addressed]
  constructor
  · rintro ⟨found, there, valid⟩
    cases now.symm.trans there
    exact check.mp valid
  · exact fun counts => ⟨slotNow, now, check.mpr counts⟩

/-- The port stays connected without a connection event. -/
theorem connected_run {trace : List Effect} (run : Run Step first trace last)
    (quiet : connections trace = 0) (connected : first.shared.port.connected = true) :
    last.shared.port.connected = true := by
  have clear : ∀ label ∈ trace, ¬ label.isConnection = true := List.countP_eq_zero.mp quiet
  refine Run.preserves_unless (fun state => state.shared.port.connected = true)
    (fun label => label.isConnection = true) ?_ run clear connected
  intro before label after step other was
  rw [step.shared]
  cases label <;> first | exact was | exact absurd rfl other

/-! ### Open resets -/

/-- The reset has marked the port and still holds the engine. -/
def PioHostState.ResetOpen (state : PioHostState) (index : Nat) : Prop :=
  ∃ task, state.resets index = some task ∧ task.phase.Open

theorem ResetPhase.Open.holdsEngine {phase : ResetPhase} (inside : phase.Open) :
    phase.HoldsEngine := by
  cases phase <;> first | exact trivial | exact inside

section Moves

variable {port : PortState} {kind : ResetKind} {engine owner : Option EngineOwner}
  {phase next : ResetPhase} {signals : Bool}

/-- A reset opens when it marks the port. -/
theorem ResetMove.marks (move : ResetMove index port kind engine phase effect next owner signals)
    (before : ¬ phase.Open) (opened : next.Open) : effect = .resetMarked index := by
  cases move with
  | mark => rfl
  | lock | drive | skip | signal | dropWaiting => exact opened.elim
  | _ => exact absurd trivial before

/-- A reset marks the port once it has the engine. -/
theorem ResetMove.driving_of_marked {reset : Nat}
    (move : ResetMove index port kind engine phase (.resetMarked reset) next owner signals) :
    ∃ speed, phase = .driving speed := by
  cases move
  exact ⟨_, rfl⟩

/-- A reset is open up to its end. -/
theorem ResetMove.open_of_ended {reset : Nat}
    (move : ResetMove index port kind engine phase (.resetEnded reset) next owner signals) :
    phase.Open := by
  cases move
  trivial

end Moves

theorem Step.opens (step : Step first effect second) (before : ¬ first.ResetOpen index)
    (opened : second.ResetOpen index) : effect = .resetMarked index := by
  obtain ⟨task, there, inside⟩ := opened
  rcases step.task_origin there with ⟨found, was, -⟩ | ⟨fresh, -⟩
  · rcases step.task_cases was with ⟨same, -⟩ | ⟨phase, engine, signals, moved, move⟩
    · exact absurd ⟨task, was.trans (same.symm.trans there), inside⟩ before
    · cases moved.symm.trans there
      exact move.marks (fun wasOpen => before ⟨found, was, wasOpen⟩) inside
  · rw [fresh] at inside
    exact inside.elim

/-- **While a reset is open, no other reset starts.** -/
theorem resets_of_open {trace : List Effect} (run : Run Step first trace last)
    (exclusive : Exclusive first.Holds first.engine) (opened : last.ResetOpen index)
    (unmarked : .resetMarked index ∉ trace) : resets trace = 0 := by
  refine List.countP_eq_zero.mpr fun label member isReset => ?_
  obtain ⟨early, late, rfl⟩ := List.append_of_mem member
  obtain ⟨before, start, rest⟩ := run.split
  have wasOpen : before.ResetOpen index := by
    by_contra closed
    obtain ⟨entry, there, rfl⟩ := Run.enters (fun state => state.ResetOpen index)
      (fun label => label = .resetMarked index) (fun step => step.opens) rest closed opened
    exact unmarked (List.mem_append_right _ there)
  have alone := Run.preserves (fun state => Exclusive state.Holds state.engine)
    (fun step exclusive => exclusive.move step.mutex) start exclusive
  obtain ⟨task, there, inside⟩ := wasOpen
  cases rest with
  | cons step _ =>
    cases label <;> try cases isReset
    rename_i other
    obtain ⟨marking, _, _, _, found, -, move⟩ := step.reset_of_label rfl
    obtain ⟨speed, driving⟩ := move.driving_of_marked
    have same : EngineOwner.reset other = .reset index :=
      alone.unique ⟨marking, found, by rw [driving]; trivial⟩ ⟨task, there, inside.holdsEngine⟩
    cases same
    exact unmarked member

/-- Without a connection event only resets advance the reset generation. -/
theorem resetAdvances_eq_resets {trace : List Effect} (quiet : connections trace = 0) :
    resetAdvances trace = resets trace := by
  refine List.countP_congr fun label member => ?_
  have other := List.countP_eq_zero.mp quiet label member
  cases label <;> first | exact Iff.rfl | exact absurd rfl other

/-- A trace with a reset and without a connection event leaves the reset generation changed, unless
it wraps around. -/
theorem not_dvd_resetAdvances {trace : List Effect} {reset : Nat}
    (quiet : connections trace = 0) (marked : .resetMarked reset ∈ trace)
    (few : resets trace < UInt32.size) : ¬ UInt32.size ∣ resetAdvances trace := by
  intro turned
  rw [resetAdvances_eq_resets quiet] at turned
  have some_reset : 0 < resets trace := List.countP_pos_iff.mpr ⟨_, marked, rfl⟩
  have bound := Nat.le_of_dvd some_reset turned
  omega

/-! ### Which pipes a reset kills -/

/-- When a pipe allocated before the end of a reset is valid after it. -/
theorem valid_iff_of_ended {middle soon : List Effect}
    {state allocated ending ended now : PioHostState} {slot : PipeSlot} {reset : Nat}
    (alloc : Step state (.allocated index) allocated)
    (current : allocated.pipes index = some slot) (addressed : slot.pipe.target.deviceAddress ≠ 0)
    (during : Run Step allocated middle ending) (ends : Step ending (.resetEnded reset) ended)
    (run : Run Step ended soon now) :
    now.Valid index ↔ now.shared.port.connected = true ∧
      UInt32.size ∣ connections (middle ++ soon) ∧ UInt32.size ∣ resetAdvances (middle ++ soon) := by
  have counts := valid_iff alloc current addressed (during.append (.cons ends run))
  rwa [connections, resetAdvances, List.countP_append, List.countP_append,
    List.countP_cons_of_neg Bool.false_ne_true,
    List.countP_cons_of_neg Bool.false_ne_true, ← List.countP_append,
    ← List.countP_append] at counts

/-- A pipe that was allocated within a reset is valid at its end, without a connection event. -/
theorem valid_of_unmarked {early middle : List Effect}
    {state allocated ending ended : PioHostState} {slot : PipeSlot} {reset : Nat}
    (before : Run Step .initial early state) (alloc : Step state (.allocated index) allocated)
    (current : allocated.pipes index = some slot) (addressed : slot.pipe.target.deviceAddress ≠ 0)
    (during : Run Step allocated middle ending) (ends : Step ending (.resetEnded reset) ended)
    (unmarked : .resetMarked reset ∉ middle) (quiet : connections middle = 0) :
    ended.Valid index := by
  obtain ⟨task, _, _, _, found, -, move⟩ := ends.reset_of_label rfl
  have exclusive := exclusive_of_run (before.append (.single alloc))
  have noReset := resets_of_open during exclusive ⟨task, found, move.open_of_ended⟩ unmarked
  obtain ⟨connected, same, -⟩ := alloc.of_allocated
  rw [← same] at connected
  have connectedNow : ended.shared.port.connected = true := by
    rw [ends.shared]
    exact connected_run during quiet connected
  refine (valid_iff_of_ended alloc current addressed during ends (.nil ended)).mpr ?_
  rw [List.append_nil, resetAdvances_eq_resets quiet, quiet, noReset]
  exact ⟨connectedNow, Nat.dvd_zero _, Nat.dvd_zero _⟩

/-- **When a bus reset kills an addressed pipe.** A pipe allocated before the end of a reset fails its
check from then on, and starts no further engine operation, if and only if the reset had not started
when it was allocated or a connection event comes between the allocation and the end, and no later
moment finds the port connected with both generations a whole turn of their counters further. -/
theorem bus_reset_kills_iff {early middle late : List Effect}
    {state allocated ending ended : PioHostState} {slot : PipeSlot} {reset : Nat}
    (before : Run Step .initial early state) (alloc : Step state (.allocated index) allocated)
    (current : allocated.pipes index = some slot) (addressed : slot.pipe.target.deviceAddress ≠ 0)
    (during : Run Step allocated middle ending) (ends : Step ending (.resetEnded reset) ended)
    (later : Run Step ended late last)
    (few : resets (early ++ .allocated index :: middle ++ .resetEnded reset :: late) <
      UInt32.size) :
    ((∀ soon rest now, late = soon ++ rest → Run Step ended soon now → Run Step now rest last →
        ¬ now.Valid index) ∧ .operationStarted index ∉ late) ↔
      (.resetMarked reset ∈ middle ∨ ∃ label ∈ middle, label.isConnection = true) ∧
        ∀ soon rest now, late = soon ++ rest → Run Step ended soon now → Run Step now rest last →
          now.shared.port.connected = true → 0 < connections (middle ++ soon) →
            UInt32.size ∣ connections (middle ++ soon) →
              ¬ UInt32.size ∣ resetAdvances (middle ++ soon) := by
  have countNow : ∀ {soon now}, Run Step ended soon now → (now.Valid index ↔
      now.shared.port.connected = true ∧ UInt32.size ∣ connections (middle ++ soon) ∧
        UInt32.size ∣ resetAdvances (middle ++ soon)) :=
    valid_iff_of_ended alloc current addressed during ends
  have started : ∀ soon rest now, late = soon ++ rest → Run Step ended soon now →
      (.resetMarked reset ∈ middle ∨ ∃ label ∈ middle, label.isConnection = true) →
        connections (middle ++ soon) = 0 → ¬ UInt32.size ∣ resetAdvances (middle ++ soon) := by
    rintro soon rest now rfl run cause quiet
    have marked : .resetMarked reset ∈ middle ++ soon := by
      refine List.mem_append_left _ (cause.resolve_right ?_)
      rintro ⟨label, member, connection⟩
      exact List.countP_eq_zero.mp quiet label (List.mem_append_left _ member) connection
    refine not_dvd_resetAdvances quiet marked ?_
    simp only [resets, List.countP_append, List.countP_cons] at few ⊢
    omega
  constructor
  · rintro ⟨invalid, -⟩
    refine ⟨?_, fun soon rest now split run onward connected _ whole turned =>
      invalid soon rest now split run onward ((countNow run).mpr ⟨connected, whole, turned⟩)⟩
    by_contra neither
    obtain ⟨unmarked, quiet⟩ := not_or.mp neither
    have noConnection : connections middle = 0 :=
      List.countP_eq_zero.mpr fun label member connection => quiet ⟨label, member, connection⟩
    exact invalid [] late ended rfl (.nil ended) later
      (valid_of_unmarked before alloc current addressed during ends unmarked noConnection)
  · rintro ⟨cause, noTurn⟩
    have invalid : ∀ soon rest now, late = soon ++ rest → Run Step ended soon now →
        Run Step now rest last → ¬ now.Valid index := by
      intro soon rest now split run onward valid
      obtain ⟨connected, whole, turned⟩ := (countNow run).mp valid
      by_cases quiet : connections (middle ++ soon) = 0
      · exact started soon rest now split run cause quiet turned
      · exact noTurn soon rest now split run onward connected (Nat.pos_of_ne_zero quiet) whole turned
    refine ⟨invalid, fun operation => ?_⟩
    obtain ⟨soon, rest, rfl⟩ := List.append_of_mem operation
    obtain ⟨now, run, onward⟩ := later.split
    cases id onward with
    | cons step _ => exact invalid soon _ now rfl run onward step.valid_of_started

/-- A bus reset kills the pipe that was allocated before it started. -/
theorem bus_reset_kills_earlier :
    ∃ allocated ending ended,
      Run Step .initial (attachment ++ [.allocated 0]) allocated ∧
      Run Step allocated
        [.silent, .silent, .silent, .resetMarked 1, .activityBegan 1, .silent, .activityEnded 1]
        ending ∧
      Step ending (.resetEnded 1) ended ∧ ¬ ended.Valid 0 := by
  obtain ⟨resets, attaching, free⟩ := attachment_run
  obtain ⟨allocated, ending, ended, alloc, slot, current, addressed, during, ends⟩ :
      ∃ allocated ending ended, Step (attached resets) (.allocated 0) allocated ∧
        ∃ slot, allocated.pipes 0 = some slot ∧ slot.pipe.target.deviceAddress ≠ 0 ∧
        Run Step allocated
          [.silent, .silent, .silent, .resetMarked 1, .activityBegan 1, .silent, .activityEnded 1]
          ending ∧
        Step ending (.resetEnded 1) ended :=
    ⟨_, _, _, .alloc 0 bulkOut rfl rfl, _, rfl, (by decide : (1 : UInt8) ≠ 0),
      .cons (.startController 1 free)
      (.cons (.reset 1 rfl .lock)
      (.cons (.reset 1 rfl (.drive rfl))
      (.cons (.reset 1 rfl .mark)
      (.cons (.reset 1 rfl .begin)
      (.cons (.reset 1 rfl (.settle (.ok ())))
      (.single (.reset 1 rfl (.endReset rfl)))))))), .reset 1 rfl .release⟩
  refine ⟨allocated, ending, ended, attaching.append (.single alloc), during, ends, ?_⟩
  refine ((bus_reset_kills_iff attaching alloc current addressed during ends (.nil ended)
    (by decide)).mpr ⟨.inl (by decide), ?_⟩).1 [] [] ended rfl (.nil ended) (.nil ended)
  intro soon rest now split
  obtain ⟨rfl, rfl⟩ := List.nil_eq_append_iff.mp split
  exact fun _ _ _ moved => absurd moved (by decide)

/-- **A bus reset spares the pipe that was allocated while it was in progress**, and the pipe's next
request reaches the engine. -/
theorem bus_reset_spares_later :
    ∃ state allocated ending ended last,
      Run Step .initial
        (attachment ++ [.silent, .silent, .silent, .resetMarked 1, .activityBegan 1]) state ∧
      Step state (.allocated 0) allocated ∧
      (∃ slot, allocated.pipes 0 = some slot ∧ slot.pipe.target.deviceAddress ≠ 0) ∧
      Run Step allocated [.silent, .activityEnded 1] ending ∧
      Step ending (.resetEnded 1) ended ∧
      ended.Valid 0 ∧ Run Step ended [.called 0, .silent, .silent, .operationStarted 0] last ∧
      resets (attachment ++ [.silent, .silent, .silent, .resetMarked 1, .activityBegan 1,
        .allocated 0, .silent, .activityEnded 1, .resetEnded 1, .called 0, .silent, .silent,
        .operationStarted 0]) < UInt32.size := by
  obtain ⟨resets, attaching, free⟩ := attachment_run
  obtain ⟨state, allocated, ending, ended, last, starting, rest⟩ :
      ∃ state allocated ending ended last,
        Run Step (attached resets)
          [.silent, .silent, .silent, .resetMarked 1, .activityBegan 1] state ∧
        Step state (.allocated 0) allocated ∧
        (∃ slot, allocated.pipes 0 = some slot ∧ slot.pipe.target.deviceAddress ≠ 0) ∧
        Run Step allocated [.silent, .activityEnded 1] ending ∧
        Step ending (.resetEnded 1) ended ∧
        ended.Valid 0 ∧ Run Step ended [.called 0, .silent, .silent, .operationStarted 0] last :=
    ⟨_, _, _, _, _,
      .cons (.startController 1 free)
      (.cons (.reset 1 rfl .lock)
      (.cons (.reset 1 rfl (.drive rfl))
      (.cons (.reset 1 rfl .mark)
      (.single (.reset 1 rfl .begin))))), .alloc 0 bulkOut rfl rfl, 
      ⟨_, rfl, (by decide : (1 : UInt8) ≠ 0)⟩,
      .cons (.reset 1 rfl (.settle (.ok ()))) (.single (.reset 1 rfl (.endReset rfl))),
      .reset 1 rfl .release, ⟨_, rfl, rfl⟩,
      .cons (.pipe 0 rfl (.call (.requestOut [0] false) rfl))
      (.cons (.pipe 0 rfl (.due rfl))
      (.cons (.pipe 0 rfl .lock)
      (.single (.pipe 0 rfl (.operate rfl)))))⟩
  obtain ⟨alloc, addressed, during, ends, valid, request⟩ := rest
  exact ⟨state, allocated, ending, ended, last, attaching.append starting, alloc, addressed, during,
    ends, valid, request, by decide⟩

end PioUsbHost.Host
