/-
**The reset flag.**

`reset_in_progress` is a plain boolean that `begin_reset_activity` sets and the drop of a `ResetActivity`
clears. It tells exactly whether a reset is between the two, because such a reset holds the engine and is
therefore the only one (`reset_flag_exact`).
-/

import PioUsbHost.Host.EngineLock

namespace PioUsbHost.Host

open PioUsbHost.Lib

/-- The reset holds its `ResetActivity`. -/
def ResetPhase.Active : ResetPhase → Prop
  | resetting _ => True
  | settled _ => True
  | published _ => True
  | _ => False

/-- The reset of that index has begun and not ended. -/
def PioHostState.ResetActive (state : PioHostState) (index : Nat) : Prop :=
  ∃ task, state.resets index = some task ∧ task.phase.Active

/-- `report_disconnected_if_not_resetting`, on the shared state as it finds it: whether it reports, and
what it leaves. -/
def SharedState.reportDisconnectedIfNotResetting (shared : SharedState) : Bool × SharedState :=
  if shared.resetInProgress then (false, shared) else (true, shared.report .disconnected)

/-- The call is one step, before its wake-up signal. -/
theorem report_if_not_resetting_step (state : PioHostState) :
    ∃ effect next, Step state effect next ∧
      next.shared = state.shared.reportDisconnectedIfNotResetting.2 ∧
      (state.shared.reportDisconnectedIfNotResetting.1 = false → effect = .suppressed) ∧
      (state.shared.reportDisconnectedIfNotResetting.1 = true → effect = .reported .disconnected) := by
  unfold SharedState.reportDisconnectedIfNotResetting
  cases flag : state.shared.resetInProgress with
  | true => exact ⟨_, _, .suppress flag, rfl, fun _ => rfl, nofun⟩
  | false => exact ⟨_, _, .reportDisconnectedIfNotResetting flag, rfl, nofun, fun _ => rfl⟩

/-! ### Moves -/

section Moves

variable {index : Nat} {port : PortState} {engine owner : Option EngineOwner} {effect : Effect}
  {slot next : PipeSlot} {kind : ResetKind} {phase after : ResetPhase} {signals : Bool}

theorem ResetPhase.Active.holdsEngine (active : phase.Active) : phase.HoldsEngine := by
  cases phase <;> first | exact trivial | exact active

theorem ResetMove.began {reset : Nat}
    (move : ResetMove index port kind engine phase (.activityBegan reset) after owner signals) :
    after.Active := by
  cases move
  trivial

theorem ResetMove.ended {reset : Nat}
    (move : ResetMove index port kind engine phase (.activityEnded reset) after owner signals) :
    phase.Active ∧ ¬ after.Active := by
  cases move <;> exact ⟨trivial, id⟩

/-- No other move acquires or drops the activity. -/
theorem ResetMove.active_iff
    (move : ResetMove index port kind engine phase effect after owner signals)
    (began : effect ≠ .activityBegan index) (ended : effect ≠ .activityEnded index) :
    after.Active ↔ phase.Active := by
  cases move with
  | begin => exact absurd rfl began
  | endFailed | endReset | endPublished | dropResetting => exact absurd rfl ended
  | @release _ signal => cases signal <;> exact Iff.rfl
  | _ => exact Iff.rfl

end Moves

/-! ### Steps -/

variable {first second last : PioHostState} {effect : Effect} {index : Nat}

/-- A reset that is active after a step was active before, unless its activity began. -/
theorem Step.active_before (step : Step first effect second) (active : second.ResetActive index)
    (began : effect ≠ .activityBegan index) : first.ResetActive index := by
  obtain ⟨task, there, inside⟩ := active
  rcases step.task_origin there with ⟨found, was, -⟩ | ⟨fresh, -⟩
  · refine ⟨found, was, ?_⟩
    rcases step.task_cases was with ⟨same, -⟩ | ⟨phase, engine, signals, moved, move⟩
    · cases same.symm.trans there
      exact inside
    · cases moved.symm.trans there
      by_cases ended : effect = .activityEnded index
      · subst ended
        exact absurd inside move.ended.2
      · exact (move.active_iff began ended).mp inside
  · rw [fresh] at inside
    exact inside.elim

/-- A reset that is active before a step is active after it, unless its activity ended. -/
theorem Step.active_after (step : Step first effect second) (active : first.ResetActive index)
    (ended : effect ≠ .activityEnded index) : second.ResetActive index := by
  obtain ⟨task, there, inside⟩ := active
  rcases step.task_cases there with ⟨same, -⟩ | ⟨phase, engine, signals, moved, move⟩
  · exact ⟨task, same, inside⟩
  · refine ⟨_, moved, ?_⟩
    by_cases began : effect = .activityBegan index
    · subst began
      exact move.began
    · exact (move.active_iff began ended).mpr inside

/-- The flag says whether a reset is active. -/
def PioHostState.FlagExact (state : PioHostState) : Prop :=
  state.shared.resetInProgress = true ↔ ∃ index, state.ResetActive index

theorem Step.flagExact (step : Step first effect second)
    (exclusive : Exclusive first.Holds first.engine) (exact : first.FlagExact) :
    second.FlagExact := by
  unfold PioHostState.FlagExact
  rw [step.shared]
  by_cases began : ∃ reset, effect = .activityBegan reset
  · obtain ⟨reset, rfl⟩ := began
    obtain ⟨task, phase, _, _, -, moved, move⟩ := step.reset_of_label rfl
    exact iff_of_true rfl ⟨reset, _, moved, move.began⟩
  by_cases ended : ∃ reset, effect = .activityEnded reset
  · obtain ⟨reset, rfl⟩ := ended
    obtain ⟨task, phase, _, _, was, moved, move⟩ := step.reset_of_label rfl
    refine iff_of_false Bool.false_ne_true ?_
    rintro ⟨other, active⟩
    -- another active reset would hold the engine too
    have same : EngineOwner.reset other = .reset reset := by
      obtain ⟨found, there, inside⟩ := step.active_before active nofun
      exact exclusive.unique ⟨found, there, inside.holdsEngine⟩ ⟨task, was, move.ended.1.holdsEngine⟩
    cases same
    obtain ⟨found, there, inside⟩ := active
    cases moved.symm.trans there
    exact move.ended.2 inside
  have unchanged : (effect.apply first.shared).resetInProgress = first.shared.resetInProgress := by
    cases effect <;>
      first | rfl | exact absurd ⟨_, rfl⟩ began | exact absurd ⟨_, rfl⟩ ended
  rw [unchanged]
  refine exact.trans (exists_congr fun index => ⟨fun active => ?_, fun active => ?_⟩)
  · exact step.active_after active fun same => ended ⟨index, same⟩
  · exact step.active_before active fun same => began ⟨index, same⟩

/-- **The flag is exact** in every state of every run. -/
theorem flagExact_of_run {trace : List Effect} (run : Run Step .initial trace last) :
    last.FlagExact := by
  have both : Exclusive last.Holds last.engine ∧ last.FlagExact := by
    refine Run.preserves (fun state => Exclusive state.Holds state.engine ∧ state.FlagExact) ?_ run
      ⟨exclusive_of_run (.nil _), iff_of_false Bool.false_ne_true ?_⟩
    · rintro before label after step ⟨exclusive, exact⟩
      exact ⟨exclusive.move step.mutex, step.flagExact exclusive exact⟩
    · rintro ⟨_, _, impossible, _⟩
      cases impossible
  exact both.2

/-- **The reset flag tracks the reset.** In every state of every run the flag is set exactly while one
reset is between the start of its activity and its end, clear exactly while none is, and that reset
holds the engine; `report_disconnected_if_not_resetting` reports nothing and changes nothing while there
is such a reset, and reports otherwise. -/
theorem reset_flag_exact {trace : List Effect} (run : Run Step .initial trace last) :
    (last.shared.resetInProgress = true ↔ ∃! index, last.ResetActive index) ∧
      (last.shared.resetInProgress = false ↔ ∀ index, ¬ last.ResetActive index) ∧
      (∀ index, last.ResetActive index → last.engine = some (.reset index)) ∧
      ((∃ index, last.ResetActive index) →
        last.shared.reportDisconnectedIfNotResetting = (false, last.shared)) ∧
      ((∀ index, ¬ last.ResetActive index) →
        last.shared.reportDisconnectedIfNotResetting = (true, last.shared.report .disconnected)) := by
  have exclusive := exclusive_of_run run
  have exact : last.shared.resetInProgress = true ↔ ∃ index, last.ResetActive index :=
    flagExact_of_run run
  have holds : ∀ index, last.ResetActive index → last.Holds (.reset index) :=
    fun index ⟨task, there, inside⟩ => ⟨task, there, inside.holdsEngine⟩
  have clear : last.shared.resetInProgress = false ↔ ∀ index, ¬ last.ResetActive index := by
    rw [← not_exists, ← exact, Bool.not_eq_true]
  refine ⟨⟨fun set => ?_, fun ⟨index, active, _⟩ => exact.mpr ⟨index, active⟩⟩, clear,
    fun index active => exclusive _ (holds index active), fun active => ?_, fun none => ?_⟩
  · obtain ⟨index, active⟩ := exact.mp set
    refine ⟨index, active, fun other otherActive => ?_⟩
    exact EngineOwner.reset.inj (exclusive.unique (holds other otherActive) (holds index active))
  · rw [SharedState.reportDisconnectedIfNotResetting, if_pos (exact.mpr active)]
  · rw [SharedState.reportDisconnectedIfNotResetting, clear.mpr none]
    exact if_neg Bool.false_ne_true

/-- A sampled detach is suppressed while a connection's reset drives the bus. -/
theorem reset_flag_exact_driving :
    ∃ last, Run Step .initial
        [.silent, .silent, .silent, .resetMarked 0, .activityBegan 0] last ∧
      (∃! index, last.ResetActive index) ∧
      last.shared.reportDisconnectedIfNotResetting = (false, last.shared) := by
  obtain ⟨last, run, active⟩ : ∃ last,
      Run Step .initial [.silent, .silent, .silent, .resetMarked 0, .activityBegan 0] last ∧
        last.ResetActive 0 :=
    ⟨_, .cons (.startConnect 0 .full rfl)
        (.cons (.reset 0 rfl .lock)
        (.cons (.reset 0 rfl (.drive rfl))
        (.cons (.reset 0 rfl .mark)
        (.single (.reset 0 rfl .begin))))), _, rfl, trivial⟩
  obtain ⟨flag, -, -, suppressed, -⟩ := reset_flag_exact run
  refine ⟨last, run, flag.mp ?_, suppressed ⟨0, active⟩⟩
  exact (flagExact_of_run run).mpr ⟨0, active⟩

end PioUsbHost.Host
