/-
**What a step does to one party.**

A step is a move of one party. Seen from any other pipe or reset it changes nothing of it, and its label
names neither.

* `Step.slot_cases`, `Step.task_cases`: a step leaves a pipe or a reset as it is, or is its own move.
* `Step.slot_origin`, `Step.task_origin`: a pipe or a reset was there before, or the step created it.
-/

import PioUsbHost.Host.Step

namespace PioUsbHost.Host

open PioUsbHost.Usb PioUsbHost.Pipe PioUsbHost.Lib PioUsbHost.Lib.Panic

/-! ### Labels and their parties -/

/-- The pipe a label is about. -/
def Effect.pipe? : Effect → Option Nat
  | called pipe => some pipe
  | operationStarted pipe => some pipe
  | operationReturned pipe => some pipe
  | returned pipe _ => some pipe
  | _ => none

/-- The reset a label is about. -/
def Effect.reset? : Effect → Option Nat
  | resetMarked reset => some reset
  | activityBegan reset => some reset
  | activityEnded reset => some reset
  | published reset _ => some reset
  | resetEnded reset => some reset
  | _ => none

section Moves

variable {index : Nat} {port : PortState} {engine owner : Option EngineOwner} {effect : Effect}
  {slot next : PipeSlot} {kind : ResetKind} {phase after : ResetPhase} {signals : Bool}

/-- A request moves under its own pipe's labels, and reports nothing. -/
theorem PipeMove.label (move : PipeMove index port engine slot effect next owner) :
    (effect.pipe? = none ∨ effect.pipe? = some index) ∧ effect.isConnection = false := by
  cases move <;> first | exact ⟨.inl rfl, rfl⟩ | exact ⟨.inr rfl, rfl⟩

/-- A request moves under no label of a reset. -/
theorem PipeMove.noReset (move : PipeMove index port engine slot effect next owner) :
    effect.reset? = none := by
  cases move <;> rfl

theorem PipeMove.notAllocated {other : Nat}
    (move : PipeMove index port engine slot (.allocated other) next owner) : False := by
  cases move

/-- A request changes nothing of its pipe but the toggle. -/
theorem PipeMove.samePipe (move : PipeMove index port engine slot effect next owner) :
    next.pipe = { slot.pipe with dataToggle := next.pipe.dataToggle } := by
  cases move <;> rfl

/-- An engine operation starts on a valid pipe. -/
theorem PipeMove.valid_of_started
    (move : PipeMove index port engine slot (.operationStarted index) next owner) :
    slot.pipe.checkValid port = .ok () := by
  cases move
  assumption

/-- A reset moves under its own labels. -/
theorem ResetMove.label
    (move : ResetMove index port kind engine phase effect after owner signals) :
    effect.pipe? = none ∧ (effect.reset? = none ∨ effect.reset? = some index) := by
  cases move <;> first | exact ⟨rfl, .inl rfl⟩ | exact ⟨rfl, .inr rfl⟩

theorem ResetMove.notAllocated {other : Nat}
    (move : ResetMove index port kind engine phase (.allocated other) after owner signals) :
    False := by
  cases move

end Moves

/-- What an updated table holds, it held before or was given now. -/
theorem update_cases {α : Type} {table : Nat → Option α} {entry found : α} {index other : Nat}
    (there : Function.update table index (some entry) other = some found) :
    (other = index ∧ found = entry) ∨ (other ≠ index ∧ table other = some found) := by
  by_cases same : other = index
  · subst same
    rw [Function.update_self] at there
    exact .inl ⟨rfl, (Option.some.inj there).symm⟩
  · rw [Function.update_of_ne same] at there
    exact .inr ⟨same, there⟩

/-- A new entry of a table takes no old entry's place. -/
theorem update_of_fresh {α : Type} {table : Nat → Option α} {entry found : α} {index other : Nat}
    (fresh : table index = none) (there : table other = some found) :
    Function.update table index (some entry) other = some found := by
  have different : other ≠ index := by
    rintro rfl
    rw [fresh] at there
    cases there
  exact (Function.update_of_ne different _ _).trans there

variable {first second last : PioHostState} {effect : Effect} {index : Nat} {slot : PipeSlot}
  {task : ResetTask}

/-! ### Pipes -/

/-- **What one step can do to one pipe**: nothing, or a move of its request. -/
theorem Step.slot_cases (step : Step first effect second)
    (current : first.pipes index = some slot) :
    (second.pipes index = some slot ∧ effect.pipe? ≠ some index) ∨
      ∃ next engine, second.pipes index = some next ∧
        PipeMove index first.shared.port first.engine slot effect next engine := by
  cases step with
  | alloc other request fresh allocated =>
    exact .inl ⟨update_of_fresh fresh current, nofun⟩
  | pipe other owned move =>
    by_cases same : index = other
    · subst same
      rw [current] at owned
      cases owned
      exact .inr ⟨_, _, Function.update_self _ _ _, move⟩
    · refine .inl ⟨(Function.update_of_ne same _ _).trans current, ?_⟩
      rcases move.label.1 with none | own
      · rw [none]
        exact nofun
      · rw [own]
        exact fun impossible => same (Option.some.inj impossible).symm
  | reset other owned move =>
    refine .inl ⟨current, ?_⟩
    rw [move.label.1]
    exact nofun
  | _ => exact .inl ⟨current, nofun⟩

/-- Where a pipe comes from: it was there, or the step allocated it in the port's generation. -/
theorem Step.slot_origin {next : PipeSlot} (step : Step first effect second)
    (there : second.pipes index = some next) :
    (∃ slot, first.pipes index = some slot ∧
        next.pipe = { slot.pipe with dataToggle := next.pipe.dataToggle }) ∨
      (effect = .allocated index ∧
        next.pipe.connectionGeneration = first.shared.port.connectionGeneration) := by
  cases step with
  | alloc other request fresh allocated =>
    rcases update_cases there with ⟨rfl, rfl⟩ | ⟨-, before⟩
    · exact .inr ⟨rfl, (allocPipe_eq_ok allocated).2.2.1⟩
    · exact .inl ⟨next, before, rfl⟩
  | pipe other owned move =>
    rcases update_cases there with ⟨rfl, rfl⟩ | ⟨-, before⟩
    · exact .inl ⟨_, owned, move.samePipe⟩
    · exact .inl ⟨next, before, rfl⟩
  | _ => exact .inl ⟨next, there, rfl⟩

/-! ### Resets -/

/-- **What one step can do to one reset**: nothing, or a move of it. -/
theorem Step.task_cases (step : Step first effect second)
    (current : first.resets index = some task) :
    (second.resets index = some task ∧ effect.reset? ≠ some index) ∨
      ∃ phase engine signals, second.resets index = some { task with phase } ∧
        ResetMove index first.shared.port task.kind first.engine task.phase effect phase engine
          signals := by
  cases step with
  | startController other fresh => exact .inl ⟨update_of_fresh fresh current, nofun⟩
  | startConnect other speed fresh => exact .inl ⟨update_of_fresh fresh current, nofun⟩
  | reset other owned move =>
    by_cases same : index = other
    · subst same
      rw [current] at owned
      cases owned
      exact .inr ⟨_, _, _, Function.update_self _ _ _, move⟩
    · refine .inl ⟨(Function.update_of_ne same _ _).trans current, ?_⟩
      rcases move.label.2 with none | own
      · rw [none]
        exact nofun
      · rw [own]
        exact fun impossible => same (Option.some.inj impossible).symm
  | pipe other owned move =>
    refine .inl ⟨current, ?_⟩
    rw [move.noReset]
    exact nofun
  | _ => exact .inl ⟨current, nofun⟩

/-- The reset that a label is about moves. -/
theorem Step.reset_of_label (step : Step first effect second) (own : effect.reset? = some index) :
    ∃ task phase engine signals, first.resets index = some task ∧
      second.resets index = some { task with phase } ∧
      ResetMove index first.shared.port task.kind first.engine task.phase effect phase engine
        signals := by
  cases step with
  | reset other current move =>
    rcases move.label.2 with none | named
    · cases none.symm.trans own
    · cases named.symm.trans own
      exact ⟨_, _, _, _, current, Function.update_self _ _ _, move⟩
  | pipe other current move => exact absurd (move.noReset.symm.trans own) nofun
  | _ => cases own

/-- Where a reset comes from: it was there and moved or not, or the step started it. -/
theorem Step.task_origin (step : Step first effect second) (there : second.resets index = some task) :
    (∃ before, first.resets index = some before ∧ before.kind = task.kind) ∨
      (task.phase = .engineLock ∧ first.resets index = none ∧ effect = .silent ∧
        ∀ speed generation, task.kind = .connect speed generation →
          generation = first.shared.port.connectionGeneration) := by
  cases step with
  | startController other fresh =>
    rcases update_cases there with ⟨rfl, rfl⟩ | ⟨-, before⟩
    · exact .inr ⟨rfl, fresh, rfl, nofun⟩
    · exact .inl ⟨task, before, rfl⟩
  | startConnect other speed fresh =>
    rcases update_cases there with ⟨rfl, rfl⟩ | ⟨-, before⟩
    · refine .inr ⟨rfl, fresh, rfl, ?_⟩
      rintro _ _ same
      cases same
      rfl
    · exact .inl ⟨task, before, rfl⟩
  | reset other owned move =>
    rcases update_cases there with ⟨rfl, rfl⟩ | ⟨-, before⟩
    · exact .inl ⟨_, owned, rfl⟩
    · exact .inl ⟨task, before, rfl⟩
  | _ => exact .inl ⟨task, there, rfl⟩

end PioUsbHost.Host
