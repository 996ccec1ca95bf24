/-
**The engine mutex.**

A request or a reset knows from its own phase whether it holds the engine; the frame service holds it
for one step. In every reachable state at most one of them does (`exclusive_of_run`), because each step
takes the free engine for one party, lets one holder go, or does neither (`Step.mutex`).
-/

import PioUsbHost.Host.Parties
import PioUsbHost.Lib.Mutex

namespace PioUsbHost.Host

open PioUsbHost.Lib

/-! ### Who believes to hold the engine -/

/-- The pipe's request is between the engine's lock and its release. -/
def PipeSlot.HoldsEngine (slot : PipeSlot) : Prop :=
  ∃ request phase, slot.request = some (request, phase) ∧ phase.HoldsEngine

/-- A party holds the engine by its own phase. -/
def PioHostState.Holds (state : PioHostState) : EngineOwner → Prop
  | .pipe index => ∃ slot, state.pipes index = some slot ∧ slot.HoldsEngine
  | .reset index => ∃ task, state.resets index = some task ∧ task.phase.HoldsEngine
  | .frame => state.engine = some .frame

/-- What the move of one party does to the engine: the party leaves it, takes it or lets it go. -/
inductive EngineMove (mover : EngineOwner) (before after : Prop) :
    Option EngineOwner → Option EngineOwner → Prop where
  | leave (engine : Option EngineOwner) (same : after → before) :
      EngineMove mover before after engine engine
  | take : EngineMove mover before after none (some mover)
  | letGo (engine : Option EngineOwner) (held : before) (gone : ¬ after) :
      EngineMove mover before after engine none

variable {index : Nat} {effect : Effect} {first second last : PioHostState}

/-! ### Moves -/

theorem PipeMove.engine {port : PortState} {engine owner : Option EngineOwner}
    {slot next : PipeSlot} (move : PipeMove index port engine slot effect next owner) :
    EngineMove (.pipe index) slot.HoldsEngine next.HoldsEngine engine owner := by
  cases move with
  | lock => exact .take
  | lockedInvalid | serviced =>
    refine .letGo _ ⟨_, _, rfl, trivial⟩ ?_
    rintro ⟨request, phase, same, holds⟩
    cases same
    exact holds
  | dropHolding suspended holds =>
    exact .letGo _ ⟨_, _, rfl, holds⟩ fun ⟨_, _, impossible, _⟩ => nomatch impossible
  | operate | operated => exact .leave _ fun _ => ⟨_, _, rfl, trivial⟩
  | callAtOnce => exact .leave _ id
  | _ =>
    refine .leave _ ?_
    rintro ⟨request, phase, same, holds⟩
    cases same <;> exact holds.elim

theorem ResetMove.engine {port : PortState} {kind : ResetKind} {engine owner : Option EngineOwner}
    {phase next : ResetPhase} {signals : Bool}
    (move : ResetMove index port kind engine phase effect next owner signals) :
    EngineMove (.reset index) phase.HoldsEngine next.HoldsEngine engine owner := by
  cases move with
  | lock => exact .take
  | skip => exact .letGo _ trivial id
  | @release _ signal =>
    refine .letGo _ trivial ?_
    cases signal <;> exact id
  | signal | dropWaiting => exact .leave _ False.elim
  | _ => exact .leave _ fun _ => trivial

/-! ### Steps -/

/-- The move of one party, seen from all of them. -/
theorem EngineMove.mutex {mover : EngineOwner} {before after : Prop}
    (move : EngineMove mover before after first.engine second.engine) (named : mover ≠ .frame)
    (known : before → first.Holds mover)
    (others : ∀ party, party ≠ .frame → second.Holds party →
      (party = mover ∧ after) ∨ (party ≠ mover ∧ first.Holds party)) :
    MutexMove first.Holds second.Holds first.engine second.engine := by
  generalize engineBefore : first.engine = engine at move ⊢
  generalize engineAfter : second.engine = owner at move ⊢
  have frame : second.Holds .frame → owner = some .frame := fun holds => engineAfter.symm.trans holds
  cases move with
  | leave _ same =>
    refine .keep _ fun party holds => ?_
    by_cases isFrame : party = .frame
    · rw [isFrame] at holds ⊢
      exact engineBefore.trans (frame holds)
    · rcases others party isFrame holds with ⟨rfl, holding⟩ | ⟨-, held⟩
      · exact known (same holding)
      · exact held
  | take =>
    refine .acquire mover fun party holds => ?_
    by_cases isFrame : party = .frame
    · rw [isFrame] at holds
      exact absurd (Option.some.inj (frame holds)) named
    · exact (others party isFrame holds).imp (·.1) (·.2)
  | letGo _ held gone =>
    refine .release _ mover (known held) fun party holds => ?_
    by_cases isFrame : party = .frame
    · rw [isFrame] at holds
      exact absurd (frame holds) nofun
    · rcases others party isFrame holds with ⟨-, holding⟩ | ⟨different, held⟩
      · exact absurd holding gone
      · exact ⟨held, different⟩

/-- **Each step** takes the free engine, lets it go, or leaves it. -/
theorem Step.mutex (step : Step first effect second) :
    MutexMove first.Holds second.Holds first.engine second.engine := by
  cases step with
  | pipe index current move =>
    refine EngineMove.mutex move.engine nofun (fun held => ⟨_, current, held⟩) ?_
    rintro (other | other | _) isFrame holds
    · obtain ⟨found, there, held⟩ := holds
      rcases update_cases there with ⟨rfl, rfl⟩ | ⟨different, before⟩
      · exact .inl ⟨rfl, held⟩
      · exact .inr ⟨different ∘ EngineOwner.pipe.inj, found, before, held⟩
    · exact .inr ⟨nofun, holds⟩
    · exact absurd rfl isFrame
  | reset index current move =>
    refine EngineMove.mutex move.engine nofun (fun held => ⟨_, current, held⟩) ?_
    rintro (other | other | _) isFrame holds
    · exact .inr ⟨nofun, holds⟩
    · obtain ⟨found, there, held⟩ := holds
      rcases update_cases there with ⟨rfl, rfl⟩ | ⟨different, before⟩
      · exact .inl ⟨rfl, held⟩
      · exact .inr ⟨different ∘ EngineOwner.reset.inj, found, before, held⟩
    · exact absurd rfl isFrame
  | alloc index request fresh allocated =>
    refine .keep _ fun party holds => ?_
    rcases party with other | other | _
    · obtain ⟨found, there, held⟩ := holds
      rcases update_cases there with ⟨rfl, rfl⟩ | ⟨different, before⟩
      · obtain ⟨_, _, impossible, _⟩ := held
        cases impossible
      · exact ⟨found, before, held⟩
    · exact holds
    · exact holds
  | startController index fresh | startConnect index speed fresh =>
    refine .keep _ fun party holds => ?_
    rcases party with other | other | _
    · exact holds
    · obtain ⟨found, there, held⟩ := holds
      rcases update_cases there with ⟨rfl, rfl⟩ | ⟨different, before⟩
      · exact held.elim
      · exact ⟨found, before, held⟩
    · exact holds
  | serviceFrame free attached =>
    rw [free]
    refine .acquire EngineOwner.frame fun party holds => ?_
    rcases party with other | other | _
    · exact .inr holds
    · exact .inr holds
    · exact .inl rfl
  | frameServiced servicing =>
    refine .release _ EngineOwner.frame servicing fun party holds => ?_
    rcases party with other | other | _
    · exact ⟨holds, nofun⟩
    · exact ⟨holds, nofun⟩
    · exact absurd holds nofun
  | _ => exact .keep _ fun party holds => by cases party <;> exact holds

/-- **At most one party holds the engine**, in every state of every run. -/
theorem exclusive_of_run {trace : List Effect} (run : Run Step .initial trace last) :
    Exclusive last.Holds last.engine := by
  refine Run.preserves (fun state => Exclusive state.Holds state.engine) ?_ run ?_
  · intro before label after step exclusive
    exact exclusive.move step.mutex
  · rintro (index | index | _) holds
    · obtain ⟨_, impossible, _⟩ := holds
      cases impossible
    · obtain ⟨_, impossible, _⟩ := holds
      cases impossible
    · exact holds

end PioUsbHost.Host
