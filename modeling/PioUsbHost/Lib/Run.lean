/-
**Runs of a labelled step relation.**

A run is a finite sequence of steps with the trace of its labels.

* `Run.split`: a run over a concatenated trace passes through a state in between.
* `Run.preserves`: what every step preserves holds at the end, also if only the steps whose labels are
  not excluded preserve it (`Run.preserves_unless`).
* `Run.crossing`: a run that enters a region crosses into it by one of its steps.
* `Run.enters`: what did not hold at the start and holds at the end was entered by one of the labels.
* `Run.observes`: an observation that each label determines is a fold over the trace.
* `Run.counts`: a wrapping counter counts the labels that advance it.
-/

import Mathlib.Data.List.Basic

namespace PioUsbHost.Lib

universe u v w

variable {σ : Type u} {ε : Type v} {Step : σ → ε → σ → Prop}

/-- A run from one state to another, with its trace. -/
inductive Run (Step : σ → ε → σ → Prop) : σ → List ε → σ → Prop where
  | nil (state : σ) : Run Step state [] state
  | cons {first second last : σ} {label : ε} {trace : List ε} (step : Step first label second)
      (rest : Run Step second trace last) : Run Step first (label :: trace) last

namespace Run

variable {first second last : σ} {trace early late : List ε} {label : ε}

theorem single (step : Step first label last) : Run Step first [label] last :=
  .cons step (.nil last)

theorem append (before : Run Step first early second) (after : Run Step second late last) :
    Run Step first (early ++ late) last := by
  induction before with
  | nil => exact after
  | cons step _ ih => exact .cons step (ih after)

/-- **A run over a concatenated trace** passes through a state in between. -/
theorem split (run : Run Step first (early ++ late) last) :
    ∃ middle, Run Step first early middle ∧ Run Step middle late last := by
  induction early generalizing first with
  | nil => exact ⟨first, .nil first, run⟩
  | cons label rest ih =>
    cases run with
    | cons step run =>
      obtain ⟨middle, before, after⟩ := ih run
      exact ⟨middle, .cons step before, after⟩

/-- The states around one label of the trace. -/
theorem around (run : Run Step first (early ++ label :: late) last) :
    ∃ before after, Run Step first early before ∧ Step before label after ∧
      Run Step after late last := by
  obtain ⟨before, start, rest⟩ := split run
  cases rest with
  | cons step run => exact ⟨before, _, start, step, run⟩

/-- **What the steps of a run preserve**, unless their labels are excluded. -/
theorem preserves_unless (Inv : σ → Prop) (Excluded : ε → Prop)
    (step : ∀ {before label after}, Step before label after → ¬ Excluded label → Inv before →
      Inv after)
    (run : Run Step first trace last) (clear : ∀ label ∈ trace, ¬ Excluded label)
    (holds : Inv first) : Inv last := by
  induction run with
  | nil => exact holds
  | cons taken _ ih =>
    exact ih (fun label member => clear label (List.mem_cons_of_mem _ member))
      (step taken (clear _ List.mem_cons_self) holds)

theorem preserves (Inv : σ → Prop)
    (step : ∀ {before label after}, Step before label after → Inv before → Inv after)
    (run : Run Step first trace last) (holds : Inv first) : Inv last :=
  preserves_unless Inv (fun _ => False) (fun taken _ => step taken) run (fun _ _ => id) holds

/-- A run passes through a step. -/
structure Passes (Step : σ → ε → σ → Prop) (first : σ) (trace : List ε) (last : σ) (early : List ε)
    (before : σ) (label : ε) (after : σ) (late : List ε) : Prop where
  split : trace = early ++ label :: late
  start : Run Step first early before
  step : Step before label after
  rest : Run Step after late last

/-- A run that goes on passes through the same step. -/
theorem Passes.onward {before after : σ} {middle rest : List ε}
    (passes : Passes Step first middle second early before label after late)
    (more : Run Step second rest last) :
    Passes Step first (middle ++ rest) last early before label after (late ++ rest) where
  split := by rw [passes.split, List.append_assoc, List.cons_append]
  start := passes.start
  step := passes.step
  rest := passes.rest.append more

/-- **A run that enters a region** crosses into it by one of its steps. -/
theorem crossing (Inside : σ → Prop) (run : Run Step first trace last) (outside : ¬ Inside first)
    (inside : Inside last) : ∃ early before label after late,
      Passes Step first trace last early before label after late ∧
        ¬ Inside before ∧ Inside after := by
  induction run with
  | nil => exact absurd inside outside
  | @cons start next _ label rest step run ih =>
    by_cases entered : Inside next
    · exact ⟨[], start, label, next, rest, ⟨rfl, .nil start, step, run⟩, outside, entered⟩
    · obtain ⟨early, before, other, after, late, ⟨rfl, toIt, crosses, onward⟩, across⟩ :=
        ih entered inside
      exact ⟨label :: early, before, other, after, late,
        ⟨rfl, .cons step toIt, crosses, onward⟩, across⟩

/-- **What a run enters**, it enters by one of the labels that lead there. -/
theorem enters (Inside : σ → Prop) (Entry : ε → Prop)
    (step : ∀ {before label after}, Step before label after → ¬ Inside before → Inside after →
      Entry label)
    (run : Run Step first trace last) (outside : ¬ Inside first) (inside : Inside last) :
    ∃ label ∈ trace, Entry label := by
  obtain ⟨early, before, label, after, late, ⟨rfl, -, crosses, -⟩, out, entered⟩ :=
    crossing Inside run outside inside
  exact ⟨label, List.mem_append_right _ List.mem_cons_self, step crosses out entered⟩

/-- **An observation that each label determines** is a fold over the trace. -/
theorem observes {ω : Type w} (observe : σ → ω) (apply : ω → ε → ω)
    (step : ∀ {before label after}, Step before label after →
      observe after = apply (observe before) label)
    (run : Run Step first trace last) : observe last = trace.foldl apply (observe first) := by
  induction run with
  | nil => rfl
  | cons taken _ ih => rw [ih, step taken, List.foldl_cons]

end Run

/-! ### Wrapping counters -/

/-- A counter that is back at its value has wrapped around. -/
theorem add_ofNat_eq_self_iff {value : UInt32} {count : Nat} :
    value + UInt32.ofNat count = value ↔ UInt32.size ∣ count := by
  have small : value.toNat < 4294967296 := value.toNat_lt
  rw [← UInt32.toNat_inj, UInt32.toNat_add, UInt32.toNat_ofNat', Nat.dvd_iff_mod_eq_zero]
  show (value.toNat + count % 4294967296) % 4294967296 = value.toNat ↔ count % 4294967296 = 0
  omega

/-- **A counter that some labels advance** counts them in the trace. -/
theorem Run.counts (counter : σ → UInt32) (advances : ε → Bool)
    (step : ∀ {before label after}, Step before label after →
      counter after = counter before + UInt32.ofNat (if advances label then 1 else 0))
    {first last : σ} {trace : List ε} (run : Run Step first trace last) :
    counter last = counter first + UInt32.ofNat (trace.countP advances) := by
  induction run with
  | nil => simp
  | cons taken _ ih =>
    rw [ih, step taken, List.countP_cons, Nat.add_comm, UInt32.ofNat_add, UInt32.add_assoc]

end PioUsbHost.Lib
