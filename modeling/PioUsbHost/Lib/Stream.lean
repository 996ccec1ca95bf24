/-
**Streams through a state that takes turns.**

A state holds part of a stream. Each turn feeds something into it and takes something out of it.

* `conserved`: when no turn loses or reorders anything, no run does.
* `latest`: a register that keeps the latest of what a turn shows keeps the latest of a run.
* `preserved`: what no turn changes, no run changes.
* `window_split`: a buffer is read from the front of its window.
-/

import Mathlib.Data.List.Basic

namespace PioUsbHost.Lib.Stream

universe u v w

variable {σ : Type u} {τ : Type v} {α : Type w} {next : σ → τ → σ}

/-- What is observed in the turns of a run, in order. -/
def gather (next : σ → τ → σ) (observe : σ → τ → List α) : σ → List τ → List α
  | _, [] => []
  | state, turn :: rest => observe state turn ++ gather next observe (next state turn) rest

/-- **A stream is conserved** by every run if it is by every turn. -/
theorem conserved {held : σ → List α} {input output : σ → τ → List α}
    (step : ∀ state turn, held state ++ input state turn = output state turn ++ held (next state turn))
    (state : σ) (turns : List τ) :
    held state ++ gather next input state turns =
      gather next output state turns ++ held (turns.foldl next state) := by
  induction turns generalizing state with
  | nil => simp only [gather, List.append_nil, List.nil_append, List.foldl_nil]
  | cons turn rest ih =>
    rw [gather, gather, ← List.append_assoc, step, List.append_assoc, ih, ← List.append_assoc,
      List.foldl_cons]

theorem getLastD_append (first second : List α) (default : α) :
    (first ++ second).getLastD default = second.getLastD (first.getLastD default) := by
  simp only [List.getLastD_eq_getLast?, List.getLast?_append, Option.getD_or]

/-- **The latest observation** of a run, in a register that every turn updates. -/
theorem latest {register : σ → α} {observe : σ → τ → List α}
    (step : ∀ state turn,
      register (next state turn) = (observe state turn).getLastD (register state))
    (state : σ) (turns : List τ) :
    register (turns.foldl next state) = (gather next observe state turns).getLastD (register state) := by
  induction turns generalizing state with
  | nil => rfl
  | cons turn rest ih =>
    rw [gather, List.foldl_cons, ih, step, getLastD_append]

/-- What no turn changes. -/
theorem preserved {field : σ → α} (step : ∀ state turn, field (next state turn) = field state)
    (state : σ) (turns : List τ) : field (turns.foldl next state) = field state := by
  induction turns generalizing state with
  | nil => rfl
  | cons turn rest ih => rw [List.foldl_cons, ih, step]

/-- A window of a buffer, from which some of the first elements are taken. -/
theorem window_split (buffer : List α) {start stop count : Nat} (fits : count ≤ stop - start) :
    (buffer.drop start).take (stop - start) =
      (buffer.drop start).take count ++ (buffer.drop (start + count)).take (stop - (start + count)) := by
  have parts : stop - start = count + (stop - (start + count)) := by omega
  conv_lhs => rw [parts, List.take_add, List.drop_drop]

end PioUsbHost.Lib.Stream
