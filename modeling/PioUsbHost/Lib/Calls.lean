/-
**Iterators as functions of their state.**

A call of `next` yields something or nothing, and leaves the iterator in its next state.

* `collect_eq_of_nth`: enough calls collect what the calls yield.
* `nth_eq_of_simulation`, `collect_eq_of_simulation`: iterators that simulate each other yield the same.
* `Ends.nth_preserves`: what every state that satisfies the invariant yields, every call yields.
* `Ends.nth_eq_none`: an iterator that gets closer to its end with every call yields nothing after
  enough calls; `Ends.collect_eq`: and more calls collect no more.
-/

import Mathlib.Order.Basic

namespace PioUsbHost.Lib.Calls

universe u v w

/-- What a call yields, and the iterator after it. -/
abbrev Next (ι : Type u) (α : Type v) := ι → Option α × ι

variable {ι : Type u} {κ : Type w} {α : Type v} {next : Next ι α} {other : Next κ α}

/-- The iterator after some calls. -/
def after (next : Next ι α) : Nat → ι → ι
  | 0, iter => iter
  | calls + 1, iter => after next calls (next iter).2

/-- What a call yields, after some calls. -/
def nth (next : Next ι α) (calls : Nat) (iter : ι) : Option α := (next (after next calls iter)).1

/-- What the first calls yield, up to the first one that yields nothing. -/
def collect (next : Next ι α) : Nat → ι → List α
  | 0, _ => []
  | calls + 1, iter =>
    match next iter with
    | (none, _) => []
    | (some item, rest) => item :: collect next calls rest

theorem after_succ (next : Next ι α) (calls : Nat) (iter : ι) :
    after next (calls + 1) iter = (next (after next calls iter)).2 := by
  induction calls generalizing iter with
  | zero => rfl
  | succ calls ih => exact ih (next iter).2

theorem collect_of_none {calls : Nat} {iter : ι} (ended : (next iter).1 = none) :
    collect next calls iter = [] := by
  cases calls with
  | zero => rfl
  | succ calls =>
    rw [collect]
    rcases yielded : next iter with ⟨_ | item, rest⟩
    · rfl
    · rw [yielded] at ended
      cases ended

theorem collect_of_some {calls : Nat} {iter : ι} {item : α} (yields : (next iter).1 = some item) :
    collect next (calls + 1) iter = item :: collect next calls (next iter).2 := by
  rw [collect]
  rcases yielded : next iter with ⟨_ | found, rest⟩ <;> rw [yielded] at yields <;> cases yields
  rfl

/-- **Enough calls** collect what the calls yield. -/
theorem collect_eq_of_nth {iter : ι} {items : List α}
    (yields : ∀ calls, nth next calls iter = items[calls]?) {calls : Nat}
    (enough : items.length ≤ calls) : collect next calls iter = items := by
  induction items generalizing iter calls with
  | nil => exact collect_of_none (yields 0)
  | cons item rest ih =>
    obtain ⟨fewer, rfl⟩ : ∃ fewer, calls = fewer + 1 :=
      Nat.exists_eq_add_one_of_ne_zero (Nat.ne_zero_of_lt enough)
    have first : (next iter).1 = some item := yields 0
    rw [collect_of_some first,
      ih (fun later => yields (later + 1)) (Nat.le_of_succ_le_succ enough)]

/-! ### Invariants -/

theorem after_preserves {Inv : ι → Prop} (step : ∀ {iter}, Inv iter → Inv (next iter).2)
    {iter : ι} (holds : Inv iter) (calls : Nat) : Inv (after next calls iter) := by
  induction calls generalizing iter with
  | zero => exact holds
  | succ calls ih => exact ih (step holds)

/-! ### Simulation -/

/-- Related iterators yield the same and stay related. -/
def Simulation (next : Next ι α) (other : Next κ α) (Related : ι → κ → Prop) : Prop :=
  ∀ {first second}, Related first second →
    (next first).1 = (other second).1 ∧ Related (next first).2 (other second).2

/-- **Iterators that simulate each other** yield the same at every call. -/
theorem nth_eq_of_simulation {Related : ι → κ → Prop}
    (simulation : Simulation next other Related) {first : ι} {second : κ}
    (related : Related first second) (calls : Nat) :
    nth next calls first = nth other calls second := by
  induction calls generalizing first second with
  | zero => exact (simulation related).1
  | succ calls ih => exact ih (simulation related).2

theorem collect_eq_of_simulation {Related : ι → κ → Prop}
    (simulation : Simulation next other Related) {first : ι} {second : κ}
    (related : Related first second) (calls : Nat) :
    collect next calls first = collect other calls second := by
  induction calls generalizing first second with
  | zero => rfl
  | succ calls ih =>
    obtain ⟨same, onward⟩ := simulation related
    cases yields : (next first).1 with
    | none => rw [collect_of_none yields, collect_of_none (same ▸ yields)]
    | some item => rw [collect_of_some yields, collect_of_some (same ▸ yields), ih onward]

/-! ### The end -/

/-- Every call gets closer to the end, after which nothing is yielded. -/
structure Ends (next : Next ι α) (Inv : ι → Prop) (left : ι → Nat) : Prop where
  invariant : ∀ {iter}, Inv iter → Inv (next iter).2
  ended : ∀ {iter}, Inv iter → left iter = 0 → (next iter).1 = none ∧ left (next iter).2 = 0
  advances : ∀ {iter}, Inv iter → 0 < left iter → left (next iter).2 < left iter

variable {Inv : ι → Prop} {left : ι → Nat} {iter : ι}

/-- **What every call yields.** -/
theorem Ends.nth_preserves {Good : α → Prop} (ends : Ends next Inv left)
    (yields : ∀ {iter}, Inv iter → ∀ item ∈ (next iter).1, Good item) (inv : Inv iter)
    (calls : Nat) : ∀ item ∈ nth next calls iter, Good item :=
  yields (after_preserves ends.invariant inv calls)

theorem Ends.collect_preserves {Good : α → Prop} (ends : Ends next Inv left)
    (yields : ∀ {iter}, Inv iter → ∀ item ∈ (next iter).1, Good item) (inv : Inv iter)
    (calls : Nat) : ∀ item ∈ collect next calls iter, Good item := by
  induction calls generalizing iter with
  | zero => exact fun item member => nomatch member
  | succ calls ih =>
    cases yielded : (next iter).1 with
    | none =>
      rw [collect_of_none yielded]
      exact fun item member => nomatch member
    | some found =>
      rw [collect_of_some yielded]
      intro item member
      rcases List.mem_cons.mp member with rfl | later
      · exact yields inv item yielded
      · exact ih (ends.invariant inv) item later

/-- **After enough calls** nothing is yielded. -/
theorem Ends.nth_eq_none (ends : Ends next Inv left) (inv : Inv iter) {calls : Nat}
    (enough : left iter ≤ calls) : nth next calls iter = none := by
  induction calls generalizing iter with
  | zero => exact (ends.ended inv (Nat.le_zero.mp enough)).1
  | succ calls ih =>
    refine ih (ends.invariant inv) ?_
    rcases Nat.eq_zero_or_pos (left iter) with zero | positive
    · exact (ends.ended inv zero).2 ▸ Nat.zero_le _
    · exact Nat.le_of_lt_succ (Nat.lt_of_lt_of_le (ends.advances inv positive) enough)

/-- **Enough calls** collect everything. -/
theorem Ends.collect_eq (ends : Ends next Inv left) (inv : Inv iter) {few many : Nat}
    (enough : left iter ≤ few) (more : few ≤ many) :
    collect next many iter = collect next few iter := by
  induction few generalizing iter many with
  | zero => rw [collect_of_none (ends.ended inv (Nat.le_zero.mp enough)).1, collect]
  | succ few ih =>
    obtain ⟨many, rfl⟩ : ∃ fewer, many = fewer + 1 := Nat.exists_eq_add_one_of_ne_zero (by omega)
    cases yields : (next iter).1 with
    | none => rw [collect_of_none yields, collect_of_none yields]
    | some item =>
      have closer : left (next iter).2 ≤ few := by
        rcases Nat.eq_zero_or_pos (left iter) with zero | positive
        · rw [(ends.ended inv zero).2]
          exact Nat.zero_le few
        · have lower := ends.advances inv positive
          omega
      rw [collect_of_some yields, collect_of_some yields,
        ih (ends.invariant inv) closer (Nat.le_of_succ_le_succ more)]

end PioUsbHost.Lib.Calls
