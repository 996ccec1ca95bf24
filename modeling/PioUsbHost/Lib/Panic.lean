/-
**Checked computation: code that returns a value, returns an error, or panics.**

A `Checked` result keeps a panic apart from the errors that the code reports by itself. Indexing,
slicing and integer arithmetic are the operations that can panic; `andThen` and `orElse` are the
short-circuit connectives, whose second operand is not evaluated when the first decides.

* `bind_eq_ok`: a sequence returns a value only through a value of its first part.
* `guard_eq_ok`: a check lets the value through when it does not reject.
* `Safe`, `Ensures`: the computation does not panic, and its value satisfies a postcondition, with a
  rule for each construct (`safe_bind`, `ensures_bind`, `ensures_foldlM`, …).
* `foldlM_append_ok`, `foldlM_concat_eq_ok`: a loop over a concatenation, part by part.
* `foldlM_eq_ok_iff`: what a loop accepts, and its value, in closed form.
-/

import Mathlib.Data.List.Basic
import Mathlib.Data.List.Induction

namespace PioUsbHost.Lib.Panic

universe u v w

/-- Why a computation gives no value. -/
inductive Fault (ε : Type u) where
  | panic
  | error (error : ε)
  deriving DecidableEq, Repr

/-- The outcome of a computation that may report an error or panic. -/
abbrev Checked (ε : Type u) (α : Type v) := Except (Fault ε) α

variable {ε δ : Type u} {α β σ : Type v}

/-- The computation reports an error. -/
def fail (error : ε) : Checked ε α := .error (.error error)

/-- `xs[i]`. -/
def index (xs : List α) (i : Nat) : Checked ε α :=
  match xs[i]? with
  | some x => .ok x
  | none => .error .panic

/-- `&xs[start..stop]`. -/
def slice (xs : List α) (start stop : Nat) : Checked ε (List α) :=
  if start ≤ stop ∧ stop ≤ xs.length then .ok ((xs.drop start).take (stop - start))
  else .error .panic

/-- `a - b` on an unsigned type. -/
def subtract (a b : Nat) : Checked ε Nat := if b ≤ a then .ok (a - b) else .error .panic

/-- An arithmetic result on a type with `size` values, which panics when it overflows. -/
def fits (size result : Nat) : Checked ε Nat := if result < size then .ok result else .error .panic

/-- A signed arithmetic result on a type with the values from `-half` up to `half`. -/
def fitsSigned (half result : Int) : Checked ε Int :=
  if -half ≤ result ∧ result < half then .ok result else .error .panic

/-- `a / b` on an unsigned type. -/
def divide (a b : Nat) : Checked ε Nat := if b = 0 then .error .panic else .ok (a / b)

/-- `a / b` on a signed type, which rounds towards zero. -/
def divideSigned (half a b : Int) : Checked ε Int :=
  if b = 0 then .error .panic else fitsSigned half (a.tdiv b)

/-- The same result of a `checked_…` operation, which gives nothing when it overflows. -/
def checked (size result : Nat) : Option Nat := if result < size then some result else none

/-- `count.checked_add(1)` on a `u8`. -/
def increment (count : UInt8) : Option UInt8 :=
  if count.toNat + 1 < UInt8.size then some (count + 1) else none

/-- `xs.chunks_exact(size)`. -/
def chunksExact (size : Nat) (xs : List α) : List (List α) :=
  (List.range (xs.length / size)).map fun i => (xs.drop (size * i)).take size

/-- `first && second`. -/
def andThen (first : Bool) (second : Checked ε Bool) : Checked ε Bool :=
  if first then second else .ok false

/-- `first || second`. -/
def orElse (first : Bool) (second : Checked ε Bool) : Checked ε Bool :=
  if first then .ok true else second

/-- `option.ok_or(error)?` -/
def okOr (option : Option α) (error : ε) : Checked ε α :=
  match option with
  | some a => .ok a
  | none => fail error

/-- The `?` operator into another error type. -/
def convert (into : ε → δ) : Checked ε α → Checked δ α
  | .ok a => .ok a
  | .error .panic => .error .panic
  | .error (.error error) => fail (into error)

/-! ### Sequencing -/

@[simp] theorem ok_bind (a : α) (next : α → Checked ε β) : (Except.ok a >>= next) = next a := rfl

@[simp] theorem error_bind (fault : Fault ε) (next : α → Checked ε β) :
    ((Except.error fault : Checked ε α) >>= next) = .error fault := rfl

@[simp] theorem fail_bind (error : ε) (next : α → Checked ε β) :
    ((fail error : Checked ε α) >>= next) = fail error := rfl

@[simp] theorem pure_eq_ok (a : α) : (pure a : Checked ε α) = .ok a := rfl

@[simp] theorem fail_ne_ok (error : ε) (a : α) : (fail error : Checked ε α) ≠ .ok a := by
  intro same
  cases same

@[simp] theorem ok_ne_fail (error : ε) (a : α) : (.ok a : Checked ε α) ≠ fail error := by
  intro same
  cases same

/-- **A sequence returns a value only through a value of its first part.** -/
theorem bind_eq_ok {first : Checked ε α} {next : α → Checked ε β} {b : β} :
    (first >>= next) = .ok b ↔ ∃ a, first = .ok a ∧ next a = .ok b := by
  cases first with
  | error fault => simp only [error_bind, reduceCtorEq, false_and, exists_false]
  | ok a => simp only [ok_bind, Except.ok.injEq, exists_eq_left']

@[simp] theorem okOr_some (a : α) (error : ε) : okOr (some a) error = .ok a := rfl

@[simp] theorem okOr_none (error : ε) : (okOr none error : Checked ε α) = fail error := rfl

theorem okOr_eq_ok {option : Option α} {error : ε} {a : α} :
    okOr option error = .ok a ↔ option = some a := by
  cases option with
  | none => simp only [okOr_none, fail_ne_ok, reduceCtorEq]
  | some b => simp only [okOr_some, Except.ok.injEq, Option.some.injEq]

theorem toOption_eq_some {result : Checked ε α} {a : α} :
    result.toOption = some a ↔ result = .ok a := by
  cases result with
  | error fault => simp only [Except.toOption, reduceCtorEq]
  | ok b => simp only [Except.toOption, Except.ok.injEq, Option.some.injEq]

theorem filter_toOption_eq_some {result : Checked ε α} {keep : α → Bool} {a : α} :
    result.toOption.filter keep = some a ↔ result = .ok a ∧ keep a = true := by
  rw [Option.filter_eq_some_iff, toOption_eq_some]

/-- A count that goes up has not wrapped. -/
theorem increment_eq_some {count next : UInt8} :
    increment count = some next ↔ next.toNat = count.toNat + 1 := by
  rw [increment]
  split
  next small =>
    rw [Option.some.injEq, ← UInt8.toNat_inj, UInt8.toNat_add]
    show (count.toNat + 1) % UInt8.size = next.toNat ↔ _
    rw [Nat.mod_eq_of_lt small, eq_comm]
  next full =>
    have bounded : next.toNat < UInt8.size := next.toNat_lt
    have different : next.toNat ≠ count.toNat + 1 := by omega
    simp only [reduceCtorEq, different]

theorem index_eq_ok {xs : List α} {i : Nat} {x : α} :
    (index xs i : Checked ε α) = .ok x ↔ xs[i]? = some x := by
  rw [index]
  cases xs[i]? with
  | none => simp only [reduceCtorEq]
  | some y => simp only [Except.ok.injEq, Option.some.injEq]

/-- A check lets the value through when it does not reject. -/
theorem guard_eq_ok {rejected : Prop} [Decidable rejected] {error : ε} {a b : α} :
    (if rejected then fail error else .ok a : Checked ε α) = .ok b ↔ ¬ rejected ∧ b = a := by
  split
  next rejects => simp only [fail_ne_ok, rejects, not_true, false_and]
  next accepts => simp only [Except.ok.injEq, accepts, not_false_eq_true, true_and, eq_comm]

theorem require_eq_ok {accepted : Prop} [Decidable accepted] {error : ε} {a b : α} :
    (if accepted then .ok a else fail error : Checked ε α) = .ok b ↔ accepted ∧ b = a := by
  split
  next accepts => simp only [Except.ok.injEq, accepts, true_and, eq_comm]
  next rejects => simp only [fail_ne_ok, rejects, false_and]

theorem convert_eq_ok {into : ε → δ} {result : Checked ε α} {a : α} :
    convert into result = .ok a ↔ result = .ok a := by
  cases result with
  | ok b => simp [convert]
  | error fault => cases fault <;> simp [convert]

@[simp] theorem convert_id (result : Checked ε α) : convert id result = result := by
  cases result with
  | ok a => rfl
  | error fault => cases fault <;> rfl

theorem index_of_getElem? {xs : List α} {i : Nat} {x : α} (found : xs[i]? = some x) :
    (index xs i : Checked ε α) = .ok x := by
  rw [index, found]

theorem index_of_lt {xs : List α} {i : Nat} (small : i < xs.length) :
    (index xs i : Checked ε α) = .ok xs[i] :=
  index_of_getElem? (List.getElem?_eq_getElem small)

theorem slice_of_le {xs : List α} {start stop : Nat} (ordered : start ≤ stop)
    (inside : stop ≤ xs.length) :
    (slice xs start stop : Checked ε (List α)) = .ok ((xs.drop start).take (stop - start)) :=
  if_pos ⟨ordered, inside⟩

theorem subtract_of_le {a b : Nat} (small : b ≤ a) :
    (subtract a b : Checked ε Nat) = .ok (a - b) :=
  if_pos small

theorem fits_eq_ok {size result value : Nat} :
    (fits size result : Checked ε Nat) = .ok value ↔ result < size ∧ value = result := by
  rw [fits]
  split
  next small => simp only [Except.ok.injEq, small, true_and, eq_comm]
  next large => simp only [reduceCtorEq, large, false_and]

theorem fits_of_lt {size result : Nat} (small : result < size) :
    (fits size result : Checked ε Nat) = .ok result :=
  if_pos small

theorem fitsSigned_of_bounds {half result : Int} (low : -half ≤ result) (high : result < half) :
    (fitsSigned half result : Checked ε Int) = .ok result :=
  if_pos ⟨low, high⟩

theorem divide_of_pos {a b : Nat} (positive : 0 < b) : (divide a b : Checked ε Nat) = .ok (a / b) :=
  if_neg (Nat.ne_of_gt positive)

/-- The quotient of naturals, on a signed type that holds the dividend. -/
theorem divideSigned_natCast {half : Int} {a b : Nat} (positive : 0 < b) (small : (a : Int) < half) :
    (divideSigned half a b : Checked ε Int) = .ok ((a / b : Nat) : Int) := by
  have quotient : (a : Int).tdiv b = ((a / b : Nat) : Int) := rfl
  have le : a / b ≤ a := Nat.div_le_self a b
  rw [divideSigned, if_neg (by omega), quotient]
  generalize a / b = result at le
  exact fitsSigned_of_bounds (by omega) (by omega)

theorem chunksExact_of_lt {size : Nat} {xs : List α} (short : xs.length < size) :
    chunksExact size xs = [] := by
  rw [chunksExact, Nat.div_eq_of_lt short]
  rfl

/-- The first chunk and those of what follows it. -/
theorem chunksExact_append {size : Nat} {first rest : List α} (positive : 0 < size)
    (whole : first.length = size) :
    chunksExact size (first ++ rest) = first :: chunksExact size rest := by
  have count : (first ++ rest).length / size = rest.length / size + 1 := by
    rw [List.length_append, whole, Nat.add_div_left _ positive]
  rw [chunksExact, count, List.range_succ_eq_map, List.map_cons, List.map_map, Nat.mul_zero,
    List.drop_zero, ← whole, List.take_left]
  congr 1
  apply List.map_congr_left
  intro i inside
  show ((first ++ rest).drop (first.length * (i + 1))).take first.length = _
  rw [Nat.mul_succ, Nat.add_comm, List.drop_length_add_append]

/-- The chunks are as long as asked for. -/
theorem length_of_mem_chunksExact {size : Nat} {xs chunk : List α}
    (member : chunk ∈ chunksExact size xs) : chunk.length = size := by
  obtain ⟨i, inside, rfl⟩ := List.mem_map.mp member
  have whole : size * (i + 1) ≤ xs.length :=
    Nat.le_trans (Nat.mul_le_mul_left size (List.mem_range.mp inside)) (Nat.mul_div_le _ _)
  rw [List.length_take, List.length_drop, Nat.min_eq_left]
  rw [Nat.mul_add, Nat.mul_one] at whole
  omega

/-! ### Safe computations -/

/-- The computation does not panic. -/
def Safe (result : Checked ε α) : Prop := result ≠ .error .panic

@[simp] theorem safe_ok (a : α) : Safe (.ok a : Checked ε α) := nofun

@[simp] theorem safe_fail (error : ε) : Safe (fail error : Checked ε α) := nofun

/-- **A sequence is safe** if its first part is, and so is what follows each value of it. -/
theorem safe_bind {first : Checked ε α} {next : α → Checked ε β} (safe : Safe first)
    (follows : ∀ a, first = .ok a → Safe (next a)) : Safe (first >>= next) := by
  cases first with
  | ok a => exact follows a rfl
  | error fault =>
    cases fault with
    | panic => exact absurd rfl safe
    | error error => exact safe_fail error

@[simp] theorem safe_ite_iff {condition : Prop} [Decidable condition] {yes no : Checked ε α} :
    Safe (if condition then yes else no) ↔ (condition → Safe yes) ∧ (¬ condition → Safe no) := by
  split
  next holds => simp only [holds, forall_const, not_true, false_implies, and_true]
  next fails => simp only [fails, false_implies, not_false_eq_true, forall_const, true_and]

theorem safe_ite {condition : Prop} [Decidable condition] {yes no : Checked ε α}
    (holds : condition → Safe yes) (fails : ¬ condition → Safe no) :
    Safe (if condition then yes else no) :=
  safe_ite_iff.mpr ⟨holds, fails⟩

theorem safe_index {xs : List α} {i : Nat} (inside : i < xs.length) :
    Safe (index xs i : Checked ε α) := by
  rw [index_of_lt inside]
  exact safe_ok _

theorem safe_slice {xs : List α} {start stop : Nat} (ordered : start ≤ stop)
    (inside : stop ≤ xs.length) : Safe (slice xs start stop : Checked ε (List α)) := by
  rw [slice_of_le ordered inside]
  exact safe_ok _

theorem safe_andThen {first : Bool} {second : Checked ε Bool} (safe : first = true → Safe second) :
    Safe (andThen first second) :=
  safe_ite safe fun _ => safe_ok _

theorem safe_orElse {first : Bool} {second : Checked ε Bool} (safe : first = false → Safe second) :
    Safe (orElse first second) :=
  safe_ite (fun _ => safe_ok _) fun no => safe (Bool.eq_false_iff.mpr no)

/-- A conjunction that holds has evaluated both operands. -/
theorem of_andThen {first : Bool} {second : Checked ε Bool} {value : Bool}
    (evaluated : andThen first second = .ok value) (yes : value = true) :
    first = true ∧ second = .ok true := by
  rw [andThen] at evaluated
  split at evaluated
  next present => exact ⟨present, by rw [evaluated, yes]⟩
  · cases evaluated
    cases yes

/-- A disjunction that does not hold has evaluated both operands. -/
theorem of_orElse {first : Bool} {second : Checked ε Bool} {value : Bool}
    (evaluated : orElse first second = .ok value) (no : ¬ value = true) :
    first = false ∧ second = .ok false := by
  rw [orElse] at evaluated
  split at evaluated
  · cases evaluated
    exact absurd rfl no
  next absent =>
    rw [evaluated, Bool.eq_false_iff.mpr no]
    exact ⟨Bool.eq_false_iff.mpr absent, rfl⟩

theorem safe_okOr (option : Option α) (error : ε) : Safe (okOr option error) := by
  cases option with
  | none => exact safe_fail error
  | some a => exact safe_ok a

theorem safe_convert {into : ε → δ} {result : Checked ε α} (safe : Safe result) :
    Safe (convert into result) := by
  cases result with
  | ok a => exact safe_ok a
  | error fault =>
    cases fault with
    | panic => exact absurd rfl safe
    | error error => exact safe_fail _

/-! ### Postconditions -/

/-- The computation does not panic, and a value that it returns satisfies the postcondition. -/
def Ensures (Post : α → Prop) (result : Checked ε α) : Prop :=
  Safe result ∧ ∀ a, result = .ok a → Post a

section Ensures

variable {Post : α → Prop} {Then : β → Prop} {first : Checked ε α} {next : α → Checked ε β}

@[simp] theorem ensures_ok_iff {a : α} : Ensures Post (.ok a : Checked ε α) ↔ Post a :=
  ⟨fun ensured => ensured.2 a rfl, fun holds => ⟨safe_ok a, fun _ same => Except.ok.inj same ▸ holds⟩⟩

theorem ensures_ok {a : α} (holds : Post a) : Ensures Post (.ok a : Checked ε α) :=
  ensures_ok_iff.mpr holds

@[simp] theorem ensures_fail (error : ε) : Ensures Post (fail error : Checked ε α) :=
  ⟨safe_fail error, fun a same => absurd same (fail_ne_ok error a)⟩

theorem ensures_ite {condition : Prop} [Decidable condition] {yes no : Checked ε α}
    (holds : condition → Ensures Post yes) (fails : ¬ condition → Ensures Post no) :
    Ensures Post (if condition then yes else no) := by
  split
  next condition => exact holds condition
  next condition => exact fails condition

/-- **A sequence** ensures what its second part does after each value of a safe first part. -/
theorem ensures_bind (safe : Safe first) (follows : ∀ a, first = .ok a → Ensures Then (next a)) :
    Ensures Then (first >>= next) := by
  refine ⟨safe_bind safe fun a returned => (follows a returned).1, fun b returned => ?_⟩
  obtain ⟨a, returned, onward⟩ := bind_eq_ok.mp returned
  exact (follows a returned).2 b onward

theorem Ensures.bind (ensured : Ensures Post first) (follows : ∀ a, Post a → Ensures Then (next a)) :
    Ensures Then (first >>= next) :=
  ensures_bind ensured.1 fun a returned => follows a (ensured.2 a returned)

/-- **A loop** keeps what every step keeps. -/
theorem ensures_foldlM {step : σ → α → Checked ε σ} {Inv : σ → Prop} {xs : List α} {start : σ}
    (steps : ∀ state, ∀ x ∈ xs, Inv state → Ensures Inv (step state x)) (initial : Inv start) :
    Ensures Inv (xs.foldlM step start) := by
  induction xs generalizing start with
  | nil => exact ensures_ok initial
  | cons x others ih =>
    rw [List.foldlM_cons]
    refine (steps start x List.mem_cons_self initial).bind fun next inv => ?_
    exact ih (fun state other member => steps state other (List.mem_cons_of_mem _ member)) inv

theorem safe_foldlM {step : σ → α → Checked ε σ} {xs : List α}
    (steps : ∀ state, ∀ x ∈ xs, Safe (step state x)) (start : σ) : Safe (xs.foldlM step start) :=
  have kept : Ensures (fun _ => True) (xs.foldlM step start) :=
    ensures_foldlM (fun state x member _ => ⟨steps state x member, fun _ _ => trivial⟩) trivial
  kept.1

end Ensures

/-! ### Loops -/

theorem foldlM_append_ok {step : σ → α → Checked ε σ} {start middle : σ} {first : List α}
    (runs : first.foldlM step start = .ok middle) (second : List α) :
    (first ++ second).foldlM step start = second.foldlM step middle := by
  rw [List.foldlM_append, runs, ok_bind]

/-- A loop over one more element. -/
theorem foldlM_concat_eq_ok {step : σ → α → Checked ε σ} {start stop : σ} {first : List α}
    {last : α} :
    (first ++ [last]).foldlM step start = .ok stop ↔
      ∃ middle, first.foldlM step start = .ok middle ∧ step middle last = .ok stop := by
  rw [List.foldlM_append, bind_eq_ok]
  simp only [List.foldlM_cons, List.foldlM_nil, bind_pure]

/-- **A loop in closed form**: when, on the lists it accepts so far, one step accepts exactly the
lists with one more element and keeps the closed form, so does the whole loop. -/
theorem foldlM_eq_ok_iff {step : σ → α → Checked ε σ} {start : σ} {Proper : α → Prop}
    {Accepted : List α → Prop} {value : List α → σ} (empty : Accepted [])
    (initial : value [] = start)
    (ofAppend : ∀ {first second}, Accepted (first ++ second) → Accepted first)
    (concat : ∀ {first last result}, Proper last → Accepted first →
      (step (value first) last = .ok result ↔
        Accepted (first ++ [last]) ∧ result = value (first ++ [last])))
    {xs : List α} (proper : ∀ x ∈ xs, Proper x) {result : σ} :
    xs.foldlM step start = .ok result ↔ Accepted xs ∧ result = value xs := by
  induction xs using List.reverseRecOn generalizing result with
  | nil =>
    simp only [List.foldlM_nil, pure_eq_ok, Except.ok.injEq, empty, initial, true_and,
      eq_comm (a := result)]
  | append_singleton first last ih =>
    have properFirst : ∀ x ∈ first, Proper x := fun x member =>
      proper x (List.mem_append_left _ member)
    have properLast := proper last (by simp)
    rw [foldlM_concat_eq_ok]
    constructor
    · rintro ⟨middle, runs, steps⟩
      obtain ⟨accepted, rfl⟩ := (ih properFirst).mp runs
      exact (concat properLast accepted).mp steps
    · rintro ⟨extended, rfl⟩
      have accepted := ofAppend extended
      exact ⟨value first, (ih properFirst).mpr ⟨accepted, rfl⟩,
        (concat properLast accepted).mpr ⟨extended, rfl⟩⟩

end PioUsbHost.Lib.Panic
