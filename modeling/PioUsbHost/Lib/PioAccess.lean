/-
**A state machine attended by a CPU.**

Before any cycle the CPU may push words and clear interrupt flags (`Access`). Most instructions look
neither at the OSR nor at any flag, and while the program is among those, what the CPU does only adds
to the queue:

* `cycle_alike`: machines that differ in their queues, and in flags nothing waits for, stay alike over
  an instruction that does not look at the queue.
* `attended_alike`: the same of a run, whatever the CPU pushes and clears.
* `cycle_irqs`, `cycle_dirs`, `cycle_pc`, `cycle_refill`: what an instruction leaves alone.
* `attended_swap`: exchanging the pins in the program exchanges them in an attended run.
-/

import PioUsbHost.Lib.PioMachine

namespace PioUsbHost.Lib.PioMachine

/-! ### The CPU's part -/

/-- What the CPU does before a cycle. -/
structure Access where
  pushed : List Word
  cleared : Nat → Bool

/-- The CPU does nothing. -/
def Access.none : Access := { pushed := [], cleared := fun _ => false }

/-- The machine after an access. -/
def Machine.access (machine : Machine) (access : Access) : Machine :=
  { machine with
    fifo := machine.fifo ++ access.pushed
    irqs := fun index => machine.irqs index && !access.cleared index }

/-- The machine while the CPU attends to it. -/
def attended (config : Config) (accesses : Nat → Access) (machine : Machine) : Nat → Machine
  | 0 => machine
  | time + 1 => cycle config ((attended config accesses machine time).access (accesses time))

/-- The lines after each of the first cycles. -/
def attendedLines (config : Config) (accesses : Nat → Access) (machine : Machine) (cycles : Nat) :
    List Lines :=
  (List.range cycles).map fun time => (attended config accesses machine (time + 1)).lines

theorem access_none (machine : Machine) : machine.access Access.none = machine := by
  unfold Machine.access Access.none
  simp only [List.append_nil, Bool.not_false, Bool.and_true]

/-- A run may be cut anywhere. -/
theorem attended_add (config : Config) (accesses : Nat → Access) (machine : Machine)
    (first second : Nat) :
    attended config accesses machine (first + second) =
      attended config (fun time => accesses (first + time))
        (attended config accesses machine first) second := by
  induction second with
  | zero => rfl
  | succ second ih => rw [← Nat.add_assoc, attended, ih, attended]

theorem attendedLines_add (config : Config) (accesses : Nat → Access) (machine : Machine)
    (first second : Nat) :
    attendedLines config accesses machine (first + second) =
      attendedLines config accesses machine first ++
        attendedLines config (fun time => accesses (first + time))
          (attended config accesses machine first) second := by
  unfold attendedLines
  rw [List.range_add, List.map_append, List.map_map]
  refine congrArg (_ ++ ·) (List.map_congr_left fun time _ => ?_)
  rw [Function.comp_apply, Nat.add_assoc, attended_add]

/-- The CPU leaves the machine alone. -/
theorem attended_none (config : Config) {accesses : Nat → Access} (machine : Machine) {cycles : Nat}
    (alone : ∀ time, time < cycles → accesses time = Access.none) :
    attended config accesses machine cycles = run config cycles machine ∧
      attendedLines config accesses machine cycles = trace config cycles machine := by
  have same : ∀ time, time ≤ cycles →
      attended config accesses machine time = run config time machine := by
    intro time
    induction time with
    | zero => exact fun _ => rfl
    | succ time ih =>
      intro within
      rw [attended, ih (Nat.le_of_succ_le within), alone time within, access_none, run_add]
      rfl
  refine ⟨same cycles le_rfl, ?_⟩
  unfold attendedLines
  refine List.ext_getElem ?_ fun time inside within => ?_
  · rw [trace_length, List.length_map, List.length_range]
  · rw [List.getElem_map, List.getElem_range, trace_getElem]
    rw [trace_length] at within
    rw [same (time + 1) within]

section Feeds

variable {words : List Word} (feed : Feed words)

/-- Once everything has been pushed nothing more is. -/
theorem Feed.spent {time : Nat} (spent : feed.remaining time = []) (later : Nat) :
    feed.pushed (time + later) = [] ∧ feed.remaining (time + later) = [] := by
  have none : ∀ later, feed.remaining (time + later) = [] := by
    intro later
    induction later with
    | zero => exact spent
    | succ later ih =>
      have split := feed.split (time + later)
      rw [ih] at split
      exact (List.append_eq_nil_iff.mp split.symm).2
  have split := feed.split (time + later)
  rw [none later] at split
  exact ⟨(List.append_eq_nil_iff.mp split.symm).1, none later⟩

/-- Until something is pushed everything remains. -/
theorem Feed.waits {time : Nat} (silent : ∀ earlier < time, feed.pushed earlier = []) :
    feed.remaining time = words := by
  induction time with
  | zero => exact feed.all
  | succ time ih =>
    have split := feed.split time
    rw [ih fun earlier before => silent earlier (Nat.lt_succ_of_lt before),
      silent time (Nat.lt_succ_self time)] at split
    exact split.symm

end Feeds

/-! ### What an instruction does not look at -/

/-- Whether an instruction looks at the OSR or at its counter. -/
def Op.readsQueue : Op → Bool
  | .jmp .notOsre _ => true
  | .out _ _ => true
  | _ => false

/-- The flags an instruction names. -/
def Op.flag : Op → Option Nat
  | .irq index => some index
  | .irqWait index => some index
  | _ => Option.none

/-- The flag an instruction waits for. -/
def Op.awaits : Op → Option Nat
  | .irqWait index => some index
  | _ => Option.none

/-- An instruction that does not look at the queue, and waits for no flag but `watched`. -/
structure Op.Blind (watched : Nat) (op : Op) : Prop where
  queue : op.readsQueue = false
  flag : ∀ index, op.awaits = some index → index = watched

/-- Two machines that differ at most in their queues and in other flags than `watched`. -/
structure Alike (watched : Nat) (first second : Machine) : Prop where
  pc : first.pc = second.pc
  x : first.x = second.x
  y : first.y = second.y
  delay : first.delay = second.delay
  waiting : first.waiting = second.waiting
  pins : first.pins = second.pins
  dirs : first.dirs = second.dirs
  watched : first.irqs watched = second.irqs watched

section Alike

variable {config : Config} {watched : Nat} {first second : Machine}

theorem Alike.refl (machine : Machine) : Alike watched machine machine :=
  ⟨rfl, rfl, rfl, rfl, rfl, rfl, rfl, rfl⟩

theorem Alike.lines (alike : Alike watched first second) : first.lines = second.lines := by
  unfold Machine.lines
  rw [alike.pins, alike.dirs]

theorem Alike.refill (alike : Alike watched first second) :
    Alike watched (first.refill config) (second.refill config) := by
  constructor
  · rw [refill_pc, refill_pc, alike.pc]
  · rw [refill_x, refill_x, alike.x]
  · rw [refill_y, refill_y, alike.y]
  · rw [refill_delay, refill_delay, alike.delay]
  · rw [refill_waiting, refill_waiting, alike.waiting]
  · rw [refill_pins, refill_pins, alike.pins]
  · rw [refill_dirs, refill_dirs, alike.dirs]
  · rw [refill_irqs, refill_irqs, alike.watched]

theorem Alike.complete (alike : Alike watched first second) (pc delay : Nat) :
    Alike watched (first.complete pc delay) (second.complete pc delay) :=
  ⟨rfl, alike.x, alike.y, rfl, alike.waiting, alike.pins, alike.dirs, alike.watched⟩

theorem Alike.nextPc (alike : Alike watched first second) :
    first.nextPc config = second.nextPc config := by
  unfold Machine.nextPc
  rw [alike.pc]

/-- Completing an instruction keeps machines alike. -/
theorem Alike.done (alike : Alike watched first second) (delay : Nat) :
    Alike watched ((first.complete (first.nextPc config) delay).refill config)
      ((second.complete (second.nextPc config) delay).refill config) := by
  rw [alike.nextPc]
  exact (alike.complete _ delay).refill

/-- Pushing, and clearing other flags, keeps machines alike. -/
theorem Alike.access (alike : Alike watched first second) {access : Access}
    (kept : access.cleared watched = false) : Alike watched first (second.access access) := by
  refine ⟨alike.pc, alike.x, alike.y, alike.delay, alike.waiting, alike.pins, alike.dirs, ?_⟩
  show first.irqs watched = (second.irqs watched && !access.cleared watched)
  rw [kept, alike.watched, Bool.not_false, Bool.and_true]

theorem Alike.postDec (alike : Alike watched first second) (condition : Condition) :
    Alike watched (first.postDec condition) (second.postDec condition) := by
  cases condition with
  | xPostDec =>
    exact ⟨alike.pc, congrArg (· - 1) alike.x, alike.y, alike.delay, alike.waiting, alike.pins,
      alike.dirs, alike.watched⟩
  | yPostDec =>
    exact ⟨alike.pc, alike.x, congrArg (· - 1) alike.y, alike.delay, alike.waiting, alike.pins,
      alike.dirs, alike.watched⟩
  | always => exact alike
  | notX => exact alike
  | notY => exact alike
  | xNeY => exact alike
  | notOsre => exact alike

theorem Alike.holds (alike : Alike watched first second) {condition : Condition}
    (blind : condition ≠ .notOsre) :
    first.holds config condition = second.holds config condition := by
  cases condition with
  | notOsre => exact absurd rfl blind
  | always => rfl
  | notX => exact congrArg (· == 0) alike.x
  | xPostDec => exact congrArg (· != 0) alike.x
  | notY => exact congrArg (· == 0) alike.y
  | yPostDec => exact congrArg (· != 0) alike.y
  | xNeY =>
    show (first.x != first.y) = (second.x != second.y)
    rw [alike.x, alike.y]

/-- A flag raised in both machines. -/
theorem Alike.raise (alike : Alike watched first second) (index : Nat) :
    Function.update first.irqs index true watched =
      Function.update second.irqs index true watched := by
  unfold Function.update
  split
  · rfl
  · exact alike.watched

/-- **An instruction that does not look** at the queue or at other flags. -/
theorem execute_alike {instr : Instr} (blind : instr.op.Blind watched)
    (alike : Alike watched first second) :
    Alike watched (first.execute config instr) (second.execute config instr) := by
  obtain ⟨op, side, delay⟩ := instr
  unfold Machine.execute
  cases op with
  | jmp condition target =>
    have other : condition ≠ .notOsre := fun same => by
      subst same
      exact Bool.noConfusion blind.queue
    simp only [alike.holds other]
    split
    · exact ((alike.postDec condition).complete target delay).refill
    · exact (alike.postDec condition).done delay
  | out dest count => exact Bool.noConfusion blind.queue
  | irqWait index =>
    obtain rfl : index = watched := blind.flag index rfl
    simp only [alike.waiting, alike.watched]
    split
    · refine Alike.refill ?_
      exact ⟨alike.pc, alike.x, alike.y, alike.delay, rfl, alike.pins, alike.dirs,
        alike.raise index⟩
    · split
      · exact alike.refill
      · refine Alike.done ?_ delay
        exact ⟨alike.pc, alike.x, alike.y, alike.delay, rfl, alike.pins, alike.dirs,
          alike.watched⟩
  | nop => exact alike.done delay
  | irq index =>
    refine Alike.done ?_ delay
    exact ⟨alike.pc, alike.x, alike.y, alike.delay, alike.waiting, alike.pins, alike.dirs,
      alike.raise index⟩
  | setX value =>
    refine Alike.done ?_ delay
    exact ⟨alike.pc, rfl, alike.y, alike.delay, alike.waiting, alike.pins, alike.dirs,
      alike.watched⟩
  | setY value =>
    refine Alike.done ?_ delay
    exact ⟨alike.pc, alike.x, rfl, alike.delay, alike.waiting, alike.pins, alike.dirs,
      alike.watched⟩
  | setPins pins =>
    refine Alike.done ?_ delay
    exact ⟨alike.pc, alike.x, alike.y, alike.delay, alike.waiting, rfl, alike.dirs,
      alike.watched⟩
  | setPindirs dirs =>
    refine Alike.done ?_ delay
    exact ⟨alike.pc, alike.x, alike.y, alike.delay, alike.waiting, alike.pins, rfl,
      alike.watched⟩

/-- **Alike machines stay alike** over an instruction that does not look. -/
theorem cycle_alike (alike : Alike watched first second)
    (blind : ∀ instr, config.program first.pc = some instr → instr.op.Blind watched) :
    Alike watched (cycle config first) (cycle config second) := by
  unfold cycle
  rw [← alike.delay, ← alike.pc]
  split
  · refine Alike.refill ?_
    exact ⟨rfl, alike.x, alike.y, rfl, alike.waiting, alike.pins, alike.dirs, alike.watched⟩
  · cases found : config.program first.pc with
    | none => exact alike
    | some instr =>
      refine execute_alike (blind instr found) ⟨alike.pc, alike.x, alike.y, alike.delay,
        alike.waiting, ?_, alike.dirs, alike.watched⟩
      show instr.side.getD first.pins = instr.side.getD second.pins
      rw [alike.pins]

/-- **A run that does not look** is the same, however the CPU attends to it. -/
theorem attended_alike {accesses : Nat → Access} {cycles : Nat} (alike : Alike watched first second)
    (blind : ∀ time, time < cycles → ∀ instr,
      config.program (run config time first).pc = some instr → instr.op.Blind watched)
    (kept : ∀ time, time < cycles → (accesses time).cleared watched = false) :
    Alike watched (run config cycles first) (attended config accesses second cycles) := by
  induction cycles with
  | zero => exact alike
  | succ cycles ih =>
    have so := ih (fun time within => blind time (Nat.lt_succ_of_lt within))
      (fun time within => kept time (Nat.lt_succ_of_lt within))
    rw [run_add, attended]
    exact cycle_alike (so.access (kept cycles (Nat.lt_succ_self cycles)))
      (blind cycles (Nat.lt_succ_self cycles))

end Alike

/-! ### What an instruction leaves alone -/

section Frame

variable {config : Config} {machine : Machine}

/-- **A flag changes only in an instruction that names it.** -/
theorem cycle_irqs {index : Nat}
    (other : machine.delay = 0 → ∀ instr, config.program machine.pc = some instr →
      instr.op.flag ≠ some index) :
    (cycle config machine).irqs index = machine.irqs index := by
  unfold cycle
  split
  · rw [refill_irqs]
  · rename_i idle
    cases found : config.program machine.pc with
    | none => rfl
    | some instr =>
      have unnamed := other (not_not.mp idle) instr found
      obtain ⟨op, side, delay⟩ := instr
      unfold Machine.execute
      cases op with
      | jmp condition target =>
        have kept : ((machine.sideSet side).postDec condition).irqs = machine.irqs := by
          cases condition <;> rfl
        simp only
        split <;> rw [refill_irqs] <;> exact congrFun kept index
      | out dest count =>
        have kept : ((machine.sideSet side).output dest count).irqs = machine.irqs := by
          cases dest <;> rfl
        simp only
        split
        · rw [refill_irqs]; rfl
        · rw [refill_irqs]; exact congrFun kept index
      | irq named =>
        rw [refill_irqs]
        exact Function.update_of_ne (fun same => unnamed (congrArg some same.symm)) _ _
      | irqWait named =>
        have differs : index ≠ named := fun same => unnamed (congrArg some same.symm)
        simp only
        split
        · rw [refill_irqs]; exact Function.update_of_ne differs _ _
        · split <;> rw [refill_irqs] <;> rfl
      | nop => rw [refill_irqs]; rfl
      | setX value => rw [refill_irqs]; rfl
      | setY value => rw [refill_irqs]; rfl
      | setPins pins => rw [refill_irqs]; rfl
      | setPindirs dirs => rw [refill_irqs]; rfl

/-- Where an instruction may jump to. -/
def Op.target : Op → Option Nat
  | .jmp _ target => some target
  | _ => Option.none

/-- The addresses an instruction may go to, and its own. -/
def Config.Follows (config : Config) (pc next : Nat) : Prop :=
  next = pc ∨ ∃ instr, config.program pc = some instr ∧
    (next = (if pc = config.wrapTop then config.wrapBottom else pc + 1) ∨
      instr.op.target = some next)

/-- **The program counter** stays, moves on or jumps. -/
theorem cycle_pc : config.Follows machine.pc (cycle config machine).pc := by
  unfold cycle
  split
  · exact Or.inl (refill_pc _ _)
  · cases found : config.program machine.pc with
    | none => exact Or.inl rfl
    | some instr =>
      obtain ⟨op, side, delay⟩ := instr
      have moved : ∀ next : Machine, next.pc = machine.pc →
          config.Follows machine.pc ((next.complete (next.nextPc config) delay).refill config).pc := by
        intro next same
        rw [refill_pc]
        refine Or.inr ⟨_, found, Or.inl ?_⟩
        show next.nextPc config = _
        unfold Machine.nextPc
        rw [same]
      unfold Machine.execute
      cases op with
      | jmp condition target =>
        simp only
        split
        · rw [refill_pc]
          exact Or.inr ⟨_, found, Or.inr rfl⟩
        · exact moved _ (by cases condition <;> rfl)
      | out dest count =>
        simp only
        split
        · exact Or.inl (refill_pc _ _)
        · exact moved _ (by cases dest <;> rfl)
      | irqWait index =>
        simp only
        split
        · exact Or.inl (refill_pc _ _)
        · split
          · exact Or.inl (refill_pc _ _)
          · exact moved _ rfl
      | nop => exact moved _ rfl
      | irq index => exact moved _ rfl
      | setX value => exact moved _ rfl
      | setY value => exact moved _ rfl
      | setPins pins => exact moved _ rfl
      | setPindirs dirs => exact moved _ rfl

/-- Whether an instruction turns the pins round. -/
def Op.turns : Op → Bool
  | .setPindirs _ => true
  | _ => false

/-- **The directions change only in an instruction that sets them.** -/
theorem cycle_dirs (other : machine.delay = 0 → ∀ instr, config.program machine.pc = some instr →
    instr.op.turns = false) : (cycle config machine).dirs = machine.dirs := by
  unfold cycle
  split
  · rw [refill_dirs]
  · rename_i idle
    cases found : config.program machine.pc with
    | none => rfl
    | some instr =>
      have never := other (not_not.mp idle) instr found
      obtain ⟨op, side, delay⟩ := instr
      unfold Machine.execute
      cases op with
      | jmp condition target =>
        have kept : ((machine.sideSet side).postDec condition).dirs = machine.dirs := by
          cases condition <;> rfl
        simp only
        split <;> rw [refill_dirs] <;> exact kept
      | out dest count =>
        have kept : ((machine.sideSet side).output dest count).dirs = machine.dirs := by
          cases dest <;> rfl
        simp only
        split
        · rw [refill_dirs]; rfl
        · rw [refill_dirs]; exact kept
      | irqWait index =>
        simp only
        split
        · rw [refill_dirs]; rfl
        · split <;> rw [refill_dirs] <;> rfl
      | setPindirs dirs => exact Bool.noConfusion never
      | nop => rw [refill_dirs]; rfl
      | irq index => rw [refill_dirs]; rfl
      | setX value => rw [refill_dirs]; rfl
      | setY value => rw [refill_dirs]; rfl
      | setPins pins => rw [refill_dirs]; rfl

/-- **An instruction that does not look at the queue** only tops it up. -/
theorem cycle_refill {instr : Instr} (found : config.program machine.pc = some instr)
    (blind : instr.op.readsQueue = false) : ∃ next : Machine,
      cycle config machine = next.refill config ∧ next.osr = machine.osr ∧
        next.osrCount = machine.osrCount ∧ next.fifo = machine.fifo := by
  unfold cycle
  split
  · exact ⟨_, rfl, rfl, rfl, rfl⟩
  · obtain ⟨op, side, delay⟩ := instr
    rw [found]
    unfold Machine.execute
    cases op with
    | jmp condition target =>
      have kept : ((machine.sideSet side).postDec condition).osr = machine.osr ∧
          ((machine.sideSet side).postDec condition).osrCount = machine.osrCount ∧
          ((machine.sideSet side).postDec condition).fifo = machine.fifo := by
        cases condition <;> exact ⟨rfl, rfl, rfl⟩
      simp only
      split
      · exact ⟨_, rfl, kept⟩
      · exact ⟨_, rfl, kept⟩
    | out dest count => exact Bool.noConfusion blind
    | irqWait index =>
      simp only
      split
      · exact ⟨_, rfl, rfl, rfl, rfl⟩
      · split
        · exact ⟨_, rfl, rfl, rfl, rfl⟩
        · exact ⟨_, rfl, rfl, rfl, rfl⟩
    | nop => exact ⟨_, rfl, rfl, rfl, rfl⟩
    | irq index => exact ⟨_, rfl, rfl, rfl, rfl⟩
    | setX value => exact ⟨_, rfl, rfl, rfl, rfl⟩
    | setY value => exact ⟨_, rfl, rfl, rfl, rfl⟩
    | setPins pins => exact ⟨_, rfl, rfl, rfl, rfl⟩
    | setPindirs dirs => exact ⟨_, rfl, rfl, rfl, rfl⟩

end Frame

/-! ### Exchanging the pins over a run -/

section Swapping

variable (config : Config) (machine : Machine)

theorem run_swap (cycles : Nat) :
    run config.swap cycles machine.swap = (run config cycles machine).swap := by
  induction cycles generalizing machine with
  | zero => rfl
  | succ cycles ih => rw [run_succ, cycle_swap, ih, run_succ]

theorem trace_swap (cycles : Nat) :
    trace config.swap cycles machine.swap = (trace config cycles machine).map Lines.swap := by
  induction cycles generalizing machine with
  | zero => rfl
  | succ cycles ih => rw [trace, cycle_swap, ih, lines_swap, trace, List.map_cons]

theorem attended_swap (accesses : Nat → Access) (cycles : Nat) :
    attended config.swap accesses machine.swap cycles =
      (attended config accesses machine cycles).swap := by
  induction cycles with
  | zero => rfl
  | succ cycles ih =>
    rw [attended, ih]
    exact cycle_swap config ((attended config accesses machine cycles).access (accesses cycles))

end Swapping

end PioUsbHost.Lib.PioMachine
