/-
**The flags of the transmitter over a packet.**

The program raises IRQ1 once the bits of a packet are out and its end has begun, and IRQ0 once it is
parked again; the driver waits for both, and between them it may already queue another packet.

* `slots_quiet`: no flag changes in a bit slot.
* `packet_flags`: from the moment IRQ0 is cleared both flags keep still until the end of the packet.
* `Ending`: what holds from there on, until IRQ0 is cleared again. The program looks neither at the
  queue nor at IRQ1 (`Ending.blind`), and IRQ0 is raised exactly while it stalls.
-/

import PioUsbHost.Lib.PioAccess
import PioUsbHost.Pio.TransmitPacket

namespace PioUsbHost.Pio

open PioUsbHost.Lib.LineCode PioUsbHost.Lib.PioMachine PioUsbHost.Usb

/-! ### Where the program goes -/

section Regions

variable {machine : Machine}

theorem program_mem {pc : Nat} {instr : Instr} (found : (txConfig .full).program pc = some instr) :
    instr ∈ txProgram[pc]? := by
  rw [← txConfig_full_program pc]
  exact found

/-- From some addresses the program goes to others, naming no flag on the way. -/
def Leads (pcs next : List Nat) : Prop :=
  ∀ pc ∈ pcs, pc ∈ next ∧ ∀ instr ∈ txProgram[pc]?, (if pc = 21 then 2 else pc + 1) ∈ next ∧
    (∀ target ∈ instr.op.target, target ∈ next) ∧ instr.op.flag = none

instance (pcs next : List Nat) : Decidable (Leads pcs next) := by unfold Leads; infer_instance

/-- **A cycle that names no flag.** -/
theorem Leads.step {pcs next : List Nat} (leads : Leads pcs next) (here : machine.pc ∈ pcs) :
    (cycle (txConfig .full) machine).pc ∈ next ∧
      (cycle (txConfig .full) machine).irqs = machine.irqs := by
  obtain ⟨stays, goes⟩ := leads _ here
  have follows : (txConfig .full).Follows machine.pc (cycle (txConfig .full) machine).pc := cycle_pc
  refine ⟨?_, funext fun index => cycle_irqs fun _ instr found named => ?_⟩
  · rcases follows with same | ⟨instr, found, moved | jump⟩
    · rw [same]
      exact stays
    · rw [moved]
      exact (goes instr (program_mem found)).1
    · exact (goes instr (program_mem found)).2.1 _ jump
  · rw [(goes instr (program_mem found)).2.2] at named
    cases named

end Regions

/-! ### The bit slots -/

/-- Where the program stands in a bit slot. -/
def slotPcs : List Nat := [2, 3, 10, 11, 12, 13, 14, 15, 16, 17, 18, 19, 20, 21]

/-- Driving a bit, or about to end the packet. -/
structure InSlots (machine : Machine) : Prop where
  pc : machine.pc ∈ 4 :: slotPcs
  dirs : machine.dirs = Pins.both

/-- The slots lead to themselves and to the end of the packet. -/
theorem slots_lead : Leads slotPcs (4 :: slotPcs) := by decide

theorem slots_turn : ∀ pc ∈ 4 :: slotPcs, ∀ instr ∈ txProgram[pc]?, instr.op.turns = false := by
  decide

section Slots

variable {machine : Machine}

/-- **A cycle of a slot**, before the end of the packet. -/
theorem slots_step (inSlots : InSlots machine) (goes : ¬ (machine.pc = 4 ∧ machine.delay = 0)) :
    InSlots (cycle (txConfig .full) machine) ∧
      (cycle (txConfig .full) machine).irqs = machine.irqs := by
  have dirs : (cycle (txConfig .full) machine).dirs = Pins.both := by
    rw [cycle_dirs fun _ instr found => slots_turn _ inSlots.pc instr (program_mem found)]
    exact inSlots.dirs
  rcases List.mem_cons.mp inSlots.pc with last | inside
  · have busy : machine.delay ≠ 0 := fun idle => goes ⟨last, idle⟩
    have waits : cycle (txConfig .full) machine =
        ({ machine with delay := machine.delay - 1 }).refill (txConfig .full) := if_pos busy
    refine ⟨⟨?_, dirs⟩, ?_⟩
    · rw [waits, refill_pc]
      exact inSlots.pc
    · rw [waits, refill_irqs]
  · obtain ⟨next, kept⟩ := slots_lead.step inside
    exact ⟨⟨next, dirs⟩, kept⟩

/-- The first instruction of the end of a packet shows on the lines. -/
theorem slots_end (inSlots : InSlots machine) (here : machine.pc = 4) (idle : machine.delay = 0) :
    (cycle (txConfig .full) machine).lines = se0 := by
  have found : (txConfig .full).program machine.pc =
      some { op := .irq 1, side := some Pins.neither, delay := 3 } := by
    rw [here]
    exact program_at rfl
  rw [cycle_instr idle found]
  unfold Machine.lines
  have pins : ∀ next : Machine, (next.refill (txConfig .full)).pins = next.pins := refill_pins _
  have dirs : ∀ next : Machine, (next.refill (txConfig .full)).dirs = next.dirs := refill_dirs _
  show Lines.mk (if (Machine.refill _ _).dirs.first then some (Machine.refill _ _).pins.first else none)
    (if (Machine.refill _ _).dirs.second then some (Machine.refill _ _).pins.second else none) = se0
  rw [pins, dirs]
  show Lines.mk (if machine.dirs.first then some false else none)
    (if machine.dirs.second then some false else none) = se0
  rw [inSlots.dirs]
  rfl

/-- **No flag changes in the slots**, which last until SE0 is on the lines. -/
theorem slots_quiet (inSlots : InSlots machine) (cycles : Nat)
    (never : ∀ lines ∈ trace (txConfig .full) cycles machine, lines ≠ se0) :
    InSlots (run (txConfig .full) cycles machine) ∧
      (run (txConfig .full) cycles machine).irqs = machine.irqs := by
  induction cycles generalizing machine with
  | zero => exact ⟨inSlots, rfl⟩
  | succ cycles ih =>
    have first := never _ List.mem_cons_self
    obtain ⟨next, kept⟩ := slots_step inSlots fun ⟨here, idle⟩ => first (slots_end inSlots here idle)
    obtain ⟨later, same⟩ := ih next fun lines inside => never lines (List.mem_cons_of_mem _ inside)
    exact ⟨later, same.trans kept⟩

end Slots

/-! ### From the park to the end of the packet -/

section Packet

variable {bits : List Bool} {machine : Machine}

/-- Leaving the park names no flag. -/
theorem start_flags (loaded : Loaded bits machine) (clear : machine.irqs 0 = false) (cycles : Nat)
    (early : cycles ≤ 4) : (run (txConfig .full) cycles machine).irqs = machine.irqs := by
  have waits : (txConfig .full).program machine.pc =
      some { op := .irqWait 0, side := none, delay := 0 } := by
    rw [loaded.pc]
    exact program_at rfl
  have passed := cycle_irqWait_pass loaded.delay waits loaded.waiting clear
  have first : (cycle (txConfig .full) machine).irqs = machine.irqs := by
    rw [passed, refill_irqs]
    rfl
  have pc : (cycle (txConfig .full) machine).pc = 9 := by
    rw [passed, refill_pc]
    exact nextPc_of loaded.pc
  have leads : Leads [9] [9, 0, 10] ∧ Leads [9, 0, 10] [9, 0, 10, 1, 11] ∧
      Leads [9, 0, 10, 1, 11] [9, 0, 10, 1, 11, 2, 12, 14] := by decide
  obtain ⟨second, same⟩ := leads.1.step (show (cycle (txConfig .full) machine).pc ∈ [9] by
    rw [pc]; exact List.mem_singleton_self 9)
  obtain ⟨third, still⟩ := leads.2.1.step second
  obtain ⟨-, last⟩ := leads.2.2.step third
  match cycles with
  | 0 => rfl
  | 1 => exact first
  | 2 => exact same.trans first
  | 3 => exact still.trans (same.trans first)
  | 4 => exact last.trans (still.trans (same.trans first))

theorem levelLines_ne_se0 (level : WireState) : levelLines level ≠ se0 := by
  cases level <;> decide

/-- A line of a slot is not SE0. -/
theorem ne_se0_of_mem_slots {lines : Lines} {level : WireState} {states : List WireState}
    (inside : lines ∈ slots level states) : lines ≠ se0 := by
  induction states generalizing level with
  | nil => cases inside
  | cons next rest ih =>
    rw [slots, List.mem_append, List.mem_cons] at inside
    rcases inside with before | after | later
    · rw [List.eq_of_mem_replicate before]
      exact levelLines_ne_se0 level
    · rw [after]
      exact levelLines_ne_se0 next
    · exact ih later

/-- **The flags of a packet**: from the moment IRQ0 is cleared until the end of the packet begins,
neither flag changes. -/
theorem packet_flags (loaded : Loaded bits machine) (clear : machine.irqs 0 = false) :
    (∀ cycles ≤ 4 * (stuff 6 0 bits).length + 7,
      (run (txConfig .full) cycles machine).irqs = machine.irqs) ∧
    ∃ level, At 4 (levelPins level) []
      (run (txConfig .full) (4 * (stuff 6 0 bits).length + 7) machine) := by
  obtain ⟨-, sending⟩ := start_spec loaded clear
  obtain ⟨sent, finished⟩ := sendBits_spec (Nat.succ_pos 5) sending
  obtain ⟨checked, ending⟩ := checkEmpty_spec finished
  have slotsOnly : ∀ lines ∈ trace (txConfig .full) (4 * (stuff 6 0 bits).length + 3)
      (run (txConfig .full) 4 machine), lines ≠ se0 := by
    intro lines inside
    rw [trace_add, sent, checked, List.mem_append] at inside
    rcases inside with before | after
    · exact ne_se0_of_mem_slots before
    · rw [List.eq_of_mem_replicate after]
      exact levelLines_ne_se0 _
  refine ⟨fun cycles within => ?_, lastLevel WireState.flip .J (stuff 6 0 bits), ?_⟩
  · by_cases early : cycles ≤ 4
    · exact start_flags loaded clear cycles early
    · obtain ⟨rest, rfl⟩ := Nat.exists_eq_add_of_le (Nat.le_of_lt (Nat.not_le.mp early))
      rw [run_add]
      refine (slots_quiet ⟨?_, sending.here.dirs⟩ rest fun lines inside => ?_).2.trans
        (start_flags loaded clear 4 le_rfl)
      · rw [sending.here.pc]
        decide
      · obtain ⟨more, same⟩ := Nat.exists_eq_add_of_le
          (show rest ≤ 4 * (stuff 6 0 bits).length + 3 by omega)
        refine slotsOnly lines ?_
        rw [same, trace_add]
        exact List.mem_append_left _ inside
  · rw [show 4 * (stuff 6 0 bits).length + 7 = 4 + (4 * (stuff 6 0 bits).length + 3) by omega, run_add,
      run_add]
    exact ending

/-- **The lines over a packet**, until any time after it. -/
theorem packet_trace (loaded : Loaded bits machine) (clear : machine.irqs 0 = false) (later : Nat) :
    trace (txConfig .full) (4 * (stuff 6 0 bits).length + 19 + later) machine =
      List.replicate 3 released ++ packetLines (levels WireState.flip .J (stuff 6 0 bits)) ++
        List.replicate later released := by
  obtain ⟨sent, parked⟩ := sendPacket_spec loaded clear
  have longer : trace (txConfig .full) (4 * (stuff 6 0 bits).length + 19 + later + 2) machine =
      List.replicate 3 released ++ packetLines (levels WireState.flip .J (stuff 6 0 bits)) ++
        List.replicate later released ++ List.replicate 2 released := by
    rw [show 4 * (stuff 6 0 bits).length + 19 + later + 2 = 4 * (stuff 6 0 bits).length + 21 + later
      by omega, trace_add, sent, parked.quiet]
    simp only [List.append_assoc, List.replicate_append_replicate, Nat.add_comm 2 later]
  rw [trace_add] at longer
  exact List.append_inj_left' longer (by rw [trace_length, List.length_replicate])

/-- The lines of a packet are driven. -/
theorem ne_released_of_mem_packetLines {lines : Lines} {states : List WireState}
    (inside : lines ∈ packetLines states) : lines ≠ released := by
  have driven : ∀ pins, drivenLines pins ≠ released := fun pins same =>
    nomatch (Lines.mk.inj same).1
  unfold packetLines at inside
  rw [List.mem_append, List.mem_append, List.mem_flatMap] at inside
  rcases inside with (⟨state, -, slot⟩ | zeros) | idle
  · rw [List.eq_of_mem_replicate slot]
    exact driven _
  · rw [List.eq_of_mem_replicate zeros]
    exact driven _
  · rw [List.eq_of_mem_replicate idle]
    exact driven _

/-- The lines are driven until the end of the packet is over. -/
theorem packet_driven (loaded : Loaded bits machine) (clear : machine.irqs 0 = false) {cycles : Nat}
    (after : 4 ≤ cycles) (before : cycles ≤ 4 * (stuff 6 0 bits).length + 19) :
    (run (txConfig .full) cycles machine).lines ≠ released := by
  obtain ⟨index, rfl⟩ := Nat.exists_eq_add_of_le' after
  have there : (trace (txConfig .full) (4 * (stuff 6 0 bits).length + 19 + 0) machine)[index + 3]? =
      some (run (txConfig .full) (index + 4) machine).lines := by
    rw [List.getElem?_eq_getElem (by rw [trace_length]; omega), trace_getElem]
  rw [packet_trace loaded clear, List.replicate_zero, List.append_nil,
    List.getElem?_append_right (by rw [List.length_replicate]; omega)] at there
  exact ne_released_of_mem_packetLines (List.mem_of_getElem? there)

end Packet

/-! ### From the end of the packet to the park -/

/-- Ending a packet, or parked. -/
structure Ending (machine : Machine) : Prop where
  pc : machine.pc ∈ [4, 5, 6, 7, 8]
  /-- IRQ0 is raised exactly while the program stalls on it. -/
  flag : machine.irqs 0 = machine.waiting
  stalls : machine.waiting = true → machine.pc = 8
  freed : machine.pc = 8 → machine.delay = 0 ∧ machine.dirs = Pins.neither

section Ending

variable {machine : Machine}

/-- The program looks neither at the queue nor at IRQ1. -/
theorem Ending.blind (ending : Ending machine) {instr : Instr}
    (found : (txConfig .full).program machine.pc = some instr) : instr.op.Blind 0 := by
  have all : ∀ pc ∈ [4, 5, 6, 7, 8], ∀ instr ∈ txProgram[pc]?,
      instr.op.readsQueue = false ∧ ∀ index ∈ instr.op.awaits, index = 0 := by decide
  obtain ⟨queue, flag⟩ := all _ ending.pc instr (program_mem found)
  exact ⟨queue, flag⟩

theorem Ending.refill (ending : Ending machine) : Ending (machine.refill (txConfig .full)) := by
  refine ⟨?_, ?_, ?_, ?_⟩
  · rw [refill_pc]; exact ending.pc
  · rw [refill_irqs, refill_waiting]; exact ending.flag
  · rw [refill_waiting, refill_pc]; exact ending.stalls
  · rw [refill_pc, refill_delay, refill_dirs]; exact ending.freed

/-- **The end of the packet goes on to the park**, where the program stays. -/
theorem Ending.step (ending : Ending machine) : Ending (cycle (txConfig .full) machine) := by
  by_cases busy : machine.delay = 0
  swap
  · have waits : cycle (txConfig .full) machine =
        ({ machine with delay := machine.delay - 1 }).refill (txConfig .full) := if_pos busy
    rw [waits]
    exact Ending.refill ⟨ending.pc, ending.flag, ending.stalls, fun here =>
      absurd (ending.freed here).1 busy⟩
  have awake : machine.pc ≠ 8 → machine.waiting = false := fun other =>
    Bool.eq_false_iff.mpr fun waiting => other (ending.stalls waiting)
  -- An instruction before the park only moves on.
  have moved : ∀ (next : Machine) (pc delay : Nat), machine.pc ≠ 8 → next.irqs 0 = machine.irqs 0 →
      next.waiting = machine.waiting → pc ∈ [5, 6, 7, 8] →
      (pc = 8 → delay = 0 ∧ next.dirs = Pins.neither) →
      Ending ((next.complete pc delay).refill (txConfig .full)) := by
    intro next pc delay other flag waiting inside freed
    refine Ending.refill ⟨List.mem_cons_of_mem _ inside, ?_, fun stalled => ?_, freed⟩
    · exact flag.trans (ending.flag.trans waiting.symm)
    · have still : machine.waiting = true := waiting.symm.trans stalled
      exact Bool.noConfusion ((awake other).symm.trans still)
  have named : Function.update machine.irqs 1 true 0 = machine.irqs 0 :=
    Function.update_of_ne Nat.zero_ne_one _ _
  have pcs := ending.pc
  simp only [List.mem_cons, List.not_mem_nil, or_false] at pcs
  rcases pcs with here | here | here | here | here
  · have step : cycle (txConfig .full) machine =
        (({ machine.sideSet (some Pins.neither) with irqs := Function.update machine.irqs 1 true }
          ).complete (machine.nextPc (txConfig .full)) 3).refill (txConfig .full) :=
      @cycle_instr _ _ { op := .irq 1, side := some Pins.neither, delay := 3 } busy
        (here ▸ program_at rfl)
    rw [step, nextPc_of here]
    exact moved _ _ 3 (by omega) named rfl (by decide) (fun parked => absurd parked (by decide))
  · have step : cycle (txConfig .full) machine =
        ((machine.sideSet none).complete (machine.nextPc (txConfig .full)) 3).refill
          (txConfig .full) :=
      @cycle_instr _ _ { op := .nop, side := none, delay := 3 } busy (here ▸ program_at rfl)
    rw [step, nextPc_of here]
    exact moved _ _ 3 (by omega) rfl rfl (by decide) (fun parked => absurd parked (by decide))
  · have step : cycle (txConfig .full) machine =
        ((machine.sideSet (some dpHigh)).complete (machine.nextPc (txConfig .full)) 3).refill
          (txConfig .full) :=
      @cycle_instr _ _ { op := .nop, side := some dpHigh, delay := 3 } busy
        (here ▸ program_at rfl)
    rw [step, nextPc_of here]
    exact moved _ _ 3 (by omega) rfl rfl (by decide) (fun parked => absurd parked (by decide))
  · have step : cycle (txConfig .full) machine =
        (({ machine.sideSet none with dirs := Pins.neither }).complete
          (machine.nextPc (txConfig .full)) 0).refill (txConfig .full) :=
      @cycle_instr _ _ { op := .setPindirs Pins.neither, side := none, delay := 0 } busy
        (here ▸ program_at rfl)
    rw [step, nextPc_of here]
    exact moved _ _ 0 (by omega) rfl rfl (by decide) (fun _ => ⟨rfl, rfl⟩)
  · have found : (txConfig .full).program machine.pc =
        some { op := .irqWait 0, side := none, delay := 0 } := here ▸ program_at rfl
    cases waiting : machine.waiting with
    | true =>
      rw [cycle_irqWait_stall busy found waiting (ending.flag.trans waiting)]
      exact ending.refill
    | false =>
      have raised : cycle (txConfig .full) machine = ({ machine.sideSet none with
          irqs := Function.update machine.irqs 0 true, waiting := true }).refill (txConfig .full) := by
        refine (cycle_instr busy found).trans ?_
        unfold Machine.execute Machine.sideSet
        simp only [waiting, Bool.not_false, if_true]
      rw [raised]
      exact Ending.refill ⟨ending.pc, Function.update_self 0 true machine.irqs, fun _ => here,
        ending.freed⟩

/-- Everything from the end of the packet on. -/
theorem Ending.run (ending : Ending machine) (cycles : Nat) :
    Ending (run (txConfig .full) cycles machine) := by
  induction cycles generalizing machine with
  | zero => exact ending
  | succ cycles ih => exact ih ending.step

/-- The end of a packet begins. -/
theorem At.ending {pins : Pins} {bits : List Bool} (here : At 4 pins bits machine)
    (clear : machine.irqs 0 = false) : Ending machine := by
  have pc := here.pc
  refine ⟨?_, clear.trans here.waiting.symm, fun waiting => ?_, fun parked => ?_⟩
  · rw [pc]
    decide
  · exact Bool.noConfusion (here.waiting.symm.trans waiting)
  · omega

theorem Ending.alike {other : Machine} (ending : Ending machine) (alike : Alike 0 machine other) :
    Ending other := by
  refine ⟨?_, ?_, ?_, ?_⟩
  · rw [← alike.pc]; exact ending.pc
  · rw [← alike.watched, ← alike.waiting]; exact ending.flag
  · rw [← alike.waiting, ← alike.pc]; exact ending.stalls
  · rw [← alike.pc, ← alike.delay, ← alike.dirs]; exact ending.freed

/-- **Nothing is taken from the queue** until the next packet begins. -/
theorem Ending.pending (ending : Ending machine) :
    pendingBits (cycle (txConfig .full) machine).osr (cycle (txConfig .full) machine).osrCount
        (cycle (txConfig .full) machine).fifo =
      pendingBits machine.osr machine.osrCount machine.fifo := by
  have known : ∀ pc ∈ [4, 5, 6, 7, 8], (txProgram[pc]?).isSome := by decide
  obtain ⟨instr, found⟩ := Option.isSome_iff_exists.mp (known _ ending.pc)
  obtain ⟨next, same, osr, osrCount, fifo⟩ :=
    cycle_refill (program_at found) (ending.blind (program_at found)).queue
  rw [same, (refill_spec next).2, osr, osrCount, fifo]

/-- **IRQ0 is raised again** only once the packet has ended, and the machine is parked. -/
theorem packet_done {bits : List Bool} (loaded : Loaded bits machine)
    (clear : machine.irqs 0 = false) {cycles : Nat}
    (raised : (run (txConfig .full) cycles machine).irqs 0 = true) :
    4 * (stuff 6 0 bits).length + 20 ≤ cycles ∧
      Parked (run (txConfig .full) cycles machine) := by
  obtain ⟨flags, level, here⟩ := packet_flags loaded clear
  have late : 4 * (stuff 6 0 bits).length + 7 ≤ cycles := by
    by_contra early
    rw [flags cycles (by omega), clear] at raised
    cases raised
  obtain ⟨later, rfl⟩ := Nat.exists_eq_add_of_le late
  have begins := here.ending ((congrFun (flags _ le_rfl) 0).trans clear)
  have kept : ∀ later, pendingBits
      (run (txConfig .full) (4 * (stuff 6 0 bits).length + 7 + later) machine).osr
      (run (txConfig .full) (4 * (stuff 6 0 bits).length + 7 + later) machine).osrCount
      (run (txConfig .full) (4 * (stuff 6 0 bits).length + 7 + later) machine).fifo =
        [] := by
    intro later
    induction later with
    | zero => exact here.pending
    | succ later ih =>
      rw [← Nat.add_assoc, run_add _ _ 1, run_one, Ending.pending, ih]
      rw [run_add]
      exact begins.run later
  have ending : Ending
      (run (txConfig .full) (4 * (stuff 6 0 bits).length + 7 + later) machine) := by
    rw [run_add]
    exact begins.run later
  have waiting := ending.flag.symm.trans raised
  obtain ⟨idle, dirs⟩ := ending.freed (ending.stalls waiting)
  refine ⟨?_, ⟨ending.stalls waiting, idle, waiting, dirs, kept later⟩, raised⟩
  by_contra early
  exact packet_driven loaded clear (by omega) (by omega) (lines_released dirs)

end Ending

end PioUsbHost.Pio
