/-
**The receiving block: two state machines, their flags, and the FIFO.**

`Receiver.step` is one cycle of the system clock. The byte decoder runs in every cycle and the edge
detector in those its divider picks; both read the flags as the cycle finds them. The CPU pulls words
from the decoder's FIFO between cycles, which stalls autopush while it is full.

* `RxRun.running`, `RxRun.stands`: each machine by itself runs its own program, the decoder cycle by
  cycle and the detector tick by tick.
* `RxRun.flag_succ`, `RxRun.flag_iff`: what becomes of a flag in a cycle and over a run.
* `RxRun.receivers_safe`: what no levels of the pins can bring about.
* `BusRun.detectorEffect_raised`: on a bus in its states the detector runs through the phases of those.
-/

import PioUsbHost.Lib.Ticks
import PioUsbHost.Pio.ByteDecoder
import PioUsbHost.Pio.Sampling

namespace PioUsbHost.Pio

open PioUsbHost.Lib PioUsbHost.Lib.PioInput PioUsbHost.Usb
open PioUsbHost.Lib.PioMachine (Word Pins)

/-! ### The pins -/

/-- The levels of D+ and D- in a state of the bus. -/
def busPins (speed : Speed) (state : BusState) : Pins :=
  match state, speed with
  | none, _ => Pins.neither
  | some .J, .full => dpHigh
  | some .K, .full => dmHigh
  | some .J, .low => dmHigh
  | some .K, .low => dpHigh

/-- What a state machine sees on a pin: `configure_rx_input_inversion` has inverted both. -/
def pinSeen (dpPin dmPin : UInt8) (pins : Pins) (pin : Nat) : Bool :=
  if pin = dpPin.toNat then !pins.first
  else if pin = dmPin.toNat then !pins.second
  else false

section Pins

variable (speed : Speed) {dpPin dmPin : UInt8} (state : BusState)

theorem pinSeen_data (differ : dpPin ≠ dmPin) : pinSeen dpPin dmPin (busPins speed state)
    (WireProfile.dataPin speed dpPin dmPin).toNat = dataSeen state := by
  have other : ¬ dmPin.toNat = dpPin.toNat := fun same => differ (UInt8.toNat_inj.mp same).symm
  unfold pinSeen WireProfile.dataPin
  cases speed with
  | full =>
    rw [if_pos rfl]
    rcases state with _ | _ | _ <;> rfl
  | low =>
    rw [if_neg other, if_pos rfl]
    rcases state with _ | _ | _ <;> rfl

theorem pinSeen_edge (differ : dpPin ≠ dmPin) : pinSeen dpPin dmPin (busPins speed state)
    (WireProfile.edgePin speed dpPin dmPin).toNat = edgeSeen state := by
  have other : ¬ dmPin.toNat = dpPin.toNat := fun same => differ (UInt8.toNat_inj.mp same).symm
  unfold pinSeen WireProfile.edgePin
  cases speed with
  | full =>
    rw [if_neg other, if_pos rfl]
    rcases state with _ | _ | _ <;> rfl
  | low =>
    rw [if_pos rfl]
    rcases state with _ | _ | _ <;> rfl

end Pins

/-! ### The block -/

/-- The receiving block: two machines, their flags and the FIFO between them and the CPU. -/
structure Receiver where
  /-- SM0. -/
  decoder : Machine
  /-- SM1. -/
  detector : Machine
  irqs : Nat → Bool
  /-- What the CPU has pulled from SM0's FIFO. -/
  pulled : List Word
  fifo : List Word

/-- What a cycle brings from outside. -/
structure Surroundings where
  pins : Pins
  /-- The detector's divider ticks. -/
  ticks : Bool
  /-- How many words the CPU pulls before the cycle. -/
  reads : Nat

/-- The words of a joined FIFO. -/
def rxFifoDepth : Nat := 8

namespace Receiver

/-- All that the decoder has pushed. -/
def pushed (receiver : Receiver) : List Word := receiver.pulled ++ receiver.fifo

/-- The CPU pulls words. -/
def pull (receiver : Receiver) (count : Nat) : Receiver :=
  { receiver with
    pulled := receiver.pulled ++ receiver.fifo.take count
    fifo := receiver.fifo.drop count }

/-- The flags after the effects of both machines. -/
def flagsAfter (irqs : Nat → Bool) (first second : Effect) (index : Nat) : Bool :=
  (irqs index && first.cleared != some index && second.cleared != some index) ||
    first.raised == some index || second.raised == some index

/-- What a machine sees of the block. -/
def inputs (receiver : Receiver) (seen : Nat → Bool) (execctrl pinctrl : Word) : Inputs where
  jumpPin := seen (WireProfile.jmpPin execctrl)
  inPin := seen (WireProfile.inBase pinctrl)
  irqs := receiver.irqs
  room := decide (receiver.fifo.length < rxFifoDepth)

/-- **One cycle of the system clock.** -/
def step (profile : WireProfile) (dpPin dmPin : UInt8) (around : Surroundings)
    (receiver : Receiver) : Receiver :=
  let receiver := receiver.pull around.reads
  let seen := pinSeen dpPin dmPin around.pins
  let decoded := cycle (rxConfig profile)
    (receiver.inputs seen profile.rxExecctrlImage profile.rxPinctrlImage) receiver.decoder
  let detected :=
    if around.ticks then
      cycle (edgeConfig profile)
        (receiver.inputs seen profile.edgeExecctrlImage profile.edgePinctrlImage) receiver.detector
    else (receiver.detector, .quiet)
  { receiver with
    decoder := decoded.1
    detector := detected.1
    irqs := flagsAfter receiver.irqs decoded.2 detected.2
    fifo := receiver.fifo ++ decoded.2.pushed.toList }

/-- The block before each cycle. -/
def run (profile : WireProfile) (dpPin dmPin : UInt8) (around : Nat → Surroundings)
    (receiver : Receiver) : Nat → Receiver
  | 0 => receiver
  | time + 1 => (run profile dpPin dmPin around receiver time).step profile dpPin dmPin (around time)

/-- **What `prepare_receive` and `park_receive` leave**, once the flags are cleared: the decoder before
or at its first wait, with X clear and ones in the OSR, and the detector parked. -/
structure Armed (receiver : Receiver) : Prop where
  ready : receiver.decoder.pc = 0 ∨ receiver.decoder.pc = 1 ∧ receiver.decoder.y = 6
  level : receiver.decoder.x = 0
  emptyIsr : receiver.decoder.isr = 0 ∧ receiver.decoder.isrCount = 0
  ones : receiver.decoder.osr = BitVec.allOnes 32
  idle : receiver.decoder.delay = 0 ∧ receiver.decoder.waiting = false
  parked : EdgePhase.parked.Stands receiver.detector
  clear : ∀ index, 1 ≤ index → index ≤ 4 → receiver.irqs index = false
  emptyFifo : receiver.pulled = [] ∧ receiver.fifo = []

end Receiver

/-- A receiver that has been prepared. -/
def armedReceiver : Receiver where
  decoder := decoderMachine 0 .J 6 nrziStart.result
  detector :=
    { pc := 15, x := 0, y := 0, isr := 0, isrCount := 0, osr := 0, delay := 0, waiting := true }
  irqs := fun index => index == 0
  pulled := []
  fifo := []

theorem armedReceiver_armed : armedReceiver.Armed where
  ready := Or.inl rfl
  level := rfl
  emptyIsr := ⟨show isrOf nrziStart.result = 0 by decide, rfl⟩
  ones := rfl
  idle := ⟨rfl, rfl⟩
  parked := ⟨rfl, rfl, rfl, trivial⟩
  clear index low high := by
    show (index == 0) = false
    exact beq_eq_false_iff_ne.mpr (by omega)
  emptyFifo := ⟨rfl, rfl⟩

/-! ### Runs -/

/-- A run of the block: the profile of a speed on two pins, the detector's clock, the levels of the
lines, the CPU's reads, and where it starts from. -/
structure RxRun where
  speed : Speed
  dpPin : UInt8
  dmPin : UInt8
  dpFits : dpPin.toNat < 2 ^ 5
  dmFits : dmPin.toNat < 2 ^ 5
  differ : dpPin ≠ dmPin
  clock : Ticks
  pins : Nat → Pins
  reads : Nat → Nat
  start : Receiver

namespace RxRun

variable (rx : RxRun)

/-- The register images of the run. -/
def profile : WireProfile := WireProfile.forSpeed rx.speed rx.dpPin rx.dmPin

/-- What the block finds around it in a cycle. -/
def around (time : Nat) : Surroundings where
  pins := rx.pins time
  ticks := rx.clock.enabled time
  reads := rx.reads time

/-- The block before each cycle. -/
def block (time : Nat) : Receiver :=
  rx.start.run rx.profile rx.dpPin rx.dmPin rx.around time

/-- The block as a cycle finds it, the CPU having pulled its words. -/
def found (time : Nat) : Receiver := (rx.block time).pull (rx.reads time)

/-- The pins as the machines see them. -/
def seen (time : Nat) : Nat → Bool := pinSeen rx.dpPin rx.dmPin (rx.around time).pins

/-- What the decoder reads in a cycle. -/
def decoderInputs (time : Nat) : Inputs :=
  (rx.found time).inputs (rx.seen time) rx.profile.rxExecctrlImage rx.profile.rxPinctrlImage

/-- What the detector reads in a cycle. -/
def detectorInputs (time : Nat) : Inputs :=
  (rx.found time).inputs (rx.seen time) rx.profile.edgeExecctrlImage rx.profile.edgePinctrlImage

/-- The effect of the decoder in a cycle. -/
def decoderEffect (time : Nat) : Effect :=
  (cycle decoderConfig (rx.decoderInputs time) (rx.block time).decoder).2

/-- The effect of the detector in a cycle. -/
def detectorEffect (time : Nat) : Effect :=
  if rx.clock.enabled time then
    (cycle detectorConfig (rx.detectorInputs time) (rx.block time).detector).2
  else .quiet

theorem config_decoder : rxConfig rx.profile = decoderConfig :=
  rxConfig_forSpeed rx.speed rx.dpFits rx.dmFits

theorem config_detector : edgeConfig rx.profile = detectorConfig :=
  edgeConfig_forSpeed rx.speed rx.dpFits rx.dmFits

/-- **The decoder runs its program** cycle by cycle. -/
theorem running : Running decoderConfig rx.decoderInputs (fun time => (rx.block time).decoder)
    (fun time => (rx.block time).pushed) := by
  refine ⟨fun time => ?_, fun time => ?_⟩
  · show (cycle (rxConfig rx.profile) (rx.decoderInputs time) (rx.block time).decoder).1 = _
    rw [config_decoder]
  · show (rx.found time).pulled ++ ((rx.found time).fifo ++ (cycle (rxConfig rx.profile)
      (rx.decoderInputs time) (rx.block time).decoder).2.pushed.toList) = _
    rw [config_decoder, ← List.append_assoc]
    congr 1
    show (rx.block time).pulled ++ (rx.block time).fifo.take _ ++ (rx.block time).fifo.drop _ = _
    rw [List.append_assoc, List.take_append_drop]
    rfl

/-- The detector in a cycle. -/
theorem detector_succ (time : Nat) : (rx.block (time + 1)).detector =
    if rx.clock.enabled time then
      (cycle detectorConfig (rx.detectorInputs time) (rx.block time).detector).1
    else (rx.block time).detector := by
  show (if rx.clock.enabled time then
    cycle (edgeConfig rx.profile) (rx.detectorInputs time) (rx.block time).detector
    else ((rx.block time).detector, .quiet)).1 = _
  rw [config_detector]
  split <;> rfl

/-- The flags in a cycle. -/
theorem irqs_succ (time : Nat) : (rx.block (time + 1)).irqs =
    Receiver.flagsAfter (rx.block time).irqs (rx.decoderEffect time) (rx.detectorEffect time) := by
  show Receiver.flagsAfter (rx.block time).irqs
    (cycle (rxConfig rx.profile) (rx.decoderInputs time) (rx.block time).decoder).2
    (if rx.clock.enabled time then
      cycle (edgeConfig rx.profile) (rx.detectorInputs time) (rx.block time).detector
      else ((rx.block time).detector, .quiet)).2 = _
  rw [config_decoder, config_detector]
  unfold decoderEffect detectorEffect
  split <;> rfl

/-! ### The programs keep apart -/

/-- Each machine is in its own program. -/
structure Apart (receiver : Receiver) : Prop where
  decoder : receiver.decoder.pc ≤ 14
  detectorLow : 15 ≤ receiver.detector.pc
  detectorHigh : receiver.detector.pc ≤ 31

variable {rx}

/-- A cycle keeps the programs apart. -/
theorem apart_succ {time : Nat} (apart : Apart (rx.block time)) : Apart (rx.block (time + 1)) := by
  have decoder := (@decoder_cycle _ (rx.decoderInputs time) apart.decoder).1
  have detector := (@detector_cycle _ (rx.detectorInputs time) apart.detectorLow
    apart.detectorHigh).1
  refine ⟨?_, ?_, ?_⟩
  · rw [rx.running.moves time]
    exact decoder
  · rw [detector_succ]
    split
    · exact detector.1
    · exact apart.detectorLow
  · rw [detector_succ]
    split
    · exact detector.2
    · exact apart.detectorHigh

theorem apart (start : Apart rx.start) (time : Nat) : Apart (rx.block time) := by
  induction time with
  | zero => exact start
  | succ time ih => exact apart_succ ih

/-- A flag in a cycle, where the programs are apart. -/
theorem flag_succ {time : Nat} (apart : Apart (rx.block time)) (index : Nat) :
    (rx.block (time + 1)).irqs index =
      ((rx.block time).irqs index && (rx.decoderEffect time).cleared != some index ||
        (rx.detectorEffect time).raised == some index) := by
  have decoder := (@decoder_cycle _ (rx.decoderInputs time) apart.decoder).2.1
  have detector : (rx.detectorEffect time).cleared = none := by
    unfold detectorEffect
    split
    · exact (detector_cycle apart.detectorLow apart.detectorHigh).2.1
    · rfl
  rw [irqs_succ]
  unfold Receiver.flagsAfter
  rw [detector, show (rx.decoderEffect time).raised = none from decoder,
    show (none != some index) = true from rfl, show (none == some index) = false from rfl,
    Bool.and_true, Bool.or_false]

/-- **The decoder-error flag is never raised**, and nor is any flag but those of the start, the samples
and the end of a packet, whatever the bus does. -/
theorem flag_kept (start : Apart rx.start) {index : Nat} (other : index < 2 ∨ 4 < index)
    (time : Nat) : (rx.block time).irqs index = rx.start.irqs index := by
  induction time with
  | zero => rfl
  | succ time ih =>
    have apart := apart start time
    have cleared : (rx.decoderEffect time).cleared ≠ some index := fun cleared => by
      have := ((@decoder_cycle _ (rx.decoderInputs time) apart.decoder).2.2 index cleared).2
      omega
    have raised : (rx.detectorEffect time).raised ≠ some index := by
      unfold detectorEffect
      split
      · intro raised
        have := (@detector_cycle _ (rx.detectorInputs time) apart.detectorLow
          apart.detectorHigh).2.2 index raised
        omega
      · exact nofun
    rw [flag_succ apart, ih, bne_iff_ne.mpr cleared, Bool.and_true,
      beq_eq_false_iff_ne.mpr raised, Bool.or_false]

/-- A flag that no program clears is set from the first cycle that raises it on. -/
theorem flag_iff (start : Apart rx.start) {index : Nat} (other : index ≠ 4)
    (clear : rx.start.irqs index = false) (time : Nat) : (rx.block time).irqs index = true ↔
      ∃ earlier < time, (rx.detectorEffect earlier).raised = some index := by
  induction time with
  | zero =>
    constructor
    · intro set
      exact absurd (clear.symm.trans set) Bool.false_ne_true
    · rintro ⟨earlier, before, -⟩
      exact absurd before (Nat.not_lt_zero _)
  | succ time ih =>
    have apart := apart start time
    have kept : (rx.decoderEffect time).cleared ≠ some index := fun cleared =>
      other ((@decoder_cycle _ (rx.decoderInputs time) apart.decoder).2.2 index cleared).2
    rw [flag_succ apart, bne_iff_ne.mpr kept, Bool.and_true, Bool.or_eq_true, ih, beq_iff_eq]
    constructor
    · rintro (⟨earlier, before, raised⟩ | raised)
      · exact ⟨earlier, Nat.lt_succ_of_lt before, raised⟩
      · exact ⟨time, Nat.lt_succ_self time, raised⟩
    · rintro ⟨earlier, before, raised⟩
      rcases Nat.lt_succ_iff_lt_or_eq.mp before with before | rfl
      · exact Or.inl ⟨earlier, before, raised⟩
      · exact Or.inr raised

/-! ### The detector, tick by tick -/

/-- The end-of-packet flag as each tick finds it. -/
def held (rx : RxRun) (tick : Nat) : Bool := (rx.block (rx.clock.time tick)).irqs 2

/-- The phases of the detector, from the park, by the levels that each tick finds on its pins. -/
def phase (rx : RxRun) : Nat → EdgePhase
  | 0 => .parked
  | tick + 1 => (rx.phase tick).next (rx.held tick) (rx.detectorInputs (rx.clock.time tick)).inPin
      (rx.detectorInputs (rx.clock.time tick)).jumpPin

theorem detector_still (cycle : Nat) (off : rx.clock.enabled cycle = false) :
    (rx.block (cycle + 1)).detector = (rx.block cycle).detector := by
  rw [detector_succ, off, if_neg Bool.false_ne_true]

/-- The detector at a tick and after it. -/
theorem follows {tick : Nat} (stands : (rx.phase tick).Stands (rx.block (rx.clock.time tick)).detector) :
    (rx.phase (tick + 1)).Stands (rx.block (rx.clock.time tick + 1)).detector ∧
      rx.detectorEffect (rx.clock.time tick) =
        { raised := (rx.phase tick).raises, cleared := none, pushed := none } := by
  obtain ⟨next, effect⟩ := @EdgePhase.Stands.follows _ (rx.detectorInputs (rx.clock.time tick)) _ stands
  rw [detector_succ, rx.clock.enabled_time, if_pos rfl]
  refine ⟨next, ?_⟩
  unfold detectorEffect
  rw [rx.clock.enabled_time, if_pos rfl]
  exact effect

/-- **The detector runs through its phases** tick by tick. -/
theorem stands (parked : EdgePhase.parked.Stands rx.start.detector) (tick : Nat) :
    (rx.phase tick).Stands (rx.block (rx.clock.time tick)).detector := by
  induction tick with
  | zero =>
    have first : (rx.block (rx.clock.time 0)).detector = rx.start.detector :=
      @Ticks.hold_first rx.clock _ (fun time => (rx.block time).detector) detector_still _ le_rfl
    rw [first]
    exact parked
  | succ tick ih =>
    have later : (rx.block (rx.clock.time (tick + 1))).detector =
        (rx.block (rx.clock.time tick + 1)).detector :=
      @Ticks.hold rx.clock _ (fun time => (rx.block time).detector) detector_still _ _
        (rx.clock.increases tick) le_rfl
    rw [later]
    exact (follows ih).1

/-- **The detector raises a flag** in the cycle of a tick whose phase raises it, and in no other. -/
theorem detectorEffect_raised (parked : EdgePhase.parked.Stands rx.start.detector) (time index : Nat) :
    (rx.detectorEffect time).raised = some index ↔
      ∃ tick, rx.clock.time tick = time ∧ (rx.phase tick).raises = some index := by
  constructor
  · intro raised
    by_cases enabled : rx.clock.enabled time = true
    · obtain ⟨tick, rfl⟩ := (rx.clock.enabled_iff time).mp enabled
      rw [(follows (stands parked tick)).2] at raised
      exact ⟨tick, rfl, raised⟩
    · unfold detectorEffect at raised
      rw [if_neg enabled] at raised
      cases raised
  · rintro ⟨tick, rfl, raises⟩
    rw [(follows (stands parked tick)).2]
    exact raises

end RxRun

theorem Receiver.Armed.apart {receiver : Receiver} (armed : receiver.Armed) : RxRun.Apart receiver := by
  have parked : receiver.detector.pc = 15 := armed.parked.pc
  refine ⟨?_, by omega, by omega⟩
  rcases armed.ready with zero | ⟨one, -⟩ <;> omega

/-! ### Whatever the lines do -/

namespace RxRun

variable {rx : RxRun}

/-- The start flag is raised before any phase of a packet. -/
theorem started (tick : Nat) : rx.phase tick = .parked ∨ rx.phase tick = .waiting ∨
    ∃ earlier, earlier ≤ tick ∧ rx.phase earlier = .starting false := by
  induction tick with
  | zero => exact Or.inl rfl
  | succ tick ih =>
    rcases ih with parked | waiting | ⟨earlier, before, starting⟩
    · have next : rx.phase (tick + 1) = EdgePhase.next _ _ _ (rx.phase tick) := rfl
      rw [parked, EdgePhase.next] at next
      split at next
      · exact Or.inl next
      · exact Or.inr (Or.inl next)
    · have next : rx.phase (tick + 1) = EdgePhase.next _ _ _ (rx.phase tick) := rfl
      rw [waiting, EdgePhase.next] at next
      split at next
      · exact Or.inr (Or.inl next)
      · exact Or.inr (Or.inr ⟨tick + 1, le_rfl, next⟩)
    · exact Or.inr (Or.inr ⟨earlier, Nat.le_succ_of_le before, starting⟩)

/-- Once the end of a packet has been flagged, the detector is parked. -/
theorem parked_after (armed : rx.start.Armed) {tick later : Nat} (ending : rx.phase tick = .ending)
    (after : tick < later) : rx.phase later = .parked := by
  have first : rx.phase (tick + 1) = .parked := by
    show EdgePhase.next _ _ _ (rx.phase tick) = _
    rw [ending]
    rfl
  obtain ⟨more, rfl⟩ := Nat.exists_eq_add_of_le (Nat.succ_le_of_lt after)
  clear after
  induction more with
  | zero => exact first
  | succ more ih =>
    have held : rx.held (tick.succ + more) = true :=
      (flag_iff armed.apart (by decide) (armed.clear 2 (by decide) (by decide)) _).mpr
        ⟨rx.clock.time tick, rx.clock.strictMono (by omega),
          (detectorEffect_raised armed.parked _ 2).mpr
            ⟨tick, rfl, congrArg EdgePhase.raises ending⟩⟩
    show EdgePhase.next (rx.held (tick.succ + more)) _ _ (rx.phase (tick.succ + more)) = _
    rw [ih, held]
    rfl

/-- The end-of-packet flag comes from the one phase that raises it. -/
theorem raises_two {phase : EdgePhase} (raises : phase.raises = some 2) : phase = .ending := by
  unfold EdgePhase.raises at raises
  split at raises <;> first | rfl | cases raises

/-- **The receivers are safe whatever the lines do**, also with both of them high, on any pins and with
any clock. Neither program
leaves its own instructions; no flag but the three of a packet ever changes, so no decoder error is
flagged; the end of a packet is flagged only after its start; and from then on the detector raises
nothing more. -/
theorem receivers_safe (rx : RxRun) (armed : rx.start.Armed) (time : Nat) :
    Apart (rx.block time) ∧
      (∀ index, index < 2 ∨ 4 < index → (rx.block time).irqs index = rx.start.irqs index) ∧
      ((rx.block time).irqs 2 = true → (rx.block time).irqs 3 = true ∧
        ∀ later, time ≤ later → (rx.block later).irqs 2 = true ∧
          (rx.detectorEffect later).raised = none) := by
  refine ⟨apart armed.apart time, fun index other => flag_kept armed.apart other time, fun ended => ?_⟩
  have set := flag_iff armed.apart (show 2 ≠ 4 by decide) (armed.clear 2 (by decide) (by decide))
  have begun := flag_iff armed.apart (show 3 ≠ 4 by decide) (armed.clear 3 (by decide) (by decide))
  obtain ⟨earlier, before, raised⟩ := (set time).mp ended
  obtain ⟨tick, rfl, raises⟩ := (detectorEffect_raised armed.parked _ 2).mp raised
  have ending := raises_two raises
  refine ⟨?_, fun later after => ⟨(set later).mpr ⟨_, by omega, raised⟩, ?_⟩⟩
  · rcases @started rx tick with parked | waiting | ⟨first, order, starting⟩
    · cases parked.symm.trans ending
    · cases waiting.symm.trans ending
    · exact (begun time).mpr ⟨rx.clock.time first,
        Nat.lt_of_le_of_lt (rx.clock.strictMono.monotone order) before,
        (detectorEffect_raised armed.parked _ 3).mpr
          ⟨first, rfl, congrArg EdgePhase.raises starting⟩⟩
  · refine Option.eq_none_iff_forall_ne_some.mpr fun index other => ?_
    obtain ⟨last, rfl, flagged⟩ := (detectorEffect_raised armed.parked _ index).mp other
    have order : tick < last := rx.clock.strictMono.lt_iff_lt.mp (by omega)
    rw [parked_after armed ending order] at flagged
    cases flagged

/-- A clock that ticks in every cycle. -/
def everyCycle : Ticks where
  enabled := fun _ => true
  time := id
  increases tick := Nat.lt_succ_self tick
  enabled_iff cycle := ⟨fun _ => ⟨cycle, rfl⟩, fun _ => rfl⟩

/-- Lines that change in every cycle, with an undivided detector at low speed. -/
def noisyRun : RxRun where
  speed := .low
  dpPin := 3
  dmPin := 9
  dpFits := by decide
  dmFits := by decide
  differ := by decide
  clock := everyCycle
  pins := fun time => ⟨decide (time % 4 < 2), decide (time % 4 = 1 ∨ time % 4 = 2)⟩
  reads := fun _ => 0
  start := armedReceiver

/-- Noise flags no decoder error. -/
theorem receivers_safe_noisy : (noisyRun.block 100).irqs 1 = false :=
  (receivers_safe noisyRun armedReceiver_armed 100).2.1 1 (Or.inl (by decide))

end RxRun

/-! ### On a bus in its states -/

/-- A run on a bus that is in one of its states in every cycle. -/
structure BusRun extends RxRun where
  wave : Nat → BusState
  carries : ∀ time, pins time = busPins speed (wave time)

namespace BusRun

variable (rx : BusRun)

theorem decoderInputs_jumpPin (time : Nat) :
    (rx.decoderInputs time).jumpPin = dataSeen (rx.wave time) := by
  obtain ⟨⟨pin, -⟩, -⟩ := WireProfile.forSpeed_images rx.speed rx.dpFits rx.dmFits
  show pinSeen _ _ (rx.pins time) (WireProfile.jmpPin rx.profile.rxExecctrlImage) = _
  unfold RxRun.profile
  rw [pin, rx.carries]
  exact pinSeen_data rx.speed (rx.wave time) rx.differ

theorem detectorInputs_pins (time : Nat) :
    (rx.detectorInputs time).jumpPin = edgeSeen (rx.wave time) ∧
      (rx.detectorInputs time).inPin = dataSeen (rx.wave time) := by
  obtain ⟨-, jumps, -, -, shifts⟩ := WireProfile.forSpeed_images rx.speed rx.dpFits rx.dmFits
  constructor
  · show pinSeen _ _ (rx.pins time) (WireProfile.jmpPin rx.profile.edgeExecctrlImage) = _
    unfold RxRun.profile
    rw [jumps, rx.carries]
    exact pinSeen_edge rx.speed (rx.wave time) rx.differ
  · show pinSeen _ _ (rx.pins time) (WireProfile.inBase rx.profile.edgePinctrlImage) = _
    unfold RxRun.profile
    rw [shifts, rx.carries]
    exact pinSeen_data rx.speed (rx.wave time) rx.differ

/-- The bus as each tick finds it. -/
def ticked (tick : Nat) : BusState := rx.wave (rx.clock.time tick)

/-- **The detector runs through the phases of the states.** -/
theorem phase_eq (tick : Nat) : rx.phase tick = EdgePhase.run rx.held rx.ticked tick := by
  induction tick with
  | zero => rfl
  | succ tick ih =>
    obtain ⟨jumps, shifts⟩ := rx.detectorInputs_pins (rx.clock.time tick)
    show (rx.phase tick).next _ _ _ = _
    rw [ih, jumps, shifts]
    rfl

variable {rx}

/-- The detector raises a flag in the cycle of a tick whose state makes it, and in no other. -/
theorem detectorEffect_raised (parked : EdgePhase.parked.Stands rx.start.detector)
    (time index : Nat) : (rx.detectorEffect time).raised = some index ↔
      ∃ tick, rx.clock.time tick = time ∧
        (EdgePhase.run rx.held rx.ticked tick).raises = some index := by
  rw [RxRun.detectorEffect_raised parked]
  exact exists_congr fun tick => and_congr_right fun _ => by rw [rx.phase_eq]

end BusRun

end PioUsbHost.Pio
