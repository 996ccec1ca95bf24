/-
**Arming the receivers, whatever came before.**

Before a transaction the driver restarts both receivers (`park_receive`, `prepare_receive`), and at the
end of its own packet clears their flags. The restart leaves the OSR of the byte decoder alone, which
was filled with ones once and for all when the engine was made; and it begins while the bus may do
anything.

* `RxBlock`: the receiving block with the enable bits of its two machines.
* `RxBlock.Sound`: what holds over the engine's whole life, whatever is done in whatever order
  (`sound_after`).
* `parking_after`, `prepared_after`: the two halves of arming.
* `arming_spec`: from any history, a receiver that is `Armed`.
-/

import PioUsbHost.Pio.Receiver

namespace PioUsbHost.Pio

open PioUsbHost.Lib PioUsbHost.Lib.PioInput PioUsbHost.Usb
open PioUsbHost.Lib.PioMachine (Word Pins)

/-! ### The block and its registers -/

/-- The receiving block, and which of its machines are enabled. -/
structure RxBlock where
  receiver : Receiver
  /-- SM0 is enabled. -/
  decoderOn : Bool
  /-- SM1 is enabled. -/
  detectorOn : Bool

/-- `SM_RESTART`: the ISR, the delay and the stall are cleared, the OSR and the scratch registers are
not. -/
def restarted (machine : Machine) : Machine :=
  { machine with isr := 0, isrCount := 0, delay := 0, waiting := false }

/-- `clear_all(RX_IRQ_MASK)`: flags 1 to 4. -/
def rxIrqMask (index : Nat) : Bool := (0b00011110 : Nat).testBit index

/-- What the driver does to the block. -/
inductive RxAccess where
  | enableDecoder (on : Bool)
  | enableDetector (on : Bool)
  /-- The log of what the CPU has pulled begins anew. -/
  | clearFifos
  | clearFlags
  | restartDecoder
  | restartDetector
  /-- `jmp 0`. -/
  | resetDecoder
  /-- `set x, 0`. -/
  | clearX
  /-- `jmp 16`. -/
  | startDetector
  /-- `jmp 15`. -/
  | resetDetector

namespace RxBlock

/-- The block with another state of its machines. -/
def withReceiver (block : RxBlock) (receiver : Receiver) : RxBlock := { block with receiver }

/-- What an access of the CPU does to the block. -/
def access (block : RxBlock) : RxAccess → RxBlock
  | .enableDecoder on => { block with decoderOn := on }
  | .enableDetector on => { block with detectorOn := on }
  | .clearFifos => block.withReceiver { block.receiver with pulled := [], fifo := [] }
  | .clearFlags => block.withReceiver { block.receiver with
      irqs := fun index => block.receiver.irqs index && !rxIrqMask index }
  | .restartDecoder => block.withReceiver { block.receiver with
      decoder := restarted block.receiver.decoder }
  | .restartDetector => block.withReceiver { block.receiver with
      detector := restarted block.receiver.detector }
  | .resetDecoder => block.withReceiver { block.receiver with
      decoder := { block.receiver.decoder with pc := 0 } }
  | .clearX => block.withReceiver { block.receiver with
      decoder := { block.receiver.decoder with x := 0 } }
  | .startDetector => block.withReceiver { block.receiver with
      detector := { block.receiver.detector with pc := 16 } }
  | .resetDetector => block.withReceiver { block.receiver with
      detector := { block.receiver.detector with pc := 15 } }

section Step

variable (profile : WireProfile) (dpPin dmPin : UInt8) (around : Surroundings) (block : RxBlock)

/-- The block as a cycle finds it. -/
def found : Receiver := block.receiver.pull around.reads

/-- The decoder's part of a cycle; a machine that is not enabled stands still. -/
def decoded : Machine × Effect :=
  if block.decoderOn then
    cycle (rxConfig profile)
      ((block.found around).inputs (pinSeen dpPin dmPin around.pins) profile.rxExecctrlImage
        profile.rxPinctrlImage) block.receiver.decoder
  else (block.receiver.decoder, .quiet)

/-- The detector's part. -/
def detected : Machine × Effect :=
  if block.detectorOn && around.ticks then
    cycle (edgeConfig profile)
      ((block.found around).inputs (pinSeen dpPin dmPin around.pins) profile.edgeExecctrlImage
        profile.edgePinctrlImage) block.receiver.detector
  else (block.receiver.detector, .quiet)

/-- **One cycle of the system clock.** -/
def step : RxBlock :=
  block.withReceiver { block.found around with
    decoder := (block.decoded profile dpPin dmPin around).1
    detector := (block.detected profile dpPin dmPin around).1
    irqs := Receiver.flagsAfter block.receiver.irqs (block.decoded profile dpPin dmPin around).2
      (block.detected profile dpPin dmPin around).2
    fifo := (block.found around).fifo ++
      (block.decoded profile dpPin dmPin around).2.pushed.toList }

end Step

/-- With both machines enabled it is the cycle of the receiving block. -/
theorem step_on (profile : WireProfile) (dpPin dmPin : UInt8) (around : Surroundings)
    {block : RxBlock} (decoder : block.decoderOn = true) (detector : block.detectorOn = true) :
    (block.step profile dpPin dmPin around).receiver =
      block.receiver.step profile dpPin dmPin around := by
  unfold step decoded detected Receiver.step
  rw [decoder, detector]
  rfl

end RxBlock

/-! ### The driver's routines -/

/-- A cycle at a wire speed, or an access. -/
inductive RxEvent where
  | cycle (speed : Speed) (around : Surroundings)
  | access (access : RxAccess)

/-- The engine as it is made: the OSR of the decoder filled with ones, the detector started. -/
def initialBlock (receiver : Receiver) : RxBlock where
  receiver := { receiver with
    decoder := { receiver.decoder with pc := 0, osr := BitVec.allOnes 32 }
    detector := { receiver.detector with pc := 16 } }
  decoderOn := false
  detectorOn := true

/-- `park_receive`, up to its poll. -/
def parkReceive : List RxAccess :=
  [.enableDetector false, .clearFlags, .restartDetector, .resetDetector, .enableDetector true]

/-- `prepare_receive_disabled`. -/
def prepareReceiveDisabled : List RxAccess :=
  [.enableDecoder false, .clearFifos, .restartDecoder, .resetDecoder, .clearX]

/-- `configure_wire_speed`, as far as the receivers are concerned. -/
def configureReceivers : List RxAccess :=
  [.enableDecoder false, .enableDetector false, .clearFifos, .clearFlags, .restartDecoder,
    .restartDetector, .startDetector, .enableDetector true]

section Runs

variable (dpPin dmPin : UInt8)

/-- The block after a cycle or an access. -/
def RxBlock.event (block : RxBlock) : RxEvent → RxBlock
  | .cycle speed around => block.step (WireProfile.forSpeed speed dpPin dmPin) dpPin dmPin around
  | .access access => block.access access

/-- The block after some events. -/
def RxBlock.after (block : RxBlock) (events : List RxEvent) : RxBlock :=
  events.foldl (RxBlock.event dpPin dmPin) block

end Runs

/-- Accesses one after another. -/
def accesses (all : List RxAccess) : List RxEvent := all.map .access

/-- Cycles with nothing done. -/
def cycles (around : List (Speed × Surroundings)) : List RxEvent :=
  around.map fun each => .cycle each.1 each.2

/-! ### What holds over the engine's whole life -/

/-- No instruction writes the OSR. -/
theorem cycle_osr (config : Config) (inputs : Inputs) (machine : Machine) :
    (cycle config inputs machine).1.osr = machine.osr := by
  unfold cycle
  split
  · rfl
  · cases config.program machine.pc with
    | none => rfl
    | some instr =>
      obtain ⟨op, delay⟩ := instr
      unfold Machine.execute
      cases op with
      | jmp condition target =>
        simp only
        split <;> cases condition <;> rfl
      | waitIrq index =>
        simp only
        split <;> rfl
      | shiftIn source =>
        simp only
        split
        · rfl
        · split <;> rfl
      | irqWait index =>
        simp only
        split
        · rfl
        · split <;> rfl
      | _ => rfl

/-- Each machine is in its own program, and the decoder has ones to shift in. -/
structure RxBlock.Sound (block : RxBlock) : Prop where
  apart : RxRun.Apart block.receiver
  ones : block.receiver.decoder.osr = BitVec.allOnes 32

section Sound

variable {dpPin dmPin : UInt8} {block : RxBlock}

theorem initialBlock_sound (receiver : Receiver) : (initialBlock receiver).Sound :=
  ⟨⟨Nat.zero_le 14, Nat.le_succ 15, show 16 ≤ 31 by decide⟩, rfl⟩

theorem sound_access (sound : block.Sound) (access : RxAccess) : (block.access access).Sound := by
  obtain ⟨⟨decoder, low, high⟩, ones⟩ := sound
  cases access with
  | resetDecoder => exact ⟨⟨Nat.zero_le 14, low, high⟩, ones⟩
  | startDetector => exact ⟨⟨decoder, Nat.le_succ 15, show 16 ≤ 31 by decide⟩, ones⟩
  | resetDetector => exact ⟨⟨decoder, Nat.le_refl 15, show 15 ≤ 31 by decide⟩, ones⟩
  | _ => exact ⟨⟨decoder, low, high⟩, ones⟩

section Cycle

variable (dpFits : dpPin.toNat < 2 ^ 5) (dmFits : dmPin.toNat < 2 ^ 5) (speed : Speed)
  (around : Surroundings)

include dpFits dmFits

/-- The decoder stays in its program, raises nothing, clears flag 4 alone, and keeps its OSR. -/
theorem decoded_sound (sound : block.Sound) :
    (block.decoded (WireProfile.forSpeed speed dpPin dmPin) dpPin dmPin around).1.pc ≤ 14 ∧
      (block.decoded (WireProfile.forSpeed speed dpPin dmPin) dpPin dmPin around).2.raised = none ∧
      (∀ index, (block.decoded (WireProfile.forSpeed speed dpPin dmPin) dpPin dmPin around).2.cleared =
        some index → index = 4) ∧
      (block.decoded (WireProfile.forSpeed speed dpPin dmPin) dpPin dmPin around).1.osr =
        BitVec.allOnes 32 := by
  unfold RxBlock.decoded
  rw [rxConfig_forSpeed speed dpFits dmFits]
  split
  · obtain ⟨inside, raised, cleared⟩ := decoder_cycle sound.apart.decoder
    exact ⟨inside, raised, fun index same => (cleared index same).2, by rw [cycle_osr, sound.ones]⟩
  · exact ⟨sound.apart.decoder, rfl, nofun, sound.ones⟩

/-- The detector stays in its program and clears nothing. -/
theorem detected_sound (sound : block.Sound) :
    (15 ≤ (block.detected (WireProfile.forSpeed speed dpPin dmPin) dpPin dmPin around).1.pc ∧
      (block.detected (WireProfile.forSpeed speed dpPin dmPin) dpPin dmPin around).1.pc ≤ 31) ∧
      (block.detected (WireProfile.forSpeed speed dpPin dmPin) dpPin dmPin around).2.cleared =
        none := by
  unfold RxBlock.detected
  rw [edgeConfig_forSpeed speed dpFits dmFits]
  split
  · obtain ⟨inside, cleared, -⟩ := detector_cycle sound.apart.detectorLow sound.apart.detectorHigh
    exact ⟨inside, cleared⟩
  · exact ⟨⟨sound.apart.detectorLow, sound.apart.detectorHigh⟩, rfl⟩

theorem sound_step (sound : block.Sound) :
    (block.step (WireProfile.forSpeed speed dpPin dmPin) dpPin dmPin around).Sound := by
  obtain ⟨decoder, -, -, ones⟩ := decoded_sound dpFits dmFits speed around sound
  obtain ⟨⟨low, high⟩, -⟩ := detected_sound dpFits dmFits speed around sound
  exact ⟨⟨decoder, low, high⟩, ones⟩

/-- A flag in a cycle. -/
theorem step_irqs (sound : block.Sound) (index : Nat) :
    (block.step (WireProfile.forSpeed speed dpPin dmPin) dpPin dmPin around).receiver.irqs index =
      (block.receiver.irqs index &&
          (block.decoded (WireProfile.forSpeed speed dpPin dmPin) dpPin dmPin around).2.cleared !=
            some index ||
        (block.detected (WireProfile.forSpeed speed dpPin dmPin) dpPin dmPin around).2.raised ==
          some index) := by
  obtain ⟨-, raised, -, -⟩ := decoded_sound dpFits dmFits speed around sound
  obtain ⟨-, cleared⟩ := detected_sound dpFits dmFits speed around sound
  show Receiver.flagsAfter _ _ _ index = _
  unfold Receiver.flagsAfter
  rw [raised, cleared, show (none != some index) = true from rfl,
    show (none == some index) = false from rfl, Bool.and_true, Bool.or_false]

end Cycle

/-- **Soundness lasts**, whatever is done in whatever order, and whatever the bus does. -/
theorem sound_after (dpFits : dpPin.toNat < 2 ^ 5) (dmFits : dmPin.toNat < 2 ^ 5) (sound : block.Sound)
    (events : List RxEvent) : (block.after dpPin dmPin events).Sound := by
  induction events generalizing block with
  | nil => exact sound
  | cons event rest ih =>
    refine ih ?_
    cases event with
    | cycle speed around => exact sound_step dpFits dmFits speed around sound
    | access access => exact sound_access sound access

end Sound

/-! ### Parking the edge detector -/

/-- The detector on its way to its park, or in it, and no other flag than its own set. -/
structure Parking (block : RxBlock) : Prop where
  sound : block.Sound
  on : block.detectorOn = true
  stands : EdgePhase.ending.Stands block.receiver.detector ∧ block.receiver.irqs 2 = false ∨
    EdgePhase.parked.Stands block.receiver.detector ∧ block.receiver.irqs 2 = true
  quiet : block.receiver.irqs 1 = false ∧ block.receiver.irqs 3 = false ∧
    block.receiver.irqs 4 = false

section Parking

variable {dpPin dmPin : UInt8} {block : RxBlock}

/-- `park_receive` up to its poll. -/
theorem parking_start (sound : block.Sound) :
    Parking (block.after dpPin dmPin (accesses parkReceive)) ∧
      (block.after dpPin dmPin (accesses parkReceive)).receiver.irqs 2 = false := by
  have clear : ∀ index, rxIrqMask index = true →
      (block.after dpPin dmPin (accesses parkReceive)).receiver.irqs index = false := by
    intro index masked
    show (block.receiver.irqs index && !rxIrqMask index) = false
    rw [masked, Bool.not_true, Bool.and_false]
  refine ⟨⟨⟨⟨sound.apart.decoder, Nat.le_refl 15, show 15 ≤ 31 by decide⟩, sound.ones⟩, rfl,
    Or.inl ⟨⟨rfl, rfl, rfl, trivial⟩, clear 2 (by decide)⟩, clear 1 (by decide), clear 3 (by decide),
    clear 4 (by decide)⟩, clear 2 (by decide)⟩

section Cycle

variable (dpFits : dpPin.toNat < 2 ^ 5) (dmFits : dmPin.toNat < 2 ^ 5) (speed : Speed)
  (around : Surroundings)

include dpFits dmFits

/-- A parked detector stays parked, and one on its way is parked after a tick. -/
theorem parking_detected (parking : Parking block) :
    let detected := block.detected (WireProfile.forSpeed speed dpPin dmPin) dpPin dmPin around
    (detected.2.raised = none ∨ detected.2.raised = some 2) ∧
      (EdgePhase.ending.Stands detected.1 ∧ block.receiver.irqs 2 = false ∧
          detected.2.raised = none ∧ around.ticks = false ∨
        EdgePhase.parked.Stands detected.1 ∧
          (block.receiver.irqs 2 = true ∨ detected.2.raised = some 2 ∧ around.ticks = true)) := by
  unfold RxBlock.detected
  rw [edgeConfig_forSpeed speed dpFits dmFits, parking.on, Bool.true_and]
  cases ticks : around.ticks with
  | false =>
    rw [if_neg Bool.false_ne_true]
    rcases parking.stands with ⟨stands, clear⟩ | ⟨stands, raised⟩
    · exact ⟨Or.inl rfl, Or.inl ⟨stands, clear, rfl, rfl⟩⟩
    · exact ⟨Or.inl rfl, Or.inr ⟨stands, Or.inl raised⟩⟩
  | true =>
    rw [if_pos rfl]
    simp only
    rcases parking.stands with ⟨stands, clear⟩ | ⟨stands, raised⟩
    · obtain ⟨next, effect⟩ := stands.follows
      rw [effect]
      exact ⟨Or.inr rfl, Or.inr ⟨next, Or.inr ⟨rfl, trivial⟩⟩⟩
    · obtain ⟨next, effect⟩ := stands.follows
      rw [effect]
      have held : (block.found around).irqs 2 = true := raised
      have next : (EdgePhase.next ((block.found around).irqs 2) _ _ .parked).Stands _ := next
      rw [held] at next
      exact ⟨Or.inl rfl, Or.inr ⟨next, Or.inl raised⟩⟩

/-- **A cycle on the way to the park**: flag 2 is raised at the first tick, and no other flag. -/
theorem parking_step (parking : Parking block) :
    Parking (block.step (WireProfile.forSpeed speed dpPin dmPin) dpPin dmPin around) ∧
      (block.step (WireProfile.forSpeed speed dpPin dmPin) dpPin dmPin around).receiver.irqs 2 =
        (block.receiver.irqs 2 || around.ticks) := by
  obtain ⟨-, -, cleared, -⟩ := decoded_sound dpFits dmFits speed around parking.sound
  obtain ⟨raises, stands⟩ := parking_detected dpFits dmFits speed around parking
  have flags := step_irqs dpFits dmFits speed around parking.sound
  have kept : ∀ index, index ≠ 4 → ((block.decoded (WireProfile.forSpeed speed dpPin dmPin) dpPin
      dmPin around).2.cleared != some index) = true := fun index other =>
    bne_iff_ne.mpr fun same => other (cleared index same)
  have silent : ∀ index, index ≠ 2 → ((block.detected (WireProfile.forSpeed speed dpPin dmPin) dpPin
      dmPin around).2.raised == some index) = false := by
    intro index other
    rcases raises with none | two
    · rw [none]
      rfl
    · rw [two]
      exact beq_eq_false_iff_ne.mpr fun same => other (Option.some.inj same).symm
  obtain ⟨one, three, four⟩ := parking.quiet
  have two := flags 2
  rw [kept 2 (by decide), Bool.and_true] at two
  have sound := sound_step dpFits dmFits speed around parking.sound
  have quiet : ∀ index, index ≠ 2 → block.receiver.irqs index = false →
      (block.step (WireProfile.forSpeed speed dpPin dmPin) dpPin dmPin around).receiver.irqs index =
        false := by
    intro index other clear
    rw [flags, clear, silent index other]
    rfl
  have others := And.intro (quiet 1 (by decide) one)
    (And.intro (quiet 3 (by decide) three) (quiet 4 (by decide) four))
  rcases stands with ⟨ending, clear, none, ticks⟩ | ⟨parked, raised | ⟨raised, ticks⟩⟩
  · rw [clear, none] at two
    refine ⟨⟨sound, parking.on, Or.inl ⟨ending, two⟩, others⟩, ?_⟩
    rw [two, clear, ticks]
    rfl
  · rw [raised, Bool.true_or] at two
    refine ⟨⟨sound, parking.on, Or.inr ⟨parked, two⟩, others⟩, ?_⟩
    rw [two, raised, Bool.true_or]
  · rw [raised, BEq.rfl, Bool.or_true] at two
    refine ⟨⟨sound, parking.on, Or.inr ⟨parked, two⟩, others⟩, ?_⟩
    rw [two, ticks, Bool.or_true]

/-- **The poll of `park_receive`** ends at the first tick of the detector's clock. -/
theorem parking_after (parking : Parking block) (waits : List (Speed × Surroundings)) :
    Parking (block.after dpPin dmPin (cycles waits)) ∧
      (block.after dpPin dmPin (cycles waits)).receiver.irqs 2 =
        (block.receiver.irqs 2 || waits.any fun each => each.2.ticks) := by
  induction waits generalizing block with
  | nil => exact ⟨parking, (Bool.or_false _).symm⟩
  | cons first rest ih =>
    obtain ⟨next, flag⟩ := parking_step dpFits dmFits first.1 first.2 parking
    obtain ⟨final, raised⟩ := ih next
    refine ⟨final, raised.trans ?_⟩
    rw [flag, List.any_cons, Bool.or_assoc]

end Cycle

end Parking

/-! ### Preparing the byte decoder -/

/-- The decoder before or at its first wait, behind a parked detector. -/
structure Prepared (block : RxBlock) : Prop where
  parking : Parking block
  held : block.receiver.irqs 2 = true
  ready : block.receiver.decoder.pc = 0 ∨
    block.receiver.decoder.pc = 1 ∧ block.receiver.decoder.y = 6
  level : block.receiver.decoder.x = 0
  emptyIsr : block.receiver.decoder.isr = 0 ∧ block.receiver.decoder.isrCount = 0
  idle : block.receiver.decoder.delay = 0 ∧ block.receiver.decoder.waiting = false
  emptyFifo : block.receiver.pulled = [] ∧ block.receiver.fifo = []

section Preparing

variable {dpPin dmPin : UInt8} {block : RxBlock}

/-- `prepare_receive_disabled`. -/
theorem prepared_start (parking : Parking block) (held : block.receiver.irqs 2 = true) :
    Prepared (block.after dpPin dmPin (accesses prepareReceiveDisabled)) :=
  ⟨⟨⟨⟨Nat.zero_le 14, parking.sound.apart.detectorLow, parking.sound.apart.detectorHigh⟩,
      parking.sound.ones⟩, parking.on, parking.stands, parking.quiet⟩,
    held, Or.inl rfl, rfl, ⟨rfl, rfl⟩, ⟨rfl, rfl⟩, ⟨rfl, rfl⟩⟩

theorem prepared_enable (prepared : Prepared block) : Prepared (block.access (.enableDecoder true)) :=
  ⟨⟨⟨prepared.parking.sound.apart, prepared.parking.sound.ones⟩, prepared.parking.on,
    prepared.parking.stands, prepared.parking.quiet⟩, prepared.held, prepared.ready, prepared.level,
    prepared.emptyIsr, prepared.idle, prepared.emptyFifo⟩

variable (dpFits : dpPin.toNat < 2 ^ 5) (dmFits : dmPin.toNat < 2 ^ 5)

include dpFits dmFits

/-- What the decoder does until flag 4 is raised: one instruction, and then nothing. -/
theorem prepared_decoded (prepared : Prepared block) (speed : Speed) (around : Surroundings) :
    let decoded := block.decoded (WireProfile.forSpeed speed dpPin dmPin) dpPin dmPin around
    decoded.2 = .quiet ∧ (decoded.1 = block.receiver.decoder ∨
      decoded.1 = { block.receiver.decoder with pc := 1, y := 6, delay := 0 }) := by
  unfold RxBlock.decoded
  rw [rxConfig_forSpeed speed dpFits dmFits]
  split
  · rcases prepared.ready with zero | ⟨one, y⟩
    · have found : decoderConfig.program block.receiver.decoder.pc =
          some { op := .setY 6, delay := 0 } := by
        rw [zero]
        rfl
      have next : block.receiver.decoder.nextPc decoderConfig = 1 := by
        unfold Machine.nextPc
        rw [zero]
        rfl
      rw [cycle_instr prepared.idle.1 found]
      refine ⟨rfl, Or.inr ?_⟩
      show Machine.complete _ (block.receiver.decoder.nextPc decoderConfig) 0 = _
      rw [next]
      rfl
    · have found : decoderConfig.program block.receiver.decoder.pc =
          some { op := .waitIrq 4, delay := 0 } := by
        rw [one]
        rfl
      rw [cycle_waitIrq_stall prepared.idle.1 found prepared.parking.quiet.2.2]
      exact ⟨rfl, Or.inl rfl⟩
  · exact ⟨rfl, Or.inl rfl⟩

/-- **A cycle while the detector is parked.** -/
theorem prepared_step (prepared : Prepared block) (speed : Speed) (around : Surroundings) :
    Prepared (block.step (WireProfile.forSpeed speed dpPin dmPin) dpPin dmPin around) := by
  obtain ⟨parking, flag⟩ := parking_step dpFits dmFits speed around prepared.parking
  obtain ⟨quiet, moves⟩ := prepared_decoded dpFits dmFits prepared speed around
  have decoder :
      (block.step (WireProfile.forSpeed speed dpPin dmPin) dpPin dmPin around).receiver.decoder =
        (block.decoded (WireProfile.forSpeed speed dpPin dmPin) dpPin dmPin around).1 := rfl
  obtain ⟨pulled, fifo⟩ := prepared.emptyFifo
  have log : (block.step (WireProfile.forSpeed speed dpPin dmPin) dpPin dmPin around).receiver.pulled =
      [] ∧ (block.step (WireProfile.forSpeed speed dpPin dmPin) dpPin dmPin around).receiver.fifo =
        [] := by
    constructor
    · show block.receiver.pulled ++ block.receiver.fifo.take around.reads = []
      rw [pulled, fifo, List.take_nil]
      rfl
    · show block.receiver.fifo.drop around.reads ++ _ = []
      rw [fifo, List.drop_nil, quiet]
      rfl
  refine ⟨parking, ?_, ?_, ?_, ?_, ?_, log⟩
  · rw [flag, prepared.held, Bool.true_or]
  all_goals rw [decoder]; rcases moves with same | same <;> rw [same]
  · exact prepared.ready
  · exact Or.inr ⟨rfl, rfl⟩
  · exact prepared.level
  · exact prepared.level
  · exact prepared.emptyIsr
  · exact prepared.emptyIsr
  · exact prepared.idle
  · exact ⟨rfl, prepared.idle.2⟩

theorem prepared_after (prepared : Prepared block) (waits : List (Speed × Surroundings)) :
    Prepared (block.after dpPin dmPin (cycles waits)) := by
  induction waits generalizing block with
  | nil => exact prepared
  | cons first rest ih => exact ih (prepared_step dpFits dmFits prepared first.1 first.2)

end Preparing

/-! ### Armed -/

/-- The CPU's part of arming after the poll: the decoder is prepared, enabled at once or at the end of
the host's packet, and the flags are cleared there. -/
def armReceivers (idle running : List (Speed × Surroundings)) : List RxEvent :=
  accesses prepareReceiveDisabled ++ cycles idle ++ accesses [.enableDecoder true] ++
    cycles running ++ accesses [.clearFlags]

section Armed

variable {dpPin dmPin : UInt8} {block : RxBlock}

theorem after_append (block : RxBlock) (first second : List RxEvent) :
    block.after dpPin dmPin (first ++ second) =
      (block.after dpPin dmPin first).after dpPin dmPin second := List.foldl_append

/-- Cycles enable and disable nothing. -/
theorem enabled_cycles (block : RxBlock) (waits : List (Speed × Surroundings)) :
    (block.after dpPin dmPin (cycles waits)).decoderOn = block.decoderOn ∧
      (block.after dpPin dmPin (cycles waits)).detectorOn = block.detectorOn := by
  induction waits generalizing block with
  | nil => exact ⟨rfl, rfl⟩
  | cons first rest ih => exact ih _

/-- Clearing the flags of a prepared block arms it. -/
theorem armed_of_prepared (prepared : Prepared block) :
    (block.access .clearFlags).receiver.Armed := by
  have parked : EdgePhase.parked.Stands block.receiver.detector := by
    rcases prepared.parking.stands with ⟨-, clear⟩ | ⟨stands, -⟩
    · exact absurd (clear.symm.trans prepared.held) Bool.false_ne_true
    · exact stands
  refine ⟨prepared.ready, prepared.level, prepared.emptyIsr, prepared.parking.sound.ones,
    prepared.idle, parked, fun index low high => ?_, prepared.emptyFifo⟩
  have masked : rxIrqMask index = true := by
    interval_cases index <;> decide
  show (block.receiver.irqs index && !rxIrqMask index) = false
  rw [masked, Bool.not_true, Bool.and_false]

/-- **An armed block runs as the receivers do.** -/
theorem armed_run (rx : RxRun) (start : block.receiver = rx.start) (decoder : block.decoderOn = true)
    (detector : block.detectorOn = true) (count : Nat) :
    (block.after rx.dpPin rx.dmPin
      (cycles ((List.range count).map fun time => (rx.speed, rx.around time)))).receiver =
        rx.block count := by
  induction count with
  | zero => exact start
  | succ count ih =>
    obtain ⟨decoderStill, detectorStill⟩ := @enabled_cycles rx.dpPin rx.dmPin block
      ((List.range count).map fun time => (rx.speed, rx.around time))
    unfold cycles at ih decoderStill detectorStill ⊢
    rw [List.range_succ, List.map_append, List.map_append, after_append]
    refine (RxBlock.step_on _ _ _ _ (decoderStill.trans decoder) (detectorStill.trans detector)).trans ?_
    rw [ih]
    rfl

/-- **Every transaction begins with armed receivers.** However the engine has been used since it was
made, with transactions abandoned anywhere, wire speeds changed and any noise on the bus: the poll of
`park_receive` ends at the first tick of the detector's clock, and once it has, the receivers that the
driver prepares and releases are armed and enabled, whatever the bus does meanwhile. -/
theorem arming_spec (dpFits : dpPin.toNat < 2 ^ 5) (dmFits : dmPin.toNat < 2 ^ 5)
    (receiver : Receiver) (history : List RxEvent) (waits idle running : List (Speed × Surroundings)) :
    let parked := (initialBlock receiver).after dpPin dmPin
      (history ++ accesses parkReceive ++ cycles waits)
    let armed := parked.after dpPin dmPin (armReceivers idle running)
    (parked.receiver.irqs 2 = waits.any fun each => each.2.ticks) ∧
      (parked.receiver.irqs 2 = true →
        armed.receiver.Armed ∧ armed.decoderOn = true ∧ armed.detectorOn = true) := by
  have sound := sound_after dpFits dmFits (initialBlock_sound receiver) history
  obtain ⟨parking, clear⟩ := @parking_start dpPin dmPin _ sound
  obtain ⟨parked, flag⟩ := parking_after dpFits dmFits parking waits
  simp only [after_append]
  refine ⟨by rw [flag, clear, Bool.false_or], fun held => ?_⟩
  have prepared := prepared_after dpFits dmFits (prepared_enable (prepared_after dpFits dmFits
    (@prepared_start dpPin dmPin _ parked held) idle)) running
  unfold armReceivers
  simp only [after_append]
  refine ⟨armed_of_prepared prepared, ?_, prepared.parking.on⟩
  exact (enabled_cycles _ running).1

/-- A transaction at low speed that is given up with a packet on the bus. -/
def abandoned : List RxEvent :=
  accesses configureReceivers ++ accesses parkReceive ++
    cycles [(.low, { pins := dpHigh, ticks := true, reads := 0 })] ++ armReceivers [] [] ++
    cycles (List.replicate 40 (.low, { pins := dpHigh, ticks := true, reads := 0 })) ++
    accesses [.enableDecoder false, .enableDetector false]

/-- The next transaction begins with armed receivers. -/
theorem arming_spec_abandoned :
    (((initialBlock armedReceiver).after 3 9 (abandoned ++ accesses parkReceive ++
      cycles [(.low, { pins := Pins.neither, ticks := true, reads := 0 })])).after 3 9
        (armReceivers [] [])).receiver.Armed := by
  obtain ⟨polled, armed⟩ := @arming_spec 3 9 (by decide) (by decide) armedReceiver abandoned
    [(.low, { pins := Pins.neither, ticks := true, reads := 0 })] [] []
  exact (armed (polled.trans rfl)).1

end Armed

end PioUsbHost.Pio
