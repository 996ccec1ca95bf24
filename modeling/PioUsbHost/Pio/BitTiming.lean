/-
**Reception in bit times.**

With the divider of its profile the edge detector takes eight ticks to a bit. A packet whose states
each begin in the first quarter of their bit is a packet on the bus for it (`packetOnBus_of_timing`),
whatever the phase of the divider.

* `TimedPacket`: the tolerance, in cycles of the system clock.
* `packet_received_timed`: the reception of a packet, at either speed.
-/

import PioUsbHost.Pio.Reception

namespace PioUsbHost.Pio

open PioUsbHost.Lib PioUsbHost.Usb

/-! ### Bit times -/

/-- The cycles of the system clock in a bit. -/
def bitCycles : Speed → Nat
  | .full => 10
  | .low => 80

/-- The divisor of the transmitter's clock. -/
def txDivisor (speed : Speed) : Nat := WireProfile.divisor (WireProfile.ofSpeed speed).txClkdivImage

/-- The divisor of the edge detector's clock. -/
def edgeDivisor (speed : Speed) : Nat :=
  WireProfile.divisor (WireProfile.ofSpeed speed).edgeClkdivImage

section Dividers

variable (speed : Speed)

theorem txDivisor_bit : 256 * bitCycles speed = 4 * txDivisor speed := by cases speed <;> decide

theorem edgeDivisor_bit : 256 * bitCycles speed = 8 * edgeDivisor speed := by
  cases speed <;> decide

theorem txDivisor_whole : 256 ≤ txDivisor speed := by cases speed <;> decide

theorem edgeDivisor_whole : 256 ≤ edgeDivisor speed := by cases speed <;> decide

/-- The transmitter's divider. -/
def txDivider (phase : Nat) (inside : phase < txDivisor speed) : Divider :=
  ⟨txDivisor speed, phase, txDivisor_whole speed, inside⟩

/-- The edge detector's divider. -/
def edgeDivider (phase : Nat) (inside : phase < edgeDivisor speed) : Divider :=
  ⟨edgeDivisor speed, phase, edgeDivisor_whole speed, inside⟩

end Dividers

/-- **A packet in bit times**: no K until its first state, which begins after a tick of the detector's
clock; then each state begins within the first quarter of its bit. -/
structure TimedPacket (wave : Nat → BusState) (speed : Speed) (states : List WireState) (start : Nat)
    (bound : Nat → Nat) : Prop where
  starts : states[0]? = some .K
  settled : bitCycles speed ≤ start
  idle : ∀ time, time < bound 0 → wave time ≠ some .K
  holds : ∀ number, number ≤ states.length → ∀ time, bound number ≤ time →
    time < bound (number + 1) → wave time = states[number]?
  early : ∀ number, start + bitCycles speed * number ≤ bound number
  late : ∀ number, 4 * bound number ≤ 4 * (start + bitCycles speed * number) + bitCycles speed

/-! ### Receivers that are read in time -/

/-- What the decoder pushes in a cycle comes behind what the CPU has left. -/
theorem fifo_succ (rx : BusRun) (time : Nat) : (rx.block (time + 1)).fifo =
    (rx.found time).fifo ++ (rx.decoderEffect time).pushed.toList := by
  show _ ++ (PioInput.cycle (rxConfig rx.profile) (rx.decoderInputs time) _).2.pushed.toList = _
  rw [rx.config_decoder]
  rfl

section EagerReads

variable {rx : BusRun} (armed : rx.start.Armed) (reads : ∀ time, rxFifoDepth ≤ rx.reads time)

include armed reads

/-- A CPU that empties the FIFO in every cycle leaves nothing in it. -/
theorem found_emptied (time : Nat) : (rx.found time).fifo = [] := by
  have few : (rx.block time).fifo.length ≤ 1 ∧ (rx.found time).fifo = [] := by
    induction time with
    | zero =>
      have none : (rx.block 0).fifo = [] := armed.emptyFifo.2
      refine ⟨by rw [none]; exact Nat.zero_le 1, ?_⟩
      show ((rx.block 0).fifo).drop _ = []
      rw [none, List.drop_nil]
    | succ time ih =>
      have one : (rx.block (time + 1)).fifo.length ≤ 1 := by
        rw [fifo_succ, ih.2]
        cases (rx.decoderEffect time).pushed with
        | none => exact Nat.zero_le 1
        | some word => exact le_rfl
      have enough := reads (time + 1)
      unfold rxFifoDepth at enough
      exact ⟨one, List.drop_eq_nil_of_le (by omega)⟩
  exact few.2

theorem roomy_of_reads : Roomy rx := by
  intro time
  rw [found_emptied armed reads]
  decide

end EagerReads

/-- A machine finds of the FIFO only whether there is room. -/
theorem inputs_eq {receiver other : Receiver} {seen : Nat → Bool} {execctrl pinctrl : PioMachine.Word}
    (irqs : receiver.irqs = other.irqs) (room : receiver.fifo.length < rxFifoDepth)
    (otherRoom : other.fifo.length < rxFifoDepth) :
    receiver.inputs seen execctrl pinctrl = other.inputs seen execctrl pinctrl := by
  unfold Receiver.inputs
  rw [irqs, decide_eq_true room, decide_eq_true otherRoom]

/-- The same run, with a CPU that empties the FIFO in every cycle. -/
def eager (rx : BusRun) : BusRun := { rx with reads := fun _ => rxFifoDepth }

section FewWords

variable {rx : BusRun} (armed : rx.start.Armed)
  (few : ∀ time, ((eager rx).block time).pushed.length < rxFifoDepth)

include armed few

/-- Where few words are pushed, it does not matter when they are pulled. -/
theorem eager_agrees (time : Nat) :
    (rx.block time).decoder = ((eager rx).block time).decoder ∧
      (rx.block time).detector = ((eager rx).block time).detector ∧
      (rx.block time).irqs = ((eager rx).block time).irqs ∧
      (rx.block time).pushed = ((eager rx).block time).pushed := by
  induction time with
  | zero => exact ⟨rfl, rfl, rfl, rfl⟩
  | succ time ih =>
    obtain ⟨decoder, detector, irqs, pushed⟩ := ih
    have some : (rx.found time).fifo.length < rxFifoDepth := by
      refine Nat.lt_of_le_of_lt ?_ (pushed ▸ few time)
      show ((rx.block time).fifo.drop _).length ≤
        ((rx.block time).pulled ++ (rx.block time).fifo).length
      rw [List.length_append, List.length_drop]
      omega
    have all : ((eager rx).found time).fifo.length < rxFifoDepth := by
      rw [@found_emptied (eager rx) armed fun _ => le_rfl]
      decide
    have decoderInputs : rx.decoderInputs time = (eager rx).decoderInputs time :=
      @inputs_eq (rx.found time) ((eager rx).found time) _ _ _ irqs some all
    have detectorInputs : rx.detectorInputs time = (eager rx).detectorInputs time :=
      @inputs_eq (rx.found time) ((eager rx).found time) _ _ _ irqs some all
    have decoded : rx.decoderEffect time = (eager rx).decoderEffect time := by
      unfold RxRun.decoderEffect
      rw [decoder, decoderInputs]
    have detected : rx.detectorEffect time = (eager rx).detectorEffect time := by
      unfold RxRun.detectorEffect
      rw [detector, detectorInputs]
      rfl
    refine ⟨?_, ?_, ?_, ?_⟩
    · rw [rx.running.moves time, (eager rx).running.moves time, decoder, decoderInputs]
    · rw [rx.detector_succ, (eager rx).detector_succ, detector, detectorInputs]
      rfl
    · rw [rx.irqs_succ, (eager rx).irqs_succ, irqs, decoded, detected]
    · rw [rx.running.logs time, (eager rx).running.logs time, pushed, decoder, decoderInputs]

/-- **A run that pushes few words always has room**, whenever they are pulled. -/
theorem roomy_of_few : Roomy rx := by
  intro time
  refine Nat.lt_of_le_of_lt ?_ ((eager_agrees armed few time).2.2.2 ▸ few time)
  show ((rx.block time).fifo.drop _).length ≤
    ((rx.block time).pulled ++ (rx.block time).fifo).length
  rw [List.length_append, List.length_drop]
  omega

end FewWords

/-- **A short packet always has room**, however late its bytes are pulled. -/
theorem roomy_of_short {rx : BusRun} (armed : rx.start.Armed) {capacity : Nat}
    {states : List WireState} {bytes : List UInt8} (decoded : decodeNrzi capacity states = .ok bytes)
    {first : Nat} {bound : Nat → Nat} (packet : PacketOnBus rx states first bound)
    (short : bytes.length < rxFifoDepth) : Roomy rx := by
  have same : PacketOnBus (eager rx) states first bound :=
    ⟨packet.starts, packet.idle, packet.holds, packet.early, packet.late⟩
  have always := (packet_received (eager rx) armed (roomy_of_reads armed fun _ => le_rfl) decoded
    same).1
  refine roomy_of_few armed fun time => Nat.lt_of_le_of_lt ?_ short
  have fits := (always time).length_le
  rwa [List.length_map] at fits

/-- A prepared receiver at full speed, whose CPU empties the FIFO in every cycle. -/
def fullSpeedRun (wave : Nat → BusState) : BusRun where
  speed := .full
  dpPin := 16
  dmPin := 17
  dpFits := by decide
  dmFits := by decide
  differ := by decide
  clock := (edgeDivider .full 0 (by decide)).ticks
  pins := fun time => busPins .full (wave time)
  reads := fun _ => rxFifoDepth
  start := armedReceiver
  wave := wave
  carries _ := rfl

theorem fullSpeedRun_roomy (wave : Nat → BusState) : Roomy (fullSpeedRun wave) :=
  roomy_of_reads armedReceiver_armed fun _ => le_rfl

/-! ### The reception of a packet -/

section Timing

variable {rx : BusRun} {states : List WireState} {start phase : Nat} {bound : Nat → Nat}

section Clock

variable {speed : Speed} (inside : phase < edgeDivisor speed)

/-- Eight ticks to a bit. -/
theorem edge_time_bits (tick number : Nat) :
    (edgeDivider speed phase inside).time (tick + 8 * number) =
      (edgeDivider speed phase inside).time tick + bitCycles speed * number := by
  refine Divider.time_add _ ?_ tick
  show 256 * (bitCycles speed * number) = 8 * number * edgeDivisor speed
  rw [← Nat.mul_assoc, edgeDivisor_bit]
  exact Nat.mul_right_comm 8 (edgeDivisor speed) number

/-- Four ticks to half a bit. -/
theorem edge_time_half (tick : Nat) : (edgeDivider speed phase inside).time (tick + 4) =
    (edgeDivider speed phase inside).time tick + bitCycles speed / 2 := by
  refine Divider.time_add _ ?_ tick
  show 256 * (bitCycles speed / 2) = 4 * edgeDivisor speed
  have fills := edgeDivisor_bit speed
  have even : bitCycles speed % 2 = 0 := by cases speed <;> rfl
  omega

/-- Ten ticks fill five quarters of a bit. -/
theorem edge_time_ten (tick : Nat) : (edgeDivider speed phase inside).time tick +
    5 * bitCycles speed / 4 ≤ (edgeDivider speed phase inside).time (tick + 10) := by
  refine Divider.add_le_time _ ?_ tick
  show 256 * (5 * bitCycles speed / 4) ≤ 10 * edgeDivisor speed
  have fills := edgeDivisor_bit speed
  omega

/-- Two ticks fill a quarter of a bit. -/
theorem edge_time_quarter (tick : Nat) : (edgeDivider speed phase inside).time tick +
    bitCycles speed / 4 ≤ (edgeDivider speed phase inside).time (tick + 2) := by
  refine Divider.add_le_time _ ?_ tick
  show 256 * (bitCycles speed / 4) ≤ 2 * edgeDivisor speed
  have fills := edgeDivisor_bit speed
  omega

/-- There is a last tick before a cycle, once a bit time has passed. -/
theorem edge_time_around (settled : bitCycles speed ≤ start) :
    ∃ first, (edgeDivider speed phase inside).time first < start ∧
      start ≤ (edgeDivider speed phase inside).time (first + 1) := by
  have ticked : 0 < (edgeDivider speed phase inside).count start := by
    have fills := edgeDivisor_bit speed
    have whole := edgeDivisor_whole speed
    show 0 < (256 * start + phase) / edgeDivisor speed
    exact Nat.div_pos (by omega) (by omega)
  refine ⟨(edgeDivider speed phase inside).count start - 1, ?_, ?_⟩
  · exact ((edgeDivider speed phase inside).lt_count_iff _ _).mpr (by omega)
  · rw [Nat.sub_add_cancel ticked]
    exact Nat.not_lt.mp (mt ((edgeDivider speed phase inside).lt_count_iff _ _).mp (Nat.lt_irrefl _))

end Clock

/-- How many cycles before the end of a packet is flagged its last byte has been pushed: six at full
speed, 94 at low speed. -/
def eopLead (speed : Speed) : Nat := 5 * bitCycles speed / 4 - 6

/-- **A FIFO found empty shortly before the end of the packet is flagged** has held the whole packet. -/
theorem pushed_before_eop (armed : rx.start.Armed) (roomy : Roomy rx) {inside : phase < edgeDivisor rx.speed}
    (clock : rx.clock = (edgeDivider rx.speed phase inside).ticks) {capacity : Nat}
    {bytes : List UInt8} (decoded : decodeNrzi capacity states = .ok bytes) {first : Nat}
    (packet : PacketOnBus rx states first bound) {time seen : Nat}
    (flagged : (rx.block seen).irqs 2 = true) (soon : seen ≤ time + eopLead rx.speed) :
    (rx.block time).pushed.map rxByte = bytes := by
  have ended := (eop_iff armed packet seen).mp flagged
  have bounds := flagTick_bounds packet le_rfl
  have late : rx.clock.time (first + 8 * states.length + 10) ≤ eopTime rx states bound :=
    rx.clock.strictMono.monotone (by omega)
  have gap : rx.clock.time (first + 8 * states.length) + 5 * bitCycles rx.speed / 4 ≤
      rx.clock.time (first + 8 * states.length + 10) := by
    rw [clock]
    exact edge_time_ten inside _
  have long : 12 ≤ 5 * bitCycles rx.speed / 4 := by cases rx.speed <;> decide
  unfold eopLead at soon
  exact packet_complete rx armed roomy decoded packet (by omega)

/-- **A packet in bit times is a packet on the bus**, for any phase of the detector's divider. -/
theorem packetOnBus_of_timing {inside : phase < edgeDivisor rx.speed}
    (clock : rx.clock = (edgeDivider rx.speed phase inside).ticks)
    (packet : TimedPacket rx.wave rx.speed states start bound) :
    ∃ first, PacketOnBus rx states first bound ∧
      rx.clock.time (first + 8 * states.length + 12) <
        start + bitCycles rx.speed * (states.length + 2) := by
  obtain ⟨first, before, after⟩ := edge_time_around inside packet.settled
  have time : ∀ tick, rx.clock.time tick = (edgeDivider rx.speed phase inside).time tick := by
    intro tick
    rw [clock]
    rfl
  refine ⟨first, ⟨packet.starts, packet.idle, packet.holds, fun number _ => ?_, fun number _ => ?_⟩, ?_⟩
  · have early := packet.early number
    rw [time, edge_time_bits]
    omega
  · have late := packet.late number
    have quarter := edge_time_quarter inside (first + 1 + 8 * number)
    rw [edge_time_bits] at quarter
    rw [time, show first + 8 * number + 3 = first + 1 + 8 * number + 2 by omega]
    omega
  · have half := edge_time_half inside (first + 8 * (states.length + 1))
    rw [edge_time_bits] at half
    have more : bitCycles rx.speed * (states.length + 2) =
        bitCycles rx.speed * (states.length + 1) + bitCycles rx.speed := rfl
    have some : 2 ≤ bitCycles rx.speed := by cases rx.speed <;> decide
    rw [time, show first + 8 * states.length + 12 = first + 8 * (states.length + 1) + 4 by omega, half,
      more]
    omega

/-- **The reception of a packet, in bit times.** For either speed, any pins and any phase of the
detector's divider, states that each begin in the first quarter of their bit arrive as the bytes that
`decode_nrzi` makes of them. -/
theorem packet_received_timed (rx : BusRun) (armed : rx.start.Armed) (roomy : Roomy rx)
    (inside : phase < edgeDivisor rx.speed)
    (clock : rx.clock = (edgeDivider rx.speed phase inside).ticks) {capacity : Nat}
    {bytes : List UInt8} (decoded : decodeNrzi capacity states = .ok bytes)
    (packet : TimedPacket rx.wave rx.speed states start bound) :
    (∀ time, (rx.block time).pushed.map rxByte <+: bytes) ∧
      (∀ time, (rx.block time).irqs 2 = true → (rx.block time).pushed.map rxByte = bytes) ∧
      (∀ time, start + bitCycles rx.speed * (states.length + 2) ≤ time →
        (rx.block time).irqs 2 = true ∧ (rx.block time).irqs 3 = true) ∧
      ∀ time, (rx.block time).irqs 1 = false := by
  obtain ⟨first, onBus, soon⟩ := packetOnBus_of_timing clock packet
  obtain ⟨always, complete, flagged, clean⟩ := packet_received rx armed roomy decoded onBus
  exact ⟨always, complete, fun time after => flagged time (Nat.lt_of_lt_of_le soon after), clean⟩

/-- Where the states of a jittery packet begin. -/
def jitteryBound (number : Nat) : Nat := 100 + 10 * number + 2 * (number % 2)

/-- An ACK whose every other state begins two cycles late. -/
def jitteryAck (time : Nat) : BusState :=
  if time < 100 then some .J
  else
    let slot := (time - 100) / 10
    (wireStates [sync, pidAck])[if (time - 100) % 10 < 2 * (slot % 2) then slot - 1 else slot]?

theorem jitteryAck_timed :
    TimedPacket jitteryAck .full (wireStates [sync, pidAck]) 100 jitteryBound where
  starts := by decide
  settled := by decide
  idle time before := by
    unfold jitteryAck
    rw [if_pos (by unfold jitteryBound at before; omega)]
    decide
  holds number _ time after before := by
    unfold jitteryBound at after before
    unfold jitteryAck
    rw [if_neg (by omega)]
    show (wireStates [sync, pidAck])[_]? = _
    congr 1
    split <;> omega
  early number := by
    show 100 + 10 * number ≤ 100 + 10 * number + 2 * (number % 2)
    omega
  late number := by
    show 4 * (100 + 10 * number + 2 * (number % 2)) ≤ 4 * (100 + 10 * number) + 10
    omega

/-- The jittery ACK arrives. -/
theorem packet_received_timed_jittery : ((fullSpeedRun jitteryAck).block 280).irqs 2 = true ∧
    ((fullSpeedRun jitteryAck).block 280).pushed.map rxByte = [sync, pidAck] := by
  have received := packet_received_timed (fullSpeedRun jitteryAck) armedReceiver_armed
    (fullSpeedRun_roomy _) (by decide) rfl (decodeNrzi_wireStates (by decide : 2 ≤ 2)) jitteryAck_timed
  have flagged := (received.2.2.1 280 (by decide)).1
  exact ⟨flagged, received.2.1 280 flagged⟩

end Timing

end PioUsbHost.Pio
