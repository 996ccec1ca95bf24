/-
**From a transmitter to a receiver.**

A bit takes four cycles of the transmit program and eight ticks of the edge detector, and with the
dividers of a speed both are the same cycles of the system clock. So what one transmit program puts on
the lines, the receive programs of another host take off them.

* `busOf`: the bus that the lines of a transmitter make, pulled to J when they are released.
* `Transmitted.bus_slot`, `Transmitted.timed`: each state of its packet has a bit time of its own.
* `transmitted_received`: the bytes given to one host's transmitter are those the other's CPU pulls.
-/

import PioUsbHost.Pio.BitTiming
import PioUsbHost.Pio.TransmitPacket

namespace PioUsbHost.Pio

open PioUsbHost.Lib PioUsbHost.Lib.PioMachine PioUsbHost.Usb

/-! ### The bus that a transmitter makes -/

/-- The levels of the pins: a released pin rests where the pull resistors of an idle bus hold it. -/
def atRest (speed : Speed) (lines : Lines) : Pins :=
  let idle := busPins speed (some .J)
  ⟨lines.first.getD idle.first, lines.second.getD idle.second⟩

/-- The state of the bus; a transmitter never drives both lines high. -/
def busOf (speed : Speed) (lines : Lines) : BusState :=
  if atRest speed lines = busPins speed (some .J) then some .J
  else if atRest speed lines = busPins speed (some .K) then some .K
  else none

theorem busOf_released (speed : Speed) : busOf speed released = some .J := by cases speed <;> rfl

theorem pinOrder_released (speed : Speed) : pinOrder speed released = released := by
  cases speed <;> rfl

/-! ### The lines, slot by slot -/

/-- A slot holds its state for four cycles. -/
theorem getElem?_slots (states : List WireState) (slot : Nat) {part : Nat} (within : part < 4) :
    (states.flatMap fun state => List.replicate 4 (levelLines state))[4 * slot + part]? =
      states[slot]?.map levelLines := by
  induction states generalizing slot with
  | nil => rfl
  | cons state rest ih =>
    rw [List.flatMap_cons]
    cases slot with
    | zero =>
      rw [List.getElem?_append_left (by simpa using within), List.getElem?_replicate,
        if_pos (by omega)]
      rfl
    | succ slot =>
      rw [List.getElem?_append_right (by simp; omega), List.length_replicate,
        show 4 * (slot + 1) + part - 4 = 4 * slot + part by omega, ih]
      rfl

theorem length_slots (states : List WireState) :
    (states.flatMap fun state => List.replicate 4 (levelLines state)).length = 4 * states.length := by
  induction states with
  | nil => rfl
  | cons state rest ih =>
    rw [List.flatMap_cons, List.length_append, List.length_replicate, ih, List.length_cons]
    omega

/-- The lines in a slot of the packet, or at its end. -/
def slotLines : BusState → Lines
  | some level => levelLines level
  | none => se0

theorem busOf_slotLines (speed : Speed) (state : BusState) :
    busOf speed (pinOrder speed (slotLines state)) = state := by
  cases speed <;> rcases state with _ | _ | _ <;> rfl

/-- A packet, from its idle J to its end. -/
theorem packetLines_slot (states : List WireState) {slot part : Nat} (inside : slot ≤ states.length)
    (within : part < 4) :
    (packetLines states)[4 * (slot + 1) + part]? = some (slotLines states[slot]?) := by
  have long := length_slots (.J :: states)
  rw [List.length_cons] at long
  unfold packetLines
  rw [List.append_assoc]
  rcases Nat.lt_or_eq_of_le inside with less | rfl
  · rw [List.getElem?_append_left (by omega), getElem?_slots _ _ within, List.getElem?_cons_succ,
      List.getElem?_eq_getElem less]
    rfl
  · rw [List.getElem?_append_right (by omega), List.getElem?_append_left (by simp; omega),
      List.getElem?_replicate, if_pos (by omega), List.getElem?_eq_none le_rfl]
    rfl

theorem packetLines_first (states : List WireState) {part : Nat} (within : part < 4) :
    (packetLines states)[part]? = some (levelLines .J) := by
  have long := length_slots (.J :: states)
  rw [List.length_cons] at long
  have first := getElem?_slots (.J :: states) 0 within
  rw [Nat.mul_zero, Nat.zero_add] at first
  unfold packetLines
  rw [List.append_assoc, List.getElem?_append_left (by omega), first]
  rfl

theorem length_packetLines (states : List WireState) :
    (packetLines states).length = 4 * states.length + 16 := by
  unfold packetLines
  rw [List.length_append, List.length_append, length_slots, List.length_replicate,
    List.length_replicate, List.length_cons]
  omega

section Slots

variable {speed : Speed} {bytes : List UInt8} {feed : Feed (bytes.map txWord)} {go : Nat}
  {machine : Machine}

/-- The bus after each cycle of a transmitter. -/
def busAfter (speed : Speed) (feed : Feed (bytes.map txWord)) (go : Nat) (machine : Machine)
    (cycles : Nat) : BusState :=
  busOf speed (driven (txConfig speed) feed go machine cycles).lines

/-- What the contract says of the lines after one cycle. -/
theorem Transmitted.lines_after (sent : Transmitted speed bytes feed go machine) {cycles : Nat}
    (inside : cycles < go + 4 * (wireBits bytes).length + 21) :
    some (driven (txConfig speed) feed go machine (cycles + 1)).lines =
      ((List.replicate (go + 3) released ++ packetLines (wireStates bytes) ++
        List.replicate 2 released)[cycles]?).map (pinOrder speed) := by
  rw [← List.getElem?_map, ← sent.lines 0]
  unfold drivenLinesOver
  rw [List.getElem?_map, List.getElem?_range (by omega)]
  rfl

/-- Until its first state the bus is idle. -/
theorem Transmitted.bus_idle (sent : Transmitted speed bytes feed go machine)
    (parked : Parked machine) {cycles : Nat} (before : cycles < go + 8) :
    busAfter speed feed go machine cycles = some .J := by
  cases cycles with
  | zero =>
    unfold busAfter
    show busOf speed machine.lines = _
    rw [lines_released parked.loaded.dirs]
    exact busOf_released speed
  | succ cycles =>
    have after := sent.lines_after (show cycles < go + 4 * (wireBits bytes).length + 21 by omega)
    have long := length_packetLines (wireStates bytes)
    rw [List.append_assoc] at after
    unfold busAfter
    by_cases waits : cycles < go + 3
    · rw [List.getElem?_append_left (by simpa using waits), List.getElem?_replicate,
        if_pos waits] at after
      rw [Option.some.inj after, pinOrder_released]
      exact busOf_released speed
    · obtain ⟨part, rfl⟩ := Nat.exists_eq_add_of_le (Nat.not_lt.mp waits)
      rw [List.getElem?_append_right (by simp), List.length_replicate, Nat.add_sub_cancel_left,
        List.getElem?_append_left (by omega), packetLines_first _ (by omega)] at after
      rw [Option.some.inj after]
      exact busOf_slotLines speed (some .J)

/-- **Each state has four cycles**, and SE0 follows. -/
theorem Transmitted.bus_slot (sent : Transmitted speed bytes feed go machine) {slot part : Nat}
    (inside : slot ≤ (wireStates bytes).length) (within : part < 4) :
    busAfter speed feed go machine (go + 8 + 4 * slot + part) = (wireStates bytes)[slot]? := by
  have same : (wireStates bytes).length = (wireBits bytes).length := LineCode.length_levels _ _
  have after := sent.lines_after
    (show go + 3 + (4 * (slot + 1) + part) < go + 4 * (wireBits bytes).length + 21 by omega)
  have long := length_packetLines (wireStates bytes)
  rw [List.append_assoc, List.getElem?_append_right (by simp), List.length_replicate,
    Nat.add_sub_cancel_left, List.getElem?_append_left (by omega),
    packetLines_slot _ inside within] at after
  unfold busAfter
  rw [show go + 8 + 4 * slot + part = go + 3 + (4 * (slot + 1) + part) + 1 by omega,
    Option.some.inj after]
  exact busOf_slotLines speed _

end Slots

/-! ### Two hosts on one bus -/

section Hosts

variable {speed : Speed} {bytes : List UInt8} {feed : Feed (bytes.map txWord)} {go : Nat}
  {machine : Machine} {phase : Nat}

theorem tx_time_bits (inside : phase < txDivisor speed) (cycle number : Nat) :
    (txDivider speed phase inside).time (cycle + 4 * number) =
      (txDivider speed phase inside).time cycle + bitCycles speed * number := by
  refine Divider.time_add _ ?_ cycle
  show 256 * (bitCycles speed * number) = 4 * number * txDivisor speed
  rw [← Nat.mul_assoc, txDivisor_bit]
  exact Nat.mul_right_comm 4 (txDivisor speed) number

/-- The cycle from which the packet's states are on the bus. -/
def packetStart (speed : Speed) (inside : phase < txDivisor speed) (go : Nat) : Nat :=
  (txDivider speed phase inside).time (go + 7) + 1

/-- A packet's bus is read bit by bit from the transmitter's own cycles. -/
theorem count_slot (inside : phase < txDivisor speed) (go number time : Nat) :
    packetStart speed inside go + bitCycles speed * number ≤ time ↔
      go + 8 + 4 * number ≤ (txDivider speed phase inside).count time := by
  have counted := (txDivider speed phase inside).lt_count_iff (go + 7 + 4 * number) time
  rw [tx_time_bits] at counted
  unfold packetStart
  omega

/-- **A transmitter's packet keeps time.** -/
theorem Transmitted.timed (sent : Transmitted speed bytes feed go machine) (parked : Parked machine)
    (inside : phase < txDivisor speed) (starts : (wireStates bytes)[0]? = some .K) :
    TimedPacket (fun time => busAfter speed feed go machine ((txDivider speed phase inside).count time))
      speed (wireStates bytes) (packetStart speed inside go)
      (fun number => packetStart speed inside go + bitCycles speed * number) where
  starts := starts
  settled := by
    have first := tx_time_bits inside (go + 3) 1
    unfold packetStart
    rw [show go + 7 = go + 3 + 4 * 1 by omega, first]
    omega
  idle time before := by
    have count := count_slot inside go 0 time
    rw [sent.bus_idle parked (by omega)]
    decide
  holds number within time after before := by
    have reached := (count_slot inside go number time).mp after
    have next := mt (count_slot inside go (number + 1) time).mpr (Nat.not_le.mpr before)
    obtain ⟨part, same⟩ := Nat.exists_eq_add_of_le reached
    show busAfter speed feed go machine _ = _
    rw [same]
    exact sent.bus_slot within (by omega)
  early number := le_rfl
  late number := by omega

/-- A packet that begins with SYNC begins with K. -/
theorem wireStates_sync (bytes : List UInt8) : (wireStates (sync :: bytes))[0]? = some .K := by
  have first : byteBits sync = false :: (byteBits sync).tail := by decide
  unfold wireStates wireBits
  rw [dataBits_cons, first]
  rfl

/-- An ACK on the bus, from a full-speed transmitter whose divider stands at 100. -/
def ackBus (time : Nat) : BusState :=
  busAfter .full ackFeed 3 parkedMachine ((txDivider .full 100 (by decide)).count time)

/-- **What one host sends, the other receives.** The lines of a transmitter, at either speed and from
any phase of its divider, are the bus of a receiver with any pins and any phase of its own. As long as
the transmitter is fed and the receiver's FIFO has room, the bytes pushed to the transmitter are those
the receiver's CPU can pull: at any time a prefix of them, all of them once the end of the packet is
flagged, which is within two bit times of its last state; and no decoder error is flagged. -/
theorem transmitted_received (rx : BusRun) (armed : rx.start.Armed) (roomy : Roomy rx)
    {edgePhase txPhase : Nat} (edgeInside : edgePhase < edgeDivisor rx.speed)
    (clock : rx.clock = (edgeDivider rx.speed edgePhase edgeInside).ticks)
    (machine : Machine) (parked : Parked machine) (rest : List UInt8)
    (feed : Feed ((sync :: rest).map txWord)) (go : Nat)
    (fedInTime : FedInTime (txConfig rx.speed) feed go machine) (txInside : txPhase < txDivisor rx.speed)
    (wired : ∀ time, rx.wave time =
      busAfter rx.speed feed go machine ((txDivider rx.speed txPhase txInside).count time)) :
    (∀ time, (rx.block time).pushed.map rxByte <+: sync :: rest) ∧
      (∀ time, (rx.block time).irqs 2 = true → (rx.block time).pushed.map rxByte = sync :: rest) ∧
      (∀ time, packetStart rx.speed txInside go +
          bitCycles rx.speed * ((wireStates (sync :: rest)).length + 2) ≤ time →
        (rx.block time).irqs 2 = true ∧ (rx.block time).irqs 3 = true) ∧
      ∀ time, (rx.block time).irqs 1 = false := by
  have sent := transmitted parked fedInTime
  have timed := sent.timed parked txInside (wireStates_sync rest)
  rw [← funext wired] at timed
  obtain ⟨first, onBus, soon⟩ := packetOnBus_of_timing clock timed
  obtain ⟨always, complete, flagged, clean⟩ :=
    packet_received rx armed roomy (sent.decoded _ le_rfl) onBus
  exact ⟨always, complete, fun time after => flagged time (Nat.lt_of_lt_of_le soon after), clean⟩

/-- The other host's ACK is received. -/
theorem transmitted_received_ack : ((fullSpeedRun ackBus).block 208).irqs 2 = true ∧
    ((fullSpeedRun ackBus).block 208).pushed.map rxByte = [sync, pidAck] := by
  have received := transmitted_received (fullSpeedRun ackBus) armedReceiver_armed
    (fullSpeedRun_roomy _) (show 0 < edgeDivisor .full by decide) rfl parkedMachine
    ⟨⟨rfl, rfl, rfl, rfl, rfl⟩, rfl⟩ [pidAck] ackFeed 3
    (fun time _ _ => by
      show (if time + 1 = 0 then [sync, pidAck].map txWord else []) = []
      exact if_neg (Nat.succ_ne_zero time)) (show 100 < txDivisor .full by decide) fun _ => rfl
  have flagged := (received.2.2.1 208 (by decide)).1
  exact ⟨flagged, received.2.1 208 flagged⟩

end Hosts

end PioUsbHost.Pio
