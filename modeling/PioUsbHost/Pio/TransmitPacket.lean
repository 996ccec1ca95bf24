/-
**A packet, whatever the CPU's schedule.**

`transmit_packet` pushes the bytes of a packet, the first ones before it clears IRQ0 and the others
while the program runs. `driven` is the state machine under any such schedule. As long as the FIFO
does not run empty before the last byte, the lines carry the packet of `sendPacket_spec`, at either
speed, and `decodeNrzi` recovers its bytes.

* `driven_parked`: before IRQ0 is cleared the machine only queues what it is given.
* `driven_from`: from then on it is a machine that is fed.
* `driven_swap`: the two speeds differ by the pins alone.
* `transmitPacket_spec`: the transmitter's contract.
-/

import PioUsbHost.Pio.Transmit

namespace PioUsbHost.Pio

open PioUsbHost.Lib.LineCode PioUsbHost.Lib.PioMachine PioUsbHost.Usb

/-! ### The schedule -/

section Schedule

variable (config : Config) {words : List Word} (feed : Feed words) (go : Nat) (machine : Machine)

/-- The state machine while the CPU pushes, and clears IRQ0 before cycle `go`. -/
def driven : Nat → Machine
  | 0 => machine
  | time + 1 =>
    let pushed := (driven time).push (feed.pushed time)
    cycle config (if time = go then pushed.clearIrq 0 else pushed)

/-- The lines after each of the first cycles. -/
def drivenLinesOver (cycles : Nat) : List Lines :=
  (List.range cycles).map fun time => (driven config feed go machine (time + 1)).lines

/-- From cycle `go` on, the FIFO is empty only once everything has been pushed. -/
def FedInTime : Prop :=
  ∀ time, go ≤ time → ((driven config feed go machine time).push (feed.pushed time)).fifo = [] →
    feed.remaining (time + 1) = []

/-- The two speeds differ by the pins alone. -/
theorem driven_swap (time : Nat) :
    driven config.swap feed go machine.swap time = (driven config feed go machine time).swap := by
  induction time with
  | zero => rfl
  | succ time ih =>
    simp only [driven, ih]
    rw [← cycle_swap]
    split <;> rfl

end Schedule

/-! ### While the transmitter is parked -/

section Waiting

variable {bits : List Bool} {machine : Machine}

theorem Loaded.wait (loaded : Loaded bits machine) (raised : machine.irqs 0 = true) :
    Loaded bits (cycle (txConfig .full) machine) ∧
      (cycle (txConfig .full) machine).irqs 0 = true := by
  have waits : (txConfig .full).program machine.pc =
      some { op := .irqWait 0, side := none, delay := 0 } := by
    rw [loaded.pc]
    exact program_at rfl
  rw [cycle_irqWait_stall loaded.delay waits loaded.waiting raised]
  obtain ⟨-, kept⟩ := refill_spec (machine.sideSet none)
  refine ⟨⟨?_, ?_, ?_, ?_, kept.trans loaded.pending⟩, ?_⟩
  · rw [refill_pc]; exact loaded.pc
  · rw [refill_delay]; exact loaded.delay
  · rw [refill_waiting]; exact loaded.waiting
  · rw [refill_dirs]; exact loaded.dirs
  · rw [refill_irqs]; exact raised

theorem Loaded.push (loaded : Loaded bits machine) (words : List Word) :
    Loaded (bits ++ words.flatMap wordBits) (machine.push words) := by
  refine ⟨loaded.pc, loaded.delay, loaded.waiting, loaded.dirs, ?_⟩
  rw [← loaded.pending]
  unfold pendingBits Machine.push
  rw [List.flatMap_append, List.append_assoc]

theorem Parked.of_push {words : List Word} (parked : Parked (machine.push words)) :
    Parked machine := by
  have empty := (pendingBits_nil parked.loaded.pending).2
  obtain ⟨-, rfl⟩ := List.append_eq_nil_iff.mp empty
  rwa [push_nil] at parked

theorem Parked.quiet (parked : Parked machine) (cycles : Nat) :
    trace (txConfig .full) cycles machine = List.replicate cycles released := by
  induction cycles generalizing machine with
  | zero => rfl
  | succ cycles ih =>
    obtain ⟨loaded, raised⟩ := parked.loaded.wait parked.raised
    rw [trace, ih ⟨loaded, raised⟩, lines_released loaded.dirs, List.replicate_succ]

end Waiting

/-! ### The packet on the lines -/

section Packet

variable {words : List Word} {feed : Feed words} {go : Nat} {machine : Machine}

/-- **Before IRQ0 is cleared** the machine only queues what it is given. -/
theorem driven_parked (feed : Feed words) (parked : Parked machine) (time : Nat)
    (early : time ≤ go) :
    ∃ queued, words = queued ++ feed.remaining time ∧
      Loaded (queued.flatMap wordBits) (driven (txConfig .full) feed go machine time) ∧
      (driven (txConfig .full) feed go machine time).irqs 0 = true := by
  induction time with
  | zero => exact ⟨[], feed.all.symm, parked.loaded, parked.raised⟩
  | succ time ih =>
    obtain ⟨queued, rest, loaded, raised⟩ := ih (by omega)
    refine ⟨queued ++ feed.pushed time, ?_, ?_⟩
    · rw [List.append_assoc, ← feed.split time]
      exact rest
    · rw [List.flatMap_append]
      simp only [driven]
      rw [if_neg (by omega)]
      exact (loaded.push (feed.pushed time)).wait raised

/-- What is left of a feed from a cycle on. -/
def feedFrom (feed : Feed words) (go : Nat) : Feed (feed.remaining go) where
  pushed time := feed.pushed (go + time)
  remaining time := feed.remaining (go + time)
  all := rfl
  split time := feed.split (go + time)

/-- **After IRQ0 is cleared** the machine is merely fed. -/
theorem driven_from (config : Config) (feed : Feed words) (go : Nat) (machine : Machine)
    (cycles : Nat) :
    driven config feed go machine (go + (cycles + 1)) =
      fed config (feedFrom feed go) ((driven config feed go machine go).clearIrq 0) (cycles + 1) := by
  induction cycles with
  | zero =>
    show cycle config (if go = go then _ else _) = _
    rw [if_pos rfl]
    rfl
  | succ cycles ih =>
    show cycle config (if go + (cycles + 1) = go then _ else
      (driven config feed go machine (go + (cycles + 1))).push _) = _
    rw [if_neg (by omega), ih]
    rfl

/-- The machine that sends the packet, with every word in its FIFO. -/
def sender (feed : Feed words) (go : Nat) (machine : Machine) : Machine :=
  ((driven (txConfig .full) feed go machine go).clearIrq 0).push (feed.remaining go)

theorem driven_sender (fedInTime : FedInTime (txConfig .full) feed go machine) (cycles : Nat) :
    run (txConfig .full) (cycles + 1) (sender feed go machine) =
      (driven (txConfig .full) feed go machine (go + (cycles + 1))).push
        (feed.remaining (go + (cycles + 1))) := by
  rw [driven_from]
  refine fed_push (feedFrom feed go) (fun time empty => ?_) (cycles + 1)
  cases time with
  | zero => exact fedInTime go le_rfl empty
  | succ time =>
    rw [← driven_from] at empty
    exact fedInTime (go + (time + 1)) (by omega) empty

theorem sender_loaded (feed : Feed words) (go : Nat) (parked : Parked machine) :
    Loaded (words.flatMap wordBits) (sender feed go machine) ∧
      (sender feed go machine).irqs 0 = false := by
  obtain ⟨queued, rest, loaded, -⟩ := driven_parked feed parked go le_rfl
  have cleared : Loaded (queued.flatMap wordBits)
      ((driven (txConfig .full) feed go machine go).clearIrq 0) :=
    ⟨loaded.pc, loaded.delay, loaded.waiting, loaded.dirs, loaded.pending⟩
  have all := congrArg (List.flatMap wordBits) rest
  rw [List.flatMap_append] at all
  rw [all]
  refine ⟨cleared.push (feed.remaining go), ?_⟩
  show Function.update (driven (txConfig .full) feed go machine go).irqs 0 false 0 = false
  exact Function.update_self _ _ _

/-- **The lines over a packet at full speed.** -/
theorem drivenLinesOver_full (parked : Parked machine)
    (fedInTime : FedInTime (txConfig .full) feed go machine) (cycles : Nat) :
    drivenLinesOver (txConfig .full) feed go machine (go + cycles) =
      List.replicate go released ++ trace (txConfig .full) cycles (sender feed go machine) := by
  unfold drivenLinesOver
  rw [List.range_add, List.map_append, List.map_map]
  congr 1
  · refine List.ext_getElem (by simp) fun time inside _ => ?_
    rw [List.length_map, List.length_range] at inside
    obtain ⟨_, -, loaded, -⟩ := driven_parked feed parked (time + 1) inside
    rw [List.getElem_map, List.getElem_range, List.getElem_replicate, lines_released loaded.dirs]
  · refine List.ext_getElem (by simp [trace_length]) fun time inside within => ?_
    rw [List.getElem_map, List.getElem_range, trace_getElem, driven_sender fedInTime, lines_push]
    rfl

end Packet

/-! ### The contract -/

/-- The order of the pins: at low speed J is D- high. -/
def pinOrder : Speed → Lines → Lines
  | .full => id
  | .low => Lines.swap

/-- **What the transmitter does with a packet**: the lines until long after it, the parked machine it
leaves, and what its wire states mean. -/
structure Transmitted (speed : Speed) (bytes : List UInt8) (feed : Feed (bytes.map txWord))
    (go : Nat) (machine : Machine) : Prop where
  lines : ∀ later,
    drivenLinesOver (txConfig speed) feed go machine
        (go + (4 * (wireBits bytes).length + 21 + later)) =
      (List.replicate (go + 3) released ++ packetLines (wireStates bytes) ++
        List.replicate (2 + later) released).map (pinOrder speed)
  parked : Parked (driven (txConfig speed) feed go machine
    (go + (4 * (wireBits bytes).length + 21)))
  decoded : ∀ capacity, bytes.length ≤ capacity →
    decodeNrzi capacity (wireStates bytes) = .ok bytes
  /-- Six ones at the end of the data are followed by a stuffed zero too. -/
  stuffedEnd : ∀ front, dataBits bytes = front ++ List.replicate 6 true → openRun 6 0 front = 0 →
    wireBits bytes = stuff 6 0 front ++ List.replicate 6 true ++ [false]

section Packet

variable {bytes : List UInt8} {feed : Feed (bytes.map txWord)} {go : Nat} {machine : Machine}

theorem stuffedEnd_wireBits (front : List Bool)
    (ends : dataBits bytes = front ++ List.replicate 6 true) (run : openRun 6 0 front = 0) :
    wireBits bytes = stuff 6 0 front ++ List.replicate 6 true ++ [false] := by
  rw [wireBits, ends, stuff_append, run, stuff_ones (by decide) (by decide), List.append_assoc]

/-- A packet at full speed. -/
theorem transmitted_full (parked : Parked machine)
    (fedInTime : FedInTime (txConfig .full) feed go machine) :
    Transmitted .full bytes feed go machine := by
  obtain ⟨loaded, clear⟩ := sender_loaded feed go parked
  rw [flatMap_wordBits] at loaded
  obtain ⟨sent, ended⟩ :
      trace (txConfig .full) (4 * (wireBits bytes).length + 21) (sender feed go machine) =
          List.replicate 3 released ++ packetLines (wireStates bytes) ++ List.replicate 2 released ∧
        Parked (run (txConfig .full) (4 * (wireBits bytes).length + 21) (sender feed go machine)) :=
    sendPacket_spec loaded clear
  refine ⟨fun later => ?_, ?_, fun capacity => decodeNrzi_wireStates, stuffedEnd_wireBits⟩
  · rw [drivenLinesOver_full parked fedInTime, trace_add, sent, ended.quiet later]
    unfold pinOrder
    simp only [List.map_id, List.replicate_add, List.append_assoc]
  · have final := driven_sender fedInTime (4 * (wireBits bytes).length + 20)
    rw [final] at ended
    exact ended.of_push

theorem Parked.swap (parked : Parked machine) : Parked machine.swap :=
  ⟨⟨parked.loaded.pc, parked.loaded.delay, parked.loaded.waiting, by
    show machine.dirs.swap = _
    rw [parked.loaded.dirs]
    rfl, parked.loaded.pending⟩, parked.raised⟩

/-- The low-speed transmitter runs as the full-speed one with the pins exchanged. -/
theorem driven_low (time : Nat) : driven (txConfig .low) feed go machine.swap time =
    (driven (txConfig .full) feed go machine time).swap := by
  rw [txConfig_low, driven_swap]

/-- A packet at low speed. -/
theorem transmitted_low (parked : Parked machine)
    (fedInTime : FedInTime (txConfig .low) feed go machine) :
    Transmitted .low bytes feed go machine := by
  have exchanged : ∀ time, driven (txConfig .low) feed go machine time =
      (driven (txConfig .full) feed go machine.swap time).swap := @driven_low _ _ _ machine.swap
  have fedFull : FedInTime (txConfig .full) feed go machine.swap := fun time late empty =>
    fedInTime time late (by rw [exchanged]; exact empty)
  have full := transmitted_full parked.swap fedFull
  refine ⟨fun later => ?_, ?_, full.decoded, full.stuffedEnd⟩
  · have lines := full.lines later
    unfold drivenLinesOver pinOrder at lines ⊢
    rw [List.map_id] at lines
    rw [← lines, List.map_map]
    refine congrArg (List.map · _) (funext fun time => ?_)
    rw [exchanged]
    rfl
  · rw [exchanged]
    exact full.parked.swap

/-- A fed transmitter sends its packet, at either speed. -/
theorem transmitted {speed : Speed} (parked : Parked machine)
    (fedInTime : FedInTime (txConfig speed) feed go machine) :
    Transmitted speed bytes feed go machine := by
  cases speed with
  | full => exact transmitted_full parked fedInTime
  | low => exact transmitted_low parked fedInTime

/-- **The transmitter's contract.** From the parked state, for any packet and any schedule of pushes
that keeps the FIFO from running empty early, either program image puts the packet's wire states on
the lines at four cycles a bit, between an idle J and the end of packet, and releases the lines; and
the low-speed lines are the full-speed lines with D+ and D- exchanged. -/
theorem transmitPacket_spec (machine : Machine) (parked : Parked machine) (bytes : List UInt8)
    (feed : Feed (bytes.map txWord)) (go : Nat) :
    (∀ speed, FedInTime (txConfig speed) feed go machine →
      Transmitted speed bytes feed go machine) ∧
    ∀ time, (driven (txConfig .low) feed go machine.swap time).lines =
      (driven (txConfig .full) feed go machine time).lines.swap := by
  refine ⟨fun speed fedInTime => ?_, fun time => ?_⟩
  · cases speed with
    | full => exact transmitted_full parked fedInTime
    | low => exact transmitted_low parked fedInTime
  · rw [driven_low, lines_swap]

/-- The parked machine after a discarded ACK, with nothing in its OSR. -/
def parkedMachine : Machine where
  pc := 8
  x := 0
  y := onesLeft 0
  osr := 0
  osrCount := 32
  delay := 0
  waiting := true
  irqs := fun index => index == 0
  pins := dpHigh
  dirs := Pins.neither
  fifo := []

/-- Both bytes of an ACK are pushed before the flag is cleared. -/
def ackFeed : Feed ([sync, pidAck].map txWord) where
  pushed time := if time = 0 then [sync, pidAck].map txWord else []
  remaining time := if time = 0 then [sync, pidAck].map txWord else []
  all := rfl
  split time := by
    rw [if_neg (Nat.succ_ne_zero time), List.append_nil]

/-- An ACK at full speed. -/
theorem transmitPacket_ack : Transmitted .full [sync, pidAck] ackFeed 3 parkedMachine :=
  (transmitPacket_spec parkedMachine ⟨⟨rfl, rfl, rfl, rfl, rfl⟩, rfl⟩ [sync, pidAck] ackFeed 3).1
    .full fun time _ _ => by
      show (if time + 1 = 0 then [sync, pidAck].map txWord else []) = []
      exact if_neg (Nat.succ_ne_zero time)

end Packet

end PioUsbHost.Pio
