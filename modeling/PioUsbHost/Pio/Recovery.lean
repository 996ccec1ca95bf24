/-
**The transmitter recovers from any state.**

`recover_tx_state` stops the transmitter, empties it, restarts it at the head of its program and lets it
run: with nothing to send it drives an end of packet and parks. Nothing of a failed packet is left, in
the FIFO or in the OSR, whatever the machine was doing.

* `execInstr`: an instruction that the CPU writes to a stopped machine.
* `recoverTxState_eq`: the machine that recovery starts.
* `recoverTxState_spec`: recovery from any state, and the next packet.
* `discardPreloadedAck_spec`, `keepAlive_spec`: the two other calls that empty the FIFO.
-/

import PioUsbHost.Lib.PioAccess
import PioUsbHost.Pio.TransmitPacket

namespace PioUsbHost.Pio

open PioUsbHost.Lib.PioMachine PioUsbHost.Usb

/-! ### The CPU at the registers of the machine -/

/-- `SM_RESTART`: the delay, the stall and the output shift counter are cleared, the OSR is not. -/
def restart (machine : Machine) : Machine :=
  { machine with delay := 0, waiting := false, osrCount := 0 }

/-- `exec_instr`, for the two kinds of instruction that the driver writes: an `out`, with autopull off,
which neither stalls nor refills and leaves the program where it is, and a jump. -/
def execInstr (word : UInt16) (machine : Machine) : Machine :=
  match decode word with
  | some { op := .out dest count, side, .. } => (machine.sideSet side).output dest count
  | some { op := .jmp .always target, side, delay } =>
    { machine.sideSet side with pc := target, delay }
  | _ => machine

/-- `TX_DISCARD_OSR_INSTRUCTION`: `out null, 32`. -/
def txDiscardOsrInstruction : UInt16 := 0x6060

/-- `jmp 0`, with the idle levels on the side. -/
def txIdleInstruction : Speed → UInt16
  | .full => 0x1400
  | .low => 0x1800

/-- The levels of an idle bus. -/
def idlePins : Speed → Pins
  | .full => dpHigh
  | .low => dmHigh

/-- **`recover_tx_state`**, but for the phase of the divider. -/
def recoverTxState (speed : Speed) (machine : Machine) : Machine :=
  let machine := ({ machine with fifo := [] }.clearIrq 0).clearIrq 1
  let machine := { machine with pins := idlePins speed, dirs := Pins.neither }
  let machine := execInstr txDiscardOsrInstruction (restart machine)
  execInstr (txIdleInstruction speed) (machine.refill (txConfig speed))

/-- `discard_preloaded_ack`. -/
def discardPreloadedAck (speed : Speed) (machine : Machine) : Machine :=
  (execInstr txDiscardOsrInstruction { machine with fifo := [] }).refill (txConfig speed)

/-- `transmit_low_speed_keep_alive`, but for the time it waits. -/
def keepAlive (machine : Machine) : Machine := ({ machine with fifo := [] }.clearIrq 0).clearIrq 1

theorem execInstr_discardOsr (machine : Machine) : execInstr txDiscardOsrInstruction machine =
    { machine with osr := machine.osr >>> 32, osrCount := min 32 (machine.osrCount + 32) } := by
  have decoded : decode txDiscardOsrInstruction =
      some { op := .out .null 32, side := none, delay := 0 } := by decide
  unfold execInstr
  rw [decoded]
  rfl

theorem execInstr_idle (speed : Speed) (machine : Machine) :
    execInstr (txIdleInstruction speed) machine =
      { machine with pc := 0, delay := 0, pins := idlePins speed } := by
  have decoded : decode (txIdleInstruction speed) =
      some { op := .jmp .always 0, side := some (idlePins speed), delay := 0 } := by
    cases speed <;> decide
  unfold execInstr
  rw [decoded]
  rfl

/-! ### From the head of the program -/

/-- **The head of the program**: one cycle later the idle J is driven. -/
theorem fromStart_spec {bits : List Bool} {machine : Machine} (pc : machine.pc = 0)
    (idle : machine.delay = 0) (awake : machine.waiting = false) (dirs : machine.dirs = Pins.neither)
    (topped : Topped (txConfig .full) machine)
    (pending : pendingBits machine.osr machine.osrCount machine.fifo = bits) :
    trace (txConfig .full) 2 machine = [released, levelLines .J] ∧
      Sending .J 0 bits (run (txConfig .full) 2 machine) := by
  obtain ⟨_, x, y, osr, osrCount, _, _, irqs, pins, _, fifo⟩ := machine
  simp only at pc idle awake dirs pending
  subst pc idle awake dirs
  have counted : cycle (txConfig .full) ⟨0, x, y, osr, osrCount, 0, false, irqs, pins, Pins.neither,
      fifo⟩ = ⟨1, x, onesLeft 0, osr, osrCount, 0, false, irqs, dpHigh, Pins.neither, fifo⟩ :=
    @cycle_setY _ _ 0 (some dpHigh) 5 rfl (program_at rfl) topped
  have driven : cycle (txConfig .full) ⟨1, x, onesLeft 0, osr, osrCount, 0, false, irqs, dpHigh,
      Pins.neither, fifo⟩ =
      ⟨2, x, onesLeft 0, osr, osrCount, 0, false, irqs, dpHigh, Pins.both, fifo⟩ :=
    @cycle_setPindirs _ _ 0 none Pins.both rfl (program_at rfl) topped
  rw [trace_add _ 1 1, run_add _ 1 1, trace_one, run_one, counted, trace_one, run_one, driven]
  exact ⟨rfl, ⟨rfl, rfl, rfl, rfl, rfl, topped, pending⟩, rfl⟩

/-- A parked machine stays parked. -/
theorem Parked.rest {machine : Machine} (parked : Parked machine) (cycles : Nat) :
    Parked (run (txConfig .full) cycles machine) := by
  induction cycles generalizing machine with
  | zero => exact parked
  | succ cycles ih =>
    obtain ⟨loaded, raised⟩ := parked.loaded.wait parked.raised
    exact ih ⟨loaded, raised⟩

/-- An end of packet with nothing before it, from the head of the program. -/
theorem emptyPacket_spec {machine : Machine} (sending : Sending .J 0 [] machine) :
    trace (txConfig .full) 17 machine = List.replicate 3 (levelLines .J) ++ (List.replicate 8 se0 ++
        List.replicate 4 (levelLines .J) ++ List.replicate 2 released) ∧
      Parked (run (txConfig .full) 17 machine) := by
  obtain ⟨checked, ending⟩ := checkEmpty_spec sending.here
  obtain ⟨ended, parked⟩ := endOfPacket_spec ending
  rw [trace_add _ 3 14, run_add _ 3 14, checked, ended]
  exact ⟨rfl, parked⟩

/-! ### Recovery -/

section Recovery

variable (speed : Speed) (machine : Machine)

/-- **The machine that recovery starts**: nothing of what was queued is left. -/
theorem recoverTxState_eq : recoverTxState speed machine =
    { machine with
      pc := 0, osr := machine.osr >>> 32, osrCount := 32, delay := 0, waiting := false
      irqs := Function.update (Function.update machine.irqs 0 false) 1 false
      pins := idlePins speed, dirs := Pins.neither, fifo := [] } := by
  unfold recoverTxState
  simp only
  rw [execInstr_discardOsr, refill_topped (Or.inr rfl), execInstr_idle]
  rfl

theorem recoverTxState_swap :
    recoverTxState .low machine.swap = (recoverTxState .full machine).swap := by
  rw [recoverTxState_eq, recoverTxState_eq]
  rfl

/-- The lines of a recovery, and of a keep-alive after its flag is cleared: an end of packet. -/
def endOfPacketLines (before after : Nat) : List Lines :=
  List.replicate before released ++ packetLines [] ++ List.replicate after released

theorem recoverTxState_full (later : Nat) :
    trace (txConfig .full) (19 + later) (recoverTxState .full machine) =
        endOfPacketLines 1 (2 + later) ∧
      Parked (run (txConfig .full) (19 + later) (recoverTxState .full machine)) := by
  rw [recoverTxState_eq]
  obtain ⟨started, sending⟩ := @fromStart_spec [] { machine with
    pc := 0, osr := machine.osr >>> 32, osrCount := 32, delay := 0, waiting := false
    irqs := Function.update (Function.update machine.irqs 0 false) 1 false
    pins := idlePins .full, dirs := Pins.neither, fifo := [] } rfl rfl rfl rfl (Or.inr rfl) rfl
  obtain ⟨sent, parked⟩ := emptyPacket_spec sending
  rw [show 19 + later = 2 + (17 + later) by omega, trace_add _ 2, run_add _ 2, trace_add _ 17,
    run_add _ 17, started, sent, parked.quiet]
  refine ⟨?_, parked.rest later⟩
  unfold endOfPacketLines
  rw [List.replicate_add 2 later, List.append_assoc, List.append_assoc]
  simp only [List.append_assoc]
  rfl

/-- **Recovery**, at either speed: an end of packet, and the parked transmitter. -/
theorem recovered (later : Nat) :
    trace (txConfig speed) (19 + later) (recoverTxState speed machine) =
        (endOfPacketLines 1 (2 + later)).map (pinOrder speed) ∧
      Parked (run (txConfig speed) (19 + later) (recoverTxState speed machine)) := by
  cases speed with
  | full =>
    rw [show pinOrder .full = id from rfl, List.map_id]
    exact recoverTxState_full machine later
  | low =>
    obtain ⟨lines, parked⟩ := recoverTxState_full machine.swap later
    rw [txConfig_low, show machine = machine.swap.swap from rfl, recoverTxState_swap, trace_swap,
      run_swap, lines]
    exact ⟨rfl, parked.swap⟩

end Recovery

/-- **Recovery from any state**: whatever the machine was doing and whatever it still held, it sends an
end of packet and nothing else, parks, and the next packet is sent as from a fresh transmitter. -/
theorem recoverTxState_spec (speed : Speed) (machine : Machine) (later : Nat) {bytes : List UInt8}
    (feed : Feed (bytes.map txWord)) (go : Nat)
    (fedInTime : FedInTime (txConfig speed) feed go
      (run (txConfig speed) (19 + later) (recoverTxState speed machine))) :
    trace (txConfig speed) (19 + later) (recoverTxState speed machine) =
        (endOfPacketLines 1 (2 + later)).map (pinOrder speed) ∧
      Parked (run (txConfig speed) (19 + later) (recoverTxState speed machine)) ∧
      Transmitted speed bytes feed go
        (run (txConfig speed) (19 + later) (recoverTxState speed machine)) := by
  obtain ⟨lines, parked⟩ := recovered speed machine later
  exact ⟨lines, parked, transmitted parked fedInTime⟩

/-- A machine stopped in the middle of a data packet, with the rest of it queued. -/
def stuckMachine : Machine where
  pc := 18
  x := 1
  y := onesLeft 3
  osr := txWord 0xa5
  osrCount := 5
  delay := 0
  waiting := false
  irqs := fun _ => true
  pins := dmHigh
  dirs := Pins.both
  fifo := [txWord 0x5a, txWord 0xc3]

/-- It recovers, and sends an ACK. -/
theorem recoverTxState_spec_stuck :
    Transmitted .low [sync, pidAck] ackFeed 3 (run (txConfig .low) 24 (recoverTxState .low stuckMachine)) :=
  (recoverTxState_spec .low stuckMachine 5 ackFeed 3 fun time _ _ => by
    show (if time + 1 = 0 then [sync, pidAck].map txWord else []) = []
    exact if_neg (Nat.succ_ne_zero time)).2.2

/-! ### From the park -/

section Parked

variable {bits : List Bool} {machine : Machine}

/-- **Discarding what is queued** leaves the machine parked with nothing to send. -/
theorem discardPreloadedAck_spec (speed : Speed) (loaded : Loaded bits machine)
    (raised : machine.irqs 0 = true) : Parked (discardPreloadedAck speed machine) := by
  unfold discardPreloadedAck
  rw [execInstr_discardOsr, refill_topped (Or.inr rfl)]
  have none : 8 - min 32 (machine.osrCount + 32) = 0 := by omega
  refine ⟨⟨loaded.pc, loaded.delay, loaded.waiting, loaded.dirs, ?_⟩, raised⟩
  show pendingBits _ (min 32 (machine.osrCount + 32)) [] = []
  unfold pendingBits
  rw [none]
  rfl

/-- **The keep-alive of a low-speed bus** is an end of packet and nothing else. -/
theorem keepAlive_spec (parked : Parked machine) (later : Nat) :
    trace (txConfig .low) (21 + later) (keepAlive machine) =
        (endOfPacketLines 3 (2 + later)).map Lines.swap ∧
      Parked (run (txConfig .low) (21 + later) (keepAlive machine)) := by
  have empty := pendingBits_nil parked.loaded.pending
  have loaded : Loaded [] (keepAlive machine.swap) := by
    refine ⟨parked.loaded.pc, parked.loaded.delay, parked.loaded.waiting,
      parked.swap.loaded.dirs, ?_⟩
    show pendingBits machine.osr machine.osrCount [] = []
    unfold pendingBits
    rw [show 8 - machine.osrCount = 0 by omega]
    rfl
  have clear : (keepAlive machine.swap).irqs 0 = false := by
    show Function.update (Function.update machine.irqs 0 false) 1 false 0 = false
    rw [Function.update_of_ne Nat.zero_ne_one, Function.update_self]
  obtain ⟨sent, ended⟩ := sendPacket_spec loaded clear
  have sent : trace (txConfig .full) 21 (keepAlive machine.swap) = endOfPacketLines 3 2 := sent
  have ended : Parked (run (txConfig .full) 21 (keepAlive machine.swap)) := ended
  rw [txConfig_low, show keepAlive machine = (keepAlive machine.swap).swap from rfl, trace_swap,
    run_swap, trace_add _ 21, run_add _ 21, sent, ended.quiet]
  refine ⟨?_, (ended.rest later).swap⟩
  unfold endOfPacketLines
  rw [List.append_assoc, List.replicate_append_replicate]

end Parked

end PioUsbHost.Pio
