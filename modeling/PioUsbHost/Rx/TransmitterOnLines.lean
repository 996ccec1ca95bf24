/-
**The receive path's transmitter is the transmit program.**

`receiveDataPacket` works on a transmitter that sends everything queued when IRQ0 is cleared. That
transmitter is the state machine with the CPU's time left out: whatever cycles pass between its
operations, the packets it has released are those on the lines.

* `Act`: what the receive path does to the transmitter, on either level.
* `Tracks`: the simulation relation, between two operations.
* `Carries`: lines that are some packets, whole and in order, with released lines between them.
* `act_spec`, `acts_spec`: one operation, and any sequence of them.
* `receiveActs`: the operations of the receive path, branch by branch.
* `receiveDataPacket_acts`, `receiveDataPacket_onLines`: the receive path.
-/

import PioUsbHost.Pio.PacketFlags
import PioUsbHost.Pio.Recovery
import PioUsbHost.Rx.AckDiscipline

namespace PioUsbHost.Rx

open PioUsbHost.Lib PioUsbHost.Lib.PioMachine PioUsbHost.Pio PioUsbHost.Usb

/-! ### The operations, on both levels -/

/-- What the receive path does to the transmitter. -/
inductive Act where
  | push (byte : UInt8)
  | release
  | discard
  deriving DecidableEq

/-- On the transmitter of the receive path. -/
def Act.on : Act → Transmitter → Transmitter
  | .push byte, tx => tx.push byte
  | .release, tx => tx.clearIrq0
  | .discard, tx => discardPreloadedAck tx

/-- On the state machine; a release clears IRQ1 too. -/
def Act.onMachine (speed : Speed) : Act → Machine → Machine
  | .push byte, machine => machine.push [txWord byte]
  | .release, machine => (machine.clearIrq 0).clearIrq 1
  | .discard, machine => Pio.discardPreloadedAck speed machine

/-- The operations in order, each with the cycles that pass until the next. -/
abbrev TimedActs := List (Act × Nat)

/-- The transmitter after operations in order. -/
def afterActs (acts : List Act) (tx : Transmitter) : Transmitter :=
  acts.foldl (fun tx act => act.on tx) tx

/-- The machine after one operation and its cycles. -/
def stepMachine (speed : Speed) (machine : Machine) (timed : Act × Nat) : Machine :=
  run (txConfig speed) timed.2 (timed.1.onMachine speed machine)

/-- The lines over one operation's cycles. -/
def stepLines (speed : Speed) (machine : Machine) (timed : Act × Nat) : List Lines :=
  trace (txConfig speed) timed.2 (timed.1.onMachine speed machine)

/-- The machine after operations, each with its cycles. -/
def machineAfter (speed : Speed) (timed : TimedActs) (machine : Machine) : Machine :=
  timed.foldl (stepMachine speed) machine

/-- The lines over all of the operations' cycles. -/
def linesDuring (speed : Speed) : TimedActs → Machine → List Lines
  | [], _ => []
  | timed :: rest, machine =>
    stepLines speed machine timed ++ linesDuring speed rest (stepMachine speed machine timed)

/-- **The CPU waits** until IRQ0 is raised again before it goes on after a release. -/
def Awaited (speed : Speed) : TimedActs → Machine → Prop
  | [], _ => True
  | timed :: rest, machine =>
    (timed.1 = .release → (stepMachine speed machine timed).irqs 0 = true) ∧
      Awaited speed rest (stepMachine speed machine timed)

/-! ### The relation -/

/-- Between two operations the machine is parked with what the transmitter has queued. -/
structure Tracks (tx : Transmitter) (machine : Machine) : Prop where
  autopull : tx.autopull = true
  loaded : Loaded (dataBits tx.queued) machine
  raised : machine.irqs 0 = true

/-- Lines that carry packets, each whole and in order, and are released before and after each. -/
inductive Carries : List Lines → List (List UInt8) → Prop where
  | nil : Carries [] []
  | idle {lines : List Lines} {packets : List (List UInt8)} (rest : Carries lines packets) :
      Carries (released :: lines) packets
  | packet (bytes : List UInt8) {lines : List Lines} {packets : List (List UInt8)}
      (rest : Carries lines packets) :
      Carries (packetLines (wireStates bytes) ++ released :: lines) (bytes :: packets)

section Carrying

variable {first second : List Lines} {sent more : List (List UInt8)}

theorem Carries.append (one : Carries first sent) (two : Carries second more) :
    Carries (first ++ second) (sent ++ more) := by
  induction one with
  | nil => exact two
  | idle rest ih => exact ih.idle
  | packet bytes rest ih =>
    rw [List.append_assoc, List.cons_append]
    exact ih.packet bytes

theorem carries_released (cycles : Nat) : Carries (List.replicate cycles released) [] := by
  induction cycles with
  | zero => exact .nil
  | succ cycles ih => exact ih.idle

/-- A packet with released lines around it. -/
theorem carries_packet (before : Nat) (bytes : List UInt8) (after : Nat) :
    Carries (List.replicate before released ++ packetLines (wireStates bytes) ++
      List.replicate (after + 1) released) [bytes] := by
  rw [List.append_assoc, List.replicate_succ]
  exact (carries_released before).append ((carries_released after).packet bytes)

end Carrying

/-! ### One operation -/

section Acts

variable {tx : Transmitter} {machine : Machine}

theorem tracks_wait {bits : List Bool} (loaded : Loaded bits machine)
    (raised : machine.irqs 0 = true) (cycles : Nat) :
    trace (txConfig .full) cycles machine = List.replicate cycles released ∧
      Loaded bits (run (txConfig .full) cycles machine) ∧
      (run (txConfig .full) cycles machine).irqs 0 = true := by
  induction cycles generalizing machine with
  | zero => exact ⟨rfl, loaded, raised⟩
  | succ cycles ih =>
    obtain ⟨later, still⟩ := loaded.wait raised
    obtain ⟨quiet, kept⟩ := ih later still
    rw [trace, quiet, lines_released later.dirs, List.replicate_succ]
    exact ⟨rfl, kept⟩

theorem discardPreloadedAck_eq (tx : Transmitter) :
    discardPreloadedAck tx = { tx with osr := none, fifo := [], autopull := true } := by
  obtain ⟨osr, fifo, autopull, pushed, sent⟩ := tx
  cases osr <;> rfl

/-- **One operation at full speed.** -/
theorem act_full (tracks : Tracks tx machine) (act : Act) (cycles : Nat)
    (awaited : act = .release → (stepMachine .full machine (act, cycles)).irqs 0 = true) :
    Tracks (act.on tx) (stepMachine .full machine (act, cycles)) ∧
      ∃ packets, (act.on tx).released = tx.released ++ packets ∧
        Carries (stepLines .full machine (act, cycles)) packets := by
  unfold stepMachine at awaited ⊢
  unfold stepLines
  cases act with
  | push byte =>
    obtain ⟨autopull, queued, -, released⟩ := Transmitter.pushAll_spec tracks.autopull [byte]
    have loaded := tracks.loaded.push [txWord byte]
    rw [show [txWord byte].flatMap wordBits = dataBits [byte] from flatMap_wordBits [byte],
      show dataBits tx.queued ++ dataBits [byte] = dataBits (tx.queued ++ [byte]) from
        List.flatMap_append.symm, ← queued] at loaded
    obtain ⟨quiet, kept, raised⟩ := tracks_wait loaded tracks.raised cycles
    exact ⟨⟨autopull, kept, raised⟩, [], by rw [List.append_nil]; exact released, by
      rw [show Act.onMachine .full (.push byte) machine = machine.push [txWord byte] from rfl, quiet]
      exact carries_released cycles⟩
  | discard =>
    have parked := discardPreloadedAck_spec .full tracks.loaded tracks.raised
    obtain ⟨quiet, kept, raised⟩ := tracks_wait parked.loaded parked.raised cycles
    rw [show Act.on .discard tx = discardPreloadedAck tx from rfl, discardPreloadedAck_eq]
    exact ⟨⟨rfl, kept, raised⟩, [], by rw [List.append_nil], by
      rw [show Act.onMachine .full .discard machine = Pio.discardPreloadedAck .full machine from rfl,
        quiet]
      exact carries_released cycles⟩
  | release =>
    have loaded : Loaded (dataBits tx.queued) ((machine.clearIrq 0).clearIrq 1) :=
      ⟨tracks.loaded.pc, tracks.loaded.delay, tracks.loaded.waiting, tracks.loaded.dirs,
        tracks.loaded.pending⟩
    have clear : ((machine.clearIrq 0).clearIrq 1).irqs 0 = false := by
      show Function.update (Function.update machine.irqs 0 false) 1 false 0 = false
      rw [Function.update_of_ne Nat.zero_ne_one, Function.update_self]
    obtain ⟨late, parked⟩ := packet_done loaded clear (awaited rfl)
    obtain ⟨after, rfl⟩ := Nat.exists_eq_add_of_le late
    refine ⟨⟨tracks.autopull, parked.loaded, parked.raised⟩, [tx.queued], rfl, ?_⟩
    have sent := packet_trace loaded clear (after + 1)
    rw [show 4 * (LineCode.stuff 6 0 (dataBits tx.queued)).length + 19 + (after + 1) =
      4 * (LineCode.stuff 6 0 (dataBits tx.queued)).length + 20 + after by omega] at sent
    rw [show Act.onMachine .full .release machine = (machine.clearIrq 0).clearIrq 1 from rfl, sent]
    exact carries_packet 3 tx.queued after

theorem Tracks.swap (tracks : Tracks tx machine) : Tracks tx machine.swap :=
  ⟨tracks.autopull, ⟨tracks.loaded.pc, tracks.loaded.delay, tracks.loaded.waiting, by
    show machine.dirs.swap = _
    rw [tracks.loaded.dirs]
    rfl, tracks.loaded.pending⟩, tracks.raised⟩

/-- The low-speed transmitter runs as the full-speed one with the pins exchanged. -/
theorem onMachine_low (act : Act) (machine : Machine) :
    act.onMachine .low machine = (act.onMachine .full machine.swap).swap := by
  cases act with
  | push byte => rfl
  | release => rfl
  | discard =>
    show Pio.discardPreloadedAck .low machine = (Pio.discardPreloadedAck .full machine.swap).swap
    unfold Pio.discardPreloadedAck
    rw [execInstr_discardOsr, execInstr_discardOsr, refill_topped (Or.inr rfl),
      refill_topped (Or.inr rfl)]
    rfl

/-- **One operation**, at either speed. -/
theorem act_spec (speed : Speed) (tracks : Tracks tx machine) (timed : Act × Nat)
    (awaited : timed.1 = .release → (stepMachine speed machine timed).irqs 0 = true) :
    Tracks (timed.1.on tx) (stepMachine speed machine timed) ∧
      ∃ packets lines, (timed.1.on tx).released = tx.released ++ packets ∧
        stepLines speed machine timed = lines.map (pinOrder speed) ∧ Carries lines packets := by
  obtain ⟨act, cycles⟩ := timed
  cases speed with
  | full =>
    obtain ⟨kept, packets, sent, carries⟩ := act_full tracks act cycles awaited
    exact ⟨kept, packets, _, sent, (List.map_id _).symm, carries⟩
  | low =>
    have exchanged : stepMachine .low machine (act, cycles) =
        (stepMachine .full machine.swap (act, cycles)).swap := by
      unfold stepMachine
      rw [txConfig_low, onMachine_low, run_swap]
    rw [exchanged] at awaited ⊢
    obtain ⟨kept, packets, sent, carries⟩ := act_full tracks.swap act cycles awaited
    refine ⟨kept.swap, packets, _, sent, ?_, carries⟩
    unfold stepLines
    rw [txConfig_low, onMachine_low, trace_swap]
    rfl

/-- **Any sequence of operations**: the machine keeps up with the transmitter, and the lines carry what
it has released. -/
theorem acts_spec (speed : Speed) (tracks : Tracks tx machine) (timed : TimedActs)
    (awaited : Awaited speed timed machine) :
    Tracks (afterActs (timed.map Prod.fst) tx) (machineAfter speed timed machine) ∧
      ∃ packets lines, (afterActs (timed.map Prod.fst) tx).released = tx.released ++ packets ∧
        linesDuring speed timed machine = lines.map (pinOrder speed) ∧ Carries lines packets := by
  induction timed generalizing tx machine with
  | nil => exact ⟨tracks, [], [], (List.append_nil _).symm, rfl, .nil⟩
  | cons first rest ih =>
    obtain ⟨waits, later⟩ := awaited
    obtain ⟨kept, packets, lines, sent, same, carries⟩ := act_spec speed tracks first waits
    obtain ⟨final, more, others, next, also, carry⟩ := ih kept later
    refine ⟨final, packets ++ more, lines ++ others, ?_, ?_, carries.append carry⟩
    · rw [← List.append_assoc, ← sent]
      exact next
    · rw [linesDuring, same, also, List.map_append]

end Acts

/-! ### The receive path -/

section ReceivePath

variable {tx : Transmitter}

/-- What `preloadAck` does to the transmitter. -/
def preloadAckActs (params : InParams) (loop : InLoop) : List Act :=
  if params.acknowledge && !loop.ackPreloaded && dataHeader loop.drain.headerFlags then
    [.push sync, .push pidAck]
  else []

/-- What `discardIfPreloaded` does. -/
def discardActs (loop : InLoop) : List Act := if loop.ackPreloaded then [.discard] else []

/-- What `releaseAtEop` does. -/
def releaseActs (params : InParams) (loop : InLoop) : List Act :=
  if shortcutArmed params loop && !loop.ackReleased then [.release] else []

/-- What the loop body does after its FIFO drain. -/
def passAfterDrainActs (params : InParams) (poll : RxPoll) (drained : InLoop) : List Act :=
  let loop := { preloadAck params drained with
    sawStart := drained.sawStart || decide (drained.drain.len ≠ 0) || poll.start }
  preloadAckActs params drained ++
    if poll.error then
      discardActs loop
    else if poll.eop then
      let terminal := terminalDrain params loop poll.terminal
      preloadAckActs params terminal ++ releaseActs params (preloadAck params terminal)
    else []

/-- What the loop body does. -/
def passActs (params : InParams) (poll : RxPoll) (loop : InLoop) : List Act :=
  if shortcutArmed params loop && poll.entryError then
    [.discard]
  else if shortcutArmed params loop && poll.entryEop then
    [.release]
  else
    passAfterDrainActs params poll
      { loop with drain := drainInFifo params loop.drain poll.drained }

/-- What the polling loop does. -/
def loopActs (params : InParams) (polls : Nat → RxPoll) : (budget index : Nat) → InLoop → List Act
  | budget, index, loop => passActs params (polls index) loop ++
    match pass params (polls index) loop with
    | .returned _ _ | .broke _ => []
    | .again next =>
      match budget with
      | 0 => discardActs next
      | budget + 1 => loopActs params polls budget (index + 1) next

/-- What is done after the `break`. -/
def finishActs (params : InParams) (loop : InLoop) : List Act :=
  if !loop.drain.ackable then
    if loop.ackPreloaded && !loop.ackReleased then [.discard] else []
  else if params.acknowledge && !loop.ackReleased then [.release] else []

/-- **What `receive_data_packet` does to the transmitter**, operation by operation. -/
def receiveActs (tx : Transmitter) (irqs : TxIrqs) (polls : Nat → RxPoll) (budget : Nat)
    (token payload : List UInt8) (raw : RawBuffer) (maxPayloadLen : Nat) (expectedPid : UInt8)
    (ackEopGuardCycles : UInt32) (acknowledge : Bool) : List Act :=
  let params : InParams :=
    { payloadLen := payload.length, maxPayloadLen, expectedPid, ackEopGuardCycles, acknowledge }
  let started := initialLoop raw (tx.pushAll token).clearIrq0
  token.map .push ++ [.release] ++
    if !(irqs.tokenEop && irqs.tokenDone) then []
    else
      loopActs params polls budget 0 started ++
        match receiveLoop params polls budget 0 started with
        | .returned _ _ => []
        | .broke loop => finishActs params loop

theorem afterActs_append (acts more : List Act) :
    afterActs (acts ++ more) tx = afterActs more (afterActs acts tx) := List.foldl_append

theorem afterActs_push (bytes : List UInt8) : afterActs (bytes.map .push) tx = tx.pushAll bytes :=
  List.foldl_map

theorem tx_preloadAck (params : InParams) (loop : InLoop) :
    (preloadAck params loop).tx = afterActs (preloadAckActs params loop) loop.tx := by
  unfold preloadAck preloadAckActs
  split <;> rfl

theorem tx_discardIfPreloaded (loop : InLoop) :
    (discardIfPreloaded loop).tx = afterActs (discardActs loop) loop.tx := by
  unfold discardIfPreloaded discardActs
  split <;> rfl

theorem tx_releaseAtEop (params : InParams) (loop : InLoop) :
    (releaseAtEop params loop).tx = afterActs (releaseActs params loop) loop.tx := by
  unfold releaseAtEop releaseActs
  split <;> rfl

theorem tx_terminalDrain (params : InParams) (loop : InLoop) (bytes : List UInt8) :
    (terminalDrain params loop bytes).tx = loop.tx := by
  unfold terminalDrain
  split
  · rfl
  · split <;> rfl

/-- The transmitter that a pass leaves. -/
def Pass.left : Pass → Transmitter
  | .again loop => loop.tx
  | .returned _ loop => loop.tx
  | .broke loop => loop.tx

/-- The transmitter that the loop leaves. -/
def LoopExit.left : LoopExit → Transmitter
  | .returned _ loop => loop.tx
  | .broke loop => loop.tx

/-- **One pass of the loop.** -/
theorem left_pass (params : InParams) (poll : RxPoll) (loop : InLoop) :
    (pass params poll loop).left = afterActs (passActs params poll loop) loop.tx := by
  unfold pass passActs
  split
  · rfl
  split
  · rfl
  unfold passAfterDrain passAfterDrainActs
  simp only
  rw [afterActs_append]
  split
  · show (discardIfPreloaded _).tx = _
    rw [tx_discardIfPreloaded, ← tx_preloadAck]
  split
  · show (releaseAtEop params _).tx = _
    rw [tx_releaseAtEop, tx_preloadAck params (terminalDrain _ _ _), tx_terminalDrain,
      afterActs_append, ← tx_preloadAck params { loop with drain := _ }]
  · exact tx_preloadAck params _

/-- **The whole loop**, by induction on its budget. -/
theorem left_receiveLoop (params : InParams) (polls : Nat → RxPoll) (budget index : Nat)
    (loop : InLoop) : (receiveLoop params polls budget index loop).left =
      afterActs (loopActs params polls budget index loop) loop.tx := by
  induction budget generalizing index loop with
  | zero =>
    have step := left_pass params (polls index) loop
    unfold receiveLoop loopActs
    rw [afterActs_append, ← step]
    cases pass params (polls index) loop with
    | returned result final => rfl
    | broke final => rfl
    | again next => exact tx_discardIfPreloaded next
  | succ budget ih =>
    have step := left_pass params (polls index) loop
    unfold receiveLoop loopActs
    rw [afterActs_append, ← step]
    cases pass params (polls index) loop with
    | returned result final => rfl
    | broke final => rfl
    | again next => exact ih (index + 1) next

theorem tx_finishReceive (params : InParams) (irqs : TxIrqs) (payload : List UInt8)
    (loop : InLoop) :
    (finishReceive params irqs payload loop).tx = afterActs (finishActs params loop) loop.tx := by
  unfold finishReceive finishActs
  simp only
  split
  · simp only
    split <;> rfl
  · have released : (if params.acknowledge && !loop.ackReleased then loop.tx.clearIrq0
        else loop.tx) = afterActs (if params.acknowledge && !loop.ackReleased then [.release]
          else []) loop.tx := by
      split <;> rfl
    split
    · exact released
    · split <;> exact released

/-- **The receive path** reaches its transmitter by its operations alone. -/
theorem receiveDataPacket_acts (tx : Transmitter) (irqs : TxIrqs) (polls : Nat → RxPoll)
    (budget : Nat) (token payload : List UInt8) (raw : RawBuffer) (maxPayloadLen : Nat)
    (expectedPid : UInt8) (ackEopGuardCycles : UInt32) (acknowledge : Bool) :
    (receiveDataPacket tx irqs polls budget token payload raw maxPayloadLen expectedPid
      ackEopGuardCycles acknowledge).tx =
      afterActs (receiveActs tx irqs polls budget token payload raw maxPayloadLen expectedPid
        ackEopGuardCycles acknowledge) tx := by
  have sent : afterActs (token.map .push ++ [.release]) tx = (tx.pushAll token).clearIrq0 := by
    rw [afterActs_append, afterActs_push]
    rfl
  unfold receiveDataPacket receiveActs
  simp only
  rw [afterActs_append, sent]
  split
  · rfl
  · have looped := left_receiveLoop
      ⟨payload.length, maxPayloadLen, expectedPid, ackEopGuardCycles, acknowledge⟩ polls budget 0
      (initialLoop raw (tx.pushAll token).clearIrq0)
    rw [afterActs_append]
    generalize receiveLoop _ polls budget 0 _ = exit at looped ⊢
    cases exit with
    | returned result loop => exact looped
    | broke loop => exact (tx_finishReceive _ irqs payload loop).trans (congrArg (afterActs _) looped)

/-- **The receive path on the lines.** From a parked machine, whatever the receiver is read to hold: the
routine works on the transmitter by its operations in their order, and with any cycles between them, as
long as the CPU waits for each release, the state machine ends as the transmitter does, and the lines
carry the packets that the transmitter has released, each whole, in their order, and nothing else. -/
theorem receiveDataPacket_onLines (speed : Speed) (tx : Transmitter) (machine : Machine)
    (tracks : Tracks tx machine) (irqs : TxIrqs) (polls : Nat → RxPoll) (budget : Nat)
    (token payload : List UInt8) (raw : RawBuffer) (maxPayloadLen : Nat) (expectedPid : UInt8)
    (ackEopGuardCycles : UInt32) (acknowledge : Bool) :
    let left := (receiveDataPacket tx irqs polls budget token payload raw maxPayloadLen expectedPid
      ackEopGuardCycles acknowledge).tx
    let acts := receiveActs tx irqs polls budget token payload raw maxPayloadLen expectedPid
      ackEopGuardCycles acknowledge
    left = afterActs acts tx ∧
      ∀ timed : TimedActs, timed.map Prod.fst = acts → Awaited speed timed machine →
        Tracks left (machineAfter speed timed machine) ∧
          ∃ packets lines, left.released = tx.released ++ packets ∧
            linesDuring speed timed machine = lines.map (pinOrder speed) ∧ Carries lines packets := by
  intro left acts
  have same : left = afterActs acts tx := receiveDataPacket_acts tx irqs polls budget token payload
    raw maxPayloadLen expectedPid ackEopGuardCycles acknowledge
  refine ⟨same, fun timed order awaited => ?_⟩
  rw [same, ← order]
  exact acts_spec speed tracks timed awaited

/-- The operations on the way of a packet that arrives whole. -/
def wholePacketActs : List Act :=
  (tokenPacket pidIn 1 1).map .push ++ [.release, .push sync, .push pidAck, .release]

/-- An IN token and, after a DATA0 packet, an ACK. -/
theorem receiveDataPacket_onLines_twoBytes :
    receiveActs Transmitter.fresh TxIrqs.prompt (fun _ => wholePacketPoll) rxPacketPollBudget
        (tokenPacket pidIn 1 1) (List.replicate 64 0) (Vector.replicate maxDecodedBytes 0) 64 pidData0 0
        true = wholePacketActs ∧
      ∀ timed : TimedActs, timed.map Prod.fst = wholePacketActs → Awaited .full timed parkedMachine →
        ∃ lines, linesDuring .full timed parkedMachine = lines.map (pinOrder .full) ∧
          Carries lines [tokenPacket pidIn 1 1, [sync, pidAck]] := by
  have acts : receiveActs Transmitter.fresh TxIrqs.prompt (fun _ => wholePacketPoll)
      rxPacketPollBudget (tokenPacket pidIn 1 1) (List.replicate 64 0)
      (Vector.replicate maxDecodedBytes 0) 64 pidData0 0 true = wholePacketActs := by decide +kernel
  refine ⟨acts, fun timed order awaited => ?_⟩
  have onLines := (receiveDataPacket_onLines .full Transmitter.fresh parkedMachine
    ⟨rfl, ⟨rfl, rfl, rfl, rfl, rfl⟩, rfl⟩ TxIrqs.prompt (fun _ => wholePacketPoll) rxPacketPollBudget
    (tokenPacket pidIn 1 1) (List.replicate 64 0) (Vector.replicate maxDecodedBytes 0) 64 pidData0 0
    true).2 timed
  have left : (receiveDataPacket Transmitter.fresh TxIrqs.prompt (fun _ => wholePacketPoll)
      rxPacketPollBudget (tokenPacket pidIn 1 1) (List.replicate 64 0)
      (Vector.replicate maxDecodedBytes 0) 64 pidData0 0 true).tx.released =
        [tokenPacket pidIn 1 1, [sync, pidAck]] := by decide +kernel
  obtain ⟨-, packets, lines, sent, same, carries⟩ := onLines (order.trans acts.symm) awaited
  rw [left] at sent
  exact ⟨lines, same, sent ▸ carries⟩

end ReceivePath

end PioUsbHost.Rx
