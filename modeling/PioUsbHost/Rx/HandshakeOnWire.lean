/-
**A handshake, from the bus to the engine.**

The passes of `receiveHandshake` read a run of the receivers (`StartTimes.poll`, `packetPolls`): what
the drains pull is what the run's CPU has pulled. The routine stops the receivers only after the end of
a packet has been flagged, so it finds all the bytes of the packet, wherever its drains fall.

* `endsWith_of_eop`: the drains of a packet put together.
* `receiveHandshake_refines`: the routine returns what the engine's model takes from the bus.
-/

import PioUsbHost.Pio.BitTiming
import PioUsbHost.Rx.Handshake

namespace PioUsbHost.Rx

open PioUsbHost.Usb PioUsbHost.Pio PioUsbHost.Lib.PioMachine
open PioUsbHost.Pipe (ReceiveResult)

/-! ### When the CPU reads -/

/-- The cycles in which a pass of the wait reads. -/
structure StartTimes where
  empty : Nat
  eop : Nat
  error : Nat
  start : Nat
  stopped : Nat
  recorded : Nat

/-- The cycles in which a pass over the packet loop reads; its drain has ended by `drained`. -/
structure PacketTimes where
  drained : Nat
  error : Nat
  eop : Nat
  stopped : Nat
  recorded : Nat

/-- The flags register. -/
def flagsByte (irqs : Nat → Bool) : UInt8 :=
  UInt8.ofNat (((List.range 8).map fun index => if irqs index then 2 ^ index else 0).sum)

section Reading

variable (rx : BusRun)

/-- A pass of the wait; it has pulled nothing. -/
def StartTimes.poll (times : StartTimes) : StartPoll where
  empty := (rx.block times.empty).fifo.isEmpty
  eop := (rx.block times.eop).irqs 2
  error := (rx.block times.error).irqs 1
  start := (rx.block times.start).irqs 3
  stopped := (rx.block times.stopped).pushed.map rxByte
  flags := flagsByte (rx.block times.recorded).irqs

/-- A pass over the packet loop, with so many words pulled before it. -/
def PacketTimes.poll (before : Nat) (times : PacketTimes) : PacketPoll where
  drained := ((rx.block times.drained).pulled.drop before).map rxByte
  error := (rx.block times.error).irqs 1
  eop := (rx.block times.eop).irqs 2
  stopped := ((rx.block times.stopped).pushed.drop (rx.block times.drained).pulled.length).map rxByte
  flags := flagsByte (rx.block times.recorded).irqs

/-- The passes, each with the words pulled by the last. -/
def packetPolls (before : Nat) : List PacketTimes → PacketTimes → Passes PacketPoll
  | [], last => { before := [], last := last.poll rx before }
  | times :: rest, last =>
    let after := packetPolls (rx.block times.drained).pulled.length rest last
    { after with before := times.poll rx before :: after.before }

/-- What the passes of the first loop find in the run. -/
def startPolls (starts : Passes StartTimes) : Passes StartPoll where
  before := starts.before.map (StartTimes.poll rx)
  last := starts.last.poll rx

end Reading

/-- The reads of a pass come in the order of the code. -/
structure PacketTimes.InOrder (times : PacketTimes) : Prop where
  eop : times.drained ≤ times.eop
  stopped : times.eop ≤ times.stopped

/-- The passes come one after the other. -/
def Ordered (passes : Passes PacketTimes) : Prop :=
  (∀ times ∈ passes.all, times.InOrder) ∧
    passes.all.Pairwise fun first second => first.drained ≤ second.drained

/-! ### All that is drained -/

section Drained

variable {rx : BusRun}

theorem pulled_grows {earlier later : Nat} (order : earlier ≤ later) :
    (rx.block earlier).pulled <+: (rx.block later).pulled := by
  induction later with
  | zero => rw [Nat.le_zero.mp order]
  | succ later ih =>
    rcases Nat.lt_or_eq_of_le order with less | rfl
    · have grown : (rx.block later).pulled <+: (rx.block (later + 1)).pulled :=
        List.prefix_append _ ((rx.block later).fifo.take (rx.reads later))
      exact (ih (by omega)).trans grown
    · exact List.prefix_rfl

theorem pulled_pushed {earlier later : Nat} (order : earlier ≤ later) :
    (rx.block earlier).pulled <+: (rx.block later).pushed :=
  (pulled_grows order).trans (List.prefix_append _ _)

/-- A drain, and what is drained after it. -/
theorem drop_append_drop {α : Type} {front items : List α} (inside : front <+: items) {count : Nat}
    (few : count ≤ front.length) :
    front.drop count ++ items.drop front.length = items.drop count := by
  obtain ⟨back, rfl⟩ := inside
  rw [List.drop_append_of_le_length few, List.drop_left]

/-- What a pass drains, and what is found after it. -/
theorem drained_append {start drained stopped : Nat} (late : start ≤ drained)
    (reaches : drained ≤ stopped) :
    ((rx.block drained).pulled.drop (rx.block start).pulled.length).map rxByte ++
        ((rx.block stopped).pushed.drop (rx.block drained).pulled.length).map rxByte =
      ((rx.block stopped).pushed.drop (rx.block start).pulled.length).map rxByte := by
  rw [← List.map_append, drop_append_drop (pulled_pushed reaches) (pulled_grows late).length_le]

/-- **The drains put together** are all that has been pushed when the receivers are stopped, and that
is after the end of the packet has been flagged. -/
theorem endsWith_of_eop (clean : ∀ time, (rx.block time).irqs 1 = false) (last : PacketTimes)
    (ended : (rx.block last.eop).irqs 2 = true) (before : List PacketTimes)
    (order : ∀ times ∈ before ++ [last], times.InOrder)
    (sorted : (before ++ [last]).Pairwise fun first second => first.drained ≤ second.drained)
    {start : Nat} (after : ∀ times ∈ before ++ [last], start ≤ times.drained) :
    ∃ times ∈ before ++ [last], (rx.block times.eop).irqs 2 = true ∧
      EndsWith (packetPolls rx (rx.block start).pulled.length before last)
        (((rx.block times.stopped).pushed.drop (rx.block start).pulled.length).map rxByte)
        (flagsByte (rx.block times.recorded).irqs) := by
  induction before generalizing start with
  | nil =>
    have inOrder := order last List.mem_cons_self
    refine ⟨last, List.mem_cons_self, ended, [], last.poll rx _, List.prefix_rfl, nofun, clean _, ended,
      rfl, ?_⟩
    exact (drained_append (after last List.mem_cons_self)
      (inOrder.eop.trans inOrder.stopped)).symm
  | cons first rest ih =>
    have inOrder := order first List.mem_cons_self
    have late := after first List.mem_cons_self
    obtain ⟨earliest, sorted⟩ := List.pairwise_cons.mp sorted
    by_cases eop : (rx.block first.eop).irqs 2 = true
    · refine ⟨first, List.mem_cons_self, eop, [], first.poll rx _,
        List.cons_prefix_cons.mpr ⟨rfl, List.nil_prefix⟩, nofun, clean _, eop, rfl, ?_⟩
      exact (drained_append late (inOrder.eop.trans inOrder.stopped)).symm
    · obtain ⟨times, among, flagged, front, poll, found, quiet, error, ends, flags, bytes⟩ :=
        ih (fun times among => order times (List.mem_cons_of_mem _ among)) sorted earliest
      refine ⟨times, List.mem_cons_of_mem _ among, flagged, first.poll rx _ :: front, poll,
        List.cons_prefix_cons.mpr ⟨rfl, found⟩,
        List.forall_mem_cons.mpr ⟨⟨clean _, Bool.not_eq_true _ ▸ eop⟩, quiet⟩, error, ends, flags, ?_⟩
      have reaches : first.drained ≤ times.stopped :=
        have inside := order times (List.mem_cons_of_mem _ among)
        (earliest times among).trans (inside.eop.trans inside.stopped)
      rw [List.flatMap_cons, List.append_assoc, ← bytes]
      exact (drained_append late reaches).symm

end Drained

/-! ### The answer of a device -/

/-- A wait that finds no error and, at last, the end of the packet. -/
theorem begins_of_eop {last : StartPoll} (ended : last.eop = true) (before : List StartPoll)
    (clean : ∀ poll ∈ before ++ [last], poll.error = false) : Begins ⟨before, last⟩ := by
  induction before with
  | nil => exact ⟨[], last, List.prefix_rfl, nofun, Or.inr ended⟩
  | cons first rest ih =>
    obtain ⟨quiet, clean⟩ := List.forall_mem_cons.mp clean
    by_cases idle : first.Idle
    · obtain ⟨front, poll, found, still, there⟩ := ih clean
      exact ⟨first :: front, poll, List.cons_prefix_cons.mpr ⟨rfl, found⟩,
        List.forall_mem_cons.mpr ⟨idle, still⟩, there⟩
    · refine ⟨[], first, List.cons_prefix_cons.mpr ⟨rfl, List.nil_prefix⟩, nofun, ?_⟩
      by_cases eop : first.eop = true
      · exact Or.inr eop
      · exact Or.inl (Bool.not_eq_true _ ▸ fun empty => idle ⟨empty, Bool.not_eq_true _ ▸ eop, quiet⟩)

/-- **A device's answer on the bus**: nothing at all, or a handshake whose end is flagged by `done`. -/
def AnswerOnBus (rx : BusRun) (done : Nat) : Option UInt8 → Prop
  | none => ∀ time, rx.wave time = some .J
  | some pid => (pid = pidAck ∨ pid = pidNak ∨ pid = pidStall) ∧ ∃ start bound,
      TimedPacket rx.wave rx.speed (wireStates [sync, pid]) start bound ∧
        start + bitCycles rx.speed * ((wireStates [sync, pid]).length + 2) ≤ done

section Answer

variable {rx : BusRun} {starts : Passes StartTimes} {packets : Passes PacketTimes}

theorem startPolls_all (rx : BusRun) (starts : Passes StartTimes) :
    (startPolls rx starts).all = starts.all.map (StartTimes.poll rx) := by
  unfold Passes.all startPolls
  rw [List.map_append]
  rfl

/-- Nothing is found on an idle bus. -/
theorem receiveHandshake_silent (armed : rx.start.Armed) (idle : ∀ time, rx.wave time = some .J)
    (starts : Passes StartTimes) (polls : Passes PacketPoll) :
    (receiveHandshake (startPolls rx starts) polls).result = .noStart := by
  have empty : ∀ time, (rx.block time).fifo = [] := fun time =>
    (List.append_eq_nil_iff.mp (idle_pushed armed idle time)).2
  refine receiveHandshake_of_idle ?_ (idle_flags armed idle (by decide) (by decide) _)
  rw [startPolls_all]
  intro poll among
  obtain ⟨times, -, rfl⟩ := List.mem_map.mp among
  refine ⟨?_, idle_flags armed idle (by decide) (by decide) _,
    idle_flags armed idle (by decide) (by decide) _⟩
  show (rx.block times.empty).fifo.isEmpty = true
  rw [empty]
  rfl

/-- **The routine refines the engine's model of it.** Whatever a device answers, at either speed, with
states that each begin in the first quarter of their bit, and however the CPU's passes and drains fall:
as long as neither deadline comes before the end of the answer, the routine returns the handshake that
was sent, and no start if none was. -/
theorem receiveHandshake_refines (rx : BusRun) (armed : rx.start.Armed) {phase : Nat}
    (inside : phase < edgeDivisor rx.speed)
    (clock : rx.clock = (edgeDivider rx.speed phase inside).ticks) (answer : Option UInt8) (done : Nat)
    (onBus : AnswerOnBus rx done answer) (starts : Passes StartTimes) (packets : Passes PacketTimes)
    (ordered : Ordered packets)
    (patient : answer ≠ none → done ≤ starts.last.eop ∧ done ≤ packets.last.eop) :
    (receiveHandshake (startPolls rx starts)
      (packetPolls rx 0 packets.before packets.last)).result =
        Pipe.receiveHandshake answer .arrives := by
  cases answer with
  | none => exact receiveHandshake_silent armed onBus starts _
  | some pid =>
    obtain ⟨known, start, bound, timed, inTime⟩ := onBus
    obtain ⟨first, packet, soon⟩ := packetOnBus_of_timing clock timed
    have decoded : decodeNrzi 2 (wireStates [sync, pid]) = .ok [sync, pid] :=
      decodeNrzi_wireStates le_rfl
    -- Two bytes fit into the FIFO, whether the CPU drains it or not.
    have roomy := roomy_of_short armed decoded packet (show 2 < rxFifoDepth by decide)
    obtain ⟨always, complete, flagged, clean⟩ := packet_received rx armed roomy decoded packet
    obtain ⟨startPatient, packetPatient⟩ := patient (Option.some_ne_none pid)
    have ended : ∀ time, done ≤ time → (rx.block time).irqs 2 = true := fun time after =>
      (flagged time (by omega)).1
    have begins : Begins (startPolls rx starts) := by
      refine begins_of_eop (ended _ startPatient) _ fun poll among => ?_
      have listed : poll ∈ starts.all.map (StartTimes.poll rx) := startPolls_all rx starts ▸ among
      obtain ⟨times, -, rfl⟩ := List.mem_map.mp listed
      exact clean times.error
    have nothing : (rx.block 0).pulled = [] := armed.emptyFifo.1
    obtain ⟨times, among, eop, ends⟩ := endsWith_of_eop clean packets.last (ended _ packetPatient)
      packets.before ordered.1 ordered.2 fun times _ => Nat.zero_le times.drained
    rw [nothing, List.length_nil, List.drop_zero] at ends
    have received : (rx.block times.stopped).pushed.map rxByte = [sync, pid] := by
      have grown := (@Pio.pushed_grows rx _ _ (ordered.1 times among).stopped).map rxByte
      rw [complete _ eop] at grown
      exact (grown.eq_of_length_le (always times.stopped).length_le).symm
    rw [received] at ends
    exact receiveHandshake_of_ends begins ends known

/-- One look before the packet and one after it. -/
def twoLooks : Passes StartTimes where
  before := [{ empty := 40, eop := 41, error := 42, start := 0, stopped := 0, recorded := 0 }]
  last := { empty := 300, eop := 301, error := 302, start := 0, stopped := 0, recorded := 0 }

/-- A drain in the middle of the packet and one after it. -/
def twoDrains : Passes PacketTimes where
  before := [{ drained := 195, error := 196, eop := 197, stopped := 197, recorded := 197 }]
  last := { drained := 320, error := 321, eop := 322, stopped := 325, recorded := 330 }

/-- The jittery ACK is received. -/
theorem receiveHandshake_refines_ack :
    (receiveHandshake (startPolls (fullSpeedRun jitteryAck) twoLooks)
      (packetPolls (fullSpeedRun jitteryAck) 0 twoDrains.before twoDrains.last)).result =
        Pipe.receiveHandshake (some pidAck) .arrives :=
  receiveHandshake_refines (fullSpeedRun jitteryAck) armedReceiver_armed (by decide) rfl (some pidAck) 280
    ⟨Or.inl rfl, 100, jitteryBound, jitteryAck_timed, by decide⟩ twoLooks twoDrains
    ⟨List.forall_mem_cons.mpr ⟨⟨by decide, by decide⟩,
        List.forall_mem_singleton.mpr ⟨by decide, by decide⟩⟩,
      List.pairwise_pair.mpr (by decide)⟩
    fun _ => ⟨by decide, by decide⟩

end Answer

end PioUsbHost.Rx
