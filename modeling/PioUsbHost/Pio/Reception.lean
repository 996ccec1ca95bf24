/-
**A packet on the bus arrives in the FIFO.**

Both machines of the receiving block run from clocks of their own, and the sample flag is all that
passes between them. `PacketOnBus` says what the bus does, in cycles of the system clock and ticks of
the detector's; each state may begin anywhere in the three ticks after its first. `reaches` is the
invariant that the decoder keeps from sample to sample: it waits again before the state it has sampled
is gone, and the next flag is raised after it has cleared the last one.

* `Ready.sampled`: one state of the bus, from flag to flag.
* `reaches`: all states of a packet, by induction on their number.
* `packet_received`: the bytes that `decode_nrzi` would return are the bytes the CPU can pull, and
  all of them are there when the end-of-packet flag is.
-/

import PioUsbHost.Pio.Receiver

namespace PioUsbHost.Pio

open PioUsbHost.Lib PioUsbHost.Lib.PioInput PioUsbHost.Usb
open PioUsbHost.Lib.PioMachine (Word)

/-- **A packet on the bus**: no K until its first state, then each state from its own cycle on, and SE0
after the last. State `number` begins after the tick `first + 8 * number` of the detector's clock, and
no later than three ticks on. -/
structure PacketOnBus (rx : BusRun) (states : List WireState) (first : Nat) (bound : Nat → Nat) :
    Prop where
  starts : states[0]? = some .K
  idle : ∀ time, time < bound 0 → rx.wave time ≠ some .K
  holds : ∀ number, number ≤ states.length → ∀ time, bound number ≤ time →
    time < bound (number + 1) → rx.wave time = states[number]?
  early : ∀ number, number ≤ states.length + 1 → rx.clock.time (first + 8 * number) < bound number
  late : ∀ number, number ≤ states.length + 1 →
    bound number ≤ rx.clock.time (first + 8 * number + 3)

/-- The CPU pulls words in time: the FIFO always has room. -/
def Roomy (rx : BusRun) : Prop := ∀ time, (rx.found time).fifo.length < rxFifoDepth

section Packet

variable {rx : BusRun} {states : List WireState} {first : Nat} {bound : Nat → Nat}

/-- The tick that first finds a state. -/
def edgeTick (rx : BusRun) (bound : Nat → Nat) (number : Nat) : Nat :=
  rx.clock.firstFrom (bound number)

/-- **The packet as the detector finds it.** -/
theorem PacketOnBus.ticked (packet : PacketOnBus rx states first bound) :
    PacketWave states (first + 1) (edgeTick rx bound) rx.ticked where
  starts := packet.starts
  armed := Nat.succ_pos first
  idle tick before := packet.idle _ ((rx.clock.lt_firstFrom_iff _ _).mp before)
  holds number inside tick after before := packet.holds number inside _
    ((rx.clock.firstFrom_le_iff _ _).mp after) ((rx.clock.lt_firstFrom_iff _ _).mp before)
  early number inside := by
    have early := (rx.clock.lt_firstFrom_iff _ _).mpr (packet.early number inside)
    unfold edgeTick
    omega
  late number inside := by
    have late := (rx.clock.firstFrom_le_iff _ _).mpr (packet.late number inside)
    unfold edgeTick
    omega

/-- The tick of a sample flag, and the cycle in which it is raised. -/
def flagTick (rx : BusRun) (states : List WireState) (bound : Nat → Nat) (number : Nat) : Nat :=
  EdgePhase.sampleTick states (edgeTick rx bound) number

/-- The cycle in which the flag of a state is raised. -/
def flagTime (rx : BusRun) (states : List WireState) (bound : Nat → Nat) (number : Nat) : Nat :=
  rx.clock.time (flagTick rx states bound number)

/-- The flags come four to six ticks after the first of their windows. -/
theorem flagTick_bounds (packet : PacketOnBus rx states first bound) {number : Nat}
    (inside : number ≤ states.length) :
    first + 8 * number + 4 ≤ flagTick rx states bound number ∧
      flagTick rx states bound number ≤ first + 8 * number + 6 := by
  have bounds := EdgePhase.sampleTick_bounds packet.ticked inside
  unfold flagTick
  omega

/-- Flags come in the order of their states. -/
theorem flagTime_lt (packet : PacketOnBus rx states first bound) {earlier later : Nat}
    (order : earlier < later) (inside : later ≤ states.length) :
    flagTime rx states bound earlier < flagTime rx states bound later := by
  have before := flagTick_bounds packet (show earlier ≤ states.length by omega)
  have after := flagTick_bounds packet inside
  exact rx.clock.strictMono (by omega)

/-! ### The flags of a packet -/

/-- The detector finds its flag cleared. -/
theorem held_zero (armed : rx.start.Armed) : rx.held 0 = false := by
  refine Bool.not_eq_true _ ▸ fun set => ?_
  obtain ⟨earlier, before, raised⟩ := (RxRun.flag_iff armed.apart (by decide)
    (armed.clear 2 (by decide) (by decide)) _).mp set
  unfold RxRun.detectorEffect at raised
  rw [rx.clock.not_enabled_first before] at raised
  cases raised

/-- The cycle in which the end of the packet is flagged. -/
def eopTime (rx : BusRun) (states : List WireState) (bound : Nat → Nat) : Nat :=
  rx.clock.time (flagTick rx states bound states.length + 6)

/-- From then on the detector finds its flag set. -/
theorem held_after (armed : rx.start.Armed) (packet : PacketOnBus rx states first bound) {tick : Nat}
    (after : flagTick rx states bound states.length + 7 ≤ tick) : rx.held tick = true := by
  obtain ⟨-, ending, -⟩ := EdgePhase.run_end packet.ticked (held_zero armed)
  refine (RxRun.flag_iff armed.apart (by decide) (armed.clear 2 (by decide) (by decide)) _).mpr
    ⟨eopTime rx states bound, rx.clock.strictMono (by omega),
      (BusRun.detectorEffect_raised armed.parked _ 2).mpr ⟨_, rfl, ?_⟩⟩
  exact congrArg EdgePhase.raises ending

/-- **The end of the packet is flagged once**, and the flag stays. -/
theorem eop_iff (armed : rx.start.Armed) (packet : PacketOnBus rx states first bound) (time : Nat) :
    (rx.block time).irqs 2 = true ↔ eopTime rx states bound < time := by
  have released := held_zero armed
  rw [RxRun.flag_iff armed.apart (by decide) (armed.clear 2 (by decide) (by decide))]
  constructor
  · rintro ⟨earlier, before, raised⟩
    obtain ⟨tick, rfl, raises⟩ := (BusRun.detectorEffect_raised armed.parked _ 2).mp raised
    rcases EdgePhase.raises_spec packet.ticked released (fun _ => held_after armed packet)
        (raises ▸ Option.some_ne_none 2) with rfl | ⟨number, inside, rfl⟩ | rfl
    · have other := congrArg EdgePhase.raises (EdgePhase.run_start packet.ticked released).1
      cases raises.symm.trans other
    · have other := (EdgePhase.sampled packet.ticked released inside).raises
      cases raises.symm.trans other
    · exact before
  · intro before
    have ending := (EdgePhase.run_end packet.ticked released).2.1
    exact ⟨_, before, (BusRun.detectorEffect_raised armed.parked _ 2).mpr
      ⟨_, rfl, congrArg EdgePhase.raises ending⟩⟩

/-- The start of the packet is flagged before its first sample. -/
theorem start_flagged (armed : rx.start.Armed) (packet : PacketOnBus rx states first bound)
    {time : Nat} (after : flagTime rx states bound 0 ≤ time) : (rx.block time).irqs 3 = true := by
  have started := (EdgePhase.run_start packet.ticked (held_zero armed)).1
  have earlier : rx.clock.time (edgeTick rx bound 0 + 1) < flagTime rx states bound 0 :=
    rx.clock.strictMono (show edgeTick rx bound 0 + 1 < edgeTick rx bound 0 + 3 by omega)
  exact (RxRun.flag_iff armed.apart (by decide) (armed.clear 3 (by decide) (by decide)) _).mpr
    ⟨_, Nat.lt_of_lt_of_le earlier after, (BusRun.detectorEffect_raised armed.parked _ 3).mpr
      ⟨_, rfl, congrArg EdgePhase.raises started⟩⟩

/-- **A sample flag is raised for every state**, for SE0, and for nothing else. -/
theorem sample_iff (armed : rx.start.Armed) (packet : PacketOnBus rx states first bound) (time : Nat) :
    (rx.detectorEffect time).raised = some 4 ↔
      ∃ number ≤ states.length, time = flagTime rx states bound number := by
  rw [BusRun.detectorEffect_raised armed.parked]
  constructor
  · rintro ⟨tick, rfl, raises⟩
    obtain ⟨number, inside, rfl⟩ := (EdgePhase.raises_sample_iff packet.ticked (held_zero armed)
      (fun _ => held_after armed packet) tick).mp raises
    exact ⟨number, inside, rfl⟩
  · rintro ⟨number, inside, rfl⟩
    exact ⟨_, rfl, (EdgePhase.raises_sample_iff packet.ticked (held_zero armed)
      (fun _ => held_after armed packet) _).mpr ⟨number, inside, rfl⟩⟩

/-! ### The decoder from sample to sample -/

/-- The states as the decoder samples them: SE0 looks like K. -/
def sampledStates (states : List WireState) : List WireState := states ++ [.K]

/-- The variables of the loop after some samples. -/
def decoderAfter (states : List WireState) (number : Nat) : NrziDecoder :=
  ((sampledStates states).take number).foldl receiveStep nrziStart

/-- The decoder waits with the variables of the loop. -/
abbrev DecoderWaits (rx : BusRun) (time : Nat) (decoder : NrziDecoder) : Prop :=
  Waits (fun time => (rx.block time).decoder) (fun time => (rx.block time).pushed) time decoder

theorem decoderAfter_succ_of_getElem? {number : Nat} {state : WireState}
    (found : (sampledStates states)[number]? = some state) :
    decoderAfter states (number + 1) = receiveStep (decoderAfter states number) state := by
  unfold decoderAfter
  rw [List.take_add_one, found, List.foldl_append]
  rfl

/-- One state further, as the data pin shows it. -/
theorem decoderAfter_succ {number : Nat} (inside : number ≤ states.length) :
    ∃ state, decoderAfter states (number + 1) = receiveStep (decoderAfter states number) state ∧
      dataSeen states[number]? = decide (state = .K) := by
  by_cases last : number = states.length
  · subst last
    refine ⟨.K, decoderAfter_succ_of_getElem? ?_, ?_⟩
    · unfold sampledStates
      rw [List.getElem?_append_right le_rfl, Nat.sub_self]
      rfl
    · rw [List.getElem?_eq_none le_rfl]
      rfl
  · have within : number < states.length := by omega
    refine ⟨states[number], decoderAfter_succ_of_getElem? ?_, ?_⟩
    · unfold sampledStates
      rw [List.getElem?_append_left within, List.getElem?_eq_getElem within]
    · rw [List.getElem?_eq_getElem within]
      generalize states[number] = state
      cases state <;> rfl

/-- The flag while the decoder is at work. -/
theorem flag_works (armed : rx.start.Armed) {time : Nat} (works : (rx.block time).decoder.pc ≠ 1) :
    (rx.block (time + 1)).irqs 4 =
      ((rx.block time).irqs 4 || (rx.detectorEffect time).raised == some 4) := by
  have apart := RxRun.apart armed.apart time
  have kept : (rx.decoderEffect time).cleared ≠ some 4 := fun cleared =>
    works ((@decoder_cycle _ (rx.decoderInputs time) apart.decoder).2.2 4 cleared).1
  rw [RxRun.flag_succ apart, bne_iff_ne.mpr kept, Bool.and_true]

/-- The flag while the decoder waits for it. -/
theorem flag_waits (armed : rx.start.Armed) {time : Nat} {decoder : NrziDecoder}
    (waits : DecoderWaits rx time decoder) :
    (rx.block (time + 1)).irqs 4 = ((rx.detectorEffect time).raised == some 4) := by
  rw [RxRun.flag_succ (RxRun.apart armed.apart time)]
  cases set : (rx.block time).irqs 4 with
  | false => rw [Bool.false_and, Bool.false_or]
  | true =>
    have passed : (rx.decoderEffect time).cleared = some 4 := by
      unfold RxRun.decoderEffect
      rw [show (rx.block time).decoder = _ from waits.here.machine,
        @cycle_waitIrq_pass decoderConfig (rx.decoderInputs time) (decoderMachine 1 _ _ _) 0 4 rfl rfl
          set]
      rfl
    rw [passed, bne_self_eq_false, Bool.and_false, Bool.false_or]

/-- **The decoder before the sample of a state**: it waits with the states before it decoded, its flag
is that of this state if it is set at all, and it waits in time for the state to last. -/
structure Ready (rx : BusRun) (states : List WireState) (first : Nat) (bound : Nat → Nat)
    (number time : Nat) : Prop where
  waits : DecoderWaits rx time (decoderAfter states number)
  flag : (rx.block time).irqs 4 = true ↔
    number ≤ states.length ∧ flagTime rx states bound number < time
  after : ∀ earlier, earlier < number → flagTime rx states bound earlier + 1 < time
  before : time + 1 ≤ rx.clock.time (first + 8 * number + 8)

/-- Nothing comes between a sample and the next. -/
theorem sample_eq (packet : PacketOnBus rx states first bound) {number other : Nat}
    (inside : other ≤ states.length) (after : number ≤ states.length →
      flagTime rx states bound number < flagTime rx states bound other → False)
    (before : ∀ earlier, earlier < number →
      flagTime rx states bound earlier < flagTime rx states bound other) : other = number := by
  rcases Nat.lt_trichotomy other number with less | same | more
  · exact absurd (before other less) (Nat.lt_irrefl _)
  · exact same
  · exact absurd (flagTime_lt packet more inside) (after (by omega))

/-- **The decoder finds the flag of the next state**, still waiting. -/
theorem Ready.flagged (armed : rx.start.Armed) (packet : PacketOnBus rx states first bound)
    {number time : Nat} (ready : Ready rx states first bound number time)
    (inside : number ≤ states.length) :
    ∃ found ≥ time, DecoderWaits rx found (decoderAfter states number) ∧
      (rx.block found).irqs 4 = true ∧ flagTime rx states bound number < found ∧
      found + 1 ≤ rx.clock.time (first + 8 * number + 8) := by
  by_cases early : flagTime rx states bound number < time
  · exact ⟨time, le_rfl, ready.waits, ready.flag.mpr ⟨inside, early⟩, early, ready.before⟩
  -- It stalls until the flag is raised.
  have stalls : ∀ count, time + count ≤ flagTime rx states bound number →
      DecoderWaits rx (time + count) (decoderAfter states number) ∧
        (rx.block (time + count)).irqs 4 = false := by
    intro count within
    induction count with
    | zero =>
      refine ⟨ready.waits, Bool.not_eq_true _ ▸ fun set => early (ready.flag.mp set).2⟩
    | succ count ih =>
      obtain ⟨waits, clear⟩ := ih (by omega)
      refine ⟨⟨waits.here.stall rx.running clear, waits.few⟩, ?_⟩
      rw [← Nat.add_assoc, flag_waits armed waits, beq_eq_false_iff_ne]
      intro raised
      obtain ⟨other, reaches, same⟩ := (sample_iff armed packet _).mp raised
      have own : other = number := sample_eq packet reaches (fun _ less => by omega)
        fun earlier less => by
          have := ready.after earlier less
          omega
      subst own
      omega
  have bounds := flagTick_bounds packet inside
  have gap : flagTime rx states bound number + 2 ≤ rx.clock.time (first + 8 * number + 8) :=
    (rx.clock.time_add_le _ 2).trans (rx.clock.strictMono.monotone (by omega))
  obtain ⟨waits, clear⟩ := stalls (flagTime rx states bound number - time) (by omega)
  rw [show time + (flagTime rx states bound number - time) = flagTime rx states bound number by
    omega] at waits clear
  refine ⟨flagTime rx states bound number + 1, by omega,
    ⟨waits.here.stall rx.running clear, waits.few⟩, ?_, Nat.lt_succ_self _, gap⟩
  rw [flag_waits armed waits, beq_iff_eq]
  exact (sample_iff armed packet _).mpr ⟨number, inside, rfl⟩

/-- While the decoder works on a sample, its flag becomes that of the next state. -/
theorem flag_worked (armed : rx.start.Armed) (packet : PacketOnBus rx states first bound)
    {number time cycles : Nat} (clear : (rx.block time).irqs 4 = false)
    (works : ∀ cycle, cycle < cycles → (rx.block (time + cycle)).decoder.pc ≠ 1)
    (after : ∀ earlier, earlier < number → flagTime rx states bound earlier < time)
    (before : number ≤ states.length → time ≤ flagTime rx states bound number) :
    (rx.block (time + cycles)).irqs 4 = true ↔
      number ≤ states.length ∧ flagTime rx states bound number < time + cycles := by
  induction cycles with
  | zero =>
    rw [Nat.add_zero, clear]
    constructor
    · exact nofun
    · rintro ⟨inside, less⟩
      have := before inside
      omega
  | succ cycles ih =>
    rw [← Nat.add_assoc, flag_works armed (works cycles (Nat.lt_succ_self _)), Bool.or_eq_true,
      ih fun cycle less => works cycle (by omega), beq_iff_eq, sample_iff armed packet]
    constructor
    · rintro (⟨inside, less⟩ | ⟨other, reaches, same⟩)
      · exact ⟨inside, by omega⟩
      · by_cases earlier : other < number
        · have := after other earlier
          omega
        · have inside : number ≤ states.length := by omega
          by_cases own : other = number
          · subst own
            exact ⟨inside, by omega⟩
          · have := flagTime_lt packet (show number < other by omega) reaches
            exact ⟨inside, by omega⟩
    · rintro ⟨inside, less⟩
      by_cases earlier : flagTime rx states bound number < time + cycles
      · exact Or.inl ⟨inside, earlier⟩
      · exact Or.inr ⟨number, inside, by omega⟩

/-- **One state of the bus**, from flag to flag. -/
theorem Ready.sampled (armed : rx.start.Armed) (roomy : Roomy rx)
    (packet : PacketOnBus rx states first bound) {number time : Nat}
    (ready : Ready rx states first bound number time) (inside : number ≤ states.length) :
    ∃ later, time < later ∧ Ready rx states first bound (number + 1) later ∧
      later ≤ rx.clock.time (first + 8 * (number + 1)) + 7 := by
  obtain ⟨found, later, waits, set, after, before⟩ := ready.flagged armed packet inside
  obtain ⟨state, step, pin⟩ := decoderAfter_succ inside
  have bounds := flagTick_bounds packet inside
  -- The state is still there when the data pin is read.
  have early : bound number ≤ found + 1 := by
    have late := packet.late number (by omega)
    have low : rx.clock.time (first + 8 * number + 3) ≤ flagTime rx states bound number :=
      rx.clock.strictMono.monotone (by omega)
    omega
  have late : found + 1 < bound (number + 1) :=
    Nat.lt_of_le_of_lt before (packet.early (number + 1) (by omega))
  have seen : (rx.decoderInputs (found + 1)).jumpPin = decide (state = .K) := by
    rw [rx.decoderInputs_jumpPin, packet.holds number inside _ early late, pin]
  have room : ∀ time, (rx.decoderInputs time).room = true := fun time => decide_eq_true (roomy time)
  obtain ⟨cycles, positive, short, takes⟩ := sample_spec rx.running room waits set seen
  rw [← step] at takes
  have fewer : ∀ earlier, earlier < number + 1 → flagTime rx states bound earlier < found := by
    intro earlier less
    by_cases own : earlier = number
    · rw [own]
      exact after
    · have := flagTime_lt packet (show earlier < number by omega) inside
      omega
  have next : number + 1 ≤ states.length →
      found + 1 < flagTime rx states bound (number + 1) := fun further => by
    have high := flagTick_bounds packet further
    have beyond : rx.clock.time (first + 8 * number + 8) < flagTime rx states bound (number + 1) :=
      rx.clock.strictMono (by omega)
    omega
  have clear : (rx.block (found + 1)).irqs 4 = false := by
    rw [flag_waits armed waits, beq_eq_false_iff_ne]
    intro raised
    obtain ⟨other, reaches, same⟩ := (sample_iff armed packet _).mp raised
    have own : other = number + 1 := sample_eq packet reaches
      (fun further less => by
        have := next further
        omega)
      fun earlier less => by
        have := fewer earlier less
        omega
    subst own
    have := next reaches
    omega
  refine ⟨found + 1 + cycles, by omega, ⟨takes.waits, ?_, fun earlier less => ?_, ?_⟩, ?_⟩
  · exact flag_worked armed packet clear takes.works
      (fun earlier less => Nat.lt_succ_of_lt (fewer earlier less))
      fun further => Nat.le_of_lt (next further)
  · have := fewer earlier less
    omega
  · have gap := rx.clock.time_add_le (first + 8 * number + 8) 8
    rw [show first + 8 * (number + 1) + 8 = first + 8 * number + 8 + 8 by omega]
    omega
  · rw [show first + 8 * (number + 1) = first + 8 * number + 8 by omega]
    omega

/-! ### The whole packet -/

theorem filling_start : nrziStart.result.Filling := ⟨Nat.succ_pos 7, fun _ _ => BitVec.getLsbD_zero⟩

/-- **An armed decoder** waits for its first flag, at once or after one instruction. -/
theorem armed_waits (armed : rx.start.Armed) :
    (rx.start.decoder.pc = 1 ∧ DecoderWaits rx 0 nrziStart) ∨
      (rx.start.decoder.pc = 0 ∧ DecoderWaits rx 1 nrziStart) := by
  obtain ⟨pulled, fifo⟩ := armed.emptyFifo
  obtain ⟨isr, isrCount⟩ := armed.emptyIsr
  obtain ⟨delay, waiting⟩ := armed.idle
  have empty : (rx.block 0).pushed = [] := by
    show rx.start.pulled ++ rx.start.fifo = []
    rw [pulled, fifo]
    rfl
  rcases armed.ready with zero | ⟨one, y⟩
  · -- `set y, 6` comes first.
    have start : rx.start.decoder =
        { decoderMachine 0 .J 6 nrziStart.result with y := rx.start.decoder.y } :=
      Machine.ext zero armed.level rfl (isr.trans (isrOf_empty []).symm) isrCount armed.ones delay
        waiting
    have step : cycle decoderConfig (rx.decoderInputs 0) (rx.block 0).decoder =
        (decoderMachine 1 .J 6 nrziStart.result, .quiet) := by
      rw [show (rx.block 0).decoder = _ from start]
      exact @cycle_instr decoderConfig _ { decoderMachine 0 .J 6 nrziStart.result with
        y := rx.start.decoder.y } ⟨.setY 6, 0⟩ rfl rfl
    obtain ⟨moved, logged⟩ := rx.running.step step
    refine Or.inr ⟨zero, ⟨moved, ?_, filling_start⟩, Nat.zero_le 6⟩
    show (rx.block 1).pushed.map rxByte = []
    rw [show (rx.block 1).pushed = _ from logged, empty]
    rfl
  · refine Or.inl ⟨one, ⟨?_, ?_, filling_start⟩, Nat.zero_le 6⟩
    · exact Machine.ext one armed.level y (isr.trans (isrOf_empty []).symm) isrCount armed.ones delay
        waiting
    · show (rx.block 0).pushed.map rxByte = []
      rw [empty]
      rfl

/-- **An armed block** is ready for the first state. -/
theorem ready_zero (armed : rx.start.Armed) (packet : PacketOnBus rx states first bound) :
    ∃ time, Ready rx states first bound 0 time := by
  have low := flagTick_bounds packet (Nat.zero_le _)
  have flagged : 4 ≤ flagTime rx states bound 0 :=
    Nat.le_trans (by omega) (rx.clock.le_time (flagTick rx states bound 0))
  have room : 2 ≤ rx.clock.time (first + 8 * 0 + 8) :=
    Nat.le_trans (by omega) (rx.clock.le_time (first + 8 * 0 + 8))
  have clear : rx.start.irqs 4 = false := armed.clear 4 (by decide) (by decide)
  rcases armed_waits armed with ⟨-, waits⟩ | ⟨zero, waits⟩
  · refine ⟨0, waits, ?_, nofun, by omega⟩
    constructor
    · intro set
      exact absurd (clear.symm.trans set) Bool.false_ne_true
    · rintro ⟨-, less⟩
      exact absurd less (Nat.not_lt_zero _)
  · refine ⟨1, waits, ?_, nofun, by omega⟩
    have off : (rx.detectorEffect 0).raised ≠ some 4 := fun raised => by
      obtain ⟨other, reaches, same⟩ := (sample_iff armed packet 0).mp raised
      have bounds := flagTick_bounds packet reaches
      have := rx.clock.le_time (flagTick rx states bound other)
      unfold flagTime at same
      omega
    rw [flag_works armed (show (rx.block 0).decoder.pc ≠ 1 by
        rw [show (rx.block 0).decoder.pc = 0 from zero]
        decide), beq_eq_false_iff_ne.mpr off, Bool.or_false]
    constructor
    · intro set
      exact absurd (clear.symm.trans set) Bool.false_ne_true
    · rintro ⟨-, less⟩
      omega

/-- **Every state is sampled in time**: after any number of them the decoder waits for the next. -/
theorem reaches (armed : rx.start.Armed) (roomy : Roomy rx)
    (packet : PacketOnBus rx states first bound) {number : Nat} (inside : number ≤ states.length + 1) :
    ∃ time, Ready rx states first bound number time := by
  induction number with
  | zero => exact ready_zero armed packet
  | succ number ih =>
    obtain ⟨time, ready⟩ := ih (by omega)
    obtain ⟨later, -, next, -⟩ := ready.sampled armed roomy packet (by omega)
    exact ⟨later, next⟩

/-- After the last sample the decoder pushes nothing more. -/
theorem Ready.rests (armed : rx.start.Armed) (packet : PacketOnBus rx states first bound) {time : Nat}
    (ready : Ready rx states first bound (states.length + 1) time) (count : Nat) :
    DecoderWaits rx (time + count) (decoderAfter states (states.length + 1)) ∧
      (rx.block (time + count)).irqs 4 = false := by
  induction count with
  | zero =>
    refine ⟨ready.waits, Bool.not_eq_true _ ▸ fun set => ?_⟩
    have := (ready.flag.mp set).1
    omega
  | succ count ih =>
    obtain ⟨waits, clear⟩ := ih
    refine ⟨⟨waits.here.stall rx.running clear, waits.few⟩, ?_⟩
    rw [← Nat.add_assoc, flag_waits armed waits, beq_eq_false_iff_ne]
    intro raised
    obtain ⟨other, within, same⟩ := (sample_iff armed packet _).mp raised
    have := ready.after other (by omega)
    omega

/-- What is pushed stays. -/
theorem pushed_grows {earlier later : Nat} (order : earlier ≤ later) :
    (rx.block earlier).pushed <+: (rx.block later).pushed := by
  induction later with
  | zero => rw [Nat.le_zero.mp order]
  | succ later ih =>
    rcases Nat.lt_or_eq_of_le order with less | rfl
    · have grown : (rx.block (later + 1)).pushed = _ := rx.running.logs later
      rw [grown]
      exact (ih (by omega)).trans (List.prefix_append _ _)
    · exact List.prefix_rfl

/-- A sample at a byte's end completes no other byte. -/
theorem receiveStep_bytes {decoder : NrziDecoder} (whole : decoder.result.bitIndex = 0)
    (state : WireState) : (receiveStep decoder state).result.bytes = decoder.result.bytes := by
  unfold receiveStep
  split
  · rfl
  · show (decoder.result.store _).bytes = _
    unfold DecodedBytes.store
    simp only
    rw [if_neg (by omega)]

/-- **A packet on the bus arrives in the FIFO.** The bytes that `decode_nrzi` makes of the states are
the bytes that the CPU can pull: it never finds others, all of them are there once the end of the
packet is flagged, and that is within twelve ticks of SE0's window; the start of the packet is flagged
too, and no decoder error is. -/
theorem packet_received (rx : BusRun) (armed : rx.start.Armed) (roomy : Roomy rx) {capacity : Nat}
    {states : List WireState} {bytes : List UInt8} (decoded : decodeNrzi capacity states = .ok bytes)
    {first : Nat} {bound : Nat → Nat} (packet : PacketOnBus rx states first bound) :
    (∀ time, (rx.block time).pushed.map rxByte <+: bytes) ∧
      (∀ time, (rx.block time).irqs 2 = true → (rx.block time).pushed.map rxByte = bytes) ∧
      (∀ time, rx.clock.time (first + 8 * states.length + 12) < time →
        (rx.block time).irqs 2 = true ∧ (rx.block time).irqs 3 = true) ∧
      ∀ time, (rx.block time).irqs 1 = false := by
  obtain ⟨whole, part⟩ := foldl_receiveStep decoded
  have all : decoderAfter states states.length = states.foldl receiveStep nrziStart := by
    unfold decoderAfter sampledStates
    rw [List.take_left]
  obtain ⟨time, ready⟩ := reaches armed roomy packet (Nat.le_succ states.length)
  obtain ⟨final, order, ended, -⟩ := ready.sampled armed roomy packet le_rfl
  have received : (rx.block time).pushed.map rxByte = bytes := by
    rw [ready.waits.here.pushed, all, whole]
  obtain ⟨state, step, -⟩ := decoderAfter_succ (le_refl states.length)
  have rests : ∀ later, final ≤ later → (rx.block later).pushed.map rxByte = bytes := by
    intro later after
    have waits := (ended.rests armed packet (later - final)).1
    rw [show final + (later - final) = later by omega] at waits
    rw [waits.here.pushed, step, receiveStep_bytes (by rw [all, part]), all, whole]
  have always : ∀ time, (rx.block time).pushed.map rxByte <+: bytes := by
    intro time
    rw [← rests (max time final) (Nat.le_max_right _ _)]
    exact (pushed_grows (Nat.le_max_left _ _)).map rxByte
  have bounds := flagTick_bounds packet (le_refl states.length)
  refine ⟨always, fun later set => ?_, fun later after => ?_, fun later => ?_⟩
  · -- The end is flagged after the last byte has been pushed.
    have flagged := (eop_iff armed packet later).mp set
    have gap : rx.clock.time (first + 8 * states.length + 8) < eopTime rx states bound :=
      rx.clock.strictMono (by omega)
    have before := ready.before
    refine (always later).eq_of_length_le ?_
    rw [← received]
    exact ((pushed_grows (show time ≤ later by omega)).map rxByte).length_le
  · have soon : eopTime rx states bound ≤ rx.clock.time (first + 8 * states.length + 12) :=
      rx.clock.strictMono.monotone (by omega)
    have begins : flagTime rx states bound 0 ≤ eopTime rx states bound := by
      have low := flagTick_bounds packet (Nat.zero_le states.length)
      exact rx.clock.strictMono.monotone (by omega)
    exact ⟨(eop_iff armed packet later).mpr (by omega), start_flagged armed packet (by omega)⟩
  · rw [RxRun.flag_kept armed.apart (Or.inl (by decide))]
    exact armed.clear 1 le_rfl (by decide)

/-- **The last byte comes early**: it is pushed within seven cycles of the end of its last bit, while
the end of the packet is flagged ten ticks after it at the earliest. -/
theorem packet_complete (rx : BusRun) (armed : rx.start.Armed) (roomy : Roomy rx) {capacity : Nat}
    {states : List WireState} {bytes : List UInt8} (decoded : decodeNrzi capacity states = .ok bytes)
    {first : Nat} {bound : Nat → Nat} (packet : PacketOnBus rx states first bound) {time : Nat}
    (after : rx.clock.time (first + 8 * states.length) + 7 ≤ time) :
    (rx.block time).pushed.map rxByte = bytes := by
  obtain ⟨last, length⟩ : ∃ last, states.length = last + 1 := by
    obtain ⟨inside, -⟩ := List.getElem?_eq_some_iff.mp packet.starts
    exact Nat.exists_eq_succ_of_ne_zero (by omega)
  obtain ⟨early, waiting⟩ := reaches armed roomy packet (show last ≤ states.length + 1 by omega)
  obtain ⟨done, -, ready, soon⟩ := waiting.sampled armed roomy packet (by omega)
  rw [← length] at ready soon
  have received : (rx.block done).pushed.map rxByte = bytes := by
    rw [ready.waits.here.pushed]
    unfold decoderAfter sampledStates
    rw [List.take_left, (foldl_receiveStep decoded).1]
  obtain ⟨always, -⟩ := packet_received rx armed roomy decoded packet
  refine (always time).eq_of_length_le ?_
  rw [← received]
  exact ((pushed_grows (show done ≤ time by omega)).map rxByte).length_le

end Packet

/-! ### An idle bus -/

section Idle

variable {rx : BusRun} (armed : rx.start.Armed) (idle : ∀ time, rx.wave time = some .J)

include armed idle

omit armed in
/-- The detector waits for the start of a packet. -/
theorem idle_phase (tick : Nat) : EdgePhase.run rx.held rx.ticked tick = .parked ∨
    EdgePhase.run rx.held rx.ticked tick = .waiting := by
  induction tick with
  | zero => exact Or.inl rfl
  | succ tick ih =>
    rw [EdgePhase.run_succ, show rx.ticked tick = some .J from idle _]
    rcases ih with parked | waiting
    · rw [parked]
      cases rx.held tick with
      | false => exact Or.inr rfl
      | true => exact Or.inl rfl
    · rw [waiting]
      exact Or.inr rfl

theorem idle_raises (time index : Nat) : (rx.detectorEffect time).raised ≠ some index := by
  intro raised
  obtain ⟨tick, -, raises⟩ := (BusRun.detectorEffect_raised armed.parked time index).mp raised
  rcases idle_phase idle tick with parked | waiting
  · rw [parked] at raises
    cases raises
  · rw [waiting] at raises
    cases raises

/-- **An idle bus raises no flag.** -/
theorem idle_flags {index : Nat} (low : 1 ≤ index) (high : index ≤ 4) (time : Nat) :
    (rx.block time).irqs index = false := by
  induction time with
  | zero => exact armed.clear index low high
  | succ time ih =>
    rw [RxRun.flag_succ (RxRun.apart armed.apart time), ih, Bool.false_and, Bool.false_or]
    exact beq_eq_false_iff_ne.mpr (idle_raises armed idle time index)

/-- **An idle bus pushes nothing.** -/
theorem idle_pushed (time : Nat) : (rx.block time).pushed = [] := by
  have clear := idle_flags armed idle (show 1 ≤ 4 by decide) le_rfl
  have rests : ∀ start, DecoderWaits rx start nrziStart →
      ∀ count, DecoderWaits rx (start + count) nrziStart := by
    intro start waits count
    induction count with
    | zero => exact waits
    | succ count ih => exact ⟨ih.here.stall rx.running (clear _), ih.few⟩
  have early : (rx.block time).pushed <+: (rx.block (1 + time)).pushed := pushed_grows (by omega)
  have none : (rx.block (1 + time)).pushed = [] := by
    rcases armed_waits armed with ⟨-, waits⟩ | ⟨-, waits⟩
    · have later := (rests 0 waits (1 + time)).here.pushed
      rw [Nat.zero_add] at later
      exact List.map_eq_nil_iff.mp later
    · exact List.map_eq_nil_iff.mp (rests 1 waits time).here.pushed
  rw [none] at early
  exact List.prefix_nil.mp early

end Idle

end PioUsbHost.Pio
