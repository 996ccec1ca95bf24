/-
**An IN packet, from the bus to the engine.**

The passes of `receiveDataPacket` read a run of the receivers (`passPolls`): what their drains pull is
what the run's CPU pulls. Such a run is a schedule (`runSchedule`): no other bytes come than those of the
packet, and the end of the packet is flagged after the last of them.

The routine decides on less than the packet only where a shorter packet stands in for it. Its last byte
is pushed before the flag by a fixed time (`eopLead`), so a call that looks at the flag soon enough after
each drain decides on all of it.

* `not_stalePrefix`: when no prefix stands in for the packet.
* `receiveDataPacket_refines`: the passes read what the engine's model of them reads, and of an answer
  that is decided on as a whole the call makes what the plain parser does.
-/

import PioUsbHost.Rx.Answer
import PioUsbHost.Rx.HandshakeOnWire

namespace PioUsbHost.Rx

open PioUsbHost.Usb PioUsbHost.Pio PioUsbHost.Lib.PioMachine

/-! ### When the CPU reads -/

/-- The cycles in which a pass of the loop reads. Its drain finds the FIFO empty in cycle `drained`, a
drain after the EOP flag in cycle `terminal`. -/
structure PassTimes where
  entryError : Nat
  entryEop : Nat
  drained : Nat
  start : Nat
  error : Nat
  eop : Nat
  terminal : Nat

section Reading

variable (rx : BusRun)

/-- A pass with so many words pulled before it. Its drain has pulled what the CPU has by then. -/
def PassTimes.poll (before : Nat) (times : PassTimes) : RxPoll where
  entryError := (rx.block times.entryError).irqs 1
  entryEop := (rx.block times.entryEop).irqs 2
  drained := ((rx.found times.drained).pulled.drop before).map rxByte
  start := (rx.block times.start).irqs 3
  error := (rx.block times.error).irqs 1
  eop := (rx.block times.eop).irqs 2
  terminal :=
    ((rx.block times.terminal).pushed.drop (rx.found times.drained).pulled.length).map rxByte

/-- How many words the passes before have pulled. -/
def pulledBefore (times : Nat → PassTimes) : Nat → Nat
  | 0 => 0
  | pass + 1 => (rx.found (times pass).drained).pulled.length

/-- The passes of a call, each with the words pulled by the passes before it. -/
def passPolls (times : Nat → PassTimes) (pass : Nat) : RxPoll :=
  (times pass).poll rx (pulledBefore rx times pass)

end Reading

/-- The reads come in the order of the code. -/
structure CallOrder (times : Nat → PassTimes) : Prop where
  entry : ∀ pass, (times pass).entryEop ≤ (times pass).drained
  eop : ∀ pass, (times pass).drained ≤ (times pass).eop
  terminal : ∀ pass, (times pass).eop ≤ (times pass).terminal
  next : ∀ pass, (times pass).terminal ≤ (times (pass + 1)).entryEop

/-- Each drain goes on until the FIFO is empty. -/
def Emptied (rx : BusRun) (times : Nat → PassTimes) : Prop :=
  ∀ pass, (rx.found (times pass).drained).fifo = []

/-- What an emptying drain has pulled is all that was pushed. -/
theorem Emptied.pulled {rx : BusRun} {times : Nat → PassTimes} (emptied : Emptied rx times)
    (pass : Nat) : (rx.found (times pass).drained).pulled =
      (rx.block (times pass).drained).pushed := by
  have empty := emptied pass
  show (rx.block _).pulled ++ (rx.block _).fifo.take _ = (rx.block _).pulled ++ (rx.block _).fifo
  conv_rhs => rw [← List.take_append_drop (rx.reads (times pass).drained)
    (rx.block (times pass).drained).fifo]
  rw [show (rx.block (times pass).drained).fifo.drop _ = [] from empty, List.append_nil]

/-- The cycle of an access. -/
def accessTime (times : Nat → PassTimes) (access : Nat) : Nat :=
  match access % 4 with
  | 0 => (times (access / 4)).entryEop
  | 1 => (times (access / 4)).drained
  | 2 => (times (access / 4)).eop
  | _ => (times (access / 4)).terminal

section Accesses

variable (times : Nat → PassTimes) (pass : Nat)

theorem accessTime_entry : accessTime times (4 * pass) = (times pass).entryEop := by
  unfold accessTime
  rw [Nat.mul_mod_right, Nat.mul_div_cancel_left pass (by decide)]
  rfl

theorem accessTime_drained : accessTime times (4 * pass + 1) = (times pass).drained := by
  unfold accessTime
  rw [Nat.mul_add_mod, show (4 * pass + 1) / 4 = pass by omega]
  rfl

theorem accessTime_eop : accessTime times (4 * pass + 2) = (times pass).eop := by
  unfold accessTime
  rw [Nat.mul_add_mod, show (4 * pass + 2) / 4 = pass by omega]
  rfl

theorem accessTime_terminal : accessTime times (4 * pass + 3) = (times pass).terminal := by
  unfold accessTime
  rw [Nat.mul_add_mod, show (4 * pass + 3) / 4 = pass by omega]
  rfl

variable {times}

theorem accessTime_mono (order : CallOrder times) : Monotone (accessTime times) := by
  refine monotone_nat_of_le_succ fun access => ?_
  obtain ⟨pass, rest, less, rfl⟩ : ∃ pass rest, rest < 4 ∧ access = 4 * pass + rest :=
    ⟨access / 4, access % 4, Nat.mod_lt _ (by decide), (Nat.div_add_mod access 4).symm⟩
  interval_cases rest
  · rw [Nat.add_zero, accessTime_entry, accessTime_drained]
    exact order.entry pass
  · rw [accessTime_drained, accessTime_eop]
    exact order.eop pass
  · rw [accessTime_eop, accessTime_terminal]
    exact order.terminal pass
  · rw [accessTime_terminal, show 4 * pass + 3 + 1 = 4 * (pass + 1) by omega, accessTime_entry]
    exact order.next pass

end Accesses

/-! ### The schedule of a run -/

/-- **What the receivers make of a packet**: no other bytes, all of them by its end, and no error. -/
structure Arrives (rx : BusRun) (wire : List UInt8) : Prop where
  always : ∀ time, (rx.block time).pushed.map rxByte <+: wire
  complete : ∀ time, (rx.block time).irqs 2 = true → (rx.block time).pushed.map rxByte = wire
  sticky : ∀ {early late : Nat}, early ≤ late → (rx.block early).irqs 2 = true →
    (rx.block late).irqs 2 = true
  clean : ∀ time, (rx.block time).irqs 1 = false

section Schedules

variable {rx : BusRun} {wire : List UInt8} {times : Nat → PassTimes}

theorem Arrives.take (arrives : Arrives rx wire) (time : Nat) :
    wire.take (rx.block time).pushed.length = (rx.block time).pushed.map rxByte := by
  rw [← List.length_map]
  exact (List.prefix_iff_eq_take.mp (arrives.always time)).symm

theorem Arrives.length_le (arrives : Arrives rx wire) (time : Nat) :
    (rx.block time).pushed.length ≤ wire.length := by
  rw [← List.length_map]
  exact (arrives.always time).length_le

/-- The interleaving of a call with the receivers. -/
def runSchedule (arrives : Arrives rx wire) (order : CallOrder times) : Schedule wire where
  pushed access := (rx.block (accessTime times access)).pushed.length
  pushed_mono _ _ ordered := (@Pio.pushed_grows rx _ _ (accessTime_mono order ordered)).length_le
  pushed_le access := arrives.length_le _
  eop access := (rx.block (accessTime times access)).irqs 2
  eop_sticky ordered seen := arrives.sticky (accessTime_mono order ordered) seen
  eop_last {access} seen := by
    rw [← arrives.complete _ seen, List.length_map]
  start pass := (rx.block (times pass).start).irqs 3

variable (arrives : Arrives rx wire) (order : CallOrder times)

theorem pulled_runSchedule (emptied : Emptied rx times) (pass : Nat) :
    (runSchedule arrives order).pulled pass = pulledBefore rx times pass := by
  cases pass with
  | zero => rfl
  | succ pass =>
    show (rx.block (accessTime times (4 * pass + 1))).pushed.length = _
    rw [accessTime_drained, ← emptied.pulled]
    rfl

/-- **The passes read the run as the schedule says.** -/
theorem polls_runSchedule (emptied : Emptied rx times) :
    (runSchedule arrives order).polls = passPolls rx times := by
  funext pass
  have entry : (runSchedule arrives order).eop (4 * pass) = (rx.block (times pass).entryEop).irqs 2 := by
    rw [← accessTime_entry]
    rfl
  have eop : (runSchedule arrives order).eop (4 * pass + 2) = (rx.block (times pass).eop).irqs 2 := by
    rw [← accessTime_eop]
    rfl
  have drained : (runSchedule arrives order).pushed (4 * pass + 1) =
      (rx.block (times pass).drained).pushed.length := by
    rw [← accessTime_drained]
    rfl
  have terminal : (runSchedule arrives order).pushed (4 * pass + 3) =
      (rx.block (times pass).terminal).pushed.length := by
    rw [← accessTime_terminal]
    rfl
  unfold Schedule.polls passPolls PassTimes.poll
  rw [entry, eop, drained, terminal, pulled_runSchedule arrives order emptied, arrives.take,
    arrives.take, arrives.clean, arrives.clean, List.map_drop, List.map_drop, emptied.pulled]
  rfl

theorem before_runSchedule (pass : Nat) : (runSchedule arrives order).before (pass + 1) =
    (rx.block (times pass).drained).pushed.map rxByte := by
  show wire.take (rx.block (accessTime times (4 * pass + 1))).pushed.length = _
  rw [accessTime_drained, arrives.take]

/-- There is a first pass that sees the end of the packet, if any within the budget does. -/
theorem endsAt_runSchedule {budget : Nat} (seen : (rx.block (times budget).eop).irqs 2 = true) :
    ∃ last ≤ budget, (runSchedule arrives order).EndsAt last := by
  have found : ∃ pass, (runSchedule arrives order).eop (4 * pass + 2) = true :=
    ⟨budget, by rw [← accessTime_eop] at seen; exact seen⟩
  refine ⟨Nat.find found, Nat.find_min' found (by rw [← accessTime_eop] at seen; exact seen),
    Nat.find_spec found, fun early before => ?_⟩
  exact Bool.not_eq_true _ ▸ Nat.find_min found before

end Schedules

/-! ### No prefix stands in for the packet -/

section Whole

variable {rx : BusRun} {wire : List UInt8} {times : Nat → PassTimes} {params : InParams}

/-- No shorter packet begins as this one does. -/
def NoShorterPacket (params : InParams) (wire : List UInt8) : Prop :=
  ∀ short, short <+: wire → ackableBytes params short = true → short = wire

/-- The call looks at the EOP flag soon after each drain, and at full speed soon again. -/
structure LooksSoon (rx : BusRun) (params : InParams) (times : Nat → PassTimes) : Prop where
  eop : ∀ pass, (times pass).eop ≤ (times pass).drained + eopLead rx.speed
  entryEop : params.ackEopGuardCycles = 0 →
    ∀ pass, (times (pass + 1)).entryEop ≤ (times pass).drained + eopLead rx.speed

/-- The FIFO has held the whole packet when it is found empty shortly before its end is flagged. -/
def Early (rx : BusRun) (wire : List UInt8) : Prop :=
  ∀ time seen, (rx.block seen).irqs 2 = true → seen ≤ time + eopLead rx.speed →
    (rx.block time).pushed.map rxByte = wire

/-- **The call decides on the whole packet**, if no shorter packet begins as this one, or if it looks
soon enough. -/
theorem not_stalePrefix (arrives : Arrives rx wire) (order : CallOrder times) (early : Early rx wire)
    (whole : NoShorterPacket params wire ∨ LooksSoon rx params times) {last : Nat}
    (ends : (runSchedule arrives order).EndsAt last) :
    ¬ StalePrefix params (runSchedule arrives order) last := by
  rcases whole with none | soon
  · rintro (⟨shortcut, proper⟩ | ⟨ackable, proper⟩)
    · simp only [takesShortcut, Bool.and_eq_true] at shortcut
      exact proper (none _ (Schedule.before_isPrefix last) shortcut.1.2)
    · exact proper (none _ (Schedule.before_isPrefix (last + 1)) ackable)
  · rintro (⟨shortcut, proper⟩ | ⟨-, proper⟩)
    · simp only [takesShortcut, Bool.and_eq_true, beq_iff_eq] at shortcut
      obtain ⟨⟨guard, ackable⟩, seen⟩ := shortcut
      cases last with
      | zero => exact Bool.noConfusion ackable
      | succ pass =>
        refine proper ((before_runSchedule arrives order pass).trans ?_)
        exact early _ _ seen (accessTime_entry times (pass + 1) ▸ soon.entryEop guard pass)
    · refine proper ((before_runSchedule arrives order last).trans ?_)
      exact early _ _ ends.seen (accessTime_eop times last ▸ soon.eop last)

end Whole

/-! ### The answer of a device -/

/-- **A device's response on the bus**: nothing at all, or a packet whose end is flagged by `done`. -/
def ResponseOnBus (rx : BusRun) (done : Nat) : Option (List UInt8) → Prop
  | none => ∀ time, rx.wave time = some .J
  | some bytes => ∃ start bound, TimedPacket rx.wave rx.speed (wireStates bytes) start bound ∧
      start + bitCycles rx.speed * ((wireStates bytes).length + 2) ≤ done

section Response

variable {rx : BusRun} {times : Nat → PassTimes}

/-- Nothing is found on an idle bus. -/
theorem passPolls_idle (armed : rx.start.Armed) (idle : ∀ time, rx.wave time = some .J) :
    passPolls rx times = fun _ => .nothing := by
  funext pass
  have pushed := fun time => List.append_eq_nil_iff.mp (idle_pushed armed idle time)
  have pulled : (rx.found (times pass).drained).pulled = [] := by
    show (rx.block _).pulled ++ (rx.block _).fifo.take _ = []
    rw [(pushed _).1, (pushed _).2, List.take_nil, List.append_nil]
  have error := fun time => idle_flags armed idle (show 1 ≤ 1 by decide) (by decide) time
  have eop := fun time => idle_flags armed idle (show 1 ≤ 2 by decide) (by decide) time
  have start := fun time => idle_flags armed idle (show 1 ≤ 3 by decide) (by decide) time
  unfold passPolls PassTimes.poll RxPoll.nothing
  rw [error, eop, start, error, eop, pulled, idle_pushed armed idle, List.drop_nil, List.drop_nil]
  rfl

/-- **A packet in bit times** arrives, and early. -/
theorem arrives_of_timed (armed : rx.start.Armed) (roomy : Roomy rx) {phase : Nat}
    {inside : phase < edgeDivisor rx.speed}
    (clock : rx.clock = (edgeDivider rx.speed phase inside).ticks) {bytes : List UInt8} {start : Nat}
    {bound : Nat → Nat} (timed : TimedPacket rx.wave rx.speed (wireStates bytes) start bound) :
    Arrives rx bytes ∧ Early rx bytes ∧
      ∀ time, start + bitCycles rx.speed * ((wireStates bytes).length + 2) ≤ time →
        (rx.block time).irqs 2 = true := by
  obtain ⟨first, packet, soon⟩ := packetOnBus_of_timing clock timed
  have decoded := decodeNrzi_wireStates (show bytes.length ≤ bytes.length from le_rfl)
  obtain ⟨always, complete, flagged, clean⟩ := packet_received rx armed roomy decoded packet
  refine ⟨⟨always, complete, fun order set => ?_, clean⟩, fun time seen set near => ?_,
    fun time after => (flagged time (by omega)).1⟩
  · have ended := (eop_iff armed packet _).mp set
    exact (eop_iff armed packet _).mpr (by omega)
  · exact pushed_before_eop armed roomy clock decoded packet set near

/-- What is received of an answer that is heard as a whole. -/
def wholeAnswer (params : InParams) : Option (List UInt8) → InReceiveResult
  | some bytes => plainVerdict params bytes
  | none => .noResponse

/-- The payload after it. -/
def wholePayload (params : InParams) (answer : Option (List UInt8)) (payload : List UInt8) :
    List UInt8 :=
  match answer with
  | some bytes => plainPayload params bytes payload
  | none => payload

/-- **The routine refines the engine's model of it.** Whatever a device answers to the token, at either
speed, with states that each begin in the first quarter of their bit, and however the CPU's passes and
drains fall that leave the FIFO room: the passes read what those of an IN transaction do, of an answer
that arrives at some pace. As long as the last pass comes after the end of the answer, and no shorter
packet begins as the answer does or the call looks at the end soon enough after each drain, the call
makes of the answer what the plain parser does, copies its payload, and releases the ACK for a packet
that it accepts or has had. -/
theorem receiveDataPacket_refines (rx : BusRun) (armed : rx.start.Armed) (roomy : Roomy rx)
    {phase : Nat} (inside : phase < edgeDivisor rx.speed)
    (clock : rx.clock = (edgeDivider rx.speed phase inside).ticks) (answer : Option (List UInt8))
    (done : Nat) (onBus : ResponseOnBus rx done answer) (times : Nat → PassTimes)
    (order : CallOrder times) (emptied : Emptied rx times) (budget : Nat)
    (patient : answer ≠ none → done ≤ (times budget).eop)
    (tx : Transmitter) (idle : tx.Idle) (irqs : TxIrqs) (token payload : List UInt8) (raw : RawBuffer)
    (maxPayloadLen : Nat) (expectedPid : UInt8) (ackEopGuardCycles : UInt32)
    (expected : isDataPid expectedPid = true) (capacity : maxPayloadLen ≤ payload.length)
    (fits : payload.length ≤ 100)
    (sent : Sent (callParams payload maxPayloadLen expectedPid ackEopGuardCycles) irqs
      (answer.getD []))
    (whole : ∀ bytes ∈ answer,
      NoShorterPacket (callParams payload maxPayloadLen expectedPid ackEopGuardCycles) bytes ∨
        LooksSoon rx (callParams payload maxPayloadLen expectedPid ackEopGuardCycles) times) :
    let params := callParams payload maxPayloadLen expectedPid ackEopGuardCycles
    let outcome := receiveDataPacket tx irqs (passPolls rx times) budget token payload raw
      maxPayloadLen expectedPid ackEopGuardCycles true
    (∃ pace, passPolls rx times = (AnswerFate.arrives pace).polls answer) ∧
      outcome.result = .ok (wholeAnswer params answer) ∧
      outcome.payload = wholePayload params answer payload ∧
      outcome.tx.released = tx.released ++ token :: ackFor (wholeAnswer params answer) := by
  have waited : (irqs.tokenEop && irqs.tokenDone) = true := by
    rw [sent.tokenEop, sent.tokenDone]
    rfl
  cases answer with
  | none =>
    intro params outcome
    have nothing : passPolls rx times = fun _ => .nothing := passPolls_idle armed onBus
    have silent : outcome = { result := .ok .noResponse, wireLen := 0, raw, payload
                              tx := tx.afterToken token } :=
      receiveDataPacket_nothing idle (fun pass => by rw [nothing]; exact ⟨rfl, rfl, rfl, rfl⟩) waited
    rw [silent]
    exact ⟨⟨Pace.never, nothing⟩, rfl, rfl, rfl⟩
  | some bytes =>
    obtain ⟨start, bound, timed, inTime⟩ := onBus
    obtain ⟨arrives, early, flagged⟩ := arrives_of_timed armed roomy clock timed
    have seen := flagged _ (inTime.trans (patient (Option.some_ne_none bytes)))
    obtain ⟨last, enough, ends⟩ := endsAt_runSchedule arrives order seen
    have stale := not_stalePrefix arrives order early (whole bytes rfl) ends
    have verdict := @receiveDataPacket_verdict tx irqs token payload raw maxPayloadLen expectedPid
      ackEopGuardCycles budget bytes _ last idle expected capacity fits ends enough waited bytes
      ((verdictBytes_eq_iff last).mpr stale) sent.ack
    obtain ⟨pace, same⟩ := Pace.exists_schedule (runSchedule arrives order)
    rw [polls_runSchedule arrives order emptied] at verdict
    refine ⟨⟨pace, ?_⟩, verdict⟩
    show _ = (pace.schedule bytes).polls
    rw [same, polls_runSchedule arrives order emptied]

/-- A packet whose states each begin on time. -/
def punctual (states : List WireState) (time : Nat) : BusState :=
  if time < 100 then some .J else states[(time - 100) / 10]?

theorem punctual_timed {states : List WireState} (starts : states[0]? = some .K) :
    TimedPacket (punctual states) .full states 100 fun number => 100 + 10 * number where
  starts := starts
  settled := by decide
  idle time before := by
    unfold punctual
    rw [if_pos (by omega)]
    decide
  holds number _ time after before := by
    unfold punctual
    rw [if_neg (by omega)]
    congr 1
    omega
  early number := le_rfl
  late number := Nat.le_add_right _ _

/-- A pass in every six cycles. -/
def quickTimes (pass : Nat) : PassTimes where
  entryError := 6 * pass
  entryEop := 6 * pass
  drained := 6 * pass + 1
  start := 6 * pass + 1
  error := 6 * pass + 2
  eop := 6 * pass + 3
  terminal := 6 * pass + 4

theorem quickTimes_order : CallOrder quickTimes where
  entry _ := Nat.le_succ _
  eop pass := Nat.add_le_add_left (show 1 ≤ 3 by decide) (6 * pass)
  terminal _ := Nat.le_succ _
  next pass := Nat.add_le_add_left (show 4 ≤ 6 by decide) (6 * pass)

theorem quickTimes_soon (wave : Nat → BusState) (params : InParams) :
    LooksSoon (fullSpeedRun wave) params quickTimes where
  eop pass := by
    show 6 * pass + 3 ≤ 6 * pass + 1 + eopLead .full
    rw [show eopLead .full = 6 from rfl]
    omega
  entryEop _ pass := by
    show 6 * (pass + 1) ≤ 6 * pass + 1 + eopLead .full
    rw [show eopLead .full = 6 from rfl]
    omega

theorem quickTimes_emptied (wave : Nat → BusState) : Emptied (fullSpeedRun wave) quickTimes :=
  fun pass => found_emptied armedReceiver_armed (fun _ => le_rfl) (quickTimes pass).drained

/-- A DATA0 packet is accepted as a whole, although its first four bytes are a packet of their own. -/
theorem receiveDataPacket_refines_twoZeroBytes :
    let outcome := receiveDataPacket Transmitter.fresh TxIrqs.prompt
      (passPolls (fullSpeedRun (punctual (wireStates twoZeroBytes))) quickTimes) rxPacketPollBudget
      (tokenPacket pidIn 1 1) (List.replicate 8 0xff) (Vector.replicate maxDecodedBytes 0) 8 pidData0 0
      true
    outcome.result = .ok (.data 2) ∧ outcome.payload = [0, 0] ++ List.replicate 6 0xff ∧
      outcome.tx.released = [tokenPacket pidIn 1 1, [sync, pidAck]] := by
  obtain ⟨-, result, copied, released⟩ := receiveDataPacket_refines
    (fullSpeedRun (punctual (wireStates twoZeroBytes))) armedReceiver_armed (fullSpeedRun_roomy _)
    (by decide) rfl (some twoZeroBytes) 700 ⟨100, _, punctual_timed (by decide), by decide⟩ quickTimes
    quickTimes_order (quickTimes_emptied _) rxPacketPollBudget (fun _ => by decide) Transmitter.fresh
    Transmitter.fresh_idle TxIrqs.prompt (tokenPacket pidIn 1 1) (List.replicate 8 0xff)
    (Vector.replicate maxDecodedBytes 0) 8 pidData0 0 rfl (by decide) (by decide)
    ⟨rfl, rfl, fun _ => ⟨rfl, rfl⟩⟩
    fun _ _ => Or.inr (quickTimes_soon _ _)
  exact ⟨result.trans (by decide +kernel), copied.trans (by decide +kernel),
    released.trans (by decide +kernel)⟩

end Response

end PioUsbHost.Rx
