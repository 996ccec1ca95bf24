/-
**The ACK discipline of the receive path, for any hardware whatsoever.**

Nothing is assumed about what the polling passes read. The invariant of the loop ties its flags
together (`LoopInv`): the ACK is preloaded exactly when an acknowledged transfer has seen a DATA
header, the transmitter then holds SYNC and ACK and nothing else, and an ackable packet has between 4
bytes and the limit its PID sets. Every exit settles the transmitter (`Settled`): nothing stays queued,
and an ACK has left exactly for the results that stand for a received DATA packet.

* `drainByte_inv`, `drainTerminalDataFifo_inv`: what one FIFO byte, and a terminal drain, preserve.
* `pass_spec`: what one pass of the loop preserves, or leaves behind.
* `receiveLoop_spec`: the same of the whole loop, by induction on the poll budget.
* `receiveDataPacket_ackDiscipline`: the discipline of the call.
-/

import PioUsbHost.Rx.Receive

namespace PioUsbHost.Rx

open PioUsbHost.Usb

/-! ### The transmitter around one ACK -/

namespace Transmitter

/-- Parked with nothing queued. -/
structure Idle (tx : Transmitter) : Prop where
  osr : tx.osr = none
  fifo : tx.fifo = []
  autopull : tx.autopull = true

/-- With the ACK queued. -/
def armed (tx : Transmitter) : Transmitter := (tx.push sync).push pidAck

variable {tx : Transmitter}

theorem queued_push (idle : tx.autopull = true) (byte : UInt8) :
    (tx.push byte).queued = tx.queued ++ [byte] := by
  obtain ⟨osr, fifo, autopull, pushed, released⟩ := tx
  simp only at idle
  subst idle
  cases osr with
  | some loaded => simp [push, refill, queued]
  | none => cases fifo <;> simp [push, refill, queued]

theorem armed_eq (idle : tx.Idle) :
    tx.armed = { tx with osr := some sync, fifo := [pidAck], pushed := tx.pushed ++ [sync, pidAck] } := by
  obtain ⟨osr, fifo, autopull, pushed, released⟩ := tx
  obtain ⟨rfl, rfl, rfl⟩ := idle
  simp [armed, push, refill]

/-- Discarding a preloaded ACK leaves the transmitter as it was, but for the record. -/
theorem discard_armed (idle : tx.Idle) :
    discardPreloadedAck tx.armed = { tx with pushed := tx.pushed ++ [sync, pidAck] } := by
  rw [armed_eq idle]
  obtain ⟨osr, fifo, autopull, pushed, released⟩ := tx
  obtain ⟨rfl, rfl, rfl⟩ := idle
  rfl

/-- Releasing a preloaded ACK sends it, alone. -/
theorem clearIrq0_armed (idle : tx.Idle) :
    tx.armed.clearIrq0 = { tx with pushed := tx.pushed ++ [sync, pidAck]
                                   released := tx.released ++ [[sync, pidAck]] } := by
  rw [armed_eq idle]
  obtain ⟨osr, fifo, autopull, pushed, released⟩ := tx
  obtain ⟨rfl, rfl, rfl⟩ := idle
  rfl

end Transmitter

/-! ### The drains -/

/-- The receive-side variables agree with each other. -/
structure DrainInv (params : InParams) (drain : InDrain) : Prop where
  /-- Before the PID nothing is decided. -/
  early : drain.len < 2 → (drain.headerFlags = 0 ∨ drain.headerFlags = 1) ∧
    drain.ackWireLenLimit = 0 ∧ drain.ackable = false
  /-- After it, the limit is set for DATA headers only, and by the PID. -/
  limit : 2 ≤ drain.len → drain.ackWireLenLimit = if dataHeader drain.headerFlags then
    (if drain.headerFlags &&& 8 = 0 then params.payloadLen else params.maxPayloadLen) + 4 else 0
  ackable : drain.ackable = true → 4 ≤ drain.len ∧ drain.len ≤ drain.ackWireLenLimit

theorem pidFlags_expected {flags : UInt8} (early : flags = 0 ∨ flags = 1) (expectedPid byte : UInt8) :
    pidFlags expectedPid byte flags &&& 8 = 0 ↔ byte ≠ expectedPid := by
  unfold pidFlags
  by_cases same : byte = expectedPid
  · rcases early with rfl | rfl <;> cases pidComplementValid byte <;> cases isDataPid byte <;>
      simp [same] <;> decide
  · rcases early with rfl | rfl <;> cases pidComplementValid byte <;> cases isDataPid byte <;>
      simp [same] <;> decide

namespace DrainInv

variable {params : InParams} {drain : InDrain}

/-- A DATA header has been read in full. -/
theorem two_le_of_dataHeader (inv : DrainInv params drain)
    (header : dataHeader drain.headerFlags = true) : 2 ≤ drain.len := by
  by_contra short
  rcases (inv.early (by omega)).1 with flags | flags <;> rw [flags] at header <;>
    exact absurd header (by decide)

/-- An ackable packet has a DATA header, and its length respects the limit its PID sets. -/
theorem of_ackable (inv : DrainInv params drain) (ackable : drain.ackable = true) :
    dataHeader drain.headerFlags = true ∧ 4 ≤ drain.len ∧
      drain.len ≤ (if drain.headerFlags &&& 8 = 0 then params.payloadLen
        else params.maxPayloadLen) + 4 := by
  obtain ⟨long, short⟩ := inv.ackable ackable
  have limit := inv.limit (by omega)
  by_cases header : dataHeader drain.headerFlags = true
  · rw [if_pos header] at limit
    exact ⟨header, long, limit ▸ short⟩
  · rw [if_neg header] at limit
    omega

end DrainInv

theorem drainByte_len (params : InParams) (drain : InDrain) (byte : UInt8) :
    (drainByte params drain byte).len = drain.len + 1 := by
  unfold drainByte
  split
  · rfl
  · split <;> rfl

/-- The header is settled after two bytes. -/
theorem drainByte_headerFlags {params : InParams} {drain : InDrain} (long : 2 ≤ drain.len)
    (byte : UInt8) : (drainByte params drain byte).headerFlags = drain.headerFlags := by
  unfold drainByte
  rw [if_neg (by omega), if_neg (by omega)]

/-- **One byte of the drain** keeps the variables in agreement. -/
theorem drainByte_inv {params : InParams} {drain : InDrain} (inv : DrainInv params drain)
    (byte : UInt8) : DrainInv params (drainByte params drain byte) := by
  by_cases first : drain.len = 0
  · obtain ⟨-, limit, ackable⟩ := inv.early (by omega)
    unfold drainByte
    rw [if_pos first]
    refine ⟨fun _ => ⟨?_, limit, ackable⟩, fun long => ?_, fun acked => ?_⟩
    · cases byte == sync
      · exact Or.inl rfl
      · exact Or.inr rfl
    · simp only at long; omega
    · simp only [ackable, Bool.false_eq_true] at acked
  by_cases second : drain.len < 2
  · obtain ⟨flags, limit, ackable⟩ := inv.early second
    unfold drainByte
    rw [if_neg first, if_pos second]
    refine ⟨fun short => ?_, fun _ => ?_, fun acked => ?_⟩
    · simp only at short; omega
    · simp only [limit, wireLenLimit, beq_iff_eq, pidFlags_expected flags]
      by_cases same : byte = params.expectedPid <;> simp [same]
    · simp only [ackable, Bool.false_eq_true] at acked
  · unfold drainByte
    rw [if_neg first, if_neg second]
    refine ⟨fun short => ?_, fun _ => inv.limit (by omega), fun acked => ?_⟩
    · simp only at short; omega
    · simp only [Bool.and_eq_true, decide_eq_true_eq] at acked
      exact acked.1

theorem drainInFifo_inv {params : InParams} {drain : InDrain} (inv : DrainInv params drain)
    (bytes : List UInt8) : DrainInv params (drainInFifo params drain bytes) := by
  induction bytes generalizing drain with
  | nil => exact inv
  | cons byte rest ih => exact ih (drainByte_inv inv byte)

theorem drainInFifo_headerFlags {params : InParams} {drain : InDrain} (long : 2 ≤ drain.len)
    (bytes : List UInt8) :
    (drainInFifo params drain bytes).headerFlags = drain.headerFlags := by
  induction bytes generalizing drain with
  | nil => rfl
  | cons byte rest ih =>
    exact (ih (by rw [drainByte_len]; omega)).trans (drainByte_headerFlags long byte)

/-- A terminal drain touches neither the header nor the limit, and only adds to the length. -/
theorem foldl_drainTerminalByte (drain : InDrain) (bytes : List UInt8) :
    (bytes.foldl drainTerminalByte drain).headerFlags = drain.headerFlags ∧
      (bytes.foldl drainTerminalByte drain).ackWireLenLimit = drain.ackWireLenLimit ∧
      (bytes.foldl drainTerminalByte drain).len = drain.len + bytes.length := by
  induction bytes generalizing drain with
  | nil => exact ⟨rfl, rfl, rfl⟩
  | cons byte rest ih =>
    obtain ⟨flags, limit, len⟩ := ih (drainTerminalByte drain byte)
    refine ⟨flags, limit, len.trans ?_⟩
    simp only [drainTerminalByte, List.length_cons]
    omega

/-- **A terminal drain** of a packet whose header is complete keeps the variables in agreement. -/
theorem drainTerminalDataFifo_inv {params : InParams} {drain : InDrain} (inv : DrainInv params drain)
    (long : 2 ≤ drain.len) (bytes : List UInt8) :
    DrainInv params (drainTerminalDataFifo drain bytes) := by
  obtain ⟨flags, limit, len⟩ := foldl_drainTerminalByte drain bytes
  refine ⟨fun short => ?_, fun _ => ?_, fun acked => ?_⟩
  · simp only [drainTerminalDataFifo, len] at short; omega
  · simp only [drainTerminalDataFifo, flags, limit]
    exact inv.limit long
  · simp only [drainTerminalDataFifo, Bool.and_eq_true, decide_eq_true_eq] at acked
    exact acked.1

/-! ### The loop invariant -/

/-- What holds of the loop variables between any two statements before the ACK is released, over a
transmitter that was idle as `base` when the loop began. -/
structure Parked (params : InParams) (base : Transmitter) (loop : InLoop) : Prop where
  drain : DrainInv params loop.drain
  notReleased : loop.ackReleased = false
  preloaded : loop.ackPreloaded = true →
    params.acknowledge = true ∧ dataHeader loop.drain.headerFlags = true
  tx : loop.tx = if loop.ackPreloaded then base.armed else base

/-- **The loop invariant**: the ACK is preloaded as soon as it may be. -/
structure LoopInv (params : InParams) (base : Transmitter) (loop : InLoop) : Prop extends
    Parked params base loop where
  armed : params.acknowledge = true → dataHeader loop.drain.headerFlags = true →
    loop.ackPreloaded = true

/-- How the transmitter is left: nothing queued, and the ACK sent or not. -/
structure Settled (base tx : Transmitter) (acknowledge sent : Bool) : Prop where
  idle : tx.Idle
  released : tx.released = base.released ++ if sent then [[sync, pidAck]] else []
  silent : acknowledge = false → tx.pushed = base.pushed

variable {params : InParams} {base : Transmitter} {loop : InLoop}

theorem settled_base (idle : base.Idle) (acknowledge : Bool) : Settled base base acknowledge false :=
  ⟨idle, by simp, fun _ => rfl⟩

theorem settled_discarded (idle : base.Idle) :
    Settled base (discardPreloadedAck base.armed) true false := by
  rw [Transmitter.discard_armed idle]
  exact ⟨⟨idle.osr, idle.fifo, idle.autopull⟩, by simp, fun off => (nomatch off)⟩

theorem settled_sent (idle : base.Idle) : Settled base base.armed.clearIrq0 true true := by
  rw [Transmitter.clearIrq0_armed idle]
  exact ⟨⟨idle.osr, idle.fifo, idle.autopull⟩, rfl, fun off => (nomatch off)⟩

theorem Parked.drained (parked : Parked params base loop) {drain : InDrain}
    (inv : DrainInv params drain)
    (header : dataHeader loop.drain.headerFlags = true →
      dataHeader drain.headerFlags = true) : Parked params base { loop with drain } :=
  ⟨inv, parked.notReleased, fun preloaded =>
    ⟨(parked.preloaded preloaded).1, header (parked.preloaded preloaded).2⟩, parked.tx⟩

/-- Draining the FIFO leaves the loop parked. -/
theorem Parked.drainInFifo (parked : Parked params base loop) (bytes : List UInt8) :
    Parked params base { loop with drain := drainInFifo params loop.drain bytes } :=
  parked.drained (drainInFifo_inv parked.drain bytes) fun header => by
    rwa [drainInFifo_headerFlags (parked.drain.two_le_of_dataHeader header)]

/-- **Preloading** restores the invariant. -/
theorem Parked.preloadAck (parked : Parked params base loop) :
    LoopInv params base (preloadAck params loop) := by
  unfold Rx.preloadAck
  split
  · rename_i due
    simp only [Bool.and_eq_true, Bool.not_eq_true'] at due
    refine ⟨⟨parked.drain, parked.notReleased, fun _ => ⟨due.1.1, due.2⟩, ?_⟩, fun _ _ => rfl⟩
    have tx := parked.tx
    rw [due.1.2, if_neg Bool.false_ne_true] at tx
    simp only [if_true, tx]
    rfl
  · rename_i notDue
    refine ⟨parked, fun acknowledge header => ?_⟩
    by_contra absent
    simp [acknowledge, header, absent] at notDue

/-- The flag of the start edge is no part of the invariant. -/
theorem LoopInv.withStart (inv : LoopInv params base loop) (sawStart : Bool) :
    LoopInv params base { loop with sawStart } :=
  ⟨⟨inv.drain, inv.notReleased, inv.preloaded, inv.tx⟩, inv.armed⟩

/-- **The terminal drain** leaves the loop parked. -/
theorem LoopInv.terminalDrain (inv : LoopInv params base loop) (bytes : List UInt8) :
    Parked params base (terminalDrain params loop bytes) := by
  unfold Rx.terminalDrain
  split
  · exact inv.toParked
  split
  · rename_i preloaded
    have long := inv.drain.two_le_of_dataHeader (inv.preloaded preloaded).2
    refine inv.toParked.drained (drainTerminalDataFifo_inv inv.drain long bytes) fun header => ?_
    simpa only [drainTerminalDataFifo, (foldl_drainTerminalByte loop.drain bytes).1] using header
  · exact inv.toParked.drainInFifo bytes

/-- Discarding leaves the transmitter settled. -/
theorem Parked.discard (parked : Parked params base loop) (idle : base.Idle) :
    Settled base (discardIfPreloaded loop).tx params.acknowledge false := by
  unfold discardIfPreloaded
  by_cases preloaded : loop.ackPreloaded = true
  · rw [if_pos preloaded, (parked.preloaded preloaded).1]
    simp only [parked.tx, preloaded, if_true]
    exact settled_discarded idle
  · rw [if_neg preloaded, parked.tx, if_neg preloaded]
    exact settled_base idle _

/-- An armed shortcut has the ACK behind it. -/
theorem LoopInv.shortcut (inv : LoopInv params base loop)
    (armed : shortcutArmed params loop = true) :
    params.acknowledge = true ∧ loop.drain.ackable = true ∧ loop.tx = base.armed := by
  simp only [shortcutArmed, Bool.and_eq_true] at armed
  have preloaded := inv.armed armed.1.1 (inv.drain.of_ackable armed.2).1
  refine ⟨armed.1.1, armed.2, ?_⟩
  rw [inv.tx, if_pos preloaded]

/-! ### One pass -/

/-- Whether a result stands for a DATA packet the host must have acknowledged. -/
def acked : InReceiveResult → Bool
  | .data _ => true
  | .unexpectedToggle _ => true
  | _ => false

/-- What the `break` leaves: the ACK is still parked, or it has been released for an ackable
packet. -/
inductive Broken (params : InParams) (base : Transmitter) (loop : InLoop) : Prop where
  | parked (inv : LoopInv params base loop)
  | released (drain : DrainInv params loop.drain) (released : loop.ackReleased = true)
      (acknowledge : params.acknowledge = true) (ackable : loop.drain.ackable = true)
      (tx : loop.tx = base.armed.clearIrq0)

/-- What a `return` out of the loop leaves. -/
structure Returned (params : InParams) (base : Transmitter) (result : InReceiveResult)
    (loop : InLoop) : Prop where
  unacked : acked result = false
  settled : Settled base loop.tx params.acknowledge false

/-- The guarantee of one pass. -/
def PassSpec (params : InParams) (base : Transmitter) : Pass → Prop
  | .again loop => LoopInv params base loop
  | .returned result loop => Returned params base result loop
  | .broke loop => Broken params base loop

theorem releaseAtEop_spec (inv : LoopInv params base loop) :
    Broken params base (releaseAtEop params loop) := by
  unfold releaseAtEop
  split
  · rename_i due
    rw [Bool.and_eq_true] at due
    obtain ⟨acknowledge, ackable, tx⟩ := inv.shortcut due.1
    exact .released inv.drain rfl acknowledge ackable (by simp only [tx])
  · exact .parked inv

theorem passAfterDrain_spec (idle : base.Idle) (parked : Parked params base loop) (poll : RxPoll) :
    PassSpec params base (passAfterDrain params poll loop) := by
  unfold passAfterDrain
  have inv := (parked.preloadAck).withStart
    (loop.sawStart || decide (loop.drain.len ≠ 0) || poll.start)
  split
  · exact ⟨rfl, inv.toParked.discard idle⟩
  split
  · exact releaseAtEop_spec (inv.terminalDrain poll.terminal).preloadAck
  · exact inv

/-- **One pass of the loop.** -/
theorem pass_spec (idle : base.Idle) (inv : LoopInv params base loop) (poll : RxPoll) :
    PassSpec params base (pass params poll loop) := by
  unfold pass
  split
  · rename_i failed
    rw [Bool.and_eq_true] at failed
    obtain ⟨acknowledge, -, tx⟩ := inv.shortcut failed.1
    refine ⟨rfl, ?_⟩
    simp only [tx, acknowledge]
    exact settled_discarded idle
  split
  · rename_i ended
    rw [Bool.and_eq_true] at ended
    obtain ⟨acknowledge, ackable, tx⟩ := inv.shortcut ended.1
    exact .released inv.drain rfl acknowledge ackable (by simp only [tx])
  · exact passAfterDrain_spec idle (inv.toParked.drainInFifo poll.drained) poll

/-! ### The whole loop -/

/-- The guarantee of the loop. -/
def LoopSpec (params : InParams) (base : Transmitter) : LoopExit → Prop
  | .returned result loop => Returned params base result loop
  | .broke loop => Broken params base loop

theorem acked_budgetSpent (loop : InLoop) : acked (budgetSpent loop) = false := by
  unfold budgetSpent
  split <;> rfl

/-- **The whole loop**, whatever its passes read and however many of them the budget allows. -/
theorem receiveLoop_spec (idle : base.Idle) (polls : Nat → RxPoll) (budget index : Nat)
    (inv : LoopInv params base loop) :
    LoopSpec params base (receiveLoop params polls budget index loop) := by
  induction budget generalizing index loop with
  | zero =>
    have step := pass_spec idle inv (polls index)
    unfold receiveLoop
    cases passed : pass params (polls index) loop with
    | returned result final => rw [passed] at step; exact step
    | broke final => rw [passed] at step; exact step
    | again next =>
      rw [passed] at step
      exact ⟨acked_budgetSpent next, (LoopInv.toParked step).discard idle⟩
  | succ budget ih =>
    have step := pass_spec idle inv (polls index)
    unfold receiveLoop
    cases passed : pass params (polls index) loop with
    | returned result final => rw [passed] at step; exact step
    | broke final => rw [passed] at step; exact step
    | again next => rw [passed] at step; exact ih (index + 1) step

theorem initialLoop_inv (params : InParams) (base : Transmitter) (raw : RawBuffer) :
    LoopInv params base (initialLoop raw base) := by
  refine ⟨⟨⟨fun _ => ⟨Or.inl rfl, rfl, rfl⟩, fun long => ?_, fun acked => (nomatch acked)⟩, rfl,
    fun preloaded => (nomatch preloaded), rfl⟩, fun _ header => ?_⟩
  · simp only [initialLoop, initialDrain] at long; omega
  · exact absurd header (by simp only [initialLoop, initialDrain]; decide)

/-! ### After the loop -/

/-- What the call guarantees of a result, its wire length and the transmitter. -/
structure AckDiscipline (base : Transmitter) (maxPayloadLen payloadLen : Nat) (acknowledge : Bool)
    (outcome : ReceiveOutcome) (result : InReceiveResult) : Prop where
  settled : Settled base outcome.tx acknowledge (acknowledge && acked result)
  data : ∀ len, result = .data len → 4 ≤ outcome.wireLen ∧ outcome.wireLen ≤ maxDecodedBytes ∧
    len.toNat = outcome.wireLen - 4 ∧ len.toNat ≤ maxPayloadLen ∧ len.toNat ≤ payloadLen
  unexpectedToggle : ∀ len, result = .unexpectedToggle len → 4 ≤ outcome.wireLen ∧
    outcome.wireLen ≤ maxDecodedBytes ∧ len.toNat = outcome.wireLen - 4 ∧ len.toNat ≤ payloadLen

theorem acked_classify (len : Nat) (headerFlags pid : UInt8) :
    acked (classifyUnacknowledgedInPacket len headerFlags pid) = false := by
  unfold classifyUnacknowledgedInPacket
  split
  · split
    · rfl
    · split <;> rfl
  · rfl

/-- Results other than a DATA packet say nothing about lengths. -/
theorem ackDiscipline_of_unacked {outcome : ReceiveOutcome} {result : InReceiveResult}
    {maxPayloadLen payloadLen : Nat} {acknowledge : Bool} (unacked : acked result = false)
    (settled : Settled base outcome.tx acknowledge false) :
    AckDiscipline base maxPayloadLen payloadLen acknowledge outcome result := by
  refine ⟨?_, fun len same => ?_, fun len same => ?_⟩
  · rw [unacked, Bool.and_false]; exact settled
  · subst same; cases unacked
  · subst same; cases unacked

/-- The transmitter after the ACK of an ackable packet, or after none was due. -/
theorem settled_of_ackable (idle : base.Idle) (broken : Broken params base loop)
    (ackable : loop.drain.ackable = true) :
    DrainInv params loop.drain ∧
      Settled base (if params.acknowledge && !loop.ackReleased then loop.tx.clearIrq0 else loop.tx)
        params.acknowledge params.acknowledge := by
  cases broken with
  | parked inv =>
    refine ⟨inv.drain, ?_⟩
    cases acknowledge : params.acknowledge with
    | false =>
      have bare : loop.ackPreloaded = false := by
        by_contra preloaded
        rw [Bool.not_eq_false] at preloaded
        exact absurd (inv.preloaded preloaded).1 (by simp [acknowledge])
      simp only [Bool.false_and, Bool.false_eq_true, if_false, inv.tx, bare]
      exact settled_base idle _
    | true =>
      have preloaded := inv.armed acknowledge (inv.drain.of_ackable ackable).1
      simp only [inv.notReleased, Bool.not_false, Bool.and_self, if_true, inv.tx, preloaded]
      exact settled_sent idle
  | released drain released acknowledge _ tx =>
    refine ⟨drain, ?_⟩
    simp only [released, acknowledge, Bool.not_true, Bool.and_false, Bool.false_eq_true, if_false, tx]
    exact settled_sent idle

/-- The transmitter after a packet that is not ackable. -/
theorem settled_of_unackable (idle : base.Idle) (broken : Broken params base loop)
    (unackable : loop.drain.ackable = false) :
    Settled base (if loop.ackPreloaded && !loop.ackReleased then discardPreloadedAck loop.tx
      else loop.tx) params.acknowledge false := by
  cases broken with
  | parked inv =>
    have discarded := inv.toParked.discard idle
    unfold discardIfPreloaded at discarded
    rw [inv.notReleased, Bool.not_false, Bool.and_true]
    split at discarded <;> simp_all
  | released _ _ _ ackable _ => rw [ackable] at unackable; cases unackable

/-- **After the `break`.** -/
theorem finishReceive_spec (idle : base.Idle) (broken : Broken params base loop)
    (capacity : params.maxPayloadLen ≤ params.payloadLen) (fits : params.payloadLen ≤ 100)
    (irqs : TxIrqs) (payload : List UInt8) {result : InReceiveResult}
    (ok : (finishReceive params irqs payload loop).result = .ok result) :
    AckDiscipline base params.maxPayloadLen params.payloadLen params.acknowledge
      (finishReceive params irqs payload loop) result := by
  unfold finishReceive at ok ⊢
  by_cases ackable : loop.drain.ackable = true
  · obtain ⟨drain, settled⟩ := settled_of_ackable idle broken ackable
    obtain ⟨-, long, short⟩ := drain.of_ackable ackable
    have truncation : loop.drain.len - 4 < 2 ^ 8 := by
      split at short <;> omega
    have lenBack : (UInt8.ofNat (loop.drain.len - 4)).toNat = loop.drain.len - 4 := by
      rw [UInt8.toNat_ofNat']; exact Nat.mod_eq_of_lt truncation
    simp only [ackable, Bool.not_true, Bool.false_eq_true, if_false] at ok ⊢
    split at ok
    · cases ok
    rename_i waited
    rw [if_neg waited]
    split at ok
    · rename_i other
      cases ok
      rw [if_pos other] at short ⊢
      refine ⟨?_, fun len same => (nomatch same), fun len same => ?_⟩
      · rw [show acked (.unexpectedToggle _) = true from rfl, Bool.and_true]; exact settled
      · cases same
        exact ⟨long, by simp only [maxDecodedBytes]; omega, lenBack, by rw [lenBack]; omega⟩
    · rename_i expected
      cases ok
      rw [if_neg expected] at short ⊢
      refine ⟨?_, fun len same => ?_, fun len same => (nomatch same)⟩
      · rw [show acked (.data _) = true from rfl, Bool.and_true]; exact settled
      · cases same
        exact ⟨long, by simp only [maxDecodedBytes]; omega, lenBack, by rw [lenBack]; omega,
          by rw [lenBack]; omega⟩
  · rw [Bool.not_eq_true] at ackable
    simp only [ackable, Bool.not_false, if_true] at ok ⊢
    cases ok
    exact ackDiscipline_of_unacked (acked_classify _ _ _)
      (settled_of_unackable idle broken ackable)

/-! ### The whole call -/

namespace Transmitter

/-- The transmitter once the token has left it. -/
def afterToken (tx : Transmitter) (token : List UInt8) : Transmitter :=
  { tx with pushed := tx.pushed ++ token, released := tx.released ++ [token] }

theorem pushAll_spec {tx : Transmitter} (autopull : tx.autopull = true) (bytes : List UInt8) :
    (tx.pushAll bytes).autopull = true ∧ (tx.pushAll bytes).queued = tx.queued ++ bytes ∧
      (tx.pushAll bytes).pushed = tx.pushed ++ bytes ∧
      (tx.pushAll bytes).released = tx.released := by
  induction bytes generalizing tx with
  | nil => simp [pushAll, autopull]
  | cons byte rest ih =>
    have pushed : (tx.push byte).autopull = true ∧ (tx.push byte).pushed = tx.pushed ++ [byte] ∧
        (tx.push byte).released = tx.released := by
      obtain ⟨osr, fifo, auto, log, released⟩ := tx
      simp only at autopull
      subst autopull
      cases osr with
      | some loaded => simp [push, refill]
      | none => cases fifo <;> simp [push, refill]
    obtain ⟨auto, queued, log, released⟩ := ih pushed.1
    refine ⟨auto, ?_, ?_, released.trans pushed.2.2⟩
    · rw [show tx.pushAll (byte :: rest) = (tx.push byte).pushAll rest from rfl, queued,
        queued_push autopull, List.append_assoc, List.singleton_append]
    · rw [show tx.pushAll (byte :: rest) = (tx.push byte).pushAll rest from rfl, log, pushed.2.1,
        List.append_assoc, List.singleton_append]

/-- An idle transmitter sends the token, alone, and is idle again. -/
theorem clearIrq0_pushAll {tx : Transmitter} (idle : tx.Idle) (token : List UInt8) :
    (tx.pushAll token).clearIrq0 = tx.afterToken token := by
  obtain ⟨auto, queued, log, released⟩ := pushAll_spec idle.autopull token
  have empty : tx.queued = [] := by simp [Transmitter.queued, idle.osr, idle.fifo]
  rw [empty, List.nil_append] at queued
  obtain ⟨osr, fifo, autopull, pushed, sent⟩ := tx
  obtain ⟨rfl, rfl, rfl⟩ := idle
  simp only [clearIrq0, afterToken, auto, queued, log, released]

theorem afterToken_idle {tx : Transmitter} (idle : tx.Idle) (token : List UInt8) :
    (tx.afterToken token).Idle := ⟨idle.osr, idle.fifo, idle.autopull⟩

/-- The parked transmitter before its first packet. -/
def fresh : Transmitter :=
  { osr := none, fifo := [], autopull := true, pushed := [], released := [] }

theorem fresh_idle : fresh.Idle := ⟨rfl, rfl, rfl⟩

end Transmitter

/-- Every wait on the transmitter ends in time. -/
def TxIrqs.prompt : TxIrqs :=
  { tokenEop := true, tokenDone := true, ackEop := true, ackDone := true }

/-- **How a call ends that returns a result**: out of the loop, without a DATA packet, or behind the
`break`. -/
theorem receiveDataPacket_ends {tx : Transmitter} (idle : tx.Idle) (irqs : TxIrqs)
    (polls : Nat → RxPoll) (budget : Nat) (token payload : List UInt8) (raw : RawBuffer)
    (maxPayloadLen : Nat) (expectedPid : UInt8) (ackEopGuardCycles : UInt32) (acknowledge : Bool)
    {result : InReceiveResult}
    (ok : (receiveDataPacket tx irqs polls budget token payload raw maxPayloadLen expectedPid
      ackEopGuardCycles acknowledge).result = .ok result) :
    let params : InParams :=
      ⟨payload.length, maxPayloadLen, expectedPid, ackEopGuardCycles, acknowledge⟩
    let outcome := receiveDataPacket tx irqs polls budget token payload raw maxPayloadLen expectedPid
      ackEopGuardCycles acknowledge
    (acked result = false ∧ Settled (tx.afterToken token) outcome.tx acknowledge false) ∨
      ∃ loop, Broken params (tx.afterToken token) loop ∧
        outcome = finishReceive params irqs payload loop := by
  unfold receiveDataPacket at ok ⊢
  rw [Transmitter.clearIrq0_pushAll idle] at ok ⊢
  have spec := receiveLoop_spec (Transmitter.afterToken_idle idle token) polls budget 0
    (initialLoop_inv ⟨payload.length, maxPayloadLen, expectedPid, ackEopGuardCycles, acknowledge⟩
      (tx.afterToken token) raw)
  simp only at ok ⊢
  split at ok
  · cases ok
  rename_i waited
  rw [if_neg waited]
  split at ok
  · rename_i ended loop exit
    rw [exit] at spec
    cases ok
    exact .inl ⟨spec.unacked, spec.settled⟩
  · rename_i loop exit
    rw [exit] at spec
    exact .inr ⟨loop, spec, rfl⟩

/-- A packet that the call returns is no longer than asked for. -/
theorem receiveDataPacket_data_le {tx : Transmitter} (idle : tx.Idle) {irqs : TxIrqs}
    {polls : Nat → RxPoll} {budget : Nat} {token payload : List UInt8} {raw : RawBuffer}
    {maxPayloadLen : Nat} {expectedPid : UInt8} {ackEopGuardCycles : UInt32} {acknowledge : Bool}
    (capacity : maxPayloadLen ≤ payload.length) (fits : payload.length ≤ 100) {len : UInt8}
    (ok : (receiveDataPacket tx irqs polls budget token payload raw maxPayloadLen expectedPid
      ackEopGuardCycles acknowledge).result = .ok (.data len)) : len.toNat ≤ maxPayloadLen := by
  rcases receiveDataPacket_ends idle irqs polls budget token payload raw maxPayloadLen expectedPid
    ackEopGuardCycles acknowledge ok with ⟨unacked, -⟩ | ⟨loop, broken, same⟩
  · cases unacked
  · rw [same] at ok
    exact ((finishReceive_spec (Transmitter.afterToken_idle idle token) broken capacity fits irqs
      payload ok).data len rfl).2.2.2.1

/-- The transmitter after a call that returns a result. -/
theorem receiveDataPacket_settled {tx : Transmitter} (idle : tx.Idle) {irqs : TxIrqs}
    {polls : Nat → RxPoll} {budget : Nat} {token payload : List UInt8} {raw : RawBuffer}
    {maxPayloadLen : Nat} {expectedPid : UInt8} {ackEopGuardCycles : UInt32} {acknowledge : Bool}
    (capacity : maxPayloadLen ≤ payload.length) (fits : payload.length ≤ 100)
    {result : InReceiveResult}
    (ok : (receiveDataPacket tx irqs polls budget token payload raw maxPayloadLen expectedPid
      ackEopGuardCycles acknowledge).result = .ok result) :
    Settled (tx.afterToken token) (receiveDataPacket tx irqs polls budget token payload raw
      maxPayloadLen expectedPid ackEopGuardCycles acknowledge).tx acknowledge
      (acknowledge && acked result) := by
  rcases receiveDataPacket_ends idle irqs polls budget token payload raw maxPayloadLen expectedPid
    ackEopGuardCycles acknowledge ok with ⟨unacked, settled⟩ | ⟨loop, broken, same⟩
  · rw [unacked, Bool.and_false]
    exact settled
  · rw [same] at ok ⊢
    exact (finishReceive_spec (Transmitter.afterToken_idle idle token) broken capacity fits irqs
      payload ok).settled

theorem length_copyPayload (raw : RawBuffer) (payload : List UInt8) (count : Nat) :
    (copyPayload raw payload count).length = payload.length := by
  unfold copyPayload
  induction count with
  | zero => rfl
  | succ count ih =>
    rw [List.range_succ, List.foldl_append, List.foldl_cons, List.foldl_nil, List.length_set, ih]

theorem length_finishReceive (params : InParams) (irqs : TxIrqs) (payload : List UInt8)
    (loop : InLoop) : (finishReceive params irqs payload loop).payload.length = payload.length := by
  simp only [finishReceive]
  split
  · rfl
  · split
    · rfl
    · split
      · rfl
      · exact length_copyPayload _ _ _

/-- The call writes into its payload slice, and never beyond it. -/
theorem length_receiveDataPacket (tx : Transmitter) (irqs : TxIrqs) (polls : Nat → RxPoll)
    (budget : Nat) (token payload : List UInt8) (raw : RawBuffer) (maxPayloadLen : Nat)
    (expectedPid : UInt8) (ackEopGuardCycles : UInt32) (acknowledge : Bool) :
    (receiveDataPacket tx irqs polls budget token payload raw maxPayloadLen expectedPid
      ackEopGuardCycles acknowledge).payload.length = payload.length := by
  simp only [receiveDataPacket]
  split
  · rfl
  · split
    · rfl
    · exact length_finishReceive _ _ _ _

/-- **The ACK discipline of the receive path.** Whatever the hardware shows to the CPU, a call that
returns `Ok` has released the parked ACK exactly once for a received DATA packet and never otherwise,
leaves nothing queued, queues no byte at all when it is not to acknowledge, and reports lengths that
keep the byte copy and the caller's slice in bounds. -/
theorem receiveDataPacket_ackDiscipline (tx : Transmitter) (idle : tx.Idle) (irqs : TxIrqs)
    (polls : Nat → RxPoll) (budget : Nat) (token payload : List UInt8) (raw : RawBuffer)
    (maxPayloadLen : Nat) (expectedPid : UInt8) (ackEopGuardCycles : UInt32) (acknowledge : Bool)
    (capacity : maxPayloadLen ≤ payload.length) (fits : payload.length ≤ 100)
    (result : InReceiveResult)
    (ok : (receiveDataPacket tx irqs polls budget token payload raw maxPayloadLen expectedPid
      ackEopGuardCycles acknowledge).result = .ok result) :
    AckDiscipline (tx.afterToken token) maxPayloadLen payload.length acknowledge
      (receiveDataPacket tx irqs polls budget token payload raw maxPayloadLen expectedPid
        ackEopGuardCycles acknowledge) result := by
  rcases receiveDataPacket_ends idle irqs polls budget token payload raw maxPayloadLen expectedPid
    ackEopGuardCycles acknowledge ok with ⟨unacked, settled⟩ | ⟨loop, broken, same⟩
  · exact ackDiscipline_of_unacked unacked settled
  · rw [same] at ok ⊢
    exact finishReceive_spec (Transmitter.afterToken_idle idle token) broken capacity fits irqs
      payload ok

/-- The passes over a DATA0 packet with a payload of two zero bytes that arrives whole. -/
def wholePacketPoll : RxPoll :=
  { entryError := false, entryEop := false, drained := [sync, pidData0, 0, 0, 0xfe, 0x4f]
    start := true, error := false, eop := true, terminal := [] }

/-- A DATA0 packet of two bytes is acknowledged once. -/
theorem receiveDataPacket_ackDiscipline_twoBytes :
    AckDiscipline (Transmitter.fresh.afterToken (tokenPacket pidIn 1 1)) 64 64 true
      (receiveDataPacket Transmitter.fresh TxIrqs.prompt (fun _ => wholePacketPoll)
        rxPacketPollBudget (tokenPacket pidIn 1 1) (List.replicate 64 7)
        (Vector.replicate maxDecodedBytes 0) 64 pidData0 0 true) (.data 2) :=
  receiveDataPacket_ackDiscipline Transmitter.fresh Transmitter.fresh_idle TxIrqs.prompt
    (fun _ => wholePacketPoll) rxPacketPollBudget (tokenPacket pidIn 1 1) (List.replicate 64 7)
    (Vector.replicate maxDecodedBytes 0) 64 pidData0 0 true (by decide) (by decide) (.data 2)
    (by decide +kernel)

end PioUsbHost.Rx
