/-
**On which bytes the receive path decides.**

A `Schedule` interleaves the decoder's pushes with the CPU's reads: the EOP flag becomes visible once
the last byte is in the FIFO, and not before. Under any schedule the routine decides as the plain
parser does, but on the bytes it has pulled when it stops looking (`verdictBytes`). These are the
whole packet unless a proper prefix was ackable by then.

* `pass_again`, `pass_last`: what a pass does to the bytes pulled, before EOP and at EOP.
* `receiveLoop_schedule`: the loop, by induction on its budget, ends on `verdictBytes`.
* `finishReceive_plain`: the end of the routine decides as the plain parser on the bytes pulled.
* `receiveDataPacket_decidesAsPlain_iff`: when the call decides as the plain parser on the packet.
-/

import PioUsbHost.Rx.Streaming

namespace PioUsbHost.Rx

open PioUsbHost.Usb

/-! ### Schedules -/

/-- An interleaving of the decoder's pushes with the accesses of the CPU. Access `4 * pass` is a
pass's first look at the flags, `4 * pass + 1` the end of its drain, `4 * pass + 2` its look at the
EOP flag, `4 * pass + 3` the end of a terminal drain. -/
structure Schedule (wire : List UInt8) where
  /-- How many bytes the decoder has pushed at an access. -/
  pushed : Nat → Nat
  pushed_mono : Monotone pushed
  pushed_le : ∀ access, pushed access ≤ wire.length
  /-- Whether the EOP flag is visible at an access. -/
  eop : Nat → Bool
  eop_sticky : ∀ {early late : Nat}, early ≤ late → eop early = true → eop late = true
  /-- EOP becomes visible only after the last byte is in the FIFO. -/
  eop_last : ∀ {access : Nat}, eop access = true → pushed access = wire.length
  start : Nat → Bool

namespace Schedule

variable {wire : List UInt8} (schedule : Schedule wire)

/-- How many bytes the passes before `pass` have pulled. -/
def pulled : Nat → Nat
  | 0 => 0
  | pass + 1 => schedule.pushed (4 * pass + 1)

/-- What the passes of the loop read. The decoder-error flag stays clear. -/
def polls (pass : Nat) : RxPoll where
  entryError := false
  entryEop := schedule.eop (4 * pass)
  drained := (wire.take (schedule.pushed (4 * pass + 1))).drop (schedule.pulled pass)
  start := schedule.start pass
  error := false
  eop := schedule.eop (4 * pass + 2)
  terminal := (wire.take (schedule.pushed (4 * pass + 3))).drop (schedule.pushed (4 * pass + 1))

/-- `pass` is the first to see EOP after its drain. -/
structure EndsAt (pass : Nat) : Prop where
  seen : schedule.eop (4 * pass + 2) = true
  first : ∀ early < pass, schedule.eop (4 * early + 2) = false

/-- The bytes pulled before a pass. -/
def before (pass : Nat) : List UInt8 := wire.take (schedule.pulled pass)

variable {schedule}

theorem pulled_le (pass : Nat) : schedule.pulled pass ≤ schedule.pushed (4 * pass + 1) := by
  cases pass with
  | zero => exact Nat.zero_le _
  | succ pass => exact schedule.pushed_mono (by omega)

theorem take_append_drop_take {low high : Nat} (ordered : low ≤ high) (bytes : List UInt8) :
    bytes.take low ++ (bytes.take high).drop low = bytes.take high := by
  have parts := List.take_append_drop low (bytes.take high)
  rwa [List.take_take, Nat.min_eq_left ordered] at parts

theorem before_append_drained (pass : Nat) :
    schedule.before pass ++ (schedule.polls pass).drained = schedule.before (pass + 1) :=
  take_append_drop_take (pulled_le pass) wire

/-- At EOP a terminal drain completes the packet. -/
theorem before_append_terminal {pass : Nat} (seen : schedule.eop (4 * pass + 2) = true) :
    schedule.before (pass + 1) ++ (schedule.polls pass).terminal = wire := by
  have last : schedule.pushed (4 * pass + 3) = wire.length :=
    schedule.eop_last (schedule.eop_sticky (by omega) seen)
  refine (take_append_drop_take (schedule.pushed_mono (by omega)) wire).trans ?_
  rw [last, List.take_length]

theorem before_isPrefix (pass : Nat) : schedule.before pass <+: wire := List.take_prefix _ _

end Schedule

/-- The shortcut at the head of a pass takes the packet for complete. -/
def takesShortcut (params : InParams) {wire : List UInt8} (schedule : Schedule wire) (pass : Nat) :
    Bool :=
  params.ackEopGuardCycles == 0 && ackableBytes params (schedule.before pass)
    && schedule.eop (4 * pass)

/-- The bytes the routine decides on when `pass` is the first to see EOP. -/
def verdictBytes (params : InParams) {wire : List UInt8} (schedule : Schedule wire) (pass : Nat) :
    List UInt8 :=
  if takesShortcut params schedule pass then schedule.before pass
  else if ackableBytes params (schedule.before (pass + 1)) then schedule.before (pass + 1)
  else wire

/-! ### One pass -/

variable {params : InParams} {base : Transmitter} {loop : InLoop} {raw : RawBuffer}
  {wire : List UInt8} {schedule : Schedule wire}

theorem shortcutArmed_eq (acknowledge : params.acknowledge = true)
    (expected : isDataPid params.expectedPid = true)
    (capacity : params.maxPayloadLen ≤ params.payloadLen) {bytes : List UInt8}
    (drained : loop.drain = drainedOf params raw bytes) :
    shortcutArmed params loop =
      (params.ackEopGuardCycles == 0 && ackableBytes params bytes) := by
  unfold shortcutArmed
  rw [acknowledge, drained, ackable_drainedOf expected capacity, Bool.true_and]

theorem drain_preloadAck (loop : InLoop) : (preloadAck params loop).drain = loop.drain := by
  unfold preloadAck
  split <;> rfl

theorem drain_releaseAtEop (loop : InLoop) : (releaseAtEop params loop).drain = loop.drain := by
  unfold releaseAtEop
  split <;> rfl

/-- **A pass before EOP** adds what it drains to the bytes pulled. -/
theorem pass_again {pass : Nat} (drained : loop.drain = drainedOf params raw (schedule.before pass))
    (unseen : schedule.eop (4 * pass + 2) = false) :
    ∃ next, Rx.pass params (schedule.polls pass) loop = .again next ∧
      next.drain = drainedOf params raw (schedule.before (pass + 1)) := by
  have early : schedule.eop (4 * pass) = false := by
    by_contra seen
    rw [Bool.not_eq_false] at seen
    rw [schedule.eop_sticky (by omega) seen] at unseen
    cases unseen
  unfold Rx.pass passAfterDrain
  simp only [Schedule.polls, early, unseen, Bool.and_false, Bool.false_eq_true, if_false]
  refine ⟨_, rfl, ?_⟩
  rw [drain_preloadAck, drained, drainInFifo_drainedOf]
  exact congrArg (drainedOf params raw) (Schedule.before_append_drained pass)

/-- The terminal drain completes the packet unless its prefix was ackable. -/
theorem drain_terminalDrain (expected : isDataPid params.expectedPid = true)
    (capacity : params.maxPayloadLen ≤ params.payloadLen) (parked : Parked params base loop)
    {bytes : List UInt8} (drained : loop.drain = drainedOf params raw bytes)
    (terminal : List UInt8) :
    (terminalDrain params loop terminal).drain =
      drainedOf params raw (if ackableBytes params bytes then bytes else bytes ++ terminal) := by
  have verdict : loop.drain.ackable = ackableBytes params bytes := by
    rw [drained, ackable_drainedOf expected capacity]
  unfold terminalDrain
  rw [verdict]
  by_cases ackable : ackableBytes params bytes = true
  · rw [if_pos ackable, if_pos ackable, drained]
  · rw [if_neg ackable, if_neg ackable]
    by_cases preloaded : loop.ackPreloaded = true
    · rw [if_pos preloaded]
      have long := parked.drain.two_le_of_dataHeader (parked.preloaded preloaded).2
      rw [drained, drainedOf_len] at long
      simp only [drained]
      exact drainTerminalDataFifo_eq params raw bytes terminal long
    · rw [if_neg preloaded]
      simp only [drained]
      exact drainInFifo_drainedOf params raw bytes terminal

/-- After its drain, a pass that sees EOP breaks out of the loop. -/
theorem passAfterDrain_last (expected : isDataPid params.expectedPid = true)
    (capacity : params.maxPayloadLen ≤ params.payloadLen) (parked : Parked params base loop)
    {bytes : List UInt8} (drained : loop.drain = drainedOf params raw bytes) (poll : RxPoll)
    (clear : poll.error = false) (seen : poll.eop = true) :
    ∃ final, passAfterDrain params poll loop = .broke final ∧ final.drain =
      drainedOf params raw (if ackableBytes params bytes then bytes else bytes ++ poll.terminal) := by
  unfold passAfterDrain
  rw [clear, seen, if_neg Bool.false_ne_true, if_pos rfl]
  refine ⟨_, rfl, ?_⟩
  rw [drain_releaseAtEop, drain_preloadAck]
  exact drain_terminalDrain expected capacity
    (parked.preloadAck.withStart (loop.sawStart || decide (loop.drain.len ≠ 0) || poll.start)).toParked
    ((drain_preloadAck _).trans drained) poll.terminal

/-- **The pass that sees EOP** breaks out of the loop on `verdictBytes`. -/
theorem pass_last (acknowledge : params.acknowledge = true)
    (expected : isDataPid params.expectedPid = true)
    (capacity : params.maxPayloadLen ≤ params.payloadLen) (inv : LoopInv params base loop)
    {pass : Nat} (drained : loop.drain = drainedOf params raw (schedule.before pass))
    (seen : schedule.eop (4 * pass + 2) = true) :
    ∃ final, Rx.pass params (schedule.polls pass) loop = .broke final ∧
      final.drain = drainedOf params raw (verdictBytes params schedule pass) := by
  have armed : (shortcutArmed params loop && (schedule.polls pass).entryEop) =
      takesShortcut params schedule pass := by
    rw [shortcutArmed_eq acknowledge expected capacity drained]
    rfl
  have clear : (shortcutArmed params loop && (schedule.polls pass).entryError) = false :=
    Bool.and_false _
  unfold Rx.pass verdictBytes
  rw [clear, armed, if_neg Bool.false_ne_true]
  by_cases shortcut : takesShortcut params schedule pass = true
  · rw [if_pos shortcut, if_pos shortcut]
    exact ⟨_, rfl, drained⟩
  · rw [if_neg shortcut, if_neg shortcut]
    have more : drainInFifo params loop.drain (schedule.polls pass).drained =
        drainedOf params raw (schedule.before (pass + 1)) := by
      rw [drained, drainInFifo_drainedOf, Schedule.before_append_drained]
    have last := passAfterDrain_last expected capacity
      (inv.toParked.drainInFifo (schedule.polls pass).drained) more (schedule.polls pass) rfl seen
    rwa [Schedule.before_append_terminal seen] at last

/-! ### The loop -/

/-- **The loop ends on `verdictBytes`**, by induction on the budget left. -/
theorem receiveLoop_schedule (idle : base.Idle) (acknowledge : params.acknowledge = true)
    (expected : isDataPid params.expectedPid = true)
    (capacity : params.maxPayloadLen ≤ params.payloadLen) {last : Nat}
    (ends : schedule.EndsAt last) (budget index : Nat) (started : index ≤ last)
    (enough : last ≤ index + budget) (inv : LoopInv params base loop)
    (drained : loop.drain = drainedOf params raw (schedule.before index)) :
    ∃ final, receiveLoop params schedule.polls budget index loop = .broke final ∧
      final.drain = drainedOf params raw (verdictBytes params schedule last) := by
  induction budget generalizing index loop with
  | zero =>
    have now : index = last := by omega
    subst now
    obtain ⟨final, broke, decided⟩ :=
      pass_last acknowledge expected capacity inv drained ends.seen
    refine ⟨final, ?_, decided⟩
    unfold receiveLoop
    rw [broke]
  | succ budget ih =>
    unfold receiveLoop
    by_cases now : index = last
    · subst now
      obtain ⟨final, broke, decided⟩ :=
        pass_last acknowledge expected capacity inv drained ends.seen
      refine ⟨final, ?_, decided⟩
      rw [broke]
    · obtain ⟨next, again, more⟩ := pass_again drained (ends.first index (by omega))
      have step := pass_spec idle inv (schedule.polls index)
      rw [again] at step ⊢
      exact ih (index + 1) (by omega) (by omega) step more

/-! ### The end of the routine -/

/-- What an ackable packet looks like to the plain parser. -/
structure AckablePacket (params : InParams) (bytes : List UInt8) (pid : UInt8)
    (body : List UInt8) : Prop where
  framed : bytes = sync :: pid :: body
  parsed : parsePacket bytes = .ok (.data pid (dataPayload body))
  data : isDataPid pid = true
  long : 2 ≤ body.length
  short : body.length + 2 ≤ wireLenLimit params pid

theorem ackablePacket (expected : isDataPid params.expectedPid = true)
    (capacity : params.maxPayloadLen ≤ params.payloadLen) {bytes : List UInt8}
    (ackable : ackableBytes params bytes = true) :
    ∃ pid body, AckablePacket params bytes pid body := by
  obtain ⟨pid, payload, parsed, kept⟩ := ackableBytes_iff.mp ackable
  obtain ⟨body, framed, data, long, -, rfl⟩ := parsePacket_data_iff.mp parsed
  rw [classify_ne_reject expected capacity data, dataPayload_length] at kept
  exact ⟨pid, body, framed, parsed, data, long, by omega⟩

/-- The plain verdict on an ackable packet. -/
theorem plainVerdict_ackable (expected : isDataPid params.expectedPid = true)
    (capacity : params.maxPayloadLen ≤ params.payloadLen) {bytes : List UInt8} {pid : UInt8}
    {body : List UInt8} (packet : AckablePacket params bytes pid body) :
    plainVerdict params bytes =
      if pid = params.expectedPid then .data (UInt8.ofNat (bytes.length - 4))
      else .unexpectedToggle (UInt8.ofNat (bytes.length - 4)) := by
  have len : (dataPayload body).length = bytes.length - 4 := by
    rw [dataPayload_length, packet.framed, List.length_cons, List.length_cons]
    omega
  have kept := (classify_ne_reject expected capacity packet.data
    (dataPayload body).length).mpr (by
      rw [dataPayload_length]; have := packet.short; have := packet.long; omega)
  unfold plainVerdict
  rw [packet.parsed]
  simp only [len] at kept ⊢
  unfold classifyInData at kept ⊢
  simp only [ne_eq, ite_not] at kept ⊢
  split at kept
  · exact absurd rfl kept
  rename_i framed
  rw [if_neg framed]
  by_cases same : pid = params.expectedPid
  · rw [if_pos same] at kept
    rw [if_pos same, if_pos same]
    split at kept
    · rename_i short
      rw [if_pos short]
    · exact absurd rfl kept
  · rw [if_neg same, if_neg same]

/-- Two bytes that do not parse as a handshake are no NAK and no STALL. -/
theorem invalid_of_not_handshake {first pid : UInt8} {body : List UInt8}
    (other : ∀ kind, parsePacket (first :: pid :: body) ≠ .ok (.handshake kind)) :
    (if body.length + 2 = 2 ∧ first = sync ∧ pidComplementValid pid = true then
      if pid = pidNak then .nak else if pid = pidStall then .stall else .invalidPacket
    else .invalidPacket) = InReceiveResult.invalidPacket := by
  split
  · rename_i framed
    obtain ⟨short, rfl, -⟩ := framed
    have empty : body = [] := List.eq_nil_of_length_eq_zero (by omega)
    subst empty
    have notNak : pid ≠ pidNak := by
      rintro rfl
      exact other pidNak rfl
    have notStall : pid ≠ pidStall := by
      rintro rfl
      exact other pidStall rfl
    rw [if_neg notNak, if_neg notStall]
  · rfl

/-- A packet that is not ackable is classified as the plain parser does. -/
theorem classifyUnacknowledgedInPacket_eq (raw : RawBuffer) {bytes : List UInt8}
    (unackable : ackableBytes params bytes = false) :
    classifyUnacknowledgedInPacket (drainedOf params raw bytes).len
      (drainedOf params raw bytes).headerFlags (drainedOf params raw bytes).pid =
      plainVerdict params bytes := by
  match bytes with
  | [] => rfl
  | [_] => rfl
  | first :: pid :: body =>
    have drained := drained_spec params raw first pid body
    rw [drained.len, drained.headerFlags, drained.lastPid]
    unfold classifyUnacknowledgedInPacket plainVerdict
    simp only [headerOf_framed]
    cases parsed : parsePacket (first :: pid :: body) with
    | error _ => exact invalid_of_not_handshake (by rw [parsed]; intro kind same; cases same)
    | ok packet =>
      cases packet with
      | handshake other =>
        obtain ⟨same, kind⟩ := parsePacket_handshake_iff.mp parsed
        cases same
        have complement : pidComplementValid pid = true := by
          rcases kind with rfl | rfl | rfl <;> decide
        rw [if_pos ⟨rfl, rfl, complement⟩]
      | token other value =>
        exact invalid_of_not_handshake (by rw [parsed]; intro kind same; cases same)
      | data other payload =>
        obtain ⟨body', same, -, long, -⟩ := parsePacket_data_iff.mp parsed
        cases same
        rw [if_neg (fun framed => by omega)]
        unfold ackableBytes at unackable
        rw [parsed] at unackable
        simp only [bne_eq_false_iff_eq] at unackable
        simp only [unackable]

/-- Copying the packet's payload out of the raw buffer. -/
theorem copyPayload_drainedOf (raw : RawBuffer) {first pid : UInt8} {body : List UInt8}
    (long : 2 ≤ body.length) (payload : List UInt8) (fits : body.length - 2 ≤ payload.length)
    (held : body.length + 2 ≤ maxDecodedBytes) :
    copyPayload (drainedOf params raw (first :: pid :: body)).raw payload (body.length - 2) =
      dataPayload body ++ payload.drop (dataPayload body).length := by
  rw [copyPayload_eq _ _ _ fits, dataPayload_length]
  refine congrArg (· ++ _) (List.ext_getElem ?_ fun index inside within => ?_)
  · rw [List.length_map, List.length_range, dataPayload_length]
  · rw [List.length_map, List.length_range] at inside
    rw [List.getElem_map, List.getElem_range, drainedOf_raw params raw _ _
      (by simp only [List.length_cons]; omega) (by omega)]
    simp only [dataPayload, List.getElem_take, List.getD_cons_succ]
    rw [List.getD_eq_getElem?_getD, List.getElem?_eq_getElem (by omega), Option.getD_some]

/-- The payload a call leaves behind when it decides as the plain parser. -/
def plainPayload (params : InParams) (bytes payload : List UInt8) : List UInt8 :=
  match plainVerdict params bytes, parsePacket bytes with
  | .data _, .ok (.data _ received) => received ++ payload.drop received.length
  | _, _ => payload

/-- Only an accepted packet changes the payload. -/
theorem plainPayload_of_unacked {bytes : List UInt8}
    (unacked : acked (plainVerdict params bytes) = false) (payload : List UInt8) :
    plainPayload params bytes payload = payload := by
  unfold plainPayload
  split
  · rename_i len _ _ accepted _
    rw [accepted] at unacked
    cases unacked
  · rfl

/-- What the plain decision on `bytes` leaves behind. -/
structure DecidesAsPlain (params : InParams) (base : Transmitter) (payload bytes : List UInt8)
    (outcome : ReceiveOutcome) : Prop where
  result : outcome.result = .ok (plainVerdict params bytes)
  payload : outcome.payload = plainPayload params bytes payload
  /-- The verdict rests on all the bytes. -/
  whole : outcome.wireLen = bytes.length
  /-- The ACK leaves for an accepted packet and for a duplicate. -/
  acked : outcome.tx.released = base.released ++
    if acked (plainVerdict params bytes) then [[sync, pidAck]] else []

/-- The waits on the transmitter that the decision needs. -/
structure Sent (params : InParams) (irqs : TxIrqs) (bytes : List UInt8) : Prop where
  tokenEop : irqs.tokenEop = true
  tokenDone : irqs.tokenDone = true
  ack : ackableBytes params bytes = true → irqs.ackEop = true ∧ irqs.ackDone = true

/-- **The end of the routine** decides as the plain parser on the bytes pulled. -/
theorem finishReceive_plain (expected : isDataPid params.expectedPid = true)
    (capacity : params.maxPayloadLen ≤ params.payloadLen) (fits : params.payloadLen ≤ 100)
    {irqs : TxIrqs} {payload bytes : List UInt8} (room : payload.length = params.payloadLen)
    (drained : loop.drain = drainedOf params raw bytes)
    (sent : ackableBytes params bytes = true → irqs.ackEop = true ∧ irqs.ackDone = true) :
    (finishReceive params irqs payload loop).result = .ok (plainVerdict params bytes) ∧
      (finishReceive params irqs payload loop).payload = plainPayload params bytes payload := by
  have verdict : loop.drain.ackable = ackableBytes params bytes := by
    rw [drained, ackable_drainedOf expected capacity]
  unfold finishReceive
  rw [verdict]
  cases ackable : ackableBytes params bytes with
  | false =>
    have plain := classifyUnacknowledgedInPacket_eq raw ackable
    have unacked := acked_classify (drainedOf params raw bytes).len
      (drainedOf params raw bytes).headerFlags (drainedOf params raw bytes).pid
    rw [plain] at unacked
    rw [plainPayload_of_unacked unacked, ← plain, drained]
    exact ⟨rfl, rfl⟩
  | true =>
    obtain ⟨pid, body, packet⟩ := ackablePacket expected capacity ackable
    obtain ⟨ackEop, ackDone⟩ := sent ackable
    have plain := plainVerdict_ackable expected capacity packet
    have spec := drained_spec params raw sync pid body
    rw [← packet.framed] at spec
    have len : loop.drain.len - 4 = bytes.length - 4 := by rw [drained, drainedOf_len]
    have short := packet.short
    have long := packet.long
    have limit : wireLenLimit params pid ≤ params.payloadLen + 4 := by
      unfold wireLenLimit
      split <;> omega
    simp only [Bool.not_true, Bool.false_eq_true, if_false, ackEop, ackDone, Bool.and_self,
      Bool.and_false, len]
    rw [show loop.drain.headerFlags = headerOf params sync pid by rw [drained, spec.headerFlags]]
    unfold plainPayload
    by_cases same : pid = params.expectedPid
    · rw [if_pos same] at plain
      rw [if_neg (fun other => (headerOf_expected params sync pid).mp other same), plain,
        packet.parsed, drained]
      refine ⟨rfl, ?_⟩
      have count : bytes.length - 4 = body.length - 2 := by
        rw [packet.framed, List.length_cons, List.length_cons]
        omega
      simp only [count]
      rw [packet.framed]
      exact copyPayload_drainedOf raw long payload (by omega) (by
        simp only [maxDecodedBytes]; omega)
    · rw [if_neg same] at plain
      rw [if_pos ((headerOf_expected params sync pid).mpr same), plain]
      exact ⟨rfl, rfl⟩

/-! ### The whole call -/

/-- What makes the routine decide on too little: at the pass that sees EOP, a proper prefix of the
packet is ackable, either before that pass, when the full-speed shortcut looks no further, or after
its drain, when it skips the terminal one. -/
def StalePrefix (params : InParams) {wire : List UInt8} (schedule : Schedule wire) (last : Nat) :
    Prop :=
  (takesShortcut params schedule last = true ∧ schedule.before last ≠ wire) ∨
    (ackableBytes params (schedule.before (last + 1)) = true ∧ schedule.before (last + 1) ≠ wire)

theorem verdictBytes_isPrefix (last : Nat) : verdictBytes params schedule last <+: wire := by
  unfold verdictBytes
  split
  · exact Schedule.before_isPrefix _
  · split
    · exact Schedule.before_isPrefix _
    · exact List.prefix_rfl

/-- The shortcut is taken when EOP is already visible, so the pass's own drain would have completed
the packet. -/
theorem before_of_takesShortcut {last : Nat} (shortcut : takesShortcut params schedule last = true) :
    schedule.before (last + 1) = wire := by
  simp only [takesShortcut, Bool.and_eq_true] at shortcut
  show wire.take (schedule.pushed (4 * last + 1)) = wire
  rw [schedule.eop_last (schedule.eop_sticky (by omega) shortcut.2), List.take_length]

theorem verdictBytes_eq_iff (last : Nat) :
    verdictBytes params schedule last = wire ↔ ¬ StalePrefix params schedule last := by
  unfold verdictBytes StalePrefix
  by_cases shortcut : takesShortcut params schedule last = true
  · rw [if_pos shortcut, before_of_takesShortcut shortcut]
    simp [shortcut]
  · rw [if_neg shortcut]
    by_cases ackable : ackableBytes params (schedule.before (last + 1)) = true
    · rw [if_pos ackable]
      simp [shortcut, ackable]
    · rw [if_neg ackable]
      simp [shortcut, ackable]

/-- A DATA0 packet of two zero bytes; its first four bytes are a complete empty packet. -/
def twoZeroBytes : List UInt8 := [sync, pidData0, 0, 0, 0xfe, 0x4f]

/-- The first pass finds four bytes of `twoZeroBytes`, and the rest arrives with EOP before the
second. -/
def splitSchedule : Schedule twoZeroBytes where
  pushed access := if access < 4 then 4 else 6
  pushed_mono := fun early late ordered => by simp only; split <;> split <;> omega
  pushed_le := fun access => by
    simp only [twoZeroBytes, List.length_cons, List.length_nil]
    split <;> omega
  eop access := decide (4 ≤ access)
  eop_sticky := fun ordered seen => by simp only [decide_eq_true_eq] at seen ⊢; omega
  eop_last := fun seen => by
    simp only [decide_eq_true_eq] at seen
    rw [if_neg (by omega)]
    rfl
  start _ := true

/-- The whole of `twoZeroBytes` arrives before the first pass's drain. -/
def wholeSchedule : Schedule twoZeroBytes where
  pushed access := if access = 0 then 0 else 6
  pushed_mono := fun early late ordered => by simp only; split <;> split <;> omega
  pushed_le := fun access => by
    simp only [twoZeroBytes, List.length_cons, List.length_nil]
    split <;> omega
  eop access := decide (1 ≤ access)
  eop_sticky := fun ordered seen => by simp only [decide_eq_true_eq] at seen ⊢; omega
  eop_last := fun seen => by
    simp only [decide_eq_true_eq] at seen
    rw [if_neg (by omega)]
    rfl
  start _ := true

/-- **When the streaming path decides as the plain parser.** Under any schedule whose EOP the budget
reaches, the call leaves behind what the plain decision on the whole packet does, provided that the
transmitter sends what it is given, and exactly when no ackable proper prefix stands in for the packet
at the pass that sees EOP. -/
theorem receiveDataPacket_decidesAsPlain_iff (tx : Transmitter) (idle : tx.Idle) (irqs : TxIrqs)
    (wire : List UInt8) (schedule : Schedule wire) (last budget : Nat)
    (ends : schedule.EndsAt last) (enough : last ≤ budget) (token payload : List UInt8)
    (raw : RawBuffer) (maxPayloadLen : Nat) (expectedPid : UInt8) (ackEopGuardCycles : UInt32)
    (expected : isDataPid expectedPid = true) (capacity : maxPayloadLen ≤ payload.length)
    (fits : payload.length ≤ 100) :
    let params : InParams :=
      { payloadLen := payload.length, maxPayloadLen, expectedPid, ackEopGuardCycles
        acknowledge := true }
    DecidesAsPlain params (tx.afterToken token) payload wire
        (receiveDataPacket tx irqs schedule.polls budget token payload raw maxPayloadLen expectedPid
          ackEopGuardCycles true) ↔
      Sent params irqs wire ∧ ¬ StalePrefix params schedule last := by
  intro params
  have baseIdle := Transmitter.afterToken_idle idle token
  have inv := initialLoop_inv params (tx.afterToken token) raw
  obtain ⟨final, broke, drained⟩ := receiveLoop_schedule baseIdle rfl expected capacity ends budget 0
    (Nat.zero_le _) (by omega) inv rfl
  have broken := receiveLoop_spec baseIdle schedule.polls budget 0 inv
  rw [broke] at broken
  rw [← verdictBytes_eq_iff]
  unfold receiveDataPacket
  rw [Transmitter.clearIrq0_pushAll idle]
  by_cases waited : (irqs.tokenEop && irqs.tokenDone) = true
  · rw [waited, Bool.not_true, if_neg Bool.false_ne_true, broke]
    rw [Bool.and_eq_true] at waited
    have len : (finishReceive params irqs payload final).wireLen =
        (verdictBytes params schedule last).length := by
      rw [← drainedOf_len params raw, ← drained]
      unfold finishReceive
      repeat' split
      all_goals rfl
    constructor
    · intro plain
      have whole : verdictBytes params schedule last = wire :=
        (verdictBytes_isPrefix last).eq_of_length (len.symm.trans plain.whole)
      refine ⟨⟨waited.1, waited.2, fun ackable => ?_⟩, whole⟩
      by_contra unsent
      have failed : (irqs.ackEop && irqs.ackDone) = false := by
        rw [← Bool.not_eq_true, Bool.and_eq_true]
        exact unsent
      have result := plain.result
      rw [whole] at drained
      have verdict : final.drain.ackable = true := by
        rw [drained, ackable_drainedOf expected capacity, ackable]
      unfold finishReceive at result
      simp [verdict, failed, params] at result
    · rintro ⟨sent, whole⟩
      rw [whole] at drained len
      obtain ⟨result, copied⟩ := finishReceive_plain expected capacity fits rfl drained sent.ack
      have discipline := finishReceive_spec baseIdle broken capacity fits irqs payload result
      refine ⟨result, copied, len, ?_⟩
      have released := discipline.settled.released
      rwa [Bool.true_and] at released
  · rw [Bool.not_eq_true] at waited
    rw [waited, Bool.not_false, if_pos rfl]
    constructor
    · intro plain
      have result := plain.result
      cases result
    · rintro ⟨sent, -⟩
      rw [sent.tokenEop, sent.tokenDone] at waited
      cases waited

/-- A whole packet in the first drain is decided as a whole. -/
theorem receiveDataPacket_decidesAsPlain_wholeSchedule :
    DecidesAsPlain
      { payloadLen := 8, maxPayloadLen := 8, expectedPid := pidData0, ackEopGuardCycles := 0
        acknowledge := true }
      (Transmitter.fresh.afterToken (tokenPacket pidIn 1 1)) (List.replicate 8 0) twoZeroBytes
      (receiveDataPacket Transmitter.fresh TxIrqs.prompt wholeSchedule.polls rxPacketPollBudget
        (tokenPacket pidIn 1 1) (List.replicate 8 0) (Vector.replicate maxDecodedBytes 0) 8 pidData0
        0 true) := by
  refine (receiveDataPacket_decidesAsPlain_iff Transmitter.fresh Transmitter.fresh_idle
    TxIrqs.prompt twoZeroBytes wholeSchedule 0 rxPacketPollBudget
    ⟨rfl, fun early before => absurd before (Nat.not_lt_zero early)⟩ (Nat.zero_le _)
    (tokenPacket pidIn 1 1) (List.replicate 8 0) (Vector.replicate maxDecodedBytes 0) 8 pidData0 0
    rfl (by decide) (by decide)).mpr ⟨⟨rfl, rfl, fun _ => ⟨rfl, rfl⟩⟩, ?_⟩
  rintro (⟨shortcut, -⟩ | ⟨-, proper⟩)
  · exact absurd shortcut (by decide)
  · exact proper rfl

/-- The same packet split after four bytes is acknowledged, and reported, as the empty packet its
prefix is. -/
theorem receiveDataPacket_splitSchedule :
    let params : InParams :=
      { payloadLen := 8, maxPayloadLen := 8, expectedPid := pidData0, ackEopGuardCycles := 0
        acknowledge := true }
    let outcome := receiveDataPacket Transmitter.fresh TxIrqs.prompt splitSchedule.polls
      rxPacketPollBudget (tokenPacket pidIn 1 1) (List.replicate 8 0)
      (Vector.replicate maxDecodedBytes 0) 8 pidData0 0 true
    splitSchedule.EndsAt 1 ∧ outcome.result = .ok (.data 0) ∧
      outcome.tx.released = [tokenPacket pidIn 1 1, [sync, pidAck]] ∧
      plainVerdict params twoZeroBytes = .data 2 ∧
      ¬ DecidesAsPlain params (Transmitter.fresh.afterToken (tokenPacket pidIn 1 1))
        (List.replicate 8 0) twoZeroBytes outcome := by
  intro params outcome
  have result : outcome.result = .ok (.data 0) := by decide +kernel
  have plain : plainVerdict params twoZeroBytes = .data 2 := by decide +kernel
  refine ⟨⟨rfl, fun early before => ?_⟩, result, by decide +kernel, plain, fun decided => ?_⟩
  · have first : early = 0 := by omega
    subst first
    rfl
  · have same := decided.result
    rw [result, plain] at same
    cases same

end PioUsbHost.Rx
