/-
**What the receive routine makes of an answer.**

A device's answer arrives at some pace (`Pace`), or nothing is heard of it, or the passes read something
else (`AnswerFate`). Of an answer that arrives the routine makes what the plain parser makes of
`verdictBytes`, if its end shows within the budget, and otherwise nothing that is acknowledged.

* `Pace.exists_schedule`: every schedule of a packet is that of some pace.
* `receiveDataPacket_released`: the ACK leaves exactly for the results that stand for a DATA packet.
* `receiveDataPacket_verdict`: what the call returns and copies.
* `receiveDataPacket_acked`: what it has acknowledged, it has decided on at the end of the packet.
-/

import PioUsbHost.Rx.Verdict

namespace PioUsbHost.Rx

open PioUsbHost.Usb

/-! ### The answer on its way -/

/-- When the decoder pushes the bytes of a packet, and when the end of it may show, at the accesses of a
call (as in `Schedule`, but over a packet of any length). -/
structure Pace where
  pushed : Nat → Nat
  pushed_mono : Monotone pushed
  eop : Nat → Bool
  eop_sticky : ∀ {early late : Nat}, early ≤ late → eop early = true → eop late = true
  start : Nat → Bool

/-- The schedule of a packet at this pace. Its end shows after its last byte, and not before. -/
def Pace.schedule (pace : Pace) (wire : List UInt8) : Schedule wire where
  pushed access := min (pace.pushed access) wire.length
  pushed_mono _ _ order := min_le_min_right _ (pace.pushed_mono order)
  pushed_le _ := Nat.min_le_right _ _
  eop access := pace.eop access && decide (wire.length ≤ pace.pushed access)
  eop_sticky order seen := by
    rw [Bool.and_eq_true, decide_eq_true_eq] at seen ⊢
    exact ⟨pace.eop_sticky order seen.1, seen.2.trans (pace.pushed_mono order)⟩
  eop_last seen := by
    rw [Bool.and_eq_true, decide_eq_true_eq] at seen
    exact Nat.min_eq_right seen.2
  start := pace.start

/-- **Every schedule of a packet** is that of some pace. -/
theorem Pace.exists_schedule {wire : List UInt8} (schedule : Schedule wire) :
    ∃ pace : Pace, pace.schedule wire = schedule := by
  refine ⟨⟨schedule.pushed, schedule.pushed_mono, schedule.eop, schedule.eop_sticky,
    schedule.start⟩, ?_⟩
  have pushed : (fun access => min (schedule.pushed access) wire.length) = schedule.pushed :=
    funext fun access => Nat.min_eq_left (schedule.pushed_le access)
  have eop : (fun access => schedule.eop access && decide (wire.length ≤ schedule.pushed access)) =
      schedule.eop := by
    funext access
    cases seen : schedule.eop access with
    | false => rfl
    | true =>
      rw [Bool.true_and, decide_eq_true_eq]
      exact (schedule.eop_last seen).ge
  obtain ⟨pushedOf, mono, le, eopOf, sticky, last, start⟩ := schedule
  simp only at pushed eop
  unfold Pace.schedule
  congr

/-- The pace of a packet that never comes. -/
def Pace.never : Pace where
  pushed _ := 0
  pushed_mono _ _ _ := le_rfl
  eop _ := false
  eop_sticky _ seen := seen
  start _ := false

/-- What becomes of an answer on its way to the host. -/
inductive AnswerFate where
  | arrives (pace : Pace)
  | lost
  | corrupted (polls : Nat → RxPoll)

/-- A pass that finds nothing. -/
def RxPoll.nothing : RxPoll :=
  { entryError := false, entryEop := false, drained := [], start := false, error := false, eop := false
    terminal := [] }

/-- What the passes of the routine read. -/
def AnswerFate.polls (answer : Option (List UInt8)) : AnswerFate → Nat → RxPoll
  | .arrives pace =>
    match answer with
    | some bytes => (pace.schedule bytes).polls
    | none => fun _ => .nothing
  | .lost => fun _ => .nothing
  | .corrupted polls => polls

/-- The arguments of an acknowledged call. -/
abbrev callParams (payload : List UInt8) (maxPayloadLen : Nat) (expectedPid : UInt8)
    (ackEopGuardCycles : UInt32) : InParams where
  payloadLen := payload.length
  maxPayloadLen := maxPayloadLen
  expectedPid := expectedPid
  ackEopGuardCycles := ackEopGuardCycles
  acknowledge := true

/-- The results that are acknowledged are those of ackable packets. -/
theorem acked_plainVerdict (params : InParams) (bytes : List UInt8) :
    acked (plainVerdict params bytes) = ackableBytes params bytes := by
  unfold plainVerdict ackableBytes
  split
  next pid payload parsed =>
    simp only [parsed]
    split
    all_goals rename_i verdict
    all_goals rw [verdict]
    all_goals rfl
  next pid parsed =>
    simp only [parsed]
    repeat' split
    all_goals rfl
  next other none =>
    split
    next pid payload parsed => exact absurd parsed (other pid payload)
    next => rfl

/-- What a call with such a result leaves in the transmitter. -/
def ackFor (result : InReceiveResult) : List (List UInt8) :=
  if acked result then [[sync, pidAck]] else []

/-- What a call releases: the token, and the ACK of what it returns. -/
def releasedFor (token : List UInt8) : Except TxError InReceiveResult → List (List UInt8)
  | .ok result => token :: ackFor result
  | .error _ => [token]

section Call

variable {tx : Transmitter} {irqs : TxIrqs} {token payload : List UInt8} {raw : RawBuffer}
  {maxPayloadLen : Nat} {expectedPid : UInt8} {ackEopGuardCycles : UInt32} {budget : Nat}

/-! ### The ACK -/

/-- **The ACK leaves exactly for the results that stand for a DATA packet**, whatever the passes read, as
long as the transmitter does not stall in it. -/
theorem receiveDataPacket_released (idle : tx.Idle) (polls : Nat → RxPoll)
    (sent : irqs.ackEop = true ∧ irqs.ackDone = true) (capacity : maxPayloadLen ≤ payload.length)
    (fits : payload.length ≤ 100) :
    let outcome := receiveDataPacket tx irqs polls budget token payload raw maxPayloadLen expectedPid
      ackEopGuardCycles true
    outcome.tx.released = tx.released ++ releasedFor token outcome.result := by
  intro outcome
  cases result : outcome.result with
  | ok result =>
    have released := (receiveDataPacket_settled idle capacity fits ‹_›).released
    rw [Bool.true_and] at released
    exact released.trans (List.append_assoc _ [token] _)
  | error error =>
    have ended : outcome.tx = tx.afterToken token := by
      simp only [outcome, receiveDataPacket] at result ⊢
      rw [Transmitter.clearIrq0_pushAll idle] at result ⊢
      split
      · rfl
      · rename_i waited
        rw [if_neg waited] at result
        split at result
        · cases result
        · simp only [finishReceive, sent, Bool.and_self, Bool.not_true, Bool.and_false,
            Bool.false_eq_true, if_false] at result
          repeat' split at result
          all_goals cases result
    rw [ended]
    rfl

/-- A call that returns a result has sent the token. -/
theorem tokenSent_of_ok {polls : Nat → RxPoll} {acknowledge : Bool} {result : InReceiveResult}
    (ok : (receiveDataPacket tx irqs polls budget token payload raw maxPayloadLen expectedPid
      ackEopGuardCycles acknowledge).result = .ok result) :
    (irqs.tokenEop && irqs.tokenDone) = true := by
  by_contra unsent
  rw [Bool.not_eq_true] at unsent
  simp only [receiveDataPacket, unsent, Bool.not_false, if_true] at ok
  cases ok

/-! ### A silent bus -/

/-- A pass that finds nothing leaves the loop as it is. -/
theorem pass_nothing {params : InParams} {poll : RxPoll} {tx : Transmitter} {raw : RawBuffer}
    (nothing : poll.drained = []) (start : poll.start = false) (error : poll.error = false)
    (eop : poll.eop = false) : pass params poll (initialLoop raw tx) = .again (initialLoop raw tx) := by
  have header : dataHeader (initialLoop raw tx).drain.headerFlags = false :=
    show dataHeader 0 = false by decide
  have parked : preloadAck params (initialLoop raw tx) = initialLoop raw tx := by
    unfold preloadAck
    rw [header, Bool.and_false, if_neg Bool.false_ne_true]
  have disarmed : shortcutArmed params (initialLoop raw tx) = false := Bool.and_false _
  unfold pass passAfterDrain
  rw [disarmed, nothing, start, error, eop]
  show Pass.again { preloadAck params (initialLoop raw tx) with sawStart := _ } = _
  rw [parked]
  rfl

/-- **On a silent bus the loop spends its budget** and returns with no response. -/
theorem receiveLoop_nothing {params : InParams} {polls : Nat → RxPoll} {tx : Transmitter}
    {raw : RawBuffer} (nothing : ∀ pass, (polls pass).drained = [] ∧ (polls pass).start = false ∧
      (polls pass).error = false ∧ (polls pass).eop = false) (budget index : Nat) :
    receiveLoop params polls budget index (initialLoop raw tx) =
      .returned .noResponse (initialLoop raw tx) := by
  induction budget generalizing index with
  | zero =>
    obtain ⟨drained, start, error, eop⟩ := nothing index
    unfold receiveLoop
    rw [pass_nothing drained start error eop]
    rfl
  | succ budget ih =>
    obtain ⟨drained, start, error, eop⟩ := nothing index
    unfold receiveLoop
    rw [pass_nothing drained start error eop]
    exact ih (index + 1)

/-- Where nothing is found, nothing is received. -/
theorem receiveDataPacket_nothing (idle : tx.Idle) {polls : Nat → RxPoll}
    (nothing : ∀ pass, (polls pass).drained = [] ∧ (polls pass).start = false ∧
      (polls pass).error = false ∧ (polls pass).eop = false)
    (waited : (irqs.tokenEop && irqs.tokenDone) = true) :
    receiveDataPacket tx irqs polls budget token payload raw maxPayloadLen expectedPid
        ackEopGuardCycles true =
      { result := .ok .noResponse, wireLen := 0, raw, payload, tx := tx.afterToken token } := by
  have ended := @receiveLoop_nothing (callParams payload maxPayloadLen expectedPid ackEopGuardCycles)
    _ (tx.afterToken token) raw nothing budget 0
  unfold receiveDataPacket
  simp only [Transmitter.clearIrq0_pushAll idle, waited, Bool.not_true, Bool.false_eq_true, if_false]
  rw [ended]
  rfl

/-- What is not heard of is not acknowledged. -/
theorem receiveDataPacket_nothing_unacked (idle : tx.Idle) {result : InReceiveResult}
    (ok : (receiveDataPacket tx irqs (fun _ => .nothing) budget token payload raw maxPayloadLen
      expectedPid ackEopGuardCycles true).result = .ok result) : acked result = false := by
  rw [receiveDataPacket_nothing idle (fun _ => ⟨rfl, rfl, rfl, rfl⟩) (tokenSent_of_ok ok)] at ok
  cases ok
  rfl

/-! ### An answer that arrives -/

section Arrives

variable {wire : List UInt8} {schedule : Schedule wire} {last : Nat}

/-- **What the call makes of a packet**: what the plain parser makes of the bytes it decides on. -/
theorem receiveDataPacket_verdict (idle : tx.Idle) (expected : isDataPid expectedPid = true)
    (capacity : maxPayloadLen ≤ payload.length) (fits : payload.length ≤ 100)
    (ends : schedule.EndsAt last) (enough : last ≤ budget)
    (waited : (irqs.tokenEop && irqs.tokenDone) = true) {bytes : List UInt8}
    (decides : verdictBytes (callParams payload maxPayloadLen expectedPid ackEopGuardCycles) schedule
      last = bytes)
    (sent : ackableBytes (callParams payload maxPayloadLen expectedPid ackEopGuardCycles) bytes = true →
      irqs.ackEop = true ∧ irqs.ackDone = true) :
    let params := callParams payload maxPayloadLen expectedPid ackEopGuardCycles
    let outcome := receiveDataPacket tx irqs schedule.polls budget token payload raw maxPayloadLen
      expectedPid ackEopGuardCycles true
    outcome.result = .ok (plainVerdict params bytes) ∧
      outcome.payload = plainPayload params bytes payload ∧
      outcome.tx.released = tx.released ++ token :: ackFor (plainVerdict params bytes) := by
  intro params outcome
  have baseIdle := Transmitter.afterToken_idle idle token
  have inv := initialLoop_inv params (tx.afterToken token) raw
  obtain ⟨final, broke, drained⟩ := receiveLoop_schedule baseIdle rfl expected capacity ends budget 0
    (Nat.zero_le _) (by omega) inv rfl
  have broken := receiveLoop_spec baseIdle schedule.polls budget 0 inv
  rw [broke] at broken
  rw [decides] at drained
  have ended : outcome = finishReceive params irqs payload final := by
    show receiveDataPacket _ _ _ _ _ _ _ _ _ _ _ = _
    unfold receiveDataPacket
    simp only [Transmitter.clearIrq0_pushAll idle, waited, Bool.not_true, Bool.false_eq_true, if_false]
    rw [broke]
  obtain ⟨result, copied⟩ := finishReceive_plain expected capacity fits rfl drained sent
  have discipline := finishReceive_spec baseIdle broken capacity fits irqs payload result
  have released := discipline.settled.released
  rw [Bool.true_and] at released
  rw [ended]
  refine ⟨result, copied, released.trans ?_⟩
  exact List.append_assoc _ [token] _

/-- A packet whose end does not show within the budget is not received. -/
theorem receiveLoop_unended {params : InParams} {base : Transmitter} (idle : base.Idle)
    {loop : InLoop} (budget index : Nat)
    (unseen : ∀ pass, pass ≤ index + budget → schedule.eop (4 * pass + 2) = false)
    (inv : LoopInv params base loop)
    (drained : loop.drain = drainedOf params raw (schedule.before index)) :
    ∃ result final, receiveLoop params schedule.polls budget index loop = .returned result final ∧
      acked result = false := by
  obtain ⟨next, again, more⟩ := pass_again drained (unseen index (Nat.le_add_right _ _))
  induction budget generalizing index loop next with
  | zero =>
    unfold receiveLoop
    rw [again]
    exact ⟨_, _, rfl, acked_budgetSpent next⟩
  | succ budget ih =>
    have step := pass_spec idle inv (schedule.polls index)
    unfold receiveLoop
    rw [again] at step ⊢
    obtain ⟨following, onward, further⟩ := pass_again more (unseen (index + 1) (by omega))
    exact ih (index + 1) (fun pass inside => unseen pass (by omega)) step more following onward further

/-- **What has been acknowledged was decided on at the end of the packet.** -/
theorem receiveDataPacket_acked (idle : tx.Idle) (expected : isDataPid expectedPid = true)
    (capacity : maxPayloadLen ≤ payload.length) (fits : payload.length ≤ 100)
    (sent : irqs.ackEop = true ∧ irqs.ackDone = true) {result : InReceiveResult}
    (ok : (receiveDataPacket tx irqs schedule.polls budget token payload raw maxPayloadLen expectedPid
      ackEopGuardCycles true).result = .ok result) (acknowledged : acked result = true) :
    let params := callParams payload maxPayloadLen expectedPid ackEopGuardCycles
    ∃ last ≤ budget, schedule.EndsAt last ∧
      result = plainVerdict params (verdictBytes params schedule last) ∧
      (receiveDataPacket tx irqs schedule.polls budget token payload raw maxPayloadLen expectedPid
        ackEopGuardCycles true).payload =
          plainPayload params (verdictBytes params schedule last) payload := by
  intro params
  have waited := tokenSent_of_ok ok
  by_cases shows : ∃ pass, schedule.eop (4 * pass + 2) = true ∧ pass ≤ budget
  · have found : ∃ pass, schedule.eop (4 * pass + 2) = true := shows.imp fun _ both => both.1
    obtain ⟨pass, seen, inside⟩ := shows
    have ends : schedule.EndsAt (Nat.find found) :=
      ⟨Nat.find_spec found, fun early before => Bool.not_eq_true _ ▸ Nat.find_min found before⟩
    have enough : Nat.find found ≤ budget := (Nat.find_min' found seen).trans inside
    obtain ⟨verdict, copied, -⟩ := @receiveDataPacket_verdict tx irqs token payload raw maxPayloadLen
      expectedPid ackEopGuardCycles budget wire schedule _ idle expected capacity fits ends enough waited
      _ rfl fun _ => sent
    rw [ok] at verdict
    exact ⟨_, enough, ends, Except.ok.inj verdict, copied⟩
  · have unseen : ∀ pass, pass ≤ 0 + budget → schedule.eop (4 * pass + 2) = false :=
      fun pass inside => Bool.not_eq_true _ ▸ fun seen => shows ⟨pass, seen, by omega⟩
    obtain ⟨late, final, exit, unacked⟩ := receiveLoop_unended (Transmitter.afterToken_idle idle token)
      budget 0 unseen (initialLoop_inv params (tx.afterToken token) raw) rfl
    unfold receiveDataPacket at ok
    simp only [Transmitter.clearIrq0_pushAll idle, waited, Bool.not_true, Bool.false_eq_true,
      if_false] at ok
    rw [exit] at ok
    rw [← Except.ok.inj ok, unacked] at acknowledged
    cases acknowledged

end Arrives

end Call

end PioUsbHost.Rx
