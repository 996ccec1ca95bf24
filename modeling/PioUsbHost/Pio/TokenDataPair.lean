/-
**A token and its data packet.**

`transmit_token_data_pair` clears IRQ0 for the token, waits until IRQ1 says that the token's bits are
out, pushes the data packet behind it while the end of the token is still on the wire, waits until IRQ0
says that the program is parked, and clears it again. The early pushes hide the CPU's time; they are
safe only if none of them gets into the token.

* `PairSchedule`: when the CPU does which of these things.
* `Polled`: what it has read from the machine by then.
* `PairSent`, `transmitTokenDataPair_spec`: both packets are sent, apart and whole, at either speed.
-/

import PioUsbHost.Pio.PacketFlags

namespace PioUsbHost.Pio

open PioUsbHost.Lib.LineCode PioUsbHost.Lib.PioMachine PioUsbHost.Usb

/-! ### The schedule -/

/-- What the CPU pushes and clears, and before which cycles. -/
structure PairSchedule (token data : List UInt8) where
  tokenFeed : Feed (token.map txWord)
  dataFeed : Feed (data.map txWord)
  /-- Both flags are cleared for the token. -/
  go : Nat
  /-- IRQ1 has been read set, and is cleared. -/
  seen : Nat
  /-- IRQ0 has been read set, and both flags are cleared for the data packet. -/
  again : Nat
  /-- The whole token is pushed by the time its flag is cleared. -/
  loaded : tokenFeed.remaining (go + 1) = []
  ordered : go < seen ∧ seen < again
  /-- The data packet is pushed only after IRQ1 has been read. -/
  after : ∀ time < seen, dataFeed.pushed time = []

section Pair

variable {token data : List UInt8}

/-- The CPU's accesses. -/
def PairSchedule.accesses (schedule : PairSchedule token data) (time : Nat) : Access where
  pushed := schedule.tokenFeed.pushed time ++ schedule.dataFeed.pushed time
  cleared index :=
    (time == schedule.go || time == schedule.again) && (index == 0 || index == 1) ||
      time == schedule.seen && index == 1

theorem PairSchedule.cleared_none (schedule : PairSchedule token data) {time : Nat}
    (go : time ≠ schedule.go) (seen : time ≠ schedule.seen) (again : time ≠ schedule.again) :
    (schedule.accesses time).cleared = fun _ => false := by
  funext index
  show (((time == schedule.go || time == schedule.again) && _) || (time == schedule.seen && _)) = false
  rw [beq_false_of_ne go, beq_false_of_ne seen, beq_false_of_ne again]
  rfl

/-- Between the two clears IRQ0 is left alone. -/
theorem PairSchedule.cleared_zero (schedule : PairSchedule token data) {time : Nat}
    (go : time ≠ schedule.go) (again : time ≠ schedule.again) :
    (schedule.accesses time).cleared 0 = false := by
  show (((time == schedule.go || time == schedule.again) && _) || (time == schedule.seen && false)) =
    false
  rw [beq_false_of_ne go, beq_false_of_ne again, Bool.and_false]
  rfl

/-- The machine under the schedule. -/
def PairSchedule.machineAt (schedule : PairSchedule token data) (speed : Speed) (machine : Machine)
    (time : Nat) : Machine :=
  attended (txConfig speed) schedule.accesses machine time

/-- **What the CPU has read**, and that it pushes in time. -/
structure PairSchedule.Polled (schedule : PairSchedule token data) (speed : Speed)
    (machine : Machine) : Prop where
  eop : (schedule.machineAt speed machine schedule.seen).irqs 1 = true
  idle : (schedule.machineAt speed machine schedule.again).irqs 0 = true
  fed : ∀ time, schedule.again ≤ time →
    ((schedule.machineAt speed machine time).access (schedule.accesses time)).fifo = [] →
      schedule.dataFeed.remaining (time + 1) = []

/-- **What is sent**: the lines until long after both packets, and the parked machine. -/
structure PairSent (speed : Speed) (schedule : PairSchedule token data) (machine : Machine) :
    Prop where
  lines : ∃ gap, 3 ≤ gap ∧ ∀ later,
    attendedLines (txConfig speed) schedule.accesses machine
        (schedule.again + (4 * (wireBits data).length + 21 + later)) =
      (List.replicate (schedule.go + 3) released ++ packetLines (wireStates token) ++
        List.replicate gap released ++ packetLines (wireStates data) ++
        List.replicate (2 + later) released).map (pinOrder speed)
  parked : Parked (schedule.machineAt speed machine
    (schedule.again + (4 * (wireBits data).length + 21)))

/-! ### The token -/

section Token

variable {schedule : PairSchedule token data} {machine : Machine}

theorem access_push {access : Access} (kept : access.cleared = fun _ => false) :
    machine.access access = machine.push access.pushed := by
  unfold Machine.access Machine.push
  rw [kept]
  simp only [Bool.not_false, Bool.and_true]

/-- Until the flags are cleared the token is queued. -/
theorem token_queued (schedule : PairSchedule token data) (parked : Parked machine) (time : Nat)
    (early : time ≤ schedule.go) :
    ∃ queued, token.map txWord = queued ++ schedule.tokenFeed.remaining time ∧
      Loaded (queued.flatMap wordBits) (schedule.machineAt .full machine time) ∧
      (schedule.machineAt .full machine time).irqs 0 = true := by
  induction time with
  | zero => exact ⟨[], schedule.tokenFeed.all.symm, parked.loaded, parked.raised⟩
  | succ time ih =>
    obtain ⟨queued, rest, loaded, raised⟩ := ih (Nat.le_of_succ_le early)
    obtain ⟨first, second⟩ := schedule.ordered
    have kept := schedule.cleared_none (show time ≠ schedule.go by omega)
      (show time ≠ schedule.seen by omega) (show time ≠ schedule.again by omega)
    have pushed : (schedule.accesses time).pushed = schedule.tokenFeed.pushed time := by
      show _ ++ schedule.dataFeed.pushed time = _
      rw [schedule.after time (by omega), List.append_nil]
    refine ⟨queued ++ schedule.tokenFeed.pushed time, ?_, ?_⟩
    · rw [List.append_assoc, ← schedule.tokenFeed.split time]
      exact rest
    · rw [List.flatMap_append]
      unfold PairSchedule.machineAt
      rw [attended, access_push kept, pushed]
      exact (loaded.push _).wait raised

/-- The machine that sends the token. -/
def tokenSender (schedule : PairSchedule token data) (machine : Machine) : Machine :=
  (schedule.machineAt .full machine schedule.go).access (schedule.accesses schedule.go)

theorem tokenSender_loaded (schedule : PairSchedule token data) (parked : Parked machine) :
    Loaded (dataBits token) (tokenSender schedule machine) ∧
      (tokenSender schedule machine).irqs 0 = false ∧
      (tokenSender schedule machine).irqs 1 = false := by
  obtain ⟨queued, rest, loaded, -⟩ := token_queued schedule parked schedule.go le_rfl
  obtain ⟨first, second⟩ := schedule.ordered
  have pushed : (schedule.accesses schedule.go).pushed =
      schedule.tokenFeed.remaining schedule.go := by
    show _ ++ schedule.dataFeed.pushed schedule.go = _
    rw [schedule.after _ first, List.append_nil, schedule.tokenFeed.split, schedule.loaded,
      List.append_nil]
  have all := loaded.push (schedule.accesses schedule.go).pushed
  rw [← List.flatMap_append, pushed, ← rest, flatMap_wordBits] at all
  have cleared : ∀ index, index = 0 ∨ index = 1 →
      (tokenSender schedule machine).irqs index = false := by
    intro index either
    have named : (index == 0 || index == 1) = true := by simpa using either
    show ((schedule.machineAt .full machine schedule.go).irqs index &&
      !(((schedule.go == schedule.go || _) && (index == 0 || index == 1)) || _)) = false
    rw [named, BEq.rfl]
    simp only [Bool.true_or, Bool.true_and, Bool.not_true, Bool.and_false]
  refine ⟨⟨all.pc, all.delay, all.waiting, all.dirs, ?_⟩, cleared 0 (Or.inl rfl),
    cleared 1 (Or.inr rfl)⟩
  rw [← all.pending, ← pushed]
  rfl

/-- **While the CPU waits for IRQ1** it leaves the machine alone. -/
theorem token_alone (schedule : PairSchedule token data) (machine : Machine) {cycles : Nat}
    (before : schedule.go + (cycles + 1) ≤ schedule.seen) :
    schedule.machineAt .full machine (schedule.go + (cycles + 1)) =
      run (txConfig .full) (cycles + 1) (tokenSender schedule machine) := by
  rw [show schedule.go + (cycles + 1) = schedule.go + 1 + cycles by omega]
  unfold PairSchedule.machineAt
  rw [attended_add]
  refine (attended_none _ _ fun time inside => ?_).1
  obtain ⟨first, second⟩ := schedule.ordered
  obtain ⟨spent, -⟩ := schedule.tokenFeed.spent schedule.loaded time
  have pushed : (schedule.accesses (schedule.go + 1 + time)).pushed = [] := by
    show schedule.tokenFeed.pushed _ ++ schedule.dataFeed.pushed _ = []
    rw [spent, schedule.after _ (by omega), List.append_nil]
  have cleared := schedule.cleared_none (show schedule.go + 1 + time ≠ schedule.go by omega)
    (show schedule.go + 1 + time ≠ schedule.seen by omega)
    (show schedule.go + 1 + time ≠ schedule.again by omega)
  show Access.mk (schedule.accesses _).pushed (schedule.accesses _).cleared = _
  rw [pushed, cleared]
  rfl

end Token

/-! ### Between the packets -/

section Between

variable {schedule : PairSchedule token data} {machine : Machine}

/-- The cycle at which the end of the token begins, counted from the clear of its flag. -/
def endOfToken (token : List UInt8) : Nat := 4 * (wireBits token).length + 7

/-- IRQ1 is read only once the end of the token has begun. -/
theorem seen_late (parked : Parked machine) (polled : schedule.Polled .full machine) :
    schedule.go + endOfToken token < schedule.seen := by
  by_contra early
  obtain ⟨loaded, clear, fresh⟩ := tokenSender_loaded schedule parked
  obtain ⟨first, -⟩ := schedule.ordered
  obtain ⟨waited, same⟩ := Nat.exists_eq_add_of_lt first
  have eop := polled.eop
  rw [show schedule.seen = schedule.go + (waited + 1) by omega,
    token_alone schedule machine (by omega),
    (packet_flags loaded clear).1 _ (show waited + 1 ≤ endOfToken token by omega), fresh] at eop
  cases eop

/-- **From the end of the token until the next clear** the pushes change nothing but the queue. -/
theorem between_alike (parked : Parked machine) (polled : schedule.Polled .full machine) {later : Nat}
    (before : schedule.go + endOfToken token + later ≤ schedule.again) :
    Ending (run (txConfig .full) (endOfToken token + later) (tokenSender schedule machine)) ∧
      Alike 0 (run (txConfig .full) (endOfToken token + later) (tokenSender schedule machine))
        (schedule.machineAt .full machine (schedule.go + endOfToken token + later)) := by
  obtain ⟨loaded, clear, -⟩ := tokenSender_loaded schedule parked
  obtain ⟨flags, level, here⟩ := packet_flags loaded clear
  have begins : Ending (run (txConfig .full) (endOfToken token) (tokenSender schedule machine)) :=
    At.ending here ((congrFun (flags _ le_rfl) 0).trans clear)
  have late := seen_late parked polled
  have there := token_alone schedule machine
    (show schedule.go + (4 * (wireBits token).length + 6 + 1) ≤ schedule.seen from Nat.le_of_lt late)
  rw [run_add]
  refine ⟨begins.run later, ?_⟩
  unfold PairSchedule.machineAt
  rw [attended_add]
  refine attended_alike ?_ (fun time _ instr found => (begins.run time).blind found)
    fun time inside => schedule.cleared_zero ?_ ?_
  · show Alike 0 _ (schedule.machineAt .full machine (schedule.go + (_ + 1)))
    rw [there]
    exact Alike.refl _
  · unfold endOfToken
    omega
  · omega

/-- Until then the data packet is queued. -/
theorem data_queued (parked : Parked machine) (polled : schedule.Polled .full machine) (later : Nat)
    (before : schedule.go + endOfToken token + later ≤ schedule.again) :
    ∃ queued, data.map txWord =
        queued ++ schedule.dataFeed.remaining (schedule.go + endOfToken token + later) ∧
      pendingBits
        (schedule.machineAt .full machine (schedule.go + endOfToken token + later)).osr
        (schedule.machineAt .full machine (schedule.go + endOfToken token + later)).osrCount
        (schedule.machineAt .full machine (schedule.go + endOfToken token + later)).fifo =
          queued.flatMap wordBits := by
  induction later with
  | zero =>
    obtain ⟨loaded, clear, -⟩ := tokenSender_loaded schedule parked
    obtain ⟨-, level, here⟩ := packet_flags loaded clear
    have late := seen_late parked polled
    refine ⟨[], ?_, ?_⟩
    · rw [schedule.dataFeed.waits fun earlier inside => schedule.after earlier (by omega)]
      rfl
    · have there := token_alone schedule machine
        (show schedule.go + (4 * (wireBits token).length + 6 + 1) ≤ schedule.seen from
          Nat.le_of_lt late)
      rw [show schedule.go + endOfToken token + 0 =
        schedule.go + (4 * (wireBits token).length + 6 + 1) from rfl, there]
      exact here.pending
  | succ later ih =>
    obtain ⟨queued, rest, pending⟩ := ih (Nat.le_of_succ_le before)
    obtain ⟨ending, alike⟩ := between_alike parked polled (Nat.le_of_succ_le before)
    obtain ⟨first, second⟩ := schedule.ordered
    have late := seen_late parked polled
    have after : ∀ index, schedule.go + endOfToken token + later = schedule.go + 1 + index →
        schedule.tokenFeed.pushed (schedule.go + endOfToken token + later) = [] := fun index same => by
      rw [same]
      exact (schedule.tokenFeed.spent schedule.loaded index).1
    have pushed : (schedule.accesses (schedule.go + endOfToken token + later)).pushed =
        schedule.dataFeed.pushed (schedule.go + endOfToken token + later) := by
      show schedule.tokenFeed.pushed _ ++ _ = _
      rw [after (4 * (wireBits token).length + 6 + later) (by unfold endOfToken; omega)]
      rfl
    have kept := schedule.cleared_zero
      (show schedule.go + endOfToken token + later ≠ schedule.go by unfold endOfToken; omega)
      (show schedule.go + endOfToken token + later ≠ schedule.again by omega)
    refine ⟨queued ++ schedule.dataFeed.pushed (schedule.go + endOfToken token + later), ?_, ?_⟩
    · rw [List.append_assoc, ← Nat.add_assoc, ← schedule.dataFeed.split]
      exact rest
    · rw [List.flatMap_append, ← pending, ← pushed]
      refine (ending.alike (alike.access kept)).pending.trans ?_
      show pendingBits _ _ (_ ++ _) = _
      unfold pendingBits
      rw [List.flatMap_append, List.append_assoc]
      rfl

/-- Up to the next clear the lines are those of the token alone. -/
theorem token_lines (parked : Parked machine) (polled : schedule.Polled .full machine) {cycles : Nat}
    (before : schedule.go + (cycles + 1) ≤ schedule.again) :
    (schedule.machineAt .full machine (schedule.go + (cycles + 1))).lines =
      (run (txConfig .full) (cycles + 1) (tokenSender schedule machine)).lines := by
  by_cases early : schedule.go + (cycles + 1) ≤ schedule.seen
  · rw [token_alone schedule machine early]
  · have late := seen_late parked polled
    obtain ⟨later, same⟩ := Nat.exists_eq_add_of_le (show endOfToken token ≤ cycles + 1 by omega)
    rw [same, ← Nat.add_assoc]
    exact (between_alike parked polled (by omega)).2.lines.symm

/-- **IRQ0 is read only once the token has ended** and the program is parked. -/
theorem again_late (parked : Parked machine) (polled : schedule.Polled .full machine) :
    schedule.go + (4 * (wireBits token).length + 19) ≤ schedule.again ∧
      Ending (schedule.machineAt .full machine schedule.again) ∧
      (schedule.machineAt .full machine schedule.again).waiting = true := by
  have late := seen_late parked polled
  obtain ⟨first, second⟩ := schedule.ordered
  obtain ⟨later, same⟩ := Nat.exists_eq_add_of_le
    (show schedule.go + endOfToken token ≤ schedule.again by omega)
  obtain ⟨begun, alike⟩ := between_alike parked polled (Nat.le_of_eq same.symm)
  rw [← same] at alike
  have ending := begun.alike alike
  have waiting := ending.flag.symm.trans polled.idle
  refine ⟨?_, ending, waiting⟩
  by_contra early
  obtain ⟨loaded, clear, -⟩ := tokenSender_loaded schedule parked
  refine packet_driven loaded clear (show 4 ≤ endOfToken token + later by unfold endOfToken; omega)
    ?_ (lines_released ?_)
  · show endOfToken token + later ≤ 4 * (wireBits token).length + 19
    omega
  · rw [alike.dirs]
    exact (ending.freed (ending.stalls waiting)).2

/-- The lines until the flags are cleared again. -/
theorem lines_until_again (parked : Parked machine) (polled : schedule.Polled .full machine) :
    attendedLines (txConfig .full) schedule.accesses machine schedule.again =
      List.replicate (schedule.go + 3) released ++ packetLines (wireStates token) ++
        List.replicate (schedule.again - (schedule.go + (4 * (wireBits token).length + 19)))
          released := by
  obtain ⟨late, -⟩ := again_late parked polled
  obtain ⟨later, same⟩ := Nat.exists_eq_add_of_le late
  obtain ⟨loaded, clear, -⟩ := tokenSender_loaded schedule parked
  have quiet : attendedLines (txConfig .full) schedule.accesses machine schedule.go =
      List.replicate schedule.go released := by
    unfold attendedLines
    refine List.eq_replicate_iff.mpr ⟨by simp, fun lines inside => ?_⟩
    obtain ⟨time, within, rfl⟩ := List.mem_map.mp inside
    obtain ⟨_, -, waits, -⟩ := token_queued schedule parked (time + 1) (List.mem_range.mp within)
    exact lines_released waits.dirs
  have sent : attendedLines (txConfig .full) (fun time => schedule.accesses (schedule.go + time))
      (schedule.machineAt .full machine schedule.go) (4 * (wireBits token).length + 19 + later) =
      trace (txConfig .full) (4 * (wireBits token).length + 19 + later)
        (tokenSender schedule machine) := by
    unfold attendedLines
    refine List.ext_getElem ?_ fun cycles inside within => ?_
    · rw [List.length_map, List.length_range, trace_length]
    · rw [trace_length] at within
      rw [List.getElem_map, List.getElem_range, trace_getElem,
        ← token_lines parked polled (show schedule.go + (cycles + 1) ≤ schedule.again by omega)]
      unfold PairSchedule.machineAt
      rw [attended_add _ _ machine schedule.go]
  have packet := packet_trace loaded clear later
  rw [show schedule.again = schedule.go + (4 * (wireBits token).length + 19 + later) by omega,
    attendedLines_add, quiet]
  show _ ++ attendedLines _ _ (schedule.machineAt .full machine schedule.go) _ = _
  rw [sent]
  refine (congrArg (_ ++ ·) packet).trans ?_
  rw [show schedule.go + (4 * (wireBits token).length + 19 + later) -
    (schedule.go + (4 * (wireBits token).length + 19)) = later by omega, List.replicate_add]
  simp only [List.append_assoc]
  rfl

end Between

/-! ### The data packet -/

section Data

variable {schedule : PairSchedule token data} {machine : Machine}

/-- The machine whose flags are cleared for the data packet. -/
def dataStart (schedule : PairSchedule token data) (machine : Machine) : Machine :=
  { schedule.machineAt .full machine schedule.again with
    irqs := fun index => (schedule.machineAt .full machine schedule.again).irqs index &&
      !(schedule.accesses schedule.again).cleared index }

/-- From then on the token's feed is spent, and no flag is cleared. -/
theorem data_accesses (schedule : PairSchedule token data) (cycles : Nat) :
    (schedule.accesses (schedule.again + cycles)).pushed =
        schedule.dataFeed.pushed (schedule.again + cycles) ∧
      (cycles ≠ 0 → (schedule.accesses (schedule.again + cycles)).cleared = fun _ => false) := by
  obtain ⟨first, second⟩ := schedule.ordered
  obtain ⟨rest, same⟩ := Nat.exists_eq_add_of_lt (Nat.lt_trans first second)
  refine ⟨?_, fun later => schedule.cleared_none (by omega) (by omega) (by omega)⟩
  have spent := (schedule.tokenFeed.spent schedule.loaded (rest + cycles)).1
  rw [show schedule.go + 1 + (rest + cycles) = schedule.again + cycles by omega] at spent
  show schedule.tokenFeed.pushed _ ++ _ = _
  rw [spent]
  rfl

/-- The machine is merely fed. -/
theorem machineAt_again (schedule : PairSchedule token data) (machine : Machine) (cycles : Nat) :
    schedule.machineAt .full machine (schedule.again + (cycles + 1)) =
      fed (txConfig .full) (feedFrom schedule.dataFeed schedule.again) (dataStart schedule machine)
        (cycles + 1) := by
  induction cycles with
  | zero =>
    obtain ⟨pushed, -⟩ := data_accesses schedule 0
    show cycle _ ((schedule.machineAt .full machine schedule.again).access
      (schedule.accesses (schedule.again + 0))) = cycle _ ((dataStart schedule machine).push
        (schedule.dataFeed.pushed (schedule.again + 0)))
    rw [← pushed]
    rfl
  | succ cycles ih =>
    obtain ⟨pushed, cleared⟩ := data_accesses schedule (cycles + 1)
    rw [fed, ← ih]
    show cycle _ ((schedule.machineAt .full machine (schedule.again + (cycles + 1))).access
      (schedule.accesses (schedule.again + (cycles + 1)))) = _
    rw [access_push (cleared (Nat.succ_ne_zero cycles)), pushed]
    rfl

/-- The machine that sends the data packet, with every word in its FIFO. -/
def dataSender (schedule : PairSchedule token data) (machine : Machine) : Machine :=
  (dataStart schedule machine).push (schedule.dataFeed.remaining schedule.again)

theorem dataSender_loaded (parked : Parked machine) (polled : schedule.Polled .full machine) :
    Loaded (dataBits data) (dataSender schedule machine) ∧
      (dataSender schedule machine).irqs 0 = false := by
  obtain ⟨late, ending, waiting⟩ := again_late parked polled
  obtain ⟨later, same⟩ := Nat.exists_eq_add_of_le
    (show schedule.go + endOfToken token ≤ schedule.again by unfold endOfToken; omega)
  obtain ⟨queued, rest, pending⟩ := data_queued parked polled later (Nat.le_of_eq same.symm)
  rw [← same] at rest pending
  have pc := ending.stalls waiting
  have start : Loaded (queued.flatMap wordBits) (dataStart schedule machine) :=
    ⟨pc, (ending.freed pc).1, waiting, (ending.freed pc).2, pending⟩
  have all := start.push (schedule.dataFeed.remaining schedule.again)
  rw [← List.flatMap_append, ← rest, flatMap_wordBits] at all
  refine ⟨all, ?_⟩
  show ((schedule.machineAt .full machine schedule.again).irqs 0 &&
    !(((_ || schedule.again == schedule.again) && true) || _)) = false
  rw [BEq.rfl]
  simp only [Bool.or_true, Bool.true_or, Bool.and_true, Bool.not_true, Bool.and_false]

theorem dataSender_run (polled : schedule.Polled .full machine) (cycles : Nat) :
    run (txConfig .full) (cycles + 1) (dataSender schedule machine) =
      (schedule.machineAt .full machine (schedule.again + (cycles + 1))).push
        (schedule.dataFeed.remaining (schedule.again + (cycles + 1))) := by
  rw [machineAt_again schedule machine]
  refine fed_push (feedFrom schedule.dataFeed schedule.again) (fun time empty => ?_) (cycles + 1)
  refine polled.fed (schedule.again + time) (Nat.le_add_right _ _) ?_
  obtain ⟨pushed, -⟩ := data_accesses schedule time
  show _ ++ (schedule.accesses (schedule.again + time)).pushed = []
  rw [pushed]
  cases time with
  | zero => exact empty
  | succ time =>
    rw [machineAt_again schedule machine]
    exact empty

/-- **Both packets at full speed.** -/
theorem pairSent_full (parked : Parked machine) (polled : schedule.Polled .full machine) :
    PairSent .full schedule machine := by
  obtain ⟨late, -⟩ := again_late parked polled
  obtain ⟨loaded, clear⟩ := dataSender_loaded parked polled
  refine ⟨⟨schedule.again - (schedule.go + (4 * (wireBits token).length + 19)) + 3,
    Nat.le_add_left _ _, fun later => ?_⟩, ?_⟩
  · have second : attendedLines (txConfig .full)
        (fun time => schedule.accesses (schedule.again + time))
        (schedule.machineAt .full machine schedule.again)
          (4 * (wireBits data).length + 19 + (2 + later)) =
        trace (txConfig .full) (4 * (wireBits data).length + 19 + (2 + later))
          (dataSender schedule machine) := by
      unfold attendedLines
      refine List.ext_getElem ?_ fun cycles inside within => ?_
      · rw [List.length_map, List.length_range, trace_length]
      · rw [List.getElem_map, List.getElem_range, trace_getElem, dataSender_run polled,
          lines_push]
        unfold PairSchedule.machineAt
        rw [attended_add _ _ machine schedule.again]
    have packet := packet_trace loaded clear (2 + later)
    rw [show 4 * (wireBits data).length + 21 + later = 4 * (wireBits data).length + 19 + (2 + later)
      by omega, attendedLines_add, lines_until_again parked polled]
    refine (congrArg (_ ++ ·) (second.trans packet)).trans ?_
    rw [show pinOrder .full = id from rfl, List.map_id]
    simp only [List.replicate_add, List.append_assoc]
    rfl
  · obtain ⟨-, ended⟩ := sendPacket_spec loaded clear
    have final := dataSender_run polled (4 * (wireBits data).length + 20)
    have whole : Parked ((schedule.machineAt .full machine (schedule.again +
        (4 * (wireBits data).length + 20 + 1))).push (schedule.dataFeed.remaining
          (schedule.again + (4 * (wireBits data).length + 20 + 1)))) := final ▸ ended
    exact whole.of_push

/-- The low-speed transmitter runs as the full-speed one with the pins exchanged. -/
theorem machineAt_low (schedule : PairSchedule token data) (machine : Machine) (time : Nat) :
    schedule.machineAt .low machine time = (schedule.machineAt .full machine.swap time).swap := by
  unfold PairSchedule.machineAt
  rw [txConfig_low]
  exact attended_swap (txConfig .full) machine.swap schedule.accesses time

/-- **Both packets at low speed.** -/
theorem pairSent_low (parked : Parked machine) (polled : schedule.Polled .low machine) :
    PairSent .low schedule machine := by
  have polledFull : schedule.Polled .full machine.swap := by
    refine ⟨?_, ?_, fun time late empty => polled.fed time late ?_⟩
    · have eop := polled.eop
      rw [machineAt_low] at eop
      exact eop
    · have idle := polled.idle
      rw [machineAt_low] at idle
      exact idle
    · rw [machineAt_low]
      exact empty
  obtain ⟨⟨gap, wide, lines⟩, ended⟩ := pairSent_full parked.swap polledFull
  refine ⟨⟨gap, wide, fun later => ?_⟩, ?_⟩
  · have full := lines later
    rw [show pinOrder .full = id from rfl, List.map_id] at full
    rw [← full]
    unfold attendedLines
    rw [List.map_map]
    refine List.map_congr_left fun time _ => ?_
    exact congrArg Machine.lines (machineAt_low schedule machine (time + 1))
  · rw [machineAt_low]
    exact ended.swap

/-- **The pair is sent**, at either speed: if the CPU has read IRQ1 before it pushes the data packet,
and IRQ0 before it clears the flags again, and then pushes in time, the lines carry the token and the
data packet, each whole and each between idle lines, and the transmitter is parked. -/
theorem transmitTokenDataPair_spec (speed : Speed) (schedule : PairSchedule token data)
    (machine : Machine) (parked : Parked machine) (polled : schedule.Polled speed machine) :
    PairSent speed schedule machine ∧
      (∀ capacity, token.length ≤ capacity → decodeNrzi capacity (wireStates token) = .ok token) ∧
      ∀ capacity, data.length ≤ capacity → decodeNrzi capacity (wireStates data) = .ok data := by
  refine ⟨?_, fun _ => decodeNrzi_wireStates, fun _ => decodeNrzi_wireStates⟩
  cases speed with
  | full => exact pairSent_full parked polled
  | low => exact pairSent_low parked polled

/-- An OUT token and an empty DATA1 packet, pushed while the token ends. -/
def statusStage : PairSchedule (tokenPacket pidOut 5 0) [sync, pidData1, 0, 0] where
  tokenFeed :=
    { pushed := fun time => if time = 0 then (tokenPacket pidOut 5 0).map txWord else []
      remaining := fun time => if time = 0 then (tokenPacket pidOut 5 0).map txWord else []
      all := rfl
      split := fun time => by rw [if_neg (Nat.succ_ne_zero time), List.append_nil] }
  dataFeed :=
    { pushed := fun time => if time = 142 then [sync, pidData1, 0, 0].map txWord else []
      remaining := fun time => if time ≤ 142 then [sync, pidData1, 0, 0].map txWord else []
      all := rfl
      split := fun time => by
        by_cases now : time = 142
        · subst now
          rfl
        · rw [if_neg now, List.nil_append]
          by_cases early : time ≤ 142
          · rw [if_pos early, if_pos (by omega)]
          · rw [if_neg early, if_neg (by omega)] }
  go := 2
  seen := 142
  again := 160
  loaded := rfl
  ordered := by decide
  after time early := if_neg (Nat.ne_of_lt early)

/-- The status stage of a control read is sent. -/
theorem transmitTokenDataPair_statusStage : PairSent .full statusStage parkedMachine :=
  (transmitTokenDataPair_spec .full statusStage parkedMachine ⟨⟨rfl, rfl, rfl, rfl, rfl⟩, rfl⟩
    { eop := by decide +kernel
      idle := by decide +kernel
      fed := fun time late _ => if_neg (show ¬ time + 1 ≤ 142 from
        Nat.not_le.mpr (Nat.lt_of_lt_of_le (by decide : 142 < 160) (Nat.le_succ_of_le late))) }).1

end Data

end Pair

end PioUsbHost.Pio
