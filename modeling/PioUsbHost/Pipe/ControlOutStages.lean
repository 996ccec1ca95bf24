/-
**What a control OUT transfer has sent.**

`control_out` by its transactions. The data is cut into chunks, and each data transaction sends the
chunk behind those that were acknowledged, with the toggle they leave.

* `ControlOut.UnderWay`: the invariant of the transfer, over its transactions.
* `controlOut_stages`: what a transfer has sent wherever it ends, and what it has done when it returns.
-/

import PioUsbHost.Lib.Chunks
import PioUsbHost.Pipe.Transactions

namespace PioUsbHost.Pipe

open PioUsbHost.Usb PioUsbHost.Host PioUsbHost.Rx PioUsbHost.Lib.Panic
open PioUsbHost.Lib.Chunks PioUsbHost.Lib.History

/-! ### The whole call -/

/-- What a call of `control_out` leaves: its result and its transactions. -/
structure ControlOutOutcome where
  result : Call PipeError Unit
  transactions : List WireTransaction

/-- `control_out`, with its checks. -/
def controlOut (target : PipeTarget) (setup : Vector UInt8 8) (data : List UInt8)
    (replies : List WireReply) : ControlOutOutcome :=
  match ControlOut.start target setup data with
  | .error error => { result := .returned (fail error), transactions := [] }
  | .ok state =>
    { result := (ControlOut.transfer.run replies state).2
      transactions := ControlOut.transfer.transactions replies state }

/-! ### Its stages -/

/-- The packet of an OUT transaction, if it was acknowledged. -/
def WireTransaction.delivered (transaction : WireTransaction) : List (List UInt8) :=
  match transaction.call, transaction.outResult with
  | .out tokenPid _ payload, some (.ok .ack) => if tokenPid = pidOut then [payload] else []
  | _, _ => []

/-- The packets of the OUT transactions that were acknowledged, in order. -/
def deliveredPackets (transactions : List WireTransaction) : List (List UInt8) :=
  transactions.flatMap WireTransaction.delivered

/-- A transaction of the data stage sends the chunk behind the acknowledged ones. The toggle starts at
DATA1 and flips with each acknowledged packet. -/
def OutDataTransaction (chunks : List (List UInt8)) (before : List WireTransaction)
    (transaction : WireTransaction) : Prop :=
  ∃ chunk, chunks[(deliveredPackets before).length]? = some chunk ∧
    transaction.call = .out pidOut
      (DataToggle.afterAck^[(deliveredPackets before).length] .data1).pid chunk

/-- OUT packets are sent behind an acknowledged SETUP packet only. -/
def SetupFirst (setup : Vector UInt8 8) (before : List WireTransaction)
    (transaction : WireTransaction) : Prop :=
  ∀ dataPid payload, transaction.call = .out pidOut dataPid payload →
    ∃ earlier ∈ before, earlier.call = setupCall setup ∧ earlier.Acked

/-- The call of the status stage. -/
def outStatusCall : WireCall := .receive pidData1 0

/-- The status stage ends with an empty packet with the toggle DATA1, and with nothing else. -/
structure OutStatusStage (target : PipeTarget) (stage : List WireTransaction) : Prop where
  sameCall : ∀ transaction ∈ stage, transaction.call = outStatusCall
  ended : ∃ tries last, stage = tries ++ [last] ∧
    (∀ transaction ∈ tries, transaction.Ignored target) ∧
    last.inResult target = some (.ok (.data 0))

/-- A transfer that has returned. -/
structure ControlOutCompletes (target : PipeTarget) (setup : Vector UInt8 8) (data : List UInt8)
    (chunks : List (List UInt8)) (transactions : List WireTransaction) : Prop where
  requested : requestedLength setup = data.length
  /-- The acknowledged packets are the chunks, in order. -/
  delivered : deliveredPackets transactions = chunks
  stages : ∃ setups datas statuses, transactions = setups ++ datas ++ statuses ∧
    AckedAfter (setupCall setup) setups ∧
    AtEach (OutDataTransaction chunks) datas ∧
    OutStatusStage target statuses

/-- **What a control OUT transfer does**, by its transactions. -/
structure ControlOutStaged (target : PipeTarget) (setup : Vector UInt8 8) (data : List UInt8)
    (chunks : List (List UInt8)) (outcome : ControlOutOutcome) : Prop where
  ok : outcome.result = .returned (.ok ()) →
    ControlOutCompletes target setup data chunks outcome.transactions
  /-- Wherever the transfer ends, the acknowledged packets are the first chunks. -/
  delivered : deliveredPackets outcome.transactions <+: chunks
  ordered : AtEach (SetupFirst setup) outcome.transactions
  /-- A status packet that is not empty ends the transfer with an error. -/
  rejects : ∀ transaction ∈ outcome.transactions, ∀ len,
    transaction.inResult target = some (.ok (.data len)) → len ≠ 0 →
    outcome.result = .returned (fail .badResponse)

/-! ### The invariant -/

/-- How the transactions so far fall into stages. -/
inductive OutStages (target : PipeTarget) (setup : Vector UInt8 8) (chunks : List (List UInt8)) :
    List WireTransaction → ControlOutStage → Prop where
  | setup {setups : List WireTransaction} {attempts : SetupAttempts}
      (repeated : Repeated (setupCall setup) setups) :
      OutStages target setup chunks setups (.setup attempts)
  | data {setups datas : List WireTransaction} {remaining : List UInt8}
      {rest : List (List UInt8)} (acked : AckedAfter (setupCall setup) setups)
      (transactions : AtEach (OutDataTransaction chunks) datas)
      (split : chunks = deliveredPackets datas ++ rest)
      (cut : IsChunks target.maxPacketSize remaining rest) (nonempty : remaining ≠ []) :
      OutStages target setup chunks (setups ++ datas)
        (.data remaining (DataToggle.afterAck^[(deliveredPackets datas).length] .data1))
  | status {setups datas statuses : List WireTransaction}
      (acked : AckedAfter (setupCall setup) setups)
      (transactions : AtEach (OutDataTransaction chunks) datas)
      (all : deliveredPackets datas = chunks)
      (sameCall : ∀ transaction ∈ statuses, transaction.call = outStatusCall)
      (ignored : ∀ transaction ∈ statuses, transaction.Ignored target) :
      OutStages target setup chunks (setups ++ datas ++ statuses) .status

/-- **The transfer is under way.** -/
structure ControlOut.UnderWay (target : PipeTarget) (setup : Vector UInt8 8) (data : List UInt8)
    (chunks : List (List UInt8)) (before : List WireTransaction) (state : ControlOut) : Prop where
  sameTarget : state.target = target
  sameSetup : state.setup = setup
  sameData : state.data = data
  requested : requestedLength setup = data.length
  cut : IsChunks target.maxPacketSize data chunks
  ordered : AtEach (SetupFirst setup) before
  quiet : ∀ transaction ∈ before, ∀ len, transaction.inResult target ≠ some (.ok (.data len))
  stages : OutStages target setup chunks before state.stage

section UnderWay

variable {target : PipeTarget} {setup : Vector UInt8 8} {data : List UInt8}
  {chunks : List (List UInt8)} {before setups datas statuses : List WireTransaction}
  {transaction : WireTransaction} {state next : ControlOut} {reply : WireReply}

theorem deliveredPackets_append {first second : List WireTransaction} :
    deliveredPackets (first ++ second) = deliveredPackets first ++ deliveredPackets second :=
  List.flatMap_append

theorem deliveredPackets_concat :
    deliveredPackets (before ++ [transaction]) =
      deliveredPackets before ++ transaction.delivered := by
  rw [deliveredPackets_append, deliveredPackets, deliveredPackets, List.flatMap_singleton]

theorem delivered_of_unacked (unacked : ¬ transaction.Acked) : transaction.delivered = [] := by
  unfold WireTransaction.delivered
  split
  next acked => exact absurd acked unacked
  · rfl

theorem delivered_of_acked {dataPid : UInt8} {payload : List UInt8}
    (call : transaction.call = .out pidOut dataPid payload) (acked : transaction.Acked) :
    transaction.delivered = [payload] := by
  have result : transaction.outResult = some (.ok .ack) := acked
  rw [WireTransaction.delivered, call, result]
  exact if_pos rfl

theorem delivered_of_setup (call : transaction.call = setupCall setup) :
    transaction.delivered = [] := by
  rw [WireTransaction.delivered, call, setupCall]
  split
  next same _ =>
    cases same
    exact if_neg (by decide)
  · rfl

theorem delivered_of_receive (call : transaction.call = outStatusCall) :
    transaction.delivered = [] := by
  rw [WireTransaction.delivered, call, outStatusCall]

theorem deliveredPackets_eq_nil
    (nothing : ∀ transaction ∈ statuses, transaction.delivered = []) :
    deliveredPackets statuses = [] := by
  rw [deliveredPackets, List.flatMap_eq_nil_iff]
  exact nothing

/-- Only the data stage delivers. -/
theorem deliveredPackets_setups (acked : AckedAfter (setupCall setup) setups) :
    deliveredPackets (setups ++ datas) = deliveredPackets datas := by
  rw [deliveredPackets_append, deliveredPackets_eq_nil fun transaction member =>
    delivered_of_setup (acked.sameCall transaction member), List.nil_append]

theorem deliveredPackets_statuses (acked : AckedAfter (setupCall setup) setups)
    (sameCall : ∀ transaction ∈ statuses, transaction.call = outStatusCall) :
    deliveredPackets (setups ++ datas ++ statuses) = deliveredPackets datas := by
  rw [deliveredPackets_append, deliveredPackets_setups acked, deliveredPackets_eq_nil
    fun transaction member => delivered_of_receive (sameCall transaction member), List.append_nil]

/-- What is delivered so far are the first chunks. -/
theorem OutStages.delivered {stage : ControlOutStage}
    (stages : OutStages target setup chunks before stage) : deliveredPackets before <+: chunks := by
  cases stages with
  | setup repeated =>
    rw [deliveredPackets_eq_nil fun transaction member =>
      delivered_of_setup (repeated.sameCall transaction member)]
    exact List.nil_prefix
  | data acked transactions split =>
    rw [deliveredPackets_setups acked, split]
    exact List.prefix_append _ _
  | status acked transactions all sameCall =>
    rw [deliveredPackets_statuses acked sameCall, all]

theorem setupFirst_of_setup (call : transaction.call = setupCall setup) :
    SetupFirst setup before transaction := by
  intro dataPid payload out
  rw [call, setupCall] at out
  cases out

theorem setupFirst_of_receive (call : transaction.call = outStatusCall) :
    SetupFirst setup before transaction := by
  intro dataPid payload out
  rw [call] at out
  cases out

/-- Behind the SETUP stage, every packet may be sent. -/
theorem setupFirst_of_acked (acked : AckedAfter (setupCall setup) setups) :
    SetupFirst setup (setups ++ datas) transaction := by
  intro dataPid payload out
  obtain ⟨tries, last, rfl, unacked, ended⟩ := acked.acked
  have member : last ∈ tries ++ [last] := List.mem_append_right _ (List.mem_singleton_self _)
  exact ⟨last, List.mem_append_left _ member, acked.sameCall last member, ended⟩

/-- One more transaction, which sends the next chunk. -/
theorem atEach_sends {chunk : List UInt8} {later : List (List UInt8)}
    (transactions : AtEach (OutDataTransaction chunks) datas)
    (split : chunks = deliveredPackets datas ++ chunk :: later)
    (call : transaction.call = .out pidOut
      (DataToggle.afterAck^[(deliveredPackets datas).length] .data1).pid chunk) :
    AtEach (OutDataTransaction chunks) (datas ++ [transaction]) := by
  refine atEach_concat.mpr ⟨transactions, chunk, ?_, call⟩
  rw [split, List.getElem?_append_right (Nat.le_refl _), Nat.sub_self]
  rfl

/-- The data stage at the next chunk, or the status stage. -/
theorem stages_dataOrStatus {remaining : List UInt8} {rest : List (List UInt8)}
    (acked : AckedAfter (setupCall setup) setups)
    (transactions : AtEach (OutDataTransaction chunks) datas)
    (split : chunks = deliveredPackets datas ++ rest)
    (cut : IsChunks target.maxPacketSize remaining rest) :
    OutStages target setup chunks (setups ++ datas) (ControlOut.dataOrStatus remaining
      (DataToggle.afterAck^[(deliveredPackets datas).length] .data1)) := by
  unfold ControlOut.dataOrStatus
  by_cases empty : remaining = []
  · subst empty
    rw [isChunks_nil_iff] at cut
    rw [cut, List.append_nil] at split
    rw [if_pos rfl, ← List.append_nil (setups ++ datas)]
    refine .status acked transactions split.symm ?_ ?_
    · intro transaction member
      cases member
    · intro transaction member
      cases member
  · rw [if_neg empty]
    exact .data acked transactions split cut empty

namespace ControlOut.UnderWay

/-- One more transaction, with what it adds. -/
theorem keeps (under : ControlOut.UnderWay target setup data chunks before state)
    (first : SetupFirst setup before transaction)
    (quiet : ∀ len, transaction.inResult target ≠ some (.ok (.data len)))
    {stage : ControlOutStage}
    (stages : OutStages target setup chunks (before ++ [transaction]) stage) :
    ControlOut.UnderWay target setup data chunks (before ++ [transaction])
      { state with stage } where
  sameTarget := under.sameTarget
  sameSetup := under.sameSetup
  sameData := under.sameData
  requested := under.requested
  cut := under.cut
  ordered := atEach_concat.mpr ⟨under.ordered, first⟩
  quiet := List.forall_mem_append.mpr ⟨under.quiet, List.forall_mem_singleton.mpr quiet⟩
  stages := stages

/-- A transfer that waits for a reply. -/
theorem waiting (under : ControlOut.UnderWay target setup data chunks before state) :
    ControlOutStaged target setup data chunks { result := .waiting, transactions := before } where
  ok := by
    intro returned
    cases returned
  delivered := under.stages.delivered
  ordered := under.ordered
  rejects := by
    intro transaction member len result
    exact absurd result (under.quiet transaction member len)

/-- A transaction that ends the transfer with an error. -/
theorem failed (under : ControlOut.UnderWay target setup data chunks before state)
    (first : SetupFirst setup before transaction) (nothing : transaction.delivered = [])
    {error : PipeError}
    (rejects : ∀ len, transaction.inResult target = some (.ok (.data len)) →
      error = .badResponse) :
    ControlOutStaged target setup data chunks
      { result := .returned (fail error), transactions := before ++ [transaction] } where
  ok := by
    intro returned
    cases returned
  delivered := by
    rw [deliveredPackets_concat, nothing, List.append_nil]
    exact under.stages.delivered
  ordered := atEach_concat.mpr ⟨under.ordered, first⟩
  rejects := by
    intro other member len result _
    rcases List.mem_append.mp member with earlier | latest
    · exact absurd result (under.quiet other earlier len)
    · rw [List.mem_singleton.mp latest] at result
      rw [rejects len result]

/-- **The empty packet of the status stage** completes the transfer. -/
theorem completes (under : ControlOut.UnderWay target setup data chunks before state)
    (acked : AckedAfter (setupCall setup) setups) (whole : before = setups ++ datas ++ statuses)
    (transactions : AtEach (OutDataTransaction chunks) datas)
    (all : deliveredPackets datas = chunks)
    (sameCall : ∀ other ∈ statuses ++ [transaction], other.call = outStatusCall)
    (ignored : ∀ transaction ∈ statuses, transaction.Ignored target)
    (result : transaction.inResult target = some (.ok (.data 0)))
    (first : SetupFirst setup before transaction) :
    ControlOutStaged target setup data chunks
      { result := .returned (.ok ()), transactions := before ++ [transaction] } := by
  have split : before ++ [transaction] = setups ++ datas ++ (statuses ++ [transaction]) := by
    rw [whole, List.append_assoc]
  have delivered : deliveredPackets (before ++ [transaction]) = chunks := by
    rw [split, deliveredPackets_statuses acked sameCall, all]
  have status : OutStatusStage target (statuses ++ [transaction]) :=
    ⟨sameCall, statuses, transaction, rfl, ignored, result⟩
  refine ⟨?_, ?_, atEach_concat.mpr ⟨under.ordered, first⟩, ?_⟩
  · intro _
    exact ⟨under.requested, delivered, setups, datas, _, split, acked, transactions, status⟩
  · rw [delivered]
  · intro other member len received nonempty
    rcases List.mem_append.mp member with earlier | latest
    · exact absurd received (under.quiet other earlier len)
    · rw [List.mem_singleton.mp latest, result] at received
      cases received
      exact absurd rfl nonempty

/-- What one reply makes of a transfer under way. -/
def StepSpec (target : PipeTarget) (setup : Vector UInt8 8) (data : List UInt8)
    (chunks : List (List UInt8)) (before : List WireTransaction) (state : ControlOut)
    (reply : WireReply) : Next ControlOut Unit → Prop
  | .again next =>
    ControlOut.UnderWay target setup data chunks (before ++ [⟨state.call, reply⟩]) next
  | .returned result => ControlOutStaged target setup data chunks
      { result := .returned result, transactions := before ++ [⟨state.call, reply⟩] }

/-- **The SETUP stage.** -/
theorem step_setup (under : ControlOut.UnderWay target setup data chunks before state)
    (positive : 0 < target.maxPacketSize) {attempts : SetupAttempts}
    (stage : state.stage = .setup attempts) (repeated : Repeated (setupCall setup) before)
    (reply : WireReply) :
    StepSpec target setup data chunks before state reply (state.after reply) := by
  have call : state.call = setupCall setup := by
    rw [ControlOut.call, stage, under.sameSetup]
    rfl
  have first : SetupFirst setup before ⟨state.call, reply⟩ := setupFirst_of_setup call
  have quiet : ∀ len, WireTransaction.inResult target ⟨state.call, reply⟩ ≠
      some (.ok (.data len)) := by
    intro len
    rw [inResult_of_out call]
    exact (Option.some_ne_none _).symm
  have payload : setupPayload state.setup = setupPayload setup := by
    rw [under.sameSetup]
  simp only [ControlOut.after, stage, payload]
  rcases repeated.setup attempts reply with ⟨next, step, going⟩ | ⟨step, acked⟩ | ⟨error, step⟩
  · rw [step]
    exact under.keeps first quiet (.setup (call ▸ going))
  · have cut : IsChunks target.maxPacketSize state.data chunks := by
      rw [under.sameData]
      exact under.cut
    have stages := stages_dataOrStatus acked atEach_nil rfl cut
    rw [List.append_nil, ← call] at stages
    have sized : state.target.maxPacketSize ≠ 0 := by
      rw [under.sameTarget]
      exact Nat.ne_of_gt positive
    rw [step]
    simp only [if_neg sized]
    exact under.keeps first quiet stages
  · rw [step]
    exact under.failed first (delivered_of_setup call) fun len same => absurd same (quiet len)

/-- **The data stage.** -/
theorem step_data (under : ControlOut.UnderWay target setup data chunks before state)
    {remaining : List UInt8} {rest : List (List UInt8)}
    (acked : AckedAfter (setupCall setup) setups) (whole : before = setups ++ datas)
    (stage : state.stage = .data remaining
      (DataToggle.afterAck^[(deliveredPackets datas).length] .data1))
    (transactions : AtEach (OutDataTransaction chunks) datas)
    (split : chunks = deliveredPackets datas ++ rest)
    (cut : IsChunks target.maxPacketSize remaining rest) (nonempty : remaining ≠ [])
    (reply : WireReply) :
    StepSpec target setup data chunks before state reply (state.after reply) := by
  obtain ⟨later, rfl, further⟩ := cut.eq_step nonempty
  generalize reached : DataToggle.afterAck^[(deliveredPackets datas).length] .data1 = toggle at stage
  have call : state.call = .out pidOut toggle.pid (remaining.take target.maxPacketSize) := by
    rw [ControlOut.call, stage, under.sameTarget]
  have result : WireTransaction.outResult ⟨state.call, reply⟩ =
      some (outReturns toggle.pid (remaining.take target.maxPacketSize) reply) := by
    rw [call]
    rfl
  have first : SetupFirst setup before ⟨state.call, reply⟩ := by
    rw [whole]
    exact setupFirst_of_acked acked
  have quiet : ∀ len, WireTransaction.inResult target ⟨state.call, reply⟩ ≠
      some (.ok (.data len)) := by
    intro len
    rw [inResult_of_out call]
    exact (Option.some_ne_none _).symm
  have sends : AtEach (OutDataTransaction chunks) (datas ++ [⟨state.call, reply⟩]) :=
    atEach_sends transactions split (reached ▸ call)
  -- A packet that is not acknowledged is sent again until the deadline.
  have waits : ¬ WireTransaction.Acked ⟨state.call, reply⟩ →
      StepSpec target setup data chunks before state reply
        (if reply.late then .returned (fail .timeout) else .again state) := by
    intro unacked
    have nothing := delivered_of_unacked unacked
    split
    · exact under.failed first nothing fun len same => absurd same (quiet len)
    · have same : deliveredPackets (datas ++ [⟨state.call, reply⟩]) = deliveredPackets datas := by
        rw [deliveredPackets_concat, nothing, List.append_nil]
      show ControlOut.UnderWay target setup data chunks _ { state with stage := state.stage }
      refine under.keeps first quiet ?_
      rw [stage, whole, List.append_assoc, ← reached, ← same]
      exact .data acked sends (same.symm ▸ split) cut nonempty
  have size : state.target.maxPacketSize = target.maxPacketSize := by
    rw [under.sameTarget]
  simp only [ControlOut.after, stage, size]
  cases returns : outReturns toggle.pid (remaining.take target.maxPacketSize) reply with
  | error error =>
    have unacked : ¬ WireTransaction.Acked ⟨state.call, reply⟩ := by
      rw [WireTransaction.Acked, result, returns]
      simp
    exact under.failed first (delivered_of_unacked unacked) fun len same => absurd same (quiet len)
  | ok response =>
    rw [returns] at result
    cases response with
    | ack =>
      have delivered : deliveredPackets (datas ++ [⟨state.call, reply⟩]) =
          deliveredPackets datas ++ [remaining.take target.maxPacketSize] := by
        rw [deliveredPackets_concat, delivered_of_acked call result]
      have stages := stages_dataOrStatus acked sends
        (by rw [delivered, List.append_assoc]; exact split) further
      rw [delivered, List.length_append, List.length_singleton, Function.iterate_succ_apply',
        reached, ← List.append_assoc, ← whole] at stages
      exact under.keeps first quiet stages
    | nak =>
      refine waits ?_
      rw [WireTransaction.Acked, result]
      simp
    | noResponse =>
      refine waits ?_
      rw [WireTransaction.Acked, result]
      simp

/-- **The status stage.** -/
theorem step_status (under : ControlOut.UnderWay target setup data chunks before state)
    (stage : state.stage = .status) (acked : AckedAfter (setupCall setup) setups)
    (whole : before = setups ++ datas ++ statuses)
    (transactions : AtEach (OutDataTransaction chunks) datas)
    (all : deliveredPackets datas = chunks)
    (sameCall : ∀ transaction ∈ statuses, transaction.call = outStatusCall)
    (ignored : ∀ transaction ∈ statuses, transaction.Ignored target) (reply : WireReply) :
    StepSpec target setup data chunks before state reply (state.after reply) := by
  have call : state.call = outStatusCall := by
    rw [ControlOut.call, stage]
    rfl
  have response : WireTransaction.inResult target ⟨state.call, reply⟩ =
      some (inReturns target pidData1 0 reply) := by
    rw [call]
    rfl
  have first : SetupFirst setup before ⟨state.call, reply⟩ := setupFirst_of_receive call
  have nothing : WireTransaction.delivered ⟨state.call, reply⟩ = [] := delivered_of_receive call
  have sameCall' : ∀ transaction ∈ statuses ++ [⟨state.call, reply⟩],
      transaction.call = outStatusCall :=
    List.forall_mem_append.mpr ⟨sameCall, List.forall_mem_singleton.mpr call⟩
  have waits : WireTransaction.Ignored target ⟨state.call, reply⟩ →
      (∀ len, WireTransaction.inResult target ⟨state.call, reply⟩ ≠ some (.ok (.data len))) →
      StepSpec target setup data chunks before state reply
        (if reply.late then .returned (fail .timeout) else .again state) := by
    intro waiting quiet
    split
    · exact under.failed first nothing fun len same => absurd same (quiet len)
    · show ControlOut.UnderWay target setup data chunks _ { state with stage := state.stage }
      refine under.keeps first quiet ?_
      rw [stage, whole, List.append_assoc]
      exact .status acked transactions all sameCall'
        (List.forall_mem_append.mpr ⟨ignored, List.forall_mem_singleton.mpr waiting⟩)
  simp only [ControlOut.after, stage, under.sameTarget]
  cases returns : inReturns target pidData1 0 reply with
  | error error =>
    rw [returns] at response
    refine under.failed first nothing ?_
    intro len same
    rw [response] at same
    cases same
  | ok received =>
    rw [returns] at response
    cases received with
    | data len =>
      by_cases empty : len = 0
      · subst empty
        exact under.completes acked whole transactions all sameCall' ignored response first
      · simp only [if_neg empty]
        exact under.failed first nothing fun _ _ => rfl
    | unexpectedToggle len =>
      refine waits (.inr (.inr ⟨len, response⟩)) ?_
      rw [response]
      simp
    | nak =>
      refine waits (.inl response) ?_
      rw [response]
      simp
    | noResponse =>
      refine waits (.inr (.inl response)) ?_
      rw [response]
      simp
    | stall =>
      refine under.failed first nothing ?_
      rw [response]
      simp
    | invalidPacket => exact under.failed first nothing fun _ _ => rfl

/-- **One reply** keeps the transfer under way, or ends it. -/
theorem step (under : ControlOut.UnderWay target setup data chunks before state)
    (positive : 0 < target.maxPacketSize) (reply : WireReply) :
    StepSpec target setup data chunks before state reply (state.after reply) := by
  have stages := under.stages
  generalize stage : state.stage = current at stages
  cases stages with
  | setup repeated => exact under.step_setup positive stage repeated reply
  | data acked transactions split cut nonempty =>
    exact under.step_data acked rfl stage transactions split cut nonempty reply
  | status acked transactions all sameCall ignored =>
    exact under.step_status stage acked rfl transactions all sameCall ignored reply

end ControlOut.UnderWay

/-- A transfer before its first call. -/
theorem ControlOut.underWay_of_start (started : ControlOut.start target setup data = .ok state)
    (cut : IsChunks target.maxPacketSize data chunks) :
    ControlOut.UnderWay target setup data chunks [] state := by
  unfold ControlOut.start at started
  split at started
  · cases started
  · split at started
    · cases started
    next requested =>
      cases started
      exact
        { sameTarget := rfl
          sameSetup := rfl
          sameData := rfl
          requested := Decidable.not_not.mp requested
          cut
          ordered := atEach_nil
          quiet := fun transaction member => by cases member
          stages := .setup repeated_nil }

end UnderWay

/-- **Control OUT staging.** -/
theorem controlOut_stages {target : PipeTarget} (positive : 0 < target.maxPacketSize)
    (setup : Vector UInt8 8) (data : List UInt8) (replies : List WireReply) :
    ∃ chunks, IsChunks target.maxPacketSize data chunks ∧
      ControlOutStaged target setup data chunks (controlOut target setup data replies) := by
  obtain ⟨chunks, cut⟩ := exists_isChunks positive data
  refine ⟨chunks, cut, ?_⟩
  unfold controlOut
  split
  next error failed =>
    refine ⟨?_, List.nil_prefix, atEach_nil, ?_⟩
    · intro returned
      cases returned
    · intro transaction member
      cases member
  next state started =>
    refine Transfer.run_spec (ControlOut.UnderWay target setup data chunks)
      (fun transactions _ result => ControlOutStaged target setup data chunks
        { result, transactions }) ?_ ?_ ?_ (ControlOut.underWay_of_start started cut) replies
    · exact fun before state under => under.waiting
    · intro before state reply next under step
      have spec := under.step positive reply
      rw [show state.after reply = .again next from step] at spec
      exact spec
    · intro before state reply result under step
      have spec := under.step positive reply
      rw [show state.after reply = .returned result from step] at spec
      exact spec

/-- Three bytes in two packets, the first one sent twice. -/
theorem controlOut_stages_retry :
    let target : PipeTarget := ⟨1, ⟨0, .control, 2, 0⟩⟩
    let setup : Vector UInt8 8 := #v[0, 9, 1, 0, 0, 0, 3, 0]
    let ack : WireReply := ⟨.ok (), .ok .ack, .ok .noResponse, packetArray, false⟩
    let nak : WireReply := ⟨.ok (), .ok .nak, .ok .nak, packetArray, false⟩
    let status : WireReply := ⟨.ok (), .ok .nak, .ok (.data 0), packetArray, false⟩
    (controlOut target setup [1, 2, 3] [ack, nak, ack, ack, status]).result = .returned (.ok ()) ∧
      ∃ chunks, IsChunks target.maxPacketSize [1, 2, 3] chunks ∧
        ControlOutStaged target setup [1, 2, 3] chunks
          (controlOut target setup [1, 2, 3] [ack, nak, ack, ack, status]) :=
  ⟨rfl, controlOut_stages (by decide) _ _ _⟩

end PioUsbHost.Pipe
