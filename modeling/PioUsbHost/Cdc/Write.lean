/-
**Exactly-once delivery of a written buffer.**

An application calls `request_out` and `CdcAcmHost::write` on one bulk-OUT pipe, one call after the
other. Each call may return, fail, or be dropped where it is suspended; the application goes on without
resetting the toggles. The endpoint accepts and discards by its own toggle.

* `deliversWhole_iff`: a call that returns without an error has delivered its packets, in order and
  once, exactly when the toggles agreed as it started.
* `deliversWhole_of_failures_agree`: they do as long as no call fails between an acceptance and its ACK.
* `write_discarded`: they need not. A write whose last ACK arrives corrupted fails with the toggles
  apart; the next write is acknowledged, reported complete, and discarded.
-/

import PioUsbHost.Pipe.OutDelivery

namespace PioUsbHost.Cdc

open PioUsbHost.Usb PioUsbHost.Host PioUsbHost.Pipe PioUsbHost.Lib.AlternatingBit
open PioUsbHost.Lib.Panic

/-- The errors of the byte stream. -/
inductive CdcAcmError where
  | transfer (error : PipeError)
  deriving DecidableEq, Repr

/-- `CdcAcmHost::write`. -/
def write (link : OutLink) (data : List UInt8) (completions : List (Completion OutWire)) :
    Call CdcAcmError Nat × OutLink :=
  if data = [] then (.returned (.ok 0), link)
  else
    match link.requestOut data false completions with
    | (.waiting, after) => (.waiting, after)
    | (.returned result, after) =>
      (.returned (convert .transfer (result.map fun _ => data.length)), after)

/-! ### A session on one pipe -/

/-- A call of the application. -/
inductive OutCall where
  | requestOut (data : List UInt8) (ensureTransactionEnd : Bool)
  | write (data : List UInt8)
  deriving DecidableEq

/-- How a call ends, or where it was dropped. -/
inductive OutResult where
  | requestOut (result : Call PipeError Unit)
  | write (result : Call CdcAcmError Nat)
  deriving DecidableEq

/-- The call has returned, and not with an error. -/
def OutResult.Succeeds : OutResult → Prop
  | requestOut result => result = .returned (.ok ())
  | write result => ∃ count, result = .returned (.ok count)

namespace OutCall

/-- The packets that carry exactly the call's data. A write of nothing sends nothing. -/
def packets (link : OutLink) : OutCall → List (List UInt8)
  | requestOut data ensureTransactionEnd => link.packets data ensureTransactionEnd
  | write data => if data = [] then [] else link.packets data false

/-- The call, resumed once for each completion. -/
def run (link : OutLink) (completions : List (Completion OutWire)) : OutCall → OutResult × OutLink
  | requestOut data ensureTransactionEnd =>
    let (result, after) := link.requestOut data ensureTransactionEnd completions
    (.requestOut result, after)
  | write data =>
    let (result, after) := Cdc.write link data completions
    (.write result, after)

end OutCall

/-- One call of a session, with the link before and after it. -/
structure OutRecord where
  before : OutLink
  call : OutCall
  result : OutResult
  after : OutLink
  deriving DecidableEq

/-- The calls of a session, one after the other. -/
def session (link : OutLink) : List (OutCall × List (Completion OutWire)) → List OutRecord
  | [] => []
  | (call, completions) :: rest =>
    let (result, after) := call.run link completions
    { before := link, call, result, after } :: session after rest

namespace OutRecord

/-- The endpoint has accepted every packet of the call, in order and once, and nothing else. -/
def DeliversWhole (record : OutRecord) : Prop :=
  record.after.endpoint.accepted =
    record.before.endpoint.accepted ++ record.call.packets record.before

instance (record : OutRecord) : Decidable record.DeliversWhole :=
  inferInstanceAs (Decidable (record.after.endpoint.accepted =
    record.before.endpoint.accepted ++ record.call.packets record.before))

end OutRecord

/-! ### What a successful call has delivered -/

variable {link after : OutLink} {completions : List (Completion OutWire)}

/-- A write that returns has sent its data, or had none to send. -/
theorem write_eq_ok {data : List UInt8} {count : Nat}
    (returned : write link data completions = (.returned (.ok count), after)) :
    count = data.length ∧
      (data = [] ∧ after = link ∨
        data ≠ [] ∧ link.requestOut data false completions = (.returned (.ok ()), after)) := by
  unfold write at returned
  split at returned
  next empty =>
    cases returned
    exact ⟨by rw [empty, List.length_nil], .inl ⟨empty, rfl⟩⟩
  next some =>
    split at returned
    next => cases returned
    next result now sent =>
      obtain ⟨same, rfl⟩ := Prod.mk.inj returned
      have ok := convert_eq_ok.mp (Call.returned.inj same)
      cases result with
      | error fault => cases ok
      | ok done =>
        cases ok
        exact ⟨rfl, .inr ⟨some, sent⟩⟩

/-- **A successful call delivers its packets as the alternating bit does.** -/
theorem endpoint_of_succeeds {call : OutCall} (succeeds : (call.run link completions).1.Succeeds) :
    (call.run link completions).2.endpoint =
      link.endpoint.deliverAll link.pipe.dataToggle (call.packets link) := by
  cases call with
  | requestOut data ensureTransactionEnd =>
    exact (OutLink.requestOut_spec (Prod.ext succeeds rfl)).message
  | write data =>
    obtain ⟨count, returned⟩ := succeeds
    have same : write link data completions =
        (.returned (.ok count), (write link data completions).2) := Prod.ext returned rfl
    obtain ⟨-, ⟨empty, unchanged⟩ | ⟨some, sent⟩⟩ := write_eq_ok same
    · show (write link data completions).2.endpoint = _
      rw [unchanged, OutCall.packets, if_pos empty, Receiver.deliverAll_nil]
    · show (write link data completions).2.endpoint = _
      rw [OutCall.packets, if_neg some]
      exact (OutLink.requestOut_spec sent).message

/-- The records of a session are runs of its calls. -/
theorem session_run {calls : List (OutCall × List (Completion OutWire))} {record : OutRecord}
    (member : record ∈ session link calls) :
    ∃ completions, record.result = (record.call.run record.before completions).1 ∧
      record.after = (record.call.run record.before completions).2 := by
  induction calls generalizing link with
  | nil => cases member
  | cons first rest ih =>
    obtain ⟨call, completions⟩ := first
    rcases List.mem_cons.mp member with rfl | later
    · exact ⟨completions, rfl, rfl⟩
    · exact ih later

/-- **When a successful call has delivered its data.** In every session, whatever the wire and the
endpoint did, a call that returns without an error has delivered every packet of its data, in order and
once, exactly when it had nothing to send or the toggles agreed as it started. -/
theorem deliversWhole_iff (link : OutLink) (calls : List (OutCall × List (Completion OutWire))) :
    ∀ record ∈ session link calls, record.result.Succeeds →
      (record.DeliversWhole ↔
        record.call.packets record.before = [] ∨ record.before.Agrees) := by
  intro record member succeeds
  obtain ⟨completions, result, after⟩ := session_run member
  rw [result] at succeeds
  rw [OutRecord.DeliversWhole, after, endpoint_of_succeeds succeeds]
  exact Receiver.deliverAll_accepted_iff

/-- A successful call leaves the toggles in agreement. -/
theorem agrees_of_succeeds {call : OutCall} (agrees : link.Agrees)
    (succeeds : (call.run link completions).1.Succeeds) : (call.run link completions).2.Agrees := by
  cases call with
  | requestOut data ensureTransactionEnd =>
    exact (OutLink.requestOut_spec (Prod.ext succeeds rfl)).agrees
  | write data =>
    obtain ⟨count, returned⟩ := succeeds
    have same : write link data completions =
        (.returned (.ok count), (write link data completions).2) := Prod.ext returned rfl
    show (write link data completions).2.Agrees
    obtain ⟨-, ⟨-, unchanged⟩ | ⟨-, sent⟩⟩ := write_eq_ok same
    · rw [unchanged]
      exact agrees
    · exact (OutLink.requestOut_spec sent).agrees

/-- **A session whose failed calls leave the toggles in agreement** delivers the data of every
successful one. -/
theorem deliversWhole_of_failures_agree {calls : List (OutCall × List (Completion OutWire))}
    (agrees : link.Agrees)
    (failures : ∀ record ∈ session link calls, ¬ record.result.Succeeds → record.after.Agrees) :
    ∀ record ∈ session link calls, record.result.Succeeds → record.DeliversWhole := by
  induction calls generalizing link with
  | nil =>
    intro record member
    cases member
  | cons first rest ih =>
    obtain ⟨call, completions⟩ := first
    have next : (call.run link completions).2.Agrees := by
      by_cases succeeds : (call.run link completions).1.Succeeds
      · exact agrees_of_succeeds agrees succeeds
      · exact failures _ List.mem_cons_self succeeds
    intro record member succeeds
    rcases List.mem_cons.mp member with rfl | later
    · show (call.run link completions).2.endpoint.accepted =
        link.endpoint.accepted ++ call.packets link
      rw [endpoint_of_succeeds succeeds]
      exact Receiver.deliverAll_of_eq agrees _
    · exact ih next (fun record member => failures record (List.mem_cons_of_mem _ member)) record
        later succeeds

/-! ### A write that is discarded -/

/-- A connected full-speed port. -/
def fullSpeedPort : PortState :=
  { connected := true, speed := some .full, connectionGeneration := 1, resetGeneration := 1 }

/-- A pipe to bulk-OUT endpoint 2 of device 1, and the endpoint, both fresh. -/
def freshLink : OutLink :=
  { pipe :=
      { target :=
          { deviceAddress := 1
            endpoint := { addr := 0x02, epType := .bulk, maxPacketSize := 64, intervalMs := 0 } }
        dataToggle := .data0, connectionGeneration := 1, resetGeneration := 1 }
    endpoint := { expected := .data0, accepted := [] } }

/-- One transaction with a ready endpoint: the deadline, the engine, the wire. -/
def oneTransaction (handshake : PacketFate) : List (Completion OutWire) :=
  List.replicate 3 { port := fullSpeedPort, wire := .sent (some .ready) handshake }

/-- The ACK of the first write arrives corrupted; the second write meets no fault. -/
def corruptedAck : List (OutCall × List (Completion OutWire)) :=
  [(.write [1, 2, 3], oneTransaction .corrupted), (.write [4, 5], oneTransaction .arrives)]

/-- The first write fails, and the endpoint has its packet. -/
def failedWrite : OutRecord :=
  { before := freshLink
    call := .write [1, 2, 3]
    result := .write (.returned (fail (.transfer .badResponse)))
    after := { freshLink with endpoint := { expected := .data1, accepted := [[1, 2, 3]] } } }

/-- The second write returns, and the endpoint has not got its packet. -/
def discardedWrite : OutRecord :=
  { before := failedWrite.after
    call := .write [4, 5]
    result := .write (.returned (.ok 2))
    after :=
      { failedWrite.after with pipe := { freshLink.pipe with dataToggle := .data1 } } }

theorem session_corruptedAck :
    session freshLink corruptedAck = [failedWrite, discardedWrite] := by
  decide +kernel

theorem discardedWrite_mem : discardedWrite ∈ session freshLink corruptedAck := by
  rw [session_corruptedAck]
  exact List.mem_cons_of_mem _ (List.mem_singleton_self _)

theorem deliversWhole_iff_corruptedAck :
    discardedWrite.DeliversWhole ↔
      discardedWrite.call.packets discardedWrite.before = [] ∨ discardedWrite.before.Agrees :=
  deliversWhole_iff freshLink corruptedAck discardedWrite discardedWrite_mem ⟨2, rfl⟩

/-- **A reported write that never arrived.** -/
theorem write_discarded :
    ¬ ∀ (link : OutLink) (calls : List (OutCall × List (Completion OutWire))), link.Agrees →
        ∀ record ∈ session link calls, record.result.Succeeds → record.DeliversWhole := by
  intro claim
  have delivered := claim freshLink corruptedAck rfl discardedWrite discardedWrite_mem ⟨2, rfl⟩
  exact absurd delivered (by decide)

end PioUsbHost.Cdc
