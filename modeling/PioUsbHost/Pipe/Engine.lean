/-
**One transaction of the packet engine with a compliant endpoint.**

`Rp2040PioEngine::request_out_once` and `request_in_once`, with `out_once` and `in_once` under them.
What happens to the packets on their way is an input, and the endpoint is the other party:

* an OUT endpoint is a receiver of the alternating bit, an IN endpoint a sender;
* what reaches a party reaches it as the bytes that were sent, and is parsed there. Of a packet that
  does not reach the device nothing comes back; of one that does not reach the host, nothing or an
  invalid packet.

The waits of the two routines come before the first byte, so a dropped transaction was not begun.

* `requestOutOnce_spec`, `requestInOnce_spec`: all that one transaction can do.
-/

import PioUsbHost.Lib.AlternatingBit
import PioUsbHost.Pipe.Request
import PioUsbHost.Rx.Answer

namespace PioUsbHost.Pipe

open PioUsbHost.Usb PioUsbHost.Host PioUsbHost.Rx PioUsbHost.Lib PioUsbHost.Lib.AlternatingBit

instance : AlternatingBit DataToggle where
  flip := DataToggle.afterAck
  flip_ne := DataToggle.afterAck_ne
  eq_flip_of_ne := DataToggle.eq_afterAck_of_ne

@[simp] theorem flip_eq_afterAck (toggle : DataToggle) :
    AlternatingBit.flip toggle = toggle.afterAck := rfl

/-! ### OUT: the endpoint -/

/-- An OUT endpoint: the toggle it expects and the payloads it has accepted. -/
abbrev OutEndpoint := Receiver DataToggle (List UInt8)

/-- What state a transaction finds the endpoint in. -/
inductive EndpointCondition where
  | ready
  | busy
  | halted
  deriving DecidableEq, Repr

/-- The endpoint's handshake to the DATA packet that reaches it. A packet it cannot parse is not
answered. -/
def answerData (endpoint : OutEndpoint) (condition : EndpointCondition) (bytes : List UInt8) :
    Option UInt8 × OutEndpoint :=
  match parsePacket bytes with
  | .ok (.data pid payload) =>
    match condition with
    | .halted => (some pidStall, endpoint)
    | .busy => (some pidNak, endpoint)
    | .ready =>
      if pid = endpoint.expected.pid then
        (some pidAck,
          { expected := endpoint.expected.afterAck, accepted := endpoint.accepted ++ [payload] })
      else (some pidAck, endpoint)
  | _ => (none, endpoint)

/-! ### OUT: the engine -/

/-- What `receive_handshake` returns. -/
inductive ReceiveResult where
  | handshake (pid : UInt8)
  | invalidPacket
  | noStart
  deriving DecidableEq, Repr

/-- What a device answers to a data packet. -/
inductive OutResponse where
  | ack
  | nak
  | noResponse
  deriving DecidableEq, Repr

/-- What becomes of a packet on its way to the host. -/
inductive PacketFate where
  | arrives
  | lost
  | corrupted
  deriving DecidableEq, Repr

/-- What an OUT transaction meets. `reached` is the endpoint's condition, if token and DATA packet
reach it intact. -/
inductive OutWire where
  | frameFailed (error : PipeError)
  | receiverNotParked (error : PipeError)
  | transmitFailed (reached : Option EndpointCondition)
  | sent (reached : Option EndpointCondition) (handshake : PacketFate)
  deriving DecidableEq

/-- The endpoint, if the packets reach it. -/
def reach (endpoint : OutEndpoint) (reached : Option EndpointCondition) (bytes : List UInt8) :
    Option UInt8 × OutEndpoint :=
  match reached with
  | none => (none, endpoint)
  | some condition => answerData endpoint condition bytes

/-- What the host receives of the endpoint's answer. -/
def receiveHandshake (answer : Option UInt8) : PacketFate → ReceiveResult
  | .arrives =>
    match answer with
    | some pid => .handshake pid
    | none => .noStart
  | .lost => .noStart
  | .corrupted => .invalidPacket

/-- The `match` at the end of `out_once`. -/
def outResponse : ReceiveResult → Except PipeError OutResponse
  | .handshake pid =>
    if pid = pidAck then .ok .ack
    else if pid = pidNak then .ok .nak
    else if pid = pidStall then .error .stall
    else .error .badResponse
  | .invalidPacket => .error .badResponse
  | .noStart => .ok .noResponse

/-- `out_once`. Every transmitter error is reported as a timeout (`map_tx_error`). -/
def outOnce (dataPid : UInt8) (payload : List UInt8) (wire : OutWire) (endpoint : OutEndpoint) :
    Except PipeError OutResponse × OutEndpoint :=
  match wire, rawDataPacket dataPid payload with
  | .frameFailed error, _ => (.error error, endpoint)
  | _, .error _ => (.error .bufferOverflow, endpoint)
  | .receiverNotParked error, .ok _ => (.error error, endpoint)
  | .transmitFailed reached, .ok dataPacket =>
    (.error .timeout, (reach endpoint reached dataPacket).2)
  | .sent reached handshake, .ok dataPacket =>
    let (answer, after) := reach endpoint reached dataPacket
    (outResponse (receiveHandshake answer handshake), after)

/-- What a transaction leaves behind. -/
structure Transacted (ο δ : Type) where
  result : Except PipeError (TransactionOutcome ο)
  toggle : DataToggle
  endpoint : δ

/-- **`request_out_once`.** -/
def requestOutOnce (target : PipeTarget) (toggle : DataToggle) (packet : List UInt8)
    (wire : OutWire) (endpoint : OutEndpoint) : Transacted Unit OutEndpoint :=
  if target.endpoint.epType ∉ [EndpointType.bulk, .interrupt] ∨ target.endpoint.isIn then
    { result := .error .badResponse, toggle, endpoint }
  else
    match outOnce toggle.pid packet wire endpoint with
    | (.error error, endpoint) => { result := .error error, toggle, endpoint }
    | (.ok .ack, endpoint) => { result := .ok (.complete ()), toggle := toggle.afterAck, endpoint }
    | (.ok .nak, endpoint) => { result := .ok .nak, toggle, endpoint }
    | (.ok .noResponse, endpoint) => { result := .ok .noResponse, toggle, endpoint }

/-! ### OUT: all that a transaction can do -/

section Out

variable {endpoint : OutEndpoint} {toggle : DataToggle} {payload bytes : List UInt8}

/-- A ready endpoint takes a DATA packet as a receiver of the alternating bit does. -/
theorem answerData_ready (built : rawDataPacket toggle.pid payload = .ok bytes) :
    answerData endpoint .ready bytes = (some pidAck, endpoint.receive toggle payload) := by
  unfold answerData
  rw [parsePacket_rawDataPacket built]
  by_cases agrees : toggle = endpoint.expected
  · rw [Receiver.receive_of_eq agrees]
    simp only [agrees, if_true, flip_eq_afterAck]
  · have differs : toggle.pid ≠ endpoint.expected.pid := fun same =>
      agrees (DataToggle.pid_injective same)
    rw [Receiver.receive_of_ne agrees]
    simp only [differs, if_false]

/-- The endpoint is left as it was, or has received the packet; it acknowledges only what it has
received. -/
theorem reach_spec (endpoint : OutEndpoint) (built : rawDataPacket toggle.pid payload = .ok bytes)
    (reached : Option EndpointCondition) :
    reach endpoint reached bytes = (some pidAck, endpoint.receive toggle payload) ∨
      ((reach endpoint reached bytes).1 ≠ some pidAck ∧
        (reach endpoint reached bytes).2 = endpoint) := by
  cases reached with
  | none => exact .inr ⟨by simp [reach], rfl⟩
  | some condition =>
    cases condition with
    | ready => exact .inl (answerData_ready built)
    | busy =>
      right
      simp only [reach, answerData, parsePacket_rawDataPacket built, and_true]
      decide
    | halted =>
      right
      simp only [reach, answerData, parsePacket_rawDataPacket built, and_true]
      decide

/-- The host sees an ACK only if the endpoint sent one. -/
theorem eq_ack_of_outResponse {answer : Option UInt8} {fate : PacketFate}
    (acknowledged : outResponse (receiveHandshake answer fate) = .ok .ack) :
    answer = some pidAck := by
  cases fate with
  | arrives =>
    cases answer with
    | none => cases acknowledged
    | some pid =>
      simp only [receiveHandshake, outResponse] at acknowledged
      split at acknowledged
      next same => rw [same]
      next =>
        repeat' split at acknowledged
        all_goals cases acknowledged
  | lost => cases acknowledged
  | corrupted => cases acknowledged

/-- An OUT transaction delivers the packet or does nothing to the endpoint, and returns an ACK only
for a packet it has delivered. -/
theorem outOnce_spec (toggle : DataToggle) (payload : List UInt8) (wire : OutWire)
    (endpoint : OutEndpoint) :
    (outOnce toggle.pid payload wire endpoint).2 = endpoint.receive toggle payload ∨
      ((outOnce toggle.pid payload wire endpoint).1 ≠ .ok .ack ∧
        (outOnce toggle.pid payload wire endpoint).2 = endpoint) := by
  cases built : rawDataPacket toggle.pid payload with
  | error error => cases wire <;> exact .inr ⟨by simp [outOnce, built], by simp [outOnce, built]⟩
  | ok bytes =>
    cases wire with
    | frameFailed error => exact .inr ⟨by simp [outOnce], rfl⟩
    | receiverNotParked error => exact .inr ⟨by simp [outOnce, built], by simp [outOnce, built]⟩
    | transmitFailed reached =>
      simp only [outOnce, built]
      rcases reach_spec endpoint built reached with delivered | ⟨-, same⟩
      · exact .inl (by rw [delivered])
      · exact .inr ⟨by simp, same⟩
    | sent reached fate =>
      simp only [outOnce, built]
      rcases reach_spec endpoint built reached with delivered | ⟨silent, same⟩
      · exact .inl (by rw [delivered])
      · exact .inr ⟨fun acknowledged => silent (eq_ack_of_outResponse acknowledged), same⟩

/-- **All that `request_out_once` can do.** A completed transaction has delivered the packet and
advances the toggle; any other keeps the toggle and may have delivered the packet. -/
theorem requestOutOnce_spec (target : PipeTarget) (toggle : DataToggle) (packet : List UInt8)
    (wire : OutWire) (endpoint : OutEndpoint) :
    let after := requestOutOnce target toggle packet wire endpoint
    (after.result = .ok (.complete ()) ∧ after.toggle = toggle.afterAck ∧
        after.endpoint = endpoint.receive toggle packet) ∨
      (after.result ≠ .ok (.complete ()) ∧ after.toggle = toggle ∧
        (after.endpoint = endpoint ∨ after.endpoint = endpoint.receive toggle packet)) := by
  intro after
  have spec := outOnce_spec toggle packet wire endpoint
  simp only [after, requestOutOnce]
  split
  · exact .inr ⟨by simp, rfl, .inl rfl⟩
  · split
    all_goals rename_i out; rw [out] at spec
    · refine .inr ⟨by simp, rfl, ?_⟩
      rcases spec with delivered | ⟨-, same⟩
      · exact .inr delivered
      · exact .inl same
    · left
      rcases spec with delivered | ⟨notAck, -⟩
      · exact ⟨rfl, rfl, delivered⟩
      · exact absurd rfl notAck
    · refine .inr ⟨by simp, rfl, ?_⟩
      rcases spec with delivered | ⟨-, same⟩
      · exact .inr delivered
      · exact .inl same
    · refine .inr ⟨by simp, rfl, ?_⟩
      rcases spec with delivered | ⟨-, same⟩
      · exact .inr delivered
      · exact .inl same

end Out

/-! ### IN: the endpoint -/

/-- An IN endpoint: the toggle of the packet it sends, and the payloads not yet acknowledged. -/
abbrev InEndpoint := Sender DataToggle (List UInt8)

/-- How the endpoint answers an IN token that reaches it. -/
inductive InAnswer where
  | nak
  | stall
  | data
  deriving DecidableEq, Repr

/-- The bytes of the answer. An endpoint with nothing to send answers NAK. -/
def answerToken (endpoint : InEndpoint) : InAnswer → Option (List UInt8)
  | .nak => some [sync, pidNak]
  | .stall => some [sync, pidStall]
  | .data =>
    match endpoint.pending with
    | [] => some [sync, pidNak]
    | payload :: _ => (rawDataPacket endpoint.bit.pid payload).toOption

/-- An ACK reaches the endpoint, which waits for one once it has sent a packet. -/
def hearAck (endpoint : InEndpoint) (answered : Option InAnswer) : InEndpoint :=
  match answered, endpoint.pending with
  | some .data, _ :: _ => endpoint.acknowledge
  | _, _ => endpoint

/-! ### IN: the engine -/

/-- What an IN transaction meets. `answered` is the endpoint's answer, if the token reaches it and it
does answer; `fate` what the passes of the receive routine read of it, and `irqs` which of its waits on
the transmitter end in time. The guard is that of the engine's wire profile. -/
inductive InWire where
  | frameFailed (error : PipeError)
  | receiverNotParked (error : PipeError)
  | sent (answered : Option InAnswer) (fate : AnswerFate) (irqs : TxIrqs)
      (ackEopGuardCycles : UInt32) (ackArrives : Bool)

/-- `[0_u8; MAX_DECODED_BYTES - 4]`. -/
def packetArray : List UInt8 := List.replicate (maxDecodedBytes - 4) 0

/-- `map_tx_error`. -/
def mapTxError : TxError → PipeError
  | .eopMissing => .timeout

/-- The call of `receive_data_packet`, on the front of the payload array. The transmitter is idle, and
what it records is of this call. -/
def receiveAnswer (target : PipeTarget) (expectedPid : UInt8) (maxPayloadLen : Nat)
    (packet : List UInt8) (acknowledge : Bool) (answer : Option (List UInt8)) (fate : AnswerFate)
    (irqs : TxIrqs) (ackEopGuardCycles : UInt32) : ReceiveOutcome :=
  receiveDataPacket .fresh irqs (fate.polls answer) rxPacketPollBudget
    (tokenPacket pidIn target.deviceAddress (UInt8.ofNat target.endpoint.index))
    (packet.take target.maxPacketSize) (Vector.replicate maxDecodedBytes 0) maxPayloadLen expectedPid
    ackEopGuardCycles acknowledge

/-- What `in_once` leaves behind. -/
structure InOnce where
  result : Except PipeError InReceiveResult
  packet : List UInt8
  endpoint : InEndpoint

/-- Nothing has been received. -/
def InOnce.failed (error : PipeError) (packet : List UInt8) (endpoint : InEndpoint) : InOnce :=
  { result := .error error, packet, endpoint }

/-- The checks of `in_once` on its arguments. -/
def checkReceive (target : PipeTarget) (expectedPid : UInt8) (maxPayloadLen : Nat)
    (packet : List UInt8) : Except PipeError Unit :=
  if target.maxPacketSize > packet.length then .error .bufferOverflow
  else if !isDataPid expectedPid || decide (maxPayloadLen > target.maxPacketSize) then
    .error .badResponse
  else .ok ()

/-- `in_once`. The endpoint hears the ACK if one is released and arrives. -/
def inOnce (target : PipeTarget) (expectedPid : UInt8) (maxPayloadLen : Nat) (packet : List UInt8)
    (acknowledge : Bool) (wire : InWire) (endpoint : InEndpoint) : InOnce :=
  match wire, checkReceive target expectedPid maxPayloadLen packet with
  | .frameFailed error, _ => .failed error packet endpoint
  | _, .error error => .failed error packet endpoint
  | .receiverNotParked error, .ok () => .failed error packet endpoint
  | .sent answered fate irqs ackEopGuardCycles ackArrives, .ok () =>
    let outcome := receiveAnswer target expectedPid maxPayloadLen packet acknowledge
      (answered.bind (answerToken endpoint)) fate irqs ackEopGuardCycles
    { result := outcome.result.mapError mapTxError
      packet := outcome.payload ++ packet.drop target.maxPacketSize
      endpoint :=
        if ackArrives && outcome.tx.released.contains [sync, pidAck] then hearAck endpoint answered
        else endpoint }

/-- **`request_in_once`**, on a buffer of `bufferLen` bytes. -/
def requestInOnce (target : PipeTarget) (toggle : DataToggle) (bufferLen : Nat) (wire : InWire)
    (endpoint : InEndpoint) : Transacted (List UInt8) InEndpoint :=
  if target.endpoint.epType ∉ [EndpointType.bulk, .interrupt, .isochronous]
      ∨ target.endpoint.isIn = false then
    { result := .error .badResponse, toggle, endpoint }
  else
    let isochronous := decide (target.endpoint.epType = .isochronous)
    let expectedPid := if isochronous then pidData0 else toggle.pid
    let once := inOnce target expectedPid (min bufferLen target.maxPacketSize) packetArray
      (!isochronous) wire endpoint
    match once.result with
    | .error error => { result := .error error, toggle, endpoint := once.endpoint }
    | .ok (.data len) =>
      { result :=
          if len.toNat > bufferLen then .error .bufferOverflow
          else .ok (.complete (once.packet.take len.toNat))
        toggle := if isochronous then toggle else toggle.afterAck
        endpoint := once.endpoint }
    | .ok (.unexpectedToggle _) => { result := .ok .nak, toggle, endpoint := once.endpoint }
    | .ok .nak => { result := .ok .nak, toggle, endpoint := once.endpoint }
    | .ok .stall => { result := .error .stall, toggle, endpoint := once.endpoint }
    | .ok .noResponse => { result := .ok .noResponse, toggle, endpoint := once.endpoint }
    | .ok .invalidPacket => { result := .error .badResponse, toggle, endpoint := once.endpoint }

/-! ### IN: transactions on a pipe with toggles -/

/-- The transmitter does not report the end of an ACK it has released. -/
def InWire.ackStalls : InWire → Bool
  | .sent _ _ irqs _ _ => !(irqs.ackEop && irqs.ackDone)
  | _ => false

/-- An IN transaction on a pipe with toggles: what it starts from, and what it meets. -/
structure InTransaction where
  target : PipeTarget
  toggle : DataToggle
  bufferLen : Nat
  endpoint : InEndpoint
  wire : InWire

namespace InTransaction

/-- The longest payload it asks for. -/
def maxPayloadLen (transaction : InTransaction) : Nat :=
  min transaction.bufferLen transaction.target.maxPacketSize

/-- The arguments of its call of `receive_data_packet`. -/
def params (transaction : InTransaction) (ackEopGuardCycles : UInt32) : InParams :=
  callParams (packetArray.take transaction.target.maxPacketSize) transaction.maxPayloadLen
    transaction.toggle.pid ackEopGuardCycles

/-- Its packet, if that is corrupted, is not classified as valid. -/
def RejectsCorrupted (transaction : InTransaction) : Prop :=
  match transaction.wire with
  | .sent _ (.corrupted polls) irqs ackEopGuardCycles _ =>
    ∀ result, (receiveAnswer transaction.target transaction.toggle.pid transaction.maxPayloadLen
      packetArray true none (.corrupted polls) irqs ackEopGuardCycles).result = .ok result →
        acked result = false
  | _ => True

/-- **It decides on a proper prefix of the packet it expects.** The endpoint sends the packet with the
toggle of the pipe, and at the pass that sees its end a shorter packet stands in for it. -/
def DecidesOnPrefix (transaction : InTransaction) : Prop :=
  match transaction.wire with
  | .sent (some .data) (.arrives pace) irqs ackEopGuardCycles _ =>
    transaction.endpoint.bit = transaction.toggle ∧ (irqs.tokenEop && irqs.tokenDone) = true ∧
      ∃ bytes ∈ answerToken transaction.endpoint .data, ∃ last ≤ rxPacketPollBudget,
        (pace.schedule bytes).EndsAt last ∧
          StalePrefix (transaction.params ackEopGuardCycles) (pace.schedule bytes) last
  | _ => False

/-- Its packet is judged as what it is: a corrupted one is not taken for a valid one, nor a prefix for
the whole. -/
structure Judged (transaction : InTransaction) : Prop where
  rejects : transaction.RejectsCorrupted
  whole : ¬ transaction.DecidesOnPrefix

end InTransaction

/-! ### IN: all that a transaction can do -/

section In

variable {endpoint : InEndpoint} {params : InParams} {bytes payload : List UInt8} {pid : UInt8}

/-- An answer is no longer than a packet can be. -/
theorem length_answerToken {answered : InAnswer} (answer : bytes ∈ answerToken endpoint answered) :
    bytes.length ≤ maxDecodedBytes := by
  cases answered with
  | nak => cases answer; decide
  | stall => cases answer; decide
  | data =>
    cases queue : endpoint.pending with
    | nil =>
      rw [answerToken, queue] at answer
      cases answer
      decide
    | cons head rest =>
      simp only [answerToken, queue] at answer
      cases built : rawDataPacket endpoint.bit.pid head with
      | error error =>
        rw [built] at answer
        cases answer
      | ok packet =>
        rw [built] at answer
        obtain rfl : packet = bytes := Option.some.inj answer
        obtain ⟨-, fits, rfl⟩ := rawDataPacket_eq_ok.mp built
        simp only [List.length_append, List.length_cons, List.length_nil, maxDecodedBytes]
        omega

/-- A packet of two bytes is no DATA packet. -/
theorem ackableBytes_of_short (short : bytes.length ≤ 2) : ackableBytes params bytes = false := by
  by_contra ackable
  rw [Bool.not_eq_false] at ackable
  obtain ⟨pid, payload, parsed, -⟩ := ackableBytes_iff.mp ackable
  obtain ⟨body, rfl, -, long, -⟩ := parsePacket_data_iff.mp parsed
  rw [List.length_cons, List.length_cons] at short
  omega

/-- **Only the head of the endpoint's queue begins with a DATA packet**, and that has its toggle. -/
theorem head_of_ackable {answered : Option InAnswer} {wire : List UInt8}
    (answer : answered.bind (answerToken endpoint) = some wire) (inside : bytes <+: wire)
    (ackable : ackableBytes params bytes = true) :
    ∃ head rest payload, answered = some .data ∧ endpoint.pending = head :: rest ∧
      rawDataPacket endpoint.bit.pid head = .ok wire ∧
        parsePacket bytes = .ok (.data endpoint.bit.pid payload) := by
  have handshake : ∀ pid, wire ≠ [sync, pid] := by
    rintro pid rfl
    rw [ackableBytes_of_short inside.length_le] at ackable
    cases ackable
  cases answered with
  | none => cases answer
  | some kind =>
    cases kind with
    | nak => exact absurd (Option.some.inj answer).symm (handshake pidNak)
    | stall => exact absurd (Option.some.inj answer).symm (handshake pidStall)
    | data =>
      cases queue : endpoint.pending with
      | nil =>
        simp only [Option.bind_some, answerToken, queue] at answer
        exact absurd (Option.some.inj answer).symm (handshake pidNak)
      | cons head rest =>
        simp only [Option.bind_some, answerToken, queue] at answer
        cases built : rawDataPacket endpoint.bit.pid head with
        | error error =>
          rw [built] at answer
          cases answer
        | ok packet =>
          rw [built] at answer
          obtain rfl : packet = wire := Option.some.inj answer
          obtain ⟨other, payload, parsed, -⟩ := ackableBytes_iff.mp ackable
          obtain ⟨-, -, framed⟩ := rawDataPacket_eq_ok.mp built
          obtain ⟨body, rfl, -⟩ := parsePacket_data_iff.mp parsed
          rw [framed] at inside
          have same : other = endpoint.bit.pid :=
            (List.cons_prefix_cons.mp (List.cons_prefix_cons.mp inside).2).1
          exact ⟨head, rest, payload, rfl, rfl, built, same ▸ parsed⟩

/-- A packet with the other toggle is acknowledged as a repetition. -/
theorem plainVerdict_of_ne {toggle : DataToggle} (expected : params.expectedPid = toggle.pid)
    (parsed : parsePacket bytes = .ok (.data endpoint.bit.pid payload))
    (differs : toggle ≠ endpoint.bit) (acknowledged : acked (plainVerdict params bytes) = true) :
    plainVerdict params bytes = .unexpectedToggle (UInt8.ofNat payload.length) := by
  have other : endpoint.bit.pid ≠ params.expectedPid := by
    rw [expected]
    exact fun same => differs (DataToggle.pid_injective same).symm
  simp only [plainVerdict, parsed] at acknowledged ⊢
  cases verdict : classifyInData true params.expectedPid params.maxPayloadLen params.payloadLen
    endpoint.bit.pid payload.length with
  | accept => exact absurd (accept_iff.mp verdict).2.1 other
  | duplicate => rfl
  | reject => rw [verdict] at acknowledged; cases acknowledged

/-- A packet with the expected toggle is acknowledged as data. -/
theorem plainVerdict_of_eq {toggle : DataToggle} (expected : params.expectedPid = toggle.pid)
    (parsed : parsePacket bytes = .ok (.data endpoint.bit.pid payload))
    (agrees : toggle = endpoint.bit) (acknowledged : acked (plainVerdict params bytes) = true) :
    plainVerdict params bytes = .data (UInt8.ofNat payload.length) ∧
      payload.length ≤ params.maxPayloadLen := by
  have same : endpoint.bit.pid = params.expectedPid := by rw [expected, agrees]
  simp only [plainVerdict, parsed] at acknowledged ⊢
  cases verdict : classifyInData true params.expectedPid params.maxPayloadLen params.payloadLen
    endpoint.bit.pid payload.length with
  | accept => exact ⟨rfl, (accept_iff.mp verdict).2.2⟩
  | duplicate => exact absurd same (duplicate_iff.mp verdict).2
  | reject => rw [verdict] at acknowledged; cases acknowledged

/-- What an IN transaction does on a pipe with toggles: nothing to the endpoint, or the head of its
queue is acknowledged, as data or as a repetition. -/
inductive InOnceSpec (toggle : DataToggle) (maxPayloadLen : Nat) (endpoint : InEndpoint)
    (once : InOnce) : Prop where
  | unanswered (result : ∀ result, once.result = .ok result → acked result = false)
      (same : once.endpoint = endpoint)
  | acknowledged (head : List UInt8) (rest : List (List UInt8))
      (queue : endpoint.pending = head :: rest) (short : head.length ≤ 100)
      (after : once.endpoint = endpoint ∨ once.endpoint = endpoint.acknowledge)
      (verdict :
        (toggle ≠ endpoint.bit ∧ ∃ len, once.result = .ok (.unexpectedToggle len)) ∨
          (toggle = endpoint.bit ∧ once.result = .ok (.data (UInt8.ofNat head.length)) ∧
            head.length ≤ maxPayloadLen ∧ once.packet.take head.length = head))

/-- The ACK is among what a call has released exactly if its result is acknowledged. -/
theorem contains_releasedFor (address endpoint : UInt8) (result : Except TxError InReceiveResult) :
    (releasedFor (tokenPacket pidIn address endpoint) result).contains [sync, pidAck] = true ↔
      ∃ received, result = .ok received ∧ acked received = true := by
  have other : [sync, pidAck] ≠ tokenPacket pidIn address endpoint := fun same =>
    absurd (congrArg List.length same) (by simp [tokenPacket])
  rw [List.contains_iff_mem]
  cases result with
  | error error =>
    simp only [releasedFor, List.mem_singleton, other, reduceCtorEq, false_and, exists_false]
  | ok received =>
    cases acknowledged : acked received with
    | false => simp [releasedFor, ackFor, acknowledged, other]
    | true => simp [releasedFor, ackFor, acknowledged]

/-- An ACK leaves the endpoint as it was, or advances it. -/
theorem hearAck_cases {answered : Option InAnswer} {ackArrives : Prop} [Decidable ackArrives]
    {head : List UInt8} {rest : List (List UInt8)} (queue : endpoint.pending = head :: rest)
    (data : answered = some .data) :
    (if ackArrives then hearAck endpoint answered else endpoint) = endpoint ∨
      (if ackArrives then hearAck endpoint answered else endpoint) = endpoint.acknowledge := by
  split
  · right
    unfold hearAck
    rw [data, queue]
  · exact .inl rfl

/-- What passes the checks fits the payload array. -/
theorem bounded_of_checkReceive {target : PipeTarget} {expectedPid : UInt8} {maxPayloadLen : Nat}
    (passes : checkReceive target expectedPid maxPayloadLen packetArray = .ok ()) :
    (packetArray.take target.maxPacketSize).length = target.maxPacketSize ∧
      target.maxPacketSize ≤ 100 := by
  have long : packetArray.length = 100 := List.length_replicate
  unfold checkReceive at passes
  split at passes
  · cases passes
  next bounded =>
    have fits := Nat.not_lt.mp bounded
    exact ⟨List.length_take_of_le fits, long ▸ fits⟩

namespace InTransaction

variable {transaction : InTransaction}

/-- **An acknowledged answer** was the head of the endpoint's queue: a repetition, or the packet that is
expected, of which the whole is received. -/
theorem receiveAnswer_acked {answered : Option InAnswer} {fate : AnswerFate} {irqs : TxIrqs}
    {ackEopGuardCycles : UInt32} {ackArrives : Bool}
    (sent : transaction.wire = .sent answered fate irqs ackEopGuardCycles ackArrives)
    (bounded : (packetArray.take transaction.target.maxPacketSize).length =
      transaction.target.maxPacketSize ∧ transaction.target.maxPacketSize ≤ 100)
    (completes : transaction.wire.ackStalls = false) (rejects : transaction.RejectsCorrupted)
    (whole : ¬ transaction.DecidesOnPrefix) {result : InReceiveResult}
    (ok : (receiveAnswer transaction.target transaction.toggle.pid transaction.maxPayloadLen
      packetArray true (answered.bind (answerToken transaction.endpoint)) fate irqs
      ackEopGuardCycles).result = .ok result) (acknowledged : acked result = true) :
    ∃ head rest, answered = some .data ∧ transaction.endpoint.pending = head :: rest ∧
      head.length ≤ 100 ∧
      ((transaction.toggle ≠ transaction.endpoint.bit ∧ ∃ len, result = .unexpectedToggle len) ∨
        (transaction.toggle = transaction.endpoint.bit ∧
          result = .data (UInt8.ofNat head.length) ∧ head.length ≤ transaction.maxPayloadLen ∧
          (receiveAnswer transaction.target transaction.toggle.pid transaction.maxPayloadLen
            packetArray true (answered.bind (answerToken transaction.endpoint)) fate irqs
            ackEopGuardCycles).payload.take head.length = head)) := by
  have stalls : irqs.ackEop = true ∧ irqs.ackDone = true := by
    rw [sent] at completes
    simpa [InWire.ackStalls] using completes
  have capacity : transaction.maxPayloadLen ≤
      (packetArray.take transaction.target.maxPacketSize).length :=
    (Nat.min_le_right _ _).trans bounded.1.ge
  have expected : isDataPid transaction.toggle.pid = true := DataToggle.isDataPid_pid _
  cases fate with
  | lost =>
    rw [receiveDataPacket_nothing_unacked Transmitter.fresh_idle ok] at acknowledged
    cases acknowledged
  | corrupted polls =>
    rw [RejectsCorrupted, sent] at rejects
    rw [rejects result ok] at acknowledged
    cases acknowledged
  | arrives pace =>
    cases answer : answered.bind (answerToken transaction.endpoint) with
    | none =>
      rw [answer] at ok
      rw [receiveDataPacket_nothing_unacked Transmitter.fresh_idle ok] at acknowledged
      cases acknowledged
    | some wire =>
      rw [answer] at ok
      obtain ⟨last, enough, ends, verdict, copied⟩ := receiveDataPacket_acked Transmitter.fresh_idle
        expected capacity (bounded.1.le.trans bounded.2) stalls ok acknowledged
      rw [verdict] at acknowledged
      have ackable := acked_plainVerdict _ _ ▸ acknowledged
      obtain ⟨head, rest, payload, data, queue, built, parsed⟩ :=
        head_of_ackable answer (verdictBytes_isPrefix last) ackable
      refine ⟨head, rest, data, queue, (rawDataPacket_eq_ok.mp built).2.1, ?_⟩
      by_cases agrees : transaction.toggle = transaction.endpoint.bit
      · have complete : verdictBytes (transaction.params ackEopGuardCycles) (pace.schedule wire) last =
            wire := by
          rw [verdictBytes_eq_iff]
          intro stale
          refine whole ?_
          subst data
          rw [DecidesOnPrefix, sent]
          exact ⟨agrees.symm, tokenSent_of_ok ok, wire, answer, last, enough, ends, stale⟩
        rw [params] at complete
        rw [complete] at verdict copied acknowledged
        have whole := parsePacket_rawDataPacket built
        obtain ⟨accepted, fits⟩ := plainVerdict_of_eq rfl whole agrees acknowledged
        refine .inr ⟨agrees, verdict.trans accepted, fits, ?_⟩
        refine (congrArg (List.take head.length) copied).trans ?_
        simp only [plainPayload, accepted, whole, List.take_left]
      · exact .inl ⟨agrees, _, verdict.trans (plainVerdict_of_ne rfl parsed agrees acknowledged)⟩

theorem inOnce_spec (completes : transaction.wire.ackStalls = false)
    (rejects : transaction.RejectsCorrupted) (whole : ¬ transaction.DecidesOnPrefix) :
    InOnceSpec transaction.toggle transaction.maxPayloadLen transaction.endpoint
      (inOnce transaction.target transaction.toggle.pid transaction.maxPayloadLen packetArray true
        transaction.wire transaction.endpoint) := by
  have failed : ∀ error, InOnceSpec transaction.toggle transaction.maxPayloadLen transaction.endpoint
      (.failed error packetArray transaction.endpoint) :=
    fun error => .unanswered (fun result impossible => by cases impossible) rfl
  unfold inOnce
  split
  · exact failed _
  · exact failed _
  · exact failed _
  next answered fate irqs ackEopGuardCycles ackArrives sent passes =>
    have bounded := bounded_of_checkReceive passes
    have stalls : irqs.ackEop = true ∧ irqs.ackDone = true := by
      rw [sent] at completes
      simpa [InWire.ackStalls] using completes
    have spec := fun result => @receiveAnswer_acked transaction _ _ _ _ _ sent bounded completes rejects
      whole result
    generalize called : receiveAnswer transaction.target transaction.toggle.pid
      transaction.maxPayloadLen packetArray true (answered.bind (answerToken transaction.endpoint)) fate
      irqs ackEopGuardCycles = outcome at spec ⊢
    have released : outcome.tx.released = releasedFor (tokenPacket pidIn
        transaction.target.deviceAddress (UInt8.ofNat transaction.target.endpoint.index))
        outcome.result := by
      rw [← called]
      exact (receiveDataPacket_released Transmitter.fresh_idle _ stalls
        ((Nat.min_le_right _ _).trans bounded.1.ge) (bounded.1.le.trans bounded.2)).trans
          (List.nil_append _)
    have hears := released ▸ contains_releasedFor transaction.target.deviceAddress
      (UInt8.ofNat transaction.target.endpoint.index) outcome.result
    by_cases acknowledged : ∃ received, outcome.result = .ok received ∧ acked received = true
    · obtain ⟨received, ok, acknowledged⟩ := acknowledged
      obtain ⟨head, rest, data, queue, short, verdict⟩ := spec received ok acknowledged
      refine .acknowledged head rest queue short (hearAck_cases queue data) ?_
      rcases verdict with ⟨differs, len, repeated⟩ | ⟨agrees, accepted, fits, contents⟩
      · exact .inl ⟨differs, len, by simp only [ok, repeated, Except.mapError]⟩
      · refine .inr ⟨agrees, by simp only [ok, accepted, Except.mapError], fits, ?_⟩
        rw [List.take_append_of_le_length, contents]
        have long := congrArg List.length contents
        rw [List.length_take] at long
        omega
    · refine .unanswered (fun result ok => ?_) ?_
      · cases returned : outcome.result with
        | error error =>
          simp only [returned, Except.mapError] at ok
          cases ok
        | ok received =>
          simp only [returned, Except.mapError, Except.ok.injEq] at ok
          rw [← ok]
          exact Bool.not_eq_true _ ▸ fun acked => acknowledged ⟨received, returned, acked⟩
      · have silent : outcome.tx.released.contains [sync, pidAck] = false :=
          Bool.not_eq_true _ ▸ fun contains => acknowledged (hears.mp contains)
        simp only [silent, Bool.and_false, Bool.false_eq_true, if_false]

end InTransaction

/-- **All that `request_in_once` can do** on a bulk or interrupt pipe. It completes with the head of
the endpoint's queue and advances the toggle, or the head is a repetition that is acknowledged and
discarded, or nothing is acknowledged. -/
inductive RequestInOnceSpec (toggle : DataToggle) (bufferLen : Nat) (endpoint : InEndpoint)
    (after : Transacted (List UInt8) InEndpoint) : Prop where
  | unanswered (result : ∀ packet, after.result ≠ .ok (.complete packet))
      (sameToggle : after.toggle = toggle) (same : after.endpoint = endpoint)
  | repeated (head : List UInt8) (rest : List (List UInt8))
      (queue : endpoint.pending = head :: rest) (differs : endpoint.bit ≠ toggle)
      (result : after.result = .ok .nak) (sameToggle : after.toggle = toggle)
      (acknowledged : after.endpoint = endpoint ∨ after.endpoint = endpoint.acknowledge)
  | accepted (head : List UInt8) (rest : List (List UInt8))
      (queue : endpoint.pending = head :: rest) (agrees : endpoint.bit = toggle)
      (fits : head.length ≤ bufferLen) (result : after.result = .ok (.complete head))
      (advanced : after.toggle = toggle.afterAck)
      (acknowledged : after.endpoint = endpoint ∨ after.endpoint = endpoint.acknowledge)

theorem requestInOnce_spec {transaction : InTransaction}
    (toggled : transaction.target.endpoint.epType ≠ .isochronous)
    (completes : transaction.wire.ackStalls = false) (rejects : transaction.RejectsCorrupted)
    (whole : ¬ transaction.DecidesOnPrefix) :
    RequestInOnceSpec transaction.toggle transaction.bufferLen transaction.endpoint
      (requestInOnce transaction.target transaction.toggle transaction.bufferLen transaction.wire
        transaction.endpoint) := by
  unfold requestInOnce
  split
  · exact .unanswered (fun packet impossible => by cases impossible) rfl rfl
  simp only [toggled, decide_false, Bool.false_eq_true, if_false, Bool.not_false]
  have spec := InTransaction.inOnce_spec completes rejects whole
  unfold InTransaction.maxPayloadLen at spec
  cases spec with
  | unanswered result same =>
    split
    next => exact .unanswered (fun packet impossible => by cases impossible) rfl same
    next len received => exact absurd (result _ received) (by simp [acked])
    next len received => exact absurd (result _ received) (by simp [acked])
    next => exact .unanswered (fun packet impossible => by cases impossible) rfl same
    next => exact .unanswered (fun packet impossible => by cases impossible) rfl same
    next => exact .unanswered (fun packet impossible => by cases impossible) rfl same
    next => exact .unanswered (fun packet impossible => by cases impossible) rfl same
  | acknowledged head rest queue short after verdict =>
    rcases verdict with ⟨differs, len, result⟩ | ⟨agrees, result, fits, contents⟩
    · rw [result]
      exact .repeated head rest queue (Ne.symm differs) rfl rfl after
    · have length : (UInt8.ofNat head.length).toNat = head.length := by
        rw [UInt8.toNat_ofNat', Nat.mod_eq_of_lt (by omega)]
      have enough : ¬ head.length > transaction.bufferLen := by omega
      rw [result]
      simp only [length, enough, if_false, contents]
      exact .accepted head rest queue agrees.symm (by omega) rfl rfl after

end In

end PioUsbHost.Pipe
