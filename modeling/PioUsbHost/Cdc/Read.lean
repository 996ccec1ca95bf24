/-
**The byte stream of a CDC-ACM function, read exactly once.**

`CdcAcmHost::read` takes one packet at a time into the class buffer and hands out its bytes. Between
two suspension points the engine acknowledges the packet, the pipe advances its toggle, and the class
stores the bytes: a read that fails, or is dropped where it is suspended, has lost nothing.

* `copyBufferedRead_spec`: the bytes handed out and the bytes kept are the bytes that were buffered.
* `pollRead_spec`: what the code between two suspension points preserves.
* `session_exactlyOnce`: over any session of reads, the bytes returned and the bytes still buffered are
  the payload of the packets accepted, and these are a prefix of what the device sends.
-/

import PioUsbHost.Cdc.Write
import PioUsbHost.Lib.Stream
import PioUsbHost.Pipe.InDelivery

namespace PioUsbHost.Cdc

open PioUsbHost.Usb PioUsbHost.Host PioUsbHost.Pipe PioUsbHost.Rx PioUsbHost.Lib.AlternatingBit
open PioUsbHost.Lib.Panic PioUsbHost.Lib.Stream

/-! ### The class buffer -/

/-- `rx_packet_capacity_supports`. -/
def rxPacketCapacitySupports (capacity maxPacketSize : Nat) : Bool :=
  decide (maxPacketSize ∈ [8, 16, 32, 64, 512]) && decide (maxPacketSize ≤ capacity)

/-- The receive side of `CdcAcmHost`: the bulk-IN packet size of its function, and the buffer. -/
structure CdcAcmHost where
  maxPacketSize : Nat
  rxPacket : List UInt8
  rxStart : Nat
  rxEnd : Nat
  supports : rxPacketCapacitySupports rxPacket.length maxPacketSize = true
  ordered : rxStart ≤ rxEnd
  inside : rxEnd ≤ rxPacket.length

namespace CdcAcmHost

/-- `from_validated_parts`. -/
def fromValidatedParts (capacity maxPacketSize : Nat)
    (supports : rxPacketCapacitySupports capacity maxPacketSize = true) : CdcAcmHost :=
  { maxPacketSize
    rxPacket := List.replicate capacity 0
    rxStart := 0
    rxEnd := 0
    supports := by rw [List.length_replicate]; exact supports
    ordered := Nat.le_refl 0
    inside := Nat.zero_le _ }

/-- `rx_packet[rx_start..rx_end]`, the bytes received and not yet read. -/
def buffered (host : CdcAcmHost) : List UInt8 :=
  (host.rxPacket.drop host.rxStart).take (host.rxEnd - host.rxStart)

theorem maxPacketSize_le (host : CdcAcmHost) : host.maxPacketSize ≤ host.rxPacket.length := by
  have supports := host.supports
  unfold rxPacketCapacitySupports at supports
  rw [Bool.and_eq_true, decide_eq_true_eq, decide_eq_true_eq] at supports
  exact supports.2

theorem length_le_overwrite (buffer bytes : List UInt8) :
    buffer.length ≤ (overwrite buffer 0 bytes).length := by
  simp [overwrite]
  omega

theorem supports_overwrite (host : CdcAcmHost) (bytes : List UInt8) :
    rxPacketCapacitySupports (overwrite host.rxPacket 0 bytes).length host.maxPacketSize = true := by
  have supports := host.supports
  have longer := length_le_overwrite host.rxPacket bytes
  simp only [rxPacketCapacitySupports, Bool.and_eq_true, decide_eq_true_eq] at supports ⊢
  exact ⟨supports.1, supports.2.trans longer⟩

/-- `copy_buffered_read`, into a destination of `bufferLen` bytes. -/
def copyBufferedRead (host : CdcAcmHost) (bufferLen : Nat) : List UInt8 × CdcAcmHost :=
  let count := min bufferLen (host.rxEnd - host.rxStart)
  let bytes := (host.rxPacket.drop host.rxStart).take count
  if finished : host.rxStart + count = host.rxEnd then
    (bytes,
      { host with
        rxStart := 0, rxEnd := 0, ordered := Nat.le_refl 0, inside := Nat.zero_le _ })
  else
    (bytes,
      { host with
        rxStart := host.rxStart + count
        ordered := by have := host.ordered; omega })

/-- `self.rx_start = 0; self.rx_end = received;`, the request having filled the packet buffer. -/
def fill (host : CdcAcmHost) (buffer : List UInt8) (received : Nat)
    (fits : received ≤ host.maxPacketSize) : CdcAcmHost :=
  { host with
    rxPacket := overwrite host.rxPacket 0 buffer
    rxStart := 0
    rxEnd := received
    supports := host.supports_overwrite buffer
    ordered := Nat.zero_le _
    inside := (fits.trans host.maxPacketSize_le).trans (length_le_overwrite _ _) }

/-! ### `read`, from one suspension point to the next -/

/-- The code between two suspension points of `read`. -/
inductive ReadPoll where
  | suspended (point : AwaitPoint) (request : InRequest)
  | returned (result : Checked CdcAcmError (List UInt8))
  deriving DecidableEq

/-- The head of the loop: a request for one packet. The slice is not empty (`supports`), so
`request_in` goes on to its first suspension. -/
def requestPacket (host : CdcAcmHost) : ReadPoll :=
  if host.maxPacketSize > host.rxPacket.length then
    .returned (fail (.transfer .bufferOverflow))
  else .suspended .transactionDue (InRequest.start (host.rxPacket.take host.maxPacketSize))

/-- The rest of the loop body, after `request_in` has returned. A zero-length packet is skipped. -/
def afterPacket (host : CdcAcmHost) (bufferLen : Nat) (buffer : List UInt8) (received : Nat) :
    ReadPoll × CdcAcmHost :=
  if fits : received ≤ host.maxPacketSize then
    if received = 0 then (host.requestPacket, host)
    else
      let (bytes, after) := (host.fill buffer received fits).copyBufferedRead bufferLen
      (.returned (.ok bytes), after)
  else (.returned (fail (.transfer .bufferOverflow)), host)

/-- **From one suspension point to the next.** -/
def pollRead (host : CdcAcmHost) (link : InLink) (bufferLen : Nat)
    (completion : Completion InWire) (point : AwaitPoint) (request : InRequest) :
    ReadPoll × CdcAcmHost × InLink :=
  match inLoop.poll completion point request link with
  | (.suspended point request, after) => (.suspended point request, host, after)
  | (.returned (.error fault), after) =>
    (.returned (convert .transfer (.error fault)), host, after)
  | (.returned (.ok (buffer, received)), after) =>
    let (poll, host) := host.afterPacket bufferLen buffer received
    (poll, host, after)

/-- A suspended read, resumed once for each completion. -/
def resumeRead (bufferLen : Nat) : List (Completion InWire) → AwaitPoint → InRequest →
    CdcAcmHost → InLink → Call CdcAcmError (List UInt8) × CdcAcmHost × InLink
  | [], _, _, host, link => (.waiting, host, link)
  | completion :: rest, point, request, host, link =>
    match host.pollRead link bufferLen completion point request with
    | (.returned result, host, link) => (.returned result, host, link)
    | (.suspended point request, host, link) => resumeRead bufferLen rest point request host link

/-- The transactions of a suspended read, each with the link that it starts from. -/
def resumeTransactions (bufferLen : Nat) : List (Completion InWire) → AwaitPoint → InRequest →
    CdcAcmHost → InLink → List InTransaction
  | [], _, _, _, _ => []
  | completion :: rest, point, request, host, link =>
    let begun :=
      if point = .engineOperation then [link.transaction request completion.wire] else []
    match host.pollRead link bufferLen completion point request with
    | (.returned _, _, _) => begun
    | (.suspended point request, host, link) =>
      begun ++ resumeTransactions bufferLen rest point request host link

/-- **`CdcAcmHost::read`** into a destination of `bufferLen` bytes; its result is the bytes it has
written there. -/
def read (host : CdcAcmHost) (link : InLink) (bufferLen : Nat)
    (completions : List (Completion InWire)) :
    Call CdcAcmError (List UInt8) × CdcAcmHost × InLink :=
  if bufferLen = 0 then (.returned (.ok []), host, link)
  else if host.rxStart ≠ host.rxEnd then
    let (bytes, after) := host.copyBufferedRead bufferLen
    (.returned (.ok bytes), after, link)
  else
    match host.requestPacket with
    | .returned result => (.returned result, host, link)
    | .suspended point request => resumeRead bufferLen completions point request host link

/-- The transactions of a read. One that is answered from the buffer makes none. -/
def readTransactions (host : CdcAcmHost) (link : InLink) (bufferLen : Nat)
    (completions : List (Completion InWire)) : List InTransaction :=
  if bufferLen = 0 ∨ host.rxStart ≠ host.rxEnd then []
  else
    match host.requestPacket with
    | .returned _ => []
    | .suspended point request => resumeTransactions bufferLen completions point request host link

end CdcAcmHost

/-! ### A session of reads -/

/-- The class, its bulk-IN pipe, and the bytes that the reads so far have returned. -/
structure ByteStream where
  host : CdcAcmHost
  link : InLink
  returned : List UInt8

namespace ByteStream

/-- The bytes of a read that has returned them. -/
def bytesOf : Call CdcAcmError (List UInt8) → List UInt8
  | .returned (.ok bytes) => bytes
  | _ => []

/-- One read: it returns, or fails, or is dropped where its completions end. -/
def read (stream : ByteStream) (call : Nat × List (Completion InWire)) : ByteStream :=
  let (result, host, link) := stream.host.read stream.link call.1 call.2
  { host, link, returned := stream.returned ++ bytesOf result }

/-- The reads of a session, one after the other. -/
def session (stream : ByteStream) (calls : List (Nat × List (Completion InWire))) : ByteStream :=
  calls.foldl read stream

/-- The transactions of a session. -/
def transactions : ByteStream → List (Nat × List (Completion InWire)) → List InTransaction
  | _, [] => []
  | stream, call :: rest =>
    stream.host.readTransactions stream.link call.1 call.2 ++ (stream.read call).transactions rest

end ByteStream

/-! ### What a read preserves -/

namespace CdcAcmHost

variable {host : CdcAcmHost}

theorem buffered_of_eq (drained : host.rxStart = host.rxEnd) : host.buffered = [] := by
  rw [buffered, drained, Nat.sub_self, List.take_zero]

/-- **No byte is lost between the destination and the buffer.** -/
theorem copyBufferedRead_spec (host : CdcAcmHost) (bufferLen : Nat) :
    (host.copyBufferedRead bufferLen).1 ++ (host.copyBufferedRead bufferLen).2.buffered =
        host.buffered ∧
      (host.copyBufferedRead bufferLen).2.maxPacketSize = host.maxPacketSize := by
  have window := window_split host.rxPacket (Nat.min_le_right bufferLen (host.rxEnd - host.rxStart))
  unfold copyBufferedRead
  dsimp only
  split
  next finished =>
    rw [finished, Nat.sub_self, List.take_zero] at window
    exact ⟨window.symm, rfl⟩
  next more => exact ⟨window.symm, rfl⟩

/-- A filled buffer holds what was received. -/
theorem fill_buffered {buffer : List UInt8} {received : Nat} (fits : received ≤ host.maxPacketSize)
    (long : received ≤ buffer.length) :
    (host.fill buffer received fits).buffered = buffer.take received := by
  simp [fill, buffered, overwrite, List.take_append_of_le_length long]

end CdcAcmHost

/-- **The stream is faithful**: what was returned and what is buffered is the payload of the packets
accepted, and the pipe and the endpoint hold the device's packets between them. -/
structure ByteStream.Faithful (packets : List (List UInt8)) (stream : ByteStream) : Prop where
  bulk : stream.link.pipe.target.endpoint.epType = .bulk
  size : stream.host.maxPacketSize = stream.link.pipe.target.maxPacketSize
  delivers : InLink.Delivers packets stream.link
  exact : stream.returned ++ stream.host.buffered = stream.link.accepted.flatten

/-- A suspended read: a request for one packet, into an empty buffer of a faithful stream. -/
structure Reading (packets : List (List UInt8)) (returned : List UInt8) (host : CdcAcmHost)
    (request : InRequest) (link : InLink) : Prop where
  one : InLink.OnePacket link request
  size : host.maxPacketSize = link.pipe.target.maxPacketSize
  delivers : InLink.Delivers packets link
  drained : host.rxStart = host.rxEnd
  exact : returned = link.accepted.flatten

section Reading

variable {packets : List (List UInt8)} {returned : List UInt8} {host : CdcAcmHost}
  {request : InRequest} {link : InLink}

/-- A suspended read may be dropped, or fail, with the stream as it was. -/
theorem Reading.faithful (reading : Reading packets returned host request link) :
    ByteStream.Faithful packets { host, link, returned } :=
  ⟨reading.one.bulk, reading.size, reading.delivers, by
    rw [CdcAcmHost.buffered_of_eq reading.drained, List.append_nil, reading.exact]⟩

/-- The head of the loop suspends a request for one packet. -/
theorem requestPacket_reading (faithful : ByteStream.Faithful packets { host, link, returned })
    (drained : host.rxStart = host.rxEnd) :
    ∃ request, host.requestPacket = .suspended .transactionDue request ∧
      Reading packets returned host request link := by
  have capacity := host.maxPacketSize_le
  refine ⟨InRequest.start (host.rxPacket.take host.maxPacketSize), if_neg (Nat.not_lt.mpr capacity),
    ⟨faithful.bulk, ?_, rfl⟩, faithful.size, faithful.delivers, drained, ?_⟩
  · show (host.rxPacket.take host.maxPacketSize).length = link.pipe.target.maxPacketSize
    rw [List.length_take, Nat.min_eq_left capacity]
    exact faithful.size
  · have exact := faithful.exact
    rw [CdcAcmHost.buffered_of_eq drained, List.append_nil] at exact
    exact exact

/-- What the code between two suspension points leaves: a suspended read, or a read that has returned
or failed with a faithful stream. -/
def Preserved (packets : List (List UInt8)) (returned : List UInt8) :
    CdcAcmHost.ReadPoll × CdcAcmHost × InLink → Prop
  | (.suspended _ request, host, link) => Reading packets returned host request link
  | (.returned result, host, link) =>
    ByteStream.Faithful packets
      { host, link, returned := returned ++ ByteStream.bytesOf (.returned result) }

/-- **The packet that was accepted** is in the class buffer before the next suspension point. -/
theorem afterPacket_spec {after : InLink} {packet buffer : List UInt8}
    (reading : Reading packets returned host request link)
    (bulk : after.pipe.target.endpoint.epType = .bulk)
    (size : host.maxPacketSize = after.pipe.target.maxPacketSize)
    (delivers : InLink.Delivers packets after)
    (accepted : after.accepted = link.accepted ++ [packet])
    (fits : packet.length ≤ host.maxPacketSize) (contents : buffer.take packet.length = packet)
    (bufferLen : Nat) :
    Preserved packets returned
      ((host.afterPacket bufferLen buffer packet.length).1,
        (host.afterPacket bufferLen buffer packet.length).2, after) := by
  have exact : returned ++ packet = after.accepted.flatten := by
    rw [accepted, List.flatten_append, List.flatten_singleton, reading.exact]
  unfold CdcAcmHost.afterPacket
  rw [dif_pos fits]
  split
  next empty =>
    rw [List.eq_nil_of_length_eq_zero empty, List.append_nil] at exact
    obtain ⟨request, suspends, next⟩ := requestPacket_reading
      (⟨bulk, size, delivers, by
        rw [CdcAcmHost.buffered_of_eq reading.drained, List.append_nil, exact]⟩ :
        ByteStream.Faithful packets { host, link := after, returned }) reading.drained
    rw [suspends]
    exact next
  next some =>
    have long : packet.length ≤ buffer.length := by
      rw [← contents, List.length_take] at some ⊢
      exact (Nat.min_le_right _ _)
    obtain ⟨kept, sameSize⟩ :=
      (host.fill buffer packet.length fits).copyBufferedRead_spec bufferLen
    refine ⟨bulk, sameSize.trans size, delivers, ?_⟩
    rw [CdcAcmHost.fill_buffered fits long, contents] at kept
    show (returned ++ _) ++ _ = _
    rw [List.append_assoc]
    exact (congrArg (returned ++ ·) kept).trans exact

/-- **What the code between two suspension points preserves**, on a pipe that stays valid. -/
theorem pollRead_spec (reading : Reading packets returned host request link)
    {completion : Completion InWire} (undisturbed : InLink.Undisturbed link completion)
    (bufferLen : Nat) (point : AwaitPoint)
    (judged : point = .engineOperation → (link.transaction request completion.wire).Judged) :
    Preserved packets returned (host.pollRead link bufferLen completion point request) := by
  have valid : (inLoop.pipe link).checkValid completion.port = .ok () := undisturbed.valid
  unfold CdcAcmHost.pollRead RetryLoop.poll
  cases point with
  | transactionDue =>
    simp only [RetryLoop.afterCheck, valid]
    exact reading
  | engineLock =>
    simp only [RetryLoop.afterCheck, valid]
    exact reading
  | otherPipes => exact reading
  | engineOperation =>
    have toggled : link.pipe.target.endpoint.epType ≠ .isochronous := by
      rw [reading.one.bulk]
      decide
    have delivers : InLink.Delivers packets (inLoop.transact completion request link).2 := by
      rw [RetryLoop.transact_world]
      exact InLink.operate_delivers toggled undisturbed.completes (judged rfl) reading.delivers
    have same := InLink.transact_samePipe completion request link
    have spec := InLink.transact_onePacket reading.one undisturbed (judged rfl)
    cases step : inLoop.transact completion request link with
    | mk next after =>
      rw [step] at delivers same spec
      have target : after.pipe.target = link.pipe.target := by rw [same]
      have size : host.maxPacketSize = after.pipe.target.maxPacketSize := by
        rw [target]
        exact reading.size
      cases spec with
      | again request' next accepted one =>
        cases next
        exact ⟨one, size, delivers, reading.drained, by rw [reading.exact, accepted]⟩
      | failed error next accepted =>
        cases next
        have kept : Reading packets returned host request after :=
          ⟨⟨by rw [target]; exact reading.one.bulk, by rw [target]; exact reading.one.size,
            reading.one.fresh⟩, size, delivers, reading.drained, by rw [reading.exact, accepted]⟩
        have faithful := kept.faithful
        rw [← List.append_nil returned] at faithful
        exact faithful
      | returned packet fits next accepted =>
        cases next
        refine afterPacket_spec reading (by rw [target]; exact reading.one.bulk) size delivers accepted
          ?_ ?_ bufferLen
        · rw [reading.size, ← reading.one.size]
          exact fits
        · simp [overwrite]

/-- A completion stays undisturbed from one suspension point to the next. -/
theorem pollRead_samePipe (host : CdcAcmHost) (link : InLink) (bufferLen : Nat)
    (completion : Completion InWire) (point : AwaitPoint) (request : InRequest) :
    InLink.SamePipe link (host.pollRead link bufferLen completion point request).2.2 := by
  have same := InLink.poll_samePipe completion point request link
  unfold CdcAcmHost.pollRead
  split
  next step => rw [step] at same; exact same
  next step => rw [step] at same; exact same
  next step => rw [step] at same; exact same

/-- **A suspended read**, resumed until it returns, fails or is dropped. -/
theorem resumeRead_spec (reading : Reading packets returned host request link)
    {completions : List (Completion InWire)}
    (undisturbed : ∀ completion ∈ completions, InLink.Undisturbed link completion)
    (bufferLen : Nat) (point : AwaitPoint)
    (judged : ∀ transaction ∈ CdcAcmHost.resumeTransactions bufferLen completions point request host
      link, transaction.Judged) :
    let (result, host, after) := CdcAcmHost.resumeRead bufferLen completions point request host link
    ByteStream.Faithful packets
        { host, link := after, returned := returned ++ ByteStream.bytesOf result } ∧
      InLink.SamePipe link after := by
  induction completions generalizing host link request point with
  | nil =>
    refine ⟨?_, InLink.SamePipe.refl link⟩
    have faithful := reading.faithful
    rw [← List.append_nil returned] at faithful
    exact faithful
  | cons completion rest ih =>
    simp only [CdcAcmHost.resumeTransactions] at judged
    have now : point = .engineOperation → (link.transaction request completion.wire).Judged := by
      intro operation
      refine judged _ ?_
      rw [if_pos operation]
      split <;> simp
    have preserved := pollRead_spec reading (undisturbed completion List.mem_cons_self) bufferLen
      point now
    have same := pollRead_samePipe host link bufferLen completion point request
    simp only [CdcAcmHost.resumeRead]
    cases polled : host.pollRead link bufferLen completion point request with
    | mk poll after =>
      obtain ⟨host', link'⟩ := after
      rw [polled] at preserved same judged
      cases poll with
      | returned result => exact ⟨preserved, same⟩
      | suspended point' request' =>
        obtain ⟨faithful, later⟩ := ih preserved (fun completion member =>
          same.undisturbed (undisturbed completion (List.mem_cons_of_mem _ member))) point'
          fun transaction member => judged transaction (List.mem_append_right _ member)
        exact ⟨faithful, same.trans later⟩

end Reading

/-! ### Sessions -/

/-- **One read** keeps the stream faithful. -/
theorem ByteStream.read_faithful {packets : List (List UInt8)} {stream : ByteStream}
    (faithful : ByteStream.Faithful packets stream) (bufferLen : Nat)
    {completions : List (Completion InWire)}
    (undisturbed : ∀ completion ∈ completions, InLink.Undisturbed stream.link completion)
    (judged : ∀ transaction ∈ stream.host.readTransactions stream.link bufferLen completions,
      transaction.Judged) :
    ByteStream.Faithful packets (stream.read (bufferLen, completions)) ∧
      InLink.SamePipe stream.link (stream.read (bufferLen, completions)).link := by
  unfold CdcAcmHost.readTransactions at judged
  unfold ByteStream.read CdcAcmHost.read
  dsimp only
  split
  next =>
    refine ⟨?_, InLink.SamePipe.refl _⟩
    simpa [bytesOf] using faithful
  next some =>
    split
    next pending =>
      obtain ⟨kept, sameSize⟩ := stream.host.copyBufferedRead_spec bufferLen
      refine ⟨⟨faithful.bulk, sameSize.trans faithful.size, faithful.delivers, ?_⟩,
        InLink.SamePipe.refl _⟩
      show (stream.returned ++ _) ++ _ = _
      rw [List.append_assoc]
      exact (congrArg (stream.returned ++ ·) kept).trans faithful.exact
    next drained =>
      obtain ⟨request, suspends, reading⟩ := requestPacket_reading faithful
        (not_not.mp drained)
      rw [if_neg (not_or.mpr ⟨some, drained⟩), suspends] at judged
      rw [suspends]
      exact resumeRead_spec reading undisturbed bufferLen .transactionDue judged

/-- A session of reads keeps the stream faithful. -/
theorem ByteStream.session_faithful {packets : List (List UInt8)} {stream : ByteStream}
    (faithful : ByteStream.Faithful packets stream) {calls : List (Nat × List (Completion InWire))}
    (undisturbed : ∀ call ∈ calls, ∀ completion ∈ call.2,
      InLink.Undisturbed stream.link completion)
    (judged : ∀ transaction ∈ stream.transactions calls, transaction.Judged) :
    ByteStream.Faithful packets (stream.session calls) := by
  induction calls generalizing stream with
  | nil => exact faithful
  | cons call rest ih =>
    obtain ⟨bufferLen, completions⟩ := call
    obtain ⟨next, same⟩ := ByteStream.read_faithful faithful bufferLen
      (undisturbed _ List.mem_cons_self)
      fun transaction member => judged transaction (List.mem_append_left _ member)
    refine ih next (fun call member completion inside => ?_) fun transaction member =>
      judged transaction (List.mem_append_right _ member)
    exact same.undisturbed (undisturbed call (List.mem_cons_of_mem _ member) completion inside)

/-- A stream before its first read: the packet buffer is empty, the pipe is a bulk pipe of the
function's packet size, and the toggles agree. -/
structure ByteStream.Opened (packets : List (List UInt8)) (stream : ByteStream) : Prop where
  bulk : stream.link.pipe.target.endpoint.epType = .bulk
  size : stream.host.maxPacketSize = stream.link.pipe.target.maxPacketSize
  drained : stream.host.rxStart = stream.host.rxEnd
  agree : stream.link.endpoint.bit = stream.link.pipe.dataToggle
  pending : stream.link.endpoint.pending = packets
  accepted : stream.link.accepted = []
  returned : stream.returned = []

theorem ByteStream.Opened.faithful {packets : List (List UInt8)} {stream : ByteStream}
    (opened : ByteStream.Opened packets stream) : ByteStream.Faithful packets stream := by
  refine ⟨opened.bulk, opened.size, .agreed opened.agree ?_, ?_⟩
  · show stream.link.accepted ++ stream.link.endpoint.pending = packets
    rw [opened.accepted, opened.pending, List.nil_append]
  · rw [opened.returned, opened.accepted, CdcAcmHost.buffered_of_eq opened.drained]
    rfl

/-- No byte is lost, repeated or reordered, and the device has let go of no packet that was not
accepted. -/
structure ByteStream.ExactlyOnce (packets : List (List UInt8)) (stream : ByteStream) : Prop where
  returned : stream.returned <+: packets.flatten
  exact : stream.returned ++ stream.host.buffered = stream.link.accepted.flatten
  accepted : stream.link.accepted <+: packets
  sent : ∃ sent, sent ++ stream.link.endpoint.pending = packets ∧ sent <+: stream.link.accepted

/-- **The bytes of a CDC-ACM stream, exactly once.** Whatever is lost or corrupted on the wire, however
the reads are sized, fail, or are dropped, as long as no transaction decides on a proper prefix of the
packet it expects: the bytes returned are a prefix of what the device sends, and with the bytes still
buffered they are the payload of the packets accepted. -/
theorem session_exactlyOnce {packets : List (List UInt8)} {stream : ByteStream}
    (opened : ByteStream.Opened packets stream) (calls : List (Nat × List (Completion InWire)))
    (undisturbed : ∀ call ∈ calls, ∀ completion ∈ call.2,
      InLink.Undisturbed stream.link completion)
    (rejects : ∀ transaction ∈ stream.transactions calls, transaction.RejectsCorrupted)
    (whole : ∀ transaction ∈ stream.transactions calls, ¬ transaction.DecidesOnPrefix) :
    ByteStream.ExactlyOnce packets (stream.session calls) := by
  have faithful := ByteStream.session_faithful opened.faithful undisturbed fun transaction member =>
    ⟨rejects transaction member, whole transaction member⟩
  have accepted := InStep.accepted_prefix faithful.delivers
  refine ⟨?_, faithful.exact, accepted, InStep.sent_prefix faithful.delivers⟩
  calc (stream.session calls).returned <+:
        (stream.session calls).returned ++ (stream.session calls).host.buffered :=
          List.prefix_append _ _
    _ = (stream.session calls).link.accepted.flatten := faithful.exact
    _ <+: packets.flatten := List.IsPrefix.flatten accepted

/-! ### Runs on the wire -/

/-- A read suspended at its engine operation makes one transaction, on the wire that it finds. -/
theorem mem_resumeTransactions {bufferLen : Nat} {completions : List (Completion InWire)}
    {point : AwaitPoint} {request : InRequest} {host : CdcAcmHost} {link : InLink}
    {transaction : InTransaction}
    (member : transaction ∈
      CdcAcmHost.resumeTransactions bufferLen completions point request host link) :
    ∃ completion ∈ completions, transaction.wire = completion.wire := by
  induction completions generalizing point request host link with
  | nil => cases member
  | cons completion rest ih =>
    simp only [CdcAcmHost.resumeTransactions] at member
    have begun : transaction ∈ (if point = .engineOperation then
        [link.transaction request completion.wire] else []) →
          ∃ other ∈ completion :: rest, transaction.wire = other.wire := by
      intro inside
      split at inside
      · rw [List.mem_singleton] at inside
        exact ⟨completion, List.mem_cons_self, congrArg InTransaction.wire inside⟩
      · cases inside
    split at member
    · exact begun member
    · rcases List.mem_append.mp member with inside | later
      · exact begun inside
      · obtain ⟨other, among, same⟩ := ih later
        exact ⟨other, List.mem_cons_of_mem _ among, same⟩

/-- **The transactions of a session** meet what its completions find. -/
theorem mem_transactions {calls : List (Nat × List (Completion InWire))} {stream : ByteStream}
    {transaction : InTransaction} (member : transaction ∈ stream.transactions calls) :
    ∃ call ∈ calls, ∃ completion ∈ call.2, transaction.wire = completion.wire := by
  induction calls generalizing stream with
  | nil => cases member
  | cons call rest ih =>
    rcases List.mem_append.mp member with now | later
    · refine ⟨call, List.mem_cons_self, ?_⟩
      unfold CdcAcmHost.readTransactions at now
      split at now
      · cases now
      · split at now
        · cases now
        · exact mem_resumeTransactions now
    · obtain ⟨other, among, found⟩ := ih later
      exact ⟨other, List.mem_cons_of_mem _ among, found⟩

/-- A fresh stream over bulk-IN endpoint 1 of device 1, which has some packets to send. -/
def freshStream (packets : List (List UInt8)) : ByteStream :=
  { host := .fromValidatedParts 64 8 rfl
    link :=
      { pipe :=
          { target :=
              { deviceAddress := 1
                endpoint := { addr := 0x81, epType := .bulk, maxPacketSize := 8, intervalMs := 0 } }
            dataToggle := .data0, connectionGeneration := 1, resetGeneration := 1 }
        endpoint := { bit := .data0, pending := packets }
        accepted := [] }
    returned := [] }

theorem freshStream_opened (packets : List (List UInt8)) :
    ByteStream.Opened packets (freshStream packets) :=
  ⟨rfl, rfl, rfl, rfl, rfl, rfl, rfl⟩

/-- An await that finds the device sending at some pace, and its ACK received or not. -/
def dataSent (pace : Pace) (ackArrives : Bool) : Completion InWire :=
  { port := fullSpeedPort, wire := .sent (some .data) (.arrives pace) .prompt 0 ackArrives }

theorem dataSent_undisturbed (packets : List (List UInt8)) (pace : Pace) (ackArrives : Bool) :
    InLink.Undisturbed (freshStream packets).link (dataSent pace ackArrives) := ⟨rfl, rfl⟩

/-- Where all packets arrive, none is corrupted. -/
theorem rejectsCorrupted_of_dataSent {transaction : InTransaction} {pace : Pace} {ackArrives : Bool}
    (wire : transaction.wire = (dataSent pace ackArrives).wire) : transaction.RejectsCorrupted := by
  rw [InTransaction.RejectsCorrupted, wire]
  exact trivial

/-- What a pass finds may grow once, from one amount to a larger one. -/
theorem monotone_step {bound low high : Nat} (order : low ≤ high) :
    Monotone fun access : Nat => if access < bound then low else high := by
  intro early late later
  dsimp only
  split <;> split <;> omega

/-- An end seen after some pass is seen by every later one. -/
theorem sticky_after {bound early late : Nat} (order : early ≤ late)
    (seen : decide (bound < early) = true) : decide (bound < late) = true :=
  decide_eq_true ((of_decide_eq_true seen).trans_le order)

/-- A packet arrives at once. -/
def atOnce : Pace where
  pushed access := if access < 1 then 0 else maxDecodedBytes
  pushed_mono := monotone_step (Nat.zero_le _)
  eop access := decide (0 < access)
  eop_sticky := sticky_after
  start _ := true

/-- Of a packet that arrives at once no prefix is seen. -/
theorem not_decidesOnPrefix_atOnce {transaction : InTransaction} {ackArrives : Bool}
    (wire : transaction.wire = (dataSent atOnce ackArrives).wire) : ¬ transaction.DecidesOnPrefix := by
  rw [InTransaction.DecidesOnPrefix, wire]
  rintro ⟨-, -, bytes, answer, last, -, ends, stale⟩
  have short := length_answerToken answer
  have first : last = 0 := by
    by_contra later
    have unseen := ends.first 0 (Nat.pos_of_ne_zero later)
    simp [Pace.schedule, atOnce, short] at unseen
  subst first
  rcases stale with ⟨shortcut, -⟩ | ⟨-, proper⟩
  · simp only [takesShortcut, Bool.and_eq_true] at shortcut
    have nothing : ackableBytes (transaction.params 0) [] = false :=
      ackableBytes_of_short (Nat.zero_le 2)
    exact Bool.noConfusion (nothing.symm.trans shortcut.1.2)
  · refine proper ?_
    show bytes.take (min maxDecodedBytes bytes.length) = bytes
    rw [Nat.min_eq_right short, List.take_length]

/-- The ACK of the first packet is lost, so the third read meets it again and discards it. -/
def lostAck : List (Nat × List (Completion InWire)) :=
  [(2, List.replicate 3 (dataSent atOnce false)), (8, []), (8, List.replicate 7 (dataSent atOnce true))]

/-- The completions of `lostAck` find packets that arrive at once. -/
theorem mem_lostAck {call : Nat × List (Completion InWire)} (among : call ∈ lostAck)
    {completion : Completion InWire} (inside : completion ∈ call.2) :
    ∃ ackArrives, completion = dataSent atOnce ackArrives := by
  simp only [lostAck, List.mem_cons, List.not_mem_nil, or_false] at among
  rcases among with rfl | rfl | rfl
  · exact ⟨false, List.eq_of_mem_replicate inside⟩
  · cases inside
  · exact ⟨true, List.eq_of_mem_replicate inside⟩

theorem session_exactlyOnce_lostAck :
    ((freshStream [[1, 2, 3], [4]]).session lostAck).returned = [1, 2, 3, 4] ∧
      ByteStream.ExactlyOnce [[1, 2, 3], [4]] ((freshStream [[1, 2, 3], [4]]).session lostAck) := by
  refine ⟨by decide +kernel, session_exactlyOnce (freshStream_opened _) lostAck ?_ ?_ ?_⟩
  · intro call among completion inside
    obtain ⟨ackArrives, rfl⟩ := mem_lostAck among inside
    exact dataSent_undisturbed _ _ _
  · intro transaction member
    obtain ⟨call, among, completion, inside, wire⟩ := mem_transactions member
    obtain ⟨ackArrives, rfl⟩ := mem_lostAck among inside
    exact rejectsCorrupted_of_dataSent wire
  · intro transaction member
    obtain ⟨call, among, completion, inside, wire⟩ := mem_transactions member
    obtain ⟨ackArrives, rfl⟩ := mem_lostAck among inside
    exact not_decidesOnPrefix_atOnce wire

/-- The first pass finds four bytes of a packet, and the rest arrives with its end before the second. -/
def inTwoParts : Pace where
  pushed access := if access < 4 then 4 else maxDecodedBytes
  pushed_mono := monotone_step (by decide)
  eop access := decide (3 < access)
  eop_sticky := sticky_after
  start _ := true

/-- One read, on a wire where nothing is lost or corrupted. -/
def readInTwoParts : List (Nat × List (Completion InWire)) :=
  [(8, List.replicate 6 (dataSent inTwoParts true))]

/-- The packet `[0, 0]` begins as an empty packet does, and the host acknowledges that one: the read
returns the packet behind it, and the two bytes are lost. -/
theorem session_prefix_loses_packet :
    let stream := freshStream [[0, 0], [7]]
    ByteStream.Opened [[0, 0], [7]] stream ∧
      (∀ call ∈ readInTwoParts, ∀ completion ∈ call.2,
        InLink.Undisturbed stream.link completion) ∧
      (∀ transaction ∈ stream.transactions readInTwoParts, transaction.RejectsCorrupted) ∧
      (stream.session readInTwoParts).returned = [7] ∧
      (stream.session readInTwoParts).link.endpoint.pending = [] ∧
      ¬ ByteStream.ExactlyOnce [[0, 0], [7]] (stream.session readInTwoParts) := by
  intro stream
  have sent : ∀ call ∈ readInTwoParts, ∀ completion ∈ call.2,
      completion = dataSent inTwoParts true := by
    intro call among completion inside
    rw [readInTwoParts, List.mem_singleton] at among
    subst among
    exact List.eq_of_mem_replicate inside
  have returned : (stream.session readInTwoParts).returned = [7] := by decide +kernel
  refine ⟨freshStream_opened _, ?_, ?_, returned, by decide +kernel, ?_⟩
  · intro call among completion inside
    rw [sent call among completion inside]
    exact dataSent_undisturbed _ _ _
  · intro transaction member
    obtain ⟨call, among, completion, inside, wire⟩ := mem_transactions member
    rw [sent call among completion inside] at wire
    exact rejectsCorrupted_of_dataSent wire
  · intro exactlyOnce
    have same := exactlyOnce.returned
    rw [returned] at same
    exact absurd same (by decide)

end PioUsbHost.Cdc
