/-
**Responses are matched to requests by tag.**

Commands and requests take their tags from one counter, which runs from 1 to 255 and starts over. The
calls of a run may fail, or be dropped where they wait; a call that sends a message has used up its tag
either way, so the messages of any run carry consecutive tags.

* `afterTurns_tagged`: the message with index `i` carries `tagAt i`.
* `readResponse_foreign`: a first packet with another tag is refused, and nothing is copied.
* `responses_fresh`: what a returned response was, and what happens to a response to one of the 254
  messages before the request.
* `responses_fresh_leftover`: the rest of a refused response may still be taken for a new one.
-/

import PioUsbHost.Usbtmc.Message

namespace PioUsbHost.Usbtmc

open PioUsbHost.Lib.Panic PioUsbHost.Usb

/-! ### Tags -/

/-- The tag of the message with this index. -/
def tagAt (index : Nat) : UInt8 := UInt8.ofNat (index % 255 + 1)

theorem tagAt_toNat (index : Nat) : (tagAt index).toNat = index % 255 + 1 :=
  UInt8.toNat_ofNat_of_lt' (Nat.succ_lt_succ (Nat.mod_lt index (by decide)))

theorem tagAt_ne_zero (index : Nat) : tagAt index ≠ 0 := by
  intro zero
  have value := tagAt_toNat index
  rw [zero] at value
  exact absurd value (Nat.succ_ne_zero _).symm

/-- `take_tag` goes through the tags in order. -/
theorem tagAt_succ (index : Nat) :
    tagAt (index + 1) = if tagAt index = 255 then 1 else tagAt index + 1 := by
  have value := tagAt_toNat index
  apply UInt8.toNat_inj.mp
  rw [tagAt_toNat]
  by_cases last : tagAt index = 255
  · rw [last] at value
    have value : 255 = index % 255 + 1 := value
    rw [if_pos last]
    show _ = 1
    omega
  · have other : (tagAt index).toNat ≠ 255 := fun same => last (UInt8.toNat_inj.mp same)
    rw [if_neg last, UInt8.toNat_add, value]
    show _ = (index % 255 + 1 + 1) % 256
    omega

/-- **The tags of 255 consecutive messages are different.** -/
theorem tagAt_ne_of_lt {first second : Nat} (before : first < second)
    (window : second < first + 255) : tagAt first ≠ tagAt second := by
  intro same
  have values := congrArg UInt8.toNat same
  rw [tagAt_toNat, tagAt_toNat] at values
  omega

/-! ### Runs -/

/-- One call, with what the pipes do during it. If they do too little, the call waits and is dropped
there. -/
inductive HostCall where
  | write (command : List UInt8)
  | receive (operation : Operation) (response : List UInt8)

/-- A call of the host, and what its pipes do during it. -/
structure Turn where
  call : HostCall
  bulkIn : List InTransfer
  bulkOut : List OutTransfer

namespace UsbtmcHost

/-- The host, with what its pipes will do. -/
def supplied (host : UsbtmcHost) (bulkIn : List InTransfer) (bulkOut : List OutTransfer) :
    UsbtmcHost :=
  { host with bulkIn, bulkOut }

/-- The host after a call. -/
def afterTurn (host : UsbtmcHost) (turn : Turn) : UsbtmcHost :=
  match turn.call with
  | .write command => ((host.supplied turn.bulkIn turn.bulkOut).write command).2
  | .receive operation response =>
    (operation.run (host.supplied turn.bulkIn turn.bulkOut) response).2.2

/-- The host after a run. -/
def afterTurns (host : UsbtmcHost) (turns : List Turn) : UsbtmcHost := turns.foldl afterTurn host

end UsbtmcHost

/-! ### Messages -/

/-- The message carries the tag and its complement. -/
def CarriesTag (tag : UInt8) (message : List UInt8) : Prop :=
  message[1]? = some tag ∧ message[2]? = some (~~~tag)

/-- The messages carry the tags in order, and the next tag continues them. -/
structure Tagged (host : UsbtmcHost) : Prop where
  next : host.nextTag = tagAt host.sent.length
  sent : ∀ i message, host.sent[i]? = some message → CarriesTag (tagAt i) message

/-- One more message, with the host's next tag. -/
structure Sends (host : UsbtmcHost) (message : List UInt8) (after : UsbtmcHost) : Prop where
  sent : after.sent = host.sent ++ [message]
  next : after.nextTag = if host.nextTag = 255 then 1 else host.nextTag + 1
  carries : CarriesTag host.nextTag message

variable {host after : UsbtmcHost} {message : List UInt8}

/-- **A message keeps the tags in order.** -/
theorem Sends.tagged (sends : Sends host message after) (tagged : Tagged host) : Tagged after where
  next := by
    rw [sends.next, sends.sent, List.length_append, List.length_singleton, tagAt_succ, tagged.next]
  sent := by
    intro i other found
    rw [sends.sent] at found
    by_cases earlier : i < host.sent.length
    · rw [List.getElem?_append_left earlier] at found
      exact tagged.sent i other found
    · have inside := (List.getElem?_eq_some_iff.mp found).1
      rw [List.length_append, List.length_singleton] at inside
      obtain rfl : i = host.sent.length := by omega
      rw [List.getElem?_append_right (Nat.le_refl _), Nat.sub_self] at found
      rw [← Option.some.inj found, ← tagged.next]
      exact sends.carries

/-- A transfer is handed to the pipe, whatever becomes of it. -/
theorem requestOut_spec (host : UsbtmcHost) (data : List UInt8) :
    (host.requestOut data).2.sent = host.sent ++ [data] ∧
      (host.requestOut data).2.nextTag = host.nextTag ∧
      (host.requestOut data).2.interface = host.interface ∧
      (host.requestOut data).2.bulkIn = host.bulkIn := by
  rw [UsbtmcHost.requestOut]
  split <;> exact ⟨rfl, rfl, rfl, rfl⟩

/-- **A message that takes a tag.** -/
theorem sends_requestOut (carries : CarriesTag host.nextTag message) :
    Sends host message (host.takeTag.2.requestOut message).2 := by
  obtain ⟨sent, next, -, -⟩ := requestOut_spec host.takeTag.2 message
  exact ⟨sent, next, carries⟩

theorem carriesTag_outgoing (tag : UInt8) (command : List UInt8) :
    CarriesTag tag (UsbtmcHost.outgoing tag command) :=
  ⟨rfl, rfl⟩

theorem carriesTag_buildRequestIn (tag : UInt8) (capacity : Nat) :
    CarriesTag tag (buildRequestIn tag capacity) :=
  ⟨rfl, rfl⟩

/-- A write sends its message, or is refused before it takes a tag. -/
theorem write_spec (host : UsbtmcHost) (command : List UInt8) :
    host.write command = (.returned (fail .commandTooLong), host) ∨
      Sends host (UsbtmcHost.outgoing host.nextTag command) (host.write command).2 := by
  by_cases fits : command.length + headerLen + 3 ≤ host.outMessageCapacity
  · right
    rw [Operation.write_of_fits fits]
    exact sends_requestOut (carriesTag_outgoing _ _)
  · left
    rw [UsbtmcHost.write, if_pos (Nat.lt_of_not_le fits)]

/-- A write takes nothing from the IN pipe. -/
theorem write_bulkIn (host : UsbtmcHost) (command : List UInt8) :
    (host.write command).2.bulkIn = host.bulkIn := by
  by_cases fits : command.length + headerLen + 3 ≤ host.outMessageCapacity
  · rw [Operation.write_of_fits fits]
    exact (requestOut_spec host.takeTag.2 _).2.2.2
  · rw [UsbtmcHost.write, if_pos (Nat.lt_of_not_le fits)]

theorem write_tagged (tagged : Tagged host) (command : List UInt8) :
    Tagged (host.write command).2 := by
  rcases write_spec host command with refused | sends
  · rw [refused]
    exact tagged
  · exact sends.tagged tagged

/-! ### Responses -/

/-- The call does not return a response, and has left the buffer as it was. -/
def Refuses (response : List UInt8) (result : Call UsbtmcError Nat) (buffer : List UInt8) : Prop :=
  (∀ n, result ≠ .returned (.ok n)) ∧ buffer = response

/-- The header of a response with this tag. -/
structure IsResponse (tag : UInt8) (packet : List UInt8) : Prop where
  length : headerLen ≤ packet.length
  msgid : packet[0]? = some msgidDevDepMsgIn
  carries : CarriesTag tag packet

theorem isResponse_of_checkHeader {tag : UInt8} {packet : List UInt8} {announced : Nat}
    (checked : checkHeader tag packet = .ok announced) : IsResponse tag packet := by
  obtain ⟨invalid, valid, checked⟩ := bind_eq_ok.mp checked
  split at checked
  · exact absurd checked (fail_ne_ok _ _)
  next accepted =>
  obtain ⟨other, read, checked⟩ := bind_eq_ok.mp checked
  split at checked
  · exact absurd checked (fail_ne_ok _ _)
  next same =>
  rw [Decidable.not_not] at same
  subst same
  obtain ⟨long, valid⟩ := of_orElse valid accepted
  obtain ⟨kind, readKind, valid⟩ := bind_eq_ok.mp valid
  obtain ⟨isIn, valid⟩ := of_orElse valid Bool.false_ne_true
  obtain ⟨inverse, readInverse, valid⟩ := bind_eq_ok.mp valid
  obtain ⟨again, readAgain, valid⟩ := bind_eq_ok.mp valid
  have tag := index_eq_ok.mp read
  have inverted := index_eq_ok.mp readInverse
  rw [index_eq_ok.mp readAgain, Option.some.injEq] at tag
  subst tag
  have complement : inverse = ~~~again := by
    have decided := Except.ok.inj valid
    exact Decidable.not_not.mp (of_decide_eq_false decided)
  refine ⟨Nat.not_lt.mp (of_decide_eq_false long), ?_, index_eq_ok.mp readAgain, ?_⟩
  · rw [index_eq_ok.mp readKind, Decidable.not_not.mp (of_decide_eq_false isIn)]
  · rw [inverted, complement]

variable {packetSize : Nat} {tag : UInt8} {response : List UInt8}

/-- A response that is returned started with a header of its tag. -/
theorem isResponse_of_readResponse {transfers : List InTransfer} {n : Nat}
    (returned : (readResponse packetSize tag response transfers).result = .returned (.ok n)) :
    ∃ packet rest, transfers = .ok packet :: rest ∧ IsResponse tag packet := by
  obtain ⟨packet, rest, announced, whole, remaining, same, succeeds⟩ :=
    succeeds_of_readResponse returned
  exact ⟨packet, rest, same, isResponse_of_checkHeader succeeds.checked⟩

/-- **A first packet with another tag** is refused, and nothing is copied. -/
theorem readResponse_foreign {packet : List UInt8} (foreign : packet[1]? ≠ some tag)
    (rest : List InTransfer) :
    Refuses response (readResponse packetSize tag response (.ok packet :: rest)).result
      (readResponse packetSize tag response (.ok packet :: rest)).response := by
  rw [readResponse]
  cases taken : receive packetSize (.ok packet) with
  | error error => exact ⟨by simp, rfl⟩
  | ok received =>
    obtain ⟨same, -⟩ := receive_eq_ok.mp taken
    cases same
    cases starts : firstPacket tag response packet with
    | error fault =>
      simp only [starts]
      exact ⟨by simp, rfl⟩
    | ok started =>
      have header := isResponse_of_checkHeader (conditions_of_firstPacket starts).1
      exact absurd header.carries.1 foreign

/-- The reading part of a call refuses, or reads a response with this tag. -/
def Reads (tag : UInt8) (response : List UInt8) (transfers : List InTransfer)
    (result : Call UsbtmcError Nat) (buffer : List UInt8) : Prop :=
  Refuses response result buffer ∨
    ∃ packetSize, result = (readResponse packetSize tag response transfers).result ∧
      buffer = (readResponse packetSize tag response transfers).response

/-- **A read** sends its request, and refuses or reads a response with its tag. -/
theorem read_spec (host : UsbtmcHost) (response : List UInt8) :
    Sends host (buildRequestIn host.nextTag response.length) (host.read response).2.2 ∧
      Reads host.nextTag response host.bulkIn (host.read response).1 (host.read response).2.1 := by
  have sends := sends_requestOut (carriesTag_buildRequestIn host.nextTag response.length)
  obtain ⟨-, -, -, bulkIn⟩ :=
    requestOut_spec host.takeTag.2 (buildRequestIn host.nextTag response.length)
  rw [UsbtmcHost.read]
  simp only [UsbtmcHost.takeTag] at *
  split
  next next requested =>
    rw [requested] at sends
    exact ⟨sends, .inl ⟨by simp, rfl⟩⟩
  next fault next requested =>
    rw [requested] at sends
    exact ⟨sends, .inl ⟨by simp, rfl⟩⟩
  next next requested =>
    rw [requested] at sends bulkIn
    have same : next.bulkIn = host.bulkIn := bulkIn
    refine ⟨⟨sends.sent, sends.next, sends.carries⟩,
      .inr ⟨next.interface.bulkInEndpoint.maxPacketSize.toNat, ?_, ?_⟩⟩
    all_goals rw [← same]

/-- A call that reads sends its messages, the request last, and reads under the request's tag. -/
structure ReadsLast (host : UsbtmcHost) (response : List UInt8)
    (call : Call UsbtmcError Nat × List UInt8 × UsbtmcHost) : Prop where
  tagged : Tagged call.2.2
  reads : Refuses response call.1 call.2.1 ∨ ∃ earlier request,
    call.2.2.sent = host.sent ++ earlier ++ [request] ∧
      Reads (tagAt (call.2.2.sent.length - 1)) response host.bulkIn call.1 call.2.1

theorem read_readsLast (tagged : Tagged host) (response : List UInt8) :
    ReadsLast host response (host.read response) := by
  obtain ⟨sends, reads⟩ := read_spec host response
  refine ⟨sends.tagged tagged, .inr ⟨[], _, by rw [List.append_nil]; exact sends.sent, ?_⟩⟩
  rw [sends.sent, List.length_append, List.length_singleton, Nat.add_sub_cancel, ← tagged.next]
  exact reads

theorem operation_readsLast (tagged : Tagged host) (operation : Operation) (response : List UInt8) :
    ReadsLast host response (operation.run host response) := by
  cases operation with
  | read => exact read_readsLast tagged response
  | exchange command =>
    have written := write_tagged tagged command
    rw [Operation.run, UsbtmcHost.exchange]
    split
    next next waits =>
      rw [waits] at written
      exact ⟨written, .inl ⟨by simp, rfl⟩⟩
    next fault next fails =>
      rw [fails] at written
      exact ⟨written, .inl ⟨by simp, rfl⟩⟩
    next next accepted =>
      rw [accepted] at written
      rcases write_spec host command with refused | sends
      · rw [refused] at accepted
        cases accepted
      rw [accepted] at sends
      have bulkIn := write_bulkIn host command
      rw [accepted] at bulkIn
      obtain ⟨last, reads⟩ := read_readsLast written response
      refine ⟨last, ?_⟩
      rcases reads with refuses | ⟨earlier, request, sent, reads⟩
      · exact .inl refuses
      · rw [sends.sent] at sent
        rw [show next.bulkIn = host.bulkIn from bulkIn] at reads
        exact .inr ⟨_, request, by rw [sent, List.append_assoc host.sent], reads⟩

/-! ### Runs of calls -/

theorem tagged_new (interface : UsbtmcInterface) (outMessageCapacity : Nat)
    (bulkIn : List InTransfer) (bulkOut : List OutTransfer) :
    Tagged (.new interface outMessageCapacity bulkIn bulkOut) :=
  ⟨rfl, nofun⟩

/-- One call keeps the tags in order. -/
theorem afterTurn_tagged (tagged : Tagged host) (turn : Turn) : Tagged (host.afterTurn turn) := by
  have supplied : Tagged (host.supplied turn.bulkIn turn.bulkOut) := ⟨tagged.next, tagged.sent⟩
  rw [UsbtmcHost.afterTurn]
  cases turn.call with
  | write command => exact write_tagged supplied command
  | receive operation response => exact (operation_readsLast supplied operation response).tagged

/-- **The messages of a run carry the tags in order.** -/
theorem afterTurns_tagged (tagged : Tagged host) (turns : List Turn) :
    Tagged (host.afterTurns turns) := by
  induction turns generalizing host with
  | nil => exact tagged
  | cons turn rest ih => exact ih (afterTurn_tagged tagged turn)

/-- Every message carries a tag other than zero and its complement, and the next message the next
tag: 1 after 255. -/
structure TagsInOrder (sent : List (List UInt8)) : Prop where
  tagged : ∀ message ∈ sent, ∃ tag, tag ≠ 0 ∧ CarriesTag tag message
  consecutive : ∀ i first second tag, sent[i]? = some first → sent[i + 1]? = some second →
    CarriesTag tag first → CarriesTag (if tag = 255 then 1 else tag + 1) second

theorem Tagged.tagsInOrder (tagged : Tagged host) : TagsInOrder host.sent where
  tagged := by
    intro message member
    obtain ⟨i, found⟩ := List.mem_iff_getElem?.mp member
    exact ⟨tagAt i, tagAt_ne_zero i, tagged.sent i message found⟩
  consecutive := by
    intro i first second tag found next carries
    have same := (tagged.sent i first found).1
    rw [carries.1, Option.some.injEq] at same
    subst same
    rw [← tagAt_succ]
    exact tagged.sent (i + 1) second next

/-- The packet is tagged for one of the 254 messages before the last one. -/
def TaggedForEarlier (sent : List (List UInt8)) (packet : List UInt8) : Prop :=
  ∃ i message, sent[i]? = some message ∧ i + 1 < sent.length ∧ sent.length ≤ i + 255 ∧
    packet[1]? = message[1]?

/-- What a call that reads does with the first packet it takes. -/
structure FreshResponse (host : UsbtmcHost) (response : List UInt8) (bulkIn : List InTransfer)
    (call : Call UsbtmcError Nat × List UInt8 × UsbtmcHost) : Prop where
  /-- A returned response started with the tag of the request sent by the same call. -/
  returned : ∀ n, call.1 = .returned (.ok n) → ∃ earlier request packet rest tag,
    call.2.2.sent = host.sent ++ earlier ++ [request] ∧ CarriesTag tag request ∧
      bulkIn = .ok packet :: rest ∧ IsResponse tag packet
  /-- A packet tagged for an earlier message is refused, and nothing of it is copied. -/
  refused : ∀ packet rest, bulkIn = .ok packet :: rest → TaggedForEarlier call.2.2.sent packet →
    Refuses response call.1 call.2.1

theorem ReadsLast.freshResponse {call : Call UsbtmcError Nat × List UInt8 × UsbtmcHost}
    (reads : ReadsLast host response call) : FreshResponse host response host.bulkIn call where
  returned := by
    intro n returned
    rcases reads.reads with refuses | ⟨earlier, request, sent, refuses | ⟨packetSize, result, -⟩⟩
    · exact absurd returned (refuses.1 n)
    · exact absurd returned (refuses.1 n)
    · rw [result] at returned
      obtain ⟨packet, rest, taken, isResponse⟩ := isResponse_of_readResponse returned
      refine ⟨earlier, request, packet, rest, _, sent, ?_, taken, isResponse⟩
      apply reads.tagged.sent
      rw [sent, List.length_append, List.length_singleton, Nat.add_sub_cancel,
        List.getElem?_append_right (Nat.le_refl _), Nat.sub_self, List.getElem?_cons_zero]
  refused := by
    rintro packet rest taken ⟨i, message, found, before, window, tagged⟩
    rcases reads.reads with refuses | ⟨earlier, request, sent, refuses | ⟨packetSize, result, buffer⟩⟩
    · exact refuses
    · exact refuses
    · rw [result, buffer, taken]
      apply readResponse_foreign
      rw [tagged, (reads.tagged.sent i message found).1, ne_eq, Option.some.injEq]
      exact tagAt_ne_of_lt (by omega) (by omega)

/-- **A response is matched to its request by tag**, in every run of calls. -/
theorem responses_fresh (interface : UsbtmcInterface) (outMessageCapacity : Nat)
    (turns : List Turn) (operation : Operation) (response : List UInt8)
    (bulkIn : List InTransfer) (bulkOut : List OutTransfer) :
    let host := (UsbtmcHost.new interface outMessageCapacity [] []).afterTurns turns
    TagsInOrder host.sent ∧
      FreshResponse host response bulkIn
        (operation.run (host.supplied bulkIn bulkOut) response) := by
  intro host
  have tagged : Tagged host := afterTurns_tagged (tagged_new interface outMessageCapacity [] []) turns
  have supplied : Tagged (host.supplied bulkIn bulkOut) := ⟨tagged.next, tagged.sent⟩
  have fresh := (operation_readsLast supplied operation response).freshResponse
  exact ⟨tagged.tagsInOrder, fresh.returned, fresh.refused⟩

/-! ### The rest of a response -/

/-- A response of nineteen bytes, whose last fifteen look like a response with the tag 3. -/
def lookalike : List UInt8 := [65, 66, 67, 68] ++ [2, 3, 0xfc, 0, 3, 0, 0, 0, 1, 0, 0, 0, 69, 70, 71]

/-- It answers the request with the tag 1. -/
def lookalikeWire : List UInt8 := responseWire ⟨1, 19, attributeEom, 0, 0, 0, 0⟩ lookalike []

/-- The calls before: a read that is dropped before the response arrives, and a read that takes the
first packet of it. -/
def interrupted : List Turn := [
  ⟨.receive .read (List.replicate 19 0), [], [.ok ()]⟩,
  ⟨.receive .read (List.replicate 19 0), [.ok (lookalikeWire.take 16)], [.ok ()]⟩]

/-- A read refuses the first packet of a response to an earlier request, and the next read returns the
last bytes of it. -/
theorem responses_fresh_leftover :
    let first := (UsbtmcHost.new (bulkInterface 16) defaultOutMessageCapacity [] []).afterTurns
      (interrupted.take 1)
    let second := first.afterTurns (interrupted.drop 1)
    let refused := (first.supplied [.ok (lookalikeWire.take 16)] [.ok ()]).read (List.replicate 19 0)
    let returned := (second.supplied [.ok (lookalikeWire.drop 16)] [.ok ()]).read [0, 0, 0]
    IsTransfer 16 lookalikeWire [lookalikeWire.take 16, lookalikeWire.drop 16] ∧
      lookalikeWire[1]? = some 1 ∧ first.sent = [buildRequestIn 1 19] ∧
      refused.1 = .returned (fail .tagMismatch) ∧
      returned.1 = .returned (.ok 3) ∧ returned.2.1 = lookalike.drop 16 := by
  refine ⟨⟨[lookalikeWire.take 16], lookalikeWire.drop 16, by rfl, by decide, by decide, by rfl⟩,
    by rfl, by rfl, by rfl, by rfl, by rfl⟩

end PioUsbHost.Usbtmc
