/-
**The reassembly of a response, in the host's packet array.**

`read_response` over the array that its packets arrive in. The array is used again for each packet, so
behind the packet it holds what earlier ones have left there.

* `PacketArray.readResponse_eq`: over an array that holds a packet, the call does what it does over the
  packets alone, and no index is out of range.
* `Completes.packets`: the packets of a run of the loop that succeeds.
* `readResponse_reassembles`: what a response was made of, and what a call leaves of the buffer.
-/

import PioUsbHost.Usbtmc.Freshness

namespace PioUsbHost.Usbtmc

open PioUsbHost.Lib.Panic PioUsbHost.Usb

/-! ### The packet array -/

namespace PacketArray

/-- `self.bulk_in.request_in(&mut self.packet[..packet_size]).await?`: the length of the packet, and
the array with the packet in front. -/
def requestIn (packetSize : Nat) (array : List UInt8) (transfer : InTransfer) :
    Checked UsbtmcError (Nat × List UInt8) := do
  let place ← slice array 0 packetSize
  match receive place.length transfer with
  | .error error => fail (.transfer error)
  | .ok packet => .ok (packet.length, packet ++ array.drop packet.length)

/-- The same request, while it waits. -/
def waiting (packetSize : Nat) (array response : List UInt8) : ReadOutcome :=
  match (slice array 0 packetSize : Checked UsbtmcError (List UInt8)) with
  | .error fault => ⟨.returned (.error fault), response, []⟩
  | .ok _ => ⟨.waiting, response, []⟩

/-- The checks of the first packet, up to the announced length. -/
def checkHeader (tag : UInt8) (firstLen : Nat) (array : List UInt8) : Checked UsbtmcError Nat := do
  let invalid ← orElse (firstLen < headerLen) do
    orElse ((← index array 0) ≠ msgidDevDepMsgIn) do
      return (← index array 2) ≠ ~~~(← index array 1)
  if invalid then fail .invalidMessage
  else if (← index array 1) ≠ tag then fail .tagMismatch
  else return fromLeBytes (← index array 4) (← index array 5) (← index array 6) (← index array 7)

/-- Everything before the loop, from the first packet. -/
def firstPacket (tag : UInt8) (response : List UInt8) (firstLen : Nat) (array : List UInt8) :
    Checked UsbtmcError (Nat × Progress) := do
  let announced ← checkHeader tag firstLen array
  if announced > response.length then fail .responseBufferTooSmall
  else if firstLen > headerLen + nextMultipleOf4 announced then fail .invalidMessage
  else
    let copied := min (← subtract firstLen headerLen) announced
    let response ← copyInto response 0 (← slice array headerLen (headerLen + copied))
    return (announced, { copied, wireReceived := firstLen, lastPacketLen := firstLen, response })

/-- After the loop. -/
def finish (packetSize announced : Nat) (transfers : List InTransfer) (array : List UInt8)
    (progress : Progress) : ReadOutcome :=
  if progress.wireReceived < headerLen + announced then
    ⟨.returned (fail .invalidMessage), progress.response, transfers⟩
  else if progress.lastPacketLen = packetSize then
    match transfers with
    | [] => waiting packetSize array progress.response
    | transfer :: rest =>
      match requestIn packetSize array transfer with
      | .error fault => ⟨.returned (.error fault), progress.response, rest⟩
      | .ok (received, _) =>
        if received ≠ 0 then ⟨.returned (fail .invalidMessage), progress.response, rest⟩
        else ⟨.returned (.ok progress.copied), progress.response, rest⟩
  else ⟨.returned (.ok progress.copied), progress.response, transfers⟩

/-- The copy of the loop, from the front of the array. -/
def copyPacket (received announced : Nat) (array : List UInt8) (progress : Progress) :
    Checked UsbtmcError Progress := do
  let count := min received (← subtract announced progress.copied)
  let response ← copyInto progress.response progress.copied (← slice array 0 count)
  return {
    copied := progress.copied + count
    wireReceived := progress.wireReceived + received
    lastPacketLen := received
    response }

/-- The loop, and what follows it. -/
def copyLoop (packetSize announced : Nat) : List InTransfer → List UInt8 → Progress → ReadOutcome
  | [], array, progress =>
    if progress.copied < announced then waiting packetSize array progress.response
    else finish packetSize announced [] array progress
  | transfer :: rest, array, progress =>
    if progress.copied < announced then
      match requestIn packetSize array transfer with
      | .error fault => ⟨.returned (.error fault), progress.response, rest⟩
      | .ok (received, array) =>
        if received = 0
            ∨ progress.wireReceived + received > headerLen + nextMultipleOf4 announced then
          ⟨.returned (fail .invalidMessage), progress.response, rest⟩
        else
          match copyPacket received announced array progress with
          | .error fault => ⟨.returned (.error fault), progress.response, rest⟩
          | .ok progress => copyLoop packetSize announced rest array progress
    else finish packetSize announced (transfer :: rest) array progress

/-- `read_response`, over the array that the host keeps. -/
def readResponse (packetSize : Nat) (tag : UInt8) (response array : List UInt8) :
    List InTransfer → ReadOutcome
  | [] => waiting packetSize array response
  | transfer :: rest =>
    match requestIn packetSize array transfer with
    | .error fault => ⟨.returned (.error fault), response, rest⟩
    | .ok (firstLen, array) =>
      match firstPacket tag response firstLen array with
      | .error fault => ⟨.returned (.error fault), response, rest⟩
      | .ok (announced, progress) => copyLoop packetSize announced rest array progress

/-! ### The array is only read where the packet is -/

section Array

variable {packetSize announced : Nat} {tag : UInt8} {response array packet stale : List UInt8}
  {progress : Progress}

theorem requestIn_eq (fits : packetSize ≤ array.length) (transfer : InTransfer) :
    requestIn packetSize array transfer =
      match receive packetSize transfer with
      | .error error => fail (.transfer error)
      | .ok packet => .ok (packet.length, packet ++ array.drop packet.length) := by
  rw [requestIn, slice_of_le (Nat.zero_le _) fits, ok_bind, List.drop_zero, Nat.sub_zero,
    List.length_take_of_le fits]

theorem waiting_eq (fits : packetSize ≤ array.length) :
    waiting packetSize array response = ⟨.waiting, response, []⟩ := by
  rw [waiting, slice_of_le (Nat.zero_le _) fits]

/-- The array keeps its length. -/
theorem length_received {transfer : InTransfer} (fits : packetSize ≤ array.length)
    (taken : receive packetSize transfer = .ok packet) :
    packetSize ≤ (packet ++ array.drop packet.length).length := by
  have small := (receive_eq_ok.mp taken).2
  rw [List.length_append, List.length_drop]
  omega

theorem index_append {i : Nat} (inside : i < packet.length) :
    (index (packet ++ stale) i : Checked UsbtmcError UInt8) = index packet i := by
  rw [index, index, List.getElem?_append_left inside]

theorem slice_append {start stop : Nat} (ordered : start ≤ stop) (inside : stop ≤ packet.length) :
    (slice (packet ++ stale) start stop : Checked UsbtmcError (List UInt8)) =
      slice packet start stop := by
  have long : stop ≤ (packet ++ stale).length := by
    rw [List.length_append]
    omega
  rw [slice_of_le ordered long, slice_of_le ordered inside,
    List.drop_append_of_le_length (Nat.le_trans ordered inside),
    List.take_append_of_le_length (by rw [List.length_drop]; omega)]

theorem checkHeader_eq :
    checkHeader tag packet.length (packet ++ stale) = Usbtmc.checkHeader tag packet := by
  by_cases short : packet.length < headerLen
  · rw [checkHeader, Usbtmc.checkHeader, decide_eq_true short]
    rfl
  · have long : 12 ≤ packet.length := Nat.not_lt.mp short
    rw [checkHeader, Usbtmc.checkHeader]
    simp only [@index_append packet stale 0 (by omega), @index_append packet stale 1 (by omega),
      @index_append packet stale 2 (by omega), @index_append packet stale 4 (by omega),
      @index_append packet stale 5 (by omega), @index_append packet stale 6 (by omega),
      @index_append packet stale 7 (by omega)]

theorem firstPacket_eq :
    firstPacket tag response packet.length (packet ++ stale) =
      Usbtmc.firstPacket tag response packet := by
  rw [firstPacket, Usbtmc.firstPacket, checkHeader_eq]
  cases checked : Usbtmc.checkHeader tag packet with
  | error fault => rfl
  | ok announced =>
    have header := (isResponse_of_checkHeader checked).length
    simp only [ok_bind]
    rw [subtract_of_le header, ok_bind,
      slice_append (Nat.le_add_right _ _) (by omega : headerLen + _ ≤ packet.length)]

theorem finish_eq (fits : packetSize ≤ array.length) (transfers : List InTransfer) :
    finish packetSize announced transfers array progress =
      Usbtmc.finish packetSize announced transfers progress := by
  cases transfers with
  | nil => simp only [finish, Usbtmc.finish, waiting_eq fits]
  | cons transfer rest =>
    simp only [finish, Usbtmc.finish, requestIn_eq fits]
    cases receive packetSize transfer with
    | error error => rfl
    | ok packet => rfl

/-- The copy is of the packet, whatever is behind it. -/
theorem copyPacket_eq (copying : progress.copied < announced) :
    copyPacket packet.length announced (packet ++ stale) progress = (do
      let count := min packet.length (announced - progress.copied)
      let response ← copyInto progress.response progress.copied (packet.take count)
      return {
        copied := progress.copied + count
        wireReceived := progress.wireReceived + packet.length
        lastPacketLen := packet.length
        response }) := by
  have front : (slice (packet ++ stale) 0 (min packet.length (announced - progress.copied)) :
      Checked UsbtmcError (List UInt8)) =
      .ok (packet.take (min packet.length (announced - progress.copied))) := by
    rw [slice_append (Nat.zero_le _) (Nat.min_le_left _ _),
      slice_of_le (Nat.zero_le _) (Nat.min_le_left _ _), List.drop_zero, Nat.sub_zero]
  simp only [copyPacket, subtract_of_le (Nat.le_of_lt copying), ok_bind, front]

theorem copyLoop_eq (fits : packetSize ≤ array.length) (transfers : List InTransfer) :
    copyLoop packetSize announced transfers array progress =
      Usbtmc.copyLoop packetSize announced transfers progress := by
  induction transfers generalizing array progress with
  | nil =>
    rw [copyLoop, Usbtmc.copyLoop, waiting_eq fits, finish_eq fits]
  | cons transfer rest ih =>
    rw [copyLoop, Usbtmc.copyLoop, finish_eq fits, requestIn_eq fits]
    by_cases copying : progress.copied < announced
    · rw [if_pos copying, if_pos copying]
      cases taken : receive packetSize transfer with
      | error error => rfl
      | ok packet =>
        simp only [copyPacket_eq copying]
        split
        · rfl
        · cases copyInto progress.response progress.copied
            (packet.take (min packet.length (announced - progress.copied))) with
          | error fault => rfl
          | ok response => exact ih (length_received fits taken)
    · rw [if_neg copying, if_neg copying]

/-- **Over an array that holds a packet**, the call does what it does over the packets alone. -/
theorem readResponse_eq (fits : packetSize ≤ array.length) (transfers : List InTransfer) :
    readResponse packetSize tag response array transfers =
      Usbtmc.readResponse packetSize tag response transfers := by
  cases transfers with
  | nil => exact waiting_eq fits
  | cons transfer rest =>
    rw [readResponse, Usbtmc.readResponse, requestIn_eq fits]
    cases taken : receive packetSize transfer with
    | error error => rfl
    | ok packet =>
      simp only [firstPacket_eq]
      cases Usbtmc.firstPacket tag response packet with
      | error fault => rfl
      | ok started => exact copyLoop_eq (length_received fits taken) rest

end Array

end PacketArray

/-! ### The packets of a response -/

/-- The length field of a header. -/
def announcedLength (packet : List UInt8) : Nat :=
  fromLeBytes (packet.getD 4 0) (packet.getD 5 0) (packet.getD 6 0) (packet.getD 7 0)

/-- The packets are those of a response of `n` bytes, which `filled` starts with. -/
structure ResponseOf (tag : UInt8) (response : List UInt8) (packets : List (List UInt8)) (n : Nat)
    (filled : List UInt8) : Prop where
  header : ∃ first ∈ packets.head?, IsResponse tag first ∧ announcedLength first = n
  fits : n ≤ response.length
  least : headerLen + n ≤ packets.flatten.length
  most : packets.flatten.length ≤ headerLen + nextMultipleOf4 n
  copied : filled.take n = (packets.flatten.drop headerLen).take n

/-- A full last packet is followed by an empty one. -/
def Terminated (packetSize : Nat) (packets : List (List UInt8)) (behind remaining : List InTransfer) :
    Prop :=
  (∃ last ∈ packets.getLast?, last.length = packetSize) ∧ behind = .ok [] :: remaining ∨
    (∀ last ∈ packets.getLast?, last.length ≠ packetSize) ∧ behind = remaining

/-- **What a call of `read_response` does.** -/
structure Reassembles (packetSize : Nat) (tag : UInt8) (response : List UInt8)
    (transfers : List InTransfer) (outcome : ReadOutcome) : Prop where
  ok : ∀ n, outcome.result = .returned (.ok n) →
    ∃ (packets : List (List UInt8)) (behind : List InTransfer), transfers = packets.map .ok ++ behind ∧
      ResponseOf tag response packets n outcome.response ∧
      Terminated packetSize packets behind outcome.bulkIn
  length : outcome.response.length = response.length
  /-- Without a response, nothing is written; with one, nothing at or past the announced length. -/
  kept : outcome.response = response ∨ ∃ first rest, transfers = .ok first :: rest ∧
    IsResponse tag first ∧ announcedLength first ≤ response.length ∧
    outcome.response.drop (announcedLength first) = response.drop (announcedLength first)
  safe : outcome.result ≠ .returned (.error .panic)

section Run

variable {packetSize announced n : Nat} {tag : UInt8} {response buffer wire : List UInt8}
  {progress : Progress}

theorem announcedLength_of_checkHeader {packet : List UInt8}
    (checked : checkHeader tag packet = .ok announced) : announcedLength packet = announced := by
  obtain ⟨invalid, -, checked⟩ := bind_eq_ok.mp checked
  split at checked
  · exact absurd checked (fail_ne_ok _ _)
  obtain ⟨other, -, checked⟩ := bind_eq_ok.mp checked
  split at checked
  · exact absurd checked (fail_ne_ok _ _)
  obtain ⟨b0, first, checked⟩ := bind_eq_ok.mp checked
  obtain ⟨b1, second, checked⟩ := bind_eq_ok.mp checked
  obtain ⟨b2, third, checked⟩ := bind_eq_ok.mp checked
  obtain ⟨b3, fourth, checked⟩ := bind_eq_ok.mp checked
  rw [announcedLength, List.getD_eq_getElem?_getD, List.getD_eq_getElem?_getD,
    List.getD_eq_getElem?_getD, List.getD_eq_getElem?_getD, index_eq_ok.mp first,
    index_eq_ok.mp second, index_eq_ok.mp third, index_eq_ok.mp fourth]
  exact Except.ok.inj checked

/-- **The packets of a run** of the loop that succeeds. -/
theorem Completes.packets {lastPacketLen : Nat} {transfers remaining : List InTransfer}
    {whole : List UInt8}
    (completes : Completes packetSize announced wire lastPacketLen transfers whole remaining)
    (bounded : wire.length ≤ headerLen + nextMultipleOf4 announced) :
    ∃ (packets : List (List UInt8)) (behind : List InTransfer),
      transfers = packets.map .ok ++ behind ∧ whole = wire ++ packets.flatten ∧
      headerLen + announced ≤ whole.length ∧
      whole.length ≤ headerLen + nextMultipleOf4 announced ∧
      ((packets.getLast?.map List.length).getD lastPacketLen = packetSize ∧
          behind = .ok [] :: remaining ∨
        (packets.getLast?.map List.length).getD lastPacketLen ≠ packetSize ∧
          behind = remaining) := by
  induction completes with
  | short complete different =>
    exact ⟨[], _, rfl, (List.append_nil _).symm, complete, bounded, .inr ⟨different, rfl⟩⟩
  | terminated complete full =>
    exact ⟨[], _, rfl, (List.append_nil _).symm, complete, bounded, .inl ⟨full, rfl⟩⟩
  | @packet wire packet whole lastPacketLen rest remaining unfinished nonempty fits small _ ih =>
    obtain ⟨packets, behind, rfl, rfl, complete, bounded, ends⟩ :=
      ih (by rw [List.length_append]; exact small)
    refine ⟨packet :: packets, behind, rfl, ?_, complete, bounded, ?_⟩
    · rw [List.flatten_cons, List.append_assoc]
    · cases packets with
      | nil => exact ends
      | cons second others => exact ends

/-- What the buffer is, however the loop ends: the bytes past the announced length are its own. -/
theorem Received.kept (received : Received announced buffer wire progress) :
    progress.response.length = buffer.length ∧
      progress.response.drop announced = buffer.drop announced := by
  have room := received.room
  have copied : progress.copied ≤ announced := by
    rw [received.copied]
    exact Nat.min_le_right _ _
  constructor
  · rw [received.response, List.length_append, received.length, List.length_drop]
    omega
  · have split : announced = progress.copied + (announced - progress.copied) := by omega
    rw [split, ← List.drop_drop, received.response, List.drop_left' received.length, List.drop_drop]

/-- The buffer is as it was past the announced length, and nothing was out of range. -/
structure Keeps (announced : Nat) (buffer : List UInt8) (outcome : ReadOutcome) : Prop where
  length : outcome.response.length = buffer.length
  kept : outcome.response.drop announced = buffer.drop announced
  safe : outcome.result ≠ .returned (.error .panic)

theorem Received.keeps (received : Received announced buffer wire progress)
    {result : Call UsbtmcError Nat} (safe : result ≠ .returned (.error .panic))
    (bulkIn : List InTransfer) : Keeps announced buffer ⟨result, progress.response, bulkIn⟩ :=
  ⟨received.kept.1, received.kept.2, safe⟩

theorem finish_keeps (received : Received announced buffer wire progress)
    (transfers : List InTransfer) :
    Keeps announced buffer (finish packetSize announced transfers progress) := by
  unfold finish
  split
  · exact received.keeps (by simp [fail]) _
  · split
    · cases transfers with
      | nil => exact received.keeps (by simp) _
      | cons transfer rest =>
        simp only
        split
        · exact received.keeps (by simp [fail]) _
        · split
          · exact received.keeps (by simp [fail]) _
          · exact received.keeps (by simp) _
    · exact received.keeps (by simp) _

/-- **However the loop ends.** -/
theorem copyLoop_keeps (received : Received announced buffer wire progress)
    (transfers : List InTransfer) :
    Keeps announced buffer (copyLoop packetSize announced transfers progress) := by
  induction transfers generalizing progress wire with
  | nil =>
    rw [copyLoop]
    split
    · exact received.keeps (by simp) _
    · exact finish_keeps received _
  | cons transfer rest ih =>
    rw [copyLoop]
    split
    next copying =>
      split
      · exact received.keeps (by simp [fail]) _
      next packet taken =>
        split
        · exact received.keeps (by simp [fail]) _
        · obtain ⟨response, copies, next⟩ := received.step packet copying
          simp only [copies]
          exact ih next
    · exact finish_keeps received _

/-- The header is read only if the packet is long enough for it. -/
theorem safe_checkHeader (packet : List UInt8) : Safe (checkHeader tag packet) := by
  unfold checkHeader
  by_cases short : packet.length < headerLen
  · rw [decide_eq_true short]
    exact safe_fail _
  · have read : ∀ i < headerLen, Safe (index packet i : Checked UsbtmcError UInt8) := by
      intro i inside
      exact safe_index (Nat.lt_of_lt_of_le inside (Nat.not_lt.mp short))
    refine safe_bind (safe_orElse fun _ => ?_) fun invalid valid => ?_
    · refine safe_bind (read 0 (by decide)) fun _ _ => safe_orElse fun _ => ?_
      exact safe_bind (read 2 (by decide)) fun _ _ => safe_bind (read 1 (by decide)) fun _ _ =>
        safe_ok _
    · refine safe_ite (fun _ => safe_fail _) fun _ => safe_bind (read 1 (by decide)) fun _ _ => ?_
      refine safe_ite (fun _ => safe_fail _) fun _ => ?_
      exact safe_bind (read 4 (by decide)) fun _ _ => safe_bind (read 5 (by decide)) fun _ _ =>
        safe_bind (read 6 (by decide)) fun _ _ => safe_bind (read 7 (by decide)) fun _ _ =>
        safe_ok _

/-- A first packet is refused, or starts the loop. -/
theorem firstPacket_cases (packet : List UInt8) :
    (∃ error, firstPacket tag response packet = fail error) ∨
      ∃ announced progress, firstPacket tag response packet = .ok (announced, progress) ∧
        checkHeader tag packet = .ok announced ∧ announced ≤ response.length ∧
        Received announced response packet progress := by
  cases checked : checkHeader tag packet with
  | error fault =>
    cases fault with
    | panic => exact absurd checked (safe_checkHeader packet)
    | error error =>
      rw [firstPacket, checked]
      exact .inl ⟨error, rfl⟩
  | ok announced =>
    by_cases room : announced ≤ response.length
    · by_cases bounded : packet.length ≤ headerLen + nextMultipleOf4 announced
      · obtain ⟨progress, starts, received, -⟩ := firstPacket_received checked
          (isResponse_of_checkHeader checked).length room bounded
        exact .inr ⟨announced, progress, starts, rfl, room, received⟩
      · rw [firstPacket, checked, ok_bind, if_neg (Nat.not_lt.mpr room),
          if_pos (Nat.not_le.mp bounded)]
        exact .inl ⟨_, rfl⟩
    · rw [firstPacket, checked, ok_bind, if_pos (Nat.not_le.mp room)]
      exact .inl ⟨_, rfl⟩

/-- **However the call ends**, from its first packet. -/
theorem readResponse_cases (transfers : List InTransfer) :
    (readResponse packetSize tag response transfers).response = response ∧
        (readResponse packetSize tag response transfers).result ≠ .returned (.error .panic) ∨
      ∃ first rest announced, transfers = .ok first :: rest ∧
        checkHeader tag first = .ok announced ∧ announced ≤ response.length ∧
        Keeps announced response (readResponse packetSize tag response transfers) := by
  cases transfers with
  | nil => exact .inl ⟨rfl, by simp [readResponse]⟩
  | cons transfer rest =>
    rw [readResponse]
    cases taken : receive packetSize transfer with
    | error error => exact .inl ⟨rfl, by simp [fail]⟩
    | ok packet =>
      obtain ⟨rfl, -⟩ := receive_eq_ok.mp taken
      rcases @firstPacket_cases tag response packet with
        ⟨error, refused⟩ | ⟨announced, progress, starts, checked, room, received⟩
      · simp only [refused]
        exact .inl ⟨rfl, by simp [fail]⟩
      · simp only [starts]
        exact .inr ⟨packet, rest, announced, rfl, checked, room, copyLoop_keeps received rest⟩

/-- **What a call that succeeds has taken.** -/
theorem readResponse_ok {transfers : List InTransfer}
    (returned : (readResponse packetSize tag response transfers).result = .returned (.ok n)) :
    ∃ (packets : List (List UInt8)) (behind : List InTransfer),
      transfers = packets.map .ok ++ behind ∧
      ResponseOf tag response packets n (readResponse packetSize tag response transfers).response ∧
      Terminated packetSize packets behind
        (readResponse packetSize tag response transfers).bulkIn := by
  obtain ⟨first, rest, announced, whole, remaining, rfl, ended⟩ := succeeds_of_readResponse returned
  have outcome := readResponse_of_completes ended.fits ended.checked ended.header ended.room
    ended.bounded ended.completes
  obtain ⟨packets, behind, rfl, rfl, least, most, ends⟩ := ended.completes.packets ended.bounded
  rw [outcome] at returned ⊢
  cases returned
  have payload : (((first ++ packets.flatten).drop headerLen).take n).length = n := by
    rw [List.length_take, List.length_drop]
    omega
  refine ⟨first :: packets, behind, rfl, ⟨?_, ended.room, least, most, ?_⟩, ?_⟩
  · exact ⟨first, rfl, isResponse_of_checkHeader ended.checked,
      announcedLength_of_checkHeader ended.checked⟩
  · exact List.take_left' payload
  · have last : (first :: packets).getLast? = some (packets.getLast?.getD first) :=
      List.getLast?_cons
    have size : (packets.getLast?.map List.length).getD first.length =
        (packets.getLast?.getD first).length := by
      cases packets.getLast? with
      | none => rfl
      | some packet => rfl
    rw [size] at ends
    rw [Terminated, last]
    rcases ends with ⟨full, same⟩ | ⟨short, same⟩
    · exact .inl ⟨⟨_, rfl, full⟩, same⟩
    · refine .inr ⟨?_, same⟩
      intro other member
      cases member
      exact short

end Run

/-- **USBTMC reassembly.** -/
theorem readResponse_reassembles {packetSize : Nat} {array : List UInt8}
    (fits : packetSize ≤ array.length) (tag : UInt8) (response : List UInt8)
    (transfers : List InTransfer) :
    Reassembles packetSize tag response transfers
      (PacketArray.readResponse packetSize tag response array transfers) := by
  rw [PacketArray.readResponse_eq fits]
  rcases @readResponse_cases packetSize tag response transfers with
    ⟨unchanged, safe⟩ | ⟨first, rest, announced, same, checked, room, keeps⟩
  · refine ⟨fun n returned => readResponse_ok returned, ?_, .inl unchanged, safe⟩
    rw [unchanged]
  · refine ⟨fun n returned => readResponse_ok returned, keeps.length, .inr ?_, keeps.safe⟩
    rw [← announcedLength_of_checkHeader checked] at room keeps
    exact ⟨first, rest, same, isResponse_of_checkHeader checked, room, keeps.kept⟩

/-- A response of five bytes without alignment bytes, in an array with earlier bytes in it. -/
theorem readResponse_reassembles_short :
    (PacketArray.readResponse 20 4 (List.replicate 8 0) (List.replicate 64 0xff)
        [.ok [2, 4, 0xfb, 0, 5, 0, 0, 0, 1, 0, 0, 0, 43, 49, 50, 56, 10]]).result =
      .returned (.ok 5) ∧
    Reassembles 20 4 (List.replicate 8 0)
      [.ok [2, 4, 0xfb, 0, 5, 0, 0, 0, 1, 0, 0, 0, 43, 49, 50, 56, 10]]
      (PacketArray.readResponse 20 4 (List.replicate 8 0) (List.replicate 64 0xff)
        [.ok [2, 4, 0xfb, 0, 5, 0, 0, 0, 1, 0, 0, 0, 43, 49, 50, 56, 10]]) :=
  ⟨rfl, readResponse_reassembles (by decide) _ _ _⟩

end PioUsbHost.Usbtmc
