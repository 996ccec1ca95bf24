/-
**The buffer that outgoing messages are put together in.**

`write` over the buffer that the host keeps for its messages. The buffer is used again for each
message, so before a message it holds what earlier ones have left there.

* `assemble_eq`: the front of the buffer is the message, whatever the buffer held.
* `BufferedHost.write_spec`: a write is refused, or hands its message to the pipe.
* `BufferedHost.afterWrites_sized`: the buffer keeps its size over every history of writes.
* `write_usesCapacity_iff`: which commands a write treats as the capacity of the buffer says.
-/

import PioUsbHost.Usbtmc.Freshness

namespace PioUsbHost.Usbtmc

open PioUsbHost.Lib.Panic PioUsbHost.Usb

/-! ### One message -/

/-- `buffer[..stop].fill(0)`. -/
def clear (buffer : List UInt8) (stop : Nat) : Checked UsbtmcError (List UInt8) :=
  if stop ≤ buffer.length then .ok (List.replicate stop 0 ++ buffer.drop stop)
  else .error .panic

/-- `buffer[i] = byte`. -/
def store (buffer : List UInt8) (i : Nat) (byte : UInt8) : Checked UsbtmcError (List UInt8) :=
  if i < buffer.length then .ok (buffer.set i byte) else .error .panic

/-- The statements of `write` that put the message into `self.outgoing`. -/
def assemble (buffer : List UInt8) (tag : UInt8) (command : List UInt8) :
    Checked UsbtmcError (List UInt8) := do
  let buffer ← clear buffer (headerLen + nextMultipleOf4 command.length)
  let buffer ← store buffer 0 msgidDevDepMsgOut
  let buffer ← store buffer 1 tag
  let buffer ← store buffer 2 (~~~tag)
  let buffer ← copyInto buffer 4 (toLeBytes (UInt32.ofNat command.length))
  let buffer ← store buffer 8 attributeEom
  copyInto buffer headerLen command

section Assemble

variable {front behind : List UInt8}

theorem store_append {i : Nat} (inside : i < front.length) (byte : UInt8) :
    store (front ++ behind) i byte = .ok (front.set i byte ++ behind) := by
  rw [store, if_pos (by rw [List.length_append]; omega), List.set_append_left _ _ inside]

theorem copyInto_append {start : Nat} {source : List UInt8}
    (inside : start + source.length ≤ front.length) :
    copyInto (front ++ behind) start source =
      .ok (front.take start ++ source ++ front.drop (start + source.length) ++ behind) := by
  rw [copyInto, if_pos (by rw [List.length_append]; omega),
    List.take_append_of_le_length (by omega), List.drop_append_of_le_length inside,
    List.append_assoc _ _ behind]

theorem le_nextMultipleOf4 (len : Nat) : len ≤ nextMultipleOf4 len := by
  unfold nextMultipleOf4
  omega

/-- **The front of the buffer is the message**, and the bytes behind it are left. -/
theorem assemble_eq {buffer : List UInt8} (tag : UInt8) {command : List UInt8}
    (fits : headerLen + nextMultipleOf4 command.length ≤ buffer.length) :
    assemble buffer tag command = .ok (UsbtmcHost.outgoing tag command ++
      buffer.drop (headerLen + nextMultipleOf4 command.length)) := by
  have long := le_nextMultipleOf4 command.length
  generalize behind : buffer.drop (headerLen + nextMultipleOf4 command.length) = rest
  have cleared : clear buffer (headerLen + nextMultipleOf4 command.length) =
      .ok (List.replicate 12 0 ++ (List.replicate (nextMultipleOf4 command.length) 0 ++ rest)) := by
    rw [clear, if_pos fits, behind, List.replicate_add, List.append_assoc]
    rfl
  have started : ((((List.replicate 12 (0 : UInt8)).set 0 msgidDevDepMsgOut).set 1 tag).set 2
      (~~~tag)) = [msgidDevDepMsgOut, tag, ~~~tag, 0, 0, 0, 0, 0, 0, 0, 0, 0] := rfl
  have announces : (toLeBytes (UInt32.ofNat command.length)).length = 4 := rfl
  rw [assemble, cleared, ok_bind, store_append (by simp), ok_bind, store_append (by simp), ok_bind,
    store_append (by simp), ok_bind, started, copyInto_append (Nat.le_of_ble_eq_true rfl), ok_bind,
    announces, store_append (Nat.le_of_ble_eq_true rfl), ok_bind]
  -- the twelve bytes of the header are complete, and the command goes over the zeros behind them
  generalize complete : List.set _ 8 attributeEom = header
  have header_eq : header = [msgidDevDepMsgOut, tag, ~~~tag, 0] ++
      toLeBytes (UInt32.ofNat command.length) ++ [attributeEom, 0, 0, 0] := complete.symm
  have twelve : header.length = headerLen := by
    rw [header_eq]
    rfl
  have padding : (header ++ List.replicate (nextMultipleOf4 command.length) 0).drop
      (headerLen + command.length) =
      List.replicate (nextMultipleOf4 command.length - command.length) 0 := by
    rw [← List.drop_drop, List.drop_left' twelve, List.drop_replicate]
  rw [← List.append_assoc header, copyInto_append (by
    rw [List.length_append, List.length_replicate, twelve]
    omega), List.take_left' twelve, padding, UsbtmcHost.outgoing, header_eq]

end Assemble

/-! ### The host -/

/-- The host, and the buffer for its messages. -/
structure BufferedHost where
  host : UsbtmcHost
  outgoing : List UInt8

namespace BufferedHost

/-- `UsbtmcHost::new`; the buffer is `[0; OUT_MESSAGE_CAPACITY]`. -/
def new (interface : UsbtmcInterface) (outMessageCapacity : Nat) : BufferedHost where
  host := UsbtmcHost.new interface outMessageCapacity [] []
  outgoing := List.replicate outMessageCapacity 0

/-- `&self.outgoing[..outgoing_len]`, from the statements before it. -/
def message (buffer : List UInt8) (tag : UInt8) (command : List UInt8) :
    Checked UsbtmcError (List UInt8 × List UInt8) := do
  let outgoing ← assemble buffer tag command
  return (outgoing, ← slice outgoing 0 (headerLen + nextMultipleOf4 command.length))

/-- `write`. -/
def write (state : BufferedHost) (command : List UInt8) : Call UsbtmcError Unit × BufferedHost :=
  if command.length + headerLen + 3 > state.host.outMessageCapacity then
    (.returned (fail .commandTooLong), state)
  else
    let (tag, host) := state.host.takeTag
    match message state.outgoing tag command with
    | .error fault => (.returned (.error fault), { state with host })
    | .ok (outgoing, message) =>
      let (result, host) := host.requestOut message
      (result, { host, outgoing })

/-- The buffer has the size that the host was made with. -/
def Sized (state : BufferedHost) : Prop := state.outgoing.length = state.host.outMessageCapacity

/-- A host, with what its OUT pipe will do. -/
def supplied (state : BufferedHost) (bulkOut : List OutTransfer) : BufferedHost :=
  { state with host := { state.host with bulkOut } }

/-- One write of a history, with what the OUT pipe does during it. -/
structure Written where
  command : List UInt8
  bulkOut : List OutTransfer

/-- The host after a history of writes. -/
def afterWrites (state : BufferedHost) (history : List Written) : BufferedHost :=
  history.foldl (fun state written => ((state.supplied written.bulkOut).write written.command).2) state

variable {state : BufferedHost} {command : List UInt8}

theorem length_outgoing (tag : UInt8) (command : List UInt8) :
    (UsbtmcHost.outgoing tag command).length = headerLen + nextMultipleOf4 command.length := by
  have padded := le_nextMultipleOf4 command.length
  rw [UsbtmcHost.outgoing, List.length_append, List.length_append, List.length_replicate]
  show 12 + command.length + _ = 12 + _
  omega

theorem message_eq (tag : UInt8) {buffer : List UInt8}
    (fits : headerLen + nextMultipleOf4 command.length ≤ buffer.length) :
    message buffer tag command = .ok (UsbtmcHost.outgoing tag command ++
        buffer.drop (headerLen + nextMultipleOf4 command.length), UsbtmcHost.outgoing tag command) := by
  have long := length_outgoing tag command
  rw [message, assemble_eq tag fits, ok_bind, slice_of_le (Nat.zero_le _) (by
    rw [List.length_append, long]
    omega), List.drop_zero, Nat.sub_zero, List.take_left' long]
  rfl

/-- **A write** is refused before it takes a tag, or hands its message to the pipe. -/
theorem write_spec (sized : state.Sized) (command : List UInt8) :
    state.host.outMessageCapacity < command.length + headerLen + 3 ∧
        state.write command = (.returned (fail .commandTooLong), state) ∨
      command.length + headerLen + 3 ≤ state.host.outMessageCapacity ∧
        state.write command =
          ((state.host.takeTag.2.requestOut (UsbtmcHost.outgoing state.host.nextTag command)).1,
            { host := (state.host.takeTag.2.requestOut
                (UsbtmcHost.outgoing state.host.nextTag command)).2
              outgoing := UsbtmcHost.outgoing state.host.nextTag command ++
                state.outgoing.drop (headerLen + nextMultipleOf4 command.length) }) := by
  by_cases fits : command.length + headerLen + 3 ≤ state.host.outMessageCapacity
  · have padded : headerLen + nextMultipleOf4 command.length ≤ state.outgoing.length := by
      rw [sized]
      unfold nextMultipleOf4
      omega
    refine .inr ⟨fits, ?_⟩
    rw [write, if_neg (Nat.not_lt.mpr fits)]
    simp only [UsbtmcHost.takeTag, message_eq state.host.nextTag padded]
  · refine .inl ⟨Nat.lt_of_not_le fits, ?_⟩
    rw [write, if_pos (Nat.lt_of_not_le fits)]

/-- Over the buffer, a write does what the host does without one. -/
theorem write_eq (sized : state.Sized) (command : List UInt8) :
    ((state.write command).1, (state.write command).2.host) = state.host.write command := by
  rcases state.write_spec sized command with ⟨long, refused⟩ | ⟨fits, written⟩
  · rw [refused, UsbtmcHost.write, if_pos long]
  · rw [written, Operation.write_of_fits fits]

/-! ### Histories of writes -/

theorem requestOut_outMessageCapacity (host : UsbtmcHost) (data : List UInt8) :
    (host.requestOut data).2.outMessageCapacity = host.outMessageCapacity := by
  rw [UsbtmcHost.requestOut]
  split
  · rfl
  · rfl
  · rfl

theorem new_sized (interface : UsbtmcInterface) (outMessageCapacity : Nat) :
    (new interface outMessageCapacity).Sized := List.length_replicate

/-- **One write** keeps the buffer's size and the host's capacity. -/
theorem write_sized (sized : state.Sized) (command : List UInt8) :
    (state.write command).2.Sized ∧
      (state.write command).2.host.outMessageCapacity = state.host.outMessageCapacity := by
  rcases state.write_spec sized command with ⟨-, refused⟩ | ⟨fits, written⟩
  · rw [refused]
    exact ⟨sized, rfl⟩
  · have capacity := requestOut_outMessageCapacity state.host.takeTag.2
      (UsbtmcHost.outgoing state.host.nextTag command)
    have padded : headerLen + nextMultipleOf4 command.length ≤ state.outgoing.length := by
      rw [sized]
      unfold nextMultipleOf4
      omega
    rw [written]
    refine ⟨?_, capacity⟩
    rw [Sized, capacity, List.length_append, length_outgoing, List.length_drop,
      Nat.add_sub_cancel' padded]
    exact sized

/-- **Every history of writes** keeps them. -/
theorem afterWrites_sized (sized : state.Sized) (history : List Written) :
    (state.afterWrites history).Sized ∧
      (state.afterWrites history).host.outMessageCapacity = state.host.outMessageCapacity := by
  induction history generalizing state with
  | nil => exact ⟨sized, rfl⟩
  | cons written later ih =>
    have supplied : (state.supplied written.bulkOut).Sized := sized
    obtain ⟨kept, capacity⟩ := write_sized supplied written.command
    obtain ⟨ends, same⟩ := ih kept
    exact ⟨ends, same.trans capacity⟩

/-! ### What a write is to do -/

/-- The write is refused exactly if the message does not fit into the buffer, and then does nothing;
otherwise its message is handed to the pipe, once. -/
structure UsesCapacity (state : BufferedHost) (command : List UInt8) : Prop where
  refused : (state.write command).1 = .returned (fail .commandTooLong) ↔
    state.host.outMessageCapacity < headerLen + nextMultipleOf4 command.length
  unchanged : (state.write command).1 = .returned (fail .commandTooLong) →
    (state.write command).2 = state
  sent : (state.write command).1 ≠ .returned (fail .commandTooLong) →
    (state.write command).2.host.sent =
      state.host.sent ++ [UsbtmcHost.outgoing state.host.nextTag command]

theorem requestOut_ne_commandTooLong (host : UsbtmcHost) (data : List UInt8) :
    (host.requestOut data).1 ≠ .returned (fail .commandTooLong) := by
  rw [UsbtmcHost.requestOut]
  split
  · simp
  · simp [fail]
  · simp [fail]

/-- The write is refused exactly if three bytes of padding would not fit. -/
theorem write_refused_iff (sized : state.Sized) :
    (state.write command).1 = .returned (fail .commandTooLong) ↔
      state.host.outMessageCapacity < command.length + headerLen + 3 := by
  rcases state.write_spec sized command with ⟨long, refused⟩ | ⟨fits, written⟩
  · rw [refused]
    exact iff_of_true rfl long
  · rw [written]
    exact iff_of_false (requestOut_ne_commandTooLong _ _) (Nat.not_lt.mpr fits)

/-- **The exact condition**, in every state. -/
theorem usesCapacity_iff (sized : state.Sized) :
    UsesCapacity state command ↔
      (headerLen + nextMultipleOf4 command.length ≤ state.host.outMessageCapacity →
        command.length + headerLen + 3 ≤ state.host.outMessageCapacity) := by
  have padding : nextMultipleOf4 command.length ≤ command.length + 3 := by
    unfold nextMultipleOf4
    omega
  constructor
  · intro uses whole
    have refused := uses.refused
    rw [write_refused_iff sized] at refused
    omega
  · intro enough
    refine ⟨?_, ?_, ?_⟩
    · rw [write_refused_iff sized]
      omega
    · intro returned
      rcases state.write_spec sized command with ⟨-, refused⟩ | ⟨fits, -⟩
      · rw [refused]
      · exact absurd ((write_refused_iff sized).mp returned) (Nat.not_lt.mpr fits)
    · intro accepted
      rcases state.write_spec sized command with ⟨-, refused⟩ | ⟨-, written⟩
      · exact absurd (by rw [refused]) accepted
      · rw [written]
        exact (requestOut_spec state.host.takeTag.2 _).1

end BufferedHost

/-- **A write treats its command as the capacity of the buffer says**, behind every history of writes,
exactly if three bytes of padding fit whenever those that it needs do. -/
theorem write_usesCapacity_iff (interface : UsbtmcInterface) (outMessageCapacity : Nat)
    (history : List BufferedHost.Written) (bulkOut : List OutTransfer) (command : List UInt8) :
    (((BufferedHost.new interface outMessageCapacity).afterWrites history).supplied
        bulkOut).UsesCapacity command ↔
      (headerLen + nextMultipleOf4 command.length ≤ outMessageCapacity →
        command.length + headerLen + 3 ≤ outMessageCapacity) := by
  obtain ⟨sized, capacity⟩ :=
    BufferedHost.afterWrites_sized (BufferedHost.new_sized interface outMessageCapacity) history
  generalize (BufferedHost.new interface outMessageCapacity).afterWrites history = state at *
  have supplied : (state.supplied bulkOut).Sized := sized
  have same : (state.supplied bulkOut).host.outMessageCapacity = outMessageCapacity := capacity
  rw [BufferedHost.usesCapacity_iff supplied, same]

/-- A command of 500 bytes fills the default capacity with its header, and is refused. -/
theorem not_usesCapacity_default :
    headerLen + nextMultipleOf4 (List.replicate 500 (65 : UInt8)).length = 512 ∧
      ¬ (BufferedHost.new (bulkInterface 64) 512).UsesCapacity (List.replicate 500 65) := by
  refine ⟨by rw [List.length_replicate]; rfl, ?_⟩
  intro uses
  have sized := BufferedHost.new_sized (bulkInterface 64) 512
  have enough := (BufferedHost.usesCapacity_iff sized).mp uses
  rw [List.length_replicate] at enough
  exact absurd (enough (by decide)) (by decide)

end PioUsbHost.Usbtmc
