/-
**The handshake of an OUT transaction, poll by poll.**

`receiveHandshake` is `receive_handshake` of `rp2040.rs`, with the drain of its FIFO (`drainRxFifo`),
the observation it records and the classification of a failure (`classifyHandshakeFailure`). What the
CPU reads from the receivers is an input: the passes of a loop before its deadline, and the first one
at it (`Passes`).

* `receiveHandshake_spec`: which handshakes are received, and when none has started. How the bytes are
  spread over the drains does not matter.
* `classifyHandshakeFailure_spec`: after a whole packet the classification is the parser's.
-/

import PioUsbHost.Pipe.Engine

namespace PioUsbHost.Rx

open PioUsbHost.Usb
open PioUsbHost.Pipe (ReceiveResult)

/-! ### What the CPU reads -/

/-- The passes of a polling loop: those before its deadline, and the first at it. -/
structure Passes (Poll : Type) where
  before : List Poll
  last : Poll

/-- A pass of the wait for a packet. -/
structure StartPoll where
  /-- The FIFO is empty. -/
  empty : Bool
  eop : Bool
  error : Bool
  start : Bool
  /-- What the drain finds once the receivers are stopped. -/
  stopped : List UInt8
  /-- The flags as they are recorded. -/
  flags : UInt8

/-- A pass over the packet loop. -/
structure PacketPoll where
  drained : List UInt8
  error : Bool
  eop : Bool
  /-- What the drain finds once the receivers are stopped. -/
  stopped : List UInt8
  /-- The flags as they are recorded. -/
  flags : UInt8

/-! ### The buffer and the observation -/

/-- `bytes` and `len` of the routine. -/
structure HandshakeBuffer where
  bytes : Vector UInt8 4
  len : Nat

/-- The buffer before the first byte. -/
def HandshakeBuffer.empty : HandshakeBuffer := ⟨Vector.replicate 4 0, 0⟩

/-- One word of `drain_rx_fifo`. -/
def drainRxByte (buffer : HandshakeBuffer) (byte : UInt8) : HandshakeBuffer where
  bytes := if inside : buffer.len < 4 then buffer.bytes.set buffer.len byte inside else buffer.bytes
  len := buffer.len + 1

/-- `drain_rx_fifo`, on the bytes it pulls. -/
def drainRxFifo (buffer : HandshakeBuffer) (bytes : List UInt8) : HandshakeBuffer :=
  bytes.foldl drainRxByte buffer

/-- What is recorded, but for the addresses of the programs and the levels of the pins. -/
structure RxObservation where
  len : UInt8
  irqFlags : UInt8
  bytes : Vector UInt8 4

/-- `record_rx_observation`. -/
def recordRxObservation (buffer : HandshakeBuffer) (flags : UInt8) : RxObservation where
  len := UInt8.ofNat (min buffer.len 255)
  irqFlags := flags
  bytes := buffer.bytes

/-- What the routine returns, and what it has recorded. -/
structure HandshakeOutcome where
  result : ReceiveResult
  observation : RxObservation

/-! ### The two loops -/

/-- What the routine makes of a packet that has ended. -/
def handshakeResult (buffer : HandshakeBuffer) : ReceiveResult :=
  if 4 < buffer.len then .invalidPacket
  else
    match parsePacket (buffer.bytes.toList.take buffer.len) with
    | .ok (.handshake pid) => .handshake pid
    | _ => .invalidPacket

/-- A pass over the packet loop; `next` is what follows it. -/
def packetPass (poll : PacketPoll) (buffer : HandshakeBuffer)
    (next : HandshakeBuffer → HandshakeOutcome) : HandshakeOutcome :=
  let buffer := drainRxFifo buffer poll.drained
  let final := drainRxFifo buffer poll.stopped
  if poll.error then
    { result := .invalidPacket, observation := recordRxObservation final poll.flags }
  else if poll.eop then
    { result := handshakeResult final, observation := recordRxObservation final poll.flags }
  else next buffer

/-- The second loop: the packet, to its end. -/
def receivePacket : List PacketPoll → PacketPoll → HandshakeBuffer → HandshakeOutcome
  | [], last, buffer => packetPass last buffer fun buffer =>
    { result := .invalidPacket
      observation := recordRxObservation (drainRxFifo buffer last.stopped) last.flags }
  | poll :: rest, last, buffer => packetPass poll buffer (receivePacket rest last)

/-- A pass of `while sm.rx().empty() && !irq_flags.check(2)`; `begun` follows the loop. -/
def startPass (poll : StartPoll) (begun next : HandshakeOutcome) : HandshakeOutcome :=
  if !(poll.empty && !poll.eop) then begun
  else if poll.error then
    { result := .invalidPacket
      observation := recordRxObservation (drainRxFifo .empty poll.stopped) poll.flags }
  else next

/-- The first loop: until something is found. -/
def waitForStart (begun : HandshakeOutcome) : List StartPoll → StartPoll → HandshakeOutcome
  | [], last => startPass last begun
    { result := if last.start then .invalidPacket else .noStart
      observation := recordRxObservation (drainRxFifo .empty last.stopped) last.flags }
  | poll :: rest, last => startPass poll begun (waitForStart begun rest last)

/-- **`receive_handshake`.** -/
def receiveHandshake (starts : Passes StartPoll) (packets : Passes PacketPoll) : HandshakeOutcome :=
  waitForStart (receivePacket packets.before packets.last .empty) starts.before starts.last

/-! ### The classification of a failure -/

/-- What can be said of a failed handshake. -/
inductive HandshakeFailure where
  | rxDecoderError
  | falseStart
  | incompletePacket
  | wrongLength
  | invalidSync
  | invalidPidComplement
  | unexpectedPid
  | unknown
  deriving DecidableEq, Repr

/-- `classify_handshake_failure`. -/
def classifyHandshakeFailure (observation : RxObservation) : HandshakeFailure :=
  if observation.irqFlags &&& 2 ≠ 0 then .rxDecoderError
  else if observation.irqFlags &&& 4 = 0 then
    if observation.len = 0 ∧ observation.irqFlags &&& 8 ≠ 0 then .falseStart else .incompletePacket
  else if observation.len ≠ 2 then .wrongLength
  else if observation.bytes[0] ≠ sync then .invalidSync
  else if !pidComplementValid observation.bytes[1] then .invalidPidComplement
  else if !(observation.bytes[1] == pidAck || observation.bytes[1] == pidNak ||
      observation.bytes[1] == pidStall) then .unexpectedPid
  else .unknown

/-! ### The buffer holds the first four bytes -/

/-- Everything drained so far: its length, and as much of it as there is room for. -/
structure HandshakeBuffer.Holds (buffer : HandshakeBuffer) (bytes : List UInt8) : Prop where
  len : buffer.len = bytes.length
  kept : ∀ index, (inside : index < 4) → ∀ byte, bytes[index]? = some byte → buffer.bytes[index] = byte

theorem holds_empty : HandshakeBuffer.empty.Holds [] := ⟨rfl, fun _ _ _ found => nomatch found⟩

section Buffer

variable {buffer : HandshakeBuffer} {bytes : List UInt8}

theorem HandshakeBuffer.Holds.drainByte (holds : buffer.Holds bytes) (byte : UInt8) :
    (drainRxByte buffer byte).Holds (bytes ++ [byte]) := by
  refine ⟨?_, fun index inside other found => ?_⟩
  · rw [List.length_append, ← holds.len]
    rfl
  · unfold drainRxByte
    simp only
    by_cases new : index = buffer.len
    · subst new
      rw [holds.len, List.getElem?_concat_length] at found
      cases found
      rw [dif_pos inside]
      exact Vector.getElem_set_self inside
    · have older : index < bytes.length := by
        have reaches := (List.getElem?_eq_some_iff.mp found).1
        have len := holds.len
        rw [List.length_append, List.length_singleton] at reaches
        omega
      rw [List.getElem?_append_left older] at found
      rw [← holds.kept index inside other found]
      split
      · exact Vector.getElem_set_ne _ inside fun same => new same.symm
      · rfl

theorem HandshakeBuffer.Holds.drain (holds : buffer.Holds bytes) (more : List UInt8) :
    (drainRxFifo buffer more).Holds (bytes ++ more) := by
  induction more generalizing buffer bytes with
  | nil =>
    rw [List.append_nil]
    exact holds
  | cons byte rest ih =>
    rw [show bytes ++ byte :: rest = bytes ++ [byte] ++ rest by simp]
    exact ih (holds.drainByte byte)

theorem HandshakeBuffer.Holds.congr {other : List UInt8} (holds : buffer.Holds bytes)
    (same : bytes = other) : buffer.Holds other := same ▸ holds

/-- A packet of at most four bytes is all in the buffer. -/
theorem HandshakeBuffer.Holds.take (holds : buffer.Holds bytes) (fits : bytes.length ≤ 4) :
    buffer.bytes.toList.take buffer.len = bytes := by
  refine List.ext_getElem? fun index => ?_
  rw [holds.len, List.getElem?_take]
  split
  · next inside =>
    have found := List.getElem?_eq_getElem inside
    rw [found, ← holds.kept index (by omega) _ found]
    simp
  · next outside => rw [List.getElem?_eq_none (by omega)]

/-- What is made of a packet that has ended. -/
theorem handshakeResult_spec (holds : buffer.Holds bytes) :
    (∀ pid, handshakeResult buffer = .handshake pid ↔ parsePacket bytes = .ok (.handshake pid)) ∧
      handshakeResult buffer ≠ .noStart := by
  unfold handshakeResult
  by_cases long : 4 < buffer.len
  · rw [if_pos long]
    refine ⟨fun pid => ⟨nofun, fun parsed => ?_⟩, nofun⟩
    have len := holds.len
    rw [(parsePacket_handshake_iff.mp parsed).1] at len
    rw [len] at long
    exact absurd long (show ¬ 4 < 2 by decide)
  · have fits : bytes.length ≤ 4 := by
      rw [← holds.len]
      omega
    rw [if_neg long, holds.take fits]
    split
    · next pid parsed =>
      refine ⟨fun other => ?_, nofun⟩
      rw [parsed]
      constructor
      · intro same
        cases same
        rfl
      · intro same
        cases same
        rfl
    · next none =>
      exact ⟨fun pid => ⟨nofun, fun parsed => absurd parsed (none pid)⟩, nofun⟩

end Buffer

/-! ### What the loops find -/

/-- All passes, the last among them. -/
def Passes.all {Poll : Type} (passes : Passes Poll) : List Poll := passes.before ++ [passes.last]

/-- Nothing has happened yet. -/
def StartPoll.Idle (poll : StartPoll) : Prop :=
  poll.empty = true ∧ poll.eop = false ∧ poll.error = false

/-- A byte or the end of a packet is there. -/
def StartPoll.Begun (poll : StartPoll) : Prop := poll.empty = false ∨ poll.eop = true

/-- The wait finds a packet in its deadline. -/
def Begins (starts : Passes StartPoll) : Prop :=
  ∃ front poll, front ++ [poll] <+: starts.all ∧ (∀ other ∈ front, other.Idle) ∧ poll.Begun

/-- The pass finds neither an error nor the end of the packet. -/
def PacketPoll.Quiet (poll : PacketPoll) : Prop := poll.error = false ∧ poll.eop = false

/-- **A packet ends in its deadline**: some pass is the first to find its end and no error has been
found; `bytes` is all that has been drained by then, and `flags` what is recorded. -/
def EndsWith (packets : Passes PacketPoll) (bytes : List UInt8) (flags : UInt8) : Prop :=
  ∃ front poll, front ++ [poll] <+: packets.all ∧ (∀ other ∈ front, other.Quiet) ∧
    poll.error = false ∧ poll.eop = true ∧ poll.flags = flags ∧
    bytes = front.flatMap PacketPoll.drained ++ (poll.drained ++ poll.stopped)

section Loops

variable {before : List PacketPoll} {last : PacketPoll} {buffer : HandshakeBuffer}

theorem packetPass_quiet {poll : PacketPoll} (quiet : poll.Quiet)
    (next : HandshakeBuffer → HandshakeOutcome) :
    packetPass poll buffer next = next (drainRxFifo buffer poll.drained) := by
  unfold packetPass
  rw [quiet.1, quiet.2]
  rfl

/-- The loop over a packet that ends. -/
theorem receivePacket_of_ends {held bytes : List UInt8} {flags : UInt8}
    (ends : EndsWith ⟨before, last⟩ bytes flags) (holds : buffer.Holds held) :
    ∃ final : HandshakeBuffer, final.Holds (held ++ bytes) ∧ receivePacket before last buffer =
      { result := handshakeResult final, observation := recordRxObservation final flags } := by
  obtain ⟨front, poll, found, quiet, clean, ended, rfl, rfl⟩ := ends
  have pass : ∀ buffer next, packetPass poll buffer next =
      { result := handshakeResult (drainRxFifo (drainRxFifo buffer poll.drained) poll.stopped)
        observation := recordRxObservation
          (drainRxFifo (drainRxFifo buffer poll.drained) poll.stopped) poll.flags } := by
    intro buffer next
    unfold packetPass
    rw [clean, ended]
    rfl
  induction front generalizing before buffer held with
  | nil =>
    refine ⟨_, (holds.drain poll.drained).drain poll.stopped |>.congr ?_, ?_⟩
    · rw [List.flatMap_nil, List.nil_append, List.append_assoc]
    · cases before with
      | nil =>
        obtain rfl : poll = last := (List.cons_prefix_cons.mp found).1
        exact pass _ _
      | cons first rest =>
        obtain rfl : poll = first := (List.cons_prefix_cons.mp found).1
        exact pass _ _
  | cons first rest ih =>
    have still : first.Quiet := quiet first List.mem_cons_self
    cases before with
    | nil =>
      obtain ⟨-, none⟩ := List.cons_prefix_cons.mp found
      exact absurd (List.prefix_nil.mp none) (List.concat_ne_nil _ _)
    | cons other before =>
      obtain ⟨rfl, later⟩ := List.cons_prefix_cons.mp found
      obtain ⟨final, holds, same⟩ := ih (holds.drain first.drained) later
        fun poll among => quiet poll (List.mem_cons_of_mem _ among)
      refine ⟨final, holds.congr ?_, ?_⟩
      · simp only [List.flatMap_cons, List.append_assoc]
      · rw [receivePacket, packetPass_quiet still]
        exact same

/-- Any other run of the loop finds an invalid packet. -/
theorem receivePacket_otherwise (before : List PacketPoll) (last : PacketPoll)
    (buffer : HandshakeBuffer) : (∃ bytes flags, EndsWith ⟨before, last⟩ bytes flags) ∨
      (receivePacket before last buffer).result = .invalidPacket := by
  have failed : ∀ poll : PacketPoll, poll.error = true → ∀ buffer next,
      (packetPass poll buffer next).result = .invalidPacket := by
    intro poll error buffer next
    unfold packetPass
    rw [error]
    rfl
  induction before generalizing buffer with
  | nil =>
    by_cases error : last.error = true
    · exact Or.inr (failed last error _ _)
    · rw [Bool.not_eq_true] at error
      by_cases ended : last.eop = true
      · exact Or.inl ⟨_, _, [], last, List.prefix_rfl, nofun, error, ended, rfl, rfl⟩
      · rw [Bool.not_eq_true] at ended
        right
        rw [receivePacket, packetPass_quiet ⟨error, ended⟩]
  | cons poll rest ih =>
    by_cases error : poll.error = true
    · exact Or.inr (failed poll error _ _)
    · rw [Bool.not_eq_true] at error
      by_cases ended : poll.eop = true
      · exact Or.inl ⟨_, _, [], poll, List.cons_prefix_cons.mpr ⟨rfl, List.nil_prefix⟩, nofun, error,
          ended, rfl, rfl⟩
      · rw [Bool.not_eq_true] at ended
        rcases ih (drainRxFifo buffer poll.drained) with found | invalid
        · obtain ⟨_, _, front, other, found, quiet, rest⟩ := found
          exact Or.inl ⟨_, _, poll :: front, other, List.cons_prefix_cons.mpr ⟨rfl, found⟩,
            List.forall_mem_cons.mpr ⟨⟨error, ended⟩, quiet⟩, rest.1, rest.2.1, rfl, rfl⟩
        · right
          rw [receivePacket, packetPass_quiet ⟨error, ended⟩]
          exact invalid

end Loops

/-! ### The wait -/

section Wait

variable {begun : HandshakeOutcome} {before : List StartPoll} {last : StartPoll}

theorem startPass_idle {poll : StartPoll} (idle : poll.Idle) (next : HandshakeOutcome) :
    startPass poll begun next = next := by
  unfold startPass
  rw [idle.1, idle.2.1, idle.2.2]
  rfl

theorem startPass_begun {poll : StartPoll} (there : poll.Begun) (next : HandshakeOutcome) :
    startPass poll begun next = begun := by
  unfold startPass
  rcases there with byte | eop
  · rw [byte]
    rfl
  · rw [eop, Bool.not_true, Bool.and_false]
    rfl

theorem waitForStart_of_begins (begins : Begins ⟨before, last⟩) :
    waitForStart begun before last = begun := by
  obtain ⟨front, poll, found, idle, there⟩ := begins
  induction front generalizing before with
  | nil =>
    cases before with
    | nil =>
      obtain rfl : poll = last := (List.cons_prefix_cons.mp found).1
      exact startPass_begun there _
    | cons first rest =>
      obtain rfl : poll = first := (List.cons_prefix_cons.mp found).1
      exact startPass_begun there _
  | cons first rest ih =>
    have still : first.Idle := idle first List.mem_cons_self
    cases before with
    | nil =>
      obtain ⟨-, none⟩ := List.cons_prefix_cons.mp found
      exact absurd (List.prefix_nil.mp none) (List.concat_ne_nil _ _)
    | cons other before =>
      obtain ⟨rfl, later⟩ := List.cons_prefix_cons.mp found
      rw [waitForStart, startPass_idle still]
      exact ih later fun poll among => idle poll (List.mem_cons_of_mem _ among)

theorem waitForStart_of_idle (idle : ∀ poll ∈ before ++ [last], poll.Idle) :
    (waitForStart begun before last).result =
      if last.start then .invalidPacket else .noStart := by
  induction before with
  | nil => rw [waitForStart, startPass_idle (idle last List.mem_cons_self)]
  | cons first rest ih =>
    rw [waitForStart, startPass_idle (idle first List.mem_cons_self)]
    exact ih fun poll among => idle poll (List.mem_cons_of_mem _ among)

/-- Any other wait finds a decoder error first. -/
theorem waitForStart_otherwise (begun : HandshakeOutcome) (before : List StartPoll)
    (last : StartPoll) : Begins ⟨before, last⟩ ∨ (∀ poll ∈ before ++ [last], poll.Idle) ∨
      (¬(∀ poll ∈ before ++ [last], poll.Idle) ∧
        (waitForStart begun before last).result = .invalidPacket) := by
  have pass : ∀ poll : StartPoll, poll.Begun ∨ poll.Idle ∨ (¬ poll.Idle ∧ ∀ next,
      (startPass poll begun next).result = .invalidPacket) := by
    rintro ⟨empty, eop, error, start, stopped, flags⟩
    unfold StartPoll.Begun StartPoll.Idle startPass
    cases empty <;> cases eop <;> cases error <;> simp
  induction before with
  | nil =>
    rcases pass last with there | idle | ⟨busy, failed⟩
    · exact Or.inl ⟨[], last, List.prefix_rfl, nofun, there⟩
    · exact Or.inr (Or.inl fun poll among => List.mem_singleton.mp among ▸ idle)
    · exact Or.inr (Or.inr ⟨fun all => busy (all last List.mem_cons_self), failed _⟩)
  | cons first rest ih =>
    rcases pass first with there | idle | ⟨busy, failed⟩
    · exact Or.inl ⟨[], first, List.cons_prefix_cons.mpr ⟨rfl, List.nil_prefix⟩, nofun, there⟩
    · rw [waitForStart, startPass_idle idle]
      rcases ih with ⟨front, poll, found, still, there⟩ | all | ⟨busy, failed⟩
      · exact Or.inl ⟨first :: front, poll, List.cons_prefix_cons.mpr ⟨rfl, found⟩,
          List.forall_mem_cons.mpr ⟨idle, still⟩, there⟩
      · exact Or.inr (Or.inl (List.forall_mem_cons.mpr ⟨idle, all⟩))
      · exact Or.inr (Or.inr ⟨fun all => busy (List.forall_mem_cons.mp all).2, failed⟩)
    · exact Or.inr (Or.inr ⟨fun all => busy (all first List.mem_cons_self), failed _⟩)

end Wait

/-! ### The routine -/

theorem Begins.not_idle {starts : Passes StartPoll} (begins : Begins starts) :
    ¬∀ poll ∈ starts.all, poll.Idle := by
  obtain ⟨front, poll, found, -, there⟩ := begins
  intro idle
  have among : poll ∈ starts.all := found.subset (List.mem_append_right _ List.mem_cons_self)
  rcases there with byte | eop
  · exact Bool.false_ne_true (byte.symm.trans (idle poll among).1)
  · exact Bool.false_ne_true ((idle poll among).2.1.symm.trans eop)

section Routine

variable {starts : Passes StartPoll} {packets : Passes PacketPoll} {bytes : List UInt8} {flags : UInt8}

/-- The routine on a packet that begins and ends in its deadlines. -/
theorem receiveHandshake_whole (begins : Begins starts) (ends : EndsWith packets bytes flags) :
    ∃ final : HandshakeBuffer, final.Holds bytes ∧ receiveHandshake starts packets =
      { result := handshakeResult final, observation := recordRxObservation final flags } := by
  obtain ⟨final, holds, same⟩ := receivePacket_of_ends ends holds_empty
  refine ⟨final, holds, ?_⟩
  unfold receiveHandshake
  rw [waitForStart_of_begins begins]
  exact same

/-- Where a handshake has begun and ended in the deadlines, it is returned. -/
theorem receiveHandshake_of_ends (begins : Begins starts) {pid : UInt8}
    (ends : EndsWith packets [sync, pid] flags) (known : pid = pidAck ∨ pid = pidNak ∨ pid = pidStall) :
    (receiveHandshake starts packets).result = .handshake pid := by
  obtain ⟨final, holds, same⟩ := receiveHandshake_whole begins ends
  rw [same]
  exact ((handshakeResult_spec holds).1 pid).mpr (parsePacket_handshake_iff.mpr ⟨rfl, known⟩)

/-- Where no pass finds anything, there is no start. -/
theorem receiveHandshake_of_idle (idle : ∀ poll ∈ starts.all, poll.Idle)
    (quiet : starts.last.start = false) : (receiveHandshake starts packets).result = .noStart := by
  have result : (receiveHandshake starts packets).result =
      if starts.last.start then .invalidPacket else .noStart := waitForStart_of_idle idle
  rw [result, quiet]
  rfl

/-- **What the routine returns**, for any passes over its two loops: a handshake exactly when a packet
begins and ends in the deadlines, no error is found on the way, and all that has been drained is SYNC
and the PID of a handshake; and no start exactly when no pass finds anything. -/
theorem receiveHandshake_spec (starts : Passes StartPoll) (packets : Passes PacketPoll) :
    (∀ pid, (receiveHandshake starts packets).result = .handshake pid ↔
      Begins starts ∧ (∃ flags, EndsWith packets [sync, pid] flags) ∧
        (pid = pidAck ∨ pid = pidNak ∨ pid = pidStall)) ∧
      ((receiveHandshake starts packets).result = .noStart ↔
        (∀ poll ∈ starts.all, poll.Idle) ∧ starts.last.start = false) := by
  by_cases begins : Begins starts
  · have onward : receiveHandshake starts packets =
        receivePacket packets.before packets.last .empty := waitForStart_of_begins begins
    rcases receivePacket_otherwise packets.before packets.last .empty with
      ⟨bytes, flags, ends⟩ | invalid
    · obtain ⟨final, holds, same⟩ := receiveHandshake_whole begins ends
      obtain ⟨parsed, started⟩ := handshakeResult_spec holds
      refine ⟨fun pid => ⟨fun received => ?_, ?_⟩, fun none => ?_, fun idle => ?_⟩
      · rw [same] at received
        obtain ⟨rfl, known⟩ := parsePacket_handshake_iff.mp ((parsed pid).mp received)
        exact ⟨begins, ⟨flags, ends⟩, known⟩
      · rintro ⟨-, ⟨flags, ends⟩, known⟩
        exact receiveHandshake_of_ends begins ends known
      · rw [same] at none
        exact absurd none started
      · exact absurd idle.1 begins.not_idle
    · rw [onward, invalid]
      refine ⟨fun pid => ⟨nofun, ?_⟩, nofun, fun idle => absurd idle.1 begins.not_idle⟩
      rintro ⟨-, ⟨flags, ends⟩, known⟩
      rw [← onward, receiveHandshake_of_ends begins ends known] at invalid
      cases invalid
  · rcases (waitForStart_otherwise (receivePacket packets.before packets.last .empty) starts.before
      starts.last).resolve_left begins with idle | ⟨busy, failed⟩
    · have result : (receiveHandshake starts packets).result =
          if starts.last.start then .invalidPacket else .noStart := waitForStart_of_idle idle
      rw [result]
      refine ⟨fun pid => ⟨fun received => ?_, fun found => absurd found.1 begins⟩,
        fun none => ⟨idle, ?_⟩, fun found => by rw [found.2]; rfl⟩
      · split at received <;> cases received
      · split at none
        · cases none
        · next quiet => exact Bool.not_eq_true _ ▸ quiet
    · have result : (receiveHandshake starts packets).result = .invalidPacket := failed
      rw [result]
      exact ⟨fun pid => ⟨nofun, fun found => absurd found.1 begins⟩, nofun,
        fun found => absurd found.1 busy⟩

/-! ### The classification -/

/-- How two bytes are classified. -/
def twoByteFailure (first pid : UInt8) : HandshakeFailure :=
  if first ≠ sync then .invalidSync
  else if !pidComplementValid pid then .invalidPidComplement
  else if !(pid == pidAck || pid == pidNak || pid == pidStall) then .unexpectedPid
  else .unknown

theorem recorded_len {final : HandshakeBuffer} (holds : final.Holds bytes) :
    (recordRxObservation final flags).len = 2 ↔ bytes.length = 2 := by
  unfold recordRxObservation
  simp only
  rw [holds.len, ← UInt8.toNat_inj, UInt8.toNat_ofNat']
  show min bytes.length 255 % 256 = 2 ↔ _
  omega

theorem classify_length {final : HandshakeBuffer} (holds : final.Holds bytes)
    (clean : flags &&& 2 = 0) (eop : flags &&& 4 ≠ 0) (wrong : bytes.length ≠ 2) :
    classifyHandshakeFailure (recordRxObservation final flags) = .wrongLength := by
  have recordedClean : (recordRxObservation final flags).irqFlags &&& 2 = 0 := clean
  have recordedEop : (recordRxObservation final flags).irqFlags &&& 4 ≠ 0 := eop
  unfold classifyHandshakeFailure
  rw [if_neg (not_not.mpr recordedClean), if_neg recordedEop,
    if_pos (mt (recorded_len holds).mp wrong)]

theorem classify_two {final : HandshakeBuffer} {first pid : UInt8} (holds : final.Holds [first, pid])
    (clean : flags &&& 2 = 0) (eop : flags &&& 4 ≠ 0) :
    classifyHandshakeFailure (recordRxObservation final flags) = twoByteFailure first pid := by
  have zero : final.bytes[0] = first := holds.kept 0 (by decide) first rfl
  have one : final.bytes[1] = pid := holds.kept 1 (by decide) pid rfl
  have recordedClean : (recordRxObservation final flags).irqFlags &&& 2 = 0 := clean
  have recordedEop : (recordRxObservation final flags).irqFlags &&& 4 ≠ 0 := eop
  unfold classifyHandshakeFailure
  rw [if_neg (not_not.mpr recordedClean), if_neg recordedEop,
    if_neg (not_not.mpr ((recorded_len holds).mpr rfl))]
  show (if final.bytes[0] ≠ sync then _ else if !pidComplementValid final.bytes[1] then _ else
    if !(final.bytes[1] == pidAck || final.bytes[1] == pidNak || final.bytes[1] == pidStall) then _
    else _) = _
  rw [zero, one]
  rfl

/-- The classification of two bytes is the parser's. -/
theorem twoByteFailure_spec (first pid : UInt8) :
    (twoByteFailure first pid = .unknown ↔
        ∃ other, parsePacket [first, pid] = .ok (.handshake other)) ∧
      (twoByteFailure first pid = .invalidSync ↔ parsePacket [first, pid] = .error .invalidSync) ∧
      (twoByteFailure first pid = .invalidPidComplement ↔
        parsePacket [first, pid] = .error .invalidPid) := by
  have parsed : parsePacket [first, pid] =
      if first ≠ sync then .error .invalidSync
      else if !pidComplementValid pid then .error .invalidPid
      else if pid == pidAck || pid == pidNak || pid == pidStall then .ok (.handshake pid)
      else if pid == pidOut || pid == pidIn || pid == pidSetup || pid == pidSof then
        .error .invalidLength
      else if isDataPid pid then .error .invalidLength else .error .unsupportedPid := rfl
  rw [parsed]
  unfold twoByteFailure
  by_cases isSync : first = sync
  · by_cases complement : pidComplementValid pid = true
    · by_cases known : (pid == pidAck || pid == pidNak || pid == pidStall) = true
      · simp [isSync, complement, known]
      · rw [if_neg (not_not.mpr isSync), if_neg (not_not.mpr isSync), complement, Bool.not_true,
          if_neg Bool.false_ne_true, if_neg Bool.false_ne_true, if_neg known,
          if_pos ((Bool.not_eq_true' _).mpr (Bool.not_eq_true _ ▸ known))]
        refine ⟨⟨nofun, ?_⟩, ⟨nofun, ?_⟩, ⟨nofun, ?_⟩⟩
        · rintro ⟨other, accepted⟩
          split_ifs at accepted
        · intro refused
          split_ifs at refused <;> cases refused
        · intro refused
          split_ifs at refused <;> cases refused
    · simp [isSync, complement]
  · simp [isSync]

/-- **The classification of a whole packet**, where the flags recorded are those that ended it: nothing
is left unknown but what the routine returns as a handshake, and a packet of two bytes is given the
reason for which the parser refuses it. -/
theorem classifyHandshakeFailure_spec (starts : Passes StartPoll) (packets : Passes PacketPoll)
    (bytes : List UInt8) (flags : UInt8) (begins : Begins starts)
    (ends : EndsWith packets bytes flags) (clean : flags &&& 2 = 0) (eop : flags &&& 4 ≠ 0) :
    let outcome := receiveHandshake starts packets
    let failure := classifyHandshakeFailure outcome.observation
    (failure = .unknown ↔ ∃ pid, outcome.result = .handshake pid) ∧
      (failure = .wrongLength ↔ bytes.length ≠ 2) ∧
      (bytes.length = 2 →
        (failure = .invalidSync ↔ parsePacket bytes = .error .invalidSync) ∧
          (failure = .invalidPidComplement ↔ parsePacket bytes = .error .invalidPid)) := by
  obtain ⟨final, holds, same⟩ := receiveHandshake_whole begins ends
  obtain ⟨parsed, -⟩ := handshakeResult_spec holds
  rw [same]
  simp only
  have received : (∃ pid, handshakeResult final = .handshake pid) ↔
      ∃ pid, parsePacket bytes = .ok (.handshake pid) := exists_congr parsed
  rw [received]
  by_cases two : bytes.length = 2
  · obtain ⟨first, pid, rfl⟩ := List.length_eq_two.mp two
    rw [classify_two holds clean eop]
    obtain ⟨unknown, refusals⟩ := twoByteFailure_spec first pid
    refine ⟨unknown, ⟨fun wrong => absurd wrong ?_, fun other => absurd two other⟩, fun _ => refusals⟩
    unfold twoByteFailure
    split_ifs <;> nofun
  · rw [classify_length holds clean eop two]
    refine ⟨⟨nofun, ?_⟩, ⟨fun _ => two, fun _ => rfl⟩, fun other => absurd other two⟩
    rintro ⟨pid, parsed⟩
    exact absurd (congrArg List.length (parsePacket_handshake_iff.mp parsed).1) two

/-- A NAK in three drains is left unknown. -/
def nakPolls : Passes PacketPoll where
  before :=
    [{ drained := [sync], error := false, eop := false, stopped := [], flags := 0 },
      { drained := [], error := false, eop := true, stopped := [pidNak], flags := 12 }]
  last := { drained := [], error := false, eop := false, stopped := [], flags := 0 }

/-- A byte is there before the start is looked for. -/
def byteFirst : Passes StartPoll where
  before := []
  last := { empty := false, eop := false, error := false, start := true, stopped := [], flags := 0 }

theorem classifyHandshakeFailure_spec_nak :
    classifyHandshakeFailure (receiveHandshake byteFirst nakPolls).observation = .unknown :=
  (classifyHandshakeFailure_spec byteFirst nakPolls [sync, pidNak] 12
    ⟨[], byteFirst.last, List.prefix_rfl, nofun, Or.inl rfl⟩
    ⟨[_], _, ⟨[nakPolls.last], rfl⟩, by simp [PacketPoll.Quiet], rfl, rfl, rfl, rfl⟩
    (by decide) (by decide)).1.mpr ⟨pidNak, by decide⟩

end Routine

end PioUsbHost.Rx
