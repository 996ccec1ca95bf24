/-
**What the engine puts on the bus, and when.**

`Legal` says what may follow what has been put on the bus before; `Kept` is the invariant of a run that
makes every effect legal, whichever waits are dropped.

* `kept_step`: one step keeps the invariant.
* `frames_spec`: the frame markers of a run are numbered from its last reset, and no two that are sent
  belong to one millisecond.
* `bus_quiet_spec`: nothing is sent while the engine drives a reset, nor in the recovery after it, and
  the bus is driven by no one once the reset has gone.
-/

import PioUsbHost.Lib.History
import PioUsbHost.Frame.Engine

namespace PioUsbHost.Frame

open PioUsbHost.Usb PioUsbHost.Pio PioUsbHost.Lib PioUsbHost.Lib.History

/-! ### What has been put on the bus -/

/-- The frames numbered since the last reset began. -/
def numberedBy (count : Nat) : Effect → Nat
  | .drive _ => 0
  | .marker marker => if marker.bytes = [] then count else count + 1
  | _ => count

/-- The tokens since the last reset began. -/
def sinceReset (history : List Effect) : Nat := history.foldl numberedBy 0

/-- When the reset began that still drives the bus. -/
def drivenBy (began : Option Nat) : Effect → Option Nat
  | .drive time => some time
  | .release _ _ => none
  | _ => began

/-- When the reset began that drives the bus after the history. -/
def driveStart (history : List Effect) : Option Nat := history.foldl drivenBy none

/-- **The bus is quiet**: no reset is driven, and every device has had its time to recover. -/
def Quiet (before : List Effect) (time : Nat) : Prop :=
  driveStart before = none ∧ ∀ released dropped, .release released dropped ∈ before →
    released + millis usbResetRecoveryMs ≤ time

/-- A frame marker belongs on the bus. -/
structure MarkerLegal (before : List Effect) (marker : Marker) : Prop where
  quiet : Quiet before marker.time
  due : marker.slot ≤ marker.time
  apart : ∀ other, .marker other ∈ before → other.sent = true → other.slot + millis 1 ≤ marker.slot
  numbered : marker.bytes = [] ∨ marker.bytes = sofPacket (UInt16.ofNat (sinceReset before % 2048))

/-- **What may follow** what has been put on the bus before. -/
def Legal (before : List Effect) : Effect → Prop
  | .none => True
  | .drive _ => driveStart before = none
  | .release time dropped => ∃ began, driveStart before = some began ∧
      (dropped = false → began + millis usbResetMs ≤ time)
  | .marker marker => MarkerLegal before marker
  | .packets time => Quiet before time

/-! ### The invariant -/

/-- What a waiting task may rely on. -/
def TaskKept (history : List Effect) (system : System) : Prop :=
  match system.task with
  | .idle | .recovering | .ready _ => driveStart history = none
  | .resetting deadline => ∃ began, driveStart history = some began ∧
      began + millis usbResetMs ≤ deadline
  | .advancing | .transmitting =>
    driveStart history = none ∧ system.engine.busReadyAt ≤ system.now
  | .awaitingFrame slot =>
    driveStart history = none ∧ system.engine.busReadyAt ≤ system.now ∧
      slot = system.engine.nextFrame

/-- **The invariant of a run.** -/
structure Kept (history : List Effect) (system : System) : Prop where
  legal : AtEach Legal history
  number : system.engine.frameNumber = UInt16.ofNat (sinceReset history % 2048)
  due : system.engine.nextFrame ≤ system.now + millis 1
  slots : ∀ marker, .marker marker ∈ history → marker.sent = true →
    marker.slot + millis 1 ≤ system.engine.nextFrame
  rests : ∀ released dropped, .release released dropped ∈ history →
    released ≤ system.now ∧ released + millis usbResetRecoveryMs ≤ system.engine.busReadyAt
  driving : system.driving = (driveStart history).isSome
  task : TaskKept history system

section Invariant

variable {history : List Effect} {system after : System} {effect : Effect}

theorem sinceReset_concat : sinceReset (history ++ [effect]) = numberedBy (sinceReset history) effect :=
  List.foldl_concat _ _ _ _

theorem driveStart_concat : driveStart (history ++ [effect]) = drivenBy (driveStart history) effect :=
  List.foldl_concat _ _ _ _

theorem mem_concat_of_ne {entry : Effect} (other : entry ≠ effect) :
    entry ∈ history ++ [effect] ↔ entry ∈ history := by
  rw [List.mem_append, List.mem_singleton, or_iff_left other]

/-- The bus is quiet once it is ready. -/
theorem Kept.quiet (kept : Kept history system) (released : driveStart history = none) {time : Nat}
    (ready : system.engine.busReadyAt ≤ time) : Quiet history time :=
  ⟨released, fun freed dropped among => (kept.rests freed dropped among).2.trans ready⟩

/-- What a task relies on is when the reset began. -/
theorem TaskKept.congr {other : List Effect} (kept : TaskKept history system)
    (same : driveStart other = driveStart history) : TaskKept other system := by
  unfold TaskKept at kept ⊢
  rw [same]
  exact kept

/-- Time passes. -/
theorem TaskKept.later (kept : TaskKept history system) {later : Nat} (onward : system.now ≤ later) :
    TaskKept history { system with now := later } := by
  obtain ⟨engine, driving, task, now⟩ := system
  cases task with
  | idle | recovering | ready scheduled | resetting deadline => exact kept
  | advancing | transmitting => exact ⟨kept.1, kept.2.trans onward⟩
  | awaitingFrame slot => exact ⟨kept.1, kept.2.1.trans onward, kept.2.2⟩

/-- **A step that starts or ends nothing** on the bus. -/
theorem Kept.inert (kept : Kept history system)
    (inert : effect = .none ∨ ∃ time, effect = .packets time ∧ Quiet history time)
    (number : after.engine.frameNumber = system.engine.frameNumber)
    (later : system.engine.nextFrame ≤ after.engine.nextFrame)
    (due : after.engine.nextFrame ≤ after.now + millis 1)
    (ready : after.engine.busReadyAt = system.engine.busReadyAt) (onward : system.now ≤ after.now)
    (driving : after.driving = system.driving) (task : TaskKept history after) :
    Kept (history ++ [effect]) after := by
  obtain ⟨unmarked, unreleased, counted, driven, legal⟩ :
      (∀ marker, Effect.marker marker ≠ effect) ∧
        (∀ released dropped, Effect.release released dropped ≠ effect) ∧
        numberedBy (sinceReset history) effect = sinceReset history ∧
        drivenBy (driveStart history) effect = driveStart history ∧ Legal history effect := by
    rcases inert with rfl | ⟨time, rfl, quiet⟩
    · exact ⟨nofun, nofun, rfl, rfl, trivial⟩
    · exact ⟨nofun, nofun, rfl, rfl, quiet⟩
  refine ⟨atEach_concat.mpr ⟨kept.legal, legal⟩, ?_, due, fun marker among sent => ?_,
    fun released dropped among => ?_, ?_, task.congr ?_⟩
  · rw [sinceReset_concat, counted, number, kept.number]
  · exact (kept.slots marker ((mem_concat_of_ne (unmarked marker)).mp among) sent).trans later
  · obtain ⟨past, rests⟩ :=
      kept.rests released dropped ((mem_concat_of_ne (unreleased released dropped)).mp among)
    exact ⟨past.trans onward, ready ▸ rests⟩
  · rw [driveStart_concat, driven, driving, kept.driving]
  · rw [driveStart_concat, driven]

/-! ### A frame marker -/

/-- What a marker is, and what it leaves of the engine. -/
theorem frameMarker_spec (engine : FrameEngine) (slot time later : Nat) (sent : Bool) :
    ((engine.frameMarker slot time later sent).1.time = time ∧
        (engine.frameMarker slot time later sent).1.slot = slot ∧
        (engine.frameMarker slot time later sent).1.sent = sent) ∧
      (engine.frameMarker slot time later sent).2.busReadyAt = engine.busReadyAt ∧
      (engine.frameMarker slot time later sent).2.nextFrame =
        (if sent then (engine.scheduleFrameAfter slot later).nextFrame else engine.nextFrame) ∧
      (((engine.frameMarker slot time later sent).1.bytes = [] ∧
          (engine.frameMarker slot time later sent).2.frameNumber = engine.frameNumber) ∨
        ((engine.frameMarker slot time later sent).1.bytes = sofPacket engine.frameNumber ∧
          (engine.frameMarker slot time later sent).2.frameNumber =
            (engine.frameNumber + 1) &&& 0x07ff)) := by
  obtain ⟨speed, frameNumber, nextFrame, busReadyAt⟩ := engine
  cases speed <;> cases sent
  · exact ⟨⟨rfl, rfl, rfl⟩, rfl, rfl, Or.inr ⟨rfl, rfl⟩⟩
  · exact ⟨⟨rfl, rfl, rfl⟩, rfl, rfl, Or.inr ⟨rfl, rfl⟩⟩
  · exact ⟨⟨rfl, rfl, rfl⟩, rfl, rfl, Or.inl ⟨rfl, rfl⟩⟩
  · exact ⟨⟨rfl, rfl, rfl⟩, rfl, rfl, Or.inl ⟨rfl, rfl⟩⟩

/-- The frame after a slot is a millisecond after it at least, and a millisecond from now at most. -/
theorem scheduleFrameAfter_bounds (engine : FrameEngine) {slot later : Nat} (past : slot ≤ later) :
    slot + millis 1 ≤ (engine.scheduleFrameAfter slot later).nextFrame ∧
      (engine.scheduleFrameAfter slot later).nextFrame ≤ later + millis 1 := by
  show slot + millis 1 ≤ (if later < slot + millis 1 then _ else _) ∧
    (if later < slot + millis 1 then _ else _) ≤ later + millis 1
  split <;> omega

/-- The next number of eleven bits. -/
theorem frameNumber_succ (count : Nat) : (UInt16.ofNat (count % 2048) + 1) &&& 0x07ff =
    UInt16.ofNat ((count + 1) % 2048) := by
  rw [← UInt16.toNat_inj, UInt16.toNat_and]
  refine (Nat.and_two_pow_sub_one_eq_mod _ 11).trans ?_
  rw [UInt16.toNat_add, UInt16.toNat_ofNat', UInt16.toNat_ofNat']
  show (count % 2048 % 65536 + 1) % 65536 % 2048 = (count + 1) % 2048 % 65536
  omega

theorem sofPacket_ne_nil (frameNumber : UInt16) : sofPacket frameNumber ≠ [] :=
  List.cons_ne_nil _ _

/-- **A frame marker**, transmitted for the next frame once that is due and the bus is ready. -/
theorem Kept.mark (kept : Kept history system) (released : driveStart history = none) {time later : Nat}
    (onward : system.now ≤ time) (further : time ≤ later)
    (ready : system.engine.busReadyAt ≤ time) (due : system.engine.nextFrame ≤ time) (sent : Bool)
    {task : Task} (goesOn : task = .idle ∨ task = .transmitting) :
    Kept (history ++
        [.marker (system.engine.frameMarker system.engine.nextFrame time later sent).1])
      { system with
        engine := (system.engine.frameMarker system.engine.nextFrame time later sent).2
        task, now := later } := by
  obtain ⟨⟨atTime, ofSlot, isSent⟩, sameReady, next, bytes⟩ :=
    frameMarker_spec system.engine system.engine.nextFrame time later sent
  obtain ⟨apart, near⟩ := scheduleFrameAfter_bounds system.engine (due.trans further)
  generalize system.engine.frameMarker system.engine.nextFrame time later sent = marked at *
  obtain ⟨marker, engine⟩ := marked
  simp only at *
  have onwards : system.engine.nextFrame ≤ engine.nextFrame := by
    rw [next]
    split <;> omega
  have legal : MarkerLegal history marker := by
    refine ⟨atTime ▸ kept.quiet released ready, by omega, fun other among sent => ?_, ?_⟩
    · rw [ofSlot]
      exact kept.slots other among sent
    · rcases bytes with ⟨keepAlive, -⟩ | ⟨token, -⟩
      · exact Or.inl keepAlive
      · exact Or.inr (by rw [token, kept.number])
  refine ⟨atEach_concat.mpr ⟨kept.legal, legal⟩, ?_, ?_, fun other among otherSent => ?_,
    fun freed dropped among => ?_, ?_, ?_⟩
  · show engine.frameNumber = _
    rw [sinceReset_concat]
    rcases bytes with ⟨keepAlive, same⟩ | ⟨token, advanced⟩
    · rw [numberedBy, if_pos keepAlive, same, kept.number]
    · rw [numberedBy, if_neg (token ▸ sofPacket_ne_nil _), advanced, kept.number, frameNumber_succ]
  · show engine.nextFrame ≤ later + millis 1
    rw [next]
    split
    · exact near
    · have := kept.due
      omega
  · show other.slot + millis 1 ≤ engine.nextFrame
    rcases List.mem_append.mp among with earlier | new
    · exact (kept.slots other earlier otherSent).trans onwards
    · cases List.mem_singleton.mp new
      rw [next, ← isSent, if_pos otherSent, ofSlot]
      exact apart
  · have other : Effect.release freed dropped ≠ .marker marker := nofun
    obtain ⟨past, rests⟩ := kept.rests freed dropped ((mem_concat_of_ne other).mp among)
    exact ⟨past.trans (onward.trans further), sameReady ▸ rests⟩
  · show system.driving = _
    rw [driveStart_concat, kept.driving]
    rfl
  · have quiet : driveStart (history ++ [.marker marker]) = none := by
      rw [driveStart_concat]
      exact released
    unfold TaskKept
    rcases goesOn with rfl | rfl
    · exact quiet
    · exact ⟨quiet, by show engine.busReadyAt ≤ later; omega⟩

/-- A test for a due frame, while the bus is not driven. -/
theorem Kept.dueSof (kept : Kept history system) (released : driveStart history = none)
    {second later : Nat} (onward : system.now ≤ second) (further : second ≤ later) (sent : Bool)
    {task : Task} (goesOn : task = .idle ∨
      task = .transmitting ∧ system.engine.busReadyAt ≤ system.now) :
    Kept (history ++ [dueEffect (system.engine.dueSof system.now second later sent).1])
      { system with
        engine := (system.engine.dueSof system.now second later sent).2, task, now := later } := by
  have quiet : ∀ engine : FrameEngine, engine.busReadyAt = system.engine.busReadyAt →
      TaskKept history { system with engine, task, now := later } := by
    intro engine same
    unfold TaskKept
    rcases goesOn with rfl | ⟨rfl, ready⟩
    · exact released
    · exact ⟨released, by show engine.busReadyAt ≤ later; omega⟩
  have nothing : Kept (history ++ [.none]) { system with task, now := later } :=
    kept.inert (Or.inl rfl) rfl le_rfl (kept.due.trans (by show _ ≤ later + millis 1; omega)) rfl
      (onward.trans further) rfl (quiet system.engine rfl)
  unfold FrameEngine.dueSof
  by_cases early : system.now < system.engine.busReadyAt
  · rw [if_pos early]
    exact nothing
  · by_cases notDue : second < system.engine.nextFrame
    · rw [if_neg early, if_pos notDue]
      exact nothing
    · rw [if_neg early, if_neg notDue]
      exact kept.mark released onward further (by omega) (Nat.not_lt.mp notDue) sent
        (goesOn.imp_right And.left)

/-! ### Every step -/

/-- A reset begins to drive the bus. -/
theorem Kept.drive (kept : Kept history system) (released : driveStart history = none) (speed : Speed)
    {later : Nat} (onward : system.now ≤ later) :
    Kept (history ++ [.drive later])
      { engine :=
          { system.engine with
            speed
            frameNumber := 0
            busReadyAt := system.now + millis (usbResetMs + usbResetRecoveryMs) }
        driving := true
        task := .resetting (later + millis usbResetMs)
        now := later } := by
  refine ⟨atEach_concat.mpr ⟨kept.legal, released⟩, ?_, ?_, fun marker among sent => ?_,
    fun freed dropped among => ?_, ?_, ?_⟩
  · rw [sinceReset_concat]
    rfl
  · show system.engine.nextFrame ≤ later + millis 1
    have := kept.due
    omega
  · have other : Effect.marker marker ≠ .drive later := nofun
    exact kept.slots marker ((mem_concat_of_ne other).mp among) sent
  · have other : Effect.release freed dropped ≠ .drive later := nofun
    have past := (kept.rests freed dropped ((mem_concat_of_ne other).mp among)).1
    exact ⟨past.trans onward, by
      show freed + millis usbResetRecoveryMs ≤ system.now + millis (usbResetMs + usbResetRecoveryMs)
      unfold millis
      omega⟩
  · rw [driveStart_concat]
    rfl
  · exact ⟨later, driveStart_concat, le_rfl⟩

/-- Releasing the bus ends the reset that drives it. -/
theorem Kept.release (kept : Kept history system) {began : Nat} (driven : driveStart history = some began)
    (dropped : Bool) (full : dropped = false → began + millis usbResetMs ≤ system.now) {task : Task}
    (ends : task = .idle ∨ task = .recovering) :
    Kept (history ++ [.release system.now dropped])
      { system with engine := system.engine.releaseBus system.now, driving := false, task } := by
  refine ⟨atEach_concat.mpr ⟨kept.legal, began, driven, full⟩, ?_, kept.due, fun marker among sent => ?_,
    fun released cancelled among => ?_, ?_, ?_⟩
  · rw [sinceReset_concat]
    exact kept.number
  · have other : Effect.marker marker ≠ .release system.now dropped := nofun
    exact kept.slots marker ((mem_concat_of_ne other).mp among) sent
  · rcases List.mem_append.mp among with earlier | new
    · have past := (kept.rests released cancelled earlier).1
      exact ⟨past, Nat.add_le_add_right past _⟩
    · cases List.mem_singleton.mp new
      exact ⟨le_rfl, le_rfl⟩
  · rw [driveStart_concat]
    rfl
  · have quiet : driveStart (history ++ [.release system.now dropped]) = none := driveStart_concat
    unfold TaskKept
    rcases ends with rfl | rfl <;> exact quiet

/-- The bus is driven by a reset in its first timer alone. -/
theorem Kept.driving_iff (kept : Kept history system) :
    system.driving = true ↔ ∃ deadline, system.task = .resetting deadline := by
  have task := kept.task
  unfold TaskKept at task
  rw [kept.driving]
  constructor
  · intro driven
    cases here : system.task with
    | resetting deadline => exact ⟨deadline, rfl⟩
    | idle | recovering | ready scheduled => rw [here] at task; rw [task] at driven; cases driven
    | advancing | transmitting => rw [here] at task; rw [task.1] at driven; cases driven
    | awaitingFrame slot => rw [here] at task; rw [task.1] at driven; cases driven
  · rintro ⟨deadline, here⟩
    rw [here] at task
    obtain ⟨began, driven, -⟩ := task
    rw [driven]
    rfl

/-- **One step** keeps the invariant. -/
theorem kept_step (kept : Kept history system) (step : Step system effect after) :
    Kept (history ++ [effect]) after := by
  have task := kept.task
  unfold TaskKept at task
  cases step with
  | pass later onward =>
    have due : system.engine.nextFrame ≤ later + millis 1 := by
      have := kept.due
      omega
    exact kept.inert (Or.inl rfl) rfl le_rfl due rfl onward rfl (kept.task.later onward)
  | resetBegin speed later onward idle =>
    rw [idle] at task
    exact kept.drive task speed onward
  | resetRelease deadline resetting elapsed =>
    rw [resetting] at task
    obtain ⟨began, driven, long⟩ := task
    exact kept.release driven false (fun _ => long.trans elapsed) (Or.inr rfl)
  | resetDone recovering elapsed =>
    rw [recovering] at task
    exact kept.inert (Or.inl rfl) rfl kept.due le_rfl rfl le_rfl rfl task
  | drop awaits quiet =>
    have released : driveStart history = none := by
      rw [kept.driving, Option.isSome_eq_false_iff, Option.isNone_iff_eq_none] at quiet
      exact quiet
    exact kept.inert (Or.inl rfl) rfl le_rfl kept.due rfl le_rfl rfl released
  | dropReset awaits driving =>
    rw [kept.driving, Option.isSome_iff_exists] at driving
    obtain ⟨began, driven⟩ := driving
    exact kept.release driven true nofun (Or.inl rfl)
  | serviceFrame second later sent onward further idle =>
    rw [idle] at task
    have checked := kept.dueSof task onward further sent (Or.inl rfl)
    rw [← idle] at checked
    exact checked
  | retryLater idle =>
    rw [idle] at task
    refine kept.inert (Or.inl rfl) rfl kept.due le_rfl rfl le_rfl rfl ?_
    unfold TaskKept
    rw [show System.task _ = .idle from idle]
    exact task
  | begin scheduled idle =>
    rw [idle] at task
    exact kept.inert (Or.inl rfl) rfl le_rfl kept.due rfl le_rfl rfl task
  | readyScheduled ready elapsed =>
    rw [ready] at task
    exact kept.inert (Or.inl rfl) rfl le_rfl kept.due rfl le_rfl rfl ⟨task, elapsed⟩
  | readyDue second later sent onward further ready elapsed =>
    rw [ready] at task
    refine kept.dueSof task onward further sent ?_
    split
    · exact Or.inr ⟨rfl, elapsed⟩
    · exact Or.inl rfl
  | advance advancing elapsed =>
    rw [advancing] at task
    exact kept.inert (Or.inl rfl) rfl le_rfl kept.due rfl le_rfl rfl ⟨task.1, elapsed, rfl⟩
  | frame slot later sent further awaiting elapsed =>
    rw [awaiting] at task
    obtain ⟨released, ready, rfl⟩ := task
    refine kept.mark released le_rfl further ready elapsed sent ?_
    split
    · exact Or.inr rfl
    · exact Or.inl rfl
  | transmit transmitting =>
    rw [transmitting] at task
    exact kept.inert (Or.inr ⟨_, rfl, kept.quiet task.1 task.2⟩) rfl le_rfl kept.due rfl le_rfl rfl task.1
  | giveUp transmitting =>
    rw [transmitting] at task
    exact kept.inert (Or.inl rfl) rfl le_rfl kept.due rfl le_rfl rfl task.1

end Invariant

/-! ### Runs -/

section Runs

variable {initial last : System} {trace : List Effect}

theorem kept_run {history : List Effect} {first : System} (kept : Kept history first)
    (run : Run Step first trace last) : Kept (history ++ trace) last := by
  induction run generalizing history with
  | nil => rwa [List.append_nil]
  | cons step _ ih =>
    have next := ih (kept_step kept step)
    rwa [List.append_assoc] at next

theorem kept_fresh (fresh : initial.Fresh) : Kept [] initial := by
  obtain ⟨number, next, ready, released, idle⟩ := fresh
  refine ⟨atEach_nil, number, next, nofun, nofun, released, ?_⟩
  unfold TaskKept
  rw [idle]
  rfl

/-- **The receiver of a Start-of-Frame token reads its number**: the token is that of an address and an
endpoint that share its eleven bits. -/
theorem parsePacket_sofPacket (frameNumber : UInt16) :
    ∃ value : UInt16, value.toNat = frameNumber.toNat % 2048 ∧
      parsePacket (sofPacket frameNumber) = .ok (.token pidSof value) := by
  have frame : (frameNumber &&& 0x07ff).toNat = frameNumber.toNat % 2048 := by
    rw [UInt16.toNat_and]
    exact Nat.and_two_pow_sub_one_eq_mod _ 11
  have address : (frameNumber &&& 0x7f).toUInt8.toNat = frameNumber.toNat % 128 := by
    rw [UInt16.toNat_toUInt8, UInt16.toNat_and]
    refine (congrArg (· % 256) (Nat.and_two_pow_sub_one_eq_mod _ 7)).trans ?_
    show frameNumber.toNat % 128 % 256 = _
    omega
  have endpoint : ((frameNumber >>> 7) &&& 0x0f).toUInt8.toNat = frameNumber.toNat / 128 % 16 := by
    rw [UInt16.toNat_toUInt8, UInt16.toNat_and, UInt16.toNat_shiftRight]
    refine (congrArg (· % 256) (Nat.and_two_pow_sub_one_eq_mod _ 4)).trans ?_
    show (frameNumber.toNat >>> 7) % 16 % 256 = _
    rw [Nat.shiftRight_eq_div_pow]
    omega
  have small : (frameNumber &&& 0x7f).toUInt8.toNat < 128 := by omega
  have inside : ((frameNumber >>> 7) &&& 0x0f).toUInt8.toNat < 16 := by omega
  have token := token_toNat small inside
  obtain ⟨value, bits, parsed⟩ :=
    parsePacket_tokenPacket small inside (show pidSof ∈ [pidOut, pidIn, pidSetup, pidSof] by decide)
  refine ⟨value, by omega, ?_⟩
  have same : frameNumber &&& (0x07ff : UInt16) =
      (((frameNumber >>> 7 &&& (0x0f : UInt16)).toUInt8.toUInt16 &&& 0x0f) <<< 7) |||
        ((frameNumber &&& (0x7f : UInt16)).toUInt8.toUInt16 &&& 0x7f) := by
    rw [← UInt16.toNat_inj, token, frame]
    omega
  rw [← parsed]
  unfold sofPacket tokenPacket
  rw [same]

/-- **The frames of a run.** From a fresh engine, through any operations and any resets, with any waits
dropped and any marker failing: each token carries the number of tokens since the last reset, in eleven
bits; no marker comes before the frame it was scheduled for; and the frames of markers that are sent
are at least a millisecond apart, while the next is never more than a millisecond away. -/
theorem frames_spec (fresh : initial.Fresh) (run : Run Step initial trace last) :
    last.engine.nextFrame ≤ last.now + millis 1 ∧
      ∀ before marker after, trace = before ++ .marker marker :: after →
        marker.slot ≤ marker.time ∧
        (∀ other, .marker other ∈ before → other.sent = true → other.slot + millis 1 ≤ marker.slot) ∧
        (marker.bytes ≠ [] → ∃ value : UInt16, value.toNat = sinceReset before % 2048 ∧
          parsePacket marker.bytes = .ok (.token pidSof value)) := by
  have kept := kept_run (kept_fresh fresh) run
  refine ⟨kept.due, fun before marker after split => ?_⟩
  obtain ⟨-, due, apart, numbered⟩ : MarkerLegal before marker := kept.legal before _ after split
  refine ⟨due, apart, fun token => ?_⟩
  obtain ⟨value, number, parsed⟩ := parsePacket_sofPacket (UInt16.ofNat (sinceReset before % 2048))
  rw [numbered.resolve_left token]
  refine ⟨value, number.trans ?_, parsed⟩
  rw [UInt16.toNat_ofNat']
  show sinceReset before % 2048 % 65536 % 2048 = _
  omega

/-- A fresh full-speed engine at time zero. -/
def freshSystem : System where
  engine := { speed := .full, frameNumber := 0, nextFrame := 1000, busReadyAt := 0 }
  driving := false
  task := .idle
  now := 0

theorem freshSystem_fresh : freshSystem.Fresh := ⟨rfl, le_rfl, le_rfl, rfl, rfl⟩

/-- A marker sent late, for the frame due at 1000. -/
def firstMarker : Marker where
  time := 1300
  slot := 1000
  bytes := sofPacket 0
  sent := true

/-- The next marker, in time; the transmitter fails. -/
def secondMarker : Marker where
  time := 2000
  slot := 2000
  bytes := sofPacket 1
  sent := false

set_option maxRecDepth 8000 in
theorem twoFrames : Run Step freshSystem [.none, .marker firstMarker, .none, .marker secondMarker]
    { freshSystem with
      engine := { freshSystem.engine with frameNumber := 2, nextFrame := 2000 }, now := 2005 } :=
  .cons (.pass 1300 (by decide)) (.cons (.serviceFrame 1300 1310 true le_rfl (by decide) rfl)
    (.cons (.pass 2000 (by decide)) (.single (.serviceFrame 2000 2005 false le_rfl (by decide) rfl))))

/-- The second token carries the number one, though it was not sent. -/
theorem frames_spec_two : ∃ value : UInt16, value.toNat = 1 ∧
    parsePacket (sofPacket 1) = .ok (.token pidSof value) :=
  ((frames_spec freshSystem_fresh twoFrames).2 [.none, .marker firstMarker, .none] secondMarker []
    rfl).2.2 (by decide)

/-- When an effect sends something. -/
def Effect.sends : Effect → Option Nat
  | .marker frame => some frame.time
  | .packets time => some time
  | _ => Option.none

/-- **The bus around a reset.** From a fresh engine, whatever is dropped and whenever: nothing is sent
while a reset drives the bus, nor for ten milliseconds after any reset has released it; a reset that is
not dropped drives the bus for twenty milliseconds at least; and the bus is driven only as long as the
reset's first timer is waited for. -/
theorem bus_quiet_spec (fresh : initial.Fresh) (run : Run Step initial trace last) :
    (last.driving = true ↔ ∃ deadline, last.task = .resetting deadline) ∧
      ∀ before effect after, trace = before ++ effect :: after →
        (∀ time, effect.sends = some time → Quiet before time) ∧
        (∀ time, effect = .release time false → ∃ began, driveStart before = some began ∧
          began + millis usbResetMs ≤ time) := by
  have kept := kept_run (kept_fresh fresh) run
  refine ⟨kept.driving_iff, fun before effect after split => ?_⟩
  have legal := kept.legal before effect after split
  refine ⟨fun time sends => ?_, ?_⟩
  · cases effect with
    | marker marker =>
      cases sends
      exact MarkerLegal.quiet legal
    | packets other =>
      cases sends
      exact legal
    | none | drive other | release other dropped => cases sends
  · rintro time rfl
    obtain ⟨began, driven, full⟩ := legal
    exact ⟨began, driven, full rfl⟩

/-- The first marker after a dropped reset. -/
def afterReset : Marker where
  time := 15000
  slot := 1000
  bytes := sofPacket 0
  sent := true

set_option maxRecDepth 8000 in
theorem droppedReset : Run Step freshSystem
    [.drive 3, .none, .release 5000 true, .none, .marker afterReset]
    { freshSystem with
      engine := { freshSystem.engine with frameNumber := 1, nextFrame := 16010, busReadyAt := 15000 }
      now := 15010 } :=
  .cons (.resetBegin .full 3 (by decide) rfl) (.cons (.pass 5000 (by decide))
    (.cons (.dropReset rfl rfl) (.cons (.pass 15000 (by decide))
      (.single (.serviceFrame 15000 15010 true le_rfl (by decide) rfl)))))

/-- The marker comes ten milliseconds after the reset was dropped. -/
theorem bus_quiet_spec_dropped :
    Quiet [.drive 3, .none, .release 5000 true, .none] afterReset.time :=
  ((bus_quiet_spec freshSystem_fresh droppedReset).2 _ (.marker afterReset) [] rfl).1 _ rfl

end Runs

end PioUsbHost.Frame
