/-
**The root-port monitor and the host.**

`root_port_monitor` of `main.rs` feeds the attach detector with the line, resets the bus for an
attached full-speed device, and reports what has become of a connected one. It runs beside the other
parties of the host; from its sample to its report nothing suspends it.

* `Sound`: what the monitor knows of the host, kept by every step (`Sound.step`).
* `balance`: a publication is paid for by an attachment.
* `rootPort_spec`: a connected port has a debounced full-speed device on it.
* `stays_disconnected`: what is disconnected is connected again by a new attachment only.
-/

import PioUsbHost.Attach.Detector
import PioUsbHost.Host.Publication
import PioUsbHost.Host.ResetFlag

namespace PioUsbHost.Attach

open PioUsbHost.Host PioUsbHost.Lib PioUsbHost.Lib.Debounce PioUsbHost.Lib.Panic

/-! ### The monitor -/

/-- Where the monitor is: at its tick, or in the call of `reset_and_report_connected`. -/
inductive MonitorPhase where
  | ticking
  | resetting (reset : Nat)
  deriving DecidableEq

/-- The variables of `root_port_monitor`, and where it is. -/
structure Monitor where
  detector : AttachDetector
  connected : Bool
  phase : MonitorPhase

/-- The host and its monitor. -/
structure RootPort where
  host : PioHostState
  monitor : Monitor

namespace RootPort

/-- Before the first tick. -/
def initial (detector : AttachDetector) : RootPort where
  host := .initial
  monitor := { detector, connected := false, phase := .ticking }

end RootPort

/-- `reset_and_report_connected` has returned when its reset has ended; it returns `Ok` behind its
wake-up signal and nowhere else. -/
def Monitor.resume (monitor : Monitor) (before after : PioHostState) : Monitor :=
  match monitor.phase with
  | .ticking => monitor
  | .resetting reset =>
    match (after.resets reset).map ResetTask.phase with
    | some .ended =>
      { monitor with
        connected := (before.resets reset).map ResetTask.phase = some .signalling
        phase := .ticking }
    | _ => monitor

/-- The call of `reset_and_report_connected(Speed::Full)`. -/
def RootPort.connect (port : RootPort) (reset : Nat) : RootPort where
  host := port.host.setReset reset
    { kind := .connect .full port.host.shared.port.connectionGeneration, phase := .engineLock }
  monitor := { port.monitor with phase := .resetting reset }

/-- `if connected && host_state.report_disconnected_if_not_resetting() { connected = false; }`. -/
def RootPort.disconnect (port : RootPort) : RootPort :=
  let report := port.host.shared.reportDisconnectedIfNotResetting
  if port.monitor.connected then
    { host := { port.host with
        shared := report.2
        reporters := if report.1 then port.host.reporters + 1 else port.host.reporters }
      monitor := { port.monitor with connected := port.monitor.connected && !report.1 } }
  else port

/-- The loop body of `root_port_monitor` on a sample, up to where it may be suspended. -/
def RootPort.tick (port : RootPort) (line : LineState) (reset : Nat) : RootPort :=
  let (detector, event) := port.monitor.detector.update line
  let sampled : RootPort := { port with monitor := { port.monitor with detector } }
  match event with
  | some (.attached .full) => sampled.connect reset
  | some (.attached .low) => sampled.disconnect
  | some .detached => sampled.disconnect
  | some .invalid => sampled.disconnect
  | none => sampled

/-! ### Runs -/

/-- What a step of the system is: one of the host, a tick passed over, or a sample of the lines. -/
inductive PortLabel where
  | host (effect : Effect)
  | skipped
  | sampled (line : LineState)

/-- **One step of the monitor or of another party.** Only the monitor calls
`reset_and_report_connected`. -/
inductive PortStep : RootPort → PortLabel → RootPort → Prop where
  | host {port : RootPort} {effect : Effect} {next : PioHostState}
      (step : Step port.host effect next)
      (others : ∀ reset task, port.host.resets reset = none → next.resets reset = some task →
        task.kind = .controller) :
      PortStep port (.host effect) { host := next, monitor := port.monitor.resume port.host next }
  | skip {port : RootPort} (ticking : port.monitor.phase = .ticking)
      (resetting : port.host.shared.resetInProgress = true) : PortStep port .skipped port
  | sample {port : RootPort} (line : LineState) (reset : Nat)
      (ticking : port.monitor.phase = .ticking)
      (quiet : port.host.shared.resetInProgress = false) (fresh : port.host.resets reset = none) :
      PortStep port (.sampled line) (port.tick line reset)

/-- What the detector has been fed with. -/
def samples (trace : List PortLabel) : List LineState :=
  trace.filterMap fun label => match label with
    | .sampled line => some line
    | _ => none

/-- How often a connection is published. -/
def publications (trace : List PortLabel) : Nat :=
  trace.countP fun label => match label with
    | .host (.published _ _) => true
    | _ => false

/-! ### What the monitor knows of the host -/

/-- **The invariant.** Every other call has returned; a connected port has a full-speed device on it, and
the monitor knows of the connection or is about to return from the call that published it. -/
structure Sound (port : RootPort) : Prop where
  others : ∀ reset task, port.host.resets reset = some task → task.kind ≠ .controller →
    port.monitor.phase = .resetting reset ∨ task.phase = .ended
  own : ∀ reset, port.monitor.phase = .resetting reset →
    port.monitor.detector.stable = .jFullSpeed ∧ port.monitor.connected = false ∧
      ∃ phase generation, phase ≠ .ended ∧
        port.host.resets reset = some { kind := .connect .full generation, phase }
  attached : port.monitor.connected = true → port.monitor.detector.stable = .jFullSpeed
  connected : port.host.shared.port.connected = true →
    port.host.shared.port.speed = some .full ∧ port.monitor.detector.stable = .jFullSpeed ∧
      (port.monitor.connected = true ∨ ∃ reset task, port.monitor.phase = .resetting reset ∧
        port.host.resets reset = some task ∧ task.phase.AfterPublication)

theorem Sound.initial (detector : AttachDetector) : Sound (.initial detector) where
  others := nofun
  own := nofun
  attached := nofun
  connected := nofun

section Resume

variable {monitor : Monitor} {before after : PioHostState} {reset : Nat}

theorem Monitor.resume_ticking (ticking : monitor.phase = .ticking) :
    monitor.resume before after = monitor := by
  unfold Monitor.resume
  rw [ticking]

theorem Monitor.resume_waiting {task : ResetTask} (calling : monitor.phase = .resetting reset)
    (there : after.resets reset = some task) (going : task.phase ≠ .ended) :
    monitor.resume before after = monitor := by
  unfold Monitor.resume
  simp only [calling, there, Option.map_some]
  cases phase : task.phase with
  | ended => exact absurd phase going
  | _ => rfl

theorem Monitor.resume_returned {task : ResetTask} (calling : monitor.phase = .resetting reset)
    (there : after.resets reset = some task) (ended : task.phase = .ended) :
    monitor.resume before after =
      { monitor with
        connected := (before.resets reset).map ResetTask.phase = some .signalling
        phase := .ticking } := by
  unfold Monitor.resume
  simp only [calling, there, Option.map_some, ended]

end Resume

/-- A call that has published ends behind its signal. -/
theorem signalling_of_ended {index : Nat} {state : PortState} {kind : ResetKind}
    {engine owner : Option EngineOwner} {phase : ResetPhase} {effect : Effect} {signals : Bool}
    (move : ResetMove index state kind engine phase effect .ended owner signals)
    (past : phase.AfterPublication) : phase = .signalling := by
  generalize last : ResetPhase.ended = after at move
  cases move with
  | signal => rfl
  | @release _ signal =>
    obtain ⟨-, rfl⟩ := past
    cases last
  | skip => cases past
  | dropWaiting => cases past
  | _ => cases last

section HostStep

variable {port : RootPort} {effect : Effect} {next : PioHostState}

/-- The calls after a step were there before, and only the monitor's goes on. -/
theorem Sound.call_before (sound : Sound port) (step : Step port.host effect next)
    (others : ∀ reset task, port.host.resets reset = none → next.resets reset = some task →
      task.kind = .controller) {reset : Nat} {task : ResetTask}
    (there : next.resets reset = some task) (call : task.kind ≠ .controller) :
    port.monitor.phase = .resetting reset ∨ task.phase = .ended := by
  rcases step.task_origin there with ⟨earlier, was, same⟩ | ⟨-, none, -⟩
  · refine (sound.others reset earlier was (same ▸ call)).imp_right fun ended => ?_
    rcases step.task_cases was with ⟨still, -⟩ | ⟨_, _, _, -, move⟩
    · cases still.symm.trans there
      exact ended
    · rw [ended] at move
      exact move.notEnded.elim
  · exact absurd (others reset task none there) call

/-- A connection is published by the monitor's call. -/
theorem Sound.publisher (sound : Sound port) {reset : Nat} {speed : BusSpeed}
    (step : Step port.host (.published reset speed) next) :
    port.monitor.phase = .resetting reset ∧ speed = .full ∧ ∃ generation,
      port.host.resets reset = some { kind := .connect .full generation, phase := .settled (.ok ()) } ∧
      next.resets reset = some { kind := .connect .full generation, phase := .published true } := by
  obtain ⟨⟨kind, phase⟩, after, _, _, was, moved, move⟩ := step.reset_of_label rfl
  obtain ⟨settled, published, connect⟩ := move.of_published
  cases settled
  cases published
  cases connect
  have calling : port.monitor.phase = .resetting reset :=
    (sound.others reset _ was nofun).resolve_right nofun
  obtain ⟨-, -, _, generation, -, call⟩ := sound.own reset calling
  cases was.symm.trans call
  exact ⟨calling, rfl, _, was, moved⟩

/-- **A step of another party**, at the monitor's tick. -/
theorem Sound.host_ticking (sound : Sound port) (step : Step port.host effect next)
    (others : ∀ reset task, port.host.resets reset = none → next.resets reset = some task →
      task.kind = .controller) (ticking : port.monitor.phase = .ticking) :
    Sound { host := next, monitor := port.monitor } where
  others _ _ there call := sound.call_before step others there call
  own _ calling := nomatch ticking.symm.trans calling
  attached := sound.attached
  connected on := by
    rcases step.port_connection with ⟨_, _, rfl, -⟩ | ⟨_, rfl, -, off, -⟩ | ⟨-, same, speed, -⟩
    · exact nomatch ticking.symm.trans (sound.publisher step).1
    · exact nomatch on.symm.trans off
    · obtain ⟨full, stable, known⟩ := sound.connected (same ▸ on)
      refine ⟨speed.trans full, stable, Or.inl (known.resolve_right ?_)⟩
      rintro ⟨_, _, calling, -⟩
      exact nomatch ticking.symm.trans calling

/-- **A step of another party**, or of the call, while the monitor is in its call. -/
theorem Sound.host_resetting (sound : Sound port) (step : Step port.host effect next)
    (others : ∀ reset task, port.host.resets reset = none → next.resets reset = some task →
      task.kind = .controller) {reset : Nat} (calling : port.monitor.phase = .resetting reset) :
    Sound { host := next, monitor := port.monitor.resume port.host next } := by
  obtain ⟨stable, unknown, phase, generation, going, was⟩ := sound.own reset calling
  -- What the step makes of the call.
  obtain ⟨after, there, past, moved⟩ : ∃ after,
      next.resets reset = some { kind := .connect .full generation, phase := after } ∧
      (phase.AfterPublication → after.AfterPublication) ∧
      (after = .ended → phase.AfterPublication → phase = .signalling) := by
    rcases step.task_cases was with ⟨same, -⟩ | ⟨after, _, _, there, move⟩
    · exact ⟨phase, same, id, fun ended => absurd ended going⟩
    · exact ⟨after, there, fun past => move.afterPublication (.inl past), fun ended past =>
        signalling_of_ended (ended ▸ move) past⟩
  have published : next.shared.port.connected = true → next.shared.port.speed = some .full ∧
      (phase.AfterPublication ∨ after = .published true) := by
    intro on
    rcases step.port_connection with ⟨_, speed, rfl, -, driven, -⟩ | ⟨_, rfl, -, off, -⟩ |
      ⟨-, same, speed, -⟩
    · obtain ⟨publishing, rfl, _, -, found⟩ := sound.publisher step
      cases calling.symm.trans publishing
      cases there.symm.trans found
      exact ⟨driven, Or.inr rfl⟩
    · exact nomatch on.symm.trans off
    · obtain ⟨full, -, known⟩ := sound.connected (same ▸ on)
      rcases known with known | ⟨_, task, publishing, found, past⟩
      · exact nomatch known.symm.trans unknown
      · cases calling.symm.trans publishing
        cases was.symm.trans found
        exact ⟨speed.trans full, Or.inl past⟩
  by_cases ended : after = .ended
  · rw [Monitor.resume_returned calling there ended]
    refine ⟨fun other task found call => ?_, nofun, fun _ => stable, fun on => ?_⟩
    · refine Or.inr ((sound.call_before step others found call).elim (fun own => ?_) id)
      cases calling.symm.trans own
      cases there.symm.trans found
      exact ended
    · obtain ⟨full, past | now⟩ := published on
      · refine ⟨full, stable, Or.inl ?_⟩
        rw [was]
        exact decide_eq_true (congrArg some (moved ended past))
      · exact nomatch ended.symm.trans now
  · rw [Monitor.resume_waiting calling there ended]
    refine ⟨fun _ _ found call => sound.call_before step others found call, fun other own => ?_,
      sound.attached, fun on => ?_⟩
    · cases calling.symm.trans own
      exact ⟨stable, unknown, after, generation, ended, there⟩
    · obtain ⟨full, past' | rfl⟩ := published on
      · exact ⟨full, stable, Or.inr ⟨reset, _, calling, there, past past'⟩⟩
      · exact ⟨full, stable, Or.inr ⟨reset, _, calling, there, rfl⟩⟩

end HostStep

/-! ### A sample -/

section Sample

variable {port : RootPort} {line : LineState} {reset : Nat}

/-- With its sample taken, before it acts on it. -/
def RootPort.sampled (port : RootPort) (line : LineState) : RootPort :=
  { port with monitor := { port.monitor with detector := (port.monitor.detector.update line).1 } }

/-- What a sample leads to, by the state that is stable after it. -/
theorem RootPort.tick_cases (port : RootPort) (line : LineState) (reset : Nat) :
    ((port.monitor.detector.update line).1.stable = port.monitor.detector.stable ∧
        (port.monitor.detector.update line).2 = none ∧ port.tick line reset = port.sampled line) ∨
      (port.monitor.detector.stable ≠ .jFullSpeed ∧
        (port.monitor.detector.update line).1.stable = .jFullSpeed ∧
        (port.monitor.detector.update line).2 = some (.attached .full) ∧
        port.tick line reset = (port.sampled line).connect reset) ∨
      ((port.monitor.detector.update line).2 ≠ some (.attached .full) ∧
        port.tick line reset = (port.sampled line).disconnect) := by
  have event := event_update port.monitor.detector line
  unfold RootPort.tick
  by_cases same : (port.monitor.detector.update line).1.stable = port.monitor.detector.stable
  · rw [if_pos same] at event
    refine Or.inl ⟨same, event, ?_⟩
    simp only [event]
    rfl
  · rw [if_neg same] at event
    right
    cases now : (port.monitor.detector.update line).1.stable with
    | jFullSpeed =>
      rw [now] at event same
      refine Or.inl ⟨fun before => same before.symm, rfl, event, ?_⟩
      simp only [event, BusEvent.of]
      rfl
    | se0 | jLowSpeed | se1 =>
      rw [now] at event
      refine Or.inr ⟨event ▸ nofun, ?_⟩
      simp only [event, BusEvent.of]
      rfl

/-- A report at the tick is never suppressed: the sample found no reset in progress. -/
theorem RootPort.disconnect_cases (port : RootPort)
    (quiet : port.host.shared.resetInProgress = false) :
    (port.monitor.connected = false ∧ port.disconnect = port) ∨
      (port.monitor.connected = true ∧ port.disconnect =
        { host := { port.host with
            shared := port.host.shared.report .disconnected, reporters := port.host.reporters + 1 }
          monitor := { port.monitor with connected := false } }) := by
  unfold RootPort.disconnect
  cases known : port.monitor.connected with
  | false => exact Or.inl ⟨rfl, by simp only [Bool.false_eq_true, if_false]⟩
  | true =>
    have report : port.host.shared.reportDisconnectedIfNotResetting =
        (true, port.host.shared.report .disconnected) := by
      unfold SharedState.reportDisconnectedIfNotResetting
      rw [quiet, if_neg Bool.false_ne_true]
    exact Or.inr ⟨rfl, by simp only [report, if_true, Bool.not_true, Bool.and_false]⟩

/-- **A sample keeps the invariant.** -/
theorem Sound.tick (sound : Sound port) (ticking : port.monitor.phase = .ticking)
    (quiet : port.host.shared.resetInProgress = false) (line : LineState) (reset : Nat) :
    Sound (port.tick line reset) := by
  have ended : ∀ other task, port.host.resets other = some task → task.kind ≠ .controller →
      task.phase = .ended := fun other task there call =>
    (sound.others other task there call).resolve_left (by rw [ticking]; exact nofun)
  have known : port.host.shared.port.connected = true → port.monitor.connected = true := fun on =>
    (sound.connected on).2.2.resolve_right fun ⟨_, _, calling, _⟩ =>
      nomatch ticking.symm.trans calling
  rcases port.tick_cases line reset with ⟨same, -, tick⟩ | ⟨before, stable, -, tick⟩ | ⟨-, tick⟩
  · rw [tick]
    refine ⟨fun other task there call => Or.inr (ended other task there call),
      fun _ calling => (nomatch ticking.symm.trans calling), fun on => same.trans (sound.attached on),
      fun on => ⟨(sound.connected on).1, same.trans (sound.connected on).2.1, Or.inl (known on)⟩⟩
  · -- The monitor knows of no connection: the line was not stable at full speed.
    have unknown : port.monitor.connected = false :=
      Bool.not_eq_true _ ▸ fun on => before (sound.attached on)
    rw [tick]
    refine ⟨fun other task there call => ?_, fun other calling => ?_,
      fun on => (nomatch unknown.symm.trans on), fun on => (nomatch unknown.symm.trans (known on))⟩
    · rcases update_cases there with ⟨rfl, -⟩ | ⟨-, was⟩
      · exact Or.inl rfl
      · exact Or.inr (ended other task was call)
    · cases calling
      exact ⟨stable, unknown, .engineLock, _, nofun, Function.update_self _ _ _⟩
  · rw [tick]
    rcases (port.sampled line).disconnect_cases quiet with ⟨unknown, same⟩ | ⟨-, reported⟩
    · rw [same]
      exact ⟨fun other task there call => Or.inr (ended other task there call),
        fun _ calling => (nomatch ticking.symm.trans calling),
        fun on => (nomatch unknown.symm.trans on), fun on => (nomatch unknown.symm.trans (known on))⟩
    · rw [reported]
      exact ⟨fun other task there call => Or.inr (ended other task there call),
        fun _ calling => (nomatch ticking.symm.trans calling), nofun, nofun⟩

end Sample

/-! ### Publications and attachments -/

/-- A call may publish up to here. -/
def mayPublish : ResetPhase → Bool
  | .engineLock => true
  | .locked => true
  | .driving _ => true
  | .marked _ => true
  | .resetting _ => true
  | .settled _ => true
  | _ => false

/-- The publication that the monitor's call may still make. -/
def RootPort.credit (port : RootPort) : Nat :=
  match port.monitor.phase with
  | .ticking => 0
  | .resetting reset =>
    if (port.host.resets reset).any fun task => mayPublish task.phase then 1 else 0

/-- How often the detector returns a full-speed attachment. -/
def attachments (detector : AttachDetector) (lines : List LineState) : Nat :=
  (detector.events lines).count (.attached .full)

theorem mayPublish_before {index : Nat} {state : PortState} {kind : ResetKind}
    {engine owner : Option EngineOwner} {phase after : ResetPhase} {effect : Effect} {signals : Bool}
    (move : ResetMove index state kind engine phase effect after owner signals)
    (may : mayPublish after = true) : mayPublish phase = true := by
  cases move with
  | @release _ signal => cases signal <;> cases may
  | _ => first | rfl | cases may

section Balance

variable {port first second last : RootPort} {label : PortLabel} {trace : List PortLabel}
  {effect : Effect} {next : PioHostState} {reset : Nat} {task : ResetTask}

theorem RootPort.credit_ticking (ticking : port.monitor.phase = .ticking) : port.credit = 0 := by
  unfold RootPort.credit
  rw [ticking]

theorem RootPort.credit_calling (calling : port.monitor.phase = .resetting reset)
    (there : port.host.resets reset = some task) :
    port.credit = if mayPublish task.phase then 1 else 0 := by
  unfold RootPort.credit
  simp only [calling, there, Option.any_some]

theorem RootPort.credit_resume (calling : port.monitor.phase = .resetting reset)
    (there : next.resets reset = some task) :
    RootPort.credit { host := next, monitor := port.monitor.resume port.host next } ≤
      if mayPublish task.phase then 1 else 0 := by
  by_cases ended : task.phase = .ended
  · rw [Monitor.resume_returned calling there ended, RootPort.credit_ticking rfl]
    exact Nat.zero_le _
  · rw [Monitor.resume_waiting calling there ended]
    exact (@RootPort.credit_calling { host := next, monitor := port.monitor } reset task calling
      there).le

theorem publications_other (other : ∀ reset speed, effect ≠ .published reset speed) :
    publications [.host effect] = 0 := by
  cases effect with
  | published reset speed => exact absurd rfl (other reset speed)
  | _ => rfl

/-- A step of another party, or of the call. -/
theorem Sound.host_balance (sound : Sound port) (step : Step port.host effect next) :
    publications [.host effect] +
        RootPort.credit { host := next, monitor := port.monitor.resume port.host next } ≤
      port.credit := by
  cases phase : port.monitor.phase with
  | ticking =>
    rw [Monitor.resume_ticking phase, publications_other]
    · rw [@RootPort.credit_ticking { host := next, monitor := port.monitor } phase]
      exact Nat.zero_le _
    · rintro reset speed rfl
      exact nomatch phase.symm.trans (sound.publisher step).1
  | resetting reset =>
    obtain ⟨-, -, before, generation, -, was⟩ := sound.own reset phase
    rw [RootPort.credit_calling phase was]
    rcases step.task_cases was with ⟨same, other⟩ | ⟨after, _, _, there, move⟩
    · rw [publications_other, Nat.zero_add]
      · exact RootPort.credit_resume phase same
      · rintro publisher speed rfl
        cases phase.symm.trans (sound.publisher step).1
        exact other rfl
    · have credit := RootPort.credit_resume phase there
      by_cases published : ∃ publisher speed, effect = .published publisher speed
      · obtain ⟨publisher, speed, rfl⟩ := published
        obtain ⟨settled, done, -⟩ := move.of_published
        cases settled
        cases done
        exact Nat.add_le_add_left credit 1
      · rw [publications_other fun publisher speed same => published ⟨publisher, speed, same⟩,
          Nat.zero_add]
        refine credit.trans ?_
        by_cases may : mayPublish after = true
        · rw [if_pos may, if_pos (mayPublish_before move may)]
        · rw [if_neg may]
          exact Nat.zero_le _

/-- **A publication is paid for**: by the call that the monitor waits for, and that by an attachment. -/
theorem PortStep.balance (step : PortStep first label second) (sound : Sound first) :
    publications [label] + second.credit ≤
      first.credit + attachments first.monitor.detector (samples [label]) := by
  cases step with
  | host step others => exact sound.host_balance step
  | skip ticking resetting => exact Nat.zero_add _ ▸ Nat.le_add_right _ _
  | sample line reset ticking quiet fresh =>
    rw [show publications [.sampled line] = 0 from rfl, Nat.zero_add]
    rcases first.tick_cases line reset with ⟨-, -, tick⟩ | ⟨-, -, event, tick⟩ | ⟨-, tick⟩
    · rw [tick, @RootPort.credit_ticking (first.sampled line) ticking]
      exact Nat.zero_le _
    · have one : attachments first.monitor.detector (samples [.sampled line]) = 1 := by
        show (first.monitor.detector.events [line]).count _ = 1
        unfold AttachDetector.events AttachDetector.events
        rw [event]
        rfl
      rw [tick, one]
      refine Nat.le_trans ?_ (Nat.le_add_left 1 _)
      unfold RootPort.credit
      split
      · exact Nat.zero_le 1
      · split <;> decide
    · rw [tick]
      rcases (first.sampled line).disconnect_cases quiet with ⟨-, same⟩ | ⟨-, reported⟩
      · rw [same]
        exact (RootPort.credit_ticking ticking).trans_le (Nat.zero_le _)
      · rw [reported]
        exact (RootPort.credit_ticking ticking).trans_le (Nat.zero_le _)

end Balance

/-! ### Runs of the root port -/

section Run

variable {required : UInt16} {detector : AttachDetector} {first second last : RootPort}
  {label : PortLabel} {trace : List PortLabel}

theorem AttachDetector.events_append (detector : AttachDetector) (early late : List LineState) :
    detector.events (early ++ late) = detector.events early ++ (detector.feed early).events late := by
  induction early generalizing detector with
  | nil => rfl
  | cons sample rest ih =>
    show _ ++ AttachDetector.events _ (rest ++ late) = _
    rw [ih, ← List.append_assoc]
    rfl

theorem attachments_append (detector : AttachDetector) (early late : List LineState) :
    attachments detector (early ++ late) =
      attachments detector early + attachments (detector.feed early) late := by
  unfold attachments
  rw [AttachDetector.events_append, List.count_append]

theorem samples_cons (label : PortLabel) (trace : List PortLabel) :
    samples (label :: trace) = samples [label] ++ samples trace :=
  @List.filterMap_append _ _ [label] trace _

theorem publications_cons (label : PortLabel) (trace : List PortLabel) :
    publications (label :: trace) = publications [label] + publications trace :=
  @List.countP_append _ _ [label] trace

/-- The detector is fed with the samples and with nothing else. -/
theorem PortStep.fed (step : PortStep first label second) :
    second.monitor.detector = first.monitor.detector.feed (samples [label]) := by
  cases step with
  | host step others =>
    show (Monitor.resume _ _ _).detector = first.monitor.detector
    unfold Monitor.resume
    split
    · rfl
    · split <;> rfl
  | skip ticking resetting => rfl
  | sample line reset ticking quiet fresh =>
    rcases first.tick_cases line reset with ⟨-, -, tick⟩ | ⟨-, -, -, tick⟩ | ⟨-, tick⟩
    · rw [tick]
      rfl
    · rw [tick]
      rfl
    · rw [tick]
      unfold RootPort.disconnect
      split <;> rfl

/-- **Every step keeps the invariant.** -/
theorem Sound.step (sound : Sound first) (step : PortStep first label second) : Sound second := by
  cases step with
  | host step others =>
    cases phase : first.monitor.phase with
    | ticking =>
      rw [Monitor.resume_ticking phase]
      exact sound.host_ticking step others phase
    | resetting reset => exact sound.host_resetting step others phase
  | skip ticking resetting => exact sound
  | sample line reset ticking quiet fresh => exact sound.tick ticking quiet line reset

/-- **Every run**, by induction on its steps. -/
theorem Sound.run (sound : Sound first) (run : Run PortStep first trace last) :
    Sound last ∧ last.monitor.detector = first.monitor.detector.feed (samples trace) ∧
      publications trace + last.credit ≤
        first.credit + attachments first.monitor.detector (samples trace) := by
  induction run with
  | nil => exact ⟨sound, rfl, Nat.zero_add _ ▸ Nat.le_add_right _ _⟩
  | @cons first second last label trace step rest ih =>
    obtain ⟨final, fed, balance⟩ := ih (sound.step step)
    have paid := step.balance sound
    rw [step.fed] at fed balance
    refine ⟨final, ?_, ?_⟩
    · rw [fed, samples_cons label trace]
      exact List.foldl_append.symm
    · rw [publications_cons label trace, samples_cons label trace, attachments_append]
      omega

/-- **A step of the root port is a run of the host.** -/
theorem PortStep.host_run (step : PortStep first label second) :
    ∃ effects, Run Step first.host effects second.host := by
  cases step with
  | host step others => exact ⟨_, .single step⟩
  | skip ticking resetting => exact ⟨[], .nil _⟩
  | sample line reset ticking quiet fresh =>
    rcases first.tick_cases line reset with ⟨-, -, tick⟩ | ⟨-, -, -, tick⟩ | ⟨-, tick⟩
    · rw [tick]
      exact ⟨[], .nil _⟩
    · rw [tick]
      exact ⟨_, .single (.startConnect reset .full fresh)⟩
    · rw [tick]
      rcases (first.sampled line).disconnect_cases quiet with ⟨-, same⟩ | ⟨-, reported⟩
      · rw [same]
        exact ⟨[], .nil _⟩
      · rw [reported]
        exact ⟨_, .single (.reportDisconnectedIfNotResetting quiet)⟩

theorem host_run (run : Run PortStep first trace last) :
    ∃ effects, Run Step first.host effects last.host := by
  induction run with
  | nil => exact ⟨[], .nil _⟩
  | cons step _ ih =>
    obtain ⟨early, before⟩ := step.host_run
    obtain ⟨late, after⟩ := ih
    exact ⟨early ++ late, before.append after⟩

/-! ### An attachment -/

/-- A reset moves; it starts no call. -/
theorem PortStep.reset {port : RootPort} {task : ResetTask} {phase : ResetPhase} {effect : Effect}
    {engine : Option EngineOwner} {signals : Bool} (index : Nat)
    (current : port.host.resets index = some task)
    (move : ResetMove index port.host.shared.port task.kind port.host.engine task.phase effect phase
      engine signals) :
    let next := (((port.host.after effect).setReset index { task with phase }).setEngine engine).signal
      signals
    PortStep port (.host effect) { host := next, monitor := port.monitor.resume port.host next } := by
  refine .host (.reset index current move) fun other started fresh there => ?_
  rcases update_cases there with ⟨rfl, -⟩ | ⟨-, was⟩
  · exact nomatch fresh.symm.trans current
  · exact nomatch fresh.symm.trans was

/-- A detector that takes one sample for stable. -/
def oneSample : AttachDetector where
  stable := .se0
  candidate := .se0
  candidateSamples := 0
  requiredSamples := 1
  positive := by decide

/-- A full-speed device is attached, and the bus reset for it returns. -/
def resetForAttachment : List PortLabel :=
  [.sampled .jFullSpeed, .host .silent, .host .silent, .host (.resetMarked 0),
    .host (.activityBegan 0), .host .silent]

/-- The device is connected. -/
def connection : List PortLabel :=
  resetForAttachment ++
    [.host (.published 0 .full), .host (.activityEnded 0), .host (.resetEnded 0), .host .silent]

/-- The bus reset has failed. -/
def failedConnection : List PortLabel :=
  resetForAttachment ++ [.host (.activityEnded 0), .host (.resetEnded 0)]

theorem connection_run : ∃ last, Run PortStep (.initial oneSample) connection last ∧
    last.host.shared.port.connected = true :=
  ⟨_, .cons (.sample .jFullSpeed 0 rfl rfl rfl)
      (.cons (.reset 0 rfl .lock)
      (.cons (.reset 0 rfl (.drive rfl))
      (.cons (.reset 0 rfl .mark)
      (.cons (.reset 0 rfl .begin)
      (.cons (.reset 0 rfl (.settle (.ok ())))
      (.cons (.reset 0 rfl (.publish rfl))
      (.cons (.reset 0 rfl .endPublished)
      (.cons (.reset 0 rfl .release)
      (.single (.reset 0 rfl .signal)))))))))), rfl⟩

theorem failedConnection_run : ∃ last, Run PortStep (.initial oneSample) failedConnection last ∧
    last.monitor.phase = .ticking ∧ last.monitor.detector.stable = .jFullSpeed ∧
      last.host.shared.port.connected = false ∧ last.host.shared.resetInProgress = false ∧
        last.host.resets 1 = none :=
  ⟨_, .cons (.sample .jFullSpeed 0 rfl rfl rfl)
      (.cons (.reset 0 rfl .lock)
      (.cons (.reset 0 rfl (.drive rfl))
      (.cons (.reset 0 rfl .mark)
      (.cons (.reset 0 rfl .begin)
      (.cons (.reset 0 rfl (.settle (.error .timeout)))
      (.cons (.reset 0 rfl .endFailed)
      (.single (.reset 0 rfl .release)))))))), rfl, rfl, rfl, rfl, rfl⟩

/-- **The root port.** In every run of the monitor and the other parties of the host, which is a run of
the host: a connected port is a full-speed one, and full speed is the debounced state of the samples, so
it is not connected once the last of them are so many of another state; and a connection is published
at most once for each full-speed attachment. -/
theorem rootPort_spec (created : AttachDetector.new required = .ok detector)
    (run : Run PortStep (.initial detector) trace last) :
    (∃ effects, Run Step .initial effects last.host) ∧
      (last.host.shared.port.connected = true → last.host.shared.port.speed = some .full ∧
        Debounced required.toNat .se0 (samples trace) .jFullSpeed) ∧
      (∀ line, line ≠ .jFullSpeed → EndsInRun required.toNat (samples trace) line →
        last.host.shared.port.connected = false) ∧
      publications trace ≤ attachments detector (samples trace) := by
  obtain ⟨sound, fed, balance⟩ := (Sound.initial detector).run run
  have tracks := tracks_feed created (samples trace)
  have stable : last.host.shared.port.connected = true → last.host.shared.port.speed = some .full ∧
      Debounced required.toNat .se0 (samples trace) .jFullSpeed := by
    intro on
    obtain ⟨full, attached, -⟩ := sound.connected on
    have debounced := tracks.stable
    rw [show detector.feed (samples trace) = last.monitor.detector from fed.symm,
      attached] at debounced
    exact ⟨full, debounced⟩
  refine ⟨host_run run, stable, fun line other gone => ?_, ?_⟩
  · refine Bool.not_eq_true _ ▸ fun on => other ?_
    have positive := UInt16.lt_iff_toNat_lt.mp (tracks_new created).1
    exact (debounced_of_run gone).unique positive (stable on).2
  · have none : (RootPort.initial detector).credit = 0 := RootPort.credit_ticking rfl
    rw [none, Nat.zero_add] at balance
    exact (Nat.le_add_right _ _).trans balance

/-- A device that is attached and connected. -/
theorem rootPort_spec_connection : ∃ last, Run PortStep (.initial oneSample) connection last ∧
    last.host.shared.port.speed = some .full ∧
      Debounced 1 .se0 (samples connection) .jFullSpeed ∧
        publications connection ≤ attachments oneSample (samples connection) := by
  obtain ⟨last, run, connected⟩ := connection_run
  have created : AttachDetector.new 1 = .ok oneSample := dif_pos oneSample.positive
  obtain ⟨-, stable, -, paid⟩ := rootPort_spec created run
  exact ⟨last, run, (stable connected).1, (stable connected).2, paid⟩

/-- Without a publication the port stays as it is, or is disconnected. -/
theorem PortStep.off (step : PortStep first label second)
    (other : ∀ reset speed, label ≠ .host (.published reset speed))
    (off : first.host.shared.port.connected = false) :
    second.host.shared.port.connected = false := by
  cases step with
  | host step others =>
    rcases step.port_connection with ⟨reset, speed, rfl, -⟩ | ⟨_, -, -, cleared, -⟩ | ⟨-, same, -⟩
    · exact absurd rfl (other reset speed)
    · exact cleared
    · exact same.trans off
  | skip ticking resetting => exact off
  | sample line reset ticking quiet fresh =>
    rcases first.tick_cases line reset with ⟨-, -, tick⟩ | ⟨-, -, -, tick⟩ | ⟨-, tick⟩
    · rw [tick]
      exact off
    · rw [tick]
      exact off
    · rw [tick]
      rcases (first.sampled line).disconnect_cases quiet with ⟨-, same⟩ | ⟨-, reported⟩
      · rw [same]
        exact off
      · rw [reported]
        rfl

/-- **A port that is not connected waits for an attachment.** Whatever has disconnected it, a failed
reset or a controller's report, it stays disconnected until the detector returns a full-speed attachment
again, also while the device is still there. -/
theorem stays_disconnected {early late : List PortLabel} {middle : RootPort}
    (run : Run PortStep (.initial detector) early middle) (ticking : middle.monitor.phase = .ticking)
    (off : middle.host.shared.port.connected = false) (more : Run PortStep middle late last)
    (steady : .attached .full ∉ middle.monitor.detector.events (samples late)) :
    last.host.shared.port.connected = false := by
  obtain ⟨sound, -, -⟩ := (Sound.initial detector).run run
  obtain ⟨-, -, balance⟩ := sound.run more
  have none : attachments middle.monitor.detector (samples late) = 0 := List.count_eq_zero.mpr steady
  rw [RootPort.credit_ticking ticking, none] at balance
  have unpublished : publications late = 0 := by omega
  refine Run.preserves_unless (fun port => port.host.shared.port.connected = false)
    (fun label => ∃ reset speed, label = .host (.published reset speed)) ?_ more ?_ off
  · intro before label after step other was
    exact step.off (fun reset speed same => other ⟨reset, speed, same⟩) was
  · rintro _ among ⟨reset, speed, rfl⟩
    exact List.countP_eq_zero.mp unpublished _ among rfl

/-- A device whose reset has failed stays there, and is not connected. -/
theorem stays_disconnected_failed : ∃ middle last,
    Run PortStep (.initial oneSample) failedConnection middle ∧
      Run PortStep middle [.sampled .jFullSpeed] last ∧ last.host.shared.port.connected = false := by
  obtain ⟨middle, run, ticking, stable, off, quiet, fresh⟩ := failedConnection_run
  have more : Run PortStep middle [.sampled .jFullSpeed] (middle.tick .jFullSpeed 1) :=
    .single (.sample .jFullSpeed 1 ticking quiet fresh)
  refine ⟨middle, _, run, more, stays_disconnected run ticking off more ?_⟩
  show _ ∉ (middle.monitor.detector.update .jFullSpeed).2.toList ++ []
  unfold AttachDetector.update
  rw [if_pos stable.symm]
  exact List.not_mem_nil

end Run

end PioUsbHost.Attach
