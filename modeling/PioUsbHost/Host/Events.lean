/-
**The pending events and their consumer.**

The host keeps at most two events: the last detach or overcurrent, and a connection after it. What has
been delivered so far, followed by what is pending, is the history that the consumer sees.

* `delivered_events_agree`: the port is always as the last event of the history says, and every
  overcurrent is in it, merged only with one that is still pending.
* `no_lost_wakeup`: a parked consumer without a wake-up has nothing to take, or the party that recorded
  the event has yet to signal it.
-/

import PioUsbHost.Host.Parties

namespace PioUsbHost.Host

open PioUsbHost.Lib

/-! ### The pending events in order -/

namespace PendingEvents

/-- The pending events, the next one first. -/
def toList (events : PendingEvents) : List DeviceEvent :=
  events.destructive.toList ++ (events.connected.map DeviceEvent.connected).toList

/-- **`take` delivers them in this order.** -/
theorem toList_take (events : PendingEvents) :
    events.toList = events.take.1.toList ++ events.take.2.toList := by
  obtain ⟨destructive, connected⟩ := events
  cases destructive <;> cases connected <;> rfl

theorem toList_eq_nil_iff {events : PendingEvents} : events.toList = [] ↔ events.take.1 = .none := by
  obtain ⟨destructive, connected⟩ := events
  cases destructive <;> cases connected <;> simp [toList, take]

theorem overcurrent_mem_toList {events : PendingEvents} :
    .overcurrent ∈ events.toList ↔ events.destructive = some .overcurrent := by
  obtain ⟨destructive, connected⟩ := events
  cases destructive <;> cases connected <;> simp [toList, eq_comm]

/-- A report leaves one pending event, which is the reported one or an overcurrent. -/
theorem toList_report (events : PendingEvents) {event : DeviceEvent}
    (reported : event = .disconnected ∨ event = .overcurrent) :
    ∃ kept, (events.push event).toList = [kept] ∧
      (kept = .overcurrent ↔ event = .overcurrent ∨ events.destructive = some .overcurrent) ∧
        (kept = .disconnected ∨ kept = .overcurrent) := by
  obtain ⟨destructive, connected⟩ := events
  rcases reported with rfl | rfl
  · by_cases pending : destructive = some .overcurrent
    · subst pending
      exact ⟨.overcurrent, rfl, iff_of_true rfl (.inr rfl), .inr rfl⟩
    · refine ⟨.disconnected, ?_, iff_of_false nofun ?_, .inl rfl⟩
      · simp [toList, push, pending]
      · rintro (impossible | same)
        · cases impossible
        · exact pending same
  · exact ⟨.overcurrent, rfl, iff_of_true rfl (.inl rfl), .inr rfl⟩

end PendingEvents

/-! ### The history -/

/-- The event a label delivers. -/
def Effect.delivered : Effect → Option DeviceEvent
  | taken event => some event
  | _ => none

/-- The events delivered along a trace, and those still pending after it. -/
def history (trace : List Effect) (state : PioHostState) : List DeviceEvent :=
  trace.filterMap Effect.delivered ++ state.shared.pendingEvents.toList

variable {first second last : PioHostState} {effect : Effect}

theorem PipeMove.notReported {index : Nat} {port : PortState} {engine owner : Option EngineOwner}
    {slot next : PipeSlot} {event : DeviceEvent}
    (move : PipeMove index port engine slot (.reported event) next owner) : False := by
  cases move

theorem PipeMove.notTaken {index : Nat} {port : PortState} {engine owner : Option EngineOwner}
    {slot next : PipeSlot} {event : DeviceEvent}
    (move : PipeMove index port engine slot (.taken event) next owner) : False := by
  cases move

/-- A reset reports nothing but a disconnect. -/
theorem ResetMove.of_reported {index : Nat} {port : PortState} {engine owner : Option EngineOwner}
    {kind : ResetKind} {phase after : ResetPhase} {signals : Bool} {event : DeviceEvent}
    (move : ResetMove index port kind engine phase (.reported event) after owner signals) :
    event = .disconnected := by
  cases move
  rfl

theorem ResetMove.notTaken {index : Nat} {port : PortState} {engine owner : Option EngineOwner}
    {kind : ResetKind} {phase after : ResetPhase} {signals : Bool} {event : DeviceEvent}
    (move : ResetMove index port kind engine phase (.taken event) after owner signals) : False := by
  cases move

/-- Only detaches and overcurrents are reported. -/
theorem Step.of_reported {event : DeviceEvent} (step : Step first (.reported event) second) :
    event = .disconnected ∨ event = .overcurrent := by
  cases step with
  | pipe _ _ move => exact move.notReported.elim
  | reset _ _ move => exact .inl move.of_reported
  | reportDisconnected | reportDisconnectedIfNotResetting => exact .inl rfl
  | reportOvercurrent => exact .inr rfl

/-- What is taken was the next pending event. -/
theorem Step.of_taken {event : DeviceEvent} (step : Step first (.taken event) second) :
    first.shared.pendingEvents.take.1 = some event := by
  cases step with
  | pipe _ _ move => exact move.notTaken.elim
  | reset _ _ move => exact move.notTaken.elim
  | take _ pending => exact pending

variable {trace : List Effect}

theorem filterMap_snoc (trace : List Effect) (effect : Effect) :
    (trace ++ [effect]).filterMap Effect.delivered =
      trace.filterMap Effect.delivered ++ effect.delivered.toList := by
  rw [List.filterMap_append]
  cases effect <;> rfl

/-- A publication appends its connection, in place of an older one still pending. -/
theorem Step.history_published {reset : Nat} {speed : BusSpeed}
    (step : Step first (.published reset speed) second) (trace : List Effect) :
    history (trace ++ [.published reset speed]) second =
      trace.filterMap Effect.delivered ++ first.shared.pendingEvents.destructive.toList ++
        [.connected speed] := by
  rw [history, filterMap_snoc, step.shared, List.append_assoc, List.append_assoc]
  rfl

/-- A report leaves one pending event. -/
theorem Step.history_reported {event : DeviceEvent} (step : Step first (.reported event) second)
    (trace : List Effect) : ∃ kept,
      history (trace ++ [.reported event]) second =
        trace.filterMap Effect.delivered ++ [kept] ∧
      (kept = .overcurrent ↔ event = .overcurrent ∨
        first.shared.pendingEvents.destructive = some .overcurrent) ∧
      (kept = .disconnected ∨ kept = .overcurrent) := by
  obtain ⟨kept, single, isOvercurrent, kind⟩ :=
    first.shared.pendingEvents.toList_report step.of_reported
  refine ⟨kept, ?_, isOvercurrent, kind⟩
  rw [history, filterMap_snoc, step.shared, ← single]
  exact congrArg (· ++ _) (List.append_nil _)

/-- Every other step leaves the history as it is. -/
theorem Step.history_unchanged (step : Step first effect second)
    (other : effect.isConnection = false) (trace : List Effect) :
    history (trace ++ [effect]) second = history trace first := by
  rw [history, history, filterMap_snoc, step.shared, List.append_assoc]
  refine congrArg _ ?_
  cases effect with
  | taken event =>
    rw [first.shared.pendingEvents.toList_take, step.of_taken]
    rfl
  | published => cases other
  | reported => cases other
  | _ => rfl

/-! ### The port -/

/-- The port's connection flag and speed after an event. -/
def describes : Option DeviceEvent → Bool × Option BusSpeed
  | some (.connected speed) => (true, some speed)
  | _ => (false, none)

theorem describes_connected {event : Option DeviceEvent} {speed : BusSpeed} :
    describes event = (true, some speed) ↔ event = some (.connected speed) := by
  rcases event with _ | (other | _ | _)
  · exact iff_of_false nofun nofun
  · refine ⟨fun same => ?_, fun same => ?_⟩
    · cases same
      rfl
    · cases same
      rfl
  · exact iff_of_false nofun nofun
  · exact iff_of_false nofun nofun

theorem describes_disconnected {event : Option DeviceEvent} :
    (describes event).1 = false ↔
      event = none ∨ event = some .disconnected ∨ event = some .overcurrent := by
  rcases event with _ | (other | _ | _) <;> simp [describes]

/-- The port is as the last event of the history says. -/
def Agrees (trace : List Effect) (state : PioHostState) : Prop :=
  (state.shared.port.connected, state.shared.port.speed) = describes (history trace state).getLast?

/-- **One step** keeps port and history in agreement. -/
theorem Step.agrees (step : Step first effect second) (agrees : Agrees trace first) :
    Agrees (trace ++ [effect]) second := by
  unfold Agrees
  cases kind : effect.isConnection with
  | false =>
    rw [step.history_unchanged kind, ← agrees, step.shared]
    cases effect <;> first | rfl | cases kind
  | true =>
    cases effect with
    | published reset speed =>
      rw [step.history_published, List.getLast?_concat, step.shared]
      rfl
    | reported event =>
      obtain ⟨kept, appended, -, rfl | rfl⟩ := step.history_reported trace
      · rw [appended, List.getLast?_concat, step.shared]
        rfl
      · rw [appended, List.getLast?_concat, step.shared]
        rfl
    | _ => cases kind

theorem Agrees.run {early late : List Effect} (agrees : Agrees early first)
    (run : Run Step first late last) : Agrees (early ++ late) last := by
  induction run generalizing early with
  | nil =>
    rw [List.append_nil]
    exact agrees
  | cons step _ ih =>
    rw [List.append_cons]
    exact ih (step.agrees agrees)

/-! ### Overcurrents -/

/-- The overcurrents of a history. -/
def overcurrents (events : List DeviceEvent) : Nat := events.count .overcurrent

theorem overcurrents_append (early late : List DeviceEvent) :
    overcurrents (early ++ late) = overcurrents early + overcurrents late :=
  List.count_append

theorem overcurrents_single (event : DeviceEvent) :
    overcurrents [event] = if event = .overcurrent then 1 else 0 := by
  cases event <;> rfl

theorem overcurrents_destructive (events : PendingEvents) :
    overcurrents events.destructive.toList =
      if events.destructive = some .overcurrent then 1 else 0 := by
  obtain ⟨destructive, connected⟩ := events
  rcases destructive with _ | (_ | _ | _) <;> rfl

theorem overcurrents_toList (events : PendingEvents) :
    overcurrents events.toList = if events.destructive = some .overcurrent then 1 else 0 := by
  rw [PendingEvents.toList, overcurrents_append, overcurrents_destructive]
  cases events.connected <;> rfl

/-- **One step** adds a reported overcurrent to the history, unless one is still pending, and takes none
away. -/
theorem Step.overcurrents_history (step : Step first effect second) (trace : List Effect) :
    overcurrents (history (trace ++ [effect]) second) =
      overcurrents (history trace first) +
        if effect = .reported .overcurrent ∧
          .overcurrent ∉ first.shared.pendingEvents.toList then 1 else 0 := by
  cases kind : effect.isConnection with
  | false =>
    rw [step.history_unchanged kind, if_neg fun both => ?_, Nat.add_zero]
    rw [both.1] at kind
    cases kind
  | true =>
    cases effect with
    | published reset speed =>
      rw [step.history_published, history, overcurrents_append, overcurrents_append,
        overcurrents_append, overcurrents_toList, overcurrents_destructive, overcurrents_single]
      simp only [reduceCtorEq, false_and, if_false]
    | reported event =>
      obtain ⟨kept, appended, isOvercurrent, kinds⟩ := step.history_reported trace
      rw [appended, history, overcurrents_append, overcurrents_append, overcurrents_toList,
        overcurrents_single, Nat.add_assoc]
      refine congrArg _ ?_
      simp only [PendingEvents.overcurrent_mem_toList, Effect.reported.injEq, isOvercurrent]
      by_cases pending : first.shared.pendingEvents.destructive = some .overcurrent
      · simp only [pending, or_true, not_true, and_false, if_true, if_false]
      · simp only [pending, or_false, not_false_iff, and_true, if_false, Nat.zero_add]
    | _ => cases kind

/-- A pending overcurrent stays pending until it is taken. -/
theorem overcurrent_run {trace : List Effect} (run : Run Step first trace last)
    (pending : first.shared.pendingEvents.destructive = some .overcurrent)
    (untaken : .taken .overcurrent ∉ trace) :
    last.shared.pendingEvents.destructive = some .overcurrent := by
  refine Run.preserves_unless
    (fun state => state.shared.pendingEvents.destructive = some .overcurrent)
    (fun label => label = .taken .overcurrent) ?_ run ?_ pending
  · intro before label after step other was
    rw [step.shared]
    cases label with
    | taken event =>
      have next := step.of_taken
      rw [PendingEvents.take, was] at next
      cases next
      exact absurd rfl other
    | reported event =>
      rcases step.of_reported with rfl | rfl
      · exact (if_neg (not_not_intro was)).trans was
      · rfl
    | _ => exact was
  · rintro label member rfl
    exact untaken member

/-- **Delivered events agree with the port.** In every state of every run: the port is connected at a
speed exactly if the history ends with that connection, and disconnected exactly if it is empty or ends
with a disconnect or an overcurrent; every reported overcurrent has been taken or is pending; and no
step takes an overcurrent out of the history, or fails to add a reported one unless one is pending. -/
theorem delivered_events_agree {trace : List Effect} (run : Run Step .initial trace last) :
    (∀ speed, last.shared.port.connected = true ∧ last.shared.port.speed = some speed ↔
      (history trace last).getLast? = some (.connected speed)) ∧
    (last.shared.port.connected = false ↔ history trace last = [] ∨
      (history trace last).getLast? = some .disconnected ∨
        (history trace last).getLast? = some .overcurrent) ∧
    (∀ early late, trace = early ++ .reported .overcurrent :: late →
      .taken .overcurrent ∈ late ∨ .overcurrent ∈ last.shared.pendingEvents.toList) ∧
    ∀ early effect late before after, trace = early ++ effect :: late →
      Run Step .initial early before → Step before effect after → Run Step after late last →
        overcurrents (history (early ++ [effect]) after) =
          overcurrents (history early before) +
            if effect = .reported .overcurrent ∧
              .overcurrent ∉ before.shared.pendingEvents.toList then 1 else 0 := by
  have initially : Agrees [] .initial := rfl
  have agrees : Agrees trace last := initially.run run
  unfold Agrees at agrees
  refine ⟨fun speed => ?_, ?_, ?_, ?_⟩
  · rw [← describes_connected, ← agrees, Prod.mk.injEq]
  · rw [← List.getLast?_eq_none_iff, ← describes_disconnected, ← agrees]
  · rintro early late rfl
    obtain ⟨before, after, -, step, rest⟩ := run.around
    by_cases taken : .taken .overcurrent ∈ late
    · exact .inl taken
    · refine .inr (PendingEvents.overcurrent_mem_toList.mpr (overcurrent_run rest ?_ taken))
      rw [step.shared]
      rfl
  · exact fun early effect late before after _ _ step _ => step.overcurrents_history early

/-- An overcurrent stays pending behind a later disconnect. -/
theorem delivered_events_agree_overcurrent :
    ∃ last, Run Step .initial [.reported .overcurrent, .reported .disconnected] last ∧
      last.shared.port.connected = false ∧ .overcurrent ∈ last.shared.pendingEvents.toList := by
  have run : Run Step .initial [.reported .overcurrent, .reported .disconnected] _ :=
    .cons .reportOvercurrent (.single .reportDisconnected)
  obtain ⟨-, disconnected, delivered, -⟩ := delivered_events_agree run
  exact ⟨_, run, disconnected.mpr (.inr (.inr rfl)),
    (delivered [] [.reported .disconnected] rfl).resolve_left (by decide)⟩

/-! ### Wake-ups -/

/-- The reset has recorded an event and has yet to signal it. -/
def ResetPhase.Recorded : ResetPhase → Prop
  | published connected => connected = true
  | inactive _ signal => signal = true
  | reported => True
  | signalling => True
  | _ => False

/-- Some reporter has recorded its event and has yet to signal it. -/
def PioHostState.Unsignalled (state : PioHostState) : Prop :=
  0 < state.reporters ∨ ∃ index task, state.resets index = some task ∧ task.phase.Recorded

/-- While the consumer waits, each pending event has a wake-up, or a reporter yet to signal it. -/
def PioHostState.Awake (state : PioHostState) : Prop :=
  state.consumer = .waiting → state.shared.pendingEvents.toList ≠ [] →
    state.eventWake = true ∨ state.Unsignalled

/-- A reset that has recorded an event keeps it recorded until it signals. -/
theorem ResetMove.recorded {index : Nat} {port : PortState} {engine owner : Option EngineOwner}
    {kind : ResetKind} {phase after : ResetPhase} {signals : Bool}
    (move : ResetMove index port kind engine phase effect after owner signals)
    (recorded : phase.Recorded ∨ effect.isConnection = true) : after.Recorded ∨ signals = true := by
  cases move with
  | signalReport | signal => exact .inr rfl
  | publish => exact .inl rfl
  | report => exact .inl trivial
  | endPublished =>
    rcases recorded with recorded | impossible
    · exact .inl recorded
    · cases impossible
  | release =>
    rcases recorded with rfl | impossible
    · exact .inl trivial
    · cases impossible
  | _ => rcases recorded with impossible | impossible <;> cases impossible

theorem unsignalled_setReset {state : PioHostState} {index : Nat} {task : ResetTask}
    {owner : Option EngineOwner} {signals : Bool} (recorded : task.phase.Recorded ∨ signals = true) :
    ((((state.after effect).setReset index task).setEngine owner).signal signals).Unsignalled ∨
      ((((state.after effect).setReset index task).setEngine owner).signal signals).eventWake =
        true := by
  rcases recorded with recorded | rfl
  · exact .inl (.inr ⟨index, task, Function.update_self _ _ _, recorded⟩)
  · exact .inr (Bool.or_true _)

/-- **One step** leaves some party unsignalled, or sets the wake-up. -/
theorem Step.unsignalled (step : Step first effect second)
    (unsignalled : first.Unsignalled ∨ effect.isConnection = true) :
    second.Unsignalled ∨ second.eventWake = true := by
  cases step with
  | reportDisconnected | reportDisconnectedIfNotResetting | reportOvercurrent =>
    exact .inl (.inl (Nat.succ_pos _))
  | signalReporter => exact .inr (Bool.or_true _)
  | startController index fresh | startConnect index speed fresh =>
    rcases unsignalled with (reporting | ⟨other, task, there, recorded⟩) | impossible
    · exact .inl (.inl reporting)
    · exact .inl (.inr ⟨other, task, update_of_fresh fresh there, recorded⟩)
    · cases impossible
  | pipe index current move =>
    rcases unsignalled with unsignalled | impossible
    · exact .inl unsignalled
    · cases move.label.2.symm.trans impossible
  | reset index current move =>
    rcases unsignalled with (reporting | ⟨other, task, there, recorded⟩) | event
    · exact .inl (.inl reporting)
    · by_cases same : other = index
      · subst same
        cases current.symm.trans there
        exact unsignalled_setReset (move.recorded (.inl recorded))
      · exact .inl (.inr ⟨other, task, (Function.update_of_ne same _ _).trans there, recorded⟩)
    · exact unsignalled_setReset (move.recorded (.inr event))
  | _ =>
    rcases unsignalled with unsignalled | impossible
    · exact .inl unsignalled
    · cases impossible

theorem Step.pending_unchanged (step : Step first effect second)
    (other : effect.isConnection = false) (untaken : ∀ event, effect ≠ .taken event) :
    second.shared.pendingEvents = first.shared.pendingEvents := by
  rw [step.shared]
  cases effect with
  | taken event => exact absurd rfl (untaken event)
  | published => cases other
  | reported => cases other
  | _ => rfl

/-- **One step** keeps the consumer awake. -/
theorem Step.awake (step : Step first effect second) (awake : first.Awake) : second.Awake := by
  intro parked pending
  cases kind : effect.isConnection with
  | true => exact (step.unsignalled (.inr kind)).symm
  | false =>
    -- a step that keeps the consumer, the pending events and the wake-up keeps their relation
    have keeps : first.consumer = .waiting → (∀ event, effect ≠ .taken event) →
        (first.eventWake = true → second.eventWake = true) →
          second.eventWake = true ∨ second.Unsignalled := by
      intro waiting untaken wake
      rw [step.pending_unchanged kind untaken] at pending
      rcases awake waiting pending with signalled | unsignalled
      · exact .inl (wake signalled)
      · exact (step.unsignalled (.inl unsignalled)).symm
    cases step with
    | take taking => exact absurd (taking.symm.trans parked) nofun
    | takeNone taking nothing => exact absurd (PendingEvents.toList_eq_nil_iff.mpr nothing) pending
    | wake | dropWait => cases parked
    | pipe _ _ move =>
      exact keeps parked (fun event taken => by subst taken; exact move.notTaken) id
    | reset _ _ move =>
      refine keeps parked (fun event taken => by subst taken; exact move.notTaken) fun signalled => ?_
      exact Bool.or_eq_true_iff.mpr (.inl signalled)
    | signalReporter => exact .inl (Bool.or_true _)
    | _ => exact keeps parked (fun _ => nofun) id

/-- **No lost wake-up.** In every state of every run in which the consumer waits without a wake-up, no
event is pending or some reporter has recorded one and has yet to signal it; so if all reporters are
idle, a consumer that waits while an event is pending goes on. -/
theorem no_lost_wakeup {trace : List Effect} (run : Run Step .initial trace last)
    (parked : last.consumer = .waiting) :
    (last.eventWake = false → last.shared.pendingEvents.toList = [] ∨ last.Unsignalled) ∧
      (¬ last.Unsignalled → last.shared.pendingEvents.toList ≠ [] →
        ∃ next, Step last .silent next ∧ next.consumer = .taking) := by
  have awake : last.Awake := Run.preserves PioHostState.Awake Step.awake run nofun
  refine ⟨fun clear => ?_, fun idle pending => ?_⟩
  · by_contra both
    obtain ⟨pending, idle⟩ := not_or.mp both
    rcases awake parked pending with signalled | unsignalled
    · rw [clear] at signalled
      cases signalled
    · exact idle unsignalled
  · exact ⟨_, .wake parked ((awake parked pending).resolve_right idle), rfl⟩

/-- The consumer parks, and an overcurrent is reported and signalled. -/
theorem no_lost_wakeup_overcurrent :
    ∃ last next, Run Step .initial [.silent, .reported .overcurrent, .silent] last ∧
      last.consumer = .waiting ∧ Step last .silent next ∧ next.consumer = .taking := by
  have run : Run Step .initial [.silent, .reported .overcurrent, .silent] _ :=
    .cons (.takeNone rfl rfl) (.cons .reportOvercurrent (.single (.signalReporter rfl)))
  obtain ⟨next, wakes, taking⟩ := (no_lost_wakeup run rfl).2
    (by rintro (impossible | ⟨_, _, impossible, _⟩) <;> cases impossible) nofun
  exact ⟨_, next, run, rfl, wakes, taking⟩

end PioUsbHost.Host
