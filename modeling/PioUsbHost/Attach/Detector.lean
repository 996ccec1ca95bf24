/-
**The attach detector is an exact debouncer.**

`AttachDetector` of `lib.rs`, sample by sample. `Tracks` is what the detector knows of the samples it
has been fed: its stable state is their debounced state, and its counter is the length of the run
they end in, as long as that run is not one of the stable state. From one sample (`Tracks.update`) it
follows for every history (`tracks_feed`).

* `attachDetector_debounces`: stable state and events, over every history of samples.
-/

import PioUsbHost.Lib.Debounce
import PioUsbHost.Lib.Panic

namespace PioUsbHost.Attach

open PioUsbHost.Lib.Debounce
open PioUsbHost.Lib.Panic

/-! ### The detector -/

/-- USB bus state sampled from D+ and D-. -/
inductive LineState where
  | se0
  | jFullSpeed
  | jLowSpeed
  | se1
  deriving DecidableEq, Repr

/-- USB speed inferred from the device pull-up resistor. -/
inductive DeviceSpeed where
  | full
  | low
  deriving DecidableEq, Repr

/-- A debounced change on the host bus. -/
inductive BusEvent where
  | attached (speed : DeviceSpeed)
  | detached
  | invalid
  deriving DecidableEq, Repr

/-- The detector. Its constructor asserts that `requiredSamples` is positive. -/
structure AttachDetector where
  stable : LineState
  candidate : LineState
  candidateSamples : UInt16
  requiredSamples : UInt16
  positive : 0 < requiredSamples

/-- `count.saturating_add(1)`. -/
def saturatingIncrement (count : UInt16) : UInt16 :=
  if count.toNat + 1 < UInt16.size then count + 1 else 0xffff

/-- The event for a state that has become stable. -/
def BusEvent.of : LineState → BusEvent
  | .se0 => .detached
  | .jFullSpeed => .attached .full
  | .jLowSpeed => .attached .low
  | .se1 => .invalid

namespace AttachDetector

/-- `AttachDetector::new`. -/
def new (requiredSamples : UInt16) : Checked Empty AttachDetector :=
  if positive : 0 < requiredSamples then
    .ok
      { stable := .se0
        candidate := .se0
        candidateSamples := 0
        requiredSamples
        positive }
  else .error .panic

/-- `AttachDetector::stable_state`. -/
def stableState (detector : AttachDetector) : LineState := detector.stable

/-- The candidate and its counter after a sample that differs from the stable state. -/
def count (detector : AttachDetector) (sample : LineState) : AttachDetector :=
  if sample ≠ detector.candidate then
    { detector with candidate := sample, candidateSamples := 1 }
  else
    { detector with candidateSamples := saturatingIncrement detector.candidateSamples }

/-- `AttachDetector::update`. -/
def update (detector : AttachDetector) (sample : LineState) : AttachDetector × Option BusEvent :=
  if sample = detector.stable then
    ({ detector with candidate := sample, candidateSamples := 0 }, none)
  else
    let counted := detector.count sample
    if counted.candidateSamples < counted.requiredSamples then (counted, none)
    else
      ({ counted with stable := counted.candidate, candidateSamples := 0 },
        some (BusEvent.of counted.candidate))

/-- The detector after a history of samples. -/
def feed (detector : AttachDetector) (samples : List LineState) : AttachDetector :=
  samples.foldl (fun current sample => (current.update sample).1) detector

/-- The events it returns on the way. -/
def events (detector : AttachDetector) : List LineState → List BusEvent
  | [] => []
  | sample :: rest => (detector.update sample).2.toList ++ (detector.update sample).1.events rest

theorem feed_concat (detector : AttachDetector) (samples : List LineState) (sample : LineState) :
    detector.feed (samples ++ [sample]) = ((detector.feed samples).update sample).1 := by
  unfold feed
  rw [List.foldl_append]
  rfl

theorem count_candidate (detector : AttachDetector) (sample : LineState) :
    (detector.count sample).candidate = sample := by
  unfold count
  split
  · rfl
  · rename_i same
    exact (not_not.mp same).symm

theorem count_stable (detector : AttachDetector) (sample : LineState) :
    (detector.count sample).stable = detector.stable := by
  unfold count
  split <;> rfl

theorem count_requiredSamples (detector : AttachDetector) (sample : LineState) :
    (detector.count sample).requiredSamples = detector.requiredSamples := by
  unfold count
  split <;> rfl

/-- What an update does, by the sample and the counter it leads to. -/
theorem update_cases (detector : AttachDetector) (sample : LineState) :
    (sample = detector.stable ∧
        detector.update sample =
          ({ detector with candidate := sample, candidateSamples := 0 }, none)) ∨
      (sample ≠ detector.stable ∧
        (detector.count sample).candidateSamples < detector.requiredSamples ∧
        detector.update sample = (detector.count sample, none)) ∨
      (sample ≠ detector.stable ∧
        ¬ (detector.count sample).candidateSamples < detector.requiredSamples ∧
        detector.update sample =
          ({ detector.count sample with stable := sample, candidateSamples := 0 },
            some (BusEvent.of sample))) := by
  unfold update
  by_cases same : sample = detector.stable
  · exact Or.inl ⟨same, if_pos same⟩
  · rw [if_neg same]
    simp only [count_candidate, count_requiredSamples]
    by_cases short : (detector.count sample).candidateSamples < detector.requiredSamples
    · exact Or.inr (Or.inl ⟨same, short, if_pos short⟩)
    · exact Or.inr (Or.inr ⟨same, short, if_neg short⟩)

end AttachDetector

/-! ### What the detector knows of its samples -/

/-- The detector after a history of samples. -/
structure Tracks (required : UInt16) (history : List LineState) (detector : AttachDetector) :
    Prop where
  requiredSamples : detector.requiredSamples = required
  /-- The counter is below the required number, so it never saturates. -/
  below : detector.candidateSamples < required
  /-- The stable state is the debounced one. -/
  stable : Debounced required.toNat .se0 history detector.stable
  /-- The counter is the length of the run the history ends in, unless that is one of the stable
  state. -/
  trailing : ∀ state, state ≠ detector.stable → ∀ length,
    EndsInRun length history state ↔
      length ≤ if state = detector.candidate then detector.candidateSamples.toNat else 0

theorem toNat_saturatingIncrement {count required : UInt16} (below : count < required) :
    (saturatingIncrement count).toNat = count.toNat + 1 := by
  have small := UInt16.lt_iff_toNat_lt.mp below
  have bound := required.toNat_lt
  unfold saturatingIncrement
  rw [if_pos (by rw [UInt16.size]; omega), UInt16.toNat_add]
  show (count.toNat + 1) % 2 ^ 16 = _
  omega

section Update

variable {required : UInt16} {history : List LineState} {detector : AttachDetector}
  {sample : LineState}

/-- A run that the next sample does not belong to is over. -/
theorem endsInRun_concat_of_ne {state : LineState} (other : state ≠ sample) (length : Nat) :
    EndsInRun length (history ++ [sample]) state ↔ length ≤ 0 := by
  cases length with
  | zero => exact iff_of_true (endsInRun_zero _ _) (Nat.le_refl 0)
  | succ length =>
    rw [endsInRun_concat_iff]
    refine iff_of_false ?_ (by omega)
    rintro ⟨same, -⟩
    exact other same.symm

/-- After a sample that differs from the stable state, the counter is the length of its run. -/
theorem Tracks.count (tracks : Tracks required history detector)
    (changed : sample ≠ detector.stable) (length : Nat) :
    EndsInRun length (history ++ [sample]) sample ↔
      length ≤ (detector.count sample).candidateSamples.toNat := by
  cases length with
  | zero => exact iff_of_true (endsInRun_zero _ _) (Nat.zero_le _)
  | succ length =>
    rw [endsInRun_concat_iff, tracks.trailing sample changed]
    unfold AttachDetector.count
    by_cases new : sample ≠ detector.candidate
    · rw [if_pos new, if_neg new]
      simp
    · rw [if_neg new, if_pos (not_not.mp new)]
      show _ ∧ length ≤ _ ↔ length + 1 ≤ (saturatingIncrement detector.candidateSamples).toNat
      rw [toNat_saturatingIncrement tracks.below]
      simp

/-- **One sample.** -/
theorem Tracks.update (tracks : Tracks required history detector) (positive : 0 < required)
    (sample : LineState) :
    Tracks required (history ++ [sample]) (detector.update sample).1 := by
  have positiveNat : 0 < required.toNat := UInt16.lt_iff_toNat_lt.mp positive
  rcases detector.update_cases sample with
    ⟨same, step⟩ | ⟨changed, short, step⟩ | ⟨changed, long, step⟩
  · -- The stable state again: whatever run was under way is over.
    rw [step]
    refine ⟨tracks.requiredSamples, positive, ?_, ?_⟩
    · rw [same]
      exact tracks.stable.concat_same positiveNat
    · intro state other length
      simp only at other
      rw [endsInRun_concat_of_ne (by rw [same]; exact other), if_neg (by rw [same]; exact other)]
  · -- The run goes on or starts, and is still too short.
    rw [step]
    rw [tracks.requiredSamples] at short
    refine ⟨?_, short, ?_, ?_⟩
    · rw [AttachDetector.count_requiredSamples, tracks.requiredSamples]
    · rw [AttachDetector.count_stable]
      apply tracks.stable.concat_of_not
      intro state run
      rw [run.eq_last positiveNat, tracks.count changed] at run
      have counted := UInt16.lt_iff_toNat_lt.mp short
      omega
    · intro state other length
      rw [AttachDetector.count_candidate]
      by_cases candidate : state = sample
      · rw [if_pos candidate, candidate, tracks.count changed]
      · rw [if_neg candidate, endsInRun_concat_of_ne candidate]
  · -- The run is long enough.
    rw [step]
    rw [tracks.requiredSamples] at long
    refine ⟨?_, positive, ?_, ?_⟩
    · rw [AttachDetector.count_requiredSamples, tracks.requiredSamples]
    · apply debounced_of_run
      rw [tracks.count changed]
      exact Nat.le_of_not_lt fun less => long (UInt16.lt_iff_toNat_lt.mpr less)
    · intro state other length
      simp only at other
      rw [endsInRun_concat_of_ne other]
      simp only [AttachDetector.count_candidate, if_neg other]

/-- An event is returned exactly when the stable state changes, and is the one for the new state. -/
theorem event_update (detector : AttachDetector) (sample : LineState) :
    (detector.update sample).2 =
      if (detector.update sample).1.stable = detector.stable then none
      else some (BusEvent.of (detector.update sample).1.stable) := by
  rcases detector.update_cases sample with ⟨-, step⟩ | ⟨-, -, step⟩ | ⟨changed, -, step⟩
  · rw [step, if_pos rfl]
  · rw [step, if_pos (detector.count_stable sample)]
  · rw [step, if_neg changed]

/-- A sample that returns an event completes a run. -/
theorem Tracks.run_of_event (tracks : Tracks required history detector) {event : BusEvent}
    (returned : (detector.update sample).2 = some event) :
    EndsInRun required.toNat (history ++ [sample]) sample ∧ event = BusEvent.of sample := by
  rcases detector.update_cases sample with ⟨-, step⟩ | ⟨-, -, step⟩ | ⟨changed, long, step⟩
  · rw [step] at returned
    cases returned
  · rw [step] at returned
    cases returned
  · rw [step] at returned
    cases returned
    rw [tracks.requiredSamples] at long
    refine ⟨?_, rfl⟩
    rw [tracks.count changed]
    exact Nat.le_of_not_lt fun less => long (UInt16.lt_iff_toNat_lt.mpr less)

end Update

/-! ### Histories -/

theorem tracks_new {required : UInt16} {detector : AttachDetector}
    (created : AttachDetector.new required = .ok detector) :
    0 < required ∧ Tracks required [] detector := by
  unfold AttachDetector.new at created
  split at created
  · rename_i positive
    cases created
    refine ⟨positive, rfl, positive, debounced_nil (UInt16.lt_iff_toNat_lt.mp positive) _, ?_⟩
    intro state _ length
    rw [EndsInRun, List.suffix_nil, List.replicate_eq_nil_iff]
    simp
  · cases created

/-- **Every history**, by induction on its last sample. -/
theorem tracks_feed {required : UInt16} {detector : AttachDetector}
    (created : AttachDetector.new required = .ok detector) (samples : List LineState) :
    Tracks required samples (detector.feed samples) := by
  obtain ⟨positive, start⟩ := tracks_new created
  induction samples using List.reverseRecOn with
  | nil => exact start
  | append_singleton samples sample ih =>
    rw [AttachDetector.feed_concat]
    exact ih.update positive sample

theorem busEvent_of_injective : Function.Injective BusEvent.of := by
  intro first second same
  cases first <;> cases second <;> first | rfl | cases same

/-- The events of a history alternate, and the first is not that of the state it starts from. -/
theorem events_alternate (detector : AttachDetector) (samples : List LineState) :
    List.IsChain (fun first second => first ≠ second)
      (BusEvent.of detector.stable :: detector.events samples) := by
  induction samples generalizing detector with
  | nil => exact List.IsChain.singleton _
  | cons sample rest ih =>
    have after := ih (detector.update sample).1
    rw [AttachDetector.events, event_update]
    by_cases same : (detector.update sample).1.stable = detector.stable
    · rw [if_pos same, ← same]
      exact after
    · rw [if_neg same]
      refine List.isChain_cons_cons.mpr ⟨?_, after⟩
      exact fun equal => same (busEvent_of_injective equal).symm

/-- **The detector is an exact debouncer.** After every history, `stable_state` is the state of its
most recent run of `required` samples, or SE0 while there has been none; the next sample returns an
event exactly when that state changes, the one for the new state, and only if it completes such a
run; and no event is returned twice in a row. -/
theorem attachDetector_debounces {required : UInt16} {detector : AttachDetector}
    (created : AttachDetector.new required = .ok detector) :
    (∀ (samples : List LineState) (state : LineState),
      Debounced required.toNat .se0 samples state ↔ state = (detector.feed samples).stableState) ∧
      (∀ (samples : List LineState) (sample : LineState),
        ((detector.feed samples).update sample).2 =
          if (detector.feed (samples ++ [sample])).stableState =
              (detector.feed samples).stableState then none
          else some (BusEvent.of (detector.feed (samples ++ [sample])).stableState)) ∧
      (∀ (samples : List LineState) (sample : LineState) (event : BusEvent),
        ((detector.feed samples).update sample).2 = some event →
          EndsInRun required.toNat (samples ++ [sample]) sample ∧ event = BusEvent.of sample) ∧
      ∀ samples : List LineState,
        List.IsChain (fun first second => first ≠ second) (detector.events samples) := by
  have positive := UInt16.lt_iff_toNat_lt.mp (tracks_new created).1
  refine ⟨?_, ?_, ?_, ?_⟩
  · intro samples state
    have debounced := (tracks_feed created samples).stable
    constructor
    · intro same
      exact same.unique positive debounced
    · rintro rfl
      exact debounced
  · intro samples sample
    rw [AttachDetector.feed_concat]
    exact event_update _ _
  · intro samples sample event returned
    exact (tracks_feed created samples).run_of_event returned
  · intro samples
    exact List.IsChain.of_cons (events_alternate detector samples)

/-- A glitch during an attach that needs three samples. -/
theorem attachDetector_debounces_glitch :
    ∃ detector, AttachDetector.new 3 = .ok detector ∧
      detector.events [.jFullSpeed, .se0, .jFullSpeed, .jFullSpeed, .jFullSpeed, .se0] =
        [.attached .full] ∧
      Debounced 3 .se0 [.jFullSpeed, .se0, .jFullSpeed, .jFullSpeed, .jFullSpeed, .se0]
        LineState.jFullSpeed := by
  refine ⟨⟨.se0, .se0, 0, 3, by decide⟩, rfl, by decide, ?_⟩
  have created : AttachDetector.new 3 = .ok ⟨.se0, .se0, 0, 3, by decide⟩ := rfl
  exact ((attachDetector_debounces created).1 _ _).mpr (by decide)

end PioUsbHost.Attach
