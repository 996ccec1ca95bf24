/-
**One sample flag for every bit.**

A packet reaches the edge detector as runs of ticks in which the bus keeps a state: eight ticks a
state, up to two late (`PacketWave`). Whenever the bus leaves K the detector counts anew from the tick
it sees that in; otherwise it counts on from its last flag (`sampleTick`).

* `sampled_next`: from one sample flag to the next, whatever the two states are.
* `sampleTick_bounds`, `sampled`: the flag of every state comes three to five ticks into its window,
  well inside the state.
* `raises_spec`, `raises_sample_iff`: the flags over a whole packet are the start flag, one sample
  flag for every state and one for SE0, and the end-of-packet flag.
-/

import PioUsbHost.Pio.EdgeDetector

namespace PioUsbHost.Pio

open PioUsbHost.Usb

/-! ### The bus as the receivers see it -/

/-- A state of the bus; `none` is SE0. -/
abbrev BusState := Option WireState

/-- The data pin, inverted: low in J alone. -/
def dataSeen (state : BusState) : Bool := decide (state ≠ some .J)

/-- The other pin, inverted: low in K alone. -/
def edgeSeen (state : BusState) : Bool := decide (state ≠ some .K)

theorem edgeSeen_of_ne {state : BusState} (differs : state ≠ some .K) : edgeSeen state = true :=
  decide_eq_true differs

namespace EdgePhase

/-- The phases tick by tick, from the park; `held` is the end-of-packet flag at each tick. -/
def run (held : Nat → Bool) (wave : Nat → BusState) : Nat → EdgePhase
  | 0 => parked
  | tick + 1 => (run held wave tick).next (held tick) (dataSeen (wave tick)) (edgeSeen (wave tick))

section Run

variable {held : Nat → Bool} {wave : Nat → BusState} {tick : Nat}

theorem run_succ : run held wave (tick + 1) =
    (run held wave tick).next (held tick) (dataSeen (wave tick)) (edgeSeen (wave tick)) := rfl

/-- **The low loop counts on** while the bus stays in K. -/
theorem run_low {phase count : Nat} (here : run held wave tick = low phase) (below : phase < 8)
    (inside : phase + count ≤ 8) (stays : ∀ later, later < count → wave (tick + later) = some .K)
    {later : Nat} (within : later ≤ count) :
    run held wave (tick + later) = low ((phase + later) % 8) := by
  induction later with
  | zero => rw [Nat.add_zero, Nat.add_zero, here, Nat.mod_eq_of_lt below]
  | succ later ih =>
    rw [← Nat.add_assoc, run_succ, ih (by omega), Nat.mod_eq_of_lt (by omega), next,
      stays later (by omega), if_neg fun both => Bool.false_ne_true both.2]
    rfl

/-- **A rising edge** sets the count back: the next flag is two ticks later. -/
theorem run_rise {phase : Nat} (here : run held wave tick = low phase) (looks : 2 ≤ phase)
    (rises : edgeSeen (wave tick) = true) :
    run held wave (tick + 1) = high 6 false ∧ run held wave (tick + 2) = high 7 false ∧
      run held wave (tick + 3) = high 0 (dataSeen (wave (tick + 2))) := by
  have first : run held wave (tick + 1) = high 6 false := by
    rw [run_succ, here, next, if_pos ⟨looks, rises⟩]
  have second : run held wave (tick + 2) = high 7 false := by rw [run_succ, first]; rfl
  refine ⟨first, second, ?_⟩
  rw [run_succ, second]
  rfl

/-- **The high loop counts on** while the pin is high at its one look. -/
theorem run_high {sample : Bool} (here : run held wave tick = high 0 sample)
    (stays : edgeSeen (wave (tick + 1)) = true) :
    run held wave (tick + 1) = high 1 sample ∧ run held wave (tick + 2) = high 2 sample ∧
      run held wave (tick + 3) = high 3 sample ∧ run held wave (tick + 4) = high 4 sample ∧
      run held wave (tick + 5) = high 5 sample ∧
      run held wave (tick + 6) = if sample then ending else high 6 false := by
  have first : run held wave (tick + 1) = high 1 sample := by rw [run_succ, here]; rfl
  have second : run held wave (tick + 2) = high 2 sample := by
    rw [run_succ, first, next, if_pos rfl, if_pos stays]
  have third : run held wave (tick + 3) = high 3 sample := by rw [run_succ, second]; rfl
  have fourth : run held wave (tick + 4) = high 4 sample := by rw [run_succ, third]; rfl
  have fifth : run held wave (tick + 5) = high 5 sample := by rw [run_succ, fourth]; rfl
  refine ⟨first, second, third, fourth, fifth, ?_⟩
  rw [run_succ, fifth]
  rfl

/-- **A falling edge** is found at the high loop's look, and the count goes on in the low loop. -/
theorem run_fall {sample : Bool} (here : run held wave tick = high 0 sample)
    (falls : wave (tick + 1) = some .K) :
    run held wave (tick + 1) = high 1 sample ∧ run held wave (tick + 2) = turning ∧
      run held wave (tick + 3) = low 3 := by
  have first : run held wave (tick + 1) = high 1 sample := by rw [run_succ, here]; rfl
  have second : run held wave (tick + 2) = turning := by
    rw [run_succ, first, falls]
    rfl
  refine ⟨first, second, ?_⟩
  rw [run_succ, second]
  rfl

/-- The program stays parked while its flag does. -/
theorem run_parked (here : run held wave tick = parked) (later : Nat)
    (stays : ∀ other, other < later → held (tick + other) = true) :
    run held wave (tick + later) = parked := by
  induction later with
  | zero => exact here
  | succ later ih =>
    rw [← Nat.add_assoc, run_succ, ih fun other before => stays other (by omega), next,
      stays later (by omega), if_pos rfl]

end Run

/-! ### From one flag to the next -/

/-- The program raises a sample flag in the state `level`. -/
def Samples (level : BusState) (phase : EdgePhase) : Prop :=
  phase = high 0 (dataSeen level) ∨ level = some .K ∧ phase = low 0

theorem Samples.raises {level : BusState} {phase : EdgePhase} (samples : Samples level phase) :
    phase.raises = some 4 := by
  rcases samples with rfl | ⟨-, rfl⟩ <;> rfl

section Step

variable {held : Nat → Bool} {wave : Nat → BusState} {tick edge : Nat} {level after : BusState}

/-- Three ticks after a flag in K the program counts in the low loop. -/
theorem Samples.low_three (samples : Samples (some .K) (run held wave tick))
    (first : wave (tick + 1) = some .K) (second : wave (tick + 2) = some .K) :
    run held wave (tick + 3) = low 3 ∧
      (run held wave (tick + 1)).raises = none ∧ (run held wave (tick + 2)).raises = none := by
  rcases samples with here | ⟨-, here⟩
  · obtain ⟨looking, turned, counting⟩ := run_fall here first
    rw [looking, turned]
    exact ⟨counting, rfl, rfl⟩
  · have looking : run held wave (tick + 1) = low 1 := by rw [run_succ, here]; rfl
    have counting : run held wave (tick + 2) = low 2 := by rw [run_succ, looking]; rfl
    refine ⟨?_, ?_, ?_⟩
    · rw [run_succ, counting, second]
      rfl
    · rw [looking]
      rfl
    · rw [counting]
      rfl

/-- The tick of the next sample flag. -/
def nextSample (tick edge : Nat) (level after : BusState) : Nat :=
  if level = some .K ∧ after ≠ some .K then edge + 3 else tick + 8

theorem raises_low {phase : Nat} (later : phase ≠ 0) : (low phase).raises = none := by
  cases phase with
  | zero => exact absurd rfl later
  | succ phase => rfl

/-- While the bus stays in K after a flag, the low loop counts and raises nothing. -/
theorem Samples.counts (samples : Samples (some .K) (run held wave tick)) {count : Nat}
    (inside : count ≤ 8) (stays : ∀ later, 0 < later → later < count → wave (tick + later) = some .K)
    (enough : 3 ≤ count) : run held wave (tick + count) = low (count % 8) ∧
      ∀ later, 0 < later → later < count → (run held wave (tick + later)).raises = none := by
  obtain ⟨third, first, second⟩ := samples.low_three (stays 1 (by decide) (by omega))
    (stays 2 (by decide) (by omega))
  have counting : ∀ later, later ≤ count - 3 →
      run held wave (tick + 3 + later) = low ((3 + later) % 8) := fun later within =>
    run_low third (by decide) (by omega) (fun other before => by
      rw [Nat.add_assoc]
      exact stays (3 + other) (by omega) (by omega)) within
  refine ⟨?_, fun later positive before => ?_⟩
  · have last := counting (count - 3) le_rfl
    rwa [show tick + 3 + (count - 3) = tick + count by omega,
      show 3 + (count - 3) = count by omega] at last
  · by_cases one : later = 1
    · rw [one]
      exact first
    by_cases two : later = 2
    · rw [two]
      exact second
    have here := counting (later - 3) (by omega)
    rw [show tick + 3 + (later - 3) = tick + later by omega,
      show 3 + (later - 3) = later by omega, Nat.mod_eq_of_lt (by omega)] at here
    rw [here]
    exact raises_low (by omega)

/-- In J, the high loop counts through. -/
theorem sampled_next_high (here : run held wave tick = high 0 false)
    (stays : edgeSeen (wave (tick + 1)) = true) :
    run held wave (tick + 8) = high 0 (dataSeen (wave (tick + 7))) ∧
      ∀ time, tick < time → time < tick + 8 → (run held wave time).raises = none := by
  obtain ⟨first, second, third, fourth, fifth, sixth⟩ := run_high here stays
  rw [if_neg Bool.false_ne_true] at sixth
  have seventh : run held wave (tick + 7) = high 7 false := by rw [run_succ, sixth]; rfl
  refine ⟨by rw [run_succ, seventh]; rfl, fun time after before => ?_⟩
  obtain ⟨count, rfl⟩ := Nat.exists_eq_add_of_lt after
  have bound : count < 7 := by omega
  interval_cases count
  · exact congrArg raises first
  · exact congrArg raises second
  · exact congrArg raises third
  · exact congrArg raises fourth
  · exact congrArg raises fifth
  · exact congrArg raises sixth
  · exact congrArg raises seventh

/-- **From one sample flag to the next**, when the bus changes from `level` to `after` at the tick
`edge`: no flag comes between. -/
theorem sampled_next (samples : Samples level (run held wave tick)) (driven : level ≠ none)
    (early : tick + 3 ≤ edge) (late : edge ≤ tick + 7)
    (before : ∀ time, tick < time → time < edge → wave time = level)
    (behind : ∀ time, edge ≤ time → time < edge + 5 → wave time = after) :
    Samples after (run held wave (nextSample tick edge level after)) ∧
      ∀ time, tick < time → time < nextSample tick edge level after →
        (run held wave time).raises = none := by
  match level, driven with
  | some .J, _ =>
    rcases samples with here | ⟨absurdly, -⟩
    · obtain ⟨eighth, quiet⟩ := sampled_next_high here (by
        rw [before (tick + 1) (by omega) (by omega)]
        rfl)
      rw [behind (tick + 7) late (by omega)] at eighth
      exact ⟨Or.inl eighth, quiet⟩
    · cases absurdly
  | some .K, _ =>
    by_cases same : after = some .K
    · -- The bus stays in K.
      subst same
      have stays : ∀ later, 0 < later → later < 8 → wave (tick + later) = some .K := by
        intro later positive within
        by_cases earlier : tick + later < edge
        · exact before _ (by omega) earlier
        · exact behind _ (by omega) (by omega)
      obtain ⟨eighth, quiet⟩ := samples.counts (by decide) stays (by decide)
      refine ⟨Or.inr ⟨rfl, eighth⟩, fun time later within => ?_⟩
      have := quiet (time - tick) (by omega) (by
        rw [nextSample, if_neg fun both => both.2 rfl] at within
        omega)
      rwa [show tick + (time - tick) = time by omega] at this
    · -- It leaves K at `edge`, and the detector counts anew.
      obtain ⟨count, rfl⟩ := Nat.exists_eq_add_of_le (Nat.le_of_lt (Nat.lt_of_lt_of_le
        (Nat.lt_add_of_pos_right (by decide)) early))
      obtain ⟨here, quiet⟩ := samples.counts (show count ≤ 8 by omega) (fun later positive within =>
        before (tick + later) (by omega) (by omega)) (by omega)
      rw [Nat.mod_eq_of_lt (by omega)] at here
      obtain ⟨first, second, third⟩ := run_rise here (by omega) (by
        rw [behind _ le_rfl (by omega)]
        exact edgeSeen_of_ne same)
      rw [behind _ (by omega) (by omega)] at third
      rw [nextSample, if_pos ⟨rfl, same⟩]
      refine ⟨Or.inl third, fun time later within => ?_⟩
      by_cases earlier : time < tick + count
      · have := quiet (time - tick) (by omega) (by omega)
        rwa [show tick + (time - tick) = time by omega] at this
      by_cases rising : time = tick + count
      · rw [rising, here]
        exact raises_low (by omega)
      by_cases clearing : time = tick + count + 1
      · rw [clearing, first]
        rfl
      · rw [show time = tick + count + 2 by omega, second]
        rfl

end Step

end EdgePhase

/-! ### A whole packet -/

/-- **A packet at the edge detector**: the bus is not in K until the first state, and then holds each
state from its own tick on, and SE0 after the last. State `number` begins in the three ticks from
`first + 8 * number` on. -/
structure PacketWave (states : List WireState) (first : Nat) (edge : Nat → Nat)
    (wave : Nat → BusState) : Prop where
  starts : states[0]? = some .K
  armed : 0 < first
  idle : ∀ tick, tick < edge 0 → wave tick ≠ some .K
  holds : ∀ number, number ≤ states.length → ∀ tick, edge number ≤ tick →
    tick < edge (number + 1) → wave tick = states[number]?
  early : ∀ number, number ≤ states.length + 1 → first + 8 * number ≤ edge number
  late : ∀ number, number ≤ states.length + 1 → edge number ≤ first + 8 * number + 2

namespace EdgePhase

/-- The tick of each sample flag. -/
def sampleTick (states : List WireState) (edge : Nat → Nat) : Nat → Nat
  | 0 => edge 0 + 3
  | number + 1 =>
    nextSample (sampleTick states edge number) (edge (number + 1)) states[number]? states[number + 1]?

section Packet

variable {states : List WireState} {first : Nat} {edge : Nat → Nat} {wave : Nat → BusState}
  {held : Nat → Bool}

/-- **The flags come three to five ticks into their windows.** -/
theorem sampleTick_bounds (packet : PacketWave states first edge wave) {number : Nat}
    (inside : number ≤ states.length) :
    first + 8 * number + 3 ≤ sampleTick states edge number ∧
      sampleTick states edge number ≤ first + 8 * number + 5 := by
  induction number with
  | zero =>
    have early := packet.early 0 (by omega)
    have late := packet.late 0 (by omega)
    unfold sampleTick
    omega
  | succ number ih =>
    obtain ⟨low, high⟩ := ih (by omega)
    have early := packet.early (number + 1) (by omega)
    have late := packet.late (number + 1) (by omega)
    unfold sampleTick nextSample
    split
    · omega
    · omega

/-- Until the first K the detector waits, from the tick after the park. -/
theorem run_idle (packet : PacketWave states first edge wave) (released : held 0 = false) {tick : Nat}
    (positive : 0 < tick) (before : tick ≤ edge 0) : run held wave tick = waiting := by
  induction tick with
  | zero => exact absurd positive (Nat.lt_irrefl 0)
  | succ tick ih =>
    by_cases parked : tick = 0
    · subst parked
      rw [run_succ, run, next, released, if_neg Bool.false_ne_true]
    · rw [run_succ, ih (by omega) (by omega), next, if_pos (edgeSeen_of_ne
        (packet.idle tick (by omega)))]

/-- **The first K** starts the detector, and is sampled three ticks later. -/
theorem run_start (packet : PacketWave states first edge wave) (released : held 0 = false) :
    run held wave (edge 0 + 1) = starting false ∧ run held wave (edge 0 + 2) = starting true ∧
      run held wave (edge 0 + 3) = low 0 := by
  have early := packet.early 0 (by omega)
  have armed := packet.armed
  have later := packet.early (0 + 1) (by omega)
  have late := packet.late 0 (by omega)
  have seen : wave (edge 0) = some .K :=
    (packet.holds 0 (by omega) (edge 0) le_rfl (by omega)).trans packet.starts
  have started : run held wave (edge 0 + 1) = starting false := by
    rw [run_succ, run_idle packet released (by omega) le_rfl, next, seen]
    rfl
  have second : run held wave (edge 0 + 2) = starting true := by rw [run_succ, started]; rfl
  exact ⟨started, second, by rw [run_succ, second]; rfl⟩

/-- The bus around a change of state. -/
theorem sampled_step (packet : PacketWave states first edge wave) {number : Nat}
    (inside : number < states.length)
    (samples : Samples states[number]? (run held wave (sampleTick states edge number))) :
    Samples states[number + 1]? (run held wave (sampleTick states edge (number + 1))) ∧
      ∀ time, sampleTick states edge number < time → time < sampleTick states edge (number + 1) →
        (run held wave time).raises = none := by
  obtain ⟨low, high⟩ := sampleTick_bounds packet (Nat.le_of_lt inside)
  have late := packet.late number (by omega)
  have nextEarly := packet.early (number + 1) (by omega)
  have nextLate := packet.late (number + 1) (by omega)
  have thenEarly := packet.early (number + 1 + 1) (by omega)
  refine sampled_next samples ?_ (by omega) (by omega) (fun time after before => ?_)
    fun time after before => ?_
  · rw [List.getElem?_eq_getElem inside]
    exact Option.some_ne_none _
  · exact packet.holds number (by omega) time (by omega) before
  · exact packet.holds (number + 1) inside time after (by omega)

/-- **Every state is sampled**, and SE0 after them. -/
theorem sampled (packet : PacketWave states first edge wave) (released : held 0 = false)
    {number : Nat} (inside : number ≤ states.length) :
    Samples states[number]? (run held wave (sampleTick states edge number)) := by
  induction number with
  | zero => exact Or.inr ⟨packet.starts, (run_start packet released).2.2⟩
  | succ number ih => exact (sampled_step packet inside (ih (by omega))).1

/-- **The end of the packet** is found in SE0, six ticks after its sample. -/
theorem run_end (packet : PacketWave states first edge wave) (released : held 0 = false) :
    let last := sampleTick states edge states.length
    (∀ time, last < time → time < last + 6 → (run held wave time).raises = none) ∧
      run held wave (last + 6) = ending ∧ run held wave (last + 7) = parked := by
  intro last
  have none : states[states.length]? = none := List.getElem?_eq_none le_rfl
  have here : run held wave last = high 0 true := by
    rcases sampled packet released (le_refl states.length) with here | ⟨absurdly, -⟩
    · rw [none] at here
      exact here
    · rw [none] at absurdly
      cases absurdly
  obtain ⟨low, bound⟩ := sampleTick_bounds packet (le_refl states.length)
  have late := packet.late states.length (by omega)
  have early := packet.early (states.length + 1) (by omega)
  obtain ⟨looking, second, third, fourth, fifth, ended⟩ := run_high here (by
    rw [packet.holds states.length le_rfl (last + 1) (by omega) (by omega), none]
    rfl)
  rw [if_pos rfl] at ended
  refine ⟨fun time after before => ?_, ended, by rw [run_succ, ended]; rfl⟩
  obtain ⟨count, rfl⟩ := Nat.exists_eq_add_of_lt after
  have within : count < 5 := by omega
  interval_cases count
  · exact congrArg raises looking
  · exact congrArg raises second
  · exact congrArg raises third
  · exact congrArg raises fourth
  · exact congrArg raises fifth

/-- Before the first sample the detector raises nothing but the start flag. -/
theorem raises_before (packet : PacketWave states first edge wave) (released : held 0 = false)
    {time : Nat} (before : time < edge 0 + 3) (other : time ≠ edge 0 + 1) :
    (run held wave time).raises = none := by
  obtain ⟨-, second, -⟩ := run_start packet released
  by_cases start : time = 0
  · rw [start]
    rfl
  by_cases idle : time ≤ edge 0
  · rw [run_idle packet released (by omega) idle]
    rfl
  · rw [show time = edge 0 + 2 by omega, second]
    rfl

/-- Up to a sample, every flag is the start flag or a sample flag. -/
theorem raises_upto (packet : PacketWave states first edge wave) (released : held 0 = false)
    {number : Nat} (inside : number ≤ states.length) {time : Nat}
    (before : time ≤ sampleTick states edge number) (raises : (run held wave time).raises ≠ none) :
    time = edge 0 + 1 ∨ ∃ sample ≤ states.length, time = sampleTick states edge sample := by
  induction number with
  | zero =>
    have tick : sampleTick states edge 0 = edge 0 + 3 := rfl
    by_cases sampled : time = sampleTick states edge 0
    · exact Or.inr ⟨0, inside, sampled⟩
    · by_cases started : time = edge 0 + 1
      · exact Or.inl started
      · exact absurd (raises_before packet released (by omega) started) raises
  | succ number ih =>
    obtain ⟨-, quiet⟩ := sampled_step packet inside (sampled packet released (by omega))
    by_cases earlier : time ≤ sampleTick states edge number
    · exact ih (by omega) earlier
    by_cases sampled : time = sampleTick states edge (number + 1)
    · exact Or.inr ⟨number + 1, inside, sampled⟩
    · exact absurd (quiet time (by omega) (by omega)) raises

/-- **All flags of a packet**: the start flag, the sample flags, and the end-of-packet flag. -/
theorem raises_spec (packet : PacketWave states first edge wave) (released : held 0 = false)
    (stays : ∀ tick, sampleTick states edge states.length + 7 ≤ tick → held tick = true)
    {time : Nat} (raises : (run held wave time).raises ≠ none) :
    time = edge 0 + 1 ∨ (∃ sample ≤ states.length, time = sampleTick states edge sample) ∨
      time = sampleTick states edge states.length + 6 := by
  obtain ⟨quiet, -, ended⟩ := run_end packet released
  by_cases before : time ≤ sampleTick states edge states.length
  · rcases raises_upto packet released le_rfl before raises with started | sampled
    · exact Or.inl started
    · exact Or.inr (Or.inl sampled)
  by_cases earlier : time < sampleTick states edge states.length + 6
  · exact absurd (quiet time (by omega) earlier) raises
  by_cases ending : time = sampleTick states edge states.length + 6
  · exact Or.inr (Or.inr ending)
  · have parked := run_parked ended (time - (sampleTick states edge states.length + 7))
      fun other _ => stays _ (Nat.le_add_right _ _)
    rw [show sampleTick states edge states.length + 7 +
      (time - (sampleTick states edge states.length + 7)) = time by omega] at parked
    rw [parked] at raises
    exact absurd rfl raises

/-- **One sample flag for every state**, and one for SE0; no other. -/
theorem raises_sample_iff (packet : PacketWave states first edge wave) (released : held 0 = false)
    (stays : ∀ tick, sampleTick states edge states.length + 7 ≤ tick → held tick = true)
    (time : Nat) : (run held wave time).raises = some 4 ↔
      ∃ number ≤ states.length, time = sampleTick states edge number := by
  constructor
  · intro raises
    rcases raises_spec packet released stays (raises ▸ Option.some_ne_none 4) with rfl | sample | rfl
    · rw [(run_start packet released).1] at raises
      cases raises
    · exact sample
    · rw [(run_end packet released).2.1] at raises
      cases raises
  · rintro ⟨number, inside, rfl⟩
    exact (sampled packet released inside).raises

end Packet

end EdgePhase

end PioUsbHost.Pio
