/-
**The byte decoder undoes NRZI and bit stuffing.**

The program keeps the last level in X and the ones still allowed in Y, and shifts every bit that is
not stuffed into the ISR, which autopush empties at eight. That is the loop of `decode_nrzi` without
its checks (`receiveStep`): the machine waiting at `irq_wait` holds the variables of that loop
(`DecoderAt`), and one sample flag takes it one state further within eight cycles (`sample_spec`).

* `receiveStep_of_nrziStep`: where the loop goes on, `receiveStep` does what it does.
* `isrOf_store`: one bit into the ISR.
* `DecoderAt.stall` to `DecoderAt.flip`: the instructions of the program, one by one.
* `takes_flip`, `takes_bit`: what the program does with a flip and with a bit, from flag to flag.
-/

import Mathlib.Tactic.IntervalCases
import PioUsbHost.Pio.RxProgram
import PioUsbHost.Usb.Nrzi

namespace PioUsbHost.Pio

open PioUsbHost.Lib.PioInput PioUsbHost.Usb
open PioUsbHost.Lib.PioMachine (Word)

/-! ### The loop without its checks -/

/-- What the program makes of a state: after six ones a bit is dropped unseen. -/
def receiveStep (decoder : NrziDecoder) (state : WireState) : NrziDecoder :=
  if decoder.consecutiveOnes = 6 then
    { decoder with previous := decoder.previous.flip, consecutiveOnes := 0 }
  else
    { result := decoder.result.store (decide (state = decoder.previous))
      previous := state
      consecutiveOnes := if state = decoder.previous then decoder.consecutiveOnes + 1 else 0 }

/-- **Where the loop goes on**, the program does what it does. -/
theorem receiveStep_of_nrziStep {capacity : Nat} {decoder next : NrziDecoder} {state : WireState}
    (step : nrziStep capacity decoder state = .ok next) : receiveStep decoder state = next := by
  unfold nrziStep at step
  unfold receiveStep
  by_cases stuffed : decoder.consecutiveOnes = 6
  · rw [if_pos stuffed]
    simp only [stuffed, if_true] at step
    by_cases same : state = decoder.previous
    · rw [if_pos (decide_eq_true same)] at step
      cases step
    · rw [if_neg (by rw [decide_eq_true_iff]; exact same)] at step
      cases step
      rw [WireState.eq_flip decoder.previous state same]
  · rw [if_neg stuffed]
    simp only [stuffed, if_false] at step
    split at step
    · cases step
    · cases step
      simp only [decide_eq_true_eq]

/-- **A packet that `decode_nrzi` accepts** leaves its bytes, and no part of another. -/
theorem foldl_receiveStep {capacity : Nat} {states : List WireState} {bytes : List UInt8}
    (decoded : decodeNrzi capacity states = .ok bytes) :
    (states.foldl receiveStep nrziStart).result.bytes = bytes ∧
      (states.foldl receiveStep nrziStart).result.bitIndex = 0 := by
  have follows : ∀ (decoder final : NrziDecoder),
      states.foldlM (nrziStep capacity) decoder = .ok final →
      states.foldl receiveStep decoder = final := by
    clear decoded
    induction states with
    | nil =>
      intro decoder final looped
      cases looped
      rfl
    | cons state rest ih =>
      intro decoder final looped
      rw [List.foldlM_cons] at looped
      cases step : nrziStep capacity decoder state with
      | error error =>
        rw [step] at looped
        cases looped
      | ok next =>
        rw [step] at looped
        rw [List.foldl_cons, receiveStep_of_nrziStep step]
        exact ih next final looped
  unfold decodeNrzi at decoded
  cases looped : states.foldlM (nrziStep capacity) nrziStart with
  | error error =>
    rw [looped] at decoded
    cases decoded
  | ok final =>
    rw [looped] at decoded
    simp only [bind, Except.bind] at decoded
    rw [follows nrziStart final looped]
    by_cases partByte : final.result.bitIndex ≠ 0
    · rw [if_pos partByte] at decoded
      cases decoded
    · rw [if_neg partByte] at decoded
      cases decoded
      exact ⟨rfl, not_not.mp partByte⟩

/-! ### The ISR -/

/-- The ISR while a byte is being filled: its bits come in at the top. -/
def isrOf (result : DecodedBytes) : Word :=
  (result.current.toBitVec.setWidth 32) <<< (32 - result.bitIndex)

/-- `(word >> 24) as u8`. -/
def rxByte (word : Word) : UInt8 := UInt8.ofBitVec ((word >>> 24).setWidth 8)

/-- The ISR after one more bit. -/
def shiftedIsr (result : DecodedBytes) (bit : Bool) : Word :=
  isrOf result >>> 1 ||| (if bit then BitVec.twoPow 32 31 else 0)

/-- The byte being filled, after one more bit. -/
def DecodedBytes.filled (result : DecodedBytes) (bit : Bool) : UInt8 :=
  if bit then result.current ||| (1 <<< UInt8.ofNat result.bitIndex) else result.current

theorem getLsbD_filled {result : DecodedBytes} (inside : result.bitIndex < 8) (bit : Bool)
    (index : Nat) : (DecodedBytes.filled result bit).toBitVec.getLsbD index =
      (result.current.toBitVec.getLsbD index || (bit && decide (index = result.bitIndex))) := by
  unfold DecodedBytes.filled
  cases bit with
  | false => rw [if_neg Bool.false_ne_true, Bool.false_and, Bool.or_false]
  | true => rw [if_pos rfl, getLsbD_setBit _ inside, Bool.true_and]

/-- **One bit into the ISR.** -/
theorem shiftedIsr_eq {result : DecodedBytes} (filling : result.Filling) (bit : Bool) :
    shiftedIsr result bit =
      ((DecodedBytes.filled result bit).toBitVec.setWidth 32) <<< (31 - result.bitIndex) := by
  have inside := filling.inside
  refine BitVec.eq_of_getLsbD_eq fun index within => ?_
  have top : (if bit then BitVec.twoPow 32 31 else 0 : Word).getLsbD index =
      (bit && decide (index = 31)) := by
    cases bit with
    | false => exact BitVec.getLsbD_zero
    | true =>
      rw [if_pos rfl, BitVec.getLsbD_twoPow, Bool.true_and]
      simp [eq_comm]
  unfold shiftedIsr isrOf
  rw [BitVec.getLsbD_or, top, BitVec.getLsbD_ushiftRight, BitVec.getLsbD_shiftLeft,
    BitVec.getLsbD_shiftLeft, BitVec.getLsbD_setWidth, BitVec.getLsbD_setWidth,
    getLsbD_filled inside]
  by_cases low : index < 31 - result.bitIndex
  · have early : 1 + index < 32 - result.bitIndex := by omega
    have other : index ≠ 31 := by omega
    simp [low, early, other]
  · have late : ¬ 1 + index < 32 - result.bitIndex := by omega
    have same : 1 + index - (32 - result.bitIndex) = index - (31 - result.bitIndex) := by omega
    by_cases last : index = 31
    · -- The new bit; the byte is clear there.
      subst last
      have place : 31 - (31 - result.bitIndex) = result.bitIndex := by omega
      have small : result.bitIndex < 32 := by omega
      rw [same, place, filling.clear _ le_rfl]
      simp [low, small]
    · have elsewhere : index - (31 - result.bitIndex) ≠ result.bitIndex := by omega
      have inner : 1 + index < 32 := by omega
      rw [same]
      simp [low, late, last, elsewhere, inner, within]

/-- **Storing a bit that completes no byte.** -/
theorem isrOf_store {result : DecodedBytes} (filling : result.Filling) (bit : Bool)
    (part : result.bitIndex + 1 ≠ 8) : isrOf (result.store bit) = shiftedIsr result bit := by
  rw [shiftedIsr_eq filling]
  unfold DecodedBytes.store
  simp only
  rw [if_neg part]
  exact congrArg (_ <<< ·) (by show 32 - (result.bitIndex + 1) = _; omega)

theorem isrOf_empty (bytes : List UInt8) :
    isrOf { bytes, current := 0, bitIndex := 0 } = 0 := by
  unfold isrOf
  exact BitVec.zero_shiftLeft _

/-- **The word that a completed byte is pushed as.** -/
theorem rxByte_shiftedIsr {result : DecodedBytes} (filling : result.Filling) (bit : Bool)
    (whole : result.bitIndex + 1 = 8) :
    rxByte (shiftedIsr result bit) = DecodedBytes.filled result bit := by
  rw [shiftedIsr_eq filling, show 31 - result.bitIndex = 24 by omega]
  unfold rxByte
  refine UInt8.toBitVec_inj.mp (BitVec.eq_of_getLsbD_eq fun index within => ?_)
  rw [BitVec.getLsbD_setWidth, BitVec.getLsbD_ushiftRight, BitVec.getLsbD_shiftLeft,
    BitVec.getLsbD_setWidth, Nat.add_sub_cancel_left]
  have inside : 24 + index < 32 := by omega
  have small : index < 32 := by omega
  simp [inside, small, within]

/-! ### The instructions -/

/-- The last level, as X holds it. -/
def levelWord : WireState → Word
  | .J => 0
  | .K => BitVec.allOnes 32

theorem not_levelWord (level : WireState) : ~~~levelWord level = levelWord level.flip := by
  cases level <;> decide

/-- The decoder at an address: the last level in X, the ones still allowed in Y, the byte being filled
in the ISR. -/
def decoderMachine (pc : Nat) (previous : WireState) (left : Nat) (result : DecodedBytes) :
    Machine where
  pc := pc
  x := levelWord previous
  y := BitVec.ofNat 32 left
  isr := isrOf result
  isrCount := result.bitIndex
  osr := BitVec.allOnes 32
  delay := 0
  waiting := false

/-- The decoder at an address at some time, with what it has pushed. -/
structure DecoderAt (machine : Nat → Machine) (pushed : Nat → List Word) (time pc : Nat)
    (previous : WireState) (left : Nat) (result : DecodedBytes) : Prop where
  machine : machine time = decoderMachine pc previous left result
  pushed : (pushed time).map rxByte = result.bytes
  filling : result.Filling

section Hops

variable {inputs : Nat → Inputs} {machine : Nat → Machine} {pushed : Nat → List Word} {time pc : Nat}
  {previous : WireState} {left : Nat} {result : DecodedBytes}

/-- A cycle that pushes nothing. -/
theorem DecoderAt.hop (running : Running decoderConfig inputs machine pushed)
    (here : DecoderAt machine pushed time pc previous left result) {target remaining : Nat}
    {level : WireState} (effect : Effect) (quiet : effect.pushed = none)
    (step : cycle decoderConfig (inputs time) (decoderMachine pc previous left result) =
      (decoderMachine target level remaining result, effect)) :
    DecoderAt machine pushed (time + 1) target level remaining result := by
  obtain ⟨moved, logged⟩ := running.step (here.machine ▸ step)
  refine ⟨moved, ?_, here.filling⟩
  rw [logged, quiet, Option.toList_none, List.append_nil]
  exact here.pushed

/-- `wait 1 irq 4` stalls. -/
theorem DecoderAt.stall (running : Running decoderConfig inputs machine pushed)
    (here : DecoderAt machine pushed time 1 previous left result)
    (clear : (inputs time).irqs 4 = false) : DecoderAt machine pushed (time + 1) 1 previous left result :=
  here.hop running .quiet rfl (cycle_waitIrq_stall rfl rfl clear)

/-- `wait 1 irq 4` passes. -/
theorem DecoderAt.pass (running : Running decoderConfig inputs machine pushed)
    (here : DecoderAt machine pushed time 1 previous left result)
    (raised : (inputs time).irqs 4 = true) : DecoderAt machine pushed (time + 1) 2 previous left result :=
  here.hop running (.clearing 4) rfl (cycle_waitIrq_pass rfl rfl raised)

/-- `jmp pin pin_high`. -/
theorem DecoderAt.look (running : Running decoderConfig inputs machine pushed)
    (here : DecoderAt machine pushed time 2 previous left result) :
    DecoderAt machine pushed (time + 1) (if (inputs time).jumpPin then 9 else 3) previous left result := by
  cases pin : (inputs time).jumpPin with
  | true => exact here.hop running .quiet rfl (@cycle_jmp_taken _ _ _ 0 .pin 9 rfl rfl pin)
  | false => exact here.hop running .quiet rfl (@cycle_jmp_passed _ _ _ 0 .pin 9 rfl rfl pin)

/-- `jmp !y flip`, after six ones. -/
theorem DecoderAt.stuffed (running : Running decoderConfig inputs machine pushed)
    (here : DecoderAt machine pushed time pc previous 0 result)
    (found : rxProgram[pc]? = some { op := .jmp .notY 14, delay := 0 }) :
    DecoderAt machine pushed (time + 1) 14 previous 0 result :=
  here.hop running .quiet rfl (@cycle_jmp_taken _ _ _ 0 .notY 14 rfl found rfl)

/-- `jmp !y flip`, before. -/
theorem DecoderAt.unstuffed (running : Running decoderConfig inputs machine pushed)
    (here : DecoderAt machine pushed time pc previous (left + 1) result) (few : left < 6)
    (found : rxProgram[pc]? = some { op := .jmp .notY 14, delay := 0 }) (inside : pc ≠ 14) :
    DecoderAt machine pushed (time + 1) (pc + 1) previous (left + 1) result := by
  refine here.hop running .quiet rfl ((cycle_jmp_passed rfl found ?_).trans ?_)
  · show (BitVec.ofNat 32 (left + 1) == 0) = false
    interval_cases left <;> decide
  · exact congrArg (fun pc => (decoderMachine pc previous (left + 1) result, Effect.quiet))
      (if_neg inside)

/-- `jmp !x`. -/
theorem DecoderAt.level (running : Running decoderConfig inputs machine pushed)
    (here : DecoderAt machine pushed time pc previous left result) {target : Nat}
    (found : rxProgram[pc]? = some { op := .jmp .notX target, delay := 0 }) (inside : pc ≠ 14) :
    DecoderAt machine pushed (time + 1) (if previous = .J then target else pc + 1) previous left result := by
  cases previous with
  | J => exact here.hop running .quiet rfl (@cycle_jmp_taken _ _ _ 0 .notX target rfl found rfl)
  | K =>
    refine here.hop running .quiet rfl ((cycle_jmp_passed rfl found rfl).trans ?_)
    exact congrArg (fun pc => (decoderMachine pc .K left result, Effect.quiet)) (if_neg inside)

/-- `in source, 1`: the byte being filled, or the byte it completes. -/
theorem DecoderAt.shift (running : Running decoderConfig inputs machine pushed)
    (here : DecoderAt machine pushed time pc previous left result) (room : (inputs time).room = true)
    {source : Source} (found : rxProgram[pc]? = some { op := .shiftIn source, delay := 0 })
    (inside : pc ≠ 14) (bit : Bool)
    (taken : (decoderMachine pc previous left result).bitOf (inputs time) source = bit) :
    DecoderAt machine pushed (time + 1) (pc + 1) previous left (result.store bit) := by
  have filling := here.filling
  have bound := filling.inside
  have next : (decoderMachine pc previous left result).nextPc decoderConfig = pc + 1 := if_neg inside
  have shifted : ((decoderMachine pc previous left result).shift decoderConfig bit).isr =
        shiftedIsr result bit ∧
      ((decoderMachine pc previous left result).shift decoderConfig bit).isrCount =
        result.bitIndex + 1 :=
    ⟨rfl, Nat.min_eq_right (show result.bitIndex + 1 ≤ 32 by omega)⟩
  have full : ((decoderMachine pc previous left result).shift decoderConfig
      ((decoderMachine pc previous left result).bitOf (inputs time) source)).full decoderConfig =
      decide (8 ≤ result.bitIndex + 1) := by
    rw [taken, ← shifted.2]
    rfl
  by_cases whole : result.bitIndex + 1 = 8
  · have stored : result.store bit =
        { bytes := result.bytes ++ [DecodedBytes.filled result bit], current := 0, bitIndex := 0 } :=
      if_pos whole
    have step := cycle_shiftIn_push rfl found (full.trans (decide_eq_true (by omega))) room
    rw [← here.machine] at step
    obtain ⟨moved, logged⟩ := running.step step
    rw [here.machine] at moved logged
    refine ⟨?_, ?_, (filling.store bit).1⟩
    · rw [moved, next, stored]
      unfold decoderMachine
      rw [isrOf_empty]
      rfl
    · have word : ∀ word, (Effect.pushing word).pushed.toList.map rxByte = [rxByte word] :=
        fun _ => rfl
      rw [logged, taken, stored, List.map_append, here.pushed, word, shifted.1,
        rxByte_shiftedIsr filling bit whole]
  · have stored : result.store bit =
        { result with current := DecodedBytes.filled result bit, bitIndex := result.bitIndex + 1 } :=
      if_neg whole
    have step := cycle_shiftIn rfl found (full.trans (decide_eq_false (by omega)))
    rw [← here.machine] at step
    obtain ⟨moved, logged⟩ := running.step step
    rw [here.machine] at moved
    refine ⟨?_, ?_, (filling.store bit).1⟩
    · have isr := isrOf_store filling bit whole
      rw [moved, taken, next]
      unfold decoderMachine
      rw [isr, stored]
      exact congrArg (fun isrCount => Machine.mk (pc + 1) _ _ (shiftedIsr result bit) isrCount _ 0 false)
        shifted.2
    · rw [logged, stored]
      exact (congrArg (List.map rxByte) (List.append_nil _)).trans here.pushed

/-- `jmp flip`. -/
theorem DecoderAt.jump (running : Running decoderConfig inputs machine pushed)
    (here : DecoderAt machine pushed time 6 previous left result) :
    DecoderAt machine pushed (time + 1) 14 previous left result :=
  here.hop running .quiet rfl (@cycle_jmp_taken _ _ _ 0 .always 14 rfl rfl rfl)

/-- `jmp y-- irq_wait`: there is always a one left to count. -/
theorem DecoderAt.count (running : Running decoderConfig inputs machine pushed)
    (here : DecoderAt machine pushed time pc previous (left + 1) result) (few : left < 6)
    (found : rxProgram[pc]? = some { op := .jmp .yPostDec 1, delay := 0 }) :
    DecoderAt machine pushed (time + 1) 1 previous left result := by
  refine here.hop running .quiet rfl ((@cycle_jmp_taken _ _ _ 0 .yPostDec 1 rfl found ?_).trans ?_)
  · show (BitVec.ofNat 32 (left + 1) != 0) = true
    interval_cases left <;> decide
  · have fewer : BitVec.ofNat 32 (left + 1) - 1 = BitVec.ofNat 32 left := by
      interval_cases left <;> decide
    exact congrArg (fun y => ({ decoderMachine 1 previous left result with y }, Effect.quiet)) fewer

/-- `mov x, ~x`, and around the wrap to `set y, 6`. -/
theorem DecoderAt.flip (running : Running decoderConfig inputs machine pushed)
    (here : DecoderAt machine pushed time 14 previous left result) :
    DecoderAt machine pushed (time + 1) 0 previous.flip left result ∧
      DecoderAt machine pushed (time + 2) 1 previous.flip 6 result := by
  have inverted : DecoderAt machine pushed (time + 1) 0 previous.flip left result := by
    refine here.hop running .quiet rfl
      ((@cycle_instr decoderConfig _ (decoderMachine 14 previous left result) ⟨.invertX, 0⟩ rfl
        rfl).trans ?_)
    exact congrArg (fun x => ({ decoderMachine 0 previous left result with x }, Effect.quiet))
      (not_levelWord previous)
  exact ⟨inverted, inverted.hop running .quiet rfl
    (@cycle_instr decoderConfig _ (decoderMachine 0 _ left result) ⟨.setY 6, 0⟩ rfl rfl)⟩

end Hops

/-! ### One sample -/

section Sample

variable {inputs : Nat → Inputs} {machine : Nat → Machine} {pushed : Nat → List Word} {time pc : Nat}
  {previous state : WireState} {left : Nat} {result : DecodedBytes} {decoder : NrziDecoder}

/-- The decoder waits for a sample flag, with the variables of the loop in its registers. -/
structure Waits (machine : Nat → Machine) (pushed : Nat → List Word) (time : Nat)
    (decoder : NrziDecoder) : Prop where
  here : DecoderAt machine pushed time 1 decoder.previous (6 - decoder.consecutiveOnes) decoder.result
  few : decoder.consecutiveOnes ≤ 6

/-- Working, not waiting, up to the next wait. -/
structure Takes (machine : Nat → Machine) (pushed : Nat → List Word) (time : Nat)
    (decoder : NrziDecoder) (cycles : Nat) : Prop where
  waits : Waits machine pushed (time + cycles) decoder
  works : ∀ cycle, cycle < cycles → (machine (time + cycle)).pc ≠ 1

theorem DecoderAt.works (here : DecoderAt machine pushed time pc previous left result) (elsewhere : pc ≠ 1) :
    (machine time).pc ≠ 1 := by
  rw [here.machine]
  exact elsewhere

/-- One cycle more of work before. -/
theorem Takes.after {cycles : Nat} (here : DecoderAt machine pushed time pc previous left result)
    (elsewhere : pc ≠ 1) (takes : Takes machine pushed (time + 1) decoder cycles) :
    Takes machine pushed time decoder (cycles + 1) := by
  refine ⟨?_, fun cycle inside => ?_⟩
  · have waits := takes.waits
    rwa [Nat.add_assoc, Nat.add_comm 1] at waits
  · cases cycle with
    | zero => exact here.works elsewhere
    | succ cycle =>
      have works := takes.works cycle (by omega)
      rwa [Nat.add_assoc, Nat.add_comm 1] at works

theorem Waits.takes (waits : Waits machine pushed time decoder) :
    Takes machine pushed time decoder 0 :=
  ⟨waits, fun cycle inside => absurd inside (Nat.not_lt_zero cycle)⟩

/-- The change of level, from `flip` on. -/
theorem takes_flip (running : Running decoderConfig inputs machine pushed)
    (here : DecoderAt machine pushed time 14 previous left result) :
    Takes machine pushed time { result, previous := previous.flip, consecutiveOnes := 0 } 2 := by
  obtain ⟨inverted, counted⟩ := here.flip running
  have waits : Waits machine pushed (time + 1 + 1)
      { result, previous := previous.flip, consecutiveOnes := 0 } := ⟨counted, Nat.zero_le 6⟩
  exact (waits.takes.after inverted (by decide)).after here (by decide)

/-- A one: the level has stayed. -/
theorem takes_one (running : Running decoderConfig inputs machine pushed) {source : Source}
    (here : DecoderAt machine pushed time pc previous (left + 1) result)
    (room : (inputs time).room = true) (few : left < 6)
    (shifts : rxProgram[pc]? = some { op := .shiftIn source, delay := 0 })
    (counts : rxProgram[pc + 1]? = some { op := .jmp .yPostDec 1, delay := 0 })
    (inside : 1 < pc ∧ pc < 14)
    (taken : (decoderMachine pc previous (left + 1) result).bitOf (inputs time) source = true) :
    Takes machine pushed time
      { result := result.store true, previous, consecutiveOnes := 6 - left } 2 := by
  have stored := here.shift running room shifts (by omega) true taken
  have waits : Waits machine pushed (time + 1 + 1)
      { result := result.store true, previous, consecutiveOnes := 6 - left } := by
    refine ⟨?_, Nat.sub_le 6 left⟩
    show DecoderAt machine pushed (time + 1 + 1) 1 previous (6 - (6 - left)) (result.store true)
    rw [show 6 - (6 - left) = left by omega]
    exact stored.count running few counts
  exact (waits.takes.after stored (by omega)).after here (by omega)

/-- The two addresses that a sample of a level leads to. -/
def choicePc : WireState → Nat
  | .J => 3
  | .K => 9

/-- **Six ones**: the sampled bit is dropped, and taken for a change. -/
theorem takes_stuffed (running : Running decoderConfig inputs machine pushed)
    (here : DecoderAt machine pushed time (choicePc state) previous 0 result) :
    Takes machine pushed time { result, previous := previous.flip, consecutiveOnes := 0 } 3 := by
  have flips : DecoderAt machine pushed (time + 1) 14 previous 0 result := by
    cases state <;> exact here.stuffed running rfl
  exact (takes_flip running flips).after here (by cases state <;> decide)

/-- **A bit**, when fewer than six ones came before it. -/
theorem takes_bit (running : Running decoderConfig inputs machine pushed)
    (room : ∀ time, (inputs time).room = true) (few : left < 6)
    (here : DecoderAt machine pushed time (choicePc state) previous (left + 1) result) :
    ∃ cycles ≤ 5, Takes machine pushed time
      { result := result.store (decide (state = previous))
        previous := state
        consecutiveOnes := if state = previous then 6 - left else 0 } (cycles + 1) := by
  cases state with
  | J =>
    have looks : DecoderAt machine pushed (time + 1) 4 previous (left + 1) result :=
      here.unstuffed running few rfl (by decide)
    cases previous with
    | J =>
      have chosen : DecoderAt machine pushed (time + 1 + 1) 7 .J (left + 1) result :=
        looks.level running rfl (by decide)
      have one := takes_one running chosen (room _) few rfl rfl (by decide)
        (show (BitVec.allOnes 32).getLsbD 0 = true by decide)
      exact ⟨3, by decide, (one.after looks (by decide)).after here (by decide)⟩
    | K =>
      have chosen : DecoderAt machine pushed (time + 1 + 1) 5 .K (left + 1) result :=
        looks.level running rfl (by decide)
      have stored := chosen.shift running (room _) rfl (by decide) false rfl
      have jumped := stored.jump running
      exact ⟨5, by decide, ((((takes_flip running jumped).after stored (by decide)).after chosen
        (by decide)).after looks (by decide)).after here (by decide)⟩
  | K =>
    have looks : DecoderAt machine pushed (time + 1) 10 previous (left + 1) result :=
      here.unstuffed running few rfl (by decide)
    cases previous with
    | J =>
      have chosen : DecoderAt machine pushed (time + 1 + 1) 13 .J (left + 1) result :=
        looks.level running rfl (by decide)
      have stored := chosen.shift running (room _) rfl (by decide) false rfl
      exact ⟨4, by decide, (((takes_flip running stored).after chosen (by decide)).after looks
        (by decide)).after here (by decide)⟩
    | K =>
      have chosen : DecoderAt machine pushed (time + 1 + 1) 11 .K (left + 1) result :=
        looks.level running rfl (by decide)
      have one := takes_one running chosen (room _) few rfl rfl (by decide)
        (show (BitVec.allOnes 32).getLsbD 0 = true by decide)
      exact ⟨3, by decide, (one.after looks (by decide)).after here (by decide)⟩

/-- **One sample flag** takes the decoder one state further: the flag is cleared, the data pin is
read in the next cycle, and within eight cycles the decoder waits again. -/
theorem sample_spec (running : Running decoderConfig inputs machine pushed)
    (room : ∀ time, (inputs time).room = true) (waits : Waits machine pushed time decoder)
    (raised : (inputs time).irqs 4 = true)
    (pin : (inputs (time + 1)).jumpPin = decide (state = .K)) :
    ∃ cycles, 0 < cycles ∧ cycles ≤ 7 ∧
      Takes machine pushed (time + 1) (receiveStep decoder state) cycles := by
  have passed := waits.here.pass running raised
  have looked : DecoderAt machine pushed (time + 2) (choicePc state) decoder.previous
      (6 - decoder.consecutiveOnes) decoder.result := by
    have := passed.look running
    rw [pin] at this
    cases state <;> exact this
  have few := waits.few
  unfold receiveStep
  by_cases stuffed : decoder.consecutiveOnes = 6
  · rw [if_pos stuffed]
    rw [show 6 - decoder.consecutiveOnes = 0 by omega] at looked passed
    exact ⟨4, by decide, by decide, (takes_stuffed running looked).after passed (by decide)⟩
  · obtain ⟨left, ones⟩ := Nat.exists_eq_succ_of_ne_zero
      (show 6 - decoder.consecutiveOnes ≠ 0 by omega)
    rw [ones] at looked passed
    obtain ⟨cycles, short, takes⟩ := takes_bit running room (by omega) looked
    rw [if_neg stuffed, show decoder.consecutiveOnes + 1 = 6 - left by omega]
    exact ⟨cycles + 2, by omega, by omega, takes.after passed (by decide)⟩

end Sample

end PioUsbHost.Pio
