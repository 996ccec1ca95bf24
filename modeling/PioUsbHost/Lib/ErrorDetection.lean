/-
**What a reflected cyclic redundancy check detects.**

The register absorbs a message bit by bit, in the order the bits are sent. It is linear in the
message, so an error pattern goes undetected exactly when its own register from zero, its syndrome, is
zero (`register_errors_iff`). The syndrome is not zero

* for an odd number of flipped bits, when the polynomial's bits have odd parity
  (`syndrome_ne_zero_of_odd`);
* for flips within as many consecutive bits as the register has (`syndrome_ne_zero_of_burst`);
* for two flips closer to each other than the register's period (`syndrome_ne_zero_of_two`).

`register_range` says that absorbing the bits of a symbol is absorbing the symbol at once.
-/

import PioUsbHost.Lib.ReflectedCrc

namespace PioUsbHost.Lib.ErrorDetection

open PioUsbHost.Lib.ReflectedCrc

variable {width : Nat}

/-! ### The register, bit by bit -/

/-- A bit at the low end of the register. -/
def lowBit (bit : Bool) : BitVec width := if bit then .ofNat width 1 else .ofNat width 0

/-- One message bit. -/
def absorbBit (poly crc : BitVec width) (bit : Bool) : BitVec width :=
  shiftBit poly (crc ^^^ lowBit bit)

/-- The register after a message. -/
def register (poly crc : BitVec width) (bits : List Bool) : BitVec width :=
  bits.foldl (absorbBit poly) crc

/-- The register an error pattern leaves, from zero. -/
def syndrome (poly : BitVec width) (errors : List Bool) : BitVec width :=
  register poly (.ofNat width 0) errors

theorem register_cons (poly crc : BitVec width) (bit : Bool) (rest : List Bool) :
    register poly crc (bit :: rest) = register poly (absorbBit poly crc bit) rest := rfl

theorem register_append (poly crc : BitVec width) (first second : List Bool) :
    register poly crc (first ++ second) = register poly (register poly crc first) second :=
  List.foldl_append

theorem lowBit_xor (first second : Bool) :
    (lowBit (first ^^ second) : BitVec width) = lowBit first ^^^ lowBit second := by
  cases first <;> cases second <;> simp [lowBit]

/-- **The register is linear** in its start and the message. -/
theorem register_xor (poly first second : BitVec width) {bits errors : List Bool}
    (same : bits.length = errors.length) :
    register poly (first ^^^ second) (List.zipWith (fun bit flip => bit ^^ flip) bits errors) =
      register poly first bits ^^^ register poly second errors := by
  induction bits generalizing first second errors with
  | nil =>
    rw [List.eq_nil_of_length_eq_zero same.symm]
    rfl
  | cons bit rest ih =>
    cases errors with
    | nil => cases same
    | cons flip flips =>
      rw [List.zipWith_cons_cons, register_cons, register_cons, register_cons,
        ← ih _ _ (Nat.succ.inj same)]
      congr 1
      unfold absorbBit
      rw [← shiftBit_xor, lowBit_xor]
      congr 1
      ac_rfl

/-- **An error pattern goes undetected** exactly when its syndrome is zero. -/
theorem register_errors_iff (poly crc : BitVec width) {bits errors : List Bool}
    (same : bits.length = errors.length) :
    register poly crc (List.zipWith (fun bit flip => bit ^^ flip) bits errors) =
        register poly crc bits ↔ syndrome poly errors = .ofNat width 0 := by
  have linear := register_xor poly crc (.ofNat width 0) same
  rw [BitVec.xor_zero] at linear
  rw [linear, syndrome]
  constructor
  · intro equal
    have cancelled := congrArg (fun value => register poly crc bits ^^^ value) equal
    simpa [← BitVec.xor_assoc] using cancelled
  · intro zero
    rw [zero, BitVec.xor_zero]

theorem absorbBit_false (poly crc : BitVec width) : absorbBit poly crc false = shiftBit poly crc := by
  rw [absorbBit, lowBit, if_neg Bool.false_ne_true, BitVec.xor_zero]

/-- Zeros only shift the register. -/
theorem register_replicate_false (poly crc : BitVec width) (count : Nat) :
    register poly crc (List.replicate count false) = (shiftBit poly)^[count] crc := by
  induction count generalizing crc with
  | zero => rfl
  | succ count ih =>
    rw [List.replicate_succ, register_cons, ih, absorbBit_false, Function.iterate_succ_apply]

theorem shiftBit_zero (poly : BitVec width) : shiftBit poly (.ofNat width 0) = .ofNat width 0 := by
  unfold shiftBit
  rw [BitVec.getLsbD_zero, if_neg Bool.false_ne_true, BitVec.zero_ushiftRight]

theorem iterate_shiftBit_zero (poly : BitVec width) (count : Nat) :
    (shiftBit poly)^[count] (.ofNat width 0) = .ofNat width 0 :=
  Function.iterate_fixed (shiftBit_zero poly) count

/-- A shift drops the low bit of a value. -/
theorem shiftBit_xor_lowBit (poly value : BitVec width) :
    shiftBit poly (value ^^^ lowBit (value.getLsbD 0)) = value >>> 1 := by
  have gone : (lowBit (value.getLsbD 0) : BitVec width) >>> 1 = .ofNat width 0 := by
    apply BitVec.eq_of_getLsbD_eq
    intro index _
    cases low : value.getLsbD 0 <;> simp [lowBit, BitVec.getLsbD_ushiftRight]
  have clear : (value ^^^ lowBit (value.getLsbD 0)).getLsbD 0 = false := by
    cases low : value.getLsbD 0 with
    | false => rw [lowBit, if_neg Bool.false_ne_true, BitVec.xor_zero, low]
    | true =>
      have positive : 0 < width := by
        by_contra none
        rw [BitVec.getLsbD_of_ge _ _ (by omega)] at low
        cases low
      rw [lowBit, if_pos rfl, BitVec.getLsbD_xor, low, BitVec.getLsbD_one, decide_eq_true positive]
      rfl
  unfold shiftBit
  rw [clear, if_neg Bool.false_ne_true, BitVec.ushiftRight_xor_distrib, gone, BitVec.xor_zero]

/-- **Absorbing the bits of a symbol**, low bit first, is absorbing the symbol at once. -/
theorem register_range (poly crc : BitVec width) {count : Nat} {value : BitVec width}
    (small : value >>> count = .ofNat width 0) :
    register poly crc ((List.range count).map value.getLsbD) =
      (shiftBit poly)^[count] (crc ^^^ value) := by
  induction count generalizing crc value with
  | zero =>
    rw [BitVec.ushiftRight_zero] at small
    rw [small, BitVec.xor_zero]
    rfl
  | succ count ih =>
    have later : (List.range count).map (value.getLsbD ∘ Nat.succ) =
        (List.range count).map (value >>> 1).getLsbD := by
      refine List.map_congr_left fun index _ => ?_
      rw [Function.comp_apply, BitVec.getLsbD_ushiftRight, Nat.add_comm]
    rw [List.range_succ_eq_map, List.map_cons, List.map_map, later, register_cons,
      ih _ (by rw [← BitVec.shiftRight_add, Nat.add_comm]; exact small),
      Function.iterate_succ_apply]
    congr 1
    rw [← shiftBit_xor_lowBit poly value, absorbBit, ← shiftBit_xor]
    congr 1
    rw [show crc ^^^ lowBit (value.getLsbD 0) ^^^ (value ^^^ lowBit (value.getLsbD 0)) =
      crc ^^^ value ^^^ (lowBit (value.getLsbD 0) ^^^ lowBit (value.getLsbD 0)) by ac_rfl,
      BitVec.xor_self, BitVec.xor_zero]

/-! ### An odd number of flips -/

/-- The parity of the bits below a position. -/
def parityBelow (value : BitVec width) : Nat → Bool
  | 0 => false
  | count + 1 => parityBelow value count ^^ value.getLsbD count

/-- The parity of a register. -/
def parity (value : BitVec width) : Bool := parityBelow value width

theorem parityBelow_xor (first second : BitVec width) (count : Nat) :
    parityBelow (first ^^^ second) count =
      (parityBelow first count ^^ parityBelow second count) := by
  induction count with
  | zero => rfl
  | succ count ih =>
    rw [parityBelow, parityBelow, parityBelow, ih, BitVec.getLsbD_xor, Bool.xor_assoc,
      Bool.xor_assoc, Bool.xor_left_comm (parityBelow second count)]

theorem parityBelow_ushiftRight (value : BitVec width) (count : Nat) :
    (parityBelow (value >>> 1) count ^^ value.getLsbD 0) = parityBelow value (count + 1) := by
  induction count with
  | zero => rfl
  | succ count ih =>
    rw [parityBelow, parityBelow, ← ih, BitVec.getLsbD_ushiftRight, Nat.add_comm 1 count,
      Bool.xor_assoc, Bool.xor_assoc, Bool.xor_comm (value.getLsbD 0)]

theorem parityBelow_lowBit (bit : Bool) (count : Nat) :
    parityBelow (lowBit bit : BitVec (width + 1)) (count + 1) = bit := by
  cases bit with
  | false =>
    induction count with
    | zero => simp [parityBelow, lowBit]
    | succ count ih =>
      rw [parityBelow, ih]
      simp [lowBit]
  | true =>
    induction count with
    | zero => simp [parityBelow, lowBit]
    | succ count ih =>
      rw [parityBelow, ih]
      simp [lowBit]

/-- **A shift keeps the parity**, when the polynomial's own is odd. -/
theorem parity_shiftBit {poly : BitVec width} (odd : parity poly = true) (crc : BitVec width) :
    parity (shiftBit poly crc) = parity crc := by
  have shifted : parity (crc >>> 1) = (parity crc ^^ crc.getLsbD 0) := by
    have below := parityBelow_ushiftRight crc width
    rw [parityBelow, BitVec.getLsbD_of_ge _ _ (Nat.le_refl _), Bool.xor_false] at below
    rw [parity, parity, ← below, Bool.xor_assoc, Bool.xor_self, Bool.xor_false]
  unfold shiftBit
  cases low : crc.getLsbD 0 with
  | false => rw [if_neg Bool.false_ne_true, shifted, low, Bool.xor_false]
  | true =>
    rw [if_pos rfl, parity, parityBelow_xor, ← parity, ← parity, shifted, odd, low, Bool.xor_assoc,
      Bool.xor_self, Bool.xor_false]

/-- The register's parity is that of the message. -/
theorem parity_register {poly : BitVec (width + 1)} (odd : parity poly = true)
    (crc : BitVec (width + 1)) (bits : List Bool) :
    parity (register poly crc bits) = (parity crc ^^ decide (bits.count true % 2 = 1)) := by
  induction bits generalizing crc with
  | nil => exact (Bool.xor_false _).symm
  | cons bit rest ih =>
    have absorbed : parity (absorbBit poly crc bit) = (parity crc ^^ bit) := by
      rw [absorbBit, parity_shiftBit odd, parity, parityBelow_xor, parityBelow_lowBit]
      rfl
    rw [register_cons, ih, absorbed]
    cases bit with
    | false => rw [Bool.xor_false, List.count_cons_of_ne (by decide)]
    | true =>
      rw [List.count_cons_self, Bool.xor_assoc]
      congr 1
      by_cases even : rest.count true % 2 = 1
      · rw [decide_eq_true even, decide_eq_false (by omega)]
        rfl
      · rw [decide_eq_false even, decide_eq_true (by omega)]
        rfl

/-- **An odd number of flips** is detected. -/
theorem syndrome_ne_zero_of_odd {poly : BitVec (width + 1)} (odd : parity poly = true)
    {errors : List Bool} (flips : errors.count true % 2 = 1) :
    syndrome poly errors ≠ 0#(width + 1) := by
  intro zero
  have counted := parity_register odd 0#(width + 1) errors
  rw [← syndrome, zero, decide_eq_true flips] at counted
  cases both : parity 0#(width + 1) <;> rw [both] at counted <;> cases counted

/-! ### Flips within the width of the register -/

/-- Bits that fit in the register are those of a value. -/
theorem exists_value {bits : List Bool} (short : bits.length ≤ width) :
    ∃ value : BitVec width, bits = (List.range bits.length).map value.getLsbD ∧
      value >>> bits.length = .ofNat width 0 := by
  have read : ∀ index, ((BitVec.ofBoolListLE bits).setWidth width).getLsbD index =
      (decide (index < width) && bits.getD index false) := by
    intro index
    rw [BitVec.getLsbD_setWidth, BitVec.getLsbD_ofBoolListLE]
  refine ⟨(BitVec.ofBoolListLE bits).setWidth width, ?_, ?_⟩
  · apply List.ext_getElem
    · rw [List.length_map, List.length_range]
    · intro index inside _
      rw [List.getElem_map, List.getElem_range, read, decide_eq_true (by omega), Bool.true_and,
        List.getD_eq_getElem?_getD, List.getElem?_eq_getElem inside, Option.getD_some]
  · apply BitVec.eq_of_getLsbD_eq
    intro index _
    rw [BitVec.getLsbD_ushiftRight, read, BitVec.getLsbD_zero, List.getD_eq_getElem?_getD,
      List.getElem?_eq_none (by omega), Option.getD_none, Bool.and_false]

section Bursts

variable {poly : BitVec (width + 1)} (top : poly.getLsbD width = true)

include top

theorem iterate_shiftBit_ne_zero {crc : BitVec (width + 1)} (nonzero : crc ≠ 0#(width + 1))
    (count : Nat) : (shiftBit poly)^[count] crc ≠ 0#(width + 1) := by
  intro zero
  rw [← iterate_shiftBit_zero poly count] at zero
  exact nonzero ((shiftBit_injective top).iterate count zero)

/-- **A burst** no longer than the register is detected, wherever it stands. -/
theorem syndrome_ne_zero_of_burst {burst : List Bool} (short : burst.length ≤ width + 1)
    (flipped : true ∈ burst) (before after : Nat) :
    syndrome poly (List.replicate before false ++ burst ++ List.replicate after false) ≠
      0#(width + 1) := by
  obtain ⟨value, bits, small⟩ := exists_value short
  have nonzero : value ≠ 0#(width + 1) := by
    rintro rfl
    rw [bits] at flipped
    obtain ⟨index, -, set⟩ := List.mem_map.mp flipped
    rw [BitVec.getLsbD_zero] at set
    cases set
  unfold syndrome
  rw [register_append, register_append, register_replicate_false, register_replicate_false,
    iterate_shiftBit_zero, bits, register_range poly _ small, BitVec.zero_xor]
  exact iterate_shiftBit_ne_zero top (iterate_shiftBit_ne_zero top nonzero _) _

/-- **Two flips** are detected when the shifts from one to the other do not return to the register of
the first. -/
theorem syndrome_ne_zero_of_two {distance : Nat}
    (moves : (shiftBit poly)^[distance + 1] 1#(width + 1) ≠ 1#(width + 1)) (before after : Nat) :
    syndrome poly (List.replicate before false ++ true ::
      (List.replicate distance false ++ true :: List.replicate after false)) ≠ 0#(width + 1) := by
  unfold syndrome
  rw [register_append, register_replicate_false, iterate_shiftBit_zero, register_cons,
    register_append, register_replicate_false, register_cons, register_replicate_false]
  apply iterate_shiftBit_ne_zero top
  intro zero
  rw [absorbBit, absorbBit, lowBit, if_pos rfl, BitVec.zero_xor, ← Function.iterate_succ_apply,
    ← shiftBit_zero poly] at zero
  have same := shiftBit_injective top zero
  exact moves (BitVec.xor_eq_zero_iff.mp same)

end Bursts

/-- The register does not meet `target` for `count` shifts. -/
def avoids (poly target : BitVec width) : Nat → BitVec width → Bool
  | 0, _ => true
  | count + 1, crc => crc != target && avoids poly target count (shiftBit poly crc)

theorem iterate_ne_of_avoids {poly target : BitVec width} {count : Nat} {crc : BitVec width}
    (avoided : avoids poly target count crc = true) {steps : Nat} (inside : steps < count) :
    (shiftBit poly)^[steps] crc ≠ target := by
  induction count generalizing crc steps with
  | zero => omega
  | succ count ih =>
    rw [avoids, Bool.and_eq_true, bne_iff_ne] at avoided
    cases steps with
    | zero => exact avoided.1
    | succ steps => exact ih avoided.2 (by omega)

/-! ### Error patterns, by their flips -/

theorem eq_replicate_of_count {errors : List Bool} (none : errors.count true = 0) :
    errors = List.replicate errors.length false := by
  rw [List.eq_replicate_iff]
  refine ⟨rfl, ?_⟩
  intro bit member
  cases bit with
  | false => rfl
  | true => exact absurd member (List.count_eq_zero.mp none)

/-- A pattern with a flip, up to the first one. -/
theorem exists_first_flip {errors : List Bool} {flips : Nat}
    (some : errors.count true = flips + 1) :
    ∃ before rest, errors = List.replicate before false ++ true :: rest ∧
      rest.count true = flips := by
  induction errors with
  | nil => cases some
  | cons bit rest ih =>
    cases bit with
    | true =>
      rw [List.count_cons_self] at some
      exact ⟨0, rest, rfl, by omega⟩
    | false =>
      rw [List.count_cons_of_ne (by decide)] at some
      obtain ⟨before, later, rfl, counted⟩ := ih some
      exact ⟨before + 1, later, by rw [List.replicate_succ, List.cons_append], counted⟩

/-- A pattern with two flips. -/
theorem exists_two_flips {errors : List Bool} (two : errors.count true = 2) :
    ∃ before distance after, errors = List.replicate before false ++ true ::
      (List.replicate distance false ++ true :: List.replicate after false) := by
  obtain ⟨before, rest, rfl, one⟩ := exists_first_flip two
  obtain ⟨distance, last, rfl, none⟩ := exists_first_flip one
  exact ⟨before, distance, last.length, by rw [← eq_replicate_of_count none]⟩

/-- A pattern whose flips lie within a window. -/
theorem exists_burst {errors : List Bool} {start size : Nat}
    (within : ∀ position, errors[position]? = some true → start ≤ position ∧ position < start + size) :
    ∃ before after burst, errors = List.replicate before false ++ burst ++ List.replicate after false ∧
      burst.length ≤ size := by
  have early : (errors.take start).count true = 0 := by
    rw [List.count_eq_zero]
    intro member
    obtain ⟨position, inside, flipped⟩ := List.mem_iff_getElem.mp member
    rw [List.length_take] at inside
    have read := within position (by
      rw [List.getElem_take] at flipped
      rw [List.getElem?_eq_getElem (by omega), flipped])
    omega
  have late : ((errors.drop start).drop size).count true = 0 := by
    rw [List.count_eq_zero]
    intro member
    obtain ⟨position, inside, flipped⟩ := List.mem_iff_getElem.mp member
    rw [List.length_drop, List.length_drop] at inside
    have read := within (start + (size + position)) (by
      rw [List.getElem_drop, List.getElem_drop] at flipped
      rw [List.getElem?_eq_getElem (by omega), flipped])
    omega
  refine ⟨(errors.take start).length, ((errors.drop start).drop size).length,
    (errors.drop start).take size, ?_, List.length_take_le _ _⟩
  rw [← eq_replicate_of_count early, ← eq_replicate_of_count late, List.append_assoc,
    List.take_append_drop, List.take_append_drop]

end PioUsbHost.Lib.ErrorDetection
