/-
**Reflected cyclic redundancy checks of any width.**

One shift of a reflected CRC register, low bit first, is a linear map on bit vectors
(`shiftBit_xor`), injective when the polynomial's top bit is set (`shiftBit_injective`). Two
consequences carry every implementation argument about such a CRC:

* `iterate_shiftBit_split`: the shifts of a register are those of its low bits and the rest of it
  moved down, which is why a table indexed by the low bits suffices;
* `iterate_shiftBit_absorb`: absorbing a low symbol, then a high one, is absorbing both at once;
* `residue_iff`: feeding the register's own value, inverted by a constant, leaves a constant residue,
  and nothing else does.
-/

import Mathlib.Data.BitVec
import Mathlib.Logic.Function.Iterate

namespace PioUsbHost.Lib.ReflectedCrc

variable {width : Nat}

/-- One shift of the register under a reflected polynomial. -/
def shiftBit (poly crc : BitVec width) : BitVec width :=
  if crc.getLsbD 0 then (crc >>> 1) ^^^ poly else crc >>> 1

/-! ### Linearity -/

/-- **A shift is linear.** -/
theorem shiftBit_xor (poly first second : BitVec width) :
    shiftBit poly (first ^^^ second) = shiftBit poly first ^^^ shiftBit poly second := by
  unfold shiftBit
  simp only [BitVec.getLsbD_xor, BitVec.ushiftRight_xor_distrib]
  cases first.getLsbD 0 <;> cases second.getLsbD 0 <;> simp only [Bool.xor_self, Bool.false_xor,
    Bool.true_xor, Bool.not_false, Bool.false_eq_true, if_true, if_false]
  · exact (BitVec.xor_assoc _ _ _)
  · rw [BitVec.xor_assoc, BitVec.xor_comm (second >>> 1), ← BitVec.xor_assoc]
  · rw [BitVec.xor_assoc, BitVec.xor_comm (second >>> 1) poly, ← BitVec.xor_assoc poly poly,
      BitVec.xor_self, BitVec.zero_xor]

theorem iterate_shiftBit_xor (poly : BitVec width) (steps : Nat) (first second : BitVec width) :
    (shiftBit poly)^[steps] (first ^^^ second) =
      (shiftBit poly)^[steps] first ^^^ (shiftBit poly)^[steps] second := by
  induction steps generalizing first second with
  | zero => rfl
  | succ steps ih => rw [Function.iterate_succ_apply, shiftBit_xor, ih]; rfl

/-! ### A register whose low bits are clear only moves down -/

theorem iterate_shiftBit_of_clear (poly : BitVec width) {steps : Nat} {crc : BitVec width}
    (clear : ∀ i < steps, crc.getLsbD i = false) : (shiftBit poly)^[steps] crc = crc >>> steps := by
  induction steps with
  | zero => simp
  | succ steps ih =>
    rw [Function.iterate_succ_apply', ih fun i small => clear i (by omega)]
    have low : (crc >>> steps).getLsbD 0 = false := by simpa using clear steps (by omega)
    rw [shiftBit, low, if_neg Bool.false_ne_true, BitVec.shiftRight_add]

/-- **The table argument**: the shifts of a register are those of its low bits, and the rest of it
moved down. -/
theorem iterate_shiftBit_split (poly : BitVec width) (steps : Nat) (crc low : BitVec width)
    (agrees : ∀ i < steps, low.getLsbD i = crc.getLsbD i) (small : low >>> steps = BitVec.ofNat width 0) :
    (shiftBit poly)^[steps] crc = (crc >>> steps) ^^^ (shiftBit poly)^[steps] low := by
  have parts : crc = (crc ^^^ low) ^^^ low := by
    rw [BitVec.xor_assoc, BitVec.xor_self, BitVec.xor_zero]
  have clear : ∀ i < steps, (crc ^^^ low).getLsbD i = false := by
    intro i inside
    rw [BitVec.getLsbD_xor, agrees i inside, Bool.xor_self]
  calc (shiftBit poly)^[steps] crc = (shiftBit poly)^[steps] ((crc ^^^ low) ^^^ low) := by
        rw [← parts]
    _ = ((crc ^^^ low) >>> steps) ^^^ (shiftBit poly)^[steps] low := by
        rw [iterate_shiftBit_xor, iterate_shiftBit_of_clear poly clear]
    _ = (crc >>> steps) ^^^ (shiftBit poly)^[steps] low := by
        rw [BitVec.ushiftRight_xor_distrib, small, BitVec.xor_zero]

/-- **Two symbols at once**: `high`, absorbed after `steps` shifts, is absorbed `steps` places up
before them. -/
theorem iterate_shiftBit_absorb (poly : BitVec width) (steps more : Nat)
    (crc high : BitVec width) (fits : (high <<< steps) >>> steps = high) :
    (shiftBit poly)^[more] ((shiftBit poly)^[steps] crc ^^^ high) =
      (shiftBit poly)^[steps + more] (crc ^^^ (high <<< steps)) := by
  have clear : ∀ i < steps, (high <<< steps).getLsbD i = false := by
    intro i inside
    rw [BitVec.getLsbD_shiftLeft]
    simp [inside]
  have moved : (shiftBit poly)^[steps] (high <<< steps) = high := by
    rw [iterate_shiftBit_of_clear poly clear, fits]
  rw [Nat.add_comm, Function.iterate_add_apply, iterate_shiftBit_xor poly steps, moved]

/-! ### Injectivity and the residue -/

/-- The top bit of a shifted register is the bit that left it. -/
theorem getLsbD_top_shiftBit {poly : BitVec (width + 1)} (top : poly.getLsbD width = true)
    (crc : BitVec (width + 1)) : (shiftBit poly crc).getLsbD width = crc.getLsbD 0 := by
  have gone : (crc >>> 1).getLsbD width = false := by
    rw [BitVec.getLsbD_ushiftRight]
    exact BitVec.getLsbD_of_ge _ _ (by omega)
  unfold shiftBit
  cases low : crc.getLsbD 0
  · rw [if_neg Bool.false_ne_true, gone]
  · rw [if_pos rfl, BitVec.getLsbD_xor, gone, top, Bool.false_xor]

/-- **A shift is injective** when the polynomial's top bit is set. -/
theorem shiftBit_injective {poly : BitVec (width + 1)} (top : poly.getLsbD width = true) :
    Function.Injective (shiftBit poly) := by
  intro first second same
  have low : first.getLsbD 0 = second.getLsbD 0 := by
    rw [← getLsbD_top_shiftBit top, ← getLsbD_top_shiftBit top, same]
  have shifted : first >>> 1 = second >>> 1 := by
    unfold shiftBit at same
    rw [low] at same
    split at same
    · rwa [BitVec.xor_left_inj] at same
    · exact same
  apply BitVec.eq_of_getLsbD_eq
  intro i inside
  cases i with
  | zero => exact low
  | succ i =>
    have bits := congrArg (fun value => value.getLsbD i) shifted
    simpa [BitVec.getLsbD_ushiftRight, Nat.add_comm] using bits

/-- **The residue**: from the register `crc`, feeding `trailer` over `steps` shifts ends in the image
of `inversion` exactly when `trailer` is `crc` inverted. -/
theorem residue_iff {poly : BitVec (width + 1)} (top : poly.getLsbD width = true) (steps : Nat)
    (crc trailer inversion : BitVec (width + 1)) :
    (shiftBit poly)^[steps] (crc ^^^ trailer) = (shiftBit poly)^[steps] inversion ↔
      crc ^^^ inversion = trailer := by
  have injective := (shiftBit_injective top).iterate steps
  constructor
  · intro same
    rw [← injective same, ← BitVec.xor_assoc, BitVec.xor_self, BitVec.zero_xor]
  · rintro rfl
    rw [← BitVec.xor_assoc, BitVec.xor_self, BitVec.zero_xor]

end PioUsbHost.Lib.ReflectedCrc
