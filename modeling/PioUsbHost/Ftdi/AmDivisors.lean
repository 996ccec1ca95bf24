/-
**The divisors of the FT232AM search.**

The chip has the fractions 0, 1/8, 1/4 and 1/2. The two adjustment tables round the truncated divisor
and its successor to such fractions, except that they leave 3/4 where it is.

* `triedEighths_of_ge`: the two candidates, by the residue of the truncated divisor.
* `isAmDivisor_iff_code`: the divisors of the chip are those whose code has no bit for wIndex.
* `usesAmDivisor_iff`: the search chooses a divisor that the chip has, but for the requests whose
  truncated divisor has residue 4 or 6 and whose nearer candidate is the one with the fraction 3/4.
-/

import PioUsbHost.Ftdi.Wire

namespace PioUsbHost.Ftdi

open PioUsbHost.Lib.Panic PioUsbHost.Lib.Nearest

/-! ### The candidates -/

/-- What the two tables make of a residue: the candidate, above the last multiple of eight. -/
def triedOffset (residue increment : Nat) : Nat :=
  ([[0, 1], [1, 2], [2, 4], [2, 4], [4, 6], [2, 4], [4, 6], [8, 10]].getD residue []).getD increment 0

theorem triedOffset_spec : ∀ residue < 8, ∀ increment ≤ 1,
    [0, 0, 0, 1, 0, 3, 2, 1].getD residue 0 ≤ residue ∧
      [0, 0, 0, 1, 0, 3, 2, 1].getD residue 0 ≤ 3 ∧
      residue - [0, 0, 0, 1, 0, 3, 2, 1].getD residue 0 + increment +
        [0, 0, 0, 1, 0, 1, 2, 3].getD
          ((residue - [0, 0, 0, 1, 0, 3, 2, 1].getD residue 0 + increment) % 8) 0 =
            triedOffset residue increment := by
  decide

/-- **The two candidates**, by the residue of the truncated divisor. -/
theorem triedEighths_of_ge {quotient increment : Nat} (least : 16 ≤ quotient)
    (atMostOne : increment ≤ 1) :
    triedEighths quotient increment =
      min (8 * (quotient / 8) + triedOffset (quotient % 8) increment) 0x1fff8 := by
  have spec := triedOffset_spec (quotient % 8) (Nat.mod_lt _ (by decide)) increment atMostOne
  rw [triedEighths, ← spec.2.2]
  generalize [0, 0, 0, 1, 0, 3, 2, 1].getD (quotient % 8) 0 = down at spec ⊢
  have residue : (quotient - down + increment) % 8 = (quotient % 8 - down + increment) % 8 := by
    omega
  rw [residue, if_neg (by omega), if_neg (by omega)]
  omega

theorem triedEighths_of_lt {quotient : Nat} (increment : Nat) (below : quotient < 16) :
    triedEighths quotient increment = 8 ∨ triedEighths quotient increment = 16 := by
  rw [triedEighths]
  split
  · exact .inl rfl
  · exact .inr (if_pos (by omega))

/-! ### The divisors of the chip -/

/-- A divisor of the FT232AM, in eighths. -/
def IsAmDivisor (eighths : Int) : Prop :=
  eighths = 8 ∨ 16 ≤ eighths ∧ eighths ≤ 0x1fff8 ∧ eighths % 8 ∈ [0, 1, 2, 4]

/-- **The divisors of the chip are those whose code has no bit for wIndex.** -/
theorem isAmDivisor_iff_code {eighths : Nat} (most : eighths ≤ 0x1fff8)
    (divisor : eighths = 8 ∨ 16 ≤ eighths) :
    IsAmDivisor eighths ↔ eighthsCode eighths < 65536 := by
  rcases divisor with rfl | least
  · exact ⟨fun _ => by decide, fun _ => .inl rfl⟩
  have codes : ∀ residue < 8, fractionCode.getD residue 0 < 4 ↔ residue ∈ [0, 1, 2, 4] := by decide
  have code := codes (eighths % 8) (Nat.mod_lt _ (by decide))
  rw [eighthsCode_of_le least, IsAmDivisor]
  simp only [List.mem_cons, List.not_mem_nil, or_false] at code ⊢
  omega

/-- The search keeps to the divisors of the chip: the candidate is one, its code fits wValue, and
wIndex is zero. -/
def UsesAmDivisor (baud : UInt32) : Prop :=
  (∃ search, amSearch baud = .ok search ∧ IsAmDivisor search.best) ∧
    (∃ rate encoded, clockBitsAm baud = .ok (rate, encoded) ∧ encoded < 65536) ∧
    ∀ usbIndex, ∃ divisor, convertBaudRate baud .ft232Am usbIndex = .ok (some divisor) ∧
      divisor.index = 0

/-- The candidate with the fraction 3/4 is tried, and is nearer than the one with 1/2. -/
def PrefersThreeQuarters (baud : Nat) : Prop :=
  16 ≤ 24000000 / baud ∧ 24000000 / baud < 0x1fff8 ∧
    (24000000 / baud % 8 = 4 ∨ 24000000 / baud % 8 = 6) ∧
    Nat.dist (rounded 24000000 (8 * (24000000 / baud / 8) + 6)) baud <
      Nat.dist (rounded 24000000 (8 * (24000000 / baud / 8) + 4)) baud

/-- One of the two candidates is chosen. -/
theorem amEighths_mem (baud : Nat) : ∃ increment ≤ 1,
    amEighths baud = triedEighths (24000000 / baud) increment := by
  rw [amEighths]
  split
  · exact ⟨1, by decide, rfl⟩
  · exact ⟨0, by decide, rfl⟩

/-- A candidate that the tables round to a fraction of the chip. -/
theorem isAmDivisor_tried {quotient increment : Nat} (atMostOne : increment ≤ 1)
    (other : quotient % 8 ≠ 4 ∧ quotient % 8 ≠ 6 ∨ quotient < 16 ∨ 0x1fff8 ≤ quotient) :
    IsAmDivisor (triedEighths quotient increment) := by
  rcases Nat.lt_or_ge quotient 16 with below | least
  · rcases triedEighths_of_lt increment below with eight | sixteen
    · rw [eight]
      exact .inl rfl
    · rw [sixteen]
      exact .inr (by decide)
  have offsets : ∀ residue < 8, residue ≠ 4 ∧ residue ≠ 6 → ∀ increment ≤ 1,
      triedOffset residue increment % 8 ∈ [0, 1, 2, 4] := by decide
  have offset := offsets (quotient % 8) (Nat.mod_lt _ (by decide))
  rw [triedEighths_of_ge least atMostOne, IsAmDivisor]
  simp only [List.mem_cons, List.not_mem_nil, or_false] at offset ⊢
  by_cases clamped : 0x1fff8 ≤ 8 * (quotient / 8) + triedOffset (quotient % 8) increment
  · omega
  · have fraction := offset (by omega) increment atMostOne
    omega

theorem isAmDivisor_amEighths_iff (baud : Nat) :
    IsAmDivisor (amEighths baud) ↔ ¬ PrefersThreeQuarters baud := by
  by_cases residue : 16 ≤ 24000000 / baud ∧ 24000000 / baud < 0x1fff8 ∧
      (24000000 / baud % 8 = 4 ∨ 24000000 / baud % 8 = 6)
  · have offsets : triedOffset (24000000 / baud % 8) 0 = 4 ∧
        triedOffset (24000000 / baud % 8) 1 = 6 := by
      rcases residue.2.2 with four | six
      · rw [four]
        decide
      · rw [six]
        decide
    have half : triedEighths (24000000 / baud) 0 = 8 * (24000000 / baud / 8) + 4 := by
      rw [triedEighths_of_ge residue.1 (by decide), offsets.1]
      omega
    have threeQuarters : triedEighths (24000000 / baud) 1 = 8 * (24000000 / baud / 8) + 6 := by
      rw [triedEighths_of_ge residue.1 (by decide), offsets.2]
      omega
    rw [amEighths, half, threeQuarters, PrefersThreeQuarters, IsAmDivisor]
    simp only [List.mem_cons, List.not_mem_nil, or_false]
    split
    next nearer =>
      simp only [residue, nearer, and_true, not_true, iff_false]
      omega
    next notNearer =>
      simp only [notNearer, and_false, not_false_eq_true, iff_true]
      omega
  · obtain ⟨increment, atMostOne, chosen⟩ := amEighths_mem baud
    have proper : IsAmDivisor (amEighths baud) := by
      rw [chosen]
      exact isAmDivisor_tried atMostOne (by omega)
    exact ⟨fun _ prefers => residue ⟨prefers.1, prefers.2.1, prefers.2.2.1⟩, fun _ => proper⟩

/-- **The search chooses a divisor that the chip has**, unless the fraction 3/4 is nearer. -/
theorem usesAmDivisor_iff (baud : UInt32) (positive : 1 ≤ baud.toNat)
    (small : baud.toNat < 2147483648) :
    UsesAmDivisor baud ↔ ¬ PrefersThreeQuarters baud.toNat := by
  have bounds := amEighths_bounds baud.toNat
  have code := isAmDivisor_iff_code bounds.1 bounds.2
  rw [← isAmDivisor_amEighths_iff]
  constructor
  · rintro ⟨⟨search, found, proper⟩, -⟩
    rw [amSearch_eq positive small, Except.ok.injEq] at found
    rw [← found] at proper
    exact proper
  · intro proper
    refine ⟨⟨_, amSearch_eq positive small, proper⟩,
      ⟨_, _, clockBitsAm_eq positive small, code.mp proper⟩, fun usbIndex => ?_⟩
    refine ⟨_, convertBaudRate_eq usbIndex positive fun _ => small, ?_⟩
    have encoded : clockCode (baseClock .ft232Am baud.toNat)
        (chosenEighths .ft232Am baud.toNat) = eighthsCode (amEighths baud.toNat) :=
      clockCode_of_3MHz _
    have none : eighthsCode (amEighths baud.toNat) >>> 16 = 0 := by
      rw [Nat.shiftRight_eq_div_pow]
      exact Nat.div_eq_of_lt (code.mp proper)
    change UInt16.ofNat (clockCode _ _ >>> 16) = 0
    rw [encoded, none]
    rfl

/-- A rate of 115200 is divided by 26 exactly. -/
theorem usesAmDivisor_115200 : UsesAmDivisor 115200 :=
  (usesAmDivisor_iff 115200 (by decide) (by decide)).mpr (by unfold PrefersThreeQuarters; decide)

/-- A rate of 1090909 is divided by 2 and 3/4, which the chip reads as 2. -/
theorem not_usesAmDivisor :
    ¬ ∀ baud : UInt32, 1 ≤ baud.toNat → baud.toNat < 2147483648 → UsesAmDivisor baud := by
  intro always
  obtain ⟨-, ⟨rate, encoded, bits, fits⟩, -⟩ := always 1090909 (by decide) (by decide)
  have chosen : clockBitsAm 1090909 = .ok (1090909, 0x18002) := by decide +kernel
  rw [chosen, Except.ok.injEq, Prod.mk.injEq] at bits
  rw [← bits.2] at fits
  exact absurd fits (by decide)

end PioUsbHost.Ftdi
