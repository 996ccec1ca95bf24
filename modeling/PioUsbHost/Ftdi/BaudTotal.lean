/-
**The baud arithmetic, on every word.**

The unsigned search neither overflows nor divides by zero. The search of the FT232AM does so only on
requests that `baud as i32` turns negative. A request is rejected although a rate of the chip is within
5 percent where the search takes a divisor that is too far from the nearest one.

* `dist_tolerance_iff`: the 5 percent test, as an interval.
* `near_rounded`: the nearest divisor, from 2 on, has a rate within 5 percent.
* `am_accepts_iff`: when one of the two divisors of the FT232AM search has a rate within 5 percent.
* `misses_iff`: the requests that are rejected although a rate is within 5 percent.
* `baudTotal_iff`: exactly when the arithmetic does what it should.
-/

import PioUsbHost.Ftdi.ClosestRate
import Mathlib.Tactic.IntervalCases

namespace PioUsbHost.Ftdi

open PioUsbHost.Lib.Panic PioUsbHost.Lib.Nearest

/-- A rate of the chip is within 5 percent of the request. -/
def Achievable (chip : FtdiChip) (baud : Nat) : Prop :=
  ∃ rate, IsRate chip rate ∧ 20 * Nat.dist rate baud ≤ baud

/-- **The arithmetic does what it should**: no operation panics, the conversion to `i32` keeps the
requested rate, and the request is turned down exactly when it is zero or not achievable. -/
structure BaudTotal (chip : FtdiChip) (baud : UInt32) (usbIndex : UInt16) : Prop where
  safeConvert : Safe (convertBaudRate baud chip usbIndex)
  safeCheck : Safe (baudDivisor baud chip usbIndex)
  keepsSign : chip = .ft232Am → baud ≠ 0 → baud.toInt32.toInt = baud.toNat
  noneIff : convertBaudRate baud chip usbIndex = .ok none ↔ baud = 0
  rejectsIff : (∀ divisor, baudDivisor baud chip usbIndex ≠ .ok divisor) ↔
    baud = 0 ∨ ¬ Achievable chip baud.toNat

/-- The ranges of requests that are rejected although a rate of the chip is within 5 percent. -/
def missedRanges (chip : FtdiChip) : List (Nat × Nat) :=
  if chip = .ft232Am then
    [(631579, 634920), (800001, 816326), (1090910, 1142857), (1263158, 1269840), (1904762, 2105263)]
  else if chip.isHType then [(7619048, 7999999), (11428572, 11999999)]
  else [(1904762, 1999999), (2857143, 2999999)]

/-- The rate lies in one of the ranges that the chip misses. -/
def Missed (chip : FtdiChip) (baud : Nat) : Prop :=
  ∃ range ∈ missedRanges chip, range.1 ≤ baud ∧ baud ≤ range.2

/-! ### Within 5 percent -/

/-- The test, as an interval. -/
theorem dist_tolerance_iff {rate baud : Nat} :
    20 * Nat.dist rate baud ≤ baud ↔ 20 * rate ≤ 21 * baud ∧ 19 * baud ≤ 20 * rate := by
  unfold Nat.dist
  omega

/-- **The nearest divisor**, from 2 on, has a rate within 5 percent. -/
theorem near_rounded {numerator baud : Nat} (least : 184 ≤ baud) (slow : 16 * baud ≤ numerator) :
    20 * Nat.dist (rounded numerator (rounded numerator baud)) baud ≤ baud := by
  have divisor := rounded_spec numerator (show 0 < baud by omega)
  have large : 16 ≤ rounded numerator baud := le_rounded_of_mul_le (by omega) slow
  generalize rounded numerator baud = best at divisor large ⊢
  have rate := rounded_spec numerator (show 0 < best by omega)
  generalize rounded numerator best = actual at rate ⊢
  by_contra far
  have sixteenfold := Nat.mul_le_mul_right baud large
  have manyfold := Nat.mul_le_mul_left best least
  have scaled : best * (baud + 1) ≤ best * (20 * Nat.dist actual baud) :=
    Nat.mul_le_mul_left best (Nat.not_le.mp far)
  rw [Nat.mul_add_one, Nat.mul_left_comm] at scaled
  rcases Nat.le_total actual baud with lower | higher
  · have distance : best * baud = actual * best + best * Nat.dist actual baud := by
      rw [Nat.dist_eq_sub_of_le lower, Nat.mul_comm actual, ← Nat.mul_add, Nat.add_sub_cancel' lower]
    omega
  · have distance : actual * best = best * baud + best * Nat.dist actual baud := by
      rw [Nat.dist_eq_sub_of_le_right higher, Nat.mul_comm actual, ← Nat.mul_add,
        Nat.add_sub_cancel' higher]
    omega

/-! ### The unsigned search -/

theorem baseClock_mem (chip : FtdiChip) (baud : Nat) : baseClock chip baud ∈ chip.clocks := by
  rw [baseClock, FtdiChip.clocks]
  rcases Bool.eq_false_or_eq_true chip.isHType with hType | plain
  · rw [if_pos hType]
    split
    · exact List.mem_cons_of_mem _ List.mem_cons_self
    · exact List.mem_cons_self
  · rw [plain]
    exact List.mem_cons_self

/-- The rate that a conversion reports is a rate of the chip. -/
theorem isRate_actualRate (chip : FtdiChip) {baud : Nat} (positive : 0 < baud) :
    IsRate chip (actualRate chip baud) := by
  have divisor := chosenEighths_bounds chip positive
  refine ⟨baseClock chip baud, baseClock_mem chip baud, chosenEighths chip baud, ?_, rfl⟩
  unfold IsDivisor
  omega

/-- **The search for a base clock** rejects what is achievable below the rates of the divisors 1.5 and 1,
and nowhere else. -/
theorem misses_clockEighths_iff {sixth baud : Nat} {Member : Nat → Prop}
    (rates : Rates (6 * sixth) Member) (least : 184 ≤ baud)
    (above : 8 * (6 * sixth) / baud < 0x1ffff) :
    (∃ rate, Member rate ∧ 20 * Nat.dist rate baud ≤ baud) ∧
        baud < 20 * Nat.dist (rounded (8 * (6 * sixth)) (clockEighths (6 * sixth) baud)) baud ↔
      80 * sixth ≤ 21 * baud ∧ baud < 4 * sixth ∨ 120 * sixth ≤ 21 * baud ∧ baud < 6 * sixth := by
  obtain ⟨one, oneAndHalf, two⟩ := rounded_special sixth
  obtain ⟨greatest, upperPair, lowerPair⟩ := rates.special
  simp only [← Nat.not_le, dist_tolerance_iff]
  rw [clockEighths]
  split
  next fast =>
    rw [one]
    constructor
    · rintro ⟨⟨rate, member, near⟩, far⟩
      have := greatest rate member
      omega
    · omega
  next slower =>
  split
  next fast =>
    rw [oneAndHalf]
    constructor
    · rintro ⟨⟨rate, member, near⟩, far⟩
      have outside := upperPair.gap rate member
      omega
    · intro below
      exact ⟨⟨6 * sixth, upperPair.above_mem, by omega⟩, by omega⟩
  next slower =>
  split
  next fast =>
    rw [two]
    constructor
    · rintro ⟨⟨rate, member, near⟩, far⟩
      have outside := lowerPair.gap rate member
      omega
    · intro below
      exact ⟨⟨4 * sixth, lowerPair.above_mem, by omega⟩, by omega⟩
  next slow =>
    have near := near_rounded least (show 16 * baud ≤ 8 * (6 * sixth) by omega)
    have divisor : rounded (8 * (6 * sixth)) baud ≤ 0x1ffff := by
      rw [rounded_eq_div_add (by omega)]
      split
      · omega
      · omega
    rw [dist_tolerance_iff] at near
    rw [Nat.min_eq_left divisor]
    constructor
    · rintro ⟨-, far⟩
      exact absurd near far
    · omega

/-- A nearest rate is rejected only where no rate is within 5 percent. -/
theorem not_misses_of_nearest {chip : FtdiChip} {baud : Nat}
    (nearest : IsNearest (IsRate chip) baud (actualRate chip baud)) :
    ¬ (Achievable chip baud ∧ baud < 20 * Nat.dist (actualRate chip baud) baud) := by
  rintro ⟨⟨rate, member, near⟩, far⟩
  have farther := nearest rate member
  omega

theorem missed_iff_of_hType {chip : FtdiChip} {baud : Nat} (hType : chip.isHType = true) :
    Missed chip baud ↔ 160000000 ≤ 21 * baud ∧ baud < 8000000 ∨
      240000000 ≤ 21 * baud ∧ baud < 12000000 := by
  have other : chip ≠ .ft232Am := by
    rintro rfl
    cases hType
  simp only [Missed, missedRanges, if_neg other, if_pos hType, List.mem_cons, List.not_mem_nil,
    or_false, exists_eq_or_imp, exists_eq_left]
  omega

theorem missed_iff_of_plain {chip : FtdiChip} {baud : Nat} (other : chip ≠ .ft232Am)
    (plain : ¬ chip.isHType = true) :
    Missed chip baud ↔ 40000000 ≤ 21 * baud ∧ baud < 2000000 ∨
      60000000 ≤ 21 * baud ∧ baud < 3000000 := by
  simp only [Missed, missedRanges, if_neg other, if_neg plain, List.mem_cons, List.not_mem_nil,
    or_false, exists_eq_or_imp, exists_eq_left]
  omega

/-- The unsigned search rejects what is achievable in two ranges only. -/
theorem misses_of_other {chip : FtdiChip} {baud : Nat} (other : chip ≠ .ft232Am)
    (positive : 0 < baud) :
    Achievable chip baud ∧ baud < 20 * Nat.dist (actualRate chip baud) baud ↔ Missed chip baud := by
  rcases Nat.lt_or_ge 732 baud with high | low
  · rw [actualRate, chosenEighths, if_neg other, baseClock]
    by_cases hType : chip.isHType = true
    · have above : 8 * (6 * 2000000) / baud < 0x1ffff := by
        rw [Nat.div_lt_iff_lt_mul positive]
        omega
      have misses := misses_clockEighths_iff (rates_of_hType hType) (by omega) above
      simp only [Nat.reduceMul] at misses
      rw [if_pos ⟨hType, high⟩, missed_iff_of_hType hType]
      exact misses
    · have above : 8 * (6 * 500000) / baud < 0x1ffff := by
        rw [Nat.div_lt_iff_lt_mul positive]
        omega
      have misses := misses_clockEighths_iff (rates_of_plain (Bool.eq_false_iff.mpr hType))
        (by omega) above
      simp only [Nat.reduceMul] at misses
      rw [if_neg fun fast => hType fast.1, missed_iff_of_plain other hType]
      exact misses
  · have base : baseClock chip baud = 3000000 := by
      rw [baseClock, if_neg (by omega)]
    have finds : FindsNearest (baseClock chip baud) baud := by
      rw [base]
      rcases Nat.lt_or_ge 183 baud with least | lowest
      · exact findsNearest_of_low low least
      · exact findsNearest_of_lowest positive lowest
    refine iff_of_false (not_misses_of_nearest ((isNearest_actualRate_iff other positive).mpr finds)) ?_
    by_cases hType : chip.isHType = true
    · rw [missed_iff_of_hType hType]
      omega
    · rw [missed_iff_of_plain other hType]
      omega

/-! ### The search of the FT232AM -/

/-- A divisor next to the truncated one, which is large, has a rate within 5 percent. -/
theorem near_quotient {baud eighths : Nat} (least : 184 ≤ baud) (large : 48 ≤ 24000000 / baud)
    (near : 24000000 / baud ≤ eighths + 1 ∧ eighths ≤ 24000000 / baud + 1) :
    20 * Nat.dist (rounded 24000000 eighths) baud ≤ baud := by
  have parts := Nat.div_add_mod 24000000 baud
  have rest := Nat.mod_lt 24000000 (show 0 < baud by omega)
  generalize 24000000 / baud = quotient at large near parts
  have rate := rounded_spec 24000000 (show 0 < eighths by omega)
  generalize rounded 24000000 eighths = actual at rate ⊢
  have fromAbove := Nat.mul_le_mul_left baud near.1
  have fromBelow := Nat.mul_le_mul_left baud near.2
  rw [Nat.mul_add_one] at fromAbove fromBelow
  by_contra far
  have scaled : eighths * (baud + 1) ≤ eighths * (20 * Nat.dist actual baud) :=
    Nat.mul_le_mul_left eighths (Nat.not_le.mp far)
  have manyfold := Nat.mul_le_mul_right baud (show 47 ≤ eighths by omega)
  have more := Nat.mul_le_mul_left eighths least
  rw [Nat.mul_add_one, Nat.mul_left_comm, Nat.mul_comm eighths baud] at scaled
  rw [Nat.mul_comm eighths baud] at manyfold more
  rcases Nat.le_total actual baud with lower | higher
  · have distance : baud * eighths = actual * eighths + eighths * Nat.dist actual baud := by
      rw [Nat.dist_eq_sub_of_le lower, Nat.mul_comm actual, ← Nat.mul_add, Nat.add_sub_cancel' lower,
        Nat.mul_comm]
    omega
  · have distance : actual * eighths = baud * eighths + eighths * Nat.dist actual baud := by
      rw [Nat.dist_eq_sub_of_le_right higher, Nat.mul_comm baud, ← Nat.mul_add,
        Nat.add_sub_cancel' higher, Nat.mul_comm]
    omega

/-- One of the two offsets leads next to the truncated divisor. -/
theorem triedOffset_near : ∀ residue < 8, ∃ increment ≤ 1,
    residue ≤ triedOffset residue increment + 1 ∧ triedOffset residue increment ≤ residue + 1 := by
  decide

/-- From the divisor 6 on, one of the two candidates has a rate within 5 percent. -/
theorem am_accepts_of_large {baud : Nat} (least : 184 ≤ baud) (large : 48 ≤ 24000000 / baud) :
    20 * Nat.dist (rounded 24000000 (amEighths baud)) baud ≤ baud := by
  have most : 24000000 / baud < 130435 := (Nat.div_lt_iff_lt_mul (by omega)).mpr (by omega)
  obtain ⟨increment, atMostOne, near⟩ := triedOffset_near (24000000 / baud % 8) (Nat.mod_lt _ (by decide))
  have offset := triedOffset_le (24000000 / baud % 8) (Nat.mod_lt _ (by decide)) increment atMostOne
  have accepted : Nat.dist (rounded 24000000 (amEighths baud)) baud ≤ baud / 20 := by
    rw [dist_amEighths_le_iff]
    refine ⟨increment, atMostOne, ?_⟩
    rw [Nat.le_div_iff_mul_le (by decide), Nat.mul_comm]
    refine near_quotient least large ?_
    rw [triedEighths_of_ge (by omega) atMostOne]
    omega
  omega

theorem missed_iff_ft232Am {baud : Nat} : Missed .ft232Am baud ↔
    631579 ≤ baud ∧ baud ≤ 634920 ∨ 800001 ≤ baud ∧ baud ≤ 816326 ∨
      1090910 ≤ baud ∧ baud ≤ 1142857 ∨ 1263158 ≤ baud ∧ baud ≤ 1269840 ∨
      1904762 ≤ baud ∧ baud ≤ 2105263 := by
  simp only [Missed, missedRanges, if_pos, List.mem_cons, List.not_mem_nil, or_false,
    exists_eq_or_imp, exists_eq_left]

/-- The acceptance of the nearer candidate, as two intervals. -/
theorem am_accepts_iff {baud : Nat} :
    20 * Nat.dist (rounded 24000000 (amEighths baud)) baud ≤ baud ↔
      ∃ increment ≤ 1,
        20 * rounded 24000000 (triedEighths (24000000 / baud) increment) ≤ 21 * baud ∧
          19 * baud ≤ 20 * rounded 24000000 (triedEighths (24000000 / baud) increment) := by
  have twentieth : ∀ distance, 20 * distance ≤ baud ↔ distance ≤ baud / 20 := by omega
  simp only [← dist_tolerance_iff, twentieth]
  exact dist_amEighths_le_iff

/-- The condition on a request whose truncated divisor is between 2 and 6. -/
theorem am_accepts_of_small {baud : Nat} (slow : baud ≤ 1500000) (small : 24000000 / baud < 48)
    (positive : 0 < baud) :
    20 * Nat.dist (rounded 24000000 (amEighths baud)) baud ≤ baud ↔ ¬ Missed .ft232Am baud := by
  have parts := Nat.div_add_mod 24000000 baud
  have rest := Nat.mod_lt 24000000 positive
  have least : 16 ≤ 24000000 / baud := (Nat.le_div_iff_mul_le positive).mpr (by omega)
  rw [am_accepts_iff, missed_iff_ft232Am]
  simp only [Nat.le_one_iff_eq_zero_or_eq_one, exists_eq_or_imp, exists_eq_left]
  generalize 24000000 / baud = quotient at small least parts ⊢
  generalize 24000000 % baud = remainder at parts rest
  -- For each divisor both candidates have fixed rates, and the requests lie between two bounds.
  interval_cases quotient
  all_goals
    simp [triedEighths, rounded]
    omega

/-- Below half the clock, some rate of the FT232AM is within 5 percent. -/
theorem achievable_of_slow {baud : Nat} (least : 184 ≤ baud) (slow : baud ≤ 1500000) :
    Achievable .ft232Am baud := by
  have divisor : IsDivisor (rounded 24000000 baud) :=
    .inr (.inr ⟨le_rounded_of_mul_le (by omega) (by omega), rounded_le_of_le_mul (by omega) (by omega)⟩)
  exact ⟨_, amRates.mem divisor, near_rounded least (by omega)⟩

/-- The search of the FT232AM rejects what is achievable in five ranges only. -/
theorem misses_of_ft232Am {baud : Nat} (positive : 0 < baud) :
    Achievable .ft232Am baud ∧ baud < 20 * Nat.dist (actualRate .ft232Am baud) baud ↔
      Missed .ft232Am baud := by
  obtain ⟨greatest, upperPair, lowerPair⟩ := amRates_special
  have notMissed : AmFindsNearest baud → ¬ (Achievable .ft232Am baud ∧
      baud < 20 * Nat.dist (actualRate .ft232Am baud) baud) := by
    intro finds
    refine not_misses_of_nearest ?_
    rw [actualRate_ft232Am]
    exact (isNearest_amEighths_iff positive).mpr finds
  rcases Nat.lt_or_ge 183 baud with least | lowest
  · rcases Nat.lt_or_ge 1500000 baud with fast | slow
    · rcases Nat.lt_or_ge baud 2666667 with middle | high
      · rw [actualRate_ft232Am, amEighths_of_middle fast middle,
          show rounded 24000000 16 = 1500000 by decide, missed_iff_ft232Am, Achievable]
        simp only [← Nat.not_le, dist_tolerance_iff]
        constructor
        · rintro ⟨⟨rate, member, near⟩, far⟩
          have atMost := greatest rate member
          have upper := upperPair.gap rate member
          have lower := lowerPair.gap rate member
          omega
        · intro missed
          exact ⟨⟨2000000, lowerPair.above_mem, by omega⟩, by omega⟩
      · refine iff_of_false (notMissed ⟨by omega, by omega⟩) ?_
        rw [missed_iff_ft232Am]
        omega
    · have achievable := achievable_of_slow least slow
      rw [actualRate_ft232Am, ← Nat.not_le]
      rcases Nat.lt_or_ge (24000000 / baud) 48 with small | large
      · rw [am_accepts_of_small slow small positive]
        simp only [achievable, true_and, not_not]
      · have accepted := am_accepts_of_large least large
        have product := (Nat.le_div_iff_mul_le positive).mp large
        rw [missed_iff_ft232Am]
        omega
  · refine iff_of_false (notMissed ⟨by omega, by omega⟩) ?_
    rw [missed_iff_ft232Am]
    omega

/-- **The requests that are rejected although a rate is within 5 percent.** -/
theorem misses_iff (chip : FtdiChip) {baud : Nat} (positive : 0 < baud) :
    Achievable chip baud ∧ baud < 20 * Nat.dist (actualRate chip baud) baud ↔ Missed chip baud := by
  by_cases am : chip = .ft232Am
  · rw [am]
    exact misses_of_ft232Am positive
  · exact misses_of_other am positive

/-! ### The whole conversion -/

theorem not_missed_zero (chip : FtdiChip) : ¬ Missed chip 0 := by
  rintro ⟨range, member, low, -⟩
  have least : ∀ range ∈ missedRanges chip, 631579 ≤ range.1 := by
    cases chip <;> decide
  have := least range member
  omega

theorem baudTotal_zero (chip : FtdiChip) (usbIndex : UInt16) : BaudTotal chip 0 usbIndex := by
  have converts := convertBaudRate_zero chip usbIndex
  have rejects := baudDivisor_zero chip usbIndex
  refine ⟨?_, ?_, fun _ nonzero => absurd rfl nonzero, ?_, ?_⟩
  · rw [converts]
    exact safe_ok _
  · rw [rejects]
    exact safe_fail _
  · simp only [converts]
  · refine iff_of_true (fun divisor accepts => ?_) (.inl rfl)
    rw [rejects] at accepts
    exact fail_ne_ok _ _ accepts

/-- **The arithmetic does what it should** on exactly the requests that `i32` holds, for an FT232AM, and
that are in none of the missed ranges. -/
theorem baudTotal_iff (chip : FtdiChip) (baud : UInt32) (usbIndex : UInt16) :
    BaudTotal chip baud usbIndex ↔
      (chip = .ft232Am → baud.toNat < 2147483648) ∧ ¬ Missed chip baud.toNat := by
  by_cases zero : baud = 0
  · rw [zero]
    exact iff_of_true (baudTotal_zero chip usbIndex) ⟨fun _ => by decide, not_missed_zero chip⟩
  have positive : 0 < baud.toNat := by
    rw [Nat.pos_iff_ne_zero]
    exact fun none => zero (UInt32.toNat_inj.mp none)
  constructor
  · intro total
    have signed : chip = .ft232Am → baud.toNat < 2147483648 := by
      intro am
      have kept := total.keepsSign am zero
      have bound := Int32.toInt_lt baud.toInt32
      omega
    refine ⟨signed, fun missed => ?_⟩
    obtain ⟨achievable, far⟩ := (misses_iff chip positive).mpr missed
    have rejects : ∀ divisor, baudDivisor baud chip usbIndex ≠ .ok divisor := by
      intro divisor
      rw [baudDivisor_eq usbIndex positive signed, if_pos far]
      exact fail_ne_ok _ _
    rcases total.rejectsIff.mp rejects with none | notAchievable
    · exact zero none
    · exact notAchievable achievable
  · rintro ⟨signed, notMissed⟩
    rw [← misses_iff chip positive] at notMissed
    have converts := convertBaudRate_eq usbIndex positive signed
    have checks := baudDivisor_eq usbIndex positive signed
    refine ⟨?_, ?_, fun am _ => toInt_toInt32 (signed am), ?_, ?_⟩
    · rw [converts]
      exact safe_ok _
    · rw [checks]
      exact safe_ite (fun _ => safe_fail _) fun _ => safe_ok _
    · simp only [converts, Except.ok.injEq, reduceCtorEq, zero]
    · rw [checks]
      split
      next far =>
        refine iff_of_true (fun divisor => fail_ne_ok _ _) (.inr fun achievable => ?_)
        exact notMissed ⟨achievable, far⟩
      next near =>
        refine iff_of_false (fun rejects => rejects _ rfl) ?_
        rintro (none | notAchievable)
        · exact zero none
        · exact notAchievable ⟨_, isRate_actualRate chip positive, Nat.not_lt.mp near⟩

/-- The difference to a request of 2^31, which `i32` holds as a negative number, overflows. -/
theorem not_baudTotal :
    ¬ ∀ (chip : FtdiChip) (baud : UInt32) (usbIndex : UInt16), BaudTotal chip baud usbIndex := by
  intro always
  have panics : convertBaudRate 0x80000000 .ft232Am 0 = .error .panic := by decide +kernel
  exact (always .ft232Am 0x80000000 0).safeConvert panics

end PioUsbHost.Ftdi
