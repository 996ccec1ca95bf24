/-
**The baud rates of an FTDI chip.**

A chip divides its base clock by a number of eighths, which the SET_BAUD request carries as an 18-bit
code split between wValue and wIndex. `convertBaudRate` searches the divisor for a requested rate; the
FT232AM has a search of its own, on signed numbers.

* `clockBits_spec`, `amSearch_eq`, `clockBitsAm_eq`: the two searches in closed form, without a panic.
* `convertBaudRate_eq`: what a conversion returns for a rate below 2^31.
-/

import PioUsbHost.Lib.Nearest
import PioUsbHost.Usb.UsbPipe

namespace PioUsbHost.Ftdi

open PioUsbHost.Lib.Panic PioUsbHost.Lib.Nearest PioUsbHost.Usb

/-! ### The chips -/

/-- FTDI silicon generation inferred from `bcdDevice`. -/
inductive FtdiChip where
  | ft232Am
  | ft232Bm
  | ft2232C
  | ft232R
  | ft2232H
  | ft4232H
  | ft232H
  | ft230X
  deriving DecidableEq, Repr

namespace FtdiChip

/-- Chips with more than one channel. -/
def isMultiChannel (chip : FtdiChip) : Bool := chip ∈ [ft2232C, ft2232H, ft4232H]

/-- Chips with the high-speed clock. -/
def isHType (chip : FtdiChip) : Bool := chip ∈ [ft2232H, ft4232H, ft232H]

end FtdiChip

/-- Error returned by an FTDI host. -/
inductive FtdiError where
  | transfer (error : PipeError)
  | invalidBaudRate
  | unsupportedBaudRate (requested actual : UInt32)
  | invalidDataBits
  deriving DecidableEq, Repr

/-! ### The search -/

/-- A rate and how it goes over the wire. -/
structure BaudDivisor where
  actual : UInt32
  value : UInt16
  index : UInt16
  deriving DecidableEq, Repr

/-- The codes of the eighths in the wire value. -/
def fractionCode : List Nat := [0, 3, 2, 4, 1, 5, 6, 7]

/-- The rate and the code for a rate of at least one, the clock being `clock / predivider`. -/
def clockBits (baud clock predivider : Nat) : Checked FtdiError (Nat × Nat) := do
  let whole ← divide clock predivider
  if whole ≤ baud then return (whole, 0)
  else
    let half ← divide clock (← fits UInt32.size (predivider + predivider / 2))
    if half ≤ baud then return (half, 1)
    else
      let double ← divide clock (← fits UInt32.size (2 * predivider))
      if double ≤ baud then return (double, 2)
      else
        let divisor ← divide (← divide (← fits UInt32.size (clock * 16)) predivider) baud
        let best := min (← fits UInt32.size (divisor / 2 + divisor % 2)) 0x1ffff
        let twiceActual ← divide (← divide (← fits UInt32.size (clock * 16)) predivider) best
        let actual ← fits UInt32.size (twiceActual / 2 + twiceActual % 2)
        return (actual, (best >>> 3) ||| ((← index fractionCode (best &&& 7)) <<< 14))

/-- An arithmetic result on `i32`. -/
def fitsI32 (result : Int) : Checked FtdiError Int := fitsSigned 2147483648 result

/-- `a / b` on `i32`. -/
def divideI32 (a b : Int) : Checked FtdiError Int := divideSigned 2147483648 a b

/-- How far the AM search steps down to a divisor that it can express. -/
def amDown : List Int := [0, 0, 0, 1, 0, 3, 2, 1]

/-- How far it steps up. -/
def amUp : List Int := [0, 0, 0, 1, 0, 1, 2, 3]

/-- The variables of the FT232AM search. -/
structure AmSearch where
  best : Int := 8
  bestBaud : Int := 3000000
  bestDifference : Int := 2147483647
  deriving DecidableEq, Repr

/-- The candidate of one round of the loop. Of an `i32` in two's complement, `& 7` is the residue. -/
def amCandidate (divisor increment : Int) : Checked FtdiError Int := do
  let candidate ← fitsI32 (divisor + increment)
  if candidate ≤ 8 then return 8
  else if divisor < 16 then return 16
  else return min (← fitsI32 (candidate + (← index amUp (candidate % 8).toNat))) 0x1fff8

/-- One round of the loop. -/
def amTry (requested divisor : Int) (search : AmSearch) (increment : Int) :
    Checked FtdiError AmSearch := do
  let candidate ← amCandidate divisor increment
  let actual ← divideI32 (← fitsI32 (24000000 + (← divideI32 candidate 2))) candidate
  let difference ← fitsI32 |← fitsI32 (actual - requested)|
  if difference < search.bestDifference then
    return { best := candidate, bestBaud := actual, bestDifference := difference }
  else return search

/-- The search of `clock_bits_am`; `baud as i32` keeps the bits and not the value. -/
def amSearch (baud : UInt32) : Checked FtdiError AmSearch := do
  let requested := baud.toInt32.toInt
  let divisor ← divideI32 24000000 requested
  let divisor ← fitsI32 (divisor - (← index amDown (divisor % 8).toNat))
  [0, 1].foldlM (amTry requested divisor) {}

/-- The codes of the divisors 1 and 1.5, which are special. -/
def amSpecial (encoded : Nat) : Nat :=
  if encoded = 1 then 0 else if encoded = 0x4001 then 1 else encoded

/-- `clock_bits_am`. -/
def clockBitsAm (baud : UInt32) : Checked FtdiError (Nat × Nat) := do
  let search ← amSearch baud
  let fraction ← index fractionCode (search.best.toNat &&& 7)
  return (search.bestBaud.toNat, amSpecial ((search.best.toNat >>> 3) ||| (fraction <<< 14)))

/-! ### The conversion -/

/-- The rate and the code, of which bit 17 selects the clock of 120 MHz / 10. -/
def rateBits (baud : UInt32) (chip : FtdiChip) : Checked FtdiError (Nat × Nat) :=
  if chip = .ft232Am then clockBitsAm baud
  else do
    let fast ← andThen chip.isHType do
      return decide ((← fits UInt64.size (baud.toNat * 10)) > 120000000 / 0x3fff)
    if fast then
      let (actual, encoded) ← clockBits baud.toNat 120000000 10
      return (actual, encoded ||| 0x20000)
    else clockBits baud.toNat 48000000 16

/-- wIndex: the high bits of the code, and for most chips the channel. -/
def baudIndex (chip : FtdiChip) (encoded : Nat) (usbIndex : UInt16) : UInt16 :=
  match chip with
  | .ft2232H | .ft4232H | .ft232H => (UInt16.ofNat (encoded >>> 8) &&& 0xff00) ||| usbIndex
  | .ft2232C | .ft230X => (UInt16.ofNat (encoded >>> 16) <<< 8) ||| usbIndex
  | _ => UInt16.ofNat (encoded >>> 16)

/-- `convert_baud_rate`. -/
def convertBaudRate (baud : UInt32) (chip : FtdiChip) (usbIndex : UInt16) :
    Checked FtdiError (Option BaudDivisor) := do
  if baud = 0 then return none
  else
    let (actual, encoded) ← rateBits baud chip
    if actual = 0 then return none
    else
      return some {
        actual := UInt32.ofNat actual
        value := UInt16.ofNat (encoded &&& 0xffff)
        index := baudIndex chip encoded usbIndex }

/-- The first half of `set_baud_rate`, which rejects a rate that is more than 5 percent off. -/
def baudDivisor (requested : UInt32) (chip : FtdiChip) (usbIndex : UInt16) :
    Checked FtdiError BaudDivisor := do
  let divisor ← okOr (← convertBaudRate requested chip usbIndex) .invalidBaudRate
  let twentyfold ← fits UInt64.size (Nat.dist divisor.actual.toNat requested.toNat * 20)
  if twentyfold > requested.toNat then
    fail (.unsupportedBaudRate requested divisor.actual)
  else return divisor

/-! ### The search in closed form -/

/-- The number of eighths that `clockBits` divides a base clock by. -/
def clockEighths (base baud : Nat) : Nat :=
  if base ≤ baud then 8
  else if 2 * base ≤ 3 * baud then 12
  else if base ≤ 2 * baud then 16
  else min (rounded (8 * base) baud) 0x1ffff

/-- The code of a number of eighths. -/
def eighthsCode (eighths : Nat) : Nat :=
  if eighths = 8 then 0
  else if eighths = 12 then 1
  else eighths / 8 + 16384 * fractionCode.getD (eighths % 8) 0

theorem fractionCode_index (eighths : Nat) :
    (index fractionCode (eighths &&& 7) : Checked FtdiError Nat) =
      .ok (fractionCode.getD (eighths % 8) 0) := by
  have residue : eighths &&& 7 = eighths % 8 := Nat.and_two_pow_sub_one_eq_mod eighths 3
  have small : eighths % 8 < fractionCode.length := Nat.mod_lt _ (by decide)
  rw [residue, index_of_lt small, List.getD_eq_getElem?_getD, List.getElem?_eq_getElem small,
    Option.getD_some]

/-- The integer part of the code and its fraction do not overlap. -/
theorem or_fraction {whole : Nat} (small : whole < 16384) (fraction : Nat) :
    whole ||| (fraction <<< 14) = whole + 16384 * fraction := by
  rw [Nat.or_comm, ← Nat.shiftLeft_add_eq_or_of_lt small, Nat.shiftLeft_eq]
  omega

theorem eighthsCode_of_le {eighths : Nat} (least : 16 ≤ eighths) :
    eighthsCode eighths = eighths / 8 + 16384 * fractionCode.getD (eighths % 8) 0 := by
  rw [eighthsCode, if_neg (by omega), if_neg (by omega)]

/-- The code as `clockBits` puts it together. -/
theorem encode_eq {eighths : Nat} (least : 16 ≤ eighths) (most : eighths ≤ 0x1ffff) :
    (do return (eighths >>> 3) ||| ((← index fractionCode (eighths &&& 7)) <<< 14) :
      Checked FtdiError Nat) = .ok (eighthsCode eighths) := by
  rw [fractionCode_index, ok_bind, pure_eq_ok, Nat.shiftRight_eq_div_pow,
    or_fraction (by omega), eighthsCode_of_le least]

theorem clockEighths_bounds (base : Nat) {baud : Nat} (positive : 0 < baud) :
    clockEighths base baud ≤ 0x1ffff ∧
      (clockEighths base baud = 8 ∨ clockEighths base baud = 12 ∨ 16 ≤ clockEighths base baud) := by
  rw [clockEighths]
  split
  · omega
  split
  · omega
  split
  · omega
  next slow =>
    have least : 16 ≤ rounded (8 * base) baud := le_rounded_of_mul_le positive (by omega)
    omega

/-- The clock of `clockBits` over its four divisors. -/
theorem clock_quotients {half : Nat} (divides : 0 < half) (sixth : Nat) :
    12 * sixth * half / (2 * half) = 6 * sixth ∧ 12 * sixth * half / (3 * half) = 4 * sixth ∧
      12 * sixth * half / (2 * (2 * half)) = 3 * sixth ∧
      12 * sixth * half * 16 / (2 * half) = 2 * (8 * (6 * sixth)) := by
  refine ⟨?_, ?_, ?_, ?_⟩
  · rw [show 12 * sixth * half = 6 * sixth * (2 * half) by ring]
    exact Nat.mul_div_cancel _ (by omega)
  · rw [show 12 * sixth * half = 4 * sixth * (3 * half) by ring]
    exact Nat.mul_div_cancel _ (by omega)
  · rw [show 12 * sixth * half = 3 * sixth * (2 * (2 * half)) by ring]
    exact Nat.mul_div_cancel _ (by omega)
  · rw [show 12 * sixth * half * 16 = 2 * (8 * (6 * sixth)) * (2 * half) by ring]
    exact Nat.mul_div_cancel _ (by omega)

/-- The quotients of `clockBits` fit where its clock does. -/
theorem rounded_lt_size {sixth half divisor : Nat} (clockFits : 192 * sixth * half < UInt32.size)
    (divides : 0 < half) (positive : 0 < divisor) :
    rounded (8 * (6 * sixth)) divisor < UInt32.size := by
  have atMost : rounded (8 * (6 * sixth)) divisor ≤ 8 * (6 * sixth) :=
    rounded_le_of_le_mul positive (Nat.le_mul_of_pos_right _ positive)
  have sixteenth : 48 * sixth ≤ 192 * sixth * half := by
    calc 48 * sixth ≤ 192 * sixth := by omega
      _ ≤ 192 * sixth * half := Nat.le_mul_of_pos_right _ divides
  omega

/-- **`clockBits` in closed form**, for a base clock that is divided by 1 and by 1.5 without rest. -/
theorem clockBits_spec {sixth half baud : Nat} (clockFits : 192 * sixth * half < UInt32.size)
    (divides : 0 < half) (predividerFits : 4 * half < UInt32.size) (positive : 0 < baud) :
    clockBits baud (12 * sixth * half) (2 * half) =
      .ok (rounded (8 * (6 * sixth)) (clockEighths (6 * sixth) baud),
        eighthsCode (clockEighths (6 * sixth) baud)) := by
  obtain ⟨whole, byThreeHalves, byTwo, doubled⟩ := clock_quotients divides sixth
  have predivided : 2 * half + 2 * half / 2 = 3 * half := by omega
  have clockWord : 12 * sixth * half * 16 < UInt32.size := by
    rw [show 12 * sixth * half * 16 = 192 * sixth * half by ring]
    exact clockFits
  rw [clockBits, divide_of_pos (by omega), ok_bind, whole, predivided]
  rw [fits_of_lt (by omega), ok_bind, divide_of_pos (by omega), ok_bind, byThreeHalves]
  rw [fits_of_lt (by omega), ok_bind, divide_of_pos (by omega), ok_bind, byTwo]
  rw [fits_of_lt clockWord, ok_bind, divide_of_pos (by omega), ok_bind, doubled,
    divide_of_pos positive, ok_bind]
  rw [rounded_of_double]
  by_cases first : 6 * sixth ≤ baud
  · have eighths : clockEighths (6 * sixth) baud = 8 := if_pos first
    rw [if_pos first, eighths, show 8 * (6 * sixth) = 6 * sixth * 8 by ring,
      rounded_mul_self (by decide)]
    rfl
  rw [if_neg first]
  by_cases second : 4 * sixth ≤ baud
  · have eighths : clockEighths (6 * sixth) baud = 12 := by
      rw [clockEighths, if_neg first, if_pos (by omega)]
    rw [if_pos second, eighths, show 8 * (6 * sixth) = 4 * sixth * 12 by ring,
      rounded_mul_self (by decide)]
    rfl
  rw [if_neg second]
  by_cases third : 3 * sixth ≤ baud
  · have eighths : clockEighths (6 * sixth) baud = 16 := by
      rw [clockEighths, if_neg first, if_neg (by omega), if_pos (by omega)]
    rw [if_pos third, eighths, show 8 * (6 * sixth) = 3 * sixth * 16 by ring,
      rounded_mul_self (by decide)]
    rfl
  have eighths : clockEighths (6 * sixth) baud = min (rounded (8 * (6 * sixth)) baud) 0x1ffff := by
    rw [clockEighths, if_neg first, if_neg (by omega), if_neg (by omega)]
  have least : 16 ≤ rounded (8 * (6 * sixth)) baud := le_rounded_of_mul_le positive (by omega)
  rw [if_neg third, fits_of_lt (rounded_lt_size clockFits divides positive), ok_bind,
    ← eighths]
  have bounds := clockEighths_bounds (6 * sixth) positive
  have low : 16 ≤ clockEighths (6 * sixth) baud := by omega
  rw [ok_bind, divide_of_pos (by omega), ok_bind, doubled, divide_of_pos (by omega), ok_bind,
    rounded_of_double, fits_of_lt (rounded_lt_size clockFits divides (by omega)), ok_bind]
  have encoded := encode_eq low bounds.1
  rw [bind_eq_ok] at encoded
  obtain ⟨code, found, value⟩ := encoded
  rw [found, ok_bind, ← Except.ok.inj value]
  rfl

theorem clockBits_of_48MHz {baud : Nat} (positive : 0 < baud) :
    clockBits baud 48000000 16 =
      .ok (rounded (8 * 3000000) (clockEighths 3000000 baud),
        eighthsCode (clockEighths 3000000 baud)) :=
  clockBits_spec (show 192 * 500000 * 8 < UInt32.size by decide) (by decide) (by decide) positive

theorem clockBits_of_120MHz {baud : Nat} (positive : 0 < baud) :
    clockBits baud 120000000 10 =
      .ok (rounded (8 * 12000000) (clockEighths 12000000 baud),
        eighthsCode (clockEighths 12000000 baud)) :=
  clockBits_spec (show 192 * 2000000 * 5 < UInt32.size by decide) (by decide) (by decide) positive

/-! ### The FT232AM search in closed form -/

/-- The candidates that are tried for a truncated divisor. -/
def triedEighths (quotient increment : Nat) : Nat :=
  let divisor := quotient - [0, 0, 0, 1, 0, 3, 2, 1].getD (quotient % 8) 0
  let candidate := divisor + increment
  if candidate ≤ 8 then 8
  else if divisor < 16 then 16
  else min (candidate + [0, 0, 0, 1, 0, 1, 2, 3].getD (candidate % 8) 0) 0x1fff8

/-- Of two candidates, the one whose rate is nearer; the first one if both are as near. -/
def amEighths (baud : Nat) : Nat :=
  let first := triedEighths (24000000 / baud) 0
  let second := triedEighths (24000000 / baud) 1
  if Nat.dist (rounded 24000000 second) baud < Nat.dist (rounded 24000000 first) baud then second
  else first

theorem triedEighths_bounds (quotient increment : Nat) :
    triedEighths quotient increment ≤ 0x1fff8 ∧
      (triedEighths quotient increment = 8 ∨ 16 ≤ triedEighths quotient increment) := by
  rw [triedEighths]
  split
  · omega
  split
  · omega
  · omega

theorem amEighths_bounds (baud : Nat) :
    amEighths baud ≤ 0x1fff8 ∧ (amEighths baud = 8 ∨ 16 ≤ amEighths baud) := by
  rw [amEighths]
  split
  · exact triedEighths_bounds _ 1
  · exact triedEighths_bounds _ 0

/-- A table of the search at the residue of a natural. -/
theorem index_residue (table : List Nat) (full : table.length = 8) (n : Nat) :
    (index (table.map Int.ofNat) (((n : Int) % 8).toNat) : Checked FtdiError Int) =
      .ok (table.getD (n % 8) 0 : Nat) := by
  have residue : ((n : Int) % 8).toNat = n % 8 := rfl
  have small : n % 8 < table.length := by omega
  have entry : (table.map Int.ofNat)[n % 8]? = some (table.getD (n % 8) 0 : Nat) := by
    rw [List.getElem?_map, List.getD_eq_getElem?_getD, List.getElem?_eq_getElem small]
    rfl
  rw [residue, index_of_getElem? entry]

theorem amUp_le : ∀ residue < 8, [0, 0, 0, 1, 0, 1, 2, 3].getD residue 0 ≤ 3 := by decide

theorem amDown_le : ∀ residue < 8, [0, 0, 0, 1, 0, 3, 2, 1].getD residue 0 ≤ residue := by decide

/-- **The candidate of one round**, for a divisor that is already rounded down. -/
theorem amCandidate_eq {divisor increment : Nat} (small : divisor ≤ 24000000)
    (atMostOne : increment ≤ 1) :
    amCandidate divisor increment =
      .ok ((if divisor + increment ≤ 8 then 8
        else if divisor < 16 then 16
        else min (divisor + increment + [0, 0, 0, 1, 0, 1, 2, 3].getD ((divisor + increment) % 8) 0)
          0x1fff8 : Nat) : Int) := by
  have up := amUp_le ((divisor + increment) % 8) (Nat.mod_lt _ (by decide))
  have read := index_residue [0, 0, 0, 1, 0, 1, 2, 3] rfl (divisor + increment)
  generalize [0, 0, 0, 1, 0, 1, 2, 3].getD ((divisor + increment) % 8) 0 = adjustment at up read ⊢
  have sum : fitsI32 ((divisor : Int) + increment) = .ok (divisor + increment : Nat) :=
    fitsSigned_of_bounds (by omega) (by omega)
  rw [amCandidate, sum, ok_bind]
  by_cases least : divisor + increment ≤ 8
  · rw [if_pos least, if_pos (by omega)]
    rfl
  rw [if_neg least, if_neg (by omega)]
  by_cases low : divisor < 16
  · rw [if_pos low, if_pos (by omega)]
    rfl
  have adjusted : fitsI32 (((divisor + increment : Nat) : Int) + adjustment) =
      .ok (divisor + increment + adjustment : Nat) := fitsSigned_of_bounds (by omega) (by omega)
  have table : amUp = [0, 0, 0, 1, 0, 1, 2, 3].map Int.ofNat := rfl
  rw [if_neg low, if_neg (by omega), table, read, ok_bind, adjusted, ok_bind, pure_eq_ok]
  exact congrArg Except.ok (by omega)

/-- The search with a candidate in it. -/
def AmSearch.of (baud candidate : Nat) : AmSearch :=
  { best := candidate
    bestBaud := rounded 24000000 candidate
    bestDifference := Nat.dist (rounded 24000000 candidate) baud }

/-- **One round of the loop**, for a candidate that the chip divides by. -/
theorem amTry_eq {baud candidate : Nat} {divisor increment : Int} {search : AmSearch}
    (small : baud < 2147483648) (found : amCandidate divisor increment = .ok (candidate : Int))
    (least : 8 ≤ candidate) (most : candidate ≤ 0x1fff8) :
    amTry baud divisor search increment =
      .ok (if (Nat.dist (rounded 24000000 candidate) baud : Int) < search.bestDifference then
        AmSearch.of baud candidate else search) := by
  have rate : rounded 24000000 candidate ≤ 3000000 := rounded_le_of_le_mul (by omega) (by omega)
  have halved : divideI32 (candidate : Int) 2 = .ok ((candidate / 2 : Nat) : Int) :=
    divideSigned_natCast (by decide) (by omega)
  have sum : fitsI32 (24000000 + ((candidate / 2 : Nat) : Int)) =
      .ok ((24000000 + candidate / 2 : Nat) : Int) := fitsSigned_of_bounds (by omega) (by omega)
  have quotient : divideI32 ((24000000 + candidate / 2 : Nat) : Int) candidate =
      .ok (rounded 24000000 candidate : Nat) := by
    rw [← rounded_of_half (by omega)]
    exact divideSigned_natCast (by omega) (by omega)
  rw [amTry, found, ok_bind, halved, ok_bind, sum, ok_bind, quotient, ok_bind]
  rw [AmSearch.of]
  generalize rounded 24000000 candidate = actual at rate ⊢
  have difference : fitsI32 ((actual : Int) - baud) = .ok ((actual : Int) - baud) :=
    fitsSigned_of_bounds (by omega) (by omega)
  have distance : |(actual : Int) - baud| = Nat.dist actual baud := by
    rw [abs_eq_max_neg, Nat.dist]
    omega
  have absolute : fitsI32 |(actual : Int) - baud| = .ok (Nat.dist actual baud : Int) := by
    rw [distance]
    unfold Nat.dist
    exact fitsSigned_of_bounds (by omega) (by omega)
  rw [difference, ok_bind, absolute, ok_bind]
  split
  · rfl
  · rfl

/-- A word below the sign bit is the same number as an `i32`. -/
theorem toInt_toInt32 {word : UInt32} (small : word.toNat < 2147483648) :
    word.toInt32.toInt = word.toNat := by
  have toInt := BitVec.toInt_eq_toNat_cond word.toBitVec
  have below : 2 * word.toBitVec.toNat < 2 ^ 32 := by
    change 2 * word.toNat < 2 ^ 32
    omega
  rw [if_pos below] at toInt
  exact toInt

/-- **The search in closed form**, for a rate that `i32` holds. -/
theorem amSearch_eq {baud : UInt32} (positive : 0 < baud.toNat) (small : baud.toNat < 2147483648) :
    amSearch baud = .ok (AmSearch.of baud.toNat (amEighths baud.toNat)) := by
  have quotient : divideI32 24000000 (baud.toNat : Int) = .ok (24000000 / baud.toNat : Nat) :=
    divideSigned_natCast positive (by decide)
  rw [amSearch, toInt_toInt32 small, quotient, ok_bind, amEighths]
  have atMost : 24000000 / baud.toNat ≤ 24000000 := Nat.div_le_self _ _
  generalize 24000000 / baud.toNat = quotient at atMost ⊢
  have table : amDown = [0, 0, 0, 1, 0, 3, 2, 1].map Int.ofNat := rfl
  have down : [0, 0, 0, 1, 0, 3, 2, 1].getD (quotient % 8) 0 ≤ quotient :=
    (amDown_le (quotient % 8) (Nat.mod_lt _ (by decide))).trans (Nat.mod_le _ _)
  have difference : fitsI32 ((quotient : Int) -
      ([0, 0, 0, 1, 0, 3, 2, 1].getD (quotient % 8) 0 : Nat)) =
        .ok ((quotient - [0, 0, 0, 1, 0, 3, 2, 1].getD (quotient % 8) 0 : Nat) : Int) := by
    rw [← Int.ofNat_sub down]
    exact fitsSigned_of_bounds (by omega) (by omega)
  have tries : ∀ increment ≤ 1, amCandidate
      ((quotient - [0, 0, 0, 1, 0, 3, 2, 1].getD (quotient % 8) 0 : Nat) : Int) (increment : Nat) =
        .ok (triedEighths quotient increment : Nat) := by
    intro increment atMostOne
    exact amCandidate_eq (Nat.le_trans (Nat.sub_le _ _) atMost) atMostOne
  have firstTried : amCandidate _ 0 = _ := tries 0 (by decide)
  have secondTried : amCandidate _ 1 = _ := tries 1 (by decide)
  have first := triedEighths_bounds quotient 0
  have second := triedEighths_bounds quotient 1
  -- The first candidate is nearer than the initial difference, whatever the rate.
  have nearer : Nat.dist (rounded 24000000 (triedEighths quotient 0)) baud.toNat < 2147483647 := by
    have low : 1 ≤ rounded 24000000 (triedEighths quotient 0) :=
      le_rounded_of_mul_le (by omega) (by omega)
    have high : rounded 24000000 (triedEighths quotient 0) ≤ 3000000 :=
      rounded_le_of_le_mul (by omega) (by omega)
    rw [Nat.dist]
    omega
  have firstRound : amTry baud.toNat _ {} 0 = .ok (AmSearch.of baud.toNat (triedEighths quotient 0)) :=
    (amTry_eq small firstTried (by omega) first.1).trans
      (congrArg Except.ok (if_pos (Int.ofNat_lt.mpr nearer)))
  rw [table, index_residue _ rfl, ok_bind, difference, ok_bind, List.foldlM_cons, firstRound, ok_bind,
    List.foldlM_cons, amTry_eq small secondTried (by omega) second.1, ok_bind, List.foldlM_nil,
    pure_eq_ok]
  simp only [AmSearch.of, Int.ofNat_lt]
  split
  · rfl
  · rfl

/-- **`clockBitsAm` in closed form**, for a rate that `i32` holds. -/
theorem clockBitsAm_eq {baud : UInt32} (positive : 0 < baud.toNat)
    (small : baud.toNat < 2147483648) :
    clockBitsAm baud =
      .ok (rounded 24000000 (amEighths baud.toNat), eighthsCode (amEighths baud.toNat)) := by
  have bounds := amEighths_bounds baud.toNat
  have best : (AmSearch.of baud.toNat (amEighths baud.toNat)).best.toNat = amEighths baud.toNat := rfl
  have rate : (AmSearch.of baud.toNat (amEighths baud.toNat)).bestBaud.toNat =
    rounded 24000000 (amEighths baud.toNat) := rfl
  rw [clockBitsAm, amSearch_eq positive small, ok_bind, best, rate]
  rcases bounds.2 with eight | least
  · have code : (index fractionCode (8 &&& 7) : Checked FtdiError Nat) = .ok 0 := rfl
    rw [eight, code, ok_bind]
    rfl
  have encoded := encode_eq least (by omega)
  rw [bind_eq_ok] at encoded
  obtain ⟨code, found, value⟩ := encoded
  rw [found, ok_bind, Except.ok.inj value]
  have ordinary := eighthsCode_of_le least
  rw [amSpecial, if_neg (by omega), if_neg (by omega), pure_eq_ok]

/-! ### The conversion in closed form -/

/-- The base clock that a chip is given for a rate. -/
def baseClock (chip : FtdiChip) (baud : Nat) : Nat :=
  if chip.isHType = true ∧ 732 < baud then 12000000 else 3000000

/-- The number of eighths that a chip is given for a rate. -/
def chosenEighths (chip : FtdiChip) (baud : Nat) : Nat :=
  if chip = .ft232Am then amEighths baud else clockEighths (baseClock chip baud) baud

/-- The code, with the clock in bit 17. -/
def clockCode (base eighths : Nat) : Nat :=
  eighthsCode eighths + if base = 12000000 then 0x20000 else 0

/-- A divisor as the request carries it. -/
def wireDivisor (chip : FtdiChip) (base eighths : Nat) (usbIndex : UInt16) : BaudDivisor :=
  { actual := UInt32.ofNat (rounded (8 * base) eighths)
    value := UInt16.ofNat (clockCode base eighths &&& 0xffff)
    index := baudIndex chip (clockCode base eighths) usbIndex }

theorem chosenEighths_bounds (chip : FtdiChip) {baud : Nat} (positive : 0 < baud) :
    chosenEighths chip baud ≤ 0x1ffff ∧ (chosenEighths chip baud = 8 ∨
      chosenEighths chip baud = 12 ∨ 16 ≤ chosenEighths chip baud) := by
  rw [chosenEighths]
  split
  · have bounds := amEighths_bounds baud
    omega
  · exact clockEighths_bounds _ positive

theorem baseClock_cases (chip : FtdiChip) (baud : Nat) :
    baseClock chip baud = 3000000 ∨ baseClock chip baud = 12000000 := by
  rw [baseClock]
  split
  · exact .inr rfl
  · exact .inl rfl

theorem baseClock_ft232Am (baud : Nat) : baseClock .ft232Am baud = 3000000 := by
  rw [baseClock, if_neg (by simp [FtdiChip.isHType])]

theorem eighthsCode_lt {eighths : Nat} (most : eighths ≤ 0x1ffff) :
    eighthsCode eighths < 0x20000 := by
  have fractions : ∀ residue < 8, fractionCode.getD residue 0 ≤ 7 := by decide
  have fraction := fractions (eighths % 8) (Nat.mod_lt _ (by decide))
  rw [eighthsCode]
  split
  · decide
  split
  · decide
  · omega

/-- The test for the faster clock, whose product does not overflow on `u64`. -/
theorem fastClock_eq (chip : FtdiChip) (baud : UInt32) :
    (andThen chip.isHType do
      return decide ((← fits UInt64.size (baud.toNat * 10)) > 120000000 / 0x3fff) :
        Checked FtdiError Bool) = .ok (decide (chip.isHType = true ∧ 732 < baud.toNat)) := by
  have word := baud.toNat_lt
  have tenfold : (fits UInt64.size (baud.toNat * 10) : Checked FtdiError Nat) =
      .ok (baud.toNat * 10) := fits_of_lt (by simp only [UInt64.size]; omega)
  have threshold : baud.toNat * 10 > 120000000 / 0x3fff ↔ 732 < baud.toNat := by omega
  rw [andThen, tenfold, ok_bind, pure_eq_ok]
  split
  next hType => simp only [threshold, hType, true_and]
  next other => simp [other]

theorem clockCode_of_3MHz (eighths : Nat) : clockCode 3000000 eighths = eighthsCode eighths := by
  rw [clockCode, if_neg (by decide), Nat.add_zero]

theorem rateBits_eq {baud : UInt32} {chip : FtdiChip} (positive : 0 < baud.toNat)
    (signed : chip = .ft232Am → baud.toNat < 2147483648) :
    rateBits baud chip =
      .ok (rounded (8 * baseClock chip baud.toNat) (chosenEighths chip baud.toNat),
        clockCode (baseClock chip baud.toNat) (chosenEighths chip baud.toNat)) := by
  rw [rateBits, chosenEighths]
  by_cases am : chip = .ft232Am
  · rw [if_pos am, if_pos am, clockBitsAm_eq positive (signed am), am, baseClock_ft232Am,
      clockCode_of_3MHz]
  rw [if_neg am, if_neg am, fastClock_eq, ok_bind]
  by_cases fast : chip.isHType = true ∧ 732 < baud.toNat
  · have base : baseClock chip baud.toNat = 12000000 := if_pos fast
    have bits := (clockEighths_bounds 12000000 positive).1
    have flag : eighthsCode (clockEighths 12000000 baud.toNat) ||| 0x20000 =
        clockCode 12000000 (clockEighths 12000000 baud.toNat) := by
      rw [clockCode, if_pos rfl, Nat.or_comm]
      exact (Nat.two_pow_add_eq_or_of_lt (i := 17) (eighthsCode_lt bits) 1).symm.trans (Nat.add_comm _ _)
    rw [if_pos (decide_eq_true fast), base, clockBits_of_120MHz positive, ok_bind, ← flag]
    rfl
  · have base : baseClock chip baud.toNat = 3000000 := if_neg fast
    rw [if_neg (by simpa using fast), base, clockBits_of_48MHz positive, clockCode_of_3MHz]

/-- The rates of the divisors are positive words. -/
theorem rounded_bounds {base eighths : Nat} (clock : base = 3000000 ∨ base = 12000000)
    (least : 8 ≤ eighths) (most : eighths ≤ 0x1ffff) :
    183 ≤ rounded (8 * base) eighths ∧ rounded (8 * base) eighths ≤ base :=
  ⟨le_rounded_of_mul_le (by omega) (by omega),
    rounded_le_of_le_mul (by omega) (by have := Nat.mul_le_mul_left base least; omega)⟩

theorem wireDivisor_actual {chip : FtdiChip} {base eighths : Nat} {usbIndex : UInt16}
    (clock : base = 3000000 ∨ base = 12000000) (least : 8 ≤ eighths) (most : eighths ≤ 0x1ffff) :
    (wireDivisor chip base eighths usbIndex).actual.toNat = rounded (8 * base) eighths := by
  have bounds := rounded_bounds clock least most
  exact UInt32.toNat_ofNat_of_lt' (by simp only [UInt32.size]; omega)

/-- **The conversion in closed form**: every rate that is not zero has a divisor. -/
theorem convertBaudRate_eq {baud : UInt32} {chip : FtdiChip} (usbIndex : UInt16)
    (positive : 0 < baud.toNat) (signed : chip = .ft232Am → baud.toNat < 2147483648) :
    convertBaudRate baud chip usbIndex = .ok (some (wireDivisor chip (baseClock chip baud.toNat)
      (chosenEighths chip baud.toNat) usbIndex)) := by
  have nonzero : baud ≠ 0 := by
    rintro rfl
    exact Nat.lt_irrefl 0 positive
  have divisor := chosenEighths_bounds chip positive
  have rate := rounded_bounds (baseClock_cases chip baud.toNat)
    (show 8 ≤ chosenEighths chip baud.toNat by omega) divisor.1
  rw [convertBaudRate, if_neg nonzero, rateBits_eq positive signed, ok_bind]
  exact if_neg (by omega)

theorem convertBaudRate_zero (chip : FtdiChip) (usbIndex : UInt16) :
    convertBaudRate 0 chip usbIndex = .ok none := by
  rw [convertBaudRate, if_pos rfl, pure_eq_ok]

/-- The rate that a conversion reports. -/
def actualRate (chip : FtdiChip) (baud : Nat) : Nat :=
  rounded (8 * baseClock chip baud) (chosenEighths chip baud)

theorem convertBaudRate_actual {baud : UInt32} {chip : FtdiChip} {usbIndex : UInt16}
    {divisor : BaudDivisor} (positive : 0 < baud.toNat)
    (signed : chip = .ft232Am → baud.toNat < 2147483648)
    (converted : convertBaudRate baud chip usbIndex = .ok (some divisor)) :
    divisor.actual.toNat = actualRate chip baud.toNat := by
  have bounds := chosenEighths_bounds chip positive
  rw [convertBaudRate_eq usbIndex positive signed, Except.ok.injEq, Option.some.injEq] at converted
  rw [← converted, wireDivisor_actual (baseClock_cases chip _) (by omega) bounds.1, actualRate]

theorem actualRate_ft232Am (baud : Nat) :
    actualRate .ft232Am baud = rounded 24000000 (amEighths baud) := by
  rw [actualRate, baseClock_ft232Am, chosenEighths, if_pos rfl]

theorem actualRate_bounds (chip : FtdiChip) {baud : Nat} (positive : 0 < baud) :
    183 ≤ actualRate chip baud ∧ actualRate chip baud ≤ 12000000 := by
  have divisor := chosenEighths_bounds chip positive
  have clock := baseClock_cases chip baud
  have rate := rounded_bounds clock (show 8 ≤ chosenEighths chip baud by omega) divisor.1
  rw [actualRate]
  omega

/-- **The first half of `set_baud_rate` in closed form**: a rate that is not zero is rejected only when
the actual rate is more than 5 percent off. -/
theorem baudDivisor_eq {baud : UInt32} {chip : FtdiChip} (usbIndex : UInt16)
    (positive : 0 < baud.toNat) (signed : chip = .ft232Am → baud.toNat < 2147483648) :
    baudDivisor baud chip usbIndex =
      if baud.toNat < 20 * Nat.dist (actualRate chip baud.toNat) baud.toNat then
        fail (.unsupportedBaudRate baud (UInt32.ofNat (actualRate chip baud.toNat)))
      else .ok (wireDivisor chip (baseClock chip baud.toNat) (chosenEighths chip baud.toNat)
        usbIndex) := by
  have converts := convertBaudRate_eq usbIndex positive signed
  have rate := convertBaudRate_actual positive signed converts
  have bounds := actualRate_bounds chip positive
  have word := baud.toNat_lt
  have product : (fits UInt64.size (Nat.dist (actualRate chip baud.toNat) baud.toNat * 20) :
      Checked FtdiError Nat) = .ok (20 * Nat.dist (actualRate chip baud.toNat) baud.toNat) := by
    rw [Nat.mul_comm]
    refine fits_of_lt ?_
    simp only [UInt64.size, Nat.dist]
    omega
  rw [baudDivisor, converts, ok_bind, okOr_some, ok_bind, rate, product, ok_bind]
  rfl

theorem baudDivisor_zero (chip : FtdiChip) (usbIndex : UInt16) :
    baudDivisor 0 chip usbIndex = fail .invalidBaudRate := by
  rw [baudDivisor, convertBaudRate_zero, ok_bind, okOr_none, fail_bind]

/-- A divisor that is accepted is the one of the conversion. -/
theorem of_baudDivisor {baud : UInt32} {chip : FtdiChip} {usbIndex : UInt16} {divisor : BaudDivisor}
    (signed : chip = .ft232Am → baud.toNat < 2147483648)
    (accepted : baudDivisor baud chip usbIndex = .ok divisor) :
    0 < baud.toNat ∧ divisor = wireDivisor chip (baseClock chip baud.toNat)
      (chosenEighths chip baud.toNat) usbIndex := by
  rcases Nat.eq_zero_or_pos baud.toNat with zero | positive
  · obtain rfl : baud = 0 := UInt32.toNat_inj.mp zero
    rw [baudDivisor_zero] at accepted
    exact absurd accepted (fail_ne_ok _ _)
  · rw [baudDivisor_eq usbIndex positive signed] at accepted
    split at accepted
    · exact absurd accepted (fail_ne_ok _ _)
    · exact ⟨positive, (Except.ok.inj accepted).symm⟩

end PioUsbHost.Ftdi
