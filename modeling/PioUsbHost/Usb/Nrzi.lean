/-
**NRZI wire states and the bytes they carry.**

`decodeNrzi` is `decode_nrzi` of `usb.rs`, with the size of its result buffer as an argument. The
bytes of a packet reach the wire low bit first, stuffed after six ones, as changes between J and K
(`wireStates`).

* `foldl_store_dataBits`: storing the bits of a packet assembles its bytes.
* `foldlM_nrziStep`: the loop assembles exactly the bits that remain after unstuffing.
* `decodeNrzi_wireStates`: decoding the wire states of a packet recovers its bytes.
* `wireBits_of_decodeNrzi`: what the decoder accepts is such a packet, up to a stuffed zero that may
  be missing at its end.
-/

import PioUsbHost.Lib.LineCode
import PioUsbHost.Usb.Packet

namespace PioUsbHost.Usb

open PioUsbHost.Lib.LineCode

/-! ### The decoder -/

/-- A differential line state during a packet. -/
inductive WireState where
  | J
  | K
  deriving DecidableEq, Repr

/-- Why states of the wire are not bytes. -/
inductive NrziError where
  | bitStuff
  | truncatedByte
  | packetTooLong
  deriving DecidableEq, Repr

/-- The result buffer up to the byte being filled, that byte, and the index of its next bit. -/
structure DecodedBytes where
  bytes : List UInt8
  current : UInt8
  bitIndex : Nat
  deriving DecidableEq

/-- Store one bit and advance. -/
def DecodedBytes.store (result : DecodedBytes) (bitIsOne : Bool) : DecodedBytes :=
  let current :=
    if bitIsOne then result.current ||| (1 <<< UInt8.ofNat result.bitIndex) else result.current
  if result.bitIndex + 1 = 8 then { bytes := result.bytes ++ [current], current := 0, bitIndex := 0 }
  else { result with current, bitIndex := result.bitIndex + 1 }

/-- The variables of the decoding loop. -/
structure NrziDecoder where
  result : DecodedBytes
  previous : WireState
  consecutiveOnes : Nat

/-- One state of the decoding loop. -/
def nrziStep (capacity : Nat) (decoder : NrziDecoder) (state : WireState) :
    Except NrziError NrziDecoder :=
  let bitIsOne := decide (state = decoder.previous)
  if decoder.consecutiveOnes = 6 then
    if bitIsOne then .error .bitStuff
    else .ok { decoder with previous := state, consecutiveOnes := 0 }
  else if decoder.result.bytes.length ≥ capacity then
    .error .packetTooLong
  else
    .ok { result := decoder.result.store bitIsOne
          previous := state
          consecutiveOnes := if bitIsOne then decoder.consecutiveOnes + 1 else 0 }

/-- The variables before the first state, which is read against the idle J. -/
def nrziStart : NrziDecoder :=
  { result := { bytes := [], current := 0, bitIndex := 0 }, previous := .J, consecutiveOnes := 0 }

/-- **`decode_nrzi`**, into a buffer of `capacity` bytes. -/
def decodeNrzi (capacity : Nat) (states : List WireState) : Except NrziError (List UInt8) := do
  let decoder ← states.foldlM (nrziStep capacity) nrziStart
  if decoder.result.bitIndex ≠ 0 then .error .truncatedByte else .ok decoder.result.bytes

/-! ### The wire states of a packet -/

/-- The other level. -/
def WireState.flip : WireState → WireState
  | J => K
  | K => J

theorem WireState.flip_ne (state : WireState) : state.flip ≠ state := by
  cases state <;> decide

/-- The bits of a byte, in the order they are sent. -/
def byteBits (byte : UInt8) : List Bool := (List.range 8).map byte.toBitVec.getLsbD

/-- The bits of bytes, each from its lowest. -/
def dataBits (bytes : List UInt8) : List Bool := bytes.flatMap byteBits

theorem dataBits_cons (byte : UInt8) (rest : List UInt8) :
    dataBits (byte :: rest) = byteBits byte ++ dataBits rest := List.flatMap_cons

/-- The bits on the wire: a zero after every six ones. -/
def wireBits (bytes : List UInt8) : List Bool := stuff 6 0 (dataBits bytes)

/-- The states that send a packet from the idle J. -/
def wireStates (bytes : List UInt8) : List WireState := levels WireState.flip .J (wireBits bytes)

/-! ### Assembling bytes -/

/-- Storing keeps count of the bits. -/
theorem DecodedBytes.store_count (result : DecodedBytes) (bitIsOne : Bool) :
    8 * (result.store bitIsOne).bytes.length + (result.store bitIsOne).bitIndex =
      8 * result.bytes.length + result.bitIndex + 1 := by
  unfold DecodedBytes.store
  simp only
  split
  · simp only [List.length_append, List.length_singleton]
    omega
  · simp only
    omega

theorem DecodedBytes.store_bitIndex {result : DecodedBytes} (inside : result.bitIndex < 8)
    (bitIsOne : Bool) : (result.store bitIsOne).bitIndex < 8 := by
  unfold DecodedBytes.store
  simp only
  split
  · exact Nat.succ_pos 7
  · simp only
    omega

/-- The bytes already complete take no part in storing. -/
theorem DecodedBytes.foldl_store_append (front : List UInt8) (result : DecodedBytes)
    (bits : List Bool) :
    bits.foldl store { result with bytes := front ++ result.bytes } =
      { bits.foldl store result with bytes := front ++ (bits.foldl store result).bytes } := by
  induction bits generalizing result with
  | nil => rfl
  | cons bit rest ih =>
    rw [List.foldl_cons, List.foldl_cons, ← ih]
    congr 1
    unfold DecodedBytes.store
    simp only
    split
    · rw [List.append_assoc]
    · rfl

theorem foldl_store_byte : ∀ bits : BitVec 8,
    (byteBits (UInt8.ofBitVec bits)).foldl DecodedBytes.store nrziStart.result =
      { bytes := [UInt8.ofBitVec bits], current := 0, bitIndex := 0 } := by
  decide +kernel

/-- **Storing the bits of a packet assembles its bytes.** -/
theorem foldl_store_dataBits (front bytes : List UInt8) :
    (dataBits bytes).foldl DecodedBytes.store { bytes := front, current := 0, bitIndex := 0 } =
      { bytes := front ++ bytes, current := 0, bitIndex := 0 } := by
  induction bytes generalizing front with
  | nil => rw [List.append_nil]; rfl
  | cons byte rest ih =>
    have one := DecodedBytes.foldl_store_append front nrziStart.result (byteBits byte)
    rw [show byte = UInt8.ofBitVec byte.toBitVec from rfl, foldl_store_byte] at one
    have stored : (byteBits byte).foldl DecodedBytes.store
        { bytes := front, current := 0, bitIndex := 0 } =
        { bytes := front ++ [byte], current := 0, bitIndex := 0 } := by
      rw [← one]
      simp only [nrziStart, List.append_nil]
    rw [dataBits_cons, List.foldl_append, stored, ih, List.append_assoc, List.singleton_append]

/-! ### The loop -/

/-- **One state of the loop** is one bit of the unstuffing receiver. -/
theorem foldlM_nrziStep (capacity : Nat) (decoder : NrziDecoder) {states : List WireState}
    {data : List Bool}
    (unstuffed : unstuff 6 decoder.consecutiveOnes (transitions decoder.previous states) = some data)
    (inside : decoder.result.bitIndex < 8)
    (room : 8 * decoder.result.bytes.length + decoder.result.bitIndex + data.length ≤ 8 * capacity) :
    ∃ final, states.foldlM (nrziStep capacity) decoder = .ok final ∧
      final.result = data.foldl DecodedBytes.store decoder.result := by
  induction states generalizing decoder data with
  | nil =>
    cases unstuffed
    exact ⟨decoder, rfl, rfl⟩
  | cons state rest ih =>
    rw [transitions, unstuff] at unstuffed
    rw [List.foldlM_cons]
    unfold nrziStep
    by_cases full : decoder.consecutiveOnes = 6
    · rw [if_pos full] at unstuffed
      simp only [full, if_true]
      cases bit : decide (state = decoder.previous) with
      | true =>
        rw [bit, if_pos rfl] at unstuffed
        cases unstuffed
      | false =>
        rw [bit, if_neg Bool.false_ne_true] at unstuffed
        exact ih { decoder with previous := state, consecutiveOnes := 0 } unstuffed inside room
    · rw [if_neg full, Option.map_eq_some_iff] at unstuffed
      obtain ⟨later, unstuffed, rfl⟩ := unstuffed
      rw [List.length_cons] at room
      simp only [full, if_false]
      rw [if_neg (by omega)]
      refine ih
        { result := decoder.result.store (decide (state = decoder.previous))
          previous := state
          consecutiveOnes := _ } unstuffed (DecodedBytes.store_bitIndex inside _) ?_
      have count := DecodedBytes.store_count decoder.result (decide (state = decoder.previous))
      simp only
      omega

theorem byteBits_length (byte : UInt8) : (byteBits byte).length = 8 := by
  rw [byteBits, List.length_map, List.length_range]

theorem dataBits_length (bytes : List UInt8) : (dataBits bytes).length = 8 * bytes.length := by
  induction bytes with
  | nil => rfl
  | cons byte rest ih =>
    rw [dataBits_cons, List.length_append, byteBits_length, ih, List.length_cons]
    omega

/-- **Decoding the wire states of a packet recovers its bytes.** -/
theorem decodeNrzi_wireStates {capacity : Nat} {bytes : List UInt8}
    (room : bytes.length ≤ capacity) : decodeNrzi capacity (wireStates bytes) = .ok bytes := by
  have bits : unstuff 6 0 (transitions .J (wireStates bytes)) = some (dataBits bytes) := by
    rw [wireStates, transitions_levels WireState.flip_ne, wireBits, unstuff_stuff (by omega)]
  obtain ⟨final, looped, result⟩ := foldlM_nrziStep capacity nrziStart bits (Nat.succ_pos 7) (by
    rw [dataBits_length]
    simp only [nrziStart, List.length_nil]
    omega)
  rw [show nrziStart.result = { bytes := [], current := 0, bitIndex := 0 } from rfl,
    foldl_store_dataBits, List.nil_append] at result
  unfold decodeNrzi
  rw [looped]
  simp only [bind, Except.bind, result, ne_eq, not_true_eq_false, if_false]

/-! ### What the decoder accepts -/

theorem WireState.eq_flip (state other : WireState) (differs : other ≠ state) :
    other = state.flip := by
  cases state <;> cases other <;> first | rfl | exact absurd rfl differs

/-- The bits stored so far. -/
def DecodedBytes.bits (result : DecodedBytes) : List Bool :=
  dataBits result.bytes ++ (List.range result.bitIndex).map result.current.toBitVec.getLsbD

/-- The byte being filled is clear from its next bit on. -/
structure DecodedBytes.Filling (result : DecodedBytes) : Prop where
  inside : result.bitIndex < 8
  clear : ∀ index, result.bitIndex ≤ index → result.current.toBitVec.getLsbD index = false

theorem getLsbD_setBit (byte : UInt8) {bitIndex : Nat} (inside : bitIndex < 8) (index : Nat) :
    (byte ||| (1 <<< UInt8.ofNat bitIndex)).toBitVec.getLsbD index =
      (byte.toBitVec.getLsbD index || decide (index = bitIndex)) := by
  have mask : ∀ bit, bit < 8 → (1 <<< UInt8.ofNat bit : UInt8).toBitVec = BitVec.twoPow 8 bit := by
    decide
  rw [UInt8.toBitVec_or, mask bitIndex inside, BitVec.getLsbD_or, BitVec.getLsbD_twoPow]
  congr 1
  by_cases same : index = bitIndex
  · subst same
    simp [inside]
  · simp [same, Ne.symm same]

section Store

variable {result : DecodedBytes}

/-- The byte being filled, with one more bit. -/
theorem DecodedBytes.Filling.map_range (filling : result.Filling) (bitIsOne : Bool) :
    (List.range (result.bitIndex + 1)).map
        (if bitIsOne then result.current ||| (1 <<< UInt8.ofNat result.bitIndex)
          else result.current).toBitVec.getLsbD =
      (List.range result.bitIndex).map result.current.toBitVec.getLsbD ++ [bitIsOne] := by
  rw [List.range_succ, List.map_append, List.map_cons, List.map_nil]
  cases bitIsOne with
  | false =>
    rw [if_neg Bool.false_ne_true, filling.clear _ (Nat.le_refl _)]
  | true =>
    rw [if_pos rfl, getLsbD_setBit _ filling.inside, decide_eq_true rfl, Bool.or_true]
    refine congrArg (fun bits => bits ++ [true]) (List.map_congr_left ?_)
    intro index below
    have before := List.mem_range.mp below
    rw [getLsbD_setBit _ filling.inside, decide_eq_false (by omega), Bool.or_false]

/-- **Storing appends a bit.** -/
theorem DecodedBytes.Filling.store (filling : result.Filling) (bitIsOne : Bool) :
    (result.store bitIsOne).Filling ∧ (result.store bitIsOne).bits = result.bits ++ [bitIsOne] := by
  have stored := filling.map_range bitIsOne
  have inside := filling.inside
  unfold DecodedBytes.store
  simp only
  by_cases last : result.bitIndex + 1 = 8
  · rw [if_pos last]
    rw [last] at stored
    refine ⟨⟨Nat.succ_pos 7, fun index _ => ?_⟩, ?_⟩
    · exact BitVec.getLsbD_zero
    · show dataBits (result.bytes ++ [_]) ++ [] = _
      rw [dataBits, List.flatMap_append, List.flatMap_singleton, byteBits, stored,
        List.append_nil, ← dataBits, DecodedBytes.bits, List.append_assoc]
  · rw [if_neg last]
    refine ⟨⟨by simp only; omega, fun index beyond => ?_⟩, ?_⟩
    · simp only at beyond ⊢
      cases bitIsOne with
      | false =>
        rw [if_neg Bool.false_ne_true]
        exact filling.clear index (by omega)
      | true =>
        rw [if_pos rfl, getLsbD_setBit _ inside, decide_eq_false (by omega), Bool.or_false]
        exact filling.clear index (by omega)
    · show dataBits result.bytes ++ _ = _
      rw [stored, DecodedBytes.bits, List.append_assoc]

theorem DecodedBytes.Filling.foldl_store (filling : result.Filling) (bits : List Bool) :
    (bits.foldl DecodedBytes.store result).bits = result.bits ++ bits := by
  induction bits generalizing result with
  | nil => exact (List.append_nil _).symm
  | cons bit rest ih =>
    obtain ⟨next, stored⟩ := filling.store bit
    rw [List.foldl_cons, ih next, stored, List.append_assoc]
    rfl

end Store

/-- **A loop that ends** has unstuffed its states and stored their bits. -/
theorem unstuff_of_foldlM_nrziStep {capacity : Nat} {decoder final : NrziDecoder}
    {states : List WireState}
    (looped : states.foldlM (nrziStep capacity) decoder = .ok final) :
    ∃ data, unstuff 6 decoder.consecutiveOnes (transitions decoder.previous states) = some data ∧
      final.result = data.foldl DecodedBytes.store decoder.result := by
  induction states generalizing decoder with
  | nil =>
    cases looped
    exact ⟨[], rfl, rfl⟩
  | cons state rest ih =>
    rw [List.foldlM_cons] at looped
    unfold nrziStep at looped
    rw [transitions, unstuff]
    by_cases full : decoder.consecutiveOnes = 6
    · rw [if_pos full]
      simp only [full, if_true] at looped
      cases bit : decide (state = decoder.previous) with
      | true =>
        rw [bit, if_pos rfl] at looped
        cases looped
      | false =>
        rw [bit, if_neg Bool.false_ne_true] at looped
        rw [if_neg Bool.false_ne_true]
        exact ih looped
    · rw [if_neg full]
      simp only [full, if_false] at looped
      by_cases long : decoder.result.bytes.length ≥ capacity
      · rw [if_pos long] at looped
        cases looped
      · rw [if_neg long] at looped
        obtain ⟨later, unstuffed, stored⟩ := ih looped
        simp only at unstuffed stored
        exact ⟨_ :: later, by rw [unstuffed, Option.map_some], stored⟩

/-- **What the decoder accepts** carries the bits of the bytes it returns. -/
theorem unstuff_of_decodeNrzi {capacity : Nat} {states : List WireState} {bytes : List UInt8}
    (decoded : decodeNrzi capacity states = .ok bytes) :
    unstuff 6 0 (transitions .J states) = some (dataBits bytes) := by
  unfold decodeNrzi at decoded
  cases looped : states.foldlM (nrziStep capacity) nrziStart with
  | error error =>
    rw [looped] at decoded
    cases decoded
  | ok final =>
    rw [looped] at decoded
    obtain ⟨data, unstuffed, stored⟩ := unstuff_of_foldlM_nrziStep looped
    have filling : nrziStart.result.Filling :=
      ⟨Nat.succ_pos 7, fun _ _ => BitVec.getLsbD_zero⟩
    have bits := filling.foldl_store data
    rw [← stored] at bits
    simp only [bind, Except.bind] at decoded
    by_cases partByte : final.result.bitIndex ≠ 0
    · rw [if_pos partByte] at decoded
      cases decoded
    · rw [if_neg partByte] at decoded
      cases decoded
      rw [DecodedBytes.bits, not_not.mp partByte, List.range_zero, List.map_nil,
        List.append_nil] at bits
      rw [bits]
      exact unstuffed

/-- The states end in six that do not change, so that a stuffed bit is due. -/
def EndsInSixOnes (states : List WireState) : Prop :=
  List.replicate 6 true <:+ transitions .J states

instance (states : List WireState) : Decidable (EndsInSixOnes states) :=
  inferInstanceAs (Decidable (List.replicate 6 true <:+ transitions .J states))

theorem levels_transitions_J (states : List WireState) :
    levels WireState.flip .J (transitions .J states) = states :=
  levels_transitions WireState.eq_flip .J states

/-- The wire bits of the bytes that the decoder returns: those of the states, and the stuffed zero
that may be missing at the end. -/
theorem wireBits_of_decodeNrzi {capacity : Nat} {states : List WireState} {bytes : List UInt8}
    (decoded : decodeNrzi capacity states = .ok bytes) :
    wireBits bytes = transitions .J states ++ if EndsInSixOnes states then [false] else [] := by
  have unstuffed := unstuff_of_decodeNrzi decoded
  rw [wireBits, stuff_of_unstuff (by decide) unstuffed]
  by_cases missing : EndsInSixOnes states
  · rw [if_pos missing, if_pos ((receivedRun_eq_iff unstuffed).mpr missing)]
  · rw [if_neg missing, if_neg fun due => missing ((receivedRun_eq_iff unstuffed).mp due)]

/-- **The decoder accepts properly stuffed packets, but for the zero of six ones at the end.** What it
decodes is the encoding of the bytes exactly when it does not end in six ones; and two sequences with
the same bytes are one exactly when both end in six ones or neither does. -/
theorem eq_wireStates_iff_of_decodeNrzi {capacity : Nat} {states : List WireState}
    {bytes : List UInt8} (decoded : decodeNrzi capacity states = .ok bytes) :
    (states = wireStates bytes ↔ ¬ EndsInSixOnes states) ∧
      ∀ other, decodeNrzi capacity other = .ok bytes →
        (other = states ↔ (EndsInSixOnes other ↔ EndsInSixOnes states)) := by
  have wire := wireBits_of_decodeNrzi decoded
  refine ⟨?_, ?_⟩
  · rw [wireStates, wire]
    constructor
    · rintro same missing
      rw [if_pos missing] at same
      have length := congrArg List.length same
      rw [length_levels, List.length_append, length_transitions] at length
      simp at length
    · intro stuffed
      rw [if_neg stuffed, List.append_nil, levels_transitions_J]
  · intro other decodedOther
    have wireOther := wireBits_of_decodeNrzi decodedOther
    constructor
    · rintro rfl
      exact Iff.rfl
    · intro alike
      rw [wire] at wireOther
      have bits : transitions .J other = transitions .J states := by
        by_cases missing : EndsInSixOnes states
        · rw [if_pos missing, if_pos (alike.mpr missing)] at wireOther
          exact (List.append_cancel_right wireOther).symm
        · rw [if_neg missing, if_neg fun ends => missing (alike.mp ends)] at wireOther
          exact (List.append_cancel_right wireOther).symm
      rw [← levels_transitions_J other, bits, levels_transitions_J]

/-- The states of a SYNC byte. -/
theorem eq_wireStates_of_decodeNrzi_sync :
    ([.K, .J, .K, .J, .K, .J, .K, .K] : List WireState) = wireStates [sync] ∧
      ¬ EndsInSixOnes [.K, .J, .K, .J, .K, .J, .K, .K] := by
  have decoded : decodeNrzi maxDecodedBytes [.K, .J, .K, .J, .K, .J, .K, .K] = .ok [sync] := by
    decide
  exact ⟨(eq_wireStates_iff_of_decodeNrzi decoded).1.mpr (by decide), by decide⟩

/-- Without its stuffed zero at the end, `0xfc` decodes all the same. -/
theorem decodeNrzi_missing_last_stuffed_zero :
    decodeNrzi maxDecodedBytes [.K, .J, .J, .J, .J, .J, .J, .J] = .ok [0xfc] ∧
      wireStates [0xfc] = [.K, .J, .J, .J, .J, .J, .J, .J, .K] ∧
      decodeNrzi maxDecodedBytes (wireStates [0xfc]) = .ok [0xfc] := by
  decide

end PioUsbHost.Usb
