/-
**The packet encoder, and its round trip through the NRZI decoder.**

`EncodedPacket.encode` packs the symbols of a packet four to a byte, as `EncodedPacket::encode` does.
An error can come from any of its pushes, and the first one that does not fit ends the encoding.
`Pushed` says both at once for the symbols asked for so far: the packet holds them (`Holds`), or they
do not fit.

* `Pushed.push`, `Pushed.pushAll`: one symbol, and any number of them.
* `Encoding.bit`, `Encoding.bits`: a data bit pushes the levels of its stuffed bits.
* `symbolList_of_holds`: unpacking the bytes gives the symbols back.
* `encode_roundTrip`: when encoding succeeds, and what the decoder makes of it.
-/

import PioUsbHost.Usb.Nrzi

namespace PioUsbHost.Usb

open PioUsbHost.Lib.LineCode

/-! ### The encoder -/

/-- A two-bit command consumed by the USB TX PIO program. -/
inductive TxSymbol where
  | se0
  | K
  | release
  | J
  deriving DecidableEq, Repr

/-- `symbol as u8`. -/
def TxSymbol.code : TxSymbol → UInt8
  | se0 => 0
  | K => 1
  | release => 2
  | J => 3

/-- The symbol of two bits. -/
def TxSymbol.ofCode (code : UInt8) : TxSymbol :=
  if code = 0 then se0 else if code = 1 then K else if code = 2 then release else J

/-- `MAX_ENCODED_BYTES`. -/
def maxEncodedBytes : Nat := 48

/-- The packet does not fit. -/
structure EncodeError where
  deriving DecidableEq

/-- USB bytes encoded as four two-bit PIO commands per byte. -/
structure EncodedPacket where
  bytes : Vector UInt8 maxEncodedBytes
  len : Nat
  symbols : Nat
  deriving DecidableEq

namespace EncodedPacket

/-- One more symbol; four fill a byte, the first its highest bits. -/
def push (packet : EncodedPacket) (symbol : TxSymbol) : Except EncodeError EncodedPacket :=
  let byteIndex := packet.symbols / 4
  if inside : byteIndex < maxEncodedBytes then
    .ok
      { packet with
        bytes := packet.bytes.set byteIndex ((packet.bytes[byteIndex] <<< 2) ||| symbol.code) inside
        symbols := packet.symbols + 1 }
  else .error {}

/-- The variables of the encoding loop. -/
structure Encoder where
  packet : EncodedPacket
  currentStateIsJ : Bool
  consecutiveOnes : Nat

/-- The command that drives a level: the transmit program names the other one. -/
def levelSymbol (stateIsJ : Bool) : TxSymbol := if stateIsJ then .K else .J

/-- The loop body for one bit. -/
def encodeBit (encoder : Encoder) (bitIsOne : Bool) : Except EncodeError Encoder := do
  let consecutiveOnes := if bitIsOne then encoder.consecutiveOnes + 1 else 0
  let currentStateIsJ := if bitIsOne then encoder.currentStateIsJ else !encoder.currentStateIsJ
  let packet ← encoder.packet.push (levelSymbol currentStateIsJ)
  if consecutiveOnes = 6 then
    let packet ← packet.push (levelSymbol !currentStateIsJ)
    .ok { packet, currentStateIsJ := !currentStateIsJ, consecutiveOnes := 0 }
  else
    .ok { packet, currentStateIsJ, consecutiveOnes }

/-- `for bit_index in 0..8`. -/
def encodeByte (encoder : Encoder) (byte : UInt8) : Except EncodeError Encoder :=
  (List.range 8).foldlM
    (fun current bitIndex => encodeBit current (byte &&& (1 <<< UInt8.ofNat bitIndex) != 0)) encoder

/-- The encoder before the first byte. -/
def encoderStart : Encoder :=
  { packet := { bytes := Vector.replicate maxEncodedBytes 0, len := 0, symbols := 0 }
    currentStateIsJ := true
    consecutiveOnes := 0 }

/-- `while !packet.symbols.is_multiple_of(4)`, for as many turns as `fuel` allows. -/
def pad : Nat → EncodedPacket → Except EncodeError EncodedPacket
  | 0, packet => .ok packet
  | fuel + 1, packet =>
    if packet.symbols % 4 = 0 then .ok packet
    else do
      let packet ← packet.push .K
      pad fuel packet

/-- `packet.len = packet.symbols / 4; Ok(packet)`. -/
def measure (packet : EncodedPacket) : Except EncodeError EncodedPacket :=
  .ok { packet with len := packet.symbols / 4 }

/-- **`EncodedPacket::encode`.** Three turns always complete the last byte. -/
def encode (raw : List UInt8) : Except EncodeError EncodedPacket := do
  let encoder ← raw.foldlM encodeByte encoderStart
  let packet ← encoder.packet.push .se0
  let packet ← packet.push .release
  let packet ← pad 3 packet
  measure packet

/-- `symbol(index)`. -/
def symbol (packet : EncodedPacket) (index : Nat) : TxSymbol :=
  TxSymbol.ofCode
    ((packet.bytes.toList.getD (index / 4) 0 >>> UInt8.ofNat (6 - 2 * (index % 4))) &&& 3)

/-- All symbols of the packet, up to `symbol_count`. -/
def symbolList (packet : EncodedPacket) : List TxSymbol :=
  (List.range packet.symbols).map packet.symbol

/-! ### Symbols in bytes -/

/-- Four symbols in a byte, and the beginning of such a byte. -/
def packed (symbols : List TxSymbol) : UInt8 :=
  symbols.foldl (fun byte symbol => (byte <<< 2) ||| symbol.code) 0

theorem packed_concat (symbols : List TxSymbol) (symbol : TxSymbol) :
    packed (symbols ++ [symbol]) = (packed symbols <<< 2) ||| symbol.code := by
  unfold packed
  rw [List.foldl_append]
  rfl

/-- The four symbols. -/
def allSymbols : List TxSymbol := [.se0, .K, .release, .J]

theorem mem_allSymbols (symbol : TxSymbol) : symbol ∈ allSymbols := by
  cases symbol <;> decide

/-- Four symbols are read back from their byte. -/
theorem ofCode_packed (first second third fourth : TxSymbol) {index : Nat} (inside : index < 4) :
    TxSymbol.ofCode
        ((packed [first, second, third, fourth] >>> UInt8.ofNat (6 - 2 * index)) &&& 3) =
      [first, second, third, fourth].getD index .se0 := by
  have all : ∀ a ∈ allSymbols, ∀ b ∈ allSymbols, ∀ c ∈ allSymbols, ∀ d ∈ allSymbols, ∀ i < 4,
      TxSymbol.ofCode ((packed [a, b, c, d] >>> UInt8.ofNat (6 - 2 * i)) &&& 3) =
        [a, b, c, d].getD i .se0 := by
    decide +kernel
  exact all first (mem_allSymbols _) second (mem_allSymbols _) third (mem_allSymbols _) fourth
    (mem_allSymbols _) index inside

/-- The symbols of the byte at `index`. -/
def byteSymbols (pushed : List TxSymbol) (index : Nat) : List TxSymbol :=
  (pushed.drop (4 * index)).take 4

/-- One more symbol goes to the byte that is not full yet. -/
theorem byteSymbols_concat (pushed : List TxSymbol) (symbol : TxSymbol) (index : Nat) :
    byteSymbols (pushed ++ [symbol]) index =
      if index = pushed.length / 4 then byteSymbols pushed index ++ [symbol]
      else byteSymbols pushed index := by
  unfold byteSymbols
  by_cases current : index = pushed.length / 4
  · have short : (pushed.drop (4 * index)).length < 4 := by
      rw [List.length_drop]
      omega
    rw [if_pos current, List.drop_append_of_le_length (by omega), List.take_of_length_le (by
      rw [List.length_append, List.length_singleton]
      omega), List.take_of_length_le (Nat.le_of_lt short)]
  · rw [if_neg current]
    by_cases before : index < pushed.length / 4
    · rw [List.drop_append_of_le_length (by omega), List.take_append_of_le_length
        (by rw [List.length_drop]; omega)]
    · rw [List.drop_of_length_le (by rw [List.length_append, List.length_singleton]; omega),
        List.drop_of_length_le (by omega)]

/-- The packet holds the symbols pushed so far. -/
structure Holds (packet : EncodedPacket) (pushed : List TxSymbol) : Prop where
  symbols : packet.symbols = pushed.length
  fits : pushed.length ≤ 4 * maxEncodedBytes
  bytes : ∀ (index : Nat) (inside : index < maxEncodedBytes),
    packet.bytes[index] = packed (byteSymbols pushed index)

/-- The symbols asked for so far are in the packet, or do not fit. -/
def Pushed (pushed : List TxSymbol) : Except EncodeError EncodedPacket → Prop
  | .ok packet => packet.Holds pushed
  | .error _ => 4 * maxEncodedBytes < pushed.length

theorem holds_start : encoderStart.packet.Holds [] := by
  refine ⟨rfl, Nat.zero_le _, ?_⟩
  intro index inside
  simp [encoderStart, byteSymbols, packed]

/-- **One symbol.** -/
theorem Holds.push {packet : EncodedPacket} {pushed : List TxSymbol} (holds : packet.Holds pushed)
    (symbol : TxSymbol) : Pushed (pushed ++ [symbol]) (packet.push symbol) := by
  have symbols := holds.symbols
  unfold EncodedPacket.push
  simp only
  by_cases inside : packet.symbols / 4 < maxEncodedBytes
  · rw [dif_pos inside]
    refine ⟨?_, ?_, ?_⟩
    · simp only [symbols, List.length_append, List.length_singleton]
    · rw [List.length_append, List.length_singleton]
      omega
    · intro index within
      simp only [Vector.getElem_set]
      rw [byteSymbols_concat, ← symbols]
      by_cases current : packet.symbols / 4 = index
      · subst current
        rw [if_pos rfl, if_pos rfl, packed_concat, ← holds.bytes _ within]
      · rw [if_neg current, if_neg (Ne.symm current), holds.bytes index within]
  · rw [dif_neg inside]
    show _ < _
    rw [List.length_append, List.length_singleton]
    have fits := holds.fits
    omega

/-- Symbols that come after an error do not fit either. -/
theorem Pushed.bind {pushed more : List TxSymbol} {result : Except EncodeError EncodedPacket}
    {next : EncodedPacket → Except EncodeError EncodedPacket} (before : Pushed pushed result)
    (after : ∀ packet, packet.Holds pushed → Pushed (pushed ++ more) (next packet)) :
    Pushed (pushed ++ more) (result >>= next) := by
  cases result with
  | ok packet => exact after packet before
  | error error =>
    show _ < (pushed ++ more).length
    have long : 4 * maxEncodedBytes < pushed.length := before
    rw [List.length_append]
    omega

/-- **The padding** completes the last byte. -/
theorem Holds.pad {packet : EncodedPacket} {pushed : List TxSymbol} (holds : packet.Holds pushed)
    {fuel : Nat} (enough : (4 - pushed.length % 4) % 4 ≤ fuel) :
    Pushed (pushed ++ List.replicate ((4 - pushed.length % 4) % 4) .K) (pad fuel packet) := by
  induction fuel generalizing packet pushed with
  | zero =>
    rw [show (4 - pushed.length % 4) % 4 = 0 by omega, List.replicate_zero, List.append_nil]
    exact holds
  | succ fuel ih =>
    rw [EncodedPacket.pad, holds.symbols]
    by_cases aligned : pushed.length % 4 = 0
    · rw [if_pos aligned, show (4 - pushed.length % 4) % 4 = 0 by omega, List.replicate_zero,
        List.append_nil]
      exact holds
    · rw [if_neg aligned]
      have one : (pushed ++ [TxSymbol.K]).length = pushed.length + 1 := by simp
      rw [show (4 - pushed.length % 4) % 4 = (4 - (pushed ++ [TxSymbol.K]).length % 4) % 4 + 1 by
        omega, List.replicate_succ, ← List.singleton_append, ← List.append_assoc]
      exact (holds.push .K).bind fun packet holds => ih holds (by omega)

/-! ### Unpacking -/

/-- **Unpacking the bytes gives the symbols back.** -/
theorem symbolList_of_holds {packet : EncodedPacket} {pushed : List TxSymbol}
    (holds : packet.Holds pushed) (aligned : pushed.length % 4 = 0) :
    packet.symbolList = pushed := by
  have fits := holds.fits
  apply List.ext_getElem
  · rw [symbolList, List.length_map, List.length_range, holds.symbols]
  · intro index _ inside
    have within : index / 4 < maxEncodedBytes := by omega
    have four : (byteSymbols pushed (index / 4)).length = 4 := by
      rw [byteSymbols, List.length_take, List.length_drop]
      omega
    have byte : packet.bytes.toList.getD (index / 4) 0 =
        packed (byteSymbols pushed (index / 4)) := by
      rw [← holds.bytes _ within, List.getD_eq_getElem?_getD]
      simp [within]
    have read : (byteSymbols pushed (index / 4)).getD (index % 4) .se0 = pushed[index] := by
      rw [byteSymbols, List.getD_eq_getElem?_getD, List.getElem?_take_of_lt (by omega),
        List.getElem?_drop, Nat.div_add_mod, List.getElem?_eq_getElem inside, Option.getD_some]
    simp only [symbolList, List.getElem_map, List.getElem_range]
    rw [symbol, byte]
    generalize byteSymbols pushed (index / 4) = symbols at four read
    match symbols, four with
    | [first, second, third, fourth], _ =>
      rw [ofCode_packed _ _ _ _ (Nat.mod_lt _ (by decide)), read]

/-! ### The encoding loop -/

/-- The command that drives a level. -/
def symbolOf (level : WireState) : TxSymbol := levelSymbol (decide (level = .J))

/-- The commands that send `bits` from a level after a run of ones. -/
def dataSymbols (level : WireState) (run : Nat) (bits : List Bool) : List TxSymbol :=
  (levels WireState.flip level (stuff 6 run bits)).map symbolOf

/-- The level after them. -/
def levelAfterBits (level : WireState) (run : Nat) (bits : List Bool) : WireState :=
  lastLevel WireState.flip level (stuff 6 run bits)

theorem dataSymbols_append (level : WireState) (run : Nat) (first second : List Bool) :
    dataSymbols level run (first ++ second) =
      dataSymbols level run first ++
        dataSymbols (levelAfterBits level run first) (openRun 6 run first) second := by
  unfold dataSymbols levelAfterBits
  rw [stuff_append, levels_append, List.map_append]

theorem levelAfterBits_append (level : WireState) (run : Nat) (first second : List Bool) :
    levelAfterBits level run (first ++ second) =
      levelAfterBits (levelAfterBits level run first) (openRun 6 run first) second := by
  unfold levelAfterBits lastLevel
  rw [stuff_append, List.foldl_append]

/-- The loop stands at a level after a run of ones, with `pushed` asked for, or has failed. -/
def Encoding (level : WireState) (run : Nat) (pushed : List TxSymbol) :
    Except EncodeError Encoder → Prop
  | .ok encoder => encoder.packet.Holds pushed ∧ encoder.currentStateIsJ = decide (level = .J) ∧
      encoder.consecutiveOnes = run
  | .error _ => 4 * maxEncodedBytes < pushed.length

theorem Encoding.bind {level next : WireState} {run after : Nat} {pushed more : List TxSymbol}
    {result : Except EncodeError Encoder} {step : Encoder → Except EncodeError Encoder}
    (before : Encoding level run pushed result)
    (body : ∀ encoder, Encoding level run pushed (.ok encoder) →
      Encoding next after (pushed ++ more) (step encoder)) :
    Encoding next after (pushed ++ more) (result >>= step) := by
  cases result with
  | ok encoder => exact body encoder before
  | error error =>
    show _ < (pushed ++ more).length
    have long : 4 * maxEncodedBytes < pushed.length := before
    rw [List.length_append]
    omega

/-- A push that the loop makes, and the variables it sets afterwards. -/
theorem Pushed.encoding {level : WireState} {run : Nat} {pushed : List TxSymbol}
    {result : Except EncodeError EncodedPacket} (sent : Pushed pushed result) {stateIsJ : Bool}
    (state : stateIsJ = decide (level = .J)) :
    Encoding level run pushed (result >>= fun packet =>
      .ok { packet, currentStateIsJ := stateIsJ, consecutiveOnes := run }) := by
  cases result with
  | ok packet => exact ⟨sent, state, rfl⟩
  | error error => exact sent

theorem decide_flip (level : WireState) : decide (level.flip = .J) = !decide (level = .J) := by
  cases level <;> rfl

/-- **One data bit** pushes the level of each of its wire bits. -/
theorem Encoding.bit {level : WireState} {run : Nat} {pushed : List TxSymbol} {encoder : Encoder}
    (encoding : Encoding level run pushed (.ok encoder)) (bitIsOne : Bool) :
    Encoding (levelAfterBits level run [bitIsOne]) (openRun 6 run [bitIsOne])
      (pushed ++ dataSymbols level run [bitIsOne]) (encodeBit encoder bitIsOne) := by
  obtain ⟨holds, state, ones⟩ := encoding
  unfold encodeBit
  rw [state, ones]
  cases bitIsOne with
  | false =>
    simp only [Bool.false_eq_true, if_false, show ¬ 0 = 6 by decide]
    have sent := holds.push (levelSymbol !decide (level = .J))
    rw [← decide_flip] at sent ⊢
    exact sent.encoding rfl
  | true =>
    simp only [if_true]
    have sent := holds.push (levelSymbol (decide (level = .J)))
    unfold dataSymbols levelAfterBits
    rw [stuff, openRun]
    by_cases full : run + 1 = 6
    · simp only [full, if_true]
      have both : pushed ++ (levels WireState.flip level [true, false]).map symbolOf =
          (pushed ++ [symbolOf level]) ++ [symbolOf level.flip] := by
        rw [List.append_assoc]
        rfl
      rw [stuff, both, ← decide_flip, ← bind_assoc]
      have stuffed := sent.bind fun packet holds => holds.push (symbolOf level.flip)
      exact stuffed.encoding rfl
    · simp only [full, if_false]
      exact sent.encoding rfl

/-- **All data bits**, by induction on them. -/
theorem Encoding.bits {level : WireState} {run : Nat} {pushed : List TxSymbol} {encoder : Encoder}
    (encoding : Encoding level run pushed (.ok encoder)) (bits : List Bool) :
    Encoding (levelAfterBits level run bits) (openRun 6 run bits)
      (pushed ++ dataSymbols level run bits) (bits.foldlM encodeBit encoder) := by
  induction bits generalizing level run pushed encoder with
  | nil =>
    rw [show dataSymbols level run [] = [] from rfl, List.append_nil]
    exact encoding
  | cons bit rest ih =>
    rw [List.foldlM_cons, ← List.singleton_append, dataSymbols_append, levelAfterBits_append,
      ← List.append_assoc]
    have after : openRun 6 run ([bit] ++ rest) = openRun 6 (openRun 6 run [bit]) rest := by
      cases bit with
      | false => rfl
      | true =>
        rw [List.singleton_append, openRun, openRun]
        split <;> rfl
    rw [after]
    exact (encoding.bit bit).bind fun encoder encoding => ih encoding

/-- The bit test of the loop. -/
theorem and_shift_ne_zero (byte : UInt8) : ∀ bitIndex ∈ List.range 8,
    (byte &&& (1 <<< UInt8.ofNat bitIndex) != 0) = byte.toBitVec.getLsbD bitIndex := by
  have all : ∀ bits : BitVec 8, ∀ bitIndex ∈ List.range 8,
      (UInt8.ofBitVec bits &&& (1 <<< UInt8.ofNat bitIndex) != 0) = bits.getLsbD bitIndex := by
    decide +kernel
  exact all byte.toBitVec

theorem foldlM_congr_of_mem {first second : Encoder → Nat → Except EncodeError Encoder}
    {indices : List Nat} (same : ∀ index ∈ indices, ∀ encoder,
      first encoder index = second encoder index) (encoder : Encoder) :
    indices.foldlM first encoder = indices.foldlM second encoder := by
  induction indices generalizing encoder with
  | nil => rfl
  | cons index rest ih =>
    rw [List.foldlM_cons, List.foldlM_cons, same index List.mem_cons_self]
    congr 1
    funext next
    exact ih (fun other inside => same other (List.mem_cons_of_mem _ inside)) next

theorem encodeByte_eq (encoder : Encoder) (byte : UInt8) :
    encodeByte encoder byte = (byteBits byte).foldlM encodeBit encoder := by
  rw [encodeByte, byteBits, List.foldlM_map]
  apply foldlM_congr_of_mem
  intro bitIndex inside encoder
  rw [and_shift_ne_zero byte bitIndex inside]

theorem foldlM_encodeByte (encoder : Encoder) (raw : List UInt8) :
    raw.foldlM encodeByte encoder = (dataBits raw).foldlM encodeBit encoder := by
  induction raw generalizing encoder with
  | nil => rfl
  | cons byte rest ih =>
    rw [List.foldlM_cons, encodeByte_eq, dataBits_cons, List.foldlM_append]
    simp only [ih]

/-! ### The whole packet -/

/-- The data symbols, SE0, release, and what completes the last byte. -/
def padding (count : Nat) : List TxSymbol := List.replicate ((4 - count % 4) % 4) .K

/-- The symbols of a packet and of its end. -/
def framedSymbols (raw : List UInt8) : List TxSymbol :=
  (wireStates raw).map symbolOf ++ [.se0, .release]

/-- The symbols of a packet, to a whole byte. -/
def encodedSymbols (raw : List UInt8) : List TxSymbol :=
  framedSymbols raw ++ padding (framedSymbols raw).length

theorem length_framedSymbols (raw : List UInt8) :
    (framedSymbols raw).length = 8 * raw.length + stuffedZeros 6 0 (dataBits raw) + 2 := by
  rw [framedSymbols, List.length_append, List.length_map, wireStates, length_levels, wireBits,
    length_stuff, dataBits_length]
  rfl

/-- **Encoding pushes the symbols of the packet**, its last byte completed. -/
theorem encode_pushed (raw : List UInt8) : Pushed (encodedSymbols raw) (encode raw) := by
  have start : Encoding .J 0 [] (.ok encoderStart) := ⟨holds_start, rfl, rfl⟩
  have looped := start.bits (dataBits raw)
  rw [← foldlM_encodeByte, List.nil_append] at looped
  unfold encode
  cases loop : raw.foldlM encodeByte encoderStart with
  | error error =>
    rw [loop] at looped
    have long : 4 * maxEncodedBytes < ((wireStates raw).map symbolOf).length := looped
    show _ < (encodedSymbols raw).length
    rw [encodedSymbols, framedSymbols, List.length_append, List.length_append]
    omega
  | ok encoder =>
    rw [loop] at looped
    have data : encoder.packet.Holds ((wireStates raw).map symbolOf) := looped.1
    have framed : Pushed (framedSymbols raw)
        (encoder.packet.push .se0 >>= fun packet => packet.push .release) := by
      rw [framedSymbols, show [TxSymbol.se0, .release] = [.se0] ++ [.release] from rfl,
        ← List.append_assoc]
      exact (data.push .se0).bind fun packet holds => holds.push .release
    have padded : Pushed (encodedSymbols raw)
        (encoder.packet.push .se0 >>= (fun packet => packet.push .release) >>= pad 3) :=
      framed.bind fun packet holds => holds.pad (by omega)
    have measured : Pushed (encodedSymbols raw)
        (encoder.packet.push .se0 >>= (fun packet => packet.push .release) >>= pad 3 >>= measure) := by
      rw [← List.append_nil (encodedSymbols raw)]
      refine padded.bind fun packet holds => ?_
      rw [List.append_nil]
      exact ⟨holds.symbols, holds.fits, holds.bytes⟩
    rw [bind_assoc, bind_assoc] at measured
    exact measured

theorem len_of_measure {result : Except EncodeError EncodedPacket} {packet : EncodedPacket}
    (measured : result >>= measure = .ok packet) : packet.len = packet.symbols / 4 := by
  cases result with
  | error error => cases measured
  | ok before =>
    cases measured
    rfl

theorem encode_len {raw : List UInt8} {packet : EncodedPacket} (encoded : encode raw = .ok packet) :
    packet.len = packet.symbols / 4 := by
  unfold encode at encoded
  simp only [← bind_assoc] at encoded
  exact len_of_measure encoded

/-- The line state that a data symbol drives. -/
def wireState : TxSymbol → Option WireState
  | .K => some .J
  | .J => some .K
  | .se0 => none
  | .release => none

theorem wireState_symbolOf (level : WireState) : wireState (symbolOf level) = some level := by
  cases level <;> rfl

theorem takeWhile_encodedSymbols (raw : List UInt8) :
    (encodedSymbols raw).takeWhile (fun symbol => symbol != .se0) =
      (wireStates raw).map symbolOf := by
  rw [encodedSymbols, framedSymbols, List.append_assoc, List.takeWhile_append_of_pos]
  · exact List.append_nil _
  · intro symbol driven
    obtain ⟨level, -, rfl⟩ := List.mem_map.mp driven
    cases level <;> rfl

/-- **Encoding round-trips through the decoder.** It succeeds exactly when the data bits, one stuffed
bit for each run of six ones and the two symbols of the end of packet fit in the buffer. Then its
symbols up to the first SE0 drive the line through states that `decode_nrzi` decodes to the same
bytes; SE0, release and fewer than four symbols of padding follow. -/
theorem encode_roundTrip (raw : List UInt8) :
    ((∃ packet, encode raw = .ok packet) ↔
      8 * raw.length + stuffedZeros 6 0 (dataBits raw) + 2 ≤ 192) ∧
      ∀ packet, encode raw = .ok packet →
        ∃ data states count,
          packet.symbolList.takeWhile (fun symbol => symbol != .se0) = data ∧
            packet.symbolList = data ++ [.se0, .release] ++ List.replicate count .K ∧
            count < 4 ∧ packet.symbolList.length = 4 * packet.len ∧
            data.map wireState = states.map some ∧
            decodeNrzi maxDecodedBytes states = .ok raw := by
  have pushed := encode_pushed raw
  have framed := length_framedSymbols raw
  have length : (encodedSymbols raw).length =
      (framedSymbols raw).length + (4 - (framedSymbols raw).length % 4) % 4 := by
    rw [encodedSymbols, List.length_append, padding, List.length_replicate]
  have buffer : 4 * maxEncodedBytes = 192 := rfl
  cases encoded : encode raw with
  | error error =>
    rw [encoded] at pushed
    have long : 4 * maxEncodedBytes < (encodedSymbols raw).length := pushed
    refine ⟨iff_of_false ?_ (by omega), ?_⟩
    · rintro ⟨packet, same⟩
      cases same
    · intro packet same
      cases same
  | ok packet =>
    rw [encoded] at pushed
    have holds : packet.Holds (encodedSymbols raw) := pushed
    have fits := holds.fits
    refine ⟨iff_of_true ⟨packet, rfl⟩ (by omega), ?_⟩
    intro other same
    cases same
    have symbols := symbolList_of_holds holds (by omega)
    have short : raw.length ≤ maxDecodedBytes := by
      rw [maxDecodedBytes]
      omega
    refine ⟨_, wireStates raw, (4 - (framedSymbols raw).length % 4) % 4, rfl, ?_, by omega, ?_, ?_,
      decodeNrzi_wireStates short⟩
    · rw [symbols, takeWhile_encodedSymbols]
      rfl
    · rw [encode_len encoded, holds.symbols, symbols]
      omega
    · rw [symbols, takeWhile_encodedSymbols, List.map_map]
      exact List.map_congr_left fun level _ => wireState_symbolOf level

end EncodedPacket

end PioUsbHost.Usb
