/-
**Vendor requests and the channel they address.**

A chip with several channels takes the channel of a request from the low byte of wIndex, where 0 names
no channel. Every request of the host carries its own channel, but the one that `reset` sends.

* `baudDivisor_onChannel`: the divisor bits leave the channel alone.
* `afterTurn_extends`: the requests of one call, for any property that they have.
* `setups_onChannel_iff`: a run addresses its own channel throughout exactly when it neither resets nor
  configures the UART.
-/

import PioUsbHost.Ftdi.Host
import PioUsbHost.Ftdi.Wire

namespace PioUsbHost.Ftdi

open PioUsbHost.Lib.Panic PioUsbHost.Usb

/-! ### The low byte of wIndex -/

/-- The low byte of wIndex in a SETUP packet is the channel. -/
def OnChannel (channel : UInt8) (setup : List UInt8) : Prop := setup[4]? = some channel

theorem toBytes_onChannel (setup : SetupRequest) : OnChannel setup.index.toUInt8 setup.toBytes := rfl

theorem usbIndex_toUInt8 {host : FtdiHost} (multiChannel : host.chip.isMultiChannel = true) :
    host.usbIndex.toUInt8 = host.interface.interfaceNumber + 1 := by
  rw [FtdiHost.usbIndex, if_pos multiChannel]
  simp

/-- The flow-control codes are above the channel. -/
theorem or_highByte_toUInt8 {high : UInt16} (above : high.toUInt8 = 0) (index : UInt16) :
    (high ||| index).toUInt8 = index.toUInt8 := by
  rw [UInt16.toUInt8_or, above, UInt8.zero_or]

/-- **The divisor bits leave the channel alone.** -/
theorem baudDivisor_onChannel {chip : FtdiChip} {requested : UInt32} {index : UInt16}
    {divisor : BaudDivisor} (multiChannel : chip.isMultiChannel = true) (byte : index.toNat < 256)
    (chosen : baudDivisor requested chip index = .ok divisor) :
    divisor.index.toUInt8 = index.toUInt8 := by
  have notAm : chip ≠ .ft232Am := by
    rintro rfl
    cases multiChannel
  have carries : chip.carriesChannel = true := by
    cases chip <;> first | rfl | cases multiChannel
  obtain ⟨positive, rfl⟩ := of_baudDivisor (fun am => absurd am notAm) chosen
  have bounds := chosenEighths_bounds chip positive
  apply UInt8.toNat_inj.mp
  rw [UInt16.toNat_toUInt8, UInt16.toNat_toUInt8]
  exact (wireDivisor_channel bounds.1 of_baseClock byte carries).trans (Nat.mod_eq_of_lt byte).symm

/-! ### What a call adds to the requests -/

/-- The host has sent more requests, which all have a property, and is otherwise the same UART. -/
structure Extends (Good : List UInt8 → Prop) (host after : FtdiHost) : Prop where
  interface : after.interface = host.interface
  chip : after.chip = host.chip
  setups : ∃ more, after.setups = host.setups ++ more ∧ ∀ setup ∈ more, Good setup

namespace Extends

variable {Good : List UInt8 → Prop} {host middle after : FtdiHost}

theorem refl (host : FtdiHost) : Extends Good host host :=
  ⟨rfl, rfl, [], (List.append_nil _).symm, fun _ member => absurd member (List.not_mem_nil)⟩

theorem trans (first : Extends Good host middle) (second : Extends Good middle after) :
    Extends Good host after := by
  obtain ⟨early, sentEarly, goodEarly⟩ := first.setups
  obtain ⟨late, sentLate, goodLate⟩ := second.setups
  refine ⟨second.interface.trans first.interface, second.chip.trans first.chip, early ++ late, ?_, ?_⟩
  · rw [sentLate, sentEarly, List.append_assoc]
  · intro setup member
    rcases List.mem_append.mp member with early | late
    · exact goodEarly setup early
    · exact goodLate setup late

/-- The fields that the requests depend on are the same. -/
theorem of_same (interface : after.interface = host.interface) (chip : after.chip = host.chip)
    (setups : after.setups = host.setups) : Extends Good host after :=
  ⟨interface, chip, [], by rw [setups, List.append_nil], fun _ member =>
    absurd member (List.not_mem_nil)⟩

theorem mem (grown : Extends Good host after) {setup : List UInt8} (sent : setup ∈ host.setups) :
    setup ∈ after.setups := by
  obtain ⟨more, same, -⟩ := grown.setups
  rw [same]
  exact List.mem_append_left more sent

theorem awaitThen {α β : Type} {outcome : Call FtdiError α × FtdiHost}
    {next : α → FtdiHost → Call FtdiError β × FtdiHost} (first : Extends Good host outcome.2)
    (follows : ∀ value middle, Extends Good host middle → Extends Good middle (next value middle).2) :
    Extends Good host (Usb.awaitThen outcome next).2 := by
  rcases outcome with ⟨result, middle⟩
  rcases result with (fault | value) | _
  · exact first
  · exact first.trans (follows value middle first)
  · exact first

end Extends

/-- One request, whatever becomes of it. -/
theorem vendorOut_extends {Good : List UInt8 → Prop} (host : FtdiHost) {request : UInt8}
    {value index : UInt16}
    (good : Good (SetupRequest.toBytes ⟨0x40, request, value, index, 0⟩)) :
    Extends Good host (host.vendorOut request value index).2 := by
  have one : ∀ setup ∈ [SetupRequest.toBytes ⟨0x40, request, value, index, 0⟩], Good setup := by
    intro setup member
    rw [List.mem_singleton.mp member]
    exact good
  rw [FtdiHost.vendorOut]
  split
  · exact ⟨rfl, rfl, _, rfl, one⟩
  · exact ⟨rfl, rfl, _, rfl, one⟩
  · exact ⟨rfl, rfl, _, rfl, one⟩

/-- The request of `reset`, which names no channel. -/
def resetSetup : List UInt8 := SetupRequest.toBytes ⟨0x40, requestReset, resetSio, 0, 0⟩

/-- A host of a chip with several channels, whose channel is a byte. -/
structure HasChannel (channel : UInt8) (host : FtdiHost) : Prop where
  multiChannel : host.chip.isMultiChannel = true
  small : host.interface.interfaceNumber.toNat < 255
  channel_eq : channel = host.interface.interfaceNumber + 1

namespace HasChannel

variable {channel : UInt8} {Good : List UInt8 → Prop} {host after : FtdiHost}

theorem of_extends (has : HasChannel channel host) (grown : Extends Good host after) :
    HasChannel channel after := by
  refine ⟨?_, ?_, ?_⟩
  · rw [grown.chip]
    exact has.multiChannel
  · rw [grown.interface]
    exact has.small
  · rw [grown.interface]
    exact has.channel_eq

theorem usbIndex_low (has : HasChannel channel host) : host.usbIndex.toUInt8 = channel :=
  (usbIndex_toUInt8 has.multiChannel).trans has.channel_eq.symm

theorem usbIndex_lt (has : HasChannel channel host) : host.usbIndex.toNat < 256 := by
  have small := has.small
  rw [FtdiHost.usbIndex, if_pos has.multiChannel, UInt16.toNat_add, UInt8.toNat_toUInt16]
  change (_ + 1) % _ < 256
  omega

/-- A request whose wIndex has the channel in its low byte. -/
theorem vendorOut (has : HasChannel channel host)
    (onChannel : ∀ setup, OnChannel channel setup → Good setup) {request : UInt8}
    {value index : UInt16} (low : index.toUInt8 = host.usbIndex.toUInt8) :
    Extends Good host (host.vendorOut request value index).2 := by
  refine vendorOut_extends host (onChannel _ ?_)
  rw [← has.usbIndex_low, ← low]
  exact toBytes_onChannel _

variable (has : HasChannel channel host) (onChannel : ∀ setup, OnChannel channel setup → Good setup)

include has onChannel

theorem purgeRx : Extends Good host host.purgeRx.2 :=
  Extends.awaitThen (has.vendorOut onChannel rfl) fun _ _ _ => Extends.of_same rfl rfl rfl

theorem purgeTx : Extends Good host host.purgeTx.2 := has.vendorOut onChannel rfl

theorem setBaudRate (requested : UInt32) : Extends Good host (host.setBaudRate requested).2 := by
  rw [FtdiHost.setBaudRate]
  split
  · exact Extends.refl host
  next divisor chosen =>
    have low := baudDivisor_onChannel has.multiChannel has.usbIndex_lt chosen
    exact Extends.awaitThen (has.vendorOut onChannel low) fun _ _ _ => Extends.of_same rfl rfl rfl

theorem setLineProperties (dataBits : UInt8) (stop : FtdiStopBits) (parity : FtdiParity)
    (breakEnabled : Bool) :
    Extends Good host (host.setLineProperties dataBits stop parity breakEnabled).2 := by
  rw [FtdiHost.setLineProperties]
  split
  · exact Extends.refl host
  · exact has.vendorOut onChannel rfl

theorem setFlowControl (flow : FtdiFlowControl) :
    Extends Good host (host.setFlowControl flow).2 := by
  cases flow with
  | disabled => exact has.vendorOut onChannel rfl
  | rtsCts => exact has.vendorOut onChannel (or_highByte_toUInt8 rfl _)
  | dtrDsr => exact has.vendorOut onChannel (or_highByte_toUInt8 rfl _)
  | xonXoff xon xoff => exact has.vendorOut onChannel (or_highByte_toUInt8 rfl _)

theorem setDtrRts (dtr rts : Bool) : Extends Good host (host.setDtrRts dtr rts).2 :=
  has.vendorOut onChannel rfl

theorem configureAfterReset (baudRate : UInt32) :
    Extends Good host (host.configureAfterReset baudRate).2 := by
  refine Extends.awaitThen (has.purgeTx onChannel) fun _ host grown => ?_
  have has := has.of_extends grown
  refine Extends.awaitThen (has.purgeRx onChannel) fun _ host grown => ?_
  have has := has.of_extends grown
  refine Extends.awaitThen (has.setBaudRate onChannel baudRate) fun _ host grown => ?_
  have has := has.of_extends grown
  refine Extends.awaitThen (has.setLineProperties onChannel _ _ _ _) fun _ host grown => ?_
  have has := has.of_extends grown
  exact Extends.awaitThen (has.setFlowControl onChannel _) fun _ host _ => Extends.refl host

end HasChannel

/-! ### The reset -/

/-- `reset`, of any chip. -/
theorem reset_extends {Good : List UInt8 → Prop} (host : FtdiHost) (good : Good resetSetup) :
    Extends Good host host.reset.2 :=
  Extends.awaitThen (vendorOut_extends host good) fun _ _ _ => Extends.of_same rfl rfl rfl

theorem configure8n1_extends {channel : UInt8} {Good : List UInt8 → Prop} {host : FtdiHost}
    (has : HasChannel channel host) (onChannel : ∀ setup, OnChannel channel setup → Good setup)
    (good : Good resetSetup) (baudRate : UInt32) :
    Extends Good host (host.configure8n1 baudRate).2 :=
  Extends.awaitThen (reset_extends host good) fun _ _ grown =>
    (has.of_extends grown).configureAfterReset onChannel baudRate

/-- What has been sent stays sent, whatever follows the call. -/
theorem mem_awaitThen {α β : Type} {setup : List UInt8} {outcome : Call FtdiError α × FtdiHost}
    {next : α → FtdiHost → Call FtdiError β × FtdiHost} (sent : setup ∈ outcome.2.setups)
    (follows : ∀ value, Extends (fun _ => True) outcome.2 (next value outcome.2).2) :
    setup ∈ (Usb.awaitThen outcome next).2.setups := by
  rcases outcome with ⟨result, middle⟩
  rcases result with (fault | value) | _
  · exact sent
  · exact (follows value).mem sent
  · exact sent

theorem resetSetup_mem_vendorOut (host : FtdiHost) :
    resetSetup ∈ (host.vendorOut requestReset resetSio 0).2.setups := by
  rw [FtdiHost.vendorOut]
  split
  · exact List.mem_append_right _ (List.mem_singleton_self _)
  · exact List.mem_append_right _ (List.mem_singleton_self _)
  · exact List.mem_append_right _ (List.mem_singleton_self _)

theorem resetSetup_mem_reset (host : FtdiHost) : resetSetup ∈ host.reset.2.setups :=
  mem_awaitThen (resetSetup_mem_vendorOut host) fun _ => Extends.of_same rfl rfl rfl

/-! ### Reading and writing -/

theorem copyBuffered_extends {Good : List UInt8 → Prop} (host : FtdiHost) (bufferLen : Nat) :
    Extends Good host (host.copyBuffered bufferLen).2 := by
  rw [FtdiHost.copyBuffered]
  split
  · exact Extends.of_same rfl rfl rfl
  · exact Extends.of_same rfl rfl rfl

theorem readLoop_extends {Good : List UInt8 → Prop} (bufferLen : Nat) (transfers : List InTransfer)
    (host : FtdiHost) : Extends Good host (FtdiHost.readLoop bufferLen transfers host).2 := by
  induction transfers generalizing host with
  | nil => exact Extends.of_same rfl rfl rfl
  | cons transfer rest ih =>
    rcases transfer with error | packet
    · exact Extends.of_same rfl rfl rfl
    · have written : Extends Good host (host.written packet) := Extends.of_same rfl rfl rfl
      rw [FtdiHost.readLoop]
      split
      · exact written.trans (Extends.of_same rfl rfl rfl)
      split
      · exact written.trans (ih _)
      have latched : Extends Good (host.written packet) (host.written packet).latchStatus :=
        Extends.of_same rfl rfl rfl
      split
      · exact written.trans (latched.trans (ih _))
      next long short payload =>
        have filled : Extends Good (host.written packet) ((host.written packet).latchStatus.fill
            packet.length (Nat.not_lt.mp short) (Nat.not_lt.mp long)) := Extends.of_same rfl rfl rfl
        have copied := filled.trans (copyBuffered_extends _ bufferLen)
        exact written.trans (copied.trans (Extends.of_same rfl rfl rfl))

theorem read_extends {Good : List UInt8 → Prop} (host : FtdiHost) (bufferLen : Nat) :
    Extends Good host (host.read bufferLen).2 := by
  rw [FtdiHost.read]
  split
  · exact Extends.refl host
  split
  · exact copyBuffered_extends host bufferLen
  · exact readLoop_extends bufferLen host.bulkIn host

theorem write_extends {Good : List UInt8 → Prop} (host : FtdiHost) (data : List UInt8) :
    Extends Good host (host.write data).2 := by
  rw [FtdiHost.write]
  split
  · exact Extends.refl host
  split
  · exact Extends.refl host
  · exact Extends.of_same rfl rfl rfl
  · exact Extends.of_same rfl rfl rfl

/-! ### Runs -/

/-- The call sends the request of `reset`. -/
def Resets (call : FtdiCall) : Prop := call = .reset ∨ ∃ baudRate, call = .configure8n1 baudRate

/-- **The requests of one call** are on the channel, but for that of `reset`. -/
theorem afterTurn_extends {channel : UInt8} {Good : List UInt8 → Prop} {host : FtdiHost}
    (has : HasChannel channel host) (onChannel : ∀ setup, OnChannel channel setup → Good setup)
    {turn : Turn} (resets : Resets turn.call → Good resetSetup) :
    Extends Good host (host.afterTurn turn) := by
  have supplied : Extends Good host (host.supplied turn) := Extends.of_same rfl rfl rfl
  have has := has.of_extends supplied
  refine supplied.trans ?_
  rcases turn with ⟨call, control, bulkIn, bulkOut⟩
  cases call with
  | reset => exact reset_extends _ (resets (.inl rfl))
  | purgeRx => exact has.purgeRx onChannel
  | purgeTx => exact has.purgeTx onChannel
  | configure8n1 baudRate =>
    exact configure8n1_extends has onChannel (resets (.inr ⟨baudRate, rfl⟩)) baudRate
  | setBaudRate requested => exact has.setBaudRate onChannel requested
  | setLineProperties dataBits stop parity breakEnabled =>
    exact has.setLineProperties onChannel dataBits stop parity breakEnabled
  | setFlowControl flow => exact has.setFlowControl onChannel flow
  | setDtrRts dtr rts => exact has.setDtrRts onChannel dtr rts
  | resetDataToggles => exact Extends.of_same rfl rfl rfl
  | read bufferLen => exact read_extends _ bufferLen
  | write data => exact write_extends _ data

/-- **The requests of a run** are on the channel, but for those of `reset`. -/
theorem afterTurns_extends {channel : UInt8} {Good : List UInt8 → Prop} {turns : List Turn}
    (onChannel : ∀ setup, OnChannel channel setup → Good setup)
    (resets : ∀ turn ∈ turns, Resets turn.call → Good resetSetup) {host : FtdiHost}
    (has : HasChannel channel host) : Extends Good host (host.afterTurns turns) := by
  induction turns generalizing host with
  | nil => exact Extends.refl host
  | cons turn rest ih =>
    have first := afterTurn_extends has onChannel (resets turn List.mem_cons_self)
    exact first.trans (ih (fun other member => resets other (List.mem_cons_of_mem _ member))
      (has.of_extends first))

/-- A call that resets hands its request to the pipe. -/
theorem resetSetup_mem {channel : UInt8} {host : FtdiHost} (has : HasChannel channel host)
    {turn : Turn} (resets : Resets turn.call) : resetSetup ∈ (host.afterTurn turn).setups := by
  have supplied : Extends (fun _ => True) host (host.supplied turn) := Extends.of_same rfl rfl rfl
  have has := has.of_extends supplied
  rcases turn with ⟨call, control, bulkIn, bulkOut⟩
  rcases resets with rfl | ⟨baudRate, rfl⟩
  · exact resetSetup_mem_reset _
  · refine mem_awaitThen (resetSetup_mem_reset _) fun _ => ?_
    have after : ∀ start : FtdiHost, Extends (fun _ => True) start start.reset.2 :=
      fun start => reset_extends start trivial
    exact (has.of_extends (after _)).configureAfterReset (fun _ _ => trivial) baudRate

theorem afterTurns_append (host : FtdiHost) (early late : List Turn) :
    host.afterTurns (early ++ late) = (host.afterTurns early).afterTurns late :=
  List.foldl_append

/-- **A run addresses its own channel throughout** exactly when no call of it resets the UART. -/
theorem setups_onChannel_iff (host : FtdiHost) (turns : List Turn)
    (multiChannel : host.chip.isMultiChannel = true)
    (small : host.interface.interfaceNumber.toNat < 255) (fresh : host.setups = []) :
    (∀ setup ∈ (host.afterTurns turns).setups,
        OnChannel (host.interface.interfaceNumber + 1) setup) ↔
      ∀ turn ∈ turns, ¬ Resets turn.call := by
  have has : HasChannel (host.interface.interfaceNumber + 1) host := ⟨multiChannel, small, rfl⟩
  constructor
  · intro addressed turn member resets
    obtain ⟨early, late, rfl⟩ := List.append_of_mem member
    have before : Extends (fun _ => True) host (host.afterTurns early) :=
      afterTurns_extends (fun _ _ => trivial) (fun _ _ _ => trivial) has
    have has := has.of_extends before
    have turned : Extends (fun _ => True) _ ((host.afterTurns early).afterTurn turn) :=
      afterTurn_extends has (fun _ _ => trivial) fun _ => trivial
    have after : Extends (fun _ => True) _ (((host.afterTurns early).afterTurn turn).afterTurns late) :=
      afterTurns_extends (fun _ _ => trivial) (fun _ _ _ => trivial) (has.of_extends turned)
    rw [afterTurns_append] at addressed
    have zero := Option.some.inj (addressed resetSetup (after.mem (resetSetup_mem has resets)))
    have value := congrArg UInt8.toNat zero
    rw [UInt8.toNat_add] at value
    change 0 = (_ + 1) % 256 at value
    omega
  · intro never
    have grown := afterTurns_extends (fun _ on => on)
      (fun turn member resets => absurd resets (never turn member)) has
    obtain ⟨more, sent, good⟩ := grown.setups
    rw [fresh, List.nil_append] at sent
    rw [sent]
    exact good

/-- The second UART of an FT2232H, when its receive buffer is purged and its rate is set. -/
theorem setups_onChannel_secondUart :
    let turns : List Turn :=
      [⟨.purgeRx, [.ok ()], [], []⟩, ⟨.setBaudRate 115200, [.ok ()], [], []⟩]
    (∀ setup ∈ (secondUart.afterTurns turns).setups,
        OnChannel (secondUart.interface.interfaceNumber + 1) setup) ↔
      ∀ turn ∈ turns, ¬ Resets turn.call :=
  setups_onChannel_iff secondUart _ rfl (by decide) rfl

/-- A reset of that UART does not name its channel. -/
theorem not_setups_onChannel : ¬ ∀ (host : FtdiHost) (turns : List Turn),
    host.chip.isMultiChannel = true → host.interface.interfaceNumber.toNat < 255 →
    host.setups = [] → ∀ setup ∈ (host.afterTurns turns).setups,
      OnChannel (host.interface.interfaceNumber + 1) setup := by
  intro always
  have reset := always secondUart [⟨.reset, [.ok ()], [], []⟩] rfl (by decide) rfl resetSetup
    List.mem_cons_self
  exact absurd reset (by unfold OnChannel; decide)

end PioUsbHost.Ftdi
