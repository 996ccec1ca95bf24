/-
**The pipe contract, as a class driver sees it.**

A class driver awaits transfers on its pipes. What the pipes will do is an input: a list of the
outcomes of its IN transfers and one of its OUT transfers, each used up by one request. A request with
no outcome left is one that is still waiting, and that the caller may drop there.
-/

import PioUsbHost.Lib.Panic

namespace PioUsbHost.Usb

open PioUsbHost.Lib.Panic

/-- The transfer errors that the drivers see. -/
inductive PipeError where
  | bufferOverflow
  | badResponse
  | stall
  | timeout
  | disconnected
  deriving DecidableEq, Repr

/-- Where an async call has got to. -/
inductive Call (ε : Type) (α : Type) where
  | returned (result : Checked ε α)
  | waiting
  deriving DecidableEq

/-- `call.await?`, and what follows it. -/
def awaitThen {ε α β host : Type} (outcome : Call ε α × host)
    (next : α → host → Call ε β × host) : Call ε β × host :=
  match outcome with
  | (.waiting, host) => (.waiting, host)
  | (.returned (.error fault), host) => (.returned (.error fault), host)
  | (.returned (.ok value), host) => next value host

/-- The outcome of an IN transfer of one packet: what the device sent, or an error. -/
abbrev InTransfer := Except PipeError (List UInt8)

/-- The outcome of an OUT transfer. -/
abbrev OutTransfer := Except PipeError Unit

/-- A packet is written into the driver's buffer, if it fits. -/
def receive (capacity : Nat) : InTransfer → Except PipeError (List UInt8)
  | .error error => .error error
  | .ok packet => if packet.length ≤ capacity then .ok packet else .error .bufferOverflow

theorem receive_of_le {capacity : Nat} {packet : List UInt8} (fits : packet.length ≤ capacity) :
    receive capacity (.ok packet) = .ok packet :=
  if_pos fits

/-- A request that returns a packet used up a transfer of that packet. -/
theorem receive_eq_ok {capacity : Nat} {transfer : InTransfer} {packet : List UInt8} :
    receive capacity transfer = .ok packet ↔ transfer = .ok packet ∧ packet.length ≤ capacity := by
  cases transfer with
  | error error => simp [receive]
  | ok sent =>
    rw [receive]
    split
    next fits =>
      constructor
      · rintro ⟨⟩
        exact ⟨rfl, fits⟩
      · rintro ⟨same, -⟩
        exact same
    next long =>
      constructor
      · rintro ⟨⟩
      · rintro ⟨⟨⟩, fits⟩
        exact absurd fits long

end PioUsbHost.Usb
