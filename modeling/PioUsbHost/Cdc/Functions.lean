/-
**The CDC-ACM functions of a configuration.**

`CdcAcmFunctions` is the iterator over the ACM control interfaces, each of which
`discoverCandidate` validates on its own, and `CdcAcmFunction.discover` takes its first valid item.
-/

import PioUsbHost.Cdc.Discovery
import PioUsbHost.Usb.Candidates

namespace PioUsbHost.Cdc

open PioUsbHost.Lib.Panic PioUsbHost.Usb

/-- A malformed interface descriptor with enough fields to identify an ACM control interface. -/
def isMalformedAcmControl (descriptor : List UInt8) : Checked ConfigurationError Bool :=
  andThen (7 ≤ descriptor.length) do
    andThen ((← index descriptor 3) = 0) do
      andThen ((← index descriptor 5) = usbClassCommunications) do
        return (← index descriptor 6) = usbSubclassAcm

/-- What the iterator looks for. -/
def acmControls : CandidateClass ConfigurationError CdcAcmFunction where
  into := id
  isCandidate := isAcmControl
  isMalformedCandidate := isMalformedAcmControl
  malformed := id
  discoverCandidate := discoverCandidate
  missing := .missingControlInterface

/-- Iterates over the independently validated CDC-ACM functions in a configuration descriptor. -/
abbrev CdcAcmFunctions := CandidateIter

namespace CdcAcmFunctions

/-- `CdcAcmFunctions::new`. -/
def new (bytes : List UInt8) : Checked ConfigurationError CdcAcmFunctions := acmControls.new bytes

/-- Its `Iterator::next`. -/
def next (functions : CdcAcmFunctions) :
    Option (Checked ConfigurationError CdcAcmFunction) × CdcAcmFunctions :=
  acmControls.next functions

end CdcAcmFunctions

/-- Discover the first valid alternate-setting-zero CDC-ACM function. -/
def CdcAcmFunction.discover (bytes : List UInt8) : Checked ConfigurationError CdcAcmFunction :=
  acmControls.discover bytes

/-- The explicit selection is that of the class. -/
theorem discoverControlInterface_eq (bytes : List UInt8) (controlInterface : UInt8) :
    discoverControlInterface bytes controlInterface =
      acmControls.discoverInterface bytes controlInterface := by
  rw [discoverControlInterface, CandidateClass.discoverInterface, acmControls, convert_id]

end PioUsbHost.Cdc
