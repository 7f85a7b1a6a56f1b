import Cutout.Wire

/-! Phone input. A contact on the input surface presses one of two actions; whatever
ends the gesture otherwise than by lifting suppresses every contact until all of them
lift. A pressed surface by itself commands nothing. -/

namespace Cutout.Core
open Protocols (Byte u16ToBe u64Max crc16Xmodem)

/-- Positive current budgets of at most 500 A, in milliamps. -/
structure PhoneDriveLimits where
  throttleMilliamps : Nat
  brakeMilliamps : Nat
  throttle_range : 1 ≤ throttleMilliamps ∧ throttleMilliamps ≤ 500000
  brake_range : 1 ≤ brakeMilliamps ∧ brakeMilliamps ≤ 500000
  deriving Repr, DecidableEq

instance : Inhabited PhoneDriveLimits := ⟨⟨3000, 3000, by decide, by decide⟩⟩

inductive PhoneDriveWriteKind where
  | setpoint | release
  deriving Repr, DecidableEq

/-- A write as it is checked again right before its submission. -/
structure PhoneDriveWrite where
  activationId : Nat
  sequence : Nat
  generation : Nat
  submitBefore : Nat
  kind : PhoneDriveWriteKind
  deriving Repr, DecidableEq

inductive PhoneControlMode where
  | disabled | buttons | area
  deriving Repr, DecidableEq

inductive PhoneDriveAction where
  | brake | throttle
  deriving Repr, DecidableEq

def PhoneDriveLimits.of (limits : PhoneDriveLimits) : PhoneDriveAction → Nat
  | .throttle => limits.throttleMilliamps
  | .brake => limits.brakeMilliamps

inductive PhoneDriveContacts where
  | invalid
  | released
  | single (contact : Nat) (region : Option PhoneDriveAction)
  | multiple
  deriving Repr, DecidableEq

inductive PhoneDriveCancelReason where
  | configurationChanged | activationChanged | inputExpired | transportUnavailable | controllerFault
  | touchCancelled | invalidContact | modeChanged | layoutChanged | navigation | sceneInactive
  | connectionChanged | regionLeft | multipleContacts | contactReplaced | generationExhausted
  deriving Repr, DecidableEq

inductive PhoneDriveInputPhase where
  | idle
  | pressed (action : PhoneDriveAction)
  | cancelled (reason : PhoneDriveCancelReason)
  deriving Repr, DecidableEq

inductive Gesture where
  | idle
  | pressed (contact : Nat) (action : PhoneDriveAction)
  | suppressed (reason : PhoneDriveCancelReason)
  deriving Repr, DecidableEq

namespace Gesture

def phase : Gesture → PhoneDriveInputPhase
  | idle => .idle
  | pressed _ action => .pressed action
  | suppressed reason => .cancelled reason

def observe : Gesture → PhoneDriveContacts → Gesture
  | _, .released => idle
  | suppressed reason, _ => suppressed reason
  | _, .invalid => suppressed .invalidContact
  | _, .multiple => suppressed .multipleContacts
  | idle, .single contact (some action) => pressed contact action
  | idle, .single _ none => suppressed .regionLeft
  | pressed contact action, .single observed region =>
    if contact ≠ observed then suppressed .contactReplaced
    else if region ≠ some action then suppressed .regionLeft
    else pressed contact action

end Gesture

/-- The current generation of input and its gesture, until the generations are exhausted. -/
inductive InputEpoch where
  | current (generation : Nat) (gesture : Gesture)
  | exhausted
  deriving Repr, DecidableEq

structure PhoneDriveInputState where
  mode : PhoneControlMode := .disabled
  epoch : InputEpoch := .current 1 .idle
  deriving Repr, DecidableEq

namespace PhoneDriveInputState

def generation (input : PhoneDriveInputState) : Option Nat :=
  match input.epoch with
  | .current generation _ => some generation
  | .exhausted => none

def phase (input : PhoneDriveInputState) : PhoneDriveInputPhase :=
  match input.epoch with
  | .current _ gesture => gesture.phase
  | .exhausted => .cancelled .generationExhausted

/-- Retires held input and opens the next generation. -/
def cancel (input : PhoneDriveInputState) (reason : PhoneDriveCancelReason) : PhoneDriveInputState :=
  { input with epoch := match input.epoch with
    | .current generation _ => if generation < u64Max then .current (generation + 1) (.suppressed reason) else .exhausted
    | .exhausted => .exhausted }

def setMode (input : PhoneDriveInputState) (mode : PhoneControlMode) : PhoneDriveInputState :=
  if input.mode ≠ mode then { input with mode }.cancel .modeChanged else input

/-- Contacts count for the current generation only. -/
def observe (input : PhoneDriveInputState) (observedGeneration : Nat) (contacts : PhoneDriveContacts) :
    PhoneDriveInputState :=
  if input.mode = .disabled then input
  else match input.epoch with
    | .current generation gesture =>
      if generation = observedGeneration then { input with epoch := .current generation (gesture.observe contacts) }
      else input
    | .exhausted => input

end PhoneDriveInputState

/-- A brake or motor current in milliamps, as a short frame. -/
def encodePhoneDriveCurrent (action : Option PhoneDriveAction) (milliamps : Nat) : Option (List Byte) :=
  if milliamps < 2 ^ 31 then
    let command : Byte := match action with
      | some .brake => 7
      | some .throttle | none => 6
    let payload := [command, UInt8.ofNat (milliamps / 2 ^ 24), UInt8.ofNat (milliamps / 2 ^ 16),
      UInt8.ofNat (milliamps / 2 ^ 8), UInt8.ofNat milliamps]
    some ([2, 5] ++ payload ++ u16ToBe (crc16Xmodem payload) ++ [3])
  else none

example : encodePhoneDriveCurrent none 0 = some [2, 5, 6, 0, 0, 0, 0, 205, 133, 3] := by decide +kernel

end Cutout.Core
