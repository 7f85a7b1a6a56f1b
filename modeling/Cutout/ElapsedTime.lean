import Cutout.Wire
import Cutout.Library.Runs

/-! Elapsed time of a ride. Pauses count as elapsed, an interruption keeps its
anchor so that the gap is counted when the same process resumes, and a stop drops
the anchor. Timestamps come from the monotonic clock of one process, in any order. -/

namespace Cutout.Rides
open Protocols (saturatingAdd u64Max)

/-- A reading of the monotonic clock: a `u64` of milliseconds. -/
structure MonotonicMilliseconds where
  asU64 : Nat
  bounded : asU64 ≤ u64Max
  deriving Repr, DecidableEq

inductive ElapsedTimeSummary where
  | unavailable
  | complete (duration : Nat)
  | partially (duration : Nat)
  deriving Repr, DecidableEq

def ElapsedTimeSummary.duration : ElapsedTimeSummary → Option Nat
  | .unavailable => none
  | .complete duration => some duration
  | .partially duration => some duration

structure ElapsedTimeStateParts where
  duration : Option Nat := none
  anchor : Option Nat := none
  running : Bool := false
  isPartial : Bool := false
  deriving Repr, DecidableEq

inductive ElapsedTimeError where
  | invalidState
  deriving Repr, DecidableEq

structure ElapsedTimeContinuation where
  parts : ElapsedTimeStateParts := {}
  deriving Repr, DecidableEq

namespace ElapsedTimeContinuation

def fromStateParts (parts : ElapsedTimeStateParts) : Except ElapsedTimeError ElapsedTimeContinuation :=
  if (parts.duration.isNone && (parts.anchor.isSome || parts.running || parts.isPartial))
      || (parts.running && parts.anchor.isNone) then .error .invalidState
  else .ok { parts }

def started (time : MonotonicMilliseconds) : ElapsedTimeContinuation :=
  { parts := { duration := some 0, anchor := some time.asU64, running := true, isPartial := false } }

def fromSummary : ElapsedTimeSummary → ElapsedTimeContinuation
  | .unavailable => { parts := { duration := none, anchor := none, running := false, isPartial := false } }
  | .complete duration => { parts := { duration := some duration, anchor := none, running := false, isPartial := false } }
  | .partially duration => { parts := { duration := some duration, anchor := none, running := false, isPartial := true } }

def addDuration (elapsed : ElapsedTimeContinuation) (milliseconds : Nat) : ElapsedTimeContinuation :=
  match elapsed.parts.duration with
  | some duration => { parts := { elapsed.parts with duration := some (saturatingAdd duration milliseconds) } }
  | none => elapsed

/-- Advances a live interval; timestamps at or before its anchor are ignored. -/
def observe (elapsed : ElapsedTimeContinuation) (time : MonotonicMilliseconds) : ElapsedTimeContinuation :=
  if !elapsed.parts.running then elapsed
  else match elapsed.parts.anchor with
    | none => elapsed
    | some anchor =>
      if time.asU64 ≤ anchor then elapsed
      else { parts := { (elapsed.addDuration (time.asU64 - anchor)).parts with anchor := some time.asU64 } }

def projectedAt (elapsed : ElapsedTimeContinuation) (time : MonotonicMilliseconds) : ElapsedTimeSummary :=
  match elapsed.parts.duration with
  | none => .unavailable
  | some duration =>
    let projected :=
      if elapsed.parts.running then
        saturatingAdd duration (match elapsed.parts.anchor with | none => 0 | some anchor => time.asU64 - anchor)
      else duration
    if elapsed.parts.isPartial then .partially projected else .complete projected

def paused (elapsed : ElapsedTimeContinuation) (time : MonotonicMilliseconds) : ElapsedTimeContinuation :=
  elapsed.observe time

def interrupted (elapsed : ElapsedTimeContinuation) (time : MonotonicMilliseconds) : ElapsedTimeContinuation :=
  { parts := { (elapsed.observe time).parts with running := false } }

def resumed (elapsed : ElapsedTimeContinuation) (time : MonotonicMilliseconds) : ElapsedTimeContinuation :=
  if elapsed.parts.running then elapsed.observe time
  else
    let known : ElapsedTimeContinuation :=
      if elapsed.parts.duration.isNone then
        { parts := { elapsed.parts with duration := some 0, isPartial := true } }
      else elapsed
    let counted := match known.parts.anchor with
      | some anchor => if time.asU64 > anchor then known.addDuration (time.asU64 - anchor) else known
      | none => known
    let anchor := match counted.parts.anchor with
      | some anchor => max anchor time.asU64
      | none => time.asU64
    { parts := { counted.parts with anchor := some anchor, running := true } }

def stopped (elapsed : ElapsedTimeContinuation) (time : MonotonicMilliseconds) : ElapsedTimeContinuation :=
  { parts := { (elapsed.observe time).parts with running := false, anchor := none } }

/-- The monotonic gap across a restart cannot be measured, so a known duration becomes a lower bound. -/
def restoredAfterRestart (elapsed : ElapsedTimeContinuation) : ElapsedTimeContinuation :=
  { parts := { elapsed.parts with
    anchor := none, running := false,
    isPartial := if elapsed.parts.duration.isSome then true else elapsed.parts.isPartial } }

def summary (elapsed : ElapsedTimeContinuation) : ElapsedTimeSummary :=
  match elapsed.parts.duration with
  | none => .unavailable
  | some duration => if elapsed.parts.isPartial then .partially duration else .complete duration

end ElapsedTimeContinuation

/-- The calls that keep one process generation's clock: no stop and no restart. -/
inductive LiveCall where
  | observe | paused | interrupted | resumed
  deriving Repr, DecidableEq

inductive ElapsedCall where
  | live (call : LiveCall) (time : MonotonicMilliseconds)
  | stopped (time : MonotonicMilliseconds)
  | restoredAfterRestart
  deriving Repr, DecidableEq

namespace ElapsedTimeContinuation

def live (elapsed : ElapsedTimeContinuation) : LiveCall → MonotonicMilliseconds → ElapsedTimeContinuation
  | .observe, time => elapsed.observe time
  | .paused, time => elapsed.paused time
  | .interrupted, time => elapsed.interrupted time
  | .resumed, time => elapsed.resumed time

def step (elapsed : ElapsedTimeContinuation) : ElapsedCall → ElapsedTimeContinuation × Unit
  | .live call time => (elapsed.live call time, ())
  | .stopped time => (elapsed.stopped time, ())
  | .restoredAfterRestart => (elapsed.restoredAfterRestart, ())

def liveStep (elapsed : ElapsedTimeContinuation) (input : LiveCall × MonotonicMilliseconds) :
    ElapsedTimeContinuation × Unit :=
  (elapsed.live input.1 input.2, ())

end ElapsedTimeContinuation

end Cutout.Rides
