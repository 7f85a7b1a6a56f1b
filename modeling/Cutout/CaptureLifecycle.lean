import Cutout.ConnectionLifecycle
import Mathlib.Data.Finset.Insert
import Mathlib.Data.Finset.Erase

/-! The lifecycle of recordings. The writer reports asynchronously: every call
carries the generation or the finish token it belongs to, and a call that does
not belong to the present attempt changes nothing. -/

namespace Cutout.Core
open Protocols (u64Max)

inductive CaptureOrigin where
  | automatic | manual
  deriving Repr, DecidableEq

inductive CaptureTransportOwnership where
  | borrowed | captureOwned
  deriving Repr, DecidableEq

inductive CaptureTransportRelease where
  | rejected | writerOnly
  | releaseOwnedTransport (token : ConnectionAttemptToken)
  deriving Repr, DecidableEq

inductive CaptureTransportBinding where
  | borrowed
  | owned (token : ConnectionAttemptToken)
  deriving Repr, DecidableEq

inductive CaptureStage where
  | starting | recording | saving | saveFailed | finalizing | saved | failed
  deriving Repr, DecidableEq

/-- Whether this attempt still reserves the active writer and transport slot. -/
def CaptureStage.reservesWriter : CaptureStage → Bool
  | starting | recording | saving | saveFailed => true
  | finalizing | saved | failed => false

inductive CaptureCompletionDisposition where
  | currentAttempt | historicalAttempt | rejected
  deriving Repr, DecidableEq

structure CaptureAttemptSnapshot where
  generation : Nat
  origin : CaptureOrigin
  stage : CaptureStage
  deriving Repr, DecidableEq

/-- Admission for one asynchronous save, scoped to both capture and retry. -/
structure CaptureFinishToken where
  generation : Nat
  operation : Nat
  deriving Repr, DecidableEq

structure CaptureSessionLifecycle where
  nextGeneration : Nat := 0
  nextOperation : Nat := 0
  current : Option CaptureAttemptSnapshot := none
  transport : CaptureTransportBinding := .borrowed
  finishing : Option CaptureFinishToken := none
  pendingCompletions : Finset Nat := ∅
  deriving DecidableEq

namespace CaptureSessionLifecycle

/-- New recordings may start only after the previous writer has been retired. -/
def canStart (state : CaptureSessionLifecycle) : Bool :=
  state.current.all fun attempt => !attempt.stage.reservesWriter

/-- Only a borrowed link without a token, or an owned link with one, is a binding. -/
def transportBinding : CaptureTransportOwnership → Option ConnectionAttemptToken → Option CaptureTransportBinding
  | .borrowed, none => some .borrowed
  | .captureOwned, some token => some (.owned token)
  | .borrowed, some _ | .captureOwned, none => none

/-- A finalizing attempt that is replaced still owes its completion. -/
def retiredCompletions (state : CaptureSessionLifecycle) : Finset Nat :=
  match state.current with
  | some previous =>
    if previous.stage = .finalizing then insert previous.generation state.pendingCompletions
    else state.pendingCompletions
  | none => state.pendingCompletions

def beginWithTransport (state : CaptureSessionLifecycle) (origin : CaptureOrigin)
    (ownership : CaptureTransportOwnership) (connectionAttempt : Option ConnectionAttemptToken) :
    CaptureSessionLifecycle × Option Nat :=
  if state.canStart then
    match transportBinding ownership connectionAttempt with
    | none => (state, none)
    | some transport =>
      if state.nextGeneration + 1 ≤ u64Max then
        ({ state with
          nextGeneration := state.nextGeneration + 1
          pendingCompletions := state.retiredCompletions
          current := some ⟨state.nextGeneration + 1, origin, .starting⟩
          transport
          finishing := none }, some (state.nextGeneration + 1))
      else (state, none)
  else (state, none)

/-- `begin`: a recording over a borrowed link. -/
def beginBorrowed (state : CaptureSessionLifecycle) (origin : CaptureOrigin) : CaptureSessionLifecycle × Option Nat :=
  state.beginWithTransport origin .borrowed none

def transition (state : CaptureSessionLifecycle) (generation : Nat) (source target : CaptureStage) :
    CaptureSessionLifecycle × Bool :=
  match state.current with
  | none => (state, false)
  | some attempt =>
    if attempt.generation ≠ generation ∨ attempt.stage ≠ source then (state, false)
    else ({ state with current := some { attempt with stage := target } }, true)

def writerStarted (state : CaptureSessionLifecycle) (generation : Nat) : CaptureSessionLifecycle × Bool :=
  state.transition generation .starting .recording

def writerStartFailed (state : CaptureSessionLifecycle) (generation : Nat) : CaptureSessionLifecycle × Bool :=
  state.transition generation .starting .failed

/-- Claims one finish operation before the platform suspends for a flush. -/
def beginFinish (state : CaptureSessionLifecycle) (generation : Nat) :
    CaptureSessionLifecycle × Option CaptureFinishToken :=
  match state.current with
  | none => (state, none)
  | some attempt =>
    if attempt.generation ≠ generation ∨ attempt.origin ≠ .manual
        ∨ (attempt.stage ≠ .recording ∧ attempt.stage ≠ .saveFailed) then (state, none)
    else if state.nextOperation + 1 ≤ u64Max then
      ({ state with
        nextOperation := state.nextOperation + 1
        current := some { attempt with stage := .saving }
        finishing := some ⟨generation, state.nextOperation + 1⟩ }, some ⟨generation, state.nextOperation + 1⟩)
    else (state, none)

/-- Checks a flush completion before this capture's transport is released. -/
def finishFlush (state : CaptureSessionLifecycle) (token : CaptureFinishToken) (succeeded : Bool) :
    CaptureSessionLifecycle × Bool :=
  if state.finishing ≠ some token then (state, false)
  else
    match state.current with
    | none => (state, false)
    | some attempt =>
      if attempt.generation ≠ token.generation ∨ attempt.stage ≠ .saving then (state, false)
      else
        ({ state with
          finishing := none
          current := some { attempt with stage := if succeeded then .finalizing else .saveFailed } }, succeeded)

/-- Completes one flush and decides whether the link it owns can be released. -/
def finishFlushWithTransport (state : CaptureSessionLifecycle) (token : CaptureFinishToken) (succeeded : Bool)
    (currentToken : Option ConnectionAttemptToken) : CaptureSessionLifecycle × CaptureTransportRelease :=
  match state.finishFlush token succeeded with
  | (flushed, false) => (flushed, .rejected)
  | (flushed, true) =>
    match flushed.transport with
    | .owned owned =>
      ({ flushed with transport := .borrowed },
        if currentToken = some owned then .releaseOwnedTransport owned else .writerOnly)
    | .borrowed => ({ flushed with transport := .borrowed }, .writerOnly)

def writerFailed (state : CaptureSessionLifecycle) (generation : Nat) : CaptureSessionLifecycle × Bool :=
  match state.current with
  | none => (state, false)
  | some attempt =>
    if attempt.generation ≠ generation ∨ (attempt.stage ≠ .recording ∧ attempt.stage ≠ .saveFailed) then (state, false)
    else ({ state with current := some { attempt with stage := .saveFailed } }, true)

/-- Releases the active slot while an owned writer finalizes asynchronously. -/
def retire (state : CaptureSessionLifecycle) (generation : Nat) : CaptureSessionLifecycle × Bool :=
  match state.current with
  | none => (state, false)
  | some attempt =>
    if attempt.generation ≠ generation ∨ attempt.stage = .starting
        ∨ (attempt.stage.reservesWriter = false ∧ attempt.stage ≠ .finalizing) then (state, false)
    else ({ state with current := some { attempt with stage := .finalizing }, finishing := none }, true)

/-- Consumes an owned terminal receipt once, including retired writers. -/
def complete (state : CaptureSessionLifecycle) (generation : Nat) (succeeded : Bool) :
    CaptureSessionLifecycle × CaptureCompletionDisposition :=
  match state.transition generation .finalizing (if succeeded then .saved else .failed) with
  | (completed, true) => (completed, .currentAttempt)
  | (unmoved, false) =>
    if generation ∈ unmoved.pendingCompletions then
      ({ unmoved with pendingCompletions := unmoved.pendingCompletions.erase generation }, .historicalAttempt)
    else (unmoved, .rejected)

end CaptureSessionLifecycle

inductive CaptureCall where
  | beginBorrowed (origin : CaptureOrigin)
  | beginWithTransport (origin : CaptureOrigin) (ownership : CaptureTransportOwnership)
    (connectionAttempt : Option ConnectionAttemptToken)
  | writerStarted (generation : Nat)
  | writerStartFailed (generation : Nat)
  | beginFinish (generation : Nat)
  | finishFlush (token : CaptureFinishToken) (succeeded : Bool)
  | finishFlushWithTransport (token : CaptureFinishToken) (succeeded : Bool)
    (currentToken : Option ConnectionAttemptToken)
  | writerFailed (generation : Nat)
  | retire (generation : Nat)
  | complete (generation : Nat) (succeeded : Bool)
  deriving Repr, DecidableEq

inductive CaptureReply where
  | generation (issued : Option Nat)
  | accepted (accepted : Bool)
  | finishToken (issued : Option CaptureFinishToken)
  | release (release : CaptureTransportRelease)
  | completion (disposition : CaptureCompletionDisposition)
  deriving Repr, DecidableEq

def CaptureSessionLifecycle.step (state : CaptureSessionLifecycle) :
    CaptureCall → CaptureSessionLifecycle × CaptureReply
  | .beginBorrowed origin => (state.beginBorrowed origin).map id .generation
  | .beginWithTransport origin ownership attempt =>
    (state.beginWithTransport origin ownership attempt).map id .generation
  | .writerStarted generation => (state.writerStarted generation).map id .accepted
  | .writerStartFailed generation => (state.writerStartFailed generation).map id .accepted
  | .beginFinish generation => (state.beginFinish generation).map id .finishToken
  | .finishFlush token succeeded => (state.finishFlush token succeeded).map id .accepted
  | .finishFlushWithTransport token succeeded currentToken =>
    (state.finishFlushWithTransport token succeeded currentToken).map id .release
  | .writerFailed generation => (state.writerFailed generation).map id .accepted
  | .retire generation => (state.retire generation).map id .accepted
  | .complete generation succeeded => (state.complete generation succeeded).map id .completion

end Cutout.Core
