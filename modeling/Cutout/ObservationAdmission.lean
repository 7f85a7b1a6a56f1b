import Cutout.MusicObservation

/-! The queue of admitted music observations. Each observation is classified, its
history entry claimed for writing and settled in admission order; a stop fence waits
for the observations admitted before it and reports the ones that failed. Every
operation runs under the queue's lock, so a run is a sequence of calls. -/

namespace Cutout.Music
open Protocols (u64Max)

def maxPending : Nat := 64

structure RecordingIdentity where
  rideId : String
  generation : Nat
  deriving Repr, DecidableEq

inductive AdmissionError where
  | stale | incomplete | pending | exhausted
  deriving Repr, DecidableEq

/-- An admitted observation, as its callback holds it. -/
structure ObservationLease where
  epoch : Nat
  id : Nat
  deriving Repr, DecidableEq

inductive Admission where
  | admitted (lease : ObservationLease)
  | full
  | exhausted
  deriving Repr, DecidableEq

/-- The persistence layer's answer to one attempted history write. -/
inductive HistoryReceipt where
  | recorded | duplicate | disabled | outOfOrder | rideNotOpen | full
  deriving Repr, DecidableEq

inductive Phase where
  | waiting
  | classified (recording : Option RecordingIdentity) (transition : Option MusicHistoryTransition)
  | writing
  | receipt (receipt : HistoryReceipt)
  | settled
  | failed
  deriving Repr, DecidableEq

namespace Phase

def terminal : Phase → Bool
  | settled | failed => true
  | waiting | classified _ _ | writing | receipt _ => false

/-- Nothing is left to write, or the write was answered well. -/
def accepted : Phase → Bool
  | classified none _ | classified _ none => true
  | receipt .recorded | receipt .duplicate | receipt .disabled => true
  | _ => false

def isReceipt : Phase → Bool
  | receipt _ => true
  | _ => false

end Phase

structure Entry where
  id : Nat
  owner : Option Nat
  phase : Phase
  deriving Repr, DecidableEq

structure StopState where
  id : Nat
  epoch : Nat
  cutoff : Option Nat
  failed : Bool
  failureObserved : Bool
  deriving Repr, DecidableEq

/-- The fence covers the identifiers up to its cutoff. -/
def StopState.covers (stop : StopState) (id : Nat) : Bool := stop.cutoff.any fun cutoff => decide (id ≤ cutoff)

structure ObservationQueue where
  nextId : Nat := 0
  epoch : Nat := 0
  publicationId : Option Nat := none
  entries : List Entry := []
  stopId : Nat := 0
  stop : Option StopState := none
  failure : Bool := false
  deriving Repr, DecidableEq

/-- What a classification operation answers: its error, or the transition to keep. -/
inductive ClassificationResult where
  | error
  | value (transition : Option MusicHistoryTransition)
  deriving Repr, DecidableEq

inductive ClassificationError where
  | admission (error : AdmissionError)
  | operation
  deriving Repr, DecidableEq

/-- One pass of a fence's wait: the covered work is still open, or the result. -/
inductive WaitResult where
  | blocked
  | returned (result : Except AdmissionError Unit)
  deriving DecidableEq

namespace ObservationQueue

def markFailure (queue : ObservationQueue) (epoch id : Nat) : ObservationQueue :=
  match queue.stop with
  | some stop =>
    if stop.epoch = epoch ∧ stop.covers id then { queue with stop := some { stop with failed := true } }
    else { queue with failure := true }
  | none => { queue with failure := true }

def requiredHead (queue : ObservationQueue) : Option Entry := queue.entries.find? fun entry => !entry.phase.terminal

def blocked (queue : ObservationQueue) (id : Nat) : Bool :=
  queue.stop.any fun stop => decide (stop.epoch ≠ queue.epoch) || !stop.covers id

def ready (queue : ObservationQueue) (lease : ObservationLease) : Bool :=
  decide (queue.epoch = lease.epoch) && queue.requiredHead.any (fun entry => decide (entry.id = lease.id)) &&
    !queue.blocked lease.id

def position (queue : ObservationQueue) (id : Nat) : Option Nat :=
  queue.entries.findIdx? fun entry => decide (entry.id = id)

def phaseAt (queue : ObservationQueue) (index : Nat) : Option Phase := queue.entries[index]?.map Entry.phase

def setPhase (queue : ObservationQueue) (index : Nat) (phase : Phase) : ObservationQueue :=
  { queue with entries := queue.entries.modify index fun entry => { entry with phase := phase } }

def admitObservation (queue : ObservationQueue) (owner : Option Nat) : ObservationQueue × Admission :=
  if u64Max < queue.nextId + 1 then (queue, .exhausted)
  else if maxPending ≤ queue.entries.length then (queue, .full)
  else
    ({ queue with
      nextId := queue.nextId + 1
      entries := queue.entries ++ [⟨queue.nextId, owner, .waiting⟩] }, .admitted ⟨queue.epoch, queue.nextId⟩)

/-- Starts a fence that covers all observations accepted so far. -/
def beginStop (queue : ObservationQueue) : ObservationQueue × Except AdmissionError Nat :=
  if queue.stop.isSome then (queue, .error .pending)
  else if u64Max < queue.stopId + 1 then (queue, .error .exhausted)
  else
    ({ queue with
      stopId := queue.stopId + 1
      stop := some ⟨queue.stopId, queue.epoch, queue.entries.getLast?.map Entry.id, queue.failure, false⟩
      failure := false }, .ok queue.stopId)

def requireQuiescentStop (queue : ObservationQueue) : ObservationQueue × Except AdmissionError Unit :=
  if queue.stop.isSome ∨ queue.entries.any fun entry => !entry.phase.terminal then (queue, .error .pending)
  else if queue.failure then ({ queue with failure := false }, .error .incomplete)
  else (queue, .ok ())

/-- Takes one entry off the front and keeps it, or retires it with its owner. -/
def retireEntry (owner : Option Nat) (epoch : Nat) (queue : ObservationQueue) (entry : Entry) : ObservationQueue :=
  if owner.all fun id => decide (entry.owner = some id) then
    if entry.phase.terminal then queue else queue.markFailure epoch entry.id
  else { queue with entries := queue.entries ++ [entry] }

def retireMatching (queue : ObservationQueue) (owner : Option Nat) (retire : Bool) : ObservationQueue :=
  if retire then
    let retired := queue.entries.foldl (retireEntry owner queue.epoch) { queue with entries := [] }
    if owner.isNone then { retired with epoch := min (retired.epoch + 1) u64Max } else retired
  else queue

def retireOwner (queue : ObservationQueue) (owner : Nat) (retire : Bool) : ObservationQueue :=
  queue.retireMatching (some owner) retire

def retireAll (queue : ObservationQueue) : ObservationQueue := queue.retireMatching none true

/-- Lets a synchronous operation run while the lease owns the head. -/
def withReady (queue : ObservationQueue) (lease : ObservationLease) : ObservationQueue × Except AdmissionError Unit :=
  if !queue.ready lease then (queue, .error .stale)
  else
    match (queue.entries.find? fun entry => decide (entry.id = lease.id)).map Entry.phase with
    | some .waiting => ({ queue with publicationId := some lease.id }, .ok ())
    | _ => (queue, .error .stale)

def classify (queue : ObservationQueue) (lease : ObservationLease) (recording : Option RecordingIdentity)
    (operation : ClassificationResult) : ObservationQueue × Except ClassificationError Unit :=
  if !queue.ready lease then (queue, .error (.admission .stale))
  else
    match queue.position lease.id with
    | none => (queue, .error (.admission .stale))
    | some index =>
      if queue.phaseAt index = some .waiting then
        match operation with
        | .error => ((queue.setPhase index .failed).markFailure lease.epoch lease.id, .error .operation)
        | .value transition =>
          ({ queue.setPhase index (.classified recording transition) with publicationId := some lease.id }, .ok ())
      else (queue, .error (.admission .stale))

/-- Hands out a classified transition for persistence. -/
def claimWrite (queue : ObservationQueue) (lease : ObservationLease) :
    ObservationQueue × Except AdmissionError (RecordingIdentity × MusicHistoryTransition) :=
  if !queue.ready lease then (queue, .error .stale)
  else
    match queue.position lease.id with
    | none => (queue, .error .stale)
    | some index =>
      match queue.phaseAt index with
      | some (.classified (some recording) (some transition)) =>
        (queue.setPhase index .writing, .ok (recording, transition))
      | _ => (queue, .error .stale)

def historyReceipt (queue : ObservationQueue) (lease : ObservationLease) (receipt : HistoryReceipt) : ObservationQueue :=
  if queue.ready lease then
    match queue.position lease.id with
    | none => queue
    | some index => if queue.phaseAt index = some .writing then queue.setPhase index (.receipt receipt) else queue
  else queue

def failPhase (queue : ObservationQueue) (lease : ObservationLease) (expected : Phase) : ObservationQueue :=
  if !queue.ready lease then queue
  else
    match queue.position lease.id with
    | none => queue
    | some index =>
      if queue.phaseAt index = some expected then
        let failed := queue.setPhase index .failed
        let published := if expected = .waiting then { failed with publicationId := some lease.id } else failed
        published.markFailure lease.epoch lease.id
      else queue

def historyFailed (queue : ObservationQueue) (lease : ObservationLease) : ObservationQueue :=
  queue.failPhase lease .writing

def classificationFailed (queue : ObservationQueue) (lease : ObservationLease) : ObservationQueue :=
  queue.failPhase lease .waiting

def settle (queue : ObservationQueue) (lease : ObservationLease) : ObservationQueue × Except AdmissionError Unit :=
  if queue.epoch = lease.epoch ∧
      queue.entries.any (fun entry => decide (entry.id = lease.id) && decide (entry.phase = .failed)) then
    (queue, .error .incomplete)
  else if !queue.ready lease then (queue, .error .stale)
  else
    match queue.position lease.id with
    | none => (queue, .error .stale)
    | some index =>
      match queue.phaseAt index with
      | none | some .settled => (queue, .error .stale)
      | some phase =>
        if phase.accepted then (queue.setPhase index .settled, .ok ())
        else if phase.isReceipt then
          ((queue.setPhase index .failed).markFailure lease.epoch lease.id, .error .incomplete)
        else (queue, .error .incomplete)

def release (queue : ObservationQueue) (lease : ObservationLease) : ObservationQueue :=
  if queue.epoch ≠ lease.epoch then queue
  else
    match queue.position lease.id with
    | none => queue
    | some index =>
      match queue.phaseAt index with
      | none => queue
      | some phase =>
        let released := { queue with entries := queue.entries.eraseIdx index }
        if phase.terminal then released else released.markFailure lease.epoch lease.id

def requiredFailed (queue : ObservationQueue) (lease : ObservationLease) : ObservationQueue :=
  if queue.epoch ≠ lease.epoch then queue
  else
    match queue.position lease.id with
    | none => queue
    | some index =>
      if (queue.phaseAt index).all Phase.terminal then queue
      else
        let failed := queue.setPhase index .failed
        let published := if queue.ready lease then { failed with publicationId := some lease.id } else failed
        published.markFailure lease.epoch lease.id

/-- One pass of the fence's loop; a blocked pass sleeps until the queue changes. -/
def waitResult (queue : ObservationQueue) (fence : Nat) : ObservationQueue × WaitResult :=
  match queue.stop.filter fun stop => decide (stop.id = fence) with
  | none => (queue, .returned (.error .stale))
  | some stop =>
    if stop.epoch = queue.epoch ∧ queue.entries.any fun entry => stop.covers entry.id && !entry.phase.terminal then
      (queue, .blocked)
    else if stop.failed then
      ({ queue with stop := some { stop with failureObserved := true } }, .returned (.error .incomplete))
    else (queue, .returned (.ok ()))

/-- A fence that goes away unobserved leaves its failure to the next. -/
def dropFence (queue : ObservationQueue) (fence : Nat) : ObservationQueue :=
  match queue.stop with
  | none => queue
  | some stop =>
    if stop.id ≠ fence then queue
    else { queue with stop := none, failure := queue.failure || (!stop.failureObserved && stop.failed) }

end ObservationQueue

inductive QueueCall where
  | enter (owner : Option Nat)
  | withReady (lease : ObservationLease)
  | classify (lease : ObservationLease) (recording : Option RecordingIdentity) (operation : ClassificationResult)
  | claimWrite (lease : ObservationLease)
  | historyReceipt (lease : ObservationLease) (receipt : HistoryReceipt)
  | historyFailed (lease : ObservationLease)
  | classificationFailed (lease : ObservationLease)
  | settle (lease : ObservationLease)
  | release (lease : ObservationLease)
  | requiredFailed (lease : ObservationLease)
  | retireOwner (owner : Nat) (retire : Bool)
  | retireAll
  | beginStop
  | waitResult (fence : Nat)
  | dropFence (fence : Nat)
  | requireQuiescentStop
  deriving Repr, DecidableEq

inductive QueueReply where
  | admission (admission : Admission)
  | operated (result : Except AdmissionError Unit)
  | classified (result : Except ClassificationError Unit)
  | claimed (result : Except AdmissionError (RecordingIdentity × MusicHistoryTransition))
  | settled (result : Except AdmissionError Unit)
  | fence (result : Except AdmissionError Nat)
  | waited (result : WaitResult)
  | quiescent (result : Except AdmissionError Unit)
  | done
  deriving DecidableEq

def ObservationQueue.step (queue : ObservationQueue) : QueueCall → ObservationQueue × QueueReply
  | .enter owner => (queue.admitObservation owner).map id .admission
  | .withReady lease => (queue.withReady lease).map id .operated
  | .classify lease recording operation => (queue.classify lease recording operation).map id .classified
  | .claimWrite lease => (queue.claimWrite lease).map id .claimed
  | .historyReceipt lease receipt => (queue.historyReceipt lease receipt, .done)
  | .historyFailed lease => (queue.historyFailed lease, .done)
  | .classificationFailed lease => (queue.classificationFailed lease, .done)
  | .settle lease => (queue.settle lease).map id .settled
  | .release lease => (queue.release lease, .done)
  | .requiredFailed lease => (queue.requiredFailed lease, .done)
  | .retireOwner owner retire => (queue.retireOwner owner retire, .done)
  | .retireAll => (queue.retireAll, .done)
  | .beginStop => queue.beginStop.map id .fence
  | .waitResult fence => (queue.waitResult fence).map id .waited
  | .dropFence fence => (queue.dropFence fence, .done)
  | .requireQuiescentStop => queue.requireQuiescentStop.map id .quiescent

end Cutout.Music
