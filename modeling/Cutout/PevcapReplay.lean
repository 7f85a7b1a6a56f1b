import Cutout.PevcapCodec

/-! Replaying a capture through a host session, from memory and from a stream. The protocol
session, and the state its host keeps of what it said, are a parameter; what replay does with
the outputs is a driver, so that the plain and the bounded replay are one definition. -/

namespace Cutout.Pevcap
open Connections (GattChannel)
open Library (demand)
open Protocols (Byte)

variable {Telemetry τ ε : Type}

structure LinkInfo where
  monotonicMs : UInt64
  maxWriteLen : Option UInt16
  deriving DecidableEq

inductive SessionInput where
  | linkUp (link : LinkInfo)
  | linkDown
  | notification (channel : GattChannel) (bytes : List Byte) (monotonicMs : UInt64)
  deriving DecidableEq

inductive PevcapReplayRecord (Telemetry : Type) where
  | before (record : PevcapRecord Telemetry)
  | after (record : PevcapRecord Telemetry)

/-- How a replay feeds its host, drains it, and calls the context of its caller. -/
structure ReplayDriver (Telemetry τ ε : Type) where
  ingest : SessionInput → τ → τ
  drain : τ → Except ε τ
  context : PevcapReplayRecord Telemetry → τ → τ

section Chunks

inductive PevcapReplayMode where
  | whole
  | oneByte
  | lengths (lengths : List Nat)
  deriving DecidableEq

/-- The lengths that are not zero cut the bytes, and what is left is the last chunk. -/
def chunksByLengths : List Nat → List Byte → List (List Byte)
  | [], bytes => if bytes = [] then [] else [bytes]
  | length :: lengths, bytes =>
    if length = 0 then chunksByLengths lengths bytes
    else if bytes = [] then []
    else bytes.take length :: chunksByLengths lengths (bytes.drop length)

/-- The chunks that `replay_pevcap_notification_chunks` hands on. -/
def PevcapReplayMode.chunks : PevcapReplayMode → List Byte → List (List Byte)
  | .whole, bytes => [bytes]
  | .oneByte, bytes => bytes.map fun byte => [byte]
  | .lengths plan, bytes => chunksByLengths plan bytes

structure PevcapReplayStats where
  replayInputCount : Nat := 0
  maxNotificationLen : Nat := 0
  deriving DecidableEq

def PevcapReplayStats.addInputs (stats : PevcapReplayStats) (count : Nat) : PevcapReplayStats :=
  { stats with replayInputCount := stats.replayInputCount + count }

/-- What a record adds to the counts. -/
def PevcapReplayStats.note (stats : PevcapReplayStats) (record : PevcapRecord Telemetry) : PevcapReplayStats where
  replayInputCount := stats.replayInputCount + if record.direction ≠ .outbound then 1 else 0
  maxNotificationLen := max stats.maxNotificationLen (if record.direction = .inbound then record.bytes.length else 0)

end Chunks

namespace PevcapCapture
variable (capture : PevcapCapture Telemetry)

def containsLinkUp : Bool := capture.records.any fun record => record.direction = .linkUp

def replayInputCount : Nat :=
  (if capture.containsLinkUp then 0 else 1) + (capture.records.filter fun record => record.direction ≠ .outbound).length

def maxNotificationLen : Nat :=
  (capture.records.filterMap fun record => if record.direction = .inbound then some record.bytes.length else none).foldl max 0

end PevcapCapture

namespace ReplayDriver
variable (driver : ReplayDriver Telemetry τ ε) (mode : PevcapReplayMode)

/-- `replay_pevcap_notification`, and its bounded form: every chunk is drained. -/
def replayNotification (record : PevcapRecord Telemetry) (state : τ) : Except ε τ :=
  (mode.chunks record.bytes).foldlM (fun state bytes =>
    driver.drain (driver.ingest (.notification record.characteristic bytes record.monotonicMs) state)) state

/-- One record, between the two calls of the context. -/
def replayRecord (state : τ) (record : PevcapRecord Telemetry) : Except ε τ := do
  let state := driver.context (.before record) state
  let state ← match record.direction with
    | .linkUp => pure (driver.ingest (.linkUp ⟨record.monotonicMs, record.linkMaxWriteLen⟩) state)
    | .linkDown => pure (driver.ingest .linkDown state)
    | .inbound => driver.replayNotification mode record state
    | .outbound => pure state
  driver.drain (driver.context (.after record) state)

def syntheticLinkUp (writeLimit : Option UInt16) (state : τ) : Except ε τ :=
  driver.drain (driver.ingest (.linkUp ⟨0, writeLimit⟩) state)

/-- `replay_pevcap_capture`: a capture without a link that comes up gets one first. -/
def replayCapture (capture : PevcapCapture Telemetry) (state : τ) : Except ε τ := do
  let state ← if capture.containsLinkUp then pure state else driver.syntheticLinkUp capture.header.writeLimit state
  capture.records.foldlM (driver.replayRecord mode) state

/-- The variables of the loop over a stream. -/
structure Streaming (τ : Type) where
  state : τ
  stats : PevcapReplayStats := {}
  sawRecord : Bool := false

/-- A turn of the loop: what a record adds to the counts does not depend on the host. -/
def replayStreamRecord (writeLimit : Option UInt16) (containsLinkUp : Option Bool) (streaming : Streaming τ)
    (record : PevcapRecord Telemetry) : Except ε (Streaming τ) := do
  let synthetic := streaming.sawRecord = false ∧ record.direction ≠ .linkUp ∧ containsLinkUp ≠ some true
  let state ← if synthetic then driver.syntheticLinkUp writeLimit streaming.state else pure streaming.state
  let state ← driver.replayRecord mode state record
  return ⟨state, (streaming.stats.addInputs (if synthetic then 1 else 0)).note record, true⟩

/-- The loop of the streaming replays over the records that the reader gives to its end. The flag says what a
preflight found about links that come up. -/
def replayStream (writeLimit : Option UInt16) (containsLinkUp : Option Bool) (records : List (PevcapRecord Telemetry))
    (state : τ) : Except ε (τ × PevcapReplayStats) := do
  let streaming ← records.foldlM (driver.replayStreamRecord mode writeLimit containsLinkUp) { state }
  if streaming.sawRecord = false ∧ containsLinkUp ≠ some true then
    let state ← driver.syntheticLinkUp writeLimit streaming.state
    return (state, streaming.stats.addInputs 1)
  else return (streaming.state, streaming.stats)

end ReplayDriver

section Host
variable {σ Event Effect : Type}

inductive SessionOutput (Event Effect : Type) where
  | event (event : Event)
  | transport (effect : Effect)
  | notificationIngest (effect : Effect)
  deriving DecidableEq

def SessionOutput.asEvent : SessionOutput Event Effect → Option Event
  | .event given => some given
  | .transport _ | .notificationIngest _ => none

inductive SessionOutputError where
  | outputOverflow (limit actual : Nat)
  deriving DecidableEq

def defaultReplayOutputLimit : Nat := 16384

structure HostSession (σ Event Effect : Type) where
  session : σ
  output : List (SessionOutput Event Effect) := []

namespace HostSession
variable (host : HostSession σ Event Effect)

def ingest (handle : SessionInput → σ → σ × List (SessionOutput Event Effect)) (input : SessionInput) :
    HostSession σ Event Effect where
  session := (handle input host.session).1
  output := host.output ++ (handle input host.session).2

def drainOutputsCheckedInto (outputs : List (SessionOutput Event Effect)) (limit : Nat) :
    Except SessionOutputError (HostSession σ Event Effect × List (SessionOutput Event Effect)) := do
  let actual := outputs.length + host.output.length
  demand (actual ≤ limit) (.outputOverflow limit actual)
  return ({ host with output := [] }, outputs ++ host.output)

end HostSession

structure SemanticReplay (σ Event Effect : Type) where
  host : HostSession σ Event Effect
  outputs : List (SessionOutput Event Effect) := []
  events : List Event := []

def drainSemanticEventsChecked (limit : Nat) (replay : SemanticReplay σ Event Effect) :
    Except SessionOutputError (SemanticReplay σ Event Effect) := do
  let (host, outputs) ← replay.host.drainOutputsCheckedInto replay.outputs limit
  return { host, outputs := [], events := replay.events ++ outputs.filterMap SessionOutput.asEvent }

/-- Semantic replay is bounded; the context may change the host. -/
def semanticDriver (handle : SessionInput → σ → σ × List (SessionOutput Event Effect))
    (context : PevcapReplayRecord Telemetry → HostSession σ Event Effect → HostSession σ Event Effect) :
    ReplayDriver Telemetry (SemanticReplay σ Event Effect) SessionOutputError where
  ingest input replay := { replay with host := replay.host.ingest handle input }
  drain := drainSemanticEventsChecked defaultReplayOutputLimit
  context record replay := { replay with host := context record replay.host }

structure ReplayChunkComparison where
  wholeSemanticEvents : Nat
  oneByteSemanticEvents : Nat
  arbitrarySemanticEvents : Nat
  oneByteMatches : Bool
  arbitraryMatches : Bool
  deriving DecidableEq

namespace PevcapCapture
variable (capture : PevcapCapture Telemetry) (handle : SessionInput → σ → σ × List (SessionOutput Event Effect))

def replaySemanticEvents (session : σ) (mode : PevcapReplayMode) : Except SessionOutputError (List Event) := do
  let replay ← (semanticDriver handle fun _ host => host).replayCapture mode capture { host := { session } }
  return replay.events

/-- Every replay starts from a session of its own. -/
def compareReplayChunks [DecidableEq Event] (session : σ) (arbitraryLengths : List Nat) :
    Except SessionOutputError ReplayChunkComparison := do
  let whole ← capture.replaySemanticEvents handle session .whole
  let oneByte ← capture.replaySemanticEvents handle session .oneByte
  let arbitrary ← capture.replaySemanticEvents handle session (.lengths arbitraryLengths)
  return ⟨whole.length, oneByte.length, arbitrary.length, oneByte = whole, arbitrary = whole⟩

end PevcapCapture

end Host
end Cutout.Pevcap
