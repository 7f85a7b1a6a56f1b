import Cutout.Library.Framing
import Cutout.PevcapFormat

/-! The binary container of a capture: its encoder, its decoder, and the reader that gives
its events one by one. The JSON of a single header, record, location or settings observation
is what the serialization crate makes of it. -/

namespace Cutout.Pevcap
open Library
open Protocols (Byte)

variable {Telemetry : Type}

/-- `b"PEVCAP\0\0"`. -/
def pevcapMagic : List Byte := [80, 69, 86, 67, 65, 80, 0, 0]

def binaryLengthPrefixBytes : Nat := 4
def maxStreamPayloadBytes : Nat := 1024 * 1024

/-- What the JSON crate writes and reads, and the identity a text spells for the UUID crate. -/
structure PevcapCrates (Telemetry : Type) where
  headerToVec : PevcapHeaderJson → Option (List Byte)
  headerFromSlice : List Byte → Option PevcapHeaderJson
  recordToVec : PevcapRecordJson Telemetry → Option (List Byte)
  recordFromSlice : List Byte → Option (PevcapRecordJson Telemetry)
  locationToVec : PevcapLocationSample → Option (List Byte)
  locationFromSlice : List Byte → Option PevcapLocationSample
  settingsToVec : CaptureSettingsObservation → Option (List Byte)
  settingsFromSlice : List Byte → Option CaptureSettingsObservation
  uuid : String → Option String

variable (crates : PevcapCrates Telemetry)

inductive PevcapBinarySection where
  | settingsObservationCount | settingsObservation | magic | version | header | recordCount | locationCount | record | location
  deriving DecidableEq

inductive PevcapBinaryError where
  | settingsObservation (source : CaptureSettingsObservationError)
  | serialize
  | deserialize (part : PevcapBinarySection)
  | invalidMagic
  | unsupportedVersion (version : PevcapFormatVersion)
  | truncated (part : PevcapBinarySection)
  | trailingBytes (len : Nat)
  | lengthTooLarge (part : PevcapBinarySection) (len : Nat)
  | payloadTooLarge (part : PevcapBinarySection) (len max : Nat)
  | header (source : PevcapHeaderError)
  | record (source : PevcapRecordError)
  deriving DecidableEq

section Writing

def writeU16Le (output : List Byte) (value : Nat) : List Byte := output ++ littleEndian 2 value

def writeU32Le (output : List Byte) (value : Nat) : List Byte := output ++ littleEndian 4 value

/-- `u32::try_from(len)` with its error, then the word. -/
def writeLength (output : List Byte) (part : PevcapBinarySection) (len : Nat) : Except PevcapBinaryError (List Byte) := do
  demand (len ≤ Protocols.u32Max) (.lengthTooLarge part len)
  return writeU32Le output len

def writeLenPrefixed (output : List Byte) (part : PevcapBinarySection) (payload : List Byte) :
    Except PevcapBinaryError (List Byte) := do
  let output ← writeLength output part payload.length
  return output ++ payload

def writeRecord (output : List Byte) (record : PevcapRecord Telemetry) : Except PevcapBinaryError (List Byte) := do
  let payload ← okOr (crates.recordToVec (.ofRecord record)) .serialize
  writeLenPrefixed output .record payload

def writeLocation (output : List Byte) (location : PevcapLocationSample) : Except PevcapBinaryError (List Byte) := do
  let payload ← okOr (crates.locationToVec location) .serialize
  writeLenPrefixed output .location payload

def writeSettingsObservation (output : List Byte) (observation : CaptureSettingsObservation) :
    Except PevcapBinaryError (List Byte) := do
  (observation.validate crates.uuid).mapError .settingsObservation
  let payload ← okOr (crates.settingsToVec observation) .serialize
  writeLenPrefixed output .settingsObservation payload

def writeBinarySettingsObservations (output : List Byte) (observations : List CaptureSettingsObservation) :
    Except PevcapBinaryError (List Byte) := do
  let output ← writeLength output .settingsObservationCount observations.length
  observations.foldlM (writeSettingsObservation crates) output

def PevcapCapture.toBinary (capture : PevcapCapture Telemetry) : Except PevcapBinaryError (List Byte) := do
  demand capture.version.isSupported (.unsupportedVersion capture.version)
  (ensureSettingsObservationCount capture.settingsObservations.length).mapError .settingsObservation
  let header ← okOr (crates.headerToVec (.ofHeader capture.header)) .serialize
  let output := writeU16Le (writeU16Le pevcapMagic capture.version.major) capture.version.minor
  let output ← writeLenPrefixed output .header header
  let output ← writeLength output .recordCount capture.records.length
  let output ← capture.records.foldlM (writeRecord crates) output
  let output ← writeLength output .locationCount capture.locations.length
  let output ← capture.locations.foldlM (writeLocation crates) output
  writeBinarySettingsObservations crates output capture.settingsObservations

end Writing

section Reading

def readExact (part : PevcapBinarySection) (len : Nat) (input : List Byte) :
    Except PevcapBinaryError (List Byte × List Byte) := do
  demand (len ≤ input.length) (.truncated part)
  return input.splitAt len

def readU16Le (part : PevcapBinarySection) (input : List Byte) : Except PevcapBinaryError (Nat × List Byte) := do
  let (bytes, rest) ← readExact part 2 input
  return (fromLittleEndian bytes, rest)

def readU32Le (part : PevcapBinarySection) (input : List Byte) : Except PevcapBinaryError (Nat × List Byte) := do
  let (bytes, rest) ← readExact part binaryLengthPrefixBytes input
  return (fromLittleEndian bytes, rest)

def readLenPrefixed (part : PevcapBinarySection) (input : List Byte) :
    Except PevcapBinaryError (List Byte × List Byte) := do
  let (len, rest) ← readU32Le part input
  readExact part len rest

def headerFromPayload (payload : List Byte) : Except PevcapBinaryError PevcapHeader := do
  let header ← okOr (crates.headerFromSlice payload) (.deserialize .header)
  header.tryIntoHeader.mapError .header

def recordFromPayload (payload : List Byte) : Except PevcapBinaryError (PevcapRecord Telemetry) := do
  let record ← okOr (crates.recordFromSlice payload) (.deserialize .record)
  record.tryIntoRecord.mapError .record

def locationFromPayload (payload : List Byte) : Except PevcapBinaryError PevcapLocationSample :=
  okOr (crates.locationFromSlice payload) (.deserialize .location)

def settingsFromPayload (payload : List Byte) : Except PevcapBinaryError CaptureSettingsObservation := do
  let observation ← okOr (crates.settingsFromSlice payload) (.deserialize .settingsObservation)
  (observation.validate crates.uuid).mapError .settingsObservation
  return observation

/-- A length-prefixed payload and what it decodes to. -/
def readItem {α : Type} (part : PevcapBinarySection) (decode : List Byte → Except PevcapBinaryError α) (input : List Byte) :
    Except PevcapBinaryError (α × List Byte) := do
  let (payload, rest) ← readLenPrefixed part input
  let item ← decode payload
  return (item, rest)

/-- Every announced item needs room for its length at least. -/
def ensureCountFraming (count remainingLen : Nat) (part : PevcapBinarySection) : Except PevcapBinaryError Unit :=
  demand (count ≤ remainingLen / binaryLengthPrefixBytes) (.truncated part)

def ensureBinarySettingsObservationCount (count : Nat) : Except PevcapBinaryError Unit :=
  (ensureSettingsObservationCount count).mapError .settingsObservation

/-- As many items as the count before them says. -/
def readItems {α : Type} (part : PevcapBinarySection) (decode : List Byte → Except PevcapBinaryError α) (count : Nat)
    (input : List Byte) : Except PevcapBinaryError (List α × List Byte) := do
  ensureCountFraming count input.length part
  readMany (readItem part decode) count input

def readVersion (input : List Byte) : Except PevcapBinaryError (PevcapFormatVersion × List Byte) := do
  let (major, rest) ← readU16Le .version input
  let (minor, rest) ← readU16Le .version rest
  return (⟨major, minor⟩, rest)

def readBinarySettingsObservations (input : List Byte) :
    Except PevcapBinaryError (List CaptureSettingsObservation × List Byte) := do
  let (count, rest) ← readU32Le .settingsObservationCount input
  ensureBinarySettingsObservationCount count
  readItems .settingsObservation (settingsFromPayload crates) count rest

/-- The container in front of its trailing bytes, which `from_binary` does not allow. -/
def PevcapCapture.readBinary (input : List Byte) : Except PevcapBinaryError (PevcapCapture Telemetry × List Byte) := do
  let (magic, rest) ← readExact .magic pevcapMagic.length input
  demand (magic = pevcapMagic) .invalidMagic
  let (version, rest) ← readVersion rest
  demand version.isSupported (.unsupportedVersion version)
  let (header, rest) ← readItem .header (headerFromPayload crates) rest
  let (recordCount, rest) ← readU32Le .recordCount rest
  let (records, rest) ← readItems .record (recordFromPayload crates) recordCount rest
  let (locationCount, rest) ← readU32Le .locationCount rest
  let (locations, rest) ← readItems .location (locationFromPayload crates) locationCount rest
  let (settingsObservations, rest) ← readBinarySettingsObservations crates rest
  return ({ version, header, records, locations, settingsObservations }, rest)

def PevcapCapture.fromBinary (input : List Byte) : Except PevcapBinaryError (PevcapCapture Telemetry) := do
  let (capture, rest) ← readBinary crates input
  demand (rest = []) (.trailingBytes rest.length)
  return capture

end Reading

section Streaming

inductive PevcapEvent (Telemetry : Type) where
  | record (record : PevcapRecord Telemetry)
  | settingsObservation (observation : CaptureSettingsObservation)
  | location (observation : PevcapLocationSample)
  | locationRejected (rejection : PevcapLocationRejection)
  deriving DecidableEq

def locationEvent (observation : PevcapLocationSample) : PevcapEvent Telemetry :=
  match observation.location.canonical with
  | .ok _ => .location observation
  | .error reason => .locationRejected ⟨observation, reason⟩

def readStreamExact (part : PevcapBinarySection) (len : Nat) (reader : List Byte) :
    Except PevcapBinaryError (List Byte × List Byte) := readExact part len reader

def readStreamU16 (part : PevcapBinarySection) (reader : List Byte) : Except PevcapBinaryError (Nat × List Byte) := do
  let (bytes, rest) ← readStreamExact part 2 reader
  return (fromLittleEndian bytes, rest)

def readStreamU32 (part : PevcapBinarySection) (reader : List Byte) : Except PevcapBinaryError (Nat × List Byte) := do
  let (bytes, rest) ← readStreamExact part 4 reader
  return (fromLittleEndian bytes, rest)

def readStreamLenPrefixed (part : PevcapBinarySection) (reader : List Byte) :
    Except PevcapBinaryError (List Byte × List Byte) := do
  let (len, rest) ← readStreamU32 part reader
  demand (len ≤ maxStreamPayloadBytes) (.payloadTooLarge part len maxStreamPayloadBytes)
  readStreamExact part len rest

structure BinaryReader where
  reader : List Byte
  remainingRecords : Nat
  remainingLocations : Nat := 0
  locationsCountRead : Bool := false
  remainingSettings : Nat := 0
  settingsCountRead : Bool := false
  header : PevcapHeader
  finished : Bool := false
  deriving DecidableEq

def newBinary (reader : List Byte) : Except PevcapBinaryError BinaryReader := do
  let (magic, reader) ← readStreamExact .magic pevcapMagic.length reader
  demand (magic = pevcapMagic) .invalidMagic
  let (major, reader) ← readStreamU16 .version reader
  let (minor, reader) ← readStreamU16 .version reader
  demand (PevcapFormatVersion.mk major minor).isSupported (.unsupportedVersion ⟨major, minor⟩)
  let (payload, reader) ← readStreamLenPrefixed .header reader
  let header ← headerFromPayload crates payload
  let (remainingRecords, reader) ← readStreamU32 .recordCount reader
  return { reader, remainingRecords, header }

namespace BinaryReader

/-- The number of locations, read once. -/
def countLocations (state : BinaryReader) : Except PevcapBinaryError BinaryReader :=
  if state.locationsCountRead then .ok state
  else do
    let (remainingLocations, reader) ← readStreamU32 .locationCount state.reader
    return { state with reader, remainingLocations, locationsCountRead := true }

/-- The number of settings observations, read and checked once. -/
def countSettings (state : BinaryReader) : Except PevcapBinaryError BinaryReader :=
  if state.settingsCountRead then .ok state
  else do
    let (remainingSettings, reader) ← readStreamU32 .settingsObservationCount state.reader
    ensureBinarySettingsObservationCount remainingSettings
    return { state with reader, remainingSettings, settingsCountRead := true }

/-- The settings, and no trailing bytes behind them. -/
def nextSettings (state : BinaryReader) : Except PevcapBinaryError (Option (PevcapEvent Telemetry) × BinaryReader) := do
  let state ← state.countSettings
  if 0 < state.remainingSettings then
    let (payload, reader) ← readStreamLenPrefixed .settingsObservation state.reader
    let observation ← settingsFromPayload crates payload
    return (some (.settingsObservation observation), { state with reader, remainingSettings := state.remainingSettings - 1 })
  else if state.finished then return (none, state)
  else
    demand (state.reader = []) (.trailingBytes state.reader.length)
    return (none, { state with reader := [], finished := true })

/-- What `next_binary_event` reads behind the records. -/
def nextAfterRecords (state : BinaryReader) : Except PevcapBinaryError (Option (PevcapEvent Telemetry) × BinaryReader) := do
  let state ← state.countLocations
  if 0 < state.remainingLocations then
    let (payload, reader) ← readStreamLenPrefixed .location state.reader
    let location ← locationFromPayload crates payload
    return (some (locationEvent location), { state with reader, remainingLocations := state.remainingLocations - 1 })
  else state.nextSettings crates

/-- `next_binary_event`: the records, the locations, the settings. -/
def next (state : BinaryReader) : Except PevcapBinaryError (Option (PevcapEvent Telemetry) × BinaryReader) :=
  if 0 < state.remainingRecords then do
    let (payload, reader) ← readStreamLenPrefixed .record state.reader
    let record ← recordFromPayload crates payload
    return (some (.record record), { state with reader, remainingRecords := state.remainingRecords - 1 })
  else state.nextAfterRecords crates

end BinaryReader

end Streaming
end Cutout.Pevcap
