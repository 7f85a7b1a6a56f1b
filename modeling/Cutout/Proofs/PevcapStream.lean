import Cutout.Library.Source
import Cutout.Proofs.PevcapContainer

/-! The streaming reader of the binary container, section by section. Read to its end, a
container gives the events of its records, then of its locations, then of its settings. -/

namespace Cutout.Pevcap
open Library
open Protocols (Byte)

variable {Telemetry : Type} {crates : PevcapCrates Telemetry}

def PevcapCapture.events (capture : PevcapCapture Telemetry) : List (PevcapEvent Telemetry) :=
  capture.records.map .record ++ (capture.locations.map locationEvent ++
    capture.settingsObservations.map .settingsObservation)

section Assembly
variable (observation : PevcapLocationSample)

def asRecord : PevcapEvent Telemetry → Option (PevcapRecord Telemetry)
  | .record record => some record
  | .settingsObservation _ | .location _ | .locationRejected _ => none

def asLocation : PevcapEvent Telemetry → Option PevcapLocationSample
  | .location observation => some observation
  | .locationRejected rejection => some rejection.observation
  | .record _ | .settingsObservation _ => none

def asSettings : PevcapEvent Telemetry → Option CaptureSettingsObservation
  | .settingsObservation observation => some observation
  | .record _ | .location _ | .locationRejected _ => none

/-- The capture that a header and events make up, each stream in its order. -/
def assemble (header : PevcapHeader) (given : List (PevcapEvent Telemetry)) : PevcapCapture Telemetry where
  version := .current
  header := header
  records := given.filterMap asRecord
  locations := given.filterMap asLocation
  settingsObservations := given.filterMap asSettings

variable (Telemetry) in
theorem locationEvent_cases : (locationEvent observation : PevcapEvent Telemetry) = .location observation ∨
      ∃ reason, (locationEvent observation : PevcapEvent Telemetry) = .locationRejected ⟨observation, reason⟩ := by
  rw [locationEvent]
  cases observation.location.canonical with
  | ok _ => exact .inl rfl
  | error reason => exact .inr ⟨reason, rfl⟩

@[simp] theorem asRecord_locationEvent : asRecord (locationEvent observation : PevcapEvent Telemetry) = none := by
  rcases locationEvent_cases Telemetry observation with same | ⟨reason, same⟩ <;> rw [same] <;> rfl

@[simp] theorem asLocation_locationEvent :
    asLocation (locationEvent observation : PevcapEvent Telemetry) = some observation := by
  rcases locationEvent_cases Telemetry observation with same | ⟨reason, same⟩ <;> rw [same] <;> rfl

@[simp] theorem asSettings_locationEvent :
    asSettings (locationEvent observation : PevcapEvent Telemetry) = none := by
  rcases locationEvent_cases Telemetry observation with same | ⟨reason, same⟩ <;> rw [same] <;> rfl

theorem assemble_events {capture : PevcapCapture Telemetry} (current : capture.version = .current) : assemble capture.header capture.events = capture := by
  have recordOfLocation : asRecord ∘ locationEvent = fun _ => (none : Option (PevcapRecord Telemetry)) :=
    funext asRecord_locationEvent
  have locationOfLocation : asLocation ∘ (locationEvent : _ → PevcapEvent Telemetry) = some :=
    funext asLocation_locationEvent
  have settingsOfLocation : asSettings ∘ (locationEvent : _ → PevcapEvent Telemetry) = fun _ => none :=
    funext asSettings_locationEvent
  have others : (asRecord ∘ PevcapEvent.settingsObservation = fun _ => (none : Option (PevcapRecord Telemetry))) ∧
      (asLocation ∘ (PevcapEvent.settingsObservation : _ → PevcapEvent Telemetry) = fun _ => none) ∧
      (asLocation ∘ (PevcapEvent.record : _ → PevcapEvent Telemetry) = fun _ => none) ∧
      (asSettings ∘ (PevcapEvent.record : _ → PevcapEvent Telemetry) = fun _ => none) := ⟨rfl, rfl, rfl, rfl⟩
  have own : (asRecord ∘ (PevcapEvent.record : _ → PevcapEvent Telemetry) = some) ∧
      (asSettings ∘ (PevcapEvent.settingsObservation : _ → PevcapEvent Telemetry) = some) := ⟨rfl, rfl⟩
  obtain ⟨version, header, records, locations, settings⟩ := capture
  cases current
  simp only [assemble, PevcapCapture.events, List.filterMap_append, List.filterMap_map, recordOfLocation, locationOfLocation,
    settingsOfLocation, others.1, others.2.1, others.2.2.1, others.2.2.2, own.1, own.2, List.filterMap_none,
    List.filterMap_some, List.append_nil, List.nil_append]
  rfl

end Assembly

variable {state : BinaryReader} {given : List (PevcapEvent Telemetry)}

section Section
variable {α : Type} (part : PevcapBinarySection) {decode : List Byte → Except PevcapBinaryError α}
  {emit : α → PevcapEvent Telemetry} (stage : Nat → List Byte → BinaryReader)
  (tail : List Byte → List (PevcapEvent Telemetry) → Prop)

theorem reads_section
    (step : ∀ count reader, (stage (count + 1) reader).next crates =
      readStreamLenPrefixed part reader >>= fun found => decode found.1 >>= fun item =>
        .ok (some (emit item), stage count found.2))
    (last : ∀ reader given, Reads (BinaryReader.next crates) (stage 0 reader) given ↔ tail reader given)
    (count : Nat) (reader : List Byte) (given : List (PevcapEvent Telemetry)) :
    Reads (BinaryReader.next crates) (stage count reader) given ↔
      ∃ payloads items later rest, payloads.length = count ∧
        List.Forall₂ (fun payload item => decode payload = .ok item) payloads items ∧
        (∀ payload ∈ payloads, Streamable payload) ∧ tail rest later ∧ given = items.map emit ++ later ∧
        reader = payloads.flatMap (framed 4) ++ rest := by
  induction count generalizing reader given with
  | zero =>
    constructor
    · intro reads
      exact ⟨[], [], given, reader, rfl, .nil, fun _ member => absurd member List.not_mem_nil, (last _ _).mp reads, rfl, rfl⟩
    · rintro ⟨payloads, items, later, rest, none, each, -, behind, rfl, rfl⟩
      cases List.length_eq_zero_iff.mp none
      cases each
      exact (last _ _).mpr behind
  | succ count ih =>
    constructor
    · intro reads
      rcases Reads.step_iff.mp reads with ⟨⟨_, read⟩, -⟩ | ⟨event, after, later, read, onward, rfl⟩
      · rw [step] at read
        obtain ⟨_, -, done⟩ := bind_eq_ok.mp read
        obtain ⟨_, -, done⟩ := bind_eq_ok.mp done
        cases done
      · rw [step] at read
        obtain ⟨⟨payload, behind⟩, payloadRead, done⟩ := bind_eq_ok.mp read
        obtain ⟨item, decoded, done⟩ := bind_eq_ok.mp done
        cases done
        obtain ⟨_, ⟨short, rfl⟩, rfl⟩ := (parses_streamLenPrefixed _ _ _).mp payloadRead
        obtain ⟨payloads, items, later, rest, rfl, each, bounded, tails, rfl, rfl⟩ := (ih _ _).mp onward
        refine ⟨payload :: payloads, item :: items, later, rest, rfl, .cons decoded each,
          List.forall_mem_cons.mpr ⟨short, bounded⟩, tails, rfl, ?_⟩
        rw [List.flatMap_cons, List.append_assoc]
    · rintro ⟨payloads, items, later, rest, size, each, bounded, tails, rfl, rfl⟩
      cases each with
      | nil => cases size
      | @cons payload item payloads items decoded each =>
        obtain ⟨short, bounded⟩ := List.forall_mem_cons.mp bounded
        refine Reads.step_iff.mpr (.inr ⟨emit item, stage count (payloads.flatMap (framed 4) ++ rest), _, ?_,
          (ih _ _).mpr ⟨payloads, items, later, rest, Nat.succ.inj size, each, bounded, tails, rfl, rfl⟩, rfl⟩)
        rw [step, List.flatMap_cons, List.append_assoc]
        refine bind_eq_ok.mpr ⟨(payload, _), (parses_streamLenPrefixed _ _ _).mpr ⟨_, ⟨short, rfl⟩, rfl⟩, ?_⟩
        exact bind_eq_ok.mpr ⟨item, decoded, rfl⟩

end Section

section Stages
variable (header : PevcapHeader)

def inSettings (count : Nat) (reader : List Byte) : BinaryReader :=
  { reader, remainingRecords := 0, locationsCountRead := true, remainingSettings := count, settingsCountRead := true, header }

def inLocations (count : Nat) (reader : List Byte) : BinaryReader :=
  { reader, remainingRecords := 0, remainingLocations := count, locationsCountRead := true, header }

def inRecords (count : Nat) (reader : List Byte) : BinaryReader := { reader, remainingRecords := count, header }

variable {header}

theorem reads_inSettings (count : Nat) (reader : List Byte) (given : List (PevcapEvent Telemetry)) :
    Reads (BinaryReader.next crates) (inSettings header count reader) given ↔
      ∃ payloads observations later rest, payloads.length = count ∧
        List.Forall₂ (fun payload observation => settingsFromPayload crates payload = .ok observation) payloads
          observations ∧
        (∀ payload ∈ payloads, Streamable payload) ∧ (rest = [] ∧ later = []) ∧
        given = observations.map .settingsObservation ++ later ∧ reader = payloads.flatMap (framed 4) ++ rest := by
  refine reads_section .settingsObservation (inSettings header) (fun rest later => rest = [] ∧ later = [])
    (fun _ _ => rfl) ?_ count reader given
  intro reader given
  have next : (inSettings header 0 reader).next crates =
      demand (reader = []) (.trailingBytes reader.length) >>= fun _ =>
        .ok (none, { inSettings header 0 reader with reader := [], finished := true }) := rfl
  rw [Reads.step_iff, next]
  constructor
  · rintro (⟨⟨_, read⟩, none⟩ | ⟨_, _, _, read, -⟩)
    · obtain ⟨_, empty, -⟩ := bind_eq_ok.mp read
      exact ⟨demand_eq_ok.mp empty, none⟩
    · obtain ⟨_, -, done⟩ := bind_eq_ok.mp read
      cases done
  · rintro ⟨rfl, rfl⟩
    exact .inl ⟨⟨_, rfl⟩, rfl⟩

def SettingsTail (crates : PevcapCrates Telemetry) (reader : List Byte) (given : List (PevcapEvent Telemetry)) : Prop :=
  ∃ payloads observations, List.Forall₂ (fun payload observation => settingsFromPayload crates payload = .ok observation)
      payloads observations ∧
    (∀ payload ∈ payloads, Streamable payload) ∧ payloads.length < 256 ^ 4 ∧
    payloads.length ≤ maxCaptureSettingsObservations ∧ given = observations.map .settingsObservation ∧
    reader = counted 4 payloads

theorem reads_settingsTail (reader : List Byte) (given : List (PevcapEvent Telemetry)) :
    Reads (BinaryReader.next crates) (inLocations header 0 reader) given ↔ SettingsTail crates reader given := by
  have moves : (inLocations header 0 reader).next crates =
      (readStreamU32 .settingsObservationCount reader >>= fun found =>
        ensureBinarySettingsObservationCount found.1 >>= fun _ => .ok (inSettings header found.1 found.2)) >>=
          BinaryReader.next crates := by
    have next : (inLocations header 0 reader).next crates = (inLocations header 0 reader).nextSettings crates := rfl
    have counts : (inLocations header 0 reader).countSettings = readStreamU32 .settingsObservationCount reader >>=
        fun found => ensureBinarySettingsObservationCount found.1 >>= fun _ => .ok (inSettings header found.1 found.2) := rfl
    rw [next, BinaryReader.nextSettings, counts, bind_assoc, bind_assoc]
    refine bind_congr fun found => ?_
    rw [bind_assoc, bind_assoc]
    exact bind_congr fun _ => rfl
  refine (Reads.after moves).trans ?_
  constructor
  · rintro ⟨middle, counts, reads⟩
    obtain ⟨⟨count, rest⟩, word, counts⟩ := bind_eq_ok.mp counts
    obtain ⟨_, few, counts⟩ := bind_eq_ok.mp counts
    cases counts
    obtain ⟨_, ⟨fits, rfl⟩, rfl⟩ := (parses_streamU32 _ _ _).mp word
    obtain ⟨payloads, observations, _, _, rfl, each, bounded, ⟨rfl, rfl⟩, rfl, rfl⟩ := (reads_inSettings _ _ _).mp reads
    refine ⟨payloads, observations, each, bounded, fits, ensureCount_eq_ok.mp few, List.append_nil _, ?_⟩
    rw [List.append_nil]
    rfl
  · rintro ⟨payloads, observations, each, bounded, fits, few, rfl, rfl⟩
    refine ⟨inSettings header payloads.length (payloads.flatMap (framed 4)), ?_, (reads_inSettings _ _ _).mpr
      ⟨payloads, observations, [], [], rfl, each, bounded, ⟨rfl, rfl⟩, (List.append_nil _).symm, (List.append_nil _).symm⟩⟩
    refine bind_eq_ok.mpr ⟨(payloads.length, payloads.flatMap (framed 4)), (parses_streamU32 _ _ _).mpr
      ⟨_, ⟨fits, rfl⟩, rfl⟩, ?_⟩
    exact bind_eq_ok.mpr ⟨⟨⟩, ensureCount_eq_ok.mpr few, rfl⟩

def LocationsTail (crates : PevcapCrates Telemetry) (reader : List Byte) (given : List (PevcapEvent Telemetry)) : Prop :=
  ∃ payloads locations later rest, List.Forall₂ (fun payload location => locationFromPayload crates payload = .ok location)
      payloads locations ∧
    (∀ payload ∈ payloads, Streamable payload) ∧ payloads.length < 256 ^ 4 ∧ SettingsTail crates rest later ∧
    given = locations.map locationEvent ++ later ∧ reader = counted 4 payloads ++ rest

theorem reads_locationsTail (reader : List Byte) (given : List (PevcapEvent Telemetry)) :
    Reads (BinaryReader.next crates) (inRecords header 0 reader) given ↔ LocationsTail crates reader given := by
  have moves : (inRecords header 0 reader).next crates =
      (readStreamU32 .locationCount reader >>= fun found => .ok (inLocations header found.1 found.2)) >>=
        BinaryReader.next crates := by
    have next : (inRecords header 0 reader).next crates = (inRecords header 0 reader).nextAfterRecords crates := rfl
    have counts : (inRecords header 0 reader).countLocations = readStreamU32 .locationCount reader >>=
        fun found => .ok (inLocations header found.1 found.2) := rfl
    rw [next, BinaryReader.nextAfterRecords, counts, bind_assoc, bind_assoc]
    exact bind_congr fun found => rfl
  refine (Reads.after moves).trans ?_
  constructor
  · rintro ⟨middle, counts, reads⟩
    obtain ⟨⟨count, rest⟩, word, counts⟩ := bind_eq_ok.mp counts
    cases counts
    obtain ⟨_, ⟨fits, rfl⟩, rfl⟩ := (parses_streamU32 _ _ _).mp word
    obtain ⟨payloads, locations, later, rest, rfl, each, bounded, tail, rfl, rfl⟩ :=
      (reads_section .location (inLocations header) (SettingsTail crates) (fun _ _ => rfl) reads_settingsTail _ _ _).mp reads
    exact ⟨payloads, locations, later, rest, each, bounded, fits, tail, rfl, (List.append_assoc ..).symm⟩
  · rintro ⟨payloads, locations, later, rest, each, bounded, fits, tail, rfl, rfl⟩
    refine ⟨inLocations header payloads.length (payloads.flatMap (framed 4) ++ rest), ?_,
      (reads_section .location (inLocations header) (SettingsTail crates) (fun _ _ => rfl) reads_settingsTail _ _ _).mpr
        ⟨payloads, locations, later, rest, rfl, each, bounded, tail, rfl, rfl⟩⟩
    exact bind_eq_ok.mpr ⟨(payloads.length, _), (parses_streamU32 _ _ _).mpr
      ⟨_, ⟨fits, rfl⟩, List.append_assoc ..⟩, rfl⟩

/-- Read to its end, a stream is a container whose payloads the reader takes, and the events are
those of the capture it holds. -/
theorem stream_binary {chunk : List Byte} :
    (∃ state, newBinary crates chunk = .ok state ∧ state.header = header ∧ Reads (BinaryReader.next crates) state given) ↔
      ∃ payloads : Payloads, ∃ capture, payloads.Framable ∧ (∀ payload ∈ payloads.all, Streamable payload) ∧
        payloads.Decode crates capture ∧ chunk = payloads.container ∧ capture.header = header ∧ given = capture.events := by
  constructor
  · rintro ⟨state, opened, rfl, reads⟩
    obtain ⟨headerPayload, header, count, reader, short, decodes, fits, rfl, rfl⟩ := newBinary_eq_ok.mp opened
    obtain ⟨records, recordItems, _, _, rfl, eachRecord, recordsShort,
      ⟨locations, locationItems, _, _, eachLocation, locationsShort, locationsFit,
        ⟨settings, settingsItems, eachSettings, settingsShort, settingsFit, few, rfl, rfl⟩, rfl, rfl⟩, rfl, rfl⟩ :=
      (reads_section .record (inRecords header) (LocationsTail crates) (fun _ _ => rfl) reads_locationsTail _ _ _).mp reads
    refine ⟨⟨headerPayload, records, locations, settings⟩, ⟨.current, header, recordItems, locationItems, settingsItems⟩,
      Payloads.framable_of_parts short.fits (fun _ member => (recordsShort _ member).fits)
        (fun _ member => (locationsShort _ member).fits) (fun _ member => (settingsShort _ member).fits) fits locationsFit
        settingsFit, ?_, ⟨rfl, decodes, eachRecord, eachLocation, eachSettings, few⟩, ?_, rfl, rfl⟩
    · intro payload member
      rcases List.mem_cons.mp member with rfl | member
      · exact short
      · rcases List.mem_append.mp member with member | member
        · rcases List.mem_append.mp member with member | member
          · exact recordsShort _ member
          · exact locationsShort _ member
        · exact settingsShort _ member
    · simp only [Payloads.container, Payloads.sections, counted, List.append_assoc]
  · rintro ⟨payloads, capture, framable, short, decode, rfl, rfl, rfl⟩
    have shortRecords : ∀ payload ∈ payloads.records, Streamable payload := fun payload member =>
      short payload (List.mem_cons_of_mem _ (List.mem_append_left _ (List.mem_append_left _ member)))
    have shortLocations : ∀ payload ∈ payloads.locations, Streamable payload := fun payload member =>
      short payload (List.mem_cons_of_mem _ (List.mem_append_left _ (List.mem_append_right _ member)))
    have shortSettings : ∀ payload ∈ payloads.settings, Streamable payload := fun payload member =>
      short payload (List.mem_cons_of_mem _ (List.mem_append_right _ member))
    refine ⟨inRecords capture.header payloads.records.length
      (payloads.records.flatMap (framed 4) ++ (counted 4 payloads.locations ++ counted 4 payloads.settings)), ?_, rfl, ?_⟩
    · refine newBinary_eq_ok.mpr ⟨payloads.header, capture.header, payloads.records.length, _, short _ List.mem_cons_self,
        decode.header, framable.records, ?_, rfl⟩
      simp only [Payloads.container, Payloads.sections, counted, List.append_assoc]
    · refine (reads_section .record (inRecords capture.header) (LocationsTail crates) (fun _ _ => rfl) reads_locationsTail
        _ _ _).mpr
        ⟨payloads.records, capture.records, _, _, rfl, decode.records, shortRecords, ?_, rfl, rfl⟩
      exact ⟨payloads.locations, capture.locations, _, _, decode.locations, shortLocations, framable.locations,
        ⟨payloads.settings, capture.settingsObservations, decode.settings, shortSettings, framable.settings, decode.few, rfl,
          rfl⟩, rfl, rfl⟩

end Stages
end Cutout.Pevcap
