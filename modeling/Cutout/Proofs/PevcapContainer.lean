import Cutout.PevcapCodec

/-! The binary container. Its encoder, its decoder and its streaming reader are compared
with one description of the container: the payloads of its sections, each behind its
length. A container is never ambiguous, and nothing may follow it. -/

namespace Cutout.Pevcap
open Library
open Protocols (Byte u32Max)
variable {observations : List CaptureSettingsObservation}

variable {Telemetry : Type} {crates : PevcapCrates Telemetry} {part : PevcapBinarySection}

structure Payloads where
  header : List Byte
  records : List (List Byte)
  locations : List (List Byte)
  settings : List (List Byte)

namespace Payloads

def all (payloads : Payloads) : List (List Byte) :=
  payloads.header :: (payloads.records ++ payloads.locations ++ payloads.settings)

structure Framable (payloads : Payloads) : Prop where
  payload : ∀ payload ∈ payloads.all, Fits 4 payload
  records : payloads.records.length < 256 ^ 4
  locations : payloads.locations.length < 256 ^ 4
  settings : payloads.settings.length < 256 ^ 4

def sections (payloads : Payloads) : List Byte :=
  counted 4 payloads.records ++ (counted 4 payloads.locations ++ counted 4 payloads.settings)

def preamble : List Byte := pevcapMagic ++ (littleEndian 2 1 ++ littleEndian 2 5)

def container (payloads : Payloads) : List Byte := preamble ++ (framed 4 payloads.header ++ payloads.sections)

variable {payloads other : Payloads}

theorem Framable.header (framable : Framable payloads) : Fits 4 payloads.header := framable.payload _ List.mem_cons_self

theorem Framable.ofRecords (framable : Framable payloads) : ∀ payload ∈ payloads.records, Fits 4 payload := fun _ member =>
  framable.payload _ (List.mem_cons_of_mem _ (List.mem_append_left _ (List.mem_append_left _ member)))

theorem Framable.ofLocations (framable : Framable payloads) : ∀ payload ∈ payloads.locations, Fits 4 payload := fun _ member =>
  framable.payload _ (List.mem_cons_of_mem _ (List.mem_append_left _ (List.mem_append_right _ member)))

theorem Framable.ofSettings (framable : Framable payloads) : ∀ payload ∈ payloads.settings, Fits 4 payload := fun _ member =>
  framable.payload _ (List.mem_cons_of_mem _ (List.mem_append_right _ member))

theorem framable_of_parts (header : Fits 4 payloads.header) (records : ∀ payload ∈ payloads.records, Fits 4 payload)
    (locations : ∀ payload ∈ payloads.locations, Fits 4 payload) (settings : ∀ payload ∈ payloads.settings, Fits 4 payload)
    (recordCount : payloads.records.length < 256 ^ 4) (locationCount : payloads.locations.length < 256 ^ 4)
    (settingsCount : payloads.settings.length < 256 ^ 4) : Framable payloads := by
  refine ⟨fun payload member => ?_, recordCount, locationCount, settingsCount⟩
  rcases List.mem_cons.mp member with rfl | member
  · exact header
  · rcases List.mem_append.mp member with member | member
    · rcases List.mem_append.mp member with member | member
      · exact records _ member
      · exact locations _ member
    · exact settings _ member

theorem container_unique (framable : Framable payloads) (otherFramable : Framable other) {rest more : List Byte}
    (same : payloads.container ++ rest = other.container ++ more) : payloads = other ∧ rest = more := by
  simp only [container, sections, List.append_assoc] at same
  have behind := List.append_cancel_left same
  obtain ⟨headers, behind⟩ := framed_unique framable.header otherFramable.header behind
  obtain ⟨records, behind⟩ := counted_unique framable.records otherFramable.records framable.ofRecords otherFramable.ofRecords
    behind
  obtain ⟨locations, behind⟩ := counted_unique framable.locations otherFramable.locations framable.ofLocations
    otherFramable.ofLocations behind
  obtain ⟨settings, behind⟩ := counted_unique framable.settings otherFramable.settings framable.ofSettings
    otherFramable.ofSettings behind
  refine ⟨?_, behind⟩
  cases payloads
  cases other
  cases headers
  cases records
  cases locations
  cases settings
  rfl

structure Decode (crates : PevcapCrates Telemetry) (payloads : Payloads) (capture : PevcapCapture Telemetry) : Prop where
  version : capture.version = .current
  header : headerFromPayload crates payloads.header = .ok capture.header
  records : List.Forall₂ (fun payload record => recordFromPayload crates payload = .ok record) payloads.records capture.records
  locations : List.Forall₂ (fun payload location => locationFromPayload crates payload = .ok location) payloads.locations
    capture.locations
  settings : List.Forall₂ (fun payload observation => settingsFromPayload crates payload = .ok observation) payloads.settings
    capture.settingsObservations
  few : payloads.settings.length ≤ maxCaptureSettingsObservations

structure Encode (crates : PevcapCrates Telemetry) (capture : PevcapCapture Telemetry) (payloads : Payloads) : Prop where
  version : capture.version = .current
  header : crates.headerToVec (.ofHeader capture.header) = some payloads.header
  records : List.Forall₂ (fun payload record => crates.recordToVec (.ofRecord record) = some payload) payloads.records
    capture.records
  locations : List.Forall₂ (fun payload location => crates.locationToVec location = some payload) payloads.locations
    capture.locations
  settings : List.Forall₂ (fun payload observation => observation.validate crates.uuid = .ok () ∧
    crates.settingsToVec observation = some payload) payloads.settings capture.settingsObservations
  few : payloads.settings.length ≤ maxCaptureSettingsObservations

end Payloads

section Readers

theorem parses_exact (len : Nat) :
    Parses (readExact part len) (fun bytes piece => bytes = piece ∧ piece.length = len) := by
  intro input bytes rest
  constructor
  · intro read
    obtain ⟨_, enough, taken⟩ := bind_eq_ok.mp read
    have enough := demand_eq_ok.mp enough
    rw [List.splitAt_eq] at taken
    cases taken
    exact ⟨input.take len, ⟨rfl, List.length_take_of_le enough⟩, (List.take_append_drop len input).symm⟩
  · rintro ⟨piece, ⟨rfl, rfl⟩, rfl⟩
    refine bind_eq_ok.mpr ⟨⟨⟩, demand_eq_ok.mpr ?_, ?_⟩
    · rw [List.length_append]
      omega
    · rw [List.splitAt_eq, List.take_left, List.drop_left]
      rfl

def Word (width value : Nat) (piece : List Byte) : Prop := value < 256 ^ width ∧ piece = littleEndian width value

theorem parses_word (width : Nat) :
    Parses (fun input => readExact part width input >>= fun found => Except.ok (fromLittleEndian found.1, found.2))
      (Word width) := by
  intro input value rest
  constructor
  · intro read
    obtain ⟨⟨bytes, behind⟩, taken, done⟩ := bind_eq_ok.mp read
    cases done
    obtain ⟨piece, ⟨rfl, rfl⟩, split⟩ := (parses_exact _ _ _ _).mp taken
    exact ⟨bytes, ⟨fromLittleEndian_lt bytes, (littleEndian_fromLittleEndian bytes).symm⟩, split⟩
  · rintro ⟨piece, ⟨fits, rfl⟩, rfl⟩
    refine bind_eq_ok.mpr ⟨(littleEndian width value, rest), (parses_exact width _ _ _).mpr
      ⟨_, ⟨rfl, littleEndian_length width value⟩, rfl⟩, ?_⟩
    rw [fromLittleEndian_littleEndian fits]

theorem parses_u16 : Parses (readU16Le part) (Word 2) := parses_word 2

theorem parses_u32 : Parses (readU32Le part) (Word 4) := parses_word 4

private theorem parses_lenPrefixed :
    Parses (readLenPrefixed part) (fun payload piece => Fits 4 payload ∧ piece = framed 4 payload) := by
  intro input payload rest
  refine ((parses_u32.bind fun len => parses_exact len) input payload rest).trans ?_
  constructor
  · rintro ⟨_, ⟨len, _, _, ⟨fits, rfl⟩, ⟨rfl, rfl⟩, rfl⟩, split⟩
    exact ⟨_, ⟨fits, rfl⟩, split⟩
  · rintro ⟨_, ⟨fits, rfl⟩, split⟩
    exact ⟨_, ⟨payload.length, _, _, ⟨fits, rfl⟩, ⟨rfl, rfl⟩, rfl⟩, split⟩

variable {α : Type} {decode : List Byte → Except PevcapBinaryError α}

theorem parses_item : Parses (readItem part decode) (Framed 4 fun payload item => decode payload = .ok item) := by
  intro input item rest
  refine (parses_lenPrefixed.convert input item rest).trans ?_
  constructor
  · rintro ⟨piece, ⟨payload, ⟨fits, rfl⟩, decoded⟩, split⟩
    exact ⟨_, ⟨payload, decoded, fits, rfl⟩, split⟩
  · rintro ⟨piece, ⟨payload, decoded, fits, rfl⟩, split⟩
    exact ⟨_, ⟨payload, ⟨fits, rfl⟩, decoded⟩, split⟩

/-- The look at the room that is left never refuses items that are there. -/
theorem parses_items (count : Nat) :
    Parses (readItems part decode count) (fun items piece => items.length = count ∧
      Tiled (Framed 4 fun payload item => decode payload = .ok item) items piece) := by
  refine (parses_item.many count).check ?_
  rintro items piece rest ⟨rfl, tiled⟩
  have room := tiled.bound fun _ _ framed => framed.length
  refine demand_eq_ok.mpr ?_
  rw [List.length_append, binaryLengthPrefixBytes]
  omega

theorem parses_section {count : PevcapBinarySection} {items : List α} {input rest : List Byte} :
    (readU32Le count input >>= fun found => readItems part decode found.1 found.2) = .ok (items, rest) ↔
      ∃ payloads, List.Forall₂ (fun payload item => decode payload = .ok item) payloads items ∧
        (∀ payload ∈ payloads, Fits 4 payload) ∧ payloads.length < 256 ^ 4 ∧ input = counted 4 payloads ++ rest := by
  refine ((parses_u32.bind fun count => parses_items count) input items rest).trans ?_
  constructor
  · rintro ⟨_, ⟨_, _, _, ⟨fits, rfl⟩, ⟨rfl, tiled⟩, rfl⟩, split⟩
    obtain ⟨payloads, each, short, rfl⟩ := tiled_framed.mp tiled
    have sizes := each.length_eq
    refine ⟨payloads, each, short, sizes ▸ fits, ?_⟩
    rw [split, counted, sizes]
  · rintro ⟨payloads, each, short, fits, rfl⟩
    have sizes := each.length_eq
    refine ⟨_, ⟨items.length, _, _, ⟨sizes ▸ fits, rfl⟩, ⟨rfl, tiled_framed.mpr ⟨payloads, each, short, rfl⟩⟩, rfl⟩, ?_⟩
    rw [counted, sizes]

end Readers

section Decoder
variable {capture : PevcapCapture Telemetry} {input rest : List Byte}
variable {version : PevcapFormatVersion}

theorem parses_version : readVersion input = .ok (version, rest) ↔
      (version.major < 256 ^ 2 ∧ version.minor < 256 ^ 2) ∧
        input = littleEndian 2 version.major ++ (littleEndian 2 version.minor ++ rest) := by
  constructor
  · intro read
    obtain ⟨⟨major, middle⟩, first, read⟩ := bind_eq_ok.mp read
    obtain ⟨⟨minor, last⟩, second, read⟩ := bind_eq_ok.mp read
    cases read
    obtain ⟨_, ⟨majorFits, rfl⟩, rfl⟩ := (parses_u16 _ _ _).mp first
    obtain ⟨_, ⟨minorFits, rfl⟩, rfl⟩ := (parses_u16 _ _ _).mp second
    exact ⟨⟨majorFits, minorFits⟩, rfl⟩
  · rintro ⟨⟨majorFits, minorFits⟩, rfl⟩
    refine bind_eq_ok.mpr ⟨(version.major, _), (parses_u16 _ _ _).mpr ⟨_, ⟨majorFits, rfl⟩, rfl⟩, ?_⟩
    exact bind_eq_ok.mpr ⟨(version.minor, _), (parses_u16 _ _ _).mpr ⟨_, ⟨minorFits, rfl⟩, rfl⟩, rfl⟩

theorem isSupported_iff : version.isSupported = true ↔ version = .current := decide_eq_true_iff

theorem ensureCount_eq_ok {count : Nat} :
    ensureBinarySettingsObservationCount count = .ok () ↔ count ≤ maxCaptureSettingsObservations :=
  mapError_eq_ok.trans demand_eq_ok

theorem readSettings_eq_ok : readBinarySettingsObservations crates input = .ok (observations, rest) ↔
      ∃ payloads, List.Forall₂ (fun payload observation => settingsFromPayload crates payload = .ok observation) payloads
          observations ∧ (∀ payload ∈ payloads, Fits 4 payload) ∧ payloads.length < 256 ^ 4 ∧
        payloads.length ≤ maxCaptureSettingsObservations ∧ input = counted 4 payloads ++ rest := by
  constructor
  · intro read
    obtain ⟨⟨count, behind⟩, counts, read⟩ := bind_eq_ok.mp read
    obtain ⟨_, few, read⟩ := bind_eq_ok.mp read
    obtain ⟨payloads, each, short, fits, split⟩ := parses_section.mp (bind_eq_ok.mpr ⟨(count, behind), counts, read⟩)
    obtain ⟨piece, ⟨countFits, rfl⟩, split'⟩ := (parses_u32 _ _ _).mp counts
    refine ⟨payloads, each, short, fits, ?_, split⟩
    rw [split', counted, List.append_assoc] at split
    rw [← (littleEndian_unique countFits fits split).1]
    exact ensureCount_eq_ok.mp few
  · rintro ⟨payloads, each, short, fits, few, split⟩
    obtain ⟨⟨count, behind⟩, counts, read⟩ := bind_eq_ok.mp (parses_section.mpr ⟨payloads, each, short, fits, split⟩)
    refine bind_eq_ok.mpr ⟨(count, behind), counts, bind_eq_ok.mpr ⟨⟨⟩, ensureCount_eq_ok.mpr ?_, read⟩⟩
    obtain ⟨piece, ⟨countFits, rfl⟩, split'⟩ := (parses_u32 _ _ _).mp counts
    rw [split', counted, List.append_assoc] at split
    rw [(littleEndian_unique countFits fits split).1]
    exact few

/-- The decoder accepts a container and hands back what follows it. -/
theorem readBinary_eq_ok :
    PevcapCapture.readBinary crates input = .ok (capture, rest) ↔
      ∃ payloads : Payloads, payloads.Framable ∧ payloads.Decode crates capture ∧ input = payloads.container ++ rest := by
  constructor
  · intro read
    obtain ⟨⟨magic, afterMagic⟩, readMagic, read⟩ := bind_eq_ok.mp read
    obtain ⟨_, isMagic, read⟩ := bind_eq_ok.mp read
    obtain ⟨⟨version, afterVersion⟩, readsVersion, read⟩ := bind_eq_ok.mp read
    obtain ⟨_, supported, read⟩ := bind_eq_ok.mp read
    obtain ⟨⟨header, afterHeader⟩, readsHeader, read⟩ := bind_eq_ok.mp read
    obtain ⟨⟨recordCount, afterRecordCount⟩, readsRecordCount, read⟩ := bind_eq_ok.mp read
    obtain ⟨⟨records, afterRecords⟩, readsRecords, read⟩ := bind_eq_ok.mp read
    obtain ⟨⟨locationCount, afterLocationCount⟩, readsLocationCount, read⟩ := bind_eq_ok.mp read
    obtain ⟨⟨locations, afterLocations⟩, readsLocations, read⟩ := bind_eq_ok.mp read
    obtain ⟨⟨settings, last⟩, readsSettings, read⟩ := bind_eq_ok.mp read
    cases read
    obtain ⟨_, ⟨rfl, -⟩, rfl⟩ := (parses_exact _ _ _ _).mp readMagic
    cases demand_eq_ok.mp isMagic
    cases isSupported_iff.mp (demand_eq_ok.mp supported)
    obtain ⟨-, rfl⟩ := parses_version.mp readsVersion
    obtain ⟨_, ⟨headerPayload, decodesHeader, headerFits, rfl⟩, rfl⟩ := (parses_item _ _ _).mp readsHeader
    obtain ⟨recordPayloads, eachRecord, recordsFit, recordsCount, rfl⟩ :=
      parses_section.mp (bind_eq_ok.mpr ⟨(_, _), readsRecordCount, readsRecords⟩)
    obtain ⟨locationPayloads, eachLocation, locationsFit, locationsCount, rfl⟩ :=
      parses_section.mp (bind_eq_ok.mpr ⟨(_, _), readsLocationCount, readsLocations⟩)
    obtain ⟨settingsPayloads, eachSettings, settingsFit, settingsCount, few, rfl⟩ := readSettings_eq_ok.mp readsSettings
    refine ⟨⟨headerPayload, recordPayloads, locationPayloads, settingsPayloads⟩,
      Payloads.framable_of_parts headerFits recordsFit locationsFit settingsFit recordsCount locationsCount settingsCount,
      ⟨rfl, decodesHeader, eachRecord, eachLocation, eachSettings, few⟩, ?_⟩
    simp only [Payloads.container, Payloads.sections, Payloads.preamble, PevcapFormatVersion.current, List.append_assoc]
  · rintro ⟨payloads, framable, decode, rfl⟩
    obtain ⟨version, header, records, locations, settings⟩ := capture
    cases decode.version
    simp only [Payloads.container, Payloads.sections, Payloads.preamble, List.append_assoc]
    obtain ⟨⟨recordCount, afterRecordCount⟩, readsRecordCount, readsRecords⟩ := bind_eq_ok.mp (parses_section.mpr
      ⟨payloads.records, decode.records, framable.ofRecords, framable.records, rfl⟩)
    obtain ⟨⟨locationCount, afterLocationCount⟩, readsLocationCount, readsLocations⟩ := bind_eq_ok.mp (parses_section.mpr
      ⟨payloads.locations, decode.locations, framable.ofLocations, framable.locations, rfl⟩)
    refine bind_eq_ok.mpr ⟨(pevcapMagic, _), (parses_exact _ _ _ _).mpr ⟨_, ⟨rfl, rfl⟩, rfl⟩, ?_⟩
    refine bind_eq_ok.mpr ⟨⟨⟩, demand_eq_ok.mpr rfl, ?_⟩
    refine bind_eq_ok.mpr ⟨(.current, _), parses_version.mpr ⟨⟨by decide, by decide⟩, rfl⟩, ?_⟩
    refine bind_eq_ok.mpr ⟨⟨⟩, demand_eq_ok.mpr (isSupported_iff.mpr rfl), ?_⟩
    refine bind_eq_ok.mpr ⟨(header, _), (parses_item _ _ _).mpr ⟨_, ⟨_, decode.header, framable.header, rfl⟩, rfl⟩, ?_⟩
    refine bind_eq_ok.mpr ⟨_, readsRecordCount, bind_eq_ok.mpr ⟨_, readsRecords, ?_⟩⟩
    refine bind_eq_ok.mpr ⟨_, readsLocationCount, bind_eq_ok.mpr ⟨_, readsLocations, ?_⟩⟩
    exact bind_eq_ok.mpr ⟨(settings, rest), readSettings_eq_ok.mpr
      ⟨payloads.settings, decode.settings, framable.ofSettings, framable.settings, decode.few, rfl⟩, rfl⟩

theorem fromBinary_eq_ok :
    PevcapCapture.fromBinary crates input = .ok capture ↔
      ∃ payloads : Payloads, payloads.Framable ∧ payloads.Decode crates capture ∧ input = payloads.container := by
  constructor
  · intro read
    obtain ⟨⟨found, last⟩, read, done⟩ := bind_eq_ok.mp read
    obtain ⟨_, nothing, done⟩ := bind_eq_ok.mp done
    cases done
    obtain ⟨payloads, framable, decode, split⟩ := readBinary_eq_ok.mp read
    rw [demand_eq_ok.mp nothing, List.append_nil] at split
    exact ⟨payloads, framable, decode, split⟩
  · rintro ⟨payloads, framable, decode, rfl⟩
    refine bind_eq_ok.mpr ⟨(capture, []), readBinary_eq_ok.mpr ⟨payloads, framable, decode, (List.append_nil _).symm⟩, ?_⟩
    exact bind_eq_ok.mpr ⟨⟨⟩, demand_eq_ok.mpr rfl, rfl⟩

end Decoder

section Encoder
variable {capture : PevcapCapture Telemetry} {output final : List Byte}

theorem writeLength_eq_ok {len : Nat} :
    writeLength output part len = .ok final ↔ len < 256 ^ 4 ∧ final = output ++ littleEndian 4 len := by
  constructor
  · intro wrote
    obtain ⟨_, fits, wrote⟩ := bind_eq_ok.mp wrote
    cases wrote
    exact ⟨Nat.lt_of_le_of_lt (demand_eq_ok.mp fits) (by decide), rfl⟩
  · rintro ⟨fits, rfl⟩
    exact bind_eq_ok.mpr ⟨⟨⟩, demand_eq_ok.mpr (Nat.le_of_lt_succ fits), rfl⟩

theorem writeLenPrefixed_eq_ok {payload : List Byte} :
    writeLenPrefixed output part payload = .ok final ↔ Fits 4 payload ∧ final = output ++ framed 4 payload := by
  constructor
  · intro wrote
    obtain ⟨_, length, wrote⟩ := bind_eq_ok.mp wrote
    obtain ⟨fits, rfl⟩ := writeLength_eq_ok.mp length
    cases wrote
    exact ⟨fits, List.append_assoc ..⟩
  · rintro ⟨fits, rfl⟩
    refine bind_eq_ok.mpr ⟨_, writeLength_eq_ok.mpr ⟨fits, rfl⟩, ?_⟩
    exact congrArg Except.ok (List.append_assoc ..)

/-- An item that is serialized, perhaps after a check, is appended behind its length. -/
theorem write_appends {α : Type} (toVec : α → Option (List Byte)) (check : Except PevcapBinaryError Unit) (item : α) :
    (check >>= fun _ => okOr (toVec item) .serialize >>= fun payload => writeLenPrefixed output part payload) = .ok final ↔
      ∃ piece, Framed 4 (fun payload item => check = .ok () ∧ toVec item = some payload) item piece ∧
        final = output ++ piece := by
  constructor
  · intro wrote
    obtain ⟨⟨⟩, passed, wrote⟩ := bind_eq_ok.mp wrote
    obtain ⟨payload, serialized, wrote⟩ := bind_eq_ok.mp wrote
    obtain ⟨fits, rfl⟩ := writeLenPrefixed_eq_ok.mp wrote
    exact ⟨_, ⟨payload, ⟨passed, okOr_eq_ok.mp serialized⟩, fits, rfl⟩, rfl⟩
  · rintro ⟨_, ⟨payload, ⟨passed, serialized⟩, fits, rfl⟩, rfl⟩
    exact bind_eq_ok.mpr ⟨⟨⟩, passed, bind_eq_ok.mpr ⟨payload, okOr_eq_ok.mpr serialized,
      writeLenPrefixed_eq_ok.mpr ⟨fits, rfl⟩⟩⟩

theorem writes_section {α : Type} {relates : List Byte → α → Prop} {items : List α}
    {write : List Byte → α → Except PevcapBinaryError (List Byte)}
    (appends : ∀ output item final, write output item = .ok final ↔
      ∃ piece, Framed 4 relates item piece ∧ final = output ++ piece) :
    (writeLength output part items.length >>= fun output => items.foldlM write output) = .ok final ↔
      ∃ payloads, List.Forall₂ relates payloads items ∧ (∀ payload ∈ payloads, Fits 4 payload) ∧
        payloads.length < 256 ^ 4 ∧ final = output ++ counted 4 payloads := by
  constructor
  · intro wrote
    obtain ⟨_, length, wrote⟩ := bind_eq_ok.mp wrote
    obtain ⟨fits, rfl⟩ := writeLength_eq_ok.mp length
    obtain ⟨_, tiled, rfl⟩ := (foldlM_appends appends).mp wrote
    obtain ⟨payloads, each, short, rfl⟩ := tiled_framed.mp tiled
    have sizes := each.length_eq
    refine ⟨payloads, each, short, sizes ▸ fits, ?_⟩
    rw [counted, sizes, List.append_assoc]
  · rintro ⟨payloads, each, short, fits, rfl⟩
    have sizes := each.length_eq
    refine bind_eq_ok.mpr ⟨_, writeLength_eq_ok.mpr ⟨sizes ▸ fits, rfl⟩, ?_⟩
    refine (foldlM_appends appends).mpr ⟨_, tiled_framed.mpr ⟨payloads, each, short, rfl⟩, ?_⟩
    rw [counted, sizes, List.append_assoc]

section Crates
variable (crates : PevcapCrates Telemetry) (output : List Byte)

theorem writeRecord_appends (record : PevcapRecord Telemetry) (final : List Byte) :
    writeRecord crates output record = .ok final ↔
      ∃ piece, Framed 4 (fun payload record => crates.recordToVec (.ofRecord record) = some payload) record piece ∧
        final = output ++ piece := by
  refine (write_appends (fun record => crates.recordToVec (.ofRecord record)) (.ok ()) record).trans ?_
  simp only [true_and]

theorem writeLocation_appends (location : PevcapLocationSample) (final : List Byte) :
    writeLocation crates output location = .ok final ↔
      ∃ piece, Framed 4 (fun payload location => crates.locationToVec location = some payload) location piece ∧
        final = output ++ piece := by
  refine (write_appends crates.locationToVec (.ok ()) location).trans ?_
  simp only [true_and]

theorem writeSettingsObservation_appends (observation : CaptureSettingsObservation) (final : List Byte) :
    writeSettingsObservation crates output observation = .ok final ↔
      ∃ piece, Framed 4 (fun payload observation => observation.validate crates.uuid = .ok () ∧
        crates.settingsToVec observation = some payload) observation piece ∧ final = output ++ piece := by
  refine (write_appends crates.settingsToVec ((observation.validate crates.uuid).mapError .settingsObservation)
    observation).trans ?_
  simp only [Framed, mapError_eq_ok]

end Crates

theorem ensureFew_eq_ok {done : Unit} {change : CaptureSettingsObservationError → PevcapBinaryError} :
    (ensureSettingsObservationCount observations.length).mapError change = .ok done ↔
      observations.length ≤ maxCaptureSettingsObservations := mapError_eq_ok.trans demand_eq_ok

/-- The encoder writes the container of the payloads it makes of the capture. -/
theorem toBinary_eq_ok : capture.toBinary crates = .ok final ↔
    ∃ payloads : Payloads, payloads.Framable ∧ payloads.Encode crates capture ∧ final = payloads.container := by
  constructor
  · intro wrote
    obtain ⟨_, supported, wrote⟩ := bind_eq_ok.mp wrote
    obtain ⟨_, few, wrote⟩ := bind_eq_ok.mp wrote
    obtain ⟨header, serialized, wrote⟩ := bind_eq_ok.mp wrote
    obtain ⟨_, writesHeader, wrote⟩ := bind_eq_ok.mp wrote
    obtain ⟨_, recordCount, wrote⟩ := bind_eq_ok.mp wrote
    obtain ⟨_, writesRecords, wrote⟩ := bind_eq_ok.mp wrote
    obtain ⟨_, locationCount, wrote⟩ := bind_eq_ok.mp wrote
    obtain ⟨_, writesLocations, writesSettings⟩ := bind_eq_ok.mp wrote
    have current := isSupported_iff.mp (demand_eq_ok.mp supported)
    obtain ⟨headerFits, rfl⟩ := writeLenPrefixed_eq_ok.mp writesHeader
    obtain ⟨records, eachRecord, recordsFit, recordsCount, rfl⟩ :=
      (writes_section (writeRecord_appends crates)).mp (bind_eq_ok.mpr ⟨_, recordCount, writesRecords⟩)
    obtain ⟨locations, eachLocation, locationsFit, locationsCount, rfl⟩ :=
      (writes_section (writeLocation_appends crates)).mp (bind_eq_ok.mpr ⟨_, locationCount, writesLocations⟩)
    obtain ⟨settings, eachSettings, settingsFit, settingsCount, rfl⟩ :=
      (writes_section (writeSettingsObservation_appends crates)).mp writesSettings
    refine ⟨⟨header, records, locations, settings⟩,
      Payloads.framable_of_parts headerFits recordsFit locationsFit settingsFit recordsCount locationsCount settingsCount,
      ⟨current, okOr_eq_ok.mp serialized, eachRecord, eachLocation, eachSettings, ?_⟩, ?_⟩
    · exact eachSettings.length_eq ▸ ensureFew_eq_ok.mp few
    · simp only [Payloads.container, Payloads.sections, Payloads.preamble, writeU16Le, current, PevcapFormatVersion.current,
        List.append_assoc]
  · rintro ⟨payloads, framable, encode, rfl⟩
    refine bind_eq_ok.mpr ⟨⟨⟩, demand_eq_ok.mpr (isSupported_iff.mpr encode.version), ?_⟩
    refine bind_eq_ok.mpr ⟨⟨⟩, ensureFew_eq_ok.mpr (encode.settings.length_eq ▸ encode.few), ?_⟩
    refine bind_eq_ok.mpr ⟨payloads.header, okOr_eq_ok.mpr encode.header, ?_⟩
    refine bind_eq_ok.mpr ⟨_, writeLenPrefixed_eq_ok.mpr ⟨framable.header, rfl⟩, ?_⟩
    obtain ⟨_, recordCount, writesRecords⟩ := bind_eq_ok.mp ((writes_section (writeRecord_appends crates)).mpr
      ⟨payloads.records, encode.records, framable.ofRecords, framable.records, rfl⟩)
    refine bind_eq_ok.mpr ⟨_, recordCount, bind_eq_ok.mpr ⟨_, writesRecords, ?_⟩⟩
    obtain ⟨_, locationCount, writesLocations⟩ := bind_eq_ok.mp
      ((writes_section (writeLocation_appends crates)).mpr
        ⟨payloads.locations, encode.locations, framable.ofLocations, framable.locations, rfl⟩)
    refine bind_eq_ok.mpr ⟨_, locationCount, bind_eq_ok.mpr ⟨_, writesLocations, ?_⟩⟩
    refine (writes_section (writeSettingsObservation_appends crates)).mpr
      ⟨payloads.settings, encode.settings, framable.ofSettings, framable.settings, ?_⟩
    simp only [Payloads.container, Payloads.sections, Payloads.preamble, writeU16Le, encode.version,
      PevcapFormatVersion.current, List.append_assoc]

end Encoder

section Stream
variable {header : PevcapHeader} {chunk rest : List Byte}

def Streamable (payload : List Byte) : Prop := payload.length ≤ maxStreamPayloadBytes

theorem Streamable.fits {payload : List Byte} (short : Streamable payload) : Fits 4 payload :=
  Nat.lt_of_le_of_lt short (by decide)

theorem parses_streamU32 : Parses (readStreamU32 part) (Word 4) := parses_word 4

theorem parses_streamLenPrefixed :
    Parses (readStreamLenPrefixed part) (fun payload piece => Streamable payload ∧ piece = framed 4 payload) := by
  intro input payload rest
  constructor
  · intro read
    obtain ⟨⟨len, middle⟩, count, bounded⟩ := bind_eq_ok.mp read
    obtain ⟨_, short, body⟩ := bind_eq_ok.mp bounded
    obtain ⟨_, ⟨-, rfl⟩, rfl⟩ := (parses_streamU32 _ _ _).mp count
    obtain ⟨_, ⟨rfl, rfl⟩, rfl⟩ := (parses_exact _ _ _ _).mp body
    have short : payload.length ≤ maxStreamPayloadBytes := demand_eq_ok.mp short
    exact ⟨_, ⟨short, rfl⟩, (List.append_assoc ..).symm⟩
  · rintro ⟨_, ⟨short, rfl⟩, rfl⟩
    refine bind_eq_ok.mpr ⟨(payload.length, payload ++ rest), (parses_streamU32 _ _ _).mpr
      ⟨_, ⟨short.fits, rfl⟩, List.append_assoc ..⟩, ?_⟩
    exact bind_eq_ok.mpr ⟨⟨⟩, demand_eq_ok.mpr short, (parses_exact _ _ _ _).mpr ⟨_, ⟨rfl, rfl⟩, rfl⟩⟩

theorem newBinary_eq_ok {state : BinaryReader} :
    newBinary crates chunk = .ok state ↔
      ∃ payload header count reader, Streamable payload ∧ headerFromPayload crates payload = .ok header ∧
        count < 256 ^ 4 ∧ chunk = Payloads.preamble ++ (framed 4 payload ++ (littleEndian 4 count ++ reader)) ∧
        state = { reader, remainingRecords := count, header } := by
  constructor
  · intro opened
    obtain ⟨⟨magic, afterMagic⟩, readMagic, opened⟩ := bind_eq_ok.mp opened
    obtain ⟨_, isMagic, opened⟩ := bind_eq_ok.mp opened
    obtain ⟨⟨major, afterMajor⟩, readMajor, opened⟩ := bind_eq_ok.mp opened
    obtain ⟨⟨minor, afterMinor⟩, readMinor, opened⟩ := bind_eq_ok.mp opened
    obtain ⟨_, supported, opened⟩ := bind_eq_ok.mp opened
    obtain ⟨⟨payload, afterHeader⟩, readHeader, opened⟩ := bind_eq_ok.mp opened
    obtain ⟨header, decodes, opened⟩ := bind_eq_ok.mp opened
    obtain ⟨⟨count, reader⟩, readCount, opened⟩ := bind_eq_ok.mp opened
    cases opened
    obtain ⟨_, ⟨rfl, -⟩, rfl⟩ := (parses_exact _ _ _ _).mp readMagic
    cases demand_eq_ok.mp isMagic
    obtain ⟨_, ⟨-, rfl⟩, rfl⟩ := (parses_word 2 _ _ _).mp readMajor
    obtain ⟨_, ⟨-, rfl⟩, rfl⟩ := (parses_word 2 _ _ _).mp readMinor
    obtain ⟨_, ⟨short, rfl⟩, rfl⟩ := (parses_streamLenPrefixed _ _ _).mp readHeader
    obtain ⟨_, ⟨fits, rfl⟩, rfl⟩ := (parses_streamU32 _ _ _).mp readCount
    cases isSupported_iff.mp (demand_eq_ok.mp supported)
    refine ⟨payload, header, count, reader, short, decodes, fits, ?_, rfl⟩
    simp only [Payloads.preamble, List.append_assoc]
  · rintro ⟨payload, header, count, reader, short, decodes, fits, rfl, rfl⟩
    simp only [Payloads.preamble, List.append_assoc]
    refine bind_eq_ok.mpr ⟨(pevcapMagic, _), (parses_exact _ _ _ _).mpr ⟨_, ⟨rfl, rfl⟩, rfl⟩, ?_⟩
    refine bind_eq_ok.mpr ⟨⟨⟩, demand_eq_ok.mpr rfl, ?_⟩
    refine bind_eq_ok.mpr ⟨(1, _), (parses_word 2 _ _ _).mpr ⟨_, ⟨by decide, rfl⟩, rfl⟩, ?_⟩
    refine bind_eq_ok.mpr ⟨(5, _), (parses_word 2 _ _ _).mpr ⟨_, ⟨by decide, rfl⟩, rfl⟩, ?_⟩
    refine bind_eq_ok.mpr ⟨⟨⟩, demand_eq_ok.mpr (isSupported_iff.mpr rfl), ?_⟩
    refine bind_eq_ok.mpr ⟨(payload, _), (parses_streamLenPrefixed _ _ _).mpr ⟨_, ⟨short, rfl⟩, rfl⟩, ?_⟩
    refine bind_eq_ok.mpr ⟨header, decodes, ?_⟩
    exact bind_eq_ok.mpr ⟨(count, reader), (parses_streamU32 _ _ _).mpr ⟨_, ⟨fits, rfl⟩, rfl⟩, rfl⟩

end Stream
end Cutout.Pevcap
