import Cutout.Proofs.PevcapStream

/-! What the container promises. What is encoded is decoded to the same capture, what is decoded
can be encoded again, the streaming reader agrees with the decoder on every input, and a
container that was cut short or extended is told from a whole one. -/

namespace Cutout.Pevcap
open Connections (strBytes)
open Library
open Protocols (Byte u32Max)
variable {α β : Type} {texts : List α} {made : α → β → Prop} {values : List β}

variable {Telemetry : Type} {crates : PevcapCrates Telemetry} {capture other : PevcapCapture Telemetry} {bytes : List Byte}

section Records
variable {json : PevcapRecordJson Telemetry}

def PevcapRecord.Directed (record : PevcapRecord Telemetry) : Prop :=
  match record.direction with
  | .linkUp => record.service = none ∧ record.writeMode = none ∧ record.target = none ∧ record.bytes = [] ∧
      record.writeReceipt = none
  | .linkDown => record.service = none ∧ record.writeMode = none ∧ record.target = none ∧ record.bytes = [] ∧
      record.writeReceipt = none ∧ record.linkMaxWriteLen = none
  | .inbound => record.service.isSome ∧ record.writeMode = none ∧ record.linkMaxWriteLen = none ∧ record.target = none ∧
      record.writeReceipt = none
  | .outbound => record.service = none ∧ record.writeMode.isSome ∧ record.linkMaxWriteLen = none

theorem validate_eq_ok : json.validate = .ok () ↔ json.musicPresent = false ∧ json.toPevcapRecord.Directed := by
  simp only [PevcapRecordJson.validate, bind_eq_ok, demand_eq_ok, exists_and_left, exists_const, PevcapRecord.Directed]
  cases direction : json.direction <;>
    simp only [bind_eq_ok, demand_eq_ok, exists_and_left, exists_const, reduceCtorEq, imp_false, Bool.not_eq_true,
      Option.isSome_eq_false_iff, Option.isNone_iff_eq_none, implies_true, forall_const, true_and] <;> tauto

theorem tryIntoRecord_eq_ok {record : PevcapRecord Telemetry} :
    json.tryIntoRecord = .ok record ↔ json = .ofRecord record ∧ record.Directed := by
  constructor
  · intro made
    obtain ⟨_, valid, made⟩ := bind_eq_ok.mp made
    cases made
    obtain ⟨quiet, directed⟩ := validate_eq_ok.mp valid
    refine ⟨?_, directed⟩
    obtain ⟨record, music⟩ := json
    cases quiet
    rfl
  · rintro ⟨rfl, directed⟩
    exact bind_eq_ok.mpr ⟨⟨⟩, validate_eq_ok.mpr ⟨rfl, directed⟩, rfl⟩

end Records

section Keeping

/-- The JSON crate writes the value and reads it back from what it wrote. -/
def Inverts {α : Type} (toVec : α → Option (List Byte)) (fromSlice : List Byte → Option α) (value : α) : Prop :=
  ∃ payload, toVec value = some payload ∧ fromSlice payload = some value

structure Keeps (crates : PevcapCrates Telemetry) (capture : PevcapCapture Telemetry) : Prop where
  header : Inverts crates.headerToVec crates.headerFromSlice (.ofHeader capture.header)
  records : ∀ record ∈ capture.records, Inverts crates.recordToVec crates.recordFromSlice (.ofRecord record)
  locations : ∀ location ∈ capture.locations, Inverts crates.locationToVec crates.locationFromSlice location
  settings : ∀ observation ∈ capture.settingsObservations, Inverts crates.settingsToVec crates.settingsFromSlice observation

structure Announceable (crates : PevcapCrates Telemetry) (capture : PevcapCapture Telemetry) : Prop where
  records : capture.records.length ≤ u32Max
  locations : capture.locations.length ≤ u32Max
  header : ∀ payload, crates.headerToVec (.ofHeader capture.header) = some payload → payload.length ≤ u32Max
  ofRecords : ∀ record ∈ capture.records, ∀ payload, crates.recordToVec (.ofRecord record) = some payload →
    payload.length ≤ u32Max
  ofLocations : ∀ location ∈ capture.locations, ∀ payload, crates.locationToVec location = some payload →
    payload.length ≤ u32Max
  ofSettings : ∀ observation ∈ capture.settingsObservations, ∀ payload, crates.settingsToVec observation = some payload →
    payload.length ≤ u32Max

structure Encodable (crates : PevcapCrates Telemetry) (capture : PevcapCapture Telemetry) : Prop where
  version : capture.version = .current
  few : capture.settingsObservations.length ≤ maxCaptureSettingsObservations
  valid : ∀ observation ∈ capture.settingsObservations, observation.validate crates.uuid = .ok ()

/-- Where each related value is decided by what it is related to, whole lists are. -/
theorem forall₂_decided {γ : Type} (read : α → γ → Prop) (meant : β → γ) (holds : β → Prop)
    (decided : ∀ text value, made text value → ∀ found, read text found ↔ found = meant value ∧ holds value)
    (each : List.Forall₂ made texts values) (found : List γ) :
    List.Forall₂ read texts found ↔ found = values.map meant ∧ ∀ value ∈ values, holds value := by
  induction each generalizing found with
  | nil =>
    constructor
    · intro reads
      cases reads
      exact ⟨rfl, fun _ member => absurd member List.not_mem_nil⟩
    · rintro ⟨rfl, -⟩
      exact .nil
  | cons here _ ih =>
    rw [List.map_cons, List.forall_mem_cons]
    constructor
    · intro reads
      cases reads with
      | cons first others =>
        obtain ⟨rfl, good⟩ := (decided _ _ here _).mp first
        obtain ⟨rfl, rest⟩ := (ih _).mp others
        exact ⟨rfl, good, rest⟩
    · rintro ⟨rfl, good, rest⟩
      exact .cons ((decided _ _ here _).mpr ⟨rfl, good⟩) ((ih _).mpr ⟨rfl, rest⟩)

theorem forall₂_of_mem (each : ∀ value ∈ values, ∃ text, made text value) :
    ∃ texts, List.Forall₂ made texts values := by
  induction values with
  | nil => exact ⟨[], .nil⟩
  | cons value values ih =>
    obtain ⟨⟨text, here⟩, others⟩ := List.forall_mem_cons.mp each
    obtain ⟨texts, rest⟩ := ih others
    exact ⟨text :: texts, .cons here rest⟩

theorem made_fit {toVec : α → Option (List Byte)} {made : List Byte → α → Prop}
    (writes : ∀ payload value, made payload value → toVec value = some payload) {payloads : List (List Byte)}
    {values : List α} (each : List.Forall₂ made payloads values) (fit : ∀ payload ∈ payloads, Fits 4 payload) :
    ∀ value ∈ values, ∀ payload, toVec value = some payload → payload.length ≤ u32Max := by
  induction each with
  | nil => exact fun _ member => absurd member List.not_mem_nil
  | cons here _ ih =>
    obtain ⟨first, rest⟩ := List.forall_mem_cons.mp fit
    refine List.forall_mem_cons.mpr ⟨fun payload wrote => ?_, ih rest⟩
    cases (writes _ _ here).symm.trans wrote
    exact Nat.le_of_lt_succ first

theorem forall₂_with {holds : β → Prop} (each : List.Forall₂ made texts values) (all : ∀ value ∈ values, holds value) :
    List.Forall₂ (fun text value => made text value ∧ holds value) texts values := by
  induction each with
  | nil => exact .nil
  | cons here _ ih =>
    obtain ⟨good, rest⟩ := List.forall_mem_cons.mp all
    exact .cons ⟨here, good⟩ (ih rest)

theorem forall₂_left {keeps : α → Prop} (decides : ∀ text value, made text value → keeps text)
    (each : List.Forall₂ made texts values) : ∀ text ∈ texts, keeps text := by
  induction each with
  | nil => exact fun _ member => absurd member List.not_mem_nil
  | cons here _ ih => exact List.forall_mem_cons.mpr ⟨decides _ _ here, ih⟩

theorem forall₂_right {holds : β → Prop} (decides : ∀ text value, made text value → holds value)
    (each : List.Forall₂ made texts values) :
    ∀ value ∈ values, holds value := forall₂_left (fun value text => decides text value) each.flip

end Keeping

section Binary
variable {payloads : Payloads}

private theorem encode_exists (keeps : Keeps crates capture) (encodable : Encodable crates capture) :
    ∃ payloads : Payloads, payloads.Encode crates capture := by
  obtain ⟨⟨header, writesHeader, -⟩, records, locations, settings⟩ := keeps
  obtain ⟨recordPayloads, eachRecord⟩ := forall₂_of_mem fun record member => (records record member).imp fun _ made => made.1
  obtain ⟨locationPayloads, eachLocation⟩ := forall₂_of_mem fun location member =>
    (locations location member).imp fun _ made => made.1
  obtain ⟨settingsPayloads, eachSettings⟩ := forall₂_of_mem fun observation member =>
    (settings observation member).imp fun _ made => And.intro (encodable.valid observation member) made.1
  refine ⟨⟨header, recordPayloads, locationPayloads, settingsPayloads⟩, encodable.version, writesHeader, eachRecord,
    eachLocation, eachSettings, ?_⟩
  exact eachSettings.length_eq ▸ encodable.few

theorem Payloads.Encode.encodable (encode : payloads.Encode crates capture) : Encodable crates capture :=
  ⟨encode.version, encode.settings.length_eq ▸ encode.few,
    forall₂_right (fun _ _ made => made.1) encode.settings⟩

/-- The payloads of an announceable capture are framable, and of no other. -/
theorem framable_iff (encode : payloads.Encode crates capture) : payloads.Framable ↔ Announceable crates capture := by
  have sizes : ∀ {length : Nat}, length ≤ u32Max ↔ length < 256 ^ 4 := Nat.lt_succ_iff.symm
  constructor
  · intro framable
    refine ⟨sizes.mpr (encode.records.length_eq ▸ framable.records),
      sizes.mpr (encode.locations.length_eq ▸ framable.locations), ?_, ?_, ?_, ?_⟩
    · intro payload writes
      cases encode.header.symm.trans writes
      exact sizes.mpr framable.header
    · exact made_fit (fun _ _ made => made) encode.records framable.ofRecords
    · exact made_fit (fun _ _ made => made) encode.locations framable.ofLocations
    · exact made_fit (fun _ _ made => made.2) encode.settings framable.ofSettings
  · rintro ⟨records, locations, header, recordPayloads, locationPayloads, settingsPayloads⟩
    refine Payloads.framable_of_parts (sizes.mp (header _ encode.header)) ?_ ?_ ?_ (encode.records.length_eq ▸ sizes.mp records)
      (encode.locations.length_eq ▸ sizes.mp locations) (Nat.lt_of_le_of_lt encode.few (by decide))
    · exact forall₂_left (fun _ _ made => sizes.mp (made.2 _ made.1)) (forall₂_with encode.records recordPayloads)
    · exact forall₂_left (fun _ _ made => sizes.mp (made.2 _ made.1)) (forall₂_with encode.locations locationPayloads)
    · exact forall₂_left (fun _ _ made => sizes.mp (made.2 _ made.1.2)) (forall₂_with encode.settings settingsPayloads)

/-- What the payloads of a capture decode to: the capture, if its records are well formed. -/
theorem decode_encoded (keeps : Keeps crates capture) (encode : payloads.Encode crates capture) :
    payloads.Decode crates other ↔ other = capture ∧ ∀ record ∈ capture.records, record.Directed := by
  obtain ⟨⟨headerPayload, writesHeader, readsHeader⟩, keepsRecords, keepsLocations, keepsSettings⟩ := keeps
  cases encode.header.symm.trans writesHeader
  have header : ∀ found, headerFromPayload crates payloads.header = .ok found ↔ found = capture.header := by
    intro found
    rw [headerFromPayload, readsHeader]
    refine mapError_eq_ok.trans ?_
    rw [PevcapHeaderJson.tryIntoHeader_ofHeader]
    exact ⟨fun same => (Except.ok.inj same).symm, fun same => congrArg Except.ok same.symm⟩
  have recordDecided : ∀ payload record, crates.recordToVec (.ofRecord record) = some payload ∧
      Inverts crates.recordToVec crates.recordFromSlice (.ofRecord record) →
      ∀ found, recordFromPayload crates payload = .ok found ↔ found = id record ∧ record.Directed := by
    rintro payload record ⟨made, ⟨_, writes, reads⟩⟩ found
    cases made.symm.trans writes
    rw [recordFromPayload, reads]
    refine mapError_eq_ok.trans (tryIntoRecord_eq_ok.trans ?_)
    constructor
    · rintro ⟨same, directed⟩
      have records : found = record := congrArg PevcapRecordJson.toPevcapRecord same.symm
      exact ⟨records, records ▸ directed⟩
    · rintro ⟨rfl, directed⟩
      exact ⟨rfl, directed⟩
  have locationDecided : ∀ payload location, crates.locationToVec location = some payload ∧
      Inverts crates.locationToVec crates.locationFromSlice location →
      ∀ found, locationFromPayload crates payload = .ok found ↔ found = id location ∧ True := by
    rintro payload location ⟨made, ⟨_, writes, reads⟩⟩ found
    cases made.symm.trans writes
    rw [locationFromPayload, okOr_eq_ok, reads]
    exact ⟨fun same => ⟨(Option.some.inj same).symm, trivial⟩, fun same => congrArg some same.1.symm⟩
  have settingsDecided : ∀ payload observation, (observation.validate crates.uuid = .ok () ∧
      crates.settingsToVec observation = some payload) ∧
      Inverts crates.settingsToVec crates.settingsFromSlice observation →
      ∀ found, settingsFromPayload crates payload = .ok found ↔ found = id observation ∧ True := by
    rintro payload observation ⟨⟨valid, made⟩, ⟨_, writes, reads⟩⟩ found
    cases made.symm.trans writes
    rw [settingsFromPayload, reads]
    constructor
    · intro read
      obtain ⟨_, first, read⟩ := bind_eq_ok.mp read
      cases okOr_eq_ok.mp first
      obtain ⟨_, -, same⟩ := bind_eq_ok.mp read
      cases same
      exact ⟨rfl, trivial⟩
    · rintro ⟨rfl, -⟩
      exact bind_eq_ok.mpr ⟨_, okOr_eq_ok.mpr rfl, bind_eq_ok.mpr ⟨⟨⟩, mapError_eq_ok.mpr valid, rfl⟩⟩
  have records := forall₂_decided _ _ _ recordDecided (forall₂_with encode.records keepsRecords)
  have locations := forall₂_decided _ _ _ locationDecided (forall₂_with encode.locations keepsLocations)
  have settings := forall₂_decided _ _ _ settingsDecided (forall₂_with encode.settings keepsSettings)
  simp only [List.map_id] at records locations settings
  constructor
  · intro decode
    obtain ⟨sameRecords, directed⟩ := (records _).mp decode.records
    refine ⟨?_, directed⟩
    obtain ⟨version, otherHeader, otherRecords, otherLocations, otherSettings⟩ := other
    obtain ⟨_, _, _, _, _⟩ := capture
    cases decode.version
    cases encode.version
    cases (header _).mp decode.header
    cases sameRecords
    cases ((locations _).mp decode.locations).1
    cases ((settings _).mp decode.settings).1
    rfl
  · rintro ⟨rfl, directed⟩
    exact ⟨encode.version, (header _).mpr rfl, (records _).mpr ⟨rfl, directed⟩, (locations _).mpr ⟨rfl, fun _ _ => trivial⟩,
      (settings _).mpr ⟨rfl, fun _ _ => trivial⟩, encode.few⟩

theorem encodes_binary (keeps : Keeps crates capture) :
    (∃ bytes, capture.toBinary crates = .ok bytes) ↔ Encodable crates capture ∧ Announceable crates capture := by
  constructor
  · rintro ⟨bytes, wrote⟩
    obtain ⟨payloads, framable, encode, -⟩ := toBinary_eq_ok.mp wrote
    exact ⟨encode.encodable, (framable_iff encode).mp framable⟩
  · rintro ⟨encodable, announceable⟩
    obtain ⟨payloads, encode⟩ := encode_exists keeps encodable
    exact ⟨_, toBinary_eq_ok.mpr ⟨payloads, (framable_iff encode).mpr announceable, encode, rfl⟩⟩

theorem decodes_binary (keeps : Keeps crates capture) (wrote : capture.toBinary crates = .ok bytes) :
    PevcapCapture.fromBinary crates bytes = .ok other ↔ other = capture ∧ ∀ record ∈ capture.records, record.Directed := by
  obtain ⟨payloads, framable, encode, rfl⟩ := toBinary_eq_ok.mp wrote
  rw [fromBinary_eq_ok, ← decode_encoded keeps encode]
  constructor
  · rintro ⟨found, foundFramable, decode, same⟩
    rw [← List.append_nil payloads.container, ← List.append_nil found.container] at same
    exact (Payloads.container_unique framable foundFramable same).1 ▸ decode
  · intro decode
    exact ⟨payloads, framable, decode, rfl⟩

private theorem decoded_binary (decode : payloads.Decode crates capture) :
    Encodable crates capture ∧ ∀ record ∈ capture.records, record.Directed := by
  refine ⟨⟨decode.version, decode.settings.length_eq ▸ decode.few, forall₂_right ?_ decode.settings⟩,
    forall₂_right ?_ decode.records⟩
  · intro payload observation read
    obtain ⟨_, -, read⟩ := bind_eq_ok.mp read
    obtain ⟨_, valid, same⟩ := bind_eq_ok.mp read
    cases same
    exact mapError_eq_ok.mp valid
  · intro payload record read
    obtain ⟨_, -, made⟩ := bind_eq_ok.mp read
    exact (tryIntoRecord_eq_ok.mp (mapError_eq_ok.mp made)).2

end Binary

section Sample

def jsonList (first last : Char) (parts : List (List Char)) : List Char := first :: (List.intercalate [','] parts ++ [last])

def jsonObject (fields : List (String × List Char)) : List Char :=
  jsonList '\x7b' '\x7d' (fields.map fun field => '"' :: (field.1.toList ++ '"' :: ':' :: field.2))

def jsonArray (items : List (List Char)) : List Char := jsonList '[' ']' items

def jsonNull : List Char := ['n', 'u', 'l', 'l']

def shortHeaderJson : List Char := jsonObject
  [("wall_clock_start_unix_ms", ['0']), ("platform_id", "\"ios\"".toList), ("write_limit", jsonNull),
   ("advertised_services", jsonArray []), ("gatt_fingerprints", jsonArray []), ("selected_session_key", jsonNull),
   ("resolved_identity", jsonNull), ("resolver_evidence", jsonArray []), ("resolver_warnings", jsonArray []),
   ("library_version", "\"1\"".toList), ("registry_hash", jsonArray (List.replicate 32 ['0'])), ("annotations", jsonArray [])]

def recordJson (time : Char) (direction : String) (service : List Char) (link : List (String × List Char))
    (bytes : List (List Char)) : List Char :=
  jsonObject ([("monotonic_ms", [time]), ("direction", direction.toList), ("characteristic", jsonArray (List.replicate 16 ['0'])),
    ("service", service), ("write_mode", jsonNull)] ++ link ++ [("bytes", jsonArray bytes)])

def stillLocationJson : List Char := jsonObject
  [("receipt_monotonic_ms", ['8']), ("location", jsonObject
    [("wall_clock_unix_ms", ['1']), ("latitude_degrees", "0.0".toList), ("longitude_degrees", "0.0".toList),
     ("altitude_meters", "0.0".toList), ("horizontal_accuracy_meters", jsonNull), ("vertical_accuracy_meters", jsonNull),
     ("speed_meters_per_second", jsonNull), ("speed_accuracy_meters_per_second", jsonNull), ("course_degrees", jsonNull),
     ("course_accuracy_degrees", jsonNull)])]

def captureIdText : String := "00000000-0000-0000-0000-000000000001"

def lightOffJson : List Char := jsonObject
  [("capture_id", '"' :: (captureIdText.toList ++ ['"'])), ("profile", jsonObject
    [("profile_id", "\"euc\"".toList), ("pev_category", jsonNull), ("model", jsonNull), ("firmware", jsonNull),
     ("selection", "\"manual\"".toList)]),
   ("observed_at_ms", ['3']), ("recorded_at_ms", ['4']), ("source", "\"wheel_display\"".toList),
   ("values", jsonArray [jsonObject [("setting_id", "\"light\"".toList), ("value", jsonObject [("kind", "\"off\"".toList)]),
     ("unit", jsonNull), ("note", jsonNull)]]),
   ("note", jsonNull)]

def shortHeader : PevcapHeader where
  wallClockStartUnixMs := 0
  platformId := "ios"
  writeLimit := none
  advertisedServices := ⟨[], Nat.zero_le _⟩
  gattFingerprints := ⟨[], Nat.zero_le _⟩
  selectedSessionKey := none
  resolvedIdentity := none
  resolverEvidence := ⟨[], Nat.zero_le _⟩
  resolverWarnings := ⟨[], Nat.zero_le _⟩
  libraryVersion := "1"
  registryHash := .replicate 32 0
  annotations := ⟨[], Nat.zero_le _⟩

def notified : PevcapRecord Unit := { PevcapRecord.bare 7 .inbound 0 [1, 2, 3, 4] with service := some 0 }

def stillLocation : PevcapLocationSample where
  receiptMonotonicMs := 8
  sourceMonotonicOffsetMs := none
  location := ⟨1, 0, 0, 0, none, none, none, none, none, none⟩
  sourceTimestampUnixSeconds := none
  simulated := none
  producedByAccessory := none

def lightOff : CaptureSettingsObservation where
  captureId := captureIdText
  profile := ⟨"euc", none, none, none, .manual⟩
  observedAtMs := 3
  recordedAtMs := 4
  source := .wheelDisplay
  values := [⟨"light", .off, none, none⟩]
  note := none

/-- A link goes down, comes up again and brings a notification. -/
def reconnectRecords : List (PevcapRecord Unit × List Char) :=
  [(.linkDown 5, recordJson '5' "\"LinkDown\"" jsonNull [] []),
    (.linkUp 6 (some 9), recordJson '6' "\"LinkUp\"" jsonNull [("link_max_write_len", ['9'])] []),
    (notified, recordJson '7' "\"Inbound\"" (jsonArray (List.replicate 16 ['0'])) [] [['1'], ['2'], ['3'], ['4']])]

def reconnectCapture : PevcapCapture Unit where
  version := .current
  header := shortHeader
  records := reconnectRecords.map Prod.fst
  locations := [stillLocation]
  settingsObservations := [lightOff]

section Texts
variable {α : Type} [DecidableEq α]

def written (rows : List (α × List Char)) (value : α) : Option (List Byte) :=
  (rows.find? fun row => row.1 = value).map fun row => strBytes row.2

def readBack (rows : List (α × List Char)) (bytes : List Byte) : Option α :=
  (rows.find? fun row => strBytes row.2 = bytes).map Prod.fst

private theorem find_distinct {γ : Type} [DecidableEq β] {key : γ → β} {rows : List γ}
    (distinct : (rows.map key).Nodup) {row : γ} (member : row ∈ rows) :
    rows.find? (fun other => key other = key row) = some row := by
  induction rows with
  | nil => cases member
  | cons first rows ih =>
    obtain ⟨fresh, distinct⟩ := List.nodup_cons.mp distinct
    rcases List.mem_cons.mp member with rfl | member
    · exact List.find?_cons_of_pos (decide_eq_true rfl)
    · have other : key first ≠ key row := fun same => fresh (same ▸ List.mem_map_of_mem member)
      rw [List.find?_cons_of_neg (by simpa using other)]
      exact ih distinct member

theorem written_inverts {rows : List (α × List Char)} (values : (rows.map Prod.fst).Nodup)
    (texts : (rows.map fun row => strBytes row.2).Nodup) {value : α} {text : List Char} (member : (value, text) ∈ rows) :
    written rows value = some (strBytes text) ∧ readBack rows (strBytes text) = some value := by
  unfold written readBack
  have byValue := find_distinct values member
  have byText := find_distinct texts member
  exact ⟨by rw [byValue]; rfl, by rw [byText]; rfl⟩

end Texts

def recordTexts : List (PevcapRecordJson Unit × List Char) := reconnectRecords.map fun row => (.ofRecord row.1, row.2)

def reconnectCrates : PevcapCrates Unit where
  headerToVec := written [(.ofHeader shortHeader, shortHeaderJson)]
  headerFromSlice := readBack [(.ofHeader shortHeader, shortHeaderJson)]
  recordToVec := written recordTexts
  recordFromSlice := readBack recordTexts
  locationToVec := written [(stillLocation, stillLocationJson)]
  locationFromSlice := readBack [(stillLocation, stillLocationJson)]
  settingsToVec := written [(lightOff, lightOffJson)]
  settingsFromSlice := readBack [(lightOff, lightOffJson)]
  uuid text := if text = captureIdText then some text else none

def reconnectPayloads : Payloads where
  header := strBytes shortHeaderJson
  records := reconnectRecords.map fun row => strBytes row.2
  locations := [strBytes stillLocationJson]
  settings := [strBytes lightOffJson]

private theorem only_inverts [DecidableEq α] (value : α) (text : List Char) :
    written [(value, text)] value = some (strBytes text) ∧ readBack [(value, text)] (strBytes text) = some value :=
  written_inverts (by simp) (by simp) List.mem_cons_self

set_option maxRecDepth 4000 in
private theorem records_invert : ∀ row ∈ reconnectRecords,
    reconnectCrates.recordToVec (.ofRecord row.1) = some (strBytes row.2) ∧
      reconnectCrates.recordFromSlice (strBytes row.2) = some (.ofRecord row.1) := by
  intro row member
  simp only [reconnectCrates]
  exact written_inverts (by decide) (by decide) (List.mem_map_of_mem member)

private theorem header_inverts : reconnectCrates.headerToVec (.ofHeader shortHeader) = some (strBytes shortHeaderJson) ∧
    reconnectCrates.headerFromSlice (strBytes shortHeaderJson) = some (.ofHeader shortHeader) := by
  simpa only [reconnectCrates] using only_inverts (PevcapHeaderJson.ofHeader shortHeader) shortHeaderJson

private theorem location_inverts : reconnectCrates.locationToVec stillLocation = some (strBytes stillLocationJson) ∧
    reconnectCrates.locationFromSlice (strBytes stillLocationJson) = some stillLocation := by
  simpa only [reconnectCrates] using only_inverts stillLocation stillLocationJson

private theorem settings_inverts : reconnectCrates.settingsToVec lightOff = some (strBytes lightOffJson) ∧
    reconnectCrates.settingsFromSlice (strBytes lightOffJson) = some lightOff := by
  simpa only [reconnectCrates] using only_inverts lightOff lightOffJson

theorem reconnect_keeps : Keeps reconnectCrates reconnectCapture := by
  refine ⟨⟨_, header_inverts⟩, ?_, List.forall_mem_singleton.mpr ⟨_, location_inverts⟩,
    List.forall_mem_singleton.mpr ⟨_, settings_inverts⟩⟩
  exact List.forall_mem_map.mpr fun row member => ⟨_, records_invert row member⟩

set_option maxRecDepth 4000 in
private theorem lightOff_valid : lightOff.validate reconnectCrates.uuid = .ok () := by decide

theorem reconnect_encode : reconnectPayloads.Encode reconnectCrates reconnectCapture := by
  refine ⟨rfl, header_inverts.1, ?_, .cons location_inverts.1 .nil, .cons ⟨lightOff_valid, settings_inverts.1⟩ .nil, by decide⟩
  rw [reconnectPayloads, reconnectCapture, List.forall₂_map_left_iff, List.forall₂_map_right_iff, List.forall₂_same]
  exact fun row member => (records_invert row member).1

theorem reconnect_directed : ∀ record ∈ reconnectCapture.records, record.Directed :=
  List.forall_mem_cons.mpr ⟨⟨rfl, rfl, rfl, rfl, rfl, rfl⟩, List.forall_mem_cons.mpr ⟨⟨rfl, rfl, rfl, rfl, rfl⟩,
    List.forall_mem_singleton.mpr ⟨rfl, rfl, rfl, rfl, rfl⟩⟩⟩

set_option maxRecDepth 4000 in
theorem reconnect_short : ∀ payload ∈ reconnectPayloads.all, payload.length ≤ 1024 := by decide

theorem reconnect_announceable : Announceable reconnectCrates reconnectCapture := by
  refine (framable_iff reconnect_encode).mp ⟨fun payload member => ?_, by decide, by decide, by decide⟩
  exact (reconnect_short payload member).trans_lt (by decide)

end Sample

section Codec

/-- What is encoded is decoded to the same capture. A capture is encoded if and only if its version is the current
one, its settings are valid and not too many, and the container has room for it; it is decoded again if and
only if its records have the fields of their directions. -/
theorem PevcapCapture.fromBinary_toBinary (keeps : Keeps crates capture) :
    ((∃ bytes, capture.toBinary crates = .ok bytes) ↔ Encodable crates capture ∧ Announceable crates capture) ∧
    ∀ bytes, capture.toBinary crates = .ok bytes → ∀ other,
      fromBinary crates bytes = .ok other ↔ other = capture ∧ ∀ record ∈ capture.records, record.Directed :=
  ⟨encodes_binary keeps, fun _ wrote _ => decodes_binary keeps wrote⟩

theorem PevcapCapture.fromBinary_toBinary_reconnect : ∃ bytes, reconnectCapture.toBinary reconnectCrates = .ok bytes ∧
    fromBinary reconnectCrates bytes = .ok reconnectCapture := by
  obtain ⟨encodes, decodes⟩ := fromBinary_toBinary reconnect_keeps
  obtain ⟨bytes, wrote⟩ := encodes.mpr ⟨reconnect_encode.encodable, reconnect_announceable⟩
  exact ⟨bytes, wrote, (decodes bytes wrote _).mpr ⟨rfl, reconnect_directed⟩⟩

/-- Whatever was decoded is well formed: it is written again if the container has room for it, and read back
as the same capture. -/
theorem PevcapCapture.toBinary_fromBinary (read : fromBinary crates bytes = .ok capture) (keeps : Keeps crates capture) :
    ((∃ copy, capture.toBinary crates = .ok copy) ↔ Announceable crates capture) ∧
    ∀ copy, capture.toBinary crates = .ok copy → fromBinary crates copy = .ok capture := by
  obtain ⟨payloads, -, decode, -⟩ := fromBinary_eq_ok.mp read
  obtain ⟨encodable, directed⟩ := decoded_binary decode
  exact ⟨(encodes_binary keeps).trans (and_iff_right encodable), fun _ wrote => (decodes_binary keeps wrote).mpr ⟨rfl, directed⟩⟩

theorem reconnect_decodes : ∃ bytes, PevcapCapture.fromBinary reconnectCrates bytes = .ok reconnectCapture := by
  obtain ⟨bytes, wrote⟩ := (encodes_binary reconnect_keeps).mpr ⟨reconnect_encode.encodable, reconnect_announceable⟩
  exact ⟨bytes, (decodes_binary reconnect_keeps wrote).mpr ⟨rfl, reconnect_directed⟩⟩

theorem PevcapCapture.toBinary_fromBinary_reconnect : ∃ bytes copy, fromBinary reconnectCrates bytes = .ok reconnectCapture ∧
    reconnectCapture.toBinary reconnectCrates = .ok copy ∧ fromBinary reconnectCrates copy = .ok reconnectCapture := by
  obtain ⟨bytes, read⟩ := reconnect_decodes
  obtain ⟨copies, same⟩ := toBinary_fromBinary read reconnect_keeps
  obtain ⟨copy, wrote⟩ := copies.mpr reconnect_announceable
  exact ⟨bytes, copy, read, wrote, same copy wrote⟩

end Codec

section Streaming

def Streamed (bytes : List Byte) : Prop :=
  ∃ payloads : Payloads, payloads.Framable ∧ (∀ payload ∈ payloads.all, Streamable payload) ∧ bytes = payloads.container

/-- Read to its end, the streaming reader gives the header and the events of the capture that the decoder finds,
if and only if no payload is longer than it takes. -/
theorem BinaryReader.stream_decodes :
    (∃ state given, newBinary crates bytes = .ok state ∧ Reads (next crates) state given ∧
      capture = assemble state.header given) ↔
    PevcapCapture.fromBinary crates bytes = .ok capture ∧ Streamed bytes := by
  constructor
  · rintro ⟨state, given, opened, reads, rfl⟩
    obtain ⟨payloads, found, framable, short, decode, whole, same, rfl⟩ := stream_binary.mp ⟨state, opened, rfl, reads⟩
    have assembled : assemble state.header found.events = found := same ▸ assemble_events decode.version
    refine ⟨fromBinary_eq_ok.mpr ⟨payloads, framable, ?_, whole⟩, payloads, framable, short, whole⟩
    exact assembled.symm ▸ decode
  · rintro ⟨decoded, payloads, framable, short, whole⟩
    obtain ⟨others, othersFramable, decode, again⟩ := fromBinary_eq_ok.mp decoded
    rw [whole, ← List.append_nil payloads.container, ← List.append_nil others.container] at again
    obtain ⟨rfl, -⟩ := Payloads.container_unique framable othersFramable again
    obtain ⟨state, opened, same, reads⟩ := stream_binary.mpr ⟨payloads, capture, framable, short, decode, whole, rfl, rfl⟩
    refine ⟨state, capture.events, opened, reads, ?_⟩
    exact (assemble_events decode.version).symm.trans (congrArg (assemble · capture.events) same.symm)

end Streaming

section Cutting

def IsTruncated (error : PevcapBinaryError) : Prop := ∃ part, error = .truncated part

variable (part : PevcapBinarySection) {α : Type} (decode : List Byte → Except PevcapBinaryError α)

theorem cuts_exact (len : Nat) : Cuts IsTruncated (readExact part len) := by
  intro front back value rest whole
  obtain ⟨piece, ⟨rfl, sized⟩, split⟩ := (parses_exact len _ _ _).mp whole
  by_cases enough : len ≤ front.length
  · obtain ⟨more, rfl⟩ : ∃ more, front = value ++ more := ⟨front.drop len, by
      have taken := congrArg (List.take len) split
      rw [List.take_append_of_le_length enough, ← sized, List.take_left] at taken
      rw [← taken, sized, List.take_append_drop]⟩
    rw [List.append_assoc] at split
    exact .inl ⟨more, (parses_exact len _ _ _).mpr ⟨value, ⟨rfl, sized⟩, rfl⟩, (List.append_cancel_left split).symm⟩
  · refine .inr ⟨.truncated part, ⟨part, rfl⟩, ?_⟩
    rw [readExact, demand, if_neg enough]
    rfl

theorem cuts_u16 : Cuts IsTruncated (readU16Le part) := (cuts_exact part 2).map fromLittleEndian

theorem cuts_u32 : Cuts IsTruncated (readU32Le part) := (cuts_exact part 4).map fromLittleEndian

theorem cuts_item : Cuts IsTruncated (readItem part decode) :=
  ((cuts_u32 part).bind fun len => cuts_exact part len).convert decode

theorem cuts_items (count : Nat) : Cuts IsTruncated (readItems part decode count) := by
  refine ((cuts_item part decode).many count).check fun input error refused => ?_
  rw [ensureCountFraming, demand] at refused
  split at refused
  · cases refused
  · cases refused
    exact ⟨part, rfl⟩

private theorem cuts_settings (crates : PevcapCrates Telemetry) : Cuts IsTruncated (readBinarySettingsObservations crates) :=
  (cuts_u32 .settingsObservationCount).bind fun count =>
    (cuts_items .settingsObservation (settingsFromPayload crates) count).guarded (ensureBinarySettingsObservationCount count)

private theorem cuts_version : Cuts IsTruncated readVersion :=
  (cuts_u16 .version).bind fun major => (cuts_u16 .version).map (PevcapFormatVersion.mk major)

/-- A container that is cut short is read no differently, until it is found to be cut. -/
theorem cuts_binary (crates : PevcapCrates Telemetry) : Cuts IsTruncated (PevcapCapture.readBinary crates) := by
  have settings := fun version header records locations =>
    (cuts_settings crates).map (@PevcapCapture.mk Telemetry version header records locations)
  have locations := fun version header records => (cuts_u32 .locationCount).bind fun count =>
    (cuts_items .location (locationFromPayload crates) count).bind (settings version header records)
  have records := fun version header => (cuts_u32 .recordCount).bind fun count =>
    (cuts_items .record (recordFromPayload crates) count).bind (locations version header)
  have header := fun version => (cuts_item .header (headerFromPayload crates)).bind (records version)
  have version := cuts_version.bind fun version =>
    (header version).guarded (demand version.isSupported (.unsupportedVersion version))
  exact (cuts_exact .magic pevcapMagic.length).bind fun magic => version.guarded (demand (magic = pevcapMagic) .invalidMagic)

/-- Behind a container nothing may follow, and every proper part of one is told to be cut short. -/
theorem PevcapCapture.container_is_exact (whole : fromBinary crates bytes = .ok capture) :
    (∀ extra, extra ≠ [] → fromBinary crates (bytes ++ extra) = .error (.trailingBytes extra.length)) ∧
    ∀ front back, back ≠ [] → bytes = front ++ back → ∃ part, fromBinary crates front = .error (.truncated part) := by
  obtain ⟨payloads, framable, decode, rfl⟩ := fromBinary_eq_ok.mp whole
  have read : ∀ extra, readBinary crates (payloads.container ++ extra) = .ok (capture, extra) := fun extra =>
    readBinary_eq_ok.mpr ⟨payloads, framable, decode, rfl⟩
  constructor
  · intro extra some
    rw [fromBinary, read]
    exact congrArg (· >>= fun _ => Except.ok capture) (if_neg some)
  · intro front back some split
    have uncut := read []
    rw [List.append_nil, split] at uncut
    rcases cuts_binary crates front back capture [] uncut with ⟨left, -, empty⟩ | ⟨_, ⟨part, rfl⟩, refused⟩
    · exact absurd (List.append_eq_nil_iff.mp empty.symm).2 some
    · refine ⟨part, ?_⟩
      rw [fromBinary, refused]
      rfl

theorem PevcapCapture.container_is_exact_reconnect : ∃ bytes, fromBinary reconnectCrates bytes = .ok reconnectCapture ∧
    fromBinary reconnectCrates (bytes ++ [0]) = .error (.trailingBytes 1) := by
  obtain ⟨bytes, whole⟩ := reconnect_decodes
  exact ⟨bytes, whole, (container_is_exact whole).1 [0] (List.cons_ne_nil _ _)⟩

end Cutting
end Cutout.Pevcap
