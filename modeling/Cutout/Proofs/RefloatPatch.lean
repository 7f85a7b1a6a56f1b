import Cutout.SettingsImage
import Cutout.Proofs.ConfigurationPatch

/-! One-field patches of the package image. A value that a row accepts has a wire number of the
row's width, the number reads back from the patched word, and the integer emitted for a setting
stands for the value it was emitted for. -/

namespace Cutout.Protocols
variable {number : Int} {id : SettingId}

variable {field other : RefloatFieldSpec} {value : DeviceSettingValue} {bytes word written : List Byte} {raw : Int}

/-- A signed number is the two's-complement reading of its residue. -/
theorem twosComplement_emod {bits : Nat} (positive : 0 < bits) (least : -2 ^ (bits - 1) ≤ number)
    (greatest : number < 2 ^ (bits - 1)) : twosComplement bits (number % 2 ^ bits).toNat = number := by
  have doubled : (2 : Int) ^ bits = 2 * 2 ^ (bits - 1) := by
    rw [← pow_succ', Nat.sub_add_cancel positive]
  have half : ((2 ^ (bits - 1) : Nat) : Int) = 2 ^ (bits - 1) := by push_cast; rfl
  have some_ : (0 : Int) < 2 ^ (bits - 1) := by positivity
  unfold twosComplement
  by_cases negative : number < 0
  · have residue : number % 2 ^ bits = number + 2 ^ bits := by
      rw [← Int.add_emod_right, Int.emod_eq_of_lt (by omega) (by omega)]
    rw [residue, if_neg (by omega)]
    omega
  · have residue : number % 2 ^ bits = number := Int.emod_eq_of_lt (by omega) (by omega)
    rw [residue, if_pos (by omega)]
    omega

/-- Every row is one or two bytes between the signature and the trailing default flag. -/
theorem refloatFields_placed : ∀ field ∈ refloatFields, (field.width = 1 ∨ field.width = 2) ∧ 4 ≤ field.offset ∧
    field.offset + field.width < refloatConfigLen := by decide

def RefloatFieldSpec.Apart (field other : RefloatFieldSpec) : Prop :=
  other.offset + other.width ≤ field.offset ∨ field.offset + field.width ≤ other.offset

instance : Std.Symm RefloatFieldSpec.Apart where
  symm _ _ := Or.symm

instance (field other : RefloatFieldSpec) : Decidable (field.Apart other) := by
  unfold RefloatFieldSpec.Apart
  infer_instance

private theorem refloatFields_apart : refloatFields.Pairwise RefloatFieldSpec.Apart := by decide

private theorem refloatFields_disjoint (listed : field ∈ refloatFields) (there : other ∈ refloatFields)
    (different : field.id ≠ other.id) : field.Apart other := by
  apply refloatFields_apart.forall listed there
  intro same
  exact different (congrArg RefloatFieldSpec.id same)

theorem refloatSpec_mem (found : refloatSpec id = some field) : field ∈ refloatFields ∧ field.id = id :=
  ⟨List.mem_of_find?_eq_some found, by simpa using List.find?_some found⟩

private theorem readRaw_listed (listed : field ∈ refloatFields) (sized : bytes.length = refloatConfigLen) :
    readRaw bytes field =
      some (if field.signed then signedFromBe ((bytes.drop field.offset).take field.width)
        else unsignedFromBe ((bytes.drop field.offset).take field.width)) := by
  obtain ⟨width, -, inside⟩ := refloatFields_placed field listed
  rw [readRaw, if_pos ⟨width, by omega⟩]

private theorem readRaw_written (inside : (field.width = 1 ∨ field.width = 2) ∧ field.offset + field.width ≤ bytes.length)
    (fits : field.fits raw = true) :
    readRaw (patch bytes field.offset (toBe field.width (raw % 2 ^ (8 * field.width)).toNat)) field = some raw := by
  obtain ⟨width, inside⟩ := inside
  have room : field.offset + (toBe field.width (raw % 2 ^ (8 * field.width)).toNat).length ≤ bytes.length := by
    rw [toBe_length]
    exact inside
  have read := patch_inside room
  rw [toBe_length] at read
  have positive : (0 : Int) < 2 ^ (8 * field.width) := by positivity
  have powers : (256 : Nat) ^ field.width = 2 ^ (8 * field.width) := by rw [pow_mul]; rfl
  have cast : ((2 ^ (8 * field.width) : Nat) : Int) = 2 ^ (8 * field.width) := by push_cast; rfl
  have least := Int.emod_nonneg raw positive.ne'
  have greatest := Int.emod_lt_of_pos raw positive
  have small : (raw % 2 ^ (8 * field.width)).toNat < 256 ^ field.width := by
    rw [powers]
    omega
  rw [readRaw, if_pos ⟨width, by rw [patch_length room]; exact inside⟩, read]
  unfold RefloatFieldSpec.fits at fits
  dsimp only at fits ⊢
  by_cases signed : field.signed = true
  · rw [if_pos signed] at fits ⊢
    obtain ⟨low, high⟩ := of_decide_eq_true fits
    rw [signedFromBe, toBe_length, unsignedFromBe_toBe small, twosComplement_emod (by omega) low high]
  · rw [if_neg signed] at fits ⊢
    obtain ⟨low, high⟩ := of_decide_eq_true fits
    rw [unsignedFromBe_toBe small, Int.emod_eq_of_lt low high, Int.toNat_of_nonneg low]

private theorem readRaw_disjoint {offset : Nat} (inside : offset + word.length ≤ bytes.length)
    (disjoint : field.offset + field.width ≤ offset ∨ offset + word.length ≤ field.offset) :
    readRaw (patch bytes offset word) field = readRaw bytes field := by
  rw [readRaw, readRaw, patch_length inside, window_disjoint inside disjoint]

namespace RefloatFieldSpec

theorem fits_between {low high : Int} (least : field.fits low = true) (greatest : field.fits high = true)
    (above : low ≤ raw) (below : raw ≤ high) : field.fits raw = true := by
  unfold fits at least greatest ⊢
  cases signed : field.signed with
  | true =>
    simp only [signed, ↓reduceIte, decide_eq_true_eq] at least greatest ⊢
    omega
  | false =>
    simp only [signed, Bool.false_eq_true, ↓reduceIte, decide_eq_true_eq] at least greatest ⊢
    omega

private theorem booleans_fit : ∀ field ∈ refloatFields, field.kind = .boolean →
    field.fits 0 = true ∧ field.fits 1 = true := by decide

theorem choices_fit : ∀ field ∈ refloatFields, field.kind = .choice →
    field.choices ≤ i32Max ∧ field.fits 0 = true ∧ field.fits (field.choices - 1) = true := by decide

/-- The bounds and the step of a number row are whole wire steps that fit its word. -/
theorem numbers_fit : ∀ field ∈ refloatFields, field.kind = .number →
    0 < field.semanticPerWire ∧ field.semanticPerWire ∣ field.minimum ∧ field.semanticPerWire ∣ field.wireStep ∧
      i32Min ≤ field.minimum ∧ field.maximum ≤ i32Max ∧
      field.fits (field.minimum / field.semanticPerWire) = true ∧
      field.fits (field.maximum / field.semanticPerWire) = true := by decide

theorem pwmTiltback_row : ∀ field ∈ refloatFields, field.id = .pwmTiltback →
    field.minimum = 0 ∧ field.maximum = 99 ∧ field.wireStep = 1 ∧
      field.fits 0 = true ∧ field.fits 1000 = true := by decide

theorem tiltbackSpeed_row : ∀ field ∈ refloatFields, field.id = .tiltbackSpeed →
    field.semanticPerWire = 10 ∧ 0 < field.minimum ∧ field.fits 0 = true := by decide

theorem accepts_number (numeric : field.kind = .number) : field.accepts (.number number) = true ↔
    field.minimum ≤ number ∧ number ≤ field.maximum ∧ 0 < field.wireStep ∧
      Int.tmod (number - field.minimum) field.wireStep = 0 := by
  unfold accepts
  rw [numeric]
  exact decide_eq_true_iff

private theorem scaled_exactly (listed : field ∈ refloatFields) (numeric : field.kind = .number)
    (accepted : field.accepts (.number number) = true) :
    Int.tdiv number field.semanticPerWire * field.semanticPerWire = number ∧
      field.fits (Int.tdiv number field.semanticPerWire) = true := by
  obtain ⟨positive, least, step, -, -, low, high⟩ := numbers_fit field listed numeric
  obtain ⟨above, below, -, multiple⟩ := (accepts_number numeric).mp accepted
  have whole : field.semanticPerWire ∣ number := by
    have apart := step.trans (Int.dvd_of_tmod_eq_zero multiple)
    have sum := dvd_add apart least
    rwa [Int.sub_add_cancel] at sum
  have quotient : Int.tdiv number field.semanticPerWire = number / field.semanticPerWire := Int.tdiv_eq_ediv_of_dvd whole
  rw [quotient]
  refine ⟨Int.ediv_mul_cancel whole, fits_between low high ?_ ?_⟩
  · exact Int.ediv_le_ediv positive above
  · exact Int.ediv_le_ediv positive below

/-- The wire scaling alters no value that a row accepts: it has a wire number of the row's width, and
that number stands for it. -/
theorem scaling_is_exact (listed : field ∈ refloatFields) (accepted : field.accepts value = true) :
    ∃ raw, field.wireValue value = some raw ∧ field.fits raw = true ∧ field.decodeWireValue raw = some value := by
  cases kind : field.kind with
  | boolean =>
    obtain ⟨off, on⟩ := booleans_fit field listed kind
    cases value with
    | boolean enabled =>
      refine ⟨if enabled then 1 else 0, by simp only [wireValue, kind], ?_, ?_⟩
      · cases enabled
        · exact off
        · exact on
      · cases enabled <;> simp [decodeWireValue, kind]
    | _ => simp [accepts, kind] at accepted
  | choice =>
    obtain ⟨-, first, last⟩ := choices_fit field listed kind
    cases value with
    | choice choice =>
      simp only [accepts, kind, decide_eq_true_eq] at accepted
      refine ⟨choice - 1, by simp only [wireValue, kind], fits_between first last (by omega) (by omega), ?_⟩
      simp only [decodeWireValue, kind]
      rw [if_pos (by omega)]
      congr 2
      omega
    | _ => simp [accepts, kind] at accepted
  | number =>
    cases value with
    | number number =>
      obtain ⟨exact_, fits⟩ := scaled_exactly listed kind accepted
      obtain ⟨above, below, -, -⟩ := (accepts_number kind).mp accepted
      by_cases tiltback : field.id = .pwmTiltback
      · obtain ⟨minimum, maximum, -, off, limit⟩ := pwmTiltback_row field listed tiltback
        refine ⟨number * 10, by simp only [wireValue, kind, tiltback, if_true],
          fits_between off limit (by omega) (by omega), ?_⟩
        simp only [decodeWireValue, kind, tiltback, if_true]
        rw [if_neg (by omega), if_pos ⟨by omega, by omega, Int.mul_tmod_left number 10⟩,
          Int.mul_tdiv_cancel number (by decide)]
      · refine ⟨Int.tdiv number field.semanticPerWire, ?_, fits, ?_⟩
        · simp only [wireValue, kind]
          rw [if_neg tiltback]
          split
          · next speed => rw [(tiltbackSpeed_row field listed speed).1]
          · rfl
        · simp only [decodeWireValue, kind]
          rw [if_neg tiltback, exact_, if_pos accepted, if_neg]
          rintro ⟨speed, stopped⟩
          have positive := (tiltbackSpeed_row field listed speed).2.1
          rw [stopped, Int.zero_mul] at exact_
          omega
    | disabled =>
      simp only [accepts, kind, decide_eq_true_eq] at accepted
      rcases accepted with tiltback | speed
      · obtain ⟨-, -, -, -, limit⟩ := pwmTiltback_row field listed tiltback
        exact ⟨1000, by simp only [wireValue, kind, tiltback, if_true], limit, by simp [decodeWireValue, kind, tiltback]⟩
      · obtain ⟨-, -, off⟩ := tiltbackSpeed_row field listed speed
        exact ⟨0, by simp [wireValue, kind, speed], off, by simp [decodeWireValue, kind, speed]⟩
    | _ => simp [accepts, kind] at accepted

private theorem decoded_is_accepted (listed : field ∈ refloatFields) (decoded : field.decodeWireValue raw = some value) :
    field.accepts value = true := by
  unfold decodeWireValue at decoded
  cases kind : field.kind with
  | boolean =>
    simp only [kind] at decoded
    split_ifs at decoded <;> cases decoded <;> simp only [accepts, kind]
  | choice =>
    simp only [kind] at decoded
    split_ifs at decoded with inside
    cases decoded
    simp only [accepts, kind, decide_eq_true_eq]
    omega
  | number =>
    simp only [kind] at decoded
    split_ifs at decoded with tiltback limit bounded speed accepted
    · cases decoded
      simp only [accepts, kind, tiltback, true_or, decide_true]
    · obtain ⟨minimum, maximum, step, -, -⟩ := pwmTiltback_row field listed tiltback
      obtain ⟨above, below, multiple⟩ := bounded
      cases decoded
      obtain ⟨percent, rfl⟩ := Int.dvd_of_tmod_eq_zero multiple
      rw [accepts_number kind, minimum, maximum, step, Int.mul_tdiv_cancel_left percent (by decide)]
      exact ⟨by omega, by omega, by decide, Int.tmod_one _⟩
    · cases decoded
      simp only [accepts, kind, speed.1, or_true, decide_true]
    · cases decoded
      exact accepted

/-- The integer emitted for an accepted value is normalised back to it. -/
theorem normalized_back {image : SettingsImage} (listed : field ∈ refloatFields) (accepted : field.accepts value = true)
    (shown : image.value field.id = some value) : field.normalizeRaw (image.readbackRaw field.id) = some value := by
  unfold SettingsImage.readbackRaw
  rw [shown]
  cases kind : field.kind with
  | boolean =>
    cases value with
    | boolean enabled => cases enabled <;> simp [normalizeRaw, kind, i32Min, i32Max]
    | _ => simp [accepts, kind] at accepted
  | choice =>
    obtain ⟨few, -, -⟩ := choices_fit field listed kind
    cases value with
    | choice choice =>
      simp only [accepts, kind, decide_eq_true_eq] at accepted
      have least : i32Min < 0 := by decide
      simp only [normalizeRaw, kind]
      rw [if_neg (by omega), if_pos (by omega), Int.toNat_natCast]
    | _ => simp [accepts, kind] at accepted
  | number =>
    cases value with
    | number number =>
      obtain ⟨-, -, -, least, greatest, -, -⟩ := numbers_fit field listed kind
      obtain ⟨above, below, -, -⟩ := (accepts_number kind).mp accepted
      simp only [normalizeRaw, kind]
      rw [if_neg (by omega), if_neg, if_neg, if_pos accepted]
      · rintro ⟨speed, stopped⟩
        have positive := (tiltbackSpeed_row field listed speed).2.1
        omega
      · rintro ⟨tiltback, full⟩
        have maximum := (pwmTiltback_row field listed tiltback).2.1
        omega
    | disabled =>
      simp only [accepts, kind, decide_eq_true_eq] at accepted
      rcases accepted with tiltback | speed
      · simp [normalizeRaw, kind, tiltback, i32Min, i32Max]
      · simp [normalizeRaw, kind, speed, i32Min, i32Max]
    | _ => simp [accepts, kind] at accepted

end RefloatFieldSpec

/-- The identities under which settings are read back are distinct. -/
theorem refloatFieldId_listed (known : id ∈ refloatSupportedSettingIds) :
    refloatFieldId id = some (if id = .tiltbackSpeed then 0x9006 else if id = .pwmTiltback then 0x9005
      else 0x9100 + refloatSupportedSettingIds.idxOf id) := by
  obtain ⟨field, listed, named⟩ := List.mem_map.mp known
  have served : (refloatSpec id).isSome = true := by
    rw [refloatSpec, List.find?_isSome]
    exact ⟨field, listed, by simpa using named⟩
  by_cases speed : id = .tiltbackSpeed
  · rw [if_pos speed, speed]
    rfl
  · by_cases duty : id = .pwmTiltback
    · rw [if_neg speed, if_pos duty, duty]
      rfl
    · rw [if_neg speed, if_neg duty, refloatFieldId.eq_3 id speed duty, if_pos served]

private theorem refloatFieldId_distinct {other : SettingId} (known : id ∈ refloatSupportedSettingIds)
    (listed : other ∈ refloatSupportedSettingIds) (same : refloatFieldId id = refloatFieldId other) : id = other := by
  rw [refloatFieldId_listed known, refloatFieldId_listed listed, Option.some.injEq] at same
  by_contra different
  have apart : refloatSupportedSettingIds.idxOf id ≠ refloatSupportedSettingIds.idxOf other := by
    rw [Ne, List.idxOf_inj known]
    exact different
  grind

private theorem batches_are_whole :
    (refloatSupportedSettingIds.toChunks settingsReadbackCapacity).flatten = refloatSupportedSettingIds := rfl

namespace RefloatSettings
variable {image after : RefloatSettings} {id : SettingId}
variable (settings : RefloatSettings)

def stored (settings : RefloatSettings) (id : SettingId) : Option Int := (refloatSpec id).bind (readRaw settings.bytes)

structure Coupled (settings : RefloatSettings) : Prop where
  receiver : ∃ receiver beeper, settings.stored .remoteReceiverType = some receiver ∧
    settings.stored .hardwareBeeperEnabled = some beeper ∧ ¬ (receiver = 2 ∧ beeper = 1)
  temperature : ∃ low high, settings.stored .bmsCellLtThreshold = some low ∧
    settings.stored .bmsCellHtThreshold = some high ∧ low ≤ high
  voltage : ∃ low high, settings.stored .bmsCellLvThreshold = some low ∧
    settings.stored .bmsCellHvThreshold = some high ∧ low < high

theorem stored_known (known : (refloatSpec id).isSome = true) : ∃ number, settings.stored id = some number := by
  obtain ⟨field, found⟩ := Option.isSome_iff_exists.mp known
  exact ⟨_, by rw [stored, found, Option.bind_some, readRaw_listed (refloatSpec_mem found).1 settings.sized]⟩

theorem coupled_of_validated (valid : validateCouplings after.bytes = .ok ()) : after.Coupled := by
  obtain ⟨receiver, receives⟩ := after.stored_known (show (refloatSpec .remoteReceiverType).isSome = true by decide)
  obtain ⟨beeper, beeps⟩ := after.stored_known (show (refloatSpec .hardwareBeeperEnabled).isSome = true by decide)
  obtain ⟨cold, colder⟩ := after.stored_known (show (refloatSpec .bmsCellLtThreshold).isSome = true by decide)
  obtain ⟨hot, hotter⟩ := after.stored_known (show (refloatSpec .bmsCellHtThreshold).isSome = true by decide)
  obtain ⟨low, lower⟩ := after.stored_known (show (refloatSpec .bmsCellLvThreshold).isSome = true by decide)
  obtain ⟨high, higher⟩ := after.stored_known (show (refloatSpec .bmsCellHvThreshold).isSome = true by decide)
  unfold validateCouplings at valid
  simp only [stored] at receives beeps colder hotter lower higher
  simp only [receives, beeps, colder, hotter, lower, higher, Option.some.injEq, decide_eq_true_eq] at valid
  split_ifs at valid with loud mixed flat
  exact ⟨⟨receiver, beeper, receives, beeps, loud⟩, ⟨cold, hot, colder, hotter, Int.not_lt.mp mixed⟩,
    ⟨low, high, lower, higher, Int.not_le.mp flat⟩⟩

private theorem changed_patches (result : image.changed id value = .ok after) :
    ∃ field number, refloatSpec id = some field ∧ field.accepts value = true ∧ field.wireValue value = some number ∧
      field.offset + field.width ≤ image.bytes.length ∧
      after.bytes = patch image.bytes field.offset (toBe field.width (number % 2 ^ (8 * field.width)).toNat) ∧
      validateCouplings after.bytes = .ok () := by
  unfold changed at result
  split at result
  · cases result
  · next field found =>
    split at result
    · cases result
    · next accepted =>
      split at result
      · cases result
      · next number scaled =>
        split at result
        · cases result
        · next bytes wrote =>
          split at result
          · cases result
          · next valid =>
            cases result
            unfold writeRaw at wrote
            split_ifs at wrote with fits
            cases wrote
            exact ⟨field, number, found, by simpa using accepted, scaled, fits.2.1, rfl, valid⟩

theorem decodes_itself : decode settings.bytes = .ok settings := by
  unfold decode
  rw [dif_pos settings.sized, dif_pos settings.signed]

/-- Exactly one integer is emitted for a setting of the catalogue. -/
theorem emitted (found : refloatSpec id = some field) : ∃ number, refloatFieldId id = some number ∧
      some ⟨number, (SettingsImage.refloat settings).readbackRaw id⟩ ∈ (SettingsImage.refloat settings).readback.flatten ∧
      ∀ entry, some entry ∈ (SettingsImage.refloat settings).readback.flatten → entry.field = number →
        entry.value = (SettingsImage.refloat settings).readbackRaw id := by
  have known : id ∈ refloatSupportedSettingIds := by
    obtain ⟨listed, named⟩ := refloatSpec_mem found
    exact List.mem_map.mpr ⟨field, listed, named⟩
  obtain ⟨number, identity⟩ := (⟨_, refloatFieldId_listed known⟩ : ∃ number, refloatFieldId id = some number)
  have entries : (SettingsImage.refloat settings).readback.flatten = refloatSupportedSettingIds.map fun id =>
      (refloatFieldId id).map fun number => ⟨number, (SettingsImage.refloat settings).readbackRaw id⟩ := by
    rw [SettingsImage.readback, ← List.map_flatten]
    exact congrArg _ batches_are_whole
  rw [entries]
  refine ⟨number, identity, ?_, ?_⟩
  · apply List.mem_map.mpr
    exact ⟨id, known, by rw [identity, Option.map_some]⟩
  · intro entry member same
    obtain ⟨other, listed, shown⟩ := List.mem_map.mp member
    obtain ⟨theirs, identified, rfl⟩ := Option.map_eq_some_iff.mp shown
    have equal : other = id := by
      apply refloatFieldId_distinct listed known
      rw [identified, identity]
      exact congrArg some same
    rw [equal]

theorem value_of_row (found : refloatSpec id = some field) :
    settings.value id = (readRaw settings.bytes field).bind field.decodeWireValue := by
  unfold RefloatSettings.value
  rw [found]
  simp only [Option.bind_eq_bind, Option.bind_some]

/-- A change replaces the word of one row: the setting reads as the new value, every byte outside the word
and every other setting is as before, and the combination is one that the package can run with. The
scaling alters no accepted value, and the integers emitted for an image stand for its values. -/
theorem one_field_patches_are_exact (image : RefloatSettings) (id : SettingId) (value : DeviceSettingValue) :
    decode image.bytes = .ok image ∧
    (∀ after, image.changed id value = .ok after → ∃ field, refloatSpec id = some field ∧
      after.value id = some value ∧
      (∀ index, index < field.offset ∨ field.offset + field.width ≤ index →
        after.bytes[index]? = image.bytes[index]?) ∧
      4 ≤ field.offset ∧ field.offset + field.width < refloatConfigLen ∧
      (∀ other, other ≠ id → after.value other = image.value other) ∧
      decode after.bytes = .ok after ∧ after.Coupled) ∧
    (∀ field, refloatSpec id = some field → field.accepts value = true →
      ∃ raw, field.wireValue value = some raw ∧ field.fits raw = true ∧ field.decodeWireValue raw = some value) ∧
    (∀ shown, image.value id = some shown → ∃ field number, refloatSpec id = some field ∧
      refloatFieldId id = some number ∧
      (∃ entry, some entry ∈ (SettingsImage.refloat image).readback.flatten ∧ entry.field = number) ∧
      ∀ entry, some entry ∈ (SettingsImage.refloat image).readback.flatten → entry.field = number →
        field.normalizeRaw entry.value = some shown) := by
  refine ⟨decodes_itself image, ?_, ?_, ?_⟩
  · intro after result
    obtain ⟨field, number, found, accepted, scaled, inside, patched, valid⟩ := changed_patches result
    obtain ⟨listed, named⟩ := refloatSpec_mem found
    obtain ⟨width, behind, before⟩ := refloatFields_placed field listed
    obtain ⟨raw, wire, fits, decoded⟩ := field.scaling_is_exact listed accepted
    cases scaled.symm.trans wire
    have room : field.offset + (toBe field.width (number % 2 ^ (8 * field.width)).toNat).length ≤ image.bytes.length := by
      rw [toBe_length]
      exact inside
    refine ⟨field, found, ?_, ?_, behind, before, ?_, decodes_itself after, coupled_of_validated valid⟩
    · rw [after.value_of_row found, patched, readRaw_written ⟨width, inside⟩ fits, Option.bind_some, decoded]
    · intro index outside
      rw [patched]
      apply patch_outside room
      rw [toBe_length]
      exact outside
    · intro other different
      cases known : refloatSpec other with
      | none => simp [RefloatSettings.value, known]
      | some row =>
        obtain ⟨there, called⟩ := refloatSpec_mem known
        have apart := refloatFields_disjoint listed there (by rw [named, called]; exact different.symm)
        rw [after.value_of_row known, image.value_of_row known, patched, readRaw_disjoint room]
        rw [toBe_length]
        exact apart
  · intro field found accepted
    exact field.scaling_is_exact (refloatSpec_mem found).1 accepted
  · intro shown read
    cases found : refloatSpec id with
    | none => simp [RefloatSettings.value, found] at read
    | some field =>
      obtain ⟨listed, named⟩ := refloatSpec_mem found
      obtain ⟨number, identity, member, only⟩ := image.emitted found
      have accepted : field.accepts shown = true := by
        rw [image.value_of_row found] at read
        obtain ⟨raw, -, decoded⟩ := Option.bind_eq_some_iff.mp read
        exact field.decoded_is_accepted listed decoded
      have back := @RefloatFieldSpec.normalized_back field shown (.refloat image) listed accepted
        (by rw [named]; exact read)
      refine ⟨field, number, rfl, identity, ⟨_, member, rfl⟩, ?_⟩
      intro entry emitted same
      rw [only entry emitted same, ← named]
      exact back

def plainImage : RefloatSettings where
  bytes := [25, 26, 108, 27] ++ List.replicate 271 0 ++ [1] ++ List.replicate 6 0
  sized := by simp only [List.length_append, List.length_replicate]; rfl
  signed := by decide

/-- A cold threshold below zero is stored in two's complement, under the hot one. -/
theorem cold_threshold_goes_below_zero :
    ∃ after, plainImage.changed .bmsCellLtThreshold (.number (-20)) = .ok after ∧ after.bytes.getD 279 0 = 236 ∧
      after.value .bmsCellLtThreshold = some (.number (-20)) ∧
      after.value .bmsCellHtThreshold = plainImage.value .bmsCellHtThreshold ∧
      decode after.bytes = .ok after ∧ after.Coupled := by
  have stored : (plainImage.changed .bmsCellLtThreshold (.number (-20))).toOption.map
      (fun after => after.bytes.getD 279 0) = some 236 := by decide +kernel
  cases result : plainImage.changed .bmsCellLtThreshold (.number (-20)) with
  | error => rw [result] at stored; cases stored
  | ok after =>
    rw [result] at stored
    obtain ⟨field, found, reads, bytes, behind, before, others, decoded, coupled⟩ :=
      (one_field_patches_are_exact plainImage .bmsCellLtThreshold (.number (-20))).2.1 after result
    exact ⟨after, rfl, Option.some.inj stored, reads, others _ (by decide), decoded, coupled⟩

end RefloatSettings

end Cutout.Protocols
