import Cutout.SettingsImage
import Cutout.Proofs.ConfigurationPatch

/-! A changed image is the old one with the bytes of one field replaced. -/

namespace Cutout.Protocols
variable {value : DeviceSettingValue} {id : SettingId}

/-- The bytes of a written image that differ from the old one lie inside one field. -/
structure PatchedField (offset width : Nat) (bytes written : List Byte) : Prop where
  length : written.length = bytes.length
  outside : ∀ index, index < offset ∨ offset + width ≤ index → written[index]? = bytes[index]?

theorem toBe_patchedField {bytes : List Byte} {offset width raw : Nat} (inside : offset + width ≤ bytes.length) :
    PatchedField offset width bytes (patch bytes offset (toBe width raw)) := by
  have fits : offset + (toBe width raw).length ≤ bytes.length := by rwa [toBe_length]
  refine ⟨patch_length fits, fun index outside => patch_outside fits ?_⟩
  rwa [toBe_length]

theorem encodeValue_patchedField {bytes written : List Byte} {spec : FieldSpec} (row : spec ∈ vescFields)
    (encoded : encodeValue bytes spec value = .ok written) : PatchedField spec.offset spec.width bytes written := by
  obtain ⟨raw, place, -, same, -⟩ := encodeValue_ok row encoded
  rw [same]
  exact toBe_patchedField place.inside

def SettingsImage.fieldRange (image : SettingsImage) (id : SettingId) : Option (Nat × Nat) :=
  match image with
  | .refloat _ => (refloatSpec id).map fun field => (field.offset, field.width)
  | .firmware _ => (vescSpec id).map fun field => (field.offset, field.width)

theorem writeRaw_patchedField {bytes written : List Byte} {field : RefloatFieldSpec} {value : Int}
    (wrote : writeRaw bytes field value = .ok written) : PatchedField field.offset field.width bytes written := by
  unfold writeRaw at wrote
  split at wrote
  · next fits =>
    cases wrote
    exact toBe_patchedField fits.2.1
  · cases wrote

theorem refloat_changed_patchedField {image expected : RefloatSettings}
    (changed : image.changed id value = .ok expected) :
    ∃ field, refloatSpec id = some field ∧ PatchedField field.offset field.width image.bytes expected.bytes := by
  unfold RefloatSettings.changed at changed
  split at changed
  · cases changed
  · next field found =>
    split at changed
    · cases changed
    · split at changed
      · cases changed
      · split at changed
        · cases changed
        next wrote =>
          split at changed
          · cases changed
          cases changed
          refine ⟨field, found, ?_⟩
          exact writeRaw_patchedField wrote

theorem firmware_changed_patchedField {image expected : VescConfiguration}
    (changed : image.changed id value = .ok expected) : expected.kind = image.kind ∧
      ∃ field, vescSpec id = some field ∧ PatchedField field.offset field.width image.bytes expected.bytes := by
  unfold VescConfiguration.changed at changed
  split at changed
  · cases changed
  · next field found =>
    split at changed
    · cases changed
    · split at changed
      · cases changed
      · split at changed
        · cases changed
        next encoded =>
          split at changed
          · cases changed
          cases changed
          exact ⟨rfl, field, found, encodeValue_patchedField (vescSpec_mem found).1 encoded⟩

theorem toOption_ok {ε α : Type} {result : Except ε α} {value : α} (found : result.toOption = some value) :
    result = .ok value := by
  cases result <;> cases found
  rfl

/-- A change keeps the kind and every byte outside the field of the setting. -/
theorem changed_patchedField {image expected : SettingsImage} (changed : image.changed id value = some expected) :
    expected.kind = image.kind ∧
      ∃ range, image.fieldRange id = some range ∧ PatchedField range.1 range.2 image.bytes expected.bytes := by
  cases image with
  | refloat image =>
    obtain ⟨settings, found, rfl⟩ := Option.map_eq_some_iff.mp changed
    obtain ⟨field, found, patched⟩ := refloat_changed_patchedField (toOption_ok found)
    exact ⟨rfl, (field.offset, field.width), by simp [SettingsImage.fieldRange, found], patched⟩
  | firmware image =>
    obtain ⟨settings, found, rfl⟩ := Option.map_eq_some_iff.mp changed
    obtain ⟨kind, field, found, patched⟩ := firmware_changed_patchedField (toOption_ok found)
    exact ⟨by simp [SettingsImage.kind, kind], (field.offset, field.width), by simp [SettingsImage.fieldRange, found],
      patched⟩

end Cutout.Protocols
