import Cutout.VescConfiguration

/-! One-field patches of a configuration image. A patch replaces the bytes of its field by a
word that reads back as the value; fields that do not share these bytes read as before. -/

namespace Cutout.Protocols
open Library.BinaryFloat

variable {bytes word written : List Byte} {offset width raw index : Nat} {spec : FieldSpec}

theorem patch_outside (inside : offset + word.length ≤ bytes.length)
    (outside : index < offset ∨ offset + word.length ≤ index) : (patch bytes offset word)[index]? = bytes[index]? := by
  have kept : (bytes.take offset).length = offset := by rw [List.length_take]; omega
  rw [patch, List.append_assoc]
  rcases outside with before | behind
  · rw [List.getElem?_append_left (by omega), List.getElem?_take_of_lt before]
  · rw [List.getElem?_append_right (by omega), List.getElem?_append_right (by omega), List.getElem?_drop]
    congr 1
    omega

theorem patch_inside (inside : offset + word.length ≤ bytes.length) :
    ((patch bytes offset word).drop offset).take word.length = word := by
  have kept : (bytes.take offset).length = offset := by rw [List.length_take]; omega
  rw [patch, List.append_assoc, List.drop_append_of_le_length (by omega), List.drop_of_length_le (by omega),
    List.nil_append, List.take_append_of_le_length (le_refl _), List.take_length]

theorem patch_length (inside : offset + word.length ≤ bytes.length) :
    (patch bytes offset word).length = bytes.length := by
  simp only [patch, List.length_append, List.length_take, List.length_drop]
  omega

theorem foldl_unsigned (value : Nat) (bytes : List Byte) :
    bytes.foldl (fun value byte => value * 256 + byte.toNat) value = value * 256 ^ bytes.length + unsignedFromBe bytes := by
  induction bytes generalizing value with
  | nil => simp [unsignedFromBe]
  | cons byte bytes ih =>
    rw [unsignedFromBe, List.foldl_cons, List.foldl_cons, ih, ih (0 * 256 + byte.toNat), List.length_cons, pow_succ]
    ring

theorem unsignedFromBe_toBe (small : raw < 256 ^ width) : unsignedFromBe (toBe width raw) = raw := by
  induction width generalizing raw with
  | zero => simpa [toBe, unsignedFromBe] using (Nat.lt_one_iff.mp (by simpa using small)).symm
  | succ width ih =>
    have positive : 0 < 256 ^ width := Nat.pow_pos (by omega)
    have high : raw / 256 ^ width < 256 := by
      rw [Nat.div_lt_iff_lt_mul positive, Nat.mul_comm, ← pow_succ]
      exact small
    rw [toBe, unsignedFromBe, List.foldl_cons, foldl_unsigned, ih (Nat.mod_lt _ positive), toBe_length, Nat.zero_mul,
      Nat.zero_add, UInt8.toNat_ofNat', Nat.mod_eq_of_lt high]
    exact Nat.div_add_mod' raw (256 ^ width)

structure Word (bytes : List Byte) (offset width : Nat) : Prop where
  inside : offset + width ≤ bytes.length
  width : width = 1 ∨ width = 2 ∨ width = 4

theorem readUnsigned_written (place : Word bytes offset width) (small : raw < 256 ^ width) :
    readUnsigned (patch bytes offset (toBe width raw)) offset width = some raw := by
  have fits : offset + (toBe width raw).length ≤ bytes.length := by rw [toBe_length]; exact place.inside
  have read := patch_inside fits
  rw [toBe_length] at read
  rw [readUnsigned, if_pos ⟨by rw [patch_length fits]; exact place.inside, place.width⟩, read, unsignedFromBe_toBe small]

theorem window_disjoint {other size : Nat} (inside : offset + word.length ≤ bytes.length)
    (disjoint : other + size ≤ offset ∨ offset + word.length ≤ other) :
    ((patch bytes offset word).drop other).take size = (bytes.drop other).take size := by
  apply List.ext_getElem?
  intro index
  by_cases within : index < size
  · rw [List.getElem?_take_of_lt within, List.getElem?_take_of_lt within, List.getElem?_drop, List.getElem?_drop]
    exact patch_outside inside (by omega)
  · rw [List.getElem?_eq_none (by rw [List.length_take]; omega), List.getElem?_eq_none (by rw [List.length_take]; omega)]

theorem readUnsigned_disjoint {other size : Nat} (inside : offset + word.length ≤ bytes.length)
    (disjoint : other + size ≤ offset ∨ offset + word.length ≤ other) :
    readUnsigned (patch bytes offset word) other size = readUnsigned bytes other size := by
  rw [readUnsigned, readUnsigned, patch_length inside, window_disjoint inside disjoint]

theorem writeUnsigned_ok (wrote : writeUnsigned bytes offset width raw = .ok written) :
    Word bytes offset width ∧ raw < 256 ^ width ∧ written = patch bytes offset (toBe width raw) := by
  unfold writeUnsigned at wrote
  split_ifs at wrote with short sized small
  cases wrote
  exact ⟨⟨Nat.not_lt.mp short, sized⟩, small, rfl⟩

inductive Encodes (bytes written : List Byte) (spec : FieldSpec) : DeviceSettingValue → Nat → Prop where
  | projection (flagged : spec.boolean = true) {enabled : Bool} {bit current : Nat} (projects : bitProjection spec.id = some bit)
      (read : readUnsigned bytes spec.offset spec.width = some current) :
      Encodes bytes written spec (.boolean enabled)
        (if enabled then current ||| 2 ^ bit else current &&& (u32Max - 2 ^ bit))
  | flag (flagged : spec.boolean = true) {enabled : Bool} (whole : bitProjection spec.id = none) :
      Encodes bytes written spec (.boolean enabled) (if enabled then 1 else 0)
  | choice (plain : spec.boolean = false ∧ spec.bitfield = false) {choice : Nat} (positive : choice ≠ 0)
      (listed : choice - 1 < spec.choices) : Encodes bytes written spec (.choice choice) (choice - 1)
  | number (plain : spec.boolean = false ∧ spec.bitfield = false ∧ spec.choices = 0) {number : Int} {factor raw : Nat}
      {readback : Value} (bounded : spec.minimum ≤ number ∧ number ≤ spec.maximum)
      (scaled : spec.semanticFactor = some factor) (read : readPhysical written spec = some readback)
      (rounds : (scaledPhysical spec factor readback).round = .finite number) :
      Encodes bytes written spec (.number number) raw

theorem vescFields_widths : ∀ field ∈ vescFields,
    (match field.wire with
      | .f32Auto => 4
      | .scaledI16 _ => 2
      | _ => field.width) = field.width := by decide

theorem encodeValue_ok {value : DeviceSettingValue} (listed : spec ∈ vescFields)
    (encoded : encodeValue bytes spec value = .ok written) :
    ∃ raw, Word bytes spec.offset spec.width ∧ raw < 256 ^ spec.width ∧
      written = patch bytes spec.offset (toBe spec.width raw) ∧ Encodes bytes written spec value raw := by
  have written_ {raw width : Nat} (same : width = spec.width) (wrote : writeUnsigned bytes spec.offset width raw = .ok written)
      (encodes : Encodes bytes written spec value raw) :
      ∃ raw, Word bytes spec.offset spec.width ∧ raw < 256 ^ spec.width ∧
        written = patch bytes spec.offset (toBe spec.width raw) ∧ Encodes bytes written spec value raw := by
    subst same
    obtain ⟨place, small, patched⟩ := writeUnsigned_ok wrote
    exact ⟨raw, place, small, patched, encodes⟩
  unfold encodeValue at encoded
  split_ifs at encoded with flagged fields choices
  · cases value with
    | boolean enabled =>
      simp only at encoded
      split at encoded
      · next bit projects =>
        split at encoded
        · cases encoded
        · next current read => exact written_ rfl encoded (.projection flagged projects read)
      · next whole => exact written_ rfl encoded (.flag flagged whole)
    | _ => cases encoded
  · cases value with
    | choice choice =>
      simp only at encoded
      split_ifs at encoded with refused
      simp only [not_or, Nat.not_le] at refused
      exact written_ rfl encoded (.choice ⟨by simpa using flagged, by simpa using fields⟩ refused.1 refused.2)
    | _ => cases encoded
  · cases value with
    | number number =>
      simp only at encoded
      split_ifs at encoded with refused
      simp only [not_or, Int.not_lt] at refused
      split at encoded
      · cases encoded
      · next factor scaled =>
        simp only [bind, Except.bind] at encoded
        split at encoded
        · cases encoded
        · split at encoded
          · cases encoded
          next wrote =>
            split at encoded
            · cases encoded
            · next readback read =>
              split_ifs at encoded with rounds
              cases encoded
              exact written_ (vescFields_widths spec listed) wrote
                (.number ⟨by simpa using flagged, by simpa using fields, by simpa using choices⟩
                  ⟨refused.1, refused.2.1⟩ scaled read rounds)
    | _ => cases encoded

theorem vescFields_bounds : ∀ field ∈ vescFields, i32Min < field.minimum ∧ field.maximum < i32Max := by decide

theorem bitProjection_lt {id : SettingId} {bit : Nat} (projects : bitProjection id = some bit) : bit < 8 := by
  cases id <;> simp [bitProjection] at projects <;> omega

/-- What rounds to an integer strictly inside the range of `i32` lies in it. -/
theorem numberOf_rounded {x : ℚ} {number : Int} (listed : spec ∈ vescFields)
    (bounded : spec.minimum ≤ number ∧ number ≤ spec.maximum) (rounds : roundHalfAway x = number) :
    spec.numberOf (.finite x) = some number := by
  obtain ⟨least, greatest⟩ := vescFields_bounds spec listed
  have inside : ¬ (x < i32Min ∨ i32Max < x) := by
    rintro (below | above)
    · have negative : ¬ 0 ≤ x := by
        have : ((i32Min : ℤ) : ℚ) ≤ 0 := by norm_num [i32Min]
        intro positive
        linarith
      rw [roundHalfAway, if_neg negative] at rounds
      have small : ⌈x - 1 / 2⌉ ≤ i32Min := Int.ceil_le.mpr (by linarith)
      omega
    · have positive : 0 ≤ x := by
        have : (0 : ℚ) ≤ ((i32Max : ℤ) : ℚ) := by norm_num [i32Max]
        linarith
      rw [roundHalfAway, if_pos positive] at rounds
      have large : i32Max ≤ ⌊x + 1 / 2⌋ := Int.le_floor.mpr (by linarith)
      omega
  rw [FieldSpec.numberOf, if_neg inside, rounds, if_pos bounded]

theorem testBit_set {current bit other : Nat} (enabled : Bool) (small : current < 256) (inside : bit < 8) :
    (if enabled then current ||| 2 ^ bit else current &&& (u32Max - 2 ^ bit)).testBit other =
      if other = bit then enabled else current.testBit other := by
  have bound : 2 ^ bit < 2 ^ 32 := Nat.pow_lt_pow_right (by omega) (by omega)
  have mask : u32Max - 2 ^ bit = 2 ^ 32 - (2 ^ bit + 1) := by
    unfold u32Max
    omega
  cases enabled with
  | true =>
    rw [if_pos rfl, Nat.testBit_or, Nat.testBit_two_pow]
    by_cases same : other = bit
    · simp [same]
    · simp [same, Ne.symm same]
  | false =>
    rw [if_neg nofun, Nat.testBit_and, mask, Nat.testBit_two_pow_sub_succ bound, Nat.testBit_two_pow]
    by_cases same : other = bit
    · simp [same]
    · by_cases wide : other < 32
      · simp [same, Ne.symm same, wide]
      · have high : 2 ^ 8 ≤ 2 ^ other := Nat.pow_le_pow_right (by decide) (by omega)
        have unset : current.testBit other = false := Nat.testBit_lt_two_pow (small.trans_le high)
        simp [same, unset]

theorem readUnsigned_byte (within : offset < bytes.length) :
    readUnsigned bytes offset 1 = some (bytes.getD offset 0).toNat := by
  have single : (bytes.drop offset).take 1 = [bytes.getD offset 0] := by
    rw [List.drop_eq_getElem_cons within, List.getD_eq_getElem?_getD, List.getElem?_eq_getElem within]
    rfl
  rw [readUnsigned, if_pos ⟨by omega, .inl rfl⟩, single]
  simp [unsignedFromBe]

namespace VescConfiguration
variable {image after : VescConfiguration} {id : SettingId} {value : DeviceSettingValue}
variable {next : Unit → Except VescConfigurationError Unit} {check : Except VescConfigurationError Unit}

theorem projections_are_one_byte : ∀ field ∈ vescFields, bitProjection field.id ≠ none →
    field.boolean = true ∧ field.offset = 472 ∧ field.width = 1 := by decide

theorem value_encoded (found : vescSpec id = some spec) (same : spec.kind = after.kind) (small : raw < 256 ^ spec.width)
    (place : Word bytes spec.offset spec.width) (patched : after.bytes = patch bytes spec.offset (toBe spec.width raw))
    (encodes : Encodes bytes after.bytes spec value raw) : after.value id = some value := by
  obtain ⟨listed, named⟩ := vescSpec_mem found
  have read : readUnsigned after.bytes spec.offset spec.width = some raw := by
    rw [patched]
    exact readUnsigned_written place small
  rw [VescConfiguration.value, found]
  dsimp only
  rw [if_neg (not_not.mpr same)]
  cases encodes with
  | projection flagged projects before =>
    rw [if_pos flagged, read, ← named, projects]
    dsimp only
    obtain ⟨-, at_, wide⟩ := projections_are_one_byte spec listed (by rw [projects]; nofun)
    rw [wide] at before
    have known := readUnsigned_byte (show spec.offset < bytes.length by have := place.inside; omega)
    cases known.symm.trans before
    rw [testBit_set _ (UInt8.toNat_lt _) (bitProjection_lt projects), if_pos rfl]
  | @flag flagged enabled whole =>
    rw [if_pos flagged, read, ← named, whole]
    cases enabled <;> rfl
  | choice plain positive within =>
    rw [if_neg (by rw [plain.1]; nofun), if_neg (by rw [plain.2]; nofun), if_pos (by omega), read]
    dsimp only
    rw [if_pos within, Nat.sub_add_cancel (by omega)]
  | @number plain number factor _ readback bounded scaled physical rounds =>
    rw [if_neg (by rw [plain.1]; nofun), if_neg (by rw [plain.2.1]; nofun), if_neg (not_not.mpr plain.2.2), physical, scaled]
    dsimp only
    cases product : scaledPhysical spec factor readback with
    | finite x =>
      rw [product] at rounds
      have rounded : roundHalfAway x = number := by
        have same := Value.finite.inj rounds
        exact_mod_cast same
      rw [numberOf_rounded listed bounded rounded]
      rfl
    | infinite | nan =>
      rw [product] at rounds
      cases rounds

theorem other_bits {bit other : Nat} (listed : spec ∈ vescFields) (projects : bitProjection spec.id = some bit)
    (place : Word bytes spec.offset spec.width) (small : raw < 256 ^ spec.width)
    (patched : written = patch bytes spec.offset (toBe spec.width raw)) (encodes : Encodes bytes written spec value raw)
    (different : other ≠ bit) :
    (written.getD 472 0).toNat.testBit other = (bytes.getD 472 0).toNat.testBit other := by
  obtain ⟨flagged, at_, wide⟩ := projections_are_one_byte spec listed (by rw [projects]; nofun)
  have read := readUnsigned_written place small
  rw [← patched, at_, wide] at read
  have sized : written.length = bytes.length := by
    rw [patched]
    apply patch_length
    rw [toBe_length]
    exact place.inside
  have within : 472 < bytes.length := by
    have := place.inside
    omega
  have new : (written.getD 472 0).toNat = raw :=
    Option.some.inj ((readUnsigned_byte (sized ▸ within)).symm.trans read)
  cases encodes with
  | projection _ known before =>
    cases projects.symm.trans known
    rw [at_, wide] at before
    have old := Option.some.inj ((readUnsigned_byte within).symm.trans before)
    rw [new, ← old, testBit_set _ (UInt8.toNat_lt _) (bitProjection_lt projects), if_neg different]
  | flag _ whole => cases projects.symm.trans whole
  | choice plain | number plain => cases flagged.symm.trans plain.1

def Shares (field other : FieldSpec) : Prop :=
  field.kind = other.kind ∧ field.offset < other.offset + other.width ∧ other.offset < field.offset + field.width

instance (field other : FieldSpec) : Decidable (Shares field other) := by
  unfold Shares
  infer_instance

/-- Only the limit-mode byte is shared, by its mask and the four projections. -/
theorem vescFields_shared : ∀ field ∈ vescFields, ∀ other ∈ vescFields, field.id ≠ other.id → Shares field other →
    field.offset = 472 ∧ field.width = 1 ∧ other.offset = 472 ∧ other.width = 1 := by decide +kernel

theorem readPhysical_congr {others : List Byte}
    (same : readUnsigned others spec.offset spec.width = readUnsigned bytes spec.offset spec.width) :
    readPhysical others spec = readPhysical bytes spec := by
  rw [readPhysical, readPhysical, same]

theorem value_congr (kind : after.kind = image.kind) (same : ∀ field, vescSpec id = some field → field.kind = image.kind →
    readUnsigned after.bytes field.offset field.width = readUnsigned image.bytes field.offset field.width) :
    after.value id = image.value id := by
  unfold VescConfiguration.value
  cases found : vescSpec id with
  | none => rfl
  | some field =>
    dsimp only
    rw [kind]
    by_cases here : field.kind = image.kind
    · have read := same field found here
      rw [readPhysical_congr read, read]
    · rw [if_pos here, if_pos here]

theorem checked (valid : (check >>= next) = .ok ()) : check = .ok () ∧ next () = .ok () := by
  cases check with
  | error => cases valid
  | ok => exact ⟨rfl, valid⟩

theorem guarded {condition : Bool} (valid : (if condition = true then check >>= next else next ()) = .ok ()) :
    (condition = true → check = .ok ()) ∧ next () = .ok () := by
  cases condition with
  | true =>
    obtain ⟨first, rest⟩ := checked valid
    exact ⟨fun _ => first, rest⟩
  | false => exact ⟨nofun, valid⟩

def Below (bytes : List Byte) (lower upper : SettingId) : Prop :=
  ∃ low high : ℚ, physicalValue bytes lower = some (.finite low) ∧ physicalValue bytes upper = some (.finite high) ∧ low < high

def AtMost (bytes : List Byte) (lower upper : SettingId) : Prop :=
  ∃ low high : ℚ, physicalValue bytes lower = some (.finite low) ∧ physicalValue bytes upper = some (.finite high) ∧ low ≤ high

def BmsLimits (bytes : List Byte) (bit : Nat) : Prop :=
  readUnsigned bytes 471 1 = some 1 ∧ ∃ mode, readUnsigned bytes 472 1 = some mode ∧ mode.testBit bit = true

structure Coupled (bytes : List Byte) : Prop where
  inputVoltage : Below bytes .inputVoltageMinimum .inputVoltageMaximum
  batteryCutback : AtMost bytes .batteryCutbackEnd .batteryCutbackStart
  regenerativeCutback : AtMost bytes .regenerativeBatteryCutbackStart .regenerativeBatteryCutbackEnd
  fetTemperature : AtMost bytes .fetTemperatureCutbackStart .fetTemperatureCutbackEnd
  motorTemperature : AtMost bytes .motorTemperatureCutbackStart .motorTemperatureCutbackEnd
  bmsTemperature : BmsLimits bytes 0 → AtMost bytes .bmsTemperatureLimitStart .bmsTemperatureLimitEnd
  bmsSoc : BmsLimits bytes 1 → AtMost bytes .bmsSocLimitEnd .bmsSocLimitStart
  bmsCellMinimum : BmsLimits bytes 2 → AtMost bytes .bmsCellMinimumVoltageLimitEnd .bmsCellMinimumVoltageLimitStart
  bmsCellMaximum : BmsLimits bytes 3 → AtMost bytes .bmsCellMaximumVoltageLimitStart .bmsCellMaximumVoltageLimitEnd

theorem validatePair_ok {startId endId : SettingId} {ascending allowEqual : Bool}
    (valid : validatePair bytes startId endId ascending allowEqual = .ok ()) :
    ∃ start finish : ℚ, physicalValue bytes startId = some (.finite start) ∧
      physicalValue bytes endId = some (.finite finish) ∧
      ((if ascending then start < finish else finish < start) ∨ (allowEqual = true ∧ start = finish)) := by
  unfold validatePair at valid
  split at valid
  · next start finish first second =>
    refine ⟨start, finish, first, second, ?_⟩
    by_contra disordered
    rw [if_neg disordered] at valid
    cases valid
  · cases valid

theorem validatePair_below {lower upper : SettingId} (valid : validatePair bytes lower upper true false = .ok ()) :
    Below bytes lower upper := by
  obtain ⟨start, finish, first, second, ordered⟩ := validatePair_ok valid
  exact ⟨start, finish, first, second, by simpa using ordered⟩

theorem validatePair_ascending {lower upper : SettingId} (valid : validatePair bytes lower upper true true = .ok ()) :
    AtMost bytes lower upper := by
  obtain ⟨start, finish, first, second, ordered⟩ := validatePair_ok valid
  exact ⟨start, finish, first, second, by simpa [le_iff_lt_or_eq] using ordered⟩

theorem validatePair_descending {lower upper : SettingId} (valid : validatePair bytes upper lower false true = .ok ()) :
    AtMost bytes lower upper := by
  obtain ⟨start, finish, first, second, ordered⟩ := validatePair_ok valid
  exact ⟨finish, start, second, first, by simpa [le_iff_lt_or_eq, eq_comm] using ordered⟩

theorem coupled_of_validated (valid : validateCoupledConstraints .motor bytes = .ok ()) : Coupled bytes := by
  unfold validateCoupledConstraints at valid
  rw [if_neg (not_not.mpr rfl)] at valid
  obtain ⟨inputVoltage, valid⟩ := checked valid
  obtain ⟨batteryCutback, valid⟩ := checked valid
  obtain ⟨regenerativeCutback, valid⟩ := checked valid
  obtain ⟨fetTemperature, valid⟩ := checked valid
  obtain ⟨motorTemperature, valid⟩ := checked valid
  split at valid
  · next type mode typed moded =>
    have active (bit : Nat) (limits : BmsLimits bytes bit) : type = 1 ∧ mode.testBit bit = true := by
      obtain ⟨one, other, read, set_⟩ := limits
      cases typed.symm.trans one
      cases moded.symm.trans read
      exact ⟨rfl, set_⟩
    by_cases vesc : type = 1
    · rw [if_pos vesc] at valid
      dsimp only at valid
      obtain ⟨temperature, valid⟩ := guarded valid
      obtain ⟨soc, valid⟩ := guarded valid
      obtain ⟨cellMinimum, valid⟩ := guarded valid
      have cellMaximum (set_ : mode.testBit 3 = true) :
          validatePair bytes .bmsCellMaximumVoltageLimitStart .bmsCellMaximumVoltageLimitEnd true true = .ok () := by
        rw [if_pos set_] at valid
        exact valid
      exact ⟨validatePair_below inputVoltage, validatePair_descending batteryCutback,
        validatePair_ascending regenerativeCutback, validatePair_ascending fetTemperature,
        validatePair_ascending motorTemperature, fun limits => validatePair_ascending (temperature (active 0 limits).2),
        fun limits => validatePair_descending (soc (active 1 limits).2),
        fun limits => validatePair_descending (cellMinimum (active 2 limits).2),
        fun limits => validatePair_ascending (cellMaximum (active 3 limits).2)⟩
    · have off {bit : Nat} (limits : BmsLimits bytes bit) : False := vesc (active bit limits).1
      exact ⟨validatePair_below inputVoltage, validatePair_descending batteryCutback,
        validatePair_ascending regenerativeCutback, validatePair_ascending fetTemperature,
        validatePair_ascending motorTemperature, fun limits => (off limits).elim, fun limits => (off limits).elim,
        fun limits => (off limits).elim, fun limits => (off limits).elim⟩
  · cases valid

theorem changed_ok (result : image.changed id value = .ok after) : ∃ spec raw, vescSpec id = some spec ∧
    spec.kind = image.kind ∧ after.kind = image.kind ∧ Word image.bytes spec.offset spec.width ∧ raw < 256 ^ spec.width ∧
    after.bytes = patch image.bytes spec.offset (toBe spec.width raw) ∧ Encodes image.bytes after.bytes spec value raw ∧
    validateCoupledConstraints image.kind after.bytes = .ok () := by
  unfold changed at result
  split at result
  · cases result
  · next spec found =>
    split_ifs at result with other locked
    split at result
    · cases result
    · next bytes encoded =>
      split at result
      · cases result
      · next valid =>
        cases result
        obtain ⟨raw, place, small, patched, encodes⟩ := encodeValue_ok (vescSpec_mem found).1 encoded
        exact ⟨spec, raw, found, not_not.mp other, rfl, place, small, patched, encodes, valid⟩

theorem decode_bytes (image : VescConfiguration) : decode image.kind image.bytes = .ok image := by
  unfold decode
  rw [dif_pos image.sized, dif_pos image.signed]

/-- The receiver behind a call of `changed`, which works on a clone, and its answer. -/
def change (image : VescConfiguration) (id : SettingId) (value : DeviceSettingValue) :
    VescConfiguration × Except VescConfigurationError VescConfiguration := (image, image.changed id value)

theorem change_answer (image : VescConfiguration) (id : SettingId) (value : DeviceSettingValue) :
    (image.change id value).2 = image.changed id value := rfl

/-- A change is exact: the setting reads as the new value and nothing outside its bytes, or outside its
bit of the limit-mode byte, has changed. No other byte belongs to two settings. -/
theorem changed_is_exact (image : VescConfiguration) (id : SettingId) (value : DeviceSettingValue) :
    (∀ field ∈ vescFields, ∀ other ∈ vescFields, field.id ≠ other.id → Shares field other →
      field.offset = 472 ∧ field.width = 1 ∧ other.offset = 472 ∧ other.width = 1) ∧
    (∀ error, (image.change id value).2 = .error error → (image.change id value).1 = image) ∧
    ∀ after, (image.change id value).2 = .ok after → ∃ spec, vescSpec id = some spec ∧
      after.value id = some value ∧
      (∀ index, index < spec.offset ∨ spec.offset + spec.width ≤ index → after.bytes[index]? = image.bytes[index]?) ∧
      (∀ bit, bitProjection id = some bit → spec.offset = 472 ∧ spec.width = 1 ∧ ∀ other ≠ bit,
        (after.bytes.getD 472 0).toNat.testBit other = (image.bytes.getD 472 0).toNat.testBit other) ∧
      decode image.kind after.bytes = .ok after ∧
      (∀ other field, vescSpec other = some field → ¬ Shares spec field → after.value other = image.value other) ∧
      (image.kind = .motor → Coupled after.bytes) := by
  refine ⟨vescFields_shared, fun _ _ => rfl, ?_⟩
  intro after result
  obtain ⟨spec, raw, found, here, kind, place, small, patched, encodes, valid⟩ := changed_ok result
  obtain ⟨listed, named⟩ := vescSpec_mem found
  have inside : spec.offset + (toBe spec.width raw).length ≤ image.bytes.length := by
    rw [toBe_length]
    exact place.inside
  refine ⟨spec, found, value_encoded found (here.trans kind.symm) small place patched encodes, ?_, ?_, ?_, ?_, ?_⟩
  · intro index outside
    rw [patched]
    apply patch_outside inside
    rw [toBe_length]
    exact outside
  · intro bit projects
    have projects : bitProjection spec.id = some bit := named ▸ projects
    obtain ⟨-, at_, wide⟩ := projections_are_one_byte spec listed (by rw [projects]; nofun)
    exact ⟨at_, wide, fun other different => other_bits listed projects place small patched encodes different⟩
  · rw [← kind]
    exact decode_bytes after
  · intro other field known apart
    apply value_congr kind
    intro same matches_ mine
    cases known.symm.trans matches_
    rw [patched]
    apply readUnsigned_disjoint inside
    rw [toBe_length]
    by_contra overlap
    exact apart ⟨here.trans mine.symm, by omega, by omega⟩
  · intro motor
    rw [motor] at valid
    exact coupled_of_validated valid

/-- The input voltage runs from 20 V to 100 V; the battery's limits apply to its temperature and its weakest cell. -/
def motorImage : VescConfiguration where
  kind := .motor
  bytes := [87, 173, 143, 83] ++ List.replicate 46 0 ++ [0, 200, 3, 232] ++ List.replicate 417 0 ++ [1, 5] ++
    List.replicate 15 0
  sized := by decide +kernel
  signed := by decide +kernel

/-- The braking limit is stored as a negative float; the charge limit is a bit among others. -/
theorem braking_limit_is_stored_negative :
    (∃ after, motorImage.changed .motorBrakingCurrentLimit (.number 4050) = .ok after ∧
      after.value .motorBrakingCurrentLimit = some (.number 4050) ∧ (after.bytes.drop 12).take 4 = [194, 34, 0, 0] ∧
      decode .motor after.bytes = .ok after ∧ Coupled after.bytes) ∧
    ∃ after, motorImage.changed .bmsSocLimitingEnabled (.boolean true) = .ok after ∧ after.bytes.getD 472 0 = 7 ∧
      ∀ other ≠ 1, (after.bytes.getD 472 0).toNat.testBit other = (motorImage.bytes.getD 472 0).toNat.testBit other := by
  constructor
  · have stored : (motorImage.changed .motorBrakingCurrentLimit (.number 4050)).toOption.map
        (fun after => (after.bytes.drop 12).take 4) = some [194, 34, 0, 0] := by decide +kernel
    cases result : motorImage.changed .motorBrakingCurrentLimit (.number 4050) with
    | error => rw [result] at stored; cases stored
    | ok after =>
      rw [result] at stored
      have answer := (change_answer motorImage .motorBrakingCurrentLimit (.number 4050)).trans result
      obtain ⟨spec, found, reads, bytes, bits, decodes, others, coupled⟩ :=
        (changed_is_exact motorImage .motorBrakingCurrentLimit (.number 4050)).2.2 after answer
      exact ⟨after, rfl, reads, Option.some.inj stored, decodes, coupled rfl⟩
  · have stored : (motorImage.changed .bmsSocLimitingEnabled (.boolean true)).toOption.map
        (fun after => after.bytes.getD 472 0) = some 7 := by decide +kernel
    cases result : motorImage.changed .bmsSocLimitingEnabled (.boolean true) with
    | error => rw [result] at stored; cases stored
    | ok after =>
      rw [result] at stored
      have answer := (change_answer motorImage .bmsSocLimitingEnabled (.boolean true)).trans result
      obtain ⟨spec, found, reads, bytes, bits, decodes, others, coupled⟩ :=
        (changed_is_exact motorImage .bmsSocLimitingEnabled (.boolean true)).2.2 after answer
      exact ⟨after, rfl, Option.some.inj stored, (bits 1 rfl).2.2⟩

end VescConfiguration

end Cutout.Protocols
