import Cutout.VescCodec
import Cutout.VescConfiguration

/-! The grammar of a values payload. A mask announces fields in wire order; each has a
width, and the width of the fields announced before it is its offset. The decoder is
compared with this description field by field. -/

namespace Cutout.Protocols

namespace VescValuesField

def width : VescValuesField → Nat
  | .faultCode | .controllerId | .status => 1
  | .tempMosfet | .tempMotor | .dutyCycle | .voltageIn => 2
  | .tempMosfetAll => 6
  | .avgCurrentMotor | .avgCurrentInput | .avgCurrentD | .avgCurrentQ | .rpm | .ampHours | .ampHoursCharged
  | .wattHours | .wattHoursCharged | .tachometer | .tachometerAbs | .pidPos | .avgVoltageD | .avgVoltageQ => 4

def isCurrent : VescValuesField → Bool
  | .avgCurrentMotor | .avgCurrentInput | .avgCurrentD | .avgCurrentQ => true
  | _ => false

end VescValuesField

inductive VescFieldValue where
  | quantity (value : Int)
  | temperatures (first second third : Int)
  | fault (code : VescFaultCode)
  | raw (byte : Byte)
  deriving Repr, DecidableEq

namespace VescValuesTelemetry

def held (values : VescValuesTelemetry) : VescValuesField → VescFieldValue
  | .tempMosfet => .quantity values.controllerTemperature
  | .tempMotor => .quantity values.motorTemperature
  | .avgCurrentMotor => .quantity values.motorCurrent
  | .avgCurrentInput => .quantity values.inputCurrent
  | .avgCurrentD => .quantity values.directAxisCurrent
  | .avgCurrentQ => .quantity values.quadratureAxisCurrent
  | .dutyCycle => .quantity values.dutyCycle
  | .rpm => .quantity values.rpm
  | .voltageIn => .quantity values.voltage
  | .ampHours => .quantity values.consumedCharge
  | .ampHoursCharged => .quantity values.regeneratedCharge
  | .wattHours => .quantity values.consumedEnergy
  | .wattHoursCharged => .quantity values.regeneratedEnergy
  | .tachometer => .quantity values.tachometer
  | .tachometerAbs => .quantity values.tachometerAbsolute
  | .faultCode => .fault values.faultCode
  | .pidPos => .quantity values.motorPosition
  | .controllerId => .raw values.controllerId
  | .tempMosfetAll => .temperatures values.mosfetTemperature1 values.mosfetTemperature2 values.mosfetTemperature3
  | .avgVoltageD => .quantity values.directAxisVoltage
  | .avgVoltageQ => .quantity values.quadratureAxisVoltage
  | .status => .raw values.status

end VescValuesTelemetry

namespace VescValuesField

def valueOf (word : List Byte) : VescValuesField → VescFieldValue
  | .tempMosfet | .tempMotor | .voltageIn => .quantity (signedFromBe word * 100)
  | .avgCurrentMotor | .avgCurrentInput | .avgCurrentD | .avgCurrentQ => .quantity (signedFromBe word * 10)
  | .faultCode => .fault (.fromRaw (word.headD 0))
  | .controllerId | .status => .raw (word.headD 0)
  | .tempMosfetAll => .temperatures (signedFromBe (word.take 2) * 100) (signedFromBe ((word.drop 2).take 2) * 100)
      (signedFromBe ((word.drop 4).take 2) * 100)
  | .dutyCycle | .rpm | .ampHours | .ampHoursCharged | .wattHours | .wattHoursCharged | .tachometer | .tachometerAbs
  | .pidPos | .avgVoltageD | .avgVoltageQ => .quantity (signedFromBe word)

def Fits (field : VescValuesField) (word : List Byte) : Prop :=
  field.isCurrent = true → i32Min ≤ signedFromBe word * 10 ∧ signedFromBe word * 10 ≤ i32Max

instance (field : VescValuesField) (word : List Byte) : Decidable (field.Fits word) :=
  inferInstanceAs (Decidable (_ → _))

end VescValuesField

def VescValuesTelemetry.store (values : VescValuesTelemetry) (word : List Byte) : VescValuesField → VescValuesTelemetry
  | .tempMosfet => { values with controllerTemperature := signedFromBe word * 100 }
  | .tempMotor => { values with motorTemperature := signedFromBe word * 100 }
  | .avgCurrentMotor => { values with motorCurrent := signedFromBe word * 10 }
  | .avgCurrentInput => { values with inputCurrent := signedFromBe word * 10 }
  | .avgCurrentD => { values with directAxisCurrent := signedFromBe word * 10 }
  | .avgCurrentQ => { values with quadratureAxisCurrent := signedFromBe word * 10 }
  | .dutyCycle => { values with dutyCycle := signedFromBe word }
  | .rpm => { values with rpm := signedFromBe word }
  | .voltageIn => { values with voltage := signedFromBe word * 100 }
  | .ampHours => { values with consumedCharge := signedFromBe word }
  | .ampHoursCharged => { values with regeneratedCharge := signedFromBe word }
  | .wattHours => { values with consumedEnergy := signedFromBe word }
  | .wattHoursCharged => { values with regeneratedEnergy := signedFromBe word }
  | .tachometer => { values with tachometer := signedFromBe word }
  | .tachometerAbs => { values with tachometerAbsolute := signedFromBe word }
  | .faultCode => { values with faultCode := .fromRaw (word.headD 0) }
  | .pidPos => { values with motorPosition := signedFromBe word }
  | .controllerId => { values with controllerId := word.headD 0 }
  | .tempMosfetAll => { values with
      mosfetTemperature1 := signedFromBe (word.take 2) * 100
      mosfetTemperature2 := signedFromBe ((word.drop 2).take 2) * 100
      mosfetTemperature3 := signedFromBe ((word.drop 4).take 2) * 100 }
  | .avgVoltageD => { values with directAxisVoltage := signedFromBe word }
  | .avgVoltageQ => { values with quadratureAxisVoltage := signedFromBe word }
  | .status => { values with status := word.headD 0 }

namespace VescValuesTelemetry
variable {values : VescValuesTelemetry} {word : List Byte} {field other : VescValuesField}

@[simp] theorem store_presentFields : (values.store word field).presentFields = values.presentFields := by
  cases field <;> rfl

@[simp] theorem held_store : (values.store word field).held field = field.valueOf word := by
  cases field <;> rfl

private theorem held_store_of_ne (apart : other ≠ field) : (values.store word field).held other = values.held other := by
  cases field <;> cases other <;> first | rfl | exact absurd rfl apart

end VescValuesTelemetry

/-- The fields of a list that a mask announces, the bytes they take, and where one of them begins. -/
def announced (mask : VescValuesMask) (fields : List VescValuesField) : List VescValuesField :=
  fields.filter mask.contains

def announcedWidth (mask : VescValuesMask) (fields : List VescValuesField) : Nat :=
  ((announced mask fields).map VescValuesField.width).sum

def fieldOffset (mask : VescValuesMask) (fields : List VescValuesField) (field : VescValuesField) : Nat :=
  announcedWidth mask (fields.takeWhile (· ≠ field))

def fieldWord (mask : VescValuesMask) (fields : List VescValuesField) (bytes : List Byte) (field : VescValuesField) :
    List Byte :=
  (bytes.drop (fieldOffset mask fields field)).take field.width

section Readers
open VescValuesReader
variable {α : Type} {count : Nat} {bytes : List Byte} {values : VescValuesTelemetry} {field : VescValuesField}

theorem reader_bind {β : Type} {first : VescValuesReader α} {rest : α → VescValuesReader β} :
    (first >>= rest) bytes = match first bytes with
      | .ok (value, left) => rest value left
      | .error error => .error error := by
  show StateT.bind first rest bytes = _
  unfold StateT.bind
  cases first bytes with
  | error | ok => rfl

private theorem reader_pure {value : α} : (pure value : VescValuesReader α) bytes = .ok (value, bytes) := rfl

private theorem reader_lift {value : Except VescCodecError α} :
    (liftM value : VescValuesReader α) bytes = value.map fun value => (value, bytes) := by
  cases value <;> rfl

theorem read_eq : read count bytes =
    if count ≤ bytes.length then .ok (bytes.take count, bytes.drop count) else .error .decodeFailed := rfl

private theorem readValuesField_absent (absent : values.presentFields.contains field = false) :
    readValuesField values field bytes = .ok (values, bytes) := by
  unfold readValuesField
  rw [absent]
  rfl

theorem reader_store {β : Type} {reader : VescValuesReader α} {value : α} {store : α → β}
    (reads : reader bytes = if count ≤ bytes.length then .ok (value, bytes.drop count) else .error .decodeFailed) :
    (do return store (← reader) : VescValuesReader β) bytes =
      if count ≤ bytes.length then .ok (store value, bytes.drop count) else .error .decodeFailed := by
  rw [reader_bind, reads]
  by_cases enough : count ≤ bytes.length
  · simp only [enough, if_true]
    rfl
  · simp only [enough, if_false]

theorem readI16_eq : readI16 bytes = if 2 ≤ bytes.length then .ok (signedFromBe (bytes.take 2), bytes.drop 2)
    else .error .decodeFailed := reader_store read_eq

theorem readI32_eq : readI32 bytes = if 4 ≤ bytes.length then .ok (signedFromBe (bytes.take 4), bytes.drop 4)
    else .error .decodeFailed := reader_store read_eq

private theorem readU8_eq : readU8 bytes = if 1 ≤ bytes.length then .ok ((bytes.take 1).headD 0, bytes.drop 1)
    else .error .decodeFailed := reader_store read_eq

private theorem reader_current {store : Int → VescValuesTelemetry} :
    (do return store (← currentFromCentiAmps (← readI32)) : VescValuesReader VescValuesTelemetry) bytes =
      if 4 ≤ bytes.length ∧ i32Min ≤ signedFromBe (bytes.take 4) * 10 ∧ signedFromBe (bytes.take 4) * 10 ≤ i32Max then
        .ok (store (signedFromBe (bytes.take 4) * 10), bytes.drop 4)
      else .error .decodeFailed := by
  rw [reader_bind, readI32_eq]
  by_cases enough : 4 ≤ bytes.length
  · simp only [enough, if_true, true_and]
    rw [reader_bind, reader_lift, currentFromCentiAmps]
    by_cases fits : i32Min ≤ signedFromBe (bytes.take 4) * 10 ∧ signedFromBe (bytes.take 4) * 10 ≤ i32Max
    · rw [if_pos fits, if_pos fits]
      rfl
    · rw [if_neg fits, if_neg fits]
      rfl
  · simp only [enough, if_false, false_and]

private theorem reader_temperatures {store : Int → Int → Int → VescValuesTelemetry} :
    (do return store (← readI16) (← readI16) (← readI16) : VescValuesReader VescValuesTelemetry) bytes =
      if 6 ≤ bytes.length then
        .ok (store (signedFromBe ((bytes.take 6).take 2)) (signedFromBe (((bytes.take 6).drop 2).take 2))
          (signedFromBe (((bytes.take 6).drop 4).take 2)), bytes.drop 6)
      else .error .decodeFailed := by
  simp only [reader_bind, readI16_eq]
  by_cases first : 2 ≤ bytes.length
  · simp only [first, if_true, List.length_drop]
    by_cases second : 2 ≤ bytes.length - 2
    · simp only [second, if_true, List.length_drop]
      by_cases third : 2 ≤ bytes.length - 2 - 2
      · rw [if_pos third, if_pos (by omega)]
        simp only [reader_pure, List.take_take, List.drop_drop, List.drop_take]
        rfl
      · rw [if_neg third, if_neg (by omega)]
    · rw [if_neg second, if_neg (by omega)]
  · rw [if_neg first, if_neg (by omega)]

private theorem readValuesField_present (present : values.presentFields.contains field = true) :
    readValuesField values field bytes =
      if field.width ≤ bytes.length ∧ field.Fits (bytes.take field.width) then
        .ok (values.store (bytes.take field.width) field, bytes.drop field.width)
      else .error .decodeFailed := by
  have plain (calm : field.isCurrent = false) :
      (field.width ≤ bytes.length ∧ field.Fits (bytes.take field.width)) = (field.width ≤ bytes.length) := by
    simp [VescValuesField.Fits, calm]
  have current (scaled : field.isCurrent = true) : field.Fits (bytes.take field.width) =
      (i32Min ≤ signedFromBe (bytes.take field.width) * 10 ∧ signedFromBe (bytes.take field.width) * 10 ≤ i32Max) := by
    simp [VescValuesField.Fits, scaled]
  unfold readValuesField
  rw [present]
  cases field
  case avgCurrentMotor | avgCurrentInput | avgCurrentD | avgCurrentQ =>
    simp only [current rfl]
    exact reader_current
  case tempMosfetAll =>
    simp only [plain rfl]
    exact reader_temperatures
  case faultCode | controllerId | status =>
    simp only [plain rfl]
    exact reader_store readU8_eq
  case tempMosfet | tempMotor | dutyCycle | voltageIn =>
    simp only [plain rfl]
    exact reader_store readI16_eq
  all_goals
    simp only [plain rfl]
    exact reader_store readI32_eq

end Readers

section Fields
variable {mask : VescValuesMask} {field other : VescValuesField} {fields : List VescValuesField} {bytes : List Byte}
  {values : VescValuesTelemetry}

theorem announcedWidth_cons : announcedWidth mask (field :: fields) =
    (if mask.contains field then field.width else 0) + announcedWidth mask fields := by
  unfold announcedWidth announced
  cases present : mask.contains field with
  | false | true => simp [present]

theorem fieldOffset_head : fieldOffset mask (field :: fields) field = 0 := by
  simp [fieldOffset, announcedWidth, announced]

private theorem fieldOffset_tail (apart : other ≠ field) : fieldOffset mask (field :: fields) other =
    (if mask.contains field then field.width else 0) + fieldOffset mask fields other := by
  have kept : (field :: fields).takeWhile (· ≠ other) = field :: fields.takeWhile (· ≠ other) := by
    simp [Ne.symm apart]
  rw [fieldOffset, kept, announcedWidth_cons]
  rfl

/-- The bytes of a field behind another one, read from where that one ends. -/
theorem fieldWord_tail (apart : other ≠ field) : fieldWord mask (field :: fields) bytes other =
    fieldWord mask fields (bytes.drop (if mask.contains field then field.width else 0)) other := by
  unfold fieldWord
  rw [fieldOffset_tail apart, List.drop_drop]

structure Grammatical (mask : VescValuesMask) (fields : List VescValuesField) (bytes : List Byte) : Prop where
  enough : announcedWidth mask fields ≤ bytes.length
  fits : ∀ field ∈ fields, mask.contains field = true → field.Fits (fieldWord mask fields bytes field)

private theorem grammatical_cons (unique : field ∉ fields) : Grammatical mask (field :: fields) bytes ↔
    (mask.contains field = true → field.width ≤ bytes.length ∧ field.Fits (bytes.take field.width)) ∧
      Grammatical mask fields (bytes.drop (if mask.contains field then field.width else 0)) := by
  have here : fieldWord mask (field :: fields) bytes field = bytes.take field.width := by
    rw [fieldWord, fieldOffset_head, List.drop_zero]
  have there {other : VescValuesField} (member : other ∈ fields) : other ≠ field := by
    rintro rfl
    exact unique member
  constructor
  · rintro ⟨enough, fits⟩
    rw [announcedWidth_cons] at enough
    refine ⟨?_, ?_, ?_⟩
    · intro present
      rw [if_pos present] at enough
      exact ⟨by omega, here ▸ fits field List.mem_cons_self present⟩
    · rw [List.length_drop]
      omega
    · intro other member present
      rw [← fieldWord_tail (there member)]
      exact fits other (List.mem_cons_of_mem _ member) present
  · rintro ⟨first, enough, fits⟩
    rw [List.length_drop] at enough
    refine ⟨?_, ?_⟩
    · rw [announcedWidth_cons]
      cases present : mask.contains field with
      | false => simpa [present] using enough
      | true =>
        have := (first present).1
        simp only [present, if_true] at enough ⊢
        omega
    · intro other member present
      rcases List.mem_cons.mp member with rfl | later
      · rw [here]
        exact (first present).2
      · rw [fieldWord_tail (there later)]
        exact fits other later present

/-- A field that is not announced is passed over; an announced one is read, or reading fails. -/
theorem readValuesField_cases (same : values.presentFields = mask) :
    ((mask.contains field = true → field.width ≤ bytes.length ∧ field.Fits (bytes.take field.width)) →
      ∃ middle, readValuesField values field bytes = .ok (middle, bytes.drop (if mask.contains field then field.width else 0)) ∧
        middle.presentFields = mask ∧ (∀ other, other ≠ field → middle.held other = values.held other) ∧
        middle.held field = if mask.contains field then field.valueOf (bytes.take field.width) else values.held field) ∧
    (¬(mask.contains field = true → field.width ≤ bytes.length ∧ field.Fits (bytes.take field.width)) →
      readValuesField values field bytes = .error .decodeFailed) := by
  cases present : mask.contains field with
  | false =>
    have skipped : readValuesField values field bytes = .ok (values, bytes) :=
      readValuesField_absent (by rw [same, present])
    refine ⟨?_, ?_⟩
    · intro _
      exact ⟨values, skipped, same, fun _ _ => rfl, rfl⟩
    · intro wrong
      exact absurd (fun there => Bool.noConfusion there) wrong
  | true =>
    have known : values.presentFields.contains field = true := by rw [same, present]
    have reads := @readValuesField_present bytes values field known
    refine ⟨?_, ?_⟩
    · intro fits
      rw [if_pos (fits rfl)] at reads
      refine ⟨_, reads, ?_, ?_, ?_⟩
      · rw [VescValuesTelemetry.store_presentFields, same]
      · exact fun other apart => VescValuesTelemetry.held_store_of_ne apart
      · exact VescValuesTelemetry.held_store
    · intro wrong
      rw [reads, if_neg fun fits => wrong fun _ => fits]

/-- Reading fields succeeds exactly on grammatical bytes, and then every announced field holds its word. -/
theorem foldlM_readValuesField (distinct : fields.Nodup) (same : values.presentFields = mask) :
    (¬Grammatical mask fields bytes → ∃ error, (fields.foldlM readValuesField values) bytes = .error error) ∧
    (Grammatical mask fields bytes → ∃ final, (fields.foldlM readValuesField values) bytes =
        .ok (final, bytes.drop (announcedWidth mask fields)) ∧ final.presentFields = mask ∧
      ∀ field, final.held field = if field ∈ fields ∧ mask.contains field = true
        then field.valueOf (fieldWord mask fields bytes field) else values.held field) := by
  induction fields generalizing values bytes with
  | nil =>
    refine ⟨?_, ?_⟩
    · intro wrong
      exact absurd ⟨Nat.zero_le _, fun _ member => absurd member List.not_mem_nil⟩ wrong
    · intro _
      exact ⟨values, rfl, same, by simp⟩
  | cons field fields ih =>
    obtain ⟨unique, distinct⟩ := List.nodup_cons.mp distinct
    obtain ⟨reads, fails⟩ := @readValuesField_cases mask field bytes values same
    rw [grammatical_cons unique, List.foldlM_cons, reader_bind, announcedWidth_cons]
    by_cases first : mask.contains field = true → field.width ≤ bytes.length ∧ field.Fits (bytes.take field.width)
    · obtain ⟨middle, read, mid, elsewhere, here⟩ := reads first
      obtain ⟨wrong, right⟩ := @ih (bytes.drop (if mask.contains field then field.width else 0)) middle distinct mid
      rw [read]
      refine ⟨?_, ?_⟩
      · intro ungrammatical
        exact wrong fun later => ungrammatical ⟨first, later⟩
      · rintro ⟨-, later⟩
        obtain ⟨final, done, kept, holds⟩ := right later
        rw [List.drop_drop] at done
        refine ⟨final, done, kept, ?_⟩
        intro other
        rw [holds other]
        by_cases place : other = field
        · subst place
          rw [if_neg fun inside => unique inside.1, here]
          simp only [List.mem_cons_self, true_and, fieldWord, fieldOffset_head, List.drop_zero]
        · rw [elsewhere other place, ← fieldWord_tail place]
          simp only [List.mem_cons, place, false_or]
    · rw [fails first]
      refine ⟨fun _ => ⟨_, rfl⟩, ?_⟩
      rintro ⟨right, -⟩
      exact absurd right first

theorem mem_valuesWireOrder (field : VescValuesField) : field ∈ valuesWireOrder := by
  cases field <;> decide

/-- A whole body is decoded exactly when it is grammatical and has no byte left over. -/
theorem decodeValues_cases :
    (¬(Grammatical mask valuesWireOrder bytes ∧ bytes.length = announcedWidth mask valuesWireOrder) →
      ∃ error, decodeValues bytes mask = .error error) ∧
    (Grammatical mask valuesWireOrder bytes → bytes.length = announcedWidth mask valuesWireOrder →
      ∃ final, decodeValues bytes mask = .ok final ∧ final.presentFields = mask ∧
        ∀ field, final.held field = if mask.contains field then field.valueOf (fieldWord mask valuesWireOrder bytes field)
          else ({} : VescValuesTelemetry).held field) := by
  have distinct : valuesWireOrder.Nodup := by decide
  have begins : ({ presentFields := mask } : VescValuesTelemetry).presentFields = mask := rfl
  obtain ⟨wrong, right⟩ := @foldlM_readValuesField mask valuesWireOrder bytes _ distinct begins
  unfold decodeValues readExactly
  refine ⟨?_, ?_⟩
  · intro ungrammatical
    by_cases grammatical : Grammatical mask valuesWireOrder bytes
    · obtain ⟨final, done, -, -⟩ := right grammatical
      rw [done]
      have more : bytes.drop (announcedWidth mask valuesWireOrder) ≠ [] := by
        intro empty
        rw [List.drop_eq_nil_iff] at empty
        exact ungrammatical ⟨grammatical, Nat.le_antisymm empty grammatical.enough⟩
      cases left : bytes.drop (announcedWidth mask valuesWireOrder) with
      | nil => exact absurd left more
      | cons byte rest => exact ⟨_, rfl⟩
    · obtain ⟨error, failed⟩ := wrong grammatical
      rw [failed]
      exact ⟨error, rfl⟩
  · intro grammatical exact
    obtain ⟨final, done, kept, holds⟩ := right grammatical
    rw [done, ← exact, List.drop_length]
    refine ⟨final, rfl, kept, ?_⟩
    intro field
    rw [holds field]
    simp only [mem_valuesWireOrder, true_and]
    rfl

end Fields

/-- What a selective body has to be: a mask of known fields, then as many bytes as it announces, with every
announced current inside 32 bits of milliamperes. -/
structure SelectiveGrammar (body : List Byte) : Prop where
  masked : 4 ≤ body.length
  known : unsignedFromBe (body.take 4) < 2 ^ 22
  length : (body.drop 4).length = announcedWidth (unsignedFromBe (body.take 4)) valuesWireOrder
  currents : ∀ field, VescValuesMask.contains (unsignedFromBe (body.take 4)) field = true →
    field.Fits (fieldWord (unsignedFromBe (body.take 4)) valuesWireOrder (body.drop 4) field)

private theorem fromBits_eq (bits : Nat) : VescValuesMask.fromBits bits = if bits < 2 ^ 22 then some bits else none := by
  unfold VescValuesMask.fromBits
  have bound : bits ≤ VescValuesMask.all ↔ bits < 2 ^ 22 := by
    unfold VescValuesMask.all
    omega
  simp only [bound]

theorem decodeSelectiveValues_eq (body : List Byte) : decodeSelectiveValues body =
    if 4 ≤ body.length ∧ unsignedFromBe (body.take 4) < 2 ^ 22 then
      decodeValues (body.drop 4) (unsignedFromBe (body.take 4))
    else .error .decodeFailed := by
  have reads : VescValuesReader.readU32 body = if 4 ≤ body.length then
      .ok (unsignedFromBe (body.take 4), body.drop 4) else .error .decodeFailed := reader_store read_eq
  unfold decodeSelectiveValues
  rw [reads]
  by_cases masked : 4 ≤ body.length
  · simp only [masked, if_true, true_and, bind, Except.bind, fromBits_eq]
    by_cases known : unsignedFromBe (body.take 4) < 2 ^ 22
    · simp only [known, if_true]
    · simp only [known, if_false]
      rfl
  · simp only [masked, if_false, false_and]
    rfl

/-- A full reply of a released length announces what a selective one with all its fields does. -/
theorem full_values_are_selective {body : List Byte} {mask : VescValuesMask}
    (full : fullValuesMask body.length = .ok mask) :
    decodeTypedPayload (4 :: body) = decodeTypedPayload (50 :: (toBe 4 mask ++ body)) := by
  have masks : unsignedFromBe (toBe 4 mask) = mask ∧ mask < 2 ^ 22 := by
    unfold fullValuesMask at full
    split at full <;> cases full <;> decide
  have word : (toBe 4 mask).length = 4 := toBe_length 4 mask
  have selective : decodeSelectiveValues (toBe 4 mask ++ body) = decodeValues body mask := by
    rw [decodeSelectiveValues_eq, List.take_left' word, List.drop_left' word, masks.1, if_pos]
    refine ⟨?_, masks.2⟩
    rw [List.length_append, word]
    exact Nat.le_add_right _ _
  have plain : decodeTypedPayload (4 :: body) = (do return some (.values (← decodeValues body mask))) := by
    unfold decodeTypedPayload
    simp [full, bind, Except.bind]
  have chosen : decodeTypedPayload (50 :: (toBe 4 mask ++ body)) =
      (do return some (.values (← decodeSelectiveValues (toBe 4 mask ++ body)))) := by
    unfold decodeTypedPayload
    simp
  rw [plain, chosen, selective]

/-- The values payload: a selective body is accepted exactly when it is grammatical, its
record then holds every announced field's word and the default of every other field, and
a full body of a released length means what the selective one with its mask means. -/
theorem values_payload_grammar :
    (∀ body, (∃ values, decodeSelectiveValues body = .ok values) ↔ SelectiveGrammar body) ∧
    (∀ body values, decodeSelectiveValues body = .ok values →
      let mask : VescValuesMask := unsignedFromBe (body.take 4)
      values.presentFields = mask ∧ ∀ field, values.held field = if mask.contains field
        then field.valueOf (fieldWord mask valuesWireOrder (body.drop 4) field)
        else ({} : VescValuesTelemetry).held field) ∧
    (∀ body : List Byte, body.length ∈ [53, 57, 58, 64, 72, 73] → ∃ mask, fullValuesMask body.length = .ok mask ∧
      decodeTypedPayload (4 :: body) = decodeTypedPayload (50 :: (toBe 4 mask ++ body))) := by
  have grammatical {body : List Byte} (grammar : SelectiveGrammar body) :
      Grammatical (unsignedFromBe (body.take 4)) valuesWireOrder (body.drop 4) :=
    ⟨Nat.le_of_eq grammar.length.symm, fun field _ present => grammar.currents field present⟩
  have accepted {body : List Byte} {values : VescValuesTelemetry} (done : decodeSelectiveValues body = .ok values) :
      SelectiveGrammar body ∧ decodeValues (body.drop 4) (unsignedFromBe (body.take 4)) = .ok values := by
    rw [decodeSelectiveValues_eq] at done
    split at done
    · next shape =>
      by_contra ungrammatical
      obtain ⟨error, failed⟩ := (@decodeValues_cases (unsignedFromBe (body.take 4)) (body.drop 4)).1 (by
        rintro ⟨grammatical, exact⟩
        exact ungrammatical ⟨⟨shape.1, shape.2, exact,
          fun field present => grammatical.fits field (mem_valuesWireOrder field) present⟩, done⟩)
      rw [failed] at done
      cases done
    · cases done
  refine ⟨?_, ?_, ?_⟩
  · intro body
    constructor
    · rintro ⟨values, done⟩
      exact (accepted done).1
    · intro grammar
      obtain ⟨final, done, -⟩ := decodeValues_cases.2 (grammatical grammar) grammar.length
      exact ⟨final, by rw [decodeSelectiveValues_eq, if_pos ⟨grammar.masked, grammar.known⟩, done]⟩
  · intro body values done
    obtain ⟨grammar, decoded⟩ := accepted done
    obtain ⟨final, same, kept, holds⟩ := decodeValues_cases.2 (grammatical grammar) grammar.length
    rw [decoded] at same
    cases same
    exact ⟨kept, holds⟩
  · intro body released
    have full : ∃ mask, fullValuesMask body.length = .ok mask := by
      simp only [List.mem_cons, List.not_mem_nil, or_false] at released
      rcases released with size | size | size | size | size | size <;> rw [size] <;> exact ⟨_, rfl⟩
    obtain ⟨mask, full⟩ := full
    exact ⟨mask, full, full_values_are_selective full⟩

end Cutout.Protocols
