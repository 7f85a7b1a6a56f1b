import Cutout.Proofs.VescFraming
import Cutout.SettingsImage

/-! The settings encoder against the frame reader. What the encoder writes is one frame
whatever follows it, and no part of that frame is taken for anything else: the reader
waits for the rest. -/

namespace Cutout.Protocols

private theorem crc16Shift_lt (bits crc : Nat) : crc16Shift (bits + 1) crc < 2 ^ 16 := by
  induction bits generalizing crc with
  | zero =>
    have small : crc * 2 % 2 ^ 16 < 2 ^ 16 := Nat.mod_lt _ (by decide)
    simp only [crc16Shift]
    split
    · exact Nat.xor_lt_two_pow small (by decide)
    · exact small
  | succ bits ih => exact ih _

theorem crc16Xmodem_lt (bytes : List Byte) : crc16Xmodem bytes < 2 ^ 16 := by
  unfold crc16Xmodem
  rcases List.eq_nil_or_concat bytes with rfl | ⟨front, last, rfl⟩
  · decide
  · rw [List.concat_eq_append, List.foldl_append]
    exact crc16Shift_lt 7 _

theorem u16FromBe_u16ToBe {value : Nat} (small : value < 2 ^ 16) :
    u16FromBe (UInt8.ofNat (value / 256)) (UInt8.ofNat value) = value := by
  simp only [u16FromBe, UInt8.toNat_ofNat']
  omega

theorem unsignedFromBe_u16ToBe {value : Nat} (small : value < 2 ^ 16) : unsignedFromBe (u16ToBe value) = value := by
  have word := u16FromBe_u16ToBe small
  have read : unsignedFromBe (u16ToBe value) = (0 * 256 + (UInt8.ofNat (value / 256)).toNat) * 256 +
      (UInt8.ofNat value).toNat := rfl
  rw [read, Nat.zero_mul, Nat.zero_add]
  exact word

theorem FrameAt.waits {early rest : List Byte} {payloadStart payloadLen : Nat} (missing : rest ≠ [])
    (frame : FrameAt (early ++ rest) payloadStart payloadLen (early ++ rest).length) :
    frameParts early = .ok none := by
  have whole := frameParts_some_iff.mpr frame
  cases parts : frameParts early with
  | error error =>
    have rejected := (frameParts_error_append parts rest).1
    rw [whole] at rejected
    cases rejected
  | ok found =>
    cases found with
    | none => rfl
    | some found =>
      obtain ⟨start, length, total⟩ := found
      have sooner := frameParts_some_iff.mp parts
      have same := frameParts_some_iff.mpr (sooner.append rest)
      rw [whole] at same
      simp only [Except.ok.injEq, Option.some.injEq, Prod.mk.injEq] at same
      have complete := sooner.complete
      have positive := List.length_pos_iff.mpr missing
      rw [← same.2.2, List.length_append] at complete
      omega

section Encoded
variable {payload header : List Byte}

/-- A header that announces its payload makes a frame of payload, checksum and end byte. -/
theorem FrameAt.of_header (fits : header.length + payload.length + 3 ≤ vescMaxFrameLen)
    (announces : ∀ rest, frameHeader (header ++ rest) = .ok (some (header.length, payload.length))) :
    FrameAt (header ++ payload ++ u16ToBe (crc16Xmodem payload) ++ [3]) header.length payload.length
      (header ++ payload ++ u16ToBe (crc16Xmodem payload) ++ [3]).length := by
  have checksum : (u16ToBe (crc16Xmodem payload)).length = 2 := rfl
  have length : (header ++ payload ++ u16ToBe (crc16Xmodem payload) ++ [3]).length =
      header.length + payload.length + 3 := by
    simp only [List.length_append, checksum, List.length_singleton]
  rw [length]
  refine ⟨?_, rfl, fits, Nat.le_of_eq length.symm, ?_, ?_⟩
  · rw [List.append_assoc, List.append_assoc]
    exact announces _
  · rw [List.getElem?_append_right (by simp only [List.length_append, checksum]; omega)]
    simp only [List.length_append, checksum]
    rw [show header.length + payload.length + 3 - 1 - (header.length + payload.length + 2) = 0 by omega]
    rfl
  · have trailer : (header ++ payload ++ u16ToBe (crc16Xmodem payload) ++ [3]).drop (header.length + payload.length) =
        u16ToBe (crc16Xmodem payload) ++ [3] := by
      rw [List.append_assoc (header ++ payload), ← List.length_append, List.drop_left]
    have body : (header ++ payload ++ u16ToBe (crc16Xmodem payload) ++ [3]).drop header.length =
        payload ++ (u16ToBe (crc16Xmodem payload) ++ [3]) := by
      rw [List.append_assoc, List.append_assoc, List.drop_left]
    rw [trailer, body, List.take_left, List.take_left' checksum, unsignedFromBe_u16ToBe (crc16Xmodem_lt payload)]

private theorem encodeSettingsPayload_some (nonempty : 1 ≤ payload.length) (fits : payload.length ≤ maxTransportWriteLen - 7) :
    ∃ header, encodeSettingsPayload payload = some (header ++ payload ++ u16ToBe (crc16Xmodem payload) ++ [3]) ∧
      header.length ≤ 3 ∧ ∀ rest, frameHeader (header ++ rest) = .ok (some (header.length, payload.length)) := by
  have full : payload ≠ [] := by
    rintro rfl
    cases nonempty
  have admitted : ¬(payload = [] ∨ maxTransportWriteLen - 7 < payload.length) := by
    rintro (empty | long)
    · exact full empty
    · omega
  unfold encodeSettingsPayload
  rw [if_neg admitted]
  by_cases short : payload.length < 256
  · refine ⟨[2, UInt8.ofNat payload.length], by rw [if_pos short], Nat.le_succ 2, ?_⟩
    intro rest
    have announced : (UInt8.ofNat payload.length).toNat = payload.length := by
      rw [UInt8.toNat_ofNat']
      exact Nat.mod_eq_of_lt short
    simp [frameHeader, vescFrameStartShort, announced]
  · refine ⟨3 :: u16ToBe payload.length, by rw [if_neg short], Nat.le_refl 3, ?_⟩
    intro rest
    have small : payload.length < 2 ^ 16 := by
      simp only [maxTransportWriteLen] at fits
      omega
    simp only [frameHeader, u16ToBe, List.cons_append, List.nil_append, vescFrameStartShort, vescFrameStartLong]
    rw [if_neg (by decide), u16FromBe_u16ToBe small]
    rfl

end Encoded

/-- What the settings encoder writes is read back as the payload, whatever follows it, and
every part of it short of the last byte is waited for. -/
theorem settings_payload_round_trips (payload : List Byte) (nonempty : 1 ≤ payload.length)
    (fits : payload.length ≤ maxTransportWriteLen - 7) :
    ∃ frame, encodeSettingsPayload payload = some frame ∧
      (∀ suffix, ∃ start, frameParts (frame ++ suffix) = .ok (some (start, payload.length, frame.length)) ∧
        ((frame ++ suffix).drop start).take payload.length = payload) ∧
      ∀ early rest, frame = early ++ rest → rest ≠ [] → frameParts early = .ok none := by
  obtain ⟨header, encoded, small, announces⟩ := encodeSettingsPayload_some nonempty fits
  have room : header.length + payload.length + 3 ≤ vescMaxFrameLen := by
    simp only [maxTransportWriteLen] at fits
    simp only [vescMaxFrameLen]
    omega
  have frame := FrameAt.of_header room announces
  refine ⟨_, encoded, ?_, ?_⟩
  · intro suffix
    refine ⟨header.length, frameParts_some_iff.mpr (frame.append suffix), ?_⟩
    simp only [List.append_assoc]
    rw [List.drop_left, List.take_left]
  · intro early rest split missing
    rw [split] at frame
    exact frame.waits missing

/-- The request for the motor configuration, byte by byte. -/
theorem motor_request_is_waited_for : ∃ frame, encodeSettingsPayload [14] = some frame ∧
    frameParts frame = .ok (some (2, 1, 6)) ∧ ∀ early rest, frame = early ++ rest → rest ≠ [] → frameParts early = .ok none := by
  obtain ⟨frame, encoded, -, waits⟩ := settings_payload_round_trips [14] (by decide) (by decide)
  have written : some frame = some [2, 1, 14, 225, 206, 3] := encoded.symm.trans (by decide)
  cases written
  exact ⟨_, encoded, by decide, waits⟩

end Cutout.Protocols
