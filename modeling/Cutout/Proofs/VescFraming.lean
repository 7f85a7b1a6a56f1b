import Cutout.VescStream

/-! The framing decision is final: a complete frame, or garbage recognised as
such, is recognised the same way however many bytes follow. This makes the
decoder's loop body a scanner in the sense of the library. -/

namespace Cutout.Protocols
open Library
variable {bytes : List Byte} {error : VescCodecError} {payloadLen : Nat}

theorem frameHeader_some_cases {header : Nat × Nat} (found : frameHeader bytes = .ok (some header)) :
    (∃ length rest, bytes = vescFrameStartShort :: length :: rest ∧ header = (2, length.toNat)) ∨
      ∃ high low rest, bytes = vescFrameStartLong :: high :: low :: rest ∧ header = (3, u16FromBe high low) := by
  unfold frameHeader at found
  split at found
  · simp at found
  next start rest =>
    split_ifs at found with short long
    · cases rest with
      | nil => simp at found
      | cons length rest =>
        simp only [Except.ok.injEq, Option.some.injEq] at found
        exact .inl ⟨length, rest, by rw [short], found.symm⟩
    · match rest with
      | [] | [_] => simp at found
      | high :: low :: rest =>
        simp only [Except.ok.injEq, Option.some.injEq] at found
        exact .inr ⟨high, low, rest, by rw [long], found.symm⟩

theorem frameHeader_append {header : Nat × Nat} (found : frameHeader bytes = .ok (some header)) (later : List Byte) :
    frameHeader (bytes ++ later) = .ok (some header) := by
  rcases frameHeader_some_cases found with ⟨length, rest, rfl, rfl⟩ | ⟨high, low, rest, rfl, rfl⟩ <;> rfl

theorem frameHeader_error_append (found : frameHeader bytes = .error error) (later : List Byte) :
    frameHeader (bytes ++ later) = .error error := by
  unfold frameHeader at found
  split at found
  · simp at found
  next start rest =>
    split_ifs at found with short long
    · cases rest <;> simp at found
    · match rest with
      | [] | [_] | _ :: _ :: _ => simp at found
    · simpa [frameHeader, short, long] using found

theorem frameHeader_bounds {headerLen : Nat} (found : frameHeader bytes = .ok (some (headerLen, payloadLen))) :
    2 ≤ headerLen ∧ headerLen ≤ 3 ∧ headerLen ≤ bytes.length := by
  rcases frameHeader_some_cases found with ⟨length, rest, rfl, same⟩ | ⟨high, low, rest, rfl, same⟩ <;>
    · obtain ⟨rfl, -⟩ := Prod.mk.inj same
      simp

/-- What `frame_parts` has checked when it accepts the front of the input. -/
structure FrameAt (bytes : List Byte) (payloadStart payloadLen totalLen : Nat) : Prop where
  header : frameHeader bytes = .ok (some (payloadStart, payloadLen))
  total : totalLen = payloadStart + payloadLen + 3
  small : totalLen ≤ vescMaxFrameLen
  complete : totalLen ≤ bytes.length
  terminated : bytes[totalLen - 1]? = some vescFrameEnd
  checksum : unsignedFromBe ((bytes.drop (payloadStart + payloadLen)).take 2) =
    crc16Xmodem ((bytes.drop payloadStart).take payloadLen)

theorem frameParts_some_iff {payloadStart totalLen : Nat} :
    frameParts bytes = .ok (some (payloadStart, payloadLen, totalLen)) ↔
      FrameAt bytes payloadStart payloadLen totalLen := by
  constructor
  · intro accepted
    unfold frameParts at accepted
    split at accepted
    · simp at accepted
    · simp at accepted
    next start length header =>
      simp only at accepted
      split_ifs at accepted with oversized short terminated checksum
      · simp at accepted
      · obtain ⟨rfl, rfl, rfl⟩ : start = payloadStart ∧ length = payloadLen ∧ start + length + 3 = totalLen := by
          simpa using accepted
        exact ⟨header, rfl, by omega, by omega, not_not.mp terminated, not_not.mp checksum⟩
  · rintro ⟨header, rfl, small, complete, terminated, checksum⟩
    unfold frameParts
    rw [header]
    simp only
    rw [if_neg (by omega), if_neg (by omega), if_neg (not_not.mpr terminated), if_neg (not_not.mpr checksum)]

private theorem take_drop_append_of_le {later : List Byte} {start length : Nat}
    (inside : start + length ≤ bytes.length) :
    ((bytes ++ later).drop start).take length = (bytes.drop start).take length := by
  rw [List.drop_append_of_le_length (by omega), List.take_append_of_le_length (by rw [List.length_drop]; omega)]

theorem FrameAt.append {payloadStart totalLen : Nat} (frame : FrameAt bytes payloadStart payloadLen totalLen)
    (later : List Byte) : FrameAt (bytes ++ later) payloadStart payloadLen totalLen := by
  obtain ⟨header, total, small, complete, terminated, checksum⟩ := frame
  refine ⟨frameHeader_append header later, total, small, by rw [List.length_append]; omega, ?_, ?_⟩
  · rw [List.getElem?_append_left (by omega)]
    exact terminated
  · rw [take_drop_append_of_le (by omega), take_drop_append_of_le (by omega)]
    exact checksum

/-- Why `frame_parts` rejects: no header, an impossible length, or a complete bad candidate. -/
theorem frameParts_error_cases (rejected : frameParts bytes = .error error) : frameHeader bytes = .error error ∨
      ∃ headerLen payloadLen, frameHeader bytes = .ok (some (headerLen, payloadLen)) ∧ error = .decodeFailed ∧
        (vescMaxFrameLen < headerLen + payloadLen + 3 ∨ headerLen + payloadLen + 3 ≤ bytes.length) := by
  unfold frameParts at rejected
  split at rejected
  · next header => exact .inl (by rw [header, Except.error.inj rejected])
  · simp at rejected
  next headerLen payloadLen header =>
    refine .inr ⟨headerLen, payloadLen, header, ?_⟩
    simp only at rejected
    split_ifs at rejected with oversized short terminated checksum
    · exact ⟨(Except.error.inj rejected).symm, .inl (by omega)⟩
    · exact ⟨(Except.error.inj rejected).symm, .inr (by omega)⟩
    · exact ⟨(Except.error.inj rejected).symm, .inr (by omega)⟩

theorem frameParts_error_append (rejected : frameParts bytes = .error error) (later : List Byte) :
    frameParts (bytes ++ later) = .error error ∧
      recoverableFrameLen (bytes ++ later) = recoverableFrameLen bytes := by
  rcases frameParts_error_cases rejected with bad | ⟨headerLen, payloadLen, header, -, size⟩
  · have bad' := frameHeader_error_append bad later
    simp [frameParts, recoverableFrameLen, bad, bad']
  · have header' := frameHeader_append header later
    unfold frameParts recoverableFrameLen at *
    rw [header] at rejected ⊢
    rw [header']
    simp only at rejected ⊢
    rcases size with oversized | complete
    · rw [if_pos (by omega)] at rejected ⊢
      exact ⟨rejected, by rw [if_neg (by omega), if_neg (by omega)]⟩
    · have last : (bytes ++ later)[headerLen + payloadLen + 3 - 1]? = bytes[headerLen + payloadLen + 3 - 1]? :=
        List.getElem?_append_left (by omega)
      rw [last, take_drop_append_of_le (by omega), take_drop_append_of_le (by omega), List.length_append]
      rw [if_neg (show ¬bytes.length < headerLen + payloadLen + 3 by omega)] at rejected
      rw [if_neg (show ¬bytes.length + later.length < headerLen + payloadLen + 3 by omega)]
      refine ⟨rejected, ?_⟩
      congr 1
      simp only [eq_iff_iff]
      constructor <;> rintro ⟨small, -, final⟩ <;> exact ⟨small, by omega, final⟩

end Cutout.Protocols
