import Cutout.Proofs.VescFraming

/-! Chunking independence of the streaming decoder. Every feed advances one fixed
scanner over the pending bytes and keeps the two positions in order, so the
replies depend only on the bytes fed, never on where the chunks were cut. -/

namespace Cutout.Protocols
open Library
variable {bytes : List Byte} {length : Nat}
variable {value : Option VescReadOnlyReply} {chunks : List (List Byte)}

def VescCrate.verdict (vesc : VescCrate) (bytes : List Byte) : Verdict VescReadOnlyReply :=
  match frameParts bytes with
  | .ok (some (_, _, length)) => .take length (vesc.decodeFrame (bytes.take length)).toOption
  | .ok none => .wait
  | .error _ => .take ((recoverableFrameLen bytes).getD 1) none

private theorem skip_bounds {error : VescCodecError} (rejected : frameParts bytes = .error error) :
    0 < (recoverableFrameLen bytes).getD 1 ∧ (recoverableFrameLen bytes).getD 1 ≤ bytes.length := by
  have nonempty : 0 < bytes.length := by
    cases bytes with
    | nil => simp [frameParts, frameHeader] at rejected
    | cons => simp
  unfold recoverableFrameLen
  split
  · simp only
    split_ifs with whole
    · simp only [Option.getD_some]
      omega
    · simp only [Option.getD_none]
      omega
  · simp only [Option.getD_none]
    omega

private theorem VescCrate.verdict_take_bounds {vesc : VescCrate} (decision : vesc.verdict bytes = .take length value) :
    0 < length ∧ length ≤ bytes.length := by
  unfold verdict at decision
  split at decision
  · next payloadStart payloadLen total accepted =>
    obtain ⟨rfl, -⟩ := Verdict.take.inj decision
    have frame := frameParts_some_iff.mp accepted
    exact ⟨by have := frame.total; omega, frame.complete⟩
  · cases decision
  · next rejected =>
    obtain ⟨rfl, -⟩ := Verdict.take.inj decision
    exact skip_bounds rejected

private theorem VescCrate.verdict_take_stable {vesc : VescCrate} (later : List Byte)
    (decision : vesc.verdict bytes = .take length value) : vesc.verdict (bytes ++ later) = .take length value := by
  unfold verdict at decision ⊢
  split at decision
  · next payloadStart payloadLen total accepted =>
    have frame := frameParts_some_iff.mp accepted
    rw [frameParts_some_iff.mpr (frame.append later)]
    simp only
    rw [List.take_append_of_le_length frame.complete]
    exact decision
  · cases decision
  · next rejected =>
    obtain ⟨same, recovered⟩ := frameParts_error_append rejected later
    rw [same, recovered]
    exact decision

def VescCrate.scanner (vesc : VescCrate) : Scanner Byte VescReadOnlyReply where
  next := vesc.verdict
  take_bounds := verdict_take_bounds
  take_stable := verdict_take_stable

namespace VescReadOnlyStreamDecoder
variable {bytes : List Byte}
variable (vesc : VescCrate)

structure Valid (decoder : VescReadOnlyStreamDecoder) : Prop where
  sized : decoder.buffer.length = vescMaxFrameLen
  ordered : decoder.readPosition ≤ decoder.writePosition
  bounded : decoder.writePosition ≤ vescMaxFrameLen

theorem new_valid : new.Valid := ⟨by simp [new], Nat.le_refl _, Nat.zero_le _⟩

theorem new_pending : new.pending = [] := rfl

variable {decoder : VescReadOnlyStreamDecoder}

section Valid
variable (valid : decoder.Valid)
include valid

theorem Valid.pending_length : decoder.pending.length = decoder.writePosition - decoder.readPosition := by
  have := valid.bounded
  rw [pending, List.length_drop, List.length_take, valid.sized, Nat.min_eq_left this]

theorem Valid.compact :
    decoder.compact.Valid ∧ decoder.compact.pending = decoder.pending ∧ decoder.compact.readPosition = 0 := by
  unfold VescReadOnlyStreamDecoder.compact
  split
  · next front => exact ⟨valid, rfl, front⟩
  · have size := valid.pending_length
    obtain ⟨sized, ordered, bounded⟩ := valid
    unfold pending at size
    refine ⟨⟨?_, Nat.zero_le _, by simp only; omega⟩, ?_, rfl⟩
    · simp only [List.length_append, List.length_drop, size, sized]
      omega
    · simp only [pending, List.drop_zero]
      rw [← size, List.take_left']
      rfl

theorem Valid.write (room : decoder.writePosition + bytes.length ≤ vescMaxFrameLen) :
    (decoder.write bytes).Valid ∧ (decoder.write bytes).pending = decoder.pending ++ bytes := by
  obtain ⟨sized, ordered, bounded⟩ := valid
  have front : (decoder.buffer.take decoder.writePosition).length = decoder.writePosition := by
    rw [List.length_take, sized, Nat.min_eq_left bounded]
  refine ⟨⟨?_, ?_, room⟩, ?_⟩
  · simp only [VescReadOnlyStreamDecoder.write, List.length_append, front, List.length_drop, sized]
    omega
  · simp only [VescReadOnlyStreamDecoder.write]
    omega
  · simp only [pending, VescReadOnlyStreamDecoder.write]
    rw [List.take_left' (by rw [List.length_append, front]), List.drop_append_of_le_length (by omega)]

theorem Valid.compact_write (room : decoder.refuses bytes = false) :
    (decoder.compact.write bytes).Valid ∧ (decoder.compact.write bytes).pending = decoder.pending ++ bytes := by
  obtain ⟨compacted, same, -⟩ := valid.compact
  have fits : decoder.compact.writePosition + bytes.length ≤ vescMaxFrameLen := by
    have := compacted.bounded
    simp only [refuses, compacted.sized, decide_eq_false_iff_not, Nat.not_lt] at room
    omega
  obtain ⟨written, joined⟩ := compacted.write fits
  exact ⟨written, by rw [joined, same]⟩

/-- There is room exactly when unread and new bytes together fit the buffer. -/
theorem Valid.refuses_eq_false (fits : (decoder.pending ++ bytes).length ≤ vescMaxFrameLen) :
    decoder.refuses bytes = false := by
  obtain ⟨compacted, same, front⟩ := valid.compact
  have size := compacted.pending_length
  rw [same, front] at size
  rw [List.length_append] at fits
  simp only [refuses, compacted.sized, decide_eq_false_iff_not, Nat.not_lt]
  omega

theorem Valid.advance (inside : length ≤ decoder.pending.length) :
    (decoder.advance length).Valid ∧ (decoder.advance length).pending = decoder.pending.drop length := by
  rw [valid.pending_length] at inside
  obtain ⟨sized, ordered, bounded⟩ := valid
  refine ⟨⟨sized, by simp only [VescReadOnlyStreamDecoder.advance]; omega, bounded⟩, ?_⟩
  simp only [pending, VescReadOnlyStreamDecoder.advance, List.drop_drop]

end Valid

/-- The loop advances the scanner and stops only when it waits or the batch is full. -/
theorem feedLoop_spec (fuel : Nat) (valid : decoder.Valid) (enough : decoder.pending.length ≤ fuel)
    (replies : List VescReadOnlyReply) (saw : Bool) :
    ∃ final more saw', decoder.feedLoop vesc fuel replies saw = (final, .ok (replies ++ more, saw')) ∧
      final.Valid ∧ vesc.scanner.Advance decoder.pending more final.pending ∧
      (vescMaxStreamReplies ≤ (replies ++ more).length ∨ vesc.scanner.Stuck final.pending) := by
  induction fuel generalizing decoder replies saw with
  | zero =>
    have empty : decoder.pending = [] := List.length_eq_zero_iff.mp (Nat.le_zero.mp enough)
    exact ⟨decoder, [], saw, by simp [feedLoop], valid, .refl _, .inr (by rw [empty]; exact Scanner.next_nil)⟩
  | succ fuel ih =>
    have length := valid.pending_length
    rw [feedLoop]
    split
    · next unread =>
      have slice : byteSlice decoder.buffer decoder.readPosition decoder.writePosition = some decoder.pending := by
        rw [byteSlice, if_pos ⟨valid.ordered, by rw [valid.sized]; exact valid.bounded⟩, pending]
      simp only [slice, frameLen]
      -- One consuming decision, followed by the rest of the loop on the shorter input.
      have consume : ∀ {taken : Nat} {value : Option VescReadOnlyReply} (saw : Bool),
          vesc.scanner.next decoder.pending = .take taken value →
          ∃ final more saw', (decoder.advance taken).feedLoop vesc fuel (replies ++ value.toList) saw =
              (final, .ok (replies ++ more, saw')) ∧ final.Valid ∧
            vesc.scanner.Advance decoder.pending more final.pending ∧
            (vescMaxStreamReplies ≤ (replies ++ more).length ∨ vesc.scanner.Stuck final.pending) := by
        intro taken value saw decision
        obtain ⟨positive, inside⟩ := vesc.scanner.take_bounds decision
        obtain ⟨moved, rest⟩ := valid.advance inside
        obtain ⟨final, more, saw', same, kept, run, stop⟩ :=
          ih moved (by rw [rest, List.length_drop]; omega) (replies ++ value.toList) saw
        rw [rest] at run
        exact ⟨final, value.toList ++ more, saw', by rw [same, List.append_assoc], kept, .take decision run,
          by rwa [← List.append_assoc]⟩
      cases parts : frameParts decoder.pending with
      | error error =>
        have decision : vesc.scanner.next decoder.pending =
            .take ((recoverableFrameLen decoder.pending).getD 1) none := by
          simp [VescCrate.scanner, VescCrate.verdict, parts]
        simpa [Except.map] using consume true decision
      | ok found =>
        cases found with
        | none =>
          refine ⟨decoder, [], saw, by simp [Except.map], valid, .refl _, .inr ?_⟩
          simp [Scanner.Stuck, VescCrate.scanner, VescCrate.verdict, parts]
        | some found =>
          obtain ⟨payloadStart, payloadLen, total⟩ := found
          have frame := frameParts_some_iff.mp parts
          have complete : byteSlice decoder.pending 0 total = some (decoder.pending.take total) := by
            rw [byteSlice, if_pos ⟨Nat.zero_le _, frame.complete⟩, List.drop_zero]
          simp only [Except.map, Option.map_some, complete]
          have decision : vesc.scanner.next decoder.pending =
              .take total (vesc.decodeFrame (decoder.pending.take total)).toOption := by
            simp [VescCrate.scanner, VescCrate.verdict, parts]
          split
          · next full => exact ⟨decoder, [], saw, by simp, valid, .refl _, .inl (by simpa using full)⟩
          · cases decoded : vesc.decodeFrame (decoder.pending.take total) with
            | ok reply => simpa [decoded, Except.toOption] using consume saw decision
            | error error => simpa [decoded, Except.toOption] using consume true decision
    · refine ⟨decoder, [], saw, by simp, valid, .refl _, .inr ?_⟩
      have empty : decoder.pending = [] := List.length_eq_zero_iff.mp (by omega)
      rw [empty]
      exact Scanner.next_nil

/-- An accepted feed advances the scanner over the buffered and the new bytes until it waits or the
batch of replies is full. -/
theorem feedResult_accepted (valid : decoder.Valid) (room : decoder.refuses bytes = false) :
    ∃ final result, decoder.feedResult vesc bytes = (final, result) ∧ final.Valid ∧
      vesc.scanner.Advance (decoder.pending ++ bytes) (feedReplies result) final.pending ∧
      (vescMaxStreamReplies ≤ (feedReplies result).length ∨ vesc.scanner.Stuck final.pending) := by
  obtain ⟨written, joined⟩ := valid.compact_write room
  obtain ⟨final, more, saw, loop, kept, run, stop⟩ := feedLoop_spec vesc (decoder.compact.write bytes).writePosition
    written (by rw [written.pending_length]; omega) [] false
  rw [joined] at run
  simp only [List.nil_append] at loop stop
  unfold feedResult
  rw [room]
  simp only [Bool.false_eq_true, ↓reduceIte, loop]
  split
  · next invalid =>
    rw [invalid.1] at run stop
    exact ⟨final, _, rfl, kept, run, stop⟩
  · split
    · next none =>
      rw [none] at run stop
      exact ⟨final, _, rfl, kept, run, stop⟩
    · exact ⟨final, _, rfl, kept, run, stop⟩

/-- A feed that leaves the scanner waiting where it stood is reported as buffered. -/
theorem feedResult_buffered (valid : decoder.Valid) (room : decoder.refuses bytes = false)
    (waits : frameParts (decoder.pending ++ bytes) = .ok none) :
    ∃ final, decoder.feedResult vesc bytes = (final, .ok .buffered) ∧ final.Valid ∧
      final.pending = decoder.pending ++ bytes := by
  obtain ⟨written, joined⟩ := valid.compact_write room
  refine ⟨decoder.compact.write bytes, ?_, written, joined⟩
  have stays : ∀ fuel, (decoder.compact.write bytes).feedLoop vesc fuel [] false =
      (decoder.compact.write bytes, .ok ([], false)) := by
    intro fuel
    cases fuel with
    | zero => rfl
    | succ fuel =>
      have slice : byteSlice (decoder.compact.write bytes).buffer (decoder.compact.write bytes).readPosition
          (decoder.compact.write bytes).writePosition = some (decoder.pending ++ bytes) := by
        rw [byteSlice, if_pos ⟨written.ordered, by rw [written.sized]; exact written.bounded⟩, ← joined, pending]
      rw [feedLoop]
      simp [slice, frameLen, waits, Except.map]
  simp [feedResult, room, stays]

theorem feedResult_valid (valid : decoder.Valid) (bytes : List Byte) : (decoder.feedResult vesc bytes).1.Valid := by
  cases refused : decoder.refuses bytes with
  | true =>
    unfold feedResult
    rw [refused]
    exact valid.compact.1
  | false =>
    obtain ⟨final, result, same, kept, -⟩ := feedResult_accepted vesc valid refused
    rw [same]
    exact kept

theorem feedAll_valid (valid : decoder.Valid) (chunks : List (List Byte)) :
    (decoder.feedAll vesc chunks).1.Valid := by
  induction chunks generalizing decoder with
  | nil => exact valid
  | cons chunk chunks ih => exact ih (feedResult_valid vesc valid chunk)

theorem feedAll_advance (valid : decoder.Valid) (accepted : decoder.Accepts vesc chunks) :
    vesc.scanner.Advance (decoder.pending ++ chunks.flatten) (decoder.feedAll vesc chunks).2
      (decoder.feedAll vesc chunks).1.pending := by
  induction chunks generalizing decoder with
  | nil => simpa [feedAll] using Scanner.Advance.refl decoder.pending
  | cons chunk chunks ih =>
    obtain ⟨room, rest⟩ := accepted
    obtain ⟨fed, result, same, kept, run, -⟩ := feedResult_accepted vesc valid room
    rw [same] at rest
    simp only [feedAll, same, List.flatten_cons, ← List.append_assoc]
    exact (run.append chunks.flatten).trans (ih kept rest)

private theorem refuses_nil (decoder : VescReadOnlyStreamDecoder) : decoder.refuses [] = false := by
  simp [refuses]

/-- Empty feeds end with a waiting scanner: every one that replies consumes buffered bytes. -/
theorem drain_advance (valid : decoder.Valid) (fuel : Nat) (enough : decoder.pending.length < fuel) :
    vesc.scanner.Advance decoder.pending (decoder.drain vesc fuel).2 (decoder.drain vesc fuel).1.pending ∧
      vesc.scanner.Stuck (decoder.drain vesc fuel).1.pending := by
  induction fuel generalizing decoder with
  | zero => omega
  | succ fuel ih =>
    obtain ⟨fed, result, same, kept, run, stop⟩ := feedResult_accepted vesc valid (refuses_nil decoder)
    rw [List.append_nil] at run
    simp only [drain, same]
    cases replied : feedReplies result with
    | nil =>
      rw [replied] at run stop
      exact ⟨run, stop.resolve_left (by simp [vescMaxStreamReplies])⟩
    | cons reply replies =>
      have shorter := run.length_lt (by rw [replied]; simp)
      obtain ⟨later, stuck⟩ := ih kept (by omega)
      rw [replied] at run
      exact ⟨run.trans later, stuck⟩

end VescReadOnlyStreamDecoder

open VescReadOnlyStreamDecoder

/-- Accepted chunks yield exactly the replies of one scan over the whole input. -/
theorem streamedReplies_eq_scan (vesc : VescCrate) (accepted : VescReadOnlyStreamDecoder.new.Accepts vesc chunks) :
    streamedReplies vesc chunks = (vesc.scanner.scan chunks.flatten).1 := by
  have kept := feedAll_valid vesc new_valid chunks
  have fed := feedAll_advance vesc new_valid accepted
  obtain ⟨drained, stuck⟩ := drain_advance vesc kept
    ((VescReadOnlyStreamDecoder.new.feedAll vesc chunks).1.writePosition + 1) (by rw [kept.pending_length]; omega)
  rw [new_pending, List.nil_append] at fed
  rw [(fed.trans drained).eq_scan stuck, streamedReplies]

/-- The replies of the stream decoder do not depend on the chunks: they are those of the left-to-right
scan that stops at an incomplete candidate. The positions stay ordered and inside the buffer after
every call, refused and empty ones included. -/
theorem stream_replies_independent_of_chunking (vesc : VescCrate) (bytes : List Byte)
    (left right : List (List Byte)) (leftWhole : left.flatten = bytes) (rightWhole : right.flatten = bytes)
    (leftAccepted : VescReadOnlyStreamDecoder.new.Accepts vesc left)
    (rightAccepted : VescReadOnlyStreamDecoder.new.Accepts vesc right) :
    streamedReplies vesc left = streamedReplies vesc right ∧
      streamedReplies vesc left = (vesc.scanner.scan bytes).1 ∧
      ∀ feeds, let decoder := (VescReadOnlyStreamDecoder.new.feedAll vesc feeds).1
        decoder.readPosition ≤ decoder.writePosition ∧ decoder.writePosition ≤ vescMaxFrameLen := by
  have leftScan := streamedReplies_eq_scan vesc leftAccepted
  have rightScan := streamedReplies_eq_scan vesc rightAccepted
  rw [leftWhole] at leftScan
  rw [rightWhole] at rightScan
  refine ⟨leftScan.trans rightScan.symm, leftScan, fun feeds => ?_⟩
  have kept := feedAll_valid vesc new_valid feeds
  exact ⟨kept.ordered, kept.bounded⟩

/-- A dependency that decodes and encodes nothing; typed replies never consult it. -/
def VescCrate.silent : VescCrate := ⟨fun _ => none, fun _ => none⟩

/-- The acknowledgement of a stored configuration: one command byte in a short frame. -/
def storedFrame : List Byte := [2, 1, 13, 209, 173, 3]

theorem stream_replies_of_split_acknowledgement :
    streamedReplies .silent [storedFrame] = [.configurationStored] ∧
      streamedReplies .silent [storedFrame] = streamedReplies .silent [[2, 1, 13], [], [209, 173, 3]] :=
  ⟨by decide +kernel,
    (stream_replies_independent_of_chunking .silent storedFrame [storedFrame] [[2, 1, 13], [], [209, 173, 3]]
      (by decide) (by decide) ⟨by decide +kernel, trivial⟩
      ⟨by decide +kernel, by decide +kernel, by decide +kernel, trivial⟩).1⟩

/-- The scan that also steps over an incomplete candidate, one byte at a time. -/
def steppingScan (vesc : VescCrate) : Nat → List Byte → List VescReadOnlyReply
  | 0, _ => []
  | fuel + 1, bytes =>
    if bytes = [] then []
    else match frameParts bytes with
      | .ok (some (_, _, length)) =>
        (vesc.decodeFrame (bytes.take length)).toOption.toList ++ steppingScan vesc fuel (bytes.drop length)
      | .ok none => steppingScan vesc fuel (bytes.drop 1)
      | .error _ => steppingScan vesc fuel (bytes.drop ((recoverableFrameLen bytes).getD 1))

/-- A header announcing more bytes than arrive holds back the frame behind it. -/
theorem stepping_scan_passes_waiting_candidate :
    VescReadOnlyStreamDecoder.new.Accepts .silent [[2, 200] ++ storedFrame] ∧
      streamedReplies .silent [[2, 200] ++ storedFrame] = [] ∧
      steppingScan .silent 8 ([2, 200] ++ storedFrame) = [.configurationStored] :=
  ⟨⟨by decide +kernel, trivial⟩, by decide +kernel, by decide +kernel⟩

end Cutout.Protocols
