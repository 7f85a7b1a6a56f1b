import Cutout.RefloatCodec
import Cutout.Library.Scanner
import Cutout.Proofs.SettingsFraming

/-! Framing of the Refloat stream. The bytes pass one at a time through a bounded buffer,
but what is handed on is what one scan of all bytes finds. The decoder is followed
together with the frames it hands on and with the two branches it must never take: giving
up the oldest byte of a full buffer, and asking for the header of something no frame
starts with. -/

namespace Cutout.Protocols
open Library
variable {buffer : List Byte}
variable {value : Option (List Byte)}

def startsFrame (byte : Byte) : Bool := decide (byte = vescFrameStartShort ∨ byte = vescFrameStartLong)

/-- `header_frame_len` with its `unreachable!` arm, which is `none` here. -/
def headerFrameLen : List Byte → Option (Except RefloatCodecError (Option Nat))
  | [] => some (refloatHeaderFrameLen [])
  | start :: rest => if startsFrame start then some (refloatHeaderFrameLen (start :: rest)) else none

/-- The decision of a left-to-right scan: one byte is skipped on a bad start, a bad length or a
bad terminator, and a whole frame is taken otherwise. -/
def refloatVerdict : List Byte → Verdict (List Byte)
  | [] => .wait
  | start :: rest =>
    if !startsFrame start then .take 1 none
    else match refloatHeaderFrameLen (start :: rest) with
      | .error _ => .take 1 none
      | .ok none => .wait
      | .ok (some frameLen) =>
        if (start :: rest).length < frameLen then .wait
        else if (start :: rest)[frameLen - 1]? ≠ some vescFrameEnd then .take 1 none
        else .take frameLen (some ((start :: rest).take frameLen))

theorem refloatHeaderFrameLen_some {frameLen : Nat} (header : refloatHeaderFrameLen buffer = .ok (some frameLen)) :
    6 ≤ frameLen ∧ frameLen ≤ refloatMaxFrameLen := by
  unfold refloatHeaderFrameLen at header
  dsimp only at header
  split at header
  · cases header
  next payloadLen extra announced =>
    have least : 5 ≤ extra := by
      split at announced
      · cases announced
      · split at announced
        · rw [Option.map_eq_some_iff] at announced
          obtain ⟨_, _, same⟩ := announced
          cases same
          omega
        · split at announced
          · cases announced
            omega
          · cases announced
    split at header
    · cases header
    · cases header
      omega

theorem refloatHeaderFrameLen_append (later : List Byte) (read : refloatHeaderFrameLen buffer ≠ .ok none) :
    refloatHeaderFrameLen (buffer ++ later) = refloatHeaderFrameLen buffer := by
  match buffer with
  | [] => exact absurd rfl read
  | [start] =>
    have unread : refloatHeaderFrameLen [start] = .ok none := by
      unfold refloatHeaderFrameLen
      by_cases short : start = vescFrameStartShort
      · simp only [short, if_true, List.head?_nil, Option.map_none]
      · simp only [if_neg short]
    exact absurd unread read
  | [start, second] =>
    by_cases short : start = vescFrameStartShort
    · simp only [refloatHeaderFrameLen, short, if_true, List.cons_append, List.head?_cons, Option.map_some]
    · have unread : refloatHeaderFrameLen [start, second] = .ok none := by
        simp only [refloatHeaderFrameLen, if_neg short]
      exact absurd unread read
  | start :: second :: third :: rest => rfl

private theorem refloatHeaderFrameLen_none_length (unread : refloatHeaderFrameLen buffer = .ok none) :
    buffer.length ≤ 2 := by
  match buffer with
  | [] => exact Nat.zero_le _
  | [_] => exact Nat.le_succ _
  | [_, _] => exact Nat.le_refl _
  | start :: second :: third :: rest =>
    unfold refloatHeaderFrameLen at unread
    simp only [List.head?_cons, Option.map_some] at unread
    by_cases short : start = vescFrameStartShort
    · simp only [if_pos short] at unread
      split at unread <;> cases unread
    · simp only [if_neg short] at unread
      split at unread <;> cases unread

private theorem refloatVerdict_take_bounds {length : Nat} (decision : refloatVerdict buffer = .take length value) :
    0 < length ∧ length ≤ buffer.length := by
  cases buffer with
  | nil => cases decision
  | cons start rest =>
    have one : 0 < 1 ∧ 1 ≤ (start :: rest).length := ⟨Nat.one_pos, Nat.succ_le_succ (Nat.zero_le _)⟩
    rw [refloatVerdict] at decision
    split at decision
    · cases decision
      exact one
    split at decision
    · cases decision
      exact one
    · cases decision
    next frameLen header =>
      split at decision
      · cases decision
      next complete =>
        split at decision
        · cases decision
          exact one
        · cases decision
          exact ⟨Nat.lt_of_lt_of_le (by decide) (refloatHeaderFrameLen_some header).1, Nat.le_of_not_lt complete⟩

private theorem refloatVerdict_take_stable {length : Nat} (later : List Byte)
    (decision : refloatVerdict buffer = .take length value) :
    refloatVerdict (buffer ++ later) = .take length value := by
  cases buffer with
  | nil => cases decision
  | cons start rest =>
    rw [refloatVerdict] at decision
    rw [List.cons_append, refloatVerdict]
    split at decision
    next garbage =>
      rw [if_pos garbage]
      exact decision
    next begins =>
      rw [if_neg begins, ← List.cons_append]
      split at decision
      next error header =>
        rw [refloatHeaderFrameLen_append later (by rw [header]; exact nofun), header]
        exact decision
      · cases decision
      next frameLen header =>
        rw [refloatHeaderFrameLen_append later (by rw [header]; exact nofun), header]
        have positive := (refloatHeaderFrameLen_some header).1
        split at decision
        · cases decision
        next complete =>
          have inside : frameLen ≤ (start :: rest).length := Nat.le_of_not_lt complete
          have still : ¬((start :: rest) ++ later).length < frameLen := by
            rw [List.length_append]
            omega
          dsimp only
          rw [if_neg still, List.getElem?_append_left (by omega), List.take_append_of_le_length inside]
          exact decision

def refloatScanner : Scanner Byte (List Byte) where
  next := refloatVerdict
  take_bounds := refloatVerdict_take_bounds
  take_stable := refloatVerdict_take_stable

namespace RefloatStreamDecoder
variable {buffer : List Byte}
variable (decoder : RefloatStreamDecoder)

/-- What the buffer looks like between calls: nothing, or the beginning of a frame that lacks bytes. -/
structure Framed (buffer : List Byte) : Prop where
  starts : ∀ start rest, buffer = start :: rest → startsFrame start = true
  lacking : ∀ frameLen, refloatHeaderFrameLen buffer = .ok (some frameLen) →
    buffer.length < frameLen ∧ frameLen ≤ refloatMaxFrameLen
  readable : ∀ error, refloatHeaderFrameLen buffer ≠ .error error

theorem framed_of_stuck (stuck : refloatScanner.Stuck buffer) : Framed buffer := by
  have waits : refloatVerdict buffer = .wait := stuck
  cases buffer with
  | nil => exact ⟨nofun, nofun, nofun⟩
  | cons start rest =>
    rw [refloatVerdict] at waits
    split at waits
    · cases waits
    next begins =>
      have starts : startsFrame start = true := by
        rw [Bool.not_eq_true', Bool.not_eq_false] at begins
        exact begins
      refine ⟨?_, ?_, ?_⟩
      · intro first others same
        cases same
        exact starts
      · intro frameLen header
        rw [header] at waits
        dsimp only at waits
        split at waits
        next short => exact ⟨short, (refloatHeaderFrameLen_some header).2⟩
        · split at waits <;> cases waits
      · intro error header
        rw [header] at waits
        cases waits

theorem Framed.stuck (framed : Framed buffer) : refloatScanner.Stuck buffer := by
  cases buffer with
  | nil => exact Scanner.next_nil
  | cons start rest =>
    change refloatVerdict (start :: rest) = .wait
    rw [refloatVerdict, framed.starts start rest rfl]
    simp only [Bool.not_true, Bool.false_eq_true, if_false]
    split
    next error header => exact absurd header (framed.readable error)
    · rfl
    next frameLen header => rw [if_pos (framed.lacking frameLen header).1]

theorem Framed.length_lt (framed : Framed buffer) : buffer.length < refloatMaxFrameLen := by
  cases header : refloatHeaderFrameLen buffer with
  | error error => exact absurd header (framed.readable error)
  | ok read =>
    cases read with
    | none => exact Nat.lt_of_le_of_lt (refloatHeaderFrameLen_none_length header) (by decide)
    | some frameLen =>
      obtain ⟨lacking, bounded⟩ := framed.lacking frameLen header
      exact Nat.lt_of_lt_of_le lacking bounded

theorem Framed.header (framed : Framed buffer) : headerFrameLen buffer = some (refloatHeaderFrameLen buffer) := by
  cases buffer with
  | nil => rfl
  | cons start rest => exact if_pos (framed.starts start rest rfl)

/-- The garbage that `take_next_frame` drops first. -/
def skipGarbage (buffer : List Byte) : List Byte :=
  buffer.dropWhile fun byte => byte ≠ vescFrameStartShort ∧ byte ≠ vescFrameStartLong

theorem skipGarbage_start {byte : Byte} (begins : startsFrame byte = true) (buffer : List Byte) :
    skipGarbage (byte :: buffer) = byte :: buffer := by
  apply List.dropWhile_cons_of_neg
  have either := of_decide_eq_true begins
  simp only [decide_eq_true_eq]
  tauto

theorem skipGarbage_garbage {byte : Byte} (garbage : startsFrame byte = false) (buffer : List Byte) :
    skipGarbage (byte :: buffer) = skipGarbage buffer := by
  apply List.dropWhile_cons_of_pos
  exact decide_eq_true (not_or.mp (of_decide_eq_false garbage))

theorem skipGarbage_starts (buffer : List Byte) :
    skipGarbage buffer = [] ∨ ∃ start rest, skipGarbage buffer = start :: rest ∧ startsFrame start = true := by
  induction buffer with
  | nil => exact .inl rfl
  | cons byte buffer ih =>
    cases begins : startsFrame byte with
    | true => exact .inr ⟨byte, buffer, skipGarbage_start begins buffer, begins⟩
    | false =>
      rw [skipGarbage_garbage begins]
      exact ih

private theorem skipGarbage_header (buffer : List Byte) :
    headerFrameLen (skipGarbage buffer) = some (refloatHeaderFrameLen (skipGarbage buffer)) := by
  rcases skipGarbage_starts buffer with empty | ⟨start, rest, same, begins⟩
  · rw [empty]
    rfl
  · rw [same]
    exact if_pos begins

private theorem skipGarbage_advance (buffer : List Byte) : refloatScanner.Advance buffer [] (skipGarbage buffer) := by
  induction buffer with
  | nil => exact .refl _
  | cons byte buffer ih =>
    cases begins : startsFrame byte with
    | true =>
      rw [skipGarbage_start begins]
      exact .refl _
    | false =>
      have decision : refloatScanner.next (byte :: buffer) = .take 1 none := by
        change refloatVerdict (byte :: buffer) = _
        rw [refloatVerdict, begins]
        rfl
      rw [skipGarbage_garbage begins]
      exact .take decision ih

/-- What `take_next_frame` does once the garbage is gone. -/
def takeFramed (buffer : List Byte) : List Byte × Except RefloatCodecError (Option (List Byte)) :=
  match refloatHeaderFrameLen buffer with
  | .error error => (buffer.drop 1, .error error)
  | .ok none => (buffer, .ok none)
  | .ok (some frameLen) =>
    if buffer.length < frameLen then (buffer, .ok none)
    else if buffer[frameLen - 1]? ≠ some vescFrameEnd then (buffer.drop 1, .error .malformedFrame)
    else (buffer.drop frameLen, .ok (some (buffer.take frameLen)))

private theorem takeNextFrame_eq (buffer : List Byte) : takeNextFrame buffer = takeFramed (skipGarbage buffer) := rfl

/-- What `take_next_frame` leaves, as decisions of the scan. -/
inductive Taken (buffer : List Byte) : List Byte × Except RefloatCodecError (Option (List Byte)) → Prop where
  | waits {left} (run : refloatScanner.Advance buffer [] left) (stuck : refloatScanner.Stuck left) :
      Taken buffer (left, .ok none)
  | skips {left error} (run : refloatScanner.Advance buffer [] left) (shorter : left.length < buffer.length) :
      Taken buffer (left, .error error)
  | takes {left frame} (run : refloatScanner.Advance buffer [frame] left) (shorter : left.length < buffer.length) :
      Taken buffer (left, .ok (some frame))

private theorem takeFramed_taken {start : Byte} {rest : List Byte} (begins : startsFrame start = true) :
    Taken (start :: rest) (takeFramed (start :: rest)) := by
  have verdict : refloatScanner.next (start :: rest) = refloatVerdict (start :: rest) := rfl
  have dropped : ((start :: rest).drop 1).length < (start :: rest).length := Nat.lt_succ_self _
  rw [refloatVerdict, begins] at verdict
  simp only [Bool.not_true, Bool.false_eq_true, if_false] at verdict
  unfold takeFramed
  cases header : refloatHeaderFrameLen (start :: rest) with
  | error error =>
    rw [header] at verdict
    exact .skips (.take verdict (.refl _)) dropped
  | ok read =>
    cases read with
    | none =>
      rw [header] at verdict
      exact .waits (.refl _) verdict
    | some frameLen =>
      rw [header] at verdict
      dsimp only at verdict ⊢
      by_cases short : (start :: rest).length < frameLen
      · rw [if_pos short] at verdict ⊢
        exact .waits (.refl _) verdict
      · rw [if_neg short] at verdict ⊢
        by_cases unterminated : (start :: rest)[frameLen - 1]? ≠ some vescFrameEnd
        · rw [if_pos unterminated] at verdict ⊢
          exact .skips (.take verdict (.refl _)) dropped
        · rw [if_neg unterminated] at verdict ⊢
          refine .takes (.take verdict (.refl _)) ?_
          have positive := (refloatHeaderFrameLen_some header).1
          rw [List.length_drop]
          omega

private theorem takeNextFrame_taken (buffer : List Byte) : Taken buffer (takeNextFrame buffer) := by
  have advanced := skipGarbage_advance buffer
  have shorter := advanced.length_le
  rw [takeNextFrame_eq]
  rcases skipGarbage_starts buffer with empty | ⟨start, rest, same, begins⟩
  · rw [empty] at advanced ⊢
    exact .waits advanced Scanner.next_nil
  · rw [same] at advanced shorter ⊢
    have taken := @takeFramed_taken start rest begins
    generalize takeFramed (start :: rest) = result at taken ⊢
    cases taken with
    | waits run stuck => exact .waits (advanced.trans run) stuck
    | skips run less => exact .skips (advanced.trans run) (Nat.lt_of_lt_of_le less shorter)
    | takes run less => exact .takes (advanced.trans run) (Nat.lt_of_lt_of_le less shorter)

/-- A decoder in the middle of a feed, with the frames handed to `decode_frame` so far. -/
structure Trace where
  decoder : RefloatStreamDecoder
  progress : Progress := {}
  frames : List (List Byte) := []

/-- `decode_pending` with the frames it hands on; it is `none` where `header_frame_len` would panic. -/
def tracePending : Nat → Trace → Option Trace
  | 0, trace => some trace
  | fuel + 1, trace =>
    (headerFrameLen (skipGarbage trace.decoder.buffer)).bind fun _ =>
      match takeNextFrame trace.decoder.buffer with
      | (buffer, .ok none) => some { trace with decoder := { trace.decoder with buffer } }
      | (buffer, .error error) =>
        tracePending fuel { trace with decoder := { trace.decoder with buffer }, progress := trace.progress.fail error }
      | (buffer, .ok (some frame)) =>
        match decodeFrame trace.decoder.fieldIds frame with
        | .ok (reply, fieldIds) =>
          tracePending fuel ⟨{ buffer, fieldIds }, { trace.progress with replies := trace.progress.replies ++ [reply] },
            trace.frames ++ [frame]⟩
        | .error error =>
          tracePending fuel ⟨{ trace.decoder with buffer },
            if isForeignFrame error then trace.progress else trace.progress.fail error, trace.frames ++ [frame]⟩

/-- One byte of a feed; it is `none` where a full buffer would give up its oldest byte. -/
def traceByte (trace : Trace) (byte : Byte) : Option Trace :=
  if refloatMaxFrameLen ≤ trace.decoder.buffer.length then none
  else tracePending (trace.decoder.buffer.length + 2)
    { trace with decoder := { trace.decoder with buffer := trace.decoder.buffer ++ [byte] } }

def traceFeed (decoder : RefloatStreamDecoder) (bytes : List Byte) : Option Trace :=
  (bytes.foldlM traceByte { decoder }).bind fun fed => tracePending (fed.decoder.buffer.length + 1) fed

def outcome (progress : Progress) : List RefloatReply × Except RefloatCodecError RefloatStreamResult :=
  match progress.replies, progress.firstError with
  | [], some error => ([], .error error)
  | [], none => ([], .ok .buffered)
  | replies, firstError => (replies, .ok (.replies replies.length firstError.isSome))

/-- Calls in sequence, with everything they handed on; `none` where one of them leaves its course. -/
def traceFeeds : RefloatStreamDecoder → List (List Byte) → Option (RefloatStreamDecoder × List (List Byte))
  | decoder, [] => some (decoder, [])
  | decoder, chunk :: chunks =>
    (traceFeed decoder chunk).bind fun fed =>
      (traceFeeds fed.decoder chunks).map fun (final, frames) => (final, fed.frames ++ frames)

def feeds (decoder : RefloatStreamDecoder) (chunks : List (List Byte)) : RefloatStreamDecoder :=
  chunks.foldl (fun decoder chunk => (decoder.feedResult chunk).1) decoder

/-- A loop that has enough rounds scans the buffer until it waits, and is the source's loop. -/
theorem tracePending_spec (fuel : Nat) (trace : Trace) (enough : trace.decoder.buffer.length < fuel) :
    ∃ decoder progress frames, tracePending fuel trace = some ⟨decoder, progress, trace.frames ++ frames⟩ ∧
      decodePending fuel trace.decoder trace.progress = (decoder, progress) ∧
      refloatScanner.Advance trace.decoder.buffer frames decoder.buffer ∧ refloatScanner.Stuck decoder.buffer := by
  induction fuel generalizing trace with
  | zero => omega
  | succ fuel ih =>
    have taken := takeNextFrame_taken trace.decoder.buffer
    rw [tracePending, decodePending, skipGarbage_header, Option.bind_some]
    generalize takeNextFrame trace.decoder.buffer = result at taken ⊢
    cases taken with
    | @waits left run stuck =>
      refine ⟨{ trace.decoder with buffer := left }, trace.progress, [], ?_, rfl, run, stuck⟩
      rw [List.append_nil]
    | @skips left error run shorter =>
      obtain ⟨decoder, progress, frames, traced, same, later, stuck⟩ :=
        ih ⟨{ trace.decoder with buffer := left }, trace.progress.fail error, trace.frames⟩ (by dsimp only; omega)
      exact ⟨decoder, progress, frames, traced, same, run.trans later, stuck⟩
    | @takes left frame run shorter =>
      dsimp only
      cases decoded : decodeFrame trace.decoder.fieldIds frame with
      | ok answer =>
        obtain ⟨reply, fieldIds⟩ := answer
        obtain ⟨decoder, progress, frames, traced, same, later, stuck⟩ :=
          ih ⟨{ buffer := left, fieldIds }, { trace.progress with replies := trace.progress.replies ++ [reply] },
            trace.frames ++ [frame]⟩ (by dsimp only; omega)
        refine ⟨decoder, progress, frame :: frames, ?_, same, run.trans later, stuck⟩
        refine traced.trans ?_
        rw [List.append_assoc]
        rfl
      | error error =>
        obtain ⟨decoder, progress, frames, traced, same, later, stuck⟩ :=
          ih ⟨{ trace.decoder with buffer := left },
            if isForeignFrame error then trace.progress else trace.progress.fail error, trace.frames ++ [frame]⟩
            (by dsimp only; omega)
        refine ⟨decoder, progress, frame :: frames, ?_, same, run.trans later, stuck⟩
        refine traced.trans ?_
        rw [List.append_assoc]
        rfl

/-- One byte on a waiting buffer: there is room for it, and the scan goes on behind it. -/
theorem traceByte_spec (trace : Trace) (stuck : refloatScanner.Stuck trace.decoder.buffer) (byte : Byte) :
    ∃ decoder progress frames, traceByte trace byte = some ⟨decoder, progress, trace.frames ++ frames⟩ ∧
      feedByte (trace.decoder, trace.progress) byte = (decoder, progress) ∧
      refloatScanner.Advance (trace.decoder.buffer ++ [byte]) frames decoder.buffer ∧
      refloatScanner.Stuck decoder.buffer := by
  have room : ¬refloatMaxFrameLen ≤ trace.decoder.buffer.length := Nat.not_le_of_lt (framed_of_stuck stuck).length_lt
  have length : (trace.decoder.buffer ++ [byte]).length = trace.decoder.buffer.length + 1 := by simp
  obtain ⟨decoder, progress, frames, traced, same, later, waits⟩ := tracePending_spec (trace.decoder.buffer.length + 2)
    { trace with decoder := { trace.decoder with buffer := trace.decoder.buffer ++ [byte] } } (by dsimp only; omega)
  refine ⟨decoder, progress, frames, ?_, ?_, later, waits⟩
  · rw [traceByte, if_neg room]
    exact traced
  · simp only [feedByte, room, decide_false, Bool.false_eq_true, if_false, length]
    exact same

private theorem traceBytes_spec (trace : Trace) (stuck : refloatScanner.Stuck trace.decoder.buffer) (bytes : List Byte) :
    ∃ decoder progress frames, bytes.foldlM traceByte trace = some ⟨decoder, progress, trace.frames ++ frames⟩ ∧
      bytes.foldl feedByte (trace.decoder, trace.progress) = (decoder, progress) ∧
      refloatScanner.Advance (trace.decoder.buffer ++ bytes) frames decoder.buffer ∧
      refloatScanner.Stuck decoder.buffer := by
  induction bytes generalizing trace with
  | nil =>
    refine ⟨trace.decoder, trace.progress, [], ?_, rfl, ?_, stuck⟩
    · rw [List.append_nil]
      rfl
    · rw [List.append_nil]
      exact .refl _
  | cons byte bytes ih =>
    obtain ⟨decoder, progress, first, traced, same, run, waits⟩ := traceByte_spec trace stuck byte
    obtain ⟨final, reached, second, tracedLater, sameLater, runLater, waitsLater⟩ :=
      ih ⟨decoder, progress, trace.frames ++ first⟩ waits
    refine ⟨final, reached, first ++ second, ?_, ?_, ?_, waitsLater⟩
    · rw [List.foldlM_cons, traced]
      exact tracedLater.trans (by rw [List.append_assoc])
    · rw [List.foldl_cons, same]
      exact sameLater
    · have joined := (run.append bytes).trans runLater
      rw [List.append_assoc] at joined
      exact joined

private theorem feedResult_outcome (bytes : List Byte) : decoder.feedResult bytes =
      let fed := bytes.foldl feedByte (decoder, {})
      let done := decodePending (fed.1.buffer.length + 1) fed.1 fed.2
      (done.1, outcome done.2) := by
  unfold feedResult
  dsimp only
  generalize decodePending _ _ _ = done
  obtain ⟨after, replies, firstError⟩ := done
  cases replies with
  | nil => cases firstError <;> rfl
  | cons => rfl

/-- A feed on a waiting buffer keeps its course and is one scan of the buffer and the bytes. -/
theorem traceFeed_spec (stuck : refloatScanner.Stuck decoder.buffer) (bytes : List Byte) :
    ∃ fed, traceFeed decoder bytes = some fed ∧ decoder.feedResult bytes = (fed.decoder, outcome fed.progress) ∧
      refloatScanner.Advance (decoder.buffer ++ bytes) fed.frames fed.decoder.buffer ∧
      refloatScanner.Stuck fed.decoder.buffer := by
  obtain ⟨middle, progress, first, traced, same, run, waits⟩ := traceBytes_spec { decoder } stuck bytes
  obtain ⟨final, reached, second, tracedLater, sameLater, runLater, waitsLater⟩ :=
    tracePending_spec (middle.buffer.length + 1) ⟨middle, progress, [] ++ first⟩ (Nat.lt_succ_self _)
  refine ⟨⟨final, reached, [] ++ first ++ second⟩, ?_, ?_, ?_, waitsLater⟩
  · rw [traceFeed, traced]
    exact tracedLater
  · rw [feedResult_outcome]
    dsimp only at same sameLater ⊢
    rw [same, sameLater]
  · exact run.trans runLater

private theorem traceFeeds_spec (stuck : refloatScanner.Stuck decoder.buffer) (chunks : List (List Byte)) :
    ∃ frames, traceFeeds decoder chunks = some (feeds decoder chunks, frames) ∧
      refloatScanner.Advance (decoder.buffer ++ chunks.flatten) frames (feeds decoder chunks).buffer ∧
      refloatScanner.Stuck (feeds decoder chunks).buffer := by
  induction chunks generalizing decoder with
  | nil =>
    refine ⟨[], rfl, ?_, stuck⟩
    rw [List.flatten_nil, List.append_nil]
    exact .refl _
  | cons chunk chunks ih =>
    obtain ⟨fed, traced, same, run, waits⟩ := traceFeed_spec decoder stuck chunk
    obtain ⟨frames, tracedLater, runLater, waitsLater⟩ := ih fed.decoder waits
    have rest : feeds decoder (chunk :: chunks) = feeds fed.decoder chunks := by
      rw [feeds, List.foldl_cons, same]
      rfl
    rw [rest]
    refine ⟨fed.frames ++ frames, ?_, ?_, waitsLater⟩
    · rw [traceFeeds, traced, Option.bind_some, tracedLater]
      rfl
    · rw [List.flatten_cons, ← List.append_assoc]
      exact (run.append chunks.flatten).trans runLater

private theorem encodeCustomAppFrame_layout {appData frame : List Byte} (encoded : encodeCustomAppFrame appData = .ok frame) :
    (vescCommCustomAppData :: appData).length < 256 ∧
      frame = vescFrameStartShort :: UInt8.ofNat (vescCommCustomAppData :: appData).length ::
        ((vescCommCustomAppData :: appData) ++ u16ToBe (crc16Xmodem (vescCommCustomAppData :: appData)) ++ [vescFrameEnd]) := by
  unfold encodeCustomAppFrame at encoded
  dsimp only at encoded
  split at encoded
  next fits =>
    cases encoded
    refine ⟨fits, ?_⟩
    simp only [List.cons_append, List.nil_append, List.append_assoc]
  · cases encoded

private theorem encodeCustomAppFrame_scan {appData frame : List Byte} (encoded : encodeCustomAppFrame appData = .ok frame) :
    refloatScanner.scan frame = ([frame], []) ∧
      framePayload frame = .ok (vescCommCustomAppData :: appData) := by
  obtain ⟨fits, layout⟩ := encodeCustomAppFrame_layout encoded
  generalize custom : vescCommCustomAppData :: appData = payload at fits layout ⊢
  have nonempty : 0 < payload.length := by
    rw [← custom]
    exact Nat.succ_pos _
  have announced : (UInt8.ofNat payload.length).toNat = payload.length := by
    rw [UInt8.toNat_ofNat']
    omega
  have length : frame.length = payload.length + 5 := by
    rw [layout]
    simp only [List.length_cons, List.length_append, u16ToBe, List.length_nil]
  have header : refloatHeaderFrameLen frame = .ok (some (payload.length + 5)) := by
    rw [layout]
    unfold refloatHeaderFrameLen
    simp only [if_true, List.head?_cons, Option.map_some, announced]
    rw [if_neg]
    unfold refloatMaxFrameLen
    omega
  have terminated : frame[payload.length + 4]? = some vescFrameEnd := by
    have last : frame = (vescFrameStartShort :: UInt8.ofNat payload.length :: (payload ++ u16ToBe (crc16Xmodem payload))) ++
        [vescFrameEnd] := by
      rw [layout]
      simp only [List.cons_append]
    rw [last, List.getElem?_append_right]
    · simp [u16ToBe]
    · simp [u16ToBe]
  have decision : refloatScanner.next frame = .take (payload.length + 5) (some frame) := by
    change refloatVerdict frame = _
    have begins : startsFrame vescFrameStartShort = true := by decide
    have whole : frame.take (payload.length + 5) = frame := List.take_of_length_le (Nat.le_of_eq length)
    rw [layout] at header whole terminated length ⊢
    rw [refloatVerdict, begins, header]
    simp only [Bool.not_true, Bool.false_eq_true, if_false, length, Nat.lt_irrefl]
    rw [show payload.length + 5 - 1 = payload.length + 4 from rfl, terminated, if_neg (not_not_intro rfl), whole]
  have drained : frame.drop (payload.length + 5) = [] := List.drop_eq_nil_of_le (Nat.le_of_eq length)
  refine ⟨?_, ?_⟩
  · have run := Scanner.Advance.one decision
    rw [drained] at run
    exact run.eq_scan Scanner.next_nil
  · have body : (frame.drop 2).take payload.length = payload := by
      rw [layout]
      simp only [List.drop_succ_cons, List.drop_zero, List.append_assoc]
      exact List.take_left
    have checksum : (frame.drop (2 + payload.length)).take 2 = u16ToBe (crc16Xmodem payload) := by
      rw [layout, Nat.add_comm, List.drop_succ_cons, List.drop_succ_cons, List.append_assoc, List.drop_left]
      rfl
    unfold framePayload
    rw [layout]
    simp only [if_true, announced]
    rw [← layout]
    have long : ¬frame.length < 2 + payload.length + 2 := by omega
    have read := unsignedFromBe_u16ToBe (crc16Xmodem_lt payload)
    simp only [pure_bind, bind_pure_comp, long, if_false, body, checksum, read, ne_eq, not_true_eq_false]
    rfl

/-- Framing of the stream. However the bytes are cut into calls, every call keeps its course: no full
buffer gives up a byte and no header is asked of something that starts no frame, neither in the loop
nor by `pending_frame_bytes` afterwards. Between calls the buffer is empty or an incomplete frame
that fits, the frames handed to `decode_frame` are those of one scan of all bytes, and an encoded
application frame is handed on as it is. -/
theorem refloat_stream_framing (fieldIds : Option RefloatRealtimeFieldIds) :
    (∀ chunks : List (List Byte),
      let decoder := feeds { buffer := [], fieldIds } chunks
      Framed decoder.buffer ∧ headerFrameLen decoder.buffer = some (refloatHeaderFrameLen decoder.buffer) ∧
        traceFeeds { buffer := [], fieldIds } chunks = some (decoder, (refloatScanner.scan chunks.flatten).1) ∧
        decoder.buffer = (refloatScanner.scan chunks.flatten).2) ∧
    (∀ decoder bytes fed, Framed decoder.buffer → traceFeed decoder bytes = some fed →
      decoder.feedResult bytes = (fed.decoder, outcome fed.progress)) ∧
    ∀ appData frame, encodeCustomAppFrame appData = .ok frame →
      framePayload frame = .ok (vescCommCustomAppData :: appData) ∧
      ∃ fed, traceFeed { buffer := [], fieldIds } frame = some fed ∧ fed.frames = [frame] ∧ fed.decoder.buffer = [] := by
  have idle : refloatScanner.Stuck [] := Scanner.next_nil
  refine ⟨?_, ?_, ?_⟩
  · intro chunks decoder
    obtain ⟨frames, traced, run, stuck⟩ := traceFeeds_spec { buffer := [], fieldIds } idle chunks
    have framed : Framed decoder.buffer := framed_of_stuck stuck
    rw [List.nil_append] at run
    rw [run.eq_scan stuck]
    exact ⟨framed, framed.header, traced, rfl⟩
  · intro decoder bytes fed framed traced
    obtain ⟨known, same, result, -⟩ := traceFeed_spec decoder framed.stuck bytes
    rw [traced] at same
    cases same
    exact result
  · intro appData frame encoded
    obtain ⟨scanned, payload⟩ := encodeCustomAppFrame_scan encoded
    obtain ⟨fed, traced, -, run, stuck⟩ := traceFeed_spec { buffer := [], fieldIds } idle frame
    rw [List.nil_append] at run
    have whole := run.eq_scan stuck
    rw [scanned] at whole
    exact ⟨payload, fed, traced, (congrArg Prod.fst whole).symm, (congrArg Prod.snd whole).symm⟩

end RefloatStreamDecoder

end Cutout.Protocols
