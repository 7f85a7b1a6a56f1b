import Cutout.Proofs.VescStream

/-! When repeating a frame brings its reply out of the streaming decoder. A chunk without room is
refused before a byte is consumed, so a decoder that refuses a frame refuses it for good. Which held
bytes let the frame through is decided by the lengths that their candidates announce and by the
bytes at which those candidates end. -/

namespace Cutout.Protocols
open Library
variable {reply : VescReadOnlyReply} {frame : List Byte} {vesc : VescCrate}

/-- A well-formed frame of at most 64 bytes and its reply. -/
structure SmallFrame (vesc : VescCrate) (frame : List Byte) (reply : VescReadOnlyReply) : Prop where
  framed : ∃ payloadStart payloadLen, frameParts frame = .ok (some (payloadStart, payloadLen, frame.length))
  small : frame.length ≤ 64
  decodes : vesc.decodeFrame frame = .ok reply

theorem SmallFrame.length_ge (small : SmallFrame vesc frame reply) : 5 ≤ frame.length := by
  obtain ⟨payloadStart, payloadLen, framed⟩ := small.framed
  have frameAt := frameParts_some_iff.mp framed
  have header := frameHeader_bounds frameAt.header
  have total := frameAt.total
  omega

section Reading
variable (held frame : List Byte)

/-- The byte at a place of the held bytes with copies of the frame behind them. -/
def upcoming (place : Nat) : Byte :=
  if place < held.length then held.getD place 0 else frame.getD ((place - held.length) % frame.length) 0

/-- The length of the candidate announced at a place, if a frame of that length is possible. -/
def candidateAt (place : Nat) : Option Nat :=
  match frameHeader [upcoming held frame place, upcoming held frame (place + 1), upcoming held frame (place + 2)] with
  | .ok (some (headerLen, payloadLen)) =>
    if headerLen + payloadLen + 3 ≤ vescMaxFrameLen then some (headerLen + payloadLen + 3) else none
  | _ => none

/-- The candidate at a place when it ends in a stop byte: right or wrong, it is consumed whole. -/
def wholeAt (place : Nat) : Option Nat :=
  (candidateAt held frame place).filter fun total => upcoming held frame (place + total - 1) = vescFrameEnd

/-- The place that reading has come to behind so many pieces, and how many of them were whole candidates. Any other
candidate gives up only its first byte. -/
def reading : Nat → Nat × Nat
  | 0 => (0, 0)
  | pieces + 1 =>
    let (place, passed) := reading pieces
    match wholeAt held frame place with
    | some total => (place + total, passed + 1)
    | none => (place + 1, passed)

/-- How many bytes at a place settle what is read there: the announced length, or the longest header. -/
def awaited (place : Nat) : Nat := (candidateAt held frame place).getD 3

/-- How many bytes have been written when copies of the frame have covered everything before a place. -/
def filled (place : Nat) : Nat :=
  held.length + (place - held.length + frame.length - 1) / frame.length * frame.length

/-- The held candidates let a frame through: reading comes to a place where the frame stands, and wherever it waits
before that, the copy that ends the waiting fits the buffer. A feed gives out at most four replies, so every four
candidates that are passed can cost one copy more. -/
structure LetsThrough (pieces : Nat) : Prop where
  stands : ∀ index < frame.length, upcoming held frame ((reading held frame pieces).1 + index) = frame.getD index 0
  first : held.length + ((reading held frame pieces).2 / 4 + 1) * frame.length ≤ vescMaxFrameLen
  room : ∀ earlier ≤ pieces, let place := (reading held frame earlier).1
    filled held frame (place + awaited held frame place) + (reading held frame pieces).2 / 4 * frame.length ≤
      place + vescMaxFrameLen

/-- The held bytes with so many copies of the frame. -/
def stream (copies : Nat) : List Byte := held ++ (List.replicate copies frame).flatten

variable {held frame : List Byte}

theorem stream_length (copies : Nat) : (stream held frame copies).length = held.length + copies * frame.length := by
  simp [stream]

theorem stream_add (copies more : Nat) :
    stream held frame (copies + more) = stream held frame copies ++ (List.replicate more frame).flatten := by
  rw [stream, List.replicate_add, List.flatten_append, ← List.append_assoc]
  rfl

theorem stream_succ (copies : Nat) : stream held frame (copies + 1) = stream held frame copies ++ frame := by
  rw [stream_add, List.replicate_one, List.flatten_singleton]

private theorem copies_getElem (copies : Nat) {index : Nat} (inside : index < copies * frame.length) :
    (List.replicate copies frame).flatten[index]? = some (frame.getD (index % frame.length) 0) := by
  induction copies generalizing index with
  | zero => omega
  | succ copies ih =>
    rw [Nat.succ_mul] at inside
    rw [List.replicate_succ, List.flatten_cons]
    by_cases first : index < frame.length
    · rw [List.getElem?_append_left first, Nat.mod_eq_of_lt first, List.getD_eq_getElem?_getD,
        List.getElem?_eq_getElem first, Option.getD_some]
    · rw [List.getElem?_append_right (by omega), ih (by omega), ← Nat.mod_eq_sub_mod (by omega)]

theorem stream_getElem {copies place : Nat} (inside : place < (stream held frame copies).length) :
    (stream held frame copies)[place]? = some (upcoming held frame place) := by
  rw [stream_length] at inside
  rw [stream, upcoming]
  split
  · next early =>
    rw [List.getElem?_append_left early, List.getD_eq_getElem?_getD, List.getElem?_eq_getElem early, Option.getD_some]
  · next late =>
    rw [List.getElem?_append_right (by omega), copies_getElem copies (by omega)]

theorem stream_drop {copies place : Nat} (inside : place < (stream held frame copies).length) :
    (stream held frame copies).drop place = upcoming held frame place :: (stream held frame copies).drop (place + 1) := by
  have here := stream_getElem inside
  rw [List.getElem?_eq_getElem inside] at here
  rw [List.drop_eq_getElem_cons inside, Option.some.inj here]

variable {vesc : VescCrate} {copies place total : Nat}

private theorem frameHeader_three (first second third : Byte) (later : List Byte) :
    frameHeader (first :: second :: third :: later) = frameHeader [first, second, third] := rfl

/-- With three bytes at a place, the header there is the one of the upcoming bytes. -/
theorem frameHeader_stream (inside : place + 3 ≤ (stream held frame copies).length) :
    frameHeader ((stream held frame copies).drop place) = frameHeader
      [upcoming held frame place, upcoming held frame (place + 1), upcoming held frame (place + 2)] := by
  rw [stream_drop (by omega), stream_drop (by omega), stream_drop (by omega), frameHeader_three]

theorem candidateAt_some (candidate : candidateAt held frame place = some total) :
    ∃ headerLen payloadLen, frameHeader [upcoming held frame place, upcoming held frame (place + 1),
      upcoming held frame (place + 2)] = .ok (some (headerLen, payloadLen)) ∧ total = headerLen + payloadLen + 3 ∧
      2 ≤ headerLen ∧ total ≤ vescMaxFrameLen := by
  unfold candidateAt at candidate
  split at candidate
  · next headerLen payloadLen header =>
    split at candidate
    · next possible =>
      cases candidate
      exact ⟨headerLen, payloadLen, header, rfl, (frameHeader_bounds header).1, possible⟩
    · cases candidate
  · cases candidate

theorem stream_last (positive : 0 < total) (inside : place + total ≤ (stream held frame copies).length) :
    ((stream held frame copies).drop place)[total - 1]? = some (upcoming held frame (place + total - 1)) := by
  rw [List.getElem?_drop, stream_getElem (by omega), Nat.add_sub_assoc positive]

private theorem recoverableFrameLen_of_header {bytes : List Byte} {headerLen payloadLen : Nat}
    (header : frameHeader bytes = .ok (some (headerLen, payloadLen))) : recoverableFrameLen bytes =
      if headerLen + payloadLen + 3 ≤ vescMaxFrameLen ∧ headerLen + payloadLen + 3 ≤ bytes.length ∧
        bytes[headerLen + payloadLen + 3 - 1]? = some vescFrameEnd then some (headerLen + payloadLen + 3) else none := by
  unfold recoverableFrameLen
  rw [header]

theorem frameParts_waits_iff {bytes : List Byte} {headerLen payloadLen : Nat}
    (header : frameHeader bytes = .ok (some (headerLen, payloadLen)))
    (possible : headerLen + payloadLen + 3 ≤ vescMaxFrameLen) :
    frameParts bytes = .ok none ↔ bytes.length < headerLen + payloadLen + 3 := by
  unfold frameParts
  rw [header]
  simp only
  rw [if_neg (by omega)]
  split_ifs <;> simp [*]

/-- A candidate that has arrived whole is consumed as its last byte says. -/
theorem next_of_candidate (candidate : candidateAt held frame place = some total)
    (inside : place + total ≤ (stream held frame copies).length) :
    ∃ value, vesc.scanner.next ((stream held frame copies).drop place) = .take ((wholeAt held frame place).getD 1) value ∧
      (wholeAt held frame place = none → value = none) := by
  obtain ⟨headerLen, payloadLen, header, rfl, long, possible⟩ := candidateAt_some candidate
  rw [← frameHeader_stream (show place + 3 ≤ (stream held frame copies).length by omega)] at header
  have arrived : headerLen + payloadLen + 3 ≤ ((stream held frame copies).drop place).length := by
    rw [List.length_drop]
    omega
  have last := stream_last (by omega) inside
  have verdict : vesc.scanner.next ((stream held frame copies).drop place) = vesc.verdict _ := rfl
  rw [verdict, VescCrate.verdict, wholeAt, candidate]
  by_cases stops : upcoming held frame (place + (headerLen + payloadLen + 3) - 1) = vescFrameEnd
  · rw [Option.filter_some, if_pos (by simpa using stops)]
    cases parts : frameParts ((stream held frame copies).drop place) with
    | error error =>
      refine ⟨none, ?_, fun _ => rfl⟩
      simp only
      rw [recoverableFrameLen_of_header header, if_pos ⟨possible, arrived, by rw [last, stops]⟩]
    | ok found =>
      cases found with
      | none => exact absurd arrived (Nat.not_le.mpr (frameParts_waits_iff header possible |>.mp parts))
      | some found =>
        obtain ⟨start, length, whole⟩ := found
        have framed := frameParts_some_iff.mp parts
        have same := framed.header
        rw [header, Except.ok.injEq, Option.some.injEq, Prod.mk.injEq] at same
        obtain ⟨rfl, rfl⟩ := same
        have total := framed.total
        subst total
        exact ⟨_, rfl, fun absent => by cases absent⟩
  · rw [Option.filter_some, if_neg (by simpa using stops)]
    have rejected : frameParts ((stream held frame copies).drop place) = .error .decodeFailed := by
      simp only [frameParts, header, last]
      rw [if_neg (by omega), if_neg (by omega), if_pos (by simpa using stops)]
    rw [rejected]
    refine ⟨none, ?_, fun _ => rfl⟩
    simp only
    rw [recoverableFrameLen_of_header header, if_neg (fun whole => stops (Option.some.inj (last.symm.trans whole.2.2)))]

private theorem frameHeader_three_ne_none (first second third : Byte) : frameHeader [first, second, third] ≠ .ok none := by
  simp only [frameHeader]
  split_ifs <;> simp

/-- Where there is no candidate, the first byte goes. -/
theorem next_of_garbage (garbage : candidateAt held frame place = none)
    (inside : place + 3 ≤ (stream held frame copies).length) :
    vesc.scanner.next ((stream held frame copies).drop place) = .take 1 none := by
  have header := frameHeader_stream inside
  have verdict : vesc.scanner.next ((stream held frame copies).drop place) = vesc.verdict _ := rfl
  unfold candidateAt at garbage
  rw [verdict, VescCrate.verdict, frameParts, recoverableFrameLen, header]
  split at garbage
  · next headerLen payloadLen known =>
    split at garbage
    · cases garbage
    · next impossible =>
      rw [known]
      simp only
      rw [if_pos (by omega), if_neg (by omega)]
      rfl
  · next other =>
    cases known : frameHeader
      [upcoming held frame place, upcoming held frame (place + 1), upcoming held frame (place + 2)] with
    | error error => rfl
    | ok found =>
      cases found with
      | some found => exact absurd known (other _ _)
      | none => exact absurd known (frameHeader_three_ne_none _ _ _)

theorem next_of_awaited (vesc : VescCrate) (inside : place + awaited held frame place ≤ (stream held frame copies).length) :
    ∃ value, vesc.scanner.next ((stream held frame copies).drop place) = .take ((wholeAt held frame place).getD 1) value ∧
      (wholeAt held frame place = none → value = none) := by
  unfold awaited at inside
  cases candidate : candidateAt held frame place with
  | some total =>
    rw [candidate] at inside
    exact next_of_candidate candidate inside
  | none =>
    rw [candidate] at inside
    refine ⟨none, ?_, fun _ => rfl⟩
    rw [next_of_garbage candidate inside, wholeAt, candidate]
    simp

theorem wholeAt_positive (whole : wholeAt held frame place = some total) : 0 < total := by
  obtain ⟨candidate, -⟩ := Option.filter_eq_some_iff.mp whole
  obtain ⟨headerLen, payloadLen, -, rfl, -⟩ := candidateAt_some candidate
  omega

theorem awaited_le (held frame : List Byte) (place : Nat) : awaited held frame place ≤ vescMaxFrameLen := by
  unfold awaited
  cases candidate : candidateAt held frame place with
  | none => decide
  | some total =>
    obtain ⟨-, -, -, -, -, possible⟩ := candidateAt_some candidate
    exact possible

/-- One piece on. -/
theorem reading_succ (held frame : List Byte) (pieces : Nat) :
    (reading held frame (pieces + 1)).1 = (reading held frame pieces).1 +
        (wholeAt held frame (reading held frame pieces).1).getD 1 ∧
      (reading held frame (pieces + 1)).2 = (reading held frame pieces).2 +
        if wholeAt held frame (reading held frame pieces).1 = none then 0 else 1 := by
  rw [reading]
  simp only
  split
  · next whole => rw [whole]; exact ⟨rfl, rfl⟩
  · next whole => rw [whole]; exact ⟨rfl, rfl⟩

theorem reading_lt (held frame : List Byte) (pieces : Nat) :
    (reading held frame pieces).1 < (reading held frame (pieces + 1)).1 := by
  rw [(reading_succ held frame pieces).1]
  cases whole : wholeAt held frame (reading held frame pieces).1 with
  | none => exact Nat.lt_succ_self _
  | some total =>
    have positive := wholeAt_positive whole
    rw [Option.getD_some]
    omega

theorem reading_mono (held frame : List Byte) {earlier later : Nat} (ordered : earlier ≤ later) :
    (reading held frame earlier).1 ≤ (reading held frame later).1 ∧
      (reading held frame earlier).2 ≤ (reading held frame later).2 := by
  induction ordered with
  | refl => exact ⟨Nat.le_refl _, Nat.le_refl _⟩
  | @step later _ ih =>
    have further := reading_lt held frame later
    have counted := (reading_succ held frame later).2
    rw [Nat.succ_eq_add_one]
    exact ⟨ih.1.trans (Nat.le_of_lt further), by omega⟩

/-- While fewer copies than a place needs have arrived, one more is still covered by what the place needs. -/
theorem le_filled (positive : 0 < frame.length) (short : held.length + copies * frame.length < place) :
    held.length + (copies + 1) * frame.length ≤ filled held frame place := by
  have enough : copies + 1 ≤ (place - held.length + frame.length - 1) / frame.length := by
    rw [Nat.le_div_iff_mul_le positive, Nat.succ_mul]
    omega
  exact Nat.add_le_add_left (Nat.mul_le_mul_right _ enough) _

/-- A frame that stands at a place is taken there. -/
theorem next_of_standing (small : SmallFrame vesc frame reply)
    (stands : ∀ index < frame.length, upcoming held frame (place + index) = frame.getD index 0)
    (inside : place + frame.length ≤ (stream held frame copies).length) :
    vesc.scanner.next ((stream held frame copies).drop place) = .take frame.length (some reply) := by
  have front : ((stream held frame copies).drop place).take frame.length = frame := by
    apply List.ext_getElem?
    intro index
    by_cases within : index < frame.length
    · rw [List.getElem?_take_of_lt within, List.getElem?_drop, stream_getElem (by omega), stands index within,
        List.getD_eq_getElem?_getD, List.getElem?_eq_getElem within, Option.getD_some]
    · rw [List.getElem?_eq_none (by rw [List.length_take]; omega), List.getElem?_eq_none (by omega)]
  obtain ⟨payloadStart, payloadLen, framed⟩ := small.framed
  have decision : vesc.scanner.next frame = .take frame.length (some reply) := by
    simp [VescCrate.scanner, VescCrate.verdict, framed, small.decodes, Except.toOption]
  rw [← List.take_append_drop frame.length ((stream held frame copies).drop place), front]
  exact vesc.scanner.take_stable _ decision

/-- Every run of the scanner over the stream stops at a piece of the reading, unless the reply has come out. -/
theorem advance_reading {values : List VescReadOnlyReply} {rest : List Byte} {pieces : Nat} (start : Nat)
    (small : SmallFrame vesc frame reply)
    (stands : ∀ index < frame.length, upcoming held frame ((reading held frame pieces).1 + index) = frame.getD index 0)
    (long : (reading held frame pieces).1 + vescMaxFrameLen ≤ (stream held frame copies).length)
    (early : start ≤ pieces)
    (run : vesc.scanner.Advance ((stream held frame copies).drop (reading held frame start).1) values rest) :
    reply ∈ values ∨ ∃ here, start ≤ here ∧ here ≤ pieces ∧
      rest = (stream held frame copies).drop (reading held frame here).1 ∧
      (reading held frame start).2 + values.length ≤ (reading held frame here).2 := by
  have bound := small.small
  have size : vescMaxFrameLen = 1024 := rfl
  generalize whole : (stream held frame copies).drop (reading held frame start).1 = input at run
  induction run generalizing start with
  | refl => exact .inr ⟨start, Nat.le_refl _, early, whole.symm, Nat.le_refl _⟩
  | @take input length value values rest decision _ ih =>
    subst whole
    by_cases last : start = pieces
    · subst last
      rw [next_of_standing small stands (by omega)] at decision
      cases decision
      exact .inl List.mem_cons_self
    · have before := (reading_mono held frame early).1
      have needs := awaited_le held frame (reading held frame start).1
      obtain ⟨found, taken, silent⟩ := next_of_awaited vesc
        (show (reading held frame start).1 + awaited held frame (reading held frame start).1 ≤
          (stream held frame copies).length by omega)
      rw [taken] at decision
      cases decision
      obtain ⟨further, counted⟩ := reading_succ held frame start
      have next := @ih (start + 1) (by omega) (by rw [List.drop_drop, further])
      rcases next with came | ⟨here, past, within, same, count⟩
      · exact .inl (List.mem_append_right _ came)
      · refine .inr ⟨here, by omega, within, same, ?_⟩
        rw [List.length_append]
        have given : value.toList.length ≤
            if wholeAt held frame (reading held frame start).1 = none then 0 else 1 := by
          split
          · next none => rw [silent none]; exact Nat.le_refl _
          · cases value <;> simp
        omega

end Reading

namespace VescReadOnlyStreamDecoder
variable {vesc : VescCrate} {decoder : VescReadOnlyStreamDecoder} {frame : List Byte} {reply : VescReadOnlyReply}

/-- The decoder behind `count` feeds of the frame. -/
def after (vesc : VescCrate) (decoder : VescReadOnlyStreamDecoder) (frame : List Byte) (count : Nat) :
    VescReadOnlyStreamDecoder := (decoder.feedAll vesc (List.replicate count frame)).1

/-- The replies of `count` feeds of the frame. -/
def repliesTo (vesc : VescCrate) (decoder : VescReadOnlyStreamDecoder) (frame : List Byte) (count : Nat) :
    List VescReadOnlyReply := (decoder.feedAll vesc (List.replicate count frame)).2

theorem feedAll_append (decoder : VescReadOnlyStreamDecoder) (first second : List (List Byte)) :
    decoder.feedAll vesc (first ++ second) = (((decoder.feedAll vesc first).1.feedAll vesc second).1,
      (decoder.feedAll vesc first).2 ++ ((decoder.feedAll vesc first).1.feedAll vesc second).2) := by
  induction first generalizing decoder with
  | nil => simp [feedAll]
  | cons chunk first ih => simp [feedAll, ih]

theorem after_add (count more : Nat) : decoder.after vesc frame (count + more) =
    (decoder.after vesc frame count).after vesc frame more := by
  rw [after, List.replicate_add, feedAll_append]
  rfl

theorem repliesTo_add (count more : Nat) : decoder.repliesTo vesc frame (count + more) =
    decoder.repliesTo vesc frame count ++ (decoder.after vesc frame count).repliesTo vesc frame more := by
  rw [repliesTo, List.replicate_add, feedAll_append]
  rfl

theorem after_succ (count : Nat) : decoder.after vesc frame (count + 1) =
    ((decoder.after vesc frame count).feedResult vesc frame).1 := after_add count 1

theorem repliesTo_succ (count : Nat) : decoder.repliesTo vesc frame (count + 1) =
    decoder.repliesTo vesc frame count ++ feedReplies ((decoder.after vesc frame count).feedResult vesc frame).2 := by
  rw [repliesTo_add]
  simp [repliesTo, feedAll]

section Valid
variable (valid : decoder.Valid)
include valid

theorem after_valid (count : Nat) : (decoder.after vesc frame count).Valid :=
  feedAll_valid vesc valid _

end Valid

/-- A decoder that has taken every copy so far has read to one of the pieces, and has room for the next copy and for
those that its batches can still cost. -/
structure ReadsTo (vesc : VescCrate) (decoder : VescReadOnlyStreamDecoder) (frame : List Byte) (pieces count here : Nat) :
    Prop where
  within : here ≤ pieces
  place : (reading decoder.pending frame here).1 ≤ (stream decoder.pending frame count).length
  pending : (decoder.after vesc frame count).pending =
    (stream decoder.pending frame count).drop (reading decoder.pending frame here).1
  run : vesc.scanner.Advance (stream decoder.pending frame count) (decoder.repliesTo vesc frame count)
    (decoder.after vesc frame count).pending
  passed : (decoder.repliesTo vesc frame count).length ≤ (reading decoder.pending frame here).2
  room : decoder.pending.length + (count + 1) * frame.length +
      ((reading decoder.pending frame pieces).2 / 4 - (decoder.repliesTo vesc frame count).length / 4) * frame.length ≤
    (reading decoder.pending frame here).1 + vescMaxFrameLen

variable {pieces count here : Nat}

theorem ReadsTo.start (through : LetsThrough decoder.pending frame pieces) :
    ReadsTo vesc decoder frame pieces 0 0 where
  within := Nat.zero_le _
  place := Nat.zero_le _
  pending := by simp [after, feedAll, stream, reading]
  run := by simpa [after, repliesTo, feedAll, stream] using Scanner.Advance.refl decoder.pending
  passed := Nat.le_refl _
  room := by
    have first := through.first
    rw [Nat.add_mul, Nat.one_mul] at first
    simp only [repliesTo, feedAll, List.replicate_zero, List.length_nil, Nat.zero_div, Nat.sub_zero, reading,
      Nat.zero_add, Nat.one_mul]
    omega

theorem ReadsTo.accepts (reads : ReadsTo vesc decoder frame pieces count here) :
    (decoder.after vesc frame count).pending.length + frame.length ≤ vescMaxFrameLen := by
  have room := reads.room
  have place := reads.place
  rw [reads.pending, List.length_drop]
  rw [stream_length] at place ⊢
  rw [Nat.succ_mul] at room
  omega

/-- The next copy brings the reply out or is read on to a further piece. -/
theorem ReadsTo.step (valid : decoder.Valid) (small : SmallFrame vesc frame reply)
    (through : LetsThrough decoder.pending frame pieces) (reads : ReadsTo vesc decoder frame pieces count here) :
    reply ∈ decoder.repliesTo vesc frame (count + 1) ∨ ∃ there, ReadsTo vesc decoder frame pieces (count + 1) there := by
  have positive : 0 < frame.length := Nat.lt_of_lt_of_le (by decide) small.length_ge
  have kept := @after_valid vesc decoder frame valid count
  obtain ⟨final, result, same, -, fed, stop⟩ :=
    feedResult_accepted vesc kept (kept.refuses_eq_false (by rw [List.length_append]; exact reads.accepts))
  have now : decoder.after vesc frame (count + 1) = final := by rw [after_succ, same]
  have replies : decoder.repliesTo vesc frame (count + 1) = decoder.repliesTo vesc frame count ++ feedReplies result := by
    rw [repliesTo_succ, same]
  have run : vesc.scanner.Advance (stream decoder.pending frame (count + 1)) (decoder.repliesTo vesc frame (count + 1))
      final.pending := by
    rw [stream_succ, replies]
    exact (reads.run.append frame).trans fed
  -- On a stream that is long enough the run stops at a piece.
  let more := (reading decoder.pending frame pieces).1 + vescMaxFrameLen
  have long : (reading decoder.pending frame pieces).1 + vescMaxFrameLen ≤
      (stream decoder.pending frame (count + 1 + more)).length := by
    rw [stream_length]
    have copies : more ≤ (count + 1 + more) * frame.length :=
      (Nat.le_add_left _ _).trans (Nat.le_mul_of_pos_right _ positive)
    omega
  have onward := run.append (List.replicate more frame).flatten
  rw [← stream_add] at onward
  rcases advance_reading 0 small through.stands long (Nat.zero_le _) onward with found | ⟨there, -, within, rest, passed⟩
  · exact .inl found
  · right
    rw [reading, Nat.zero_add] at passed
    have before := (reading_mono decoder.pending frame within).1
    have counted := (reading_mono decoder.pending frame within).2
    have place : (reading decoder.pending frame there).1 ≤ (stream decoder.pending frame (count + 1)).length := by
      have lengths := congrArg List.length rest
      rw [stream_add, List.length_append, List.length_drop, List.length_append] at lengths
      rw [stream_add, List.length_append] at long
      omega
    have pending : final.pending = (stream decoder.pending frame (count + 1)).drop (reading decoder.pending frame there).1 := by
      rw [stream_add, List.drop_append_of_le_length place] at rest
      exact List.append_cancel_right rest
    refine ⟨there, within, place, by rw [now, pending], now ▸ run, by simpa using passed, ?_⟩
    have further : (reading decoder.pending frame here).1 ≤ (reading decoder.pending frame there).1 := by
      have shorter := fed.length_le
      have old := reads.place
      rw [pending, reads.pending, List.length_append, List.length_drop, List.length_drop, stream_succ,
        List.length_append] at shorter
      rw [stream_succ, List.length_append] at place
      omega
    rcases stop with batch | stuck
    · -- A full batch: the copy it costs was kept free.
      have room := reads.room
      have given : (decoder.repliesTo vesc frame count).length / 4 + 1 ≤ (decoder.repliesTo vesc frame (count + 1)).length / 4 := by
        rw [replies, List.length_append]
        rw [vescMaxStreamReplies] at batch
        omega
      have fewer : (decoder.repliesTo vesc frame (count + 1)).length / 4 ≤ (reading decoder.pending frame pieces).2 / 4 :=
        Nat.div_le_div_right (passed.trans counted)
      have spent : ((reading decoder.pending frame pieces).2 / 4 - (decoder.repliesTo vesc frame (count + 1)).length / 4 + 1) *
          frame.length ≤
          ((reading decoder.pending frame pieces).2 / 4 - (decoder.repliesTo vesc frame count).length / 4) * frame.length :=
        Nat.mul_le_mul_right _ (by omega)
      rw [Nat.succ_mul] at spent ⊢
      omega
    · -- Reading waits at a candidate that one more copy does not overrun.
      have waits : decoder.pending.length + (count + 1) * frame.length <
          (reading decoder.pending frame there).1 + awaited decoder.pending frame (reading decoder.pending frame there).1 := by
        by_contra arrived
        rw [Scanner.Stuck, pending] at stuck
        obtain ⟨value, taken, -⟩ := next_of_awaited vesc
          (show (reading decoder.pending frame there).1 +
            awaited decoder.pending frame (reading decoder.pending frame there).1 ≤
              (stream decoder.pending frame (count + 1)).length by rw [stream_length]; omega)
        rw [taken] at stuck
        cases stuck
      have covered := le_filled positive waits
      have room := through.room there within
      have kept : ((reading decoder.pending frame pieces).2 / 4 - (decoder.repliesTo vesc frame (count + 1)).length / 4) *
          frame.length ≤ (reading decoder.pending frame pieces).2 / 4 * frame.length :=
        Nat.mul_le_mul_right _ (Nat.sub_le _ _)
      dsimp only at room
      omega

end VescReadOnlyStreamDecoder

open VescReadOnlyStreamDecoder

end Cutout.Protocols
