import Cutout.Proofs.VescStream
import Cutout.VescNotifications

/-! Complete reply frames as the notification decoder meets them: how a frame, a
strict prefix of one and a sequence of them look to the routing predicates and
to the stream scanner. Frames delimit themselves, so a byte string is a sequence
of frames in at most one way. -/

namespace Cutout.Protocols
open Library

/-- A well-formed frame that decodes to a reply and is not package data. -/
structure ReplyFrame (vesc : VescCrate) (frame : List Byte) : Prop where
  framed : ∃ payloadStart payloadLen, frameParts frame = .ok (some (payloadStart, payloadLen, frame.length)) ∧
    frame[payloadStart]? ≠ some vescCommCustomAppData
  decoded : ∃ reply, vesc.decodeFrame frame = .ok reply

def frameReplies (vesc : VescCrate) (frames : List (List Byte)) : List VescReadOnlyReply :=
  frames.filterMap fun frame => (vesc.decodeFrame frame).toOption

theorem frameReplies_append (vesc : VescCrate) (first second : List (List Byte)) :
    frameReplies vesc (first ++ second) = frameReplies vesc first ++ frameReplies vesc second :=
  List.filterMap_append ..

namespace ReplyFrame
variable {vesc : VescCrate} {frame : List Byte}

section Valid
variable (valid : ReplyFrame vesc frame)
include valid

/-- The facts the routing uses: header, exact length, a command byte that is not the package's. -/
theorem parts : ∃ headerLen payloadLen,
    FrameAt frame headerLen payloadLen frame.length ∧ 0 < payloadLen ∧
      frame[headerLen]? ≠ some vescCommCustomAppData := by
  obtain ⟨⟨headerLen, payloadLen, accepted, command⟩, reply, decoded⟩ := valid
  refine ⟨headerLen, payloadLen, frameParts_some_iff.mp accepted, ?_, command⟩
  rcases Nat.eq_zero_or_pos payloadLen with empty | positive
  · rw [VescCrate.decodeFrame, decodeTypedReply, accepted, empty] at decoded
    simp [decodeTypedPayload, bind, Except.bind] at decoded
  · exact positive

theorem length_pos : 0 < frame.length := by
  obtain ⟨headerLen, payloadLen, framing, -⟩ := valid.parts
  have := framing.total
  omega

theorem length_le : frame.length ≤ vescMaxFrameLen := by
  obtain ⟨headerLen, payloadLen, framing, -⟩ := valid.parts
  exact framing.small

theorem frameParts_append (later : List Byte) :
    ∃ headerLen payloadLen, frameParts (frame ++ later) = .ok (some (headerLen, payloadLen, frame.length)) := by
  obtain ⟨headerLen, payloadLen, framing, -⟩ := valid.parts
  exact ⟨headerLen, payloadLen, frameParts_some_iff.mpr (framing.append later)⟩

theorem completeVescFrameLen_append (later : List Byte) :
    completeVescFrameLen (frame ++ later) = some frame.length := by
  obtain ⟨headerLen, payloadLen, framing, -⟩ := valid.parts
  obtain ⟨header, total, -, complete, terminated, -⟩ := framing.append later
  rw [completeVescFrameLen, header]
  simp only [← total]
  rw [if_pos ⟨complete, terminated⟩]

theorem head_start : ∃ start rest, frame = start :: rest ∧ isFrameStart start = true := by
  obtain ⟨headerLen, payloadLen, framing, -⟩ := valid.parts
  rcases frameHeader_some_cases framing.header with ⟨length, rest, rfl, -⟩ | ⟨high, low, rest, rfl, -⟩
  · exact ⟨_, _, rfl, rfl⟩
  · exact ⟨_, _, rfl, rfl⟩

theorem genericFrameKind_self : genericFrameKind frame = some true := by
  obtain ⟨headerLen, payloadLen, framing, positive, command⟩ := valid.parts
  have inside : headerLen < frame.length := by
    have := framing.total
    omega
  rcases frameHeader_some_cases framing.header with ⟨length, rest, rfl, same⟩ | ⟨high, low, rest, rfl, same⟩
  · obtain ⟨rfl, -⟩ := Prod.mk.inj same
    match rest with
    | [] => simp at inside
    | byte :: rest =>
      have different : byte ≠ vescCommCustomAppData := by simpa using command
      simp [genericFrameKind, vescFrameStartShort, different]
  · obtain ⟨rfl, -⟩ := Prod.mk.inj same
    match rest with
    | [] => simp at inside
    | byte :: rest =>
      have different : byte ≠ vescCommCustomAppData := by simpa using command
      simp [genericFrameKind, vescFrameStartLong, different]

theorem verdict_append (later : List Byte) : ∃ reply, vesc.decodeFrame frame = .ok reply ∧
      vesc.scanner.next (frame ++ later) = .take frame.length (some reply) := by
  obtain ⟨reply, decoded⟩ := valid.decoded
  obtain ⟨headerLen, payloadLen, accepted⟩ := valid.frameParts_append later
  refine ⟨reply, decoded, ?_⟩
  simp only [VescCrate.scanner, VescCrate.verdict, accepted]
  rw [List.take_left, decoded]
  rfl

theorem frameParts_prefix {front rest : List Byte} (split : frame = front ++ rest) (strict : rest ≠ []) :
    frameParts front = .ok none := by
  obtain ⟨headerLen, payloadLen, framing, -⟩ := valid.parts
  have shorter : front.length < frame.length := by
    have := List.length_pos_iff.mpr strict
    rw [split, List.length_append]
    omega
  have header := framing.header
  rw [split] at header
  unfold frameParts
  cases found : frameHeader front with
  | error error =>
    rw [frameHeader_error_append found rest] at header
    cases header
  | ok announced =>
    cases announced with
    | none => rfl
    | some announced =>
      rw [frameHeader_append found rest] at header
      cases header
      simp only
      have total := framing.total
      have small := framing.small
      rw [if_neg (by omega), if_pos (by omega)]

theorem completeVescFrameLen_prefix {front rest : List Byte} (split : frame = front ++ rest) (strict : rest ≠ []) :
    completeVescFrameLen front = none := by
  have incomplete := valid.frameParts_prefix split strict
  unfold frameParts at incomplete
  unfold completeVescFrameLen
  cases found : frameHeader front with
  | error error => rfl
  | ok announced =>
    cases announced with
    | none => rfl
    | some announced =>
      rw [found] at incomplete
      simp only at incomplete ⊢
      split_ifs at incomplete with oversized short
      · rw [if_neg (by omega)]
      · cases incomplete

end Valid

end ReplyFrame

theorem genericFrameKind_append {bytes : List Byte} {kind : Bool} (known : genericFrameKind bytes = some kind)
    (later : List Byte) : genericFrameKind (bytes ++ later) = some kind := by
  match bytes with
  | [] => simp [genericFrameKind] at known
  | start :: rest =>
    simp only [genericFrameKind, List.cons_append] at known ⊢
    split_ifs at known ⊢ with short long
    · obtain ⟨byte, found, same⟩ := Option.map_eq_some_iff.mp known
      obtain ⟨inside, -⟩ := List.getElem?_eq_some_iff.mp found
      rw [List.getElem?_append_left inside]
      exact known
    · obtain ⟨byte, found, same⟩ := Option.map_eq_some_iff.mp known
      obtain ⟨inside, -⟩ := List.getElem?_eq_some_iff.mp found
      rw [List.getElem?_append_left inside]
      exact known

/-- Without a command byte at most three bytes of a frame are there. -/
theorem length_le_of_genericFrameKind_none {start : Byte} {rest : List Byte} (starts : isFrameStart start = true)
    (unknown : genericFrameKind (start :: rest) = none) : (start :: rest).length ≤ 3 := by
  simp only [genericFrameKind] at unknown
  simp only [isFrameStart, Bool.or_eq_true, decide_eq_true_eq] at starts
  rcases starts with rfl | rfl
  · simp at unknown
    simp
    omega
  · simp at unknown
    simp
    omega

/-- A byte string in front of a frame sequence consists of some of its frames and a strict prefix of the next. -/
theorem split_at_frames {vesc : VescCrate} {frames : List (List Byte)} (valid : ∀ frame ∈ frames, ReplyFrame vesc frame)
    {front later : List Byte} (whole : front ++ later = frames.flatten) :
    ∃ done left part, frames = done ++ left ∧ front = done.flatten ++ part ∧ part ++ later = left.flatten ∧
      (part = [] ∨ ∃ frame rest tail, left = frame :: tail ∧ frame = part ++ rest ∧ rest ≠ []) := by
  induction frames generalizing front with
  | nil =>
    obtain ⟨rfl, rfl⟩ := List.append_eq_nil_iff.mp whole
    exact ⟨[], [], [], rfl, rfl, rfl, .inl rfl⟩
  | cons frame frames ih =>
    rw [List.flatten_cons] at whole
    rcases List.append_eq_append_iff.mp whole with ⟨rest, same, tail⟩ | ⟨more, same, tail⟩
    · cases rest with
      | nil =>
        rw [List.append_nil] at same
        refine ⟨[frame], frames, [], rfl, by simp [same], by simpa using tail, .inl rfl⟩
      | cons byte rest =>
        exact ⟨[], frame :: frames, front, rfl, rfl, by simpa using whole,
          .inr ⟨frame, byte :: rest, frames, rfl, same, by simp⟩⟩
    · obtain ⟨done, left, part, rfl, rfl, joined, shape⟩ :=
        ih (fun frame member => valid frame (List.mem_cons_of_mem _ member)) tail.symm
      exact ⟨frame :: done, left, part, rfl, by simp [same], joined, shape⟩

/-- Frames delimit themselves: a sequence in front of another one is its beginning. -/
theorem frames_prefix {vesc : VescCrate} {first second : List (List Byte)}
    (firstValid : ∀ frame ∈ first, ReplyFrame vesc frame) (secondValid : ∀ frame ∈ second, ReplyFrame vesc frame)
    {later : List Byte} (whole : first.flatten ++ later = second.flatten) :
    ∃ left, second = first ++ left ∧ later = left.flatten := by
  induction first generalizing second with
  | nil => exact ⟨second, rfl, by simpa using whole⟩
  | cons frame first ih =>
    have valid := firstValid frame (by simp)
    cases second with
    | nil =>
      have positive := valid.length_pos
      obtain ⟨nothing, -⟩ := List.append_eq_nil_iff.mp whole
      rw [List.flatten_cons] at nothing
      rw [(List.append_eq_nil_iff.mp nothing).1] at positive
      simp at positive
    | cons other second =>
      rw [List.flatten_cons, List.flatten_cons, List.append_assoc] at whole
      obtain ⟨h₁, p₁, accepted⟩ := valid.frameParts_append (first.flatten ++ later)
      obtain ⟨h₂, p₂, accepted'⟩ := (secondValid other (by simp)).frameParts_append second.flatten
      rw [whole, accepted'] at accepted
      have sameLength : other.length = frame.length := by
        simp only [Except.ok.injEq, Option.some.injEq, Prod.mk.injEq] at accepted
        exact accepted.2.2
      obtain ⟨rfl, rest⟩ := List.append_inj whole sameLength.symm
      obtain ⟨left, rfl, tail⟩ := ih (fun frame member => firstValid frame (List.mem_cons_of_mem _ member))
        (fun frame member => secondValid frame (List.mem_cons_of_mem _ member)) rest
      exact ⟨left, rfl, tail⟩

end Cutout.Protocols
