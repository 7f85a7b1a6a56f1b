import Cutout.WheelFrames
import Mathlib.Data.List.Infix

/-! The candidates the wheel reassemblers hold. A candidate is always the bytes
fed last, so a completed frame stands contiguously in the stream; conversely a
frame fed to an empty reassembler is followed byte by byte and comes out whole. -/

namespace Cutout.Protocols
open VeteranFrameParseState (tryFinish collect feedByte)
open VeteranFrameReassembler (feedByteResult)
variable {byte : Byte}

section Veteran
variable {buffer bytes : List Byte}

/-- A frame the reassembler hands on: magic, announced length, and a matching checksum when it is long. -/
structure VeteranWellFormed (bytes : List Byte) : Prop where
  magic : veteranMagic <+: bytes
  sized : veteranExpectedLen bytes = some bytes.length
  checked : veteranUsesCrc bytes = true → veteranCrcMatches bytes = true

structure VeteranPartial (buffer : List Byte) : Prop where
  magic : veteranMagic <+: buffer
  short : ∀ expected, veteranExpectedLen buffer = some expected → buffer.length < expected

/-- The reachable reassemblers: the state says what the buffer holds. -/
inductive VeteranTracking : VeteranFrameReassembler → Prop where
  | seeking : VeteranTracking ⟨[], .seekingMagic0⟩
  | first : VeteranTracking ⟨[0xdc], .seekingMagic1⟩
  | second : VeteranTracking ⟨[0xdc, 0x5a], .seekingMagic2⟩
  | collecting {buffer : List Byte} : VeteranPartial buffer → VeteranTracking ⟨buffer, .collecting⟩

private theorem veteranExpectedLen_le {expected : Nat} (known : veteranExpectedLen bytes = some expected) :
    expected ≤ maxVeteranFrameLen := by
  obtain ⟨declared, -, rfl⟩ := Option.map_eq_some_iff.mp known
  have := declared.toNat_lt
  simp only [maxVeteranFrameLen]
  omega

theorem veteranExpectedLen_none (unknown : veteranExpectedLen bytes = none) : bytes.length ≤ 3 := by
  simpa [veteranExpectedLen] using unknown

theorem veteranExpectedLen_append {expected : Nat} (known : veteranExpectedLen bytes = some expected)
    (later : List Byte) : veteranExpectedLen (bytes ++ later) = some expected := by
  obtain ⟨declared, found, rfl⟩ := Option.map_eq_some_iff.mp known
  obtain ⟨inside, -⟩ := List.getElem?_eq_some_iff.mp found
  rw [veteranExpectedLen, List.getElem?_append_left inside, found]
  rfl

/-- A partial candidate leaves room for a byte, which at most completes it. -/
theorem VeteranPartial.push (candidate : VeteranPartial buffer) (byte : Byte) :
    pushCandidateByte buffer byte = .ok (buffer ++ [byte]) ∧ veteranMagic <+: buffer ++ [byte] ∧
      ∀ expected, veteranExpectedLen (buffer ++ [byte]) = some expected → (buffer ++ [byte]).length ≤ expected := by
  have room : buffer.length < maxVeteranFrameLen := by
    cases known : veteranExpectedLen buffer with
    | none =>
      have := veteranExpectedLen_none known
      simp only [maxVeteranFrameLen]
      omega
    | some expected => exact Nat.lt_of_lt_of_le (candidate.short expected known) (veteranExpectedLen_le known)
  refine ⟨by simp [pushCandidateByte, room], candidate.magic.trans (List.prefix_append _ _), ?_⟩
  intro expected announced
  rw [List.length_append, List.length_singleton]
  cases known : veteranExpectedLen buffer with
  | none =>
    have := veteranExpectedLen_none known
    obtain ⟨declared, -, rfl⟩ := Option.map_eq_some_iff.mp announced
    omega
  | some exact =>
    rw [veteranExpectedLen_append known] at announced
    obtain rfl := Option.some.inj announced
    exact candidate.short _ known

/-- What finishing can find in a candidate that is not overlong. -/
theorem tryFinish_cases (magic : veteranMagic <+: buffer)
    (bounded : ∀ expected, veteranExpectedLen buffer = some expected → buffer.length ≤ expected) :
    (VeteranPartial buffer ∧ tryFinish buffer = .ok (buffer, none)) ∨
      tryFinish buffer = .error .crcMismatch ∨
      ∃ frame : VeteranFrame, frame.bytes = buffer ∧ VeteranWellFormed buffer ∧
        tryFinish buffer = .ok ([], some frame) := by
  unfold tryFinish
  cases known : veteranExpectedLen buffer with
  | none => exact .inl ⟨⟨magic, fun expected announced => absurd (known.symm.trans announced) (by simp)⟩, rfl⟩
  | some expected =>
    have enough := bounded expected known
    by_cases short : buffer.length < expected
    · refine .inl ⟨⟨magic, ?_⟩, by simp [short]⟩
      intro other announced
      obtain rfl := Option.some.inj (known.symm.trans announced)
      exact short
    · have sized : veteranExpectedLen buffer = some buffer.length := by
        rw [known]
        congr 1
        omega
      by_cases mismatch : (veteranUsesCrc buffer && !veteranCrcMatches buffer) = true
      · exact .inr (.inl (by simp [short, mismatch]))
      · refine .inr (.inr ⟨⟨buffer, magic, sized⟩, rfl, ⟨magic, sized, ?_⟩, ?_⟩)
        · intro uses
          simpa [uses] using mismatch
        · simp [short, mismatch, VeteranFrame.tryFromSlice, magic, sized, Except.map]

inductive VeteranStep (reassembler : VeteranFrameReassembler) (byte : Byte) :
    VeteranFrameReassembler × Except VeteranReassemblyError VeteranFrameParseResult → Prop where
  | seeks {next : VeteranFrameReassembler} {result} : result = .seeking ∨ result = .buffered → VeteranTracking next →
      next.buffer <:+ reassembler.buffer ++ [byte] → VeteranStep reassembler byte (next, .ok result)
  | completes {frame : VeteranFrame} : frame.bytes = reassembler.buffer ++ [byte] → VeteranWellFormed frame.bytes →
      VeteranStep reassembler byte ({}, .ok (.complete frame))
  | mismatches : VeteranStep reassembler byte ({}, .error .crcMismatch)

theorem collect_step {state : VeteranFrameParseState}
    (collects : state.feedByte byte buffer = collect buffer byte)
    (pushed : pushCandidateByte buffer byte = .ok (buffer ++ [byte])) (magic : veteranMagic <+: buffer ++ [byte])
    (bounded : ∀ expected, veteranExpectedLen (buffer ++ [byte]) = some expected →
      (buffer ++ [byte]).length ≤ expected) :
    VeteranStep ⟨buffer, state⟩ byte (feedByteResult ⟨buffer, state⟩ byte) := by
  unfold feedByteResult
  simp only [collects, collect, pushed]
  rcases tryFinish_cases magic bounded with ⟨candidate, outcome⟩ | outcome | ⟨frame, same, valid, outcome⟩
  · simp only [bind, Except.bind, outcome, pure, Except.pure]
    exact .seeks (by simp) (.collecting candidate) (List.suffix_refl _)
  · simp only [bind, Except.bind, outcome]
    exact .mismatches
  · simp only [bind, Except.bind, outcome, pure, Except.pure]
    exact .completes same (same ▸ valid)

theorem VeteranTracking.step {reassembler : VeteranFrameReassembler} (tracks : VeteranTracking reassembler) (byte : Byte) :
    VeteranStep reassembler byte (reassembler.feedByteResult byte) := by
  have restart {fed : List Byte} : ([0xdc] : List Byte) <:+ fed ++ [0xdc] := List.suffix_append _ _
  cases tracks with
  | seeking =>
    by_cases start : byte = 0xdc
    · subst start
      exact .seeks (.inr rfl) .first restart
    · have kept : feedByteResult ⟨[], .seekingMagic0⟩ byte = ({}, .ok .seeking) := by
        simp [feedByteResult, feedByte, start, pure, Except.pure]
      rw [kept]
      exact .seeks (.inl rfl) .seeking (List.nil_suffix)
  | first =>
    by_cases second : byte = 0x5a
    · subst second
      exact .seeks (.inr rfl) .second (List.suffix_refl _)
    · by_cases start : byte = 0xdc
      · subst start
        exact .seeks (.inr rfl) .first restart
      · have dropped : feedByteResult ⟨[0xdc], .seekingMagic1⟩ byte = ({}, .ok .seeking) := by
          simp [feedByteResult, feedByte, start, second, pure, Except.pure]
        rw [dropped]
        exact .seeks (.inl rfl) .seeking (List.nil_suffix)
  | second =>
    by_cases third : byte = 0x5c
    · subst third
      refine collect_step rfl (by simp [pushCandidateByte, maxVeteranFrameLen]) (List.prefix_refl _) ?_
      intro expected announced
      simp [veteranExpectedLen] at announced
    · by_cases start : byte = 0xdc
      · subst start
        exact .seeks (.inr rfl) .first restart
      · have dropped : feedByteResult ⟨[0xdc, 0x5a], .seekingMagic2⟩ byte =
            ({}, .ok .seeking) := by
          simp [feedByteResult, feedByte, start, third, pure, Except.pure]
        rw [dropped]
        exact .seeks (.inl rfl) .seeking (List.nil_suffix)
  | collecting candidate =>
    obtain ⟨pushed, magic, bounded⟩ := candidate.push byte
    exact collect_step rfl pushed magic bounded

/-- Between its magic and its last byte a well-formed frame is an unfinished candidate. -/
theorem VeteranWellFormed.partial_front {front rest : List Byte} (valid : VeteranWellFormed (front ++ rest))
    (magic : veteranMagic <+: front) (unfinished : rest ≠ []) : VeteranPartial front := by
  refine ⟨magic, ?_⟩
  intro expected known
  have sized := valid.sized
  rw [veteranExpectedLen_append known rest, List.length_append] at sized
  have := List.length_pos_iff.mpr unfinished
  obtain rfl := Option.some.inj sized
  omega

/-- Behind the magic a well-formed frame is collected byte by byte up to its announced end. -/
theorem VeteranWellFormed.collected {more : List Byte} (valid : VeteranWellFormed (buffer ++ byte :: more))
    (started : veteranMagic <+: buffer) : feedByteResult ⟨buffer, .collecting⟩ byte =
      if more = [] then ({}, .ok (.complete ⟨_, valid.magic, valid.sized⟩))
      else (⟨buffer ++ [byte], .collecting⟩, .ok .buffered) := by
  obtain ⟨pushed, magic, bounded⟩ := (valid.partial_front started (by simp)).push byte
  have behind : 3 ≤ buffer.length := by simpa [veteranMagic] using started.length_le
  have known : veteranExpectedLen (buffer ++ [byte]) = some (buffer ++ byte :: more).length := by
    cases announced : veteranExpectedLen (buffer ++ [byte]) with
    | none =>
      have := veteranExpectedLen_none announced
      simp at this
      omega
    | some expected =>
      have extended := veteranExpectedLen_append announced more
      rw [List.append_assoc, List.singleton_append, valid.sized] at extended
      exact extended.symm
  unfold feedByteResult
  simp only [feedByte, collect, pushed, bind, Except.bind,
    tryFinish, known]
  cases more with
  | nil =>
    have matched : (veteranUsesCrc (buffer ++ [byte]) && !veteranCrcMatches (buffer ++ [byte])) = false := by
      cases uses : veteranUsesCrc (buffer ++ [byte]) with
      | false => rfl
      | true => simp [valid.checked uses]
    simp [matched, VeteranFrame.tryFromSlice, magic, valid.sized, Except.map, pure, Except.pure]
  | cons next more => simp [pure, Except.pure]

end Veteran

section Begode
variable {buffer : List Byte}

/-- The two glitches in front of a new header that the reassembler cuts off. -/
def begodeGlitches : List (List Byte) := [[0x55, 0xaa, 0x5a, 0x55, 0xaa], [0x55, 0xaa, 0x5a, 0x5a, 0x55, 0xaa]]

/-- A frame the reassembler hands on: fixed size, header and terminator, and no glitch at its front. -/
structure BegodeWellFormed (bytes : List Byte) : Prop where
  sized : bytes.length = begodeFrameLen
  header : begodeHeader <+: bytes
  terminated : bytes.drop (begodeFrameLen - begodeTerminator.length) = begodeTerminator
  smooth : ∀ glitch ∈ begodeGlitches, ¬glitch <+: bytes

structure BegodePartial (buffer : List Byte) : Prop where
  header : begodeHeader <+: buffer
  short : buffer.length < begodeFrameLen
  smooth : ∀ glitch ∈ begodeGlitches, ¬glitch <+: buffer

inductive BegodeTracking : List Byte → Prop where
  | seeking : BegodeTracking []
  | first : BegodeTracking [0x55]
  | collecting {buffer : List Byte} : BegodePartial buffer → BegodeTracking buffer

private theorem applyEmbeddedHeaderResync_eq (buffer : List Byte) :
    BegodeFrameReassembler.applyEmbeddedHeaderResync buffer = if buffer ∈ begodeGlitches then begodeHeader else buffer := by
  simp [BegodeFrameReassembler.applyEmbeddedHeaderResync, begodeGlitches]

theorem begodeHeader_partial : BegodePartial begodeHeader :=
  ⟨List.prefix_refl _, by decide, by decide⟩

private theorem header_suffix_of_glitch {glitch : List Byte} (member : glitch ∈ begodeGlitches) : begodeHeader <:+ glitch := by
  simp only [begodeGlitches, List.mem_cons, List.not_mem_nil, or_false] at member
  rcases member with rfl | rfl
  · exact ⟨[0x55, 0xaa, 0x5a], rfl⟩
  · exact ⟨[0x55, 0xaa, 0x5a, 0x5a], rfl⟩

/-- A glitch in front of an extended candidate is the candidate itself, unless it was there before. -/
theorem smooth_push (smooth : ∀ glitch ∈ begodeGlitches, ¬glitch <+: buffer)
    (proper : buffer ++ [byte] ∉ begodeGlitches) : ∀ glitch ∈ begodeGlitches, ¬glitch <+: buffer ++ [byte] := by
  intro glitch member front
  rcases List.prefix_concat_iff.mp front with same | before
  · exact proper (same ▸ member)
  · exact smooth glitch member before

inductive BegodeStep (buffer : List Byte) (byte : Byte) :
    BegodeFrameReassembler × Except BegodeFrameError BegodeFrameParseResult → Prop where
  | seeks {next : BegodeFrameReassembler} {result} : result = .seeking ∨ result = .buffered →
      BegodeTracking next.buffer → next.buffer <:+ buffer ++ [byte] → BegodeStep buffer byte (next, .ok result)
  | completes {frame : BegodeFrame} : frame.bytes = buffer ++ [byte] → BegodeWellFormed frame.bytes →
      BegodeStep buffer byte ({}, .ok (.complete frame))
  | rejects : BegodeStep buffer byte ({}, .error .invalidFrame)

/-- Behind the header a byte is appended, and a glitch it completes is cut off. -/
theorem BegodeFrameReassembler.feedByteResult_collecting (behind : 2 ≤ buffer.length) (byte : Byte)
    (lastByteMs : Option Nat) : BegodeFrameReassembler.feedByteResult ⟨buffer, lastByteMs⟩ byte =
      let pushed := if buffer ++ [byte] ∈ begodeGlitches then begodeHeader else buffer ++ [byte]
      if pushed.length ≠ begodeFrameLen then (⟨pushed, lastByteMs⟩, .ok .buffered)
      else ({}, (BegodeFrame.tryFromSlice pushed).map .complete) := by
  match buffer with
  | first :: second :: rest => simp only [BegodeFrameReassembler.feedByteResult, applyEmbeddedHeaderResync_eq]

theorem BegodePartial.feeds (candidate : BegodePartial buffer) (byte : Byte) (lastByteMs : Option Nat) :
    BegodeStep buffer byte (BegodeFrameReassembler.feedByteResult ⟨buffer, lastByteMs⟩ byte) := by
  have behind : 2 ≤ buffer.length := by simpa [begodeHeader] using candidate.header.length_le
  rw [BegodeFrameReassembler.feedByteResult_collecting behind]
  by_cases glitch : buffer ++ [byte] ∈ begodeGlitches
  · simp only [glitch, if_true]
    exact .seeks (.inr rfl) (.collecting begodeHeader_partial) (header_suffix_of_glitch glitch)
  · have smooth := smooth_push candidate.smooth glitch
    have header := candidate.header.trans (List.prefix_append buffer [byte])
    have short := candidate.short
    simp only [glitch, if_false]
    by_cases full : (buffer ++ [byte]).length = begodeFrameLen
    · by_cases terminated : (buffer ++ [byte]).drop (begodeFrameLen - begodeTerminator.length) = begodeTerminator
      · have parsed : BegodeFrame.tryFromSlice (buffer ++ [byte]) = .ok ⟨_, full, header, terminated⟩ := by
          rw [BegodeFrame.tryFromSlice, dif_pos ⟨full, header, terminated⟩]
        simp only [full, parsed]
        exact .completes rfl ⟨full, header, terminated, smooth⟩
      · have refused : BegodeFrame.tryFromSlice (buffer ++ [byte]) = .error .invalidFrame := by
          rw [BegodeFrame.tryFromSlice, dif_neg fun shape => terminated shape.2.2]
        simp only [full, refused]
        exact .rejects
    · simp only [ne_eq, full, not_false_eq_true, if_true]
      refine .seeks (.inr rfl) (.collecting ⟨header, ?_, smooth⟩) (List.suffix_refl _)
      rw [List.length_append, List.length_singleton] at full ⊢
      omega

theorem BegodeTracking.feeds (tracks : BegodeTracking buffer) (byte : Byte) (lastByteMs : Option Nat) :
    BegodeStep buffer byte (BegodeFrameReassembler.feedByteResult ⟨buffer, lastByteMs⟩ byte) := by
  cases tracks with
  | seeking =>
    by_cases start : byte = 0x55
    · subst start
      exact .seeks (.inr rfl) .first (List.suffix_refl _)
    · have skipped : BegodeFrameReassembler.feedByteResult ⟨[], lastByteMs⟩ byte = (⟨[], lastByteMs⟩, .ok .seeking) := by
        simp [BegodeFrameReassembler.feedByteResult, start]
      rw [skipped]
      exact .seeks (.inl rfl) .seeking List.nil_suffix
  | first =>
    by_cases second : byte = 0xaa
    · subst second
      exact .seeks (.inr rfl) (.collecting begodeHeader_partial) (List.suffix_refl _)
    · by_cases start : byte = 0x55
      · subst start
        exact .seeks (.inr rfl) .first (List.suffix_append _ _)
      · have dropped : BegodeFrameReassembler.feedByteResult ⟨[0x55], lastByteMs⟩ byte = ({}, .ok .seeking) := by
          simp [BegodeFrameReassembler.feedByteResult, start, second]
        rw [dropped]
        exact .seeks (.inl rfl) .seeking List.nil_suffix
  | collecting candidate => exact candidate.feeds byte lastByteMs

theorem BegodeTracking.step (tracks : BegodeTracking buffer) (byte : Byte) (lastByteMs : Option Nat) (time : Nat) :
    BegodeStep buffer byte (BegodeFrameReassembler.feedByteResultAt ⟨buffer, lastByteMs⟩ byte time) := by
  have plain := tracks.feeds byte lastByteMs
  unfold BegodeFrameReassembler.feedByteResultAt
  generalize BegodeFrameReassembler.feedByteResult ⟨buffer, lastByteMs⟩ byte = outcome at plain
  cases plain with
  | seeks quiet tracks window => exact .seeks quiet tracks window
  | completes same valid => exact .completes same valid
  | rejects => exact .rejects

/-- Behind the header a well-formed frame is collected byte by byte up to its end. -/
theorem BegodeWellFormed.collected {more : List Byte} (valid : BegodeWellFormed (buffer ++ byte :: more))
    (behind : 2 ≤ buffer.length) (lastByteMs : Option Nat) (time : Nat) :
    BegodeFrameReassembler.feedByteResultAt ⟨buffer, lastByteMs⟩ byte time =
      if more = [] then ({}, .ok (.complete ⟨_, valid.sized, valid.header, valid.terminated⟩))
      else (⟨buffer ++ [byte], some time⟩, .ok .buffered) := by
  have front : buffer ++ [byte] <+: buffer ++ byte :: more := ⟨more, by simp⟩
  have proper : buffer ++ [byte] ∉ begodeGlitches := fun member => valid.smooth _ member front
  have sized := valid.sized
  unfold BegodeFrameReassembler.feedByteResultAt
  rw [BegodeFrameReassembler.feedByteResult_collecting behind]
  simp only [proper, if_false]
  cases more with
  | nil =>
    have parsed : BegodeFrame.tryFromSlice (buffer ++ [byte]) = .ok ⟨_, sized, valid.header, valid.terminated⟩ := by
      rw [BegodeFrame.tryFromSlice, dif_pos ⟨sized, valid.header, valid.terminated⟩]
    simp [parsed, sized, Except.map]
  | cons next more =>
    have unfinished : (buffer ++ [byte]).length ≠ begodeFrameLen := by
      simp only [List.length_append, List.length_cons, List.length_nil] at sized ⊢
      omega
    rw [if_pos unfinished]
    simp

end Begode

end Cutout.Protocols
