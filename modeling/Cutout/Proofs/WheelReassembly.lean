import Cutout.Proofs.WheelFrames
import Cutout.Library.Runs

/-! Runs of the two reassemblers, with resets and expiries anywhere in between. The
candidate is what was fed since the last frame, rejection or reset, or the end of it; a
whole frame fed to a reassembler that seeks comes out at its last byte. -/

namespace Cutout.Protocols
open Library
variable {more : List Byte}

section Veteran

inductive VeteranCall where
  | feedByteResult (byte : Byte)
  | reset
  deriving Repr, DecidableEq

abbrev VeteranReply := Option (Except VeteranReassemblyError VeteranFrameParseResult)

def VeteranFrameReassembler.step (reassembler : VeteranFrameReassembler) :
    VeteranCall → VeteranFrameReassembler × VeteranReply
  | .feedByteResult byte =>
    let (next, result) := reassembler.feedByteResult byte
    (next, some result)
  | .reset => (reassembler.reset, none)

abbrev VeteranHistory := List (Step VeteranFrameReassembler VeteranCall VeteranReply)

def VeteranHistory.fed (history : VeteranHistory) : List Byte :=
  history.filterMap fun step => match step.input with
    | .feedByteResult byte => some byte
    | .reset => none

def VeteranReply.ends : VeteranReply → Prop
  | some (.ok (.complete _)) | some (.error .crcMismatch) => True
  | _ => False

/-- The wire format: magic, announced length, and a big-endian CRC-32 behind more than 38 bytes. -/
structure VeteranFormat (bytes : List Byte) : Prop where
  magic : [0xdc, 0x5a, 0x5c] <+: bytes
  sized : ∃ declared, bytes[3]? = some declared ∧ bytes.length = declared.toNat + 4 ∧
    (38 < declared.toNat → crc32 (bytes.take declared.toNat) = unsignedFromBe (bytes.drop declared.toNat))

theorem veteranFormat_iff {bytes : List Byte} : VeteranFormat bytes ↔ VeteranWellFormed bytes := by
  have trailer {declared : Nat} (length : bytes.length = declared + 4) :
      (bytes.drop declared).take 4 = bytes.drop declared ∧ (bytes.drop declared).length = 4 := by
    have size : (bytes.drop declared).length = 4 := by
      rw [List.length_drop]
      omega
    exact ⟨List.take_of_length_le (Nat.le_of_eq size), size⟩
  constructor
  · rintro ⟨magic, declared, known, length, checked⟩
    refine ⟨magic, by rw [veteranExpectedLen, known, length]; rfl, ?_⟩
    intro long
    obtain ⟨same, size⟩ := trailer length
    simp only [veteranUsesCrc, known, Option.any_some, veteranShortFrameMaxLen] at long
    simp only [veteranCrcMatches, known, same, size, checked (of_decide_eq_true long), and_self, decide_true]
  · rintro ⟨magic, sized, checked⟩
    obtain ⟨declared, known, length⟩ := Option.map_eq_some_iff.mp sized
    refine ⟨magic, declared, known, length.symm, ?_⟩
    intro long
    have uses : veteranUsesCrc bytes = true := by
      rw [veteranUsesCrc, known]
      exact decide_eq_true long
    have matched := checked uses
    obtain ⟨same, size⟩ := trailer length.symm
    simp only [veteranCrcMatches, known, same, size, true_and, decide_eq_true_eq] at matched
    exact matched

theorem VeteranHistory.fed_snoc (past : VeteranHistory) (here : Step VeteranFrameReassembler VeteranCall VeteranReply) :
    VeteranHistory.fed (past ++ [here]) = VeteranHistory.fed past ++ VeteranHistory.fed [here] := by
  simp only [VeteranHistory.fed, List.filterMap_append]

/-- The candidate is the end of what was fed, also of what was fed behind any finished frame. -/
structure VeteranHolds (past : VeteranHistory) (reassembler : VeteranFrameReassembler) : Prop where
  tracks : VeteranTracking reassembler
  held : reassembler.buffer <:+ VeteranHistory.fed past
  apart : ∀ early ender between, past = early ++ ender :: between → ender.output.ends →
    reassembler.buffer <:+ VeteranHistory.fed between

/-- A call whose candidate afterwards is the end of the one before and the byte fed. -/
theorem VeteranHolds.extend {past : VeteranHistory} {reassembler : VeteranFrameReassembler} {call : VeteranCall}
    (holds : VeteranHolds past reassembler) (tracks : VeteranTracking (reassembler.step call).1)
    (window : (reassembler.step call).1.buffer <:+ reassembler.buffer ++
      VeteranHistory.fed [Runs.take VeteranFrameReassembler.step reassembler call])
    (ended : (reassembler.step call).2.ends → (reassembler.step call).1.buffer = []) :
    VeteranHolds (past ++ [Runs.take VeteranFrameReassembler.step reassembler call]) (reassembler.step call).1 := by
  refine ⟨tracks, ?_, ?_⟩
  · rw [VeteranHistory.fed_snoc]
    exact window.trans (List.suffix_append_self_iff.mpr holds.held)
  · intro early ender between split ends
    rcases snoc_split split with ⟨-, rfl, rfl⟩ | ⟨front, rfl, rfl⟩
    · rw [ended ends]
      exact List.nil_suffix
    · rw [VeteranHistory.fed_snoc]
      exact window.trans (List.suffix_append_self_iff.mpr (holds.apart early ender front rfl ends))

theorem VeteranHolds.step {past : VeteranHistory} {reassembler : VeteranFrameReassembler} (call : VeteranCall)
    (holds : VeteranHolds past reassembler) :
    VeteranHolds (past ++ [Runs.take VeteranFrameReassembler.step reassembler call]) (reassembler.step call).1 := by
  cases call with
  | reset => exact holds.extend .seeking List.nil_suffix fun _ => rfl
  | feedByteResult byte =>
    have outcome := holds.tracks.step byte
    have fed : VeteranHistory.fed [Runs.take VeteranFrameReassembler.step reassembler (.feedByteResult byte)] = [byte] := rfl
    apply holds.extend <;> rw [VeteranFrameReassembler.step] <;>
      generalize reassembler.feedByteResult byte = result at outcome
    · cases outcome with
      | seeks _ tracks _ => exact tracks
      | completes | mismatches => exact .seeking
    · rw [fed]
      cases outcome with
      | seeks _ _ window => exact window
      | completes | mismatches => exact List.nil_suffix
    · intro ends
      cases outcome with
      | seeks quiet _ _ => rcases quiet with rfl | rfl <;> cases ends
      | completes | mismatches => rfl

theorem veteran_holds (calls : List VeteranCall) :
    VeteranHolds (Runs.history VeteranFrameReassembler.step {} calls) (Runs.final VeteranFrameReassembler.step {} calls) := by
  apply Runs.induction_on
  · refine ⟨.seeking, List.nil_suffix, ?_⟩
    intro early ender between split
    simp at split
  · intro past reassembler call holds
    exact holds.step call

/-- Behind the magic the rest of a frame is buffered byte by byte, and its last byte completes it. -/
theorem VeteranWellFormed.collects {buffer : List Byte} (valid : VeteranWellFormed (buffer ++ more))
    (started : veteranMagic <+: buffer) (unfinished : more ≠ []) :
    ∃ frame : VeteranFrame, frame.bytes = buffer ++ more ∧
      Runs.final VeteranFrameReassembler.step ⟨buffer, .collecting⟩ (more.map .feedByteResult) = {} ∧
      (Runs.history VeteranFrameReassembler.step ⟨buffer, .collecting⟩ (more.map .feedByteResult)).map Step.output =
        List.replicate (more.length - 1) (some (.ok .buffered)) ++ [some (.ok (.complete frame))] := by
  induction more generalizing buffer with
  | nil => exact absurd rfl unfinished
  | cons byte more ih =>
    have fed := valid.collected started
    by_cases last : more = []
    · subst last
      rw [if_pos rfl] at fed
      refine ⟨⟨_, valid.magic, valid.sized⟩, rfl, ?_, ?_⟩
      · simp [Runs.final, VeteranFrameReassembler.step, fed]
      · simp [Runs.history, Runs.take, VeteranFrameReassembler.step, fed]
    · rw [if_neg last] at fed
      have joined : buffer ++ byte :: more = (buffer ++ [byte]) ++ more := by simp
      obtain ⟨frame, same, final, outputs⟩ := ih (joined ▸ valid) (started.trans (List.prefix_append _ _)) last
      refine ⟨frame, same.trans joined.symm, ?_, ?_⟩
      · simpa [Runs.final, VeteranFrameReassembler.step, fed] using final
      · have count : (byte :: more).length - 1 = more.length - 1 + 1 := by
          have := List.length_pos_iff.mpr last
          simp only [List.length_cons]
          omega
        rw [count, List.replicate_succ, List.cons_append]
        simp only [List.map_cons, Runs.history, Runs.take, VeteranFrameReassembler.step, fed]
        rw [← outputs]

/-- A frame fed to an empty reassembler is buffered byte by byte, and its last byte completes it. -/
theorem VeteranWellFormed.comes_out {word : List Byte} (valid : VeteranWellFormed word) :
    ∃ frame : VeteranFrame, frame.bytes = word ∧
      Runs.final VeteranFrameReassembler.step {} (word.map .feedByteResult) = {} ∧
      (Runs.history VeteranFrameReassembler.step {} (word.map .feedByteResult)).map Step.output =
        List.replicate (word.length - 1) (some (.ok .buffered)) ++ [some (.ok (.complete frame))] := by
  obtain ⟨rest, rfl⟩ := valid.magic
  have unfinished : rest ≠ [] := by
    rintro rfl
    have sized := valid.sized
    simp [veteranMagic, veteranExpectedLen] at sized
  obtain ⟨frame, same, final, outputs⟩ := valid.collects (List.prefix_refl _) unfinished
  refine ⟨frame, same, final, ?_⟩
  have count : (veteranMagic ++ rest).length - 1 = rest.length - 1 + 3 := by
    have := List.length_pos_iff.mpr unfinished
    simp only [List.length_append, veteranMagic, List.length_cons, List.length_nil]
    omega
  rw [count, Nat.add_comm, List.replicate_add, List.append_assoc, ← outputs]
  rfl

/-- What the Veteran reassembler completes, in any run with any resets, is a frame of the
wire format: the bytes fed last, none of them part of a frame finished before. No other
error than a wrong checksum is reported. And a frame of the wire format that meets a
seeking reassembler is completed by its last byte. -/
theorem veteran_reassembler_sound_and_complete (calls : List VeteranCall) :
    (∀ here ∈ Runs.history VeteranFrameReassembler.step {} calls,
      (∀ claimed max, here.output ≠ some (.error (.oversizedFrame claimed max))) ∧
        here.output ≠ some (.error .invalidFrame)) ∧
    (∀ past here later frame, Runs.history VeteranFrameReassembler.step {} calls = past ++ here :: later →
      here.output = some (.ok (.complete frame)) →
      VeteranFormat frame.bytes ∧ frame.bytes <:+ VeteranHistory.fed (past ++ [here]) ∧
      ∀ early ender between, past = early ++ ender :: between → ender.output.ends →
        frame.bytes <:+ VeteranHistory.fed (between ++ [here])) ∧
    ((Runs.final VeteranFrameReassembler.step {} calls).state = .seekingMagic0 → ∀ word, VeteranFormat word →
      let start := Runs.final VeteranFrameReassembler.step {} calls
      ∃ frame : VeteranFrame, frame.bytes = word ∧
        Runs.final VeteranFrameReassembler.step start (word.map .feedByteResult) = ⟨[], .seekingMagic0⟩ ∧
        (Runs.history VeteranFrameReassembler.step start (word.map .feedByteResult)).map Step.output =
          List.replicate (word.length - 1) (some (.ok .buffered)) ++ [some (.ok (.complete frame))]) := by
  -- Any step of the run, with what holds before it and what its byte can do.
  have taken {past later} {here : Step VeteranFrameReassembler VeteranCall VeteranReply}
      (split : Runs.history VeteranFrameReassembler.step {} calls = past ++ here :: later) :
      VeteranHolds past here.before ∧ here.output = (here.before.step here.input).2 := by
    obtain ⟨first, last, -, rfl, same, -⟩ := Runs.history_split split
    rw [same]
    exact ⟨veteran_holds first, rfl⟩
  refine ⟨?_, ?_, ?_⟩
  · intro here member
    obtain ⟨past, later, split⟩ := List.append_of_mem member
    obtain ⟨holds, output⟩ := taken split
    rw [output]
    cases here.input with
    | reset => simp [VeteranFrameReassembler.step]
    | feedByteResult byte =>
      have outcome := holds.tracks.step byte
      rw [VeteranFrameReassembler.step]
      generalize here.before.feedByteResult byte = result at outcome ⊢
      cases outcome <;> simp
  · intro past here later frame split completed
    obtain ⟨holds, output⟩ := taken split
    obtain ⟨before, input, result, after⟩ := here
    dsimp only at holds output completed
    rw [completed] at output
    cases input with
    | reset => cases output
    | feedByteResult byte =>
      have outcome := holds.tracks.step byte
      rw [VeteranFrameReassembler.step] at output
      generalize before.feedByteResult byte = fed at outcome output
      have found : frame.bytes = before.buffer ++ [byte] ∧ VeteranWellFormed frame.bytes := by
        cases outcome with
        | seeks quiet _ _ => rcases quiet with rfl | rfl <;> cases output
        | completes same valid =>
          cases output
          exact ⟨same, valid⟩
        | mismatches => cases output
      have joined (history : VeteranHistory) :
          VeteranHistory.fed (history ++ [⟨before, .feedByteResult byte, result, after⟩]) =
            VeteranHistory.fed history ++ [byte] := VeteranHistory.fed_snoc _ _
      refine ⟨veteranFormat_iff.mpr found.2, ?_, ?_⟩
      · rw [found.1, joined]
        exact List.suffix_append_self_iff.mpr holds.held
      · intro early ender between cut ends
        rw [found.1, joined]
        exact List.suffix_append_self_iff.mpr (holds.apart early ender between cut ends)
  · intro seeks word format
    have tracks := (veteran_holds calls).tracks
    generalize Runs.final VeteranFrameReassembler.step {} calls = start at seeks tracks ⊢
    cases tracks with
    | seeking => exact (veteranFormat_iff.mp format).comes_out
    | first | second | collecting => cases seeks

end Veteran

section Begode
open BegodeFrameReassembler
variable {buffer word : List Byte}
variable (reassembler : BegodeFrameReassembler)

inductive BegodeCall where
  | feedByteResult (byte : Byte)
  | feedByteResultAt (byte : Byte) (time : Nat)
  | expireIdle (time timeout : Nat)
  | reset
  deriving Repr, DecidableEq

inductive BegodeReply where
  | fed (result : Except BegodeFrameError BegodeFrameParseResult)
  | expired (dropped : Bool)
  | cleared

def BegodeFrameReassembler.step (reassembler : BegodeFrameReassembler) : BegodeCall → BegodeFrameReassembler × BegodeReply
  | .feedByteResult byte =>
    let (next, result) := reassembler.feedByteResult byte
    (next, .fed result)
  | .feedByteResultAt byte time =>
    let (next, result) := reassembler.feedByteResultAt byte time
    (next, .fed result)
  | .expireIdle time timeout =>
    let (next, dropped) := reassembler.expireIdle time timeout
    (next, .expired dropped)
  | .reset => (reassembler.reset, .cleared)

def BegodeCall.byte : BegodeCall → Option Byte
  | .feedByteResult byte | .feedByteResultAt byte _ => some byte
  | .expireIdle _ _ | .reset => none

def FeedsWord (calls : List BegodeCall) (word : List Byte) : Prop := calls.map BegodeCall.byte = word.map some

abbrev BegodeHistory := List (Step BegodeFrameReassembler BegodeCall BegodeReply)

def BegodeHistory.fed (history : BegodeHistory) : List Byte := history.filterMap fun step => step.input.byte

def feedBuffer (buffer : List Byte) (byte : Byte) : List Byte × Except BegodeFrameError BegodeFrameParseResult :=
  let (next, result) := BegodeFrameReassembler.feedByteResult ⟨buffer, none⟩ byte
  (next.buffer, result)

theorem feedByteResult_buffer (byte : Byte) :
    ((reassembler.feedByteResult byte).1.buffer, (reassembler.feedByteResult byte).2) =
      feedBuffer reassembler.buffer byte := by
  obtain ⟨buffer, lastByteMs⟩ := reassembler
  unfold feedBuffer
  match buffer with
  | [] =>
    simp only [BegodeFrameReassembler.feedByteResult]
    split <;> rfl
  | [first] =>
    simp only [BegodeFrameReassembler.feedByteResult]
    split
    · rfl
    · split <;> rfl
  | first :: second :: rest =>
    have behind : 2 ≤ (first :: second :: rest).length := by simp
    rw [feedByteResult_collecting behind, feedByteResult_collecting behind]
    dsimp only
    generalize (if first :: second :: rest ++ [byte] ∈ begodeGlitches then begodeHeader
      else first :: second :: rest ++ [byte]) = pushed
    split <;> rfl

private theorem feedByteResultAt_buffer (byte : Byte) (time : Nat) :
    ((reassembler.feedByteResultAt byte time).1.buffer, (reassembler.feedByteResultAt byte time).2) =
      feedBuffer reassembler.buffer byte := by
  rw [← feedByteResult_buffer]
  unfold BegodeFrameReassembler.feedByteResultAt
  generalize reassembler.feedByteResult byte = outcome
  obtain ⟨next, result⟩ := outcome
  cases result <;> rfl

theorem feedByteResult_timed {reassembler : BegodeFrameReassembler} {byte : Byte}
    (timed : reassembler.buffer = [] → reassembler.lastByteMs = none)
    (empty : (reassembler.feedByteResult byte).1.buffer = []) : (reassembler.feedByteResult byte).1.lastByteMs = none := by
  obtain ⟨buffer, lastByteMs⟩ := reassembler
  match buffer with
  | [] =>
    simp only [BegodeFrameReassembler.feedByteResult] at empty ⊢
    split at empty
    · cases empty
    · next other =>
      rw [if_neg other]
      exact timed rfl
  | [first] =>
    simp only [BegodeFrameReassembler.feedByteResult] at empty ⊢
    split at empty
    · cases empty
    · next other =>
      rw [if_neg other]
      split at empty
      · next foreign => rw [if_pos foreign]
      · cases empty
  | first :: second :: rest =>
    have behind : 2 ≤ (first :: second :: rest).length := by simp
    rw [feedByteResult_collecting behind] at empty ⊢
    dsimp only at empty ⊢
    have nonempty : (if first :: second :: rest ++ [byte] ∈ begodeGlitches then begodeHeader
        else first :: second :: rest ++ [byte]) ≠ [] := by
      split <;> simp [begodeHeader]
    generalize (if first :: second :: rest ++ [byte] ∈ begodeGlitches then begodeHeader
      else first :: second :: rest ++ [byte]) = pushed at empty nonempty ⊢
    split at empty
    · exact absurd empty nonempty
    · next finished => rw [if_neg finished]

/-- A reachable reassembler: its candidate is the end of what was fed. -/
structure BegodeHolds (past : BegodeHistory) (reassembler : BegodeFrameReassembler) : Prop where
  tracks : BegodeTracking reassembler.buffer
  held : reassembler.buffer <:+ BegodeHistory.fed past
  timed : reassembler.buffer = [] → reassembler.lastByteMs = none

theorem BegodeHistory.fed_snoc (past : BegodeHistory) (here : Step BegodeFrameReassembler BegodeCall BegodeReply) :
    BegodeHistory.fed (past ++ [here]) = BegodeHistory.fed past ++ BegodeHistory.fed [here] := by
  simp only [BegodeHistory.fed, List.filterMap_append]

theorem BegodeStep.window {byte : Byte}
    {outcome : BegodeFrameReassembler × Except BegodeFrameError BegodeFrameParseResult}
    (step : BegodeStep buffer byte outcome) :
    BegodeTracking outcome.1.buffer ∧ outcome.1.buffer <:+ buffer ++ [byte] := by
  cases step with
  | seeks _ tracks window => exact ⟨tracks, window⟩
  | completes | rejects => exact ⟨.seeking, List.nil_suffix⟩

private theorem expireIdle_cases (time timeout : Nat) :
    (reassembler.expireIdle time timeout).1 = reassembler ∨ (reassembler.expireIdle time timeout).1 = {} := by
  unfold BegodeFrameReassembler.expireIdle
  split
  · exact .inl rfl
  · split
    · exact .inl rfl
    · exact .inr rfl

private theorem feedByteResultAt_timed {reassembler : BegodeFrameReassembler} {byte : Byte} {time : Nat}
    (timed : reassembler.buffer = [] → reassembler.lastByteMs = none)
    (empty : (reassembler.feedByteResultAt byte time).1.buffer = []) :
    (reassembler.feedByteResultAt byte time).1.lastByteMs = none := by
  have plain : (reassembler.feedByteResult byte).1.buffer = [] → (reassembler.feedByteResult byte).1.lastByteMs = none :=
    feedByteResult_timed timed
  unfold BegodeFrameReassembler.feedByteResultAt at empty ⊢
  generalize reassembler.feedByteResult byte = outcome at plain empty ⊢
  obtain ⟨next, result⟩ := outcome
  cases result with
  | error error => exact plain empty
  | ok result => exact if_pos empty

theorem BegodeHolds.step {past : BegodeHistory} {reassembler : BegodeFrameReassembler} (call : BegodeCall)
    (holds : BegodeHolds past reassembler) :
    BegodeHolds (past ++ [Runs.take BegodeFrameReassembler.step reassembler call]) (reassembler.step call).1 := by
  obtain ⟨tracks, held, timed⟩ := holds
  cases call with
  | feedByteResult byte =>
    obtain ⟨tracking, window⟩ := (tracks.feeds byte reassembler.lastByteMs).window
    refine ⟨tracking, ?_, feedByteResult_timed timed⟩
    rw [BegodeHistory.fed_snoc]
    exact window.trans (List.suffix_append_self_iff.mpr held)
  | feedByteResultAt byte time =>
    obtain ⟨tracking, window⟩ := (tracks.step byte reassembler.lastByteMs time).window
    refine ⟨tracking, ?_, feedByteResultAt_timed timed⟩
    rw [BegodeHistory.fed_snoc]
    exact window.trans (List.suffix_append_self_iff.mpr held)
  | expireIdle time timeout =>
    have nothing : BegodeHistory.fed [Runs.take BegodeFrameReassembler.step reassembler (.expireIdle time timeout)] = [] := rfl
    have kept := expireIdle_cases reassembler time timeout
    rw [BegodeFrameReassembler.step]
    rcases kept with same | dropped
    · rw [same]
      refine ⟨tracks, ?_, timed⟩
      rw [BegodeHistory.fed_snoc, nothing, List.append_nil]
      exact held
    · rw [dropped]
      exact ⟨.seeking, List.nil_suffix, fun _ => rfl⟩
  | reset => exact ⟨.seeking, List.nil_suffix, fun _ => rfl⟩

theorem begode_holds (calls : List BegodeCall) :
    BegodeHolds (Runs.history BegodeFrameReassembler.step {} calls) (Runs.final BegodeFrameReassembler.step {} calls) := by
  apply Runs.induction_on
  · exact ⟨.seeking, List.nil_suffix, fun _ => rfl⟩
  · intro past reassembler call holds
    exact holds.step call

def follow : List Byte → List Byte → List Byte × List (Except BegodeFrameError BegodeFrameParseResult)
  | buffer, [] => (buffer, [])
  | buffer, byte :: later =>
    let (next, result) := feedBuffer buffer byte
    let (final, results) := follow next later
    (final, result :: results)

theorem follow_append (buffer front back : List Byte) :
    follow buffer (front ++ back) = ((follow (follow buffer front).1 back).1,
      (follow buffer front).2 ++ (follow (follow buffer front).1 back).2) := by
  induction front generalizing buffer with
  | nil => rfl
  | cons byte front ih => simp only [List.cons_append, follow, ih]

theorem FeedsWord.follows {calls : List BegodeCall} (feeds : FeedsWord calls word)
    (reassembler : BegodeFrameReassembler) :
    (Runs.final BegodeFrameReassembler.step reassembler calls).buffer = (follow reassembler.buffer word).1 ∧
      (Runs.history BegodeFrameReassembler.step reassembler calls).map Step.output =
        (follow reassembler.buffer word).2.map .fed := by
  induction calls generalizing reassembler word with
  | nil =>
    cases word with
    | nil => exact ⟨rfl, rfl⟩
    | cons byte word => cases feeds
  | cons call calls ih =>
    cases word with
    | nil => cases feeds
    | cons byte word =>
      simp only [FeedsWord, List.map_cons, List.cons.injEq] at feeds
      obtain ⟨here, later⟩ := feeds
      have outcome : (reassembler.step call).1.buffer = (feedBuffer reassembler.buffer byte).1 ∧
          (reassembler.step call).2 = .fed (feedBuffer reassembler.buffer byte).2 := by
        cases call with
        | feedByteResult other =>
          cases here
          rw [← feedByteResult_buffer]
          exact ⟨rfl, rfl⟩
        | feedByteResultAt other time =>
          cases here
          rw [← feedByteResultAt_buffer reassembler byte time]
          exact ⟨rfl, rfl⟩
        | expireIdle | reset => cases here
      obtain ⟨buffer, outputs⟩ := ih later (reassembler.step call).1
      rw [outcome.1] at buffer outputs
      refine ⟨buffer, ?_⟩
      simp only [Runs.history, List.map_cons, follow, outputs]
      rw [← outcome.2]
      rfl

theorem feedBuffer_collecting (behind : 2 ≤ buffer.length) (byte : Byte) (proper : buffer ++ [byte] ∉ begodeGlitches) :
    feedBuffer buffer byte = if (buffer ++ [byte]).length ≠ begodeFrameLen then (buffer ++ [byte], .ok .buffered)
      else ([], (BegodeFrame.tryFromSlice (buffer ++ [byte])).map .complete) := by
  unfold feedBuffer
  rw [feedByteResult_collecting behind]
  simp only [proper, if_false]
  split <;> rfl

/-- Behind the header the rest of a frame is buffered byte by byte, and its last byte completes it. -/
theorem BegodeWellFormed.collects (valid : BegodeWellFormed (buffer ++ more)) (behind : 2 ≤ buffer.length)
    (unfinished : more ≠ []) : follow buffer more = ([], List.replicate (more.length - 1) (.ok .buffered) ++
      [.ok (.complete ⟨buffer ++ more, valid.sized, valid.header, valid.terminated⟩)]) := by
  induction more generalizing buffer with
  | nil => exact absurd rfl unfinished
  | cons byte more ih =>
    have joined : buffer ++ byte :: more = (buffer ++ [byte]) ++ more := by simp
    have proper : buffer ++ [byte] ∉ begodeGlitches := fun member => valid.smooth _ member ⟨more, joined.symm⟩
    have sized := valid.sized
    have fed := feedBuffer_collecting behind byte proper
    by_cases last : more = []
    · subst last
      have parsed : BegodeFrame.tryFromSlice (buffer ++ [byte]) = .ok ⟨_, sized, valid.header, valid.terminated⟩ := by
        rw [BegodeFrame.tryFromSlice, dif_pos ⟨sized, valid.header, valid.terminated⟩]
      rw [if_neg (not_not.mpr sized), parsed] at fed
      simp only [follow, fed]
      rfl
    · have short : (buffer ++ [byte]).length ≠ begodeFrameLen := by
        have := List.length_pos_iff.mpr last
        rw [joined, List.length_append] at sized
        omega
      have longer : 2 ≤ (buffer ++ [byte]).length := by
        rw [List.length_append]
        omega
      have rest := ih (joined ▸ valid) longer last
      have count : (byte :: more).length - 1 = more.length - 1 + 1 := by
        have := List.length_pos_iff.mpr last
        simp only [List.length_cons]
        omega
      rw [if_pos short] at fed
      simp only [follow, fed, rest, count, List.replicate_succ, List.cons_append, joined]

/-- A frame that begins with no glitch, fed to an empty buffer, is completed by its last byte. -/
theorem BegodeWellFormed.comes_out (valid : BegodeWellFormed word) :
    follow [] word = ([], List.replicate (word.length - 1) (.ok .buffered) ++
      [.ok (.complete ⟨word, valid.sized, valid.header, valid.terminated⟩)]) := by
  obtain ⟨rest, rfl⟩ := valid.header
  have size : rest.length = 22 := by
    have sized := valid.sized
    simp only [begodeHeader, begodeFrameLen, List.length_append, List.length_cons, List.length_nil] at sized
    omega
  have unfinished : rest ≠ [] := by
    rintro rfl
    cases size
  have collected := valid.collects (Nat.le_refl 2) unfinished
  have header : follow [] begodeHeader = (begodeHeader, [.ok .buffered, .ok .buffered]) := by decide
  rw [follow_append, header, collected]
  simp only [List.length_append, size]
  rfl

theorem BegodeFrame.wellFormed (frame : BegodeFrame) (smooth : ∀ glitch ∈ begodeGlitches, ¬glitch <+: frame.bytes) :
    BegodeWellFormed frame.bytes := ⟨frame.sized, frame.header, frame.terminated, smooth⟩

private theorem follow_foreign (foreign : 0x55 ∉ word) : (follow [] word).1 = [] := by
  induction word with
  | nil => rfl
  | cons byte word ih =>
    rw [List.mem_cons, not_or] at foreign
    obtain ⟨apart, later⟩ := foreign
    have fed : feedBuffer [] byte = ([], .ok .seeking) := by
      simp [feedBuffer, BegodeFrameReassembler.feedByteResult, Ne.symm apart]
    simp only [follow, fed]
    exact ih later

/-- A candidate that meets no glitch is finished by its 24th byte, one way or the other. -/
theorem follow_finishes (behind : 2 ≤ buffer.length) (unfinished : more ≠ [])
    (full : (buffer ++ more).length = begodeFrameLen)
    (smooth : ∀ front rest, more = front ++ rest → front ≠ [] → buffer ++ front ∉ begodeGlitches) :
    (follow buffer more).1 = [] := by
  induction more generalizing buffer with
  | nil => exact absurd rfl unfinished
  | cons byte more ih =>
    have fed := feedBuffer_collecting behind byte (smooth [byte] more rfl (by simp))
    by_cases last : more = []
    · subst last
      rw [if_neg (not_not.mpr full)] at fed
      simp only [follow, fed]
    · have positive := List.length_pos_iff.mpr last
      simp only [List.length_append, List.length_cons] at full
      have short : (buffer ++ [byte]).length ≠ begodeFrameLen := by
        rw [List.length_append, List.length_singleton]
        omega
      rw [if_pos short] at fed
      simp only [follow, fed]
      apply ih
      · rw [List.length_append]
        omega
      · exact last
      · simp only [List.length_append, List.length_singleton]
        omega
      · intro front rest split nonempty
        rw [List.append_assoc]
        exact smooth ([byte] ++ front) rest (by rw [split]; rfl) (by simp)

private theorem glitch_of_header {front : List Byte} (header : begodeHeader <+: buffer)
    (glitch : buffer ++ 0x55 :: front ∈ begodeGlitches) :
    buffer = [0x55, 0xaa, 0x5a] ∨ buffer = [0x55, 0xaa, 0x5a, 0x5a] := by
  obtain ⟨tail, rfl⟩ := header
  simp only [begodeGlitches, begodeHeader, List.cons_append, List.nil_append, List.mem_cons, List.cons.injEq,
    List.not_mem_nil, or_false, true_and] at glitch
  rcases tail with - | ⟨first, - | ⟨second, - | ⟨third, rest⟩⟩⟩
  · simp at glitch
  · simp only [List.cons_append, List.nil_append, List.cons.injEq] at glitch
    rcases glitch with ⟨rfl, -⟩ | ⟨-, wrong, -⟩
    · exact .inl rfl
    · exact absurd wrong (by decide)
  · simp only [List.cons_append, List.nil_append, List.cons.injEq] at glitch
    rcases glitch with ⟨-, -, wrong, -⟩ | ⟨rfl, rfl, -⟩
    · exact absurd wrong (by decide)
    · exact .inr rfl
  · rcases rest with - | ⟨fourth, rest⟩
    · simp at glitch
    · simp at glitch

section Resync
variable {buffer : List Byte} {frame : BegodeFrame} (foreign : 0x55 ∉ frame.bytes.drop 2)
include foreign

theorem wellFormed_of_foreign : BegodeWellFormed frame.bytes := by
  refine frame.wellFormed ?_
  intro glitch member front
  apply foreign
  have inside : glitch.drop 2 <+: frame.bytes.drop 2 := front.drop 2
  apply inside.subset
  simp only [begodeGlitches, List.mem_cons, List.not_mem_nil, or_false] at member
  rcases member with rfl | rfl <;> decide

theorem completes_from_empty : .ok (.complete frame) ∈ (follow [] frame.bytes).2 := by
  rw [(wellFormed_of_foreign foreign).comes_out]
  exact List.mem_append_right _ (List.mem_singleton_self _)

/-- Behind one of the two glitches the header counts as the beginning of the frame. -/
theorem completes_from_glitch (glitched : (follow buffer begodeHeader).1 = begodeHeader) :
    .ok (.complete frame) ∈ (follow buffer frame.bytes).2 := by
  have valid := wellFormed_of_foreign foreign
  obtain ⟨bytes, sized, header, terminated⟩ := frame
  obtain ⟨rest, rfl⟩ := header
  have unfinished : rest ≠ [] := by
    rintro rfl
    cases sized
  rw [follow_append, glitched, valid.collects (Nat.le_refl 2) unfinished]
  simp

/-- Any other candidate is finished inside the frame and leaves nothing of it to begin with. -/
theorem empty_after_frame (candidate : BegodePartial buffer)
    (plain : ¬(buffer = [0x55, 0xaa, 0x5a] ∨ buffer = [0x55, 0xaa, 0x5a, 0x5a])) :
    (follow buffer frame.bytes).1 = [] := by
  have behind : 2 ≤ buffer.length := by simpa [begodeHeader] using candidate.header.length_le
  have short := candidate.short
  have sized := frame.sized
  simp only [begodeFrameLen] at short sized
  rw [← List.take_append_drop (24 - buffer.length) frame.bytes, follow_append]
  have finished : (follow buffer (frame.bytes.take (24 - buffer.length))).1 = [] := by
    apply follow_finishes behind
    · intro empty
      have := congrArg List.length empty
      rw [List.length_take, List.length_nil] at this
      omega
    · rw [List.length_append, List.length_take, begodeFrameLen]
      omega
    · intro front rest split nonempty glitch
      obtain ⟨body, same⟩ := frame.header
      have begins : front <+: begodeHeader ++ body := by
        rw [same]
        exact (List.prefix_append front rest).trans (split ▸ List.take_prefix _ _)
      cases front with
      | nil => exact nonempty rfl
      | cons first front =>
        obtain ⟨rfl, -⟩ := List.cons_prefix_cons.mp begins
        exact plain (glitch_of_header candidate.header glitch)
  rw [finished]
  apply follow_foreign
  intro member
  by_cases last : buffer.length = 23
  · rw [last] at member
    obtain ⟨body, same⟩ := frame.header
    have second : frame.bytes.drop 1 = 0xaa :: frame.bytes.drop 2 := by
      rw [← same]
      rfl
    rw [second] at member
    rcases List.mem_cons.mp member with wrong | there
    · exact absurd wrong (by decide)
    · exact foreign there
  · have split : frame.bytes.drop (24 - buffer.length) = (frame.bytes.drop 2).drop (22 - buffer.length) := by
      rw [List.drop_drop]
      congr 1
      omega
    rw [split] at member
    exact foreign (List.mem_of_mem_drop member)

/-- Fed twice, a frame without a header byte inside comes out of every reachable buffer. -/
theorem completes_when_fed_twice (tracks : BegodeTracking buffer) :
    .ok (.complete frame) ∈ (follow buffer (frame.bytes ++ frame.bytes)).2 := by
  have first {buffer : List Byte} (caught : .ok (.complete frame) ∈ (follow buffer frame.bytes).2) :
      .ok (.complete frame) ∈ (follow buffer (frame.bytes ++ frame.bytes)).2 := by
    rw [follow_append]
    exact List.mem_append_left _ caught
  cases tracks with
  | seeking => exact first (completes_from_empty foreign)
  | first => exact first (completes_from_glitch foreign (by decide))
  | collecting candidate =>
    by_cases glitched : buffer = [0x55, 0xaa, 0x5a] ∨ buffer = [0x55, 0xaa, 0x5a, 0x5a]
    · rcases glitched with rfl | rfl <;> exact first (completes_from_glitch foreign (by decide))
    · rw [follow_append, empty_after_frame foreign candidate glitched]
      exact List.mem_append_right _ (completes_from_empty foreign)

end Resync

/-- In every run of the Begode reassembler the buffer is empty, or a header byte, or a
header with fewer than 24 bytes in all; a candidate's time goes with it; a completed frame
is the bytes fed last. From there a frame without a header byte behind its header comes
out when it is fed twice, and from an empty buffer every frame that begins with no glitch
is completed by its last byte. -/
theorem begode_reassembler_resynchronises (calls : List BegodeCall) :
    let reassembler := Runs.final BegodeFrameReassembler.step {} calls
    (reassembler.buffer = [] ∨ reassembler.buffer = [0x55] ∨
      [0x55, 0xaa] <+: reassembler.buffer ∧ reassembler.buffer.length < 24) ∧
    (reassembler.buffer = [] → reassembler.lastByteMs = none) ∧
    (∀ past here later frame, Runs.history BegodeFrameReassembler.step {} calls = past ++ here :: later →
      here.output = .fed (.ok (.complete frame)) →
      frame.bytes.length = 24 ∧ frame.bytes <:+ BegodeHistory.fed (past ++ [here])) ∧
    (∀ frame : BegodeFrame, 0x55 ∉ frame.bytes.drop 2 → ∀ feeds, FeedsWord feeds (frame.bytes ++ frame.bytes) →
      .fed (.ok (.complete frame)) ∈ (Runs.history BegodeFrameReassembler.step reassembler feeds).map Step.output) ∧
    (reassembler.buffer = [] → ∀ frame : BegodeFrame, ¬[0x5a, 0x55, 0xaa] <+: frame.bytes.drop 2 →
      ¬[0x5a, 0x5a, 0x55, 0xaa] <+: frame.bytes.drop 2 → ∀ feeds, FeedsWord feeds frame.bytes →
      (Runs.history BegodeFrameReassembler.step reassembler feeds).map Step.output =
        List.replicate 23 (.fed (.ok .buffered)) ++ [.fed (.ok (.complete frame))]) := by
  intro reassembler
  have holds := begode_holds calls
  refine ⟨?_, holds.timed, ?_, ?_, ?_⟩
  · have tracks := holds.tracks
    change BegodeTracking reassembler.buffer at tracks
    generalize reassembler.buffer = buffer at tracks
    cases tracks with
    | seeking => exact .inl rfl
    | first => exact .inr (.inl rfl)
    | collecting candidate => exact .inr (.inr ⟨candidate.header, candidate.short⟩)
  · intro past here later frame split completed
    obtain ⟨first, last, -, rfl, same, -⟩ := Runs.history_split split
    have before := begode_holds first
    generalize Runs.final BegodeFrameReassembler.step {} first = state at same before
    have found {byte : Byte} {outcome} (step : BegodeStep state.buffer byte outcome)
        (output : outcome.2 = .ok (.complete frame)) : frame.bytes = state.buffer ++ [byte] := by
      cases step with
      | seeks quiet _ _ => rcases quiet with rfl | rfl <;> cases output
      | completes bytes _ =>
        cases output
        exact bytes
      | rejects => cases output
    refine ⟨frame.sized, ?_⟩
    rw [BegodeHistory.fed_snoc]
    rw [same] at completed ⊢
    cases input : here.input with
    | feedByteResult byte =>
      rw [input] at completed
      rw [found (before.tracks.feeds byte state.lastByteMs) (BegodeReply.fed.inj completed)]
      exact List.suffix_append_self_iff.mpr before.held
    | feedByteResultAt byte time =>
      rw [input] at completed
      rw [found (before.tracks.step byte state.lastByteMs time) (BegodeReply.fed.inj completed)]
      exact List.suffix_append_self_iff.mpr before.held
    | expireIdle | reset =>
      rw [input] at completed
      cases completed
  · intro frame foreign feeds word
    rw [(word.follows reassembler).2]
    exact List.mem_map_of_mem (completes_when_fed_twice foreign holds.tracks)
  · intro empty frame single double feeds word
    have valid : BegodeWellFormed frame.bytes := by
      refine frame.wellFormed ?_
      intro glitch member front
      simp only [begodeGlitches, List.mem_cons, List.not_mem_nil, or_false] at member
      rcases member with rfl | rfl
      · exact single (front.drop 2)
      · exact double (front.drop 2)
    rw [(word.follows reassembler).2, empty, valid.comes_out]
    simp [frame.sized, begodeFrameLen]

end Begode

end Cutout.Protocols
