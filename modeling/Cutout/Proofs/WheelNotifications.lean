import Cutout.Proofs.WheelFrames
import Cutout.Library.Reassembler

/-! When notification boundaries are visible to the wheel decoders. Both byte
loops are reassembler deliveries, so the cut matters exactly when a complete
frame arrives behind a rejected candidate. A frame is complete where its bytes
stand together in the stream: the candidate buffer is always what was fed last. -/

namespace Cutout.Protocols
open Library
variable {byte : Byte}
variable (time : Nat)

def handedOn {Frame : Type} (outputs : List (WheelOutput Frame)) : List Frame :=
  outputs.filterMap fun
    | .frame frame => some frame
    | _ => none

section Veteran
variable {κ : Type} (sink : FrameSink κ VeteranFrame)

/-- Handles the notifications in order, all at one time, and collects the frames. -/
def veteranFrames (time : Nat) (decoder : VeteranNotificationDecoder κ) : List (List Byte) → List VeteranFrame
  | [] => []
  | bytes :: later =>
    let (next, outputs) := decoder.handleNotification sink time bytes
    handedOn outputs ++ veteranFrames time next later

def veteranFeed : Except VeteranReassemblyError VeteranFrameParseResult → Feed VeteranFrame VeteranReassemblyError
  | .ok (.complete frame) => .complete frame
  | .ok .buffered | .ok .seeking => .quiet
  | .error error => .reject error

def veteranMachine : Reassembler VeteranFrameReassembler Byte VeteranFrame VeteranReassemblyError where
  initial := {}
  feed reassembler byte := ((reassembler.feedByteResult byte).1, veteranFeed (reassembler.feedByteResult byte).2)
  reject_initial := by
    intro reassembler byte next error rejected
    obtain ⟨rfl, rejected⟩ := Prod.mk.inj rejected
    unfold VeteranFrameReassembler.feedByteResult at rejected ⊢
    cases outcome : reassembler.state.feedByte byte reassembler.buffer with
    | error error => rfl
    | ok result =>
      obtain ⟨state, buffer, frame⟩ := result
      rw [outcome] at rejected
      cases frame with
      | some frame => cases rejected
      | none => by_cases empty : buffer = [] <;> simp [empty, veteranFeed] at rejected

theorem veteranMachine_feed {reassembler next : VeteranFrameReassembler}
    {result : Except VeteranReassemblyError VeteranFrameParseResult}
    (fed : reassembler.feedByteResult byte = (next, result)) :
    veteranMachine.feed reassembler byte = (next, veteranFeed result) := by
  simp [veteranMachine, fed]

private theorem veteran_handleBytes (time byteLen : Nat) (decoder : VeteranNotificationDecoder κ) (completed buffered : Bool)
    (bytes : List Byte) :
    let result := decoder.handleBytes sink byteLen time completed buffered bytes
    (result.1.reassembler, handedOn result.2) = veteranMachine.deliver decoder.reassembler bytes := by
  induction bytes generalizing decoder completed buffered with
  | nil => cases completed <;> simp [VeteranNotificationDecoder.handleBytes, handedOn, Reassembler.deliver]
  | cons byte bytes ih =>
    simp only [VeteranNotificationDecoder.handleBytes, Reassembler.deliver]
    cases outcome : decoder.reassembler.feedByteResult byte with
    | mk next result =>
      rw [veteranMachine_feed outcome]
      cases result with
      | error error => simp [handedOn, veteranFeed]
      | ok parsed =>
        cases parsed with
        | seeking | buffered => exact ih _ _ _
        | complete frame =>
          have later := ih ⟨next, (sink.push decoder.telemetry frame time).1⟩ true false
          simp only [Prod.ext_iff] at later
          simp [handedOn, veteranFeed, ← later.1, ← later.2]

private theorem veteranFrames_eq (decoder : VeteranNotificationDecoder κ) (notifications : List (List Byte)) :
    veteranFrames sink time decoder notifications =
      (veteranMachine.deliverAll decoder.reassembler notifications).2 := by
  induction notifications generalizing decoder with
  | nil => rfl
  | cons bytes later ih =>
    have one := veteran_handleBytes sink time bytes.length decoder false false bytes
    simp only [Prod.ext_iff] at one
    simp only [veteranFrames, Reassembler.deliverAll, VeteranNotificationDecoder.handleNotification, ih, ← one.1, ← one.2]

/-- From the magic on, the rest of a well-formed frame comes out at its end. -/
theorem veteran_collects {buffer more : List Byte} (later : List Byte) (valid : VeteranWellFormed (buffer ++ more))
    (started : veteranMagic <+: buffer) (unfinished : more ≠ []) :
    (veteranMachine.deliver ⟨buffer, .collecting⟩ (more ++ later)).2 ≠ [] := by
  induction more generalizing buffer with
  | nil => exact absurd rfl unfinished
  | cons byte more ih =>
    have fed := valid.collected started
    rw [List.cons_append, Reassembler.deliver]
    by_cases last : more = []
    · rw [if_pos last] at fed
      rw [veteranMachine_feed fed]
      simp [veteranFeed]
    · rw [if_neg last] at fed
      rw [veteranMachine_feed fed]
      have joined : buffer ++ byte :: more = (buffer ++ [byte]) ++ more := by simp
      exact ih (joined ▸ valid) (started.trans (List.prefix_append _ _)) last

private theorem veteran_whole {word : List Byte} (later : List Byte) (valid : VeteranWellFormed word) :
    (veteranMachine.deliver veteranMachine.initial (word ++ later)).2 ≠ [] := by
  obtain ⟨rest, rfl⟩ := valid.magic
  have sized := valid.sized
  have unfinished : rest ≠ [] := by
    rintro rfl
    simp [veteranMagic, veteranExpectedLen] at sized
  exact @veteran_collects veteranMagic rest later valid (List.prefix_refl _) unfinished

/-- The Veteran reassembler completes exactly the well-formed frames. -/
def veteranWindow : veteranMachine.Windowed VeteranWellFormed where
  held := VeteranFrameReassembler.buffer
  Tracks := VeteranTracking
  initial_held := rfl
  initial_tracks := .seeking
  quiet := by
    intro state byte next tracks fed
    have step := tracks.step byte
    cases outcome : state.feedByteResult byte with
    | mk after result =>
      rw [veteranMachine_feed outcome] at fed
      obtain ⟨rfl, quiet⟩ := Prod.mk.inj fed
      rw [outcome] at step
      cases step with
      | seeks _ tracks' last => exact ⟨tracks', last⟩
      | completes | mismatches => cases quiet
  complete := by
    intro state byte next frame tracks fed
    have step := tracks.step byte
    cases outcome : state.feedByteResult byte with
    | mk after result =>
      rw [veteranMachine_feed outcome] at fed
      obtain ⟨rfl, completed⟩ := Prod.mk.inj fed
      rw [outcome] at step
      cases step with
      | seeks shape _ _ => rcases shape with rfl | rfl <;> cases completed
      | completes same valid => exact same ▸ valid
      | mismatches => cases completed
  whole := veteran_whole

end Veteran

section Begode
variable {κ : Type} (sink : FrameSink κ BegodeFrame)

/-- Handles the notifications in order, all at one time, and collects the frames. -/
def begodeFrames (time : Nat) (decoder : BegodeNotificationDecoder κ) : List (List Byte) → List BegodeFrame
  | [] => []
  | bytes :: later =>
    let (next, outputs) := decoder.handleNotification sink time bytes
    handedOn outputs ++ begodeFrames time next later

def begodeFeed : Except BegodeFrameError BegodeFrameParseResult → Feed BegodeFrame BegodeFrameError
  | .ok (.complete frame) => .complete frame
  | .ok .buffered | .ok .seeking => .quiet
  | .error error => .reject error

private theorem begode_error_resets {reassembler next : BegodeFrameReassembler} {time : Nat} {error : BegodeFrameError}
    (fed : reassembler.feedByteResultAt byte time = (next, .error error)) : next = {} := by
  obtain ⟨buffer, lastByteMs⟩ := reassembler
  unfold BegodeFrameReassembler.feedByteResultAt at fed
  match buffer with
  | [] =>
    by_cases start : byte = 0x55 <;> simp [BegodeFrameReassembler.feedByteResult, start] at fed
  | [first] =>
    by_cases second : byte = 0xaa
    · simp [BegodeFrameReassembler.feedByteResult, second] at fed
    · by_cases start : byte = 0x55 <;> simp [BegodeFrameReassembler.feedByteResult, start, second] at fed
  | first :: second :: rest =>
    rw [BegodeFrameReassembler.feedByteResult_collecting (by simp)] at fed
    simp only at fed
    generalize pushed : (if first :: second :: rest ++ [byte] ∈ begodeGlitches then begodeHeader
      else first :: second :: rest ++ [byte]) = buffer at fed
    by_cases full : buffer.length = begodeFrameLen
    · simp only [full, ne_eq, not_true_eq_false, if_false] at fed
      cases parsed : BegodeFrame.tryFromSlice buffer with
      | error refused => simp_all [Except.map]
      | ok frame => simp [parsed, Except.map] at fed
    · simp [full] at fed

def begodeMachine (time : Nat) : Reassembler BegodeFrameReassembler Byte BegodeFrame BegodeFrameError where
  initial := {}
  feed reassembler byte :=
    ((reassembler.feedByteResultAt byte time).1, begodeFeed (reassembler.feedByteResultAt byte time).2)
  reject_initial := by
    intro reassembler byte next error rejected
    cases outcome : reassembler.feedByteResultAt byte time with
    | mk after result =>
      rw [outcome] at rejected
      obtain ⟨rfl, rejected⟩ := Prod.mk.inj rejected
      cases result with
      | error error => exact begode_error_resets outcome
      | ok parsed => cases parsed <;> cases rejected

theorem begodeMachine_feed {reassembler next : BegodeFrameReassembler} {time : Nat}
    {result : Except BegodeFrameError BegodeFrameParseResult}
    (fed : reassembler.feedByteResultAt byte time = (next, result)) :
    (begodeMachine time).feed reassembler byte = (next, begodeFeed result) := by
  simp [begodeMachine, fed]

private theorem begode_handleBytes (time byteLen : Nat) (decoder : BegodeNotificationDecoder κ) (completed : Bool)
    (eventCount : Nat) (bytes : List Byte) :
    let result := decoder.handleBytes sink byteLen time completed eventCount bytes
    (result.1.reassembler, handedOn result.2) = (begodeMachine time).deliver decoder.reassembler bytes := by
  induction bytes generalizing decoder completed eventCount with
  | nil =>
    by_cases silent : completed = true ∧ eventCount = 0 <;>
      simp [BegodeNotificationDecoder.handleBytes, handedOn, Reassembler.deliver, silent]
  | cons byte bytes ih =>
    simp only [BegodeNotificationDecoder.handleBytes, Reassembler.deliver]
    cases outcome : decoder.reassembler.feedByteResultAt byte time with
    | mk next result =>
      rw [begodeMachine_feed outcome]
      cases result with
      | error error => simp [handedOn, begodeFeed]
      | ok parsed =>
        cases parsed with
        | seeking | buffered => exact ih _ _ _
        | complete frame =>
          have later := ih ⟨next, (sink.push decoder.telemetry frame time).1⟩ true
            (eventCount + (sink.push decoder.telemetry frame time).2)
          simp only [Prod.ext_iff] at later
          simp [handedOn, begodeFeed, ← later.1, ← later.2]

private theorem begodeFrames_eq (decoder : BegodeNotificationDecoder κ) (notifications : List (List Byte)) :
    begodeFrames sink time decoder notifications =
      ((begodeMachine time).deliverAll decoder.reassembler notifications).2 := by
  induction notifications generalizing decoder with
  | nil => rfl
  | cons bytes later ih =>
    have one := begode_handleBytes sink time bytes.length decoder false 0 bytes
    simp only [Prod.ext_iff] at one
    simp only [begodeFrames, Reassembler.deliverAll, BegodeNotificationDecoder.handleNotification, ih, ← one.1, ← one.2]

private theorem begode_collects {buffer more : List Byte} (time : Nat) (later : List Byte) (lastByteMs : Option Nat)
    (valid : BegodeWellFormed (buffer ++ more)) (behind : 2 ≤ buffer.length) (unfinished : more ≠ []) :
    ((begodeMachine time).deliver ⟨buffer, lastByteMs⟩ (more ++ later)).2 ≠ [] := by
  induction more generalizing buffer lastByteMs with
  | nil => exact absurd rfl unfinished
  | cons byte more ih =>
    have fed := valid.collected behind lastByteMs time
    rw [List.cons_append, Reassembler.deliver]
    by_cases last : more = []
    · rw [if_pos last] at fed
      rw [begodeMachine_feed fed]
      simp [begodeFeed]
    · rw [if_neg last] at fed
      rw [begodeMachine_feed fed]
      have joined : buffer ++ byte :: more = (buffer ++ [byte]) ++ more := by simp
      exact ih (some time) (joined ▸ valid) (by simp; omega) last

private theorem begode_whole {word : List Byte} (later : List Byte) (valid : BegodeWellFormed word) :
    ((begodeMachine time).deliver (begodeMachine time).initial (word ++ later)).2 ≠ [] := by
  obtain ⟨rest, rfl⟩ := valid.header
  have sized := valid.sized
  have unfinished : rest ≠ [] := by
    rintro rfl
    simp [begodeHeader, begodeFrameLen] at sized
  exact @begode_collects begodeHeader rest time later (some time) valid (Nat.le_refl 2) unfinished

/-- The Begode reassembler completes exactly the well-formed frames. -/
def begodeWindow (time : Nat) : (begodeMachine time).Windowed BegodeWellFormed where
  held := BegodeFrameReassembler.buffer
  Tracks reassembler := BegodeTracking reassembler.buffer
  initial_held := rfl
  initial_tracks := .seeking
  quiet := by
    intro state byte next tracks fed
    have step := tracks.step byte state.lastByteMs time
    cases outcome : state.feedByteResultAt byte time with
    | mk after result =>
      rw [begodeMachine_feed outcome] at fed
      obtain ⟨rfl, quiet⟩ := Prod.mk.inj fed
      rw [outcome] at step
      cases step with
      | seeks _ tracks' last => exact ⟨tracks', last⟩
      | completes | rejects => cases quiet
  complete := by
    intro state byte next frame tracks fed
    have step := tracks.step byte state.lastByteMs time
    cases outcome : state.feedByteResultAt byte time with
    | mk after result =>
      rw [begodeMachine_feed outcome] at fed
      obtain ⟨rfl, completed⟩ := Prod.mk.inj fed
      rw [outcome] at step
      cases step with
      | seeks shape _ _ => rcases shape with rfl | rfl <;> cases completed
      | completes same valid => exact same ▸ valid
      | rejects => cases completed
  whole := begode_whole time

end Begode

/-- The reassembler after the bytes, fed one by one to the default state. -/
def VeteranFrameReassembler.after (bytes : List Byte) : VeteranFrameReassembler :=
  bytes.foldl (fun (reassembler : VeteranFrameReassembler) byte => (reassembler.feedByteResult byte).1) {}

def BegodeFrameReassembler.after (time : Nat) (bytes : List Byte) : BegodeFrameReassembler :=
  bytes.foldl (fun (reassembler : BegodeFrameReassembler) byte => (reassembler.feedByteResultAt byte time).1) {}

def VeteranRejects (front : List Byte) : Prop :=
  ∃ body last error, front = body ++ [last] ∧ ((VeteranFrameReassembler.after body).feedByteResult last).2 = .error error

def BegodeRejects (time : Nat) (front : List Byte) : Prop :=
  ∃ body last error, front = body ++ [last] ∧
    ((BegodeFrameReassembler.after time body).feedByteResultAt last time).2 = .error error

private theorem veteranRejects_iff (front : List Byte) : veteranMachine.Rejects front ↔ VeteranRejects front := by
  have same (result : Except VeteranReassemblyError VeteranFrameParseResult) (error : VeteranReassemblyError) :
      veteranFeed result = .reject error ↔ result = .error error := by
    match result with
    | .error found => simp [veteranFeed]
    | .ok .seeking | .ok .buffered | .ok (.complete frame) => simp [veteranFeed]
  simp only [Reassembler.Rejects, VeteranRejects, Reassembler.follow, veteranMachine, same,
    VeteranFrameReassembler.after]

private theorem begodeRejects_iff (front : List Byte) : (begodeMachine time).Rejects front ↔ BegodeRejects time front := by
  have same (result : Except BegodeFrameError BegodeFrameParseResult) (error : BegodeFrameError) :
      begodeFeed result = .reject error ↔ result = .error error := by
    match result with
    | .error found => simp [begodeFeed]
    | .ok .seeking | .ok .buffered | .ok (.complete frame) => simp [begodeFeed]
  simp only [Reassembler.Rejects, BegodeRejects, Reassembler.follow, begodeMachine, same,
    BegodeFrameReassembler.after]

/-- All ways of cutting a stream into notifications hand on the same frames if and only if no well-formed frame
stands in the stream behind a byte at which the reassembler rejects a candidate. -/
theorem wheel_frames_independent_of_notifications {κ ι : Type} (veteranSink : FrameSink κ VeteranFrame)
    (begodeSink : FrameSink ι BegodeFrame) (veteran : κ) (begode : ι) (time : Nat) (stream : List Byte) :
    ((∀ first second : List (List Byte), first.flatten = stream → second.flatten = stream →
        veteranFrames veteranSink time ⟨{}, veteran⟩ first = veteranFrames veteranSink time ⟨{}, veteran⟩ second) ↔
      ∀ front noise frame tail, stream = front ++ noise ++ frame ++ tail → VeteranRejects front →
        ¬VeteranWellFormed frame) ∧
    ((∀ first second : List (List Byte), first.flatten = stream → second.flatten = stream →
        begodeFrames begodeSink time ⟨{}, begode⟩ first = begodeFrames begodeSink time ⟨{}, begode⟩ second) ↔
      ∀ front noise frame tail, stream = front ++ noise ++ frame ++ tail → BegodeRejects time front →
        ¬BegodeWellFormed frame) := by
  constructor
  · simp only [veteranFrames_eq, ← veteranRejects_iff]
    exact veteranWindow.deliverAll_agree_iff stream
  · simp only [begodeFrames_eq, ← begodeRejects_iff]
    exact (begodeWindow time).deliverAll_agree_iff stream

def corruptedVeteranFrame : List Byte := [0xdc, 0x5a, 0x5c, 39] ++ List.replicate 39 0

def shortVeteranFrame : List Byte := [0xdc, 0x5a, 0x5c, 0]

def corruptedBegodeFrame : List Byte := [0x55, 0xaa] ++ List.replicate 22 0

def plainBegodeFrame : List Byte := [0x55, 0xaa] ++ List.replicate 18 0 ++ [0x5a, 0x5a, 0x5a, 0x5a]

/-- A frame sharing its notification with a corrupted one is lost. -/
theorem frame_behind_corrupted_frame_is_dropped :
    let veteranSink : FrameSink Unit VeteranFrame := ⟨fun _ _ _ => ((), 1)⟩
    let begodeSink : FrameSink Unit BegodeFrame := ⟨fun _ _ _ => ((), 1)⟩
    (veteranFrames veteranSink 0 ⟨{}, ()⟩ [corruptedVeteranFrame ++ shortVeteranFrame]).map VeteranFrame.bytes = [] ∧
      (veteranFrames veteranSink 0 ⟨{}, ()⟩ [corruptedVeteranFrame, shortVeteranFrame]).map VeteranFrame.bytes =
        [shortVeteranFrame] ∧
      (begodeFrames begodeSink 0 ⟨{}, ()⟩ [corruptedBegodeFrame ++ plainBegodeFrame]).map BegodeFrame.bytes = [] ∧
      (begodeFrames begodeSink 0 ⟨{}, ()⟩ [corruptedBegodeFrame, plainBegodeFrame]).map BegodeFrame.bytes =
        [plainBegodeFrame] := by
  refine ⟨?_, ?_, ?_, ?_⟩ <;> decide +kernel

end Cutout.Protocols
