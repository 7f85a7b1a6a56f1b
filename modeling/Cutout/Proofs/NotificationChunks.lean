import Cutout.Proofs.ReplyFrames

/-! Delivering a sequence of reply frames in notifications cut anywhere. Between
notifications the decoder is idle, waits with the front of a frame in its stream,
or holds the few bytes before a command byte. A notification that arrives in
between is fed unsplit: it may finish at most four frames and must not begin
another one. Under that condition every reply comes out exactly once, in order. -/

namespace Cutout.Protocols
open Library VescReadOnlyStreamDecoder
open VescNotificationDecoder (observeVescReply dropIdentityEvidence retireApplicationQuery handleNotification)
open Dispatch (handleReply emit routeChunk drainPending)
variable {frame : List Byte}
variable {replies : List VescReadOnlyReply}

def observedReplies (outputs : List SessionOutput) : List VescReadOnlyReply :=
  outputs.filterMap fun
    | .reply reply => some reply
    | _ => none

/-- Handles timed notifications in order and collects the observed replies. -/
def deliver (vesc : VescCrate) (decoder : VescNotificationDecoder) :
    List (Nat × List Byte) → VescNotificationDecoder × List VescReadOnlyReply
  | [] => (decoder, [])
  | (time, bytes) :: later =>
    let (next, outputs) := decoder.handleNotification vesc bytes time
    let (final, replies) := deliver vesc next later
    (final, observedReplies outputs ++ replies)

namespace VescNotificationDecoder

/-- A frame is in progress: the next notification is not split into frames. -/
def InProgress (decoder : VescNotificationDecoder) : Prop :=
  decoder.genericStreamPending = true ∨ decoder.genericPrefix ≠ []

def held (decoder : VescNotificationDecoder) : List Byte :=
  if decoder.genericStreamPending then decoder.stream.pending else decoder.genericPrefix

/-- A notification met by a frame in progress either stays inside that frame or ends exactly behind one of
the next four frames, and fits the buffer together with what is held. -/
def Continues (vesc : VescCrate) (decoder : VescNotificationDecoder) (bytes : List Byte) : Prop :=
  decoder.InProgress → (decoder.held ++ bytes).length ≤ vescMaxFrameLen ∧
    (frameParts (decoder.held ++ bytes) = .ok none ∨
      ∃ batch : List (List Byte), batch.length ≤ vescMaxStreamReplies ∧
        (∀ frame ∈ batch, ReplyFrame vesc frame) ∧ decoder.held ++ bytes = batch.flatten)

end VescNotificationDecoder

/-- Every notification of the run meets the condition in the state it arrives in. -/
def EachContinues (vesc : VescCrate) (decoder : VescNotificationDecoder) : List (Nat × List Byte) → Prop
  | [] => True
  | (time, bytes) :: later =>
    decoder.Continues vesc bytes ∧ EachContinues vesc (decoder.handleNotification vesc bytes time).1 later

inductive Tracking (decoder : VescNotificationDecoder) : List Byte → Prop where
  | idle : decoder.genericStreamPending = false → decoder.genericPrefix = [] → decoder.stream.pending = [] →
      Tracking decoder []
  | waiting : decoder.genericStreamPending = true → decoder.genericPrefix = [] →
      Tracking decoder decoder.stream.pending
  | holding : decoder.genericStreamPending = false → decoder.genericPrefix ≠ [] → decoder.stream.pending = [] →
      genericFrameKind decoder.genericPrefix = none → Tracking decoder decoder.genericPrefix

/-- The decoder follows the reply stream: no package frame interferes and the buffer is sound. -/
structure Following (decoder : VescNotificationDecoder) (kept : List Byte) : Prop where
  package : decoder.refloatStreamPending = false
  stream : decoder.stream.Valid
  tracking : Tracking decoder kept

private theorem observedReplies_append (first second : List SessionOutput) :
    observedReplies (first ++ second) = observedReplies first ++ observedReplies second :=
  List.filterMap_append ..

/-- Observing a reply may restart the package stream but leaves the reply stream alone. -/
theorem observeVescReply_parsing (decoder : VescNotificationDecoder) (reply : VescReadOnlyReply) (time : Nat) :
    let next := decoder.observeVescReply reply time
    next.stream = decoder.stream ∧ next.genericStreamPending = decoder.genericStreamPending ∧
      next.genericPrefix = decoder.genericPrefix ∧
      (decoder.refloatStreamPending = false → next.refloatStreamPending = false) := by
  cases reply with
  | firmwareInfo major minor test commit user =>
    simp only [observeVescReply, VescNotificationDecoder.observeFirmware]
    split <;> simp [dropIdentityEvidence, retireApplicationQuery]
  | values values =>
    simp only [observeVescReply]
    split
    · simp only [VescNotificationDecoder.observeController]
      split <;> simp [dropIdentityEvidence, retireApplicationQuery]
    · simp
  | customConfig index bytes =>
    simp only [observeVescReply]
    split <;> simp
  | _ => simp [observeVescReply, VescNotificationDecoder.learnBoardProfile]

/-- The parts of the work that a batch of replies neither reads nor writes. -/
theorem foldl_handleReply (time : Nat) (replies : List VescReadOnlyReply) (work : Dispatch) :
    let final := replies.foldl (handleReply time) work
    final.pending = work.pending ∧ observedReplies final.output = observedReplies work.output ++ replies ∧
      final.decoder.stream = work.decoder.stream ∧
      final.decoder.genericPrefix = work.decoder.genericPrefix ∧
      (work.decoder.refloatStreamPending = false → final.decoder.refloatStreamPending = false) := by
  induction replies generalizing work with
  | nil => simp
  | cons reply replies ih =>
    obtain ⟨stream, -, held, package⟩ := observeVescReply_parsing work.decoder reply time
    obtain ⟨pending, observed, stream', held', package'⟩ := ih (work.handleReply time reply)
    have one : observedReplies (work.handleReply time reply).output = observedReplies work.output ++ [reply] := by
      cases reply <;> simp [handleReply, emit, observedReplies]
    refine ⟨pending, ?_, stream'.trans stream, held'.trans held, fun clear => package' (package clear)⟩
    rw [List.foldl_cons, observed, one, List.append_assoc, List.singleton_append]

/-- A run of the scanner over a frame sequence has passed some of its frames. -/
theorem advance_frames {vesc : VescCrate} {frames : List (List Byte)} (valid : ∀ frame ∈ frames, ReplyFrame vesc frame)
    {values : List VescReadOnlyReply} {rest : List Byte} (run : vesc.scanner.Advance frames.flatten values rest) :
    ∃ done left, frames = done ++ left ∧ values = frameReplies vesc done ∧ values.length = done.length ∧
      rest = left.flatten := by
  induction frames generalizing values with
  | nil =>
    cases run with
    | refl => exact ⟨[], [], rfl, rfl, rfl, rfl⟩
    | take decision _ => exact absurd (Scanner.next_nil.symm.trans decision) (by simp)
  | cons frame frames ih =>
    obtain ⟨reply, decoded, verdict⟩ := (valid frame (by simp)).verdict_append frames.flatten
    rw [List.flatten_cons] at run
    cases run with
    | refl => exact ⟨[], frame :: frames, rfl, rfl, rfl, by simp⟩
    | take decision later =>
      obtain ⟨rfl, rfl⟩ := Verdict.take.inj (verdict.symm.trans decision)
      rw [List.drop_left] at later
      obtain ⟨done, left, rfl, rfl, counted, rfl⟩ :=
        ih (fun frame member => valid frame (List.mem_cons_of_mem _ member)) later
      refine ⟨frame :: done, left, rfl, ?_, by simp [counted], rfl⟩
      simp [frameReplies, decoded, Except.toOption]

/-- The work after part of the frames went through: replies appended, the rest kept, nothing else pending. -/
structure Handled (work final : Dispatch) (replies : List VescReadOnlyReply) (kept : List Byte) : Prop where
  pending : final.pending = work.pending
  observed : observedReplies final.output = observedReplies work.output ++ replies
  following : Following final.decoder kept

section Feeding
variable {vesc : VescCrate} (work : Dispatch) (bytes : List Byte) (time sourceLen : Nat)

/-- An incomplete frame stays in the stream, and the next notification is fed to it whole. -/
theorem feedGeneric_waits (clear : work.decoder.refloatStreamPending = false) (valid : work.decoder.stream.Valid)
    (released : work.decoder.genericPrefix = [])
    (fits : (work.decoder.stream.pending ++ bytes).length ≤ vescMaxFrameLen)
    (incomplete : frameParts (work.decoder.stream.pending ++ bytes) = .ok none) :
    Handled work (work.feedGeneric vesc bytes time sourceLen) [] (work.decoder.stream.pending ++ bytes) := by
  obtain ⟨stream, result, kept, joined⟩ :=
    feedResult_buffered vesc valid (valid.refuses_eq_false fits) incomplete
  have small : ¬vescMaxFrameLen < bytes.length := by
    rw [List.length_append] at fits
    omega
  have fed : work.feedGeneric vesc bytes time sourceLen =
      { work with decoder := { work.decoder with stream, genericStreamPending := true } }.emit
        [.notificationIngest .bufferedFragment sourceLen] := by
    simp [Dispatch.feedGeneric, small, Dispatch.handleVescNotification, result, emit]
  rw [fed]
  refine ⟨rfl, by simp [emit, observedReplies], ⟨clear, kept, ?_⟩⟩
  rw [← joined]
  exact .waiting rfl released

/-- Up to four complete frames come out at once and leave the decoder idle. -/
theorem feedGeneric_replies (clear : work.decoder.refloatStreamPending = false) (valid : work.decoder.stream.Valid)
    (released : work.decoder.genericPrefix = [])
    (fits : (work.decoder.stream.pending ++ bytes).length ≤ vescMaxFrameLen) (batch : List (List Byte))
    (frames : ∀ frame ∈ batch, ReplyFrame vesc frame) (nonempty : batch ≠ [])
    (few : batch.length ≤ vescMaxStreamReplies) (whole : work.decoder.stream.pending ++ bytes = batch.flatten) :
    Handled work (work.feedGeneric vesc bytes time sourceLen) (frameReplies vesc batch) [] ∧
      ¬(work.feedGeneric vesc bytes time sourceLen).decoder.InProgress := by
  obtain ⟨stream, result, same, kept, run, stop⟩ :=
    feedResult_accepted vesc valid (valid.refuses_eq_false fits)
  rw [whole] at run
  obtain ⟨done, left, rfl, replied, counted, rest⟩ := advance_frames frames run
  have finished : left = [] := by
    cases left with
    | nil => rfl
    | cons frame left =>
      rcases stop with full | stuck
      · simp only [List.length_append, List.length_cons, counted] at few full
        omega
      · obtain ⟨reply, -, verdict⟩ := (frames frame (by simp)).verdict_append left.flatten
        rw [rest, Scanner.Stuck, List.flatten_cons, verdict] at stuck
        cases stuck
  subst finished
  rw [List.append_nil] at nonempty ⊢
  have small : ¬vescMaxFrameLen < bytes.length := by
    rw [List.length_append] at fits
    omega
  have produced : feedReplies result ≠ [] := by
    intro none
    rw [none] at counted
    exact nonempty (List.length_eq_zero_iff.mp counted.symm)
  rcases result with refused | ⟨- | ⟨replies, malformed⟩⟩
  · exact absurd rfl produced
  · exact absurd rfl produced
  · let start : Dispatch := { work with
      decoder := { work.decoder with stream }
      output := work.output ++ if malformed then [.parserError .malformedFrame] else [] }
    have fed : work.feedGeneric vesc bytes time sourceLen =
        let final := replies.foldl (handleReply time) start
        { final.emit [.notificationIngest .semanticEvents sourceLen] with
          decoder := { final.decoder with genericStreamPending := false } } := by
      cases malformed <;> simp [Dispatch.feedGeneric, small, Dispatch.handleVescNotification, same, emit, start]
    obtain ⟨pending, observed, streamKept, heldKept, package⟩ := foldl_handleReply time replies start
    have quiet : observedReplies start.output = observedReplies work.output := by
      cases malformed <;> simp [start, observedReplies]
    have empty := heldKept.trans released
    rw [fed]
    refine ⟨⟨pending, ?_, package clear, ?_, .idle rfl empty ?_⟩, by simp [VescNotificationDecoder.InProgress, empty]⟩
    · simp only [emit]
      rw [observedReplies_append, observed, quiet, ← replied]
      simp [observedReplies, feedReplies]
    · simp only [streamKept]
      exact kept
    · simp only [streamKept]
      simpa using rest

end Feeding

section Routing
variable {vesc : VescCrate} {work : Dispatch}
variable {decoder : VescNotificationDecoder}

/-- Nothing is in progress: the next notification is split into frames. -/
structure Idle (decoder : VescNotificationDecoder) : Prop where
  following : Following decoder []
  between : ¬decoder.InProgress

private theorem Tracking.pending_of_nil {kept : List Byte} (tracking : Tracking decoder kept) (nothing : kept = []) :
    decoder.stream.pending = [] := by
  cases tracking with
  | idle _ _ pending | holding _ _ pending => exact pending
  | waiting _ _ => exact nothing

theorem Idle.flags (idle : Idle decoder) :
    decoder.genericStreamPending = false ∧ decoder.genericPrefix = [] ∧ decoder.stream.pending = [] := by
  have between := idle.between
  simp only [VescNotificationDecoder.InProgress, not_or, Bool.not_eq_true, not_not] at between
  exact ⟨between.1, between.2, idle.following.tracking.pending_of_nil rfl⟩

def Dispatch.arrive (work : Dispatch) (time : Nat) : Dispatch :=
  { work with decoder := { work.decoder with nowMs := time } }

theorem Handled.of_arrive {final : Dispatch} {kept : List Byte} {time : Nat}
    (handled : Handled (work.arrive time) final replies kept) : Handled work final replies kept :=
  ⟨handled.pending, handled.observed, handled.following⟩

/-- With no package frame to complete, a chunk goes straight to the routing. -/
theorem handleNotificationChunk_clear (clear : work.decoder.refloatStreamPending = false) (bytes : List Byte)
    (time : Nat) :
    work.handleNotificationChunk vesc bytes time = (work.arrive time).routeChunk vesc bytes time := by
  simp [Dispatch.handleNotificationChunk, clear, Dispatch.arrive]

/-- A short unfinished frame is held back until its command byte shows where it belongs. -/
theorem holdPrefix_handled (work : Dispatch) (held : List Byte) (clear : work.decoder.refloatStreamPending = false)
    (valid : work.decoder.stream.Valid) (flag : work.decoder.genericStreamPending = false)
    (empty : work.decoder.stream.pending = []) (some : held ≠ []) (short : held.length ≤ 3)
    (unknown : genericFrameKind held = none) (sourceLen : Nat) :
    Handled work (work.holdPrefix held sourceLen) [] held := by
  have fits : ¬genericPrefixCapacity < held.length := by
    simp only [genericPrefixCapacity]
    omega
  have kept : work.holdPrefix held sourceLen =
      { work with decoder := { work.decoder with genericPrefix := held } }.emit
        [.notificationIngest .bufferedFragment sourceLen] := by
    simp [Dispatch.holdPrefix, fits, some]
  rw [kept]
  exact ⟨rfl, by simp [emit, observedReplies], clear, valid, .holding flag some empty unknown⟩

/-- A complete frame reaching an idle decoder is answered at once. -/
theorem chunk_frame (work : Dispatch) (idle : Idle work.decoder) (valid : ReplyFrame vesc frame) (time : Nat) :
    Handled work (work.handleNotificationChunk vesc frame time) (frameReplies vesc [frame]) [] ∧
      Idle (work.handleNotificationChunk vesc frame time).decoder := by
  obtain ⟨flag, noPrefix, empty⟩ := idle.flags
  have clear := idle.following.package
  rw [handleNotificationChunk_clear clear]
  have routed : (work.arrive time).routeChunk vesc frame time =
      (work.arrive time).feedGeneric vesc frame time frame.length := by
    simp [routeChunk, Dispatch.arrive, flag, noPrefix, valid.genericFrameKind_self]
  have whole : work.decoder.stream.pending ++ frame = [frame].flatten := by simp [empty]
  have fits : (work.decoder.stream.pending ++ frame).length ≤ vescMaxFrameLen := by
    rw [empty]
    exact valid.length_le
  obtain ⟨handled, between⟩ := feedGeneric_replies (work.arrive time) frame time frame.length clear
    idle.following.stream noPrefix fits [frame] (by simpa using valid) (by simp) (by simp [vescMaxStreamReplies]) whole
  rw [routed]
  exact ⟨handled.of_arrive, handled.following, between⟩

/-- An unfinished frame reaching an idle decoder is kept, in the stream or in front of it. -/
theorem chunk_part (work : Dispatch) (idle : Idle work.decoder) {part : List Byte} (incomplete : frameParts part = .ok none)
    (kind : genericFrameKind part ≠ some false) (small : part.length ≤ vescMaxFrameLen) (time : Nat) :
    Handled work (work.handleNotificationChunk vesc part time) [] part := by
  obtain ⟨flag, noPrefix, empty⟩ := idle.flags
  have clear := idle.following.package
  have valid := idle.following.stream
  have waits : Handled work ((work.arrive time).feedGeneric vesc part time part.length) [] part := by
    have fed := @feedGeneric_waits vesc (work.arrive time) part time part.length clear valid noPrefix
    simp only [Dispatch.arrive, empty, List.nil_append] at fed
    exact (fed small incomplete).of_arrive
  rw [handleNotificationChunk_clear clear]
  cases known : genericFrameKind part with
  | some generic =>
    cases generic with
    | true =>
      have routed : (work.arrive time).routeChunk vesc part time =
          (work.arrive time).feedGeneric vesc part time part.length := by
        simp [routeChunk, Dispatch.arrive, flag, noPrefix, known]
      rw [routed]
      exact waits
    | false => exact absurd known kind
  | none =>
    by_cases starts : part.head?.any isFrameStart = true
    · have routed : (work.arrive time).routeChunk vesc part time = (work.arrive time).holdPrefix part part.length := by
        simp [routeChunk, Dispatch.arrive, flag, noPrefix, known, starts]
      rw [routed]
      cases part with
      | nil => cases starts
      | cons start rest =>
        have short := length_le_of_genericFrameKind_none starts known
        exact (holdPrefix_handled (work.arrive time) (start :: rest) clear valid flag empty (by simp) short known _).of_arrive
    · have routed : (work.arrive time).routeChunk vesc part time =
          (work.arrive time).feedGeneric vesc part time part.length := by
        simp [routeChunk, Dispatch.arrive, flag, noPrefix, known, starts]
      rw [routed]
      exact waits

/-- The beginning of a frame that is not complete yet, possibly nothing of it. -/
def FramePart (vesc : VescCrate) (part : List Byte) : Prop :=
  part = [] ∨ ∃ frame rest, ReplyFrame vesc frame ∧ frame = part ++ rest ∧ rest ≠ []

namespace FramePart
variable {part : List Byte}

section Unfinished
variable (unfinished : FramePart vesc part)
include unfinished

theorem incomplete : frameParts part = .ok none := by
  rcases unfinished with rfl | ⟨frame, rest, valid, split, strict⟩
  · rfl
  · exact valid.frameParts_prefix split strict

theorem kind : genericFrameKind part ≠ some false := by
  rcases unfinished with rfl | ⟨frame, rest, valid, split, strict⟩
  · simp [genericFrameKind]
  · intro package
    have extended := genericFrameKind_append package rest
    rw [← split, valid.genericFrameKind_self] at extended
    cases extended

theorem length_le : part.length ≤ vescMaxFrameLen := by
  rcases unfinished with rfl | ⟨frame, rest, valid, split, strict⟩
  · simp
  · have := valid.length_le
    rw [split, List.length_append] at this
    omega

private theorem completeVescFrameLen_eq_none : completeVescFrameLen part = none := by
  rcases unfinished with rfl | ⟨frame, rest, valid, split, strict⟩
  · rfl
  · exact valid.completeVescFrameLen_prefix split strict

theorem head_start (some : part ≠ []) : ∃ start rest, part = start :: rest ∧ isFrameStart start = true := by
  rcases unfinished with rfl | ⟨frame, rest, valid, split, strict⟩
  · exact absurd rfl some
  · obtain ⟨start, body, shape, starts⟩ := valid.head_start
    cases part with
    | nil => exact absurd rfl some
    | cons first part =>
      rw [shape, List.cons_append] at split
      obtain ⟨rfl, -⟩ := List.cons.inj split
      exact ⟨start, part, rfl, starts⟩

end Unfinished

end FramePart

/-- From an idle decoder a slice that begins with a start byte is taken apart at its front. -/
theorem dispatch_candidate (work : Dispatch) (idle : Idle work.decoder) {bytes : List Byte}
    (starts : bytes = [] ∨ ∃ start rest, bytes = start :: rest ∧ isFrameStart start = true) (time : Nat) :
    work.dispatchNotificationSlice vesc bytes time = work.handleCandidate vesc bytes time := by
  obtain ⟨flag, noPrefix, -⟩ := idle.flags
  have clear := idle.following.package
  rcases starts with rfl | ⟨start, rest, rfl, starts⟩
  · simp [Dispatch.dispatchNotificationSlice, flag, noPrefix, clear]
  · simp [Dispatch.dispatchNotificationSlice, flag, noPrefix, clear, starts]

/-- A frame at the front is handled on its own and whatever follows it waits on the stack. -/
theorem handleCandidate_frame (valid : ReplyFrame vesc frame) (later : List Byte) (time : Nat)
    (empty : work.pending = []) : work.handleCandidate vesc (frame ++ later) time =
      { work with pending := if later = [] then [] else [later] }.handleNotificationChunk vesc frame time := by
  unfold Dispatch.handleCandidate
  rw [valid.completeVescFrameLen_append]
  cases later with
  | nil => simp [← empty]
  | cons byte later => simp [Dispatch.enqueue, empty]

theorem drainPending_nil (time fuel : Nat) (empty : work.pending = []) : work.drainPending vesc time fuel = work := by
  cases fuel with
  | zero | succ => simp [drainPending, empty]

/-- Draining a notification that meets an idle decoder: every complete frame is answered, the rest is kept. -/
theorem drainPending_frames (time : Nat) (done : List (List Byte)) {part : List Byte}
    (valid : ∀ frame ∈ done, ReplyFrame vesc frame) (unfinished : FramePart vesc part) (fuel : Nat)
    (enough : done.length < fuel) (work : Dispatch) (idle : Idle work.decoder)
    (queue : work.pending = [done.flatten ++ part]) :
    let final := work.drainPending vesc time fuel
    observedReplies final.output = observedReplies work.output ++ frameReplies vesc done ∧
      Following final.decoder part := by
  -- The induction is on the complete frames; the stack holds exactly what follows the current one.
  induction done generalizing fuel work with
  | nil =>
    obtain ⟨fuel, rfl⟩ : ∃ more, fuel = more + 1 := ⟨fuel - 1, by omega⟩
    have starts : part = [] ∨ ∃ start rest, part = start :: rest ∧ isFrameStart start = true := by
      by_cases nothing : part = []
      · exact .inl nothing
      · exact .inr (unfinished.head_start nothing)
    have handled := @chunk_part vesc { work with pending := [] } idle part unfinished.incomplete unfinished.kind
      unfinished.length_le time
    simp only [drainPending, queue, List.flatten_nil, List.nil_append]
    rw [dispatch_candidate { work with pending := [] } idle starts, Dispatch.handleCandidate,
      unfinished.completeVescFrameLen_eq_none]
    simp only
    rw [drainPending_nil time fuel handled.pending]
    exact ⟨handled.observed, handled.following⟩
  | cons frame done ih =>
    obtain ⟨fuel, rfl⟩ : ∃ more, fuel = more + 1 := ⟨fuel - 1, by omega⟩
    have validFrame := valid frame (by simp)
    have later := fun frame member => valid frame (List.mem_cons_of_mem _ member)
    obtain ⟨start, body, shape, starts⟩ := validFrame.head_start
    have joined : frameReplies vesc (frame :: done) = frameReplies vesc [frame] ++ frameReplies vesc done :=
      frameReplies_append vesc [frame] done
    let behind : Dispatch :=
      { work with pending := if done.flatten ++ part = [] then [] else [done.flatten ++ part] }
    obtain ⟨handled, idle'⟩ := chunk_frame behind idle validFrame time
    simp only [drainPending, queue, List.flatten_cons, List.append_assoc]
    rw [dispatch_candidate { work with pending := [] } idle (.inr ⟨start, _, by rw [shape]; rfl, starts⟩),
      handleCandidate_frame validFrame _ _ rfl]
    by_cases nothing : done.flatten ++ part = []
    · have finished : done = [] := by
        cases done with
        | nil => rfl
        | cons next done =>
          have positive := (later next (by simp)).length_pos
          simp only [List.flatten_cons, List.append_eq_nil_iff] at nothing
          simp [nothing.1.1] at positive
      have empty : (behind.handleNotificationChunk vesc frame time).pending = [] :=
        handled.pending.trans (if_pos nothing)
      rw [finished, List.flatten_nil, List.nil_append] at nothing
      rw [drainPending_nil time fuel empty, finished, nothing]
      exact ⟨handled.observed, handled.following⟩
    · obtain ⟨observed, following⟩ := ih later fuel (by simp at enough; omega) _ idle'
        (handled.pending.trans (if_neg nothing))
      refine ⟨?_, following⟩
      rw [observed, handled.observed, joined, List.append_assoc]

end Routing

section Runs
variable {vesc : VescCrate} {decoder : VescNotificationDecoder} {kept bytes : List Byte}
variable {frames : List (List Byte)}

/-- A tracked decoder is idle, or its next notification goes unsplit behind what is held. -/
theorem Following.cases_progress (follows : Following decoder kept) :
    (kept = [] ∧ Idle decoder) ∨ (decoder.InProgress ∧ decoder.held = kept) := by
  obtain ⟨package, stream, tracking⟩ := follows
  cases tracking with
  | idle flag noPrefix pending =>
    exact .inl ⟨rfl, ⟨package, stream, .idle flag noPrefix pending⟩,
      by simp [VescNotificationDecoder.InProgress, flag, noPrefix]⟩
  | waiting flag noPrefix => exact .inr ⟨.inl flag, by simp [VescNotificationDecoder.held, flag]⟩
  | holding flag some pending unknown => exact .inr ⟨.inr some, by simp [VescNotificationDecoder.held, flag]⟩

theorem handleNotification_inProgress (follows : Following decoder kept) (progress : decoder.InProgress) (time : Nat)
    (small : bytes.length ≤ vescMaxFrameLen) {rest : List Byte}
    (handled : Handled { decoder } ((Dispatch.arrive { decoder } time).routeChunk vesc bytes time) replies rest) :
    observedReplies (decoder.handleNotification vesc bytes time).2 = replies ∧
      Following (decoder.handleNotification vesc bytes time).1 rest := by
  have fits : ¬maxVescNotificationBatchBytes < bytes.length := by
    simp only [maxVescNotificationBatchBytes]
    omega
  have one : drainPending vesc time maxVescNotificationDispatches { decoder, pending := [bytes] } =
      (Dispatch.arrive { decoder } time).routeChunk vesc bytes time := by
    have dispatched : Dispatch.dispatchNotificationSlice vesc { decoder } bytes time =
        (Dispatch.arrive { decoder } time).routeChunk vesc bytes time := by
      rw [Dispatch.dispatchNotificationSlice, if_pos (.inr progress)]
      exact handleNotificationChunk_clear follows.package bytes time
    have fuel : maxVescNotificationDispatches = (maxVescNotificationDispatches - 1) + 1 := rfl
    rw [fuel, drainPending]
    simp only
    rw [dispatched, drainPending_nil time _ handled.pending]
  rw [handleNotification, if_neg fits, one]
  exact ⟨by simpa [observedReplies] using handled.observed, handled.following⟩

def Dispatch.release (work : Dispatch) : Dispatch :=
  { work with decoder := { work.decoder with genericPrefix := [] } }

/-- Behind a held beginning the joined bytes are routed as one chunk. -/
theorem routeChunk_holding {work : Dispatch} (flag : work.decoder.genericStreamPending = false)
    (some : work.decoder.genericPrefix ≠ []) (time : Nat)
    (fits : (work.decoder.genericPrefix ++ bytes).length ≤ vescMaxFrameLen)
    (generic : genericFrameKind (work.decoder.genericPrefix ++ bytes) ≠ Option.some false) :
    work.routeChunk vesc bytes time =
      if genericFrameKind (work.decoder.genericPrefix ++ bytes) = none then
        work.release.holdPrefix (work.decoder.genericPrefix ++ bytes) bytes.length
      else work.release.feedGeneric vesc (work.decoder.genericPrefix ++ bytes) time bytes.length := by
  have within : ¬vescMaxFrameLen < (work.decoder.genericPrefix ++ bytes).length := by omega
  unfold routeChunk
  rw [if_neg (by simp [flag]), if_pos some]
  simp only [within, ↓reduceIte]
  cases kind : genericFrameKind (work.decoder.genericPrefix ++ bytes) with
  | none => rfl
  | some known =>
    cases known with
    | true => rfl
    | false => exact absurd kind generic

private theorem routeChunk_waits (follows : Following decoder kept) (progress : decoder.InProgress) (time : Nat)
    (fits : (kept ++ bytes).length ≤ vescMaxFrameLen) (unfinished : FramePart vesc (kept ++ bytes)) :
    Handled { decoder } ((Dispatch.arrive { decoder } time).routeChunk vesc bytes time) [] (kept ++ bytes) := by
  obtain ⟨package, stream, tracking⟩ := follows
  cases tracking with
  | idle flag noPrefix pending => simp [VescNotificationDecoder.InProgress, flag, noPrefix] at progress
  | waiting flag noPrefix =>
    have routed : (Dispatch.arrive { decoder } time).routeChunk vesc bytes time =
        (Dispatch.arrive { decoder } time).feedGeneric vesc bytes time bytes.length := by
      simp [routeChunk, Dispatch.arrive, flag]
    rw [routed]
    exact (feedGeneric_waits (Dispatch.arrive { decoder } time) bytes time bytes.length package stream noPrefix fits
      unfinished.incomplete).of_arrive
  | holding flag some pending unknown =>
    rw [@routeChunk_holding vesc bytes (Dispatch.arrive { decoder } time) flag some time fits unfinished.kind]
    by_cases early : genericFrameKind (decoder.genericPrefix ++ bytes) = none
    · have more : decoder.genericPrefix ++ bytes ≠ [] := by simp [some]
      obtain ⟨start, rest, shape, starts⟩ := unfinished.head_start more
      have short : (decoder.genericPrefix ++ bytes).length ≤ 3 := by
        rw [shape] at early ⊢
        exact length_le_of_genericFrameKind_none starts early
      have held := holdPrefix_handled (Dispatch.arrive { decoder } time).release (decoder.genericPrefix ++ bytes) package
        stream flag pending more short early bytes.length
      rw [if_pos (by exact early)]
      exact ⟨held.pending, held.observed, held.following⟩
    · have fed := @feedGeneric_waits vesc (Dispatch.arrive { decoder } time).release (decoder.genericPrefix ++ bytes)
        time bytes.length package stream rfl
      simp only [Dispatch.release, Dispatch.arrive, pending, List.nil_append] at fed
      have handled := fed fits unfinished.incomplete
      rw [if_neg (by exact early)]
      exact ⟨handled.pending, handled.observed, handled.following⟩

/-- The end of the frame in progress together with whole frames, four at most. -/
theorem routeChunk_replies (follows : Following decoder kept) (progress : decoder.InProgress) (time : Nat)
    (fits : (kept ++ bytes).length ≤ vescMaxFrameLen) {batch : List (List Byte)}
    (frames : ∀ frame ∈ batch, ReplyFrame vesc frame) (nonempty : batch ≠ [])
    (few : batch.length ≤ vescMaxStreamReplies) (whole : kept ++ bytes = batch.flatten) :
    Handled { decoder } ((Dispatch.arrive { decoder } time).routeChunk vesc bytes time) (frameReplies vesc batch) [] := by
  obtain ⟨package, stream, tracking⟩ := follows
  cases tracking with
  | idle flag noPrefix pending => simp [VescNotificationDecoder.InProgress, flag, noPrefix] at progress
  | waiting flag noPrefix =>
    have routed : (Dispatch.arrive { decoder } time).routeChunk vesc bytes time =
        (Dispatch.arrive { decoder } time).feedGeneric vesc bytes time bytes.length := by
      simp [routeChunk, Dispatch.arrive, flag]
    rw [routed]
    exact (feedGeneric_replies (Dispatch.arrive { decoder } time) bytes time bytes.length package stream noPrefix fits
      batch frames nonempty few whole).1.of_arrive
  | holding flag some pending unknown =>
    have generic : genericFrameKind (decoder.genericPrefix ++ bytes) = Option.some true := by
      obtain ⟨first, others, rfl⟩ := List.exists_cons_of_ne_nil nonempty
      rw [whole, List.flatten_cons]
      exact genericFrameKind_append (frames first (by simp)).genericFrameKind_self _
    have fed := @feedGeneric_replies vesc (Dispatch.arrive { decoder } time).release (decoder.genericPrefix ++ bytes)
      time bytes.length package stream rfl
    simp only [Dispatch.release, Dispatch.arrive, pending, List.nil_append] at fed
    obtain ⟨handled, -⟩ := fed fits batch frames nonempty few whole
    rw [@routeChunk_holding vesc bytes (Dispatch.arrive { decoder } time) flag some time fits
      (by simp [Dispatch.arrive, generic]), if_neg (by simp [Dispatch.arrive, generic])]
    exact ⟨handled.pending, handled.observed, handled.following⟩

private theorem frames_length_le (valid : ∀ frame ∈ frames, ReplyFrame vesc frame) :
    frames.length ≤ frames.flatten.length := by
  induction frames with
  | nil => simp
  | cons frame frames ih =>
    have positive := (valid frame (by simp)).length_pos
    have later := ih fun frame member => valid frame (List.mem_cons_of_mem _ member)
    simp only [List.length_cons, List.flatten_cons, List.length_append]
    omega

/-- A notification that meets an idle decoder is split into its frames. -/
theorem handleNotification_idle (idle : Idle decoder) (time : Nat) (small : bytes.length ≤ vescMaxFrameLen)
    {done : List (List Byte)} {part : List Byte} (valid : ∀ frame ∈ done, ReplyFrame vesc frame)
    (unfinished : FramePart vesc part) (split : bytes = done.flatten ++ part) :
    observedReplies (decoder.handleNotification vesc bytes time).2 = frameReplies vesc done ∧
      Following (decoder.handleNotification vesc bytes time).1 part := by
  have fits : ¬maxVescNotificationBatchBytes < bytes.length := by
    simp only [maxVescNotificationBatchBytes]
    omega
  have enough : done.length < maxVescNotificationDispatches := by
    have few := frames_length_le valid
    have bounded : 0 < vescMaxFrameLen := by simp [vescMaxFrameLen]
    rw [split, List.length_append] at small
    simp only [maxVescNotificationDispatches, maxVescNotificationBatchBytes]
    omega
  obtain ⟨observed, following⟩ := drainPending_frames time done valid unfinished maxVescNotificationDispatches enough
    { decoder, pending := [bytes] } idle (by rw [split])
  rw [handleNotification, if_neg fits]
  exact ⟨by simpa [observedReplies] using observed, following⟩

/-- One notification: the frames it completes are answered, the beginning of the next one is kept. -/
theorem handleNotification_following (follows : Following decoder kept) (time : Nat)
    (small : bytes.length ≤ vescMaxFrameLen) (continues : decoder.Continues vesc bytes)
    (valid : ∀ frame ∈ frames, ReplyFrame vesc frame) {later : List Byte}
    (whole : kept ++ bytes ++ later = frames.flatten) :
    ∃ done left rest, frames = done ++ left ∧ rest ++ later = left.flatten ∧ FramePart vesc rest ∧
      observedReplies (decoder.handleNotification vesc bytes time).2 = frameReplies vesc done ∧
      Following (decoder.handleNotification vesc bytes time).1 rest := by
  obtain ⟨done, left, part, rfl, front, joined, shape⟩ := split_at_frames valid whole
  have unfinished : FramePart vesc part := by
    rcases shape with nothing | ⟨frame, rest, tail, rfl, split, strict⟩
    · exact .inl nothing
    · exact .inr ⟨frame, rest, valid frame (by simp), split, strict⟩
  have validDone : ∀ frame ∈ done, ReplyFrame vesc frame := fun frame member => valid frame (by simp [member])
  rcases follows.cases_progress with ⟨rfl, idle⟩ | ⟨progress, held⟩
  · obtain ⟨observed, following⟩ := handleNotification_idle idle time small validDone unfinished front
    exact ⟨done, left, part, rfl, joined, unfinished, observed, following⟩
  · obtain ⟨fits, choice⟩ := continues progress
    rw [held] at fits choice
    -- The frame in progress either stays incomplete or comes out together with whole frames.
    have waits (still : FramePart vesc (kept ++ bytes)) :
        observedReplies (decoder.handleNotification vesc bytes time).2 = frameReplies vesc [] ∧
          Following (decoder.handleNotification vesc bytes time).1 (kept ++ bytes) :=
      handleNotification_inProgress follows progress time small (routeChunk_waits follows progress time fits still)
    rcases choice with incomplete | ⟨batch, few, frames, same⟩
    · have early : done = [] := by
        cases done with
        | nil => rfl
        | cons frame done =>
          obtain ⟨headerLen, payloadLen, complete⟩ :=
            (validDone frame (by simp)).frameParts_append (done.flatten ++ part)
          rw [front, List.flatten_cons, List.append_assoc, complete] at incomplete
          cases incomplete
      rw [early, List.flatten_nil, List.nil_append] at front
      rw [← front] at unfinished
      obtain ⟨observed, following⟩ := waits unfinished
      exact ⟨[], done ++ left, kept ++ bytes, rfl, whole, unfinished, observed, following⟩
    · by_cases nothing : batch = []
      · rw [nothing, List.flatten_nil] at same
        obtain ⟨observed, following⟩ := waits (.inl same)
        exact ⟨[], done ++ left, kept ++ bytes, rfl, whole, .inl same, observed, following⟩
      · obtain ⟨observed, following⟩ := handleNotification_inProgress follows progress time small
          (routeChunk_replies follows progress time fits frames nothing few same)
        rw [same] at whole
        obtain ⟨remaining, split, rest⟩ := frames_prefix frames valid whole
        exact ⟨batch, remaining, [], split, rest, .inl rfl, observed, following⟩

private theorem deliver_following (pieces : List (Nat × List Byte)) (follows : Following decoder kept)
    (unfinished : FramePart vesc kept) (small : ∀ piece ∈ pieces, piece.2.length ≤ vescMaxFrameLen)
    (continues : EachContinues vesc decoder pieces) (valid : ∀ frame ∈ frames, ReplyFrame vesc frame)
    (whole : kept ++ (pieces.map Prod.snd).flatten = frames.flatten) :
    (deliver vesc decoder pieces).2 = frameReplies vesc frames := by
  induction pieces generalizing decoder kept frames with
  | nil =>
    cases frames with
    | nil => rfl
    | cons frame frames =>
      -- A complete frame cannot have been kept back.
      obtain ⟨headerLen, payloadLen, complete⟩ := (valid frame (by simp)).frameParts_append frames.flatten
      have incomplete := unfinished.incomplete
      rw [List.map_nil, List.flatten_nil, List.append_nil, List.flatten_cons] at whole
      rw [whole, complete] at incomplete
      cases incomplete
  | cons piece pieces ih =>
    obtain ⟨time, bytes⟩ := piece
    obtain ⟨now, later⟩ := continues
    rw [List.map_cons, List.flatten_cons, ← List.append_assoc] at whole
    obtain ⟨done, left, rest, rfl, joined, still, observed, following⟩ :=
      handleNotification_following follows time (small _ (by simp)) now valid whole
    have remaining := ih following still (fun piece member => small piece (List.mem_cons_of_mem _ member)) later
      (fun frame member => valid frame (by simp [member])) joined
    rw [deliver]
    simp only [remaining, observed, frameReplies_append]

private theorem handleNotification_frame (follows : Following decoder []) (valid : ReplyFrame vesc frame) (time : Nat) :
    observedReplies (decoder.handleNotification vesc frame time).2 = frameReplies vesc [frame] ∧
      Following (decoder.handleNotification vesc frame time).1 [] := by
  have one : ∀ other ∈ [frame], ReplyFrame vesc other := by simpa using valid
  rcases follows.cases_progress with ⟨-, idle⟩ | ⟨progress, held⟩
  · exact handleNotification_idle idle time valid.length_le one (.inl rfl) (by simp)
  · exact handleNotification_inProgress follows progress time valid.length_le
      (routeChunk_replies follows progress time valid.length_le one (by simp) (by simp [vescMaxStreamReplies]) (by simp))

private theorem deliver_frames (separate : List (Nat × List Byte)) (follows : Following decoder [])
    (valid : ∀ piece ∈ separate, ReplyFrame vesc piece.2) :
    (deliver vesc decoder separate).2 = frameReplies vesc (separate.map Prod.snd) := by
  induction separate generalizing decoder with
  | nil => rfl
  | cons piece separate ih =>
    obtain ⟨time, frame⟩ := piece
    obtain ⟨observed, following⟩ := handleNotification_frame follows (valid (time, frame) (by simp)) time
    have later := ih following fun piece member => valid piece (List.mem_cons_of_mem _ member)
    rw [deliver, List.map_cons]
    simp only [later, observed]
    exact (frameReplies_append vesc [frame] (separate.map Prod.snd)).symm

end Runs

/-- A decoder as `default` and `with_board_profile` make it. -/
def VescNotificationDecoder.fresh (profile : Option VescBoardProfile) : VescNotificationDecoder :=
  { configuredBoardProfile := profile }

theorem fresh_following (profile : Option VescBoardProfile) : Following (.fresh profile) [] :=
  ⟨rfl, new_valid, .idle rfl rfl rfl⟩

/-- However reply frames are cut into notifications, the replies are those of the frames delivered one by one,
provided that no notification crosses the end of a frame in progress into an unfinished one, completes more
than four frames with it, or overflows the buffer behind it. -/
theorem notification_replies_independent_of_chunking (vesc : VescCrate) (profile : Option VescBoardProfile)
    (frames : List (List Byte)) (valid : ∀ frame ∈ frames, ReplyFrame vesc frame) (pieces : List (Nat × List Byte))
    (whole : (pieces.map Prod.snd).flatten = frames.flatten)
    (small : ∀ piece ∈ pieces, piece.2.length ≤ vescMaxFrameLen)
    (continues : EachContinues vesc (.fresh profile) pieces) (separate : List (Nat × List Byte))
    (oneByOne : separate.map Prod.snd = frames) :
    (deliver vesc (.fresh profile) pieces).2 = (deliver vesc (.fresh profile) separate).2 ∧
      (deliver vesc (.fresh profile) pieces).2 = frames.filterMap fun frame => (vesc.decodeFrame frame).toOption := by
  have cut := deliver_following pieces (fresh_following profile) (.inl rfl) small continues valid (by simpa using whole)
  have each : ∀ piece ∈ separate, ReplyFrame vesc piece.2 := by
    intro piece member
    exact valid piece.2 (oneByOne ▸ List.mem_map_of_mem member)
  have alone := deliver_frames separate (fresh_following profile) each
  rw [oneByOne] at alone
  exact ⟨cut.trans alone.symm, cut⟩

theorem storedFrame_replyFrame : ReplyFrame .silent storedFrame :=
  ⟨⟨2, 1, by decide, by decide⟩, .configurationStored, by decide⟩

/-- Two acknowledgements, the first one cut inside its checksum. -/
theorem cut_acknowledgements_both_reply :
    (deliver .silent (.fresh none) [(0, [2, 1, 13, 209]), (5, [173, 3] ++ storedFrame)]).2 =
      (deliver .silent (.fresh none) [(0, storedFrame), (5, storedFrame)]).2 :=
  (notification_replies_independent_of_chunking .silent none [storedFrame, storedFrame]
    (by simpa using storedFrame_replyFrame) [(0, [2, 1, 13, 209]), (5, [173, 3] ++ storedFrame)] (by decide) (by decide)
    ⟨fun progress => absurd progress (by simp [VescNotificationDecoder.InProgress, VescNotificationDecoder.fresh]),
      fun _ => ⟨by decide +kernel, .inr ⟨[storedFrame, storedFrame], by decide,
        by simpa using storedFrame_replyFrame, by decide +kernel⟩⟩, trivial⟩
    [(0, storedFrame), (5, storedFrame)] rfl).1

/-- The end of one frame together with the beginning of the next: the second reply never comes out. -/
theorem second_frame_cut_behind_first_is_lost :
    (∀ frame ∈ [storedFrame, storedFrame], ReplyFrame .silent frame) ∧
      ([[2, 1, 13, 209], [173, 3, 2, 1, 13, 209], [173, 3]] : List (List Byte)).flatten =
        [storedFrame, storedFrame].flatten ∧
      (deliver .silent (.fresh none) [(0, [2, 1, 13, 209]), (0, [173, 3, 2, 1, 13, 209]), (0, [173, 3])]).2 =
        [.configurationStored] ∧
      (deliver .silent (.fresh none) [(0, storedFrame), (0, storedFrame)]).2 =
        [.configurationStored, .configurationStored] :=
  ⟨by simpa using storedFrame_replyFrame, by decide, by decide +kernel, by decide +kernel⟩

end Cutout.Protocols
