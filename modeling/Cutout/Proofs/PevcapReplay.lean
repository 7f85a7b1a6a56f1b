import Cutout.PevcapReplay
import Cutout.Proofs.PevcapRoundTrip

/-! Replay from a stream against replay from memory. A stream learns of a link that comes up
only when it gets there, so it agrees with the capture in memory where a preflight has looked
ahead, and without one it brings up a link once more than the capture. Last, notifications
that are replayed in parts, for sessions that do not see the cuts. -/

namespace Cutout.Pevcap
open Connections (strBytes)
open Library
open Protocols (Byte)

variable {Telemetry τ ε : Type}

section Stats

private theorem note_records (records : List (PevcapRecord Telemetry)) (stats : PevcapReplayStats) :
    records.foldl PevcapReplayStats.note stats =
      ⟨stats.replayInputCount + (records.filter fun record => record.direction ≠ .outbound).length,
        (records.filterMap fun record => if record.direction = .inbound then some record.bytes.length else none).foldl max
          stats.maxNotificationLen⟩ := by
  induction records generalizing stats with
  | nil => rfl
  | cons record records ih =>
    rw [List.foldl_cons, ih]
    simp only [PevcapReplayStats.note, List.filter_cons, List.filterMap_cons]
    cases record.direction <;> simp <;> omega

theorem note_capture (capture : PevcapCapture Telemetry) (count : Nat) :
    capture.records.foldl PevcapReplayStats.note { replayInputCount := count } =
      ⟨count + (capture.records.filter fun record => record.direction ≠ .outbound).length, capture.maxNotificationLen⟩ :=
  note_records _ _

end Stats

namespace ReplayDriver
variable (driver : ReplayDriver Telemetry τ ε) (mode : PevcapReplayMode) (writeLimit : Option UInt16) (known : Option Bool)
variable {streaming : Streaming τ}

private theorem replayStreamRecord_seen (seen : streaming.sawRecord = true) (record : PevcapRecord Telemetry) :
    driver.replayStreamRecord mode writeLimit known streaming record =
      (driver.replayRecord mode streaming.state record >>= fun state => pure ⟨state, streaming.stats.note record, true⟩) := by
  have behind : ¬(streaming.sawRecord = false ∧ record.direction ≠ .linkUp ∧ known ≠ some true) := fun first => by
    rw [seen] at first
    cases first.1
  simp only [replayStreamRecord, if_neg behind]
  rfl

private theorem replayStream_seen (seen : streaming.sawRecord = true) (records : List (PevcapRecord Telemetry)) :
    records.foldlM (driver.replayStreamRecord mode writeLimit known) streaming =
      (records.foldlM (driver.replayRecord mode) streaming.state >>= fun state =>
        pure ⟨state, records.foldl PevcapReplayStats.note streaming.stats, true⟩) := by
  induction records generalizing streaming with
  | nil =>
    obtain ⟨state, stats, saw⟩ := streaming
    cases seen
    rfl
  | cons record records ih =>
    rw [List.foldlM_cons, List.foldlM_cons, driver.replayStreamRecord_seen mode writeLimit known seen, bind_assoc, bind_assoc]
    exact bind_congr fun state => ih rfl

def Inserts (records : List (PevcapRecord Telemetry)) : Prop :=
  known ≠ some true ∧ ∀ record ∈ records.head?, record.direction ≠ .linkUp

instance (records : List (PevcapRecord Telemetry)) : Decidable (Inserts known records) := inferInstanceAs (Decidable (_ ∧ _))

private theorem replayStreamRecord_first (record : PevcapRecord Telemetry) (state : τ) :
    driver.replayStreamRecord mode writeLimit known { state } record =
      ((if record.direction ≠ .linkUp ∧ known ≠ some true then driver.syntheticLinkUp writeLimit state else pure state) >>=
        fun state => driver.replayRecord mode state record >>= fun state =>
          pure ⟨state, PevcapReplayStats.note
            ⟨if record.direction ≠ .linkUp ∧ known ≠ some true then 1 else 0, 0⟩ record, true⟩) := by
  simp only [replayStreamRecord, true_and, PevcapReplayStats.addInputs, Nat.zero_add]
  split <;> rfl

/-- A stream is replayed as its records are, perhaps behind a link of its own. -/
theorem replayStream_eq (records : List (PevcapRecord Telemetry)) (state : τ) :
    driver.replayStream mode writeLimit known records state =
      ((if Inserts known records then driver.syntheticLinkUp writeLimit state else pure state) >>= fun state =>
        records.foldlM (driver.replayRecord mode) state >>= fun final =>
          pure (final, records.foldl PevcapReplayStats.note ⟨if Inserts known records then 1 else 0, 0⟩)) := by
  cases records with
  | nil =>
    have inserts : Inserts known ([] : List (PevcapRecord Telemetry)) ↔ known ≠ some true :=
      ⟨And.left, fun unknown => ⟨unknown, fun _ never => by cases never⟩⟩
    simp only [replayStream, inserts]
    by_cases unknown : known ≠ some true
    · rw [if_pos unknown, if_pos unknown]
      exact if_pos ⟨rfl, unknown⟩
    · rw [if_neg unknown, if_neg unknown]
      exact if_neg fun both => unknown both.2
  | cons record records =>
    have inserts : Inserts known (record :: records) ↔ record.direction ≠ .linkUp ∧ known ≠ some true := by
      simp only [Inserts, List.head?_cons, Option.mem_some_iff, forall_eq', and_comm]
    rw [replayStream, List.foldlM_cons, replayStreamRecord_first]
    simp only [inserts, bind_assoc, List.foldlM_cons]
    refine bind_congr fun state => bind_congr fun state => ?_
    rw [pure_bind, driver.replayStream_seen mode writeLimit known (by rfl), bind_assoc]
    refine bind_congr fun final => ?_
    rw [pure_bind]
    refine if_neg fun both => ?_
    cases both.1

end ReplayDriver

namespace PevcapCapture
variable (capture : PevcapCapture Telemetry)

def LinkUpLater : Prop :=
  capture.containsLinkUp = true ∧ ∀ record ∈ capture.records.head?, record.direction ≠ .linkUp

instance : Decidable capture.LinkUpLater := inferInstanceAs (Decidable (_ ∧ _))

variable {capture}

theorem first_of_no_linkUp (none : capture.containsLinkUp = false) :
    ∀ record ∈ capture.records.head?, record.direction ≠ .linkUp := by
  intro record first comesUp
  have found : capture.containsLinkUp = true :=
    List.any_eq_true.mpr ⟨record, List.mem_of_mem_head? first, decide_eq_true comesUp⟩
  cases none.symm.trans found

/-- With the answer of a preflight the stream brings up a link where the capture does. -/
theorem inserts_known :
    ReplayDriver.Inserts (some capture.containsLinkUp) capture.records ↔ capture.containsLinkUp = false := by
  constructor
  · rintro ⟨unknown, -⟩
    exact Bool.eq_false_of_not_eq_true fun found => unknown (congrArg some found)
  · intro none
    refine ⟨fun known => ?_, first_of_no_linkUp none⟩
    cases none.symm.trans (Option.some.inj known)

private theorem inserts_unknown :
    ReplayDriver.Inserts none capture.records ↔ capture.containsLinkUp = false ∨ capture.LinkUpLater := by
  constructor
  · rintro ⟨-, first⟩
    cases found : capture.containsLinkUp with
    | false => exact .inl rfl
    | true => exact .inr ⟨found, first⟩
  · rintro (none | ⟨-, first⟩)
    · exact ⟨nofun, first_of_no_linkUp none⟩
    · exact ⟨nofun, first⟩

end PevcapCapture

section Stream
variable {crates : PevcapCrates Telemetry} {bytes : List Byte} {reader : BinaryReader} {given : List (PevcapEvent Telemetry)}

theorem stream_capture (opened : newBinary crates bytes = .ok reader) (reads : Reads (BinaryReader.next crates) reader given) :
    ∃ capture, PevcapCapture.fromBinary crates bytes = .ok capture ∧ capture.header = reader.header ∧
      given.filterMap asRecord = capture.records := by
  obtain ⟨payloads, capture, framable, -, decode, rfl, same, rfl⟩ := stream_binary.mp ⟨reader, opened, rfl, reads⟩
  refine ⟨capture, fromBinary_eq_ok.mpr ⟨payloads, framable, decode, rfl⟩, same, ?_⟩
  exact congrArg PevcapCapture.records (assemble_events decode.version)

theorem reconnect_streams : ∃ bytes reader, newBinary reconnectCrates bytes = .ok reader ∧
    PevcapCapture.fromBinary reconnectCrates bytes = .ok reconnectCapture ∧
    Reads (BinaryReader.next reconnectCrates) reader reconnectCapture.events := by
  have framable := (framable_iff reconnect_encode).mpr reconnect_announceable
  have decode := (decode_encoded reconnect_keeps reconnect_encode).mpr ⟨rfl, reconnect_directed⟩
  have short : ∀ payload ∈ reconnectPayloads.all, payload.length ≤ maxStreamPayloadBytes :=
    fun payload member => (reconnect_short payload member).trans (by decide)
  obtain ⟨reader, opened, -, reads⟩ := stream_binary.mpr ⟨reconnectPayloads, reconnectCapture, framable, short, decode,
    rfl, rfl, rfl⟩
  exact ⟨_, reader, opened, fromBinary_eq_ok.mpr ⟨reconnectPayloads, framable, decode, rfl⟩, reads⟩

/-- Behind a preflight the replay from a stream is the replay from memory, failures included, and it counts
what the capture counts. -/
theorem BinaryReader.preflighted_replay_agrees (opened : newBinary crates bytes = .ok reader)
    (reads : Reads (next crates) reader given) :
    ∃ capture, PevcapCapture.fromBinary crates bytes = .ok capture ∧
      ∀ (driver : ReplayDriver Telemetry τ ε) (mode : PevcapReplayMode) (state : τ),
        driver.replayStream mode reader.header.writeLimit (some capture.containsLinkUp) (given.filterMap asRecord) state =
          (driver.replayCapture mode capture state >>= fun final =>
            pure (final, ⟨capture.replayInputCount, capture.maxNotificationLen⟩)) := by
  obtain ⟨capture, decoded, header, records⟩ := stream_capture opened reads
  refine ⟨capture, decoded, fun driver mode state => ?_⟩
  rw [driver.replayStream_eq, records, ← header, note_capture]
  simp only [PevcapCapture.inserts_known, ReplayDriver.replayCapture, PevcapCapture.replayInputCount]
  cases capture.containsLinkUp <;> simp

def traceDriver : ReplayDriver Unit (List SessionInput) Empty where
  ingest input trace := trace ++ [input]
  drain := .ok
  context _ trace := trace

/-- A cut of the notification into single bytes. -/
theorem BinaryReader.preflighted_replay_agrees_reconnect : ∃ bytes reader,
    newBinary reconnectCrates bytes = .ok reader ∧ PevcapCapture.fromBinary reconnectCrates bytes = .ok reconnectCapture ∧
      traceDriver.replayStream .oneByte reader.header.writeLimit (some reconnectCapture.containsLinkUp)
        (reconnectCapture.events.filterMap asRecord) [] =
          .ok ([.linkDown, .linkUp ⟨6, some 9⟩, .notification 0 [1] 7, .notification 0 [2] 7, .notification 0 [3] 7,
            .notification 0 [4] 7], ⟨3, 4⟩) := by
  obtain ⟨bytes, reader, opened, whole, reads⟩ := reconnect_streams
  obtain ⟨capture, decoded, agrees⟩ := preflighted_replay_agrees opened reads
  cases whole.symm.trans decoded
  exact ⟨bytes, reader, opened, whole, (agrees traceDriver .oneByte []).trans rfl⟩

/-- Without a preflight a link that comes up later is the one difference: it costs one link more, up to which the
replay from a stream is the replay from memory. -/
theorem BinaryReader.sequential_replay_agrees (opened : newBinary crates bytes = .ok reader)
    (reads : Reads (next crates) reader given) :
    ∃ capture, PevcapCapture.fromBinary crates bytes = .ok capture ∧
      ∀ (driver : ReplayDriver Telemetry τ ε) (mode : PevcapReplayMode) (state : τ),
        driver.replayStream mode reader.header.writeLimit none (given.filterMap asRecord) state =
          ((if capture.LinkUpLater then driver.syntheticLinkUp capture.header.writeLimit state else pure state) >>= fun state =>
            driver.replayCapture mode capture state >>= fun final =>
              pure (final, ⟨capture.replayInputCount + if capture.LinkUpLater then 1 else 0, capture.maxNotificationLen⟩)) := by
  obtain ⟨capture, decoded, header, records⟩ := stream_capture opened reads
  refine ⟨capture, decoded, fun driver mode state => ?_⟩
  rw [driver.replayStream_eq, records, ← header, note_capture]
  simp only [PevcapCapture.inserts_unknown, ReplayDriver.replayCapture, PevcapCapture.replayInputCount]
  by_cases later : capture.LinkUpLater
  · simp [later, later.1, Nat.add_comm]
  · cases capture.containsLinkUp <;> simp [later]

/-- The stream brings up a link before the one that the capture brings up itself. -/
theorem BinaryReader.sequential_replay_agrees_reconnect : ∃ bytes reader,
    newBinary reconnectCrates bytes = .ok reader ∧ PevcapCapture.fromBinary reconnectCrates bytes = .ok reconnectCapture ∧
      reconnectCapture.LinkUpLater ∧
      traceDriver.replayStream .whole reader.header.writeLimit none (reconnectCapture.events.filterMap asRecord) [] =
        .ok ([.linkUp ⟨0, none⟩, .linkDown, .linkUp ⟨6, some 9⟩, .notification 0 [1, 2, 3, 4] 7], ⟨4, 4⟩) ∧
      traceDriver.replayCapture .whole reconnectCapture [] =
        .ok [.linkDown, .linkUp ⟨6, some 9⟩, .notification 0 [1, 2, 3, 4] 7] := by
  obtain ⟨bytes, reader, opened, whole, reads⟩ := reconnect_streams
  obtain ⟨capture, decoded, agrees⟩ := sequential_replay_agrees opened reads
  cases whole.symm.trans decoded
  exact ⟨bytes, reader, opened, whole, by decide, (agrees traceDriver .whole []).trans rfl, rfl⟩

end Stream

section Cutting
variable {σ Event Effect : Type} {handle : SessionInput → σ → σ × List (SessionOutput Event Effect)}

/-- However a notification is cut, its parts leave the same session and bring the same events, and no part brings more
outputs than the whole. Outputs that are no events may come with each part. -/
structure ChunkBlind (handle : SessionInput → σ → σ × List (SessionOutput Event Effect)) : Prop where
  nothing : ∀ channel time session,
    let silent := handle (.notification channel [] time) session
    silent.1 = session ∧ silent.2.filterMap SessionOutput.asEvent = []
  joined : ∀ channel front back time session,
    let first := handle (.notification channel front time) session
    let second := handle (.notification channel back time) first.1
    let whole := handle (.notification channel (front ++ back) time) session
    whole.1 = second.1 ∧
      whole.2.filterMap SessionOutput.asEvent = first.2.filterMap SessionOutput.asEvent ++
        second.2.filterMap SessionOutput.asEvent ∧
      first.2.length ≤ whole.2.length ∧ second.2.length ≤ whole.2.length

private theorem chunksByLengths_flatten (plan : List Nat) (bytes : List Byte) : (chunksByLengths plan bytes).flatten = bytes := by
  induction plan generalizing bytes with
  | nil => by_cases empty : bytes = [] <;> simp [chunksByLengths, empty]
  | cons length plan ih => by_cases empty : bytes = [] <;> by_cases zero : length = 0 <;> simp [chunksByLengths, empty, zero, ih]

private theorem PevcapReplayMode.chunks_flatten (mode : PevcapReplayMode) (bytes : List Byte) : (mode.chunks bytes).flatten = bytes := by
  cases mode with
  | whole => exact List.append_nil bytes
  | oneByte => induction bytes <;> simp_all [chunks]
  | lengths plan => exact chunksByLengths_flatten plan bytes

def SemanticReplay.Drained (replay : SemanticReplay σ Event Effect) : Prop := replay.host.output = [] ∧ replay.outputs = []

theorem drain_eq_ok {limit : Nat} {replay final : SemanticReplay σ Event Effect} :
    drainSemanticEventsChecked limit replay = .ok final ↔
      replay.outputs.length + replay.host.output.length ≤ limit ∧ final = ⟨{ replay.host with output := [] }, [],
        replay.events ++ (replay.outputs ++ replay.host.output).filterMap SessionOutput.asEvent⟩ := by
  constructor
  · intro done
    obtain ⟨_, drained, done⟩ := bind_eq_ok.mp done
    obtain ⟨_, fits, drained⟩ := bind_eq_ok.mp drained
    cases drained
    cases done
    exact ⟨demand_eq_ok.mp fits, rfl⟩
  · rintro ⟨fits, rfl⟩
    exact bind_eq_ok.mpr ⟨_, bind_eq_ok.mpr ⟨⟨⟩, demand_eq_ok.mpr fits, rfl⟩, rfl⟩

theorem drain_drains {limit : Nat} {replay final : SemanticReplay σ Event Effect}
    (done : drainSemanticEventsChecked limit replay = .ok final) : final.Drained := by
  obtain ⟨-, rfl⟩ := drain_eq_ok.mp done
  exact ⟨rfl, rfl⟩

section Parts
variable {replay final : SemanticReplay σ Event Effect}

private theorem feed_chunks (blind : ChunkBlind handle) {channel : Connections.GattChannel} {time : UInt64} {chunks : List (List Byte)}
    (drained : replay.Drained) (whole : drainSemanticEventsChecked defaultReplayOutputLimit
      { replay with host := replay.host.ingest handle (.notification channel chunks.flatten time) } = .ok final) :
    chunks.foldlM (fun replay bytes => drainSemanticEventsChecked defaultReplayOutputLimit
      { replay with host := replay.host.ingest handle (.notification channel bytes time) }) replay = .ok final := by
  obtain ⟨⟨session, _⟩, _, events⟩ := replay
  obtain ⟨rfl, rfl⟩ := drained
  induction chunks generalizing session events with
  | nil =>
    obtain ⟨-, rfl⟩ := drain_eq_ok.mp whole
    obtain ⟨same, silent⟩ := blind.nothing channel time session
    simp only [HostSession.ingest, List.flatten_nil, same, List.nil_append, silent, List.append_nil]
    rfl
  | cons bytes chunks ih =>
    obtain ⟨fits, same⟩ := drain_eq_ok.mp whole
    obtain ⟨final', events', first, rest⟩ := blind.joined channel bytes chunks.flatten time session
    simp only [HostSession.ingest, List.flatten_cons, List.nil_append, List.length_nil, Nat.zero_add] at fits same
    rw [List.foldlM_cons]
    refine bind_eq_ok.mpr ⟨_, drain_eq_ok.mpr ⟨?_, rfl⟩, ih _ _ (drain_eq_ok.mpr ⟨?_, ?_⟩)⟩
    · simp only [HostSession.ingest, List.nil_append, List.length_nil, Nat.zero_add]
      exact first.trans fits
    · simp only [HostSession.ingest, List.nil_append, List.length_nil, Nat.zero_add]
      exact rest.trans fits
    · simp only [same, final', events', HostSession.ingest, List.nil_append, List.append_assoc]

private theorem replayRecord_cut (blind : ChunkBlind handle) (mode : PevcapReplayMode) {record : PevcapRecord Telemetry}
    (drained : replay.Drained)
    (whole : (semanticDriver handle fun _ host => host).replayRecord .whole replay record = .ok final) :
    (semanticDriver handle fun _ host => host).replayRecord mode replay record = .ok final ∧ final.Drained := by
  cases direction : record.direction with
  | inbound =>
    simp only [ReplayDriver.replayRecord, direction] at whole ⊢
    obtain ⟨middle, fed, done⟩ := bind_eq_ok.mp whole
    obtain ⟨_, fed, same⟩ := bind_eq_ok.mp fed
    cases same
    refine ⟨bind_eq_ok.mpr ⟨middle, feed_chunks blind drained ?_, done⟩, drain_drains done⟩
    rw [mode.chunks_flatten]
    exact fed
  | linkUp | linkDown | outbound =>
    simp only [ReplayDriver.replayRecord, direction] at whole ⊢
    exact ⟨whole, drain_drains whole⟩

theorem replayRecords_cut (blind : ChunkBlind handle) (mode : PevcapReplayMode) {records : List (PevcapRecord Telemetry)}
    (drained : replay.Drained)
    (whole : records.foldlM ((semanticDriver handle fun _ host => host).replayRecord .whole) replay = .ok final) :
    records.foldlM ((semanticDriver handle fun _ host => host).replayRecord mode) replay = .ok final := by
  induction records generalizing replay with
  | nil => exact whole
  | cons record records ih =>
    rw [List.foldlM_cons] at whole ⊢
    obtain ⟨middle, one, more⟩ := bind_eq_ok.mp whole
    obtain ⟨one, drained⟩ := replayRecord_cut blind mode drained one
    exact bind_eq_ok.mpr ⟨middle, one, ih drained more⟩

end Parts

variable (capture : PevcapCapture Telemetry) (blind : ChunkBlind handle) (session : σ)

include blind in
theorem replaySemanticEvents_cut (mode : PevcapReplayMode) {events : List Event}
    (whole : capture.replaySemanticEvents handle session .whole = .ok events) :
    capture.replaySemanticEvents handle session mode = .ok events := by
  obtain ⟨final, replayed, same⟩ := bind_eq_ok.mp whole
  refine bind_eq_ok.mpr ⟨final, ?_, same⟩
  rw [ReplayDriver.replayCapture] at replayed ⊢
  split at replayed
  · next up =>
    rw [if_pos up]
    exact replayRecords_cut blind mode ⟨rfl, rfl⟩ replayed
  · next down =>
    obtain ⟨start, first, more⟩ := bind_eq_ok.mp replayed
    rw [if_neg down]
    exact bind_eq_ok.mpr ⟨start, first, replayRecords_cut blind mode (drain_drains first) more⟩

include blind in
/-- The comparison finds nothing in a session that does not see the cuts: whatever the lengths, it fails only as the
replay of whole notifications does. -/
theorem PevcapCapture.compareReplayChunks_blind [DecidableEq Event] (lengths : List Nat) :
    capture.compareReplayChunks handle session lengths = (capture.replaySemanticEvents handle session .whole >>= fun events =>
      .ok ⟨events.length, events.length, events.length, true, true⟩) := by
  rw [compareReplayChunks]
  cases whole : capture.replaySemanticEvents handle session .whole with
  | error => rfl
  | ok events =>
    rw [replaySemanticEvents_cut capture blind session _ whole, replaySemanticEvents_cut capture blind session _ whole]
    simp [bind, Except.bind, pure, Except.pure]

/-- Every notification is noted, and each of its bytes is answered. -/
def answerBytes : SessionInput → Nat → Nat × List (SessionOutput Byte Unit)
  | .notification _ bytes _, count => (count + bytes.length, .notificationIngest () :: bytes.map .event)
  | .linkUp _, count | .linkDown, count => (count, [])

private theorem answerBytes_blind : ChunkBlind answerBytes := by
  have answered : ∀ bytes : List Byte,
      (bytes.map (SessionOutput.event : Byte → SessionOutput Byte Unit)).filterMap SessionOutput.asEvent = bytes := by
    intro bytes
    rw [List.filterMap_map]
    exact List.filterMap_some
  constructor
  · exact fun _ _ _ => ⟨rfl, rfl⟩
  · intro channel front back time session
    simp only [answerBytes, List.filterMap_cons, SessionOutput.asEvent, answered, List.length_append, List.length_cons,
      List.length_map]
    refine ⟨(Nat.add_assoc _ _ _).symm, trivial, ?_, ?_⟩ <;> omega

theorem PevcapCapture.compareReplayChunks_blind_answers :
    reconnectCapture.compareReplayChunks answerBytes 0 [3] = .ok ⟨4, 4, 4, true, true⟩ :=
  reconnectCapture.compareReplayChunks_blind answerBytes_blind 0 [3]

end Cutting
end Cutout.Pevcap
