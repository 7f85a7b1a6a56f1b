import Cutout.SettingsImage

/-! What handling a notification can do to the application discovery and to the
configuration evidence. However the bytes are routed, the discovery only ever
retires its query for a replaced identity or records package announcements, a
configuration is only ever dropped or read anew, and both announcements and replies
are listed among the outputs; nothing is written and no query identity is used up. -/

namespace Cutout.Protocols
open VescNotificationDecoder (observeVescReply observeFirmware observeController settingsEvidence)
variable {more : List SessionOutput}

def SessionOutput.isPackage : SessionOutput → Bool
  | .package _ => true
  | _ => false

def SessionOutput.isWrite : SessionOutput → Bool
  | .write _ _ => true
  | _ => false

/-- The discovery after identity replacements and announcements at one time; says whether one was announced. -/
inductive Heard (time : Nat) (discovery : RefloatDiscovery) : Bool → RefloatDiscovery → Prop where
  | nothing : Heard time discovery false discovery
  | replaced {announced next} : Heard time discovery announced next →
      Heard time discovery announced ⟨none, next.query.retire⟩
  | announced {announced next} (application : VescApplicationDiscovery) : Heard time discovery announced next →
      Heard time discovery true ⟨some application, (next.query.advanceDeadlines time).settle time⟩

theorem Heard.trans {time : Nat} {first second third : RefloatDiscovery} {before after : Bool}
    (start : Heard time first before second) (finish : Heard time second after third) :
    Heard time first (before || after) third := by
  induction finish with
  | nothing => simpa using start
  | replaced _ ih => exact .replaced ih
  | announced application _ ih => simpa using Heard.announced application ih

namespace VescReadOnlyReply

def answers (reply : VescReadOnlyReply) (kind : ConfigurationKind) : Bool :=
  match reply, kind with
  | .customConfig index _, .refloat => index = 0
  | .motorConfig _, .motor => true
  | .appConfig _, .app => true
  | _, _ => false

def image (reply : VescReadOnlyReply) (kind : ConfigurationKind) : Option SettingsImage :=
  match reply, kind with
  | .customConfig index bytes, .refloat =>
    if index = 0 then (RefloatSettings.decode bytes).toOption.map .refloat else none
  | .motorConfig config, .motor => (VescConfiguration.decode .motor config.serialized).toOption.map .firmware
  | .appConfig bytes, .app => (VescConfiguration.decode .app bytes).toOption.map .firmware
  | _, _ => none

end VescReadOnlyReply

/-- The configuration evidence of a kind after outputs at one time: what is there was there before or has just been
read, and a new generation is the mark of an answer. -/
structure Rereads (time : Nat) (kind : ConfigurationKind) (outputs : List SessionOutput)
    (before after : VescSettingsEvidence) : Prop where
  image : ∀ image observed, after.image kind = some (image, observed) → before.image kind = some (image, observed) ∨
    (observed = time ∧ ∃ reply, .reply reply ∈ outputs ∧ reply.image kind = some image)
  answered : before.generation kind < after.generation kind →
    (∃ reply, .reply reply ∈ outputs ∧ reply.answers kind) ∧ ∀ image observed,
      after.image kind = some (image, observed) →
        observed = time ∧ ∃ reply, .reply reply ∈ outputs ∧ reply.image kind = some image

namespace Rereads
variable {time : Nat} {kind : ConfigurationKind} {outputs : List SessionOutput} {before middle after : VescSettingsEvidence}

theorem of_kept (generation : after.generation kind = before.generation kind)
    (image : ∀ found, after.image kind = some found → before.image kind = some found) :
    Rereads time kind outputs before after :=
  ⟨fun _ _ found => .inl (image _ found), fun grew => absurd grew (by omega)⟩

theorem refl (evidence : VescSettingsEvidence) : Rereads time kind outputs evidence evidence :=
  of_kept rfl fun _ found => found

theorem of_reply {reply : VescReadOnlyReply} (listed : .reply reply ∈ outputs) (answer : reply.answers kind)
    (image : after.image kind = (reply.image kind).map (·, time)) : Rereads time kind outputs before after := by
  have read (found : SettingsImage) (observed : Nat) (now : after.image kind = some (found, observed)) :
      observed = time ∧ ∃ reply, .reply reply ∈ outputs ∧ reply.image kind = some found := by
    rw [image, Option.map_eq_some_iff] at now
    obtain ⟨_, carried, same⟩ := now
    cases same
    exact ⟨rfl, reply, listed, carried⟩
  exact ⟨fun found observed now => .inr (read found observed now), fun _ => ⟨⟨reply, listed, answer⟩, read⟩⟩

theorem trans (first : Rereads time kind outputs before middle) (second : Rereads time kind more middle after) :
    Rereads time kind (outputs ++ more) before after := by
  have early {image : SettingsImage} (read : ∃ reply, .reply reply ∈ outputs ∧ reply.image kind = some image) :
      ∃ reply, .reply reply ∈ outputs ++ more ∧ reply.image kind = some image := by
    obtain ⟨reply, listed, carried⟩ := read
    exact ⟨reply, List.mem_append_left _ listed, carried⟩
  have late {image : SettingsImage} (read : ∃ reply, .reply reply ∈ more ∧ reply.image kind = some image) :
      ∃ reply, .reply reply ∈ outputs ++ more ∧ reply.image kind = some image := by
    obtain ⟨reply, listed, carried⟩ := read
    exact ⟨reply, List.mem_append_right _ listed, carried⟩
  refine ⟨?_, ?_⟩
  · intro image observed found
    rcases second.image image observed found with there | ⟨now, read⟩
    · rcases first.image image observed there with before | ⟨now, read⟩
      · exact .inl before
      · exact .inr ⟨now, early read⟩
    · exact .inr ⟨now, late read⟩
  · intro grew
    by_cases sooner : before.generation kind < middle.generation kind
    · obtain ⟨⟨reply, listed, answer⟩, read⟩ := first.answered sooner
      refine ⟨⟨reply, List.mem_append_left _ listed, answer⟩, ?_⟩
      intro image observed found
      rcases second.image image observed found with there | ⟨now, fromMore⟩
      · exact ⟨(read image observed there).1, early (read image observed there).2⟩
      · exact ⟨now, late fromMore⟩
    · obtain ⟨⟨reply, listed, answer⟩, read⟩ := second.answered (by omega)
      refine ⟨⟨reply, List.mem_append_right _ listed, answer⟩, ?_⟩
      intro image observed found
      exact ⟨(read image observed found).1, late (read image observed found).2⟩

end Rereads

structure Effect (time : Nat) (work final : Dispatch) : Prop where
  outputs : ∃ more, final.output = work.output ++ more ∧ (∀ output ∈ more, output.isWrite = false) ∧
    Heard time work.decoder.refloatDiscovery (more.any SessionOutput.isPackage) final.decoder.refloatDiscovery ∧
    ∀ kind, Rereads time kind more work.decoder.settingsEvidence final.decoder.settingsEvidence
  identity : final.decoder.lastApplicationQueryId = work.decoder.lastApplicationQueryId

namespace Effect
variable {time : Nat} {work : Dispatch}

theorem trans {middle final : Dispatch} (first : Effect time work middle) (second : Effect time middle final) :
    Effect time work final := by
  obtain ⟨⟨some, start, quiet, heard, reread⟩, same⟩ := first
  obtain ⟨⟨more, finish, quiet', heard', reread'⟩, same'⟩ := second
  refine ⟨⟨some ++ more, by rw [finish, start, List.append_assoc], ?_, ?_, ?_⟩, same'.trans same⟩
  · intro output member
    rcases List.mem_append.mp member with early | late
    · exact quiet output early
    · exact quiet' output late
  · rw [List.any_append]
    exact heard.trans heard'
  · intro kind
    exact (reread kind).trans (reread' kind)

theorem parsing {final : Dispatch} (more : List SessionOutput) (output : final.output = work.output ++ more)
    (quiet : ∀ output ∈ more, output.isWrite = false ∧ output.isPackage = false)
    (discovery : final.decoder.refloatDiscovery = work.decoder.refloatDiscovery)
    (identity : final.decoder.lastApplicationQueryId = work.decoder.lastApplicationQueryId)
    (evidence : final.decoder.settingsEvidence = work.decoder.settingsEvidence) : Effect time work final := by
  refine ⟨⟨more, output, fun output member => (quiet output member).1, ?_, ?_⟩, identity⟩
  on_goal 2 => exact evidence ▸ fun kind => .refl _
  have silent : more.any SessionOutput.isPackage = false := by
    rw [List.any_eq_false]
    intro output member
    simp [(quiet output member).2]
  rw [silent, discovery]
  exact .nothing

theorem refl (work : Dispatch) : Effect time work work := parsing [] (by simp) (by simp) rfl rfl rfl

theorem emit (work : Dispatch) (quiet : ∀ output ∈ more, output.isWrite = false ∧ output.isPackage = false) :
    Effect time work (work.emit more) :=
  parsing more rfl quiet rfl rfl rfl

theorem setDecoder (work : Dispatch) {decoder : VescNotificationDecoder}
    (discovery : decoder.refloatDiscovery = work.decoder.refloatDiscovery)
    (identity : decoder.lastApplicationQueryId = work.decoder.lastApplicationQueryId)
    (evidence : decoder.settingsEvidence = work.decoder.settingsEvidence) : Effect time work { work with decoder } :=
  parsing [] (by simp) (by simp) discovery identity evidence

theorem setPending (work : Dispatch) (pending : List (List Byte)) : Effect time work { work with pending } :=
  parsing [] (by simp) (by simp) rfl rfl rfl

theorem rejectOversized (work : Dispatch) : Effect time work work.rejectOversized :=
  parsing [.parserError .malformedFrame] rfl (by simp [SessionOutput.isWrite, SessionOutput.isPackage]) rfl rfl rfl

end Effect

section Handling
variable {vesc : VescCrate} {time : Nat}
variable (work : Dispatch) (decoder : VescNotificationDecoder)
variable {outputs : List SessionOutput}

private theorem observeVescReply_discovery (reply : VescReadOnlyReply) :
    Heard time decoder.refloatDiscovery false (decoder.observeVescReply reply time).refloatDiscovery ∧
      (decoder.observeVescReply reply time).lastApplicationQueryId = decoder.lastApplicationQueryId := by
  have retired : Heard time decoder.refloatDiscovery false ⟨none, decoder.refloatDiscovery.query.retire⟩ :=
    .replaced .nothing
  cases reply with
  | firmwareInfo major minor test commit user =>
    simp only [observeVescReply, observeFirmware]
    split
    · exact ⟨retired, rfl⟩
    · exact ⟨.nothing, rfl⟩
  | values values =>
    simp only [observeVescReply]
    split
    · simp only [observeController]
      split
      · exact ⟨retired, rfl⟩
      · exact ⟨.nothing, rfl⟩
    · exact ⟨.nothing, rfl⟩
  | customConfig index bytes =>
    simp only [observeVescReply]
    split
    · exact ⟨.nothing, rfl⟩
    · exact ⟨.nothing, rfl⟩
  | _ => exact ⟨.nothing, rfl⟩

private theorem identity_evidence (kind : ConfigurationKind) :
    decoder.dropIdentityEvidence.settingsEvidence.image kind = none ∧
      decoder.dropIdentityEvidence.settingsEvidence.generation kind = decoder.settingsEvidence.generation kind := by
  cases kind <;> exact ⟨rfl, rfl⟩

/-- A reply reads its own configuration anew; a new identity drops them all. -/
theorem observeVescReply_rereads (reply : VescReadOnlyReply) (listed : .reply reply ∈ outputs)
    (kind : ConfigurationKind) :
    Rereads time kind outputs decoder.settingsEvidence (decoder.observeVescReply reply time).settingsEvidence := by
  have dropped {next : VescNotificationDecoder}
      (same : next.settingsEvidence.image kind = decoder.dropIdentityEvidence.settingsEvidence.image kind ∧
        next.settingsEvidence.generation kind = decoder.dropIdentityEvidence.settingsEvidence.generation kind) :
      Rereads time kind outputs decoder.settingsEvidence next.settingsEvidence := by
    obtain ⟨gone, generation⟩ := identity_evidence decoder kind
    exact .of_kept (same.2.trans generation) fun found known => by simp [same.1, gone] at known
  cases reply with
  | firmwareInfo major minor test commit user =>
    simp only [observeVescReply, observeFirmware]
    split
    · exact dropped (by cases kind <;> exact ⟨rfl, rfl⟩)
    · exact .of_kept (by cases kind <;> rfl) (by cases kind <;> exact fun _ found => found)
  | values values =>
    simp only [observeVescReply]
    split
    · simp only [observeController]
      split
      · exact dropped (by cases kind <;> exact ⟨rfl, rfl⟩)
      · exact .of_kept (by cases kind <;> rfl) (by cases kind <;> exact fun _ found => found)
    · exact .refl _
  | customConfig index bytes =>
    simp only [observeVescReply]
    by_cases first : index = 0
    · rw [if_pos first]
      cases kind with
      | refloat =>
        refine .of_reply listed (by simp [VescReadOnlyReply.answers, first]) ?_
        simp [VescReadOnlyReply.image, first, VescSettingsEvidence.image, settingsEvidence,
          Function.comp_def]
      | _ => exact .of_kept rfl fun _ found => found
    · rw [if_neg first]
      exact .refl _
  | motorConfig config =>
    cases kind with
    | motor =>
      refine .of_reply listed rfl ?_
      simp [observeVescReply, VescReadOnlyReply.image, VescSettingsEvidence.image,
        settingsEvidence, VescNotificationDecoder.learnBoardProfile, Function.comp_def]
    | _ => exact .of_kept rfl fun _ found => found
  | appConfig bytes =>
    cases kind with
    | app =>
      refine .of_reply listed rfl ?_
      simp [observeVescReply, VescReadOnlyReply.image, VescSettingsEvidence.image,
        settingsEvidence, Function.comp_def]
    | _ => exact .of_kept rfl fun _ found => found
  | _ => exact .of_kept (by cases kind <;> rfl) (by cases kind <;> exact fun _ found => found)

private theorem handleReply_effect (reply : VescReadOnlyReply) : Effect time work (work.handleReply time reply) := by
  obtain ⟨heard, identity⟩ := @observeVescReply_discovery time work.decoder reply
  refine ⟨⟨_, rfl, ?_, ?_, ?_⟩, identity⟩
  · cases reply <;> simp [SessionOutput.isWrite]
  · cases reply <;> exact heard
  · exact observeVescReply_rereads work.decoder reply List.mem_cons_self

theorem foldl_handleReply_effect (replies : List VescReadOnlyReply) :
    Effect time work (replies.foldl (Dispatch.handleReply time) work) := by
  induction replies generalizing work with
  | nil => exact .refl work
  | cons reply replies ih => exact (handleReply_effect work reply).trans (ih _)

private theorem handleVescNotification_effect (bytes : List Byte) (sourceLen : Nat) (reportErrors : Bool) :
    Effect time work (work.handleVescNotification vesc bytes time sourceLen reportErrors).1 := by
  unfold Dispatch.handleVescNotification
  cases fed : work.decoder.stream.feedResult vesc bytes with
  | mk stream result =>
    have start : Effect time work { work with decoder := { work.decoder with stream } } := .setDecoder work rfl rfl rfl
    cases result with
    | error error =>
      cases reportErrors with
      | false => exact start
      | true => exact start.trans (.emit _ (by simp [SessionOutput.isWrite, SessionOutput.isPackage]))
    | ok outcome =>
      cases outcome with
      | buffered =>
        cases reportErrors with
        | false => exact start
        | true => exact start.trans (.emit _ (by simp [SessionOutput.isWrite, SessionOutput.isPackage]))
      | replies replies malformedFrames =>
        cases reportErrors with
        | false =>
          simp only [Bool.and_false, Bool.false_eq_true, if_false]
          exact start.trans (foldl_handleReply_effect _ replies)
        | true =>
          have finish (work : Dispatch) : Effect time work ((replies.foldl (Dispatch.handleReply time) work).emit
              [.notificationIngest .semanticEvents sourceLen]) :=
            (foldl_handleReply_effect work replies).trans
              (.emit _ (by simp [SessionOutput.isWrite, SessionOutput.isPackage]))
          cases malformedFrames with
          | false => exact start.trans (finish _)
          | true =>
            refine start.trans (Effect.trans (.emit _ ?_) (finish _))
            simp [SessionOutput.isWrite, SessionOutput.isPackage]

def renderPackageReplies (time : Nat) (replies : List RefloatReply) : List SessionOutput :=
  replies.filterMap fun reply => match reply with
    | .realtimeData data => some (SessionOutput.telemetry (data.toDelta time))
    | .info info => some (SessionOutput.package info)
    | .realtimeFieldIds _ => none

private theorem renderPackageReplies_isWrite (replies : List RefloatReply) :
    ∀ output ∈ renderPackageReplies time replies, output.isWrite = false := by
  intro output member
  obtain ⟨reply, -, rendered⟩ := List.mem_filterMap.mp member
  cases reply <;> cases rendered <;> rfl

def Dispatch.notePackage (package : Option RefloatInfo) : RefloatReply → Option RefloatInfo
  | .info info => some info
  | _ => package

private theorem renderPackageReplies_isPackage (replies : List RefloatReply) :
    (renderPackageReplies time replies).any SessionOutput.isPackage = (Dispatch.lastPackage replies).isSome := by
  have general (start : Option RefloatInfo) : (replies.foldl Dispatch.notePackage start).isSome =
        (start.isSome || (renderPackageReplies time replies).any SessionOutput.isPackage) := by
    induction replies generalizing start with
    | nil => simp [renderPackageReplies]
    | cons reply replies ih =>
      rw [List.foldl_cons, ih]
      cases reply <;> simp [renderPackageReplies, SessionOutput.isPackage, Dispatch.notePackage]
  have found := general none
  rw [Option.isSome_none, Bool.false_or] at found
  exact found.symm

/-- The package stream after a feed, with its announcement noted and its replies rendered. -/
def Dispatch.observePackageFeed (work : Dispatch) (refloatStream : RefloatStreamDecoder) (replies : List RefloatReply)
    (time : Nat) : Dispatch :=
  let decoder := { work.decoder with refloatStream }
  { work with decoder := match Dispatch.lastPackage replies with
      | some package => Dispatch.observePackage decoder package time
      | none => decoder }.emit (renderPackageReplies time replies)

private theorem observePackage_rereads (package : RefloatInfo) (kind : ConfigurationKind) :
    Rereads time kind outputs decoder.settingsEvidence
      (Dispatch.observePackage decoder package time).settingsEvidence := by
  refine .of_kept (by cases kind <;> rfl) ?_
  intro found known
  cases kind with
  | refloat =>
    simp only [Dispatch.observePackage, settingsEvidence, VescSettingsEvidence.image] at known ⊢
    split at known
    · exact known
    · simp at known
  | _ => exact known

private theorem observePackageFeed_effect (refloatStream : RefloatStreamDecoder) (replies : List RefloatReply) :
    Effect time work (work.observePackageFeed refloatStream replies time) := by
  refine ⟨⟨renderPackageReplies time replies, rfl, renderPackageReplies_isWrite replies, ?_, ?_⟩, ?_⟩
  · rw [renderPackageReplies_isPackage]
    unfold Dispatch.observePackageFeed
    cases Dispatch.lastPackage replies with
    | none => exact .nothing
    | some package => exact .announced _ .nothing
  · intro kind
    unfold Dispatch.observePackageFeed
    cases Dispatch.lastPackage replies with
    | none => exact .of_kept (by cases kind <;> rfl) (by cases kind <;> exact fun _ found => found)
    | some package => exact observePackage_rereads _ package kind
  · unfold Dispatch.observePackageFeed
    cases Dispatch.lastPackage replies <;> rfl

theorem handleRefloatNotification_effect (bytes : List Byte) :
    Effect time work (work.handleRefloatNotification bytes time).1 := by
  cases fed : work.decoder.refloatStream.feedResult bytes with
  | mk refloatStream rest =>
    obtain ⟨replies, result⟩ := rest
    have observed := @observePackageFeed_effect time work refloatStream replies
    unfold Dispatch.handleRefloatNotification
    simp only [fed]
    cases result with
    | error error =>
      simp only
      split
      · exact observed.trans (.setDecoder _ rfl rfl rfl)
      · exact observed.trans (.parsing [.parserError .malformedFrame,
          .notificationIngest (.parserDiagnostic .malformedFrame) bytes.length] rfl
          (by simp [SessionOutput.isWrite, SessionOutput.isPackage]) rfl rfl rfl)
    | ok outcome =>
      cases outcome with
      | buffered => exact observed.trans (.setDecoder _ rfl rfl rfl)
      | replies count malformedFrames =>
        refine observed.trans (.parsing ((if malformedFrames then [.parserError .malformedFrame] else []) ++
          [.notificationIngest .semanticEvents bytes.length]) rfl ?_ rfl rfl rfl)
        cases malformedFrames <;> simp [SessionOutput.isWrite, SessionOutput.isPackage]

theorem feedGeneric_effect (bytes : List Byte) (sourceLen : Nat) :
    Effect time work (work.feedGeneric vesc bytes time sourceLen) := by
  unfold Dispatch.feedGeneric
  by_cases oversized : vescMaxFrameLen < bytes.length
  · rw [if_pos oversized]
    exact .rejectOversized work
  · rw [if_neg oversized]
    exact (handleVescNotification_effect work bytes sourceLen true).trans (.setDecoder _ rfl rfl rfl)

theorem holdPrefix_effect (held : List Byte) (sourceLen : Nat) :
    Effect time work (work.holdPrefix held sourceLen) := by
  have stored : Effect time work { work with decoder := { work.decoder with genericPrefix := held } } :=
    .setDecoder work rfl rfl rfl
  unfold Dispatch.holdPrefix
  by_cases oversized : genericPrefixCapacity < held.length
  · rw [if_pos oversized]
    exact .rejectOversized work
  · rw [if_neg oversized]
    by_cases empty : held = []
    · simp only [empty, if_true]
      exact .setDecoder work rfl rfl rfl
    · simp only [empty, if_false]
      exact stored.trans (.emit _ (by simp [SessionOutput.isWrite, SessionOutput.isPackage]))

theorem feedRefloat_effect (chunk : List Byte) (sourceLen : Nat) :
    Effect time work (work.feedRefloat chunk time sourceLen) := by
  have fed := @handleRefloatNotification_effect time work chunk
  unfold Dispatch.feedRefloat
  cases handled : (work.handleRefloatNotification chunk time).2 with
  | true => simpa only [handled, if_true] using fed
  | false =>
    simp only [handled, Bool.false_eq_true, if_false]
    exact fed.trans (.emit _ (by simp [SessionOutput.isWrite, SessionOutput.isPackage]))

private theorem feedPrefixedRefloat_effect (chunk : List Byte) (sourceLen : Nat) :
    Effect time work (work.feedPrefixedRefloat chunk time sourceLen) := by
  unfold Dispatch.feedPrefixedRefloat
  split
  · split
    · simp only
      split
      · exact (handleRefloatNotification_effect work _).trans (.setPending _ _)
      · exact (handleRefloatNotification_effect work _).trans (.rejectOversized _)
    · exact feedRefloat_effect work chunk sourceLen
  · exact feedRefloat_effect work chunk sourceLen

theorem routeChunk_effect (bytes : List Byte) : Effect time work (work.routeChunk vesc bytes time) := by
  unfold Dispatch.routeChunk
  split
  · exact feedGeneric_effect work bytes _
  · split
    · simp only
      split
      · exact .rejectOversized work
      · have released : Effect time work { work with decoder := { work.decoder with genericPrefix := [] } } :=
          .setDecoder work rfl rfl rfl
        split
        · exact released.trans (feedGeneric_effect _ _ _)
        · exact released.trans (feedPrefixedRefloat_effect _ _ _)
        · exact released.trans (holdPrefix_effect _ _ _)
    · split
      · exact feedGeneric_effect work bytes _
      · split
        · exact .rejectOversized work
        · exact feedRefloat_effect work bytes _
      · split
        · exact holdPrefix_effect work bytes _
        · exact feedGeneric_effect work bytes _

theorem enqueue_effect (tail : List Byte) : (∃ final, work.enqueue tail = .ok final ∧ Effect time work final) ∨
      ∃ final, work.enqueue tail = .error final ∧ Effect time work final := by
  unfold Dispatch.enqueue
  by_cases room : work.pending.length < 2
  · exact .inl ⟨_, if_pos room, .setPending work _⟩
  · exact .inr ⟨_, if_neg room, .trans (.rejectOversized work) (.setPending _ [])⟩

theorem handleNotificationChunk_effect (bytes : List Byte) :
    Effect time work (work.handleNotificationChunk vesc bytes time) := by
  unfold Dispatch.handleNotificationChunk
  have noted : Effect time work { work with decoder := { work.decoder with nowMs := time } } :=
    .setDecoder work rfl rfl rfl
  refine noted.trans ?_
  generalize { work with decoder := { work.decoder with nowMs := time } } = work
  have package (bytes : List Byte) := @handleRefloatNotification_effect time work bytes
  -- A chunk the package stream does not want is routed from the state it left behind.
  have fallback : Effect time work (
      if (work.handleRefloatNotification bytes time).2 = true ∨
          (work.handleRefloatNotification bytes time).1.decoder.refloatStreamPending = true then
        (work.handleRefloatNotification bytes time).1
      else (work.handleRefloatNotification bytes time).1.routeChunk vesc bytes time) := by
    split
    · exact package bytes
    · exact (package bytes).trans (routeChunk_effect _ _)
  simp only
  split
  · split
    · rename_i missing known
      split
      · split
        · rcases @enqueue_effect time (work.handleRefloatNotification (bytes.take missing) time).1 (bytes.drop missing)
            with ⟨final, queued, kept⟩ | ⟨final, queued, kept⟩
          · rw [queued]
            exact (package _).trans kept
          · rw [queued]
            exact (package _).trans kept
        · exact package _
      · exact fallback
    · exact fallback
  · exact routeChunk_effect work bytes

theorem handleCandidate_effect (candidate : List Byte) :
    Effect time work (work.handleCandidate vesc candidate time) := by
  unfold Dispatch.handleCandidate
  split
  · rename_i frameLen complete
    split
    · rcases @enqueue_effect time work (candidate.drop frameLen) with ⟨final, queued, kept⟩ | ⟨final, queued, kept⟩
      · rw [queued]
        exact kept.trans (handleNotificationChunk_effect _ _)
      · rw [queued]
        exact kept
    · exact handleNotificationChunk_effect work _
  · exact handleNotificationChunk_effect work _

private theorem dispatchNotificationSlice_effect (bytes : List Byte) :
    Effect time work (work.dispatchNotificationSlice vesc bytes time) := by
  unfold Dispatch.dispatchNotificationSlice
  split
  · exact handleNotificationChunk_effect work _
  · split
    · exact handleCandidate_effect work _
    · exact handleCandidate_effect work _

private theorem drainPending_effect (fuel : Nat) (work : Dispatch) : Effect time work (work.drainPending vesc time fuel) := by
  induction fuel generalizing work with
  | zero =>
    unfold Dispatch.drainPending
    split
    · exact .refl work
    · exact .rejectOversized work
  | succ fuel ih =>
    unfold Dispatch.drainPending
    split
    · exact .refl work
    · exact (Effect.setPending work _).trans ((dispatchNotificationSlice_effect _ _).trans (ih _))

theorem handleNotification_effect (decoder : VescNotificationDecoder) (bytes : List Byte) :
    let result := decoder.handleNotification vesc bytes time
    (∀ output ∈ result.2, output.isWrite = false) ∧ result.1.lastApplicationQueryId = decoder.lastApplicationQueryId ∧
      Heard time decoder.refloatDiscovery (result.2.any SessionOutput.isPackage) result.1.refloatDiscovery ∧
      ∀ kind, Rereads time kind result.2 decoder.settingsEvidence result.1.settingsEvidence := by
  unfold VescNotificationDecoder.handleNotification
  by_cases oversized : maxVescNotificationBatchBytes < bytes.length
  · rw [if_pos oversized]
    exact ⟨by simp [SessionOutput.isWrite], rfl, .nothing, fun kind => .refl _⟩
  · rw [if_neg oversized]
    obtain ⟨⟨more, same, quiet, heard, reread⟩, identity⟩ :=
      @drainPending_effect vesc time maxVescNotificationDispatches { decoder, pending := [bytes] }
    simp only [List.nil_append] at same
    simp only [same]
    exact ⟨quiet, identity, heard, reread⟩

end Handling

end Cutout.Protocols
