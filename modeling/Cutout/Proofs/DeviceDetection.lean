import Cutout.DeviceDetection
import Cutout.Library.Evidence
import Cutout.Library.Runs

/-! What a detection session concludes. The family is the finding on what the three parsers
completed, each reading the notifications alone; a conflict leaves neither model nor model
number; queries are issued once each, in order, and wait for nothing once they are ruled out. -/

namespace Cutout.Connections
open Library
open Protocols (Byte VeteranFrame VeteranFrameReassembler VeteranReassemblyError VeteranFrameParseResult BegodeFrame
  BegodeFrameError BegodeFrameReassembler BegodeFrameParseResult VescReadOnlyStreamDecoder VescCrate feedReplies)
variable {after : DeviceIdentityState}

def ProtocolFamilyState.finding : ProtocolFamilyState → Finding ProtocolFamily
  | unknown => .unknown
  | veteranLeaperkimNosfet => .single .veteranLeaperkimNosfet
  | begodeGotway => .single .begodeGotway
  | vesc => .single .vesc
  | conflict => .conflict

private theorem ProtocolFamilyState.mergeObserved_finding (current observed : ProtocolFamilyState) :
    (current.mergeObserved observed).finding = current.finding.merge observed.finding := by
  cases current <;> cases observed <;> rfl

private theorem ProtocolFamilyState.finding_conflict {state : ProtocolFamilyState} (conflict : state.finding = .conflict) :
    state = .conflict := by
  cases state with
  | conflict => rfl
  | _ => cases conflict

theorem ProtocolFamilyState.observed_sums {seen : Set ProtocolFamily} {current observed : ProtocolFamilyState}
    {family : ProtocolFamily} {option : Option ProtocolFamilyState} (sums : current.finding.Sums seen)
    (named : observed.finding = .single family) (only : ∀ state, option = some state → state = observed) :
    (option.elim current current.mergeObserved).finding.Sums (seen ∪ {other | other = family ∧ option.isSome = true}) := by
  cases option with
  | none =>
    have nothing : {other | other = family ∧ (none : Option ProtocolFamilyState).isSome = true} = ∅ := by
      ext other
      simp
    rw [nothing, Set.union_empty]
    exact sums
  | some state =>
    obtain rfl := only state rfl
    have alone : {other | other = family ∧ (some state).isSome = true} = {family} := by
      ext other
      simp
    rw [alone, Option.elim_some, mergeObserved_finding, named]
    apply sums.merge
    refine ⟨rfl, ?_⟩
    intro other member
    exact member

private theorem ProtocolFamilyState.merge_all (current : ProtocolFamilyState) (options : List (Option ProtocolFamilyState)) :
    options.reduceOption.foldl mergeObserved current =
      options.foldl (fun state option => option.elim state state.mergeObserved) current := by
  induction options generalizing current with
  | nil => rfl
  | cons option options ih =>
    cases option with
    | none => exact ih current
    | some state => exact ih (current.mergeObserved state)

def completesVeteran : Except VeteranReassemblyError VeteranFrameParseResult → Bool
  | .ok (.complete _) => true
  | _ => false

def completesBegode : Except BegodeFrameError BegodeFrameParseResult → Bool
  | .ok (.complete _) => true
  | _ => false

/-- The notifications completed a frame or a reply of the family, its parser reading them alone. -/
def Completes (vesc : VescCrate) (notifications : List (List Byte)) : ProtocolFamily → Prop
  | .veteranLeaperkimNosfet => ∃ here ∈ Runs.history VeteranFrameReassembler.feedByteResult {} notifications.flatten,
      completesVeteran here.output = true
  | .begodeGotway => ∃ here ∈ Runs.history BegodeFrameReassembler.feedByteResult {} notifications.flatten,
      completesBegode here.output = true
  | .vesc => ∃ here ∈ Runs.history (VescReadOnlyStreamDecoder.feedResult vesc) .new notifications,
      feedReplies here.output ≠ []

def completed (vesc : VescCrate) (notifications : List (List Byte)) : Set ProtocolFamily :=
  {family | Completes vesc notifications family}

namespace DeviceIdentityState
variable {registry : List ModelRegistryEntry} {identity : DeviceIdentityState}

def protocol (identity : DeviceIdentityState) : ProtocolFamilyState :=
  protocolState identity.protocolFamily identity.protocolConflict

theorem resolution_protocol : (identity.resolution registry).protocol = identity.protocol := rfl

theorem refreshResolution_protocol {bannerModel : Option IdentityBannerEvidence}
    {protocolModel : Option ProtocolModelIdentityEvidence} (protocol : ProtocolFamilyState) :
    (identity.refreshResolution registry bannerModel protocolModel protocol).protocol = protocol := by
  cases protocol <;> rfl

/-- In conflict the identity keeps neither a model nor a model number. -/
def Settled (identity : DeviceIdentityState) : Prop :=
  identity.protocol = .conflict → identity.model = none ∧ identity.protocolModel = .missing

theorem refreshResolution_settled {bannerModel : Option IdentityBannerEvidence}
    {protocolModel : Option ProtocolModelIdentityEvidence} {protocol : ProtocolFamilyState}
    (missing : protocol = .conflict → protocolModel.getD identity.protocolModel = .missing) :
    (identity.refreshResolution registry bannerModel protocolModel protocol).Settled := by
  intro conflict
  rw [refreshResolution_protocol] at conflict
  refine ⟨?_, missing conflict⟩
  rw [conflict]
  rfl

private theorem conflict_resolves (conflict : identity.protocol = .conflict) :
    (identity.resolution registry).staged.model = none ∧ (identity.resolution registry).staged.protocolModel = .missing := by
  have staged : (identity.resolution registry).staged =
      resolveStagedIdentity registry identity.protocol
        ⟨identity.advertisedName.bind strFromUtf8, identity.gatt, identity.protocol.intoClassification,
          identity.keptBanner, identity.protocolModel⟩ := rfl
  rw [staged, conflict]
  exact ⟨rfl, rfl⟩

private theorem setPending_waits {probe other : PendingProbe} {startedAt : Option Nat} :
    (identity.setPending probe startedAt).pendingProbeStartedAt other =
      if other = probe then startedAt else identity.pendingProbeStartedAt other := rfl

structure SameEvidence (before after : DeviceIdentityState) : Prop where
  protocol : after.protocol = before.protocol
  model : after.model = before.model
  protocolModel : after.protocolModel = before.protocolModel

theorem SameEvidence.trans {before middle : DeviceIdentityState} (first : SameEvidence before middle)
    (second : SameEvidence middle after) : SameEvidence before after :=
  ⟨second.protocol.trans first.protocol, second.model.trans first.model, second.protocolModel.trans first.protocolModel⟩

theorem SameEvidence.settled {before : DeviceIdentityState} (same : SameEvidence before after)
    (settled : before.Settled) : after.Settled := by
  intro conflict
  rw [same.protocol] at conflict
  rw [same.model, same.protocolModel]
  exact settled conflict

theorem observeProbeTimeout_same (probe : PendingProbe) : SameEvidence identity (identity.observeProbeTimeout probe).1 := by
  unfold observeProbeTimeout
  split
  · exact ⟨rfl, rfl, rfl⟩
  · exact ⟨rfl, rfl, rfl⟩

theorem expireProbes_same (expires : Nat → Bool) (probes : List PendingProbe) :
    SameEvidence identity (expireProbes expires identity probes).1 := by
  induction probes generalizing identity with
  | nil => exact ⟨rfl, rfl, rfl⟩
  | cons probe probes ih =>
    unfold expireProbes
    split
    · exact ih
    · split
      · exact (observeProbeTimeout_same probe).trans ih
      · exact ih

private theorem nextProbeExpiry_none {timeout : Nat} (silent : (identity.nextProbeExpiry timeout).isSome = false) (probe : PendingProbe) :
    identity.pendingProbeStartedAt probe = none := by
  rw [Option.isSome_eq_false_iff, nextProbeExpiry, Option.isNone_iff_eq_none, List.min?_eq_none_iff, List.map_eq_nil_iff,
    List.filterMap_eq_nil_iff] at silent
  apply silent
  cases probe <;> decide

end DeviceIdentityState

namespace DeviceDetection
variable {vesc : VescCrate} {registry : List ModelRegistryEntry} {detection : DeviceDetection}
  {identity : DeviceIdentityState} {notifications : List (List Byte)}

/-- What the byte loop does: both reassemblers read the bytes, and what they complete is kept. -/
structure Fed (bytes : List Byte) (before after : DeviceDetection × ObservedFrames) : Prop where
  veteran : after.1.veteranReassembler = Runs.final VeteranFrameReassembler.feedByteResult before.1.veteranReassembler bytes
  begode : after.1.begodeReassembler = Runs.final BegodeFrameReassembler.feedByteResult before.1.begodeReassembler bytes
  decoder : after.1.vescDecoder = before.1.vescDecoder
  queries : after.1.nextBegodeQuery = before.1.nextBegodeQuery
  identity : after.1.identity = before.1.identity
  veteranFrame : after.2.veteranFrame.isSome = true ↔ before.2.veteranFrame.isSome = true ∨
    ∃ here ∈ Runs.history VeteranFrameReassembler.feedByteResult before.1.veteranReassembler bytes,
      completesVeteran here.output = true
  begodeFrame : after.2.begodeFrame.isSome = true ↔ before.2.begodeFrame.isSome = true ∨
    ∃ here ∈ Runs.history BegodeFrameReassembler.feedByteResult before.1.begodeReassembler bytes,
      completesBegode here.output = true

private theorem observeByte_veteran (before : DeviceDetection × ObservedFrames) (byte : Byte) :
    (observeByte registry before byte).2.veteranFrame.isSome = true ↔ before.2.veteranFrame.isSome = true ∨
      completesVeteran (before.1.veteranReassembler.feedByteResult byte).2 = true := by
  unfold observeByte
  dsimp only
  cases veteran : (before.1.veteranReassembler.feedByteResult byte).2 with
  | error error =>
    split <;> simp [completesVeteran]
  | ok result =>
    cases result <;> split <;> simp [completesVeteran]

private theorem observeByte_begode (before : DeviceDetection × ObservedFrames) (byte : Byte) :
    (observeByte registry before byte).2.begodeFrame.isSome = true ↔ before.2.begodeFrame.isSome = true ∨
      completesBegode (before.1.begodeReassembler.feedByteResult byte).2 = true := by
  unfold observeByte
  dsimp only
  cases begode : (before.1.begodeReassembler.feedByteResult byte).2 with
  | error error =>
    dsimp only
    split <;> simp [completesBegode]
  | ok result =>
    cases result with
    | complete frame => simp [completesBegode]
    | seeking | buffered =>
      dsimp only
      split <;> simp [completesBegode]

private theorem observeBytes_fed (bytes : List Byte) (before : DeviceDetection × ObservedFrames) :
    Fed bytes before (bytes.foldl (observeByte registry) before) := by
  induction bytes generalizing before with
  | nil => exact ⟨rfl, rfl, rfl, rfl, rfl, by simp [Runs.history], by simp [Runs.history]⟩
  | cons byte bytes ih =>
    have later := ih (observeByte registry before byte)
    rw [List.foldl_cons]
    refine ⟨later.veteran, later.begode, later.decoder, later.queries, later.identity, ?_, ?_⟩
    · rw [later.veteranFrame, observeByte_veteran, or_assoc, Runs.history, List.exists_mem_cons_iff]
      exact Iff.rfl
    · rw [later.begodeFrame, observeByte_begode, or_assoc, Runs.history, List.exists_mem_cons_iff]
      exact Iff.rfl

end DeviceDetection

private theorem ObservedFrames.protocol_sums {observed : ObservedFrames} {vescReply : Bool} {current : ProtocolFamilyState}
    {seen : Set ProtocolFamily} (sums : current.finding.Sums seen) :
    (observed.protocol vescReply current).finding.Sums (((seen ∪
      {family | family = .veteranLeaperkimNosfet ∧ observed.veteranFrame.isSome = true}) ∪
      {family | family = .begodeGotway ∧ observed.begodeFrame.isSome = true}) ∪
      {family | family = .vesc ∧ vescReply = true}) := by
  unfold ObservedFrames.protocol
  rw [ProtocolFamilyState.merge_all]
  have veteran := @ProtocolFamilyState.observed_sums _ _ .veteranLeaperkimNosfet _
    (observed.veteranFrame.map fun _ => .veteranLeaperkimNosfet) sums rfl (by simp)
  have begode := @ProtocolFamilyState.observed_sums _ _ .begodeGotway _
    (observed.begodeFrame.map fun _ => .begodeGotway) veteran rfl (by simp)
  have reply := @ProtocolFamilyState.observed_sums _ _ .vesc _ (if vescReply then some .vesc else none) begode rfl
    (by cases vescReply <;> simp)
  have replied : (if vescReply then some ProtocolFamilyState.vesc else none).isSome = vescReply := by
    cases vescReply <;> rfl
  simp only [Option.isSome_map, replied] at reply
  exact reply

namespace DeviceDetection
variable {vesc : VescCrate} {registry : List ModelRegistryEntry} {detection : DeviceDetection}
variable {probe : PendingProbe}

  {identity : DeviceIdentityState}

section Notification
variable {current : DeviceDetectionResolution} {decision : NotificationDecision} {bytes : List Byte}

/-- What a decision leaves of the identity: the family it names, and probes that still wait. -/
structure Decided (before after : DeviceIdentityState) (protocol : ProtocolFamilyState) : Prop where
  protocol : after.protocol = protocol
  waits : ∀ probe, before.pendingProbeStartedAt probe = none → after.pendingProbeStartedAt probe = none
  settled : after.Settled

theorem observeProbeResponse_waits {answers : Bool} {answered : PendingProbe}
    (waits : identity.pendingProbeStartedAt probe = none) :
    (if answers then identity.observeProbeResponse answered else identity).pendingProbeStartedAt probe = none := by
  split
  · unfold DeviceIdentityState.observeProbeResponse
    rw [DeviceIdentityState.setPending_waits]
    split
    · rfl
    · exact waits
  · exact waits

theorem observeProbeResponse_same {answers : Bool} {answered : PendingProbe} : DeviceIdentityState.SameEvidence identity
    (if answers then identity.observeProbeResponse answered else identity) := by
  split <;> exact ⟨rfl, rfl, rfl⟩

private theorem answerProbes_same (decision : NotificationDecision) :
    DeviceIdentityState.SameEvidence identity (answerProbes identity decision) := by
  have named : DeviceIdentityState.SameEvidence identity
      (if decide (decision.bannerModel ≠ .missing) then identity.observeProbeResponse .begodeName else identity) :=
    observeProbeResponse_same
  have answered := (named.trans (@observeProbeResponse_same _ decision.firmwareBanner .begodeFirmware)).trans
    (@observeProbeResponse_same _ decision.imuBanner .begodeImu)
  exact ⟨answered.protocol, answered.model, answered.protocolModel⟩

private theorem answerProbes_waits (decision : NotificationDecision) (waits : identity.pendingProbeStartedAt probe = none) :
    (answerProbes identity decision).pendingProbeStartedAt probe = none :=
  observeProbeResponse_waits (observeProbeResponse_waits (observeProbeResponse_waits waits))

private theorem applyNotificationDecision_decided {protocol : ProtocolFamilyState} (settled : identity.Settled)
    (same : current.protocol = identity.protocol) (named : decision.protocol = protocol)
    (missing : protocol = .conflict → decision.protocolModel = .missing) :
    Decided identity (applyNotificationDecision registry identity bytes current decision) protocol := by
  subst named
  have answered : DeviceIdentityState.SameEvidence identity (answerProbes identity decision) := answerProbes_same decision
  have number : decision.protocol = .conflict →
      (protocolModelUpdate decision current.protocol).getD (answerProbes identity decision).protocolModel = .missing := by
    intro conflict
    unfold protocolModelUpdate
    rw [if_pos (missing conflict)]
    split
    · next unchanged =>
      exact answered.protocolModel.trans (settled (same.symm.trans (unchanged.symm.trans conflict))).2
    · rfl
  constructor
  · exact @DeviceIdentityState.refreshResolution_protocol registry (answerProbes identity decision)
      (bannerModelUpdate decision current) (protocolModelUpdate decision current.protocol) decision.protocol
  · intro probe waits
    exact answerProbes_waits decision waits
  · exact @DeviceIdentityState.refreshResolution_settled registry (answerProbes identity decision)
      (bannerModelUpdate decision current) (protocolModelUpdate decision current.protocol) decision.protocol number

/-- What a notification does: the parsers read it, what they complete joins what was seen, and no query waits
once another family than Begode is confirmed. -/
structure Notified (vesc : VescCrate) (bytes : List Byte) (before after : DeviceDetection) : Prop where
  veteran : after.veteranReassembler = Runs.final VeteranFrameReassembler.feedByteResult before.veteranReassembler bytes
  begode : after.begodeReassembler = Runs.final BegodeFrameReassembler.feedByteResult before.begodeReassembler bytes
  decoder : after.vescDecoder = (before.vescDecoder.feedResult vesc bytes).1
  queries : after.nextBegodeQuery = before.nextBegodeQuery
  sums : ∀ seen, before.identity.protocol.finding.Sums seen → after.identity.protocol.finding.Sums (((seen ∪
    {family | family = .veteranLeaperkimNosfet ∧ ∃ here ∈ Runs.history VeteranFrameReassembler.feedByteResult
      before.veteranReassembler bytes, completesVeteran here.output = true}) ∪
    {family | family = .begodeGotway ∧ ∃ here ∈ Runs.history BegodeFrameReassembler.feedByteResult
      before.begodeReassembler bytes, completesBegode here.output = true}) ∪
    {family | family = .vesc ∧ feedReplies (before.vescDecoder.feedResult vesc bytes).2 ≠ []})
  settled : after.identity.Settled
  retired : after.identity.protocol ∈ [.veteranLeaperkimNosfet, .vesc, .conflict] →
    ∀ probe, after.identity.pendingProbeStartedAt probe = none

private theorem retirePendingProbes_same {retires : Prop} [Decidable retires] : DeviceIdentityState.SameEvidence identity
    (if retires then identity.retirePendingProbes else identity) := by
  split <;> exact ⟨rfl, rfl, rfl⟩

theorem observeNotification_notified (bytes : List Byte) (settled : detection.identity.Settled) :
    Notified vesc bytes detection
      (detection.observeNotification vesc registry bytes (detection.identity.resolution registry)) := by
  have fed := @observeBytes_fed registry bytes (detection, {})
  unfold observeNotification
  dsimp only
  generalize bytes.foldl (observeByte registry) (detection, {}) = read at fed
  obtain ⟨after, observed⟩ := read
  dsimp only
  have decoder := fed.decoder
  have kept := fed.identity
  dsimp only at decoder kept
  rw [decoder, kept, DeviceIdentityState.resolution_protocol]
  generalize replies : decide (feedReplies (detection.vescDecoder.feedResult vesc bytes).2 ≠ []) = vescReply
  generalize named : observed.protocol vescReply detection.identity.protocol = protocol
  have same := @retirePendingProbes_same detection.identity (protocol ∈ [.veteranLeaperkimNosfet, .vesc, .conflict]) _
  suffices decides : ∀ final, Decided (if protocol ∈ [.veteranLeaperkimNosfet, .vesc, .conflict] then
      detection.identity.retirePendingProbes else detection.identity) final protocol →
      Notified vesc bytes detection { after with
        vescDecoder := (detection.vescDecoder.feedResult vesc bytes).1
        identity := final } from
    decides _ (applyNotificationDecision_decided (same.settled settled) same.protocol.symm rfl fun conflict => if_pos conflict)
  intro final decided
  constructor
  · exact fed.veteran
  · exact fed.begode
  · rfl
  · exact fed.queries
  · intro seen sums
    have merged := @ObservedFrames.protocol_sums observed vescReply _ seen sums
    have veteran := fed.veteranFrame.trans (or_iff_right Bool.false_ne_true)
    have begode := fed.begodeFrame.trans (or_iff_right Bool.false_ne_true)
    dsimp only at veteran begode
    rw [named] at merged
    simp only [veteran, begode, ← replies, decide_eq_true_eq] at merged
    dsimp only
    rw [decided.protocol]
    exact merged
  · exact decided.settled
  · intro ruled probe
    dsimp only at ruled
    rw [decided.protocol] at ruled
    apply decided.waits
    rw [if_pos ruled]
    rfl

end Notification

def notified : DetectionCall → Option (List Byte)
  | .observe (.notification bytes) => some bytes
  | _ => none

theorem completed_snoc (notifications : List (List Byte)) (bytes : List Byte) :
    completed vesc (notifications ++ [bytes]) = ((completed vesc notifications ∪
      {family | family = .veteranLeaperkimNosfet ∧ ∃ here ∈ Runs.history VeteranFrameReassembler.feedByteResult
        (Runs.final VeteranFrameReassembler.feedByteResult {} notifications.flatten) bytes,
        completesVeteran here.output = true}) ∪
      {family | family = .begodeGotway ∧ ∃ here ∈ Runs.history BegodeFrameReassembler.feedByteResult
        (Runs.final BegodeFrameReassembler.feedByteResult {} notifications.flatten) bytes,
        completesBegode here.output = true}) ∪
      {family | family = .vesc ∧ feedReplies ((Runs.final (VescReadOnlyStreamDecoder.feedResult vesc) .new
        notifications).feedResult vesc bytes).2 ≠ []} := by
  ext family
  cases family with
  | veteranLeaperkimNosfet | begodeGotway =>
    simp only [completed, Completes, Set.mem_union, Set.mem_ofPred_eq, List.flatten_append, List.flatten_singleton,
      Runs.history_append, List.mem_append, or_and_right, exists_or, true_and, reduceCtorEq, false_and, or_false]
  | vesc =>
    simp only [completed, Completes, Set.mem_union, Set.mem_ofPred_eq, Runs.history_snoc, List.mem_append,
      List.mem_singleton, or_and_right, exists_or, exists_eq_left, Runs.take, true_and, reduceCtorEq, false_and, or_false]

private theorem completed_append (first later : List (List Byte)) : completed vesc first ⊆ completed vesc (first ++ later) := by
  induction later using List.reverseRecOn with
  | nil =>
    rw [List.append_nil]
  | append_singleton later bytes ih =>
    rw [← List.append_assoc, completed_snoc]
    exact ih.trans (Set.subset_union_left.trans (Set.subset_union_left.trans Set.subset_union_left))

/-- The session has read the notifications: its parsers are where they would be alone, its family is the
finding on what they completed, and a conflict has settled the rest. -/
structure Follows (vesc : VescCrate) (notifications : List (List Byte)) (detection : DeviceDetection) : Prop where
  veteran : detection.veteranReassembler = Runs.final VeteranFrameReassembler.feedByteResult {} notifications.flatten
  begode : detection.begodeReassembler = Runs.final BegodeFrameReassembler.feedByteResult {} notifications.flatten
  decoder : detection.vescDecoder = Runs.final (VescReadOnlyStreamDecoder.feedResult vesc) .new notifications
  sums : detection.identity.protocol.finding.Sums (completed vesc notifications)
  settled : detection.identity.Settled

private theorem fresh_follows (discovery : DiscoveryState) :
    Follows vesc [] ({ identity := { discovery := discovery } } : DeviceDetection) := by
  refine ⟨rfl, rfl, rfl, ?_, fun never => by cases never⟩
  intro family member
  cases family with
  | veteranLeaperkimNosfet | begodeGotway | vesc =>
    obtain ⟨here, never, -⟩ := member
    cases never

namespace Follows

theorem notification {after : DeviceDetection} {bytes : List Byte} (follows : Follows vesc notifications detection)
    (done : Notified vesc bytes detection after) : Follows vesc (notifications ++ [bytes]) after where
  veteran := by
    rw [done.veteran, follows.veteran, List.flatten_append, List.flatten_singleton, Runs.final_append]
  begode := by
    rw [done.begode, follows.begode, List.flatten_append, List.flatten_singleton, Runs.final_append]
  decoder := by
    rw [done.decoder, follows.decoder, Runs.final_append]
    rfl
  sums := by
    have merged := done.sums _ follows.sums
    rw [follows.veteran, follows.begode, follows.decoder, ← completed_snoc] at merged
    exact merged
  settled := done.settled

/-- A call that reads no notification leaves parsers and family as they are. -/
theorem other {nextBegodeQuery : Nat} (follows : Follows vesc notifications detection)
    (same : after.protocol = detection.identity.protocol) (settled : after.Settled) :
    Follows vesc notifications { detection with identity := after, nextBegodeQuery := nextBegodeQuery } := by
  refine ⟨follows.veteran, follows.begode, follows.decoder, ?_, settled⟩
  dsimp only
  rw [same]
  exact follows.sums

theorem hint {hinted : DeviceIdentityState} (follows : Follows vesc notifications detection)
    (same : DeviceIdentityState.SameEvidence detection.identity hinted) :
    Follows vesc notifications { detection with
      identity := hinted.refreshResolution registry none none (detection.identity.resolution registry).protocol } := by
  refine @Follows.other _ _ _ _ detection.nextBegodeQuery follows (DeviceIdentityState.refreshResolution_protocol _) ?_
  apply DeviceIdentityState.refreshResolution_settled
  intro conflict
  exact same.protocolModel.trans (follows.settled conflict).2

end Follows

theorem observeProbeWriteAt_follows {startedAt : Nat} (follows : Follows vesc notifications detection) :
    Follows vesc notifications (detection.observeProbeWriteAt probe startedAt) := follows.other rfl follows.settled

private theorem notified_some {call : DetectionCall} {bytes : List Byte} (read : notified call = some bytes) :
    call = .observe (.notification bytes) := by
  cases call with
  | observe event =>
    cases event with
    | notification other =>
      cases read
      rfl
    | _ => cases read
  | _ => cases read

/-- A call without a notification changes neither parsers nor family. -/
theorem step_quiet (call : DetectionCall) (quiet : notified call = none) (follows : Follows vesc notifications detection) :
    Follows vesc notifications (detection.step vesc registry call).1 := by
  cases call with
  | observe event =>
    cases event with
    | notification bytes => cases quiet
    | advertisement | gatt => exact follows.hint ⟨rfl, rfl, rfl⟩
    | probeWrite probe => exact observeProbeWriteAt_follows follows
    | probeTimeout probe =>
      have same := @DeviceIdentityState.observeProbeTimeout_same detection.identity probe
      exact follows.other same.protocol (same.settled follows.settled)
  | beginIdentificationProbes time =>
    show Follows vesc notifications (detection.beginIdentificationProbes registry time).1
    unfold beginIdentificationProbes
    split
    · exact follows
    · split
      · exact follows
      · split
        · exact follows
        · split
          · exact follows
          · exact observeProbeWriteAt_follows follows
  | observeProbeWriteAt probe startedAt => exact observeProbeWriteAt_follows follows
  | expirePendingProbes now timeout =>
    have same := @DeviceIdentityState.expireProbes_same detection.identity (fun startedAt => decide (timeout < now - startedAt))
      PendingProbe.all
    exact follows.other same.protocol (same.settled follows.settled)
  | markPendingProbesMissing =>
    have same := @DeviceIdentityState.expireProbes_same detection.identity (fun _ => true) PendingProbe.all
    exact follows.other same.protocol (same.settled follows.settled)

theorem step_follows (call : DetectionCall) (follows : Follows vesc notifications detection) :
    Follows vesc (notifications ++ (notified call).toList) (detection.step vesc registry call).1 := by
  cases read : notified call with
  | none =>
    rw [Option.toList_none, List.append_nil]
    exact step_quiet call read follows
  | some bytes =>
    cases notified_some read
    exact follows.notification (observeNotification_notified bytes follows.settled)

section Queries

def issued : DetectionReply → Option EncodedIdentificationProbe
  | .plan (.writes probe) => some probe
  | _ => none

/-- A query is given out while the family is Begode and nothing waits; it is the next of the sequence. -/
structure Issues (registry : List ModelRegistryEntry) (before after : DeviceDetection)
    (probe : EncodedIdentificationProbe) : Prop where
  family : (before.identity.resolution registry).protocol = .begodeGotway
  silent : ∀ other, before.identity.pendingProbeStartedAt other = none
  next : begodeIdentificationProbes[before.nextBegodeQuery]? = some probe
  counts : before.nextBegodeQuery < after.nextBegodeQuery

theorem observeProbeWriteAt_counts (probe : PendingProbe) (startedAt : Nat) :
    detection.nextBegodeQuery ≤ (detection.observeProbeWriteAt probe startedAt).nextBegodeQuery := by
  unfold observeProbeWriteAt
  dsimp only
  split
  · exact Nat.le_max_left _ _
  · exact Nat.le_refl _

private theorem observeProbeWriteAt_passes {probe : EncodedIdentificationProbe} {startedAt : Nat}
    (next : begodeIdentificationProbes[detection.nextBegodeQuery]? = some probe) :
    detection.nextBegodeQuery < (detection.observeProbeWriteAt probe.probe startedAt).nextBegodeQuery := by
  have place : begodeIdentificationProbes.findIdx? (fun candidate => decide (candidate.probe = probe.probe)) =
      some detection.nextBegodeQuery := by
    generalize detection.nextBegodeQuery = query at next
    rcases query with _ | _ | _ | query
    · cases next
      rfl
    · cases next
      rfl
    · cases next
      rfl
    · cases next
  unfold observeProbeWriteAt
  rw [place]
  exact Nat.le_max_right _ _

theorem step_queries (call : DetectionCall) (settled : detection.identity.Settled) :
    (issued (detection.step vesc registry call).2 = none ∧
      detection.nextBegodeQuery ≤ (detection.step vesc registry call).1.nextBegodeQuery) ∨
    ∃ probe, issued (detection.step vesc registry call).2 = some probe ∧
      Issues registry detection (detection.step vesc registry call).1 probe := by
  cases call with
  | observe event =>
    refine .inl ⟨rfl, ?_⟩
    cases event with
    | notification bytes => exact Nat.le_of_eq (observeNotification_notified bytes settled).queries.symm
    | probeWrite probe => exact observeProbeWriteAt_counts probe 0
    | _ => exact Nat.le_refl _
  | beginIdentificationProbes time =>
    show (issued (.plan (detection.beginIdentificationProbes registry time).2) = none ∧
        detection.nextBegodeQuery ≤ (detection.beginIdentificationProbes registry time).1.nextBegodeQuery) ∨
      ∃ probe, issued (.plan (detection.beginIdentificationProbes registry time).2) = some probe ∧
        Issues registry detection (detection.beginIdentificationProbes registry time).1 probe
    unfold beginIdentificationProbes
    split
    · exact .inl ⟨rfl, Nat.le_refl _⟩
    · next family =>
      split
      · exact .inl ⟨rfl, Nat.le_refl _⟩
      · split
        · exact .inl ⟨rfl, Nat.le_refl _⟩
        · next silent =>
          split
          · exact .inl ⟨rfl, Nat.le_refl _⟩
          · next probe next =>
            refine .inr ⟨probe, rfl, not_not.mp family, ?_, next, observeProbeWriteAt_passes next⟩
            exact DeviceIdentityState.nextProbeExpiry_none (Bool.eq_false_of_not_eq_true silent)
  | observeProbeWriteAt probe startedAt => exact .inl ⟨rfl, observeProbeWriteAt_counts probe startedAt⟩
  | expirePendingProbes | markPendingProbesMissing => exact .inl ⟨rfl, Nat.le_refl _⟩

end Queries

section Runs
variable (vesc : VescCrate) (registry : List ModelRegistryEntry) (discovery : DiscoveryState)

def fresh : DeviceDetection := { identity := { discovery := discovery } }

/-- After every run the session has read its notifications, and given out some queries of the sequence in order. -/
theorem run_follows (calls : List DetectionCall) :
    Follows vesc (calls.filterMap notified) (Runs.final (step vesc registry) (fresh discovery) calls) ∧
      ((Runs.history (step vesc registry) (fresh discovery) calls).filterMap fun here => issued here.output).Sublist
        (begodeIdentificationProbes.take (Runs.final (step vesc registry) (fresh discovery) calls).nextBegodeQuery) := by
  have inputs := Runs.history_inputs (step vesc registry) (fresh discovery) calls
  suffices run : Follows vesc
      (((Runs.history (step vesc registry) (fresh discovery) calls).map Step.input).filterMap notified)
      (Runs.final (step vesc registry) (fresh discovery) calls) ∧ _ by
    rw [inputs] at run
    exact run
  refine Runs.induction_on (P := fun past after => Follows vesc ((past.map Step.input).filterMap notified) after ∧
    (past.filterMap fun here => issued here.output).Sublist
      (begodeIdentificationProbes.take after.nextBegodeQuery)) ⟨fresh_follows discovery, List.nil_sublist _⟩ ?_ calls
  intro past before call ⟨follows, sublist⟩
  constructor
  · have after := @step_follows vesc registry before _ call follows
    rw [List.map_append, List.filterMap_append]
    exact after
  · rw [List.filterMap_append]
    rcases @step_queries vesc registry before call follows.settled with ⟨quiet, counts⟩ | ⟨probe, gives, issues⟩
    · have silent : [Runs.take (step vesc registry) before call].filterMap (fun here => issued here.output) = [] :=
        List.filterMap_cons_none quiet
      rw [silent, List.append_nil]
      exact sublist.trans (List.take_sublist_take_left counts)
    · have said : [Runs.take (step vesc registry) before call].filterMap (fun here => issued here.output) = [probe] :=
        List.filterMap_cons_some gives
      rw [said]
      have grown : (begodeIdentificationProbes.take before.nextBegodeQuery ++ [probe]) =
          begodeIdentificationProbes.take (before.nextBegodeQuery + 1) := by
        rw [List.take_add_one, issues.next]
        rfl
      refine ((sublist.append_right [probe]).trans (List.Sublist.refl _)).trans ?_
      rw [grown]
      exact List.take_sublist_take_left issues.counts

/-- Along every run the resolved family is the finding on what the notifications completed; a conflict stays, and
resolves to no model and no model number; each query is given out at most once, in order, while the family is Begode and
nothing waits; and after a notification that rules Begode out nothing waits. -/
theorem detection_is_cumulative (calls : List DetectionCall) :
    ((Runs.final (step vesc registry) (fresh discovery) calls).identity.resolution registry).protocol.finding.Sums
        (completed vesc (calls.filterMap notified)) ∧
      (∀ more, ((Runs.final (step vesc registry) (fresh discovery) calls).identity.resolution registry).protocol =
          .conflict →
        ((Runs.final (step vesc registry) (fresh discovery) (calls ++ more)).identity.resolution registry).protocol =
            .conflict ∧
          ((Runs.final (step vesc registry) (fresh discovery) (calls ++ more)).identity.resolution registry).staged.model =
            none ∧
          ((Runs.final (step vesc registry) (fresh discovery) (calls ++ more)).identity.resolution
            registry).staged.protocolModel = .missing) ∧
      ((Runs.history (step vesc registry) (fresh discovery) calls).filterMap fun here => issued here.output).Sublist
        begodeIdentificationProbes ∧
      ∀ here ∈ Runs.history (step vesc registry) (fresh discovery) calls,
        (∀ probe, issued here.output = some probe →
          (here.before.identity.resolution registry).protocol = .begodeGotway ∧
            ∀ other, here.before.identity.pendingProbeStartedAt other = none) ∧
        ∀ bytes, here.input = .observe (.notification bytes) →
          (here.after.identity.resolution registry).protocol ∈ [.veteranLeaperkimNosfet, .vesc, .conflict] →
            ∀ probe, here.after.identity.pendingProbeStartedAt probe = none := by
  refine ⟨(run_follows vesc registry discovery calls).1.sums, ?_, ?_, ?_⟩
  · intro more conflict
    have before := (run_follows vesc registry discovery calls).1.sums
    have after := (run_follows vesc registry discovery (calls ++ more)).1.sums
    rw [DeviceIdentityState.resolution_protocol] at conflict
    rw [conflict] at before
    have grown : completed vesc (calls.filterMap notified) ⊆ completed vesc ((calls ++ more).filterMap notified) := by
      rw [List.filterMap_append]
      exact completed_append _ _
    have still : (Runs.final (step vesc registry) (fresh discovery) (calls ++ more)).identity.protocol = .conflict := by
      apply ProtocolFamilyState.finding_conflict
      exact after.unique (Finding.Sums.conflict_mono before grown)
    exact ⟨still, DeviceIdentityState.conflict_resolves still⟩
  · exact (run_follows vesc registry discovery calls).2.trans (List.take_sublist _ _)
  · intro here member
    obtain ⟨past, later, split⟩ := List.append_of_mem member
    obtain ⟨first, last, -, -, taken, -⟩ := Runs.history_split split
    have follows := (run_follows vesc registry discovery first).1
    rw [taken]
    constructor
    · intro probe gives
      rcases @step_queries vesc registry _ here.input follows.settled with ⟨quiet, -⟩ | ⟨other, -, issues⟩
      · cases quiet.symm.trans gives
      · exact ⟨issues.family, issues.silent⟩
    · intro bytes read ruled probe
      dsimp only [Runs.take] at read ruled ⊢
      rw [read] at ruled ⊢
      exact (observeNotification_notified bytes follows.settled).retired ruled probe

end Runs

/-- A Begode frame in two notifications, a query, and a short Veteran frame. -/
def mixedRun : List DetectionCall :=
  [.observe (.notification (0x55 :: 0xaa :: List.replicate 8 0)), .beginIdentificationProbes 1,
    .observe (.notification (List.replicate 10 0 ++ [0x5a, 0x5a, 0x5a, 0x5a])), .beginIdentificationProbes 2,
    .beginIdentificationProbes 3, .observe (.notification [0xdc, 0x5a, 0x5c, 0])]

def silentCrate : VescCrate := ⟨fun _ => none, fun _ => none⟩

set_option maxRecDepth 20000 in
theorem detection_is_cumulative_mixed :
    (Runs.final (step silentCrate []) (fresh {}) mixedRun).identity.protocol = .conflict ∧
      ((Runs.history (step silentCrate []) (fresh {}) mixedRun).filterMap fun here => issued here.output) =
        [⟨.begodeName, [0x4e]⟩] ∧
      Finding.conflict.Sums (completed silentCrate (mixedRun.filterMap notified)) := by
  have conflict : (Runs.final (step silentCrate []) (fresh {}) mixedRun).identity.protocol = .conflict := by
    decide
  refine ⟨conflict, by decide, ?_⟩
  obtain ⟨sums, -⟩ := detection_is_cumulative silentCrate [] {} mixedRun
  generalize completed silentCrate (mixedRun.filterMap notified) = seen at sums ⊢
  rw [DeviceIdentityState.resolution_protocol, conflict] at sums
  exact sums

end DeviceDetection

end Cutout.Connections
