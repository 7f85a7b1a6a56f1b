import Cutout.DeviceSettingsState
import Cutout.Library.Runs

/-! What stands behind a confirmed setting. Every pending request goes back to the
submission that returned its id, and every confirmed one further to a readback of the
requested value behind it; a run keeps this for each record it holds. -/

namespace Cutout.Core
open Library
open Protocols (SettingId DeviceSettingValue u64Max)
variable {observedAt : Nat}
variable {record : SettingRecord}

def SettingsCall.Reads (call : SettingsCall) (id : SettingId) (value : DeviceSettingValue) (observedAt : Nat) : Prop :=
  call = .observe id value .liveReadback observedAt ∨
    ∃ measured : Measured DeviceSettingValue, call = .observeMeasured id measured observedAt ∧ measured.value = value ∧
      measured.confirms = true

abbrev SettingsStep := Step SettingsProcess SettingsCall SettingsReply

def Handed (steps : List SettingsStep) (id : SettingId) (requestId at_ : Nat) : Prop :=
  ∃ here ∈ steps, here.input = .transport id requestId .submitted at_ ∧ here.output = .transport .taken

/-- Behind a submission, the requested value was read back; under managed transport only once it was handed over. -/
structure ReadBack (managed : Bool) (late : List SettingsStep) (id : SettingId) (requestId : Nat)
    (requested : DeviceSettingValue) (submittedAt : Nat) : Prop where
  reading : ∃ early here rest observedAt, late = early ++ here :: rest ∧ here.input.Reads id requested observedAt ∧
    submittedAt ≤ observedAt ∧ (managed = true → ∃ handedAt ≤ observedAt, Handed early id requestId handedAt)

structure Requested (past : List SettingsStep) (id : SettingId) (record : SettingRecord) (requested : DeviceSettingValue)
    (here : SettingsStep) (late : List SettingsStep) (requestId submittedAt : Nat) : Prop where
  split : ∃ early, past = early ++ here :: late
  call : ∃ outcome, here.input = .submission id requested outcome record.completion submittedAt
  reply : here.output = .requested requestId
  owner : record.requestId = some requestId

def Backed (past : List SettingsStep) (id : SettingId) (record : SettingRecord) : Prop :=
  match record.state with
  | .pending _ requested handedAt =>
    ∃ here late requestId submittedAt latest, Requested past id record requested here late requestId submittedAt ∧
      record.transportAt = some latest ∧ submittedAt ≤ latest ∧
      ∀ at_, handedAt = some at_ → submittedAt ≤ at_ ∧
        (here.before.settings.managedTransport = true → Handed late id requestId at_)
  | .confirmed value _ =>
    ∃ here late requestId submittedAt, Requested past id record value.value here late requestId submittedAt ∧
      record.completion.supportsReadback = true ∧
      ReadBack here.before.settings.managedTransport late id requestId value.value submittedAt
  | _ => True

section Records
variable {past : List SettingsStep} {id : SettingId} {record : SettingRecord} {requested : DeviceSettingValue}
variable {record' : SettingRecord}

  {here next : SettingsStep} {late : List SettingsStep} {requestId submittedAt : Nat}

theorem Handed.mono {steps more : List SettingsStep} (handed : Handed steps id requestId submittedAt)
    (kept : ∀ step ∈ steps, step ∈ more) : Handed more id requestId submittedAt := by
  obtain ⟨step, member, call, taken⟩ := handed
  exact ⟨step, kept step member, call, taken⟩

theorem Requested.extend (known : Requested past id record requested here late requestId submittedAt)
    (completion : record'.completion = record.completion) (owner : record'.requestId = record.requestId) :
    Requested (past ++ [next]) id record' requested here (late ++ [next]) requestId submittedAt := by
  obtain ⟨early, split⟩ := known.split
  refine ⟨⟨early, ?_⟩, ?_, known.reply, owner.trans known.owner⟩
  · rw [split, List.append_assoc, List.cons_append]
  · rw [completion]
    exact known.call

theorem ReadBack.extend {managed : Bool} (known : ReadBack managed late id requestId requested submittedAt) :
    ReadBack managed (late ++ [next]) id requestId requested submittedAt := by
  obtain ⟨early, here, rest, observedAt, split, evidence⟩ := known.reading
  refine ⟨early, here, rest ++ [next], observedAt, ?_, evidence⟩
  rw [split, List.append_assoc, List.cons_append]

def SettingState.Resting (state : SettingState DeviceSettingValue) : Prop :=
  (∀ held requested at_, state ≠ .pending held requested at_) ∧ ∀ value at_, state ≠ .confirmed value at_

theorem Backed.of_resting (resting : record.state.Resting) : Backed past id record := by
  unfold Backed
  split
  · next same => exact absurd same (resting.1 _ _ _)
  · next same => exact absurd same (resting.2 _ _)
  · trivial

/-- A pending record stays backed as long as its request and its times stay. -/
theorem Backed.pending {held held' : Option (SettingValue DeviceSettingValue)} {handedAt : Option Nat}
    (backed : Backed past id record) (state : record.state = .pending held requested handedAt)
    (state' : record'.state = .pending held' requested handedAt) (completion : record'.completion = record.completion)
    (owner : record'.requestId = record.requestId)
    (latest : ∀ at_, record.transportAt = some at_ → ∃ at', record'.transportAt = some at' ∧ at_ ≤ at') :
    Backed (past ++ [next]) id record' := by
  unfold Backed at backed ⊢
  rw [state] at backed
  rw [state']
  obtain ⟨here, late, requestId, submittedAt, last, known, transportAt, before, handed⟩ := backed
  obtain ⟨last', transportAt', behind⟩ := latest last transportAt
  refine ⟨here, late ++ [next], requestId, submittedAt, last', known.extend completion owner, transportAt',
    before.trans behind, ?_⟩
  intro at_ same
  obtain ⟨behind, handed⟩ := handed at_ same
  exact ⟨behind, fun managed => (handed managed).mono fun step member => List.mem_append_left _ member⟩

/-- A record whose state, request and times stay is backed by more steps. -/
theorem Backed.extend (backed : Backed past id record) (state : record'.state = record.state)
    (completion : record'.completion = record.completion) (owner : record'.requestId = record.requestId)
    (latest : record'.transportAt = record.transportAt) : Backed (past ++ [next]) id record' := by
  cases was : record.state with
  | pending held requested handedAt =>
    exact backed.pending was (state.trans was) completion owner fun at_ same => ⟨at_, latest.trans same, le_refl at_⟩
  | confirmed value at_ =>
    unfold Backed at backed ⊢
    rw [was] at backed
    rw [state, was]
    obtain ⟨here, late, requestId, submittedAt, known, supports, reading⟩ := backed
    refine ⟨here, late ++ [next], requestId, submittedAt, known.extend completion owner, ?_, reading.extend⟩
    rw [completion]
    exact supports
  | unknown | current | refused | timedOut | failed => exact .of_resting (by rw [state, was]; exact ⟨nofun, nofun⟩)

inductive SettingState.Observes (value : DeviceSettingValue) (source : SettingValueSource) (observedAt : Nat) :
    SettingState DeviceSettingValue → SettingState DeviceSettingValue → Prop where
  | confirms (held at_) (before : at_ ≤ observedAt) :
      Observes value source observedAt (.pending held value (some at_)) (.confirmed ⟨value, source⟩ observedAt)
  | refreshes (held held' requested handedAt) :
      Observes value source observedAt (.pending held requested handedAt) (.pending held' requested handedAt)
  | keeps (state) : Observes value source observedAt state state
  | rests {state state'} (resting : state'.Resting) : Observes value source observedAt state state'

theorem SettingState.observe_observes (state : SettingState DeviceSettingValue) (value : DeviceSettingValue)
    (source : SettingValueSource) (observedAt : Nat) :
    Observes value source observedAt state (state.observe value source observedAt) := by
  unfold observe
  split
  · next answered confirmed =>
    unfold confirmFrom at confirmed
    split at confirmed
    · split at confirmed
      · cases confirmed
      · next fits =>
        cases confirmed
        obtain ⟨rfl, before⟩ : _ = value ∧ ¬observedAt < _ := by simpa using fits
        exact .confirms _ _ (Nat.le_of_not_lt before)
    · cases confirmed
  · split
    · exact .keeps state
    · split
      · exact .rests ⟨nofun, nofun⟩
      · split
        · exact .refreshes _ _ _ _
        · exact .keeps _
      · exact .rests ⟨nofun, nofun⟩

theorem Backed.observeReadback {value : SettingValue DeviceSettingValue} {evidence : Option (Measured Unit)}
    (backed : Backed past id record)
    (reads : SettingRecord.usableConfirmation value evidence = true → next.input.Reads id value.value observedAt) :
    Backed (past ++ [next]) id (record.observeReadback value evidence observedAt) := by
  unfold SettingRecord.observeReadback
  split
  · exact backed.extend rfl rfl rfl rfl
  · dsimp only
    split
    · next held requested handedAt was =>
      split
      · exact backed.pending was rfl rfl rfl fun at_ same => ⟨at_, same, le_refl at_⟩
      · next usable =>
        obtain ⟨supports, usable⟩ : record.completion.supportsReadback = true ∧
          SettingRecord.usableConfirmation value evidence = true := by simpa using usable
        generalize observed : SettingState.observe _ value.value value.source observedAt = state
        have moves := SettingState.observe_observes (.pending held requested handedAt) value.value value.source observedAt
        rw [observed] at moves
        cases moves with
        | confirms held at_ before =>
          -- The step itself is the readback, so what was handed over lies before it.
          unfold Backed at backed ⊢
          rw [was] at backed
          obtain ⟨here, late, requestId, submittedAt, latest, known, -, -, handed⟩ := backed
          obtain ⟨behind, handed⟩ := handed at_ rfl
          refine ⟨here, late ++ [next], requestId, submittedAt, known.extend rfl rfl, supports, ?_⟩
          exact ⟨late, next, [], observedAt, rfl, reads usable, behind.trans before,
            fun managed => ⟨at_, before, handed managed⟩⟩
        | refreshes held held' =>
          exact backed.pending was rfl rfl rfl fun at_ same => ⟨at_, same, le_refl at_⟩
        | keeps => exact backed.pending was rfl rfl rfl fun at_ same => ⟨at_, same, le_refl at_⟩
        | rests resting => exact .of_resting resting
    · next other =>
      generalize observed : SettingState.observe record.state value.value value.source observedAt = state
      have moves := SettingState.observe_observes record.state value.value value.source observedAt
      rw [observed] at moves
      generalize was : record.state = earlier at moves other
      cases moves with
      | confirms | refreshes => exact absurd rfl (other _ _ _)
      | keeps => exact backed.extend was.symm rfl rfl rfl
      | rests resting => exact .of_resting resting

theorem Backed.invalidateReadback (backed : Backed past id record) :
    Backed (past ++ [next]) id (record.invalidateReadback observedAt) := by
  unfold SettingRecord.invalidateReadback
  split
  · exact backed.extend rfl rfl rfl rfl
  · dsimp only
    split
    · next was => exact backed.pending was rfl rfl rfl fun at_ same => ⟨at_, same, le_refl at_⟩
    all_goals exact .of_resting ⟨nofun, nofun⟩

theorem Backed.submission {outcome : SettingSubmissionOutcome} {completion : SettingCompletionStrategy}
    (call : next.input = .submission id requested outcome completion submittedAt) (reply : next.output = .requested requestId) :
    Backed (past ++ [next]) id (record.submission next.before.settings.managedTransport requestId requested outcome
      completion submittedAt) := by
  have known : ∀ record' : SettingRecord, record'.completion = completion → record'.requestId = some requestId →
      Requested (past ++ [next]) id record' requested next [] requestId submittedAt := by
    intro record' same owner
    refine ⟨⟨past, rfl⟩, ⟨outcome, ?_⟩, reply, owner⟩
    rw [same, call]
  unfold SettingRecord.submission
  cases outcome with
  | accepted =>
    cases managed : next.before.settings.managedTransport with
    | true =>
      refine ⟨next, [], requestId, submittedAt, submittedAt, known _ rfl rfl, rfl, le_refl _, ?_⟩
      intro at_ same
      cases same
    | false =>
      refine ⟨next, [], requestId, submittedAt, submittedAt, known _ rfl rfl, rfl, le_refl _, ?_⟩
      intro at_ same
      cases same
      refine ⟨le_refl _, ?_⟩
      intro yes
      rw [managed] at yes
      cases yes
  | refused | failed => exact .of_resting ⟨nofun, nofun⟩

theorem SettingState.isPending_eq {state : SettingState DeviceSettingValue} (pending : state.isPending = true) :
    ∃ held requested handedAt, state = .pending held requested handedAt := by
  cases state with
  | pending held requested handedAt => exact ⟨held, requested, handedAt, rfl⟩
  | _ => cases pending

/-- A receipt that is taken keeps the record backed, and is what a request handed over is backed by. -/
theorem Backed.transported {moved : SettingRecord} {status : SettingTransportStatus} {at_ : Nat}
    (backed : Backed past id record) (takes : record.takesTransport requestId status at_ = true)
    (change : record.transported status at_ = some moved) (call : next.input = .transport id requestId status at_)
    (reply : next.output = .transport .taken) : Backed (past ++ [next]) id moved := by
  simp only [SettingRecord.takesTransport, Bool.and_eq_true, decide_eq_true_eq] at takes
  obtain ⟨⟨⟨owner, ordered⟩, pending⟩, -⟩ := takes
  obtain ⟨held, requested, handedAt, was⟩ := SettingState.isPending_eq pending
  have latest : ∀ last, record.transportAt = some last → last ≤ at_ := by
    intro last same
    rw [same] at ordered
    simpa using ordered
  cases status with
  | accepted => cases change
  | queued =>
    cases change
    exact backed.pending was was rfl rfl fun last same => ⟨at_, rfl, latest last same⟩
  | rejected | cancelled =>
    cases change
    exact .of_resting ⟨nofun, nofun⟩
  | submitted =>
    cases change
    unfold Backed at backed
    rw [was] at backed
    obtain ⟨here, late, r, submittedAt, last, known, transportAt, before, -⟩ := backed
    obtain rfl : r = requestId := Option.some.inj (known.owner.symm.trans owner)
    have behind := before.trans (latest last transportAt)
    simp only [Backed, was, SettingState.transportSubmitted]
    refine ⟨here, late ++ [next], r, submittedAt, at_, known.extend rfl rfl, rfl, behind, ?_⟩
    intro time same
    cases same
    exact ⟨behind, fun _ => ⟨next, List.mem_append_right _ (List.mem_singleton.mpr rfl), call, reply⟩⟩

theorem Backed.tick {now : Nat} (backed : Backed past id record) : Backed (past ++ [next]) id (record.tick now) := by
  unfold SettingRecord.tick
  split
  · unfold SettingState.timeoutIfElapsed
    split
    · next was =>
      split
      · exact backed.extend was.symm rfl rfl rfl
      · exact .of_resting ⟨nofun, nofun⟩
    · exact backed.extend rfl rfl rfl rfl
  · exact backed.extend rfl rfl rfl rfl

end Records

def SettingsProcess.AllBacked (past : List SettingsStep) (process : SettingsProcess) : Prop :=
  ∀ item ∈ process.settings.records.items, Backed past item.1 item.2

def SettingRecord.Terminal (record : SettingRecord) : Prop :=
  record.state.isPending = false ∨ (record.transport ≠ some .accepted ∧ record.transport ≠ some .queued)

theorem SettingRecord.Terminal.refuses (terminal : record.Terminal) (requestId : Nat)
    (status : SettingTransportStatus) (at_ : Nat) : record.takesTransport requestId status at_ = false := by
  unfold takesTransport
  rcases terminal with settled | ⟨accepted, queued⟩
  · rw [settled, Bool.and_false, Bool.false_and]
  · have stuck : transportMoves record.transport status = false := by
      unfold transportMoves
      split <;> simp_all
    rw [stuck, Bool.and_false]

theorem SettingRecord.outdated_of_lt {latest : Nat} (known : record.observedAt = some latest)
    (earlier : observedAt < latest) : record.outdated observedAt = true := by
  unfold outdated
  rw [known, Option.any_some, decide_eq_true earlier, Bool.true_or]

namespace DeviceSettingsState
variable {settings : DeviceSettingsState} {past : List SettingsStep} {next : SettingsStep} {id : SettingId}
variable {record : SettingRecord}
variable {change : SettingRecord → SettingRecord}

structure IgnoresObservation (settings : DeviceSettingsState) (id : SettingId) (observedAt : Nat) : Prop where
  observe : ∀ value source, settings.observe id value source observedAt = settings
  observeMeasured : ∀ measured, settings.observeMeasured id measured observedAt = settings
  invalidateReadback : settings.invalidateReadback id observedAt = settings

theorem update_same (known : settings.records.get id = some record) (kept : change record = record) :
    settings.update id change = settings := by
  unfold update
  rw [OrderedMap.entry_same known kept]

theorem ignoresObservation {latest : Nat} (known : settings.records.get id = some record)
    (observed : record.observedAt = some latest) (earlier : observedAt < latest) :
    IgnoresObservation settings id observedAt := by
  have outdated := record.outdated_of_lt observed earlier
  refine ⟨?_, ?_, ?_⟩
  · intro value source
    apply update_same known
    exact if_pos outdated
  · intro measured
    unfold observeMeasured
    apply update_same known
    exact if_pos outdated
  · apply update_same known
    exact if_pos outdated

/-- A receipt for another request, of an earlier time or behind the end of the request changes nothing. -/
theorem transport_refused {requestId at_ : Nat} (status : SettingTransportStatus)
    (known : settings.records.get id = some record)
    (stale : record.requestId ≠ some requestId ∨ (∃ latest, record.transportAt = some latest ∧ at_ < latest) ∨
      record.Terminal) : settings.transport id requestId status at_ = (settings, .refused) := by
  have refused : record.takesTransport requestId status at_ = false := by
    rcases stale with other | ⟨latest, same, earlier⟩ | terminal
    · unfold SettingRecord.takesTransport
      rw [decide_eq_false other, Bool.false_and, Bool.false_and, Bool.false_and]
    · unfold SettingRecord.takesTransport
      rw [same, Option.all_some, decide_eq_false (Nat.not_le_of_lt earlier), Bool.and_false, Bool.false_and, Bool.false_and]
    · exact terminal.refuses requestId status at_
  unfold transport
  rw [known]
  exact if_pos refused

/-- The arm for an accepted receipt is guarded by the transport states a request may move to. -/
theorem transport_reachable (settings : DeviceSettingsState) (id : SettingId) (requestId : Nat)
    (status : SettingTransportStatus) (at_ : Nat) : (settings.transport id requestId status at_).2 ≠ .unreachable := by
  unfold transport
  split
  · nofun
  · next record found =>
    split
    · nofun
    · next takes =>
      split
      · next change =>
        have accepted : status = .accepted := by
          cases status with
          | accepted => rfl
          | _ => cases change
        rw [accepted] at takes
        have stuck : SettingRecord.transportMoves record.transport .accepted = false := by
          unfold SettingRecord.transportMoves
          split <;> simp_all
        unfold SettingRecord.takesTransport at takes
        rw [stuck, Bool.and_false] at takes
        exact absurd rfl takes
      · nofun

/-- An operation on one record keeps the others, which more steps back as well. -/
theorem update_backed (all : ∀ item ∈ settings.records.items, Backed past item.1 item.2)
    (changed : ∀ record, Backed past id record → Backed (past ++ [next]) id (change record)) :
    ∀ item ∈ (settings.update id change).records.items, Backed (past ++ [next]) item.1 item.2 := by
  intro item member
  rcases OrderedMap.mem_entryItems member with old | rfl | ⟨old, inside, rfl⟩
  · exact (all item old).extend rfl rfl rfl rfl
  · exact changed _ (.of_resting ⟨nofun, nofun⟩)
  · exact changed _ (all _ inside)

theorem observeMeasured_reads {measured : Measured DeviceSettingValue}
    (call : next.input = .observeMeasured id measured observedAt) (usable : SettingRecord.usableConfirmation
      ⟨measured.value, if measured.source = .reported then SettingValueSource.liveReadback else .unknown⟩
      (some (measured.mapValue fun _ => ())) = true) : next.input.Reads id measured.value observedAt := by
  simp only [SettingRecord.usableConfirmation, Bool.and_eq_true, Option.all_some] at usable
  exact .inr ⟨measured, call, rfl, usable.2⟩

end DeviceSettingsState

namespace SettingsProcess
variable {process : SettingsProcess} {past : List SettingsStep}
variable {calls : List SettingsCall} {start : SettingsProcess} {requestId : Nat}

theorem AllBacked.step (all : AllBacked past process) (call : SettingsCall) :
    AllBacked (past ++ [Runs.take SettingsProcess.step process call]) (process.step call).1 := by
  cases call with
  | observe id value source at_ =>
    apply DeviceSettingsState.update_backed all
    intro record backed
    apply backed.observeReadback
    intro usable
    simp only [SettingRecord.usableConfirmation, Option.all_none, Bool.and_true, decide_eq_true_eq] at usable
    exact .inl (by rw [Runs.take, usable])
  | observeMeasured id measured at_ =>
    apply DeviceSettingsState.update_backed all
    intro record backed
    apply backed.observeReadback
    exact DeviceSettingsState.observeMeasured_reads rfl
  | invalidateReadback id at_ =>
    apply DeviceSettingsState.update_backed all
    intro record backed
    exact backed.invalidateReadback
  | submission id requested outcome completion at_ =>
    apply DeviceSettingsState.update_backed all
    intro record backed
    exact .submission rfl rfl
  | transport id requestId status at_ =>
    have kept : AllBacked (past ++ [Runs.take SettingsProcess.step process (.transport id requestId status at_)]) process :=
      fun item member => (all item member).extend rfl rfl rfl rfl
    generalize same : process.settings.transport id requestId status at_ = result
    have output : (Runs.take SettingsProcess.step process (.transport id requestId status at_)).output =
      .transport (process.settings.transport id requestId status at_).2 := rfl
    have after : (process.step (.transport id requestId status at_)).1.settings =
      (process.settings.transport id requestId status at_).1 := rfl
    unfold AllBacked
    rw [same] at output after
    rw [after]
    unfold DeviceSettingsState.transport at same
    split at same
    · cases same
      exact kept
    · next record found =>
      split at same
      · cases same
        exact kept
      · next takes =>
        have takes : record.takesTransport requestId status at_ = true := by simpa using takes
        split at same
        · cases same
          exact kept
        · next moved change =>
          cases same
          apply DeviceSettingsState.update_backed all
          intro _ _
          exact (all _ (OrderedMap.get_mem found)).transported takes change rfl output
  | failOperation requestId at_ =>
    have kept : AllBacked (past ++ [Runs.take SettingsProcess.step process (.failOperation requestId at_)]) process :=
      fun item member => (all item member).extend rfl rfl rfl rfl
    generalize same : process.settings.failOperation requestId at_ = result
    have after : (process.step (.failOperation requestId at_)).1.settings =
      (process.settings.failOperation requestId at_).1 := rfl
    unfold AllBacked
    rw [same] at after
    rw [after]
    unfold DeviceSettingsState.failOperation at same
    dsimp only at same
    split at same
    · cases same
      exact kept
    · split at same
      · cases same
        exact kept
      · cases same
        intro item member
        rcases OrderedMap.mem_updateItems member with old | ⟨old, inside, -, change⟩
        · exact kept item old
        · rw [change]
          exact .of_resting ⟨nofun, nofun⟩
  | tick now =>
    intro item member
    obtain ⟨old, inside, rfl⟩ := List.mem_map.mp member
    exact (all old inside).tick
  | disconnect => exact fun item member => nomatch member
  | requireManagedTransport | submissionElsewhere => exact fun item member => (all item member).extend rfl rfl rfl rfl

theorem history_backed (calls : List SettingsCall) :
    AllBacked (Runs.history step {} calls) (Runs.final step {} calls) := by
  apply Runs.induction_on (P := AllBacked)
  · intro item member
    cases member
  · intro past process call all
    exact all.step call

def Unspent (past : List SettingsStep) : Prop :=
  ∀ here ∈ past, ∀ requestId, here.output = .requested requestId → here.before.nextRequestId < u64Max

theorem nextRequestId_le (process : SettingsProcess) (call : SettingsCall) :
    process.nextRequestId ≤ (process.step call).1.nextRequestId := by
  cases call with
  | submission =>
    simp only [step, DeviceSettingsState.submission]
    split <;> omega
  | submissionElsewhere =>
    simp only [step]
    split <;> omega
  | _ => exact le_refl _

theorem requested_eq {call : SettingsCall} (unspent : process.nextRequestId < u64Max)
    (reply : (process.step call).2 = .requested requestId) :
    requestId = process.nextRequestId ∧ (process.step call).1.nextRequestId = requestId + 1 := by
  cases call with
  | submission id requested outcome completion at_ =>
    simp only [step, DeviceSettingsState.submission, if_pos unspent, SettingsReply.requested.injEq] at reply ⊢
    exact ⟨reply.symm, by rw [reply]⟩
  | _ => cases reply

theorem nextRequestId_later {early late : List SettingsStep} {here later : SettingsStep}
    (split : Runs.history step start calls = early ++ here :: late) (member : later ∈ late) :
    here.after.nextRequestId ≤ later.before.nextRequestId := by
  obtain ⟨first, last, -, -, -, rfl⟩ := Runs.history_split split
  apply (Runs.before_of_mem (P := fun process => here.after.nextRequestId ≤ process.nextRequestId) ?_ (le_refl _) member).1
  intro process call before
  exact before.trans (nextRequestId_le process call)

theorem requested_later {early late : List SettingsStep} {here later : SettingsStep} {requestId' : Nat}
    (unspent : Unspent (Runs.history step start calls))
    (split : Runs.history step start calls = early ++ here :: late) (member : later ∈ late)
    (reply : here.output = .requested requestId) (reply' : later.output = .requested requestId') :
    requestId < requestId' := by
  have inside : here ∈ Runs.history step start calls := split ▸ List.mem_append_right _ List.mem_cons_self
  have inside' : later ∈ Runs.history step start calls :=
    split ▸ List.mem_append_right _ (List.mem_cons_of_mem _ member)
  have before := nextRequestId_later split member
  have taken := (Runs.before_of_mem (P := fun _ => True) (fun _ _ _ => trivial) trivial inside).2
  have taken' := (Runs.before_of_mem (P := fun _ => True) (fun _ _ _ => trivial) trivial inside').2
  have spent := unspent here inside _ reply
  have spent' := unspent later inside' _ reply'
  rw [taken] at reply before
  rw [taken'] at reply'
  have first := requested_eq spent reply
  have second := requested_eq spent' reply'
  simp only [Runs.take] at before
  omega

theorem requested_once {early late : List SettingsStep} {here : SettingsStep}
    (unspent : Unspent (Runs.history step start calls))
    (split : Runs.history step start calls = early ++ here :: late) (reply : here.output = .requested requestId) :
    ∀ other ∈ early ++ late, other.output ≠ .requested requestId := by
  intro other member same
  rcases List.mem_append.mp member with before | behind
  · obtain ⟨first, last, rfl⟩ := List.append_of_mem before
    rw [List.append_assoc, List.cons_append] at split
    have later := requested_later unspent split (List.mem_append_right _ List.mem_cons_self) same reply
    exact absurd later (Nat.lt_irrefl _)
  · exact absurd (requested_later unspent split behind reply same) (Nat.lt_irrefl _)

theorem snapshot_confirmed {now : Nat} {shown : DeviceSettingSnapshot}
    (member : shown ∈ process.settings.snapshot now) (status : shown.status = .confirmed)
    (owner : shown.requestId = some requestId) :
    ∃ record value at_, (shown.id, record) ∈ process.settings.records.items ∧ record.state = .confirmed value at_ ∧
      record.requestId = some requestId := by
  obtain ⟨⟨id, record⟩, inside, rfl⟩ := List.mem_map.mp member
  have status : record.state.commandStatus now record.completion = .confirmed := status
  unfold SettingState.commandStatus at status
  split at status <;> try cases status
  · split at status
    · cases status
    · split at status <;> cases status
  · next same => exact ⟨record, _, _, inside, same, owner⟩

/-- The one submission that returned a request id, and the readback behind it. -/
def ConfirmedBy (past : List SettingsStep) (id : SettingId) (requestId : Nat) : Prop :=
  ∃ early here late requested outcome completion submittedAt, past = early ++ here :: late ∧
    here.input = .submission id requested outcome completion submittedAt ∧ here.output = .requested requestId ∧
    (∀ other ∈ early ++ late, other.output ≠ .requested requestId) ∧ completion.supportsReadback = true ∧
    ReadBack here.before.settings.managedTransport late id requestId requested submittedAt

/-- Confirmation is sound: behind the one submission that returned the request id the requested value was read
back, and nothing stale moves a record. -/
theorem settings_confirmation_sound (calls : List SettingsCall) (unspent : Unspent (Runs.history step {} calls)) :
    (∀ now, ∀ shown ∈ (Runs.final step {} calls).settings.snapshot now, ∀ requestId, shown.status = .confirmed →
      shown.requestId = some requestId → ConfirmedBy (Runs.history step {} calls) shown.id requestId) ∧
    (∀ id record, (Runs.final step {} calls).settings.records.get id = some record →
      (∀ observedAt latest, record.observedAt = some latest → observedAt < latest →
        (Runs.final step {} calls).settings.IgnoresObservation id observedAt) ∧
      ∀ requestId status at_, record.requestId ≠ some requestId ∨
        (∃ latest, record.transportAt = some latest ∧ at_ < latest) ∨ record.Terminal →
        (Runs.final step {} calls).settings.transport id requestId status at_ =
          ((Runs.final step {} calls).settings, .refused)) ∧
    ∀ here ∈ Runs.history step {} calls, here.output ≠ .transport .unreachable := by
  refine ⟨?_, ?_, ?_⟩
  · intro now shown member requestId status owner
    obtain ⟨record, value, at_, inside, confirmed, same⟩ := snapshot_confirmed member status owner
    have backed := history_backed calls _ inside
    simp only [Backed, confirmed] at backed
    obtain ⟨here, late, r, submittedAt, known, supports, reading⟩ := backed
    obtain rfl : r = requestId := Option.some.inj (known.owner.symm.trans same)
    obtain ⟨early, split⟩ := known.split
    obtain ⟨outcome, call⟩ := known.call
    exact ⟨early, here, late, value.value, outcome, record.completion, submittedAt, split, call, known.reply,
      requested_once unspent split known.reply, supports, reading⟩
  · intro id record known
    refine ⟨?_, ?_⟩
    · intro observedAt latest observed earlier
      exact DeviceSettingsState.ignoresObservation known observed earlier
    · intro requestId status at_ stale
      exact DeviceSettingsState.transport_refused status known stale
  · intro here member unreached
    have taken := (Runs.before_of_mem (P := fun _ => True) (fun _ _ _ => trivial) trivial member).2
    rw [taken] at unreached
    cases call : here.input with
    | transport id requestId status at_ =>
      rw [call] at unreached
      exact DeviceSettingsState.transport_reachable _ id requestId status at_ (SettingsReply.transport.inj unreached)
    | _ =>
      rw [call] at unreached
      cases unreached

def managedRun : List SettingsCall :=
  [.requireManagedTransport, .submission .headlight (.boolean true) .accepted .matchingReadback 10,
    .transport .headlight 1 .submitted 20, .observe .headlight (.boolean true) .liveReadback 30]

theorem settings_confirmation_sound_managed : Unspent (Runs.history step {} managedRun) ∧
    (Runs.final step {} managedRun).settings.snapshot 40 =
      [⟨.headlight, some ⟨.boolean true, .liveReadback⟩, none, none, some 1, .confirmed, some .submitted, some 10, none⟩] ∧
    ConfirmedBy (Runs.history step {} managedRun) .headlight 1 := by
  have unspent : Unspent (Runs.history step {} managedRun) := by
    intro here member requestId reply
    simp only [managedRun, Runs.history, List.mem_cons, List.not_mem_nil, or_false] at member
    rcases member with rfl | rfl | rfl | rfl <;> decide
  have shown : (Runs.final step {} managedRun).settings.snapshot 40 =
      [⟨.headlight, some ⟨.boolean true, .liveReadback⟩, none, none, some 1, .confirmed, some .submitted, some 10, none⟩] := rfl
  refine ⟨unspent, shown, ?_⟩
  have sound := (settings_confirmation_sound managedRun unspent).1 40
  rw [shown] at sound
  exact sound _ List.mem_cons_self 1 rfl rfl

end SettingsProcess

end Cutout.Core
