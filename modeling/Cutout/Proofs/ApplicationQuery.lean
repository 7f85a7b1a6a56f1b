import Cutout.Proofs.NotificationEffects
import Cutout.Proofs.NotificationChunks
import Cutout.Library.Runs

/-! The discovery query over whole runs. The history of a run carries the evidence
behind every state of the query: which step asked, which receipts reported its
fragments, when the response interval ran out, and that nothing was announced
meanwhile. Once a fragment may be out, nothing is asked again before a reset. -/

namespace Cutout.Protocols
open Library
variable {status : ApplicationQueryTransportStatus}

abbrev DecoderStep := Step VescNotificationDecoder VescDecoderInput (List SessionOutput)

namespace ApplicationQueryProgress
variable {progress : ApplicationQueryProgress}

def Moot : ApplicationQueryProgress → Prop
  | .notRequested | .resolved _ | .knownUnsent _ | .partialUncertain _ => True
  | .queued _ | .awaiting _ _ _ | .responseExpired _ => False

def Spent : ApplicationQueryProgress → Prop
  | .queued query => query.hasSubmission = true
  | .awaiting _ _ _ | .responseExpired _ | .resolved _ | .partialUncertain _ => True
  | .notRequested | .knownUnsent _ => False

theorem failedState_moot (query : QueuedApplicationQuery) : query.failedState.Moot := by
  unfold QueuedApplicationQuery.failedState
  split <;> trivial

theorem Moot.advanceDeadlines (moot : progress.Moot) (time : Nat) : progress.advanceDeadlines time = progress := by
  cases progress <;> first | rfl | cases moot

theorem advanceDeadlines_idem (progress : ApplicationQueryProgress) (time : Nat) :
    (progress.advanceDeadlines time).advanceDeadlines time = progress.advanceDeadlines time := by
  cases progress with
  | queued query =>
    by_cases late : query.write.submitBefore ≤ time
    · have failed : (ApplicationQueryProgress.queued query).advanceDeadlines time = query.failedState := if_pos late
      rw [failed]
      exact (failedState_moot query).advanceDeadlines time
    · simp [advanceDeadlines, late]
  | awaiting id submittedAt deadline =>
    by_cases late : deadline ≤ time <;> simp [advanceDeadlines, late]
  | _ => rfl

theorem Moot.settle (moot : progress.Moot) (time : Nat) : progress.settle time = progress := by
  cases progress <;> first | rfl | cases moot

private theorem settle_cases (progress : ApplicationQueryProgress) (time : Nat) :
    progress.settle time = progress ∨ (progress.settle time).Moot := by
  cases progress with
  | awaiting id submittedAt deadline =>
    by_cases early : submittedAt ≤ time
    · exact .inr (by simp [settle, early, Moot])
    · exact .inl (by simp [settle, early])
  | _ => exact .inl rfl

private theorem retire_moot (progress : ApplicationQueryProgress) : progress.retire.Moot := by
  cases progress with
  | queued query =>
    by_cases submitted : query.hasSubmission <;> simp [retire, submitted, Moot]
  | _ => trivial

private theorem advanceDeadlines_eq_notRequested {time : Nat} (idle : progress.advanceDeadlines time = .notRequested) :
    progress = .notRequested := by
  cases progress with
  | queued query =>
    by_cases late : query.write.submitBefore ≤ time
    · simp only [advanceDeadlines, late, if_true, QueuedApplicationQuery.failedState] at idle
      split at idle <;> cases idle
    · simp [advanceDeadlines, late] at idle
  | awaiting id submittedAt deadline =>
    by_cases late : deadline ≤ time <;> simp [advanceDeadlines, late] at idle
  | _ => exact idle

namespace Spent
variable {progress : ApplicationQueryProgress}

theorem advanceDeadlines (spent : progress.Spent) (time : Nat) : (progress.advanceDeadlines time).Spent := by
  cases progress with
  | queued query =>
    have submitted : query.hasSubmission = true := spent
    by_cases late : query.write.submitBefore ≤ time
    · simp [ApplicationQueryProgress.advanceDeadlines, late, QueuedApplicationQuery.failedState, submitted, Spent]
    · simpa [ApplicationQueryProgress.advanceDeadlines, late] using spent
  | awaiting id submittedAt deadline =>
    by_cases late : deadline ≤ time <;> simp [ApplicationQueryProgress.advanceDeadlines, late, Spent]
  | _ => exact spent

theorem settle (spent : progress.Spent) (time : Nat) : (progress.settle time).Spent := by
  cases progress with
  | awaiting id submittedAt deadline =>
    by_cases early : submittedAt ≤ time <;> simp [ApplicationQueryProgress.settle, early, Spent]
  | _ => exact spent

theorem retire (spent : progress.Spent) : progress.retire.Spent := by
  cases progress with
  | queued query =>
    have submitted : query.hasSubmission = true := spent
    simp [ApplicationQueryProgress.retire, submitted, Spent]
  | notRequested | knownUnsent => cases spent
  | _ => trivial

end Spent

structure InRange (query : QueuedApplicationQuery) (index count : Nat) : Prop where
  positive : 1 ≤ count
  bounded : count ≤ maxApplicationQueryFragments
  inside : index < count
  consistent : query.fragmentCount = none ∨ query.fragmentCount = some count

theorem InRange.count_eq {query : QueuedApplicationQuery} {index count known : Nat} (fits : InRange query index count)
    (counted : query.fragmentCount = some known) : known = count := by
  rcases fits.consistent with unknown | expected
  · exact absurd (unknown.symm.trans counted) (by simp)
  · exact Option.some.inj (counted.symm.trans expected)

private theorem mark_of_all {marks : List Bool} {index count : Nat} (all : (marks.take count).all id = true)
    (inside : index < count) (room : index < marks.length) : marks[index]? = some true := by
  have found : (marks.take count)[index]? = marks[index]? := by simp [inside]
  rw [List.getElem?_eq_getElem room] at found ⊢
  have set := List.all_eq_true.mp all _ (List.mem_of_getElem? found)
  exact congrArg some set

theorem hasSubmission_iff (query : QueuedApplicationQuery) :
    query.hasSubmission = true ↔ ∃ index : Nat, query.submitted[index]? = some true := by
  simp only [QueuedApplicationQuery.hasSubmission, List.any_eq_true, id]
  constructor
  · rintro ⟨mark, member, rfl⟩
    exact List.mem_iff_getElem?.mp member
  · rintro ⟨index, found⟩
    exact ⟨true, List.mem_iff_getElem?.mpr ⟨index, found⟩, rfl⟩

def counted (query : QueuedApplicationQuery) (count : Nat) : QueuedApplicationQuery :=
  { query with fragmentCount := some count }

def marked (query : QueuedApplicationQuery) (index count : Nat) : QueuedApplicationQuery :=
  { query with fragmentCount := some count, submitted := query.submitted.set index true }

theorem marked_hasSubmission {query : QueuedApplicationQuery} {index count : Nat}
    (inside : index < query.submitted.length) : (marked query index count).hasSubmission = true := by
  refine (hasSubmission_iff _).mpr ⟨index, ?_⟩
  simp [marked, List.getElem?_set_self inside]

inductive Recorded (query : QueuedApplicationQuery) (index count : Nat) (status : ApplicationQueryTransportStatus)
    (time : Nat) : ApplicationQueryProgress → Prop where
  | uncertain : Recorded query index count status time (.partialUncertain query.write.id)
  | unsent : status ≠ .submitted → status ≠ .submissionUnknown → query.hasSubmission = false →
      Recorded query index count status time (.knownUnsent query.write.id)
  | kept : InRange query index count → status ≠ .submissionUnknown →
      (status = .submitted → query.hasSubmission = true) →
      Recorded query index count status time (.queued (counted query count))
  | marks : InRange query index count → status = .submitted → time < query.write.submitBefore →
      Recorded query index count status time (.queued (marked query index count))
  | completes : InRange query index count → status = .submitted → time < query.write.submitBefore →
      ((marked query index count).submitted.take count).all id = true →
      Recorded query index count status time
        (.awaiting query.write.id time (saturatingAdd time refloatDiscoveryTimeoutMs))

theorem recordQueued_cases {query : QueuedApplicationQuery} (sized : query.submitted.length = maxApplicationQueryFragments)
    (index count : Nat) (status : ApplicationQueryTransportStatus) (time : Nat) :
    Recorded query index count status time (recordQueued query index count status time).1 := by
  have failed (known : status ≠ .submitted) (sure : status ≠ .submissionUnknown) :
      Recorded query index count status time (counted query count).failedState := by
    cases submitted : query.hasSubmission with
    | true =>
      have same : (counted query count).failedState = .partialUncertain query.write.id := if_pos submitted
      rw [same]
      exact .uncertain
    | false =>
      have same : (counted query count).failedState = .knownUnsent query.write.id := by
        refine if_neg ?_
        rw [show (counted query count).hasSubmission = query.hasSubmission from rfl, submitted]
        simp
      rw [same]
      exact .unsent known sure submitted
  unfold recordQueued
  by_cases unknown : status = .submissionUnknown
  · rw [if_pos unknown]
    exact .uncertain
  · rw [if_neg unknown]
    by_cases misfit : count = 0 ∨ maxApplicationQueryFragments < count ∨ count ≤ index ∨
        (query.fragmentCount ≠ none ∧ query.fragmentCount ≠ some count)
    · rw [if_pos misfit]
      by_cases submitted : status = .submitted ∨ query.hasSubmission = true
      · rw [if_pos submitted]
        exact .uncertain
      · rw [if_neg submitted]
        simp only [not_or, Bool.not_eq_true] at submitted
        exact .unsent submitted.1 unknown submitted.2
    · rw [if_neg misfit]
      simp only [not_or, not_and, not_not, Nat.not_lt, Nat.not_le] at misfit
      obtain ⟨positive, bounded, inside, consistent⟩ := misfit
      have fits : InRange query index count := by
        refine ⟨by omega, bounded, inside, ?_⟩
        by_cases first : query.fragmentCount = none
        · exact .inl first
        · exact .inr (consistent first)
      have room : index < query.submitted.length := by omega
      by_cases already : query.submitted.getD index false = true
      · have before : query.hasSubmission = true := by
          refine (hasSubmission_iff query).mpr ⟨index, ?_⟩
          simpa [List.getD_eq_getElem?_getD, List.getElem?_eq_getElem room] using already
        simp only [already, if_true]
        exact .kept fits unknown fun _ => before
      · simp only [already, Bool.false_eq_true, if_false]
        cases status with
        | submitted =>
          simp only [if_true]
          by_cases late : query.write.submitBefore ≤ time
          · rw [if_pos late]
            have same : (marked query index count).failedState = .partialUncertain query.write.id :=
              if_pos (marked_hasSubmission room)
            exact same ▸ .uncertain
          · rw [if_neg late]
            by_cases all : ((query.submitted.set index true).take count).all id = true
            · rw [if_pos all]
              exact .completes fits rfl (by omega) all
            · rw [if_neg all]
              exact .marks fits rfl (by omega)
        | submissionUnknown => exact absurd rfl unknown
        | queued =>
          simp only [reduceCtorEq, if_false]
          by_cases late : query.write.submitBefore ≤ time
          · rw [if_pos late]
            exact failed (by simp) unknown
          · rw [if_neg late]
            exact .kept fits unknown (by simp)
        | rejected | cancelled =>
          simp only [reduceCtorEq, if_false]
          by_cases late : query.write.submitBefore ≤ time
          · rw [if_pos late]
            exact failed (by simp) unknown
          · rw [if_neg late]
            exact failed (by simp) unknown

/-- A receipt for the current query that says a fragment went out, or may have. -/
theorem recordTransport_spent {id index count time : Nat}
    (sized : ∀ query, progress = .queued query → query.submitted.length = maxApplicationQueryFragments)
    (current : (∃ query, progress = .queued query ∧ query.write.id = id ∧ query.emittedAtMs ≤ time) ∨
      progress = .knownUnsent id)
    (sent : status = .submitted ∨ status = .submissionUnknown) :
    (progress.recordTransport id index count status time).1.Spent := by
  rcases current with ⟨query, rfl, rfl, dated⟩ | rfl
  · have reached : (ApplicationQueryProgress.queued query).recordTransport query.write.id index count status time =
        recordQueued query index count status time := by
      simp only [recordTransport]
      rw [if_neg (by simp; omega)]
    have room := sized query rfl
    have recorded := recordQueued_cases room index count status time
    rw [reached]
    generalize (recordQueued query index count status time).1 = next at recorded
    cases recorded with
    | uncertain | completes => trivial
    | unsent known sure _ => rcases sent with rfl | rfl <;> contradiction
    | kept _ sure before =>
      rcases sent with rfl | rfl
      · exact before rfl
      · exact absurd rfl sure
    | marks fits _ _ => exact marked_hasSubmission (by have := fits.inside; have := fits.bounded; omega)
  · have recorded : (ApplicationQueryProgress.knownUnsent id).recordTransport id index count status time =
        (.partialUncertain id, true) := by
      simp [recordTransport, sent]
    rw [recorded]
    trivial

theorem Spent.recordTransport (spent : progress.Spent)
    (sized : ∀ query, progress = .queued query → query.submitted.length = maxApplicationQueryFragments)
    (id index count : Nat) (status : ApplicationQueryTransportStatus) (time : Nat) :
    (progress.recordTransport id index count status time).1.Spent := by
  cases progress with
  | notRequested | knownUnsent => cases spent
  | queued query =>
    have submitted : query.hasSubmission = true := spent
    simp only [ApplicationQueryProgress.recordTransport]
    by_cases foreign : query.write.id ≠ id ∨ time < query.emittedAtMs
    · rw [if_pos foreign]
      exact spent
    · rw [if_neg foreign]
      have recorded := recordQueued_cases (sized query rfl) index count status time
      have room := sized query rfl
      generalize (recordQueued query index count status time).1 = next at recorded
      cases recorded with
      | uncertain | completes => trivial
      | unsent _ _ none => exact absurd submitted (by simp [none])
      | kept _ _ _ => exact submitted
      | marks fits _ _ => exact marked_hasSubmission (by have := fits.inside; have := fits.bounded; omega)
  | _ => exact spent

end ApplicationQueryProgress

def applicationQueries (outputs : List SessionOutput) : List ApplicationQueryWrite :=
  outputs.filterMap fun
    | .write _ query => query
    | _ => none

def queriesOf (step : DecoderStep) : List ApplicationQueryWrite := applicationQueries step.output

def announces (step : DecoderStep) : Bool := step.output.any SessionOutput.isPackage

def clock (step : DecoderStep) : Option Nat :=
  match step.input with
  | .notification _ time | .tick time | .hostTime time | .advanceDeadlines time => some time
  | .requestTelemetry => some step.before.nowMs
  | _ => none

/-- A step of the history asked the query, and the steps since then belong to the same link. -/
structure Asked (history : List DecoderStep) (write : ApplicationQueryWrite) (since : List DecoderStep) : Prop where
  asked : ∃ earlier question, history = earlier ++ question :: since ∧ write ∈ queriesOf question
  connected : ∀ step ∈ since, step.input ≠ .reset

structure Submitted (steps : List DecoderStep) (write : ApplicationQueryWrite) (count : Nat) : Prop where
  positive : 1 ≤ count
  bounded : count ≤ maxApplicationQueryFragments
  fragments : ∀ index < count, ∃ step ∈ steps, ∃ time < write.submitBefore,
    step.input = .applicationQueryTransport write.id index count .submitted time

/-- The submission was complete with a receipt of that time; the later steps came after it. -/
def Completed (since : List DecoderStep) (write : ApplicationQueryWrite) (submittedAt : Nat)
    (later : List DecoderStep) : Prop :=
  ∃ early last count index, since = early ++ last :: later ∧ Submitted (early ++ [last]) write count ∧
    last.input = .applicationQueryTransport write.id index count .submitted submittedAt

def Reported (since : List DecoderStep) (query : QueuedApplicationQuery) : Prop :=
  ∀ index, query.submitted[index]? = some true → ∃ count, query.fragmentCount = some count ∧
    ∃ step ∈ since, ∃ time < query.write.submitBefore,
      step.input = .applicationQueryTransport query.write.id index count .submitted time

def Supported (history : List DecoderStep) (observed : Option VescApplicationDiscovery) :
    ApplicationQueryProgress → Prop
  | .queued query => query.submitted.length = maxApplicationQueryFragments ∧ ∃ since,
      Asked history query.write since ∧ Reported since query ∧ (observed = none → ∀ step ∈ since, announces step = false)
  | .awaiting id submittedAt deadline => deadline = saturatingAdd submittedAt refloatDiscoveryTimeoutMs ∧
      ∃ write since later, write.id = id ∧ Asked history write since ∧ Completed since write submittedAt later ∧
        (observed = none → ∀ step ∈ since, announces step = false)
  | .responseExpired id => ∃ write since later submittedAt, write.id = id ∧ Asked history write since ∧
      Completed since write submittedAt later ∧
      (∃ step ∈ later, ∃ reading, clock step = some reading ∧
        saturatingAdd submittedAt refloatDiscoveryTimeoutMs ≤ reading) ∧
      (observed = none → ∀ step ∈ since, announces step = false)
  | _ => True

section Evidence
variable {history : List DecoderStep} {write : ApplicationQueryWrite} {since : List DecoderStep} {step : DecoderStep}
variable {observed : Option VescApplicationDiscovery} {progress : ApplicationQueryProgress}

theorem Asked.extend (asked : Asked history write since) (connected : step.input ≠ .reset) :
    Asked (history ++ [step]) write (since ++ [step]) := by
  obtain ⟨⟨earlier, question, rfl, member⟩, kept⟩ := asked
  refine ⟨⟨earlier, question, by simp, member⟩, ?_⟩
  intro other inside
  rcases List.mem_append.mp inside with old | new
  · exact kept other old
  · rw [List.mem_singleton.mp new]
    exact connected

theorem Completed.extend {submittedAt : Nat} {later : List DecoderStep} (completed : Completed since write submittedAt later)
    (step : DecoderStep) : Completed (since ++ [step]) write submittedAt (later ++ [step]) := by
  obtain ⟨early, last, count, index, rfl, submitted, receipt⟩ := completed
  exact ⟨early, last, count, index, by simp, submitted, receipt⟩

theorem Reported.extend {query : QueuedApplicationQuery} (reported : Reported since query) (step : DecoderStep) :
    Reported (since ++ [step]) query := by
  intro index mark
  obtain ⟨count, known, receipt, member, rest⟩ := reported index mark
  exact ⟨count, known, receipt, List.mem_append_left _ member, rest⟩

theorem silent_extend {next : Option VescApplicationDiscovery}
    (silent : observed = none → ∀ step ∈ since, announces step = false)
    (still : next = none → observed = none ∧ announces step = false) :
    next = none → ∀ other ∈ since ++ [step], announces other = false := by
  intro unheard other inside
  obtain ⟨before, now⟩ := still unheard
  rcases List.mem_append.mp inside with old | new
  · exact silent before other old
  · rw [List.mem_singleton.mp new]
    exact now

theorem Supported.of_moot (moot : progress.Moot) : Supported history observed progress := by
  cases progress <;> trivial

theorem Supported.extend {next : Option VescApplicationDiscovery} (supported : Supported history observed progress)
    (connected : step.input ≠ .reset) (still : next = none → observed = none ∧ announces step = false) :
    Supported (history ++ [step]) next progress := by
  cases progress with
  | queued query =>
    obtain ⟨sized, since, asked, reported, silent⟩ := supported
    exact ⟨sized, since ++ [step], asked.extend connected, reported.extend step, silent_extend silent still⟩
  | awaiting id submittedAt deadline =>
    obtain ⟨due, write, since, later, same, asked, completed, silent⟩ := supported
    exact ⟨due, write, since ++ [step], later ++ [step], same, asked.extend connected, completed.extend step,
      silent_extend silent still⟩
  | responseExpired id =>
    obtain ⟨write, since, later, submittedAt, same, asked, completed, ⟨late, member, elapsed⟩, silent⟩ := supported
    exact ⟨write, since ++ [step], later ++ [step], submittedAt, same, asked.extend connected, completed.extend step,
      ⟨late, List.mem_append_left _ member, elapsed⟩, silent_extend silent still⟩
  | _ => trivial

theorem Supported.advance {next : Option VescApplicationDiscovery} (supported : Supported history observed progress)
    (connected : step.input ≠ .reset) (still : next = none → observed = none ∧ announces step = false) {reading : Nat}
    (read : clock step = some reading) :
    Supported (history ++ [step]) next (progress.advanceDeadlines reading) := by
  cases progress with
  | queued query =>
    by_cases late : query.write.submitBefore ≤ reading
    · have failed : (ApplicationQueryProgress.queued query).advanceDeadlines reading = query.failedState := if_pos late
      rw [failed]
      exact .of_moot (ApplicationQueryProgress.failedState_moot query)
    · have kept : (ApplicationQueryProgress.queued query).advanceDeadlines reading = .queued query := if_neg late
      rw [kept]
      exact supported.extend connected still
  | awaiting id submittedAt deadline =>
    by_cases late : deadline ≤ reading
    · obtain ⟨due, write, since, later, same, asked, completed, silent⟩ := supported
      have expired : (ApplicationQueryProgress.awaiting id submittedAt deadline).advanceDeadlines reading =
          .responseExpired id := if_pos late
      rw [expired]
      exact ⟨write, since ++ [step], later ++ [step], submittedAt, same, asked.extend connected, completed.extend step,
        ⟨step, List.mem_append_right _ (List.mem_singleton_self _), reading, read, due ▸ late⟩,
        silent_extend silent still⟩
    · have kept : (ApplicationQueryProgress.awaiting id submittedAt deadline).advanceDeadlines reading =
          .awaiting id submittedAt deadline := if_neg late
      rw [kept]
      exact supported.extend connected still
  | _ => exact supported.extend connected still

/-- A receipt for the queued query becomes part of its evidence. -/
theorem Supported.record {query : QueuedApplicationQuery} (supported : Supported history observed (.queued query))
    {index count time : Nat} {next : ApplicationQueryProgress}
    (receipt : step.input = .applicationQueryTransport query.write.id index count status time)
    (quiet : announces step = false) (recorded : ApplicationQueryProgress.Recorded query index count status time next) :
    Supported (history ++ [step]) observed next := by
  have connected : step.input ≠ .reset := by simp [receipt]
  obtain ⟨sized, since, asked, reported, silent⟩ := supported
  have unheard := silent_extend silent fun none => ⟨none, quiet⟩
  -- Marks made earlier have the count of this receipt, the new mark is this receipt.
  have marks (fits : ApplicationQueryProgress.InRange query index count) (sent : status = .submitted)
      (early : time < query.write.submitBefore) :
      Reported (since ++ [step]) (ApplicationQueryProgress.marked query index count) := by
    intro other mark
    by_cases same : other = index
    · subst same
      exact ⟨count, rfl, step, by simp, time, early, by rw [receipt, sent]; rfl⟩
    · have old : query.submitted[other]? = some true := by
        simpa [ApplicationQueryProgress.marked, List.getElem?_set, Ne.symm same] using mark
      obtain ⟨counted, known, earlier, member, rest⟩ := reported other old
      obtain rfl := fits.count_eq known
      exact ⟨counted, rfl, earlier, List.mem_append_left _ member, rest⟩
  cases recorded with
  | uncertain | unsent => trivial
  | kept fits _ _ =>
    refine ⟨sized, since ++ [step], asked.extend connected, ?_, unheard⟩
    intro other mark
    obtain ⟨counted, known, earlier, member, rest⟩ := reported other mark
    obtain rfl := fits.count_eq known
    exact ⟨counted, rfl, earlier, List.mem_append_left _ member, rest⟩
  | marks fits sent early =>
    refine ⟨?_, since ++ [step], asked.extend connected, marks fits sent early, unheard⟩
    simpa [ApplicationQueryProgress.marked] using sized
  | completes fits sent early all =>
    refine ⟨rfl, query.write, since ++ [step], [], rfl, asked.extend connected, ?_, unheard⟩
    refine ⟨since, step, count, index, rfl, ⟨fits.positive, fits.bounded, ?_⟩, by rw [receipt, sent]⟩
    intro other inside
    have room : other < (ApplicationQueryProgress.marked query index count).submitted.length := by
      have := fits.bounded
      simp only [ApplicationQueryProgress.marked, List.length_set, sized]
      omega
    have mark := ApplicationQueryProgress.mark_of_all all inside room
    obtain ⟨counted, known, rest⟩ := marks fits sent early other mark
    obtain rfl := Option.some.inj known
    exact rest

theorem Supported.receipt (supported : Supported history observed progress) {id index count time : Nat}
    (receipt : step.input = .applicationQueryTransport id index count status time) (quiet : announces step = false) :
    Supported (history ++ [step]) observed (progress.recordTransport id index count status time).1 := by
  have connected : step.input ≠ .reset := by simp [receipt]
  have kept : Supported (history ++ [step]) observed progress :=
    supported.extend connected fun unheard => ⟨unheard, quiet⟩
  cases progress with
  | knownUnsent other =>
    simp only [ApplicationQueryProgress.recordTransport]
    split <;> trivial
  | queued query =>
    simp only [ApplicationQueryProgress.recordTransport]
    by_cases foreign : query.write.id ≠ id ∨ time < query.emittedAtMs
    · rw [if_pos foreign]
      exact kept
    · rw [if_neg foreign]
      simp only [not_or, not_not] at foreign
      exact supported.record (foreign.1 ▸ receipt) quiet
        (ApplicationQueryProgress.recordQueued_cases supported.1 index count status time)
  | _ => exact kept

end Evidence

section Steps
variable {vesc : VescCrate} {decoder : VescNotificationDecoder}

theorem applicationQueries_append (first second : List SessionOutput) :
    applicationQueries (first ++ second) = applicationQueries first ++ applicationQueries second :=
  List.filterMap_append ..

theorem applicationQueries_of_no_write {outputs : List SessionOutput}
    (quiet : ∀ output ∈ outputs, output.isWrite = false) : applicationQueries outputs = [] := by
  refine List.filterMap_eq_nil_iff.mpr ?_
  intro output member
  cases output <;> first | rfl | exact absurd (quiet _ member) (by simp [SessionOutput.isWrite])

private theorem readRequest_plain (request : VescReadOnlyRequest) :
    applicationQueries (vesc.readRequest request none) = [] ∧
      (vesc.readRequest request none).any SessionOutput.isPackage = false := by
  unfold VescCrate.readRequest
  split
  · split <;> simp [applicationQueries, SessionOutput.isPackage]
  · simp [applicationQueries]

/-- The discovery request always encodes, so the query is really asked. -/
theorem readRequest_info (query : ApplicationQueryWrite) :
    applicationQueries (vesc.readRequest (.refloat .info) (some query)) = [query] ∧
      (vesc.readRequest (.refloat .info) (some query)).any SessionOutput.isPackage = false := by
  have encoded : ∃ bytes, vesc.encodeRequest (.refloat .info) = some bytes ∧ bytes.length ≤ maxTransportWriteLen :=
    ⟨_, rfl, by decide⟩
  obtain ⟨bytes, encoded, short⟩ := encoded
  simp [VescCrate.readRequest, encoded, short, applicationQueries, SessionOutput.isPackage]

/-- A notification leaves the query, expires it with an announcement, or makes it moot. -/
theorem heard_cases {time : Nat} {before after : RefloatDiscovery} {announced : Bool}
    (heard : Heard time before announced after) :
    (announced = false ∧ after = before) ∨
      (after.query = before.query.advanceDeadlines time ∧ after.observed ≠ none) ∨ after.query.Moot := by
  induction heard with
  | nothing => exact .inl ⟨rfl, rfl⟩
  | replaced _ _ => exact .inr (.inr (ApplicationQueryProgress.retire_moot _))
  | @announced flag next application _ ih =>
    have moved (progress : ApplicationQueryProgress) (same : next.query.advanceDeadlines time = progress) :
        (next.query.advanceDeadlines time).settle time = progress ∨
          ((next.query.advanceDeadlines time).settle time).Moot := by
      rcases (next.query.advanceDeadlines time).settle_cases time with unchanged | moot
      · exact .inl (unchanged.trans same)
      · exact .inr moot
    rcases ih with ⟨-, rfl⟩ | ⟨advanced, -⟩ | moot
    · rcases moved _ rfl with same | moot
      · exact .inr (.inl ⟨same, by simp⟩)
      · exact .inr (.inr moot)
    · rcases moved (before.query.advanceDeadlines time)
        (by rw [advanced, ApplicationQueryProgress.advanceDeadlines_idem]) with same | moot
      · exact .inr (.inl ⟨same, by simp⟩)
      · exact .inr (.inr moot)
    · refine .inr (.inr ?_)
      simp only [moot.advanceDeadlines time, moot.settle time]
      exact moot

inductive Polled (decoder : VescNotificationDecoder) : VescNotificationDecoder × List SessionOutput → Prop where
  | waits {next outputs} : next.lastApplicationQueryId = decoder.lastApplicationQueryId →
      next.refloatDiscovery = decoder.refloatDiscovery → applicationQueries outputs = [] →
      outputs.any SessionOutput.isPackage = false → Polled decoder (next, outputs)
  | reads {next outputs} : next.lastApplicationQueryId = decoder.lastApplicationQueryId →
      next.refloatDiscovery = ⟨decoder.refloatDiscovery.observed,
        decoder.refloatDiscovery.query.advanceDeadlines decoder.nowMs⟩ → applicationQueries outputs = [] →
      outputs.any SessionOutput.isPackage = false → Polled decoder (next, outputs)
  | asks {next outputs} {write : ApplicationQueryWrite} {emittedAt : Nat} :
      write.id = decoder.lastApplicationQueryId + 1 →
      next.lastApplicationQueryId = write.id → decoder.refloatDiscovery.query = .notRequested →
      next.refloatDiscovery.query = .queued ⟨write, emittedAt, none, List.replicate maxApplicationQueryFragments false⟩ →
      applicationQueries outputs = [write] → outputs.any SessionOutput.isPackage = false → Polled decoder (next, outputs)

theorem pollIfDue_polled (decoder : VescNotificationDecoder) : Polled decoder (decoder.pollIfDue vesc) := by
  have plain := @readRequest_plain vesc
  unfold VescNotificationDecoder.pollIfDue
  split
  · exact .waits rfl rfl rfl rfl
  · simp only
    split
    · have motor : applicationQueries (if decoder.motorConfigReceived then [] else vesc.readRequest .motorConfig none) =
          [] ∧ (if decoder.motorConfigReceived then [] else vesc.readRequest .motorConfig none).any
            SessionOutput.isPackage = false := by
        split
        · exact ⟨rfl, rfl⟩
        · exact plain _
      refine .reads rfl rfl ?_ ?_
      · rw [applicationQueries_append, applicationQueries_append, (plain _).1, (plain _).1, List.append_nil, List.nil_append]
        exact motor.1
      · rw [List.any_append, List.any_append, (plain _).2, (plain _).2, Bool.or_false, Bool.false_or]
        exact motor.2
    · split
      · rename_i idle
        have fresh := ApplicationQueryProgress.advanceDeadlines_eq_notRequested idle.2
        split
        · exact .reads rfl rfl rfl rfl
        · refine .asks rfl rfl fresh rfl ?_ ?_
          · rw [applicationQueries_append, (readRequest_info _).1, (plain _).1]
            rfl
          · rw [List.any_append, (readRequest_info _).2, (plain _).2]
            rfl
      · exact .reads rfl rfl (plain _).1 (plain _).2

/-- The invariant of a run: identities only grow, and the query never claims more than the history shows. -/
structure Truthful (history : List DecoderStep) (decoder : VescNotificationDecoder) : Prop where
  increasing : (history.flatMap queriesOf).Pairwise fun earlier later => earlier.id < later.id
  used : ∀ write ∈ history.flatMap queriesOf, write.id ≤ decoder.lastApplicationQueryId
  supported : Supported history decoder.refloatDiscovery.observed decoder.refloatDiscovery.query

variable {history : List DecoderStep}

section Truthful
variable (truthful : Truthful history decoder)
include truthful

theorem Truthful.sized : ∀ query, decoder.refloatDiscovery.query = .queued query →
      query.submitted.length = maxApplicationQueryFragments := by
  intro query queued
  have supported := truthful.supported
  rw [queued] at supported
  exact supported.1

theorem Truthful.quiet {step : DecoderStep} {next : VescNotificationDecoder} (none : queriesOf step = [])
    (same : next.lastApplicationQueryId = decoder.lastApplicationQueryId)
    (supported : Supported (history ++ [step]) next.refloatDiscovery.observed next.refloatDiscovery.query) :
    Truthful (history ++ [step]) next := by
  have flat : (history ++ [step]).flatMap queriesOf = history.flatMap queriesOf := by simp [none]
  refine ⟨flat ▸ truthful.increasing, ?_, supported⟩
  rw [flat, same]
  exact truthful.used

/-- A new query gets a larger identity than any before, and its evidence starts with it. -/
theorem Truthful.asks {step : DecoderStep} {next : VescNotificationDecoder} {write : ApplicationQueryWrite}
    {emittedAt : Nat} (asked : queriesOf step = [write]) (identity : write.id = decoder.lastApplicationQueryId + 1)
    (same : next.lastApplicationQueryId = write.id) (queued : next.refloatDiscovery.query =
      .queued ⟨write, emittedAt, none, List.replicate maxApplicationQueryFragments false⟩) :
    Truthful (history ++ [step]) next := by
  have flat : (history ++ [step]).flatMap queriesOf = history.flatMap queriesOf ++ [write] := by simp [asked]
  have fresh : ∀ earlier ∈ history.flatMap queriesOf, earlier.id < write.id := by
    intro earlier member
    have := truthful.used earlier member
    omega
  refine ⟨?_, ?_, ?_⟩
  · rw [flat, List.pairwise_append]
    refine ⟨truthful.increasing, List.pairwise_singleton _ _, ?_⟩
    intro earlier member later last
    rw [List.mem_singleton.mp last]
    exact fresh earlier member
  · rw [flat, same]
    intro earlier member
    rcases List.mem_append.mp member with old | new
    · exact Nat.le_of_lt (fresh earlier old)
    · rw [List.mem_singleton.mp new]
  · rw [queued]
    refine ⟨by simp, [], ⟨⟨history, step, rfl, by simp [asked]⟩, by simp⟩, ?_, by simp⟩
    intro index mark
    have member := List.mem_of_getElem? mark
    simp at member

/-- A poll, from the decoder as it was or with the deadlines already held against the same reading. -/
theorem Truthful.polled {step : DecoderStep} {start : VescNotificationDecoder}
    {polled : VescNotificationDecoder × List SessionOutput} (outcome : Polled start polled)
    (identity : start.lastApplicationQueryId = decoder.lastApplicationQueryId)
    (entered : start.refloatDiscovery = decoder.refloatDiscovery ∨ start.refloatDiscovery =
      ⟨decoder.refloatDiscovery.observed, decoder.refloatDiscovery.query.advanceDeadlines start.nowMs⟩)
    (output : step.output = polled.2) (connected : step.input ≠ .reset) (read : clock step = some start.nowMs) :
    Truthful (history ++ [step]) polled.1 := by
  have still (silent : polled.2.any SessionOutput.isPackage = false) :
      decoder.refloatDiscovery.observed = none →
        decoder.refloatDiscovery.observed = none ∧ announces step = false :=
    fun unheard => ⟨unheard, by rw [announces, output]; exact silent⟩
  cases outcome with
  | waits same unchanged none silent =>
    refine truthful.quiet (by rw [queriesOf, output]; exact none) (same.trans identity) ?_
    rcases entered with entered | entered
    · rw [unchanged, entered]
      exact truthful.supported.extend connected (still silent)
    · rw [unchanged, entered]
      exact truthful.supported.advance connected (still silent) read
  | reads same advanced none silent =>
    refine truthful.quiet (by rw [queriesOf, output]; exact none) (same.trans identity) ?_
    rcases entered with entered | entered
    · rw [advanced, entered]
      exact truthful.supported.advance connected (still silent) read
    · rw [advanced, entered]
      simp only [ApplicationQueryProgress.advanceDeadlines_idem]
      exact truthful.supported.advance connected (still silent) read
  | asks fresh same _ queued asked _ =>
    exact truthful.asks (by rw [queriesOf, output]; exact asked) (identity ▸ fresh) same queued

end Truthful

theorem Truthful.step {history : List DecoderStep} (truthful : Truthful history decoder) (input : VescDecoderInput) :
    Truthful (history ++ [Runs.take (VescNotificationDecoder.step vesc) decoder input])
      (decoder.step vesc input).1 := by
  have untouched (connected : input ≠ .reset) {next : VescNotificationDecoder}
      (same : next.lastApplicationQueryId = decoder.lastApplicationQueryId)
      (supported : Supported (history ++ [Runs.take (VescNotificationDecoder.step vesc) decoder input])
        next.refloatDiscovery.observed next.refloatDiscovery.query)
      (quiet : (decoder.step vesc input).2 = []) :
      Truthful (history ++ [Runs.take (VescNotificationDecoder.step vesc) decoder input]) next :=
    truthful.quiet (by rw [queriesOf, Runs.take, quiet]; rfl) same supported
  cases input with
  | notification bytes time =>
    obtain ⟨quiet, same, heard, -⟩ := @handleNotification_effect vesc time decoder bytes
    refine truthful.quiet (applicationQueries_of_no_write quiet) same ?_
    rcases heard_cases heard with ⟨silent, unchanged⟩ | ⟨advanced, observed⟩ | moot
    · simp only [VescNotificationDecoder.step]
      rw [unchanged]
      exact truthful.supported.extend (by simp [Runs.take]) fun unheard => ⟨unheard, silent⟩
    · simp only [VescNotificationDecoder.step]
      rw [advanced]
      exact truthful.supported.advance (by simp [Runs.take]) (fun unheard => absurd unheard observed) rfl
    · exact .of_moot moot
  | tick time =>
    have entered : (decoder.observeHostTime time).refloatDiscovery =
        ⟨decoder.refloatDiscovery.observed, decoder.refloatDiscovery.query.advanceDeadlines time⟩ := rfl
    by_cases polling : decoder.polling = true
    · have due : decoder.onTick vesc time = (decoder.observeHostTime time).pollIfDue vesc := if_pos polling
      simp only [VescNotificationDecoder.step, due]
      exact truthful.polled (pollIfDue_polled (decoder.observeHostTime time)) rfl (.inr entered)
        (by simp [Runs.take, VescNotificationDecoder.step, due]) (by simp [Runs.take]) rfl
    · have idle : decoder.onTick vesc time = (decoder.observeHostTime time, []) := if_neg polling
      have silent : announces (Runs.take (VescNotificationDecoder.step vesc) decoder (.tick time)) = false := by
        simp [announces, Runs.take, VescNotificationDecoder.step, idle]
      simp only [VescNotificationDecoder.step, idle]
      refine untouched (by simp) rfl ?_ (by simp [VescNotificationDecoder.step, idle])
      exact truthful.supported.advance (by simp [Runs.take]) (fun unheard => ⟨unheard, silent⟩) rfl
  | requestTelemetry =>
    exact truthful.polled (pollIfDue_polled { decoder with polling := true }) rfl (.inl rfl) rfl
      (by simp [Runs.take]) rfl
  | hostTime | advanceDeadlines =>
    exact untouched (by simp) rfl (truthful.supported.advance (by simp [Runs.take]) (fun unheard => ⟨unheard, rfl⟩) rfl) rfl
  | applicationQueryTransport id index count status time =>
    refine untouched (by simp) rfl ?_ rfl
    exact truthful.supported.receipt rfl rfl
  | configureUserDrivetrain geometry =>
    exact untouched (by simp) rfl (truthful.supported.extend (by simp [Runs.take]) fun unheard => ⟨unheard, rfl⟩) rfl
  | reset =>
    refine truthful.quiet rfl rfl ?_
    exact .of_moot trivial

/-- Announcements and identity replacements do not bring a spent query back. -/
theorem Heard.spent {time : Nat} {before after : RefloatDiscovery} {announced : Bool}
    (heard : Heard time before announced after) (spent : before.query.Spent) : after.query.Spent := by
  induction heard with
  | nothing => exact spent
  | replaced _ ih => exact ih.retire
  | announced _ _ ih => exact (ih.advanceDeadlines time).settle time

theorem Polled.spent {polled : VescNotificationDecoder × List SessionOutput} (outcome : Polled decoder polled)
    (spent : decoder.refloatDiscovery.query.Spent) :
    polled.1.refloatDiscovery.query.Spent ∧ applicationQueries polled.2 = [] := by
  cases outcome with
  | waits _ unchanged none _ => exact ⟨unchanged ▸ spent, none⟩
  | reads _ advanced none _ => exact ⟨by rw [advanced]; exact spent.advanceDeadlines _, none⟩
  | asks _ _ idle _ _ _ =>
    rw [idle] at spent
    cases spent

private theorem spent_step (spent : decoder.refloatDiscovery.query.Spent)
    (sized : ∀ query, decoder.refloatDiscovery.query = .queued query →
      query.submitted.length = maxApplicationQueryFragments) (input : VescDecoderInput) (connected : input ≠ .reset) :
    (decoder.step vesc input).1.refloatDiscovery.query.Spent ∧ applicationQueries (decoder.step vesc input).2 = [] := by
  cases input with
  | notification bytes time =>
    obtain ⟨quiet, -, heard, -⟩ := @handleNotification_effect vesc time decoder bytes
    exact ⟨heard.spent spent, applicationQueries_of_no_write quiet⟩
  | tick time =>
    have advanced : (decoder.observeHostTime time).refloatDiscovery.query.Spent := spent.advanceDeadlines time
    by_cases polling : decoder.polling = true
    · have due : decoder.onTick vesc time = (decoder.observeHostTime time).pollIfDue vesc := if_pos polling
      simp only [VescNotificationDecoder.step, due]
      exact (pollIfDue_polled (decoder.observeHostTime time)).spent advanced
    · have idle : decoder.onTick vesc time = (decoder.observeHostTime time, []) := if_neg polling
      simp only [VescNotificationDecoder.step, idle]
      exact ⟨advanced, rfl⟩
  | requestTelemetry => exact (pollIfDue_polled { decoder with polling := true }).spent spent
  | hostTime time | advanceDeadlines time => exact ⟨spent.advanceDeadlines time, rfl⟩
  | applicationQueryTransport id index count status time => exact ⟨spent.recordTransport sized id index count status time, rfl⟩
  | configureUserDrivetrain geometry => exact ⟨spent, rfl⟩
  | reset => exact absurd rfl connected

private theorem spent_run (past : List DecoderStep) (truthful : Truthful past decoder)
    (spent : decoder.refloatDiscovery.query.Spent) (inputs : List VescDecoderInput)
    (connected : ∀ step ∈ Runs.history (VescNotificationDecoder.step vesc) decoder inputs, step.input ≠ .reset) :
    ∀ step ∈ Runs.history (VescNotificationDecoder.step vesc) decoder inputs, queriesOf step = [] := by
  induction inputs generalizing decoder past with
  | nil => simp [Runs.history]
  | cons input inputs ih =>
    simp only [Runs.history, List.forall_mem_cons] at connected ⊢
    obtain ⟨spent', none⟩ := @spent_step vesc decoder spent truthful.sized input connected.1
    exact ⟨none, ih _ (truthful.step input) spent' connected.2⟩

end Steps

/-- The query of that identity is the one the decoder holds; a queued one is not asked later than the receipt. -/
def Holds (decoder : VescNotificationDecoder) (id time : Nat) : Prop :=
  match decoder.refloatDiscovery.query with
  | .queued query => query.write.id = id ∧ query.emittedAtMs ≤ time
  | .awaiting other _ _ | .responseExpired other | .resolved other | .knownUnsent other | .partialUncertain other =>
    other = id
  | .notRequested => False

theorem Holds.spent {decoder : VescNotificationDecoder} {id index count time : Nat} (holds : Holds decoder id time)
    (sized : ∀ query, decoder.refloatDiscovery.query = .queued query →
      query.submitted.length = maxApplicationQueryFragments)
    (sent : status = .submitted ∨ status = .submissionUnknown) :
    (decoder.refloatDiscovery.query.recordTransport id index count status time).1.Spent := by
  unfold Holds at holds
  cases progress : decoder.refloatDiscovery.query with
  | notRequested =>
    rw [progress] at holds
    cases holds
  | queued query =>
    rw [progress] at holds sized
    exact ApplicationQueryProgress.recordTransport_spent sized (.inl ⟨query, rfl, holds.1, holds.2⟩) sent
  | knownUnsent other =>
    rw [progress] at holds
    subst holds
    exact ApplicationQueryProgress.recordTransport_spent (by simp) (.inr rfl) sent
  | _ => trivial

/-- Query identities grow and are never reused; a query awaits its response only after all its fragments were
reported submitted in time; absence by timeout needs such a submission and a response interval without any
announcement; and a receipt for the held query that says a fragment is out keeps every further query back
until the next reset. -/
theorem discovery_query_never_lies (vesc : VescCrate) (profile : Option VescBoardProfile)
    (inputs : List VescDecoderInput) :
    let history := Runs.history (VescNotificationDecoder.step vesc) (.fresh profile) inputs
    let decoder := Runs.final (VescNotificationDecoder.step vesc) (.fresh profile) inputs
    ((history.flatMap queriesOf).Pairwise fun earlier later => earlier.id < later.id) ∧
      (∀ id submittedAt deadline, decoder.refloatDiscovery.query = .awaiting id submittedAt deadline →
        ∃ write since later, write.id = id ∧ Asked history write since ∧ Completed since write submittedAt later) ∧
      (decoder.refloatDiscovery.observed = none → decoder.refloatDiscovery.application = .absent →
        ∃ write since later submittedAt, Asked history write since ∧ Completed since write submittedAt later ∧
          (∃ step ∈ later, ∃ reading, clock step = some reading ∧
            saturatingAdd submittedAt refloatDiscoveryTimeoutMs ≤ reading) ∧
          ∀ step ∈ since, announces step = false) ∧
      ∀ earlier receipt later, history = earlier ++ receipt :: later →
        ∀ id index count status time, receipt.input = .applicationQueryTransport id index count status time →
          (status = .submitted ∨ status = .submissionUnknown) → Holds receipt.before id time →
          (∀ step ∈ later, step.input ≠ .reset) → ∀ step ∈ later, queriesOf step = [] := by
  have start : Truthful [] (.fresh profile) := ⟨by simp, by simp, .of_moot trivial⟩
  have truthful (inputs : List VescDecoderInput) :
      Truthful (Runs.history (VescNotificationDecoder.step vesc) (.fresh profile) inputs)
        (Runs.final (VescNotificationDecoder.step vesc) (.fresh profile) inputs) :=
    Runs.induction_on start (fun _ _ input kept => kept.step input) inputs
  have supported := (truthful inputs).supported
  refine ⟨(truthful inputs).increasing, ?_, ?_, ?_⟩
  · intro id submittedAt deadline awaiting
    rw [awaiting] at supported
    obtain ⟨-, write, since, later, same, asked, completed, -⟩ := supported
    exact ⟨write, since, later, same, asked, completed⟩
  · intro unheard absent
    unfold RefloatDiscovery.application at absent
    rw [unheard] at absent supported
    split at absent
    · rename_i none
      cases none
    · rename_i expired
      rw [expired] at supported
      obtain ⟨write, since, later, submittedAt, -, asked, completed, elapsed, silent⟩ := supported
      exact ⟨write, since, later, submittedAt, asked, completed, elapsed, silent rfl⟩
    · cases absent
  · intro earlier receipt later split id index count status time input sent holds connected
    obtain ⟨first, last, -, -, same, tail⟩ := Runs.history_split split
    have before := truthful first
    rw [same] at holds
    rw [input] at same
    have spent : receipt.after.refloatDiscovery.query.Spent := by
      rw [same]
      exact Holds.spent holds before.sized sent
    obtain ⟨past, after⟩ : ∃ past, Truthful past receipt.after := by
      rw [same]
      exact ⟨_, before.step _⟩
    rw [tail] at connected ⊢
    exact spent_run past after spent last connected

def controllerReply : Bool → List Byte
  | false => [2, 6, 50, 0, 2, 0, 0, 1, 89, 133, 3]
  | true => [2, 6, 50, 0, 2, 0, 0, 2, 105, 230, 3]

/-- A receipt for a query that was retired unsent with its controller does not hold back the next query. -/
theorem receipt_for_retired_query_is_ignored :
    (Runs.history (VescNotificationDecoder.step .silent) (.fresh none)
      [.requestTelemetry, .notification (controllerReply false) 10, .notification (controllerReply true) 20,
        .applicationQueryTransport 1 0 1 .submitted 30, .tick 200]).map queriesOf =
      [[⟨1, 5000⟩], [], [], [], [⟨2, 5200⟩]] := by
  decide +kernel

end Cutout.Protocols
