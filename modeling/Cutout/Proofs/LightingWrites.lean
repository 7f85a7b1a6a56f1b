import Cutout.Proofs.LightingSession

/-! What becomes of queued lighting writes. A ledger numbers the accepted writes and says
of each whether it was sent, replaced by a later colour, discarded with its session or
still waits; the waiting numbers always name the writes in the session's queue. -/

namespace Cutout.Lighting
open Library SessionReducer
variable {past : List LightingStep} {here : LightingStep} {number : Nat}

namespace LightingStep

def initialWrites (here : LightingStep) : List LightingWrite :=
  if here.after.state = .discovering then here.written.map Prod.snd else []

def userWrites (here : LightingStep) : List LightingWrite :=
  if here.after.state = .ready then here.written.map Prod.snd else []

def accepted (here : LightingStep) : List LightingWrite :=
  match here.input, here.output with
  | .queueWrites asked, .answered true => asked
  | _, _ => []

end LightingStep

def acceptedWrites (past : List LightingStep) : List LightingWrite := past.flatMap LightingStep.accepted

def userWrites (past : List LightingStep) : List LightingWrite := past.flatMap LightingStep.userWrites

/-- The initialization writes sent since the characteristics were last discovered. -/
def initializedSince (past : List LightingStep) : List LightingWrite :=
  past.foldl (fun sent here => if here.verifies then [] else sent ++ here.initialWrites) []

section Past
variable (past : List LightingStep) (here : LightingStep)

@[simp] theorem acceptedWrites_snoc : acceptedWrites (past ++ [here]) = acceptedWrites past ++ here.accepted := by
  simp [acceptedWrites]

@[simp] theorem userWrites_snoc : userWrites (past ++ [here]) = userWrites past ++ here.userWrites := by
  simp [userWrites]

theorem initializedSince_snoc :
    initializedSince (past ++ [here]) = if here.verifies then [] else initializedSince past ++ here.initialWrites := by
  simp [initializedSince]

end Past

namespace Turn
variable {here : LightingStep}

/-- Each write goes to the selected accessory, out of the queue its state allows. -/
theorem sends (turn : Turn here) : here.written = [] ∨ ∃ identifier write, here.written = [(identifier, write)] ∧
    here.after.selectedIdentifier = some identifier ∧ here.after.gatt = .subscribed ∧
    (here.before.state = .discovering ∧ here.after.state = .discovering ∧
        here.before.initialization = write :: here.after.initialization ∨
      here.after.state = .ready ∧ here.before.writes = write :: here.after.writes) := by
  cases turn with
  | calm _ _ _ _ _ _ _ quiet | left _ _ _ _ _ quiet | verified _ _ _ _ _ _ _ quiet | subscribed _ _ _ _ _ _ _ quiet =>
    exact .inl quiet
  | initialized identifier write before state verified gatt purpose selected queued writes wrote =>
    exact .inr ⟨identifier, write, wrote, selected, gatt, .inl ⟨before, state, queued⟩⟩
  | readied _ _ _ _ _ _ _ _ _ quiet => exact .inl quiet
  | wrote identifier write before subscribed state gatt initialization purpose selected queued timer paced wrote =>
    exact .inr ⟨identifier, write, wrote, selected, gatt, .inr ⟨state, queued⟩⟩
  | ticked _ _ _ _ _ _ _ _ _ quiet | queued _ _ _ _ _ _ _ _ _ _ quiet => exact .inl quiet

theorem not_verifies_of_gatt (other : here.after.gatt ≠ .verified) : here.verifies = false := by
  unfold LightingStep.verifies
  split
  · simp [other]
  · rfl

theorem initialWrites_quiet (quiet : here.written = []) : here.initialWrites = [] := by
  simp [LightingStep.initialWrites, quiet]

theorem userWrites_quiet (quiet : here.written = []) : here.userWrites = [] := by
  simp [LightingStep.userWrites, quiet]

end Turn

/-- While an accessory is verified, what was sent and what is queued make up the sequence. -/
structure Initialized (past : List LightingStep) (session : SessionReducer) : Prop where
  sent : initializedSince past <+: initializationActions
  rest : session.gatt ≠ .unverified → initializedSince past ++ session.initialization = initializationActions

theorem Initialized.kept (initialized : Initialized past here.before) (other : here.verifies = false)
    (quiet : here.initialWrites = []) (rest : here.after.gatt ≠ .unverified → here.before.gatt ≠ .unverified ∧
      here.after.initialization = here.before.initialization) : Initialized (past ++ [here]) here.after := by
  have same : initializedSince (past ++ [here]) = initializedSince past := by
    rw [initializedSince_snoc, other, quiet]
    simp
  refine ⟨same ▸ initialized.sent, ?_⟩
  intro verified
  obtain ⟨before, equal⟩ := rest verified
  rw [same, equal]
  exact initialized.rest before

theorem Initialized.step (initialized : Initialized past here.before) (turn : Turn here) :
    Initialized (past ++ [here]) here.after := by
  cases turn with
  | calm _ _ gatt initialization _ _ other quiet | ticked _ _ _ _ _ gatt initialization _ other quiet =>
    exact initialized.kept other (Turn.initialWrites_quiet quiet) fun verified => ⟨gatt ▸ verified, initialization⟩
  | left state writes initialization gatt status quiet =>
    refine initialized.kept (Turn.not_verifies_of_gatt (by simp [gatt])) (Turn.initialWrites_quiet quiet) ?_
    exact fun verified => absurd gatt verified
  | verified before state purpose gatt initialization writes verifies quiet =>
    have none : initializedSince (past ++ [here]) = [] := by rw [initializedSince_snoc, if_pos verifies]
    refine ⟨none ▸ List.nil_prefix, fun _ => ?_⟩
    rw [none, initialization]
    rfl
  | subscribed before state purpose gatt initialization writes timer quiet =>
    refine initialized.kept (Turn.not_verifies_of_gatt (by simp [gatt])) (Turn.initialWrites_quiet quiet) ?_
    exact fun _ => ⟨before, initialization⟩
  | initialized identifier write before state verified gatt purpose selected queued writes wrote =>
    have other : here.verifies = false := Turn.not_verifies_of_gatt (by simp [gatt])
    have rest := initialized.rest verified
    have sent : initializedSince (past ++ [here]) = initializedSince past ++ [write] := by
      rw [initializedSince_snoc, other]
      simp [LightingStep.initialWrites, state, wrote]
    rw [queued] at rest
    refine ⟨⟨here.after.initialization, ?_⟩, fun _ => ?_⟩
    all_goals
      rw [sent, List.append_assoc]
      exact rest
  | readied before verified empty state gatt initialization purpose timer writes quiet =>
    refine initialized.kept (Turn.not_verifies_of_gatt (by simp [gatt])) (Turn.initialWrites_quiet quiet) ?_
    exact fun _ => ⟨verified, initialization.trans empty.symm⟩
  | wrote identifier write before subscribed state gatt initialization purpose selected queued timer paced wrote =>
    refine initialized.kept (Turn.not_verifies_of_gatt (by simp [gatt])) ?_ ?_
    · simp [LightingStep.initialWrites, state]
    · exact fun _ => ⟨by simp [subscribed], initialization⟩
  | queued asked called answered state purpose gatt initialization timer writes bounded quiet =>
    refine initialized.kept ?_ (Turn.initialWrites_quiet quiet) fun verified => ⟨gatt ▸ verified, initialization⟩
    simp [LightingStep.verifies, called]

structure WriteLedger where
  accepted : List LightingWrite := []
  waiting : List Nat := []
  sent : List Nat := []
  replaced : List Nat := []
  discarded : List Nat := []
  deriving Repr, DecidableEq

namespace WriteLedger

def isColor (ledger : WriteLedger) (number : Nat) : Bool := ledger.accepted[number]?.any isCoalescibleColorWrite

/-- New writes wait behind the old ones; a new colour replaces the waiting ones. -/
def queue (ledger : WriteLedger) (asked : List LightingWrite) : WriteLedger :=
  { ledger with
    accepted := ledger.accepted ++ asked
    waiting := (if asked.any isCoalescibleColorWrite then ledger.waiting.filter fun number => !ledger.isColor number
      else ledger.waiting) ++ List.range' ledger.accepted.length asked.length
    replaced := ledger.replaced ++
      if asked.any isCoalescibleColorWrite then ledger.waiting.filter ledger.isColor else [] }

/-- Writes that were sent leave the front; what an emptied queue still held is discarded. -/
def advance (ledger : WriteLedger) (sent : Nat) (emptied : Bool) : WriteLedger :=
  { ledger with
    sent := ledger.sent ++ ledger.waiting.take sent
    waiting := if emptied then [] else ledger.waiting.drop sent
    discarded := ledger.discarded ++ if emptied then ledger.waiting.drop sent else [] }

def take (ledger : WriteLedger) (here : LightingStep) : WriteLedger :=
  match here.input, here.output with
  | .queueWrites asked, .answered true => ledger.queue asked
  | _, _ => ledger.advance here.userWrites.length here.after.writes.isEmpty

def of (past : List LightingStep) : WriteLedger := past.foldl take {}

@[simp] theorem of_snoc (past : List LightingStep) (here : LightingStep) : of (past ++ [here]) = (of past).take here := by
  simp [of]

end WriteLedger

/-- A later call that brought a colour replaced the write, itself a colour. -/
def ReplacedIn (past : List LightingStep) (number : Nat) : Prop :=
  ∃ early here late, past = early ++ here :: late ∧ here.accepted.any isCoalescibleColorWrite = true ∧
    ∃ write, (acceptedWrites early)[number]? = some write ∧ write ∈ here.before.writes ∧
      isCoalescibleColorWrite write = true

/-- The write was waiting when the session moved to a state other than ready. -/
def DiscardedIn (past : List LightingStep) (number : Nat) : Prop :=
  ∃ early here late, past = early ++ here :: late ∧ here.after.state ≠ .ready ∧ here.after.writes = [] ∧
    ∃ write, (acceptedWrites early)[number]? = some write ∧ write ∈ here.before.writes

theorem ReplacedIn.extend (replaced : ReplacedIn past number) (here : LightingStep) :
    ReplacedIn (past ++ [here]) number := by
  obtain ⟨early, call, late, rfl, color, write⟩ := replaced
  exact ⟨early, call, late ++ [here], by simp, color, write⟩

theorem DiscardedIn.extend (discarded : DiscardedIn past number) (here : LightingStep) :
    DiscardedIn (past ++ [here]) number := by
  obtain ⟨early, call, late, rfl, moved, empty, known⟩ := discarded
  exact ⟨early, call, late ++ [here], by simp, moved, empty, known⟩

/-- The ledger says what became of every write, and the session's queue is its waiting part. -/
structure Tracked (past : List LightingStep) (session : SessionReducer) (ledger : WriteLedger) : Prop where
  accepted : ledger.accepted = acceptedWrites past
  queue : (ledger.waiting.map fun number => ledger.accepted[number]?) = session.writes.map some
  divided : (ledger.sent ++ ledger.replaced ++ ledger.discarded ++ ledger.waiting).Perm (List.range ledger.accepted.length)
  ordered : (ledger.sent ++ ledger.waiting).Pairwise (· < ·)
  sent : (ledger.sent.map fun number => ledger.accepted[number]?) = (userWrites past).map some
  replaced : ∀ number ∈ ledger.replaced, ReplacedIn past number
  discarded : ∀ number ∈ ledger.discarded, DiscardedIn past number

theorem Tracked.initial : Tracked [] {} {} := by
  refine ⟨rfl, rfl, .refl _, .nil, rfl, ?_, ?_⟩
  all_goals
    intro number member
    cases member

theorem Turn.flow (turn : Turn here) (idle : here.accepted = [] ∧
    ∀ asked, here.input = .queueWrites asked → here.after.writes = here.before.writes ∧ here.written = []) :
    here.before.writes = here.userWrites ++ here.after.writes ∨
      here.userWrites = [] ∧ here.after.writes = [] ∧ here.after.state ≠ .ready := by
  cases turn with
  | calm _ _ _ _ writes _ _ quiet => exact .inl (by rw [Turn.userWrites_quiet quiet, writes]; rfl)
  | left state writes _ _ _ quiet => exact .inr ⟨Turn.userWrites_quiet quiet, writes, state⟩
  | verified _ _ _ _ _ writes _ quiet | subscribed _ _ _ _ _ writes _ quiet =>
    exact .inl (by rw [Turn.userWrites_quiet quiet, writes]; rfl)
  | initialized identifier write before state verified gatt purpose selected queued writes wrote =>
    exact .inl (by simp [LightingStep.userWrites, state, writes])
  | readied _ _ _ _ _ _ _ _ writes quiet | ticked _ _ _ _ _ _ _ writes _ quiet =>
    exact .inl (by rw [Turn.userWrites_quiet quiet, writes]; rfl)
  | wrote identifier write before subscribed state gatt initialization purpose selected queued timer paced wrote =>
    exact .inl (by simp [LightingStep.userWrites, state, wrote, queued])
  | queued asked called =>
    obtain ⟨writes, quiet⟩ := idle.2 asked called
    exact .inl (by rw [Turn.userWrites_quiet quiet, writes]; rfl)

namespace Tracked
variable {past : List LightingStep} {here : LightingStep} {ledger : WriteLedger}

theorem waiting_lt {session : SessionReducer} (tracked : Tracked past session ledger) :
    ∀ number ∈ ledger.sent ++ ledger.replaced ++ ledger.discarded ++ ledger.waiting, number < ledger.accepted.length := by
  intro number member
  rwa [tracked.divided.mem_iff, List.mem_range] at member

theorem waits {session : SessionReducer} (tracked : Tracked past session ledger) (member : number ∈ ledger.waiting) :
    ∃ write, (acceptedWrites past)[number]? = some write ∧ write ∈ session.writes := by
  have named : ledger.accepted[number]? ∈ session.writes.map some := by
    rw [← tracked.queue]
    exact List.mem_map_of_mem member
  obtain ⟨write, queued, same⟩ := List.mem_map.mp named
  exact ⟨write, by rw [← tracked.accepted, same], queued⟩

/-- Nothing new is queued: writes leave at the front, or all at once. -/
theorem advances (tracked : Tracked past here.before ledger) (idle : here.accepted = [])
    (flow : here.before.writes = here.userWrites ++ here.after.writes ∨
      here.userWrites = [] ∧ here.after.writes = [] ∧ here.after.state ≠ .ready) :
    Tracked (past ++ [here]) here.after (ledger.advance here.userWrites.length here.after.writes.isEmpty) := by
  have accepted : ledger.accepted = acceptedWrites (past ++ [here]) := by
    rw [acceptedWrites_snoc, idle, List.append_nil]
    exact tracked.accepted
  have replaced : ∀ number ∈ ledger.replaced, ReplacedIn (past ++ [here]) number :=
    fun number member => (tracked.replaced number member).extend here
  have discarded : ∀ number ∈ ledger.discarded, DiscardedIn (past ++ [here]) number :=
    fun number member => (tracked.discarded number member).extend here
  have parts := List.take_append_drop here.userWrites.length ledger.waiting
  rcases flow with front | ⟨none, empty, moved⟩
  · have queue := tracked.queue
    rw [front, ← parts, List.map_append, List.map_append] at queue
    have long : here.userWrites.length ≤ ledger.waiting.length := by
      have lengths := congrArg List.length tracked.queue
      simp only [List.length_map, front, List.length_append] at lengths
      omega
    obtain ⟨first, rest⟩ := List.append_inj queue (by simp [long])
    have dropped : (if here.after.writes.isEmpty then [] else ledger.waiting.drop here.userWrites.length) =
          ledger.waiting.drop here.userWrites.length ∧
        (if here.after.writes.isEmpty then ledger.waiting.drop here.userWrites.length else []) = [] := by
      cases after : here.after.writes with
      | nil =>
        rw [after] at rest
        simp only [List.map_nil, List.map_eq_nil_iff] at rest
        simp [rest]
      | cons write later => simp
    unfold WriteLedger.advance
    rw [dropped.1, dropped.2, List.append_nil]
    refine ⟨accepted, rest, ?_, ?_, ?_, replaced, discarded⟩
    · refine List.Perm.trans ?_ tracked.divided
      rw [List.perm_iff_count]
      intro number
      have counted := congrArg (List.count number) parts
      simp only [List.count_append] at counted ⊢
      omega
    · rw [List.append_assoc, parts]
      exact tracked.ordered
    · rw [List.map_append, tracked.sent, first, userWrites_snoc, List.map_append]
  · unfold WriteLedger.advance
    rw [none, empty]
    simp only [List.length_nil, List.take_zero, List.append_nil, List.isEmpty_nil, if_true, List.drop_zero]
    refine ⟨accepted, by rw [empty]; rfl, ?_, ?_, ?_, replaced, ?_⟩
    · simpa [List.append_assoc] using tracked.divided
    · rw [List.append_nil]
      exact (List.pairwise_append.mp tracked.ordered).1
    · rw [userWrites_snoc, none, List.append_nil]
      exact tracked.sent
    · intro number member
      rcases List.mem_append.mp member with before | now
      · exact discarded number before
      · exact ⟨past, here, [], rfl, moved, empty, tracked.waits now⟩

end Tracked

theorem filter_named {numbers : List Nat} {writes : List LightingWrite} {name : Nat → Option LightingWrite}
    (named : numbers.map name = writes.map some) (keep : LightingWrite → Bool) :
    (numbers.filter fun number => !(name number).any fun write => !keep write).map name = (writes.filter keep).map some := by
  induction numbers generalizing writes with
  | nil =>
    have none : writes = [] := by simpa using named.symm
    subst none
    rfl
  | cons number numbers ih =>
    cases writes with
    | nil => simp at named
    | cons write writes =>
      simp only [List.map_cons, List.cons.injEq] at named
      obtain ⟨first, rest⟩ := named
      rw [List.filter_cons, List.filter_cons, first]
      cases kept : keep write with
      | true => simp [first, kept, ih rest]
      | false => simp [kept, ih rest]

theorem getElem?_range'_append (first second : List LightingWrite) :
    ((List.range' first.length second.length).map fun number => (first ++ second)[number]?) = second.map some := by
  apply List.ext_getElem?
  intro index
  by_cases inside : index < second.length
  · simp [inside]
  · simp [inside]

namespace Tracked
variable {past : List LightingStep} {here : LightingStep} {ledger : WriteLedger}

theorem queues (tracked : Tracked past here.before ledger) {asked : List LightingWrite} (accepted : here.accepted = asked)
    (quiet : here.userWrites = []) (writes : here.after.writes = Takes.retained here.before asked ++ asked) :
    Tracked (past ++ [here]) here.after (ledger.queue asked) := by
  have known := tracked.waiting_lt
  have same {number : Nat} (inside : number < ledger.accepted.length) :
      (ledger.accepted ++ asked)[number]? = ledger.accepted[number]? := List.getElem?_append_left inside
  have waits : ∀ number ∈ ledger.waiting, number < ledger.accepted.length :=
    fun number member => known number (List.mem_append_right _ member)
  have went : ∀ number ∈ ledger.sent, number < ledger.accepted.length :=
    fun number member => known number (by simp [member])
  generalize keeps : (if asked.any isCoalescibleColorWrite then ledger.waiting.filter fun number => !ledger.isColor number
    else ledger.waiting) = kept
  generalize drops : (if asked.any isCoalescibleColorWrite then ledger.waiting.filter ledger.isColor else []) = dropped
  have sublist : kept.Sublist ledger.waiting := by
    rw [← keeps]
    split
    · exact List.filter_sublist
    · exact .refl _
  have parted : (dropped ++ kept).Perm ledger.waiting := by
    rw [← keeps, ← drops]
    split
    · exact List.filter_append_perm _ _
    · exact .refl _
  have named : (kept.map fun number => ledger.accepted[number]?) = (Takes.retained here.before asked).map some := by
    rw [← keeps, Takes.retained]
    split
    · have filtered := filter_named tracked.queue fun write => !isCoalescibleColorWrite write
      simpa [WriteLedger.isColor] using filtered
    · exact tracked.queue
  have colors : ∀ number ∈ dropped, asked.any isCoalescibleColorWrite = true ∧
      ∃ write, (acceptedWrites past)[number]? = some write ∧ write ∈ here.before.writes ∧
        isCoalescibleColorWrite write = true := by
    intro number member
    rw [← drops] at member
    split at member
    · next color =>
      obtain ⟨waited, isColor⟩ := List.mem_filter.mp member
      obtain ⟨write, found, queued⟩ := tracked.waits waited
      rw [WriteLedger.isColor, tracked.accepted, found] at isColor
      exact ⟨color, write, found, queued, isColor⟩
    · cases member
  unfold WriteLedger.queue
  rw [keeps, drops]
  refine ⟨?_, ?_, ?_, ?_, ?_, ?_, ?_⟩
  · rw [acceptedWrites_snoc, accepted, tracked.accepted]
  · have before : (kept.map fun number => (ledger.accepted ++ asked)[number]?) =
        kept.map fun number => ledger.accepted[number]? := by
      apply List.map_congr_left
      intro number member
      exact same (waits number (sublist.subset member))
    rw [List.map_append, before, named, getElem?_range'_append, writes, List.map_append]
  · have grown : List.range (ledger.accepted.length + asked.length) =
        List.range ledger.accepted.length ++ List.range' ledger.accepted.length asked.length := by
      rw [List.range_eq_range', List.range_eq_range', ← List.range'_append_1, Nat.zero_add]
    dsimp only
    rw [List.length_append, grown]
    refine List.Perm.trans ?_ (tracked.divided.append_right _)
    rw [List.perm_iff_count] at parted ⊢
    intro number
    have counted := parted number
    simp only [List.count_append] at counted ⊢
    omega
  · dsimp only
    rw [← List.append_assoc]
    refine List.pairwise_append.mpr ⟨?_, List.pairwise_lt_range', ?_⟩
    · exact tracked.ordered.sublist ((List.Sublist.refl _).append sublist)
    · intro number member later new
      have least := (List.mem_range'_1.mp new).1
      have before : number < ledger.accepted.length := by
        rcases List.mem_append.mp member with gone | left
        · exact went number gone
        · exact waits number (sublist.subset left)
      omega
  · rw [userWrites_snoc, quiet, List.append_nil, ← tracked.sent]
    apply List.map_congr_left
    intro number member
    exact same (went number member)
  · intro number member
    rcases List.mem_append.mp member with before | now
    · exact (tracked.replaced number before).extend here
    · obtain ⟨color, write⟩ := colors number now
      exact ⟨past, here, [], rfl, accepted ▸ color, write⟩
  · exact fun number member => (tracked.discarded number member).extend here

end Tracked

end Cutout.Lighting
