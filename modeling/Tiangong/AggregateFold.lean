import Mathlib.Data.List.Induction
import Tiangong.EventLog

/-!
# Aggregates are folds of their accepted events

Every aggregate is where its initial snapshot is taken to by the events that the log holds as
accepted, in the order of the log. A refused call leaves no trace, and a row of the outbox is linked
to an event exactly when the event was accepted and brought it.
-/
namespace Tiangong

open List EventRow EventOutboxLink Machine

def LeadsTo (s : StateSnapshot) : List EventRow → StateSnapshot → Prop
  | [], t => s = t
  | row :: rows, t =>
    row.decision = applyTransition s row.event false ∧ row.accepted = true ∧
      LeadsTo row.decision.current rows t

namespace LeadsTo

variable {s t : StateSnapshot} {rows : List EventRow}

theorem concat (h : LeadsTo s rows t) {row : EventRow}
    (hdecision : row.decision = applyTransition t row.event false) (hrow : row.accepted = true) :
    LeadsTo s (rows ++ [row]) row.decision.current := by
  induction rows generalizing s with
  | nil =>
    have hs : s = t := h
    subst hs
    exact ⟨hdecision, hrow, rfl⟩
  | cons first rows ih =>
    obtain ⟨hfirst, haccepted, hrest⟩ := h
    exact ⟨hfirst, haccepted, ih hrest⟩

/-- The snapshot is the fold of the events. -/
lemma foldl_eq (h : LeadsTo s rows t) :
    rows.foldl (fun s row => (applyTransition s row.event false).current) s = t := by
  induction rows generalizing s with
  | nil => exact h
  | cons row rows ih =>
    obtain ⟨hdecision, -, hrest⟩ := h
    rw [foldl_cons, ← hdecision]
    exact ih hrest

lemma step_revision {row : EventRow} (hdecision : row.decision = applyTransition s row.event false)
    (hrow : row.accepted = true) :
    row.event.expectedRevision = s.revision ∧ row.resultingRevision = s.revision + 1 := by
  rw [accepted, hdecision] at hrow
  have hfits := (applyTransition_accepted_iff.mp hrow).1
  obtain ⟨hadmitted, hcurrent⟩ := applyTransition_applied hrow
  refine ⟨hfits.revision, ?_⟩
  rw [resultingRevision, hdecision, hcurrent]
  rfl

/-- The events count the revisions up one by one. -/
theorem revisions (h : LeadsTo s rows t) :
    rows.map (fun row => row.event.expectedRevision) = List.range' s.revision rows.length ∧
      rows.map resultingRevision = List.range' (s.revision + 1) rows.length ∧
      t.revision = s.revision + rows.length := by
  induction rows generalizing s with
  | nil =>
    have hs : s = t := h
    subst hs
    exact ⟨rfl, rfl, rfl⟩
  | cons row rows ih =>
    obtain ⟨hdecision, hrow, hrest⟩ := h
    obtain ⟨hexpected, hresulting⟩ := step_revision hdecision hrow
    obtain ⟨hexpecteds, hresultings, hlast⟩ := ih hrest
    have hcurrent : row.decision.current.revision = s.revision + 1 := hresulting
    rw [hcurrent] at hexpecteds hresultings hlast
    refine ⟨?_, ?_, ?_⟩
    · rw [map_cons, hexpected, hexpecteds, length_cons, List.range'_succ]
    · rw [map_cons, hresulting, hresultings, length_cons, List.range'_succ]
    · rw [hlast, length_cons]
      omega

end LeadsTo

namespace EventStore

variable {s s' : EventStore}

/-- The accepted log rows of an aggregate, in the order of the log. -/
def acceptedRows (s : EventStore) (k : MachineName × String) : List EventRow :=
  s.log.rows.filter fun r => r.accepted && r.offeredTo k

/-- The event is linked to an outbox row with the intent. -/
def Links (s : EventStore) (eventId : String) (intent : SignedIntent) : Prop :=
  (∃ row ∈ s.outbox.rows, row.intent = intent) ∧
    (⟨eventId, intent.outboxId⟩ : EventOutboxLink) ∈ s.eventOutbox.rows

lemma initializeSnapshot_cases {snapshot : StateSnapshot} {created : Bool}
    (h : s.initializeSnapshot snapshot = .ok (created, s')) :
    (created = false ∧ s' = s) ∨
      (created = true ∧ snapshot.revision = 0 ∧ snapshot.lastEventId = none ∧
        ∃ aggregates, s.aggregates.Inserts ⟨snapshot.machine, snapshot.entityId, snapshot⟩ aggregates ∧
          s' = { s with aggregates := aggregates }) := by
  unfold initializeSnapshot at h
  cases hfound : s.aggregates.find (snapshot.machine, snapshot.entityId) with
  | some row =>
    simp only [hfound, eq_ok_iff] at h
    obtain ⟨-, -, ⟨⟩⟩ := h
    exact .inl ⟨rfl, rfl⟩
  | none =>
    simp only [hfound, eq_ok_iff] at h
    obtain ⟨hfirst, aggregates, hinsert, ⟨⟩⟩ := h
    rw [not_or, not_not, not_not] at hfirst
    exact .inr ⟨rfl, hfirst.1, hfirst.2, aggregates, Table.insert_eq_ok.mp hinsert, rfl⟩

lemma insertEventRow_cases {row : EventRow} (h : s.insertEventRow row = .ok s') :
    ∃ log, s.log.Inserts row log ∧ s' = { s with log := log } := by
  simp only [insertEventRow, eq_ok_iff] at h
  obtain ⟨-, log, hinsert, rfl⟩ := h
  exact ⟨log, Table.insert_eq_ok.mp hinsert, rfl⟩

variable {event : TransitionEvent}

lemma updateAggregate_cases {current : StateSnapshot}
    (h : s.updateAggregate event current = .ok s') {row : AggregateState}
    (hrow : s.aggregates.find (event.machine, event.entityId) = some row) :
    ∃ aggregates, s' = { s with aggregates := aggregates } ∧
      ∀ k, aggregates.find k = if k = (event.machine, event.entityId)
        then some { row with snapshot := current } else s.aggregates.find k := by
  simp only [updateAggregate, eq_ok_iff] at h
  obtain ⟨-, aggregates, hupdate, rfl⟩ := h
  exact ⟨aggregates, rfl, (Table.updateOne_find hupdate hrow).2⟩

lemma insertIntents_cases {eventId : String} {intents : List SignedIntent}
    (h : s.insertIntents eventId intents = .ok s') :
    ∃ outbox eventOutbox, s' = { s with outbox := outbox, eventOutbox := eventOutbox } ∧
      outbox.rows = s.outbox.rows ++ intents.map SignedIntent.row ∧
      eventOutbox.rows = s.eventOutbox.rows ++ intents.map fun i => ⟨eventId, i.outboxId⟩ := by
  induction intents generalizing s with
  | nil =>
    cases h
    exact ⟨s'.outbox, s'.eventOutbox, rfl, by simp, by simp⟩
  | cons intent intents ih =>
    simp only [insertIntents, bind_eq_ok] at h
    obtain ⟨outbox, hinsert, eventOutbox, hlink, hrest⟩ := h
    obtain ⟨outbox', eventOutbox', rfl, houtbox, hlinks⟩ := ih hrest
    refine ⟨outbox', eventOutbox', rfl, ?_, ?_⟩
    · rw [houtbox, IndexedTable.insert_rows hinsert, append_assoc]
      rfl
    · rw [hlinks, (Table.insert_eq_ok.mp hlink).rows, append_assoc]
      rfl

lemma insertCoordinationRow_cases {stateEventId : Option String} {event : CoordinationEvent}
    (h : s.insertCoordinationRow stateEventId event = .ok s') :
    ∃ coordination, s' = { s with coordination := coordination } := by
  unfold insertCoordinationRow at h
  split at h
  · simp only [eq_ok_iff] at h
    obtain ⟨-, rfl⟩ := h
    exact ⟨s.coordination, rfl⟩
  · simp only [eq_ok_iff] at h
    obtain ⟨coordination, -, rfl⟩ := h
    exact ⟨coordination, rfl⟩

lemma insertCoordination_cases {stateEventId : String} {events : List CoordinationEvent}
    (h : s.insertCoordination stateEventId events = .ok s') :
    ∃ coordination, s' = { s with coordination := coordination } := by
  induction events generalizing s with
  | nil =>
    cases h
    exact ⟨s'.coordination, rfl⟩
  | cons event events ih =>
    simp only [insertCoordination, bind_eq_ok] at h
    obtain ⟨t, hrow, hrest⟩ := h
    obtain ⟨coordination, rfl⟩ := insertCoordinationRow_cases hrow
    obtain ⟨coordination', rfl⟩ := ih hrest
    exact ⟨coordination', rfl⟩

/-- What a call did that recorded an event: it logged the decision on the aggregate and, when it
accepted the event, moved the aggregate on and linked the intents. -/
structure Records (s : EventStore) (event : TransitionEvent) (intents : List SignedIntent)
    (recordedAtMs : ℕ) (decision : TransitionDecision) (s' : EventStore) : Prop where
  decided : ∃ row, s.aggregates.find (event.machine, event.entityId) = some row ∧
    decision = applyTransition row.snapshot event false
  logged : s.log.Inserts ⟨event, recordedAtMs, decision⟩ s'.log
  rejected : decision.accepted = false → s'.aggregates = s.aggregates ∧ s'.outbox = s.outbox ∧
    s'.eventOutbox = s.eventOutbox
  moved : decision.accepted = true → ∀ k, s'.aggregates.find k =
    if k = (event.machine, event.entityId)
    then some ⟨event.machine, event.entityId, decision.current⟩ else s.aggregates.find k
  queued : decision.accepted = true →
    s'.outbox.rows = s.outbox.rows ++ (orderIntents intents).map SignedIntent.row
  linked : decision.accepted = true → s'.eventOutbox.rows =
    s.eventOutbox.rows ++ (orderIntents intents).map fun i => ⟨event.eventId, i.outboxId⟩

variable {coordination : List CoordinationEvent} {result : StoreApplyResult}

lemma recordEvent_cases {intents : List SignedIntent} {recordedAtMs : ℕ}
    (h : s.recordEvent event (orderIntents intents) coordination recordedAtMs = .ok (result, s')) :
    result.persistedByThisCall = true ∧ result.duplicate = false ∧
      s.Records event intents recordedAtMs result.decision s' := by
  simp only [recordEvent, eq_ok_iff] at h
  obtain ⟨row, hrow, u, -, logged, hlogged, h⟩ := h
  obtain ⟨log, hlog, rfl⟩ := insertEventRow_cases hlogged
  by_cases haccepted : (applyTransition row.snapshot event false).accepted = true
  · simp only [haccepted, if_true, commitAccepted, eq_ok_iff] at h
    obtain ⟨t, ⟨moved, hmoved, queued, hqueued, hcoordination⟩, ⟨⟩⟩ := h
    obtain ⟨aggregates, rfl, haggregates⟩ := updateAggregate_cases hmoved hrow
    obtain ⟨outbox, eventOutbox, rfl, houtbox, hlinks⟩ := insertIntents_cases hqueued
    obtain ⟨rows, rfl⟩ := insertCoordination_cases hcoordination
    have hkey := Table.key_of_find hrow
    refine ⟨rfl, rfl, ⟨row, hrow, rfl⟩, hlog, ?_, ?_, fun _ => houtbox, fun _ => hlinks⟩
    · intro hrejected
      rw [haccepted] at hrejected
      cases hrejected
    · intro _ k
      rw [haggregates]
      simp only [AggregateState.key, Prod.mk.injEq] at hkey
      rw [hkey.1, hkey.2]
  · rw [Bool.not_eq_true] at haccepted
    simp only [haccepted, Bool.false_eq_true, if_false] at h
    obtain ⟨t, rfl, ⟨⟩⟩ := h
    refine ⟨rfl, rfl, ⟨row, hrow, rfl⟩, hlog, fun _ => ⟨rfl, rfl, rfl⟩, ?_, ?_, ?_⟩ <;>
    · intro htrue
      rw [haccepted] at htrue
      cases htrue

lemma replayEvent_result {row : EventRow} {intents : List SignedIntent}
    (h : s.replayEvent row event intents coordination = .ok result) :
    result = ⟨row.decision, false, true⟩ := by
  simp only [replayEvent, eq_ok_iff] at h
  obtain ⟨-, -, -, -, -, rfl⟩ := h
  rfl

/-- An accepted call repeats a logged event and changes nothing, or records a new one. -/
lemma applyEventWithOutbox_cases {intents : List SignedIntent} {recordedAtMs : ℕ}
    (h : s.applyEventWithOutbox event intents coordination recordedAtMs = .ok (result, s')) :
    (result.persistedByThisCall = false ∧ s' = s) ∨
      (result.persistedByThisCall = true ∧ result.duplicate = false ∧
        s.Records event intents recordedAtMs result.decision s') := by
  unfold applyEventWithOutbox at h
  cases hfound : s.log.find event.eventId with
  | some row =>
    simp only [hfound, eq_ok_iff] at h
    obtain ⟨-, -, -, _, -, -, _, -, answer, hreplay, ⟨⟩⟩ := h
    rw [replayEvent_result hreplay]
    exact .inl ⟨rfl, rfl⟩
  | none =>
    simp only [hfound, eq_ok_iff] at h
    obtain ⟨-, -, -, _, -, -, _, -, hrecord⟩ := h
    exact .inr (recordEvent_cases hrecord)

/-- Every aggregate is where the accepted rows of the log lead its initial snapshot to, and every
row of the log has its aggregate. -/
structure Based (opened : StateSnapshot → Prop) (s : EventStore) : Prop where
  folded : ∀ row ∈ s.aggregates.rows, ∃ s₀, opened s₀ ∧ s₀.revision = 0 ∧
    s₀.lastEventId = none ∧ (s₀.machine, s₀.entityId) = row.key ∧
      LeadsTo s₀ (s.acceptedRows row.key) row.snapshot
  owned : ∀ row ∈ s.log.rows,
    (s.aggregates.find (row.event.machine, row.event.entityId)).isSome = true

section Based

variable {opened opened' : StateSnapshot → Prop}

theorem Based.mono (h : s.Based opened) (hopened : ∀ s₀, opened s₀ → opened' s₀) :
    s.Based opened' where
  folded row hrow := by
    obtain ⟨s₀, hs₀, hrest⟩ := h.folded row hrow
    exact ⟨s₀, hopened s₀ hs₀, hrest⟩
  owned := h.owned

lemma acceptedRows_eq_nil {k : MachineName × String}
    (h : s.Based opened) (hfresh : s.aggregates.find k = none) : s.acceptedRows k = [] := by
  refine filter_eq_nil_iff.mpr ?_
  intro row hrow haccepted
  simp only [offeredTo, holds_iff] at haccepted
  have howned := h.owned row hrow
  rw [haccepted.2.1, haccepted.2.2, hfresh] at howned
  cases howned

/-- A new aggregate has no accepted event yet. -/
theorem Based.open (h : s.Based opened) {snapshot : StateSnapshot}
    {aggregates : Table AggregateState.key}
    (hinserts : s.aggregates.Inserts ⟨snapshot.machine, snapshot.entityId, snapshot⟩ aggregates)
    (hopened : opened snapshot) (hrevision : snapshot.revision = 0)
    (hfirst : snapshot.lastEventId = none) :
    { s with aggregates := aggregates }.Based opened where
  folded := by
    intro row hrow
    rw [hinserts.rows, mem_append, mem_singleton] at hrow
    rcases hrow with hrow | rfl
    · exact h.folded row hrow
    · refine ⟨snapshot, hopened, hrevision, hfirst, rfl, ?_⟩
      have hnone : s.acceptedRows (snapshot.machine, snapshot.entityId) = [] :=
        acceptedRows_eq_nil h hinserts.fresh
      show LeadsTo snapshot (s.acceptedRows (snapshot.machine, snapshot.entityId)) snapshot
      rw [hnone]
      exact rfl
  owned := by
    intro row hrow
    obtain ⟨found, hfound⟩ := Option.isSome_iff_exists.mp (h.owned row hrow)
    rw [hinserts.find_of_some hfound]
    rfl

/-- Another row of the log counts for an aggregate when it accepts an event of it. -/
lemma acceptedRows_insert {row : EventRow} (hlog : s.log.Inserts row s'.log)
    (k : MachineName × String) : s'.acceptedRows k =
      s.acceptedRows k ++ if (row.accepted && row.offeredTo k) = true then [row] else [] := by
  rw [acceptedRows, hlog.rows, filter_append, ← acceptedRows]
  congr 1
  by_cases hcounts : (row.accepted && row.offeredTo k) = true
  · rw [if_pos hcounts, filter_singleton, hcounts, cond_true]
  · rw [if_neg hcounts, filter_singleton, Bool.eq_false_of_not_eq_true hcounts, cond_false]

/-- An accepted event moves its own aggregate on; every other aggregate stays. -/
theorem Based.record (h : s.Based opened) {event : TransitionEvent} {intents : List SignedIntent}
    {recordedAtMs : ℕ} {decision : TransitionDecision}
    (hrecords : s.Records event intents recordedAtMs decision s') : s'.Based opened := by
  obtain ⟨own, hown, hdecision⟩ := hrecords.decided
  cases haccepted : decision.accepted with
  | false =>
    have haggregates := (hrecords.rejected haccepted).1
    refine ⟨?_, ?_⟩
    · intro row hrow
      rw [haggregates] at hrow
      have hsame : s'.acceptedRows row.key = s.acceptedRows row.key := by
        rw [acceptedRows_insert hrecords.logged]
        simp [accepted, haccepted]
      rw [hsame]
      exact h.folded row hrow
    · intro row hrow
      rw [haggregates]
      rw [hrecords.logged.rows, mem_append, mem_singleton] at hrow
      rcases hrow with hrow | rfl
      · exact h.owned row hrow
      · rw [hown]
        rfl
  | true =>
    have hmoved := hrecords.moved haccepted
    refine ⟨?_, ?_⟩
    · intro row hrow
      have hfind := Table.find_of_mem hrow
      rw [hmoved] at hfind
      by_cases hkey : row.key = (event.machine, event.entityId)
      · rw [if_pos hkey] at hfind
        cases hfind
        obtain ⟨s₀, hopened, hrevision, hfirst, hs₀, hleads⟩ :=
          h.folded own (Table.mem_of_find hown)
        have hownKey : own.key = (event.machine, event.entityId) := Table.key_of_find hown
        rw [hownKey] at hs₀ hleads
        refine ⟨s₀, hopened, hrevision, hfirst, hs₀, ?_⟩
        rw [acceptedRows_insert hrecords.logged, if_pos (by
          simp [accepted, offeredTo, haccepted])]
        exact hleads.concat hdecision haccepted
      · rw [if_neg hkey] at hfind
        have hsame : s'.acceptedRows row.key = s.acceptedRows row.key := by
          rw [acceptedRows_insert hrecords.logged, if_neg, append_nil]
          intro hoffered
          simp only [offeredTo, holds_iff] at hoffered
          exact hkey (Prod.ext hoffered.2.1.symm hoffered.2.2.symm)
        rw [hsame]
        exact h.folded row (Table.mem_of_find hfind)
    · intro row hrow
      rw [hmoved]
      split
      · rfl
      · next hother =>
        rw [hrecords.logged.rows, mem_append, mem_singleton] at hrow
        rcases hrow with hrow | rfl
        · exact h.owned row hrow
        · exact absurd rfl hother

end Based

/-- The rows of the outbox and the links of the events were written together. -/
def Paired (s : EventStore) : Prop :=
  s.outbox.rows.map IntentRow.outboxId = s.eventOutbox.rows.map outboxId

section Linked

variable {eventId : String} {intents : List SignedIntent}

theorem Paired.queue (h : s.Paired)
    (houtbox : s'.outbox.rows = s.outbox.rows ++ intents.map SignedIntent.row)
    (hlinks : s'.eventOutbox.rows = s.eventOutbox.rows ++ intents.map fun i => ⟨eventId, i.outboxId⟩) :
    s'.Paired := by
  have hpaired : s.outbox.rows.map IntentRow.outboxId =
      s.eventOutbox.rows.map outboxId := h
  rw [Paired, houtbox, hlinks, map_append, map_append, hpaired, map_map, map_map]
  rfl

/-- New rows are linked to their event and to no other; old rows keep their link. -/
lemma links_queue (h : s.Paired)
    (houtbox : s'.outbox.rows = s.outbox.rows ++ intents.map SignedIntent.row)
    (hlinks : s'.eventOutbox.rows = s.eventOutbox.rows ++ intents.map fun i => ⟨eventId, i.outboxId⟩)
    (eventId' : String) (intent : SignedIntent) :
    s'.Links eventId' intent ↔ s.Links eventId' intent ∨ (eventId = eventId' ∧ intent ∈ intents) := by
  have hnew : ∀ row ∈ s.outbox.rows, ∀ i ∈ intents, row.outboxId ≠ i.outboxId := by
    intro row hrow i hi
    have hnodup : (s'.outbox.rows.map IntentRow.outboxId).Nodup := s'.outbox.table.keys_nodup
    rw [houtbox, map_append, nodup_append] at hnodup
    refine hnodup.2.2 _ (mem_map_of_mem hrow) _ ?_
    rw [map_map]
    exact mem_map_of_mem hi
  rw [Links, Links, houtbox, hlinks]
  constructor
  · rintro ⟨⟨row, hrow, rfl⟩, hlink⟩
    rcases mem_append.mp hrow with hrow | hrow <;>
      rcases mem_append.mp hlink with hlink | hlink
    · exact .inl ⟨⟨row, hrow, rfl⟩, hlink⟩
    · obtain ⟨i, hi, heq⟩ := mem_map.mp hlink
      exact absurd (EventOutboxLink.mk.inj heq).2.symm (hnew row hrow i hi)
    · obtain ⟨i, hi, rfl⟩ := mem_map.mp hrow
      have hid : i.outboxId ∈ s.eventOutbox.rows.map outboxId :=
        mem_map_of_mem hlink
      rw [← h] at hid
      obtain ⟨old, hold, hsame⟩ := mem_map.mp hid
      exact absurd hsame (hnew old hold i hi)
    · obtain ⟨i, hi, rfl⟩ := mem_map.mp hrow
      obtain ⟨j, -, heq⟩ := mem_map.mp hlink
      exact .inr ⟨(EventOutboxLink.mk.inj heq).1, hi⟩
  · rintro (⟨⟨row, hrow, rfl⟩, hlink⟩ | ⟨rfl, hintent⟩)
    · exact ⟨⟨row, mem_append_left _ hrow, rfl⟩, mem_append_left _ hlink⟩
    · exact ⟨⟨intent.row, mem_append_right _ (mem_map_of_mem hintent), rfl⟩,
        mem_append_right _ (mem_map_of_mem hintent)⟩

end Linked

/-- The call opens an aggregate with this snapshot. -/
def Opens (snapshot : StateSnapshot) (s : EventStore) (i : EventOp) : Prop :=
  i = .initializeSnapshot snapshot ∧ (eventMachine.step s i).2 = .ok (.initialized true)

/-- The call records the event as accepted and brings these intents with it. -/
def Accepts (event : TransitionEvent) (intents : List SignedIntent) (s : EventStore) (i : EventOp) :
    Prop :=
  ∃ coordination recordedAtMs decision,
    i = .applyEventWithOutbox event intents coordination recordedAtMs ∧
    (eventMachine.step s i).2 = .ok (.applied ⟨decision, true, false⟩) ∧ decision.accepted = true

/-- The call brings the intent with an event that it records as accepted. -/
def Brings (eventId : String) (intent : SignedIntent) (s : EventStore) (i : EventOp) : Prop :=
  ∃ event intents, s.Accepts event intents i ∧ event.eventId = eventId ∧ intent ∈ intents

section Calls

variable {ops : List EventOp}

lemma not_brings_snapshot {snapshot : StateSnapshot} {eventId : String} {intent : SignedIntent} :
    ¬ s.Brings eventId intent (.initializeSnapshot snapshot) := by
  rintro ⟨event, intents, ⟨coordination, recordedAtMs, decision, heq, -⟩, -⟩
  cases heq

lemma brings_iff {event : TransitionEvent} {intents : List SignedIntent}
    {coordination : List CoordinationEvent} {recordedAtMs : ℕ} {result : StoreApplyResult}
    (h : s.applyEventWithOutbox event intents coordination recordedAtMs = .ok (result, s'))
    (hrecorded : result.persistedByThisCall = true) (hnew : result.duplicate = false)
    (eventId : String) (intent : SignedIntent) :
    s.Brings eventId intent (.applyEventWithOutbox event intents coordination recordedAtMs) ↔
      result.decision.accepted = true ∧ event.eventId = eventId ∧ intent ∈ intents := by
  have hanswer : (eventMachine.step s
      (.applyEventWithOutbox event intents coordination recordedAtMs)).2 =
        .ok (.applied result) := by
    show (committed s EventAnswer.applied _).2 = _
    rw [h]
    rfl
  constructor
  · rintro ⟨event', intents', ⟨coordination', recordedAtMs', decision, heq, hanswer', haccepted⟩,
      hevent, hintent⟩
    cases heq
    rw [hanswer] at hanswer'
    obtain rfl := EventAnswer.applied.inj (Except.ok.inj hanswer')
    exact ⟨haccepted, hevent, hintent⟩
  · rintro ⟨haccepted, hevent, hintent⟩
    refine ⟨event, intents, ⟨coordination, recordedAtMs, result.decision, rfl, ?_, haccepted⟩,
      hevent, hintent⟩
    rw [hanswer]
    obtain ⟨decision, persisted, duplicate⟩ := result
    cases hrecorded
    cases hnew
    rfl

/-- A call that was refused, or that repeated a logged event, brings nothing. -/
lemma not_brings_of_same {event : TransitionEvent} {intents : List SignedIntent}
    {coordination : List CoordinationEvent} {recordedAtMs : ℕ}
    (h : ∀ result, (eventMachine.step s
      (.applyEventWithOutbox event intents coordination recordedAtMs)).2 = .ok (.applied result) →
        result.persistedByThisCall = false) (eventId : String) (intent : SignedIntent) :
    ¬ s.Brings eventId intent (.applyEventWithOutbox event intents coordination recordedAtMs) := by
  rintro ⟨event', intents', ⟨coordination', recordedAtMs', decision, heq, hanswer, -⟩, -⟩
  have hpersisted := h _ hanswer
  cases hpersisted

/-- The tables after a run in terms of its calls. -/
structure Explained (ops : List EventOp) (s : EventStore) : Prop where
  based : s.Based fun snapshot => eventMachine.Met (Opens snapshot) .empty ops
  paired : s.Paired
  linked : ∀ eventId intent,
    s.Links eventId intent ↔ eventMachine.Met (Brings eventId intent) .empty ops

lemma empty_based {opened : StateSnapshot → Prop} : empty.Based opened where
  folded _ hrow := by cases hrow
  owned _ hrow := by cases hrow

lemma explained_empty : Explained [] .empty where
  based := empty_based
  paired := by rfl
  linked eventId intent := by
    refine iff_of_false ?_ (not_met_nil _ _ _)
    rintro ⟨⟨row, hrow, -⟩, -⟩
    cases hrow

variable {i : EventOp}

/-- A call that leaves the tables as they are and brings nothing. -/
theorem Explained.same (h : Explained ops s)
    (hbrings : ∀ eventId intent, ¬ Brings eventId intent (eventMachine.exec .empty ops) i) :
    Explained (ops ++ [i]) s where
  based := h.based.mono fun snapshot hopened => (met_concat _).mpr (.inl hopened)
  paired := h.paired
  linked eventId intent := by
    rw [h.linked, met_concat]
    exact (or_iff_left (hbrings eventId intent)).symm

theorem Explained.step (h : Explained ops (eventMachine.exec .empty ops)) :
    Explained (ops ++ [i]) (eventMachine.exec .empty (ops ++ [i])) := by
  rw [exec_concat]
  cases i with
  | initializeSnapshot snapshot =>
    cases hcall : (eventMachine.exec .empty ops).initializeSnapshot snapshot with
    | error e =>
      have hsame : (eventMachine.step (eventMachine.exec .empty ops)
          (.initializeSnapshot snapshot)).1 = eventMachine.exec .empty ops := by
        show (committed _ EventAnswer.initialized _).1 = _
        rw [hcall]
        rfl
      rw [hsame]
      exact h.same fun _ _ => not_brings_snapshot
    | ok pair =>
      obtain ⟨created, s'⟩ := pair
      have hstep : eventMachine.step (eventMachine.exec .empty ops)
          (.initializeSnapshot snapshot) = (s', .ok (.initialized created)) := by
        show committed _ EventAnswer.initialized _ = _
        rw [hcall]
        rfl
      rw [hstep]
      have hmore := h.same (i := .initializeSnapshot snapshot) fun _ _ => not_brings_snapshot
      rcases initializeSnapshot_cases hcall with
        ⟨-, rfl⟩ | ⟨rfl, hrevision, hfirst, aggregates, hinserts, rfl⟩
      · exact hmore
      · have hopens : eventMachine.Met (Opens snapshot) .empty
            (ops ++ [.initializeSnapshot snapshot]) :=
          (met_concat _).mpr (.inr ⟨rfl, by rw [hstep]⟩)
        exact ⟨hmore.based.open hinserts hopens hrevision hfirst, hmore.paired, hmore.linked⟩
  | applyEventWithOutbox event intents coordination recordedAtMs =>
    cases hcall : (eventMachine.exec .empty ops).applyEventWithOutbox event intents coordination
        recordedAtMs with
    | error e =>
      have hstep : eventMachine.step (eventMachine.exec .empty ops)
          (.applyEventWithOutbox event intents coordination recordedAtMs) =
            (eventMachine.exec .empty ops, .error e) := by
        show committed _ EventAnswer.applied _ = _
        rw [hcall]
        rfl
      rw [hstep]
      refine h.same (not_brings_of_same ?_)
      intro result hanswer
      rw [hstep] at hanswer
      cases hanswer
    | ok pair =>
      obtain ⟨result, s'⟩ := pair
      have hstep : eventMachine.step (eventMachine.exec .empty ops)
          (.applyEventWithOutbox event intents coordination recordedAtMs) =
            (s', .ok (.applied result)) := by
        show committed _ EventAnswer.applied _ = _
        rw [hcall]
        rfl
      rw [hstep]
      rcases applyEventWithOutbox_cases hcall with ⟨hrepeated, rfl⟩ | ⟨hpersisted, hnew, hrecords⟩
      · refine h.same (not_brings_of_same ?_)
        intro result' hanswer
        rw [hstep] at hanswer
        obtain rfl := EventAnswer.applied.inj (Except.ok.inj hanswer)
        exact hrepeated
      · have hbased : s'.Based fun snapshot => eventMachine.Met (Opens snapshot) .empty
            (ops ++ [.applyEventWithOutbox event intents coordination recordedAtMs]) :=
          (h.based.mono fun snapshot hopened =>
            (met_concat _).mpr (.inl hopened)).record hrecords
        cases haccepted : result.decision.accepted with
        | false =>
          obtain ⟨-, houtbox, hlinks⟩ := hrecords.rejected haccepted
          refine ⟨hbased, ?_, ?_⟩
          · have hpaired := h.paired
            rw [Paired] at hpaired ⊢
            rw [houtbox, hlinks, hpaired]
          · intro eventId intent
            rw [met_concat, brings_iff hcall hpersisted hnew, ← h.linked, Links, Links,
              houtbox, hlinks, haccepted]
            simp
        | true =>
          have houtbox := hrecords.queued haccepted
          have hlinks := hrecords.linked haccepted
          refine ⟨hbased, h.paired.queue houtbox hlinks, ?_⟩
          intro eventId intent
          rw [links_queue h.paired houtbox hlinks, met_concat,
            brings_iff hcall hpersisted hnew, h.linked, orderIntents, mem_orderBy]
          simp [haccepted]

lemma exec_explained (ops : List EventOp) : Explained ops (eventMachine.exec .empty ops) := by
  induction ops using List.reverseRecOn with
  | nil => exact explained_empty
  | append_singleton ops i ih => exact ih.step

def records (eventId : String) : EventStore × EventOp × Except StoreError EventAnswer → Bool
  | (_, .applyEventWithOutbox event _ _ _, .ok (.applied result)) =>
    event.eventId = eventId && (result.persistedByThisCall && result.decision.accepted)
  | _ => false

/-- The log holds the event. -/
def Logged (eventId : String) (s : EventStore) : Prop := (s.log.find eventId).isSome = true

lemma step_logged {eventId : String} (i : EventOp) (h : s.Logged eventId) :
    (eventMachine.step s i).1.Logged eventId := by
  cases i with
  | initializeSnapshot snapshot =>
    refine committed_fst h ?_
    intro created s' hcall
    rcases initializeSnapshot_cases hcall with ⟨-, rfl⟩ | ⟨-, -, -, aggregates, -, rfl⟩
    · exact h
    · exact h
  | applyEventWithOutbox event intents coordination recordedAtMs =>
    refine committed_fst h ?_
    intro result s' hcall
    rcases applyEventWithOutbox_cases hcall with ⟨-, rfl⟩ | ⟨-, -, hrecords⟩
    · exact h
    · obtain ⟨row, hrow⟩ := Option.isSome_iff_exists.mp h
      rw [Logged, hrecords.logged.find_of_some hrow]
      rfl

lemma records_cases {eventId : String}
    (h : records eventId (s, i, (eventMachine.step s i).2) = true) :
    ∃ event intents recordedAtMs decision, event.eventId = eventId ∧
      s.Records event intents recordedAtMs decision (eventMachine.step s i).1 := by
  cases i with
  | initializeSnapshot snapshot => cases h
  | applyEventWithOutbox event intents coordination recordedAtMs =>
    cases hcall : s.applyEventWithOutbox event intents coordination recordedAtMs with
    | error e =>
      have hanswer : (eventMachine.step s
          (.applyEventWithOutbox event intents coordination recordedAtMs)).2 = .error e := by
        show (committed s EventAnswer.applied _).2 = _
        rw [hcall]
        rfl
      rw [hanswer] at h
      cases h
    | ok pair =>
      obtain ⟨result, s'⟩ := pair
      have hstep : eventMachine.step s
          (.applyEventWithOutbox event intents coordination recordedAtMs) =
            (s', .ok (.applied result)) := by
        show committed s EventAnswer.applied _ = _
        rw [hcall]
        rfl
      rw [hstep] at h ⊢
      simp only [records, holds_iff] at h
      rcases applyEventWithOutbox_cases hcall with ⟨hrepeated, -⟩ | ⟨-, -, hrecords⟩
      · rw [hrepeated] at h
        cases h.2.1
      · exact ⟨event, intents, recordedAtMs, result.decision, h.1, hrecords⟩

/-- An event is accepted at most once, however often it is sent. -/
lemma records_at_most_once (eventId : String) (ops : List EventOp) :
    (eventMachine.trace .empty ops).countP (records eventId) ≤ 1 := by
  have hrecorded : ∀ (s : EventStore) (i : EventOp), True →
      records eventId (s, i, (eventMachine.step s i).2) = true →
        Logged eventId (eventMachine.step s i).1 := by
    intro s i _ hstep
    obtain ⟨event, intents, recordedAtMs, decision, rfl, hrecords⟩ := records_cases hstep
    rw [Logged, hrecords.logged.find, if_pos rfl]
    rfl
  have hquiet : ∀ (s : EventStore) (i : EventOp), True → Logged eventId s →
      records eventId (s, i, (eventMachine.step s i).2) = false := by
    intro s i _ hlogged
    rw [Bool.eq_false_iff]
    intro hstep
    obtain ⟨event, intents, recordedAtMs, decision, rfl, hrecords⟩ := records_cases hstep
    have hfresh := hrecords.logged.fresh
    rw [Logged, hfresh] at hlogged
    cases hlogged
  exact @Machine.countP_trace_le_one _ _ _ eventMachine (fun _ => True) (Logged eventId) _
    (fun _ _ _ => trivial) hrecorded (fun _ i _ h => step_logged i h) hquiet _ trivial ops

end Calls

end EventStore

/-- Every aggregate is the fold of its accepted events from a snapshot that a call opened it with,
its revisions count up one by one, no event is accepted twice, a refused call changes nothing, and
the outbox holds the intents of the accepted events, each linked to its event. -/
theorem aggregates_folded (ops : List EventOp) :
    (∀ row ∈ (eventMachine.exec .empty ops).aggregates.rows, ∃ s₀,
      eventMachine.Met (EventStore.Opens s₀) .empty ops ∧ s₀.revision = 0 ∧
      s₀.lastEventId = none ∧ (s₀.machine, s₀.entityId) = row.key ∧
      LeadsTo s₀ ((eventMachine.exec .empty ops).acceptedRows row.key) row.snapshot ∧
      row.snapshot = ((eventMachine.exec .empty ops).acceptedRows row.key).foldl
        (fun s r => (applyTransition s r.event false).current) s₀ ∧
      ((eventMachine.exec .empty ops).acceptedRows row.key).map resultingRevision =
        List.range' 1 row.revision) ∧
    (∀ eventId, (eventMachine.trace .empty ops).countP (EventStore.records eventId) ≤ 1) ∧
    (∀ i e, (eventMachine.step (eventMachine.exec .empty ops) i).2 = .error e →
      (eventMachine.step (eventMachine.exec .empty ops) i).1 = eventMachine.exec .empty ops) ∧
    (∀ eventId intent, (eventMachine.exec .empty ops).Links eventId intent ↔
      eventMachine.Met (EventStore.Brings eventId intent) .empty ops) ∧
    (eventMachine.exec .empty ops).Paired := by
  have hexplained := EventStore.exec_explained ops
  refine ⟨?_, fun eventId => EventStore.records_at_most_once eventId ops, ?_, hexplained.linked,
    hexplained.paired⟩
  · intro row hrow
    obtain ⟨s₀, hopens, hrevision, hfirst, hkey, hleads⟩ := hexplained.based.folded row hrow
    obtain ⟨-, hrevisions, hlast⟩ := hleads.revisions
    rw [hrevision, Nat.zero_add] at hrevisions hlast
    refine ⟨s₀, hopens, hrevision, hfirst, hkey, hleads, hleads.foldl_eq.symm, ?_⟩
    rw [hrevisions, AggregateState.revision, hlast]
  · intro i e hrefused
    cases i with
    | initializeSnapshot snapshot => exact committed_error hrefused
    | applyEventWithOutbox event intents coordination recordedAtMs =>
      exact committed_error hrefused

end Tiangong
