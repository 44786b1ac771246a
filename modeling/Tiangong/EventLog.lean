import Tiangong.OutboxStore
import Tiangong.Transitions

/-!
# The event log of the store

An aggregate is the snapshot of one state machine; the log holds every event that was offered to
it, accepted or not. An accepted event moves its aggregate on and brings the outbox intents and the
coordination events of its transaction with it; a repeated one is answered from the log.
-/
namespace Tiangong

/-- An outbox intent with its schema version and its digest. -/
structure SignedIntent extends OutboxIntent where
  schemaVersion : SchemaVersion
  intentSha256 : Canon
  deriving DecidableEq, Repr

def ComponentId.canon : ComponentId → Canon
  | .backend => .text "tiangong-backend"
  | .communicationService => .text "tiangong-communication-service"
  | .lifeService => .text "tiangong-life-service"
  | .totalGateway => .text "tiangong-total-gateway"

def IntentKind.canon : IntentKind → Canon
  | .execution => .text "EXECUTION"
  | .lifeRead => .text "LIFE_READ"
  | .lifeEvent => .text "LIFE_EVENT"
  | .delivery => .text "DELIVERY"
  | .control => .text "CONTROL"

namespace SignedIntent

def computedSha256 (i : SignedIntent) : Canon :=
  .sha256 <| .ofList
    [i.schemaVersion.canon, .text i.outboxId, .text i.effectId, .text i.requestId, .text i.runId,
      .num i.generation, i.destinationComponentId.canon, i.intentKind.canon,
      .text i.payloadObjectId, i.payloadSha256, .num i.createdAtMs]

def hasValidSha256 (i : SignedIntent) : Bool := i.intentSha256 = i.computedSha256

/-- The intent belongs to the transaction of the event. -/
def boundTo (i : SignedIntent) (e : TransitionEvent) : Bool :=
  i.requestId = e.requestId && i.runId = e.runId && i.generation = e.generation &&
    e.occurredAtMs ≤ i.createdAtMs

end SignedIntent

inductive CoordinationKind where
  | needSkill | needConfirmation
  deriving DecidableEq, Repr

inductive CoordinationConsumer where
  | skillResolver | userConfirmation
  deriving DecidableEq, Repr

namespace CoordinationKind

def canon : CoordinationKind → Canon
  | needSkill => .text "NEED_SKILL"
  | needConfirmation => .text "NEED_CONFIRMATION"

def consumer : CoordinationKind → CoordinationConsumer
  | needSkill => .skillResolver
  | needConfirmation => .userConfirmation

def requestState : CoordinationKind → StateValue
  | needSkill => .planning
  | needConfirmation => .waitingConfirmation

end CoordinationKind

def CoordinationConsumer.canon : CoordinationConsumer → Canon
  | .skillResolver => .text "skill_resolver"
  | .userConfirmation => .text "user_confirmation"

/-- A wait for a skill or for the user. Its identifier is taken as given. -/
structure CoordinationEvent where
  schemaVersion : SchemaVersion
  eventId : String
  requestId : String
  runId : String
  generation : ℕ
  kind : CoordinationKind
  consumer : CoordinationConsumer
  ordinal : ℕ
  payloadObjectId : String
  payloadSha256 : Canon
  createdAtMs : ℕ
  expiresAtMs : ℕ
  eventSha256 : Canon
  consumer_of_kind : decide (consumer = kind.consumer) = true
  expires_after_creation : decide (createdAtMs < expiresAtMs) = true
  deriving DecidableEq

namespace CoordinationEvent

def computedSha256 (c : CoordinationEvent) : Canon :=
  .sha256 <| .ofList
    [c.schemaVersion.canon, .text c.eventId, .text c.requestId, .text c.runId, .num c.generation,
      c.kind.canon, c.consumer.canon, .num c.ordinal, .text c.payloadObjectId, c.payloadSha256,
      .num c.createdAtMs, .num c.expiresAtMs]

def hasValidSha256 (c : CoordinationEvent) : Bool := c.eventSha256 = c.computedSha256

/-- The coordination event belongs to the transaction of the state event. -/
def boundTo (c : CoordinationEvent) (e : TransitionEvent) : Bool :=
  c.requestId = e.requestId && c.runId = e.runId && c.generation = e.generation &&
    e.occurredAtMs ≤ c.createdAtMs

/-- The columns of the unique index of the coordination events. -/
def slot (c : CoordinationEvent) : String × String × ℕ × CoordinationKind × ℕ :=
  (c.requestId, c.runId, c.generation, c.kind, c.ordinal)

end CoordinationEvent

inductive CoordinationState where
  | pending | claimed | resolved | cancelled
  deriving DecidableEq, Repr

/-- A row of `aggregate_state`: its key and the snapshot it holds. -/
structure AggregateState where
  machine : MachineName
  entityId : String
  snapshot : StateSnapshot
  deriving DecidableEq

namespace AggregateState

abbrev key (a : AggregateState) : MachineName × String := (a.machine, a.entityId)

def revision (a : AggregateState) : ℕ := a.snapshot.revision

def lastEventId (a : AggregateState) : Option String := a.snapshot.lastEventId

end AggregateState

/-- A row of `event_log`: the event, the time of its record and the decision on it. -/
structure EventRow where
  event : TransitionEvent
  recordedAtMs : ℕ
  decision : TransitionDecision

namespace EventRow

abbrev eventId (r : EventRow) : String := r.event.eventId

def accepted (r : EventRow) : Bool := r.decision.accepted

def resultingRevision (r : EventRow) : ℕ := r.decision.current.revision

def offeredTo (r : EventRow) (k : MachineName × String) : Bool :=
  r.event.machine = k.1 && r.event.entityId = k.2

/-- The unique index `event_applied_revision_unique`. -/
def sameApplied (r r' : EventRow) : Bool :=
  r.accepted && r'.accepted && r'.offeredTo (r.event.machine, r.event.entityId) &&
    r'.resultingRevision = r.resultingRevision

end EventRow

structure IntentRow where
  intent : SignedIntent
  attemptCount : ℕ
  availableAtMs : ℕ
  progress : OutboxProgress
  deriving DecidableEq, Repr

namespace IntentRow

abbrev outboxId (r : IntentRow) : String := r.intent.outboxId

abbrev effectId (r : IntentRow) : String := r.intent.effectId

end IntentRow

def SignedIntent.row (i : SignedIntent) : IntentRow := ⟨i, 0, i.createdAtMs, .pending⟩

structure EventOutboxLink where
  eventId : String
  outboxId : String
  deriving DecidableEq, Repr

structure CoordinationRow where
  event : CoordinationEvent
  stateEventId : Option String
  state : CoordinationState
  attemptCount : ℕ
  deriving DecidableEq

namespace CoordinationRow

abbrev eventId (r : CoordinationRow) : String := r.event.eventId

abbrev slot (r : CoordinationRow) : String × String × ℕ × CoordinationKind × ℕ := r.event.slot

end CoordinationRow

structure EventStore where
  aggregates : Table AggregateState.key
  log : Table EventRow.eventId
  outbox : IndexedTable IntentRow.outboxId IntentRow.effectId
  eventOutbox : Table EventOutboxLink.outboxId
  coordination : IndexedTable CoordinationRow.eventId CoordinationRow.slot

structure StoreApplyResult where
  decision : TransitionDecision
  persistedByThisCall : Bool
  duplicate : Bool

namespace EventStore

def empty : EventStore := ⟨.empty, .empty, .empty, .empty, .empty⟩

def initializeSnapshot (snapshot : StateSnapshot) (s : EventStore) :
    Except StoreError (Bool × EventStore) := do
  rejectIf (snapshot.revision ≠ 0 ∨ snapshot.lastEventId ≠ none)
    (.value "initial state snapshot must be revision zero without an event")
  match s.aggregates.find (snapshot.machine, snapshot.entityId) with
  | some row => do
    rejectIf (row.snapshot ≠ snapshot)
      (.conflict "aggregate identity already belongs to another snapshot")
    pure (false, s)
  | none => do
    let aggregates ← s.aggregates.insert (.integrity "aggregate_state(machine, entity_id)")
      ⟨snapshot.machine, snapshot.entityId, snapshot⟩
    pure (true, { s with aggregates := aggregates })

def checkItems {α : Type} (valid bound : α → Bool) (digestError bindingError : String) :
    List α → Except StoreError Unit
  | [] => pure ()
  | item :: items => do
    rejectIf (valid item = false) (.value digestError)
    rejectIf (bound item = false) (.value bindingError)
    checkItems valid bound digestError bindingError items

def orderIntents (intents : List SignedIntent) : List SignedIntent :=
  orderBy (fun i i' => i.outboxId ≤ i'.outboxId) intents

def orderCoordination (events : List CoordinationEvent) : List CoordinationEvent :=
  orderBy (fun c c' => c.eventId ≤ c'.eventId) events

/-- The rows that a logged event brought with it, in the order of their identifiers. -/
def linkedOutbox (s : EventStore) (eventId : String) : List IntentRow :=
  orderBy (fun r r' => r.outboxId ≤ r'.outboxId) <|
    s.outbox.rows.filter fun r => decide ((⟨eventId, r.outboxId⟩ : EventOutboxLink) ∈
      s.eventOutbox.rows)

def linkedCoordination (s : EventStore) (eventId : String) : List CoordinationRow :=
  orderBy (fun r r' => r.eventId ≤ r'.eventId) <|
    s.coordination.rows.filter fun r => r.stateEventId = some eventId

/-- A repeated event is answered from the log when it brings the same rows with it. -/
def replayEvent (row : EventRow) (event : TransitionEvent) (intents : List SignedIntent)
    (coordination : List CoordinationEvent) (s : EventStore) :
    Except StoreError StoreApplyResult := do
  rejectIf (row.event ≠ event) (.conflict "event ID was reused with different content")
  let linked := s.linkedOutbox event.eventId
  -- life events may have been attached to the event after it was accepted
  let comparable := if intents.any fun i => i.intentKind = .lifeEvent then linked
    else linked.filter fun r => r.intent.intentKind ≠ .lifeEvent
  let expected := if row.accepted then intents else []
  rejectIf (comparable.map IntentRow.outboxId ≠ expected.map fun i => i.outboxId)
    (.conflict "duplicate event changed its transactional outbox set")
  rejectIf (comparable.map IntentRow.intent ≠ expected)
    (.conflict "duplicate event changed an outbox intent")
  let linkedRows := s.linkedCoordination event.eventId
  let expectedRows := if row.accepted then coordination else []
  rejectIf (linkedRows.map CoordinationRow.eventId ≠ expectedRows.map fun c => c.eventId)
    (.conflict "duplicate event changed its coordination event set")
  rejectIf (linkedRows.map CoordinationRow.event ≠ expectedRows)
    (.conflict "duplicate state event changed a coordination intent")
  pure ⟨row.decision, false, true⟩

def checkCoordinationStates (current : StateSnapshot) :
    List CoordinationEvent → Except StoreError Unit
  | [] => pure ()
  | item :: items => do
    rejectIf (current.state ≠ item.kind.requestState)
      (.value "coordination event does not match the resulting request state")
    checkCoordinationStates current items

/-- Coordination events go with a request transition into the state that waits for them. -/
def checkCoordination (decision : TransitionDecision) (coordination : List CoordinationEvent) :
    Except StoreError Unit :=
  if decision.accepted ∧ coordination ≠ [] then do
    rejectIf (decision.current.machine ≠ .request)
      (.value "coordination events must be attached to a request transition")
    checkCoordinationStates decision.current coordination
  else pure ()

def insertEventRow (row : EventRow) (s : EventStore) : Except StoreError EventStore := do
  rejectIf ((s.log.rows.any row.sameApplied) = true)
    (.integrity "event_applied_revision_unique")
  let log ← s.log.insert (.integrity "event_log(event_id)") row
  pure { s with log := log }

/-- The compare-and-set of an accepted event. -/
def updateAggregate (event : TransitionEvent) (current : StateSnapshot) (s : EventStore) :
    Except StoreError EventStore := do
  rejectIf ((s.aggregates.rows.any fun a => a.key ≠ (event.machine, event.entityId) &&
      (a.lastEventId.isSome && a.lastEventId = current.lastEventId)) = true)
    (.integrity "aggregate_state(last_event_id)")
  let aggregates ← s.aggregates.updateOne
    (.casConflict "aggregate revision changed before CAS update")
    (fun a => a.key = (event.machine, event.entityId) && a.revision = event.expectedRevision)
    (fun a => { a with snapshot := current }) (fun _ => rfl)
  pure { s with aggregates := aggregates }

def insertIntents (eventId : String) : List SignedIntent → EventStore → Except StoreError EventStore
  | [], s => pure s
  | intent :: intents, s => do
    let outbox ← s.outbox.insert (.conflict "outbox effect identity is already bound") intent.row
    let eventOutbox ← s.eventOutbox.insert (.integrity "event_outbox(outbox_id)")
      ⟨eventId, intent.outboxId⟩
    insertIntents eventId intents { s with outbox := outbox, eventOutbox := eventOutbox }

def insertCoordinationRow (stateEventId : Option String) (event : CoordinationEvent)
    (s : EventStore) : Except StoreError EventStore :=
  match s.coordination.rows.find? fun r => r.eventId = event.eventId || r.slot = event.slot with
  | some row => do
    rejectIf (row.event ≠ event ∨ row.stateEventId ≠ stateEventId)
      (.conflict "coordination identity was reused with different intent")
    pure s
  | none => do
    let coordination ← s.coordination.insert (.integrity "coordination_events")
      ⟨event, stateEventId, .pending, 0⟩
    pure { s with coordination := coordination }

def insertCoordination (stateEventId : String) :
    List CoordinationEvent → EventStore → Except StoreError EventStore
  | [], s => pure s
  | event :: events, s => do
    let s' ← s.insertCoordinationRow (some stateEventId) event
    insertCoordination stateEventId events s'

/-- What an accepted event writes besides its log row. -/
def commitAccepted (event : TransitionEvent) (current : StateSnapshot)
    (intents : List SignedIntent) (coordination : List CoordinationEvent) (s : EventStore) :
    Except StoreError EventStore := do
  let moved ← s.updateAggregate event current
  let queued ← moved.insertIntents event.eventId intents
  queued.insertCoordination event.eventId coordination

def recordEvent (event : TransitionEvent) (intents : List SignedIntent)
    (coordination : List CoordinationEvent) (recordedAtMs : ℕ) (s : EventStore) :
    Except StoreError (StoreApplyResult × EventStore) := do
  let row ← required (s.aggregates.find (event.machine, event.entityId))
    (.notFound "event aggregate does not exist")
  let decision := applyTransition row.snapshot event false
  checkCoordination decision coordination
  let logged ← s.insertEventRow ⟨event, recordedAtMs, decision⟩
  let s' ← if decision.accepted then
      logged.commitAccepted event decision.current intents coordination
    else pure logged
  pure (⟨decision, true, false⟩, s')

def applyEventWithOutbox (event : TransitionEvent) (outboxIntents : List SignedIntent)
    (coordinationEvents : List CoordinationEvent) (recordedAtMs : ℕ) (s : EventStore) :
    Except StoreError (StoreApplyResult × EventStore) := do
  rejectIf (recordedAtMs < event.occurredAtMs) (.value "event record time predates event occurrence")
  rejectIf (event.hasValidEventSha256 = false) (.value "event digest is invalid")
  let intents := orderIntents outboxIntents
  rejectIf (¬ (intents.map fun i => i.outboxId).Nodup)
    (.value "outbox intents contain a duplicate identity")
  checkItems SignedIntent.hasValidSha256 (fun i => i.boundTo event)
    "outbox intent digest is invalid" "outbox intent is not bound to its state event" intents
  let coordination := orderCoordination coordinationEvents
  rejectIf (¬ (coordination.map fun c => c.eventId).Nodup)
    (.value "coordination events contain a duplicate identity")
  checkItems CoordinationEvent.hasValidSha256 (fun c => c.boundTo event)
    "coordination event digest is invalid" "coordination event is not bound to its state event"
    coordination
  match s.log.find event.eventId with
  | some row => do
    let result ← s.replayEvent row event intents coordination
    pure (result, s)
  | none => s.recordEvent event intents coordination recordedAtMs

end EventStore

inductive EventOp where
  | initializeSnapshot (snapshot : StateSnapshot)
  | applyEventWithOutbox (event : TransitionEvent) (outboxIntents : List SignedIntent)
      (coordinationEvents : List CoordinationEvent) (recordedAtMs : ℕ)

inductive EventAnswer where
  | initialized (created : Bool)
  | applied (result : StoreApplyResult)

def EventStore.apply (s : EventStore) : EventOp → EventStore × Except StoreError EventAnswer
  | .initializeSnapshot snapshot => committed s .initialized (s.initializeSnapshot snapshot)
  | .applyEventWithOutbox event outboxIntents coordinationEvents recordedAtMs =>
    committed s .applied
      (s.applyEventWithOutbox event outboxIntents coordinationEvents recordedAtMs)

def eventMachine : Machine EventStore EventOp (Except StoreError EventAnswer) :=
  ⟨EventStore.apply⟩

end Tiangong
