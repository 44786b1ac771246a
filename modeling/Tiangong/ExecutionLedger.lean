import Tiangong.AcceptedPrefixes
import Tiangong.SessionStore

/-!
# The execution ledger of a run

Every run has a ledger of events, each chained to the digest of its predecessor, and a head row that
names the last one. The audit reads the rows in the order of their sequence numbers and stops at the
first one that does not fit; the recovery cuts the ledger off there, unless that is at or before a
sequence number that is known to be good.
-/
namespace Tiangong

def zeroHash : Canon :=
  .text "0000000000000000000000000000000000000000000000000000000000000000"

def executionEventTypes : List String :=
  ["chain.started", "epoch.started", "composition.registered", "composition.feedback_received",
    "step.planned", "step.prepared", "step.dispatched", "step.observed", "step.verified",
    "step.committed", "step.failed", "step.ambiguous", "step.reconciled", "step.compensated",
    "fact.observed", "fact.verified", "fact.revoked", "fact.stale", "frontier.updated",
    "checkpoint.prepared", "checkpoint.audited", "checkpoint.committed", "context.compacted",
    "run.resumed", "epoch.completed", "completion.proposed", "completion.verified",
    "completion.rejected", "chain.completed", "chain.failed"]

structure LedgerRun where
  requestId : Canon
  runId : Canon
  generation : ℕ
  deriving DecidableEq, Repr

structure ExecutionLedgerEvent where
  ledgerSeq : ℕ
  eventId : Canon
  eventKey : String
  run : LedgerRun
  epochIndex : ℕ
  eventType : String
  createdAtMs : ℕ
  payload : Canon
  payloadHash : Canon
  prevEventHash : Canon
  eventHash : Canon
  logicalEffectId : Option String
  attemptId : Option String
  stepId : Option String
  effectId : Option String
  causalParentEventId : Option Canon
  deriving DecidableEq, Repr

namespace ExecutionLedgerEvent

def idOf (run : LedgerRun) (eventKey : String) : Canon :=
  .ident "lge_" <| .ofList
    [.text "tiangong.gateway.execution-ledger-event-id.v1", run.requestId, run.runId,
      .num run.generation, .text eventKey]

def validateEvent (e : ExecutionLedgerEvent) : Bool :=
  1 ≤ e.ledgerSeq && 1 ≤ e.eventKey.length && e.eventKey.length ≤ 500 &&
    e.eventType ∈ executionEventTypes && e.payloadHash = .sha256 e.payload &&
    e.eventId = idOf e.run e.eventKey

def computedHash (e : ExecutionLedgerEvent) : Canon :=
  .sha256 <| .ofList
    [.text "tiangong.gateway.execution-ledger.v1", .num e.ledgerSeq, e.eventId, .text e.eventKey,
      e.run.requestId, e.run.runId, .num e.run.generation, .num e.epochIndex, .text e.eventType,
      .num e.createdAtMs, e.payload, e.payloadHash, e.prevEventHash,
      .option .text e.logicalEffectId, .option .text e.attemptId, .option .text e.stepId,
      .option .text e.effectId, .option id e.causalParentEventId]

def hasValidHash (e : ExecutionLedgerEvent) : Bool := e.eventHash = e.computedHash

def withComputedHash (e : ExecutionLedgerEvent) : ExecutionLedgerEvent :=
  { e with eventHash := e.computedHash }

@[simp] theorem withComputedHash_hasValidHash (e : ExecutionLedgerEvent) :
    e.withComputedHash.hasValidHash = true := by
  simp [hasValidHash, withComputedHash, computedHash]

end ExecutionLedgerEvent

/-- What the text of an event says. -/
inductive EventText where
  | parsed (event : Sealed ExecutionLedgerEvent.validateEvent)
  /-- The contract model refuses the text. -/
  | invalid
  /-- The event has no canonical form: its digest raises, and nothing catches that. -/
  | unhashable (error : String)
  deriving DecidableEq

structure LedgerRow where
  run : LedgerRun
  ledgerSeq : ℕ
  eventId : Canon
  eventKey : String
  epochIndex : ℕ
  eventType : String
  createdAtMs : ℕ
  payloadHash : Canon
  prevEventHash : Canon
  eventHash : Canon
  logicalEffectId : Option String
  attemptId : Option String
  stepId : Option String
  effectId : Option String
  causalParentEventId : Option Canon
  eventJson : EventText
  deriving DecidableEq

namespace LedgerRow

abbrev key (r : LedgerRow) : LedgerRun × ℕ := (r.run, r.ledgerSeq)

def ofEvent (e : Sealed ExecutionLedgerEvent.validateEvent) : LedgerRow :=
  { run := e.1.run
    ledgerSeq := e.1.ledgerSeq
    eventId := e.1.eventId
    eventKey := e.1.eventKey
    epochIndex := e.1.epochIndex
    eventType := e.1.eventType
    createdAtMs := e.1.createdAtMs
    payloadHash := e.1.payloadHash
    prevEventHash := e.1.prevEventHash
    eventHash := e.1.eventHash
    logicalEffectId := e.1.logicalEffectId
    attemptId := e.1.attemptId
    stepId := e.1.stepId
    effectId := e.1.effectId
    causalParentEventId := e.1.causalParentEventId
    eventJson := .parsed e }

/-- `_execution_event_from_row_locked`: the event of a row whose columns all agree with it. -/
def event (r : LedgerRow) : Except StoreError ExecutionLedgerEvent :=
  match r.eventJson with
  | .invalid => .error (.corruption "execution ledger event JSON is invalid")
  | .unhashable error => .error (.value error)
  | .parsed e =>
    if e.1.hasValidHash = true ∧ r = ofEvent e then .ok e.1
    else .error (.corruption "execution ledger row disagrees with canonical event")

/-- The constraints of the table that a new row violates. -/
def clashesWith (r r' : LedgerRow) : Bool :=
  r.eventId = r'.eventId || r.eventHash = r'.eventHash ||
    (r.run = r'.run && r.eventKey = r'.eventKey)

end LedgerRow

structure LedgerHead where
  run : LedgerRun
  headSeq : ℕ
  headHash : Canon
  revision : ℕ
  updatedAtMs : ℕ
  deriving DecidableEq, Repr

/-- The immutable binding of a run. -/
structure ExecutionTaskContract where
  run : LedgerRun
  lifeId : String
  rootGoalHash : Canon
  taskContractHash : Canon
  authorityHash : Canon
  boundAtMs : ℕ
  deriving DecidableEq, Repr

structure LedgerStore where
  session : SessionStore
  contracts : Table ExecutionTaskContract.run
  ledger : Table LedgerRow.key
  heads : Table LedgerHead.run

/-- What the audit reports. -/
inductive LedgerAudit where
  | healthy (lastValidSeq : ℕ) (lastValidHash : Canon) (eventCount : ℕ)
  | unhealthy (firstInvalidSeq lastValidSeq : ℕ) (lastValidHash : Canon) (reason : String)
  deriving DecidableEq, Repr

def LedgerAudit.isHealthy : LedgerAudit → Bool
  | healthy .. => true
  | unhealthy .. => false

structure LedgerRecovery where
  audit : LedgerAudit
  recovered : Bool
  truncated : ℕ
  firstInvalidSeq : Option ℕ
  deriving DecidableEq, Repr

/-- Where the reader of the rows stops. -/
inductive ChainScan where
  | complete (lastSeq : ℕ) (lastHash : Canon)
  | broken (firstInvalidSeq lastValidSeq : ℕ) (lastValidHash : Canon) (reason : String)
  deriving DecidableEq, Repr

structure LedgerAppend where
  eventKey : String
  run : LedgerRun
  epochIndex : ℕ
  eventType : String
  /-- The canonical form of the payload, when it has one. -/
  payload : Option Canon
  createdAtMs : ℕ
  logicalEffectId : Option String
  attemptId : Option String
  stepId : Option String
  effectId : Option String
  causalParentEventId : Option Canon

def buildExecutionLedgerEvent (q : LedgerAppend) (ledgerSeq : ℕ) (prevEventHash : Canon) :
    Except StoreError (Sealed ExecutionLedgerEvent.validateEvent) := do
  let payload ← required q.payload (.value "payload has no canonical form")
  let event : ExecutionLedgerEvent :=
    { ledgerSeq := ledgerSeq
      eventId := ExecutionLedgerEvent.idOf q.run q.eventKey
      eventKey := q.eventKey
      run := q.run
      epochIndex := q.epochIndex
      eventType := q.eventType
      createdAtMs := q.createdAtMs
      payload := payload
      payloadHash := .sha256 payload
      prevEventHash := prevEventHash
      eventHash := zeroHash
      logicalEffectId := q.logicalEffectId
      attemptId := q.attemptId
      stepId := q.stepId
      effectId := q.effectId
      causalParentEventId := q.causalParentEventId }
  sealed ExecutionLedgerEvent.validateEvent (.value "execution ledger event is invalid")
    event.withComputedHash

namespace LedgerStore

def runRows (s : LedgerStore) (run : LedgerRun) : List LedgerRow :=
  orderBy (fun r r' => r.ledgerSeq ≤ r'.ledgerSeq) (s.ledger.rows.filter fun r => r.run = run)

/-- `_assert_request_binding_locked`. -/
def assertRequestBinding (s : LedgerStore) (run : LedgerRun) (recordedAtMs : ℕ) :
    Except StoreError Unit := do
  let journal ← required (s.session.journal.find run.requestId)
    (.notFound "request continuity binding does not exist")
  rejectIf (recordedAtMs < journal.1.createdAtMs)
    (.value "request continuity fact predates its request")
  let current ← required (s.session.generations.find run.requestId)
    (.notFound "request generation does not exist")
  rejectIf (current.runId ≠ run.runId ∨ current.generation ≠ run.generation)
    (.conflict "request continuity fact crossed a generation fence")

def executionContract (s : LedgerStore) (run : LedgerRun) :
    Except StoreError ExecutionTaskContract :=
  required (s.contracts.find run)
    (.conflict "regenerative execution requires an immutable task contract")

/-- An event key that the ledger knows already. -/
def replayAppend (q : LedgerAppend) (existing : LedgerRow) :
    Except StoreError ExecutionLedgerEvent := do
  let event ← existing.event
  let probe ← buildExecutionLedgerEvent q event.ledgerSeq event.prevEventHash
  rejectIf ({ event with createdAtMs := probe.1.createdAtMs, eventHash := probe.1.eventHash } ≠
      probe.1)
    (.conflict "execution ledger event key was reused with different content")
  pure event

def insertLedgerRow (row : LedgerRow) (s : LedgerStore) : Except StoreError LedgerStore := do
  rejectIf ((s.ledger.rows.any row.clashesWith) = true) (.integrity "execution_ledger")
  let ledger ← s.ledger.insert (.integrity "execution_ledger(ledger_seq)") row
  pure { s with ledger := ledger }

/-- The head moves on to the event, when it is still where it was read. -/
def advanceHead (event : ExecutionLedgerEvent) (createdAtMs : ℕ) (s : LedgerStore) :
    Except StoreError LedgerStore := do
  let heads ← match s.heads.find event.run with
    | none =>
      s.heads.insert (.integrity "execution_ledger_head")
        ⟨event.run, event.ledgerSeq, event.eventHash, 1, createdAtMs⟩
    | some head =>
      s.heads.updateOne (.casConflict "execution ledger head changed before append")
        (fun h => h.run = event.run && (h.revision = head.revision && h.headSeq = head.headSeq &&
          h.headHash = head.headHash))
        (fun h => { h with
          headSeq := event.ledgerSeq
          headHash := event.eventHash
          revision := head.revision + 1
          updatedAtMs := createdAtMs })
        (fun _ => rfl)
  pure { s with heads := heads }

/-- A new event follows the one that the head names. -/
def appendNew (q : LedgerAppend) (s : LedgerStore) :
    Except StoreError (ExecutionLedgerEvent × LedgerStore) := do
  let head := s.heads.find q.run
  let event ← buildExecutionLedgerEvent q ((head.map LedgerHead.headSeq).getD 0 + 1)
    ((head.map LedgerHead.headHash).getD zeroHash)
  let inserted ← s.insertLedgerRow (.ofEvent event)
  let s' ← inserted.advanceHead event.1 q.createdAtMs
  pure (event.1, s')

def appendExecutionEvent (q : LedgerAppend) (s : LedgerStore) :
    Except StoreError ((ExecutionLedgerEvent × Bool) × LedgerStore) := do
  rejectIf (q.eventKey = "") (.value "execution event idempotency key or time is invalid")
  s.assertRequestBinding q.run q.createdAtMs
  let _ ← s.executionContract q.run
  match s.ledger.rows.find? fun r => r.run = q.run && r.eventKey = q.eventKey with
  | some existing => do
    let event ← replayAppend q existing
    pure ((event, false), s)
  | none => do
    let (event, s') ← s.appendNew q
    pure ((event, true), s')

/-- Read the rows after the event `lastSeq` with digest `lastHash`. -/
def scanRows (lastSeq : ℕ) (lastHash : Canon) : List LedgerRow → Except StoreError ChainScan
  | [] => .ok (.complete lastSeq lastHash)
  | row :: rows =>
    match row.event with
    | .error (.corruption reason) => .ok (.broken row.ledgerSeq lastSeq lastHash reason)
    | .error e => .error e
    | .ok event =>
      if event.ledgerSeq ≠ lastSeq + 1 ∨ event.prevEventHash ≠ lastHash then
        .ok (.broken event.ledgerSeq lastSeq lastHash
          "execution ledger sequence/hash chain is discontinuous")
      else scanRows (lastSeq + 1) event.eventHash rows

/-- The head names the event `seq` with digest `hash`. -/
def headNames (s : LedgerStore) (run : LedgerRun) (seq : ℕ) (hash : Canon) : Bool :=
  match s.heads.find run with
  | none => seq = 0
  | some head => head.headSeq = seq && head.headHash = hash

/-- The report on a run with `count` rows, with the head compared last. -/
def auditReport (s : LedgerStore) (run : LedgerRun) (count : ℕ) : ChainScan → LedgerAudit
  | .broken firstInvalidSeq lastSeq lastHash reason =>
    .unhealthy firstInvalidSeq lastSeq lastHash reason
  | .complete lastSeq lastHash =>
    if s.headNames run lastSeq lastHash = false then
      .unhealthy (lastSeq + 1) lastSeq lastHash
        "execution ledger head disagrees with durable chain"
    else .healthy lastSeq lastHash count

def auditExecutionLedger (s : LedgerStore) (run : LedgerRun) : Except StoreError LedgerAudit :=
  (scanRows 0 zeroHash (s.runRows run)).map (s.auditReport run (s.runRows run).length)

/-- The rows from a sequence number on are deleted and the head is moved back. -/
def truncateLedger (run : LedgerRun) (firstInvalidSeq lastSeq : ℕ) (lastHash : Canon)
    (recoveredAtMs : ℕ) (s : LedgerStore) : Except StoreError LedgerStore := do
  let ledger := s.ledger.delete fun r => r.run = run && firstInvalidSeq ≤ r.ledgerSeq
  let heads ← match s.heads.find run with
    | none =>
      s.heads.insert (.integrity "execution_ledger_head")
        ⟨run, lastSeq, lastHash, 1, recoveredAtMs⟩
    | some head =>
      pure <| s.heads.update (fun h => h.run = run)
        (fun h => { h with
          headSeq := lastSeq
          headHash := lastHash
          revision := head.revision + 1
          updatedAtMs := recoveredAtMs })
        (fun _ => rfl)
  pure { s with ledger := ledger, heads := heads }

/-- The number of rows of a run from a sequence number on. -/
def countFrom (run : LedgerRun) (firstInvalidSeq : ℕ) (s : LedgerStore) : ℕ :=
  s.ledger.rows.countP fun r => r.run = run && firstInvalidSeq ≤ r.ledgerSeq

/-- The audit, the cut and the second audit are three transactions. -/
def recoverExecutionLedgerTail (run : LedgerRun) (knownGoodSeq recoveredAtMs : ℕ)
    (s : LedgerStore) : LedgerStore × Except StoreError LedgerRecovery :=
  match s.auditExecutionLedger run with
  | .error e => (s, .error e)
  | .ok (.healthy lastSeq lastHash count) =>
    (s, .ok ⟨.healthy lastSeq lastHash count, false, 0, none⟩)
  | .ok (.unhealthy firstInvalidSeq lastSeq lastHash _) =>
    if firstInvalidSeq ≤ knownGoodSeq then
      (s, .error (.corruption "execution ledger corruption predates the known-good checkpoint"))
    else
      match s.truncateLedger run firstInvalidSeq lastSeq lastHash recoveredAtMs with
      | .error e => (s, .error e)
      | .ok s' =>
        match s'.auditExecutionLedger run with
        | .error e => (s', .error e)
        | .ok (.unhealthy ..) =>
          (s', .error (.corruption "execution ledger tail recovery did not restore a valid chain"))
        | .ok (.healthy lastSeq' lastHash' count) =>
          (s', .ok ⟨.healthy lastSeq' lastHash' count, true, s.countFrom run firstInvalidSeq,
            some firstInvalidSeq⟩)

end LedgerStore

end Tiangong
