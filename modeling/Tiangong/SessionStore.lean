import Tiangong.GenerationFences
import Tiangong.Transitions

/-!
# Sessions and generations of the store

A session is served by one actor, which admits its requests one after the other. The active request
works under a generation whose lease is named by a fence. Each operation below is one transaction:
it refuses before it writes, or returns its answer with the new tables.
-/
namespace Tiangong

inductive InboundChannel where
  | desktop | wechat | feishu | system | test
  deriving DecidableEq, Repr

/-- A channel event. Its attachments and its task context are read as a whole only. -/
structure InboundEnvelope where
  schemaVersion : SchemaVersion
  inboundId : String
  channel : InboundChannel
  tenantId : String
  linkAccountId : String
  conversationRef : String
  conversationScopeHash : Canon
  principalScopeHash : Canon
  messageScopeHash : Canon
  channelMessageRef : String
  senderRef : String
  receivedAtMs : ℕ
  idempotencyKey : Canon
  channelMetadataHash : Canon
  text : String
  taskContext : Option Canon
  attachments : List Canon
  replyToMessageRef : Option String
  rootMessageRef : Option String
  sequence : Option ℕ
  deriving DecidableEq, Repr

/-- A desktop retry may differ in the time of receipt and in nothing else. -/
def desktopRetryEquivalent (stored candidate : InboundEnvelope) : Bool :=
  stored.channel = .desktop && candidate.channel = .desktop &&
    decide ({ stored with receivedAtMs := candidate.receivedAtMs } = candidate)

structure RequestJournalEntry where
  schemaVersion : SchemaVersion
  requestId : Canon
  idempotencyKey : Canon
  inboundId : String
  sessionScopeHash : Canon
  ingressSha256 : Canon
  createdAtMs : ℕ
  entrySha256 : Canon
  deriving DecidableEq, Repr

namespace RequestJournalEntry

def computedSha256 (e : RequestJournalEntry) : Canon :=
  .sha256 <| .ofList
    [e.schemaVersion.canon, e.requestId, e.idempotencyKey, .text e.inboundId, e.sessionScopeHash,
      e.ingressSha256, .num e.createdAtMs]

/-- The digest, and the identifier that the model validator demands. -/
def admitted (e : RequestJournalEntry) : Bool :=
  e.entrySha256 = e.computedSha256 && e.requestId = requestIdOf e.idempotencyKey

def ofEnvelope (envelope : InboundEnvelope) (ingressSha256 : Canon) (createdAtMs : ℕ) :
    RequestJournalEntry :=
  let unsigned : RequestJournalEntry :=
    { schemaVersion := .current
      requestId := requestIdOf envelope.idempotencyKey
      idempotencyKey := envelope.idempotencyKey
      inboundId := envelope.inboundId
      sessionScopeHash := envelope.conversationScopeHash
      ingressSha256 := ingressSha256
      createdAtMs := createdAtMs
      entrySha256 := .null }
  { unsigned with entrySha256 := unsigned.computedSha256 }

lemma ofEnvelope_admitted (envelope : InboundEnvelope) (ingressSha256 : Canon)
    (createdAtMs : ℕ) : (ofEnvelope envelope ingressSha256 createdAtMs).admitted = true := by
  simp [admitted, ofEnvelope, computedSha256]

/-- The entries share a value that the journal keeps unique. -/
def sharesIdentity (e e' : RequestJournalEntry) : Bool :=
  e.requestId = e'.requestId || e.idempotencyKey = e'.idempotencyKey || e.inboundId = e'.inboundId

/-- The stable fields of a repeated registration. -/
def sameRequest (e e' : RequestJournalEntry) : Bool :=
  e.requestId = e'.requestId && e.idempotencyKey = e'.idempotencyKey &&
    e.inboundId = e'.inboundId && e.sessionScopeHash = e'.sessionScopeHash

end RequestJournalEntry

inductive InboundPayload where
  | available (envelope : InboundEnvelope)
  | legacyUnavailable
  deriving DecidableEq, Repr

structure InboundRow where
  requestId : Canon
  payload : InboundPayload
  recordedAtMs : ℕ
  deriving DecidableEq, Repr

structure SessionActor where
  sessionScopeHash : Canon
  activeRequestId : Option Canon
  nextSequence : ℕ
  revision : ℕ
  updatedAtMs : ℕ
  deriving DecidableEq, Repr

/-- The state of a queue row, with the columns its `CHECK` demands in that state. -/
inductive QueueProgress where
  | queued
  | active (activatedAtMs : ℕ)
  | completed (activatedAtMs completedAtMs : ℕ)
  deriving DecidableEq, Repr

namespace QueueProgress

def isQueued : QueueProgress → Bool
  | queued => true
  | _ => false

def isActive : QueueProgress → Bool
  | active _ => true
  | _ => false

def isCompleted : QueueProgress → Bool
  | completed .. => true
  | _ => false

def activatedAtMs : QueueProgress → Option ℕ
  | queued => none
  | active activatedAt => some activatedAt
  | completed activatedAt _ => some activatedAt

end QueueProgress

structure QueueRow where
  sessionScopeHash : Canon
  sequence : ℕ
  requestId : Canon
  progress : QueueProgress
  enqueuedAtMs : ℕ
  deriving DecidableEq, Repr

structure JournalRegistration where
  entry : RequestJournalEntry
  queueSequence : ℕ
  queueState : QueueProgress
  createdByThisCall : Bool
  duplicate : Bool
  deriving DecidableEq, Repr

/-- The status of a generation, with the columns its `CHECK` demands in that status. -/
inductive RequestGenerationStatus where
  | active (leaseId : Canon)
  | cancelled (reasonCode : String)
  | released
  deriving DecidableEq, Repr

def RequestGenerationStatus.isActive : RequestGenerationStatus → Bool
  | active _ => true
  | _ => false

def RequestGenerationStatus.text : RequestGenerationStatus → String
  | active _ => "ACTIVE"
  | cancelled _ => "CANCELLED"
  | released => "RELEASED"

structure GenerationRow where
  requestId : Canon
  runId : Canon
  runSequence : ℕ
  generation : ℕ
  gatewayEpoch : ℕ
  ownerInstanceId : String
  status : RequestGenerationStatus
  currentFenceId : Canon
  revision : ℕ
  updatedAtMs : ℕ
  deriving DecidableEq, Repr

inductive GenerationFenceState where
  | active | superseded | cancelled | released
  deriving DecidableEq, Repr

structure FenceRow where
  fence : Sealed GenerationFence.admitted
  state : GenerationFenceState
  recordedAtMs : ℕ

def FenceRow.fenceId (r : FenceRow) : Canon := r.fence.1.fenceId

/-- `GenerationLeaseView`: a generation with its current fence. -/
structure GenerationLeaseView where
  row : GenerationRow
  fence : GenerationFence
  deriving DecidableEq, Repr

inductive ResultDisposition where
  | accepted | lateIgnored | cancelledIgnored | fencedIgnored
  deriving DecidableEq, Repr

structure FencedResult where
  resultId : String
  requestId : Canon
  runId : Canon
  generation : ℕ
  fenceId : Canon
  disposition : ResultDisposition
  reasonCode : String
  resultSha256 : Canon
  observedAtMs : ℕ
  fenceDecision : Option FenceDecision
  deriving DecidableEq, Repr

/-- The stored result with `persisted_by_this_call` and `duplicate`. -/
structure FencedResultDecision where
  result : FencedResult
  duplicate : Bool
  deriving DecidableEq, Repr

/-- A snapshot row of another component's state machine, as far as the operations below read it. -/
structure AggregateRow where
  machine : MachineName
  entityId : Canon
  requestId : Canon
  runId : Canon
  generation : ℕ
  state : StateValue
  createdAtMs : ℕ
  deriving DecidableEq, Repr

structure ActiveRequestActivation where
  entry : RequestJournalEntry
  envelope : InboundEnvelope
  queue : QueueRow
  generation : GenerationLeaseView
  requestSnapshot : AggregateRow
  createdByThisCall : Bool
  duplicate : Bool
  deriving DecidableEq, Repr

structure SessionStore where
  journal : IndexedTable (fun e : Sealed RequestJournalEntry.admitted => e.1.requestId)
    (fun e => e.1.inboundId)
  inbound : Table InboundRow.requestId
  actors : Table SessionActor.sessionScopeHash
  queue : IndexedTable (fun r : QueueRow => (r.sessionScopeHash, r.sequence)) QueueRow.requestId
  generations : Table GenerationRow.requestId
  fences : Table FenceRow.fenceId
  fencedResults : Table FencedResult.resultId
  aggregates : Table fun a : AggregateRow => (a.machine, a.entityId)

namespace SessionStore

def empty : SessionStore :=
  { journal := .empty, inbound := .empty, actors := .empty, queue := .empty, generations := .empty
    fences := .empty, fencedResults := .empty, aggregates := .empty }

def queueRow (s : SessionStore) (requestId : Canon) : Option QueueRow :=
  s.queue.rows.find? fun r => r.requestId = requestId

def sessionRows (s : SessionStore) (sessionScopeHash : Canon) : List QueueRow :=
  s.queue.rows.filter fun r => r.sessionScopeHash = sessionScopeHash

/-- `session_one_active_request`: a session has no second active row. -/
def hasActive (s : SessionStore) (sessionScopeHash : Canon) : Bool :=
  (s.sessionRows sessionScopeHash).any (·.progress.isActive)

/-- A registration whose identity the journal knows already. -/
def replayRegistration (s : SessionStore) (stored entry : RequestJournalEntry)
    (envelope : InboundEnvelope) : Except StoreError (JournalRegistration × SessionStore) := do
  rejectIf (stored.sameRequest entry = false)
    (.conflict "inbound identity was reused for another request")
  let inbound ← required (s.inbound.find stored.requestId)
    (.corruption "journal request is missing its inbound payload marker")
  let s' ← match inbound.payload with
    | .available storedEnvelope => do
      rejectIf (storedEnvelope ≠ envelope ∧ desktopRetryEquivalent storedEnvelope envelope = false)
        (.conflict "inbound identity was reused with another envelope")
      rejectIf (stored.ingressSha256 ≠ entry.ingressSha256 ∧
          desktopRetryEquivalent storedEnvelope envelope = false)
        (.conflict "inbound identity was reused with another request")
      pure s
    | .legacyUnavailable => do
      rejectIf (stored.ingressSha256 ≠ entry.ingressSha256)
        (.conflict "legacy inbound identity digest changed")
      pure { s with
        inbound := s.inbound.update
          (fun r => r.requestId = stored.requestId && r.payload = .legacyUnavailable)
          (fun r => { r with payload := .available envelope }) fun _ => rfl }
  let queue ← required (s.queueRow stored.requestId)
    (.corruption "journal request is missing its session queue entry")
  pure (⟨stored, queue.sequence, queue.progress, false, true⟩, s')

def insertQueueRow (s : SessionStore) (row : QueueRow) : Except StoreError SessionStore := do
  rejectIf (row.progress.isActive = true ∧ s.hasActive row.sessionScopeHash = true)
    (.integrity "session_one_active_request")
  let queue ← s.queue.insert (.integrity "session_queue") row
  pure { s with queue := queue }

/-- The actor of the session takes the request: at once when it is idle, else in its turn. -/
def admitRequest (s : SessionStore) (entry : RequestJournalEntry) :
    Except StoreError ((ℕ × QueueProgress) × SessionStore) :=
  match s.actors.find entry.sessionScopeHash with
  | none => do
    let actors ← s.actors.insert (.integrity "session_actor")
      ⟨entry.sessionScopeHash, some entry.requestId, 2, 1, entry.createdAtMs⟩
    pure ((1, .active entry.createdAtMs), { s with actors := actors })
  | some actor => do
    let progress : QueueProgress :=
      if actor.activeRequestId = none then .active entry.createdAtMs else .queued
    let actors ← s.actors.updateOne
      (.casConflict "session actor changed before request registration")
      (fun a => a.sessionScopeHash = entry.sessionScopeHash &&
        (a.revision = actor.revision && a.nextSequence = actor.nextSequence))
      (fun a =>
        { a with
          activeRequestId := if actor.activeRequestId = none then some entry.requestId
            else actor.activeRequestId
          nextSequence := actor.nextSequence + 1
          revision := actor.revision + 1
          updatedAtMs := entry.createdAtMs })
      fun _ => rfl
    pure ((actor.nextSequence, progress), { s with actors := actors })

def enqueueRequest (s : SessionStore) (entry : Sealed RequestJournalEntry.admitted)
    (envelope : InboundEnvelope) : Except StoreError (JournalRegistration × SessionStore) := do
  let journal ← s.journal.insert (.integrity "request_journal") entry
  let inbound ← s.inbound.insert (.integrity "request_inbound_payload")
    ⟨entry.1.requestId, .available envelope, entry.1.createdAtMs⟩
  let ((sequence, progress), admitted) ←
    ({ s with journal := journal, inbound := inbound }).admitRequest entry.1
  let queued ← admitted.insertQueueRow
    ⟨entry.1.sessionScopeHash, sequence, entry.1.requestId, progress, entry.1.createdAtMs⟩
  pure (⟨entry.1, sequence, progress, true, false⟩, queued)

def registerRequest (s : SessionStore) (envelope : InboundEnvelope) (ingressSha256 : Canon)
    (createdAtMs : ℕ) : Except StoreError (JournalRegistration × SessionStore) := do
  rejectIf (createdAtMs < envelope.receivedAtMs)
    (.value "request journal time predates inbound receipt")
  let entry := RequestJournalEntry.ofEnvelope envelope ingressSha256 createdAtMs
  match s.journal.rows.filter fun e => e.1.sharesIdentity entry with
  | [] => s.enqueueRequest ⟨entry, RequestJournalEntry.ofEnvelope_admitted _ _ _⟩ envelope
  | [stored] => s.replayRegistration stored.1 entry envelope
  | _ => .error (.corruption "request journal identities point to different entries")

end SessionStore

end Tiangong
