import Tiangong.SessionStore

/-!
# Operations on sessions and generations

The writers of the generation tables, the completion of a session's request, and the machine of all
of them. The other components of the gateway may write the snapshots of their state machines and
an earlier release may have left an inbound row without its payload.
-/
namespace Tiangong

namespace SessionStore

def generationView (s : SessionStore) (row : GenerationRow) :
    Except StoreError GenerationLeaseView := do
  let fence ← required (s.fences.find row.currentFenceId)
    (.corruption "request generation references a missing fence")
  pure ⟨row, fence.fence.1⟩

theorem closedFence_fenceId (state : GenerationFenceState) (r : FenceRow) :
    ({ r with state := state } : FenceRow).fenceId = r.fenceId := rfl

/-- `UPDATE generation_fences … WHERE fence_id = ? AND state = 'ACTIVE'`. -/
def closeFence (s : SessionStore) (fenceId : Canon) (state : GenerationFenceState) : SessionStore :=
  { s with
    fences := s.fences.update (fun r => r.fenceId = fenceId && r.state = .active)
      (fun r => { r with state := state }) (closedFence_fenceId state) }

/-- The row count of `closeFence`. -/
def openFences (s : SessionStore) (fenceId : Canon) : ℕ :=
  s.fences.rows.countP fun r => r.fenceId = fenceId && r.state = .active

def insertFence (s : SessionStore) (fence : GenerationFence) (recordedAtMs : ℕ) :
    Except StoreError SessionStore := do
  let row ← sealed GenerationFence.admitted (.value "generation fence is invalid") fence
  let fences ← s.fences.insert (.integrity "generation_fences") ⟨row, .active, recordedAtMs⟩
  pure { s with fences := fences }

/-- `UPDATE request_generation … WHERE request_id = ? AND …`; the current fence is unique. -/
def updateGeneration (s : SessionStore) (requestId : Canon) (selected : GenerationRow → Bool)
    (f : GenerationRow → GenerationRow) (hf : ∀ r, (f r).requestId = r.requestId)
    (e : StoreError) : Except StoreError SessionStore := do
  let generations ← s.generations.updateOne e (fun r => r.requestId = requestId && selected r) f hf
  rejectIf (¬ (generations.rows.map (·.currentFenceId)).Nodup)
    (.integrity "request_generation.current_fence_id")
  pure { s with generations := generations }

def insertGeneration (s : SessionStore) (row : GenerationRow) : Except StoreError SessionStore := do
  rejectIf (∃ r ∈ s.generations.rows, r.currentFenceId = row.currentFenceId)
    (.integrity "request_generation.current_fence_id")
  let generations ← s.generations.insert (.integrity "request_generation") row
  pure { s with generations := generations }

/-- The view after a write of the generation. -/
def answerGeneration (s : SessionStore) (requestId : Canon) :
    Except StoreError GenerationLeaseView := do
  let row ← required (s.generations.find requestId)
    (.notFound "request generation does not exist")
  s.generationView row

structure LeaseRequest where
  requestId : Canon
  runId : Canon
  runSequence : ℕ
  generation : ℕ
  gatewayEpoch : ℕ
  leaseId : Canon
  ownerInstanceId : String
  issuedAtMs : ℕ
  leaseDurationMs : ℕ

namespace LeaseRequest

def fields (q : LeaseRequest) (supersedes : Option Canon) : FenceFields :=
  { gatewayEpoch := q.gatewayEpoch
    requestId := q.requestId
    runId := q.runId
    runSequence := q.runSequence
    generation := q.generation
    leaseId := q.leaseId
    issuedAtMs := q.issuedAtMs
    expiresAtMs := q.issuedAtMs + q.leaseDurationMs
    supersedesFenceId := supersedes }

/-- The caller holds this lease already. -/
def holds (q : LeaseRequest) (row : GenerationRow) : Bool :=
  row.status = .active q.leaseId && row.runId = q.runId && row.runSequence = q.runSequence &&
    row.generation = q.generation && row.gatewayEpoch = q.gatewayEpoch &&
    row.ownerInstanceId = q.ownerInstanceId

def row (q : LeaseRequest) (fenceId : Canon) : GenerationRow :=
  { requestId := q.requestId
    runId := q.runId
    runSequence := q.runSequence
    generation := q.generation
    gatewayEpoch := q.gatewayEpoch
    ownerInstanceId := q.ownerInstanceId
    status := .active q.leaseId
    currentFenceId := fenceId
    revision := 1
    updatedAtMs := q.issuedAtMs }

end LeaseRequest

def leaseDurationAdmitted (leaseDurationMs : ℕ) : Bool :=
  1000 ≤ leaseDurationMs && leaseDurationMs ≤ 3600000

def supersedeGeneration (s : SessionStore) (q : LeaseRequest) (current : GenerationLeaseView) :
    Except StoreError (GenerationLeaseView × SessionStore) := do
  rejectIf (q.generation ≠ current.row.generation + 1)
    (.conflict "new generation must advance exactly once")
  rejectIf (q.gatewayEpoch < current.row.gatewayEpoch)
    (.conflict "generation lease cannot move to an older gateway epoch")
  rejectIf (current.row.status.isActive = false)
    (.conflict s!"cannot supersede a terminal request generation ({current.row.status.text})")
  let fence ← deriveGenerationFence (q.fields (some current.fence.fenceId))
  rejectIf (s.openFences current.fence.fenceId ≠ 1)
    (.conflict "current fence is not ACTIVE; refusing to revive a terminal generation")
  let updated ← (s.closeFence current.fence.fenceId .superseded).updateGeneration q.requestId
    (fun r => r.revision = current.row.revision)
    (fun r => { q.row fence.fenceId with requestId := r.requestId, revision := r.revision + 1 })
    (fun _ => rfl) (.casConflict "request generation changed before lease acquisition")
  let s' ← updated.insertFence fence q.issuedAtMs
  let view ← s'.answerGeneration q.requestId
  pure (view, s')

def openGeneration (s : SessionStore) (q : LeaseRequest) :
    Except StoreError (GenerationLeaseView × SessionStore) := do
  let fence ← deriveGenerationFence (q.fields none)
  let inserted ← s.insertGeneration (q.row fence.fenceId)
  let s' ← inserted.insertFence fence q.issuedAtMs
  let view ← s'.answerGeneration q.requestId
  pure (view, s')

def acquireGenerationLease (s : SessionStore) (q : LeaseRequest) :
    Except StoreError ((GenerationLeaseView × Bool) × SessionStore) := do
  rejectIf (q.leaseId = .text "" ∨ q.ownerInstanceId = "" ∨
      leaseDurationAdmitted q.leaseDurationMs = false)
    (.value "generation lease arguments are invalid")
  match s.generations.find q.requestId with
  | some row => do
    let current ← s.generationView row
    if q.holds row then pure ((current, false), s)
    else do
      let (view, s') ← s.supersedeGeneration q current
      pure ((view, true), s')
  | none => do
    let (view, s') ← s.openGeneration q
    pure ((view, true), s')

def heartbeatGenerationLease (s : SessionStore) (requestId leaseId : Canon)
    (ownerInstanceId : String) (nowMs leaseDurationMs : ℕ) :
    Except StoreError (GenerationLeaseView × SessionStore) := do
  rejectIf (leaseDurationAdmitted leaseDurationMs = false)
    (.value "generation heartbeat duration is invalid")
  let row ← required (s.generations.find requestId)
    (.notFound "request generation does not exist")
  let current ← s.generationView row
  rejectIf (row.status ≠ .active leaseId ∨ row.ownerInstanceId ≠ ownerInstanceId ∨
      current.fence.expiresAtMs < nowMs)
    (.conflict "generation lease heartbeat is not authorized")
  let fence ← deriveGenerationFence
    { gatewayEpoch := row.gatewayEpoch
      requestId := row.requestId
      runId := row.runId
      runSequence := row.runSequence
      generation := row.generation
      leaseId := leaseId
      issuedAtMs := nowMs
      expiresAtMs := nowMs + leaseDurationMs
      supersedesFenceId := some current.fence.fenceId }
  let inserted ← (s.closeFence current.fence.fenceId .superseded).insertFence fence nowMs
  let s' ← inserted.updateGeneration requestId
    (fun r => r.revision = row.revision && r.status = .active leaseId)
    (fun r =>
      { r with
        currentFenceId := fence.fenceId
        revision := r.revision + 1
        updatedAtMs := nowMs })
    (fun _ => rfl) (.casConflict "generation lease changed before heartbeat")
  let view ← s'.answerGeneration requestId
  pure (view, s')

def cancelGeneration (s : SessionStore) (requestId : Canon) (reasonCode : String)
    (cancelledAtMs : ℕ) : Except StoreError (GenerationLeaseView × SessionStore) := do
  rejectIf (reasonCode = "") (.value "generation cancellation fact is invalid")
  let row ← required (s.generations.find requestId)
    (.notFound "request generation does not exist")
  let current ← s.generationView row
  match row.status with
  | .cancelled stored => do
    rejectIf (stored ≠ reasonCode) (.conflict "generation cancellation reason changed")
    pure (current, s)
  | .released => .error (.conflict "generation cannot be cancelled")
  | .active _ => do
    rejectIf (cancelledAtMs < row.updatedAtMs) (.conflict "generation cannot be cancelled")
    -- neither row count is checked here
    let closed := s.closeFence current.fence.fenceId .cancelled
    let s' : SessionStore :=
      { closed with
        generations := closed.generations.update
          (fun r => r.requestId = requestId && r.revision = row.revision)
          (fun r =>
            { r with
              status := .cancelled reasonCode
              revision := r.revision + 1
              updatedAtMs := cancelledAtMs })
          fun _ => rfl }
    let view ← s'.answerGeneration requestId
    pure (view, s')

/-- `_release_generation_locked`. -/
def releaseGeneration (s : SessionStore) (requestId : Canon) (releasedAtMs : ℕ) :
    Except StoreError (GenerationLeaseView × SessionStore) := do
  let row ← required (s.generations.find requestId)
    (.notFound "request generation does not exist")
  let current ← s.generationView row
  if row.status.isActive = false then pure (current, s)
  else do
    rejectIf (releasedAtMs < row.updatedAtMs) (.conflict "generation lease cannot be released")
    rejectIf (s.openFences current.fence.fenceId ≠ 1)
      (.casConflict "generation changed before release")
    let s' ← (s.closeFence current.fence.fenceId .released).updateGeneration requestId
      (fun r => r.revision = row.revision && r.status.isActive)
      (fun r =>
        { r with status := .released, revision := r.revision + 1, updatedAtMs := releasedAtMs })
      (fun _ => rfl) (.casConflict "generation changed before release")
    let view ← s'.answerGeneration requestId
    pure (view, s')

def fencedDisposition (row : GenerationRow) (fence : GenerationFence) (observedAtMs : ℕ) :
    ResultDisposition × String × Option FenceDecision :=
  match row.status with
  | .cancelled _ => (.cancelledIgnored, "generation.cancelled", none)
  | .released => (.fencedIgnored, "generation.lease_inactive", none)
  | .active leaseId =>
    let current : CurrentLease :=
      ⟨row.gatewayEpoch, row.requestId, row.runId, row.generation, leaseId⟩
    if fence.generation < row.generation then
      (.lateIgnored, "generation.late_ignored",
        some (evaluateGenerationFence fence { current with runId := fence.runId } observedAtMs))
    else
      let decision := evaluateGenerationFence fence current observedAtMs
      if decision.accepted then (.accepted, "generation.current", some decision)
      else if decision.disposition = .lateGeneration then
        (.lateIgnored, "generation.late_ignored", some decision)
      else (.fencedIgnored, decision.reasonCode, some decision)

def recordFencedResult (s : SessionStore) (fence : GenerationFence) (resultId : String)
    (resultSha256 : Canon) (observedAtMs : ℕ) :
    Except StoreError (FencedResultDecision × SessionStore) := do
  rejectIf (resultId = "") (.value "fenced result fact is invalid")
  match s.fencedResults.find resultId with
  | some stored => do
    rejectIf (stored.fenceId ≠ fence.fenceId ∨ stored.resultSha256 ≠ resultSha256 ∨
        stored.observedAtMs ≠ observedAtMs)
      (.conflict "fenced result ID was reused with different content")
    pure (⟨stored, true⟩, s)
  | none => do
    let row ← required (s.generations.find fence.requestId)
      (.notFound "fenced result references unknown coordination state")
    let _ ← required (s.fences.find fence.fenceId)
      (.notFound "fenced result references unknown coordination state")
    let _ ← s.generationView row
    let outcome := fencedDisposition row fence observedAtMs
    let result : FencedResult :=
      { resultId := resultId
        requestId := fence.requestId
        runId := fence.runId
        generation := fence.generation
        fenceId := fence.fenceId
        disposition := outcome.1
        reasonCode := outcome.2.1
        resultSha256 := resultSha256
        observedAtMs := observedAtMs
        fenceDecision := outcome.2.2 }
    let results ← s.fencedResults.insert (.integrity "fenced_results") result
    pure (⟨result, false⟩, { s with fencedResults := results })

def activationLeaseId (requestId runId sessionScopeHash : Canon) (gatewayEpoch : ℕ)
    (ownerInstanceId : String) : Canon :=
  .ident "activation-" <| .ofList
    [.text "tiangong.gateway.active-request-lease.v1", requestId, runId, .num 1, .num 1,
      .num gatewayEpoch, .text ownerInstanceId, sessionScopeHash]

def recoveryLeaseId (row : GenerationRow) (gatewayEpoch : ℕ) (ownerInstanceId : String) : Canon :=
  .ident "recovery-" <| .ofList
    [.num gatewayEpoch, .num row.generation, .text ownerInstanceId, row.currentFenceId,
      row.requestId, row.runId]

def ownerAdmitted (ownerInstanceId : String) : Bool :=
  1 ≤ ownerInstanceId.length && ownerInstanceId.length ≤ 160

def availableEnvelope (row : InboundRow) (e : StoreError) : Except StoreError InboundEnvelope :=
  match row.payload with
  | .available envelope => .ok envelope
  | .legacyUnavailable => .error e

/-- The lease under which an active request starts its first run. -/
def activationRequest (requestId sessionScopeHash : Canon) (gatewayEpoch : ℕ)
    (ownerInstanceId : String) (activatedAtMs leaseDurationMs : ℕ) : LeaseRequest :=
  { requestId := requestId
    runId := runIdOf requestId 1
    runSequence := 1
    generation := 1
    gatewayEpoch := gatewayEpoch
    leaseId := activationLeaseId requestId (runIdOf requestId 1) sessionScopeHash gatewayEpoch
      ownerInstanceId
    ownerInstanceId := ownerInstanceId
    issuedAtMs := activatedAtMs
    leaseDurationMs := leaseDurationMs }

def activeRequest (s : SessionStore) (requestId sessionScopeHash : Canon) (activatedAtMs : ℕ) :
    Except StoreError (RequestJournalEntry × InboundEnvelope × QueueRow) := do
  let entry ← required (s.journal.find requestId) (.notFound "active request does not exist")
  let queue ← required (s.queueRow requestId) (.notFound "active request does not exist")
  let actor ← required (s.actors.find sessionScopeHash) (.notFound "active request does not exist")
  let inbound ← required (s.inbound.find requestId)
    (.corruption "active request is missing its inbound payload marker")
  let envelope ← availableEnvelope inbound
    (.conflict "active request inbound payload is unavailable")
  rejectIf (entry.1.sessionScopeHash ≠ sessionScopeHash ∨ envelope.inboundId ≠ entry.1.inboundId ∨
      envelope.idempotencyKey ≠ entry.1.idempotencyKey ∨
      envelope.conversationScopeHash ≠ entry.1.sessionScopeHash ∨
      queue.sessionScopeHash ≠ sessionScopeHash ∨ queue.progress.isActive = false ∨
      actor.activeRequestId ≠ some requestId)
    (.conflict "only the current session request may be activated")
  rejectIf (activatedAtMs < max entry.1.createdAtMs (queue.progress.activatedAtMs.getD 0))
    (.value "request activation predates durable session activation")
  pure (entry.1, envelope, queue)

/-- The activation that the same owner repeats. -/
def replayActivation (s : SessionStore) (q : LeaseRequest)
    (request : RequestJournalEntry × InboundEnvelope × QueueRow) (row : GenerationRow) :
    Except StoreError ActiveRequestActivation := do
  let current ← s.generationView row
  rejectIf (q.holds row = false) (.conflict "active request is already owned by another run")
  rejectIf (current.fence.expiresAtMs < q.issuedAtMs)
    (.conflict "active request generation lease has expired")
  let snapshot ← required (s.aggregates.find (.request, q.requestId))
    (.corruption "active request generation is missing request authority")
  rejectIf (snapshot.requestId ≠ q.requestId ∨ snapshot.runId ≠ q.runId ∨
      snapshot.generation ≠ q.generation)
    (.corruption "request authority disagrees with active generation")
  pure ⟨request.1, request.2.1, request.2.2, current, snapshot, false, true⟩

def firstActivation (s : SessionStore) (q : LeaseRequest)
    (request : RequestJournalEntry × InboundEnvelope × QueueRow) :
    Except StoreError (ActiveRequestActivation × SessionStore) := do
  rejectIf ((s.aggregates.find (.request, q.requestId)).isSome = true ∨
      ∃ a ∈ s.aggregates.rows, a.requestId = q.requestId)
    (.corruption "unclaimed request already has aggregate state")
  let fence ← deriveGenerationFence (q.fields none)
  let inserted ← s.insertGeneration (q.row fence.fenceId)
  let fenced ← inserted.insertFence fence q.issuedAtMs
  let snapshot : AggregateRow :=
    { machine := .request
      entityId := q.requestId
      requestId := q.requestId
      runId := q.runId
      generation := q.generation
      state := .received
      createdAtMs := q.issuedAtMs }
  let aggregates ← fenced.aggregates.insert (.integrity "aggregate_state") snapshot
  let s' : SessionStore := { fenced with aggregates := aggregates }
  let view ← s'.answerGeneration q.requestId
  pure (⟨request.1, request.2.1, request.2.2, view, snapshot, true, false⟩, s')

def activateRequestRun (s : SessionStore) (requestId sessionScopeHash : Canon) (gatewayEpoch : ℕ)
    (ownerInstanceId : String) (activatedAtMs leaseDurationMs : ℕ) :
    Except StoreError (ActiveRequestActivation × SessionStore) := do
  rejectIf (gatewayEpoch < 1 ∨ ownerAdmitted ownerInstanceId = false ∨
      leaseDurationAdmitted leaseDurationMs = false)
    (.value "active request activation arguments are invalid")
  let request ← s.activeRequest requestId sessionScopeHash activatedAtMs
  let q := activationRequest requestId sessionScopeHash gatewayEpoch ownerInstanceId activatedAtMs
    leaseDurationMs
  match s.generations.find requestId with
  | some row => do
    let activation ← s.replayActivation q request row
    pure (activation, s)
  | none => s.firstActivation q request

/-- The generation is active, its open fence has expired, and its request is at its turn. -/
def expiredCandidate (s : SessionStore) (gatewayEpoch recoveredAtMs : ℕ) (row : GenerationRow) :
    Bool :=
  row.status.isActive && row.gatewayEpoch ≤ gatewayEpoch &&
    (s.fences.find row.currentFenceId).any (fun r =>
      r.state = .active && r.fence.1.expiresAtMs ≤ recoveredAtMs) &&
    (s.queueRow row.requestId).any fun r => r.progress.isActive

/-- What the search for any candidate asks for besides. -/
def openCandidate (s : SessionStore) (row : GenerationRow) : Bool :=
  (s.inbound.find row.requestId).any (fun r => r.payload ≠ .legacyUnavailable) &&
    (s.aggregates.find (.request, row.requestId)).any fun a =>
      a.state ∉ MachineName.request.terminalStates

/-- `ORDER BY activated_at_ms, session_scope_hash, sequence`, for the given order of the hashes. -/
def candidateBefore (s : SessionStore) (scopeBefore : Canon → Canon → Bool)
    (row row' : GenerationRow) : Bool :=
  match s.queueRow row.requestId, s.queueRow row'.requestId with
  | some q, some q' =>
    let activated := q.progress.activatedAtMs.getD 0
    let activated' := q'.progress.activatedAtMs.getD 0
    if activated = activated' then
      if q.sessionScopeHash = q'.sessionScopeHash then q.sequence ≤ q'.sequence
      else scopeBefore q.sessionScopeHash q'.sessionScopeHash
    else activated < activated'
  | _, _ => true

def recoveryCandidate (s : SessionStore) (scopeBefore : Canon → Canon → Bool)
    (gatewayEpoch recoveredAtMs : ℕ) : Option Canon → Option GenerationRow
  | some requestId =>
    (s.generations.find requestId).filter (s.expiredCandidate gatewayEpoch recoveredAtMs)
  | none =>
    (orderBy (s.candidateBefore scopeBefore) <| s.generations.rows.filter fun row =>
      s.expiredCandidate gatewayEpoch recoveredAtMs row && s.openCandidate row).head?

def recoverableRequest (s : SessionStore) (row : GenerationRow) : Except StoreError
    (RequestJournalEntry × InboundEnvelope × QueueRow × AggregateRow) := do
  let incomplete : StoreError := .corruption "recoverable request is incomplete"
  let entry ← required (s.journal.find row.requestId) incomplete
  let inbound ← required (s.inbound.find row.requestId) incomplete
  let queue ← required (s.queueRow row.requestId) incomplete
  let snapshot ← required (s.aggregates.find (.request, row.requestId)) incomplete
  let envelope ← availableEnvelope inbound (.corruption "stored inbound envelope is invalid")
  rejectIf (entry.1.requestId ≠ row.requestId ∨ envelope.inboundId ≠ entry.1.inboundId ∨
      envelope.idempotencyKey ≠ entry.1.idempotencyKey ∨ queue.progress.isActive = false ∨
      queue.sessionScopeHash ≠ entry.1.sessionScopeHash ∨ snapshot.requestId ≠ row.requestId ∨
      snapshot.runId ≠ row.runId ∨ snapshot.generation ≠ row.generation ∨
      snapshot.state ∈ MachineName.request.terminalStates)
    (.corruption "recoverable request scope is inconsistent")
  pure (entry.1, envelope, queue, snapshot)

def recoveryFields (row : GenerationRow) (gatewayEpoch : ℕ) (ownerInstanceId : String)
    (recoveredAtMs leaseDurationMs : ℕ) : FenceFields :=
  { gatewayEpoch := gatewayEpoch
    requestId := row.requestId
    runId := row.runId
    runSequence := row.runSequence
    generation := row.generation
    leaseId := recoveryLeaseId row gatewayEpoch ownerInstanceId
    issuedAtMs := recoveredAtMs
    expiresAtMs := recoveredAtMs + leaseDurationMs
    supersedesFenceId := some row.currentFenceId }

def recoverGeneration (s : SessionStore) (row : GenerationRow) (gatewayEpoch : ℕ)
    (ownerInstanceId : String) (recoveredAtMs leaseDurationMs : ℕ) :
    Except StoreError (ActiveRequestActivation × SessionStore) := do
  let current ← s.generationView row
  rejectIf (row.status.isActive = false ∨ gatewayEpoch < row.gatewayEpoch ∨
      recoveredAtMs < current.fence.expiresAtMs)
    (.conflict "active request is not recoverable")
  let (entry, envelope, queue, snapshot) ← s.recoverableRequest row
  let fields := recoveryFields row gatewayEpoch ownerInstanceId recoveredAtMs leaseDurationMs
  let fence ← deriveGenerationFence fields
  rejectIf (s.openFences row.currentFenceId ≠ 1)
    (.casConflict "active request changed before recovery")
  let inserted ← (s.closeFence row.currentFenceId .superseded).insertFence fence recoveredAtMs
  let s' ← inserted.updateGeneration row.requestId
    (fun r => r.currentFenceId = row.currentFenceId && r.status.isActive)
    (fun r =>
      { r with
        gatewayEpoch := gatewayEpoch
        status := .active fields.leaseId
        ownerInstanceId := ownerInstanceId
        currentFenceId := fence.fenceId
        revision := r.revision + 1
        updatedAtMs := recoveredAtMs })
    (fun _ => rfl) (.casConflict "active request changed before recovery")
  let view ← s'.answerGeneration row.requestId
  pure (⟨entry, envelope, queue, view, snapshot, true, false⟩, s')

def recoverExpiredActiveRequest (s : SessionStore) (scopeBefore : Canon → Canon → Bool)
    (gatewayEpoch : ℕ) (ownerInstanceId : String) (recoveredAtMs leaseDurationMs : ℕ)
    (requestId : Option Canon) :
    Except StoreError (Option ActiveRequestActivation × SessionStore) := do
  rejectIf (gatewayEpoch < 1 ∨ ownerAdmitted ownerInstanceId = false ∨
      leaseDurationAdmitted leaseDurationMs = false)
    (.value "active request recovery arguments are invalid")
  match s.recoveryCandidate scopeBefore gatewayEpoch recoveredAtMs requestId with
  | none => pure (none, s)
  | some row => do
    let (activation, s') ←
      s.recoverGeneration row gatewayEpoch ownerInstanceId recoveredAtMs leaseDurationMs
    pure (some activation, s')

def nextQueued (s : SessionStore) (sessionScopeHash : Canon) : Option QueueRow :=
  (orderBy (fun r r' => r.sequence ≤ r'.sequence) <|
    (s.sessionRows sessionScopeHash).filter (·.progress.isQueued)).head?

/-- `UPDATE session_queue SET … WHERE session_scope_hash = ? AND request_id = ? AND state = ?`. -/
def updateQueueRow (s : SessionStore) (row : QueueRow) (selected : QueueProgress → Bool)
    (progress : QueueProgress) (e : StoreError) : Except StoreError SessionStore := do
  let queue ← s.queue.updateOne e
    (fun r => (r.sessionScopeHash, r.sequence) = (row.sessionScopeHash, row.sequence) &&
      (r.requestId = row.requestId && selected r.progress))
    (fun r => { r with progress := progress }) (fun _ => rfl) (fun _ => rfl)
  pure { s with queue := queue }

/-- The next queued request of the session becomes active. -/
def promoteNext (s : SessionStore) (sessionScopeHash : Canon) (activatedAtMs : ℕ) :
    Except StoreError (Option QueueRow × SessionStore) :=
  match s.nextQueued sessionScopeHash with
  | none => pure (none, s)
  | some next => do
    rejectIf (s.hasActive sessionScopeHash = true) (.integrity "session_one_active_request")
    let s' ← s.updateQueueRow next (·.isQueued) (.active activatedAtMs)
      (.casConflict "next session request changed before activation")
    pure (some { next with progress := .active activatedAtMs }, s')

def releaseIf (s : SessionStore) (release : Bool) (requestId : Canon) (releasedAtMs : ℕ) :
    Except StoreError SessionStore :=
  if release then do
    let (_, s') ← s.releaseGeneration requestId releasedAtMs
    pure s'
  else pure s

/-- The active request of the session completes and the next one takes its turn. -/
def completeActive (s : SessionStore) (actor : SessionActor) (row : QueueRow)
    (activatedAtMs completedAtMs : ℕ) : Except StoreError (Option QueueRow × SessionStore) := do
  rejectIf (actor.activeRequestId ≠ some row.requestId)
    (.corruption "active session request disagrees with actor")
  rejectIf (completedAtMs < activatedAtMs) (.value "session completion predates activation")
  let completed ← s.updateQueueRow row (·.isActive) (.completed activatedAtMs completedAtMs)
    (.casConflict "session request changed before completion")
  let (next, promoted) ← completed.promoteNext row.sessionScopeHash completedAtMs
  let actors ← promoted.actors.updateOne
    (.casConflict "session actor changed before completion")
    (fun a => a.sessionScopeHash = row.sessionScopeHash &&
      (a.revision = actor.revision && a.activeRequestId = some row.requestId))
    (fun a =>
      { a with
        activeRequestId := next.map (·.requestId)
        revision := actor.revision + 1
        updatedAtMs := completedAtMs })
    fun _ => rfl
  pure (next, { promoted with actors := actors })

def completeSessionRequest (s : SessionStore) (sessionScopeHash requestId : Canon)
    (completedAtMs : ℕ) (release : Bool) :
    Except StoreError (Option QueueRow × SessionStore) := do
  let actor ← required (s.actors.find sessionScopeHash)
    (.notFound "session request does not exist")
  let row ← required ((s.sessionRows sessionScopeHash).find? fun r => r.requestId = requestId)
    (.notFound "session request does not exist")
  match row.progress with
  | .queued => .error (.conflict "queued request cannot complete before activation")
  | .completed .. => do
    let s' ← s.releaseIf release requestId completedAtMs
    pure (actor.activeRequestId.bind s'.queueRow, s')
  | .active activatedAtMs => do
    let (next, completed) ← s.completeActive actor row activatedAtMs completedAtMs
    let s' ← completed.releaseIf release requestId completedAtMs
    pure (next, s')

end SessionStore

inductive SessionOp where
  | registerRequest (envelope : InboundEnvelope) (ingressSha256 : Canon) (createdAtMs : ℕ)
  | completeSessionRequest (sessionScopeHash requestId : Canon) (completedAtMs : ℕ)
      (release : Bool)
  | activateRequestRun (requestId sessionScopeHash : Canon) (gatewayEpoch : ℕ)
      (ownerInstanceId : String) (activatedAtMs leaseDurationMs : ℕ)
  | acquireGenerationLease (q : SessionStore.LeaseRequest)
  | heartbeatGenerationLease (requestId leaseId : Canon) (ownerInstanceId : String)
      (nowMs leaseDurationMs : ℕ)
  | recoverExpiredActiveRequest (scopeBefore : Canon → Canon → Bool) (gatewayEpoch : ℕ)
      (ownerInstanceId : String) (recoveredAtMs leaseDurationMs : ℕ) (requestId : Option Canon)
  | cancelGeneration (requestId : Canon) (reasonCode : String) (cancelledAtMs : ℕ)
  | releaseGeneration (requestId : Canon) (releasedAtMs : ℕ)
  | recordFencedResult (fence : GenerationFence) (resultId : String) (resultSha256 : Canon)
      (observedAtMs : ℕ)
  /-- Another component writes the snapshots of its state machines. -/
  | writeAggregates (aggregates : Table fun a : AggregateRow => (a.machine, a.entityId))
  /-- An inbound row that an earlier release left without its payload. -/
  | loseInboundPayload (requestId : Canon)

inductive SessionAnswer where
  | registered (registration : JournalRegistration)
  | completed (next : Option QueueRow)
  | activated (activation : ActiveRequestActivation)
  | leased (view : GenerationLeaseView) (created : Bool)
  | view (view : GenerationLeaseView)
  | recovered (activation : Option ActiveRequestActivation)
  | recorded (decision : FencedResultDecision)
  | done
  deriving DecidableEq, Repr

def SessionStore.apply (s : SessionStore) :
    SessionOp → SessionStore × Except StoreError SessionAnswer
  | .registerRequest envelope ingressSha256 createdAtMs =>
    committed s .registered (s.registerRequest envelope ingressSha256 createdAtMs)
  | .completeSessionRequest sessionScopeHash requestId completedAtMs release =>
    committed s .completed
      (s.completeSessionRequest sessionScopeHash requestId completedAtMs release)
  | .activateRequestRun requestId sessionScopeHash gatewayEpoch owner activatedAtMs duration =>
    committed s .activated
      (s.activateRequestRun requestId sessionScopeHash gatewayEpoch owner activatedAtMs duration)
  | .acquireGenerationLease q =>
    committed s (fun a => .leased a.1 a.2) (s.acquireGenerationLease q)
  | .heartbeatGenerationLease requestId leaseId owner nowMs duration =>
    committed s .view (s.heartbeatGenerationLease requestId leaseId owner nowMs duration)
  | .recoverExpiredActiveRequest scopeBefore gatewayEpoch owner recoveredAtMs duration requestId =>
    committed s .recovered (s.recoverExpiredActiveRequest scopeBefore gatewayEpoch owner
      recoveredAtMs duration requestId)
  | .cancelGeneration requestId reasonCode cancelledAtMs =>
    committed s .view (s.cancelGeneration requestId reasonCode cancelledAtMs)
  | .releaseGeneration requestId releasedAtMs =>
    committed s .view (s.releaseGeneration requestId releasedAtMs)
  | .recordFencedResult fence resultId resultSha256 observedAtMs =>
    committed s .recorded (s.recordFencedResult fence resultId resultSha256 observedAtMs)
  | .writeAggregates aggregates => ({ s with aggregates := aggregates }, .ok .done)
  | .loseInboundPayload requestId =>
    ({ s with
        inbound := s.inbound.update (fun r => r.requestId = requestId)
          (fun r => { r with payload := .legacyUnavailable }) fun _ => rfl },
      .ok .done)

def sessionMachine : Machine SessionStore SessionOp (Except StoreError SessionAnswer) :=
  ⟨SessionStore.apply⟩

end Tiangong
