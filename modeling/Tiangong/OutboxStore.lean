import Tiangong.EffectOperations
import Tiangong.Leases

/-!
# The delivery outbox of the store

An outbox row is an intent with its lease; a boundary row records that a worker crossed the point
after which the side effect may have happened. Each operation below is one transaction: it refuses
before it writes, or returns its answer with the new tables.

The rows are a table of leases with a single crossing (`DeliveryStore.leases`), and each operation
is one of its moves.
-/
namespace Tiangong

inductive IntentKind where
  | execution | lifeRead | lifeEvent | delivery | control
  deriving DecidableEq, Repr

/-- An immutable side-effect intent. Its identifier is taken as given. -/
structure OutboxIntent where
  outboxId : String
  effectId : String
  requestId : String
  runId : String
  generation : ℕ
  destinationComponentId : ComponentId
  intentKind : IntentKind
  payloadObjectId : String
  payloadSha256 : Canon
  createdAtMs : ℕ
  deriving DecidableEq, Repr

inductive OutboxOutcome where
  | acked | ambiguous
  deriving DecidableEq, Repr

/-- The state of an outbox row, with the columns its `CHECK` demands in that state. -/
inductive OutboxProgress where
  | pending
  | claimed (claimedBy : String) (claimExpiresAtMs : ℕ)
  | settled (outcome : OutboxOutcome) (claimedBy : String) (claimExpiresAtMs dispatchedAtMs : ℕ)
      (resultSha256 : Canon)
  deriving DecidableEq, Repr

inductive OutboxState where
  | pending | claimed | acked | ambiguous
  deriving DecidableEq, Repr

namespace OutboxProgress

def state : OutboxProgress → OutboxState
  | pending => .pending
  | claimed .. => .claimed
  | settled .acked .. => .acked
  | settled .ambiguous .. => .ambiguous

def isSettled : OutboxProgress → Bool
  | settled .. => true
  | _ => false

def settle (outcome : OutboxOutcome) (dispatchedAtMs : ℕ) (resultSha256 : Canon) :
    OutboxProgress → OutboxProgress
  | claimed worker expires => settled outcome worker expires dispatchedAtMs resultSha256
  | p => p

def standing : OutboxProgress → Standing
  | pending => .free
  | claimed _ expires => .held expires
  | settled .. => .closed

end OutboxProgress

structure OutboxRow where
  intent : OutboxIntent
  attemptCount : ℕ
  availableAtMs : ℕ
  progress : OutboxProgress
  deriving DecidableEq, Repr

namespace OutboxRow

abbrev outboxId (r : OutboxRow) : String := r.intent.outboxId

abbrev effectId (r : OutboxRow) : String := r.intent.effectId

def state (r : OutboxRow) : OutboxState := r.progress.state

def claimedBy (r : OutboxRow) : Option String :=
  match r.progress with
  | .pending => none
  | .claimed worker _ => some worker
  | .settled _ worker _ _ _ => some worker

def resultSha256 (r : OutboxRow) : Option Canon :=
  match r.progress with
  | .settled _ _ _ _ sha256 => some sha256
  | _ => none

/-- The `WHERE` of a dispatch query, and the check of a claim. -/
def claimable (r : OutboxRow) (nowMs : ℕ) : Bool :=
  match r.progress with
  | .pending => r.availableAtMs ≤ nowMs
  | .claimed _ expires => expires ≤ nowMs
  | .settled .. => false

/-- The `ORDER BY` of a dispatch query. -/
def before (r r' : OutboxRow) : Bool :=
  r.availableAtMs < r'.availableAtMs ||
    (r.availableAtMs = r'.availableAtMs && r.outboxId ≤ r'.outboxId)

def claim (workerId : String) (claimExpiresAtMs : ℕ) (r : OutboxRow) : OutboxRow :=
  { r with attemptCount := r.attemptCount + 1, progress := .claimed workerId claimExpiresAtMs }

def settle (outcome : OutboxOutcome) (dispatchedAtMs : ℕ) (resultSha256 : Canon)
    (r : OutboxRow) : OutboxRow :=
  { r with progress := r.progress.settle outcome dispatchedAtMs resultSha256 }

end OutboxRow

structure BoundaryResult where
  resultObjectId : String
  resultSha256 : Canon
  completedAtMs : ℕ
  deriving DecidableEq, Repr

structure BoundaryFinalization where
  finalizedAtMs : ℕ
  finalizationSha256 : Canon
  deriving DecidableEq, Repr

/-- A crossed dispatch boundary. Its result and its finalization are recorded later. -/
structure OutboxDispatchBoundary where
  outboxId : String
  effectId : String
  workerId : String
  gatewayEpoch : ℕ
  ticketObjectId : String
  ticketSha256 : Canon
  startedAtMs : ℕ
  result : Option BoundaryResult
  finalization : Option BoundaryFinalization
  deriving DecidableEq, Repr

namespace OutboxDispatchBoundary

def boundarySha256 (b : OutboxDispatchBoundary) : Canon :=
  .sha256 <| .ofList
    [.text "tiangong.gateway.outbox-dispatch-boundary.v1", .text b.effectId, .num b.gatewayEpoch,
      .text b.outboxId, .num b.startedAtMs, .text b.ticketObjectId, b.ticketSha256,
      .text b.workerId]

/-- Equal digests stand for the same crossing. -/
theorem eq_of_boundarySha256 {b b' : OutboxDispatchBoundary}
    (h : b.boundarySha256 = b'.boundarySha256) :
    b.outboxId = b'.outboxId ∧ b.startedAtMs = b'.startedAtMs := by
  simp only [boundarySha256, Canon.ofList, Canon.sha256.injEq, Canon.cons.injEq, Canon.text.injEq,
    Canon.num.injEq] at h
  exact ⟨h.2.2.2.1, h.2.2.2.2.1⟩

def complete (result : BoundaryResult) (b : OutboxDispatchBoundary) : OutboxDispatchBoundary :=
  { b with result := some result }

def finalize (finalization : BoundaryFinalization) (b : OutboxDispatchBoundary) :
    OutboxDispatchBoundary :=
  { b with finalization := some finalization }

/-- The `ORDER BY` of the unfinalized results. -/
def before (b b' : OutboxDispatchBoundary) : Bool :=
  let completedAt := (b.result.map BoundaryResult.completedAtMs).getD 0
  let completedAt' := (b'.result.map BoundaryResult.completedAtMs).getD 0
  completedAt < completedAt' || (completedAt = completedAt' && b.outboxId ≤ b'.outboxId)

end OutboxDispatchBoundary

/-- The columns of a request entry that a delivery checks. -/
structure RequestEntry where
  requestId : String
  sessionScopeHash : String
  deriving DecidableEq, Repr

/-- The generation row of a request with the state of its fence. -/
structure GenerationLease where
  requestId : String
  runId : String
  generation : ℕ
  gatewayEpoch : ℕ
  ownerInstanceId : String
  status : GenerationStatus
  revision : ℕ
  updatedAtMs : ℕ
  fenceState : FenceState
  deriving DecidableEq, Repr

def GenerationLease.release (releasedAtMs : ℕ) (g : GenerationLease) : GenerationLease :=
  { g with
    status := .released
    revision := g.revision + 1
    updatedAtMs := releasedAtMs
    fenceState := .released }

/-- The tables that a delivery reads and writes. -/
structure DeliveryStore where
  outbox : IndexedTable OutboxRow.outboxId OutboxRow.effectId
  boundaries : IndexedTable OutboxDispatchBoundary.outboxId OutboxDispatchBoundary.effectId
  requests : Table RequestEntry.requestId
  effects : Table EffectRow.effectId
  generations : Table GenerationLease.requestId

namespace DeliveryStore

def init : DeliveryStore := ⟨.empty, .empty, .empty, .empty, .empty⟩

def getOutbox (s : DeliveryStore) (outboxId : String) : Option OutboxRow :=
  s.outbox.find outboxId

def getOutboxDispatchBoundary (s : DeliveryStore) (outboxId : String) :
    Option OutboxDispatchBoundary :=
  s.boundaries.find outboxId

/-- A row of an accepted event: pending, available from the creation of its intent on. -/
def insertIntent (intent : OutboxIntent) (s : DeliveryStore) :
    Except StoreError (OutboxRow × DeliveryStore) := do
  let row : OutboxRow := ⟨intent, 0, intent.createdAtMs, .pending⟩
  let outbox ← s.outbox.insert (.conflict "outbox effect identity is already bound") row
  pure (row, { s with outbox := outbox })

def listDispatchableOutbox (nowMs limit : ℕ) (s : DeliveryStore) :
    Except StoreError (List OutboxRow) := do
  rejectIf (¬ (1 ≤ limit ∧ limit ≤ 1000)) (.value "outbox dispatch query is invalid")
  pure ((orderBy OutboxRow.before (s.outbox.rows.filter (·.claimable nowMs))).take limit)

def claimOutbox (outboxId workerId : String) (nowMs leaseMs : ℕ) (s : DeliveryStore) :
    Except StoreError (OutboxRow × DeliveryStore) := do
  rejectIf (workerId = "" ∨ 160 < workerId.length ∨ ¬ (1000 ≤ leaseMs ∧ leaseMs ≤ 300000))
    (.value "outbox claim arguments are invalid")
  let row ← required (s.outbox.find outboxId) (.notFound "outbox intent does not exist")
  if row.progress.isSettled then pure (row, s)
  else do
    rejectIf (row.claimable nowMs = false) (.conflict "outbox intent is not currently claimable")
    let outbox ← s.outbox.updateOne (.casConflict "outbox changed before claim")
      (fun r => r.outboxId = outboxId && (r.state = row.state && r.attemptCount = row.attemptCount))
      (OutboxRow.claim workerId (nowMs + leaseMs)) (fun _ => rfl) (fun _ => rfl)
    pure (row.claim workerId (nowMs + leaseMs), { s with outbox := outbox })

def markOutboxDispatchStarted (outboxId workerId : String) (gatewayEpoch : ℕ)
    (ticketObjectId : String) (ticketSha256 : Canon) (startedAtMs : ℕ) (s : DeliveryStore) :
    Except StoreError (OutboxDispatchBoundary × DeliveryStore) := do
  rejectIf (¬ (1 ≤ workerId.length ∧ workerId.length ≤ 160) ∨ gatewayEpoch < 1 ∨
      ¬ (4 ≤ ticketObjectId.length ∧ ticketObjectId.length ≤ 160))
    (.value "outbox dispatch boundary arguments are invalid")
  let row ← required (s.outbox.find outboxId) (.notFound "outbox intent does not exist")
  rejectIf (row.state ≠ .claimed ∨ row.claimedBy ≠ some workerId ∨
      startedAtMs < row.intent.createdAtMs)
    (.conflict "outbox dispatch boundary is not owned by this worker")
  let crossing : OutboxDispatchBoundary := ⟨outboxId, row.effectId, workerId, gatewayEpoch,
    ticketObjectId, ticketSha256, startedAtMs, none, none⟩
  match s.boundaries.rows.find? fun b => b.outboxId = outboxId || b.effectId = row.effectId with
  | some boundary => do
    rejectIf (boundary.boundarySha256 ≠ crossing.boundarySha256)
      (.conflict "outbox dispatch boundary already crossed differently")
    pure (boundary, s)
  | none => do
    let boundaries ← s.boundaries.insert
      (.integrity "outbox_dispatch_boundary(outbox_id, effect_id)") crossing
    pure (crossing, { s with boundaries := boundaries })

def settleBoth (outboxId : String) (owned : OutboxRow → Bool) (outcome : OutboxOutcome)
    (result : BoundaryResult) (error boundaryError : StoreError) (s : DeliveryStore) :
    Except StoreError DeliveryStore := do
  let outbox ← s.outbox.updateOne error (fun r => r.outboxId = outboxId && owned r)
    (OutboxRow.settle outcome result.completedAtMs result.resultSha256)
    (fun _ => rfl) (fun _ => rfl)
  let boundaries ← s.boundaries.updateOne boundaryError
    (fun b => b.outboxId = outboxId && b.result.isNone)
    (OutboxDispatchBoundary.complete result) (fun _ => rfl) (fun _ => rfl)
  pure { s with outbox := outbox, boundaries := boundaries }

def markExpiredOutboxAmbiguous (outboxId : String) (observedAtMs : ℕ) (resultObjectId : String)
    (resultSha256 : Canon) (s : DeliveryStore) :
    Except StoreError (OutboxRow × DeliveryStore) := do
  rejectIf (¬ (4 ≤ resultObjectId.length ∧ resultObjectId.length ≤ 160))
    (.value "expired outbox ambiguity fact is invalid")
  let row ← required (s.outbox.find outboxId) (.notFound "outbox intent does not exist")
  if row.progress.isSettled then do
    rejectIf (row.state ≠ .ambiguous ∨ row.resultSha256 ≠ some resultSha256)
      (.conflict "outbox ambiguity fact changed")
    pure (row, s)
  else do
    let boundary ← required (s.boundaries.find outboxId)
      (.conflict "outbox has not crossed the dispatch boundary")
    rejectIf (row.state ≠ .claimed ∨ row.claimable observedAtMs = false ∨
        observedAtMs < boundary.startedAtMs)
      (.conflict "outbox dispatch boundary is not orphaned")
    let s' ← s.settleBoth outboxId (fun r => r.state = .claimed) .ambiguous
      ⟨resultObjectId, resultSha256, observedAtMs⟩
      (.casConflict "outbox changed before ambiguity recovery")
      (.casConflict "outbox boundary changed before ambiguity recovery")
    pure (row.settle .ambiguous observedAtMs resultSha256, s')

def recordOutboxDispatchResult (outboxId workerId : String) (outcome : OutboxOutcome)
    (resultObjectId : String) (resultSha256 : Canon) (completedAtMs : ℕ) (s : DeliveryStore) :
    Except StoreError (OutboxRow × DeliveryStore) := do
  rejectIf (¬ (1 ≤ workerId.length ∧ workerId.length ≤ 160) ∨
      ¬ (4 ≤ resultObjectId.length ∧ resultObjectId.length ≤ 160))
    (.value "outbox dispatch result arguments are invalid")
  let row ← required (s.outbox.find outboxId)
    (.notFound "outbox dispatch result has no boundary")
  let boundary ← required (s.boundaries.find outboxId)
    (.notFound "outbox dispatch result has no boundary")
  if row.progress.isSettled then do
    rejectIf (row.state ≠ (match outcome with | .acked => .acked | .ambiguous => .ambiguous) ∨
        row.resultSha256 ≠ some resultSha256 ∨
        boundary.result.map (·.resultObjectId) ≠ some resultObjectId ∨
        boundary.result.map (·.completedAtMs) ≠ some completedAtMs)
      (.conflict "outbox dispatch result changed")
    pure (row, s)
  else do
    rejectIf (row.state ≠ .claimed ∨ row.claimedBy ≠ some workerId ∨
        boundary.workerId ≠ workerId ∨ boundary.result.isSome ∨
        completedAtMs < boundary.startedAtMs)
      (.conflict "outbox dispatch result is not owned by this boundary")
    let s' ← s.settleBoth outboxId (fun r => r.state = .claimed && r.claimedBy = some workerId)
      outcome ⟨resultObjectId, resultSha256, completedAtMs⟩
      (.casConflict "outbox changed before dispatch result commit")
      (.casConflict "outbox changed before dispatch result commit")
    pure (row.settle outcome completedAtMs resultSha256, s')

def listUnfinalizedOutboxResults (limit : ℕ) (s : DeliveryStore) :
    Except StoreError (List OutboxDispatchBoundary) := do
  rejectIf (¬ (1 ≤ limit ∧ limit ≤ 1000)) (.value "unfinalized outbox result limit is invalid")
  let settled := s.boundaries.rows.filter fun b =>
    ((s.outbox.find b.outboxId).any fun r => r.progress.isSettled) && b.result.isSome &&
      b.finalization.isNone
  pure ((orderBy OutboxDispatchBoundary.before settled).take limit)

def releaseGenerationLocked (requestId : String) (releasedAtMs : ℕ) (expectedRunId : String)
    (expectedGeneration : ℕ) (generations : Table GenerationLease.requestId) :
    Except StoreError (Table GenerationLease.requestId) := do
  let current ← required (generations.find requestId)
    (.notFound "request generation does not exist")
  rejectIf (current.runId ≠ expectedRunId ∨ current.generation ≠ expectedGeneration)
    (.conflict "generation release binding changed")
  if current.status = .released ∨ current.status = .cancelled then pure generations
  else do
    rejectIf (releasedAtMs < current.updatedAtMs)
      (.conflict "generation lease cannot be released")
    rejectIf (current.fenceState ≠ .active) (.casConflict "generation changed before release")
    generations.updateOne (.casConflict "generation changed before release")
      (fun g => g.requestId = requestId && (g.revision = current.revision && g.status = .active))
      (GenerationLease.release releasedAtMs) (fun _ => rfl)

/-- The finalization of a boundary: the recorded one must be the same, a new one is recorded. -/
def finalizeBoundary (outboxId : String) (boundary : OutboxDispatchBoundary)
    (finalization : BoundaryFinalization) (s : DeliveryStore) :
    Except StoreError (OutboxDispatchBoundary × DeliveryStore) :=
  match boundary.finalization with
  | some recorded => do
    rejectIf (recorded ≠ finalization) (.conflict "outbox finalization fact changed")
    pure (boundary, s)
  | none => do
    rejectIf (¬ boundary.result.any fun r => r.completedAtMs ≤ finalization.finalizedAtMs)
      (.conflict "outbox cannot finalize before its dispatch result")
    let boundaries ← s.boundaries.updateOne
      (.casConflict "outbox changed before finalization")
      (fun b => b.outboxId = outboxId && b.finalization.isNone)
      (OutboxDispatchBoundary.finalize finalization) (fun _ => rfl) (fun _ => rfl)
    pure (boundary.finalize finalization, { s with boundaries := boundaries })

def markOutboxFinalized (outboxId : String) (finalization : BoundaryFinalization)
    (releaseGeneration : Bool) (s : DeliveryStore) :
    Except StoreError (OutboxDispatchBoundary × DeliveryStore) := do
  let boundary ← required (s.boundaries.find outboxId)
    (.notFound "outbox dispatch boundary does not exist")
  let (finalized, s') ← s.finalizeBoundary outboxId boundary finalization
  if releaseGeneration then do
    let row ← required (s'.outbox.find outboxId)
      (.corruption "finalized outbox intent is missing")
    let generations ← releaseGenerationLocked row.intent.requestId finalization.finalizedAtMs
      row.intent.runId row.intent.generation s'.generations
    pure (finalized, { s' with generations := generations })
  else pure (finalized, s')

/-- The result of a claimed intent that has no dispatch boundary. -/
def recordOutboxResult (outboxId workerId : String) (outcome : OutboxOutcome)
    (resultSha256 : Canon) (dispatchedAtMs : ℕ) (s : DeliveryStore) :
    Except StoreError (OutboxRow × DeliveryStore) := do
  let row ← required (s.outbox.find outboxId) (.notFound "outbox intent does not exist")
  if row.progress.isSettled then do
    rejectIf (row.state ≠ (match outcome with | .acked => .acked | .ambiguous => .ambiguous) ∨
        row.resultSha256 ≠ some resultSha256)
      (.conflict "outbox result identity was reused with different facts")
    pure (row, s)
  else do
    rejectIf (row.state ≠ .claimed ∨ row.claimedBy ≠ some workerId)
      (.conflict "outbox result is not owned by this worker")
    rejectIf (dispatchedAtMs < row.intent.createdAtMs)
      (.value "outbox dispatch predates intent creation")
    let outbox ← s.outbox.updateOne (.casConflict "outbox changed before result commit")
      (fun r => r.outboxId = outboxId && (r.state = .claimed && r.claimedBy = some workerId))
      (OutboxRow.settle outcome dispatchedAtMs resultSha256) (fun _ => rfl) (fun _ => rfl)
    pure (row.settle outcome dispatchedAtMs resultSha256, { s with outbox := outbox })

/-- The lease view of the outbox: the standing of each row and the time of each crossing. -/
def leases (s : DeliveryStore) : LeaseTable String where
  standing o := ((s.outbox.find o).map fun r => r.progress.standing).getD .absent
  crossedAt o := (s.boundaries.find o).map (·.startedAtMs)

end DeliveryStore

end Tiangong
