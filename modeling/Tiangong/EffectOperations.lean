import Tiangong.EffectLedger

/-!
# The operations of the effect ledger

Each operation is one write transaction: it refuses before anything is committed, or returns
its answer with the new tables. The two restart recoveries commit row by row, so they return the
tables they reached also when a later row is refused.
-/
namespace Tiangong

inductive GenerationStatus where
  | active | cancelled | released
  deriving DecidableEq, Repr

inductive FenceState where
  | active | superseded | cancelled | released
  deriving DecidableEq, Repr

/-- The columns of a request generation and of its current fence that a dispatch reads. -/
structure GenerationView where
  runId : String
  generation : ℕ
  gatewayEpoch : ℕ
  ownerInstanceId : String
  status : GenerationStatus
  leaseId : Option String
  fenceState : FenceState
  fenceExpiresAtMs : ℕ
  deriving DecidableEq, Repr

/-- What the other tables of the store answer while an effect transaction runs. -/
structure Surroundings where
  /-- The retained method sources of an execution claim, or the refusal of their resolver. -/
  methodSources : EffectClaim → Except StoreError Unit
  generation : String → Option GenerationView

/-- Tables that refuse nothing and know no generation. -/
def quietSurroundings : Surroundings := ⟨fun _ => .ok (), fun _ => none⟩

def Surroundings.requireMethodSourcesForClaim (env : Surroundings) (claim : EffectClaim) :
    Except StoreError Unit :=
  if claim.effectKind ≠ .execution then .ok () else env.methodSources claim

/-- The generation scope of a dispatch; the source takes its six values together or not at all. -/
structure DispatchScope where
  requestId : String
  runId : String
  generation : ℕ
  gatewayEpoch : ℕ
  ownerInstanceId : String
  requiredParentEffectId : String
  deriving DecidableEq, Repr

/-- `inflight_count` goes down by one, and the drain ends when it reaches zero. -/
def ActionFence.giveBack (fence : ActionFence) (nowMs : ℕ) : ActionFence :=
  if 0 < fence.inflightCount then
    { fence with
      inflightCount := fence.inflightCount - 1
      draining := if fence.inflightCount ≤ 1 then false else fence.draining
      updatedAtMs := nowMs }
  else fence

/-- The ticket binding an admission records with its attempt. -/
structure AdmissionBinding where
  ticketId : Option String
  ticketSha256 : Option String
  grantSha256 : Option String
  nonceSha256 : Option String
  deriving DecidableEq, Repr

/-- Which pipelines and effects a restart recovery leaves alone. -/
structure Exclusions where
  pipelineVersions : List String
  effectIds : List String
  deriving DecidableEq, Repr

def NonceRow.wellFormed (n : NonceRow) : Bool :=
  n.issuer ≠ "" && n.audience ≠ "" &&
    n.purpose ∈ ["execution_ticket", "delivery_ticket", "service_auth", "omni_capability_grant"] &&
    n.nonce ≠ "" && n.consumerInstanceId ≠ "" && n.payloadSha256.length = 64 &&
    1 ≤ n.gatewayEpoch && n.consumedAtMs ≤ n.expiresAtMs

/-- The order of `ORDER BY effect_id, attempt`. -/
def keyLe (k k' : String × ℕ) : Bool :=
  k.1 < k'.1 || (k.1 = k'.1 && k.2 ≤ k'.2)

def Verdict.attemptState : Verdict → AttemptState
  | .applied => .reconciled
  | .provenNotApplied | .inconclusive => .reconcileRequired

/-- The answer to a recorded verdict; `appended` is false when it was recorded before. -/
structure ReconciliationReply where
  appended : Bool
  contradiction : Bool
  attemptState : AttemptState
  deriving DecidableEq, Repr

namespace EffectStore

/-- Append a fact; the chain holds a fact of one kind and payload once per attempt. -/
def appendEffectFact (s : EffectStore) (effectId : String) (attempt : ℕ) (factKind : FactKind)
    (verdict : Option Verdict) (payload : FactPayload) (createdAtMs : ℕ) :
    Except StoreError EffectStore := do
  rejectIf (∃ f ∈ s.effectFacts,
      f.key = (effectId, attempt) ∧ f.factKind = factKind ∧ f.payload = payload)
    (.integrity "effect_facts(effect_id, attempt, fact_kind, payload_sha256)")
  let prev := (s.effectFacts.find? fun f => f.key = (effectId, attempt)).map (·.payload)
  pure { s with
    effectFacts :=
      ⟨effectId, attempt, factKind, verdict, payload, prev, createdAtMs⟩ :: s.effectFacts }

def claimedAttempt (claim : EffectClaim) : EffectAttempt where
  effectId := claim.effectId
  attempt := claim.attempt
  claimRevision := claim.claimRevision
  leaseEpoch := some claim.leaseEpoch
  pipelineVersion := some claim.pipelineVersion
  state := .claimed
  claimedAtMs := some claim.claimedAtMs

def claimEffect (env : Surroundings) (claim : EffectClaim) (s : EffectStore) :
    Except StoreError ((EffectRow × Bool) × EffectStore) := do
  rejectIf (claim.hasValidSha256 = false) (.value "effect claim digest is invalid")
  match s.effectLedger.find claim.effectId with
  | some record => do
    rejectIf (record.claim.stable ≠ claim.stable)
      (.conflict "effect identity was reused with different intent")
    pure ((record, false), s)
  | none => do
    env.requireMethodSourcesForClaim claim
    let ledger ← s.effectLedger.insert (.integrity "effect_ledger(effect_id)") ⟨claim, .claimed⟩
    let attempts ← s.effectAttempts.insert
      (.integrity "effect_attempts(effect_id, attempt)") (claimedAttempt claim)
    let s' ← { s with effectLedger := ledger, effectAttempts := attempts }.appendEffectFact
      claim.effectId claim.attempt .claim none
      (.claim claim s.actionFence.actionFenceEpoch) claim.claimedAtMs
    pure ((⟨claim, .claimed⟩, true), s')

/-- The head row crosses the side-effect boundary. -/
def startHead (effectId : String) (startedAtMs : ℕ) (ledger : Table EffectRow.effectId)
    (e : StoreError) : Except StoreError (Table EffectRow.effectId) :=
  ledger.updateOne e (fun r => r.effectId = effectId && r.state = .claimed)
    (fun r => { r with progress := .sideEffectStarted startedAtMs }) fun _ => rfl

def markEffectStarted (env : Surroundings) (effectId : String) (startedAtMs : ℕ)
    (s : EffectStore) : Except StoreError (EffectRow × EffectStore) := do
  let record ← required (s.effectLedger.find effectId) (.notFound "effect is not claimed")
  if record.state = .sideEffectStarted then
    rejectIf (record.sideEffectStartedAtMs ≠ some startedAtMs)
      (.conflict "effect start fact changed")
    pure (record, s)
  else
    rejectIf (record.state ≠ .claimed ∨ startedAtMs < record.claim.claimedAtMs)
      (.conflict "effect cannot cross the side-effect boundary")
    env.requireMethodSourcesForClaim record.claim
    let claimFact ← required
      (s.effectFacts.find? fun f =>
        f.key = (effectId, record.claim.attempt) ∧ f.factKind = .claim)
      (.corruption "effect claim fact is missing")
    -- A claim anchored under another epoch never revives once a stop was committed.
    rejectIf (s.actionFence.actionFenceEpoch ≠ claimFact.payload.actionFenceEpoch ∨
        s.actionFence.actionFenceEpoch ≠ 0 ∨ s.actionFence.draining)
      (.conflict "action fence is closed for effect start")
    let ledger ← startHead effectId startedAtMs s.effectLedger
      (.casConflict "effect changed before side-effect start")
    let attempts := s.effectAttempts.update
      (fun a => a.key = (effectId, record.claim.attempt) && a.state = .claimed)
      (fun a => { a with
        state := .sideEffectStarted, sideEffectStartedAtMs := some startedAtMs }) fun _ => rfl
    let s' ← { s with effectLedger := ledger, effectAttempts := attempts }.appendEffectFact
      effectId record.claim.attempt .started none (.sideEffectStarted startedAtMs none) startedAtMs
    pure ({ record with progress := .sideEffectStarted startedAtMs }, s')

/-- Give a permit back to the fence and note its release. -/
def release (s : EffectStore) (key : String × ℕ) (releasedBy : String) (nowMs : ℕ) :
    Except StoreError EffectStore := do
  let rows ← s.dispatchPermitRelease.insert
    (.integrity "dispatch_permit_release(effect_id, attempt)") ⟨key.1, key.2, releasedBy, nowMs⟩
  pure { s with actionFence := s.actionFence.giveBack nowMs, dispatchPermitRelease := rows }

/-- The lowest attempt of an effect whose permit is still out. -/
def openPermitOf (s : EffectStore) (effectId : String) : Option ℕ :=
  ((s.openPermits.filter fun key => key.1 = effectId).map Prod.snd).min?

def completeEffect (result : EffectResult) (expectedState : Option EffectState)
    (releaseDispatchPermit : Bool) (s : EffectStore) :
    Except StoreError (EffectRow × EffectStore) := do
  rejectIf (result.hasValidSha256 = false) (.value "effect result digest is invalid")
  rejectIf (expectedState ∉ [none, some .claimed, some .sideEffectStarted])
    (.value "effect expected state is invalid")
  rejectIf (releaseDispatchPermit = false ∧ result.status ≠ .ambiguous)
    (.value "retaining an effect dispatch permit requires an ambiguous result")
  let record ← required (s.effectLedger.find result.effectId)
    (.notFound "effect result has no claim")
  match record.result with
  | some first => do
    rejectIf (first ≠ result) (.conflict "effect already has a different first result")
    pure (record, s)
  | none => do
    rejectIf (∃ expected, expectedState = some expected ∧ record.state ≠ expected)
      (.conflict "effect crossed its expected completion state")
    rejectIf (result.observedAtMs < record.boundaryMs)
      (.value "effect result predates its durable boundary")
    rejectIf (result.status ≠ .failedFinal ∧ record.state ≠ .sideEffectStarted)
      (.conflict "effect success or ambiguity requires side-effect start")
    let done : EffectProgress := .finished record.sideEffectStartedAtMs result
    let ledger ← s.effectLedger.updateOne (.casConflict "effect changed before result commit")
      (fun r => r.effectId = result.effectId && r.result.isNone)
      (fun r => { r with progress := done }) fun _ => rfl
    let attempts := s.effectAttempts.update
      (fun a => a.key = (result.effectId, record.claim.attempt) && a.terminalAtMs.isNone)
      (fun a => { a with
        state := result.status.toAttemptState
        terminalAtMs := some result.observedAtMs
        terminalKind := some result.status.toAttemptState }) fun _ => rfl
    let s' ← { s with effectLedger := ledger, effectAttempts := attempts }.appendEffectFact
      result.effectId record.claim.attempt .receipt none (.receipt result none)
      result.observedAtMs
    let row : EffectRow := { record with progress := done }
    match s'.openPermitOf result.effectId with
    | some attempt =>
      if releaseDispatchPermit then do
        let s'' ← s'.release (result.effectId, attempt) "effect_receipt" result.observedAtMs
        pure (row, s'')
      else pure (row, s')
    | none => pure (row, s')

/-- A late APPLIED after a proof of non-application is kept as a contradiction; any other verdict
after a decisive one is refused. -/
def admitVerdict (effectId : String) (attempt : ℕ) (verdict : Verdict) (evidence : Canon)
    (observedAtMs : ℕ) (s : EffectStore) : Except StoreError EffectStore :=
  let existing := s.latestEffectVerdict effectId attempt
  if existing = some .provenNotApplied ∧ verdict = .applied then
    s.appendEffectFact effectId attempt .contradiction (some verdict)
      (.contradiction .provenNotApplied verdict evidence) observedAtMs
  else if existing = some .applied ∨ existing = some .provenNotApplied then
    .error (.conflict "reconciliation verdict is already final")
  else .ok s

def recordEffectReconciliation (effectId : String) (attempt : ℕ) (verdict : Verdict)
    (evidence : Canon) (observedAtMs : ℕ) (s : EffectStore) :
    Except StoreError (ReconciliationReply × EffectStore) := do
  let row ← required (s.getEffectAttempt effectId attempt)
    (.notFound "reconciliation target attempt is missing")
  let existing := s.latestEffectVerdict effectId attempt
  if existing = some verdict ∧ verdict ≠ .inconclusive then
    pure (⟨false, false, row.state⟩, s)
  else
    rejectIf (existing = some .applied ∧ verdict = .provenNotApplied)
      (.conflict "reconciliation verdict is already final: APPLIED")
    let contradiction := decide (existing = some .provenNotApplied ∧ verdict = .applied)
    let s ← admitVerdict effectId attempt verdict evidence observedAtMs s
    let s ← s.appendEffectFact effectId attempt .reconciliation (some verdict)
      (.reconciliation verdict evidence) observedAtMs
    let attempts := s.effectAttempts.update (fun a => a.key = (effectId, attempt))
      (fun a => { a with state := verdict.attemptState }) fun _ => rfl
    pure (⟨true, contradiction, verdict.attemptState⟩, { s with effectAttempts := attempts })

/-- The attempt a continuation reserves after `old`. -/
def reservedAttempt (old : EffectAttempt) (effectId : String) (oldAttempt : ℕ) : EffectAttempt where
  effectId := effectId
  attempt := oldAttempt + 1
  claimRevision := old.claimRevision + 1
  leaseEpoch := none
  pipelineVersion := none
  state := .reserved

def continueEffectAfterPna (effectId : String) (oldAttempt nowMs : ℕ) (s : EffectStore) :
    Except StoreError (ℕ × EffectStore) := do
  let old ← required (s.getEffectAttempt effectId oldAttempt)
    (.notFound "continuation source attempt is missing")
  rejectIf (old.state ≠ .reconcileRequired)
    (.conflict "continuation requires RECONCILE_REQUIRED source attempt")
  rejectIf (s.latestEffectVerdict effectId oldAttempt ≠ some .provenNotApplied)
    (.conflict "continuation requires PROVEN_NOT_APPLIED evidence")
  let attempts ← s.effectAttempts.updateOne
    (.casConflict "source attempt changed before continuation")
    (fun a => a.key = (effectId, oldAttempt) && a.state = .reconcileRequired)
    (fun a => { a with
      state := .fenced, terminalAtMs := some nowMs, terminalKind := some .fenced }) fun _ => rfl
  let attempts ← attempts.insert (.integrity "effect_attempts(effect_id, attempt)")
    (reservedAttempt old effectId oldAttempt)
  let s' ← { s with effectAttempts := attempts }.appendEffectFact effectId (oldAttempt + 1)
    .claim none (.continuation oldAttempt (old.claimRevision + 1)) nowMs
  pure (oldAttempt + 1, s')

/-- The attempt row of an admission, terminal from the start. -/
def admittedAttempt (claim : EffectClaim) (result : EffectResult) (startedAtMs : ℕ)
    (binding : AdmissionBinding) : EffectAttempt :=
  { claimedAttempt claim with
    state := .succeeded
    ticketId := binding.ticketId
    ticketSha256 := binding.ticketSha256
    grantSha256 := binding.grantSha256
    nonceSha256 := binding.nonceSha256
    sideEffectStartedAtMs := some startedAtMs
    terminalAtMs := some result.observedAtMs
    terminalKind := some .succeeded }

def insertNonces (table : Table NonceRow.key) : List NonceRow →
    Except StoreError (Table NonceRow.key)
  | [] => pure table
  | n :: ns => do
    let table ← table.insert (.conflict "security nonce was replayed") n
    insertNonces table ns

def admitSubEffect (claim : EffectClaim) (result : EffectResult) (startedAtMs : ℕ)
    (receiptResponse : Option Canon) (nonces : List NonceRow) (binding : AdmissionBinding)
    (expectedFenceEpoch : Option ℕ) (s : EffectStore) :
    Except StoreError ((EffectRow × Bool × Option Canon) × EffectStore) := do
  rejectIf (claim.hasValidSha256 = false) (.value "effect claim digest is invalid")
  rejectIf (result.hasValidSha256 = false) (.value "effect result digest is invalid")
  rejectIf (result.effectId ≠ claim.effectId)
    (.value "admission result is not bound to its claim")
  rejectIf (result.status ≠ .succeeded)
    (.value "admission receipt must record a committed first result")
  rejectIf (¬ (claim.claimedAtMs ≤ startedAtMs ∧ startedAtMs ≤ result.observedAtMs))
    (.value "admission timeline is invalid")
  rejectIf (∃ n ∈ nonces, n.wellFormed = false)
    (.value "admission nonce consumption arguments are invalid")
  rejectIf (binding.ticketId.isNone ≠ binding.ticketSha256.isNone)
    (.value "admission ticket binding must be complete")
  rejectIf (∃ epoch, expectedFenceEpoch = some epoch ∧ s.actionFence.actionFenceEpoch ≠ epoch)
    (.casConflict "action fence epoch advanced")
  match s.effectLedger.find claim.effectId with
  | some record => do
    rejectIf (record.claim.stable ≠ claim.stable)
      (.conflict "effect identity was reused with different intent")
    rejectIf (record.result = none)
      (.conflict "sub-effect admission is claimed but has no first result")
    let receipt := s.effectFacts.find? fun f =>
      f.effectId = claim.effectId ∧ f.factKind = .receipt
    let response := receipt.bind fun f =>
      match f.payload with
      | .receipt _ response => response
      | _ => none
    pure ((record, false, response), s)
  | none => do
    let row : EffectRow := ⟨claim, .finished (some startedAtMs) result⟩
    let ledger ← s.effectLedger.insert (.integrity "effect_ledger(effect_id)") row
    rejectIf (binding.ticketId.isSome ∧ ∃ a ∈ s.effectAttempts.rows, a.ticketId = binding.ticketId)
      (.integrity "effect_attempts(ticket_id)")
    let attempts ← s.effectAttempts.insert (.integrity "effect_attempts(effect_id, attempt)")
      (admittedAttempt claim result startedAtMs binding)
    let s' ← { s with effectLedger := ledger, effectAttempts := attempts }.appendEffectFact
      claim.effectId claim.attempt .claim none
      (.claim claim s.actionFence.actionFenceEpoch) claim.claimedAtMs
    let s' ← s'.appendEffectFact claim.effectId claim.attempt .started none
      (.sideEffectStarted startedAtMs none) startedAtMs
    let s' ← s'.appendEffectFact claim.effectId claim.attempt .receipt none
      (.receipt result receiptResponse) result.observedAtMs
    let nonceRows ← insertNonces s'.securityNonceLedger nonces
    pure ((row, true, none), { s' with securityNonceLedger := nonceRows })

def incrementActionFence (reason : String) (nowMs : ℕ) (s : EffectStore) : ℕ × EffectStore :=
  let epoch := s.actionFence.actionFenceEpoch + 1
  (epoch, { s with
    actionFence := { s.actionFence with
      actionFenceEpoch := epoch, draining := true, reason := reason, updatedAtMs := nowMs } })

/-- The values a dispatch writes into its attempt row where the row has none yet. -/
def dispatchedAttempt (nonceSha256 : String) (ticketId ticketSha256 grantSha256 : Option String)
    (nowMs : ℕ) (a : EffectAttempt) : EffectAttempt :=
  { a with
    state := .sideEffectStarted
    sideEffectStartedAtMs := some nowMs
    nonceSha256 := some nonceSha256
    ticketId := a.ticketId.or ticketId
    ticketSha256 := a.ticketSha256.or ticketSha256
    grantSha256 := a.grantSha256.or grantSha256 }

theorem dispatchedAttempt_key (nonceSha256 : String)
    (ticketId ticketSha256 grantSha256 : Option String) (nowMs : ℕ) (a : EffectAttempt) :
    (dispatchedAttempt nonceSha256 ticketId ticketSha256 grantSha256 nowMs a).key = a.key := rfl

/-- The generation scope of a dispatch still holds, and its parent effect succeeded. -/
def checkDispatchScope (env : Surroundings) (row : EffectAttempt) (nowMs : ℕ)
    (s : EffectStore) : Option DispatchScope → Except StoreError Unit
  | none => .ok ()
  | some scope => do
    let view ← required (env.generation scope.requestId)
      (.conflict "dispatch request generation is missing")
    rejectIf (view.runId ≠ scope.runId ∨ view.generation ≠ scope.generation ∨
        view.gatewayEpoch ≠ scope.gatewayEpoch ∨ view.ownerInstanceId ≠ scope.ownerInstanceId ∨
        view.status ≠ .active ∨ view.leaseId = none ∨ view.fenceState ≠ .active ∨
        view.fenceExpiresAtMs < nowMs ∨ row.leaseEpoch ≠ some scope.gatewayEpoch)
      (.conflict "dispatch request generation is no longer active")
    let parent ← required (s.effectLedger.find scope.requiredParentEffectId)
      (.conflict "dispatch parent effect is missing")
    rejectIf (parent.state ≠ .succeeded ∨ parent.claim.effectKind ≠ .execution ∨
        parent.claim.requestId ≠ scope.requestId ∨ parent.claim.runId ≠ scope.runId ∨
        parent.claim.generation ≠ scope.generation)
      (.conflict "dispatch parent effect is not successful")

/-- Only the attempt the immutable head claim names moves the head projection. -/
def startHeadOf (head : EffectRow) (attempt nowMs : ℕ) (s : EffectStore) :
    Except StoreError (Table EffectRow.effectId) :=
  if head.claim.attempt = attempt then
    startHead head.effectId nowMs s.effectLedger
      (.casConflict "effect head changed before dispatch permit")
  else .ok s.effectLedger

def acquireDispatchPermit (env : Surroundings) (effectId : String) (attempt : ℕ)
    (expectedFenceEpoch : ℕ) (nonceSha256 : String)
    (ticketId ticketSha256 grantSha256 : Option String) (scope : Option DispatchScope)
    (nowMs : ℕ) (s : EffectStore) : Except StoreError (ℕ × EffectStore) := do
  let epoch := s.actionFence.actionFenceEpoch
  rejectIf (epoch ≠ expectedFenceEpoch ∨ epoch ≠ 0 ∨ s.actionFence.draining)
    (.conflict "action fence is closed for dispatch")
  let row ← required (s.getEffectAttempt effectId attempt)
    (.notFound "dispatch target attempt is missing")
  rejectIf (row.state ≠ .claimed) (.conflict "dispatch permit requires a pre-start claim")
  let head ← required (s.effectLedger.find effectId)
    (.corruption "dispatch Effect head is missing")
  env.requireMethodSourcesForClaim head.claim
  checkDispatchScope env row nowMs s scope
  let dispatched := dispatchedAttempt nonceSha256 ticketId ticketSha256 grantSha256 nowMs
  rejectIf ((dispatched row).ticketId.isNone ≠ (dispatched row).ticketSha256.isNone)
    (.integrity "effect_attempts CHECK")
  rejectIf ((dispatched row).ticketId.isSome ∧ ∃ a ∈ s.effectAttempts.rows,
      a.key ≠ row.key ∧ a.ticketId = (dispatched row).ticketId)
    (.integrity "effect_attempts(ticket_id)")
  let attempts ← s.effectAttempts.updateOne (.casConflict "dispatch permit lost the race")
    (fun a => a.key = (effectId, attempt) && a.state = .claimed) dispatched
    (dispatchedAttempt_key nonceSha256 ticketId ticketSha256 grantSha256 nowMs)
  let ledger ← startHeadOf head attempt nowMs s
  let fence := { s.actionFence with
    inflightCount := s.actionFence.inflightCount + 1, updatedAtMs := nowMs }
  let s' : EffectStore := { s with
    effectLedger := ledger, effectAttempts := attempts, actionFence := fence }
  let s' ← s'.appendEffectFact effectId attempt .dispatchPermit none
    (.dispatchPermit epoch nonceSha256 ticketId) nowMs
  let s' ← s'.appendEffectFact effectId attempt .started none
    (.sideEffectStarted nowMs (some epoch)) nowMs
  pure (epoch, s')

def releaseDispatchPermit (effectId : String) (attempt nowMs : ℕ) (s : EffectStore) :
    Except StoreError (Unit × EffectStore) := do
  rejectIf ((effectId, attempt) ∉ s.permits)
    (.conflict "dispatch permit was never issued for this attempt")
  if s.released (effectId, attempt) then
    pure ((), s)
  else
    let s' ← s.release (effectId, attempt) "explicit_release" nowMs
    pure ((), s')

/-- Run one transaction per row and stop at the first refusal, keeping what was committed. -/
def forEach {ρ α : Type} (transaction : ρ → EffectStore → Except StoreError (α × EffectStore)) :
    List ρ → EffectStore → Except StoreError (List α) × EffectStore
  | [], s => (.ok [], s)
  | r :: rs, s =>
    match transaction r s with
    | .error e => (.error e, s)
    | .ok (a, s') =>
      match forEach transaction rs s' with
      | (.ok as, s'') => (.ok (a :: as), s'')
      | (.error e, s'') => (.error e, s'')

def recoverTerminalDispatchPermits (pipelineVersion : String) (nowMs : ℕ) (s : EffectStore) :
    Except StoreError (List Unit) × EffectStore :=
  if pipelineVersion = "" ∨ 160 < pipelineVersion.length then
    (.error (.value "terminal dispatch permit recovery scope is invalid"), s)
  else
    let rows := s.effectAttempts.rows.filter fun a =>
      a.pipelineVersion = some pipelineVersion &&
        a.state ∈ [.succeeded, .failedFinal, .ambiguous, .reconciled] &&
        a.key ∈ s.permits && !s.released a.key
    forEach (fun a => releaseDispatchPermit a.effectId a.attempt
        (max nowMs (max (a.sideEffectStartedAtMs.getD 0) (a.terminalAtMs.getD 0))))
      (orderBy (fun a b => keyLe a.key b.key) rows) s

/-- A started attempt without a terminal fact is marked for reconciliation. -/
def recoverStartedAttempt (nowMs : ℕ) (row : EffectAttempt) (s : EffectStore) :
    Except StoreError ((String × ℕ) × EffectStore) := do
  let recoveredAtMs := max nowMs ((row.sideEffectStartedAtMs.or row.claimedAtMs).getD 0)
  let attempts := s.effectAttempts.update
    (fun a => a.key = row.key && a.state = .sideEffectStarted)
    (fun a => { a with state := .reconcileRequired }) fun _ => rfl
  let s' ← { s with effectAttempts := attempts }.appendEffectFact row.effectId row.attempt
    .reconciliation (some .inconclusive) .recovery recoveredAtMs
  pure (row.key, s')

def recoverStartedAttempts (nowMs : ℕ) (excluded : Exclusions) (s : EffectStore) :
    Except StoreError (List (String × ℕ)) × EffectStore :=
  if ¬ excluded.effectIds.Nodup then
    (.error (.value "effect recovery exclusion is invalid"), s)
  else
    let rows := orderBy (fun a b => keyLe a.key b.key)
      (s.effectAttempts.rows.filter fun a => a.state = .sideEffectStarted)
    forEach (recoverStartedAttempt nowMs)
      (rows.filter fun a =>
        !(excluded.pipelineVersions.any (a.pipelineVersion = some ·) ||
          a.effectId ∈ excluded.effectIds)) s

/-- Characters 4 to 20 of an effect identifier. -/
def idSlice (effectId : String) : String :=
  .ofList ((effectId.toList.drop 4).take 16)

/-- The result the restart recovery records for a started effect without one. -/
def recoveredResult (nowMs : ℕ) (record : EffectRow) : EffectResult :=
  let effectId := record.claim.effectId
  let recoveredAtMs := max nowMs record.boundaryMs
  -- The gateway's own execution wrapper has no reconcile party, so it is finalised as failed.
  if record.claim.ownerComponentId = .backend then
    EffectResult.withComputedSha256
      { resultId := "effect_result_interrupted_" ++ idSlice effectId
        effectId := effectId
        status := .failedFinal
        factId := "fact_effect_interrupted_" ++ idSlice effectId
        resultObjectId := none
        resultObjectSha256 := none
        evidenceSha256 := .sha256 (.ofList [.text "tiangong.gateway.effect-recovery.v1",
          .text effectId, .text "execution_interrupted_by_restart"])
        errorCode := some "effect.execution_interrupted_by_restart"
        observedAtMs := recoveredAtMs
        resultSha256 := .null
        object_complete := rfl
        errorCode_iff := rfl }
  else
    EffectResult.withComputedSha256
      { resultId := "effect_result_ambiguous_" ++ idSlice effectId
        effectId := effectId
        status := .ambiguous
        factId := "fact_effect_recovery_" ++ idSlice effectId
        resultObjectId := none
        resultObjectSha256 := none
        evidenceSha256 := .sha256 (.ofList [.text "tiangong.gateway.effect-recovery.v1",
          .text effectId, .text "result_missing_after_restart"])
        errorCode := some "effect.result_missing_after_restart"
        observedAtMs := recoveredAtMs
        resultSha256 := .null
        object_complete := rfl
        errorCode_iff := rfl }

@[simp] theorem recoveredResult_effectId (nowMs : ℕ) (record : EffectRow) :
    (recoveredResult nowMs record).effectId = record.effectId := by
  unfold recoveredResult; split <;> rfl

def recoverStartedEffects (nowMs : ℕ) (excluded : Exclusions) (s : EffectStore) :
    Except StoreError (List EffectRow) × EffectStore :=
  match recoverStartedAttempts nowMs excluded s with
  | (.error e, s') => (.error e, s')
  | (.ok _, s') =>
    let rows := orderBy (fun r r' => r.effectId ≤ r'.effectId)
      (s'.effectLedger.rows.filter fun r => r.state = .sideEffectStarted)
    forEach (fun r => completeEffect (recoveredResult nowMs r) none true)
      (rows.filter fun r =>
        !(r.claim.pipelineVersion ∈ excluded.pipelineVersions ||
          r.effectId ∈ excluded.effectIds)) s'

end EffectStore

end Tiangong
