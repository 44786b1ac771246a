import Tiangong.CompositionContracts
import Tiangong.Tables

/-!
# Model attempt plans and their records

A plan freezes the slots in which a model may be called for one response episode. Each record of it
is written once, under an identity that comes from its content.
-/
namespace Tiangong.Response

/-- Why a call raises: `ResponseSagaError`, `StoreConflictError`, a contract or a digest, a
constraint of a table, or whatever the adapter or the committer raise. -/
inductive SagaFault where
  | saga (message : String)
  | conflict (message : String)
  | value
  | integrity
  | outside
  deriving DecidableEq

@[ext] structure ProviderSlot where
  slotNo : JsonNat
  provider : OpaqueId
  model : OpaqueId
  transportProfileSha256 : Canon
  slot_pos : 1 ≤ slotNo.val

instance decidableEqProviderSlot : DecidableEq ProviderSlot := fun _ _ =>
  decidable_of_iff' _ ProviderSlot.ext_iff

def ProviderSlot.canon (slot : ProviderSlot) : Canon :=
  .ofList [.num slot.slotNo, .str slot.provider.1, .str slot.model.1, slot.transportProfileSha256]

/-- `ModelAttemptPlan`; its further values are one canonical value. -/
structure ModelAttemptPlan where
  modelAttemptPlanId : Canon
  modelEffectId : Canon
  requestId : Canon
  runId : Canon
  runSequence : ℕ
  generation : ℕ
  rootExperienceId : OpaqueId
  responseEpisodeId : OpaqueId
  providerSlots : List ProviderSlot
  planRevision : ℕ
  requestSha256 : Canon
  rest : Canon
  planSha256 : Canon
  slots_ne : providerSlots ≠ []
  slots_sorted : (providerSlots.map fun slot => slot.slotNo.val).Pairwise (· < ·)
  deriving DecidableEq

namespace ModelAttemptPlan

def computedPlanSha256 (plan : ModelAttemptPlan) : Canon :=
  .sha256 (.ofList [plan.modelAttemptPlanId, plan.modelEffectId, plan.requestId, plan.runId,
    .num plan.runSequence, .num plan.generation, .str plan.rootExperienceId.1,
    .str plan.responseEpisodeId.1, .ofList (plan.providerSlots.map ProviderSlot.canon),
    .num plan.planRevision, plan.requestSha256, plan.rest])

/-- What every record of the plan copies of it. -/
def binding (plan : ModelAttemptPlan) : Canon :=
  .ofList [plan.planSha256, plan.modelEffectId, plan.requestId, plan.runId,
    .num plan.runSequence, .num plan.generation, .str plan.rootExperienceId.1,
    .str plan.responseEpisodeId.1, .num plan.planRevision, plan.requestSha256]

/-- `derive_model_inference_effect_id` of the plan. -/
def effectId (plan : ModelAttemptPlan) : Canon :=
  .ident "eff_" (.ofList [.text "tiangong.v21.model-effect.v1", plan.requestId, plan.runId,
    .str plan.rootExperienceId.1, .str plan.responseEpisodeId.1, plan.requestSha256])

/-- `derive_model_attempt_id`. -/
def attemptId (plan : ModelAttemptPlan) (slotNo : ℕ) : Canon :=
  .ident "mat_" (.ofList [.text "tiangong.v21.model-attempt.v1", plan.modelAttemptPlanId,
    .num slotNo])

/-- `derive_model_attempt_receipt_id` of a slot. -/
def receiptId (plan : ModelAttemptPlan) (slotNo : ℕ) : Canon :=
  .ident "mar_" (.ofList [.text "tiangong.v21.model-receipt.v1", plan.attemptId slotNo])

/-- `derive_model_attempt_plan_outcome_id`. -/
def outcomeId (plan : ModelAttemptPlan) : Canon :=
  .ident "mapo_" (.ofList [.text "tiangong.v21.model-plan-outcome.v1", plan.modelAttemptPlanId])

end ModelAttemptPlan

inductive AttemptStatus where
  | succeeded | failedRetryable | failedFinal | ambiguous | cancelled
  deriving DecidableEq

def AttemptStatus.ofText? : String → Option AttemptStatus
  | "SUCCEEDED" => some .succeeded
  | "FAILED_RETRYABLE" => some .failedRetryable
  | "FAILED_FINAL" => some .failedFinal
  | "AMBIGUOUS" => some .ambiguous
  | "CANCELLED" => some .cancelled
  | _ => none

/-- `canonical_sha256({"text": text})`. -/
def textSha256 (text : PyStr) : Canon := .sha256 (.ofList [.str text])

/-- `"obj_" + text_sha256`. -/
def textObjectId (text : PyStr) : Canon := .cons (.text "obj_") (textSha256 text)

/-- `ModelAttemptResult`. What it copies of its plan is one value. -/
structure ModelAttemptResult where
  receiptId : Canon
  planId : Canon
  binding : Canon
  attemptId : Canon
  slotNo : ℕ
  provider : OpaqueId
  model : OpaqueId
  status : AttemptStatus
  startedAtMs : ℕ
  completedAtMs : ℕ
  responseSchemaValid : Bool
  dispatchMarkerRef : Canon
  transportRunId : OpaqueId
  providerResponseId : Option OpaqueId
  outputTextSha256 : Option Canon
  textObjectId : Option Canon
  finishReason : Option PyStr
  errorCode : Option ActionId
  retryable : Option Bool
  deriving DecidableEq

inductive OutcomeStatus where
  | succeeded | exhausted
  deriving DecidableEq

def OutcomeStatus.text : OutcomeStatus → String
  | succeeded => "SUCCEEDED"
  | exhausted => "EXHAUSTED"

/-- `ModelAttemptPlanOutcome`, with its digest. -/
structure ModelAttemptPlanOutcome where
  outcomeId : Canon
  planId : Canon
  planSha256 : Canon
  status : OutcomeStatus
  orderedAttemptRefs : List Canon
  winnerAttemptRef : Option Canon
  completedAtMs : ℕ
  deriving DecidableEq

/-- `outcome_sha256`. -/
def ModelAttemptPlanOutcome.sha256 (outcome : ModelAttemptPlanOutcome) : Canon :=
  .sha256 (.ofList [outcome.outcomeId, outcome.planId, outcome.planSha256,
    .text outcome.status.text, .ofList outcome.orderedAttemptRefs,
    .option id outcome.winnerAttemptRef, .num outcome.completedAtMs])

/-- `AssistantCommit`, with its digest. -/
structure AssistantCommit where
  assistantCommitId : Canon
  assistantMessageId : Canon
  lifeTurnCommitRef : Canon
  responseEpisodeId : OpaqueId
  outcomeRef : Canon
  receiptId : Canon
  committedTextSha256 : Canon
  textObjectId : Canon
  committedAtMs : ℕ
  deriving DecidableEq

/-- `commit_sha256`. -/
def AssistantCommit.sha256 (commit : AssistantCommit) : Canon :=
  .sha256 (.ofList [commit.assistantCommitId, commit.assistantMessageId, commit.lifeTurnCommitRef,
    .str commit.responseEpisodeId.1, commit.outcomeRef, commit.receiptId,
    commit.committedTextSha256, commit.textObjectId, .num commit.committedAtMs])

/-- `AssistantMessage`. -/
structure AssistantMessage where
  assistantMessageId : Canon
  assistantCommitId : Canon
  assistantCommitSha256 : Canon
  text : PyStr
  textObjectId : Canon
  committedTextSha256 : Canon
  lifeId : OpaqueId
  rootExperienceId : OpaqueId
  responseEpisodeId : OpaqueId
  receiptId : Canon
  provider : OpaqueId
  model : OpaqueId
  committedAtMs : ℕ
  deriving DecidableEq

inductive Severity where
  | warning | error
  deriving DecidableEq

/-- `SystemStatusRecord`. What it copies of its plan is one value. -/
structure SystemStatusRecord where
  systemStatusId : Canon
  binding : Canon
  responseEpisodeId : OpaqueId
  statusCode : ActionId
  severity : Severity
  displayObjectRef : OpaqueId
  createdAtMs : ℕ
  deriving DecidableEq

/-- `AssistantSystemEnvelope`. -/
structure AssistantSystemEnvelope where
  assistantMessage : Option AssistantMessage
  systemStatus : Option SystemStatusRecord
  deriving DecidableEq

inductive MarkerStatus where
  | pending | dispatched
  deriving DecidableEq

/-- A row of `model_dispatch_marker`. -/
structure DispatchMarker where
  markerId : Canon
  planId : Canon
  attemptId : Canon
  slotNo : ℕ
  status : MarkerStatus
  createdAtMs : ℕ
  dispatchedAtMs : Option ℕ
  deriving DecidableEq

def DispatchMarker.dispatch (nowMs : ℕ) (m : DispatchMarker) : DispatchMarker :=
  { m with status := .dispatched, dispatchedAtMs := some nowMs }

@[simp] theorem DispatchMarker.dispatch_markerId (nowMs : ℕ) (m : DispatchMarker) :
    (m.dispatch nowMs).markerId = m.markerId := rfl

inductive EffectiveStatus where
  | succeeded | failedRetryable | failedFinal
  deriving DecidableEq

/-- A row of `effect_outcome_head`. -/
structure EffectHead where
  effectId : Canon
  originalExecutionResultRef : Canon
  effectiveStatus : EffectiveStatus
  headRevision : ℕ
  headSha256 : Canon
  updatedAtMs : ℕ
  deriving DecidableEq

def EffectHead.moved (head head' : EffectHead) : EffectHead :=
  { head' with effectId := head.effectId }

@[simp] theorem EffectHead.moved_effectId (head head' : EffectHead) :
    (head.moved head').effectId = head.effectId := rfl

/-- The tables of plans and their records. -/
structure SagaStore where
  plans : Table ModelAttemptPlan.modelAttemptPlanId
  markers : Table DispatchMarker.markerId
  results : Table ModelAttemptResult.receiptId
  outcomes : Table ModelAttemptPlanOutcome.planId
  commits : Table AssistantCommit.assistantCommitId
  statuses : Table SystemStatusRecord.systemStatusId
  heads : Table EffectHead.effectId

/-- A record is written once: the same one again is nothing, another one is refused. -/
def putOnce {ρ κ : Type} {key : ρ → κ} [DecidableEq ρ] [DecidableEq κ] (what : String)
    (taken : ρ → Bool) (r : ρ) (t : Table key) : Except SagaFault (Bool × Table key) :=
  match t.find (key r) with
  | some existing => do
    rejectIf (existing ≠ r) (.conflict (what ++ " identity was reused"))
    pure (false, t)
  | none => do
    rejectIf (∃ r' ∈ t.rows, taken r' = true) (.conflict (what ++ " natural key was reused"))
    let t' ← t.insert .integrity r
    pure (true, t')

namespace SagaStore

def empty : SagaStore := ⟨.empty, .empty, .empty, .empty, .empty, .empty, .empty⟩

def putModelAttemptPlan (plan : ModelAttemptPlan) (s : SagaStore) :
    Except SagaFault (Bool × SagaStore) := do
  rejectIf (plan.planSha256 ≠ plan.computedPlanSha256) .value
  let (new, plans) ← putOnce "model attempt plan" (fun p =>
    p.responseEpisodeId = plan.responseEpisodeId && p.planRevision = plan.planRevision) plan s.plans
  pure (new, { s with plans })

def getDispatchMarker (planId : Canon) (slotNo : ℕ) (s : SagaStore) : Option DispatchMarker :=
  s.markers.rows.find? fun m => m.planId = planId && m.slotNo = slotNo

def createDispatchMarker (m : DispatchMarker) (s : SagaStore) :
    Except SagaFault (Bool × SagaStore) :=
  if ∃ m' ∈ s.markers.rows, m'.attemptId = m.attemptId ∨
      (m'.planId = m.planId ∧ m'.slotNo = m.slotNo) then pure (false, s)
  else do
    let markers ← s.markers.insert .integrity m
    pure (true, { s with markers })

def markDispatchMarkerDispatched (markerId : Canon) (nowMs : ℕ) (s : SagaStore) :
    Except SagaFault (Bool × SagaStore) := do
  rejectIf (∃ m ∈ s.markers.rows, m.markerId = markerId ∧ m.status = .pending ∧
    nowMs < m.createdAtMs) .integrity
  pure (decide (∃ m ∈ s.markers.rows, m.markerId = markerId ∧ m.status = .pending), { s with
    markers := s.markers.update (fun m => m.markerId = markerId && m.status = .pending)
      (DispatchMarker.dispatch nowMs) (DispatchMarker.dispatch_markerId nowMs) })

def getModelAttemptResult (planId : Canon) (slotNo : ℕ) (s : SagaStore) :
    Option ModelAttemptResult :=
  s.results.rows.find? fun r => r.planId = planId && r.slotNo = slotNo

def putModelAttemptResult (result : ModelAttemptResult) (s : SagaStore) :
    Except SagaFault (Bool × SagaStore) := do
  let (new, results) ← putOnce "model attempt result" (fun r =>
    r.planId = result.planId && r.slotNo = result.slotNo) result s.results
  pure (new, { s with results })

def putModelAttemptPlanOutcome (outcome : ModelAttemptPlanOutcome) (s : SagaStore) :
    Except SagaFault (Bool × SagaStore) := do
  let (new, outcomes) ← putOnce "model attempt plan outcome" (fun _ => false) outcome s.outcomes
  pure (new, { s with outcomes })

def putAssistantCommit (commit : AssistantCommit) (s : SagaStore) :
    Except SagaFault (Bool × SagaStore) := do
  let (new, commits) ← putOnce "assistant commit" (fun c =>
    c.responseEpisodeId = commit.responseEpisodeId) commit s.commits
  pure (new, { s with commits })

def putSystemStatus (status : SystemStatusRecord) (s : SagaStore) :
    Except SagaFault (Bool × SagaStore) := do
  let (new, statuses) ← putOnce "system status" (fun _ => false) status s.statuses
  pure (new, { s with statuses })

def putEffectOutcomeHead (head : EffectHead) (expected : Option Canon) (s : SagaStore) :
    Except SagaFault (Bool × SagaStore) :=
  match s.heads.find head.effectId with
  | some existing => do
    rejectIf (some existing.headSha256 ≠ expected) (.conflict "effect outcome head CAS is stale")
    if existing.effectiveStatus = head.effectiveStatus then pure (false, s)
    else pure (true, { s with
      heads := s.heads.update (fun h => h.effectId = head.effectId) (fun h => h.moved head)
        fun h => h.moved_effectId head })
  | none => do
    rejectIf (expected ≠ none) (.conflict "effect outcome head genesis CAS is invalid")
    let heads ← s.heads.insert .integrity head
    pure (true, { s with heads })

end SagaStore

end Tiangong.Response
