import Tiangong.DeliveryContracts
import Tiangong.RepairPolicy

/-!
# The completion gate

The machine-only decision whether a request is complete. The gate reads the fact ledger, the
effect heads and the object store, checks every binding of the evidence it is given, and refuses
by raising; what it does not refuse it assesses source by source and weighs in a fixed order.
-/
namespace Tiangong

open ArtifactManifest

inductive GateError where
  /-- `CompletionGateError`. -/
  | gate (code : String)
  /-- What a reader of the gate raised. -/
  | raised (text : String)
  deriving DecidableEq, Repr

inductive FactType where
  | executionSucceeded | executionFailed | executionAmbiguous | executionCancelled
  | executionFenced | artifactQcPassed | artifactQcFailed
  deriving DecidableEq, Repr

/-- The type starts with `execution.`. -/
def FactType.isExecution : FactType → Bool
  | .artifactQcPassed | .artifactQcFailed => false
  | _ => true

structure FactRecord where
  factId : String
  factType : FactType
  requestId : String
  runId : String
  generation : ℕ
  ticketId : String
  effectId : String
  actionId : String
  actionVersion : String
  observedAtMs : ℕ
  payloadSha256 : Canon
  evidenceSha256 : Canon
  factSha256 : Canon
  deriving DecidableEq, Repr

namespace FactRecord

def typeCanon (f : FactRecord) : Canon :=
  .text <| match f.factType with
    | .executionSucceeded => "execution.succeeded"
    | .executionFailed => "execution.failed"
    | .executionAmbiguous => "execution.ambiguous"
    | .executionCancelled => "execution.cancelled"
    | .executionFenced => "execution.fenced"
    | .artifactQcPassed => "artifact.qc_passed"
    | .artifactQcFailed => "artifact.qc_failed"

def computedSha256 (f : FactRecord) : Canon :=
  .sha256 <| .ofList
    [.text f.factId, f.typeCanon, .text f.requestId, .text f.runId, .num f.generation,
      .text f.ticketId, .text f.effectId, .text f.actionId, .text f.actionVersion,
      .num f.observedAtMs, f.payloadSha256, f.evidenceSha256]

def hasValidSha256 (f : FactRecord) : Bool := f.factSha256 = f.computedSha256

end FactRecord

inductive ExecutionStatus where
  | succeeded | failedRetryable | failedFinal | ambiguous | cancelled | fenced
  deriving DecidableEq, Repr

def ExecutionStatus.canon : ExecutionStatus → Canon
  | .succeeded => .text "SUCCEEDED"
  | .failedRetryable => .text "FAILED_RETRYABLE"
  | .failedFinal => .text "FAILED_FINAL"
  | .ambiguous => .text "AMBIGUOUS"
  | .cancelled => .text "CANCELLED"
  | .fenced => .text "FENCED"

/-- The fields of an execution result that the gate reads. -/
structure ExecutionResult where
  ticketId : String
  requestId : String
  runId : String
  generation : ℕ
  effectId : String
  actionId : String
  actionVersion : String
  status : ExecutionStatus
  resultPayloadSha256 : Canon
  factIds : List String
  deriving DecidableEq, Repr

structure FactBatchRecord where
  result : ExecutionResult
  facts : List FactRecord
  deriving DecidableEq, Repr

structure ArtifactQcRecord where
  manifest : ArtifactManifest
  factId : String
  qcResultSha256 : Canon
  status : QcStatus

structure ObjectReference where
  objectId : String
  kind : String
  sha256 : Canon
  sizeBytes : ℕ
  tenantId : String
  linkAccountId : String
  conversationScopeHash : Canon
  deriving DecidableEq, Repr

/-- The bytes of an object: what they say and how many they are. -/
structure ObjectBytes where
  content : Canon
  length : ℕ
  deriving DecidableEq, Repr

/-- `CompletionGate`, with what its stores answer. The readers may raise. -/
structure CompletionGate where
  listRequestFacts : String → String → ℕ → Except GateError (List FactRecord)
  getBatchForEffect : String → Except GateError (Option FactBatchRecord)
  getArtifactQc : String → String → String → Except GateError (Option ArtifactQcRecord)
  getReference : String → Except GateError (Option ObjectReference)
  readBytes : String → Except GateError ObjectBytes
  headStateReader : Option (String → Except GateError (Option EffectState))
  /-- The order of the identifiers' texts. -/
  idBefore : Canon → Canon → Bool

inductive DeliveryRequirement where
  | none | channelAccepted | delivered
  deriving DecidableEq, Repr

inductive VerificationMode where
  | none | planBound
  deriving DecidableEq, Repr

def VerificationMode.canon : VerificationMode → Canon
  | .none => .text "NONE"
  | .planBound => .text "PLAN_BOUND"

structure CompletionRequirements where
  requestId : String
  runId : String
  generation : ℕ
  textRequired : Bool
  requiredExecutionEffectIds : List String
  executionLineageEffectIds : List String
  requiredArtifactRevisionIds : List String
  deliveryRequirement : DeliveryRequirement
  verificationMode : VerificationMode
  effects_sorted : requiredExecutionEffectIds.Pairwise (· < ·)
  lineage_sorted : executionLineageEffectIds.Pairwise (· < ·)
  artifacts_sorted : requiredArtifactRevisionIds.Pairwise (· < ·)
  effects_in_lineage : executionLineageEffectIds ≠ [] →
    requiredExecutionEffectIds ⊆ executionLineageEffectIds
  some_required : textRequired = true ∨ requiredExecutionEffectIds ≠ [] ∨
    requiredArtifactRevisionIds ≠ []

/-- The lineage, which defaults to the required effects. -/
def CompletionRequirements.lineage (r : CompletionRequirements) : List String :=
  if r.executionLineageEffectIds = [] then r.requiredExecutionEffectIds
  else r.executionLineageEffectIds

inductive DeliveryFailure where
  | failedFinal | ambiguous
  deriving DecidableEq, Repr

/-- The keyword arguments of `evaluate`. -/
structure CompletionEvidence where
  candidateText : Option String
  artifacts : List ArtifactManifest
  outboundPlan : Option OutboundPlan
  deliveryReceipt : Option DeliveryReceipt
  deliveryFailure : Option DeliveryFailure
  verificationReadiness : Option VerificationReadiness
  activePlan : Option VerificationPlan
  verificationDisposition : Option VerificationDisposition
  verificationFailureEvidence : Option FailureEvidence
  verificationDispositions : Option (List VerificationDisposition)
  verificationFailureEvidences : Option (List FailureEvidence)
  dispositionAuthorityReader : Option (Canon → Except GateError (Option VerificationDisposition))
  readinessAuthorityReader :
    Option (String → String → ℕ → Except GateError (Option VerificationReadiness))

/-- What the gate says about one execution effect. -/
inductive EffectAssessment where
  | of (status : ExecutionStatus)
  | missing
  | mismatch
  deriving DecidableEq, Repr

namespace EffectAssessment

def failed (a : EffectAssessment) : Bool :=
  a = of .failedFinal || a = of .cancelled || a = of .fenced

def ambiguous (a : EffectAssessment) : Bool := a = of .ambiguous || a = mismatch

def canon : EffectAssessment → Canon
  | of status => status.canon
  | missing => .text "MISSING"
  | mismatch => .text "MISMATCH"

end EffectAssessment

inductive AssessedStage where
  | of (stage : PartStage)
  | missing
  deriving DecidableEq, Repr

def AssessedStage.canon : AssessedStage → Canon
  | of stage => stage.canon
  | missing => .text "MISSING"

structure CompletionPartAssessment where
  partId : String
  index : ℕ
  kind : PartKind
  artifactRevisionId : Option String
  stage : AssessedStage
  requirementSatisfied : Bool
  platformDelivered : Bool
  reasonCode : String
  deriving DecidableEq, Repr

def CompletionPartAssessment.canon (p : CompletionPartAssessment) : Canon :=
  .ofList [.text p.partId, .num p.index, p.kind.canon, .option .text p.artifactRevisionId,
    p.stage.canon, .flag p.requirementSatisfied, .flag p.platformDelivered, .text p.reasonCode]

inductive ArtifactAssessment where
  | missing
  | of (state : QcState)
  deriving DecidableEq, Repr

def ArtifactAssessment.canon : ArtifactAssessment → Canon
  | missing => .text "MISSING"
  | of .pending => .text "QC_PENDING"
  | of .passed => .text "QC_PASSED"
  | of .failed => .text "QC_FAILED"

inductive CompletionOutcome where
  | inProgress | completed | partialDelivery | failed | reconcileRequired
  deriving DecidableEq, Repr

def CompletionOutcome.canon : CompletionOutcome → Canon
  | .inProgress => .text "IN_PROGRESS"
  | .completed => .text "COMPLETED"
  | .partialDelivery => .text "PARTIAL"
  | .failed => .text "FAILED"
  | .reconcileRequired => .text "RECONCILE_REQUIRED"

structure CompletionDecision where
  requestId : String
  runId : String
  generation : ℕ
  outcome : CompletionOutcome
  reasonCode : String
  textReady : Bool
  executionReady : Bool
  artifactsReady : Bool
  deliveryReady : Bool
  canTransitionRequestCompleted : Bool
  canClaimPlatformDelivered : Bool
  needsReconciliation : Bool
  executionEffectStates : List (String × EffectAssessment)
  artifactRevisionStates : List (String × ArtifactAssessment)
  deliveryParts : List CompletionPartAssessment
  supportingFactIds : List String
  outboundPlanSha256 : Option Canon
  deliveryReceiptSha256 : Option Canon
  candidateTextSha256 : Option Canon
  verificationMode : VerificationMode
  verificationReady : Bool
  verificationPlanSha256 : Option Canon
  verificationReadinessId : Option Canon
  verificationReadinessSha256 : Option Canon
  decisionSha256 : Canon
  deriving DecidableEq, Repr

namespace CompletionDecision

/-- The digest of a decision. An absent readiness identity is no field of it. -/
def computedSha256 (d : CompletionDecision) : Canon :=
  .sha256 <| .ofList <|
    [.text d.requestId, .text d.runId, .num d.generation, d.outcome.canon, .text d.reasonCode,
      .flag d.textReady, .flag d.executionReady, .flag d.artifactsReady, .flag d.deliveryReady,
      .flag d.canTransitionRequestCompleted, .flag d.canClaimPlatformDelivered,
      .flag d.needsReconciliation,
      .ofList (d.executionEffectStates.map fun s => .cons (.text s.1) s.2.canon),
      .ofList (d.artifactRevisionStates.map fun s => .cons (.text s.1) s.2.canon),
      .ofList (d.deliveryParts.map CompletionPartAssessment.canon),
      .ofList (d.supportingFactIds.map .text), .option id d.outboundPlanSha256,
      .option id d.deliveryReceiptSha256, .option id d.candidateTextSha256,
      d.verificationMode.canon, .flag d.verificationReady, .option id d.verificationPlanSha256] ++
    d.verificationReadinessId.toList ++
    [.option id d.verificationReadinessSha256, .flag false]

def withComputedSha256 (d : CompletionDecision) : CompletionDecision :=
  { d with decisionSha256 := d.computedSha256 }

end CompletionDecision

/-- The characters that `str.strip` removes. -/
def isPythonSpace (c : Char) : Bool :=
  let n := c.toNat
  (9 ≤ n && n ≤ 13) || (28 ≤ n && n ≤ 32) || n = 0x85 || n = 0xA0 || n = 0x1680 ||
    (0x2000 ≤ n && n ≤ 0x200A) || n = 0x2028 || n = 0x2029 || n = 0x202F || n = 0x205F || n = 0x3000

def headAgrees : EffectState → ExecutionStatus → Bool
  | .succeeded, .succeeded | .reconciled, .succeeded | .failedFinal, .failedFinal
  | .ambiguous, .ambiguous => true
  | _, _ => false

def headWithoutBatch : Option EffectState → EffectAssessment
  | some .failedFinal => .of .failedFinal
  | some .ambiguous => .of .ambiguous
  | _ => .missing

namespace CompletionGate

variable (gate : CompletionGate) (requirements : CompletionRequirements)

def headState (effectId : String) : Except GateError (Option EffectState) :=
  match gate.headStateReader with
  | none => .ok none
  | some reader => reader effectId

def boundFact (result : ExecutionResult) (effectId : String) (f : FactRecord) : Bool :=
  f.hasValidSha256 && f.effectId = effectId && f.requestId = requirements.requestId &&
    f.runId = requirements.runId && f.generation = requirements.generation &&
    f.ticketId = result.ticketId && f.actionId = result.actionId &&
    f.actionVersion = result.actionVersion && f.payloadSha256 = result.resultPayloadSha256

def boundBatch (effectId : String) (matching : List FactRecord) (batch : FactBatchRecord) : Bool :=
  batch.result.effectId = effectId && batch.result.requestId = requirements.requestId &&
    batch.result.runId = requirements.runId &&
    batch.result.generation = requirements.generation && !batch.facts.isEmpty &&
    batch.facts.map FactRecord.factId = batch.result.factIds &&
    matching.map FactRecord.factId = batch.result.factIds &&
    batch.facts.all (boundFact requirements batch.result effectId)

/-- The state of one effect of the lineage, with the facts that support it. -/
def assessEffect (executionFacts : List FactRecord) (effectId : String) :
    Except GateError (EffectAssessment × List String) := do
  let matching := executionFacts.filter fun f => f.effectId = effectId
  match ← gate.getBatchForEffect effectId with
  | none => do
    rejectIf (matching ≠ []) (.gate "completion.execution.fact_unbound")
    let head ← gate.headState effectId
    pure (headWithoutBatch head, [])
  | some batch => do
    rejectIf (boundBatch requirements effectId matching batch = false)
      (.gate "completion.execution.fact_conflict")
    match gate.headStateReader with
    | none => pure (.of batch.result.status, batch.result.factIds)
    | some reader => do
      match ← reader effectId with
      | none => pure (.mismatch, batch.result.factIds)
      | some head =>
        pure (if headAgrees head batch.result.status then .of batch.result.status else .mismatch,
          batch.result.factIds)

/-- The states of the required effects and the facts of the whole lineage. -/
def executionAssessments : Except GateError (List (String × EffectAssessment) × List String) := do
  let facts ← gate.listRequestFacts requirements.requestId requirements.runId
    requirements.generation
  let executionFacts := facts.filter fun f => f.factType.isExecution
  rejectIf (requirements.executionLineageEffectIds ≠ [] ∧
      ∃ f ∈ executionFacts, f.effectId ∉ requirements.lineage)
    (.gate "completion.execution.unexpected_fact")
  let assessed ← requirements.lineage.mapM fun e => do
    let a ← gate.assessEffect requirements executionFacts e
    pure (e, a)
  let stateOf := fun e => ((assessed.find? fun a => a.1 = e).map fun a => a.2.1).getD .missing
  pure (requirements.requiredExecutionEffectIds.map fun e => (e, stateOf e),
    assessed.flatMap fun a => a.2.2)

/-- One piece of quality evidence is the recorded one. -/
def checkQcEvidence (artifact : ArtifactManifest) (evidence : QcEvidence) :
    Except GateError String := do
  match ← gate.getArtifactQc artifact.artifactRevisionId evidence.checkId
    evidence.checkVersion with
  | none => .error (.gate "completion.artifact.qc_fact_invalid")
  | some qc => do
    rejectIf (qc.manifest ≠ artifact ∨ qc.factId ≠ evidence.toolFactId ∨
        qc.qcResultSha256 ≠ evidence.evidenceSha256 ∨ qc.status ≠ evidence.status)
      (.gate "completion.artifact.qc_fact_invalid")
    pure qc.factId

def validateArtifact (artifact : ArtifactManifest) : Except GateError (List String) := do
  rejectIf (artifact.hasValidManifestSha256 = false ∨
      artifact.requestId ≠ requirements.requestId ∨ artifact.runId ≠ requirements.runId ∨
      artifact.generation ≠ requirements.generation)
    (.gate "completion.artifact.manifest_invalid")
  match ← gate.getReference artifact.contentObjectId with
  | none => .error (.gate "completion.artifact.object_binding_invalid")
  | some reference => do
    rejectIf (reference.kind ≠ "artifact" ∨ reference.sha256 ≠ artifact.sha256 ∨
        reference.sizeBytes ≠ artifact.sizeBytes ∨ reference.tenantId ≠ artifact.tenantId ∨
        reference.linkAccountId ≠ artifact.linkAccountId ∨
        reference.conversationScopeHash ≠ artifact.conversationScopeHash)
      (.gate "completion.artifact.object_binding_invalid")
    let data ← gate.readBytes artifact.contentObjectId
    rejectIf (data.length ≠ artifact.sizeBytes ∨ .sha256 data.content ≠ artifact.sha256)
      (.gate "completion.artifact.readback_invalid")
    if artifact.qcState = .pending then pure []
    else artifact.qcEvidence.mapM (gate.checkQcEvidence artifact)

/-- The state of one required revision, with the facts that support it. -/
def assessArtifact (artifacts : List ArtifactManifest) (revisionId : String) :
    Except GateError (ArtifactAssessment × List String) :=
  match artifacts.find? fun m => m.artifactRevisionId = revisionId with
  | none => .ok (.missing, [])
  | some artifact => do
    let facts ← gate.validateArtifact requirements artifact
    pure (.of artifact.qcState, facts)

def artifactAssessments (artifacts : List ArtifactManifest) :
    Except GateError (List (String × ArtifactAssessment) × List String) := do
  rejectIf (¬ (artifacts.map artifactRevisionId).Nodup)
    (.gate "completion.artifact.duplicate_revision")
  rejectIf (∃ m ∈ artifacts, m.artifactRevisionId ∉ requirements.requiredArtifactRevisionIds)
    (.gate "completion.artifact.unexpected_revision")
  let assessed ← requirements.requiredArtifactRevisionIds.mapM fun r => do
    let a ← gate.assessArtifact requirements artifacts r
    pure (r, a)
  pure (assessed.map fun a => (a.1, a.2.1), assessed.flatMap fun a => a.2.2)

def validatePlan (plan : OutboundPlan) (artifacts : List ArtifactManifest) :
    Except GateError Unit := do
  rejectIf (plan.hasValidPlanSha256 = false ∨ plan.requestId ≠ requirements.requestId ∨
      plan.runId ≠ requirements.runId ∨ plan.generation ≠ requirements.generation)
    (.gate "completion.delivery.plan_invalid")
  let planned := plan.artifacts.map artifactRevisionId
  rejectIf (¬ (planned ⊆ requirements.requiredArtifactRevisionIds ∧
      requirements.requiredArtifactRevisionIds ⊆ planned))
    (.gate "completion.delivery.artifact_set_mismatch")
  rejectIf (∃ m ∈ plan.artifacts, (artifacts.find? fun supplied =>
      supplied.artifactRevisionId = m.artifactRevisionId) ≠ some m)
    (.gate "completion.delivery.artifact_manifest_mismatch")

def satisfied (requirement : DeliveryRequirement) (stage : PartStage) : Bool :=
  if requirement = .delivered then stage = .delivered else stage.accepted

def stageReason : PartStage → String
  | .planned => "completion.delivery.planned"
  | .fetched => "completion.delivery.fetched"
  | .uploaded => "completion.delivery.uploaded"
  | .channelAccepted => "completion.delivery.channel_accepted"
  | .delivered => "completion.delivery.delivered"
  | .failedRetryable => "completion.delivery.retry_pending"
  | .failedFinal => "completion.delivery.failed_final"
  | .ambiguous => "completion.delivery.ambiguous"

def partAt (part : OutboundPart) (stage : AssessedStage) (requirementSatisfied : Bool)
    (reasonCode : String) : CompletionPartAssessment where
  partId := part.partId
  index := part.index
  kind := part.kind
  artifactRevisionId := part.artifact.map artifactRevisionId
  stage := stage
  requirementSatisfied := requirementSatisfied
  platformDelivered := stage = .of .delivered
  reasonCode := reasonCode

def assessPart (planned : OutboundPart) (observed : DeliveryPartReceipt) :
    Except GateError CompletionPartAssessment := do
  rejectIf (observed.partId ≠ planned.partId ∨ observed.index ≠ planned.index ∨
      observed.kind ≠ planned.kind ∨
      observed.artifactId ≠ planned.artifact.map artifactId ∨
      observed.artifactRevisionId ≠ planned.artifact.map artifactRevisionId)
    (.gate "completion.delivery.part_binding_invalid")
  pure (partAt planned (.of observed.stage)
    (satisfied requirements.deliveryRequirement observed.stage) (stageReason observed.stage))

def assessReceipt (plan : OutboundPlan) (receipt : DeliveryReceipt) :
    Except GateError (List CompletionPartAssessment) := do
  rejectIf (receipt.hasValidReceiptSha256 = false ∨ receipt.deliveryId ≠ plan.deliveryId ∨
      receipt.effectId ≠ plan.effectId ∨ receipt.requestId ≠ plan.requestId ∨
      receipt.runId ≠ plan.runId ∨ receipt.generation ≠ plan.generation ∨
      receipt.channel ≠ plan.channel ∨ receipt.parts.length ≠ plan.parts.length)
    (.gate "completion.delivery.receipt_invalid")
  (plan.parts.zip receipt.parts).mapM fun pair => assessPart requirements pair.1 pair.2

/-- What the delivery evidence amounts to. -/
structure DeliveryStanding where
  textReady : Bool
  deliveryReady : Bool
  delivered : Bool
  parts : List CompletionPartAssessment
  failed : Bool
  ambiguous : Bool
  someSuccess : Bool
  planSha256 : Option Canon
  receiptSha256 : Option Canon
  deriving DecidableEq, Repr

def standingWithout (textReady : Bool) (plan : OutboundPlan) (stage : AssessedStage)
    (reasonCode : String) : DeliveryStanding where
  textReady := textReady
  deliveryReady := false
  delivered := false
  parts := plan.parts.map fun part => partAt part stage false reasonCode
  failed := stage = .of .failedFinal
  ambiguous := stage = .of .ambiguous
  someSuccess := false
  planSha256 := some plan.planSha256
  receiptSha256 := none

/-- The delivery of a plan: a reported failure, a missing receipt, or a receipt. -/
def assessPlan (evidence : CompletionEvidence) (plan : OutboundPlan) :
    Except GateError DeliveryStanding := do
  validatePlan requirements plan evidence.artifacts
  rejectIf (evidence.deliveryReceipt.isSome ∧ evidence.deliveryFailure.isSome)
    (.gate "completion.delivery.conflicting_evidence")
  let textReady := !requirements.textRequired || !plan.texts.isEmpty
  rejectIf (requirements.textRequired = true ∧ ∃ text ∈ evidence.candidateText,
      text ≠ "\n".intercalate plan.texts)
    (.gate "completion.text.plan_mismatch")
  match evidence.deliveryFailure, evidence.deliveryReceipt with
  | some .ambiguous, _ =>
    pure (standingWithout textReady plan (.of .ambiguous) "completion.delivery.ambiguous")
  | some .failedFinal, _ =>
    pure (standingWithout textReady plan (.of .failedFinal) "completion.delivery.failed_final")
  | none, none =>
    pure (standingWithout textReady plan .missing "completion.delivery.receipt_missing")
  | none, some receipt => do
    let parts ← assessReceipt requirements plan receipt
    pure
      { textReady := textReady
        deliveryReady := parts.all (·.requirementSatisfied)
        delivered := parts.all (·.platformDelivered)
        parts := parts
        failed := parts.any (·.stage = .of .failedFinal)
        ambiguous := parts.any (·.stage = .of .ambiguous)
        someSuccess := parts.any fun p => p.stage = .of .channelAccepted || p.stage = .of .delivered
        planSha256 := some plan.planSha256
        receiptSha256 := some receipt.receiptSha256 }

def deliveryAssessment (evidence : CompletionEvidence) : Except GateError DeliveryStanding :=
  if requirements.deliveryRequirement = .none then do
    rejectIf (evidence.outboundPlan.isSome ∨ evidence.deliveryReceipt.isSome ∨
        evidence.deliveryFailure.isSome)
      (.gate "completion.delivery.unexpected_evidence")
    pure ⟨!requirements.textRequired || evidence.candidateText.isSome, true, false, [], false,
      false, false, none, none⟩
  else match evidence.outboundPlan with
    | none => do
      rejectIf evidence.deliveryFailure.isSome (.gate "completion.delivery.failure_without_plan")
      pure ⟨!requirements.textRequired, false, false, [], false, false, false, none, none⟩
    | some plan => assessPlan requirements evidence plan

/-- The readiness of a plan-bound request, bound to its active plan. -/
def verificationAssessment (evidence : CompletionEvidence) :
    Except GateError (Bool × FailureClass) :=
  if requirements.verificationMode = .planBound then do
    let readiness ← required evidence.verificationReadiness
      (.gate "completion.verification.plan_bound_missing_readiness")
    rejectIf (readiness.hasValidIdentity = false)
      (.gate "completion.verification.readiness_identity_invalid")
    rejectIf (readiness.requestId ≠ requirements.requestId ∨
        readiness.runId ≠ requirements.runId ∨ readiness.generation ≠ requirements.generation)
      (.gate "completion.verification.readiness_lineage_mismatch")
    let plan ← required evidence.activePlan
      (.gate "completion.verification.plan_bound_missing_active_plan")
    rejectIf (plan.hasValidIdentity = false)
      (.gate "completion.verification.active_plan_identity_invalid")
    rejectIf (plan.requestId ≠ requirements.requestId ∨ plan.runId ≠ requirements.runId ∨
        plan.generation ≠ requirements.generation)
      (.gate "completion.verification.active_plan_lineage_mismatch")
    rejectIf (readiness.verificationPlanId ≠ plan.verificationPlanId)
      (.gate "completion.verification.readiness_plan_mismatch")
    rejectIf (readiness.verificationPlanSha256 ≠ plan.planSha256)
      (.gate "completion.verification.readiness_plan_hash_mismatch")
    rejectIf (readiness.registrySnapshotSha256 ≠ plan.registrySnapshotSha256)
      (.gate "completion.verification.readiness_registry_mismatch")
    pure (readiness.verificationReady, readiness.failureClass)
  else do
    rejectIf evidence.verificationReadiness.isSome
      (.gate "completion.verification.none_mode_with_readiness")
    pure (true, .none)

def dispositionForms (evidence : CompletionEvidence) :
    Except GateError (List VerificationDisposition × List FailureEvidence) :=
  match evidence.verificationDispositions with
  | some dispositions => do
    rejectIf (evidence.verificationDisposition.isSome ∨ evidence.verificationFailureEvidence.isSome)
      (.gate "completion.verification.disposition_forms_conflict")
    let evidences ← required evidence.verificationFailureEvidences
      (.gate "completion.verification.disposition_forms_conflict")
    pure (dispositions, evidences)
  | none => do
    rejectIf evidence.verificationFailureEvidences.isSome
      (.gate "completion.verification.disposition_forms_conflict")
    pure (evidence.verificationDisposition.toList, evidence.verificationFailureEvidence.toList)

/-- Every disposition is the one on file. -/
def checkAuthority (evidence : CompletionEvidence) (dispositions : List VerificationDisposition) :
    Except GateError Unit :=
  if dispositions = [] then .ok ()
  else do
    let reader ← required evidence.dispositionAuthorityReader
      (.gate "completion.verification.disposition_authority_reader_required")
    dispositions.forM fun d => do
      let authoritative ← reader d.verificationDispositionId
      rejectIf (¬ authoritative.any fun a => a.dispositionSha256 = d.dispositionSha256)
        (.gate "completion.verification.disposition_not_authoritative")

/-- A set of dispositions covers exactly the required entries that do not pass, on the current
readiness. -/
def checkCoverage (evidence : CompletionEvidence) (dispositions : List VerificationDisposition)
    (evidences : List FailureEvidence) : Except GateError Unit :=
  if evidence.verificationDispositions.isNone then .ok ()
  else do
    let reader ← required evidence.readinessAuthorityReader
      (.gate "completion.verification.readiness_authority_reader_required")
    let readiness ← required evidence.verificationReadiness
      (.gate "completion.verification.readiness_not_current")
    let current ← reader requirements.requestId requirements.runId requirements.generation
    rejectIf (¬ current.any fun c => c.hasValidIdentity &&
        c.verificationReadinessId = readiness.verificationReadinessId &&
        c.readinessSha256 = readiness.readinessSha256)
      (.gate "completion.verification.readiness_not_current")
    let requiredEntries := (evidence.activePlan.toList.flatMap fun plan =>
      plan.entries.filter (·.required)).map PlanEntry.planEntryId
    let expected := (readiness.entryAssessments.filter fun a =>
      a.status ≠ .pass && requiredEntries.contains a.planEntryId).map EntryAssessment.planEntryId
    let given := dispositions.map VerificationDisposition.planEntryId
    rejectIf (¬ (given ⊆ expected ∧ expected ⊆ given))
      (.gate "completion.verification.disposition_coverage_mismatch")
    let evidenceIds := evidences.map FailureEvidence.failureEvidenceId
    let expectedIds := dispositions.map VerificationDisposition.failureEvidenceId
    rejectIf (¬ (evidenceIds ⊆ expectedIds ∧ expectedIds ⊆ evidenceIds))
      (.gate "completion.verification.evidence_coverage_mismatch")

/-- A disposition is valid, of this request and plan, and bound to its evidence. -/
def checkDisposition (evidence : CompletionEvidence) (evidences : List FailureEvidence)
    (d : VerificationDisposition) : Except GateError Unit := do
  rejectIf (d.hasValidIdentity = false)
    (.gate "completion.verification.disposition_identity_invalid")
  rejectIf (d.requestId ≠ requirements.requestId ∨ d.runId ≠ requirements.runId ∨
      d.generation ≠ requirements.generation)
    (.gate "completion.verification.disposition_lineage_mismatch")
  rejectIf (evidence.activePlan.any fun plan => d.verificationPlanId ≠ plan.verificationPlanId)
    (.gate "completion.verification.disposition_plan_mismatch")
  rejectIf (evidence.activePlan.any fun plan =>
      !(plan.entries.map PlanEntry.planEntryId).contains d.planEntryId)
    (.gate "completion.verification.disposition_entry_not_in_plan")
  rejectIf (d.policyVersion ≠ policyVersion ∨ d.policyConfigSha256 ≠ defaultPolicy.configSha256)
    (.gate "completion.verification.disposition_policy_mismatch")
  match evidences.find? fun e => e.failureEvidenceId = d.failureEvidenceId with
  | some e => do
    rejectIf (e.hasValidIdentity = false)
      (.gate "completion.verification.evidence_identity_invalid")
    rejectIf (e.failureEvidenceSha256 ≠ d.failureEvidenceSha256 ∨ e.requestId ≠ d.requestId ∨
        e.runId ≠ d.runId ∨ e.generation ≠ d.generation ∨ e.planEntryId ≠ d.planEntryId)
      (.gate "completion.verification.disposition_evidence_mismatch")
    rejectIf (evidence.verificationReadiness.any fun r => e.readinessSha256 ≠ r.readinessSha256)
      (.gate "completion.verification.disposition_stale_readiness")
  | none => do
    rejectIf (evidences ≠ []) (.gate "completion.verification.disposition_evidence_mismatch")
    rejectIf evidence.verificationReadiness.isSome
      (.gate "completion.verification.disposition_without_evidence")

/-- What the dispositions, or without any the failure class, say: ambiguous, then failed. -/
def verificationSignals (dispositions : List VerificationDisposition) (failureClass : FailureClass) :
    Bool × Bool :=
  if dispositions = [] then
    (failureClass = .authorityError || failureClass = .planConfigError,
      failureClass = .verificationFailed)
  else
    (dispositions.any (·.action = .reconcile), dispositions.any (·.action = .block))

/-- The decision weighs ambiguity first, then failure, then readiness. -/
def weigh (ambiguous failed someSuccess ready : Bool) (requirement : DeliveryRequirement) :
    CompletionOutcome × String :=
  if ambiguous then (.reconcileRequired, "completion.reconciliation_required")
  else if failed then
    if someSuccess then (.partialDelivery, "completion.partial_delivery")
    else (.failed, "completion.required_evidence_failed")
  else if ready then
    (.completed, if requirement = .delivered then "completion.platform_delivered"
      else "completion.requirements_satisfied")
  else (.inProgress, "completion.required_evidence_pending")

def checkCandidateText (evidence : CompletionEvidence) : Except GateError Unit :=
  rejectIf (∃ text ∈ evidence.candidateText, text.toList.all isPythonSpace = true ∨
      Char.ofNat 0 ∈ text.toList ∨ 100000 < text.length)
    (.gate "completion.text.invalid")

/-- The dispositions that are consumed, after the checks of their form and of their authority. -/
def admittedDispositions (evidence : CompletionEvidence) :
    Except GateError (List VerificationDisposition × List FailureEvidence) := do
  let (dispositions, evidences) ← dispositionForms evidence
  rejectIf (¬ (dispositions.map VerificationDisposition.planEntryId).Pairwise
      fun i j => gate.idBefore i j = true)
    (.gate "completion.verification.disposition_set_invalid")
  rejectIf (¬ (evidences.map FailureEvidence.failureEvidenceId).Nodup)
    (.gate "completion.verification.evidence_set_invalid")
  checkAuthority evidence dispositions
  pure (dispositions, evidences)

def decide (evidence : CompletionEvidence) (dispositions : List VerificationDisposition)
    (execution : List (String × EffectAssessment) × List String)
    (artifacts : List (String × ArtifactAssessment) × List String) (delivery : DeliveryStanding)
    (verification : Bool × FailureClass) : CompletionDecision :=
  let executionReady := execution.1.all fun a => a.2 = .of .succeeded
  let artifactsReady := artifacts.1.all fun a => a.2 = .of .passed
  let signals := verificationSignals dispositions verification.2
  let ambiguous := execution.1.any (fun a => a.2.ambiguous) || delivery.ambiguous || signals.1
  let failed := execution.1.any (fun a => a.2.failed) ||
    artifacts.1.any (fun a => a.2 = .of .failed) || delivery.failed || signals.2
  let ready := delivery.textReady && executionReady && artifactsReady && verification.1 &&
    delivery.deliveryReady
  let verdict := weigh ambiguous failed delivery.someSuccess ready requirements.deliveryRequirement
  CompletionDecision.withComputedSha256
  { requestId := requirements.requestId
    runId := requirements.runId
    generation := requirements.generation
    outcome := verdict.1
    reasonCode := verdict.2
    textReady := delivery.textReady
    executionReady := executionReady
    artifactsReady := artifactsReady
    deliveryReady := delivery.deliveryReady
    canTransitionRequestCompleted := verdict.1 = .completed
    canClaimPlatformDelivered := verdict.1 = .completed &&
      requirements.deliveryRequirement = .delivered && delivery.delivered
    needsReconciliation := verdict.1 = .reconcileRequired
    executionEffectStates := execution.1
    artifactRevisionStates := artifacts.1
    deliveryParts := delivery.parts
    supportingFactIds := orderBy (fun i j => i ≤ j) (execution.2 ++ artifacts.2).dedup
    outboundPlanSha256 := delivery.planSha256
    deliveryReceiptSha256 := delivery.receiptSha256
    candidateTextSha256 := evidence.candidateText.map fun text => .sha256 (.text text)
    verificationMode := requirements.verificationMode
    verificationReady := verification.1
    verificationPlanSha256 :=
      evidence.verificationReadiness.map VerificationReadiness.verificationPlanSha256
    verificationReadinessId := if evidence.verificationDispositions.isSome then
      evidence.verificationReadiness.map VerificationReadiness.verificationReadinessId else none
    verificationReadinessSha256 :=
      evidence.verificationReadiness.map VerificationReadiness.readinessSha256
    decisionSha256 := .null }

def evaluate (evidence : CompletionEvidence) : Except GateError CompletionDecision := do
  checkCandidateText evidence
  let (dispositions, evidences) ← gate.admittedDispositions evidence
  let execution ← gate.executionAssessments requirements
  let artifacts ← gate.artifactAssessments requirements evidence.artifacts
  let delivery ← deliveryAssessment requirements evidence
  let verification ← verificationAssessment requirements evidence
  checkCoverage requirements evidence dispositions evidences
  dispositions.forM (checkDisposition requirements evidence evidences)
  pure (decide requirements evidence dispositions execution artifacts delivery verification)

end CompletionGate

end Tiangong
