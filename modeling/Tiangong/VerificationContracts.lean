import Tiangong.EffectLedger

/-!
# Verification contracts

The immutable records of the verification plane: the plan and its entries, the readiness that
assesses it, and the records of the repair loop. Every record carries its digest and an identifier
derived from the digest; `hasValidIdentity` recomputes both.
-/
namespace Tiangong

inductive SubjectKind where
  | artifact | effect | repository | delivery | text | handoff
  deriving DecidableEq, Repr

namespace SubjectKind

def name : SubjectKind → String
  | .artifact => "artifact"
  | .effect => "effect"
  | .repository => "repository"
  | .delivery => "delivery"
  | .text => "text"
  | .handoff => "handoff"

def canon (k : SubjectKind) : Canon := .text k.name

/-- The part of a predicate type before its first dot names the subject kind it is about. -/
def ofPredicateType (predicateType : String) : Option SubjectKind :=
  let domain := String.ofList (predicateType.toList.takeWhile (· ≠ '.'))
  if domain ∈ ["artifact", "docx", "xlsx", "pptx", "csv", "text"] then some .artifact
  else if domain = "effect" then some .effect
  else if domain = "repository" then some .repository
  else none

end SubjectKind

def textList (values : List String) : Canon := .ofList (values.map .text)

theorem textList_injective : Function.Injective textList := fun _ _ h =>
  List.map_injective_iff.mpr (fun _ _ h => by simpa using h) (Canon.ofList_injective h)

/-- A predicate with its parameters in the normal form its validator demands. -/
structure AcceptancePredicate where
  predicateId : Canon
  predicateType : String
  subjectKind : SubjectKind
  params : Canon
  predicateSha256 : Canon
  deriving DecidableEq, Repr

namespace AcceptancePredicate

def computedPredicateSha256 (p : AcceptancePredicate) : Canon :=
  .sha256 (.ofList [.text "tiangong.acceptance_predicate.v1", .text p.predicateType,
    p.subjectKind.canon, p.params])

def computedId (sha256 : Canon) : Canon :=
  .ident "vpd_" (.ofList [.text "tiangong.acceptance_predicate.v1", sha256])

def hasValidIdentity (p : AcceptancePredicate) : Bool :=
  SubjectKind.ofPredicateType p.predicateType = some p.subjectKind &&
    p.predicateSha256 = p.computedPredicateSha256 && p.predicateId = computedId p.predicateSha256

def canon (p : AcceptancePredicate) : Canon :=
  .ofList [p.predicateId, .text p.predicateType, p.subjectKind.canon, p.params, p.predicateSha256]

def create (predicateType : String) (subjectKind : SubjectKind) (params : Canon) :
    AcceptancePredicate :=
  let sha256 : Canon := .sha256 (.ofList [.text "tiangong.acceptance_predicate.v1",
    .text predicateType, subjectKind.canon, params])
  ⟨computedId sha256, predicateType, subjectKind, params, sha256⟩

end AcceptancePredicate

inductive EvaluationPhase where
  | postExecution | preDelivery | deliveryFinalization | asyncObservation
  deriving DecidableEq, Repr

def EvaluationPhase.canon : EvaluationPhase → Canon
  | .postExecution => .text "POST_EXECUTION"
  | .preDelivery => .text "PRE_DELIVERY"
  | .deliveryFinalization => .text "DELIVERY_FINALIZATION"
  | .asyncObservation => .text "ASYNC_OBSERVATION"

/-- `VerificationPlanEntryV2`. -/
structure PlanEntry where
  planEntryId : Canon
  verifierId : String
  verifierVersion : String
  predicate : AcceptancePredicate
  subjectIdentity : String
  evaluationPhase : EvaluationPhase
  required : Bool
  entrySha256 : Canon
  deriving DecidableEq, Repr

namespace PlanEntry

def computedEntrySha256 (e : PlanEntry) : Canon :=
  .sha256 (.ofList [.text e.verifierId, .text e.verifierVersion, e.predicate.canon,
    .text e.subjectIdentity, e.evaluationPhase.canon, .flag e.required])

def computedId (sha256 : Canon) : Canon :=
  .ident "vpe_" (.ofList [.text "tiangong.verification_plan_entry.v2", sha256])

def hasValidIdentity (e : PlanEntry) : Bool :=
  e.entrySha256 = e.computedEntrySha256 && e.predicate.hasValidIdentity &&
    e.planEntryId = computedId e.entrySha256

def withComputedSha256 (e : PlanEntry) : PlanEntry :=
  { e with entrySha256 := e.computedEntrySha256, planEntryId := computedId e.computedEntrySha256 }

def canon (e : PlanEntry) : Canon :=
  .ofList [e.planEntryId, .text e.verifierId, .text e.verifierVersion, e.predicate.canon,
    .text e.subjectIdentity, e.evaluationPhase.canon, .flag e.required, e.entrySha256]

end PlanEntry

/-- A frozen plan. Its entries are sorted by identifier, so no identifier occurs twice. -/
structure VerificationPlan where
  verificationPlanId : Canon
  requestId : String
  runId : String
  generation : ℕ
  registrySnapshotSha256 : Canon
  entries : List PlanEntry
  planSha256 : Canon
  entryIds_nodup : (entries.map PlanEntry.planEntryId).Nodup
  some_required : ∃ e ∈ entries, e.required = true
  deriving DecidableEq

namespace VerificationPlan

def computedPlanSha256 (p : VerificationPlan) : Canon :=
  .sha256 (.ofList [.text p.requestId, .text p.runId, .num p.generation,
    p.registrySnapshotSha256, .ofList (p.entries.map PlanEntry.canon)])

def computedId (sha256 : Canon) : Canon :=
  .ident "vpl_" (.ofList [.text "tiangong.verification_plan.v2", sha256])

def hasValidIdentity (p : VerificationPlan) : Bool :=
  p.planSha256 = p.computedPlanSha256 && p.entries.all PlanEntry.hasValidIdentity &&
    p.verificationPlanId = computedId p.planSha256

def withComputedSha256 (p : VerificationPlan) : VerificationPlan :=
  { p with
    planSha256 := p.computedPlanSha256, verificationPlanId := computedId p.computedPlanSha256 }

def entry (p : VerificationPlan) (planEntryId : Canon) : Option PlanEntry :=
  p.entries.find? fun e => e.planEntryId = planEntryId

end VerificationPlan

/-- The assessment of one entry: a verdict of its record, or that none matches. -/
inductive AssessmentStatus where
  | pass | fail | inconclusive | error | notApplicable | missing | recordMismatch
  deriving DecidableEq, Repr

def AssessmentStatus.canon : AssessmentStatus → Canon
  | .pass => .text "PASS"
  | .fail => .text "FAIL"
  | .inconclusive => .text "INCONCLUSIVE"
  | .error => .text "ERROR"
  | .notApplicable => .text "NOT_APPLICABLE"
  | .missing => .text "MISSING"
  | .recordMismatch => .text "RECORD_MISMATCH"

structure EntryAssessment where
  planEntryId : Canon
  status : AssessmentStatus
  verificationRecordId : Option String
  reasonCode : Option String
  deriving DecidableEq, Repr

def EntryAssessment.canon (a : EntryAssessment) : Canon :=
  .ofList [a.planEntryId, a.status.canon, .option .text a.verificationRecordId,
    .option .text a.reasonCode]

inductive FailureClass where
  | none | missingEvidence | verificationFailed | inconclusive | authorityError | planConfigError
  deriving DecidableEq, Repr

def FailureClass.canon : FailureClass → Canon
  | .none => .text "NONE"
  | .missingEvidence => .text "MISSING_EVIDENCE"
  | .verificationFailed => .text "VERIFICATION_FAILED"
  | .inconclusive => .text "INCONCLUSIVE"
  | .authorityError => .text "AUTHORITY_ERROR"
  | .planConfigError => .text "PLAN_CONFIG_ERROR"

/-- The machine assessment of a plan; it is ready exactly when it carries no failure class. -/
structure VerificationReadiness where
  verificationReadinessId : Canon
  verificationPlanId : Canon
  verificationPlanSha256 : Canon
  requestId : String
  runId : String
  generation : ℕ
  registrySnapshotSha256 : Canon
  requiredEntryCount : ℕ
  satisfiedEntryCount : ℕ
  entryAssessments : List EntryAssessment
  supportingVerificationRecordIds : List String
  verificationReady : Bool
  failureClass : FailureClass
  reasonCodes : List String
  evaluatedAtMs : ℕ
  readinessSha256 : Canon
  ready_iff : verificationReady = true ↔ failureClass = .none
  assessmentIds_nodup : (entryAssessments.map EntryAssessment.planEntryId).Nodup
  deriving DecidableEq

namespace VerificationReadiness

def computedReadinessSha256 (r : VerificationReadiness) : Canon :=
  .sha256 (.ofList [r.verificationPlanId, r.verificationPlanSha256, .text r.requestId,
    .text r.runId, .num r.generation, r.registrySnapshotSha256, .num r.requiredEntryCount,
    .num r.satisfiedEntryCount, .ofList (r.entryAssessments.map EntryAssessment.canon),
    textList r.supportingVerificationRecordIds, .flag r.verificationReady, r.failureClass.canon,
    textList r.reasonCodes, .num r.evaluatedAtMs])

def computedId (sha256 : Canon) : Canon :=
  .ident "vrd_" (.ofList [.text "tiangong.verification_readiness.v1", sha256])

def hasValidIdentity (r : VerificationReadiness) : Bool :=
  r.readinessSha256 = r.computedReadinessSha256 &&
    r.verificationReadinessId = computedId r.readinessSha256

def withComputedSha256 (r : VerificationReadiness) : VerificationReadiness :=
  { r with
    readinessSha256 := r.computedReadinessSha256
    verificationReadinessId := computedId r.computedReadinessSha256 }

def assessment (r : VerificationReadiness) (planEntryId : Canon) : Option EntryAssessment :=
  r.entryAssessments.find? fun a => a.planEntryId = planEntryId

end VerificationReadiness

inductive VerificationStatus where
  | pass | fail | inconclusive | error | notApplicable
  deriving DecidableEq, Repr

/-- The columns of a persisted verifier outcome that the repair loop reads. -/
structure VerificationRecord where
  verificationRecordId : String
  requestId : String
  runId : String
  generation : ℕ
  verifierId : String
  verifierVersion : String
  predicateId : Canon
  subjectIdentity : String
  status : VerificationStatus
  reasonCodes : List String
  evidenceRefs : List String
  evidenceSha256 : Canon
  evaluatedAtMs : ℕ
  resultSha256 : Canon
  deriving DecidableEq, Repr

inductive FailureKind where
  | verificationFailed | inconclusive | missingEvidence | authorityError | planConfigError
  | recordMismatch
  deriving DecidableEq, Repr

def FailureKind.canon : FailureKind → Canon
  | .verificationFailed => .text "VERIFICATION_FAILED"
  | .inconclusive => .text "INCONCLUSIVE"
  | .missingEvidence => .text "MISSING_EVIDENCE"
  | .authorityError => .text "AUTHORITY_ERROR"
  | .planConfigError => .text "PLAN_CONFIG_ERROR"
  | .recordMismatch => .text "RECORD_MISMATCH"

def deriveFailureSignature (planEntryId : Canon) (effectiveSubjectIdentity : String)
    (predicateSha256 : Canon) (status : AssessmentStatus) (reasonCodes : List String)
    (verificationEvidenceSha256 : Canon) : Canon :=
  .sha256 (.ofList [planEntryId, .text effectiveSubjectIdentity, predicateSha256, status.canon,
    textList reasonCodes, verificationEvidenceSha256])

/-- What failed, against which obligation, on which evidence. -/
structure FailureEvidence where
  failureEvidenceId : Canon
  requestId : String
  runId : String
  generation : ℕ
  verificationPlanId : Canon
  verificationPlanSha256 : Canon
  registrySnapshotSha256 : Canon
  planEntryId : Canon
  planEntrySha256 : Canon
  verifierId : String
  verifierVersion : String
  predicateId : Canon
  predicateSha256 : Canon
  predicateType : String
  subjectKind : SubjectKind
  originalSubjectIdentity : String
  effectiveSubjectIdentity : String
  verificationRecordId : Option String
  verificationResultSha256 : Option Canon
  verificationStatus : AssessmentStatus
  readinessId : Canon
  readinessSha256 : Canon
  failureKind : FailureKind
  reasonCodes : List String
  evidenceRefs : List String
  verificationEvidenceSha256 : Canon
  failureSignatureSha256 : Canon
  observedAtMs : ℕ
  failureEvidenceSha256 : Canon
  deriving DecidableEq, Repr

namespace FailureEvidence

def computedSha256 (f : FailureEvidence) : Canon :=
  .sha256 (.ofList [.text f.requestId, .text f.runId, .num f.generation, f.verificationPlanId,
    f.verificationPlanSha256, f.registrySnapshotSha256, f.planEntryId, f.planEntrySha256,
    .text f.verifierId, .text f.verifierVersion, f.predicateId, f.predicateSha256,
    .text f.predicateType, f.subjectKind.canon, .text f.originalSubjectIdentity,
    .text f.effectiveSubjectIdentity, .option .text f.verificationRecordId,
    .option id f.verificationResultSha256, f.verificationStatus.canon, f.readinessId,
    f.readinessSha256, f.failureKind.canon, textList f.reasonCodes, textList f.evidenceRefs,
    f.verificationEvidenceSha256, f.failureSignatureSha256, .num f.observedAtMs])

def computedId (sha256 : Canon) : Canon :=
  .ident "vfe_" (.ofList [.text "tiangong.verification_failure_evidence.v1", sha256])

def hasValidIdentity (f : FailureEvidence) : Bool :=
  f.failureEvidenceSha256 = f.computedSha256 &&
    f.failureEvidenceId = computedId f.failureEvidenceSha256

def withComputedSha256 (f : FailureEvidence) : FailureEvidence :=
  { f with
    failureEvidenceSha256 := f.computedSha256, failureEvidenceId := computedId f.computedSha256 }

theorem withComputedSha256_valid (f : FailureEvidence) :
    f.withComputedSha256.hasValidIdentity = true := by
  simp only [hasValidIdentity, holds_iff]
  exact ⟨rfl, rfl⟩

end FailureEvidence

inductive DispositionAction where
  | repair | wait | reconcile | review | block
  deriving DecidableEq, Repr

def DispositionAction.name : DispositionAction → String
  | .repair => "REPAIR"
  | .wait => "WAIT"
  | .reconcile => "RECONCILE"
  | .review => "REVIEW"
  | .block => "BLOCK"

def DispositionAction.canon (a : DispositionAction) : Canon := .text a.name

/-- A policy decision on one failure. -/
structure VerificationDisposition where
  verificationDispositionId : Canon
  requestId : String
  runId : String
  generation : ℕ
  verificationPlanId : Canon
  planEntryId : Canon
  failureEvidenceId : Canon
  failureEvidenceSha256 : Canon
  action : DispositionAction
  policyVersion : String
  policyConfigSha256 : Canon
  attemptNo : ℕ
  maxAttempts : ℕ
  reasonCodes : List String
  decidedAtMs : ℕ
  dispositionSha256 : Canon
  deriving DecidableEq, Repr

namespace VerificationDisposition

def computedSha256 (d : VerificationDisposition) : Canon :=
  .sha256 (.ofList [.text d.requestId, .text d.runId, .num d.generation, d.verificationPlanId,
    d.planEntryId, d.failureEvidenceId, d.failureEvidenceSha256, d.action.canon,
    .text d.policyVersion, d.policyConfigSha256, .num d.attemptNo, .num d.maxAttempts,
    textList d.reasonCodes, .num d.decidedAtMs])

def computedId (sha256 : Canon) : Canon :=
  .ident "vds_" (.ofList [.text "tiangong.verification_disposition.v1", sha256])

def hasValidIdentity (d : VerificationDisposition) : Bool :=
  d.dispositionSha256 = d.computedSha256 &&
    d.verificationDispositionId = computedId d.dispositionSha256

def withComputedSha256 (d : VerificationDisposition) : VerificationDisposition :=
  { d with
    dispositionSha256 := d.computedSha256
    verificationDispositionId := computedId d.computedSha256 }

theorem withComputedSha256_valid (d : VerificationDisposition) :
    d.withComputedSha256.hasValidIdentity = true := by
  simp only [hasValidIdentity, holds_iff]
  exact ⟨rfl, rfl⟩

end VerificationDisposition

/-- A bounded repair instruction; the last two fields are its model validator. -/
structure RepairDirective where
  repairDirectiveId : Canon
  requestId : String
  runId : String
  generation : ℕ
  verificationPlanId : Canon
  verificationPlanSha256 : Canon
  planEntryId : Canon
  planEntrySha256 : Canon
  failureEvidenceId : Canon
  failureEvidenceSha256 : Canon
  dispositionId : Canon
  dispositionSha256 : Canon
  predicateId : Canon
  predicateSha256 : Canon
  subjectKind : SubjectKind
  originalSubjectIdentity : String
  effectiveSubjectIdentity : String
  repairAttemptNo : ℕ
  maxAttempts : ℕ
  allowedTargetRefs : List String
  forbiddenTargetRefs : List String
  repairGoalKind : String
  repairConstraints : List String
  executionBudgetMs : ℕ
  issuedAtMs : ℕ
  expiresAtMs : ℕ
  directiveSha256 : Canon
  expires_after_issue : issuedAtMs < expiresAtMs
  attempt_le_max : repairAttemptNo ≤ maxAttempts
  deriving DecidableEq

namespace RepairDirective

def computedSha256 (d : RepairDirective) : Canon :=
  .sha256 (.ofList [.text d.requestId, .text d.runId, .num d.generation, d.verificationPlanId,
    d.verificationPlanSha256, d.planEntryId, d.planEntrySha256, d.failureEvidenceId,
    d.failureEvidenceSha256, d.dispositionId, d.dispositionSha256, d.predicateId,
    d.predicateSha256, d.subjectKind.canon, .text d.originalSubjectIdentity,
    .text d.effectiveSubjectIdentity, .num d.repairAttemptNo, .num d.maxAttempts,
    textList d.allowedTargetRefs, textList d.forbiddenTargetRefs, .text d.repairGoalKind,
    textList d.repairConstraints, .num d.executionBudgetMs, .num d.issuedAtMs,
    .num d.expiresAtMs])

def computedId (sha256 : Canon) : Canon :=
  .ident "vrd_" (.ofList [.text "tiangong.repair_directive.v1", sha256])

def hasValidIdentity (d : RepairDirective) : Bool :=
  d.directiveSha256 = d.computedSha256 && d.repairDirectiveId = computedId d.directiveSha256

def withComputedSha256 (d : RepairDirective) : RepairDirective :=
  { d with
    directiveSha256 := d.computedSha256, repairDirectiveId := computedId d.computedSha256 }

theorem withComputedSha256_valid (d : RepairDirective) :
    d.withComputedSha256.hasValidIdentity = true := by
  simp only [hasValidIdentity, holds_iff]
  exact ⟨rfl, rfl⟩

end RepairDirective

inductive ExecutionOutcome where
  | dispatched | executionFailed | executionAmbiguous
  | reverifyPass | reverifyFail | reverifyError
  deriving DecidableEq, Repr

def ExecutionOutcome.canon : ExecutionOutcome → Canon
  | .dispatched => .text "DISPATCHED"
  | .executionFailed => .text "EXECUTION_FAILED"
  | .executionAmbiguous => .text "EXECUTION_AMBIGUOUS"
  | .reverifyPass => .text "REVERIFY_PASS"
  | .reverifyFail => .text "REVERIFY_FAIL"
  | .reverifyError => .text "REVERIFY_ERROR"

/-- The audit record of one repair attempt. -/
structure RepairAttemptRecord where
  repairAttemptId : Canon
  repairDirectiveId : Canon
  repairAttemptNo : ℕ
  requestId : String
  runId : String
  generation : ℕ
  planEntryId : Canon
  priorSubjectIdentity : String
  producedSubjectIdentity : String
  executionEffectIds : List String
  executionOutcome : ExecutionOutcome
  reverifyRecordId : Option String
  startedAtMs : ℕ
  finishedAtMs : ℕ
  attemptSha256 : Canon
  deriving DecidableEq, Repr

namespace RepairAttemptRecord

def computedSha256 (a : RepairAttemptRecord) : Canon :=
  .sha256 (.ofList [a.repairDirectiveId, .num a.repairAttemptNo, .text a.requestId,
    .text a.runId, .num a.generation, a.planEntryId, .text a.priorSubjectIdentity,
    .text a.producedSubjectIdentity, textList a.executionEffectIds, a.executionOutcome.canon,
    .option .text a.reverifyRecordId, .num a.startedAtMs, .num a.finishedAtMs])

def computedId (sha256 : Canon) : Canon :=
  .ident "vra_" (.ofList [.text "tiangong.repair_attempt.v1", sha256])

def hasValidIdentity (a : RepairAttemptRecord) : Bool :=
  a.attemptSha256 = a.computedSha256 && a.repairAttemptId = computedId a.attemptSha256

def withComputedSha256 (a : RepairAttemptRecord) : RepairAttemptRecord :=
  { a with attemptSha256 := a.computedSha256, repairAttemptId := computedId a.computedSha256 }

end RepairAttemptRecord

/-- An append-only link from a subject to its successor after a repair. -/
structure SubjectSuccessor where
  successorBindingId : Canon
  requestId : String
  runId : String
  generation : ℕ
  verificationPlanId : Canon
  planEntryId : Canon
  subjectKind : SubjectKind
  predecessorSubjectIdentity : String
  successorSubjectIdentity : String
  repairDirectiveId : Canon
  repairDirectiveSha256 : Canon
  producedByEffectId : String
  repairAttemptNo : ℕ
  boundAtMs : ℕ
  successorBindingSha256 : Canon
  deriving DecidableEq, Repr

namespace SubjectSuccessor

def computedSha256 (b : SubjectSuccessor) : Canon :=
  .sha256 (.ofList [.text b.requestId, .text b.runId, .num b.generation, b.verificationPlanId,
    b.planEntryId, b.subjectKind.canon, .text b.predecessorSubjectIdentity,
    .text b.successorSubjectIdentity, b.repairDirectiveId, b.repairDirectiveSha256,
    .text b.producedByEffectId, .num b.repairAttemptNo, .num b.boundAtMs])

def computedId (sha256 : Canon) : Canon :=
  .ident "vss_" (.ofList [.text "tiangong.verification_subject_successor.v1", sha256])

def hasValidIdentity (b : SubjectSuccessor) : Bool :=
  b.successorBindingSha256 = b.computedSha256 &&
    b.successorBindingId = computedId b.successorBindingSha256

def withComputedSha256 (b : SubjectSuccessor) : SubjectSuccessor :=
  { b with
    successorBindingSha256 := b.computedSha256
    successorBindingId := computedId b.computedSha256 }

end SubjectSuccessor

end Tiangong
