import Tiangong.CanonOrder
import Tiangong.CompletionGate
import Tiangong.CompositionContracts

/-!
# Experience contracts

What the policy for capability experience reads and writes: one observation of an executed plan, the
decision that admits it, the negative evidence of a failure, and the aggregate of the observations
under one key. A tuple that a contract wants sorted and unique is a list in that order.
-/
namespace Tiangong

namespace Experience

open SourceRevisionRef

def sourceSortKey (s : SourceRevisionRef) : PyStr ×ₗ PyStr ×ₗ PyStr ×ₗ Canon ×ₗ Canon ×ₗ Canon :=
  toLex (s.sourceKind.name, toLex (s.semanticId, toLex (s.version, toLex (s.sourceSha256,
    toLex (s.descriptorSha256, s.manifestSha256.getD .null)))))

def sourceRefs (plan : CapabilityCompositionPlan) : List SourceRevisionRef :=
  plan.methodSourceRefs ++ plan.actionSourceRefs

/-- The stable identity of sources, without the hashes of a revision. -/
def sourceRevisionFamily (sources : List SourceRevisionRef) : Except String Canon := do
  rejectIf (sources = []) "source revision family cannot be empty"
  pure (.ident "srcfam_" (.ofList ((sortedTexts (sources.map sourceSortKey)).map
    fun key => .ofList [.str (ofLex key).1, .str (ofLex (ofLex key).2).1,
      .str (ofLex (ofLex (ofLex key).2).2).1])))

def exactSourceHashes (sources : List SourceRevisionRef) : Except String (List Canon) := do
  rejectIf (sources = []) "exact source revisions cannot be empty"
  pure (sortedTexts (sources.map fun source => .sha256 source.canon))

def capabilityExperienceKey (goalClass : OpaqueId) (topologySha256 family : Canon)
    (environmentClass : OpaqueId) : Canon :=
  .ident "capexpkey_" (.ofList [.str goalClass.1, topologySha256, family, .str environmentClass.1])

structure PolicyConfig where
  minimumPositiveQualityMilli : ℕ := 700
  stableMinSuccessCount : ℕ := 5
  stableMinIndependentContextCount : ℕ := 4
  stableMaxFailureCount : ℕ := 1
  stableMinLowerConfidenceMilli : ℕ := 700
  stableMinAverageQualityMilli : ℕ := 800
  evidenceDecayWindowMs : ℕ := 30 * 24 * 60 * 60 * 1000
  wilsonZMillion : ℕ := 1282000
  configSha256 : Canon
  quality_range : minimumPositiveQualityMilli ≤ 1000
  success_range : 1 ≤ stableMinSuccessCount ∧ stableMinSuccessCount ≤ 10000
  context_range : 1 ≤ stableMinIndependentContextCount ∧ stableMinIndependentContextCount ≤ 10000
  failure_range : stableMaxFailureCount ≤ 10000
  confidence_range : stableMinLowerConfidenceMilli ≤ 1000
  average_range : stableMinAverageQualityMilli ≤ 1000
  window_range : 60000 ≤ evidenceDecayWindowMs ∧ evidenceDecayWindowMs ≤ 3650 * 24 * 60 * 60 * 1000
  z_range : 1 ≤ wilsonZMillion ∧ wilsonZMillion ≤ 10000000

namespace PolicyConfig

def computedSha256 (c : PolicyConfig) : Canon :=
  .sha256 (.ofList [.num c.minimumPositiveQualityMilli, .num c.stableMinSuccessCount,
    .num c.stableMinIndependentContextCount, .num c.stableMaxFailureCount,
    .num c.stableMinLowerConfidenceMilli, .num c.stableMinAverageQualityMilli,
    .num c.evidenceDecayWindowMs, .num c.wilsonZMillion])

def hasValidSha256 (c : PolicyConfig) : Bool := c.configSha256 = c.computedSha256

end PolicyConfig

/-- The part of a completion decision that experience depends on. -/
structure CompletionEvidence where
  requestId : PyStr
  runId : PyStr
  generation : ℕ
  outcome : CompletionOutcome
  canTransitionRequestCompleted : Bool
  needsReconciliation : Bool
  verificationMode : VerificationMode
  verificationReady : Bool
  verificationPlanSha256 : Option Canon
  verificationReadinessSha256 : Option Canon
  supportingFactIds : List OpaqueId
  decisionSha256 : Canon
  transition_flag : canTransitionRequestCompleted = decide (outcome = .completed)
  reconciliation_flag : needsReconciliation = decide (outcome = .reconcileRequired)
  plan_bound : verificationMode = .planBound →
    verificationPlanSha256 ≠ .none ∧ verificationReadinessSha256 ≠ .none

namespace CompletionEvidence

def canon (e : CompletionEvidence) : Canon :=
  .ofList [.str e.requestId, .str e.runId, .num e.generation, e.outcome.canon,
    .flag e.canTransitionRequestCompleted, .flag e.needsReconciliation, e.verificationMode.canon,
    .flag e.verificationReady, .option id e.verificationPlanSha256,
    .option id e.verificationReadinessSha256, .strs e.supportingFactIds, e.decisionSha256]

/-- The readiness that a decision names, or a digest that says that it names none. -/
def readinessHash (e : CompletionEvidence) : Canon :=
  e.verificationReadinessSha256.getD (.sha256 (.ofList
    [.text "tiangong.no-verification-readiness.v1", e.decisionSha256, e.verificationMode.canon]))

end CompletionEvidence

/-- The lineage of one execution, collected by machine. -/
structure AttributionTrace where
  requestId : PyStr
  runId : PyStr
  generation : ℕ
  principalScopeHash : Canon
  privacyScopeHash : Canon
  compositionPlanSha256 : Canon
  completion : CompletionEvidence
  activeVerificationPlanSha256 : Option Canon
  verificationRecordRefs : List OpaqueId
  terminalEffectIds : List OpaqueId
  terminalFactIds : List OpaqueId
  terminalFactHashes : List Canon
  observedMethodSourceRefs : List SourceRevisionRef
  observedActionSourceRefs : List SourceRevisionRef
  hasAcceptanceObligations : Bool
  activeVerificationPlanComplete : Bool
  effectFactLineageComplete : Bool
  sourceRefsComplete : Bool
  sourceRevisionsContinuous : Bool
  requestScopeContinuous : Bool
  humanTakeover : Bool
  alternateExecutionChain : Bool
  unknownExternalOverwrite : Bool
  unknownSideEffects : Bool
  unresolvedReconciliation : Bool
  secretOrCredentialPresent : Bool
  promptInjectionPresent : Bool
  contextIdentityTruncated : Bool
  collectedAtMs : ℕ
  traceSha256 : Canon

namespace AttributionTrace

def fields (t : AttributionTrace) : List Canon :=
  [.str t.requestId, .str t.runId, .num t.generation, t.principalScopeHash, t.privacyScopeHash,
    t.compositionPlanSha256, t.completion.canon, .option id t.activeVerificationPlanSha256,
    .strs t.verificationRecordRefs, .strs t.terminalEffectIds, .strs t.terminalFactIds,
    .ofList t.terminalFactHashes, .ofList (t.observedMethodSourceRefs.map canon),
    .ofList (t.observedActionSourceRefs.map canon),
    .flag t.hasAcceptanceObligations, .flag t.activeVerificationPlanComplete,
    .flag t.effectFactLineageComplete, .flag t.sourceRefsComplete,
    .flag t.sourceRevisionsContinuous, .flag t.requestScopeContinuous, .flag t.humanTakeover,
    .flag t.alternateExecutionChain, .flag t.unknownExternalOverwrite, .flag t.unknownSideEffects,
    .flag t.unresolvedReconciliation, .flag t.secretOrCredentialPresent,
    .flag t.promptInjectionPresent, .flag t.contextIdentityTruncated, .num t.collectedAtMs]

def canon (t : AttributionTrace) : Canon := .ofList (t.fields ++ [t.traceSha256])

def computedSha256 (t : AttributionTrace) : Canon := .sha256 (.ofList t.fields)

def hasValidSha256 (t : AttributionTrace) : Bool := t.traceSha256 = t.computedSha256

end AttributionTrace

/-- The verdict whether a plan's outcome may be attributed to it. -/
structure AttributionIntegrity where
  requestId : PyStr
  runId : PyStr
  generation : ℕ
  compositionPlanSha256 : Canon
  pass : Bool
  reasonCodes : List OpaqueId
  checkedLineageSha256 : Canon
  checkedAtMs : ℕ
  attributionSha256 : Canon

namespace AttributionIntegrity

def fields (a : AttributionIntegrity) : List Canon :=
  [.str a.requestId, .str a.runId, .num a.generation, a.compositionPlanSha256, .flag a.pass,
    .strs a.reasonCodes, a.checkedLineageSha256, .num a.checkedAtMs]

def canon (a : AttributionIntegrity) : Canon := .ofList (a.fields ++ [a.attributionSha256])

def hasValidSha256 (a : AttributionIntegrity) : Bool :=
  a.attributionSha256 = .sha256 (.ofList a.fields)

end AttributionIntegrity

inductive Outcome where
  | success | failure | partialSuccess | reconcile
  deriving DecidableEq, Repr

def Outcome.canon : Outcome → Canon
  | .success => .text "SUCCESS"
  | .failure => .text "FAILURE"
  | .partialSuccess => .text "PARTIAL"
  | .reconcile => .text "RECONCILE"

inductive FailureCategory where
  | validatorInvalid | runtimeFailure | permissionDenied | toolUnavailable | verificationFailure
  | sourceStaleMismatch | ambiguousEffect | contextIdentityTruncated | attributionFailure
  | completionIncomplete | privacyScopeMismatch | principalScopeMismatch | promptInjection
  | secretPresent | reconcileRequired
  deriving DecidableEq, Repr

def FailureCategory.canon : FailureCategory → Canon
  | .validatorInvalid => .text "VALIDATOR_INVALID"
  | .runtimeFailure => .text "RUNTIME_FAILURE"
  | .permissionDenied => .text "PERMISSION_DENIED"
  | .toolUnavailable => .text "TOOL_UNAVAILABLE"
  | .verificationFailure => .text "VERIFICATION_FAILURE"
  | .sourceStaleMismatch => .text "SOURCE_STALE_MISMATCH"
  | .ambiguousEffect => .text "AMBIGUOUS_EFFECT"
  | .contextIdentityTruncated => .text "CONTEXT_IDENTITY_TRUNCATED"
  | .attributionFailure => .text "ATTRIBUTION_FAILURE"
  | .completionIncomplete => .text "COMPLETION_INCOMPLETE"
  | .privacyScopeMismatch => .text "PRIVACY_SCOPE_MISMATCH"
  | .principalScopeMismatch => .text "PRINCIPAL_SCOPE_MISMATCH"
  | .promptInjection => .text "PROMPT_INJECTION"
  | .secretPresent => .text "SECRET_PRESENT"
  | .reconcileRequired => .text "RECONCILE_REQUIRED"

/-- One observation after an execution. -/
structure Observation where
  observationId : OpaqueId
  lifeId : OpaqueId
  principalRef : OpaqueId
  principalScopeHash : Canon
  privacyScope : OpaqueId
  privacyScopeHash : Canon
  goalClass : OpaqueId
  environmentClass : OpaqueId
  sceneFingerprint : Canon
  contextFingerprintSha256 : Canon
  compositionTopologySha256 : Canon
  plan : CapabilityCompositionPlan
  trace : AttributionTrace
  attribution : AttributionIntegrity
  outcome : Outcome
  qualityMilli : ℕ
  failureCategory : Option FailureCategory
  failureReasonCodes : List OpaqueId
  observedAtMs : ℕ
  observationSha256 : Canon
  quality_range : qualityMilli ≤ 1000
  reasons_sorted : failureReasonCodes.Pairwise (· < ·)
  plan_bound : plan.requestId = trace.requestId ∧ plan.runId = trace.runId ∧
    plan.generation = trace.generation ∧ plan.planSha256 = trace.compositionPlanSha256 ∧
    plan.principalScopeHash = principalScopeHash ∧
    plan.contextFingerprintSha256 = contextFingerprintSha256 ∧
    plan.dependencyGraphSha256 = compositionTopologySha256
  attribution_bound : attribution.requestId = plan.requestId ∧ attribution.runId = plan.runId ∧
    attribution.generation = plan.generation ∧
    attribution.compositionPlanSha256 = plan.planSha256
  scope_bound : trace.principalScopeHash = principalScopeHash ∧
    trace.privacyScopeHash = privacyScopeHash
  category_bound : outcome = .success ↔ failureCategory = none
  time_bound : trace.collectedAtMs ≤ observedAtMs

namespace Observation

def computedSha256 (o : Observation) : Canon :=
  .sha256 (.ofList [.str o.observationId.1, .str o.lifeId.1, .str o.principalRef.1,
    o.principalScopeHash, .str o.privacyScope.1, o.privacyScopeHash, .str o.goalClass.1,
    .str o.environmentClass.1, o.sceneFingerprint, o.contextFingerprintSha256,
    o.compositionTopologySha256, .ofList [o.plan.computedSha256, o.plan.planSha256], o.trace.canon,
    o.attribution.canon, o.outcome.canon, .num o.qualityMilli,
    .option FailureCategory.canon o.failureCategory, .strs o.failureReasonCodes,
    .num o.observedAtMs])

def hasValidSha256 (o : Observation) : Bool := o.observationSha256 = o.computedSha256

end Observation

inductive AdmissionDecision where
  | positiveExperience | negativeEvidence | noMemory | markStale | requireRevalidation
  deriving DecidableEq, Repr

namespace AdmissionDecision

def canon : AdmissionDecision → Canon
  | .positiveExperience => .text "POSITIVE_EXPERIENCE"
  | .negativeEvidence => .text "NEGATIVE_EVIDENCE"
  | .noMemory => .text "NO_MEMORY"
  | .markStale => .text "MARK_STALE"
  | .requireRevalidation => .text "REQUIRE_REVALIDATION"

/-- The decision lets a failure be recorded. -/
def isNegative : AdmissionDecision → Bool
  | .negativeEvidence | .markStale | .requireRevalidation => true
  | _ => false

end AdmissionDecision

/-- Whether and how an observation enters the statistics. -/
structure Admission where
  observationId : OpaqueId
  decision : AdmissionDecision
  positiveAllowed : Bool
  negativeAllowed : Bool
  experienceKey : Canon
  sourceRevisionFamily : Canon
  exactSourceHashes : List Canon
  reasonCodes : List PyStr
  failureCategory : Option FailureCategory
  attributionSha256 : Canon
  decidedAtMs : ℕ
  decisionSha256 : Canon
  sources_sorted : exactSourceHashes.Pairwise (· < ·)
  reasons_sorted : reasonCodes.Pairwise (· < ·)
  positive_flag : positiveAllowed = decide (decision = .positiveExperience)
  negative_flag : negativeAllowed = decision.isNegative
  positive_category : positiveAllowed = true → failureCategory = none
  negative_category : negativeAllowed = true → failureCategory ≠ none

namespace Admission

def computedSha256 (a : Admission) : Canon :=
  .sha256 (.ofList [.str a.observationId.1, a.decision.canon, .flag a.positiveAllowed,
    .flag a.negativeAllowed, a.experienceKey, a.sourceRevisionFamily, .ofList a.exactSourceHashes,
    .ofList (a.reasonCodes.map .str), .option FailureCategory.canon a.failureCategory,
    a.attributionSha256, .num a.decidedAtMs])

def hasValidSha256 (a : Admission) : Bool := a.decisionSha256 = a.computedSha256

end Admission

/-- The bounded evidence of a failure, which never becomes positive experience. -/
structure NegativeEvidence where
  evidenceId : Canon
  observationId : OpaqueId
  requestId : PyStr
  runId : PyStr
  generation : ℕ
  lifeId : OpaqueId
  principalRef : OpaqueId
  principalScopeHash : Canon
  privacyScope : OpaqueId
  privacyScopeHash : Canon
  goalClass : OpaqueId
  environmentClass : OpaqueId
  sceneFingerprint : Canon
  contextFingerprintSha256 : Canon
  compositionTopologySha256 : Canon
  compositionPlanSha256 : Canon
  sourceRevisionFamily : Canon
  exactSourceHashes : List Canon
  failureCategory : FailureCategory
  reasonCodes : List PyStr
  attributionSha256 : Canon
  completionDecisionSha256 : Canon
  verificationReadinessSha256 : Canon
  verificationRecordRefs : List OpaqueId
  terminalFactHashes : List Canon
  observedAtMs : ℕ

inductive Lifecycle where
  | probation | stable | stale | revalidationRequired | retired
  deriving DecidableEq, Repr

namespace Lifecycle

def canon : Lifecycle → Canon
  | .probation => .text "PROBATION"
  | .stable => .text "STABLE"
  | .stale => .text "STALE"
  | .revalidationRequired => .text "REVALIDATION_REQUIRED"
  | .retired => .text "RETIRED"

/-- The experience may no longer be used or updated. -/
def isInactive : Lifecycle → Bool
  | .stale | .revalidationRequired | .retired => true
  | _ => false

end Lifecycle

/-- The experience of one combination of capabilities. -/
structure CombinationExperience where
  experienceId : Canon
  goalClass : OpaqueId
  environmentClass : OpaqueId
  sceneFingerprint : Canon
  contextFingerprintSha256 : Canon
  methodSourceRefs : List SourceRevisionRef
  actionSourceRefs : List SourceRevisionRef
  topologySha256 : Canon
  compositionPlanSha256 : Canon
  requestId : PyStr
  runId : PyStr
  generation : ℕ
  completionDecisionSha256 : Canon
  verificationReadinessSha256 : Canon
  verificationRecordRefs : List OpaqueId
  terminalFactHashes : List Canon
  outcome : Outcome
  successCount : ℕ
  failureCount : ℕ
  independentContextCount : ℕ
  lastSuccessMs : Option ℕ
  lastFailureMs : Option ℕ
  posteriorSuccessMilli : ℕ
  lowerConfidenceMilli : ℕ
  lifecycle : Lifecycle
  sourceRevisionFamily : Canon
  exactSourceHashes : List Canon
  experienceSha256 : Canon
  deriving DecidableEq

namespace CombinationExperience

def fields (e : CombinationExperience) : List Canon :=
  [e.experienceId, .str e.goalClass.1, .str e.environmentClass.1, e.sceneFingerprint,
    e.contextFingerprintSha256, .ofList (e.methodSourceRefs.map canon),
    .ofList (e.actionSourceRefs.map canon), e.topologySha256,
    e.compositionPlanSha256, .str e.requestId, .str e.runId, .num e.generation,
    e.completionDecisionSha256, e.verificationReadinessSha256, .strs e.verificationRecordRefs,
    .ofList e.terminalFactHashes, e.outcome.canon, .num e.successCount, .num e.failureCount,
    .num e.independentContextCount, .option .num e.lastSuccessMs, .option .num e.lastFailureMs,
    .num e.posteriorSuccessMilli, .num e.lowerConfidenceMilli, e.lifecycle.canon,
    e.sourceRevisionFamily, .ofList e.exactSourceHashes]

def canon (e : CombinationExperience) : Canon := .ofList (e.fields ++ [e.experienceSha256])

def computedSha256 (e : CombinationExperience) : Canon := .sha256 (.ofList e.fields)

def hasValidSha256 (e : CombinationExperience) : Bool := e.experienceSha256 = e.computedSha256

def withComputedSha256 (e : CombinationExperience) : CombinationExperience :=
  { e with experienceSha256 := e.computedSha256 }

def sourceRefs (e : CombinationExperience) : List SourceRevisionRef :=
  e.methodSourceRefs ++ e.actionSourceRefs

end CombinationExperience

/-- The statistics of the observations under one key and scope. -/
structure Aggregate where
  experienceKey : Canon
  lifeId : OpaqueId
  principalRef : OpaqueId
  principalScopeHash : Canon
  privacyScope : OpaqueId
  privacyScopeHash : Canon
  experience : CombinationExperience
  contextFingerprints : List Canon
  observationIds : List OpaqueId
  negativeEvidenceIds : List Canon
  qualitySumMilli : ℕ
  qualityObservationCount : ℕ
  lastObservedAtMs : ℕ
  stateSha256 : Canon
  deriving DecidableEq

namespace Aggregate

def computedSha256 (s : Aggregate) : Canon :=
  .sha256 (.ofList [s.experienceKey, .str s.lifeId.1, .str s.principalRef.1, s.principalScopeHash,
    .str s.privacyScope.1, s.privacyScopeHash, s.experience.canon, .ofList s.contextFingerprints,
    .strs s.observationIds, .ofList s.negativeEvidenceIds, .num s.qualitySumMilli,
    .num s.qualityObservationCount, .num s.lastObservedAtMs])

def hasValidSha256 (s : Aggregate) : Bool := s.stateSha256 = s.computedSha256

def withComputedSha256 (s : Aggregate) : Aggregate := { s with stateSha256 := s.computedSha256 }

/-- The checks of the aggregate's contract. -/
def validated (s : Aggregate) : Except String Aggregate := do
  rejectIf (¬ (s.contextFingerprints.Pairwise (· < ·) ∧ s.observationIds.Pairwise (· < ·) ∧
    s.negativeEvidenceIds.Pairwise (· < ·))) "values must be sorted and unique"
  rejectIf (s.experience.hasValidSha256 = false) "aggregate contains an invalid experience"
  rejectIf (s.experience.independentContextCount ≠ s.contextFingerprints.length)
    "independent context count is stale"
  rejectIf (s.experience.successCount + s.experience.failureCount ≠ s.observationIds.length)
    "observation count disagrees with experience statistics"
  rejectIf (s.qualityObservationCount ≠ s.experience.successCount)
    "quality statistics must count positive observations only"
  let family ← sourceRevisionFamily s.experience.sourceRefs
  rejectIf (s.experience.sourceRevisionFamily ≠ family) "experience source family is invalid"
  let hashes ← exactSourceHashes s.experience.sourceRefs
  rejectIf (s.experience.exactSourceHashes ≠ hashes) "experience exact source hashes are invalid"
  pure s

end Aggregate

/-- The request to stop using an experience. -/
structure InvalidationIntent where
  experienceId : Canon
  experienceSha256 : Canon
  priorSourceRevisionFamily : Canon
  currentSourceRevisionFamily : Canon
  priorExactSourceHashes : List Canon
  currentExactSourceHashes : List Canon
  freshness : Lifecycle
  reasonCode : PyStr
  requestedAtMs : ℕ

end Experience

end Tiangong
