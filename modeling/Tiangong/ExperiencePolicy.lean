import Mathlib.Data.Nat.Sqrt
import Tiangong.ExperienceContracts

/-!
# The experience policy

The pure policy over capability experience: it admits an observation to the positive or the
negative pool, folds it into the aggregate of its key, and marks an aggregate whose sources have
changed.
-/
namespace Tiangong

namespace Experience

/-- The posterior mean of a uniform prior, in thousandths. -/
def posteriorSuccessMilli (successCount failureCount : ℕ) : ℕ :=
  (successCount + 1) * 1000 / (successCount + failureCount + 2)

/-- The Wilson lower bound in thousandths, in integer arithmetic throughout. -/
def wilsonLowerConfidenceMilli (successCount failureCount zMillion : ℕ) : ℕ :=
  let n := successCount + failureCount
  if n = 0 then 0
  else
    let scale := 1000000
    let p := successCount * scale / n
    let zSquared := zMillion * zMillion / scale
    let center := p + zSquared / (2 * n)
    let radicand := p * (scale - p) / n + zMillion * zMillion / (4 * n * n)
    let margin := zMillion * Nat.sqrt radicand / scale
    -- the subtraction stops at zero, as the code's `max(0, …)` does
    let numerator := center - margin
    let denominator := scale + zSquared / n
    let lowerMillion := numerator * scale / denominator
    min 1000 (lowerMillion * 1000 / scale)

/-- The counts that decide whether an experience is stable. -/
structure LifecycleCounts where
  successCount : ℕ
  failureCount : ℕ
  independentContextCount : ℕ
  lowerConfidenceMilli : ℕ
  averageQualityMilli : ℕ
  lastSuccessMs : Option ℕ

/-- The last success is not older than the window. -/
def isRecent (lastSuccessMs : Option ℕ) (nowMs : ℕ) (config : PolicyConfig) : Bool :=
  match lastSuccessMs with
  | none => false
  | some last => nowMs ≤ last + config.evidenceDecayWindowMs

def criterion (counts : LifecycleCounts) (nowMs : ℕ) (config : PolicyConfig) : Lifecycle :=
  if config.stableMinSuccessCount ≤ counts.successCount ∧
      config.stableMinIndependentContextCount ≤ counts.independentContextCount ∧
      counts.failureCount ≤ config.stableMaxFailureCount ∧
      config.stableMinLowerConfidenceMilli ≤ counts.lowerConfidenceMilli ∧
      config.stableMinAverageQualityMilli ≤ counts.averageQualityMilli ∧
      isRecent counts.lastSuccessMs nowMs config then .stable
  else .probation

def experienceLifecycle (prior : Option Lifecycle) (counts : LifecycleCounts) (nowMs : ℕ)
    (config : PolicyConfig) : Lifecycle :=
  match prior with
  | some lifecycle => if lifecycle.isInactive then lifecycle else criterion counts nowMs config
  | none => criterion counts nowMs config

/-- The bounded evidence of a refused observation. -/
def buildNegativeEvidence (o : Observation) (a : Admission) : Except String NegativeEvidence := do
  rejectIf (o.hasValidSha256 = false) "experience observation hash is invalid"
  rejectIf (a.hasValidSha256 = false) "experience admission hash is invalid"
  rejectIf (a.observationId ≠ o.observationId) "negative evidence crosses observation identity"
  rejectIf (a.negativeAllowed = false) "admission does not permit negative evidence"
  let category ← required a.failureCategory "admission does not permit negative evidence"
  rejectIf (a.exactSourceHashes = [] ∨ a.reasonCodes = []) "ValidationError"
  pure
    { evidenceId := .ident "negcap_" (.ofList [o.observationSha256, a.decisionSha256])
      observationId := o.observationId
      requestId := o.plan.requestId
      runId := o.plan.runId
      generation := o.plan.generation
      lifeId := o.lifeId
      principalRef := o.principalRef
      principalScopeHash := o.principalScopeHash
      privacyScope := o.privacyScope
      privacyScopeHash := o.privacyScopeHash
      goalClass := o.goalClass
      environmentClass := o.environmentClass
      sceneFingerprint := o.sceneFingerprint
      contextFingerprintSha256 := o.contextFingerprintSha256
      compositionTopologySha256 := o.compositionTopologySha256
      compositionPlanSha256 := o.plan.planSha256
      sourceRevisionFamily := a.sourceRevisionFamily
      exactSourceHashes := a.exactSourceHashes
      failureCategory := category
      reasonCodes := a.reasonCodes
      attributionSha256 := o.attribution.attributionSha256
      completionDecisionSha256 := o.trace.completion.decisionSha256
      verificationReadinessSha256 := o.trace.completion.readinessHash
      verificationRecordRefs := o.trace.verificationRecordRefs
      terminalFactHashes := o.trace.terminalFactHashes
      observedAtMs := o.observedAtMs }

/-- The record of the first aggregate of a key. -/
def newState (o : Observation) (a : Admission) (negative : Option NegativeEvidence)
    (config : PolicyConfig) (family : Canon) (hashes : List Canon) : Aggregate :=
  let successCount := if a.positiveAllowed then 1 else 0
  let failureCount := if a.negativeAllowed then 1 else 0
  let experience : CombinationExperience :=
    { experienceId := .ident "capexp_" (.ofList [.str o.lifeId.1, o.principalScopeHash,
        o.privacyScopeHash, a.experienceKey])
      goalClass := o.goalClass
      environmentClass := o.environmentClass
      sceneFingerprint := o.sceneFingerprint
      contextFingerprintSha256 := o.contextFingerprintSha256
      methodSourceRefs := o.plan.methodSourceRefs
      actionSourceRefs := o.plan.actionSourceRefs
      topologySha256 := o.compositionTopologySha256
      compositionPlanSha256 := o.plan.planSha256
      requestId := o.plan.requestId
      runId := o.plan.runId
      generation := o.plan.generation
      completionDecisionSha256 := o.trace.completion.decisionSha256
      verificationReadinessSha256 := o.trace.completion.readinessHash
      verificationRecordRefs := o.trace.verificationRecordRefs
      terminalFactHashes := o.trace.terminalFactHashes
      outcome := o.outcome
      successCount := successCount
      failureCount := failureCount
      independentContextCount := 1
      lastSuccessMs := if a.positiveAllowed then some o.observedAtMs else none
      lastFailureMs := if a.negativeAllowed then some o.observedAtMs else none
      posteriorSuccessMilli := posteriorSuccessMilli successCount failureCount
      lowerConfidenceMilli :=
        wilsonLowerConfidenceMilli successCount failureCount config.wilsonZMillion
      lifecycle := .probation
      sourceRevisionFamily := family
      exactSourceHashes := hashes
      experienceSha256 := .null }
  { experienceKey := a.experienceKey
    lifeId := o.lifeId
    principalRef := o.principalRef
    principalScopeHash := o.principalScopeHash
    privacyScope := o.privacyScope
    privacyScopeHash := o.privacyScopeHash
    experience := experience.withComputedSha256
    contextFingerprints := [o.contextFingerprintSha256]
    observationIds := [o.observationId]
    negativeEvidenceIds := (negative.map (·.evidenceId)).toList
    qualitySumMilli := if a.positiveAllowed then o.qualityMilli else 0
    qualityObservationCount := if a.positiveAllowed then 1 else 0
    lastObservedAtMs := o.observedAtMs
    stateSha256 := .null }

/-- The first aggregate of a key. -/
def newExperience (o : Observation) (a : Admission) (negative : Option NegativeEvidence)
    (config : PolicyConfig) : Except String Aggregate := do
  rejectIf (a.positiveAllowed = a.negativeAllowed)
    "observation must enter exactly one statistics pool"
  let family ← sourceRevisionFamily (sourceRefs o.plan)
  let hashes ← exactSourceHashes (sourceRefs o.plan)
  let state ← (newState o a negative config family hashes).validated
  pure state.withComputedSha256

/-- The record of an aggregate with one more observation. -/
def nextState (prior : Aggregate) (o : Observation) (a : Admission)
    (negative : Option NegativeEvidence) (config : PolicyConfig) : Aggregate :=
  let e := prior.experience
  let successCount := e.successCount + if a.positiveAllowed then 1 else 0
  let failureCount := e.failureCount + if a.negativeAllowed then 1 else 0
  let contexts := sortedSet (o.contextFingerprintSha256 :: prior.contextFingerprints)
  let observations := sortedSet (o.observationId :: prior.observationIds)
  let negatives := sortedSet ((negative.map (·.evidenceId)).toList ++ prior.negativeEvidenceIds)
  let qualitySum := prior.qualitySumMilli + if a.positiveAllowed then o.qualityMilli else 0
  let qualityCount := prior.qualityObservationCount + if a.positiveAllowed then 1 else 0
  let lower := wilsonLowerConfidenceMilli successCount failureCount config.wilsonZMillion
  let lastSuccess := if a.positiveAllowed then some o.observedAtMs else e.lastSuccessMs
  let lastFailure := if a.negativeAllowed then some o.observedAtMs else e.lastFailureMs
  let counts : LifecycleCounts :=
    ⟨successCount, failureCount, contexts.length, lower, qualitySum / max 1 qualityCount,
      lastSuccess⟩
  let experience : CombinationExperience :=
    { e with
      sceneFingerprint := o.sceneFingerprint
      contextFingerprintSha256 := o.contextFingerprintSha256
      compositionPlanSha256 := o.plan.planSha256
      requestId := o.plan.requestId
      runId := o.plan.runId
      generation := o.plan.generation
      completionDecisionSha256 := o.trace.completion.decisionSha256
      verificationReadinessSha256 := o.trace.completion.readinessHash
      verificationRecordRefs := o.trace.verificationRecordRefs
      terminalFactHashes := o.trace.terminalFactHashes
      outcome := o.outcome
      successCount := successCount
      failureCount := failureCount
      independentContextCount := contexts.length
      lastSuccessMs := lastSuccess
      lastFailureMs := lastFailure
      posteriorSuccessMilli := posteriorSuccessMilli successCount failureCount
      lowerConfidenceMilli := lower
      lifecycle := experienceLifecycle (some e.lifecycle) counts o.observedAtMs config
      experienceSha256 := .null }
  { prior with
    experience := experience.withComputedSha256
    contextFingerprints := contexts
    observationIds := observations
    negativeEvidenceIds := negatives
    qualitySumMilli := qualitySum
    qualityObservationCount := qualityCount
    lastObservedAtMs := o.observedAtMs
    stateSha256 := .null }

def nextExperience (prior : Aggregate) (o : Observation) (a : Admission)
    (negative : Option NegativeEvidence) (config : PolicyConfig) : Except String Aggregate := do
  let state ← (nextState prior o a negative config).validated
  pure state.withComputedSha256

def permittedEvidence (o : Observation) (a : Admission) : Except String (Option NegativeEvidence) :=
  if a.negativeAllowed then (buildNegativeEvidence o a).map some else pure none

/-- Update one aggregate with one observation, once. -/
def applyObservation (prior : Option Aggregate) (o : Observation) (a : Admission)
    (config : PolicyConfig) : Except String (Aggregate × Option NegativeEvidence) := do
  rejectIf (o.hasValidSha256 = false) "experience observation hash is invalid"
  rejectIf (a.hasValidSha256 = false) "experience admission hash is invalid"
  rejectIf (a.observationId ≠ o.observationId) "admission crosses observation identity"
  rejectIf (a.decision = .noMemory) "NO_MEMORY observation cannot update experience state"
  let negative ← permittedEvidence o a
  match prior with
  | none => do
    let state ← newExperience o a negative config
    pure (state, negative)
  | some prior => do
    rejectIf (prior.hasValidSha256 = false) "prior experience state hash is invalid"
    rejectIf (prior.experienceKey ≠ a.experienceKey ∨ prior.lifeId ≠ o.lifeId ∨
      prior.principalRef ≠ o.principalRef ∨ prior.principalScopeHash ≠ o.principalScopeHash ∨
      prior.privacyScope ≠ o.privacyScope ∨ prior.privacyScopeHash ≠ o.privacyScopeHash)
      "experience aggregate crosses identity or scope"
    if o.observationId ∈ prior.observationIds then pure (prior, none)
    else do
      rejectIf (prior.experience.lifecycle.isInactive = true)
        "inactive experience requires a new current-source aggregate"
      rejectIf (prior.experience.sourceRevisionFamily ≠ a.sourceRevisionFamily ∨
        prior.experience.exactSourceHashes ≠ a.exactSourceHashes)
        "source drift must be handled before statistics update"
      let state ← nextExperience prior o a negative config
      pure (state, negative)

inductive Freshness where
  | current | revalidationRequired | stale
  deriving DecidableEq, Repr

def assessSourceFreshness (state : Aggregate) (currentSources : List SourceRevisionRef) :
    Except String Freshness := do
  rejectIf (state.hasValidSha256 = false) "experience state hash is invalid"
  let family ← sourceRevisionFamily currentSources
  let hashes ← exactSourceHashes currentSources
  if family ≠ state.experience.sourceRevisionFamily then pure .stale
  else if hashes ≠ state.experience.exactSourceHashes then pure .revalidationRequired
  else pure .current

/-- The aggregate with the lifecycle of its changed sources. -/
def marked (state : Aggregate) (lifecycle : Lifecycle) (requestedAtMs : ℕ) : Aggregate :=
  Aggregate.withComputedSha256
    { state with
      experience := { state.experience with lifecycle := lifecycle }.withComputedSha256
      lastObservedAtMs := max state.lastObservedAtMs requestedAtMs }

def markSourceChange (state : Aggregate) (currentSources : List SourceRevisionRef)
    (requestedAtMs : ℕ) : Except String (Aggregate × Option InvalidationIntent) := do
  let freshness ← assessSourceFreshness state currentSources
  if freshness = .current then pure (state, none)
  else do
    let family ← sourceRevisionFamily currentSources
    let hashes ← exactSourceHashes currentSources
    let lifecycle := if freshness = .stale then Lifecycle.stale else .revalidationRequired
    rejectIf (state.experience.exactSourceHashes = [] ∨
      ¬ (state.experience.exactSourceHashes.Pairwise (· < ·) ∧ hashes.Pairwise (· < ·)))
      "values must be sorted and unique"
    pure (marked state lifecycle requestedAtMs, some
      { experienceId := state.experience.experienceId
        experienceSha256 := state.experience.experienceSha256
        priorSourceRevisionFamily := state.experience.sourceRevisionFamily
        currentSourceRevisionFamily := family
        priorExactSourceHashes := state.experience.exactSourceHashes
        currentExactSourceHashes := hashes
        freshness := lifecycle
        reasonCode := if freshness = .stale then py "capability_experience.source_family_changed"
          else py "capability_experience.source_revision_changed"
        requestedAtMs := requestedAtMs })

end Experience

end Tiangong
