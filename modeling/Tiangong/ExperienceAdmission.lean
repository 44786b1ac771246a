import Mathlib.Data.List.Infix
import Tiangong.ExperiencePolicy

/-!
# Admission of experience

The gate that decides whether an observation is positive experience, negative evidence or neither,
and the facade over it that keeps every reported reason of a failure.
-/
namespace Tiangong

namespace Experience

def reasonIf (condition : Bool) (reason : String) : List PyStr :=
  if condition then [py ("capability_experience." ++ reason)] else []

/-- The reasons that verification gives against an observation with acceptance obligations. -/
def verificationReasons (t : AttributionTrace) : List PyStr :=
  if t.hasAcceptanceObligations then
    reasonIf (t.completion.verificationMode ≠ .planBound) "verification_not_plan_bound" ++
    reasonIf (!t.completion.verificationReady) "verification_not_ready" ++
    reasonIf (!t.activeVerificationPlanComplete) "verification_plan_incomplete" ++
    reasonIf t.verificationRecordRefs.isEmpty "verification_records_missing"
  else []

def hazardReasons (t : AttributionTrace) : List PyStr :=
  reasonIf t.humanTakeover "human_takeover" ++
  reasonIf t.alternateExecutionChain "alternate_execution_chain" ++
  reasonIf t.unknownExternalOverwrite "unknown_external_overwrite" ++
  reasonIf t.unknownSideEffects "unknown_side_effects" ++
  reasonIf t.secretOrCredentialPresent "secret_or_credential_present" ++
  reasonIf t.promptInjectionPresent "prompt_injection_present" ++
  reasonIf t.contextIdentityTruncated "context_identity_truncated"

/-- The reasons against positive experience that ask for new sources. -/
def sourceReasons (o : Observation) : List PyStr :=
  reasonIf o.plan.actionSourceRefs.isEmpty "action_source_missing" ++
  reasonIf (!o.trace.sourceRefsComplete) "source_refs_incomplete" ++
  reasonIf (!o.trace.sourceRevisionsContinuous) "source_revision_discontinuous"

/-- Every reason against positive experience. -/
def gateReasons (o : Observation) (expectedPrincipalScopeHash expectedPrivacyScopeHash : Canon)
    (config : PolicyConfig) : List PyStr :=
  reasonIf (!o.hasValidSha256) "observation_hash_invalid" ++
  reasonIf (!o.plan.hasValidSha256) "plan_hash_invalid" ++
  reasonIf (!o.trace.hasValidSha256) "trace_hash_invalid" ++
  reasonIf (!o.attribution.hasValidSha256) "attribution_hash_invalid" ++
  reasonIf (!o.attribution.pass) "attribution_failed" ++
  reasonIf (o.principalScopeHash ≠ expectedPrincipalScopeHash) "principal_scope_mismatch" ++
  reasonIf (o.privacyScopeHash ≠ expectedPrivacyScopeHash) "privacy_scope_mismatch" ++
  sourceReasons o ++
  reasonIf (o.trace.completion.outcome ≠ .completed ||
    !o.trace.completion.canTransitionRequestCompleted) "completion_incomplete" ++
  reasonIf (o.trace.completion.needsReconciliation || o.trace.unresolvedReconciliation)
    "reconciliation_unresolved" ++
  verificationReasons o.trace ++
  reasonIf (!o.trace.effectFactLineageComplete) "effect_fact_lineage_incomplete" ++
  reasonIf o.trace.terminalFactHashes.isEmpty "terminal_fact_hashes_missing" ++
  reasonIf (o.qualityMilli < config.minimumPositiveQualityMilli) "quality_below_gate" ++
  hazardReasons o.trace

def mentions (reasons : List PyStr) (word : String) : Bool := reasons.any fun r => py word <:+: r

def failureCategoryForGate (o : Observation) (reasons : List PyStr) : FailureCategory :=
  match o.failureCategory with
  | some category => category
  | none =>
    if o.trace.contextIdentityTruncated then .contextIdentityTruncated
    else if o.trace.secretOrCredentialPresent then .secretPresent
    else if o.trace.promptInjectionPresent then .promptInjection
    else if o.trace.unresolvedReconciliation || o.outcome = .reconcile then .reconcileRequired
    else if py "capability_experience.principal_scope_mismatch" ∈ reasons then
      .principalScopeMismatch
    else if py "capability_experience.privacy_scope_mismatch" ∈ reasons then .privacyScopeMismatch
    else if mentions reasons "source" then .sourceStaleMismatch
    else if mentions reasons "verification" then .verificationFailure
    else if mentions reasons "completion" then .completionIncomplete
    else .attributionFailure

def admissionDecision (o : Observation) (reasons : List PyStr) : AdmissionDecision :=
  if sourceReasons o ≠ [] then .requireRevalidation
  else if o.outcome = .success ∧ reasons = [] then .positiveExperience
  else if o.outcome ≠ .success ∨ reasons ≠ [] then .negativeEvidence
  else .noMemory

def foundReasons (o : Observation) (reasons : List PyStr) : List PyStr :=
  if reasons = [] then o.failureReasonCodes.map (·.1) else reasons

def reportedReasons (o : Observation) (reasons : List PyStr) : AdmissionDecision → List PyStr
  | .positiveExperience => [py "capability_experience.positive_gate_passed"]
  | .noMemory => [py "capability_experience.no_material_evidence"]
  | _ =>
    if foundReasons o reasons = [] then [py "capability_experience.failure_observed"]
    else sortedSet (foundReasons o reasons)

/-- The category belongs to a decision that lets a failure be recorded. -/
def categoryOf (decision : AdmissionDecision) (category : FailureCategory) :
    Option FailureCategory :=
  match decision with
  | .positiveExperience | .noMemory => none
  | _ => some category

lemma reportedReasons_sorted (o : Observation) (reasons : List PyStr)
    (decision : AdmissionDecision) : (reportedReasons o reasons decision).Pairwise (· < ·) := by
  cases decision with
  | positiveExperience | noMemory => exact List.pairwise_singleton _ _
  | negativeEvidence | markStale | requireRevalidation =>
    simp only [reportedReasons]
    split
    · exact List.pairwise_singleton _ _
    · exact sortedSet_strict _

lemma categoryOf_positive {decision : AdmissionDecision} {category : FailureCategory}
    (h : decide (decision = .positiveExperience) = true) : categoryOf decision category = none := by
  rw [of_decide_eq_true h]
  rfl

lemma categoryOf_negative {decision : AdmissionDecision} {category : FailureCategory}
    (h : decision.isNegative = true) : categoryOf decision category ≠ none := by
  cases decision <;> simp_all [categoryOf, AdmissionDecision.isNegative]

theorem reportedReasons_ne_nil (o : Observation) (reasons : List PyStr)
    (decision : AdmissionDecision) : reportedReasons o reasons decision ≠ [] := by
  cases decision with
  | positiveExperience | noMemory => exact List.cons_ne_nil _ _
  | negativeEvidence | markStale | requireRevalidation =>
    simp only [reportedReasons]
    split
    · exact List.cons_ne_nil _ _
    · rename_i hfound
      obtain ⟨reason, hreason⟩ := List.exists_mem_of_ne_nil _ hfound
      exact List.ne_nil_of_mem (mem_sortedSet.mpr hreason)

/-- The record of a decision. -/
def admissionOf (o : Observation) (decision : AdmissionDecision) (family : Canon)
    (hashes : List Canon) (reasons : List PyStr) (category : FailureCategory) (decidedAtMs : ℕ)
    (hhashes : hashes.Pairwise (· < ·)) (hreasons : reasons.Pairwise (· < ·)) : Admission :=
  let a : Admission :=
    { observationId := o.observationId
      decision := decision
      positiveAllowed := decide (decision = .positiveExperience)
      negativeAllowed := decision.isNegative
      experienceKey := capabilityExperienceKey o.goalClass o.compositionTopologySha256 family
        o.environmentClass
      sourceRevisionFamily := family
      exactSourceHashes := hashes
      reasonCodes := reasons
      failureCategory := categoryOf decision category
      attributionSha256 := o.attribution.attributionSha256
      decidedAtMs := decidedAtMs
      decisionSha256 := .null
      sources_sorted := hhashes
      reasons_sorted := hreasons
      positive_flag := rfl
      negative_flag := rfl
      positive_category := categoryOf_positive
      negative_category := categoryOf_negative }
  { a with decisionSha256 := a.computedSha256 }

/-- The gate's decision on an observation. -/
def evaluateAdmission (o : Observation)
    (expectedPrincipalScopeHash expectedPrivacyScopeHash : Canon) (config : PolicyConfig)
    (decidedAtMs : ℕ) : Except String Admission := do
  rejectIf (decidedAtMs < o.observedAtMs) "admission decision cannot predate observation"
  rejectIf (config.hasValidSha256 = false) "capability experience policy config hash is invalid"
  let family ← sourceRevisionFamily (sourceRefs o.plan)
  let hashes ← exactSourceHashes (sourceRefs o.plan)
  let reasons := gateReasons o expectedPrincipalScopeHash expectedPrivacyScopeHash config
  let decision := admissionDecision o reasons
  if hhashes : hashes.Pairwise (· < ·) then
    pure (admissionOf o decision family hashes (reportedReasons o reasons decision)
      (failureCategoryForGate o reasons) decidedAtMs hhashes (reportedReasons_sorted o reasons decision))
  else .error "values must be sorted and unique"

def facadeReasons (o : Observation) : List PyStr :=
  reasonIf (o.observedAtMs < o.attribution.checkedAtMs) "attribution_time_inverted" ++
  reasonIf (o.outcome = .success ∧ o.failureReasonCodes ≠ []) "success_has_failure_evidence"

/-- The facade's decision: the gate's, with every reported reason of a failure. -/
def evaluateAdmissionGuarded (o : Observation)
    (expectedPrincipalScopeHash expectedPrivacyScopeHash : Canon) (config : PolicyConfig)
    (decidedAtMs : ℕ) : Except String Admission := do
  let a ← evaluateAdmission o expectedPrincipalScopeHash expectedPrivacyScopeHash config decidedAtMs
  let reasons := sortedSet (a.reasonCodes ++ o.failureReasonCodes.map (·.1) ++ facadeReasons o)
  let category := a.failureCategory.getD .attributionFailure
  if facadeReasons o ≠ [] then
    pure (admissionOf o .negativeEvidence a.sourceRevisionFamily a.exactSourceHashes reasons
      .attributionFailure decidedAtMs a.sources_sorted (sortedSet_strict _))
  else if a.negativeAllowed then
    pure (admissionOf o a.decision a.sourceRevisionFamily a.exactSourceHashes reasons category
      decidedAtMs a.sources_sorted (sortedSet_strict _))
  else pure a

/-- The admission lets the observation into the statistics. -/
structure Admitted (o : Observation) (a : Admission) : Prop where
  observation_valid : o.hasValidSha256 = true
  admission_valid : a.hasValidSha256 = true
  same_observation : a.observationId = o.observationId
  recorded : a.decision ≠ .noMemory
  family : sourceRevisionFamily (sourceRefs o.plan) = .ok a.sourceRevisionFamily
  hashes : exactSourceHashes (sourceRefs o.plan) = .ok a.exactSourceHashes
  reasons : a.reasonCodes ≠ []

open List

variable {o : Observation} {a : Admission} {principal privacy : Canon} {config : PolicyConfig}
  {decidedAtMs : ℕ}

lemma admissionDecision_cases (o : Observation) (reasons : List PyStr) :
    let d := admissionDecision o reasons
    d ≠ .noMemory ∧ (d = .positiveExperience ∨ d.isNegative = true) ∧
      (d = .positiveExperience ↔ sourceReasons o = [] ∧ o.outcome = .success ∧ reasons = []) := by
  unfold admissionDecision
  split
  · simp_all [AdmissionDecision.isNegative]
  · split
    · simp_all
    · split <;> simp_all [AdmissionDecision.isNegative]

/-- What the facade answers can be folded into the statistics. It is positive exactly when neither
the gate nor the facade has a reason against it, and otherwise keeps what the failure reported. -/
theorem evaluateAdmissionGuarded_sound
    (h : evaluateAdmissionGuarded o principal privacy config decidedAtMs = .ok a) :
    (o.hasValidSha256 = true → Admitted o a) ∧
      (a.decision = .positiveExperience ↔ o.outcome = .success ∧
        gateReasons o principal privacy config = [] ∧ facadeReasons o = []) ∧
      (a.decision ≠ .positiveExperience → ∀ code ∈ o.failureReasonCodes, code.1 ∈ a.reasonCodes) := by
  simp only [evaluateAdmissionGuarded, evaluateAdmission, eq_ok_iff] at h
  obtain ⟨gate, ⟨-, -, family, hfamily, hashes, hhashes, hgate⟩, h⟩ := h
  have hsources : gateReasons o principal privacy config = [] → sourceReasons o = [] := by
    simp only [gateReasons, append_eq_nil_iff]
    exact fun hnone => hnone.1.1.1.1.1.1.1.2
  generalize gateReasons o principal privacy config = reasons at *
  obtain ⟨hrecorded, hsigned, hpositive⟩ := admissionDecision_cases o reasons
  have hkept : ∀ code ∈ o.failureReasonCodes, code.1 ∈ sortedSet
      (gate.reasonCodes ++ o.failureReasonCodes.map (·.1) ++ facadeReasons o) := by
    intro code hcode
    simp only [mem_sortedSet, mem_append]
    exact .inl (.inr (mem_map_of_mem hcode))
  split at hgate
  · obtain rfl := pure_eq_ok.mp hgate
    obtain ⟨reason, hreason⟩ := exists_mem_of_ne_nil _ (reportedReasons_ne_nil o reasons
      (admissionDecision o reasons))
    have hne := ne_nil_of_mem (mem_sortedSet.mpr (mem_append_left (facadeReasons o)
      (mem_append_left (o.failureReasonCodes.map (·.1)) hreason)))
    split at h
    · obtain rfl := pure_eq_ok.mp h
      exact ⟨fun hvalid => ⟨hvalid, decide_eq_true rfl, rfl, by rintro ⟨⟩, hfamily, hhashes, hne⟩,
        iff_of_false (by rintro ⟨⟩) fun hall => absurd hall.2.2 ‹_›, fun _ => hkept⟩
    · have hiff : admissionDecision o reasons = .positiveExperience ↔
          o.outcome = .success ∧ reasons = [] ∧ facadeReasons o = [] := by
        rw [hpositive]
        exact ⟨fun hall => ⟨hall.2.1, hall.2.2, not_not.mp ‹_›⟩,
          fun hall => ⟨hsources hall.2.1, hall.1, hall.2.1⟩⟩
      split at h
      · obtain rfl := pure_eq_ok.mp h
        exact ⟨fun hvalid => ⟨hvalid, decide_eq_true rfl, rfl, hrecorded, hfamily, hhashes, hne⟩,
          hiff, fun _ => hkept⟩
      · obtain rfl := pure_eq_ok.mp h
        exact ⟨fun hvalid => ⟨hvalid, decide_eq_true rfl, rfl, hrecorded, hfamily, hhashes,
          ne_nil_of_mem hreason⟩, hiff, fun hnot => absurd (hsigned.resolve_left hnot) ‹_›⟩
  · cases hgate

end Experience

end Tiangong
