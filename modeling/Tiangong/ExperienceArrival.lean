import Tiangong.ExperienceStatistics

/-!
# Order of arrival

Two arrivals of the same observations lead to the same counts and pools, and to the same times and
lifecycle when neither lets an observation arrive after a later one. An aggregate that is no longer
used is never used again.
-/
open List

namespace Tiangong

namespace Experience

/-- The times and the lifecycle agree, and the times are the latest of the entries. -/
structure LatestTimes (entries : List Entry) (s s' : Aggregate) : Prop where
  success : IsLatest (Entry.time '' {e | e ∈ entries ∧ e.isSuccess = true})
    s.experience.lastSuccessMs
  failure : IsLatest (Entry.time '' {e | e ∈ entries ∧ e.isSuccess = false})
    s.experience.lastFailureMs
  sameSuccess : s.experience.lastSuccessMs = s'.experience.lastSuccessMs
  sameFailure : s.experience.lastFailureMs = s'.experience.lastFailureMs
  sameLifecycle : s.experience.lifecycle = s'.experience.lifecycle

def ArrivalsAgree (config : PolicyConfig) (entries entries' : List Entry) : Prop :=
  ∃ s s', applyAll config none entries = .ok (some s) ∧
    applyAll config none entries' = .ok (some s') ∧ SameStatistics s s' ∧
      (InTimeOrder ∅ entries → InTimeOrder ∅ entries' → LatestTimes entries s s')

/-- A non-empty arrival is folded into the aggregate of its entries. -/
lemma applyAll_none {config : PolicyConfig} {entries : List Entry} (hne : entries ≠ [])
    (hids : ∀ e ∈ entries, ∀ e' ∈ entries, e'.id = e.id → e' = e)
    (hscope : ∀ e ∈ entries, ∀ e' ∈ entries, e'.SameScope e) :
    ∃ E s, (∀ e, e ∈ E ↔ e ∈ entries) ∧ applyAll config none entries = .ok (some s) ∧
      Summarises config E s ∧ (InTimeOrder ∅ entries → Times config E s) := by
  obtain ⟨e, rest, rfl⟩ := exists_cons_of_ne_nil hne
  obtain ⟨s, negative, hfirst, hsum, htimes⟩ := applyObservation_first e config
  have hmove : ∀ {e'}, (e' ∈ ({e} : Finset Entry) ∨ e' ∈ rest) → e' ∈ e :: rest := by
    rintro e' (he' | he')
    · rw [Finset.mem_singleton.mp he']
      exact mem_cons_self
    · exact mem_cons_of_mem _ he'
  obtain ⟨E, s', hmem, hall, hsum', htimes'⟩ := applyAll_summarises hsum
    (Finset.singleton_nonempty e)
    (fun e₁ he₁ e₂ he₂ => hids e₁ (mem_cons_of_mem _ he₁) e₂ (hmove he₂))
    fun e₁ he₁ e₂ he₂ => hscope e₁ (mem_cons_of_mem _ he₁) e₂ (hmove he₂)
  refine ⟨E, s', ?_, ?_, hsum', ?_⟩
  · intro e'
    rw [hmem, Finset.mem_singleton, mem_cons]
  · rw [applyAll, foldlM_cons, hfirst]
    exact hall
  · rintro ⟨-, horder⟩
    rw [insert_empty_eq, ← Finset.coe_singleton] at horder
    exact htimes' htimes horder

theorem Times.same {config : PolicyConfig} {E : Finset Entry} {s s' : Aggregate}
    (h : Times config E s) (h' : Times config E s') (hsame : SameStatistics s s') :
    s.experience.lastSuccessMs = s'.experience.lastSuccessMs ∧
      s.experience.lastFailureMs = s'.experience.lastFailureMs ∧
      s.experience.lifecycle = s'.experience.lifecycle := by
  have hsuccess := h.success.unique h'.success
  have hcounts : s.lifecycleCounts = s'.lifecycleCounts := by
    simp only [Aggregate.lifecycleCounts, hsame.successCount, hsame.failureCount,
      hsame.contextCount, hsame.lower, hsame.qualitySum, hsame.qualityCount, hsuccess]
  refine ⟨hsuccess, h.failure.unique h'.failure, ?_⟩
  rw [h.lifecycle, h'.lifecycle, hcounts, h.observed.unique h'.observed]

lemma arrivalsAgree {config : PolicyConfig} {entries entries' : List Entry} (hne : entries ≠ [])
    (hsame : ∀ e, e ∈ entries ↔ e ∈ entries')
    (hids : ∀ e ∈ entries, ∀ e' ∈ entries, e'.id = e.id → e' = e)
    (hscope : ∀ e ∈ entries, ∀ e' ∈ entries, e'.SameScope e) :
    ArrivalsAgree config entries entries' := by
  obtain ⟨first, hfirst⟩ := exists_mem_of_ne_nil _ hne
  have hne' : entries' ≠ [] := ne_nil_of_mem ((hsame first).mp hfirst)
  obtain ⟨E, s, hmem, hall, hsum, htimes⟩ := @applyAll_none config entries hne hids hscope
  obtain ⟨E', s', hmem', hall', hsum', htimes'⟩ := @applyAll_none config entries' hne'
    (fun e he e' he' => hids e ((hsame e).mpr he) e' ((hsame e').mpr he'))
    fun e he e' he' => hscope e ((hsame e).mpr he) e' ((hsame e').mpr he')
  have hset : E' = E := by
    ext e
    rw [hmem, hmem', hsame]
  subst hset
  have hstatistics := hsum.same hsum'
  refine ⟨s, s', hall, hall', hstatistics, fun horder horder' => ?_⟩
  obtain ⟨hsuccess, hfailure, hlifecycle⟩ := (htimes horder).same (htimes' horder') hstatistics
  have hsuccesses : ((successes E' : Finset Entry) : Set Entry) =
      {e | e ∈ entries ∧ e.isSuccess = true} := by
    ext e
    rw [Finset.mem_coe, mem_successes, hmem]
    rfl
  have hfailures : ((failures E' : Finset Entry) : Set Entry) =
      {e | e ∈ entries ∧ e.isSuccess = false} := by
    ext e
    rw [Finset.mem_coe, mem_failures, hmem]
    rfl
  exact ⟨hsuccesses ▸ (htimes horder).success, hfailures ▸ (htimes horder).failure, hsuccess,
    hfailure, hlifecycle⟩

inductive ExperienceOp where
  | apply (o : Observation) (a : Admission) (config : PolicyConfig)
  | mark (currentSources : List SourceRevisionRef) (requestedAtMs : ℕ)

namespace ExperienceOp

def run (s : Aggregate) : ExperienceOp → Except String Aggregate
  | apply o a config => (applyObservation (some s) o a config).map (·.1)
  | mark currentSources requestedAtMs =>
    (markSourceChange s currentSources requestedAtMs).map (·.1)

/-- The aggregate after an operation, which is the old one when the operation raises. -/
def after (s : Aggregate) (op : ExperienceOp) : Aggregate := (op.run s).toOption.getD s

def FindsChange (s : Aggregate) : ExperienceOp → Prop
  | apply _ _ _ => False
  | mark currentSources _ => ∃ freshness, assessSourceFreshness s currentSources = .ok freshness ∧
      freshness ≠ .current

/-- An aggregate that is no longer used keeps its record, or is marked for changed sources. -/
lemma run_inactive {s s' : Aggregate} {op : ExperienceOp}
    (hinactive : s.experience.lifecycle.isInactive = true) (h : op.run s = .ok s') :
    s' = s ∨ op.FindsChange s ∧ (s'.experience.lifecycle = .stale ∨
      s'.experience.lifecycle = .revalidationRequired) := by
  cases op with
  | apply o a config =>
    simp only [run, map_eq_ok, applyObservation, eq_ok_iff] at h
    obtain ⟨out, ⟨-, -, -, -, negative, -, -, -, hout⟩, rfl⟩ := h
    split at hout
    · cases hout
      exact .inl rfl
    · simp only [eq_ok_iff] at hout
      exact absurd hinactive hout.1
  | mark currentSources requestedAtMs =>
    simp only [run, map_eq_ok, markSourceChange, bind_eq_ok] at h
    obtain ⟨out, ⟨freshness, hfreshness, hout⟩, rfl⟩ := h
    split at hout
    · cases hout
      exact .inl rfl
    · rename_i hchanged
      simp only [eq_ok_iff] at hout
      obtain ⟨family, -, hashes, -, -, rfl⟩ := hout
      refine .inr ⟨⟨freshness, hfreshness, hchanged⟩, ?_⟩
      change (if freshness = .stale then Lifecycle.stale else .revalidationRequired) = .stale ∨
        (if freshness = .stale then Lifecycle.stale else .revalidationRequired) =
          .revalidationRequired
      split
      · exact .inl rfl
      · exact .inr rfl

lemma after_inactive {s : Aggregate} (hinactive : s.experience.lifecycle.isInactive = true)
    (op : ExperienceOp) : (op.after s).experience.lifecycle.isInactive = true := by
  unfold after
  cases hrun : op.run s with
  | error e => exact hinactive
  | ok s' =>
    rcases run_inactive hinactive hrun with rfl | ⟨-, hstale | hrevalidation⟩
    · exact hinactive
    · exact (congrArg Lifecycle.isInactive hstale).trans rfl
    · exact (congrArg Lifecycle.isInactive hrevalidation).trans rfl

lemma after_unchanged {s : Aggregate} (hinactive : s.experience.lifecycle.isInactive = true)
    {op : ExperienceOp} (hop : ¬ op.FindsChange s) : op.after s = s := by
  unfold after
  cases hrun : op.run s with
  | error e => rfl
  | ok s' =>
    rcases run_inactive hinactive hrun with rfl | ⟨hchange, -⟩
    · rfl
    · exact absurd hchange hop

end ExperienceOp

/-- No run of operations lets an aggregate be used again. -/
lemma run_staysInactive {s : Aggregate} (hinactive : s.experience.lifecycle.isInactive = true)
    (ops : List ExperienceOp) :
    (ops.foldl ExperienceOp.after s).experience.lifecycle.isInactive = true := by
  induction ops generalizing s with
  | nil => exact hinactive
  | cons op ops ih => exact ih (ExperienceOp.after_inactive hinactive op)

/-- A run that finds no change of sources leaves such an aggregate as it is. -/
lemma run_unchanged {s : Aggregate} (hinactive : s.experience.lifecycle.isInactive = true)
    {ops : List ExperienceOp} (hops : ∀ op ∈ ops, ¬ op.FindsChange s) :
    ops.foldl ExperienceOp.after s = s := by
  induction ops with
  | nil => rfl
  | cons op ops ih =>
    rw [foldl_cons, ExperienceOp.after_unchanged hinactive (hops op mem_cons_self)]
    exact ih fun op' hop' => hops op' (mem_cons_of_mem _ hop')

/-- What holds of experience whatever the order of its observations and operations. -/
theorem experience_arrival (config : PolicyConfig) :
    (∀ entries entries' : List Entry, entries ≠ [] → (∀ e, e ∈ entries ↔ e ∈ entries') →
      (∀ e ∈ entries, ∀ e' ∈ entries, e'.id = e.id → e' = e) →
      (∀ e ∈ entries, ∀ e' ∈ entries, e'.SameScope e) →
      ArrivalsAgree config entries entries') ∧
    (∀ (s : Aggregate) (ops : List ExperienceOp), s.experience.lifecycle.isInactive = true →
      (ops.foldl ExperienceOp.after s).experience.lifecycle.isInactive = true) ∧
    ∀ (s : Aggregate) (ops : List ExperienceOp), s.experience.lifecycle = .retired →
      (∀ op ∈ ops, ¬ op.FindsChange s) → ops.foldl ExperienceOp.after s = s := by
  refine ⟨fun entries entries' hne hsame hids hscope => arrivalsAgree hne hsame hids hscope,
    fun s ops hinactive => run_staysInactive hinactive ops, fun s ops hretired hops => ?_⟩
  exact run_unchanged (by rw [hretired]; rfl) hops

end Experience

namespace Sample

open Experience

/-- The one source of the sample plan. -/
def actionSource (revision : String) : SourceRevisionRef :=
  ⟨.toolAction, py "file.read", py "v1", [py "tool.py"], [], .text revision, .null, none⟩

def experiencePlan : CapabilityCompositionPlan :=
  CapabilityCompositionPlan.withComputedSha256
    { planId := .null
      requestId := py "req"
      runId := py "run"
      generation := 0
      principalScopeHash := .null
      worldStateRef := py "world"
      worldStateSha256 := .null
      goalFingerprint := .null
      environmentClass := py "env"
      contextFingerprintSha256 := .null
      methodSourceRefs := []
      actionSourceRefs := [actionSource "a"]
      steps := []
      dependencyGraphSha256 := .null
      bindingsSha256 := .null
      controlFlow := .sequential
      expectedEffects := []
      requiredResourceClasses := []
      permissionRequirements := []
      riskFloor := .a0
      compositionRisk := .a0
      informationFlowFindings := []
      sourceManifestSha256 := .null
      capabilityManifestSha256 := .null
      memoryExperienceRefs := []
      verificationIntents := []
      createdAtMs := 0
      planSha256 := .null }

def experienceCompletion : Experience.CompletionEvidence where
  requestId := py "req"
  runId := py "run"
  generation := 0
  outcome := .completed
  canTransitionRequestCompleted := true
  needsReconciliation := false
  verificationMode := .none
  verificationReady := false
  verificationPlanSha256 := none
  verificationReadinessSha256 := none
  supportingFactIds := []
  decisionSha256 := .null
  transition_flag := rfl
  reconciliation_flag := rfl
  plan_bound := nofun

def experienceTrace : AttributionTrace where
  requestId := py "req"
  runId := py "run"
  generation := 0
  principalScopeHash := .null
  privacyScopeHash := .null
  compositionPlanSha256 := experiencePlan.planSha256
  completion := experienceCompletion
  activeVerificationPlanSha256 := none
  verificationRecordRefs := []
  terminalEffectIds := []
  terminalFactIds := []
  terminalFactHashes := [.null]
  observedMethodSourceRefs := []
  observedActionSourceRefs := [actionSource "a"]
  hasAcceptanceObligations := false
  activeVerificationPlanComplete := true
  effectFactLineageComplete := true
  sourceRefsComplete := true
  sourceRevisionsContinuous := true
  requestScopeContinuous := true
  humanTakeover := false
  alternateExecutionChain := false
  unknownExternalOverwrite := false
  unknownSideEffects := false
  unresolvedReconciliation := false
  secretOrCredentialPresent := false
  promptInjectionPresent := false
  contextIdentityTruncated := false
  collectedAtMs := 0
  traceSha256 := .null

def experienceAttribution : AttributionIntegrity where
  requestId := py "req"
  runId := py "run"
  generation := 0
  compositionPlanSha256 := experiencePlan.planSha256
  pass := true
  reasonCodes := []
  checkedLineageSha256 := .null
  checkedAtMs := 0
  attributionSha256 := .null

/-- A success, or a failure at run time, at the given time. -/
def experienceObservation (id : OpaqueId) (success : Bool) (observedAtMs : ℕ) : Observation :=
  let o : Observation :=
    { observationId := id
      lifeId := ⟨py "sample-life", by decide⟩
      principalRef := ⟨py "sample-principal", by decide⟩
      principalScopeHash := .null
      privacyScope := ⟨py "sample-privacy", by decide⟩
      privacyScopeHash := .null
      goalClass := ⟨py "sample-goal", by decide⟩
      environmentClass := ⟨py "sample-env", by decide⟩
      sceneFingerprint := .null
      contextFingerprintSha256 := .null
      compositionTopologySha256 := .null
      plan := experiencePlan
      trace := experienceTrace
      attribution := experienceAttribution
      outcome := if success then .success else .failure
      qualityMilli := 900
      failureCategory := if success then none else some .runtimeFailure
      failureReasonCodes := []
      observedAtMs := observedAtMs
      observationSha256 := .null
      quality_range := by decide
      reasons_sorted := List.Pairwise.nil
      plan_bound := by decide
      attribution_bound := by decide
      scope_bound := by decide
      category_bound := by cases success <;> decide
      time_bound := Nat.zero_le _ }
  { o with observationSha256 := o.computedSha256 }

lemma experienceObservation_valid (id : OpaqueId) (success : Bool) (observedAtMs : ℕ) :
    (experienceObservation id success observedAtMs).hasValidSha256 = true := decide_eq_true rfl

lemma sampleSources_sorted :
    [Canon.sha256 (actionSource "a").canon].Pairwise (· < ·) := pairwise_singleton _ _

lemma sampleReasons_sorted : [py "sample-reason"].Pairwise (· < ·) := pairwise_singleton _ _

def sampleFamily : Canon :=
  .ident "srcfam_" (.ofList [.ofList [.str (py "TOOL_ACTION"), .str (py "file.read"),
    .str (py "v1")]])

def experienceAdmission (id : OpaqueId) (success : Bool) (observedAtMs : ℕ) : Admission :=
  admissionOf (experienceObservation id success observedAtMs)
    (if success then .positiveExperience else .negativeEvidence) sampleFamily
    [.sha256 (actionSource "a").canon] [py "sample-reason"] .runtimeFailure observedAtMs
    sampleSources_sorted sampleReasons_sorted

lemma experienceAdmission_admitted (id : OpaqueId) (success : Bool) (observedAtMs : ℕ) :
    Admitted (experienceObservation id success observedAtMs)
      (experienceAdmission id success observedAtMs) where
  observation_valid := experienceObservation_valid id success observedAtMs
  admission_valid := decide_eq_true rfl
  same_observation := rfl
  recorded := by cases success <;> exact nofun
  family := rfl
  hashes := rfl
  reasons := cons_ne_nil _ _

def experienceEntry (id : OpaqueId) (success : Bool) (observedAtMs : ℕ) : Entry :=
  ⟨_, _, experienceAdmission_admitted id success observedAtMs⟩

lemma experienceEntry_sameScope (id id' : OpaqueId) (success success' : Bool) (t t' : ℕ) :
    (experienceEntry id success t).SameScope (experienceEntry id' success' t') :=
  ⟨rfl, rfl, rfl, rfl, rfl, rfl, rfl, rfl⟩

/-- A configuration under which one recent success is enough. -/
def eagerConfig : PolicyConfig where
  stableMinSuccessCount := 1
  stableMinIndependentContextCount := 1
  stableMinLowerConfidenceMilli := 0
  stableMinAverageQualityMilli := 0
  evidenceDecayWindowMs := 60000
  configSha256 := .null
  quality_range := by decide
  success_range := by decide
  context_range := by decide
  failure_range := by decide
  confidence_range := by decide
  average_range := by decide
  window_range := by decide
  z_range := by decide

def firstSuccess : Entry := experienceEntry ⟨py "first-success", by decide⟩ true 1

def secondSuccess : Entry := experienceEntry ⟨py "second-success", by decide⟩ true 2

def lateFailure : Entry := experienceEntry ⟨py "late-failure", by decide⟩ false 100000

/-- The time of the last success and the lifecycle after some entries. -/
def successAndLifecycle (entries : List Entry) : Option (Option ℕ × Lifecycle) :=
  match applyAll eagerConfig none entries with
  | .ok (some s) => some (s.experience.lastSuccessMs, s.experience.lifecycle)
  | _ => none

def retiredAggregate : Aggregate :=
  marked (newState firstSuccess.observation firstSuccess.admission none eagerConfig sampleFamily
    [.sha256 (actionSource "a").canon]) .retired 1

end Sample

open Sample in
theorem experience_arrival_swapped :
    Experience.ArrivalsAgree eagerConfig [firstSuccess, lateFailure] [lateFailure, firstSuccess] := by
  have hne : firstSuccess.id ≠ lateFailure.id := by decide
  refine (Experience.experience_arrival eagerConfig).1 _ _ (cons_ne_nil _ _) ?_ ?_ ?_
  · intro e
    simp only [mem_cons, not_mem_nil, or_false]
    exact or_comm
  · simp only [forall_mem_cons, not_mem_nil, false_imp_iff, implies_true, and_true, true_and]
    exact ⟨fun h => absurd h.symm hne, fun h => absurd h hne⟩
  · simp only [forall_mem_cons, not_mem_nil, false_imp_iff, implies_true, and_true]
    exact ⟨⟨experienceEntry_sameScope _ _ _ _ _ _, experienceEntry_sameScope _ _ _ _ _ _⟩,
      experienceEntry_sameScope _ _ _ _ _ _, experienceEntry_sameScope _ _ _ _ _ _⟩

open Sample in
/-- The last success is the one applied last, the lifecycle follows the time of the last observation
applied, and a retired aggregate is marked for changed sources. -/
theorem experience_arrival_order :
    (successAndLifecycle [firstSuccess, secondSuccess] = some (some 2, .stable) ∧
      successAndLifecycle [secondSuccess, firstSuccess] = some (some 1, .stable)) ∧
    (successAndLifecycle [firstSuccess, lateFailure] = some (some 1, .probation) ∧
      successAndLifecycle [lateFailure, firstSuccess] = some (some 1, .stable)) ∧
    retiredAggregate.experience.lifecycle = .retired ∧
    (Experience.ExperienceOp.after retiredAggregate (.mark [actionSource "b"] 2)).experience.lifecycle =
      .revalidationRequired := by
  decide +kernel

open Sample Experience in
theorem evaluateAdmissionGuarded_sample : ∃ a, Admitted firstSuccess.observation a ∧
    a.decision ≠ .positiveExperience := by
  obtain ⟨a, ha⟩ := toBool_eq_true.mp (show (evaluateAdmissionGuarded firstSuccess.observation .null
    .null { eagerConfig with configSha256 := eagerConfig.computedSha256 } 5).toBool = true by
    decide +kernel)
  obtain ⟨hadmitted, hpositive, -⟩ := evaluateAdmissionGuarded_sound ha
  exact ⟨a, hadmitted (by decide +kernel), fun hp => absurd (hpositive.mp hp).2.1 (by decide +kernel)⟩

end Tiangong
