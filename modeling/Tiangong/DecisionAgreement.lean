import Tiangong.RepairRounds

/-!
# When coordinator and store decide alike

Both sides count the repairs of the generation. A repair that is already on file when it is
derived again moves the count of the coordinator only, so within a round the coordinator may run
ahead of the store, and their decisions part where the budget lies between the two counts.
-/
namespace Tiangong

open RepairStore

namespace RepairStore

/-- The plan and the readiness a round works on are on file. -/
def sourcesOnFile (s : RepairStore) (plan : VerificationPlan) (readiness : VerificationReadiness) :
    Bool :=
  (s.getVerificationPlan plan.verificationPlanId).isSome &&
    (s.getVerificationReadinessBySha plan.requestId plan.runId plan.generation
      readiness.readinessSha256).isSome

end RepairStore

def VerificationPlan.lineage (plan : VerificationPlan) : RecordBinding :=
  ⟨plan.requestId, plan.runId, plan.generation⟩

section Rebuild

variable {s t : RepairStore} {plan : VerificationPlan} {readiness : VerificationReadiness}
  {nowMs : ℕ} {fes : List FailureEvidence}

theorem rebuild_eq_ok (h : s.rebuildFailureEvidence plan readiness nowMs = .ok fes) :
    plan.hasValidIdentity = true ∧ readiness.hasValidIdentity = true ∧
      fes = (failingEntries readiness plan.entries).map fun (e, a) =>
        failureEvidenceOf plan readiness
          (s.listVerificationRecords plan.requestId plan.runId plan.generation)
          (fun id => (s.resolveVerificationSubject id).effectiveSubjectIdentity) nowMs e a := by
  simp only [rebuildFailureEvidence, buildFailureEvidence, eq_ok_iff, Bool.not_eq_false] at h
  exact ⟨h.1, h.2.1, buildEntries_eq_ok h.2.2.2⟩

/-- What every piece of rebuilt evidence has in common. -/
theorem mem_rebuild (h : s.rebuildFailureEvidence plan readiness nowMs = .ok fes)
    {fe : FailureEvidence} (hfe : fe ∈ fes) :
    fe.hasValidIdentity = true ∧ fe.requestId = plan.requestId ∧ fe.runId = plan.runId ∧
      fe.generation = plan.generation ∧ fe.verificationPlanId = plan.verificationPlanId ∧
      fe.readinessSha256 = readiness.readinessSha256 ∧ fe.observedAtMs = nowMs := by
  obtain ⟨-, -, rfl⟩ := rebuild_eq_ok h
  obtain ⟨⟨e, a⟩, -, rfl⟩ := List.mem_map.mp hfe
  exact ⟨FailureEvidence.withComputedSha256_valid _, rfl, rfl, rfl, rfl, rfl, rfl⟩

/-- A stored plan or readiness found by a content-derived key is the one the key came from. -/
lemma getVerificationPlan_eq (hplan : plan.hasValidIdentity = true)
    {plan' : VerificationPlan} (h : s.getVerificationPlan plan.verificationPlanId = some plan') :
    plan' = plan := by
  obtain ⟨row, hrow, rfl⟩ := Option.map_eq_some_iff.mp h
  have hid := Table.key_of_find hrow
  exact VerificationPlan.eq_of_id row.2 hplan hid

lemma getVerificationReadinessBySha_eq (hreadiness : readiness.hasValidIdentity = true)
    {requestId runId : String} {generation : ℕ} {readiness' : VerificationReadiness}
    (h : s.getVerificationReadinessBySha requestId runId generation readiness.readinessSha256 =
      some readiness') : readiness' = readiness := by
  obtain ⟨row, hrow, rfl⟩ := Option.map_eq_some_iff.mp h
  have hkey := List.find?_some hrow
  simp only [decide_eq_true_eq] at hkey
  exact VerificationReadiness.eq_of_sha row.2 hreadiness hkey.2.2.2

/-- The store derives rebuilt evidence again exactly when the plan and the readiness are on
file. -/
lemma revalidateFailureEvidence_rebuilt
    (h : s.rebuildFailureEvidence plan readiness nowMs = .ok fes) {fe : FailureEvidence}
    (hfe : fe ∈ fes) :
    if s.sourcesOnFile plan readiness then revalidateFailureEvidence fe s = .ok ()
    else ∃ text, revalidateFailureEvidence fe s = .error (.revalidation .failureEvidence text) := by
  obtain ⟨hplan, hreadiness, -⟩ := rebuild_eq_ok h
  obtain ⟨-, hrequest, hrun, hgeneration, hplanId, hsha, hat⟩ := mem_rebuild h hfe
  simp only [revalidateFailureEvidence, sourcesOnFile, hrequest, hrun, hgeneration, hplanId, hsha,
    hat]
  cases hp : s.getVerificationPlan plan.verificationPlanId with
  | none => exact ⟨_, rfl⟩
  | some plan' =>
    cases getVerificationPlan_eq hplan hp
    cases hr : s.getVerificationReadinessBySha plan.requestId plan.runId plan.generation
        readiness.readinessSha256 with
    | none => exact ⟨_, rfl⟩
    | some readiness' =>
      cases getVerificationReadinessBySha_eq hreadiness hr
      simp only [Option.isSome_some, Bool.and_self, if_true, eq_ok_iff, not_not]
      exact ⟨plan, rfl, readiness, rfl, fes, h, fe, hfe, rfl, rfl⟩

lemma roundEvidence_of_rebuild (h : s.rebuildFailureEvidence plan readiness nowMs = .ok fes) :
    RoundEvidence s plan.lineage (s.sourcesOnFile plan readiness) fes where
  valid fe hfe := (mem_rebuild h hfe).1
  lineage_eq fe hfe := by
    obtain ⟨-, hrequest, hrun, hgeneration, -⟩ := mem_rebuild h hfe
    rw [hrequest, hrun, hgeneration]
    rfl
  rederived fe hfe t hframe := by
    have hsources : t.sourcesOnFile plan readiness = s.sourcesOnFile plan readiness := by
      unfold sourcesOnFile
      rw [hframe.getVerificationPlan, hframe.getVerificationReadinessBySha]
    rw [← hsources]
    exact revalidateFailureEvidence_rebuilt ((hframe.rebuildFailureEvidence _ _ _).trans h) hfe
  entries_nodup := by
    obtain ⟨-, -, rfl⟩ := rebuild_eq_ok h
    rw [List.map_map]
    exact failingEntries_nodup plan readiness

/-- A round that has its evidence ends as forecast. -/
theorem processReadiness_fulfils {reuse : Bool} (hready : readiness.verificationReady = false)
    (h : s.rebuildFailureEvidence plan readiness nowMs = .ok fes) :
    Fulfils s plan.lineage
      (forecast reuse nowMs s (s.sourcesOnFile plan readiness) fes
        (s.generationRepairCount plan.requestId plan.runId plan.generation)
        (s.generationRepairCount plan.requestId plan.runId plan.generation))
      ((processReadiness defaultPolicy plan readiness nowMs reuse).on s) := by
  have hquery := Call.on_query (fun s => s.rebuildFailureEvidence plan readiness nowMs) s
  rw [h] at hquery
  rw [processReadiness, if_neg (by simp [hready]), Call.on_bind_of_ok hquery,
    Call.on_bind_of_ok (Call.on_read _ _)]
  exact processFailures_fulfils (roundEvidence_of_rebuild h) (.refl s)
    (fun f _ => .refl s f.planEntryId) rfl

variable {e : RepairError}

theorem processReadiness_of_builder_error {reuse : Bool}
    (hready : readiness.verificationReady = false)
    (h : s.rebuildFailureEvidence plan readiness nowMs = .error e) :
    (processReadiness defaultPolicy plan readiness nowMs reuse).on s = (.error e, s) := by
  have hquery := Call.on_query (fun s => s.rebuildFailureEvidence plan readiness nowMs) s
  rw [h] at hquery
  rw [processReadiness, if_neg (by simp [hready]), Call.on_bind_of_error hquery]

lemma buildEntries_error {records : List VerificationRecord}
    {effectiveSubject : Canon → Option String} {entries : List PlanEntry}
    (h : buildEntries plan readiness records effectiveSubject nowMs entries = .error e) :
    ∃ text, e = .builder text := by
  induction entries with
  | nil => cases h
  | cons entry entries ih =>
    unfold buildEntries at h
    split at h
    · exact ih h
    · simp only [bind_eq_error, rejectIf_eq_error] at h
      rcases h with ⟨-, rfl⟩ | ⟨_, -, h | ⟨_, -, h⟩⟩
      · exact ⟨_, rfl⟩
      · exact ih h
      · cases h

/-- The builder raises its own error only. -/
lemma rebuild_error
    (h : s.rebuildFailureEvidence plan readiness nowMs = .error e) :
    ∃ text, e = .builder text := by
  simp only [rebuildFailureEvidence, buildFailureEvidence, bind_eq_error, rejectIf_eq_error] at h
  rcases h with ⟨-, rfl⟩ | ⟨_, -, ⟨-, rfl⟩ | ⟨_, -, ⟨-, rfl⟩ | ⟨_, -, h⟩⟩⟩
  · exact ⟨_, rfl⟩
  · exact ⟨_, rfl⟩
  · exact ⟨_, rfl⟩
  · exact buildEntries_error h

end Rebuild

section Agreement

variable (reuse : Bool) (nowMs : ℕ) (s : RepairStore) (available : Bool)

/-- The budget never lies between the two counts at a fresh repair. The coordinator's `count`
moves with every repair, the one `onFile` with the fresh ones only. -/
def BudgetAgrees : List FailureEvidence → ℕ → ℕ → Prop
  | [], _, _ => True
  | fe :: fes, count, onFile =>
    match reusableDisposition reuse fe nowMs s with
    | .error _ => True
    | .ok (some _) => BudgetAgrees fes count onFile
    | .ok none =>
      let d := roundDisposition nowMs s fe count
      evidenceAdmitted nowMs s available fe = true →
        if (s.dispositions.find d.verificationDispositionId).isSome then
          BudgetAgrees fes (countAfter count d) onFile
        else
          ((evaluateDisposition defaultPolicy (s.decisionInput fe)).1 = .repair →
            defaultPolicy.maxTotalAutoRepairsPerGeneration ≤ count →
              defaultPolicy.maxTotalAutoRepairsPerGeneration ≤ onFile) ∧
          BudgetAgrees fes (countAfter count d) (countAfter onFile d)

variable {reuse nowMs s available}

lemma countAfter_le {m n : ℕ} (h : m ≤ n) (d : VerificationDisposition) :
    countAfter m d ≤ countAfter n d := by
  unfold countAfter
  split <;> omega

lemma le_countAfter {m n : ℕ} (h : m ≤ n) (d : VerificationDisposition) : m ≤ countAfter n d := by
  unfold countAfter
  split <;> omega

/-- A round is forecast to end in a mismatch exactly where the budget parts the counts. -/
lemma forecast_mismatch_iff {fes : List FailureEvidence} {count onFile : ℕ}
    (hle : onFile ≤ count) :
    forecast reuse nowMs s available fes count onFile = .error .mismatch ↔
      ¬ BudgetAgrees reuse nowMs s available fes count onFile := by
  induction fes generalizing count onFile with
  | nil => simp [forecast, BudgetAgrees]
  | cons fe fes ih =>
    unfold forecast BudgetAgrees
    cases hr : reusableDisposition reuse fe nowMs s with
    | error e => simp
    | ok reused =>
      cases reused with
      | some d => simp only [map_cons_eq_error, ih hle]
      | none =>
        simp only
        by_cases hadmitted : evidenceAdmitted nowMs s available fe = true
        · simp only [hadmitted, Bool.true_eq_false, if_false, true_implies]
          by_cases hfile : (s.dispositions.find
              (roundDisposition nowMs s fe count).verificationDispositionId).isSome = true
          · simp only [hfile, if_true, map_cons_eq_error]
            exact ih (le_countAfter hle _)
          · simp only [hfile, Bool.false_eq_true, if_false, computeDispositionAction_eq_iff hle]
            split
            case isTrue hagree =>
              simp only [map_cons_eq_error, ih (countAfter_le hle _)]
              exact not_congr (and_iff_right hagree).symm
            case isFalse hparted =>
              exact iff_of_true rfl fun hboth => hparted hboth.1
        · simp [hadmitted]

/-- The condition on the state before a round. -/
def RoundAgrees (s : RepairStore) (plan : VerificationPlan) (readiness : VerificationReadiness)
    (nowMs : ℕ) (reuse : Bool) : Prop :=
  readiness.verificationReady = false →
    ∀ fes, s.rebuildFailureEvidence plan readiness nowMs = .ok fes →
      BudgetAgrees reuse nowMs s (s.sourcesOnFile plan readiness) fes
        (s.generationRepairCount plan.requestId plan.runId plan.generation)
        (s.generationRepairCount plan.requestId plan.runId plan.generation)

/-- A call raised because the store decided differently. -/
def RaisesMismatch {α : Type} (answer : Except RepairError α) : Prop :=
  ∃ text, answer = .error (.revalidation .disposition text)

theorem raisesMismatch_iff_of_fulfils {lineage : RecordBinding}
    {F : Except RoundStop (List VerificationDisposition × ℕ)}
    {r : Except RepairError (List VerificationDisposition) × RepairStore}
    (h : Fulfils s lineage F r) : RaisesMismatch r.1 ↔ F = .error .mismatch := by
  unfold Fulfils at h
  split at h <;> simp_all [RaisesMismatch]

end Agreement

/-- A round never raises because of a decision mismatch exactly when the budget never lies between
the counts of the coordinator and of the store. -/
theorem processReadiness_agrees_iff (s : RepairStore) (plan : VerificationPlan)
    (readiness : VerificationReadiness) (nowMs : ℕ) (reuse : Bool) :
    ¬ RaisesMismatch ((processReadiness defaultPolicy plan readiness nowMs reuse).on s).1 ↔
      RoundAgrees s plan readiness nowMs reuse := by
  cases hready : readiness.verificationReady with
  | true =>
    have hanswer : ((processReadiness defaultPolicy plan readiness nowMs reuse).on s).1 =
        .ok [] := by
      rw [processReadiness, if_pos hready]
      rfl
    rw [hanswer]
    exact iff_of_true (fun ⟨_, h⟩ => by cases h) fun h => by simp [hready] at h
  | false =>
    cases hreb : s.rebuildFailureEvidence plan readiness nowMs with
    | error e =>
      obtain ⟨text, rfl⟩ := rebuild_error hreb
      rw [processReadiness_of_builder_error hready hreb]
      refine iff_of_true (fun ⟨_, h⟩ => by cases h) fun _ fes hfes => ?_
      rw [hreb] at hfes
      cases hfes
    | ok fes =>
      rw [raisesMismatch_iff_of_fulfils (processReadiness_fulfils hready hreb),
        forecast_mismatch_iff le_rfl, not_not]
      constructor
      · intro h _ fes' hfes'
        rw [hreb] at hfes'
        cases hfes'
        exact h
      · intro h
        exact h hready fes hreb

instance {α : Type} (answer : Except RepairError α) : Decidable (RaisesMismatch answer) :=
  match answer with
  | .error (.revalidation .disposition text) => .isTrue ⟨text, rfl⟩
  | .error (.revalidation .failureEvidence _) | .error (.revalidation .directive _)
  | .error (.revalidation .attempt _) | .error (.revalidation .successor _)
  | .error (.store _) | .error (.builder _) | .error (.coordinator _) | .error (.unbound _)
  | .ok _ => .isFalse fun ⟨_, h⟩ => by cases h

/-! ## A plan with three empty artifacts -/

namespace Sample

def entry (verifierId : String) : PlanEntry :=
  PlanEntry.withComputedSha256
    { planEntryId := .null
      verifierId := verifierId
      verifierVersion := "1"
      predicate := .create "artifact.nonempty" .artifact (.ofList [])
      subjectIdentity := "rev_" ++ verifierId
      evaluationPhase := .postExecution
      required := true
      entrySha256 := .null }

def plan : VerificationPlan :=
  VerificationPlan.withComputedSha256
    { verificationPlanId := .null
      requestId := "req_0"
      runId := "run_0"
      generation := 1
      registrySnapshotSha256 := .null
      entries := [entry "a", entry "b", entry "c"]
      planSha256 := .null
      entryIds_nodup := by decide
      some_required := by decide }

def record (e : PlanEntry) : VerificationRecord where
  verificationRecordId := "vr_" ++ e.verifierId
  requestId := "req_0"
  runId := "run_0"
  generation := 1
  verifierId := e.verifierId
  verifierVersion := e.verifierVersion
  predicateId := e.predicate.predicateId
  subjectIdentity := e.subjectIdentity
  status := .fail
  reasonCodes := ["artifact.empty"]
  evidenceRefs := []
  evidenceSha256 := .null
  evaluatedAtMs := 40
  resultSha256 := .null

def readiness : VerificationReadiness :=
  VerificationReadiness.withComputedSha256
    { verificationReadinessId := .null
      verificationPlanId := plan.verificationPlanId
      verificationPlanSha256 := plan.planSha256
      requestId := "req_0"
      runId := "run_0"
      generation := 1
      registrySnapshotSha256 := .null
      requiredEntryCount := 3
      satisfiedEntryCount := 0
      entryAssessments := plan.entries.map fun e =>
        ⟨e.planEntryId, .fail, some (record e).verificationRecordId, none⟩
      supportingVerificationRecordIds := []
      verificationReady := false
      failureClass := .verificationFailed
      reasonCodes := []
      evaluatedAtMs := 50
      readinessSha256 := .null
      ready_iff := by decide
      assessmentIds_nodup := by decide }

/-- The store after the plan was verified and before anything was decided. -/
def store : RepairStore where
  requests := .single "req_0" 0 "run_0" 1 .active
  effects := .init
  verificationPlans := ⟨[⟨plan, by decide⟩], by simp⟩
  verificationReadinesses := ⟨[⟨readiness, by decide⟩], by simp⟩
  verificationRecords := ⟨plan.entries.map record, by decide⟩
  failureEvidence := .empty
  dispositions := .empty
  repairDirectives := .empty
  repairAttempts := .empty
  subjectSuccessors := .empty
  repairExecutionBindings := .empty
  artifactSubjects := .empty
  repositorySubjects := []

/-- A round of the default policy. -/
def round (nowMs : ℕ) : Call RepairError RepairStore (List VerificationDisposition) :=
  processReadiness defaultPolicy plan readiness nowMs

end Sample

/-- Three repairs decided at one time and derived again at that time: the coordinator counts the
first of them twice, calls the second a review, and the store insists on the repair. -/
theorem repeatedRound_mismatch :
    RaisesMismatch ((Sample.round 100).on ((Sample.round 100).on Sample.store).2).1 := by
  decide +kernel

end Tiangong
