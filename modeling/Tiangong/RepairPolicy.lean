import Tiangong.VerificationContracts

/-!
# The deterministic repair policy

One function decides whether a failure is repaired, awaited, reconciled or reviewed. The
coordinator calls it when it decides, and the store calls it again when the decision is written,
each with the budget counts it derives itself.
-/
namespace Tiangong

def autoRepairableContentPredicates : List String :=
  ["artifact.nonempty", "artifact.min_visible_text_chars", "xlsx.required_columns",
    "xlsx.min_data_rows", "text.required_markers", "pptx.min_nonempty_slides",
    "csv.required_columns"]

def effectPostconditionPredicates : List String :=
  ["effect.target_exists", "effect.target_sha256_matches", "effect.required_change_observed",
    "effect.terminal_succeeded"]

def repositoryRepairablePredicates : List String :=
  ["repository.required_paths_changed"]

def repositoryNonRepairable : List String :=
  ["repository.forbidden_paths_unchanged", "repository.source_authority_valid",
    "repository.no_generated_mirror_direct_edit"]

/-- Every budget and predicate set of the policy. -/
structure RepairPolicyConfig where
  maxAttemptsPerPlanEntry : ℕ := 2
  maxTotalAutoRepairsPerGeneration : ℕ := 4
  maxSameFailureSignatureRepeats : ℕ := 2
  maxSubjectSuccessorDepth : ℕ := 4
  maxSideEffectingRepairsPerEntry : ℕ := 1
  autoRepairableContentPredicates : List String := Tiangong.autoRepairableContentPredicates
  effectPostconditionPredicates : List String := Tiangong.effectPostconditionPredicates
  repositoryRepairablePredicates : List String := Tiangong.repositoryRepairablePredicates
  repositoryNonRepairable : List String := Tiangong.repositoryNonRepairable
  deriving DecidableEq, Repr

def policyVersion : String := "v1"

def minRepairExecutionBudgetMs : ℕ := 60000
def maxRepairExecutionBudgetMs : ℕ := 600000
def maxRepairExpiryDeltaMs : ℕ := 3600000

namespace RepairPolicyConfig

def sortedTexts (values : List String) : Canon :=
  textList (values.insertionSort (· ≤ ·))

def configSha256 (p : RepairPolicyConfig) : Canon :=
  .sha256 (.ofList [.text policyVersion, .num p.maxAttemptsPerPlanEntry,
    .num p.maxTotalAutoRepairsPerGeneration, .num p.maxSameFailureSignatureRepeats,
    .num p.maxSubjectSuccessorDepth, .num p.maxSideEffectingRepairsPerEntry,
    sortedTexts p.autoRepairableContentPredicates, sortedTexts p.effectPostconditionPredicates,
    sortedTexts p.repositoryRepairablePredicates, sortedTexts p.repositoryNonRepairable])

end RepairPolicyConfig

def defaultPolicy : RepairPolicyConfig := {}

/-- What the policy sees of one failure and of its budgets. -/
structure DecisionInput where
  predicateType : String
  verificationStatus : AssessmentStatus
  failureKind : FailureKind
  attemptNo : ℕ
  sameSignatureCount : ℕ
  successorDepth : ℕ
  sideEffectRepairCount : ℕ
  subjectKind : SubjectKind
  effectIsAmbiguous : Bool
  deriving DecidableEq, Repr

/-- The repairability matrix, before the shared budgets. -/
def evaluateDisposition (policy : RepairPolicyConfig) (x : DecisionInput) :
    DispositionAction × List String :=
  if x.effectIsAmbiguous then (.reconcile, ["repair_policy.ambiguous_effect_no_replay"])
  else
    match x.failureKind with
    | .missingEvidence => (.wait, ["repair_policy.missing_evidence_wait"])
    | .inconclusive => (.wait, ["repair_policy.inconclusive_wait"])
    | .authorityError => (.reconcile, ["repair_policy.authority_error_reconcile"])
    | .planConfigError => (.review, ["repair_policy.plan_config_error_review"])
    | .recordMismatch => (.review, ["repair_policy.record_mismatch_review"])
    | .verificationFailed =>
      if policy.maxAttemptsPerPlanEntry ≤ x.attemptNo then
        (.review, ["repair_policy.entry_budget_exhausted"])
      else if policy.maxSameFailureSignatureRepeats ≤ x.sameSignatureCount then
        (.review, ["repair_policy.same_failure_signature_repeat"])
      else if x.predicateType ∈ policy.repositoryNonRepairable then
        (.review, ["repair_policy.repository_non_repairable"])
      else if x.predicateType ∈ policy.autoRepairableContentPredicates then
        (.repair, ["repair_policy.deterministic_content_repairable"])
      else if x.predicateType ∈ policy.effectPostconditionPredicates then
        (.repair, ["repair_policy.effect_postcondition_repairable"])
      else if x.predicateType ∈ policy.repositoryRepairablePredicates then
        (.repair, ["repair_policy.repository_path_repairable"])
      else (.review, ["repair_policy.predicate_not_in_repairability_matrix"])

/-- The reasons for which an exhausted shared budget stops a repair. -/
def exhaustedBudgets (policy : RepairPolicyConfig) (x : DecisionInput)
    (generationRepairCount : ℕ) : List String :=
  (if policy.maxTotalAutoRepairsPerGeneration ≤ generationRepairCount then
      ["repair_policy.generation_budget_exhausted"] else []) ++
    (if policy.maxSubjectSuccessorDepth ≤ x.successorDepth then
      ["repair_policy.successor_depth_exhausted"] else []) ++
    (if x.subjectKind ∈ [.effect, .repository] ∧
        policy.maxSideEffectingRepairsPerEntry ≤ x.sideEffectRepairCount then
      ["repair_policy.side_effect_budget_exhausted"] else [])

/-- The budget-aware decision: an exhausted budget turns a repair into a review. -/
def computeDispositionAction (policy : RepairPolicyConfig) (x : DecisionInput)
    (generationRepairCount : ℕ) : DispositionAction × List String :=
  let base := evaluateDisposition policy x
  let extra := exhaustedBudgets policy x generationRepairCount
  if extra ≠ [] ∧ base.1 = .repair then (.review, extra) else base

variable {policy : RepairPolicyConfig} {x : DecisionInput} {g g' : ℕ}

/-- The matrix says repair, and only the generation budget can still stop it. -/
def repairableInBudget (policy : RepairPolicyConfig) (x : DecisionInput) : Bool :=
  (evaluateDisposition policy x).1 = .repair && exhaustedBudgets policy x 0 = [] &&
    0 < policy.maxTotalAutoRepairsPerGeneration

lemma exhaustedBudgets_congr (h : policy.maxTotalAutoRepairsPerGeneration ≤ g ↔
      policy.maxTotalAutoRepairsPerGeneration ≤ g') :
    exhaustedBudgets policy x g = exhaustedBudgets policy x g' := by
  simp only [exhaustedBudgets, h]

/-- The generation count matters only through its budget. -/
lemma computeDispositionAction_congr (h : policy.maxTotalAutoRepairsPerGeneration ≤ g ↔
      policy.maxTotalAutoRepairsPerGeneration ≤ g') :
    computeDispositionAction policy x g = computeDispositionAction policy x g' := by
  simp only [computeDispositionAction, exhaustedBudgets_congr h]

/-- The generation count does not matter to a failure the matrix does not repair. -/
lemma computeDispositionAction_of_not_repair (h : (evaluateDisposition policy x).1 ≠ .repair) :
    computeDispositionAction policy x g = evaluateDisposition policy x := by
  simp [computeDispositionAction, h]

/-- Across the budget two decisions on a repairable failure differ, at least in their reasons. -/
lemma computeDispositionAction_ne (h : (evaluateDisposition policy x).1 = .repair)
    (hlt : g < policy.maxTotalAutoRepairsPerGeneration)
    (hle : policy.maxTotalAutoRepairsPerGeneration ≤ g') :
    computeDispositionAction policy x g ≠ computeDispositionAction policy x g' := by
  have hexhausted : exhaustedBudgets policy x g' ≠ [] := by simp [exhaustedBudgets, hle]
  have hreasons : exhaustedBudgets policy x g ≠ exhaustedBudgets policy x g' := by
    simp only [exhaustedBudgets, hle, if_true, Nat.not_le.mpr hlt, if_false]
    split <;> split <;> simp
  simp only [computeDispositionAction, h, hexhausted, and_true, ne_eq, not_false_eq_true, if_true]
  split
  · simpa using hreasons
  · intro heq
    rw [heq] at h
    cases h

/-- Two decisions agree exactly when the budget is met by both counts or by neither, or the
failure is not repairable at all. -/
theorem computeDispositionAction_eq_iff (hle : g ≤ g') :
    computeDispositionAction policy x g = computeDispositionAction policy x g' ↔
      ((evaluateDisposition policy x).1 = .repair → policy.maxTotalAutoRepairsPerGeneration ≤ g' →
          policy.maxTotalAutoRepairsPerGeneration ≤ g) := by
  constructor
  · intro heq hrepair hfull
    by_contra hlt
    exact computeDispositionAction_ne hrepair (Nat.not_le.mp hlt) hfull heq
  · intro h
    by_cases hrepair : (evaluateDisposition policy x).1 = .repair
    · exact computeDispositionAction_congr ⟨fun hg => hg.trans hle, h hrepair⟩
    · rw [computeDispositionAction_of_not_repair hrepair,
        computeDispositionAction_of_not_repair hrepair]

/-- A failure is repaired exactly when it is repairable and the generation budget has room. -/
theorem computeDispositionAction_repair_iff : (computeDispositionAction policy x g).1 = .repair ↔
      repairableInBudget policy x = true ∧ g < policy.maxTotalAutoRepairsPerGeneration := by
  simp only [computeDispositionAction, repairableInBudget]
  by_cases hrepair : (evaluateDisposition policy x).1 = .repair
  · by_cases hfull : policy.maxTotalAutoRepairsPerGeneration ≤ g
    · have hexhausted : exhaustedBudgets policy x g ≠ [] := by simp [exhaustedBudgets, hfull]
      simp [hrepair, hexhausted, hfull]
    · have hsame : exhaustedBudgets policy x g = exhaustedBudgets policy x 0 :=
        exhaustedBudgets_congr ⟨fun h => absurd h hfull, fun h => by omega⟩
      have hpos : 0 < policy.maxTotalAutoRepairsPerGeneration := by omega
      by_cases hextra : exhaustedBudgets policy x 0 = []
      · simp [hrepair, hsame, hextra, hpos, Nat.not_le.mp hfull]
      · simp [hrepair, hsame, hextra]
  · simp [hrepair]

/-- The action depends on the generation count through the repairable failures only. -/
theorem computeDispositionAction_fst_congr
    (h : repairableInBudget policy x = true → (g < policy.maxTotalAutoRepairsPerGeneration ↔
      g' < policy.maxTotalAutoRepairsPerGeneration)) :
    (computeDispositionAction policy x g).1 = (computeDispositionAction policy x g').1 := by
  have hsame : (computeDispositionAction policy x g).1 = .repair ↔
      (computeDispositionAction policy x g').1 = .repair := by
    simp only [computeDispositionAction_repair_iff]
    exact and_congr_right h
  simp only [computeDispositionAction] at hsame ⊢
  by_cases hbase : (evaluateDisposition policy x).1 = .repair
  · by_cases hg : exhaustedBudgets policy x g = [] <;>
      by_cases hg' : exhaustedBudgets policy x g' = [] <;> simp_all
  · simp [hbase]

/-- Only ambiguity and an authority error are reconciled. -/
theorem computeDispositionAction_reconcile_iff :
    (computeDispositionAction policy x g).1 = .reconcile ↔
      x.effectIsAmbiguous = true ∨ x.failureKind = .authorityError := by
  have hbase : (evaluateDisposition policy x).1 = .reconcile ↔
      x.effectIsAmbiguous = true ∨ x.failureKind = .authorityError := by
    unfold evaluateDisposition
    cases x.effectIsAmbiguous with
    | true => simp
    | false =>
      cases x.failureKind <;> simp
      repeat' split
      all_goals simp
  rw [← hbase]
  simp only [computeDispositionAction]
  split
  case isTrue h => simp [h.2]
  case isFalse => rfl

end Tiangong
