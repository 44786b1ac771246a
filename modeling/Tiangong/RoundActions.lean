import Tiangong.DecisionAgreement

/-!
# The actions of a round

A round that returns decides by the failures it finds and by the repairs on file before it. The
count matters through the generation budget alone.
-/
namespace Tiangong

open RepairStore List

/-- The failing entries of a readiness, each with what the policy sees of it. -/
def roundInputs (s : RepairStore) (plan : VerificationPlan) (readiness : VerificationReadiness) :
    List (Canon × DecisionInput) :=
  if readiness.verificationReady then []
  else (failingEntries readiness plan.entries).map fun (e, a) =>
    (e.planEntryId, s.decisionInput <| failureEvidenceOf plan readiness
      (s.listVerificationRecords plan.requestId plan.runId plan.generation)
      (fun id => (s.resolveVerificationSubject id).effectiveSubjectIdentity) 0 e a)

/-- The actions of a round whose dispositions are all new, from a given repair count. -/
def countedActions : List (Canon × DecisionInput) → ℕ → List (Canon × DispositionAction)
  | [], _ => []
  | (e, x) :: xs, count =>
    let action := (computeDispositionAction defaultPolicy x count).1
    (e, action) :: countedActions xs (if action = .repair then count + 1 else count)

/-- What a disposition decides for its entry. -/
def actionOf (d : VerificationDisposition) : Canon × DispositionAction := (d.planEntryId, d.action)

section Decided

variable {s t : RepairStore} {plan : VerificationPlan} {readiness : VerificationReadiness}
  {nowMs count onFile n : ℕ} {fes : List FailureEvidence} {ds : List VerificationDisposition}
  {available : Bool}

/-- Decisions do not depend on the time they are made at. -/
lemma map_decisionInput_of_rebuild (hready : readiness.verificationReady = false)
    (h : s.rebuildFailureEvidence plan readiness nowMs = .ok fes) :
    fes.map (fun fe => (fe.planEntryId, s.decisionInput fe)) = roundInputs s plan readiness := by
  obtain ⟨-, -, rfl⟩ := rebuild_eq_ok h
  rw [roundInputs, if_neg (by simp [hready]), map_map]
  rfl

def onFileAfter (s : RepairStore) (onFile : ℕ) (d : VerificationDisposition) : ℕ :=
  if (s.dispositions.find d.verificationDispositionId).isSome then onFile else countAfter onFile d

lemma forecast_cons {fe : FailureEvidence}
    (h : forecast false nowMs s available (fe :: fes) count onFile = .ok (ds, n)) :
    evidenceAdmitted nowMs s available fe = true ∧ ∃ ds',
      ds = roundDisposition nowMs s fe count :: ds' ∧
      forecast false nowMs s available fes
        (countAfter count (roundDisposition nowMs s fe count))
        (onFileAfter s onFile (roundDisposition nowMs s fe count)) = .ok (ds', n) := by
  have hreuse : reusableDisposition false fe nowMs s = .ok none := rfl
  simp only [forecast, hreuse] at h
  unfold onFileAfter
  split at h
  case isTrue => cases h
  case isFalse hadmitted =>
  refine ⟨by simpa using hadmitted, ?_⟩
  split at h
  case isTrue hfound =>
    rw [if_pos hfound]
    obtain ⟨⟨ds', n'⟩, hrest, ⟨⟩⟩ := map_eq_ok.mp h
    exact ⟨ds', rfl, hrest⟩
  case isFalse hfound =>
    rw [if_neg hfound]
    split at h
    · obtain ⟨⟨ds', n'⟩, hrest, ⟨⟩⟩ := map_eq_ok.mp h
      exact ⟨ds', rfl, hrest⟩
    · cases h

/-- A round that returns decides by the coordinator's count alone. -/
lemma forecast_actions (h : forecast false nowMs s available fes count onFile = .ok (ds, n)) :
    ds.map actionOf =
      countedActions (fes.map fun fe => (fe.planEntryId, s.decisionInput fe)) count := by
  induction fes generalizing count onFile ds n with
  | nil =>
    cases h
    rfl
  | cons fe fes ih =>
    obtain ⟨-, ds', rfl, hrest⟩ := forecast_cons h
    rw [map_cons, map_cons, countedActions, ih hrest]
    rfl

theorem forecast_admitted (h : forecast false nowMs s available fes count onFile = .ok (ds, n)) :
    ∀ fe ∈ fes, evidenceAdmitted nowMs s available fe = true := by
  induction fes generalizing count onFile ds n with
  | nil => simp
  | cons fe fes ih =>
    obtain ⟨hadmitted, ds', -, hrest⟩ := forecast_cons h
    exact forall_mem_cons.mpr ⟨hadmitted, ih hrest⟩

theorem forecast_not_refused (h : ∀ fe ∈ fes, evidenceAdmitted nowMs s available fe = true) :
    forecast false nowMs s available fes count onFile ≠ .error .refused := by
  induction fes generalizing count onFile with
  | nil =>
    intro hc
    cases hc
  | cons fe fes ih =>
    obtain ⟨hadmitted, hrest⟩ := forall_mem_cons.mp h
    have hreuse : reusableDisposition false fe nowMs s = .ok none := rfl
    simp only [forecast, hreuse, hadmitted, Bool.true_eq_false, if_false]
    split
    · simpa only [ne_eq, map_cons_eq_error] using ih hrest
    · split
      · simpa only [ne_eq, map_cons_eq_error] using ih hrest
      · intro hc
        cases hc

/-- Repairs on file are never taken back. -/
lemma forecast_onFile_le (h : forecast false nowMs s available fes count onFile = .ok (ds, n)) :
    onFile ≤ n := by
  induction fes generalizing count onFile ds n with
  | nil =>
    cases h
    exact le_rfl
  | cons fe fes ih =>
    obtain ⟨-, ds', -, hrest⟩ := forecast_cons h
    refine le_trans ?_ (ih hrest)
    unfold onFileAfter countAfter
    split
    · exact le_rfl
    · split <;> omega

/-- A round of new dispositions puts all its repairs on file. -/
lemma forecast_onFile_of_fresh
    (hfresh : ∀ d : VerificationDisposition, d.hasValidIdentity = true → d.decidedAtMs = nowMs →
      s.dispositions.find d.verificationDispositionId = none)
    (h : forecast false nowMs s available fes count onFile = .ok (ds, n)) :
    n = onFile + (ds.map actionOf).countP fun a => a.2 = .repair := by
  induction fes generalizing count onFile ds n with
  | nil =>
    cases h
    rfl
  | cons fe fes ih =>
    obtain ⟨-, ds', rfl, hrest⟩ := forecast_cons h
    have habsent := hfresh (roundDisposition nowMs s fe count) (dispositionOf_valid _ _ _ _ _) rfl
    rw [ih hrest, onFileAfter, habsent, map_cons, countP_cons]
    by_cases hrepair : (roundDisposition nowMs s fe count).action = .repair <;>
      simp [countAfter, actionOf, hrepair]
    omega

end Decided

/-! ## The generation budget -/

/-- The failures of a round that only the generation budget can keep from being repaired. -/
def repairableCount (xs : List (Canon × DecisionInput)) : ℕ :=
  xs.countP fun x => repairableInBudget defaultPolicy x.2

/-- The repairs a generation may have on file before a repair becomes a review. -/
abbrev generationBudget : ℕ := defaultPolicy.maxTotalAutoRepairsPerGeneration

section Budget

variable {xs : List (Canon × DecisionInput)} {c c' : ℕ}

/-- A round repairs what is repairable until the budget is spent. -/
lemma countP_countedActions (xs : List (Canon × DecisionInput)) (c : ℕ) :
    (countedActions xs c).countP (fun a => a.2 = .repair) =
      min (repairableCount xs) (generationBudget - c) := by
  induction xs generalizing c with
  | nil => simp [countedActions, repairableCount]
  | cons ex xs ih =>
    obtain ⟨e, x⟩ := ex
    have hrepair := @computeDispositionAction_repair_iff defaultPolicy x c
    simp only [countedActions, countP_cons, ih, repairableCount]
    by_cases hx : repairableInBudget defaultPolicy x = true <;>
      by_cases hc : c < generationBudget <;> simp [hx, hc, hrepair] <;> omega

/-- Two counts that leave the same room lead to the same actions. -/
lemma countedActions_of_room_eq (h : generationBudget - c = generationBudget - c') :
    countedActions xs c = countedActions xs c' := by
  induction xs generalizing c c' with
  | nil => rfl
  | cons ex xs ih =>
    obtain ⟨e, x⟩ := ex
    have haction : (computeDispositionAction defaultPolicy x c).1 =
        (computeDispositionAction defaultPolicy x c').1 :=
      computeDispositionAction_fst_congr fun _ => by
        change c < generationBudget ↔ c' < generationBudget
        omega
    simp only [countedActions, haction]
    split <;> rw [ih] <;> omega

/-- While the budget holds for all repairable failures, the count does not matter. -/
lemma countedActions_of_room (h : repairableCount xs ≤ generationBudget - c)
    (h' : repairableCount xs ≤ generationBudget - c') :
    countedActions xs c = countedActions xs c' := by
  induction xs generalizing c c' with
  | nil => rfl
  | cons ex xs ih =>
    obtain ⟨e, x⟩ := ex
    simp only [repairableCount, countP_cons] at h h'
    have haction : (computeDispositionAction defaultPolicy x c).1 =
        (computeDispositionAction defaultPolicy x c').1 := by
      refine computeDispositionAction_fst_congr fun hx => ?_
      change c < generationBudget ↔ c' < generationBudget
      simp only [hx, if_true] at h h'
      omega
    have hrepair := @computeDispositionAction_repair_iff defaultPolicy x c'
    simp only [countedActions, haction, hrepair]
    by_cases hx : repairableInBudget defaultPolicy x = true
    · simp only [hx, if_true] at h h'
      split <;> rw [ih] <;> simp only [repairableCount] <;> omega
    · simp only [hx] at h h' ⊢
      rw [if_neg (by simp), if_neg (by simp), ih] <;> simp only [repairableCount] <;> simpa using ‹_›

theorem countedActions_eq_iff : countedActions xs c = countedActions xs c' ↔
      min (repairableCount xs) (generationBudget - c) =
        min (repairableCount xs) (generationBudget - c') := by
  constructor
  · intro h
    rw [← countP_countedActions, ← countP_countedActions, h]
  · intro h
    by_cases hroom : generationBudget - c = generationBudget - c'
    · exact countedActions_of_room_eq hroom
    · exact countedActions_of_room (by omega) (by omega)

theorem countedActions_last_reconcile_iff :
    (∃ a, (countedActions xs c).getLast? = some a ∧ a.2 = .reconcile) ↔
      ∃ x, xs.getLast? = some x ∧ (x.2.effectIsAmbiguous = true ∨
        x.2.failureKind = .authorityError) := by
  induction xs generalizing c with
  | nil => simp [countedActions]
  | cons ex xs ih =>
    obtain ⟨e, x⟩ := ex
    cases xs with
    | nil =>
      simp only [countedActions, List.getLast?_singleton, Option.some.injEq, exists_eq_left',
        computeDispositionAction_reconcile_iff]
    | cons ex' xs =>
      have hne : ∀ c, countedActions (ex' :: xs) c ≠ [] := fun c => by simp [countedActions]
      rw [countedActions, List.getLast?_cons_of_ne_nil (hne _), ih, List.getLast?_cons_cons]

end Budget

def repairsOnFile (plan : VerificationPlan) (t : RepairStore) : ℕ :=
  t.generationRepairCount plan.requestId plan.runId plan.generation

section Round

variable {t : RepairStore} {plan : VerificationPlan} {readiness : VerificationReadiness} {nowMs : ℕ}
  {actions : List (Canon × DispositionAction)}

/-- A round that returns follows its forecast. -/
theorem processReadiness_forecast {ds : List VerificationDisposition}
    {fes : List FailureEvidence} (hready : readiness.verificationReady = false)
    (hreb : t.rebuildFailureEvidence plan readiness nowMs = .ok fes)
    (h : ((processReadiness defaultPolicy plan readiness nowMs).on t).1 = .ok ds) :
    forecast false nowMs t (t.sourcesOnFile plan readiness) fes (repairsOnFile plan t)
        (repairsOnFile plan t) =
      .ok (ds, repairsOnFile plan
        ((processReadiness defaultPolicy plan readiness nowMs).on t).2) := by
  have hful : Fulfils t plan.lineage (forecast false nowMs t (t.sourcesOnFile plan readiness) fes
      (repairsOnFile plan t) (repairsOnFile plan t))
      ((processReadiness defaultPolicy plan readiness nowMs).on t) :=
    processReadiness_fulfils hready hreb
  rcases hon : (processReadiness defaultPolicy plan readiness nowMs).on t with ⟨e | ds', u⟩
  · rw [hon] at h
    cases h
  · rw [hon] at h hful
    cases h
    cases hF : forecast false nowMs t (t.sourcesOnFile plan readiness) fes
        (repairsOnFile plan t) (repairsOnFile plan t) with
    | error stop =>
      rw [hF] at hful
      cases stop <;> exact hful.elim
    | ok pair =>
      obtain ⟨ds', m⟩ := pair
      rw [hF] at hful
      obtain ⟨rfl, -, rfl⟩ := hful
      rfl

theorem processReadiness_of_returns
    (h : ((processReadiness defaultPolicy plan readiness nowMs).on t).1.map (·.map actionOf) =
      .ok actions) :
    actions = countedActions (roundInputs t plan readiness) (repairsOnFile plan t) ∧
      repairsOnFile plan t ≤
        repairsOnFile plan ((processReadiness defaultPolicy plan readiness nowMs).on t).2 ∧
      ((∀ d : VerificationDisposition, d.hasValidIdentity = true → d.decidedAtMs = nowMs →
          t.dispositions.find d.verificationDispositionId = none) →
        repairsOnFile plan ((processReadiness defaultPolicy plan readiness nowMs).on t).2 =
          repairsOnFile plan t + min (repairableCount (roundInputs t plan readiness))
            (generationBudget - repairsOnFile plan t)) := by
  obtain ⟨ds, hds, rfl⟩ := map_eq_ok.mp h
  cases hready : readiness.verificationReady with
  | true =>
    have hon : (processReadiness defaultPolicy plan readiness nowMs).on t = (.ok [], t) := by
      rw [processReadiness, if_pos hready]
      rfl
    rw [hon] at hds ⊢
    cases hds
    simp [roundInputs, hready, countedActions, repairableCount]
  | false =>
    cases hreb : t.rebuildFailureEvidence plan readiness nowMs with
    | error e =>
      rw [processReadiness_of_builder_error hready hreb] at hds
      cases hds
    | ok fes =>
      have hF := processReadiness_forecast hready hreb hds
      have hactions := forecast_actions hF
      rw [map_decisionInput_of_rebuild hready hreb] at hactions
      refine ⟨hactions, forecast_onFile_le hF, fun hfresh => ?_⟩
      rw [forecast_onFile_of_fresh hfresh hF, hactions, countP_countedActions]

end Round

end Tiangong
