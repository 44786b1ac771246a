import Tiangong.RepairLoop
import Tiangong.RoundActions

/-!
# Runs that crash before their first dispatch

A run that stops between its decisions and its first dispatch leaves evidence, dispositions and
perhaps a directive behind. The next run decides on the same failures at a new time. Every budget
but one is counted on executed attempts; the generation budget is counted on the dispositions,
and each run adds its repairs to it.
-/
namespace Tiangong

open RepairStore List Call

/-- Where a run stops: with its dispositions written, or with its first directive as well. -/
inductive CrashPoint where
  | beforeDirective | afterDirective
  deriving DecidableEq, Repr

/-- The directive of a repair, issued or found pending. -/
def prepareDirective (plan : VerificationPlan) (nowMs : ℕ) (d : VerificationDisposition) :
    Call RepairError RepairStore Unit := do
  let evidence ← query (findPersistedFailureEvidence d)
  let _ ← directiveForDisposition d evidence plan nowMs
  pure ()

/-- A run of the repair loop up to its first dispatch. -/
def crashedRun (plan : VerificationPlan) (readiness : VerificationReadiness)
    (dispatchable : VerificationDisposition → Bool) (point : CrashPoint) (nowMs : ℕ) :
    Call RepairError RepairStore Unit := do
  let ds ← processReadiness defaultPolicy plan readiness nowMs
  match point, ds.filter fun d => d.action = .repair && dispatchable d with
  | .afterDirective, d :: _ => prepareDirective plan nowMs d
  | _, _ => pure ()

/-! ## What a run writes -/

section Written

variable {s t : RepairStore} {readinessSha256 : Canon} {fresh : VerificationDisposition → Prop}

/-- Since `s` only evidence of one readiness, `fresh` dispositions and directives were added. -/
structure Written (s : RepairStore) (readinessSha256 : Canon)
    (fresh : VerificationDisposition → Prop) (t : RepairStore) : Prop where
  framed : Framed s t
  evidence_kept : ∀ row ∈ s.failureEvidence.rows, row ∈ t.failureEvidence.rows
  evidence_new : ∀ row ∈ t.failureEvidence.rows,
    row ∈ s.failureEvidence.rows ∨ row.1.readinessSha256 = readinessSha256
  dispositions_new : ∀ row ∈ t.dispositions.rows, row ∈ s.dispositions.rows ∨ fresh row.1

theorem Written.refl (s : RepairStore) : Written s readinessSha256 fresh s :=
  ⟨.refl s, fun _ h => h, fun _ h => .inl h, fun _ h => .inl h⟩

theorem Written.mono {fresh' : VerificationDisposition → Prop}
    (h : Written s readinessSha256 fresh t) (hfresh : ∀ d, fresh d → fresh' d) :
    Written s readinessSha256 fresh' t :=
  ⟨h.framed, h.evidence_kept, h.evidence_new,
    fun row hrow => (h.dispositions_new row hrow).imp_right (hfresh row.1)⟩

variable {u : RepairStore}

theorem Written.trans (h : Written s readinessSha256 fresh t)
    (h' : Written t readinessSha256 fresh u) : Written s readinessSha256 fresh u where
  framed := h.framed.trans h'.framed
  evidence_kept row hrow := h'.evidence_kept row (h.evidence_kept row hrow)
  evidence_new row hrow := (h'.evidence_new row hrow).elim (h.evidence_new row) .inr
  dispositions_new row hrow := (h'.dispositions_new row hrow).elim (h.dispositions_new row) .inr

variable {fe : FailureEvidence} {nowMs : ℕ}

theorem Written.putEvidence {isNew : Bool}
    (h : Written s readinessSha256 fresh t) (hfe : fe.readinessSha256 = readinessSha256)
    (hput : putVerificationFailureEvidence fe nowMs t = .ok (isNew, u)) :
    Written s readinessSha256 fresh u := by
  unfold putVerificationFailureEvidence at hput
  obtain ⟨row, rfl, -, ⟨-, rfl, -⟩ | ⟨-, -, rows, hins, rfl⟩⟩ := putSealed_cases hput
  · exact h
  · have hrows : rows.rows = t.failureEvidence.rows ++ [row] := hins.rows
    refine ⟨h.framed.withEvidence rows, fun r hr => ?_, fun r hr => ?_, h.dispositions_new⟩
    · change r ∈ rows.rows
      rw [hrows]
      exact mem_append_left _ (h.evidence_kept r hr)
    · change r ∈ rows.rows at hr
      rw [hrows, mem_append, mem_singleton] at hr
      rcases hr with hr | rfl
      · exact h.evidence_new r hr
      · exact .inr hfe

variable {d : VerificationDisposition}

lemma Written.putDisposition {isNew : Bool} (h : Written s readinessSha256 fresh t) (hd : fresh d)
    (hput : putVerificationDisposition d nowMs t = .ok (isNew, u)) :
    Written s readinessSha256 fresh u := by
  unfold putVerificationDisposition at hput
  obtain ⟨row, rfl, -, ⟨-, rfl, -⟩ | ⟨-, -, rows, hins, rfl⟩⟩ := putSealed_cases hput
  · exact h
  · have hrows : rows.rows = t.dispositions.rows ++ [row] := hins.rows
    refine ⟨h.framed.withDispositions rows, h.evidence_kept, h.evidence_new, fun r hr => ?_⟩
    change r ∈ rows.rows at hr
    rw [hrows, mem_append, mem_singleton] at hr
    rcases hr with hr | rfl
    · exact h.dispositions_new r hr
    · exact .inr hd

lemma processFailures_written {fes : List FailureEvidence} {count : ℕ}
    (hfes : ∀ fe ∈ fes, fe.readinessSha256 = readinessSha256)
    (hfresh : ∀ d : VerificationDisposition, d.decidedAtMs = nowMs → fresh d)
    (h : Written s readinessSha256 fresh t) :
    Written s readinessSha256 fresh
      ((processFailures defaultPolicy false nowMs fes count).on t).2 := by
  induction fes generalizing t count with
  | nil => exact h
  | cons fe fes ih =>
    have hrest := fun count t (ht : Written s readinessSha256 fresh t) =>
      @ih t count (fun f hf => hfes f (mem_cons_of_mem _ hf)) ht
    unfold processFailures
    refine Call.bind_preserves (fun _ ht => ht) (fun reused t ht => ?_) h
    rcases reused with _ | d
    · refine Call.bind_preserves (fun t ht => ?_) (fun d t ht => ?_) ht
      · unfold processFailure Call.read
        change Written s readinessSha256 fresh (Call.on (Call.transaction _ >>= fun _ =>
          Call.transaction (putVerificationDisposition
            (dispositionOf defaultPolicy fe (t.decisionInput fe) count nowMs) nowMs) >>=
              fun _ => pure _) t).2
        refine bind_preserves (fun t ht => ?_) (fun _ t ht => ?_) ht
        · exact transaction_preserves
            (fun _ _ _ ht hput => ht.putEvidence (hfes fe mem_cons_self) hput) ht
        · refine bind_preserves (fun t ht => ?_) (fun _ t ht => ht) ht
          exact transaction_preserves
            (fun _ _ _ ht hput => ht.putDisposition (hfresh _ rfl) hput) ht
      · refine bind_preserves (fun t ht => hrest _ t ht) (fun _ t ht => ?_) ht
        exact ht
    · refine bind_preserves (fun t ht => hrest _ t ht) (fun _ t ht => ?_) ht
      exact ht

lemma processReadiness_written {plan : VerificationPlan} {readiness : VerificationReadiness} (hsha : readiness.readinessSha256 = readinessSha256)
    (hfresh : ∀ d : VerificationDisposition, d.decidedAtMs = nowMs → fresh d)
    (h : Written s readinessSha256 fresh t) :
    Written s readinessSha256 fresh
      ((processReadiness defaultPolicy plan readiness nowMs).on t).2 := by
  unfold processReadiness
  split
  · exact h
  · cases hreb : t.rebuildFailureEvidence plan readiness nowMs with
    | error e =>
      rw [on_bind, on_query, hreb]
      exact h
    | ok fes =>
      rw [on_bind, on_query, hreb]
      simp only
      rw [on_bind_of_ok (on_read _ _)]
      exact processFailures_written (fun fe hfe => by rw [(mem_rebuild hreb hfe).2.2.2.2.2.1, hsha])
        hfresh h

/-- Issuing or finding a directive writes directives only. -/
lemma directiveForDisposition_preserves {P : RepairStore → Prop} {plan : VerificationPlan}
    (hP : ∀ t rows, P t → P (t.withDirectives rows)) (h : P t) :
    P ((directiveForDisposition d fe plan nowMs).on t).2 := by
  unfold directiveForDisposition
  refine bind_preserves (fun _ ht => ht) (fun pending t ht => ?_) h
  rcases pending with _ | directive
  · simp only
    unfold issueRepairDirective
    split
    · exact ht
    · refine bind_preserves (fun _ ht => ht) (fun _ t ht => ?_) ht
      refine bind_preserves (fun _ ht => ht) (fun _ t ht => ?_) ht
      refine bind_preserves (fun t ht => ?_) (fun _ t ht => ?_) ht
      · refine transaction_preserves (fun t isNew u ht hput => ?_) ht
        unfold putRepairDirective at hput
        obtain ⟨row, -, -, ⟨-, rfl, -⟩ | ⟨-, -, rows, -, rfl⟩⟩ := putSealed_cases hput
        · exact ht
        · exact hP t rows ht
      · exact ht
  · exact ht

lemma prepareDirective_preserves {P : RepairStore → Prop} {plan : VerificationPlan} (hP : ∀ t rows, P t → P (t.withDirectives rows)) (h : P t) :
    P ((prepareDirective plan nowMs d).on t).2 := by
  refine bind_preserves (fun _ ht => ht) (fun _ t ht => ?_) h
  refine bind_preserves (fun t ht => directiveForDisposition_preserves hP ht)
    (fun _ t ht => ?_) ht
  exact ht

/-- After its round a run writes directives only. -/
lemma crashedRun_preserves {P : RepairStore → Prop} {plan : VerificationPlan}
    {readiness : VerificationReadiness} {dispatchable : VerificationDisposition → Bool}
    {point : CrashPoint} (hP : ∀ t rows, P t → P (t.withDirectives rows))
    (h : P ((processReadiness defaultPolicy plan readiness nowMs).on t).2) :
    P ((crashedRun plan readiness dispatchable point nowMs).on t).2 := by
  unfold crashedRun
  rw [on_bind]
  rcases hr : (processReadiness defaultPolicy plan readiness nowMs).on t with ⟨e | ds, u⟩
  · simpa [hr] using h
  · rw [hr] at h
    simp only
    split
    · exact prepareDirective_preserves hP h
    · exact h

lemma crashedRun_written {plan : VerificationPlan} {readiness : VerificationReadiness}
    {dispatchable : VerificationDisposition → Bool} {point : CrashPoint}
    (hsha : readiness.readinessSha256 = readinessSha256)
    (hfresh : ∀ d : VerificationDisposition, d.decidedAtMs = nowMs → fresh d)
    (h : Written s readinessSha256 fresh t) :
    Written s readinessSha256 fresh
      ((crashedRun plan readiness dispatchable point nowMs).on t).2 :=
  crashedRun_preserves
    (fun _ rows ht => ⟨ht.framed.withDirectives rows, ht.evidence_kept, ht.evidence_new,
      ht.dispositions_new⟩)
    (processReadiness_written hsha hfresh h)

/-! ## What a later run decides -/

lemma mem_listVerificationFailureEvidence {e : Canon} {f : FailureEvidence} :
    f ∈ t.listVerificationFailureEvidence e ↔
      (∃ row ∈ t.failureEvidence.rows, row.1 = f) ∧ f.planEntryId = e := by
  simp [listVerificationFailureEvidence]

/-- Evidence of the same readiness is not a new observation, so a decision on that readiness is
based on the same counts as before. -/
theorem Written.decisionInput (h : Written s readinessSha256 fresh t)
    (hfe : fe.readinessSha256 = readinessSha256) : t.decisionInput fe = s.decisionInput fe := by
  have hset : ∀ r, r ∈ insert fe.readinessSha256
        (((t.listVerificationFailureEvidence fe.planEntryId).filter fun f =>
          f.failureSignatureSha256 = fe.failureSignatureSha256).map (·.readinessSha256)).toFinset ↔
      r ∈ insert fe.readinessSha256
        (((s.listVerificationFailureEvidence fe.planEntryId).filter fun f =>
          f.failureSignatureSha256 = fe.failureSignatureSha256).map
            (·.readinessSha256)).toFinset := by
    intro r
    simp only [Finset.mem_insert, mem_toFinset, mem_map, mem_filter,
      mem_listVerificationFailureEvidence, decide_eq_true_eq]
    constructor
    · rintro (rfl | ⟨f, ⟨⟨⟨row, hrow, rfl⟩, he⟩, hsig⟩, rfl⟩)
      · exact .inl rfl
      · rcases h.evidence_new row hrow with hold | hnew
        · exact .inr ⟨_, ⟨⟨⟨row, hold, rfl⟩, he⟩, hsig⟩, rfl⟩
        · exact .inl (hnew.trans hfe.symm)
    · rintro (rfl | ⟨f, ⟨⟨⟨row, hrow, rfl⟩, he⟩, hsig⟩, rfl⟩)
      · exact .inl rfl
      · exact .inr ⟨_, ⟨⟨⟨row, h.evidence_kept row hrow, rfl⟩, he⟩, hsig⟩, rfl⟩
  simp only [RepairStore.decisionInput, Finset.ext hset, h.framed.listRepairAttempts,
    h.framed.resolveVerificationSubject, h.framed.effectSubjectIsAmbiguous,
    h.framed.hasAmbiguousAttempt]

theorem Written.roundInputs {plan : VerificationPlan} {readiness : VerificationReadiness}
    (h : Written s readiness.readinessSha256 fresh t) :
    Tiangong.roundInputs t plan readiness = Tiangong.roundInputs s plan readiness := by
  have hrecords : t.listVerificationRecords plan.requestId plan.runId plan.generation =
      s.listVerificationRecords plan.requestId plan.runId plan.generation := by
    rw [h.framed]
    rfl
  simp only [Tiangong.roundInputs, hrecords, h.framed.resolveVerificationSubject]
  split
  · rfl
  · refine map_congr_left fun ea _ => ?_
    rw [h.decisionInput rfl]

end Written

/-! ## The loop up to its first dispatch -/

section Crash

variable {ξ : Type} {L : RepairLoop ξ} {w : RepairWorld ξ} {crash : RepairError}
  (hcrash : ∀ directive p, (L.dispatch directive).on p = (.error crash, p))
  (hunbound : w.store.repairExecutionBindings.table.rows = [])

include hcrash hunbound

end Crash

/-! ## The generation budget over several runs -/

section Reruns

variable (plan : VerificationPlan) (readiness : VerificationReadiness)
  (dispatchable : VerificationDisposition → Bool) (points : ℕ → CrashPoint) (times : ℕ → ℕ)
  (s : RepairStore)

/-- The store after the first `n` crashed runs. -/
def storeAfterRuns : ℕ → RepairStore
  | 0 => s
  | n + 1 => ((crashedRun plan readiness dispatchable (points n) (times n)).on
      (storeAfterRuns n)).2

/-- The actions the next run derives after `n` crashed ones. -/
def actionsAfterRuns (n : ℕ) : Except RepairError (List (Canon × DispositionAction)) :=
  ((processReadiness defaultPolicy plan readiness (times n)).on
    (storeAfterRuns plan readiness dispatchable points times s n)).1.map (·.map actionOf)

variable {plan readiness dispatchable points times s} {n : ℕ}

lemma storeAfterRuns_written :
    Written s readiness.readinessSha256 (fun d => ∃ j < n, d.decidedAtMs = times j)
      (storeAfterRuns plan readiness dispatchable points times s n) := by
  induction n with
  | zero => exact .refl s
  | succ n ih =>
    have hstep : Written (storeAfterRuns plan readiness dispatchable points times s n)
        readiness.readinessSha256 (fun d => ∃ j < n + 1, d.decidedAtMs = times j)
        (storeAfterRuns plan readiness dispatchable points times s (n + 1)) :=
      crashedRun_written rfl (fun d hd => ⟨n, Nat.lt_succ_self n, hd⟩) (.refl _)
    exact (ih.mono fun d ⟨j, hj, hd⟩ => ⟨j, Nat.lt_succ_of_lt hj, hd⟩).trans hstep

section Returns

variable {k : ℕ} (hreturns : ∀ k ≤ n, ∃ actions,
  actionsAfterRuns plan readiness dispatchable points times s k = .ok actions)

include hreturns

/-- What a run decides depends on the runs before it only through the repairs on file. -/
lemma actionsAfterRuns_eq (hk : k ≤ n) :
    actionsAfterRuns plan readiness dispatchable points times s k =
      .ok (countedActions (roundInputs s plan readiness)
        (repairsOnFile plan (storeAfterRuns plan readiness dispatchable points times s k))) := by
  obtain ⟨actions, hactions⟩ := hreturns k hk
  rw [hactions, (processReadiness_of_returns hactions).1, storeAfterRuns_written.roundInputs]

lemma repairsOnFile_le (hk : k ≤ n) : repairsOnFile plan s ≤
      repairsOnFile plan (storeAfterRuns plan readiness dispatchable points times s k) := by
  induction k with
  | zero => exact le_rfl
  | succ k ih =>
    obtain ⟨actions, hactions⟩ := hreturns k (by omega)
    refine (ih (by omega)).trans ?_
    have hround := (processReadiness_of_returns hactions).2.1
    exact crashedRun_preserves
      (P := fun u => repairsOnFile plan (storeAfterRuns plan readiness dispatchable points times s k)
        ≤ repairsOnFile plan u) (fun _ _ h => h) hround

/-- Runs at new, different times fill the budget step by step. -/
lemma repairsOnFile_eq (hnew : ∀ k ≤ n, ∀ row ∈ s.dispositions.rows, row.1.decidedAtMs ≠ times k)
    (hdiff : ∀ j k, j < k → k ≤ n → times j ≠ times k) (hk : k ≤ n) :
    repairsOnFile plan (storeAfterRuns plan readiness dispatchable points times s k) =
      repairsOnFile plan s + min (k * repairableCount (roundInputs s plan readiness))
        (generationBudget - repairsOnFile plan s) := by
  induction k with
  | zero => simp [storeAfterRuns]
  | succ k ih =>
    have hwritten : Written s readiness.readinessSha256 (fun d => ∃ j < k, d.decidedAtMs = times j)
        (storeAfterRuns plan readiness dispatchable points times s k) := storeAfterRuns_written
    obtain ⟨actions, hactions⟩ := hreturns k (by omega)
    have hfresh : ∀ d : VerificationDisposition, d.hasValidIdentity = true →
        d.decidedAtMs = times k →
        (storeAfterRuns plan readiness dispatchable points times s k).dispositions.find
          d.verificationDispositionId = none := by
      intro d hvalid hd
      refine Table.find_eq_none.mpr fun row hrow hid => ?_
      have hrow_eq : row.1 = d := VerificationDisposition.eq_of_id row.2 hvalid hid
      rcases hwritten.dispositions_new row hrow with hold | ⟨j, hj, hat⟩
      · exact hnew k (by omega) row hold (by rw [hrow_eq, hd])
      · exact hdiff j k hj (by omega) (by rw [← hat, hrow_eq, hd])
    have hround := (processReadiness_of_returns hactions).2.2 hfresh
    have hrun : repairsOnFile plan (storeAfterRuns plan readiness dispatchable points times s (k + 1)) =
        _ := crashedRun_preserves (P := fun u => repairsOnFile plan u = _) (fun _ _ h => h) hround
    rw [hwritten.roundInputs] at hrun
    rw [hrun, ih (by omega), Nat.succ_mul]
    omega

/-- **Crashed runs and the budget.** Run `n + 1` decides as run 1 did exactly when the runs before
left no repair on file, when nothing failing is repairable, when the generation budget was spent
before run 1, or when it has room for all repairable failures once more. At new, different times
each run files its repairs again, so the budget must hold all of them `n + 1` times. -/
theorem crashedRuns_decide_alike_iff :
    (actionsAfterRuns plan readiness dispatchable points times s n =
        actionsAfterRuns plan readiness dispatchable points times s 0 ↔
      repairsOnFile plan (storeAfterRuns plan readiness dispatchable points times s n) =
          repairsOnFile plan s ∨
        repairableCount (roundInputs s plan readiness) = 0 ∨
        generationBudget ≤ repairsOnFile plan s ∨
        repairsOnFile plan (storeAfterRuns plan readiness dispatchable points times s n) +
          repairableCount (roundInputs s plan readiness) ≤ generationBudget) ∧
    ((∀ k ≤ n, ∀ row ∈ s.dispositions.rows, row.1.decidedAtMs ≠ times k) →
      (∀ j k, j < k → k ≤ n → times j ≠ times k) →
      (actionsAfterRuns plan readiness dispatchable points times s n =
          actionsAfterRuns plan readiness dispatchable points times s 0 ↔
        n * repairableCount (roundInputs s plan readiness) = 0 ∨
          generationBudget ≤ repairsOnFile plan s ∨
          repairsOnFile plan s + (n + 1) * repairableCount (roundInputs s plan readiness) ≤
            generationBudget)) := by
  have hle := repairsOnFile_le hreturns le_rfl
  have hiff : actionsAfterRuns plan readiness dispatchable points times s n =
      actionsAfterRuns plan readiness dispatchable points times s 0 ↔
      min (repairableCount (roundInputs s plan readiness)) (generationBudget - repairsOnFile plan
        (storeAfterRuns plan readiness dispatchable points times s n)) =
      min (repairableCount (roundInputs s plan readiness))
        (generationBudget - repairsOnFile plan s) := by
    rw [actionsAfterRuns_eq hreturns le_rfl, actionsAfterRuns_eq hreturns (Nat.zero_le n),
      Except.ok.injEq, countedActions_eq_iff]
    rfl
  refine ⟨?_, fun hnew hdiff => ?_⟩
  · rw [hiff]
    omega
  · rw [hiff, repairsOnFile_eq hreturns hnew hdiff le_rfl, Nat.succ_mul]
    generalize repairableCount (roundInputs s plan readiness) = perRun
    rcases Nat.eq_zero_or_pos perRun with rfl | hpos
    · simp
    · have hadded : n * perRun = 0 ∨ perRun ≤ n * perRun :=
        (Nat.eq_zero_or_pos n).imp (fun hn => by simp [hn]) (Nat.le_mul_of_pos_left perRun)
      generalize n * perRun = added at hadded ⊢
      omega

end Returns

end Reruns

/-! ## Two runs on three empty artifacts -/

namespace Sample

/-- Run `k` starts at a time of its own and stops with its first directive written. -/
def crashedActions (k : ℕ) : Except RepairError (List (Canon × DispositionAction)) :=
  actionsAfterRuns plan readiness (fun _ => true) (fun _ => .afterDirective)
    (fun k => 100 + 100 * k) store k

lemma crashedActions_zero :
    crashedActions 0 = .ok (plan.entries.map fun e => (e.planEntryId, .repair)) := by
  decide +kernel

lemma crashedActions_one : crashedActions 1 = .ok [((entry "a").planEntryId, .repair),
      ((entry "b").planEntryId, .review), ((entry "c").planEntryId, .review)] := by
  decide +kernel

lemma crashedActions_returns : ∀ k ≤ 1, ∃ actions, crashedActions k = .ok actions
  | 0, _ => ⟨_, crashedActions_zero⟩
  | 1, _ => ⟨_, crashedActions_one⟩

end Sample

theorem crashedRuns_decide_alike_sample : Sample.crashedActions 1 ≠ Sample.crashedActions 0 := by
  have hnew : ∀ k ≤ 1, ∀ row ∈ Sample.store.dispositions.rows,
      row.1.decidedAtMs ≠ 100 + 100 * k := by
    intro k _ row hrow
    cases hrow
  have hiff := (crashedRuns_decide_alike_iff Sample.crashedActions_returns).2 hnew (by omega)
  refine fun h => absurd (hiff.mp h) ?_
  decide +kernel

/-- Three repairs are decided and the run stops; no attempt was made, and the next run turns two
of them into reviews. -/
theorem crashedRun_burns_budget :
    Sample.crashedActions 0 = .ok (Sample.plan.entries.map fun e => (e.planEntryId, .repair)) ∧
      Sample.crashedActions 1 = .ok [((Sample.entry "a").planEntryId, .repair),
        ((Sample.entry "b").planEntryId, .review), ((Sample.entry "c").planEntryId, .review)] ∧
      (storeAfterRuns Sample.plan Sample.readiness (fun _ => true) (fun _ => .afterDirective)
        (fun k => 100 + 100 * k) Sample.store 1).repairAttempts.rows = [] := by
  refine ⟨Sample.crashedActions_zero, Sample.crashedActions_one, ?_⟩
  decide +kernel

end Tiangong
