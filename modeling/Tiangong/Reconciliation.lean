import Tiangong.EffectSteps

/-!
# The first decisive verdict of an attempt

Verdicts on an attempt arrive from adapters and from the restart recovery. A decisive verdict
settles the attempt, except that a late APPLIED after a proof of non-application is recorded as a
second verdict besides the contradiction.
-/
namespace Tiangong

def EffectOp.reconciles : EffectOp → Bool
  | .recordEffectReconciliation .. | .recoverStartedAttempts .. | .continueEffectAfterPna .. => true
  | _ => false

namespace EffectStore

/-- The attempt states that express a decisive verdict. -/
def conclusionStates : Verdict → List AttemptState
  | .applied => [.reconciled]
  | .provenNotApplied => [.reconcileRequired, .fenced]
  | .inconclusive => []

/-- The decisive verdict `v` is the recorded one, and the attempt row expresses it. -/
structure Concluded (s : EffectStore) (effectId : String) (attempt : ℕ) (v : Verdict) : Prop where
  verdict : s.latestEffectVerdict effectId attempt = some v
  state : ∃ row, s.getEffectAttempt effectId attempt = some row ∧ row.state ∈ conclusionStates v

/-- No decisive verdict yet, or one that the attempt row expresses. -/
def Settled (s : EffectStore) (effectId : String) (attempt : ℕ) : Prop :=
  ∀ v, v ≠ .inconclusive → s.latestEffectVerdict effectId attempt = some v →
    s.Concluded effectId attempt v

def lateApplied (s : EffectStore) (effectId : String) (attempt : ℕ) : EffectOp → Prop
  | .recordEffectReconciliation id n verdict _ _ =>
    (id, n) = (effectId, attempt) ∧ verdict = .applied ∧
      s.latestEffectVerdict effectId attempt = some .provenNotApplied
  | _ => False

variable {s s' : EffectStore} {effectId : String} {attempt : ℕ} {v : Verdict}

lemma latestEffectVerdict_withFact (s : EffectStore) (f : EffectFact) (effectId : String)
    (attempt : ℕ) :
    (s.withFact f).latestEffectVerdict effectId attempt =
      if f.key = (effectId, attempt) ∧ f.factKind = .reconciliation ∧ f.verdict.isSome then
        f.verdict
      else s.latestEffectVerdict effectId attempt := by
  by_cases h : f.key = (effectId, attempt) ∧ f.factKind = .reconciliation ∧ f.verdict.isSome
  · rw [if_pos h]
    simp only [latestEffectVerdict, withFact]
    rw [List.find?_cons_of_pos (by simpa using h)]
    rfl
  · rw [if_neg h]
    simp only [latestEffectVerdict, withFact]
    rw [List.find?_cons_of_neg (by simpa using h)]

@[simp] theorem latestEffectVerdict_withAttempts (s : EffectStore)
    (attempts : Table EffectAttempt.key) (effectId : String) (attempt : ℕ) :
    (s.withAttempts attempts).latestEffectVerdict effectId attempt =
      s.latestEffectVerdict effectId attempt := rfl

/-- What a step must leave alone to leave a conclusion alone. -/
theorem Concluded.of_same (hs : s.Concluded effectId attempt v)
    (hverdict : s'.latestEffectVerdict effectId attempt = s.latestEffectVerdict effectId attempt)
    (hattempt : ∀ row, s.getEffectAttempt effectId attempt = some row →
      s'.getEffectAttempt effectId attempt = some row) : s'.Concluded effectId attempt v := by
  obtain ⟨row, hrow, hstate⟩ := hs.state
  exact ⟨hverdict.trans hs.verdict, row, hattempt row hrow, hstate⟩

lemma conclusionStates_ne_started {state : AttemptState} (h : state ∈ conclusionStates v) :
    state ≠ .sideEffectStarted := by
  rintro rfl
  cases v <;> simp [conclusionStates] at h

lemma attemptState_mem_conclusionStates (h : v ≠ .inconclusive) :
    v.attemptState ∈ conclusionStates v := by
  cases v <;> simp_all [conclusionStates, Verdict.attemptState]

section Record

variable {id : String} {n observedAtMs : ℕ} {verdict : Verdict} {evidence : Canon}
  {reply : ReconciliationReply}

lemma record_verdict
    (h : recordEffectReconciliation id n verdict evidence observedAtMs s = .ok (reply, s')) :
    s'.latestEffectVerdict effectId attempt = if (id, n) = (effectId, attempt) then some verdict
      else s.latestEffectVerdict effectId attempt := by
  obtain ⟨rfl, hsame, -⟩ | ⟨row, s₁, -, hs₁, rfl⟩ := recordEffectReconciliation_cases h
  · split
    case isTrue heq =>
      cases heq
      exact hsame
    case isFalse => rfl
  · have hfirst : s₁.latestEffectVerdict effectId attempt =
        s.latestEffectVerdict effectId attempt := by
      rcases hs₁ with ⟨rfl, -⟩ | ⟨rfl, -⟩
      · rfl
      · rw [latestEffectVerdict_withFact, if_neg (by simp [nextFact])]
    rw [latestEffectVerdict_withAttempts, latestEffectVerdict_withFact, hfirst]
    simp [nextFact, EffectFact.key]

theorem record_attempt
    (h : recordEffectReconciliation id n verdict evidence observedAtMs s = .ok (reply, s')) :
    s' = s ∨ s'.getEffectAttempt effectId attempt =
      (s.getEffectAttempt effectId attempt).map fun row =>
        if (id, n) = (effectId, attempt) then { row with state := verdict.attemptState }
        else row := by
  obtain ⟨rfl, -⟩ | ⟨row, s₁, -, -, rfl⟩ := recordEffectReconciliation_cases h
  · exact .inl rfl
  · right
    simp only [getEffectAttempt, withAttempts]
    rw [Table.find_update]
    cases hrow : s.effectAttempts.find (effectId, attempt) with
    | none => rfl
    | some row =>
      have hkey : row.key = (effectId, attempt) := Table.key_of_find hrow
      simp only [Option.map_some, hkey, eq_comm (a := (effectId, attempt)), decide_eq_true_eq]

/-- A freshly recorded decisive verdict is the conclusion of its attempt. -/
lemma record_concluded (hverdict : verdict ≠ .inconclusive)
    (h : recordEffectReconciliation id n verdict evidence observedAtMs s = .ok (reply, s')) :
    s' = s ∨ s'.Concluded id n verdict := by
  rcases @record_attempt s s' id n id n _ _ _ _ h with rfl | hattempt
  · exact .inl rfl
  · obtain ⟨rfl, -⟩ | ⟨row, s₁, hrow, -, -⟩ := recordEffectReconciliation_cases h
    · exact .inl rfl
    · refine .inr ⟨by simp [record_verdict h], ?_⟩
      rw [hattempt, hrow]
      exact ⟨_, rfl, by simpa using attemptState_mem_conclusionStates hverdict⟩

/-- Recording a verdict on another attempt leaves the conclusion of this one alone. -/
theorem record_other (hother : (id, n) ≠ (effectId, attempt))
    (h : recordEffectReconciliation id n verdict evidence observedAtMs s = .ok (reply, s')) :
    s'.latestEffectVerdict effectId attempt = s.latestEffectVerdict effectId attempt ∧
      s'.getEffectAttempt effectId attempt = s.getEffectAttempt effectId attempt := by
  refine ⟨by rw [record_verdict h, if_neg hother], ?_⟩
  rcases record_attempt h with rfl | hattempt
  · rfl
  · rw [hattempt]
    cases s.getEffectAttempt effectId attempt <;> simp [hother]

/-- A concluded attempt is not judged again, unless APPLIED arrives after PROVEN_NOT_APPLIED. -/
lemma record_of_concluded (hs : s.Concluded id n v) (hv : v ≠ .inconclusive)
    (hlate : ¬ (verdict = .applied ∧ s.latestEffectVerdict id n = some .provenNotApplied))
    (h : recordEffectReconciliation id n verdict evidence observedAtMs s = .ok (reply, s')) :
    s' = s := by
  obtain ⟨rfl, -⟩ | ⟨row, s₁, -, ⟨-, hnot, hnot'⟩ | ⟨-, hpna, happlied⟩, -⟩ :=
    recordEffectReconciliation_cases h
  · rfl
  · rw [hs.verdict] at hnot hnot'
    cases v <;> simp_all
  · exact absurd ⟨happlied, hpna⟩ hlate

end Record

section Others

variable {nowMs : ℕ}

lemma continue_keeps {id : String} {old n : ℕ} (hs : s.Concluded effectId attempt v)
    (h : continueEffectAfterPna id old nowMs s = .ok (n, s')) :
    s'.Concluded effectId attempt v := by
  obtain ⟨row, attempts, hrow, -, hpna, hinsert, rfl⟩ := continueEffectAfterPna_cases h
  obtain ⟨row', hrow', hstate'⟩ := hs.state
  refine ⟨?_, ?_⟩
  · rw [latestEffectVerdict_withFact, if_neg (by simp [nextFact])]
    exact hs.verdict
  · by_cases hkey : (id, old) = (effectId, attempt)
    · cases hkey
      have hv : v = .provenNotApplied := Option.some.inj (hs.verdict.symm.trans hpna)
      have hstate : row'.state = .reconcileRequired ∨ row'.state = .fenced := by
        simpa [hv, conclusionStates] using hstate'
      refine ⟨_, hinsert.find_of_some (by rw [Table.find_update]; exact congrArg _ hrow'), ?_⟩
      rw [hv]
      by_cases hreq : row'.state = .reconcileRequired <;>
        simp [Table.key_of_find hrow', hreq, conclusionStates, hstate.resolve_left]
    · refine ⟨row', hinsert.find_of_some ?_, hstate'⟩
      rw [Table.find_update_of_not, ← hrow']
      · rfl
      · intro r hr
        have hne : r.key ≠ (id, old) := fun hr' => hkey (hr' ▸ Table.key_of_find hr)
        simp [hne]

lemma recoverStartedAttempt_verdict {row : EffectAttempt} {key : String × ℕ}
    (h : recoverStartedAttempt nowMs row s = .ok (key, s')) :
    s'.latestEffectVerdict effectId attempt =
      if row.key = (effectId, attempt) then some .inconclusive
      else s.latestEffectVerdict effectId attempt := by
  obtain ⟨createdAtMs, rfl⟩ := recoverStartedAttempt_cases h
  rw [latestEffectVerdict_withFact]
  simp only [nextFact, Option.isSome_some, and_true]
  rfl

lemma recoverStartedAttempt_attempt {row : EffectAttempt} {key : String × ℕ}
    (hother : row.key ≠ (effectId, attempt))
    (h : recoverStartedAttempt nowMs row s = .ok (key, s')) :
    s'.getEffectAttempt effectId attempt = s.getEffectAttempt effectId attempt := by
  obtain ⟨createdAtMs, rfl⟩ := recoverStartedAttempt_cases h
  simp only [getEffectAttempt, withFact]
  rw [Table.find_update_of_not]
  intro r hr
  have hne : r.key ≠ row.key := fun hr' => hother (hr' ▸ Table.key_of_find hr)
  simp [hne]

/-- The restart recovery only judges attempts that are still started. -/
lemma recoverStartedAttempts_keeps {excluded : Exclusions}
    (hs : s.Concluded effectId attempt v) :
    (recoverStartedAttempts nowMs excluded s).2.Concluded effectId attempt v := by
  unfold recoverStartedAttempts
  split
  · exact hs
  · refine forEach_preserves (P := fun s₁ => s₁.Concluded effectId attempt v) ?_ hs
    intro r hr s₁ key s₂ hs₁ h
    obtain ⟨row, hrow, hstate⟩ := hs.state
    have hother : r.key ≠ (effectId, attempt) := by
      intro hkey
      simp only [List.mem_filter, mem_orderBy, decide_eq_true_eq] at hr
      have hfind := Table.find_of_mem hr.1.1
      rw [hkey, ← getEffectAttempt, hrow] at hfind
      cases hfind
      exact conclusionStates_ne_started hstate hr.1.2
    refine hs₁.of_same ?_ fun _ hrow => (recoverStartedAttempt_attempt hother h).trans hrow
    rw [recoverStartedAttempt_verdict h, if_neg hother]

/-- The restart recovery records no decisive verdict. -/
lemma recoverStartedAttempts_undecided {excluded : Exclusions}
    (hv : v ≠ .inconclusive) (hs : s.latestEffectVerdict effectId attempt ≠ some v) :
    (recoverStartedAttempts nowMs excluded s).2.latestEffectVerdict effectId attempt ≠ some v := by
  unfold recoverStartedAttempts
  split
  · exact hs
  · refine forEach_preserves (P := fun s₁ => s₁.latestEffectVerdict effectId attempt ≠ some v)
      ?_ hs
    intro r _ s₁ key s₂ hs₁ h
    rw [recoverStartedAttempt_verdict h]
    split
    · exact fun hc => hv (Option.some.inj hc).symm
    · exact hs₁

end Others

variable {op : EffectOp}

/-- A reconciling call keeps a recorded conclusion, unless it is a late APPLIED. -/
lemma step_concluded (hs : s.Concluded effectId attempt v)
    (hv : v ≠ .inconclusive) (hop : op.reconciles = true)
    (hlate : ¬ s.lateApplied effectId attempt op) :
    (effectMachine.step s op).1.Concluded effectId attempt v := by
  cases op with
  | recordEffectReconciliation id n verdict evidence observedAtMs =>
    refine committed_fst (P := fun s' => Concluded s' effectId attempt v) hs fun _ _ h => ?_
    by_cases hkey : (id, n) = (effectId, attempt)
    · cases hkey
      rwa [record_of_concluded hs hv (fun hc => hlate ⟨rfl, hc⟩) h]
    · obtain ⟨hverdict, hattempt⟩ := record_other hkey h
      exact hs.of_same hverdict fun _ hrow => hattempt.trans hrow
  | recoverStartedAttempts nowMs excluded => exact recoverStartedAttempts_keeps hs
  | continueEffectAfterPna id old nowMs =>
    exact committed_fst (P := fun s' => Concluded s' effectId attempt v) hs
      fun _ _ h => continue_keeps hs h
  | _ => simp [EffectOp.reconciles] at hop

/-- While no verdict is decisive, a reconciling call leaves none or the conclusion it records. -/
lemma step_settled_of_undecided (hop : op.reconciles = true)
    (hs : ∀ v, v ≠ .inconclusive → s.latestEffectVerdict effectId attempt ≠ some v) :
    (effectMachine.step s op).1.Settled effectId attempt := by
  have hsame : s.Settled effectId attempt := fun v hv h => absurd h (hs v hv)
  cases op with
  | recordEffectReconciliation id n verdict evidence observedAtMs =>
    refine committed_fst (P := fun s' => Settled s' effectId attempt) hsame fun _ s' h => ?_
    intro v hv hlatest
    by_cases hkey : (id, n) = (effectId, attempt)
    · cases hkey
      rw [record_verdict h, if_pos rfl] at hlatest
      cases hlatest
      rcases record_concluded hv h with rfl | hconcluded
      · exact hsame verdict hv ((record_verdict h).trans (if_pos rfl))
      · exact hconcluded
    · rw [(record_other hkey h).1] at hlatest
      exact absurd hlatest (hs v hv)
  | recoverStartedAttempts nowMs excluded =>
    exact fun v hv h => absurd h (recoverStartedAttempts_undecided hv (hs v hv))
  | continueEffectAfterPna id old nowMs =>
    refine committed_fst (P := fun s' => Settled s' effectId attempt) hsame fun _ s' h => ?_
    obtain ⟨row, attempts, -, -, -, -, rfl⟩ := continueEffectAfterPna_cases h
    intro v hv hlatest
    rw [latestEffectVerdict_withFact, if_neg (by simp [nextFact])] at hlatest
    exact absurd hlatest (hs v hv)
  | _ => simp [EffectOp.reconciles] at hop

lemma step_settled (hs : s.Settled effectId attempt)
    (hop : op.reconciles = true) (hlate : ¬ s.lateApplied effectId attempt op) :
    (effectMachine.step s op).1.Settled effectId attempt := by
  by_cases hdecided : ∃ v, v ≠ .inconclusive ∧ s.latestEffectVerdict effectId attempt = some v
  · obtain ⟨v, hv, hverdict⟩ := hdecided
    have hkeep := step_concluded (hs v hv hverdict) hv hop hlate
    intro w hw hlatest
    rw [hkeep.verdict] at hlatest
    cases hlatest
    exact hkeep
  · exact step_settled_of_undecided hop fun v hv h => hdecided ⟨v, hv, h⟩

/-- The first decisive verdict on an attempt stays, with the conclusion its row expresses,
through every later call of the run. -/
def FirstVerdictWins (s : EffectStore) (effectId : String) (attempt : ℕ)
    (ops : List EffectOp) : Prop :=
  ∀ pre post v, ops = pre ++ post → v ≠ .inconclusive →
    (effectMachine.exec s pre).latestEffectVerdict effectId attempt = some v →
    (effectMachine.exec s ops).Concluded effectId attempt v

/-- In a run of reconciling calls without a late APPLIED, the first decisive verdict wins. -/
theorem firstVerdictWins_of_noLateApplied (s : EffectStore) (effectId : String) (attempt : ℕ)
    (ops : List EffectOp)
    (hundecided : ∀ v, v ≠ .inconclusive → s.latestEffectVerdict effectId attempt ≠ some v)
    (hops : effectMachine.Steps (fun s op =>
      op.reconciles = true ∧ ¬ s.lateApplied effectId attempt op) s ops) :
    FirstVerdictWins s effectId attempt ops := by
  rintro pre post v rfl hv hverdict
  rw [Machine.steps_append] at hops
  have hsettled := Machine.exec_preserves_of_steps (fun s => s.Settled effectId attempt)
    (fun _ _ hs hop => step_settled hs hop.1 hop.2)
    (fun v hv h => absurd h (hundecided v hv)) hops.1
  rw [Machine.exec_append]
  exact Machine.exec_preserves_of_steps (fun s => s.Concluded effectId attempt v)
    (fun _ _ hs hop => step_concluded hs hv hop.1 hop.2) (hsettled v hv hverdict) hops.2

/-- A control effect claimed at time 1. -/
def sampleClaim : EffectClaim :=
  EffectClaim.withComputedSha256
    { effectId := "eff_0", requestId := "req_0", runId := "run_0", runSequence := 1,
      generation := 0, effectKind := .control, ordinal := 0, intentSha256 := "00",
      pipelineVersion := "unspecified", attempt := 1, claimRevision := 1, leaseEpoch := 1,
      supersedesClaimSha256 := none, ownerComponentId := .totalGateway, claimedAtMs := 1,
      claimSha256 := .null, revision_chain := by decide }

/-- The tables after the sample effect was claimed and started. -/
def startedSample : EffectStore :=
  effectMachine.exec init
    [.claimEffect quietSurroundings sampleClaim, .markEffectStarted quietSurroundings "eff_0" 2]

/-- APPLIED recorded after PROVEN_NOT_APPLIED becomes the verdict of the attempt. -/
theorem lateApplied_counterexample : ¬ FirstVerdictWins startedSample "eff_0" 1
      [.recordEffectReconciliation "eff_0" 1 .provenNotApplied .null 3,
        .recordEffectReconciliation "eff_0" 1 .applied .null 4] := by
  intro h
  have hpna := h [_] [_] .provenNotApplied rfl (by decide) (by decide)
  exact absurd hpna.verdict (by decide)

theorem firstVerdictWins_sample : FirstVerdictWins startedSample "eff_0" 1
      [.recoverStartedAttempts 3 ⟨[], []⟩,
        .recordEffectReconciliation "eff_0" 1 .provenNotApplied .null 4,
        .continueEffectAfterPna "eff_0" 1 5] := by
  refine firstVerdictWins_of_noLateApplied _ _ _ _ ?_ ?_
  · intro v _
    rw [show startedSample.latestEffectVerdict "eff_0" 1 = none by decide]
    exact nofun
  · simp only [Machine.steps_cons, Machine.steps_nil, EffectOp.reconciles, lateApplied,
      reduceCtorEq, false_and, and_false, not_false_eq_true, and_self]

end EffectStore

end Tiangong
