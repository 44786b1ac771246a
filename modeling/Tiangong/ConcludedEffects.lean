import Tiangong.Reconciliation

/-!
# Effects that must not run again

An effect whose head reports success, or one of whose attempts ended with a decided outcome, has
been carried out or given up. Recording a verdict writes the state of an attempt whatever it was,
and a continuation does not read the head, so both can reopen such an effect. The run of
reconciling calls that does not take these two branches never does.
-/
namespace Tiangong

open Table

def AttemptState.decided : AttemptState → Bool
  | .succeeded | .reconciled | .failedFinal => true
  | _ => false

def EffectState.successful : EffectState → Bool
  | .succeeded | .reconciled => true
  | _ => false

/-- The calls that record a verdict or continue after a proof of non-application. -/
def EffectOp.pursues : EffectOp → Bool
  | .recordEffectReconciliation .. | .continueEffectAfterPna .. => true
  | _ => false

namespace EffectStore

def HeadSuccessful (s : EffectStore) (effectId : String) : Prop :=
  ∃ state, s.getEffectHeadState effectId = some state ∧ state.successful = true

def AttemptDecided (s : EffectStore) (effectId : String) (attempt : ℕ) : Prop :=
  ∃ row, s.getEffectAttempt effectId attempt = some row ∧ row.state.decided = true

/-- The effect must not be executed again. -/
def EffectDecided (s : EffectStore) (effectId : String) : Prop :=
  s.HeadSuccessful effectId ∨ ∃ attempt, s.AttemptDecided effectId attempt

/-- The two verdicts that settle an attempt have not been recorded for it. -/
def Undecided (s : EffectStore) (effectId : String) (attempt : ℕ) : Prop :=
  s.latestEffectVerdict effectId attempt ≠ some .applied ∧
    s.latestEffectVerdict effectId attempt ≠ some .provenNotApplied

/-- The chain does not hold this fact yet. -/
def FactFresh (s : EffectStore) (effectId : String) (attempt : ℕ) (factKind : FactKind)
    (payload : FactPayload) : Prop :=
  ¬ ∃ f ∈ s.effectFacts, f.key = (effectId, attempt) ∧ f.factKind = factKind ∧ f.payload = payload

/-- The call takes a branch that reopens the effect: a verdict other than APPLIED on an attempt
that is decided but not reconciled, or the continuation of a proven attempt of a decided effect. -/
def Reopens (s : EffectStore) (effectId : String) : EffectOp → Prop
  | .recordEffectReconciliation id attempt verdict evidence _ =>
    id = effectId ∧ verdict ≠ .applied ∧ s.AttemptDecided effectId attempt ∧
      s.Undecided effectId attempt ∧
      s.FactFresh effectId attempt .reconciliation (.reconciliation verdict evidence)
  | .continueEffectAfterPna id attempt _ =>
    id = effectId ∧ s.EffectDecided effectId ∧
      ∃ row, s.getEffectAttempt effectId attempt = some row ∧ row.state = .reconcileRequired ∧
        s.latestEffectVerdict effectId attempt = some .provenNotApplied ∧
        s.getEffectAttempt effectId (attempt + 1) = none ∧
        s.FactFresh effectId (attempt + 1) .claim (.continuation attempt (row.claimRevision + 1))
  | _ => False

/-- Between the two states no decided attempt went back to reconciliation, and a decided effect
got no new attempt. -/
structure NotReopened (s s' : EffectStore) (effectId : String) : Prop where
  attempts : ∀ attempt row, s.AttemptDecided effectId attempt →
    s'.getEffectAttempt effectId attempt = some row → row.state ≠ .reconcileRequired
  reservations : s.EffectDecided effectId → ∀ attempt,
    s.getEffectAttempt effectId attempt = none → s'.getEffectAttempt effectId attempt = none

/-- No stretch of the run reopens the effect, and what is continued is proven not applied and has
no successful head. -/
def NoSecondExecution (s : EffectStore) (effectId : String) (ops : List EffectOp) : Prop :=
  (∀ pre mid post, ops = pre ++ mid ++ post →
    (effectMachine.exec s pre).NotReopened (effectMachine.exec s (pre ++ mid)) effectId) ∧
  ∀ pre attempt nowMs post reply, ops = pre ++ .continueEffectAfterPna effectId attempt nowMs :: post →
    (effectMachine.step (effectMachine.exec s pre)
      (.continueEffectAfterPna effectId attempt nowMs)).2 = .ok reply →
    (effectMachine.exec s pre).latestEffectVerdict effectId attempt = some .provenNotApplied ∧
      ¬ (effectMachine.exec s pre).HeadSuccessful effectId

variable {s s' : EffectStore} {effectId id : String} {attempt n : ℕ}

section Record

variable {verdict : Verdict} {evidence : Canon} {observedAtMs : ℕ} {reply : ReconciliationReply}

lemma record_undecided {row : EffectAttempt} (hrow : s.getEffectAttempt id n = some row)
    (h : s.Undecided id n) :
    recordEffectReconciliation id n verdict evidence observedAtMs s =
      (s.appendEffectFact id n .reconciliation (some verdict) (.reconciliation verdict evidence)
        observedAtMs).map fun s₁ => (⟨true, false, verdict.attemptState⟩,
          s₁.withAttempts (s₁.effectAttempts.update (fun a => a.key = (id, n))
            (fun a => { a with state := verdict.attemptState }) fun _ => rfl)) := by
  have hsame : ¬ (s.latestEffectVerdict id n = some verdict ∧ verdict ≠ .inconclusive) := by
    rintro ⟨hlatest, hverdict⟩
    cases verdict with
    | applied => exact h.1 hlatest
    | provenNotApplied => exact h.2 hlatest
    | inconclusive => exact hverdict rfl
  simp only [recordEffectReconciliation, hrow, required, hsame, if_false, h.1, h.2, false_and,
    rejectIf, admitVerdict, or_self, decide_false, bind, Except.bind, pure, Except.pure]
  cases s.appendEffectFact id n .reconciliation (some verdict) (.reconciliation verdict evidence)
    observedAtMs <;> rfl

lemma record_fresh (hundecided : s.Undecided id n)
    (h : recordEffectReconciliation id n verdict evidence observedAtMs s = .ok (reply, s')) :
    s.FactFresh id n .reconciliation (.reconciliation verdict evidence) := by
  have hrow : ∃ row, s.getEffectAttempt id n = some row := by
    simp only [recordEffectReconciliation, eq_ok_iff] at h
    obtain ⟨row, hrow, -⟩ := h
    exact ⟨row, hrow⟩
  obtain ⟨row, hrow⟩ := hrow
  rw [record_undecided hrow hundecided, map_eq_ok] at h
  obtain ⟨s₁, hs₁, -⟩ := h
  exact (appendEffectFact_eq_ok.mp hs₁).1

lemma record_head
    (h : recordEffectReconciliation id n verdict evidence observedAtMs s = .ok (reply, s')) :
    s'.getEffectHeadState effectId = s.getEffectHeadState effectId := by
  obtain ⟨rfl, -⟩ | ⟨row, s₁, -, hs₁, rfl⟩ := recordEffectReconciliation_cases h
  · rfl
  · rcases hs₁ with ⟨rfl, -⟩ | ⟨rfl, -⟩ <;> rfl

/-- Recording a verdict neither adds nor removes an attempt. -/
lemma record_none
    (h : recordEffectReconciliation id n verdict evidence observedAtMs s = .ok (reply, s'))
    (hnone : s.getEffectAttempt effectId attempt = none) :
    s'.getEffectAttempt effectId attempt = none := by
  rcases record_attempt h with rfl | hattempt
  · exact hnone
  · rw [hattempt, hnone]
    rfl

lemma record_decided (hdecided : s.AttemptDecided effectId attempt)
    (hquiet : ¬ s.Reopens effectId (.recordEffectReconciliation id n verdict evidence observedAtMs))
    (h : recordEffectReconciliation id n verdict evidence observedAtMs s = .ok (reply, s')) :
    s'.AttemptDecided effectId attempt := by
  obtain ⟨row, hrow, hstate⟩ := hdecided
  by_cases hkey : (id, n) = (effectId, attempt)
  · cases hkey
    rcases record_attempt h with rfl | hattempt
    · exact ⟨row, hrow, hstate⟩
    obtain ⟨rfl, -⟩ | ⟨row', s₁, -, hbranch, -⟩ := recordEffectReconciliation_cases h
    · exact ⟨row, hrow, hstate⟩
    refine ⟨{ row with state := verdict.attemptState }, by rw [hattempt, hrow]; simp, ?_⟩
    rcases hbranch with ⟨-, hundecided⟩ | ⟨-, -, rfl⟩
    · -- a verdict other than APPLIED is written here only on the branch that reopens
      by_contra hnot
      refine hquiet ⟨rfl, ?_, ⟨row, hrow, hstate⟩, hundecided, record_fresh hundecided h⟩
      rintro rfl
      exact hnot rfl
    · rfl
  · exact ⟨row, (record_other hkey h).2.trans hrow, hstate⟩

/-- The reopening branch is taken: the attempt has to be reconciled again. -/
lemma record_reopens (hdecided : s.AttemptDecided id n) (hverdict : verdict ≠ .applied)
    (hundecided : s.Undecided id n)
    (hfresh : s.FactFresh id n .reconciliation (.reconciliation verdict evidence)) :
    ∃ row, (effectMachine.step s (.recordEffectReconciliation id n verdict evidence
      observedAtMs)).1.getEffectAttempt id n = some row ∧ row.state = .reconcileRequired := by
  obtain ⟨row, hrow, -⟩ := hdecided
  have hstate : verdict.attemptState = .reconcileRequired := by
    cases verdict with
    | applied => exact absurd rfl hverdict
    | provenNotApplied => rfl
    | inconclusive => rfl
  have happend : s.appendEffectFact id n .reconciliation (some verdict)
      (.reconciliation verdict evidence) observedAtMs = .ok (s.withFact (s.nextFact id n
        .reconciliation (some verdict) (.reconciliation verdict evidence) observedAtMs)) :=
    appendEffectFact_eq_ok.mpr ⟨hfresh, rfl⟩
  refine ⟨{ row with state := verdict.attemptState }, ?_, hstate⟩
  simp only [effectMachine, record_undecided hrow hundecided, happend, Except.map, committed,
    withAttempts, getEffectAttempt]
  have hfind : s.effectAttempts.find (id, n) = some row := hrow
  have hkey : row.key = (id, n) := key_of_find hfind
  rw [find_update]
  simp only [withFact, hfind, hkey, Option.map_some, decide_true, if_true]

end Record

section Continue

variable {old nowMs m : ℕ}

lemma continue_head (h : continueEffectAfterPna id old nowMs s = .ok (m, s')) :
    s'.getEffectHeadState effectId = s.getEffectHeadState effectId := by
  obtain ⟨row, attempts, -, -, -, -, rfl⟩ := continueEffectAfterPna_cases h
  rfl

lemma continue_none (h : continueEffectAfterPna id old nowMs s = .ok (m, s'))
    (hother : (id, old + 1) ≠ (effectId, attempt))
    (hnone : s.getEffectAttempt effectId attempt = none) :
    s'.getEffectAttempt effectId attempt = none := by
  obtain ⟨row, attempts, -, -, -, hinsert, rfl⟩ := continueEffectAfterPna_cases h
  have hkey : (reservedAttempt row id old).key = (id, old + 1) := rfl
  simp only [getEffectAttempt, withFact] at hnone ⊢
  rw [hinsert.find, hkey, if_neg hother, find_update, hnone]
  rfl

/-- A continuation moves only an attempt that awaits reconciliation. -/
lemma continue_decided (hdecided : s.AttemptDecided effectId attempt)
    (h : continueEffectAfterPna id old nowMs s = .ok (m, s')) :
    s'.AttemptDecided effectId attempt := by
  obtain ⟨row, hrow, hstate⟩ := hdecided
  obtain ⟨row', attempts, -, -, -, hinsert, rfl⟩ := continueEffectAfterPna_cases h
  refine ⟨row, hinsert.find_of_some ?_, hstate⟩
  rw [find_update_of_not]
  · exact hrow
  · intro r hr
    have hsame : r = row := Option.some.inj (hr.symm.trans hrow)
    have hne : row.state ≠ .reconcileRequired := by
      intro hrequired
      rw [hrequired] at hstate
      cases hstate
    simp [hsame, hne]

/-- A continuation is accepted exactly for a proven attempt with a free number after it. -/
lemma continue_accepted_iff : (∃ answer, continueEffectAfterPna id old nowMs s = .ok answer) ↔
      ∃ row, s.getEffectAttempt id old = some row ∧ row.state = .reconcileRequired ∧
        s.latestEffectVerdict id old = some .provenNotApplied ∧
        s.getEffectAttempt id (old + 1) = none ∧
        s.FactFresh id (old + 1) .claim (.continuation old (row.claimRevision + 1)) := by
  constructor
  · rintro ⟨⟨m, s'⟩, h⟩
    simp only [continueEffectAfterPna, eq_ok_iff, appendEffectFact_eq_ok, insert_eq_ok,
      updateOne_eq_ok, not_not] at h
    obtain ⟨row, hrow, hstate, hverdict, updated, ⟨-, rfl⟩, attempts, hinsert, _, ⟨hfresh, -⟩,
      -⟩ := h
    have hnone := hinsert.fresh
    rw [find_update, Option.map_eq_none_iff] at hnone
    exact ⟨row, hrow, hstate, hverdict, hnone, hfresh⟩
  · rintro ⟨row, hrow, hstate, hverdict, hnone, hfresh⟩
    have hone : s.effectAttempts.rows.countP
        (fun a => a.key = (id, old) && decide (a.state = .reconcileRequired)) = 1 :=
      countP_eq_one hrow (by simpa using hstate)
    have hfree : (s.effectAttempts.update
        (fun a => a.key = (id, old) && decide (a.state = .reconcileRequired))
        (fun a => { a with
          state := .fenced, terminalAtMs := some nowMs, terminalKind := some .fenced })
        fun _ => rfl).find (reservedAttempt row id old).key = none := by
      rw [find_update]
      exact Option.map_eq_none_iff.mpr hnone
    obtain ⟨attempts, hinsert⟩ := exists_insert hfree
      (StoreError.integrity "effect_attempts(effect_id, attempt)")
    obtain ⟨s₁, happend⟩ : ∃ s₁, (s.withAttempts attempts).appendEffectFact id (old + 1) .claim none
        (.continuation old (row.claimRevision + 1)) nowMs = .ok s₁ :=
      ⟨_, appendEffectFact_eq_ok.mpr ⟨hfresh, rfl⟩⟩
    refine ⟨(old + 1, s₁), ?_⟩
    simp only [continueEffectAfterPna, eq_ok_iff, not_not]
    exact ⟨row, hrow, hstate, hverdict, _, updateOne_eq_ok.mpr ⟨hone, rfl⟩, attempts, hinsert,
      s₁, happend, rfl⟩

lemma continue_reserves (h : continueEffectAfterPna id old nowMs s = .ok (m, s')) :
    ∃ row, s'.getEffectAttempt id (old + 1) = some row := by
  obtain ⟨row, attempts, -, -, -, hinsert, rfl⟩ := continueEffectAfterPna_cases h
  exact ⟨_, (hinsert.find (id, old + 1)).trans (if_pos rfl)⟩

end Continue

section Runs

variable {op : EffectOp} {ops : List EffectOp}

lemma step_attemptDecided (hop : op.pursues = true) (hquiet : ¬ s.Reopens effectId op)
    (h : s.AttemptDecided effectId attempt) :
    (effectMachine.step s op).1.AttemptDecided effectId attempt := by
  cases op with
  | recordEffectReconciliation id n verdict evidence observedAtMs =>
    exact committed_fst (P := fun s' => AttemptDecided s' effectId attempt) h
      fun _ _ hr => record_decided h hquiet hr
  | continueEffectAfterPna id old nowMs =>
    exact committed_fst (P := fun s' => AttemptDecided s' effectId attempt) h
      fun _ _ hr => continue_decided h hr
  | _ => cases hop

lemma step_head (hop : op.pursues = true) :
    (effectMachine.step s op).1.getEffectHeadState effectId = s.getEffectHeadState effectId := by
  cases op with
  | recordEffectReconciliation id n verdict evidence observedAtMs =>
    exact committed_fst
      (P := fun s' => s'.getEffectHeadState effectId = s.getEffectHeadState effectId) rfl
      fun _ _ hr => record_head hr
  | continueEffectAfterPna id old nowMs =>
    exact committed_fst
      (P := fun s' => s'.getEffectHeadState effectId = s.getEffectHeadState effectId) rfl
      fun _ _ hr => continue_head hr
  | _ => cases hop

lemma step_effectDecided (hop : op.pursues = true) (hquiet : ¬ s.Reopens effectId op)
    (h : s.EffectDecided effectId) : (effectMachine.step s op).1.EffectDecided effectId := by
  rcases h with ⟨state, hstate, hsuccess⟩ | ⟨attempt, hattempt⟩
  · exact .inl ⟨state, (step_head hop).trans hstate, hsuccess⟩
  · exact .inr ⟨attempt, step_attemptDecided hop hquiet hattempt⟩

lemma step_none (hop : op.pursues = true) (hquiet : ¬ s.Reopens effectId op)
    (hdecided : s.EffectDecided effectId) (h : s.getEffectAttempt effectId attempt = none) :
    (effectMachine.step s op).1.getEffectAttempt effectId attempt = none := by
  cases op with
  | recordEffectReconciliation id n verdict evidence observedAtMs =>
    exact committed_fst (P := fun s' => s'.getEffectAttempt effectId attempt = none) h
      fun _ _ hr => record_none hr h
  | continueEffectAfterPna id old nowMs =>
    refine committed_fst (P := fun s' => s'.getEffectAttempt effectId attempt = none) h
      fun _ _ hr => continue_none hr ?_ h
    rintro ⟨⟩
    exact hquiet ⟨rfl, hdecided, continue_accepted_iff.mp ⟨_, hr⟩⟩
  | _ => cases hop

/-- A run of such calls that never takes a reopening branch keeps what is decided. -/
lemma exec_notReopened (hops : effectMachine.Steps (fun s op =>
      op.pursues = true ∧ ¬ s.Reopens effectId op) s ops) :
    s.NotReopened (effectMachine.exec s ops) effectId := by
  constructor
  · intro attempt row hdecided hrow hrequired
    have hkept := Machine.exec_preserves_of_steps (fun s => s.AttemptDecided effectId attempt)
      (fun _ _ h hop => step_attemptDecided hop.1 hop.2 h) hdecided hops
    obtain ⟨row', hrow', hstate⟩ := hkept
    rw [hrow] at hrow'
    cases hrow'
    rw [hrequired] at hstate
    cases hstate
  · intro hdecided attempt hnone
    have hkept := Machine.exec_preserves_of_steps
      (fun s => s.EffectDecided effectId ∧ s.getEffectAttempt effectId attempt = none)
      (fun _ _ h hop => ⟨step_effectDecided hop.1 hop.2 h.1, step_none hop.1 hop.2 h.1 h.2⟩)
      ⟨hdecided, hnone⟩ hops
    exact hkept.2

/-- A call on a reopening branch does reopen the effect. -/
lemma reopens_spec (h : s.Reopens effectId op) :
    ¬ s.NotReopened (effectMachine.step s op).1 effectId := by
  intro hkept
  cases op with
  | recordEffectReconciliation id n verdict evidence observedAtMs =>
    obtain ⟨rfl, hverdict, hdecided, hundecided, hfresh⟩ := h
    obtain ⟨row, hrow, hstate⟩ := record_reopens hdecided hverdict hundecided hfresh
    exact hkept.attempts n row hdecided hrow hstate
  | continueEffectAfterPna id old nowMs =>
    obtain ⟨rfl, hdecided, hcontinued⟩ := h
    have haccepted : ∃ answer, continueEffectAfterPna id old nowMs s = .ok answer :=
      continue_accepted_iff.mpr hcontinued
    obtain ⟨⟨m, s'⟩, hr⟩ := haccepted
    obtain ⟨row, -, -, -, hnone, -⟩ := hcontinued
    obtain ⟨row', hrow'⟩ := continue_reserves hr
    have hstep : (effectMachine.step s (.continueEffectAfterPna id old nowMs)).1 = s' := by
      simp only [effectMachine, hr, committed]
    rw [hstep] at hkept
    rw [hkept.reservations hdecided (old + 1) hnone] at hrow'
    cases hrow'
  | _ => exact h

lemma continue_answered {old nowMs : ℕ} {reply : EffectReply}
    (h : (effectMachine.step s (.continueEffectAfterPna id old nowMs)).2 = .ok reply) :
    ∃ answer, continueEffectAfterPna id old nowMs s = .ok answer := by
  cases hr : continueEffectAfterPna id old nowMs s with
  | ok answer => exact ⟨answer, rfl⟩
  | error e =>
    simp only [effectMachine, hr, committed] at h
    cases h

/-- A run of verdicts and continuations reopens a decided effect exactly when it takes one of the
two branches. -/
theorem noSecondExecution_iff (s : EffectStore) (effectId : String) (ops : List EffectOp)
    (hops : ∀ op ∈ ops, op.pursues = true) :
    NoSecondExecution s effectId ops ↔
      effectMachine.Steps (fun s op => ¬ s.Reopens effectId op) s ops := by
  rw [Machine.steps_iff_split]
  constructor
  · rintro ⟨hkept, -⟩ pre op post rfl hreopens
    refine reopens_spec hreopens ?_
    rw [← Machine.exec_concat]
    exact hkept pre [op] post (by simp)
  · intro hquiet
    constructor
    · rintro pre mid post rfl
      rw [Machine.exec_append]
      refine exec_notReopened ((Machine.steps_iff_split _).mpr ?_)
      rintro pre' op post' rfl
      rw [← Machine.exec_append]
      exact ⟨hops op (by simp), hquiet (pre ++ pre') op (post' ++ post) (by simp)⟩
    · rintro pre attempt nowMs post reply rfl h
      have haccepted := continue_accepted_iff.mp (continue_answered h)
      obtain ⟨row, -, -, hverdict, -⟩ := id haccepted
      refine ⟨hverdict, fun hhead => ?_⟩
      exact hquiet pre _ post rfl ⟨rfl, .inl hhead, haccepted⟩

end Runs

theorem succeeded_noErrorCode :
    (none : Option String).isSome = EffectStatus.succeeded.needsErrorCode := rfl

/-- The sample effect succeeds at time 3. -/
def sampleResult : EffectResult :=
  EffectResult.withComputedSha256
    { resultId := "result_0", effectId := "eff_0", status := .succeeded, factId := "fact_0",
      resultObjectId := none, resultObjectSha256 := none, evidenceSha256 := .null,
      errorCode := none, observedAtMs := 3, resultSha256 := .null,
      object_complete := noObject_complete, errorCode_iff := succeeded_noErrorCode }

def succeededSample : EffectStore :=
  (effectMachine.step startedSample (.completeEffect sampleResult none true)).1

/-- A proof of non-application recorded for the succeeded sample reopens it. -/
theorem succeededSample_reopened : ¬ NoSecondExecution succeededSample "eff_0"
      [.recordEffectReconciliation "eff_0" 1 .provenNotApplied .null 4,
        .continueEffectAfterPna "eff_0" 1 5] := by
  rintro ⟨hkept, -⟩
  have hbefore : (succeededSample.getEffectAttempt "eff_0" 1).map (·.state) = some .succeeded := by
    decide +kernel
  have hafter : ((effectMachine.exec succeededSample
      [.recordEffectReconciliation "eff_0" 1 .provenNotApplied .null 4]).getEffectAttempt
        "eff_0" 1).map (·.state) = some .reconcileRequired := by
    decide +kernel
  obtain ⟨row, hrow, hstate⟩ := Option.map_eq_some_iff.mp hbefore
  obtain ⟨row', hrow', hstate'⟩ := Option.map_eq_some_iff.mp hafter
  exact (hkept [] [_] [_] rfl).attempts 1 row' ⟨row, hrow, by rw [hstate]; rfl⟩ hrow' hstate'

lemma not_attemptDecided (h : ∀ a ∈ s.effectAttempts.rows, a.state.decided = false) :
    ¬ s.AttemptDecided effectId attempt := by
  rintro ⟨row, hrow, hstate⟩
  rw [h row (mem_of_find hrow)] at hstate
  cases hstate

/-- A verdict on the started sample and its continuation take neither branch. -/
theorem noSecondExecution_sample : NoSecondExecution startedSample "eff_0"
      [.recordEffectReconciliation "eff_0" 1 .provenNotApplied .null 4,
        .continueEffectAfterPna "eff_0" 1 5] := by
  refine (noSecondExecution_iff _ _ _ (by decide)).mpr ⟨?_, ?_, trivial⟩
  · rintro ⟨-, -, hdecided, -⟩
    exact not_attemptDecided (by decide +kernel) hdecided
  · rintro ⟨-, ⟨state, hstate, hsuccess⟩ | ⟨attempt, hdecided⟩, -⟩
    · have hhead : (effectMachine.step startedSample (.recordEffectReconciliation "eff_0" 1
          .provenNotApplied .null 4)).1.getEffectHeadState "eff_0" = some .sideEffectStarted := by
        decide +kernel
      rw [hhead] at hstate
      cases hstate
      cases hsuccess
    · exact not_attemptDecided (by decide +kernel) hdecided

end EffectStore

end Tiangong
