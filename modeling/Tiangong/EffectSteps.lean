import Tiangong.EffectOperations
import Tiangong.Machines

/-!
# What an effect operation commits

One lemma per operation lists the states it can commit; the invariants of the effect tables are
derived from these lemmas only. At the end the operations are collected into one machine.
-/
namespace Tiangong

open EffectAttempt Table

@[simp] theorem ActionFence.giveBack_inflight (fence : ActionFence) (nowMs : ℕ) :
    (fence.giveBack nowMs).inflightCount = fence.inflightCount - 1 := by
  unfold giveBack
  split
  · rfl
  · omega

namespace EffectStore

variable {s s' : EffectStore} {env : Surroundings}

/-- The fact an append puts on the chain. -/
def nextFact (s : EffectStore) (effectId : String) (attempt : ℕ) (factKind : FactKind)
    (verdict : Option Verdict) (payload : FactPayload) (createdAtMs : ℕ) : EffectFact :=
  ⟨effectId, attempt, factKind, verdict, payload,
    (s.effectFacts.find? fun f => f.key = (effectId, attempt)).map (·.payload), createdAtMs⟩

/-- The tables with one more fact on the chain. -/
def withFact (s : EffectStore) (f : EffectFact) : EffectStore :=
  { s with effectFacts := f :: s.effectFacts }

/-- The tables with their attempt rows replaced. -/
def withAttempts (s : EffectStore) (attempts : Table key) : EffectStore :=
  { s with effectAttempts := attempts }

variable {effectId : String} {attempt : ℕ}

theorem appendEffectFact_eq_ok {factKind : FactKind}
    {verdict : Option Verdict} {payload : FactPayload} {createdAtMs : ℕ} :
    s.appendEffectFact effectId attempt factKind verdict payload createdAtMs = .ok s' ↔
      (¬ ∃ f ∈ s.effectFacts,
        f.key = (effectId, attempt) ∧ f.factKind = factKind ∧ f.payload = payload) ∧
      s' = s.withFact
        (s.nextFact effectId attempt factKind verdict payload createdAtMs) := by
  simp only [appendEffectFact, eq_ok_iff, withFact, nextFact, eq_comm (a := s')]

variable {row : EffectRow}

/-- A claim either finds the row of an earlier one or inserts a fresh row, its attempt and its
fact. -/
theorem claimEffect_cases {claim : EffectClaim} {fresh : Bool}
    (h : claimEffect env claim s = .ok ((row, fresh), s')) :
    (fresh = false ∧ s' = s ∧ s.effectLedger.find claim.effectId = some row) ∨
    (fresh = true ∧ row = ⟨claim, .claimed⟩ ∧ s.effectLedger.find claim.effectId = none ∧
      ∃ ledger attempts, s.effectLedger.Inserts ⟨claim, .claimed⟩ ledger ∧
        s.effectAttempts.Inserts (claimedAttempt claim) attempts ∧
        s' = ({ s with effectLedger := ledger, effectAttempts := attempts }).withFact
          (s.nextFact claim.effectId claim.attempt .claim none
            (.claim claim s.actionFence.actionFenceEpoch) claim.claimedAtMs)) := by
  unfold claimEffect at h
  cases hf : s.effectLedger.find claim.effectId with
  | some record =>
    simp only [hf, eq_ok_iff] at h
    obtain ⟨-, -, ⟨⟩⟩ := h
    exact .inl ⟨rfl, rfl, rfl⟩
  | none =>
    simp only [hf, eq_ok_iff, insert_eq_ok, appendEffectFact_eq_ok] at h
    obtain ⟨-, _, -, ledger, hledger, attempts, hattempts, _, ⟨-, rfl⟩, ⟨⟩⟩ := h
    exact .inr ⟨rfl, rfl, rfl, ledger, attempts, hledger, hattempts, rfl⟩

lemma startedHead_effectId (startedAtMs : ℕ) (r : EffectRow) :
    ({ r with progress := .sideEffectStarted startedAtMs } : EffectRow).effectId = r.effectId := rfl

lemma startedAttempt_key (startedAtMs : ℕ) (a : EffectAttempt) :
    ({ a with state := .sideEffectStarted, sideEffectStartedAtMs := some startedAtMs } :
      EffectAttempt).key = a.key := rfl

/-- The ledger after the head row of `effectId` crossed the side-effect boundary. -/
def startedLedger (ledger : Table EffectRow.effectId) (effectId : String) (startedAtMs : ℕ) :
    Table EffectRow.effectId :=
  ledger.update (fun r => r.effectId = effectId && r.state = .claimed)
    (fun r => { r with progress := .sideEffectStarted startedAtMs })
    (startedHead_effectId startedAtMs)

/-- The attempts after attempt `k` crossed the side-effect boundary with its head. -/
def startedAttempts (attempts : Table key) (k : String × ℕ) (startedAtMs : ℕ) :
    Table key :=
  attempts.update (fun a => a.key = k && a.state = .claimed)
    (fun a => { a with state := .sideEffectStarted, sideEffectStartedAtMs := some startedAtMs })
    (startedAttempt_key startedAtMs)

/-- Starting an effect repeats an identical start, or moves a claimed head, its attempt and the
chain over the boundary while the fence is open. -/
theorem markEffectStarted_cases {startedAtMs : ℕ}
    (h : markEffectStarted env effectId startedAtMs s = .ok (row, s')) :
    (s' = s ∧ s.effectLedger.find effectId = some row ∧ row.state = .sideEffectStarted) ∨
    (∃ record, s.effectLedger.find effectId = some record ∧ record.state = .claimed ∧
      record.claim.claimedAtMs ≤ startedAtMs ∧ s.actionFence.actionFenceEpoch = 0 ∧
      row = { record with progress := .sideEffectStarted startedAtMs } ∧
      s' = ({ s with
          effectLedger := startedLedger s.effectLedger effectId startedAtMs
          effectAttempts :=
            startedAttempts s.effectAttempts (effectId, record.claim.attempt) startedAtMs }).withFact
        (s.nextFact effectId record.claim.attempt .started none
          (.sideEffectStarted startedAtMs none) startedAtMs)) := by
  simp only [markEffectStarted, eq_ok_iff] at h
  obtain ⟨record, hrecord, h⟩ := h
  split at h
  case isTrue hstarted =>
    simp only [eq_ok_iff] at h
    obtain ⟨-, ⟨⟩⟩ := h
    exact .inl ⟨rfl, hrecord, hstarted⟩
  case isFalse =>
    simp only [eq_ok_iff, appendEffectFact_eq_ok, not_or, not_not, not_lt, startHead,
      updateOne_eq_ok] at h
    obtain ⟨⟨hclaimed, htime⟩, _, -, fact, -, ⟨-, hepoch, -⟩, ledger, ⟨-, rfl⟩, _, ⟨-, rfl⟩,
      ⟨⟩⟩ := h
    exact .inr ⟨record, hrecord, hclaimed, htime, hepoch, rfl, rfl⟩

variable {nowMs : ℕ}

theorem release_eq_ok {key : String × ℕ} {releasedBy : String} :
    s.release key releasedBy nowMs = .ok s' ↔
      ∃ rows, s.dispatchPermitRelease.Inserts ⟨key.1, key.2, releasedBy, nowMs⟩ rows ∧ s' = { s with
          actionFence := s.actionFence.giveBack nowMs, dispatchPermitRelease := rows } := by
  simp only [release, eq_ok_iff, insert_eq_ok, eq_comm (a := s')]

lemma finishedHead_effectId (record : EffectRow) (result : EffectResult) (r : EffectRow) :
    ({ r with progress := .finished record.sideEffectStartedAtMs result } : EffectRow).effectId =
      r.effectId := rfl

lemma finishedAttempt_key (result : EffectResult) (a : EffectAttempt) : ({ a with
        state := result.status.toAttemptState
        terminalAtMs := some result.observedAtMs
        terminalKind := some result.status.toAttemptState } : EffectAttempt).key = a.key := rfl

/-- The tables after a first result was written, before any permit is given back. -/
def finished (s : EffectStore) (result : EffectResult) (record : EffectRow) : EffectStore :=
  ({ s with
      effectLedger := s.effectLedger.update
        (fun r => r.effectId = result.effectId && r.result.isNone)
        (fun r => { r with progress := .finished record.sideEffectStartedAtMs result })
        (finishedHead_effectId record result)
      effectAttempts := s.effectAttempts.update
        (fun a => a.key = (result.effectId, record.claim.attempt) && a.terminalAtMs.isNone)
        (fun a => { a with
          state := result.status.toAttemptState
          terminalAtMs := some result.observedAtMs
          terminalKind := some result.status.toAttemptState })
        (finishedAttempt_key result) }).withFact
    (s.nextFact result.effectId record.claim.attempt .receipt none (.receipt result none)
      result.observedAtMs)

/-- A completion repeats the first result, or writes it and gives back at most the lowest open
permit of the same effect. -/
theorem completeEffect_cases {result : EffectResult} {expected : Option EffectState}
    {releasePermit : Bool}
    (h : completeEffect result expected releasePermit s = .ok (row, s')) :
    (s' = s ∧ s.effectLedger.find result.effectId = some row ∧ row.result = some result) ∨
    (∃ record, s.effectLedger.find result.effectId = some record ∧ record.result = none ∧
      record.boundaryMs ≤ result.observedAtMs ∧
      (result.status = .failedFinal ∨ record.state = .sideEffectStarted) ∧
      (∀ st, expected = some st → record.state = st) ∧
      row = { record with progress := .finished record.sideEffectStartedAtMs result } ∧
      (s' = s.finished result record ∨
        ∃ attempt, (s.finished result record).openPermitOf result.effectId = some attempt ∧
          (s.finished result record).release (result.effectId, attempt)
            "effect_receipt" result.observedAtMs = .ok s')) := by
  simp only [completeEffect, eq_ok_iff] at h
  obtain ⟨-, -, -, record, hrecord, h⟩ := h
  cases hresult : record.result with
  | some first =>
    simp only [hresult, eq_ok_iff, not_not] at h
    obtain ⟨rfl, ⟨⟩⟩ := h
    exact .inl ⟨rfl, hrecord, hresult⟩
  | none =>
    simp only [hresult, eq_ok_iff, appendEffectFact_eq_ok, updateOne_eq_ok, not_lt, not_and,
      not_not, not_exists] at h
    obtain ⟨hexpected, htime, hstatus, ledger, ⟨-, rfl⟩, s₁, ⟨-, hs₁⟩, h⟩ := h
    have hfinished : s₁ = s.finished result record := hs₁
    subst hfinished
    refine .inr ⟨record, hrecord, hresult, htime, ?_, hexpected, ?_⟩
    · by_cases hfinal : result.status = .failedFinal
      · exact .inl hfinal
      · exact .inr (hstatus hfinal)
    split at h
    case h_1 attempt hopen =>
      split at h
      · simp only [eq_ok_iff] at h
        obtain ⟨s₂, hrelease, ⟨⟩⟩ := h
        exact ⟨rfl, .inr ⟨attempt, hopen, hrelease⟩⟩
      · simp only [pure_eq_ok] at h
        cases h
        exact ⟨rfl, .inl rfl⟩
    case h_2 =>
      simp only [pure_eq_ok] at h
      cases h
      exact ⟨rfl, .inl rfl⟩

/-- Recording a verdict repeats a decisive one, or puts it on the chain: after a contradiction
when a proof of non-application came first, and otherwise only while no verdict is decisive. -/
theorem recordEffectReconciliation_cases {verdict : Verdict}
    {evidence : Canon} {observedAtMs : ℕ} {reply : ReconciliationReply}
    (h : recordEffectReconciliation effectId attempt verdict evidence observedAtMs s =
      .ok (reply, s')) :
    (s' = s ∧ s.latestEffectVerdict effectId attempt = some verdict ∧ verdict ≠ .inconclusive) ∨
    (∃ row s₁, s.getEffectAttempt effectId attempt = some row ∧
      ((s₁ = s ∧ s.latestEffectVerdict effectId attempt ≠ some .applied ∧
          s.latestEffectVerdict effectId attempt ≠ some .provenNotApplied) ∨
        (s₁ = s.withFact (s.nextFact effectId attempt .contradiction (some verdict)
            (.contradiction .provenNotApplied verdict evidence) observedAtMs) ∧
          s.latestEffectVerdict effectId attempt = some .provenNotApplied ∧
          verdict = .applied)) ∧
      s' = (s₁.withFact (s₁.nextFact effectId attempt .reconciliation (some verdict)
          (.reconciliation verdict evidence) observedAtMs)).withAttempts
        (s.effectAttempts.update (fun a => a.key = (effectId, attempt))
          (fun a => { a with state := verdict.attemptState }) fun _ => rfl)) := by
  simp only [recordEffectReconciliation, eq_ok_iff] at h
  obtain ⟨row, hrow, h⟩ := h
  split at h
  case isTrue hsame =>
    simp only [pure_eq_ok] at h
    cases h
    exact .inl ⟨rfl, hsame⟩
  case isFalse hnew =>
    simp only [eq_ok_iff, appendEffectFact_eq_ok] at h
    obtain ⟨-, s₁, hs₁, s₂, ⟨-, rfl⟩, ⟨⟩⟩ := h
    unfold admitVerdict at hs₁
    simp only at hs₁
    split at hs₁
    case isTrue hlate =>
      obtain ⟨-, rfl⟩ := appendEffectFact_eq_ok.mp hs₁
      exact .inr ⟨row, _, hrow, .inr ⟨rfl, hlate⟩, rfl⟩
    case isFalse =>
      split at hs₁
      case isTrue => cases hs₁
      case isFalse hopen =>
        cases hs₁
        exact .inr ⟨row, _, hrow, .inl ⟨rfl, not_or.mp hopen⟩, rfl⟩

/-- A continuation fences an attempt proven not applied and reserves the next number. -/
theorem continueEffectAfterPna_cases {oldAttempt n : ℕ}
    (h : continueEffectAfterPna effectId oldAttempt nowMs s = .ok (n, s')) :
    ∃ old attempts, s.getEffectAttempt effectId oldAttempt = some old ∧
      old.state = .reconcileRequired ∧
      s.latestEffectVerdict effectId oldAttempt = some .provenNotApplied ∧
      (s.effectAttempts.update
        (fun a => a.key = (effectId, oldAttempt) && a.state = .reconcileRequired)
        (fun a => { a with
          state := .fenced, terminalAtMs := some nowMs, terminalKind := some .fenced })
        fun _ => rfl).Inserts (reservedAttempt old effectId oldAttempt) attempts ∧
      s' = ({ s with effectAttempts := attempts }).withFact
        (s.nextFact effectId (oldAttempt + 1) .claim none
          (.continuation oldAttempt (old.claimRevision + 1)) nowMs) := by
  simp only [continueEffectAfterPna, eq_ok_iff, appendEffectFact_eq_ok, insert_eq_ok,
    updateOne_eq_ok, not_not] at h
  obtain ⟨old, hold, hstate, hverdict, attempts₀, ⟨-, rfl⟩, attempts, hinsert, _, ⟨-, rfl⟩, ⟨⟩⟩ := h
  exact ⟨old, attempts, hold, hstate, hverdict, hinsert, rfl⟩

/-- An admission answers an earlier one, or inserts a finished effect with its three facts. -/
theorem admitSubEffect_cases {claim : EffectClaim} {result : EffectResult} {startedAtMs : ℕ}
    {receiptResponse : Option Canon} {nonces : List NonceRow} {binding : AdmissionBinding}
    {expected : Option ℕ} {reply : EffectRow × Bool × Option Canon}
    (h : admitSubEffect claim result startedAtMs receiptResponse nonces binding expected s =
      .ok (reply, s')) :
    s' = s ∨
    (∃ ledger attempts nonceRows,
      s.effectLedger.Inserts ⟨claim, .finished (some startedAtMs) result⟩ ledger ∧
      s.effectAttempts.Inserts (admittedAttempt claim result startedAtMs binding) attempts ∧
      ∃ f₁ f₂ f₃ : EffectFact, (∀ f ∈ [f₁, f₂, f₃], f.key = (claim.effectId, claim.attempt)) ∧
        f₁.factKind = .receipt ∧ f₂.factKind = .started ∧ f₃.factKind = .claim ∧
        s' = { s with
          effectLedger := ledger
          effectAttempts := attempts
          effectFacts := f₁ :: f₂ :: f₃ :: s.effectFacts
          securityNonceLedger := nonceRows }) := by
  simp only [admitSubEffect, eq_ok_iff] at h
  obtain ⟨-, -, -, -, -, -, -, -, h⟩ := h
  cases hf : s.effectLedger.find claim.effectId with
  | some record =>
    simp only [hf, eq_ok_iff] at h
    obtain ⟨-, -, ⟨⟩⟩ := h
    exact .inl rfl
  | none =>
    simp only [hf, eq_ok_iff, insert_eq_ok, appendEffectFact_eq_ok] at h
    obtain ⟨ledger, hledger, -, attempts, hattempts, s₁, ⟨-, rfl⟩, s₂, ⟨-, rfl⟩, s₃, ⟨-, rfl⟩,
      nonceRows, -, ⟨⟩⟩ := h
    refine .inr ⟨ledger, attempts, nonceRows, hledger, hattempts, _, _, _, ?_, rfl, rfl, rfl, rfl⟩
    simp [nextFact, EffectFact.key]

/-- The attempts after a permit was issued for the claimed attempt `k`. -/
def dispatchedAttempts (attempts : Table key) (k : String × ℕ)
    (nonceSha256 : String) (ticketId ticketSha256 grantSha256 : Option String) (nowMs : ℕ) :
    Table key :=
  attempts.update (fun a => a.key = k && a.state = .claimed)
    (dispatchedAttempt nonceSha256 ticketId ticketSha256 grantSha256 nowMs)
    (dispatchedAttempt_key nonceSha256 ticketId ticketSha256 grantSha256 nowMs)

/-- A permit is issued for a claimed attempt while the fence is open and at epoch zero. -/
theorem acquireDispatchPermit_cases {expected : ℕ}
    {nonceSha256 : String} {ticketId ticketSha256 grantSha256 : Option String}
    {scope : Option DispatchScope} {epoch : ℕ}
    (h : acquireDispatchPermit env effectId attempt expected nonceSha256 ticketId ticketSha256
      grantSha256 scope nowMs s = .ok (epoch, s')) :
    ∃ row head ledger, s.getEffectAttempt effectId attempt = some row ∧ row.state = .claimed ∧
      s.effectLedger.find effectId = some head ∧
      s.actionFence.actionFenceEpoch = 0 ∧ s.actionFence.draining = false ∧
      ledger = (if head.claim.attempt = attempt then
          startedLedger s.effectLedger effectId nowMs else s.effectLedger) ∧
      ∃ f₁ f₂ : EffectFact, f₁.key = (effectId, attempt) ∧ f₁.factKind = .started ∧
        f₂.key = (effectId, attempt) ∧ f₂.factKind = .dispatchPermit ∧
        s' = { s with
          effectLedger := ledger
          effectAttempts := dispatchedAttempts s.effectAttempts (effectId, attempt) nonceSha256
            ticketId ticketSha256 grantSha256 nowMs
          effectFacts := f₁ :: f₂ :: s.effectFacts
          actionFence := { s.actionFence with
            inflightCount := s.actionFence.inflightCount + 1, updatedAtMs := nowMs } } := by
  simp only [acquireDispatchPermit, eq_ok_iff, appendEffectFact_eq_ok, not_not, not_or,
    Bool.not_eq_true] at h
  obtain ⟨⟨-, hepoch, hdraining⟩, row, hrow, hclaimed, head, hhead, _, -, _, -, -, -, attempts,
    hattempts, ledger, hledger, s₁, ⟨-, rfl⟩, s₂, ⟨-, rfl⟩, ⟨⟩⟩ := h
  obtain ⟨-, rfl⟩ := updateOne_eq_ok.mp hattempts
  refine ⟨row, head, ledger, hrow, hclaimed, hhead, hepoch, hdraining, ?_, _, _, rfl, rfl, rfl,
    rfl, rfl⟩
  rw [← key_of_find hhead]
  unfold startHeadOf startHead at hledger
  split at hledger
  case isTrue hattempt =>
    rw [if_pos hattempt]
    exact (updateOne_eq_ok.mp hledger).2
  case isFalse hattempt =>
    rw [if_neg hattempt]
    exact (Except.ok.inj hledger).symm

/-- A release is absorbed when the permit was given back before, and gives it back otherwise. -/
theorem releaseDispatchPermit_cases {u : Unit}
    (h : releaseDispatchPermit effectId attempt nowMs s = .ok (u, s')) :
    (effectId, attempt) ∈ s.permits ∧ ((s' = s ∧ s.released (effectId, attempt) = true) ∨
        (s.released (effectId, attempt) = false ∧
          s.release (effectId, attempt) "explicit_release" nowMs = .ok s')) := by
  simp only [releaseDispatchPermit, eq_ok_iff, not_not] at h
  obtain ⟨hpermit, h⟩ := h
  refine ⟨hpermit, ?_⟩
  split at h
  case isTrue hreleased =>
    simp only [pure_eq_ok] at h
    cases h
    exact .inl ⟨rfl, hreleased⟩
  case isFalse hopen =>
    simp only [eq_ok_iff] at h
    obtain ⟨s₁, hrelease, ⟨⟩⟩ := h
    exact .inr ⟨by simpa using hopen, hrelease⟩

theorem recoverStartedAttempt_cases {row : EffectAttempt} {key : String × ℕ}
    (h : recoverStartedAttempt nowMs row s = .ok (key, s')) :
    ∃ createdAtMs : ℕ, s' = ({ s with
        effectAttempts := s.effectAttempts.update
          (fun a => a.key = row.key && a.state = AttemptState.sideEffectStarted)
          (fun a => { a with state := .reconcileRequired }) fun _ => rfl }).withFact
      (s.nextFact row.effectId row.attempt .reconciliation (some .inconclusive) .recovery
        createdAtMs) := by
  simp only [recoverStartedAttempt, eq_ok_iff, appendEffectFact_eq_ok] at h
  obtain ⟨_, ⟨-, rfl⟩, ⟨⟩⟩ := h
  exact ⟨_, rfl⟩

/-- What every committed transaction keeps, a row-by-row recovery keeps. -/
theorem forEach_preserves {ρ α : Type} {P : EffectStore → Prop}
    {transaction : ρ → EffectStore → Except StoreError (α × EffectStore)} {rows : List ρ}
    (hstep : ∀ r ∈ rows, ∀ s a s', P s → transaction r s = .ok (a, s') → P s')
    {s : EffectStore} (hs : P s) : P (forEach transaction rows s).2 := by
  induction rows generalizing s with
  | nil => exact hs
  | cons r rs ih =>
    have hrest := @ih fun r' hr' => hstep r' (List.mem_cons_of_mem _ hr')
    unfold forEach
    cases htx : transaction r s with
    | error e => exact hs
    | ok pair =>
      have := hrest (hstep r List.mem_cons_self s pair.1 pair.2 hs htx)
      simp only
      split <;> simp_all

theorem recoverStartedAttempts_ledger (nowMs : ℕ) (excluded : Exclusions) (s : EffectStore) :
    (recoverStartedAttempts nowMs excluded s).2.effectLedger = s.effectLedger := by
  unfold recoverStartedAttempts
  split
  · rfl
  · refine forEach_preserves (P := fun s₁ => s₁.effectLedger = s.effectLedger) ?_ rfl
    intro r _ s₁ key s₂ hs₁ h
    obtain ⟨_, rfl⟩ := recoverStartedAttempt_cases h
    exact hs₁

end EffectStore

/-- The calls a caller can make on the effect tables. -/
inductive EffectOp where
  | claimEffect (env : Surroundings) (claim : EffectClaim)
  | admitSubEffect (claim : EffectClaim) (result : EffectResult) (startedAtMs : ℕ)
      (receiptResponse : Option Canon) (nonces : List NonceRow) (binding : AdmissionBinding)
      (expectedFenceEpoch : Option ℕ)
  | markEffectStarted (env : Surroundings) (effectId : String) (startedAtMs : ℕ)
  | acquireDispatchPermit (env : Surroundings) (effectId : String) (attempt : ℕ)
      (expectedFenceEpoch : ℕ) (nonceSha256 : String)
      (ticketId ticketSha256 grantSha256 : Option String) (scope : Option DispatchScope)
      (nowMs : ℕ)
  | completeEffect (result : EffectResult) (expectedState : Option EffectState)
      (releaseDispatchPermit : Bool)
  | releaseDispatchPermit (effectId : String) (attempt nowMs : ℕ)
  | recoverTerminalDispatchPermits (pipelineVersion : String) (nowMs : ℕ)
  | recoverStartedAttempts (nowMs : ℕ) (excluded : Exclusions)
  | recoverStartedEffects (nowMs : ℕ) (excluded : Exclusions)
  | recordEffectReconciliation (effectId : String) (attempt : ℕ) (verdict : Verdict)
      (evidence : Canon) (observedAtMs : ℕ)
  | continueEffectAfterPna (effectId : String) (oldAttempt nowMs : ℕ)
  | incrementActionFence (reason : String) (nowMs : ℕ)

inductive EffectReply where
  | claimed (row : EffectRow) (fresh : Bool)
  | admitted (row : EffectRow) (fresh : Bool) (response : Option Canon)
  | effect (row : EffectRow)
  | fenceEpoch (epoch : ℕ)
  | permitsReleased
  | attemptsRecovered (keys : List (String × ℕ))
  | effectsRecovered (rows : List EffectRow)
  | reconciled (reply : ReconciliationReply)
  | continued (newAttempt : ℕ)
  deriving DecidableEq

open EffectStore in
def effectMachine : Machine EffectStore EffectOp (Except StoreError EffectReply) where
  step s
    | .claimEffect env claim =>
      committed s (fun (row, fresh) => .claimed row fresh) (claimEffect env claim s)
    | .admitSubEffect claim result startedAtMs response nonces binding expected =>
      committed s (fun (row, fresh, response) => .admitted row fresh response)
        (admitSubEffect claim result startedAtMs response nonces binding expected s)
    | .markEffectStarted env effectId startedAtMs =>
      committed s .effect (markEffectStarted env effectId startedAtMs s)
    | .acquireDispatchPermit env effectId attempt expected nonce ticketId ticketSha256 grantSha256
        scope nowMs =>
      committed s .fenceEpoch
        (acquireDispatchPermit env effectId attempt expected nonce ticketId ticketSha256
          grantSha256 scope nowMs s)
    | .completeEffect result expected releasePermit =>
      committed s .effect (completeEffect result expected releasePermit s)
    | .releaseDispatchPermit effectId attempt nowMs =>
      committed s (fun _ => .permitsReleased) (releaseDispatchPermit effectId attempt nowMs s)
    | .recoverTerminalDispatchPermits pipelineVersion nowMs =>
      let (r, s') := recoverTerminalDispatchPermits pipelineVersion nowMs s
      (s', r.map fun _ => .permitsReleased)
    | .recoverStartedAttempts nowMs excluded =>
      let (r, s') := recoverStartedAttempts nowMs excluded s
      (s', r.map .attemptsRecovered)
    | .recoverStartedEffects nowMs excluded =>
      let (r, s') := recoverStartedEffects nowMs excluded s
      (s', r.map .effectsRecovered)
    | .recordEffectReconciliation effectId attempt verdict evidence observedAtMs =>
      committed s .reconciled
        (recordEffectReconciliation effectId attempt verdict evidence observedAtMs s)
    | .continueEffectAfterPna effectId oldAttempt nowMs =>
      committed s .continued (continueEffectAfterPna effectId oldAttempt nowMs s)
    | .incrementActionFence reason nowMs =>
      let (epoch, s') := incrementActionFence reason nowMs s
      (s', .ok (.fenceEpoch epoch))

end Tiangong
