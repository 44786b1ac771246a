import Tiangong.AmbiguousRepair

/-!
# Bindings and the effects they own

The repair operations move a binding and its effect together. The effect is also within reach of
the generic completion and of the restart recovery, which do not look at bindings; as long as
these leave started bindings alone, every binding past its reservation mirrors its effect.
-/
open List

namespace Tiangong

open Table EffectRow BindingState

/-- The head state of an effect that has crossed its boundary or was finished. -/
def EffectRow.crossed (r : EffectRow) : Bool := r.state ≠ .claimed

lemma EffectRow.state_of_result {r : EffectRow} {result : EffectResult}
    (h : r.result = some result) : r.state = result.status.toState := by
  unfold EffectRow.result at h
  unfold EffectRow.state
  split at h <;> simp_all

lemma EffectRow.started_or_finished {r : EffectRow} (h : r.crossed = true) :
    r.state = .sideEffectStarted ∨ r.result.isSome = true := by
  rcases r with ⟨claim, _ | _ | _⟩ <;> simp_all [crossed, state, result]

def EffectOp.mayFinish (row : EffectRow) : EffectOp → Prop
  | .completeEffect result expected releasePermit =>
    result.effectId = row.effectId ∧ result.hasValidSha256 = true ∧
      (releasePermit = true ∨ result.status = .ambiguous) ∧
      row.boundaryMs ≤ result.observedAtMs ∧ ∀ state, expected = some state → row.state = state
  | .recoverStartedEffects _ excluded =>
    excluded.effectIds.Nodup ∧ row.claim.pipelineVersion ∉ excluded.pipelineVersions ∧
      row.effectId ∉ excluded.effectIds
  | _ => False

namespace EffectStore

variable {s s' : EffectStore} {row : EffectRow}

/-- The ledger holds the row under its key. -/
def Holds (row : EffectRow) (s : EffectStore) : Prop := s.getEffect row.effectId = some row

lemma holds_of_getEffect {id : String} (h : s.getEffect id = some row) : Holds row s := by
  have hkey : row.effectId = id := key_of_find h
  rwa [Holds, hkey]

lemma startedLedger_of_crossed {ledger : Table effectId} {effectId : String}
    {startedAtMs : ℕ} (hrow : ledger.find row.effectId = some row) (hcrossed : row.crossed = true) :
    (startedLedger ledger effectId startedAtMs).find row.effectId = some row := by
  unfold startedLedger
  rw [find_update_of_not, hrow]
  intro r hr
  rw [hrow] at hr
  cases hr
  simp only [crossed, decide_eq_true_eq] at hcrossed
  simp [hcrossed]

section Start

variable {env : Surroundings} {effectId : String} {startedAtMs : ℕ} {r : EffectRow}
  (h : markEffectStarted env effectId startedAtMs s = .ok (r, s'))

include h

lemma holds_markEffectStarted (hrow : Holds row s) (hcrossed : row.crossed = true) :
    Holds row s' := by
  obtain ⟨rfl, -⟩ | ⟨record, -, -, -, -, -, rfl⟩ := markEffectStarted_cases h
  · exact hrow
  · exact startedLedger_of_crossed hrow hcrossed

lemma headState_markEffectStarted : s'.getEffectHeadState effectId = some .sideEffectStarted := by
  obtain ⟨rfl, hrow, hstarted⟩ | ⟨record, hrecord, hclaimed, -, -, -, rfl⟩ :=
    markEffectStarted_cases h
  · have hget : s'.getEffect effectId = some r := hrow
    rw [getEffectHeadState, hget, Option.map_some, hstarted]
  · have hkey : record.effectId = effectId := key_of_find hrecord
    change ((startedLedger s.effectLedger effectId startedAtMs).find effectId).map _ = _
    rw [startedLedger, find_update, hrecord]
    simp [hkey, hclaimed]
    rfl

end Start

lemma getEffect_finished (s : EffectStore) (result : EffectResult) (record : EffectRow)
    (id : String) :
    (s.finished result record).getEffect id = (s.getEffect id).map fun r =>
      if r.effectId = result.effectId && r.result.isNone then
        { r with progress := .finished record.sideEffectStartedAtMs result } else r := by
  simp only [getEffect, finished, withFact, find_update]

section Complete

variable {result : EffectResult} {expected : Option EffectState} {releasePermit : Bool}
  {r : EffectRow} (h : completeEffect result expected releasePermit s = .ok (r, s'))

include h

lemma holds_completeEffect (hrow : Holds row s)
    (hother : row.result.isSome = true ∨ result.effectId ≠ row.effectId) : Holds row s' := by
  obtain ⟨rfl, -⟩ | ⟨record, -, -, -, -, -, -, hs'⟩ := completeEffect_cases h
  · exact hrow
  · have hkept : Holds row (s.finished result record) := by
      rw [Holds, getEffect_finished, hrow, Option.map_some, if_neg]
      rcases hother with hresult | hid
      · simp [Option.isNone_iff_eq_none, Option.ne_none_iff_isSome.mpr hresult]
      · simp [Ne.symm hid]
    rcases hs' with rfl | ⟨attempt, -, hrelease⟩
    · exact hkept
    · obtain ⟨rows, -, rfl⟩ := release_eq_ok.mp hrelease
      exact hkept

lemma mayFinish_of_completeEffect (hrow : Holds row s) (hstarted : row.state = .sideEffectStarted)
    (hid : result.effectId = row.effectId) :
    (EffectOp.completeEffect result expected releasePermit).mayFinish row := by
  have hguards : result.hasValidSha256 = true ∧
      (releasePermit = true ∨ result.status = .ambiguous) := by
    simp only [completeEffect, eq_ok_iff, Bool.not_eq_false, not_and_or, not_not] at h
    exact ⟨h.1, h.2.2.1⟩
  obtain ⟨-, hfind, hresult⟩ | ⟨record, hrecord, -, htime, -, hexpected, -⟩ :=
    completeEffect_cases h
  · have hsame : r = row := s.effectLedger.eq_of_key_eq (mem_of_find hfind)
      (mem_of_find hrow) ((key_of_find hfind).trans hid)
    rw [hsame] at hresult
    rw [state_of_result hresult] at hstarted
    cases hstatus : result.status <;> simp [hstatus, EffectStatus.toState] at hstarted
  · have hsame : record = row := s.effectLedger.eq_of_key_eq (mem_of_find hrecord)
      (mem_of_find hrow) ((key_of_find hrecord).trans hid)
    exact ⟨hid, hguards.1, hguards.2, hsame ▸ htime, hsame ▸ hexpected⟩

/-- An accepted completion leaves its result in the head row. -/
lemma recorded_completeEffect :
    ∃ row, row.effectId = result.effectId ∧ Holds row s' ∧ row.result = some result := by
  obtain ⟨rfl, hrow, hresult⟩ | ⟨record, hrecord, hopen, -, -, -, -, hs'⟩ := completeEffect_cases h
  · have hkey : r.effectId = result.effectId := key_of_find hrow
    exact ⟨r, hkey, holds_of_getEffect hrow, hresult⟩
  · have hkey : record.effectId = result.effectId := key_of_find hrecord
    have hget : s.getEffect record.effectId = some record := holds_of_getEffect hrecord
    have hkept : Holds { record with progress := .finished record.sideEffectStartedAtMs result }
        (s.finished result record) := by
      rw [Holds, getEffect_finished]
      change (s.getEffect record.effectId).map _ = _
      rw [hget]
      simp [hkey, hopen]
    refine ⟨{ record with progress := .finished record.sideEffectStartedAtMs result }, hkey, ?_, rfl⟩
    rcases hs' with rfl | ⟨attempt, -, hrelease⟩
    · exact hkept
    · obtain ⟨rows, -, rfl⟩ := release_eq_ok.mp hrelease
      exact hkept

lemma headState_completeEffect :
    s'.getEffectHeadState result.effectId = some result.status.toState := by
  obtain ⟨row, hkey, hrow, hresult⟩ := recorded_completeEffect h
  rw [getEffectHeadState, ← hkey, hrow, Option.map_some, state_of_result hresult]

end Complete

/-- Giving permits back leaves the ledger alone. -/
lemma holds_releaseDispatchPermit {effectId : String} {attempt nowMs : ℕ} {u : Unit}
    (h : releaseDispatchPermit effectId attempt nowMs s = .ok (u, s')) (hrow : Holds row s) :
    Holds row s' := by
  obtain ⟨-, ⟨rfl, -⟩ | ⟨-, hrelease⟩⟩ := releaseDispatchPermit_cases h
  · exact hrow
  · obtain ⟨rows, -, rfl⟩ := release_eq_ok.mp hrelease
    exact hrow

lemma nodup_of_recoverStartedAttempts {nowMs : ℕ} {excluded : Exclusions}
    {keys : List (String × ℕ)} (h : recoverStartedAttempts nowMs excluded s = (.ok keys, s')) :
    excluded.effectIds.Nodup := by
  unfold recoverStartedAttempts at h
  split at h
  · cases h
  · exact not_not.mp ‹_›

lemma holds_recoverStartedEffects {nowMs : ℕ} {excluded : Exclusions} (hrow : Holds row s)
    (hout : row.result.isSome = true ∨
      ¬ (EffectOp.recoverStartedEffects nowMs excluded).mayFinish row) :
    Holds row (recoverStartedEffects nowMs excluded s).2 := by
  unfold recoverStartedEffects
  have hledger := recoverStartedAttempts_ledger nowMs excluded s
  rcases hattempts : recoverStartedAttempts nowMs excluded s with ⟨e | keys, s₁⟩
  · rw [hattempts] at hledger
    rwa [Holds, getEffect, hledger]
  · rw [hattempts] at hledger
    have hrow₁ : Holds row s₁ := by rwa [Holds, getEffect, hledger]
    refine forEach_preserves (P := Holds row) (fun r hr t _ t' ht h => ?_) hrow₁
    refine holds_completeEffect h ht (or_iff_not_imp_left.mpr fun hopen hid => ?_)
    rw [recoveredResult_effectId] at hid
    simp only [mem_filter, mem_orderBy, Bool.not_eq_true', Bool.or_eq_false_iff,
      decide_eq_false_iff_not] at hr
    have hsame : r = row := s₁.effectLedger.eq_of_key_eq hr.1.1 (mem_of_find hrow₁) hid
    rw [hsame] at hr
    exact hout.elim hopen fun hnot => hnot ⟨nodup_of_recoverStartedAttempts hattempts, hr.2⟩

/-- An operation that may not finish a crossed effect leaves its row alone. -/
lemma holds_step {op : EffectOp} (hrow : Holds row s) (hcrossed : row.crossed = true)
    (hop : row.state = .sideEffectStarted → ¬ op.mayFinish row) :
    Holds row (effectMachine.step s op).1 := by
  have hfinished := started_or_finished hcrossed
  cases op with
  | claimEffect env claim =>
    refine committed_fst hrow ?_
    rintro ⟨r, fresh⟩ s' h
    obtain ⟨-, rfl, -⟩ | ⟨-, -, -, ledger, attempts, hledger, -, rfl⟩ := claimEffect_cases h
    · exact hrow
    · exact hledger.find_of_some hrow
  | admitSubEffect claim result startedAtMs response nonces binding expected =>
    refine committed_fst hrow fun reply s' h => ?_
    rcases admitSubEffect_cases h with rfl |
      ⟨ledger, attempts, nonceRows, hledger, -, f₁, f₂, f₃, -, -, -, -, rfl⟩
    · exact hrow
    · exact hledger.find_of_some hrow
  | markEffectStarted env effectId startedAtMs =>
    exact committed_fst hrow fun r s' h => holds_markEffectStarted h hrow hcrossed
  | acquireDispatchPermit env effectId attempt expected nonce ticketId ticketSha256 grantSha256
      scope nowMs =>
    refine committed_fst hrow fun _ s' h => ?_
    obtain ⟨_, head, ledger, -, -, -, -, -, hledger, f₁, f₂, -, -, -, -, rfl⟩ :=
      acquireDispatchPermit_cases h
    change ledger.find row.effectId = some row
    rw [hledger]
    split
    · exact startedLedger_of_crossed hrow hcrossed
    · exact hrow
  | completeEffect result expected releasePermit =>
    refine committed_fst hrow fun _ s' h => holds_completeEffect h hrow ?_
    exact hfinished.symm.imp_right fun hstarted hid =>
      hop hstarted (mayFinish_of_completeEffect h hrow hstarted hid)
  | releaseDispatchPermit effectId attempt nowMs =>
    exact committed_fst hrow fun _ s' h => holds_releaseDispatchPermit h hrow
  | recoverTerminalDispatchPermits pipelineVersion nowMs =>
    change Holds row (recoverTerminalDispatchPermits pipelineVersion nowMs s).2
    unfold recoverTerminalDispatchPermits
    split
    · exact hrow
    · exact forEach_preserves (fun _ _ _ _ _ ht h => holds_releaseDispatchPermit h ht) hrow
  | recoverStartedAttempts nowMs excluded =>
    change Holds row (recoverStartedAttempts nowMs excluded s).2
    rwa [Holds, getEffect, recoverStartedAttempts_ledger]
  | recoverStartedEffects nowMs excluded =>
    change Holds row (recoverStartedEffects nowMs excluded s).2
    exact holds_recoverStartedEffects hrow (hfinished.symm.imp_right hop)
  | recordEffectReconciliation effectId attempt verdict evidence observedAtMs =>
    refine committed_fst hrow fun _ s' h => ?_
    obtain ⟨rfl, -⟩ | ⟨_, s₁, -, hs₁, rfl⟩ := recordEffectReconciliation_cases h
    · exact hrow
    · rcases hs₁ with ⟨rfl, -⟩ | ⟨rfl, -⟩ <;> exact hrow
  | continueEffectAfterPna effectId oldAttempt nowMs =>
    refine committed_fst hrow fun _ s' h => ?_
    obtain ⟨old, attempts, -, -, -, -, rfl⟩ := continueEffectAfterPna_cases h
    exact hrow
  | incrementActionFence reason nowMs => exact hrow

end EffectStore

/-- The effect state a binding stands for, once it is past its reservation. -/
def BindingState.mirrored : BindingState → Option EffectState
  | .reserved => none
  | .sideEffectStarted => some .sideEffectStarted
  | .succeeded => some .succeeded
  | .failedFinal => some .failedFinal
  | .ambiguous => some .ambiguous

lemma BindingState.mirrored_started {state : BindingState} :
    state.mirrored = some .sideEffectStarted ↔ state = .sideEffectStarted := by
  cases state <;> simp [mirrored]

lemma BindingState.mirrored_of_terminal {state : BindingState} {status : EffectStatus}
    (h : state.terminalStatus = some status) : state.mirrored = some status.toState := by
  cases state <;> simp_all [terminalStatus, mirrored, EffectStatus.toState]
  all_goals subst h; rfl

namespace RepairStore

variable {s s' : RepairStore}

/-- The effect of a binding past its reservation is in the state the binding stands for. -/
def Mirrors (effects : EffectStore) (b : RepairBinding) : Prop :=
  b.state ≠ .reserved → effects.getEffectHeadState b.effectId = b.state.mirrored

instance (effects : EffectStore) (b : RepairBinding) : Decidable (Mirrors effects b) :=
  inferInstanceAs (Decidable (b.state ≠ .reserved → _ = _))

/-- Every binding mirrors its effect. -/
def Agrees (s : RepairStore) : Prop :=
  ∀ b ∈ s.repairExecutionBindings.table.rows, Mirrors s.effects b

instance (s : RepairStore) : Decidable s.Agrees :=
  inferInstanceAs (Decidable (∀ b ∈ s.repairExecutionBindings.table.rows, Mirrors s.effects b))

/-- The tables the agreement is about. -/
def bound (s : RepairStore) : RepairBindings × EffectStore := (s.repairExecutionBindings, s.effects)

lemma agrees_of_eq (h : s'.bound = s.bound) (hs : s.Agrees) : s'.Agrees := by
  have hbindings : s'.repairExecutionBindings = s.repairExecutionBindings := congrArg Prod.fst h
  have heffects : s'.effects = s.effects := congrArg Prod.snd h
  unfold Agrees
  rw [hbindings, heffects]
  exact hs

def FinishesOutside (s : RepairStore) : RepairOp → Prop
  | .effect op => ∃ b ∈ s.repairExecutionBindings.table.rows, b.state = .sideEffectStarted ∧
      ∃ row, s.effects.getEffect b.effectId = some row ∧ op.mayFinish row
  | _ => False

theorem Mirrors.holds {effects : EffectStore} {b : RepairBinding} (h : Mirrors effects b)
    (hb : b.state ≠ .reserved) :
    ∃ row, row.effectId = b.effectId ∧ effects.Holds row ∧ row.crossed = true ∧
      b.state.mirrored = some row.state := by
  have hhead := h hb
  cases hget : effects.getEffect b.effectId with
  | none =>
    rw [EffectStore.getEffectHeadState, hget] at hhead
    cases hstate : b.state <;> simp_all [mirrored]
  | some row =>
    have hkey : row.effectId = b.effectId := key_of_find hget
    rw [EffectStore.getEffectHeadState, hget] at hhead
    refine ⟨row, hkey, by rwa [EffectStore.Holds, hkey], ?_, hhead.symm⟩
    cases hstate : b.state <;> simp_all [mirrored, crossed]

/-- A binding goes on mirroring an effect whose head row is held. -/
lemma Mirrors.of_holds {effects effects' : EffectStore} {b : RepairBinding}
    (h : Mirrors effects b)
    (hkeep : ∀ row, row.effectId = b.effectId → row.crossed = true →
      b.state.mirrored = some row.state → effects.Holds row → effects'.Holds row) :
    Mirrors effects' b := by
  intro hb
  obtain ⟨row, hkey, hrow, hcrossed, hstate⟩ := h.holds hb
  have hrow' : effects'.getEffect b.effectId = some row := by
    rw [← hkey]
    exact hkeep row hkey hcrossed hstate hrow
  rw [EffectStore.getEffectHeadState, hrow', hstate, Option.map_some]

lemma agrees_reserve {r : Reservation} {reply : ReserveOutcome × RepairBinding}
    (hs : s.Agrees) (h : reserveRepairExecution r s = .ok (reply, s')) : s'.Agrees := by
  rcases reserveRepairExecution_cases h with rfl | ⟨existing, -, -, -, -, -, rfl⟩ |
    ⟨-, -, -, rows, hrows, rfl⟩
  · exact hs
  · intro b hb
    obtain ⟨old, hold, rfl⟩ := mem_takenOverBindings.mp hb
    split
    · exact hs old hold
    · exact hs old hold
  · intro b hb
    change b ∈ rows.table.rows at hb
    rw [(RepairBindings.insert_eq_ok hrows).rows, mem_append, mem_singleton] at hb
    rcases hb with hb | rfl
    · exact hs b hb
    · exact fun hreserved => absurd rfl hreserved

lemma agrees_start {env : Surroundings} {id : Canon} {effectId : String} {startedAtMs : ℕ}
    {claimId : String} {revision : ℕ} {reply : StartOutcome × RepairBinding} (hs : s.Agrees)
    (h : startRepairExecution env id effectId startedAtMs claimId revision s = .ok (reply, s')) :
    s'.Agrees := by
  obtain ⟨row, hrow, heffect, ⟨-, -, rfl, -⟩ | ⟨-, -, -, hlive, r, effects, hmark, rfl⟩⟩ :=
    startRepairExecution_cases h
  · exact hs
  · intro b hb
    obtain ⟨old, hold, rfl⟩ := mem_startedBindings.mp hb
    split
    case isTrue hselected =>
      rw [Bool.and_eq_true, decide_eq_true_eq] at hselected
      have hsame : old = row := s.repairExecutionBindings.table.eq_of_key_eq hold
        (mem_of_find hrow) (hselected.1.trans (key_of_find hrow).symm)
      intro _
      rw [hsame]
      change effects.getEffectHeadState row.effectId = some .sideEffectStarted
      rw [heffect]
      exact EffectStore.headState_markEffectStarted hmark
    case isFalse =>
      refine (hs old hold).of_holds fun row _ hcrossed _ hrow => ?_
      exact EffectStore.holds_markEffectStarted hmark hrow hcrossed

lemma agrees_complete {c : Completion} {b : RepairBinding} (hs : s.Agrees)
    (h : completeRepairExecution c s = .ok (b, s')) : s'.Agrees := by
  obtain ⟨status, row, hstatus, hrow, ⟨rfl, -, -⟩ |
    ⟨-, -, -, result, r, effects, hresult, hcomplete, rfl⟩⟩ := completeRepairExecution_cases h
  · exact hs
  · obtain ⟨heffect, hresultStatus⟩ := terminalResult_eq_ok hresult
    intro b hb
    obtain ⟨old, hold, rfl⟩ := mem_completedBindings.mp hb
    split
    case isTrue hid =>
      have hsame : old = row := s.repairExecutionBindings.table.eq_of_key_eq hold
        (mem_of_find hrow) (hid.trans (key_of_find hrow).symm)
      intro _
      rw [hsame]
      change effects.getEffectHeadState row.effectId = c.state.mirrored
      rw [← heffect, mirrored_of_terminal hstatus, ← hresultStatus]
      exact EffectStore.headState_completeEffect hcomplete
    case isFalse hid =>
      refine (hs old hold).of_holds fun head hkey _ _ hhead => ?_
      refine EffectStore.holds_completeEffect hcomplete hhead (.inr fun hsameEffect => hid ?_)
      have hsame : old = row := s.repairExecutionBindings.effectId_unique.eq hold
        (mem_of_find hrow) (by rw [← heffect, hsameEffect, hkey])
      rw [hsame]
      exact key_of_find hrow

/-- A call that finishes no started effect from outside keeps every binding in agreement. -/
lemma agrees_step {op : RepairOp} (hs : s.Agrees) (hop : ¬ s.FinishesOutside op) :
    (repairMachine.step s op).1.Agrees := by
  cases op with
  | reserve r => exact committed_fst hs fun _ _ h => agrees_reserve hs h
  | start env id effectId startedAtMs claimId revision =>
    exact committed_fst hs fun _ _ h => agrees_start hs h
  | complete c => exact committed_fst hs fun _ _ h => agrees_complete hs h
  | effect op =>
    intro b hb
    refine (hs b hb).of_holds fun row hkey hcrossed hmirrored hrow => ?_
    refine EffectStore.holds_step hrow hcrossed fun hstarted hfinish => hop ?_
    rw [hstarted] at hmirrored
    exact ⟨b, hb, mirrored_started.mp hmirrored, row, hkey ▸ hrow, hfinish⟩
  | putDirective directive recordedAtMs =>
    refine committed_fst hs fun _ s' h => agrees_of_eq ?_ hs
    unfold putRepairDirective at h
    exact putSealed_keeps (f := bound) h fun _ _ => rfl
  | putAttempt attempt recordedAtMs =>
    refine committed_fst hs fun _ s' h => agrees_of_eq ?_ hs
    unfold putRepairAttempt at h
    exact putSealed_keeps (f := bound) h fun _ _ => rfl
  | requestsMoved requests => exact hs

/-! ## The attempt that is recorded for a binding -/

section Attempt

variable {directive : RepairDirective} {result : RepairDispatchResult} {b : RepairBinding}
  {row : EffectRow} {outcome : ExecutionOutcome} {recordId : Option String}
  {startedAtMs finishedAtMs : ℕ}

/-- The claim of an effect belongs to the directive: it is of its request, run and generation and
not older than it. -/
def ClaimedFor (directive : RepairDirective) (row : EffectRow) : Prop :=
  row.claim.requestId = directive.requestId ∧ row.claim.runId = directive.runId ∧
    row.claim.generation = directive.generation ∧ directive.issuedAtMs ≤ row.claim.claimedAtMs

/-- Another attempt is on file under the number of this one. -/
def NumberTaken (s : RepairStore) (attempt : RepairAttemptRecord) : Prop :=
  ∃ a ∈ s.repairAttempts.rows, a.1.planEntryId = attempt.planEntryId ∧
    a.1.repairAttemptNo = attempt.repairAttemptNo ∧ a.1.repairAttemptId ≠ attempt.repairAttemptId

/-- Both checks of the states under an outcome accept this pair. -/
def fits (outcome : ExecutionOutcome) (state : BindingState) (effectState : EffectState) : Bool :=
  (expectedPairs outcome).any (fun pair => pair = (state, effectState)) &&
    (allowedStates outcome).all (effectState ∈ ·)

lemma checkExecutionEffect_iff (hrow : s.effects.getEffect b.effectId = some row)
    (hfits : fits outcome b.state row.state = true) :
    s.checkExecutionEffect (attemptOf directive outcome result recordId startedAtMs finishedAtMs)
        directive b.effectId = .ok () ↔ ClaimedFor directive row := by
  simp only [checkExecutionEffect, eq_ok_iff, hrow, Option.some.injEq, exists_eq_left', not_or,
    not_not, not_lt, ClaimedFor, and_assoc]
  change _ ∧ _ ∧ _ ∧ _ ∧ ¬(∃ states, allowedStates outcome = some states ∧ _) ↔ _
  constructor
  · rintro ⟨hrequest, hrun, hgeneration, htime, -⟩
    exact ⟨hrequest, hrun, hgeneration, htime⟩
  · rintro ⟨hrequest, hrun, hgeneration, htime⟩
    refine ⟨hrequest, hrun, hgeneration, htime, ?_⟩
    rintro ⟨states, hstates, hnot⟩
    refine hnot ?_
    simpa [fits, hstates] using (Bool.and_eq_true_iff.mp hfits).2

lemma revalidate_attemptOf_iff
    (hdirective : s.getRepairDirectiveById directive.repairDirectiveId = some directive)
    (hbinding : s.getRepairExecutionBindingByAttempt directive.planEntryId
      directive.repairAttemptNo = some b)
    (hid : b.repairDirectiveId = directive.repairDirectiveId)
    (hids : result.executionEffectIds = [b.effectId])
    (hrow : s.effects.getEffect b.effectId = some row)
    (hfits : fits outcome b.state row.state = true) :
    let attempt := attemptOf directive outcome result recordId startedAtMs finishedAtMs
    revalidateRepairAttempt attempt s = .ok () ↔
      ¬ s.NumberTaken attempt ∧ ClaimedFor directive row ∧
        s.checkReverifyRecord attempt directive = .ok () := by
  intro attempt
  simp only [revalidateRepairAttempt, eq_ok_iff]
  have hhead : s.effects.getEffectHeadState b.effectId = some row.state := by
    rw [EffectStore.getEffectHeadState, hrow, Option.map_some]
  have heffects : attempt.executionEffectIds = [b.effectId] := hids
  have hcheck : (∃ u, attempt.executionEffectIds.forM (s.checkExecutionEffect attempt directive) =
      .ok u) ↔ ClaimedFor directive row := by
    have hone : s.checkExecutionEffect attempt directive b.effectId = .ok () ↔
        ClaimedFor directive row := checkExecutionEffect_iff hrow hfits
    rw [heffects, ← hone]
    simp only [forM_eq_forM, forM_cons, forM_nil, eq_ok_iff]
    constructor
    · rintro ⟨u, h, -⟩
      exact h
    · intro h
      exact ⟨(), h, trivial⟩
  constructor
  · rintro ⟨d, hd, -, -, -, hnumber, b', hb', -, st, hst, -, u, hforM, hrecord⟩
    have hsame : d = directive := Option.some.inj (hd.symm.trans hdirective)
    subst hsame
    exact ⟨hnumber, hcheck.mp ⟨u, hforM⟩, hrecord⟩
  · rintro ⟨hnumber, hclaimed, hrecord⟩
    obtain ⟨u, hforM⟩ := hcheck.mpr hclaimed
    refine ⟨directive, hdirective, not_not.mpr rfl, not_not.mpr rfl, not_not.mpr rfl, hnumber, b,
      hbinding, not_not.mpr hid, row.state, hhead, ?_, u, hforM, hrecord⟩
    simp only [not_or, not_not]
    have hpair : (b.state, row.state) ∈ expectedPairs outcome := by
      simpa using (Bool.and_eq_true_iff.mp hfits).1
    exact ⟨heffects, hpair⟩

def resolvedAttempt (directive : RepairDirective) (result : RepairDispatchResult)
    (readiness : VerificationReadiness) (recordId : Option String)
    (startedAtMs finishedAtMs : ℕ) : RepairAttemptRecord :=
  if result.executionOutcome = .executionAmbiguous then
    attemptOf directive .executionAmbiguous result none startedAtMs finishedAtMs
  else
    attemptOf directive (attemptOutcome directive result readiness) result recordId startedAtMs
      finishedAtMs

/-- What a binding resolves to names its effect, and the outcome its state stands for. -/
lemma resolveBinding_eq_resolved (h : resolveBinding directive s = .resolved result) :
    ∃ b, s.getRepairExecutionBindingByAttempt directive.planEntryId directive.repairAttemptNo =
        some b ∧ b.repairDirectiveId = directive.repairDirectiveId ∧
      result.executionEffectIds = [b.effectId] ∧
      (((b.state = .sideEffectStarted ∨ b.state = .ambiguous) ∧
          result.executionOutcome = .executionAmbiguous) ∨
        (b.state = .succeeded ∧ result.executionOutcome = .dispatched) ∨
        (b.state = .failedFinal ∧ result.executionOutcome = .executionFailed)) := by
  unfold resolveBinding at h
  split at h
  · cases h
  · rename_i b hb
    refine ⟨b, hb, ?_⟩
    split at h
    · cases h
    · rename_i hid
      refine ⟨not_not.mp hid, ?_⟩
      cases hstate : b.state <;> rw [hstate] at h <;> cases h <;> simp

/-- For a binding that mirrors its effect the attempt is taken, unless its number is taken, its
effect was claimed for something else, or its re-verification record is bound elsewhere. -/
lemma revalidate_resolvedAttempt_iff {readiness : VerificationReadiness} (hs : s.Agrees)
    (hdirective : s.getRepairDirectiveById directive.repairDirectiveId = some directive)
    (hresolved : resolveBinding directive s = .resolved result) :
    let attempt := resolvedAttempt directive result readiness recordId startedAtMs finishedAtMs
    revalidateRepairAttempt attempt s = .ok () ↔ ¬ s.NumberTaken attempt ∧
        (∀ effectId ∈ result.executionEffectIds, ∀ row, s.effects.getEffect effectId = some row →
          ClaimedFor directive row) ∧
        s.checkReverifyRecord attempt directive = .ok () := by
  intro attempt
  obtain ⟨b, hb, hid, hids, hstate⟩ := resolveBinding_eq_resolved hresolved
  have hmirrors := hs b (mem_of_find?_eq_some hb)
  have hopen : b.state ≠ .reserved := by
    intro hreserved
    simp [hreserved] at hstate
  obtain ⟨row, hkey, hrow, -, hmirrored⟩ := hmirrors.holds hopen
  have hget : s.effects.getEffect b.effectId = some row := by
    rw [← hkey]
    exact hrow
  have hclaimed : (∀ effectId ∈ result.executionEffectIds, ∀ row,
      s.effects.getEffect effectId = some row → ClaimedFor directive row) ↔
      ClaimedFor directive row := by
    simp [hids, hget]
  rw [hclaimed]
  rcases hstate with ⟨hcrossed, houtcome⟩ | ⟨hdone, houtcome⟩ | ⟨hfailed, houtcome⟩
  · have hattempt : attempt =
        attemptOf directive .executionAmbiguous result none startedAtMs finishedAtMs :=
      if_pos houtcome
    have hfits : fits .executionAmbiguous b.state row.state = true := by
      rcases hcrossed with h | h <;> rw [h] at hmirrored ⊢ <;> rw [← Option.some.inj hmirrored] <;>
        decide
    rw [hattempt]
    exact revalidate_attemptOf_iff hdirective hb hid hids hget hfits
  · have hattempt : attempt = attemptOf directive (attemptOutcome directive result readiness) result
        recordId startedAtMs finishedAtMs := if_neg (by simp [houtcome])
    have hfits : fits (attemptOutcome directive result readiness) b.state row.state = true := by
      rw [hdone] at hmirrored ⊢
      rw [← Option.some.inj hmirrored]
      simp only [attemptOutcome, houtcome]
      split <;> decide
    rw [hattempt]
    exact revalidate_attemptOf_iff hdirective hb hid hids hget hfits
  · have hattempt : attempt = attemptOf directive (attemptOutcome directive result readiness) result
        recordId startedAtMs finishedAtMs := if_neg (by simp [houtcome])
    have hfits : fits (attemptOutcome directive result readiness) b.state row.state = true := by
      rw [hfailed] at hmirrored ⊢
      rw [← Option.some.inj hmirrored]
      simp only [attemptOutcome, houtcome]
      decide
    rw [hattempt]
    exact revalidate_attemptOf_iff hdirective hb hid hids hget hfits

end Attempt

end RepairStore

open RepairStore in
/-- Over every run in which no started effect of a binding is finished from outside, every binding
past its reservation mirrors its effect, and the attempt that is recorded for it is refused only
for its number, for a foreign effect claim or for a foreign re-verification record. -/
theorem bindings_agree_of_noOutsideFinish (s : RepairStore) (ops : List RepairOp)
    (hfresh : s.repairExecutionBindings.table.rows = [])
    (hops : repairMachine.Steps (fun s op => ¬ s.FinishesOutside op) s ops) :
    let t := repairMachine.exec s ops
    t.Agrees ∧ ∀ directive result readiness recordId startedAtMs finishedAtMs,
      t.getRepairDirectiveById directive.repairDirectiveId = some directive →
      resolveBinding directive t = .resolved result →
      let attempt := resolvedAttempt directive result readiness recordId startedAtMs finishedAtMs
      (revalidateRepairAttempt attempt t = .ok () ↔ ¬ t.NumberTaken attempt ∧
          (∀ effectId ∈ result.executionEffectIds, ∀ row,
            t.effects.getEffect effectId = some row → ClaimedFor directive row) ∧
          t.checkReverifyRecord attempt directive = .ok ()) := by
  intro t
  have hagrees : t.Agrees := by
    refine Machine.exec_preserves_of_steps Agrees (fun _ _ hs hop => agrees_step hs hop) ?_ hops
    intro b hb
    rw [hfresh] at hb
    cases hb
  exact ⟨hagrees, fun _ _ _ _ _ _ hdirective hresolved =>
    revalidate_resolvedAttempt_iff hagrees hdirective hresolved⟩

namespace Sample

/-- The store with the directive of a first repair, and no binding yet. -/
def directedStore : RepairStore :=
  ((crashedRun plan readiness (fun _ => true) .afterDirective 100).on store).2

def repairStarted (directive : RepairDirective) : List RepairOp :=
  [.effect (.claimEffect quietSurroundings repairClaim), .reserve (reservationOf directive),
    .start quietSurroundings directive.repairDirectiveId "eff_0" 103 "claim_0" 1]

def startedOps : List RepairOp :=
  directedStore.repairDirectives.rows.flatMap fun row => repairStarted row.1

/-- The store after the first repair was started and the gateway restarted. -/
def recoveredStore : RepairStore :=
  repairMachine.exec directedStore (startedOps ++ [.effect (.recoverStartedEffects 200 ⟨[], []⟩)])

/-- The attempt the repair loop records on its next run. -/
def recoveredAttempt (directive : RepairDirective) : RepairAttemptRecord :=
  attemptOf directive .executionAmbiguous
    ⟨.executionAmbiguous, directive.effectiveSubjectIdentity, ["eff_0"]⟩ none 300 301

end Sample

open RepairStore in
theorem bindings_agree_sample :
    (repairMachine.exec Sample.directedStore Sample.startedOps).Agrees := by
  refine (bindings_agree_of_noOutsideFinish Sample.directedStore Sample.startedOps
    (by decide +kernel) (repairMachine.steps_of_forall fun op hop s hfinish => ?_)).1
  obtain ⟨row, -, hop⟩ := mem_flatMap.mp hop
  simp only [Sample.repairStarted, mem_cons, not_mem_nil, or_false] at hop
  rcases hop with rfl | rfl | rfl
  · obtain ⟨_, _, _, _, _, hclaim⟩ := hfinish
    exact hclaim
  · exact hfinish
  · exact hfinish

open RepairStore in
/-- The restart recovery makes the effect of the started repair ambiguous and leaves its binding
started; the attempt of the next run is refused. -/
theorem recovery_parts_binding : ¬ Sample.recoveredStore.Agrees ∧
      ∀ row ∈ Sample.recoveredStore.repairDirectives.rows,
        (resolveBinding row.1 Sample.recoveredStore =
          .resolved ⟨.executionAmbiguous, row.1.effectiveSubjectIdentity, ["eff_0"]⟩) ∧
        (revalidateRepairAttempt (Sample.recoveredAttempt row.1) Sample.recoveredStore).toBool =
          false := by
  refine ⟨?_, ?_⟩
  · decide +kernel
  · decide +kernel

end Tiangong
