import Tiangong.RepairSteps

/-!
# Repairs enter the runtime once

A start is granted only while the binding of its attempt is reserved, and it leaves the binding
past its reservation. Bindings never return to the reservation, and an attempt has one binding,
so an attempt is started at most once in a run.
-/
namespace Tiangong

namespace RepairStore

variable {s s' : RepairStore}

/-- The binding of an attempt has left its reservation. -/
def Spent (slot : Canon × ℕ) (s : RepairStore) : Prop :=
  ∃ b ∈ s.repairExecutionBindings.table.rows, b.attemptKey = slot ∧ b.state ≠ .reserved

/-- Every binding stays with its attempt and never returns to the reservation. -/
def Advances (s s' : RepairStore) : Prop :=
  ∀ b ∈ s.repairExecutionBindings.table.rows, ∃ b' ∈ s'.repairExecutionBindings.table.rows,
    b'.attemptKey = b.attemptKey ∧ (b.state ≠ .reserved → b'.state ≠ .reserved)

theorem Advances.of_eq (h : s'.repairExecutionBindings = s.repairExecutionBindings) :
    Advances s s' :=
  fun b hb => ⟨b, h ▸ hb, rfl, id⟩

theorem Advances.spent (h : Advances s s') {slot : Canon × ℕ} (hs : s.Spent slot) :
    s'.Spent slot := by
  obtain ⟨b, hb, rfl, hstate⟩ := hs
  obtain ⟨b', hb', hkey, hstate'⟩ := h b hb
  exact ⟨b', hb', hkey, hstate' hstate⟩

lemma advances_update {selected : RepairBinding → Bool} {f : RepairBinding → RepairBinding}
    (hf : ∀ r, (f r).repairDirectiveId = r.repairDirectiveId ∧ (f r).effectId = r.effectId ∧
      (f r).attemptKey = r.attemptKey)
    (hs' : s'.repairExecutionBindings = s.repairExecutionBindings.update selected f hf)
    (hstate : ∀ b, b.state ≠ .reserved → (f b).state ≠ .reserved) : Advances s s' := by
  intro b hb
  refine ⟨if selected b then f b else b, ?_, ?_, ?_⟩
  · rw [hs']
    exact RepairBindings.mem_update.mpr ⟨b, hb, rfl⟩
  · split
    · exact (hf b).2.2
    · rfl
  · split
    · exact hstate b
    · exact id

lemma terminalStatus_ne_reserved {state : BindingState} {status : EffectStatus}
    (h : state.terminalStatus = some status) : state ≠ .reserved := by
  rintro rfl
  cases h

lemma advances_reserve {r : Reservation} {reply : ReserveOutcome × RepairBinding}
    (h : reserveRepairExecution r s = .ok (reply, s')) : Advances s s' := by
  rcases reserveRepairExecution_cases h with rfl | ⟨existing, -, -, -, -, -, rfl⟩ |
    ⟨-, -, -, rows, hrows, rfl⟩
  · exact .of_eq rfl
  · exact advances_update (f := .takenOver r) (fun _ => ⟨rfl, rfl, rfl⟩) rfl fun b hb => hb
  · intro b hb
    refine ⟨b, ?_, rfl, id⟩
    change b ∈ rows.table.rows
    rw [(RepairBindings.insert_eq_ok hrows).rows]
    exact List.mem_append_left _ hb

lemma advances_start {env : Surroundings} {id : Canon} {effectId : String} {startedAtMs : ℕ}
    {claimId : String} {revision : ℕ} {reply : StartOutcome × RepairBinding}
    (h : startRepairExecution env id effectId startedAtMs claimId revision s = .ok (reply, s')) :
    Advances s s' := by
  obtain ⟨row, -, -, ⟨-, -, rfl, -⟩ | ⟨-, -, -, -, effect, effects, -, rfl⟩⟩ :=
    startRepairExecution_cases h
  · exact .of_eq rfl
  · exact advances_update (f := .started startedAtMs) (fun _ => ⟨rfl, rfl, rfl⟩) rfl
      fun b _ => by simp [RepairBinding.started]

lemma advances_complete {c : Completion} {b : RepairBinding}
    (h : completeRepairExecution c s = .ok (b, s')) : Advances s s' := by
  obtain ⟨status, row, hstatus, -, ⟨rfl, -, -⟩ | ⟨-, -, -, result, effect, effects, -, -, rfl⟩⟩ :=
    completeRepairExecution_cases h
  · exact .of_eq rfl
  · exact advances_update (f := .completed c) (fun _ => ⟨rfl, rfl, rfl⟩) rfl
      fun b _ => terminalStatus_ne_reserved hstatus

lemma step_advances (s : RepairStore) (op : RepairOp) :
    Advances s (repairMachine.step s op).1 := by
  have hstay : Advances s s := .of_eq rfl
  cases op with
  | reserve r => exact committed_fst hstay fun _ _ h => advances_reserve h
  | start env id effectId startedAtMs claimId revision =>
    exact committed_fst hstay fun _ _ h => advances_start h
  | complete c => exact committed_fst hstay fun _ _ h => advances_complete h
  | effect op => exact .of_eq rfl
  | putDirective directive recordedAtMs =>
    refine committed_fst hstay fun _ _ h => .of_eq ?_
    unfold putRepairDirective at h
    exact putSealed_keeps (f := RepairStore.repairExecutionBindings) h fun _ _ => rfl
  | putAttempt attempt recordedAtMs =>
    refine committed_fst hstay fun _ _ h => .of_eq ?_
    unfold putRepairAttempt at h
    exact putSealed_keeps (f := RepairStore.repairExecutionBindings) h fun _ _ => rfl
  | requestsMoved requests => exact .of_eq rfl

end RepairStore

/-- An answer that lets its caller enter the runtime for the attempt `slot`. -/
def grantsStart (slot : Canon × ℕ)
    (entry : RepairStore × RepairOp × Except RepairError RepairReply) : Bool :=
  match entry.2.2 with
  | .ok (.started .started b) => b.attemptKey = slot
  | _ => false

lemma grantsStart_eq_true {slot : Canon × ℕ}
    {entry : RepairStore × RepairOp × Except RepairError RepairReply} :
    grantsStart slot entry = true ↔
      ∃ b, entry.2.2 = .ok (.started .started b) ∧ b.attemptKey = slot := by
  unfold grantsStart
  split
  case h_1 b heq => simp [heq]
  case h_2 hne =>
    simp only [Bool.false_eq_true, false_iff, not_exists, not_and]
    exact fun b heq => absurd heq (hne b)

/-- Every start in an answer went to the holder of the current claim, under a live lease. -/
def StartedByHolder (entry : RepairStore × RepairOp × Except RepairError RepairReply) : Prop :=
  ∀ b, entry.2.2 = .ok (.started .started b) → ∃ env id effectId startedAtMs claimId revision row,
      entry.2.1 = .start env id effectId startedAtMs claimId revision ∧
      entry.1.getRepairExecutionBinding id = some row ∧ row.attemptKey = b.attemptKey ∧
      row.state = .reserved ∧ row.dispatchClaimId = claimId ∧ row.claimRevision = revision ∧
      startedAtMs < row.claimExpiresAtMs

namespace RepairStore

variable {s s' : RepairStore}

lemma startableBy_iff {b : RepairBinding} {claimId : String} {revision startedAtMs : ℕ} :
    b.startableBy claimId revision startedAtMs = true ↔
      b.state = .reserved ∧ b.dispatchClaimId = claimId ∧ b.claimRevision = revision ∧
        startedAtMs < b.claimExpiresAtMs := by
  simp [RepairBinding.startableBy, and_assoc]

variable {op : RepairOp}

lemma eq_start_of_started {b : RepairBinding}
    (h : (repairMachine.step s op).2 = .ok (.started .started b)) :
    ∃ env id effectId startedAtMs claimId revision,
      op = .start env id effectId startedAtMs claimId revision ∧
      startRepairExecution env id effectId startedAtMs claimId revision s =
        .ok ((.started, b), (repairMachine.step s op).1) := by
  cases op with
  | start env id effectId startedAtMs claimId revision =>
    refine ⟨_, _, _, _, _, _, rfl, ?_⟩
    simp only [repairMachine, committed] at h ⊢
    split at h
    case h_1 reply s'' heq =>
      obtain ⟨o, b'⟩ := reply
      cases h
      exact heq
    case h_2 => cases h
  | effect op =>
    simp only [repairMachine, liftStore_eq_ok] at h
    cases hr : (effectMachine.step s.effects op).2 <;> rw [hr] at h <;> cases h
  | reserve r =>
    simp only [repairMachine, committed] at h
    split at h <;> cases h
  | complete c =>
    simp only [repairMachine, committed] at h
    split at h <;> cases h
  | putDirective directive recordedAtMs =>
    simp only [repairMachine, committed] at h
    split at h <;> cases h
  | putAttempt attempt recordedAtMs =>
    simp only [repairMachine, committed] at h
    split at h <;> cases h
  | requestsMoved requests => cases h

lemma startedByHolder_step (s : RepairStore) (op : RepairOp) :
    StartedByHolder (s, op, (repairMachine.step s op).2) := by
  intro b h
  obtain ⟨env, id, effectId, startedAtMs, claimId, revision, rfl, hstart⟩ := eq_start_of_started h
  obtain ⟨row, hrow, -, ⟨ho, -⟩ | ⟨-, rfl, -, hlive, -⟩⟩ := startRepairExecution_cases hstart
  · cases ho
  · obtain ⟨hstate, hclaim, hrevision, hlease⟩ := startableBy_iff.mp hlive
    exact ⟨env, id, effectId, startedAtMs, claimId, revision, row, rfl, hrow, rfl, hstate, hclaim,
      hrevision, hlease⟩

variable {slot : Canon × ℕ}

lemma spent_of_grantsStart
    (h : grantsStart slot (s, op, (repairMachine.step s op).2) = true) :
    (repairMachine.step s op).1.Spent slot := by
  obtain ⟨b, hreply, hslot⟩ := grantsStart_eq_true.mp h
  obtain ⟨env, id, effectId, startedAtMs, claimId, revision, rfl, hstart⟩ :=
    eq_start_of_started hreply
  obtain ⟨row, hrow, -, ⟨ho, -⟩ | ⟨-, rfl, -, hlive, effect, effects, -, hs'⟩⟩ :=
    startRepairExecution_cases hstart
  · cases ho
  · rw [hs']
    refine ⟨row.started startedAtMs, ?_, hslot, by simp [RepairBinding.started]⟩
    refine mem_startedBindings.mpr ⟨row, Table.mem_of_find hrow, ?_⟩
    rw [if_pos (by simp [Table.key_of_find hrow, hlive])]

lemma grantsStart_of_spent (hs : s.Spent slot) :
    grantsStart slot (s, op, (repairMachine.step s op).2) = false := by
  rw [Bool.eq_false_iff]
  intro h
  obtain ⟨b, hreply, hslot⟩ := grantsStart_eq_true.mp h
  obtain ⟨_, id, _, _, _, _, row, -, hrow, hkey, hreserved, -⟩ := startedByHolder_step s op b hreply
  obtain ⟨spent, hspent, hspentSlot, hstate⟩ := hs
  have hsame : spent = row := s.repairExecutionBindings.attempt_unique.eq hspent
    (Table.mem_of_find hrow) (by rw [hspentSlot, hkey, hslot])
  exact hstate (hsame ▸ hreserved)

/-- Once the binding of an attempt has left its reservation, no run starts the attempt. -/
lemma countP_grantsStart_of_spent (hs : s.Spent slot) (ops : List RepairOp) :
    (repairMachine.trace s ops).countP (grantsStart slot) = 0 :=
  Machine.countP_trace_of_spent (fun _ _ (_ : True) => trivial)
    (fun s op _ h => (step_advances s op).spent h) (fun _ _ _ h => grantsStart_of_spent h)
    trivial hs ops

end RepairStore

open RepairStore in
/-- Over every run of repair operations, an attempt is started at most once, only by the holder
of its current claim, and never after its binding reached a terminal state. -/
theorem repairStart_singleFlight (s : RepairStore) (ops : List RepairOp) (slot : Canon × ℕ) :
    (repairMachine.trace s ops).countP (grantsStart slot) ≤ 1 ∧
    (∀ entry ∈ repairMachine.trace s ops, StartedByHolder entry) ∧
    ∀ before after, ops = before ++ after →
      (∃ b ∈ (repairMachine.exec s before).repairExecutionBindings.table.rows,
        b.attemptKey = slot ∧ b.state.terminalStatus.isSome = true) →
      (repairMachine.trace (repairMachine.exec s before) after).countP (grantsStart slot) = 0 := by
  refine ⟨?_, ?_, ?_⟩
  · exact Machine.countP_trace_le_one (fun _ _ (_ : True) => trivial)
      (fun _ _ _ h => spent_of_grantsStart h) (fun s op _ h => (step_advances s op).spent h)
      (fun _ _ _ h => grantsStart_of_spent h) trivial ops
  · exact Machine.trace_forall (fun _ _ (_ : True) => trivial)
      (fun s op _ => startedByHolder_step s op) trivial ops
  · rintro before after - ⟨b, hb, hslot, hterminal⟩
    obtain ⟨status, hstatus⟩ := Option.isSome_iff_exists.mp hterminal
    exact countP_grantsStart_of_spent ⟨b, hb, hslot, terminalStatus_ne_reserved hstatus⟩ after

end Tiangong
