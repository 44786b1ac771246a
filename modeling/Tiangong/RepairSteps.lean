import Tiangong.RepairExecution

/-!
# What a repair operation commits

One lemma per operation on the execution bindings lists the states it can commit. The operations
are then collected into one machine, together with the whole effect ledger and the writes around
them.
-/
namespace Tiangong

namespace RepairStore

open RepairBindings

variable {s s' : RepairStore}

lemma takenOver_keys (r : Reservation) (b : RepairBinding) :
    (b.takenOver r).repairDirectiveId = b.repairDirectiveId ∧
      (b.takenOver r).effectId = b.effectId ∧ (b.takenOver r).attemptKey = b.attemptKey :=
  ⟨rfl, rfl, rfl⟩

lemma started_keys (startedAtMs : ℕ) (b : RepairBinding) :
    (b.started startedAtMs).repairDirectiveId = b.repairDirectiveId ∧
      (b.started startedAtMs).effectId = b.effectId ∧
      (b.started startedAtMs).attemptKey = b.attemptKey :=
  ⟨rfl, rfl, rfl⟩

lemma completed_keys (c : Completion) (b : RepairBinding) :
    (b.completed c).repairDirectiveId = b.repairDirectiveId ∧
      (b.completed c).effectId = b.effectId ∧ (b.completed c).attemptKey = b.attemptKey :=
  ⟨rfl, rfl, rfl⟩

/-- The bindings after the claim of `r` took over the binding of its directive. -/
def takenOverBindings (s : RepairStore) (r : Reservation) : RepairBindings :=
  s.repairExecutionBindings.update
    (fun b => b.repairDirectiveId = r.repairDirectiveId && b.state = .reserved)
    (.takenOver r) (takenOver_keys r)

variable {row : RepairBinding}

theorem mem_takenOverBindings {r : Reservation} :
    row ∈ (s.takenOverBindings r).table.rows ↔ ∃ b ∈ s.repairExecutionBindings.table.rows,
      row = if b.repairDirectiveId = r.repairDirectiveId && b.state = .reserved then
        b.takenOver r else b := by
  unfold takenOverBindings
  exact mem_update

def startedBindings (s : RepairStore) (repairDirectiveId : Canon) (startedAtMs : ℕ)
    (dispatchClaimId : String) (expectedClaimRevision : ℕ) : RepairBindings :=
  s.repairExecutionBindings.update
    (fun b => b.repairDirectiveId = repairDirectiveId &&
      b.startableBy dispatchClaimId expectedClaimRevision startedAtMs)
    (.started startedAtMs) (started_keys startedAtMs)

theorem mem_startedBindings {id : Canon} {startedAtMs : ℕ} {claimId : String} {revision : ℕ} :
    row ∈ (s.startedBindings id startedAtMs claimId revision).table.rows ↔
      ∃ r ∈ s.repairExecutionBindings.table.rows,
        row = if r.repairDirectiveId = id && r.startableBy claimId revision startedAtMs then
          r.started startedAtMs else r := by
  unfold startedBindings
  exact mem_update

def completedBindings (s : RepairStore) (c : Completion) : RepairBindings :=
  s.repairExecutionBindings.update (fun b => b.repairDirectiveId = c.repairDirectiveId)
    (.completed c) (completed_keys c)

theorem mem_completedBindings {c : Completion} :
    row ∈ (s.completedBindings c).table.rows ↔ ∃ r ∈ s.repairExecutionBindings.table.rows,
      row = if r.repairDirectiveId = c.repairDirectiveId then r.completed c else r := by
  unfold completedBindings
  simp only [mem_update, decide_eq_true_eq]

variable {b : RepairBinding}

/-- A reservation leaves the bindings alone, takes over an expired claim, or inserts a binding
for a directive and an attempt that had none. -/
theorem reserveRepairExecution_cases {r : Reservation} {o : ReserveOutcome}
    (h : reserveRepairExecution r s = .ok ((o, b), s')) :
    s' = s ∨
    (∃ existing, s.getRepairExecutionBinding r.repairDirectiveId = some existing ∧
      existing.state = .reserved ∧ existing.claimExpiresAtMs ≤ r.reservedAtMs ∧
      o = .execute ∧ b = existing.takenOver r ∧ s' = s.withBindings (s.takenOverBindings r)) ∨
    (s.getRepairExecutionBindingByAttempt r.planEntryId r.repairAttemptNo = none ∧
      o = .execute ∧ b = r.binding ∧ ∃ rows, s.repairExecutionBindings.insert r.binding = .ok rows ∧
        s' = s.withBindings rows) := by
  simp only [reserveRepairExecution, eq_ok_iff] at h
  obtain ⟨-, _, -, directive, -, -, h⟩ := h
  cases hf : s.getRepairExecutionBinding r.repairDirectiveId with
  | some existing =>
    simp only [hf, eq_ok_iff] at h
    obtain ⟨-, h⟩ := h
    split at h
    case isTrue hreserved =>
      split at h
      case isTrue =>
        split at h <;> cases h <;> exact .inl rfl
      case isFalse hexpired =>
        cases h
        exact .inr (.inl ⟨existing, rfl, hreserved, not_lt.mp hexpired, rfl, rfl, rfl⟩)
    case isFalse =>
      cases h
      exact .inl rfl
  | none =>
    simp only [hf] at h
    cases ha : s.getRepairExecutionBindingByAttempt r.planEntryId r.repairAttemptNo with
    | some competing =>
      simp only [ha] at h
      cases h
      exact .inl rfl
    | none =>
      simp only [ha, eq_ok_iff, liftStore_eq_ok] at h
      obtain ⟨-, rows, hrows, ⟨⟩⟩ := h
      exact .inr (.inr ⟨rfl, rfl, rfl, rows, hrows, rfl⟩)

/-- A start finds the boundary crossed, or crosses it for the holder of the live claim. -/
theorem startRepairExecution_cases {env : Surroundings} {id : Canon} {effectId : String}
    {startedAtMs : ℕ} {claimId : String} {revision : ℕ} {o : StartOutcome}
    (h : startRepairExecution env id effectId startedAtMs claimId revision s = .ok ((o, b), s')) :
    ∃ row, s.getRepairExecutionBinding id = some row ∧ row.effectId = effectId ∧
      ((o = .alreadyStarted ∧ b = row ∧ s' = s ∧ row.state = .sideEffectStarted) ∨
        (o = .started ∧ b = row.started startedAtMs ∧ row.reservedAtMs ≤ startedAtMs ∧
          row.startableBy claimId revision startedAtMs = true ∧ ∃ effect effects,
            EffectStore.markEffectStarted env effectId startedAtMs s.effects =
              .ok (effect, effects) ∧
            s' = { s with
              repairExecutionBindings := s.startedBindings id startedAtMs claimId revision
              effects := effects })) := by
  simp only [startRepairExecution, eq_ok_iff, not_not] at h
  obtain ⟨row, hrow, heffect, h⟩ := h
  refine ⟨row, hrow, heffect, ?_⟩
  split at h
  case isTrue hstarted =>
    cases h
    exact .inl ⟨rfl, rfl, rfl, hstarted⟩
  case isFalse =>
    simp only [eq_ok_iff, liftStore_eq_ok, updateOne_eq_ok, not_lt, not_not] at h
    obtain ⟨-, htime, bindings, ⟨hcount, rfl⟩, ⟨effect, effects⟩, hmark, ⟨⟩⟩ := h
    have hlive : row.startableBy claimId revision startedAtMs = true :=
      Table.of_countP_eq_one (p := fun b => b.startableBy claimId revision startedAtMs) hcount hrow
    exact .inr ⟨rfl, rfl, htime, hlive, effect, effects, hmark, rfl⟩

/-- A completion repeats the recorded one, or finishes the binding and its effect alike. -/
theorem completeRepairExecution_cases {c : Completion}
    (h : completeRepairExecution c s = .ok (b, s')) :
    ∃ status row, c.state.terminalStatus = some status ∧
      s.getRepairExecutionBinding c.repairDirectiveId = some row ∧
      ((s' = s ∧ b = row ∧ row.state = c.state) ∨ (row.state.terminalStatus = none ∧
          (row.state = .sideEffectStarted ∨ c.state = .failedFinal) ∧ b = row.completed c ∧
          ∃ result effect effects, terminalResult row.effectId status c = .ok result ∧
            EffectStore.completeEffect result none true s.effects = .ok (effect, effects) ∧
            s' = { s with
              repairExecutionBindings := s.completedBindings c, effects := effects })) := by
  simp only [completeRepairExecution, eq_ok_iff] at h
  obtain ⟨status, hstatus, row, hrow, -, -, h⟩ := h
  refine ⟨status, row, hstatus, hrow, ?_⟩
  split at h
  case isTrue =>
    simp only [eq_ok_iff, not_not] at h
    obtain ⟨hsame, ⟨⟩⟩ := h
    exact .inl ⟨rfl, rfl, hsame.1⟩
  case isFalse hopen =>
    simp only [eq_ok_iff, liftStore_eq_ok, updateOne_eq_ok, not_and, not_not] at h
    obtain ⟨hfrom, -, result, hresult, ⟨effect, effects⟩, hcomplete, -, bindings, ⟨-, rfl⟩, ⟨⟩⟩ := h
    refine .inr ⟨by simpa using hopen, ?_, rfl, result, effect, effects, hresult, hcomplete, rfl⟩
    by_cases hfailed : c.state = .failedFinal
    · exact .inr hfailed
    · exact .inl (hfrom hfailed)

end RepairStore

/-- The calls on the execution bindings and on the tables around them. -/
inductive RepairOp where
  | reserve (r : Reservation)
  | start (env : Surroundings) (repairDirectiveId : Canon) (effectId : String) (startedAtMs : ℕ)
      (dispatchClaimId : String) (expectedClaimRevision : ℕ)
  | complete (c : Completion)
  | effect (op : EffectOp)
  | putDirective (directive : RepairDirective) (recordedAtMs : ℕ)
  | putAttempt (attempt : RepairAttemptRecord) (recordedAtMs : ℕ)
  /-- Another component moved the request tables. -/
  | requestsMoved (requests : RequestTables)

inductive RepairReply where
  | reserved (outcome : ReserveOutcome) (binding : RepairBinding)
  | started (outcome : StartOutcome) (binding : RepairBinding)
  | completed (binding : RepairBinding)
  | effect (reply : EffectReply)
  | put (fresh : Bool)
  | moved
  deriving DecidableEq

open RepairStore in
def repairMachine : Machine RepairStore RepairOp (Except RepairError RepairReply) where
  step s
    | .reserve r => committed s (fun (o, b) => .reserved o b) (reserveRepairExecution r s)
    | .start env id effectId startedAtMs claimId revision =>
      committed s (fun (o, b) => .started o b)
        (startRepairExecution env id effectId startedAtMs claimId revision s)
    | .complete c => committed s .completed (completeRepairExecution c s)
    | .effect op =>
      let (effects, reply) := effectMachine.step s.effects op
      ({ s with effects := effects }, liftStore (reply.map .effect))
    | .putDirective directive recordedAtMs =>
      committed s .put (putRepairDirective directive recordedAtMs s)
    | .putAttempt attempt recordedAtMs =>
      committed s .put (putRepairAttempt attempt recordedAtMs s)
    | .requestsMoved requests => ({ s with requests := requests }, .ok .moved)

end Tiangong
