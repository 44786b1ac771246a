import Tiangong.EffectSteps
import Tiangong.RepairWrites

/-!
# The repair execution binding

Before a repair enters the runtime it reserves the binding of its directive under a leased claim,
and crosses the side-effect boundary together with its effect. The claim revision is the fencing
token: it moves only when an expired claim is taken over.
-/
namespace Tiangong

namespace BindingState

def name : BindingState → String
  | .reserved => "RESERVED"
  | .sideEffectStarted => "SIDE_EFFECT_STARTED"
  | .succeeded => "SUCCEEDED"
  | .failedFinal => "FAILED_FINAL"
  | .ambiguous => "AMBIGUOUS"

def terminalStatus : BindingState → Option EffectStatus
  | .succeeded => some .succeeded
  | .failedFinal => some .failedFinal
  | .ambiguous => some .ambiguous
  | .reserved | .sideEffectStarted => none

end BindingState

/-- The arguments of a reservation. -/
structure Reservation where
  repairDirectiveId : Canon
  repairDirectiveSha256 : Canon
  planEntryId : Canon
  repairAttemptNo : ℕ
  requestId : String
  runId : String
  generation : ℕ
  effectId : String
  effectIntentSha256 : String
  reservedAtMs : ℕ
  dispatchClaimId : String
  claimExpiresAtMs : ℕ
  deriving DecidableEq, Repr

inductive ReserveOutcome where
  | execute | follow
  deriving DecidableEq, Repr

inductive StartOutcome where
  | started | alreadyStarted
  deriving DecidableEq, Repr

/-- The arguments of a completion. -/
structure Completion where
  repairDirectiveId : Canon
  state : BindingState
  producedSubjectIdentity : String
  producedSubjectKind : String
  runtimeResultRef : String := ""
  runtimeResultSha256 : String := ""
  completedAtMs : ℕ
  errorCode : Option String := none
  deriving DecidableEq, Repr

/-- Sixty-four lower-case hexadecimal digits. -/
def isSha256Text (text : String) : Bool :=
  text.length = 64 && text.toList.all fun c => ('0' ≤ c && c ≤ '9') || ('a' ≤ c && c ≤ 'f')

/-- The row a fresh reservation inserts. -/
def Reservation.binding (r : Reservation) : RepairBinding where
  repairDirectiveId := r.repairDirectiveId
  repairDirectiveSha256 := r.repairDirectiveSha256
  planEntryId := r.planEntryId
  repairAttemptNo := r.repairAttemptNo
  requestId := r.requestId
  runId := r.runId
  generation := r.generation
  state := .reserved
  effectId := r.effectId
  effectIntentSha256 := r.effectIntentSha256
  dispatchClaimId := r.dispatchClaimId
  claimRevision := 1
  claimExpiresAtMs := r.claimExpiresAtMs
  reservedAtMs := r.reservedAtMs

namespace RepairBinding

/-- The row after the claim of `r` took it over. -/
def takenOver (r : Reservation) (b : RepairBinding) : RepairBinding :=
  { b with
    dispatchClaimId := r.dispatchClaimId
    claimRevision := b.claimRevision + 1
    claimExpiresAtMs := r.claimExpiresAtMs }

def started (startedAtMs : ℕ) (b : RepairBinding) : RepairBinding :=
  { b with state := .sideEffectStarted, startedAtMs := some startedAtMs }

def completed (c : Completion) (b : RepairBinding) : RepairBinding :=
  { b with
    state := c.state
    producedSubjectIdentity := c.producedSubjectIdentity
    producedSubjectKind := c.producedSubjectKind
    runtimeResultRef := c.runtimeResultRef
    runtimeResultSha256 := c.runtimeResultSha256
    completedAtMs := some c.completedAtMs }

/-- The start of a binding that has one, and its reservation otherwise. -/
def boundaryMs (b : RepairBinding) : ℕ :=
  match b.startedAtMs with
  | some (n + 1) => n + 1
  | _ => b.reservedAtMs

/-- Only the holder of the current claim may start, while its lease lives. -/
def startableBy (b : RepairBinding) (dispatchClaimId : String) (expectedClaimRevision startedAtMs : ℕ) :
    Bool :=
  b.state = .reserved && b.dispatchClaimId = dispatchClaimId &&
    b.claimRevision = expectedClaimRevision && startedAtMs < b.claimExpiresAtMs

end RepairBinding

namespace RepairBindings

/-- An `UPDATE` whose row count must be one. -/
def updateOne (b : RepairBindings) (e : RepairError) (selected : RepairBinding → Bool)
    (f : RepairBinding → RepairBinding)
    (hf : ∀ r, (f r).repairDirectiveId = r.repairDirectiveId ∧ (f r).effectId = r.effectId ∧
      (f r).attemptKey = r.attemptKey) : Except RepairError RepairBindings :=
  if b.table.rows.countP selected = 1 then .ok (b.update selected f hf) else .error e

theorem updateOne_eq_ok {b b' : RepairBindings} {e : RepairError} {selected : RepairBinding → Bool}
    {f : RepairBinding → RepairBinding}
    {hf : ∀ r, (f r).repairDirectiveId = r.repairDirectiveId ∧ (f r).effectId = r.effectId ∧
      (f r).attemptKey = r.attemptKey} :
    b.updateOne e selected f hf = .ok b' ↔
      b.table.rows.countP selected = 1 ∧ b' = b.update selected f hf := by
  by_cases h : b.table.rows.countP selected = 1 <;> simp [updateOne, h, eq_comm]

end RepairBindings

/-- A success carries no error code, whatever the caller passes. -/
def Completion.resultErrorCode (c : Completion) (status : EffectStatus) : Option String :=
  if status = .succeeded then none else c.errorCode

/-- The result a completion writes into the effect ledger; its error code must fit its status. -/
def terminalResult (effectId : String) (status : EffectStatus) (c : Completion) :
    Except RepairError EffectResult :=
  if h : (c.resultErrorCode status).isSome = status.needsErrorCode then
    .ok <| EffectResult.withComputedSha256
      { resultId := "effect-result-" ++ EffectStore.idSlice effectId
        effectId := effectId
        status := status
        factId := "fact-effect-" ++ EffectStore.idSlice effectId
        resultObjectId := none
        resultObjectSha256 := none
        evidenceSha256 := .sha256 (.ofList [.option .text c.errorCode,
          .text c.runtimeResultSha256, .text c.state.name])
        errorCode := c.resultErrorCode status
        observedAtMs := c.completedAtMs
        resultSha256 := .null
        object_complete := noObject_complete
        errorCode_iff := h }
  else .error (.store (.value "failed or ambiguous effect requires an error code"))

theorem terminalResult_eq_ok {effectId : String} {status : EffectStatus} {c : Completion}
    {result : EffectResult} (h : terminalResult effectId status c = .ok result) :
    result.effectId = effectId ∧ result.status = status := by
  unfold terminalResult at h
  split at h
  · cases h
    exact ⟨rfl, rfl⟩
  · cases h

namespace RepairStore

def withBindings (s : RepairStore) (b : RepairBindings) : RepairStore :=
  { s with repairExecutionBindings := b }

/-- A reservation inserts the binding, re-enters or takes over it, or follows its owner. -/
def reserveRepairExecution (r : Reservation) (s : RepairStore) :
    Except RepairError ((ReserveOutcome × RepairBinding) × RepairStore) := do
  rejectIf (r.dispatchClaimId = "" ∨ r.claimExpiresAtMs < r.reservedAtMs)
    (.store (.value "dispatch claim identity/lease is invalid"))
  let _ ← s.assertBinding ⟨r.requestId, r.runId, r.generation⟩ r.reservedAtMs
  let directive ← required (s.getRepairDirectiveById r.repairDirectiveId)
    (.store (.value "repair dispatch reserve: directive absent from store"))
  rejectIf (directive.directiveSha256 ≠ r.repairDirectiveSha256 ∨
      directive.planEntryId ≠ r.planEntryId ∨ directive.repairAttemptNo ≠ r.repairAttemptNo ∨
      directive.requestId ≠ r.requestId ∨ directive.runId ≠ r.runId ∨
      directive.generation ≠ r.generation)
    (.store (.value
      "repair dispatch reserve: directive fields do not match the authoritative store content"))
  match s.getRepairExecutionBinding r.repairDirectiveId with
  | some existing => do
    rejectIf (existing.planEntryId ≠ r.planEntryId ∨
        existing.repairAttemptNo ≠ r.repairAttemptNo ∨ existing.requestId ≠ r.requestId ∨
        existing.runId ≠ r.runId ∨ existing.generation ≠ r.generation ∨
        existing.effectId ≠ r.effectId)
      (.store (.conflict
        "repair execution binding identity was reused for different content"))
    if existing.state = .reserved then
      if r.reservedAtMs < existing.claimExpiresAtMs then
        if existing.dispatchClaimId = r.dispatchClaimId then pure ((.execute, existing), s)
        else pure ((.follow, existing), s)
      else
        -- Only a takeover of an expired lease moves the revision.
        pure ((.execute, existing.takenOver r), s.withBindings <|
          s.repairExecutionBindings.update
            (fun b => b.repairDirectiveId = r.repairDirectiveId && b.state = .reserved)
            (.takenOver r) fun _ => ⟨rfl, rfl, rfl⟩)
    else pure ((.follow, existing), s)
  | none =>
    match s.getRepairExecutionBindingByAttempt r.planEntryId r.repairAttemptNo with
    | some competing => pure ((.follow, competing), s)
    | none => do
      rejectIf (isSha256Text r.effectIntentSha256 = false)
        (.store (.integrity "repair_execution_binding CHECK"))
      let rows ← liftStore (s.repairExecutionBindings.insert r.binding)
      pure ((.execute, r.binding), s.withBindings rows)

/-- The claim-fenced start: the binding and its effect cross the boundary together. -/
def startRepairExecution (env : Surroundings) (repairDirectiveId : Canon) (effectId : String)
    (startedAtMs : ℕ) (dispatchClaimId : String) (expectedClaimRevision : ℕ) (s : RepairStore) :
    Except RepairError ((StartOutcome × RepairBinding) × RepairStore) := do
  let row ← required (s.getRepairExecutionBinding repairDirectiveId)
    (.store (.value "repair execution binding is absent"))
  rejectIf (row.effectId ≠ effectId)
    (.store (.value "repair execution binding owns a different effect"))
  if row.state = .sideEffectStarted then pure ((.alreadyStarted, row), s)
  else do
    rejectIf (row.state ≠ .reserved)
      (.store (.value
        ("repair execution binding is not in a startable state: " ++ row.state.name)))
    rejectIf (startedAtMs < row.reservedAtMs)
      (.store (.value "repair execution start predates its reservation"))
    let bindings ← s.repairExecutionBindings.updateOne
      (.store (.casConflict "stale dispatch claim: this caller no longer owns the repair execution (claim/revision/lease mismatch)"))
      (fun b => b.repairDirectiveId = repairDirectiveId &&
        b.startableBy dispatchClaimId expectedClaimRevision startedAtMs)
      (.started startedAtMs) fun _ => ⟨rfl, rfl, rfl⟩
    let (_, effects) ← liftStore (EffectStore.markEffectStarted env effectId startedAtMs s.effects)
    pure ((.started, row.started startedAtMs),
      { s with repairExecutionBindings := bindings, effects := effects })

/-- The terminal transition of a binding and its effect. -/
def completeRepairExecution (c : Completion) (s : RepairStore) :
    Except RepairError (RepairBinding × RepairStore) := do
  let status ← required c.state.terminalStatus
    (.store (.value "invalid terminal repair execution state"))
  let row ← required (s.getRepairExecutionBinding c.repairDirectiveId)
    (.store (.value "repair execution binding is absent"))
  rejectIf (∃ directive, s.getRepairDirectiveById c.repairDirectiveId = some directive ∧
      c.producedSubjectKind ≠ directive.subjectKind.name)
    (.store (.value "repair execution produced subject kind does not match the directive"))
  rejectIf (c.completedAtMs < row.boundaryMs)
    (.store (.value "repair execution completion predates its boundary"))
  if row.state.terminalStatus.isSome then do
    rejectIf (¬ (row.state = c.state ∧ row.producedSubjectIdentity = c.producedSubjectIdentity ∧
        row.runtimeResultSha256 = c.runtimeResultSha256))
      (.store (.conflict
        "repair execution binding was already completed with different content"))
    pure (row, s)
  else do
    rejectIf (c.state ≠ .failedFinal ∧ row.state ≠ .sideEffectStarted)
      (.store (.value
        ("repair execution cannot reach a side-effect terminal state from " ++ row.state.name)))
    rejectIf (c.state = .succeeded ∧ c.producedSubjectIdentity = "")
      (.store (.value "successful repair execution must record its produced subject"))
    let result ← terminalResult row.effectId status c
    let (_, effects) ← liftStore (EffectStore.completeEffect result none true s.effects)
    rejectIf (c.runtimeResultSha256 ≠ "" ∧ isSha256Text c.runtimeResultSha256 = false)
      (.store (.integrity "repair_execution_binding CHECK"))
    let bindings ← s.repairExecutionBindings.updateOne
      (.store (.casConflict "repair execution binding changed before completion"))
      (fun b => b.repairDirectiveId = c.repairDirectiveId)
      (.completed c) fun _ => ⟨rfl, rfl, rfl⟩
    pure (row.completed c, { s with repairExecutionBindings := bindings, effects := effects })

end RepairStore

end Tiangong
