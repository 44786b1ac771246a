import Tiangong.Calls
import Tiangong.RepairSteps

/-!
# The repair coordinator

The coordinator derives a disposition for every failing entry, issues directives for the repairs
among them, and drives the dispatch and the re-verification. Its store writes commit one by one,
so a call that raises keeps what it had written.
-/
namespace Tiangong

open Call

inductive DispatchOutcome where
  | dispatched | executionFailed | executionAmbiguous | alreadyClaimed
  deriving DecidableEq, Repr

/-- What a dispatched directive came to. -/
structure RepairDispatchResult where
  executionOutcome : DispatchOutcome
  producedSubjectIdentity : String
  executionEffectIds : List String := []
  deriving DecidableEq, Repr

namespace RepairStore

/-- The decision input the coordinator derives for evidence that is about to be written. -/
def decisionInput (s : RepairStore) (fe : FailureEvidence) : DecisionInput :=
  let attemptNo := (s.listRepairAttempts fe.planEntryId).length
  let signatures := ((s.listVerificationFailureEvidence fe.planEntryId).filter fun f =>
    f.failureSignatureSha256 = fe.failureSignatureSha256).map (·.readinessSha256)
  { predicateType := fe.predicateType
    verificationStatus := fe.verificationStatus
    failureKind := fe.failureKind
    attemptNo := attemptNo
    sameSignatureCount := (insert fe.readinessSha256 signatures.toFinset).card - 1
    successorDepth := (s.resolveVerificationSubject fe.planEntryId).successorDepth
    sideEffectRepairCount := if fe.subjectKind ∈ [.effect, .repository] then attemptNo else 0
    subjectKind := fe.subjectKind
    effectIsAmbiguous := s.effectSubjectIsAmbiguous fe || s.hasAmbiguousAttempt fe.planEntryId }

def generationRepairCount (s : RepairStore) (requestId runId : String) (generation : ℕ) : ℕ :=
  (s.listAllVerificationDispositions requestId runId generation).countP fun d =>
    d.action = .repair

end RepairStore

def dispositionOf (policy : RepairPolicyConfig) (fe : FailureEvidence) (x : DecisionInput)
    (generationRepairCount nowMs : ℕ) : VerificationDisposition :=
  let decision := computeDispositionAction policy x generationRepairCount
  VerificationDisposition.withComputedSha256
    { verificationDispositionId := .null
      requestId := fe.requestId
      runId := fe.runId
      generation := fe.generation
      verificationPlanId := fe.verificationPlanId
      planEntryId := fe.planEntryId
      failureEvidenceId := fe.failureEvidenceId
      failureEvidenceSha256 := fe.failureEvidenceSha256
      action := decision.1
      policyVersion := policyVersion
      policyConfigSha256 := policy.configSha256
      attemptNo := x.attemptNo
      maxAttempts := policy.maxAttemptsPerPlanEntry
      reasonCodes := decision.2
      decidedAtMs := nowMs
      dispositionSha256 := .null }

/-- The stored decision on the very same evidence, when a restart asks to reuse it. -/
def reusableDisposition (reusePersistedPrefix : Bool) (fe : FailureEvidence) (nowMs : ℕ)
    (s : RepairStore) : Except RepairError (Option VerificationDisposition) :=
  let existing := (s.listVerificationDispositions fe.planEntryId).filter fun d =>
    d.failureEvidenceId = fe.failureEvidenceId
  match reusePersistedPrefix, existing with
  | false, _ | true, [] => .ok none
  | true, [d] =>
    if d.hasValidIdentity = false ∨ d.requestId ≠ fe.requestId ∨ d.runId ≠ fe.runId ∨
        d.generation ≠ fe.generation ∨ d.verificationPlanId ≠ fe.verificationPlanId ∨
        d.planEntryId ≠ fe.planEntryId ∨ d.failureEvidenceSha256 ≠ fe.failureEvidenceSha256 ∨
        d.decidedAtMs ≠ nowMs then
      .error (.coordinator "persisted disposition does not match stable failure")
    else .ok (some d)
  | true, _ :: _ :: _ => .error (.coordinator "multiple dispositions bind one failure evidence")

/-- Decide on one failure and write its evidence and its disposition. -/
def processFailure (policy : RepairPolicyConfig) (fe : FailureEvidence) (count nowMs : ℕ) :
    Call RepairError RepairStore VerificationDisposition := do
  let disposition ← read fun s => dispositionOf policy fe (s.decisionInput fe) count nowMs
  let _ ← transaction (RepairStore.putVerificationFailureEvidence fe nowMs)
  let _ ← transaction (RepairStore.putVerificationDisposition disposition nowMs)
  pure disposition

/-- The in-round count goes up with every repair. -/
def countAfter (count : ℕ) (d : VerificationDisposition) : ℕ :=
  if d.action = .repair then count + 1 else count

/-- The loop of `process_readiness`; a reused disposition does not move the count. -/
def processFailures (policy : RepairPolicyConfig) (reusePersistedPrefix : Bool) (nowMs : ℕ) :
    List FailureEvidence → ℕ → Call RepairError RepairStore (List VerificationDisposition)
  | [], _ => pure []
  | fe :: fes, count => do
    match ← query (reusableDisposition reusePersistedPrefix fe nowMs) with
    | some existing => do
      let rest ← processFailures policy reusePersistedPrefix nowMs fes count
      pure (existing :: rest)
    | none => do
      let d ← processFailure policy fe count nowMs
      let rest ← processFailures policy reusePersistedPrefix nowMs fes (countAfter count d)
      pure (d :: rest)

def processReadiness (policy : RepairPolicyConfig) (plan : VerificationPlan)
    (readiness : VerificationReadiness) (nowMs : ℕ) (reusePersistedPrefix : Bool := false) :
    Call RepairError RepairStore (List VerificationDisposition) :=
  if readiness.verificationReady then pure []
  else do
    let fes ← query fun s => s.rebuildFailureEvidence plan readiness nowMs
    let count ← read fun s =>
      s.generationRepairCount plan.requestId plan.runId plan.generation
    processFailures policy reusePersistedPrefix nowMs fes count

/-- A persisted directive for the next attempt that was never attempted and has not expired. -/
def findPendingDirective (d : VerificationDisposition) (nowMs : ℕ) (s : RepairStore) :
    Option RepairDirective :=
  let attempted := (s.listRepairAttempts d.planEntryId).map (·.repairDirectiveId)
  (s.listRepairDirectives d.planEntryId).reverse.find? fun directive =>
    directive.repairAttemptNo = d.attemptNo + 1 && directive.repairDirectiveId ∉ attempted &&
      nowMs < directive.expiresAtMs

def defaultExecutionBudgetMs : ℕ := 120000
def defaultExpiresDeltaMs : ℕ := 300000

/-- The directive for a repair; its model refuses an attempt number over the maximum. -/
def directiveOf (d : VerificationDisposition) (fe : FailureEvidence) (plan : VerificationPlan)
    (entry : PlanEntry) (nowMs : ℕ) : Except RepairError RepairDirective :=
  if h : d.attemptNo + 1 ≤ d.maxAttempts then
    .ok <| RepairDirective.withComputedSha256
      { repairDirectiveId := .null
        requestId := d.requestId
        runId := d.runId
        generation := d.generation
        verificationPlanId := plan.verificationPlanId
        verificationPlanSha256 := plan.planSha256
        planEntryId := entry.planEntryId
        planEntrySha256 := entry.entrySha256
        failureEvidenceId := fe.failureEvidenceId
        failureEvidenceSha256 := fe.failureEvidenceSha256
        dispositionId := d.verificationDispositionId
        dispositionSha256 := d.dispositionSha256
        predicateId := entry.predicate.predicateId
        predicateSha256 := entry.predicate.predicateSha256
        subjectKind := entry.predicate.subjectKind
        originalSubjectIdentity := entry.subjectIdentity
        effectiveSubjectIdentity := fe.effectiveSubjectIdentity
        repairAttemptNo := d.attemptNo + 1
        maxAttempts := d.maxAttempts
        allowedTargetRefs := [fe.effectiveSubjectIdentity]
        forbiddenTargetRefs := []
        repairGoalKind := "repair:" ++ entry.predicate.predicateType
        repairConstraints := []
        executionBudgetMs := defaultExecutionBudgetMs
        issuedAtMs := nowMs
        expiresAtMs := nowMs + defaultExpiresDeltaMs
        directiveSha256 := .null
        expires_after_issue := by simp [defaultExpiresDeltaMs]
        attempt_le_max := h }
  else .error (.store (.value "repair_attempt_no exceeds max_attempts"))

def issueRepairDirective (d : VerificationDisposition) (fe : FailureEvidence)
    (plan : VerificationPlan) (nowMs : ℕ) :
    Call RepairError RepairStore (Option RepairDirective) :=
  if d.action ≠ .repair then pure none
  else do
    let entry ← query fun _ => required (plan.entry d.planEntryId)
      (.coordinator "disposition references unknown plan entry")
    let directive ← query fun _ => directiveOf d fe plan entry nowMs
    let _ ← transaction (RepairStore.putRepairDirective directive nowMs)
    pure (some directive)

def directiveForDisposition (d : VerificationDisposition) (fe : FailureEvidence)
    (plan : VerificationPlan) (nowMs : ℕ) :
    Call RepairError RepairStore (Option RepairDirective) := do
  match ← read (findPendingDirective d nowMs) with
  | some pending => pure (some pending)
  | none => issueRepairDirective d fe plan nowMs

def findPersistedFailureEvidence (d : VerificationDisposition) (s : RepairStore) :
    Except RepairError FailureEvidence :=
  required ((s.listVerificationFailureEvidence d.planEntryId).find? fun fe =>
      fe.failureEvidenceId = d.failureEvidenceId)
    (.coordinator "disposition references failure evidence absent from the store")

/-- What the binding of an attempt already says about its dispatch. -/
inductive BindingResolution where
  /-- Another directive owns the attempt. -/
  | handOver
  | resolved (result : RepairDispatchResult)
  | dispatch
  deriving DecidableEq, Repr

/-- The state machine of `_resolve_dispatch_result`, up to the call of the runtime. -/
def resolveBinding (directive : RepairDirective) (s : RepairStore) : BindingResolution :=
  match s.getRepairExecutionBindingByAttempt directive.planEntryId directive.repairAttemptNo with
  | none => .dispatch
  | some binding =>
    if binding.repairDirectiveId ≠ directive.repairDirectiveId then .handOver
    else
      match binding.state with
      | .reserved => .dispatch
      | .sideEffectStarted | .ambiguous =>
        .resolved ⟨.executionAmbiguous, directive.effectiveSubjectIdentity, [binding.effectId]⟩
      | .succeeded => .resolved ⟨.dispatched, binding.producedSubjectIdentity, [binding.effectId]⟩
      | .failedFinal =>
        .resolved ⟨.executionFailed, directive.effectiveSubjectIdentity, [binding.effectId]⟩

/-- Link the produced subject, unless the attempt linked its subject before. -/
def bindSuccessor (directive : RepairDirective) (result : RepairDispatchResult) (nowMs : ℕ) :
    Call RepairError RepairStore Unit := do
  let bound ← read fun s =>
    (s.listVerificationSubjectSuccessors directive.planEntryId).any fun b =>
      b.repairAttemptNo = directive.repairAttemptNo
  if bound then pure ()
  else
    match result.executionEffectIds with
    | [] => query fun _ =>
      .error (.coordinator "subject successor requires a produced_by_effect binding")
    | effectId :: _ => do
      let _ ← transaction <| RepairStore.putVerificationSubjectSuccessor
        (SubjectSuccessor.withComputedSha256
          { successorBindingId := .null
            requestId := directive.requestId
            runId := directive.runId
            generation := directive.generation
            verificationPlanId := directive.verificationPlanId
            planEntryId := directive.planEntryId
            subjectKind := directive.subjectKind
            predecessorSubjectIdentity := directive.effectiveSubjectIdentity
            successorSubjectIdentity := result.producedSubjectIdentity
            repairDirectiveId := directive.repairDirectiveId
            repairDirectiveSha256 := directive.directiveSha256
            producedByEffectId := effectId
            repairAttemptNo := directive.repairAttemptNo
            boundAtMs := nowMs
            successorBindingSha256 := .null }) nowMs

def latestRecordForEntry (plan : VerificationPlan) (planEntryId : Canon) (s : RepairStore) :
    Option String :=
  (plan.entry planEntryId).bind fun entry =>
    let subject := ((s.resolveVerificationSubject planEntryId).effectiveSubjectIdentity).getD
      entry.subjectIdentity
    (((s.listVerificationRecords plan.requestId plan.runId plan.generation).filter fun r =>
      r.predicateId = entry.predicate.predicateId && r.subjectIdentity = subject).getLast?).map
        (·.verificationRecordId)

def attemptOutcome (directive : RepairDirective) (result : RepairDispatchResult)
    (readiness : VerificationReadiness) : ExecutionOutcome :=
  match result.executionOutcome with
  | .executionFailed => .executionFailed
  | .executionAmbiguous => .executionAmbiguous
  | .dispatched | .alreadyClaimed =>
    match (readiness.assessment directive.planEntryId).map EntryAssessment.status with
    | some .pass => .reverifyPass
    | some .fail => .reverifyFail
    | _ => .reverifyError

def attemptOf (directive : RepairDirective) (outcome : ExecutionOutcome)
    (result : RepairDispatchResult) (reverifyRecordId : Option String)
    (startedAtMs finishedAtMs : ℕ) : RepairAttemptRecord :=
  RepairAttemptRecord.withComputedSha256
    { repairAttemptId := .null
      repairDirectiveId := directive.repairDirectiveId
      repairAttemptNo := directive.repairAttemptNo
      requestId := directive.requestId
      runId := directive.runId
      generation := directive.generation
      planEntryId := directive.planEntryId
      priorSubjectIdentity := directive.effectiveSubjectIdentity
      producedSubjectIdentity := result.producedSubjectIdentity
      executionEffectIds := result.executionEffectIds
      executionOutcome := outcome
      reverifyRecordId := reverifyRecordId
      startedAtMs := startedAtMs
      finishedAtMs := finishedAtMs
      attemptSha256 := .null }

def recordAttempt (attempt : RepairAttemptRecord) : Call RepairError RepairStore Unit := do
  let _ ← transaction (RepairStore.putRepairAttempt attempt attempt.finishedAtMs)

theorem recordAttempt_of_ok {attempt : RepairAttemptRecord} {s t : RepairStore} {fresh : Bool}
    (h : RepairStore.putRepairAttempt attempt attempt.finishedAtMs s = .ok (fresh, t)) :
    (recordAttempt attempt).on s = (.ok (), t) := by
  rw [recordAttempt, on_bind_of_ok (on_transaction_of_ok h), on_pure]

theorem recordAttempt_of_error {attempt : RepairAttemptRecord} {s : RepairStore} {e : RepairError}
    (h : RepairStore.putRepairAttempt attempt attempt.finishedAtMs s = .error e) :
    (recordAttempt attempt).on s = (.error e, s) := by
  rw [recordAttempt, on_bind_of_error (on_transaction_of_error h)]

end Tiangong
