import Mathlib.Data.Finset.Card
import Mathlib.Data.Finset.Dedup
import Tiangong.FailureEvidenceBuilder
import Tiangong.Identities
import Tiangong.RepairPolicy
import Tiangong.Requests

/-!
# The repair tables of the store

Plans, readinesses and verifier records are read; failure evidence, dispositions, directives,
attempts and subject successors are written, each only when the store can derive it again from
what it holds. Rows of the written tables have passed their identity check.
-/
namespace Tiangong

/-- The state column of `repair_execution_binding`. -/
inductive BindingState where
  | reserved | sideEffectStarted | succeeded | failedFinal | ambiguous
  deriving DecidableEq, Repr

/-- A row of `repair_execution_binding`. -/
structure RepairBinding where
  repairDirectiveId : Canon
  repairDirectiveSha256 : Canon
  planEntryId : Canon
  repairAttemptNo : ℕ
  requestId : String
  runId : String
  generation : ℕ
  state : BindingState
  effectId : String
  effectIntentSha256 : String
  dispatchClaimId : String
  claimRevision : ℕ
  claimExpiresAtMs : ℕ
  producedSubjectIdentity : String := ""
  producedSubjectKind : String := ""
  runtimeResultRef : String := ""
  runtimeResultSha256 : String := ""
  reservedAtMs : ℕ
  startedAtMs : Option ℕ := none
  completedAtMs : Option ℕ := none
  deriving DecidableEq, Repr

abbrev RepairBinding.attemptKey (b : RepairBinding) : Canon × ℕ := (b.planEntryId, b.repairAttemptNo)

/-- The bindings with their two unique indexes. -/
structure RepairBindings where
  table : Table RepairBinding.repairDirectiveId
  effectId_unique : table.Unique RepairBinding.effectId
  attempt_unique : table.Unique RepairBinding.attemptKey

namespace RepairBindings

def empty : RepairBindings := ⟨.empty, Table.unique_empty, Table.unique_empty⟩

/-- `INSERT`, refused by the key or by one of the unique indexes. -/
def insert (b : RepairBindings) (row : RepairBinding) : Except StoreError RepairBindings :=
  match h : b.table.insert (.integrity "repair_execution_binding(repair_directive_id)") row with
  | .error e => .error e
  | .ok table =>
    if hu : ∀ r ∈ b.table.rows, r.effectId ≠ row.effectId ∧ r.attemptKey ≠ row.attemptKey then
      .ok ⟨table, b.effectId_unique.insert (Table.insert_eq_ok.mp h) fun r hr => (hu r hr).1,
        b.attempt_unique.insert (Table.insert_eq_ok.mp h) fun r hr => (hu r hr).2⟩
    else .error (.integrity "repair_execution_binding(effect_id, plan_entry_id, attempt_no)")

theorem insert_eq_ok {b b' : RepairBindings} {row : RepairBinding} (h : b.insert row = .ok b') :
    b.table.Inserts row b'.table := by
  unfold insert at h
  split at h
  · cases h
  · split at h
    · cases h
      exact Table.insert_eq_ok.mp ‹_›
    · cases h

/-- `UPDATE`, of columns outside the key and the unique indexes. -/
def update (b : RepairBindings) (selected : RepairBinding → Bool)
    (f : RepairBinding → RepairBinding)
    (hf : ∀ r, (f r).repairDirectiveId = r.repairDirectiveId ∧ (f r).effectId = r.effectId ∧
      (f r).attemptKey = r.attemptKey) : RepairBindings where
  table := b.table.update selected f fun r => (hf r).1
  effectId_unique := b.effectId_unique.update fun r => (hf r).2.1
  attempt_unique := b.attempt_unique.update fun r => (hf r).2.2

theorem mem_update {b : RepairBindings} {selected : RepairBinding → Bool}
    {f : RepairBinding → RepairBinding}
    {hf : ∀ r, (f r).repairDirectiveId = r.repairDirectiveId ∧ (f r).effectId = r.effectId ∧
      (f r).attemptKey = r.attemptKey} {row : RepairBinding} :
    row ∈ (b.update selected f hf).table.rows ↔
      ∃ r ∈ b.table.rows, row = if selected r then f r else r :=
  @Table.mem_update _ _ _ selected f (fun r => (hf r).1) _ _

end RepairBindings

/-- A row of `artifact_subject_authority`. -/
structure ArtifactSubject where
  artifactRevisionId : String
  requestId : String
  runId : String
  generation : ℕ
  deriving DecidableEq, Repr

/-- The tables the repair loop reads and writes. -/
structure RepairStore where
  requests : RequestTables
  effects : EffectStore
  verificationPlans :
    Table fun p : Sealed VerificationPlan.hasValidIdentity => p.1.verificationPlanId
  verificationReadinesses :
    Table fun r : Sealed VerificationReadiness.hasValidIdentity => r.1.verificationReadinessId
  verificationRecords : Table VerificationRecord.verificationRecordId
  failureEvidence : Table fun f : Sealed FailureEvidence.hasValidIdentity => f.1.failureEvidenceId
  dispositions :
    Table fun d : Sealed VerificationDisposition.hasValidIdentity => d.1.verificationDispositionId
  repairDirectives : Table fun d : Sealed RepairDirective.hasValidIdentity => d.1.repairDirectiveId
  repairAttempts : Table fun a : Sealed RepairAttemptRecord.hasValidIdentity => a.1.repairAttemptId
  subjectSuccessors :
    Table fun b : Sealed SubjectSuccessor.hasValidIdentity => b.1.successorBindingId
  repairExecutionBindings : RepairBindings
  artifactSubjects : Table ArtifactSubject.artifactRevisionId
  /-- The subjects of the repository observation bindings. -/
  repositorySubjects : List String

/-- What `resolve_verification_subject` returns. -/
structure SubjectResolution where
  effectiveSubjectIdentity : Option String
  successorDepth : ℕ
  chainBindingIds : List Canon
  deriving DecidableEq, Repr

/-- Append a successor to the chain when it continues the current end. -/
def SubjectResolution.follow (r : SubjectResolution) (b : SubjectSuccessor) : SubjectResolution :=
  if some b.predecessorSubjectIdentity = r.effectiveSubjectIdentity then
    ⟨some b.successorSubjectIdentity, r.successorDepth + 1,
      r.chainBindingIds ++ [b.successorBindingId]⟩
  else r

namespace RepairStore

def getVerificationPlan (s : RepairStore) (planId : Canon) : Option VerificationPlan :=
  (s.verificationPlans.find planId).map (·.1)

def getVerificationReadinessBySha (s : RepairStore) (requestId runId : String) (generation : ℕ)
    (readinessSha256 : Canon) : Option VerificationReadiness :=
  (s.verificationReadinesses.rows.find? fun r =>
    r.1.requestId = requestId ∧ r.1.runId = runId ∧ r.1.generation = generation ∧
      r.1.readinessSha256 = readinessSha256).map (·.1)

def listVerificationRecords (s : RepairStore) (requestId runId : String) (generation : ℕ) :
    List VerificationRecord :=
  orderBy (fun r r' => r.evaluatedAtMs < r'.evaluatedAtMs ||
      (r.evaluatedAtMs = r'.evaluatedAtMs && r.verificationRecordId ≤ r'.verificationRecordId))
    (s.verificationRecords.rows.filter fun r =>
      r.requestId = requestId && r.runId = runId && r.generation = generation)

def getVerificationFailureEvidenceById (s : RepairStore) (id : Canon) : Option FailureEvidence :=
  (s.failureEvidence.find id).map (·.1)

def listVerificationFailureEvidence (s : RepairStore) (planEntryId : Canon) :
    List FailureEvidence :=
  orderBy (fun f f' => f.observedAtMs ≤ f'.observedAtMs)
    ((s.failureEvidence.rows.map (·.1)).filter fun f => f.planEntryId = planEntryId)

def getVerificationDispositionById (s : RepairStore) (id : Canon) :
    Option VerificationDisposition :=
  (s.dispositions.find id).map (·.1)

def listVerificationDispositions (s : RepairStore) (planEntryId : Canon) :
    List VerificationDisposition :=
  orderBy (fun d d' => d.decidedAtMs ≤ d'.decidedAtMs)
    ((s.dispositions.rows.map (·.1)).filter fun d => d.planEntryId = planEntryId)

def listAllVerificationDispositions (s : RepairStore) (requestId runId : String)
    (generation : ℕ) : List VerificationDisposition :=
  orderBy (fun d d' => d.decidedAtMs ≤ d'.decidedAtMs)
    ((s.dispositions.rows.map (·.1)).filter fun d =>
      d.requestId = requestId && d.runId = runId && d.generation = generation)

def getRepairDirectiveById (s : RepairStore) (id : Canon) : Option RepairDirective :=
  (s.repairDirectives.find id).map (·.1)

def listRepairDirectives (s : RepairStore) (planEntryId : Canon) : List RepairDirective :=
  orderBy (fun d d' => d.issuedAtMs ≤ d'.issuedAtMs)
    ((s.repairDirectives.rows.map (·.1)).filter fun d => d.planEntryId = planEntryId)

def listRepairAttempts (s : RepairStore) (planEntryId : Canon) : List RepairAttemptRecord :=
  orderBy (fun a a' => a.startedAtMs ≤ a'.startedAtMs)
    ((s.repairAttempts.rows.map (·.1)).filter fun a => a.planEntryId = planEntryId)

def listVerificationSubjectSuccessors (s : RepairStore) (planEntryId : Canon) :
    List SubjectSuccessor :=
  orderBy (fun b b' => b.boundAtMs ≤ b'.boundAtMs)
    ((s.subjectSuccessors.rows.map (·.1)).filter fun b => b.planEntryId = planEntryId)

def getRepairExecutionBinding (s : RepairStore) (repairDirectiveId : Canon) :
    Option RepairBinding :=
  s.repairExecutionBindings.table.find repairDirectiveId

def getRepairExecutionBindingByAttempt (s : RepairStore) (planEntryId : Canon)
    (repairAttemptNo : ℕ) : Option RepairBinding :=
  s.repairExecutionBindings.table.rows.find? fun b =>
    b.attemptKey = (planEntryId, repairAttemptNo)

def artifactSubjectExists (s : RepairStore) (artifactRevisionId requestId runId : String)
    (generation : ℕ) : Bool :=
  s.artifactSubjects.rows.any fun a =>
    a.artifactRevisionId = artifactRevisionId && a.requestId = requestId && a.runId = runId &&
      a.generation = generation

/-- The current end of an entry's successor chain. -/
def resolveVerificationSubject (s : RepairStore) (planEntryId : Canon) : SubjectResolution :=
  match s.listVerificationSubjectSuccessors planEntryId with
  | [] => ⟨none, 0, []⟩
  | b :: bs =>
    bs.foldl .follow ⟨some b.successorSubjectIdentity, 1, [b.successorBindingId]⟩

def rebuildFailureEvidence (s : RepairStore) (plan : VerificationPlan)
    (readiness : VerificationReadiness) (observedAtMs : ℕ) :
    Except RepairError (List FailureEvidence) :=
  buildFailureEvidence plan readiness
    (s.listVerificationRecords plan.requestId plan.runId plan.generation)
    (fun id => (s.resolveVerificationSubject id).effectiveSubjectIdentity) observedAtMs

def revalidateFailureEvidence (evidence : FailureEvidence) (s : RepairStore) :
    Except RepairError Unit := do
  let plan ← required (s.getVerificationPlan evidence.verificationPlanId)
    (.revalidation .failureEvidence "failure evidence revalidation: plan absent from store")
  let readiness ← required
    (s.getVerificationReadinessBySha evidence.requestId evidence.runId evidence.generation
      evidence.readinessSha256)
    (.revalidation .failureEvidence "failure evidence revalidation: readiness absent from store")
  let rebuilt ← s.rebuildFailureEvidence plan readiness evidence.observedAtMs
  rejectIf (¬ ∃ candidate ∈ rebuilt, candidate.failureEvidenceId = evidence.failureEvidenceId ∧
        candidate.failureEvidenceSha256 = evidence.failureEvidenceSha256)
    (.revalidation .failureEvidence
      "failure evidence revalidation: store cannot re-derive the supplied evidence from plan + readiness + records")

def hasAmbiguousAttempt (s : RepairStore) (planEntryId : Canon) : Bool :=
  (s.listRepairAttempts planEntryId).any fun a => a.executionOutcome = .executionAmbiguous

/-- The effect a failure is about is started without a result, or ambiguous. -/
def effectSubjectIsAmbiguous (s : RepairStore) (evidence : FailureEvidence) : Bool :=
  evidence.subjectKind = .effect &&
    (s.effects.getEffect evidence.effectiveSubjectIdentity).any fun r =>
      r.state = .ambiguous || r.state = .sideEffectStarted

def storeDecisionInput (s : RepairStore) (evidence : FailureEvidence) (planEntryId : Canon) :
    DecisionInput :=
  let executedAttempts := s.listRepairAttempts planEntryId
  let signatures := ((s.listVerificationFailureEvidence planEntryId).filter fun f =>
    f.failureSignatureSha256 = evidence.failureSignatureSha256).map (·.readinessSha256)
  { predicateType := evidence.predicateType
    verificationStatus := evidence.verificationStatus
    failureKind := evidence.failureKind
    attemptNo := executedAttempts.length
    sameSignatureCount := (signatures.toFinset.erase evidence.readinessSha256).card
    successorDepth := (s.resolveVerificationSubject planEntryId).successorDepth
    sideEffectRepairCount :=
      if evidence.subjectKind ∈ [.effect, .repository] then executedAttempts.length else 0
    subjectKind := evidence.subjectKind
    effectIsAmbiguous := s.hasAmbiguousAttempt planEntryId || s.effectSubjectIsAmbiguous evidence }

/-- The repairs of a generation on file, other than the disposition under test. -/
def otherRepairCount (s : RepairStore) (disposition : VerificationDisposition) : ℕ :=
  (s.listAllVerificationDispositions disposition.requestId disposition.runId
    disposition.generation).countP fun d =>
      d.action = .repair && d.verificationDispositionId ≠ disposition.verificationDispositionId

def revalidateDisposition (disposition : VerificationDisposition) (s : RepairStore) :
    Except RepairError Unit := do
  let refuse (text : String) : RepairError :=
    .revalidation .disposition ("disposition revalidation: " ++ text)
  let evidence ← required (s.getVerificationFailureEvidenceById disposition.failureEvidenceId)
    (refuse "failure evidence absent from store")
  rejectIf (evidence.failureEvidenceSha256 ≠ disposition.failureEvidenceSha256)
    (refuse "failure evidence hash mismatch")
  let x := s.storeDecisionInput evidence disposition.planEntryId
  let expected := computeDispositionAction defaultPolicy x (s.otherRepairCount disposition)
  rejectIf (disposition.action ≠ expected.1)
    (refuse ("action does not match the deterministic policy re-computation (got " ++
      disposition.action.name ++ ", expected " ++ expected.1.name ++ ")"))
  rejectIf (disposition.reasonCodes ≠ expected.2)
    (refuse "reason codes do not match the deterministic policy re-computation")
  rejectIf (disposition.attemptNo ≠ x.attemptNo)
    (refuse "attempt_no does not match the store-derived REPAIR count")
  rejectIf (disposition.policyVersion ≠ policyVersion) (refuse "unknown policy version")
  rejectIf (disposition.policyConfigSha256 ≠ defaultPolicy.configSha256)
    (refuse "policy config hash does not match the authoritative policy")
  rejectIf (disposition.maxAttempts ≠ defaultPolicy.maxAttemptsPerPlanEntry)
    (refuse "max_attempts does not match the authoritative policy")

def revalidateRepairDirective (directive : RepairDirective) (recordedAtMs : ℕ) (s : RepairStore) :
    Except RepairError Unit := do
  let refuse (text : String) : RepairError :=
    .revalidation .directive ("repair directive revalidation: " ++ text)
  let disposition ← required (s.getVerificationDispositionById directive.dispositionId)
    (refuse "disposition absent from store")
  rejectIf (disposition.action ≠ .repair) (refuse "bound disposition is not REPAIR")
  rejectIf (disposition.dispositionSha256 ≠ directive.dispositionSha256)
    (refuse "disposition hash mismatch")
  rejectIf (disposition.planEntryId ≠ directive.planEntryId) (refuse "plan entry mismatch")
  rejectIf (disposition.failureEvidenceId ≠ directive.failureEvidenceId ∨
      disposition.failureEvidenceSha256 ≠ directive.failureEvidenceSha256)
    (refuse "failure evidence linkage mismatch")
  let plan ← required (s.getVerificationPlan directive.verificationPlanId)
    (refuse "plan absent from store")
  rejectIf (plan.planSha256 ≠ directive.verificationPlanSha256) (refuse "plan hash mismatch")
  let entry ← required (plan.entry directive.planEntryId) (refuse "plan entry absent from plan")
  rejectIf (entry.entrySha256 ≠ directive.planEntrySha256) (refuse "plan entry hash mismatch")
  rejectIf (entry.predicate.predicateId ≠ directive.predicateId ∨
      entry.predicate.predicateSha256 ≠ directive.predicateSha256)
    (refuse "predicate linkage mismatch")
  rejectIf (entry.subjectIdentity ≠ directive.originalSubjectIdentity)
    (refuse "original subject mismatch")
  let effective := ((s.resolveVerificationSubject entry.planEntryId).effectiveSubjectIdentity).getD
    entry.subjectIdentity
  rejectIf (effective ≠ directive.effectiveSubjectIdentity)
    (refuse "effective subject does not match the store successor chain")
  rejectIf (directive.repairAttemptNo ≠ disposition.attemptNo + 1)
    (refuse "attempt number must be disposition.attempt_no + 1")
  rejectIf (directive.maxAttempts ≠ defaultPolicy.maxAttemptsPerPlanEntry)
    (refuse "max_attempts does not match the authoritative policy")
  rejectIf (directive.expiresAtMs < recordedAtMs) (refuse "directive is already expired")
  rejectIf (maxRepairExpiryDeltaMs < directive.expiresAtMs - directive.issuedAtMs)
    (refuse "expiry window exceeds the authoritative policy limit")
  rejectIf (¬ (minRepairExecutionBudgetMs ≤ directive.executionBudgetMs ∧
      directive.executionBudgetMs ≤ maxRepairExecutionBudgetMs))
    (refuse "execution budget outside the authoritative policy limits")
  rejectIf (directive.allowedTargetRefs ≠ [effective])
    (refuse "allowed target scope must be exactly the current effective subject")
  rejectIf (directive.forbiddenTargetRefs ≠ [])
    (refuse "forbidden target refs cannot be populated")
  rejectIf (directive.repairGoalKind ≠ "repair:" ++ entry.predicate.predicateType)
    (refuse "repair goal kind does not match the plan entry predicate")

/-- The `(binding, effect)` pairs under which an outcome may be recorded. -/
def expectedPairs : ExecutionOutcome → List (BindingState × EffectState)
  | .dispatched | .reverifyPass | .reverifyFail | .reverifyError => [(.succeeded, .succeeded)]
  | .executionFailed => [(.failedFinal, .failedFinal)]
  | .executionAmbiguous => [(.ambiguous, .ambiguous), (.sideEffectStarted, .sideEffectStarted)]

def allowedStates : ExecutionOutcome → Option (List EffectState)
  | .dispatched => some [.succeeded]
  | .executionFailed => some [.failedFinal]
  | .executionAmbiguous => some [.ambiguous, .sideEffectStarted, .claimed]
  | .reverifyPass | .reverifyFail | .reverifyError => none

/-- The status a re-verification record must carry under an outcome, when it is fixed. -/
def expectedRecordStatus : ExecutionOutcome → Option VerificationStatus
  | .reverifyPass => some .pass
  | .reverifyFail => some .fail
  | .reverifyError => some .error
  | _ => none

def refuseAttempt (text : String) : RepairError :=
  .revalidation .attempt ("repair attempt revalidation: " ++ text)

def checkExecutionEffect (s : RepairStore) (attempt : RepairAttemptRecord)
    (directive : RepairDirective) (effectId : String) : Except RepairError Unit := do
  let row ← required (s.effects.getEffect effectId)
    (refuseAttempt "execution effect absent from the effect ledger")
  rejectIf (row.claim.requestId ≠ attempt.requestId ∨ row.claim.runId ≠ attempt.runId ∨
      row.claim.generation ≠ attempt.generation)
    (refuseAttempt "execution effect lineage mismatch")
  rejectIf (row.claim.claimedAtMs < directive.issuedAtMs)
    (refuseAttempt "execution effect predates the directive")
  rejectIf (∃ states, allowedStates attempt.executionOutcome = some states ∧ row.state ∉ states)
    (refuseAttempt "execution effect state contradicts the recorded outcome")

/-- The re-verification record of an attempt, when it names one, is bound to its directive. -/
def checkReverifyRecord (s : RepairStore) (attempt : RepairAttemptRecord)
    (directive : RepairDirective) : Except RepairError Unit :=
  match attempt.reverifyRecordId with
  | none => pure ()
  | some recordId => do
    let row ← required (s.verificationRecords.find recordId)
      (refuseAttempt "re-verification record absent from the store")
    let entry := (s.getVerificationPlan directive.verificationPlanId).bind fun p =>
      p.entry directive.planEntryId
    rejectIf (row.requestId ≠ attempt.requestId ∨ row.runId ≠ attempt.runId ∨
        row.generation ≠ attempt.generation ∨ row.predicateId ≠ directive.predicateId ∨
        row.subjectIdentity ≠ attempt.producedSubjectIdentity ∨
        ¬ (∃ e, entry = some e ∧ row.verifierId = e.verifierId ∧
          row.verifierVersion = e.verifierVersion) ∨
        ∃ status, expectedRecordStatus attempt.executionOutcome = some status ∧ row.status ≠ status)
      (refuseAttempt "re-verification record does not bind to this directive")

def revalidateRepairAttempt (attempt : RepairAttemptRecord) (s : RepairStore) :
    Except RepairError Unit := do
  let directive ← required (s.getRepairDirectiveById attempt.repairDirectiveId)
    (refuseAttempt "directive absent from store")
  rejectIf (directive.planEntryId ≠ attempt.planEntryId) (refuseAttempt "plan entry mismatch")
  rejectIf (directive.repairAttemptNo ≠ attempt.repairAttemptNo)
    (refuseAttempt "attempt number mismatch")
  rejectIf (directive.effectiveSubjectIdentity ≠ attempt.priorSubjectIdentity)
    (refuseAttempt "prior subject mismatch")
  rejectIf (∃ a ∈ s.repairAttempts.rows, a.1.planEntryId = attempt.planEntryId ∧
      a.1.repairAttemptNo = attempt.repairAttemptNo ∧
      a.1.repairAttemptId ≠ attempt.repairAttemptId)
    (refuseAttempt "an attempt with this number already exists for the plan entry")
  let binding ← required
    (s.getRepairExecutionBindingByAttempt attempt.planEntryId attempt.repairAttemptNo)
    (refuseAttempt "no repair execution binding owns this attempt")
  rejectIf (binding.repairDirectiveId ≠ attempt.repairDirectiveId)
    (refuseAttempt "binding belongs to a different directive")
  let effectState ← required (s.effects.getEffectHeadState binding.effectId)
    (refuseAttempt "binding effect absent from the effect ledger")
  rejectIf (attempt.executionEffectIds ≠ [binding.effectId] ∨
      (binding.state, effectState) ∉ expectedPairs attempt.executionOutcome)
    (refuseAttempt "execution effects do not match the repair execution binding authorities")
  attempt.executionEffectIds.forM (s.checkExecutionEffect attempt directive)
  s.checkReverifyRecord attempt directive

def refuseSuccessor (text : String) : RepairError :=
  .revalidation .successor ("subject successor revalidation: " ++ text)

def successorExists (s : RepairStore) (successor : SubjectSuccessor) : Except RepairError Unit :=
  match successor.subjectKind with
  | .effect =>
    rejectIf (s.effects.getEffect successor.successorSubjectIdentity = none)
      (refuseSuccessor "successor effect absent from the effect ledger")
  | .repository =>
    rejectIf (successor.successorSubjectIdentity ∉ s.repositorySubjects)
      (refuseSuccessor "successor has no repository observation bindings")
  | .artifact =>
    rejectIf (s.artifactSubjectExists successor.successorSubjectIdentity successor.requestId
        successor.runId successor.generation = false)
      (refuseSuccessor "artifact successor is not registered in the artifact authority")
  | .delivery | .text | .handoff => pure ()

def revalidateSubjectSuccessor (successor : SubjectSuccessor) (s : RepairStore) :
    Except RepairError Unit := do
  let directive ← required (s.getRepairDirectiveById successor.repairDirectiveId)
    (refuseSuccessor "directive absent from store")
  rejectIf (directive.directiveSha256 ≠ successor.repairDirectiveSha256)
    (refuseSuccessor "directive hash mismatch")
  rejectIf (directive.planEntryId ≠ successor.planEntryId) (refuseSuccessor "plan entry mismatch")
  rejectIf (directive.subjectKind ≠ successor.subjectKind)
    (refuseSuccessor "subject kind mismatch")
  rejectIf (directive.repairAttemptNo ≠ successor.repairAttemptNo)
    (refuseSuccessor "attempt number mismatch")
  let resolution := s.resolveVerificationSubject successor.planEntryId
  let entry := (s.getVerificationPlan successor.verificationPlanId).bind fun p =>
    p.entry successor.planEntryId
  let currentEffective := resolution.effectiveSubjectIdentity.or (entry.map (·.subjectIdentity))
  rejectIf (some successor.predecessorSubjectIdentity ≠ currentEffective)
    (refuseSuccessor "predecessor is not the current effective subject")
  -- The duplicate branch compares with a payload the function never bound.
  rejectIf (∃ b ∈ s.subjectSuccessors.rows, b.1.planEntryId = successor.planEntryId ∧
      b.1.repairAttemptNo = successor.repairAttemptNo ∧
      b.1.successorBindingId ≠ successor.successorBindingId)
    (.unbound "payload_json")
  let binding ← required
    (s.getRepairExecutionBindingByAttempt successor.planEntryId successor.repairAttemptNo)
    (refuseSuccessor "no repair execution binding owns this attempt")
  rejectIf (binding.repairDirectiveId ≠ successor.repairDirectiveId)
    (refuseSuccessor "binding belongs to a different directive")
  rejectIf (binding.state ≠ .succeeded) (refuseSuccessor "binding did not reach SUCCEEDED")
  rejectIf (successor.producedByEffectId ≠ binding.effectId)
    (refuseSuccessor "producing effect is not the repair execution binding's effect")
  rejectIf (successor.successorSubjectIdentity ≠ binding.producedSubjectIdentity)
    (refuseSuccessor "successor does not match the binding's persisted produced subject")
  rejectIf (s.effects.getEffectHeadState binding.effectId ≠ some .succeeded)
    (refuseSuccessor "binding effect is not SUCCEEDED in the effect ledger")
  let chain := s.listVerificationSubjectSuccessors successor.planEntryId
  let chainIdentities := chain.map (·.predecessorSubjectIdentity) ++
    chain.map (·.successorSubjectIdentity) ++ (entry.map (·.subjectIdentity)).toList
  rejectIf (successor.successorSubjectIdentity = successor.predecessorSubjectIdentity ∨
      successor.successorSubjectIdentity ∈ chainIdentities)
    (refuseSuccessor "successor would create a subject cycle")
  rejectIf (defaultPolicy.maxSubjectSuccessorDepth < resolution.successorDepth + 1)
    (refuseSuccessor "successor depth budget exceeded")
  let producing ← required (s.effects.getEffect successor.producedByEffectId)
    (refuseSuccessor "producing effect absent from the effect ledger")
  rejectIf (producing.claim.requestId ≠ successor.requestId ∨
      producing.claim.runId ≠ successor.runId ∨
      producing.claim.generation ≠ successor.generation ∨
      producing.claim.claimedAtMs < directive.issuedAtMs)
    (refuseSuccessor "producing effect lineage does not bind to this repair")
  s.successorExists successor

end RepairStore

end Tiangong
