import Mathlib.Data.String.Basic
import Tiangong.CanonOrder
import Tiangong.Machines
import Tiangong.PythonText
import Tiangong.RepairWrites
import Tiangong.Supersession
import Tiangong.VerificationRegistry

/-!
# The readiness builder

The readiness of a plan is computed from the plan, the registry snapshot it is bound to, and the
verifier records and subject successors in the store. Of the records that match an entry exactly the
latest ones count.
-/
namespace Tiangong

/-- A verifier record with all its columns. -/
structure VerifierRecord extends VerificationRecord where
  registrySnapshotSha256 : Canon
  predicateType : String
  subjectKind : SubjectKind
  evaluationPhase : EvaluationPhase
  enforcement : EnforcementMode
  producerComponentId : String
  modelGenerated : Bool
  deriving DecidableEq, Repr

def VerificationStatus.canon : VerificationStatus → Canon
  | .pass => .text "PASS"
  | .fail => .text "FAIL"
  | .inconclusive => .text "INCONCLUSIVE"
  | .error => .text "ERROR"
  | .notApplicable => .text "NOT_APPLICABLE"

namespace VerifierRecord

def computedResultSha256 (r : VerifierRecord) : Canon :=
  .sha256 (.ofList [.text r.requestId, .text r.runId, .num r.generation, .text r.verifierId,
    .text r.verifierVersion, r.registrySnapshotSha256, r.predicateId, .text r.predicateType,
    r.subjectKind.canon, .text r.subjectIdentity, r.evaluationPhase.canon, r.status.canon,
    r.enforcement.canon, textList r.reasonCodes, textList r.evidenceRefs, r.evidenceSha256,
    .text r.producerComponentId, .flag r.modelGenerated, .num r.evaluatedAtMs])

def hasValidResultSha256 (r : VerifierRecord) : Bool := r.resultSha256 = r.computedResultSha256

def deriveVerificationRecordId (resultSha256 : Canon) : String :=
  "vrs_" ++ (Canon.sha256 (.ofList [.text "tiangong.verification_record.v1",
    resultSha256])).digestText

def hasValidIdentity (r : VerifierRecord) : Bool :=
  r.hasValidResultSha256 && r.verificationRecordId = deriveVerificationRecordId r.resultSha256

def withComputedSha256 (r : VerifierRecord) : VerifierRecord :=
  { r with
    resultSha256 := r.computedResultSha256
    verificationRecordId := deriveVerificationRecordId r.computedResultSha256 }

theorem withComputedSha256_valid (r : VerifierRecord) :
    r.withComputedSha256.hasValidIdentity = true := by
  simp [hasValidIdentity, hasValidResultSha256, withComputedSha256, computedResultSha256]

end VerifierRecord

/-- The order of records by time and then by identifier. -/
def recordLe (r r' : VerifierRecord) : Bool :=
  r.evaluatedAtMs < r'.evaluatedAtMs ||
    (r.evaluatedAtMs = r'.evaluatedAtMs && r.verificationRecordId ≤ r'.verificationRecordId)

/-- The plan of a composition, by which the store seals the records of a run. -/
structure CompositionPlanRow where
  requestId : String
  runId : String
  generation : ℕ
  verificationPlanId : Canon
  deriving DecidableEq, Repr

/-- The store as the readiness builder reads it. The repair loop reads some columns of the same
records. -/
structure ReadinessStore where
  repair : RepairStore
  records : Table fun r : VerifierRecord => r.verificationRecordId
  compositionPlans : List CompositionPlanRow
  records_shared : repair.verificationRecords.rows = records.rows.map (·.toVerificationRecord)

namespace ReadinessStore

def listVerificationRecords (s : ReadinessStore) (requestId runId : String) (generation : ℕ) :
    List VerifierRecord :=
  orderBy recordLe (s.records.rows.filter fun r =>
    r.requestId = requestId && r.runId = runId && r.generation = generation)

def compositionSealed (s : ReadinessStore) (requestId runId : String) (generation : ℕ) : Bool :=
  match s.compositionPlans.find? fun p =>
      p.requestId = requestId && p.runId = runId && p.generation = generation with
  | none => false
  | some p => s.repair.verificationReadinesses.rows.any fun r =>
      r.1.requestId = requestId && r.1.runId = runId && r.1.generation = generation &&
        r.1.verificationPlanId = p.verificationPlanId

/-- The columns of the records that the repair loop reads. -/
def sharedColumns (records : Table fun r : VerifierRecord => r.verificationRecordId) :
    Table VerificationRecord.verificationRecordId where
  rows := records.rows.map (·.toVerificationRecord)
  keys_nodup := by
    rw [List.map_map]
    exact records.keys_nodup

def withRecords (s : ReadinessStore)
    (records : Table fun r : VerifierRecord => r.verificationRecordId) : ReadinessStore where
  repair := { s.repair with verificationRecords := sharedColumns records }
  records := records
  compositionPlans := s.compositionPlans
  records_shared := rfl

def putVerificationRecord (record : VerifierRecord) (recordedAtMs : ℕ) (s : ReadinessStore) :
    Except RepairError (Bool × ReadinessStore) := do
  rejectIf (record.hasValidResultSha256 = false)
    (.store (.value "verification record result hash mismatch"))
  rejectIf (record.verificationRecordId ≠
      VerifierRecord.deriveVerificationRecordId record.resultSha256)
    (.store (.value "verification record identity does not match its result hash"))
  rejectIf (record.enforcement ≠ .record)
    (.store (.value "M1 verification records must be enforcement=RECORD"))
  let _ ← s.repair.assertBinding ⟨record.requestId, record.runId, record.generation⟩ recordedAtMs
  match s.records.find record.verificationRecordId with
  | some existing => do
    rejectIf (existing ≠ record)
      (.store (.conflict "verification record identity was reused for different content"))
    pure (false, s)
  | none => do
    rejectIf (s.compositionSealed record.requestId record.runId record.generation = true)
      (.store (.conflict "composition verification readiness already sealed"))
    let rows ← s.records.insert (.store (.integrity "verification_record")) record
    pure (true, s.withRecords rows)

/-- `put_verification_subject_successor`. -/
def putSubjectSuccessor (successor : SubjectSuccessor) (recordedAtMs : ℕ) (s : ReadinessStore) :
    Except RepairError (Bool × ReadinessStore) := do
  let (created, repair) ← s.repair.putVerificationSubjectSuccessor successor recordedAtMs
  pure (created, { s with
    repair := { repair with verificationRecords := sharedColumns s.records }
    records_shared := rfl })

end ReadinessStore

/-- The record answers the question of the entry about a subject. -/
def recordMatchesEffectiveSubject (plan : VerificationPlan) (r : VerifierRecord) (e : PlanEntry)
    (effectiveSubjectIdentity : String) : Bool :=
  r.requestId = plan.requestId && r.runId = plan.runId && r.generation = plan.generation &&
    r.registrySnapshotSha256 = plan.registrySnapshotSha256 && r.verifierId = e.verifierId &&
    r.verifierVersion = e.verifierVersion && r.predicateId = e.predicate.predicateId &&
    r.predicateType = e.predicate.predicateType && r.subjectKind = e.predicate.subjectKind &&
    r.subjectIdentity = effectiveSubjectIdentity && r.evaluationPhase = e.evaluationPhase &&
    r.enforcement = .record && r.hasValidIdentity &&
    ("predicate_sha256:" ++ e.predicate.predicateSha256.digestText) ∈ r.evidenceRefs

/-- The record answers the question of the entry about the subject that the entry names. -/
def recordMatchesEntry (plan : VerificationPlan) (r : VerifierRecord) (e : PlanEntry) : Bool :=
  recordMatchesEffectiveSubject plan r e e.subjectIdentity

/-- The records that count for an entry: about its effective subject when it has a successor, and
about the subject it names otherwise. -/
def matchingRecords (plan : VerificationPlan) (allRecords : List VerifierRecord)
    (resolution : Option String) (e : PlanEntry) : List VerifierRecord :=
  match resolution.filter (· ≠ "") with
  | some effective => allRecords.filter fun r => recordMatchesEffectiveSubject plan r e effective
  | none => allRecords.filter fun r => recordMatchesEntry plan r e

def VerificationStatus.assessment : VerificationStatus → AssessmentStatus
  | .pass => .pass
  | .fail => .fail
  | .inconclusive => .inconclusive
  | .error => .error
  | .notApplicable => .notApplicable

def assessEntry (matching : List VerifierRecord) (e : PlanEntry) : EntryAssessment :=
  let sorted := orderBy recordLe matching
  match sorted.getLast? with
  | none => ⟨e.planEntryId, .missing, none, none⟩
  | some current =>
    let latest := sorted.filter fun r => r.evaluatedAtMs = current.evaluatedAtMs
    if 1 < (latest.map (·.status)).dedup.length then ⟨e.planEntryId, .recordMismatch, none, none⟩
    else ⟨e.planEntryId, current.status.assessment, some current.verificationRecordId, none⟩

def checkPlanEntry (registry : VerifierRegistry) (e : PlanEntry) : Except String Unit :=
  match registry.find e.verifierId e.verifierVersion with
  | .error _ => .error ("plan entry verifier not in registry: " ++ e.verifierId ++ "@" ++
      e.verifierVersion)
  | .ok descriptor => rejectIf (e.predicate.predicateType ∉ descriptor.supportedPredicateTypes)
      ("plan entry predicate not supported: " ++ e.predicate.predicateType)

/-- What is checked before any record is read. -/
def checkReadinessInputs (plan : VerificationPlan) (snapshot : RegistrySnapshot) :
    Except String Unit := do
  rejectIf (plan.hasValidIdentity = false) "plan identity is invalid"
  rejectIf (snapshot.hasValidIdentity = false) "registry snapshot identity is invalid"
  rejectIf (plan.registrySnapshotSha256 ≠ snapshot.snapshotSha256)
    "plan registry snapshot does not match the authoritative snapshot"
  match VerifierRegistry.ofDescriptors snapshot.verifiers with
  | .error _ => .error "registry snapshot contains invalid descriptors"
  | .ok registry => plan.entries.forM (checkPlanEntry registry)

def failureClassOf (plan : VerificationPlan) (assessments : List EntryAssessment)
    (requiredCount satisfiedCount : ℕ) : FailureClass :=
  let requiredAssessments := assessments.filter fun a =>
    plan.entries.any fun e => e.planEntryId = a.planEntryId && e.required
  let has (status : AssessmentStatus) : Bool := requiredAssessments.any fun a => a.status = status
  if 0 < requiredCount ∧ satisfiedCount = requiredCount ∧ has .notApplicable = false then .none
  else if has .notApplicable = true ∨ has .recordMismatch = true then .planConfigError
  else if has .error then .authorityError
  else if has .fail then .verificationFailed
  else .missingEvidence

/-- The entries of a plan in the order of their identifiers. -/
def sortedEntries (plan : VerificationPlan) : List PlanEntry :=
  orderBy (fun e e' => e.planEntryId ≤ e'.planEntryId) plan.entries

theorem sortedEntries_perm (plan : VerificationPlan) : (sortedEntries plan).Perm plan.entries :=
  orderBy_perm _ _

lemma sorted_assessmentIds_nodup {plan : VerificationPlan} {assess : PlanEntry → EntryAssessment}
    (hids : ∀ e, (assess e).planEntryId = e.planEntryId) :
    ((orderBy (fun a a' : EntryAssessment => a.planEntryId ≤ a'.planEntryId)
      ((sortedEntries plan).map assess)).map EntryAssessment.planEntryId).Nodup := by
  have hperm := ((orderBy_perm (fun a a' : EntryAssessment => a.planEntryId ≤ a'.planEntryId)
    ((sortedEntries plan).map assess)).trans ((sortedEntries_perm plan).map assess)).map
      EntryAssessment.planEntryId
  have hsame : (plan.entries.map assess).map EntryAssessment.planEntryId =
      plan.entries.map PlanEntry.planEntryId := by
    rw [List.map_map]
    exact List.map_congr_left fun e _ => hids e
  rw [hsame] at hperm
  exact hperm.nodup_iff.mpr plan.entryIds_nodup

/-- The readiness that the assessments of the entries add up to. -/
def readinessOf (plan : VerificationPlan) (assess : PlanEntry → EntryAssessment)
    (hids : ∀ e, (assess e).planEntryId = e.planEntryId) (evaluatedAtMs : ℕ) :
    VerificationReadiness :=
  let assessments := (sortedEntries plan).map assess
  let requiredCount := (sortedEntries plan).countP fun e => e.required
  let satisfiedCount := (sortedEntries plan).countP fun e => e.required && (assess e).status = .pass
  let failureClass := failureClassOf plan assessments requiredCount satisfiedCount
  VerificationReadiness.withComputedSha256
    { verificationReadinessId := .text ("vrd_" ++ String.ofList (List.replicate 64 '0'))
      verificationPlanId := plan.verificationPlanId
      verificationPlanSha256 := plan.planSha256
      requestId := plan.requestId
      runId := plan.runId
      generation := plan.generation
      registrySnapshotSha256 := plan.registrySnapshotSha256
      requiredEntryCount := requiredCount
      satisfiedEntryCount := satisfiedCount
      entryAssessments := orderBy (fun a a' => a.planEntryId ≤ a'.planEntryId) assessments
      supportingVerificationRecordIds := sortedSet (assessments.filterMap (·.verificationRecordId))
      verificationReady := failureClass = .none
      failureClass := failureClass
      reasonCodes := []
      evaluatedAtMs := evaluatedAtMs
      readinessSha256 := zeroSha256
      ready_iff := decide_eq_true_iff
      assessmentIds_nodup := sorted_assessmentIds_nodup hids }

/-- The records that the clock of a readiness lets it read. -/
def eligibleRecords (s : ReadinessStore) (plan : VerificationPlan) (evaluatedAtMs : ℕ)
    (exactEvaluatedAtMs : Bool) : List VerifierRecord :=
  (s.listVerificationRecords plan.requestId plan.runId plan.generation).filter fun r =>
    if exactEvaluatedAtMs then r.evaluatedAtMs = evaluatedAtMs else r.evaluatedAtMs ≤ evaluatedAtMs

def assessFromStore (s : ReadinessStore) (plan : VerificationPlan) (evaluatedAtMs : ℕ)
    (exactEvaluatedAtMs : Bool) (e : PlanEntry) : EntryAssessment :=
  assessEntry (matchingRecords plan (eligibleRecords s plan evaluatedAtMs exactEvaluatedAtMs)
    (s.repair.resolveVerificationSubject e.planEntryId).effectiveSubjectIdentity e) e

lemma assessEntry_planEntryId (matching : List VerifierRecord) (e : PlanEntry) :
    (assessEntry matching e).planEntryId = e.planEntryId := by
  unfold assessEntry
  dsimp only
  split
  · rfl
  · split <;> rfl

theorem assessFromStore_planEntryId (s : ReadinessStore) (plan : VerificationPlan)
    (evaluatedAtMs : ℕ) (exactEvaluatedAtMs : Bool) (e : PlanEntry) :
    (assessFromStore s plan evaluatedAtMs exactEvaluatedAtMs e).planEntryId = e.planEntryId :=
  assessEntry_planEntryId _ e

/-- The readiness of a plan at a time. In the exact mode only the records of that very time are
read. -/
def buildReadiness (plan : VerificationPlan) (snapshot : RegistrySnapshot) (s : ReadinessStore)
    (evaluatedAtMs : ℕ) (exactEvaluatedAtMs : Bool) : Except String VerificationReadiness := do
  checkReadinessInputs plan snapshot
  pure (readinessOf plan (assessFromStore s plan evaluatedAtMs exactEvaluatedAtMs)
    (assessFromStore_planEntryId s plan evaluatedAtMs exactEvaluatedAtMs) evaluatedAtMs)

end Tiangong
