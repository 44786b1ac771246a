import Tiangong.VerificationContracts

/-!
# Derived failure evidence

For every required entry of a plan that its readiness does not pass, the builder derives what
failed from the plan, the readiness and the stored records.
-/
namespace Tiangong

/-- Which write a store refuses because it cannot reproduce it. -/
inductive Revalidated where
  | failureEvidence | disposition | directive | attempt | successor
  deriving DecidableEq, Repr

/-- What the repair loop and its store methods raise. -/
inductive RepairError where
  | store (error : StoreError)
  /-- A `FailureEvidenceBuilderError`. -/
  | builder (text : String)
  /-- A `ValueError` of a revalidation at the write boundary. -/
  | revalidation (subject : Revalidated) (text : String)
  /-- A `RepairCoordinatorError`. -/
  | coordinator (text : String)
  /-- A `NameError`: the function reads a variable it never bound. -/
  | unbound (variable_ : String)
  deriving DecidableEq, Repr

/-- The digest of sixty-four zeros. -/
def zeroSha256 : Canon :=
  .text "0000000000000000000000000000000000000000000000000000000000000000"

/-- `_STATUS_TO_KIND`. -/
def AssessmentStatus.failureKind : AssessmentStatus → FailureKind
  | .fail => .verificationFailed
  | .inconclusive => .inconclusive
  | .missing => .missingEvidence
  | .error | .pass => .authorityError
  | .notApplicable => .planConfigError
  | .recordMismatch => .recordMismatch

/-- The digest after the first `predicate_sha256:` reference of a record, or its evidence digest. -/
def VerificationRecord.verificationEvidenceSha256 (r : VerificationRecord) : Canon :=
  let marker := "predicate_sha256:".toList
  let named := (r.evidenceRefs.find? fun ref => marker.isPrefixOf ref.toList).map
    fun ref => Canon.text (String.ofList (ref.toList.drop marker.length))
  let sha := named.getD zeroSha256
  if sha = zeroSha256 then r.evidenceSha256 else sha

section Builder

variable (plan : VerificationPlan) (readiness : VerificationReadiness)
  (records : List VerificationRecord) (effectiveSubject : Canon → Option String)
  (observedAtMs : ℕ)

/-- The assessment of a required entry that did not pass. -/
def failingAssessment (entry : PlanEntry) : Option EntryAssessment :=
  if entry.required then
    (readiness.assessment entry.planEntryId).filter fun a => a.status ≠ .pass
  else none

def assessedRecord (assessment : EntryAssessment) : Option VerificationRecord :=
  assessment.verificationRecordId.bind fun recordId =>
    records.find? fun r => r.verificationRecordId = recordId

def failureEvidenceOf (entry : PlanEntry) (assessment : EntryAssessment) : FailureEvidence :=
  let effective := (effectiveSubject entry.planEntryId).getD entry.subjectIdentity
  let record := assessedRecord records assessment
  let evidenceSha256 := (record.map (·.verificationEvidenceSha256)).getD zeroSha256
  let reasonCodes := (record.map (·.reasonCodes)).getD []
  FailureEvidence.withComputedSha256
    { failureEvidenceId := .null
      requestId := plan.requestId
      runId := plan.runId
      generation := plan.generation
      verificationPlanId := plan.verificationPlanId
      verificationPlanSha256 := plan.planSha256
      registrySnapshotSha256 := plan.registrySnapshotSha256
      planEntryId := entry.planEntryId
      planEntrySha256 := entry.entrySha256
      verifierId := entry.verifierId
      verifierVersion := entry.verifierVersion
      predicateId := entry.predicate.predicateId
      predicateSha256 := entry.predicate.predicateSha256
      predicateType := entry.predicate.predicateType
      subjectKind := entry.predicate.subjectKind
      originalSubjectIdentity := entry.subjectIdentity
      effectiveSubjectIdentity := effective
      verificationRecordId := record.map (·.verificationRecordId)
      verificationResultSha256 := record.map (·.resultSha256)
      verificationStatus := assessment.status
      readinessId := readiness.verificationReadinessId
      readinessSha256 := readiness.readinessSha256
      failureKind := assessment.status.failureKind
      reasonCodes := reasonCodes
      evidenceRefs := (record.map (·.evidenceRefs)).getD []
      verificationEvidenceSha256 := evidenceSha256
      failureSignatureSha256 := deriveFailureSignature entry.planEntryId effective
        entry.predicate.predicateSha256 assessment.status reasonCodes evidenceSha256
      observedAtMs := observedAtMs
      failureEvidenceSha256 := .null }

def buildEntries : List PlanEntry → Except RepairError (List FailureEvidence)
  | [] => .ok []
  | entry :: entries =>
    match failingAssessment readiness entry with
    | none => buildEntries entries
    | some assessment => do
      rejectIf (assessment.status = .missing ∧ (assessedRecord records assessment).isSome)
        (.builder "readiness says MISSING but a record exists for this entry")
      let rest ← buildEntries entries
      pure (failureEvidenceOf plan readiness records effectiveSubject observedAtMs entry
        assessment :: rest)

def buildFailureEvidence : Except RepairError (List FailureEvidence) := do
  rejectIf (plan.hasValidIdentity = false) (.builder "plan identity is invalid")
  rejectIf (readiness.hasValidIdentity = false) (.builder "readiness identity is invalid")
  rejectIf (readiness.verificationPlanId ≠ plan.verificationPlanId)
    (.builder "readiness does not correspond to the given plan")
  buildEntries plan readiness records effectiveSubject observedAtMs plan.entries

def failingEntries (entries : List PlanEntry) : List (PlanEntry × EntryAssessment) :=
  entries.filterMap fun e => (failingAssessment readiness e).map (e, ·)

variable {plan readiness records effectiveSubject observedAtMs}

theorem buildEntries_eq_ok {entries : List PlanEntry} {fes : List FailureEvidence}
    (h : buildEntries plan readiness records effectiveSubject observedAtMs entries = .ok fes) :
    fes = (failingEntries readiness entries).map fun (e, a) =>
      failureEvidenceOf plan readiness records effectiveSubject observedAtMs e a := by
  induction entries generalizing fes with
  | nil =>
    cases h
    rfl
  | cons entry entries ih =>
    unfold buildEntries at h
    cases hf : failingAssessment readiness entry with
    | none =>
      rw [hf] at h
      simpa [failingEntries, hf] using ih h
    | some assessment =>
      rw [hf] at h
      simp only [eq_ok_iff] at h
      obtain ⟨-, rest, hrest, rfl⟩ := h
      simp [failingEntries, hf, ih hrest]

lemma failingEntries_sublist (readiness : VerificationReadiness) (entries : List PlanEntry) :
    ((failingEntries readiness entries).map Prod.fst).Sublist entries := by
  induction entries with
  | nil => simp [failingEntries]
  | cons entry entries ih =>
    cases hf : failingAssessment readiness entry with
    | none => simpa [failingEntries, hf] using ih.cons entry
    | some assessment => simpa [failingEntries, hf] using ih

theorem failingEntries_nodup (plan : VerificationPlan) (readiness : VerificationReadiness) :
    ((failingEntries readiness plan.entries).map fun e => e.1.planEntryId).Nodup := by
  have hsub := (failingEntries_sublist readiness plan.entries).map PlanEntry.planEntryId
  rw [List.map_map] at hsub
  exact hsub.nodup plan.entryIds_nodup

end Builder

end Tiangong
