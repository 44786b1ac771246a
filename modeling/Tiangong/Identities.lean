import Tiangong.VerificationContracts

/-!
# Content-derived identifiers

An identifier is derived from the digest of its record, so two records that pass their identity
check and share the identifier are the same record. A row found under an identifier therefore
never differs from the record that is written under it.
-/
namespace Tiangong

open Canon

@[simp] theorem textList_inj {vs ws : List String} : textList vs = textList ws ↔ vs = ws :=
  textList_injective.eq_iff

@[simp] theorem Canon.option_text_inj {a b : Option String} :
    option .text a = option .text b ↔ a = b :=
  (option_injective fun _ _ h => by simpa using h).eq_iff

@[simp] theorem Canon.option_id_inj {a b : Option Canon} :
    option id a = option id b ↔ a = b :=
  (option_injective Function.injective_id).eq_iff

@[simp] theorem SubjectKind.canon_inj {k k' : SubjectKind} : k.canon = k'.canon ↔ k = k' := by
  cases k <;> cases k' <;> decide

@[simp] theorem EvaluationPhase.canon_inj {p p' : EvaluationPhase} :
    p.canon = p'.canon ↔ p = p' := by
  cases p <;> cases p' <;> decide

@[simp] theorem AssessmentStatus.canon_inj {a a' : AssessmentStatus} :
    a.canon = a'.canon ↔ a = a' := by
  cases a <;> cases a' <;> decide

@[simp] theorem FailureClass.canon_inj {c c' : FailureClass} : c.canon = c'.canon ↔ c = c' := by
  cases c <;> cases c' <;> decide

@[simp] theorem FailureKind.canon_inj {k k' : FailureKind} : k.canon = k'.canon ↔ k = k' := by
  cases k <;> cases k' <;> decide

@[simp] theorem DispositionAction.canon_inj {a a' : DispositionAction} :
    a.canon = a'.canon ↔ a = a' := by
  cases a <;> cases a' <;> decide

theorem AcceptancePredicate.canon_injective : Function.Injective AcceptancePredicate.canon := by
  rintro ⟨⟩ ⟨⟩ h
  simpa [canon, ofList] using h

theorem PlanEntry.canon_injective : Function.Injective PlanEntry.canon := by
  rintro ⟨⟩ ⟨⟩ h
  simpa [canon, ofList, AcceptancePredicate.canon_injective.eq_iff] using h

theorem EntryAssessment.canon_injective : Function.Injective EntryAssessment.canon := by
  rintro ⟨⟩ ⟨⟩ h
  simpa [canon, ofList] using h

/-- A list of records is serialised record by record. -/
lemma Canon.ofList_map_inj {α : Type*} {f : α → Canon} (hf : Function.Injective f)
    {as bs : List α} : ofList (as.map f) = ofList (bs.map f) ↔ as = bs :=
  (ofList_injective.comp hf.list_map).eq_iff

theorem VerificationPlan.eq_of_id {p p' : VerificationPlan} (h : p.hasValidIdentity = true)
    (h' : p'.hasValidIdentity = true) (hid : p.verificationPlanId = p'.verificationPlanId) :
    p = p' := by
  simp only [hasValidIdentity, holds_iff] at h h'
  have hsha : p.planSha256 = p'.planSha256 := by
    rw [h.2, h'.2] at hid
    simpa [computedId, ofList] using hid
  have hcontent : p.computedPlanSha256 = p'.computedPlanSha256 := by
    rw [← h.1.1, ← h'.1.1, hsha]
  simp only [computedPlanSha256, ofList, sha256.injEq, cons.injEq,
    text.injEq, num.injEq, ofList_map_inj PlanEntry.canon_injective] at hcontent
  clear h h'
  cases p; cases p'; simp_all

theorem VerificationReadiness.eq_of_sha {r r' : VerificationReadiness}
    (h : r.hasValidIdentity = true) (h' : r'.hasValidIdentity = true)
    (hsha : r.readinessSha256 = r'.readinessSha256) : r = r' := by
  simp only [hasValidIdentity, holds_iff] at h h'
  have hid : r.verificationReadinessId = r'.verificationReadinessId := by rw [h.2, h'.2, hsha]
  have hcontent : r.computedReadinessSha256 = r'.computedReadinessSha256 := by
    rw [← h.1, ← h'.1, hsha]
  simp only [computedReadinessSha256, ofList, sha256.injEq, cons.injEq,
    text.injEq, num.injEq, flag.injEq, textList_inj, FailureClass.canon_inj,
    ofList_map_inj EntryAssessment.canon_injective] at hcontent
  clear h h'
  cases r; cases r'; simp_all

theorem FailureEvidence.eq_of_id {f f' : FailureEvidence} (h : f.hasValidIdentity = true)
    (h' : f'.hasValidIdentity = true) (hid : f.failureEvidenceId = f'.failureEvidenceId) :
    f = f' := by
  simp only [hasValidIdentity, holds_iff] at h h'
  have hsha : f.failureEvidenceSha256 = f'.failureEvidenceSha256 := by
    rw [h.2, h'.2] at hid
    simpa [computedId, ofList] using hid
  have hcontent : f.computedSha256 = f'.computedSha256 := by rw [← h.1, ← h'.1, hsha]
  simp only [computedSha256, ofList, sha256.injEq, cons.injEq,
    text.injEq, num.injEq, textList_inj, option_text_inj, option_id_inj,
    SubjectKind.canon_inj, AssessmentStatus.canon_inj, FailureKind.canon_inj] at hcontent
  clear h h'
  cases f; cases f'; simp_all

theorem VerificationDisposition.eq_of_id {d d' : VerificationDisposition}
    (h : d.hasValidIdentity = true) (h' : d'.hasValidIdentity = true)
    (hid : d.verificationDispositionId = d'.verificationDispositionId) : d = d' := by
  simp only [hasValidIdentity, holds_iff] at h h'
  have hsha : d.dispositionSha256 = d'.dispositionSha256 := by
    rw [h.2, h'.2] at hid
    simpa [computedId, ofList] using hid
  have hcontent : d.computedSha256 = d'.computedSha256 := by rw [← h.1, ← h'.1, hsha]
  simp only [computedSha256, ofList, sha256.injEq, cons.injEq,
    text.injEq, num.injEq, textList_inj, DispositionAction.canon_inj] at hcontent
  clear h h'
  cases d; cases d'; simp_all

end Tiangong
