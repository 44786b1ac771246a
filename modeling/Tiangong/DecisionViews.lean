import Tiangong.RepairCoordinator

/-!
# What a decision reads

A round writes evidence, dispositions and directives only. A decision on one entry reads the rows
of that entry and tables the round never writes, so the writes for other entries do not change it.
-/
open List

namespace Tiangong

namespace RepairStore

open FailureEvidence

variable {s t u : RepairStore}

/-- `t` is `s` up to the tables a round writes. -/
def Framed (s t : RepairStore) : Prop :=
  t = ((s.withEvidence t.failureEvidence).withDispositions t.dispositions).withDirectives
    t.repairDirectives

theorem Framed.refl (s : RepairStore) : Framed s s := rfl

theorem Framed.withEvidence (h : Framed s t)
    (rows : Table fun f : Sealed hasValidIdentity => f.1.failureEvidenceId) :
    Framed s (t.withEvidence rows) := by
  have hw := congrArg (fun u : RepairStore => u.withEvidence rows) h
  exact hw

theorem Framed.withDispositions (h : Framed s t)
    (rows : Table fun d : Sealed VerificationDisposition.hasValidIdentity =>
      d.1.verificationDispositionId) :
    Framed s (t.withDispositions rows) := by
  have hw := congrArg (fun u : RepairStore => u.withDispositions rows) h
  exact hw

theorem Framed.withDirectives (h : Framed s t)
    (rows : Table fun d : Sealed RepairDirective.hasValidIdentity => d.1.repairDirectiveId) :
    Framed s (t.withDirectives rows) := by
  have hw := congrArg (fun u : RepairStore => u.withDirectives rows) h
  exact hw

theorem Framed.trans (h : Framed s t) (h' : Framed t u) : Framed s u := by
  unfold Framed at *
  rw [h']
  conv_lhs => rw [h]
  rfl

section Reads

variable (h : Framed s t)
include h

theorem Framed.assertBinding (b : RecordBinding) (atMs : ℕ) :
    t.assertBinding b atMs = s.assertBinding b atMs := by rw [h]; rfl

theorem Framed.listRepairAttempts (e : Canon) :
    t.listRepairAttempts e = s.listRepairAttempts e := by rw [h]; rfl

theorem Framed.resolveVerificationSubject (e : Canon) :
    t.resolveVerificationSubject e = s.resolveVerificationSubject e := by rw [h]; rfl

theorem Framed.hasAmbiguousAttempt (e : Canon) :
    t.hasAmbiguousAttempt e = s.hasAmbiguousAttempt e := by rw [h]; rfl

theorem Framed.effectSubjectIsAmbiguous (fe : FailureEvidence) :
    t.effectSubjectIsAmbiguous fe = s.effectSubjectIsAmbiguous fe := by rw [h]; rfl

theorem Framed.getVerificationPlan (id : Canon) :
    t.getVerificationPlan id = s.getVerificationPlan id := by rw [h]; rfl

theorem Framed.getVerificationReadinessBySha (requestId runId : String) (generation : ℕ)
    (sha : Canon) : t.getVerificationReadinessBySha requestId runId generation sha =
      s.getVerificationReadinessBySha requestId runId generation sha := by rw [h]; rfl

theorem Framed.rebuildFailureEvidence (plan : VerificationPlan)
    (readiness : VerificationReadiness) (atMs : ℕ) :
    t.rebuildFailureEvidence plan readiness atMs =
      s.rebuildFailureEvidence plan readiness atMs := by rw [h]; rfl

end Reads

/-- `s` and `t` hold the same evidence and dispositions for the entry `e`. -/
structure SameEntry (s t : RepairStore) (e : Canon) : Prop where
  evidence : t.listVerificationFailureEvidence e = s.listVerificationFailureEvidence e
  dispositions : t.listVerificationDispositions e = s.listVerificationDispositions e
  findEvidence : ∀ f : FailureEvidence, f.hasValidIdentity = true → f.planEntryId = e →
    t.failureEvidence.find f.failureEvidenceId = s.failureEvidence.find f.failureEvidenceId
  findDisposition : ∀ d : VerificationDisposition, d.hasValidIdentity = true → d.planEntryId = e →
    t.dispositions.find d.verificationDispositionId =
      s.dispositions.find d.verificationDispositionId

theorem SameEntry.refl (s : RepairStore) (e : Canon) : SameEntry s s e :=
  ⟨rfl, rfl, fun _ _ _ => rfl, fun _ _ _ => rfl⟩

theorem SameEntry.trans {e : Canon} (h : SameEntry s t e) (h' : SameEntry t u e) :
    SameEntry s u e where
  evidence := h'.evidence.trans h.evidence
  dispositions := h'.dispositions.trans h.dispositions
  findEvidence f hf he := (h'.findEvidence f hf he).trans (h.findEvidence f hf he)
  findDisposition d hd he := (h'.findDisposition d hd he).trans (h.findDisposition d hd he)

/-- A decision depends on the entry's own rows and on tables the round does not write. -/
theorem SameEntry.decisionInput {fe : FailureEvidence} (h : SameEntry s t fe.planEntryId)
    (hf : Framed s t) : t.decisionInput fe = s.decisionInput fe := by
  simp only [RepairStore.decisionInput, h.evidence, hf.listRepairAttempts,
    hf.resolveVerificationSubject, hf.effectSubjectIsAmbiguous, hf.hasAmbiguousAttempt]

theorem SameEntry.reusableDisposition {fe : FailureEvidence} (h : SameEntry s t fe.planEntryId)
    (reuse : Bool) (nowMs : ℕ) :
    Tiangong.reusableDisposition reuse fe nowMs t = Tiangong.reusableDisposition reuse fe nowMs s := by
  simp only [Tiangong.reusableDisposition, h.dispositions]

section Insert

variable {fe : Sealed hasValidIdentity}
  {rows : Table fun f : Sealed hasValidIdentity => f.1.failureEvidenceId}
  {d : Sealed VerificationDisposition.hasValidIdentity}
  {drows : Table fun d : Sealed VerificationDisposition.hasValidIdentity =>
    d.1.verificationDispositionId}
  {e : Canon}

lemma sameEntry_withEvidence (h : t.failureEvidence.Inserts fe rows)
    (he : fe.1.planEntryId ≠ e) : SameEntry t (t.withEvidence rows) e where
  evidence := by
    simp [listVerificationFailureEvidence, RepairStore.withEvidence, h.rows, he]
  dispositions := rfl
  findEvidence f hf hfe := by
    change rows.find _ = _
    rw [h.find, if_neg]
    intro hid
    exact he ((congrArg planEntryId
      (eq_of_id fe.2 hf hid)).trans hfe)
  findDisposition _ _ _ := rfl

theorem sameEntry_withDispositions (h : t.dispositions.Inserts d drows)
    (he : d.1.planEntryId ≠ e) : SameEntry t (t.withDispositions drows) e where
  evidence := rfl
  dispositions := by
    simp [listVerificationDispositions, RepairStore.withDispositions, h.rows, he]
  findEvidence _ _ _ := rfl
  findDisposition f hf hfe := by
    change drows.find _ = _
    rw [h.find, if_neg]
    intro hid
    exact he ((congrArg VerificationDisposition.planEntryId
      (VerificationDisposition.eq_of_id d.2 hf hid)).trans hfe)

theorem generationRepairCount_withDispositions (h : t.dispositions.Inserts d drows)
    (requestId runId : String) (generation : ℕ) :
    (t.withDispositions drows).generationRepairCount requestId runId generation =
      t.generationRepairCount requestId runId generation +
        if (d.1.requestId = requestId ∧ d.1.runId = runId ∧ d.1.generation = generation) ∧
          d.1.action = .repair then 1 else 0 := by
  simp only [RepairStore.generationRepairCount, listAllVerificationDispositions,
    RepairStore.withDispositions, h.rows]
  rw [(orderBy_perm _ _).countP_eq, (orderBy_perm _ _).countP_eq]
  simp only [map_append, filter_append, countP_append, map_cons, map_nil]
  by_cases hb : d.1.requestId = requestId ∧ d.1.runId = runId ∧ d.1.generation = generation <;>
    by_cases ha : d.1.action = .repair <;> simp_all

end Insert

/-- Evidence is on file: it was there before, or it was inserted. -/
inductive EvidencePut (t : RepairStore) (fe : Sealed hasValidIdentity) :
    RepairStore → Prop
  | found (h : t.failureEvidence.find fe.1.failureEvidenceId = some fe) : EvidencePut t fe t
  | inserted {rows} (h : t.failureEvidence.Inserts fe rows) : EvidencePut t fe (t.withEvidence rows)

namespace EvidencePut

variable {fe : Sealed hasValidIdentity}

theorem framed (h : EvidencePut t fe u) : Framed t u := by
  cases h with
  | found => exact .refl t
  | inserted => exact (Framed.refl t).withEvidence _

theorem dispositions (h : EvidencePut t fe u) : u.dispositions = t.dispositions := by
  cases h <;> rfl

theorem find (h : EvidencePut t fe u) :
    u.failureEvidence.find fe.1.failureEvidenceId = some fe := by
  cases h with
  | found h => exact h
  | @inserted rows h =>
    change rows.find _ = _
    rw [h.find, if_pos rfl]

theorem sameEntry (h : EvidencePut t fe u) {e : Canon} (he : fe.1.planEntryId ≠ e) :
    SameEntry t u e := by
  cases h with
  | found => exact .refl t e
  | inserted h => exact sameEntry_withEvidence h he

lemma mem_list (h : EvidencePut t fe u) {f : FailureEvidence} :
    f ∈ u.listVerificationFailureEvidence fe.1.planEntryId ↔
      f = fe.1 ∨ f ∈ t.listVerificationFailureEvidence fe.1.planEntryId := by
  cases h with
  | found h =>
    constructor
    · exact .inr
    · rintro (rfl | hf)
      · simp only [listVerificationFailureEvidence, mem_orderBy, mem_filter, mem_map]
        exact ⟨⟨fe, Table.mem_of_find h, rfl⟩, by simp⟩
      · exact hf
  | inserted h =>
    simp only [listVerificationFailureEvidence, RepairStore.withEvidence, h.rows, mem_orderBy,
      mem_filter, map_append, mem_append, map_cons, map_nil,
      mem_singleton]
    constructor
    · rintro ⟨hf | rfl, he⟩
      · exact .inr ⟨hf, he⟩
      · exact .inl rfl
    · rintro (rfl | ⟨hf, he⟩)
      · exact ⟨.inr rfl, by simp⟩
      · exact ⟨.inl hf, he⟩

/-- The store, which counts after the evidence is on file and leaves it out, sees what the
coordinator sees, who counts before and puts it in. -/
theorem storeDecisionInput (h : EvidencePut t fe u) :
    u.storeDecisionInput fe.1 fe.1.planEntryId = t.decisionInput fe.1 := by
  have hset : (((u.listVerificationFailureEvidence fe.1.planEntryId).filter fun f =>
        f.failureSignatureSha256 = fe.1.failureSignatureSha256).map (·.readinessSha256)).toFinset =
      insert fe.1.readinessSha256 (((t.listVerificationFailureEvidence fe.1.planEntryId).filter
        fun f => f.failureSignatureSha256 = fe.1.failureSignatureSha256).map
          (·.readinessSha256)).toFinset := by
    ext r
    simp only [mem_toFinset, mem_map, mem_filter, decide_eq_true_eq, Finset.mem_insert, h.mem_list]
    constructor
    · rintro ⟨f, ⟨rfl | hf, hsig⟩, rfl⟩
      · exact .inl rfl
      · exact .inr ⟨f, ⟨hf, hsig⟩, rfl⟩
    · rintro (rfl | ⟨f, ⟨hf, hsig⟩, rfl⟩)
      · exact ⟨fe.1, ⟨.inl rfl, rfl⟩, rfl⟩
      · exact ⟨f, ⟨.inr hf, hsig⟩, rfl⟩
  simp only [RepairStore.storeDecisionInput, RepairStore.decisionInput, hset,
    Finset.card_erase_of_mem (Finset.mem_insert_self _ _), h.framed.listRepairAttempts,
    h.framed.resolveVerificationSubject, h.framed.hasAmbiguousAttempt,
    h.framed.effectSubjectIsAmbiguous, Bool.or_comm]

end EvidencePut

end RepairStore

end Tiangong
