import Tiangong.ReadinessBuilder

/-!
# What a readiness says

The assessment of an entry is decided by the latest of its matching records, whatever their order;
the plan is ready exactly when every required entry passes.
-/
namespace Tiangong

open Supersession List VerifierRecord

abbrev VerifierRecord.time (r : VerifierRecord) : ℕ := r.evaluatedAtMs

/-- What a record says of its entry. -/
abbrev VerifierRecord.verdict (r : VerifierRecord) : VerificationStatus := r.status

section Assessment

variable {rs rs' : List VerifierRecord} {e : PlanEntry} {r r' : VerifierRecord}

lemma recordLe_iff : recordLe r r' = true ↔ r.evaluatedAtMs < r'.evaluatedAtMs ∨
    r.evaluatedAtMs = r'.evaluatedAtMs ∧ r.verificationRecordId ≤ r'.verificationRecordId := by
  simp [recordLe]

lemma orderBy_recordLe_sorted (rs : List VerifierRecord) :
    (orderBy recordLe rs).Pairwise fun r r' => recordLe r r' = true := by
  have : IsTrans VerifierRecord fun r r' => recordLe r r' = true := ⟨by
    intro a b c hab hbc
    rw [recordLe_iff] at *
    rcases hab with hab | ⟨hab, hid⟩
    · rcases hbc with hbc | ⟨hbc, -⟩
      · exact .inl (hab.trans hbc)
      · exact .inl (hbc ▸ hab)
    · rcases hbc with hbc | ⟨hbc, hid'⟩
      · exact .inl (hab ▸ hbc)
      · exact .inr ⟨hab.trans hbc, hid.trans hid'⟩⟩
  have : Std.Total fun r r' : VerifierRecord => recordLe r r' = true := ⟨by
    intro a b
    rw [recordLe_iff, recordLe_iff]
    rcases lt_trichotomy a.evaluatedAtMs b.evaluatedAtMs with h | h | h
    · exact .inl (.inl h)
    · rcases le_total a.verificationRecordId b.verificationRecordId with hid | hid
      · exact .inl (.inr ⟨h, hid⟩)
      · exact .inr (.inr ⟨h.symm, hid⟩)
    · exact .inr (.inl h)⟩
  exact pairwise_insertionSort _ rs

lemma orderBy_recordLe_congr (h : rs.Perm rs') (hids : (rs.map (·.verificationRecordId)).Nodup) :
    orderBy recordLe rs = orderBy recordLe rs' := by
  have hperm : (orderBy recordLe rs).Perm (orderBy recordLe rs') :=
    (orderBy_perm _ rs).trans (h.trans (orderBy_perm _ rs').symm)
  refine List.Perm.eq_of_pairwise ?_ (orderBy_recordLe_sorted rs) (orderBy_recordLe_sorted rs') hperm
  intro a b ha hb hab hba
  rw [recordLe_iff] at hab hba
  have hid : a.verificationRecordId = b.verificationRecordId := by
    rcases hab with hab | ⟨hab, hle⟩
    · rcases hba with hba | ⟨hba, -⟩
      · omega
      · omega
    · rcases hba with hba | ⟨-, hge⟩
      · omega
      · exact le_antisymm hle hge
  exact inj_on_of_nodup_map hids (mem_orderBy.mp ha) (h.mem_iff.mpr (mem_orderBy.mp hb)) hid

/-- An assessment depends on which records match, not on their order. -/
theorem assessEntry_perm (h : rs.Perm rs') (hids : (rs.map (·.verificationRecordId)).Nodup) :
    assessEntry rs e = assessEntry rs' e := by
  rw [assessEntry, assessEntry, orderBy_recordLe_congr h hids]

/-- The verdict of one record, when the latest records agree on it. -/
def conclusion (e : PlanEntry) (r : VerifierRecord) : EntryAssessment :=
  ⟨e.planEntryId, r.status.assessment, some r.verificationRecordId, none⟩

/-- An entry without records is missing, one with contradictory latest records is a mismatch, and
any other takes the verdict of a latest record. -/
theorem assessEntry_cases (rs : List VerifierRecord) (e : PlanEntry) :
    (rs = [] ∧ assessEntry rs e = ⟨e.planEntryId, .missing, none, none⟩) ∨
    (Contradicts time verdict rs ∧
      assessEntry rs e = ⟨e.planEntryId, .recordMismatch, none, none⟩) ∨
    ∃ r ∈ rs, Settles time verdict rs r.status ∧
      assessEntry rs e = conclusion e r := by
  have hmem : ∀ r, r ∈ orderBy recordLe rs ↔ r ∈ rs := fun r => mem_orderBy
  have hlatest : ∀ r, r ∈ latest time (orderBy recordLe rs) ↔
      r ∈ latest time rs := fun r => mem_latest_congr _ hmem
  cases hlast : (orderBy recordLe rs).getLast? with
  | none =>
    have hempty : rs = [] := by
      apply eq_nil_iff_forall_not_mem.mpr
      intro r hr
      have hr' := (hmem r).mpr hr
      rw [List.getLast?_eq_none_iff.mp hlast] at hr'
      cases hr'
    refine .inl ⟨hempty, ?_⟩
    rw [assessEntry, hlast]
  | some current =>
    have hcurrent := mem_of_getLast? hlast
    have hsorted : (orderBy recordLe rs).Pairwise fun r r' => r.evaluatedAtMs ≤ r'.evaluatedAtMs := by
      apply (orderBy_recordLe_sorted rs).imp
      intro a b hab
      rcases recordLe_iff.mp hab with hlt | ⟨heq, -⟩
      · exact le_of_lt hlt
      · exact le_of_eq heq
    have hgroup := filter_last_eq_latest time hsorted hlast
    have hown : current ∈ latest time (orderBy recordLe rs) := by
      rw [← hgroup]
      exact mem_filter.mpr ⟨hcurrent, decide_eq_true rfl⟩
    have hassess : assessEntry rs e = if 1 < ((latest time
        (orderBy recordLe rs)).map (·.status)).dedup.length then
          ⟨e.planEntryId, .recordMismatch, none, none⟩ else conclusion e current := by
      rw [assessEntry, hlast, ← hgroup]
      rfl
    by_cases hagree : ∀ r ∈ latest time rs, r.status = current.status
    · refine .inr (.inr ⟨current, (hmem current).mp hcurrent,
        ⟨ne_nil_of_mem ((hlatest current).mp hown), hagree⟩, ?_⟩)
      rw [hassess, if_neg]
      have hone : ((latest time (orderBy recordLe rs)).map
          (·.status)).dedup ⊆ [current.status] := by
        intro v hv
        obtain ⟨r, hr, rfl⟩ := mem_map.mp (mem_dedup.mp hv)
        rw [hagree r ((hlatest r).mp hr)]
        exact mem_singleton_self _
      have hle := (nodup_dedup _).subperm hone |>.length_le
      rw [length_singleton] at hle
      omega
    · push Not at hagree
      obtain ⟨other, hother, hdiffer⟩ := hagree
      refine .inr (.inl ⟨⟨other, hother, current, (hlatest current).mp hown, hdiffer⟩, ?_⟩)
      rw [hassess, if_pos]
      have htwo : [other.status, current.status] ⊆ ((latest time
          (orderBy recordLe rs)).map (·.status)).dedup := by
        intro v hv
        rw [mem_dedup]
        rcases mem_cons.mp hv with rfl | hv
        · exact mem_map_of_mem ((hlatest other).mpr hother)
        · rw [mem_singleton.mp hv]
          exact mem_map_of_mem hown
      have hle := (nodup_cons.mpr ⟨by simpa using hdiffer, nodup_singleton _⟩ :
        [other.status, current.status].Nodup).subperm htwo |>.length_le
      exact hle

lemma VerificationStatus.assessment_injective :
    Function.Injective VerificationStatus.assessment := by
  intro a b h
  cases a <;> cases b <;> first | rfl | cases h

/-- An entry passes when the latest matching records all pass. -/
theorem assessEntry_pass_iff (rs : List VerifierRecord) (e : PlanEntry) :
    (assessEntry rs e).status = .pass ↔
      Settles time verdict rs .pass := by
  constructor
  · intro h
    rcases assessEntry_cases rs e with ⟨-, hmissing⟩ | ⟨-, hmismatch⟩ | ⟨r, -, hsettles, hconcludes⟩
    · rw [hmissing] at h
      cases h
    · rw [hmismatch] at h
      cases h
    · rw [hconcludes] at h
      have hpass : r.status = .pass := VerificationStatus.assessment_injective h
      rw [← hpass]
      exact hsettles
  · intro h
    obtain ⟨newest, hnewest⟩ := exists_mem_of_ne_nil _ h.1
    rcases assessEntry_cases rs e with
      ⟨rfl, -⟩ | ⟨⟨a, ha, b, hb, hdiffer⟩, -⟩ | ⟨r, -, hsettles, hconcludes⟩
    · cases hnewest
    · exact absurd ((h.2 a ha).trans (h.2 b hb).symm) hdiffer
    · have hpass := hsettles.unique _ _ h
      rw [hconcludes, conclusion, hpass]
      rfl

theorem assessEntry_of_contradicts (h : Contradicts time verdict rs) :
    assessEntry rs e = ⟨e.planEntryId, .recordMismatch, none, none⟩ := by
  obtain ⟨a, ha, b, hb, hdiffer⟩ := h
  rcases assessEntry_cases rs e with ⟨rfl, -⟩ | ⟨-, hmismatch⟩ | ⟨r, -, hsettles, -⟩
  · cases ha
  · exact hmismatch
  · exact absurd ((hsettles.2 a ha).trans (hsettles.2 b hb).symm) hdiffer

end Assessment

section FailureClass

variable {plan : VerificationPlan} {assess assess' : PlanEntry → EntryAssessment}

def requiredEntries (plan : VerificationPlan) : List PlanEntry :=
  (sortedEntries plan).filter (·.required)

lemma mem_requiredEntries {e : PlanEntry} :
    e ∈ requiredEntries plan ↔ e ∈ plan.entries ∧ e.required = true := by
  rw [requiredEntries, mem_filter, (sortedEntries_perm plan).mem_iff]

lemma requiredAssessments_eq (hids : ∀ e, (assess e).planEntryId = e.planEntryId) :
    ((sortedEntries plan).map assess).filter (fun a =>
      plan.entries.any fun e => e.planEntryId = a.planEntryId && e.required) =
      (requiredEntries plan).map assess := by
  rw [filter_map, requiredEntries]
  congr 1
  apply filter_congr
  intro e he
  have hmem := (sortedEntries_perm plan).mem_iff.mp he
  rw [Function.comp_apply, Bool.eq_iff_iff, any_eq_true]
  constructor
  · rintro ⟨e', he', h⟩
    rw [Bool.and_eq_true, decide_eq_true_eq, hids] at h
    rw [← inj_on_of_nodup_map plan.entryIds_nodup he' hmem h.1]
    exact h.2
  · intro hrequired
    refine ⟨e, hmem, ?_⟩
    rw [Bool.and_eq_true, decide_eq_true_eq, hids]
    exact ⟨rfl, hrequired⟩

lemma satisfiedCount_eq : ((sortedEntries plan).countP fun e =>
    e.required && (assess e).status = .pass) =
      (requiredEntries plan).countP fun e => (assess e).status = .pass := by
  rw [requiredEntries, countP_filter]
  apply countP_congr
  intro e _
  simp [and_comm]

lemma requiredCount_eq :
    ((sortedEntries plan).countP fun e => e.required) = (requiredEntries plan).length :=
  countP_eq_length_filter

lemma requiredEntries_ne_nil : requiredEntries plan ≠ [] := by
  obtain ⟨e, he, hrequired⟩ := plan.some_required
  exact ne_nil_of_mem (mem_requiredEntries.mpr ⟨he, hrequired⟩)

theorem readinessOf_ready_iff (hids : ∀ e, (assess e).planEntryId = e.planEntryId) (t : ℕ) :
    (readinessOf plan assess hids t).verificationReady = true ↔
      ∀ e ∈ plan.entries, e.required = true → (assess e).status = .pass := by
  have hall : (requiredEntries plan).countP (fun e => (assess e).status = .pass) =
      (requiredEntries plan).length ↔
        ∀ e ∈ plan.entries, e.required = true → (assess e).status = .pass := by
    rw [countP_eq_length]
    constructor
    · intro h e he hrequired
      exact of_decide_eq_true (h e (mem_requiredEntries.mpr ⟨he, hrequired⟩))
    · intro h e he
      obtain ⟨hmem, hrequired⟩ := mem_requiredEntries.mp he
      exact decide_eq_true (h e hmem hrequired)
  have hpositive : 0 < (requiredEntries plan).length :=
    length_pos_iff.mpr requiredEntries_ne_nil
  show decide (failureClassOf plan ((sortedEntries plan).map assess) _ _ = .none) = true ↔ _
  rw [decide_eq_true_eq, failureClassOf, requiredAssessments_eq hids, satisfiedCount_eq,
    requiredCount_eq, ← hall]
  dsimp only
  constructor
  · intro h
    by_contra hcount
    rw [if_neg fun hready => hcount hready.2.1] at h
    split_ifs at h
  · intro hcount
    refine if_pos ⟨hpositive, hcount, ?_⟩
    have hpass := hall.mp hcount
    rw [any_eq_false]
    intro a ha
    obtain ⟨e, he, rfl⟩ := mem_map.mp ha
    obtain ⟨hmem, hrequired⟩ := mem_requiredEntries.mp he
    rw [hpass e hmem hrequired]
    decide

theorem readinessOf_verdict_congr (hids : ∀ e, (assess e).planEntryId = e.planEntryId)
    (hids' : ∀ e, (assess' e).planEntryId = e.planEntryId) (t : ℕ)
    (h : ∀ e ∈ plan.entries, e.required = true → assess e = assess' e) :
    (readinessOf plan assess hids t).failureClass =
      (readinessOf plan assess' hids' t).failureClass := by
  have hmap : (requiredEntries plan).map assess = (requiredEntries plan).map assess' := by
    apply map_congr_left
    intro e he
    obtain ⟨hmem, hrequired⟩ := mem_requiredEntries.mp he
    exact h e hmem hrequired
  have hcount : ((requiredEntries plan).countP fun e => (assess e).status = .pass) =
      (requiredEntries plan).countP fun e => (assess' e).status = .pass := by
    apply countP_congr
    intro e he
    obtain ⟨hmem, hrequired⟩ := mem_requiredEntries.mp he
    rw [h e hmem hrequired]
  show failureClassOf plan ((sortedEntries plan).map assess) _ _ =
    failureClassOf plan ((sortedEntries plan).map assess') _ _
  rw [failureClassOf, failureClassOf, requiredAssessments_eq hids, requiredAssessments_eq hids',
    satisfiedCount_eq, satisfiedCount_eq, hmap, hcount]

/-- Two readinesses of a plan are the same when every entry is assessed the same. -/
theorem readinessOf_eq_iff (hids : ∀ e, (assess e).planEntryId = e.planEntryId)
    (hids' : ∀ e, (assess' e).planEntryId = e.planEntryId) (t : ℕ) :
    readinessOf plan assess hids t = readinessOf plan assess' hids' t ↔
      ∀ e ∈ plan.entries, assess e = assess' e := by
  constructor
  · intro h e he
    have hlists : orderBy (fun a a' : EntryAssessment => a.planEntryId ≤ a'.planEntryId)
        ((sortedEntries plan).map assess) =
        orderBy (fun a a' : EntryAssessment => a.planEntryId ≤ a'.planEntryId)
          ((sortedEntries plan).map assess') :=
      congrArg VerificationReadiness.entryAssessments h
    have hmem : assess e ∈ orderBy (fun a a' : EntryAssessment => a.planEntryId ≤ a'.planEntryId)
        ((sortedEntries plan).map assess) :=
      mem_orderBy.mpr (mem_map_of_mem ((sortedEntries_perm plan).mem_iff.mpr he))
    rw [hlists] at hmem
    obtain ⟨e', he', heq⟩ := mem_map.mp (mem_orderBy.mp hmem)
    have hid := congrArg EntryAssessment.planEntryId heq
    rw [hids, hids'] at hid
    rw [← heq, inj_on_of_nodup_map plan.entryIds_nodup
      ((sortedEntries_perm plan).mem_iff.mp he') he hid]
  · intro h
    have hmap : (sortedEntries plan).map assess = (sortedEntries plan).map assess' :=
      map_congr_left fun e he => h e ((sortedEntries_perm plan).mem_iff.mp he)
    have hcount : ((sortedEntries plan).countP fun e => e.required && (assess e).status = .pass) =
        (sortedEntries plan).countP fun e => e.required && (assess' e).status = .pass := by
      apply countP_congr
      intro e he
      rw [h e ((sortedEntries_perm plan).mem_iff.mp he)]
    simp only [readinessOf, hcount, hmap]

end FailureClass

end Tiangong
