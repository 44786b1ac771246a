import Tiangong.ReadinessVerdicts
import Tiangong.SuccessorChain

/-!
# Readiness over time

Records and other writes of later times do not reach a readiness that is computed again for an
earlier time. A later successor does: the resolver names the newest subject of an entry, whatever
the time that the readiness is about.
-/
open List

namespace Tiangong

open Supersession VerifierRecord

inductive ReadinessOp where
  | putRecord (record : VerifierRecord) (recordedAtMs : ℕ)
  | putSuccessor (successor : SubjectSuccessor) (recordedAtMs : ℕ)
  /-- A repair or another operation writes other tables. -/
  | elsewhere (t : RepairStore)

/-- What the operation adds is of a time after `t`. -/
def ReadinessOp.Later (t : ℕ) : ReadinessOp → Prop
  | .putRecord record _ => t < record.evaluatedAtMs
  | .putSuccessor successor _ => t < successor.boundAtMs
  | .elsewhere _ => True

namespace ReadinessStore

variable {s s' : ReadinessStore} {plan : VerificationPlan} {e : PlanEntry} {t : ℕ}

def applyReadiness (s : ReadinessStore) : ReadinessOp → ReadinessStore × Except RepairError Bool
  | .putRecord record recordedAtMs => committed s id (s.putVerificationRecord record recordedAtMs)
  | .putSuccessor successor recordedAtMs =>
    committed s id (s.putSubjectSuccessor successor recordedAtMs)
  | .elsewhere t =>
    ({ s with
      repair := { t with
        subjectSuccessors := s.repair.subjectSuccessors
        verificationRecords := sharedColumns s.records }
      records_shared := rfl }, .ok false)

/-- The subject that an entry is about: the end of its chain of successors, or the subject it
names. -/
def effectiveSubject (s : ReadinessStore) (e : PlanEntry) : String :=
  (((s.repair.resolveVerificationSubject e.planEntryId).effectiveSubjectIdentity).filter
    (· ≠ "")).getD e.subjectIdentity

/-- The records up to a time that answer the question of an entry about a subject. -/
def answers (s : ReadinessStore) (plan : VerificationPlan) (e : PlanEntry) (subject : String)
    (t : ℕ) : List VerifierRecord :=
  asOf time t
    (s.records.rows.filter fun r => recordMatchesEffectiveSubject plan r e subject)

variable {subject : String} {r : VerifierRecord}

lemma mem_answers : r ∈ s.answers plan e subject t ↔
    r ∈ s.records.rows ∧ recordMatchesEffectiveSubject plan r e subject = true ∧
      r.evaluatedAtMs ≤ t := by
  rw [answers, mem_asOf, mem_filter, and_assoc]

lemma answers_ids_nodup (subject : String) :
    ((s.answers plan e subject t).map (·.verificationRecordId)).Nodup := by
  refine List.Nodup.sublist (List.Sublist.map _ ?_) s.records.keys_nodup
  exact filter_sublist.trans filter_sublist

lemma of_recordMatches (h : recordMatchesEffectiveSubject plan r e subject = true) :
    (r.requestId = plan.requestId ∧ r.runId = plan.runId ∧ r.generation = plan.generation) ∧
      r.subjectIdentity = subject := by
  simp only [recordMatchesEffectiveSubject, holds_iff] at h
  obtain ⟨⟨⟨⟨⟨⟨⟨⟨⟨⟨⟨⟨⟨hrequest, hrun⟩, hgeneration⟩, -⟩, -⟩, -⟩, -⟩, -⟩, -⟩, hsubject⟩, -⟩, -⟩, -⟩, -⟩ := h
  exact ⟨⟨hrequest, hrun, hgeneration⟩, hsubject⟩

lemma subject_of_answer (h : r ∈ s.answers plan e subject t) : r.subjectIdentity = subject :=
  (of_recordMatches (mem_answers.mp h).2.1).2

lemma matchingRecords_perm (s : ReadinessStore) (plan : VerificationPlan) (e : PlanEntry)
    (t : ℕ) : (matchingRecords plan (eligibleRecords s plan t false)
      (s.repair.resolveVerificationSubject e.planEntryId).effectiveSubjectIdentity e).Perm
        (s.answers plan e (s.effectiveSubject e) t) := by
  have hmatching : matchingRecords plan (eligibleRecords s plan t false)
      (s.repair.resolveVerificationSubject e.planEntryId).effectiveSubjectIdentity e =
        (eligibleRecords s plan t false).filter fun r =>
          recordMatchesEffectiveSubject plan r e (s.effectiveSubject e) := by
    unfold matchingRecords effectiveSubject
    cases (s.repair.resolveVerificationSubject e.planEntryId).effectiveSubjectIdentity.filter
      (· ≠ "") <;> rfl
  have hlisted := orderBy_perm recordLe (s.records.rows.filter fun r =>
    r.requestId = plan.requestId && r.runId = plan.runId && r.generation = plan.generation)
  rw [hmatching, eligibleRecords, listVerificationRecords]
  refine ((hlisted.filter _).filter _).trans (List.Perm.of_eq ?_)
  rw [answers, asOf, filter_filter, filter_filter, filter_filter]
  apply filter_congr
  intro r _
  rw [Bool.eq_iff_iff]
  simp only [holds_iff, Bool.false_eq_true, if_false]
  constructor
  · rintro ⟨⟨hmatches, htime⟩, -⟩
    exact ⟨htime, hmatches⟩
  · rintro ⟨htime, hmatches⟩
    obtain ⟨⟨hrequest, hrun, hgeneration⟩, -⟩ := of_recordMatches hmatches
    exact ⟨⟨hmatches, htime⟩, ⟨hrequest, hrun⟩, hgeneration⟩

/-- The builder assesses an entry by the answers about its effective subject. -/
lemma assessFromStore_eq (s : ReadinessStore) (plan : VerificationPlan) (e : PlanEntry) (t : ℕ) :
    assessFromStore s plan t false e = assessEntry (s.answers plan e (s.effectiveSubject e) t) e :=
  (assessEntry_perm (matchingRecords_perm s plan e t).symm (answers_ids_nodup _)).symm

/-- The assessment of an entry depends on the records, and on the subject of the entry. -/
lemma assessFromStore_congr (hsubject : s'.effectiveSubject e = s.effectiveSubject e)
    (hanswers : (s'.answers plan e (s.effectiveSubject e) t).Perm
      (s.answers plan e (s.effectiveSubject e) t)) :
    assessFromStore s' plan t false e = assessFromStore s plan t false e := by
  rw [assessFromStore_eq, assessFromStore_eq, hsubject]
  exact assessEntry_perm hanswers (answers_ids_nodup _)

end ReadinessStore

def readinessMachine : Machine ReadinessStore ReadinessOp (Except RepairError Bool) :=
  ⟨ReadinessStore.applyReadiness⟩

namespace ReadinessStore

variable {s s' : ReadinessStore} {plan : VerificationPlan} {e : PlanEntry} {t : ℕ}

/-- The records on file are kept and only others with the property are appended. -/
def Appends (s s' : ReadinessStore) (P : VerifierRecord → Prop) : Prop :=
  ∃ new, s'.records.rows = s.records.rows ++ new ∧ ∀ r ∈ new, P r

lemma appends_refl (s : ReadinessStore) (P : VerifierRecord → Prop) : s.Appends s P := by
  refine ⟨[], (append_nil _).symm, fun r hr => ?_⟩
  cases hr

lemma appends_of_records {P : VerifierRecord → Prop} (h : s'.records = s.records) :
    s.Appends s' P := by
  refine ⟨[], ?_, fun r hr => ?_⟩
  · rw [h, append_nil]
  · cases hr

lemma putVerificationRecord_records {record : VerifierRecord} {recordedAtMs : ℕ} {created : Bool}
    (h : s.putVerificationRecord record recordedAtMs = .ok (created, s')) :
    s.Appends s' fun r => r = record := by
  simp only [putVerificationRecord, eq_ok_iff] at h
  obtain ⟨-, -, -, g, -, h⟩ := h
  cases hfind : s.records.find record.verificationRecordId with
  | some existing =>
    simp only [hfind, eq_pair_iff] at h
    obtain ⟨-, -, rfl⟩ := h
    exact s.appends_refl _
  | none =>
    simp only [hfind, eq_pair_iff, Table.insert_eq_ok] at h
    obtain ⟨-, rows, hinserts, -, rfl⟩ := h
    exact ⟨[record], hinserts.rows, fun r hr => mem_singleton.mp hr⟩

lemma step_records {op : ReadinessOp} (h : op.Later t) :
    s.Appends (readinessMachine.step s op).1 fun r => t < r.evaluatedAtMs := by
  cases op with
  | elsewhere u => exact appends_of_records rfl
  | putRecord record recordedAtMs =>
    apply committed_fst (P := fun u : ReadinessStore => s.Appends u fun r => t < r.evaluatedAtMs)
    · exact s.appends_refl _
    · intro created s' hput
      obtain ⟨new, hrows, hnew⟩ := putVerificationRecord_records hput
      exact ⟨new, hrows, fun r hr => hnew r hr ▸ h⟩
  | putSuccessor successor recordedAtMs =>
    apply committed_fst (P := fun u : ReadinessStore => s.Appends u fun r => t < r.evaluatedAtMs)
    · exact s.appends_refl _
    · intro created s' hput
      simp only [putSubjectSuccessor, eq_pair_iff] at hput
      obtain ⟨_, -, -, rfl⟩ := hput
      exact appends_of_records rfl

/-- A run of later writes appends records of later times only. -/
lemma exec_records {ops : List ReadinessOp} (h : ∀ op ∈ ops, op.Later t) :
    s.Appends (readinessMachine.exec s ops) fun r => t < r.evaluatedAtMs := by
  induction ops generalizing s with
  | nil => exact s.appends_refl _
  | cons op ops ih =>
    obtain ⟨first, hfirst, hlater⟩ := @step_records s t op (h op mem_cons_self)
    obtain ⟨rest, hrows, hlater'⟩ := @ih (readinessMachine.step s op).1 fun o ho =>
      h o (mem_cons_of_mem _ ho)
    refine ⟨first ++ rest, ?_, ?_⟩
    · rw [Machine.exec_cons, hrows, hfirst, append_assoc]
    · intro r hr
      rcases mem_append.mp hr with hr | hr
      · exact hlater r hr
      · exact hlater' r hr

/-- The answers up to a time do not change with later writes. -/
lemma exec_answers {ops : List ReadinessOp} (h : ∀ op ∈ ops, op.Later t) (subject : String) :
    (readinessMachine.exec s ops).answers plan e subject t = s.answers plan e subject t := by
  obtain ⟨new, hrows, hlater⟩ := @exec_records s t ops h
  rw [answers, answers, hrows, filter_append]
  apply asOf_append_later
  intro r hr
  exact hlater r (mem_filter.mp hr).1

end ReadinessStore

section Readiness

variable {plan : VerificationPlan} {snapshot : RegistrySnapshot} {s s' : ReadinessStore}
  {ready ready' : VerificationReadiness} {t : ℕ} {e : PlanEntry}

/-- The readiness is the sum of the assessments, once the plan and the registry are accepted. -/
lemma buildReadiness_eq_ok : buildReadiness plan snapshot s t false = .ok ready ↔
    checkReadinessInputs plan snapshot = .ok () ∧ readinessOf plan (assessFromStore s plan t false)
        (assessFromStore_planEntryId s plan t false) t = ready := by
  simp only [buildReadiness, eq_ok_iff]
  constructor
  · rintro ⟨_, h⟩
    exact h
  · intro h
    exact ⟨(), h⟩

/-- The latest records of the entry up to the time all pass, and there is one. -/
def LatestPass (s : ReadinessStore) (plan : VerificationPlan) (t : ℕ) (e : PlanEntry) : Prop :=
  ∃ T, (∃ r ∈ s.answers plan e (s.effectiveSubject e) t, r.evaluatedAtMs = T) ∧
    ∀ r ∈ s.answers plan e (s.effectiveSubject e) t,
      r.evaluatedAtMs ≤ T ∧ (r.evaluatedAtMs = T → r.status = .pass)

lemma assessFromStore_pass_iff :
    (assessFromStore s plan t false e).status = .pass ↔ LatestPass s plan t e := by
  rw [ReadinessStore.assessFromStore_eq, assessEntry_pass_iff, settles_iff]
  rfl

/-- The entry had no verdict: nothing was recorded of the subject, or the latest records of it
contradict one another. -/
def SameSilence (s : ReadinessStore) (plan : VerificationPlan) (t : ℕ) (e : PlanEntry)
    (subject subject' : String) : Prop :=
  (s.answers plan e subject t = [] ∧ s.answers plan e subject' t = []) ∨
    (Contradicts time verdict (s.answers plan e subject t) ∧
      Contradicts time verdict (s.answers plan e subject' t))

/-- Two subjects are assessed the same only when they are the same or neither has a verdict. -/
lemma assessEntry_subject_iff {subject subject' : String} :
    assessEntry (s.answers plan e subject' t) e = assessEntry (s.answers plan e subject t) e ↔
      subject' = subject ∨ SameSilence s plan t e subject subject' := by
  constructor
  · intro h
    have hid := congrArg EntryAssessment.verificationRecordId h
    have hstatus := congrArg EntryAssessment.status h
    rcases assessEntry_cases (s.answers plan e subject t) e with
      ⟨hnone, hassess⟩ | ⟨hcontra, hassess⟩ | ⟨r, hr, -, hassess⟩ <;>
    rcases assessEntry_cases (s.answers plan e subject' t) e with
      ⟨hnone', hassess'⟩ | ⟨hcontra', hassess'⟩ | ⟨r', hr', -, hassess'⟩ <;>
    rw [hassess, hassess'] at hid hstatus
    · exact .inr (.inl ⟨hnone, hnone'⟩)
    · cases hstatus
    · cases hid
    · cases hstatus
    · exact .inr (.inr ⟨hcontra, hcontra'⟩)
    · cases hid
    · cases hid
    · cases hid
    · have hsame := s.records.eq_of_key_eq (ReadinessStore.mem_answers.mp hr').1
        (ReadinessStore.mem_answers.mp hr).1 (Option.some.inj hid)
      rw [← ReadinessStore.subject_of_answer hr, ← ReadinessStore.subject_of_answer hr', hsame]
      exact .inl rfl
  · rintro (rfl | ⟨hnone, hnone'⟩ | ⟨hcontra, hcontra'⟩)
    · rfl
    · rw [hnone, hnone']
    · rw [assessEntry_of_contradicts hcontra, assessEntry_of_contradicts hcontra']

lemma effectiveSubject_congr (h : s'.repair.subjectSuccessors = s.repair.subjectSuccessors) :
    s'.effectiveSubject e = s.effectiveSubject e := by
  have hbindings : s'.repair.entryBindings e.planEntryId = s.repair.entryBindings e.planEntryId := by
    rw [RepairStore.entryBindings, RepairStore.entryBindings, h]
  rw [ReadinessStore.effectiveSubject, ReadinessStore.effectiveSubject,
    RepairStore.resolve_congr hbindings]

/-- What a readiness for a time is expected to be, `s'` being a later state of the store. -/
structure LatestVerdicts (plan : VerificationPlan) (snapshot : RegistrySnapshot)
    (s : ReadinessStore) (t : ℕ) (ready : VerificationReadiness) (s' : ReadinessStore) : Prop where
  ready_iff : ready.verificationReady = true ↔
    ∀ e ∈ plan.entries, e.required = true → LatestPass s plan t e
  any_order : ∀ u : ReadinessStore, u.records.rows.Perm s.records.rows →
    u.repair.subjectSuccessors = s.repair.subjectSuccessors →
      buildReadiness plan snapshot u t false = .ok ready
  required_only : ∀ u : ReadinessStore,
    (∀ e ∈ plan.entries, e.required = true → u.effectiveSubject e = s.effectiveSubject e ∧
      ∀ r, recordMatchesEffectiveSubject plan r e (s.effectiveSubject e) = true →
        (r ∈ u.records.rows ↔ r ∈ s.records.rows)) →
    ∃ ready', buildReadiness plan snapshot u t false = .ok ready' ∧
      ready'.verificationReady = ready.verificationReady ∧
      ready'.failureClass = ready.failureClass
  stable : buildReadiness plan snapshot s' t false = .ok ready

lemma readiness_any_order (h : buildReadiness plan snapshot s t false = .ok ready)
    (hrows : s'.records.rows.Perm s.records.rows)
    (hsuccessors : s'.repair.subjectSuccessors = s.repair.subjectSuccessors) :
    buildReadiness plan snapshot s' t false = .ok ready := by
  obtain ⟨hinputs, rfl⟩ := buildReadiness_eq_ok.mp h
  refine buildReadiness_eq_ok.mpr ⟨hinputs, (readinessOf_eq_iff _ _ t).mpr fun e _ => ?_⟩
  apply ReadinessStore.assessFromStore_congr (effectiveSubject_congr hsuccessors)
  exact (hrows.filter _).filter _

lemma readiness_required_only (h : buildReadiness plan snapshot s t false = .ok ready)
    (hsame : ∀ e ∈ plan.entries, e.required = true → s'.effectiveSubject e = s.effectiveSubject e ∧
      ∀ r, recordMatchesEffectiveSubject plan r e (s.effectiveSubject e) = true →
        (r ∈ s'.records.rows ↔ r ∈ s.records.rows)) :
    ∃ ready', buildReadiness plan snapshot s' t false = .ok ready' ∧
      ready'.verificationReady = ready.verificationReady ∧
      ready'.failureClass = ready.failureClass := by
  obtain ⟨hinputs, rfl⟩ := buildReadiness_eq_ok.mp h
  refine ⟨_, buildReadiness_eq_ok.mpr ⟨hinputs, rfl⟩, ?_⟩
  have hassess : ∀ e ∈ plan.entries, e.required = true →
      assessFromStore s' plan t false e = assessFromStore s plan t false e := by
    intro e he hrequired
    obtain ⟨hsubject, hrecords⟩ := hsame e he hrequired
    apply ReadinessStore.assessFromStore_congr hsubject
    apply (perm_ext_iff_of_nodup (List.Nodup.of_map _ (ReadinessStore.answers_ids_nodup _))
      (List.Nodup.of_map _ (ReadinessStore.answers_ids_nodup _))).mpr
    intro r
    rw [ReadinessStore.mem_answers, ReadinessStore.mem_answers]
    exact and_congr_left fun hmatches => hrecords r hmatches.1
  have hclass := readinessOf_verdict_congr (assessFromStore_planEntryId s' plan t false)
    (assessFromStore_planEntryId s plan t false) t hassess
  refine ⟨?_, hclass⟩
  rw [Bool.eq_iff_iff, VerificationReadiness.ready_iff, VerificationReadiness.ready_iff, hclass]

/-- A readiness computed again after later writes is the same exactly when every entry keeps its
subject, or gets one that is as silent as the one it had. -/
lemma readiness_stable_iff {ops : List ReadinessOp} (hlater : ∀ op ∈ ops, op.Later t)
    (h : buildReadiness plan snapshot s t false = .ok ready) :
    buildReadiness plan snapshot (readinessMachine.exec s ops) t false = .ok ready ↔
      ∀ e ∈ plan.entries, (readinessMachine.exec s ops).effectiveSubject e = s.effectiveSubject e ∨
          SameSilence s plan t e (s.effectiveSubject e)
            ((readinessMachine.exec s ops).effectiveSubject e) := by
  obtain ⟨hinputs, rfl⟩ := buildReadiness_eq_ok.mp h
  rw [buildReadiness_eq_ok, readinessOf_eq_iff]
  constructor
  · rintro ⟨-, hassess⟩ e he
    have hentry := hassess e he
    rw [ReadinessStore.assessFromStore_eq, ReadinessStore.assessFromStore_eq,
      ReadinessStore.exec_answers hlater] at hentry
    exact assessEntry_subject_iff.mp hentry
  · intro hkept
    refine ⟨hinputs, fun e he => ?_⟩
    rw [ReadinessStore.assessFromStore_eq, ReadinessStore.assessFromStore_eq,
      ReadinessStore.exec_answers hlater]
    exact assessEntry_subject_iff.mpr (hkept e he)

end Readiness

/-- A readiness is what it is expected to be, if and only if no later successor replaces the subject
of an entry that had a verdict. -/
theorem latestVerdicts_iff {plan : VerificationPlan} {snapshot : RegistrySnapshot}
    {s : ReadinessStore} {t : ℕ} {ready : VerificationReadiness} {ops : List ReadinessOp}
    (h : buildReadiness plan snapshot s t false = .ok ready) (hlater : ∀ op ∈ ops, op.Later t) :
    LatestVerdicts plan snapshot s t ready (readinessMachine.exec s ops) ↔ ∀ e ∈ plan.entries,
        (readinessMachine.exec s ops).effectiveSubject e = s.effectiveSubject e ∨
          SameSilence s plan t e (s.effectiveSubject e)
            ((readinessMachine.exec s ops).effectiveSubject e) := by
  constructor
  · intro hverdicts
    exact (readiness_stable_iff hlater h).mp hverdicts.stable
  · intro hkept
    refine ⟨?_, fun u => readiness_any_order h, fun u => readiness_required_only h,
      (readiness_stable_iff hlater h).mpr hkept⟩
    obtain ⟨-, rfl⟩ := buildReadiness_eq_ok.mp h
    rw [readinessOf_ready_iff]
    exact forall₃_congr fun e _ _ => assessFromStore_pass_iff

namespace Sample

def artifactVerifier : VerifierDescriptor :=
  VerifierDescriptor.withComputedSha256
    { verifierId := "a", verifierVersion := "1", layer := .deterministic, deterministic := true
      supportedPredicateTypes := ["artifact.nonempty"], acceptedAuthorities := [.objectStore]
      supportedSubjectKinds := [.artifact], maxInputBytes := 1, timeoutMs := 1
      defaultEnforcement := .record, blockCapable := true, repairFeedbackCapable := true
      producerComponentId := "tiangong-gateway", configSha256 := .null, implementationRef := "a"
      descriptorSha256 := .null }

def registrySnapshot : RegistrySnapshot where
  registrySnapshotId :=
    RegistrySnapshot.computedId (.sha256 (.ofList [artifactVerifier.canon]))
  verifiers := [artifactVerifier]
  capturedAtMs := 0
  snapshotSha256 := .sha256 (.ofList [artifactVerifier.canon])
  verifierIds_sorted := pairwise_singleton _ _

def boundPlan : VerificationPlan :=
  VerificationPlan.withComputedSha256
    { plan with
      registrySnapshotSha256 := registrySnapshot.snapshotSha256
      entries := [entry "a"]
      entryIds_nodup := nodup_singleton _
      some_required := ⟨entry "a", mem_singleton_self _, rfl⟩ }

def failedRecord : VerifierRecord :=
  withComputedSha256
    { record (entry "a") with
      evidenceRefs :=
        ["predicate_sha256:" ++ (entry "a").predicate.predicateSha256.digestText]
      registrySnapshotSha256 := registrySnapshot.snapshotSha256
      predicateType := "artifact.nonempty"
      subjectKind := .artifact
      evaluationPhase := .postExecution
      enforcement := .record
      producerComponentId := "tiangong-gateway"
      modelGenerated := false }

def boundDirective : RepairDirective :=
  RepairDirective.withComputedSha256
    { firstDirective with
      verificationPlanId := boundPlan.verificationPlanId
      verificationPlanSha256 := boundPlan.planSha256 }

lemma boundPlan_valid : boundPlan.hasValidIdentity = true := by decide +kernel

/-- The failed artifact was repaired, and its successor is not bound yet. -/
def failedStore : ReadinessStore where
  repair :=
    { repairedStore with
      verificationPlans := ⟨[⟨boundPlan, boundPlan_valid⟩], nodup_singleton _⟩
      verificationRecords := ⟨[failedRecord.toVerificationRecord], nodup_singleton _⟩
      repairDirectives := ⟨[⟨boundDirective, RepairDirective.withComputedSha256_valid _⟩],
        nodup_singleton _⟩
      repairExecutionBindings :=
        ⟨⟨[succeededBinding boundDirective "eff_1" "rev_a1"], nodup_singleton _⟩,
          nodup_singleton _, nodup_singleton _⟩ }
  records := ⟨[failedRecord], nodup_singleton _⟩
  compositionPlans := []
  records_shared := rfl

def bindSuccessor : List ReadinessOp :=
  [.putSuccessor (successorOf boundDirective "eff_1" "rev_a1" 200) 200]

lemma bindSuccessor_later : ∀ op ∈ bindSuccessor, op.Later 50 := by
  intro op hop
  rw [mem_singleton.mp hop]
  show 50 < 200
  decide

lemma boundPlan_accepted : checkReadinessInputs boundPlan registrySnapshot = .ok () := by
  decide +kernel

lemma subject_before : failedStore.effectiveSubject (entry "a") = "rev_a" := by decide +kernel

lemma subject_after :
    (readinessMachine.exec failedStore bindSuccessor).effectiveSubject (entry "a") = "rev_a1" := by
  decide +kernel

lemma failedRecord_matches :
    recordMatchesEffectiveSubject boundPlan failedRecord (entry "a") "rev_a" = true := by
  have hvalid : failedRecord.hasValidIdentity = true := withComputedSha256_valid _
  have href : ("predicate_sha256:" ++ (entry "a").predicate.predicateSha256.digestText) ∈
      failedRecord.evidenceRefs := mem_singleton_self _
  simp only [recordMatchesEffectiveSubject, hvalid, href, decide_true, Bool.and_true]
  decide +kernel

lemma failedRecord_answers :
    failedRecord ∈ failedStore.answers boundPlan (entry "a") "rev_a" 50 := by
  refine ReadinessStore.mem_answers.mpr ⟨mem_singleton_self _, failedRecord_matches, ?_⟩
  show 40 ≤ 50
  decide

lemma failed_readiness :
    ∃ ready, buildReadiness boundPlan registrySnapshot failedStore 50 false = .ok ready :=
  ⟨_, buildReadiness_eq_ok.mpr ⟨boundPlan_accepted, rfl⟩⟩

end Sample

/-- A successor bound at 200 takes the failure at 50 away. -/
theorem laterSuccessor_reaches_readiness :
    ∃ ready, buildReadiness Sample.boundPlan Sample.registrySnapshot Sample.failedStore 50 false =
        .ok ready ∧
      ¬ LatestVerdicts Sample.boundPlan Sample.registrySnapshot Sample.failedStore 50 ready
        (readinessMachine.exec Sample.failedStore Sample.bindSuccessor) := by
  obtain ⟨ready, hready⟩ := Sample.failed_readiness
  refine ⟨ready, hready, fun hverdicts => ?_⟩
  have hkept := (readiness_stable_iff Sample.bindSuccessor_later hready).mp hverdicts.stable
    (Sample.entry "a") (mem_singleton_self _)
  rw [Sample.subject_before, Sample.subject_after] at hkept
  rcases hkept with hsame | ⟨hsilent, -⟩ | ⟨⟨r, hr, r', hr', hdiffer⟩, -⟩
  · exact absurd hsame (by decide)
  · have hanswer := Sample.failedRecord_answers
    rw [hsilent] at hanswer
    cases hanswer
  · have honly : ∀ x ∈ Supersession.latest time
        (Sample.failedStore.answers Sample.boundPlan (Sample.entry "a") "rev_a" 50),
        x = Sample.failedRecord := fun x hx => mem_singleton.mp
      (ReadinessStore.mem_answers.mp ((mem_latest _).mp hx).1).1
    rw [honly r hr, honly r' hr'] at hdiffer
    exact hdiffer rfl

/-- Another repair leaves the failure at 50. -/
theorem latestVerdicts_repaired :
    ∃ ready, buildReadiness Sample.boundPlan Sample.registrySnapshot Sample.failedStore 50 false =
        .ok ready ∧
      LatestVerdicts Sample.boundPlan Sample.registrySnapshot Sample.failedStore 50 ready
        (readinessMachine.exec Sample.failedStore [.elsewhere Sample.repairedStore]) := by
  obtain ⟨ready, hready⟩ := Sample.failed_readiness
  have hlater : ∀ op ∈ [ReadinessOp.elsewhere Sample.repairedStore], op.Later 50 := by
    intro op hop
    rw [mem_singleton.mp hop]
    exact trivial
  refine ⟨ready, hready, (latestVerdicts_iff hready hlater).mpr fun e _ => .inl ?_⟩
  exact effectiveSubject_congr rfl

end Tiangong
