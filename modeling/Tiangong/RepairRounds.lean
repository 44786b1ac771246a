import Tiangong.DecisionViews

/-!
# The outcome of a decision round

The answer of a round is forecast from the tables before it: every write of the round for one
entry leaves the decisions on the other entries as they were. The forecast carries two counts,
the one the coordinator moves with each repair and the one the store finds on file.
-/
namespace Tiangong

open RepairStore List Call

/-- Why a round stops short. -/
inductive RoundStop where
  /-- The store decided differently on a disposition. -/
  | mismatch
  | refused
  deriving DecidableEq, Repr

section Forecast

variable (reuse : Bool) (nowMs : ℕ) (s : RepairStore) (available : Bool)

/-- Evidence of the current generation is accepted when it is on file or can be derived again. -/
def evidenceAdmitted (fe : FailureEvidence) : Bool :=
  (s.assertBinding ⟨fe.requestId, fe.runId, fe.generation⟩ nowMs).toBool &&
    ((s.failureEvidence.find fe.failureEvidenceId).isSome || available)

/-- The disposition a round derives for one entry from the coordinator's count. -/
def roundDisposition (fe : FailureEvidence) (count : ℕ) : VerificationDisposition :=
  dispositionOf defaultPolicy fe (s.decisionInput fe) count nowMs

/-- The dispositions of a round and the repairs on file after it. -/
def forecast : List FailureEvidence → ℕ → ℕ → Except RoundStop (List VerificationDisposition × ℕ)
  | [], _, onFile => .ok ([], onFile)
  | fe :: fes, count, onFile =>
    match reusableDisposition reuse fe nowMs s with
    | .error _ => .error .refused
    | .ok (some d) => (forecast fes count onFile).map fun (ds, n) => (d :: ds, n)
    | .ok none =>
      let d := roundDisposition nowMs s fe count
      if evidenceAdmitted nowMs s available fe = false then .error .refused
      else if (s.dispositions.find d.verificationDispositionId).isSome then
        (forecast fes (countAfter count d) onFile).map fun (ds, n) => (d :: ds, n)
      else if computeDispositionAction defaultPolicy (s.decisionInput fe) onFile =
          computeDispositionAction defaultPolicy (s.decisionInput fe) count then
        (forecast fes (countAfter count d) (countAfter onFile d)).map fun (ds, n) => (d :: ds, n)
      else .error .mismatch

theorem map_cons_eq_error (F : Except RoundStop (List VerificationDisposition × ℕ))
    (d : VerificationDisposition) (stop : RoundStop) :
    F.map (fun (ds, n) => (d :: ds, n)) = .error stop ↔ F = .error stop := by
  cases F <;> simp [Except.map]

end Forecast

/-- The outcome of a round is the forecast one. -/
def Fulfils (s : RepairStore) (lineage : RecordBinding) :
    Except RoundStop (List VerificationDisposition × ℕ) →
      Except RepairError (List VerificationDisposition) × RepairStore → Prop
  | .ok (ds, n), (.ok ds', t) => ds' = ds ∧ Framed s t ∧
      t.generationRepairCount lineage.requestId lineage.runId lineage.generation = n
  | .error .mismatch, (.error (.revalidation .disposition _), _) => True
  | .error .refused, (.error (.revalidation .disposition _), _) => False
  | .error .refused, (.error _, _) => True
  | _, _ => False

lemma fulfils_refused {s t : RepairStore} {lineage : RecordBinding} {e : RepairError}
    (h : ∀ text, e ≠ .revalidation .disposition text) :
    Fulfils s lineage (.error .refused) (.error e, t) := by
  unfold Fulfils
  split <;> simp_all

/-- What a round's evidence brings with it: each piece is valid, of one lineage and of its own
entry, and the store derives it again exactly when its sources are `available`. -/
structure RoundEvidence (s : RepairStore) (lineage : RecordBinding) (available : Bool)
    (fes : List FailureEvidence) : Prop where
  valid : ∀ fe ∈ fes, fe.hasValidIdentity = true
  lineage_eq : ∀ fe ∈ fes, (⟨fe.requestId, fe.runId, fe.generation⟩ : RecordBinding) = lineage
  rederived : ∀ fe ∈ fes, ∀ t, Framed s t →
    if available then revalidateFailureEvidence fe t = .ok ()
    else ∃ text, revalidateFailureEvidence fe t = .error (.revalidation .failureEvidence text)
  entries_nodup : (fes.map FailureEvidence.planEntryId).Nodup

variable {s t u : RepairStore} {lineage : RecordBinding} {nowMs count onFile : ℕ}
  {available reuse : Bool} {fe : FailureEvidence} {fes : List FailureEvidence}

theorem RoundEvidence.tail (h : RoundEvidence s lineage available (fe :: fes)) :
    RoundEvidence s lineage available fes where
  valid f hf := h.valid f (mem_cons_of_mem _ hf)
  lineage_eq f hf := h.lineage_eq f (mem_cons_of_mem _ hf)
  rederived f hf := h.rederived f (mem_cons_of_mem _ hf)
  entries_nodup := (nodup_cons.mp h.entries_nodup).2

lemma RoundEvidence.entry_ne (h : RoundEvidence s lineage available (fe :: fes)) :
    ∀ f ∈ fes, fe.planEntryId ≠ f.planEntryId := by
  intro f hf heq
  exact (nodup_cons.mp h.entries_nodup).1 (mem_map.mpr ⟨f, hf, heq.symm⟩)

/-- A sealed row found under a record's identifier is the record. -/
lemma find_evidence_eq (hvalid : fe.hasValidIdentity = true)
    (h : (t.failureEvidence.find fe.failureEvidenceId).isSome = true) :
    t.failureEvidence.find fe.failureEvidenceId = some ⟨fe, hvalid⟩ := by
  obtain ⟨row, hrow⟩ := Option.isSome_iff_exists.mp h
  have hid := Table.key_of_find hrow
  rw [hrow]
  exact congrArg some (Subtype.ext (FailureEvidence.eq_of_id row.2 hvalid hid))

variable {d : VerificationDisposition}

lemma find_disposition_eq (hvalid : d.hasValidIdentity = true)
    (h : (t.dispositions.find d.verificationDispositionId).isSome = true) :
    t.dispositions.find d.verificationDispositionId = some ⟨d, hvalid⟩ := by
  obtain ⟨row, hrow⟩ := Option.isSome_iff_exists.mp h
  have hid := Table.key_of_find hrow
  rw [hrow]
  exact congrArg some (Subtype.ext (VerificationDisposition.eq_of_id row.2 hvalid hid))

lemma putEvidence_of_admitted {g : RequestGenerationRow} (hvalid : fe.hasValidIdentity = true)
    (hg : t.assertBinding ⟨fe.requestId, fe.runId, fe.generation⟩ nowMs = .ok g)
    (h : (t.failureEvidence.find fe.failureEvidenceId).isSome = true ∨
      revalidateFailureEvidence fe t = .ok ()) :
    ∃ fresh u, EvidencePut t ⟨fe, hvalid⟩ u ∧
      putVerificationFailureEvidence fe nowMs t = .ok (fresh, u) := by
  cases hf : t.failureEvidence.find fe.failureEvidenceId with
  | some row =>
    have hfind := find_evidence_eq hvalid (Option.isSome_of_mem hf)
    have hput : putVerificationFailureEvidence fe nowMs t = .ok (false, t) :=
      putSealed_of_find ⟨fe, hvalid⟩ hg hfind
    exact ⟨false, t, .found hfind, hput⟩
  | none =>
    have hok : revalidateFailureEvidence fe t = .ok () := by simpa [hf] using h
    obtain ⟨rows, hins, hput⟩ : ∃ rows, t.failureEvidence.Inserts ⟨fe, hvalid⟩ rows ∧
        putVerificationFailureEvidence fe nowMs t = .ok (true, t.withEvidence rows) :=
      putSealed_of_fresh ⟨fe, hvalid⟩ hg hf hok
    exact ⟨true, _, .inserted hins, hput⟩

lemma putEvidence_of_not_admitted (hvalid : fe.hasValidIdentity = true)
    (h : evidenceAdmitted nowMs t available fe = false)
    (hrederived : available = false →
      ∃ text, revalidateFailureEvidence fe t = .error (.revalidation .failureEvidence text)) :
    ∃ e, putVerificationFailureEvidence fe nowMs t = .error e ∧
      ∀ text, e ≠ .revalidation .disposition text := by
  cases hg : t.assertBinding ⟨fe.requestId, fe.runId, fe.generation⟩ nowMs with
  | error e =>
    refine ⟨e, putSealed_of_unbound ⟨fe, hvalid⟩ hg, ?_⟩
    obtain ⟨e', -, rfl⟩ := liftStore_eq_error.mp hg
    rintro text ⟨⟩
  | ok g =>
    rw [evidenceAdmitted, hg, Except.toBool, Bool.true_and, Bool.or_eq_false_iff,
      Option.isSome_eq_false_iff, Option.isNone_iff_eq_none] at h
    obtain ⟨text, herror⟩ := hrederived h.2
    refine ⟨_, putSealed_of_refused ⟨fe, hvalid⟩ hg h.1 herror, ?_⟩
    rintro text ⟨⟩

theorem dispositionOf_valid (policy : RepairPolicyConfig) (fe : FailureEvidence)
    (x : DecisionInput) (count nowMs : ℕ) :
    (dispositionOf policy fe x count nowMs).hasValidIdentity = true :=
  VerificationDisposition.withComputedSha256_valid _

/-- Without the disposition under test on file, leaving it out of the count changes nothing. -/
lemma otherRepairCount_of_absent
    (h : t.dispositions.find d.verificationDispositionId = none) :
    t.otherRepairCount d = t.generationRepairCount d.requestId d.runId d.generation := by
  unfold RepairStore.otherRepairCount RepairStore.generationRepairCount
  refine countP_congr fun d' hd' => ?_
  simp only [listAllVerificationDispositions, mem_orderBy, mem_filter, mem_map] at hd'
  obtain ⟨⟨row, hrow, rfl⟩, -⟩ := hd'
  have hne := Table.find_eq_none.mp h row hrow
  simp [hne]

section Revalidate

lemma revalidateDisposition_eq_ok {d : VerificationDisposition} :
    revalidateDisposition d u = .ok () ↔
      ∃ evidence, u.getVerificationFailureEvidenceById d.failureEvidenceId = some evidence ∧
        evidence.failureEvidenceSha256 = d.failureEvidenceSha256 ∧
        (d.action, d.reasonCodes) = computeDispositionAction defaultPolicy
          (u.storeDecisionInput evidence d.planEntryId) (u.otherRepairCount d) ∧
        d.attemptNo = (u.storeDecisionInput evidence d.planEntryId).attemptNo ∧
        d.policyVersion = policyVersion ∧ d.policyConfigSha256 = defaultPolicy.configSha256 ∧
        d.maxAttempts = defaultPolicy.maxAttemptsPerPlanEntry := by
  simp only [revalidateDisposition, eq_ok_iff, not_not, Prod.ext_iff, and_assoc]

/-- The store refuses a disposition only as a mismatch. -/
lemma revalidateDisposition_error {d : VerificationDisposition} {e : RepairError}
    (h : revalidateDisposition d u = .error e) : ∃ text, e = .revalidation .disposition text := by
  simp only [revalidateDisposition, bind_eq_error, required_eq_error, rejectIf_eq_error] at h
  rcases h with ⟨-, rfl⟩ | ⟨_, -, h⟩
  · exact ⟨_, rfl⟩
  iterate 6
    rcases h with ⟨-, rfl⟩ | ⟨_, -, h⟩
    · exact ⟨_, rfl⟩
  obtain ⟨-, rfl⟩ := h
  exact ⟨_, rfl⟩

variable {hvalid : fe.hasValidIdentity = true}

/-- The store accepts the disposition exactly when its own count leads to the same decision. -/
lemma revalidateDisposition_roundDisposition (hu : EvidencePut t ⟨fe, hvalid⟩ u)
    (habsent : u.dispositions.find (roundDisposition nowMs t fe count).verificationDispositionId =
      none)
    (hcount : t.generationRepairCount fe.requestId fe.runId fe.generation = onFile) :
    if computeDispositionAction defaultPolicy (t.decisionInput fe) onFile =
        computeDispositionAction defaultPolicy (t.decisionInput fe) count then
      revalidateDisposition (roundDisposition nowMs t fe count) u = .ok ()
    else ∃ text, revalidateDisposition (roundDisposition nowMs t fe count) u =
      .error (.revalidation .disposition text) := by
  set d := roundDisposition nowMs t fe count with hd
  have hother : u.otherRepairCount d = onFile := by
    rw [otherRepairCount_of_absent habsent]
    change u.generationRepairCount fe.requestId fe.runId fe.generation = onFile
    rw [← hcount]
    simp only [RepairStore.generationRepairCount, listAllVerificationDispositions, hu.dispositions]
  have hevidence : u.getVerificationFailureEvidenceById d.failureEvidenceId = some fe := by
    change (u.failureEvidence.find fe.failureEvidenceId).map (·.1) = some fe
    rw [hu.find]
    rfl
  have hinput : u.storeDecisionInput fe d.planEntryId = t.decisionInput fe :=
    hu.storeDecisionInput
  have hdecision : (d.action, d.reasonCodes) =
      computeDispositionAction defaultPolicy (t.decisionInput fe) count := rfl
  split
  case isTrue heq =>
    refine revalidateDisposition_eq_ok.mpr ⟨fe, hevidence, rfl, ?_, ?_, rfl, rfl, rfl⟩
    · rw [hinput, hother, hdecision, heq]
    · rw [hinput]
      rfl
  case isFalse hne =>
    cases hr : revalidateDisposition d u with
    | error e =>
      obtain ⟨text, rfl⟩ := revalidateDisposition_error hr
      exact ⟨text, rfl⟩
    | ok _ =>
      obtain ⟨fe', hfe', -, hagree, -⟩ := revalidateDisposition_eq_ok.mp hr
      rw [hevidence] at hfe'
      cases hfe'
      rw [hinput, hother, hdecision] at hagree
      exact absurd hagree.symm hne

end Revalidate

section Step

variable {g : RequestGenerationRow} {hvalid : fe.hasValidIdentity = true}

/-- Evidence the store refuses stops the round before anything is written. -/
lemma processFailure_of_refused {e : RepairError}
    (hput : putVerificationFailureEvidence fe nowMs t = .error e) :
    (processFailure defaultPolicy fe count nowMs).on t = (.error e, t) := by
  unfold processFailure
  rw [on_bind_of_ok (on_read _ _),
    on_bind_of_error (on_transaction_of_error hput)]

/-- Once its evidence is put, a failure ends as the write of its disposition does. -/
lemma processFailure_of_put (count : ℕ) {fresh : Bool}
    (hput : putVerificationFailureEvidence fe nowMs t = .ok (fresh, u)) :
    (processFailure defaultPolicy fe count nowMs).on t =
      match putVerificationDisposition (roundDisposition nowMs t fe count) nowMs u with
      | .ok (_, u') => (.ok (roundDisposition nowMs t fe count), u')
      | .error e => (.error e, u) := by
  unfold processFailure
  rw [on_bind_of_ok (on_read _ _), on_bind_of_ok (on_transaction_of_ok hput)]
  change on (transaction (putVerificationDisposition
    (roundDisposition nowMs t fe count) nowMs) >>= _) u = _
  cases hd : putVerificationDisposition (roundDisposition nowMs t fe count) nowMs u with
  | ok pair => rw [on_bind_of_ok (on_transaction_of_ok hd)]; rfl
  | error e => rw [on_bind_of_error (on_transaction_of_error hd)]

variable (hu : EvidencePut t ⟨fe, hvalid⟩ u)
  (hg : u.assertBinding ⟨fe.requestId, fe.runId, fe.generation⟩ nowMs = .ok g)
include hu hg

lemma putDisposition_of_onFile (count : ℕ) (h : (t.dispositions.find
      (roundDisposition nowMs t fe count).verificationDispositionId).isSome = true) :
    putVerificationDisposition (roundDisposition nowMs t fe count) nowMs u = .ok (false, u) := by
  rw [← hu.dispositions] at h
  exact putSealed_of_find ⟨_, dispositionOf_valid _ _ _ _ _⟩ hg (find_disposition_eq _ h)

/-- A fresh disposition is written when the two counts lead to one decision. -/
lemma putDisposition_of_agreeing (count : ℕ) (habsent : t.dispositions.find
      (roundDisposition nowMs t fe count).verificationDispositionId = none)
    (hcount : t.generationRepairCount fe.requestId fe.runId fe.generation = onFile)
    (hagree : computeDispositionAction defaultPolicy (t.decisionInput fe) onFile =
      computeDispositionAction defaultPolicy (t.decisionInput fe) count) :
    ∃ rows, u.dispositions.Inserts
        ⟨roundDisposition nowMs t fe count, dispositionOf_valid _ _ _ _ _⟩ rows ∧
      putVerificationDisposition (roundDisposition nowMs t fe count) nowMs u =
        .ok (true, u.withDispositions rows) := by
  rw [← hu.dispositions] at habsent
  have hok := revalidateDisposition_roundDisposition hu habsent hcount
  rw [if_pos hagree] at hok
  exact putSealed_of_fresh ⟨_, dispositionOf_valid _ _ _ _ _⟩ hg habsent hok

/-- A fresh disposition is refused when they do not. -/
lemma putDisposition_of_mismatch (count : ℕ) (habsent : t.dispositions.find
      (roundDisposition nowMs t fe count).verificationDispositionId = none)
    (hcount : t.generationRepairCount fe.requestId fe.runId fe.generation = onFile)
    (hne : computeDispositionAction defaultPolicy (t.decisionInput fe) onFile ≠
      computeDispositionAction defaultPolicy (t.decisionInput fe) count) :
    ∃ text, putVerificationDisposition (roundDisposition nowMs t fe count) nowMs u =
      .error (.revalidation .disposition text) := by
  rw [← hu.dispositions] at habsent
  have herror := revalidateDisposition_roundDisposition hu habsent hcount
  rw [if_neg hne] at herror
  obtain ⟨text, herror⟩ := herror
  exact ⟨text, putSealed_of_refused ⟨_, dispositionOf_valid _ _ _ _ _⟩ hg habsent herror⟩

end Step

lemma reusableDisposition_error {e : RepairError}
    (h : reusableDisposition reuse fe nowMs t = .error e) : ∃ text, e = .coordinator text := by
  unfold reusableDisposition at h
  simp only at h
  split at h
  · cases h
  · cases h
  · split at h
    · cases h
      exact ⟨_, rfl⟩
    · cases h
  · cases h
    exact ⟨_, rfl⟩

/-- Putting one more disposition in front of a fulfilled rest. -/
theorem Fulfils.cons {F : Except RoundStop (List VerificationDisposition × ℕ)}
    {x : Call RepairError RepairStore (List VerificationDisposition)} {d : VerificationDisposition}
    (h : Fulfils s lineage F (x.on t)) :
    Fulfils s lineage (F.map fun (ds, n) => (d :: ds, n))
      ((x >>= fun rest => pure (d :: rest)).on t) := by
  rw [on_bind]
  rcases hx : x.on t with ⟨e | ds, u⟩ <;> rw [hx] at h <;> rcases F with stop | ⟨ds', n⟩
  · exact h
  · exact h.elim
  · cases stop <;> exact h.elim
  · obtain ⟨rfl, hframe, hn⟩ := h
    exact ⟨rfl, hframe, hn⟩

lemma countAfter_withDispositions {hd : d.hasValidIdentity = true}
    {rows : Table fun d : Sealed VerificationDisposition.hasValidIdentity =>
      d.1.verificationDispositionId}
    (hins : u.dispositions.Inserts ⟨d, hd⟩ rows)
    (hlineage : (⟨d.requestId, d.runId, d.generation⟩ : RecordBinding) = lineage)
    (hcount : u.generationRepairCount lineage.requestId lineage.runId lineage.generation = onFile) :
    (u.withDispositions rows).generationRepairCount lineage.requestId lineage.runId
      lineage.generation = countAfter onFile d := by
  subst hlineage
  rw [generationRepairCount_withDispositions hins, hcount]
  by_cases h : d.action = .repair <;> simp [countAfter, h]

/-- A round ends as it was forecast. The induction carries that the store reached so far differs
from the initial one in evidence and dispositions of earlier entries only. -/
theorem processFailures_fulfils (h : RoundEvidence s lineage available fes)
    (hframe : Framed s t) (hsame : ∀ f ∈ fes, SameEntry s t f.planEntryId)
    (hcount : t.generationRepairCount lineage.requestId lineage.runId lineage.generation = onFile) :
    Fulfils s lineage (forecast reuse nowMs s available fes count onFile)
      ((processFailures defaultPolicy reuse nowMs fes count).on t) := by
  induction fes generalizing t count onFile with
  | nil => exact ⟨rfl, hframe, hcount⟩
  | cons fe fes ih =>
    have hfe := hsame fe mem_cons_self
    have hrest : ∀ f ∈ fes, SameEntry s t f.planEntryId := fun f hf =>
      hsame f (mem_cons_of_mem _ hf)
    have hreuse := hfe.reusableDisposition reuse nowMs
    have hquery := on_query (reusableDisposition reuse fe nowMs) t
    rw [hreuse] at hquery
    unfold forecast processFailures
    rcases hr : reusableDisposition reuse fe nowMs s with e | (_ | d) <;> rw [hr] at hquery
    · obtain ⟨text, rfl⟩ := reusableDisposition_error hr
      rw [on_bind_of_error hquery]
      trivial
    · rw [on_bind_of_ok hquery]
      have hvalid := h.valid fe mem_cons_self
      have hlineage := h.lineage_eq fe mem_cons_self
      have hdecision : roundDisposition nowMs t fe count = roundDisposition nowMs s fe count := by
        unfold roundDisposition
        rw [hfe.decisionInput hframe]
      have hfindFe := hfe.findEvidence fe hvalid rfl
      have hfindD := hfe.findDisposition (roundDisposition nowMs s fe count)
        (dispositionOf_valid _ _ _ _ _) rfl
      have hrederived := h.rederived fe mem_cons_self t hframe
      simp only
      have hadmittedT : evidenceAdmitted nowMs t available fe =
          evidenceAdmitted nowMs s available fe := by
        unfold evidenceAdmitted
        rw [hframe.assertBinding, hfindFe]
      by_cases hadmitted : evidenceAdmitted nowMs s available fe = true
      · rw [if_neg (by simp [hadmitted])]
        rw [← hadmittedT, evidenceAdmitted, Bool.and_eq_true, Bool.or_eq_true,
          toBool_eq_true] at hadmitted
        obtain ⟨⟨g, hg⟩, hsource⟩ := hadmitted
        obtain ⟨fresh, u, hu, hput⟩ := putEvidence_of_admitted hvalid hg
          (hsource.imp_right fun ha => by simpa [ha] using hrederived)
        have hgu : u.assertBinding ⟨fe.requestId, fe.runId, fe.generation⟩ nowMs = .ok g := by
          rw [hu.framed.assertBinding, hg]
        have hframeU : Framed s u := hframe.trans hu.framed
        have hsameU : ∀ f ∈ fes, SameEntry s u f.planEntryId := fun f hf =>
          (hrest f hf).trans (hu.sameEntry (h.entry_ne f hf))
        have hcountU : u.generationRepairCount lineage.requestId lineage.runId
            lineage.generation = onFile := by
          rw [← hcount]
          simp only [RepairStore.generationRepairCount, listAllVerificationDispositions,
            hu.dispositions]
        have hcountFe : t.generationRepairCount fe.requestId fe.runId fe.generation = onFile := by
          rw [← hcount, ← hlineage]
        have hstep := processFailure_of_put count hput
        rw [hdecision] at hstep
        cases hd : s.dispositions.find
            (roundDisposition nowMs s fe count).verificationDispositionId with
        | some row =>
          have honFile := putDisposition_of_onFile hu hgu count
            (by rw [hdecision, hfindD, hd]; rfl)
          rw [hdecision] at honFile
          rw [honFile] at hstep
          rw [if_pos Option.isSome_some, on_bind_of_ok hstep]
          exact (ih h.tail hframeU hsameU hcountU).cons
        | none =>
          rw [if_neg (by simp)]
          by_cases hagree : computeDispositionAction defaultPolicy (s.decisionInput fe) onFile =
              computeDispositionAction defaultPolicy (s.decisionInput fe) count
          · obtain ⟨rows, hins, hwrite⟩ := putDisposition_of_agreeing hu hgu count
              (by rw [hdecision, hfindD, hd]) hcountFe
              (by rw [hfe.decisionInput hframe]; exact hagree)
            simp only [hdecision] at hins hwrite
            rw [hwrite] at hstep
            rw [if_pos hagree, on_bind_of_ok hstep]
            refine (ih h.tail (hframeU.withDispositions rows) (fun f hf => ?_)
              (countAfter_withDispositions hins hlineage hcountU)).cons
            exact (hsameU f hf).trans (sameEntry_withDispositions hins (h.entry_ne f hf))
          · obtain ⟨text, herror⟩ := putDisposition_of_mismatch hu hgu count
              (by rw [hdecision, hfindD, hd]) hcountFe
              (by rw [hfe.decisionInput hframe]; exact hagree)
            rw [hdecision] at herror
            rw [herror] at hstep
            rw [if_neg hagree, on_bind_of_error hstep]
            trivial
      · rw [if_pos (by simpa using hadmitted)]
        rw [Bool.not_eq_true, ← hadmittedT] at hadmitted
        obtain ⟨e, herror, hother⟩ := putEvidence_of_not_admitted hvalid hadmitted
          fun ha => by simpa [ha] using hrederived
        rw [on_bind_of_error (processFailure_of_refused herror)]
        exact fulfils_refused hother
    · rw [on_bind_of_ok hquery]
      exact (ih h.tail hframe hrest hcount).cons

end Tiangong
