import Tiangong.CompletionGate

/-!
# Completion and its evidence

What has to be true for a request to be complete, said over the stores and the evidence alone. Each
assessment of the gate is related to the part of it that it looks at, and the outcome of a decision
is completed exactly when all of it holds.
-/
open List

namespace Tiangong

namespace CompletionEvidence

/-- The dispositions a call brings, in either form. -/
def dispositions (evidence : CompletionEvidence) : List VerificationDisposition :=
  evidence.verificationDispositions.getD evidence.verificationDisposition.toList

/-- A receipt is there in which every planned part stands at a stage with the property. -/
def PartsReach (evidence : CompletionEvidence) (reached : PartStage → Prop) : Prop :=
  ∃ plan receipt, evidence.outboundPlan = some plan ∧ evidence.deliveryReceipt = some receipt ∧
    ∀ part ∈ plan.parts, ∃ p ∈ receipt.parts, p.partId = part.partId ∧ reached p.stage

/-- The delivery is reported as failed or as ambiguous, as a whole or in one part. -/
def DeliverySignals (evidence : CompletionEvidence) : Prop :=
  evidence.deliveryFailure.isSome ∨ ∃ receipt, evidence.deliveryReceipt = some receipt ∧
    ∃ p ∈ receipt.parts, p.stage = .failedFinal ∨ p.stage = .ambiguous

/-- A reported class of verification failure that is not merely pending. -/
def FailureSignals (evidence : CompletionEvidence) : Prop :=
  ∃ readiness, evidence.verificationReadiness = some readiness ∧
    (readiness.failureClass = .authorityError ∨ readiness.failureClass = .planConfigError ∨
      readiness.failureClass = .verificationFailed)

end CompletionEvidence

namespace CompletionGate

section Specification

variable (gate : CompletionGate) (requirements : CompletionRequirements)
  (evidence : CompletionEvidence)

/-- The ledger holds a success of the effect and its head says so too. -/
def EffectProved (effectId : String) : Prop :=
  ∃ batch head, gate.getBatchForEffect effectId = .ok (some batch) ∧
    batch.result.status = .succeeded ∧ gate.headState effectId = .ok (some head) ∧
    (head = .succeeded ∨ head = .reconciled)

/-- The effect failed for good, is ambiguous, or its head and its ledger disagree. -/
def EffectSignals (effectId : String) : Prop :=
  (gate.getBatchForEffect effectId = .ok none ∧ (gate.headState effectId = .ok (some .failedFinal) ∨
      gate.headState effectId = .ok (some .ambiguous))) ∨
  ∃ batch head, gate.getBatchForEffect effectId = .ok (some batch) ∧
    gate.headState effectId = .ok head ∧
    ((head.any fun h => headAgrees h batch.result.status) = false ∨
      batch.result.status = .failedFinal ∨ batch.result.status = .ambiguous ∨
      batch.result.status = .cancelled ∨ batch.result.status = .fenced)

/-- The text of the answer is there: as the candidate, or in the plan that is delivered. -/
def TextPresent : Prop :=
  if requirements.deliveryRequirement = .none then evidence.candidateText.isSome
  else ∃ plan, evidence.outboundPlan = some plan ∧ plan.texts ≠ []

/-- The stage a delivery requirement asks of each part. -/
def RequiredStage (stage : PartStage) : Prop :=
  stage = .delivered ∨ (requirements.deliveryRequirement ≠ .delivered ∧ stage = .channelAccepted)

/-- Something speaks against completion: an ambiguity, a final failure, a disposition that asks
for reconciliation or that blocks. -/
def Signals : Prop :=
  (∃ e ∈ requirements.requiredExecutionEffectIds, gate.EffectSignals e) ∨
  (∃ m ∈ evidence.artifacts, m.qcState = .failed) ∨ evidence.DeliverySignals ∨
  (∃ d ∈ evidence.dispositions, d.action = .reconcile ∨ d.action = .block) ∨
  evidence.FailureSignals

/-- All that a complete request has to show. -/
structure EvidenceComplete : Prop where
  effects : ∀ e ∈ requirements.requiredExecutionEffectIds, gate.EffectProved e
  artifacts : ∀ r ∈ requirements.requiredArtifactRevisionIds,
    ∃ m ∈ evidence.artifacts, m.artifactRevisionId = r ∧ m.qcState = .passed
  text : requirements.textRequired = true → TextPresent requirements evidence
  delivery : requirements.deliveryRequirement ≠ .none →
    evidence.PartsReach (RequiredStage requirements)
  verification : requirements.verificationMode = .planBound →
    ∃ readiness, evidence.verificationReadiness = some readiness ∧
      readiness.verificationReady = true
  no_signal : ¬ Signals gate requirements evidence

end Specification

section Agreement

variable {gate : CompletionGate} {requirements : CompletionRequirements}
  {evidence : CompletionEvidence}

lemma headWithoutBatch_signals (head : Option EffectState) :
    (headWithoutBatch head).ambiguous = true ∨ (headWithoutBatch head).failed = true ↔
      head = some .failedFinal ∨ head = some .ambiguous := by
  rcases head with _ | state
  · decide
  · cases state <;> decide

lemma headWithoutBatch_ne_succeeded (head : Option EffectState) :
    headWithoutBatch head ≠ .of .succeeded := by
  rcases head with _ | state
  · decide
  · cases state <;> decide

variable {facts : List FactRecord} {effectId : String} {a : EffectAssessment}
  {supporting : List String}

lemma assessEffect_of_batch {batch : FactBatchRecord}
    (hreader : gate.headStateReader.isSome) (hbatch : gate.getBatchForEffect effectId = .ok (some batch))
    (h : gate.assessEffect requirements facts effectId = .ok (a, supporting)) :
    ∃ head, gate.headState effectId = .ok head ∧
      a = if (head.any fun s => headAgrees s batch.result.status) = true
        then .of batch.result.status else .mismatch := by
  obtain ⟨reader, hreader⟩ := Option.isSome_iff_exists.mp hreader
  simp only [assessEffect, hbatch, hreader, eq_ok_iff, Except.ok.injEq, exists_eq_left'] at h
  obtain ⟨-, head, hhead, h⟩ := h
  refine ⟨head, by rw [headState, hreader]; exact hhead, ?_⟩
  cases head with
  | none =>
    simp only [pure_eq_ok, Prod.mk.injEq] at h
    simp [← h.1]
  | some state =>
    simp only [pure_eq_ok, Prod.mk.injEq] at h
    simp [← h.1]

lemma assessEffect_of_no_batch (hbatch : gate.getBatchForEffect effectId = .ok none)
    (h : gate.assessEffect requirements facts effectId = .ok (a, supporting)) :
    ∃ head, gate.headState effectId = .ok head ∧ a = headWithoutBatch head := by
  simp only [assessEffect, hbatch, eq_pair_iff, Except.ok.injEq, exists_eq_left'] at h
  obtain ⟨-, head, hhead, rfl, -⟩ := h
  exact ⟨head, hhead, rfl⟩

/-- A ledger status and a head agree on a success exactly when both report one. -/
lemma headAgrees_succeeded (state : EffectState) :
    headAgrees state .succeeded = true ↔ state = .succeeded ∨ state = .reconciled := by
  cases state <;> decide

lemma assessEffect_spec (hreader : gate.headStateReader.isSome)
    (h : gate.assessEffect requirements facts effectId = .ok (a, supporting)) :
    (a = .of .succeeded ↔ gate.EffectProved effectId) ∧
      (a.ambiguous = true ∨ a.failed = true ↔ gate.EffectSignals effectId) := by
  have hread : ∃ found, gate.getBatchForEffect effectId = .ok found := by
    cases hfound : gate.getBatchForEffect effectId with
    | ok found => exact ⟨found, rfl⟩
    | error e => simp [assessEffect, hfound, bind, Except.bind] at h
  obtain ⟨_ | batch, hbatch⟩ := hread
  · obtain ⟨head, hhead, rfl⟩ := assessEffect_of_no_batch hbatch h
    constructor
    · simp [headWithoutBatch_ne_succeeded, EffectProved, hbatch]
    · simp [headWithoutBatch_signals, EffectSignals, hbatch, hhead]
  · obtain ⟨head, hhead, rfl⟩ := assessEffect_of_batch hreader hbatch h
    cases hagrees : head.any fun s => headAgrees s batch.result.status with
    | true =>
      constructor
      · simp only [if_true, EffectAssessment.of.injEq, EffectProved, hbatch, hhead]
        constructor
        · intro hsucceeded
          obtain ⟨state, rfl⟩ : ∃ state, head = some state := by
            cases head with
            | none => simp at hagrees
            | some state => exact ⟨state, rfl⟩
          rw [Option.any_some, hsucceeded, headAgrees_succeeded] at hagrees
          exact ⟨batch, state, rfl, hsucceeded, rfl, hagrees⟩
        · rintro ⟨b, state, hb, hsucceeded, -, -⟩
          cases hb
          exact hsucceeded
      · simp [EffectSignals, hbatch, hhead, hagrees, EffectAssessment.ambiguous,
          EffectAssessment.failed]
        tauto
    | false =>
      constructor
      · simp only [Bool.false_eq_true, if_false, reduceCtorEq, false_iff]
        rintro ⟨b, state, hb, hsucceeded, hstate, hgood⟩
        rw [hbatch] at hb
        cases hb
        rw [hhead] at hstate
        cases hstate
        rw [Option.any_some, hsucceeded, ← Bool.not_eq_true, headAgrees_succeeded] at hagrees
        exact hagrees hgood
      · simp [EffectSignals, hbatch, hhead, hagrees, EffectAssessment.ambiguous]

lemma required_subset_lineage (requirements : CompletionRequirements) :
    requirements.requiredExecutionEffectIds ⊆ requirements.lineage := by
  unfold CompletionRequirements.lineage
  split_ifs with h
  · exact List.Subset.refl _
  · exact requirements.effects_in_lineage h

lemma executionAssessments_spec {states : List (String × EffectAssessment)} (hreader : gate.headStateReader.isSome)
    (h : gate.executionAssessments requirements = .ok (states, supporting)) :
    ((states.all fun a => a.2 = .of .succeeded) = true ↔
        ∀ e ∈ requirements.requiredExecutionEffectIds, gate.EffectProved e) ∧
      ((states.any fun a => a.2.ambiguous) = true ∨ (states.any fun a => a.2.failed) = true ↔
        ∃ e ∈ requirements.requiredExecutionEffectIds, gate.EffectSignals e) := by
  simp only [executionAssessments, eq_pair_iff] at h
  obtain ⟨facts, -, -, assessed, hassessed, rfl, -⟩ := h
  -- the state of a required effect is the assessment made of it in the lineage
  have hstate : ∀ e ∈ requirements.requiredExecutionEffectIds, ∃ a,
      gate.assessEffect requirements (facts.filter fun f => f.factType.isExecution) e = .ok a ∧
      ((assessed.find? fun a => a.1 = e).map fun a => a.2.1).getD .missing = a.1 := by
    intro e he
    obtain ⟨a, ha, hfound⟩ := find_beside hassessed (required_subset_lineage requirements he)
    exact ⟨a, ha, by rw [hfound]; rfl⟩
  constructor
  · simp only [all_map, all_eq_true, Function.comp_apply, decide_eq_true_eq]
    refine forall₂_congr fun e he => ?_
    obtain ⟨a, ha, hfound⟩ := hstate e he
    rw [hfound]
    exact (assessEffect_spec hreader ha).1
  · simp only [any_map, any_eq_true, Function.comp_apply]
    rw [← exists_or]
    refine exists_congr fun e => ?_
    rw [← and_or_left]
    refine and_congr_right fun he => ?_
    obtain ⟨a, ha, hfound⟩ := hstate e he
    rw [hfound]
    exact (assessEffect_spec hreader ha).2

/-- Without a repeated revision, the artifact found for a revision is the only one of it. -/
lemma assessArtifact_state {artifacts : List ArtifactManifest} {revisionId : String}
    {a : ArtifactAssessment × List String}
    (h : gate.assessArtifact requirements artifacts revisionId = .ok a) :
    (artifacts.find? fun m => m.artifactRevisionId = revisionId).elim .missing
      (fun m => .of m.qcState) = a.1 := by
  unfold assessArtifact at h
  split at h
  · next hfound =>
    cases h
    rw [hfound]
    rfl
  · next m hfound =>
    simp only [eq_ok_iff] at h
    obtain ⟨facts, -, rfl⟩ := h
    rw [hfound]
    rfl

lemma artifactAssessments_spec {artifacts : List ArtifactManifest}
    {states : List (String × ArtifactAssessment)}
    (h : gate.artifactAssessments requirements artifacts = .ok (states, supporting)) :
    ((states.all fun a => a.2 = .of .passed) = true ↔
        ∀ r ∈ requirements.requiredArtifactRevisionIds,
          ∃ m ∈ artifacts, m.artifactRevisionId = r ∧ m.qcState = .passed) ∧
      ((states.any fun a => a.2 = .of .failed) = true ↔ ∃ m ∈ artifacts, m.qcState = .failed) := by
  simp only [artifactAssessments, eq_pair_iff, not_not] at h
  obtain ⟨hnodup, hexpected, assessed, hassessed, rfl, -⟩ := h
  obtain ⟨hfst, hall⟩ := mapM_beside hassessed
  -- a revision is assessed at a state exactly when an artifact of it is there in that state
  have hstate : ∀ y ∈ assessed, ∀ q, y.2.1 = .of q ↔
      ∃ m ∈ artifacts, m.artifactRevisionId = y.1 ∧ m.qcState = q := by
    intro y hy q
    rw [← assessArtifact_state (hall y hy)]
    cases hfound : artifacts.find? fun m => m.artifactRevisionId = y.1 with
    | none =>
      rw [List.find?_eq_none] at hfound
      simp only [Option.elim_none, reduceCtorEq, false_iff]
      rintro ⟨m, hm, hrevision, -⟩
      exact hfound m hm (decide_eq_true hrevision)
    | some found =>
      have hmem := mem_of_find?_eq_some hfound
      have hrevision := List.find?_some hfound
      rw [decide_eq_true_eq] at hrevision
      simp only [Option.elim_some, ArtifactAssessment.of.injEq]
      constructor
      · intro hq
        exact ⟨found, hmem, hrevision, hq⟩
      · rintro ⟨m, hm, hm', hq⟩
        rwa [inj_on_of_nodup_map hnodup hmem hm (hrevision.trans hm'.symm)]
  constructor
  · rw [← hfst]
    simp only [all_map, all_eq_true, Function.comp_apply, decide_eq_true_eq, forall_mem_map]
    exact forall₂_congr fun y hy => hstate y hy .passed
  · simp only [any_map, any_eq_true, Function.comp_apply, decide_eq_true_eq]
    constructor
    · rintro ⟨y, hy, hfailed⟩
      obtain ⟨m, hm, -, hq⟩ := (hstate y hy .failed).mp hfailed
      exact ⟨m, hm, hq⟩
    · rintro ⟨m, hm, hq⟩
      have hrequired : m.artifactRevisionId ∈ requirements.requiredArtifactRevisionIds := by
        by_contra hnot
        exact hexpected ⟨m, hm, hnot⟩
      rw [← hfst, mem_map] at hrequired
      obtain ⟨y, hy, hrevision⟩ := hrequired
      exact ⟨y, hy, (hstate y hy .failed).mpr ⟨m, hm, hrevision.symm, hq⟩⟩

lemma assessPart_eq {planned : OutboundPart} {observed : DeliveryPartReceipt}
    {a : CompletionPartAssessment} (h : assessPart requirements planned observed = .ok a) :
    observed.partId = planned.partId ∧ a = partAt planned (.of observed.stage)
      (satisfied requirements.deliveryRequirement observed.stage) (stageReason observed.stage) := by
  simp only [assessPart, eq_ok_iff, not_or, not_not] at h
  exact ⟨h.1.1, h.2.symm⟩

variable {plan : OutboundPlan} {receipt : DeliveryReceipt}

lemma assessReceipt_parts {parts : List CompletionPartAssessment}
    (h : assessReceipt requirements plan receipt = .ok parts) :
    List.Forall₂ (fun part observed => observed.partId = part.partId) plan.parts receipt.parts ∧
      parts = List.zipWith (fun part observed => partAt part (.of observed.stage)
        (satisfied requirements.deliveryRequirement observed.stage)
        (stageReason observed.stage)) plan.parts receipt.parts := by
  simp only [assessReceipt, eq_ok_iff, not_or, not_not, mapM_eq_ok] at h
  obtain ⟨⟨-, -, -, -, -, -, -, hlength⟩, hparts⟩ := h
  generalize plan.parts = planned at hlength hparts ⊢
  generalize receipt.parts = observed at hlength hparts ⊢
  induction planned generalizing observed parts with
  | nil =>
    cases observed with
    | nil =>
      cases hparts
      exact ⟨.nil, rfl⟩
    | cons => simp at hlength
  | cons part planned ih =>
    cases observed with
    | nil => simp at hlength
    | cons o observed =>
      rw [zip_cons_cons, List.forall₂_cons_left_iff] at hparts
      obtain ⟨a, rest, ha, hrest, rfl⟩ := hparts
      obtain ⟨hid, rfl⟩ := assessPart_eq ha
      obtain ⟨hids, rfl⟩ := ih _ (by simpa using hlength) hrest
      exact ⟨.cons hid hids, rfl⟩

lemma planned_reach_iff {reached : PartStage → Prop}
    (h : List.Forall₂ (fun part observed => observed.partId = part.partId) plan.parts
      receipt.parts) :
    (∀ part ∈ plan.parts, ∃ p ∈ receipt.parts, p.partId = part.partId ∧ reached p.stage) ↔
      ∀ p ∈ receipt.parts, reached p.stage := by
  constructor
  · intro hplanned p hp
    obtain ⟨part, hpart, hid⟩ := exists_partner h.flip hp
    obtain ⟨p', hp', hid', hreached⟩ := hplanned part hpart
    rwa [inj_on_of_nodup_map receipt.partIds_nodup hp hp' (hid.trans hid'.symm)]
  · intro hall part hpart
    obtain ⟨p, hp, hid⟩ := exists_partner h hpart
    exact ⟨p, hp, hid, hall p hp⟩

lemma satisfied_iff (stage : PartStage) :
    satisfied requirements.deliveryRequirement stage = true ↔ RequiredStage requirements stage := by
  unfold satisfied RequiredStage PartStage.accepted
  by_cases h : requirements.deliveryRequirement = .delivered
  · simp [h]
  · simp [h, or_comm]

/-- What a part of a receipt alone determines is read off the receipt. -/
lemma map_zipWith_right {α β γ δ : Type*} {f : α → β → γ} {g : γ → δ} (k : β → δ) {xs : List α}
    {ys : List β} (hlength : xs.length = ys.length) (hf : ∀ a b, g (f a b) = k b) :
    (List.zipWith f xs ys).map g = ys.map k := by
  induction xs generalizing ys with
  | nil =>
    cases ys with
    | nil => rfl
    | cons => simp at hlength
  | cons x xs ih =>
    cases ys with
    | nil => simp at hlength
    | cons y ys => simp [hf, ih (by simpa using hlength)]

/-- A plan with a receipt: ready and silent exactly when every part has reached its stage and
none has failed. -/
lemma receipt_spec
    {parts : List CompletionPartAssessment} (hplan : evidence.outboundPlan = some plan)
    (hreceipt : evidence.deliveryReceipt = some receipt) (hfailure : evidence.deliveryFailure = none)
    (h : assessReceipt requirements plan receipt = .ok parts) :
    ((parts.all (·.requirementSatisfied)) = true ↔
        evidence.PartsReach (RequiredStage requirements)) ∧
      ((parts.any fun p => p.stage = .of .ambiguous) = true ∨
        (parts.any fun p => p.stage = .of .failedFinal) = true ↔ evidence.DeliverySignals) ∧
      ((parts.all (·.platformDelivered)) = true ↔ evidence.PartsReach (· = .delivered)) := by
  obtain ⟨hbound, rfl⟩ := assessReceipt_parts h
  have hreach : ∀ reached : PartStage → Prop,
      evidence.PartsReach reached ↔ ∀ p ∈ receipt.parts, reached p.stage := by
    intro reached
    rw [← planned_reach_iff hbound]
    simp [CompletionEvidence.PartsReach, hplan, hreceipt]
  have hsignals : evidence.DeliverySignals ↔
      ∃ p ∈ receipt.parts, p.stage = .failedFinal ∨ p.stage = .ambiguous := by
    simp [CompletionEvidence.DeliverySignals, hfailure, hreceipt]
  have hlength := hbound.length_eq
  rw [hreach, hreach, hsignals]
  generalize hparts : List.zipWith _ plan.parts receipt.parts = parts
  have hsatisfied : parts.map (·.requirementSatisfied) = receipt.parts.map fun o =>
      satisfied requirements.deliveryRequirement o.stage := by
    rw [← hparts]
    exact map_zipWith_right _ hlength fun _ _ => rfl
  have hstage : parts.map (·.stage) = receipt.parts.map fun o => .of o.stage := by
    rw [← hparts]
    exact map_zipWith_right _ hlength fun _ _ => rfl
  have hdelivered : parts.map (·.platformDelivered) = receipt.parts.map fun o =>
      Decidable.decide (AssessedStage.of o.stage = .of .delivered) := by
    rw [← hparts]
    exact map_zipWith_right _ hlength fun _ _ => rfl
  have hany : ∀ stage : PartStage, (parts.any fun p => p.stage = .of stage) = true ↔
      ∃ o ∈ receipt.parts, o.stage = stage := by
    intro stage
    have hmem : .of stage ∈ parts.map (·.stage) ↔ .of stage ∈ receipt.parts.map fun o =>
        AssessedStage.of o.stage := by
      rw [hstage]
    rw [mem_map, mem_map] at hmem
    simpa [any_eq_true] using hmem
  refine ⟨?_, ?_, ?_⟩
  · have hall := congrArg (fun flags : List Bool => flags.all id) hsatisfied
    simp only [all_map, Function.id_comp] at hall
    rw [show parts.all (·.requirementSatisfied) = _ from hall]
    simp [satisfied_iff]
  · rw [hany, hany, ← exists_or]
    refine exists_congr fun p => ?_
    rw [← and_or_left, or_comm]
  · have hall := congrArg (fun flags : List Bool => flags.all id) hdelivered
    simp only [all_map, Function.id_comp] at hall
    rw [show parts.all (·.platformDelivered) = _ from hall]
    simp

/-- What the assessment of a delivery says, against the evidence. -/
structure DeliveryStanding.Speaks (requirements : CompletionRequirements)
    (evidence : CompletionEvidence) (d : DeliveryStanding) : Prop where
  text : d.textReady = true ↔ (requirements.textRequired = true → TextPresent requirements evidence)
  ready : (d.deliveryReady = true ∧ ¬ (d.ambiguous = true ∨ d.failed = true)) ↔
    (requirements.deliveryRequirement ≠ .none → evidence.PartsReach (RequiredStage requirements)) ∧
      ¬ evidence.DeliverySignals
  delivered : d.delivered = true → evidence.PartsReach (· = .delivered)

lemma assessPlan_speaks {d : DeliveryStanding}
    (hrequirement : requirements.deliveryRequirement ≠ .none)
    (hplan : evidence.outboundPlan = some plan)
    (h : assessPlan requirements evidence plan = .ok d) : d.Speaks requirements evidence := by
  simp only [assessPlan, eq_ok_iff] at h
  obtain ⟨-, -, hconflict, -, h⟩ := h
  have htext : (!requirements.textRequired || !plan.texts.isEmpty) = true ↔
      (requirements.textRequired = true → TextPresent requirements evidence) := by
    simp [TextPresent, hrequirement, hplan, Bool.or_eq_true, imp_iff_not_or]
  have hunreached : evidence.deliveryReceipt = none → ∀ reached : PartStage → Prop,
      ¬ evidence.PartsReach reached := by
    intro hnone reached
    simp [CompletionEvidence.PartsReach, hnone]
  have hwithout : ∀ stage reason, evidence.deliveryReceipt = none →
      d = standingWithout (!requirements.textRequired || !plan.texts.isEmpty) plan stage reason →
      d.Speaks requirements evidence := by
    intro stage reason hnone hd
    subst hd
    refine ⟨htext, ?_, ?_⟩
    · simp [standingWithout, hrequirement, hunreached hnone]
    · simp [standingWithout]
  cases hfailure : evidence.deliveryFailure with
  | some failure =>
    have hnone : evidence.deliveryReceipt = none := by
      rw [hfailure] at hconflict
      simpa using hconflict
    rw [hfailure] at h
    cases failure with
    | failedFinal => exact hwithout _ _ hnone (pure_eq_ok.mp h).symm
    | ambiguous => exact hwithout _ _ hnone (pure_eq_ok.mp h).symm
  | none =>
    cases hreceipt : evidence.deliveryReceipt with
    | none =>
      rw [hfailure, hreceipt] at h
      exact hwithout _ _ hreceipt (pure_eq_ok.mp h).symm
    | some receipt =>
      rw [hfailure, hreceipt] at h
      simp only [eq_ok_iff] at h
      obtain ⟨parts, hparts, rfl⟩ := h
      obtain ⟨hready, hflagged, hdelivered⟩ := receipt_spec hplan hreceipt hfailure hparts
      refine ⟨htext, ?_, hdelivered.mp⟩
      rw [← hflagged, ← hready]
      simp [hrequirement]

lemma deliveryAssessment_speaks {d : DeliveryStanding}
    (h : deliveryAssessment requirements evidence = .ok d) : d.Speaks requirements evidence := by
  unfold deliveryAssessment at h
  split_ifs at h with hrequirement
  · simp only [eq_ok_iff, not_or] at h
    obtain ⟨⟨hplan, hreceipt, hfailure⟩, rfl⟩ := h
    have hsilent : ¬ evidence.DeliverySignals := by
      rintro (hsome | ⟨receipt, hsome, -⟩)
      · exact hfailure hsome
      · exact hreceipt (by rw [hsome]; rfl)
    refine ⟨?_, ?_, ?_⟩
    · simp [TextPresent, hrequirement, imp_iff_not_or]
    · simp [hrequirement, hsilent]
    · simp
  · split at h
    · next hplan =>
      simp only [eq_ok_iff] at h
      obtain ⟨-, rfl⟩ := h
      refine ⟨?_, ?_, ?_⟩
      · simp [TextPresent, hrequirement, hplan]
      · simp [hrequirement, CompletionEvidence.PartsReach, hplan]
      · simp
    · next plan hplan => exact assessPlan_speaks hrequirement hplan h

lemma verificationAssessment_spec {ready : Bool} {failureClass : FailureClass}
    (h : verificationAssessment requirements evidence = .ok (ready, failureClass)) :
    (ready = true ↔ (requirements.verificationMode = .planBound →
        ∃ readiness, evidence.verificationReadiness = some readiness ∧
          readiness.verificationReady = true)) ∧
      ((failureClass = .authorityError ∨ failureClass = .planConfigError ∨
        failureClass = .verificationFailed) ↔ evidence.FailureSignals) ∧
      (ready = true → failureClass = .none) := by
  unfold verificationAssessment at h
  split_ifs at h with hmode
  · simp only [eq_pair_iff] at h
    obtain ⟨readiness, hreadiness, -, -, plan, -, -, -, -, -, -, rfl, rfl⟩ := h
    refine ⟨?_, ?_, readiness.ready_iff.mp⟩
    · simp [hmode, hreadiness]
    · simp [CompletionEvidence.FailureSignals, hreadiness]
  · simp only [eq_pair_iff] at h
    obtain ⟨hnone, rfl, rfl⟩ := h
    rw [Bool.not_eq_true, Option.isSome_eq_false_iff, Option.isNone_iff_eq_none] at hnone
    refine ⟨?_, ?_, fun _ => rfl⟩
    · simp [hmode]
    · simp [CompletionEvidence.FailureSignals, hnone]

lemma admittedDispositions_fst {admitted : List VerificationDisposition × List FailureEvidence}
    (h : gate.admittedDispositions evidence = .ok admitted) :
    admitted.1 = evidence.dispositions := by
  simp only [admittedDispositions, eq_ok_iff] at h
  obtain ⟨forms, hforms, -, -, -, -, rfl⟩ := h
  unfold dispositionForms at hforms
  unfold CompletionEvidence.dispositions
  split at hforms
  · next hsome =>
    simp only [eq_ok_iff] at hforms
    obtain ⟨-, evidences, -, rfl⟩ := hforms
    rw [hsome]
    rfl
  · next hnone =>
    simp only [eq_ok_iff] at hforms
    obtain ⟨-, rfl⟩ := hforms
    rw [hnone]
    rfl

lemma verificationSignals_iff {ready : Bool} {failureClass : FailureClass}
    (h : verificationAssessment requirements evidence = .ok (ready, failureClass))
    (hready : ready = true) (dispositions : List VerificationDisposition) :
    ((verificationSignals dispositions failureClass).1 = true ∨
        (verificationSignals dispositions failureClass).2 = true) ↔
      (∃ d ∈ dispositions, d.action = .reconcile ∨ d.action = .block) ∨
        evidence.FailureSignals := by
  obtain ⟨-, hsignals, hnone⟩ := verificationAssessment_spec h
  rw [← hsignals, hnone hready]
  unfold verificationSignals
  split_ifs with hempty
  · simp [hempty]
  · simp only [any_eq_true, decide_eq_true_eq, ← exists_or, ← and_or_left, or_self, or_false]

lemma weigh_completed (ambiguous failed someSuccess ready : Bool)
    (requirement : DeliveryRequirement) :
    (weigh ambiguous failed someSuccess ready requirement).1 = .completed ↔
      ¬ (ambiguous = true ∨ failed = true) ∧ ready = true := by
  cases ambiguous <;> cases failed <;> cases someSuccess <;> cases ready <;> simp [weigh]

/-- An accepted evaluation decides on what each source was assessed to be. -/
lemma evaluate_cases {decision : CompletionDecision}
    (h : gate.evaluate requirements evidence = .ok decision) :
    ∃ execution artifacts delivery verification,
      gate.executionAssessments requirements = .ok execution ∧
      gate.artifactAssessments requirements evidence.artifacts = .ok artifacts ∧
      deliveryAssessment requirements evidence = .ok delivery ∧
      verificationAssessment requirements evidence = .ok verification ∧
      decision = decide requirements evidence evidence.dispositions execution artifacts delivery
        verification := by
  simp only [evaluate, eq_ok_iff] at h
  obtain ⟨-, -, admitted, hadmitted, execution, hexecution, artifacts, hartifacts, delivery,
    hdelivery, verification, hverification, -, -, -, -, rfl⟩ := h
  rw [admittedDispositions_fst hadmitted]
  exact ⟨execution, artifacts, delivery, verification, hexecution, hartifacts, hdelivery,
    hverification, rfl⟩

/-- The decision is completed exactly when the evidence is complete, and the platform delivery may
be claimed only for a completed request whose parts are all required to be, and are, delivered. -/
theorem evaluate_completed_iff (gate : CompletionGate) (requirements : CompletionRequirements)
    (evidence : CompletionEvidence) (decision : CompletionDecision)
    (hreader : gate.headStateReader.isSome)
    (h : gate.evaluate requirements evidence = .ok decision) :
    (decision.outcome = .completed ↔ EvidenceComplete gate requirements evidence) ∧
      (decision.canClaimPlatformDelivered = true → decision.outcome = .completed ∧
        requirements.deliveryRequirement = .delivered ∧
        evidence.PartsReach (· = .delivered)) := by
  obtain ⟨⟨states, executionFacts⟩, ⟨revisions, qcFacts⟩, delivery, ⟨ready, failureClass⟩,
    hexecution, hartifacts, hdelivery, hverification, rfl⟩ := evaluate_cases h
  obtain ⟨heffects, heffectSignals⟩ := executionAssessments_spec hreader hexecution
  obtain ⟨hrevisions, hrevisionSignals⟩ := artifactAssessments_spec hartifacts
  have hspeaks := deliveryAssessment_speaks hdelivery
  obtain ⟨hready, -, -⟩ := verificationAssessment_spec hverification
  have hsignals := verificationSignals_iff hverification
  simp only [decide, CompletionDecision.withComputedSha256, holds_iff]
  rw [weigh_completed]
  simp only [Bool.or_eq_true, Bool.and_eq_true]
  constructor
  · constructor
    · rintro ⟨hquiet, ⟨⟨⟨htext, hexec⟩, hart⟩, hver⟩, hdel⟩
      have hsent := hspeaks.ready.mp ⟨hdel, by
        rintro (ha | hf)
        · exact hquiet (.inl (.inl (.inr ha)))
        · exact hquiet (.inr (.inl (.inr hf)))⟩
      refine ⟨heffects.mp hexec, hrevisions.mp hart, hspeaks.text.mp htext, hsent.1,
        hready.mp hver, ?_⟩
      rintro (hsignal | hsignal | hsignal | hsignal)
      · rcases heffectSignals.mpr hsignal with ha | hf
        · exact hquiet (.inl (.inl (.inl ha)))
        · exact hquiet (.inr (.inl (.inl (.inl hf))))
      · exact hquiet (.inr (.inl (.inl (.inr (hrevisionSignals.mpr hsignal)))))
      · exact hsent.2 hsignal
      · rcases (hsignals hver _).mpr hsignal with ha | hf
        · exact hquiet (.inl (.inr ha))
        · exact hquiet (.inr (.inr hf))
    · intro hcomplete
      have hver := hready.mpr hcomplete.verification
      have hsent := hspeaks.ready.mpr ⟨hcomplete.delivery,
        fun hsignal => hcomplete.no_signal (.inr (.inr (.inl hsignal)))⟩
      refine ⟨?_, ⟨⟨⟨hspeaks.text.mpr hcomplete.text, heffects.mpr hcomplete.effects⟩,
        hrevisions.mpr hcomplete.artifacts⟩, hver⟩, hsent.1⟩
      rintro (((ha | ha) | ha) | (((hf | hf) | hf) | hf))
      · exact hcomplete.no_signal (.inl (heffectSignals.mp (.inl ha)))
      · exact hsent.2 (.inl ha)
      · exact hcomplete.no_signal (.inr (.inr (.inr ((hsignals hver _).mp (.inl ha)))))
      · exact hcomplete.no_signal (.inl (heffectSignals.mp (.inr hf)))
      · exact hcomplete.no_signal (.inr (.inl (hrevisionSignals.mp hf)))
      · exact hsent.2 (.inr hf)
      · exact hcomplete.no_signal (.inr (.inr (.inr ((hsignals hver _).mp (.inr hf)))))
  · intro hclaim
    exact ⟨hclaim.1.1, hclaim.1.2, hspeaks.delivered hclaim.2⟩

end Agreement

namespace Sample

def fact : FactRecord :=
  let f : FactRecord := ⟨"fact", .executionSucceeded, "request", "run", 1, "ticket", "effect",
    "action", "1", 5, .text "payload", .text "evidence", .null⟩
  { f with factSha256 := f.computedSha256 }

def batch : FactBatchRecord where
  result := ⟨"ticket", "request", "run", 1, "effect", "action", "1", .succeeded, .text "payload",
    ["fact"]⟩
  facts := [fact]

/-- One effect succeeded, and its head has been reconciled. -/
def gate : CompletionGate where
  listRequestFacts _ _ _ := .ok [fact]
  getBatchForEffect _ := .ok (some batch)
  getArtifactQc _ _ _ := .ok none
  getReference _ := .ok none
  readBytes _ := .ok ⟨.null, 0⟩
  headStateReader := some fun _ => .ok (some .reconciled)
  idBefore _ _ := false

def requirements : CompletionRequirements where
  requestId := "request"
  runId := "run"
  generation := 1
  textRequired := true
  requiredExecutionEffectIds := ["effect"]
  executionLineageEffectIds := []
  requiredArtifactRevisionIds := []
  deliveryRequirement := .delivered
  verificationMode := .none
  effects_sorted := pairwise_singleton _ _
  lineage_sorted := List.Pairwise.nil
  artifacts_sorted := List.Pairwise.nil
  effects_in_lineage h := absurd rfl h
  some_required := .inl rfl

def part : OutboundPart := ⟨"part", 0, .text "done", by decide +kernel⟩

def unsignedPlan : OutboundPlan where
  outboundPlanId := "plan"
  deliveryId := "delivery"
  effectId := "delivery effect"
  requestId := "request"
  runId := "run"
  generation := 1
  channel := .test
  tenantId := "tenant"
  linkAccountId := "account"
  conversationRef := "conversation"
  conversationScopeHash := .text "scope"
  recipientScopeHash := .text "recipient"
  replyToMessageRef := none
  channelPolicyHash := .text "policy"
  createdAtMs := 6
  parts := [part]
  planSha256 := .null
  some_part := by decide
  indexes := rfl
  partIds_nodup := nodup_singleton _
  artifacts_in_scope := by decide
  artifacts_nodup := by decide

def plan : OutboundPlan := { unsignedPlan with planSha256 := unsignedPlan.computedPlanSha256 }

lemma delivered_part_noError : (none : Option String).isSome = PartStage.delivered.failed := rfl

lemma delivered_noError :
    (none : Option String).isSome = !ReceiptStatus.delivered.succeeded := rfl

def partReceipt : DeliveryPartReceipt where
  partId := "part"
  index := 0
  kind := .text
  artifactId := none
  artifactRevisionId := none
  stage := .delivered
  attempt := 1
  startedAtMs := 7
  finishedAtMs := 8
  channelMessageRef := some "message"
  evidenceSha256 := .text "evidence"
  platformReceiptSha256 := some (.text "receipt")
  errorCode := none
  finished_after_start := by decide
  artifact_bound := by decide
  accepted_evidence := by decide
  error_iff := delivered_part_noError

def unsignedReceipt : DeliveryReceipt where
  receiptId := "receipt"
  ticketId := .text "ticket"
  deliveryId := "delivery"
  effectId := "delivery effect"
  requestId := "request"
  runId := "run"
  generation := 1
  channel := .test
  status := .delivered
  parts := [partReceipt]
  observedAtMs := 9
  errorCode := none
  receiptSha256 := .null
  some_part := by decide
  indexes := rfl
  partIds_nodup := nodup_singleton _
  status_admitted := by decide
  error_iff := delivered_noError

def receipt : DeliveryReceipt :=
  { unsignedReceipt with receiptSha256 := unsignedReceipt.computedReceiptSha256 }

def evidence : CompletionEvidence where
  candidateText := none
  artifacts := []
  outboundPlan := some plan
  deliveryReceipt := some receipt
  deliveryFailure := none
  verificationReadiness := none
  activePlan := none
  verificationDisposition := none
  verificationFailureEvidence := none
  verificationDispositions := none
  verificationFailureEvidences := none
  dispositionAuthorityReader := none
  readinessAuthorityReader := none

end Sample

/-- The gate accepts the delivered answer, so its evidence is complete. -/
theorem sample_completed : ∃ decision,
    Sample.gate.evaluate Sample.requirements Sample.evidence = .ok decision ∧
      decision.canClaimPlatformDelivered = true ∧
      EvidenceComplete Sample.gate Sample.requirements Sample.evidence ∧
      Sample.evidence.PartsReach (· = .delivered) := by
  have hrun : ((Sample.gate.evaluate Sample.requirements Sample.evidence).toOption.any
      (·.canClaimPlatformDelivered)) = true := by decide +kernel
  cases h : Sample.gate.evaluate Sample.requirements Sample.evidence with
  | error e =>
    rw [h] at hrun
    cases hrun
  | ok decision =>
    rw [h] at hrun
    have hspec := evaluate_completed_iff Sample.gate Sample.requirements Sample.evidence decision
      rfl h
    obtain ⟨hcompleted, -, hdelivered⟩ := hspec.2 hrun
    exact ⟨decision, rfl, hrun, hspec.1.mp hcompleted, hdelivered⟩

end CompletionGate

end Tiangong
