import Mathlib.Data.List.Induction
import Tiangong.DeliveryAdvances

/-!
# Reconciliation and its conclusions

An effect whose outcome is open is reconciled by an explicit receipt. The receipt itself may leave
the outcome open; the ledger closes the effect all the same, and then it no longer counts as
unresolved. Without such a receipt nothing is closed that is still open.
-/
namespace Tiangong.Communication

open DeliveryRecord Machine

/-- What became of the delivery is not known. -/
def DeliveryRecord.outcomeUnknown (r : DeliveryRecord) : Bool :=
  r.receipt.elim r.sideEffectStartedAtMs.isSome fun receipt => receipt.status.isAmbiguous

namespace DeliveryLedger

variable {s s' : DeliveryLedger} {calls : List Call} {call : Call} {id : String}
  {r : DeliveryRecord}

abbrev after (calls : List Call) : DeliveryLedger := machine.exec .empty calls

/-- A receipt reconciled an effect whose outcome was open. -/
def ReconciledBy (calls : List Call) (id : String) (receipt : DeliveryReceipt) : Prop :=
  ∃ pre absent post row, calls = pre ++ .receive receipt absent true :: post ∧
    (after pre).effects.find id = some row ∧ row.state = .reconcileRequired

theorem ReconciledBy.concat {receipt : DeliveryReceipt} (h : ReconciledBy calls id receipt)
    (call : Call) : ReconciledBy (calls ++ [call]) id receipt := by
  obtain ⟨pre, absent, post, row, rfl, hrow⟩ := h
  exact ⟨pre, absent, post ++ [call], row, by simp, hrow⟩

lemma reconciled_origin (hr : (after calls).effects.find id = some r)
    (hstate : r.state = .reconciled) : ∃ receipt ∈ r.receipt, ReconciledBy calls id receipt := by
  induction calls using List.reverseRecOn generalizing r with
  | nil => cases hr
  | append_singleton calls call ih =>
    rw [after, exec_concat] at hr
    cases ((sound_exec calls).writes call).recordStep hr with
    | kept hfound =>
      obtain ⟨receipt, hreceipt, hby⟩ := ih hfound hstate
      exact ⟨receipt, hreceipt, hby.concat call⟩
    | claimed => cases hstate
    | started => cases hstate
    | recovered => cases hstate
    | @received receipt absent reconciliation row _ _ hfound hreceived =>
      have hrequired : row.state = .reconcileRequired := by
        by_contra hnot
        refine DeliveryState.ofStatus_ne_reconciled receipt.status (Eq.trans ?_ hstate)
        exact (if_neg hnot).symm
      obtain rfl := hreceived.reconciling hrequired
      exact ⟨receipt, rfl, calls, absent, [], row, rfl, hfound, hrequired⟩

theorem reconcileRequired_ambiguous (hr : (after calls).effects.find id = some r)
    (hstate : r.state = .reconcileRequired) :
    ∀ receipt ∈ r.receipt, receipt.status.isAmbiguous = true := by
  induction calls using List.reverseRecOn generalizing r with
  | nil => cases hr
  | append_singleton calls call ih =>
    have hsound := sound_exec calls
    rw [after, exec_concat] at hr
    cases (hsound.writes call).recordStep hr with
    | kept hfound => exact ih hfound hstate
    | claimed => cases hstate
    | started => cases hstate
    | @recovered nowMs row hfound hstarted =>
      have hchecked := hsound.checked row (Table.mem_of_find hfound)
      rw [checked, hstarted] at hchecked
      simp only [Bool.and_eq_true, Option.isNone_iff_eq_none] at hchecked
      intro receipt hreceipt
      rw [recovered, hchecked.2.1.2] at hreceipt
      cases hreceipt
    | @received receipt absent reconciliation row _ _ hfound hreceived =>
      intro stored hstored
      cases hstored
      refine DeliveryState.ambiguous_of_ofStatus ?_
      have htarget : receiptTarget row.state receipt.status = .reconcileRequired := hstate
      rw [receiptTarget] at htarget
      split at htarget
      · cases htarget
      · exact htarget

/-- A receipt that leaves open what it is recorded to reconcile. -/
structure Inconclusive (s : DeliveryLedger) (receipt : DeliveryReceipt) (row : DeliveryRecord) :
    Prop where
  ambiguous : receipt.status.isAmbiguous = true
  digest : receipt.hasValidReceiptSha256 = true
  found : s.effects.find receipt.effectId = some row
  required : row.state = .reconcileRequired
  context : sameContext receipt row.claim = true
  time : row.claim.claimedAtMs ≤ receipt.observedAtMs
  different : row.receipt ≠ some receipt

/-- A call that presents an inconclusive receipt as a reconciliation. -/
def Inconclusively (s : DeliveryLedger) (call : Call) : Prop :=
  ∃ receipt absent row, call = .receive receipt absent true ∧ Inconclusive s receipt row

lemma Sound.inconclusive_closes (h : s.Sound) {receipt : DeliveryReceipt} {absent : Bool}
    {row : DeliveryRecord} (hreceipt : Inconclusive s receipt row) :
    ∃ r, (machine.step s (.receive receipt absent true)).1.effects.find receipt.effectId = some r ∧
      r.state = .reconciled ∧ r.receipt = some receipt := by
  have hchecked := h.checked row (Table.mem_of_find hreceipt.found)
  rw [DeliveryRecord.checked, hreceipt.required] at hchecked
  simp only [Bool.and_eq_true] at hchecked
  have hallowed : receiptAllowed row receipt absent true = .ok () := by
    simp only [receiptAllowed, eq_ok_iff, hreceipt.required]
    refine ⟨by simp, by simp, ?_, by simp, by simp⟩
    rintro ⟨-, hnone⟩
    rw [hnone] at hchecked
    exact absurd hchecked.2.1 (by simp)
  obtain ⟨s', haccepted, hreceived⟩ := h.receive_accepted hreceipt.found hreceipt.digest
    hreceipt.context hreceipt.different hallowed hreceipt.time
  have hstep : (machine.step s (.receive receipt absent true)).1 = s' := by
    show (committed s Answer.record (s.recordReceipt receipt absent true)).1 = s'
    rw [haccepted]
    rfl
  refine ⟨row.received (receiptTarget row.state receipt.status) receipt, ?_, ?_, rfl⟩
  · rw [hstep, hreceived.moved.effects]
    exact if_pos rfl
  · exact if_pos hreceipt.required

/-- Without an inconclusive reconciliation an ambiguous receipt leaves its effect to be
reconciled. -/
lemma ambiguous_reconcileRequired
    (hcalls : machine.Steps (fun s call => ¬ Inconclusively s call) .empty calls)
    (hr : (after calls).effects.find id = some r) :
    ∀ receipt ∈ r.receipt, receipt.status.isAmbiguous = true → r.state = .reconcileRequired := by
  induction calls using List.reverseRecOn generalizing r with
  | nil => cases hr
  | append_singleton calls call ih =>
    obtain ⟨hpre, hcall, -⟩ := (machine.steps_append _ _ _ _).mp hcalls
    have hsound := sound_exec calls
    rw [after, exec_concat] at hr
    cases (hsound.writes call).recordStep hr with
    | kept hfound => exact ih hpre hfound
    | claimed =>
      intro receipt hreceipt
      cases hreceipt
    | started hfound hclaimed =>
      intro receipt hreceipt hambiguous
      have hstate := ih hpre hfound receipt hreceipt hambiguous
      rw [hclaimed] at hstate
      cases hstate
    | recovered => exact fun _ _ _ => rfl
    | @received receipt absent reconciliation row _ _ hfound hreceived =>
      intro stored hstored hambiguous
      cases hstored
      have hnot : row.state ≠ .reconcileRequired := by
        intro hrequired
        obtain rfl := hreceived.reconciling hrequired
        have hchecked := hreceived.moved.checked
        simp only [checked, holds_iff] at hchecked
        exact hcall ⟨receipt, absent, row, rfl, hambiguous, hreceived.digest,
          hreceived.moved.found, hrequired, hreceived.context, hchecked.1, hreceived.different⟩
      show receiptTarget row.state receipt.status = .reconcileRequired
      rw [receiptTarget, if_neg hnot]
      exact DeliveryState.ofStatus_of_ambiguous hambiguous

/-- Reconciliation has ended only with a conclusion. -/
structure Concluded (calls : List Call) : Prop where
  /-- A reconciled effect has a conclusive receipt that was recorded to reconcile it. -/
  reconciled : ∀ id r, (after calls).effects.find id = some r → r.state = .reconciled →
    ∃ receipt ∈ r.receipt, ReconciledBy calls id receipt ∧
      receipt.status ∈ [.channelAccepted, .delivered, .failedRetryable, .failedFinal]
  /-- An effect with an ambiguous receipt is to be reconciled. -/
  ambiguous : ∀ id r, (after calls).effects.find id = some r → ∀ receipt ∈ r.receipt,
    receipt.status.isAmbiguous = true → r.state = .reconcileRequired
  /-- An ambiguous receipt that is accepted leaves its effect to be reconciled. -/
  left : ∀ pre receipt absent reconciliation post record,
    calls = pre ++ .receive receipt absent reconciliation :: post →
      (machine.step (after pre) (.receive receipt absent reconciliation)).2 = .ok (.record record) →
        receipt.status.isAmbiguous = true → record.state = .reconcileRequired
  /-- No effect whose outcome is unknown is left out of the unresolved deliveries. -/
  counted : ∀ channel tenantId linkAccountId facts,
    (after calls).channelDrainFacts channel tenantId linkAccountId = .ok facts →
      ((after calls).scopeRecords channel tenantId linkAccountId).countP (·.outcomeUnknown) ≤
        facts.unresolvedDeliveryCount

theorem unresolved_of_facts {channel : Channel} {tenantId linkAccountId : String}
    {facts : DeliveryDrainFacts}
    (h : s.channelDrainFacts channel tenantId linkAccountId = .ok facts) :
    facts.unresolvedDeliveryCount =
      (s.scopeRecords channel tenantId linkAccountId).countP (·.state.unresolved) := by
  simp only [channelDrainFacts, eq_ok_iff] at h
  obtain ⟨-, -, -, -, rfl⟩ := h
  rfl

/-- A whole row whose outcome is unknown is unresolved, unless an ambiguous receipt closed it. -/
lemma unresolved_of_outcomeUnknown (hchecked : r.checked = true)
    (hambiguous : ∀ receipt ∈ r.receipt, receipt.status.isAmbiguous = true →
      r.state = .reconcileRequired) (h : r.outcomeUnknown = true) : r.state.unresolved = true := by
  cases hreceipt : r.receipt with
  | some receipt =>
    rw [outcomeUnknown, hreceipt, Option.elim_some] at h
    rw [hambiguous receipt hreceipt h]
    rfl
  | none =>
    rw [checked, hreceipt, Bool.and_eq_true] at hchecked
    cases hstate : r.state with
    | claimed | sideEffectStarted | reconcileRequired | failedRetryable => rfl
    | channelAccepted | delivered | failedFinal | reconciled =>
      rw [hstate] at hchecked
      cases hchecked.2

lemma concluded_of_steps
    (hcalls : machine.Steps (fun s call => ¬ Inconclusively s call) .empty calls) :
    Concluded calls where
  reconciled id r hr hstate := by
    obtain ⟨receipt, hreceipt, hby⟩ := reconciled_origin hr hstate
    refine ⟨receipt, hreceipt, hby, ReceiptStatus.conclusive_iff.mp ?_⟩
    by_contra hnot
    have hrequired := ambiguous_reconcileRequired hcalls hr receipt hreceipt
      (Bool.eq_true_of_not_eq_false hnot)
    rw [hstate] at hrequired
    cases hrequired
  ambiguous id r := ambiguous_reconcileRequired hcalls
  left pre receipt absent reconciliation post record heq hanswer hambiguous := by
    subst heq
    have hsound := sound_exec pre
    rw [steps_append, steps_cons] at hcalls
    obtain ⟨hpre, hcall, -⟩ := hcalls
    obtain ⟨stored, s', hstep, hrecord⟩ := committed_answer hanswer
    cases hrecord
    have hnew : (after (pre ++ [.receive receipt absent reconciliation])).effects.find
        receipt.effectId = some record ∧ record.receipt = some receipt := by
      have hafter : after (pre ++ [.receive receipt absent reconciliation]) = s' := by
        rw [after, exec_concat]
        show (committed _ Answer.record _).1 = s'
        rw [hstep]
        rfl
      rw [hafter]
      rcases recordReceipt_cases hsound.checked hstep with ⟨rfl, hfound, hstored⟩ |
        ⟨row, rfl, hreceived⟩
      · exact ⟨hfound, hstored⟩
      · rw [hreceived.moved.effects]
        exact ⟨if_pos rfl, rfl⟩
    refine ambiguous_reconcileRequired ?_ hnew.1 receipt hnew.2 hambiguous
    rw [steps_append, steps_cons]
    exact ⟨hpre, hcall, trivial⟩
  counted channel tenantId linkAccountId facts hfacts := by
    rw [unresolved_of_facts hfacts]
    refine List.countP_mono_left fun r hr hunknown => ?_
    have hrow : r ∈ (after calls).effects.rows :=
      (List.mem_filter.mp (mem_orderBy.mp hr)).1
    exact unresolved_of_outcomeUnknown ((sound_exec calls).checked r hrow)
      (ambiguous_reconcileRequired hcalls (Table.find_of_mem hrow)) hunknown

/-- Reconciliation ends with a conclusion at every point of a run, exactly when no call of the run
presents an inconclusive receipt as a reconciliation. -/
theorem exec_concluded (calls : List Call) : (∀ pre, pre <+: calls → Concluded pre) ↔
    machine.Steps (fun s call => ¬ Inconclusively s call) .empty calls := by
  constructor
  · intro h
    refine machine.steps_iff_split.mpr ?_
    rintro pre call post rfl ⟨receipt, absent, row, rfl, hreceipt⟩
    obtain ⟨r, hr, hstate, hstored⟩ :=
      @Sound.inconclusive_closes _ (sound_exec pre) receipt absent row hreceipt
    have hconcluded := h (pre ++ [.receive receipt absent true]) ⟨post, by simp⟩
    rw [← exec_concat] at hr
    have hrequired := hconcluded.ambiguous _ r hr receipt hstored hreceipt.ambiguous
    rw [hstate] at hrequired
    cases hrequired
  · rintro h pre ⟨post, rfl⟩
    exact concluded_of_steps ((machine.steps_append _ _ _ _).mp h).1

lemma not_accepted_of_failed {stage : PartStage} (h : stage.failed = true) :
    stage.accepted → (none : Option String).isSome ∧ (none : Option Canon).isSome := by
  intro haccepted
  revert h haccepted
  cases stage <;> decide

lemma error_of_failed {status : ReceiptStatus} (h : status.succeeded = false) (errorCode : String) :
    (some errorCode).isSome = !status.succeeded := by
  rw [h]
  rfl

lemma failurePart_unbound : (none : Option String).isSome = decide (PartKind.text = .artifact) ∧
    (none : Option String).isSome = decide (PartKind.text = .artifact) :=
  ⟨rfl, rfl⟩

/-- A part that did not arrive. -/
def failurePart (stage : PartStage) (hstage : stage.failed = true) (atMs : ℕ) :
    DeliveryPartReceipt where
  partId := "part_0"
  index := 0
  kind := .text
  artifactId := none
  artifactRevisionId := none
  stage := stage
  attempt := 1
  startedAtMs := atMs
  finishedAtMs := atMs
  channelMessageRef := none
  evidenceSha256 := .sha256 (.text "part_0")
  platformReceiptSha256 := none
  errorCode := some "delivery.failed"
  finished_after_start := Nat.le_refl atMs
  artifact_bound := failurePart_unbound
  accepted_evidence := not_accepted_of_failed hstage
  error_iff := hstage.symm

lemma singlePart_bounded (part : DeliveryPartReceipt) : 1 ≤ [part].length ∧ [part].length ≤ 50 :=
  ⟨Nat.le_refl 1, Nat.le_of_ble_eq_true rfl⟩

lemma failurePart_indexes {stage : PartStage} (hstage : stage.failed = true) (atMs : ℕ) :
    [failurePart stage hstage atMs].map DeliveryPartReceipt.index =
      List.range [failurePart stage hstage atMs].length :=
  rfl

lemma singlePart_nodup (part : DeliveryPartReceipt) :
    ([part].map DeliveryPartReceipt.partId).Nodup :=
  List.nodup_singleton _

/-- A receipt for a delivery whose only part did not arrive, without its digest. -/
def failureFields (receiptId : String) (status : ReceiptStatus) (stage : PartStage)
    (hstage : stage.failed = true) (hstatus : status.admits [stage] = true)
    (hfailed : status.succeeded = false) (claim : DeliveryEffectClaim) : DeliveryReceipt where
  receiptId := receiptId
  ticketId := claim.ticketId
  deliveryId := claim.deliveryId
  effectId := claim.effectId
  requestId := claim.requestId
  runId := claim.runId
  generation := claim.generation
  channel := claim.channel
  status := status
  parts := [failurePart stage hstage claim.claimedAtMs]
  observedAtMs := claim.claimedAtMs
  errorCode := some "delivery.failed"
  receiptSha256 := .null
  some_part := singlePart_bounded _
  indexes := failurePart_indexes hstage _
  partIds_nodup := singlePart_nodup _
  status_admitted := hstatus
  error_iff := error_of_failed hfailed _

/-- A receipt for a delivery whose only part did not arrive. -/
def failureReceipt (receiptId : String) (status : ReceiptStatus) (stage : PartStage)
    (hstage : stage.failed = true) (hstatus : status.admits [stage] = true)
    (hfailed : status.succeeded = false) (claim : DeliveryEffectClaim) : DeliveryReceipt :=
  let receipt := failureFields receiptId status stage hstage hstatus hfailed claim
  { receipt with receiptSha256 := receipt.computedReceiptSha256 }

def sampleClaim (name : String) (generation : ℕ) : DeliveryEffectClaim :=
  DeliveryEffectClaim.withComputedSha256
    { ticketId := .ident "dtk_" (.text name), deliveryId := "dlv_" ++ name
      effectId := "eff_" ++ name, requestId := "req_1", runId := "run_1", generation
      gatewayEpoch := 1, channel := .wechat, tenantId := "tenant_1", linkAccountId := "account_1"
      conversationScopeHash := .sha256 (.text "conversation")
      recipientScopeHash := .sha256 (.text "recipient")
      outboundPlanSha256 := .sha256 (.text "plan"), ticketPayloadSha256 := .sha256 (.text name)
      claimedAtMs := 1, claimSha256 := .null }

def sampleVerificationFields (name : String) (generation : ℕ) : VerificationFields :=
  let fields : VerificationFields :=
    { ticketId := .ident "dtk_" (.text name), kid := "kid_1", gatewayEpoch := 1
      requestId := "req_1", runId := "run_1", generation, deliveryId := "dlv_" ++ name
      effectId := "eff_" ++ name, outboundPlanSha256 := .sha256 (.text "plan")
      payloadSha256 := .sha256 (.text name), signatureSha256 := .sha256 (.text "signature")
      trustBundleSha256 := .sha256 (.text "bundle")
      componentManifestSha256 := .sha256 (.text "manifest"), verifiedAtMs := 1
      expiresAtMs := 100, verificationSha256 := .null }
  { fields with verificationSha256 := fields.computedSha256 }

lemma sampleVerificationFields_valid (name : String) (generation : ℕ) :
    (sampleVerificationFields name generation).valid = true := rfl

def sampleVerification (name : String) (generation : ℕ) : VerifiedDeliveryTicketFact :=
  ⟨sampleVerificationFields name generation, sampleVerificationFields_valid name generation⟩

def openReceipt (receiptId : String) : DeliveryReceipt :=
  failureReceipt receiptId .ambiguous .ambiguous rfl rfl rfl (sampleClaim "1" 0)

/-- A send whose receipt is ambiguous, and whose reconciliation is ambiguous again. -/
def reconcileTwice : List Call :=
  [.consume (sampleVerification "1" 0) (sampleClaim "1" 0), .start "eff_1" 1,
    .receive (openReceipt "rcp_1") false false, .receive (openReceipt "rcp_2") false true]

lemma reconcileTwice_closed : ((after reconcileTwice).effects.find "eff_1").map
    (fun r => (r.state, r.receipt.map (·.status))) = some (.reconciled, some .ambiguous) := by
  decide

/-- The second ambiguous receipt closes the effect although its outcome is still open. -/
theorem reconcileTwice_not_concluded : ¬ Concluded reconcileTwice := by
  intro h
  obtain ⟨r, hr, hclosed⟩ := Option.map_eq_some_iff.mp reconcileTwice_closed
  obtain ⟨hstate, hstatus⟩ := Prod.mk.inj hclosed
  obtain ⟨receipt, hreceipt, hambiguous⟩ := Option.map_eq_some_iff.mp hstatus
  have hrequired := h.ambiguous _ r hr receipt hreceipt (by rw [hambiguous]; rfl)
  rw [hstate] at hrequired
  cases hrequired

end DeliveryLedger

end Tiangong.Communication
