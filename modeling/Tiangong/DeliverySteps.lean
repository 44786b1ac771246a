import Tiangong.DeliveryLedger

/-!
# What the calls of the delivery ledger write

An accepted call repeats an earlier one, claims a new effect with its ticket, moves one effect to
another state and notes that as an event, or appends a fact about a part.
-/
open List

namespace Tiangong.Communication.DeliveryLedger

open DeliveryRecord

variable {s s' s₁ s₂ : DeliveryLedger} {row new record : DeliveryRecord} {event : StageEvent}

theorem checkRecord_eq_ok : checkRecord row = .ok record ↔ row.claim.hasValidSha256 = true ∧
      (∀ receipt ∈ row.receipt, receipt.hasValidReceiptSha256 = true) ∧ row = record := by
  simp only [checkRecord, eq_ok_iff, Bool.not_eq_false]
  refine and_congr_right fun _ => and_congr_left fun _ => ?_
  cases row.receipt with
  | none => simp
  | some receipt => simp

theorem checkVerification_eq_ok {t t' : VerifiedDeliveryTicketFact} :
    checkVerification t = .ok t' ↔ t.1.hasValidSha256 = true ∧ t = t' := by
  simp only [checkVerification, eq_ok_iff, Bool.not_eq_false]

/-- The moves of an effect from one state to another. -/
inductive Moves : DeliveryState → DeliveryState → Prop where
  | start : Moves .claimed .sideEffectStarted
  | abandon {status : ReceiptStatus} (h : status = .failedRetryable ∨ status = .failedFinal) :
    Moves .claimed (.ofStatus status)
  | conclude (status : ReceiptStatus) : Moves .sideEffectStarted (.ofStatus status)
  | reconcile : Moves .reconcileRequired .reconciled

/-- One effect moves to another state, and an event notes it. -/
structure Moved (s : DeliveryLedger) (row new : DeliveryRecord) (event : StageEvent)
    (s' : DeliveryLedger) : Prop where
  found : s.effects.find event.effectId = some row
  fromState : event.fromState = some row.state
  toState : event.toState = new.state
  moves : Moves row.state new.state
  claim : new.claim = row.claim
  checked : new.checked = true
  effects : ∀ id, s'.effects.find id = if id = event.effectId then some new else s.effects.find id
  claims : s'.effects.rows.map (·.claim) = s.effects.rows.map (·.claim)
  events : s.events.Inserts event s'.events
  tickets : s'.tickets = s.tickets
  partStages : s'.partStages = s.partStages
  progress : s'.progress = s.progress

/-- What an `UPDATE` of one effect with its event writes. -/
theorem moved_of_update {p : DeliveryRecord → Bool} {f : DeliveryRecord → DeliveryRecord}
    {hf : ∀ r, (f r).effectId = r.effectId} (hclaim : ∀ r, (f r).claim = r.claim)
    (hrow : s.effects.find event.effectId = some row) (hp : p row = true)
    (hfrom : event.fromState = some row.state) (hto : event.toState = (f row).state)
    (hmoves : Moves row.state (f row).state)
    (hupdate : s.updateRecord (fun r => r.effectId = event.effectId && p r) f hf = .ok s₁)
    (hevent : s₁.appendEvent event = .ok s₂) : Moved s row (f row) event s₂ := by
  simp only [updateRecord, eq_ok_iff, not_not] at hupdate
  obtain ⟨hchecked, rfl⟩ := hupdate
  simp only [appendEvent, eq_ok_iff, Table.insert_eq_ok] at hevent
  obtain ⟨events, hinserts, rfl⟩ := hevent
  have hkey := Table.key_of_find hrow
  have hselected : (decide (row.effectId = event.effectId) && p row) = true := by
    rw [hp, Bool.and_true]
    exact decide_eq_true hkey
  refine ⟨hrow, hfrom, hto, hmoves, hclaim row, hchecked row (Table.mem_of_find hrow) hselected,
    fun id => Table.find_rewrite hrow hp f hf id, ?_, hinserts, rfl, rfl, rfl⟩
  rw [Table.update_rows, map_map]
  refine map_congr_left fun r _ => ?_
  rw [Function.comp_apply]
  split
  · exact hclaim r
  · rfl

lemma writtenRecord_of_moved (h : Moved s row new event s')
    (hwritten : s'.writtenRecord event.effectId = .ok record) : record = new := by
  simp only [writtenRecord, eq_ok_iff, checkRecord_eq_ok] at hwritten
  obtain ⟨found, hfound, -, -, rfl⟩ := hwritten
  rw [h.effects, if_pos rfl] at hfound
  exact (Option.some.inj hfound).symm

def startEvent (effectId : String) (startedAtMs : ℕ) : StageEvent :=
  ⟨effectId, some .claimed, .sideEffectStarted,
    .sha256 (.ofList [.text effectId, .num startedAtMs]), startedAtMs⟩

theorem markSideEffectStarted_cases {effectId : String} {startedAtMs : ℕ}
    (h : s.markSideEffectStarted effectId startedAtMs = .ok (record, s')) :
    (s' = s ∧ s.effects.find effectId = some record ∧ record.state = .sideEffectStarted ∧
      record.sideEffectStartedAtMs = some startedAtMs) ∨
    (∃ row, row.state = .claimed ∧ row.claim.claimedAtMs ≤ startedAtMs ∧
      record = row.started startedAtMs ∧
      Moved s row record (startEvent effectId startedAtMs) s') := by
  simp only [markSideEffectStarted, eq_ok_iff] at h
  obtain ⟨row, hrow, h⟩ := h
  split at h
  · next hstarted =>
    simp only [eq_pair_iff, checkRecord_eq_ok, not_not] at h
    obtain ⟨hat, record', ⟨-, -, rfl⟩, rfl, rfl⟩ := h
    exact .inl ⟨rfl, hrow, hstarted, hat⟩
  · simp only [eq_pair_iff, not_or, not_not, not_lt] at h
    obtain ⟨⟨hclaimed, htime⟩, s₁, hupdate, s₂, hevent, record', hwritten, rfl, rfl⟩ := h
    have hmoved : Moved s row (row.started startedAtMs) (startEvent effectId startedAtMs) s₂ := by
      refine moved_of_update (p := fun r => r.state = .claimed)
        (f := started startedAtMs) (fun _ => rfl) hrow (decide_eq_true hclaimed) ?_
        rfl ?_ hupdate hevent
      · rw [hclaimed]
        rfl
      · rw [hclaimed]
        exact .start
    obtain rfl := writtenRecord_of_moved hmoved hwritten
    exact .inr ⟨row, hclaimed, htime, rfl, hmoved⟩

/-- A receipt that is not the stored one. -/
structure Received (s : DeliveryLedger) (row : DeliveryRecord) (receipt : DeliveryReceipt)
    (reconciliation : Bool) (s' : DeliveryLedger) : Prop where
  digest : receipt.hasValidReceiptSha256 = true
  context : sameContext receipt row.claim = true
  different : row.receipt ≠ some receipt
  reconciling : row.state = .reconcileRequired → reconciliation = true
  moved : Moved s row (row.received (receiptTarget row.state receipt.status) receipt)
    ⟨receipt.effectId, some row.state, receiptTarget row.state receipt.status,
      receipt.receiptSha256, receipt.observedAtMs⟩ s'

theorem moves_of_receiptAllowed {receipt : DeliveryReceipt}
    {sideEffectAbsentVerified reconciliation : Bool} (hchecked : row.checked = true)
    (h : receiptAllowed row receipt sideEffectAbsentVerified reconciliation = .ok ()) :
    Moves row.state (receiptTarget row.state receipt.status) ∧
      (row.state = .reconcileRequired → reconciliation = true) := by
  simp only [receiptAllowed, eq_ok_iff] at h
  obtain ⟨-, hreconcile, hstart, -, hstate⟩ := h
  have hreconciling : row.state = .reconcileRequired → reconciliation = true := by
    intro hrequired
    by_contra hnot
    exact hreconcile ⟨hrequired, Bool.eq_false_of_not_eq_true hnot⟩
  refine ⟨?_, hreconciling⟩
  by_cases hclaimed : row.state = .claimed
  · -- A claimed effect has not started, so only a failure is allowed.
    have hnone : row.sideEffectStartedAtMs = none := by
      simp only [checked, hclaimed, Bool.and_eq_true, Option.isNone_iff_eq_none]
        at hchecked
      exact hchecked.2.1.1
    have hfailed : ¬ (receipt.status.succeeded ∨ receipt.status.isAmbiguous) :=
      fun hstatus => hstart ⟨hstatus, hnone⟩
    rw [hclaimed]
    refine .abandon ?_
    cases hstatus : receipt.status with
    | failedRetryable => exact .inl rfl
    | failedFinal => exact .inr rfl
    | channelAccepted | delivered | ambiguous | reconcileRequired =>
      rw [hstatus] at hfailed
      exact absurd (by decide) hfailed
  · by_cases hstarted : row.state = .sideEffectStarted
    · rw [hstarted]
      exact .conclude _
    · have hrequired : row.state = .reconcileRequired := by
        by_contra hnot
        exact hstate ⟨hclaimed, hstarted, hnot⟩
      rw [hrequired]
      exact .reconcile

/-- A receipt repeats the stored one, or it moves its effect. -/
theorem recordReceipt_cases {receipt : DeliveryReceipt}
    {sideEffectAbsentVerified reconciliation : Bool}
    (hchecked : ∀ r ∈ s.effects.rows, r.checked = true)
    (h : s.recordReceipt receipt sideEffectAbsentVerified reconciliation = .ok (record, s')) :
    (s' = s ∧ s.effects.find receipt.effectId = some record ∧ record.receipt = some receipt) ∨
    (∃ row, record = row.received (receiptTarget row.state receipt.status) receipt ∧
      Received s row receipt reconciliation s') := by
  simp only [recordReceipt, eq_ok_iff, checkRecord_eq_ok, Bool.not_eq_false] at h
  obtain ⟨hdigest, row, hrow, record', ⟨-, -, rfl⟩, hcontext, h⟩ := h
  split at h
  · next hstored =>
    cases h
    exact .inl ⟨rfl, hrow, hstored⟩
  · next hdifferent =>
    simp only [eq_pair_iff] at h
    obtain ⟨_, hallowed, s₁, hupdate, s₂, hevent, record', hwritten, rfl, rfl⟩ := h
    obtain ⟨hmoves, hreconciling⟩ :=
      moves_of_receiptAllowed (hchecked row (Table.mem_of_find hrow)) hallowed
    have hselected : (fun r : DeliveryRecord => decide (r.effectId = receipt.effectId)) =
        fun r => decide (r.effectId = receipt.effectId) && true := by
      funext r
      rw [Bool.and_true]
    simp only [hselected] at hupdate
    have hmoved : Moved s row (row.received (receiptTarget row.state receipt.status) receipt)
        ⟨receipt.effectId, some row.state, receiptTarget row.state receipt.status,
          receipt.receiptSha256, receipt.observedAtMs⟩ s₂ :=
      moved_of_update (p := fun _ => true)
        (f := received (receiptTarget row.state receipt.status) receipt)
        (fun _ => rfl) hrow rfl rfl rfl hmoves hupdate hevent
    obtain rfl := writtenRecord_of_moved hmoved hwritten
    exact .inr ⟨row, rfl, hdigest, hcontext, hdifferent, hreconciling, hmoved⟩

/-- The event of an effect whose receipt is missing after a restart. -/
def recoverEvent (effectId : String) (nowMs : ℕ) : StageEvent :=
  ⟨effectId, some .sideEffectStarted, .reconcileRequired,
    .sha256 (.ofList [.text effectId, .text "receipt_missing_after_restart"]), nowMs⟩

lemma recoverOne_moved {nowMs : ℕ} {acc acc' : List DeliveryRecord × DeliveryLedger}
    (hrow : acc.2.effects.find row.effectId = some row) (hstarted : row.state = .sideEffectStarted)
    (h : recoverOne nowMs acc row = .ok acc') :
    Moved acc.2 row (row.recovered nowMs) (recoverEvent row.effectId nowMs) acc'.2 ∧
      acc'.1 = acc.1 ++ [row.recovered nowMs] := by
  simp only [recoverOne, eq_ok_iff] at h
  obtain ⟨-, s₁, hupdate, s₂, hevent, record, hwritten, rfl⟩ := h
  have hmoved : Moved acc.2 row (row.recovered nowMs) (recoverEvent row.effectId nowMs) s₂ := by
    refine moved_of_update (p := fun r => r.state = .sideEffectStarted)
      (f := recovered nowMs) (fun _ => rfl) hrow (decide_eq_true hstarted) ?_ rfl ?_
      hupdate hevent
    · rw [hstarted]
      rfl
    · rw [hstarted]
      exact .conclude .ambiguous
  obtain rfl := writtenRecord_of_moved hmoved hwritten
  exact ⟨hmoved, rfl⟩

lemma recover_keeps {P : DeliveryLedger → Prop} {nowMs : ℕ}
    (hkeep : ∀ s row s', P s → row.state = .sideEffectStarted →
      Moved s row (row.recovered nowMs) (recoverEvent row.effectId nowMs) s' → P s')
    {rows : List DeliveryRecord} {acc acc' : List DeliveryRecord × DeliveryLedger}
    (hP : P acc.2) (hrows : ∀ r ∈ rows, acc.2.effects.find r.effectId = some r ∧
      r.state = .sideEffectStarted) (hnodup : (rows.map (·.effectId)).Nodup)
    (h : rows.foldlM (recoverOne nowMs) acc = .ok acc') : P acc'.2 := by
  induction rows generalizing acc with
  | nil =>
    cases h
    exact hP
  | cons row rows ih =>
    rw [foldlM_cons, bind_eq_ok] at h
    obtain ⟨acc₁, hone, h⟩ := h
    rw [map_cons, nodup_cons] at hnodup
    obtain ⟨hfound, hstarted⟩ := hrows row mem_cons_self
    obtain ⟨hmoved, -⟩ := recoverOne_moved hfound hstarted hone
    refine ih (hkeep _ _ _ hP hstarted hmoved) (fun r hr => ?_) hnodup.2 h
    have hne : r.effectId ≠ (recoverEvent row.effectId nowMs).effectId := by
      intro heq
      exact hnodup.1 (mem_map.mpr ⟨r, hr, heq⟩)
    have hold := hrows r (mem_cons_of_mem _ hr)
    rw [hmoved.effects, if_neg hne]
    exact hold

theorem recoverAmbiguous_keeps {P : DeliveryLedger → Prop} {nowMs : ℕ}
    {records : List DeliveryRecord}
    (hkeep : ∀ s row s', P s → row.state = .sideEffectStarted →
      Moved s row (row.recovered nowMs) (recoverEvent row.effectId nowMs) s' → P s')
    (hP : P s) (h : s.recoverAmbiguous nowMs = .ok (records, s')) : P s' := by
  unfold recoverAmbiguous at h
  refine @recover_keeps P nowMs hkeep _ ([], s) (records, s') hP (fun r hr => ?_) ?_ h
  · obtain ⟨hmem, hstarted⟩ := mem_filter.mp (mem_orderBy.mp hr)
    exact ⟨Table.find_of_mem hmem, of_decide_eq_true hstarted⟩
  · refine ((orderBy_perm _ _).map _).nodup_iff.mpr ?_
    exact s.effects.filter_keys_nodup _

def claimEvent (claim : DeliveryEffectClaim) : StageEvent :=
  ⟨claim.effectId, none, .claimed, claim.claimSha256, claim.claimedAtMs⟩

/-- A new effect with its first event. -/
structure Claimed (s : DeliveryLedger) (claim : DeliveryEffectClaim) (s' : DeliveryLedger) :
    Prop where
  fresh : ∀ r ∈ s.effects.rows, sameEffect r.claim claim = false
  effects : s.effects.Inserts (.ofClaim claim) s'.effects
  events : s.events.Inserts (claimEvent claim) s'.events
  tickets : s'.tickets = s.tickets
  partStages : s'.partStages = s.partStages
  progress : s'.progress = s.progress

theorem claimLocked_cases {claim : DeliveryEffectClaim}
    (h : s.claimLocked claim = .ok (record, s')) :
    (s' = s ∧ record ∈ s.effects.rows ∧ sameEffect record.claim claim = true ∧
      record.claim.stable = claim.stable) ∨
    (Claimed s claim s' ∧ record = .ofClaim claim) := by
  unfold claimLocked at h
  split at h
  · next row others hfilter =>
    simp only [eq_pair_iff, checkRecord_eq_ok, not_not] at h
    obtain ⟨-, record', ⟨-, -, rfl⟩, hstable, rfl, rfl⟩ := h
    have hmem : row ∈ s.effects.rows.filter fun r => sameEffect r.claim claim := by
      rw [hfilter]
      exact mem_cons_self
    obtain ⟨hrow, hsame⟩ := mem_filter.mp hmem
    exact .inl ⟨rfl, hrow, hsame, hstable⟩
  · next hfilter =>
    simp only [eq_pair_iff, appendEvent, Table.insert_eq_ok] at h
    obtain ⟨effects, heffects, s₂, ⟨events, hevents, rfl⟩, record', hwritten, rfl, rfl⟩ := h
    refine .inr ⟨⟨fun r hr => ?_, heffects, hevents, rfl, rfl, rfl⟩, ?_⟩
    · exact Bool.eq_false_of_not_eq_true (filter_eq_nil_iff.mp hfilter r hr)
    · simp only [writtenRecord, eq_ok_iff, checkRecord_eq_ok] at hwritten
      obtain ⟨found, hfound, -, -, rfl⟩ := hwritten
      have hnew := heffects.find claim.effectId
      rw [show (ofClaim claim).effectId = claim.effectId from rfl, if_pos rfl] at hnew
      exact Option.some.inj (hfound.symm.trans hnew)

lemma generationFence_le {requestId runId : String} {generation : ℕ}
    (h : ¬ (s.generationFence requestId runId).any (fun maximum => generation < maximum) = true)
    {t : VerifiedDeliveryTicketFact} (ht : t ∈ s.tickets.rows) (hrequest : t.1.requestId = requestId)
    (hrun : t.1.runId = runId) : t.1.generation ≤ generation := by
  have hmem : t.1.generation ∈ (s.tickets.rows.filter fun t =>
      t.1.requestId = requestId && t.1.runId = runId).map (·.1.generation) := by
    refine mem_map_of_mem (mem_filter.mpr ⟨ht, ?_⟩)
    rw [hrequest, hrun]
    simp
  unfold generationFence at h
  cases hmax : ((s.tickets.rows.filter fun t =>
      t.1.requestId = requestId && t.1.runId = runId).map (·.1.generation)).max? with
  | none =>
    rw [List.max?_eq_none_iff.mp hmax] at hmem
    cases hmem
  | some maximum =>
    rw [hmax] at h
    have hle := (List.max?_eq_some_iff.mp hmax).2 _ hmem
    have hnot : ¬ generation < maximum := by simpa using h
    omega

/-- What `consume_verified_ticket` has checked when it accepts. -/
structure Consumes (s : DeliveryLedger) (verification : VerifiedDeliveryTicketFact)
    (claim : DeliveryEffectClaim) : Prop where
  verificationDigest : verification.1.hasValidSha256 = true
  claimDigest : claim.hasValidSha256 = true
  binds : Binds verification.1 claim
  verifiedAtMs : verification.1.verifiedAtMs = claim.claimedAtMs
  fence : ∀ t ∈ s.tickets.rows, t.1.requestId = verification.1.requestId →
    t.1.runId = verification.1.runId → t.1.generation ≤ verification.1.generation

theorem consumeVerifiedTicket_cases {verification : VerifiedDeliveryTicketFact}
    {claim : DeliveryEffectClaim} {consumption : VerifiedDeliveryConsumption}
    (h : s.consumeVerifiedTicket verification claim = .ok (consumption, s')) :
    Consumes s verification claim ∧
    ((∃ stored ∈ s.tickets.rows, stored.1.stable = verification.1.stable ∧
        sameTicket stored verification = true ∧ consumption.created = false ∧
        s.claimLocked claim = .ok (consumption.delivery, s')) ∨
      (∃ tickets, (∀ t ∈ s.tickets.rows, sameTicket t verification = false) ∧
        s.tickets.Inserts verification tickets ∧ consumption.created = true ∧
        claimLocked claim { s with tickets } = .ok (consumption.delivery, s'))) := by
  unfold consumeVerifiedTicket at h
  simp only [eq_ok_iff, Bool.not_eq_false, not_or, not_not] at h
  obtain ⟨hverification, hclaim, ⟨hsame, htime⟩, hfence, h⟩ := h
  refine ⟨⟨hverification, hclaim, sameDelivery_iff.mp hsame, htime,
    fun t ht hrequest hrun => generationFence_le hfence ht hrequest hrun⟩, ?_⟩
  split at h
  · next row others hfilter =>
    simp only [eq_pair_iff, checkVerification_eq_ok, not_not] at h
    obtain ⟨-, stored, ⟨-, rfl⟩, hstable, ⟨record, s₁⟩, hlocked, rfl, rfl⟩ := h
    have hmem : row ∈ s.tickets.rows.filter fun t => sameTicket t verification := by
      rw [hfilter]
      exact mem_cons_self
    obtain ⟨hrow, hidentity⟩ := mem_filter.mp hmem
    exact .inl ⟨row, hrow, hstable, hidentity, rfl, hlocked⟩
  · next hfilter =>
    simp only [eq_pair_iff, Table.insert_eq_ok] at h
    obtain ⟨tickets, hinserts, ⟨record, s₁⟩, hlocked, rfl, rfl⟩ := h
    refine .inr ⟨tickets, fun t ht => ?_, hinserts, rfl, hlocked⟩
    exact Bool.eq_false_of_not_eq_true (filter_eq_nil_iff.mp hfilter t ht)

end Tiangong.Communication.DeliveryLedger
