import Tiangong.DeliverySoundness

/-!
# How the effects of the delivery ledger advance

Every move raises the rank of the state that an effect is in, so no state is entered twice and the
event of a move is always new. A sound ledger therefore accepts every start and every receipt that
its rules allow, and a call does one thing to the row of an effect.
-/
open List

namespace Tiangong.Communication

open DeliveryState

/-- How far an effect has come. -/
def DeliveryState.rank : DeliveryState → ℕ
  | .claimed => 0
  | .sideEffectStarted => 1
  | .reconcileRequired => 2
  | .channelAccepted | .delivered | .failedRetryable | .failedFinal | .reconciled => 3

variable {status : ReceiptStatus}

theorem ReceiptStatus.conclusive_iff : status.isAmbiguous = false ↔
    status ∈ [.channelAccepted, .delivered, .failedRetryable, .failedFinal] := by
  cases status <;> decide

theorem DeliveryState.ofStatus_of_ambiguous
    (h : status.isAmbiguous = true) : ofStatus status = .reconcileRequired := by
  cases status with
  | ambiguous | reconcileRequired => rfl
  | channelAccepted | delivered | failedRetryable | failedFinal => cases h

theorem DeliveryState.ofStatus_ne_reconciled (status : ReceiptStatus) :
    ofStatus status ≠ .reconciled := by
  cases status <;> decide

/-- Only an ambiguous status stands for an open outcome. -/
theorem DeliveryState.ambiguous_of_ofStatus
    (h : ofStatus status = .reconcileRequired) : status.isAmbiguous = true := by
  cases status with
  | ambiguous | reconcileRequired => rfl
  | channelAccepted | delivered | failedRetryable | failedFinal => cases h

theorem DeliveryState.rank_ofStatus (status : ReceiptStatus) :
    1 < (ofStatus status).rank := by
  cases status <;> decide

namespace DeliveryLedger

variable {s s' s₁ s₂ : DeliveryLedger} {row new record : DeliveryRecord} {event : StageEvent}
  {call : Call}

variable {state : DeliveryState}

theorem Moves.rank_lt {state' : DeliveryState} (h : Moves state state') :
    state.rank < state'.rank := by
  cases h with
  | start => decide
  | @abandon status hstatus =>
    have := rank_ofStatus status
    exact Nat.lt_trans Nat.zero_lt_one this
  | conclude status => exact rank_ofStatus status
  | reconcile => decide

/-- The events that follow a state lead upwards, and none beyond the last state. -/
lemma rank_of_linked {current : DeliveryState} {events : List StageEvent}
    (hlinked : Linked StageEvent.fromState (fun e => some e.toState) (some current) events)
    (hend : logEnd (fun e : StageEvent => some e.toState) (some current) events = some state)
    (hallowed : ∀ e ∈ events, EventAllowed e) :
    current.rank ≤ state.rank ∧ ∀ e ∈ events, e.toState.rank ≤ state.rank := by
  induction events generalizing current with
  | nil =>
    cases hend
    exact ⟨le_refl _, fun e he => by cases he⟩
  | cons event events ih =>
    obtain ⟨hfrom, hrest⟩ := hlinked
    rw [logEnd_cons] at hend
    obtain ⟨hle, hevents⟩ := ih hrest hend fun e he => hallowed e (mem_cons_of_mem _ he)
    have hmoves := hallowed event mem_cons_self
    rw [EventAllowed, hfrom, Option.elim_some] at hmoves
    have hlt := hmoves.rank_lt
    refine ⟨by omega, fun e he => ?_⟩
    rcases mem_cons.mp he with rfl | he
    · exact hle
    · exact hevents e he

/-- No event of an effect leads beyond its state. -/
lemma Chained.rank_le {chain : List StageEvent} (h : Chained state chain) :
    ∀ e ∈ chain, e.toState.rank ≤ state.rank := by
  cases chain with
  | nil =>
    intro e he
    cases he
  | cons first events =>
    have hend := h.ends
    rw [logEnd_cons] at hend
    obtain ⟨hle, hevents⟩ := rank_of_linked h.linked.2 hend fun e he =>
      h.allowed e (mem_cons_of_mem _ he)
    intro e he
    rcases mem_cons.mp he with rfl | he
    · exact hle
    · exact hevents e he

theorem DeliveryState.canon_inj {state' : DeliveryState} (h : state.canon = state'.canon) :
    state = state' := by
  cases state <;> cases state' <;> first | rfl | (revert h; decide)

/-- The event of a move is new. -/
lemma Sound.event_fresh (h : s.Sound) (hrow : s.effects.find event.effectId = some row)
    (hrank : row.state.rank < event.toState.rank) : s.events.find event.eventId = none := by
  refine Table.find_eq_none.mpr fun e he hid => ?_
  simp only [StageEvent.eventId, Canon.ident_inj, Canon.ofList, Canon.cons.injEq,
    Canon.text.injEq, true_and, and_true] at hid
  obtain ⟨heffect, hstate, -⟩ := hid
  have hmem : e ∈ s.eventChain event.effectId :=
    mem_filter.mpr ⟨he, decide_eq_true heffect⟩
  have hle := (h.histories.chained _ row hrow).rank_le e hmem
  rw [DeliveryState.canon_inj hstate] at hle
  omega

/-- A sound ledger rewrites the row of an effect when the new row is whole and further on. -/
lemma Sound.exists_moved (h : s.Sound) {p : DeliveryRecord → Bool}
    {f : DeliveryRecord → DeliveryRecord} (hf : ∀ r, (f r).effectId = r.effectId)
    (hrow : s.effects.find event.effectId = some row) (hchecked : (f row).checked = true)
    (hrank : row.state.rank < event.toState.rank) :
    ∃ s₁ s₂, s.updateRecord (fun r => r.effectId = event.effectId && p r) f hf = .ok s₁ ∧
      s₁.appendEvent event = .ok s₂ := by
  obtain ⟨events, hevents⟩ := Table.exists_insert (h.event_fresh hrow hrank)
    (⟨.integrity, "delivery_stage_events.event_id"⟩ : LedgerError)
  let s₁ := { s with effects := s.effects.update (fun r => r.effectId = event.effectId && p r) f hf }
  refine ⟨s₁, { s₁ with events }, ?_, ?_⟩
  · simp only [updateRecord, eq_ok_iff, not_not]
    refine ⟨fun r hr hselected => ?_, rfl⟩
    rw [Bool.and_eq_true, decide_eq_true_eq] at hselected
    have hfound := Table.find_of_mem hr
    rw [hselected.1, hrow] at hfound
    cases hfound
    exact hchecked
  · simp only [appendEvent, bind_eq_ok]
    exact ⟨events, hevents, rfl⟩

variable {id : String}

/-- A sound ledger reads the row of an effect back. -/
theorem Sound.writtenRecord (h : s.Sound) (hrow : s.effects.find id = some row) :
    s.writtenRecord id = .ok row := by
  simp only [DeliveryLedger.writtenRecord, eq_ok_iff, checkRecord_eq_ok]
  exact ⟨row, hrow, h.authority.claimDigests _ (mem_claims (Table.mem_of_find hrow)),
    h.histories.receipts _ row hrow, rfl⟩

/-- A claimed effect can start at any time after its claim. -/
theorem Sound.start_accepted (h : s.Sound) {effectId : String} {startedAtMs : ℕ}
    (hrow : s.effects.find effectId = some row) (hclaimed : row.state = .claimed)
    (htime : row.claim.claimedAtMs ≤ startedAtMs) :
    ∃ s', s.markSideEffectStarted effectId startedAtMs = .ok (row.started startedAtMs, s') ∧
      Moved s row (row.started startedAtMs) (startEvent effectId startedAtMs) s' := by
  have hchecked : (row.started startedAtMs).checked = true := by
    have hold := h.checked row (Table.mem_of_find hrow)
    rw [DeliveryRecord.checked, hclaimed] at hold
    simp only [Bool.and_eq_true] at hold
    simp only [DeliveryRecord.checked, DeliveryRecord.started, htime, decide_true, Option.isSome_some,
      hold.2.1.2, hold.2.2, Bool.and_true]
  have hrank : row.state.rank < (startEvent effectId startedAtMs).toState.rank := by
    rw [hclaimed]
    exact Nat.zero_lt_one
  obtain ⟨s₁, s₂, hupdate, hevent⟩ := @Sound.exists_moved s row (startEvent effectId startedAtMs) h
    (fun r => r.state = .claimed) (DeliveryRecord.started startedAtMs)
    (DeliveryRecord.effectId_started startedAtMs) hrow hchecked hrank
  have hmoves : Moves row.state (row.started startedAtMs).state := by
    rw [hclaimed]
    exact .start
  have hmoved : Moved s row (row.started startedAtMs) (startEvent effectId startedAtMs) s₂ := by
    refine moved_of_update (p := fun r => r.state = .claimed)
      (f := DeliveryRecord.started startedAtMs) (fun _ => rfl) hrow (decide_eq_true hclaimed) ?_
      rfl hmoves hupdate hevent
    rw [hclaimed]
    rfl
  have hreceipts := h.histories.receipts _ row hrow
  have hsound := @Sound.moved s s₂ h row (row.started startedAtMs) _ hreceipts hmoved
  have hfound : s₂.effects.find effectId = some (row.started startedAtMs) := by
    rw [hmoved.effects]
    exact if_pos rfl
  refine ⟨s₂, ?_, hmoved⟩
  simp only [markSideEffectStarted, eq_ok_iff]
  refine ⟨row, hrow, ?_⟩
  rw [if_neg (by rw [hclaimed]; decide)]
  simp only [eq_ok_iff, not_or, not_not, not_lt]
  exact ⟨⟨hclaimed, htime⟩, s₁, hupdate, s₂, hevent, _, hsound.writtenRecord hfound, rfl⟩

/-- A receipt that the rules allow is recorded. -/
theorem Sound.receive_accepted (h : s.Sound) {receipt : DeliveryReceipt}
    {sideEffectAbsentVerified reconciliation : Bool}
    (hrow : s.effects.find receipt.effectId = some row)
    (hdigest : receipt.hasValidReceiptSha256 = true)
    (hcontext : sameContext receipt row.claim = true) (hdifferent : row.receipt ≠ some receipt)
    (hallowed : receiptAllowed row receipt sideEffectAbsentVerified reconciliation = .ok ())
    (htime : row.claim.claimedAtMs ≤ receipt.observedAtMs) :
    ∃ s', s.recordReceipt receipt sideEffectAbsentVerified reconciliation =
        .ok (row.received (receiptTarget row.state receipt.status) receipt, s') ∧
      Received s row receipt reconciliation s' := by
  have hold := h.checked row (Table.mem_of_find hrow)
  obtain ⟨hmoves, hreconciling⟩ := moves_of_receiptAllowed hold hallowed
  have hchecked : (row.received (receiptTarget row.state receipt.status) receipt).checked =
      true := by
    have hstarted : receiptTarget row.state receipt.status = .reconcileRequired →
        row.sideEffectStartedAtMs.isSome = true ∧ receipt.errorCode.isSome = true := by
      intro htarget
      have hambiguous : receipt.status.isAmbiguous = true := by
        refine ambiguous_of_ofStatus ?_
        rw [receiptTarget] at htarget
        split at htarget
        · cases htarget
        · exact htarget
      simp only [receiptAllowed, eq_ok_iff] at hallowed
      refine ⟨?_, ?_⟩
      · rw [Option.isSome_iff_ne_none]
        exact fun hnone => hallowed.2.2.1 ⟨.inr hambiguous, hnone⟩
      · rw [receipt.error_iff]
        revert hambiguous
        cases receipt.status <;> decide
    have hrank := hmoves.rank_lt
    simp only [DeliveryRecord.checked, DeliveryRecord.received, htime, decide_true, Bool.true_and]
    cases htarget : receiptTarget row.state receipt.status with
    | claimed =>
      rw [htarget] at hrank
      exact absurd hrank (Nat.not_lt_zero _)
    | sideEffectStarted =>
      rw [receiptTarget] at htarget
      split at htarget
      · cases htarget
      · have := rank_ofStatus receipt.status
        rw [htarget] at this
        exact absurd this (by decide)
    | reconcileRequired => simp [hstarted htarget]
    | channelAccepted | delivered | failedRetryable | failedFinal | reconciled => rfl
  let event : StageEvent := ⟨receipt.effectId, some row.state,
    receiptTarget row.state receipt.status, receipt.receiptSha256, receipt.observedAtMs⟩
  obtain ⟨s₁, s₂, hupdate, hevent⟩ := @Sound.exists_moved s row event h (fun _ => true)
    (DeliveryRecord.received (receiptTarget row.state receipt.status) receipt)
    (DeliveryRecord.effectId_received _ _) hrow hchecked hmoves.rank_lt
  have hmoved := moved_of_update (p := fun _ => true)
    (f := DeliveryRecord.received (receiptTarget row.state receipt.status) receipt)
    (fun _ => rfl) hrow rfl rfl rfl hmoves hupdate hevent
  have hsound : s₂.Sound := by
    refine h.moved (fun stored hstored => ?_) hmoved
    cases hstored
    exact hdigest
  have hfound : s₂.effects.find receipt.effectId =
      some (row.received (receiptTarget row.state receipt.status) receipt) := by
    rw [hmoved.effects]
    exact if_pos rfl
  have hselected : (fun r : DeliveryRecord => decide (r.effectId = receipt.effectId)) =
      fun r => decide (r.effectId = receipt.effectId) && true := by
    funext r
    rw [Bool.and_true]
  refine ⟨s₂, ?_, hdigest, hcontext, hdifferent, hreconciling, hmoved⟩
  simp only [recordReceipt, eq_ok_iff, checkRecord_eq_ok, Bool.not_eq_false]
  refine ⟨hdigest, row, hrow, row, ⟨h.authority.claimDigests _
    (mem_claims (Table.mem_of_find hrow)), h.histories.receipts _ row hrow, rfl⟩, hcontext, ?_⟩
  rw [if_neg hdifferent]
  simp only [eq_ok_iff, hselected]
  exact ⟨(), hallowed, s₁, hupdate, s₂, hevent, _, hsound.writtenRecord hfound, rfl⟩

/-- What a call writes of the tickets and the effects. -/
inductive Writes (s : DeliveryLedger) : Call → DeliveryLedger → Prop where
  | kept {call : Call} {s' : DeliveryLedger} (effects : s'.effects = s.effects)
      (tickets : s'.tickets = s.tickets) : Writes s call s'
  | consumed {verification : VerifiedDeliveryTicketFact} {claim : DeliveryEffectClaim}
      {s' : DeliveryLedger} (consumes : Consumes s verification claim)
      (consumed : Consumed s verification claim s') : Writes s (.consume verification claim) s'
  | started {id : String} {startedAtMs : ℕ} {row : DeliveryRecord} {s' : DeliveryLedger}
      (claimed : row.state = .claimed)
      (moved : Moved s row (row.started startedAtMs) (startEvent id startedAtMs) s') :
      Writes s (.start id startedAtMs) s'
  | received {receipt : DeliveryReceipt} {absent reconciliation : Bool} {row : DeliveryRecord}
      {s' : DeliveryLedger} (received : Received s row receipt reconciliation s') :
      Writes s (.receive receipt absent reconciliation) s'
  | recovered {nowMs : ℕ} {records : List DeliveryRecord} {s' : DeliveryLedger}
      (recovered : s.recoverAmbiguous nowMs = .ok (records, s')) : Writes s (.recover nowMs) s'

theorem Sound.writes (h : s.Sound) (call : Call) : Writes s call (machine.step s call).1 := by
  have hkept : Writes s call s := .kept rfl rfl
  cases call with
  | require payload => exact hkept
  | consume verification claim =>
    refine committed_fst hkept fun _ s' hstep => ?_
    obtain ⟨hconsumes, ⟨rfl, -⟩ | ⟨hconsumed, -⟩⟩ := h.authority.consume_cases hstep
    · exact hkept
    · exact .consumed hconsumes hconsumed
  | start effectId startedAtMs =>
    refine committed_fst hkept fun _ s' hstep => ?_
    rcases markSideEffectStarted_cases hstep with ⟨rfl, -⟩ | ⟨row, hclaimed, -, rfl, hmoved⟩
    · exact hkept
    · exact .started hclaimed hmoved
  | receive receipt absent reconciliation =>
    refine committed_fst hkept fun _ s' hstep => ?_
    rcases recordReceipt_cases h.checked hstep with ⟨rfl, -⟩ | ⟨row, -, hreceived⟩
    · exact hkept
    · exact .received hreceived
  | recover nowMs => exact committed_fst hkept fun _ s' hstep => .recovered hstep
  | stage fact =>
    refine committed_fst hkept fun _ s' hstep => ?_
    obtain ⟨-, rfl | ⟨-, -, -, -, partStages, -, rfl⟩⟩ := recordPartStage_cases hstep
    · exact hkept
    · exact .kept rfl rfl
  | progress fact =>
    refine committed_fst hkept fun _ s' hstep => ?_
    obtain ⟨-, rfl | ⟨-, -, -, progress, -, rfl⟩⟩ := recordTransferProgress_cases hstep
    · exact hkept
    · exact .kept rfl rfl

/-- What a call leaves of the row of an effect. -/
inductive RecordStep (s : DeliveryLedger) (id : String) : Call → DeliveryRecord → Prop where
  | kept {call : Call} {row : DeliveryRecord} (found : s.effects.find id = some row) :
      RecordStep s id call row
  | claimed {verification : VerifiedDeliveryTicketFact} {claim : DeliveryEffectClaim}
      (effectId : claim.effectId = id) (fresh : s.effects.find id = none)
      (consumes : Consumes s verification claim) :
      RecordStep s id (.consume verification claim) (.ofClaim claim)
  | started {startedAtMs : ℕ} {row : DeliveryRecord} (found : s.effects.find id = some row)
      (claimed : row.state = .claimed) : RecordStep s id (.start id startedAtMs)
        (row.started startedAtMs)
  | received {receipt : DeliveryReceipt} {absent reconciliation : Bool} {row : DeliveryRecord}
      {s' : DeliveryLedger} (effectId : receipt.effectId = id) (found : s.effects.find id = some row)
      (received : Received s row receipt reconciliation s') :
      RecordStep s id (.receive receipt absent reconciliation)
        (row.received (receiptTarget row.state receipt.status) receipt)
  | recovered {nowMs : ℕ} {row : DeliveryRecord} (found : s.effects.find id = some row)
      (started : row.state = .sideEffectStarted) :
      RecordStep s id (.recover nowMs) (row.recovered nowMs)

variable {r : DeliveryRecord}

lemma Moved.find_cases (h : Moved s row new event s') (hr : s'.effects.find id = some r) :
    (id = event.effectId ∧ r = new) ∨ s.effects.find id = some r := by
  rw [h.effects] at hr
  split at hr
  · next hid => exact .inl ⟨hid, (Option.some.inj hr).symm⟩
  · exact .inr hr

lemma recoverAmbiguous_find {nowMs : ℕ} {records : List DeliveryRecord}
    (h : s.recoverAmbiguous nowMs = .ok (records, s')) :
    ∀ id r, s'.effects.find id = some r → s.effects.find id = some r ∨
      ∃ row, s.effects.find id = some row ∧ row.state = .sideEffectStarted ∧
        r = row.recovered nowMs := by
  refine recoverAmbiguous_keeps (s := s) (P := fun s₁ => ∀ id r, s₁.effects.find id = some r →
    s.effects.find id = some r ∨ ∃ row, s.effects.find id = some row ∧
      row.state = .sideEffectStarted ∧ r = row.recovered nowMs) ?_ (fun _ _ => .inl) h
  intro s₁ row s₂ hP hstarted hmoved id r hr
  rcases hmoved.find_cases hr with ⟨rfl, rfl⟩ | hr
  · -- A recovered effect is not recovered twice.
    rcases hP _ row hmoved.found with hrow | ⟨row', -, -, rfl⟩
    · exact .inr ⟨row, hrow, hstarted, rfl⟩
    · cases hstarted
  · exact hP id r hr

theorem Writes.recordStep (h : Writes s call s')
    (hr : s'.effects.find id = some r) : RecordStep s id call r := by
  cases h with
  | kept heffects =>
    rw [heffects] at hr
    exact .kept hr
  | consumed hconsumes hconsumed =>
    rw [hconsumed.effects.find] at hr
    split at hr
    · next hid =>
      cases hr
      exact .claimed hid (hid ▸ hconsumed.effects.fresh) hconsumes
    · exact .kept hr
  | started hclaimed hmoved =>
    rcases hmoved.find_cases hr with ⟨rfl, rfl⟩ | hr
    · exact .started hmoved.found hclaimed
    · exact .kept hr
  | received hreceived =>
    rcases hreceived.moved.find_cases hr with ⟨rfl, rfl⟩ | hr
    · exact .received rfl hreceived.moved.found hreceived
    · exact .kept hr
  | recovered hrecovered =>
    rcases recoverAmbiguous_find hrecovered id r hr with hr | ⟨row, hrow, hstarted, rfl⟩
    · exact .kept hr
    · exact .recovered hrow hstarted

/-- Nothing but a consumed ticket adds a claim, and no claim goes. -/
theorem Writes.claims (h : Writes s call s') : ∃ more, s'.claims = s.claims ++ more := by
  cases h with
  | kept heffects => exact ⟨[], by rw [DeliveryLedger.claims, heffects, append_nil]; rfl⟩
  | @consumed _ claim _ _ hconsumed =>
    refine ⟨[claim], ?_⟩
    rw [DeliveryLedger.claims, hconsumed.effects.rows, map_append]
    rfl
  | started _ hmoved => exact ⟨[], hmoved.claims.trans (append_nil _).symm⟩
  | received hreceived => exact ⟨[], hreceived.moved.claims.trans (append_nil _).symm⟩
  | recovered hrecovered =>
    refine recoverAmbiguous_keeps (P := fun s₁ => ∃ more, s₁.claims = s.claims ++ more) ?_
      ⟨[], (append_nil _).symm⟩ hrecovered
    rintro s₁ row s₂ ⟨more, hmore⟩ - hmoved
    exact ⟨more, hmoved.claims.trans hmore⟩

/-- An effect never disappears, and its claim never changes. -/
theorem Writes.find (h : Writes s call s') (hr : s.effects.find id = some r) :
    ∃ r', s'.effects.find id = some r' ∧ r'.claim = r.claim := by
  obtain ⟨more, hmore⟩ := h.claims
  have hclaim : r.claim ∈ s'.claims := by
    rw [hmore]
    exact mem_append_left _ (mem_claims (Table.mem_of_find hr))
  obtain ⟨r', hr', hsame⟩ := find_of_claim hclaim
  have hid : r.effectId = id := Table.key_of_find hr
  exact ⟨r', hid ▸ hr', hsame⟩

end DeliveryLedger

end Tiangong.Communication
