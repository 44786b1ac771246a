import Tiangong.DeliveryConclusions

/-!
# Draining a channel

A channel is drained when none of its deliveries is unresolved. Every effect that still awaits a
receipt can be closed by a final failure; an effect that failed for a retry awaits none and stays
unresolved for ever.
-/
open List

namespace Tiangong.Communication

/-- The scope of the effect is one that can be drained. -/
def DeliveryRecord.InScope (r : DeliveryRecord) : Prop :=
  (r.claim.channel = .wechat ∨ r.claim.channel = .feishu) ∧ r.claim.tenantId ≠ "" ∧
    r.claim.linkAccountId ≠ ""

/-- The effect still awaits a receipt. -/
def DeliveryState.awaiting (state : DeliveryState) : Bool :=
  state = .claimed || state = .sideEffectStarted || state = .reconcileRequired

lemma DeliveryState.unresolved_iff {state : DeliveryState} : state.unresolved = true ↔
    state.awaiting = true ∨ state = .failedRetryable := by
  cases state <;> decide

namespace DeliveryLedger

variable {s s' : DeliveryLedger} {calls : List Call} {call : Call} {id : String}
  {r : DeliveryRecord}

/-- No channel scope has an unresolved delivery. -/
def Drained (s : DeliveryLedger) : Prop :=
  ∀ channel tenantId linkAccountId, (channel = .wechat ∨ channel = .feishu) → tenantId ≠ "" →
    linkAccountId ≠ "" → ∃ facts, s.channelDrainFacts channel tenantId linkAccountId = .ok facts ∧
      facts.unresolvedDeliveryCount = 0

/-- A sound ledger reports the facts of every scope that can be drained. -/
lemma Sound.exists_facts (h : s.Sound) {channel : Channel} {tenantId linkAccountId : String}
    (hchannel : channel = .wechat ∨ channel = .feishu) (htenant : tenantId ≠ "")
    (haccount : linkAccountId ≠ "") :
    ∃ facts, s.channelDrainFacts channel tenantId linkAccountId = .ok facts := by
  simp only [channelDrainFacts, bind_eq_ok, pure_eq_ok]
  refine ⟨_, (), rejectIf_of_not _ ?_, (), h.verified, rfl⟩
  rintro (⟨hwechat, hfeishu⟩ | htenant' | haccount')
  · exact hchannel.elim hwechat hfeishu
  · exact htenant htenant'
  · exact haccount haccount'

lemma Sound.drained_iff (h : s.Sound) : s.Drained ↔
    ∀ id r, s.effects.find id = some r → r.InScope → r.state.unresolved = false := by
  constructor
  · rintro hdrained id r hr ⟨hchannel, htenant, haccount⟩
    obtain ⟨facts, hfacts, hzero⟩ := hdrained _ _ _ hchannel htenant haccount
    rw [unresolved_of_facts hfacts] at hzero
    have hmem : r ∈ s.scopeRecords r.claim.channel r.claim.tenantId r.claim.linkAccountId :=
      mem_orderBy.mpr (mem_filter.mpr ⟨Table.mem_of_find hr, by simp⟩)
    exact Bool.eq_false_of_not_eq_true (countP_eq_zero.mp hzero r hmem)
  · intro hresolved channel tenantId linkAccountId hchannel htenant haccount
    obtain ⟨facts, hfacts⟩ := h.exists_facts hchannel htenant haccount
    refine ⟨facts, hfacts, ?_⟩
    rw [unresolved_of_facts hfacts]
    refine countP_eq_zero.mpr fun r hr hunresolved => ?_
    obtain ⟨hmem, hscope⟩ := mem_filter.mp (mem_orderBy.mp hr)
    simp only [holds_iff] at hscope
    obtain ⟨⟨rfl, rfl⟩, rfl⟩ := hscope
    have hfalse := hresolved _ r (Table.find_of_mem hmem) ⟨hchannel, htenant, haccount⟩
    rw [hfalse] at hunresolved
    cases hunresolved

/-- No call changes an effect that failed for a retry. -/
theorem Writes.failedRetryable (h : Writes s call s') (hr : s.effects.find id = some r)
    (hstate : r.state = .failedRetryable) : s'.effects.find id = some r := by
  obtain ⟨r', hr', -⟩ := h.find hr
  rw [hr']
  have hsame : ∀ {row}, s.effects.find id = some row → row = r :=
    fun hrow => Option.some.inj (hrow.symm.trans hr)
  cases h.recordStep hr' with
  | kept hfound => rw [hsame hfound]
  | claimed _ hfresh =>
    rw [hr] at hfresh
    cases hfresh
  | started hfound hclaimed =>
    rw [hsame hfound, hstate] at hclaimed
    cases hclaimed
  | received _ hfound hreceived =>
    have hmoves := hreceived.moved.moves
    rw [hsame hfound, hstate] at hmoves
    cases hmoves
  | recovered hfound hstarted =>
    rw [hsame hfound, hstate] at hstarted
    cases hstarted

lemma failedRetryable_stays (more : List Call) (hr : (after calls).effects.find id = some r)
    (hstate : r.state = .failedRetryable) :
    (after (calls ++ more)).effects.find id = some r := by
  rw [after, Machine.exec_append]
  have hkept : (machine.exec (after calls) more).Sound ∧
      (machine.exec (after calls) more).effects.find id = some r :=
    Machine.exec_preserves (fun s : DeliveryLedger => s.Sound ∧ s.effects.find id = some r)
      (fun s call h => ⟨h.1.step call, (h.1.writes call).failedRetryable h.2 hstate⟩)
      ⟨sound_exec calls, hr⟩ more
  exact hkept.2

/-- The receipt of a delivery that is given up. -/
def finalReceipt (claim : DeliveryEffectClaim) : DeliveryReceipt :=
  failureReceipt "rcp_final" .failedFinal .failedFinal rfl rfl rfl claim

lemma finalReceipt_valid (claim : DeliveryEffectClaim) :
    (finalReceipt claim).hasValidReceiptSha256 = true := by
  simp [DeliveryReceipt.hasValidReceiptSha256, finalReceipt, failureReceipt, failureFields,
    DeliveryReceipt.computedReceiptSha256]

lemma finalReceipt_sameContext (claim : DeliveryEffectClaim) :
    sameContext (finalReceipt claim) claim = true := by
  simp [sameContext, finalReceipt, failureReceipt, failureFields]

lemma receipt_ne_final (hr : (after calls).effects.find id = some r)
    (hawaiting : r.state.awaiting = true) : r.receipt ≠ some (finalReceipt r.claim) := by
  intro hreceipt
  have hchecked := (sound_exec calls).checked r (Table.mem_of_find hr)
  rw [DeliveryRecord.checked, hreceipt, Bool.and_eq_true] at hchecked
  cases hstate : r.state with
  | claimed | sideEffectStarted =>
    rw [hstate] at hchecked
    simp at hchecked
  | reconcileRequired =>
    have hambiguous := reconcileRequired_ambiguous hr hstate _ hreceipt
    cases hambiguous
  | channelAccepted | delivered | failedRetryable | failedFinal | reconciled =>
    rw [hstate] at hawaiting
    cases hawaiting

/-- A final failure closes an effect that awaits a receipt, and no other effect changes. -/
theorem settle (hr : (after calls).effects.find id = some r) (hawaiting : r.state.awaiting = true) :
    ∃ call r', (r'.state = .failedFinal ∨ r'.state = .reconciled) ∧
      ∀ id', (after (calls ++ [call])).effects.find id' =
        if id' = id then some r' else (after calls).effects.find id' := by
  have hid : r.effectId = id := Table.key_of_find hr
  subst hid
  have hfound : (after calls).effects.find (finalReceipt r.claim).effectId = some r := hr
  have hallowed : receiptAllowed r (finalReceipt r.claim) false true = .ok () := by
    have hstatus : (finalReceipt r.claim).status = .failedFinal := rfl
    simp only [DeliveryState.awaiting, Bool.or_eq_true, decide_eq_true_eq] at hawaiting
    have hchecked := (sound_exec calls).checked r (Table.mem_of_find hr)
    simp only [receiptAllowed, eq_ok_iff, hstatus]
    refine ⟨?_, by simp, ?_, by simp, ?_⟩
    · rintro ⟨hsome, hnot⟩
      rcases hawaiting with (hstate | hstate) | hstate
      · simp [DeliveryRecord.checked, hstate, Option.isSome_iff_ne_none.mp hsome] at hchecked
      · simp [DeliveryRecord.checked, hstate, Option.isSome_iff_ne_none.mp hsome] at hchecked
      · simp [hstate] at hnot
    · rintro ⟨hplatform, -⟩
      revert hplatform
      decide
    · rintro ⟨hclaimed, hstarted, hrequired⟩
      rcases hawaiting with (hstate | hstate) | hstate
      · exact hclaimed hstate
      · exact hstarted hstate
      · exact hrequired hstate
  obtain ⟨s', haccepted, hreceived⟩ := (sound_exec calls).receive_accepted hfound
    (finalReceipt_valid _) (finalReceipt_sameContext _) (receipt_ne_final hr hawaiting) hallowed
    (le_refl _)
  have hafter : after (calls ++ [.receive (finalReceipt r.claim) false true]) = s' := by
    rw [after, Machine.exec_concat]
    show (committed _ Answer.record _).1 = s'
    rw [haccepted]
    rfl
  refine ⟨.receive (finalReceipt r.claim) false true,
    r.received (receiptTarget r.state .failedFinal) (finalReceipt r.claim), ?_, fun id' => ?_⟩
  · show receiptTarget r.state .failedFinal = .failedFinal ∨
      receiptTarget r.state .failedFinal = .reconciled
    by_cases hrequired : r.state = .reconcileRequired
    · exact .inr (if_pos hrequired)
    · exact .inl (if_neg hrequired)
  · rw [hafter]
    exact hreceived.moved.effects id'

/-- Final failures close every effect that awaits a receipt, one after the other. -/
lemma settle_all (ids : List String) (calls : List Call)
    (hids : ∀ id r, (after calls).effects.find id = some r → r.state.awaiting = true → id ∈ ids) :
    ∃ more, ∀ id r, (after (calls ++ more)).effects.find id = some r → r.state.awaiting = false ∧
        (r.state = .failedRetryable → (after calls).effects.find id = some r) := by
  induction ids generalizing calls with
  | nil =>
    refine ⟨[], fun id r hr => ?_⟩
    rw [append_nil] at hr
    refine ⟨Bool.eq_false_of_not_eq_true fun hawaiting => ?_, fun _ => hr⟩
    cases hids id r hr hawaiting
  | cons first ids ih =>
    by_cases hfirst : ∃ r, (after calls).effects.find first = some r ∧ r.state.awaiting = true
    · obtain ⟨row, hrow, hawaiting⟩ := hfirst
      obtain ⟨call, row', hclosed, hfind⟩ := settle hrow hawaiting
      obtain ⟨more, hmore⟩ := ih (calls ++ [call]) fun id r hr hopen => by
        rw [hfind] at hr
        split at hr
        · cases hr
          rcases hclosed with hstate | hstate <;> rw [hstate] at hopen <;> cases hopen
        · next hne =>
          exact (mem_cons.mp (hids id r hr hopen)).resolve_left hne
      refine ⟨call :: more, fun id r hr => ?_⟩
      rw [append_cons] at hr
      obtain ⟨hresolved, hretry⟩ := hmore id r hr
      refine ⟨hresolved, fun hstate => ?_⟩
      have hold := hretry hstate
      rw [hfind] at hold
      split at hold
      · cases hold
        rcases hclosed with hfinal | hfinal <;> rw [hfinal] at hstate <;> cases hstate
      · exact hold
    · refine ih calls fun id r hr hawaiting => ?_
      refine (mem_cons.mp (hids id r hr hawaiting)).resolve_left ?_
      rintro rfl
      exact hfirst ⟨r, hr, hawaiting⟩

/-- From the state after any run, some further calls drain every channel scope, exactly when no
effect of such a scope has failed for a retry. -/
theorem exec_drainable (calls : List Call) : (∃ more, (after (calls ++ more)).Drained) ↔
    ∀ id r, (after calls).effects.find id = some r → r.InScope → r.state ≠ .failedRetryable := by
  constructor
  · rintro ⟨more, hdrained⟩ id r hr hscope hstate
    have hkept := failedRetryable_stays more hr hstate
    have hresolved := (sound_exec _).drained_iff.mp hdrained id r hkept hscope
    rw [hstate] at hresolved
    cases hresolved
  · intro h
    obtain ⟨more, hmore⟩ := settle_all ((after calls).effects.rows.map (·.effectId)) calls
      fun id r hr _ => by
        have hid : r.effectId = id := Table.key_of_find hr
        exact mem_map.mpr ⟨r, Table.mem_of_find hr, hid⟩
    refine ⟨more, (sound_exec _).drained_iff.mpr fun id r hr hscope => ?_⟩
    obtain ⟨hawaiting, hretry⟩ := hmore id r hr
    refine Bool.eq_false_of_not_eq_true fun hunresolved => ?_
    rcases DeliveryState.unresolved_iff.mp hunresolved with hopen | hstate
    · rw [hawaiting] at hopen
      cases hopen
    · exact h id r (hretry hstate) hscope hstate

/-- A claimed delivery that failed before it started and may be retried. -/
def retryLater : List Call :=
  [.consume (sampleVerification "1" 0) (sampleClaim "1" 0),
    .receive (failureReceipt "rcp_1" .failedRetryable .failedRetryable rfl rfl rfl
      (sampleClaim "1" 0)) false false]

lemma retryLater_failed : ((after retryLater).effects.find "eff_1").map
    (fun r => (r.state, r.claim)) = some (.failedRetryable, sampleClaim "1" 0) := by
  decide

/-- Whatever is called afterwards, the channel of that delivery is never drained. -/
theorem retryLater_never_drained : ¬ ∃ more, (after (retryLater ++ more)).Drained := by
  rintro ⟨more, hdrained⟩
  obtain ⟨r, hr, hfailed⟩ := Option.map_eq_some_iff.mp retryLater_failed
  obtain ⟨hstate, hclaim⟩ := Prod.mk.inj hfailed
  have hscope : r.InScope := by
    rw [DeliveryRecord.InScope, hclaim]
    decide
  have hkept := failedRetryable_stays more hr hstate
  have hresolved := (sound_exec _).drained_iff.mp hdrained _ r hkept hscope
  rw [hstate] at hresolved
  cases hresolved

end DeliveryLedger

end Tiangong.Communication
