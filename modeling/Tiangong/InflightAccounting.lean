import Tiangong.EffectSteps

/-!
# The in-flight count of the action fence

The count is the number of dispatch permits on the fact chain without a release row. Most
operations do not touch permits at all; the others issue one permit for an attempt that has
none, or give back one that is still out.
-/
open List

namespace Tiangong

namespace EffectStore

/-- The permits are accounted for: one per attempt, never for an attempt that can still be
dispatched, released only if issued, and counted by the fence while they are out. -/
structure Accounted (s : EffectStore) : Prop where
  permits_nodup : s.permits.Nodup
  permit_attempt : ∀ k ∈ s.permits, ∃ a, s.effectAttempts.find k = some a ∧ a.state ≠ .claimed
  release_permit : ∀ k, s.released k = true → k ∈ s.permits
  inflight_eq : s.actionFence.inflightCount = s.openPermits.length

/-- A step that issues and releases no permit and reopens no attempt for dispatch. -/
structure Quiet (s s' : EffectStore) : Prop where
  permits : s'.permits = s.permits
  releases : s'.dispatchPermitRelease = s.dispatchPermitRelease
  inflight : s'.actionFence.inflightCount = s.actionFence.inflightCount
  attempts : ∀ k a, s.effectAttempts.find k = some a → a.state ≠ .claimed →
    ∃ a', s'.effectAttempts.find k = some a' ∧ a'.state ≠ .claimed

variable {s s' s'' : EffectStore}

theorem Quiet.refl (s : EffectStore) : Quiet s s :=
  ⟨rfl, rfl, rfl, fun _ a h ha => ⟨a, h, ha⟩⟩

theorem Quiet.trans (h : Quiet s s') (h' : Quiet s' s'') : Quiet s s'' where
  permits := h'.permits.trans h.permits
  releases := h'.releases.trans h.releases
  inflight := h'.inflight.trans h.inflight
  attempts k a ha hstate := by
    obtain ⟨a', ha', hstate'⟩ := h.attempts k a ha hstate
    exact h'.attempts k a' ha' hstate'

theorem Quiet.openPermits (h : Quiet s s') : s'.openPermits = s.openPermits := by
  simp only [EffectStore.openPermits, released, h.permits, h.releases]

lemma Accounted.of_quiet (hs : s.Accounted) (h : Quiet s s') : s'.Accounted where
  permits_nodup := h.permits ▸ hs.permits_nodup
  permit_attempt k hk := by
    obtain ⟨a, ha, hstate⟩ := hs.permit_attempt k (h.permits ▸ hk)
    exact h.attempts k a ha hstate
  release_permit k hk := by
    rw [released, h.releases] at hk
    exact h.permits ▸ hs.release_permit k hk
  inflight_eq := by rw [h.inflight, h.openPermits, hs.inflight_eq]

lemma permits_withFact (s : EffectStore) (f : EffectFact) :
    (s.withFact f).permits = if f.factKind = .dispatchPermit then f.key :: s.permits
      else s.permits := by
  by_cases h : f.factKind = .dispatchPermit <;> simp [permits, withFact, h]

theorem Quiet.withFact {f : EffectFact} (h : Quiet s s') (hf : f.factKind ≠ .dispatchPermit) :
    Quiet s (s'.withFact f) :=
  h.trans
    { permits := by rw [permits_withFact, if_neg hf]
      releases := rfl
      inflight := rfl
      attempts := fun _ a ha hstate => ⟨a, ha, hstate⟩ }

/-- An attempt that cannot be dispatched stays so when no rewritten row becomes claimed. -/
lemma find_update_ne_claimed {attempts : Table EffectAttempt.key}
    {selected : EffectAttempt → Bool} {f : EffectAttempt → EffectAttempt}
    (hf : ∀ a, (f a).key = a.key) (hstate : ∀ a, (f a).state ≠ .claimed) {k : String × ℕ}
    {a : EffectAttempt} (ha : attempts.find k = some a) (hclaimed : a.state ≠ .claimed) :
    ∃ a', (attempts.update selected f hf).find k = some a' ∧ a'.state ≠ .claimed := by
  refine ⟨_, by rw [Table.find_update, ha]; rfl, ?_⟩
  by_cases hs : selected a
  · simpa [hs] using hstate a
  · simpa [hs] using hclaimed

/-- Rewriting attempts is quiet when no rewritten row becomes claimed. -/
lemma quiet_updateAttempts (ledger : Table EffectRow.effectId)
    {selected : EffectAttempt → Bool} {f : EffectAttempt → EffectAttempt}
    {hf : ∀ a, (f a).key = a.key} (hstate : ∀ a, (f a).state ≠ .claimed) :
    Quiet s { s with
      effectLedger := ledger, effectAttempts := s.effectAttempts.update selected f hf } where
  permits := rfl
  releases := rfl
  inflight := rfl
  attempts _ _ ha hclaimed := find_update_ne_claimed hf hstate ha hclaimed

lemma quiet_insertAttempt (ledger : Table EffectRow.effectId) {a : EffectAttempt}
    {attempts : Table EffectAttempt.key} (h : s.effectAttempts.Inserts a attempts) :
    Quiet s { s with effectLedger := ledger, effectAttempts := attempts } where
  permits := rfl
  releases := rfl
  inflight := rfl
  attempts _ a' ha' hstate := ⟨a', h.find_of_some ha', hstate⟩

lemma toAttemptState_ne_claimed (status : EffectStatus) : status.toAttemptState ≠ .claimed := by
  cases status <;> decide

lemma attemptState_ne_claimed (verdict : Verdict) : verdict.attemptState ≠ .claimed := by
  cases verdict <;> decide

lemma quiet_finished (s : EffectStore) (result : EffectResult) (record : EffectRow) :
    Quiet s (s.finished result record) :=
  (quiet_updateAttempts _ fun _ => toAttemptState_ne_claimed _).withFact (by simp [nextFact])

section Release

variable {key : String × ℕ} {releasedBy : String} {nowMs : ℕ}

lemma released_of_release (h : s.release key releasedBy nowMs = .ok s') (k : String × ℕ) :
    s'.released k = (decide (k = key) || s.released k) := by
  obtain ⟨rows, hrows, rfl⟩ := release_eq_ok.mp h
  simp only [released, hrows.find]
  by_cases hk : key = k
  · subst hk; simp [PermitRelease.key]
  · simp [PermitRelease.key, hk, Ne.symm hk]

lemma openPermits_of_release (hs : s.Accounted) (h : s.release key releasedBy nowMs = .ok s') :
    s'.openPermits = s.openPermits.erase key := by
  have hnodup : s.openPermits.Nodup := hs.permits_nodup.filter _
  have hpermits : s'.permits = s.permits := by
    obtain ⟨rows, -, rfl⟩ := release_eq_ok.mp h
    rfl
  rw [hnodup.erase_eq_filter]
  simp only [openPermits, hpermits, filter_filter]
  apply filter_congr
  intro k _
  rw [released_of_release h k]
  by_cases hk : k = key <;> simp [hk]

/-- Giving back a permit that is out lowers the count by that permit and no other. -/
theorem Accounted.release (hs : s.Accounted) (hopen : key ∈ s.openPermits)
    (h : s.release key releasedBy nowMs = .ok s') : s'.Accounted := by
  have hopens := openPermits_of_release hs h
  have hreleased := released_of_release h
  obtain ⟨rows, -, rfl⟩ := release_eq_ok.mp h
  refine ⟨hs.permits_nodup, hs.permit_attempt, ?_, ?_⟩
  · intro k hk
    rw [hreleased, Bool.or_eq_true, decide_eq_true_eq] at hk
    rcases hk with rfl | hk
    · exact (mem_filter.mp hopen).1
    · exact hs.release_permit k hk
  · rw [hopens, length_erase_of_mem hopen, ActionFence.giveBack_inflight, hs.inflight_eq]

lemma openPermitOf_mem {effectId : String} {attempt : ℕ}
    (h : s.openPermitOf effectId = some attempt) : (effectId, attempt) ∈ s.openPermits := by
  have hmem := List.min?_mem h
  simp only [mem_map, mem_filter, decide_eq_true_eq] at hmem
  obtain ⟨⟨e, n⟩, ⟨hopen, rfl⟩, rfl⟩ := hmem
  exact hopen

lemma mem_openPermits_of_not_released {k : String × ℕ} (hpermit : k ∈ s.permits)
    (hopen : s.released k = false) : k ∈ s.openPermits := by
  simp [openPermits, hpermit, hopen]

end Release

section Operations

variable {env : Surroundings}

lemma quiet_claimEffect {claim : EffectClaim} {reply : EffectRow × Bool}
    (h : claimEffect env claim s = .ok (reply, s')) : Quiet s s' := by
  obtain ⟨-, rfl, -⟩ | ⟨-, -, -, ledger, attempts, -, hattempts, rfl⟩ := claimEffect_cases h
  · exact .refl _
  · exact (quiet_insertAttempt _ hattempts).withFact (by simp [nextFact])

variable {result : EffectResult}

lemma quiet_admitSubEffect {claim : EffectClaim} {startedAtMs : ℕ}
    {response : Option Canon} {nonces : List NonceRow} {binding : AdmissionBinding}
    {expected : Option ℕ} {reply : EffectRow × Bool × Option Canon}
    (h : admitSubEffect claim result startedAtMs response nonces binding expected s =
      .ok (reply, s')) : Quiet s s' := by
  obtain rfl | ⟨ledger, attempts, nonceRows, -, hattempts, f₁, f₂, f₃, -, h₁, h₂, h₃, rfl⟩ :=
    admitSubEffect_cases h
  · exact .refl _
  · have hinsert : Quiet s { s with effectLedger := ledger, effectAttempts := attempts } :=
      quiet_insertAttempt _ hattempts
    have hfacts := ((hinsert.withFact (f := f₃) (by simp [h₃])).withFact (f := f₂)
      (by simp [h₂])).withFact (f := f₁) (by simp [h₁])
    exact ⟨hfacts.permits, hfacts.releases, hfacts.inflight, hfacts.attempts⟩

variable {effectId : String} {row : EffectRow}

lemma quiet_markEffectStarted {startedAtMs : ℕ}
    (h : markEffectStarted env effectId startedAtMs s = .ok (row, s')) : Quiet s s' := by
  obtain ⟨rfl, -⟩ | ⟨record, -, -, -, -, -, rfl⟩ := markEffectStarted_cases h
  · exact .refl _
  · exact (quiet_updateAttempts _ fun _ => by simp).withFact (by simp [nextFact])

variable {attempt : ℕ}

lemma quiet_recordEffectReconciliation {verdict : Verdict}
    {evidence : Canon} {observedAtMs : ℕ} {reply : ReconciliationReply}
    (h : recordEffectReconciliation effectId attempt verdict evidence observedAtMs s =
      .ok (reply, s')) : Quiet s s' := by
  obtain ⟨rfl, -⟩ | ⟨row, s₁, -, hs₁, rfl⟩ := recordEffectReconciliation_cases h
  · exact .refl _
  · have hfirst : Quiet s s₁ ∧ s₁.effectLedger = s.effectLedger ∧
        s₁.effectAttempts = s.effectAttempts := by
      rcases hs₁ with ⟨rfl, -⟩ | ⟨rfl, -⟩
      · exact ⟨.refl s₁, rfl, rfl⟩
      · exact ⟨(Quiet.refl s).withFact (by simp [nextFact]), rfl, rfl⟩
    obtain ⟨hquiet, hledger, hattempts⟩ := hfirst
    have hupdate : Quiet s { s with
        effectAttempts := s.effectAttempts.update (fun a => a.key = (effectId, attempt))
          (fun a => { a with state := verdict.attemptState }) fun _ => rfl } :=
      quiet_updateAttempts _ fun _ => attemptState_ne_claimed verdict
    have hfact := hquiet.withFact (f := s₁.nextFact effectId attempt .reconciliation
      (some verdict) (.reconciliation verdict evidence) observedAtMs) (by simp [nextFact])
    exact ⟨hfact.permits, hfact.releases, hfact.inflight, hupdate.attempts⟩

lemma quiet_continueEffectAfterPna {oldAttempt nowMs n : ℕ}
    (h : continueEffectAfterPna effectId oldAttempt nowMs s = .ok (n, s')) : Quiet s s' := by
  obtain ⟨old, attempts, -, -, -, hinsert, rfl⟩ := continueEffectAfterPna_cases h
  have hfence : Quiet s { s with
      effectAttempts := s.effectAttempts.update
        (fun a => a.key = (effectId, oldAttempt) && a.state = .reconcileRequired)
        (fun a => { a with
          state := .fenced, terminalAtMs := some nowMs, terminalKind := some .fenced })
        fun _ => rfl } :=
    quiet_updateAttempts _ fun _ => by simp
  exact (hfence.trans (quiet_insertAttempt _ hinsert)).withFact (by simp [nextFact])

lemma quiet_incrementActionFence (reason : String) (nowMs : ℕ) (s : EffectStore) :
    Quiet s (incrementActionFence reason nowMs s).2 :=
  ⟨rfl, rfl, rfl, fun _ a ha hstate => ⟨a, ha, hstate⟩⟩

lemma quiet_recoverStartedAttempt {nowMs : ℕ} {row : EffectAttempt} {key : String × ℕ}
    (h : recoverStartedAttempt nowMs row s = .ok (key, s')) : Quiet s s' := by
  obtain ⟨createdAtMs, rfl⟩ := recoverStartedAttempt_cases h
  exact (quiet_updateAttempts _ fun _ => by simp).withFact (by simp [nextFact])

lemma quiet_recoverStartedAttempts (nowMs : ℕ) (excluded : Exclusions) (s : EffectStore) :
    Quiet s (recoverStartedAttempts nowMs excluded s).2 := by
  unfold recoverStartedAttempts
  split
  · exact .refl _
  · exact forEach_preserves (P := Quiet s)
      (fun _ _ _ _ _ hs h => hs.trans (quiet_recoverStartedAttempt h)) (.refl s)

lemma completeEffect_quiet_or_release {expected : Option EffectState} {releasePermit : Bool}
    (h : completeEffect result expected releasePermit s = .ok (row, s')) :
    Quiet s s' ∨ ∃ s₁ attempt, Quiet s s₁ ∧ (result.effectId, attempt) ∈ s₁.openPermits ∧
      s₁.release (result.effectId, attempt) "effect_receipt" result.observedAtMs = .ok s' := by
  obtain ⟨rfl, -⟩ | ⟨record, -, -, -, -, -, -, rfl | ⟨attempt, hopen, hrelease⟩⟩ :=
    completeEffect_cases h
  · exact .inl (.refl s')
  · exact .inl (quiet_finished s result record)
  · exact .inr ⟨_, attempt, quiet_finished s result record, openPermitOf_mem hopen, hrelease⟩

/-- An explicit release changes nothing, or gives back the open permit it names. -/
lemma releaseDispatchPermit_quiet_or_release {nowMs : ℕ} {u : Unit}
    (h : releaseDispatchPermit effectId attempt nowMs s = .ok (u, s')) :
    s' = s ∨ ((effectId, attempt) ∈ s.openPermits ∧
      s.release (effectId, attempt) "explicit_release" nowMs = .ok s') := by
  obtain ⟨hpermit, ⟨rfl, -⟩ | ⟨hopen, hrelease⟩⟩ := releaseDispatchPermit_cases h
  · exact .inl rfl
  · exact .inr ⟨mem_openPermits_of_not_released hpermit hopen, hrelease⟩

/-- A dispatch issues a permit its attempt never had, so the count grows with the permits. -/
theorem Accounted.acquireDispatchPermit (hs : s.Accounted)
    {expected : ℕ} {nonce : String} {ticketId ticketSha256 grantSha256 : Option String}
    {scope : Option DispatchScope} {nowMs epoch : ℕ}
    (h : acquireDispatchPermit env effectId attempt expected nonce ticketId ticketSha256
      grantSha256 scope nowMs s = .ok (epoch, s')) :
    s'.Accounted ∧ s'.openPermits = (effectId, attempt) :: s.openPermits := by
  obtain ⟨row, head, ledger, hrow, hclaimed, -, -, -, -, f₁, f₂, -, hk₁, hkey₂, hk₂, hs'⟩ :=
    acquireDispatchPermit_cases h
  have hattempts : s'.effectAttempts = dispatchedAttempts s.effectAttempts (effectId, attempt)
      nonce ticketId ticketSha256 grantSha256 nowMs := by rw [hs']
  have hreleases : s'.dispatchPermitRelease = s.dispatchPermitRelease := by rw [hs']
  have hinflight : s'.actionFence.inflightCount = s.actionFence.inflightCount + 1 := by rw [hs']
  have hpermits : s'.permits = (effectId, attempt) :: s.permits := by
    rw [hs']
    simp [permits, hk₁, hk₂, hkey₂]
  have hfresh : (effectId, attempt) ∉ s.permits := by
    intro hk
    obtain ⟨a, ha, hstate⟩ := hs.permit_attempt _ hk
    rw [getEffectAttempt, ha] at hrow
    cases hrow
    exact hstate hclaimed
  have hunreleased : s.released (effectId, attempt) = false := by
    cases hr : s.released (effectId, attempt) with
    | false => rfl
    | true => exact absurd (hs.release_permit _ hr) hfresh
  have hopens : s'.openPermits = (effectId, attempt) :: s.openPermits := by
    have : s'.released = s.released := by
      funext k
      rw [released, hreleases, released]
    rw [openPermits, hpermits, this, filter_cons_of_pos (by simp [hunreleased])]
    rfl
  refine ⟨⟨?_, ?_, ?_, ?_⟩, hopens⟩
  · rw [hpermits]
    exact nodup_cons.mpr ⟨hfresh, hs.permits_nodup⟩
  · rw [hpermits, hattempts]
    intro k hk
    rcases mem_cons.mp hk with rfl | hk
    · refine ⟨dispatchedAttempt nonce ticketId ticketSha256 grantSha256 nowMs row, ?_,
        by simp [dispatchedAttempt]⟩
      rw [getEffectAttempt] at hrow
      rw [dispatchedAttempts, Table.find_update, hrow]
      simp only [Option.map_some, Table.key_of_find hrow, hclaimed, decide_true, Bool.and_self,
        if_true]
    · obtain ⟨a, ha, hstate⟩ := hs.permit_attempt k hk
      exact find_update_ne_claimed _ (fun _ => by simp [dispatchedAttempt]) ha hstate
  · intro k hk
    rw [released, hreleases] at hk
    exact hpermits ▸ mem_cons_of_mem _ (hs.release_permit k hk)
  · rw [hinflight, hopens, length_cons, hs.inflight_eq]

/-- The effects whose permits an operation may issue or give back. -/
def touchesPermits (s : EffectStore) (effectId : String) : EffectOp → Prop
  | .acquireDispatchPermit _ id .. => id = effectId
  | .completeEffect result .. => result.effectId = effectId
  | .releaseDispatchPermit id .. => id = effectId
  | .recoverTerminalDispatchPermits pipelineVersion _ =>
    ∃ a ∈ s.effectAttempts.rows, a.effectId = effectId ∧ a.pipelineVersion = some pipelineVersion ∧
      a.state ∈ [.succeeded, .failedFinal, .ambiguous, .reconciled]
  | .recoverStartedEffects _ excluded =>
    s.getEffectHeadState effectId = some .sideEffectStarted ∧ effectId ∉ excluded.effectIds
  | _ => False

/-- The state is accounted for, and the effects in `keep` hold the permits they held in `s`. -/
def KeepsPermits (keep : String → Prop) (s s' : EffectStore) : Prop :=
  s'.Accounted ∧ ∀ k : String × ℕ, keep k.1 → (k ∈ s'.openPermits ↔ k ∈ s.openPermits)

variable {keep : String → Prop}

theorem KeepsPermits.refl (hs : s.Accounted) : KeepsPermits keep s s :=
  ⟨hs, fun _ _ => Iff.rfl⟩

theorem KeepsPermits.quiet (h : KeepsPermits keep s s') (hq : Quiet s' s'') :
    KeepsPermits keep s s'' :=
  ⟨h.1.of_quiet hq, fun k hk => by rw [hq.openPermits, h.2 k hk]⟩

theorem KeepsPermits.release (h : KeepsPermits keep s s') {key : String × ℕ} {by_ : String}
    {nowMs : ℕ} (hother : ¬ keep key.1) (hopen : key ∈ s'.openPermits)
    (hrelease : s'.release key by_ nowMs = .ok s'') : KeepsPermits keep s s'' := by
  refine ⟨h.1.release hopen hrelease, fun k hk => ?_⟩
  have hne : k ≠ key := by
    rintro rfl
    exact hother hk
  rw [openPermits_of_release h.1 hrelease, mem_erase_of_ne hne, h.2 k hk]

theorem KeepsPermits.completeEffect (h : KeepsPermits keep s s')
    {expected : Option EffectState} {releasePermit : Bool}
    (hother : ¬ keep result.effectId)
    (hc : EffectStore.completeEffect result expected releasePermit s' = .ok (row, s'')) :
    KeepsPermits keep s s'' := by
  rcases completeEffect_quiet_or_release hc with hq | ⟨s₁, attempt, hq, hopen, hrelease⟩
  · exact h.quiet hq
  · exact (h.quiet hq).release hother hopen hrelease

theorem KeepsPermits.releaseDispatchPermit (h : KeepsPermits keep s s')
    {nowMs : ℕ} {u : Unit} (hother : ¬ keep effectId)
    (hc : EffectStore.releaseDispatchPermit effectId attempt nowMs s' = .ok (u, s'')) :
    KeepsPermits keep s s'' := by
  rcases releaseDispatchPermit_quiet_or_release hc with rfl | ⟨hopen, hrelease⟩
  · exact h
  · exact h.release hother hopen hrelease

lemma step_keepsPermits (hs : s.Accounted) (op : EffectOp) :
    KeepsPermits (fun e => ¬ s.touchesPermits e op) s (effectMachine.step s op).1 := by
  have hsame : KeepsPermits (fun e => ¬ s.touchesPermits e op) s s := .refl hs
  cases op with
  | claimEffect env claim =>
    exact committed_fst hsame fun _ _ h => hsame.quiet (quiet_claimEffect h)
  | admitSubEffect claim result startedAtMs response nonces binding expected =>
    exact committed_fst hsame fun _ _ h => hsame.quiet (quiet_admitSubEffect h)
  | markEffectStarted env effectId startedAtMs =>
    exact committed_fst hsame fun _ _ h => hsame.quiet (quiet_markEffectStarted h)
  | acquireDispatchPermit env effectId attempt expected nonce ticketId ticketSha256 grantSha256
      scope nowMs =>
    refine committed_fst hsame fun _ _ h => ?_
    obtain ⟨hs', hopens⟩ := hs.acquireDispatchPermit h
    refine ⟨hs', fun k hk => ?_⟩
    have hne : k ≠ (effectId, attempt) := by
      rintro rfl
      exact hk rfl
    rw [hopens, mem_cons]
    exact or_iff_right hne
  | completeEffect result expected releasePermit =>
    exact committed_fst hsame fun _ _ h => hsame.completeEffect (fun hk => hk rfl) h
  | releaseDispatchPermit effectId attempt nowMs =>
    exact committed_fst hsame fun _ _ h => hsame.releaseDispatchPermit (fun hk => hk rfl) h
  | recoverTerminalDispatchPermits pipelineVersion nowMs =>
    change KeepsPermits _ s (recoverTerminalDispatchPermits pipelineVersion nowMs s).2
    unfold recoverTerminalDispatchPermits
    split
    · exact hsame
    · refine forEach_preserves ?_ hsame
      intro a ha s₁ u s₂ hs₁ h
      refine hs₁.releaseDispatchPermit (fun hk => hk ?_) h
      rw [mem_orderBy, mem_filter] at ha
      simp only [holds_iff] at ha
      exact ⟨a, ha.1, rfl, ha.2.1.1.1, ha.2.1.1.2⟩
  | recoverStartedAttempts nowMs excluded =>
    exact hsame.quiet (quiet_recoverStartedAttempts nowMs excluded s)
  | recoverStartedEffects nowMs excluded =>
    change KeepsPermits _ s (recoverStartedEffects nowMs excluded s).2
    have hattempts := hsame.quiet (quiet_recoverStartedAttempts nowMs excluded s)
    have hledger := recoverStartedAttempts_ledger nowMs excluded s
    unfold recoverStartedEffects
    generalize recoverStartedAttempts nowMs excluded s = recovered at hattempts hledger ⊢
    obtain ⟨_ | _, s₁⟩ := recovered
    · exact hattempts
    · refine forEach_preserves ?_ hattempts
      intro r hr s₂ row s₃ hs₂ h
      refine hs₂.completeEffect (fun hk => hk ?_) h
      simp only [mem_filter, mem_orderBy, Bool.not_eq_true', Bool.or_eq_false_iff,
        decide_eq_false_iff_not, decide_eq_true_eq] at hr
      obtain ⟨⟨hmem, hstate⟩, -, hexcluded⟩ := hr
      have hfind := Table.find_of_mem hmem
      rw [show s₁.effectLedger = s.effectLedger from hledger] at hfind
      rw [recoveredResult_effectId]
      refine ⟨?_, hexcluded⟩
      rw [getEffectHeadState, getEffect, hfind]
      exact congrArg some hstate
  | recordEffectReconciliation effectId attempt verdict evidence observedAtMs =>
    exact committed_fst hsame fun _ _ h => hsame.quiet (quiet_recordEffectReconciliation h)
  | continueEffectAfterPna effectId oldAttempt nowMs =>
    exact committed_fst hsame fun _ _ h => hsame.quiet (quiet_continueEffectAfterPna h)
  | incrementActionFence reason nowMs =>
    exact hsame.quiet (quiet_incrementActionFence reason nowMs s)

end Operations

lemma init_accounted : init.Accounted where
  permits_nodup := by simp [permits, init]
  permit_attempt := by simp [permits, init]
  release_permit := by simp [released, init]
  inflight_eq := by simp [openPermits, permits, init]

lemma reachable_accounted (ops : List EffectOp) : (effectMachine.exec init ops).Accounted :=
  Machine.exec_preserves Accounted (fun _ op hs => (step_keepsPermits hs op).1) init_accounted ops

/-- In every reachable state the fence counts exactly the issued permits without a release row,
it declares zero traffic only when none is out, and no operation changes the permits of an effect
it is not about. -/
theorem inflight_accounting (ops : List EffectOp) : let s := effectMachine.exec init ops
    s.actionFence.inflightCount = s.openPermits.length ∧ s.permits.Nodup ∧
      (s.actionFenceStatus.zeroTrafficDeclared = true → s.openPermits = []) ∧
      ∀ op e n, ¬ s.touchesPermits e op →
        ((e, n) ∈ (effectMachine.step s op).1.openPermits ↔ (e, n) ∈ s.openPermits) := by
  have hs := reachable_accounted ops
  refine ⟨hs.inflight_eq, hs.permits_nodup, ?_, ?_⟩
  · intro hzero
    simp only [actionFenceStatus, holds_iff] at hzero
    exact length_eq_zero_iff.mp (hs.inflight_eq ▸ hzero.1.2)
  · intro op e n hother
    exact (step_keepsPermits hs op).2 (e, n) hother

end EffectStore

end Tiangong
