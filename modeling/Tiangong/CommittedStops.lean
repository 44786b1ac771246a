import Tiangong.ConcludedEffects
import Tiangong.RepairSteps

/-!
# A committed stop

A stop advances the epoch of the action fence. The operations that start a side effect ask for epoch
zero, so none of them starts anything once a stop was committed, and the activation that ends the
drain does not lower the epoch again. An admission asks only for the epoch its caller names, and for
none when the caller names none: it still records a succeeded effect behind the fence.
-/
namespace Tiangong

/-- The single row of `execution_contract_epoch`. -/
structure ContractEpochRow where
  contractEpoch : String
  activatedAtMs : ℕ
  fenceEpochAtActivation : ℕ
  nonterminalDisposition : List Canon
  receiptSha256 : Canon
  deriving DecidableEq, Repr

/-- The effect and repair tables with the execution contract. -/
structure FenceStore where
  repair : RepairStore
  executionContractEpoch : Option ContractEpochRow

namespace FenceStore

abbrev effects (s : FenceStore) : EffectStore := s.repair.effects

def withFence (s : FenceStore) (fence : ActionFence) : FenceStore :=
  { s with repair := { s.repair with effects := { s.effects with actionFence := fence } } }

/-- The digest of the receipt that an activation answers. -/
def contractReceipt (contractEpoch : String) (dispositions : List Canon) : Canon :=
  .sha256 (.ofList [.text "tiangong.gateway.execution-contract-epoch.v1", .text contractEpoch,
    .ofList dispositions])

/-- The attempts that block an activation. -/
def nonterminal (s : FenceStore) : ℕ :=
  s.effects.effectAttempts.rows.countP fun a =>
    a.state ∉ [AttemptState.succeeded, .failedFinal, .reconciled, .fenced]

def endDrain (nowMs : ℕ) (fence : ActionFence) : ActionFence :=
  if fence.inflightCount = 0 then { fence with draining := false, updatedAtMs := nowMs } else fence

def activateExecutionContractEpoch (contractEpoch : String) (dispositions : List Canon)
    (nowMs : ℕ) (s : FenceStore) : Except StoreError (Canon × FenceStore) := do
  let digest := contractReceipt contractEpoch dispositions
  let fence := s.effects.actionFence
  rejectIf (fence.actionFenceEpoch = 0)
    (.conflict "execution contract cutover requires an active fence first")
  rejectIf (fence.inflightCount ≠ 0)
    (.conflict "execution contract cutover requires drained inflight")
  rejectIf (s.nonterminal ≠ 0)
    (.conflict ("execution contract cutover has " ++ toString s.nonterminal ++
      " effects without disposition"))
  match s.executionContractEpoch with
  | some row => do
    rejectIf (row.contractEpoch ≠ contractEpoch ∨ row.receiptSha256 ≠ digest)
      (.conflict "execution contract epoch already activated differently")
    pure (digest, s)
  | none =>
    pure (digest, { s.withFence (endDrain nowMs fence) with
      executionContractEpoch :=
        some ⟨contractEpoch, nowMs, fence.actionFenceEpoch, dispositions, digest⟩ })

@[simp] theorem endDrain_epoch (nowMs : ℕ) (fence : ActionFence) :
    (endDrain nowMs fence).actionFenceEpoch = fence.actionFenceEpoch := by
  unfold endDrain
  split <;> rfl

/-- An activation writes nothing or ends the drain. -/
lemma activateExecutionContractEpoch_cases {contractEpoch : String} {dispositions : List Canon}
    {nowMs : ℕ} {digest : Canon} {s s' : FenceStore}
    (h : s.activateExecutionContractEpoch contractEpoch dispositions nowMs = .ok (digest, s')) :
    s' = s ∨
      s'.effects = { s.effects with actionFence := endDrain nowMs s.effects.actionFence } := by
  simp only [activateExecutionContractEpoch, eq_ok_iff] at h
  obtain ⟨-, -, -, h⟩ := h
  cases hrow : s.executionContractEpoch with
  | some row =>
    simp only [hrow, eq_ok_iff] at h
    obtain ⟨-, ⟨⟩⟩ := h
    exact .inl rfl
  | none =>
    simp only [hrow, pure_eq_ok] at h
    cases h
    exact .inr rfl

end FenceStore

/-- The calls that can claim, admit, start or stop a side effect. -/
inductive FenceOp where
  | claimEffect (env : Surroundings) (claim : EffectClaim)
  | admitSubEffect (claim : EffectClaim) (result : EffectResult) (startedAtMs : ℕ)
      (receiptResponse : Option Canon) (nonces : List NonceRow) (binding : AdmissionBinding)
      (expectedFenceEpoch : Option ℕ)
  | markEffectStarted (env : Surroundings) (effectId : String) (startedAtMs : ℕ)
  | acquireDispatchPermit (env : Surroundings) (effectId : String) (attempt : ℕ)
      (expectedFenceEpoch : ℕ) (nonceSha256 : String)
      (ticketId ticketSha256 grantSha256 : Option String) (scope : Option DispatchScope)
      (nowMs : ℕ)
  | startRepairExecution (env : Surroundings) (repairDirectiveId : Canon) (effectId : String)
      (startedAtMs : ℕ) (dispatchClaimId : String) (expectedClaimRevision : ℕ)
  | continueEffectAfterPna (effectId : String) (oldAttempt nowMs : ℕ)
  | activateExecutionContractEpoch (contractEpoch : String) (dispositions : List Canon)
      (nowMs : ℕ)
  | incrementActionFence (reason : String) (nowMs : ℕ)

inductive FenceReply where
  | repair (reply : RepairReply)
  | receipt (digest : Canon)
  deriving DecidableEq

/-- A call on the effect and repair tables. -/
def FenceStore.onRepair (s : FenceStore) (op : RepairOp) :
    FenceStore × Except RepairError FenceReply :=
  let (repair, reply) := repairMachine.step s.repair op
  ({ s with repair := repair }, reply.map .repair)

def fenceMachine : Machine FenceStore FenceOp (Except RepairError FenceReply) where
  step s
    | .claimEffect env claim => s.onRepair (.effect (.claimEffect env claim))
    | .admitSubEffect claim result startedAtMs response nonces binding expected =>
      s.onRepair (.effect
        (.admitSubEffect claim result startedAtMs response nonces binding expected))
    | .markEffectStarted env effectId startedAtMs =>
      s.onRepair (.effect (.markEffectStarted env effectId startedAtMs))
    | .acquireDispatchPermit env effectId attempt expected nonce ticketId ticketSha256 grantSha256
        scope nowMs =>
      s.onRepair (.effect (.acquireDispatchPermit env effectId attempt expected nonce ticketId
        ticketSha256 grantSha256 scope nowMs))
    | .startRepairExecution env id effectId startedAtMs claimId revision =>
      s.onRepair (.start env id effectId startedAtMs claimId revision)
    | .continueEffectAfterPna effectId oldAttempt nowMs =>
      s.onRepair (.effect (.continueEffectAfterPna effectId oldAttempt nowMs))
    | .activateExecutionContractEpoch contractEpoch dispositions nowMs =>
      committed s .receipt
        (liftStore (s.activateExecutionContractEpoch contractEpoch dispositions nowMs))
    | .incrementActionFence reason nowMs =>
      s.onRepair (.effect (.incrementActionFence reason nowMs))

namespace EffectStore

def startFacts (s : EffectStore) : List EffectFact :=
  s.effectFacts.filter fun f => f.factKind = .started || f.factKind = .dispatchPermit

def getAttemptState (s : EffectStore) (effectId : String) (attempt : ℕ) : Option AttemptState :=
  (s.getEffectAttempt effectId attempt).map (·.state)

/-- Between the two tables no side effect was started and none was recorded as succeeded. -/
structure StartsNothing (s s' : EffectStore) : Prop where
  facts : s'.startFacts = s.startFacts
  effects : ∀ effectId, s'.getEffectHeadState effectId = some .sideEffectStarted →
    s.getEffectHeadState effectId = some .sideEffectStarted
  attempts : ∀ effectId attempt, s'.getAttemptState effectId attempt = some .sideEffectStarted →
      s.getAttemptState effectId attempt = some .sideEffectStarted
  succeeded : ∀ effectId, s.getEffect effectId = none →
    s'.getEffectHeadState effectId ≠ some .succeeded

/-- An admission with these arguments inserts a new effect. -/
structure AdmitsAnew (claim : EffectClaim) (result : EffectResult) (startedAtMs : ℕ)
    (receiptResponse : Option Canon) (nonces : List NonceRow) (binding : AdmissionBinding)
    (expectedFenceEpoch : Option ℕ) (s : EffectStore) : Prop where
  claimDigest : claim.hasValidSha256 = true
  resultDigest : result.hasValidSha256 = true
  bound : result.effectId = claim.effectId
  succeeded : result.status = .succeeded
  timeline : claim.claimedAtMs ≤ startedAtMs ∧ startedAtMs ≤ result.observedAtMs
  noncesFit : ∀ n ∈ nonces, n.wellFormed = true
  bindingComplete : binding.ticketId.isNone = binding.ticketSha256.isNone
  /-- The caller names no epoch, or the one the fence has. -/
  epoch : ∀ epoch, expectedFenceEpoch = some epoch → s.actionFence.actionFenceEpoch = epoch
  effectFree : s.effectLedger.find claim.effectId = none
  ticketFree : binding.ticketId.isSome = true →
    ∀ a ∈ s.effectAttempts.rows, a.ticketId ≠ binding.ticketId
  attemptFree : s.effectAttempts.find (claim.effectId, claim.attempt) = none
  claimFactFree : ∀ f ∈ s.effectFacts, f.key = (claim.effectId, claim.attempt) →
    f.factKind = .claim → f.payload ≠ .claim claim s.actionFence.actionFenceEpoch
  startedFactFree : ∀ f ∈ s.effectFacts, f.key = (claim.effectId, claim.attempt) →
    f.factKind = .started → f.payload ≠ .sideEffectStarted startedAtMs none
  receiptFactFree : ∀ f ∈ s.effectFacts, f.key = (claim.effectId, claim.attempt) →
    f.factKind = .receipt → f.payload ≠ .receipt result receiptResponse
  noncesFree : ∃ table, insertNonces s.securityNonceLedger nonces = .ok table

end EffectStore

namespace FenceOp

def isStop : FenceOp → Bool
  | .incrementActionFence .. => true
  | _ => false

/-- The call admits an effect that has no row yet. -/
def AdmitsAnew (s : FenceStore) : FenceOp → Prop
  | .admitSubEffect claim result startedAtMs response nonces binding expected =>
    EffectStore.AdmitsAnew claim result startedAtMs response nonces binding expected s.effects
  | _ => False

end FenceOp

/-- After a stop no call starts a side effect or records a new one, and the epoch of the fence never
decreases. -/
structure StopIsFinal (s : FenceStore) (ops : List FenceOp) : Prop where
  nothing : ∀ pre op post, ops = pre ++ op :: post → (∃ stop ∈ pre, stop.isStop = true) →
    EffectStore.StartsNothing (fenceMachine.exec s pre).effects
      (fenceMachine.step (fenceMachine.exec s pre) op).1.effects
  epoch : ∀ pre op post, ops = pre ++ op :: post →
    (fenceMachine.exec s pre).effects.actionFence.actionFenceEpoch ≤
      (fenceMachine.step (fenceMachine.exec s pre) op).1.effects.actionFence.actionFenceEpoch

namespace EffectStore

variable {s s' : EffectStore}

theorem StartsNothing.refl (s : EffectStore) : StartsNothing s s where
  facts := rfl
  effects := fun _ h => h
  attempts := fun _ _ h => h
  succeeded := by
    intro effectId h
    simp [getEffectHeadState, h]

lemma startsNothing_of_eq (h : s' = s) : StartsNothing s s' := by
  rw [h]
  exact .refl s

/-- Tables that differ in their fence only have started the same. -/
lemma startsNothing_withFence (s : EffectStore) (fence : ActionFence) :
    StartsNothing s { s with actionFence := fence } where
  facts := rfl
  effects := fun _ h => h
  attempts := fun _ _ h => h
  succeeded := (StartsNothing.refl s).succeeded

lemma startFacts_withFact {f : EffectFact} (hclaim : f.factKind = .claim) :
    (s.withFact f).startFacts = s.startFacts := by
  simp [startFacts, withFact, hclaim]

variable {claim : EffectClaim}

lemma startsNothing_claimEffect {env : Surroundings}
    {reply : EffectRow × Bool} (h : claimEffect env claim s = .ok (reply, s')) :
    StartsNothing s s' := by
  obtain ⟨row, fresh⟩ := reply
  rcases claimEffect_cases h with
    ⟨-, hsame, -⟩ | ⟨-, -, hfree, ledger, attempts, hledger, hattempts, rfl⟩
  · exact startsNothing_of_eq hsame
  have hhead : ∀ effectId, ledger.find effectId =
      if claim.effectId = effectId then some ⟨claim, .claimed⟩
      else s.effectLedger.find effectId := hledger.find
  constructor
  · exact startFacts_withFact rfl
  · intro effectId hstarted
    have hfind : (ledger.find effectId).map (·.state) = some .sideEffectStarted := hstarted
    rw [hhead] at hfind
    split at hfind
    · cases hfind
    · exact hfind
  · intro effectId attempt hstarted
    have hfind : (attempts.find (effectId, attempt)).map (·.state) = some .sideEffectStarted :=
      hstarted
    rw [hattempts.find] at hfind
    split at hfind
    · cases hfind
    · exact hfind
  · intro effectId hnone hsucceeded
    have hfind : (ledger.find effectId).map (·.state) = some .succeeded := hsucceeded
    have hold : s.effectLedger.find effectId = none := hnone
    rw [hhead] at hfind
    split at hfind
    · cases hfind
    · rw [hold] at hfind
      cases hfind

variable {startedAtMs : ℕ}

/-- Behind a fence a start only repeats an earlier one. -/
lemma markEffectStarted_fenced {env : Surroundings} {effectId : String}
    {row : EffectRow} (hepoch : s.actionFence.actionFenceEpoch ≠ 0)
    (h : markEffectStarted env effectId startedAtMs s = .ok (row, s')) : s' = s := by
  rcases markEffectStarted_cases h with ⟨hsame, -, -⟩ | ⟨_, -, -, -, hzero, -, -⟩
  · exact hsame
  · exact absurd hzero hepoch

/-- A continuation closes one attempt and reserves another. -/
lemma startsNothing_continueEffectAfterPna {effectId : String} {oldAttempt nowMs n : ℕ}
    (h : continueEffectAfterPna effectId oldAttempt nowMs s = .ok (n, s')) :
    StartsNothing s s' := by
  obtain ⟨old, attempts, -, -, -, hinsert, rfl⟩ := continueEffectAfterPna_cases h
  constructor
  · exact startFacts_withFact rfl
  · intro id hstarted
    exact hstarted
  · intro id attempt hstarted
    have hfind : (attempts.find (id, attempt)).map (·.state) = some .sideEffectStarted := hstarted
    rw [hinsert.find] at hfind
    split at hfind
    · cases hfind
    rw [Table.find_update] at hfind
    cases hold : s.effectAttempts.find (id, attempt) with
    | none =>
      rw [hold] at hfind
      cases hfind
    | some a =>
      rw [hold, Option.map_some, Option.map_some] at hfind
      split at hfind
      · cases hfind
      · simp only [getAttemptState, getEffectAttempt, hold]
        exact hfind
  · exact (StartsNothing.refl s).succeeded

/-- An admission repeats an earlier answer or inserts a new effect. -/
lemma anew_of_admitSubEffect {result : EffectResult}
    {receiptResponse : Option Canon} {nonces : List NonceRow} {binding : AdmissionBinding}
    {expected : Option ℕ} {reply : EffectRow × Bool × Option Canon}
    (h : admitSubEffect claim result startedAtMs receiptResponse nonces binding expected s =
      .ok (reply, s')) :
    s' = s ∨ AdmitsAnew claim result startedAtMs receiptResponse nonces binding expected s := by
  simp only [admitSubEffect, eq_ok_iff] at h
  obtain ⟨hclaim, hresult, hbound, hsucceeded, htime, hnonces, hbinding, hepoch, h⟩ := h
  cases hfind : s.effectLedger.find claim.effectId with
  | some record =>
    simp only [hfind, eq_ok_iff] at h
    obtain ⟨-, -, ⟨⟩⟩ := h
    exact .inl rfl
  | none =>
    simp only [hfind, eq_ok_iff, Table.insert_eq_ok, appendEffectFact_eq_ok] at h
    obtain ⟨ledger, hledger, hticket, attempts, hattempts, s₁, ⟨hfact₁, rfl⟩, s₂,
      ⟨hfact₂, rfl⟩, s₃, ⟨hfact₃, rfl⟩, nonceRows, hrows, ⟨⟩⟩ := h
    refine .inr
      { claimDigest := by simpa using hclaim
        resultDigest := by simpa using hresult
        bound := not_not.mp hbound
        succeeded := not_not.mp hsucceeded
        timeline := not_not.mp htime
        noncesFit := ?_
        bindingComplete := not_not.mp hbinding
        epoch := ?_
        effectFree := hfind
        ticketFree := fun hsome a ha heq => hticket ⟨hsome, a, ha, heq⟩
        attemptFree := hattempts.fresh
        claimFactFree := fun f hf hkey hkind heq => hfact₁ ⟨f, hf, hkey, hkind, heq⟩
        startedFactFree := fun f hf hkey hkind heq =>
          hfact₂ ⟨f, List.mem_cons_of_mem _ hf, hkey, hkind, heq⟩
        receiptFactFree := fun f hf hkey hkind heq =>
          hfact₃ ⟨f, List.mem_cons_of_mem _ (List.mem_cons_of_mem _ hf), hkey, hkind, heq⟩
        noncesFree := ⟨nonceRows, hrows⟩ }
    · intro n hn
      by_contra hbad
      exact hnonces ⟨n, hn, by simpa using hbad⟩
    · intro epoch hexpected
      by_contra hother
      exact hepoch ⟨epoch, hexpected, hother⟩

/-- Under these arguments the admission records a succeeded effect that was not there. -/
theorem AdmitsAnew.succeeds {result : EffectResult}
    {receiptResponse : Option Canon} {nonces : List NonceRow} {binding : AdmissionBinding}
    {expected : Option ℕ}
    (h : AdmitsAnew claim result startedAtMs receiptResponse nonces binding expected s) :
    ∃ reply s', admitSubEffect claim result startedAtMs receiptResponse nonces binding expected s =
        .ok (reply, s') ∧ s.getEffect claim.effectId = none ∧
      s'.getEffectHeadState claim.effectId = some .succeeded := by
  obtain ⟨ledger, hledger⟩ :=
    Table.exists_insert (r := (⟨claim, .finished (some startedAtMs) result⟩ : EffectRow))
      h.effectFree (StoreError.integrity "effect_ledger(effect_id)")
  obtain ⟨attempts, hattempts⟩ :=
    Table.exists_insert (r := admittedAttempt claim result startedAtMs binding)
      h.attemptFree (StoreError.integrity "effect_attempts(effect_id, attempt)")
  rw [Table.insert_eq_ok] at hledger hattempts
  obtain ⟨nonceRows, hnonces⟩ := h.noncesFree
  have hfact₁ : ¬ ∃ f ∈ s.effectFacts, f.key = (claim.effectId, claim.attempt) ∧
      f.factKind = .claim ∧ f.payload = .claim claim s.actionFence.actionFenceEpoch := by
    rintro ⟨f, hf, hkey, hkind, hpayload⟩
    exact h.claimFactFree f hf hkey hkind hpayload
  have hfact₂ : ¬ ∃ f ∈ s.effectFacts, f.key = (claim.effectId, claim.attempt) ∧
      f.factKind = .started ∧ f.payload = .sideEffectStarted startedAtMs none := by
    rintro ⟨f, hf, hkey, hkind, hpayload⟩
    exact h.startedFactFree f hf hkey hkind hpayload
  have hfact₃ : ¬ ∃ f ∈ s.effectFacts, f.key = (claim.effectId, claim.attempt) ∧
      f.factKind = .receipt ∧ f.payload = .receipt result receiptResponse := by
    rintro ⟨f, hf, hkey, hkind, hpayload⟩
    exact h.receiptFactFree f hf hkey hkind hpayload
  apply Exists.intro (⟨claim, .finished (some startedAtMs) result⟩, true, none)
  apply Exists.intro
  refine ⟨?_, h.effectFree, ?_⟩
  · simp only [admitSubEffect, h.effectFree, eq_ok_iff, Table.insert_eq_ok, appendEffectFact_eq_ok]
    refine ⟨by simp [h.claimDigest], by simp [h.resultDigest], by simp [h.bound],
      by simp [h.succeeded], by simp [h.timeline], ?_, by simp [h.bindingComplete], ?_, ledger,
      hledger, ?_, attempts, hattempts, _, ⟨hfact₁, rfl⟩, _, ⟨?_, rfl⟩, _, ⟨?_, rfl⟩, nonceRows,
      hnonces, rfl⟩
    · rintro ⟨n, hn, hbad⟩
      rw [h.noncesFit n hn] at hbad
      cases hbad
    · rintro ⟨epoch, hexpected, hother⟩
      exact hother (h.epoch epoch hexpected)
    · rintro ⟨hsome, a, ha, heq⟩
      exact h.ticketFree hsome a ha heq
    · simpa [withFact, nextFact] using hfact₂
    · simpa [withFact, nextFact] using hfact₃
  · have hfind := hledger.find claim.effectId
    rw [if_pos rfl] at hfind
    have hstate : (ledger.find claim.effectId).map (·.state) = some result.status.toState := by
      rw [hfind]
      rfl
    rw [h.succeeded] at hstate
    exact hstate

end EffectStore

open EffectStore

section Steps

variable {s : FenceStore}

abbrev FenceStore.epoch (s : FenceStore) : ℕ := s.effects.actionFence.actionFenceEpoch

lemma epoch_admitSubEffect {claim : EffectClaim} {result : EffectResult} {startedAtMs : ℕ}
    {receiptResponse : Option Canon} {nonces : List NonceRow} {binding : AdmissionBinding}
    {expected : Option ℕ} {reply : EffectRow × Bool × Option Canon} {t t' : EffectStore}
    (h : admitSubEffect claim result startedAtMs receiptResponse nonces binding expected t =
      .ok (reply, t')) : t'.actionFence = t.actionFence := by
  rcases admitSubEffect_cases h with rfl | ⟨_, _, _, _, _, _, _, _, _, _, _, _, rfl⟩
  · rfl
  · rfl

/-- No call lowers the epoch, and a stop raises it. -/
lemma epoch_step (s : FenceStore) (op : FenceOp) : s.epoch ≤ (fenceMachine.step s op).1.epoch ∧
      (op.isStop = true → 0 < (fenceMachine.step s op).1.epoch) := by
  cases op with
  | claimEffect env claim =>
    refine ⟨?_, fun h => by cases h⟩
    apply committed_fst (P := fun t : EffectStore => s.epoch ≤ t.actionFence.actionFenceEpoch)
      (le_refl s.epoch)
    intro reply t h
    rcases claimEffect_cases h with ⟨-, rfl, -⟩ | ⟨-, -, -, ledger, attempts, -, -, rfl⟩
    · exact le_refl _
    · exact le_refl _
  | admitSubEffect claim result startedAtMs response nonces binding expected =>
    refine ⟨?_, fun h => by cases h⟩
    apply committed_fst (P := fun t : EffectStore => s.epoch ≤ t.actionFence.actionFenceEpoch)
      (le_refl s.epoch)
    intro reply t h
    rw [epoch_admitSubEffect h]
  | markEffectStarted env effectId startedAtMs =>
    refine ⟨?_, fun h => by cases h⟩
    apply committed_fst (P := fun t : EffectStore => s.epoch ≤ t.actionFence.actionFenceEpoch)
      (le_refl s.epoch)
    intro row t h
    rcases markEffectStarted_cases h with ⟨rfl, -, -⟩ | ⟨record, -, -, -, -, -, rfl⟩
    · exact le_refl _
    · exact le_refl _
  | acquireDispatchPermit env effectId attempt expected nonce ticketId ticketSha256 grantSha256
      scope nowMs =>
    refine ⟨?_, fun h => by cases h⟩
    apply committed_fst (P := fun t : EffectStore => s.epoch ≤ t.actionFence.actionFenceEpoch)
      (le_refl s.epoch)
    intro epoch t h
    obtain ⟨_, _, _, -, -, -, -, -, -, _, _, -, -, -, -, rfl⟩ := acquireDispatchPermit_cases h
    exact le_refl _
  | startRepairExecution env id effectId startedAtMs claimId revision =>
    refine ⟨?_, fun h => by cases h⟩
    apply committed_fst
      (P := fun t : RepairStore => s.epoch ≤ t.effects.actionFence.actionFenceEpoch)
      (le_refl s.epoch)
    intro reply t h
    obtain ⟨row, -, -, ⟨-, -, rfl, -⟩ | ⟨-, -, -, -, effect, effects, hmark, rfl⟩⟩ :=
      RepairStore.startRepairExecution_cases h
    · exact le_refl _
    · rcases markEffectStarted_cases hmark with ⟨rfl, -, -⟩ | ⟨record, -, -, -, -, -, rfl⟩
      · exact le_refl _
      · exact le_refl _
  | continueEffectAfterPna effectId oldAttempt nowMs =>
    refine ⟨?_, fun h => by cases h⟩
    apply committed_fst (P := fun t : EffectStore => s.epoch ≤ t.actionFence.actionFenceEpoch)
      (le_refl s.epoch)
    intro n t h
    obtain ⟨old, attempts, -, -, -, -, rfl⟩ := continueEffectAfterPna_cases h
    exact le_refl _
  | activateExecutionContractEpoch contractEpoch dispositions nowMs =>
    refine ⟨?_, fun h => by cases h⟩
    apply committed_fst (P := fun t : FenceStore => s.epoch ≤ t.epoch) (le_refl s.epoch)
    intro digest t h
    rcases FenceStore.activateExecutionContractEpoch_cases (liftStore_eq_ok.mp h) with rfl | heq
    · exact le_refl _
    · have hepoch : t.epoch = (FenceStore.endDrain nowMs s.effects.actionFence).actionFenceEpoch :=
        congrArg (·.actionFence.actionFenceEpoch) heq
      rw [hepoch, FenceStore.endDrain_epoch]
  | incrementActionFence reason nowMs =>
    exact ⟨Nat.le_succ _, fun _ => Nat.succ_pos _⟩

/-- Behind a fence a call starts something exactly when it admits a new effect. -/
lemma startsNothing_step_iff (hepoch : s.epoch ≠ 0) (op : FenceOp) :
    StartsNothing s.effects (fenceMachine.step s op).1.effects ↔ ¬ op.AdmitsAnew s := by
  cases op with
  | claimEffect env claim =>
    refine iff_of_true ?_ id
    apply committed_fst (StartsNothing.refl s.effects)
    intro reply t h
    exact startsNothing_claimEffect h
  | admitSubEffect claim result startedAtMs response nonces binding expected =>
    constructor
    · intro hnothing hanew
      obtain ⟨reply, t, hok, hfree, hsucceeded⟩ := hanew.succeeds
      have hstep : (fenceMachine.step s (.admitSubEffect claim result startedAtMs response nonces
          binding expected)).1.effects = t := by
        show (committed s.effects _ _).1 = t
        rw [hok]
        rfl
      rw [hstep] at hnothing
      exact hnothing.succeeded claim.effectId hfree hsucceeded
    · intro hnot
      apply committed_fst (StartsNothing.refl s.effects)
      intro reply t h
      rcases anew_of_admitSubEffect h with hsame | hanew
      · exact startsNothing_of_eq hsame
      · exact absurd hanew hnot
  | markEffectStarted env effectId startedAtMs =>
    refine iff_of_true ?_ id
    apply committed_fst (StartsNothing.refl s.effects)
    intro row t h
    exact startsNothing_of_eq (markEffectStarted_fenced hepoch h)
  | acquireDispatchPermit env effectId attempt expected nonce ticketId ticketSha256 grantSha256
      scope nowMs =>
    refine iff_of_true ?_ id
    apply committed_fst (StartsNothing.refl s.effects)
    intro epoch t h
    obtain ⟨_, _, _, -, -, -, hzero, -⟩ := acquireDispatchPermit_cases h
    exact absurd hzero hepoch
  | startRepairExecution env id effectId startedAtMs claimId revision =>
    refine iff_of_true ?_ (fun h => h)
    apply committed_fst (P := fun t : RepairStore => StartsNothing s.effects t.effects)
      (StartsNothing.refl s.effects)
    intro reply t h
    obtain ⟨row, -, -, ⟨-, -, rfl, -⟩ | ⟨-, -, -, -, effect, effects, hmark, rfl⟩⟩ :=
      RepairStore.startRepairExecution_cases h
    · exact StartsNothing.refl _
    · exact startsNothing_of_eq (markEffectStarted_fenced hepoch hmark)
  | continueEffectAfterPna effectId oldAttempt nowMs =>
    refine iff_of_true ?_ id
    apply committed_fst (StartsNothing.refl s.effects)
    intro n t h
    exact startsNothing_continueEffectAfterPna h
  | activateExecutionContractEpoch contractEpoch dispositions nowMs =>
    refine iff_of_true ?_ id
    apply committed_fst (P := fun t : FenceStore => StartsNothing s.effects t.effects)
      (StartsNothing.refl s.effects)
    intro digest t h
    rcases FenceStore.activateExecutionContractEpoch_cases (liftStore_eq_ok.mp h) with rfl | heq
    · exact StartsNothing.refl _
    · rw [heq]
      exact startsNothing_withFence _ _
  | incrementActionFence reason nowMs =>
    exact iff_of_true (startsNothing_withFence _ _) id

/-- A stop leaves its fence behind for the rest of the run. -/
lemma epoch_after_stop (s : FenceStore) (ops : List FenceOp)
    (h : ∃ stop ∈ ops, stop.isStop = true) : (fenceMachine.exec s ops).epoch ≠ 0 := by
  have hkeep : ∀ (t : FenceStore) (op : FenceOp), 0 < t.epoch →
      0 < (fenceMachine.step t op).1.epoch := fun t op ht => ht.trans_le (epoch_step t op).1
  obtain ⟨stop, hmem, hstop⟩ := h
  obtain ⟨pre, post, rfl⟩ := List.append_of_mem hmem
  rw [Machine.exec_append, Machine.exec_cons]
  have hpositive := Machine.exec_preserves (fun t : FenceStore => 0 < t.epoch) hkeep
    ((epoch_step (fenceMachine.exec s pre) stop).2 hstop) post
  omega

end Steps

def freshFenceStore : FenceStore where
  repair :=
    { requests := .empty
      effects := EffectStore.init
      verificationPlans := .empty
      verificationReadinesses := .empty
      verificationRecords := .empty
      failureEvidence := .empty
      dispositions := .empty
      repairDirectives := .empty
      repairAttempts := .empty
      subjectSuccessors := .empty
      repairExecutionBindings := .empty
      artifactSubjects := .empty
      repositorySubjects := [] }
  executionContractEpoch := none

/-- The stop is committed, then an admission whose caller names no epoch records its effect. -/
def admittedBehindStop : List FenceOp :=
  [.incrementActionFence "stop" 1,
    .admitSubEffect EffectStore.sampleClaim EffectStore.sampleResult 2 none []
      ⟨none, none, none, none⟩ none]

end Tiangong
