import Mathlib.Algebra.BigOperators.Group.List.Basic
import Mathlib.Algebra.GroupWithZero.Nat
import Mathlib.Order.Iterate
import Mathlib.Order.MinMax
import Tiangong.Canon
import Tiangong.Checked

/-!
# The retry schedule

A trusted component classifies a failure, and a policy says whether the work is tried again and
when. The delay grows with the attempt up to a maximum, is spread by a digest, gives way to a
Retry-After, and has to leave room for the next attempt in the budget and before the deadline.
-/
open List

namespace Tiangong.Retry

inductive RetryFault where
  /-- `ValueError`. -/
  | value (text : String)
  /-- A field of a decision out of its bounds. -/
  | field (name : String)
  deriving DecidableEq, Repr

inductive FailureDisposition where
  | terminal | retryable | ambiguous | cancelled | fenced
  deriving DecidableEq, Repr

inductive RetryAfterSource where
  | header | platform | policy
  deriving DecidableEq, Repr

/-- What `decide_retry` reads of a failure, with the checks of `validate_failure_semantics`. -/
structure ErrorDescriptor where
  errorId : String
  disposition : FailureDisposition
  attempt : ℕ
  sideEffectStarted : Bool
  retryAfterMs : Option ℕ
  retryAfterSource : Option RetryAfterSource
  attempt_range : 1 ≤ attempt ∧ attempt ≤ 10000
  retryAfter_range : ∀ ms ∈ retryAfterMs, ms ≤ 86400000
  retryable_unstarted : disposition = .retryable → sideEffectStarted = false
  ambiguous_started : disposition = .ambiguous → sideEffectStarted = true
  stopped_unstarted : disposition = .cancelled ∨ disposition = .fenced → sideEffectStarted = false
  retryAfter_source : retryAfterMs.isSome = retryAfterSource.isSome
  retryAfter_retryable : retryAfterMs.isSome = true → disposition = .retryable

inductive JitterMode where
  | none | full | equal
  deriving DecidableEq, Repr

def JitterMode.canon : JitterMode → Canon
  | none => .text "none"
  | full => .text "full"
  | equal => .text "equal"

structure PolicyFields where
  schemaVersion : SchemaVersion
  policyId : String
  revision : ℕ
  maxAttempts : ℕ
  baseDelayMs : ℕ
  maxDelayMs : ℕ
  multiplierMilli : ℕ
  jitterMode : JitterMode
  jitterSeedSha256 : Option Canon
  respectRetryAfter : Bool
  maxRetryAfterMs : ℕ
  retryBudgetMs : ℕ
  minimumAttemptRuntimeMs : ℕ
  policySha256 : Canon

/-- The bounds of the fields and `validate_policy`. -/
def PolicyFields.valid (p : PolicyFields) : Bool :=
  1 ≤ p.revision && 1 ≤ p.maxAttempts && p.maxAttempts ≤ 100 && p.baseDelayMs ≤ 3600000 &&
    p.maxDelayMs ≤ 86400000 && 1000 ≤ p.multiplierMilli && p.multiplierMilli ≤ 10000 &&
    p.maxRetryAfterMs ≤ 86400000 && p.retryBudgetMs ≤ 604800000 &&
    p.minimumAttemptRuntimeMs ≤ 3600000 && p.baseDelayMs ≤ p.maxDelayMs &&
    (decide (p.jitterMode = .none) == p.jitterSeedSha256.isNone)

structure RetryPolicy extends PolicyFields where
  is_valid : toPolicyFields.valid = true

namespace RetryPolicy

def computedSha256 (p : RetryPolicy) : Except RetryFault Canon :=
  if 9007199254740991 < p.revision then
    .error (.value "integer is outside the interoperable JSON range")
  else .ok <| .sha256 <| .ofList
    [p.schemaVersion.canon, .text p.policyId, .num p.revision, .num p.maxAttempts,
      .num p.baseDelayMs, .num p.maxDelayMs, .num p.multiplierMilli, p.jitterMode.canon,
      .option id p.jitterSeedSha256, .flag p.respectRetryAfter, .num p.maxRetryAfterMs,
      .num p.retryBudgetMs, .num p.minimumAttemptRuntimeMs]

def hasValidSha256 (p : RetryPolicy) : Except RetryFault Bool :=
  p.computedSha256.map fun sha256 => decide (p.policySha256 = sha256)

/-- One turn of the loop of `_base_backoff_ms`. -/
def lengthened (p : RetryPolicy) (delay : ℕ) : ℕ :=
  min p.maxDelayMs ((delay * p.multiplierMilli + 999) / 1000)

def baseBackoffMs (p : RetryPolicy) (failedAttempt : ℕ) : ℕ :=
  min (p.lengthened^[failedAttempt - 1] p.baseDelayMs) p.maxDelayMs

/-- What the sample of a failed attempt is the digest of. -/
def jitterContent (p : RetryPolicy) (failedAttempt : ℕ) : Canon :=
  .sha256 <| .ofList
    [.text "tiangong.retry.jitter.v1", .text p.policyId, .num p.revision,
      .option id p.jitterSeedSha256, .num failedAttempt]

/-- `leadingHex` reads the first sixteen hexadecimal digits of a digest as a number. -/
def jitteredDelayMs (leadingHex : Canon → ℕ) (p : RetryPolicy) (failedAttempt delayMs : ℕ) : ℕ :=
  if p.jitterMode = .none ∨ delayMs = 0 then delayMs
  else
    let sample := leadingHex (p.jitterContent failedAttempt)
    if p.jitterMode = .full then sample % (delayMs + 1)
    else delayMs / 2 + sample % (delayMs - delayMs / 2 + 1)

end RetryPolicy

inductive RetryAction where
  | retry | stopTerminal | reconcileRequired | stopCancelled | stopFenced | stopExhausted
  | stopDeadline
  deriving DecidableEq, Repr

structure RetryDecision where
  errorId : String
  action : RetryAction
  shouldRetry : Bool
  shouldReconcile : Bool
  currentAttempt : ℕ
  nextAttempt : Option ℕ
  delayMs : Option ℕ
  scheduledAtMs : Option ℤ
  reasonCode : String
  deriving DecidableEq, Repr

namespace RetryDecision

/-- The bounds of the fields and `validate_decision`. -/
def checked (d : RetryDecision) : Except RetryFault RetryDecision := do
  rejectIf (d.currentAttempt < 1 ∨ 10000 < d.currentAttempt) (.field "current_attempt")
  rejectIf (d.nextAttempt.any fun n => n < 2 || 10000 < n) (.field "next_attempt")
  rejectIf (d.delayMs.any (86400000 < ·)) (.field "delay_ms")
  rejectIf (d.scheduledAtMs.any (· < 0)) (.field "scheduled_at_ms")
  rejectIf (d.shouldRetry ≠ decide (d.action = .retry))
    (.value "only RETRY may set should_retry")
  rejectIf (d.shouldReconcile ≠ decide (d.action = .reconcileRequired))
    (.value "only RECONCILE_REQUIRED may set should_reconcile")
  rejectIf (d.shouldRetry = true ∧
      (d.nextAttempt.isNone ∨ d.delayMs.isNone ∨ d.scheduledAtMs.isNone))
    (.value "retry decision requires next attempt, delay, and schedule")
  rejectIf (d.shouldRetry = false ∧
      (d.nextAttempt.isSome ∨ d.delayMs.isSome ∨ d.scheduledAtMs.isSome))
    (.value "non-retry decision cannot carry a retry schedule")
  rejectIf (d.nextAttempt.any (· ≠ d.currentAttempt + 1))
    (.value "next retry attempt must increment exactly once")
  pure d

end RetryDecision

def stop (error : ErrorDescriptor) (action : RetryAction) (reasonCode : String) :
    Except RetryFault RetryDecision :=
  RetryDecision.checked ⟨error.errorId, action, false, action = .reconcileRequired, error.attempt,
    none, none, none, reasonCode⟩

/-- The end of `decide_retry`, for the delay that the backoff and a Retry-After leave. -/
def scheduleRetry (error : ErrorDescriptor) (policy : RetryPolicy) (nowMs elapsedMs : ℤ)
    (deadlineAtMs : Option ℤ) (delay : ℕ) : Except RetryFault RetryDecision :=
  let requiredBudget := delay + policy.minimumAttemptRuntimeMs
  if policy.retryBudgetMs < elapsedMs + requiredBudget then
    stop error .stopExhausted "retry.budget_exhausted"
  else if deadlineAtMs.any (· < nowMs + requiredBudget) then
    stop error .stopDeadline "retry.deadline_exceeded"
  else RetryDecision.checked ⟨error.errorId, .retry, true, false, error.attempt,
    some (error.attempt + 1), some delay, some (nowMs + delay), "retry.scheduled"⟩

def respectedMs (error : ErrorDescriptor) (policy : RetryPolicy) : Option ℕ :=
  if policy.respectRetryAfter then error.retryAfterMs else none

def decideRetry (leadingHex : Canon → ℕ) (error : ErrorDescriptor) (policy : RetryPolicy)
    (nowMs elapsedMs : ℤ) (deadlineAtMs : Option ℤ) : Except RetryFault RetryDecision :=
  if nowMs < 0 ∨ elapsedMs < 0 then
    .error (.value "retry comparison time cannot be negative")
  else match policy.hasValidSha256 with
  | .error fault => .error fault
  | .ok false => .error (.value "retry policy digest is invalid")
  | .ok true => match error.disposition with
    | .terminal => stop error .stopTerminal "retry.terminal"
    | .ambiguous => stop error .reconcileRequired "retry.ambiguous_reconcile"
    | .cancelled => stop error .stopCancelled "retry.cancelled"
    | .fenced => stop error .stopFenced "retry.fenced"
    | .retryable =>
      if policy.maxAttempts ≤ error.attempt then
        stop error .stopExhausted "retry.attempts_exhausted"
      else
        let backoff := policy.jitteredDelayMs leadingHex error.attempt
          (policy.baseBackoffMs error.attempt)
        match respectedMs error policy with
        | none => scheduleRetry error policy nowMs elapsedMs deadlineAtMs backoff
        | some retryAfterMs =>
          if policy.maxRetryAfterMs < retryAfterMs then
            stop error .stopExhausted "retry.retry_after_exceeds_policy"
          else scheduleRetry error policy nowMs elapsedMs deadlineAtMs (max backoff retryAfterMs)

section Backoff

variable (p : RetryPolicy)

lemma RetryPolicy.bounds : p.maxAttempts ≤ 100 ∧ p.maxDelayMs ≤ 86400000 ∧
    1000 ≤ p.multiplierMilli ∧ p.maxRetryAfterMs ≤ 86400000 ∧ p.baseDelayMs ≤ p.maxDelayMs := by
  have h := p.is_valid
  simp only [PolicyFields.valid, holds_iff] at h
  omega

lemma lengthened_mono : Monotone p.lengthened := by
  intro a b hab
  have hmul : a * p.multiplierMilli ≤ b * p.multiplierMilli := Nat.mul_le_mul_right _ hab
  unfold RetryPolicy.lengthened
  omega

lemma base_le_lengthened : p.baseDelayMs ≤ p.lengthened p.baseDelayMs := by
  have hgrows : p.baseDelayMs * 1000 ≤ p.baseDelayMs * p.multiplierMilli :=
    Nat.mul_le_mul_left _ p.bounds.2.2.1
  have hmax := p.bounds.2.2.2.2
  unfold RetryPolicy.lengthened
  omega

/-- A later attempt waits at least as long. -/
lemma baseBackoffMs_mono : Monotone p.baseBackoffMs := by
  have hstep : Monotone fun k => p.lengthened^[k] p.baseDelayMs :=
    (lengthened_mono p).monotone_iterate_of_le_map (base_le_lengthened p)
  intro m n hmn
  exact min_le_min_right _ (hstep (Nat.sub_le_sub_right hmn 1))

lemma baseBackoffMs_le (n : ℕ) : p.baseBackoffMs n ≤ p.maxDelayMs := min_le_right _ _

/-- A thousandth of `n`, rounded up. -/
def ceilMilli (n : ℕ) : ℕ := n / 1000 + if n % 1000 = 0 then 0 else 1

lemma ceilMilli_eq (n : ℕ) : ceilMilli n = (n + 999) / 1000 := by
  unfold ceilMilli
  split_ifs <;> omega

/-- Cutting off in every turn of the loop is the same as cutting off once at its end. -/
lemma baseBackoffMs_eq (n : ℕ) : p.baseBackoffMs n =
    min p.maxDelayMs ((fun delay => ceilMilli (delay * p.multiplierMilli))^[n - 1]
      p.baseDelayMs) := by
  have hcut : ∀ k, p.lengthened^[k] p.baseDelayMs = min p.maxDelayMs
      ((fun delay => ceilMilli (delay * p.multiplierMilli))^[k] p.baseDelayMs) := by
    intro k
    induction k with
    | zero => exact (min_eq_right p.bounds.2.2.2.2).symm
    | succ k ih =>
      rw [Function.iterate_succ_apply', Function.iterate_succ_apply', ih]
      generalize (fun delay => ceilMilli (delay * p.multiplierMilli))^[k] p.baseDelayMs = delay
      rw [ceilMilli_eq]
      have hgrows : p.maxDelayMs * 1000 ≤ p.maxDelayMs * p.multiplierMilli :=
        Nat.mul_le_mul_left _ p.bounds.2.2.1
      unfold RetryPolicy.lengthened
      rcases Nat.le_total p.maxDelayMs delay with hle | hle
      · have hmul : p.maxDelayMs * p.multiplierMilli ≤ delay * p.multiplierMilli :=
          Nat.mul_le_mul_right _ hle
        rw [min_eq_left hle]
        omega
      · rw [min_eq_right hle]
  rw [RetryPolicy.baseBackoffMs, hcut, min_comm, ← min_assoc, min_self]

variable (leadingHex : Canon → ℕ) (failedAttempt delayMs : ℕ)

lemma jitteredDelayMs_le : p.jitteredDelayMs leadingHex failedAttempt delayMs ≤ delayMs := by
  unfold RetryPolicy.jitteredDelayMs
  dsimp only
  generalize leadingHex (p.jitterContent failedAttempt) = sample
  have hfull : sample % (delayMs + 1) < delayMs + 1 := Nat.mod_lt _ (Nat.succ_pos _)
  have hequal : sample % (delayMs - delayMs / 2 + 1) < delayMs - delayMs / 2 + 1 :=
    Nat.mod_lt _ (Nat.succ_pos _)
  split_ifs <;> omega

lemma jitteredDelayMs_equal (h : p.jitterMode = .equal) :
    delayMs / 2 ≤ p.jitteredDelayMs leadingHex failedAttempt delayMs := by
  unfold RetryPolicy.jitteredDelayMs
  simp only [h, reduceCtorEq, false_or, if_false]
  split_ifs <;> omega

end Backoff

section Decision

variable {leadingHex : Canon → ℕ} {error : ErrorDescriptor} {policy : RetryPolicy}
  {nowMs elapsedMs : ℤ} {deadlineAtMs : Option ℤ} {d : RetryDecision}

/-- What a decision to try again promises. -/
structure RetrySound (error : ErrorDescriptor) (policy : RetryPolicy) (nowMs elapsedMs : ℤ)
    (deadlineAtMs : Option ℤ) (d : RetryDecision) (delay : ℕ) : Prop where
  retryable : error.disposition = .retryable
  attempts : error.attempt < policy.maxAttempts
  next : d.nextAttempt = some (error.attempt + 1)
  delayed : d.delayMs = some delay
  bounded : delay ≤ max policy.maxDelayMs (error.retryAfterMs.getD 0)
  respects : policy.respectRetryAfter = true → ∀ ms ∈ error.retryAfterMs, ms ≤ delay
  budget : elapsedMs + delay + policy.minimumAttemptRuntimeMs ≤ policy.retryBudgetMs
  deadline : ∀ deadline ∈ deadlineAtMs, nowMs + delay + policy.minimumAttemptRuntimeMs ≤ deadline

/-- The decision is made, and it is a sound one if it is to try again. -/
def Decided (error : ErrorDescriptor) (policy : RetryPolicy) (nowMs elapsedMs : ℤ)
    (deadlineAtMs : Option ℤ) (result : Except RetryFault RetryDecision) : Prop :=
  ∃ d, result = .ok d ∧ (d.action = .retry →
    ∃ delay, RetrySound error policy nowMs elapsedMs deadlineAtMs d delay)

lemma stop_decided {action : RetryAction} {reasonCode : String} (h : action ≠ .retry) :
    Decided error policy nowMs elapsedMs deadlineAtMs (stop error action reasonCode) := by
  have hattempt := error.attempt_range
  refine ⟨⟨error.errorId, action, false, action = .reconcileRequired, error.attempt, none, none,
    none, reasonCode⟩, ?_, fun hretry => absurd hretry h⟩
  simp only [stop, RetryDecision.checked, eq_ok_iff]
  simp [h]
  omega

lemma scheduleRetry_decided {delay : ℕ} (hnow : 0 ≤ nowMs)
    (hretryable : error.disposition = .retryable) (hattempt : error.attempt < policy.maxAttempts)
    (hbounded : delay ≤ max policy.maxDelayMs (error.retryAfterMs.getD 0))
    (hrespects : policy.respectRetryAfter = true → ∀ ms ∈ error.retryAfterMs, ms ≤ delay) :
    Decided error policy nowMs elapsedMs deadlineAtMs
      (scheduleRetry error policy nowMs elapsedMs deadlineAtMs delay) := by
  unfold scheduleRetry
  dsimp only
  split_ifs with hbudget hdeadline
  · exact stop_decided (by decide)
  · exact stop_decided (by decide)
  · have hmax := policy.bounds
    have hone := error.attempt_range.1
    have hlimit : delay ≤ 86400000 := by
      have hafter : error.retryAfterMs.getD 0 ≤ 86400000 := by
        cases hms : error.retryAfterMs with
        | none => exact Nat.zero_le _
        | some ms => exact error.retryAfter_range ms hms
      omega
    have hlate : 0 ≤ nowMs + (delay : ℤ) := by omega
    have hrange : 1 ≤ error.attempt ∧ error.attempt ≤ 9999 := by omega
    refine ⟨⟨error.errorId, .retry, true, false, error.attempt, some (error.attempt + 1),
      some delay, some (nowMs + delay), "retry.scheduled"⟩, ?_, fun _ =>
        ⟨delay, hretryable, hattempt, rfl, rfl, hbounded, hrespects, ?_, ?_⟩⟩
    · simp only [RetryDecision.checked, eq_ok_iff]
      simp [hlate, hlimit]
      omega
    · push_cast at hbudget
      omega
    · intro deadline hmem
      rw [Option.mem_def] at hmem
      simp only [hmem, Option.any_some, decide_eq_true_eq] at hdeadline
      push_cast at hdeadline
      omega

/-- A valid policy decides about every failure. -/
lemma decideRetry_decided (hvalid : policy.hasValidSha256 = .ok true) (hnow : 0 ≤ nowMs)
    (helapsed : 0 ≤ elapsedMs) : Decided error policy nowMs elapsedMs deadlineAtMs
      (decideRetry leadingHex error policy nowMs elapsedMs deadlineAtMs) := by
  have htimes : ¬ (nowMs < 0 ∨ elapsedMs < 0) := by omega
  unfold decideRetry
  rw [if_neg htimes, hvalid]
  cases hdisposition : error.disposition with
  | terminal => exact stop_decided (by decide)
  | ambiguous => exact stop_decided (by decide)
  | cancelled => exact stop_decided (by decide)
  | fenced => exact stop_decided (by decide)
  | retryable =>
    dsimp only
    have hbackoff := le_trans (jitteredDelayMs_le policy leadingHex error.attempt
      (policy.baseBackoffMs error.attempt)) (baseBackoffMs_le policy error.attempt)
    generalize policy.jitteredDelayMs leadingHex error.attempt
      (policy.baseBackoffMs error.attempt) = backoff at hbackoff ⊢
    by_cases hattempts : policy.maxAttempts ≤ error.attempt
    · rw [if_pos hattempts]
      exact stop_decided (by decide)
    · rw [if_neg hattempts]
      have hless : error.attempt < policy.maxAttempts := Nat.not_le.mp hattempts
      cases hrespected : respectedMs error policy with
      | none =>
        refine scheduleRetry_decided hnow hdisposition hless (le_max_of_le_left hbackoff) ?_
        intro hrespect ms hms
        simp only [respectedMs, hrespect, if_true] at hrespected
        rw [hrespected] at hms
        cases hms
      | some retryAfterMs =>
        dsimp only
        have hgiven : error.retryAfterMs = some retryAfterMs := by
          unfold respectedMs at hrespected
          split_ifs at hrespected
          exact hrespected
        by_cases hexceeds : policy.maxRetryAfterMs < retryAfterMs
        · rw [if_pos hexceeds]
          exact stop_decided (by decide)
        · rw [if_neg hexceeds]
          refine scheduleRetry_decided hnow hdisposition hless ?_ ?_
          · rw [hgiven]
            exact max_le_max_right _ hbackoff
          · intro _ ms hms
            rw [hgiven, Option.mem_some_iff] at hms
            exact hms ▸ le_max_right _ _

end Decision

/-- A failure that is tried again, and how long the attempt it leads to runs. -/
structure Retried where
  error : ErrorDescriptor
  nowMs : ℤ
  elapsedMs : ℤ
  deadlineAtMs : Option ℤ
  delayMs : ℕ
  runtimeMs : ℕ

/-- The policy tries the failure again after its delay. -/
def Retried.decided (leadingHex : Canon → ℕ) (policy : RetryPolicy) (r : Retried) : Prop :=
  ∃ d, decideRetry leadingHex r.error policy r.nowMs r.elapsedMs r.deadlineAtMs = .ok d ∧
    d.action = .retry ∧ d.delayMs = some r.delayMs

/-- The next failure is one of the attempt that this one led to, and the time until then is
accounted for. -/
def Retried.leadsTo (r next : Retried) : Prop :=
  next.error.attempt = r.error.attempt + 1 ∧ r.elapsedMs + r.delayMs + r.runtimeMs ≤ next.elapsedMs

def spentMs (retries : List Retried) : ℕ := (retries.map fun r => r.delayMs + r.runtimeMs).sum

/-- Along a chain the attempts count up and all that is spent has elapsed. -/
lemma chain_spent {retries : List Retried} {last : Retried}
    (hchain : (retries ++ [last]).IsChain Retried.leadsTo)
    (helapsed : ∀ r ∈ retries ++ [last], 0 ≤ r.elapsedMs) :
    retries.length + 1 ≤ last.error.attempt ∧ (spentMs retries : ℤ) ≤ last.elapsedMs := by
  have hfrom : ∀ (rest : List Retried) (r : Retried),
      (r :: rest ++ [last]).IsChain Retried.leadsTo →
      r.error.attempt + (rest.length + 1) = last.error.attempt ∧
        r.elapsedMs + (spentMs (r :: rest) : ℤ) ≤ last.elapsedMs := by
    intro rest
    induction rest with
    | nil =>
      intro r h
      simp only [cons_append, nil_append, isChain_cons_cons] at h
      obtain ⟨hattempt, htime⟩ := h.1
      simp only [spentMs, map_cons, map_nil, sum_cons, sum_nil]
      constructor
      · rw [hattempt]
        rfl
      · push_cast
        omega
    | cons next rest ih =>
      intro r h
      simp only [cons_append, isChain_cons_cons] at h
      obtain ⟨hattempt, htime⟩ := h.1
      obtain ⟨hlast, hspent⟩ := ih next h.2
      simp only [spentMs, map_cons, sum_cons, length_cons] at hspent ⊢
      push_cast at hspent ⊢
      omega
  cases retries with
  | nil => exact ⟨last.error.attempt_range.1, by simpa [spentMs] using helapsed⟩
  | cons r rest =>
    obtain ⟨hattempt, hspent⟩ := hfrom rest r hchain
    have hfirst := helapsed r (by simp)
    have hone := r.error.attempt_range.1
    rw [length_cons]
    omega

/-- A policy with a valid digest decides soundly about every failure, its backoff grows by rounded
multiplication up to the maximum, and a chain of retries stays within the attempts and the
budget. -/
theorem decideRetry_sound (leadingHex : Canon → ℕ) (policy : RetryPolicy)
    (hvalid : policy.hasValidSha256 = .ok true) :
    (∀ error nowMs elapsedMs deadlineAtMs, 0 ≤ nowMs → 0 ≤ elapsedMs →
      Decided error policy nowMs elapsedMs deadlineAtMs
        (decideRetry leadingHex error policy nowMs elapsedMs deadlineAtMs)) ∧
    Monotone policy.baseBackoffMs ∧
    (∀ n, policy.baseBackoffMs n = min policy.maxDelayMs
      ((fun delay => ceilMilli (delay * policy.multiplierMilli))^[n - 1] policy.baseDelayMs)) ∧
    (policy.jitterMode = .equal → ∀ n, policy.baseBackoffMs n / 2 ≤
          policy.jitteredDelayMs leadingHex n (policy.baseBackoffMs n) ∧
        policy.jitteredDelayMs leadingHex n (policy.baseBackoffMs n) ≤ policy.baseBackoffMs n) ∧
    (∀ retries last, (retries ++ [last]).IsChain Retried.leadsTo →
      (∀ r ∈ retries ++ [last], r.decided leadingHex policy) →
      retries.length + 2 ≤ policy.maxAttempts ∧
        spentMs retries + last.delayMs + policy.minimumAttemptRuntimeMs ≤
          policy.retryBudgetMs) := by
  refine ⟨fun _ _ _ _ hnow helapsed => decideRetry_decided hvalid hnow helapsed,
    baseBackoffMs_mono policy, baseBackoffMs_eq policy, fun hequal n =>
      ⟨jitteredDelayMs_equal policy _ _ _ hequal, jitteredDelayMs_le policy _ _ _⟩, ?_⟩
  intro retries last hchain hdecided
  have htimes : ∀ r ∈ retries ++ [last], 0 ≤ r.nowMs ∧ 0 ≤ r.elapsedMs := by
    intro r hr
    obtain ⟨d, hd, -⟩ := hdecided r hr
    by_contra hneg
    have hraises : r.nowMs < 0 ∨ r.elapsedMs < 0 := by omega
    rw [decideRetry, if_pos hraises] at hd
    cases hd
  obtain ⟨hattempt, hspent⟩ := chain_spent hchain fun r hr => (htimes r hr).2
  obtain ⟨hnow, helapsed⟩ := htimes last (by simp)
  obtain ⟨d, hd, hretry, hdelay⟩ := hdecided last (by simp)
  obtain ⟨d', hd', hsound⟩ := @decideRetry_decided leadingHex _ _ _ _ _ hvalid hnow helapsed
  rw [hd, Except.ok.injEq] at hd'
  subst hd'
  obtain ⟨delay, hsound⟩ := hsound hretry
  have hsame := hsound.delayed.symm.trans hdelay
  rw [Option.some.injEq] at hsame
  have hless := hsound.attempts
  have hbudget := hsound.budget
  rw [hsame] at hbudget
  omega

def samplePolicyFields : PolicyFields where
  schemaVersion := .current
  policyId := "policy"
  revision := 1
  maxAttempts := 3
  baseDelayMs := 100
  maxDelayMs := 1000
  multiplierMilli := 2000
  jitterMode := .none
  jitterSeedSha256 := none
  respectRetryAfter := true
  maxRetryAfterMs := 1000
  retryBudgetMs := 10000
  minimumAttemptRuntimeMs := 10
  policySha256 := .sha256 <| .ofList
    [SchemaVersion.canon .current, .text "policy", .num 1, .num 3, .num 100, .num 1000,
      .num 2000, .text "none", .null, .flag true, .num 1000, .num 10000, .num 10]

lemma samplePolicyFields_valid : samplePolicyFields.valid = true := by decide

/-- The backoff doubles from the first attempt to the second. -/
theorem decideRetry_sample :
    RetryPolicy.baseBackoffMs ⟨samplePolicyFields, samplePolicyFields_valid⟩ 1 ≤
      RetryPolicy.baseBackoffMs ⟨samplePolicyFields, samplePolicyFields_valid⟩ 2 :=
  (decideRetry_sound (fun _ => 0) ⟨samplePolicyFields, samplePolicyFields_valid⟩
    (by decide)).2.1 (by decide)

end Tiangong.Retry
