import Mathlib.Data.List.Induction
import Mathlib.Data.List.Perm.Basic
import Tiangong.Machines
import Tiangong.CircuitBreaker

/-!
# Probe accounting

A run of a breaker grants permissions and hears one outcome for each of them, in any order and as
late as it likes. The run numbers the half-open periods and remembers in which period a probe was
granted, which the breaker itself does not: an outcome of a probe of an earlier period counts like
one of the current period, and the probes still running are forgotten when a new period begins.
-/
open List

namespace Tiangong

open CircuitBreakerSnapshot CircuitState

/-- A granted permission whose outcome has not been reported. -/
structure Permit where
  probe : Bool
  period : ℕ
  deriving DecidableEq, Repr

/-- A probe of the given half-open period. -/
def Permit.current (p : Permit) (period : ℕ) : Bool := p.probe && p.period = period

structure BreakerRun where
  snapshot : CircuitBreakerSnapshot
  clock : ℕ
  outstanding : List Permit
  /-- The number of transitions to `HALF_OPEN`. -/
  period : ℕ
  /-- Successes of probes of this period. -/
  successes : ℕ

/-- Times never decrease: a call comes `delayMs` after the call before it. -/
inductive BreakerCall where
  | acquire (delayMs : ℕ)
  | report (index : ℕ) (outcome : CircuitOutcome) (delayMs : ℕ) (evidenceSha256 : Canon)

namespace BreakerRun

def start (snapshot : CircuitBreakerSnapshot) (nowMs : ℕ) : BreakerRun :=
  { snapshot := snapshot, clock := nowMs, outstanding := [], period := 0, successes := 0 }

def outstandingProbes (r : BreakerRun) : ℕ := r.outstanding.countP (·.probe)

def currentProbes (r : BreakerRun) : ℕ := r.outstanding.countP (Permit.current · r.period)

def acquire (policy : CircuitBreakerPolicy) (r : BreakerRun) (delayMs : ℕ) : BreakerRun :=
  let permission := acquireCircuitPermission r.snapshot policy (r.clock + delayMs)
  let reopening := permission.probe && !r.snapshot.state.isHalfOpen
  let period := if reopening then r.period + 1 else r.period
  { snapshot := permission.current
    clock := r.clock + delayMs
    outstanding :=
      if permission.accepted then ⟨permission.probe, period⟩ :: r.outstanding else r.outstanding
    period := period
    successes := if reopening then 0 else r.successes }

def report (policy : CircuitBreakerPolicy) (r : BreakerRun) (index : ℕ) (permit : Permit)
    (outcome : CircuitOutcome) (delayMs : ℕ) (evidenceSha256 : Canon) : BreakerRun :=
  let update := recordCircuitOutcome r.snapshot policy outcome permit.probe (r.clock + delayMs)
    evidenceSha256
  { snapshot := update.current
    clock := r.clock + delayMs
    outstanding := r.outstanding.eraseIdx index
    period := r.period
    successes := if Permit.current permit r.period && outcome = .success then r.successes + 1
      else r.successes }

/-- Only an outstanding permission can be reported. -/
def call (policy : CircuitBreakerPolicy) (r : BreakerRun) : BreakerCall → BreakerRun
  | .acquire delayMs => r.acquire policy delayMs
  | .report index outcome delayMs evidenceSha256 =>
    match r.outstanding[index]? with
    | none => r
    | some permit => r.report policy index permit outcome delayMs evidenceSha256

end BreakerRun

def breakerMachine (policy : CircuitBreakerPolicy) : Machine BreakerRun BreakerCall Unit :=
  ⟨fun r i => (r.call policy i, ())⟩

/-- The breaker grants a probe to a request at `nowMs`. -/
def CircuitState.admitsProbe (policy : CircuitBreakerPolicy) (nowMs : ℕ) : CircuitState → Bool
  | closed => false
  | opened _ nextProbe => nextProbe ≤ nowMs
  | halfOpen _ _ inFlight _ => inFlight < policy.halfOpenMaxInFlight

/-- The call is one that the breaker gets wrong since it does not know the period of a probe: it
grants a probe while all slots are taken by outstanding ones, or it hears the outcome of a probe
of an earlier period while probes of the current one are in flight. -/
def Overlooks (policy : CircuitBreakerPolicy) (r : BreakerRun) : BreakerCall → Prop
  | .acquire delayMs => r.snapshot.state.admitsProbe policy (r.clock + delayMs) = true ∧
      policy.halfOpenMaxInFlight ≤ r.outstandingProbes
  | .report index _ _ _ => 0 < r.snapshot.state.inFlight ∧
      ∃ permit, r.outstanding[index]? = some permit ∧ permit.probe = true ∧ permit.period ≠ r.period

/-- What the breaker promises about its probes at a call. -/
structure ProbesAccounted (policy : CircuitBreakerPolicy) (r : BreakerRun) (i : BreakerCall) :
    Prop where
  bounded : (r.call policy i).outstandingProbes ≤ policy.halfOpenMaxInFlight
  closes : r.snapshot.state.isHalfOpen = true → (r.call policy i).snapshot.state = .closed →
    policy.halfOpenSuccessThreshold ≤ (r.call policy i).successes
  stale : ∀ index outcome delayMs evidenceSha256 permit,
    i = .report index outcome delayMs evidenceSha256 → r.outstanding[index]? = some permit →
    permit.probe = true → permit.period ≠ r.period →
      (r.call policy i).snapshot.state.inFlight = r.snapshot.state.inFlight ∧
        (r.call policy i).snapshot.state.successes = r.snapshot.state.successes

section

variable {policy : CircuitBreakerPolicy} {s : CircuitBreakerSnapshot} {nowMs : ℕ}

/-- The checks that every call makes before it looks at the state. -/
structure Usable (policy : CircuitBreakerPolicy) (s : CircuitBreakerSnapshot) (nowMs : ℕ) :
    Prop where
  digest : s.hasValidSha256 = true
  matches_policy : s.policyMatches policy = true
  updated : s.updatedAtMs ≤ nowMs

def CircuitState.withProbe : CircuitState → CircuitState
  | closed => closed
  | opened openedAt nextProbe => halfOpen openedAt nextProbe 1 0
  | halfOpen openedAt nextProbe inFlight successes =>
    halfOpen openedAt nextProbe (inFlight + 1) successes

lemma acquire_probe (h : Usable policy s nowMs)
    (hadmits : s.state.admitsProbe policy nowMs = true) :
    acquireCircuitPermission s policy nowMs = ⟨.allowProbe, none, "circuit.half_open_probe", s,
      probed s s.state.withProbe nowMs⟩ := by
  have htime : ¬ nowMs < s.updatedAtMs := Nat.not_lt.mpr h.updated
  unfold acquireCircuitPermission
  simp only [h.digest, h.matches_policy, htime, Bool.true_eq_false, if_false]
  cases hstate : s.state with
  | closed => simp [hstate, admitsProbe] at hadmits
  | opened openedAt nextProbe =>
    simp only [hstate, admitsProbe, decide_eq_true_eq] at hadmits
    simp only [withProbe, Nat.not_lt.mpr hadmits, if_false]
  | halfOpen openedAt nextProbe inFlight successes =>
    simp only [hstate, admitsProbe, decide_eq_true_eq] at hadmits
    simp only [withProbe, Nat.not_le.mpr hadmits, if_false]

lemma acquire_noProbe (h : Usable policy s nowMs)
    (hrefuses : s.state.admitsProbe policy nowMs = false) :
    (acquireCircuitPermission s policy nowMs).probe = false ∧
      (acquireCircuitPermission s policy nowMs).current = s := by
  have htime : ¬ nowMs < s.updatedAtMs := Nat.not_lt.mpr h.updated
  unfold acquireCircuitPermission
  simp only [h.digest, h.matches_policy, htime, Bool.true_eq_false, if_false]
  cases hstate : s.state with
  | closed => exact ⟨rfl, rfl⟩
  | opened openedAt nextProbe =>
    simp only [hstate, admitsProbe, decide_eq_false_iff_not, not_le] at hrefuses
    simp only [hrefuses, if_true]
    exact ⟨rfl, trivial⟩
  | halfOpen openedAt nextProbe inFlight successes =>
    simp only [hstate, admitsProbe, decide_eq_false_iff_not, not_lt] at hrefuses
    simp only [hrefuses, if_true]
    exact ⟨rfl, trivial⟩

lemma probed_usable (h : Usable policy s nowMs) (state : CircuitState) :
    Usable policy (probed s state nowMs) nowMs :=
  ⟨withComputedSha256_valid _, h.matches_policy, le_refl _⟩

variable {outcome : CircuitOutcome} {evidenceSha256 : Canon}

lemma record_late {probe : Bool} (h : Usable policy s nowMs)
    (hlate : outcomeLate s.state probe = true) :
    (recordCircuitOutcome s policy outcome probe nowMs evidenceSha256).current = s := by
  have htime : ¬ nowMs < s.updatedAtMs := Nat.not_lt.mpr h.updated
  unfold recordCircuitOutcome
  simp only [h.digest, h.matches_policy, htime, hlate, Bool.true_eq_false, if_false, if_true]

lemma record_closed (h : Usable policy s nowMs) (hstate : s.state = .closed) :
    (recordCircuitOutcome s policy outcome false nowMs evidenceSha256).current =
      (closedOutcome s policy outcome nowMs).2.2 := by
  have htime : ¬ nowMs < s.updatedAtMs := Nat.not_lt.mpr h.updated
  unfold recordCircuitOutcome
  simp only [h.digest, h.matches_policy, htime, hstate, outcomeLate, Bool.true_eq_false,
    Bool.false_eq_true, if_false]

lemma record_probe {openedAt nextProbe inFlight successes : ℕ} (h : Usable policy s nowMs)
    (hstate : s.state = .halfOpen openedAt nextProbe inFlight successes) (hflight : 0 < inFlight) :
    (recordCircuitOutcome s policy outcome true nowMs evidenceSha256).current =
      (probeOutcome s policy openedAt nextProbe inFlight successes outcome nowMs).2.2 := by
  have htime : ¬ nowMs < s.updatedAtMs := Nat.not_lt.mpr h.updated
  have hlate : outcomeLate (.halfOpen openedAt nextProbe inFlight successes) true = false := by
    simp only [outcomeLate, Bool.not_true, Bool.false_or, decide_eq_false_iff_not]
    omega
  unfold recordCircuitOutcome
  simp only [h.digest, h.matches_policy, htime, hstate, hlate, Bool.true_eq_false,
    Bool.false_eq_true, if_false]

lemma closedOutcome_usable (h : Usable policy s nowMs) :
    Usable policy (closedOutcome s policy outcome nowMs).2.2 nowMs := by
  unfold closedOutcome
  cases outcome with
  | ignoredFailure => exact h
  | success =>
    exact ⟨withComputedSha256_valid _, h.matches_policy, le_refl _⟩
  | countedFailure =>
    dsimp only
    repeat' split
    all_goals
      exact ⟨withComputedSha256_valid _, h.matches_policy, le_refl _⟩

lemma probeOutcome_usable (h : Usable policy s nowMs)
    (openedAt nextProbe inFlight successes : ℕ) : Usable policy
      (probeOutcome s policy openedAt nextProbe inFlight successes outcome nowMs).2.2 nowMs := by
  unfold probeOutcome
  dsimp only
  repeat' split
  all_goals
    exact ⟨withComputedSha256_valid _, h.matches_policy, le_refl _⟩

lemma closedOutcome_state (hstate : s.state = .closed) :
    (closedOutcome s policy outcome nowMs).2.2.state.isHalfOpen = false := by
  unfold closedOutcome
  cases outcome with
  | ignoredFailure => simp [hstate, isHalfOpen]
  | success => simp [hstate, isHalfOpen]
  | countedFailure =>
    dsimp only
    repeat' split
    all_goals simp [hstate, isHalfOpen]

lemma probeOutcome_state (policy : CircuitBreakerPolicy) (s : CircuitBreakerSnapshot)
    (outcome : CircuitOutcome) (nowMs openedAt nextProbe inFlight successes : ℕ) :
    let reached := if outcome = .success then successes + 1 else successes
    let state := (probeOutcome s policy openedAt nextProbe inFlight successes outcome
      nowMs).2.2.state
    (∃ opened next, state = .opened opened next) ∨
      (state = .closed ∧ outcome = .success ∧ policy.halfOpenSuccessThreshold ≤ reached) ∨
      state = .halfOpen openedAt nextProbe (inFlight - 1) reached := by
  unfold probeOutcome
  dsimp only
  generalize (if outcome = .success then successes + 1 else successes) = reached
  split
  · exact .inl ⟨_, _, rfl⟩
  · split
    · next h => exact .inr (.inl ⟨rfl, h⟩)
    · exact .inr (.inr rfl)

end

namespace BreakerRun

variable {policy : CircuitBreakerPolicy} {r : BreakerRun} {i : BreakerCall}

/-- The checks of every call pass in the run. -/
def Sound (policy : CircuitBreakerPolicy) (r : BreakerRun) : Prop :=
  Usable policy r.snapshot r.clock

/-- The counters of a half-open breaker count the probes of the current period. -/
structure Counted (r : BreakerRun) : Prop where
  counters : r.snapshot.state.isHalfOpen = true →
    r.snapshot.state.inFlight = r.currentProbes ∧ r.snapshot.state.successes = r.successes
  periods : ∀ p ∈ r.outstanding, p.period ≤ r.period

theorem Sound.later (h : r.Sound policy) (delayMs : ℕ) :
    Usable policy r.snapshot (r.clock + delayMs) :=
  ⟨h.digest, h.matches_policy, le_trans h.updated (Nat.le_add_right _ _)⟩

lemma call_report (policy : CircuitBreakerPolicy) (r : BreakerRun) (index : ℕ)
    (outcome : CircuitOutcome) (delayMs : ℕ) (evidenceSha256 : Canon) :
    (r.outstanding[index]? = none ∧
        r.call policy (.report index outcome delayMs evidenceSha256) = r) ∨
      ∃ permit, r.outstanding[index]? = some permit ∧
        r.call policy (.report index outcome delayMs evidenceSha256) =
          r.report policy index permit outcome delayMs evidenceSha256 := by
  cases hget : r.outstanding[index]? with
  | none => exact .inl ⟨rfl, by simp only [call, hget]⟩
  | some permit => exact .inr ⟨permit, rfl, by simp only [call, hget]⟩

lemma acquire_of_probe (h : r.Sound policy) {delayMs : ℕ}
    (hadmits : r.snapshot.state.admitsProbe policy (r.clock + delayMs) = true) :
    r.acquire policy delayMs =
      { snapshot := probed r.snapshot r.snapshot.state.withProbe (r.clock + delayMs)
        clock := r.clock + delayMs
        outstanding :=
          ⟨true, if r.snapshot.state.isHalfOpen then r.period else r.period + 1⟩ :: r.outstanding
        period := if r.snapshot.state.isHalfOpen then r.period else r.period + 1
        successes := if r.snapshot.state.isHalfOpen then r.successes else 0 } := by
  simp only [acquire, acquire_probe (h.later delayMs) hadmits, CircuitPermission.probe,
    CircuitPermission.accepted]
  cases r.snapshot.state.isHalfOpen <;> simp

/-- Without a probe the snapshot stays; only an ordinary permission may be granted. -/
lemma acquire_of_noProbe (h : r.Sound policy) {delayMs : ℕ}
    (hrefuses : r.snapshot.state.admitsProbe policy (r.clock + delayMs) = false) :
    r.acquire policy delayMs = { r with clock := r.clock + delayMs } ∨ r.acquire policy delayMs =
        { r with
          clock := r.clock + delayMs
          outstanding := ⟨false, r.period⟩ :: r.outstanding } := by
  obtain ⟨hprobe, hsame⟩ := acquire_noProbe (h.later delayMs) hrefuses
  cases haccepted : (acquireCircuitPermission r.snapshot policy (r.clock + delayMs)).accepted with
  | true => exact .inr (by simp [acquire, hprobe, hsame, haccepted])
  | false => exact .inl (by simp [acquire, hprobe, hsame, haccepted])

lemma acquire_sound (h : r.Sound policy) (delayMs : ℕ) :
    (r.acquire policy delayMs).Sound policy := by
  cases hadmits : r.snapshot.state.admitsProbe policy (r.clock + delayMs) with
  | true =>
    rw [acquire_of_probe h hadmits]
    exact probed_usable (h.later delayMs) _
  | false =>
    rcases acquire_of_noProbe h hadmits with hrun | hrun <;>
      (rw [hrun]; exact h.later delayMs)

/-- An outcome that is not late arrives on a closed breaker without the probe flag or on a
half-open one with it. -/
lemma outcome_inTime {state : CircuitState} {probe : Bool}
    (h : outcomeLate state probe = false) : (state = .closed ∧ probe = false) ∨
      ∃ openedAt nextProbe inFlight successes,
        state = .halfOpen openedAt nextProbe inFlight successes ∧ probe = true ∧ 0 < inFlight := by
  cases state with
  | closed => exact .inl ⟨rfl, h⟩
  | opened openedAt nextProbe => cases h
  | halfOpen openedAt nextProbe inFlight successes =>
    simp only [outcomeLate, Bool.or_eq_false_iff, Bool.not_eq_false', decide_eq_false_iff_not] at h
    exact .inr ⟨openedAt, nextProbe, inFlight, successes, rfl, h.1, Nat.pos_of_ne_zero h.2⟩

lemma report_sound (h : r.Sound policy) (index : ℕ) (permit : Permit)
    (outcome : CircuitOutcome) (delayMs : ℕ) (evidenceSha256 : Canon) :
    (r.report policy index permit outcome delayMs evidenceSha256).Sound policy := by
  have hlater := h.later delayMs
  unfold Sound report
  dsimp only
  cases hlate : outcomeLate r.snapshot.state permit.probe with
  | true =>
    rw [record_late hlater hlate]
    exact hlater
  | false =>
    rcases outcome_inTime hlate with ⟨hstate, hprobe⟩ | ⟨_, _, _, _, hstate, hprobe, hflight⟩
    · rw [hprobe, record_closed hlater hstate]
      exact closedOutcome_usable hlater
    · rw [hprobe, record_probe hlater hstate hflight]
      exact probeOutcome_usable hlater _ _ _ _

lemma call_sound (h : r.Sound policy) (i : BreakerCall) : (r.call policy i).Sound policy := by
  cases i with
  | acquire delayMs => exact acquire_sound h delayMs
  | report index outcome delayMs evidenceSha256 =>
    rcases call_report policy r index outcome delayMs evidenceSha256 with
      ⟨-, hcall⟩ | ⟨permit, -, hcall⟩
    · rw [hcall]
      exact h
    · rw [hcall]
      exact report_sound h index permit outcome delayMs evidenceSha256

/-- One occurrence less after an element is removed. -/
lemma countP_eraseIdx {α : Type*} {p : α → Bool} {l : List α} {index : ℕ} {a : α}
    (h : l[index]? = some a) : (l.eraseIdx index).countP p + (if p a then 1 else 0) = l.countP p := by
  obtain ⟨hlt, rfl⟩ := List.getElem?_eq_some_iff.mp h
  rw [← (getElem_cons_eraseIdx_perm hlt).countP_eq, countP_cons]

/-- No probe of a new period is outstanding when it begins. -/
lemma countP_next_period {permits : List Permit} {period : ℕ}
    (h : ∀ p ∈ permits, p.period ≤ period) :
    permits.countP (Permit.current · (period + 1)) = 0 := by
  rw [countP_eq_zero]
  intro p hp hcurrent
  simp only [Permit.current, Bool.and_eq_true, decide_eq_true_eq] at hcurrent
  have := h p hp
  omega

lemma acquire_counted (h : r.Sound policy) (hcounted : r.Counted) (delayMs : ℕ) :
    (r.acquire policy delayMs).Counted := by
  cases hadmits : r.snapshot.state.admitsProbe policy (r.clock + delayMs) with
  | true =>
    rw [acquire_of_probe h hadmits]
    cases hstate : r.snapshot.state with
    | closed => simp [hstate, admitsProbe] at hadmits
    | opened openedAt nextProbe =>
      constructor
      · intro _
        have hnone := countP_next_period hcounted.periods
        simp [probed, withProbe, isHalfOpen, inFlight,
          CircuitState.successes, currentProbes, Permit.current] at hnone ⊢
        exact hnone
      · intro p hp
        rcases mem_cons.mp hp with rfl | hp
        · simp
        · exact Nat.le_succ_of_le (hcounted.periods p hp)
    | halfOpen openedAt nextProbe inFlight successes =>
      have hcounters := hcounted.counters (by rw [hstate]; rfl)
      rw [hstate] at hcounters
      constructor
      · intro _
        obtain ⟨hflight, hsuccesses⟩ := hcounters
        refine ⟨?_, hsuccesses⟩
        simp only [currentProbes, CircuitState.isHalfOpen, if_true, countP_cons]
        rw [currentProbes] at hflight
        simp only [CircuitState.inFlight] at hflight
        simp [probed, CircuitState.withProbe, CircuitState.inFlight, Permit.current, hflight]
      · intro p hp
        rcases mem_cons.mp hp with rfl | hp
        · exact le_refl _
        · exact hcounted.periods p hp
  | false =>
    rcases acquire_of_noProbe h hadmits with hrun | hrun
    · rw [hrun]
      exact ⟨hcounted.counters, hcounted.periods⟩
    · rw [hrun]
      constructor
      · intro hhalf
        obtain ⟨hflight, hsuccesses⟩ := hcounted.counters hhalf
        refine ⟨?_, hsuccesses⟩
        rw [hflight]
        simp [currentProbes, Permit.current]
      · intro p hp
        rcases mem_cons.mp hp with rfl | hp
        · exact le_refl _
        · exact hcounted.periods p hp

section

variable {index : ℕ} {permit : Permit}

/-- A half-open breaker ignores ordinary outcomes, and all outcomes while nothing is in flight. -/
lemma report_ignored (h : r.Sound policy) (hhalf : r.snapshot.state.isHalfOpen = true)
    (hignored : permit.probe = false ∨ r.snapshot.state.inFlight = 0) (index : ℕ)
    (outcome : CircuitOutcome) (delayMs : ℕ) (evidenceSha256 : Canon) :
    (r.report policy index permit outcome delayMs evidenceSha256).snapshot = r.snapshot := by
  apply record_late (h.later delayMs)
  cases hstate : r.snapshot.state with
  | closed => rw [hstate] at hhalf; cases hhalf
  | opened _ _ => rw [hstate] at hhalf; cases hhalf
  | halfOpen _ _ inFlight _ =>
    rw [hstate, CircuitState.inFlight] at hignored
    rcases hignored with hprobe | hnone
    · simp [outcomeLate, hprobe]
    · simp [outcomeLate, hnone]

lemma report_notHalfOpen (h : r.Sound policy) (hhalf : r.snapshot.state.isHalfOpen = false)
    (index : ℕ) (permit : Permit) (outcome : CircuitOutcome) (delayMs : ℕ)
    (evidenceSha256 : Canon) :
    (r.report policy index permit outcome delayMs evidenceSha256).snapshot.state.isHalfOpen =
      false := by
  have hlater := h.later delayMs
  unfold report
  dsimp only
  cases hlate : outcomeLate r.snapshot.state permit.probe with
  | true =>
    rw [record_late hlater hlate]
    exact hhalf
  | false =>
    rcases outcome_inTime hlate with ⟨hstate, hprobe⟩ | ⟨_, _, _, _, hstate, -, -⟩
    · rw [hprobe, record_closed hlater hstate]
      exact closedOutcome_state hstate
    · rw [hstate] at hhalf
      cases hhalf

lemma report_current (h : r.Sound policy) (hcounted : r.Counted)
    (hhalf : r.snapshot.state.isHalfOpen = true) (hget : r.outstanding[index]? = some permit)
    (hcurrent : permit.current r.period = true) (outcome : CircuitOutcome) (delayMs : ℕ)
    (evidenceSha256 : Canon) : ∃ openedAt nextProbe,
      r.snapshot.state = .halfOpen openedAt nextProbe r.currentProbes r.successes ∧
        (r.report policy index permit outcome delayMs evidenceSha256).snapshot =
          (probeOutcome r.snapshot policy openedAt nextProbe r.currentProbes r.successes outcome
            (r.clock + delayMs)).2.2 := by
  have hcounters := hcounted.counters hhalf
  cases hstate : r.snapshot.state with
  | closed => rw [hstate] at hhalf; cases hhalf
  | opened _ _ => rw [hstate] at hhalf; cases hhalf
  | halfOpen openedAt nextProbe inFlight successes =>
    rw [hstate] at hcounters
    obtain ⟨rfl, rfl⟩ := hcounters
    have hflight : 0 < r.currentProbes :=
      countP_pos_iff.mpr ⟨permit, mem_of_getElem? hget, hcurrent⟩
    have hprobe : permit.probe = true := by
      rw [Permit.current, Bool.and_eq_true] at hcurrent
      exact hcurrent.1
    refine ⟨openedAt, nextProbe, rfl, ?_⟩
    unfold report
    rw [hprobe]
    exact record_probe (h.later delayMs) hstate hflight

lemma ignored_of_not_current {outcome : CircuitOutcome} {delayMs : ℕ} {evidenceSha256 : Canon}
    (hgood : ¬ Overlooks policy r (.report index outcome delayMs evidenceSha256))
    (hget : r.outstanding[index]? = some permit) (hcurrent : permit.current r.period = false) :
    permit.probe = false ∨ r.snapshot.state.inFlight = 0 := by
  by_contra hnot
  rw [not_or, Bool.not_eq_false] at hnot
  refine hgood ⟨Nat.pos_of_ne_zero hnot.2, permit, hget, hnot.1, ?_⟩
  intro hperiod
  simp [Permit.current, hnot.1, hperiod] at hcurrent

lemma report_counted (h : r.Sound policy) (hcounted : r.Counted) {outcome : CircuitOutcome}
    {delayMs : ℕ} {evidenceSha256 : Canon}
    (hgood : ¬ Overlooks policy r (.report index outcome delayMs evidenceSha256))
    (hget : r.outstanding[index]? = some permit) :
    (r.report policy index permit outcome delayMs evidenceSha256).Counted := by
  refine ⟨?_, fun p hp => hcounted.periods p (mem_of_mem_eraseIdx hp)⟩
  intro hafter
  have hcount := @countP_eraseIdx _ (Permit.current · r.period) _ _ _ hget
  cases hhalf : r.snapshot.state.isHalfOpen with
  | false =>
    rw [report_notHalfOpen h hhalf] at hafter
    cases hafter
  | true =>
    cases hcurrent : permit.current r.period with
    | true =>
      obtain ⟨openedAt, nextProbe, -, hsnapshot⟩ :=
        report_current h hcounted hhalf hget hcurrent outcome delayMs evidenceSha256
      rw [hsnapshot] at hafter ⊢
      rw [hcurrent, if_pos rfl] at hcount
      rcases probeOutcome_state policy r.snapshot outcome (r.clock + delayMs) openedAt nextProbe
          r.currentProbes r.successes with
        ⟨_, _, hstate⟩ | ⟨hstate, -⟩ | hstate
      · rw [hstate] at hafter
        cases hafter
      · rw [hstate] at hafter
        cases hafter
      · rw [hstate]
        constructor
        · have hafterCount : r.currentProbes - 1 =
              (r.outstanding.eraseIdx index).countP (Permit.current · r.period) := by
            unfold currentProbes
            omega
          exact hafterCount
        · simp [report, hcurrent, CircuitState.successes]
    | false =>
      have hignored := ignored_of_not_current hgood hget hcurrent
      rw [report_ignored h hhalf hignored]
      obtain ⟨hflight, hsuccesses⟩ := hcounted.counters hhalf
      rw [hcurrent] at hcount
      constructor
      · rw [hflight]
        exact hcount.symm
      · rw [hsuccesses]
        simp [report, hcurrent]

end

lemma call_counted (h : r.Sound policy) (hcounted : r.Counted) (hgood : ¬ Overlooks policy r i) :
    (r.call policy i).Counted := by
  cases i with
  | acquire delayMs => exact acquire_counted h hcounted delayMs
  | report index outcome delayMs evidenceSha256 =>
    rcases call_report policy r index outcome delayMs evidenceSha256 with
      ⟨-, hcall⟩ | ⟨permit, hget, hcall⟩
    · rw [hcall]
      exact hcounted
    · rw [hcall]
      exact report_counted h hcounted hgood hget

lemma outstandingProbes_report (index : ℕ) (permit : Permit) (outcome : CircuitOutcome)
    (delayMs : ℕ) (evidenceSha256 : Canon) :
    (r.report policy index permit outcome delayMs evidenceSha256).outstandingProbes ≤
      r.outstandingProbes :=
  (eraseIdx_sublist _ _).countP_le

lemma call_bounded (h : r.Sound policy)
    (hbounded : r.outstandingProbes ≤ policy.halfOpenMaxInFlight)
    (hgood : ¬ Overlooks policy r i) :
    (r.call policy i).outstandingProbes ≤ policy.halfOpenMaxInFlight := by
  cases i with
  | acquire delayMs =>
    show (r.acquire policy delayMs).outstandingProbes ≤ _
    cases hadmits : r.snapshot.state.admitsProbe policy (r.clock + delayMs) with
    | true =>
      have hfree : ¬ policy.halfOpenMaxInFlight ≤ r.outstandingProbes :=
        fun hfull => hgood ⟨hadmits, hfull⟩
      rw [acquire_of_probe h hadmits]
      unfold outstandingProbes at hfree ⊢
      rw [countP_cons, if_pos rfl]
      omega
    | false =>
      rcases acquire_of_noProbe h hadmits with hrun | hrun
      · rw [hrun]
        exact hbounded
      · rw [hrun]
        unfold outstandingProbes at hbounded ⊢
        rw [countP_cons, if_neg Bool.false_ne_true]
        exact hbounded
  | report index outcome delayMs evidenceSha256 =>
    rcases call_report policy r index outcome delayMs evidenceSha256 with
      ⟨-, hcall⟩ | ⟨permit, -, hcall⟩
    · rw [hcall]
      exact hbounded
    · rw [hcall]
      exact le_trans (outstandingProbes_report _ _ _ _ _) hbounded

/-- Only an outcome of a current probe closes a half-open breaker, and then enough of them have
succeeded. -/
lemma call_closes (h : r.Sound policy) (hcounted : r.Counted) (hgood : ¬ Overlooks policy r i)
    (hhalf : r.snapshot.state.isHalfOpen = true)
    (hclosed : (r.call policy i).snapshot.state = .closed) :
    policy.halfOpenSuccessThreshold ≤ (r.call policy i).successes := by
  cases i with
  | acquire delayMs =>
    exfalso
    have hclosed : (r.acquire policy delayMs).snapshot.state = .closed := hclosed
    cases hadmits : r.snapshot.state.admitsProbe policy (r.clock + delayMs) with
    | true =>
      rw [acquire_of_probe h hadmits] at hclosed
      cases hstate : r.snapshot.state <;>
        simp [hstate, probed, withProbe, isHalfOpen] at hclosed hhalf
    | false =>
      rcases acquire_of_noProbe h hadmits with hrun | hrun <;>
        (rw [hrun] at hclosed; dsimp only at hclosed; rw [hclosed] at hhalf; cases hhalf)
  | report index outcome delayMs evidenceSha256 =>
    rcases call_report policy r index outcome delayMs evidenceSha256 with
      ⟨-, hcall⟩ | ⟨permit, hget, hcall⟩
    · rw [hcall] at hclosed
      rw [hclosed] at hhalf
      cases hhalf
    · rw [hcall] at hclosed ⊢
      cases hcurrent : permit.current r.period with
      | true =>
        obtain ⟨openedAt, nextProbe, -, hsnapshot⟩ :=
          report_current h hcounted hhalf hget hcurrent outcome delayMs evidenceSha256
        rw [hsnapshot] at hclosed
        rcases probeOutcome_state policy r.snapshot outcome (r.clock + delayMs) openedAt nextProbe
            r.currentProbes r.successes with
          ⟨_, _, hstate⟩ | ⟨-, hsuccess, hreached⟩ | hstate
        · rw [hstate] at hclosed
          cases hclosed
        · simpa [report, hcurrent, hsuccess] using hreached
        · rw [hstate] at hclosed
          cases hclosed
      | false =>
        have hignored := ignored_of_not_current hgood hget hcurrent
        rw [report_ignored h hhalf hignored] at hclosed
        rw [hclosed] at hhalf
        cases hhalf

lemma counters_of_notHalfOpen {state : CircuitState} (h : state.isHalfOpen = false) :
    state.inFlight = 0 ∧ state.successes = 0 := by
  cases state with
  | closed => exact ⟨rfl, rfl⟩
  | opened _ _ => exact ⟨rfl, rfl⟩
  | halfOpen _ _ _ _ => cases h

/-- An outcome that finds no probe in flight leaves the counters. -/
lemma report_counters (h : r.Sound policy) (hnone : r.snapshot.state.inFlight = 0) (index : ℕ)
    (permit : Permit) (outcome : CircuitOutcome) (delayMs : ℕ) (evidenceSha256 : Canon) :
    let after := (r.report policy index permit outcome delayMs evidenceSha256).snapshot.state
    after.inFlight = r.snapshot.state.inFlight ∧ after.successes = r.snapshot.state.successes := by
  cases hhalf : r.snapshot.state.isHalfOpen with
  | true =>
    rw [report_ignored h hhalf (.inr hnone)]
    exact ⟨rfl, rfl⟩
  | false =>
    have hbefore := counters_of_notHalfOpen hhalf
    have hafter := counters_of_notHalfOpen
      (report_notHalfOpen h hhalf index permit outcome delayMs evidenceSha256)
    exact ⟨hafter.1.trans hbefore.1.symm, hafter.2.trans hbefore.2.symm⟩

lemma probesAccounted_of_good (h : r.Sound policy) (hcounted : r.Counted)
    (hbounded : r.outstandingProbes ≤ policy.halfOpenMaxInFlight)
    (hgood : ¬ Overlooks policy r i) : ProbesAccounted policy r i := by
  refine ⟨call_bounded h hbounded hgood, call_closes h hcounted hgood, ?_⟩
  rintro index outcome delayMs evidenceSha256 permit rfl hget hprobe hperiod
  have hnone : r.snapshot.state.inFlight = 0 := by
    by_contra hsome
    exact hgood ⟨Nat.pos_of_ne_zero hsome, permit, hget, hprobe, hperiod⟩
  have hcall : r.call policy (.report index outcome delayMs evidenceSha256) =
      r.report policy index permit outcome delayMs evidenceSha256 := by
    simp only [call, hget]
  rw [hcall]
  exact report_counters h hnone index permit outcome delayMs evidenceSha256

/-- A breaker that hears the outcome of a probe takes it for one of the current period. -/
lemma probeOutcome_moves (policy : CircuitBreakerPolicy) (s : CircuitBreakerSnapshot) (outcome : CircuitOutcome)
    (nowMs openedAt nextProbe inFlight successes : ℕ) (hflight : 0 < inFlight) :
    (probeOutcome s policy openedAt nextProbe inFlight successes outcome nowMs).2.2.state.inFlight <
      inFlight := by
  rcases probeOutcome_state policy s outcome nowMs openedAt nextProbe inFlight successes with
    ⟨_, _, hstate⟩ | ⟨hstate, -⟩ | hstate
  · rw [hstate]
    exact hflight
  · rw [hstate]
    exact hflight
  · rw [hstate, CircuitState.inFlight]
    omega

lemma good_of_probesAccounted (h : r.Sound policy) (haccounted : ProbesAccounted policy r i) :
    ¬ Overlooks policy r i := by
  cases i with
  | acquire delayMs =>
    rintro ⟨hadmits, hfull⟩
    have hbounded : (r.acquire policy delayMs).outstandingProbes ≤ _ := haccounted.bounded
    rw [acquire_of_probe h hadmits] at hbounded
    unfold outstandingProbes at hbounded hfull
    rw [countP_cons, if_pos rfl] at hbounded
    omega
  | report index outcome delayMs evidenceSha256 =>
    rintro ⟨hflight, permit, hget, hprobe, hperiod⟩
    have hsame := (haccounted.stale index outcome delayMs evidenceSha256 permit rfl hget hprobe
      hperiod).1
    cases hstate : r.snapshot.state with
    | closed => rw [hstate] at hflight; cases hflight
    | opened _ _ => rw [hstate] at hflight; cases hflight
    | halfOpen openedAt nextProbe inFlight successes =>
      rw [hstate] at hflight
      have hmoves := probeOutcome_moves policy r.snapshot outcome (r.clock + delayMs)
        openedAt nextProbe inFlight successes hflight
      have hrecord := @record_probe policy r.snapshot (r.clock + delayMs) outcome evidenceSha256
        openedAt nextProbe inFlight successes (h.later delayMs) hstate hflight
      rw [← hrecord] at hmoves
      simp only [call, hget, report, hprobe] at hsame
      rw [hsame, hstate] at hmoves
      exact lt_irrefl _ hmoves

end BreakerRun

open BreakerRun

/-- Before every good call the counters are right and the probes are within their limit. -/
lemma accounted_exec {policy : CircuitBreakerPolicy} {r : BreakerRun} {calls : List BreakerCall}
    (h : r.Sound policy) (hcounted : r.Counted)
    (hbounded : r.outstandingProbes ≤ policy.halfOpenMaxInFlight) :
    (breakerMachine policy).Steps (ProbesAccounted policy) r calls ↔
      (breakerMachine policy).Steps (fun r i => ¬ Overlooks policy r i) r calls := by
  induction calls generalizing r with
  | nil => exact Iff.rfl
  | cons i calls ih =>
    rw [Machine.steps_cons, Machine.steps_cons]
    have hiff : ProbesAccounted policy r i ↔ ¬ Overlooks policy r i :=
      ⟨good_of_probesAccounted h, probesAccounted_of_good h hcounted hbounded⟩
    rw [hiff]
    refine and_congr_right fun hgood => ih (call_sound h i) (call_counted h hcounted hgood) ?_
    exact call_bounded h hbounded hgood

lemma start_sound {policy : CircuitBreakerPolicy} {breakerId targetComponentId : String}
    {nowMs : ℕ} {s : CircuitBreakerSnapshot}
    (h : newCircuitBreaker policy breakerId targetComponentId nowMs = .ok s) :
    (start s nowMs).Sound policy ∧ (start s nowMs).Counted := by
  unfold newCircuitBreaker at h
  split at h
  · cases h
  · next hvalid =>
    rw [Bool.not_eq_false] at hvalid
    rw [Except.ok.injEq] at h
    subst h
    refine ⟨⟨withComputedSha256_valid _, ?_, le_refl _⟩, ?_, ?_⟩
    · simp [start, policyMatches, withComputedSha256,
        hvalid]
    · intro hhalf
      cases hhalf
    · intro p hp
      cases hp

/-- A new breaker accounts for its probes in exactly the runs in which it overlooks none. -/
theorem probesAccounted_iff (policy : CircuitBreakerPolicy) (breakerId targetComponentId : String)
    (nowMs : ℕ) (s : CircuitBreakerSnapshot) (calls : List BreakerCall)
    (h : newCircuitBreaker policy breakerId targetComponentId nowMs = .ok s) :
    (breakerMachine policy).Steps (ProbesAccounted policy) (start s nowMs) calls ↔
      (breakerMachine policy).Steps (fun r i => ¬ Overlooks policy r i) (start s nowMs) calls :=
  accounted_exec (start_sound h).1 (start_sound h).2 (Nat.zero_le _)

def samplePolicy : CircuitBreakerPolicy :=
  CircuitBreakerPolicy.withComputedSha256
    { schemaVersion := .current
      policyId := "policy"
      revision := 1
      failureThreshold := 1
      rollingWindowMs := 1000
      openDurationMs := 1000
      halfOpenMaxInFlight := 2
      halfOpenSuccessThreshold := 1
      policySha256 := .null
      in_range := rfl }

def sampleBreaker : CircuitBreakerSnapshot :=
  withComputedSha256
    { schemaVersion := .current
      breakerId := "breaker"
      targetComponentId := "target"
      policyId := "policy"
      policyRevision := 1
      policySha256 := samplePolicy.policySha256
      state := .closed
      revision := 0
      windowStartedAtMs := 0
      countedFailures := 0
      updatedAtMs := 0
      snapshotSha256 := .null }

/-- A failure opens the breaker; two probes are granted and one of them fails; a third probe is
granted, and the second one of the earlier period reports its success. -/
def lateSuccess : List BreakerCall :=
  [.acquire 0, .report 0 .countedFailure 0 .null, .acquire 1000, .acquire 0,
    .report 0 .countedFailure 0 .null, .acquire 1000, .report 1 .success 0 .null]

theorem lateSuccess_closes :
    newCircuitBreaker samplePolicy "breaker" "target" 0 = .ok sampleBreaker ∧
      ¬ (breakerMachine samplePolicy).Steps (ProbesAccounted samplePolicy)
        (start sampleBreaker 0) lateSuccess := by
  refine ⟨by decide +kernel, fun h => ?_⟩
  have hlast := (Machine.steps_iff_split _).mp h (lateSuccess.take 6)
    (.report 1 .success 0 .null) [] rfl
  have hreached := hlast.closes (by decide +kernel) (by decide +kernel)
  revert hreached
  decide +kernel

/-- Without the late outcome the breaker accounts for its probes. -/
theorem probesAccounted_sample : (breakerMachine samplePolicy).Steps (ProbesAccounted samplePolicy)
    (start sampleBreaker 0) [.acquire 0, .report 0 .countedFailure 0 .null, .acquire 1000] := by
  refine (probesAccounted_iff samplePolicy "breaker" "target" 0 sampleBreaker _
    (by decide +kernel)).mpr ?_
  refine ⟨?_, ?_, ?_, trivial⟩
  · rintro ⟨hadmits, -⟩
    revert hadmits
    decide +kernel
  · rintro ⟨hflight, -⟩
    revert hflight
    decide +kernel
  · rintro ⟨-, hfull⟩
    revert hfull
    decide +kernel

end Tiangong
