import Mathlib.Order.Nat
import Tiangong.Canon

/-!
# The circuit breaker

A breaker admits requests while it is closed, denies them while it is open, and admits a bounded
number of probes while it is half open. Snapshots are immutable and carry their own digest.
-/
namespace Tiangong

def circuitPolicyInRange (revision failureThreshold rollingWindowMs openDurationMs
    halfOpenMaxInFlight halfOpenSuccessThreshold : ℕ) : Bool :=
  1 ≤ revision && 1 ≤ failureThreshold && failureThreshold ≤ 10000 &&
    1000 ≤ rollingWindowMs && rollingWindowMs ≤ 86400000 &&
    1000 ≤ openDurationMs && openDurationMs ≤ 86400000 &&
    1 ≤ halfOpenMaxInFlight && halfOpenMaxInFlight ≤ 1000 &&
    1 ≤ halfOpenSuccessThreshold && halfOpenSuccessThreshold ≤ 1000

structure CircuitBreakerPolicy where
  schemaVersion : SchemaVersion
  policyId : String
  revision : ℕ
  failureThreshold : ℕ
  rollingWindowMs : ℕ
  openDurationMs : ℕ
  halfOpenMaxInFlight : ℕ
  halfOpenSuccessThreshold : ℕ
  policySha256 : Canon
  in_range : circuitPolicyInRange revision failureThreshold rollingWindowMs openDurationMs
    halfOpenMaxInFlight halfOpenSuccessThreshold = true

namespace CircuitBreakerPolicy

def computedSha256 (p : CircuitBreakerPolicy) : Canon :=
  .sha256 <| .ofList
    [p.schemaVersion.canon, .text p.policyId, .num p.revision, .num p.failureThreshold,
      .num p.rollingWindowMs, .num p.openDurationMs, .num p.halfOpenMaxInFlight,
      .num p.halfOpenSuccessThreshold]

def hasValidSha256 (p : CircuitBreakerPolicy) : Bool := p.policySha256 = p.computedSha256

def withComputedSha256 (p : CircuitBreakerPolicy) : CircuitBreakerPolicy :=
  { p with policySha256 := p.computedSha256 }

end CircuitBreakerPolicy

/-- The state of a breaker with the columns its validator admits in that state. -/
inductive CircuitState where
  | closed
  | opened (openedAtMs nextProbeAtMs : ℕ)
  | halfOpen (openedAtMs nextProbeAtMs inFlight successes : ℕ)
  deriving DecidableEq, Repr

namespace CircuitState

def inFlight : CircuitState → ℕ
  | halfOpen _ _ n _ => n
  | _ => 0

def successes : CircuitState → ℕ
  | halfOpen _ _ _ n => n
  | _ => 0

def isHalfOpen : CircuitState → Bool
  | halfOpen .. => true
  | _ => false

def canon (state : CircuitState) : Canon :=
  .ofList <| match state with
    | closed => [.text "CLOSED", .null, .null, .num 0, .num 0]
    | opened openedAt nextProbe =>
      [.text "OPEN", .cons (.num openedAt) .null, .cons (.num nextProbe) .null, .num 0, .num 0]
    | halfOpen openedAt nextProbe inFlight successes =>
      [.text "HALF_OPEN", .cons (.num openedAt) .null, .cons (.num nextProbe) .null,
        .num inFlight, .num successes]

end CircuitState

structure CircuitBreakerSnapshot where
  schemaVersion : SchemaVersion
  breakerId : String
  targetComponentId : String
  policyId : String
  policyRevision : ℕ
  policySha256 : Canon
  state : CircuitState
  revision : ℕ
  windowStartedAtMs : ℕ
  countedFailures : ℕ
  updatedAtMs : ℕ
  snapshotSha256 : Canon
  deriving DecidableEq, Repr

namespace CircuitBreakerSnapshot

def computedSha256 (s : CircuitBreakerSnapshot) : Canon :=
  .sha256 <| .ofList
    [s.schemaVersion.canon, .text s.breakerId, .text s.targetComponentId, .text s.policyId,
      .num s.policyRevision, s.policySha256, s.state.canon, .num s.revision,
      .num s.windowStartedAtMs, .num s.countedFailures, .num s.updatedAtMs]

def hasValidSha256 (s : CircuitBreakerSnapshot) : Bool := s.snapshotSha256 = s.computedSha256

def withComputedSha256 (s : CircuitBreakerSnapshot) : CircuitBreakerSnapshot :=
  { s with snapshotSha256 := s.computedSha256 }

@[simp] theorem withComputedSha256_valid (s : CircuitBreakerSnapshot) :
    s.withComputedSha256.hasValidSha256 = true := by
  simp [hasValidSha256, withComputedSha256, computedSha256]

@[simp] theorem withComputedSha256_state (s : CircuitBreakerSnapshot) :
    s.withComputedSha256.state = s.state := rfl

def policyMatches (s : CircuitBreakerSnapshot) (policy : CircuitBreakerPolicy) : Bool :=
  s.policyId = policy.policyId && s.policyRevision = policy.revision &&
    s.policySha256 = policy.policySha256 && policy.hasValidSha256

end CircuitBreakerSnapshot

inductive PermissionDisposition where
  | allowClosed | allowProbe | denyOpen | denyProbeLimit | timeInvalid | digestInvalid
  | policyMismatch
  deriving DecidableEq, Repr

structure CircuitPermission where
  disposition : PermissionDisposition
  retryAfterMs : Option ℕ
  reasonCode : String
  previous : CircuitBreakerSnapshot
  current : CircuitBreakerSnapshot
  deriving DecidableEq, Repr

namespace CircuitPermission

def accepted (p : CircuitPermission) : Bool :=
  p.disposition = .allowClosed || p.disposition = .allowProbe

def probe (p : CircuitPermission) : Bool := p.disposition = .allowProbe

end CircuitPermission

inductive CircuitOutcome where
  | success | countedFailure | ignoredFailure
  deriving DecidableEq, Repr

inductive UpdateDisposition where
  | closedReset | closedRecorded | opened | halfOpenProgress | reopened | ignored | digestInvalid
  | policyMismatch
  deriving DecidableEq, Repr

structure CircuitUpdate where
  outcome : CircuitOutcome
  probe : Bool
  disposition : UpdateDisposition
  observedAtMs : ℕ
  evidenceSha256 : Canon
  reasonCode : String
  previous : CircuitBreakerSnapshot
  current : CircuitBreakerSnapshot
  deriving DecidableEq, Repr

inductive CircuitError where
  /-- `ValueError`. -/
  | value (text : String)
  deriving DecidableEq, Repr

def newCircuitBreaker (policy : CircuitBreakerPolicy) (breakerId targetComponentId : String)
    (nowMs : ℕ) : Except CircuitError CircuitBreakerSnapshot :=
  if policy.hasValidSha256 = false then .error (.value "circuit policy digest is invalid")
  else .ok <| CircuitBreakerSnapshot.withComputedSha256
    { schemaVersion := .current
      breakerId := breakerId
      targetComponentId := targetComponentId
      policyId := policy.policyId
      policyRevision := policy.revision
      policySha256 := policy.policySha256
      state := .closed
      revision := 0
      windowStartedAtMs := nowMs
      countedFailures := 0
      updatedAtMs := nowMs
      snapshotSha256 := .null }

/-- The snapshot after a granted probe. -/
def probed (s : CircuitBreakerSnapshot) (state : CircuitState) (nowMs : ℕ) :
    CircuitBreakerSnapshot :=
  CircuitBreakerSnapshot.withComputedSha256
    { s with state := state, revision := s.revision + 1, updatedAtMs := nowMs }

def acquireCircuitPermission (s : CircuitBreakerSnapshot) (policy : CircuitBreakerPolicy)
    (nowMs : ℕ) : CircuitPermission :=
  if s.hasValidSha256 = false then ⟨.digestInvalid, none, "circuit.digest_invalid", s, s⟩
  else if s.policyMatches policy = false then
    ⟨.policyMismatch, none, "circuit.policy_mismatch", s, s⟩
  else if nowMs < s.updatedAtMs then ⟨.timeInvalid, none, "circuit.request_backdated", s, s⟩
  else match s.state with
    | .closed => ⟨.allowClosed, none, "circuit.closed", s, s⟩
    | .opened openedAt nextProbe =>
      if nowMs < nextProbe then ⟨.denyOpen, some (nextProbe - nowMs), "circuit.open", s, s⟩
      else ⟨.allowProbe, none, "circuit.half_open_probe", s,
        probed s (.halfOpen openedAt nextProbe 1 0) nowMs⟩
    | .halfOpen openedAt nextProbe inFlight successes =>
      if policy.halfOpenMaxInFlight ≤ inFlight then
        ⟨.denyProbeLimit, none, "circuit.half_open_probe_limit", s, s⟩
      else ⟨.allowProbe, none, "circuit.half_open_probe", s,
        probed s (.halfOpen openedAt nextProbe (inFlight + 1) successes) nowMs⟩

/-- The outcome comes too late for the state it finds. -/
def outcomeLate (state : CircuitState) (probe : Bool) : Bool :=
  match state with
  | .closed => probe
  | .opened .. => true
  | .halfOpen _ _ inFlight _ => !probe || inFlight = 0

def closedOutcome (s : CircuitBreakerSnapshot) (policy : CircuitBreakerPolicy)
    (outcome : CircuitOutcome) (observedAtMs : ℕ) :
    UpdateDisposition × String × CircuitBreakerSnapshot :=
  match outcome with
  | .ignoredFailure => (.ignored, "circuit.failure_ignored", s)
  | .success =>
    (.closedReset, "circuit.success_reset", CircuitBreakerSnapshot.withComputedSha256
      { s with
        revision := s.revision + 1
        windowStartedAtMs := observedAtMs
        countedFailures := 0
        updatedAtMs := observedAtMs })
  | .countedFailure =>
    let windowExpired := policy.rollingWindowMs < observedAtMs - s.windowStartedAtMs
    let failureCount := if windowExpired then 1 else s.countedFailures + 1
    let windowStarted := if windowExpired then observedAtMs else s.windowStartedAtMs
    let counted : CircuitBreakerSnapshot := { s with
      revision := s.revision + 1
      windowStartedAtMs := windowStarted
      countedFailures := failureCount
      updatedAtMs := observedAtMs }
    if policy.failureThreshold ≤ failureCount then
      (.opened, "circuit.failure_threshold_reached", CircuitBreakerSnapshot.withComputedSha256
        { counted with state := .opened observedAtMs (observedAtMs + policy.openDurationMs) })
    else (.closedRecorded, "circuit.failure_recorded", counted.withComputedSha256)

/-- The outcome of a probe on a half-open breaker with `inFlight` probes and `successes`. -/
def probeOutcome (s : CircuitBreakerSnapshot) (policy : CircuitBreakerPolicy)
    (openedAtMs nextProbeAtMs inFlight successes : ℕ) (outcome : CircuitOutcome)
    (observedAtMs : ℕ) : UpdateDisposition × String × CircuitBreakerSnapshot :=
  let moved : CircuitBreakerSnapshot :=
    { s with revision := s.revision + 1, updatedAtMs := observedAtMs }
  if outcome = .countedFailure then
    (.reopened, "circuit.probe_failed", CircuitBreakerSnapshot.withComputedSha256
      { moved with
        state := .opened observedAtMs (observedAtMs + policy.openDurationMs)
        countedFailures := min 10000 (s.countedFailures + 1) })
  else
    let reached := if outcome = .success then successes + 1 else successes
    if outcome = .success ∧ policy.halfOpenSuccessThreshold ≤ reached then
      (.closedReset, "circuit.probe_recovered", CircuitBreakerSnapshot.withComputedSha256
        { moved with state := .closed, windowStartedAtMs := observedAtMs, countedFailures := 0 })
    else (.halfOpenProgress, "circuit.probe_progress", CircuitBreakerSnapshot.withComputedSha256
      { moved with state := .halfOpen openedAtMs nextProbeAtMs (inFlight - 1) reached })

def recordCircuitOutcome (s : CircuitBreakerSnapshot) (policy : CircuitBreakerPolicy)
    (outcome : CircuitOutcome) (probe : Bool) (observedAtMs : ℕ) (evidenceSha256 : Canon) :
    CircuitUpdate :=
  let update := fun (r : UpdateDisposition × String × CircuitBreakerSnapshot) =>
    CircuitUpdate.mk outcome probe r.1 observedAtMs evidenceSha256 r.2.1 s r.2.2
  if s.hasValidSha256 = false then update (.digestInvalid, "circuit.digest_invalid", s)
  else if s.policyMatches policy = false then
    update (.policyMismatch, "circuit.policy_mismatch", s)
  else if observedAtMs < s.updatedAtMs then update (.ignored, "circuit.outcome_backdated", s)
  else if outcomeLate s.state probe then update (.ignored, "circuit.outcome_late", s)
  else match s.state with
    | .halfOpen openedAt nextProbe inFlight successes =>
      update (probeOutcome s policy openedAt nextProbe inFlight successes outcome observedAtMs)
    | _ => update (closedOutcome s policy outcome observedAtMs)

end Tiangong
