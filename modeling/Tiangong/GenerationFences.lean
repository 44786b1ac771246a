import Tiangong.EffectLedger

/-!
# Generation fences

A fence names the lease under which one generation of a run works. Its identifier is the digest of
its fields, the fence it supersedes included, so that no fence can be its own predecessor.
-/
namespace Tiangong

/-- `derive_request_identity`. -/
def requestIdOf (idempotencyKey : Canon) : Canon :=
  .ident "req" (.ofList [.text "tiangong.identity.request.v1", idempotencyKey])

/-- `derive_run_identity`. -/
def runIdOf (requestId : Canon) (runSequence : ℕ) : Canon :=
  .ident "run" (.ofList [.text "tiangong.identity.run.v1", requestId, .num runSequence])

structure GenerationFence where
  schemaVersion : SchemaVersion
  fenceId : Canon
  gatewayEpoch : ℕ
  requestId : Canon
  runId : Canon
  runSequence : ℕ
  generation : ℕ
  leaseId : Canon
  issuedAtMs : ℕ
  expiresAtMs : ℕ
  supersedesFenceId : Option Canon
  fenceSha256 : Canon
  deriving DecidableEq, Repr

namespace GenerationFence

def identityFields (f : GenerationFence) : Canon :=
  .ofList
    [.num f.gatewayEpoch, f.requestId, f.runId, .num f.runSequence, .num f.generation, f.leaseId,
      .num f.issuedAtMs, .num f.expiresAtMs, .option id f.supersedesFenceId]

def computedFenceId (f : GenerationFence) : Canon :=
  .ident "fnc" (.cons (.text "tiangong.identity.generation-fence.v1") f.identityFields)

def computedFenceSha256 (f : GenerationFence) : Canon :=
  .sha256 (.ofList [f.schemaVersion.canon, f.fenceId, f.identityFields])

def hasValidFence (f : GenerationFence) : Bool :=
  f.fenceId = f.computedFenceId && f.fenceSha256 = f.computedFenceSha256

/-- The bounds of the fields. -/
def inRange (f : GenerationFence) : Bool :=
  1 ≤ f.gatewayEpoch && f.gatewayEpoch ≤ 9223372036854775807 && 1 ≤ f.runSequence &&
    f.runSequence ≤ 2147483647 && f.generation ≤ 2147483647

/-- What the model validator and the field bounds admit. -/
def admitted (f : GenerationFence) : Bool :=
  f.inRange && f.runId = runIdOf f.requestId f.runSequence && f.issuedAtMs ≤ f.expiresAtMs &&
    f.expiresAtMs - f.issuedAtMs ≤ 3600000 && f.hasValidFence

end GenerationFence

/-- The fields of a fence before its identifier and its digest. -/
structure FenceFields where
  gatewayEpoch : ℕ
  requestId : Canon
  runId : Canon
  runSequence : ℕ
  generation : ℕ
  leaseId : Canon
  issuedAtMs : ℕ
  expiresAtMs : ℕ
  supersedesFenceId : Option Canon

namespace FenceFields

/-- The fence with these fields, its identifier and its digest computed. -/
def fence (f : FenceFields) : GenerationFence :=
  let unnamed : GenerationFence :=
    { schemaVersion := .current
      fenceId := .null
      gatewayEpoch := f.gatewayEpoch
      requestId := f.requestId
      runId := f.runId
      runSequence := f.runSequence
      generation := f.generation
      leaseId := f.leaseId
      issuedAtMs := f.issuedAtMs
      expiresAtMs := f.expiresAtMs
      supersedesFenceId := f.supersedesFenceId
      fenceSha256 := .null }
  let unsigned := { unnamed with fenceId := unnamed.computedFenceId }
  { unsigned with fenceSha256 := unsigned.computedFenceSha256 }

end FenceFields

def deriveGenerationFence (f : FenceFields) : Except StoreError GenerationFence := do
  rejectIf (f.fence.inRange = false) (.value "generation fence field is out of range")
  rejectIf (f.runId ≠ runIdOf f.requestId f.runSequence)
    (.value "fence run_id does not belong to request_id and run_sequence")
  rejectIf (f.expiresAtMs < f.issuedAtMs)
    (.value "generation fence expires before it is issued")
  rejectIf (3600000 < f.expiresAtMs - f.issuedAtMs)
    (.value "generation fence lifetime exceeds one hour")
  pure f.fence

inductive FenceDisposition where
  | current | digestInvalid | contextMismatch | epochMismatch | lateGeneration | futureGeneration
  | leaseMismatch | notYetValid | expired
  deriving DecidableEq, Repr

def FenceDisposition.reasonCode : FenceDisposition → String
  | .current => "fence.current"
  | .digestInvalid => "fence.digest_invalid"
  | .contextMismatch => "fence.context_mismatch"
  | .epochMismatch => "fence.epoch_mismatch"
  | .lateGeneration => "fence.late_generation"
  | .futureGeneration => "fence.future_generation"
  | .leaseMismatch => "fence.lease_mismatch"
  | .notYetValid => "fence.not_yet_valid"
  | .expired => "fence.expired"

structure FenceDecision where
  disposition : FenceDisposition
  reasonCode : String
  currentGatewayEpoch : ℕ
  currentGeneration : ℕ
  observedFenceId : Canon
  deriving DecidableEq, Repr

def FenceDecision.accepted (d : FenceDecision) : Bool := d.disposition = .current

/-- The coordination state a fence is compared with. -/
structure CurrentLease where
  gatewayEpoch : ℕ
  requestId : Canon
  runId : Canon
  generation : ℕ
  leaseId : Canon

def clockSkewMs : ℕ := 5000

def fenceDisposition (fence : GenerationFence) (current : CurrentLease) (nowMs : ℕ) :
    FenceDisposition :=
  if fence.hasValidFence = false then .digestInvalid
  else if fence.requestId ≠ current.requestId ∨ fence.runId ≠ current.runId then .contextMismatch
  else if fence.gatewayEpoch ≠ current.gatewayEpoch then .epochMismatch
  else if fence.generation < current.generation then .lateGeneration
  else if current.generation < fence.generation then .futureGeneration
  else if fence.leaseId ≠ current.leaseId then .leaseMismatch
  else if nowMs + clockSkewMs < fence.issuedAtMs then .notYetValid
  else if fence.expiresAtMs + clockSkewMs < nowMs then .expired
  else .current

def evaluateGenerationFence (fence : GenerationFence) (current : CurrentLease) (nowMs : ℕ) :
    FenceDecision :=
  { disposition := fenceDisposition fence current nowMs
    reasonCode := (fenceDisposition fence current nowMs).reasonCode
    currentGatewayEpoch := current.gatewayEpoch
    currentGeneration := current.generation
    observedFenceId := fence.fenceId }

@[simp] theorem fence_hasValidFence (f : FenceFields) : f.fence.hasValidFence = true := by
  simp [GenerationFence.hasValidFence, FenceFields.fence, GenerationFence.computedFenceId,
    GenerationFence.identityFields, GenerationFence.computedFenceSha256]

theorem deriveGenerationFence_eq_ok {f : FenceFields} {fence : GenerationFence}
    (h : deriveGenerationFence f = .ok fence) : fence = f.fence ∧ fence.admitted = true := by
  simp only [deriveGenerationFence, eq_ok_iff] at h
  obtain ⟨hrange, hrun, htimes, hlife, rfl⟩ := h
  refine ⟨rfl, ?_⟩
  rw [Bool.not_eq_false] at hrange
  simp only [GenerationFence.admitted, holds_iff, hrange, fence_hasValidFence, true_and, and_true]
  exact ⟨⟨not_not.mp hrun, not_lt.mp htimes⟩, not_lt.mp hlife⟩

theorem fenceDisposition_current {fence : GenerationFence} {current : CurrentLease} {nowMs : ℕ}
    (h : fenceDisposition fence current nowMs = .current) :
    fence.requestId = current.requestId ∧ fence.runId = current.runId ∧
      fence.gatewayEpoch = current.gatewayEpoch ∧ fence.generation = current.generation ∧
      fence.leaseId = current.leaseId := by
  unfold fenceDisposition at h
  by_cases hvalid : fence.hasValidFence = false
  · rw [if_pos hvalid] at h
    cases h
  rw [if_neg hvalid] at h
  by_cases hcontext : fence.requestId ≠ current.requestId ∨ fence.runId ≠ current.runId
  · rw [if_pos hcontext] at h
    cases h
  rw [if_neg hcontext] at h
  by_cases hepoch : fence.gatewayEpoch ≠ current.gatewayEpoch
  · rw [if_pos hepoch] at h
    cases h
  rw [if_neg hepoch] at h
  by_cases hlate : fence.generation < current.generation
  · rw [if_pos hlate] at h
    cases h
  rw [if_neg hlate] at h
  by_cases hfuture : current.generation < fence.generation
  · rw [if_pos hfuture] at h
    cases h
  rw [if_neg hfuture] at h
  by_cases hlease : fence.leaseId ≠ current.leaseId
  · rw [if_pos hlease] at h
    cases h
  rw [not_or, not_not, not_not] at hcontext
  have hgeneration : fence.generation = current.generation := by omega
  exact ⟨hcontext.1, hcontext.2, not_not.mp hepoch, hgeneration, not_not.mp hlease⟩

end Tiangong
