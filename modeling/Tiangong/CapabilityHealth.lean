import Tiangong.Checked
import Tiangong.Machines
import Tiangong.PythonText

/-!
# The health of a capability

A pointer names the artifact of a capability that is in use, and its health counts what became of
the uses. Failures in a row ask for a patch; a patch replaces the artifact when it is verified, and
the pointer is degraded when the last patch is not.
-/
namespace Tiangong.Capability

/-- Why a call raises: a `ValueError` with its text, or a time that no calendar has. -/
inductive HealthFault where
  | value (code : String)
  | calendar
  deriving DecidableEq

inductive PointerStatus where
  | pending | active | patchVerifying | degraded | disabled
  deriving DecidableEq

/-- `patch_pending`. -/
structure PatchPending where
  round : ℕ
  fromArtifactId : PyStr
  toArtifactId : PyStr
  toArtifactSha256 : PyStr
  proposedAtMs : ℤ
  deriving DecidableEq

inductive PatchResult where
  | applied | rolledBack
  deriving DecidableEq

/-- An entry of `patch_history`. -/
structure PatchRecord where
  round : ℕ
  fromArtifactId : PyStr
  toArtifactId : PyStr
  result : PatchResult
  verifiedAtMs : ℤ
  evidenceSha256 : PyStr
  deriving DecidableEq

/-- The health of a pointer, in its schema. -/
structure Health where
  uses : ℕ
  successes : ℕ
  failures : ℕ
  consecutiveFailures : ℕ
  successStreak : ℕ
  lastSuccessAtMs : ℤ
  patchRounds : ℕ
  patchPending : Option PatchPending
  patchHistory : List PatchRecord
  seenOutcomeIds : List PyStr
  lastOutcomeAtMs : ℤ
  reactivatedAtMs : Option ℤ
  createdAtMs : ℤ
  deriving DecidableEq

inductive PointerOperation where
  | patchApplied | autoDegrade | userReactivate
  deriving DecidableEq

/-- An entry of the history of a pointer. The time is that of the call that wrote it. -/
structure PointerEntry where
  operation : PointerOperation
  fromArtifactId : PyStr
  toArtifactId : PyStr
  atMs : ℤ
  reason : PyStr
  deriving DecidableEq

/-- What the digest of a pointer covers. -/
structure PointerContent where
  status : PointerStatus
  currentArtifactId : PyStr
  currentArtifactSha256 : PyStr
  history : List PointerEntry
  degraded : Option (ℤ × PyStr)
  health : Health
  deriving DecidableEq

/-- A pointer with its health, and with the content that its digest was made of. -/
structure CapabilityPointer extends PointerContent where
  pointerSha256 : PointerContent
  deriving DecidableEq

/-- `_refresh_pointer_sha256`. -/
def refresh (content : PointerContent) : CapabilityPointer := ⟨content, content⟩

@[simp] theorem refresh_toPointerContent (content : PointerContent) :
    (refresh content).toPointerContent = content := rfl

/-- `_text`. -/
def textOf (value : PyStr) (field : String) (limit : ℕ) : Except HealthFault PyStr := do
  rejectIf (¬ value.strip.Encodable) (.value "utf-8")
  rejectIf (limit < value.strip.utf8Length) (.value ("health." ++ field ++ ".too_large"))
  pure value.strip

/-- `_int` of an integer. -/
def intOf (value : ℤ) (field : String) : Except HealthFault ℤ := do
  rejectIf (value < 0) (.value ("health." ++ field ++ ".invalid"))
  pure value

/-- The last millisecond that `datetime` renders. -/
def lastUtcMs : ℤ := 253402300799999

/-- `_render_utc`: the text of a time stands for the time. -/
def renderUtc (nowMs : ℤ) : Except HealthFault ℤ := do
  rejectIf (lastUtcMs < nowMs) .calendar
  pure nowMs

/-- The end of a list. -/
def lastOf {α : Type} (n : ℕ) (xs : List α) : List α := xs.drop (xs.length - n)

def initialHealth (nowMs : ℤ) : Health :=
  ⟨0, 0, 0, 0, 0, 0, 0, none, [], [], 0, none, nowMs⟩

def attachHealth (status : PointerStatus) (currentArtifactId currentArtifactSha256 : PyStr)
    (history : List PointerEntry) (artifactId : PyStr) (nowMs : ℤ) :
    Except HealthFault CapabilityPointer := do
  rejectIf (artifactId.strip = []) (.value "health.attach.artifact_required")
  let _ ← textOf artifactId "artifact_id" 160
  let createdAtMs ← intOf nowMs "now_ms"
  pure (refresh ⟨status, currentArtifactId, currentArtifactSha256, history, none,
    initialHealth createdAtMs⟩)

/-- What a use of a capability reports. -/
structure OutcomeReport where
  outcomeId : PyStr
  artifactId : PyStr
  outcome : PyStr
  occurredAtMs : Option ℤ

inductive HealthAction where
  | none | requestPatch
  deriving DecidableEq

inductive IngestReason where
  | notActive | duplicate | staleVersion | recorded | consecutiveFailures
  deriving DecidableEq

/-- The two thresholds, and `str.casefold`. -/
structure HealthPolicy where
  maxConsecutiveFailures : ℕ
  maxPatchRounds : ℕ
  casefold : PyStr → PyStr

namespace Health

def count (h : Health) (outcomeId : PyStr) (success : Bool) (occurredMs : ℤ) : Health :=
  { h with
    uses := h.uses + 1
    successes := if success then h.successes + 1 else h.successes
    failures := if success then h.failures else h.failures + 1
    consecutiveFailures := if success then 0 else h.consecutiveFailures + 1
    successStreak := if success then h.successStreak + 1 else 0
    lastSuccessAtMs := if success then occurredMs else h.lastSuccessAtMs
    seenOutcomeIds := lastOf 200 (h.seenOutcomeIds ++ [outcomeId])
    lastOutcomeAtMs := occurredMs }

end Health

section Operations

variable (policy : HealthPolicy)

/-- The result that a report names: a success or a failure. -/
def readOutcome (outcome : PyStr) : Except HealthFault Bool :=
  if policy.casefold outcome.strip = py "success" then .ok true
  else if policy.casefold outcome.strip = py "failure" then .ok false
  else .error (.value "health.outcome.kind_invalid")

/-- `outcome.get("occurred_at_ms") or now_ms`. -/
def occurredOr (occurredAtMs : Option ℤ) (nowMs : ℤ) : ℤ :=
  match occurredAtMs with
  | none => nowMs
  | some ms => if ms = 0 then nowMs else ms

def ingestOutcome (report : OutcomeReport) (nowMs : ℤ) (p : CapabilityPointer) :
    Except HealthFault ((HealthAction × IngestReason) × CapabilityPointer) := do
  let _ ← intOf nowMs "now_ms"
  if p.status ∉ [.active, .patchVerifying] then pure ((.none, .notActive), p)
  else do
    let outcomeId ← textOf report.outcomeId "outcome_id" 160
    rejectIf (outcomeId = []) (.value "health.outcome_id.required")
    let artifactId ← textOf report.artifactId "artifact_id" 160
    let success ← readOutcome policy report.outcome
    let occurredMs ← intOf (occurredOr report.occurredAtMs nowMs) "occurred_at_ms"
    if outcomeId ∈ p.health.seenOutcomeIds then pure ((.none, .duplicate), p)
    else if artifactId ≠ p.currentArtifactId then pure ((.none, .staleVersion), p)
    else
      let health := p.health.count outcomeId success occurredMs
      pure (if success = false ∧ policy.maxConsecutiveFailures ≤ health.consecutiveFailures ∧
          health.patchPending = none ∧ health.patchRounds < policy.maxPatchRounds then
            (.requestPatch, .consecutiveFailures)
          else (.none, .recorded),
        refresh { p.toPointerContent with health })

def proposePatch (artifactId artifactSha256 : PyStr) (nowMs : ℤ) (p : CapabilityPointer) :
    Except HealthFault CapabilityPointer := do
  let proposedAtMs ← intOf nowMs "now_ms"
  rejectIf (p.status ≠ .active) (.value "health.patch.not_active")
  rejectIf (p.health.patchPending ≠ none) (.value "health.patch.already_pending")
  rejectIf (policy.maxPatchRounds ≤ p.health.patchRounds) (.value "health.patch.rounds_exhausted")
  rejectIf (p.currentArtifactId = [] ∨ artifactId = [] ∨ artifactSha256 = [])
    (.value "health.patch.artifact_invalid")
  rejectIf (p.currentArtifactId = artifactId) (.value "health.patch.same_version")
  pure (refresh { p.toPointerContent with
    health := { p.health with
      patchRounds := p.health.patchRounds + 1
      patchPending := some ⟨p.health.patchRounds + 1, p.currentArtifactId, artifactId,
        artifactSha256, proposedAtMs⟩ } })

def degradePointer (reason : PyStr) (nowMs : ℤ) (p : PointerContent) :
    Except HealthFault CapabilityPointer := do
  let _ ← intOf nowMs "now_ms"
  rejectIf (p.status ∉ [PointerStatus.active, .patchVerifying])
    (.value "health.degrade.invalid_state")
  let degradedAt ← renderUtc nowMs
  let degradedReason ← textOf reason "reason" 400
  pure (refresh { p with
    status := .degraded
    degraded := some (degradedAt, degradedReason)
    history := lastOf 63 p.history ++
      [⟨.autoDegrade, p.currentArtifactId, [], degradedAt, degradedReason⟩]
    health := { p.health with patchPending := none } })

/-- The health after a verification. -/
def settledHealth (h : Health) (pending : PatchPending) (result : PatchResult) (evidence : PyStr)
    (nowMs : ℤ) : Health :=
  { h with
    patchPending := none
    consecutiveFailures := if result = .applied then 0 else h.consecutiveFailures
    patchHistory := lastOf 64 (h.patchHistory ++
      [⟨pending.round, pending.fromArtifactId, pending.toArtifactId, result, nowMs, evidence⟩]) }

inductive SettleReason where
  | applied | rolledBack | degraded
  deriving DecidableEq

def settlePatch (passed : Bool) (evidenceSha256 : PyStr) (nowMs : ℤ) (p : CapabilityPointer) :
    Except HealthFault ((Bool × SettleReason) × CapabilityPointer) := do
  let _ ← intOf nowMs "now_ms"
  let pending ← required p.health.patchPending (.value "health.patch.nothing_pending")
  let evidence ← textOf evidenceSha256 "evidence_sha256" 160
  if passed = true then do
    let atMs ← renderUtc nowMs
    pure ((true, .applied), refresh { p.toPointerContent with
      currentArtifactId := pending.toArtifactId
      currentArtifactSha256 := pending.toArtifactSha256
      history := lastOf 63 p.history ++
        [⟨.patchApplied, pending.fromArtifactId, pending.toArtifactId, atMs, []⟩]
      health := settledHealth p.health pending .applied evidence nowMs })
  else if policy.maxPatchRounds ≤ p.health.patchRounds then do
    let degraded ← degradePointer
      (py ("patch_rounds_exhausted:" ++ toString p.health.patchRounds)) nowMs
      { p.toPointerContent with
        health := settledHealth p.health pending .rolledBack evidence nowMs }
    pure ((false, .degraded), degraded)
  else
    pure ((false, .rolledBack), refresh { p.toPointerContent with
      health := settledHealth p.health pending .rolledBack evidence nowMs })

def reactivatePointer (actor : PyStr) (nowMs : ℤ) (p : CapabilityPointer) :
    Except HealthFault CapabilityPointer := do
  let reactivatedAtMs ← intOf nowMs "now_ms"
  rejectIf (actor.strip ≠ py "user") (.value "health.reactivate.user_only")
  rejectIf (p.status ≠ .degraded) (.value "health.reactivate.not_degraded")
  let atMs ← renderUtc nowMs
  pure (refresh { p.toPointerContent with
    status := .active
    degraded := none
    history := lastOf 63 p.history ++
      [⟨.userReactivate, p.currentArtifactId, p.currentArtifactId, atMs, []⟩]
    health := { p.health with
      consecutiveFailures := 0
      patchRounds := 0
      patchPending := none
      successStreak := 0
      reactivatedAtMs := some reactivatedAtMs } })

end Operations

inductive HealthCall where
  | ingest (report : OutcomeReport) (nowMs : ℤ)
  | propose (artifactId artifactSha256 : PyStr) (nowMs : ℤ)
  | settle (passed : Bool) (evidenceSha256 : PyStr) (nowMs : ℤ)
  | degrade (reason : PyStr) (nowMs : ℤ)
  | reactivate (actor : PyStr) (nowMs : ℤ)

inductive HealthAnswer where
  | ingested (action : HealthAction) (reason : IngestReason)
  | proposed
  | settled (applied : Bool) (reason : SettleReason)
  | degraded
  | reactivated
  deriving DecidableEq

/-- The pointer of a capability under its calls; one that raises leaves it. -/
def healthMachine (policy : HealthPolicy) :
    Machine CapabilityPointer HealthCall (Except HealthFault HealthAnswer) where
  step p
    | .ingest report nowMs =>
      committed p (fun r => HealthAnswer.ingested r.1 r.2) (ingestOutcome policy report nowMs p)
    | .propose artifactId artifactSha256 nowMs =>
      committed p (fun _ => HealthAnswer.proposed)
        ((fun p' => ((), p')) <$> proposePatch policy artifactId artifactSha256 nowMs p)
    | .settle passed evidenceSha256 nowMs =>
      committed p (fun r => HealthAnswer.settled r.1 r.2)
        (settlePatch policy passed evidenceSha256 nowMs p)
    | .degrade reason nowMs =>
      committed p (fun _ => HealthAnswer.degraded)
        ((fun p' => ((), p')) <$> degradePointer reason nowMs p.toPointerContent)
    | .reactivate actor nowMs =>
      committed p (fun _ => HealthAnswer.reactivated)
        ((fun p' => ((), p')) <$> reactivatePointer actor nowMs p)

end Tiangong.Capability
