import Tiangong.Canon
import Tiangong.Tables

/-!
# The effect ledger

The tables of the gateway store that record side effects: the head row of each effect, its
numbered attempts, the append-only fact chain, the single action-fence row and the released
dispatch permits. A payload digest is read as the payload itself.
-/
namespace Tiangong

/-- What a store method raises. -/
inductive StoreError where
  | store (text : String)
  | notFound (text : String)
  | conflict (text : String)
  | casConflict (text : String)
  | corruption (text : String)
  /-- A `ValueError`, raised by argument checks and by the contract models. -/
  | value (text : String)
  /-- A violated `UNIQUE`, `PRIMARY KEY` or `CHECK` constraint. -/
  | integrity (text : String)
  deriving DecidableEq, Repr

inductive EffectKind where
  | execution | artifact | delivery | control
  deriving DecidableEq, Repr

inductive ComponentId where
  | totalGateway | backend | lifeService | communicationService
  deriving DecidableEq, Repr

/-- An immutable effect claim. Its identifier is taken as given. -/
structure EffectClaim where
  effectId : String
  requestId : String
  runId : String
  runSequence : ℕ
  generation : ℕ
  effectKind : EffectKind
  ordinal : ℕ
  intentSha256 : String
  pipelineVersion : String
  attempt : ℕ
  claimRevision : ℕ
  leaseEpoch : ℕ
  supersedesClaimSha256 : Option Canon
  ownerComponentId : ComponentId
  claimedAtMs : ℕ
  claimSha256 : Canon
  revision_chain : claimRevision = 1 ↔ supersedesClaimSha256 = none
  deriving DecidableEq

namespace EffectClaim

/-- The later fields all carry their defaults, so the historical digest applies. -/
def isVoldShape (c : EffectClaim) : Bool :=
  c.pipelineVersion = "unspecified" && c.attempt = 1 && c.claimRevision = 1 &&
    c.leaseEpoch = 1 && c.supersedesClaimSha256.isNone

def kindCanon (c : EffectClaim) : Canon :=
  .text <| match c.effectKind with
    | .execution => "execution"
    | .artifact => "artifact"
    | .delivery => "delivery"
    | .control => "control"

def ownerCanon (c : EffectClaim) : Canon :=
  .text <| match c.ownerComponentId with
    | .totalGateway => "tiangong-total-gateway"
    | .backend => "tiangong-backend"
    | .lifeService => "tiangong-life-service"
    | .communicationService => "tiangong-communication-service"

def voldFields (c : EffectClaim) : List Canon :=
  [.text c.effectId, .text c.requestId, .text c.runId, .num c.runSequence, .num c.generation,
    c.kindCanon, .num c.ordinal, .text c.intentSha256, c.ownerCanon, .num c.claimedAtMs]

def vnextFields (c : EffectClaim) : List Canon :=
  [.text c.pipelineVersion, .num c.attempt, .num c.claimRevision, .num c.leaseEpoch,
    .option id c.supersedesClaimSha256]

def computedSha256 (c : EffectClaim) : Canon :=
  .sha256 <| .ofList <| if c.isVoldShape then c.voldFields else c.voldFields ++ c.vnextFields

def hasValidSha256 (c : EffectClaim) : Bool :=
  c.claimSha256 = c.computedSha256

def withComputedSha256 (c : EffectClaim) : EffectClaim :=
  { c with claimSha256 := c.computedSha256 }

/-- The claim without its claim time and digest, as a repeated claim is compared. -/
def stable (c : EffectClaim) : EffectClaim :=
  { c with claimedAtMs := 0, claimSha256 := .null }

end EffectClaim

inductive EffectStatus where
  | succeeded | failedFinal | ambiguous | reconciled
  deriving DecidableEq, Repr

/-- A failed or ambiguous result carries an error code, a successful one carries none. -/
def EffectStatus.needsErrorCode : EffectStatus → Bool
  | .failedFinal | .ambiguous => true
  | .succeeded | .reconciled => false

theorem noObject_complete : (none : Option String).isSome = (none : Option String).isSome := rfl

/-- A machine-fact result of an effect; the last two fields are its model validator. -/
structure EffectResult where
  resultId : String
  effectId : String
  status : EffectStatus
  factId : String
  resultObjectId : Option String
  resultObjectSha256 : Option String
  evidenceSha256 : Canon
  errorCode : Option String
  observedAtMs : ℕ
  resultSha256 : Canon
  object_complete : resultObjectId.isSome = resultObjectSha256.isSome
  errorCode_iff : errorCode.isSome = status.needsErrorCode
  deriving DecidableEq

namespace EffectResult

def statusCanon (r : EffectResult) : Canon :=
  .text <| match r.status with
    | .succeeded => "SUCCEEDED"
    | .failedFinal => "FAILED_FINAL"
    | .ambiguous => "AMBIGUOUS"
    | .reconciled => "RECONCILED"

def computedSha256 (r : EffectResult) : Canon :=
  .sha256 <| .ofList
    [.text r.resultId, .text r.effectId, r.statusCanon, .text r.factId,
      .option .text r.resultObjectId, .option .text r.resultObjectSha256, r.evidenceSha256,
      .option .text r.errorCode, .num r.observedAtMs]

def hasValidSha256 (r : EffectResult) : Bool :=
  r.resultSha256 = r.computedSha256

def withComputedSha256 (r : EffectResult) : EffectResult :=
  { r with resultSha256 := r.computedSha256 }

end EffectResult

/-- The state column of `effect_ledger`. -/
inductive EffectState where
  | claimed | sideEffectStarted | succeeded | failedFinal | ambiguous | reconciled
  deriving DecidableEq, Repr

def EffectStatus.toState : EffectStatus → EffectState
  | .succeeded => .succeeded
  | .failedFinal => .failedFinal
  | .ambiguous => .ambiguous
  | .reconciled => .reconciled

/-- The three shapes a head row may have under its `CHECK` constraint. A finished row takes its
state and its completion time from its result. -/
inductive EffectProgress where
  | claimed
  | sideEffectStarted (atMs : ℕ)
  | finished (startedAtMs : Option ℕ) (result : EffectResult)
  deriving DecidableEq

/-- A row of `effect_ledger`. -/
structure EffectRow where
  claim : EffectClaim
  progress : EffectProgress
  deriving DecidableEq

namespace EffectRow

abbrev effectId (r : EffectRow) : String := r.claim.effectId

def state (r : EffectRow) : EffectState :=
  match r.progress with
  | .claimed => .claimed
  | .sideEffectStarted _ => .sideEffectStarted
  | .finished _ result => result.status.toState

def sideEffectStartedAtMs (r : EffectRow) : Option ℕ :=
  match r.progress with
  | .claimed => none
  | .sideEffectStarted atMs => some atMs
  | .finished startedAtMs _ => startedAtMs

def result (r : EffectRow) : Option EffectResult :=
  match r.progress with
  | .finished _ result => some result
  | _ => none

/-- The time of the last boundary the effect crossed. -/
def boundaryMs (r : EffectRow) : ℕ :=
  r.sideEffectStartedAtMs.getD r.claim.claimedAtMs

end EffectRow

/-- The state column of `effect_attempts`. -/
inductive AttemptState where
  | reserved | claimed | sideEffectStarted | preStartAuthorizationFailed
  | succeeded | failedFinal | ambiguous | reconcileRequired | reconciled | fenced
  deriving DecidableEq, Repr

def EffectStatus.toAttemptState : EffectStatus → AttemptState
  | .succeeded => .succeeded
  | .failedFinal => .failedFinal
  | .ambiguous => .ambiguous
  | .reconciled => .reconciled

/-- A row of `effect_attempts`. -/
structure EffectAttempt where
  effectId : String
  attempt : ℕ
  claimRevision : ℕ
  leaseEpoch : Option ℕ
  pipelineVersion : Option String
  state : AttemptState
  ticketId : Option String := none
  ticketSha256 : Option String := none
  grantSha256 : Option String := none
  nonceSha256 : Option String := none
  claimedAtMs : Option ℕ := none
  sideEffectStartedAtMs : Option ℕ := none
  terminalAtMs : Option ℕ := none
  terminalKind : Option AttemptState := none
  deriving DecidableEq

abbrev EffectAttempt.key (a : EffectAttempt) : String × ℕ := (a.effectId, a.attempt)

/-- `ATTEMPT_RECONCILIATION_VERDICTS`. -/
inductive Verdict where
  | applied | provenNotApplied | inconclusive
  deriving DecidableEq, Repr

inductive FactKind where
  | claim | started | dispatchPermit | receipt | reconciliation
  | contradiction | fence | authorizationFailed
  deriving DecidableEq, Repr

/-- The payloads the store appends to the fact chain. -/
inductive FactPayload where
  | claim (claim : EffectClaim) (actionFenceEpoch : ℕ)
  | sideEffectStarted (atMs : ℕ) (fenceEpoch : Option ℕ)
  | dispatchPermit (fenceEpoch : ℕ) (nonceSha256 : String) (ticketId : Option String)
  | receipt (result : EffectResult) (omniAdmissionResponse : Option Canon)
  | reconciliation (verdict : Verdict) (evidence : Canon)
  | contradiction (priorVerdict lateVerdict : Verdict) (evidence : Canon)
  /-- The inconclusive verdict the restart recovery records. -/
  | recovery
  | continuation (continuesAttempt claimRevision : ℕ)
  deriving DecidableEq

def FactPayload.actionFenceEpoch : FactPayload → ℕ
  | .claim _ epoch => epoch
  | _ => 0

/-- A row of `effect_facts`. -/
structure EffectFact where
  effectId : String
  attempt : ℕ
  factKind : FactKind
  verdict : Option Verdict
  payload : FactPayload
  prevFact : Option FactPayload
  createdAtMs : ℕ
  deriving DecidableEq

abbrev EffectFact.key (f : EffectFact) : String × ℕ := (f.effectId, f.attempt)

/-- The single row of `action_fence`. -/
structure ActionFence where
  actionFenceEpoch : ℕ
  inflightCount : ℕ
  draining : Bool
  reason : String
  updatedAtMs : ℕ
  deriving DecidableEq, Repr

/-- A row of `dispatch_permit_release`. -/
structure PermitRelease where
  effectId : String
  attempt : ℕ
  releasedBy : String
  releasedAtMs : ℕ
  deriving DecidableEq, Repr

abbrev PermitRelease.key (r : PermitRelease) : String × ℕ := (r.effectId, r.attempt)

/-- A row of `security_nonce_ledger`. -/
structure NonceRow where
  issuer : String
  audience : String
  purpose : String
  nonce : String
  payloadSha256 : String
  gatewayEpoch : ℕ
  consumerInstanceId : String
  consumedAtMs : ℕ
  expiresAtMs : ℕ
  deriving DecidableEq, Repr

abbrev NonceRow.key (r : NonceRow) : String × String × String × String :=
  (r.issuer, r.audience, r.purpose, r.nonce)

/-- The effect tables. The fact chain is kept newest first. -/
structure EffectStore where
  effectLedger : Table EffectRow.effectId
  effectAttempts : Table EffectAttempt.key
  effectFacts : List EffectFact
  actionFence : ActionFence
  dispatchPermitRelease : Table PermitRelease.key
  securityNonceLedger : Table NonceRow.key

namespace EffectStore

/-- The tables after the migrations of a fresh database. -/
def init : EffectStore where
  effectLedger := .empty
  effectAttempts := .empty
  effectFacts := []
  actionFence := ⟨0, 0, false, "init", 0⟩
  dispatchPermitRelease := .empty
  securityNonceLedger := .empty

def getEffect (s : EffectStore) (effectId : String) : Option EffectRow :=
  s.effectLedger.find effectId

def getEffectHeadState (s : EffectStore) (effectId : String) : Option EffectState :=
  (s.getEffect effectId).map (·.state)

def getEffectAttempt (s : EffectStore) (effectId : String) (attempt : ℕ) : Option EffectAttempt :=
  s.effectAttempts.find (effectId, attempt)

/-- The conclusion recorded last for an attempt. -/
def latestEffectVerdict (s : EffectStore) (effectId : String) (attempt : ℕ) : Option Verdict :=
  (s.effectFacts.find? fun f =>
    f.key = (effectId, attempt) ∧ f.factKind = .reconciliation ∧ f.verdict.isSome).bind (·.verdict)

/-- The permits on the fact chain, newest first. -/
def permits (s : EffectStore) : List (String × ℕ) :=
  (s.effectFacts.filter fun f => f.factKind = .dispatchPermit).map EffectFact.key

def released (s : EffectStore) (key : String × ℕ) : Bool :=
  (s.dispatchPermitRelease.find key).isSome

/-- The permits with no release row. -/
def openPermits (s : EffectStore) : List (String × ℕ) :=
  s.permits.filter fun key => !s.released key

end EffectStore

/-- What `action_fence_status` reports. -/
structure FenceStatus where
  actionFenceEpoch : ℕ
  inflightCount : ℕ
  fenced : Bool
  draining : Bool
  zeroTrafficDeclared : Bool
  display : String
  reason : String
  updatedAtMs : ℕ
  deriving DecidableEq, Repr

def EffectStore.actionFenceStatus (s : EffectStore) : FenceStatus :=
  let row := s.actionFence
  let fenced := decide (0 < row.actionFenceEpoch)
  { actionFenceEpoch := row.actionFenceEpoch
    inflightCount := row.inflightCount
    fenced := fenced
    draining := row.draining || (fenced && 0 < row.inflightCount)
    zeroTrafficDeclared := fenced && row.inflightCount = 0 && !row.draining
    display :=
      if fenced && (0 < row.inflightCount || row.draining) then "fenced/draining"
      else if fenced then "fenced" else "open"
    reason := row.reason
    updatedAtMs := row.updatedAtMs }

end Tiangong
