import Tiangong.CompositionContracts
import Tiangong.Tables

/-!
# Trust bundles

The public keys that the components trust, and the two ways in which one bundle may follow another:
a rotation signed by the old active key, and an emergency revocation signed by a recovery key that
is kept offline. What a model validator demands is the check of a sealed record.
-/
namespace Tiangong

inductive KeyPurpose where
  | executionTicket | deliveryTicket | serviceAuth
  deriving DecidableEq, Repr

def KeyPurpose.text : KeyPurpose → PyStr
  | .executionTicket => py "execution_ticket"
  | .deliveryTicket => py "delivery_ticket"
  | .serviceAuth => py "service_auth"

inductive KeyState where
  | next | active | previous | revoked
  deriving DecidableEq, Repr

def KeyState.canon : KeyState → Canon
  | .next => .text "NEXT"
  | .active => .text "ACTIVE"
  | .previous => .text "PREVIOUS"
  | .revoked => .text "REVOKED"

structure TrustScope where
  issuer : OpaqueId
  audience : OpaqueId
  purpose : KeyPurpose
  deriving DecidableEq

namespace TrustScope

/-- The columns by which scopes are sorted. -/
def texts (s : TrustScope) : List PyStr := [s.issuer.1, s.audience.1, s.purpose.text]

def canon (s : TrustScope) : Canon := .ofList (s.texts.map .str)

end TrustScope

def base64Value (c : CodePoint) : Option ℕ :=
  if c.isUpperLetter then some (c.val - 65)
  else if c.isLowerLetter then some (c.val - 71)
  else if c.isDigit then some (c.val + 4)
  else if c = CodePoint.ofChar '-' then some 62
  else if c = CodePoint.ofChar '_' then some 63
  else none

/-- The 32 bytes of a key in 43 characters of base64url, as a number: 258 bits without the last
two. -/
def rawPublicKey (text : PyStr) : Option ℕ := do
  let values ← text.mapM base64Value
  if values.length = 43 then some (values.foldl (fun n value => 64 * n + value) 0 / 4) else none

def isEd25519Signature (text : PyStr) : Bool :=
  text.length = 86 && text.all fun c => (base64Value c).isSome

structure KeyFields where
  schemaVersion : SchemaVersion
  kid : OpaqueId
  scope : TrustScope
  publicKeyBase64url : PyStr
  publicKeySha256 : Canon
  state : KeyState
  notBeforeMs : ℕ
  notAfterMs : ℕ
  componentManifestHash : Canon
  revokedAtMs : Option ℕ
  revocationReason : Option String
  deriving DecidableEq

namespace KeyFields

/-- `validate_key`. -/
def valid (k : KeyFields) : Bool :=
  k.notBeforeMs < k.notAfterMs &&
    (rawPublicKey k.publicKeyBase64url).any (fun raw => .sha256 (.num raw) = k.publicKeySha256) &&
    ((k.state = .revoked : Bool) = (k.revokedAtMs.isSome && k.revocationReason.isSome)) &&
    k.revokedAtMs.all fun at' => k.notBeforeMs ≤ at' && at' ≤ k.notAfterMs

def canon (k : KeyFields) : Canon :=
  .ofList
    [k.schemaVersion.canon, .str k.kid.1, k.scope.canon, .str k.publicKeyBase64url,
      k.publicKeySha256, k.state.canon, .num k.notBeforeMs, .num k.notAfterMs,
      k.componentManifestHash, .option .num k.revokedAtMs, .option .text k.revocationReason]

end KeyFields

abbrev PublicKeyDescriptor := Sealed KeyFields.valid

namespace PublicKeyDescriptor

abbrev kid (k : PublicKeyDescriptor) : OpaqueId := k.1.kid

abbrev state (k : PublicKeyDescriptor) : KeyState := k.1.state

/-- The columns by which keys are sorted. -/
def texts (k : PublicKeyDescriptor) : List PyStr := k.1.scope.texts ++ [k.kid.1]

/-- `_immutable_key_identity`: the fields that a transition keeps. -/
structure Identity where
  kid : OpaqueId
  scope : TrustScope
  publicKeyBase64url : PyStr
  publicKeySha256 : Canon
  notBeforeMs : ℕ
  notAfterMs : ℕ
  componentManifestHash : Canon
  deriving DecidableEq

def identity (k : PublicKeyDescriptor) : Identity :=
  ⟨k.1.kid, k.1.scope, k.1.publicKeyBase64url, k.1.publicKeySha256, k.1.notBeforeMs,
    k.1.notAfterMs, k.1.componentManifestHash⟩

end PublicKeyDescriptor

structure BundleFields where
  schemaVersion : SchemaVersion
  bundleId : OpaqueId
  revision : ℕ
  gatewayEpoch : ℕ
  generatedAtMs : ℕ
  requiredScopes : List TrustScope
  keys : List PublicKeyDescriptor
  productionReady : Bool
  bundleSha256 : Canon
  deriving DecidableEq

namespace BundleFields

def scopedKeys (b : BundleFields) (scope : TrustScope) : List PublicKeyDescriptor :=
  b.keys.filter fun k => k.1.scope = scope

/-- What `validate_bundle` demands of the keys of one scope. -/
def scopeValid (b : BundleFields) (scope : TrustScope) : Bool :=
  [KeyState.next, .active, .previous].all (fun state =>
    ((b.scopedKeys scope).countP fun k => k.state = state) ≤ 1) &&
  (!b.productionReady || match (b.scopedKeys scope).filter fun k => k.state = .active with
    | [active] => active.1.notBeforeMs ≤ b.generatedAtMs && b.generatedAtMs < active.1.notAfterMs
    | _ => false) &&
  (b.scopedKeys scope).all fun k => !(k.state = .revoked : Bool) ||
    (k.1.revokedAtMs.getD 0) ≤ b.generatedAtMs

/-- `validate_bundle` and the bounds of the fields. -/
def valid (b : BundleFields) : Bool :=
  1 ≤ b.revision && 1 ≤ b.gatewayEpoch &&
    1 ≤ b.requiredScopes.length && b.requiredScopes.length ≤ 64 &&
    1 ≤ b.keys.length && b.keys.length ≤ 256 &&
    decide ((b.requiredScopes.map TrustScope.texts).Pairwise (· < ·)) &&
    decide ((b.keys.map PublicKeyDescriptor.texts).Pairwise (· ≤ ·)) &&
    decide (b.keys.map PublicKeyDescriptor.kid).Nodup &&
    b.keys.all (fun k => k.1.scope ∈ b.requiredScopes) &&
    b.requiredScopes.all b.scopeValid

/-- The fields that the digest covers. -/
def body (b : BundleFields) : Canon :=
  .ofList
    [b.schemaVersion.canon, .str b.bundleId.1, .num b.revision, .num b.gatewayEpoch,
      .num b.generatedAtMs, .ofList (b.requiredScopes.map TrustScope.canon),
      .ofList (b.keys.map fun k => k.1.canon), .flag b.productionReady]

def computedSha256 (b : BundleFields) : Canon := .sha256 b.body

end BundleFields

abbrev TrustBundle := Sealed BundleFields.valid

namespace TrustBundle

def hasValidSha256 (b : TrustBundle) : Bool := b.1.bundleSha256 = b.1.computedSha256

def keyById (b : TrustBundle) (kid : OpaqueId) : Option PublicKeyDescriptor :=
  b.1.keys.find? fun k => k.kid = kid

def keyState (b : TrustBundle) (kid : OpaqueId) : Option KeyState :=
  (b.keyById kid).map PublicKeyDescriptor.state

def unchangedNonTargetKeys (before after : TrustBundle) (targetKids : List OpaqueId) : Bool :=
  (before.1.keys.all fun k => k.kid ∈ targetKids || k ∈ after.1.keys) &&
    after.1.keys.all fun k => k.kid ∈ targetKids || k ∈ before.1.keys

end TrustBundle

structure ServiceAuthClaims where
  issuer : OpaqueId
  audience : OpaqueId
  notBeforeMs : ℕ
  expiresAtMs : ℕ
  gatewayEpoch : ℕ
  method : String
  path : String
  bodySha256 : Canon
  componentManifestHash : Canon
  deriving DecidableEq

structure ServiceAuthAssertion where
  kid : OpaqueId
  claims : ServiceAuthClaims
  deriving DecidableEq

/-- What the receiver of a request has verified and expects. -/
structure ServiceExpectation where
  signatureVerified : Bool
  nonceRegistered : Bool
  nowMs : ℕ
  gatewayEpoch : ℕ
  issuer : OpaqueId
  audience : OpaqueId
  method : String
  path : String
  bodySha256 : Canon
  componentManifestHash : Canon
  clockSkewMs : ℕ

structure ServiceAuthorizationError where
  code : String
  deriving DecidableEq, Repr

def checkServiceClaims (claims : ServiceAuthClaims) (e : ServiceExpectation) :
    Except ServiceAuthorizationError Unit := do
  rejectIf (claims.issuer ≠ e.issuer ∨ claims.audience ≠ e.audience)
    ⟨"service_auth.principal.mismatch"⟩
  rejectIf (claims.method ≠ e.method) ⟨"service_auth.method.mismatch"⟩
  rejectIf (claims.path ≠ e.path) ⟨"service_auth.path.mismatch"⟩
  rejectIf (claims.bodySha256 ≠ e.bodySha256) ⟨"service_auth.body.mismatch"⟩
  rejectIf (claims.componentManifestHash ≠ e.componentManifestHash)
    ⟨"service_auth.component_manifest.mismatch"⟩
  rejectIf (e.nowMs + e.clockSkewMs < claims.notBeforeMs) ⟨"service_auth.not_yet_valid"⟩
  rejectIf (claims.expiresAtMs + e.clockSkewMs < e.nowMs) ⟨"service_auth.expired"⟩

/-- `authorize_service_request_contract`. -/
def authorizeServiceRequest (assertion : ServiceAuthAssertion) (bundle : TrustBundle)
    (e : ServiceExpectation) : Except ServiceAuthorizationError ServiceAuthClaims := do
  let claims := assertion.claims
  rejectIf (e.signatureVerified = false) ⟨"service_auth.signature.unverified"⟩
  rejectIf (e.nonceRegistered = false) ⟨"service_auth.nonce.unregistered"⟩
  rejectIf (5000 < e.clockSkewMs) ⟨"service_auth.clock_skew.invalid"⟩
  rejectIf (bundle.hasValidSha256 = false ∨ bundle.1.productionReady = false)
    ⟨"service_auth.trust_bundle.not_ready"⟩
  rejectIf (bundle.1.gatewayEpoch ≠ e.gatewayEpoch ∨ claims.gatewayEpoch ≠ e.gatewayEpoch)
    ⟨"service_auth.gateway_epoch.mismatch"⟩
  checkServiceClaims claims e
  let key ← required (bundle.keyById assertion.kid) ⟨"service_auth.kid.unknown"⟩
  rejectIf (key.1.scope ≠ ⟨claims.issuer, claims.audience, .serviceAuth⟩)
    ⟨"service_auth.key.scope_mismatch"⟩
  rejectIf (key.state ≠ .active ∧ key.state ≠ .previous) ⟨"service_auth.key.state_rejected"⟩
  rejectIf (e.nowMs < key.1.notBeforeMs ∨ key.1.notAfterMs ≤ e.nowMs)
    ⟨"service_auth.key.expired"⟩
  rejectIf (key.1.componentManifestHash ≠ claims.componentManifestHash)
    ⟨"service_auth.key.component_manifest_mismatch"⟩
  pure claims

inductive RotationPhase where
  | prepare | activate | retire
  deriving DecidableEq, Repr

def RotationPhase.canon : RotationPhase → Canon
  | .prepare => .text "PREPARE"
  | .activate => .text "ACTIVATE"
  | .retire => .text "RETIRE"

structure RotationFields where
  schemaVersion : SchemaVersion
  rotationId : OpaqueId
  phase : RotationPhase
  scope : TrustScope
  gatewayEpoch : ℕ
  oldKid : OpaqueId
  newKid : OpaqueId
  signerKid : OpaqueId
  preparedAtMs : ℕ
  effectiveAtMs : ℕ
  graceUntilMs : ℕ
  beforeBundleSha256 : Canon
  afterBundleSha256 : Canon
  componentManifestHash : Canon
  signature : PyStr
  manifestSha256 : Canon
  deriving DecidableEq

namespace RotationFields

/-- `validate_rotation` and the bounds of the fields. -/
def valid (m : RotationFields) : Bool :=
  1 ≤ m.gatewayEpoch && isEd25519Signature m.signature && m.oldKid ≠ m.newKid && m.signerKid = m.oldKid &&
    m.preparedAtMs ≤ m.effectiveAtMs && m.effectiveAtMs ≤ m.graceUntilMs

/-- The fields that the digest covers: all but the signature. -/
def body (m : RotationFields) : Canon :=
  .ofList
    [m.schemaVersion.canon, .str m.rotationId.1, m.phase.canon, m.scope.canon, .num m.gatewayEpoch,
      .str m.oldKid.1, .str m.newKid.1, .str m.signerKid.1, .num m.preparedAtMs,
      .num m.effectiveAtMs, .num m.graceUntilMs, m.beforeBundleSha256, m.afterBundleSha256,
      m.componentManifestHash]

def hasValidSha256 (m : RotationFields) : Bool := m.manifestSha256 = .sha256 m.body

end RotationFields

abbrev KeyRotationManifest := Sealed RotationFields.valid

/-- The states of the old and the new key before and after a phase. -/
def RotationPhase.expectedStates :
    RotationPhase → (Option KeyState × Option KeyState) × (Option KeyState × Option KeyState)
  | .prepare => ((some .active, none), (some .active, some .next))
  | .activate => ((some .active, some .next), (some .previous, some .active))
  | .retire => ((some .previous, some .active), (some .revoked, some .active))

/-- The time at which a phase may be carried out. -/
def RotationPhase.inWindow (m : RotationFields) (nowMs : ℕ) : RotationPhase → Bool
  | .prepare => m.preparedAtMs ≤ nowMs && nowMs ≤ m.effectiveAtMs
  | .activate => m.effectiveAtMs ≤ nowMs && nowMs ≤ m.graceUntilMs
  | .retire => m.graceUntilMs ≤ nowMs

/-- A key that stands in both bundles keeps its identity. -/
def sameIdentity (old new : Option PublicKeyDescriptor) : Bool :=
  old.all fun k => new.all fun k' => k.identity = k'.identity

/-- The bundles follow on each other: one identifier, the next revision and the same scopes. -/
def lineageValid (before after : TrustBundle) : Bool :=
  before.1.bundleId = after.1.bundleId && after.1.revision = before.1.revision + 1 &&
    before.1.requiredScopes = after.1.requiredScopes

def inScope (scope : TrustScope) (componentManifestHash : Canon) (k : PublicKeyDescriptor) : Bool :=
  k.1.scope = scope && k.1.componentManifestHash = componentManifestHash

/-- `authorize_key_rotation_contract`. -/
def authorizeKeyRotation (manifest : KeyRotationManifest) (before after : TrustBundle)
    (signatureVerified : Bool) (nowMs : ℕ) : Except ServiceAuthorizationError TrustBundle := do
  let m := manifest.1
  rejectIf (signatureVerified = false) ⟨"key_rotation.signature.unverified"⟩
  rejectIf (m.hasValidSha256 = false) ⟨"key_rotation.manifest.digest_invalid"⟩
  rejectIf (before.hasValidSha256 = false ∨ after.hasValidSha256 = false)
    ⟨"key_rotation.trust_bundle.digest_invalid"⟩
  rejectIf (m.beforeBundleSha256 ≠ before.1.bundleSha256 ∨
    m.afterBundleSha256 ≠ after.1.bundleSha256) ⟨"key_rotation.trust_bundle.mismatch"⟩
  rejectIf (before.1.gatewayEpoch ≠ m.gatewayEpoch ∨ after.1.gatewayEpoch ≠ m.gatewayEpoch)
    ⟨"key_rotation.gateway_epoch.mismatch"⟩
  rejectIf (lineageValid before after = false) ⟨"key_rotation.bundle_lineage.invalid"⟩
  rejectIf ((before.keyState m.oldKid, before.keyState m.newKid) ≠ m.phase.expectedStates.1 ∨
    (after.keyState m.oldKid, after.keyState m.newKid) ≠ m.phase.expectedStates.2)
    ⟨"key_rotation.state_transition.invalid"⟩
  rejectIf (before.unchangedNonTargetKeys after [m.oldKid, m.newKid] = false)
    ⟨"key_rotation.unrelated_key.changed"⟩
  let relevant := [before.keyById m.oldKid, after.keyById m.oldKid, before.keyById m.newKid,
    after.keyById m.newKid]
  rejectIf (relevant.any fun key => key.any fun k => !inScope m.scope m.componentManifestHash k)
    ⟨"key_rotation.key_scope.invalid"⟩
  rejectIf (sameIdentity (before.keyById m.oldKid) (after.keyById m.oldKid) = false ∨
    sameIdentity (before.keyById m.newKid) (after.keyById m.newKid) = false)
    ⟨"key_rotation.key_identity.changed"⟩
  rejectIf (m.phase = .retire ∧ (after.keyById m.oldKid).any fun k =>
    k.1.revokedAtMs ≠ some m.graceUntilMs) ⟨"key_rotation.revocation_time.mismatch"⟩
  rejectIf (m.phase.inWindow m nowMs = false) ⟨"key_rotation.outside_phase_window"⟩
  pure after

structure RevocationFields where
  schemaVersion : SchemaVersion
  incidentId : OpaqueId
  scope : TrustScope
  compromisedKid : OpaqueId
  replacementKid : OpaqueId
  recoverySignerKid : OpaqueId
  previousGatewayEpoch : ℕ
  newGatewayEpoch : ℕ
  detectedAtMs : ℕ
  effectiveAtMs : ℕ
  beforeBundleSha256 : Canon
  afterBundleSha256 : Canon
  componentManifestHash : Canon
  recoverySignature : PyStr
  manifestSha256 : Canon
  deriving DecidableEq

namespace RevocationFields

/-- `validate_revocation` and the bounds of the fields. -/
def valid (m : RevocationFields) : Bool :=
  1 ≤ m.previousGatewayEpoch && isEd25519Signature m.recoverySignature && m.compromisedKid ≠ m.replacementKid &&
    m.compromisedKid ≠ m.recoverySignerKid && m.replacementKid ≠ m.recoverySignerKid &&
    m.newGatewayEpoch = m.previousGatewayEpoch + 1 && m.detectedAtMs ≤ m.effectiveAtMs

/-- The fields that the digest covers: all but the signature. -/
def body (m : RevocationFields) : Canon :=
  .ofList
    [m.schemaVersion.canon, .str m.incidentId.1, m.scope.canon, .str m.compromisedKid.1,
      .str m.replacementKid.1, .str m.recoverySignerKid.1, .text "offline_recovery_key",
      .num m.previousGatewayEpoch, .num m.newGatewayEpoch, .num m.detectedAtMs,
      .num m.effectiveAtMs, m.beforeBundleSha256, m.afterBundleSha256, m.componentManifestHash]

def hasValidSha256 (m : RevocationFields) : Bool := m.manifestSha256 = .sha256 m.body

end RevocationFields

abbrev EmergencyKeyRevocationManifest := Sealed RevocationFields.valid

def revocationStates (compromisedBefore compromisedAfter replacementAfter : Option KeyState) :
    Bool :=
  (compromisedBefore = some .active || compromisedBefore = some .previous) &&
    compromisedAfter = some .revoked && replacementAfter = some .active

/-- `authorize_emergency_key_revocation_contract`. -/
def authorizeEmergencyRevocation (manifest : EmergencyKeyRevocationManifest)
    (before after : TrustBundle) (recoverySignatureVerified : Bool)
    (expectedRecoverySignerKid : OpaqueId) (nowMs : ℕ) :
    Except ServiceAuthorizationError TrustBundle := do
  let m := manifest.1
  rejectIf (recoverySignatureVerified = false)
    ⟨"emergency_revocation.recovery_signature.unverified"⟩
  rejectIf (m.recoverySignerKid ≠ expectedRecoverySignerKid)
    ⟨"emergency_revocation.recovery_signer.mismatch"⟩
  rejectIf (m.hasValidSha256 = false) ⟨"emergency_revocation.manifest.digest_invalid"⟩
  rejectIf (before.hasValidSha256 = false ∨ after.hasValidSha256 = false ∨
    before.1.productionReady = false ∨ after.1.productionReady = false)
    ⟨"emergency_revocation.trust_bundle.not_ready"⟩
  rejectIf (m.beforeBundleSha256 ≠ before.1.bundleSha256 ∨
    m.afterBundleSha256 ≠ after.1.bundleSha256) ⟨"emergency_revocation.trust_bundle.mismatch"⟩
  rejectIf (lineageValid before after = false) ⟨"emergency_revocation.bundle_lineage.invalid"⟩
  rejectIf (before.1.gatewayEpoch ≠ m.previousGatewayEpoch ∨
    after.1.gatewayEpoch ≠ m.newGatewayEpoch) ⟨"emergency_revocation.gateway_epoch.invalid"⟩
  rejectIf (revocationStates (before.keyState m.compromisedKid) (after.keyState m.compromisedKid)
    (after.keyState m.replacementKid) = false) ⟨"emergency_revocation.key_state.invalid"⟩
  rejectIf (before.unchangedNonTargetKeys after [m.compromisedKid, m.replacementKid] = false)
    ⟨"emergency_revocation.unrelated_key.changed"⟩
  let relevant := [before.keyById m.compromisedKid, after.keyById m.compromisedKid,
    after.keyById m.replacementKid]
  rejectIf (relevant.any fun key => key.any fun k => !inScope m.scope m.componentManifestHash k)
    ⟨"emergency_revocation.key_scope.invalid"⟩
  rejectIf (sameIdentity (before.keyById m.compromisedKid) (after.keyById m.compromisedKid) = false)
    ⟨"emergency_revocation.compromised_key.changed"⟩
  rejectIf ((after.keyById m.compromisedKid).any fun k => k.1.revokedAtMs ≠ some m.effectiveAtMs)
    ⟨"emergency_revocation.revocation_time.mismatch"⟩
  rejectIf (sameIdentity (before.keyById m.replacementKid) (after.keyById m.replacementKid) = false)
    ⟨"emergency_revocation.replacement_key.changed"⟩
  rejectIf (after.1.generatedAtMs < m.effectiveAtMs) ⟨"emergency_revocation.bundle_time.invalid"⟩
  rejectIf (nowMs < m.effectiveAtMs) ⟨"emergency_revocation.not_yet_effective"⟩
  pure after

end Tiangong
