import Mathlib.Algebra.Group.Int.Defs
import Mathlib.Algebra.Order.Ring.Int
import Tiangong.CanonOrder
import Tiangong.CompositionContracts

/-!
# Contracts of the action policy

A proposed intent, the impact that was computed for it, and the evidence that a caller adds: where
the authority comes from, the activation of a skill and the binding of a composition step. A record
carries the checks of its contract; values that the policy does not read are one canonical value.
-/
namespace Tiangong.Policy

inductive SourceType where
  | currentUserInstruction | preauthorizedUserFact | authenticatedDirectory
  | externalData | toolData
  deriving DecidableEq, Repr

namespace SourceType

def name : SourceType → PyStr
  | .currentUserInstruction => py "CURRENT_USER_INSTRUCTION"
  | .preauthorizedUserFact => py "PREAUTHORIZED_USER_FACT"
  | .authenticatedDirectory => py "AUTHENTICATED_DIRECTORY"
  | .externalData => py "EXTERNAL_DATA"
  | .toolData => py "TOOL_DATA"

/-- `UNTRUSTED_SOURCE_TYPES`. -/
def untrusted : SourceType → Bool
  | .externalData | .toolData => true
  | .currentUserInstruction | .preauthorizedUserFact | .authenticatedDirectory => false

lemma name_injective : Function.Injective name := by
  intro a b h
  cases a <;> cases b <;> first | rfl | (revert h; decide)

end SourceType

/-- A reference to a source, with both ends of a span or none. -/
structure SourceRef where
  sourceType : SourceType
  objectId : OpaqueId
  objectRevision : ℕ
  sha256 : Canon
  span : Option (ℕ × ℕ)
  revision_pos : 1 ≤ objectRevision
  span_ordered : ∀ s, span = some s → s.1 ≤ s.2
  deriving DecidableEq

namespace SourceRef

/-- The start or the end of a span, and -1 where there is none. -/
def endpoint (side : ℕ × ℕ → ℕ) (span : Option (ℕ × ℕ)) : ℤ :=
  match span with
  | none => -1
  | some s => side s

abbrev SortKey := PyStr ×ₗ PyStr ×ₗ ℕ ×ₗ Canon ×ₗ ℤ ×ₗ ℤ

def sortKey (r : SourceRef) : SortKey :=
  toLex (r.sourceType.name, toLex (r.objectId.1, toLex (r.objectRevision, toLex (r.sha256,
    toLex (endpoint Prod.fst r.span, endpoint Prod.snd r.span)))))

lemma endpoint_injective {span span' : Option (ℕ × ℕ)}
    (hfst : endpoint Prod.fst span = endpoint Prod.fst span')
    (hsnd : endpoint Prod.snd span = endpoint Prod.snd span') : span = span' := by
  cases span with
  | none =>
    cases span' with
    | none => rfl
    | some s =>
      simp only [endpoint] at hfst
      omega
  | some s =>
    cases span' with
    | none =>
      simp only [endpoint] at hfst
      omega
    | some s' =>
      simp only [endpoint, Nat.cast_inj] at hfst hsnd
      rw [Prod.ext hfst hsnd]

/-- References with one sort key are the same, so a set keyed by them loses none. -/
lemma sortKey_injective : Function.Injective sortKey := by
  intro r r' h
  simp only [sortKey, EmbeddingLike.apply_eq_iff_eq, Prod.mk.injEq] at h
  obtain ⟨htype, hobject, hrevision, hsha, hstart, hend⟩ := h
  have hspan := endpoint_injective hstart hend
  cases r
  cases r'
  simp_all [SourceType.name_injective.eq_iff, Subtype.ext_iff]

instance linearOrderSourceRef : LinearOrder SourceRef := LinearOrder.lift' sortKey sortKey_injective

end SourceRef

/-- What a caller presents as a source: a reference, or a mapping that stands for the reference it
validates to, or something that does not validate. -/
inductive SourceItem where
  | ref (r : SourceRef)
  | invalid
  deriving DecidableEq

/-- The execution profile of a composition step; no profile leaves it to read. -/
inductive ExecutionProfile where
  | none | workspaceWrite | workspacePython
  deriving DecidableEq, Repr

/-- The request, the action and the invocation that a composition step is bound to. -/
structure BindingScope where
  requestId : Canon
  runId : Canon
  generation : ℕ
  actionId : ActionId
  actionVersion : OpaqueId
  materializedArgumentsSha256 : Canon
  canonicalInvocationSha256 : Canon
  targetSnapshotSha256 : Option Canon
  workspaceId : OpaqueId
  workspaceScopeHash : Canon
  deriving DecidableEq

/-- `CompositionExecutionBindingV1`; plan, step, effect and continuation are `rest`. -/
structure CompositionExecutionBinding where
  scope : BindingScope
  executionProfile : ExecutionProfile
  rest : Canon
  bindingSha256 : Canon
  deriving DecidableEq

def ExecutionProfile.canon : ExecutionProfile → Canon
  | .none => .null
  | .workspaceWrite => .text "composition.workspace-write.v1"
  | .workspacePython => .text "composition.workspace-python.v1"

def BindingScope.canon (s : BindingScope) : Canon :=
  .ofList [s.requestId, s.runId, .num s.generation, .str s.actionId.1, .str s.actionVersion.1,
    s.materializedArgumentsSha256, s.canonicalInvocationSha256, .option id s.targetSnapshotSha256,
    .str s.workspaceId.1, s.workspaceScopeHash]

namespace CompositionExecutionBinding

def computedSha256 (b : CompositionExecutionBinding) : Canon :=
  .sha256 (.ofList [b.scope.canon, b.executionProfile.canon, b.rest])

def hasValidSha256 (b : CompositionExecutionBinding) : Bool := b.bindingSha256 = b.computedSha256

end CompositionExecutionBinding

def workspaceReadActions : List PyStr := [py "file.read", py "file.list", py "file.hash"]

/-- The risk that `_WRITE_ACTIONS` expects of an action. -/
def writeActionRisk (actionId : PyStr) : Option RiskClass :=
  if actionId = py "file.write" ∨ actionId = py "code.write" ∨
      actionId = py "code.patch_replace" then some .a3
  else if actionId = py "file.mkdir" then some .a2
  else none

/-- Two lists hold the same side effects. -/
def sameEffects (effects effects' : List PyStr) : Bool :=
  (∀ e ∈ effects, e ∈ effects') && (∀ e ∈ effects', e ∈ effects)

def compositionAuthorityAllowed (p : ActionPermission) (profile : ExecutionProfile) : Bool :=
  if p.allowShell then false
  else if profile = .workspacePython ∧ p.actionId.1 = py "python.run" then
    p.effectiveRisk = .a4 && p.allowPython &&
      sameEffects p.allowedSideEffects [py "local_write", py "read"]
  else if p.allowPython then false
  else if profile = .none then
    p.effectiveRisk = .a0 && p.allowedSideEffects.all (· ∈ [py "none", py "read"])
  else if p.actionId.1 ∈ workspaceReadActions then
    p.effectiveRisk = .a0 && sameEffects p.allowedSideEffects [py "read"]
  else
    writeActionRisk p.actionId.1 = some p.effectiveRisk &&
      sameEffects p.allowedSideEffects [py "local_write", py "read"]

def compositionPermissionAllowed (p : ActionPermission) (profile : ExecutionProfile) : Bool :=
  p.hasValidSha256 && p.registryRisk = p.effectiveRisk && compositionAuthorityAllowed p profile &&
    if profile = .none then p.effect = .read || p.effect = .verify
    else
      p.effect = (if p.actionId.1 ∈ workspaceReadActions then .read else .write) &&
        p.pathPolicy = py "workspace_only" && p.allowAbsolutePaths

/-- The skill that an intent or an activation names. -/
structure SkillRef where
  skillId : OpaqueId
  skillVersion : OpaqueId
  skillSha256 : Canon
  deriving DecidableEq

def SkillRef.canon (s : SkillRef) : Canon :=
  .ofList [.str s.skillId.1, .str s.skillVersion.1, s.skillSha256]

/-- `ActionIntent`. -/
structure ActionIntent where
  lifeId : OpaqueId
  principalScopeHash : Canon
  requestId : Canon
  runId : Canon
  generation : ℕ
  actionId : ActionId
  actionVersion : OpaqueId
  workspaceId : OpaqueId
  workspaceScopeHash : Canon
  requestedSideEffects : List PyStr
  skill : Option SkillRef
  canonicalInvocationSha256 : Canon
  targetSnapshotSha256 : Option Canon
  payloadSha256 : Canon
  compositionExecutionBinding : Option CompositionExecutionBinding
  createdAtMs : ℕ
  expiresAtMs : ℕ
  rest : Canon
  intentSha256 : Canon
  lifetime : createdAtMs ≤ expiresAtMs ∧ expiresAtMs ≤ createdAtMs + 60000
  binding_fits : ∀ b, compositionExecutionBinding = some b → b.hasValidSha256 = true ∧
    b.scope = ⟨requestId, runId, generation, actionId, actionVersion, payloadSha256,
      canonicalInvocationSha256, targetSnapshotSha256, workspaceId, workspaceScopeHash⟩

namespace ActionIntent

def bindingScope (i : ActionIntent) : BindingScope :=
  ⟨i.requestId, i.runId, i.generation, i.actionId, i.actionVersion, i.payloadSha256,
    i.canonicalInvocationSha256, i.targetSnapshotSha256, i.workspaceId, i.workspaceScopeHash⟩

def computedSha256 (i : ActionIntent) : Canon :=
  .sha256 (.ofList [.str i.lifeId.1, i.principalScopeHash, i.bindingScope.canon,
    .ofList (i.requestedSideEffects.map .str), .option SkillRef.canon i.skill,
    .option (fun b : CompositionExecutionBinding => .cons b.computedSha256 b.bindingSha256)
      i.compositionExecutionBinding,
    .num i.createdAtMs, .num i.expiresAtMs, i.rest])

def hasValidSha256 (i : ActionIntent) : Bool := i.intentSha256 = i.computedSha256

def withComputedSha256 (i : ActionIntent) : ActionIntent :=
  { i with intentSha256 := i.computedSha256 }

end ActionIntent

/-- `ActionImpact`. -/
structure ActionImpact where
  impactId : Canon
  lifeId : OpaqueId
  actionId : OpaqueId
  intentSha256 : Canon
  touchesIdentity : Bool
  touchesSoul : Bool
  touchesMemoryKeys : Bool
  touchesPolicy : Bool
  touchesCoreCode : Bool
  workspaceScopeMilli : ℕ
  externalRecipientCount : ℕ
  credentialScopeMilli : ℕ
  privacyScopeMilli : ℕ
  blastRadiusMilli : ℕ
  irreversibilityMilli : ℕ
  uncertaintyMilli : ℕ
  rest : Canon
  impactSha256 : Canon
  milli_le : ∀ m ∈ [workspaceScopeMilli, credentialScopeMilli, privacyScopeMilli,
    blastRadiusMilli, irreversibilityMilli, uncertaintyMilli], m ≤ 1000
  recipients_le : externalRecipientCount ≤ 1000000

namespace ActionImpact

def touches (i : ActionImpact) : List Bool :=
  [i.touchesIdentity, i.touchesSoul, i.touchesMemoryKeys, i.touchesPolicy, i.touchesCoreCode]

def scopes (i : ActionImpact) : List ℕ :=
  [i.workspaceScopeMilli, i.credentialScopeMilli, i.privacyScopeMilli, i.blastRadiusMilli,
    i.irreversibilityMilli, i.uncertaintyMilli]

def computedImpactSha256 (i : ActionImpact) : Canon :=
  .sha256 (.ofList [i.impactId, .str i.lifeId.1, .str i.actionId.1, i.intentSha256,
    .ofList (i.touches.map .flag), .ofList (i.scopes.map .num), .num i.externalRecipientCount,
    i.rest])

def hasValidImpactSha256 (i : ActionImpact) : Bool := i.impactSha256 = i.computedImpactSha256

def withComputedImpactSha256 (i : ActionImpact) : ActionImpact :=
  { i with impactSha256 := i.computedImpactSha256 }

end ActionImpact

def riskBand (critical : ℕ) : RiskClass :=
  if critical = 0 then .a0
  else if critical ≤ 200 then .a1
  else if critical ≤ 400 then .a2
  else if critical ≤ 600 then .a3
  else if critical ≤ 800 then .a4
  else .a5

/-- The largest scope of an impact, raised by what it touches. -/
def ActionImpact.critical (i : ActionImpact) : ℕ :=
  let critical := i.scopes.foldl max 0
  let critical := if i.externalRecipientCount ≠ 0 then max critical 700 else critical
  let critical :=
    if i.touchesCoreCode || i.credentialScopeMilli ≠ 0 then max critical 900 else critical
  if i.touchesIdentity || i.touchesSoul || i.touchesMemoryKeys || i.touchesPolicy then 1000
  else critical

/-- `SkillActivationGrant`. -/
structure SkillActivationGrant where
  activationId : OpaqueId
  requestId : Canon
  runId : Canon
  generation : ℕ
  principalScopeHash : Canon
  skillCatalogHash : Canon
  capabilityManifestHash : Canon
  skill : SkillRef
  allowedActionIds : List ActionId
  issuedAtMs : ℕ
  expiresAtMs : ℕ
  rest : Canon
  activationSha256 : Canon
  lifetime : issuedAtMs ≤ expiresAtMs ∧ expiresAtMs ≤ issuedAtMs + 3600000

namespace SkillActivationGrant

def computedSha256 (g : SkillActivationGrant) : Canon :=
  .sha256 (.ofList [.str g.activationId.1, g.requestId, g.runId, .num g.generation,
    g.principalScopeHash, g.skillCatalogHash, g.capabilityManifestHash, g.skill.canon,
    .strs g.allowedActionIds, .num g.issuedAtMs, .num g.expiresAtMs, g.rest])

def hasValidSha256 (g : SkillActivationGrant) : Bool := g.activationSha256 = g.computedSha256

end SkillActivationGrant

inductive PolicyOutcome where
  | allow | requireConfirmation | reject
  deriving DecidableEq, Repr

def PolicyOutcome.canon : PolicyOutcome → Canon
  | .allow => .text "ALLOW"
  | .requireConfirmation => .text "REQUIRE_CONFIRMATION"
  | .reject => .text "REJECT"

/-- What a decision says before its digest. A decision names no confirmation. -/
structure DecisionBody where
  decisionId : Canon
  intentSha256 : Canon
  impactId : Canon
  impactSha256 : Canon
  actionPermissionSha256 : Canon
  actionRegistrySha256 : Canon
  capabilityManifestHash : Canon
  componentManifestHash : Canon
  policySnapshotSha256 : Canon
  computedRisk : RiskClass
  outcome : PolicyOutcome
  skillActivation : Option (OpaqueId × Canon)
  compositionExecutionBinding : Option CompositionExecutionBinding
  reasonCodes : List PyStr
  decidedAtMs : ℕ
  deriving DecidableEq

namespace DecisionBody

/-- The check of the contract: an A5 decision rejects, and no other asks for a confirmation. -/
def valid (d : DecisionBody) : Bool :=
  d.reasonCodes ≠ [] && d.reasonCodes.length ≤ 64 &&
    (if d.computedRisk = .a5 then d.outcome = .reject else d.outcome ≠ .requireConfirmation) &&
    d.compositionExecutionBinding.all CompositionExecutionBinding.hasValidSha256

def canon (d : DecisionBody) : Canon :=
  .ofList [d.decisionId, d.intentSha256, d.impactId, d.impactSha256, d.actionPermissionSha256,
    d.actionRegistrySha256, d.capabilityManifestHash, d.componentManifestHash,
    d.policySnapshotSha256, d.computedRisk.canon, d.outcome.canon,
    .option (fun a : OpaqueId × Canon => .cons (.str a.1.1) a.2) d.skillActivation,
    .option (fun b : CompositionExecutionBinding => .cons b.computedSha256 b.bindingSha256)
      d.compositionExecutionBinding,
    .ofList (d.reasonCodes.map .str), .num d.decidedAtMs]

end DecisionBody

/-- `PolicyDecision`. -/
structure PolicyDecision where
  body : DecisionBody
  decisionSha256 : Canon
  body_valid : body.valid = true

end Tiangong.Policy
