import Tiangong.Checked
import Tiangong.PolicyContracts

/-!
# The policy engine

The engine judges one intent from the evidence that a caller hands it. The outcome starts open; each
check may turn it into a rejection, and what is still open below the A5 ceiling is allowed.
-/
namespace Tiangong.Policy

/-- What `evaluate` raises. -/
inductive PolicyFault where
  | engine (text : String)
  /-- `ValueError` of the impact, or a refused contract. -/
  | value (text : String)
  deriving DecidableEq, Repr

/-- The reference of an item that validates. -/
def SourceItem.ref? : SourceItem → Option SourceRef
  | .ref r => some r
  | .invalid => none

/-- The references in the order of their sort keys, each once. -/
def normalizeSourceRefs (items : List SourceItem) : Except PolicyFault (List SourceRef) := do
  rejectIf (.invalid ∈ items) (.engine "policy.source_ref_invalid")
  pure (sortedSet (items.filterMap SourceItem.ref?))

def riskFromActionImpact (impact : ActionImpact) : Except PolicyFault RiskClass := do
  rejectIf (impact.hasValidImpactSha256 = false) (.value "action impact digest is invalid")
  pure (riskBand impact.critical)

structure PolicyEngine where
  registry : ActionRegistrySnapshot
  policySnapshotSha256 : Canon
  skillCatalogHash : Canon
  capabilityManifestHash : Canon
  componentManifestHash : Canon
  registry_valid : registry.hasValidSha256 = true

/-- The arguments of `evaluate`. Only the presence of a confirmation is read. -/
structure Evidence where
  intent : ActionIntent
  impact : ActionImpact
  decidedAtMs : ℕ
  confirmation : Option Canon := none
  skillActivation : Option SkillActivationGrant := none
  authorizationSourceRefs : Option (List SourceItem) := none
  expectedCompositionBinding : Option CompositionExecutionBinding := none

def derivePolicyDecisionId (e : PolicyEngine) (x : Evidence) : Canon :=
  .ident "policy-decision-" (.ofList [x.intent.intentSha256, x.impact.impactSha256,
    e.registry.registrySha256, e.policySnapshotSha256])

/-- The outcome so far and the reasons given for it. -/
structure Draft where
  outcome : Option PolicyOutcome
  reasons : List PyStr
  deriving DecidableEq

namespace Draft

def start : Draft := ⟨none, [py "policy.machine_risk_recomputed"]⟩

def note (d : Draft) (reason : String) : Draft := { d with reasons := py reason :: d.reasons }

def reject (d : Draft) (reason : String) : Draft := ⟨some .reject, py reason :: d.reasons⟩

def allow (d : Draft) (reason : String) : Draft := ⟨some .allow, py reason :: d.reasons⟩

end Draft

/-- A binding is evidence only: it counts when the caller expects the same one. -/
def judgeComposition (x : Evidence) (d : Draft) : Draft :=
  match x.intent.compositionExecutionBinding, x.expectedCompositionBinding with
  | some _, none => d.reject "policy.composition_binding_untrusted"
  | some binding, some expected =>
    if binding.hasValidSha256 = false ∨ expected.hasValidSha256 = false ∨ binding ≠ expected ∨
        binding.scope ≠ x.intent.bindingScope then
      d.reject "policy.composition_binding_mismatch"
    else d.note "policy.composition_binding_bound"
  | none, some _ => d.reject "policy.composition_binding_missing"
  | none, none => d

/-- The requested side effects are among those of the permission. -/
def requestedAllowed (x : Evidence) (permission : ActionPermission) : Bool :=
  ∀ effect ∈ x.intent.requestedSideEffects, effect ∈ permission.allowedSideEffects

def judgeCeiling (x : Evidence) (permission : ActionPermission) (computedRisk : RiskClass)
    (d : Draft) : Draft :=
  match x.expectedCompositionBinding with
  | none => d
  | some expected =>
    if compositionPermissionAllowed permission expected.executionProfile = false ∨
        computedRisk ≠ permission.effectiveRisk ∨ requestedAllowed x permission = false ∨
        x.confirmation.isSome = true then
      d.reject "policy.composition_a0_ceiling_exceeded"
    else d

/-- Untrusted data may not be presented as a source of authority. -/
def judgeProvenance (x : Evidence) (d : Draft) : Except PolicyFault Draft :=
  match x.authorizationSourceRefs with
  | none => pure d
  | some items => do
    let boundRefs ← normalizeSourceRefs items
    pure (if boundRefs.any fun r => r.sourceType.untrusted then
      d.reject "policy.provenance_elevation" else d.note "policy.provenance_sources_bound")

/-- A5 is refused; below it an open outcome is allowed. -/
def judgeRisk (x : Evidence) (computedRisk : RiskClass) (d : Draft) : Except PolicyFault Draft :=
  if computedRisk = .a5 then pure (d.reject "policy.a5_forbidden")
  else if d.outcome = none then do
    rejectIf (x.confirmation.isSome = true)
      (.engine "A0-A4 execution does not consume confirmation grants")
    pure (d.allow "policy.within_autonomous_ceiling")
  else pure d

/-- The activation is alive and made for the skill, the intent and the catalogs of the engine. -/
def activates (e : PolicyEngine) (x : Evidence) (skill : SkillRef) (g : SkillActivationGrant) :
    Bool :=
  g.hasValidSha256 && g.requestId = x.intent.requestId && g.runId = x.intent.runId &&
    g.generation = x.intent.generation && g.principalScopeHash = x.intent.principalScopeHash &&
    g.skillCatalogHash = e.skillCatalogHash &&
    g.capabilityManifestHash = e.capabilityManifestHash && g.skill = skill &&
    x.intent.actionId ∈ g.allowedActionIds && g.issuedAtMs ≤ x.decidedAtMs &&
    x.decidedAtMs ≤ g.expiresAtMs

def judgeSkill (e : PolicyEngine) (x : Evidence) (d : Draft) :
    Except PolicyFault (Draft × Option (OpaqueId × Canon)) :=
  match x.intent.skill, x.skillActivation with
  | some _, none => pure (d.reject "policy.skill_activation_missing_or_invalid", none)
  | some skill, some g =>
    if activates e x skill g = true then
      pure (d.note "policy.skill_activation_bound", some (g.activationId, g.activationSha256))
    else pure (d.reject "policy.skill_activation_missing_or_invalid", none)
  | none, some _ =>
    .error (.engine "unskilled action cannot consume a Skill activation")
  | none, none => pure (d, none)

/-- The permission of the intent's action and version, once the evidence was checked. -/
def checkEvidence (e : PolicyEngine) (x : Evidence) : Except PolicyFault ActionPermission := do
  rejectIf (x.intent.hasValidSha256 = false ∨ x.impact.hasValidImpactSha256 = false)
    (.engine "policy evidence digest is invalid")
  rejectIf (¬ (x.intent.createdAtMs ≤ x.decidedAtMs ∧ x.decidedAtMs ≤ x.intent.expiresAtMs))
    (.engine "policy decision is outside intent lifetime")
  rejectIf (x.impact.lifeId ≠ x.intent.lifeId ∨ x.impact.actionId.1 ≠ x.intent.actionId.1)
    (.engine "policy impact binding is invalid")
  let permission ← required
    (e.registry.permissions.find? fun p =>
      p.actionId = x.intent.actionId && p.actionVersion = x.intent.actionVersion)
    (.engine "policy action is not in the executable registry")
  rejectIf (permission.hasValidSha256 = false)
    (.engine "policy action is not in the executable registry")
  rejectIf (requestedAllowed x permission = false)
    (.engine "policy requested side effects exceed the action permission")
  pure permission

def computedRisk (permission : ActionPermission) (impactRisk : RiskClass) : RiskClass :=
  permission.effectiveRisk.atLeast impactRisk

def decisionBody (e : PolicyEngine) (x : Evidence) (permission : ActionPermission)
    (risk : RiskClass) (d : Draft) (outcome : PolicyOutcome)
    (activation : Option (OpaqueId × Canon)) : DecisionBody where
  decisionId := derivePolicyDecisionId e x
  intentSha256 := x.intent.intentSha256
  impactId := x.impact.impactId
  impactSha256 := x.impact.impactSha256
  actionPermissionSha256 := permission.permissionSha256
  actionRegistrySha256 := e.registry.registrySha256
  capabilityManifestHash := e.capabilityManifestHash
  componentManifestHash := e.componentManifestHash
  policySnapshotSha256 := e.policySnapshotSha256
  computedRisk := risk
  outcome := outcome
  skillActivation := activation
  compositionExecutionBinding := x.intent.compositionExecutionBinding
  reasonCodes := sortedSet d.reasons
  decidedAtMs := x.decidedAtMs

/-- The contract of a decision, with its digest. -/
def DecisionBody.decision (b : DecisionBody) : Except PolicyFault PolicyDecision :=
  if h : b.valid = true then .ok ⟨b, .sha256 b.canon, h⟩
  else .error (.value "policy decision is invalid")

def evaluate (e : PolicyEngine) (x : Evidence) : Except PolicyFault PolicyDecision := do
  let permission ← checkEvidence e x
  let impactRisk ← riskFromActionImpact x.impact
  let risk := computedRisk permission impactRisk
  let d ← judgeProvenance x (judgeCeiling x permission risk (judgeComposition x .start))
  let d ← judgeRisk x risk d
  let (d, activation) ← judgeSkill e x d
  let outcome ← required d.outcome (.value "policy outcome is missing")
  (decisionBody e x permission risk d outcome activation).decision

end Tiangong.Policy
