import Mathlib.Data.Prod.Lex
import Tiangong.Canon
import Tiangong.PythonText

/-!
# Contracts of capability composition

Model proposals, the candidates they choose from, and the plans that the system compiles from them.
Identifiers carry the check of their pattern.
-/
namespace Tiangong

namespace CodePoint

def isAlphanumeric (c : CodePoint) : Bool := c.isDigit || c.isUpperLetter || c.isLowerLetter

/-- A character of an opaque identifier after its first. -/
def isOpaque (c : CodePoint) : Bool :=
  c.isAlphanumeric || (py "._:@-").contains c

/-- A character of an action identifier after its first. -/
def isAction (c : CodePoint) : Bool :=
  c.isDigit || c.isLowerLetter || (py "._:-").contains c

end CodePoint

def isOpaqueId : PyStr → Bool
  | [] => false
  | c :: rest => c.isAlphanumeric && rest.all CodePoint.isOpaque && rest.length < 160

def isActionId : PyStr → Bool
  | [] => false
  | c :: rest =>
    (c.isDigit || c.isLowerLetter) && rest.all CodePoint.isAction && rest.length < 160

abbrev OpaqueId := {s : PyStr // isOpaqueId s = true}

instance : LawfulBEq OpaqueId := inferInstance

abbrev ActionId := {s : PyStr // isActionId s = true}

/-- The contract's check of an identifier. -/
def OpaqueId.ofText (s : PyStr) : Option OpaqueId :=
  if h : isOpaqueId s = true then some ⟨s, h⟩ else none

@[simp] theorem OpaqueId.ofText_eq_some {s : PyStr} {id : OpaqueId} :
    OpaqueId.ofText s = some id ↔ s = id.1 := by
  unfold OpaqueId.ofText
  by_cases h : isOpaqueId s = true
  · simp [h, Subtype.ext_iff]
  · simp only [h, dite_false, reduceCtorEq, false_iff]
    rintro rfl
    exact h id.2

theorem OpaqueId.ne_nil (id : OpaqueId) : id.1 ≠ [] := by
  intro h
  have hid := id.2
  rw [h] at hid
  cases hid

namespace Canon

def str (s : PyStr) : Canon := .ofList (s.map fun c => .num c.val)

def strs {p : PyStr → Prop} (ids : List {s : PyStr // p s}) : Canon :=
  .ofList (ids.map fun id => .str id.1)

/-- Texts with one canonical form are the same text. -/
theorem str_inj {s t : PyStr} : str s = str t ↔ s = t := by
  have hpoint : Function.Injective fun c : CodePoint => num c.val := by
    intro c c' h
    exact Fin.ext (num.inj h)
  exact (ofList_injective.comp hpoint.list_map).eq_iff

end Canon

inductive RiskClass where
  | a0 | a1 | a2 | a3 | a4 | a5
  deriving DecidableEq, Repr

namespace RiskClass

def rank : RiskClass → ℕ
  | .a0 => 0
  | .a1 => 1
  | .a2 => 2
  | .a3 => 3
  | .a4 => 4
  | .a5 => 5

def canon (r : RiskClass) : Canon := .num r.rank

/-- The larger of two classes. -/
def atLeast (value floor : RiskClass) : RiskClass := if value.rank < floor.rank then floor else value

end RiskClass

inductive Idempotency where
  | idempotent | nonIdempotent | conditional | unknown
  deriving DecidableEq, Repr

def Idempotency.canon : Idempotency → Canon
  | .idempotent => .text "IDEMPOTENT"
  | .nonIdempotent => .text "NON_IDEMPOTENT"
  | .conditional => .text "CONDITIONAL"
  | .unknown => .text "UNKNOWN"

inductive DeterminismClass where
  | deterministic | boundedNondeterministic | nondeterministic
  deriving DecidableEq, Repr

def DeterminismClass.canon : DeterminismClass → Canon
  | .deterministic => .text "DETERMINISTIC"
  | .boundedNondeterministic => .text "BOUNDED_NONDETERMINISTIC"
  | .nondeterministic => .text "NONDETERMINISTIC"

inductive Availability where
  | available | unavailable | degraded | unknown
  deriving DecidableEq, Repr

def Availability.canon : Availability → Canon
  | .available => .text "AVAILABLE"
  | .unavailable => .text "UNAVAILABLE"
  | .degraded => .text "DEGRADED"
  | .unknown => .text "UNKNOWN"

inductive ControlFlow where
  | sequential | dag
  deriving DecidableEq, Repr

def ControlFlow.name : ControlFlow → PyStr
  | .sequential => py "SEQUENTIAL"
  | .dag => py "DAG"

def ControlFlow.canon (f : ControlFlow) : Canon := .str f.name

structure ProposalStep where
  stepId : OpaqueId
  candidateId : OpaqueId
  dependsOn : List OpaqueId
  outputBindings : List OpaqueId
  deriving DecidableEq

def ProposalStep.canon (s : ProposalStep) : Canon :=
  .ofList [.str s.stepId.1, .str s.candidateId.1, .strs s.dependsOn, .strs s.outputBindings]

/-- A model's choice of candidates and their order. It carries no authority. -/
structure CompositionProposal where
  goalRef : OpaqueId
  selectedMethodCandidateIds : List OpaqueId
  selectedActionCandidateIds : List OpaqueId
  steps : List ProposalStep
  dependencyEdges : List (OpaqueId × OpaqueId)
  outputBindings : List OpaqueId
  controlFlow : ControlFlow
  rationaleTags : List OpaqueId
  proposalSha256 : Canon
  deriving DecidableEq

namespace CompositionProposal

def computedSha256 (p : CompositionProposal) : Canon :=
  .sha256 (.ofList [.str p.goalRef.1, .strs p.selectedMethodCandidateIds,
    .strs p.selectedActionCandidateIds, .ofList (p.steps.map ProposalStep.canon),
    .ofList (p.dependencyEdges.map fun edge => .ofList [.str edge.1.1, .str edge.2.1]),
    .strs p.outputBindings, p.controlFlow.canon, .strs p.rationaleTags])

def withComputedSha256 (p : CompositionProposal) : CompositionProposal :=
  { p with proposalSha256 := p.computedSha256 }

end CompositionProposal

structure SourceSpanRef where
  path : PyStr
  startLine : Option ℕ
  endLine : Option ℕ
  deriving DecidableEq

def SourceSpanRef.canon (r : SourceSpanRef) : Canon :=
  .ofList [.str r.path, .option .num r.startLine, .option .num r.endLine]

inductive SourceKind where
  | toolAction | skillMethod
  deriving DecidableEq, Repr

def SourceKind.name : SourceKind → PyStr
  | .toolAction => py "TOOL_ACTION"
  | .skillMethod => py "SKILL_METHOD"

structure SourceRevisionRef where
  sourceKind : SourceKind
  semanticId : PyStr
  version : PyStr
  sourceFiles : List PyStr
  sourceSpans : List SourceSpanRef
  sourceSha256 : Canon
  descriptorSha256 : Canon
  manifestSha256 : Option Canon
  deriving DecidableEq

def SourceRevisionRef.canon (r : SourceRevisionRef) : Canon :=
  .ofList [.str r.sourceKind.name, .str r.semanticId, .str r.version,
    .ofList (r.sourceFiles.map .str), .ofList (r.sourceSpans.map SourceSpanRef.canon),
    r.sourceSha256, r.descriptorSha256, .option id r.manifestSha256]

/-- An action as the composition sees it: what it consumes, produces, reads and writes. -/
structure ToolSourcePrimitive where
  sourcePrimitiveId : OpaqueId
  actionId : ActionId
  actionVersion : PyStr
  providerComponentId : OpaqueId
  implementationRefs : List SourceSpanRef
  implementationHashes : List Canon
  actionManifestSha256 : Canon
  argumentSchemaSha256 : Canon
  resultSchemaSha256 : Canon
  consumes : List OpaqueId
  produces : List OpaqueId
  effectClass : OpaqueId
  sideEffects : List OpaqueId
  riskFloor : RiskClass
  idempotency : Idempotency
  determinismClass : DeterminismClass
  resourceScope : List OpaqueId
  readSetDescriptor : List OpaqueId
  writeSetDescriptor : List OpaqueId
  evidenceContract : List OpaqueId
  verifierRefs : List OpaqueId
  failureTaxonomy : List OpaqueId
  availability : Availability
  descriptorSha256 : Canon

namespace ToolSourcePrimitive

def fields (p : ToolSourcePrimitive) : List Canon :=
  [.str p.sourcePrimitiveId.1, .str p.actionId.1, .str p.actionVersion,
    .str p.providerComponentId.1, .ofList (p.implementationRefs.map SourceSpanRef.canon),
    .ofList p.implementationHashes, p.actionManifestSha256, p.argumentSchemaSha256,
    p.resultSchemaSha256, .strs p.consumes, .strs p.produces, .str p.effectClass.1,
    .strs p.sideEffects, p.riskFloor.canon, p.idempotency.canon, p.determinismClass.canon,
    .strs p.resourceScope, .strs p.readSetDescriptor, .strs p.writeSetDescriptor,
    .strs p.evidenceContract, .strs p.verifierRefs, .strs p.failureTaxonomy, p.availability.canon]

def canon (p : ToolSourcePrimitive) : Canon := .ofList (p.fields ++ [p.descriptorSha256])

def computedDescriptorSha256 (p : ToolSourcePrimitive) : Canon := .sha256 (.ofList p.fields)

end ToolSourcePrimitive

structure SkillSourcePrimitive where
  methodId : OpaqueId
  version : PyStr
  sourceRef : SourceRevisionRef
  sourceSha256 : Canon
  title : PyStr
  semanticSummary : PyStr
  goalClasses : List OpaqueId
  preconditions : List OpaqueId
  expectedPostconditions : List OpaqueId
  requiredCapabilityClasses : List OpaqueId
  methodSteps : List OpaqueId
  controlFlowHints : List OpaqueId
  failureModes : List OpaqueId
  fallbackPatterns : List OpaqueId
  verificationIntent : List OpaqueId
  compositionTags : List OpaqueId
  descriptorSha256 : Canon

namespace SkillSourcePrimitive

def fields (p : SkillSourcePrimitive) : List Canon :=
  [.str p.methodId.1, .str p.version, p.sourceSha256, .str p.title, .str p.semanticSummary,
    .strs p.goalClasses, .strs p.preconditions, .strs p.expectedPostconditions,
    .strs p.requiredCapabilityClasses, .strs p.methodSteps, .strs p.controlFlowHints,
    .strs p.failureModes, .strs p.fallbackPatterns, .strs p.verificationIntent,
    .strs p.compositionTags]

def canon (p : SkillSourcePrimitive) : Canon :=
  .ofList (p.fields ++ [p.sourceRef.canon, p.descriptorSha256])

/-- The digest leaves out the descriptor itself, in the primitive and in its source. -/
def computedDescriptorSha256 (p : SkillSourcePrimitive) : Canon :=
  .sha256 (.ofList (p.fields ++ [{ p.sourceRef with descriptorSha256 := .null }.canon]))

end SkillSourcePrimitive

structure CompositionPlanStep where
  stepId : OpaqueId
  actionId : ActionId
  actionVersion : PyStr
  methodId : Option OpaqueId
  dependsOn : List OpaqueId
  expectedEffectRefs : List OpaqueId
  verificationIntentRefs : List OpaqueId
  deriving DecidableEq

def CompositionPlanStep.canon (s : CompositionPlanStep) : Canon :=
  .ofList [.str s.stepId.1, .str s.actionId.1, .str s.actionVersion,
    .option (fun id => .str id.1) s.methodId, .strs s.dependsOn, .strs s.expectedEffectRefs,
    .strs s.verificationIntentRefs]

/-- A plan, compiled by the system and never minted by a model. -/
structure CapabilityCompositionPlan where
  planId : Canon
  requestId : PyStr
  runId : PyStr
  generation : ℕ
  principalScopeHash : Canon
  worldStateRef : PyStr
  worldStateSha256 : Canon
  goalFingerprint : Canon
  environmentClass : PyStr
  contextFingerprintSha256 : Canon
  methodSourceRefs : List SourceRevisionRef
  actionSourceRefs : List SourceRevisionRef
  steps : List CompositionPlanStep
  dependencyGraphSha256 : Canon
  bindingsSha256 : Canon
  controlFlow : ControlFlow
  expectedEffects : List OpaqueId
  requiredResourceClasses : List OpaqueId
  permissionRequirements : List ActionId
  riskFloor : RiskClass
  compositionRisk : RiskClass
  informationFlowFindings : List PyStr
  sourceManifestSha256 : Canon
  capabilityManifestSha256 : Canon
  memoryExperienceRefs : List OpaqueId
  verificationIntents : List OpaqueId
  createdAtMs : ℕ
  planSha256 : Canon
  deriving DecidableEq

namespace CapabilityCompositionPlan

def computedSha256 (p : CapabilityCompositionPlan) : Canon :=
  .sha256 (.ofList [p.planId, .str p.requestId, .str p.runId, .num p.generation,
    p.principalScopeHash, .str p.worldStateRef, p.worldStateSha256, p.goalFingerprint,
    .str p.environmentClass, p.contextFingerprintSha256,
    .ofList (p.methodSourceRefs.map SourceRevisionRef.canon),
    .ofList (p.actionSourceRefs.map SourceRevisionRef.canon),
    .ofList (p.steps.map CompositionPlanStep.canon), p.dependencyGraphSha256, p.bindingsSha256,
    p.controlFlow.canon, .strs p.expectedEffects, .strs p.requiredResourceClasses,
    .strs p.permissionRequirements, p.riskFloor.canon, p.compositionRisk.canon,
    .ofList (p.informationFlowFindings.map .str), p.sourceManifestSha256,
    p.capabilityManifestSha256, .strs p.memoryExperienceRefs, .strs p.verificationIntents,
    .num p.createdAtMs])

def hasValidSha256 (p : CapabilityCompositionPlan) : Bool := p.planSha256 = p.computedSha256

def withComputedSha256 (p : CapabilityCompositionPlan) : CapabilityCompositionPlan :=
  { p with planSha256 := p.computedSha256 }

end CapabilityCompositionPlan

inductive ActionEffect where
  | read | verify | create | write | update | execute
  deriving DecidableEq, Repr

namespace ActionEffect

def name : ActionEffect → PyStr
  | .read => py "read"
  | .verify => py "verify"
  | .create => py "create"
  | .write => py "write"
  | .update => py "update"
  | .execute => py "execute"

def floor : ActionEffect → RiskClass
  | .read | .verify => .a0
  | .create | .write => .a2
  | .update | .execute => .a3

end ActionEffect

/-- The permission of one executable action. -/
structure ActionPermission where
  schemaVersion : SchemaVersion
  actionId : ActionId
  actionVersion : OpaqueId
  registryRisk : RiskClass
  effectiveRisk : RiskClass
  effect : ActionEffect
  handler : PyStr
  allowedSideEffects : List PyStr
  pathPolicy : PyStr
  allowAbsolutePaths : Bool
  allowShell : Bool
  allowPython : Bool
  sourceManifestSha256 : Canon
  permissionSha256 : Canon
  machine_floor : max registryRisk.rank effect.floor.rank ≤ effectiveRisk.rank
  executable : effectiveRisk ≠ .a5
  privileged : (allowShell || allowPython) = true → effectiveRisk = .a4
  destructive : py "destructive" ∈ allowedSideEffects → effectiveRisk = .a4

namespace ActionPermission

def fields (p : ActionPermission) : List Canon :=
  [p.schemaVersion.canon, .str p.actionId.1, .str p.actionVersion.1, p.registryRisk.canon,
    p.effectiveRisk.canon, .str p.effect.name, .str p.handler,
    .ofList (p.allowedSideEffects.map .str), .str p.pathPolicy, .flag p.allowAbsolutePaths,
    .flag p.allowShell, .flag p.allowPython, p.sourceManifestSha256]

def canon (p : ActionPermission) : Canon := .ofList (p.fields ++ [p.permissionSha256])

def computedSha256 (p : ActionPermission) : Canon := .sha256 (.ofList p.fields)

def hasValidSha256 (p : ActionPermission) : Bool := p.permissionSha256 = p.computedSha256

def withComputedSha256 (p : ActionPermission) : ActionPermission :=
  { p with permissionSha256 := p.computedSha256 }

end ActionPermission

/-- The permissions of the executable actions, one for each. -/
structure ActionRegistrySnapshot where
  schemaVersion : SchemaVersion
  registryId : OpaqueId
  revision : ℕ
  generatedAtMs : ℕ
  sourceManifestSha256 : Canon
  permissions : List ActionPermission
  registrySha256 : Canon
  actionIds_sorted : (permissions.map (·.actionId)).Pairwise (· < ·)
  permissions_valid : ∀ p ∈ permissions,
    p.hasValidSha256 = true ∧ p.sourceManifestSha256 = sourceManifestSha256

namespace ActionRegistrySnapshot

def computedSha256 (r : ActionRegistrySnapshot) : Canon :=
  .sha256 (.ofList [r.schemaVersion.canon, .str r.registryId.1, .num r.revision,
    .num r.generatedAtMs, r.sourceManifestSha256, .num r.permissions.length,
    .ofList (r.permissions.map ActionPermission.canon)])

def hasValidSha256 (r : ActionRegistrySnapshot) : Bool := r.registrySha256 = r.computedSha256

def withComputedSha256 (r : ActionRegistrySnapshot) : ActionRegistrySnapshot :=
  { r with registrySha256 := r.computedSha256 }

end ActionRegistrySnapshot

/-- What an action's source revision is derived from. -/
def orderedSpans (refs : List SourceSpanRef) : List SourceSpanRef :=
  refs.insertionSort fun r r' =>
    (toLex (r.path, toLex (r.startLine.getD 0, r.endLine.getD 0)) : PyStr ×ₗ ℕ ×ₗ ℕ) ≤
      toLex (r'.path, toLex (r'.startLine.getD 0, r'.endLine.getD 0))

/-- The revision of an action's source. The digests of several files are hashed together, in the
order in which they are listed. -/
def derivedActionSourceRevision (p : ToolSourcePrimitive) : SourceRevisionRef where
  sourceKind := .toolAction
  semanticId := p.actionId.1
  version := p.actionVersion
  sourceFiles := sortedSet (p.implementationRefs.map (·.path))
  sourceSpans := orderedSpans p.implementationRefs
  sourceSha256 := match p.implementationHashes.dedup with
    | [hash] => hash
    | hashes => .sha256 (.ofList [.text "tiangong.tool-source-revision-derived.v1",
        .ofList hashes, .ofList ((orderedSpans p.implementationRefs).map SourceSpanRef.canon)])
  descriptorSha256 := p.descriptorSha256
  manifestSha256 := some p.actionManifestSha256

structure MethodCandidateBinding where
  candidateId : PyStr
  primitive : SkillSourcePrimitive
  bindingSha256 : Canon
  source_kind : primitive.sourceRef.sourceKind = .skillMethod
  source_id : primitive.sourceRef.semanticId = primitive.methodId.1
  source_version : primitive.sourceRef.version = primitive.version
  source_unbound : primitive.sourceRef.manifestSha256 = none
  source_sha256 : primitive.sourceSha256 = primitive.sourceRef.sourceSha256
  source_descriptor : primitive.descriptorSha256 = primitive.sourceRef.descriptorSha256
  descriptor_valid : primitive.descriptorSha256 = primitive.computedDescriptorSha256

def MethodCandidateBinding.computedSha256 (b : MethodCandidateBinding) : Canon :=
  .sha256 (.ofList [.str b.candidateId, b.primitive.canon])

structure ActionCandidateBinding where
  candidateId : PyStr
  primitive : ToolSourcePrimitive
  sourceRevision : SourceRevisionRef
  bindingSha256 : Canon
  descriptor_valid : primitive.descriptorSha256 = primitive.computedDescriptorSha256
  source_derived : sourceRevision = derivedActionSourceRevision primitive

def ActionCandidateBinding.computedSha256 (b : ActionCandidateBinding) : Canon :=
  .sha256 (.ofList [.str b.candidateId, b.primitive.canon, b.sourceRevision.canon])

/-- The identifier of the candidate with the given index: a letter and two digits. -/
def candidateName (letter : Char) (index : ℕ) : PyStr :=
  [.ofChar letter, .ofChar (Nat.digitChar (index / 10)), .ofChar (Nat.digitChar (index % 10))]

/-- The candidate identifiers of a set, in their order. -/
def candidateNames (letter : Char) (count : ℕ) : List PyStr :=
  (List.range count).map fun i => candidateName letter (i + 1)

/-- The candidates a proposal may choose from. -/
structure CompositionCandidateSnapshot where
  toolWorldSha256 : Canon
  methodWorldSha256 : Canon
  methodCandidates : List MethodCandidateBinding
  actionCandidates : List ActionCandidateBinding
  candidateSnapshotSha256 : Canon
  methods_named : methodCandidates.map (·.candidateId) = candidateNames 'M' methodCandidates.length
  methods_bounded : methodCandidates.length ≤ 15
  actions_named : actionCandidates.map (·.candidateId) = candidateNames 'A' actionCandidates.length
  actions_nonempty : actionCandidates ≠ []
  actions_bounded : actionCandidates.length ≤ 30
  methods_valid : ∀ b ∈ methodCandidates, b.bindingSha256 = b.computedSha256
  actions_valid : ∀ b ∈ actionCandidates, b.bindingSha256 = b.computedSha256
  methodIds_nodup : (methodCandidates.map (·.primitive.methodId)).Nodup
  actionIds_nodup : (actionCandidates.map (·.primitive.actionId)).Nodup

namespace CompositionCandidateSnapshot

def computedSha256 (s : CompositionCandidateSnapshot) : Canon :=
  .sha256 (.ofList [s.toolWorldSha256, s.methodWorldSha256, .ofList (s.methodCandidates.map fun b =>
      .ofList [.str b.candidateId, b.primitive.canon, b.bindingSha256]),
    .ofList (s.actionCandidates.map fun b =>
      .ofList [.str b.candidateId, b.primitive.canon, b.sourceRevision.canon, b.bindingSha256])])

def hasValidSha256 (s : CompositionCandidateSnapshot) : Bool :=
  s.candidateSnapshotSha256 = s.computedSha256

def withComputedSha256 (s : CompositionCandidateSnapshot) : CompositionCandidateSnapshot :=
  { s with candidateSnapshotSha256 := s.computedSha256 }

end CompositionCandidateSnapshot

end Tiangong
