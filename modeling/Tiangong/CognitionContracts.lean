import Tiangong.WorldRecords

/-!
# Cognition contracts

Evidence, the statements of a belief slot and the decisions that revise them: what their model
validators demand, and the digests by which they are referred to. The upper bounds of clocks and
counters are left out.
-/
namespace Tiangong

inductive CognitionDomain where
  | software | self | user | environment | organization | external
  deriving DecidableEq, Repr

def CognitionDomain.text : CognitionDomain → String
  | .software => "software"
  | .self => "self"
  | .user => "user"
  | .environment => "environment"
  | .organization => "organization"
  | .external => "external"

/-- `_sorted_unique`. -/
def sortedUniqueIds (ids : List Canon) : Bool := decide (ids.Pairwise (· < ·))

inductive EvidenceClass where
  | observed | userAsserted | executionVerified | modelInference | reflection | prospective
  | migrationVerified
  deriving DecidableEq, Repr

def EvidenceClass.text : EvidenceClass → String
  | .observed => "observed"
  | .userAsserted => "user_asserted"
  | .executionVerified => "execution_verified"
  | .modelInference => "model_inference"
  | .reflection => "reflection"
  | .prospective => "prospective"
  | .migrationVerified => "migration_verified"

inductive CognitionEvidenceSourceKind where
  | memory | factExecution | codePerception | userInstruction | systemAuthority | modelSynthesis
  | migration
  deriving DecidableEq, Repr

def CognitionEvidenceSourceKind.text : CognitionEvidenceSourceKind → String
  | .memory => "memory"
  | .factExecution => "fact_execution"
  | .codePerception => "code_perception"
  | .userInstruction => "user_instruction"
  | .systemAuthority => "system_authority"
  | .modelSynthesis => "model_synthesis"
  | .migration => "migration"

inductive CognitionObservationMode where
  | positive | negative | aggregate
  deriving DecidableEq, Repr

def CognitionObservationMode.text : CognitionObservationMode → String
  | .positive => "positive"
  | .negative => "negative"
  | .aggregate => "aggregate"

inductive CognitionExtractorKind where
  | deterministic | directTool | memoryProjection | llmSynthesis | migration
  deriving DecidableEq, Repr

def CognitionExtractorKind.text : CognitionExtractorKind → String
  | .deterministic => "deterministic"
  | .directTool => "direct_tool"
  | .memoryProjection => "memory_projection"
  | .llmSynthesis => "llm_synthesis"
  | .migration => "migration"

inductive CognitionVolatilityClass where
  | transient | short | medium | long | structural
  deriving DecidableEq, Repr

def CognitionVolatilityClass.text : CognitionVolatilityClass → String
  | .transient => "transient"
  | .short => "short"
  | .medium => "medium"
  | .long => "long"
  | .structural => "structural"

structure CognitionSourceRef where
  sourceKind : CognitionEvidenceSourceKind
  objectId : String
  objectRevision : ℕ
  sha256 : Canon
  /-- Both ends of the span, or none. -/
  span : Option (ℕ × ℕ)
  deriving DecidableEq

namespace CognitionSourceRef

def valid (r : CognitionSourceRef) : Bool := 1 ≤ r.objectRevision && r.span.all fun s => s.1 ≤ s.2

def canon (r : CognitionSourceRef) : Canon :=
  .ofList [.text r.sourceKind.text, .text r.objectId, .num r.objectRevision, r.sha256,
    .option (fun s => .cons (.num s.1) (.num s.2)) r.span]

end CognitionSourceRef

structure EvidenceFields where
  evidenceId : Canon
  lifeId : String
  domain : CognitionDomain
  worldScopeHash : Canon
  principalScopeHash : Canon
  privacyScope : PrivacyScope
  sourceRef : CognitionSourceRef
  evidenceClass : EvidenceClass
  sourceCredibilityMilli : ℕ
  authorityCeilingMilli : ℕ
  provenanceIntegrityMilli : ℕ
  observationMode : CognitionObservationMode
  observation : String
  coverageMilli : ℕ
  searchScopeHash : Option Canon
  independenceGroupHash : Canon
  lineageRootHashes : List Canon
  derivedFromEvidenceIds : List Canon
  ancestorCognitionIds : List Canon
  contentObjectId : String
  contentSha256 : Canon
  extractorKind : CognitionExtractorKind
  observedAtMs : ℕ
  validFromMs : ℕ
  validUntilMs : Option ℕ
  volatilityClass : CognitionVolatilityClass
  evidenceSha256 : Canon
  deriving DecidableEq

namespace EvidenceFields

/-- Everything but the identifier and the digest. -/
def payload (e : EvidenceFields) : List Canon :=
  [.text e.lifeId, .text e.domain.text, e.worldScopeHash, e.principalScopeHash,
    .text e.privacyScope.text, e.sourceRef.canon, .text e.evidenceClass.text,
    .num e.sourceCredibilityMilli, .num e.authorityCeilingMilli, .num e.provenanceIntegrityMilli,
    .text e.observationMode.text, .text e.observation, .num e.coverageMilli,
    .option id e.searchScopeHash, e.independenceGroupHash, .ofList e.lineageRootHashes,
    .ofList e.derivedFromEvidenceIds, .ofList e.ancestorCognitionIds, .text e.contentObjectId,
    e.contentSha256, .text e.extractorKind.text, .num e.observedAtMs, .num e.validFromMs,
    .option .num e.validUntilMs, .text e.volatilityClass.text]

/-- `derive_cognition_evidence_id`. -/
def derivedId (e : EvidenceFields) : Canon :=
  .ident "cev_" <| .ofList (.text "tiangong.cognition.evidence-id.v1" :: e.payload)

/-- `computed_evidence_sha256`. -/
def computedHash (e : EvidenceFields) : Canon := .sha256 <| .ofList (e.evidenceId :: e.payload)

/-- `validate_provenance_and_scope`. -/
def provenanceValid (e : EvidenceFields) : Bool :=
  e.sourceCredibilityMilli ≤ e.authorityCeilingMilli && e.validUntilMs.all (e.validFromMs ≤ ·) &&
    (e.evidenceClass = .prospective || e.validFromMs ≤ e.observedAtMs) &&
    (match e.observationMode with
      | .negative | .aggregate => e.searchScopeHash.isSome && 0 < e.coverageMilli
      | .positive => e.searchScopeHash.isNone) &&
    !e.derivedFromEvidenceIds.contains e.evidenceId &&
    (!(e.extractorKind = .llmSynthesis || e.sourceRef.sourceKind = .modelSynthesis) ||
      e.evidenceClass = .modelInference || e.evidenceClass = .reflection)

/-- The field constraints and validators of `CognitionEvidence`. -/
def valid (e : EvidenceFields) : Bool :=
  e.sourceRef.valid && (e.sourceCredibilityMilli ≤ 1000 && e.authorityCeilingMilli ≤ 1000 &&
      e.provenanceIntegrityMilli ≤ 1000 && e.coverageMilli ≤ 1000) &&
    (1 ≤ e.observation.length && e.observation.length ≤ 50000) &&
    (sortedUniqueIds e.lineageRootHashes && 1 ≤ e.lineageRootHashes.length &&
      e.lineageRootHashes.length ≤ 256) &&
    (sortedUniqueIds e.derivedFromEvidenceIds && e.derivedFromEvidenceIds.length ≤ 256) &&
    (sortedUniqueIds e.ancestorCognitionIds && e.ancestorCognitionIds.length ≤ 256) &&
    e.provenanceValid && e.evidenceId = e.derivedId

end EvidenceFields

abbrev CognitionEvidence := Sealed EvidenceFields.valid

namespace CognitionEvidence

abbrev id (e : CognitionEvidence) : Canon := e.1.evidenceId

/-- `has_valid_evidence_sha256`. -/
def hasValidHash (e : CognitionEvidence) : Bool := e.1.evidenceSha256 = e.1.computedHash

end CognitionEvidence

inductive CognitionStatus where
  | candidate | provisional | stable | core | challenged | reverifying | retired
  deriving DecidableEq, Repr

def CognitionStatus.text : CognitionStatus → String
  | .candidate => "CANDIDATE"
  | .provisional => "PROVISIONAL"
  | .stable => "STABLE"
  | .core => "CORE"
  | .challenged => "CHALLENGED"
  | .reverifying => "REVERIFYING"
  | .retired => "RETIRED"

inductive CognitionStabilityLevel where
  | c0 | c1 | c2 | c3 | c4
  deriving DecidableEq, Repr

namespace CognitionStabilityLevel

def text : CognitionStabilityLevel → String
  | .c0 => "C0"
  | .c1 => "C1"
  | .c2 => "C2"
  | .c3 => "C3"
  | .c4 => "C4"

/-- `_LEVEL_ORDER`. -/
def order : CognitionStabilityLevel → ℕ
  | .c0 => 0
  | .c1 => 1
  | .c2 => 2
  | .c3 => 3
  | .c4 => 4

end CognitionStabilityLevel

inductive CognitionClaimKind where
  | componentRole | structuralRelation | architecturePattern | executionPath | boundary
  | capabilityFact | dependencyRelation | testRelation
  deriving DecidableEq, Repr

def CognitionClaimKind.text : CognitionClaimKind → String
  | .componentRole => "component_role"
  | .structuralRelation => "structural_relation"
  | .architecturePattern => "architecture_pattern"
  | .executionPath => "execution_path"
  | .boundary => "boundary"
  | .capabilityFact => "capability_fact"
  | .dependencyRelation => "dependency_relation"
  | .testRelation => "test_relation"

inductive CognitionProposalOrigin where
  | deterministicExtraction | llmSynthesis | memoryConsolidation | systemMigration
  | explicitSystemAuthority
  deriving DecidableEq, Repr

def CognitionProposalOrigin.text : CognitionProposalOrigin → String
  | .deterministicExtraction => "deterministic_extraction"
  | .llmSynthesis => "llm_synthesis"
  | .memoryConsolidation => "memory_consolidation"
  | .systemMigration => "system_migration"
  | .explicitSystemAuthority => "explicit_system_authority"

/-- `CognitionValue`, whose populated branch is the constructor. -/
inductive CognitionValue where
  | entityRef (id : String)
  | string (s : String)
  | integer (n : ℤ)
  | boolean (b : Bool)
  deriving DecidableEq

def CognitionValue.canon : CognitionValue → Canon
  | .entityRef id => .ofList [.text "entity_ref", .text id]
  | .string s => .ofList [.text "string", .text s]
  | .integer n => .ofList [.text "integer", .int n]
  | .boolean b => .ofList [.text "boolean", .flag b]

/-- What identifies a belief slot. -/
structure CognitionSlot where
  lifeId : String
  domain : CognitionDomain
  worldScopeHash : Canon
  principalScopeHash : Canon
  claimKind : CognitionClaimKind
  subjectRef : String
  predicate : String
  conditionSha256 : Option Canon
  deriving DecidableEq

namespace CognitionSlot

def payload (s : CognitionSlot) : List Canon :=
  [.text s.lifeId, .text s.domain.text, s.worldScopeHash, s.principalScopeHash,
    .text s.claimKind.text, .text s.subjectRef, .text s.predicate, .option id s.conditionSha256]

/-- `derive_cognition_id`. -/
def cognitionId (s : CognitionSlot) : Canon :=
  .ident "cog_" <| .ofList (.text "tiangong.cognition.slot-id.v1" :: s.payload)

end CognitionSlot

structure StatementFields where
  cognitionId : Canon
  slot : CognitionSlot
  privacyScope : PrivacyScope
  value : CognitionValue
  conditionObjectId : Option String
  proposalOrigin : CognitionProposalOrigin
  status : CognitionStatus
  stabilityLevel : CognitionStabilityLevel
  confidenceMilli : ℕ
  supportingEvidenceIds : List Canon
  counterevidenceIds : List Canon
  priorIds : List String
  validFromMs : ℕ
  validUntilMs : Option ℕ
  lastVerifiedAtMs : Option ℕ
  revision : ℕ
  supersedesStatementSha256 : Option Canon
  statementSha256 : Canon
  deriving DecidableEq

namespace CognitionStatus

/-- The fewest supporting references of a status. -/
def minimumSupport : CognitionStatus → ℕ
  | .candidate | .retired => 0
  | .provisional | .challenged | .reverifying => 1
  | .stable => 2
  | .core => 3

/-- Whether a status goes with a level. -/
def allows : CognitionStatus → CognitionStabilityLevel → Bool
  | .candidate, .c0 | .provisional, .c1 | .stable, .c2 | .core, .c3 | .core, .c4 => true
  | .challenged, level | .reverifying, level => level ≠ .c0
  | .retired, _ => true
  | _, _ => false

end CognitionStatus

namespace StatementFields

/-- The field constraints and validators of `CognitionStatement`. -/
def valid (s : StatementFields) : Bool :=
  s.confidenceMilli ≤ 1000 &&
    (sortedUniqueIds s.supportingEvidenceIds && s.supportingEvidenceIds.length ≤ 4096) &&
    (sortedUniqueIds s.counterevidenceIds && s.counterevidenceIds.length ≤ 4096) &&
    (sortedUniqueStrings s.priorIds && s.priorIds.length ≤ 256) &&
    1 ≤ s.revision &&
    s.conditionObjectId.isNone = s.slot.conditionSha256.isNone &&
    s.supportingEvidenceIds.all (fun e => !s.counterevidenceIds.contains e) &&
    s.validUntilMs.all (s.validFromMs ≤ ·) &&
    s.lastVerifiedAtMs.all (s.validFromMs ≤ ·) &&
    ((s.revision = 1 : Bool) = s.supersedesStatementSha256.isNone) &&
    s.status.minimumSupport ≤ s.supportingEvidenceIds.length &&
    s.status.allows s.stabilityLevel &&
    (!(s.status = .stable || s.status = .core) || s.lastVerifiedAtMs.isSome) &&
    (!(s.status = .challenged || s.status = .reverifying) || !s.counterevidenceIds.isEmpty) &&
    (s.status ≠ .retired || s.validUntilMs.isSome) &&
    s.cognitionId = s.slot.cognitionId

/-- `computed_statement_sha256`. -/
def computedHash (s : StatementFields) : Canon :=
  .sha256 <| .ofList
    [s.cognitionId, .ofList s.slot.payload, .text s.privacyScope.text, s.value.canon,
      .option .text s.conditionObjectId, .text s.proposalOrigin.text, .text s.status.text,
      .text s.stabilityLevel.text, .num s.confidenceMilli, .ofList s.supportingEvidenceIds,
      .ofList s.counterevidenceIds, .ofList (s.priorIds.map .text), .num s.validFromMs,
      .option .num s.validUntilMs, .option .num s.lastVerifiedAtMs, .num s.revision,
      .option id s.supersedesStatementSha256]

/-- `with_computed_statement_sha256`. -/
def withHash (s : StatementFields) : StatementFields := { s with statementSha256 := s.computedHash }

/-- The digest covers everything but itself, and no validator reads it. -/
@[simp] theorem withHash_valid (s : StatementFields) : s.withHash.valid = s.valid := rfl

@[simp] theorem withHash_computedHash (s : StatementFields) :
    s.withHash.computedHash = s.computedHash := rfl

end StatementFields

abbrev CognitionStatement := Sealed StatementFields.valid

namespace CognitionStatement

abbrev cognitionId (s : CognitionStatement) : Canon := s.1.cognitionId

abbrev status (s : CognitionStatement) : CognitionStatus := s.1.status

abbrev level (s : CognitionStatement) : CognitionStabilityLevel := s.1.stabilityLevel

abbrev revision (s : CognitionStatement) : ℕ := s.1.revision

abbrev sha256 (s : CognitionStatement) : Canon := s.1.statementSha256

/-- `has_valid_statement_sha256`. -/
def hasValidHash (s : CognitionStatement) : Bool := s.sha256 = s.1.computedHash

end CognitionStatement

inductive CognitionTransition where
  | genesis | refresh | replaceCandidate | promote | challenge | beginReverify | confirm | supersede
  | protect | retire
  deriving DecidableEq, Repr

def CognitionTransition.text : CognitionTransition → String
  | .genesis => "GENESIS"
  | .refresh => "REFRESH"
  | .replaceCandidate => "REPLACE_CANDIDATE"
  | .promote => "PROMOTE"
  | .challenge => "CHALLENGE"
  | .beginReverify => "BEGIN_REVERIFY"
  | .confirm => "CONFIRM"
  | .supersede => "SUPERSEDE"
  | .protect => "PROTECT"
  | .retire => "RETIRE"

inductive CognitionDecisionAuthority where
  | deterministicPolicy | explicitSystemAuthority | migration
  deriving DecidableEq, Repr

def CognitionDecisionAuthority.text : CognitionDecisionAuthority → String
  | .deterministicPolicy => "deterministic_policy"
  | .explicitSystemAuthority => "explicit_system_authority"
  | .migration => "migration"

structure RevisionFields where
  cognitionRevisionId : Canon
  lifeId : String
  cognitionId : Canon
  sequence : ℕ
  previousRevisionSha256 : Option Canon
  fromStatementSha256 : Option Canon
  toStatementSha256 : Canon
  fromStatus : Option CognitionStatus
  toStatus : CognitionStatus
  fromStabilityLevel : Option CognitionStabilityLevel
  toStabilityLevel : CognitionStabilityLevel
  transition : CognitionTransition
  triggerEvidenceIds : List Canon
  supportIndependenceGroups : List Canon
  counterIndependenceGroups : List Canon
  supportMilli : ℕ
  counterMilli : ℕ
  correlationDiscountMilli : ℕ
  stalenessPenaltyMilli : ℕ
  decisionAuthority : CognitionDecisionAuthority
  policyRef : String
  policySha256 : Canon
  reasonCodes : List String
  createdAtMs : ℕ
  revisionSha256 : Canon
  deriving DecidableEq

def deriveCognitionRevisionId (cognitionId : Canon) (sequence : ℕ)
    (fromStatementSha256 : Option Canon) (toStatementSha256 : Canon) : Canon :=
  .ident "crv_" <| .ofList
    [.text "tiangong.cognition.revision-id.v1", cognitionId, .num sequence,
      .option id fromStatementSha256, toStatementSha256]

namespace RevisionFields

/-- The status and level that a decision leaves, where it leaves any. -/
def source (r : RevisionFields) : Option (CognitionStatus × CognitionStabilityLevel) := do
  pure (← r.fromStatus, ← r.fromStabilityLevel)

def target (r : RevisionFields) : CognitionStatus × CognitionStabilityLevel :=
  (r.toStatus, r.toStabilityLevel)

/-- The first decision stands alone, and every other one has its whole predecessor. -/
def chainValid (r : RevisionFields) : Bool :=
  if r.sequence = 1 then
    r.previousRevisionSha256.isNone && r.fromStatementSha256.isNone && r.fromStatus.isNone &&
      r.fromStabilityLevel.isNone && r.transition = .genesis &&
      (r.decisionAuthority ≠ .deterministicPolicy || r.target = (.candidate, .c0))
  else
    r.previousRevisionSha256.isSome && r.fromStatementSha256.isSome && r.fromStatus.isSome &&
      r.fromStabilityLevel.isSome && r.transition ≠ .genesis

/-- The level of an established statement as the state a supersession restores. -/
def establishedState : CognitionStabilityLevel → Option (CognitionStatus × CognitionStabilityLevel)
  | .c0 => none
  | .c1 => some (.provisional, .c1)
  | .c2 => some (.stable, .c2)
  | .c3 => some (.core, .c3)
  | .c4 => some (.core, .c4)

/-- What each transition asks of the states it leads between. -/
def transitionValid (r : RevisionFields) : Bool :=
  match r.transition with
  | .genesis => true
  | .refresh =>
    (r.fromStatus = some .candidate || r.fromStatus = some .provisional ||
        r.fromStatus = some .stable || r.fromStatus = some .core) &&
      r.fromStatus = some r.toStatus && r.fromStabilityLevel = some r.toStabilityLevel
  | .replaceCandidate => r.source = some (.candidate, .c0) && r.target = (.candidate, .c0)
  | .promote =>
    (r.source = some (.candidate, .c0) && r.target = (.provisional, .c1)) ||
      (r.source = some (.provisional, .c1) && r.target = (.stable, .c2)) ||
      (r.source = some (.stable, .c2) && r.target = (.core, .c3))
  | .protect =>
    r.source = some (.core, .c3) && r.target = (.core, .c4) &&
      r.decisionAuthority ≠ .deterministicPolicy
  | .challenge =>
    (r.fromStatus = some .provisional || r.fromStatus = some .stable ||
        r.fromStatus = some .core || r.fromStatus = some .reverifying) &&
      r.toStatus = .challenged && !r.triggerEvidenceIds.isEmpty &&
      !r.counterIndependenceGroups.isEmpty && r.fromStabilityLevel = some r.toStabilityLevel
  | .beginReverify =>
    r.fromStatus = some .challenged && r.toStatus = .reverifying &&
      r.fromStabilityLevel = some r.toStabilityLevel
  | .confirm =>
    r.fromStatus = some .reverifying &&
      (r.target = (.provisional, .c1) || r.target = (.stable, .c2) || r.target = (.core, .c3) ||
        r.target = (.core, .c4)) && r.fromStabilityLevel = some r.toStabilityLevel
  | .supersede =>
    (r.toStatus = .provisional || r.toStatus = .stable || r.toStatus = .core) &&
      (r.decisionAuthority ≠ .deterministicPolicy || (r.fromStatus = some .reverifying &&
          r.fromStabilityLevel.bind establishedState = some r.target))
  | .retire => r.toStatus = .retired && r.fromStatus ≠ some .retired

/-- Only an explicit authority enters, supersedes or retires what is protected. -/
def protectionValid (r : RevisionFields) : Bool :=
  (!(r.toStabilityLevel = .c4 && r.fromStabilityLevel ≠ some .c4) ||
      r.decisionAuthority ≠ .deterministicPolicy) &&
    (!(r.fromStabilityLevel = some .c4 && (r.transition = .supersede || r.transition = .retire)) ||
      r.decisionAuthority ≠ .deterministicPolicy)

/-- A stable state has its quorum of independent groups. -/
def quorumValid (r : RevisionFields) : Bool :=
  match r.toStatus with
  | .stable => 2 ≤ r.supportIndependenceGroups.length
  | .core => 3 ≤ r.supportIndependenceGroups.length
  | _ => true

/-- The field constraints and validators of `CognitionRevision`. -/
def valid (r : RevisionFields) : Bool :=
  1 ≤ r.sequence && (sortedUniqueIds r.triggerEvidenceIds && r.triggerEvidenceIds.length ≤ 4096) &&
    (sortedUniqueIds r.supportIndependenceGroups && r.supportIndependenceGroups.length ≤ 4096) &&
    (sortedUniqueIds r.counterIndependenceGroups && r.counterIndependenceGroups.length ≤ 4096) &&
    (r.supportMilli ≤ 1000 && r.counterMilli ≤ 1000 && r.correlationDiscountMilli ≤ 1000 &&
      r.stalenessPenaltyMilli ≤ 1000) &&
    (sortedUniqueStrings r.reasonCodes && 1 ≤ r.reasonCodes.length && r.reasonCodes.length ≤ 128) &&
    r.chainValid &&
    r.supportIndependenceGroups.all (fun g => !r.counterIndependenceGroups.contains g) &&
    r.transitionValid && r.protectionValid && r.quorumValid &&
    r.cognitionRevisionId = deriveCognitionRevisionId r.cognitionId r.sequence
      r.fromStatementSha256 r.toStatementSha256

/-- `computed_revision_sha256`. -/
def computedHash (r : RevisionFields) : Canon :=
  .sha256 <| .ofList
    [r.cognitionRevisionId, .text r.lifeId, r.cognitionId, .num r.sequence,
      .option id r.previousRevisionSha256, .option id r.fromStatementSha256, r.toStatementSha256,
      .option (fun s => .text s.text) r.fromStatus, .text r.toStatus.text,
      .option (fun l => .text l.text) r.fromStabilityLevel, .text r.toStabilityLevel.text,
      .text r.transition.text, .ofList r.triggerEvidenceIds,
      .ofList r.supportIndependenceGroups, .ofList r.counterIndependenceGroups,
      .num r.supportMilli, .num r.counterMilli, .num r.correlationDiscountMilli,
      .num r.stalenessPenaltyMilli, .text r.decisionAuthority.text, .text r.policyRef,
      r.policySha256, .ofList (r.reasonCodes.map .text), .num r.createdAtMs]

/-- `with_computed_revision_sha256`. -/
def withHash (r : RevisionFields) : RevisionFields := { r with revisionSha256 := r.computedHash }

@[simp] theorem withHash_valid (r : RevisionFields) : r.withHash.valid = r.valid := rfl

@[simp] theorem withHash_computedHash (r : RevisionFields) :
    r.withHash.computedHash = r.computedHash := rfl

end RevisionFields

abbrev CognitionRevision := Sealed RevisionFields.valid

namespace CognitionRevision

abbrev sha256 (r : CognitionRevision) : Canon := r.1.revisionSha256

/-- `has_valid_revision_sha256`. -/
def hasValidHash (r : CognitionRevision) : Bool := r.sha256 = r.1.computedHash

end CognitionRevision

end Tiangong
