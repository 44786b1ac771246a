import Tiangong.WorldContracts

/-!
# World records

The entities and relations of the world graph and the hypotheses about it: what their model
validators demand, and the digests by which they are referred to.
-/
namespace Tiangong

open WorldRecordRef

inductive TruthState where
  | holds | fails | unknown | conflicted
  deriving DecidableEq, Repr

def TruthState.text : TruthState → String
  | .holds => "TRUE"
  | .fails => "FALSE"
  | .unknown => "UNKNOWN"
  | .conflicted => "CONFLICTED"

inductive EpistemicState where
  | current | stale | challenged | reverifying | retired
  deriving DecidableEq, Repr

def EpistemicState.text : EpistemicState → String
  | .current => "CURRENT"
  | .stale => "STALE"
  | .challenged => "CHALLENGED"
  | .reverifying => "REVERIFYING"
  | .retired => "RETIRED"

/-- A signed number in canonical JSON. -/
def Canon.int (n : ℤ) : Canon := .cons (.flag (decide (n < 0))) (.num n.natAbs)

/-- The value of an item of a small object. -/
inductive SmallValue where
  | none | text (s : String) | integer (n : ℤ) | boolean (b : Bool)
  deriving DecidableEq

def SmallValue.canon : SmallValue → Canon
  | .none => .null
  | .text s => .text s
  | .integer n => .int n
  | .boolean b => .flag b

/-- `WorldValue`, whose populated branch is the constructor. -/
inductive WorldValue where
  | entityRef (id : Canon)
  | recordRef (ref : WorldRecordRef)
  | string (s : String)
  | integer (n : ℤ)
  | boolean (b : Bool)
  | numberMilli (n : ℤ)
  | stringSet (items : List String)
  | recordRefSet (refs : List WorldRecordRef)
  | smallObject (items : List (String × SmallValue))
  deriving DecidableEq

def WorldValue.canon : WorldValue → Canon
  | .entityRef id => .ofList [.text "entity_ref", id]
  | .recordRef ref => .ofList [.text "record_ref", ref.canon]
  | .string s => .ofList [.text "string", .text s]
  | .integer n => .ofList [.text "integer", .int n]
  | .boolean b => .ofList [.text "boolean", .flag b]
  | .numberMilli n => .ofList [.text "number_milli", .int n]
  | .stringSet items => .ofList [.text "string_set", .ofList (items.map .text)]
  | .recordRefSet refs => .ofList [.text "record_ref_set", .ofList (refs.map WorldRecordRef.canon)]
  | .smallObject items => .ofList [.text "small_object",
      .ofList (items.map fun item => .cons (.text item.1) item.2.canon)]

def sortedUniqueStrings (items : List String) : Bool := decide (items.Pairwise (· < ·))

structure WorldAttribute where
  key : String
  value : WorldValue
  attributeSha256 : Canon
  deriving DecidableEq

def WorldAttribute.canon (a : WorldAttribute) : Canon :=
  .ofList [.text a.key, a.value.canon, a.attributeSha256]

inductive EntityLifecycle where
  | active | merged | split | retired
  deriving DecidableEq, Repr

def EntityLifecycle.text : EntityLifecycle → String
  | .active => "ACTIVE"
  | .merged => "MERGED"
  | .split => "SPLIT"
  | .retired => "RETIRED"

def deriveEntityId (lifeId domainId : String) (identityAnchorHash : Canon) : Canon :=
  .ident "went_" <| .ofList
    [.text "tiangong.world.entity-id.v1", .text lifeId, .text domainId, identityAnchorHash]

structure EntityFields where
  entityId : Canon
  scope : WorldScope
  entityType : String
  identityAnchorHash : Canon
  canonicalName : String
  aliases : List String
  attributes : List WorldAttribute
  locationRefs : List WorldRecordRef
  sourceObservationRefs : List WorldRecordRef
  truthState : TruthState
  epistemicState : EpistemicState
  lifecycle : EntityLifecycle
  replacementRefs : List WorldRecordRef
  revision : ℕ
  supersedesEntitySha256 : Option Canon
  time : WorldTime
  entitySha256 : Canon
  deriving DecidableEq

namespace EntityFields

/-- The field constraints and validators of `WorldEntity`. -/
def valid (e : EntityFields) : Bool :=
  (1 ≤ e.canonicalName.length && e.canonicalName.length ≤ 4096) &&
    (sortedUniqueStrings e.aliases && e.aliases.length ≤ 4096) &&
    (decide ((e.attributes.map WorldAttribute.key).Pairwise (· < ·)) &&
      e.attributes.length ≤ 4096) &&
    (sortedUnique e.locationRefs && e.locationRefs.length ≤ 4096) &&
    (sortedUnique e.sourceObservationRefs &&
      e.sourceObservationRefs.length ≤ 4096) &&
    (sortedUnique e.replacementRefs && e.replacementRefs.length ≤ 256) &&
    (1 ≤ e.revision && e.revision ≤ 9007199254740991) &&
    e.entityId = deriveEntityId e.scope.1.lifeId e.scope.1.domainId e.identityAnchorHash &&
    ((e.revision = 1 : Bool) = e.supersedesEntitySha256.isNone) &&
    (!(e.lifecycle = .merged || e.lifecycle = .split) || !e.replacementRefs.isEmpty) &&
    (e.lifecycle ≠ .active || e.replacementRefs.isEmpty)

def computedHash (e : EntityFields) : Canon :=
  .sha256 <| .ofList
    [e.entityId, e.scope.1.canon, .text e.entityType, e.identityAnchorHash, .text e.canonicalName,
      .ofList (e.aliases.map .text), .ofList (e.attributes.map WorldAttribute.canon),
      .ofList (e.locationRefs.map canon),
      .ofList (e.sourceObservationRefs.map canon), .text e.truthState.text,
      .text e.epistemicState.text, .text e.lifecycle.text,
      .ofList (e.replacementRefs.map canon), .num e.revision,
      .option id e.supersedesEntitySha256, e.time.canon]

end EntityFields

abbrev WorldEntity := Sealed EntityFields.valid

namespace WorldEntity

abbrev id (e : WorldEntity) : Canon := e.1.entityId

/-- `entity_ref`. -/
def ref (e : WorldEntity) : WorldRecordRef :=
  ⟨"world_entity", e.1.entityId, some e.1.revision, e.1.entitySha256⟩

end WorldEntity

inductive RelationMaterializationClass where
  | structural | materialized | derivedCache | cognized | ephemeral
  deriving DecidableEq, Repr

inductive RelationExtractionMode where
  | deterministic | observed | inferred | modelAssisted | migration
  deriving DecidableEq, Repr

def deriveRelationId (worldScopeHash : Canon) (subjectRef : WorldRecordRef) (predicate : String)
    (value : WorldValue) (conditionSha256 : Option Canon) : Canon :=
  .ident "wrel_" <| .ofList
    [.text "tiangong.world.relation-slot-id.v1", worldScopeHash, subjectRef.canon, .text predicate,
      value.canon, .option id conditionSha256]

structure RelationFields where
  relationId : Canon
  scope : WorldScope
  subjectRef : WorldRecordRef
  predicate : String
  value : WorldValue
  conditionRef : Option WorldRecordRef
  conditionSha256 : Option Canon
  extractionMode : RelationExtractionMode
  materializationClass : RelationMaterializationClass
  sourceObservationRefs : List WorldRecordRef
  derivationRefs : List WorldRecordRef
  truthState : TruthState
  epistemicState : EpistemicState
  empiricalEvidenceWeightMilli : ℕ
  revision : ℕ
  supersedesRelationSha256 : Option Canon
  time : WorldTime
  relationSha256 : Canon
  deriving DecidableEq

namespace RelationFields

/-- The field constraints and validators of `WorldRelation`. -/
def valid (r : RelationFields) : Bool :=
  (r.conditionRef.map sha256 = r.conditionSha256) &&
    (sortedUnique r.sourceObservationRefs &&
      r.sourceObservationRefs.length ≤ 4096) &&
    (sortedUnique r.derivationRefs && r.derivationRefs.length ≤ 4096) &&
    r.empiricalEvidenceWeightMilli ≤ 1000 &&
    (1 ≤ r.revision && r.revision ≤ 9007199254740991) &&
    ((r.revision = 1 : Bool) = r.supersedesRelationSha256.isNone) &&
    (r.extractionMode ≠ .modelAssisted || r.empiricalEvidenceWeightMilli = 0) &&
    r.relationId = deriveRelationId r.scope.1.worldScopeHash r.subjectRef r.predicate r.value
      r.conditionSha256

end RelationFields

abbrev WorldRelation := Sealed RelationFields.valid

namespace WorldRelation

/-- `_relation_ref`. -/
def ref (r : WorldRelation) : WorldRecordRef :=
  ⟨"world_relation", r.1.relationId, some r.1.revision, r.1.relationSha256⟩

end WorldRelation

/-- A hypothesis: its identifier and scope, and everything else that its digest covers. -/
structure WorldHypothesis where
  hypothesisId : Canon
  scope : WorldScope
  content : Canon
  hypothesisSha256 : Canon
  deriving DecidableEq

namespace WorldHypothesis

def hasValidHash (h : WorldHypothesis) : Bool :=
  h.hypothesisSha256 = .sha256 (.ofList [h.hypothesisId, h.scope.1.canon, h.content])

/-- `_hyp_ref`. -/
def ref (h : WorldHypothesis) : WorldRecordRef :=
  ⟨"world_hypothesis", h.hypothesisId, none, h.hypothesisSha256⟩

end WorldHypothesis

end Tiangong
