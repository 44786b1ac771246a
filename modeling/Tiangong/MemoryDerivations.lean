import Mathlib.Data.Prod.Lex
import Tiangong.CanonOrder

/-!
# Memory derivations

Why a revision of a memory exists at a layer: where it comes from, which parents it was promoted
from, and the life events that all of its evidence goes back to. Identifiers are digests behind a
tag, of one length each.
-/
namespace Tiangong

inductive MemoryLayer where
  | l1Stream | l2Diary | l3Experience | l4Explicit | l5Core
  deriving DecidableEq

inductive MemorySemanticDomain where
  | selfIdentity | selfBehaviorPattern | userProfile | userPreference | relationship
  | operatingRule | longTermGoal | task | capabilitySelf | capabilityKnowledge | world
  | repository | system | other
  deriving DecidableEq

inductive MemoryDerivationOrigin where
  | lifeEvent | promotion | userExplicit | learningResult | migration
  deriving DecidableEq

def maxContractInteger : ℕ := 9007199254740991

structure MemoryParentRef where
  parentDerivationId : Option Canon
  memoryId : Canon
  memoryRevision : ℕ
  assertionSha256 : Canon
  deriving DecidableEq

def MemoryParentRef.sortKey (p : MemoryParentRef) : Canon ×ₗ Canon ×ₗ ℕ :=
  toLex (p.parentDerivationId.getD (.text ""), toLex (p.memoryId, p.memoryRevision))

def selfCognitionDomains : List MemorySemanticDomain :=
  [.selfIdentity, .capabilitySelf, .longTermGoal, .operatingRule]

def worldCandidateLayers : List MemoryLayer := [.l3Experience, .l4Explicit, .l5Core]

/-- `MemoryDerivationV1`. -/
structure MemoryDerivation where
  derivationId : Canon
  lifeId : String
  memoryId : Canon
  memoryRevision : ℕ
  memoryAssertionSha256 : Canon
  layer : MemoryLayer
  semanticDomain : MemorySemanticDomain
  origin : MemoryDerivationOrigin
  principalRef : String
  workspaceRef : Option String
  privacyScope : String
  claimKey : String
  parentMemoryRefs : List MemoryParentRef
  sourceEventIds : List Canon
  lineageRootEventIds : List Canon
  externalEvidenceRefs : List String
  promotionPolicyVersion : String
  promotionReasonCodes : List String
  validFromMs : ℕ
  expiresAtMs : Option ℕ
  contextEligible : Bool
  learningEligible : Bool
  temperamentEligible : Bool
  selfCognitionEligible : Bool
  worldCandidateEligible : Bool
  createdAtMs : ℕ
  revision_range : 1 ≤ memoryRevision ∧ memoryRevision ≤ maxContractInteger
  sources_sorted : sourceEventIds.Pairwise (· < ·) ∧ sourceEventIds.length ≤ 4096
  roots_sorted : lineageRootEventIds.Pairwise (· < ·) ∧ lineageRootEventIds.length ≤ 4096
  parents_sorted : (parentMemoryRefs.map MemoryParentRef.sortKey).Pairwise (· < ·) ∧
    parentMemoryRefs.length ≤ 256
  refs_sorted : externalEvidenceRefs.Pairwise (· < ·) ∧ externalEvidenceRefs.length ≤ 1024
  reasons_sorted : promotionReasonCodes.Pairwise (· < ·) ∧ promotionReasonCodes.length ≤ 256
  times_range : validFromMs ≤ maxContractInteger ∧ createdAtMs ≤ maxContractInteger
  expiry_follows : ∀ expires ∈ expiresAtMs, validFromMs < expires ∧ expires ≤ maxContractInteger
  stream_origin : layer = .l1Stream → origin ≠ .migration →
    origin = .lifeEvent ∧ sourceEventIds ≠ []
  explicit_origin : layer = .l4Explicit →
    (origin = .userExplicit ∨ origin = .migration) ∧ sourceEventIds ≠ []
  rooted : origin ≠ .migration → lineageRootEventIds ≠ []
  temperament_layer : temperamentEligible = true →
    layer = .l5Core ∧ semanticDomain = .selfBehaviorPattern
  cognition_layer : selfCognitionEligible = true →
    layer = .l5Core ∧ semanticDomain ∈ selfCognitionDomains
  candidate_layer : worldCandidateEligible = true →
    layer ∈ worldCandidateLayers ∧ semanticDomain = .world

namespace MemoryDerivation

/-- Two derivations go back to a common life event. -/
def sharesRoot (d d' : MemoryDerivation) : Bool :=
  d.lineageRootEventIds.any fun root => root ∈ d'.lineageRootEventIds

theorem sharesRoot_iff {d d' : MemoryDerivation} : d.sharesRoot d' = true ↔
    ∃ root, root ∈ d.lineageRootEventIds ∧ root ∈ d'.lineageRootEventIds := by
  simp [sharesRoot]

theorem sharesRoot_comm (d d' : MemoryDerivation) : d.sharesRoot d' = d'.sharesRoot d := by
  rw [Bool.eq_iff_iff, sharesRoot_iff, sharesRoot_iff]
  exact exists_congr fun _ => and_comm

end MemoryDerivation

end Tiangong
