import Mathlib.Data.List.MinMax
import Mathlib.Data.String.Basic
import Tiangong.DisjointSets
import Tiangong.MemoryDerivations
import Tiangong.PythonText
import Tiangong.Tables

/-!
# Promotion of memories

The integer arithmetic that decides whether memories of one layer are promoted to the next one.
Derivations that go back to a common event are folded into one group, of which the highest weight
counts; the weights of the groups are folded by a noisy or.
-/
namespace Tiangong

namespace MemoryPromotion

def noisyOr (weights : List ℤ) : Except String ℤ :=
  weights.foldlM (fun support weight => do
    rejectIf (weight < 0) "evidence weight cannot be negative"
    pure (support + weight - support * weight / 1000)) 0

structure EvidenceGroup where
  /-- The sorted roots. All have one length, so their joined text is ordered as they are. -/
  lineageRoots : List Canon
  memberDerivationIds : List Canon
  weightMilli : ℤ
  direct : Bool

/-- The pairs of positions whose derivations share a root, in the order of the two loops. -/
def rootPairs (derivations : List MemoryDerivation) : List (ℕ × ℕ) :=
  (List.range derivations.length).flatMap fun first =>
    ((List.range derivations.length).filter fun second =>
      first < second ∧ (derivations[first]?.bind fun d => derivations[second]?.map d.sharesRoot) =
        some true).map fun second => (first, second)

/-- `buckets.setdefault(key, []).append(x)`. -/
def addTo {κ α : Type*} [DecidableEq κ] (buckets : List (κ × List α)) (key : κ) (x : α) :
    List (κ × List α) :=
  if key ∈ buckets.map Prod.fst then
    buckets.map fun bucket => if bucket.1 = key then (key, bucket.2 ++ [x]) else bucket
  else buckets ++ [(key, [x])]

/-- The loop that sorts the positions into buckets. Every look for a root halves a path. -/
def fillBuckets (count : ℕ) (positions : List ℕ) (parent : ℕ → ℕ) : (ℕ → ℕ) × List (ℕ × List ℕ) :=
  positions.foldl (fun state position =>
    ((Forest.find count state.1 position).2,
      addTo state.2 (Forest.find count state.1 position).1 position)) (parent, [])

/-- `max` of the weights of a group. -/
def maxWeight (weights : List ℤ) : ℤ :=
  match weights with
  | [] => 0
  | w :: ws => ws.foldl max w

def evidenceGroup (weights : Canon → ℤ) (members : List MemoryDerivation) : EvidenceGroup where
  lineageRoots := sortedSet (members.flatMap MemoryDerivation.lineageRootEventIds)
  memberDerivationIds := members.map MemoryDerivation.derivationId
  weightMilli := maxWeight (members.map fun d => weights d.derivationId)
  direct := members.any fun d => 1000 ≤ weights d.derivationId

/-- The groups before they are sorted. -/
def evidenceGroups (derivations : List MemoryDerivation) (weights : Canon → ℤ) :
    List EvidenceGroup :=
  let count := derivations.length
  let parent := Forest.unionAll count (rootPairs derivations) id
  (fillBuckets count (List.range count) parent).2.map fun bucket =>
    evidenceGroup weights (bucket.2.filterMap fun position => derivations[position]?)

def foldIndependence (derivations : List MemoryDerivation) (weights : Canon → ℤ) :
    List EvidenceGroup :=
  orderBy (fun g g' => g.lineageRoots ≤ g'.lineageRoots) (evidenceGroups derivations weights)

def lineageRoots (derivations : List MemoryDerivation) : List Canon :=
  sortedSet (derivations.flatMap MemoryDerivation.lineageRootEventIds)

/-- What an evaluation is asked about. A weight that is not given is zero. -/
structure PromotionRequest where
  derivations : List MemoryDerivation
  supportWeights : Canon → ℤ
  counterWeights : Canon → ℤ
  causalUtilityMilli : Canon → ℤ
  recurrenceCount : ℤ
  lifeId : String
  principalRef : String
  claimKey : String
  semanticDomain : MemorySemanticDomain
  policyVersion : String
  validFromMs : ℤ
  createdAtMs : ℤ

/-- `MemoryPromotionDisposition`. -/
structure PromotionDisposition where
  promotionKey : Canon
  lifeId : String
  principalRef : String
  targetLayer : MemoryLayer
  claimKey : String
  semanticDomain : MemorySemanticDomain
  policyVersion : String
  parentAssertionSha256 : List Canon
  lineageRootEventIds : List Canon
  allowed : Bool
  reasonCodes : List String
  supportMilli : ℤ
  counterMilli : ℤ
  independenceGroupCount : ℕ
  recurrenceCount : ℤ
  validFromMs : ℤ
  createdAtMs : ℤ
  deriving DecidableEq

def layerName : MemoryLayer → String
  | .l1Stream => "L1_STREAM"
  | .l2Diary => "L2_DIARY"
  | .l3Experience => "L3_EXPERIENCE"
  | .l4Explicit => "L4_EXPLICIT"
  | .l5Core => "L5_CORE"

def domainName : MemorySemanticDomain → String
  | .selfIdentity => "SELF_IDENTITY"
  | .selfBehaviorPattern => "SELF_BEHAVIOR_PATTERN"
  | .userProfile => "USER_PROFILE"
  | .userPreference => "USER_PREFERENCE"
  | .relationship => "RELATIONSHIP"
  | .operatingRule => "OPERATING_RULE"
  | .longTermGoal => "LONG_TERM_GOAL"
  | .task => "TASK"
  | .capabilitySelf => "CAPABILITY_SELF"
  | .capabilityKnowledge => "CAPABILITY_KNOWLEDGE"
  | .world => "WORLD"
  | .repository => "REPOSITORY"
  | .system => "SYSTEM"
  | .other => "OTHER"

def derivePromotionKey (policyVersion lifeId : String) (targetLayer : MemoryLayer)
    (parentAssertionSha256 : List Canon) (semanticDomain : MemorySemanticDomain)
    (claimKey : String) (lineageRootEventIds : List Canon) : Canon :=
  .sha256 (.ofList [.text policyVersion, .text lifeId, .text (layerName targetLayer),
    .ofList (sortedSet parentAssertionSha256), .text (domainName semanticDomain), .text claimKey,
    .ofList (sortedSet lineageRootEventIds)])

def parentAssertions (derivations : List MemoryDerivation) : List Canon :=
  sortedSet (derivations.map MemoryDerivation.memoryAssertionSha256)

/-- An integer field of a contract. -/
def checkRange (field : String) (value : ℤ) (max : ℕ) : Except String Unit :=
  rejectIf (value < 0 ∨ (max : ℤ) < value) (field ++ " is out of range")

def checkLength (field : String) (length max : ℕ) : Except String Unit :=
  rejectIf (max < length) (field ++ " is too long")

def checkDisposition (d : PromotionDisposition) : Except String PromotionDisposition := do
  checkLength "parent_assertion_sha256" d.parentAssertionSha256.length 4096
  checkLength "lineage_root_event_ids" d.lineageRootEventIds.length 4096
  checkLength "reason_codes" d.reasonCodes.length 256
  checkRange "support_milli" d.supportMilli maxContractInteger
  checkRange "counter_milli" d.counterMilli maxContractInteger
  checkRange "independence_group_count" d.independenceGroupCount 1000000
  checkRange "recurrence_count" d.recurrenceCount 1000000
  checkRange "valid_from_ms" d.validFromMs maxContractInteger
  checkRange "created_at_ms" d.createdAtMs maxContractInteger
  pure d

/-- What an evaluation found. -/
structure Verdict where
  allowed : Bool
  reasonCodes : List String
  supportMilli : ℤ
  counterMilli : ℤ
  independenceGroupCount : ℕ

def disposition (request : PromotionRequest) (targetLayer : MemoryLayer) (v : Verdict) :
    Except String PromotionDisposition :=
  checkDisposition
    { promotionKey := derivePromotionKey request.policyVersion request.lifeId targetLayer
        (parentAssertions request.derivations) request.semanticDomain request.claimKey
        (lineageRoots request.derivations)
      lifeId := request.lifeId
      principalRef := request.principalRef
      targetLayer := targetLayer
      claimKey := request.claimKey
      semanticDomain := request.semanticDomain
      policyVersion := request.policyVersion
      parentAssertionSha256 := parentAssertions request.derivations
      lineageRootEventIds := lineageRoots request.derivations
      allowed := v.allowed
      reasonCodes := sortedSet v.reasonCodes
      supportMilli := v.supportMilli
      counterMilli := v.counterMilli
      independenceGroupCount := v.independenceGroupCount
      recurrenceCount := request.recurrenceCount
      validFromMs := request.validFromMs
      createdAtMs := request.createdAtMs }

/-- A reason that is given if the condition holds. -/
def reasonIf (condition : Prop) [Decidable condition] (reason : String) : List String :=
  if condition then [reason] else []

/-- What both evaluations gather about the derivations. -/
structure Evidence where
  support : ℤ
  counter : ℤ
  groups : ℕ
  directGroups : ℕ

def gather (request : PromotionRequest) : Except String Evidence := do
  let groups := foldIndependence request.derivations request.supportWeights
  let support ← noisyOr (groups.map EvidenceGroup.weightMilli)
  let counter ← noisyOr (request.derivations.map fun d => request.counterWeights d.derivationId)
  pure ⟨support, counter, groups.length, groups.countP EvidenceGroup.direct⟩

/-- The largest causal utility of the derivations. -/
def maxCausal (request : PromotionRequest) : ℤ :=
  maxWeight (request.derivations.map fun d => request.causalUtilityMilli d.derivationId)

/-- `condition_a` and `condition_b` of `evaluate_l3`. -/
def recursIndependently (request : PromotionRequest) (e : Evidence) : Prop :=
  2 ≤ e.groups ∧ 2 ≤ request.recurrenceCount

def provenDirectly (request : PromotionRequest) (e : Evidence) : Prop :=
  1 ≤ e.directGroups ∧ 700 ≤ maxCausal request

instance (request : PromotionRequest) (e : Evidence) : Decidable (recursIndependently request e) :=
  inferInstanceAs (Decidable (_ ∧ _))

instance (request : PromotionRequest) (e : Evidence) : Decidable (provenDirectly request e) :=
  inferInstanceAs (Decidable (_ ∧ _))

/-- The verdict of `evaluate_l3`. -/
def experienceVerdict (request : PromotionRequest) (e : Evidence) : Verdict :=
  let allowed := 650 ≤ e.support ∧ e.counter ≤ 350 ∧
    (recursIndependently request e ∨ provenDirectly request e)
  { allowed := allowed
    reasonCodes := reasonIf (e.support < 650) "insufficient_support" ++
      reasonIf (350 < e.counter) "counter_too_high" ++
      reasonIf (¬ recursIndependently request e) "not_enough_independent_groups_or_recurrence" ++
      reasonIf (¬ provenDirectly request e) "not_enough_direct_verified_causal_utility" ++
      reasonIf allowed "l3_support_threshold"
    supportMilli := e.support
    counterMilli := e.counter
    independenceGroupCount := e.groups }

def evaluateL3 (request : PromotionRequest) : Except String PromotionDisposition := do
  rejectIf (request.derivations = []) "L3 promotion requires at least one L2 derivation"
  let e ← gather request
  disposition request .l3Experience (experienceVerdict request e)

def explicitCount (derivations : List MemoryDerivation) : ℕ :=
  derivations.countP fun d => d.origin = .userExplicit ∧ d.layer = .l4Explicit

def experienceCount (derivations : List MemoryDerivation) : ℕ :=
  derivations.countP fun d => d.layer = .l3Experience

def hasTemporaryExpiry (derivations : List MemoryDerivation) : Bool :=
  derivations.any fun d => d.expiresAtMs.isSome

/-- `path_a`, `path_b` and `path_c` of `evaluate_l5`. -/
def isStable (request : PromotionRequest) (e : Evidence) : Prop :=
  3 ≤ e.groups ∧ 850 ≤ e.support ∧ e.counter ≤ 150 ∧ 1 ≤ e.directGroups ∧
    hasTemporaryExpiry request.derivations = false

def isReconfirmed (request : PromotionRequest) (e : Evidence) : Prop :=
  2 ≤ explicitCount request.derivations ∧ hasTemporaryExpiry request.derivations = false ∧
    e.counter ≤ 150

def isFused (request : PromotionRequest) (e : Evidence) : Prop :=
  1 ≤ experienceCount request.derivations ∧ 1 ≤ explicitCount request.derivations ∧
    850 ≤ e.support ∧ e.counter ≤ 150 ∧ hasTemporaryExpiry request.derivations = false

instance (request : PromotionRequest) (e : Evidence) : Decidable (isStable request e) :=
  inferInstanceAs (Decidable (_ ∧ _))

instance (request : PromotionRequest) (e : Evidence) : Decidable (isReconfirmed request e) :=
  inferInstanceAs (Decidable (_ ∧ _))

instance (request : PromotionRequest) (e : Evidence) : Decidable (isFused request e) :=
  inferInstanceAs (Decidable (_ ∧ _))

/-- The verdict of `evaluate_l5`. -/
def coreVerdict (request : PromotionRequest) (e : Evidence) : Verdict where
  allowed := isStable request e ∨ isReconfirmed request e ∨ isFused request e
  reasonCodes := reasonIf (e.support < 850) "insufficient_support" ++
    reasonIf (150 < e.counter) "counter_too_high" ++
    reasonIf (e.groups < 3) "not_enough_independent_groups" ++
    reasonIf (e.directGroups < 1) "no_direct_evidence_group" ++
    reasonIf (hasTemporaryExpiry request.derivations = true) "temporary_expiry_blocks_l5" ++
    reasonIf (isStable request e) "l5_stability" ++
    reasonIf (isReconfirmed request e) "l5_reconfirm" ++
    reasonIf (isFused request e) "l5_fusion"
  supportMilli := e.support
  counterMilli := e.counter
  independenceGroupCount := e.groups

def evaluateL5 (request : PromotionRequest) : Except String PromotionDisposition := do
  rejectIf (request.derivations = []) "L5 promotion requires at least one candidate"
  let e ← gather request
  disposition request .l5Core (coreVerdict request e)

end MemoryPromotion

end Tiangong
