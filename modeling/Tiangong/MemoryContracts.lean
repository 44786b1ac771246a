import Mathlib.Data.List.Sort
import Tiangong.MemoryDerivations

/-!
# Contracts of memories, causal nodes and context packs

The records that the store of a life keeps. A copy of a record with other values is not checked
against the contract; what is read back is.
-/
namespace Tiangong

/-- `MemoryLifecycleStatus`. -/
inductive MemoryStatus where
  | active | corrected | superseded | recallSuppressed | deleted
  deriving DecidableEq

def MemoryStatus.text : MemoryStatus → String
  | active => "active"
  | corrected => "corrected"
  | superseded => "superseded"
  | recallSuppressed => "recall_suppressed"
  | deleted => "deleted"

inductive RetentionClass where
  | ephemeralTool | activeWorking | checkpoint | terminalResult | longTermMemory | legalHold
  deriving DecidableEq

def RetentionClass.text : RetentionClass → String
  | ephemeralTool => "EPHEMERAL_TOOL"
  | activeWorking => "ACTIVE_WORKING"
  | checkpoint => "CHECKPOINT"
  | terminalResult => "TERMINAL_RESULT"
  | longTermMemory => "LONG_TERM_MEMORY"
  | legalHold => "LEGAL_HOLD"

inductive AssertionKind where
  | observation | userPreference | hardConstraint | goal | relationship | skill | causalSummary
  | legacy
  deriving DecidableEq

def AssertionKind.text : AssertionKind → String
  | observation => "observation"
  | userPreference => "user_preference"
  | hardConstraint => "hard_constraint"
  | goal => "goal"
  | relationship => "relationship"
  | skill => "skill"
  | causalSummary => "causal_summary"
  | legacy => "legacy"

/-- The epistemic status of an assertion. -/
inductive AssertionBasis where
  | observed | userAsserted | hypothesis | verified
  deriving DecidableEq

def AssertionBasis.text : AssertionBasis → String
  | observed => "observed"
  | userAsserted => "user_asserted"
  | hypothesis => "hypothesis"
  | verified => "verified"

/-- The scores of an assertion, in thousandths. -/
structure MemoryScores where
  causalUtility : ℕ
  userImportance : ℕ
  verificationStrength : ℕ
  recurrenceCount : ℕ
  futureDependency : ℕ
  privacyCost : ℕ
  contradictionPenalty : ℕ
  staleness : ℕ
  deriving DecidableEq

namespace MemoryScores

def retentionPriority (s : MemoryScores) : ℤ :=
  s.causalUtility + s.userImportance + s.verificationStrength + min 1000 (s.recurrenceCount * 100) +
    s.futureDependency - s.privacyCost - s.contradictionPenalty - s.staleness

def toList (s : MemoryScores) : List ℕ :=
  [s.causalUtility, s.userImportance, s.verificationStrength, s.recurrenceCount, s.futureDependency,
    s.privacyCost, s.contradictionPenalty, s.staleness]

/-- Each score is a `Milli`, and the recurrence has its own bound. -/
def InRange (s : MemoryScores) : Prop :=
  s.causalUtility ≤ 1000 ∧ s.userImportance ≤ 1000 ∧ s.verificationStrength ≤ 1000 ∧
    s.recurrenceCount ≤ 1000000 ∧ s.futureDependency ≤ 1000 ∧ s.privacyCost ≤ 1000 ∧
    s.contradictionPenalty ≤ 1000 ∧ s.staleness ≤ 1000

instance decidableInRange (s : MemoryScores) : Decidable s.InRange := by
  unfold InRange
  infer_instance

end MemoryScores

/-- A protected payload and the digest of its ciphertext. -/
structure PayloadRef where
  payloadId : Canon
  sha256 : Canon
  deriving DecidableEq

/-- `MemoryAssertionV3`. -/
structure MemoryAssertion where
  memoryId : Canon
  lifeId : String
  revision : ℕ
  supersedesAssertionSha256 : Option Canon
  kind : AssertionKind
  basis : AssertionBasis
  status : MemoryStatus
  payload : Option PayloadRef
  deletionTombstoneId : Option Canon
  privacyScope : String
  retentionClass : RetentionClass
  sourceEventIds : List Canon
  scores : MemoryScores
  validFromMs : ℕ
  expiresAtMs : Option ℕ
  createdAtMs : ℕ
  deriving DecidableEq

namespace MemoryAssertion

/-- What the contract checks. -/
def Conforms (a : MemoryAssertion) : Prop :=
  (1 ≤ a.revision ∧ a.revision ≤ maxContractInteger) ∧
  (a.revision = 1 ↔ a.supersedesAssertionSha256 = none) ∧
  (∀ expires ∈ a.expiresAtMs, a.validFromMs ≤ expires ∧ expires ≤ maxContractInteger) ∧
  (a.status = .deleted ↔ a.payload = none) ∧
  (a.status = .deleted ↔ a.deletionTombstoneId ≠ none) ∧
  (a.retentionClass = .ephemeralTool → a.kind ≠ .hardConstraint ∧ a.kind ≠ .goal) ∧
  (a.basis = .verified → a.sourceEventIds ≠ []) ∧
  (a.sourceEventIds.Pairwise (· < ·) ∧ a.sourceEventIds.length ≤ 4096) ∧
  a.scores.InRange ∧ a.validFromMs ≤ maxContractInteger ∧ a.createdAtMs ≤ maxContractInteger

instance decidableConforms (a : MemoryAssertion) : Decidable a.Conforms := by
  unfold Conforms
  infer_instance

/-- `computed_assertion_sha256`. -/
def sha256 (a : MemoryAssertion) : Canon :=
  .sha256 (.ofList [a.memoryId, .num a.revision, .text a.lifeId,
    .option id a.supersedesAssertionSha256, .text a.kind.text, .text a.basis.text,
    .text a.status.text, .option (fun p => .ofList [p.payloadId, p.sha256]) a.payload,
    .option id a.deletionTombstoneId, .text a.privacyScope, .text a.retentionClass.text,
    .ofList a.sourceEventIds, .ofList (a.scores.toList.map .num), .num a.validFromMs,
    .option .num a.expiresAtMs, .num a.createdAtMs])

/-- A digest tells the memory and the revision. -/
theorem revision_of_sha256 {a a' : MemoryAssertion} (h : a.sha256 = a'.sha256) :
    a.memoryId = a'.memoryId ∧ a.revision = a'.revision := by
  have hlist := Canon.ofList_injective (Canon.sha256.inj h)
  simp only [List.cons.injEq, Canon.num.injEq] at hlist
  exact ⟨hlist.1, hlist.2.1⟩

end MemoryAssertion

inductive CausalNodeKind where
  | event | memoryAssertion | episode | artifact | goal | constraint | outcome | legacy
  deriving DecidableEq

/-- `CausalNodeV3`. -/
structure CausalNode where
  nodeId : Canon
  lifeId : String
  kind : CausalNodeKind
  sourceRef : Canon
  payload : PayloadRef
  privacyScope : String
  retentionClass : RetentionClass
  recallStatus : MemoryStatus
  sourceEventIds : List Canon
  createdAtMs : ℕ
  deriving DecidableEq

namespace CausalNode

def Conforms (n : CausalNode) : Prop :=
  n.recallStatus ≠ .deleted ∧
  (n.sourceEventIds.Pairwise (· < ·) ∧ n.sourceEventIds.length ≤ 4096) ∧
  n.createdAtMs ≤ maxContractInteger

instance decidableConforms (n : CausalNode) : Decidable n.Conforms := by
  unfold Conforms
  infer_instance

end CausalNode

/-- `TaskContinuityCapsule`; its further values are one canonical value. -/
structure ContextCapsule where
  capsuleId : Canon
  lifeId : String
  requestId : String
  isTerminal : Bool
  supersedesCapsuleId : Option Canon
  rest : Canon
  deriving DecidableEq

/-- `CausalContextItem`. -/
structure ContextItem where
  itemRef : Canon
  rest : Canon
  deriving DecidableEq

/-- `CausalContextPack`. -/
structure ContextPack where
  packId : Canon
  lifeId : String
  continuity : ContextCapsule
  items : List ContextItem
  createdAtMs : ℕ
  rest : Canon
  deriving DecidableEq

namespace ContextPack

def itemRefs (p : ContextPack) : List Canon := p.items.map ContextItem.itemRef

def Conforms (p : ContextPack) : Prop :=
  p.lifeId = p.continuity.lifeId ∧ p.itemRefs.Pairwise (· < ·) ∧ p.items.length ≤ 4096 ∧
    p.createdAtMs ≤ maxContractInteger

instance decidableConforms (p : ContextPack) : Decidable p.Conforms := by
  unfold Conforms
  infer_instance

end ContextPack

/-- `PrivacyDeletionTombstone` of a memory. -/
structure PrivacyTombstone where
  tombstoneId : Canon
  lifeId : String
  targetRefHash : Canon
  privacyScope : String
  destroyedPayloadIds : List Canon
  removedIndexEntryCount : ℕ
  affectedCapsuleIds : List Canon
  createdAtMs : ℕ
  deriving DecidableEq

namespace PrivacyTombstone

def Conforms (t : PrivacyTombstone) : Prop :=
  (t.destroyedPayloadIds.Pairwise (· < ·) ∧ t.destroyedPayloadIds.length ≤ 4096) ∧
  (t.affectedCapsuleIds.Pairwise (· < ·) ∧ t.affectedCapsuleIds.length ≤ 4096) ∧
  t.removedIndexEntryCount ≤ 10000000 ∧ t.createdAtMs ≤ maxContractInteger

instance decidableConforms (t : PrivacyTombstone) : Decidable t.Conforms := by
  unfold Conforms
  infer_instance

end PrivacyTombstone

end Tiangong
