import Tiangong.MemoryVault

/-!
# Erasure of a memory

One transaction destroys the keys of every payload of the memory, of the causal nodes that come from
it and of the context packs that hold it, drops what indexes them, and leaves a tombstone.
-/
namespace Tiangong

/-- `MemoryDeletionResult`. -/
structure MemoryDeletion where
  tombstone : PrivacyTombstone
  assertion : MemoryAssertion
  destroyedPayloadIds : List Canon
  deriving DecidableEq

namespace MemoryVault

variable (runtime : VaultRuntime)

/-- The causal nodes of the life that come from the memory. -/
def affectedNodes (v : MemoryVault) (a : MemoryAssertion) : List CausalNode :=
  v.nodes.filter fun n => n.lifeId = a.lifeId ∧ n.sourceRef = a.memoryId

/-- The context packs that hold the memory. -/
def affectedPacks (v : MemoryVault) (memoryId : Canon) : List PackRow :=
  v.packs.filter fun row => memoryId ∈ row.pack.itemRefs

def historyPayloadIds (v : MemoryVault) (memoryId : Canon) : List Canon :=
  (v.assertions.filter fun a => a.memoryId = memoryId).filterMap fun a =>
    a.payload.map PayloadRef.payloadId

/-- `payload_ids`. -/
def erasedPayloadIds (v : MemoryVault) (a : MemoryAssertion) : List Canon :=
  sortedSet (v.historyPayloadIds a.memoryId ++ (v.affectedNodes a).map (·.payload.payloadId) ++
    (v.affectedPacks a.memoryId).map PackRow.payloadId)

def removedIndexCount (v : MemoryVault) (a : MemoryAssertion) : ℕ :=
  (v.memoryTerms.countP fun t => t.memoryId = a.memoryId) +
    v.nodeTerms.countP fun t => t.nodeId ∈ (v.affectedNodes a).map CausalNode.nodeId

/-- The tables without what indexes the memory. -/
def dropTerms (a : MemoryAssertion) (v : MemoryVault) : MemoryVault :=
  { v with
    memoryTerms := v.memoryTerms.filter fun t => t.memoryId ≠ a.memoryId
    nodeTerms := v.nodeTerms.filter fun t =>
      t.nodeId ∉ (v.affectedNodes a).map CausalNode.nodeId }

def destroyKey (deletedAtMs : ℕ) (payloadId : Canon) (v : MemoryVault) : MemoryVault :=
  { v with
    payloads := v.payloads.map fun row =>
      if row.payloadId = payloadId then
        { row with hasKey := false, keyDestroyedAtMs := some deletedAtMs }
      else row }

/-- The loop over the payloads. -/
def destroyEach (deletedAtMs : ℕ) : List Canon → MemoryVault → Except VaultFault MemoryVault
  | [], v => .ok v
  | payloadId :: payloadIds, v => do
    let row ← required (v.findPayload payloadId) (.store "memory deletion payload is missing")
    rejectIf (deletedAtMs < row.createdAtMs) (.store "memory deletion predates protected payload")
    destroyEach deletedAtMs payloadIds (v.destroyKey deletedAtMs payloadId)

def tombstoneId (a : MemoryAssertion) : Canon :=
  .ident "ptm_" (.ofList [.text "tiangong.life.memory-deletion.v1", .text a.lifeId,
    .sha256 a.memoryId, a.sha256])

def tombstone (v : MemoryVault) (a : MemoryAssertion) (deletedAtMs : ℕ) : PrivacyTombstone where
  tombstoneId := tombstoneId a
  lifeId := a.lifeId
  targetRefHash := .sha256 a.memoryId
  privacyScope := a.privacyScope
  destroyedPayloadIds := v.erasedPayloadIds a
  removedIndexEntryCount := v.removedIndexCount a
  affectedCapsuleIds := sortedSet ((v.affectedPacks a.memoryId).map
    (·.pack.continuity.capsuleId))
  createdAtMs := deletedAtMs

def suppressionTargets (v : MemoryVault) (a : MemoryAssertion) : List (SuppressionKind × Canon) :=
  (.memory, .sha256 a.memoryId) ::
    (v.affectedNodes a).map (fun n => (.causalNode, .sha256 n.nodeId)) ++
    (v.affectedPacks a.memoryId).map fun row => (.contextPack, .sha256 row.pack.packId)

def IsSuppressed (v : MemoryVault) (target : SuppressionKind × Canon) (privacyScope : String) :
    Prop :=
  ∃ s ∈ v.suppressions, (s.kind, s.targetRefHash) = target ∧ s.privacyScope = privacyScope

instance decidableIsSuppressed (v : MemoryVault) (target : SuppressionKind × Canon)
    (privacyScope : String) : Decidable (v.IsSuppressed target privacyScope) := by
  unfold IsSuppressed
  infer_instance

/-- The loop over the targets. -/
def suppressEach (t : PrivacyTombstone) :
    List (SuppressionKind × Canon) → MemoryVault → Except VaultFault MemoryVault
  | [], v => .ok v
  | target :: targets, v => do
    rejectIf (v.IsSuppressed target t.privacyScope) .integrity
    suppressEach t targets { v with
      suppressions := v.suppressions ++ [⟨target.1, target.2, t.privacyScope, t.tombstoneId⟩] }

/-- The revision that stands for a deleted memory: a copy that nothing checks. -/
def deletedRevision (a : MemoryAssertion) (deletedAtMs : ℕ) : MemoryAssertion :=
  { a with
    revision := a.revision + 1
    supersedesAssertionSha256 := some a.sha256
    status := .deleted
    payload := none
    deletionTombstoneId := some (tombstoneId a)
    createdAtMs := deletedAtMs }

/-- The rows of the deleted revision. -/
def appendDeleted (a : MemoryAssertion) (v : MemoryVault) : Except VaultFault MemoryVault := do
  rejectIf (v.findRevision a.memoryId a.revision ≠ none) .integrity
  rejectIf (∃ b ∈ v.assertions, b.sha256 = a.sha256) .integrity
  let (_, v) ← recordMemoryChange a .tombstone { v with assertions := a :: v.assertions }
  pure v

/-- `delete_memory` of a memory that is there. -/
def eraseMemory (a : MemoryAssertion) (deletedAtMs : ℕ) (v : MemoryVault) :
    Except VaultFault (MemoryDeletion × MemoryVault) := do
  rejectIf (4096 < (v.erasedPayloadIds a).length)
    (.store "memory deletion fanout exceeds safe bound")
  let t := v.tombstone a deletedAtMs
  let targets := v.suppressionTargets a
  let v ← destroyEach deletedAtMs (v.erasedPayloadIds a) (v.dropTerms a)
  rejectIf (¬ t.Conforms) .value
  rejectIf (∃ t' ∈ v.tombstones, t'.tombstoneId = t.tombstoneId) .integrity
  let v ← suppressEach t targets { v with tombstones := v.tombstones ++ [t] }
  let v ← appendDeleted (deletedRevision a deletedAtMs) v
  pure (⟨t, deletedRevision a deletedAtMs, t.destroyedPayloadIds⟩, v)

/-- `delete_memory` of a memory that is deleted. -/
def repeatDeletion (a : MemoryAssertion) (expectedRevision : ℕ) (v : MemoryVault) :
    Except VaultFault (MemoryDeletion × MemoryVault) := do
  rejectIf (expectedRevision ≠ a.revision ∧ expectedRevision + 1 ≠ a.revision)
    (.store "memory deletion revision is stale")
  let tombstoneId ← required a.deletionTombstoneId .value
  let t ← required (v.tombstones.find? fun t => t.tombstoneId = tombstoneId)
    (.store "memory deletion tombstone is missing")
  pure (⟨t, a, t.destroyedPayloadIds⟩, v)

/-- The transaction of `delete_memory`. -/
def deleteMemoryLocked (memoryId : Canon) (expectedRevision deletedAtMs : ℕ) (v : MemoryVault) :
    Except VaultFault (MemoryDeletion × MemoryVault) := do
  rejectIf (expectedRevision < 1) .value
  let found ← v.getLatestMemoryAssertion memoryId
  let a ← required found (.store "memory deletion target does not exist")
  if a.status = .deleted then repeatDeletion a expectedRevision v
  else do
    rejectIf (a.revision ≠ expectedRevision) (.store "memory deletion revision is stale")
    rejectIf (a.retentionClass = .legalHold) (.store "legal-hold memory cannot be deleted")
    eraseMemory a deletedAtMs v

def deleteMemory (memoryId : Canon) (expectedRevision deletedAtMs : ℕ) :
    Call VaultFault MemoryVault MemoryDeletion :=
  .transaction (deleteMemoryLocked memoryId expectedRevision deletedAtMs)

end MemoryVault

/-- The calls of the store. -/
inductive VaultOperation where
  | putPayload (plaintext : List UInt8) (lifeId privacyScope : String) (createdAtMs : ℕ)
    (sealing : Sealing)
  | putLiveAssertion (arg : MemoryVault.LiveAssertion) (answers : MemoryVault.DerivationAnswers)
    (sealing : Sealing)
  | putNode (node : CausalNode) (terms : List String)
  | putCapsule (capsule : ContextCapsule)
  | putPack (pack : ContextPack) (privacyScope : String) (answers : MemoryVault.PackAnswers)
    (sealing : Sealing)
  | delete (memoryId : Canon) (expectedRevision deletedAtMs : ℕ)

namespace VaultOperation

variable (runtime : VaultRuntime)

/-- What a call does to the tables, when it returns. -/
def body : VaultOperation → MemoryVault → Except VaultFault (Unit × MemoryVault)
  | putPayload plaintext lifeId privacyScope createdAtMs sealing => fun v =>
    (fun r => ((), r.2)) <$>
      MemoryVault.putProtectedPayloadLocked plaintext lifeId privacyScope createdAtMs sealing v
  | putLiveAssertion arg answers sealing => fun v =>
    (fun r => ((), r.2)) <$> MemoryVault.putLiveMemoryAssertion runtime arg answers sealing v
  | putNode node terms => fun v =>
    (fun r => ((), r.2)) <$> MemoryVault.putCausalNode runtime node terms v
  | putCapsule capsule => fun v => (fun r => ((), r.2)) <$> MemoryVault.putContextCapsule capsule v
  | putPack pack privacyScope answers sealing => fun v =>
    (fun r => ((), r.2)) <$>
      MemoryVault.putCausalContextPack runtime pack privacyScope answers sealing v
  | delete memoryId expectedRevision deletedAtMs => fun v =>
    (fun r => ((), r.2)) <$> MemoryVault.deleteMemoryLocked memoryId expectedRevision deletedAtMs v

def call (op : VaultOperation) : Call VaultFault MemoryVault Unit := .transaction (op.body runtime)

end VaultOperation

namespace MemoryVault

variable (runtime : VaultRuntime)

/-- The tables after calls, whether they return or raise. -/
def afterCalls (v : MemoryVault) (ops : List VaultOperation) : MemoryVault :=
  ops.foldl (fun v op => ((op.call runtime).on v).2) v

/-- The tables that calls lead to. -/
def Reachable (v : MemoryVault) : Prop := ∃ ops, v = afterCalls runtime empty ops

end MemoryVault

end Tiangong
