import Tiangong.Calls
import Tiangong.Checked
import Tiangong.MemoryContracts
import Tiangong.PythonText

/-!
# The memory tables of the store of a life

Payloads under keys, revisions of memories, causal nodes and context packs. Each call is one
transaction: it commits all of its writes, or raises and commits none.
-/
namespace Tiangong

/-- Why a call of the store raises: a `ValueError`, a constraint of a table, or
`LifeShadowStoreError`. -/
inductive VaultFault where
  | value
  | integrity
  | store (message : String)
  deriving DecidableEq

/-- A row of `protected_payloads` with its row of `protected_payload_keys`, as far as there is one.
Under the key, the ciphertext gives the plaintext. -/
structure ProtectedPayload where
  payloadId : Canon
  lifeId : String
  privacyScope : String
  plaintext : List UInt8
  ciphertextSha256 : Canon
  createdAtMs : ℕ
  hasKey : Bool
  keyDestroyedAtMs : Option ℕ
  deriving DecidableEq

def ProtectedPayload.isReadable (row : ProtectedPayload) : Bool :=
  row.hasKey && row.keyDestroyedAtMs = none

/-- What is drawn at random for a payload: its number, and the digest of its ciphertext. -/
structure Sealing where
  payloadId : Canon
  ciphertextSha256 : Canon

structure MemoryTerm where
  memoryId : Canon
  revision : ℕ
  digest : Canon
  deriving DecidableEq

structure NodeTerm where
  nodeId : Canon
  digest : Canon
  deriving DecidableEq

inductive MemoryChangeKind where
  | assert | revise | tombstone
  deriving DecidableEq

/-- A row of `memory_change_log`; the row of `memory_outbox` goes with it. -/
structure MemoryChange where
  changeSeq : ℕ
  lifeId : String
  memoryId : Canon
  revision : ℕ
  kind : MemoryChangeKind
  assertionSha256 : Canon
  createdAtMs : ℕ
  deriving DecidableEq

inductive CapsuleStatus where
  | active | superseded | terminal
  deriving DecidableEq

structure CapsuleRow where
  capsule : ContextCapsule
  status : CapsuleStatus
  deriving DecidableEq

/-- A row of `causal_context_packs`, with its rows of `causal_context_pack_members`. -/
structure PackRow where
  pack : ContextPack
  payloadId : Canon
  deriving DecidableEq

inductive SuppressionKind where
  | memory | causalNode | contextPack
  deriving DecidableEq

/-- A row of `privacy_suppressions`. -/
structure Suppression where
  kind : SuppressionKind
  targetRefHash : Canon
  privacyScope : String
  tombstoneId : Canon
  deriving DecidableEq

/-- The tables. Revisions of memories are kept with the newest first; a tombstone has its row in
`privacy_deletion_tombstones` and the one in `tombstones`. -/
structure MemoryVault where
  payloads : List ProtectedPayload
  indexKeys : List String
  assertions : List MemoryAssertion
  memoryTerms : List MemoryTerm
  changes : List MemoryChange
  nodes : List CausalNode
  nodeTerms : List NodeTerm
  capsules : List CapsuleRow
  packs : List PackRow
  tombstones : List PrivacyTombstone
  suppressions : List Suppression
  deriving DecidableEq

/-- What the store asks of its surroundings: the normal form of a search term, as far as it is
valid, the bytes of a context pack, and the events that the life has. -/
structure VaultRuntime where
  normalizeTerm : String → Option String
  packBytes : ContextPack → List UInt8
  knowsEvent : Canon → Bool

namespace MemoryVault

def empty : MemoryVault := ⟨[], [], [], [], [], [], [], [], [], [], []⟩

variable (runtime : VaultRuntime)

def findPayload (v : MemoryVault) (payloadId : Canon) : Option ProtectedPayload :=
  v.payloads.find? fun row => row.payloadId = payloadId

def putProtectedPayloadLocked (plaintext : List UInt8) (lifeId privacyScope : String)
    (createdAtMs : ℕ) (sealing : Sealing) (v : MemoryVault) :
    Except VaultFault (ProtectedPayload × MemoryVault) := do
  rejectIf (plaintext = [] ∨ 16 * 1024 * 1024 < plaintext.length ∨ lifeId = "" ∨
    privacyScope = "") .value
  rejectIf (∃ row ∈ v.payloads, row.payloadId = sealing.payloadId)
    (.store "protected payload random identity collided")
  rejectIf (∃ row ∈ v.payloads, row.ciphertextSha256 = sealing.ciphertextSha256) .integrity
  let row : ProtectedPayload := ⟨sealing.payloadId, lifeId, privacyScope, plaintext,
    sealing.ciphertextSha256, createdAtMs, true, none⟩
  pure (row, { v with payloads := v.payloads ++ [row] })

def readProtectedPayload (v : MemoryVault) (payloadId : Canon) : Except VaultFault (List UInt8) := do
  let row ← required (v.findPayload payloadId) (.store "protected payload does not exist")
  rejectIf (row.isReadable = false) (.store "protected payload key is unavailable")
  pure row.plaintext

/-- `_assert_protected_payload_binding_locked`. -/
def assertProtectedPayloadBinding (v : MemoryVault) (payload : PayloadRef)
    (lifeId privacyScope : String) : Except VaultFault Unit := do
  let row ← required (v.findPayload payload.payloadId)
    (.store "protected payload binding is invalid")
  rejectIf (row.isReadable = false ∨ row.ciphertextSha256 ≠ payload.sha256 ∨ row.lifeId ≠ lifeId ∨
    row.privacyScope ≠ privacyScope) (.store "protected payload binding is invalid")

/-- `_get_or_create_index_key_locked`. -/
def ensureIndexKey (lifeId : String) (v : MemoryVault) : MemoryVault :=
  if lifeId ∈ v.indexKeys then v else { v with indexKeys := v.indexKeys ++ [lifeId] }

def termDigests (lifeId : String) (terms : List String) : Except VaultFault (List Canon) := do
  let normalized ← terms.mapM fun term => required (runtime.normalizeTerm term) .value
  pure (normalized.dedup.map fun term => .sha256 (.ofList [.text lifeId, .text term]))

/-- The last revision of a memory. -/
def latest (v : MemoryVault) (memoryId : Canon) : Option MemoryAssertion :=
  v.assertions.find? fun a => a.memoryId = memoryId

def findRevision (v : MemoryVault) (memoryId : Canon) (revision : ℕ) : Option MemoryAssertion :=
  v.assertions.find? fun a => a.memoryId = memoryId ∧ a.revision = revision

/-- `_parse_stored_contract` of an assertion. -/
def parseAssertion (a : MemoryAssertion) : Except VaultFault MemoryAssertion := do
  rejectIf (¬ a.Conforms) (.store "stored memory assertion contract is invalid")
  pure a

def getLatestMemoryAssertion (v : MemoryVault) (memoryId : Canon) :
    Except VaultFault (Option MemoryAssertion) :=
  match v.latest memoryId with
  | none => .ok none
  | some a => some <$> parseAssertion a

/-- `_record_memory_change_locked`. -/
def recordMemoryChange (a : MemoryAssertion) (kind : MemoryChangeKind) (v : MemoryVault) :
    Except VaultFault (ℕ × MemoryVault) := do
  let changeSeq := (v.changes.map MemoryChange.changeSeq).foldr max 0 + 1
  rejectIf (∃ c ∈ v.changes, c.memoryId = a.memoryId ∧ c.revision = a.revision) .integrity
  pure (changeSeq, { v with changes := v.changes ++
    [⟨changeSeq, a.lifeId, a.memoryId, a.revision, kind, a.sha256, a.createdAtMs⟩] })

def checkRevision (a : MemoryAssertion) (previous : Option MemoryAssertion) :
    Except VaultFault Unit :=
  if a.revision = 1 then
    rejectIf (previous ≠ none) (.store "memory assertion genesis already exists")
  else do
    let p ← required previous (.store "memory assertion revision is discontinuous")
    rejectIf (p.revision + 1 ≠ a.revision ∨ a.supersedesAssertionSha256 ≠ some p.sha256 ∨
      p.status = .deleted) (.store "memory assertion revision is discontinuous")

/-- The rows of a new revision, with the search terms of a memory that is active. -/
def insertAssertion (a : MemoryAssertion) (digests : List Canon) (v : MemoryVault) :
    Except VaultFault MemoryVault := do
  rejectIf (∃ b ∈ v.assertions, b.sha256 = a.sha256) .integrity
  pure { v with
    assertions := a :: v.assertions
    memoryTerms := (v.memoryTerms.filter fun t => t.memoryId ≠ a.memoryId) ++
      digests.map fun digest => ⟨a.memoryId, a.revision, digest⟩ }

/-- The index key and the digests of the terms of a record that is active. -/
def indexTerms (lifeId : String) (isActive : Bool) (terms : List String) (v : MemoryVault) :
    Except VaultFault (List Canon × MemoryVault) :=
  if isActive = true ∧ terms ≠ [] then do
    let digests ← termDigests runtime lifeId terms
    pure (digests, ensureIndexKey lifeId v)
  else pure ([], v)

def putMemoryAssertionLocked (a : MemoryAssertion) (terms : List String) (v : MemoryVault) :
    Except VaultFault (Option ℕ × MemoryVault) :=
  match v.findRevision a.memoryId a.revision with
  | some existing => do
    rejectIf (existing ≠ a) (.store "memory assertion identity was rebound")
    pure (none, v)
  | none => do
    checkRevision a (v.latest a.memoryId)
    let payload ← required a.payload .value
    v.assertProtectedPayloadBinding payload a.lifeId a.privacyScope
    let (digests, v) ← indexTerms runtime a.lifeId (a.status = .active) terms v
    let v ← insertAssertion a digests v
    let (changeSeq, v) ← recordMemoryChange a (if a.revision = 1 then .assert else .revise) v
    pure (some changeSeq, v)

/-- The arguments of `put_live_memory_assertion` that the assertion is made of. -/
structure LiveAssertion where
  plaintext : List UInt8
  memoryId : Canon
  lifeId : String
  kind : AssertionKind
  basis : AssertionBasis
  status : MemoryStatus
  privacyScope : String
  retentionClass : RetentionClass
  sourceEventIds : List Canon
  causalUtilityMilli : ℕ
  userImportanceMilli : ℕ
  verificationStrengthMilli : ℕ
  futureDependencyMilli : ℕ
  validFromMs : ℕ
  createdAtMs : ℕ
  searchTerms : List String
  expiresAtMs : Option ℕ

namespace LiveAssertion

/-- The revision that the arguments ask for. -/
def assertion (arg : LiveAssertion) (revision : ℕ) (supersedes : Option Canon)
    (payload : PayloadRef) : MemoryAssertion where
  memoryId := arg.memoryId
  lifeId := arg.lifeId
  revision := revision
  supersedesAssertionSha256 := supersedes
  kind := arg.kind
  basis := arg.basis
  status := arg.status
  payload := some payload
  deletionTombstoneId := none
  privacyScope := arg.privacyScope
  retentionClass := arg.retentionClass
  sourceEventIds := sortedSet arg.sourceEventIds
  scores := ⟨arg.causalUtilityMilli, arg.userImportanceMilli, arg.verificationStrengthMilli, 0,
    arg.futureDependencyMilli, 500, 0, 0⟩
  validFromMs := arg.validFromMs
  expiresAtMs := arg.expiresAtMs
  createdAtMs := arg.createdAtMs

end LiveAssertion

/-- What the tables of derivations answer to a call: whether its guard of the head holds, and whether
its derivation enters them. -/
structure DerivationAnswers where
  headGuard : Except VaultFault Unit
  derivation : Except VaultFault Unit

/-- The end of `put_live_memory_assertion`. -/
def commitLive (arg : LiveAssertion) (answers : DerivationAnswers) (revision : ℕ)
    (supersedes : Option Canon) (payload : PayloadRef) (v : MemoryVault) :
    Except VaultFault ((MemoryAssertion × ℕ × Bool) × MemoryVault) := do
  let a := arg.assertion revision supersedes payload
  rejectIf (¬ a.Conforms) (.store "live memory assertion contract is invalid")
  let (created, v) ← putMemoryAssertionLocked runtime a arg.searchTerms v
  let changeSeq ← required created .value
  answers.derivation
  pure ((a, changeSeq, true), v)

/-- `put_live_memory_assertion` of what is there already. -/
def repeatLive (a : MemoryAssertion) (v : MemoryVault) :
    Except VaultFault ((MemoryAssertion × ℕ × Bool) × MemoryVault) :=
  match v.changes.find? fun c => c.memoryId = a.memoryId ∧ c.revision = a.revision with
  | some change => .ok ((a, change.changeSeq, false), v)
  | none => do
    let (changeSeq, v) ← recordMemoryChange a (if a.revision = 1 then .assert else .revise) v
    pure ((a, changeSeq, false), v)

def putLiveMemoryAssertion (arg : LiveAssertion) (answers : DerivationAnswers) (sealing : Sealing)
    (v : MemoryVault) : Except VaultFault ((MemoryAssertion × ℕ × Bool) × MemoryVault) := do
  rejectIf (arg.status = .deleted)
    (.store "deleted memory must be committed by the privacy-deletion boundary")
  answers.headGuard
  match ← v.getLatestMemoryAssertion arg.memoryId with
  | some last => do
    rejectIf (last.status = .deleted) (.store "live memory assertion was deleted")
    let payload ← required last.payload .value
    let previous ← (v.readProtectedPayload payload.payloadId).mapError fun _ =>
      .store "live memory plaintext cannot be verified"
    rejectIf (previous ≠ arg.plaintext) (.store "live memory content drifted")
    if last.status = arg.status then repeatLive last v
    else commitLive runtime arg answers (last.revision + 1) (some last.sha256) payload v
  | none => do
    let (row, v) ← putProtectedPayloadLocked arg.plaintext arg.lifeId arg.privacyScope
      arg.createdAtMs sealing v
    commitLive runtime arg answers 1 none ⟨row.payloadId, row.ciphertextSha256⟩ v

/-- The payload of the memory is there under its key. -/
def isRecallable (v : MemoryVault) (a : MemoryAssertion) : Bool :=
  a.status = .active && a.payload.any fun payload =>
    (v.findPayload payload.payloadId).any ProtectedPayload.isReadable

def searchMemoryAssertions (lifeId : String) (terms : List String) (limit : ℕ) (v : MemoryVault) :
    Except VaultFault (List MemoryAssertion) := do
  rejectIf (limit < 1 ∨ 4096 < limit) .value
  if lifeId ∉ v.indexKeys ∨ terms = [] then pure []
  else do
    let digests ← termDigests runtime lifeId terms
    let ids := ((sortedSet (v.memoryTerms.map MemoryTerm.memoryId)).filter fun memoryId =>
      digests.all fun digest => v.memoryTerms.any fun t =>
        t.memoryId = memoryId ∧ t.digest = digest).take limit
    let found ← (ids.filterMap v.latest).mapM parseAssertion
    pure ((found.filter fun a => a.lifeId = lifeId && v.isRecallable a).mergeSort fun a b =>
      b.scores.retentionPriority < a.scores.retentionPriority ∨
        (a.scores.retentionPriority = b.scores.retentionPriority ∧ a.memoryId ≤ b.memoryId))

def checkNodeSource (node : CausalNode) (v : MemoryVault) : Except VaultFault Unit :=
  if node.kind ∈ [.memoryAssertion, .goal, .constraint] then do
    let found ← v.getLatestMemoryAssertion node.sourceRef
    let a ← required found (.store "causal node memory source is not recallable")
    rejectIf (a.lifeId ≠ node.lifeId ∨ a.status ≠ node.recallStatus ∨ a.status = .deleted)
      (.store "causal node memory source is not recallable")
  else pure ()

def putCausalNode (node : CausalNode) (terms : List String) (v : MemoryVault) :
    Except VaultFault (Bool × MemoryVault) := do
  rejectIf (¬ node.Conforms) (.store "causal node contract is invalid")
  match v.nodes.find? fun n => n.nodeId = node.nodeId with
  | some existing => do
    rejectIf (existing ≠ node) (.store "causal node identity was rebound")
    pure (false, v)
  | none => do
    v.assertProtectedPayloadBinding node.payload node.lifeId node.privacyScope
    checkNodeSource node v
    rejectIf (node.sourceEventIds.head?.any fun event => !runtime.knowsEvent event) .integrity
    let (digests, v) ← indexTerms runtime node.lifeId (node.recallStatus = .active) terms v
    pure (true, { v with
      nodes := v.nodes ++ [node]
      nodeTerms := v.nodeTerms ++ digests.map fun digest => ⟨node.nodeId, digest⟩ })

def putContextCapsule (capsule : ContextCapsule) (v : MemoryVault) :
    Except VaultFault (Bool × MemoryVault) :=
  match v.capsules.find? fun row => row.capsule.capsuleId = capsule.capsuleId with
  | some existing => do
    rejectIf (existing.capsule ≠ capsule) (.store "context capsule identity was rebound")
    pure (false, v)
  | none => do
    let activeId := (v.capsules.find? fun row =>
      row.capsule.requestId = capsule.requestId ∧ row.status = .active).map (·.capsule.capsuleId)
    rejectIf (activeId ≠ capsule.supersedesCapsuleId)
      (.store "context capsule does not supersede the active checkpoint")
    pure (true, { v with
      capsules := (v.capsules.map fun row =>
          if some row.capsule.capsuleId = activeId then { row with status := .superseded } else row) ++
        [⟨capsule, if capsule.isTerminal then .terminal else .active⟩] })

/-- What other tables answer to `put_causal_context_pack`: whether the revisions that are expected
hold, and whether its authorization is entered. -/
structure PackAnswers where
  revisions : Except VaultFault Unit
  authorization : Except VaultFault Unit

def putCausalContextPack (pack : ContextPack) (privacyScope : String) (answers : PackAnswers)
    (sealing : Sealing) (v : MemoryVault) : Except VaultFault (Bool × MemoryVault) := do
  rejectIf (¬ pack.Conforms ∨ privacyScope = "")
    (.store "causal context pack digest or scope is invalid")
  answers.revisions
  match v.packs.find? fun row => row.pack.packId = pack.packId with
  | some existing => do
    rejectIf (existing.pack ≠ pack) (.store "causal context pack identity was rebound")
    let stored ← v.readProtectedPayload existing.payloadId
    rejectIf (stored ≠ runtime.packBytes pack) (.store "causal context pack payload diverged")
    answers.authorization
    pure (false, v)
  | none => do
    let row ← required (v.capsules.find? fun row =>
      row.capsule.capsuleId = pack.continuity.capsuleId)
      (.store "causal context pack source capsule is not persisted")
    rejectIf (row.capsule ≠ pack.continuity)
      (.store "causal context pack source capsule binding is invalid")
    let (payload, v) ← putProtectedPayloadLocked (runtime.packBytes pack) pack.lifeId privacyScope
      pack.createdAtMs sealing v
    answers.authorization
    pure (true, { v with packs := v.packs ++ [⟨pack, payload.payloadId⟩] })

end MemoryVault

end Tiangong
