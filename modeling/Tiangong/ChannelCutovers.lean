import Tiangong.CompositionContracts
import Tiangong.Machines
import Tiangong.Tables

/-!
# Channel cutovers

The ownership of a channel passes to a new gateway epoch in three stages: the legacy owner drains,
its drain is put on record, and the candidate gets a lease that it renews. The documents of the
stages refer to each other by their digests.
-/
namespace Tiangong.Cutover

/-- Why a call raises. -/
inductive CutoverFault where
  | value (message : String)
  | conflict (message : String)
  | notFound (message : String)
  | corruption (message : String)
  | integrity
  deriving DecidableEq

inductive CutoverChannel where
  | wechat | feishu
  deriving DecidableEq

def CutoverChannel.text : CutoverChannel → String
  | wechat => "wechat"
  | feishu => "feishu"

structure ChannelScope where
  channel : CutoverChannel
  tenantId : OpaqueId
  linkAccountId : OpaqueId
  deriving DecidableEq

def deriveCutoverId (scope : ChannelScope) (gatewayEpoch : ℕ) : Canon :=
  .ident "cut_" (.ofList [.text "tiangong.migration.channel-cutover.v1", .text scope.channel.text,
    .str scope.tenantId.1, .str scope.linkAccountId.1, .num gatewayEpoch])

/-- `ChannelDrainEvidence`. It says that nothing polls, sends or waits any more. -/
structure ChannelDrainEvidence where
  schemaVersion : SchemaVersion
  scope : ChannelScope
  gatewayEpoch : JsonNat
  legacyOwnerComponentId : OpaqueId
  legacyOwnerInstanceId : OpaqueId
  inboxLedgerSha256 : Canon
  deliveryLedgerSha256 : Canon
  lastCursorSha256 : Option Canon
  observedAtMs : JsonNat
  evidenceSha256 : Canon
  epoch_pos : 1 ≤ gatewayEpoch.val
  deriving DecidableEq

/-- The evidence that a document refers to. -/
structure DrainBinding where
  evidenceId : Canon
  evidenceSha256 : Canon
  deriving DecidableEq

namespace ChannelDrainEvidence

def cutoverId (e : ChannelDrainEvidence) : Canon := deriveCutoverId e.scope e.gatewayEpoch.val

def evidenceId (e : ChannelDrainEvidence) : Canon :=
  .ident "drn_" (.ofList [.text "tiangong.migration.channel-drain-evidence.v1", e.cutoverId,
    .str e.legacyOwnerComponentId.1, .str e.legacyOwnerInstanceId.1, e.inboxLedgerSha256,
    e.deliveryLedgerSha256, .option id e.lastCursorSha256])

def computedSha256 (e : ChannelDrainEvidence) : Canon :=
  .sha256 (.ofList [e.schemaVersion.canon, e.evidenceId, e.cutoverId, .num e.gatewayEpoch.val,
    .str e.legacyOwnerComponentId.1, .str e.legacyOwnerInstanceId.1, e.inboxLedgerSha256,
    e.deliveryLedgerSha256, .option id e.lastCursorSha256, .num e.observedAtMs.val])

def binding (e : ChannelDrainEvidence) : DrainBinding := ⟨e.evidenceId, e.evidenceSha256⟩

end ChannelDrainEvidence

/-- `ChannelOwnershipLease`. It grants exactly polling and sending, from when it is issued on. -/
structure ChannelOwnershipLease where
  scope : ChannelScope
  gatewayEpoch : JsonNat
  ownerInstanceId : OpaqueId
  drain : DrainBinding
  componentManifestSha256 : Canon
  previousLeaseSha256 : Option Canon
  issuedAtMs : JsonNat
  expiresAtMs : JsonNat
  issued_lt_expires : issuedAtMs.val < expiresAtMs.val
  lifetime_le : expiresAtMs.val ≤ issuedAtMs.val + 60000
  deriving DecidableEq

/-- The lease that a document refers to. -/
structure LeaseBinding where
  leaseId : Canon
  leaseSha256 : Canon
  deriving DecidableEq

namespace ChannelOwnershipLease

def cutoverId (l : ChannelOwnershipLease) : Canon := deriveCutoverId l.scope l.gatewayEpoch.val

def leaseId (l : ChannelOwnershipLease) : Canon :=
  .ident "own_" (.ofList [.text "tiangong.migration.channel-ownership-lease.v1", l.cutoverId,
    .num l.gatewayEpoch.val, .str l.ownerInstanceId.1, l.drain.evidenceSha256,
    l.componentManifestSha256, .option id l.previousLeaseSha256, .num l.issuedAtMs.val,
    .num l.expiresAtMs.val])

/-- `lease_sha256`. -/
def sha256 (l : ChannelOwnershipLease) : Canon :=
  .sha256 (.ofList [l.leaseId, l.cutoverId, .num l.gatewayEpoch.val, .text l.scope.channel.text,
    .str l.scope.tenantId.1, .str l.scope.linkAccountId.1, .str l.ownerInstanceId.1,
    l.drain.evidenceId, l.drain.evidenceSha256, l.componentManifestSha256,
    .option id l.previousLeaseSha256, .num l.issuedAtMs.val, .num l.expiresAtMs.val])

def binding (l : ChannelOwnershipLease) : LeaseBinding := ⟨l.leaseId, l.sha256⟩

end ChannelOwnershipLease

/-- The state of a cutover, with what it is bound to. -/
inductive CutoverStage where
  | draining
  | drained (drain : DrainBinding)
  | candidateActive (drain : DrainBinding) (lease : LeaseBinding)
  deriving DecidableEq

namespace CutoverStage

def drain : CutoverStage → Option DrainBinding
  | draining => none
  | drained drain => some drain
  | candidateActive drain _ => some drain

def lease : CutoverStage → Option LeaseBinding
  | candidateActive _ lease => some lease
  | _ => none

/-- The values of the state, the bindings and the revision. -/
def canon : CutoverStage → Canon
  | draining => .ofList [.text "DRAINING", .num 1]
  | drained drain => .ofList [.text "DRAINED", drain.evidenceId, drain.evidenceSha256, .num 2]
  | candidateActive drain lease => .ofList [.text "CANDIDATE_ACTIVE", drain.evidenceId,
      drain.evidenceSha256, lease.leaseId, lease.leaseSha256, .num 3]

end CutoverStage

/-- `ChannelCutoverSnapshot`. -/
structure ChannelCutoverSnapshot where
  schemaVersion : SchemaVersion
  scope : ChannelScope
  gatewayEpoch : JsonNat
  legacyOwnerComponentId : OpaqueId
  legacyOwnerInstanceId : OpaqueId
  candidateOwnerInstanceId : OpaqueId
  stage : CutoverStage
  startedAtMs : JsonNat
  updatedAtMs : JsonNat
  snapshotSha256 : Canon
  epoch_pos : 1 ≤ gatewayEpoch.val
  deriving DecidableEq

namespace ChannelCutoverSnapshot

def cutoverId (c : ChannelCutoverSnapshot) : Canon := deriveCutoverId c.scope c.gatewayEpoch.val

def computedSha256 (c : ChannelCutoverSnapshot) : Canon :=
  .sha256 (.ofList [c.schemaVersion.canon, c.cutoverId, .num c.gatewayEpoch.val,
    .text c.scope.channel.text, .str c.scope.tenantId.1, .str c.scope.linkAccountId.1,
    .str c.legacyOwnerComponentId.1, .str c.legacyOwnerInstanceId.1,
    .str c.candidateOwnerInstanceId.1, c.stage.canon, .num c.startedAtMs.val,
    .num c.updatedAtMs.val])

/-- The copy of a snapshot in another stage, with its computed digest. -/
def advance (stage : CutoverStage) (updatedAtMs : JsonNat) (c : ChannelCutoverSnapshot) :
    ChannelCutoverSnapshot :=
  let copy := { c with stage, updatedAtMs }
  { copy with snapshotSha256 := copy.computedSha256 }

@[simp] theorem advance_cutoverId (stage : CutoverStage) (updatedAtMs : JsonNat)
    (c : ChannelCutoverSnapshot) : (c.advance stage updatedAtMs).cutoverId = c.cutoverId := rfl

end ChannelCutoverSnapshot

def applyChannelDrain (snapshot : ChannelCutoverSnapshot) (evidence : ChannelDrainEvidence) :
    Except CutoverFault ChannelCutoverSnapshot := do
  rejectIf (snapshot.stage ≠ .draining ∨ snapshot.snapshotSha256 ≠ snapshot.computedSha256 ∨
      evidence.evidenceSha256 ≠ evidence.computedSha256 ∨
      evidence.cutoverId ≠ snapshot.cutoverId ∨ evidence.gatewayEpoch ≠ snapshot.gatewayEpoch ∨
      evidence.legacyOwnerComponentId ≠ snapshot.legacyOwnerComponentId ∨
      evidence.legacyOwnerInstanceId ≠ snapshot.legacyOwnerInstanceId ∨
      evidence.observedAtMs < snapshot.startedAtMs)
    (.value "channel drain evidence is not bound to the draining cutover")
  pure (snapshot.advance (.drained evidence.binding) evidence.observedAtMs)

/-- `_build_ownership_lease`. A lifetime that no lease may have, or a time that no canonical JSON
holds, is refused. -/
def buildOwnershipLease (snapshot : ChannelCutoverSnapshot) (evidence : ChannelDrainEvidence)
    (componentManifestSha256 : Canon) (previousLeaseSha256 : Option Canon)
    (issuedAtMs leaseTtlMs : ℤ) : Except CutoverFault ChannelOwnershipLease :=
  if h : 0 ≤ issuedAtMs ∧ 0 < leaseTtlMs ∧ leaseTtlMs ≤ 60000 ∧
      issuedAtMs + leaseTtlMs < 9007199254740992 then
    .ok
      { scope := snapshot.scope
        gatewayEpoch := snapshot.gatewayEpoch
        ownerInstanceId := snapshot.candidateOwnerInstanceId
        drain := evidence.binding
        componentManifestSha256
        previousLeaseSha256
        issuedAtMs := ⟨issuedAtMs.toNat, by omega⟩
        expiresAtMs := ⟨(issuedAtMs + leaseTtlMs).toNat, by omega⟩
        issued_lt_expires := by show issuedAtMs.toNat < (issuedAtMs + leaseTtlMs).toNat; omega
        lifetime_le := by
          show (issuedAtMs + leaseTtlMs).toNat ≤ issuedAtMs.toNat + 60000
          omega }
  else .error (.value "channel ownership lease lifetime is invalid")

def activateCandidateOwner (snapshot : ChannelCutoverSnapshot) (evidence : ChannelDrainEvidence)
    (componentManifestSha256 : Canon) (issuedAtMs leaseTtlMs : ℤ) :
    Except CutoverFault (ChannelCutoverSnapshot × ChannelOwnershipLease) := do
  rejectIf (snapshot.stage ≠ .drained evidence.binding ∨
      snapshot.snapshotSha256 ≠ snapshot.computedSha256 ∨
      evidence.evidenceSha256 ≠ evidence.computedSha256 ∨
      issuedAtMs < snapshot.updatedAtMs.val ∨ leaseTtlMs < 1000 ∨ 60000 < leaseTtlMs)
    (.value "candidate owner cannot activate before an exact completed drain")
  let lease ← buildOwnershipLease snapshot evidence componentManifestSha256 none issuedAtMs
    leaseTtlMs
  pure (snapshot.advance (.candidateActive evidence.binding lease.binding) lease.issuedAtMs, lease)

def renewCandidateOwner (snapshot : ChannelCutoverSnapshot) (evidence : ChannelDrainEvidence)
    (current : ChannelOwnershipLease) (issuedAtMs leaseTtlMs : ℤ) :
    Except CutoverFault (ChannelCutoverSnapshot × ChannelOwnershipLease) := do
  rejectIf (snapshot.stage ≠ .candidateActive evidence.binding current.binding ∨
      snapshot.snapshotSha256 ≠ snapshot.computedSha256 ∨
      evidence.evidenceSha256 ≠ evidence.computedSha256 ∨
      current.cutoverId ≠ snapshot.cutoverId ∨ current.gatewayEpoch ≠ snapshot.gatewayEpoch ∨
      current.ownerInstanceId ≠ snapshot.candidateOwnerInstanceId ∨
      issuedAtMs ≤ current.issuedAtMs.val ∨ current.expiresAtMs.val < issuedAtMs ∨
      leaseTtlMs < 1000 ∨ 60000 < leaseTtlMs)
    (.value "candidate ownership renewal does not continue the active lease")
  let lease ← buildOwnershipLease snapshot evidence current.componentManifestSha256
    (some current.sha256) issuedAtMs leaseTtlMs
  pure (snapshot.advance (.candidateActive evidence.binding lease.binding) lease.issuedAtMs, lease)

/-- A row of `channel_ownership_lease`. -/
structure LeaseRow where
  lease : ChannelOwnershipLease
  isActive : Bool
  deriving DecidableEq

namespace LeaseRow

def leaseId (r : LeaseRow) : Canon := r.lease.leaseId

def cutoverId (r : LeaseRow) : Canon := r.lease.cutoverId

def deactivate (r : LeaseRow) : LeaseRow := { r with isActive := false }

@[simp] theorem deactivate_leaseId (r : LeaseRow) : r.deactivate.leaseId = r.leaseId := rfl

end LeaseRow

/-- The tables of the cutovers. A row of `channel_cutover` is its snapshot. -/
structure ChannelStore where
  cutovers : Table ChannelCutoverSnapshot.cutoverId
  evidence : Table ChannelDrainEvidence.cutoverId
  leases : Table LeaseRow.leaseId

def channelLeaseClockSkewMs : ℕ := 5000

/-- `ChannelOwnershipRegistration`. -/
structure ChannelOwnershipRegistration where
  snapshot : ChannelCutoverSnapshot
  lease : ChannelOwnershipLease
  created : Bool
  replayed : Bool

namespace ChannelStore

def empty : ChannelStore := ⟨.empty, .empty, .empty⟩

/-- The channel scope has a cutover of a later epoch. -/
def HasNewer (s : ChannelStore) (scope : ChannelScope) (gatewayEpoch : JsonNat) : Prop :=
  ∃ c ∈ s.cutovers.rows, c.scope = scope ∧ gatewayEpoch < c.gatewayEpoch

instance decidableHasNewer (s : ChannelStore) (scope : ChannelScope) (gatewayEpoch : JsonNat) :
    Decidable (s.HasNewer scope gatewayEpoch) :=
  inferInstanceAs (Decidable (∃ c ∈ s.cutovers.rows, _))

/-- The active lease of a cutover of an earlier epoch has not expired safely. -/
def PriorActive (s : ChannelStore) (snapshot : ChannelCutoverSnapshot) : Prop :=
  ∃ c ∈ s.cutovers.rows, c.scope = snapshot.scope ∧ c.gatewayEpoch < snapshot.gatewayEpoch ∧
    ∃ r ∈ s.leases.rows, c.stage.lease.map LeaseBinding.leaseId = some r.leaseId ∧
      r.isActive = true ∧
      snapshot.startedAtMs.val < r.lease.expiresAtMs.val + channelLeaseClockSkewMs

instance decidablePriorActive (s : ChannelStore) (snapshot : ChannelCutoverSnapshot) :
    Decidable (s.PriorActive snapshot) :=
  inferInstanceAs (Decidable (∃ c ∈ s.cutovers.rows, _))

def beginChannelCutover (snapshot : ChannelCutoverSnapshot) (currentGatewayEpoch : ℤ)
    (s : ChannelStore) : Except CutoverFault (Bool × ChannelStore) := do
  rejectIf (snapshot.stage ≠ .draining ∨ snapshot.snapshotSha256 ≠ snapshot.computedSha256 ∨
      (snapshot.gatewayEpoch.val : ℤ) ≠ currentGatewayEpoch)
    (.value "channel cutover must begin in the current gateway epoch")
  rejectIf (snapshot.updatedAtMs < snapshot.startedAtMs)
    (.corruption "stored channel cutover is invalid")
  match s.cutovers.find snapshot.cutoverId with
  | some stored => do
    rejectIf (stored ≠ snapshot)
      (.conflict "channel scope and epoch are already bound to another cutover")
    pure (false, s)
  | none => do
    rejectIf (s.HasNewer snapshot.scope snapshot.gatewayEpoch)
      (.conflict "channel scope already has a newer migration epoch")
    rejectIf (s.PriorActive snapshot)
      (.conflict "prior channel ownership epoch has not expired safely")
    let cutovers ← s.cutovers.insert .integrity snapshot
    pure (true, { s with cutovers })

/-- The row of the cutover goes to another stage. -/
def advance (s : ChannelStore) (cutoverId : Canon) (stage : CutoverStage) (updatedAtMs : JsonNat) :
    Table ChannelCutoverSnapshot.cutoverId :=
  s.cutovers.update (fun c => c.cutoverId = cutoverId)
    (ChannelCutoverSnapshot.advance stage updatedAtMs)
    (ChannelCutoverSnapshot.advance_cutoverId stage updatedAtMs)

def recordChannelDrain (evidence : ChannelDrainEvidence) (currentGatewayEpoch : ℤ)
    (s : ChannelStore) : Except CutoverFault (ChannelCutoverSnapshot × ChannelStore) := do
  rejectIf (evidence.evidenceSha256 ≠ evidence.computedSha256 ∨
      (evidence.gatewayEpoch.val : ℤ) ≠ currentGatewayEpoch)
    (.value "channel drain evidence is not for the current gateway epoch")
  let snapshot ← required (s.cutovers.find evidence.cutoverId)
    (.notFound "channel cutover does not exist")
  match s.evidence.find evidence.cutoverId with
  | some stored => do
    rejectIf (stored ≠ evidence)
      (.conflict "channel cutover already has different drain evidence")
    rejectIf (snapshot.stage.drain ≠ some evidence.binding)
      (.corruption "stored channel drain is not reflected by the cutover")
    pure (snapshot, s)
  | none => do
    let drained ← applyChannelDrain snapshot evidence
    let table ← s.evidence.insert .integrity evidence
    pure (drained, { s with
      evidence := table
      cutovers := s.advance snapshot.cutoverId drained.stage drained.updatedAtMs })

def activeLease (s : ChannelStore) (cutoverId : Canon) : Option LeaseRow :=
  s.leases.rows.find? fun r => r.cutoverId = cutoverId && r.isActive

/-- The new lease of a cutover is its active one, the only one the index allows. -/
def insertLease (lease : ChannelOwnershipLease) (leases : Table LeaseRow.leaseId) :
    Except CutoverFault (Table LeaseRow.leaseId) := do
  rejectIf (∃ r ∈ leases.rows, r.cutoverId = lease.cutoverId ∧ r.isActive = true) .integrity
  leases.insert .integrity ⟨lease, true⟩

/-- The answer when the cutover is active: the first lease again, when it is the one asked for. -/
def replayActivation (snapshot : ChannelCutoverSnapshot) (componentManifestSha256 : Canon)
    (issuedAtMs leaseTtlMs : ℤ) (s : ChannelStore) :
    Except CutoverFault (ChannelOwnershipRegistration × ChannelStore) := do
  let row ← required (s.activeLease snapshot.cutoverId)
    (.corruption "active channel cutover has no active lease")
  rejectIf (¬ (row.lease.previousLeaseSha256 = none ∧
      row.lease.componentManifestSha256 = componentManifestSha256 ∧
      (row.lease.issuedAtMs.val : ℤ) = issuedAtMs ∧
      (row.lease.expiresAtMs.val : ℤ) = issuedAtMs + leaseTtlMs))
    (.conflict "channel candidate is already active")
  pure (⟨snapshot, row.lease, false, true⟩, s)

def activateChannelCandidate (cutoverId : Canon) (currentGatewayEpoch : ℤ)
    (componentManifestSha256 : Canon) (issuedAtMs leaseTtlMs : ℤ) (s : ChannelStore) :
    Except CutoverFault (ChannelOwnershipRegistration × ChannelStore) := do
  let snapshot ← required (s.cutovers.find cutoverId) (.notFound "channel cutover does not exist")
  rejectIf ((snapshot.gatewayEpoch.val : ℤ) ≠ currentGatewayEpoch)
    (.conflict "channel cutover belongs to an old gateway epoch")
  rejectIf (s.HasNewer snapshot.scope snapshot.gatewayEpoch)
    (.conflict "channel cutover was superseded by a newer epoch")
  let evidence ← required (s.evidence.find cutoverId)
    (.conflict "channel candidate cannot activate before drain")
  if snapshot.stage.lease.isSome then
    replayActivation snapshot componentManifestSha256 issuedAtMs leaseTtlMs s
  else do
    let (active, lease) ← activateCandidateOwner snapshot evidence componentManifestSha256
      issuedAtMs leaseTtlMs
    let leases ← insertLease lease s.leases
    pure (⟨active, lease, true, false⟩, { s with
      leases
      cutovers := s.advance cutoverId active.stage active.updatedAtMs })

/-- `renew_channel_candidate`. The CHECK of the row's times comes with its update. -/
def renewChannelCandidate (cutoverId : Canon) (currentGatewayEpoch issuedAtMs leaseTtlMs : ℤ)
    (s : ChannelStore) : Except CutoverFault (ChannelOwnershipRegistration × ChannelStore) := do
  let snapshot ← required (s.cutovers.find cutoverId) (.notFound "channel cutover does not exist")
  rejectIf (snapshot.stage.lease = none ∨ (snapshot.gatewayEpoch.val : ℤ) ≠ currentGatewayEpoch)
    (.conflict "channel candidate is not active in this epoch")
  rejectIf (s.HasNewer snapshot.scope snapshot.gatewayEpoch)
    (.conflict "channel ownership was superseded by a newer epoch")
  let evidence ← required (s.evidence.find cutoverId)
    (.corruption "active channel ownership facts are incomplete")
  let current ← required (s.activeLease cutoverId)
    (.corruption "active channel ownership facts are incomplete")
  if current.lease.previousLeaseSha256 ≠ none ∧ (current.lease.issuedAtMs.val : ℤ) = issuedAtMs ∧
      (current.lease.expiresAtMs.val : ℤ) = issuedAtMs + leaseTtlMs then
    pure (⟨snapshot, current.lease, false, true⟩, s)
  else do
    let (renewed, lease) ← renewCandidateOwner snapshot evidence current.lease issuedAtMs leaseTtlMs
    let leases ← insertLease lease (s.leases.update (fun r => r.leaseId = current.leaseId)
      LeaseRow.deactivate LeaseRow.deactivate_leaseId)
    rejectIf (renewed.updatedAtMs < renewed.startedAtMs) .integrity
    pure (⟨renewed, lease, true, false⟩, { s with
      leases
      cutovers := s.advance cutoverId renewed.stage renewed.updatedAtMs })

end ChannelStore

inductive ChannelCall where
  | beginCutover (snapshot : ChannelCutoverSnapshot) (currentGatewayEpoch : ℤ)
  | recordDrain (evidence : ChannelDrainEvidence) (currentGatewayEpoch : ℤ)
  | activate (cutoverId : Canon) (currentGatewayEpoch : ℤ) (componentManifestSha256 : Canon)
    (issuedAtMs leaseTtlMs : ℤ)
  | renew (cutoverId : Canon) (currentGatewayEpoch issuedAtMs leaseTtlMs : ℤ)

inductive ChannelAnswer where
  | begun (created : Bool)
  | drained (snapshot : ChannelCutoverSnapshot)
  | registered (registration : ChannelOwnershipRegistration)

def ChannelAnswer.lease : ChannelAnswer → Option ChannelOwnershipLease
  | registered registration => some registration.lease
  | _ => none

/-- Each call is one transaction. -/
def channelMachine : Machine ChannelStore ChannelCall (Except CutoverFault ChannelAnswer) where
  step s
    | .beginCutover snapshot epoch =>
      committed s ChannelAnswer.begun (s.beginChannelCutover snapshot epoch)
    | .recordDrain evidence epoch =>
      committed s ChannelAnswer.drained (s.recordChannelDrain evidence epoch)
    | .activate cutoverId epoch manifest issuedAtMs leaseTtlMs =>
      committed s ChannelAnswer.registered
        (s.activateChannelCandidate cutoverId epoch manifest issuedAtMs leaseTtlMs)
    | .renew cutoverId epoch issuedAtMs leaseTtlMs =>
      committed s ChannelAnswer.registered
        (s.renewChannelCandidate cutoverId epoch issuedAtMs leaseTtlMs)

end Tiangong.Cutover
