import Tiangong.Calls
import Tiangong.Machines
import Tiangong.WorldStates

/-!
# The world state store

Heads, windows of history, retained states and the records of the inquiry cycle, in memory and in
one index file beside one file for each snapshot. Every call changes the memory, replaces a file
and undoes its changes when the replacement fails.
-/
namespace Tiangong

/-- A field of a record, as far as `int` and `or` read it. -/
inductive RecordField where
  | null | flag (b : Bool) | int (n : ℤ)
  /-- A text, with the number that `int` reads in it. -/
  | text (s : String) (number : Option ℤ)
  | float (zero : Bool) | container (empty : Bool)
  deriving DecidableEq

namespace RecordField

def truthy : RecordField → Bool
  | null => false
  | flag b => b
  | int n => n ≠ 0
  | text s _ => s ≠ ""
  | float zero => !zero
  | container empty => !empty

/-- `int`. Floats do not reach it: no digest is made of a record with one. -/
def toInt : RecordField → Except WorldStateError ℤ
  | flag b => .ok (if b then 1 else 0)
  | int n => .ok n
  | text _ number => required number .conversion
  | null | float _ | container _ => .error .conversion

/-- `int(a or b or … or 0)`. -/
def firstInt : List RecordField → Except WorldStateError ℤ
  | [] => .ok 0
  | f :: fs => if f.truthy then f.toInt else firstInt fs

def isFloat : RecordField → Bool
  | float _ => true
  | _ => false

def canon : RecordField → Canon
  | null | float _ => .null
  | flag b => .flag b
  | int n => .int n
  | text s _ => .text s
  | container empty => .ofList [.flag empty]

end RecordField

/-- A record of the inquiry cycle: the fields that the store reads, and the others together. -/
structure ActiveRecord where
  recordId : String
  revision : RecordField
  status : String
  closedAtMs : RecordField
  createdAtMs : RecordField
  worldScopeHash : String
  content : Canon
  recordSha256 : Canon
  deriving DecidableEq

namespace ActiveRecord

def computedHash (r : ActiveRecord) : Canon :=
  .sha256 <| .ofList
    [.text r.recordId, r.revision.canon, .text r.status, r.closedAtMs.canon, r.createdAtMs.canon,
      .text r.worldScopeHash, r.content]

def withHash (r : ActiveRecord) : ActiveRecord := { r with recordSha256 := r.computedHash }

@[simp] theorem withHash_recordId (r : ActiveRecord) : r.withHash.recordId = r.recordId := rfl

theorem withHash_valid (r : ActiveRecord) : r.withHash.recordSha256 = r.withHash.computedHash := rfl

def hasFloat (r : ActiveRecord) : Bool :=
  r.revision.isFloat || r.closedAtMs.isFloat || r.createdAtMs.isFloat

def revisionNumber (r : ActiveRecord) : Except WorldStateError ℤ :=
  RecordField.firstInt [r.revision]

def closedTime (r : ActiveRecord) : Except WorldStateError ℤ :=
  RecordField.firstInt [r.closedAtMs, r.createdAtMs]

end ActiveRecord

structure StoreLimits where
  maxHistoryPerFrame : ℕ
  maxActiveCognitionRecords : ℕ
  maxRetainedStates : ℕ
  history_valid : 2 ≤ maxHistoryPerFrame ∧ maxHistoryPerFrame ≤ 4096
  records_valid : 8 ≤ maxActiveCognitionRecords ∧ maxActiveCognitionRecords ≤ 65536
  retained_valid : 1 ≤ maxRetainedStates ∧ maxRetainedStates ≤ 65536

structure StreamRow where
  key : StreamKey
  current : Canon
  history : List Canon
  deriving DecidableEq

structure RetainedRow where
  item : RetainedFields
  retentionSha256 : Canon
  deriving DecidableEq

namespace RetainedRow

/-- `to_dict`. -/
def ofItem (r : RetainedWorldState) : RetainedRow := ⟨r.1, .sha256 r.1.canon⟩

/-- `from_dict`. -/
def load (row : RetainedRow) : Except WorldStateError RetainedWorldState := do
  let item ← sealed RetainedFields.valid (.value "WORLD_RETENTION_IDENTITY_INVALID") row.item
  rejectIf (ofItem item ≠ row) (.value "WORLD_RETENTION_HASH_INVALID")
  pure item

@[simp] theorem load_ofItem (r : RetainedWorldState) : (ofItem r).load = .ok r := by
  have hsealed : sealed RetainedFields.valid
      (WorldStateError.value "WORLD_RETENTION_IDENTITY_INVALID") (ofItem r).item = .ok r :=
    sealed_eq_ok.mpr rfl
  simp [load, hsealed, bind, Except.bind, rejectIf, pure, Except.pure]

end RetainedRow

/-- The index file. Its second schema carries the retained states. -/
structure IndexFile where
  secondSchema : Bool
  streams : List StreamRow
  activeCognition : List ActiveRecord
  retainedStates : Option (List RetainedRow)
  deriving DecidableEq

structure StoreMemory where
  snapshots : Dict Canon MaterializedWorldSnapshot
  current : Dict StreamKey Canon
  history : Dict StreamKey (List Canon)
  activeCognition : Dict String ActiveRecord
  retained : Dict String RetainedWorldState
  retentionSchema : Bool

/-- The index file and the files of the snapshots. -/
structure StoreDisk where
  index : Option IndexFile
  files : Dict Canon MaterializedWorldSnapshot

structure WorldStateStore where
  limits : StoreLimits
  /-- A root directory was given. -/
  persistent : Bool
  memory : StoreMemory
  disk : StoreDisk

/-- The file replacements that fail during a call. -/
structure StoreFaults where
  snapshot : Bool
  index : Bool
  deriving DecidableEq

abbrev StoreCall := Call WorldStateError WorldStateStore

namespace StoreMemory

def empty : StoreMemory := ⟨∅, ∅, ∅, ∅, ∅, false⟩

def indexPayload (m : StoreMemory) : IndexFile where
  secondSchema := m.retentionSchema
  streams := m.current.items.map fun row => ⟨row.1, row.2, (m.history.lookup row.1).getD []⟩
  activeCognition := m.activeCognition.items.map Prod.snd
  retainedStates :=
    if m.retentionSchema then some (m.retained.items.map fun item => .ofItem item.2) else none

/-- A current, historical or retained state. -/
def referenced (m : StoreMemory) (stateId : Canon) : Bool :=
  m.current.values.contains stateId || m.history.values.any (·.contains stateId) ||
    m.retained.values.any fun item => item.stateId = stateId

/-- The closed records in the order in which they are evicted. -/
def closedRows (m : StoreMemory) (recordId : String) :
    Except WorldStateError (List ActiveRecord) := do
  let rows := m.activeCognition.values.filter fun row =>
    row.recordId ≠ recordId && row.status = "CLOSED"
  let timed ← rows.mapM fun row => do pure (← row.closedTime, row)
  pure <| (orderBy (fun a b : ℤ × ActiveRecord =>
    a.1 < b.1 || (a.1 = b.1 && a.2.recordId ≤ b.2.recordId)) timed).map Prod.snd

end StoreMemory

namespace WorldStateStore

/-- A store over an empty directory, or without one. -/
def fresh (limits : StoreLimits) (persistent : Bool) : WorldStateStore :=
  ⟨limits, persistent, .empty, ⟨none, ∅⟩⟩

/-- Keep a snapshot in memory. -/
def cache (s : WorldStateStore) (snapshot : MaterializedWorldSnapshot) : WorldStateStore :=
  { s with memory :=
    { s.memory with snapshots := s.memory.snapshots.insert snapshot.id snapshot } }

def get (stateId : Canon) : StoreCall (Option MaterializedWorldSnapshot) := fun s =>
  match s.memory.snapshots.lookup stateId with
  | some snapshot => (.ok (some snapshot), s)
  | none =>
    match (if s.persistent then s.disk.files.lookup stateId else none) with
    | none => (.ok none, s)
    | some snapshot =>
      match snapshot.validateSnapshot with
      | .error e => (.error e, s)
      | .ok () =>
        if snapshot.id ≠ stateId then (.error (.value "WORLD_STATE_PERSISTED_ID_MISMATCH"), s)
        else (.ok (some snapshot), s.cache snapshot)

def current (key : StreamKey) : StoreCall (Option MaterializedWorldSnapshot) := do
  match ← Call.read fun s => s.memory.current.lookup key with
  | none => pure none
  | some stateId => get stateId

def requireRetainedSnapshot (item : RetainedWorldState) : StoreCall Unit := do
  let snapshot ← get item.stateId
  Call.query fun _ => rejectIf (snapshot.all fun s => !item.pins s)
    (.value "WORLD_RETENTION_SNAPSHOT_UNAVAILABLE")

def persistIndex (faults : StoreFaults) (m : StoreMemory) (s : WorldStateStore) :
    Except WorldStateError WorldStateStore :=
  if s.persistent then
    if faults.index then .error .os
    else .ok { s with memory := m, disk := { s.disk with index := some m.indexPayload } }
  else .ok { s with memory := m }

def evictUnreferencedSnapshot (s : WorldStateStore) (stateId : Canon) : WorldStateStore :=
  if s.memory.referenced stateId then s
  else { s with
    memory := { s.memory with snapshots := s.memory.snapshots.erase stateId }
    disk := { s.disk with
      files := if s.persistent then s.disk.files.erase stateId else s.disk.files } }

/-- What `_publish_locked` asks of a snapshot and of the head that it follows. -/
def mayFollow (snapshot : MaterializedWorldSnapshot) :
    Option MaterializedWorldSnapshot → Except WorldStateError Unit
  | none => rejectIf (snapshot.state.worldSequence ≠ 0) (.value "WORLD_STATE_GENESIS_SEQUENCE")
  | some old => do
    let relation := compareWorldCuts snapshot.cut old.cut
    rejectIf (relation = .incompatible) (.value "WORLD_CUT_INCOMPATIBLE")
    rejectIf (relation = .rightDominates) (.value "WORLD_STATE_CURRENT_REGRESSION")
    rejectIf (relation = .disjoint) (.value "WORLD_CUT_CONTINUITY_UNKNOWN")
    rejectIf (snapshot.state.worldSequence ≠ old.state.worldSequence + 1)
      (.value "WORLD_STATE_SEQUENCE_GAP")

/-- The checks of `_publish_locked`. -/
def checkPublication (snapshot : MaterializedWorldSnapshot) : StoreCall Unit := do
  Call.query fun _ => rejectIf (snapshot.state.hasValidHash = false)
    (.value "WORLD_STATE_HASH_INVALID")
  Call.query fun _ => snapshot.validateSnapshot
  let old ← current snapshot.streamKey
  Call.query fun _ => mayFollow snapshot old

/-- The history of the stream with the new head, before it is cut to its window. -/
def extended (m : StoreMemory) (snapshot : MaterializedWorldSnapshot) : List Canon :=
  (m.history.lookup snapshot.streamKey).getD [] ++ [snapshot.id]

/-- The heads and the history that are proposed for the index. -/
def proposed (limits : StoreLimits) (m : StoreMemory) (snapshot : MaterializedWorldSnapshot) :
    StoreMemory :=
  { m with
    current := m.current.insert snapshot.streamKey snapshot.id
    history := m.history.insert snapshot.streamKey <|
      (extended m snapshot).drop ((extended m snapshot).length - limits.maxHistoryPerFrame) }

/-- The states that fall out of the window. -/
def evicted (limits : StoreLimits) (m : StoreMemory) (snapshot : MaterializedWorldSnapshot) :
    List Canon :=
  ((extended m snapshot).take ((extended m snapshot).length - limits.maxHistoryPerFrame)).filter
    (· ≠ snapshot.id)

/-- The in-memory heads move once both files are replaced. -/
def advance (snapshot : MaterializedWorldSnapshot) (s : WorldStateStore) : WorldStateStore :=
  (evicted s.limits s.memory snapshot).foldl evictUnreferencedSnapshot
    (cache { s with memory := proposed s.limits s.memory snapshot } snapshot)

/-- The replacements of `_publish_locked`: the snapshot first, then the index. -/
def commitPublication (faults : StoreFaults) (snapshot : MaterializedWorldSnapshot) :
    StoreCall Unit := fun s =>
  if s.persistent then
    if faults.snapshot then (.error .os, s)
    else
      let files := s.disk.files.insert snapshot.id snapshot
      if faults.index then
        (.error .os, { s with disk := { s.disk with files := files.erase snapshot.id } })
      else
        (.ok (), advance snapshot { s with disk :=
          ⟨some (proposed s.limits s.memory snapshot).indexPayload, files⟩ })
  else (.ok (), advance snapshot s)

def publish (faults : StoreFaults) (snapshot : MaterializedWorldSnapshot) :
    StoreCall MaterializedWorldSnapshot := do
  checkPublication snapshot
  commitPublication faults snapshot
  pure snapshot

/-- The part of `retain_state` behind the check of the snapshot. -/
def enterRetained (faults : StoreFaults) (item : RetainedWorldState) : StoreCall Unit := fun s =>
  match s.memory.retained.lookup item.ownerId with
  | some prior => (rejectIf (prior ≠ item) (.value "WORLD_RETENTION_OWNER_REBOUND"), s)
  | none =>
    if s.limits.maxRetainedStates ≤ s.memory.retained.size then
      (.error (.value "WORLD_RETENTION_FULL"), s)
    else
      let m := { s.memory with
        retained := s.memory.retained.insert item.ownerId item, retentionSchema := true }
      match s.persistIndex faults m with
      | .ok s' => (.ok (), s')
      | .error e => (.error e, { s with memory := { m with
          retained := m.retained.erase item.ownerId
          retentionSchema := s.memory.retentionSchema } })

def retainState (faults : StoreFaults) (item : RetainedWorldState) : StoreCall Unit := do
  requireRetainedSnapshot item
  enterRetained faults item

def releaseRetainedState (faults : StoreFaults) (expected : RetainedWorldState) : StoreCall Bool :=
  fun s =>
    match s.memory.retained.lookup expected.ownerId with
    | none => (.ok false, s)
    | some prior =>
      if prior ≠ expected then (.error (.value "WORLD_RETENTION_RELEASE_MISMATCH"), s)
      else
        let m := { s.memory with retained := s.memory.retained.erase expected.ownerId }
        match s.persistIndex faults m with
        | .ok s' => (.ok true, s'.evictUnreferencedSnapshot expected.stateId)
        | .error e => (.error e, { s with memory := { m with
            retained := m.retained.insert expected.ownerId prior } })

/-- The record that makes the new one a repetition, or no repetition. -/
def repeatedRecord (candidate : ActiveRecord) :
    Option ActiveRecord → Except WorldStateError (Option ActiveRecord)
  | none => pure none
  | some previous => do
    if (← candidate.revisionNumber) ≤ (← previous.revisionNumber) then
      rejectIf (candidate.recordSha256 ≠ previous.recordSha256)
        (.value "WORLD_ACTIVE_COGNITION_REVISION_REGRESSION")
      pure (some previous)
    else pure none

/-- Take the new record out again. -/
def withoutRecord (candidate : ActiveRecord) (previous : Option ActiveRecord) (m : StoreMemory) :
    StoreMemory :=
  { m with activeCognition :=
      match previous with
      | none => m.activeCognition.erase candidate.recordId
      | some previous => m.activeCognition.insert candidate.recordId previous }

/-- Take the evicted records out. -/
def withoutRecords (victims : List ActiveRecord) (m : StoreMemory) : StoreMemory where
  snapshots := m.snapshots
  current := m.current
  history := m.history
  activeCognition := victims.foldl (fun d row => d.erase row.recordId) m.activeCognition
  retained := m.retained
  retentionSchema := m.retentionSchema

def persistRecord (faults : StoreFaults) (candidate : ActiveRecord) (m : StoreMemory)
    (victims : List ActiveRecord) : StoreCall ActiveRecord := fun s =>
  match s.persistIndex faults m with
  | .ok s' => (.ok candidate, s')
  | .error e =>
    let undone := withoutRecord candidate (s.memory.activeCognition.lookup candidate.recordId) m
    (.error e, { s with memory := { undone with
      activeCognition := victims.foldl (fun d row => d.insert row.recordId row)
        undone.activeCognition } })

/-- The part of `put_active_cognition_record` that enters a new record. A closed record without a
readable time stops it while the new record is already in memory. -/
def enterRecord (faults : StoreFaults) (candidate : ActiveRecord) :
    StoreCall ActiveRecord := fun s =>
  let previous := s.memory.activeCognition.lookup candidate.recordId
  let m := { s.memory with
    activeCognition := s.memory.activeCognition.insert candidate.recordId candidate }
  if m.activeCognition.size ≤ s.limits.maxActiveCognitionRecords then
    (persistRecord faults candidate m []).on s
  else
    match m.closedRows candidate.recordId with
    | .error e => (.error e, { s with memory := m })
    | .ok closed =>
      let victims := closed.take (m.activeCognition.size - s.limits.maxActiveCognitionRecords)
      let m' := withoutRecords victims m
      if s.limits.maxActiveCognitionRecords < m'.activeCognition.size then
        (.error (.value "WORLD_ACTIVE_COGNITION_HISTORY_FULL"),
          { s with memory := withoutRecord candidate previous m' })
      else (persistRecord faults candidate m' victims).on s

def putActiveCognitionRecord (faults : StoreFaults) (record : ActiveRecord) :
    StoreCall ActiveRecord := do
  Call.query fun _ => rejectIf (record.recordId = "")
    (.value "WORLD_ACTIVE_COGNITION_RECORD_ID_REQUIRED")
  Call.query fun _ => rejectIf (record.hasFloat = true) .conversion
  match ← Call.query fun s => repeatedRecord record.withHash
      (s.memory.activeCognition.lookup record.recordId) with
  | some previous => pure previous
  | none => enterRecord faults record.withHash

def loadRetainedRow (d : Dict String RetainedWorldState) (row : RetainedRow) :
    Except WorldStateError (Dict String RetainedWorldState) := do
  let item ← row.load
  rejectIf (d.lookup item.ownerId).isSome (.value "WORLD_RETENTION_DUPLICATE_OWNER")
  pure (d.insert item.ownerId item)

def loadRetained (limits : StoreLimits) (index : IndexFile) :
    Except WorldStateError (Dict String RetainedWorldState) :=
  if index.secondSchema then do
    let rows ← required index.retainedStates (.value "WORLD_RETENTION_LIMIT_EXCEEDED")
    rejectIf (limits.maxRetainedStates < rows.length) (.value "WORLD_RETENTION_LIMIT_EXCEEDED")
    rows.foldlM loadRetainedRow ∅
  else do
    rejectIf index.retainedStates.isSome (.value "WORLD_RETENTION_SCHEMA_INVALID")
    pure ∅

/-- Enter a record of the index. -/
def loadRecordRow (d : Dict String ActiveRecord) (row : ActiveRecord) :
    Except WorldStateError (Dict String ActiveRecord) := do
  rejectIf (row.recordId = "" ∨ row.recordSha256 ≠ row.computedHash)
    (.value "WORLD_ACTIVE_COGNITION_RECORD_HASH_INVALID")
  pure (d.insert row.recordId row)

def loadRecords (limits : StoreLimits) (index : IndexFile) :
    Except WorldStateError (Dict String ActiveRecord) := do
  let d ← index.activeCognition.foldlM loadRecordRow ∅
  rejectIf (limits.maxActiveCognitionRecords < Dict.size d)
    (.value "WORLD_ACTIVE_COGNITION_HISTORY_LIMIT_EXCEEDED")
  pure d

/-- `_load_index_if_present`, before the retained snapshots are required. -/
def loadIndex (limits : StoreLimits) (index : IndexFile) : Except WorldStateError StoreMemory := do
  let retained ← loadRetained limits index
  let active ← loadRecords limits index
  pure
    { snapshots := ∅
      current := .ofItems (index.streams.map fun row => (row.key, row.current))
      history := .ofItems (index.streams.map fun row => (row.key, row.history))
      activeCognition := active
      retained := retained
      retentionSchema := index.secondSchema }

/-- The constructor over a directory. -/
def openStore (limits : StoreLimits) (disk : StoreDisk) : Except WorldStateError WorldStateStore :=
  match disk.index with
  | none => .ok ⟨limits, true, .empty, disk⟩
  | some index =>
    match loadIndex limits index with
    | .error e => .error e
    | .ok m =>
      let opened := (m.retained.values.forM requireRetainedSnapshot : StoreCall PUnit).on
        ⟨limits, true, m, disk⟩
      match opened.1 with
      | .error e => .error e
      | .ok _ => .ok opened.2

inductive Op where
  | publish (faults : StoreFaults) (snapshot : MaterializedWorldSnapshot)
  | retainState (faults : StoreFaults) (item : RetainedWorldState)
  | releaseRetainedState (faults : StoreFaults) (expected : RetainedWorldState)
  | putActiveCognitionRecord (faults : StoreFaults) (record : ActiveRecord)
  | get (stateId : Canon)
  | reopen

inductive Reply where
  | published (snapshot : MaterializedWorldSnapshot)
  | retained
  | released (done : Bool)
  | recorded (record : ActiveRecord)
  | found (snapshot : Option MaterializedWorldSnapshot)
  | reopened

/-- Open the store again. A store without a directory has nothing to open. -/
def reopen : StoreCall Unit := fun s =>
  if s.persistent then
    match openStore s.limits s.disk with
    | .ok s' => (.ok (), s')
    | .error e => (.error e, s)
  else (.ok (), s)

def Op.call : Op → StoreCall Reply
  | .publish faults snapshot => .published <$> WorldStateStore.publish faults snapshot
  | .retainState faults item => (fun _ => .retained) <$> WorldStateStore.retainState faults item
  | .releaseRetainedState faults expected =>
    .released <$> WorldStateStore.releaseRetainedState faults expected
  | .putActiveCognitionRecord faults record =>
    .recorded <$> WorldStateStore.putActiveCognitionRecord faults record
  | .get stateId => .found <$> WorldStateStore.get stateId
  | .reopen => (fun _ => .reopened) <$> WorldStateStore.reopen

def machine : Machine WorldStateStore Op (Except WorldStateError Reply) where
  step s op := let r := op.call.on s; (r.2, r.1)

end WorldStateStore

end Tiangong
