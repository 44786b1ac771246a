import Tiangong.Calls
import Tiangong.JsonObjects

/-!
# Replay of the journal: memories, tasks and executions

What the events of the journal make of the state of a life. The state is one JSON object, changed in
place: what an event has written before it stops the replay stays written.
-/
namespace Tiangong

open PlatformJson Call

/-- Why a replay stops: `JournalReplayError` with its code, or another exception. -/
inductive ReplayFault where
  | replay (code : String)
  | raised (exception : String)
  deriving DecidableEq

/-- What the replay asks the interpreter and the disk: the milliseconds of a time stamp (zero for
one that cannot be read), the integer of a text, digests of texts, and artifacts in bundles. -/
structure ReplayRuntime extends JsonRuntime where
  isoMs : PyStr → ℤ
  intOfText : PyStr → Option ℤ
  digest : PyStr → PyStr
  bundleArtifact : PyStr → Option JsonFields

abbrev ReplayCall := Call ReplayFault JsonFields

namespace JournalReplay

variable (runtime : ReplayRuntime)

/-- `str(fields.get(key) or "")`. -/
def text (fields : JsonFields) (key : String) : PyStr :=
  (get fields (py key)).strOr runtime.toJsonRuntime

/-- `str(fields.get(key) or fallback)`. -/
def textOr (fields : JsonFields) (key : String) (fallback : PyStr) : PyStr :=
  if (get fields (py key)).truthy runtime.toJsonRuntime then
    (get fields (py key)).str runtime.toJsonRuntime
  else fallback

def eventIso (event : JsonFields) : PyStr := text runtime event "created_at"

def eventMs (event : JsonFields) : ℤ := runtime.isoMs (eventIso runtime event)

/-- `_same`: equal fingerprints, which are digests of the canonical texts. -/
def same (a b : PlatformJson) : Bool :=
  a.dumps runtime.toJsonRuntime = b.dumps runtime.toJsonRuntime

/-- `a == b`. -/
def equal (a b : PlatformJson) : Bool := a.equal runtime.toJsonRuntime b

def requireMapping (value : PlatformJson) (code : String) : Except ReplayFault JsonFields :=
  match value with
  | .object fields => .ok fields
  | _ => .error (.replay code)

/-- `[A-Za-z0-9]`. -/
def isAlnum (c : CodePoint) : Bool := c.isDigit || c.isUpperLetter || c.isLowerLetter

/-- `[A-Za-z0-9][A-Za-z0-9._:@-]{0,159}`. -/
def isIdentifier (s : PyStr) : Bool :=
  match s with
  | [] => false
  | c :: cs => isAlnum c && cs.all (fun c => isAlnum c || c ∈ py "._:@-") && cs.length ≤ 159

/-- `[0-9a-f]{64}`. -/
def isSha256 (s : PyStr) : Bool := s.length = 64 && s.all fun c => c ∈ py "0123456789abcdef"

/-- The object under a key, as far as there is one. -/
def dictOf (fields : JsonFields) (key : PyStr) : JsonFields :=
  match fields.lookup key with
  | some (.object members) => members
  | _ => []

/-- `scope[key]`, of which a method of dictionaries is used. -/
def scopeDict (key : String) : ReplayCall JsonFields :=
  query fun scope =>
    match scope.lookup (py key) with
    | none => .error (.raised "KeyError")
    | some (.object fields) => .ok fields
    | some _ => .error (.raised "AttributeError")

/-- `scope.setdefault(key, {})`, of which a method of dictionaries is used. -/
def defaultDict (key : String) : ReplayCall JsonFields := do
  Call.modify fun scope => scope.default (py key) (.object [])
  scopeDict key

/-- `scope[key][id] = value`. -/
def putIn (key : String) (id : PyStr) (value : PlatformJson) : ReplayCall Unit :=
  Call.modify fun scope => scope.put (py key) (.object ((dictOf scope (py key)).put id value))

/-- Work on the row `scope[key][id]` in place. -/
def withinRow {α : Type} (key : String) (id : PyStr) (x : Call ReplayFault JsonFields α) :
    ReplayCall α :=
  within (fun scope => dictOf (dictOf scope (py key)) id)
    (fun scope row =>
      scope.put (py key) (.object ((dictOf scope (py key)).put id (.object row)))) x

/-- The two merges: the immutable keys of a row are added or have to agree. -/
def mergeProjection (skipped : PyStr → Bool) (code : String) :
    JsonFields → Call ReplayFault JsonFields Bool
  | [] => pure false
  | (key, value) :: rest =>
    if skipped key then mergeProjection skipped code rest
    else do
      let existing ← Call.read id
      match existing.lookup key with
      | none => do
        Call.modify fun row => row.put key value
        let _ ← mergeProjection skipped code rest
        pure true
      | some old => do
        query fun _ => rejectIf (same runtime old value = false) (.replay code)
        mergeProjection skipped code rest

def mergeAssertedMemoryProjection (asserted : JsonFields) : Call ReplayFault JsonFields Bool := do
  let existing ← read id
  let deleted := equal runtime (get existing (py "status")) (.text (py "deleted"))
  mergeProjection runtime
    (fun key => key ∈ [py "status", py "updated_at", py "lifecycle"] ∨
      (deleted = true ∧ key = py "content"))
    "life.projection.memory_conflict" asserted

def assertMemory (memoryId : PyStr) (record : JsonFields) : ReplayCall Bool := do
  let memories ← scopeDict "memories"
  match get memories memoryId with
  | .null => do
    putIn "memories" memoryId (.object record)
    pure true
  | .object _ => withinRow "memories" memoryId (mergeAssertedMemoryProjection runtime record)
  | _ => query fun _ => .error (.replay "life.projection.memory_conflict")

/-- `scope["memories"].get(memory_id)`, which has to be a row. -/
def memoryTarget (memoryId : PyStr) : ReplayCall JsonFields := do
  let memories ← scopeDict "memories"
  query fun _ =>
    requireMapping (get memories memoryId) "life.projection.memory_target_missing"

/-- `row["status"] = status` and `row["updated_at"] = updated_at`. -/
def markStatus (status updatedAt : PyStr) : Call ReplayFault JsonFields Unit := do
  Call.modify fun row => row.put (py "status") (.text status)
  Call.modify fun row => row.put (py "updated_at") (.text updatedAt)

/-- The memory that a correction is about is marked. -/
def correctTarget (payload record event : JsonFields) : ReplayCall Bool :=
  if text runtime event "event_type" = py "memory.corrected" then do
    let targetMemoryId := text runtime payload "target_memory_id"
    let target ← memoryTarget targetMemoryId
    if equal runtime (get target (py "status")) (.text (py "corrected")) then
      pure false
    else do
      withinRow "memories" targetMemoryId (markStatus (py "corrected")
        (textOr runtime payload "updated_at"
          (textOr runtime record "created_at" (eventIso runtime event))))
      pure true
  else pure false

def reduceMemoryAsserted (lifeId : PyStr) (payload event : JsonFields) : ReplayCall Bool := do
  let assertion ← query fun _ => requireMapping (get payload (py "assertion"))
    "life.projection.memory_event_invalid"
  let memoryId := text runtime assertion "memory_id"
  query fun _ =>
    rejectIf (isIdentifier memoryId = false) (.replay "life.projection.memory_id_invalid")
  let record := assertion.default (py "life_id") (.text lifeId)
  let changed ← assertMemory runtime memoryId record
  let corrected ← correctTarget runtime payload record event
  pure (changed || corrected)

def reduceMemoryStatus (payload event : JsonFields) : ReplayCall Bool := do
  let memoryId := text runtime payload "memory_id"
  let row ← memoryTarget memoryId
  let status := text runtime payload "status"
  if equal runtime (get row (py "status")) (.text status) ∧
      equal runtime (get row (py "updated_at"))
        (get payload (py "updated_at")) then pure false
  else do
    withinRow "memories" memoryId
      (markStatus status (textOr runtime payload "updated_at" (eventIso runtime event)))
    pure true

/-- `{"tombstone": True}`. -/
def tombstone : PlatformJson := .object [(py "tombstone", .flag true)]

/-- The row of a deleted memory. -/
def markDeleted (updatedAt : PyStr) : Call ReplayFault JsonFields Unit := do
  Call.modify fun row => row.put (py "status") (.text (py "deleted"))
  Call.modify fun row => row.put (py "content") tombstone
  Call.modify fun row => row.put (py "updated_at") (.text updatedAt)

def reduceMemoryDeleted (payload event : JsonFields) : ReplayCall Bool := do
  let memoryId := text runtime payload "memory_id"
  let row ← memoryTarget memoryId
  if equal runtime (get row (py "status")) (.text (py "deleted")) ∧
      equal runtime (get row (py "content")) tombstone then pure false
  else do
    withinRow "memories" memoryId
      (markDeleted (textOr runtime payload "updated_at" (eventIso runtime event)))
    pure true

/-- The first item that is an object with this value under a key. -/
def findItem (items : List PlatformJson) (key : String) (value : PyStr) : Option PlatformJson :=
  items.find? fun item =>
    match item with
    | .object fields => equal runtime (get fields (py key)) (.text value)
    | _ => false

/-- `scope["memory_relations"]`, to which an item is appended. -/
def relationList : ReplayCall (List PlatformJson) :=
  query fun scope =>
    match scope.lookup (py "memory_relations") with
    | none => .error (.raised "KeyError")
    | some (.array items) => .ok items
    | some (.object _) | some (.text _) => .error (.raised "AttributeError")
    | some _ => .error (.raised "TypeError")

def reduceMemoryRelation (payload : JsonFields) : ReplayCall Bool := do
  let record ← query fun _ => requireMapping (get payload (py "relation"))
    "life.projection.memory_relation_invalid"
  let relationId := text runtime record "relation_id"
  query fun _ =>
    rejectIf (isIdentifier relationId = false) (.replay "life.projection.memory_relation_invalid")
  let relations ← relationList
  match findItem runtime relations "relation_id" relationId with
  | none => do
    Call.modify fun scope =>
      scope.put (py "memory_relations") (.array (relations ++ [.object record]))
    pure true
  | some found => do
    query fun _ => rejectIf (same runtime found (.object record) = false)
      (.replay "life.projection.memory_relation_conflict")
    pure false

/-- One candidate of `_reduce_memory_candidates`. -/
def proposeCandidate (raw : PlatformJson) : ReplayCall Bool := do
  let record ← query fun _ => requireMapping raw "life.projection.memory_candidate_invalid"
  let candidateId := text runtime record "candidate_id"
  query fun _ => rejectIf (isIdentifier candidateId = false)
    (.replay "life.projection.memory_candidate_invalid")
  let queue ← scopeDict "memory_candidates"
  match get queue candidateId with
  | .null => do
    putIn "memory_candidates" candidateId (.object record)
    pure true
  | found => do
    query fun _ => rejectIf (same runtime found (.object record) = false)
      (.replay "life.projection.memory_candidate_conflict")
    pure false

def proposeCandidates : List PlatformJson → ReplayCall Bool
  | [] => pure false
  | raw :: rest => do
    let changed ← proposeCandidate runtime raw
    let more ← proposeCandidates rest
    pure (changed || more)

def requireList (value : PlatformJson) (code : String) : Except ReplayFault (List PlatformJson) :=
  match value with
  | .array items => .ok items
  | _ => .error (.replay code)

/-- `scope.setdefault(key, {})`, which has to be a dictionary. -/
def checkedDict (key code : String) : ReplayCall JsonFields := do
  Call.modify fun scope => scope.default (py key) (.object [])
  Call.query fun scope => requireMapping (get scope (py key)) code

def reduceMemoryCandidates (payload : JsonFields) : ReplayCall Bool := do
  let candidates ← query fun _ => requireList (get payload (py "candidates"))
    "life.projection.memory_candidate_invalid"
  let _ ← checkedDict "memory_candidates" "life.projection.memory_candidate_invalid"
  proposeCandidates runtime candidates

def defaultAutonomyState : JsonFields :=
  [(py "schema", .text (py "tiangong.life.autonomy-task-engine.v1")), (py "enabled", .flag true),
    (py "task_generation_enabled", .flag true), (py "generation_count", .int 0),
    (py "task_sequence", .int 0), (py "last_tick_at_ms", .int 0),
    (py "last_tick_reason", .text []), (py "last_error_code", .text []), (py "tasks", .object []),
    (py "pending_limit", .int 64), (py "generated_total", .int 0), (py "completed_total", .int 0),
    (py "failed_total", .int 0)]

/-- The keys that are missing are set to their defaults. -/
def withDefaults (value : JsonFields) : JsonFields :=
  defaultAutonomyState.foldl (fun value field => value.default field.1 field.2) value

/-- A counter is no Boolean and not negative. -/
def isCounter : PlatformJson → Bool
  | .int value => 0 ≤ value
  | _ => false

/-- The checks of `normalize_autonomy_state`. -/
def checkAutonomyState (value : JsonFields) : Except ReplayFault Unit := do
  match get value (py "tasks") with
  | .object _ => pure ()
  | _ => .error (.raised "ValueError")
  match get value (py "pending_limit") with
  | .int limit => rejectIf (limit < 0 ∨ 1024 < limit) (.raised "ValueError")
  | _ => .error (.raised "ValueError")
  rejectIf (([py "generation_count", py "task_sequence", py "generated_total",
    py "completed_total", py "failed_total", py "last_tick_at_ms"].all fun key =>
      isCounter (get value key)) = false) (.raised "ValueError")

/-- `normalize_autonomy_state(scope.get("autonomy"))`, which works in place on a dictionary. -/
def normalizeAutonomy : ReplayCall JsonFields := do
  let autonomy ← Call.read fun scope => get scope (py "autonomy")
  match autonomy with
  | .object value => do
    Call.modify fun scope => scope.put (py "autonomy") (.object (withDefaults value))
    Call.query fun _ => checkAutonomyState (withDefaults value)
    pure (withDefaults value)
  | _ => pure defaultAutonomyState

/-- The state with one task set. -/
def putTask (autonomy : JsonFields) (taskId : PyStr) (task : JsonFields) : JsonFields :=
  autonomy.put (py "tasks") (.object ((dictOf autonomy (py "tasks")).put taskId (.object task)))

/-- Work on a task in place. -/
def withinTask {α : Type} (taskId : PyStr) (x : Call ReplayFault JsonFields α) : ReplayCall α :=
  within (fun scope => dictOf (dictOf (dictOf scope (py "autonomy")) (py "tasks")) taskId)
    (fun scope task => scope.put (py "autonomy")
      (.object (putTask (dictOf scope (py "autonomy")) taskId task))) x

def mergeGeneratedTaskProjection (generated : JsonFields) : Call ReplayFault JsonFields Bool :=
  mergeProjection runtime
    (fun key => key ∈ [py "status", py "updated_at_ms", py "attempt_count", py "result",
      py "task_sha256"])
    "life.projection.autonomy_task_conflict" generated

def reduceTaskGenerated (payload : JsonFields) : ReplayCall Bool := do
  let record ← query fun _ => requireMapping (get payload (py "task"))
    "life.projection.autonomy_task_invalid"
  let taskId := text runtime record "task_id"
  query fun _ =>
    rejectIf (isIdentifier taskId = false) (.replay "life.projection.autonomy_task_invalid")
  let autonomy ← normalizeAutonomy
  match get (dictOf autonomy (py "tasks")) taskId with
  | .null => do
    Call.modify fun scope => scope.put (py "autonomy") (.object (putTask autonomy taskId record))
    pure true
  | .object _ => withinTask taskId (mergeGeneratedTaskProjection runtime record)
  | _ => query fun _ => .error (.replay "life.projection.autonomy_task_conflict")

def reduceTaskStatus (payload : JsonFields) : ReplayCall Bool := do
  let taskId := text runtime payload "task_id"
  let autonomy ← normalizeAutonomy
  let task ← query fun _ => requireMapping
    (get (dictOf autonomy (py "tasks")) taskId) "life.projection.autonomy_task_missing"
  let projected ← query fun _ => requireMapping (get payload (py "task"))
    "life.projection.autonomy_task_invalid"
  if same runtime (.object task) (.object projected) then pure false
  else do
    Call.modify fun scope => scope.put (py "autonomy")
      (.object (putTask (dictOf scope (py "autonomy")) taskId projected))
    pure true

def reduceExecutionCommitted (payload : JsonFields) : ReplayCall Bool := do
  let requestId := text runtime payload "request_id"
  let commitSha256 := text runtime payload "commit_sha256"
  query fun _ => rejectIf (isIdentifier requestId = false ∨ isSha256 commitSha256 = false)
    (.replay "life.projection.execution_event_invalid")
  let executions ← scopeDict "executions"
  match get executions requestId with
  | .null => do
    putIn "executions" requestId (.object payload)
    pure true
  | .object existing => do
    query fun _ => rejectIf
      (equal runtime (get existing (py "commit_sha256")) (.text commitSha256) = false)
      (.replay "life.projection.execution_conflict")
    pure false
  | _ => query fun _ => .error (.replay "life.projection.execution_conflict")

end JournalReplay

end Tiangong
