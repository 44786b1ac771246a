import Tiangong.JournalReplay

/-!
# The engine of autonomous tasks

Candidates become tasks with numbers, tasks move between states, and old tasks that were never tried
are cancelled. A row changes in place before its digest is made: a call that cannot make the digest
raises behind the change.
-/
namespace Tiangong

/-- `ALLOWED_TASK_STATES`. -/
inductive TaskStatus where
  | pending | running | blocked | awaitingUser | completed | failed | cancelled | rejected
  deriving DecidableEq, Repr

namespace TaskStatus

def text : TaskStatus → PyStr
  | pending => py "pending"
  | running => py "running"
  | blocked => py "blocked"
  | awaitingUser => py "awaiting_user"
  | completed => py "completed"
  | failed => py "failed"
  | cancelled => py "cancelled"
  | rejected => py "rejected"

def all : List TaskStatus :=
  [pending, running, blocked, awaitingUser, completed, failed, cancelled, rejected]

def ofText (s : PyStr) : Option TaskStatus := all.find? fun status => status.text = s

/-- `TERMINAL_TASK_STATES`. -/
def isTerminal (status : TaskStatus) : Bool := status ∈ [completed, failed, cancelled, rejected]

/-- `ACTIVE_TASK_STATES`. -/
def isActive (status : TaskStatus) : Bool := status ∈ [pending, running, blocked, awaitingUser]

/-- `allowed`. -/
def next : TaskStatus → List TaskStatus
  | pending => [running, blocked, awaitingUser, completed, cancelled, failed, rejected]
  | running => [blocked, awaitingUser, completed, cancelled, failed, rejected]
  | blocked => [pending, running, awaitingUser, cancelled, failed, rejected]
  | awaitingUser => [pending, running, cancelled, rejected]
  | _ => []

theorem text_injective : Function.Injective text := by
  intro status status' h
  cases status <;> cases status' <;> first | rfl | exact absurd h (by decide)

theorem isActive_eq (status : TaskStatus) : status.isActive = !status.isTerminal := by
  cases status <;> rfl

end TaskStatus

def taskKeys : List PyStr :=
  [py "schema", py "task_id", py "life_id", py "status", py "generation_reason", py "sequence",
    py "created_at_ms", py "updated_at_ms", py "attempt_count", py "task_sha256", py "result"]

/-- A candidate, as `_candidate` and `derive_task_candidates` make them: it has a fingerprint, and
none of the keys that the engine gives. -/
structure TaskCandidate where
  fields : JsonFields
  fingerprint : PyStr
  hasFingerprint : fields.lookup (py "fingerprint") = some (.text fingerprint)
  nonempty : fingerprint ≠ []
  foreign : ∀ field ∈ fields, field.1 ∉ taskKeys
  distinct : (fields.map Prod.fst).Nodup

/-- A task. -/
structure AutonomyTask where
  taskId : PyStr
  lifeId : PyStr
  candidate : TaskCandidate
  status : TaskStatus
  generationReason : PyStr
  sequence : ℕ
  createdAtMs : ℕ
  updatedAtMs : ℕ
  attemptCount : ℕ
  taskSha256 : PyStr
  result : Option JsonFields

/-- Why a call raises. -/
inductive TaskFault where
  | value (message : String)
  | key
  /-- A value has no canonical form, so there is no digest of it. -/
  | notCanonical
  deriving DecidableEq

/-- The interpreter, with the hours that it makes of milliseconds by dividing floats. -/
structure TaskRuntime extends ReplayRuntime where
  ageHours : ℤ → ℤ

def engineVersion : PyStr := py "tiangong.life.autonomy-task-engine.v1"

def catalogSource : PyStr := py "life_activity_catalog"

def staleReaped : PyStr := py "life.autonomy.stale_pending_reaped"

namespace TaskCandidate

variable (runtime : TaskRuntime)

/-- The candidate comes from the catalog of activities. -/
def isCatalog (c : TaskCandidate) : Bool :=
  JournalReplay.text runtime.toReplayRuntime c.fields "source" = catalogSource

def requiresUser (c : TaskCandidate) : Bool :=
  (PlatformJson.get c.fields (py "requires_user")).truthy runtime.toJsonRuntime

end TaskCandidate

namespace AutonomyTask

/-- The row without its digest and its result. -/
def heading (t : AutonomyTask) : JsonFields :=
  [(py "schema", .text engineVersion), (py "task_id", .text t.taskId),
    (py "life_id", .text t.lifeId)] ++ t.candidate.fields ++
  [(py "status", .text t.status.text), (py "generation_reason", .text t.generationReason),
    (py "sequence", .int t.sequence), (py "created_at_ms", .int t.createdAtMs),
    (py "updated_at_ms", .int t.updatedAtMs), (py "attempt_count", .int t.attemptCount)]

def resultField (t : AutonomyTask) : JsonFields :=
  match t.result with
  | none => []
  | some result => [(py "result", .object result)]

/-- What the digest is of. -/
def unsealed (t : AutonomyTask) : JsonFields := t.heading ++ t.resultField

def row (t : AutonomyTask) : JsonFields :=
  t.heading ++ (py "task_sha256", .text t.taskSha256) :: t.resultField

variable (runtime : TaskRuntime)

def canonicalSha256 (v : PlatformJson) : Except TaskFault PyStr :=
  match v.canonicalText with
  | some text => .ok (runtime.digest text)
  | none => .error .notCanonical

/-- What the number of a task is the digest of. -/
def identity (lifeId fingerprint : PyStr) (sequence : ℕ) : PlatformJson :=
  .object [(py "domain", .text (py "tiangong.life.autonomy-task-id.v1")),
    (py "life_id", .text lifeId), (py "fingerprint", .text fingerprint),
    (py "sequence", .int sequence)]

/-- `task["task_sha256"] = canonical_sha256(...)`. -/
def withDigest (t : AutonomyTask) : Except TaskFault AutonomyTask := do
  let sha ← canonicalSha256 runtime (.object t.unsealed)
  pure { t with taskSha256 := sha }

def make (lifeId reason : PyStr) (nowMs : ℕ) (c : TaskCandidate) (sequence : ℕ) :
    Except TaskFault AutonomyTask := do
  let sha ← canonicalSha256 runtime (identity lifeId c.fingerprint sequence)
  withDigest runtime
    { taskId := py "lat_" ++ sha
      lifeId := lifeId
      candidate := c
      status := if c.requiresUser runtime then .awaitingUser else .pending
      generationReason := reason
      sequence := sequence
      createdAtMs := nowMs
      updatedAtMs := nowMs
      attemptCount := 0
      taskSha256 := []
      result := none }

/-- `str(result.get("reason_code") or "")`. -/
def reasonCode (t : AutonomyTask) : PyStr :=
  match t.result with
  | some result => JournalReplay.text runtime.toReplayRuntime result "reason_code"
  | none => []

/-- The task ended without having been tried, because it was old. -/
def isReaped (t : AutonomyTask) : Bool :=
  t.status.isTerminal && t.reasonCode runtime = staleReaped && t.attemptCount = 0

/-- The task counts towards the limit for tasks outside the catalog. -/
def isCognition (t : AutonomyTask) : Bool := t.status.isActive && !t.candidate.isCatalog runtime

/-- The row in its new state, with its old digest. -/
def moved (t : AutonomyTask) (status : TaskStatus) (nowMs : ℤ) (result : Option JsonFields) :
    AutonomyTask :=
  { t with
    status := status
    updatedAtMs := max (if t.updatedAtMs = 0 then t.createdAtMs else t.updatedAtMs) nowMs.toNat
    attemptCount := if status = .running ∧ t.status ≠ .running then t.attemptCount + 1
      else t.attemptCount
    result := result.orElse fun _ => t.result }

end AutonomyTask

/-- The state of the engine. -/
structure AutonomyState where
  enabled : Bool
  taskGenerationEnabled : Bool
  generationCount : ℕ
  taskSequence : ℕ
  lastTickAtMs : ℕ
  lastTickReason : PyStr
  lastErrorCode : PyStr
  tasks : List AutonomyTask
  pendingLimit : ℕ
  generatedTotal : ℕ
  completedTotal : ℕ
  failedTotal : ℕ
  inBounds : pendingLimit ≤ 1024

/-- `tasks[task_id] = task`. -/
def setTask (t : AutonomyTask) : List AutonomyTask → List AutonomyTask
  | [] => [t]
  | t' :: ts => if t'.taskId = t.taskId then t :: ts else t' :: setTask t ts

/-- `str(reason or "scheduled")[:80]`. -/
def reasonText (reason : PyStr) : PyStr :=
  (if reason = [] then py "scheduled" else reason).take 80

def cognitionPendingLimit (raw : Option ℤ) : ℕ := (max 0 (min 1024 (raw.getD 16))).toNat

abbrev TaskCall := Call TaskFault AutonomyState

namespace AutonomyState

variable (runtime : TaskRuntime)

def find (s : AutonomyState) (taskId : PyStr) : Option AutonomyTask :=
  s.tasks.find? fun t => t.taskId = taskId

/-- `existing_fingerprints`: tasks that were never tried and ended because of their age let their
causes come back. -/
def existingFingerprints (s : AutonomyState) : List PyStr :=
  (s.tasks.filter fun t => !t.isReaped runtime).map fun t => t.candidate.fingerprint

def activeFingerprints (s : AutonomyState) : List PyStr :=
  (s.tasks.filter fun t => t.status.isActive).map fun t => t.candidate.fingerprint

def cognitionFingerprints (s : AutonomyState) : List PyStr :=
  (s.tasks.filter fun t => t.isCognition runtime).map fun t => t.candidate.fingerprint

/-- A task is entered under the next number. -/
def enter (t : AutonomyTask) (s : AutonomyState) : AutonomyState :=
  { s with
    tasks := setTask t s.tasks
    taskSequence := t.sequence
    generatedTotal := s.generatedTotal + 1 }

/-- The loop over the candidates. -/
def materializeEach (lifeId reason : PyStr) (nowMs : ℕ) :
    List PyStr → ℕ → ℕ → List TaskCandidate → TaskCall (List AutonomyTask)
  | _, _, _, [] => pure []
  | existing, total, cognition, c :: cs =>
    if total = 0 ∨ (c.isCatalog runtime = false ∧ cognition = 0) ∨ c.fingerprint ∈ existing then
      materializeEach lifeId reason nowMs existing total cognition cs
    else do
      let task ← Call.query fun s =>
        AutonomyTask.make runtime lifeId reason nowMs c (s.taskSequence + 1)
      Call.modify (enter task)
      let rest ← materializeEach lifeId reason nowMs (c.fingerprint :: existing) (total - 1)
        (if c.isCatalog runtime then cognition else cognition - 1) cs
      pure (task :: rest)

def tick (nowMs : ℕ) (reason : PyStr) (s : AutonomyState) : AutonomyState :=
  { s with
    generationCount := s.generationCount + 1
    lastTickAtMs := nowMs
    lastTickReason := reason
    lastErrorCode := [] }

def materializeTasks (candidates : List TaskCandidate) (lifeId reason : PyStr) (nowMs : ℤ)
    (cognitionLimit : ℕ) : TaskCall (List AutonomyTask) := do
  let s ← Call.read id
  if s.enabled = false ∨ s.taskGenerationEnabled = false then pure []
  else do
    let now := max s.lastTickAtMs nowMs.toNat
    let created ← materializeEach runtime lifeId (reasonText reason) now
      (s.existingFingerprints runtime) (s.pendingLimit - s.activeFingerprints.dedup.length)
      (cognitionLimit - (s.cognitionFingerprints runtime).dedup.length) candidates
    Call.modify (tick now (reasonText reason))
    pure created

def count (previous status : TaskStatus) (s : AutonomyState) : AutonomyState :=
  { s with
    completedTotal := if previous.isTerminal = false ∧ status = .completed then
      s.completedTotal + 1 else s.completedTotal
    failedTotal := if previous.isTerminal = false ∧ status = .failed then s.failedTotal + 1
      else s.failedTotal }

/-- `tasks[task_id] = task` for a task that is there. -/
def put (t : AutonomyTask) (s : AutonomyState) : AutonomyState :=
  { s with tasks := setTask t s.tasks }

def updateTaskStatus (taskId statusText : PyStr) (nowMs : ℤ) (result : Option JsonFields) :
    TaskCall AutonomyTask := do
  let status ← Call.query fun _ => required (TaskStatus.ofText statusText)
    (.value "autonomy task status is invalid")
  let task ← Call.query fun s => required (s.find taskId) .key
  Call.query fun _ => rejectIf (task.status.isTerminal = true ∧ status ≠ task.status)
    (.value "terminal autonomy task cannot transition")
  Call.query fun _ => rejectIf (task.status ≠ status ∧ status ∉ task.status.next)
    (.value "autonomy task transition is invalid")
  Call.modify (put (task.moved status nowMs result))
  let done ← Call.query fun _ => (task.moved status nowMs result).withDigest runtime
  Call.modify fun s => (s.put done).count task.status status
  pure done

/-- An old task that was never tried. -/
def isStale (t : AutonomyTask) (nowMs maxAgeMs : ℤ) : Bool :=
  t.status ∈ [.pending, .blocked] && t.attemptCount = 0 && t.createdAtMs ≠ 0 &&
    maxAgeMs ≤ nowMs - t.createdAtMs

/-- The loop over the tasks as they were at first. -/
def reapEach (nowMs maxAgeMs : ℤ) : List AutonomyTask → TaskCall (List AutonomyTask)
  | [] => pure []
  | t :: ts =>
    if isStale t nowMs maxAgeMs then do
      let reaped ← updateTaskStatus runtime t.taskId (py "cancelled") nowMs
        (some [(py "reason_code", .text staleReaped),
          (py "age_hours", .int (runtime.ageHours (nowMs - t.createdAtMs)))])
      let rest ← reapEach nowMs maxAgeMs ts
      pure (reaped :: rest)
    else reapEach nowMs maxAgeMs ts

def reapStalePendingTasks (nowMs maxAgeSeconds : ℤ) : TaskCall (List AutonomyTask) := do
  let s ← Call.read id
  reapEach runtime nowMs (maxAgeSeconds * 1000) s.tasks

/-- `default_autonomy_state`, with its switches and its limit. -/
def fresh (enabled taskGenerationEnabled : Bool) (pendingLimit : ℕ) (h : pendingLimit ≤ 1024) :
    AutonomyState where
  enabled := enabled
  taskGenerationEnabled := taskGenerationEnabled
  generationCount := 0
  taskSequence := 0
  lastTickAtMs := 0
  lastTickReason := []
  lastErrorCode := []
  tasks := []
  pendingLimit := pendingLimit
  generatedTotal := 0
  completedTotal := 0
  failedTotal := 0
  inBounds := h

end AutonomyState

end Tiangong
