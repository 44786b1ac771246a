import Tiangong.JournalReducers
import Tiangong.TaskRestores

/-!
# Tasks in the state of a life

The engine's state is one entry of the state of a life. On it the two reducers of tasks do what
restoring does on tasks.
-/
namespace Tiangong

open JournalReplay List Call JsonFields

/-- The rows under their numbers. -/
def tasksJson (ts : List AutonomyTask) : JsonFields := ts.map fun t => (t.taskId, .object t.row)

namespace AutonomyState

/-- The state as it is stored. -/
def toJson (s : AutonomyState) : JsonFields :=
  [(py "schema", .text engineVersion), (py "enabled", .flag s.enabled),
    (py "task_generation_enabled", .flag s.taskGenerationEnabled),
    (py "generation_count", .int s.generationCount), (py "task_sequence", .int s.taskSequence),
    (py "last_tick_at_ms", .int s.lastTickAtMs), (py "last_tick_reason", .text s.lastTickReason),
    (py "last_error_code", .text s.lastErrorCode), (py "tasks", .object (tasksJson s.tasks)),
    (py "pending_limit", .int s.pendingLimit), (py "generated_total", .int s.generatedTotal),
    (py "completed_total", .int s.completedTotal), (py "failed_total", .int s.failedTotal)]

def withTasks (s : AutonomyState) (ts : List AutonomyTask) : AutonomyState := { s with tasks := ts }

@[simp] theorem withTasks_tasks (s : AutonomyState) (ts : List AutonomyTask) :
    (s.withTasks ts).tasks = ts := rfl

lemma toJson_keys (s : AutonomyState) :
    s.toJson.map Prod.fst = defaultAutonomyState.map Prod.fst := rfl

lemma defaultKeys_nodup : (defaultAutonomyState.map Prod.fst).Nodup := by decide

/-- A key that is there is read under its name. -/
lemma lookup_toJson (s : AutonomyState) {key : PyStr} {v : PlatformJson}
    (h : (key, v) ∈ s.toJson) : s.toJson.lookup key = some v := by
  apply lookup_of_mem _ h
  rw [toJson_keys]
  exact defaultKeys_nodup

lemma lookup_tasks (s : AutonomyState) :
    s.toJson.lookup (py "tasks") = some (.object (tasksJson s.tasks)) :=
  s.lookup_toJson (by simp [toJson])

lemma dictOf_tasks (s : AutonomyState) : dictOf s.toJson (py "tasks") = tasksJson s.tasks := by
  rw [dictOf, lookup_tasks]

lemma withDefaults_toJson (s : AutonomyState) : withDefaults s.toJson = s.toJson := by
  have hdefault : ∀ field ∈ defaultAutonomyState, s.toJson.default field.1 field.2 = s.toJson := by
    intro field hfield
    have hkey : field.1 ∈ s.toJson.map Prod.fst := by
      rw [toJson_keys]
      exact mem_map_of_mem hfield
    obtain ⟨⟨key, v⟩, hmem, heq⟩ := mem_map.mp hkey
    dsimp only at heq
    subst heq
    rw [JsonFields.default, s.lookup_toJson hmem]
    rfl
  unfold withDefaults
  generalize defaultAutonomyState = defaults at hdefault
  induction defaults with
  | nil => rfl
  | cons field defaults ih =>
    rw [foldl_cons, hdefault field mem_cons_self]
    exact ih fun f hf => hdefault f (mem_cons_of_mem _ hf)

theorem get_toJson (s : AutonomyState) {key : PyStr} {v : PlatformJson}
    (h : (key, v) ∈ s.toJson) : PlatformJson.get s.toJson key = v := by
  rw [PlatformJson.get, s.lookup_toJson h, Option.getD_some]

lemma checkAutonomyState_toJson (s : AutonomyState) : checkAutonomyState s.toJson = .ok () := by
  have hlimit := s.inBounds
  have htasks : PlatformJson.get s.toJson (py "tasks") = .object (tasksJson s.tasks) :=
    s.get_toJson (by simp [toJson])
  have hpending : PlatformJson.get s.toJson (py "pending_limit") = .int s.pendingLimit :=
    s.get_toJson (by simp [toJson])
  have hcounters : ([py "generation_count", py "task_sequence", py "generated_total",
      py "completed_total", py "failed_total", py "last_tick_at_ms"].all fun key =>
        isCounter (PlatformJson.get s.toJson key)) = true := by
    have hcounter : ∀ key (n : ℕ), (key, .int n) ∈ s.toJson →
        isCounter (PlatformJson.get s.toJson key) = true := by
      intro key n h
      rw [s.get_toJson h]
      simp [isCounter]
    simp only [all_cons, all_nil, Bool.and_true, Bool.and_eq_true]
    exact ⟨hcounter _ s.generationCount (by simp [toJson]),
      hcounter _ s.taskSequence (by simp [toJson]), hcounter _ s.generatedTotal (by simp [toJson]),
      hcounter _ s.completedTotal (by simp [toJson]), hcounter _ s.failedTotal (by simp [toJson]),
      hcounter _ s.lastTickAtMs (by simp [toJson])⟩
  unfold checkAutonomyState
  rw [htasks, hpending, hcounters]
  have hbounds : ¬ ((s.pendingLimit : ℤ) < 0 ∨ 1024 < (s.pendingLimit : ℤ)) := by omega
  dsimp only
  rw [rejectIf_of_not _ hbounds]
  rfl

lemma put_tasks (s : AutonomyState) (ts : List AutonomyTask) :
    s.toJson.put (py "tasks") (.object (tasksJson ts)) = (s.withTasks ts).toJson := by
  have hbefore : py "tasks" ∉ (s.toJson.take 8).map Prod.fst := by
    rw [map_take, toJson_keys]
    decide
  exact put_middle hbefore (.object (tasksJson s.tasks)) (.object (tasksJson ts))

end AutonomyState

namespace AutonomyTask

/-- The keys of a row that are the engine's. -/
def ownKeys (t : AutonomyTask) : List PyStr :=
  [py "schema", py "task_id", py "life_id"] ++
    ([py "status", py "generation_reason", py "sequence", py "created_at_ms", py "updated_at_ms",
      py "attempt_count"] ++ py "task_sha256" :: t.resultField.map Prod.fst)

lemma resultField_keys (t : AutonomyTask) :
    t.resultField.map Prod.fst = [] ∨ t.resultField.map Prod.fst = [py "result"] := by
  unfold resultField
  split
  · exact .inl rfl
  · exact .inr rfl

lemma ownKeys_nodup (t : AutonomyTask) : t.ownKeys.Nodup ∧ t.ownKeys ⊆ taskKeys := by
  unfold ownKeys
  rcases t.resultField_keys with hkeys | hkeys
  · rw [hkeys]
    exact ⟨by decide, by decide⟩
  · rw [hkeys]
    exact ⟨by decide, by decide⟩

/-- No key of a row is repeated. -/
theorem row_nodup (t : AutonomyTask) : (t.row.map Prod.fst).Nodup := by
  have hkeys : (t.row.map Prod.fst).Perm (t.candidate.fields.map Prod.fst ++ t.ownKeys) := by
    simp only [row, heading, ownKeys, map_append, map_cons, map_nil, append_assoc]
    exact perm_append_comm_assoc _ _ _
  rw [hkeys.nodup_iff, nodup_append]
  refine ⟨t.candidate.distinct, t.ownKeys_nodup.1, ?_⟩
  intro key hkey key' hkey' heq
  obtain ⟨field, hfield, rfl⟩ := mem_map.mp hkey
  exact t.candidate.foreign field hfield (heq ▸ t.ownKeys_nodup.2 hkey')

lemma row_taskId (t : AutonomyTask) : t.row.lookup (py "task_id") = some (.text t.taskId) :=
  lookup_of_mem t.row_nodup (by simp [row, heading])

/-- The keys that a change of state may write. -/
def mutableKeys : List PyStr :=
  [py "status", py "updated_at_ms", py "attempt_count", py "result", py "task_sha256"]

/-- Two versions of a task agree on every key that a change of state leaves alone. -/
lemma row_agrees {t t' : AutonomyTask} (h : SameTask t t') {key : PyStr} {v : PlatformJson}
    (hmem : (key, v) ∈ t.row) : key ∈ mutableKeys ∨ t'.row.lookup key = some v := by
  have hin : key ∈ mutableKeys ∨ (key, v) ∈ t'.row := by
    have hfixed : t'.heading = [(py "schema", .text engineVersion), (py "task_id", .text t.taskId),
        (py "life_id", .text t.lifeId)] ++ t.candidate.fields ++
      [(py "status", .text t'.status.text), (py "generation_reason", .text t.generationReason),
        (py "sequence", .int t.sequence), (py "created_at_ms", .int t.createdAtMs),
        (py "updated_at_ms", .int t'.updatedAtMs),
        (py "attempt_count", .int t'.attemptCount)] := by
      rw [heading, ← h.taskId, ← h.lifeId, ← h.candidate, ← h.generationReason, ← h.sequence,
        ← h.createdAtMs]
    rw [row, hfixed]
    rcases mem_append.mp hmem with hheading | hrest
    · rcases mem_append.mp hheading with hfirst | hlater
      · exact .inr (mem_append_left _ (mem_append_left _ hfirst))
      · simp only [mem_cons, not_mem_nil, or_false, Prod.mk.injEq] at hlater
        rcases hlater with ⟨rfl, -⟩ | hreason | hsequence | hcreated | ⟨rfl, -⟩ | ⟨rfl, -⟩
        · exact .inl (by decide)
        · exact .inr (by simp [hreason])
        · exact .inr (by simp [hsequence])
        · exact .inr (by simp [hcreated])
        · exact .inl (by decide)
        · exact .inl (by decide)
    · left
      rcases mem_cons.mp hrest with hsha | hresult
      · obtain ⟨rfl, -⟩ := Prod.mk.inj hsha
        decide
      · have hkey : key ∈ t.resultField.map Prod.fst := mem_map_of_mem hresult
        rcases t.resultField_keys with hkeys | hkeys
        · rw [hkeys] at hkey
          cases hkey
        · rw [hkeys, mem_singleton] at hkey
          subst hkey
          decide
  rcases hin with hmutable | hrow
  · exact .inl hmutable
  · exact .inr (lookup_of_mem t'.row_nodup hrow)

end AutonomyTask

lemma tasksJson_keys (ts : List AutonomyTask) : (tasksJson ts).map Prod.fst = taskIds ts := by
  rw [tasksJson, map_map]
  rfl

variable {ts : List AutonomyTask}

lemma get_tasksJson_of_notMem {id : PyStr} (h : id ∉ taskIds ts) :
    PlatformJson.get (tasksJson ts) id = .null := by
  have hnone : (tasksJson ts).lookup id = none := by
    rw [lookup_eq_none_iff]
    intro field hfield
    rw [bne_iff_ne]
    rintro rfl
    exact h (tasksJson_keys ts ▸ mem_map_of_mem hfield)
  rw [PlatformJson.get, hnone]
  rfl

variable {t : AutonomyTask}

lemma get_tasksJson_of_mem (hnodup : (taskIds ts).Nodup) (h : t ∈ ts) : PlatformJson.get (tasksJson ts) t.taskId = .object t.row := by
  have hlookup : (tasksJson ts).lookup t.taskId = some (.object t.row) :=
    lookup_of_mem (tasksJson_keys ts ▸ hnodup)
      (mem_map.mpr ⟨t, h, rfl⟩)
  rw [PlatformJson.get, hlookup]
  rfl

lemma put_tasksJson (t : AutonomyTask) (ts : List AutonomyTask) :
    JsonFields.put (tasksJson ts) t.taskId (.object t.row) = tasksJson (setTask t ts) := by
  induction ts with
  | nil => rfl
  | cons t' ts ih =>
    rw [tasksJson, map_cons, JsonFields.put, setTask]
    by_cases hid : t'.taskId = t.taskId
    · rw [if_pos hid, if_pos hid]
      rfl
    · rw [if_neg hid, if_neg hid]
      exact congrArg _ ih

lemma putTask_toJson (s : AutonomyState) (t : AutonomyTask) :
    putTask s.toJson t.taskId t.row = (s.withTasks (setTask t s.tasks)).toJson := by
  rw [putTask, s.dictOf_tasks, put_tasksJson, s.put_tasks]

lemma setTask_self (hnodup : (taskIds ts).Nodup) (h : t ∈ ts) : setTask t ts = ts := by
  rw [setTask_of_mem hnodup (mem_map_of_mem h)]
  have hself : ∀ u ∈ ts, (if u.taskId = t.taskId then t else u) = u := by
    intro u hu
    split
    · rename_i hid
      exact (inj_on_of_nodup_map hnodup hu h hid).symm
    · rfl
  rw [map_congr_left hself, map_id']

/-- The version of an event takes the place of one with another text. -/
lemma restoreTask_statusChanged (runtime : ReplayRuntime) {u : AutonomyTask} (hnodup : (taskIds ts).Nodup) (hu : u ∈ ts)
    (hid : u.taskId = t.taskId) :
    restoreTask runtime ts (.statusChanged t) =
      if same runtime (.object u.row) (.object t.row) = true then ts else setTask t ts := by
  have hmem : t.taskId ∈ taskIds ts := hid ▸ mem_map_of_mem hu
  have honly : ∀ v ∈ ts, v.taskId = t.taskId → v = u := fun v hv hvid =>
    inj_on_of_nodup_map hnodup hv hu (hvid.trans hid.symm)
  rw [restoreTask]
  split
  · rename_i htext
    have hself : ∀ v ∈ ts, (if v.taskId = t.taskId ∧
        same runtime (.object v.row) (.object t.row) = false then t else v) = v := by
      intro v hv
      rw [if_neg]
      rintro ⟨hvid, hdiffers⟩
      rw [honly v hv hvid, htext] at hdiffers
      cases hdiffers
    rw [map_congr_left hself, map_id']
  · rename_i htext
    rw [setTask_of_mem hnodup hmem]
    apply map_congr_left
    intro v hv
    by_cases hvid : v.taskId = t.taskId
    · obtain rfl := honly v hv hvid
      rw [if_pos ⟨hvid, by simpa using htext⟩, if_pos hvid]
    · rw [if_neg hvid, if_neg fun h => hvid h.1]

/-- The state of the engine in the state of a life. -/
def Holds (s : AutonomyState) (scope : JsonFields) : Prop :=
  scope.lookup (py "autonomy") = some (.object s.toJson)

namespace Holds

variable {s : AutonomyState} {scope : JsonFields}

theorem put (s : AutonomyState) (scope : JsonFields) :
    Holds s (scope.put (py "autonomy") (.object s.toJson)) :=
  lookup_put_self _ _ _

lemma dictOf_autonomy (h : Holds s scope) : dictOf scope (py "autonomy") = s.toJson := by
  rw [dictOf, h]

lemma normalize (h : Holds s scope) : normalizeAutonomy.on scope =
      (.ok s.toJson, scope.put (py "autonomy") (.object s.toJson)) := by
  have hget : PlatformJson.get scope (py "autonomy") = .object s.toJson := by
    rw [PlatformJson.get, h]
    rfl
  unfold normalizeAutonomy
  rw [on_bind, on_read, hget]
  dsimp only
  rw [s.withDefaults_toJson, on_bind, on_modify]
  dsimp only
  rw [on_bind, on_query, s.checkAutonomyState_toJson]
  rfl

lemma withinTask_on {α : Type} (h : Holds s scope) (hnodup : (taskIds s.tasks).Nodup)
    {u : AutonomyTask} (hu : u ∈ s.tasks) (x : Call ReplayFault JsonFields α) :
    (withinTask u.taskId x).on scope = ((x.on u.row).1, scope.put (py "autonomy")
      (.object (putTask s.toJson u.taskId (x.on u.row).2))) := by
  have hrow : dictOf (dictOf (dictOf scope (py "autonomy")) (py "tasks")) u.taskId = u.row := by
    have hget := get_tasksJson_of_mem hnodup hu
    rw [h.dictOf_autonomy, s.dictOf_tasks]
    unfold PlatformJson.get at hget
    unfold dictOf
    cases hlookup : (tasksJson s.tasks).lookup u.taskId with
    | none =>
      rw [hlookup] at hget
      cases hget
    | some v =>
      rw [hlookup, Option.getD_some] at hget
      rw [hget]
  rw [withinTask, on_within, hrow, h.dictOf_autonomy]

end Holds

variable {runtime : ReplayRuntime}

/-- A merge of what is there changes nothing. -/
lemma mergeProjection_agrees {skipped : PyStr → Bool} {code : String} {fields row : JsonFields}
    (h : ∀ field ∈ fields, skipped field.1 = true ∨ row.lookup field.1 = some field.2) :
    (mergeProjection runtime skipped code fields).on row = (.ok false, row) := by
  induction fields with
  | nil => rfl
  | cons field fields ih =>
    obtain ⟨key, v⟩ := field
    have hrest := ih fun f hf => h f (mem_cons_of_mem _ hf)
    unfold mergeProjection
    by_cases hskipped : skipped key = true
    · rw [if_pos hskipped, hrest]
    · have hlookup := (h (key, v) mem_cons_self).resolve_left hskipped
      rw [if_neg hskipped, on_bind, on_read]
      dsimp only [id]
      rw [hlookup]
      dsimp only
      rw [on_bind, on_query, same_self]
      exact hrest

theorem strOr_text {text : PyStr} (h : text ≠ []) :
    (PlatformJson.text text).strOr runtime.toJsonRuntime = text := by
  simp [PlatformJson.strOr, PlatformJson.truthy, PlatformJson.str, h]

lemma isIdentifier_ne_nil {s : PyStr} (h : isIdentifier s = true) : s ≠ [] := by
  rintro rfl
  cases h

/-- The number of a row. -/
lemma text_taskId (h : isIdentifier t.taskId = true) :
    text runtime t.row "task_id" = t.taskId := by
  rw [text, PlatformJson.get, t.row_taskId, Option.getD_some, strOr_text (isIdentifier_ne_nil h)]

lemma reduceTaskGenerated_on {s : AutonomyState} {scope payload : JsonFields} (hpayload : PlatformJson.get payload (py "task") = .object t.row)
    (hid : isIdentifier t.taskId = true) (hnodup : (taskIds s.tasks).Nodup)
    (hrestorable : Restorable s.tasks (.generated t)) (h : Holds s scope) :
    ∃ changed scope', (reduceTaskGenerated runtime payload).on scope = (.ok changed, scope') ∧
      Holds (s.withTasks (restoreTask runtime s.tasks (.generated t))) scope' := by
  have hput := Holds.put s scope
  unfold reduceTaskGenerated
  rw [on_bind, on_query, hpayload]
  dsimp only [requireMapping]
  rw [text_taskId hid, on_bind, on_query, rejectIf_of_not _ (by simp [hid])]
  dsimp only
  rw [on_bind, h.normalize]
  dsimp only
  rw [s.dictOf_tasks]
  by_cases hmem : t.taskId ∈ taskIds s.tasks
  · obtain ⟨u, hu, huid⟩ := mem_map.mp hmem
    have hrow := get_tasksJson_of_mem hnodup hu
    rw [huid] at hrow
    have hmerge : (mergeGeneratedTaskProjection runtime t.row).on u.row = (.ok false, u.row) := by
      apply mergeProjection_agrees
      intro field hfield
      have hagrees := AutonomyTask.row_agrees (hrestorable u hu huid).symm hfield
      simpa [AutonomyTask.mutableKeys] using hagrees
    rw [hrow, restoreTask, if_pos hmem]
    dsimp only
    rw [← huid, hput.withinTask_on hnodup hu, hmerge, putTask_toJson, setTask_self hnodup hu]
    exact ⟨false, _, rfl, Holds.put _ _⟩
  · rw [get_tasksJson_of_notMem hmem, restoreTask, if_neg hmem]
    refine ⟨true, _, rfl, ?_⟩
    rw [putTask_toJson, setTask_of_notMem hmem]
    exact Holds.put _ _

lemma reduceTaskStatus_on {s : AutonomyState} {scope payload : JsonFields} (htask : PlatformJson.get payload (py "task") = .object t.row)
    (hpayload : PlatformJson.get payload (py "task_id") = .text t.taskId)
    (hid : isIdentifier t.taskId = true) (hnodup : (taskIds s.tasks).Nodup)
    (hrestorable : Restorable s.tasks (.statusChanged t)) (h : Holds s scope) :
    ∃ changed scope', (reduceTaskStatus runtime payload).on scope = (.ok changed, scope') ∧
      Holds (s.withTasks (restoreTask runtime s.tasks (.statusChanged t))) scope' := by
  have hput := Holds.put s scope
  have htaskId : text runtime payload "task_id" = t.taskId := by
    rw [text, hpayload, strOr_text (isIdentifier_ne_nil hid)]
  obtain ⟨u, hu, huid⟩ := mem_map.mp hrestorable
  have hrow := get_tasksJson_of_mem hnodup hu
  rw [huid] at hrow
  unfold reduceTaskStatus
  dsimp only
  rw [htaskId, on_bind, h.normalize]
  dsimp only
  rw [s.dictOf_tasks, hrow, on_bind, on_query]
  dsimp only [requireMapping]
  rw [on_bind, on_query, htask]
  dsimp only
  rw [restoreTask_statusChanged runtime hnodup hu huid]
  split
  · exact ⟨false, _, rfl, hput⟩
  · refine ⟨true, _, rfl, ?_⟩
    dsimp only
    rw [hput.dictOf_autonomy, putTask_toJson]
    exact Holds.put _ _

def Journals (runtime : ReplayRuntime) (event : JsonFields) (e : TaskEvent) : Prop :=
  ∃ payload, PlatformJson.get event (py "payload") = .object payload ∧
    PlatformJson.get payload (py "task") = .object e.task.row ∧
    match e with
    | .generated _ => text runtime event "event_type" = py "autonomy.task_generated"
    | .statusChanged t => text runtime event "event_type" = py "autonomy.task_status_changed" ∧
      PlatformJson.get payload (py "task_id") = .text t.taskId

lemma replayEvent_on {lifeId : PyStr} {s : AutonomyState} {scope event : JsonFields}
    {e : TaskEvent} (hevent : Journals runtime event e) (hid : isIdentifier e.task.taskId = true)
    (hnodup : (taskIds s.tasks).Nodup) (hrestorable : Restorable s.tasks e) (h : Holds s scope) :
    ∃ changed scope', (replayEvent runtime lifeId event).on scope = (.ok changed, scope') ∧
      Holds (s.withTasks (restoreTask runtime s.tasks e)) scope' := by
  obtain ⟨payload, hpayload, htask, htype⟩ := hevent
  unfold replayEvent
  cases e with
  | generated t =>
    have haudit : py "autonomy.task_generated" ∉ auditOnly := by decide
    have hreducer : (reducers runtime lifeId).lookup (py "autonomy.task_generated") =
        some fun payload _ => reduceTaskGenerated runtime payload := rfl
    dsimp only at htype ⊢
    rw [htype, if_neg haudit, hreducer]
    dsimp only
    rw [on_bind, on_query, hpayload]
    exact reduceTaskGenerated_on htask hid hnodup hrestorable h
  | statusChanged t =>
    have haudit : py "autonomy.task_status_changed" ∉ auditOnly := by decide
    have hreducer : (reducers runtime lifeId).lookup (py "autonomy.task_status_changed") =
        some fun payload _ => reduceTaskStatus runtime payload := rfl
    dsimp only at htype ⊢
    rw [htype.1, if_neg haudit, hreducer]
    dsimp only
    rw [on_bind, on_query, hpayload]
    exact reduceTaskStatus_on htask htype.2 hid hnodup hrestorable h

lemma restoreTask_nodup (hnodup : (taskIds ts).Nodup) (e : TaskEvent) :
    (taskIds (restoreTask runtime ts e)).Nodup := by
  cases e with
  | generated t =>
    rw [restoreTask]
    by_cases hmem : t.taskId ∈ taskIds ts
    · rwa [if_pos hmem]
    · rw [if_neg hmem]
      exact (TaskStep.generated hmem).nodup hnodup
  | statusChanged t =>
    have hids : taskIds (restoreTask runtime ts (.statusChanged t)) = taskIds ts := by
      rw [restoreTask, taskIds, map_map]
      apply map_congr_left
      intro u _
      simp only [Function.comp_apply]
      split
      · rename_i h
        exact h.1.symm
      · rfl
    rwa [hids]

/-- The replay of the events of tasks restores the tasks, and nothing else of the engine. -/
theorem replayJournalEvents_on {lifeId : PyStr} {s : AutonomyState} {scope : JsonFields}
    {events : List JsonFields} {es : List TaskEvent} {us : List AutonomyTask}
    (hevents : List.Forall₂ (Journals runtime) events es)
    (hids : ∀ e ∈ es, isIdentifier e.task.taskId = true) (hnodup : (taskIds s.tasks).Nodup)
    (hrestores : Restores runtime s.tasks es us) (h : Holds s scope) :
    ∃ changed scope', (replayJournalEvents runtime lifeId events).on scope = (.ok changed, scope') ∧
      Holds (s.withTasks us) scope' := by
  induction hevents generalizing s scope with
  | nil =>
    cases hrestores
    exact ⟨false, scope, rfl, h⟩
  | cons hevent _ ih =>
    cases hrestores with
    | cons hrestorable hrest =>
      obtain ⟨changed, scope₁, hfirst, h₁⟩ :=
        replayEvent_on hevent (hids _ mem_cons_self) hnodup hrestorable h
      obtain ⟨more, scope₂, hlater, h₂⟩ := ih (fun e he => hids e (mem_cons_of_mem _ he))
        (restoreTask_nodup hnodup _) hrest h₁
      refine ⟨changed || more, scope₂, ?_, h₂⟩
      unfold replayJournalEvents
      rw [on_bind, hfirst]
      dsimp only
      rw [on_bind, hlater]
      rfl

end Tiangong
