import Tiangong.JsonTexts
import Tiangong.TaskProjections
import Tiangong.TaskRuns

/-!
# Whether the pool of tasks survives a replay

A state that was stored on the way is brought up to date from the journal. The reducers restore the
rows and nothing else: the counters and the sequence number stay those of the stored state. So the
pool is kept exactly when the journal generates no task that the stored state lacks, and completes
or fails none that is not so there.
-/
namespace Tiangong

open AutonomyState List JournalReplay AutonomyTask

variable (runtime : TaskRuntime)

/-- What later calls keep of a state: its tasks, each under its own number, one active task for a
cause, the limit, and the counters. -/
structure WellKept (s s' : AutonomyState) : Prop where
  tasks : s.tasks <+: s'.tasks
  numbers : (taskIds s'.tasks).Nodup
  unique : s'.activeFingerprints.Nodup
  bounded : s'.activeFingerprints.length ≤ s'.pendingLimit
  generated : s'.generatedTotal = s'.tasks.length
  completed : s'.completedTotal = countStatus .completed s'.tasks
  failed : s'.failedTotal = countStatus .failed s'.tasks

/-- Further calls keep the state, and none lets the tasks outside the catalog exceed their limit. -/
def KeepsPool (earlier : List Materialization) (s : AutonomyState) : Prop :=
  ∀ further, NoCollision runtime (earlier ++ further) → WellKept s (afterwards runtime s further) ∧
    ∀ before m, further = before ++ [m] →
      ((afterwards runtime s further).cognitionFingerprints runtime).length ≤
        max (cognitionPendingLimit m.limit)
          ((afterwards runtime s before).cognitionFingerprints runtime).length

/-- Replaying the journal over the stored state returns, gives the tasks that the engine has, and a
state that further calls sustain. -/
def Survives (earlier : List Materialization) (stored live : AutonomyState)
    (journal : List TaskEvent) : Prop :=
  ∀ lifeId scope events, Holds stored scope →
    List.Forall₂ (Journals runtime.toReplayRuntime) events journal →
    ∃ changed scope' restored,
      (replayJournalEvents runtime.toReplayRuntime lifeId events).on scope =
        (.ok changed, scope') ∧ Holds restored scope' ∧
      List.Forall₂ (Alike runtime.toReplayRuntime) restored.tasks live.tasks ∧
      KeepsPool runtime earlier restored

/-- The stored state has the tasks that the journal generates, and has ended those that it completes
or fails. -/
structure Covers (stored : AutonomyState) (journal : List TaskEvent) : Prop where
  generated : ∀ t, .generated t ∈ journal → t.taskId ∈ taskIds stored.tasks
  ended : ∀ t, .statusChanged t ∈ journal → t.status = .completed ∨ t.status = .failed →
    ∃ u ∈ stored.tasks, u.taskId = t.taskId ∧ u.status = t.status

variable {runtime} {lives fingerprints : List PyStr} {last : ℕ}

lemma AutonomyTask.row_status (t : AutonomyTask) :
    t.row.lookup (py "status") = some (.text t.status.text) :=
  JsonFields.lookup_of_mem t.row_nodup (by simp [row, heading])

/-- Rows with one text have one state. -/
theorem Alike.status {u t : AutonomyTask} (h : Alike runtime.toReplayRuntime u t)
    (hfloats : PlatformJson.ShowsFloats runtime.toJsonRuntime) : u.status = t.status := by
  have htext := PlatformJson.lookup_of_dumps_eq hfloats u.row_nodup (of_decide_eq_true h.2)
    (py "status")
  rw [u.row_status, t.row_status] at htext
  exact TaskStatus.text_injective (PlatformJson.dumps_text_inj (Option.some.inj htext))

section Alike

variable {us ts : List AutonomyTask}

lemma countStatus_alike (h : List.Forall₂ (Alike runtime.toReplayRuntime) us ts)
    (hfloats : PlatformJson.ShowsFloats runtime.toJsonRuntime) (status : TaskStatus) :
    countStatus status us = countStatus status ts := by
  induction h with
  | nil => rfl
  | cons halike _ ih =>
    unfold countStatus at ih ⊢
    rw [countP_cons, countP_cons, ih, halike.status hfloats]

lemma activeFingerprints_alike {s s' : AutonomyState}
    (h : List.Forall₂ (Alike runtime.toReplayRuntime) s.tasks s'.tasks)
    (hfloats : PlatformJson.ShowsFloats runtime.toJsonRuntime) :
    s.activeFingerprints = s'.activeFingerprints := by
  unfold activeFingerprints
  generalize s.tasks = us, s'.tasks = ts at h
  induction h with
  | nil => rfl
  | cons halike _ ih =>
    rw [filter_cons, filter_cons, halike.status hfloats]
    split
    · rw [map_cons, map_cons, ih, halike.1.candidate]
    · exact ih

end Alike

def statusIds (status : TaskStatus) (ts : List AutonomyTask) : List PyStr :=
  taskIds (ts.filter fun t => t.status = status)

lemma length_statusIds (status : TaskStatus) (ts : List AutonomyTask) :
    (statusIds status ts).length = countStatus status ts := by
  rw [statusIds, taskIds, length_map, countStatus, countP_eq_length_filter]

lemma mem_statusIds {status : TaskStatus} {ts : List AutonomyTask} {id : PyStr} :
    id ∈ statusIds status ts ↔ ∃ t ∈ ts, t.status = status ∧ t.taskId = id := by
  simp [statusIds, taskIds, and_assoc]

lemma statusIds_nodup {ts : List AutonomyTask} (h : (taskIds ts).Nodup) (status : TaskStatus) :
    (statusIds status ts).Nodup :=
  List.Nodup.sublist (filter_sublist.map _) h

/-- Ended tasks stay ended. -/
lemma Carried.statusIds_subset {ts ts' : List AutonomyTask} (h : Carried ts ts')
    {status : TaskStatus} (hterminal : status.isTerminal = true) :
    statusIds status ts ⊆ statusIds status ts' := by
  intro id hid
  obtain ⟨t, ht, rfl, rfl⟩ := mem_statusIds.mp hid
  obtain ⟨t', ht', hsame, hended⟩ := h t ht
  exact mem_statusIds.mpr ⟨t', ht', hended hterminal, hsame.taskId.symm⟩

/-- A list without repetition that contains another and is not longer has the same members. -/
lemma subset_of_length_le {ids ids' : List PyStr} (hnodup : ids.Nodup) (hsub : ids ⊆ ids')
    (hlength : ids'.length ≤ ids.length) : ids' ⊆ ids :=
  ((subperm_of_subset hnodup hsub).perm_of_length_le hlength).symm.subset

lemma length_eq_of_subset {ids ids' : List PyStr} (hnodup : ids.Nodup) (hnodup' : ids'.Nodup)
    (hsub : ids ⊆ ids') (hsub' : ids' ⊆ ids) : ids.length = ids'.length :=
  le_antisymm (subperm_of_subset hnodup hsub).length_le
    (subperm_of_subset hnodup' hsub').length_le

/-- A stored state, what the journal adds to it, and the state of the engine. -/
structure Course (runtime : TaskRuntime) (lives fingerprints : List PyStr)
    (stored live : AutonomyState) (applied later : List TaskEvent) : Prop where
  pooled : Pooled runtime lives fingerprints stored
  pooledLive : Pooled runtime lives fingerprints live
  limit : live.pendingLimit = stored.pendingLimit
  part : ∃ ts, TaskSteps ts applied stored.tasks ∧ (taskIds ts).Nodup
  steps : TaskSteps stored.tasks later live.tasks

namespace Course

variable {stored live : AutonomyState} {applied later : List TaskEvent}

/-- The task of an event of the journal is in the state of the engine. -/
lemma event_live (h : Course runtime lives fingerprints stored live applied later)
    {e : TaskEvent} (he : e ∈ applied ++ later) :
    ∃ t ∈ live.tasks, SameTask e.task t ∧
      (e.task.status.isTerminal = true → t.status = e.task.status) := by
  obtain ⟨ts, hpart, hnodup⟩ := h.part
  exact (hpart.append h.steps).event_carried hnodup he

theorem taskIds_subset (h : Course runtime lives fingerprints stored live applied later)
    (hcovers : Covers stored (applied ++ later)) : taskIds live.tasks ⊆ taskIds stored.tasks := by
  intro id hid
  rcases h.steps.given hid with hold | ⟨t, ht, rfl⟩
  · exact hold
  · exact hcovers.generated t (mem_append_right _ ht)

lemma statusIds_subset (h : Course runtime lives fingerprints stored live applied later)
    (hcovers : Covers stored (applied ++ later)) {status : TaskStatus}
    (hended : status = .completed ∨ status = .failed) :
    statusIds status live.tasks ⊆ statusIds status stored.tasks := by
  intro id hid
  obtain ⟨t, ht, rfl, rfl⟩ := mem_statusIds.mp hid
  rcases h.steps.origin h.pooled.nodup ht with hold | ⟨e, he, rfl⟩
  · exact mem_statusIds.mpr ⟨t, hold, rfl, rfl⟩
  · have hjournal : e ∈ applied ++ later := mem_append_right _ he
    cases e with
    | generated t =>
      exact absurd (hcovers.generated t hjournal) (h.steps.generated_fresh h.pooled.nodup he)
    | statusChanged t =>
      obtain ⟨u, hu, hid, hstatus⟩ := hcovers.ended t hjournal hended
      exact mem_statusIds.mpr ⟨u, hu, hstatus, hid⟩

/-- The stored state covers the journal when it has as many tasks, and as many ended ones. -/
theorem covers (h : Course runtime lives fingerprints stored live applied later)
    (htasks : live.tasks.length ≤ stored.tasks.length)
    (hcompleted : countStatus .completed live.tasks ≤ countStatus .completed stored.tasks)
    (hfailed : countStatus .failed live.tasks ≤ countStatus .failed stored.tasks) :
    Covers stored (applied ++ later) := by
  have hcarried := h.steps.carried h.pooled.nodup
  refine ⟨?_, ?_⟩
  · intro t ht
    obtain ⟨t', ht', hsame, -⟩ := h.event_live ht
    have hids : taskIds live.tasks ⊆ taskIds stored.tasks := by
      apply subset_of_length_le h.pooled.nodup hcarried.taskIds_subset
      simpa [taskIds] using htasks
    apply hids
    rw [show t.taskId = t'.taskId from hsame.taskId]
    exact mem_map_of_mem ht'
  · intro t ht hended
    have hids : statusIds t.status live.tasks ⊆ statusIds t.status stored.tasks := by
      have hnodup := statusIds_nodup h.pooled.nodup t.status
      rcases hended with hstatus | hstatus
      · rw [hstatus] at hnodup ⊢
        apply subset_of_length_le hnodup (hcarried.statusIds_subset rfl)
        rwa [length_statusIds, length_statusIds]
      · rw [hstatus] at hnodup ⊢
        apply subset_of_length_le hnodup (hcarried.statusIds_subset rfl)
        rwa [length_statusIds, length_statusIds]
    obtain ⟨t', ht', hsame, hkept⟩ := h.event_live ht
    have hterminal : t.status.isTerminal = true := by
      rcases hended with hstatus | hstatus <;> rw [hstatus] <;> rfl
    have hid : t.taskId ∈ statusIds t.status live.tasks :=
      mem_statusIds.mpr ⟨t', ht', hkept hterminal, hsame.taskId.symm⟩
    obtain ⟨u, hu, hstatus, huid⟩ := mem_statusIds.mp (hids hid)
    exact ⟨u, hu, huid, hstatus⟩

lemma restored_pooled (h : Course runtime lives fingerprints stored live applied later)
    (hfloats : PlatformJson.ShowsFloats runtime.toJsonRuntime)
    (hcovers : Covers stored (applied ++ later)) {us : List AutonomyTask}
    (hus : List.Forall₂ (Alike runtime.toReplayRuntime) us live.tasks) :
    Pooled runtime lives fingerprints (stored.withTasks us) := by
  have hids : taskIds us = taskIds live.tasks := taskIds_eq_of_forall₂ hus fun u t h => h.1.taskId
  have hcarried := h.steps.carried h.pooled.nodup
  have hactive : (stored.withTasks us).activeFingerprints = live.activeFingerprints :=
    activeFingerprints_alike hus hfloats
  have hcount : ∀ status : TaskStatus, status = .completed ∨ status = .failed →
      countStatus status stored.tasks = countStatus status us := by
    intro status hended
    have hterminal : status.isTerminal = true := by
      rcases hended with rfl | rfl <;> rfl
    rw [countStatus_alike hus hfloats, ← length_statusIds, ← length_statusIds]
    exact length_eq_of_subset (statusIds_nodup h.pooled.nodup status)
      (statusIds_nodup h.pooledLive.nodup status) (hcarried.statusIds_subset hterminal)
      (h.statusIds_subset hcovers hended)
  refine ⟨?_, ?_, ?_, ?_, ?_, ?_, ?_, ?_, ?_⟩
  · intro u hu
    obtain ⟨t, ht, halike⟩ := exists_partner hus hu
    rw [halike.1.lifeId, halike.1.candidate, halike.1.sequence, halike.1.taskId]
    exact h.pooledLive.named t ht
  · intro u hu
    obtain ⟨t, ht, halike⟩ := exists_partner hus hu
    rw [halike.1.lifeId, halike.1.candidate]
    exact h.pooledLive.known t ht
  · intro u hu
    obtain ⟨t, ht, halike⟩ := exists_partner hus hu
    obtain ⟨v, hv, hvid⟩ := mem_map.mp (h.taskIds_subset hcovers (mem_map_of_mem ht))
    obtain ⟨t', ht', hsame, -⟩ := hcarried v hv
    obtain rfl := inj_on_of_nodup_map h.pooledLive.nodup ht' ht
      (hsame.taskId.symm.trans hvid)
    rw [halike.1.sequence, ← hsame.sequence]
    exact h.pooled.numbered v hv
  · change (taskIds us).Nodup
    rw [hids]
    exact h.pooledLive.nodup
  · rw [hactive]
    exact h.pooledLive.unique
  · rw [hactive]
    exact h.limit ▸ h.pooledLive.bounded
  · have hlength : (taskIds stored.tasks).length = (taskIds us).length := by
      rw [hids]
      exact length_eq_of_subset h.pooled.nodup h.pooledLive.nodup hcarried.taskIds_subset
        (h.taskIds_subset hcovers)
    rw [taskIds, taskIds, length_map, length_map] at hlength
    exact h.pooled.generated.trans hlength
  · exact h.pooled.completed.trans (hcount _ (.inl rfl))
  · exact h.pooled.failed.trans (hcount _ (.inr rfl))

end Course

def TaskEvent.toJson : TaskEvent → JsonFields
  | generated t => [(py "event_type", .text (py "autonomy.task_generated")),
      (py "payload", .object [(py "task", .object t.row)])]
  | statusChanged t => [(py "event_type", .text (py "autonomy.task_status_changed")),
      (py "payload", .object [(py "task_id", .text t.taskId), (py "task", .object t.row)])]

lemma journals_toJson (e : TaskEvent) : Journals runtime.toReplayRuntime e.toJson e := by
  cases e with
  | generated t =>
    refine ⟨[(py "task", .object t.row)], rfl, rfl, ?_⟩
    exact strOr_text (cons_ne_nil _ _)
  | statusChanged t =>
    refine ⟨[(py "task_id", .text t.taskId), (py "task", .object t.row)], rfl, rfl, ?_, rfl⟩
    exact strOr_text (cons_ne_nil _ _)

lemma journals_map (es : List TaskEvent) :
    List.Forall₂ (Journals runtime.toReplayRuntime) (es.map TaskEvent.toJson) es := by
  rw [List.forall₂_map_left_iff, List.forall₂_same]
  exact fun e _ => journals_toJson e

lemma isIdentifier_taskId {sha : PyStr} (h : isSha256 sha = true) :
    isIdentifier (py "lat_" ++ sha) = true := by
  simp only [isSha256, holds_iff, all_eq_true] at h
  obtain ⟨hlength, hdigits⟩ := h
  have hhex : ∀ c ∈ py "0123456789abcdef", isAlnum c = true :=
    all_eq_true.mp rfl
  have hname : py "lat_" ++ sha = .ofChar 'l' :: (py "at_" ++ sha) := rfl
  rw [hname, isIdentifier]
  have hrest : (py "at_" ++ sha).all
      (fun c => isAlnum c || c ∈ py "._:@-") = true := by
    rw [all_append, Bool.and_eq_true]
    refine ⟨rfl, all_eq_true.mpr fun c hc => ?_⟩
    rw [Bool.or_eq_true]
    exact .inl (hhex c (hdigits c hc))
  have hshort : (py "at_" ++ sha).length ≤ 159 := by
    rw [length_append, hlength]
    decide
  rw [hrest, decide_eq_true hshort]
  rfl

namespace Course

variable {stored live : AutonomyState} {applied later : List TaskEvent}

lemma restores (h : Course runtime lives fingerprints stored live applied later) :
    ∃ us, Restores runtime.toReplayRuntime stored.tasks (applied ++ later) us ∧
      List.Forall₂ (Alike runtime.toReplayRuntime) us live.tasks := by
  obtain ⟨ts, hpart, hnodup⟩ := h.part
  exact restores_history hpart h.steps hnodup

lemma replays (h : Course runtime lives fingerprints stored live applied later)
    (hhex : ∀ text, isSha256 (runtime.digest text) = true) {us : List AutonomyTask}
    (hus : Restores runtime.toReplayRuntime stored.tasks (applied ++ later) us) {lifeId : PyStr}
    {scope : JsonFields} {events : List JsonFields} (hholds : Holds stored scope)
    (hevents : List.Forall₂ (Journals runtime.toReplayRuntime) events (applied ++ later)) :
    ∃ changed scope',
      (replayJournalEvents runtime.toReplayRuntime lifeId events).on scope =
        (.ok changed, scope') ∧ Holds (stored.withTasks us) scope' := by
  refine replayJournalEvents_on hevents (fun e he => ?_) h.pooled.nodup hus hholds
  obtain ⟨t, ht, hsame, -⟩ := h.event_live he
  obtain ⟨sha, hsha, hname⟩ := h.pooledLive.named t ht
  rw [hsame.taskId, hname]
  apply isIdentifier_taskId
  unfold canonicalSha256 at hsha
  split at hsha
  · rw [← Except.ok.inj hsha]
    exact hhex _
  · cases hsha

/-- A replay that leaves a pool shows that the stored state covers the journal. -/
lemma covers_of_replay (h : Course runtime lives fingerprints stored live applied later)
    (hfloats : PlatformJson.ShowsFloats runtime.toJsonRuntime) {us : List AutonomyTask}
    {restored : AutonomyState} {scope : JsonFields} (hus : Holds (stored.withTasks us) scope)
    (hholds : Holds restored scope)
    (halike : List.Forall₂ (Alike runtime.toReplayRuntime) restored.tasks live.tasks)
    (hkept : WellKept restored restored) : Covers stored (applied ++ later) := by
  have hjson : restored.toJson = (stored.withTasks us).toJson := by
    have hboth := hus.symm.trans hholds
    simp only [Option.some.injEq, PlatformJson.object.injEq] at hboth
    exact hboth.symm
  have hcounter : ∀ key (n n' : ℕ), (key, .int n) ∈ restored.toJson →
      (key, .int n') ∈ (stored.withTasks us).toJson → n = n' := by
    intro key n n' hn hn'
    have hget := (restored.get_toJson hn).symm.trans
      (hjson ▸ (stored.withTasks us).get_toJson hn')
    simpa using hget
  have hgenerated : restored.generatedTotal = stored.generatedTotal :=
    hcounter (py "generated_total") _ _ (by simp [toJson]) (by simp [toJson, withTasks])
  have hcompleted : restored.completedTotal = stored.completedTotal :=
    hcounter (py "completed_total") _ _ (by simp [toJson]) (by simp [toJson, withTasks])
  have hfailed : restored.failedTotal = stored.failedTotal :=
    hcounter (py "failed_total") _ _ (by simp [toJson]) (by simp [toJson, withTasks])
  apply h.covers
  · rw [← halike.length_eq, ← hkept.generated, hgenerated, h.pooled.generated]
  · rw [← countStatus_alike halike hfloats, ← hkept.completed, hcompleted, h.pooled.completed]
  · rw [← countStatus_alike halike hfloats, ← hkept.failed, hfailed, h.pooled.failed]

end Course

lemma keepsPool_of_pooled {earlier : List Materialization} {s : AutonomyState}
    (hsequence : s.taskSequence ≤ (earlier.map (·.candidates.length)).sum)
    (h : ∀ further, NoCollision runtime (earlier ++ further) →
      Pooled runtime ((earlier ++ further).map (·.lifeId))
        ((earlier ++ further).flatMap fun m => m.candidates.map (·.fingerprint)) s) :
    KeepsPool runtime earlier s := by
  intro further hfree
  have hknown : ∀ m ∈ further, m.lifeId ∈ (earlier ++ further).map (·.lifeId) ∧
      ∀ c ∈ m.candidates, c.fingerprint ∈
        (earlier ++ further).flatMap fun m => m.candidates.map (·.fingerprint) := by
    intro m hm
    have hmem : m ∈ earlier ++ further := mem_append_right _ hm
    exact ⟨mem_map_of_mem hmem, fun c hc =>
      mem_flatMap.mpr ⟨m, hmem, mem_map_of_mem hc⟩⟩
  have hlast : s.taskSequence + (further.map (·.candidates.length)).sum ≤
      ((earlier ++ further).map (·.candidates.length)).sum := by
    rw [map_append, sum_append]
    omega
  obtain ⟨hpooled, hkept, -⟩ := afterwards_spec (h further hfree) hfree hknown hlast
  refine ⟨⟨hkept, hpooled.nodup, hpooled.unique, hpooled.bounded, hpooled.generated,
    hpooled.completed, hpooled.failed⟩, ?_⟩
  rintro before m rfl
  rw [map_append, sum_append, map_singleton, sum_singleton] at hlast
  obtain ⟨hbefore, -, hnumber⟩ := afterwards_spec (h _ hfree) hfree
    (fun m' hm' => hknown m' (mem_append_left _ hm')) (by omega)
  obtain ⟨hlife, hcauses⟩ := hknown m (by simp)
  obtain ⟨hgenerated, -⟩ := materialization_spec hbefore hfree hlife hcauses (by omega)
  have hcognition := hgenerated.cognition
  rw [afterwards_concat]
  omega

/-- Runs give the stored state, the journal and the state of the engine. -/
lemma course_of_runs {s : AutonomyState} {earlier overlap later : List TaskOperation}
    (h : Pooled runtime lives fingerprints s)
    (hfree : CollisionFree runtime lives fingerprints last)
    (hknown : ∀ m ∈ materializations (earlier ++ overlap ++ later), m.lifeId ∈ lives ∧
      ∀ c ∈ m.candidates, c.fingerprint ∈ fingerprints)
    (hlast : s.taskSequence +
      ((materializations (earlier ++ overlap ++ later)).map (·.candidates.length)).sum ≤ last)
    (hsettle : AllSettle runtime s (earlier ++ overlap ++ later)) :
    Course runtime lives fingerprints (taskRun runtime s (earlier ++ overlap)).2
      (taskRun runtime s (earlier ++ overlap ++ later)).2
      (taskRun runtime (taskRun runtime s earlier).2 overlap).1
      (taskRun runtime (taskRun runtime s (earlier ++ overlap)).2 later).1 ∧
    (taskRun runtime s (earlier ++ overlap)).2.taskSequence ≤ s.taskSequence +
      ((materializations (earlier ++ overlap ++ later)).map (·.candidates.length)).sum := by
  have hsplit : ∀ ops ops', materializations (ops ++ ops') =
      materializations ops ++ materializations ops' := fun ops ops' => flatMap_append
  obtain ⟨hsettle', hsettle₃⟩ := allSettle_append.mp hsettle
  obtain ⟨hsettle₁, hsettle₂⟩ := allSettle_append.mp hsettle'
  simp only [hsplit, map_append, sum_append, mem_append] at hknown hlast ⊢
  obtain ⟨hsteps₁, hpooled₁, hsequence₁⟩ := taskRun_spec h hfree
    (fun m hm => hknown m (.inl (.inl hm))) (by omega) hsettle₁
  obtain ⟨hsteps₂, hpooled₂, hsequence₂⟩ := taskRun_spec hpooled₁ hfree
    (fun m hm => hknown m (.inl (.inr hm))) (by omega) hsettle₂
  have hstored : (taskRun runtime s (earlier ++ overlap)).2 =
      (taskRun runtime (taskRun runtime s earlier).2 overlap).2 := by
    rw [taskRun_append]
  rw [hstored] at hsettle₃
  obtain ⟨hsteps₃, hpooled₃, -⟩ := taskRun_spec hpooled₂ hfree
    (fun m hm => hknown m (.inr hm)) (by omega) hsettle₃
  rw [taskRun_append s (earlier ++ overlap) later, hstored]
  refine ⟨⟨hpooled₂, hpooled₃, taskRun_limit _ _, ⟨_, hsteps₂, hpooled₁.nodup⟩, hsteps₃⟩, ?_⟩
  omega

/-- The course of a run from a fresh state, as far as digests are those of further calls too. -/
lemma course_of_fresh {enabled generation : Bool} {limit : ℕ} {hlimit : limit ≤ 1024}
    {earlier overlap later : List TaskOperation}
    (hsettle : AllSettle runtime (fresh enabled generation limit hlimit)
      (earlier ++ overlap ++ later)) {further : List Materialization}
    (hfree : NoCollision runtime (materializations (earlier ++ overlap ++ later) ++ further)) :
    Course runtime
      ((materializations (earlier ++ overlap ++ later) ++ further).map (·.lifeId))
      ((materializations (earlier ++ overlap ++ later) ++ further).flatMap fun m =>
        m.candidates.map (·.fingerprint))
      (taskRun runtime (fresh enabled generation limit hlimit) (earlier ++ overlap)).2
      (taskRun runtime (fresh enabled generation limit hlimit) (earlier ++ overlap ++ later)).2
      (taskRun runtime (taskRun runtime (fresh enabled generation limit hlimit) earlier).2
        overlap).1
      (taskRun runtime
        (taskRun runtime (fresh enabled generation limit hlimit) (earlier ++ overlap)).2 later).1 ∧
    (taskRun runtime (fresh enabled generation limit hlimit)
      (earlier ++ overlap)).2.taskSequence ≤
        ((materializations (earlier ++ overlap ++ later)).map (·.candidates.length)).sum := by
  have hsequence : (fresh enabled generation limit hlimit).taskSequence = 0 := rfl
  unfold NoCollision at hfree
  rw [map_append (f := fun m : Materialization => m.candidates.length), sum_append] at hfree
  have hcourse := course_of_runs (pooled_fresh enabled generation limit hlimit) hfree
    (fun m hm => ⟨mem_map_of_mem (mem_append_left _ hm), fun c hc =>
      mem_flatMap.mpr ⟨m, mem_append_left _ hm, mem_map_of_mem hc⟩⟩)
    (by omega) hsettle
  rwa [hsequence, Nat.zero_add] at hcourse

section Replay

variable {enabled generation : Bool} {limit : ℕ} {hlimit : limit ≤ 1024}
  {earlier overlap later : List TaskOperation}

lemma journal_eq (s : AutonomyState) :
    (taskRun runtime (taskRun runtime s earlier).2 (overlap ++ later)).1 =
      (taskRun runtime (taskRun runtime s earlier).2 overlap).1 ++
        (taskRun runtime (taskRun runtime s (earlier ++ overlap)).2 later).1 := by
  rw [taskRun_append, taskRun_append]

lemma covers_of_survives (hfloats : PlatformJson.ShowsFloats runtime.toJsonRuntime)
    (hhex : ∀ text, isSha256 (runtime.digest text) = true)
    (hsettle : AllSettle runtime (fresh enabled generation limit hlimit)
      (earlier ++ overlap ++ later))
    (hfree : NoCollision runtime (materializations (earlier ++ overlap ++ later)))
    (h : Survives runtime (materializations (earlier ++ overlap ++ later))
      (taskRun runtime (fresh enabled generation limit hlimit) (earlier ++ overlap)).2
      (taskRun runtime (fresh enabled generation limit hlimit) (earlier ++ overlap ++ later)).2
      (taskRun runtime (taskRun runtime (fresh enabled generation limit hlimit) earlier).2
        (overlap ++ later)).1) :
    Covers (taskRun runtime (fresh enabled generation limit hlimit) (earlier ++ overlap)).2
      (taskRun runtime (taskRun runtime (fresh enabled generation limit hlimit) earlier).2
        (overlap ++ later)).1 := by
  have hnone : NoCollision runtime (materializations (earlier ++ overlap ++ later) ++ []) := by
    rwa [append_nil]
  rw [journal_eq] at h ⊢
  obtain ⟨hcourse, -⟩ := course_of_fresh hsettle hnone
  obtain ⟨us, hus, -⟩ := hcourse.restores
  have hscope : Holds (taskRun runtime (fresh enabled generation limit hlimit)
      (earlier ++ overlap)).2 [(py "autonomy", .object (taskRun runtime
        (fresh enabled generation limit hlimit) (earlier ++ overlap)).2.toJson)] := rfl
  obtain ⟨changed, scope, restored, hreplay, hholds, hlive, hkeeps⟩ :=
    h [] _ _ hscope (journals_map _)
  obtain ⟨changed', scope', hreplay', hholds'⟩ :=
    hcourse.replays hhex hus hscope (journals_map _)
  obtain ⟨-, rfl⟩ := Prod.mk.inj (hreplay.symm.trans hreplay')
  exact hcourse.covers_of_replay hfloats hholds' hholds hlive (hkeeps [] hnone).1

lemma survives_of_covers (hfloats : PlatformJson.ShowsFloats runtime.toJsonRuntime)
    (hhex : ∀ text, isSha256 (runtime.digest text) = true)
    (hsettle : AllSettle runtime (fresh enabled generation limit hlimit)
      (earlier ++ overlap ++ later))
    (hfree : NoCollision runtime (materializations (earlier ++ overlap ++ later)))
    (h : Covers (taskRun runtime (fresh enabled generation limit hlimit) (earlier ++ overlap)).2
      (taskRun runtime (taskRun runtime (fresh enabled generation limit hlimit) earlier).2
        (overlap ++ later)).1) :
    Survives runtime (materializations (earlier ++ overlap ++ later))
      (taskRun runtime (fresh enabled generation limit hlimit) (earlier ++ overlap)).2
      (taskRun runtime (fresh enabled generation limit hlimit) (earlier ++ overlap ++ later)).2
      (taskRun runtime (taskRun runtime (fresh enabled generation limit hlimit) earlier).2
        (overlap ++ later)).1 := by
  have hnone : NoCollision runtime (materializations (earlier ++ overlap ++ later) ++ []) := by
    rwa [append_nil]
  rw [journal_eq] at h ⊢
  obtain ⟨hcourse, hsequence⟩ := course_of_fresh hsettle hnone
  obtain ⟨us, hus, halike⟩ := hcourse.restores
  intro lifeId scope events hholds hevents
  obtain ⟨changed, scope', hreplay, hlast⟩ := hcourse.replays hhex hus hholds hevents
  refine ⟨changed, scope', _, hreplay, hlast, halike, keepsPool_of_pooled ?_ fun further hno => ?_⟩
  · exact hsequence
  · exact (course_of_fresh hsettle hno).1.restored_pooled hfloats h halike

end Replay

/-- A disk without bundles, and the sum of the code points modulo sixteen as digest. -/
def sumRuntime : TaskRuntime where
  floatValue _ := 0
  floatText _ := py "0.0"
  shown _ := py "None"
  isoMs _ := 0
  intOfText _ := none
  digest text := List.replicate 64 ((py "0123456789abcdef").getD ((text.map Fin.val).sum % 16) 0)
  bundleArtifact _ := none
  ageHours ms := ms / 3600000

lemma sumRuntime_showsFloats : PlatformJson.ShowsFloats sumRuntime.toJsonRuntime :=
  fun _ => rfl

lemma sumRuntime_isSha256 (text : PyStr) :
    isSha256 (sumRuntime.digest text) = true := by
  have hdigits : ∀ k < 16, (py "0123456789abcdef").getD k 0 ∈ py "0123456789abcdef" := by decide
  simp only [isSha256, holds_iff, all_eq_true]
  refine ⟨length_replicate, fun c hc => ?_⟩
  rw [eq_of_mem_replicate hc]
  exact hdigits _ (Nat.mod_lt _ (by decide))

def reading : TaskCandidate where
  fields := [(py "fingerprint", .text (py "f1")), (py "source", .text (py "cognition"))]
  fingerprint := py "f1"
  hasFingerprint := rfl
  nonempty := cons_ne_nil _ _
  foreign := by decide
  distinct := by decide

/-- One task is generated. -/
def readingCall : TaskOperation :=
  .materialize ⟨[reading], py "life", py "scheduled", 1, none⟩

def idle : AutonomyState := fresh true true 16 (by decide)

lemma readingCall_settles : AllSettle sumRuntime idle [readingCall] := by
  have hreturns : ((readingCall.call sumRuntime).on idle).1.toBool = true := by decide +kernel
  refine ⟨fun fault s' h => ?_, trivial⟩
  rw [h] at hreturns
  cases hreturns

lemma readingCall_free : NoCollision sumRuntime (materializations [readingCall]) := by
  have hdiffers : canonicalSha256 sumRuntime
        (identity (py "life") (py "f1") 0) ≠
      canonicalSha256 sumRuntime
        (identity (py "life") (py "f1") 1) := by decide +kernel
  intro l hl l' hl' f hf f' hf' n hn n' hn' sha hsha hsha'
  obtain rfl : l = py "life" := mem_singleton.mp hl
  obtain rfl : l' = py "life" := mem_singleton.mp hl'
  obtain rfl : f = py "f1" := mem_singleton.mp hf
  obtain rfl : f' = py "f1" := mem_singleton.mp hf'
  refine ⟨rfl, rfl, ?_⟩
  have hone : n ≤ 1 ∧ n' ≤ 1 := ⟨hn, hn'⟩
  by_contra hne
  have hboth : n = 0 ∧ n' = 1 ∨ n = 1 ∧ n' = 0 := by omega
  rcases hboth with ⟨rfl, rfl⟩ | ⟨rfl, rfl⟩
  · exact hdiffers (hsha.trans hsha'.symm)
  · exact hdiffers (hsha'.trans hsha.symm)

lemma readingCall_generates : ∃ t, .generated t ∈ (taskRun sumRuntime idle [readingCall]).1 := by
  have hany : ((taskRun sumRuntime idle [readingCall]).1.any fun
      | .generated _ => true
      | .statusChanged _ => false) = true := by decide +kernel
  obtain ⟨e, he, hgenerated⟩ := any_eq_true.mp hany
  cases e with
  | generated t => exact ⟨t, he⟩
  | statusChanged t => cases hgenerated

end Tiangong
