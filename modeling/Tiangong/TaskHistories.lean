import Tiangong.AutonomyTasks

/-!
# Histories of tasks

What a call returns is an event: a task is generated under a number that is new, or a version of a
task takes the place of the one before. Replaying events over the tasks that a part of the same
history left gives the tasks of the whole history again.
-/
namespace Tiangong

open List

/-- The event of a task that a call returned. -/
inductive TaskEvent where
  | generated (task : AutonomyTask)
  | statusChanged (task : AutonomyTask)

namespace TaskEvent

def task : TaskEvent → AutonomyTask
  | generated t => t
  | statusChanged t => t

end TaskEvent

/-- Two versions of one task: what a change of state leaves alone is the same. -/
structure SameTask (t t' : AutonomyTask) : Prop where
  taskId : t.taskId = t'.taskId
  lifeId : t.lifeId = t'.lifeId
  candidate : t.candidate = t'.candidate
  generationReason : t.generationReason = t'.generationReason
  sequence : t.sequence = t'.sequence
  createdAtMs : t.createdAtMs = t'.createdAtMs

theorem SameTask.refl (t : AutonomyTask) : SameTask t t := ⟨rfl, rfl, rfl, rfl, rfl, rfl⟩

variable {t : AutonomyTask}

theorem SameTask.symm {t' : AutonomyTask} (h : SameTask t t') : SameTask t' t :=
  ⟨h.1.symm, h.2.symm, h.3.symm, h.4.symm, h.5.symm, h.6.symm⟩

theorem SameTask.trans {t' t'' : AutonomyTask} (h : SameTask t t') (h' : SameTask t' t'') :
    SameTask t t'' :=
  ⟨h.1.trans h'.1, h.2.trans h'.2, h.3.trans h'.3, h.4.trans h'.4, h.5.trans h'.5, h.6.trans h'.6⟩

def taskIds (ts : List AutonomyTask) : List PyStr := ts.map AutonomyTask.taskId

theorem setTask_of_notMem {ts : List AutonomyTask}
    (h : t.taskId ∉ taskIds ts) : setTask t ts = ts ++ [t] := by
  induction ts with
  | nil => rfl
  | cons t' ts ih =>
    simp only [taskIds, map_cons, mem_cons, not_or] at h
    rw [setTask, if_neg (Ne.symm h.1), ih h.2, cons_append]

theorem setTask_of_mem {ts : List AutonomyTask} (hnodup : (taskIds ts).Nodup)
    (h : t.taskId ∈ taskIds ts) :
    setTask t ts = ts.map fun t' => if t'.taskId = t.taskId then t else t' := by
  induction ts with
  | nil => cases h
  | cons t' ts ih =>
    simp only [taskIds, map_cons, nodup_cons, mem_cons] at hnodup h
    rw [setTask, map_cons]
    by_cases heq : t'.taskId = t.taskId
    · rw [if_pos heq, if_pos heq]
      have hrest : ∀ t'' ∈ ts, (if t''.taskId = t.taskId then t else t'') = t'' := by
        intro t'' hmem
        rw [if_neg]
        intro hsame
        exact hnodup.1 (heq ▸ hsame ▸ mem_map_of_mem hmem)
      rw [map_congr_left hrest, map_id']
    · rw [if_neg heq, if_neg heq, ih hnodup.2 (h.resolve_left (Ne.symm heq))]

theorem taskIds_setTask {ts : List AutonomyTask} (h : t.taskId ∈ taskIds ts) :
    taskIds (setTask t ts) = taskIds ts := by
  induction ts with
  | nil => cases h
  | cons t' ts ih =>
    simp only [taskIds, map_cons, mem_cons] at h
    rw [setTask]
    by_cases heq : t'.taskId = t.taskId
    · rw [if_pos heq, taskIds, map_cons, taskIds, map_cons, heq]
    · rw [if_neg heq, taskIds, map_cons, taskIds, map_cons]
      exact congrArg _ (ih (h.resolve_left (Ne.symm heq)))

/-- One event of a history. A task that has ended keeps its state. -/
inductive TaskStep : List AutonomyTask → TaskEvent → List AutonomyTask → Prop
  | generated {ts : List AutonomyTask} {t : AutonomyTask} (hfresh : t.taskId ∉ taskIds ts) :
    TaskStep ts (.generated t) (ts ++ [t])
  | statusChanged {ts : List AutonomyTask} {t t' : AutonomyTask} (hmem : t' ∈ ts)
    (hsame : SameTask t' t) (hended : t'.status.isTerminal = true → t.status = t'.status) :
    TaskStep ts (.statusChanged t) (setTask t ts)

inductive TaskSteps : List AutonomyTask → List TaskEvent → List AutonomyTask → Prop
  | nil (ts : List AutonomyTask) : TaskSteps ts [] ts
  | cons {ts ts' ts'' : List AutonomyTask} {e : TaskEvent} {es : List TaskEvent}
    (hstep : TaskStep ts e ts') (hrest : TaskSteps ts' es ts'') : TaskSteps ts (e :: es) ts''

namespace TaskSteps

variable {ts ts' ts'' : List AutonomyTask} {es es' : List TaskEvent}

theorem append (h : TaskSteps ts es ts') (h' : TaskSteps ts' es' ts'') :
    TaskSteps ts (es ++ es') ts'' := by
  induction h with
  | nil => exact h'
  | cons hstep _ ih => exact .cons hstep (ih h')

theorem single {e : TaskEvent} (h : TaskStep ts e ts') : TaskSteps ts [e] ts' := .cons h (.nil _)

end TaskSteps

variable {e : TaskEvent}

theorem TaskStep.nodup {ts ts' : List AutonomyTask} (h : TaskStep ts e ts')
    (hnodup : (taskIds ts).Nodup) : (taskIds ts').Nodup := by
  cases h with
  | generated hfresh =>
    rw [taskIds, map_append, nodup_append]
    refine ⟨hnodup, by simp, ?_⟩
    intro id hid id' hid' heq
    simp only [map_cons, map_nil, mem_singleton] at hid'
    subst heq hid'
    exact hfresh hid
  | statusChanged hmem hsame _ =>
    rwa [taskIds_setTask (hsame.taskId ▸ mem_map_of_mem hmem)]

theorem TaskSteps.nodup {ts ts' : List AutonomyTask} {es : List TaskEvent}
    (h : TaskSteps ts es ts') (hnodup : (taskIds ts).Nodup) : (taskIds ts').Nodup := by
  induction h with
  | nil => exact hnodup
  | cons hstep _ ih => exact ih (hstep.nodup hnodup)

/-- A task stays in its history, in later versions. -/
def Carried (ts ts' : List AutonomyTask) : Prop :=
  ∀ t ∈ ts, ∃ t' ∈ ts', SameTask t t' ∧ (t.status.isTerminal = true → t'.status = t.status)

theorem TaskStep.carried {ts ts' : List AutonomyTask} (h : TaskStep ts e ts')
    (hnodup : (taskIds ts).Nodup) : Carried ts ts' := by
  intro u hu
  cases h with
  | generated _ => exact ⟨u, mem_append_left _ hu, .refl u, fun _ => rfl⟩
  | @statusChanged t t' hmem hsame hended =>
    rw [setTask_of_mem hnodup (hsame.taskId ▸ mem_map_of_mem hmem)]
    by_cases hid : u.taskId = t.taskId
    · have hsameTask : u = t' :=
        inj_on_of_nodup_map hnodup hu hmem (hid.trans hsame.taskId.symm)
      subst hsameTask
      exact ⟨t, mem_map.mpr ⟨u, hu, if_pos hid⟩, hsame, hended⟩
    · exact ⟨u, mem_map.mpr ⟨u, hu, if_neg hid⟩, .refl u, fun _ => rfl⟩

theorem Carried.trans {ts ts' ts'' : List AutonomyTask} (h : Carried ts ts')
    (h' : Carried ts' ts'') : Carried ts ts'' := by
  intro t ht
  obtain ⟨t', ht', hsame, hended⟩ := h t ht
  obtain ⟨t'', ht'', hsame', hended'⟩ := h' t' ht'
  refine ⟨t'', ht'', hsame.trans hsame', fun hterminal => ?_⟩
  have hstatus := hended hterminal
  rw [hended' (by rwa [hstatus]), hstatus]

theorem TaskSteps.carried {ts ts' : List AutonomyTask} {es : List TaskEvent}
    (h : TaskSteps ts es ts') (hnodup : (taskIds ts).Nodup) : Carried ts ts' := by
  induction h with
  | nil => exact fun t ht => ⟨t, ht, .refl t, fun _ => rfl⟩
  | cons hstep _ ih => exact (hstep.carried hnodup).trans (ih (hstep.nodup hnodup))

theorem TaskSteps.event_carried {ts ts' : List AutonomyTask} {es : List TaskEvent}
    (h : TaskSteps ts es ts') (hnodup : (taskIds ts).Nodup) (he : e ∈ es) :
    ∃ t' ∈ ts', SameTask e.task t' ∧
      (e.task.status.isTerminal = true → t'.status = e.task.status) := by
  induction h with
  | nil => cases he
  | @cons ts ts' ts'' first es hstep hrest ih =>
    rcases mem_cons.mp he with rfl | hlater
    · have hmem : e.task ∈ ts' := by
        cases hstep with
        | generated _ => exact mem_append_right _ mem_cons_self
        | statusChanged hmem hsame _ =>
          have hid := hsame.taskId ▸ mem_map_of_mem (f := AutonomyTask.taskId) hmem
          obtain ⟨t', ht', hid'⟩ := mem_map.mp hid
          rw [setTask_of_mem hnodup hid]
          exact mem_map.mpr ⟨t', ht', if_pos hid'⟩
      exact hrest.carried (hstep.nodup hnodup) e.task hmem
    · exact ih (hstep.nodup hnodup) hlater

theorem Carried.taskIds_subset {ts ts' : List AutonomyTask} (h : Carried ts ts') :
    taskIds ts ⊆ taskIds ts' := by
  intro id hid
  obtain ⟨t, ht, rfl⟩ := mem_map.mp hid
  obtain ⟨t', ht', hsame, -⟩ := h t ht
  exact mem_map.mpr ⟨t', ht', hsame.taskId.symm⟩

theorem TaskSteps.generated_fresh {ts ts' : List AutonomyTask} {es : List TaskEvent}
    (h : TaskSteps ts es ts') (hnodup : (taskIds ts).Nodup)
    (ht : .generated t ∈ es) : t.taskId ∉ taskIds ts := by
  induction h with
  | nil => cases ht
  | cons hstep _ ih =>
    rcases mem_cons.mp ht with rfl | hlater
    · cases hstep with
      | generated hfresh => exact hfresh
    · intro hmem
      exact ih (hstep.nodup hnodup) hlater ((hstep.carried hnodup).taskIds_subset hmem)

theorem TaskSteps.given {ts ts' : List AutonomyTask} {es : List TaskEvent}
    (h : TaskSteps ts es ts') {id : PyStr} (hid : id ∈ taskIds ts') :
    id ∈ taskIds ts ∨ ∃ t, .generated t ∈ es ∧ t.taskId = id := by
  induction h with
  | nil => exact .inl hid
  | @cons ts ts' ts'' e es hstep _ ih =>
    rcases ih hid with hnext | ⟨t, ht, rfl⟩
    · cases hstep with
      | @generated t _ =>
        rw [taskIds, map_append] at hnext
        rcases mem_append.mp hnext with hold | hnew
        · exact .inl hold
        · exact .inr ⟨t, mem_cons_self, (mem_singleton.mp hnew).symm⟩
      | statusChanged hmem hsame _ =>
        rw [taskIds_setTask (hsame.taskId ▸ mem_map_of_mem hmem)] at hnext
        exact .inl hnext
    · exact .inr ⟨t, mem_cons_of_mem _ ht, rfl⟩

/-- A task at the end was there at the start, or is that of an event. -/
theorem TaskSteps.origin {ts ts' : List AutonomyTask} {es : List TaskEvent}
    (h : TaskSteps ts es ts') (hnodup : (taskIds ts).Nodup) (ht : t ∈ ts') :
    t ∈ ts ∨ ∃ e ∈ es, e.task = t := by
  induction h with
  | nil => exact .inl ht
  | @cons ts ts' ts'' e es hstep _ ih =>
    rcases ih (hstep.nodup hnodup) ht with hnext | ⟨e', he', heq⟩
    · cases hstep with
      | generated _ =>
        rcases mem_append.mp hnext with hold | hnew
        · exact .inl hold
        · obtain rfl := mem_singleton.mp hnew
          exact .inr ⟨_, mem_cons_self, rfl⟩
      | statusChanged hmem hsame _ =>
        rw [setTask_of_mem hnodup (hsame.taskId ▸ mem_map_of_mem hmem)] at hnext
        obtain ⟨u, hu, rfl⟩ := mem_map.mp hnext
        split
        · exact .inr ⟨_, mem_cons_self, rfl⟩
        · exact .inl hu
    · exact .inr ⟨e', mem_cons_of_mem _ he', heq⟩

end Tiangong
