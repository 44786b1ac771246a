import Tiangong.TaskHistories

/-!
# Restoring tasks from events

The reducers enter a task that is missing, and put the version of an event where its text differs.
Over tasks that a part of the history left, the events of that part change nothing that lasts, and
the later ones lead to the tasks of the whole history.
-/
open List

namespace Tiangong

open JournalReplay (same)

variable (runtime : ReplayRuntime)

/-- Two versions of one task with one text. -/
def Alike (t t' : AutonomyTask) : Prop :=
  SameTask t t' ∧ same runtime (.object t.row) (.object t'.row) = true

/-- What the reducers make of the tasks. -/
def restoreTask (ts : List AutonomyTask) : TaskEvent → List AutonomyTask
  | .generated t => if t.taskId ∈ taskIds ts then ts else ts ++ [t]
  | .statusChanged t => ts.map fun u =>
      if u.taskId = t.taskId ∧ same runtime (.object u.row) (.object t.row) = false then t else u

/-- The reducers take the event. -/
def Restorable (ts : List AutonomyTask) : TaskEvent → Prop
  | .generated t => ∀ u ∈ ts, u.taskId = t.taskId → SameTask u t
  | .statusChanged t => t.taskId ∈ taskIds ts

/-- The reducers take events one after the other. -/
inductive Restores : List AutonomyTask → List TaskEvent → List AutonomyTask → Prop
  | nil (ts : List AutonomyTask) : Restores ts [] ts
  | cons {ts ts' : List AutonomyTask} {e : TaskEvent} {es : List TaskEvent}
    (hstep : Restorable ts e) (hrest : Restores (restoreTask runtime ts e) es ts') :
    Restores ts (e :: es) ts'

variable {runtime}

theorem same_self (v : PlatformJson) : same runtime v v = true := by
  simp [same]

theorem Alike.refl (t : AutonomyTask) : Alike runtime t t := ⟨.refl t, same_self _⟩

variable {ts ts' : List AutonomyTask} {es : List TaskEvent}

theorem Restores.append {ts'' : List AutonomyTask} {es' : List TaskEvent}
    (h : Restores runtime ts es ts') (h' : Restores runtime ts' es' ts'') :
    Restores runtime ts (es ++ es') ts'' := by
  induction h with
  | nil => exact h'
  | cons hstep _ ih => exact .cons hstep (ih h')

lemma forall₂_imp_of_mem {α β : Type*} {R S : α → β → Prop} {xs : List α} {ys : List β}
    (h : List.Forall₂ R xs ys) (hRS : ∀ x y, y ∈ ys → R x y → S x y) : List.Forall₂ S xs ys := by
  induction h with
  | nil => exact .nil
  | cons hxy _ ih =>
    refine .cons (hRS _ _ mem_cons_self hxy) (ih fun x y hy => ?_)
    exact hRS x y (mem_cons_of_mem _ hy)

variable {us : List AutonomyTask}

theorem taskIds_eq_of_forall₂ {R : AutonomyTask → AutonomyTask → Prop}
    (h : List.Forall₂ R us ts) (hR : ∀ u t, R u t → u.taskId = t.taskId) :
    taskIds us = taskIds ts := by
  induction h with
  | nil => rfl
  | cons hut _ ih =>
    rw [taskIds, map_cons, hR _ _ hut]
    exact congrArg _ ih

variable {e : TaskEvent}

lemma restore_follows (hus : List.Forall₂ (Alike runtime) us ts) (hnodup : (taskIds ts).Nodup)
    (hstep : TaskStep ts e ts') :
    Restorable us e ∧ List.Forall₂ (Alike runtime) (restoreTask runtime us e) ts' := by
  have hids := taskIds_eq_of_forall₂ hus fun u t h => h.1.taskId
  cases hstep with
  | generated hfresh =>
    rename_i t
    rw [← hids] at hfresh
    refine ⟨fun u hu hid => absurd (hid ▸ mem_map_of_mem hu) hfresh, ?_⟩
    rw [restoreTask, if_neg hfresh]
    exact rel_append hus (.cons (.refl t) .nil)
  | @statusChanged t t' hmem hsame _ =>
    have hid := hsame.taskId ▸ mem_map_of_mem (f := AutonomyTask.taskId) hmem
    have hthere : t.taskId ∈ taskIds us := by rwa [hids]
    refine ⟨hthere, ?_⟩
    rw [setTask_of_mem hnodup hid, restoreTask, List.forall₂_map_left_iff,
      List.forall₂_map_right_iff]
    have hpair : ∀ u v, v ∈ ts → Alike runtime u v → Alike runtime
          (if u.taskId = t.taskId ∧ same runtime (.object u.row) (.object t.row) = false then t
            else u)
          (if v.taskId = t.taskId then t else v) := by
      intro u v hv halike
      by_cases huid : u.taskId = t.taskId
      · have hvid : v.taskId = t.taskId := halike.1.taskId ▸ huid
        obtain rfl := inj_on_of_nodup_map hnodup hv hmem (hvid.trans hsame.taskId.symm)
        rw [if_pos hvid]
        cases htext : same runtime (.object u.row) (.object t.row) with
        | false =>
          rw [if_pos ⟨huid, rfl⟩]
          exact .refl t
        | true =>
          rw [if_neg (by simp)]
          exact ⟨halike.1.trans hsame, htext⟩
      · have hvid : v.taskId ≠ t.taskId := halike.1.taskId ▸ huid
        rw [if_neg hvid, if_neg fun h => huid h.1]
        exact halike
    exact forall₂_imp_of_mem hus hpair

lemma restores_follows (hsteps : TaskSteps ts es ts') (hnodup : (taskIds ts).Nodup)
    (hus : List.Forall₂ (Alike runtime) us ts) :
    ∃ us', Restores runtime us es us' ∧ List.Forall₂ (Alike runtime) us' ts' := by
  induction hsteps generalizing us with
  | nil => exact ⟨us, .nil us, hus⟩
  | cons hstep _ ih =>
    obtain ⟨hrestorable, hnext⟩ := restore_follows hus hnodup hstep
    obtain ⟨us', hrestores, hlast⟩ := ih (hstep.nodup hnodup) hnext
    exact ⟨us', .cons hrestorable hrestores, hlast⟩

/-- The last version of each task that an event has put. -/
abbrev LastChanges := PyStr → Option AutonomyTask

def LastChanges.mark (last : LastChanges) : TaskEvent → LastChanges
  | .generated _ => last
  | .statusChanged t => Function.update last t.taskId (some t)

/-- The versions that were put last are those of the tasks. -/
structure Recorded (last : LastChanges) (ts : List AutonomyTask) : Prop where
  current : ∀ t ∈ ts, ∀ t', last t.taskId = some t' → t' = t
  known : ∀ id t', last id = some t' → id ∈ taskIds ts

theorem recorded_none (ts : List AutonomyTask) : Recorded (fun _ => none) ts where
  current _ _ _ h := by cases h
  known _ _ h := by cases h

variable {last : LastChanges}

theorem TaskStep.recorded
    (h : TaskStep ts e ts') (hnodup : (taskIds ts).Nodup) (hlast : Recorded last ts) :
    Recorded (last.mark e) ts' := by
  cases h with
  | generated hfresh =>
    rename_i t
    refine ⟨?_, fun id t' hid => ?_⟩
    · intro u hu t' hmark
      rcases mem_append.mp hu with hold | hnew
      · exact hlast.current u hold t' hmark
      · obtain rfl := mem_singleton.mp hnew
        exact absurd (hlast.known _ t' hmark) hfresh
    · rw [taskIds, map_append]
      exact mem_append_left _ (hlast.known id t' hid)
  | @statusChanged t v hmem hsame _ =>
    have hid : t.taskId ∈ taskIds ts :=
      hsame.taskId ▸ mem_map_of_mem (f := AutonomyTask.taskId) hmem
    refine ⟨?_, ?_⟩
    · intro u hu t' hmark
      rw [setTask_of_mem hnodup hid] at hu
      obtain ⟨w, hw, rfl⟩ := mem_map.mp hu
      by_cases hwid : w.taskId = t.taskId
      · rw [if_pos hwid] at hmark ⊢
        simpa [LastChanges.mark] using hmark.symm
      · rw [if_neg hwid] at hmark ⊢
        simp only [LastChanges.mark, Function.update_of_ne hwid] at hmark
        exact hlast.current w hw t' hmark
    · intro id t' hmark
      rw [taskIds_setTask hid]
      by_cases heq : id = t.taskId
      · rwa [heq]
      · simp only [LastChanges.mark, Function.update_of_ne heq] at hmark
        exact hlast.known id t' hmark

theorem TaskSteps.recorded (h : TaskSteps ts es ts') (hnodup : (taskIds ts).Nodup)
    (hlast : Recorded last ts) : Recorded (es.foldl LastChanges.mark last) ts' := by
  induction h generalizing last with
  | nil => exact hlast
  | cons hstep _ ih => exact ih (hstep.nodup hnodup) (hstep.recorded hnodup hlast)

variable (runtime)

/-- Tasks in which the versions that were put last stand in for the given ones. -/
def Overlaid (last : LastChanges) (us ts : List AutonomyTask) : Prop :=
  List.Forall₂ (fun u t => SameTask u t ∧
    same runtime (.object u.row) (.object ((last t.taskId).getD t).row) = true) us ts

variable {runtime}

/-- An event of a task that is there puts its version. -/
lemma restore_overlaid (hus : Overlaid runtime last us ts) (hnodup : (taskIds ts).Nodup)
    (he : ∃ t ∈ ts, SameTask e.task t) :
    Restorable us e ∧ Overlaid runtime (last.mark e) (restoreTask runtime us e) ts := by
  have hids := taskIds_eq_of_forall₂ hus fun u t h => h.1.taskId
  obtain ⟨v, hv, hsame⟩ := he
  have hmem : e.task.taskId ∈ taskIds us := by
    rw [hids, hsame.taskId]
    exact mem_map_of_mem hv
  cases e with
  | generated t =>
    refine ⟨?_, ?_⟩
    · intro u hu hid
      obtain ⟨w, hw, huw, -⟩ := exists_partner hus hu
      have hwv : w.taskId = v.taskId := by rw [← huw.taskId, hid, ← hsame.taskId]; rfl
      obtain rfl := inj_on_of_nodup_map hnodup hw hv hwv
      exact huw.trans hsame.symm
    · have hthere : t.taskId ∈ taskIds us := hmem
      rw [restoreTask, if_pos hthere]
      exact hus
  | statusChanged t =>
    refine ⟨hmem, ?_⟩
    unfold Overlaid restoreTask
    rw [List.forall₂_map_left_iff]
    refine forall₂_imp_of_mem hus fun u w hw h => ?_
    by_cases huid : u.taskId = t.taskId
    · have hwid : w.taskId = t.taskId := h.1.taskId ▸ huid
      obtain rfl := inj_on_of_nodup_map hnodup hw hv (hwid.trans hsame.taskId)
      have hlast : last.mark (.statusChanged t) w.taskId = some t := by
        rw [LastChanges.mark, hwid, Function.update_self]
      rw [hlast]
      cases htext : same runtime (.object u.row) (.object t.row) with
      | false =>
        rw [if_pos ⟨huid, rfl⟩]
        exact ⟨hsame, same_self _⟩
      | true =>
        rw [if_neg (by simp)]
        exact ⟨h.1, htext⟩
    · have hwid : w.taskId ≠ t.taskId := h.1.taskId ▸ huid
      have hlast : last.mark (.statusChanged t) w.taskId = last w.taskId := by
        rw [LastChanges.mark, Function.update_of_ne hwid]
      rw [hlast, if_neg fun h => huid h.1]
      exact h

lemma restores_overlaid (hus : Overlaid runtime last us ts) (hnodup : (taskIds ts).Nodup)
    (hes : ∀ e ∈ es, ∃ t ∈ ts, SameTask e.task t) :
    ∃ us', Restores runtime us es us' ∧
      Overlaid runtime (es.foldl LastChanges.mark last) us' ts := by
  induction es generalizing last us with
  | nil => exact ⟨us, .nil us, hus⟩
  | cons e es ih =>
    obtain ⟨hrestorable, hnext⟩ := restore_overlaid hus hnodup (hes e mem_cons_self)
    obtain ⟨us', hrestores, hlast⟩ := ih hnext fun e' he' => hes e' (mem_cons_of_mem _ he')
    exact ⟨us', .cons hrestorable hrestores, hlast⟩

/-- Replaying the events that led to tasks over these tasks gives them again. -/
lemma restores_again {ts ts' : List AutonomyTask} {es : List TaskEvent}
    (hsteps : TaskSteps ts es ts') (hnodup : (taskIds ts).Nodup) :
    ∃ us, Restores runtime ts' es us ∧ List.Forall₂ (Alike runtime) us ts' := by
  have hstart : Overlaid runtime (fun _ => none) ts' ts' :=
    List.forall₂_same.mpr fun t _ => ⟨.refl t, same_self _⟩
  have hevents : ∀ e ∈ es, ∃ t ∈ ts', SameTask e.task t := by
    intro e he
    obtain ⟨t, ht, hsame, -⟩ := hsteps.event_carried hnodup he
    exact ⟨t, ht, hsame⟩
  obtain ⟨us, hrestores, hlast⟩ := restores_overlaid hstart (hsteps.nodup hnodup) hevents
  refine ⟨us, hrestores, forall₂_imp_of_mem hlast fun u t ht h => ⟨h.1, ?_⟩⟩
  have hrecorded : Recorded (es.foldl LastChanges.mark fun _ => none) ts' :=
    hsteps.recorded hnodup (recorded_none ts)
  cases hmark : es.foldl LastChanges.mark (fun _ => none) t.taskId with
  | none =>
    have htext := h.2
    rwa [hmark] at htext
  | some t' =>
    have htext := h.2
    rw [hmark] at htext
    rwa [hrecorded.current t ht t' hmark] at htext

/-- Replaying events of a part of a history, and then those behind it, over what the part left. -/
theorem restores_history {ts'' : List AutonomyTask} {es' : List TaskEvent}
    (hpart : TaskSteps ts es ts') (hlater : TaskSteps ts' es' ts'') (hnodup : (taskIds ts).Nodup) :
    ∃ us, Restores runtime ts' (es ++ es') us ∧ List.Forall₂ (Alike runtime) us ts'' := by
  obtain ⟨us, hagain, hus⟩ := @restores_again runtime _ _ _ hpart hnodup
  obtain ⟨us', hfollows, hus'⟩ := restores_follows hlater (hpart.nodup hnodup) hus
  exact ⟨us', hagain.append hfollows, hus'⟩

end Tiangong
