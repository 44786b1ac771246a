import Tiangong.TaskHistories

/-!
# The pool of tasks

What every call of the engine keeps: the numbers of the tasks are digests of different contents, no
cause has two active tasks, the limits hold, and the counters agree with the rows.
-/
namespace Tiangong

open AutonomyTask List AutonomyState Call

/-- The digests of task numbers do not collide, for these lives and causes and up to this sequence
number. -/
def CollisionFree (runtime : TaskRuntime) (lives fingerprints : List PyStr) (last : ℕ) : Prop :=
  ∀ l ∈ lives, ∀ l' ∈ lives, ∀ f ∈ fingerprints, ∀ f' ∈ fingerprints, ∀ n ≤ last, ∀ n' ≤ last,
    ∀ sha, canonicalSha256 runtime (identity l f n) = .ok sha →
      canonicalSha256 runtime (identity l' f' n') = .ok sha → l = l' ∧ f = f' ∧ n = n'

def countStatus (status : TaskStatus) (ts : List AutonomyTask) : ℕ :=
  ts.countP fun t => t.status = status

/-- The invariant of the engine. -/
structure Pooled (runtime : TaskRuntime) (lives fingerprints : List PyStr)
    (s : AutonomyState) : Prop where
  named : ∀ t ∈ s.tasks, ∃ sha, canonicalSha256 runtime
    (identity t.lifeId t.candidate.fingerprint t.sequence) = .ok sha ∧ t.taskId = py "lat_" ++ sha
  known : ∀ t ∈ s.tasks, t.lifeId ∈ lives ∧ t.candidate.fingerprint ∈ fingerprints
  numbered : ∀ t ∈ s.tasks, t.sequence ≤ s.taskSequence
  nodup : (taskIds s.tasks).Nodup
  unique : s.activeFingerprints.Nodup
  bounded : s.activeFingerprints.length ≤ s.pendingLimit
  generated : s.generatedTotal = s.tasks.length
  completed : s.completedTotal = countStatus .completed s.tasks
  failed : s.failedTotal = countStatus .failed s.tasks

variable {runtime : TaskRuntime} {lives fingerprints : List PyStr} {last : ℕ}

theorem pooled_fresh (enabled generation : Bool) (limit : ℕ) (h : limit ≤ 1024) :
    Pooled runtime lives fingerprints (.fresh enabled generation limit h) where
  named _ ht := by cases ht
  known _ ht := by cases ht
  numbered _ ht := by cases ht
  nodup := .nil
  unique := .nil
  bounded := Nat.zero_le _
  generated := rfl
  completed := rfl
  failed := rfl

variable {lifeId reason : PyStr} {nowMs : ℕ} {c : TaskCandidate} {t : AutonomyTask}

/-- What a new task is. -/
lemma make_eq_ok {sequence : ℕ} (h : make runtime lifeId reason nowMs c sequence = .ok t) :
    (∃ sha, canonicalSha256 runtime (identity lifeId c.fingerprint sequence) = .ok sha ∧
      t.taskId = py "lat_" ++ sha) ∧ t.lifeId = lifeId ∧ t.candidate = c ∧
      t.sequence = sequence ∧ t.status.isActive = true := by
  simp only [make, withDigest, eq_ok_iff] at h
  obtain ⟨sha, hsha, digest, -, rfl⟩ := h
  refine ⟨⟨sha, hsha, rfl⟩, rfl, rfl, rfl, ?_⟩
  dsimp only
  split <;> rfl

variable {s : AutonomyState}

/-- The number of a new task is new. -/
lemma Pooled.fresh_id (h : Pooled runtime lives fingerprints s)
    (hfree : CollisionFree runtime lives fingerprints last)
    (hmake : make runtime lifeId reason nowMs c (s.taskSequence + 1) = .ok t)
    (hlife : lifeId ∈ lives) (hcause : c.fingerprint ∈ fingerprints)
    (hlast : s.taskSequence + 1 ≤ last) : t.taskId ∉ taskIds s.tasks := by
  intro hmem
  obtain ⟨u, hu, huid⟩ := mem_map.mp hmem
  obtain ⟨sha, hsha, huname⟩ := h.named u hu
  obtain ⟨⟨sha', hsha', htname⟩, -⟩ := make_eq_ok hmake
  have hsame : sha = sha' := by
    rw [htname, huname] at huid
    exact append_cancel_left huid
  subst hsame
  have hnumber := h.numbered u hu
  have hsequence := (hfree _ (h.known u hu).1 _ hlife _ (h.known u hu).2 _ hcause _
    (by omega) _ hlast sha hsha hsha').2.2
  omega

theorem Pooled.enter (h : Pooled runtime lives fingerprints s)
    (hmake : make runtime lifeId reason nowMs c (s.taskSequence + 1) = .ok t)
    (hfresh : t.taskId ∉ taskIds s.tasks)
    (hlife : lifeId ∈ lives) (hcause : c.fingerprint ∈ fingerprints)
    (hnew : c.fingerprint ∉ s.activeFingerprints)
    (hroom : s.activeFingerprints.length < s.pendingLimit) :
    Pooled runtime lives fingerprints (s.enter t) := by
  obtain ⟨⟨sha, hsha, hname⟩, rfl, rfl, hsequence, hactive⟩ := make_eq_ok hmake
  have htasks : (s.enter t).tasks = s.tasks ++ [t] := setTask_of_notMem hfresh
  have hactives : (s.enter t).activeFingerprints =
      s.activeFingerprints ++ [t.candidate.fingerprint] := by
    simp [activeFingerprints, htasks, filter_append, hactive]
  have hunfinished : ∀ status : TaskStatus, status.isTerminal = true → t.status ≠ status := by
    rintro status hterminal rfl
    rw [TaskStatus.isActive_eq, hterminal] at hactive
    cases hactive
  have hcount : ∀ status : TaskStatus, status.isTerminal = true →
      countStatus status (s.tasks ++ [t]) = countStatus status s.tasks := by
    intro status hterminal
    simp [countStatus, countP_append, hunfinished status hterminal]
  refine ⟨?_, ?_, ?_, ?_, ?_, ?_, ?_, ?_, ?_⟩
  · intro u hu
    rw [htasks] at hu
    rcases mem_append.mp hu with hold | hlast
    · exact h.named u hold
    · obtain rfl := mem_singleton.mp hlast
      exact ⟨sha, by rwa [hsequence], hname⟩
  · intro u hu
    rw [htasks] at hu
    rcases mem_append.mp hu with hold | hlast
    · exact h.known u hold
    · obtain rfl := mem_singleton.mp hlast
      exact ⟨hlife, hcause⟩
  · intro u hu
    change u.sequence ≤ t.sequence
    rw [htasks] at hu
    rcases mem_append.mp hu with hold | hlast
    · have hnumber := h.numbered u hold
      omega
    · obtain rfl := mem_singleton.mp hlast
      exact le_refl _
  · rw [htasks]
    exact (TaskStep.generated hfresh).nodup h.nodup
  · rw [hactives, nodup_append]
    refine ⟨h.unique, nodup_singleton _, ?_⟩
    rintro f hf f' hf' rfl
    exact hnew (mem_singleton.mp hf' ▸ hf)
  · rw [hactives, length_append, length_singleton]
    exact hroom
  · rw [htasks, length_append, length_singleton, ← h.generated]
    rfl
  · rw [htasks, hcount _ rfl, ← h.completed]
    rfl
  · rw [htasks, hcount _ rfl, ← h.failed]
    rfl

/-- Where a call of the loop over candidates can leave the pool. -/
structure Generated (runtime : TaskRuntime) (lives fingerprints : List PyStr) (s : AutonomyState)
    (cognition : ℕ) (created : Except TaskFault (List AutonomyTask)) (s' : AutonomyState) :
    Prop where
  pooled : Pooled runtime lives fingerprints s'
  limit : s'.pendingLimit = s.pendingLimit
  kept : s.tasks <+: s'.tasks
  sequence : s.taskSequence ≤ s'.taskSequence
  cognition : (s'.cognitionFingerprints runtime).length ≤
    (s.cognitionFingerprints runtime).length + cognition
  history : ∀ ts, created = .ok ts → TaskSteps s.tasks (ts.map .generated) s'.tasks

variable {created : Except TaskFault (List AutonomyTask)}

theorem Generated.refl (h : Pooled runtime lives fingerprints s) (cognition : ℕ)
    (hcreated : ∀ ts, created = .ok ts → ts = []) :
    Generated runtime lives fingerprints s cognition created s where
  pooled := h
  limit := rfl
  kept := prefix_rfl
  sequence := le_refl _
  cognition := Nat.le_add_right _ _
  history ts hts := by
    rw [hcreated ts hts]
    exact .nil _

lemma cognition_enter (hfresh : t.taskId ∉ taskIds s.tasks) :
    ((s.enter t).cognitionFingerprints runtime).length =
      (s.cognitionFingerprints runtime).length + if t.isCognition runtime then 1 else 0 := by
  have htasks : (s.enter t).tasks = s.tasks ++ [t] := setTask_of_notMem hfresh
  rw [cognitionFingerprints, htasks, filter_append, map_append,
    length_append, cognitionFingerprints]
  by_cases h : t.isCognition runtime = true
  · simp [h]
  · simp [h]

/-- A new task before what the rest of the loop generates. -/
theorem Generated.cons {s s' : AutonomyState} {t : AutonomyTask} {cognition : ℕ}
    {rest : Except TaskFault (List AutonomyTask)} (hfresh : t.taskId ∉ taskIds s.tasks)
    (hsequence : s.taskSequence ≤ t.sequence)
    (hcognition : t.candidate.isCatalog runtime = false → cognition ≠ 0)
    (h : Generated runtime lives fingerprints (s.enter t)
      (if t.candidate.isCatalog runtime then cognition else cognition - 1) rest s') :
    Generated runtime lives fingerprints s cognition (rest.map (t :: ·)) s' where
  pooled := h.pooled
  limit := h.limit
  kept := by
    have hkept := h.kept
    rw [show (s.enter t).tasks = s.tasks ++ [t] from setTask_of_notMem hfresh] at hkept
    exact (prefix_append _ _).trans hkept
  sequence := hsequence.trans h.sequence
  cognition := by
    have hbound := h.cognition
    rw [cognition_enter hfresh] at hbound
    cases hcatalog : t.candidate.isCatalog runtime with
    | true =>
      rw [hcatalog, if_pos rfl, if_neg (by simp [isCognition, hcatalog])] at hbound
      omega
    | false =>
      have hpositive := hcognition hcatalog
      rw [hcatalog, if_neg Bool.false_ne_true] at hbound
      split at hbound <;> omega
  history ts hts := by
    cases rest with
    | error fault => cases hts
    | ok created =>
      obtain rfl := Except.ok.inj hts
      have hlater := h.history created rfl
      rw [show (s.enter t).tasks = s.tasks ++ [t] from setTask_of_notMem hfresh] at hlater
      exact .cons (.generated hfresh) hlater

variable {s' : AutonomyState}

/-- The loop over the candidates. -/
lemma materializeEach_spec {existing : List PyStr}
    {total cognition : ℕ} {candidates : List TaskCandidate}
    (h : Pooled runtime lives fingerprints s)
    (hfree : CollisionFree runtime lives fingerprints last) (hlife : lifeId ∈ lives)
    (hcauses : ∀ c ∈ candidates, c.fingerprint ∈ fingerprints)
    (hexisting : ∀ f ∈ s.activeFingerprints, f ∈ existing)
    (hroom : s.activeFingerprints.length + total ≤ s.pendingLimit)
    (hlast : s.taskSequence + candidates.length ≤ last)
    (hrun : (materializeEach runtime lifeId reason nowMs existing total cognition
      candidates).on s = (created, s')) :
    Generated runtime lives fingerprints s cognition created s' ∧
      s'.taskSequence ≤ s.taskSequence + candidates.length := by
  induction candidates generalizing existing total cognition s s' created with
  | nil =>
    obtain ⟨rfl, rfl⟩ := Prod.mk.inj hrun
    refine ⟨.refl h _ fun ts hts => ?_, Nat.le_add_right _ _⟩
    exact (Except.ok.inj hts).symm
  | cons c cs ih =>
    rw [length_cons] at hlast
    have hcs : ∀ c ∈ cs, c.fingerprint ∈ fingerprints := fun c hc =>
      hcauses c (mem_cons_of_mem _ hc)
    unfold materializeEach at hrun
    split at hrun
    · obtain ⟨hgenerated, hsequence⟩ := ih h hcs hexisting hroom (by omega) hrun
      exact ⟨hgenerated, by rw [length_cons]; omega⟩
    · rename_i hadmitted
      simp only [not_or, not_and] at hadmitted
      obtain ⟨htotal, hcognition, hnew⟩ := hadmitted
      rw [on_bind, on_query] at hrun
      cases hmake : make runtime lifeId reason nowMs c (s.taskSequence + 1) with
      | error fault =>
        rw [hmake] at hrun
        obtain ⟨rfl, rfl⟩ := Prod.mk.inj hrun
        refine ⟨.refl h _ fun ts hts => ?_, Nat.le_add_right _ _⟩
        cases hts
      | ok t =>
        rw [hmake] at hrun
        dsimp only at hrun
        rw [on_bind, on_modify] at hrun
        dsimp only at hrun
        have hcause := hcauses c mem_cons_self
        have hfresh := h.fresh_id hfree hmake hlife hcause (by omega)
        have henter := h.enter hmake hfresh hlife hcause
          (fun hf => hnew (hexisting _ hf)) (by omega)
        obtain ⟨-, -, hcandidate, hnumber, hactive⟩ := make_eq_ok hmake
        have htasks : (s.enter t).tasks = s.tasks ++ [t] := setTask_of_notMem hfresh
        have hactives : (s.enter t).activeFingerprints =
            s.activeFingerprints ++ [c.fingerprint] := by
          simp [activeFingerprints, htasks, filter_append, hactive, hcandidate]
        have hexisting' : ∀ f ∈ (s.enter t).activeFingerprints, f ∈ c.fingerprint :: existing := by
          intro f hf
          rw [hactives] at hf
          rcases mem_append.mp hf with hold | hlast
          · exact mem_cons_of_mem _ (hexisting f hold)
          · rw [mem_singleton.mp hlast]
            exact mem_cons_self
        have hroom' : (s.enter t).activeFingerprints.length + (total - 1) ≤
            (s.enter t).pendingLimit := by
          change _ ≤ s.pendingLimit
          rw [hactives, length_append, length_singleton]
          omega
        have hsequence' : (s.enter t).taskSequence = s.taskSequence + 1 := hnumber
        rw [on_bind] at hrun
        rcases hrest : (materializeEach runtime lifeId reason nowMs
          (c.fingerprint :: existing) (total - 1)
          (if c.isCatalog runtime then cognition else cognition - 1) cs).on (s.enter t) with
          ⟨rest, s''⟩
        obtain ⟨hgenerated, hsequence⟩ := ih henter hcs hexisting' hroom' (by omega) hrest
        have hcreated : created = rest.map (t :: ·) ∧ s' = s'' := by
          rw [hrest] at hrun
          cases rest <;> exact ⟨(Prod.mk.inj hrun).1.symm, (Prod.mk.inj hrun).2.symm⟩
        obtain ⟨rfl, rfl⟩ := hcreated
        subst hcandidate
        refine ⟨hgenerated.cons hfresh (by omega) hcognition, ?_⟩
        rw [length_cons]
        omega

lemma mem_existing_of_active {f : PyStr} (h : f ∈ s.activeFingerprints) :
    f ∈ s.existingFingerprints runtime := by
  obtain ⟨t, ht, rfl⟩ := mem_map.mp h
  obtain ⟨hmem, hactive⟩ := mem_filter.mp ht
  refine mem_map.mpr ⟨t, mem_filter.mpr ⟨hmem, ?_⟩, rfl⟩
  rw [TaskStatus.isActive_eq, Bool.not_eq_true'] at hactive
  simp [isReaped, hactive]

lemma cognition_nodup (h : s.activeFingerprints.Nodup) :
    (s.cognitionFingerprints runtime).Nodup := by
  have hsub : (s.tasks.filter fun t => t.isCognition runtime).Sublist
      (s.tasks.filter fun t => t.status.isActive) := by
    apply monotone_filter_right
    intro t ht
    simp only [isCognition, Bool.and_eq_true] at ht
    exact ht.1
  exact List.Nodup.sublist (hsub.map _) h

theorem Pooled.tick (h : Pooled runtime lives fingerprints s) (nowMs : ℕ)
    (reason : PyStr) : Pooled runtime lives fingerprints (s.tick nowMs reason) :=
  ⟨h.named, h.known, h.numbered, h.nodup, h.unique, h.bounded, h.generated, h.completed, h.failed⟩

/-- `materialize_tasks`, whether it returns or raises. -/
theorem materializeTasks_spec {candidates : List TaskCandidate} {nowMs : ℤ} {limit : ℕ}
    (h : Pooled runtime lives fingerprints s)
    (hfree : CollisionFree runtime lives fingerprints last) (hlife : lifeId ∈ lives)
    (hcauses : ∀ c ∈ candidates, c.fingerprint ∈ fingerprints)
    (hlast : s.taskSequence + candidates.length ≤ last)
    (hrun : (materializeTasks runtime candidates lifeId reason nowMs limit).on s =
      (created, s')) :
    Generated runtime lives fingerprints s (limit - (s.cognitionFingerprints runtime).length)
      created s' ∧ s'.taskSequence ≤ s.taskSequence + candidates.length := by
  unfold materializeTasks at hrun
  rw [on_bind, on_read] at hrun
  dsimp only [id] at hrun
  split at hrun
  · obtain ⟨rfl, rfl⟩ := Prod.mk.inj hrun
    refine ⟨.refl h _ fun ts hts => ?_, Nat.le_add_right _ _⟩
    exact (Except.ok.inj hts).symm
  · rw [h.unique.dedup, (cognition_nodup h.unique).dedup, on_bind] at hrun
    rcases hloop : (materializeEach runtime lifeId (reasonText reason)
      (max s.lastTickAtMs nowMs.toNat) (s.existingFingerprints runtime)
      (s.pendingLimit - s.activeFingerprints.length)
      (limit - (s.cognitionFingerprints runtime).length) candidates).on s with ⟨result, t⟩
    have hbounded := h.bounded
    obtain ⟨hgenerated, hsequence⟩ := materializeEach_spec h hfree hlife hcauses
      (fun f hf => mem_existing_of_active hf) (by omega) hlast hloop
    rw [hloop] at hrun
    cases result with
    | error fault =>
      obtain ⟨rfl, rfl⟩ := Prod.mk.inj hrun
      exact ⟨hgenerated, hsequence⟩
    | ok ts =>
      obtain ⟨rfl, rfl⟩ := Prod.mk.inj hrun
      exact ⟨⟨hgenerated.pooled.tick _ _, hgenerated.limit, hgenerated.kept, hgenerated.sequence,
        hgenerated.cognition, hgenerated.history⟩, hsequence⟩

variable {t' : AutonomyTask} {ts : List AutonomyTask}

/-- Counting rows after one of them was replaced. -/
lemma countP_setTask (p : AutonomyTask → Bool)
    (hnodup : (taskIds ts).Nodup) (ht : t ∈ ts) (hid : t'.taskId = t.taskId) :
    (setTask t' ts).countP p + (if p t then 1 else 0) = ts.countP p + if p t' then 1 else 0 := by
  induction ts with
  | nil => cases ht
  | cons u ts ih =>
    rw [taskIds, map_cons, nodup_cons] at hnodup
    rw [setTask]
    by_cases heq : u.taskId = t'.taskId
    · have hu : t = u := by
        rcases mem_cons.mp ht with rfl | hrest
        · rfl
        · exact absurd (mem_map_of_mem hrest) (hid ▸ heq ▸ hnodup.1)
      subst hu
      rw [if_pos heq, countP_cons, countP_cons]
      omega
    · have hrest : t ∈ ts := by
        rcases mem_cons.mp ht with rfl | hrest
        · exact absurd hid.symm heq
        · exact hrest
      have hcount := ih hnodup.2 hrest
      rw [if_neg heq, countP_cons, countP_cons]
      omega

/-- What a change of state leaves alone. -/
lemma sameTask_moved (t : AutonomyTask) (status : TaskStatus) (nowMs : ℤ)
    (result : Option JsonFields) : SameTask t (t.moved status nowMs result) :=
  ⟨rfl, rfl, rfl, rfl, rfl, rfl⟩

lemma withDigest_eq_ok (h : t.withDigest runtime = .ok t') :
    SameTask t t' ∧ t'.status = t.status := by
  simp only [withDigest, eq_ok_iff] at h
  obtain ⟨sha, -, rfl⟩ := h
  exact ⟨⟨rfl, rfl, rfl, rfl, rfl, rfl⟩, rfl⟩

/-- Setting a task twice. -/
lemma setTask_setTask (hid : t.taskId = t'.taskId)
    (ts : List AutonomyTask) : setTask t' (setTask t ts) = setTask t' ts := by
  induction ts with
  | nil => simp [setTask, hid]
  | cons u ts ih =>
    rw [setTask]
    by_cases heq : u.taskId = t.taskId
    · rw [if_pos heq, setTask, if_pos hid, setTask, if_pos (heq.trans hid)]
    · rw [if_neg heq, setTask, if_neg fun h => heq (h.trans hid.symm), setTask,
        if_neg fun h => heq (h.trans hid.symm), ih]

/-- A change of state that returns: which task changed, and what the state is. -/
lemma updateTaskStatus_eq_ok {taskId statusText : PyStr} {nowMs : ℤ} {result : Option JsonFields} {done : AutonomyTask}
    (hrun : (updateTaskStatus runtime taskId statusText nowMs result).on s =
      (.ok done, s')) :
    ∃ t ∈ s.tasks, SameTask t done ∧ (t.status.isTerminal = true → done.status = t.status) ∧
      s' = (s.put done).count t.status done.status := by
  unfold updateTaskStatus at hrun
  rw [on_bind, on_query] at hrun
  cases hstatus : TaskStatus.ofText statusText with
  | none => simp [hstatus, required] at hrun
  | some status =>
    rw [hstatus] at hrun
    dsimp only [required] at hrun
    rw [on_bind, on_query] at hrun
    cases hfind : s.find taskId with
    | none => simp [hfind] at hrun
    | some t =>
      rw [hfind] at hrun
      dsimp only at hrun
      rw [on_bind, on_query] at hrun
      by_cases hended : t.status.isTerminal = true ∧ status ≠ t.status
      · simp [rejectIf, hended] at hrun
      · rw [rejectIf_of_not _ hended] at hrun
        dsimp only at hrun
        rw [on_bind, on_query] at hrun
        by_cases hrefused : t.status ≠ status ∧ status ∉ t.status.next
        · simp [rejectIf, hrefused] at hrun
        · rw [rejectIf_of_not _ hrefused] at hrun
          dsimp only at hrun
          rw [on_bind, on_modify] at hrun
          dsimp only at hrun
          rw [on_bind, on_query] at hrun
          cases hdigest : (t.moved status nowMs result).withDigest runtime with
          | error fault => simp [hdigest] at hrun
          | ok sealed =>
            rw [hdigest] at hrun
            dsimp only at hrun
            rw [on_bind, on_modify] at hrun
            obtain ⟨hdone, rfl⟩ := Prod.mk.inj hrun
            obtain rfl := Except.ok.inj hdone
            obtain ⟨hsame, hnow⟩ := withDigest_eq_ok hdigest
            have hversion := (sameTask_moved t status nowMs result).trans hsame
            refine ⟨t, mem_of_find?_eq_some hfind, hversion, fun hterminal => ?_, ?_⟩
            · rw [hnow]
              by_contra hne
              exact hended ⟨hterminal, hne⟩
            · have htwice : ((s.put (t.moved status nowMs result)).put sealed) = s.put sealed := by
                unfold put
                rw [setTask_setTask hsame.taskId]
              rw [hnow, htwice]
              rfl

lemma active_setTask (hnodup : (taskIds ts).Nodup) (ht : t ∈ ts) (hsame : SameTask t t')
    (hended : t.status.isTerminal = true → t'.status = t.status) :
    (((setTask t' ts).filter fun u => u.status.isActive).map fun u =>
      u.candidate.fingerprint).Sublist
      ((ts.filter fun u => u.status.isActive).map fun u => u.candidate.fingerprint) := by
  have hid : t'.taskId ∈ taskIds ts := hsame.taskId ▸ mem_map_of_mem ht
  have hreplaced : ∀ u ∈ ts, u.taskId = t'.taskId → u = t := fun u hu huid =>
    inj_on_of_nodup_map hnodup hu ht (huid.trans hsame.taskId.symm)
  rw [setTask_of_mem hnodup hid]
  clear hnodup ht hid
  induction ts with
  | nil => exact List.Sublist.refl _
  | cons u ts ih =>
    have hrest := ih fun v hv => hreplaced v (mem_cons_of_mem _ hv)
    rw [map_cons]
    by_cases huid : u.taskId = t'.taskId
    · obtain rfl := hreplaced u mem_cons_self huid
      rw [if_pos huid]
      by_cases hactive : t'.status.isActive = true
      · have hwas : u.status.isActive = true := by
          by_contra hnot
          rw [TaskStatus.isActive_eq, Bool.not_eq_true', Bool.not_eq_false] at hnot
          rw [hended hnot, TaskStatus.isActive_eq, hnot] at hactive
          cases hactive
        rw [filter_cons, if_pos hactive, filter_cons, if_pos hwas, map_cons,
          map_cons, ← hsame.candidate]
        exact hrest.cons_cons _
      · rw [filter_cons, if_neg hactive]
        exact hrest.trans (((sublist_cons_self _ _).filter _).map _)
    · rw [if_neg huid]
      by_cases hactive : u.status.isActive = true
      · rw [filter_cons, if_pos hactive, filter_cons, if_pos hactive, map_cons, map_cons]
        exact hrest.cons_cons _
      · rw [filter_cons, if_neg hactive, filter_cons, if_neg hactive]
        exact hrest

/-- The number of ended tasks after a change of state. -/
lemma countStatus_setTask {status : TaskStatus}
    (hterminal : status.isTerminal = true) (hnodup : (taskIds ts).Nodup) (ht : t ∈ ts)
    (hsame : SameTask t t') (hended : t.status.isTerminal = true → t'.status = t.status) :
    countStatus status (setTask t' ts) =
      if t.status.isTerminal = false ∧ t'.status = status then countStatus status ts + 1
      else countStatus status ts := by
  have hcount := countP_setTask (fun u => decide (u.status = status)) hnodup ht hsame.taskId.symm
  simp only [decide_eq_true_eq] at hcount
  unfold countStatus
  by_cases hwas : t.status.isTerminal = true
  · rw [hended hwas] at hcount
    rw [if_neg (by simp [hwas])]
    omega
  · have hdiffers : t.status ≠ status := by
      rintro rfl
      exact hwas hterminal
    rw [if_neg hdiffers] at hcount
    rw [Bool.not_eq_true] at hwas
    by_cases hnow : t'.status = status
    · rw [if_pos hnow] at hcount
      rw [if_pos ⟨hwas, hnow⟩]
      omega
    · rw [if_neg hnow] at hcount
      rw [if_neg fun h => hnow h.2]
      omega

/-- A change of state that returns is a step of the history, and keeps the pool. -/
theorem updateTaskStatus_spec {taskId statusText : PyStr} {nowMs : ℤ} {result : Option JsonFields} {done : AutonomyTask} (h : Pooled runtime lives fingerprints s)
    (hrun : (updateTaskStatus runtime taskId statusText nowMs result).on s =
      (.ok done, s')) :
    TaskStep s.tasks (.statusChanged done) s'.tasks ∧ Pooled runtime lives fingerprints s' ∧
      s'.taskSequence = s.taskSequence := by
  obtain ⟨t, ht, hsame, hended, rfl⟩ := updateTaskStatus_eq_ok hrun
  have hid : done.taskId ∈ taskIds s.tasks := hsame.taskId ▸ mem_map_of_mem ht
  have hstep : TaskStep s.tasks (.statusChanged done) (setTask done s.tasks) :=
    .statusChanged ht hsame hended
  have hversion : ∀ u ∈ setTask done s.tasks, ∃ v ∈ s.tasks, SameTask v u := by
    intro u hu
    rw [setTask_of_mem h.nodup hid] at hu
    obtain ⟨v, hv, rfl⟩ := mem_map.mp hu
    by_cases hvid : v.taskId = done.taskId
    · obtain rfl := inj_on_of_nodup_map h.nodup hv ht (hvid.trans hsame.taskId.symm)
      rw [if_pos hvid]
      exact ⟨v, hv, hsame⟩
    · rw [if_neg hvid]
      exact ⟨v, hv, .refl v⟩
  have hactive := active_setTask h.nodup ht hsame hended
  refine ⟨hstep, ⟨?_, ?_, ?_, hstep.nodup h.nodup, List.Nodup.sublist hactive h.unique, ?_, ?_,
    ?_, ?_⟩, rfl⟩
  · intro u hu
    obtain ⟨v, hv, hvu⟩ := hversion u hu
    obtain ⟨sha, hsha, hname⟩ := h.named v hv
    rw [← hvu.lifeId, ← hvu.candidate, ← hvu.sequence, ← hvu.taskId]
    exact ⟨sha, hsha, hname⟩
  · intro u hu
    obtain ⟨v, hv, hvu⟩ := hversion u hu
    rw [← hvu.lifeId, ← hvu.candidate]
    exact h.known v hv
  · intro u hu
    obtain ⟨v, hv, hvu⟩ := hversion u hu
    rw [← hvu.sequence]
    exact h.numbered v hv
  · exact hactive.length_le.trans h.bounded
  · have hlength := congrArg List.length (taskIds_setTask hid)
    rw [taskIds, taskIds, length_map, length_map] at hlength
    change s.generatedTotal = (setTask done s.tasks).length
    rw [hlength]
    exact h.generated
  · change (if t.status.isTerminal = false ∧ done.status = .completed then s.completedTotal + 1
      else s.completedTotal) = countStatus .completed (setTask done s.tasks)
    rw [countStatus_setTask rfl h.nodup ht hsame hended, h.completed]
  · change (if t.status.isTerminal = false ∧ done.status = .failed then s.failedTotal + 1
      else s.failedTotal) = countStatus .failed (setTask done s.tasks)
    rw [countStatus_setTask rfl h.nodup ht hsame hended, h.failed]

/-- The loop over old tasks, when it returns. -/
theorem reapEach_spec {nowMs maxAgeMs : ℤ}
    {reaped : List AutonomyTask} (h : Pooled runtime lives fingerprints s)
    (hrun : (reapEach runtime nowMs maxAgeMs ts).on s = (.ok reaped, s')) :
    TaskSteps s.tasks (reaped.map .statusChanged) s'.tasks ∧
      Pooled runtime lives fingerprints s' ∧ s'.taskSequence = s.taskSequence := by
  induction ts generalizing s reaped with
  | nil =>
    obtain ⟨hreaped, rfl⟩ := Prod.mk.inj hrun
    obtain rfl := Except.ok.inj hreaped
    exact ⟨.nil _, h, rfl⟩
  | cons t ts ih =>
    unfold reapEach at hrun
    split at hrun
    · rw [on_bind] at hrun
      rcases hfirst : (updateTaskStatus runtime t.taskId (py "cancelled") nowMs
        (some [(py "reason_code", .text staleReaped),
          (py "age_hours", .int (runtime.ageHours (nowMs - t.createdAtMs)))])).on s with
        ⟨fault | done, s₁⟩
      · rw [hfirst] at hrun
        cases (Prod.mk.inj hrun).1
      · obtain ⟨hstep, hpooled, hsequence⟩ := updateTaskStatus_spec h hfirst
        rw [hfirst] at hrun
        dsimp only at hrun
        rw [on_bind] at hrun
        rcases hrest : (reapEach runtime nowMs maxAgeMs ts).on s₁ with
          ⟨fault | rest, s₂⟩
        · rw [hrest] at hrun
          cases (Prod.mk.inj hrun).1
        · rw [hrest] at hrun
          obtain ⟨hreaped, rfl⟩ := Prod.mk.inj hrun
          obtain rfl := Except.ok.inj hreaped
          obtain ⟨hsteps, hlast, hsequence'⟩ := ih hpooled hrest
          exact ⟨.cons hstep hsteps, hlast, hsequence'.trans hsequence⟩
    · exact ih h hrun

end Tiangong
