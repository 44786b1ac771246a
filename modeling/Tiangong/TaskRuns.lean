import Tiangong.TaskPools

/-!
# Runs of the engine

Calls one after the other, with the events of the tasks that they return. A call that raises without
having changed the state leaves no trace; what a run of such calls does is a history.
-/
namespace Tiangong

open AutonomyState List

/-- The arguments of `materialize_tasks`, and what the environment sets as limit. -/
structure Materialization where
  candidates : List TaskCandidate
  lifeId : PyStr
  reason : PyStr
  nowMs : ℤ
  limit : Option ℤ

/-- The calls of the engine. -/
inductive TaskOperation where
  | materialize (m : Materialization)
  | update (taskId status : PyStr) (nowMs : ℤ) (result : Option JsonFields)
  | reap (nowMs maxAgeSeconds : ℤ)

variable (runtime : TaskRuntime)

def Materialization.call (m : Materialization) : TaskCall (List AutonomyTask) :=
  materializeTasks runtime m.candidates m.lifeId m.reason m.nowMs (cognitionPendingLimit m.limit)

namespace TaskOperation

def call : TaskOperation → TaskCall (List TaskEvent)
  | materialize m => (map .generated) <$> m.call runtime
  | update taskId status nowMs result =>
    (fun t => [.statusChanged t]) <$> updateTaskStatus runtime taskId status nowMs result
  | reap nowMs maxAgeSeconds =>
    (map .statusChanged) <$> reapStalePendingTasks runtime nowMs maxAgeSeconds

/-- The call returns, or leaves the state as it was. -/
def Settles (op : TaskOperation) (s : AutonomyState) : Prop :=
  ∀ fault s', (op.call runtime).on s = (.error fault, s') → s' = s

/-- The events of a call, and the state behind it. -/
def perform (op : TaskOperation) (s : AutonomyState) : List TaskEvent × AutonomyState :=
  match (op.call runtime).on s with
  | (.ok events, s') => (events, s')
  | (.error _, s') => ([], s')

def materialization : TaskOperation → List Materialization
  | materialize m => [m]
  | _ => []

end TaskOperation

/-- The journal and the state after calls. -/
def taskRun (s : AutonomyState) : List TaskOperation → List TaskEvent × AutonomyState
  | [] => ([], s)
  | op :: ops => ((op.perform runtime s).1 ++ (taskRun (op.perform runtime s).2 ops).1,
      (taskRun (op.perform runtime s).2 ops).2)

/-- Every call returns, or leaves the state as it was. -/
def AllSettle (s : AutonomyState) : List TaskOperation → Prop
  | [] => True
  | op :: ops => op.Settles runtime s ∧ AllSettle (op.perform runtime s).2 ops

/-- No digests of task numbers collide in these calls. -/
def NoCollision (ms : List Materialization) : Prop :=
  CollisionFree runtime (ms.map (·.lifeId)) (ms.flatMap fun m => m.candidates.map (·.fingerprint))
    (ms.map (·.candidates.length)).sum

def materializations (ops : List TaskOperation) : List Materialization :=
  ops.flatMap TaskOperation.materialization

/-- The state after further calls of `materialize_tasks`, whether they return or raise. -/
def afterwards (s : AutonomyState) (further : List Materialization) : AutonomyState :=
  further.foldl (fun s m => ((m.call runtime).on s).2) s

variable {runtime} {lives fingerprints : List PyStr} {last : ℕ}

variable {s : AutonomyState}

theorem materialization_spec {m : Materialization} (h : Pooled runtime lives fingerprints s)
    (hfree : CollisionFree runtime lives fingerprints last) (hlife : m.lifeId ∈ lives)
    (hcauses : ∀ c ∈ m.candidates, c.fingerprint ∈ fingerprints)
    (hlast : s.taskSequence + m.candidates.length ≤ last) :
    Generated runtime lives fingerprints s
      (cognitionPendingLimit m.limit - (s.cognitionFingerprints runtime).length)
      ((m.call runtime).on s).1 ((m.call runtime).on s).2 ∧
    ((m.call runtime).on s).2.taskSequence ≤ s.taskSequence + m.candidates.length :=
  materializeTasks_spec h hfree hlife hcauses hlast rfl

variable {op : TaskOperation}

lemma TaskOperation.perform_of_ok {s' : AutonomyState}
    {events : List TaskEvent} (h : (op.call runtime).on s = (.ok events, s')) :
    op.perform runtime s = (events, s') := by
  rw [perform, h]

lemma TaskOperation.perform_of_error {s' : AutonomyState}
    {fault : TaskFault} (h : (op.call runtime).on s = (.error fault, s'))
    (hsettles : op.Settles runtime s) : op.perform runtime s = ([], s) := by
  rw [perform, h, hsettles fault s' h]

/-- A call is a part of the history, and keeps the pool. -/
lemma TaskOperation.perform_spec (h : Pooled runtime lives fingerprints s)
    (hfree : CollisionFree runtime lives fingerprints last)
    (hknown : ∀ m ∈ op.materialization, m.lifeId ∈ lives ∧
      ∀ c ∈ m.candidates, c.fingerprint ∈ fingerprints)
    (hlast : s.taskSequence + (op.materialization.map (·.candidates.length)).sum ≤ last)
    (hsettles : op.Settles runtime s) :
    TaskSteps s.tasks (op.perform runtime s).1 (op.perform runtime s).2.tasks ∧
      Pooled runtime lives fingerprints (op.perform runtime s).2 ∧
      (op.perform runtime s).2.taskSequence ≤
        s.taskSequence + (op.materialization.map (·.candidates.length)).sum := by
  rcases hrun : (op.call runtime).on s with ⟨fault | events, s'⟩
  · rw [perform_of_error hrun hsettles]
    exact ⟨.nil _, h, Nat.le_add_right _ _⟩
  · rw [perform_of_ok hrun]
    cases op with
    | materialize m =>
      obtain ⟨hlife, hcauses⟩ := hknown m (mem_singleton_self m)
      have hsum : ((materialize m).materialization.map (·.candidates.length)).sum =
          m.candidates.length := by simp [materialization]
      rw [hsum] at hlast ⊢
      rw [call, Call.on_map] at hrun
      rcases hcall : (m.call runtime).on s with ⟨fault | ts, t⟩
      · rw [hcall] at hrun
        cases (Prod.mk.inj hrun).1
      · obtain ⟨hgenerated, hsequence⟩ := materialization_spec h hfree hlife hcauses hlast
        rw [hcall] at hrun hgenerated hsequence
        obtain ⟨hevents, rfl⟩ := Prod.mk.inj hrun
        obtain rfl := Except.ok.inj hevents
        exact ⟨hgenerated.history ts rfl, hgenerated.pooled, hsequence⟩
    | update taskId status nowMs result =>
      rw [call, Call.on_map] at hrun
      rcases hcall : (updateTaskStatus runtime taskId status nowMs result).on s with ⟨fault | t, s₁⟩
      · rw [hcall] at hrun
        cases (Prod.mk.inj hrun).1
      · obtain ⟨hstep, hpooled, hsequence⟩ := updateTaskStatus_spec h hcall
        rw [hcall] at hrun
        obtain ⟨hevents, rfl⟩ := Prod.mk.inj hrun
        obtain rfl := Except.ok.inj hevents
        exact ⟨.single hstep, hpooled, hsequence.le.trans (Nat.le_add_right _ _)⟩
    | reap nowMs maxAgeSeconds =>
      rw [call, Call.on_map] at hrun
      rcases hcall : (reapEach runtime nowMs (maxAgeSeconds * 1000) s.tasks).on s with
        ⟨fault | ts, s₁⟩
      · have hreap : (reapStalePendingTasks runtime nowMs maxAgeSeconds).on s =
          (.error fault, s₁) := hcall
        rw [hreap] at hrun
        cases (Prod.mk.inj hrun).1
      · obtain ⟨hsteps, hpooled, hsequence⟩ := reapEach_spec h hcall
        have hreap : (reapStalePendingTasks runtime nowMs maxAgeSeconds).on s =
          (.ok ts, s₁) := hcall
        rw [hreap] at hrun
        obtain ⟨hevents, rfl⟩ := Prod.mk.inj hrun
        obtain rfl := Except.ok.inj hevents
        exact ⟨hsteps, hpooled, hsequence.le.trans (Nat.le_add_right _ _)⟩

/-- A run of calls is a history, and keeps the pool. -/
theorem taskRun_spec {ops : List TaskOperation} (h : Pooled runtime lives fingerprints s)
    (hfree : CollisionFree runtime lives fingerprints last)
    (hknown : ∀ m ∈ materializations ops, m.lifeId ∈ lives ∧
      ∀ c ∈ m.candidates, c.fingerprint ∈ fingerprints)
    (hlast : s.taskSequence + ((materializations ops).map (·.candidates.length)).sum ≤ last)
    (hsettle : AllSettle runtime s ops) :
    TaskSteps s.tasks (taskRun runtime s ops).1 (taskRun runtime s ops).2.tasks ∧
      Pooled runtime lives fingerprints (taskRun runtime s ops).2 ∧
      (taskRun runtime s ops).2.taskSequence ≤
        s.taskSequence + ((materializations ops).map (·.candidates.length)).sum := by
  induction ops generalizing s with
  | nil => exact ⟨.nil _, h, Nat.le_add_right _ _⟩
  | cons op ops ih =>
    obtain ⟨hfirst, hrest⟩ := hsettle
    rw [materializations, flatMap_cons] at hknown hlast ⊢
    rw [map_append, sum_append] at hlast ⊢
    obtain ⟨hsteps, hpooled, hsequence⟩ := op.perform_spec h hfree
      (fun m hm => hknown m (mem_append_left _ hm)) (by omega) hfirst
    obtain ⟨hsteps', hpooled', hsequence'⟩ := ih hpooled
      (fun m hm => hknown m (mem_append_right _ hm))
      (by unfold materializations; omega) hrest
    refine ⟨hsteps.append hsteps', hpooled', ?_⟩
    unfold materializations at hsequence'
    exact hsequence'.trans (by omega)

theorem taskRun_append (s : AutonomyState) (ops ops' : List TaskOperation) :
    taskRun runtime s (ops ++ ops') =
      ((taskRun runtime s ops).1 ++ (taskRun runtime (taskRun runtime s ops).2 ops').1,
        (taskRun runtime (taskRun runtime s ops).2 ops').2) := by
  induction ops generalizing s with
  | nil => rfl
  | cons op ops ih => rw [cons_append, taskRun, ih, taskRun, append_assoc]

theorem allSettle_append {ops ops' : List TaskOperation} : AllSettle runtime s (ops ++ ops') ↔
      AllSettle runtime s ops ∧ AllSettle runtime (taskRun runtime s ops).2 ops' := by
  induction ops generalizing s with
  | nil => simp [AllSettle, taskRun]
  | cons op ops ih => rw [cons_append, AllSettle, ih, AllSettle, and_assoc, taskRun]

theorem afterwards_concat (s : AutonomyState) (further : List Materialization)
    (m : Materialization) : afterwards runtime s (further ++ [m]) =
      ((m.call runtime).on (afterwards runtime s further)).2 := by
  rw [afterwards, foldl_append]
  rfl

/-- Further calls keep a pool and its tasks. -/
theorem afterwards_spec {further : List Materialization} (h : Pooled runtime lives fingerprints s)
    (hfree : CollisionFree runtime lives fingerprints last)
    (hknown : ∀ m ∈ further, m.lifeId ∈ lives ∧ ∀ c ∈ m.candidates, c.fingerprint ∈ fingerprints)
    (hlast : s.taskSequence + (further.map (·.candidates.length)).sum ≤ last) :
    Pooled runtime lives fingerprints (afterwards runtime s further) ∧
      s.tasks <+: (afterwards runtime s further).tasks ∧
      (afterwards runtime s further).taskSequence ≤
        s.taskSequence + (further.map (·.candidates.length)).sum := by
  induction further using List.reverseRecOn with
  | nil => exact ⟨h, prefix_rfl, Nat.le_add_right _ _⟩
  | append_singleton further m ih =>
    rw [map_append, sum_append, map_singleton, sum_singleton] at hlast ⊢
    obtain ⟨hpooled, hkept, hsequence⟩ := ih (fun m hm => hknown m (mem_append_left _ hm))
      (by omega)
    obtain ⟨hlife, hcauses⟩ := hknown m (by simp)
    obtain ⟨hgenerated, hsequence'⟩ := materialization_spec hpooled hfree hlife hcauses (by omega)
    rw [afterwards_concat]
    exact ⟨hgenerated.pooled, hkept.trans hgenerated.kept, by omega⟩

lemma materializeEach_limit (lifeId reason : PyStr) (nowMs limit : ℕ) (existing : List PyStr)
    (total cognition : ℕ) (candidates : List TaskCandidate) :
    (materializeEach runtime lifeId reason nowMs existing total cognition candidates).Keeps
      fun s => s.pendingLimit = limit := by
  induction candidates generalizing existing total cognition with
  | nil => exact Call.Keeps.pure _
  | cons c cs ih =>
    unfold materializeEach
    refine (ih _ _ _).ite (.asked fun t => Call.Keeps.bind ?_ fun _ => ?_)
    · exact Call.Keeps.modify fun _ h => h
    · exact (ih _ _ _).bind fun _ => .pure _

lemma updateTaskStatus_limit (taskId status : PyStr) (nowMs : ℤ) (result : Option JsonFields)
    (limit : ℕ) : (updateTaskStatus runtime taskId status nowMs result).Keeps
      fun s => s.pendingLimit = limit := by
  unfold updateTaskStatus
  refine .asked fun status => .asked fun t => ?_
  refine .asked fun _ => .asked fun _ => ?_
  refine Call.Keeps.bind ?_ fun _ => .asked fun _ => ?_
  · exact Call.Keeps.modify fun _ h => h
  · refine Call.Keeps.bind ?_ fun _ => Call.Keeps.pure _
    exact Call.Keeps.modify fun _ h => h

lemma reapEach_limit (nowMs maxAgeMs : ℤ) (limit : ℕ) (ts : List AutonomyTask) :
    (reapEach runtime nowMs maxAgeMs ts).Keeps fun s => s.pendingLimit = limit := by
  induction ts with
  | nil => exact Call.Keeps.pure _
  | cons t ts ih =>
    unfold reapEach
    refine Call.Keeps.ite ((updateTaskStatus_limit _ _ _ _ _).bind fun _ => ?_) ih
    exact ih.bind fun _ => .pure _

lemma TaskOperation.call_limit (op : TaskOperation) (limit : ℕ) :
    (op.call runtime).Keeps fun s => s.pendingLimit = limit := by
  cases op with
  | materialize m =>
    refine Call.Keeps.map ?_ _
    refine (Call.Keeps.read _).bind fun s => (Call.Keeps.pure _).ite ?_
    refine (materializeEach_limit _ _ _ _ _ _ _ _).bind fun _ => Call.Keeps.bind ?_ fun _ => ?_
    · exact Call.Keeps.modify fun _ h => h
    · exact Call.Keeps.pure _
  | update taskId status nowMs result =>
    exact Call.Keeps.map (updateTaskStatus_limit _ _ _ _ _) _
  | reap nowMs maxAgeSeconds =>
    exact Call.Keeps.map ((Call.Keeps.read _).bind fun s => reapEach_limit _ _ _ _) _

theorem taskRun_limit (s : AutonomyState) (ops : List TaskOperation) :
    (taskRun runtime s ops).2.pendingLimit = s.pendingLimit := by
  induction ops generalizing s with
  | nil => rfl
  | cons op ops ih =>
    rw [taskRun, ih]
    have hkept : ((op.call runtime).on s).2.pendingLimit = s.pendingLimit :=
      op.call_limit s.pendingLimit s rfl
    unfold TaskOperation.perform
    split <;> rename_i hrun <;> rwa [hrun] at hkept

end Tiangong
