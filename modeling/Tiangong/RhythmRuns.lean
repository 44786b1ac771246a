import Mathlib.Algebra.BigOperators.Group.List.Basic
import Mathlib.Algebra.Order.Group.Unbundled.Abs
import Mathlib.Data.List.Count
import Tiangong.RhythmPlane

/-!
# Admitted work is served

Every admitted item draws a ticket, which an item that is coalesced into it takes over. In a run of
considerate submissions every ticket is waiting or returned, each once, the queues are served in
their order, and nothing that is admitted exceeds what is left to spend.
-/
open List Function

namespace Tiangong.Rhythm

open QueueClass

/-- An additive measure of all queues, when one of them changes. -/
lemma measure_update {α : Type} (μ : List α → ℕ) (hμ : ∀ l l', μ (l ++ l') = μ l + μ l')
    (queues : QueueClass → List α) (q : QueueClass) (queue : List α) :
    μ (all.flatMap (update queues q queue)) + μ (queues q) =
      μ (all.flatMap queues) + μ queue := by
  have hnil : μ [] = 0 := by
    have happend := hμ [] []
    rw [append_nil] at happend
    omega
  cases q <;>
    simp only [QueueClass.all, flatMap_cons, flatMap_nil, hμ, hnil,
      update_self, update_of_ne, ne_eq, reduceCtorEq, not_false_eq_true] <;>
    omega

namespace RhythmPlane

variable {plane : RhythmPlane} {item existing : WorkItem} {q : QueueClass} {r : Resource}
  {queue rest : List WorkItem} {c : EventCoalescer}

lemma queueCost_append (queue queue' : List WorkItem) (r : Resource) :
    queueCost (queue ++ queue') r = queueCost queue r + queueCost queue' r := by
  simp [queueCost]

lemma queueCost_cons (item : WorkItem) (queue : List WorkItem) (r : Resource) :
    queueCost (item :: queue) r = item.cost r + queueCost queue r := by
  simp [queueCost]

lemma queueCost_sortQueue (queue : List WorkItem) (r : Resource) :
    queueCost (sortQueue queue) r = queueCost queue r := by
  have hperm : (sortQueue queue).Perm queue := orderBy_perm _ queue
  exact (hperm.map fun item => item.cost r).sum_eq

/-- A queued item that is replaced makes the queue dearer by its growth at most. -/
lemma queueCost_set {index : ℕ} (h : queue[index]? = some existing) :
    queueCost (queue.set index item) r ≤ queueCost queue r + growth item existing r := by
  induction queue generalizing index with
  | nil => simp at h
  | cons first queue ih =>
    cases index with
    | zero =>
      obtain rfl : first = existing := by simpa using h
      simp only [set_cons_zero, queueCost_cons, growth]
      omega
    | succ index =>
      have hrest : queueCost (queue.set index item) r ≤ queueCost queue r + growth item existing r :=
        ih (by simpa using h)
      simp only [set_cons_succ, queueCost_cons]
      omega

/-- What the items of the queues that are not interactive cost. -/
def backgroundCost (plane : RhythmPlane) (r : Resource) : ℕ :=
  queueCost ([.fast, .semantic, .revalidation, .background].flatMap plane.queues) r

lemma committedCost_eq (plane : RhythmPlane) (r : Resource) :
    plane.committedCost r = queueCost (plane.queues .interactive) r + plane.backgroundCost r := by
  simp only [committedCost, backgroundCost, QueueClass.all, flatMap_cons, queueCost_append]

lemma committedCost_update (plane : RhythmPlane) (q : QueueClass) (queue : List WorkItem)
    (r : Resource) :
    queueCost (all.flatMap (update plane.queues q queue)) r +
      queueCost (plane.queues q) r = plane.committedCost r + queueCost queue r :=
  measure_update (fun queue => queueCost queue r) (fun l l' => queueCost_append l l' r) _ _ _

lemma queueCost_le_background (hq : q ≠ .interactive) :
    queueCost (plane.queues q) r ≤ plane.backgroundCost r := by
  simp only [backgroundCost, flatMap_cons, queueCost_append]
  cases q with
  | interactive => exact absurd rfl hq
  | fast | semantic | revalidation | background => omega

/-- What is queued can be paid in any order: it does not exceed the rest of the budget, and leaves
the reserve of a resource alone when something outside the interactive queue needs the resource. -/
def Funded (plane : RhythmPlane) : Prop :=
  ∀ r, (plane.committedCost r : ℤ) ≤ plane.budget.remaining r ∧ (0 < plane.backgroundCost r →
      (plane.committedCost r : ℤ) + plane.budget.config.reserve r ≤ plane.budget.remaining r)

lemma canCommit_iff {cost : WorkCost} {interactive : Bool} :
    plane.canCommit cost interactive = true ↔
      ∀ r, (cost r : ℤ) ≤ plane.committable interactive r := by
  simp [canCommit]

lemma committedCost_withQueue (plane : RhythmPlane) (q : QueueClass) (queue : List WorkItem)
    (c : EventCoalescer) (r : Resource) :
    (plane.withQueue q queue c).committedCost r + queueCost (plane.queues q) r =
      plane.committedCost r + queueCost queue r := by
  rw [← queueCost_sortQueue queue r]
  exact committedCost_update plane q (sortQueue queue) r

theorem Funded.withQueue {added : WorkCost} (h : plane.Funded)
    (hcost : ∀ r, queueCost queue r ≤ queueCost (plane.queues q) r + added r)
    (hcan : plane.canCommit added (isInteractive q) = true)
    (hreserve : q = .interactive → ∀ r, 0 < plane.backgroundCost r →
      (plane.committedCost r : ℤ) + added r + plane.budget.config.reserve r ≤
        plane.budget.remaining r) : (plane.withQueue q queue c).Funded := by
  intro r
  have hfunded := h r
  have hadded := canCommit_iff.mp hcan r
  have hcommitted := committedCost_withQueue plane q queue c r
  have hgrows := hcost r
  have hold := committedCost_eq plane r
  have hnew := committedCost_eq (plane.withQueue q queue c) r
  show ((plane.withQueue q queue c).committedCost r : ℤ) ≤ plane.budget.remaining r ∧
    (0 < (plane.withQueue q queue c).backgroundCost r →
      ((plane.withQueue q queue c).committedCost r : ℤ) + plane.budget.config.reserve r ≤
        plane.budget.remaining r)
  by_cases hq : q = .interactive
  · subst hq
    have hinteractive : isInteractive .interactive = true := rfl
    simp only [committable, hinteractive, if_true] at hadded
    have hbackground : (plane.withQueue .interactive queue c).backgroundCost r =
        plane.backgroundCost r := rfl
    have hspare := hreserve rfl r
    omega
  · have hinteractive : isInteractive q = false := decide_eq_false hq
    simp only [committable, hinteractive, Bool.false_eq_true, if_false] at hadded
    have hsame : (plane.withQueue q queue c).queues .interactive = plane.queues .interactive :=
      update_of_ne (Ne.symm hq) _ _
    rw [hsame] at hnew
    omega

/-- The head of a queue can be paid. -/
theorem Funded.canSpend (h : plane.Funded) (hqueue : plane.queues q = item :: rest) :
    plane.budget.canSpend item.cost (isInteractive q) = true := by
  simp only [BudgetLedger.canSpend, all_eq_true, Resource.mem_all, forall_true_left,
    decide_eq_true_eq]
  intro r
  have hfunded := h r
  have hcost : item.cost r ≤ queueCost (plane.queues q) r := by
    rw [hqueue, queueCost_cons]
    omega
  have hcommitted := committedCost_eq plane r
  unfold BudgetLedger.available
  by_cases hq : q = .interactive
  · subst hq
    have hinteractive : isInteractive .interactive = true := rfl
    rw [hinteractive, if_pos rfl]
    omega
  · have hinteractive : isInteractive q = false := decide_eq_false hq
    have hbackground : queueCost (plane.queues q) r ≤ plane.backgroundCost r :=
      queueCost_le_background hq
    rw [hinteractive, if_neg (by simp)]
    omega

lemma serviceOne_of_nil (h : plane.queues q = []) : plane.serviceOne q = (plane, .ok none) := by
  unfold serviceOne
  rw [h]

/-- The plane after its head was served. -/
def served (plane : RhythmPlane) (q : QueueClass) (item : WorkItem) (rest : List WorkItem) :
    RhythmPlane :=
  { plane with
    queues := update plane.queues q rest
    budget := { plane.budget with remaining := fun r => plane.budget.remaining r - item.cost r }
    coalescer := plane.coalescer.forget item.event }

theorem Funded.serviceOne (h : plane.Funded) (hqueue : plane.queues q = item :: rest) :
    plane.serviceOne q = (plane.served q item rest, .ok (some item)) := by
  unfold RhythmPlane.serviceOne
  rw [hqueue]
  simp only [BudgetLedger.spend, h.canSpend hqueue, if_true]
  rfl

theorem Funded.served (h : plane.Funded) (hqueue : plane.queues q = item :: rest) :
    (plane.served q item rest).Funded := by
  intro r
  have hfunded := h r
  have hcommitted := committedCost_update plane q rest r
  have hold := committedCost_eq plane r
  have hnew := committedCost_eq (plane.served q item rest) r
  rw [hqueue, queueCost_cons] at hcommitted
  have hsame : (plane.served q item rest).committedCost r =
      queueCost (all.flatMap (update plane.queues q rest)) r := rfl
  rw [← hsame] at hcommitted
  have hremaining : (plane.served q item rest).budget.remaining r =
      plane.budget.remaining r - item.cost r := rfl
  have hreserve : (plane.served q item rest).budget.config.reserve r =
      plane.budget.config.reserve r := rfl
  rw [hremaining, hreserve]
  by_cases hq : q = .interactive
  · subst hq
    have hbackground : (plane.served .interactive item rest).backgroundCost r =
        plane.backgroundCost r := rfl
    omega
  · have hinteractive : (plane.served q item rest).queues .interactive =
        plane.queues .interactive := update_of_ne (Ne.symm hq) _ _
    rw [hinteractive] at hnew
    omega

def Queued (plane : RhythmPlane) (item : WorkItem) : Prop :=
  ∃ existing ∈ plane.queues item.queueClass, existing.identityKey = item.identityKey

/-- What is added to the queues leaves the reserve alone where other queues need the resource. -/
def Spares (plane : RhythmPlane) (added : WorkCost) : Prop :=
  ∀ r, 0 < plane.backgroundCost r →
    (plane.committedCost r : ℤ) + added r + plane.budget.config.reserve r ≤ plane.budget.remaining r

/-- A submission of an identity that is queued follows it within the debounce and can be committed;
one to the interactive queue spares the reserve, unless it is refused anyway. -/
structure Considerate (plane : RhythmPlane) (item : WorkItem) : Prop where
  follows : plane.Queued item → (plane.coalescer.offered item.event).1 = true
  committed : ∀ existing ∈ plane.queues item.queueClass, existing.identityKey = item.identityKey →
      plane.canCommit (growth item existing) (isInteractive item.queueClass) = true
  replaces : item.queueClass = .interactive → ∀ existing ∈ plane.queues item.queueClass,
    existing.identityKey = item.identityKey → plane.Spares (growth item existing)
  enters : item.queueClass = .interactive → ¬ plane.Queued item →
    (plane.queues .interactive).length < plane.config.queueCapacity →
      plane.canCommit item.cost true = true → plane.Spares item.cost

def Admissible (plane : RhythmPlane) : RhythmCall → Prop
  | .submit item => plane.validate item = none → plane.Considerate item
  | .serviceOne _ => True

lemma findCoalesced_of_not_queued
    (h : ∀ existing ∈ queue, existing.identityKey ≠ item.identityKey) (c : EventCoalescer) :
    findCoalesced item queue c = (none, c) := by
  induction queue with
  | nil => rfl
  | cons existing rest ih =>
    have hrest := ih fun e he => h e (mem_cons_of_mem _ he)
    rw [findCoalesced, if_neg (h existing mem_cons_self), hrest]
    rfl

lemma findCoalesced_of_follows (hfollows : (c.offered item.event).1 = true)
    (h : ∃ existing ∈ queue, existing.identityKey = item.identityKey) :
    ∃ index existing, queue[index]? = some existing ∧ existing.identityKey = item.identityKey ∧
      findCoalesced item queue c =
        (some (index, existing, (c.offered item.event).2.coalescedCount), c.offer item.event) := by
  induction queue with
  | nil => simp at h
  | cons first rest ih =>
    by_cases hfirst : first.identityKey = item.identityKey
    · refine ⟨0, first, rfl, hfirst, ?_⟩
      rw [findCoalesced, if_pos hfirst, if_pos hfollows]
    · have hrest : ∃ existing ∈ rest, existing.identityKey = item.identityKey := by
        simpa [hfirst] using h
      obtain ⟨index, existing, hindex, hidentity, hfind⟩ := ih hrest
      refine ⟨index + 1, existing, hindex, hidentity, ?_⟩
      rw [findCoalesced, if_neg hfirst, hfind]
      rfl

/-- What a considerate submission does: its item replaces the queued one of its identity, enters
its queue, or is refused and leaves everything as it is. -/
inductive Enqueues (plane : RhythmPlane) (item : WorkItem) : Prop where
  | coalesced (index : ℕ) (existing : WorkItem) (count : ℕ)
      (queued : (plane.queues item.queueClass)[index]? = some existing)
      (identity : existing.identityKey = item.identityKey)
      (spares : item.queueClass = .interactive → plane.Spares (growth item existing))
      (commits : plane.canCommit (growth item existing) (isInteractive item.queueClass) = true)
      (found : (findCoalesced item (plane.queues item.queueClass) plane.coalescer).1 =
        some (index, existing, count))
      (result : plane.submit item =
        (plane.withQueue item.queueClass ((plane.queues item.queueClass).set index item)
          (plane.coalescer.offer item.event),
          ⟨.coalesced, "DEBOUNCE_COALESCE", item.queueClass, count⟩))
  | admitted (new : ¬ plane.Queued item)
      (room : (plane.queues item.queueClass).length < plane.config.queueCapacity)
      (spares : item.queueClass = .interactive → plane.Spares item.cost)
      (commits : plane.canCommit item.cost (isInteractive item.queueClass) = true)
      (result : plane.submit item =
        (plane.withQueue item.queueClass (plane.queues item.queueClass ++ [item])
          (plane.coalescer.offer item.event),
          { disposition := .admitted, reasonCode := "OK", queueClass := item.queueClass }))
  | refused (decision : AdmissionDecision)
      (disposition : decision.disposition = .backpressure ∨ decision.disposition = .rejected)
      (result : plane.submit item = (plane, decision))

lemma submit_enqueues (h : plane.Admissible (.submit item)) : plane.Enqueues item := by
  cases hvalidate : plane.validate item with
  | some reason =>
    refine .refused _ (.inr ?_) (by rw [submit, hvalidate])
    rfl
  | none =>
    have hconsiderate : plane.Considerate item := h hvalidate
    have hsubmit : plane.submit item = plane.enqueue item := by rw [submit, hvalidate]
    by_cases hqueued : plane.Queued item
    · obtain ⟨index, existing, hindex, hidentity, hfind⟩ :=
        findCoalesced_of_follows (hconsiderate.follows hqueued) hqueued
      have hmem := mem_of_getElem? hindex
      have hcommits := hconsiderate.committed existing hmem hidentity
      refine .coalesced index existing _ hindex hidentity
        (fun hq => hconsiderate.replaces hq existing hmem hidentity) hcommits
        (by rw [hfind]) ?_
      rw [hsubmit, enqueue]
      simp only [hfind, hcommits, if_true]
    · have hnone : findCoalesced item (plane.queues item.queueClass) plane.coalescer =
          (none, plane.coalescer) :=
        findCoalesced_of_not_queued (fun e he hidentity => hqueued ⟨e, he, hidentity⟩) _
      have henqueue : plane.enqueue item =
          if plane.config.queueCapacity ≤ (plane.queues item.queueClass).length then
            (plane, { disposition := .backpressure
                      reasonCode := "QUEUE_CAPACITY", queueClass := item.queueClass })
          else if plane.canCommit item.cost (isInteractive item.queueClass) then
            (plane.withQueue item.queueClass (plane.queues item.queueClass ++ [item])
              (plane.coalescer.offer item.event),
              { disposition := .admitted, reasonCode := "OK", queueClass := item.queueClass })
          else (plane, { disposition := .backpressure
                         reasonCode := "BUDGET_RESERVE", queueClass := item.queueClass }) := by
        rw [enqueue]
        simp only [hnone]
      rw [← hsubmit] at henqueue
      by_cases hroom : plane.config.queueCapacity ≤ (plane.queues item.queueClass).length
      · rw [if_pos hroom] at henqueue
        exact .refused _ (.inl rfl) henqueue
      · rw [if_neg hroom] at henqueue
        by_cases hcommits : plane.canCommit item.cost (isInteractive item.queueClass) = true
        · rw [if_pos hcommits] at henqueue
          refine .admitted hqueued (by omega) (fun hq => ?_) hcommits henqueue
          rw [hq] at hroom hcommits
          exact hconsiderate.enters hq hqueued (by omega) hcommits
        · rw [if_neg hcommits] at henqueue
          exact .refused _ (.inl rfl) henqueue

lemma sortQueue_pairwise (queue : List WorkItem) :
    (sortQueue queue).Pairwise fun item item' => item.before item' = true := by
  apply orderBy_pairwise
  · intro item item'
    simpa [WorkItem.before] using le_total item.sortKey item'.sortKey
  · intro item item' item'' h h'
    simp only [WorkItem.before, decide_eq_true_eq] at *
    exact h.trans h'

/-- Each queue is sorted and within the capacity, and holds an identity once. -/
structure WellFormed (plane : RhythmPlane) : Prop where
  classes : ∀ q, ∀ item ∈ plane.queues q, item.queueClass = q
  sorted : ∀ q, (plane.queues q).Pairwise fun item item' => item.before item' = true
  within : ∀ q, (plane.queues q).length ≤ plane.config.queueCapacity
  identities : ∀ q, ((plane.queues q).map (·.identityKey)).Nodup

lemma wellFormed_new (config : RhythmConfig) (budget : BudgetConfig) :
    (new config budget).WellFormed := by
  constructor <;> simp [new]

theorem WellFormed.withQueue (h : plane.WellFormed) (hclasses : ∀ item ∈ queue, item.queueClass = q)
    (hwithin : queue.length ≤ plane.config.queueCapacity)
    (hidentities : (queue.map (·.identityKey)).Nodup) :
    (plane.withQueue q queue c).WellFormed := by
  have hperm : (sortQueue queue).Perm queue := orderBy_perm _ queue
  constructor
  all_goals
    intro q'
    by_cases hq : q' = q
  · subst hq
    simpa [RhythmPlane.withQueue, hperm.mem_iff] using hclasses
  · simpa [RhythmPlane.withQueue, hq] using h.classes q'
  · subst hq
    simpa [RhythmPlane.withQueue] using sortQueue_pairwise queue
  · simpa [RhythmPlane.withQueue, hq] using h.sorted q'
  · subst hq
    simpa [RhythmPlane.withQueue, hperm.length_eq] using hwithin
  · simpa [RhythmPlane.withQueue, hq] using h.within q'
  · subst hq
    simpa [RhythmPlane.withQueue, (hperm.map WorkItem.identityKey).nodup_iff] using hidentities
  · simpa [RhythmPlane.withQueue, hq] using h.identities q'

theorem WellFormed.served (h : plane.WellFormed) (hqueue : plane.queues q = item :: rest) :
    (plane.served q item rest).WellFormed := by
  have hclasses := h.classes q
  have hsorted := h.sorted q
  have hwithin := h.within q
  have hidentities := h.identities q
  rw [hqueue] at hclasses hsorted hwithin hidentities
  constructor
  all_goals
    intro q'
    by_cases hq : q' = q
  · subst hq
    simp only [RhythmPlane.served, update_self]
    exact fun e he => hclasses e (mem_cons_of_mem _ he)
  · simpa [RhythmPlane.served, hq] using h.classes q'
  · subst hq
    simpa [RhythmPlane.served] using hsorted.tail
  · simpa [RhythmPlane.served, hq] using h.sorted q'
  · subst hq
    simp only [RhythmPlane.served, update_self]
    rw [length_cons] at hwithin
    omega
  · simpa [RhythmPlane.served, hq] using h.within q'
  · subst hq
    simpa [RhythmPlane.served] using (nodup_cons.mp hidentities).2
  · simpa [RhythmPlane.served, hq] using h.identities q'

lemma map_set_identity {index : ℕ} (h : queue[index]? = some existing)
    (hidentity : existing.identityKey = item.identityKey) :
    (queue.set index item).map (·.identityKey) = queue.map (·.identityKey) := by
  rw [map_set, ← hidentity]
  apply ext_getElem?
  intro i
  rw [List.getElem?_set]
  by_cases hi : index = i
  · subst hi
    have hlength : index < queue.length := (List.getElem?_eq_some_iff.mp h).1
    rw [List.getElem?_map, h]
    simp [hlength]
  · rw [if_neg hi]

/-- What an admissible call keeps. -/
structure Kept (plane : RhythmPlane) : Prop where
  wellFormed : plane.WellFormed
  funded : plane.Funded

lemma kept_new (config : RhythmConfig) (budget : BudgetConfig) : (new config budget).Kept := by
  refine ⟨wellFormed_new config budget, fun r => ?_⟩
  simp [new, committedCost, backgroundCost, queueCost, BudgetLedger.new, QueueClass.all]

theorem Kept.coalesced (h : plane.Kept) {index : ℕ}
    (hindex : (plane.queues item.queueClass)[index]? = some existing)
    (hidentity : existing.identityKey = item.identityKey)
    (hspares : item.queueClass = .interactive → plane.Spares (growth item existing))
    (hcommits : plane.canCommit (growth item existing) (isInteractive item.queueClass) = true) :
    (plane.withQueue item.queueClass ((plane.queues item.queueClass).set index item) c).Kept := by
  constructor
  · apply h.wellFormed.withQueue
    · intro e he
      rcases mem_or_eq_of_mem_set he with he | rfl
      · exact h.wellFormed.classes _ e he
      · rfl
    · rw [length_set]
      exact h.wellFormed.within _
    · rw [map_set_identity hindex hidentity]
      exact h.wellFormed.identities _
  · exact h.funded.withQueue (fun r => queueCost_set hindex) hcommits hspares

theorem Kept.admitted (h : plane.Kept) (hnew : ¬ plane.Queued item)
    (hroom : (plane.queues item.queueClass).length < plane.config.queueCapacity)
    (hspares : item.queueClass = .interactive → plane.Spares item.cost)
    (hcommits : plane.canCommit item.cost (isInteractive item.queueClass) = true) :
    (plane.withQueue item.queueClass (plane.queues item.queueClass ++ [item]) c).Kept := by
  constructor
  · apply h.wellFormed.withQueue
    · intro e he
      rcases mem_append.mp he with he | he
      · exact h.wellFormed.classes _ e he
      · rw [mem_singleton.mp he]
    · rw [length_append, length_singleton]
      omega
    · rw [map_append, map_singleton, nodup_append]
      refine ⟨h.wellFormed.identities _, nodup_singleton _, ?_⟩
      intro key hkey key' hkey' heq
      obtain ⟨e, he, rfl⟩ := mem_map.mp hkey
      exact hnew ⟨e, he, heq.trans (mem_singleton.mp hkey')⟩
  · refine h.funded.withQueue (fun r => ?_) hcommits hspares
    rw [queueCost_append, queueCost_cons]
    simp [queueCost]

theorem Kept.step (h : plane.Kept) (call : RhythmCall) (hcall : plane.Admissible call) :
    (machine.step plane call).1.Kept := by
  cases call with
  | submit item =>
    show (plane.submit item).1.Kept
    cases submit_enqueues hcall with
    | coalesced index existing count hindex hidentity hspares hcommits _ hresult =>
      rw [hresult]
      exact h.coalesced hindex hidentity hspares hcommits
    | admitted hnew hroom hspares hcommits hresult =>
      rw [hresult]
      exact h.admitted hnew hroom hspares hcommits
    | refused decision _ hresult =>
      rw [hresult]
      exact h
  | serviceOne q =>
    show (plane.serviceOne q).1.Kept
    cases hqueue : plane.queues q with
    | nil =>
      rw [serviceOne_of_nil hqueue]
      exact h
    | cons item rest =>
      rw [h.funded.serviceOne hqueue]
      exact ⟨h.wellFormed.served hqueue, h.funded.served hqueue⟩

end RhythmPlane

open RhythmPlane

/-- The tickets that were drawn: those waiting with the item they stand for now, in the order of
their queue, and those that were returned. -/
structure Tickets where
  waiting : QueueClass → List (ℕ × WorkItem)
  returned : List (ℕ × WorkItem)
  drawn : ℕ

namespace Tickets

def none : Tickets := ⟨fun _ => [], [], 0⟩

def sort (tickets : List (ℕ × WorkItem)) : List (ℕ × WorkItem) :=
  orderBy (fun t t' => t.2.before t'.2) tickets

def numbers (t : Tickets) : List ℕ :=
  (all.flatMap t.waiting ++ t.returned).map (·.1)

def draw (t : Tickets) (item : WorkItem) : Tickets :=
  { t with
    waiting := update t.waiting item.queueClass
      (sort (t.waiting item.queueClass ++ [(t.drawn, item)]))
    drawn := t.drawn + 1 }

/-- A coalesced item takes over the ticket of the one that it replaces. -/
def takeOver (t : Tickets) (index : ℕ) (item : WorkItem) : Tickets :=
  { t with
    waiting := update t.waiting item.queueClass
      (sort ((t.waiting item.queueClass).modify index fun ticket => (ticket.1, item))) }

/-- The first ticket of a queue is returned with an item. -/
def giveBack (t : Tickets) (q : QueueClass) (item : WorkItem) : Tickets :=
  match t.waiting q with
  | [] => t
  | (number, _) :: rest =>
    { t with
      waiting := update t.waiting q rest
      returned := t.returned ++ [(number, item)] }

/-- The tickets after a submission. -/
def submitted (t : Tickets) (plane : RhythmPlane) (item : WorkItem) : Tickets :=
  match (plane.submit item).2.disposition with
  | .admitted => t.draw item
  | .coalesced =>
    match (findCoalesced item (plane.queues item.queueClass) plane.coalescer).1 with
    | some (index, _, _) => t.takeOver index item
    | .none => t
  | _ => t

def serviced (t : Tickets) (plane : RhythmPlane) (q : QueueClass) : Tickets :=
  match (plane.serviceOne q).2 with
  | .ok (some item) => t.giveBack q item
  | _ => t

def after (t : Tickets) (plane : RhythmPlane) : RhythmCall → Tickets
  | .submit item => t.submitted plane item
  | .serviceOne q => t.serviced plane q

/-- The tickets stand for what is queued, and each drawn one is waiting or returned, once. -/
structure Account (plane : RhythmPlane) (t : Tickets) : Prop where
  waiting : ∀ q, (t.waiting q).map (·.2) = plane.queues q
  once : t.numbers.Perm (List.range t.drawn)

lemma account_new (config : RhythmConfig) (budget : BudgetConfig) :
    Account (.new config budget) .none := by
  constructor
  · intro q
    rfl
  · exact List.Perm.refl []

variable {plane : RhythmPlane} {t : Tickets} {item : WorkItem} {q : QueueClass}

lemma map_sort (tickets : List (ℕ × WorkItem)) :
    (sort tickets).map (·.2) = sortQueue (tickets.map (·.2)) :=
  @map_orderBy _ _ _ WorkItem.before Prod.snd (fun _ _ => rfl) tickets

lemma count_numbers (t : Tickets) (n : ℕ) : t.numbers.count n =
    ((all.flatMap t.waiting).map (·.1)).count n + (t.returned.map (·.1)).count n := by
  rw [numbers, map_append, count_append]

/-- How often a number is waiting, when one queue changes. -/
lemma count_update (t : Tickets) (q : QueueClass) (tickets : List (ℕ × WorkItem)) (n : ℕ) :
    ((all.flatMap (update t.waiting q tickets)).map (·.1)).count n +
        ((t.waiting q).map (·.1)).count n =
      ((all.flatMap t.waiting).map (·.1)).count n + (tickets.map (·.1)).count n :=
  measure_update (fun l : List (ℕ × WorkItem) => (l.map Prod.fst).count n)
    (fun l l' => by rw [map_append, count_append]) _ _ _

lemma count_sort (tickets : List (ℕ × WorkItem)) (n : ℕ) :
    ((sort tickets).map (·.1)).count n = (tickets.map (·.1)).count n := by
  have hperm : (sort tickets).Perm tickets := orderBy_perm _ tickets
  exact (hperm.map (·.1)).count_eq n

lemma waiting_update (h : Account plane t) {queue : List WorkItem} {c : EventCoalescer}
    {tickets : List (ℕ × WorkItem)} (htickets : tickets.map (·.2) = queue) (q' : QueueClass) :
    (update t.waiting q (sort tickets) q').map (·.2) =
      (plane.withQueue q queue c).queues q' := by
  by_cases hq : q' = q
  · subst hq
    simp only [RhythmPlane.withQueue, update_self, map_sort, htickets]
  · simpa [RhythmPlane.withQueue, hq] using h.waiting q'

lemma Account.draw (h : Account plane t) {c : EventCoalescer} :
    Account (plane.withQueue item.queueClass (plane.queues item.queueClass ++ [item]) c)
      (t.draw item) := by
  constructor
  · apply waiting_update h
    rw [map_append, h.waiting]
    rfl
  · rw [perm_iff_count]
    intro n
    have hupdate := count_update t item.queueClass
      (sort (t.waiting item.queueClass ++ [(t.drawn, item)])) n
    have hold := (perm_iff_count.mp h.once) n
    rw [count_sort, map_append, count_append] at hupdate
    rw [count_numbers] at hold ⊢
    show _ = (List.range (t.drawn + 1)).count n
    rw [range_succ, count_append, ← hold]
    have hsame : ([(t.drawn, item)].map (·.1)).count n = [t.drawn].count n := rfl
    rw [hsame] at hupdate
    show ((all.flatMap (update t.waiting item.queueClass
      (sort (t.waiting item.queueClass ++ [(t.drawn, item)])))).map (·.1)).count n + _ = _
    have hreturned : (t.draw item).returned = t.returned := rfl
    rw [hreturned]
    omega

lemma Account.takeOver (h : Account plane t) {index : ℕ} {c : EventCoalescer} :
    Account (plane.withQueue item.queueClass ((plane.queues item.queueClass).set index item) c)
      (t.takeOver index item) := by
  have hnumbers : ∀ tickets : List (ℕ × WorkItem),
      (tickets.modify index fun ticket => (ticket.1, item)).map (·.1) = tickets.map (·.1) := by
    intro tickets
    apply ext_getElem?
    intro i
    simp only [List.getElem?_map, List.getElem?_modify]
    split <;> cases tickets[i]? <;> rfl
  constructor
  · apply waiting_update h
    rw [← h.waiting]
    apply ext_getElem?
    intro i
    simp only [List.getElem?_map, List.getElem?_modify, List.getElem?_set, length_map]
    by_cases hi : index = i
    · subst hi
      by_cases hlength : index < (t.waiting item.queueClass).length
      · simp [hlength]
      · simp [hlength]
    · simp [hi]
  · rw [perm_iff_count]
    intro n
    have hupdate := count_update t item.queueClass
      (sort ((t.waiting item.queueClass).modify index fun ticket => (ticket.1, item))) n
    have hold := (perm_iff_count.mp h.once) n
    rw [count_sort, hnumbers] at hupdate
    rw [count_numbers] at hold ⊢
    show ((all.flatMap (update t.waiting item.queueClass _)).map
      (·.1)).count n + (t.returned.map (·.1)).count n = (List.range t.drawn).count n
    omega

theorem Account.giveBack (h : Account plane t) {rest : List WorkItem}
    (hqueue : plane.queues q = item :: rest) :
    Account (plane.served q item rest) (t.giveBack q item) := by
  have hwaiting := h.waiting q
  rw [hqueue] at hwaiting
  cases htickets : t.waiting q with
  | nil =>
    rw [htickets] at hwaiting
    cases hwaiting
  | cons ticket tickets =>
    obtain ⟨number, first⟩ := ticket
    rw [htickets, map_cons, List.cons.injEq] at hwaiting
    have hback : t.giveBack q item = { t with
          waiting := update t.waiting q tickets
          returned := t.returned ++ [(number, item)] } := by
      rw [Tickets.giveBack, htickets]
    rw [hback]
    constructor
    · intro q'
      by_cases hq : q' = q
      · subst hq
        simpa [RhythmPlane.served] using hwaiting.2
      · simpa [RhythmPlane.served, hq] using h.waiting q'
    · rw [perm_iff_count]
      intro n
      have hupdate := count_update t q tickets n
      have hold := (perm_iff_count.mp h.once) n
      rw [htickets, map_cons] at hupdate
      rw [count_numbers] at hold ⊢
      show ((all.flatMap (update t.waiting q tickets)).map (·.1)).count n +
        ((t.returned ++ [(number, item)]).map (·.1)).count n = (List.range t.drawn).count n
      rw [map_append, count_append]
      have hfirst : (number :: tickets.map (·.1)).count n =
          [number].count n + (tickets.map (·.1)).count n := by
        rw [← count_append]
        rfl
      have hlast : ([(number, item)].map (·.1)).count n = [number].count n := rfl
      rw [hlast]
      rw [hfirst] at hupdate
      omega

theorem Account.step (h : Account plane t) (hkept : plane.Kept) (call : RhythmCall)
    (hcall : plane.Admissible call) :
    Account (RhythmPlane.machine.step plane call).1 (t.after plane call) := by
  cases call with
  | submit item =>
    show Account (plane.submit item).1 (t.submitted plane item)
    unfold Tickets.submitted
    cases submit_enqueues hcall with
    | coalesced index existing count _ _ _ _ hfound hresult =>
      rw [hresult]
      simp only [hfound]
      exact h.takeOver
    | admitted _ _ _ _ hresult =>
      rw [hresult]
      exact h.draw
    | refused decision hdisposition hresult =>
      rw [hresult]
      rcases hdisposition with hback | hrejected
      · simpa only [hback] using h
      · simpa only [hrejected] using h
  | serviceOne q =>
    show Account (plane.serviceOne q).1 (t.serviced plane q)
    unfold Tickets.serviced
    cases hqueue : plane.queues q with
    | nil =>
      rw [serviceOne_of_nil hqueue]
      exact h
    | cons item rest =>
      rw [hkept.funded.serviceOne hqueue]
      exact h.giveBack hqueue

end Tickets

def tracked : Machine (RhythmPlane × Tickets) RhythmCall RhythmAnswer where
  step s call :=
    (((machine.step s.1 call).1, s.2.after s.1 call), (machine.step s.1 call).2)

/-- The plane without work, before any ticket was drawn. -/
def start (config : RhythmConfig) (budget : BudgetConfig) : RhythmPlane × Tickets :=
  (.new config budget, .none)

/-- What is promised of a state and of the next call. -/
structure Promises (plane : RhythmPlane) (t : Tickets) (call : RhythmCall) : Prop where
  /-- Every admitted item is waiting or was returned, once. -/
  account : t.Account plane
  /-- Each queued item is returned when its turn comes. -/
  turns : ∀ q i item, (plane.queues q)[i]? = some item →
    ((machine.exec plane (List.replicate i (.serviceOne q))).serviceOne q).2 = .ok (some item)
  sorted : ∀ q, (plane.queues q).Pairwise fun item item' => item.before item' = true
  within : ∀ q, (plane.queues q).length ≤ plane.config.queueCapacity
  debounced : ∀ q, (plane.queues q).Pairwise fun item item' =>
    item.identityKey = item'.identityKey →
      (plane.coalescer.debounceFor q : ℤ) < |item.event.arrivedAtMs - item'.event.arrivedAtMs|
  remaining : ∀ r, 0 ≤ plane.budget.remaining r
  /-- A service returns the first item of its queue, and removes nothing else. -/
  serves : ∀ q, call = .serviceOne q → (plane.serviceOne q).2 = .ok (plane.queues q).head? ∧
    (plane.serviceOne q).1.queues = update plane.queues q (plane.queues q).tail
  /-- What is spent outside the interactive queue leaves the reserve. -/
  reserved : ∀ q, call = .serviceOne q → q ≠ .interactive → ∀ r,
    (plane.serviceOne q).1.budget.remaining r < plane.budget.remaining r →
      plane.budget.config.reserve r ≤ (plane.serviceOne q).1.budget.remaining r
  refused : ∀ item, call = .submit item → (plane.submit item).2.disposition = .backpressure ∨
      (plane.submit item).2.disposition = .rejected →
    (plane.submit item).1.queues = plane.queues ∧ (plane.submit item).1.coalescer = plane.coalescer

namespace RhythmPlane

variable {plane : RhythmPlane} {item : WorkItem} {q : QueueClass}

/-- The items of a queue are served one after the other. -/
theorem Funded.turns (h : plane.Funded) {i : ℕ} (hitem : (plane.queues q)[i]? = some item) :
    ((machine.exec plane (List.replicate i (.serviceOne q))).serviceOne q).2 = .ok (some item) := by
  induction i generalizing plane with
  | zero =>
    cases hqueue : plane.queues q with
    | nil =>
      rw [hqueue] at hitem
      cases hitem
    | cons first rest =>
      rw [hqueue] at hitem
      obtain rfl : first = item := by simpa using hitem
      show (plane.serviceOne q).2 = _
      rw [h.serviceOne hqueue]
  | succ i ih =>
    cases hqueue : plane.queues q with
    | nil =>
      rw [hqueue] at hitem
      cases hitem
    | cons first rest =>
      have hstep : (machine.step plane (.serviceOne q)).1 = plane.served q first rest :=
        congrArg Prod.fst (h.serviceOne hqueue)
      rw [replicate_succ, Machine.exec_cons, hstep]
      apply ih (h.served hqueue)
      rw [hqueue] at hitem
      simpa [RhythmPlane.served] using hitem

lemma Funded.remaining_nonneg (h : plane.Funded) (r : Resource) :
    0 ≤ plane.budget.remaining r := by
  have hfunded := (h r).1
  omega

lemma Funded.serves (h : plane.Funded) (q : QueueClass) :
    (plane.serviceOne q).2 = .ok (plane.queues q).head? ∧ (plane.serviceOne q).1.queues =
        update plane.queues q (plane.queues q).tail := by
  cases hqueue : plane.queues q with
  | nil =>
    rw [serviceOne_of_nil hqueue]
    refine ⟨rfl, ?_⟩
    rw [tail_nil, ← hqueue, update_eq_self]
  | cons item rest =>
    rw [h.serviceOne hqueue]
    exact ⟨rfl, rfl⟩

theorem Funded.reserved (h : plane.Funded) (hq : q ≠ .interactive) (r : Resource)
    (hspent : (plane.serviceOne q).1.budget.remaining r < plane.budget.remaining r) :
    plane.budget.config.reserve r ≤ (plane.serviceOne q).1.budget.remaining r := by
  cases hqueue : plane.queues q with
  | nil =>
    rw [serviceOne_of_nil hqueue] at hspent
    exact absurd hspent (lt_irrefl _)
  | cons item rest =>
    rw [h.serviceOne hqueue] at hspent ⊢
    have hremaining : (plane.served q item rest).budget.remaining r =
        plane.budget.remaining r - item.cost r := rfl
    have hbackground : queueCost (plane.queues q) r ≤ plane.backgroundCost r :=
      queueCost_le_background hq
    have hcommitted := committedCost_eq plane r
    have hfunded := h r
    rw [hqueue, queueCost_cons] at hbackground
    simp only [hremaining] at hspent ⊢
    omega

theorem Kept.promises (h : plane.Kept) {t : Tickets} (haccount : t.Account plane)
    (call : RhythmCall) (hcall : plane.Admissible call) : Promises plane t call where
  account := haccount
  turns := fun _ _ _ hitem => h.funded.turns hitem
  sorted := h.wellFormed.sorted
  within := h.wellFormed.within
  debounced := fun q => by
    have hdistinct := pairwise_map.mp (h.wellFormed.identities q)
    exact hdistinct.imp fun hne hsame => absurd hsame hne
  remaining := h.funded.remaining_nonneg
  serves := fun q _ => h.funded.serves q
  reserved := fun _ _ hq => h.funded.reserved hq
  refused := fun item hsubmit hdisposition => by
    subst hsubmit
    cases submit_enqueues hcall with
    | coalesced index existing count _ _ _ _ _ hresult =>
      rw [hresult] at hdisposition
      rcases hdisposition with hback | hrejected
      · cases hback
      · cases hrejected
    | admitted _ _ _ _ hresult =>
      rw [hresult] at hdisposition
      rcases hdisposition with hback | hrejected
      · cases hback
      · cases hrejected
    | refused decision _ hresult =>
      rw [hresult]
      exact ⟨rfl, rfl⟩

end RhythmPlane

/-- In a run of considerate submissions every admitted item is returned by one service of its
queue, in its turn, and what is refused leaves no trace. -/
theorem exec_promises (config : RhythmConfig) (budget : BudgetConfig) (calls : List RhythmCall)
    (call : RhythmCall)
    (h : tracked.Steps (fun s c => s.1.Admissible c) (start config budget) (calls ++ [call])) :
    Promises (tracked.exec (start config budget) calls).1
      (tracked.exec (start config budget) calls).2 call := by
  obtain ⟨hcalls, hcall, -⟩ := (tracked.steps_append _ _ _ _).mp h
  have hkept := Machine.exec_preserves_of_steps (m := tracked)
    (fun s => s.1.Kept ∧ s.2.Account s.1)
    (fun s c hs hc => ⟨hs.1.step c hc, hs.2.step hs.1 c hc⟩)
    (⟨kept_new config budget, Tickets.account_new config budget⟩ :
      (start config budget).1.Kept ∧ (start config budget).2.Account (start config budget).1)
    hcalls
  exact hkept.1.promises hkept.2 call hcall

lemma twoPlaces_pos : 1 ≤ 2 := by decide

lemma half_le_budget (r : Resource) :
    (fun _ : Resource => 50) r ≤ (fun _ : Resource => 100) r := by
  show 50 ≤ 100
  omega

def twoPlaces : RhythmConfig where
  queueCapacity := 2
  debounceMs := 100
  semanticMinPriority := 0
  revalidationMinPriority := 0
  capacity_pos := twoPlaces_pos

def halfReserved : BudgetConfig where
  budget := fun _ => 100
  reserve := fun _ => 50
  reserve_le := half_le_budget

def halfWork (queueClass : QueueClass) : WorkItem where
  event :=
    { eventId := "event"
      coalesceKey := "key"
      boundary := ⟨"life", "world", "principal", queueClass, none, none⟩
      arrivedAtMs := 0
      payloadSha256 := "payload"
      priority := 0 }
  cost := fun _ => 50
  semantic := false
  revalidation := false

/-- Background work is admitted, then interactive work, which is served first. -/
def overcommitted : List RhythmCall :=
  [.submit (halfWork .background), .submit (halfWork .interactive), .serviceOne .interactive]

lemma overcommitted_raises : ((tracked.exec (start twoPlaces halfReserved)
    overcommitted).1.serviceOne .background).2 = .error "BUDGET_EXHAUSTED" := by rfl

/-- The admitted background work is never returned: its service raises after it was removed. -/
theorem overcommitted_work_lost : ¬ ∀ (config : RhythmConfig) (budget : BudgetConfig)
    (calls : List RhythmCall) (call : RhythmCall),
    Promises (tracked.exec (start config budget) calls).1
      (tracked.exec (start config budget) calls).2 call := by
  intro h
  have hserves := (h twoPlaces halfReserved overcommitted (.serviceOne .background)).serves
    .background rfl
  rw [overcommitted_raises] at hserves
  cases hserves.1

lemma halfWork_considerate :
    (start twoPlaces halfReserved).1.Considerate (halfWork .background) where
  follows := by
    rintro ⟨existing, hmem, -⟩
    cases hmem
  committed := by
    intro existing hmem
    cases hmem
  replaces := by
    intro hq
    cases hq
  enters := by
    intro hq
    cases hq

/-- Background work alone is admitted and returned. -/
theorem halfWork_promises : Promises
    (tracked.exec (start twoPlaces halfReserved) [.submit (halfWork .background)]).1
    (tracked.exec (start twoPlaces halfReserved) [.submit (halfWork .background)]).2
    (.serviceOne .background) :=
  exec_promises twoPlaces halfReserved [.submit (halfWork .background)] (.serviceOne .background)
    ⟨fun _ => halfWork_considerate, trivial, trivial⟩

end Tiangong.Rhythm
