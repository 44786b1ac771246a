import Mathlib.Algebra.GroupWithZero.Nat
import Mathlib.Algebra.Order.Group.Int
import Mathlib.Data.Prod.Lex
import Mathlib.Data.String.Basic
import Mathlib.Logic.Function.Basic
import Tiangong.Machines
import Tiangong.Tables

/-!
# The rhythm plane

Work is admitted to one of five queues while the budget covers what is queued already, and served
in the order of its priority. Events of one identity that follow each other within the debounce of
their queue are coalesced. A part of every budget is reserved for the interactive queue.
-/
namespace Tiangong.Rhythm

inductive Resource where
  | token | compute | io | latency
  deriving DecidableEq, Repr

def Resource.all : List Resource := [.token, .compute, .io, .latency]

@[simp] theorem Resource.mem_all (r : Resource) : r ∈ Resource.all := by
  cases r <;> simp [Resource.all]

/-- `token_cost`, `compute_ms`, `io_bytes` and `latency_ms`. -/
abbrev WorkCost := Resource → ℕ

/-- The budgets, and the parts of them that are reserved for the interactive queue. -/
structure BudgetConfig where
  budget : Resource → ℕ
  reserve : Resource → ℕ
  reserve_le : ∀ r, reserve r ≤ budget r

structure BudgetLedger where
  config : BudgetConfig
  remaining : Resource → ℤ

namespace BudgetLedger

def new (config : BudgetConfig) : BudgetLedger := ⟨config, fun r => config.budget r⟩

def available (ledger : BudgetLedger) (interactive : Bool) (r : Resource) : ℤ :=
  if interactive then ledger.remaining r
  else max 0 (ledger.remaining r - ledger.config.reserve r)

def canSpend (ledger : BudgetLedger) (cost : WorkCost) (interactive : Bool) : Bool :=
  Resource.all.all fun r => (cost r : ℤ) ≤ ledger.available interactive r

def spend (ledger : BudgetLedger) (cost : WorkCost) (interactive : Bool) :
    Except String BudgetLedger :=
  if ledger.canSpend cost interactive then
    .ok { ledger with remaining := fun r => ledger.remaining r - cost r }
  else .error "BUDGET_EXHAUSTED"

end BudgetLedger

inductive QueueClass where
  | interactive | fast | semantic | revalidation | background
  deriving DecidableEq, Repr

def QueueClass.all : List QueueClass := [.interactive, .fast, .semantic, .revalidation, .background]

/-- `HardBoundary`. Its digest is read as the boundary. -/
structure HardBoundary where
  lifeId : String
  worldScopeHash : String
  principalScopeHash : String
  queueClass : QueueClass
  worldCutId : Option String
  transactionRef : Option String
  deriving DecidableEq, Repr

structure RhythmEvent where
  eventId : String
  coalesceKey : String
  boundary : HardBoundary
  arrivedAtMs : ℤ
  payloadSha256 : String
  priority : ℤ
  deriving DecidableEq, Repr

def RhythmEvent.identityKey (event : RhythmEvent) : HardBoundary × String :=
  (event.boundary, event.coalesceKey)

structure CoalescedEvent where
  event : RhythmEvent
  coalescedCount : ℕ
  firstArrivedAtMs : ℤ
  lastArrivedAtMs : ℤ
  deriving DecidableEq, Repr

structure EventCoalescer where
  debounceMs : ℕ
  pending : HardBoundary × String → Option CoalescedEvent
  debounceByQueue : QueueClass → Option ℕ

namespace EventCoalescer

def new (debounceMs : ℕ) : EventCoalescer := ⟨debounceMs, fun _ => none, fun _ => none⟩

def debounceFor (c : EventCoalescer) (queueClass : QueueClass) : ℕ :=
  (c.debounceByQueue queueClass).getD c.debounceMs

/-- The event follows the pending one of its identity within the debounce. -/
def follows (c : EventCoalescer) (event : RhythmEvent) (prior : CoalescedEvent) : Bool :=
  event.arrivedAtMs - prior.lastArrivedAtMs ≤ c.debounceFor event.boundary.queueClass

/-- What is pending after an event: it is coalesced with the pending one of its identity, or new. -/
def offered (c : EventCoalescer) (event : RhythmEvent) : Bool × CoalescedEvent :=
  match c.pending event.identityKey with
  | some prior =>
    if c.follows event prior then
      (true, ⟨event, prior.coalescedCount + 1, prior.firstArrivedAtMs, event.arrivedAtMs⟩)
    else (false, ⟨event, 1, event.arrivedAtMs, event.arrivedAtMs⟩)
  | none => (false, ⟨event, 1, event.arrivedAtMs, event.arrivedAtMs⟩)

def offer (c : EventCoalescer) (event : RhythmEvent) : EventCoalescer :=
  { c with
    pending := Function.update c.pending event.identityKey (some (c.offered event).2) }

def forget (c : EventCoalescer) (event : RhythmEvent) : EventCoalescer :=
  { c with pending := Function.update c.pending event.identityKey none }

end EventCoalescer

structure RhythmConfig where
  queueCapacity : ℕ
  debounceMs : ℕ
  semanticMinPriority : ℤ
  revalidationMinPriority : ℤ
  capacity_pos : 1 ≤ queueCapacity

structure WorkItem where
  event : RhythmEvent
  cost : WorkCost
  semantic : Bool
  revalidation : Bool

namespace WorkItem

abbrev identityKey (item : WorkItem) : HardBoundary × String := item.event.identityKey

abbrev queueClass (item : WorkItem) : QueueClass := item.event.boundary.queueClass

def sortKey (item : WorkItem) : ℤ ×ₗ ℤ ×ₗ String :=
  toLex (-item.event.priority, toLex (item.event.arrivedAtMs, item.event.eventId))

/-- The order of a queue: by falling priority, arrival and identifier. -/
def before (item item' : WorkItem) : Bool := item.sortKey ≤ item'.sortKey

end WorkItem

inductive Disposition where
  | admitted | coalesced | backpressure | rejected
  deriving DecidableEq, Repr

structure AdmissionDecision where
  disposition : Disposition
  reasonCode : String
  queueClass : QueueClass
  coalescedCount : ℕ := 1
  deriving DecidableEq, Repr

structure RhythmPlane where
  config : RhythmConfig
  budget : BudgetLedger
  queues : QueueClass → List WorkItem
  coalescer : EventCoalescer

namespace RhythmPlane

def new (config : RhythmConfig) (budget : BudgetConfig) : RhythmPlane where
  config := config
  budget := .new budget
  queues := fun _ => []
  coalescer := .new config.debounceMs

/-- `_validate`: the reason to reject the item. -/
def validate (plane : RhythmPlane) (item : WorkItem) : Option String :=
  if item.semantic ∧ item.event.priority < plane.config.semanticMinPriority then
    some "SEMANTIC_ADMISSION_FLOOR"
  else if item.revalidation ∧ item.event.priority < plane.config.revalidationMinPriority then
    some "REVALIDATION_ADMISSION_FLOOR"
  else none

def queueCost (queue : List WorkItem) (r : Resource) : ℕ := (queue.map fun item => item.cost r).sum

def committedCost (plane : RhythmPlane) (r : Resource) : ℕ :=
  queueCost (QueueClass.all.flatMap plane.queues) r

/-- What can still be committed: the rest of the budget, without the reserve for the queues that
are not interactive. -/
def committable (plane : RhythmPlane) (interactive : Bool) (r : Resource) : ℤ :=
  let free := max 0 (plane.budget.remaining r - plane.committedCost r)
  if interactive then free else max 0 (free - plane.budget.config.reserve r)

def canCommit (plane : RhythmPlane) (cost : WorkCost) (interactive : Bool) : Bool :=
  Resource.all.all fun r => (cost r : ℤ) ≤ plane.committable interactive r

def sortQueue (queue : List WorkItem) : List WorkItem := orderBy WorkItem.before queue

/-- The queued item that the new one is coalesced with: the first of its identity for which the
coalescer says so. The coalescer is asked for each of them, and keeps what it was asked. -/
def findCoalesced (item : WorkItem) : List WorkItem → EventCoalescer →
    Option (ℕ × WorkItem × ℕ) × EventCoalescer
  | [], c => (none, c)
  | existing :: rest, c =>
    if existing.identityKey = item.identityKey then
      if (c.offered item.event).1 then
        (some (0, existing, (c.offered item.event).2.coalescedCount), c.offer item.event)
      else
        let found := findCoalesced item rest (c.offer item.event)
        (found.1.map fun f => (f.1 + 1, f.2), found.2)
    else
      let found := findCoalesced item rest c
      (found.1.map fun f => (f.1 + 1, f.2), found.2)

/-- What the new item costs more than the queued one. -/
def growth (item existing : WorkItem) : WorkCost := fun r => item.cost r - existing.cost r

def isInteractive (queueClass : QueueClass) : Bool := queueClass = .interactive

/-- The queue of a class becomes the given one, sorted. -/
def withQueue (plane : RhythmPlane) (queueClass : QueueClass) (queue : List WorkItem)
    (c : EventCoalescer) : RhythmPlane :=
  { plane with queues := Function.update plane.queues queueClass (sortQueue queue), coalescer := c }

/-- The part of `submit` after the floors. -/
def enqueue (plane : RhythmPlane) (item : WorkItem) : RhythmPlane × AdmissionDecision :=
  let q := item.queueClass
  let queue := plane.queues q
  match findCoalesced item queue plane.coalescer with
  | (some (index, existing, count), c) =>
    if plane.canCommit (growth item existing) (isInteractive q) then
      (plane.withQueue q (queue.set index item) c, ⟨.coalesced, "DEBOUNCE_COALESCE", q, count⟩)
    else ({ plane with coalescer := c }, ⟨.backpressure, "BUDGET_RESERVE", q, count⟩)
  | (none, c) =>
    if plane.config.queueCapacity ≤ queue.length then
      ({ plane with coalescer := c }, { disposition := .backpressure
                                        reasonCode := "QUEUE_CAPACITY", queueClass := q })
    else if plane.canCommit item.cost (isInteractive q) then
      (plane.withQueue q (queue ++ [item]) (c.offer item.event),
        { disposition := .admitted, reasonCode := "OK", queueClass := q })
    else
      ({ plane with coalescer := c }, { disposition := .backpressure
                                        reasonCode := "BUDGET_RESERVE", queueClass := q })

def submit (plane : RhythmPlane) (item : WorkItem) : RhythmPlane × AdmissionDecision :=
  match plane.validate item with
  | some reason =>
    (plane, { disposition := .rejected, reasonCode := reason, queueClass := item.queueClass })
  | none => plane.enqueue item

/-- `service_one`. The item leaves its queue before its cost is spent. -/
def serviceOne (plane : RhythmPlane) (queueClass : QueueClass) :
    RhythmPlane × Except String (Option WorkItem) :=
  match plane.queues queueClass with
  | [] => (plane, .ok none)
  | item :: rest =>
    let popped := { plane with queues := Function.update plane.queues queueClass rest }
    match plane.budget.spend item.cost (isInteractive queueClass) with
    | .error e => (popped, .error e)
    | .ok budget =>
      ({ popped with budget := budget, coalescer := plane.coalescer.forget item.event },
        .ok (some item))

inductive RhythmCall where
  | submit (item : WorkItem)
  | serviceOne (queueClass : QueueClass)

inductive RhythmAnswer where
  | decision (decision : AdmissionDecision)
  | served (result : Except String (Option WorkItem))

def step (plane : RhythmPlane) : RhythmCall → RhythmPlane × RhythmAnswer
  | .submit item => ((plane.submit item).1, .decision (plane.submit item).2)
  | .serviceOne q => ((plane.serviceOne q).1, .served (plane.serviceOne q).2)

def machine : Machine RhythmPlane RhythmCall RhythmAnswer := ⟨step⟩

end RhythmPlane

end Tiangong.Rhythm
