import Tiangong.RepairCoordinator

/-!
# The repair loop

The loop dispatches the directives of a round one after another and re-verifies after each. The
runtime, the verifier and the clock are the caller's: they may change the store and the world
outside in any way. The world keeps a log of dispatch calls and of ambiguous outcomes.
-/
namespace Tiangong

/-- The moment an outcome was found ambiguous. -/
structure AmbiguousPoint where
  store : RepairStore
  readiness : VerificationReadiness
  directive : RepairDirective
  result : RepairDispatchResult
  nowMs : ℕ
  startedAtMs : ℕ
  finishedAtMs : ℕ

inductive RepairEvent where
  | dispatched (directive : RepairDirective)
  | ambiguous (point : AmbiguousPoint)

def RepairEvent.isAmbiguous : RepairEvent → Bool
  | .dispatched _ => false
  | .ambiguous _ => true

/-- The store, the world outside and the log, newest entry first. -/
structure RepairWorld (ξ : Type) where
  store : RepairStore
  outside : ξ
  log : List RepairEvent

/-- A configured coordinator with the callbacks of one `execute_repair_loop` call. -/
structure RepairLoop (ξ : Type) where
  policy : RepairPolicyConfig
  plan : VerificationPlan
  dispatchableSubjectKinds : List SubjectKind
  dispatch : RepairDirective → Call RepairError (RepairStore × ξ) RepairDispatchResult
  reverify : Call RepairError (RepairStore × ξ) VerificationReadiness
  clock : ξ → ℕ × ξ

/-- How a round ended: the loop is over, or the next round may start. -/
inductive RoundEnd where
  | finished (readiness : VerificationReadiness) (disposition : Option VerificationDisposition)
  | next (readiness : VerificationReadiness) (executedAny : Bool)

namespace RepairLoop

variable {ξ : Type} (L : RepairLoop ξ)

def onStore {α : Type} (x : Call RepairError RepairStore α) : Call RepairError (RepairWorld ξ) α :=
  x.within RepairWorld.store fun w s => { w with store := s }

theorem on_onStore {α : Type} (x : Call RepairError RepairStore α) (w : RepairWorld ξ) :
    (onStore x).on w = ((x.on w.store).1, { w with store := (x.on w.store).2 }) := rfl

/-- A callback, which sees the store and the world outside but not the log. -/
def callback {α : Type} (x : Call RepairError (RepairStore × ξ) α) :
    Call RepairError (RepairWorld ξ) α :=
  x.within (fun w => (w.store, w.outside)) fun w p => { w with store := p.1, outside := p.2 }

def tick : Call RepairError (RepairWorld ξ) ℕ := fun w =>
  let (now, outside) := L.clock w.outside
  (.ok now, { w with outside := outside })

def note (event : RepairEvent) : Call RepairError (RepairWorld ξ) Unit := fun w =>
  (.ok (), { w with log := event :: w.log })

def resolveDispatchResult (directive : RepairDirective) :
    Call RepairError (RepairWorld ξ) (Option RepairDispatchResult) := do
  match ← onStore (Call.read (resolveBinding directive)) with
  | .handOver => pure none
  | .resolved result => pure (some result)
  | .dispatch => do
    note (.dispatched directive)
    let result ← callback (L.dispatch directive)
    pure (if result.executionOutcome = .alreadyClaimed then none else some result)

/-- An ambiguous outcome is recorded and the dispositions are derived again. -/
def settleAmbiguous (current : VerificationReadiness) (directive : RepairDirective)
    (result : RepairDispatchResult) (nowMs startedAtMs finishedAtMs : ℕ) :
    Call RepairError RepairStore (Option VerificationDisposition) := do
  recordAttempt (attemptOf directive .executionAmbiguous result none startedAtMs finishedAtMs)
  let reconcile ← processReadiness L.policy L.plan current nowMs
  pure reconcile.getLast?

/-- The subject is linked first, then the plan is verified again and the attempt recorded. -/
def reverifyAttempt (directive : RepairDirective) (result : RepairDispatchResult)
    (nowMs startedAtMs : ℕ) : Call RepairError (RepairWorld ξ) VerificationReadiness := do
  Call.query fun _ => rejectIf
    (result.executionEffectIds = [] ∧ result.executionOutcome = .dispatched)
    (.coordinator "repair dispatch claims success without an effect ledger binding")
  if result.producedSubjectIdentity ≠ "" ∧
      result.producedSubjectIdentity ≠ directive.effectiveSubjectIdentity then
    onStore (bindSuccessor directive result nowMs)
  let current ← callback L.reverify
  let recordId ← onStore (Call.read (latestRecordForEntry L.plan directive.planEntryId))
  let finishedAtMs ← L.tick
  onStore <| recordAttempt <|
    attemptOf directive (attemptOutcome directive result current) result recordId startedAtMs
      finishedAtMs
  pure current

/-- The repairable dispositions of one round, in order. -/
def repairRound (nowMs : ℕ) : List VerificationDisposition → VerificationReadiness → Bool →
    Call RepairError (RepairWorld ξ) RoundEnd
  | [], current, executedAny => pure (.next current executedAny)
  | d :: ds, current, executedAny => do
    let evidence ← onStore (Call.query (findPersistedFailureEvidence d))
    match ← onStore (directiveForDisposition d evidence L.plan nowMs) with
    | none => repairRound nowMs ds current executedAny
    | some directive => do
      let startedAtMs ← L.tick
      match ← L.resolveDispatchResult directive with
      | none => pure (.finished current none)
      | some result =>
        if result.executionOutcome = .executionAmbiguous then do
          let finishedAtMs ← L.tick
          let store ← Call.read RepairWorld.store
          note (.ambiguous
            ⟨store, current, directive, result, nowMs, startedAtMs, finishedAtMs⟩)
          let reconcile ← onStore
            (L.settleAmbiguous current directive result nowMs startedAtMs finishedAtMs)
          pure (.finished current reconcile)
        else do
          let current ← L.reverifyAttempt directive result nowMs startedAtMs
          if current.verificationReady then pure (.finished current none)
          else repairRound nowMs ds current true

/-- The subject kind of an entry may be repaired in this context. -/
def dispatchable (d : VerificationDisposition) : Bool :=
  ((L.plan.entry d.planEntryId).map fun e => e.predicate.subjectKind).any
    (· ∈ L.dispatchableSubjectKinds)

def repairable (ds : List VerificationDisposition) : List VerificationDisposition :=
  ds.filter fun d => d.action = .repair && L.dispatchable d

def notDispatchable (ds : List VerificationDisposition) : List VerificationDisposition :=
  ds.filter fun d => d.action = .repair && !L.dispatchable d

/-- The rounds that are left, with the last disposition seen. -/
def repairRounds : ℕ → VerificationReadiness → Option VerificationDisposition →
    Call RepairError (RepairWorld ξ) (VerificationReadiness × Option VerificationDisposition)
  | 0, current, final => pure (current, final)
  | rounds + 1, current, final => do
    let nowMs ← L.tick
    let ds ← onStore (processReadiness L.policy L.plan current nowMs)
    let final := ds.getLast?.or final
    if L.repairable ds = [] then pure (current, (L.notDispatchable ds).head?.or final)
    else
      match ← L.repairRound nowMs (L.repairable ds) current false with
      | .finished readiness disposition => pure (readiness, disposition)
      | .next readiness true => repairRounds rounds readiness final
      | .next readiness false => pure (readiness, final)

def executeRepairLoop (readiness : VerificationReadiness) :
    Call RepairError (RepairWorld ξ) (VerificationReadiness × Option VerificationDisposition) :=
  if readiness.verificationReady then pure (readiness, none)
  else L.repairRounds (L.policy.maxTotalAutoRepairsPerGeneration + 1) readiness none

end RepairLoop

end Tiangong
