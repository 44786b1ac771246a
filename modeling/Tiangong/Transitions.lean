import Mathlib.Order.Nat
import Tiangong.Canon
import Tiangong.Machines

/-!
# The run state machines

Four machines share one transition function: an event is checked against the snapshot it was made
for, against the transition table of its machine and against the evidence its target demands. What
a model validator demands is a field of the record.
-/
namespace Tiangong

inductive MachineName where
  | request | execution | artifact | delivery
  deriving DecidableEq, Repr

def MachineName.canon : MachineName → Canon
  | .request => .text "request"
  | .execution => .text "execution"
  | .artifact => .text "artifact"
  | .delivery => .text "delivery"

inductive StateValue where
  | received | queued | planning | waitingConfirmation | executing | validatingArtifacts
  | delivering | completed | partialDone | failed | cancelled | superseded
  | notStarted | planned | ticketIssued | claimed | running | succeeded
  | failedRetryable | failedFinal | ambiguous | reconcileRequired | fenced
  | notRequired | pending | created | qcPending | qcPassed | qcFailed | rejected
  | notPlanned | fetching | uploading | sending | channelAccepted | delivered
  deriving DecidableEq, Repr

def StateValue.canon : StateValue → Canon
  | .received => .text "RECEIVED"
  | .queued => .text "QUEUED"
  | .planning => .text "PLANNING"
  | .waitingConfirmation => .text "WAITING_CONFIRMATION"
  | .executing => .text "EXECUTING"
  | .validatingArtifacts => .text "VALIDATING_ARTIFACTS"
  | .delivering => .text "DELIVERING"
  | .completed => .text "COMPLETED"
  | .partialDone => .text "PARTIAL"
  | .failed => .text "FAILED"
  | .cancelled => .text "CANCELLED"
  | .superseded => .text "SUPERSEDED"
  | .notStarted => .text "NOT_STARTED"
  | .planned => .text "PLANNED"
  | .ticketIssued => .text "TICKET_ISSUED"
  | .claimed => .text "CLAIMED"
  | .running => .text "RUNNING"
  | .succeeded => .text "SUCCEEDED"
  | .failedRetryable => .text "FAILED_RETRYABLE"
  | .failedFinal => .text "FAILED_FINAL"
  | .ambiguous => .text "AMBIGUOUS"
  | .reconcileRequired => .text "RECONCILE_REQUIRED"
  | .fenced => .text "FENCED"
  | .notRequired => .text "NOT_REQUIRED"
  | .pending => .text "PENDING"
  | .created => .text "CREATED"
  | .qcPending => .text "QC_PENDING"
  | .qcPassed => .text "QC_PASSED"
  | .qcFailed => .text "QC_FAILED"
  | .rejected => .text "REJECTED"
  | .notPlanned => .text "NOT_PLANNED"
  | .fetching => .text "FETCHING"
  | .uploading => .text "UPLOADING"
  | .sending => .text "SENDING"
  | .channelAccepted => .text "CHANNEL_ACCEPTED"
  | .delivered => .text "DELIVERED"

namespace MachineName

/-- `STATE_VALUES`. -/
def states : MachineName → List StateValue
  | request => [.received, .queued, .planning, .waitingConfirmation, .executing,
      .validatingArtifacts, .delivering, .completed, .partialDone, .failed, .cancelled, .superseded]
  | execution => [.notStarted, .planned, .ticketIssued, .claimed, .running, .succeeded,
      .failedRetryable, .failedFinal, .ambiguous, .reconcileRequired, .cancelled, .fenced]
  | artifact => [.notRequired, .pending, .created, .qcPending, .qcPassed, .qcFailed, .rejected,
      .superseded]
  | delivery => [.notPlanned, .planned, .ticketIssued, .fetching, .uploading, .sending,
      .channelAccepted, .delivered, .failedRetryable, .failedFinal, .ambiguous,
      .reconcileRequired, .cancelled, .fenced]

/-- `INITIAL_STATES`. -/
def initialState : MachineName → StateValue
  | request => .received
  | execution => .notStarted
  | artifact => .pending
  | delivery => .notPlanned

def terminalStates : MachineName → List StateValue
  | request => [.completed, .partialDone, .failed, .cancelled, .superseded]
  | execution => [.succeeded, .failedFinal, .cancelled, .fenced]
  | artifact => [.notRequired, .qcPassed, .qcFailed, .rejected, .superseded]
  | delivery => [.delivered, .failedFinal, .cancelled, .fenced]

def transitions : MachineName → StateValue → List StateValue
  | request, .received => [.queued, .planning, .failed, .cancelled, .superseded]
  | request, .queued => [.planning, .failed, .cancelled, .superseded]
  | request, .planning =>
    [.waitingConfirmation, .executing, .delivering, .failed, .cancelled, .superseded]
  | request, .waitingConfirmation => [.planning, .executing, .failed, .cancelled, .superseded]
  | request, .executing => [.validatingArtifacts, .delivering, .failed, .cancelled, .superseded]
  | request, .validatingArtifacts => [.delivering, .failed, .cancelled, .superseded]
  | request, .delivering => [.completed, .partialDone, .failed, .cancelled, .superseded]
  | execution, .notStarted => [.planned, .cancelled, .fenced]
  | execution, .planned => [.ticketIssued, .failedFinal, .cancelled, .fenced]
  | execution, .ticketIssued => [.claimed, .failedRetryable, .failedFinal, .cancelled, .fenced]
  | execution, .claimed =>
    [.running, .succeeded, .failedRetryable, .failedFinal, .ambiguous, .cancelled, .fenced]
  | execution, .running =>
    [.succeeded, .failedRetryable, .failedFinal, .ambiguous, .cancelled, .fenced]
  | execution, .failedRetryable => [.ticketIssued, .failedFinal, .cancelled, .fenced]
  | execution, .ambiguous => [.reconcileRequired]
  | execution, .reconcileRequired => [.succeeded, .failedFinal]
  | artifact, .pending => [.created, .rejected, .superseded]
  | artifact, .created => [.qcPending, .rejected, .superseded]
  | artifact, .qcPending => [.qcPassed, .qcFailed, .rejected, .superseded]
  | delivery, .notPlanned => [.planned, .cancelled, .fenced]
  | delivery, .planned => [.ticketIssued, .failedFinal, .cancelled, .fenced]
  | delivery, .ticketIssued =>
    [.fetching, .sending, .failedRetryable, .failedFinal, .cancelled, .fenced]
  | delivery, .fetching =>
    [.uploading, .sending, .failedRetryable, .failedFinal, .cancelled, .fenced]
  | delivery, .uploading =>
    [.sending, .failedRetryable, .failedFinal, .ambiguous, .cancelled, .fenced]
  | delivery, .sending =>
    [.channelAccepted, .delivered, .failedRetryable, .failedFinal, .ambiguous, .cancelled, .fenced]
  | delivery, .channelAccepted => [.delivered, .ambiguous, .reconcileRequired]
  | delivery, .failedRetryable => [.ticketIssued, .failedFinal, .cancelled, .fenced]
  | delivery, .ambiguous => [.reconcileRequired]
  | delivery, .reconcileRequired => [.channelAccepted, .delivered, .failedFinal]
  | _, _ => []

def allowedOwners : MachineName → List String
  | request | artifact => ["tiangong-total-gateway"]
  | execution => ["tiangong-backend", "tiangong-total-gateway"]
  | delivery => ["tiangong-communication-service", "tiangong-total-gateway"]

def evidenceRequired : MachineName → List StateValue
  | request => [.completed, .partialDone, .failed]
  | execution => [.succeeded, .failedRetryable, .failedFinal, .ambiguous, .reconcileRequired]
  | artifact => [.qcPassed, .qcFailed, .rejected]
  | delivery => [.channelAccepted, .delivered, .failedRetryable, .failedFinal, .ambiguous,
      .reconcileRequired]

/-- The machines whose steps may have an effect outside. -/
def hasSideEffects : MachineName → Bool
  | execution | delivery => true
  | _ => false

end MachineName

/-- The states that say that nothing was done: a started side effect may not end in them. -/
def StateValue.discards : StateValue → Bool
  | .cancelled | .fenced | .failedRetryable => true
  | _ => false

/-- The `validate_machine_state` of a snapshot. -/
def snapshotAdmitted (machine : MachineName) (state : StateValue)
    (createdAtMs updatedAtMs : ℕ) : Bool :=
  state ∈ machine.states && createdAtMs ≤ updatedAtMs

structure StateSnapshot where
  schemaVersion : SchemaVersion
  machine : MachineName
  entityId : String
  requestId : String
  runId : String
  generation : ℕ
  revision : ℕ
  state : StateValue
  createdAtMs : ℕ
  updatedAtMs : ℕ
  lastEventId : Option String
  admitted : snapshotAdmitted machine state createdAtMs updatedAtMs = true
  deriving DecidableEq

namespace StateSnapshot

def isTerminal (s : StateSnapshot) : Bool := s.state ∈ s.machine.terminalStates

end StateSnapshot

structure TransitionEvent where
  schemaVersion : SchemaVersion
  eventId : String
  eventType : String
  sourceComponentId : String
  machine : MachineName
  entityId : String
  requestId : String
  runId : String
  generation : ℕ
  expectedRevision : ℕ
  toState : StateValue
  occurredAtMs : ℕ
  factId : Option String
  evidenceSha256 : Option Canon
  sideEffectStarted : Bool
  eventSha256 : Canon
  to_state_of_machine : (machine.states.contains toState) = true
  deriving DecidableEq

namespace TransitionEvent

def computedEventSha256 (e : TransitionEvent) : Canon :=
  .sha256 <| .ofList
    [e.schemaVersion.canon, .text e.eventId, .text e.eventType, .text e.sourceComponentId,
      e.machine.canon, .text e.entityId, .text e.requestId, .text e.runId, .num e.generation,
      .num e.expectedRevision, e.toState.canon, .num e.occurredAtMs, .option .text e.factId,
      .option id e.evidenceSha256, .flag e.sideEffectStarted]

def hasValidEventSha256 (e : TransitionEvent) : Bool := e.eventSha256 = e.computedEventSha256

def withComputedEventSha256 (e : TransitionEvent) : TransitionEvent :=
  { e with eventSha256 := e.computedEventSha256 }

/-- The event was made for the entity of the snapshot. -/
def sameContext (e : TransitionEvent) (s : StateSnapshot) : Bool :=
  e.machine = s.machine && e.entityId = s.entityId && e.requestId = s.requestId && e.runId = s.runId

/-- The event brings the evidence its target demands. -/
def evidenced (e : TransitionEvent) : Bool :=
  e.toState ∉ e.machine.evidenceRequired || e.factId.isSome || e.evidenceSha256.isSome

/-- The event discards a side effect that it says has started. -/
def discardsStarted (e : TransitionEvent) : Bool :=
  e.machine.hasSideEffects && e.sideEffectStarted && e.toState.discards

end TransitionEvent

inductive Disposition where
  | applied | duplicate | lateIgnored | futureRejected | revisionConflict | ownerRejected
  | contextRejected | terminalRejected | illegalTransition | evidenceRejected
  | eventDigestRejected | ambiguousRequired
  deriving DecidableEq, Repr

/-- The grounds on which an event is refused, in the order of the checks. -/
inductive Refusal where
  | digestInvalid | duplicate | contextMismatch | lateGeneration | futureGeneration
  | revisionConflict | backdated | ownerRejected | terminal | illegal | ambiguousRequired
  | evidenceRequired
  deriving DecidableEq, Repr

namespace Refusal

def disposition : Refusal → Disposition
  | digestInvalid => .eventDigestRejected
  | duplicate => .duplicate
  | contextMismatch => .contextRejected
  | lateGeneration | backdated => .lateIgnored
  | futureGeneration => .futureRejected
  | revisionConflict => .revisionConflict
  | ownerRejected => .ownerRejected
  | terminal => .terminalRejected
  | illegal => .illegalTransition
  | ambiguousRequired => .ambiguousRequired
  | evidenceRequired => .evidenceRejected

def reasonCode : Refusal → String
  | digestInvalid => "state.event.digest_invalid"
  | duplicate => "state.event.duplicate"
  | contextMismatch => "state.event.context_mismatch"
  | lateGeneration => "state.event.late_generation"
  | futureGeneration => "state.event.future_generation"
  | revisionConflict => "state.event.revision_conflict"
  | backdated => "state.event.backdated"
  | ownerRejected => "state.event.owner_rejected"
  | terminal => "state.transition.terminal"
  | illegal => "state.transition.illegal"
  | ambiguousRequired => "state.side_effect.ambiguous_required"
  | evidenceRequired => "state.transition.evidence_required"

lemma disposition_ne_applied (r : Refusal) : r.disposition ≠ .applied := by
  cases r <;> decide

end Refusal

/-- Only an applied event changes the snapshot. -/
structure TransitionDecision where
  accepted : Bool
  disposition : Disposition
  reasonCode : String
  previous : StateSnapshot
  current : StateSnapshot
  accepted_iff : accepted = true ↔ disposition = .applied
  rejected_same : accepted = false → previous = current

lemma initial_admitted (machine : MachineName) (createdAtMs : ℕ) :
    snapshotAdmitted machine machine.initialState createdAtMs createdAtMs = true := by
  cases machine <;> simp [snapshotAdmitted, MachineName.states, MachineName.initialState]

lemma notRequired_admitted (createdAtMs : ℕ) :
    snapshotAdmitted .artifact .notRequired createdAtMs createdAtMs = true := by
  simp [snapshotAdmitted, MachineName.states]

def newStateSnapshot (machine : MachineName) (entityId requestId runId : String)
    (generation createdAtMs : ℕ) (artifactRequired : Bool) : StateSnapshot :=
  if machine = .artifact ∧ artifactRequired = false then
    { schemaVersion := .current
      machine := .artifact
      entityId := entityId
      requestId := requestId
      runId := runId
      generation := generation
      revision := 0
      state := .notRequired
      createdAtMs := createdAtMs
      updatedAtMs := createdAtMs
      lastEventId := none
      admitted := notRequired_admitted createdAtMs }
  else
    { schemaVersion := .current
      machine := machine
      entityId := entityId
      requestId := requestId
      runId := runId
      generation := generation
      revision := 0
      state := machine.initialState
      createdAtMs := createdAtMs
      updatedAtMs := createdAtMs
      lastEventId := none
      admitted := initial_admitted machine createdAtMs }

/-- The first check that an event fails on a snapshot. -/
def refusal (s : StateSnapshot) (e : TransitionEvent) (eventAlreadyApplied : Bool) :
    Option Refusal :=
  if e.hasValidEventSha256 = false then some .digestInvalid
  else if eventAlreadyApplied then some .duplicate
  else if e.sameContext s = false then some .contextMismatch
  else if e.generation < s.generation then some .lateGeneration
  else if s.generation < e.generation then some .futureGeneration
  else if e.expectedRevision ≠ s.revision then some .revisionConflict
  else if e.occurredAtMs < s.updatedAtMs then some .backdated
  else if e.sourceComponentId ∉ s.machine.allowedOwners then some .ownerRejected
  else if s.isTerminal then some .terminal
  else if e.toState ∉ s.machine.transitions s.state then some .illegal
  else if e.discardsStarted then some .ambiguousRequired
  else if e.evidenced = false then some .evidenceRequired
  else none

/-- The checks of an event other than the one on started side effects. -/
structure Fits (s : StateSnapshot) (e : TransitionEvent) (eventAlreadyApplied : Bool) : Prop where
  digest : e.hasValidEventSha256 = true
  fresh : eventAlreadyApplied = false
  context : e.sameContext s = true
  generation : e.generation = s.generation
  revision : e.expectedRevision = s.revision
  time : s.updatedAtMs ≤ e.occurredAtMs
  owner : e.sourceComponentId ∈ s.machine.allowedOwners
  running : s.isTerminal = false
  legal : e.toState ∈ s.machine.transitions s.state
  evidence : e.evidenced = true

/-- A chain of checks refuses nothing when the first passes and the rest refuses nothing. -/
lemma ite_some_eq_none {α : Type*} {refused : Prop} [Decidable refused] {r : α} {rest : Option α} :
    (if refused then some r else rest) = none ↔ ¬ refused ∧ rest = none := by
  by_cases h : refused <;> simp [h]

lemma refusal_eq_none_iff {s : StateSnapshot} {e : TransitionEvent} {already : Bool} :
    refusal s e already = none ↔ Fits s e already ∧ e.discardsStarted = false := by
  simp only [refusal, ite_some_eq_none, Bool.not_eq_false, Bool.not_eq_true, not_not, not_lt,
    and_true]
  constructor
  · rintro ⟨hdigest, hfresh, hcontext, hlow, hhigh, hrevision, htime, howner, hrunning, hlegal,
      hstarted, hevidence⟩
    exact ⟨⟨hdigest, hfresh, hcontext, le_antisymm hhigh hlow, hrevision, htime, howner, hrunning,
      hlegal, hevidence⟩, hstarted⟩
  · rintro ⟨hfits, hstarted⟩
    exact ⟨hfits.digest, hfits.fresh, hfits.context, hfits.generation.ge, hfits.generation.le,
      hfits.revision, hfits.time, hfits.owner, hfits.running, hfits.legal, hstarted,
      hfits.evidence⟩

lemma applied_admitted {s : StateSnapshot} {e : TransitionEvent} {already : Bool}
    (h : refusal s e already = none) :
    snapshotAdmitted s.machine e.toState s.createdAtMs e.occurredAtMs = true := by
  have hfits := (refusal_eq_none_iff.mp h).1
  have hmachine : e.machine = s.machine := by
    have := hfits.context
    simp only [TransitionEvent.sameContext, Bool.and_eq_true, decide_eq_true_eq] at this
    exact this.1.1.1
  have hcreated := s.admitted
  have htarget := e.to_state_of_machine
  rw [hmachine, List.contains_iff_mem] at htarget
  simp only [snapshotAdmitted, Bool.and_eq_true, decide_eq_true_eq] at hcreated ⊢
  exact ⟨htarget, le_trans hcreated.2 hfits.time⟩

lemma refused_iff (r : Refusal) : false = true ↔ r.disposition = .applied := by
  simp [r.disposition_ne_applied]

lemma applied_iff : true = true ↔ Disposition.applied = .applied := by simp

def refused (s : StateSnapshot) (r : Refusal) : TransitionDecision where
  accepted := false
  disposition := r.disposition
  reasonCode := r.reasonCode
  previous := s
  current := s
  accepted_iff := refused_iff r
  rejected_same _ := rfl

def StateSnapshot.after (s : StateSnapshot) (e : TransitionEvent)
    (h : snapshotAdmitted s.machine e.toState s.createdAtMs e.occurredAtMs = true) :
    StateSnapshot :=
  { s with
    revision := s.revision + 1
    state := e.toState
    updatedAtMs := e.occurredAtMs
    lastEventId := some e.eventId
    admitted := h }

def applied (s : StateSnapshot) (e : TransitionEvent)
    (h : snapshotAdmitted s.machine e.toState s.createdAtMs e.occurredAtMs = true) :
    TransitionDecision where
  accepted := true
  disposition := .applied
  reasonCode := "state.transition.applied"
  previous := s
  current := s.after e h
  accepted_iff := applied_iff
  rejected_same := by simp

def applyTransition (s : StateSnapshot) (e : TransitionEvent) (eventAlreadyApplied : Bool) :
    TransitionDecision :=
  match h : refusal s e eventAlreadyApplied with
  | some r => refused s r
  | none => applied s e (applied_admitted h)

section Apply

variable {s : StateSnapshot} {e : TransitionEvent} {already : Bool}

/-- An event is refused and leaves the snapshot alone, or it fits and moves it on. -/
lemma applyTransition_cases (s : StateSnapshot) (e : TransitionEvent) (already : Bool) :
    (∃ r, refusal s e already = some r ∧ applyTransition s e already = refused s r) ∨
      ∃ h, Fits s e already ∧ e.discardsStarted = false ∧
        applyTransition s e already = applied s e h := by
  unfold applyTransition
  split
  · next r hr => exact .inl ⟨r, hr, rfl⟩
  · next hnone =>
    obtain ⟨hfits, hstarted⟩ := refusal_eq_none_iff.mp hnone
    exact .inr ⟨applied_admitted hnone, hfits, hstarted, rfl⟩

theorem applyTransition_accepted_iff :
    (applyTransition s e already).accepted = true ↔ Fits s e already ∧ e.discardsStarted = false := by
  rcases applyTransition_cases s e already with ⟨r, hr, heq⟩ | ⟨h, hfits, hstarted, heq⟩
  · rw [heq, ← refusal_eq_none_iff, hr]
    simp [refused]
  · rw [heq]
    exact iff_of_true rfl ⟨hfits, hstarted⟩

theorem applyTransition_rejected (h : (applyTransition s e already).accepted = false) :
    (applyTransition s e already).current = s := by
  rcases applyTransition_cases s e already with ⟨r, -, heq⟩ | ⟨h', -, -, heq⟩
  · rw [heq]
    rfl
  · rw [heq] at h
    cases h

theorem applyTransition_applied (h : (applyTransition s e already).accepted = true) :
    ∃ h', (applyTransition s e already).current = s.after e h' := by
  rcases applyTransition_cases s e already with ⟨r, -, heq⟩ | ⟨h', -, -, heq⟩
  · rw [heq] at h
    cases h
  · exact ⟨h', by rw [heq]; rfl⟩

/-- Every event stays with the machine of its snapshot. -/
@[simp] theorem applyTransition_machine :
    (applyTransition s e already).current.machine = s.machine := by
  rcases applyTransition_cases s e already with ⟨r, -, heq⟩ | ⟨h', -, -, heq⟩ <;> rw [heq] <;> rfl

theorem applyTransition_state (h : (applyTransition s e already).accepted = true) :
    (applyTransition s e already).current.state = e.toState := by
  obtain ⟨h', heq⟩ := applyTransition_applied h
  rw [heq]
  rfl

end Apply

/-- The inputs of a run: an event, and whether it is already in the log. -/
structure Offer where
  event : TransitionEvent
  alreadyApplied : Bool

def transitionMachine : Machine StateSnapshot Offer TransitionDecision where
  step s i :=
    let decision := applyTransition s i.event i.alreadyApplied
    (decision.current, decision)

end Tiangong
