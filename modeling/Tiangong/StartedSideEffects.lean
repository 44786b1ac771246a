import Mathlib.Data.List.Induction
import Tiangong.Transitions

/-!
# Started side effects

A side effect that has started may not be written off as cancelled, fenced or retryable. The check
for this reads the flag of the event at hand, while the snapshot does not remember that an earlier
event carried it. So the rule holds in exactly the runs whose later events repeat the flag.
-/
namespace Tiangong

open StateValue

/-- Some applied event of the run said that its side effect has started. -/
def StartedIn (s : StateSnapshot) (offers : List Offer) : Prop :=
  ∃ entry ∈ transitionMachine.trace s offers,
    entry.2.2.accepted = true ∧ entry.2.1.event.sideEffectStarted = true

instance (s : StateSnapshot) (offers : List Offer) : Decidable (StartedIn s offers) :=
  inferInstanceAs (Decidable (∃ entry ∈ transitionMachine.trace s offers, _))

/-- After a started side effect no applied event discards it or issues a second ticket, ambiguity
leads to reconciliation, and the run ends in success or final failure. -/
structure SideEffectKept (s : StateSnapshot) (offers : List Offer) : Prop where
  steps : ∀ pre i post, offers = pre ++ i :: post → StartedIn s pre →
    (transitionMachine.step (transitionMachine.exec s pre) i).2.accepted = true →
    i.event.toState.discards = false ∧
      (i.event.toState = .ticketIssued → (transitionMachine.exec s pre).state = .planned) ∧
      ((transitionMachine.exec s pre).state = .ambiguous → i.event.toState = .reconcileRequired)
  ends : ∀ pre post, offers = pre ++ post → StartedIn s pre →
    (transitionMachine.exec s pre).isTerminal = true →
    (transitionMachine.exec s pre).state ∈
      [succeeded, delivered, failedFinal]

/-- After a started side effect, every fitting event that would discard it carries the flag. -/
def FlagRepeated (s : StateSnapshot) (offers : List Offer) : Prop :=
  ∀ pre i post, offers = pre ++ i :: post → StartedIn s pre →
    Fits (transitionMachine.exec s pre) i.event i.alreadyApplied →
    i.event.toState.discards = true → i.event.sideEffectStarted = true

variable {m : MachineName} {state : StateValue}

lemma before_ticketIssued
    (h : .ticketIssued ∈ m.transitions state) : state = .planned ∨ state = .failedRetryable := by
  cases m <;> cases state <;> simp_all [MachineName.transitions]

lemma after_ambiguous (h : state ∈ m.transitions .ambiguous) : state = .reconcileRequired := by
  cases m <;> simp_all [MachineName.transitions]

lemma terminal_of_kept (hm : m.hasSideEffects = true)
    (hterminal : state ∈ m.terminalStates) (hkept : state.discards = false) :
    state ∈ [succeeded, delivered, failedFinal] := by
  cases m with
  | request => cases hm
  | artifact => cases hm
  | execution => cases state <;> simp_all [MachineName.terminalStates, discards]
  | delivery => cases state <;> simp_all [MachineName.terminalStates, discards]

variable {s : StateSnapshot} {offers pre : List Offer} {i : Offer}

@[simp] theorem exec_machine (s : StateSnapshot) (offers : List Offer) :
    (transitionMachine.exec s offers).machine = s.machine :=
  Machine.exec_preserves (fun s' : StateSnapshot => s'.machine = s.machine)
    (fun _ _ h => applyTransition_machine.trans h) rfl offers

lemma startedIn_concat : StartedIn s (pre ++ [i]) ↔ StartedIn s pre ∨
    ((transitionMachine.step (transitionMachine.exec s pre) i).2.accepted = true ∧
      i.event.sideEffectStarted = true) := by
  unfold StartedIn
  rw [Machine.trace_append]
  simp only [List.mem_append, or_and_right, exists_or, Machine.trace, List.mem_singleton,
    exists_eq_left]

lemma discardsStarted_iff (e : TransitionEvent) : e.discardsStarted = true ↔
    e.machine.hasSideEffects = true ∧ e.sideEffectStarted = true ∧ e.toState.discards = true := by
  simp only [TransitionEvent.discardsStarted, Bool.and_eq_true, and_assoc]

lemma Fits.machine_eq {e : TransitionEvent} {already : Bool} (h : Fits s e already) :
    e.machine = s.machine := by
  have hcontext := h.context
  simp only [TransitionEvent.sameContext, Bool.and_eq_true, decide_eq_true_eq] at hcontext
  exact hcontext.1.1.1

lemma discards_of_flagged {already : Bool} {e : TransitionEvent}
    (hs : s.machine.hasSideEffects = true)
    (h : (applyTransition s e already).accepted = true) (hflag : e.sideEffectStarted = true) :
    e.toState.discards = false := by
  obtain ⟨hfits, hstarted⟩ := applyTransition_accepted_iff.mp h
  by_contra hdiscards
  rw [Bool.not_eq_false] at hdiscards
  have hmachine : e.machine.hasSideEffects = true := by rw [hfits.machine_eq, hs]
  rw [(discardsStarted_iff e).mpr ⟨hmachine, hflag, hdiscards⟩] at hstarted
  cases hstarted

lemma discards_of_repeated (hs : s.machine.hasSideEffects = true) (h : FlagRepeated s offers)
    {post : List Offer} (hsplit : offers = pre ++ i :: post) (hstarted : StartedIn s pre)
    (haccepted : (transitionMachine.step (transitionMachine.exec s pre) i).2.accepted = true) :
    i.event.toState.discards = false := by
  by_contra hdiscards
  rw [Bool.not_eq_false] at hdiscards
  have hfits := (applyTransition_accepted_iff.mp haccepted).1
  have hflag := h pre i post hsplit hstarted hfits hdiscards
  have hmachine : (transitionMachine.exec s pre).machine.hasSideEffects = true := by
    rw [exec_machine, hs]
  rw [discards_of_flagged hmachine haccepted hflag] at hdiscards
  cases hdiscards

lemma state_kept (hs : s.machine.hasSideEffects = true) (h : FlagRepeated s offers)
    (pre : List Offer) : ∀ post, offers = pre ++ post → StartedIn s pre →
      (transitionMachine.exec s pre).state.discards = false := by
  induction pre using List.reverseRecOn with
  | nil =>
    rintro post - ⟨entry, hentry, -⟩
    cases hentry
  | append_singleton pre i ih =>
    intro post hsplit hstarted
    rw [List.append_assoc, List.singleton_append] at hsplit
    rw [startedIn_concat] at hstarted
    rw [Machine.exec_concat]
    cases haccepted : (transitionMachine.step (transitionMachine.exec s pre) i).2.accepted with
    | true =>
      have hstate : (transitionMachine.step (transitionMachine.exec s pre) i).1.state =
          i.event.toState := applyTransition_state haccepted
      rw [hstate]
      rcases hstarted with hstarted | ⟨-, hflag⟩
      · exact discards_of_repeated hs h hsplit hstarted haccepted
      · have hmachine : (transitionMachine.exec s pre).machine.hasSideEffects = true := by
          rw [exec_machine, hs]
        exact discards_of_flagged hmachine haccepted hflag
    | false =>
      have hsame : (transitionMachine.step (transitionMachine.exec s pre) i).1 =
          transitionMachine.exec s pre := applyTransition_rejected haccepted
      rw [hsame]
      rcases hstarted with hstarted | ⟨htrue, -⟩
      · exact ih _ hsplit hstarted
      · rw [haccepted] at htrue
        cases htrue

lemma sideEffectKept_of_repeated (hs : s.machine.hasSideEffects = true)
    (h : FlagRepeated s offers) : SideEffectKept s offers := by
  constructor
  · intro pre i post hsplit hstarted haccepted
    have hlegal := (applyTransition_accepted_iff.mp haccepted).1.legal
    refine ⟨discards_of_repeated hs h hsplit hstarted haccepted, ?_, ?_⟩
    · intro hticket
      rw [hticket] at hlegal
      rcases before_ticketIssued hlegal with hplanned | hretryable
      · exact hplanned
      · have hkept := state_kept hs h pre _ hsplit hstarted
        rw [hretryable] at hkept
        cases hkept
    · intro hambiguous
      rw [hambiguous] at hlegal
      exact after_ambiguous hlegal
  · intro pre post hsplit hstarted hterminal
    have hmachine : (transitionMachine.exec s pre).machine.hasSideEffects = true := by
      rw [exec_machine, hs]
    rw [StateSnapshot.isTerminal, decide_eq_true_eq] at hterminal
    exact terminal_of_kept hmachine hterminal (state_kept hs h pre post hsplit hstarted)

lemma repeated_of_sideEffectKept (h : SideEffectKept s offers) : FlagRepeated s offers := by
  intro pre i post hsplit hstarted hfits hdiscards
  by_contra hflag
  have hnot : i.event.discardsStarted = false := by
    rw [← Bool.not_eq_true, discardsStarted_iff]
    exact fun hall => hflag hall.2.1
  have haccepted := applyTransition_accepted_iff.mpr ⟨hfits, hnot⟩
  have hkept := (h.steps pre i post hsplit hstarted haccepted).1
  rw [hdiscards] at hkept
  cases hkept

lemma newStateSnapshot_machine (machine : MachineName) (entityId requestId runId : String)
    (generation createdAtMs : ℕ) (artifactRequired : Bool) :
    (newStateSnapshot machine entityId requestId runId generation createdAtMs
      artifactRequired).machine = machine := by
  unfold newStateSnapshot
  split
  · next h => exact h.1.symm
  · rfl

/-- A run of an execution or a delivery from its first snapshot keeps every started side effect
exactly when it repeats the flag. -/
theorem sideEffectKept_iff (machine : MachineName) (entityId requestId runId : String)
    (generation createdAtMs : ℕ) (artifactRequired : Bool) (offers : List Offer)
    (hmachine : machine.hasSideEffects = true) :
    SideEffectKept (newStateSnapshot machine entityId requestId runId generation createdAtMs
        artifactRequired) offers ↔
      FlagRepeated (newStateSnapshot machine entityId requestId runId generation createdAtMs
        artifactRequired) offers := by
  refine ⟨repeated_of_sideEffectKept, fun h => sideEffectKept_of_repeated ?_ h⟩
  rw [newStateSnapshot_machine, hmachine]

def sampleOffer (revision : ℕ) (toState : StateValue) (sideEffectStarted : Bool)
    (h : (MachineName.execution.states.contains toState) = true) : Offer where
  event := TransitionEvent.withComputedEventSha256
    { schemaVersion := .current
      eventId := "event"
      eventType := "execution.sample"
      sourceComponentId := "tiangong-total-gateway"
      machine := .execution
      entityId := "effect"
      requestId := "request"
      runId := "run"
      generation := 0
      expectedRevision := revision
      toState := toState
      occurredAtMs := 1 + revision
      factId := none
      evidenceSha256 := some .null
      sideEffectStarted := sideEffectStarted
      eventSha256 := .null
      to_state_of_machine := h }
  alreadyApplied := false

/-- A running execution, whose start was flagged, is cancelled by an event without the flag. -/
def cancelledRun : List Offer :=
  [sampleOffer 0 .planned false rfl, sampleOffer 1 .ticketIssued false rfl,
    sampleOffer 2 .claimed false rfl, sampleOffer 3 .running true rfl,
    sampleOffer 4 .cancelled false rfl]

theorem cancelledRun_discards : ¬ SideEffectKept
    (newStateSnapshot .execution "effect" "request" "run" 0 1 true) cancelledRun := by
  intro h
  have hkept := h.steps (cancelledRun.take 4) (sampleOffer 4 .cancelled false rfl) [] rfl
    (by decide +kernel) (by decide +kernel)
  cases hkept.1

lemma flagRepeated_of_forall
    (h : ∀ i ∈ offers, i.event.toState.discards = true → i.event.sideEffectStarted = true) :
    FlagRepeated s offers := by
  intro pre i post hsplit _ _ hdiscards
  exact h i (by rw [hsplit]; simp) hdiscards

/-- The same run with the flag repeated: the cancellation is refused. -/
theorem sideEffectKept_sample : SideEffectKept
    (newStateSnapshot .execution "effect" "request" "run" 0 1 true)
    (cancelledRun.take 4 ++ [sampleOffer 4 .cancelled true rfl]) := by
  refine (sideEffectKept_iff .execution "effect" "request" "run" 0 1 true _ rfl).mpr ?_
  exact flagRepeated_of_forall (by decide)

end Tiangong
