import Tiangong.DeliveryWorker

/-!
# The parts of a delivery worker

Which actions the parts of a dispatch ask for, whatever they are answered: the parts that only
read, the ones that finalize, and the ones that settle the intent they are about. Any discipline
that leaves these actions free lets the parts through.
-/
namespace Tiangong

open Discipline (Stays)

/-- A transaction is committed, or it raises and changes nothing. -/
theorem DeliveryStore.transact_eq {α : Type} {op : DeliveryStore → Except StoreError (α × DeliveryStore)}
    {s s' : DeliveryStore} {r : Except DeliveryError α} (h : (DeliveryStore.transact op).on s = (r, s')) :
    (∃ a, op s = .ok (a, s') ∧ r = .ok a) ∨ (∃ e, r = .error e ∧ s' = s) := by
  cases hop : op s with
  | error e =>
    rw [DeliveryStore.transact, Call.on_transaction_of_error (by rw [hop]; rfl)] at h
    cases h
    exact .inr ⟨_, rfl, rfl⟩
  | ok pair =>
    rw [DeliveryStore.transact, Call.on_transaction_of_ok (by rw [hop]; rfl)] at h
    cases h
    exact .inl ⟨_, rfl, rfl⟩

namespace DeliveryAction

variable {Raw : Type}

/-- The action reads the delivery tables, or is none of theirs; it sends nothing. -/
def reads : DeliveryAction Raw → Bool
  | .claimOutbox _ _ _ _ | .markOutboxDispatchStarted _ _ _ _ _ _
  | .markExpiredOutboxAmbiguous _ _ _ _ | .recordOutboxDispatchResult _ _ _ _ _ _
  | .markOutboxFinalized _ _ _ | .dispatchDelivery _ _ _ => false
  | _ => true

/-- The action settles the claim of an intent. -/
def settles (outboxId : String) : DeliveryAction Raw → Bool
  | .markExpiredOutboxAmbiguous settled _ _ _ => settled = outboxId
  | .recordOutboxDispatchResult settled _ _ _ _ _ => settled = outboxId
  | _ => false

/-- The action gives an intent up as ambiguous at a time. -/
def abandons (outboxId : String) (nowMs : ℕ) : DeliveryAction Raw → Bool
  | .markExpiredOutboxAmbiguous settled observedAtMs _ _ =>
    settled = outboxId && observedAtMs = nowMs
  | _ => false

def finalizes : DeliveryAction Raw → Bool
  | .markOutboxFinalized _ _ _ => true
  | _ => false

/-- The action crosses a dispatch boundary or sends. -/
def sends : DeliveryAction Raw → Bool
  | .markOutboxDispatchStarted _ _ _ _ _ _ | .dispatchDelivery _ _ _ => true
  | _ => false

end DeliveryAction

namespace GatewayDeliveryOutboxWorker

variable {Raw φ : Type}
  {d : Discipline (DeliveryAction Raw) DeliveryAction.Answer DeliveryError φ} {phase : φ}
  (hreads : ∀ a : DeliveryAction Raw, a.reads = true → d.Free phase a)

include hreads

omit hreads in
theorem stays_free {a : DeliveryAction Raw} (h : d.Free phase a) : d.Stays phase (perform a) :=
  Discipline.stays_perform h.1 h.2

theorem stays_reads {a : DeliveryAction Raw} (h : a.reads = true) : d.Stays phase (perform a) :=
  stays_free (hreads a h)

lemma reads_bind {α : Type} {a : DeliveryAction Raw} (h : a.reads = true) {f : a.Answer →
    Program (DeliveryAction Raw) DeliveryAction.Answer DeliveryError α}
    (hf : ∀ r, d.Stays phase (f r)) : d.Stays phase (perform a >>= f) := (stays_reads hreads h).bind hf

variable {worker : GatewayDeliveryOutboxWorker Raw}

theorem putResult_stays (payload : DeliveryOutboxPayload) (value : ResultRecord) (atMs : ℕ) :
    d.Stays phase (worker.putResult payload value atMs) :=
  stays_reads hreads rfl

theorem recordErrorResult_stays (record : OutboxRow)
    (hsettles : ∀ a : DeliveryAction Raw, a.settles record.outboxId = true → d.Free phase a)
    (payload : DeliveryOutboxPayload)
    (code : String) (ambiguous : Bool) (observedAtMs : ℕ) (orphaned : Bool) :
    d.Stays phase
      (worker.recordErrorResult record payload code ambiguous observedAtMs orphaned) := by
  refine Stays.bind (putResult_stays hreads _ _ _) fun reference => ?_
  cases orphaned
  · exact Stays.bind (stays_free (hsettles _ (decide_eq_true rfl))) fun _ =>
      Discipline.stays_done ()
  · exact Stays.bind (stays_free (hsettles _ (decide_eq_true rfl))) fun _ =>
      Discipline.stays_done ()

lemma abandonCancelledOutbox_stays (record : OutboxRow) (nowMs : ℕ)
    (habandons : ∀ a : DeliveryAction Raw, a.abandons record.outboxId nowMs = true → d.Free phase a)
    (reason : String) :
    d.Stays phase (worker.abandonCancelledOutbox record reason nowMs) := by
  refine reads_bind hreads rfl fun raw => ?_
  refine .parses fun found => ?_
  refine .parses fun scope => ?_
  refine reads_bind hreads rfl fun reference => ?_
  refine Stays.bind (stays_free (habandons _ ?_)) fun _ => Discipline.stays_done ()
  simp [DeliveryAction.abandons]

lemma send_stays (hsends : ∀ a : DeliveryAction Raw, a.sends = true → d.Free phase a)
    (claimed : OutboxRow)
    (hsettles : ∀ a : DeliveryAction Raw, a.settles claimed.outboxId = true → d.Free phase a)
    (payload : DeliveryOutboxPayload) (ticket : DeliveryTicket) (nowMs : ℕ) :
    d.Stays phase (worker.send claimed payload ticket nowMs) := by
  refine Stays.catching ?_ fun e => ?_
  · refine Stays.bind (stays_free (hsends _ rfl)) fun receipt => ?_
    refine Stays.bind (putResult_stays hreads _ _ _) fun reference => ?_
    exact Stays.bind (stays_free (hsettles _ (decide_eq_true rfl))) fun _ =>
      Discipline.stays_done ()
  · cases e with
    | communication code ambiguous =>
      refine reads_bind hreads rfl fun atMs => ?_
      exact recordErrorResult_stays hreads _ hsettles _ _ _ _ _
    | outbox code => exact Discipline.stays_fail _
    | store error => exact Discipline.stays_fail _
    | raised text => exact Discipline.stays_fail _
    | assertion => exact Discipline.stays_fail _

namespace Finalization

variable {f : Finalization}

lemma advanceDelivery_stays (toState : StateValue) (evidence : Canon) :
    d.Stays phase (f.advanceDelivery toState evidence) :=
  reads_bind hreads rfl fun _ => Discipline.stays_done ()

lemma reachAmbiguous_stays (state : StateValue) (evidence : Canon) :
    d.Stays phase (f.reachAmbiguous state evidence) := by
  unfold reachAmbiguous
  split
  · exact Discipline.stays_done ()
  · exact advanceDelivery_stays hreads _ _

lemma advanceTo_stays (ambiguous : Bool) (toState : StateValue) (evidence : Canon) :
    d.Stays phase (f.advanceTo ambiguous toState evidence) := by
  unfold advanceTo
  split
  · refine reads_bind hreads rfl fun found => ?_
    refine .parses fun state => ?_
    exact Stays.bind (reachAmbiguous_stays hreads _ _) fun _ => advanceDelivery_stays hreads _ _
  · exact advanceDelivery_stays hreads _ _

lemma finishOpen_stays (hfinal : ∀ a : DeliveryAction Raw, a.finalizes = true → d.Free phase a)
    (decision : CompletionDecision) (userGoal : String) :
    d.Stays phase (f.finishOpen decision userGoal) := by
  refine reads_bind hreads rfl fun _ => ?_
  refine reads_bind hreads rfl fun capsule => ?_
  exact Stays.bind (stays_free (hfinal _ rfl)) fun _ => Discipline.stays_done ()

lemma finishTerminal_stays
    (hfinal : ∀ a : DeliveryAction Raw, a.finalizes = true → d.Free phase a)
    (decision : CompletionDecision) (lifeId userGoal finalResult : String)
    (toState : StateValue) (factId evidence : Canon) (digest : String → Canon) :
    d.Stays phase (f.finishTerminal decision lifeId userGoal finalResult
      toState factId evidence digest) := by
  refine reads_bind hreads rfl fun _ => ?_
  refine reads_bind hreads rfl fun lastEventId => ?_
  refine reads_bind hreads rfl fun _ => ?_
  exact Stays.bind (stays_free (hfinal _ rfl)) fun _ => Discipline.stays_done ()

lemma concludeError_stays (hfinal : ∀ a : DeliveryAction Raw, a.finalizes = true → d.Free phase a)
    (result : ResultDocument) :
    d.Stays phase (f.concludeError result) := by
  refine Stays.bind (advanceTo_stays hreads _ _ _) fun _ => ?_
  refine reads_bind hreads rfl fun context => ?_
  refine .checks fun _ => ?_
  refine reads_bind hreads rfl fun decision => ?_
  split
  · exact finishOpen_stays hreads hfinal _ _
  · exact finishTerminal_stays hreads hfinal _ _ _ _ _ _ _ _

lemma concludeReceipt_stays
    (hfinal : ∀ a : DeliveryAction Raw, a.finalizes = true → d.Free phase a)
    (receipt : DeliveryReceipt) :
    d.Stays phase (f.concludeReceipt receipt) := by
  refine Stays.bind (advanceTo_stays hreads _ _ _) fun _ => ?_
  refine .checks fun _ => ?_
  refine reads_bind hreads rfl fun context => ?_
  refine reads_bind hreads rfl fun decision => ?_
  split
  · exact finishOpen_stays hreads hfinal _ _
  · exact finishTerminal_stays hreads hfinal _ _ _ _ _ _ _ _

end Finalization

variable [DecidableEq Raw]

theorem loadPayload_stays (record : OutboxRow) : d.Stays phase (worker.loadPayload record) := by
  refine .checks fun _ => ?_
  refine reads_bind hreads rfl fun reference => ?_
  refine .checks fun _ => ?_
  refine reads_bind hreads rfl fun raw => ?_
  refine .checks fun _ => ?_
  refine .parses fun payload => ?_
  refine .checks fun _ => ?_
  refine .checks fun _ => ?_
  refine reads_bind hreads rfl fun entry => ?_
  refine .checks fun _ => ?_
  refine reads_bind hreads rfl fun effect => ?_
  refine reads_bind hreads rfl fun generation => ?_
  exact .checks fun _ => Discipline.stays_done payload

theorem finalize_stays (hfinal : ∀ a : DeliveryAction Raw, a.finalizes = true → d.Free phase a)
    (boundary : OutboxDispatchBoundary) (nowMs : ℕ) :
    d.Stays phase (worker.finalize boundary nowMs) := by
  refine reads_bind hreads rfl fun found => ?_
  refine .parses fun record => ?_
  refine .parses fun recorded => ?_
  refine Stays.bind (loadPayload_stays hreads record) fun payload => ?_
  refine reads_bind hreads rfl fun raw => ?_
  refine .checks fun _ => ?_
  refine .parses fun result => ?_
  refine .checks fun _ => ?_
  split
  · exact Finalization.concludeError_stays hreads hfinal result
  · exact .parses fun receipt =>
      Finalization.concludeReceipt_stays hreads hfinal receipt

theorem finalizeRecorded_stays
    (hfinal : ∀ a : DeliveryAction Raw, a.finalizes = true → d.Free phase a)
    (outboxId : String) (nowMs : ℕ) :
    d.Stays phase (worker.finalizeRecorded outboxId nowMs) := by
  refine reads_bind hreads rfl fun found => ?_
  refine .parses fun completed => ?_
  exact Stays.bind (finalize_stays hreads hfinal _ _) fun _ => Discipline.stays_done true

theorem recoverOrphan_stays (hfinal : ∀ a : DeliveryAction Raw, a.finalizes = true → d.Free phase a)
    (candidate : OutboxRow)
    (hsettles : ∀ a : DeliveryAction Raw, a.settles candidate.outboxId = true → d.Free phase a)
    (boundary : OutboxDispatchBoundary)
    (nowMs : ℕ) :
    d.Stays phase (worker.recoverOrphan candidate boundary nowMs) := by
  refine Stays.bind (loadPayload_stays hreads candidate) fun payload => ?_
  refine Stays.bind (recordErrorResult_stays hreads _ hsettles _ _ _ _ _) fun _ => ?_
  refine reads_bind hreads rfl fun found => ?_
  refine .parses fun recovered => ?_
  exact Stays.bind (finalize_stays hreads hfinal _ _) fun _ => Discipline.stays_done true

theorem loadClaimed_stays (claimed : OutboxRow) (nowMs : ℕ)
    (habandons : ∀ a : DeliveryAction Raw, a.abandons claimed.outboxId nowMs = true →
      d.Free phase a) :
    d.Stays phase (worker.loadClaimed claimed nowMs) := by
  refine Stays.catching
    (Stays.bind (loadPayload_stays hreads claimed) fun payload =>
      Discipline.stays_done (some payload))
    fun e => ?_
  cases e with
  | outbox code =>
    refine reads_bind hreads rfl fun generation => ?_
    refine .checks fun _ => ?_
    exact Stays.bind (abandonCancelledOutbox_stays hreads _ _ habandons _) fun _ =>
      Discipline.stays_done none
  | communication code ambiguous => exact Discipline.stays_fail _
  | store error => exact Discipline.stays_fail _
  | raised text => exact Discipline.stays_fail _
  | assertion => exact Discipline.stays_fail _

theorem dispatchClaimed_stays
    (hfinal : ∀ a : DeliveryAction Raw, a.finalizes = true → d.Free phase a)
    (hsends : ∀ a : DeliveryAction Raw, a.sends = true → d.Free phase a) (claimed : OutboxRow)
    (hsettles : ∀ a : DeliveryAction Raw, a.settles claimed.outboxId = true → d.Free phase a)
    (payload : DeliveryOutboxPayload) (nowMs : ℕ) :
    d.Stays phase (worker.dispatchClaimed claimed payload nowMs) := by
  refine reads_bind hreads rfl fun ticket => ?_
  refine reads_bind hreads rfl fun reference => ?_
  refine reads_bind hreads rfl fun _ => ?_
  refine reads_bind hreads rfl fun _ => ?_
  refine reads_bind hreads rfl fun _ => ?_
  refine Stays.bind (stays_free (hsends _ rfl)) fun _ => ?_
  refine Stays.bind (send_stays hreads hsends claimed hsettles payload ticket nowMs) fun _ => ?_
  exact finalizeRecorded_stays hreads hfinal _ _

end GatewayDeliveryOutboxWorker

end Tiangong
