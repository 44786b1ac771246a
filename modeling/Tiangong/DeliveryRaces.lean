import Mathlib.Data.List.Induction
import Tiangong.DeliveryPrograms
import Tiangong.OutboxLeases

/-!
# Delivery workers side by side

Any number of workers dispatch over one store, and each may be lost between two actions. A worker
sends in the phase that its own crossing of the dispatch boundary leads to, and the outbox is a
table of leases with a single crossing: so each intent is sent at most once.
-/
open Function

namespace Tiangong

open Discipline (Keeps Stays)

/-- A claim is taken first, the boundary crossed under the time of the claim, and what was crossed
is sent. Everything else may happen at any time. -/
def deliveryDiscipline (Raw : Type) :
    Discipline (DeliveryAction Raw) DeliveryAction.Answer DeliveryError (Holder String) where
  allows phase
    | .claimOutbox _ _ _ _ => phase = .idle
    | .markOutboxDispatchStarted outboxId _ _ _ _ startedAtMs =>
      phase = .holding outboxId startedAtMs
    | .dispatchDelivery outboxId _ _ => phase = .crossed outboxId
    | _ => True
  after phase
    | .claimOutbox _ _ nowMs _, .ok row => .holding row.outboxId nowMs
    | .markOutboxDispatchStarted outboxId _ _ _ _ _, .ok _ => .crossed outboxId
    | .dispatchDelivery _ _ _, _ => .spent
    | _, _ => phase

lemma free_reads {Raw : Type} (phase : Holder String) (a : DeliveryAction Raw)
    (h : a.reads = true) : (deliveryDiscipline Raw).Free phase a := by
  cases a <;> first
    | exact ⟨trivial, fun _ => rfl⟩
    | cases h

lemma free_finalizes {Raw : Type} (phase : Holder String) (a : DeliveryAction Raw)
    (h : a.finalizes = true) : (deliveryDiscipline Raw).Free phase a := by
  cases a <;> first
    | exact ⟨trivial, fun _ => rfl⟩
    | cases h

lemma free_settles {Raw : Type} (phase : Holder String) (outboxId : String)
    (a : DeliveryAction Raw) (h : a.settles outboxId = true) :
    (deliveryDiscipline Raw).Free phase a := by
  cases a <;> first
    | exact ⟨trivial, fun _ => rfl⟩
    | cases h

lemma free_abandons {Raw : Type} (phase : Holder String) (outboxId : String) (nowMs : ℕ)
    (a : DeliveryAction Raw) (h : a.abandons outboxId nowMs = true) :
    (deliveryDiscipline Raw).Free phase a := by
  cases a <;> first
    | exact ⟨trivial, fun _ => rfl⟩
    | cases h

namespace GatewayDeliveryOutboxWorker

variable {Raw : Type} {worker : GatewayDeliveryOutboxWorker Raw}

/-- After the crossing the intent is sent, once. -/
lemma send_keeps (claimed : OutboxRow) (payload : DeliveryOutboxPayload)
    (ticket : DeliveryTicket) (nowMs : ℕ) :
    (deliveryDiscipline Raw).Keeps (fun _ q => q = .spent) (fun _ _ => True)
      (worker.send claimed payload ticket nowMs) (.crossed claimed.outboxId) := by
  refine @Keeps.catching _ _ _ _ _ _ _ (fun _ q => q = .spent) _ _ _ _ ?_ ?_
  · refine Keeps.bind (Discipline.keeps_perform (Q := fun _ q => q = .spent) rfl (fun _ => rfl)
      fun _ => rfl) ?_
    rintro receipt q rfl
    refine Stays.keeps
      (Stays.bind (putResult_stays (free_reads _) _ _ _) fun reference => ?_) (fun _ => rfl)
      fun _ => rfl
    exact Stays.bind (stays_free (free_settles _ _ _ (decide_eq_true rfl))) fun _ =>
      Discipline.stays_done ()
  · rintro e q rfl
    cases e with
    | communication code ambiguous =>
      refine Stays.keeps (Stays.bind (stays_reads (free_reads _) rfl) fun atMs => ?_)
        (fun _ => rfl) fun _ => trivial
      exact recordErrorResult_stays (free_reads _) _ (free_settles _ _) _ _ _ _ _
    | outbox code => trivial
    | store error => trivial
    | raised text => trivial
    | assertion => trivial

variable [DecidableEq Raw]

lemma dispatchClaimed_keeps (claimed : OutboxRow) (payload : DeliveryOutboxPayload) (nowMs : ℕ) :
    (deliveryDiscipline Raw).Keeps (fun _ _ => True) (fun _ _ => True)
      (worker.dispatchClaimed claimed payload nowMs) (.holding claimed.outboxId nowMs) := by
  refine Stays.then (stays_reads (free_reads _) rfl) (fun _ => trivial) fun ticket => ?_
  refine Stays.then (stays_reads (free_reads _) rfl) (fun _ => trivial) fun reference => ?_
  refine Stays.then (stays_reads (free_reads _) rfl) (fun _ => trivial) fun _ => ?_
  refine Stays.then (stays_reads (free_reads _) rfl) (fun _ => trivial) fun _ => ?_
  refine Stays.then (stays_reads (free_reads _) rfl) (fun _ => trivial) fun _ => ?_
  refine Keeps.bind (Discipline.keeps_perform (Q := fun _ q => q = .crossed claimed.outboxId) rfl
    (fun _ => rfl) fun _ => trivial) ?_
  rintro crossing q rfl
  refine Keeps.bind (send_keeps claimed payload ticket nowMs) ?_
  rintro _ q rfl
  exact Stays.keeps (finalizeRecorded_stays (free_reads _) (free_finalizes _) _ _)
    (fun _ => trivial) fun _ => trivial

lemma claimAndDispatch_keeps (candidate : OutboxRow) (nowMs : ℕ) :
    (deliveryDiscipline Raw).Keeps (fun _ _ => True) (fun _ _ => True)
      (worker.claimAndDispatch candidate nowMs) .idle := by
  refine Keeps.bind (Discipline.keeps_perform
    (Q := fun (row : OutboxRow) q => q = .holding row.outboxId nowMs) rfl (fun _ => rfl)
    fun _ => trivial) ?_
  rintro claimed q rfl
  refine Stays.then (loadClaimed_stays (free_reads _) claimed nowMs (free_abandons _ _ _))
    (fun _ => trivial) fun loaded => ?_
  cases loaded with
  | none => exact Discipline.keeps_done trivial
  | some payload => exact dispatchClaimed_keeps claimed payload nowMs

lemma dispatchNext_keeps (nowMs : ℕ) :
    (deliveryDiscipline Raw).Keeps (fun _ _ => True) (fun _ _ => True)
      (worker.dispatchNext nowMs) .idle := by
  refine Stays.then (stays_reads (free_reads _) rfl) (fun _ => trivial) fun pending => ?_
  cases pending with
  | cons boundary rest =>
    exact Stays.keeps
      (Stays.bind (finalize_stays (free_reads _) (free_finalizes _) boundary nowMs) fun _ =>
        Discipline.stays_done true) (fun _ => trivial) fun _ => trivial
  | nil =>
    refine Stays.then (stays_reads (free_reads _) rfl) (fun _ => trivial) fun candidates => ?_
    cases candidates with
    | nil => exact Discipline.keeps_done trivial
    | cons candidate rest =>
      refine Stays.then (stays_reads (free_reads _) rfl) (fun _ => trivial) fun boundary => ?_
      split
      · exact Stays.keeps
          (recoverOrphan_stays (free_reads _) (free_finalizes _) _ (free_settles _ _) _ _)
          (fun _ => trivial) fun _ => trivial
      · exact claimAndDispatch_keeps candidate nowMs

end GatewayDeliveryOutboxWorker

/-- What happens to the store besides the dispatches: intents appear, other workers claim and
acknowledge theirs, and the other tables change. -/
inductive StoreChange where
  | insertIntent (intent : OutboxIntent)
  | claimOutbox (outboxId workerId : String) (nowMs leaseMs : ℕ)
  | recordOutboxResult (outboxId workerId : String) (outcome : OutboxOutcome)
      (resultSha256 : Canon) (dispatchedAtMs : ℕ)
  | others (requests : Table RequestEntry.requestId) (effects : Table EffectRow.effectId)
      (generations : Table GenerationLease.requestId)

def DeliveryStore.change (s : DeliveryStore) : StoreChange → DeliveryStore
  | .insertIntent intent => (committed s id (s.insertIntent intent)).1
  | .claimOutbox outboxId workerId nowMs leaseMs =>
    (committed s id (s.claimOutbox outboxId workerId nowMs leaseMs)).1
  | .recordOutboxResult outboxId workerId outcome resultSha256 dispatchedAtMs =>
    (committed s id
      (s.recordOutboxResult outboxId workerId outcome resultSha256 dispatchedAtMs)).1
  | .others requests effects generations => { s with requests, effects, generations }

/-- A worker starts with its configuration and its clock. -/
def deliveryRules (Raw : Type) [DecidableEq Raw] :
    Pool.Rules (DeliveryAction Raw) DeliveryAction.Answer DeliveryError Bool (Holder String)
      DeliveryStore (GatewayDeliveryOutboxWorker Raw × ℕ) StoreChange where
  discipline := deliveryDiscipline Raw
  first := .idle
  program input := input.1.dispatchNext input.2
  answer := DeliveryStore.answer
  change := fun change s => s.change change

abbrev DeliveryPool (Raw : Type) :=
  Pool (DeliveryAction Raw) DeliveryAction.Answer DeliveryError Bool (Holder String) DeliveryStore

abbrev DeliveryEvent (Raw : Type) :=
  PoolEvent (DeliveryAction Raw) DeliveryAction.Answer DeliveryError
    (GatewayDeliveryOutboxWorker Raw × ℕ) StoreChange

abbrev DeliveryReport (Raw : Type) :=
  Option (ℕ × (a : DeliveryAction Raw) × Except DeliveryError a.Answer)

namespace DeliveryStore

variable {s s' : DeliveryStore} {f : ℕ → Option (Holder String)}

/-- A transaction that only settles leaves the leases sound, and every crossing as it was. -/
lemma transact_settles {α : Type} {op : DeliveryStore → Except StoreError (α × DeliveryStore)}
    (hop : ∀ {s s' : DeliveryStore} {a : α}, op s = .ok (a, s') → s.leases.Settles s'.leases) :
    s.leases.Settles ((transact op).on s).2.leases := by
  rcases hr : (transact op).on s with ⟨r, s'⟩
  rcases transact_eq hr with ⟨a, hok, -⟩ | ⟨e, -, rfl⟩
  · exact hop hok
  · exact .refl _

lemma change_sound (h : s.leases.Sound f) (change : StoreChange) :
    (s.change change).leases.Sound f ∧ (s.change change).leases.crossedAt = s.leases.crossedAt := by
  cases change with
  | insertIntent intent =>
    refine committed_fst (P := fun s' : DeliveryStore =>
      s'.leases.Sound f ∧ s'.leases.crossedAt = s.leases.crossedAt) ⟨h, rfl⟩ fun row s' hok => ?_
    have hsettles := insertIntent_leases hok
    exact ⟨h.settles hsettles, hsettles.crossedAt⟩
  | claimOutbox outboxId workerId nowMs leaseMs =>
    refine committed_fst (P := fun s' : DeliveryStore =>
      s'.leases.Sound f ∧ s'.leases.crossedAt = s.leases.crossedAt) ⟨h, rfl⟩ fun row s' hok => ?_
    rcases claimOutbox_leases hok with ⟨rfl, -⟩ | ⟨hclaim, hlease, hleases⟩
    · exact ⟨h, rfl⟩
    · rw [hleases]
      exact ⟨h.claim hclaim hlease, rfl⟩
  | recordOutboxResult outboxId workerId outcome resultSha256 dispatchedAtMs =>
    refine committed_fst (P := fun s' : DeliveryStore =>
      s'.leases.Sound f ∧ s'.leases.crossedAt = s.leases.crossedAt) ⟨h, rfl⟩ fun row s' hok => ?_
    have hsettles := (recordOutboxResult_settles hok).leases
    exact ⟨h.settles hsettles, hsettles.crossedAt⟩
  | others requests effects generations => exact ⟨h, rfl⟩

end DeliveryStore

namespace DeliveryReport

variable {Raw : Type}

/-- The intent was sent. -/
def sends (outboxId : String) : DeliveryReport Raw → Bool
  | some (_, ⟨.dispatchDelivery sent _ _, _⟩) => sent = outboxId
  | _ => false

/-- The dispatch boundary of the intent was crossed. -/
def crosses (outboxId : String) : DeliveryReport Raw → Bool
  | some (_, ⟨.markOutboxDispatchStarted crossed _ _ _ _ _, .ok _⟩) => crossed = outboxId
  | _ => false

def flight (report : DeliveryReport Raw) : Option ℕ := report.map Prod.fst

end DeliveryReport

/-- A step crosses a boundary, or sends what its flight crossed, or does neither. -/
inductive DeliveryMove {Raw : Type} (s : DeliveryStore) (f : ℕ → Option (Holder String)) :
    DeliveryReport Raw → DeliveryStore → (ℕ → Option (Holder String)) → Prop
  | quiet {report : DeliveryReport Raw} {s' : DeliveryStore} {f' : ℕ → Option (Holder String)}
    (hcrosses : ∀ o, DeliveryReport.crosses o report = false)
    (hsends : ∀ o, DeliveryReport.sends o report = false)
    (hsound : s'.leases.Sound f') (hcrossedAt : s'.leases.crossedAt = s.leases.crossedAt)
    (hcrossed : ∀ n o, f' n = some (.crossed o) → f n = some (.crossed o)) :
    DeliveryMove s f report s' f'
  | cross {report : DeliveryReport Raw} {s' : DeliveryStore} (i : ℕ) (o : String) (since : ℕ)
    (hcrosses : ∀ o', DeliveryReport.crosses o' report = decide (o = o'))
    (hsends : ∀ o, DeliveryReport.sends o report = false)
    (hflight : report.flight = some i) (hfree : s.leases.crossedAt o = none)
    (hleases : s'.leases = s.leases.cross o since)
    (hsound : s'.leases.Sound (update f i (some (.crossed o)))) :
    DeliveryMove s f report s' (update f i (some (.crossed o)))
  | send {report : DeliveryReport Raw} (i : ℕ) (o : String)
    (hcrosses : ∀ o, DeliveryReport.crosses o report = false)
    (hsends : ∀ o', DeliveryReport.sends o' report = decide (o = o'))
    (hflight : report.flight = some i) (hf : f i = some (.crossed o))
    (hsound : s.leases.Sound (update f i (some .spent))) :
    DeliveryMove s f report s (update f i (some .spent))

namespace DeliveryMove

variable {Raw : Type} {s s' : DeliveryStore} {f f' : ℕ → Option (Holder String)}
  {report : DeliveryReport Raw} {i : ℕ} {phase : Holder String}

theorem sound (h : DeliveryMove s f report s' f') : s'.leases.Sound f' := by
  cases h <;> assumption

/-- An action that leaves the phase and only settles claims. -/
lemma of_settles {a : DeliveryAction Raw} {r : Except DeliveryError a.Answer}
    (hs : s.leases.Sound f) (hf : f i = some phase) (hsettles : s.leases.Settles s'.leases)
    (hcrosses : ∀ o, DeliveryReport.crosses o (some (i, ⟨a, r⟩)) = false)
    (hsends : ∀ o, DeliveryReport.sends o (some (i, ⟨a, r⟩)) = false) :
    DeliveryMove s f (some (i, ⟨a, r⟩)) s' (update f i (some phase)) := by
  have hsame : update f i (some phase) = f := by rw [← hf, update_eq_self]
  rw [hsame]
  exact .quiet hcrosses hsends (hs.settles hsettles) hsettles.crossedAt fun _ _ h => h

/-- A flight that forgets what it holds, or holds an item; it is in no crossed phase. -/
lemma crossed_of_update {holder : Option (Holder String)}
    (hholder : ∀ o, holder ≠ some (.crossed o)) (n : ℕ) (o : String)
    (h : update f i holder n = some (.crossed o)) : f n = some (.crossed o) := by
  rw [update_apply] at h
  split at h
  · exact absurd h (hholder o)
  · exact h

variable {o : String}

lemma of_claim {worker : String} {nowMs leaseMs : ℕ}
    {outside : (a : DeliveryAction Raw) → Except DeliveryError a.Answer}
    (hs : s.leases.Sound f) (hf : f i = some .idle) :
    let reply := (DeliveryStore.answer outside (.claimOutbox o worker nowMs leaseMs)).on s
    DeliveryMove s f (some (i, ⟨.claimOutbox o worker nowMs leaseMs, reply.1⟩)) reply.2
      (update f i (some ((deliveryDiscipline Raw).after .idle
        (.claimOutbox o worker nowMs leaseMs) reply.1))) := by
  intro reply
  rcases hreply : reply with ⟨r, s'⟩
  rcases DeliveryStore.transact_eq (show _ = (r, s') from hreply) with
    ⟨row, hok, rfl⟩ | ⟨e, rfl, rfl⟩
  · refine .quiet (fun _ => rfl) (fun _ => rfl) ?_ ?_
      (crossed_of_update fun o' h => by cases h)
    · simp only [deliveryDiscipline, DeliveryStore.claimOutbox_id hok]
      rcases DeliveryStore.claimOutbox_leases hok with ⟨rfl, hclosed⟩ | ⟨hclaim, hlease, hleases⟩
      · exact hs.hold (.inr hclosed) (fun _ _ => hclosed) fun _ => hclosed
      · rw [hleases]
        exact hs.take hclaim hlease
    · rcases DeliveryStore.claimOutbox_leases hok with ⟨rfl, -⟩ | ⟨-, -, hleases⟩
      · rfl
      · rw [hleases]
        rfl
  · exact of_settles hs hf (.refl _) (fun _ => rfl) fun _ => rfl

lemma of_mark {worker ticketObject : String} {epoch startedAtMs : ℕ} {ticket : Canon}
    {outside : (a : DeliveryAction Raw) → Except DeliveryError a.Answer}
    (hs : s.leases.Sound f) (hf : f i = some (.holding o startedAtMs)) :
    let a : DeliveryAction Raw :=
      .markOutboxDispatchStarted o worker epoch ticketObject ticket startedAtMs
    let reply := (DeliveryStore.answer outside a).on s
    DeliveryMove s f (some (i, ⟨a, reply.1⟩)) reply.2
      (update f i (some ((deliveryDiscipline Raw).after (.holding o startedAtMs) a
        reply.1))) := by
  intro a reply
  rcases hreply : reply with ⟨r, s'⟩
  rcases DeliveryStore.transact_eq (show _ = (r, s') from hreply) with
    ⟨boundary, hok, rfl⟩ | ⟨e, rfl, rfl⟩
  · obtain ⟨⟨expires, hheld⟩, hcrossing⟩ := DeliveryStore.markOutboxDispatchStarted_leases hok
    have hfree := hs.crossedAt_ne hf hheld
    obtain ⟨hnone, hleases⟩ := hcrossing.resolve_left hfree
    refine .cross i o startedAtMs (fun _ => rfl) (fun _ => rfl) rfl hnone hleases ?_
    rw [hleases]
    exact hs.cross hf hheld hnone
  · exact of_settles hs hf (.refl _) (fun _ => rfl) fun _ => rfl

lemma of_send {ticket : DeliveryTicket} {plan : OutboundPlan}
    {r : Except DeliveryError DeliveryReceipt} (hs : s.leases.Sound f)
    (hf : f i = some (.crossed o)) :
    DeliveryMove s f (some (i, ⟨(.dispatchDelivery o ticket plan : DeliveryAction Raw), r⟩)) s
      (update f i (some .spent)) :=
  .send i o (fun _ => rfl) (fun _ => rfl) rfl hf (hs.forget (.inr (.inr rfl)))

lemma of_act {a : DeliveryAction Raw}
    {outside : (a : DeliveryAction Raw) → Except DeliveryError a.Answer}
    (hs : s.leases.Sound f) (hf : f i = some phase)
    (hallows : (deliveryDiscipline Raw).allows phase a) :
    let reply := (DeliveryStore.answer outside a).on s
    DeliveryMove s f (some (i, ⟨a, reply.1⟩)) reply.2
      (update f i (some ((deliveryDiscipline Raw).after phase a reply.1))) := by
  cases a with
  | claimOutbox o worker nowMs leaseMs =>
    obtain rfl : phase = .idle := hallows
    exact of_claim hs hf
  | markOutboxDispatchStarted o worker epoch ticketObject ticket startedAtMs =>
    obtain rfl : phase = .holding o startedAtMs := hallows
    exact of_mark hs hf
  | dispatchDelivery o ticket plan =>
    obtain rfl : phase = .crossed o := hallows
    exact of_send hs hf
  | markExpiredOutboxAmbiguous o atMs object sha256 =>
    exact of_settles hs hf
      (DeliveryStore.transact_settles fun hok =>
        (DeliveryStore.markExpiredOutboxAmbiguous_settles hok).leases)
      (fun _ => rfl) fun _ => rfl
  | recordOutboxDispatchResult o worker outcome object sha256 atMs =>
    exact of_settles hs hf
      (DeliveryStore.transact_settles fun hok =>
        (DeliveryStore.recordOutboxDispatchResult_settles hok).leases)
      (fun _ => rfl) fun _ => rfl
  | markOutboxFinalized o finalization release =>
    exact of_settles hs hf
      (DeliveryStore.transact_settles DeliveryStore.markOutboxFinalized_leases)
      (fun _ => rfl) fun _ => rfl
  | _ => exact of_settles hs hf (.refl _) (fun _ => rfl) fun _ => rfl

lemma of_moves [DecidableEq Raw] (hs : s.leases.Sound f)
    (h : Pool.Moves (deliveryRules Raw) s f report s' f') : DeliveryMove s f report s' f' := by
  cases h with
  | idle => exact .quiet (fun _ => rfl) (fun _ => rfl) hs rfl fun _ _ h => h
  | start i hfree =>
    exact .quiet (fun _ => rfl) (fun _ => rfl) (hs.forget (.inr (.inl rfl))) rfl
      (crossed_of_update fun _ h => by cases h)
  | lose i =>
    exact .quiet (fun _ => rfl) (fun _ => rfl) (hs.forget (.inl rfl)) rfl
      (crossed_of_update fun _ h => by cases h)
  | outside change =>
    obtain ⟨hsound, hcrossedAt⟩ := DeliveryStore.change_sound hs change
    exact .quiet (fun _ => rfl) (fun _ => rfl) hsound hcrossedAt fun _ _ h => h
  | act i phase a outside hf hallows => exact of_act hs hf hallows

lemma crossedAt_isSome (h : DeliveryMove s f report s' f')
    (ho : (s.leases.crossedAt o).isSome) : (s'.leases.crossedAt o).isSome := by
  cases h with
  | quiet _ _ _ hcrossedAt _ =>
    rw [hcrossedAt]
    exact ho
  | cross i o' since _ _ _ _ hleases _ =>
    rw [hleases, LeaseTable.cross_crossedAt]
    split
    · rfl
    · exact ho
  | send => exact ho

lemma not_crosses (h : DeliveryMove s f report s' f')
    (ho : (s.leases.crossedAt o).isSome) : DeliveryReport.crosses o report = false := by
  cases h with
  | quiet hcrosses => exact hcrosses o
  | cross i o' since hcrosses _ _ hfree =>
    rw [hcrosses, decide_eq_false_iff_not]
    rintro rfl
    rw [hfree] at ho
    cases ho
  | send i o' hcrosses => exact hcrosses o

lemma crossedAt_of_crosses (h : DeliveryMove s f report s' f')
    (ho : DeliveryReport.crosses o report = true) : (s'.leases.crossedAt o).isSome := by
  cases h with
  | quiet hcrosses =>
    rw [hcrosses] at ho
    cases ho
  | cross i o' since hcrosses _ _ _ hleases =>
    rw [hcrosses, decide_eq_true_eq] at ho
    subst ho
    rw [hleases, LeaseTable.cross_crossedAt, if_pos rfl]
    rfl
  | send i o' hcrosses =>
    rw [hcrosses] at ho
    cases ho

/-- The intent was crossed, and whoever crossed it is through or lost. -/
def Over (o : String) (s : DeliveryStore) (f : ℕ → Option (Holder String)) : Prop :=
  (s.leases.crossedAt o).isSome ∧ ∀ n, f n ≠ some (.crossed o)

lemma staysOver (h : DeliveryMove s f report s' f') (ho : Over o s f) : Over o s' f' := by
  refine ⟨h.crossedAt_isSome ho.1, ?_⟩
  cases h with
  | quiet _ _ _ _ hcrossed => exact fun n hn => ho.2 n (hcrossed n o hn)
  | cross i o' since _ _ _ hfree =>
    intro n hn
    rw [update_apply] at hn
    split at hn
    · cases hn
      have hsome := ho.1
      rw [hfree] at hsome
      cases hsome
    · exact ho.2 n hn
  | send i o' =>
    intro n hn
    exact ho.2 n (crossed_of_update (fun _ h => by cases h) n o hn)

lemma not_sends (h : DeliveryMove s f report s' f') (ho : Over o s f) :
    DeliveryReport.sends o report = false := by
  cases h with
  | quiet _ hsends => exact hsends o
  | cross _ _ _ _ hsends => exact hsends o
  | send i o' _ hsends _ hf =>
    rw [hsends, decide_eq_false_iff_not]
    rintro rfl
    exact ho.2 i hf

/-- Nobody is left to send an intent that was sent. -/
lemma over_of_sends (hs : s.leases.Sound f) (h : DeliveryMove s f report s' f')
    (ho : DeliveryReport.sends o report = true) : Over o s' f' := by
  cases h with
  | quiet _ hsends =>
    rw [hsends] at ho
    cases ho
  | cross _ _ _ _ hsends =>
    rw [hsends] at ho
    cases ho
  | send i o' _ hsends _ hf =>
    rw [hsends, decide_eq_true_eq] at ho
    subst ho
    refine ⟨hs.crosser_crossed i o' hf, fun n hn => ?_⟩
    have hold := crossed_of_update (fun _ h => by cases h) n o' hn
    have heq : n = i := hs.crosser_inj n i o' hold hf
    rw [heq, update_self] at hn
    cases hn

lemma crossed_before {n : ℕ} (h : DeliveryMove s f report s' f')
    (hn : f' n = some (.crossed o)) : f n = some (.crossed o) ∨
      (DeliveryReport.crosses o report = true ∧ report.flight = some n) := by
  cases h with
  | quiet _ _ _ _ hcrossed => exact .inl (hcrossed n o hn)
  | cross i o' since hcrosses _ hflight =>
    rw [update_apply] at hn
    split at hn
    · next heq =>
      cases hn
      rw [hcrosses, decide_eq_true_eq, heq]
      exact .inr ⟨rfl, hflight⟩
    · exact .inl hn
  | send i o' => exact .inl (crossed_of_update (fun _ h => by cases h) n o hn)

lemma phase_of_sends {n : ℕ} (h : DeliveryMove s f report s' f')
    (ho : DeliveryReport.sends o report = true) (hn : report.flight = some n) :
    f n = some (.crossed o) := by
  cases h with
  | quiet _ hsends =>
    rw [hsends] at ho
    cases ho
  | cross _ _ _ _ hsends =>
    rw [hsends] at ho
    cases ho
  | send i o' _ hsends hflight hf =>
    rw [hsends, decide_eq_true_eq] at ho
    subst ho
    rw [hflight] at hn
    cases hn
    exact hf

end DeliveryMove

section Runs

variable {Raw : Type} [DecidableEq Raw]

/-- The runs of the workers over a store. -/
def deliveryMachine (Raw : Type) [DecidableEq Raw] :
    Machine (DeliveryPool Raw) (DeliveryEvent Raw) (DeliveryReport Raw) :=
  Pool.machine (deliveryRules Raw)

/-- No worker, and a fresh database. -/
def idleDelivery : DeliveryPool Raw := Pool.idle DeliveryStore.init

/-- The workers keep to their discipline, and their leases are sound. -/
def LeasesKept (p : DeliveryPool Raw) : Prop :=
  p.Within (deliveryRules Raw) fun s f => s.leases.Sound f

lemma idleDelivery_leasesKept : LeasesKept (idleDelivery : DeliveryPool Raw) := by
  refine ⟨Pool.idle_disciplined _, ?_⟩
  rw [idleDelivery, Pool.idle_phases]
  exact LeaseTable.sound_none

lemma step_deliveryMove {p : DeliveryPool Raw} (h : LeasesKept p) (e : DeliveryEvent Raw) :
    DeliveryMove p.world p.phases ((deliveryMachine Raw).step p e).2
      ((deliveryMachine Raw).step p e).1.world ((deliveryMachine Raw).step p e).1.phases :=
  .of_moves h.2 (Pool.step_moves (fun input =>
    @GatewayDeliveryOutboxWorker.dispatchNext_keeps _ input.1 _ input.2) h.1 e).2

lemma step_leasesKept {p : DeliveryPool Raw} (h : LeasesKept p) (e : DeliveryEvent Raw) :
    LeasesKept ((deliveryMachine Raw).step p e).1 :=
  ⟨(Pool.step_moves (fun input =>
    @GatewayDeliveryOutboxWorker.dispatchNext_keeps _ input.1 _ input.2) h.1 e).1,
    (step_deliveryMove h e).sound⟩

lemma exec_leasesKept (events : List (DeliveryEvent Raw)) :
    LeasesKept ((deliveryMachine Raw).exec idleDelivery events) :=
  Machine.exec_preserves LeasesKept (fun _ e h => step_leasesKept h e) idleDelivery_leasesKept
    events

/-- The boundary of an intent is crossed at most once. -/
lemma countP_crosses_le_one (events : List (DeliveryEvent Raw)) (o : String) :
    (((deliveryMachine Raw).trace idleDelivery events).countP fun entry =>
      DeliveryReport.crosses o entry.2.2) ≤ 1 :=
  @Machine.countP_trace_le_one _ _ _ _ LeasesKept
    (fun p => (p.world.leases.crossedAt o).isSome) _
    (fun _ e h => step_leasesKept h e)
    (fun _ e h ho => (step_deliveryMove h e).crossedAt_of_crosses ho)
    (fun _ e h ho => (step_deliveryMove h e).crossedAt_isSome ho)
    (fun _ e h ho => (step_deliveryMove h e).not_crosses ho) _ idleDelivery_leasesKept events

lemma countP_sends_le_one (events : List (DeliveryEvent Raw)) (o : String) :
    (((deliveryMachine Raw).trace idleDelivery events).countP fun entry =>
      DeliveryReport.sends o entry.2.2) ≤ 1 :=
  @Machine.countP_trace_le_one _ _ _ _ LeasesKept
    (fun p => DeliveryMove.Over o p.world p.phases) _
    (fun _ e h => step_leasesKept h e)
    (fun _ e h ho => (step_deliveryMove h e).over_of_sends h.2 ho)
    (fun _ e h ho => (step_deliveryMove h e).staysOver ho)
    (fun _ e h ho => (step_deliveryMove h e).not_sends ho) _ idleDelivery_leasesKept events

/-- Whoever is in a crossed phase crossed the boundary earlier in the run. -/
lemma exists_crossing (events : List (DeliveryEvent Raw)) {o : String} {n : ℕ}
    (h : ((deliveryMachine Raw).exec idleDelivery events).phases n = some (.crossed o)) :
    ∃ entry ∈ (deliveryMachine Raw).trace idleDelivery events,
      DeliveryReport.crosses o entry.2.2 = true ∧ entry.2.2.flight = some n := by
  induction events using List.reverseRecOn with
  | nil =>
    rw [Machine.exec_nil, idleDelivery, Pool.idle_phases] at h
    cases h
  | append_singleton events e ih =>
    rw [Machine.exec_concat] at h
    rw [Machine.trace_append]
    rcases (step_deliveryMove (exec_leasesKept events) e).crossed_before h with hold | hnew
    · obtain ⟨entry, hmem, hentry⟩ := ih hold
      exact ⟨entry, List.mem_append_left _ hmem, hentry⟩
    · exact ⟨_, List.mem_append_right _ List.mem_cons_self, hnew⟩

/-- How often an intent is sent, and what every send of it follows. -/
structure SentAtMostOnce (events : List (DeliveryEvent Raw)) (o : String) : Prop where
  sent : (((deliveryMachine Raw).trace idleDelivery events).countP fun entry =>
    DeliveryReport.sends o entry.2.2) ≤ 1
  crossed : (((deliveryMachine Raw).trace idleDelivery events).countP fun entry =>
    DeliveryReport.crosses o entry.2.2) ≤ 1
  /-- A send follows the crossing of the same call. -/
  own_crossing : ∀ pre e post, events = pre ++ e :: post → ∀ n,
    let report := ((deliveryMachine Raw).step ((deliveryMachine Raw).exec idleDelivery pre) e).2
    DeliveryReport.sends o report = true → report.flight = some n →
      ∃ entry ∈ (deliveryMachine Raw).trace idleDelivery pre,
        DeliveryReport.crosses o entry.2.2 = true ∧ entry.2.2.flight = some n
  /-- Once the boundary row exists nobody crosses it again. -/
  barred : ∀ pre e post, events = pre ++ e :: post →
    let p := (deliveryMachine Raw).exec idleDelivery pre
    (p.world.boundaries.find o).isSome →
      DeliveryReport.crosses o ((deliveryMachine Raw).step p e).2 = false

/-- Workers with any identities, their interleavings, expired leases, crashes and restarts send an
intent at most once. -/
theorem dispatchNext_sentAtMostOnce (events : List (DeliveryEvent Raw)) (o : String) :
    SentAtMostOnce events o where
  sent := countP_sends_le_one events o
  crossed := countP_crosses_le_one events o
  own_crossing := by
    intro pre e post _ n report hsends hflight
    have hmove := step_deliveryMove (exec_leasesKept pre) e
    exact exists_crossing pre (hmove.phase_of_sends hsends hflight)
  barred := by
    intro pre e post _ p hboundary
    refine (step_deliveryMove (exec_leasesKept pre) e).not_crosses ?_
    simpa [DeliveryStore.leases] using hboundary

end Runs

end Tiangong
