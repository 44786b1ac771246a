import Tiangong.CompletionAgreement
import Tiangong.DeliveryPrograms
import Tiangong.OutboxLeases

/-!
# Deliveries of cancelled generations

An intent whose generation is not active is never settled by a dispatch: its payload does not load,
and the ambiguity that the worker then records is refused, since the claim it has just taken has
not expired.
-/
open List

namespace Tiangong

open Program OutboxProgress

open Discipline (Stays)

/-- What every allowed action keeps, a program that stays in a phase keeps. -/
theorem Discipline.Keeps.run {A : Type} {R : A → Type} {ε α σ φ : Type} {d : Discipline A R ε φ}
    {p : φ} {Q : α → φ → Prop} {E : ε → φ → Prop} {h : (a : A) → Call ε σ (R a)}
    {J : σ → Prop} (hact : ∀ s q a, J s → d.allows q a → J ((h a).on s).2)
    {x : Program A R ε α} (hx : d.Keeps Q E x p) {s : σ} (hs : J s) : J ((x.run h).on s).2 := by
  induction x generalizing p s with
  | done a => exact hs
  | fail e => exact hs
  | ask a next ih => exact ih _ (hx.2 _) (hact s p a hs hx.1)

variable {Raw Ω : Type}

/-- The delivery tables answer their actions, and `outside` the others. -/
def DeliveryOutside.handle (outside : DeliveryOutside Raw Ω) (a : DeliveryAction Raw) :
    Call DeliveryError (DeliveryStore × Ω) a.Answer := fun t =>
  let reply := (DeliveryStore.answer (fun b => ((outside b).on t.2).1) a).on t.1
  (reply.1, reply.2, ((outside a).on t.2).2)

/-- Only the actions that `allowed` selects. -/
def onlyActions (allowed : DeliveryAction Raw → Bool) :
    Discipline (DeliveryAction Raw) DeliveryAction.Answer DeliveryError Unit where
  allows _ a := allowed a = true
  after p _ _ := p

theorem onlyActions_free {allowed : DeliveryAction Raw → Bool} {a : DeliveryAction Raw}
    (h : allowed a = true) : (onlyActions allowed).Free () a :=
  ⟨h, fun _ => rfl⟩

namespace DeliveryStore

variable {s s' : DeliveryStore}

/-- The intent's own generation is not the active one of its request. -/
def Cancelled (s : DeliveryStore) (intent : OutboxIntent) : Prop :=
  ∀ g, s.generations.find intent.requestId = some g →
    ¬ (g.status = .active ∧ g.runId = intent.runId ∧ g.generation = intent.generation)

/-- The intent is ambiguous, and its boundary is finalized. -/
def Concluded (s : DeliveryStore) (outboxId : String) : Prop :=
  (∃ row, s.outbox.find outboxId = some row ∧ row.state = .ambiguous) ∧
    ∃ b, s.boundaries.find outboxId = some b ∧ b.finalization.isSome

/-- An unsettled intent without an active generation. -/
structure Stranded (intent : OutboxIntent) (s : DeliveryStore) : Prop where
  unsettled : ∃ row, s.outbox.find intent.outboxId = some row ∧ row.intent = intent ∧
    row.progress.isSettled = false
  cancelled : s.Cancelled intent

variable {intent : OutboxIntent}

lemma Stranded.not_concluded (h : Stranded intent s) : ¬ s.Concluded intent.outboxId := by
  rintro ⟨⟨row, hrow, hstate⟩, -⟩
  obtain ⟨row', hrow', -, hunsettled⟩ := h.unsettled
  rw [hrow] at hrow'
  cases hrow'
  unfold OutboxRow.state at hstate
  cases hp : row.progress with
  | pending => simp [hp, state] at hstate
  | claimed worker expires => simp [hp, state] at hstate
  | settled outcome worker expires atMs sha256 => simp [hp, isSettled] at hunsettled

lemma Stranded.of_find (h : Stranded intent s)
    (hrow : ∀ row, s.outbox.find intent.outboxId = some row → row.progress.isSettled = false →
      ∃ row', s'.outbox.find intent.outboxId = some row' ∧ row'.intent = row.intent ∧
        row'.progress.isSettled = false)
    (hgenerations : s'.generations = s.generations) : Stranded intent s' := by
  obtain ⟨row, hfind, hintent, hunsettled⟩ := h.unsettled
  obtain ⟨row', hfind', hintent', hunsettled'⟩ := hrow row hfind hunsettled
  refine ⟨⟨row', hfind', hintent'.trans hintent, hunsettled'⟩, ?_⟩
  intro g hg
  rw [hgenerations] at hg
  exact h.cancelled g hg

variable {o : String}

lemma claimOutbox_stranded {worker : String} {nowMs leaseMs : ℕ} {row : OutboxRow}
    (h : Stranded intent s) (hok : s.claimOutbox o worker nowMs leaseMs = .ok (row, s')) :
    Stranded intent s' := by
  obtain ⟨old, hold, ⟨-, -, rfl⟩ | ⟨-, -, -, rfl, -, hgenerations, hfind⟩⟩ := claimOutbox_cases hok
  · exact h
  · refine h.of_find (fun row hrow hunsettled => ?_) hgenerations
    rw [hfind]
    split
    · next hkey =>
      rw [hkey, hold] at hrow
      cases hrow
      exact ⟨_, rfl, rfl, rfl⟩
    · exact ⟨row, hrow, rfl, hunsettled⟩

lemma Stranded.settlesRow (h : Stranded intent s) (hne : o ≠ intent.outboxId)
    (hsettles : SettlesRow o s s') : Stranded intent s' := by
  refine h.of_find (fun row hrow hunsettled => ?_) hsettles.generations
  rw [hsettles.others _ hne.symm]
  exact ⟨row, hrow, rfl, hunsettled⟩

lemma releaseGenerationLocked_cancelled {requestId runId : String} {atMs generation : ℕ}
    {generations : Table GenerationLease.requestId} (h : s.Cancelled intent)
    (hok : releaseGenerationLocked requestId atMs runId generation s.generations =
      .ok generations) :
    ({ s with generations := generations } : DeliveryStore).Cancelled intent := by
  simp only [releaseGenerationLocked, eq_ok_iff] at hok
  obtain ⟨current, -, -, hok⟩ := hok
  split at hok
  · cases hok
    exact h
  · simp only [eq_ok_iff] at hok
    obtain ⟨-, -, hupdate⟩ := hok
    intro g hg
    obtain ⟨old, hold, rfl⟩ : ∃ old, s.generations.find intent.requestId = some old ∧
        (if old.requestId = requestId && (old.revision = current.revision && old.status = .active)
          then old.release atMs else old) = g := by
      obtain rfl := Table.updateOne_rows hupdate
      exact Option.map_eq_some_iff.mp ((@Table.find_update _ _ GenerationLease.requestId _
        (GenerationLease.release atMs) (fun _ => rfl) _ _ _).symm.trans hg)
    split
    · rintro ⟨hactive, -⟩
      cases hactive
    · exact h old hold

lemma markOutboxFinalized_stranded {fin : BoundaryFinalization} {release : Bool}
    {b : OutboxDispatchBoundary} (h : Stranded intent s)
    (hok : s.markOutboxFinalized o fin release = .ok (b, s')) : Stranded intent s' := by
  obtain ⟨houtbox, -, hgenerations | ⟨requestId, runId, generation, hrelease⟩⟩ :=
    markOutboxFinalized_cases hok
  · refine h.of_find (fun row hrow hunsettled => ?_) hgenerations
    rw [houtbox]
    exact ⟨row, hrow, rfl, hunsettled⟩
  · have hcancelled := releaseGenerationLocked_cancelled (s := s) h.cancelled hrelease
    refine ⟨?_, hcancelled⟩
    rw [houtbox]
    exact h.unsettled

lemma transact_stranded {α : Type} {op : DeliveryStore → Except StoreError (α × DeliveryStore)}
    (h : Stranded intent s) (hop : ∀ s'' a, op s = .ok (a, s'') → Stranded intent s'') :
    Stranded intent ((transact op).on s).2 := by
  rcases hr : (transact op).on s with ⟨r, s''⟩
  rcases transact_eq hr with ⟨a, hok, -⟩ | ⟨e, -, rfl⟩
  · exact hop s'' a hok
  · exact h

variable {a : DeliveryAction Raw}

variable {oracle : (a : DeliveryAction Raw) → Except DeliveryError a.Answer}

/-- Only its own settlement takes an intent out of being stranded. -/
lemma answer_stranded (h : Stranded intent s)
    (hother : a.settles intent.outboxId = false) : Stranded intent ((answer oracle a).on s).2 := by
  cases a with
  | claimOutbox o worker nowMs leaseMs =>
    exact transact_stranded h fun _ _ hok => claimOutbox_stranded h hok
  | markOutboxDispatchStarted o worker epoch ticketObject ticket startedAtMs =>
    refine transact_stranded h fun _ _ hok => ?_
    obtain ⟨houtbox, hgenerations⟩ := markOutboxDispatchStarted_frame hok
    refine h.of_find (fun row hrow hunsettled => ?_) hgenerations
    rw [houtbox]
    exact ⟨row, hrow, rfl, hunsettled⟩
  | markExpiredOutboxAmbiguous o atMs object sha256 =>
    exact transact_stranded h fun _ _ hok =>
      h.settlesRow (of_decide_eq_false hother) (markExpiredOutboxAmbiguous_settles hok)
  | recordOutboxDispatchResult o worker outcome object sha256 atMs =>
    exact transact_stranded h fun _ _ hok =>
      h.settlesRow (of_decide_eq_false hother) (recordOutboxDispatchResult_settles hok)
  | markOutboxFinalized o fin release =>
    exact transact_stranded h fun _ _ hok => markOutboxFinalized_stranded h hok
  | _ => exact h

/-- A reading action leaves the tables as they are. -/
lemma answer_reads (h : a.reads = true) :
    ((answer oracle a).on s).2 = s := by
  cases a <;> first
    | rfl
    | cases h

/-- An intent whose claim has not expired cannot be given up. -/
lemma answer_abandons {nowMs expires : ℕ}
    (hheld : s.leases.standing o = .held expires) (hlease : nowMs < expires)
    (h : a.abandons o nowMs = true) : ((answer oracle a).on s).2 = s := by
  cases a with
  | markExpiredOutboxAmbiguous settled atMs object sha256 =>
    simp only [DeliveryAction.abandons, holds_iff] at h
    obtain ⟨rfl, rfl⟩ := h
    rcases hr : (answer oracle (.markExpiredOutboxAmbiguous settled atMs object sha256)).on s with
      ⟨r, s''⟩
    rcases transact_eq (show _ = (r, s'') from hr) with ⟨row, hok, -⟩ | ⟨e, -, rfl⟩
    · simp only [markExpiredOutboxAmbiguous, eq_ok_iff] at hok
      obtain ⟨-, old, hold, hok⟩ := hok
      rw [standing_of_find hold] at hheld
      split at hok
      · next hsettled =>
        rw [OutboxRow.standing_of_isSettled hsettled] at hheld
        cases hheld
      · simp only [eq_ok_iff] at hok
        obtain ⟨boundary, -, hguard, -⟩ := hok
        exfalso
        apply hguard
        right
        left
        cases hp : old.progress with
        | pending => simp [hp, standing] at hheld
        | claimed worker expires' =>
          simp only [hp, standing, Standing.held.injEq] at hheld
          simp only [OutboxRow.claimable, hp, decide_eq_false_iff_not]
          omega
        | settled outcome worker expires' at_ sha => simp [hp, standing] at hheld
    · rfl
  | _ => cases h

/-- The claim of an unsettled intent holds it until its lease ends. -/
lemma claimOutbox_held {worker : String} {nowMs leaseMs : ℕ} {row : OutboxRow}
    (h : Stranded intent s) (ho : o = intent.outboxId)
    (hok : s.claimOutbox o worker nowMs leaseMs = .ok (row, s')) :
    row.intent = intent ∧ s'.leases.standing intent.outboxId = .held (nowMs + leaseMs) ∧
      nowMs < nowMs + leaseMs := by
  subst ho
  obtain ⟨old, hold, hintent, hunsettled⟩ := h.unsettled
  obtain ⟨old', hold', hcases⟩ := claimOutbox_cases hok
  rw [hold] at hold'
  obtain rfl := Option.some.inj hold'
  rcases hcases with ⟨hsettled, -, -⟩ | ⟨-, -, hlease, rfl, -, -, hfind⟩
  · rw [hsettled] at hunsettled
    cases hunsettled
  · refine ⟨hintent, ?_, hlease⟩
    rw [standing_of_find ((hfind _).trans (if_pos rfl))]
    rfl

end DeliveryStore

namespace GatewayDeliveryOutboxWorker

variable {worker : GatewayDeliveryOutboxWorker Raw} {outside : DeliveryOutside Raw Ω}
  {intent : OutboxIntent} {t t' : DeliveryStore × Ω}

open DeliveryStore (Stranded)

lemma stranded_of_stays {α : Type} {x : DeliveryProgram Raw α}
    (hx : (onlyActions fun a => !a.settles intent.outboxId).Stays () x)
    (h : Stranded intent t.1) : Stranded intent ((x.run outside.handle).on t).2.1 :=
  Discipline.Keeps.run (h := outside.handle) (J := fun t : DeliveryStore × Ω => Stranded intent t.1)
    (fun _ _ _ ht hallows =>
      DeliveryStore.answer_stranded ht (by simpa [onlyActions] using hallows))
    hx h

/-- A reading program leaves the tables as they are. -/
lemma unchanged_of_stays {α : Type} {x : DeliveryProgram Raw α}
    (hx : (onlyActions fun a => a.reads).Stays () x) :
    ((x.run outside.handle).on t).2.1 = t.1 :=
  Discipline.Keeps.run (h := outside.handle) (J := fun t' : DeliveryStore × Ω => t'.1 = t.1)
    (fun _ _ _ ht hallows => (DeliveryStore.answer_reads hallows).trans ht) hx rfl

lemma handle_getGeneration (requestId : String) :
    ((perform (.getGeneration requestId) : DeliveryProgram Raw _).run outside.handle).on t =
      (.ok (t.1.generations.find requestId),
        t.1, ((outside (.getGeneration requestId)).on t.2).2) := by
  rw [perform, run_perform]
  rfl

lemma run_refuseIf_eq_ok {refused : Prop} [Decidable refused] {e : DeliveryError} {u : Unit} :
    ((refuseIf refused e : DeliveryProgram Raw Unit).run outside.handle).on t =
      (.ok u, t') ↔ ¬ refused ∧ t = t' := by
  unfold refuseIf
  split
  · next h => simp [h]
  · next h => simp [h]

lemma reads_unchanged {a : DeliveryAction Raw} {r : a.Answer} (h : a.reads = true)
    (hok : ((perform a : DeliveryProgram Raw _).run outside.handle).on t = (.ok r, t')) :
    t'.1 = t.1 := by
  have hstays : (onlyActions fun a : DeliveryAction Raw => a.reads).Stays () (perform a) :=
    stays_free (onlyActions_free h)
  have hsame : (((perform a : DeliveryProgram Raw _).run outside.handle).on t).2.1 = t.1 :=
    unchanged_of_stays hstays
  rwa [hok] at hsame

/-- What a sequence keeps when its first part keeps it and the rest does after an answer. -/
lemma stranded_bind {α β : Type} {x : DeliveryProgram Raw α} {f : α → DeliveryProgram Raw β}
    (hx : Stranded intent ((x.run outside.handle).on t).2.1)
    (hf : ∀ a t', (x.run outside.handle).on t = (.ok a, t') →
      Stranded intent (((f a).run outside.handle).on t').2.1) :
    Stranded intent (((x >>= f).run outside.handle).on t).2.1 := by
  rcases hr : (x.run outside.handle).on t with ⟨e | a, t'⟩
  · rw [run_bind_of_error hr]
    rwa [hr] at hx
  · rw [run_bind_of_ok hr]
    exact hf a t' hr

lemma stranded_reads {a : DeliveryAction Raw} (h : Stranded intent t.1) (ha : a.reads = true) :
    Stranded intent (((perform a : DeliveryProgram Raw _).run outside.handle).on t).2.1 := by
  have hstays : (onlyActions fun a : DeliveryAction Raw => a.reads).Stays () (perform a) :=
    stays_free (onlyActions_free ha)
  have hsame : (((perform a : DeliveryProgram Raw _).run outside.handle).on t).2.1 = t.1 :=
    unchanged_of_stays hstays
  rwa [hsame]

lemma spares_reads (a : DeliveryAction Raw) (h : a.reads = true) :
    (onlyActions fun a : DeliveryAction Raw => !a.settles intent.outboxId).Free () a := by
  cases a <;> first
    | exact onlyActions_free rfl
    | cases h

lemma spares_finalizes (a : DeliveryAction Raw) (h : a.finalizes = true) :
    (onlyActions fun a : DeliveryAction Raw => !a.settles intent.outboxId).Free () a := by
  cases a <;> first
    | exact onlyActions_free rfl
    | cases h

lemma spares_settles {o : String} (hne : o ≠ intent.outboxId) (a : DeliveryAction Raw)
    (h : a.settles o = true) :
    (onlyActions fun a : DeliveryAction Raw => !a.settles intent.outboxId).Free () a := by
  refine onlyActions_free ?_
  cases a with
  | markExpiredOutboxAmbiguous o' atMs object sha256 =>
    obtain rfl : o' = o := of_decide_eq_true h
    simpa [DeliveryAction.settles] using hne
  | recordOutboxDispatchResult o' worker outcome object sha256 atMs =>
    obtain rfl : o' = o := of_decide_eq_true h
    simpa [DeliveryAction.settles] using hne
  | _ => rfl

lemma spares_abandons {o : String} {nowMs : ℕ} (hne : o ≠ intent.outboxId)
    (a : DeliveryAction Raw) (h : a.abandons o nowMs = true) :
    (onlyActions fun a : DeliveryAction Raw => !a.settles intent.outboxId).Free () a := by
  refine spares_settles hne a ?_
  cases a with
  | markExpiredOutboxAmbiguous o' atMs object sha256 =>
    simp only [DeliveryAction.abandons, Bool.and_eq_true] at h
    exact h.1
  | _ => cases h

lemma spares_sends (a : DeliveryAction Raw) (h : a.sends = true) :
    (onlyActions fun a : DeliveryAction Raw => !a.settles intent.outboxId).Free () a := by
  cases a <;> first
    | exact onlyActions_free rfl
    | cases h

variable [DecidableEq Raw]

/-- The payload of an intent without an active generation does not load. -/
lemma loadPayload_ne_ok {record : OutboxRow} {payload : DeliveryOutboxPayload}
    (hcancelled : t.1.Cancelled record.intent) :
    ((worker.loadPayload record).run outside.handle).on t ≠ (.ok payload, t') := by
  intro hok
  simp only [loadPayload, run_bind_eq_ok, run_refuseIf_eq_ok] at hok
  obtain ⟨_, t1, ⟨-, rfl⟩, reference, t2, hreference, _, t3, ⟨-, rfl⟩, raw, t4, hraw, _, t5,
    ⟨-, rfl⟩, payload', t6, hpayload, _, t7, ⟨-, rfl⟩, _, t8, ⟨hbinding, rfl⟩, entry, t9, hentry,
    _, t10, ⟨-, rfl⟩, effect, t11, heffect, generation, t12, hgeneration, _, t13, ⟨hfact, rfl⟩,
    -⟩ := hok
  have hstore : t11.1 = t.1 := by
    rw [reads_unchanged rfl heffect, reads_unchanged rfl hentry]
    have : t6 = t4 := by
      rcases hval : required (worker.documents.validatePayload raw)
        (DeliveryError.outbox "delivery_outbox.payload.invalid") with e | a
      · rw [hval] at hpayload
        cases hpayload
      · rw [hval] at hpayload
        cases hpayload
        rfl
    rw [this, reads_unchanged rfl hraw, reads_unchanged rfl hreference]
  rw [handle_getGeneration] at hgeneration
  cases hgeneration
  push Not at hbinding
  simp only [executionFact, Bool.not_eq_false, holds_iff, Option.any_eq_true] at hfact
  obtain ⟨-, g, hg, ⟨⟨⟨hactive, -⟩, -⟩, hrun⟩, hgen⟩ := hfact
  rw [hstore, hbinding.2.1] at hg
  exact hcancelled g hg ⟨hactive, hrun.trans hbinding.2.2.1, hgen.trans hbinding.2.2.2⟩

lemma loadPayload_unchanged {record : OutboxRow} :
    (((worker.loadPayload record).run outside.handle).on t).2.1 = t.1 :=
  unchanged_of_stays (loadPayload_stays (fun _ h => onlyActions_free h) record)

variable {claimed : OutboxRow}

lemma dispatchClaimed_spares {nowMs : ℕ}
    (hne : claimed.outboxId ≠ intent.outboxId) (payload : DeliveryOutboxPayload) :
    (onlyActions fun a : DeliveryAction Raw => !a.settles intent.outboxId).Stays ()
      (worker.dispatchClaimed claimed payload nowMs) :=
  dispatchClaimed_stays spares_reads spares_finalizes spares_sends claimed (spares_settles hne)
    payload nowMs

/-- The loaded payload of a claimed intent, when it has one, is that of `loadPayload`. -/
lemma loadClaimed_ne_some {nowMs : ℕ} {payload : DeliveryOutboxPayload}
    (hcancelled : t.1.Cancelled claimed.intent) :
    ((worker.loadClaimed claimed nowMs).run outside.handle).on t ≠ (.ok (some payload), t') := by
  intro hok
  rw [loadClaimed, run_catching] at hok
  rcases hr : ((worker.loadPayload claimed).run outside.handle).on t with ⟨e | loaded, t1⟩
  · rw [run_bind_of_error hr] at hok
    cases e with
    | outbox code =>
      simp only [run_bind_eq_ok] at hok
      obtain ⟨_, _, -, _, _, -, _, _, -, hnone⟩ := hok
      cases hnone
    | communication code ambiguous => cases hok
    | store error => cases hok
    | raised text => cases hok
    | assertion => cases hok
  · exact loadPayload_ne_ok hcancelled hr

/-- While the claim of an intent holds, loading and abandoning it changes nothing. -/
lemma loadClaimed_unchanged {nowMs expires : ℕ}
    (hheld : t.1.leases.standing claimed.outboxId = .held expires) (hlease : nowMs < expires) :
    (((worker.loadClaimed claimed nowMs).run outside.handle).on t).2.1 = t.1 := by
  have hstays : (onlyActions fun a : DeliveryAction Raw =>
      a.reads || a.abandons claimed.outboxId nowMs).Stays () (worker.loadClaimed claimed nowMs) :=
    loadClaimed_stays (fun _ h => onlyActions_free (by rw [h]; rfl)) claimed nowMs
      fun _ h => onlyActions_free (by rw [h, Bool.or_true])
  refine Discipline.Keeps.run (h := outside.handle)
    (J := fun t' : DeliveryStore × Ω => t'.1 = t.1) ?_ hstays rfl
  rintro t' q a ht hallows
  rw [← ht] at hheld ⊢
  rcases Bool.or_eq_true_iff.mp hallows with h | h
  · exact DeliveryStore.answer_reads h
  · exact DeliveryStore.answer_abandons hheld hlease h

section Dispatch

variable {candidate : OutboxRow} {nowMs : ℕ}

lemma recoverOrphan_stranded (h : Stranded intent t.1)
    (hcandidate : candidate.outboxId = intent.outboxId → candidate.intent = intent)
    (boundary : OutboxDispatchBoundary) :
    Stranded intent (((worker.recoverOrphan candidate boundary nowMs).run outside.handle).on
      t).2.1 := by
  by_cases ho : candidate.outboxId = intent.outboxId
  · refine stranded_bind (by rwa [loadPayload_unchanged]) fun payload t' hok => ?_
    have hcancelled : t.1.Cancelled candidate.intent := by
      rw [hcandidate ho]
      exact h.cancelled
    exact absurd hok (loadPayload_ne_ok hcancelled)
  · exact stranded_of_stays
      (recoverOrphan_stays spares_reads spares_finalizes candidate (spares_settles ho) _ _) h

lemma claimAndDispatch_stranded (h : Stranded intent t.1) :
    Stranded intent (((worker.claimAndDispatch candidate nowMs).run outside.handle).on
      t).2.1 := by
  have hclaim : (onlyActions fun a : DeliveryAction Raw => !a.settles intent.outboxId).Stays ()
      (perform (.claimOutbox candidate.outboxId worker.workerId nowMs 120000)) :=
    stays_free (onlyActions_free rfl)
  refine stranded_bind (stranded_of_stays hclaim h) fun claimed t1 hok => ?_
  have ht1 : Stranded intent t1.1 := by
    have hstranded : Stranded intent (((perform
        (.claimOutbox candidate.outboxId worker.workerId nowMs 120000) :
          DeliveryProgram Raw _).run outside.handle).on t).2.1 := stranded_of_stays hclaim h
    rwa [hok] at hstranded
  have hclaimed : t.1.claimOutbox candidate.outboxId worker.workerId nowMs 120000 =
      .ok (claimed, t1.1) := by
    rw [perform, run_perform] at hok
    obtain ⟨hanswer, hstate⟩ := Prod.mk.inj hok
    have hreply : (DeliveryStore.transact fun s =>
        s.claimOutbox candidate.outboxId worker.workerId nowMs 120000).on t.1 =
          (.ok claimed, t1.1) := Prod.ext hanswer (congrArg Prod.fst hstate)
    rcases DeliveryStore.transact_eq hreply with ⟨row, hrow, heq⟩ | ⟨e, heq, -⟩
    · cases heq
      exact hrow
    · cases heq
  by_cases ho : candidate.outboxId = intent.outboxId
  · obtain ⟨hintent, hheld, hlease⟩ := DeliveryStore.claimOutbox_held h ho hclaimed
    have hid : claimed.outboxId = intent.outboxId := by
      rw [OutboxRow.outboxId, hintent]
    have hsame : (((worker.loadClaimed claimed nowMs).run outside.handle).on t1).2.1 = t1.1 :=
      loadClaimed_unchanged (hid ▸ hheld) hlease
    refine stranded_bind (by rwa [hsame]) fun loaded t2 hloaded => ?_
    cases loaded with
    | none =>
      rw [hloaded] at hsame
      show Stranded intent t2.1
      rwa [hsame]
    | some payload =>
      have hcancelled : t1.1.Cancelled claimed.intent := by
        rw [hintent]
        exact ht1.cancelled
      exact absurd hloaded (loadClaimed_ne_some hcancelled)
  · have hne : claimed.outboxId ≠ intent.outboxId := by
      rwa [DeliveryStore.claimOutbox_id hclaimed]
    refine stranded_of_stays ?_ ht1
    refine Stays.bind (loadClaimed_stays spares_reads claimed nowMs (spares_abandons hne))
      fun loaded => ?_
    cases loaded with
    | none => exact Discipline.stays_done true
    | some payload => exact dispatchClaimed_spares hne payload

lemma dispatchNext_stranded (h : Stranded intent t.1) :
    Stranded intent (((worker.dispatchNext nowMs).run outside.handle).on t).2.1 := by
  refine stranded_bind (stranded_reads h rfl) fun pending t1 hpending => ?_
  have ht1 : t1.1 = t.1 := reads_unchanged rfl hpending
  cases pending with
  | cons boundary rest =>
    refine stranded_of_stays ?_ (ht1 ▸ h)
    exact Stays.bind (finalize_stays spares_reads spares_finalizes boundary nowMs) fun _ =>
      Discipline.stays_done true
  | nil =>
    rw [← ht1] at h
    refine stranded_bind (stranded_reads h rfl) fun candidates t2 hcandidates => ?_
    have ht2 : t2.1 = t1.1 := reads_unchanged rfl hcandidates
    cases candidates with
    | nil => exact ht2 ▸ h
    | cons candidate rest =>
      have hmem : candidate ∈ t1.1.outbox.rows := by
        rw [perform, run_perform] at hcandidates
        have hquery : ((t1.1.listDispatchableOutbox nowMs 1).mapError DeliveryError.store) =
            .ok (candidate :: rest) := (Prod.mk.inj hcandidates).1
        cases hlist : t1.1.listDispatchableOutbox nowMs 1 with
        | error e =>
          rw [hlist] at hquery
          cases hquery
        | ok rows =>
          rw [hlist] at hquery
          cases hquery
          simp only [DeliveryStore.listDispatchableOutbox, eq_ok_iff] at hlist
          have hin : candidate ∈ candidate :: rest := mem_cons_self
          rw [← hlist.2] at hin
          exact (mem_filter.mp (mem_orderBy.mp (mem_of_mem_take hin))).1
      have hcandidate : candidate.outboxId = intent.outboxId → candidate.intent = intent := by
        intro ho
        obtain ⟨row, hrow, hintent, -⟩ := h.unsettled
        have hsame : candidate = row := t1.1.outbox.table.eq_of_key_eq hmem
          (Table.mem_of_find hrow) (ho.trans (Table.key_of_find hrow).symm)
        rw [hsame, hintent]
      rw [← ht2] at h
      refine stranded_bind (stranded_reads h rfl) fun boundary t3 hboundary => ?_
      have ht3 : t3.1 = t2.1 := reads_unchanged rfl hboundary
      rw [← ht3] at h
      split
      · exact recoverOrphan_stranded h hcandidate _
      · exact claimAndDispatch_stranded h

end Dispatch

/-- The dispatch returns, and the intent is ambiguous and finalized. -/
def Unwedges (worker : GatewayDeliveryOutboxWorker Raw) (outside : DeliveryOutside Raw Ω)
    (nowMs : ℕ) (t : DeliveryStore × Ω) (outboxId : String) : Prop :=
  let reply := ((worker.dispatchNext nowMs).run outside.handle).on t
  reply.1.toBool = true ∧ reply.2.1.Concluded outboxId

/-- The deliveries that a dispatch at `nowMs` finds, in their order. -/
def dispatchableDeliveries (s : DeliveryStore) (nowMs : ℕ) : List OutboxRow :=
  orderBy OutboxRow.before <|
    s.outbox.rows.filter fun r => r.claimable nowMs && r.intent.intentKind = .delivery

/-- The first dispatchable delivery is never settled when its generation is not active, whatever
state it is in and whatever else the dispatch finds. -/
theorem dispatchNext_not_unwedges (worker : GatewayDeliveryOutboxWorker Raw)
    (outside : DeliveryOutside Raw Ω) (nowMs : ℕ) (t : DeliveryStore × Ω) (row : OutboxRow)
    (hfirst : (dispatchableDeliveries t.1 nowMs).head? = some row)
    (hcancelled : t.1.Cancelled row.intent) :
    ¬ Unwedges worker outside nowMs t row.outboxId := by
  rintro ⟨-, hconcluded⟩
  have hmem := mem_orderBy.mp (mem_of_mem_head? hfirst)
  obtain ⟨hrow, hclaimable⟩ := mem_filter.mp hmem
  have hstranded : Stranded row.intent t.1 := by
    refine ⟨⟨row, IndexedTable.find_of_mem hrow, rfl, ?_⟩, hcancelled⟩
    rw [Bool.and_eq_true] at hclaimable
    cases hp : row.progress with
    | pending => rfl
    | claimed worker expires => rfl
    | settled outcome worker expires atMs sha256 =>
      simp [OutboxRow.claimable, hp] at hclaimable
  exact (dispatchNext_stranded hstranded).not_concluded hconcluded

end GatewayDeliveryOutboxWorker

namespace CancelledSample

/-- The objects of the sample. -/
inductive Stored where
  | payload | result | ticket
  deriving DecidableEq, Repr

theorem plan_sha256 : CompletionGate.Sample.plan.hasValidPlanSha256 = true := rfl

def payload : DeliveryOutboxPayload :=
  let p : DeliveryOutboxPayload := ⟨"life", "session", "effect", CompletionGate.Sample.plan, .null, plan_sha256⟩
  { p with payloadSha256 := p.computedSha256 }

def documents : DeliveryDocuments Stored where
  sha256
    | .payload => .sha256 (.text "payload")
    | .result => .sha256 (.text "result")
    | .ticket => .sha256 (.text "ticket")
  validatePayload
    | .payload => some payload
    | _ => none
  payloadBytes _ := .payload
  ticketBytes _ := .ticket
  resultBytes _ := .result
  loadResult _ := none
  canonicalResult _ := true
  loadPlanScope
    | .payload => .ok (some payload.scope)
    | _ => .ok none

def worker : GatewayDeliveryOutboxWorker Stored := ⟨documents, 1, "worker", .text "manifest"⟩

def reference (stored : Stored) : ObjectReference where
  objectId := "object"
  kind := "payload"
  sha256 := documents.sha256 stored
  sizeBytes := 1
  tenantId := "tenant"
  linkAccountId := "account"
  conversationScopeHash := .text "scope"

/-- The object store holds the payload and takes what is put; the rest is not reached. -/
def outside : DeliveryOutside Stored Unit
  | .getReference _ => fun u => (.ok (some (reference .payload)), u)
  | .readBytes _ => fun u => (.ok .payload, u)
  | .putBytes raw _ _ => fun u => (.ok (reference raw), u)
  | _ => fun u => (.error (.raised "unreachable"), u)

def intent : OutboxIntent where
  outboxId := "outbox"
  effectId := "delivery effect"
  requestId := "request"
  runId := "run"
  generation := 1
  destinationComponentId := .communicationService
  intentKind := .delivery
  payloadObjectId := "payload"
  payloadSha256 := .sha256 (.text "payload")
  createdAtMs := 6

def row : OutboxRow := ⟨intent, 0, 6, .pending⟩

lemma firstRevision : 1 = 1 ↔ (none : Option Canon) = none := by decide

def claim : EffectClaim :=
  EffectClaim.withComputedSha256
    { effectId := "effect", requestId := "request", runId := "run", runSequence := 1,
      generation := 1, effectKind := .execution, ordinal := 0, intentSha256 := "00",
      pipelineVersion := "unspecified", attempt := 1, claimRevision := 1, leaseEpoch := 1,
      supersedesClaimSha256 := none, ownerComponentId := .backend, claimedAtMs := 2,
      claimSha256 := .null, revision_chain := firstRevision }

lemma noErrorCode : (none : Option String).isSome = EffectStatus.succeeded.needsErrorCode := rfl

/-- The execution succeeded. -/
def effect : EffectRow :=
  ⟨claim, .finished (some 3) <| EffectResult.withComputedSha256
    { resultId := "result", effectId := "effect", status := .succeeded, factId := "fact",
      resultObjectId := none, resultObjectSha256 := none, evidenceSha256 := .null,
      errorCode := none, observedAtMs := 4, resultSha256 := .null,
      object_complete := noObject_complete, errorCode_iff := noErrorCode }⟩

def generation : GenerationLease :=
  ⟨"request", "run", 1, 1, "worker", .cancelled, 2, 7, .cancelled⟩

/-- A pending delivery of a request that was cancelled after it was planned. -/
def store : DeliveryStore where
  outbox := ⟨⟨[row], nodup_singleton _⟩, nodup_singleton _⟩
  boundaries := .empty
  requests := ⟨[⟨"request", "session"⟩], nodup_singleton _⟩
  effects := ⟨[effect], nodup_singleton _⟩
  generations := ⟨[generation], nodup_singleton _⟩

theorem first : (GatewayDeliveryOutboxWorker.dispatchableDeliveries store 10).head? = some row := rfl

theorem cancelled : store.Cancelled intent := by
  intro g hg
  obtain rfl : generation = g := by
    have : store.generations.find "request" = some generation := rfl
    exact Option.some.inj (this.symm.trans hg)
  rintro ⟨h, -⟩
  cases h

end CancelledSample

open GatewayDeliveryOutboxWorker (Unwedges)

/-- The cancelled delivery is not settled. -/
theorem dispatchNext_not_unwedges_pending :
    ¬ Unwedges CancelledSample.worker CancelledSample.outside 10 (CancelledSample.store, ())
      "outbox" :=
  GatewayDeliveryOutboxWorker.dispatchNext_not_unwedges CancelledSample.worker CancelledSample.outside 10
    (CancelledSample.store, ()) CancelledSample.row CancelledSample.first
    CancelledSample.cancelled

/-- Everything about the delivery is in order but its generation; the dispatch raises the refusal
of its own ambiguity, and leaves the intent claimed. -/
theorem cancelledDelivery_raises :
    let reply := ((CancelledSample.worker.dispatchNext 10).run CancelledSample.outside.handle).on
      (CancelledSample.store, ())
    reply.1 = .error (.store (.conflict "outbox has not crossed the dispatch boundary")) ∧
      (reply.2.1.outbox.find "outbox").map OutboxRow.state = some .claimed ∧
      ¬ Unwedges CancelledSample.worker CancelledSample.outside 10 (CancelledSample.store, ())
        "outbox" := by
  intro reply
  have herror : reply.1 =
      .error (.store (.conflict "outbox has not crossed the dispatch boundary")) := rfl
  refine ⟨herror, rfl, ?_⟩
  rintro ⟨hreturned, -⟩
  have hraised : reply.1.toBool = true := hreturned
  rw [herror] at hraised
  cases hraised

end Tiangong
