import Tiangong.CancelledDeliveries

/-!
# Deliveries and life publications in one outbox

The worker of the deliveries takes the first dispatchable row of the outbox, whatever its kind. It
serves the deliveries as if they were alone exactly when that row is one, or a recorded result is
finalized first; else it claims a row that is not its own, and raises.
-/
open List

namespace Tiangong

open CancelledSample Program DeliveryAction IndexedTable

open Discipline (Stays)

variable {Raw Ω : Type}

/-- The action claims or settles the row of an intent. -/
def DeliveryAction.touches (outboxId : String) : DeliveryAction Raw → Bool
  | .claimOutbox claimed _ _ _ => claimed = outboxId
  | a => a.settles outboxId

namespace DeliveryStore

variable {s s' : DeliveryStore} {o : String}

lemma transact_untouched {α : Type} {op : DeliveryStore → Except StoreError (α × DeliveryStore)}
    (hop : ∀ s'' a, op s = .ok (a, s'') → s''.outbox.find o = s.outbox.find o) :
    ((transact op).on s).2.outbox.find o = s.outbox.find o := by
  rcases hr : (transact op).on s with ⟨r, s''⟩
  rcases transact_eq hr with ⟨a, hok, -⟩ | ⟨e, -, rfl⟩
  · exact hop s'' a hok
  · rfl

/-- A row changes only when it is claimed or settled. -/
lemma answer_untouched {a : DeliveryAction Raw}
    {oracle : (a : DeliveryAction Raw) → Except DeliveryError a.Answer}
    (h : a.touches o = false) : ((answer oracle a).on s).2.outbox.find o = s.outbox.find o := by
  cases a with
  | claimOutbox id worker nowMs leaseMs =>
    refine transact_untouched fun _ _ hok => ?_
    obtain ⟨old, -, ⟨-, -, rfl⟩ | ⟨-, -, -, -, -, -, hfind⟩⟩ := claimOutbox_cases hok
    · rfl
    · have hne : o ≠ id := Ne.symm (of_decide_eq_false h)
      rw [hfind, if_neg hne]
  | markOutboxDispatchStarted id worker epoch ticketObject ticket startedAtMs =>
    refine transact_untouched fun _ _ hok => ?_
    rw [(markOutboxDispatchStarted_frame hok).1]
  | markExpiredOutboxAmbiguous id atMs object sha256 =>
    exact transact_untouched fun _ _ hok =>
      (markExpiredOutboxAmbiguous_settles hok).others o (Ne.symm (of_decide_eq_false h))
  | recordOutboxDispatchResult id worker outcome object sha256 atMs =>
    exact transact_untouched fun _ _ hok =>
      (recordOutboxDispatchResult_settles hok).others o (Ne.symm (of_decide_eq_false h))
  | markOutboxFinalized id fin release =>
    refine transact_untouched fun _ _ hok => ?_
    rw [(markOutboxFinalized_cases hok).1]
  | _ => rfl

/-- The identity that a claim accepts. -/
def ValidWorkerId (workerId : String) : Prop := workerId ≠ "" ∧ workerId.length ≤ 160

instance decidableValidWorkerId (workerId : String) : Decidable (ValidWorkerId workerId) :=
  instDecidableAnd

lemma claimOutbox_of_claimable {row : OutboxRow} {workerId : String} {nowMs : ℕ}
    (hworker : ValidWorkerId workerId) (hrow : row ∈ s.outbox.rows)
    (hclaimable : row.claimable nowMs = true) :
    ∃ s', s.claimOutbox row.outboxId workerId nowMs 120000 =
        .ok (row.claim workerId (nowMs + 120000), s') ∧
      s'.outbox.find row.outboxId = some (row.claim workerId (nowMs + 120000)) := by
  have hfind : s.outbox.find row.outboxId = some row := find_of_mem hrow
  have hopen : row.progress.isSettled = false := by
    cases hp : row.progress with
    | pending => rfl
    | claimed worker expires => rfl
    | settled outcome worker expires atMs sha256 => simp [OutboxRow.claimable, hp] at hclaimable
  obtain ⟨hnonempty, hshort⟩ := hworker
  obtain ⟨outbox, hupdate⟩ : ∃ outbox, s.outbox.updateOne
      (StoreError.casConflict "outbox changed before claim")
      (fun r => r.outboxId = row.outboxId &&
        (r.state = row.state && r.attemptCount = row.attemptCount))
      (OutboxRow.claim workerId (nowMs + 120000)) (fun _ => rfl) (fun _ => rfl) = .ok outbox := by
    refine ⟨_, updateOne_of_find hfind ?_⟩
    simp
  have hupdated := (updateOne_find hupdate hfind).2 row.outboxId
  rw [if_pos rfl] at hupdated
  refine ⟨{ s with outbox := outbox }, ?_, hupdated⟩
  simp only [claimOutbox, eq_ok_iff]
  refine ⟨by simp [hnonempty]; omega, row, hfind, ?_⟩
  rw [if_neg (by simp [hopen])]
  simp only [eq_ok_iff]
  exact ⟨by simp [hclaimable], outbox, hupdate, rfl⟩

end DeliveryStore

namespace OutboxRow

lemma before_total (r r' : OutboxRow) : r.before r' = true ∨ r'.before r = true := by
  simp only [before, Bool.or_eq_true, holds_iff]
  rcases Nat.lt_trichotomy r.availableAtMs r'.availableAtMs with h | h | h
  · exact .inl (.inl h)
  · rcases String.le_total r.outboxId r'.outboxId with hid | hid
    · exact .inl (.inr ⟨h, hid⟩)
    · exact .inr (.inr ⟨h.symm, hid⟩)
  · exact .inr (.inl h)

lemma before_trans (r r' r'' : OutboxRow) (h : r.before r' = true) (h' : r'.before r'' = true) :
    r.before r'' = true := by
  simp only [before, Bool.or_eq_true, holds_iff] at *
  rcases h with h | ⟨h, hid⟩
  · rcases h' with h' | ⟨h', -⟩
    · omega
    · omega
  · rcases h' with h' | ⟨h', hid'⟩
    · omega
    · exact .inr ⟨h.trans h', String.le_trans hid hid'⟩

lemma before_antisymm {r r' : OutboxRow} (h : r.before r' = true) (h' : r'.before r = true) :
    r.outboxId = r'.outboxId := by
  simp only [before, Bool.or_eq_true, holds_iff] at *
  rcases h with h | ⟨h, hid⟩
  · omega
  · rcases h' with h' | ⟨-, hid'⟩
    · omega
    · exact String.le_antisymm hid hid'

end OutboxRow

namespace DeliveryStore

variable {s : DeliveryStore} {row : OutboxRow} {nowMs : ℕ}

/-- The first recorded result that awaits its finalization. -/
def firstUnfinalized (s : DeliveryStore) : Option OutboxDispatchBoundary :=
  ((s.listUnfinalizedOutboxResults 1).toOption.getD []).head?

def firstDispatchable (s : DeliveryStore) (nowMs : ℕ) : Option OutboxRow :=
  ((s.listDispatchableOutbox nowMs 1).toOption.getD []).head?

def firstDelivery (s : DeliveryStore) (nowMs : ℕ) : Option OutboxRow :=
  (GatewayDeliveryOutboxWorker.dispatchableDeliveries s nowMs).head?

/-- The first of some rows of the table, in the order of the dispatch queries. -/
lemma head?_orderBy_filter {p : OutboxRow → Bool} :
    (orderBy OutboxRow.before (s.outbox.rows.filter p)).head? = some row ↔
      row ∈ s.outbox.rows ∧ p row = true ∧
        ∀ r ∈ s.outbox.rows, p r = true → row.before r = true := by
  have hsorted := orderBy_pairwise OutboxRow.before_total OutboxRow.before_trans
    (s.outbox.rows.filter p)
  have hmem : ∀ r, r ∈ orderBy OutboxRow.before (s.outbox.rows.filter p) ↔
      r ∈ s.outbox.rows ∧ p r = true := by
    intro r
    rw [mem_orderBy, mem_filter]
  generalize orderBy OutboxRow.before (s.outbox.rows.filter p) = sorted at hsorted hmem
  cases sorted with
  | nil =>
    constructor
    · intro h
      cases h
    · rintro ⟨hrow, hp, -⟩
      cases (hmem row).mpr ⟨hrow, hp⟩
  | cons first rest =>
    rw [List.head?_cons, Option.some.injEq]
    have hfirst := (hmem first).mp mem_cons_self
    have hleast : ∀ r ∈ s.outbox.rows, p r = true → first.before r = true := by
      intro r hr hp
      rcases mem_cons.mp ((hmem r).mpr ⟨hr, hp⟩) with rfl | hrest
      · simpa using OutboxRow.before_total r r
      · exact (pairwise_cons.mp hsorted).1 r hrest
    constructor
    · rintro rfl
      exact ⟨hfirst.1, hfirst.2, hleast⟩
    · rintro ⟨hrow, hp, hbefore⟩
      have hsame := OutboxRow.before_antisymm (hleast row hrow hp)
        (hbefore first hfirst.1 hfirst.2)
      exact s.outbox.table.eq_of_key_eq hfirst.1 hrow hsame

lemma listDispatchableOutbox_one (s : DeliveryStore) (nowMs : ℕ) :
    s.listDispatchableOutbox nowMs 1 =
      .ok ((orderBy OutboxRow.before (s.outbox.rows.filter (·.claimable nowMs))).take 1) := rfl

lemma firstDispatchable_eq_some : s.firstDispatchable nowMs = some row ↔
    row ∈ s.outbox.rows ∧ row.claimable nowMs = true ∧
      ∀ r ∈ s.outbox.rows, r.claimable nowMs = true → row.before r = true := by
  have h := @head?_orderBy_filter s row fun r => r.claimable nowMs
  rw [← h, firstDispatchable, listDispatchableOutbox_one]
  simp [Except.toOption, List.head?_take]

lemma firstDelivery_eq_some : s.firstDelivery nowMs = some row ↔
    row ∈ s.outbox.rows ∧ (row.claimable nowMs = true ∧ row.intent.intentKind = .delivery) ∧
      ∀ r ∈ s.outbox.rows, (r.claimable nowMs = true ∧ r.intent.intentKind = .delivery) →
        row.before r = true := by
  have h := @head?_orderBy_filter s row
    fun r => r.claimable nowMs && r.intent.intentKind = .delivery
  simp only [holds_iff] at h
  exact h

lemma exists_firstDispatchable (hrow : row ∈ s.outbox.rows) (h : row.claimable nowMs = true) :
    ∃ first, s.firstDispatchable nowMs = some first := by
  cases hfirst : s.firstDispatchable nowMs with
  | some first => exact ⟨first, rfl⟩
  | none =>
    rw [firstDispatchable, listDispatchableOutbox_one] at hfirst
    have hnil : orderBy OutboxRow.before (s.outbox.rows.filter (·.claimable nowMs)) = [] := by
      simpa [Except.toOption, List.head?_take] using hfirst
    have hmem : row ∈ orderBy OutboxRow.before (s.outbox.rows.filter (·.claimable nowMs)) :=
      mem_orderBy.mpr (mem_filter.mpr ⟨hrow, h⟩)
    rw [hnil] at hmem
    cases hmem

lemma firstDelivery_eq (h : ∀ first, s.firstDispatchable nowMs = some first →
    first.intent.intentKind = .delivery) : s.firstDelivery nowMs = s.firstDispatchable nowMs := by
  ext row
  rw [firstDelivery_eq_some, firstDispatchable_eq_some]
  constructor
  · rintro ⟨hrow, ⟨hclaimable, -⟩, hleast⟩
    obtain ⟨first, hfirst⟩ := exists_firstDispatchable hrow hclaimable
    have hkind := h first hfirst
    obtain ⟨hfirstRow, hfirstClaimable, hfirstLeast⟩ := firstDispatchable_eq_some.mp hfirst
    have hbefore := hleast first hfirstRow ⟨hfirstClaimable, hkind⟩
    exact ⟨hrow, hclaimable, fun r hr hc =>
      OutboxRow.before_trans _ _ _ hbefore (hfirstLeast r hr hc)⟩
  · rintro ⟨hrow, hclaimable, hleast⟩
    have hkind := h row (firstDispatchable_eq_some.mpr ⟨hrow, hclaimable, hleast⟩)
    exact ⟨hrow, ⟨hclaimable, hkind⟩, fun r hr hc => hleast r hr hc.1⟩

end DeliveryStore

namespace GatewayDeliveryOutboxWorker

variable {worker : GatewayDeliveryOutboxWorker Raw} {outside : DeliveryOutside Raw Ω}
  {s : DeliveryStore} {ω : Ω} {nowMs : ℕ} {row : OutboxRow}

/-- The world outside after the dispatch asked for recorded results. -/
def afterResults (outside : DeliveryOutside Raw Ω) (ω : Ω) : Ω :=
  ((outside (.listUnfinalizedOutboxResults 1)).on ω).2

/-- The world outside after the dispatch asked for dispatchable rows as well. -/
def afterQueries (outside : DeliveryOutside Raw Ω) (nowMs : ℕ) (ω : Ω) : Ω :=
  ((outside (.listDispatchableOutbox nowMs 1)).on (afterResults outside ω)).2

lemma run_listUnfinalized (outside : DeliveryOutside Raw Ω) (s : DeliveryStore) (ω : Ω) :
    ∃ results, results.head? = s.firstUnfinalized ∧
      ((perform (.listUnfinalizedOutboxResults 1) : DeliveryProgram Raw _).run outside.handle).on
        (s, ω) = (.ok results, s, afterResults outside ω) := by
  refine ⟨_, rfl, ?_⟩
  rw [perform, run_perform]
  rfl

lemma run_listDispatchable (outside : DeliveryOutside Raw Ω) (s : DeliveryStore) (nowMs : ℕ)
    (ω : Ω) : ∃ rows, rows.head? = s.firstDispatchable nowMs ∧
      ((perform (.listDispatchableOutbox nowMs 1) : DeliveryProgram Raw _).run outside.handle).on
        (s, afterResults outside ω) = (.ok rows, s, afterQueries outside nowMs ω) := by
  refine ⟨_, rfl, ?_⟩
  rw [perform, run_perform]
  rfl

/-- What a dispatch does to a row that it neither claims nor settles. -/
lemma find_of_stays {α : Type} {x : DeliveryProgram Raw α} {o : String} {t : DeliveryStore × Ω}
    (hx : (onlyActions fun a : DeliveryAction Raw => !a.touches o).Stays () x) :
    ((x.run outside.handle).on t).2.1.outbox.find o = t.1.outbox.find o :=
  Discipline.Keeps.run (h := outside.handle)
    (J := fun t' : DeliveryStore × Ω => t'.1.outbox.find o = t.1.outbox.find o)
    (fun _ _ _ ht hallows => (DeliveryStore.answer_untouched
      (by simpa [onlyActions] using hallows)).trans ht) hx rfl

variable {o : String}

lemma avoids_reads (a : DeliveryAction Raw) (h : a.reads = true) :
    (onlyActions fun a : DeliveryAction Raw => !a.touches o).Free () a := by
  cases a <;> first
    | exact onlyActions_free rfl
    | cases h

lemma avoids_finalizes (a : DeliveryAction Raw) (h : a.finalizes = true) :
    (onlyActions fun a : DeliveryAction Raw => !a.touches o).Free () a := by
  cases a <;> first
    | exact onlyActions_free rfl
    | cases h

lemma avoids_sends (a : DeliveryAction Raw) (h : a.sends = true) :
    (onlyActions fun a : DeliveryAction Raw => !a.touches o).Free () a := by
  cases a <;> first
    | exact onlyActions_free rfl
    | cases h

lemma avoids_settles {id : String} (hne : id ≠ o) (a : DeliveryAction Raw)
    (h : a.settles id = true) :
    (onlyActions fun a : DeliveryAction Raw => !a.touches o).Free () a := by
  refine onlyActions_free ?_
  cases a with
  | markExpiredOutboxAmbiguous id' atMs object sha256 =>
    obtain rfl : id' = id := of_decide_eq_true h
    simpa [DeliveryAction.touches, settles] using hne
  | recordOutboxDispatchResult id' worker outcome object sha256 atMs =>
    obtain rfl : id' = id := of_decide_eq_true h
    simpa [DeliveryAction.touches, settles] using hne
  | _ => cases h

lemma avoids_abandons {id : String} (hne : id ≠ o) (a : DeliveryAction Raw)
    (h : a.abandons id nowMs = true) :
    (onlyActions fun a : DeliveryAction Raw => !a.touches o).Free () a := by
  refine avoids_settles hne a ?_
  cases a with
  | markExpiredOutboxAmbiguous id' atMs object sha256 =>
    simp only [abandons, Bool.and_eq_true] at h
    exact h.1
  | _ => cases h

/-- The claim answers with the row that is asked for. -/
lemma run_claim_id {t t' : DeliveryStore × Ω} {id workerId : String} {leaseMs : ℕ}
    {claimed : OutboxRow}
    (h : ((perform (.claimOutbox id workerId nowMs leaseMs) : DeliveryProgram Raw _).run
      outside.handle).on t = (.ok claimed, t')) : claimed.outboxId = id := by
  rw [perform, run_perform] at h
  obtain ⟨hanswer, hstate⟩ := Prod.mk.inj h
  have hreply : (DeliveryStore.transact fun s =>
      s.claimOutbox id workerId nowMs leaseMs).on t.1 = (.ok claimed, t'.1) :=
    Prod.ext hanswer (congrArg Prod.fst hstate)
  rcases DeliveryStore.transact_eq hreply with ⟨found, hfound, heq⟩ | ⟨e, heq, -⟩
  · cases heq
    exact DeliveryStore.claimOutbox_id hfound
  · cases heq

/-- Nothing outside the delivery tables answers. -/
def deaf (Raw : Type) : DeliveryOutside Raw Unit := fun _ u => (.error .assertion, u)

lemma run_boundary {row : OutboxRow} (t : DeliveryStore × Unit) :
    ((perform (.getOutboxDispatchBoundary row.outboxId) : DeliveryProgram Raw _).run
      (deaf Raw).handle).on t = (.ok (t.1.getOutboxDispatchBoundary row.outboxId), t) := by
  rw [perform, run_perform]
  rfl

lemma run_claim (hworker : DeliveryStore.ValidWorkerId worker.workerId)
    (hrow : row ∈ s.outbox.rows) (hclaimable : row.claimable nowMs = true) :
    ∃ t', ((perform (.claimOutbox row.outboxId worker.workerId nowMs 120000) :
        DeliveryProgram Raw _).run (deaf Raw).handle).on (s, ()) =
          (.ok (row.claim worker.workerId (nowMs + 120000)), t') ∧
      t'.1.outbox.find row.outboxId = some (row.claim worker.workerId (nowMs + 120000)) := by
  obtain ⟨s', hclaim, hfind⟩ := DeliveryStore.claimOutbox_of_claimable hworker hrow hclaimable
  refine ⟨(s', ()), ?_, hfind⟩
  have hreply : (DeliveryStore.transact fun s =>
      s.claimOutbox row.outboxId worker.workerId nowMs 120000).on s =
        (.ok (row.claim worker.workerId (nowMs + 120000)), s') :=
    Call.on_transaction_of_ok (by
      show (s.claimOutbox row.outboxId worker.workerId nowMs 120000).mapError _ = _
      rw [hclaim]
      rfl)
  rw [perform, run_perform]
  show (((DeliveryStore.transact fun s =>
      s.claimOutbox row.outboxId worker.workerId nowMs 120000).on s).1,
    ((DeliveryStore.transact fun s =>
      s.claimOutbox row.outboxId worker.workerId nowMs 120000).on s).2, ()) = _
  rw [hreply]

variable [DecidableEq Raw]

/-- A recorded result is finalized before anything else. -/
lemma run_dispatchNext_of_result {boundary : OutboxDispatchBoundary}
    (h : s.firstUnfinalized = some boundary) :
    ((worker.dispatchNext nowMs).run outside.handle).on (s, ω) =
      (((worker.finalize boundary nowMs) >>= fun _ => pure true).run outside.handle).on
        (s, afterResults outside ω) := by
  obtain ⟨results, hhead, hrun⟩ := run_listUnfinalized outside s ω
  rw [dispatchNext, run_bind_of_ok hrun]
  cases results with
  | nil =>
    rw [h] at hhead
    cases hhead
  | cons first rest =>
    rw [h, List.head?_cons, Option.some.injEq] at hhead
    rw [hhead]

lemma run_dispatchNext (h : s.firstUnfinalized = none) :
    ((worker.dispatchNext nowMs).run outside.handle).on (s, ω) =
      match s.firstDispatchable nowMs with
      | none => (.ok false, s, afterQueries outside nowMs ω)
      | some row => ((worker.dispatchCandidate row nowMs).run outside.handle).on
          (s, afterQueries outside nowMs ω) := by
  obtain ⟨results, hresults, hrun⟩ := run_listUnfinalized outside s ω
  obtain ⟨rows, hrows, hquery⟩ := run_listDispatchable outside s nowMs ω
  rw [dispatchNext, run_bind_of_ok hrun]
  cases results with
  | cons first rest =>
    rw [h] at hresults
    cases hresults
  | nil =>
    rw [run_bind_of_ok hquery, ← hrows]
    cases rows with
    | nil => rfl
    | cons first rest => rfl

lemma dispatchCandidate_spares {t : DeliveryStore × Ω} (hne : row.outboxId ≠ o) :
    (((worker.dispatchCandidate row nowMs).run outside.handle).on t).2.1.outbox.find o =
      t.1.outbox.find o := by
  have hboundary : (onlyActions fun a : DeliveryAction Raw => !a.touches o).Stays ()
      (perform (.getOutboxDispatchBoundary row.outboxId)) := stays_reads avoids_reads rfl
  rcases hlookup : ((perform (.getOutboxDispatchBoundary row.outboxId) :
    DeliveryProgram Raw _).run outside.handle).on t with ⟨e | boundary, t1⟩
  · rw [dispatchCandidate, run_bind_of_error hlookup]
    have hsame := @find_of_stays _ _ outside _ _ o t hboundary
    rwa [hlookup] at hsame
  · have ht1 : t1.1.outbox.find o = t.1.outbox.find o := by
      have hsame := @find_of_stays _ _ outside _ _ o t hboundary
      rwa [hlookup] at hsame
    rw [dispatchCandidate, run_bind_of_ok hlookup, ← ht1]
    split
    · exact find_of_stays
        (recoverOrphan_stays avoids_reads avoids_finalizes row (avoids_settles hne) _ _)
    · have hclaim : (onlyActions fun a : DeliveryAction Raw => !a.touches o).Stays ()
          (perform (.claimOutbox row.outboxId worker.workerId nowMs 120000)) := by
        refine stays_free (onlyActions_free ?_)
        simpa [DeliveryAction.touches] using hne
      have hkept := @find_of_stays _ _ outside _ _ o t1 hclaim
      rcases hrun : ((perform (.claimOutbox row.outboxId worker.workerId nowMs 120000) :
        DeliveryProgram Raw _).run outside.handle).on t1 with ⟨e | claimed, t2⟩
      · rw [claimAndDispatch, run_bind_of_error hrun]
        rwa [hrun] at hkept
      · rw [hrun] at hkept
        rw [claimAndDispatch, run_bind_of_ok hrun, ← hkept]
        have hclaimed : claimed.outboxId ≠ o := by rwa [run_claim_id hrun]
        apply find_of_stays
        refine Stays.bind (loadClaimed_stays avoids_reads claimed nowMs
          (avoids_abandons hclaimed)) fun loaded => ?_
        cases loaded with
        | none => exact Discipline.stays_done true
        | some payload =>
          exact dispatchClaimed_stays avoids_reads avoids_finalizes avoids_sends claimed
            (avoids_settles hclaimed) payload nowMs

/-- A dispatch does not touch life publications, and processes the first dispatchable delivery as
if there were no other row; without one it answers that there is none. -/
structure ServesDeliveries (worker : GatewayDeliveryOutboxWorker Raw)
    (outside : DeliveryOutside Raw Ω) (nowMs : ℕ) (s : DeliveryStore) (ω : Ω) : Prop where
  untouched : ∀ row ∈ s.outbox.rows, row.intent.intentKind = .lifeEvent →
    (((worker.dispatchNext nowMs).run outside.handle).on (s, ω)).2.1.outbox.find row.outboxId =
      some row
  processes : s.firstUnfinalized = none → ∀ row, s.firstDelivery nowMs = some row →
    ((worker.dispatchNext nowMs).run outside.handle).on (s, ω) =
      ((worker.dispatchCandidate row nowMs).run outside.handle).on
        (s, afterQueries outside nowMs ω)
  idles : s.firstUnfinalized = none → s.firstDelivery nowMs = none →
    (((worker.dispatchNext nowMs).run outside.handle).on (s, ω)).1 = .ok false

/-- Unless a recorded result is finalized first, the first dispatchable row is a delivery. -/
def DeliveryFirst (s : DeliveryStore) (nowMs : ℕ) : Prop :=
  s.firstUnfinalized = none → ∀ row, s.firstDispatchable nowMs = some row →
    row.intent.intentKind = .delivery

lemma servesDeliveries_of_deliveryFirst (h : DeliveryFirst s nowMs) :
    ServesDeliveries worker outside nowMs s ω where
  untouched := by
    intro row hrow hkind
    have hfind : s.outbox.find row.outboxId = some row := find_of_mem hrow
    rw [← hfind]
    cases hresult : s.firstUnfinalized with
    | some boundary =>
      rw [run_dispatchNext_of_result hresult]
      refine find_of_stays (t := (s, afterResults outside ω)) ?_
      exact Stays.bind (finalize_stays avoids_reads avoids_finalizes boundary nowMs) fun _ =>
        Discipline.stays_done true
    | none =>
      rw [run_dispatchNext hresult]
      cases hfirst : s.firstDispatchable nowMs with
      | none => rfl
      | some first =>
        have hdelivery := h hresult first hfirst
        have hmem := (DeliveryStore.firstDispatchable_eq_some.mp hfirst).1
        have hne : first.outboxId ≠ row.outboxId := by
          intro hsame
          obtain rfl := s.outbox.table.eq_of_key_eq hmem hrow hsame
          rw [hkind] at hdelivery
          cases hdelivery
        exact dispatchCandidate_spares hne
  processes := by
    intro hresult row hrow
    rw [DeliveryStore.firstDelivery_eq (h hresult)] at hrow
    rw [run_dispatchNext hresult, hrow]
  idles := by
    intro hresult hnone
    rw [DeliveryStore.firstDelivery_eq (h hresult)] at hnone
    rw [run_dispatchNext hresult, hnone]

variable {t : DeliveryStore × Unit}

/-- The payload of a row that is no delivery is refused at once. -/
lemma loadPayload_foreign {record : OutboxRow} (h : record.intent.intentKind ≠ .delivery) :
    ((worker.loadPayload record).run (deaf Raw).handle).on t =
      (.error (.outbox "delivery_outbox.intent.invalid"), t) := by
  unfold loadPayload refuseIf
  simp only [h, ne_eq, not_false_eq_true, true_or, if_true]
  rfl

lemma loadPayload_deaf {record : OutboxRow} (h : record.intent.intentKind = .delivery)
    (hdestination : record.intent.destinationComponentId = .communicationService) :
    ((worker.loadPayload record).run (deaf Raw).handle).on t = (.error .assertion, t) := by
  unfold loadPayload refuseIf
  simp only [h, hdestination, ne_eq, not_true_eq_false, or_self, if_false]
  rfl

lemma loadClaimed_foreign {claimed : OutboxRow} (h : claimed.intent.intentKind ≠ .delivery) :
    ∃ e, ((worker.loadClaimed claimed nowMs).run (deaf Raw).handle).on t = (.error e, t) := by
  rw [loadClaimed, run_catching, run_bind_of_error (loadPayload_foreign h)]
  have hgeneration : ((perform (.getGeneration claimed.intent.requestId) :
      DeliveryProgram Raw _).run (deaf Raw).handle).on t =
        (.ok (t.1.generations.find claimed.intent.requestId), t) := by
    rw [perform, run_perform]
    rfl
  simp only
  rw [run_bind_of_ok hgeneration]
  unfold refuseIf
  split
  · exact ⟨_, rfl⟩
  · exact ⟨_, rfl⟩

/-- The dispatch of a delivery meets the world that answers nothing. -/
lemma dispatchCandidate_deaf (hworker : DeliveryStore.ValidWorkerId worker.workerId)
    (hrow : row ∈ s.outbox.rows) (hclaimable : row.claimable nowMs = true)
    (hkind : row.intent.intentKind = .delivery)
    (hdestination : row.intent.destinationComponentId = .communicationService) :
    (((worker.dispatchCandidate row nowMs).run (deaf Raw).handle).on (s, ())).1 =
      .error .assertion := by
  rw [dispatchCandidate, run_bind_of_ok (run_boundary (s, ()))]
  split
  · rw [recoverOrphan, run_bind_of_error (loadPayload_deaf hkind hdestination)]
  · obtain ⟨t', hrun, -⟩ := run_claim hworker hrow hclaimable
    have hload : ((worker.loadClaimed (row.claim worker.workerId (nowMs + 120000)) nowMs).run
        (deaf Raw).handle).on t' = (.error .assertion, t') := by
      have hpayload : ((worker.loadPayload (row.claim worker.workerId (nowMs + 120000))).run
          (deaf Raw).handle).on t' = (.error .assertion, t') :=
        loadPayload_deaf hkind hdestination
      rw [loadClaimed, run_catching, run_bind_of_error hpayload]
      rfl
    rw [claimAndDispatch, run_bind_of_ok hrun, run_bind_of_error hload]

/-- The dispatch of another row refuses it at once, or claims it and raises. -/
lemma dispatchCandidate_foreign (hworker : DeliveryStore.ValidWorkerId worker.workerId)
    (hrow : row ∈ s.outbox.rows) (hclaimable : row.claimable nowMs = true)
    (hkind : row.intent.intentKind ≠ .delivery) :
    (∃ t', ((worker.dispatchCandidate row nowMs).run (deaf Raw).handle).on (s, ()) =
        (.error (.outbox "delivery_outbox.intent.invalid"), t')) ∨
      ∃ e t', ((worker.dispatchCandidate row nowMs).run (deaf Raw).handle).on (s, ()) =
          (.error e, t') ∧ t'.1.outbox.find row.outboxId ≠ some row := by
  rw [dispatchCandidate, run_bind_of_ok (run_boundary (s, ()))]
  split
  · left
    rw [recoverOrphan, run_bind_of_error (loadPayload_foreign hkind)]
    exact ⟨(s, ()), rfl⟩
  · right
    obtain ⟨t', hrun, hfind⟩ := run_claim hworker hrow hclaimable
    obtain ⟨e, hload⟩ : ∃ e, ((worker.loadClaimed
        (row.claim worker.workerId (nowMs + 120000)) nowMs).run (deaf Raw).handle).on t' =
          (.error e, t') := loadClaimed_foreign hkind
    refine ⟨e, t', ?_, ?_⟩
    · rw [claimAndDispatch, run_bind_of_ok hrun, run_bind_of_error hload]
    · rw [hfind]
      intro hsame
      have hcount := congrArg OutboxRow.attemptCount (Option.some.inj hsame)
      simp [OutboxRow.claim] at hcount

/-- Every delivery of the outbox goes to the communication service. -/
def Addressed (s : DeliveryStore) : Prop :=
  ∀ row ∈ s.outbox.rows, row.intent.intentKind = .delivery →
    row.intent.destinationComponentId = .communicationService

/-- Deliveries are served as if they were alone exactly when one is first. -/
theorem servesDeliveries_iff (worker : GatewayDeliveryOutboxWorker Raw) (s : DeliveryStore)
    (nowMs : ℕ) (hworker : DeliveryStore.ValidWorkerId worker.workerId) (haddressed : Addressed s) :
    (∀ (Ω : Type) (outside : DeliveryOutside Raw Ω) (ω : Ω),
      ServesDeliveries worker outside nowMs s ω) ↔ DeliveryFirst s nowMs := by
  constructor
  · intro h hresult first hfirst
    by_contra hkind
    obtain ⟨hrow, hclaimable, -⟩ := DeliveryStore.firstDispatchable_eq_some.mp hfirst
    have hserves := h Unit (deaf Raw) ()
    have hrun : ((worker.dispatchNext nowMs).run (deaf Raw).handle).on (s, ()) =
        ((worker.dispatchCandidate first nowMs).run (deaf Raw).handle).on (s, ()) := by
      rw [run_dispatchNext hresult, hfirst]
    have hforeign := dispatchCandidate_foreign hworker hrow hclaimable hkind
    cases hdelivery : s.firstDelivery nowMs with
    | none =>
      have hidle := hserves.idles hresult hdelivery
      rw [hrun] at hidle
      rcases hforeign with ⟨t', herror⟩ | ⟨e, t', herror, -⟩
      · rw [herror] at hidle
        cases hidle
      · rw [herror] at hidle
        cases hidle
    | some row =>
      have hprocess := hserves.processes hresult row hdelivery
      obtain ⟨hmem, ⟨hready, hrowKind⟩, -⟩ := DeliveryStore.firstDelivery_eq_some.mp hdelivery
      rw [hrun] at hprocess
      rcases hforeign with ⟨t', herror⟩ | ⟨e, t', herror, hchanged⟩
      · have hdeaf := dispatchCandidate_deaf hworker hmem hready hrowKind
          (haddressed row hmem hrowKind)
        rw [show (s, ()) = (s, afterQueries (deaf Raw) nowMs ()) from rfl, ← hprocess,
          herror] at hdeaf
        cases hdeaf
      · have hne : row.outboxId ≠ first.outboxId := by
          intro hsame
          obtain rfl := s.outbox.table.eq_of_key_eq hmem hrow hsame
          exact hkind hrowKind
        have hspared : (((worker.dispatchCandidate row nowMs).run (deaf Raw).handle).on
            (s, afterQueries (deaf Raw) nowMs ())).2.1.outbox.find first.outboxId =
              s.outbox.find first.outboxId := dispatchCandidate_spares hne
        rw [← hprocess, herror] at hspared
        exact hchanged (hspared.trans (find_of_mem hrow))
  · intro h Ω outside ω
    exact servesDeliveries_of_deliveryFirst h

end GatewayDeliveryOutboxWorker

namespace SharedSample

def lifeIntent : OutboxIntent where
  outboxId := "life outbox"
  effectId := "life effect"
  requestId := "request"
  runId := "run"
  generation := 1
  destinationComponentId := .lifeService
  intentKind := .lifeEvent
  payloadObjectId := "ingress"
  payloadSha256 := .sha256 (.text "ingress")
  createdAtMs := 5

def lifeRow : OutboxRow := ⟨lifeIntent, 0, 5, .pending⟩

lemma outboxIds_nodup : ([lifeRow, row].map OutboxRow.outboxId).Nodup := by
  decide

lemma effectIds_nodup : ([lifeRow, row].map OutboxRow.effectId).Nodup := by
  decide

/-- A life publication that is available before a delivery of an active generation. -/
def store : DeliveryStore where
  outbox := ⟨⟨[lifeRow, row], outboxIds_nodup⟩, effectIds_nodup⟩
  boundaries := .empty
  requests := CancelledSample.store.requests
  effects := CancelledSample.store.effects
  generations :=
    ⟨[{ generation with status := .active, fenceState := .active }],
      nodup_singleton _⟩

end SharedSample

open GatewayDeliveryOutboxWorker (ServesDeliveries DeliveryFirst)

/-- The dispatch claims the life publication and raises; the delivery is not reached. -/
theorem lifeEvent_blocks_delivery :
    let reply := ((worker.dispatchNext 10).run outside.handle).on
      (SharedSample.store, ())
    reply.1 = .error (.outbox "delivery_outbox.intent.invalid") ∧
      (reply.2.1.outbox.find "life outbox").map OutboxRow.state = some .claimed ∧
      (reply.2.1.outbox.find "outbox").map OutboxRow.state = some .pending ∧
      ¬ ServesDeliveries worker outside 10 SharedSample.store
        () := by
  intro reply
  have hclaimed : (reply.2.1.outbox.find "life outbox").map OutboxRow.state = some .claimed := rfl
  refine ⟨rfl, hclaimed, rfl, fun h => ?_⟩
  have hsame : reply.2.1.outbox.find "life outbox" = some SharedSample.lifeRow :=
    h.untouched SharedSample.lifeRow mem_cons_self rfl
  rw [hsame] at hclaimed
  cases hclaimed

lemma sampleWorker_valid : DeliveryStore.ValidWorkerId worker.workerId := by
  decide

lemma sampleDelivery_addressed : GatewayDeliveryOutboxWorker.Addressed CancelledSample.store := by
  intro row hrow _
  rw [mem_singleton.mp hrow]
  rfl

/-- A delivery alone is served. -/
theorem delivery_alone_served :
    (∀ (Ω : Type) (outside : DeliveryOutside CancelledSample.Stored Ω) (ω : Ω),
      ServesDeliveries worker outside 10 CancelledSample.store ω) ↔
        DeliveryFirst CancelledSample.store 10 :=
  GatewayDeliveryOutboxWorker.servesDeliveries_iff worker CancelledSample.store 10
    sampleWorker_valid sampleDelivery_addressed

end Tiangong
