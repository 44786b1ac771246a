import Tiangong.OutboxStore

/-!
# The outbox as a table of leases

Each operation of the outbox is a move of the lease view: a claim takes a claimable row, a started
dispatch crosses a held one, and everything else only lets rows appear or settles claims.
-/
namespace Tiangong

namespace OutboxRow

variable {r : OutboxRow}

lemma standing_claimable {nowMs : ℕ} (h : r.claimable nowMs = true) :
    r.progress.standing.claimable nowMs := by
  unfold claimable at h
  unfold OutboxProgress.standing Standing.claimable
  cases hp : r.progress with
  | pending => trivial
  | claimed worker expires => simpa [hp] using h
  | settled outcome worker expires at_ sha256 => simp [hp] at h

theorem standing_of_isSettled (h : r.progress.isSettled = true) :
    r.progress.standing = .closed := by
  cases hp : r.progress with
  | pending => simp [hp, OutboxProgress.isSettled] at h
  | claimed worker expires => simp [hp, OutboxProgress.isSettled] at h
  | settled outcome worker expires at_ sha256 => rfl

lemma standing_of_state (h : r.state = .claimed) :
    ∃ expires, r.progress.standing = .held expires := by
  cases hp : r.progress with
  | pending => simp [state, hp, OutboxProgress.state] at h
  | claimed worker expires => exact ⟨expires, rfl⟩
  | settled outcome worker expires at_ sha256 =>
    cases outcome <;> simp [state, hp, OutboxProgress.state] at h

@[simp] theorem settle_standing (p : OutboxProgress) (outcome : OutboxOutcome) (atMs : ℕ)
    (sha256 : Canon) : (p.settle outcome atMs sha256).standing = match p.standing with
      | .held _ => .closed
      | st => st := by
  cases p <;> rfl

end OutboxRow

namespace DeliveryStore

variable {s s' : DeliveryStore} {o : String}

variable {row : OutboxRow}

theorem standing_of_find (h : s.outbox.find o = some row) :
    s.leases.standing o = row.progress.standing := by
  simp [leases, h]

variable {worker : String} {nowMs leaseMs : ℕ}

/-- An accepted claim finds the row settled and changes nothing, or rewrites it. -/
theorem claimOutbox_cases (h : s.claimOutbox o worker nowMs leaseMs = .ok (row, s')) :
    ∃ old, s.outbox.find o = some old ∧ ((old.progress.isSettled = true ∧ row = old ∧ s' = s) ∨
        (old.progress.isSettled = false ∧ old.claimable nowMs = true ∧ nowMs < nowMs + leaseMs ∧
          row = old.claim worker (nowMs + leaseMs) ∧ s'.boundaries = s.boundaries ∧
          s'.generations = s.generations ∧
          ∀ k, s'.outbox.find k = if k = o then some row else s.outbox.find k)) := by
  simp only [claimOutbox, eq_ok_iff] at h
  obtain ⟨hargs, old, hold, h⟩ := h
  refine ⟨old, hold, ?_⟩
  split at h
  · next hsettled =>
    cases h
    exact .inl ⟨hsettled, rfl, rfl⟩
  · next hopen =>
    simp only [eq_ok_iff] at h
    obtain ⟨hclaimable, outbox, hupdate, ⟨⟩⟩ := h
    refine .inr ⟨by simpa using hopen, by simpa using hclaimable, by omega, rfl, rfl, rfl, ?_⟩
    exact (IndexedTable.updateOne_find hupdate hold).2

/-- A claim either finds the row settled and changes nothing, or takes it. -/
theorem claimOutbox_leases (h : s.claimOutbox o worker nowMs leaseMs = .ok (row, s')) :
    (s' = s ∧ s.leases.standing o = .closed) ∨
      ((s.leases.standing o).claimable nowMs ∧ nowMs < nowMs + leaseMs ∧
        s'.leases = s.leases.put o (.held (nowMs + leaseMs))) := by
  obtain ⟨old, hold, ⟨hsettled, -, rfl⟩ | ⟨-, hclaimable, hlease, rfl, hboundaries, -, hfind⟩⟩ :=
    claimOutbox_cases h
  · exact .inl ⟨rfl, (standing_of_find hold).trans (OutboxRow.standing_of_isSettled hsettled)⟩
  · refine .inr ⟨?_, hlease, LeaseTable.ext (funext fun k => ?_) ?_⟩
    · rw [standing_of_find hold]
      exact OutboxRow.standing_claimable hclaimable
    · rw [LeaseTable.put_standing]
      simp only [leases, hfind]
      split <;> rfl
    · simp only [leases, hboundaries, LeaseTable.put_crossedAt]

theorem claimOutbox_id {o : String}
    (h : s.claimOutbox o worker nowMs leaseMs = .ok (row, s')) : row.outboxId = o := by
  obtain ⟨old, hold, ⟨-, rfl, -⟩ | ⟨-, -, -, rfl, -⟩⟩ := claimOutbox_cases h
  · exact Table.key_of_find hold
  · exact Table.key_of_find (r := old) hold

variable {b : OutboxDispatchBoundary}

/-- A started dispatch finds the row held, and its boundary crossed at the same time or not at
all. -/
theorem markOutboxDispatchStarted_leases {ticketObject : String} {epoch startedAtMs : ℕ}
    {ticket : Canon}
    (h : s.markOutboxDispatchStarted o worker epoch ticketObject ticket startedAtMs = .ok (b, s')) :
    (∃ expires, s.leases.standing o = .held expires) ∧ (s.leases.crossedAt o = some startedAtMs ∨
        (s.leases.crossedAt o = none ∧ s'.leases = s.leases.cross o startedAtMs)) := by
  simp only [markOutboxDispatchStarted, eq_ok_iff, not_or, Decidable.not_not] at h
  obtain ⟨-, row, hrow, ⟨hstate, -, -⟩, h⟩ := h
  refine ⟨by rw [standing_of_find hrow]; exact OutboxRow.standing_of_state hstate, ?_⟩
  split at h
  · next existing hexisting =>
    simp only [eq_ok_iff, Decidable.not_not] at h
    obtain ⟨hsha, -⟩ := h
    obtain ⟨hid, hstarted⟩ := OutboxDispatchBoundary.eq_of_boundarySha256 hsha
    left
    have hmem := List.mem_of_find?_eq_some hexisting
    have hfind : s.boundaries.find o = some existing := by
      rw [← show existing.outboxId = o from hid]
      exact Table.find_of_mem hmem
    simp only [leases, hfind, Option.map_some]
    exact congrArg some hstarted
  · simp only [eq_ok_iff] at h
    obtain ⟨boundaries, hinsert, ⟨⟩⟩ := h
    have hfresh := IndexedTable.insert_fresh hinsert
    refine .inr ⟨by simp only [leases]; rw [hfresh]; rfl, ?_⟩
    refine LeaseTable.ext rfl (funext fun o' => ?_)
    rw [LeaseTable.cross_crossedAt]
    simp only [leases, IndexedTable.find_insert hinsert, eq_comm (a := o')]
    split <;> rfl

theorem markOutboxDispatchStarted_frame {ticketObject : String} {epoch startedAtMs : ℕ}
    {ticket : Canon}
    (h : s.markOutboxDispatchStarted o worker epoch ticketObject ticket startedAtMs =
      .ok (b, s')) : s'.outbox = s.outbox ∧ s'.generations = s.generations := by
  simp only [markOutboxDispatchStarted, eq_ok_iff] at h
  obtain ⟨-, row, -, -, h⟩ := h
  split at h
  · simp only [eq_ok_iff] at h
    obtain ⟨-, ⟨⟩⟩ := h
    exact ⟨rfl, rfl⟩
  · simp only [eq_ok_iff] at h
    obtain ⟨boundaries, -, ⟨⟩⟩ := h
    exact ⟨rfl, rfl⟩

/-- The rows that changed were claimed and are settled, or are new; no boundary moved. -/
lemma settles_of_find
    (houtbox : ∀ o, s'.outbox.find o = s.outbox.find o ∨ s.outbox.find o = none ∨
      ∃ row outcome atMs sha256, s.outbox.find o = some row ∧
        s'.outbox.find o = some (row.settle outcome atMs sha256))
    (hboundaries : ∀ o, (s'.boundaries.find o).map (·.startedAtMs) =
      (s.boundaries.find o).map (·.startedAtMs)) : s.leases.Settles s'.leases := by
  refine ⟨funext hboundaries, fun o => ?_⟩
  rcases houtbox o with heq | hnone | ⟨row, outcome, atMs, sha256, hold, hnew⟩
  · simp [leases, heq]
  · simp [leases, hnone]
  · simp only [leases, hold, hnew, Option.map_some, Option.getD_some, OutboxRow.settle,
      OutboxRow.settle_standing]
    cases row.progress.standing <;> simp

/-- The row of one intent stays or is settled, and no boundary has crossed again. -/
structure SettlesRow (o : String) (s s' : DeliveryStore) : Prop where
  others : ∀ k, k ≠ o → s'.outbox.find k = s.outbox.find k
  row : s'.outbox.find o = s.outbox.find o ∨ ∃ row outcome atMs sha256,
    s.outbox.find o = some row ∧ s'.outbox.find o = some (row.settle outcome atMs sha256)
  started : ∀ k, (s'.boundaries.find k).map (·.startedAtMs) =
    (s.boundaries.find k).map (·.startedAtMs)
  generations : s'.generations = s.generations

theorem SettlesRow.refl : SettlesRow o s s :=
  ⟨fun _ _ => rfl, .inl rfl, fun _ => rfl, rfl⟩

theorem SettlesRow.leases (h : SettlesRow o s s') : s.leases.Settles s'.leases := by
  refine settles_of_find (fun k => ?_) h.started
  by_cases hk : k = o
  · rw [hk]
    exact h.row.imp_right .inr
  · exact .inl (h.others k hk)

variable {e : StoreError} {outcome : OutboxOutcome} {atMs : ℕ} {sha256 : Canon}

lemma find_of_settle {owned : OutboxRow → Bool} {outbox : IndexedTable OutboxRow.outboxId OutboxRow.effectId}
    (h : s.outbox.updateOne e (fun r => r.outboxId = o && owned r)
      (OutboxRow.settle outcome atMs sha256) (fun _ => rfl) (fun _ => rfl) = .ok outbox) :
    (∀ k, k ≠ o → outbox.find k = s.outbox.find k) ∧
      (outbox.find o = s.outbox.find o ∨ ∃ row outcome atMs sha256, s.outbox.find o = some row ∧
        outbox.find o = some (row.settle outcome atMs sha256)) := by
  cases hrow : s.outbox.find o with
  | some row =>
    have hfind := (IndexedTable.updateOne_find h hrow).2
    refine ⟨fun k hk => by rw [hfind, if_neg hk], .inr ⟨row, outcome, atMs, sha256, rfl, ?_⟩⟩
    rw [hfind, if_pos rfl]
  | none =>
    have hkept : ∀ k, outbox.find k = s.outbox.find k := by
      intro k
      rw [IndexedTable.find_updateOne h]
      cases hk : s.outbox.find k with
      | none => rfl
      | some row =>
        have hkey : row.outboxId = k := Table.key_of_find hk
        have hne : row.outboxId ≠ o := by
          rintro rfl
          rw [hkey, hk] at hrow
          cases hrow
        simp [hne]
    exact ⟨fun k _ => hkept k, .inl ((hkept o).trans hrow)⟩

/-- An update of boundaries that keeps the times of the crossings. -/
lemma startedAt_of_update {selected : OutboxDispatchBoundary → Bool}
    {f : OutboxDispatchBoundary → OutboxDispatchBoundary} {hf hc}
    {boundaries : IndexedTable OutboxDispatchBoundary.outboxId OutboxDispatchBoundary.effectId}
    (h : s.boundaries.updateOne e selected f hf hc = .ok boundaries)
    (hstarted : ∀ b, (f b).startedAtMs = b.startedAtMs) (o : String) :
    (boundaries.find o).map (·.startedAtMs) = (s.boundaries.find o).map (·.startedAtMs) := by
  rw [IndexedTable.find_updateOne h, Option.map_map]
  congr 1
  funext b
  by_cases hselected : selected b = true <;> simp [hselected, hstarted]

lemma settleBoth_settles {owned : OutboxRow → Bool} {result : BoundaryResult} {e' : StoreError}
    (h : s.settleBoth o owned outcome result e e' = .ok s') : SettlesRow o s s' := by
  simp only [settleBoth, eq_ok_iff] at h
  obtain ⟨outbox, houtbox, boundaries, hboundaries, ⟨⟩⟩ := h
  obtain ⟨hothers, hrow⟩ := find_of_settle houtbox
  exact ⟨hothers, hrow, startedAt_of_update hboundaries fun _ => rfl, rfl⟩

theorem insertIntent_leases {intent : OutboxIntent}
    (h : s.insertIntent intent = .ok (row, s')) : s.leases.Settles s'.leases := by
  simp only [insertIntent, eq_ok_iff] at h
  obtain ⟨outbox, hinsert, ⟨⟩⟩ := h
  refine settles_of_find (fun o => ?_) fun _ => rfl
  rw [IndexedTable.find_insert hinsert]
  split
  · next heq =>
    rw [← heq]
    exact .inr (.inl (IndexedTable.insert_fresh hinsert))
  · exact .inl rfl

theorem markExpiredOutboxAmbiguous_settles {object : String} (h : s.markExpiredOutboxAmbiguous o atMs object sha256 = .ok (row, s')) :
    SettlesRow o s s' := by
  simp only [markExpiredOutboxAmbiguous, eq_ok_iff] at h
  obtain ⟨-, old, -, h⟩ := h
  split at h
  · simp only [eq_ok_iff] at h
    obtain ⟨-, ⟨⟩⟩ := h
    exact .refl
  · simp only [eq_ok_iff] at h
    obtain ⟨boundary, -, -, s'', hboth, ⟨⟩⟩ := h
    exact settleBoth_settles hboth

theorem recordOutboxDispatchResult_settles {object : String}
    (h : s.recordOutboxDispatchResult o worker outcome object sha256 atMs = .ok (row, s')) :
    SettlesRow o s s' := by
  simp only [recordOutboxDispatchResult, eq_ok_iff] at h
  obtain ⟨-, old, -, boundary, -, h⟩ := h
  split at h
  · simp only [eq_ok_iff] at h
    obtain ⟨-, ⟨⟩⟩ := h
    exact .refl
  · simp only [eq_ok_iff] at h
    obtain ⟨-, s'', hboth, ⟨⟩⟩ := h
    exact settleBoth_settles hboth

theorem recordOutboxResult_settles
    (h : s.recordOutboxResult o worker outcome sha256 atMs = .ok (row, s')) :
    SettlesRow o s s' := by
  simp only [recordOutboxResult, eq_ok_iff] at h
  obtain ⟨old, -, h⟩ := h
  split at h
  · simp only [eq_ok_iff] at h
    obtain ⟨-, ⟨⟩⟩ := h
    exact .refl
  · simp only [eq_ok_iff] at h
    obtain ⟨-, -, outbox, houtbox, ⟨⟩⟩ := h
    obtain ⟨hothers, hrow⟩ := find_of_settle houtbox
    exact ⟨hothers, hrow, fun _ => rfl, rfl⟩

/-- A finalization leaves the rows alone, and releases at most the generation of its intent. -/
theorem markOutboxFinalized_cases {fin : BoundaryFinalization} {release : Bool} (h : s.markOutboxFinalized o fin release = .ok (b, s')) :
    s'.outbox = s.outbox ∧ (∀ k, (s'.boundaries.find k).map (·.startedAtMs) =
        (s.boundaries.find k).map (·.startedAtMs)) ∧
      (s'.generations = s.generations ∨ ∃ requestId runId generation, releaseGenerationLocked
        requestId fin.finalizedAtMs runId generation s.generations = .ok s'.generations) := by
  simp only [markOutboxFinalized, eq_ok_iff] at h
  obtain ⟨boundary, -, ⟨finalized, t⟩, hfinal, h⟩ := h
  obtain ⟨houtbox, hstarted, hgenerations⟩ : t.outbox = s.outbox ∧
      (∀ k, (t.boundaries.find k).map (·.startedAtMs) =
        (s.boundaries.find k).map (·.startedAtMs)) ∧ t.generations = s.generations := by
    unfold finalizeBoundary at hfinal
    split at hfinal
    · simp only [eq_ok_iff] at hfinal
      obtain ⟨-, ⟨⟩⟩ := hfinal
      exact ⟨rfl, fun _ => rfl, rfl⟩
    · simp only [eq_ok_iff] at hfinal
      obtain ⟨-, boundaries, hupdate, ⟨⟩⟩ := hfinal
      exact ⟨rfl, startedAt_of_update hupdate fun _ => rfl, rfl⟩
  split at h
  · simp only [eq_ok_iff] at h
    obtain ⟨row, -, generations, hrelease, ⟨⟩⟩ := h
    rw [hgenerations] at hrelease
    exact ⟨houtbox, hstarted, .inr ⟨_, _, _, hrelease⟩⟩
  · simp only [pure_eq_ok] at h
    cases h
    exact ⟨houtbox, hstarted, .inl hgenerations⟩

theorem markOutboxFinalized_leases {fin : BoundaryFinalization} {release : Bool} (h : s.markOutboxFinalized o fin release = .ok (b, s')) :
    s.leases.Settles s'.leases := by
  obtain ⟨houtbox, hstarted, -⟩ := markOutboxFinalized_cases h
  exact settles_of_find (fun k => .inl (by rw [houtbox])) hstarted

end DeliveryStore

end Tiangong
