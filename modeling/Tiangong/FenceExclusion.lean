import Tiangong.SessionSerialisation

/-!
# Generations are fenced

An active generation has one open fence, the one its row names, and no other generation has any.
A holder that has lost its lease never gets it back: within a generation a takeover leads to a lease
that contains the one before it, and the generation itself never decreases. A result under a lost
lease is therefore never accepted, unless it repeats one that has been recorded already.
-/
open List

namespace Tiangong

namespace SessionStore

open GenerationFence Table

def openFenceIds (s : SessionStore) (requestId : Canon) : List Canon :=
  (s.fences.rows.filter fun f => f.fence.1.requestId = requestId && f.state = .active).map
    (·.fenceId)

/-- The fence is one of the current lease of its request. -/
def HeldUnder (s : SessionStore) (fence : GenerationFence) : Prop :=
  ∃ row, s.generations.find fence.requestId = some row ∧ row.status = .active fence.leaseId ∧
    row.generation = fence.generation ∧ row.gatewayEpoch = fence.gatewayEpoch ∧
    row.runId = fence.runId

/-- The request has moved on from the lease: it is closed, or in a later generation, or in the same
one under a lease that was derived from this one. -/
def MovedOn (s : SessionStore) (fence : GenerationFence) : Prop :=
  ∃ row, s.generations.find fence.requestId = some row ∧
    (row.status.isActive = false ∨ fence.generation < row.generation ∨
      (row.generation = fence.generation ∧ ∃ leaseId, row.status = .active leaseId ∧
        sizeOf fence.leaseId < sizeOf leaseId))

/-- The two generation tables agree. -/
structure Fenced (s : SessionStore) : Prop where
  current : ∀ k row, s.generations.find k = some row →
    ∃ fence, s.fences.find row.currentFenceId = some fence ∧ fence.fence.1.requestId = k ∧
      (row.status.isActive = true → fence.state = .active ∧ row.LeasedBy fence.fence.1)
  opened : ∀ fence ∈ s.fences.rows, fence.state = .active →
    ∃ row, s.generations.find fence.fence.1.requestId = some row ∧
      row.currentFenceId = fence.fenceId ∧ row.status.isActive = true

variable {s s' : SessionStore}

variable {state : GenerationFenceState}

/-- A fence that is still open after one was closed is another one. -/
lemma mem_closeFence {fenceId : Canon} (hstate : state ≠ .active)
    {fence : FenceRow} (hmem : fence ∈ (s.closeFence fenceId state).fences.rows)
    (hopen : fence.state = .active) : fence ∈ s.fences.rows ∧ fence.fenceId ≠ fenceId := by
  have hupdate : fence ∈ (s.fences.update (fun r => r.fenceId = fenceId && r.state = .active)
      (fun r => { r with state := state }) (closedFence_fenceId state)).rows := hmem
  obtain ⟨old, hold, rfl⟩ := mem_update.mp hupdate
  by_cases hselected : (decide (old.fenceId = fenceId) && decide (old.state = .active)) = true
  · rw [if_pos hselected] at hopen
    exact absurd hopen hstate
  · rw [if_neg hselected] at hopen ⊢
    refine ⟨hold, fun hid => hselected ?_⟩
    rw [Bool.and_eq_true, decide_eq_true_eq, decide_eq_true_eq]
    exact ⟨hid, hopen⟩

variable {k : Canon}

lemma find_closeFence {fenceId : Canon} (hk : k ≠ fenceId) :
    (s.closeFence fenceId state).fences.find k = s.fences.find k := by
  have hrest : (s.fences.update (fun r => r.fenceId = fenceId && r.state = .active)
      (fun r => { r with state := state }) (closedFence_fenceId state)).find k =
        s.fences.find k := by
    apply find_update_of_not
    intro fence hfence
    have hkey : fence.fenceId = k := key_of_find hfence
    rw [hkey, decide_eq_false hk, Bool.false_and]
  exact hrest

lemma closeFence_content (fenceId : Canon) (state : GenerationFenceState)
    {fence : FenceRow} (hfence : s.fences.find k = some fence) :
    ∃ fence', (s.closeFence fenceId state).fences.find k = some fence' ∧
      fence'.fence = fence.fence := by
  have hfind : (s.fences.update (fun r => r.fenceId = fenceId && r.state = .active)
      (fun r => { r with state := state }) (closedFence_fenceId state)).find k = _ :=
    find_update s.fences k
  rw [hfence, Option.map_some] at hfind
  refine ⟨_, hfind, ?_⟩
  split <;> rfl

variable {row row' : GenerationRow}

/-- Two generations do not share their current fence. -/
lemma Fenced.fence_ne (hs : s.Fenced) {k' : Canon}
    (hrow : s.generations.find k = some row) (hrow' : s.generations.find k' = some row')
    (hk : k ≠ k') : row.currentFenceId ≠ row'.currentFenceId := by
  intro heq
  obtain ⟨fence, hfence, hid, -⟩ := hs.current k row hrow
  obtain ⟨fence', hfence', hid', -⟩ := hs.current k' row' hrow'
  rw [heq, hfence'] at hfence
  cases hfence
  exact hk (hid.symm.trans hid')

theorem Opened.fenced {fence : FenceRow} (hs : s.Fenced)
    (h : s.Opened s' row fence) : s'.Fenced where
  current := by
    intro k r hr
    rw [h.generations.find] at hr
    split at hr
    · next hk =>
      cases hr
      refine ⟨fence, ?_, h.leased.requestId.symm.trans hk, fun _ => ⟨h.opened, h.leased⟩⟩
      rw [h.leased.currentFenceId]
      have hfind := h.fences.find fence.fenceId
      rwa [if_pos rfl] at hfind
    · obtain ⟨f, hf, hid, hactive⟩ := hs.current k r hr
      exact ⟨f, h.fences.find_of_some hf, hid, hactive⟩
  opened := by
    intro f hf hopen
    rw [h.fences.rows, mem_append, mem_singleton] at hf
    rcases hf with hf | rfl
    · obtain ⟨r, hr, hid, hactive⟩ := hs.opened f hf hopen
      exact ⟨r, h.generations.find_of_some hr, hid, hactive⟩
    · refine ⟨row, ?_, h.leased.currentFenceId, by rw [h.leased.status]; rfl⟩
      rw [← h.leased.requestId]
      have hfind := h.generations.find row.requestId
      rwa [if_pos rfl] at hfind

theorem Renewed.fenced {fence : FenceRow} (hs : s.Fenced)
    (h : s.Renewed s' row row' fence) : s'.Fenced where
  current := by
    intro k r hr
    rw [h.generations] at hr
    split at hr
    · next hk =>
      cases hr
      refine ⟨fence, ?_, ?_, fun _ => ⟨h.opened, h.leased⟩⟩
      · rw [h.leased.currentFenceId]
        have hfind := h.fences.find fence.fenceId
        rwa [if_pos rfl] at hfind
      · rw [hk, ← h.same]
        exact h.leased.requestId.symm
    · next hk =>
      obtain ⟨f, hf, hid, hactive⟩ := hs.current k r hr
      refine ⟨f, h.fences.find_of_some ?_, hid, hactive⟩
      rw [find_closeFence (hs.fence_ne hr h.found hk)]
      exact hf
  opened := by
    intro f hf hopen
    rw [h.fences.rows, mem_append, mem_singleton] at hf
    rcases hf with hf | rfl
    · obtain ⟨hf, hother⟩ := mem_closeFence (by decide) hf hopen
      obtain ⟨r, hr, hid, hactive⟩ := hs.opened f hf hopen
      refine ⟨r, ?_, hid, hactive⟩
      rw [h.generations, if_neg, hr]
      intro hk
      rw [hk, h.found] at hr
      cases hr
      exact hother hid.symm
    · refine ⟨row', ?_, h.leased.currentFenceId, by rw [h.leased.status]; rfl⟩
      rw [h.generations, if_pos]
      rw [← h.same]
      exact h.leased.requestId.symm

theorem Closed.fenced (hs : s.Fenced) (h : s.Closed s' row row' state) : s'.Fenced where
  current := by
    intro k r hr
    rw [h.generations] at hr
    split at hr
    · next hk =>
      cases hr
      obtain ⟨f, hf, hid, -⟩ := hs.current _ row h.found
      obtain ⟨f', hf', hcontent⟩ := closeFence_content row.currentFenceId state hf
      refine ⟨f', ?_, ?_, fun hactive => ?_⟩
      · rw [h.fences, h.currentFenceId]
        exact hf'
      · rw [hcontent, hk]
        exact hid
      · rw [h.inactive] at hactive
        cases hactive
    · next hk =>
      obtain ⟨f, hf, hid, hactive⟩ := hs.current k r hr
      refine ⟨f, ?_, hid, hactive⟩
      rw [h.fences, find_closeFence (hs.fence_ne hr h.found hk)]
      exact hf
  opened := by
    intro f hf hopen
    rw [h.fences] at hf
    obtain ⟨hf, hother⟩ := mem_closeFence h.closed hf hopen
    obtain ⟨r, hr, hid, hactive⟩ := hs.opened f hf hopen
    refine ⟨r, ?_, hid, hactive⟩
    rw [h.generations, if_neg, hr]
    intro hk
    rw [hk, h.found] at hr
    cases hr
    exact hother hid.symm

theorem GenerationMove.fenced (hs : s.Fenced) (h : s.GenerationMove s') : s'.Fenced := by
  cases h with
  | same generations fences =>
    constructor
    · rw [generations, fences]
      exact hs.current
    · rw [generations, fences]
      exact hs.opened
  | opened row fence h => exact h.fenced hs
  | renewed row row' fence h => exact h.fenced hs
  | closed row row' state h => exact h.fenced hs

lemma Fenced.openFenceIds_eq (hs : s.Fenced)
    (hrow : row ∈ s.generations.rows) : s.openFenceIds row.requestId =
      if row.status.isActive then [row.currentFenceId] else [] := by
  have hfind := find_of_mem hrow
  have hmem : ∀ x, x ∈ s.openFenceIds row.requestId ↔
      row.status.isActive = true ∧ x = row.currentFenceId := by
    intro x
    unfold openFenceIds
    rw [mem_map]
    constructor
    · rintro ⟨f, hf, rfl⟩
      rw [mem_filter, Bool.and_eq_true, decide_eq_true_eq, decide_eq_true_eq] at hf
      obtain ⟨r, hr, hid, hactive⟩ := hs.opened f hf.1 hf.2.2
      rw [hf.2.1, hfind] at hr
      cases hr
      exact ⟨hactive, hid.symm⟩
    · rintro ⟨hactive, rfl⟩
      obtain ⟨f, hf, hid, hopened⟩ := hs.current _ row hfind
      refine ⟨f, ?_, key_of_find hf⟩
      rw [mem_filter, Bool.and_eq_true, decide_eq_true_eq, decide_eq_true_eq]
      exact ⟨mem_of_find hf, hid, (hopened hactive).1⟩
  have hnodup : (s.openFenceIds row.requestId).Nodup :=
    s.fences.keys_nodup.sublist (filter_sublist.map _)
  cases hactive : row.status.isActive with
  | false =>
    refine eq_nil_iff_forall_not_mem.mpr fun x hx => ?_
    have := ((hmem x).mp hx).1
    rw [hactive] at this
    cases this
  | true =>
    rw [if_pos rfl]
    refine perm_singleton.mp ((perm_ext_iff_of_nodup hnodup
      (nodup_singleton _)).mpr fun x => ?_)
    rw [hmem x, hactive, mem_singleton]
    exact and_iff_right rfl

/-- The same generation at a later time; a closed one does not change any more. -/
structure GenerationLater (row row' : GenerationRow) : Prop where
  generation : row.generation ≤ row'.generation
  gatewayEpoch : row.gatewayEpoch ≤ row'.gatewayEpoch
  closed : row.status.isActive = false → row' = row

theorem GenerationLater.refl (row : GenerationRow) : GenerationLater row row :=
  ⟨le_refl _, le_refl _, fun _ => rfl⟩

theorem GenerationLater.trans {row'' : GenerationRow} (h : GenerationLater row row')
    (h' : GenerationLater row' row'') : GenerationLater row row'' where
  generation := le_trans h.generation h'.generation
  gatewayEpoch := le_trans h.gatewayEpoch h'.gatewayEpoch
  closed := by
    intro hclosed
    obtain rfl := h.closed hclosed
    exact h'.closed hclosed

/-- A generation after one operation: the same, renewed, or closed. -/
inductive RowMove (s : SessionStore) (row : GenerationRow) : GenerationRow → Prop where
  | same : RowMove s row row
  | renewed (row' : GenerationRow) (active : row.status.isActive = true)
      (leased : ∃ fence : GenerationFence, row'.LeasedBy fence) (renews : row.Renews row') :
      RowMove s row row'
  | closed (row' : GenerationRow) (active : row.status.isActive = true)
      (inactive : row'.status.isActive = false) (generation : row'.generation = row.generation)
      (gatewayEpoch : row'.gatewayEpoch = row.gatewayEpoch) : RowMove s row row'

lemma GenerationMove.rowMove (h : s.GenerationMove s') (hrow : s.generations.find k = some row) :
    ∃ row', s'.generations.find k = some row' ∧ s.RowMove row row' := by
  cases h with
  | same generations fences => exact ⟨row, by rw [generations, hrow], .same⟩
  | opened r fence h => exact ⟨row, h.generations.find_of_some hrow, .same⟩
  | renewed r r' fence h =>
    by_cases hk : k = r.requestId
    · rw [hk, h.found] at hrow
      cases hrow
      exact ⟨r', by rw [h.generations, if_pos hk], .renewed r' h.active ⟨_, h.leased⟩ h.renews⟩
    · exact ⟨row, by rw [h.generations, if_neg hk, hrow], .same⟩
  | closed r r' state h =>
    by_cases hk : k = r.requestId
    · rw [hk, h.found] at hrow
      cases hrow
      exact ⟨r', by rw [h.generations, if_pos hk],
        .closed r' h.active h.inactive h.generation h.gatewayEpoch⟩
    · exact ⟨row, by rw [h.generations, if_neg hk, hrow], .same⟩

theorem RowMove.later (h : s.RowMove row row') : GenerationLater row row' := by
  cases h with
  | same => exact .refl row
  | renewed _ active leased renews =>
    have hclosed : row.status.isActive = false → row' = row := fun hinactive => by
      rw [active] at hinactive
      cases hinactive
    cases renews with
    | heartbeat generation runId gatewayEpoch status =>
      exact ⟨generation.ge, gatewayEpoch.ge, hclosed⟩
    | takeover owner generation gatewayEpoch status =>
      exact ⟨generation.ge, gatewayEpoch, hclosed⟩
    | advance generation gatewayEpoch =>
      exact ⟨by omega, gatewayEpoch, hclosed⟩
  | closed _ active inactive generation gatewayEpoch =>
    refine ⟨generation.ge, gatewayEpoch.ge, fun hinactive => ?_⟩
    rw [active] at hinactive
    cases hinactive

/-- The lease of a takeover contains the one before it. -/
lemma recoveryLeaseId_size {fence : Sealed admitted}
    (hleased : row.LeasedBy fence.1) (epoch : ℕ) (owner : String) :
    sizeOf fence.1.leaseId < sizeOf (recoveryLeaseId row epoch owner) := by
  have hadmitted := fence.2
  simp only [admitted, hasValidFence, holds_iff] at hadmitted
  have hid : row.currentFenceId = fence.1.computedFenceId := by
    rw [hleased.currentFenceId, hadmitted.2.1]
  simp only [recoveryLeaseId, Canon.ident, Canon.ofList, hid, computedFenceId,
    identityFields, Canon.cons.sizeOf_spec, Canon.sha256.sizeOf_spec]
  omega

variable {fence : GenerationFence}

/-- A holder keeps its lease or has moved on from it. -/
theorem HeldUnder.step (hs : s.Fenced) (h : s.GenerationMove s')
    (hheld : s.HeldUnder fence) : s'.HeldUnder fence ∨ s'.MovedOn fence := by
  obtain ⟨row, hrow, hstatus, hgeneration, hepoch, hrun⟩ := hheld
  obtain ⟨row', hrow', hmove⟩ := h.rowMove hrow
  cases hmove with
  | same => exact .inl ⟨row, hrow', hstatus, hgeneration, hepoch, hrun⟩
  | closed _ active inactive generation gatewayEpoch =>
    exact .inr ⟨row', hrow', .inl inactive⟩
  | renewed _ active leased renews =>
    cases renews with
    | heartbeat generation runId gatewayEpoch status =>
      exact .inl ⟨row', hrow', status.trans hstatus, generation.trans hgeneration,
        gatewayEpoch.trans hepoch, runId.trans hrun⟩
    | takeover owner generation gatewayEpoch status =>
      obtain ⟨current, -, -, hleased⟩ := hs.current _ row hrow
      have hcurrent := (hleased active).2
      have hlease : fence.leaseId = current.fence.1.leaseId := by
        have hboth := hstatus.symm.trans hcurrent.status
        exact RequestGenerationStatus.active.inj hboth
      refine .inr ⟨row', hrow', .inr (.inr ⟨generation.trans hgeneration, _, status, ?_⟩)⟩
      rw [hlease]
      exact recoveryLeaseId_size hcurrent _ owner
    | advance generation gatewayEpoch =>
      exact .inr ⟨row', hrow', .inr (.inl (by omega))⟩

theorem MovedOn.step (hs : s.Fenced) (h : s.GenerationMove s')
    (hmoved : s.MovedOn fence) : s'.MovedOn fence := by
  obtain ⟨row, hrow, hcase⟩ := hmoved
  obtain ⟨row', hrow', hmove⟩ := h.rowMove hrow
  refine ⟨row', hrow', ?_⟩
  cases hmove with
  | same => exact hcase
  | closed _ active inactive generation gatewayEpoch => exact .inl inactive
  | renewed _ active leased renews =>
    rcases hcase with hclosed | hlater | ⟨hgeneration, leaseId, hstatus, hsize⟩
    · rw [active] at hclosed
      cases hclosed
    · have hle := (RowMove.renewed (s := s) row' active leased renews).later.generation
      exact .inr (.inl (by omega))
    · cases renews with
      | heartbeat generation runId gatewayEpoch status =>
        exact .inr (.inr ⟨generation.trans hgeneration, leaseId, status.trans hstatus, hsize⟩)
      | takeover owner generation gatewayEpoch status =>
        obtain ⟨current, -, -, hleased⟩ := hs.current _ row hrow
        have hcurrent := (hleased active).2
        have hlease : leaseId = current.fence.1.leaseId := by
          have hboth := hstatus.symm.trans hcurrent.status
          exact RequestGenerationStatus.active.inj hboth
        have hgrows := recoveryLeaseId_size hcurrent row'.gatewayEpoch owner
        rw [hlease] at hsize
        exact .inr (.inr ⟨generation.trans hgeneration, _, status, hsize.trans hgrows⟩)
      | advance generation gatewayEpoch => exact .inr (.inl (by omega))

/-- Who has moved on from a lease does not hold it. -/
lemma MovedOn.not_heldUnder (h : s.MovedOn fence) : ¬ s.HeldUnder fence := by
  rintro ⟨row, hrow, hstatus, hgeneration, -, -⟩
  obtain ⟨row', hrow', hcase⟩ := h
  rw [hrow] at hrow'
  cases hrow'
  rcases hcase with hclosed | hlater | ⟨-, leaseId, hstatus', hsize⟩
  · rw [hstatus] at hclosed
    cases hclosed
  · omega
  · rw [hstatus] at hstatus'
    have hlease := RequestGenerationStatus.active.inj hstatus'
    rw [hlease] at hsize
    exact lt_irrefl _ hsize

variable {observedAtMs : ℕ}

lemma fencedDisposition_accepted (h : (fencedDisposition row fence observedAtMs).1 = .accepted) :
    row.status = .active fence.leaseId ∧ row.generation = fence.generation ∧
      row.gatewayEpoch = fence.gatewayEpoch ∧ row.runId = fence.runId := by
  unfold fencedDisposition at h
  cases hstatus : row.status with
  | cancelled _ => simp only [hstatus, reduceCtorEq] at h
  | released => simp only [hstatus, reduceCtorEq] at h
  | active leaseId =>
    simp only [hstatus] at h
    split at h
    · cases h
    · split at h
      · next haccepted =>
        have hcurrent := of_decide_eq_true haccepted
        obtain ⟨-, hrun, hepoch, hgeneration, hlease⟩ := fenceDisposition_current hcurrent
        exact ⟨by rw [hlease], hgeneration.symm, hepoch.symm, hrun.symm⟩
      · split at h <;> cases h

lemma recordFencedResult_accepted {resultId : String}
    {resultSha256 : Canon} {decision : FencedResultDecision}
    (h : s.recordFencedResult fence resultId resultSha256 observedAtMs = .ok (decision, s'))
    (hnew : decision.duplicate = false) (haccepted : decision.result.disposition = .accepted) :
    s.HeldUnder fence := by
  rcases recordFencedResult_cases h with ⟨-, hduplicate, -⟩ | ⟨row, -, -, -, hrow, hdisposition⟩
  · rw [hnew] at hduplicate
    cases hduplicate
  · rw [haccepted] at hdisposition
    obtain ⟨hstatus, hgeneration, hepoch, hrun⟩ := fencedDisposition_accepted hdisposition.symm
    exact ⟨row, hrow, hstatus, hgeneration, hepoch, hrun⟩

lemma apply_fenced (hs : s.Fenced) (i : SessionOp) : (s.apply i).1.Fenced :=
  (apply_generationMove s i).fenced hs

lemma empty_fenced : empty.Fenced where
  current := fun _ _ h => by cases h
  opened := fun _ h => by cases h

lemma exec_fenced (hs : s.Fenced) (ops : List SessionOp) : (sessionMachine.exec s ops).Fenced :=
  Machine.exec_preserves Fenced (fun _ i hs => apply_fenced hs i) hs ops

/-- A generation at the end of a run. -/
lemma exec_later (ops : List SessionOp) (hrow : s.generations.find k = some row) :
    ∃ row', (sessionMachine.exec s ops).generations.find k = some row' ∧
      GenerationLater row row' := by
  induction ops generalizing s row with
  | nil => exact ⟨row, hrow, .refl row⟩
  | cons i ops ih =>
    obtain ⟨next, hnext, hmove⟩ := (apply_generationMove s i).rowMove hrow
    obtain ⟨row', hrow', hlater⟩ := ih hnext
    exact ⟨row', hrow', hmove.later.trans hlater⟩

lemma exec_movedOn (hs : s.Fenced) (ops : List SessionOp)
    (h : s.MovedOn fence) : (sessionMachine.exec s ops).MovedOn fence := by
  have hstep : ∀ (t : SessionStore) (i : SessionOp), t.Fenced ∧ t.MovedOn fence →
      (sessionMachine.step t i).1.Fenced ∧ (sessionMachine.step t i).1.MovedOn fence :=
    fun t i ht => ⟨apply_fenced ht.1 i, .step ht.1 (apply_generationMove t i) ht.2⟩
  exact (Machine.exec_preserves (fun t : SessionStore => t.Fenced ∧ t.MovedOn fence) hstep
    ⟨hs, h⟩ ops).2

lemma exec_held (hs : s.Fenced) (ops : List SessionOp)
    (h : s.HeldUnder fence) : (sessionMachine.exec s ops).HeldUnder fence ∨
      (sessionMachine.exec s ops).MovedOn fence := by
  induction ops generalizing s with
  | nil => exact .inl h
  | cons i ops ih =>
    have hnext := apply_fenced hs i
    rcases h.step hs (apply_generationMove s i) with hheld | hmoved
    · exact ih hnext hheld
    · exact .inr (exec_movedOn hnext ops hmoved)

lemma never_held_again (hs : s.Fenced) (ops ops' : List SessionOp)
    (h : s.HeldUnder fence) (hlost : ¬ (sessionMachine.exec s ops).HeldUnder fence) :
    ¬ (sessionMachine.exec s (ops ++ ops')).HeldUnder fence := by
  rw [Machine.exec_append]
  have hmoved := (exec_held hs ops h).resolve_left hlost
  exact (exec_movedOn (exec_fenced hs ops) ops' hmoved).not_heldUnder

/-- A result was answered as accepted by the call itself, not by an earlier one. -/
def AcceptsNow (s : SessionStore) (fence : GenerationFence) (resultId : String)
    (resultSha256 : Canon) (observedAtMs : ℕ) : Prop :=
  ∃ result : FencedResult, result.disposition = .accepted ∧
    (sessionMachine.step s (.recordFencedResult fence resultId resultSha256 observedAtMs)).2 =
      .ok (.recorded ⟨result, false⟩)

lemma AcceptsNow.heldUnder {resultId : String} {resultSha256 : Canon} (h : s.AcceptsNow fence resultId resultSha256 observedAtMs) :
    s.HeldUnder fence := by
  obtain ⟨result, haccepted, hanswer⟩ := h
  obtain ⟨decision, t, hrecord, hdecision⟩ := committed_answer hanswer
  cases hdecision
  exact recordFencedResult_accepted hrecord rfl haccepted

end SessionStore

/-- Every request has one open fence, that of its active generation, or none; generations and
epochs do not decrease and closed generations stay as they are; a new result is accepted only under
a fence of the current lease, so never under a lease that was lost before; and any other accepted
answer repeats a recorded one. -/
theorem generations_fenced (ops : List SessionOp) :
    (∀ row ∈ (sessionMachine.exec .empty ops).generations.rows,
      (sessionMachine.exec .empty ops).openFenceIds row.requestId =
        if row.status.isActive then [row.currentFenceId] else []) ∧
    (∀ pre post, ops = pre ++ post → ∀ row ∈ (sessionMachine.exec .empty pre).generations.rows,
        ∃ row' ∈ (sessionMachine.exec .empty ops).generations.rows,
          row'.requestId = row.requestId ∧ SessionStore.GenerationLater row row') ∧
    (∀ fence resultId resultSha256 observedAtMs,
      (sessionMachine.exec .empty ops).AcceptsNow fence resultId resultSha256 observedAtMs →
        (sessionMachine.exec .empty ops).HeldUnder fence) ∧
    (∀ pre mid post, ops = pre ++ mid ++ post → ∀ fence,
      (sessionMachine.exec .empty pre).HeldUnder fence →
      ¬ (sessionMachine.exec .empty (pre ++ mid)).HeldUnder fence →
        ∀ resultId resultSha256 observedAtMs,
          ¬ (sessionMachine.exec .empty ops).AcceptsNow fence resultId resultSha256
            observedAtMs) ∧
    ∀ fence resultId resultSha256 observedAtMs result,
      (sessionMachine.step (sessionMachine.exec .empty ops)
          (.recordFencedResult fence resultId resultSha256 observedAtMs)).2 =
        .ok (.recorded ⟨result, true⟩) →
      (sessionMachine.exec .empty ops).fencedResults.find resultId = some result := by
  have hfenced := SessionStore.exec_fenced SessionStore.empty_fenced
  refine ⟨fun row hrow => (hfenced ops).openFenceIds_eq hrow, ?_, ?_, ?_, ?_⟩
  · rintro pre post rfl row hrow
    rw [Machine.exec_append]
    obtain ⟨row', hrow', hlater⟩ := SessionStore.exec_later post (Table.find_of_mem hrow)
    exact ⟨row', Table.mem_of_find hrow', Table.key_of_find hrow', hlater⟩
  · intro fence resultId resultSha256 observedAtMs haccepts
    exact haccepts.heldUnder
  · rintro pre mid post rfl fence hheld hlost resultId resultSha256 observedAtMs haccepts
    rw [Machine.exec_append] at hlost
    have hnever := SessionStore.never_held_again (hfenced pre) mid post hheld hlost
    rw [← Machine.exec_append, ← append_assoc] at hnever
    exact hnever haccepts.heldUnder
  · intro fence resultId resultSha256 observedAtMs result hanswer
    obtain ⟨decision, t, hrecord, hdecision⟩ := committed_answer hanswer
    cases hdecision
    rcases SessionStore.recordFencedResult_cases hrecord with ⟨-, -, hstored⟩ | ⟨_, _, -, hnew, -⟩
    · exact hstored
    · cases hnew

/-- The lease `leaseId` of a generation of request `r-1`. -/
def sampleLease (generation : ℕ) (leaseId : Canon) (issuedAtMs : ℕ) : SessionStore.LeaseRequest :=
  { requestId := .text "r-1"
    runId := runIdOf (.text "r-1") 1
    runSequence := 1
    generation := generation
    gatewayEpoch := 1
    leaseId := leaseId
    ownerInstanceId := "gateway-a"
    issuedAtMs := issuedAtMs
    leaseDurationMs := 60000 }

/-- The fence of the first of these leases. -/
def sampleFence : GenerationFence := ((sampleLease 1 (.text "lease-1") 1000).fields none).fence

/-- A result is recorded under the first lease, then the next generation takes over. -/
def takenOverRun : List SessionOp :=
  [.acquireGenerationLease (sampleLease 1 (.text "lease-1") 1000),
    .recordFencedResult sampleFence "result-1" (.text "digest-1") 2000,
    .acquireGenerationLease (sampleLease 2 (.text "lease-2") 3000)]

/-- What is recorded of the result of the first holder. -/
def sampleResult : FencedResult :=
  { resultId := "result-1"
    requestId := .text "r-1"
    runId := runIdOf (.text "r-1") 1
    generation := 1
    fenceId := sampleFence.fenceId
    disposition := .accepted
    reasonCode := "generation.current"
    resultSha256 := .text "digest-1"
    observedAtMs := 2000
    fenceDecision := some (evaluateGenerationFence sampleFence
      ⟨1, .text "r-1", runIdOf (.text "r-1") 1, 1, .text "lease-1"⟩ 2000) }

/-- The result of the first holder, sent again after the takeover, is answered as accepted. -/
theorem resentResult_accepted : ¬ ∀ fence resultId resultSha256 observedAtMs decision,
      (sessionMachine.step (sessionMachine.exec .empty takenOverRun)
          (.recordFencedResult fence resultId resultSha256 observedAtMs)).2 =
        .ok (.recorded decision) →
      decision.result.disposition = .accepted →
      (sessionMachine.exec .empty takenOverRun).HeldUnder fence := by
  intro hclaim
  have hanswer : (sessionMachine.step (sessionMachine.exec .empty takenOverRun)
      (.recordFencedResult sampleFence "result-1" (.text "digest-1") 2000)).2 =
        .ok (.recorded ⟨sampleResult, true⟩) := by
    decide +kernel
  have hlease : ((sessionMachine.exec .empty takenOverRun).generations.find
      sampleFence.requestId).map GenerationRow.generation = some 2 := by
    decide +kernel
  obtain ⟨row, hrow, -, hgeneration, -, -⟩ := hclaim _ _ _ _ _ hanswer rfl
  rw [hrow, Option.map_some, hgeneration] at hlease
  cases hlease

end Tiangong
