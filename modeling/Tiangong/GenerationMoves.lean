import Tiangong.SessionOperations

/-!
# What a session operation commits

A generation is opened, renewed under a new fence, or closed; every other operation leaves the two
generation tables alone, and none of the generation operations touches a session.
-/
namespace Tiangong

open Table

/-- The row is held under the fence. -/
structure GenerationRow.LeasedBy (row : GenerationRow) (fence : GenerationFence) : Prop where
  status : row.status = .active fence.leaseId
  currentFenceId : row.currentFenceId = fence.fenceId
  requestId : row.requestId = fence.requestId
  runId : row.runId = fence.runId
  generation : row.generation = fence.generation
  gatewayEpoch : row.gatewayEpoch = fence.gatewayEpoch

/-- How a renewal changes the holder: not at all, by a takeover, or with the next generation. -/
inductive GenerationRow.Renews (row row' : GenerationRow) : Prop where
  | heartbeat (generation : row'.generation = row.generation) (runId : row'.runId = row.runId)
      (gatewayEpoch : row'.gatewayEpoch = row.gatewayEpoch) (status : row'.status = row.status)
  | takeover (owner : String) (generation : row'.generation = row.generation)
      (gatewayEpoch : row.gatewayEpoch ≤ row'.gatewayEpoch)
      (status : row'.status = .active (SessionStore.recoveryLeaseId row row'.gatewayEpoch owner))
  | advance (generation : row'.generation = row.generation + 1)
      (gatewayEpoch : row.gatewayEpoch ≤ row'.gatewayEpoch)

namespace SessionStore

variable {s s' : SessionStore}

/-- The journal, the actors and the queue are the same. -/
structure SameSessions (s s' : SessionStore) : Prop where
  journal : s'.journal = s.journal
  actors : s'.actors = s.actors
  queue : s'.queue = s.queue

theorem SameSessions.refl (s : SessionStore) : s.SameSessions s := ⟨rfl, rfl, rfl⟩

/-- The first generation of a request. -/
structure Opened (s s' : SessionStore) (row : GenerationRow) (fence : FenceRow) : Prop where
  fresh : s.generations.find row.requestId = none
  leased : row.LeasedBy fence.fence.1
  opened : fence.state = .active
  generations : s.generations.Inserts row s'.generations
  fences : s.fences.Inserts fence s'.fences

/-- A generation moves on under a new fence. -/
structure Renewed (s s' : SessionStore) (row row' : GenerationRow) (fence : FenceRow) : Prop where
  found : s.generations.find row.requestId = some row
  active : row.status.isActive = true
  same : row'.requestId = row.requestId
  leased : row'.LeasedBy fence.fence.1
  opened : fence.state = .active
  renews : row.Renews row'
  generations : ∀ k, s'.generations.find k =
    if k = row.requestId then some row' else s.generations.find k
  fences : (s.closeFence row.currentFenceId .superseded).fences.Inserts fence s'.fences

/-- A generation is cancelled or released together with its fence. -/
structure Closed (s s' : SessionStore) (row row' : GenerationRow) (state : GenerationFenceState) :
    Prop where
  found : s.generations.find row.requestId = some row
  active : row.status.isActive = true
  same : row'.requestId = row.requestId
  currentFenceId : row'.currentFenceId = row.currentFenceId
  inactive : row'.status.isActive = false
  closed : state ≠ .active
  generation : row'.generation = row.generation
  gatewayEpoch : row'.gatewayEpoch = row.gatewayEpoch
  generations : ∀ k, s'.generations.find k =
    if k = row.requestId then some row' else s.generations.find k
  fences : s'.fences = (s.closeFence row.currentFenceId state).fences

/-- What an operation does to the generation tables. -/
inductive GenerationMove (s s' : SessionStore) : Prop where
  | same (generations : s'.generations = s.generations) (fences : s'.fences = s.fences)
  | opened (row : GenerationRow) (fence : FenceRow) (h : Opened s s' row fence)
  | renewed (row row' : GenerationRow) (fence : FenceRow) (h : Renewed s s' row row' fence)
  | closed (row row' : GenerationRow) (state : GenerationFenceState)
      (h : Closed s s' row row' state)

theorem GenerationMove.refl (s : SessionStore) : s.GenerationMove s := .same rfl rfl

variable {row : GenerationRow} {view : GenerationLeaseView}

lemma generationView_eq_ok :
    s.generationView row = .ok view ↔ ∃ fence, s.fences.find row.currentFenceId = some fence ∧
      view = ⟨row, fence.fence.1⟩ := by
  simp only [generationView, eq_ok_iff, eq_comm (a := view)]

lemma view_fenceId (h : s.generationView row = .ok view) : view.row = row ∧
      view.fence.fenceId = row.currentFenceId := by
  obtain ⟨fence, hfence, rfl⟩ := generationView_eq_ok.mp h
  have hkey : fence.fenceId = row.currentFenceId := key_of_find hfence
  exact ⟨rfl, hkey⟩

variable {fence : GenerationFence}

lemma insertFence_cases {recordedAtMs : ℕ}
    (h : s.insertFence fence recordedAtMs = .ok s') : ∃ (row : FenceRow) (fences : _),
      row.fence.1 = fence ∧ row.state = .active ∧ s.fences.Inserts row fences ∧
        s' = { s with fences := fences } := by
  simp only [insertFence, eq_ok_iff, insert_eq_ok, sealed_eq_ok] at h
  obtain ⟨row, hrow, fences, hins, rfl⟩ := h
  exact ⟨_, fences, hrow, rfl, hins, rfl⟩

lemma insertGeneration_cases (h : s.insertGeneration row = .ok s') :
    ∃ generations, s.generations.Inserts row generations ∧
      s' = { s with generations := generations } := by
  simp only [insertGeneration, eq_ok_iff, insert_eq_ok] at h
  obtain ⟨-, generations, hins, rfl⟩ := h
  exact ⟨generations, hins, rfl⟩

lemma updateGeneration_cases {k : Canon} {selected : GenerationRow → Bool}
    {f : GenerationRow → GenerationRow} {hf : ∀ r, (f r).requestId = r.requestId} {e : StoreError}
    (h : s.updateGeneration k selected f hf e = .ok s')
    (hrow : s.generations.find k = some row) : selected row = true ∧ ∃ generations,
      (∀ k', generations.find k' = if k' = k then some (f row) else s.generations.find k') ∧
        s' = { s with generations := generations } := by
  simp only [updateGeneration, eq_ok_iff] at h
  obtain ⟨generations, hupdate, -, rfl⟩ := h
  obtain ⟨hselected, hfind⟩ := updateOne_find hupdate hrow
  exact ⟨hselected, generations, hfind, rfl⟩

variable {q : LeaseRequest}

lemma fields_leased {supersedes : Option Canon}
    (h : deriveGenerationFence (q.fields supersedes) = .ok fence) :
    (q.row fence.fenceId).LeasedBy fence := by
  obtain ⟨rfl, -⟩ := deriveGenerationFence_eq_ok h
  exact ⟨rfl, rfl, rfl, rfl, rfl, rfl⟩

lemma openGeneration_cases (h : s.openGeneration q = .ok (view, s')) :
    s.SameSessions s' ∧ ∃ row fence, Opened s s' row fence := by
  simp only [openGeneration, eq_ok_iff] at h
  obtain ⟨fence, hfence, inserted, hinserted, t, hfenced, _, -, ⟨⟩⟩ := h
  obtain ⟨generations, hgenerations, rfl⟩ := insertGeneration_cases hinserted
  obtain ⟨row, fences, hrow, hopened, hfences, rfl⟩ := insertFence_cases hfenced
  refine ⟨⟨rfl, rfl, rfl⟩, _, row, hgenerations.fresh, ?_, hopened, hgenerations, hfences⟩
  rw [hrow]
  exact fields_leased hfence

lemma supersedeGeneration_cases {current : GenerationLeaseView}
    (hcurrent : s.generations.find q.requestId = some current.row)
    (hfence : current.fence.fenceId = current.row.currentFenceId)
    (h : s.supersedeGeneration q current = .ok (view, s')) :
    s.SameSessions s' ∧ ∃ row' fence, Renewed s s' current.row row' fence := by
  have hkey : current.row.requestId = q.requestId := key_of_find hcurrent
  simp only [supersedeGeneration, eq_ok_iff] at h
  obtain ⟨hgeneration, hepoch, hactive, fence, hderived, -, updated, hupdated, t, hfenced, _, -,
    ⟨⟩⟩ := h
  obtain ⟨-, generations, hgenerations, rfl⟩ := updateGeneration_cases hupdated hcurrent
  obtain ⟨row, fences, hrow, hopened, hfences, rfl⟩ := insertFence_cases hfenced
  have hleased := fields_leased hderived
  refine ⟨⟨rfl, rfl, rfl⟩, { q.row fence.fenceId with
      requestId := current.row.requestId
      revision := current.row.revision + 1 }, row, ?_⟩
  refine
    { found := by rw [hkey]; exact hcurrent
      active := by rw [Bool.not_eq_false] at hactive; exact hactive
      same := rfl
      leased := ?_
      opened := hopened
      renews := .advance (not_not.mp hgeneration) (not_lt.mp hepoch)
      generations := fun k => by
        have hk := hgenerations k
        rw [← hkey] at hk
        exact hk
      fences := by rw [← hfence]; exact hfences }
  rw [hrow]
  exact ⟨hleased.status, hleased.currentFenceId, hkey.trans hleased.requestId, hleased.runId,
    hleased.generation, hleased.gatewayEpoch⟩

theorem acquireGenerationLease_cases {answer : GenerationLeaseView × Bool}
    (h : s.acquireGenerationLease q = .ok (answer, s')) :
    s.SameSessions s' ∧ s.GenerationMove s' := by
  simp only [acquireGenerationLease, eq_ok_iff] at h
  obtain ⟨-, h⟩ := h
  cases hfind : s.generations.find q.requestId with
  | none =>
    simp only [hfind, eq_ok_iff] at h
    obtain ⟨⟨view, t⟩, hopen, ⟨⟩⟩ := h
    obtain ⟨hsame, row, fence, hopened⟩ := openGeneration_cases hopen
    exact ⟨hsame, .opened row fence hopened⟩
  | some row =>
    simp only [hfind, bind_eq_ok] at h
    obtain ⟨current, hview, h⟩ := h
    obtain ⟨hrow, hfence⟩ := view_fenceId hview
    split at h
    · cases h
      exact ⟨.refl s, .refl s⟩
    · simp only [eq_ok_iff] at h
      obtain ⟨⟨view, t⟩, hsupersede, ⟨⟩⟩ := h
      rw [← hrow] at hfind hfence
      obtain ⟨hsame, row', fence, hrenewed⟩ :=
        supersedeGeneration_cases hfind hfence hsupersede
      exact ⟨hsame, .renewed _ row' fence hrenewed⟩

variable {requestId : Canon} {owner : String} {duration : ℕ}

theorem heartbeatGenerationLease_cases {leaseId : Canon} {nowMs : ℕ}
    (h : s.heartbeatGenerationLease requestId leaseId owner nowMs duration = .ok (view, s')) :
    s.SameSessions s' ∧ s.GenerationMove s' := by
  simp only [heartbeatGenerationLease, eq_ok_iff, not_or, not_not] at h
  obtain ⟨-, row, hfind, current, hview, ⟨hstatus, -, -⟩, fence, hderived, inserted, hinserted,
    t, hupdated, _, -, ⟨⟩⟩ := h
  obtain rfl : row.requestId = requestId := key_of_find hfind
  obtain ⟨-, hfence⟩ := view_fenceId hview
  obtain ⟨frow, fences, hrow, hopened, hfences, rfl⟩ := insertFence_cases hinserted
  obtain ⟨-, generations, hgenerations, rfl⟩ := updateGeneration_cases hupdated hfind
  obtain ⟨rfl, -⟩ := deriveGenerationFence_eq_ok hderived
  refine ⟨⟨rfl, rfl, rfl⟩, .renewed row
    { row with
      currentFenceId := frow.fence.1.fenceId
      revision := row.revision + 1
      updatedAtMs := nowMs } frow ?_⟩
  rw [← hrow] at hgenerations
  refine
    { found := hfind
      active := by rw [hstatus]; rfl
      same := rfl
      leased := ?_
      opened := hopened
      renews := .heartbeat rfl rfl rfl rfl
      generations := hgenerations
      fences := by rw [← hfence]; exact hfences }
  refine ⟨?_, rfl, ?_, ?_, ?_, ?_⟩ <;> rw [hrow]
  · exact hstatus
  all_goals rfl

theorem cancelGeneration_cases {reasonCode : String} {cancelledAtMs : ℕ}
    (h : s.cancelGeneration requestId reasonCode cancelledAtMs = .ok (view, s')) :
    s.SameSessions s' ∧ s.GenerationMove s' := by
  simp only [cancelGeneration, eq_ok_iff] at h
  obtain ⟨-, row, hfind, current, hview, h⟩ := h
  obtain rfl : row.requestId = requestId := key_of_find hfind
  obtain ⟨-, hfence⟩ := view_fenceId hview
  cases hstatus : row.status with
  | cancelled stored =>
    simp only [hstatus, eq_ok_iff] at h
    obtain ⟨-, ⟨⟩⟩ := h
    exact ⟨.refl s, .refl s⟩
  | released =>
    simp only [hstatus] at h
    cases h
  | active leaseId =>
    simp only [hstatus, eq_ok_iff] at h
    obtain ⟨-, _, -, ⟨⟩⟩ := h
    have hrevision : (fun r : GenerationRow => decide (r.revision = row.revision)) row = true :=
      decide_eq_true rfl
    refine ⟨⟨rfl, rfl, rfl⟩, .closed row
      { row with
        status := .cancelled reasonCode
        revision := row.revision + 1
        updatedAtMs := cancelledAtMs } .cancelled ?_⟩
    exact
      { found := hfind
        active := by rw [hstatus]; rfl
        same := rfl
        currentFenceId := rfl
        inactive := rfl
        closed := by decide
        generation := rfl
        gatewayEpoch := rfl
        generations := find_rewrite hfind hrevision
          (fun r =>
            { r with
              status := .cancelled reasonCode
              revision := r.revision + 1
              updatedAtMs := cancelledAtMs })
          fun _ => rfl
        fences := by rw [← hfence] }

theorem releaseGeneration_cases {releasedAtMs : ℕ} (h : s.releaseGeneration requestId releasedAtMs = .ok (view, s')) :
    s.SameSessions s' ∧ s.GenerationMove s' := by
  simp only [releaseGeneration, eq_ok_iff] at h
  obtain ⟨row, hfind, current, hview, h⟩ := h
  obtain rfl : row.requestId = requestId := key_of_find hfind
  obtain ⟨-, hfence⟩ := view_fenceId hview
  split at h
  · cases h
    exact ⟨.refl s, .refl s⟩
  · next hactive =>
    simp only [eq_ok_iff] at h
    obtain ⟨-, -, t, hupdated, _, -, ⟨⟩⟩ := h
    obtain ⟨-, generations, hgenerations, rfl⟩ := updateGeneration_cases hupdated hfind
    refine ⟨⟨rfl, rfl, rfl⟩, .closed row
      { row with
        status := .released
        revision := row.revision + 1
        updatedAtMs := releasedAtMs } .released ?_⟩
    exact
      { found := hfind
        active := by rw [Bool.not_eq_false] at hactive; exact hactive
        same := rfl
        currentFenceId := rfl
        inactive := rfl
        closed := by decide
        generation := rfl
        gatewayEpoch := rfl
        generations := hgenerations
        fences := by rw [← hfence] }

theorem recordFencedResult_cases {resultId : String}
    {resultSha256 : Canon} {observedAtMs : ℕ} {decision : FencedResultDecision}
    (h : s.recordFencedResult fence resultId resultSha256 observedAtMs = .ok (decision, s')) :
    (s' = s ∧ decision.duplicate = true ∧ s.fencedResults.find resultId = some decision.result) ∨
      ∃ row results, s' = { s with fencedResults := results } ∧ decision.duplicate = false ∧
        s.generations.find fence.requestId = some row ∧
        decision.result.disposition = (fencedDisposition row fence observedAtMs).1 := by
  simp only [recordFencedResult, eq_ok_iff] at h
  obtain ⟨-, h⟩ := h
  cases hfind : s.fencedResults.find resultId with
  | some stored =>
    simp only [hfind, eq_ok_iff] at h
    obtain ⟨-, ⟨⟩⟩ := h
    exact .inl ⟨rfl, rfl, rfl⟩
  | none =>
    simp only [hfind, eq_ok_iff] at h
    obtain ⟨row, hrow, _, -, _, -, results, -, ⟨⟩⟩ := h
    exact .inr ⟨row, results, rfl, rfl, hrow, rfl⟩

variable {scope : Canon} {epoch : ℕ}

theorem activateRequestRun_cases {activatedAtMs : ℕ} {activation : ActiveRequestActivation}
    (h : s.activateRequestRun requestId scope epoch owner activatedAtMs duration =
      .ok (activation, s')) : s.SameSessions s' ∧ s.GenerationMove s' := by
  simp only [activateRequestRun, eq_ok_iff] at h
  obtain ⟨-, request, -, h⟩ := h
  cases hfind : s.generations.find requestId with
  | some row =>
    simp only [hfind, eq_ok_iff] at h
    obtain ⟨_, -, ⟨⟩⟩ := h
    exact ⟨.refl s, .refl s⟩
  | none =>
    simp only [hfind, firstActivation, eq_ok_iff] at h
    obtain ⟨-, fence, hderived, inserted, hinserted, fenced, hfenced, aggregates, -, _, -, ⟨⟩⟩ := h
    obtain ⟨generations, hgenerations, rfl⟩ := insertGeneration_cases hinserted
    obtain ⟨row, fences, hrow, hopened, hfences, rfl⟩ := insertFence_cases hfenced
    refine ⟨⟨rfl, rfl, rfl⟩, .opened _ row ⟨hgenerations.fresh, ?_, hopened, hgenerations, hfences⟩⟩
    rw [hrow]
    exact fields_leased hderived

variable {recoveredAtMs : ℕ}

lemma recoveryCandidate_find {before : Canon → Canon → Bool} {requestId : Option Canon}
    (h : s.recoveryCandidate before epoch recoveredAtMs requestId = some row) :
    s.generations.find row.requestId = some row := by
  cases requestId with
  | some requestId =>
    obtain ⟨hfind, -⟩ := Option.filter_eq_some_iff.mp h
    obtain rfl : row.requestId = requestId := key_of_find hfind
    exact hfind
  | none =>
    have hmem := List.mem_of_head? h
    rw [mem_orderBy, List.mem_filter] at hmem
    exact find_of_mem hmem.1

lemma recoverGeneration_cases {activation : ActiveRequestActivation}
    (hfind : s.generations.find row.requestId = some row)
    (h : s.recoverGeneration row epoch owner recoveredAtMs duration = .ok (activation, s')) :
    s.SameSessions s' ∧ ∃ row' fence, Renewed s s' row row' fence := by
  simp only [recoverGeneration, eq_ok_iff, not_or, not_lt] at h
  obtain ⟨current, hview, ⟨hactive, hepoch, -⟩, request, -, fence, hderived, -, inserted,
    hinserted, t, hupdated, _, -, ⟨⟩⟩ := h
  obtain ⟨frow, fences, hrow, hopened, hfences, rfl⟩ := insertFence_cases hinserted
  obtain ⟨-, generations, hgenerations, rfl⟩ := updateGeneration_cases hupdated hfind
  obtain ⟨rfl, -⟩ := deriveGenerationFence_eq_ok hderived
  rw [Bool.not_eq_false] at hactive
  rw [← hrow] at hgenerations
  refine ⟨⟨rfl, rfl, rfl⟩, { row with
      gatewayEpoch := epoch
      status := .active (recoveryLeaseId row epoch owner)
      ownerInstanceId := owner
      currentFenceId := frow.fence.1.fenceId
      revision := row.revision + 1
      updatedAtMs := recoveredAtMs }, frow,
    { found := hfind
      active := hactive
      same := rfl
      leased := ?_
      opened := hopened
      renews := .takeover owner rfl hepoch rfl
      generations := hgenerations
      fences := hfences }⟩
  refine ⟨?_, rfl, ?_, ?_, ?_, ?_⟩ <;> rw [hrow] <;> rfl

theorem recoverExpiredActiveRequest_cases {before : Canon → Canon → Bool} {requestId : Option Canon}
    {activation : Option ActiveRequestActivation}
    (h : s.recoverExpiredActiveRequest before epoch owner recoveredAtMs duration requestId =
      .ok (activation, s')) : s.SameSessions s' ∧ s.GenerationMove s' := by
  simp only [recoverExpiredActiveRequest, eq_ok_iff] at h
  obtain ⟨-, h⟩ := h
  cases hcandidate : s.recoveryCandidate before epoch recoveredAtMs requestId with
  | none =>
    simp only [hcandidate, pure_eq_ok] at h
    cases h
    exact ⟨.refl s, .refl s⟩
  | some row =>
    simp only [hcandidate, eq_ok_iff] at h
    obtain ⟨⟨recovered, t⟩, hrecover, ⟨⟩⟩ := h
    obtain ⟨hsame, row', fence, hrenewed⟩ :=
      recoverGeneration_cases (recoveryCandidate_find hcandidate) hrecover
    exact ⟨hsame, .renewed row row' fence hrenewed⟩

theorem releaseIf_cases {release : Bool} {releasedAtMs : ℕ}
    (h : s.releaseIf release requestId releasedAtMs = .ok s') :
    s.SameSessions s' ∧ s.GenerationMove s' := by
  unfold releaseIf at h
  split at h
  · simp only [eq_ok_iff] at h
    obtain ⟨⟨view, t⟩, hrelease, rfl⟩ := h
    exact releaseGeneration_cases hrelease
  · cases h
    exact ⟨.refl s, .refl s⟩

/-- The two generation tables are the same. -/
structure SameGenerations (s s' : SessionStore) : Prop where
  generations : s'.generations = s.generations
  fences : s'.fences = s.fences

theorem SameGenerations.refl (s : SessionStore) : s.SameGenerations s := ⟨rfl, rfl⟩

theorem SameGenerations.trans {t u v : SessionStore} (h : t.SameGenerations u)
    (h' : u.SameGenerations v) : t.SameGenerations v :=
  ⟨h'.generations.trans h.generations, h'.fences.trans h.fences⟩

theorem SameGenerations.move {t : SessionStore} (h : s.SameGenerations t)
    (hmove : t.GenerationMove s') : s.GenerationMove s' := by
  have hclose : ∀ fenceId state,
      (t.closeFence fenceId state).fences = (s.closeFence fenceId state).fences := by
    intro fenceId state
    simp only [closeFence, h.fences]
  cases hmove with
  | same generations fences =>
    exact .same (generations.trans h.generations) (fences.trans h.fences)
  | opened row fence hopened =>
    obtain ⟨hfresh, hleased, hopen, hgenerations, hfences⟩ := hopened
    rw [h.generations] at hfresh hgenerations
    rw [h.fences] at hfences
    exact .opened row fence ⟨hfresh, hleased, hopen, hgenerations, hfences⟩
  | renewed row row' fence hrenewed =>
    obtain ⟨hfound, hactive, hsame, hleased, hopen, hrenews, hgenerations, hfences⟩ := hrenewed
    rw [h.generations] at hfound
    simp only [h.generations] at hgenerations
    rw [hclose] at hfences
    exact .renewed row row' fence
      ⟨hfound, hactive, hsame, hleased, hopen, hrenews, hgenerations, hfences⟩
  | closed row row' state hclosed =>
    obtain ⟨hfound, hactive, hsame, hid, hinactive, hstate, hgeneration, hepoch, hgenerations,
      hfences⟩ := hclosed
    rw [h.generations] at hfound
    simp only [h.generations] at hgenerations
    rw [hclose] at hfences
    exact .closed row row' state ⟨hfound, hactive, hsame, hid, hinactive, hstate, hgeneration,
      hepoch, hgenerations, hfences⟩

lemma admitRequest_generations {entry : RequestJournalEntry} {placed : ℕ × QueueProgress}
    (h : s.admitRequest entry = .ok (placed, s')) : s.SameGenerations s' := by
  unfold admitRequest at h
  cases hactor : s.actors.find entry.sessionScopeHash with
  | none =>
    simp only [hactor, eq_ok_iff] at h
    obtain ⟨actors, -, ⟨⟩⟩ := h
    exact ⟨rfl, rfl⟩
  | some actor =>
    simp only [hactor, eq_ok_iff] at h
    obtain ⟨actors, -, ⟨⟩⟩ := h
    exact ⟨rfl, rfl⟩

lemma replayRegistration_generations {stored entry : RequestJournalEntry}
    {envelope : InboundEnvelope} {registration : JournalRegistration}
    (h : s.replayRegistration stored entry envelope = .ok (registration, s')) :
    s.SameGenerations s' := by
  simp only [replayRegistration, eq_ok_iff] at h
  obtain ⟨-, inbound, -, h⟩ := h
  cases hpayload : inbound.payload with
  | available stored =>
    simp only [hpayload, eq_ok_iff] at h
    obtain ⟨-, -, _, rfl, queue, -, ⟨⟩⟩ := h
    exact .refl s
  | legacyUnavailable =>
    simp only [hpayload, eq_ok_iff] at h
    obtain ⟨-, _, rfl, queue, -, ⟨⟩⟩ := h
    exact ⟨rfl, rfl⟩

lemma registerRequest_generations {envelope : InboundEnvelope} {ingressSha256 : Canon}
    {createdAtMs : ℕ} {registration : JournalRegistration}
    (h : s.registerRequest envelope ingressSha256 createdAtMs = .ok (registration, s')) :
    s.SameGenerations s' := by
  simp only [registerRequest, eq_ok_iff] at h
  obtain ⟨-, h⟩ := h
  split at h
  · simp only [enqueueRequest, insertQueueRow, eq_ok_iff] at h
    obtain ⟨journal, -, inbound, -, ⟨placed, admitted⟩, hadmit, _, ⟨-, queue, -, rfl⟩, ⟨⟩⟩ := h
    have hsame := admitRequest_generations hadmit
    exact ⟨hsame.generations, hsame.fences⟩
  · exact replayRegistration_generations h
  · cases h

lemma updateQueueRow_generations {row : QueueRow} {selected : QueueProgress → Bool}
    {progress : QueueProgress} {e : StoreError}
    (h : s.updateQueueRow row selected progress e = .ok s') : s.SameGenerations s' := by
  simp only [updateQueueRow, eq_ok_iff] at h
  obtain ⟨queue, -, rfl⟩ := h
  exact ⟨rfl, rfl⟩

lemma promoteNext_generations {activatedAtMs : ℕ} {next : Option QueueRow}
    (h : s.promoteNext scope activatedAtMs = .ok (next, s')) : s.SameGenerations s' := by
  unfold promoteNext at h
  cases hnext : s.nextQueued scope with
  | none =>
    simp only [hnext, pure_eq_ok] at h
    cases h
    exact .refl s
  | some row =>
    simp only [hnext, eq_ok_iff] at h
    obtain ⟨-, t, hupdate, ⟨⟩⟩ := h
    exact updateQueueRow_generations hupdate

lemma completeSessionRequest_generations {completedAtMs : ℕ}
    {release : Bool} {next : Option QueueRow}
    (h : s.completeSessionRequest scope requestId completedAtMs release = .ok (next, s')) :
    s.GenerationMove s' := by
  simp only [completeSessionRequest, eq_ok_iff] at h
  obtain ⟨actor, -, row, -, h⟩ := h
  cases hprogress : row.progress with
  | queued =>
    simp only [hprogress] at h
    cases h
  | completed _ _ =>
    simp only [hprogress, eq_ok_iff] at h
    obtain ⟨t, hrelease, ⟨⟩⟩ := h
    exact (releaseIf_cases hrelease).2
  | active activatedAtMs =>
    simp only [hprogress, completeActive, eq_ok_iff] at h
    obtain ⟨_, ⟨-, -, completed, hcompleted, ⟨next', promoted⟩, hpromoted, actors, -, rfl⟩, t,
      hrelease, ⟨⟩⟩ := h
    have hsame := (updateQueueRow_generations hcompleted).trans (promoteNext_generations hpromoted)
    have hactors : s.SameGenerations { promoted with actors := actors } :=
      ⟨hsame.generations, hsame.fences⟩
    exact hactors.move (releaseIf_cases hrelease).2

theorem apply_generationMove (s : SessionStore) (i : SessionOp) :
    s.GenerationMove (s.apply i).1 := by
  have hrefl := GenerationMove.refl s
  cases i with
  | registerRequest envelope ingressSha256 createdAtMs =>
    refine committed_fst hrefl fun a t ht => ?_
    exact .same (registerRequest_generations ht).generations (registerRequest_generations ht).fences
  | completeSessionRequest scope requestId completedAtMs release =>
    exact committed_fst hrefl fun a t ht => completeSessionRequest_generations ht
  | activateRequestRun requestId scope epoch owner activatedAtMs duration =>
    exact committed_fst hrefl fun a t ht => (activateRequestRun_cases ht).2
  | acquireGenerationLease q =>
    exact committed_fst hrefl fun a t ht => (acquireGenerationLease_cases ht).2
  | heartbeatGenerationLease requestId leaseId owner nowMs duration =>
    exact committed_fst hrefl fun a t ht => (heartbeatGenerationLease_cases ht).2
  | recoverExpiredActiveRequest before epoch owner recoveredAtMs duration requestId =>
    exact committed_fst hrefl fun a t ht => (recoverExpiredActiveRequest_cases ht).2
  | cancelGeneration requestId reasonCode cancelledAtMs =>
    exact committed_fst hrefl fun a t ht => (cancelGeneration_cases ht).2
  | releaseGeneration requestId releasedAtMs =>
    exact committed_fst hrefl fun a t ht => (releaseGeneration_cases ht).2
  | recordFencedResult fence resultId resultSha256 observedAtMs =>
    refine committed_fst hrefl fun a t ht => ?_
    rcases recordFencedResult_cases ht with ⟨rfl, -⟩ | ⟨row, results, rfl, -⟩
    · exact .refl _
    · exact .same rfl rfl
  | writeAggregates aggregates => exact .same rfl rfl
  | loseInboundPayload requestId => exact .same rfl rfl

end SessionStore

end Tiangong
