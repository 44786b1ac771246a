import Tiangong.GenerationMoves

/-!
# Sessions are serialised

The requests of a session take turns in the order of their registration: the rows before the turn
are completed, the row at the turn is active, the rows after it are queued. A registration appends
a row and a completion moves the turn on by one; no other operation touches a session.
-/
open List

namespace Tiangong

open IndexedTable RequestJournalEntry

/-- The progress of the row `sequence` when it is the turn of row `turn`. -/
structure QueueProgress.AtTurn (turn sequence : ℕ) (p : QueueProgress) : Prop where
  before : sequence < turn → p.isCompleted = true
  here : sequence = turn → p.isActive = true
  after : turn < sequence → p.isQueued = true

variable {p : QueueProgress}

lemma QueueProgress.AtTurn.active_iff {turn n : ℕ} (h : p.AtTurn turn n) :
    p.isActive = true ↔ n = turn := by
  refine ⟨fun hactive => ?_, h.here⟩
  rcases Nat.lt_trichotomy n turn with hlt | heq | hgt
  · have hcompleted := h.before hlt
    cases p with
    | queued => cases hactive
    | active _ => cases hcompleted
    | completed _ _ => cases hactive
  · exact heq
  · have hqueued := h.after hgt
    cases p with
    | queued => cases hactive
    | active _ => cases hqueued
    | completed _ _ => cases hactive

lemma QueueProgress.AtTurn.queued_iff {turn n : ℕ} (h : p.AtTurn turn n) :
    p.isQueued = true ↔ turn < n := by
  refine ⟨fun hqueued => ?_, h.after⟩
  rcases Nat.lt_trichotomy n turn with hlt | heq | hgt
  · have hcompleted := h.before hlt
    cases p with
    | queued => cases hcompleted
    | active _ => cases hqueued
    | completed _ _ => cases hqueued
  · have hactive := h.here heq
    cases p with
    | queued => cases hactive
    | active _ => cases hqueued
    | completed _ _ => cases hqueued
  · exact hgt

/-- A row only moves on: from queued to active and from active to completed. -/
inductive QueueProgress.Later (p : QueueProgress) : QueueProgress → Prop where
  | same : Later p p
  | promoted (p' : QueueProgress) (queued : p.isQueued = true) : Later p p'
  | completed (activatedAtMs completedAtMs : ℕ) (active : p = .active activatedAtMs) :
      Later p (.completed activatedAtMs completedAtMs)

/-- The same row at a later time. -/
structure QueueRow.Later (row row' : QueueRow) : Prop where
  sessionScopeHash : row'.sessionScopeHash = row.sessionScopeHash
  sequence : row'.sequence = row.sequence
  requestId : row'.requestId = row.requestId
  enqueuedAtMs : row'.enqueuedAtMs = row.enqueuedAtMs
  progress : row.progress.Later row'.progress

/-- The row when the turn moves on from row `turn`. -/
def QueueRow.turned (row : QueueRow) (turn activatedAtMs completedAtMs : ℕ) : QueueRow :=
  { row with
    progress :=
      if row.sequence = turn then .completed activatedAtMs completedAtMs
      else if row.sequence = turn + 1 then .active completedAtMs
      else row.progress }

namespace SessionStore

/-- It is the turn of row `turn` in the session of `actor`. -/
structure InTurn (s : SessionStore) (actor : SessionActor) (turn : ℕ) : Prop where
  first : 1 ≤ turn
  last : turn ≤ actor.nextSequence
  sequences : ∀ n, (s.queue.find (actor.sessionScopeHash, n)).isSome = true ↔
    1 ≤ n ∧ n < actor.nextSequence
  progress : ∀ n row, s.queue.find (actor.sessionScopeHash, n) = some row →
    row.progress.AtTurn turn n
  active : actor.activeRequestId =
    (s.queue.find (actor.sessionScopeHash, turn)).map (·.requestId)

/-- The journal, the queue and the actors agree. -/
structure Serialised (s : SessionStore) : Prop where
  registered : ∀ requestId entry, s.journal.find requestId = some entry →
    ∃ n row, s.queue.find (entry.1.sessionScopeHash, n) = some row ∧ row.requestId = requestId
  journaled : ∀ k row, s.queue.find k = some row → (s.journal.find row.requestId).isSome = true
  attended : ∀ k row, s.queue.find k = some row → (s.actors.find k.1).isSome = true
  turns : ∀ scope actor, s.actors.find scope = some actor → ∃ turn, s.InTurn actor turn

/-- What a session promises of its queue. -/
structure SessionsSerialised (s : SessionStore) : Prop where
  /-- Every registered request has exactly one queue row. -/
  onceQueued : ∀ entry ∈ s.journal.rows,
    ∃! row, row ∈ s.queue.rows ∧ row.requestId = entry.1.requestId
  /-- At most one row of a session is active, and it is the actor's active request. -/
  oneActive : ∀ row ∈ s.queue.rows, ∀ row' ∈ s.queue.rows,
    row.sessionScopeHash = row'.sessionScopeHash → row.progress.isActive = true →
      row'.progress.isActive = true → row = row'
  activeRow : ∀ actor ∈ s.actors.rows, ∀ requestId, actor.activeRequestId = some requestId ↔
    ∃ row ∈ s.queue.rows, row.sessionScopeHash = actor.sessionScopeHash ∧
      row.requestId = requestId ∧ row.progress.isActive = true
  /-- The actor is idle only if no row is queued. -/
  idle : ∀ actor ∈ s.actors.rows, actor.activeRequestId = none → ∀ row ∈ s.queue.rows,
    row.sessionScopeHash = actor.sessionScopeHash → row.progress.isQueued = false
  /-- The sequence numbers of a session are those below the next one, without a gap. -/
  sequences : ∀ actor ∈ s.actors.rows,
    ((s.sessionRows actor.sessionScopeHash).map (·.sequence)).Perm
      (range' 1 (actor.nextSequence - 1))
  attended : ∀ row ∈ s.queue.rows,
    ∃ actor ∈ s.actors.rows, actor.sessionScopeHash = row.sessionScopeHash
  before : ∀ row ∈ s.queue.rows, ∀ row' ∈ s.queue.rows,
    row'.sessionScopeHash = row.sessionScopeHash → row.progress.isActive = true →
      row'.sequence < row.sequence → row'.progress.isCompleted = true
  after : ∀ row ∈ s.queue.rows, ∀ row' ∈ s.queue.rows,
    row'.sessionScopeHash = row.sessionScopeHash → row.progress.isActive = true →
      row.sequence < row'.sequence → row'.progress.isQueued = true

/-! ### The promises follow -/

variable {s s' : SessionStore}

variable {row : QueueRow}

lemma Serialised.row_inTurn (h : s.Serialised) (hrow : row ∈ s.queue.rows) :
    ∃ actor turn, s.actors.find row.sessionScopeHash = some actor ∧
      actor.sessionScopeHash = row.sessionScopeHash ∧ s.InTurn actor turn ∧
      row.progress.AtTurn turn row.sequence := by
  have hfind := find_of_mem hrow
  obtain ⟨actor, hactor⟩ := Option.isSome_iff_exists.mp (h.attended _ row hfind)
  have hscope : actor.sessionScopeHash = row.sessionScopeHash := Table.key_of_find hactor
  obtain ⟨turn, hturn⟩ := h.turns _ actor hactor
  refine ⟨actor, turn, hactor, hscope, hturn, hturn.progress row.sequence row ?_⟩
  rw [hscope]
  exact hfind

variable {scope : Canon}

/-- The row of a session with a known number. -/
lemma find_queue (hrow : row ∈ s.queue.rows)
    (hscope : row.sessionScopeHash = scope) : s.queue.find (scope, row.sequence) = some row := by
  rw [← hscope]
  exact find_of_mem hrow

variable {actor : SessionActor} {turn : ℕ}

lemma InTurn.of_mem (h : s.InTurn actor turn)
    (hrow : row ∈ s.queue.rows) (hscope : row.sessionScopeHash = actor.sessionScopeHash) :
    row.progress.AtTurn turn row.sequence :=
  h.progress _ row (find_queue hrow hscope)

lemma InTurn.active_iff (h : s.InTurn actor turn)
    (requestId : Canon) : actor.activeRequestId = some requestId ↔
      ∃ row ∈ s.queue.rows, row.sessionScopeHash = actor.sessionScopeHash ∧
        row.requestId = requestId ∧ row.progress.isActive = true := by
  rw [h.active, Option.map_eq_some_iff]
  constructor
  · rintro ⟨row, hfind, hid⟩
    have hkey := key_of_find hfind
    rw [Prod.mk.injEq] at hkey
    exact ⟨row, mem_of_find hfind, hkey.1, hid,
      (h.progress turn row hfind).here rfl⟩
  · rintro ⟨row, hrow, hscope, hid, hactive⟩
    have hturn := (h.of_mem hrow hscope).active_iff.mp hactive
    refine ⟨row, ?_, hid⟩
    rw [← hturn]
    exact find_queue hrow hscope

lemma InTurn.idle_iff (h : s.InTurn actor turn) :
    actor.activeRequestId = none ↔ turn = actor.nextSequence := by
  have hsequences := h.sequences turn
  have hfirst := h.first
  have hlast := h.last
  rw [h.active, Option.map_eq_none_iff]
  constructor
  · intro hnone
    rw [hnone] at hsequences
    have hout : ¬ (1 ≤ turn ∧ turn < actor.nextSequence) := fun hin => by
      cases hsequences.mpr hin
    omega
  · intro heq
    rw [← Option.isNone_iff_eq_none, ← Option.isSome_eq_false_iff, ← Bool.not_eq_true, hsequences]
    omega

/-- A number of the session belongs to a row. -/
lemma InTurn.mem_sequences (h : s.InTurn actor turn) (n : ℕ) :
    n ∈ (s.sessionRows actor.sessionScopeHash).map (·.sequence) ↔
      1 ≤ n ∧ n < actor.nextSequence := by
  rw [← h.sequences n, Option.isSome_iff_exists, mem_map]
  constructor
  · rintro ⟨row, hrow, rfl⟩
    rw [sessionRows, mem_filter, decide_eq_true_eq] at hrow
    exact ⟨row, find_queue hrow.1 hrow.2⟩
  · rintro ⟨row, hfind⟩
    have hkey := key_of_find hfind
    rw [Prod.mk.injEq] at hkey
    refine ⟨row, ?_, hkey.2⟩
    rw [sessionRows, mem_filter, decide_eq_true_eq]
    exact ⟨mem_of_find hfind, hkey.1⟩

/-- No number of a session occurs twice. -/
lemma sequences_nodup (s : SessionStore) (scope : Canon) :
    ((s.sessionRows scope).map (·.sequence)).Nodup := by
  have hkeys := s.queue.table.keys_nodup
  have hsub : ((s.sessionRows scope).map fun r => (r.sessionScopeHash, r.sequence)).Nodup :=
    hkeys.sublist (filter_sublist.map _)
  refine (nodup_map_iff_inj_on ?_).mpr ?_
  · exact hsub.of_map
  · intro row hrow row' hrow' hsequence
    have hscope := (mem_filter.mp hrow).2
    have hscope' := (mem_filter.mp hrow').2
    rw [decide_eq_true_eq] at hscope hscope'
    apply inj_on_of_nodup_map hsub hrow hrow'
    rw [Prod.mk.injEq]
    exact ⟨hscope.trans hscope'.symm, hsequence⟩

theorem Serialised.promises (h : s.Serialised) : s.SessionsSerialised where
  onceQueued := by
    intro entry hentry
    obtain ⟨n, row, hfind, hid⟩ := h.registered _ entry (find_of_mem hentry)
    refine ⟨row, ⟨mem_of_find hfind, hid⟩, ?_⟩
    rintro row' ⟨hrow', hid'⟩
    exact s.queue.unique.eq hrow' (mem_of_find hfind) (hid'.trans hid.symm)
  oneActive := by
    intro row hrow row' hrow' hscope hactive hactive'
    obtain ⟨actor, turn, hactor, hkey, hturn, hprogress⟩ := h.row_inTurn hrow
    have hprogress' := hturn.of_mem hrow' (hscope.symm.trans hkey.symm)
    have hsequence := hprogress.active_iff.mp hactive
    have hsequence' := hprogress'.active_iff.mp hactive'
    refine s.queue.table.eq_of_key_eq hrow hrow' ?_
    rw [Prod.mk.injEq]
    exact ⟨hscope, hsequence.trans hsequence'.symm⟩
  activeRow := by
    intro actor hactor requestId
    obtain ⟨turn, hturn⟩ := h.turns _ actor (Table.find_of_mem hactor)
    exact hturn.active_iff requestId
  idle := by
    intro actor hactor hidle row hrow hscope
    obtain ⟨turn, hturn⟩ := h.turns _ actor (Table.find_of_mem hactor)
    have hprogress := hturn.of_mem hrow hscope
    by_contra hqueued
    rw [Bool.not_eq_false] at hqueued
    have hlt := hprogress.queued_iff.mp hqueued
    have hbound := (hturn.sequences row.sequence).mp (by rw [find_queue hrow hscope]; rfl)
    have hlast := hturn.idle_iff.mp hidle
    omega
  sequences := by
    intro actor hactor
    obtain ⟨turn, hturn⟩ := h.turns _ actor (Table.find_of_mem hactor)
    refine (perm_ext_iff_of_nodup (s.sequences_nodup _) nodup_range').mpr ?_
    intro n
    rw [hturn.mem_sequences n, mem_range'_1]
    have hlast := hturn.last
    have hfirst := hturn.first
    omega
  attended := by
    intro row hrow
    obtain ⟨actor, turn, hactor, hkey, -⟩ := h.row_inTurn hrow
    exact ⟨actor, Table.mem_of_find hactor, hkey⟩
  before := by
    intro row hrow row' hrow' hscope hactive hlt
    obtain ⟨actor, turn, hactor, hkey, hturn, hprogress⟩ := h.row_inTurn hrow
    have hsequence := hprogress.active_iff.mp hactive
    have hprogress' := hturn.of_mem hrow' (hscope.trans hkey.symm)
    exact hprogress'.before (by omega)
  after := by
    intro row hrow row' hrow' hscope hactive hlt
    obtain ⟨actor, turn, hactor, hkey, hturn, hprogress⟩ := h.row_inTurn hrow
    have hsequence := hprogress.active_iff.mp hactive
    have hprogress' := hturn.of_mem hrow' (hscope.trans hkey.symm)
    exact hprogress'.after (by omega)

/-! ### Steps -/

lemma InTurn.of_queue (h : s.InTurn actor turn)
    (hqueue : ∀ n, s'.queue.find (actor.sessionScopeHash, n) =
      s.queue.find (actor.sessionScopeHash, n)) : s'.InTurn actor turn where
  first := h.first
  last := h.last
  sequences := by
    intro n
    rw [hqueue n]
    exact h.sequences n
  progress := by
    intro n row hfind
    rw [hqueue n] at hfind
    exact h.progress n row hfind
  active := by
    rw [hqueue turn]
    exact h.active

theorem Serialised.of_same (h : s.Serialised) (hsame : s.SameSessions s') : s'.Serialised where
  registered := by
    rw [hsame.journal, hsame.queue]
    exact h.registered
  journaled := by
    rw [hsame.journal, hsame.queue]
    exact h.journaled
  attended := by
    rw [hsame.actors, hsame.queue]
    exact h.attended
  turns := by
    intro scope actor hactor
    rw [hsame.actors] at hactor
    obtain ⟨turn, hturn⟩ := h.turns scope actor hactor
    exact ⟨turn, hturn.of_queue fun n => by rw [hsame.queue]⟩

/-- A new request at the end of the queue of its session, whose actor becomes `actor'`. -/
structure Enqueued (s s' : SessionStore) (entry : Sealed admitted)
    (actor' : SessionActor) (row : QueueRow) : Prop where
  journal : ∀ k, s'.journal.find k =
    if entry.1.requestId = k then some entry else s.journal.find k
  actors : ∀ k, s'.actors.find k =
    if k = entry.1.sessionScopeHash then some actor' else s.actors.find k
  queue : ∀ k, s'.queue.find k =
    if (entry.1.sessionScopeHash, row.sequence) = k then some row else s.queue.find k
  scope : actor'.sessionScopeHash = entry.1.sessionScopeHash
  requestId : row.requestId = entry.1.requestId
  next : actor'.nextSequence = row.sequence + 1
  /-- The actor was absent, idle or busy. -/
  turn : (s.actors.find entry.1.sessionScopeHash = none ∧ row.sequence = 1 ∧
        row.progress.isActive = true ∧ actor'.activeRequestId = some row.requestId) ∨
      ∃ actor, s.actors.find entry.1.sessionScopeHash = some actor ∧
        row.sequence = actor.nextSequence ∧
        ((actor.activeRequestId = none ∧ row.progress.isActive = true ∧
            actor'.activeRequestId = some row.requestId) ∨
          (actor.activeRequestId ≠ none ∧ row.progress.isQueued = true ∧
            actor'.activeRequestId = actor.activeRequestId))

lemma admitRequest_cases {entry : RequestJournalEntry} {placed : ℕ × QueueProgress}
    (h : s.admitRequest entry = .ok (placed, s')) : ∃ actor' : SessionActor,
      s'.journal = s.journal ∧ s'.queue = s.queue ∧
      (∀ k, s'.actors.find k =
        if k = entry.sessionScopeHash then some actor' else s.actors.find k) ∧
      actor'.sessionScopeHash = entry.sessionScopeHash ∧ actor'.nextSequence = placed.1 + 1 ∧
      ((s.actors.find entry.sessionScopeHash = none ∧ placed.1 = 1 ∧
          placed.2.isActive = true ∧ actor'.activeRequestId = some entry.requestId) ∨
        ∃ actor, s.actors.find entry.sessionScopeHash = some actor ∧
          placed.1 = actor.nextSequence ∧
          ((actor.activeRequestId = none ∧ placed.2.isActive = true ∧
              actor'.activeRequestId = some entry.requestId) ∨
            (actor.activeRequestId ≠ none ∧ placed.2.isQueued = true ∧
              actor'.activeRequestId = actor.activeRequestId))) := by
  unfold admitRequest at h
  cases hactor : s.actors.find entry.sessionScopeHash with
  | none =>
    simp only [hactor, eq_ok_iff, Table.insert_eq_ok] at h
    obtain ⟨actors, hins, ⟨⟩⟩ := h
    refine ⟨⟨entry.sessionScopeHash, some entry.requestId, 2, 1, entry.createdAtMs⟩, rfl, rfl, ?_,
      rfl, rfl, .inl ⟨rfl, rfl, rfl, rfl⟩⟩
    intro k
    have hk := hins.find k
    rw [hk]
    exact if_congr eq_comm rfl rfl
  | some actor =>
    have hscope : actor.sessionScopeHash = entry.sessionScopeHash := Table.key_of_find hactor
    simp only [hactor, eq_ok_iff] at h
    obtain ⟨actors, hupdate, ⟨⟩⟩ := h
    obtain ⟨-, hfind⟩ := Table.updateOne_find hupdate hactor
    refine ⟨_, rfl, rfl, hfind, hscope, rfl, .inr ⟨actor, rfl, rfl, ?_⟩⟩
    by_cases hidle : actor.activeRequestId = none
    · exact .inl ⟨hidle, by rw [if_pos hidle]; rfl, if_pos hidle⟩
    · exact .inr ⟨hidle, by rw [if_neg hidle]; rfl, if_neg hidle⟩

variable {entry : Sealed admitted} {envelope : InboundEnvelope}
  {registration : JournalRegistration}

lemma enqueueRequest_cases
    (h : s.enqueueRequest entry envelope = .ok (registration, s')) :
    ∃ actor' row, s.Enqueued s' entry actor' row := by
  simp only [enqueueRequest, insertQueueRow, eq_ok_iff] at h
  obtain ⟨journal, hjournal, inbound, -, ⟨placed, admitted⟩, hadmit, _, ⟨-, queue, hqueue, rfl⟩,
    ⟨⟩⟩ := h
  obtain ⟨actor', hsameJournal, hsameQueue, hactors, hscope, hnext, hturn⟩ :=
    admitRequest_cases hadmit
  refine ⟨actor',
    ⟨entry.1.sessionScopeHash, placed.1, entry.1.requestId, placed.2, entry.1.createdAtMs⟩,
    { journal := ?_
      actors := hactors
      queue := ?_
      scope := hscope
      requestId := rfl
      next := hnext
      turn := hturn }⟩
  · intro k
    have hfind := find_insert hjournal k
    rw [← hfind]
    show admitted.journal.find k = journal.find k
    rw [hsameJournal]
  · intro k
    have hfind := find_insert hqueue k
    rw [hsameQueue] at hfind
    exact hfind

lemma replayRegistration_cases {stored entry : RequestJournalEntry}
    (h : s.replayRegistration stored entry envelope = .ok (registration, s')) :
    s.SameSessions s' := by
  simp only [replayRegistration, eq_ok_iff] at h
  obtain ⟨-, inbound, -, h⟩ := h
  cases hpayload : inbound.payload with
  | available stored =>
    simp only [hpayload, eq_ok_iff] at h
    obtain ⟨-, -, _, rfl, queue, -, ⟨⟩⟩ := h
    exact .refl s
  | legacyUnavailable =>
    simp only [hpayload, eq_ok_iff] at h
    obtain ⟨-, _, rfl, queue, -, ⟨⟩⟩ := h
    exact ⟨rfl, rfl, rfl⟩

lemma registerRequest_cases {ingressSha256 : Canon}
    {createdAtMs : ℕ}
    (h : s.registerRequest envelope ingressSha256 createdAtMs = .ok (registration, s')) :
    s.SameSessions s' ∨ ∃ entry actor' row, s.journal.find entry.1.requestId = none ∧
      s.Enqueued s' entry actor' row := by
  simp only [registerRequest, eq_ok_iff] at h
  obtain ⟨-, h⟩ := h
  split at h
  · next hnone =>
    obtain ⟨actor', row, henqueued⟩ := enqueueRequest_cases h
    refine .inr ⟨_, actor', row, ?_, henqueued⟩
    refine Table.find_eq_none.mpr fun e he hid => ?_
    have hmem := filter_eq_nil_iff.mp hnone e he
    simp [sharesIdentity, hid] at hmem
  · exact .inl (replayRegistration_cases h)
  · cases h

variable {actor' : SessionActor}

/-- A new row takes a fresh number. -/
theorem Enqueued.fresh (h : s.Enqueued s' entry actor' row) (hs : s.Serialised) :
    1 ≤ row.sequence ∧ ∀ n, (s.queue.find (entry.1.sessionScopeHash, n)).isSome = true ↔
      1 ≤ n ∧ n < row.sequence := by
  rcases h.turn with ⟨hnone, hfirst, -⟩ | ⟨actor, hactor, hnext, -⟩
  · refine ⟨by omega, fun n => ⟨fun hsome => ?_, fun hn => by omega⟩⟩
    obtain ⟨r, hr⟩ := Option.isSome_iff_exists.mp hsome
    have hattended := hs.attended _ r hr
    rw [hnone] at hattended
    cases hattended
  · have hscope : actor.sessionScopeHash = entry.1.sessionScopeHash := Table.key_of_find hactor
    obtain ⟨turn, hturn⟩ := hs.turns _ actor hactor
    have hfirst := hturn.first
    have hlast := hturn.last
    rw [hnext, ← hscope]
    exact ⟨by omega, hturn.sequences⟩

lemma Enqueued.find_old (h : s.Enqueued s' entry actor' row) (hs : s.Serialised) {k : Canon × ℕ}
    {r : QueueRow} (hr : s.queue.find k = some r) : s'.queue.find k = some r := by
  rw [h.queue k, if_neg, hr]
  rintro rfl
  have hbound := ((h.fresh hs).2 row.sequence).mp (by rw [hr]; rfl)
  omega

/-- The turn of a session does not move when a request is appended. -/
lemma Enqueued.inTurn (h : s.Enqueued s' entry actor' row) (hs : s.Serialised)
    (hfirst : 1 ≤ turn) (hlast : turn ≤ row.sequence)
    (hprogress : ∀ n r, s.queue.find (entry.1.sessionScopeHash, n) = some r →
      r.progress.AtTurn turn n)
    (hrow : row.progress.AtTurn turn row.sequence)
    (hactive : actor'.activeRequestId = if turn = row.sequence then some row.requestId
      else (s.queue.find (entry.1.sessionScopeHash, turn)).map (·.requestId)) :
    s'.InTurn actor' turn := by
  have hkey : ∀ n, (entry.1.sessionScopeHash, row.sequence) = (entry.1.sessionScopeHash, n) ↔
      row.sequence = n := by
    intro n
    rw [Prod.mk.injEq]
    exact and_iff_right rfl
  constructor
  · exact hfirst
  · rw [h.next]
    omega
  · intro n
    rw [h.scope, h.queue, h.next]
    by_cases hn : row.sequence = n
    · rw [if_pos ((hkey n).mpr hn)]
      have hrow := (h.fresh hs).1
      simp only [Option.isSome_some, true_iff]
      omega
    · rw [if_neg ((hkey n).not.mpr hn), (h.fresh hs).2 n]
      omega
  · intro n r hr
    rw [h.scope, h.queue] at hr
    by_cases hn : row.sequence = n
    · rw [if_pos ((hkey n).mpr hn)] at hr
      cases hr
      rw [← hn]
      exact hrow
    · rw [if_neg ((hkey n).not.mpr hn)] at hr
      exact hprogress n r hr
  · rw [h.scope, h.queue, hactive]
    by_cases hn : turn = row.sequence
    · rw [if_pos hn, if_pos ((hkey turn).mpr hn.symm), Option.map_some]
    · rw [if_neg hn, if_neg ((hkey turn).not.mpr fun heq => hn heq.symm)]

lemma Enqueued.exists_turn (h : s.Enqueued s' entry actor' row) (hs : s.Serialised) :
    ∃ turn, s'.InTurn actor' turn := by
  rcases h.turn with ⟨hnone, hone, hisActive, hactive⟩ | ⟨actor, hactor, hnext, hcase⟩
  · refine ⟨1, h.inTurn hs (le_refl 1) (by omega) ?_ ?_ ?_⟩
    · intro n r hr
      have hattended := hs.attended _ r hr
      rw [hnone] at hattended
      cases hattended
    · exact ⟨fun hlt => by omega, fun _ => hisActive, fun hlt => by omega⟩
    · rw [if_pos hone.symm]
      exact hactive
  · have hscope : actor.sessionScopeHash = entry.1.sessionScopeHash := Table.key_of_find hactor
    obtain ⟨turn, hturn⟩ := hs.turns _ actor hactor
    have hlast := hturn.last
    have hidle := hturn.idle_iff
    have hprogress := hturn.progress
    rw [hscope] at hprogress
    rcases hcase with ⟨hnone, hisActive, hactive⟩ | ⟨hbusy, hisQueued, hactive⟩
    · have heq := hidle.mp hnone
      refine ⟨turn, h.inTurn hs hturn.first (by omega) hprogress ?_ ?_⟩
      · exact ⟨fun hlt => by omega, fun _ => hisActive, fun hlt => by omega⟩
      · rw [if_pos (by omega), hactive]
    · have hne : turn ≠ actor.nextSequence := fun heq => hbusy (hidle.mpr heq)
      refine ⟨turn, h.inTurn hs hturn.first (by omega) hprogress ?_ ?_⟩
      · exact ⟨fun hlt => by omega, fun heq => by omega, fun _ => hisQueued⟩
      · rw [if_neg (by omega), hactive, hturn.active, hscope]

lemma Enqueued.serialised (h : s.Enqueued s' entry actor' row) (hs : s.Serialised) : s'.Serialised where
  registered := by
    intro k e he
    rw [h.journal] at he
    split at he
    · next hk =>
      cases he
      refine ⟨row.sequence, row, ?_, h.requestId.trans hk⟩
      rw [h.queue, if_pos rfl]
    · obtain ⟨n, r, hr, hid⟩ := hs.registered k e he
      exact ⟨n, r, h.find_old hs hr, hid⟩
  journaled := by
    intro k r hr
    rw [h.journal]
    rw [h.queue] at hr
    split at hr
    · cases hr
      rw [if_pos h.requestId.symm]
      rfl
    · split
      · rfl
      · exact hs.journaled k r hr
  attended := by
    intro k r hr
    rw [h.actors]
    rw [h.queue] at hr
    split at hr
    · next hk =>
      rw [← hk, if_pos rfl]
      rfl
    · split
      · rfl
      · exact hs.attended k r hr
  turns := by
    intro scope actor hactor
    rw [h.actors] at hactor
    split at hactor
    · cases hactor
      exact h.exists_turn hs
    · next hscope =>
      have hkey : actor.sessionScopeHash = scope := Table.key_of_find hactor
      obtain ⟨turn, hturn⟩ := hs.turns scope actor hactor
      refine ⟨turn, hturn.of_queue fun n => ?_⟩
      rw [h.queue, if_neg]
      rw [Prod.mk.injEq, hkey]
      exact fun heq => hscope heq.1.symm

/-! ### Completion -/

/-- The active row `row` of a session completes and the row after it becomes active. -/
structure Advanced (s s' : SessionStore) (actor actor' : SessionActor) (row : QueueRow)
    (activatedAtMs completedAtMs : ℕ) : Prop where
  journal : s'.journal = s.journal
  found : s.actors.find row.sessionScopeHash = some actor
  actors : ∀ k, s'.actors.find k =
    if k = row.sessionScopeHash then some actor' else s.actors.find k
  queue : ∀ scope n, s'.queue.find (scope, n) = if scope = row.sessionScopeHash then
      (s.queue.find (scope, n)).map (·.turned row.sequence activatedAtMs completedAtMs)
    else s.queue.find (scope, n)
  scope : actor'.sessionScopeHash = row.sessionScopeHash
  next : actor'.nextSequence = actor.nextSequence
  active : actor'.activeRequestId =
    (s.queue.find (row.sessionScopeHash, row.sequence + 1)).map (·.requestId)

lemma updateQueueRow_cases {selected : QueueProgress → Bool}
    {progress : QueueProgress} {e : StoreError}
    (h : s.updateQueueRow row selected progress e = .ok s')
    (hrow : s.queue.find (row.sessionScopeHash, row.sequence) = some row) :
    selected row.progress = true ∧ (∀ k, s'.queue.find k =
      if k = (row.sessionScopeHash, row.sequence) then some { row with progress := progress }
      else s.queue.find k) ∧ s'.journal = s.journal ∧ s'.actors = s.actors := by
  simp only [updateQueueRow, eq_ok_iff] at h
  obtain ⟨queue, hupdate, rfl⟩ := h
  obtain ⟨hselected, hfind⟩ := updateOne_find hupdate hrow
  rw [Bool.and_eq_true] at hselected
  exact ⟨hselected.2, hfind, rfl, rfl⟩

/-- The first queued row of a session has the least number. -/
lemma nextQueued_eq_some {next : QueueRow} (h : s.nextQueued scope = some next) :
    next ∈ s.queue.rows ∧ next.sessionScopeHash = scope ∧ next.progress.isQueued = true ∧
      ∀ row ∈ s.queue.rows, row.sessionScopeHash = scope → row.progress.isQueued = true →
        next.sequence ≤ row.sequence := by
  have hmem := mem_of_head? h
  rw [mem_orderBy, mem_filter, sessionRows, mem_filter, decide_eq_true_eq] at hmem
  refine ⟨hmem.1.1, hmem.1.2, hmem.2, fun row hrow hscope hqueued => ?_⟩
  refine orderBy_head_le h ?_
  rw [mem_filter, sessionRows, mem_filter, decide_eq_true_eq]
  exact ⟨⟨hrow, hscope⟩, hqueued⟩

lemma nextQueued_eq_none (h : s.nextQueued scope = none) :
    ∀ row ∈ s.queue.rows, row.sessionScopeHash = scope → row.progress.isQueued = false := by
  intro row hrow hscope
  by_contra hqueued
  rw [Bool.not_eq_false] at hqueued
  have hempty := List.head?_eq_none_iff.mp h
  have hmem : row ∈ orderBy (fun r r' : QueueRow => decide (r.sequence ≤ r'.sequence))
      ((s.sessionRows scope).filter (·.progress.isQueued)) := by
    rw [mem_orderBy, mem_filter, sessionRows, mem_filter, decide_eq_true_eq]
    exact ⟨⟨hrow, hscope⟩, hqueued⟩
  rw [hempty] at hmem
  cases hmem

/-- When the rows after `turn` and no others are queued, row `turn + 1` comes next. -/
lemma nextQueued_eq (turn : ℕ)
    (hqueued : ∀ n row, s.queue.find (scope, n) = some row →
      (row.progress.isQueued = true ↔ turn < n))
    (hgap : ∀ n, turn < n → (s.queue.find (scope, n)).isSome = true →
      (s.queue.find (scope, turn + 1)).isSome = true) :
    s.nextQueued scope = s.queue.find (scope, turn + 1) := by
  cases hnext : s.nextQueued scope with
  | none =>
    cases hfind : s.queue.find (scope, turn + 1) with
    | none => rfl
    | some row =>
      have hkey := key_of_find hfind
      rw [Prod.mk.injEq] at hkey
      have hnot := nextQueued_eq_none hnext row (mem_of_find hfind) hkey.1
      rw [(hqueued _ row hfind).mpr (Nat.lt_succ_self turn)] at hnot
      cases hnot
  | some next =>
    obtain ⟨hmem, hscope, hisQueued, hleast⟩ := nextQueued_eq_some hnext
    have hfind := find_queue hmem hscope
    have hlt := (hqueued _ next hfind).mp hisQueued
    obtain ⟨row, hrow⟩ := Option.isSome_iff_exists.mp (hgap _ hlt (by rw [hfind]; rfl))
    have hkey := key_of_find hrow
    rw [Prod.mk.injEq] at hkey
    have hle := hleast row (mem_of_find hrow) hkey.1
      ((hqueued _ row hrow).mpr (Nat.lt_succ_self turn))
    have hsequence : next.sequence = turn + 1 := by omega
    rw [← hsequence, hfind]

/-- After the active row has completed, the row after it comes next. -/
lemma InTurn.next_queued (h : s.InTurn actor turn) {progress : QueueProgress} (hprogress : progress.isCompleted = true)
    (hscope : row.sessionScopeHash = actor.sessionScopeHash) (hsequence : row.sequence = turn)
    (hqueue : ∀ k, s'.queue.find k =
      if k = (row.sessionScopeHash, row.sequence) then some { row with progress := progress }
      else s.queue.find k) :
    s'.nextQueued row.sessionScopeHash =
      s.queue.find (row.sessionScopeHash, row.sequence + 1) := by
  have hother : ∀ n, n ≠ row.sequence → s'.queue.find (row.sessionScopeHash, n) =
      s.queue.find (row.sessionScopeHash, n) := by
    intro n hn
    rw [hqueue, if_neg]
    rw [Prod.mk.injEq]
    exact fun heq => hn heq.2
  rw [nextQueued_eq row.sequence, hother _ (by omega)]
  · intro n r hr
    by_cases hn : n = row.sequence
    · subst hn
      rw [hqueue, if_pos rfl] at hr
      cases hr
      have hnot : progress.isQueued ≠ true := by
        cases progress with
        | queued => cases hprogress
        | active _ => cases hprogress
        | completed _ _ => exact Bool.false_ne_true
      exact ⟨fun hqueued => absurd hqueued hnot, fun hlt => absurd hlt (lt_irrefl _)⟩
    · rw [hother n hn, hscope] at hr
      rw [hsequence]
      exact (h.progress n r hr).queued_iff
  · intro n hn hsome
    rw [hother n (by omega), hscope, h.sequences] at hsome
    rw [hother _ (by omega), hscope, h.sequences]
    omega

variable {next : Option QueueRow} {activatedAtMs : ℕ}

lemma promoteNext_cases
    (h : s.promoteNext scope activatedAtMs = .ok (next, s')) :
    s'.journal = s.journal ∧ s'.actors = s.actors ∧
      next.map (·.requestId) = (s.nextQueued scope).map (·.requestId) ∧
      ((s.nextQueued scope = none ∧ s'.queue = s.queue) ∨
        ∃ row, s.nextQueued scope = some row ∧ ∀ k, s'.queue.find k =
          if k = (row.sessionScopeHash, row.sequence) then
            some { row with progress := .active activatedAtMs }
          else s.queue.find k) := by
  unfold promoteNext at h
  cases hnext : s.nextQueued scope with
  | none =>
    simp only [hnext, pure_eq_ok] at h
    cases h
    exact ⟨rfl, rfl, rfl, .inl ⟨rfl, rfl⟩⟩
  | some row =>
    simp only [hnext, eq_ok_iff] at h
    obtain ⟨-, t, hupdate, ⟨⟩⟩ := h
    obtain ⟨hmem, -⟩ := nextQueued_eq_some hnext
    obtain ⟨-, hqueue, hjournal, hactors⟩ :=
      updateQueueRow_cases hupdate (find_queue hmem rfl)
    exact ⟨hjournal, hactors, rfl, .inr ⟨row, rfl, hqueue⟩⟩

variable {completedAtMs : ℕ}

/-- The two rewritten rows are row `turn` and the row after it. -/
lemma turned_queue
    (hrow : s.queue.find (row.sessionScopeHash, row.sequence) = some row)
    {after : Canon × ℕ → Option QueueRow}
    (hafter : ∀ k, after k = if k = (row.sessionScopeHash, row.sequence + 1) then
        (s.queue.find k).map fun r => { r with progress := .active completedAtMs }
      else if k = (row.sessionScopeHash, row.sequence) then
        some { row with progress := .completed activatedAtMs completedAtMs }
      else s.queue.find k) (scope : Canon) (n : ℕ) :
    after (scope, n) = if scope = row.sessionScopeHash then
        (s.queue.find (scope, n)).map (·.turned row.sequence activatedAtMs completedAtMs)
      else s.queue.find (scope, n) := by
  rw [hafter]
  by_cases hscope : scope = row.sessionScopeHash
  · subst hscope
    rw [if_pos rfl]
    by_cases hnext : n = row.sequence + 1
    · subst hnext
      rw [if_pos rfl]
      cases hfind : s.queue.find (row.sessionScopeHash, row.sequence + 1) with
      | none => rfl
      | some r =>
        have hkey := key_of_find hfind
        rw [Prod.mk.injEq] at hkey
        simp [QueueRow.turned, hkey.2]
    · rw [if_neg (by simpa using hnext)]
      by_cases hhere : n = row.sequence
      · subst hhere
        rw [if_pos rfl, hrow]
        simp [QueueRow.turned]
      · rw [if_neg (by simpa using hhere)]
        cases hfind : s.queue.find (row.sessionScopeHash, n) with
        | none => rfl
        | some r =>
          have hkey := key_of_find hfind
          rw [Prod.mk.injEq] at hkey
          obtain ⟨-, rfl⟩ := hkey
          simp [QueueRow.turned, hhere, hnext]
  · have hne : ∀ m, (scope, n) ≠ (row.sessionScopeHash, m) := by
      intro m heq
      rw [Prod.mk.injEq] at heq
      exact hscope heq.1
    rw [if_neg (hne _), if_neg (hne _), if_neg hscope]

lemma completeActive_cases (hs : s.Serialised)
    (hactor : s.actors.find row.sessionScopeHash = some actor) (hrow : row ∈ s.queue.rows)
    (hactive : row.progress = .active activatedAtMs)
    (h : s.completeActive actor row activatedAtMs completedAtMs = .ok (next, s')) :
    ∃ actor', s.Advanced s' actor actor' row activatedAtMs completedAtMs := by
  simp only [completeActive, eq_ok_iff] at h
  obtain ⟨-, -, completed, hcompleted, ⟨next, promoted⟩, hpromoted, actors, hactors, ⟨⟩⟩ := h
  have hfind := find_queue hrow rfl
  have hscope : actor.sessionScopeHash = row.sessionScopeHash := Table.key_of_find hactor
  obtain ⟨-, hqueue, hjournal, hsameActors⟩ := updateQueueRow_cases hcompleted hfind
  obtain ⟨hjournal', hsameActors', hnextId, hpromote⟩ := promoteNext_cases hpromoted
  obtain ⟨turn, hturn⟩ := hs.turns _ actor hactor
  have hsequence : row.sequence = turn :=
    (hturn.of_mem hrow hscope.symm).active_iff.mp (by rw [hactive]; rfl)
  have hnext : completed.nextQueued row.sessionScopeHash =
      s.queue.find (row.sessionScopeHash, row.sequence + 1) :=
    hturn.next_queued rfl hscope.symm hsequence hqueue
  rw [hsameActors', hsameActors] at hactors
  obtain ⟨-, hactorsFind⟩ := Table.updateOne_find hactors hactor
  refine ⟨_,
    { journal := hjournal'.trans hjournal
      found := hactor
      actors := hactorsFind
      queue := ?_
      scope := hscope
      next := rfl
      active := ?_ }⟩
  · refine turned_queue hfind fun k => ?_
    show promoted.queue.find k = _
    rcases hpromote with ⟨hnone, hsame⟩ | ⟨r, hsome, hqueue'⟩
    · rw [hsame, hqueue]
      by_cases hk : k = (row.sessionScopeHash, row.sequence + 1)
      · subst hk
        rw [if_pos rfl, if_neg (by simp), ← hnext, hnone]
        rfl
      · rw [if_neg hk]
    · rw [hnext] at hsome
      have hkey := key_of_find hsome
      rw [hqueue', hqueue, hkey]
      by_cases hk : k = (row.sessionScopeHash, row.sequence + 1)
      · subst hk
        rw [if_pos rfl, if_pos rfl, hsome]
        rfl
      · rw [if_neg hk, if_neg hk]
  · rw [← hnext]
    exact hnextId

lemma Advanced.serialised (hs : s.Serialised) (hrow : row ∈ s.queue.rows)
    (hactive : row.progress = .active activatedAtMs)
    (h : s.Advanced s' actor actor' row activatedAtMs completedAtMs) : s'.Serialised := by
  -- every row is still there, with its request
  have hforth : ∀ scope n r, s.queue.find (scope, n) = some r →
      ∃ r', s'.queue.find (scope, n) = some r' ∧ r'.requestId = r.requestId := by
    intro scope n r hr
    rw [h.queue, hr]
    split
    · exact ⟨_, rfl, rfl⟩
    · exact ⟨r, rfl, rfl⟩
  have hback : ∀ scope n r', s'.queue.find (scope, n) = some r' →
      ∃ r, s.queue.find (scope, n) = some r ∧ r'.requestId = r.requestId := by
    intro scope n r' hr'
    rw [h.queue] at hr'
    split at hr'
    · obtain ⟨r, hr, rfl⟩ := Option.map_eq_some_iff.mp hr'
      exact ⟨r, hr, rfl⟩
    · exact ⟨r', hr', rfl⟩
  constructor
  · intro k entry hentry
    rw [h.journal] at hentry
    obtain ⟨n, r, hr, hid⟩ := hs.registered k entry hentry
    obtain ⟨r', hr', hid'⟩ := hforth _ n r hr
    exact ⟨n, r', hr', hid'.trans hid⟩
  · intro k r' hr'
    obtain ⟨r, hr, hid⟩ := hback k.1 k.2 r' hr'
    rw [h.journal, hid]
    exact hs.journaled _ r hr
  · intro k r' hr'
    obtain ⟨r, hr, -⟩ := hback k.1 k.2 r' hr'
    rw [h.actors]
    split
    · rfl
    · exact hs.attended _ r hr
  · intro scope a ha
    rw [h.actors] at ha
    split at ha
    · cases ha
      have hscope : actor.sessionScopeHash = row.sessionScopeHash := Table.key_of_find h.found
      obtain ⟨turn, hturn⟩ := hs.turns _ actor h.found
      have hsequence : row.sequence = turn :=
        (hturn.of_mem hrow hscope.symm).active_iff.mp (by rw [hactive]; rfl)
      have hlt := (hturn.sequences turn).mp (by
        rw [hscope, ← hsequence, find_queue hrow rfl]
        rfl)
      refine ⟨turn + 1, ?_⟩
      constructor
      · omega
      · rw [h.next]
        omega
      · intro n
        rw [h.scope, h.queue, if_pos rfl, h.next, Option.isSome_map, ← hscope]
        exact hturn.sequences n
      · intro n r' hr'
        rw [h.scope, h.queue, if_pos rfl] at hr'
        obtain ⟨r, hr, rfl⟩ := Option.map_eq_some_iff.mp hr'
        have hkey := key_of_find hr
        rw [Prod.mk.injEq] at hkey
        rw [← hscope] at hr
        have hprogress := hturn.progress n r hr
        simp only [QueueRow.turned, hkey.2, hsequence]
        constructor
        · intro hlt
          by_cases hn : n = turn
          · rw [if_pos hn]
            rfl
          · rw [if_neg hn, if_neg (by omega)]
            exact hprogress.before (by omega)
        · intro heq
          rw [if_neg (by omega), if_pos heq]
          rfl
        · intro hgt
          rw [if_neg (by omega), if_neg (by omega)]
          exact hprogress.after (by omega)
      · rw [h.active, h.scope, h.queue, if_pos rfl, hsequence, Option.map_map]
        rfl
    · next hne =>
      have hkey : a.sessionScopeHash = scope := Table.key_of_find ha
      obtain ⟨turn, hturn⟩ := hs.turns scope a ha
      refine ⟨turn, hturn.of_queue fun n => ?_⟩
      rw [h.queue, if_neg (by rw [hkey]; exact hne)]

/-- What an operation does to the sessions. -/
inductive SessionMove (s s' : SessionStore) : Prop where
  | same (h : s.SameSessions s')
  | enqueued (entry : Sealed admitted) (actor' : SessionActor) (row : QueueRow)
      (h : s.Enqueued s' entry actor' row)
  | advanced (t : SessionStore) (actor actor' : SessionActor) (row : QueueRow)
      (activatedAtMs completedAtMs : ℕ) (mem : row ∈ s.queue.rows)
      (active : row.progress = .active activatedAtMs)
      (h : s.Advanced t actor actor' row activatedAtMs completedAtMs) (same : t.SameSessions s')

lemma completeSessionRequest_cases {requestId : Canon}
    {release : Bool} (hs : s.Serialised)
    (h : s.completeSessionRequest scope requestId completedAtMs release = .ok (next, s')) :
    s.SessionMove s' := by
  simp only [completeSessionRequest, eq_ok_iff] at h
  obtain ⟨actor, hactor, row, hrow, h⟩ := h
  have hmem := mem_of_find?_eq_some hrow
  rw [sessionRows, mem_filter, decide_eq_true_eq] at hmem
  cases hprogress : row.progress with
  | queued =>
    simp only [hprogress] at h
    cases h
  | completed _ _ =>
    simp only [hprogress, eq_ok_iff] at h
    obtain ⟨t, hrelease, ⟨⟩⟩ := h
    exact .same (releaseIf_cases hrelease).1
  | active activatedAtMs =>
    simp only [hprogress, eq_ok_iff] at h
    obtain ⟨⟨next', t⟩, hcomplete, t', hrelease, ⟨⟩⟩ := h
    rw [← hmem.2] at hactor
    obtain ⟨actor', hadvanced⟩ := completeActive_cases hs hactor hmem.1 hprogress hcomplete
    exact .advanced t actor actor' row activatedAtMs completedAtMs hmem.1 hprogress hadvanced
      (releaseIf_cases hrelease).1

lemma apply_sessionMove (hs : s.Serialised) (i : SessionOp) : s.SessionMove (s.apply i).1 := by
  have hrefl : s.SessionMove s := .same (.refl s)
  cases i with
  | registerRequest envelope ingressSha256 createdAtMs =>
    refine committed_fst hrefl fun a t ht => ?_
    rcases registerRequest_cases ht with hsame | ⟨entry, actor', row, -, henqueued⟩
    · exact .same hsame
    · exact .enqueued entry actor' row henqueued
  | completeSessionRequest scope requestId completedAtMs release =>
    exact committed_fst hrefl fun a t ht => completeSessionRequest_cases hs ht
  | activateRequestRun requestId scope epoch owner activatedAtMs duration =>
    exact committed_fst hrefl fun a t ht => .same (activateRequestRun_cases ht).1
  | acquireGenerationLease q =>
    exact committed_fst hrefl fun a t ht => .same (acquireGenerationLease_cases ht).1
  | heartbeatGenerationLease requestId leaseId owner nowMs duration =>
    exact committed_fst hrefl fun a t ht => .same (heartbeatGenerationLease_cases ht).1
  | recoverExpiredActiveRequest before epoch owner recoveredAtMs duration requestId =>
    exact committed_fst hrefl fun a t ht => .same (recoverExpiredActiveRequest_cases ht).1
  | cancelGeneration requestId reasonCode cancelledAtMs =>
    exact committed_fst hrefl fun a t ht => .same (cancelGeneration_cases ht).1
  | releaseGeneration requestId releasedAtMs =>
    exact committed_fst hrefl fun a t ht => .same (releaseGeneration_cases ht).1
  | recordFencedResult fence resultId resultSha256 observedAtMs =>
    refine committed_fst hrefl fun a t ht => ?_
    rcases recordFencedResult_cases ht with ⟨rfl, -⟩ | ⟨row, results, rfl, -⟩
    · exact hrefl
    · exact .same ⟨rfl, rfl, rfl⟩
  | writeAggregates aggregates => exact .same ⟨rfl, rfl, rfl⟩
  | loseInboundPayload requestId => exact .same ⟨rfl, rfl, rfl⟩

lemma SessionMove.serialised (hs : s.Serialised) (h : s.SessionMove s') : s'.Serialised := by
  cases h with
  | same h => exact hs.of_same h
  | enqueued entry actor' row h => exact h.serialised hs
  | advanced t actor actor' row activatedAtMs completedAtMs mem active h same =>
    exact (h.serialised hs mem active).of_same same

lemma apply_serialised (hs : s.Serialised) (i : SessionOp) : (s.apply i).1.Serialised :=
  (apply_sessionMove hs i).serialised hs

lemma empty_serialised : empty.Serialised where
  registered := fun _ _ h => by cases h
  journaled := fun _ _ h => by cases h
  attended := fun _ _ h => by cases h
  turns := fun _ _ h => by cases h

/-! ### Histories -/

/-- Every row of `s` is in `s'` at a later time. -/
def RowsLater (s s' : SessionStore) : Prop :=
  ∀ row ∈ s.queue.rows, ∃ row' ∈ s'.queue.rows, row.Later row'

theorem RowsLater.refl (s : SessionStore) : s.RowsLater s :=
  fun row hrow => ⟨row, hrow, rfl, rfl, rfl, rfl, .same⟩

lemma RowsLater.of_queue (h : s'.queue = s.queue) : s.RowsLater s' := by
  intro row hrow
  rw [← h] at hrow
  exact ⟨row, hrow, rfl, rfl, rfl, rfl, .same⟩

end SessionStore

theorem QueueProgress.Later.trans {p' p'' : QueueProgress} (h : p.Later p')
    (h' : p'.Later p'') : p.Later p'' := by
  cases h with
  | same => exact h'
  | promoted _ queued => exact .promoted _ queued
  | completed activatedAtMs completedAtMs active =>
    cases h' with
    | same => exact .completed _ _ active
    | promoted _ queued => cases queued
    | completed _ _ active' => cases active'

theorem QueueRow.Later.trans {row row' row'' : QueueRow} (h : row.Later row')
    (h' : row'.Later row'') : row.Later row'' :=
  ⟨h'.sessionScopeHash.trans h.sessionScopeHash, h'.sequence.trans h.sequence,
    h'.requestId.trans h.requestId, h'.enqueuedAtMs.trans h.enqueuedAtMs,
    h.progress.trans h'.progress⟩

namespace SessionStore

variable {s : SessionStore}

variable {t : SessionStore}

theorem RowsLater.trans {u v : SessionStore} (h : t.RowsLater u) (h' : u.RowsLater v) :
    t.RowsLater v := by
  intro row hrow
  obtain ⟨row', hrow', hlater⟩ := h row hrow
  obtain ⟨row'', hrow'', hlater'⟩ := h' row' hrow'
  exact ⟨row'', hrow'', hlater.trans hlater'⟩

lemma turned_later (ht : t.Serialised) {row r : QueueRow}
    {activatedAtMs completedAtMs : ℕ} (hrow : row ∈ t.queue.rows)
    (hactive : row.progress = .active activatedAtMs) (hr : r ∈ t.queue.rows)
    (hscope : r.sessionScopeHash = row.sessionScopeHash) :
    r.Later (r.turned row.sequence activatedAtMs completedAtMs) := by
  refine ⟨rfl, rfl, rfl, rfl, ?_⟩
  obtain ⟨actor, turn, -, hkey, hturn, hprogress⟩ := ht.row_inTurn hrow
  have hsequence := hprogress.active_iff.mp (by rw [hactive]; rfl)
  have hprogress' := hturn.of_mem hr (hscope.trans hkey.symm)
  unfold QueueRow.turned
  dsimp only
  by_cases hhere : r.sequence = row.sequence
  · rw [if_pos hhere]
    have hsame : r = row := t.queue.table.eq_of_key_eq hr hrow (by
      rw [Prod.mk.injEq]
      exact ⟨hscope, hhere⟩)
    rw [hsame]
    exact .completed _ _ hactive
  · rw [if_neg hhere]
    by_cases hnext : r.sequence = row.sequence + 1
    · rw [if_pos hnext]
      exact .promoted _ (hprogress'.after (by omega))
    · rw [if_neg hnext]
      exact .same

lemma SessionMove.rowsLater {u : SessionStore} (ht : t.Serialised) (h : t.SessionMove u) :
    t.RowsLater u := by
  cases h with
  | same h => exact .of_queue h.queue
  | enqueued entry actor' row h =>
    intro r hr
    have hfind := h.find_old ht (find_of_mem hr)
    exact ⟨r, mem_of_find hfind, rfl, rfl, rfl, rfl, .same⟩
  | advanced v actor actor' row activatedAtMs completedAtMs mem active h same =>
    refine RowsLater.trans (u := v) ?_ (.of_queue same.queue)
    intro r hr
    have hfind := find_of_mem hr
    have hafter := h.queue r.sessionScopeHash r.sequence
    rw [hfind] at hafter
    by_cases hscope : r.sessionScopeHash = row.sessionScopeHash
    · rw [if_pos hscope] at hafter
      exact ⟨_, mem_of_find hafter, turned_later ht mem active hr hscope⟩
    · rw [if_neg hscope] at hafter
      exact ⟨r, mem_of_find hafter, rfl, rfl, rfl, rfl, .same⟩

lemma exec_serialised (hs : s.Serialised) (ops : List SessionOp) :
    (sessionMachine.exec s ops).Serialised :=
  Machine.exec_preserves Serialised (fun _ i hs => apply_serialised hs i) hs ops

lemma exec_rowsLater (hs : s.Serialised) (ops : List SessionOp) :
    s.RowsLater (sessionMachine.exec s ops) := by
  induction ops generalizing s with
  | nil => exact .refl s
  | cons i ops ih =>
    exact RowsLater.trans ((apply_sessionMove hs i).rowsLater hs) (ih (apply_serialised hs i))

lemma apply_error {i : SessionOp} {e : StoreError}
    (h : (t.apply i).2 = .error e) : (t.apply i).1 = t := by
  cases i <;> first | exact committed_error h | cases h

end SessionStore

end Tiangong
