import Tiangong.ExecutionLedger

/-!
# The recovery of a ledger tail

A reader that checks each row against its predecessor accepts a prefix of the rows of a run. The
audit stops where this reader does, so a ledger that is cut off there is intact. Whether the cut
keeps the rows up to a known good one is another matter: a row that is missing is noticed at the
next row that is there.
-/
open List Except

namespace Tiangong

namespace LedgerRow

/-- The event of the row raises when it is hashed. -/
def isUnhashable (r : LedgerRow) : Bool :=
  match r.eventJson with
  | .unhashable _ => true
  | _ => false

variable {r : LedgerRow}

lemma event_eq_ok {event : ExecutionLedgerEvent} (h : r.event = .ok event) :
    ∃ e : Sealed ExecutionLedgerEvent.validateEvent, e.1 = event ∧ r = ofEvent e ∧
      event.hasValidHash = true := by
  unfold LedgerRow.event at h
  split at h
  · cases h
  · cases h
  · next e _ =>
    split at h
    · next hagrees =>
      cases h
      exact ⟨e, rfl, hagrees.2, hagrees.1⟩
    · cases h

lemma event_seq {event : ExecutionLedgerEvent} (h : r.event = .ok event) :
    event.ledgerSeq = r.ledgerSeq := by
  obtain ⟨e, rfl, rfl, -⟩ := event_eq_ok h
  rfl

lemma ofEvent_event {e : Sealed ExecutionLedgerEvent.validateEvent}
    (h : e.1.hasValidHash = true) : (ofEvent e).event = .ok e.1 := by
  show (if e.1.hasValidHash = true ∧ ofEvent e = ofEvent e then _ else _) = _
  rw [if_pos ⟨h, rfl⟩]

/-- An error that the audit does not catch comes from a row that cannot be hashed. -/
lemma event_eq_error {e : StoreError} (h : r.event = .error e) :
    (∃ reason, e = .corruption reason) ∨ r.isUnhashable = true := by
  unfold LedgerRow.event at h
  unfold isUnhashable
  split at h
  · cases h
    exact .inl ⟨_, rfl⟩
  · next htext =>
    rw [htext]
    exact .inr rfl
  · split at h
    · cases h
    · cases h
      exact .inl ⟨_, rfl⟩

lemma event_of_isUnhashable (h : r.isUnhashable = true) :
    ∃ text, r.event = .error (.value text) := by
  unfold isUnhashable at h
  split at h
  · next text htext =>
    refine ⟨text, ?_⟩
    rw [LedgerRow.event, htext]
  · cases h

end LedgerRow

/-- Read the row after the event `last`: a valid event that follows it and is chained to it. -/
def readRow (last : ℕ × Canon) (row : LedgerRow) : Option (ℕ × Canon) :=
  match row.event with
  | .ok event =>
    if event.ledgerSeq = last.1 + 1 ∧ event.prevEventHash = last.2 then
      some (last.1 + 1, event.eventHash)
    else none
  | .error _ => none

lemma readRow_eq_some {last last' : ℕ × Canon} {row : LedgerRow}
    (h : readRow last row = some last') : ∃ event, row.event = .ok event ∧
      event.ledgerSeq = last.1 + 1 ∧ event.prevEventHash = last.2 ∧
        last' = (last.1 + 1, event.eventHash) := by
  unfold readRow at h
  split at h
  · next event hevent =>
    split at h
    · next hfits =>
      cases h
      exact ⟨event, hevent, hfits.1, hfits.2, rfl⟩
    · cases h
  · cases h

/-- A chain of rows counts the sequence numbers up one by one. -/
lemma foldlM_readRow {last last' : ℕ × Canon} {rows : List LedgerRow}
    (h : rows.foldlM readRow last = some last') : last'.1 = last.1 + rows.length ∧
      ∀ row ∈ rows, last.1 < row.ledgerSeq ∧ row.ledgerSeq ≤ last'.1 := by
  induction rows generalizing last with
  | nil =>
    cases h
    exact ⟨rfl, fun row hrow => by cases hrow⟩
  | cons row rows ih =>
    rw [foldlM_cons, Option.bind_eq_bind, Option.bind_eq_some_iff] at h
    obtain ⟨next, hread, hrest⟩ := h
    obtain ⟨event, hevent, hseq, -, rfl⟩ := readRow_eq_some hread
    have hrow := LedgerRow.event_seq hevent
    obtain ⟨hlast, hrows⟩ := ih hrest
    refine ⟨?_, ?_⟩
    · rw [hlast, length_cons]
      omega
    · intro r hr
      rcases mem_cons.mp hr with rfl | hr
      · omega
      · have hbounds := hrows r hr
        simp only at hbounds
        omega

namespace LedgerStore

variable {s s' : LedgerStore} {run : LedgerRun}

variable {row : LedgerRow}

lemma mem_runRows : row ∈ s.runRows run ↔ row ∈ s.ledger.rows ∧ row.run = run := by
  rw [runRows, mem_orderBy, mem_filter, decide_eq_true_eq]

lemma runRows_sorted (s : LedgerStore) (run : LedgerRun) :
    (s.runRows run).Pairwise fun r r' => r.ledgerSeq < r'.ledgerSeq := by
  have hle : (s.runRows run).Pairwise fun r r' => r.ledgerSeq ≤ r'.ledgerSeq :=
    orderBy_sorted LedgerRow.ledgerSeq _
  have hkeys : ((s.runRows run).map LedgerRow.key).Nodup :=
    ((orderBy_perm _ _).map _).nodup_iff.mpr (s.ledger.filter_keys_nodup _)
  have hne : (s.runRows run).Pairwise fun r r' => r.key ≠ r'.key := pairwise_map.mp hkeys
  refine (hle.and hne).imp_of_mem ?_
  intro r r' hr hr' hboth
  have hrun := (mem_runRows.mp hr).2
  have hrun' := (mem_runRows.mp hr').2
  have hseq : r.ledgerSeq ≠ r'.ledgerSeq := by
    intro heq
    exact hboth.2 (Prod.ext (hrun.trans hrun'.symm) heq)
  have hle' := hboth.1
  omega

lemma runRows_eq {rows : List LedgerRow}
    (hperm : rows.Perm (s.ledger.rows.filter fun r => r.run = run))
    (hsorted : rows.Pairwise fun r r' => r.ledgerSeq < r'.ledgerSeq) : s.runRows run = rows := by
  refine List.Perm.eq_of_pairwise ?_ (runRows_sorted s run) hsorted
    ((orderBy_perm _ _).trans hperm.symm)
  intro r r' _ _ hlt hgt
  omega

/-- Where the reader of the rows of a run stops. -/
def lastValid (s : LedgerStore) (run : LedgerRun) : ℕ × Canon :=
  stoppedAt readRow (0, zeroHash) (s.runRows run)

/-- The longest prefix of gap-free, chained, valid rows. -/
def validRows (s : LedgerStore) (run : LedgerRun) : List LedgerRow :=
  acceptedPrefix readRow (0, zeroHash) (s.runRows run)

def invalidRows (s : LedgerStore) (run : LedgerRun) : List LedgerRow :=
  refusedRest readRow (0, zeroHash) (s.runRows run)

/-- The rows are a gap-free chain of valid events from the first one on, and the head names the
last of them. -/
def Intact (s : LedgerStore) (run : LedgerRun) : Prop :=
  ∃ last, (s.runRows run).foldlM readRow (0, zeroHash) = some last ∧
    s.headNames run last.1 last.2 = true

lemma validRows_append (s : LedgerStore) (run : LedgerRun) :
    s.validRows run ++ s.invalidRows run = s.runRows run :=
  acceptedPrefix_append _ _

lemma foldlM_validRows (s : LedgerStore) (run : LedgerRun) :
    (s.validRows run).foldlM readRow (0, zeroHash) = some (s.lastValid run) :=
  foldlM_acceptedPrefix _ _

lemma length_validRows (s : LedgerStore) (run : LedgerRun) :
    (s.validRows run).length = (s.lastValid run).1 := by
  have hcount := (foldlM_readRow (foldlM_validRows s run)).1
  simp only at hcount
  omega

lemma intact_iff : s.Intact run ↔ s.invalidRows run = [] ∧
    s.headNames run (s.lastValid run).1 (s.lastValid run).2 = true := by
  constructor
  · rintro ⟨last, hlast, hhead⟩
    have hnil : s.invalidRows run = [] := by
      rw [invalidRows, refusedRest_eq_nil_iff, hlast, Option.isSome_some]
    have hall := validRows_append s run
    rw [hnil, append_nil] at hall
    have hsame := foldlM_validRows s run
    rw [hall, hlast] at hsame
    obtain rfl := Option.some.inj hsame
    exact ⟨hnil, hhead⟩
  · rintro ⟨hnil, hhead⟩
    have hall := validRows_append s run
    rw [hnil, append_nil] at hall
    exact ⟨_, by rw [← hall]; exact foldlM_validRows s run, hhead⟩

/-- What the scan reports when it stops after `last`. -/
def scanStop (last : ℕ × Canon) : List LedgerRow → Except StoreError ChainScan
  | [] => .ok (.complete last.1 last.2)
  | row :: _ =>
    match row.event with
    | .error (.corruption reason) => .ok (.broken row.ledgerSeq last.1 last.2 reason)
    | .error e => .error e
    | .ok event => .ok (.broken event.ledgerSeq last.1 last.2
        "execution ledger sequence/hash chain is discontinuous")

/-- The scan stops where the reader does. -/
lemma scanRows_eq (lastSeq : ℕ) (lastHash : Canon) (rows : List LedgerRow) :
    scanRows lastSeq lastHash rows = scanStop (stoppedAt readRow (lastSeq, lastHash) rows)
      (refusedRest readRow (lastSeq, lastHash) rows) := by
  induction rows generalizing lastSeq lastHash with
  | nil => rfl
  | cons row rows ih =>
    unfold scanRows stoppedAt refusedRest
    cases hevent : row.event with
    | error e =>
      have hread : readRow (lastSeq, lastHash) row = none := by
        rw [readRow, hevent]
      rw [hread]
      simp only [scanStop, hevent]
      cases e <;> rfl
    | ok event =>
      by_cases hfits : event.ledgerSeq = lastSeq + 1 ∧ event.prevEventHash = lastHash
      · have hread : readRow (lastSeq, lastHash) row = some (lastSeq + 1, event.eventHash) := by
          rw [readRow, hevent]
          exact if_pos hfits
        rw [hread]
        simp only [hfits.1, hfits.2, ne_eq, not_true_eq_false, or_self, if_false]
        exact ih (lastSeq + 1) event.eventHash
      · have hread : readRow (lastSeq, lastHash) row = none := by
          rw [readRow, hevent]
          exact if_neg hfits
        rw [hread]
        simp only [scanStop, hevent]
        rw [if_pos (not_and_or.mp hfits)]

lemma audit_eq (s : LedgerStore) (run : LedgerRun) : s.auditExecutionLedger run =
    (scanStop (s.lastValid run) (s.invalidRows run)).map
      (s.auditReport run (s.runRows run).length) := by
  rw [auditExecutionLedger, scanRows_eq]
  rfl

/-- What the audit reports, in terms of the reader. -/
lemma audit_cases (s : LedgerStore) (run : LedgerRun) :
    (s.Intact run ∧ s.auditExecutionLedger run =
      .ok (.healthy (s.lastValid run).1 (s.lastValid run).2 (s.runRows run).length)) ∨
    (¬ s.Intact run ∧ s.invalidRows run = [] ∧ ∃ reason, s.auditExecutionLedger run =
      .ok (.unhealthy ((s.lastValid run).1 + 1) (s.lastValid run).1 (s.lastValid run).2 reason)) ∨
    (¬ s.Intact run ∧ ∃ row rows, s.invalidRows run = row :: rows ∧
      ((row.isUnhashable = true ∧ ∃ e, s.auditExecutionLedger run = .error e) ∨
        (row.isUnhashable = false ∧ ∃ reason, s.auditExecutionLedger run =
          .ok (.unhealthy row.ledgerSeq (s.lastValid run).1 (s.lastValid run).2 reason)))) := by
  rw [audit_eq]
  cases hinvalid : s.invalidRows run with
  | nil =>
    cases hhead : s.headNames run (s.lastValid run).1 (s.lastValid run).2 with
    | true =>
      refine .inl ⟨intact_iff.mpr ⟨hinvalid, hhead⟩, ?_⟩
      simp only [scanStop, Except.map, auditReport, hhead, Bool.true_eq_false, if_false]
    | false =>
      refine .inr (.inl ⟨?_, rfl, "execution ledger head disagrees with durable chain", ?_⟩)
      · intro hintact
        rw [(intact_iff.mp hintact).2] at hhead
        cases hhead
      · simp only [scanStop, Except.map, auditReport, hhead, if_true]
  | cons row rows =>
    refine .inr (.inr ⟨?_, row, rows, rfl, ?_⟩)
    · intro hintact
      rw [(intact_iff.mp hintact).1] at hinvalid
      cases hinvalid
    · cases hunhashable : row.isUnhashable with
      | true =>
        obtain ⟨text, hevent⟩ := LedgerRow.event_of_isUnhashable hunhashable
        exact .inl ⟨rfl, .value text, by simp only [scanStop, hevent, Except.map]⟩
      | false =>
        refine .inr ⟨rfl, ?_⟩
        cases hevent : row.event with
        | ok event =>
          refine ⟨"execution ledger sequence/hash chain is discontinuous", ?_⟩
          simp only [scanStop, hevent, LedgerRow.event_seq hevent, Except.map, auditReport]
        | error e =>
          rcases LedgerRow.event_eq_error hevent with ⟨reason, rfl⟩ | htrue
          · exact ⟨reason, by simp only [scanStop, hevent, Except.map, auditReport]⟩
          · rw [hunhashable] at htrue
            cases htrue

lemma audit_healthy_iff : (∃ audit, s.auditExecutionLedger run = .ok audit ∧
    audit.isHealthy = true) ↔ s.Intact run := by
  rcases audit_cases s run with ⟨hintact, haudit⟩ | ⟨hbroken, -, reason, haudit⟩ |
    ⟨hbroken, row, rows, -, ⟨-, e, haudit⟩ | ⟨-, reason, haudit⟩⟩
  · exact iff_of_true ⟨_, haudit, rfl⟩ hintact
  all_goals
    refine iff_of_false ?_ hbroken
    rintro ⟨audit, hreport, hhealthy⟩
    rw [haudit] at hreport
    cases hreport
    try cases hhealthy

/-- The rows before the first refused one have smaller numbers, the others have no smaller ones. -/
lemma filter_validRows {rows : List LedgerRow} (h : s.invalidRows run = row :: rows) :
    (s.runRows run).filter (fun r => r.ledgerSeq < row.ledgerSeq) = s.validRows run := by
  have hsorted := runRows_sorted s run
  rw [← validRows_append, h] at hsorted ⊢
  obtain ⟨-, hrest, hbefore⟩ := pairwise_append.mp hsorted
  rw [filter_append, filter_eq_self.mpr, filter_eq_nil_iff.mpr, append_nil]
  · intro r hr
    rcases mem_cons.mp hr with rfl | hr
    · simp
    · have hlater := rel_of_pairwise_cons hrest hr
      rw [decide_eq_true_eq]
      omega
  · intro r hr
    exact decide_eq_true (hbefore r hr row mem_cons_self)

lemma filter_all_validRows (h : s.invalidRows run = []) :
    (s.runRows run).filter (fun r => r.ledgerSeq < (s.lastValid run).1 + 1) = s.validRows run := by
  have hall := validRows_append s run
  rw [h, append_nil] at hall
  rw [← hall, filter_eq_self]
  intro r hr
  have hbound := ((foldlM_readRow (foldlM_validRows s run)).2 r hr).2
  exact decide_eq_true (by omega)

/-- The cut deletes the rows of the run from a number on and moves the head back. -/
lemma truncateLedger_spec (s : LedgerStore) (run : LedgerRun) (firstInvalidSeq lastSeq : ℕ)
    (lastHash : Canon) (recoveredAtMs : ℕ) :
    ∃ s', s.truncateLedger run firstInvalidSeq lastSeq lastHash recoveredAtMs = .ok s' ∧
      s'.runRows run = (s.runRows run).filter (fun r => r.ledgerSeq < firstInvalidSeq) ∧
      s'.headNames run lastSeq lastHash = true := by
  have hrows : ∀ heads : Table LedgerHead.run, ({ s with
          ledger := s.ledger.delete fun r => r.run = run && firstInvalidSeq ≤ r.ledgerSeq
          heads := heads } : LedgerStore).runRows run =
        (s.runRows run).filter (fun r => r.ledgerSeq < firstInvalidSeq) := by
    intro heads
    apply runRows_eq
    · have hkept : ((s.ledger.rows.filter fun r => r.run = run).filter
          fun r => r.ledgerSeq < firstInvalidSeq).Perm
          ((s.ledger.delete fun r => r.run = run && firstInvalidSeq ≤ r.ledgerSeq).rows.filter
            fun r => r.run = run) := by
        rw [Table.delete_rows, filter_filter, filter_filter]
        refine List.Perm.of_eq (filter_congr fun r _ => ?_)
        by_cases hrun : r.run = run
        · by_cases hseq : r.ledgerSeq < firstInvalidSeq
          · simp [hrun, hseq, Nat.not_le.mpr hseq]
          · simp [hrun, hseq, Nat.not_lt.mp hseq]
        · simp [hrun]
      exact ((orderBy_perm _ _).filter _).trans hkept
    · exact (runRows_sorted s run).filter _
  unfold truncateLedger
  cases hhead : s.heads.find run with
  | none =>
    have hfresh : s.heads.find (LedgerHead.run ⟨run, lastSeq, lastHash, 1, recoveredAtMs⟩) = none :=
      hhead
    obtain ⟨heads, hinsert⟩ := Table.exists_insert hfresh
      (StoreError.integrity "execution_ledger_head")
    refine ⟨_, ?_, hrows heads, ?_⟩
    · simp only [hinsert, bind, bind]
      rfl
    · have hfound := (Table.insert_eq_ok.mp hinsert).find run
      rw [if_pos rfl] at hfound
      simp only [headNames, hfound, decide_true, Bool.and_self]
  | some head =>
    refine ⟨_, rfl, hrows _, ?_⟩
    have hrun : head.run = run := Table.key_of_find hhead
    simp only [headNames, Table.find_update, hhead, Option.map_some, hrun, decide_true, if_true,
      Bool.and_self]

/-- After a cut at the first refused row, the rows are the valid ones and the ledger is intact. -/
lemma recover_cut {firstInvalidSeq knownGoodSeq recoveredAtMs : ℕ} {reason : String}
    (haudit : s.auditExecutionLedger run =
      .ok (.unhealthy firstInvalidSeq (s.lastValid run).1 (s.lastValid run).2 reason))
    (hcut : (s.runRows run).filter (fun r => r.ledgerSeq < firstInvalidSeq) = s.validRows run)
    (hknown : knownGoodSeq < firstInvalidSeq) :
    ∃ recovery, (s.recoverExecutionLedgerTail run knownGoodSeq recoveredAtMs).2 = .ok recovery ∧
      (s.recoverExecutionLedgerTail run knownGoodSeq recoveredAtMs).1.runRows run =
        s.validRows run ∧
      (s.recoverExecutionLedgerTail run knownGoodSeq recoveredAtMs).1.Intact run := by
  obtain ⟨t, htruncate, hrows, hhead⟩ := truncateLedger_spec s run firstInvalidSeq
    (s.lastValid run).1 (s.lastValid run).2 recoveredAtMs
  rw [hcut] at hrows
  have hintact : t.Intact run := ⟨s.lastValid run, by rw [hrows]; exact foldlM_validRows s run, hhead⟩
  have hhealthy := (audit_cases t run).resolve_right (by
    rintro (⟨hbroken, -⟩ | ⟨hbroken, -⟩) <;> exact hbroken hintact)
  have hrecover : s.recoverExecutionLedgerTail run knownGoodSeq recoveredAtMs =
      (t, .ok ⟨.healthy (t.lastValid run).1 (t.lastValid run).2 (t.runRows run).length, true,
        s.countFrom run firstInvalidSeq, some firstInvalidSeq⟩) := by
    unfold recoverExecutionLedgerTail
    simp only [haudit, if_neg (Nat.not_le.mpr hknown), htruncate, hhealthy.2]
  rw [hrecover]
  exact ⟨_, rfl, hrows, hintact⟩

lemma recover_intact (h : s.Intact run) (knownGoodSeq recoveredAtMs : ℕ) :
    ∃ recovery, s.recoverExecutionLedgerTail run knownGoodSeq recoveredAtMs = (s, .ok recovery) := by
  have hhealthy := (audit_cases s run).resolve_right (by
    rintro (⟨hbroken, -⟩ | ⟨hbroken, -⟩) <;> exact hbroken h)
  unfold recoverExecutionLedgerTail
  rw [hhealthy.2]
  exact ⟨_, rfl⟩

lemma recover_refused {firstInvalidSeq lastSeq knownGoodSeq : ℕ} {lastHash : Canon}
    {reason : String}
    (haudit : s.auditExecutionLedger run = .ok (.unhealthy firstInvalidSeq lastSeq lastHash reason))
    (hknown : firstInvalidSeq ≤ knownGoodSeq) (recoveredAtMs : ℕ) :
    ∃ e, s.recoverExecutionLedgerTail run knownGoodSeq recoveredAtMs = (s, .error e) := by
  unfold recoverExecutionLedgerTail
  simp only [haudit, if_pos hknown]
  exact ⟨_, rfl⟩

lemma recover_failed {e : StoreError} (haudit : s.auditExecutionLedger run = .error e)
    (knownGoodSeq recoveredAtMs : ℕ) :
    s.recoverExecutionLedgerTail run knownGoodSeq recoveredAtMs = (s, .error e) := by
  unfold recoverExecutionLedgerTail
  rw [haudit]

/-- The number at which the recovery finds the ledger broken: the next one when the rows end or fit,
and else that of the first row that does not fit, which may be later. -/
def brokenAt (s : LedgerStore) (run : LedgerRun) : ℕ :=
  match s.invalidRows run with
  | [] => (s.lastValid run).1 + 1
  | row :: _ => row.ledgerSeq

/-- The recovery does not cut the broken ledger: its first invalid row cannot be hashed, or it is
found broken at a known good number. -/
def Refuses (s : LedgerStore) (run : LedgerRun) (knownGoodSeq : ℕ) : Prop :=
  (s.invalidRows run).head?.any LedgerRow.isUnhashable = true ∨ s.brokenAt run ≤ knownGoodSeq

/-- The recovery changes nothing on an intact ledger, refuses, or leaves the valid rows. -/
lemma recover_cases (s : LedgerStore) (run : LedgerRun) (knownGoodSeq recoveredAtMs : ℕ) :
    (s.Intact run ∧
      ∃ recovery, s.recoverExecutionLedgerTail run knownGoodSeq recoveredAtMs = (s, .ok recovery)) ∨
    (¬ s.Intact run ∧ s.Refuses run knownGoodSeq ∧
      ∃ e, s.recoverExecutionLedgerTail run knownGoodSeq recoveredAtMs = (s, .error e)) ∨
    (¬ s.Intact run ∧ ¬ s.Refuses run knownGoodSeq ∧ ∃ recovery,
      (s.recoverExecutionLedgerTail run knownGoodSeq recoveredAtMs).2 = .ok recovery ∧
      (s.recoverExecutionLedgerTail run knownGoodSeq recoveredAtMs).1.runRows run =
        s.validRows run ∧
      (s.recoverExecutionLedgerTail run knownGoodSeq recoveredAtMs).1.Intact run) := by
  rcases audit_cases s run with ⟨hintact, -⟩ | ⟨hbroken, hrows, reason, haudit⟩ |
    ⟨hbroken, row, rows, hrows, ⟨hunhashable, e, haudit⟩ | ⟨hhashable, reason, haudit⟩⟩
  · exact .inl ⟨hintact, recover_intact hintact knownGoodSeq recoveredAtMs⟩
  · have hiff : s.Refuses run knownGoodSeq ↔ (s.lastValid run).1 + 1 ≤ knownGoodSeq := by
      simp [Refuses, brokenAt, hrows]
    by_cases hknown : (s.lastValid run).1 + 1 ≤ knownGoodSeq
    · exact .inr (.inl ⟨hbroken, hiff.mpr hknown, recover_refused haudit hknown recoveredAtMs⟩)
    · exact .inr (.inr ⟨hbroken, mt hiff.mp hknown,
        recover_cut haudit (filter_all_validRows hrows) (Nat.not_le.mp hknown)⟩)
  · have hrefuses : s.Refuses run knownGoodSeq := by
      simp [Refuses, hrows, hunhashable]
    exact .inr (.inl ⟨hbroken, hrefuses, e, recover_failed haudit knownGoodSeq recoveredAtMs⟩)
  · have hiff : s.Refuses run knownGoodSeq ↔ row.ledgerSeq ≤ knownGoodSeq := by
      simp [Refuses, brokenAt, hrows, hhashable]
    by_cases hknown : row.ledgerSeq ≤ knownGoodSeq
    · exact .inr (.inl ⟨hbroken, hiff.mpr hknown, recover_refused haudit hknown recoveredAtMs⟩)
    · exact .inr (.inr ⟨hbroken, mt hiff.mp hknown,
        recover_cut haudit (filter_validRows hrows) (Nat.not_le.mp hknown)⟩)

variable {q : LedgerAppend}

lemma buildExecutionLedgerEvent_eq_ok {ledgerSeq : ℕ} {prevEventHash : Canon}
    {event : Sealed ExecutionLedgerEvent.validateEvent}
    (h : buildExecutionLedgerEvent q ledgerSeq prevEventHash = .ok event) :
    event.1.run = q.run ∧ event.1.ledgerSeq = ledgerSeq ∧
      event.1.prevEventHash = prevEventHash ∧ event.1.hasValidHash = true := by
  simp only [buildExecutionLedgerEvent, eq_ok_iff, sealed_eq_ok] at h
  obtain ⟨payload, -, hevent⟩ := h
  rw [hevent]
  exact ⟨rfl, rfl, rfl, ExecutionLedgerEvent.withComputedHash_hasValidHash _⟩

lemma insertLedgerRow_cases (h : s.insertLedgerRow row = .ok s') :
    ∃ ledger, s.ledger.Inserts row ledger ∧ s' = { s with ledger := ledger } := by
  simp only [insertLedgerRow, eq_ok_iff] at h
  obtain ⟨-, ledger, hinsert, rfl⟩ := h
  exact ⟨ledger, Table.insert_eq_ok.mp hinsert, rfl⟩

lemma runRows_insert {ledger : Table LedgerRow.key} (hinserts : s.ledger.Inserts row ledger)
    (hlast : ∀ r ∈ s.runRows row.run, r.ledgerSeq < row.ledgerSeq) :
    ({ s with ledger := ledger } : LedgerStore).runRows row.run = s.runRows row.run ++ [row] := by
  apply runRows_eq
  · show (s.runRows row.run ++ [row]).Perm (ledger.rows.filter _)
    rw [hinserts.rows, filter_append, filter_singleton, decide_eq_true rfl, cond_true]
    exact (orderBy_perm _ _).append_right [row]
  · rw [pairwise_append]
    refine ⟨runRows_sorted s row.run, pairwise_singleton _ _, ?_⟩
    intro r hr r' hr'
    rw [mem_singleton.mp hr']
    exact hlast r hr

variable {event : ExecutionLedgerEvent}

lemma advanceHead_cases {createdAtMs : ℕ} (h : s.advanceHead event createdAtMs = .ok s') :
    ∃ heads, s' = { s with heads := heads } ∧
      s'.headNames event.run event.ledgerSeq event.eventHash = true := by
  unfold advanceHead at h
  cases hhead : s.heads.find event.run with
  | none =>
    simp only [hhead, eq_ok_iff] at h
    obtain ⟨heads, hinsert, rfl⟩ := h
    refine ⟨heads, rfl, ?_⟩
    have hfound := (Table.insert_eq_ok.mp hinsert).find event.run
    rw [if_pos rfl] at hfound
    simp only [headNames, hfound, decide_true, Bool.and_self]
  | some head =>
    simp only [hhead, eq_ok_iff] at h
    obtain ⟨heads, hupdate, rfl⟩ := h
    refine ⟨heads, rfl, ?_⟩
    have hfound := (Table.updateOne_find hupdate hhead).2 event.run
    rw [if_pos rfl] at hfound
    simp only [headNames, hfound, decide_true, Bool.and_self]

theorem Intact.head (h : s.Intact run) :
    (((s.heads.find run).map LedgerHead.headSeq).getD 0 = (s.lastValid run).1 ∧
      ((s.heads.find run).map LedgerHead.headHash).getD zeroHash = (s.lastValid run).2) := by
  obtain ⟨hall, hhead⟩ := intact_iff.mp h
  unfold headNames at hhead
  cases hfound : s.heads.find run with
  | none =>
    rw [hfound] at hhead
    have hzero : (s.lastValid run).1 = 0 := of_decide_eq_true hhead
    have hempty : s.validRows run = [] :=
      eq_nil_of_length_eq_zero (by rw [length_validRows, hzero])
    have hlast := foldlM_validRows s run
    rw [hempty] at hlast
    rw [← Option.some.inj hlast]
    exact ⟨rfl, rfl⟩
  | some head =>
    rw [hfound] at hhead
    simp only [holds_iff] at hhead
    exact hhead

lemma Intact.rows_bounded (h : s.Intact run) :
    ∀ row ∈ s.runRows run, row.ledgerSeq ≤ (s.lastValid run).1 := by
  have hall := validRows_append s run
  rw [(intact_iff.mp h).1, append_nil] at hall
  rw [← hall]
  intro row hrow
  exact ((foldlM_readRow (foldlM_validRows s run)).2 row hrow).2

theorem Intact.append (h : s.Intact q.run) (happend : s.appendNew q = .ok (event, s')) :
    s'.Intact q.run ∧ ∃ e : Sealed ExecutionLedgerEvent.validateEvent, e.1 = event ∧
      s'.runRows q.run = s.runRows q.run ++ [.ofEvent e] := by
  simp only [appendNew, eq_ok_iff] at happend
  obtain ⟨e, hbuild, inserted, hinsert, t, hadvance, ⟨⟩⟩ := happend
  obtain ⟨hrun, hseq, hprev, hhash⟩ := buildExecutionLedgerEvent_eq_ok hbuild
  rw [h.head.1] at hseq
  rw [h.head.2] at hprev
  obtain ⟨ledger, hinserts, rfl⟩ := insertLedgerRow_cases hinsert
  obtain ⟨heads, rfl, hhead⟩ := advanceHead_cases hadvance
  have hlast : ∀ r ∈ s.runRows (LedgerRow.ofEvent e).run,
      r.ledgerSeq < (LedgerRow.ofEvent e).ledgerSeq := by
    intro r hr
    have hrun' : (LedgerRow.ofEvent e).run = q.run := hrun
    rw [hrun'] at hr
    have hbound := h.rows_bounded r hr
    show r.ledgerSeq < e.1.ledgerSeq
    omega
  have hrows := runRows_insert hinserts hlast
  have hrun' : (LedgerRow.ofEvent e).run = q.run := hrun
  rw [hrun'] at hrows
  have hall := validRows_append s q.run
  rw [(intact_iff.mp h).1, append_nil] at hall
  have hrows' : ({ s with ledger := ledger, heads := heads } : LedgerStore).runRows q.run =
      s.runRows q.run ++ [.ofEvent e] := hrows
  refine ⟨⟨(e.1.ledgerSeq, e.1.eventHash), ?_, by rw [← hrun]; exact hhead⟩, e, rfl, hrows'⟩
  have hfold := foldlM_validRows s q.run
  rw [hall] at hfold
  have hread : readRow (s.lastValid q.run) (.ofEvent e) = some (e.1.ledgerSeq, e.1.eventHash) := by
    rw [readRow, LedgerRow.ofEvent_event hhash]
    simp only [hseq, hprev, and_self, if_true]
  rw [hrows', foldlM_append, hfold]
  show (readRow (s.lastValid q.run) (.ofEvent e)).bind _ = _
  rw [hread]
  rfl

/-- The append passes its own checks, and its event is not in the table yet. -/
structure Admits (s : LedgerStore) (q : LedgerAppend) : Prop where
  key : q.eventKey ≠ ""
  bound : s.assertRequestBinding q.run q.createdAtMs = .ok ()
  contract : ∃ contract, s.executionContract q.run = .ok contract
  event : ∃ e, buildExecutionLedgerEvent q
      (((s.heads.find q.run).map LedgerHead.headSeq).getD 0 + 1)
      (((s.heads.find q.run).map LedgerHead.headHash).getD zeroHash) = .ok e ∧
    ∀ row ∈ s.ledger.rows, (LedgerRow.ofEvent e).clashesWith row = false

lemma exists_advanceHead (s : LedgerStore) (event : ExecutionLedgerEvent) (createdAtMs : ℕ) :
    ∃ s', s.advanceHead event createdAtMs = .ok s' := by
  unfold advanceHead
  cases hhead : s.heads.find event.run with
  | none =>
    have hfresh : s.heads.find (LedgerHead.run
        ⟨event.run, event.ledgerSeq, event.eventHash, 1, createdAtMs⟩) = none := hhead
    obtain ⟨heads, hinsert⟩ := Table.exists_insert hfresh
      (StoreError.integrity "execution_ledger_head")
    exact ⟨{ s with heads := heads }, by simp only [hinsert, bind, bind]; rfl⟩
  | some head =>
    have hone : s.heads.rows.countP (fun h => h.run = event.run && (h.revision = head.revision &&
        h.headSeq = head.headSeq && h.headHash = head.headHash)) = 1 :=
      Table.countP_eq_one (p := fun h => h.revision = head.revision && h.headSeq = head.headSeq &&
        h.headHash = head.headHash) hhead (by simp)
    simp only [Table.updateOne, hone, if_true, bind, bind]
    exact ⟨_, rfl⟩

/-- An intact ledger takes every new event whose append passes its own checks. -/
lemma Intact.accepts (h : s.Intact q.run) (hadmits : s.Admits q) :
    ∃ event s', s.appendExecutionEvent q = .ok ((event, true), s') := by
  obtain ⟨contract, hcontract⟩ := hadmits.contract
  obtain ⟨e, hbuild, hclash⟩ := hadmits.event
  obtain ⟨hrun, hseq, -, -⟩ := buildExecutionLedgerEvent_eq_ok hbuild
  have hrun' : (LedgerRow.ofEvent e).run = q.run := hrun
  have hfresh : s.ledger.find (LedgerRow.key (.ofEvent e)) = none := by
    rw [Table.find_eq_none]
    intro row hrow hkey
    have hrowRun : row.run = q.run := (congrArg Prod.fst hkey).trans hrun
    have hbound := h.rows_bounded row (mem_runRows.mpr ⟨hrow, hrowRun⟩)
    have hrowSeq : row.ledgerSeq = e.1.ledgerSeq := congrArg Prod.snd hkey
    rw [h.head.1] at hseq
    omega
  obtain ⟨ledger, hinsert⟩ := Table.exists_insert hfresh
    (StoreError.integrity "execution_ledger(ledger_seq)")
  have hany : ¬ (s.ledger.rows.any (LedgerRow.ofEvent e).clashesWith) = true := by
    rw [any_eq_true]
    rintro ⟨row, hrow, hclashes⟩
    rw [hclash row hrow] at hclashes
    cases hclashes
  have hinserted : s.insertLedgerRow (.ofEvent e) = .ok { s with ledger := ledger } := by
    simp only [insertLedgerRow, rejectIf_of_not _ hany, hinsert, bind, bind]
    rfl
  obtain ⟨s', hadvance⟩ := exists_advanceHead { s with ledger := ledger } e.1 q.createdAtMs
  have hnew : s.appendNew q = .ok (e.1, s') := by
    simp only [appendNew, hbuild, hinserted, hadvance, bind, Except.bind]
    rfl
  have hkey : s.ledger.rows.find? (fun r => r.run = q.run && r.eventKey = q.eventKey) = none := by
    rw [List.find?_eq_none]
    intro row hrow hsame
    simp only [holds_iff] at hsame
    have hfalse := hclash row hrow
    have heventKey : (LedgerRow.ofEvent e).eventKey = q.eventKey := by
      simp only [buildExecutionLedgerEvent, eq_ok_iff, sealed_eq_ok] at hbuild
      obtain ⟨payload, -, hevent⟩ := hbuild
      show e.1.eventKey = q.eventKey
      rw [hevent]
      rfl
    simp [LedgerRow.clashesWith, hrun', heventKey, hsame.1, hsame.2] at hfalse
  refine ⟨e.1, s', ?_⟩
  simp only [appendExecutionEvent, rejectIf_of_not _ hadmits.key, hadmits.bound, hcontract, hkey,
    hnew, bind, bind]
  rfl

lemma appendExecutionEvent_cases
    {created : Bool} (h : s.appendExecutionEvent q = .ok ((event, created), s')) :
    (created = false ∧ s' = s) ∨ (created = true ∧ s.appendNew q = .ok (event, s')) := by
  unfold appendExecutionEvent at h
  cases hfound : s.ledger.rows.find? fun r => r.run = q.run && r.eventKey = q.eventKey with
  | some existing =>
    simp only [hfound, eq_ok_iff] at h
    obtain ⟨-, _, -, _, -, _, -, ⟨⟩⟩ := h
    exact .inl ⟨rfl, rfl⟩
  | none =>
    simp only [hfound, eq_ok_iff] at h
    obtain ⟨-, _, -, _, -, ⟨_, _⟩, hnew, ⟨⟩⟩ := h
    exact .inr ⟨rfl, hnew⟩

/-- The ledger is intact and appends go on from it: a repeated one changes nothing, a new one adds
its event and leaves the ledger intact, and one that passes its own checks is accepted. -/
structure Continues (s : LedgerStore) (run : LedgerRun) : Prop where
  intact : s.Intact run
  repeated : ∀ q event s', q.run = run → s.appendExecutionEvent q = .ok ((event, false), s') →
    s' = s
  appended : ∀ q event s', q.run = run → s.appendExecutionEvent q = .ok ((event, true), s') →
    s'.Intact run ∧ ∃ e : Sealed ExecutionLedgerEvent.validateEvent, e.1 = event ∧
      s'.runRows run = s.runRows run ++ [.ofEvent e]
  accepted : ∀ q, q.run = run → s.Admits q →
    ∃ event s', s.appendExecutionEvent q = .ok ((event, true), s')

theorem Intact.continues (h : s.Intact run) : s.Continues run where
  intact := h
  repeated := by
    rintro q event s' rfl happend
    rcases appendExecutionEvent_cases happend with ⟨-, hsame⟩ | ⟨hnew, -⟩
    · exact hsame
    · cases hnew
  appended := by
    rintro q event s' rfl happend
    rcases appendExecutionEvent_cases happend with ⟨hold, -⟩ | ⟨-, hnew⟩
    · cases hold
    · exact h.append hnew
  accepted := by
    rintro q rfl hadmits
    exact h.accepts hadmits

/-- What is expected of the audit and of the recovery: the audit reports a healthy ledger exactly
when it is intact; a recovery that succeeds leaves the longest valid prefix, no shorter than the
known good one, and appends go on from it; and a ledger that is broken at or before the known good
number is refused and left alone. -/
structure TailRecovery (s : LedgerStore) (run : LedgerRun) (knownGoodSeq recoveredAtMs : ℕ) :
    Prop where
  audited : (∃ audit, s.auditExecutionLedger run = .ok audit ∧ audit.isHealthy = true) ↔
    s.Intact run
  recovered : ∀ recovery,
    (s.recoverExecutionLedgerTail run knownGoodSeq recoveredAtMs).2 = .ok recovery →
      IsLongestAccepted readRow (0, zeroHash)
        ((s.recoverExecutionLedgerTail run knownGoodSeq recoveredAtMs).1.runRows run)
        (s.runRows run) ∧
      knownGoodSeq ≤
        ((s.recoverExecutionLedgerTail run knownGoodSeq recoveredAtMs).1.runRows run).length ∧
      (s.recoverExecutionLedgerTail run knownGoodSeq recoveredAtMs).1.Continues run
  refused : ¬ s.Intact run → (s.validRows run).length < knownGoodSeq →
    (∃ e, (s.recoverExecutionLedgerTail run knownGoodSeq recoveredAtMs).2 = .error e) ∧
      (s.recoverExecutionLedgerTail run knownGoodSeq recoveredAtMs).1 = s

/-- The valid rows reach the known good one, or the recovery notices that they do not: the ledger is
broken, and its first invalid row is at or before the known good one or cannot be hashed. -/
def KnownGoodHeld (s : LedgerStore) (run : LedgerRun) (knownGoodSeq : ℕ) : Prop :=
  knownGoodSeq ≤ (s.validRows run).length ∨ (¬ s.Intact run ∧ s.Refuses run knownGoodSeq)

lemma intact_validRows (h : s.Intact run) : s.runRows run = s.validRows run := by
  have hall := validRows_append s run
  rw [(intact_iff.mp h).1, append_nil] at hall
  exact hall.symm

end LedgerStore

/-- The recovery does what is expected of it exactly when the known good rows are held. -/
theorem tailRecovery_iff (s : LedgerStore) (run : LedgerRun) (knownGoodSeq recoveredAtMs : ℕ) :
    s.TailRecovery run knownGoodSeq recoveredAtMs ↔ s.KnownGoodHeld run knownGoodSeq := by
  have hlongest : IsLongestAccepted readRow (0, zeroHash) (s.validRows run) (s.runRows run) :=
    acceptedPrefix_isLongest _ _
  rcases s.recover_cases run knownGoodSeq recoveredAtMs with ⟨hintact, recovery, hrecover⟩ |
    ⟨hbroken, hrefuses, e, hrecover⟩ | ⟨hbroken, hcuts, recovery, hanswer, hrows, hintact⟩
  · constructor
    · intro h
      have hreached := (h.recovered recovery (by rw [hrecover])).2.1
      rw [hrecover, LedgerStore.intact_validRows hintact] at hreached
      exact .inl hreached
    · rintro (hreached | ⟨hbroken, -⟩)
      · refine ⟨LedgerStore.audit_healthy_iff, ?_, fun hbroken => absurd hintact hbroken⟩
        intro _ _
        rw [hrecover]
        rw [LedgerStore.intact_validRows hintact] at hlongest ⊢
        exact ⟨hlongest, hreached, hintact.continues⟩
      · exact absurd hintact hbroken
  · refine iff_of_true ⟨LedgerStore.audit_healthy_iff, ?_, ?_⟩ (.inr ⟨hbroken, hrefuses⟩)
    · intro _ hanswer
      rw [hrecover] at hanswer
      cases hanswer
    · intro _ _
      rw [hrecover]
      exact ⟨⟨e, rfl⟩, rfl⟩
  · constructor
    · intro h
      have hreached := (h.recovered recovery hanswer).2.1
      rw [hrows] at hreached
      exact .inl hreached
    · rintro (hreached | ⟨-, hrefuses⟩)
      · refine ⟨LedgerStore.audit_healthy_iff, ?_, ?_⟩
        · intro _ _
          rw [hrows]
          exact ⟨hlongest, hreached, hintact.continues⟩
        · intro _ hshort
          omega
      · exact absurd hrefuses hcuts

def sampleLedgerRun : LedgerRun := ⟨.text "r-1", .text "run-1", 0⟩

def sampleAppend (eventKey : String) : LedgerAppend :=
  { eventKey := eventKey
    run := sampleLedgerRun
    epochIndex := 0
    eventType := "step.planned"
    payload := some .null
    createdAtMs := 1000
    logicalEffectId := none
    attemptId := none
    stepId := none
    effectId := none
    causalParentEventId := none }

def appendedLedger : List String → LedgerStore
  | [] => ⟨.empty, .empty, .empty, .empty⟩
  | eventKey :: eventKeys =>
    match (appendedLedger eventKeys).appendNew (sampleAppend eventKey) with
    | .ok (_, s) => s
    | .error _ => appendedLedger eventKeys

/-- Four events were appended, newest first, and the third row is lost. -/
def gappedLedger : LedgerStore :=
  { appendedLedger ["d", "c", "b", "a"] with
    ledger := (appendedLedger ["d", "c", "b", "a"]).ledger.delete fun r => r.ledgerSeq = 3 }

/-- The third row is known to be good and missing. The recovery finds the ledger broken at the
fourth row and cuts it off after the second. -/
theorem gappedLedger_cut : ¬ ∀ s run knownGoodSeq recoveredAtMs,
      LedgerStore.TailRecovery s run knownGoodSeq recoveredAtMs := by
  intro hclaim
  have hok : (gappedLedger.recoverExecutionLedgerTail sampleLedgerRun 3 2000).2.toBool = true := by
    decide +kernel
  have hlength : ((gappedLedger.recoverExecutionLedgerTail sampleLedgerRun 3 2000).1.runRows
      sampleLedgerRun).length = 2 := by
    decide +kernel
  obtain ⟨recovery, hrecovery⟩ := toBool_eq_true.mp hok
  have hreached := ((hclaim gappedLedger sampleLedgerRun 3 2000).recovered recovery hrecovery).2.1
  omega

end Tiangong
