import Tiangong.RepairStore

/-!
# Writes of the repair tables

The five `put_*` methods share one body: check the identity, check the request binding, absorb a
record that is already on file, and otherwise derive it again before it is inserted.
-/
namespace Tiangong

/-- A refusal of a store method, seen by the repair loop. -/
def liftStore {α : Type} : Except StoreError α → Except RepairError α
  | .ok a => .ok a
  | .error e => .error (.store e)

@[simp] theorem liftStore_eq_ok {α : Type} {x : Except StoreError α} {a : α} :
    liftStore x = .ok a ↔ x = .ok a := by
  cases x <;> simp [liftStore]

@[simp] theorem liftStore_eq_error {α : Type} {x : Except StoreError α} {e : RepairError} :
    liftStore x = .error e ↔ ∃ e', x = .error e' ∧ e = .store e' := by
  cases x <;> simp [liftStore, eq_comm]

/-- The request, run and generation a record is bound to. -/
structure RecordBinding where
  requestId : String
  runId : String
  generation : ℕ
  deriving DecidableEq, Repr

namespace RepairStore

def assertBinding (s : RepairStore) (b : RecordBinding) (recordedAtMs : ℕ) :
    Except RepairError RequestGenerationRow :=
  liftStore (s.requests.assertRequestBinding b.requestId b.runId b.generation recordedAtMs)

section Put

variable {α : Type} [DecidableEq α] {valid : α → Bool} {key : Sealed valid → Canon}

/-- The body the `put_*` methods share. The answer says whether a row was inserted. -/
def putSealed (label : String) (binding : α → RecordBinding) (table : RepairStore → Table key)
    (withTable : RepairStore → Table key → RepairStore)
    (revalidate : α → RepairStore → Except RepairError Unit) (record : α) (recordedAtMs : ℕ)
    (s : RepairStore) : Except RepairError (Bool × RepairStore) := do
  let row ← sealed valid (.store (.value (label ++ " identity is invalid"))) record
  let _ ← s.assertBinding (binding record) recordedAtMs
  match (table s).find (key row) with
  | some existing => do
    rejectIf (existing ≠ row)
      (.store (.conflict (label ++ " identity was reused for different content")))
    pure (false, s)
  | none => do
    revalidate record s
    let rows ← (table s).insert (.store (.integrity label)) row
    pure (true, withTable s rows)

variable {label : String} {binding : α → RecordBinding} {table : RepairStore → Table key}
  {withTable : RepairStore → Table key → RepairStore}
  {revalidate : α → RepairStore → Except RepairError Unit} {record : α} {recordedAtMs : ℕ}
  {s s' : RepairStore} {fresh : Bool}

/-- An accepted write finds the record on file, or inserts a record the store derived again. -/
theorem putSealed_cases (h : putSealed label binding table withTable revalidate record
    recordedAtMs s = .ok (fresh, s')) :
    ∃ row : Sealed valid, row.1 = record ∧
      (∃ g, s.assertBinding (binding record) recordedAtMs = .ok g) ∧
      ((fresh = false ∧ s' = s ∧ (table s).find (key row) = some row) ∨
        (fresh = true ∧ revalidate record s = .ok () ∧
          ∃ rows, (table s).Inserts row rows ∧ s' = withTable s rows)) := by
  simp only [putSealed, bind_eq_ok, sealed_eq_ok] at h
  obtain ⟨row, rfl, g, hg, h⟩ := h
  refine ⟨row, rfl, ⟨g, hg⟩, ?_⟩
  cases hf : (table s).find (key row) with
  | some existing =>
    simp only [hf, eq_ok_iff, not_not] at h
    obtain ⟨rfl, ⟨⟩⟩ := h
    exact .inl ⟨rfl, rfl, rfl⟩
  | none =>
    simp only [hf, eq_ok_iff, Table.insert_eq_ok] at h
    obtain ⟨_, hre, rows, hrows, ⟨⟩⟩ := h
    exact .inr ⟨rfl, hre, rows, hrows, rfl⟩

/-- A write keeps what a new content of its table keeps. -/
theorem putSealed_keeps {β : Type*} {f : RepairStore → β}
    (h : putSealed label binding table withTable revalidate record recordedAtMs s =
      .ok (fresh, s')) (hwith : ∀ s rows, f (withTable s rows) = f s) : f s' = f s := by
  obtain ⟨row, -, -, ⟨-, rfl, -⟩ | ⟨-, -, rows, -, rfl⟩⟩ := putSealed_cases h
  · rfl
  · exact hwith s rows

section Decided

variable {g : RequestGenerationRow} (row : Sealed valid)

/-- A record that is on file is absorbed. -/
theorem putSealed_of_find (hg : s.assertBinding (binding row.1) recordedAtMs = .ok g)
    (hf : (table s).find (key row) = some row) :
    putSealed label binding table withTable revalidate row.1 recordedAtMs s = .ok (false, s) := by
  have hsealed : ∀ e : RepairError, sealed valid e row.1 = .ok row := fun e =>
    sealed_eq_ok.mpr rfl
  simp [putSealed, hsealed, hg, hf, bind, Except.bind, rejectIf, pure, Except.pure]

/-- A record bound to another request, run or generation is refused. -/
theorem putSealed_of_unbound {e : RepairError}
    (hg : s.assertBinding (binding row.1) recordedAtMs = .error e) :
    putSealed label binding table withTable revalidate row.1 recordedAtMs s = .error e := by
  have hsealed : ∀ e : RepairError, sealed valid e row.1 = .ok row := fun e =>
    sealed_eq_ok.mpr rfl
  simp [putSealed, hsealed, hg, bind, Except.bind]

/-- A fresh record the store cannot derive is refused. -/
theorem putSealed_of_refused {e : RepairError}
    (hg : s.assertBinding (binding row.1) recordedAtMs = .ok g)
    (hf : (table s).find (key row) = none) (he : revalidate row.1 s = .error e) :
    putSealed label binding table withTable revalidate row.1 recordedAtMs s = .error e := by
  have hsealed : ∀ e : RepairError, sealed valid e row.1 = .ok row := fun e =>
    sealed_eq_ok.mpr rfl
  simp [putSealed, hsealed, hg, hf, he, bind, Except.bind]

/-- A fresh record the store derived again is inserted. -/
theorem putSealed_of_fresh (hg : s.assertBinding (binding row.1) recordedAtMs = .ok g)
    (hf : (table s).find (key row) = none) (hok : revalidate row.1 s = .ok ()) :
    ∃ rows, (table s).Inserts row rows ∧
      putSealed label binding table withTable revalidate row.1 recordedAtMs s =
        .ok (true, withTable s rows) := by
  have hsealed : ∀ e : RepairError, sealed valid e row.1 = .ok row := fun e =>
    sealed_eq_ok.mpr rfl
  cases hins : (table s).insert (RepairError.store (.integrity label)) row with
  | error e =>
    have := (Table.insert_eq_error.mp hins).1
    simp [hf] at this
  | ok rows =>
    refine ⟨rows, Table.insert_eq_ok.mp hins, ?_⟩
    simp [putSealed, hsealed, hg, hf, hok, hins, bind, Except.bind, pure, Except.pure]

end Decided

end Put

def withEvidence (s : RepairStore)
    (rows : Table fun f : Sealed FailureEvidence.hasValidIdentity => f.1.failureEvidenceId) :
    RepairStore :=
  { s with failureEvidence := rows }

def withDispositions (s : RepairStore)
    (rows : Table fun d : Sealed VerificationDisposition.hasValidIdentity =>
      d.1.verificationDispositionId) : RepairStore :=
  { s with dispositions := rows }

def withDirectives (s : RepairStore)
    (rows : Table fun d : Sealed RepairDirective.hasValidIdentity => d.1.repairDirectiveId) :
    RepairStore :=
  { s with repairDirectives := rows }

def putVerificationFailureEvidence (evidence : FailureEvidence) (recordedAtMs : ℕ)
    (s : RepairStore) : Except RepairError (Bool × RepairStore) :=
  putSealed "failure evidence" (fun f => ⟨f.requestId, f.runId, f.generation⟩)
    RepairStore.failureEvidence withEvidence
    revalidateFailureEvidence evidence recordedAtMs s

def putVerificationDisposition (disposition : VerificationDisposition) (recordedAtMs : ℕ)
    (s : RepairStore) : Except RepairError (Bool × RepairStore) :=
  putSealed "disposition" (fun d => ⟨d.requestId, d.runId, d.generation⟩)
    RepairStore.dispositions withDispositions
    revalidateDisposition disposition recordedAtMs s

def putRepairDirective (directive : RepairDirective) (recordedAtMs : ℕ) (s : RepairStore) :
    Except RepairError (Bool × RepairStore) :=
  putSealed "repair directive" (fun d => ⟨d.requestId, d.runId, d.generation⟩)
    RepairStore.repairDirectives withDirectives
    (revalidateRepairDirective · recordedAtMs) directive recordedAtMs s

def putRepairAttempt (attempt : RepairAttemptRecord) (recordedAtMs : ℕ) (s : RepairStore) :
    Except RepairError (Bool × RepairStore) :=
  putSealed "repair attempt" (fun a => ⟨a.requestId, a.runId, a.generation⟩)
    RepairStore.repairAttempts (fun s rows => { s with repairAttempts := rows })
    revalidateRepairAttempt attempt recordedAtMs s

def putVerificationSubjectSuccessor (successor : SubjectSuccessor) (recordedAtMs : ℕ)
    (s : RepairStore) : Except RepairError (Bool × RepairStore) :=
  putSealed "subject successor" (fun b => ⟨b.requestId, b.runId, b.generation⟩)
    RepairStore.subjectSuccessors (fun s rows => { s with subjectSuccessors := rows })
    revalidateSubjectSuccessor successor recordedAtMs s

end RepairStore

end Tiangong
