import Tiangong.CognitionDiscipline

/-!
# The history of a belief slot

The statements of a slot and the decisions that made them are one chain, and the head is its end.
A row says what a step of the chain may change: the level only rises, the privacy scope stays, and
a verified status rests on evidence that met the thresholds when it was decided. Whoever
consolidates or protects, a committed transition adds one such row.
-/
namespace Tiangong

open CognitionConsolidator List RevisionFields

/-- A statement of a slot with the decision that made it. -/
structure HistoryRow where
  statement : CognitionStatement
  decision : CognitionRevision

namespace HistoryRow

abbrev status (row : HistoryRow) : CognitionStatus := row.statement.status

abbrev level (row : HistoryRow) : CognitionStabilityLevel := row.statement.level

abbrev transition (row : HistoryRow) : CognitionTransition := row.decision.1.transition

/-- The decision is that of a system authority or a migration. -/
def Explicit (row : HistoryRow) : Prop := row.decision.1.decisionAuthority ≠ .deterministicPolicy

end HistoryRow

/-- The evidence stored under exactly these identifiers. -/
def Found (evidence : Dict Canon CognitionEvidence) (ids : List Canon)
    (found : List CognitionEvidence) : Prop :=
  found.map CognitionEvidence.id = ids ∧ ∀ e ∈ found, evidence.lookup e.id = some e

/-- What the decision records is the report on the statement's evidence, as far as it was live at
the time of the decision, and that report meets the thresholds of the level. -/
def Verified (evidence : Dict Canon CognitionEvidence) (row : HistoryRow) : Prop :=
  ∃ support counter, Found evidence row.statement.1.supportingEvidenceIds support ∧
    Found evidence row.statement.1.counterevidenceIds counter ∧
    let nowMs := row.decision.1.createdAtMs
    let live := List.filter (isLive row.statement.1.slot nowMs stabilityPolicy)
    let report := evaluateEvidence row.statement.1.slot (live support) (live counter) nowMs
      stabilityPolicy
    report.supportMilli = row.decision.1.supportMilli ∧
      report.counterMilli = row.decision.1.counterMilli ∧
      report.supportGroups = row.decision.1.supportIndependenceGroups ∧
      report.counterGroups = row.decision.1.counterIndependenceGroups ∧
      report.meets stabilityPolicy row.level = true

/-- The evidence of the statement is stored, and belongs to its slot. -/
def Supplied (evidence : Dict Canon CognitionEvidence) (row : HistoryRow) : Prop :=
  ∃ support counter, Found evidence row.statement.1.supportingEvidenceIds support ∧
    Found evidence row.statement.1.counterevidenceIds counter ∧
    ∀ e ∈ support ++ counter, CognitionConsolidator.inScope row.statement.1.slot e = true

/-- The row is a step of the chain from the one before it. -/
structure Continues (evidence : Dict Canon CognitionEvidence) (before : Option HistoryRow)
    (row : HistoryRow) : Prop where
  numbered : row.statement.revision = before.elim 0 (fun b => b.statement.revision) + 1
  hashed : row.statement.hasValidHash = true ∧ row.decision.hasValidHash = true
  supersedes : row.statement.1.supersedesStatementSha256 = before.map fun b => b.statement.sha256
  decided : row.decision.1.sequence = row.statement.revision ∧
    row.decision.1.toStatementSha256 = row.statement.sha256 ∧
    (row.decision.1.toStatus, row.decision.1.toStabilityLevel) = (row.status, row.level)
  follows : row.decision.1.fromStatementSha256 = (before.map fun b => b.statement.sha256) ∧
    row.decision.1.previousRevisionSha256 = (before.map fun b => b.decision.sha256) ∧
    row.decision.1.fromStatus = before.map HistoryRow.status ∧
    row.decision.1.fromStabilityLevel = before.map HistoryRow.level
  level : ∀ b ∈ before, b.level.order ≤ row.level.order
  privacy : ∀ b ∈ before, row.statement.1.privacyScope = b.statement.1.privacyScope
  value : ∀ b ∈ before, row.statement.1.value ≠ b.statement.1.value →
    (b.status = .candidate ∧ row.status = .candidate) ∨
      (row.transition = .supersede ∧ b.status = .reverifying)
  entersProtection : row.level = .c4 → (∀ b ∈ before, b.level ≠ .c4) →
    row.transition = .protect ∧ row.Explicit
  keepsProtection : ∀ b ∈ before, b.level = .c4 → row.transition = .supersede → row.Explicit
  verified : row.status = .stable ∨ row.status = .core → Verified evidence row
  supplied : Supplied evidence row
  validFrom : row.statement.1.validFromMs = row.decision.1.createdAtMs ∨
    ∃ b ∈ before, row.statement.1.validFromMs = b.statement.1.validFromMs
  lastVerified : row.statement.1.lastVerifiedAtMs =
    if row.status = .stable ∨ row.status = .core then some row.decision.1.createdAtMs
    else before.bind fun b => b.statement.1.lastVerifiedAtMs

/-- A chain of rows, the last one at the end. -/
inductive History (evidence : Dict Canon CognitionEvidence) : List HistoryRow → Prop
  | nil : History evidence []
  | concat {rows : List HistoryRow} {row : HistoryRow} (h : History evidence rows)
      (hrow : Continues evidence rows.getLast? row) : History evidence (rows ++ [row])

section Chain

variable {evidence evidence' : Dict Canon CognitionEvidence} {rows : List HistoryRow}
  {row : HistoryRow} {before : Option HistoryRow}

/-- All evidence that was there is still there. -/
def Keeps (evidence evidence' : Dict Canon CognitionEvidence) : Prop :=
  ∀ id e, evidence.lookup id = some e → evidence'.lookup id = some e

theorem Found.mono {ids : List Canon} {found : List CognitionEvidence}
    (h : Found evidence ids found) (hkeeps : Keeps evidence evidence') :
    Found evidence' ids found :=
  ⟨h.1, fun e he => hkeeps _ _ (h.2 e he)⟩

theorem Verified.mono (h : Verified evidence row) (hkeeps : Keeps evidence evidence') :
    Verified evidence' row := by
  obtain ⟨support, counter, hsupport, hcounter, hreport⟩ := h
  exact ⟨support, counter, hsupport.mono hkeeps, hcounter.mono hkeeps, hreport⟩

theorem Supplied.mono (h : Supplied evidence row) (hkeeps : Keeps evidence evidence') :
    Supplied evidence' row := by
  obtain ⟨support, counter, hsupport, hcounter, hscope⟩ := h
  exact ⟨support, counter, hsupport.mono hkeeps, hcounter.mono hkeeps, hscope⟩

theorem Continues.mono (h : Continues evidence before row) (hkeeps : Keeps evidence evidence') :
    Continues evidence' before row :=
  { h with
    verified := fun hstatus => (h.verified hstatus).mono hkeeps
    supplied := h.supplied.mono hkeeps }

theorem History.mono (h : History evidence rows) (hkeeps : Keeps evidence evidence') :
    History evidence' rows := by
  induction h with
  | nil => exact .nil
  | concat _ hrow ih => exact .concat ih (hrow.mono hkeeps)

/-- The last row is numbered by the length of the chain. -/
theorem History.last_revision (h : History evidence rows) :
    rows.getLast?.elim 0 (fun b => b.statement.revision) = rows.length := by
  induction h with
  | nil => rfl
  | @concat rows row h hrow hlast =>
    have hnumbered := hrow.numbered
    simp only [List.getLast?_concat, Option.elim_some, length_append, length_singleton]
    omega

theorem History.revision_le (h : History evidence rows) (hmem : row ∈ rows) :
    row.statement.revision ≤ rows.length := by
  induction h with
  | nil => cases hmem
  | @concat rows last h hrow ih =>
    have hlast := h.last_revision
    have hnumbered := hrow.numbered
    rw [length_append, length_singleton]
    rcases mem_append.mp hmem with hold | hnew
    · have hle := ih hold
      omega
    · rw [mem_singleton] at hnew
      subst hnew
      omega

theorem History.sequence_eq (h : History evidence rows) (hmem : row ∈ rows) :
    row.decision.1.sequence = row.statement.revision := by
  induction h with
  | nil => cases hmem
  | concat _ hrow ih =>
    rcases mem_append.mp hmem with hold | hnew
    · exact ih hold
    · rw [mem_singleton] at hnew
      subst hnew
      exact hrow.decided.1

theorem History.latest (h : History evidence rows) :
    ((rows.map HistoryRow.decision).argmax fun r => r.1.sequence) =
      rows.getLast?.map HistoryRow.decision := by
  induction h with
  | nil => rfl
  | @concat rows row h hrow ih =>
    rw [map_append, map_singleton, argmax_concat, ih, List.getLast?_concat]
    cases hlast : rows.getLast? with
    | none => rfl
    | some b =>
      have hnumbered := hrow.numbered
      have hsequence := h.sequence_eq (mem_of_getLast? hlast)
      have hdecided := hrow.decided.1
      rw [hlast, Option.elim_some] at hnumbered
      have hlt : b.decision.1.sequence < row.decision.1.sequence := by omega
      simp [hlt]

theorem History.exists_protect (h : History evidence rows) {pre post : List HistoryRow}
    (hsplit : rows = pre ++ row :: post) (hlevel : row.level = .c4) :
    ∃ r ∈ pre ++ [row], r.transition = .protect ∧ r.Explicit := by
  induction h generalizing pre row post with
  | nil => simp at hsplit
  | @concat rows last h hrow ih =>
    rcases eq_nil_or_concat post with rfl | ⟨post', last', rfl⟩
    · obtain ⟨rfl, hlast⟩ := append_inj' hsplit rfl
      cases hlast
      by_cases hbefore : ∀ b ∈ rows.getLast?, b.level ≠ .c4
      · exact ⟨last, by simp, hrow.entersProtection hlevel hbefore⟩
      · push Not at hbefore
        obtain ⟨b, hb, hblevel⟩ := hbefore
        obtain ⟨pre', hpre⟩ := List.getLast?_eq_some_iff.mp hb
        obtain ⟨r, hr, hprotect⟩ := ih hpre hblevel
        exact ⟨r, mem_append_left _ (hpre ▸ hr), hprotect⟩
    · have hsplit' : rows ++ [last] = (pre ++ row :: post') ++ [last'] := by simp [hsplit]
      obtain ⟨hrows, -⟩ := append_inj' hsplit' rfl
      exact ih hrows hlevel

end Chain

namespace CognitionRevision

variable {r : CognitionRevision}

theorem chainValid (r : CognitionRevision) : r.1.chainValid = true := by
  have h := r.2
  simp only [valid, Bool.and_eq_true] at h
  tauto

theorem transitionValid (r : CognitionRevision) : r.1.transitionValid = true := by
  have h := r.2
  simp only [valid, Bool.and_eq_true] at h
  tauto

theorem protectionValid (r : CognitionRevision) : r.1.protectionValid = true := by
  have h := r.2
  simp only [valid, Bool.and_eq_true] at h
  tauto

/-- Only the first decision of a chain is a genesis. -/
theorem genesis_iff : r.1.transition = .genesis ↔ r.1.sequence = 1 := by
  have h := r.chainValid
  unfold RevisionFields.chainValid at h
  by_cases hone : r.1.sequence = 1
  · simp only [hone, if_true, holds_iff] at h
    tauto
  · simp only [hone, if_false, holds_iff] at h
    tauto

/-- Apart from a supersession, the level stays or rises to the next one. -/
theorem level_le {level : CognitionStabilityLevel} (hfrom : r.1.fromStabilityLevel = some level)
    (hgenesis : r.1.transition ≠ .genesis) (hsupersede : r.1.transition ≠ .supersede)
    (hretire : r.1.transition ≠ .retire) : level.order ≤ r.1.toStabilityLevel.order := by
  have h := r.transitionValid
  unfold RevisionFields.transitionValid at h
  cases htransition : r.1.transition with
  | genesis => exact absurd htransition hgenesis
  | supersede => exact absurd htransition hsupersede
  | retire => exact absurd htransition hretire
  | refresh | challenge | beginReverify | confirm =>
    simp only [htransition, hfrom, holds_iff, Option.some.injEq] at h
    rw [h.2]
  | replaceCandidate | promote | protect =>
    cases hstatus : r.1.fromStatus with
    | none => simp [htransition, source, hstatus] at h
    | some status =>
      simp only [htransition, source, target, hfrom, hstatus,
        Option.bind_eq_bind, Option.bind_some, Option.pure_def, Bool.or_eq_true, holds_iff,
        Option.some.injEq, Prod.mk.injEq] at h
      have hle : ∀ l l' : CognitionStabilityLevel, (l = .c0 ∧ l' = .c0) ∨ (l = .c0 ∧ l' = .c1) ∨
          (l = .c1 ∧ l' = .c2) ∨ (l = .c2 ∧ l' = .c3) ∨ (l = .c3 ∧ l' = .c4) →
          l.order ≤ l'.order := by
        rintro l l' (⟨rfl, rfl⟩ | ⟨rfl, rfl⟩ | ⟨rfl, rfl⟩ | ⟨rfl, rfl⟩ | ⟨rfl, rfl⟩) <;> decide
      exact hle _ _ (by tauto)

/-- A protected level is entered by a protection, unless the slot starts or is superseded there. -/
theorem enters_protected (hto : r.1.toStabilityLevel = .c4)
    (hfrom : r.1.fromStabilityLevel ≠ some .c4) (hgenesis : r.1.transition ≠ .genesis)
    (hsupersede : r.1.transition ≠ .supersede) (hretire : r.1.transition ≠ .retire) :
    r.1.transition = .protect := by
  have h := r.transitionValid
  unfold RevisionFields.transitionValid at h
  cases htransition : r.1.transition with
  | protect => rfl
  | genesis => exact absurd htransition hgenesis
  | supersede => exact absurd htransition hsupersede
  | retire => exact absurd htransition hretire
  | refresh | challenge | beginReverify | confirm =>
    simp only [htransition, hto, holds_iff] at h
    exact absurd h.2 hfrom
  | replaceCandidate | promote =>
    simp [htransition, target, hto] at h

theorem explicit_of_enters (hto : r.1.toStabilityLevel = .c4)
    (hfrom : r.1.fromStabilityLevel ≠ some .c4) :
    r.1.decisionAuthority ≠ .deterministicPolicy := by
  have h := r.protectionValid
  simp only [RevisionFields.protectionValid, hto, Bool.and_eq_true] at h
  simpa [hfrom] using h.1

theorem explicit_of_supersede (hfrom : r.1.fromStabilityLevel = some .c4)
    (htransition : r.1.transition = .supersede) :
    r.1.decisionAuthority ≠ .deterministicPolicy := by
  have h := r.protectionValid
  simp only [RevisionFields.protectionValid, hfrom, htransition, Bool.and_eq_true] at h
  simpa using h.2

theorem candidates_of_replace (htransition : r.1.transition = .replaceCandidate) :
    r.1.fromStatus = some .candidate ∧ r.1.toStatus = .candidate := by
  have h := r.transitionValid
  simp only [RevisionFields.transitionValid, htransition, source,
    target, holds_iff, Prod.mk.injEq] at h
  cases hstatus : r.1.fromStatus with
  | none => simp [hstatus] at h
  | some status =>
    cases hlevel : r.1.fromStabilityLevel with
    | none => simp [hstatus, hlevel] at h
    | some level =>
      simp only [hstatus, hlevel, Option.bind_eq_bind, Option.bind_some, Option.pure_def,
        Option.some.injEq, Prod.mk.injEq, decide_eq_true_eq] at h
      exact ⟨by rw [h.1.1], h.2.1⟩

end CognitionRevision

end Tiangong
