import Tiangong.CognitionHistory

/-!
# Runs of consolidators over one store

Any number of consolidations and protections run side by side, evidence is put in between, and any
of them may be lost. Every step keeps the history of every slot.
-/
namespace Tiangong

open CognitionConsolidator List CognitionStatement

namespace CognitionStore

def statementsOf (cognitionId : Canon) (s : CognitionStore) : List CognitionStatement :=
  s.statements.filter fun st => st.cognitionId = cognitionId

/-- The rows of a slot are a chain, and its head is the last of them. -/
structure SlotHistory (s : CognitionStore) (cognitionId : Canon) (rows : List HistoryRow) :
    Prop where
  statements : s.statementsOf cognitionId = rows.map HistoryRow.statement
  decisions : s.revisionsOf cognitionId = rows.map HistoryRow.decision
  head : s.heads.lookup cognitionId =
    rows.getLast?.map fun row => ⟨row.statement.sha256, row.statement.revision⟩
  history : History s.evidence rows

/-- Every slot has its history, and rows are found under their own keys. -/
structure Sound (s : CognitionStore) : Prop where
  keyed : ∀ id e, s.evidence.lookup id = some e → e.id = id
  unique : (s.statements.map sha256).Nodup
  slots : ∀ cognitionId, ∃ rows, s.SlotHistory cognitionId rows

/-- Rows are only added. -/
structure Extends (s s' : CognitionStore) : Prop where
  evidence : Keeps s.evidence s'.evidence
  statements : s.statements ⊆ s'.statements

variable {s s' : CognitionStore}

theorem empty_sound : empty.Sound where
  keyed id e h := by simp [empty] at h
  unique := nodup_nil
  slots _ := ⟨[], rfl, rfl, by simp [empty], .nil⟩

variable {e : CognitionEvidence} {new : Bool}

lemma putEvidence_cases (h : putEvidence e s = .ok (new, s')) :
    s' = s ∨ (s.evidence.lookup e.id = none ∧
      s' = { s with evidence := s.evidence.insert e.id e }) := by
  rw [putEvidence, bind_eq_ok] at h
  obtain ⟨_, -, h⟩ := h
  cases hlookup : s.evidence.lookup e.id with
  | some existing =>
    simp only [hlookup, eq_pair_iff] at h
    obtain ⟨_, -, -, rfl⟩ := h
    exact .inl rfl
  | none =>
    simp only [hlookup, eq_pair_iff] at h
    obtain ⟨_, -, -, rfl⟩ := h
    exact .inr ⟨rfl, rfl⟩

lemma putEvidence_extends (h : putEvidence e s = .ok (new, s')) : s.Extends s' := by
  rcases putEvidence_cases h with rfl | ⟨hnone, rfl⟩
  · exact ⟨fun _ _ h => h, fun _ h => h⟩
  · refine ⟨fun id e' he' => ?_, fun _ h => h⟩
    have hne : id ≠ e.id := by
      rintro rfl
      rw [hnone] at he'
      cases he'
    rw [Dict.lookup_insert_eq, if_neg hne]
    exact he'

lemma putEvidence_sound (hs : s.Sound) (h : putEvidence e s = .ok (new, s')) : s'.Sound := by
  have hextends := putEvidence_extends h
  rcases putEvidence_cases h with rfl | ⟨-, rfl⟩
  · exact hs
  · refine ⟨fun id e' he' => ?_, hs.unique, fun cognitionId => ?_⟩
    · rw [Dict.lookup_insert_eq] at he'
      by_cases hid : id = e.id
      · rw [if_pos hid, Option.some.injEq] at he'
        rw [← he', hid]
      · rw [if_neg hid] at he'
        exact hs.keyed id e' he'
    · obtain ⟨rows, hrows⟩ := hs.slots cognitionId
      exact ⟨rows, hrows.statements, hrows.decisions, hrows.head,
        hrows.history.mono hextends.evidence⟩

/-- What an accepted transition was checked against. -/
structure Accepted (s : CognitionStore) (statement : CognitionStatement)
    (decision : CognitionRevision) (expectedHeadSha256 : Option Canon) : Prop where
  hashed : statement.hasValidHash = true ∧ decision.hasValidHash = true
  cognitionId : statement.cognitionId = decision.1.cognitionId
  decided : statement.sha256 = decision.1.toStatementSha256 ∧
    statement.revision = decision.1.sequence
  predecessor : statement.1.supersedesStatementSha256 = expectedHeadSha256 ∧
    decision.1.fromStatementSha256 = expectedHeadSha256
  head : (s.heads.lookup statement.cognitionId).map HeadRow.statementSha256 = expectedHeadSha256
  revision : statement.revision = (s.heads.lookup statement.cognitionId).elim 0 HeadRow.revision + 1
  previous : decision.1.previousRevisionSha256 =
    (s.getLatestRevision statement.cognitionId).map CognitionRevision.sha256

variable {statement : CognitionStatement} {decision : CognitionRevision}
  {expectedHeadSha256 : Option Canon}

lemma commitTransition_accepted
    (h : commitTransition statement decision expectedHeadSha256 s = .ok ((), s')) :
    s.Accepted statement decision expectedHeadSha256 ∧
      ∃ s₁ s₂, insertStatement statement s = .ok s₁ ∧ insertRevision decision s₁ = .ok s₂ ∧
        s' = s₂.withHead statement := by
  simp only [commitTransition, checkTransition, eq_pair_iff, not_not, Bool.not_eq_false, true_and] at h
  obtain ⟨⟨hhash, hhash', hid, -, hto, hsequence, hpredecessor, hpredecessor'⟩, hhead, hrevision,
    hprevious, -, s₁, hs₁, s₂, hs₂, rfl⟩ := h
  exact ⟨⟨⟨hhash, hhash'⟩, hid, ⟨hto, hsequence⟩, ⟨hpredecessor, hpredecessor'⟩, hhead, hrevision,
    hprevious⟩, s₁, s₂, hs₁, hs₂, rfl⟩

lemma getStatementBySha_some {sha256 : Canon} {st : CognitionStatement}
    (h : s.getStatementBySha sha256 = some st) : st ∈ s.statements ∧ st.sha256 = sha256 :=
  ⟨mem_of_find?_eq_some h, by simpa using List.find?_some h⟩

/-- A statement that is not there yet is appended. -/
lemma insertStatement_new
    (h : insertStatement statement s = .ok s') (hnew : statement ∉ s.statements) :
    s' = { s with statements := s.statements ++ [statement] } ∧
      statement.sha256 ∉ s.statements.map sha256 := by
  unfold insertStatement at h
  cases hfound : s.getStatementBySha statement.sha256 with
  | some existing =>
    simp only [hfound, eq_ok_iff, not_not] at h
    obtain ⟨rfl, -⟩ := h
    exact absurd (getStatementBySha_some hfound).1 hnew
  | none =>
    simp only [hfound, eq_ok_iff] at h
    refine ⟨h.2.symm, fun hmem => ?_⟩
    obtain ⟨st, hst, hsha⟩ := mem_map.mp hmem
    have hnone := List.find?_eq_none.mp hfound st hst
    simp [hsha] at hnone

lemma insertRevision_new
    (h : insertRevision decision s = .ok s') (hnew : decision ∉ s.revisions) :
    s' = { s with revisions := s.revisions ++ [decision] } := by
  unfold insertRevision at h
  cases hfound : s.revisions.find? fun r => r.sha256 = decision.sha256 with
  | some existing =>
    simp only [hfound, eq_ok_iff, not_not] at h
    obtain ⟨rfl, -⟩ := h
    exact absurd (mem_of_find?_eq_some hfound) hnew
  | none =>
    simp only [hfound, eq_ok_iff] at h
    exact h.2.symm

section SlotHistory

variable {cognitionId : Canon} {rows : List HistoryRow} (h : s.SlotHistory cognitionId rows)
include h

lemma SlotHistory.mem_statement {st : CognitionStatement} (hst : st ∈ s.statements)
    (hid : st.cognitionId = cognitionId) : ∃ row ∈ rows, row.statement = st := by
  have hmem : st ∈ s.statementsOf cognitionId := by simp [statementsOf, hst, hid]
  rwa [h.statements, mem_map] at hmem

lemma SlotHistory.mem_decision {r : CognitionRevision} (hr : r ∈ s.revisions)
    (hid : r.1.cognitionId = cognitionId) : ∃ row ∈ rows, row.decision = r := by
  have hmem : r ∈ s.revisionsOf cognitionId := by simp [revisionsOf, hr, hid]
  rwa [h.decisions, mem_map] at hmem

theorem SlotHistory.getLatestRevision : s.getLatestRevision cognitionId =
    rows.getLast?.map HistoryRow.decision := by
  rw [CognitionStore.getLatestRevision, h.decisions, h.history.latest]

/-- The head's number is the length of the chain. -/
lemma SlotHistory.head_revision :
    (s.heads.lookup cognitionId).elim 0 HeadRow.revision = rows.length := by
  rw [h.head, ← h.history.last_revision]
  cases rows.getLast? <;> rfl

end SlotHistory

/-- A transition that was accepted adds its rows and moves the head. -/
lemma commitTransition_new (hs : s.Sound)
    (h : commitTransition statement decision expectedHeadSha256 s = .ok ((), s')) :
    s' = { s with
        statements := s.statements ++ [statement]
        revisions := s.revisions ++ [decision]
        heads := s.heads.insert statement.cognitionId ⟨statement.sha256, statement.revision⟩ } ∧
      statement.sha256 ∉ s.statements.map sha256 := by
  obtain ⟨haccepted, s₁, s₂, hs₁, hs₂, rfl⟩ := commitTransition_accepted h
  obtain ⟨rows, hrows⟩ := hs.slots statement.cognitionId
  have hrevision := haccepted.revision
  rw [hrows.head_revision] at hrevision
  have hstatement : statement ∉ s.statements := by
    intro hmem
    obtain ⟨row, hrow, heq⟩ := hrows.mem_statement hmem rfl
    have hle := hrows.history.revision_le hrow
    rw [heq] at hle
    omega
  have hdecision : decision ∉ s.revisions := by
    intro hmem
    obtain ⟨row, hrow, heq⟩ := hrows.mem_decision hmem haccepted.cognitionId.symm
    have hle := hrows.history.revision_le hrow
    have hsequence := hrows.history.sequence_eq hrow
    have hdecided := haccepted.decided.2
    rw [heq] at hsequence
    omega
  obtain ⟨rfl, hsha⟩ := insertStatement_new hs₁ hstatement
  rw [insertRevision_new hs₂ hdecision]
  exact ⟨rfl, hsha⟩

lemma commitTransition_extends (hs : s.Sound)
    (h : commitTransition statement decision expectedHeadSha256 s = .ok ((), s')) :
    s.Extends s' ∧ statement ∈ s'.statements := by
  obtain ⟨rfl, -⟩ := commitTransition_new hs h
  exact ⟨⟨fun _ _ h => h, subset_append_left _ _⟩, by simp⟩

/-- What a program knows is stored: the evidence it loaded, and the statements it saw. -/
structure Recorded (s : CognitionStore) (k : Knowledge) : Prop where
  loads : ∀ load ∈ k.loads, (load.2.map CognitionEvidence.id).Sublist load.1.dedup ∧
    ∀ e ∈ load.2, s.evidence.lookup e.id = some e
  statements : k.statements ⊆ s.statements

theorem recorded_none (s : CognitionStore) : s.Recorded Knowledge.none :=
  ⟨fun _ h => (not_mem_nil h).elim, nil_subset _⟩

section Grounded

variable {k : Knowledge} {proposal : CognitionProposal} {previous : Option CognitionStatement}
  {move : Move} {nowMs : ℕ} {latest : Option CognitionRevision} {row : HistoryRow}

theorem Recorded.mono (h : s.Recorded k) (hextends : s.Extends s') : s'.Recorded k :=
  ⟨fun load hload => ⟨(h.loads load hload).1, fun e he =>
    hextends.evidence _ _ ((h.loads load hload).2 e he)⟩,
    fun _ hst => hextends.statements (h.statements hst)⟩

/-- Evidence that was loaded in full is the evidence stored under its identifiers. -/
theorem Recorded.found (h : s.Recorded k) {ids : List Canon} {evidence : List CognitionEvidence}
    (hloaded : Loaded k ids evidence) : Found s.evidence (sortedIds ids) evidence := by
  obtain ⟨hsublist, hstored⟩ := h.loads _ hloaded.1
  rw [(sortedIds_nodup ids).dedup] at hsublist
  refine ⟨hsublist.eq_of_length_le ?_, hstored⟩
  exact ((sortedIds_nodup ids).subperm hloaded.2).length_le

theorem Recorded.verified (h : s.Recorded k) (hgrounded : Grounded k proposal previous move nowMs)
    (hstatement : row.statement.1 = (statementFields proposal previous move nowMs).withHash)
    (hdecision : row.decision.1 =
      (decisionFields previous row.statement move latest nowMs).withHash)
    (hstatus : row.status = .stable ∨ row.status = .core) : Verified s.evidence row := by
  obtain ⟨support, counter, hsupport, hcounter, -, hreport⟩ := hgrounded.reported
  have hfound := h.found hsupport
  have hfound' := h.found hcounter
  have hnodup : (support.map CognitionEvidence.id).Nodup := hfound.1 ▸ sortedIds_nodup _
  have hnodup' : (counter.map CognitionEvidence.id).Nodup := hfound'.1 ▸ sortedIds_nodup _
  have hmove : move.status = .stable ∨ move.status = .core := by
    rw [HistoryRow.status, status, hstatement] at hstatus
    exact hstatus
  obtain ⟨hgroups, hgroups', hsum, hsum', hmeets⟩ := @evaluateEvidence_live proposal.slot _ _ nowMs
    stabilityPolicy hnodup hnodup'
  refine ⟨support, counter, ?_, ?_, ?_⟩
  · rw [hstatement]
    exact hfound
  · rw [hstatement]
    exact hfound'
  · have hlevel : row.level = move.level := by
      rw [HistoryRow.level, level, hstatement]
      rfl
    have hslot : row.statement.1.slot = proposal.slot := by
      rw [hstatement]
      rfl
    have hverified := hgrounded.allowed.verified hmove
    rw [hlevel, hslot, hdecision]
    rw [hreport] at hverified
    show _ = move.report.supportMilli ∧ _ = move.report.counterMilli ∧
      _ = move.report.supportGroups ∧ _ = move.report.counterGroups ∧ _
    rw [hreport]
    exact ⟨hsum, hsum', hgroups, hgroups', (hmeets _).trans hverified⟩

theorem Recorded.supplied (h : s.Recorded k) (hgrounded : Grounded k proposal previous move nowMs)
    (hstatement : row.statement.1 = (statementFields proposal previous move nowMs).withHash) :
    Supplied s.evidence row := by
  obtain ⟨support, counter, hsupport, hcounter, hscope, -⟩ := hgrounded.reported
  refine ⟨support, counter, ?_, ?_, ?_⟩
  · rw [hstatement]
    exact h.found hsupport
  · rw [hstatement]
    exact h.found hcounter
  · rw [hstatement]
    exact hscope

/-- The head that a grounded transition expects is the end of the chain. -/
lemma SlotHistory.previous_eq {cognitionId : Canon} {rows : List HistoryRow}
    (h : s.SlotHistory cognitionId rows) (hs : s.Sound) (hk : s.Recorded k)
    (hseen : ∀ p ∈ previous, p ∈ k.statements)
    (hhead : (s.heads.lookup cognitionId).map HeadRow.statementSha256 =
      previous.map sha256) :
    previous = rows.getLast?.map HistoryRow.statement := by
  rw [h.head] at hhead
  cases hlast : rows.getLast? with
  | none =>
    rw [hlast] at hhead
    exact Option.map_eq_none_iff.mp hhead.symm
  | some last =>
    rw [hlast] at hhead
    obtain ⟨p, hp, hsha⟩ := Option.map_eq_some_iff.mp hhead.symm
    have hmem : last.statement ∈ s.statements := by
      have hof : last.statement ∈ s.statementsOf cognitionId := by
        rw [h.statements]
        exact mem_map_of_mem (mem_of_getLast? hlast)
      exact mem_of_mem_filter hof
    have hsame := inj_on_of_nodup_map hs.unique (hk.statements (hseen p hp)) hmem hsha
    rw [hp, hsame]
    rfl

/-- What a grounded transition adds is the next row of the chain. -/
lemma continues_of_grounded (hs : s.Sound) (hk : s.Recorded k)
    (hgrounded : Grounded k proposal previous move nowMs)
    (hstatement : row.statement.1 = (statementFields proposal previous move nowMs).withHash)
    (hdecision : row.decision.1 =
      (decisionFields previous row.statement move latest nowMs).withHash)
    (haccepted : s.Accepted row.statement row.decision (previous.map sha256))
    {rows : List HistoryRow} (hrows : s.SlotHistory row.statement.cognitionId rows) :
    Continues s.evidence rows.getLast? row := by
  have hprevious := hrows.previous_eq hs hk hgrounded.seen haccepted.head
  have hallowed := hgrounded.allowed
  have hto : row.decision.1.toStatus = row.status ∧
      row.decision.1.toStabilityLevel = row.level := by
    rw [hdecision]
    exact ⟨rfl, rfl⟩
  have hfrom : row.decision.1.fromStatus = rows.getLast?.map HistoryRow.status ∧
      row.decision.1.fromStabilityLevel = rows.getLast?.map HistoryRow.level := by
    rw [hdecision]
    show previous.map _ = _ ∧ previous.map _ = _
    rw [hprevious, Option.map_map, Option.map_map]
    exact ⟨rfl, rfl⟩
  have htransition : row.transition = move.transition := by
    rw [HistoryRow.transition, hdecision]
    rfl
  have hlevel : row.level = move.level := by
    rw [HistoryRow.level, level, hstatement]
    rfl
  have hsha : previous.map sha256 =
      rows.getLast?.map fun b => b.statement.sha256 := by
    rw [hprevious, Option.map_map]
    rfl
  have hnumbered : row.statement.revision =
      rows.getLast?.elim 0 (fun b => b.statement.revision) + 1 := by
    rw [haccepted.revision, hrows.head_revision, hrows.history.last_revision]
  have hretire : row.transition ≠ .retire := htransition ▸ hallowed.not_retired
  have hgenesis : ∀ b ∈ rows.getLast?, row.transition ≠ .genesis := by
    intro b hb heq
    have hone := CognitionRevision.genesis_iff.mp heq
    have hlast := hrows.history.last_revision
    have hpos : 0 < rows.length := length_pos_of_mem (mem_of_getLast? hb)
    have hdecided := haccepted.decided.2
    omega
  have hsuperseded : row.transition = .supersede → ∃ b ∈ rows.getLast?,
      b.status = .reverifying ∧ row.level = b.level := by
    intro heq
    rw [htransition] at heq
    have hcarry := hallowed.supersede heq
    rcases hallowed.anew hcarry with h | h | ⟨-, p, hp, hstatus, hplevel⟩
    · rw [heq] at h
      cases h
    · rw [heq] at h
      cases h
    · rw [hprevious, Option.mem_def, Option.map_eq_some_iff] at hp
      obtain ⟨b, hb, rfl⟩ := hp
      exact ⟨b, hb, hstatus, hlevel.trans hplevel⟩
  exact
    { numbered := hnumbered
      hashed := haccepted.hashed
      supersedes := haccepted.predecessor.1.trans hsha
      decided := ⟨haccepted.decided.2.symm, haccepted.decided.1.symm, by rw [hto.1, hto.2]⟩
      follows := by
        refine ⟨haccepted.predecessor.2.trans hsha, ?_, hfrom.1, hfrom.2⟩
        rw [haccepted.previous, hrows.getLatestRevision, Option.map_map]
        rfl
      level := by
        intro b hb
        by_cases hsupersede : row.transition = .supersede
        · obtain ⟨b', hb', -, heq⟩ := hsuperseded hsupersede
          cases Option.mem_unique hb hb'
          rw [heq]
        · have hfromLevel := hfrom.2
          rw [hb, Option.map_some] at hfromLevel
          have hle := CognitionRevision.level_le hfromLevel (hgenesis b hb) hsupersede hretire
          rwa [hto.2] at hle
      privacy := by
        intro b hb
        have hp : b.statement ∈ previous := by
          rw [hprevious, hb]
          rfl
        rw [hstatement, hallowed.privacy _ hp]
        show Option.elim _ _ _ = _
        cases hcarry : move.carryPreviousIdentity with
        | false => rfl
        | true =>
          rw [hp]
          exact hallowed.privacy _ hp
      value := by
        intro b hb hne
        have hp : b.statement ∈ previous := by
          rw [hprevious, hb]
          rfl
        cases hcarry : move.carryPreviousIdentity with
        | true =>
          obtain ⟨p, hp', hvalue⟩ := hallowed.carried hcarry
          cases Option.mem_unique hp hp'
          rw [hstatement] at hne
          exact absurd hvalue hne
        | false =>
          rcases hallowed.anew hcarry with h | h | ⟨h, -⟩
          · exact absurd (htransition.trans h) (hgenesis b hb)
          · left
            have hcandidates := CognitionRevision.candidates_of_replace (htransition.trans h)
            rw [hfrom.1, hto.1, hb] at hcandidates
            exact ⟨Option.some.inj hcandidates.1, hcandidates.2⟩
          · right
            obtain ⟨b', hb', hstatus, -⟩ := hsuperseded (htransition.trans h)
            cases Option.mem_unique hb hb'
            exact ⟨htransition.trans h, hstatus⟩
      entersProtection := by
        intro hprotected hbefore
        have hnot : row.decision.1.fromStabilityLevel ≠ some .c4 := by
          rw [hfrom.2]
          intro heq
          obtain ⟨b, hb, hblevel⟩ := Option.map_eq_some_iff.mp heq
          exact hbefore b hb hblevel
        have hto' : row.decision.1.toStabilityLevel = .c4 := hto.2.trans hprotected
        refine ⟨CognitionRevision.enters_protected hto' hnot ?_ ?_ hretire,
          CognitionRevision.explicit_of_enters hto' hnot⟩
        · intro heq
          have hfirst := hallowed.genesis (htransition.symm.trans heq)
          rw [hlevel, hfirst] at hprotected
          cases hprotected
        · intro heq
          obtain ⟨b, hb, -, hblevel⟩ := hsuperseded heq
          exact hbefore b hb (hblevel ▸ hprotected)
      keepsProtection := by
        intro b hb hblevel heq
        apply CognitionRevision.explicit_of_supersede _ heq
        rw [hfrom.2, hb, Option.map_some, hblevel]
      verified := hk.verified hgrounded hstatement hdecision
      supplied := hk.supplied hgrounded hstatement
      validFrom := by
        have hcreated : row.decision.1.createdAtMs = nowMs := by
          rw [hdecision]
          rfl
        have hvalid : row.statement.1.validFromMs = (if move.carryPreviousIdentity then previous
            else none).elim nowMs fun p => p.1.validFromMs := by
          rw [hstatement]
          rfl
        rw [hcreated, hvalid, hprevious]
        cases hcarry : move.carryPreviousIdentity with
        | false => exact .inl rfl
        | true =>
          cases hlast : rows.getLast? with
          | none => exact .inl rfl
          | some b => exact .inr ⟨b, rfl, rfl⟩
      lastVerified := by
        have hstatus : row.status = move.status := by
          rw [HistoryRow.status, status, hstatement]
          rfl
        rw [hstatus, hstatement, hdecision]
        show (if _ then some nowMs else _) = if _ then some nowMs else _
        rw [hprevious]
        cases rows.getLast? <;> rfl }

/-- A grounded transition that is accepted keeps the history of every slot. -/
lemma commitTransition_sound (hs : s.Sound) (hk : s.Recorded k)
    {statement : CognitionStatement} {decision : CognitionRevision}
    {expectedHeadSha256 : Option Canon}
    (hgrounded : GroundedRows k statement decision expectedHeadSha256)
    (h : commitTransition statement decision expectedHeadSha256 s = .ok ((), s')) : s'.Sound := by
  obtain ⟨proposal, previous, move, latest, nowMs, hgrounded, hstatement, hdecision, rfl⟩ :=
    hgrounded
  obtain ⟨haccepted, -⟩ := commitTransition_accepted h
  obtain ⟨rfl, hsha⟩ := commitTransition_new hs h
  obtain ⟨rows, hrows⟩ := hs.slots statement.cognitionId
  have hrow : Continues s.evidence rows.getLast? ⟨statement, decision⟩ :=
    @continues_of_grounded _ _ _ _ _ _ _ ⟨statement, decision⟩ hs hk hgrounded hstatement hdecision
      haccepted _ hrows
  refine ⟨hs.keyed, ?_, fun cognitionId => ?_⟩
  · rw [map_append, nodup_append]
    refine ⟨hs.unique, nodup_singleton _, ?_⟩
    intro sha hmem sha' hmem'
    rw [map_singleton, mem_singleton] at hmem'
    rintro rfl
    exact hsha (hmem' ▸ hmem)
  · by_cases hid : cognitionId = statement.cognitionId
    · subst hid
      refine ⟨rows ++ [⟨statement, decision⟩], ?_, ?_, ?_, .concat hrows.history hrow⟩
      · have hold := hrows.statements
        simp only [statementsOf] at hold ⊢
        rw [filter_append, hold, map_append]
        simp
      · have hold := hrows.decisions
        simp only [revisionsOf] at hold ⊢
        rw [filter_append, hold, map_append]
        simp [haccepted.cognitionId]
      · rw [List.getLast?_concat]
        exact AList.lookup_insert _
    · obtain ⟨rows', hrows'⟩ := hs.slots cognitionId
      refine ⟨rows', ?_, ?_, ?_, hrows'.history⟩
      · have hold := hrows'.statements
        simp only [statementsOf] at hold ⊢
        rw [filter_append, hold]
        simp [Ne.symm hid]
      · have hold := hrows'.decisions
        simp only [revisionsOf] at hold ⊢
        rw [filter_append, hold]
        simp [← haccepted.cognitionId, Ne.symm hid]
      · rw [← hrows'.head]
        exact AList.lookup_insert_ne hid

end Grounded

/-- Reading the head of a slot answers the end of its chain. -/
theorem SlotHistory.getHead {cognitionId : Canon} {rows : List HistoryRow}
    (h : s.SlotHistory cognitionId rows) (hs : s.Sound) :
    s.getHead cognitionId = rows.getLast?.map HistoryRow.statement := by
  rw [CognitionStore.getHead, h.head]
  cases hlast : rows.getLast? with
  | none => rfl
  | some last =>
    have hof : last.statement ∈ s.statementsOf cognitionId := by
      rw [h.statements]
      exact mem_map_of_mem (mem_of_getLast? hlast)
    have hmem : last.statement ∈ s.statements := mem_of_mem_filter hof
    show s.getStatementBySha last.statement.sha256 = some last.statement
    cases hfound : s.getStatementBySha last.statement.sha256 with
    | none =>
      have hnone := List.find?_eq_none.mp hfound _ hmem
      simp at hnone
    | some st =>
      obtain ⟨hst, hsha⟩ := getStatementBySha_some hfound
      rw [inj_on_of_nodup_map hs.unique hst hmem hsha]

/-- What is loaded is stored, under some of the identifiers that were asked for. -/
theorem Sound.getEvidenceMany (hs : s.Sound) (ids : List Canon) :
    ((CognitionStore.getEvidenceMany ids s).map CognitionEvidence.id).Sublist ids.dedup ∧
      ∀ e ∈ CognitionStore.getEvidenceMany ids s, s.evidence.lookup e.id = some e := by
  have hids : (CognitionStore.getEvidenceMany ids s).map CognitionEvidence.id =
      ids.dedup.filter fun id => (s.evidence.lookup id).isSome := by
    rw [CognitionStore.getEvidenceMany, map_filterMap, ← filterMap_eq_filter]
    apply filterMap_congr
    intro id _
    cases hlookup : s.evidence.lookup id with
    | none => simp [Option.guard, hlookup]
    | some e => simp [Option.guard, hlookup, hs.keyed id e hlookup]
  refine ⟨hids ▸ filter_sublist, fun e he => ?_⟩
  obtain ⟨id, -, hid⟩ := mem_filterMap.mp he
  rw [hs.keyed id e hid]
  exact hid

/-- What an action answers is known afterwards, and what was known stays stored. -/
lemma answer_recorded {k : Knowledge} (hs : s.Sound) (hk : s.Recorded k)
    {a : CognitionAction} (hallows : CognitionConsolidator.discipline.allows k a) :
    ((answer a).on s).2.Sound ∧ s.Extends ((answer a).on s).2 ∧ ((answer a).on s).2.Recorded
        (CognitionConsolidator.discipline.after k a ((answer a).on s).1) := by
  have hextends : s.Extends s := ⟨fun _ _ h => h, fun _ h => h⟩
  cases a with
  | getHead cognitionId =>
    refine ⟨hs, hextends, ?_⟩
    show s.Recorded (CognitionConsolidator.discipline.after k (.getHead cognitionId)
      (.ok (s.getHead cognitionId)))
    cases hhead : s.getHead cognitionId with
    | none => exact hk
    | some head =>
      refine ⟨hk.loads, cons_subset.mpr ⟨?_, hk.statements⟩⟩
      obtain ⟨row, -, hrow⟩ := Option.bind_eq_some_iff.mp hhead
      exact (getStatementBySha_some hrow).1
  | getEvidenceMany ids =>
    refine ⟨hs, hextends, ?_, hk.statements⟩
    intro load hload
    rcases mem_cons.mp hload with rfl | hold
    · exact hs.getEvidenceMany ids
    · exact hk.loads load hold
  | getLatestRevision cognitionId => exact ⟨hs, hextends, hk⟩
  | commitTransition statement decision expectedHeadSha256 =>
    cases hcommit : commitTransition statement decision expectedHeadSha256 s with
    | error e =>
      have hon : (answer (.commitTransition statement decision expectedHeadSha256)).on s =
          (.error e, s) := Call.on_transaction_of_error hcommit
      rw [hon]
      exact ⟨hs, hextends, hk⟩
    | ok pair =>
      obtain ⟨⟨⟩, s'⟩ := pair
      have hon : (answer (.commitTransition statement decision expectedHeadSha256)).on s =
          (.ok (), s') := Call.on_transaction_of_ok hcommit
      obtain ⟨hextends', hmem⟩ := commitTransition_extends hs hcommit
      have hk' := hk.mono hextends'
      rw [hon]
      exact ⟨commitTransition_sound hs hk hallows hcommit, hextends', hk'.loads,
        cons_subset.mpr ⟨hmem, hk'.statements⟩⟩

end CognitionStore

/-- What a caller may ask for. -/
inductive CognitionInput where
  | consolidate (proposal : CognitionProposal) (supportEvidenceIds counterevidenceIds : List Canon)
    (nowMs : ℕ) (decisionAuthority : Option CognitionDecisionAuthority)
  | protect (cognitionId : Canon) (nowMs : ℕ)
    (decisionAuthority : Option CognitionDecisionAuthority)

def CognitionInput.program : CognitionInput → CognitionProgram (Option ConsolidationResult)
  | .consolidate proposal supportEvidenceIds counterevidenceIds nowMs decisionAuthority => do
    let result ← CognitionConsolidator.consolidate proposal supportEvidenceIds counterevidenceIds
      nowMs decisionAuthority
    pure (some result)
  | .protect cognitionId nowMs decisionAuthority => do
    let _ ← CognitionConsolidator.protect cognitionId nowMs decisionAuthority
    pure none

/-- `put_evidence` of another component. -/
def CognitionStore.receive (e : CognitionEvidence) (s : CognitionStore) : CognitionStore :=
  match CognitionStore.putEvidence e s with
  | .ok (_, s') => s'
  | .error _ => s

abbrev CognitionPool := Pool CognitionAction CognitionAction.Answer CognitionError
  (Option ConsolidationResult) Knowledge CognitionStore

abbrev CognitionEvent := PoolEvent CognitionAction CognitionAction.Answer CognitionError
  CognitionInput CognitionEvidence

def cognitionRules : Pool.Rules CognitionAction CognitionAction.Answer CognitionError
    (Option ConsolidationResult) Knowledge CognitionStore CognitionInput CognitionEvidence where
  discipline := CognitionConsolidator.discipline
  first := Knowledge.none
  program := CognitionInput.program
  answer := fun _ => CognitionStore.answer
  change := CognitionStore.receive

/-- The runs of all callers over a store. -/
def cognitionMachine : Machine CognitionPool CognitionEvent
    (Option (ℕ × (a : CognitionAction) × Except CognitionError a.Answer)) :=
  Pool.machine cognitionRules

/-- No caller, and an empty store. -/
def idleCognition : CognitionPool := Pool.idle CognitionStore.empty

theorem CognitionInput.program_keeps (input : CognitionInput) :
    cognitionRules.discipline.Keeps (fun _ _ => True) (fun _ _ => True)
      (cognitionRules.program input) cognitionRules.first := by
  have hall : Learns Knowledge.none (fun _ _ => True) input.program := by
    cases input with
    | consolidate => exact Learns.bind (consolidate_learns _ _ _ _ _) fun _ _ _ _ => .pure trivial
    | protect => exact Learns.bind (protect_learns _ _ _) fun _ _ _ _ => .pure trivial
  exact hall.mono (fun _ _ _ => trivial) fun _ _ _ => trivial

/-- Every slot has its history, and all that a caller knows is stored. -/
def HistoriesKept (s : CognitionStore) (f : ℕ → Option Knowledge) : Prop :=
  s.Sound ∧ ∀ i k, f i = some k → s.Recorded k

theorem HistoriesKept.update {s s' : CognitionStore} {f : ℕ → Option Knowledge}
    (h : HistoriesKept s f) (hs : s'.Sound) (hextends : s.Extends s') {i : ℕ}
    {phase : Option Knowledge} (hphase : ∀ k ∈ phase, s'.Recorded k) :
    HistoriesKept s' (Function.update f i phase) := by
  refine ⟨hs, fun j k hj => ?_⟩
  rw [Function.update_apply] at hj
  split at hj
  · exact hphase k hj
  · exact (h.2 j k hj).mono hextends

lemma historiesKept_moves {s s' : CognitionStore} {f f' : ℕ → Option Knowledge}
    {report : Option (ℕ × (a : CognitionAction) × Except CognitionError a.Answer)}
    (h : HistoriesKept s f) (hmove : Pool.Moves cognitionRules s f report s' f') :
    HistoriesKept s' f' := by
  have hextends : s.Extends s := ⟨fun _ _ h => h, fun _ h => h⟩
  cases hmove with
  | idle => exact h
  | start i hfree =>
    refine h.update h.1 hextends ?_
    intro k hk
    cases hk
    exact s.recorded_none
  | lose i => exact h.update h.1 hextends fun k hk => by cases hk
  | outside e =>
    show HistoriesKept (CognitionStore.receive e s) f
    unfold CognitionStore.receive
    cases hput : CognitionStore.putEvidence e s with
    | error _ => exact h
    | ok pair =>
      refine ⟨CognitionStore.putEvidence_sound h.1 hput, fun i k hk => ?_⟩
      exact (h.2 i k hk).mono (CognitionStore.putEvidence_extends hput)
  | act i k a outside hflight hallows =>
    obtain ⟨hsound, hgrows, hrecorded⟩ := CognitionStore.answer_recorded h.1 (h.2 i k hflight)
      hallows
    refine h.update hsound hgrows ?_
    intro k' hk'
    cases hk'
    exact hrecorded

lemma exec_historiesKept (events : List CognitionEvent) :
    (cognitionMachine.exec idleCognition events).Within cognitionRules HistoriesKept := by
  refine Machine.exec_preserves (Pool.Within cognitionRules HistoriesKept) (fun p e hp =>
    Pool.within_step CognitionInput.program_keeps (fun _ _ _ _ _ => historiesKept_moves) hp e) ?_
    events
  refine ⟨Pool.idle_disciplined _, ?_⟩
  rw [idleCognition, Pool.idle_phases]
  exact ⟨CognitionStore.empty_sound, fun i k hk => by cases hk⟩

/-- Whatever the callers do, the rows of each slot are one chain that ends in its head, and what is
protected there was protected by an explicit authority. -/
theorem cognition_histories_sound (events : List CognitionEvent) (cognitionId : Canon) :
    let s := (cognitionMachine.exec idleCognition events).world
    ∃ rows, s.SlotHistory cognitionId rows ∧
      s.getHead cognitionId = rows.getLast?.map HistoryRow.statement ∧
      ∀ pre row post, rows = pre ++ row :: post → row.level = .c4 →
        ∃ r ∈ pre ++ [row], r.transition = .protect ∧ r.Explicit := by
  have hsound := (exec_historiesKept events).2.1
  obtain ⟨rows, hrows⟩ := hsound.slots cognitionId
  refine ⟨rows, hrows, hrows.getHead hsound, ?_⟩
  intro pre row post hsplit hlevel
  exact hrows.history.exists_protect hsplit hlevel

end Tiangong
