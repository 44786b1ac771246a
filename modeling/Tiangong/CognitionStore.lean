import Mathlib.Data.List.MinMax
import Tiangong.Calls
import Tiangong.CognitionStability

/-!
# The cognition store

Evidence, statements and decisions are rows that never change; one head for each slot moves. A
transition appends a statement and its decision and moves the head, if the head is still the one
the transition was decided on.
-/
namespace Tiangong

inductive CognitionError where
  /-- A contract validator rejects a statement or a decision. -/
  | validation
  | integrity (text : String)
  | conflict (text : String)
  deriving DecidableEq, Repr

/-- A row of `cognition_heads`. -/
structure HeadRow where
  statementSha256 : Canon
  revision : ℕ
  deriving DecidableEq

structure CognitionStore where
  evidence : Dict Canon CognitionEvidence
  statements : List CognitionStatement
  revisions : List CognitionRevision
  heads : Dict Canon HeadRow

abbrev CognitionCall := Call CognitionError CognitionStore

namespace CognitionStore

def empty : CognitionStore := ⟨∅, [], [], ∅⟩

def getEvidenceMany (ids : List Canon) (s : CognitionStore) : List CognitionEvidence :=
  ids.dedup.filterMap s.evidence.lookup

def getStatementBySha (sha256 : Canon) (s : CognitionStore) : Option CognitionStatement :=
  s.statements.find? fun st => st.sha256 = sha256

def getHead (cognitionId : Canon) (s : CognitionStore) : Option CognitionStatement := do
  let row ← s.heads.lookup cognitionId
  s.getStatementBySha row.statementSha256

/-- The decisions of a slot. -/
def revisionsOf (cognitionId : Canon) (s : CognitionStore) : List CognitionRevision :=
  s.revisions.filter fun r => r.1.cognitionId = cognitionId

def getLatestRevision (cognitionId : Canon) (s : CognitionStore) : Option CognitionRevision :=
  (s.revisionsOf cognitionId).argmax fun r => r.1.sequence

def putEvidence (e : CognitionEvidence) (s : CognitionStore) :
    Except CognitionError (Bool × CognitionStore) := do
  rejectIf (e.hasValidHash = false) (.integrity "invalid canonical hash for cognition evidence")
  match s.evidence.lookup e.id with
  | some existing =>
    rejectIf (existing ≠ e) (.integrity "immutable evidence identity collision")
    pure (false, s)
  | none =>
    rejectIf (s.evidence.values.any fun e' => e'.1.evidenceSha256 = e.1.evidenceSha256)
      (.integrity "evidence uniqueness violation")
    pure (true, { s with evidence := s.evidence.insert e.id e })

/-- The checks of `commit_transition` before its transaction. -/
def checkTransition (statement : CognitionStatement) (decision : CognitionRevision)
    (expectedHeadSha256 : Option Canon) : Except CognitionError Unit := do
  rejectIf (statement.hasValidHash = false)
    (.integrity "invalid canonical hash for cognition statement")
  rejectIf (decision.hasValidHash = false)
    (.integrity "invalid canonical hash for cognition revision")
  rejectIf (statement.cognitionId ≠ decision.1.cognitionId)
    (.integrity "statement and revision cognition IDs differ")
  rejectIf (statement.1.slot.lifeId ≠ decision.1.lifeId)
    (.integrity "statement and revision life IDs differ")
  rejectIf (statement.sha256 ≠ decision.1.toStatementSha256)
    (.integrity "revision does not point to the supplied statement")
  rejectIf (statement.revision ≠ decision.1.sequence)
    (.integrity "statement revision and decision sequence differ")
  rejectIf (statement.1.supersedesStatementSha256 ≠ expectedHeadSha256)
    (.integrity "statement predecessor does not match expected head")
  rejectIf (decision.1.fromStatementSha256 ≠ expectedHeadSha256)
    (.integrity "decision predecessor does not match expected head")

/-- `_insert_immutable` into the statements. -/
def insertStatement (statement : CognitionStatement) (s : CognitionStore) :
    Except CognitionError CognitionStore :=
  match s.getStatementBySha statement.sha256 with
  | some existing => do
    rejectIf (existing ≠ statement) (.integrity "immutable statements identity collision")
    pure s
  | none => do
    rejectIf (s.statements.any fun st =>
        st.cognitionId = statement.cognitionId && st.revision = statement.revision)
      (.integrity "cognition transition uniqueness violation")
    pure { s with statements := s.statements ++ [statement] }

/-- `_insert_immutable` into the decisions. -/
def insertRevision (decision : CognitionRevision) (s : CognitionStore) :
    Except CognitionError CognitionStore :=
  match s.revisions.find? fun r => r.sha256 = decision.sha256 with
  | some existing => do
    rejectIf (existing ≠ decision) (.integrity "immutable revisions identity collision")
    pure s
  | none => do
    rejectIf (s.revisions.any fun r =>
        r.1.cognitionRevisionId = decision.1.cognitionRevisionId ||
          (r.1.cognitionId = decision.1.cognitionId && r.1.sequence = decision.1.sequence))
      (.integrity "cognition transition uniqueness violation")
    pure { s with revisions := s.revisions ++ [decision] }

/-- The head of the statement's slot is moved to it. -/
def withHead (s : CognitionStore) (statement : CognitionStatement) : CognitionStore :=
  { s with
    heads := s.heads.insert statement.cognitionId ⟨statement.sha256, statement.revision⟩ }

def commitTransition (statement : CognitionStatement) (decision : CognitionRevision)
    (expectedHeadSha256 : Option Canon) (s : CognitionStore) :
    Except CognitionError (Unit × CognitionStore) := do
  checkTransition statement decision expectedHeadSha256
  let head := s.heads.lookup statement.cognitionId
  rejectIf (head.map HeadRow.statementSha256 ≠ expectedHeadSha256)
    (.conflict "stale cognition head")
  rejectIf (statement.revision ≠ head.elim 0 HeadRow.revision + 1)
    (.integrity "cognition statement revision is not contiguous")
  let previous := s.getLatestRevision statement.cognitionId
  rejectIf (decision.1.previousRevisionSha256 ≠ previous.map CognitionRevision.sha256)
    (.integrity "revision decision chain predecessor is invalid")
  rejectIf (decision.1.sequence ≠ previous.elim 0 (fun r => r.1.sequence) + 1)
    (.integrity "revision decision sequence is not contiguous")
  let s ← insertStatement statement s
  let s ← insertRevision decision s
  pure ((), s.withHead statement)

end CognitionStore

end Tiangong
