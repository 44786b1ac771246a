import Tiangong.EffectOperations

/-!
# Request tables

The journal row and the generation row of a request, as far as the facts bound to a request
check them.
-/
namespace Tiangong

/-- The columns of `request_journal` that a bound fact checks. -/
structure RequestJournalRow where
  requestId : String
  createdAtMs : ℕ
  deriving DecidableEq, Repr

/-- The columns of `request_generation` that a bound fact checks. -/
structure RequestGenerationRow where
  requestId : String
  runId : String
  currentGeneration : ℕ
  status : GenerationStatus
  deriving DecidableEq, Repr

structure RequestTables where
  journal : Table RequestJournalRow.requestId
  generation : Table RequestGenerationRow.requestId

namespace RequestTables

def empty : RequestTables := ⟨.empty, .empty⟩

/-- The fact is not older than its request and belongs to its current run and generation. -/
def assertRequestBinding (t : RequestTables) (requestId runId : String)
    (generation recordedAtMs : ℕ) : Except StoreError RequestGenerationRow := do
  let journal ← required (t.journal.find requestId)
    (.notFound "request continuity binding does not exist")
  rejectIf (recordedAtMs < journal.createdAtMs)
    (.value "request continuity fact predates its request")
  let current ← required (t.generation.find requestId)
    (.notFound "request generation does not exist")
  rejectIf (current.runId ≠ runId ∨ current.currentGeneration ≠ generation)
    (.conflict "request continuity fact crossed a generation fence")
  pure current

def single (requestId : String) (createdAtMs : ℕ) (runId : String) (generation : ℕ)
    (status : GenerationStatus) : RequestTables where
  journal := ⟨[⟨requestId, createdAtMs⟩], by simp⟩
  generation := ⟨[⟨requestId, runId, generation, status⟩], by simp⟩

end RequestTables

end Tiangong
