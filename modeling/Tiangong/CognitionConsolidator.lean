import Tiangong.CognitionStore
import Tiangong.CrashedPrograms

/-!
# The cognition consolidator

What evidence for and against a proposal does to its belief slot. A consolidation reads the head,
reports on the evidence and commits up to three transitions, each under the head it has seen; a
protection commits one. They are programs over the store, so that several may run side by side.
-/
namespace Tiangong

open CognitionStatement Program

structure CognitionProposal where
  slot : CognitionSlot
  privacyScope : PrivacyScope
  value : CognitionValue
  proposalOrigin : CognitionProposalOrigin
  conditionObjectId : Option String
  priorIds : List String
  validUntilMs : Option ℕ
  deriving DecidableEq

inductive ConsolidationReason where
  | created | reverified | challenged | sameValue | candidateReplaced | insufficientChallenge
  | notReverifying | awaitingNewValueEvidence | protectedC4RequiresAuthority | superseded
  deriving DecidableEq, Repr

structure ConsolidationResult where
  cognitionId : Canon
  head : Option CognitionStatement
  changed : Bool
  transitions : List CognitionTransition
  report : StabilityReport
  reason : ConsolidationReason

inductive CognitionAction where
  | getHead (cognitionId : Canon)
  | getEvidenceMany (ids : List Canon)
  | getLatestRevision (cognitionId : Canon)
  | commitTransition (statement : CognitionStatement) (decision : CognitionRevision)
    (expectedHeadSha256 : Option Canon)

abbrev CognitionAction.Answer : CognitionAction → Type
  | .getHead _ => Option CognitionStatement
  | .getEvidenceMany _ => List CognitionEvidence
  | .getLatestRevision _ => Option CognitionRevision
  | .commitTransition _ _ _ => Unit

abbrev CognitionProgram := Program CognitionAction CognitionAction.Answer CognitionError

namespace CognitionStore

/-- How the store answers an action. -/
def answer : (a : CognitionAction) → CognitionCall a.Answer
  | .getHead cognitionId => Call.read (getHead cognitionId)
  | .getEvidenceMany ids => Call.read (getEvidenceMany ids)
  | .getLatestRevision cognitionId => Call.read (getLatestRevision cognitionId)
  | .commitTransition statement decision expectedHeadSha256 =>
    Call.transaction (commitTransition statement decision expectedHeadSha256)

end CognitionStore

namespace CognitionConsolidator

def perform (a : CognitionAction) : CognitionProgram a.Answer := Program.perform a

def loadEvidenceExact (evidenceIds : List Canon) : CognitionProgram (List CognitionEvidence) := do
  let requested := sortedIds evidenceIds
  let loaded ← perform (.getEvidenceMany requested)
  refuseIf (¬ ∀ id ∈ requested, id ∈ loaded.map CognitionEvidence.id)
    (.integrity "unknown cognition evidence IDs")
  pure loaded

/-- The evidence belongs to the slot's life, domain, world and principal. -/
def inScope (slot : CognitionSlot) (e : CognitionEvidence) : Bool :=
  e.1.lifeId = slot.lifeId && e.1.domain = slot.domain &&
    e.1.worldScopeHash = slot.worldScopeHash && e.1.principalScopeHash = slot.principalScopeHash

/-- No item is on both sides. -/
def disjointIds (support counter : List Canon) : Bool := support.all fun id => !counter.contains id

def report (proposal : CognitionProposal) (supportIds counterIds : List Canon) (nowMs : ℕ) :
    CognitionProgram StabilityReport := do
  let supportIds := sortedIds supportIds
  let counterIds := sortedIds counterIds
  refuseIf (disjointIds supportIds counterIds = false)
    (.integrity "one evidence ID cannot support and counter the same cognition")
  let support ← loadEvidenceExact supportIds
  let counter ← loadEvidenceExact counterIds
  refuseIf (¬ ∀ e ∈ support ++ counter, inScope proposal.slot e = true)
    (.integrity "cross-scope evidence cannot be attached to cognition")
  pure (evaluateEvidence proposal.slot support counter nowMs stabilityPolicy)

def validateExistingSlot (head : CognitionStatement) (proposal : CognitionProposal) :
    Except CognitionError Unit := do
  rejectIf (head.1.slot.lifeId ≠ proposal.slot.lifeId ∨ head.1.slot.domain ≠ proposal.slot.domain ∨
      head.1.slot.worldScopeHash ≠ proposal.slot.worldScopeHash ∨
      head.1.slot.principalScopeHash ≠ proposal.slot.principalScopeHash)
    (.integrity "proposal scope differs from existing cognition slot")
  rejectIf (head.1.privacyScope ≠ proposal.privacyScope)
    (.integrity "cognition privacy scope cannot change inside an existing slot")
  rejectIf (head.1.conditionObjectId ≠ proposal.conditionObjectId)
    (.integrity "cognition condition object cannot change inside an existing slot")

/-- What a transition makes of a head: the value and state of the next statement, the evidence it
names and the report it rests on, and whether it goes on from the previous statement. -/
structure Move where
  transition : CognitionTransition
  value : CognitionValue
  status : CognitionStatus
  level : CognitionStabilityLevel
  report : StabilityReport
  supportIds : List Canon
  counterIds : List Canon
  carryPreviousIdentity : Bool
  triggerIds : List Canon
  authority : CognitionDecisionAuthority
  reason : String

/-- `_LEVEL_STATE`. -/
def levelStatus : CognitionStabilityLevel → CognitionStatus
  | .c0 => .candidate
  | .c1 => .provisional
  | .c2 => .stable
  | .c3 | .c4 => .core

/-- `_statement`, before it is validated. -/
def statementFields (proposal : CognitionProposal) (previous : Option CognitionStatement)
    (move : Move) (nowMs : ℕ) : StatementFields :=
  let carried := if move.carryPreviousIdentity then previous else none
  { cognitionId := proposal.slot.cognitionId
    slot := proposal.slot
    privacyScope := carried.elim proposal.privacyScope fun p => p.1.privacyScope
    value := move.value
    conditionObjectId := proposal.conditionObjectId
    proposalOrigin := carried.elim proposal.proposalOrigin fun p => p.1.proposalOrigin
    status := move.status
    stabilityLevel := move.level
    confidenceMilli := min 1000 move.report.netMilli
    supportingEvidenceIds := sortedIds move.supportIds
    counterevidenceIds := sortedIds move.counterIds
    priorIds := carried.elim (sortedIds (proposal.priorIds.filter (· ≠ "")))
      fun p => p.1.priorIds
    validFromMs := carried.elim nowMs fun p => p.1.validFromMs
    validUntilMs := carried.elim proposal.validUntilMs fun p => p.1.validUntilMs
    lastVerifiedAtMs :=
      if move.status = .stable ∨ move.status = .core then some nowMs
      else previous.bind fun p => p.1.lastVerifiedAtMs
    revision := previous.elim 0 revision + 1
    supersedesStatementSha256 := previous.map sha256
    statementSha256 := .null }

/-- `_decision`, before it is validated. -/
def decisionFields (previous : Option CognitionStatement) (statement : CognitionStatement)
    (move : Move) (latest : Option CognitionRevision) (nowMs : ℕ) : RevisionFields :=
  { cognitionRevisionId := deriveCognitionRevisionId statement.cognitionId statement.revision
      (previous.map sha256) statement.sha256
    lifeId := statement.1.slot.lifeId
    cognitionId := statement.cognitionId
    sequence := statement.revision
    previousRevisionSha256 := latest.map CognitionRevision.sha256
    fromStatementSha256 := previous.map sha256
    toStatementSha256 := statement.sha256
    fromStatus := previous.map status
    toStatus := statement.status
    fromStabilityLevel := previous.map level
    toStabilityLevel := statement.level
    transition := move.transition
    triggerEvidenceIds := sortedIds move.triggerIds
    supportIndependenceGroups := move.report.supportGroups
    counterIndependenceGroups := move.report.counterGroups
    supportMilli := move.report.supportMilli
    counterMilli := move.report.counterMilli
    correlationDiscountMilli := move.report.correlationDiscountMilli
    stalenessPenaltyMilli := move.report.stalenessPenaltyMilli
    decisionAuthority := move.authority
    policyRef := "policy.world_cognition.stability.v1"
    policySha256 := stabilityPolicy.sha256
    reasonCodes := [move.reason]
    createdAtMs := nowMs
    revisionSha256 := .null }

/-- A statement that its validators accept, with its digest. -/
def sealStatement (fields : StatementFields) : Except CognitionError CognitionStatement :=
  sealed StatementFields.valid .validation fields.withHash

def sealDecision (fields : RevisionFields) : Except CognitionError CognitionRevision :=
  sealed RevisionFields.valid .validation fields.withHash

/-- `_statement` and `_commit`. -/
def commit (proposal : CognitionProposal) (nowMs : ℕ) (previous : Option CognitionStatement)
    (move : Move) : CognitionProgram CognitionStatement := do
  let statement ← ofExcept (sealStatement (statementFields proposal previous move nowMs))
  let latest ← perform (.getLatestRevision statement.cognitionId)
  let decision ← ofExcept
    (sealDecision (decisionFields previous statement move latest nowMs))
  perform (.commitTransition statement decision (previous.map sha256))
  pure statement

/-- The levels that a head is promoted through, one after the other. -/
def promotions (level target : CognitionStabilityLevel) : List CognitionStabilityLevel :=
  [CognitionStabilityLevel.c1, .c2, .c3].filter fun l =>
    level.order < l.order && l.order ≤ target.order

def promote (value : CognitionValue) (report : StabilityReport)
    (supportIds counterIds : List Canon) (level : CognitionStabilityLevel) : Move :=
  { transition := .promote, value := value, status := levelStatus level, level := level,
    report := report, supportIds := supportIds, counterIds := counterIds,
    carryPreviousIdentity := true, triggerIds := supportIds, authority := .deterministicPolicy,
    reason := "cognition.promote" }

/-- `_promote_as_far_as_possible`, through the levels up to the highest eligible one. -/
def promoteThrough (proposal : CognitionProposal) (nowMs : ℕ) (report : StabilityReport)
    (supportIds counterIds : List Canon) :
    List CognitionStabilityLevel → CognitionStatement → CognitionProgram CognitionStatement
  | [], head => pure head
  | level :: levels, head => do
    let head ← commit proposal nowMs (some head)
      (promote head.1.value report supportIds counterIds level)
    promoteThrough proposal nowMs report supportIds counterIds levels head

def promoteAsFarAsPossible (proposal : CognitionProposal) (nowMs : ℕ) (head : CognitionStatement)
    (report : StabilityReport) (supportIds counterIds : List Canon) :
    CognitionProgram (CognitionStatement × List CognitionTransition) := do
  let levels := promotions head.level (report.highestEligibleLevel stabilityPolicy)
  let head ← promoteThrough proposal nowMs report supportIds counterIds levels head
  pure (head, levels.map fun _ => .promote)

/-- What a consolidation is given, its evidence already sorted. -/
structure Request where
  proposal : CognitionProposal
  support : List Canon
  counter : List Canon
  nowMs : ℕ
  authority : CognitionDecisionAuthority

namespace Request

variable (q : Request)

def result (head : CognitionStatement) (transitions : List CognitionTransition)
    (report : StabilityReport) (reason : ConsolidationReason) : ConsolidationResult :=
  ⟨q.proposal.slot.cognitionId, some head, !transitions.isEmpty, transitions, report, reason⟩

/-- The head stays, in another status. -/
def inStatus (head : CognitionStatement) (transition : CognitionTransition)
    (status : CognitionStatus) (report : StabilityReport) (supportIds counterIds : List Canon)
    (triggerIds : List Canon) (reason : String) : Move :=
  { transition := transition, value := head.1.value, status := status, level := head.level,
    report := report, supportIds := supportIds, counterIds := counterIds,
    carryPreviousIdentity := true, triggerIds := triggerIds, authority := .deterministicPolicy,
    reason := reason }

/-- A statement that starts anew from the proposal and its evidence. -/
def anew (transition : CognitionTransition) (level : CognitionStabilityLevel)
    (report : StabilityReport) (authority : CognitionDecisionAuthority) (reason : String) : Move :=
  { transition := transition, value := q.proposal.value, status := levelStatus level,
    level := level, report := report, supportIds := q.support, counterIds := q.counter,
    carryPreviousIdentity := false, triggerIds := q.support, authority := authority,
    reason := reason }

/-- The first statement of a slot, promoted as far as its evidence goes. -/
def create : CognitionProgram ConsolidationResult := do
  let report ← report q.proposal q.support q.counter q.nowMs
  let head ← commit q.proposal q.nowMs none
    (q.anew .genesis .c0 report q.authority "cognition.genesis")
  let promoted ← promoteAsFarAsPossible q.proposal q.nowMs head report q.support q.counter
  pure (q.result promoted.1 (.genesis :: promoted.2) report .created)

/-- A challenged head is verified again. -/
def beginReverify (head : CognitionStatement) (report : StabilityReport)
    (supportIds counterIds : List Canon) :
    CognitionProgram (CognitionStatement × List CognitionTransition) :=
  if head.status = .challenged then do
    let reverifying ← commit q.proposal q.nowMs (some head) (inStatus head .beginReverify
      .reverifying report supportIds counterIds (q.support ++ q.counter)
      "cognition.begin_reverify")
    pure (reverifying, [.beginReverify])
  else pure (head, [])

/-- The head is confirmed if its evidence still carries its level. -/
def reverify (head : CognitionStatement) (report : StabilityReport)
    (supportIds counterIds : List Canon) : CognitionProgram ConsolidationResult := do
  let begun ← q.beginReverify head report supportIds counterIds
  if report.eligibleAtLeast stabilityPolicy begun.1.level then do
    let confirmed ← commit q.proposal q.nowMs (some begun.1) (inStatus begun.1 .confirm
      (levelStatus begun.1.level) report supportIds counterIds (q.support ++ q.counter)
      "cognition.confirm")
    pure (q.result confirmed (begun.2 ++ [.confirm]) report .reverified)
  else pure (q.result begun.1 begun.2 report .reverified)

/-- The head says something else now than what was committed last about it. -/
def changesHead (head : CognitionStatement) (report : StabilityReport)
    (supportIds counterIds : List Canon) : Bool :=
  supportIds ≠ head.1.supportingEvidenceIds || counterIds ≠ head.1.counterevidenceIds ||
    report.netMilli ≠ head.1.confidenceMilli

/-- A head that was not promoted is refreshed if its evidence changed and still carries it. -/
def refresh (originalLevel : CognitionStabilityLevel) (head : CognitionStatement)
    (transitions : List CognitionTransition) (report : StabilityReport)
    (supportIds counterIds : List Canon) : CognitionProgram ConsolidationResult :=
  if transitions = [] ∧ report.eligibleAtLeast stabilityPolicy originalLevel ∧
      changesHead head report supportIds counterIds then do
    let refreshed ← commit q.proposal q.nowMs (some head) (inStatus head .refresh head.status report
      supportIds counterIds (q.support ++ q.counter) "cognition.refresh")
    pure (q.result refreshed [.refresh] report .sameValue)
  else pure (q.result head transitions report .sameValue)

/-- The proposal says what the head says. -/
def sameValue (head : CognitionStatement) : CognitionProgram ConsolidationResult := do
  let supportIds := sortedIds (head.1.supportingEvidenceIds ++ q.support)
  let counterIds := sortedIds (head.1.counterevidenceIds ++ q.counter)
  let report ← report q.proposal supportIds counterIds q.nowMs
  if head.status = .challenged ∨ head.status = .reverifying then
    q.reverify head report supportIds counterIds
  else if head.level ≠ .c0 ∧ report.challengeIsMaterial head.level then do
    let challenged ← commit q.proposal q.nowMs (some head) (inStatus head .challenge .challenged
      report supportIds counterIds counterIds "cognition.challenge")
    pure (q.result challenged [.challenge] report .challenged)
  else do
    let promoted ← promoteAsFarAsPossible q.proposal q.nowMs head report supportIds counterIds
    q.refresh head.level promoted.1 promoted.2 report supportIds counterIds

def replaceCandidate (head : CognitionStatement) (report : StabilityReport) :
    CognitionProgram ConsolidationResult := do
  let replacement ← commit q.proposal q.nowMs (some head)
    (q.anew .replaceCandidate .c0 report .deterministicPolicy "cognition.replace_candidate")
  let promoted ← promoteAsFarAsPossible q.proposal q.nowMs replacement report q.support q.counter
  pure (q.result promoted.1 (.replaceCandidate :: promoted.2) report .candidateReplaced)

/-- The evidence for another value is material on its own. -/
def newClaimMaterial (report : StabilityReport) : Bool :=
  stabilityPolicy.provisionalThresholdMilli ≤ report.netMilli && 1 ≤ report.supportGroups.length

/-- Another value challenges an active head, if the evidence for it is material. -/
def challengeActive (head : CognitionStatement) (report : StabilityReport) :
    CognitionProgram (Option (CognitionStatement × List CognitionTransition)) := do
  let counterIds := sortedIds (head.1.counterevidenceIds ++ q.support)
  let oldReport ← CognitionConsolidator.report q.proposal head.1.supportingEvidenceIds counterIds
    q.nowMs
  if newClaimMaterial report = false ∨ oldReport.challengeIsMaterial head.level = false then
    pure none
  else do
    let challenged ← commit q.proposal q.nowMs (some head) (inStatus head .challenge .challenged
      oldReport head.1.supportingEvidenceIds counterIds q.support "cognition.challenge_new_value")
    pure (some (challenged, [.challenge]))

/-- A head that another value challenged is verified again. -/
def reverifyChallenged (head : CognitionStatement) (transitions : List CognitionTransition) :
    CognitionProgram (CognitionStatement × List CognitionTransition) :=
  if head.status = .challenged then do
    let oldReport ← report q.proposal head.1.supportingEvidenceIds head.1.counterevidenceIds
      q.nowMs
    let reverifying ← commit q.proposal q.nowMs (some head) (inStatus head .beginReverify
      .reverifying oldReport head.1.supportingEvidenceIds head.1.counterevidenceIds q.support
      "cognition.begin_reverify_new_value")
    pure (reverifying, transitions ++ [.beginReverify])
  else pure (head, transitions)

/-- Another value supersedes the head, if its evidence carries the established level. -/
def supersede (head : CognitionStatement) (transitions : List CognitionTransition)
    (report : StabilityReport) : CognitionProgram ConsolidationResult :=
  if head.status ≠ .reverifying then pure (q.result head transitions report .notReverifying)
  else if report.eligibleAtLeast stabilityPolicy head.level = false then
    pure (q.result head transitions report .awaitingNewValueEvidence)
  else if head.level = .c4 ∧ q.authority = .deterministicPolicy then
    pure (q.result head transitions report .protectedC4RequiresAuthority)
  else do
    let superseding ← commit q.proposal q.nowMs (some head)
      (q.anew .supersede head.level report q.authority "cognition.supersede")
    pure (q.result superseding (transitions ++ [.supersede]) report .superseded)

/-- The proposal says something else than the head. -/
def otherValue (head : CognitionStatement) : CognitionProgram ConsolidationResult := do
  let report ← report q.proposal q.support q.counter q.nowMs
  if head.status = .candidate then q.replaceCandidate head report
  else if head.status = .challenged ∨ head.status = .reverifying then do
    let reverified ← q.reverifyChallenged head []
    q.supersede reverified.1 reverified.2 report
  else do
    match ← q.challengeActive head report with
    | none => pure (q.result head [] report .insufficientChallenge)
    | some challenged =>
      let reverified ← q.reverifyChallenged challenged.1 challenged.2
      q.supersede reverified.1 reverified.2 report

/-- A consolidation of an existing slot. -/
def revise (head : CognitionStatement) : CognitionProgram ConsolidationResult := do
  ofExcept (validateExistingSlot head q.proposal)
  refuseIf (head.status = .retired)
    (.integrity "retired cognition cannot be silently revived")
  if head.1.value = q.proposal.value then q.sameValue head else q.otherValue head

end Request

/-- `consolidate`. An authority that is none of the three is one that the caller made up. -/
def consolidate (proposal : CognitionProposal) (supportEvidenceIds counterevidenceIds : List Canon)
    (nowMs : ℕ) (decisionAuthority : Option CognitionDecisionAuthority) :
    CognitionProgram ConsolidationResult := do
  let authority ← ofExcept (required decisionAuthority
    (.integrity "LLM or caller-defined revision authority is forbidden"))
  refuseIf (proposal.conditionObjectId.isNone ≠ proposal.slot.conditionSha256.isNone)
    (.integrity "proposal condition binding must be all-or-none")
  let q : Request := ⟨proposal, sortedIds supportEvidenceIds, sortedIds counterevidenceIds, nowMs,
    authority⟩
  refuseIf (disjointIds q.support q.counter = false)
    (.integrity "one evidence ID cannot support and counter the same proposal")
  match ← perform (.getHead proposal.slot.cognitionId) with
  | none => q.create
  | some head => q.revise head

def restated (head : CognitionStatement) : CognitionProposal :=
  { slot := head.1.slot, privacyScope := head.1.privacyScope, value := head.1.value,
    proposalOrigin := head.1.proposalOrigin, conditionObjectId := head.1.conditionObjectId,
    priorIds := head.1.priorIds, validUntilMs := head.1.validUntilMs }

def protectHead (nowMs : ℕ) (authority : CognitionDecisionAuthority) (head : CognitionStatement) :
    CognitionProgram CognitionStatement := do
  let report ← report (restated head) head.1.supportingEvidenceIds head.1.counterevidenceIds nowMs
  refuseIf (report.highestEligibleLevel stabilityPolicy ≠ .c3)
    (.integrity "C4 protection requires currently valid CORE-level evidence")
  commit (restated head) nowMs (some head)
    { transition := .protect, value := head.1.value, status := .core, level := .c4,
      report := report, supportIds := head.1.supportingEvidenceIds,
      counterIds := head.1.counterevidenceIds, carryPreviousIdentity := true,
      triggerIds := head.1.supportingEvidenceIds, authority := authority,
      reason := "cognition.protect" }

def protect (cognitionId : Canon) (nowMs : ℕ)
    (decisionAuthority : Option CognitionDecisionAuthority) :
    CognitionProgram CognitionStatement := do
  let authority ← ofExcept (required (decisionAuthority.filter (· ≠ .deterministicPolicy))
    (.integrity "C4 protection requires explicit system authority or migration"))
  let found ← perform (.getHead cognitionId)
  let head ← ofExcept
    (required (found.filter fun h => h.status = .core && h.level = .c3)
      (.integrity "only CORE/C3 cognition may enter protected C4"))
  protectHead nowMs authority head

end CognitionConsolidator

end Tiangong
