import Tiangong.CrashedPrograms
import Tiangong.ResponsePlans

/-!
# The response commit saga

A frozen plan is begun, its slots are executed one after the other until a model answers, and the
outcome is committed as an assistant message or a system status. Every call of the store, the clock,
the transport adapter and the life committer is an action, so that others can act between any two.
-/
namespace Tiangong.Response

open Call ModelAttemptResult

/-- What the transport adapter is given. -/
structure TransportRequest where
  planId : Canon
  attemptId : Canon
  slotNo : ℕ
  provider : OpaqueId
  model : OpaqueId
  requestSha256 : Canon
  transportProfileSha256 : Canon
  deriving DecidableEq

/-- The mapping that the transport adapter answers. A missing text is the empty one. -/
structure TransportOutcome where
  status : String
  text : PyStr
  providerResponseId : PyStr
  transportRunId : PyStr
  finishReason : PyStr
  errorCode : PyStr
  responseSchemaValid : Bool
  retryable : Option Bool
  deriving DecidableEq

/-- What the life committer is given at the stage `RESPONSE_COMMITTED`. -/
structure LifeStage where
  responseEpisodeId : OpaqueId
  planRef : Canon
  planOutcomeRef : Canon
  attemptRefs : List Canon
  winnerRef : Option Canon
  assistantCandidateId : Option Canon
  modelAvailable : Bool
  deriving DecidableEq

inductive SagaAction where
  | now
  | putPlan (plan : ModelAttemptPlan)
  | getResult (planId : Canon) (slotNo : ℕ)
  | getMarker (planId : Canon) (slotNo : ℕ)
  | createMarker (marker : DispatchMarker)
  | markDispatched (markerId : Canon) (nowMs : ℕ)
  /-- The call of the model. A value that is no mapping is none. -/
  | transport (request : TransportRequest)
  | putResult (result : ModelAttemptResult)
  | putOutcome (outcome : ModelAttemptPlanOutcome)
  | getHead (effectId : Canon)
  | putHead (head : EffectHead) (expectedHeadSha256 : Option Canon)
  | putCommit (commit : AssistantCommit)
  | commitLife (stage : LifeStage)
  | putStatus (status : SystemStatusRecord)

abbrev SagaAction.Answer : SagaAction → Type
  | .now => JsonNat
  | .putPlan _ => Bool
  | .getResult _ _ => Option ModelAttemptResult
  | .getMarker _ _ => Option DispatchMarker
  | .createMarker _ => Bool
  | .markDispatched _ _ => Bool
  | .transport _ => Option TransportOutcome
  | .putResult _ => Bool
  | .putOutcome _ => Bool
  | .getHead _ => Option EffectHead
  | .putHead _ _ => Bool
  | .putCommit _ => Bool
  | .commitLife _ => Unit
  | .putStatus _ => Bool

abbrev SagaProgram := Program SagaAction SagaAction.Answer SagaFault

/-- What lies outside the store: the clock, the transport adapter and the life committer. -/
abbrev SagaOutside := (a : SagaAction) → Except SagaFault a.Answer

namespace SagaStore

def answer (outside : SagaOutside) : (a : SagaAction) → Call SagaFault SagaStore a.Answer
  | .now => query fun _ => outside .now
  | .putPlan plan => transaction (putModelAttemptPlan plan)
  | .getResult planId slotNo => read (getModelAttemptResult planId slotNo)
  | .getMarker planId slotNo => read (getDispatchMarker planId slotNo)
  | .createMarker marker => transaction (createDispatchMarker marker)
  | .markDispatched markerId nowMs => transaction (markDispatchMarkerDispatched markerId nowMs)
  | .transport request => query fun _ => outside (.transport request)
  | .putResult result => transaction (putModelAttemptResult result)
  | .putOutcome outcome => transaction (putModelAttemptPlanOutcome outcome)
  | .getHead effectId => read fun s => s.heads.find effectId
  | .putHead head expected => transaction (putEffectOutcomeHead head expected)
  | .putCommit commit => transaction (putAssistantCommit commit)
  | .commitLife stage => query fun _ => outside (.commitLife stage)
  | .putStatus status => transaction (putSystemStatus status)

end SagaStore

open Program (ofExcept refuseIf)

abbrev perform (a : SagaAction) : SagaProgram a.Answer := Program.perform a

def frozenHeadSha256 (effectId : Canon) (nowMs : ℕ) : Canon :=
  .sha256 (.ofList [effectId, .text "plan_frozen", .num nowMs])

def frozenHead (plan : ModelAttemptPlan) (nowMs : ℕ) : EffectHead where
  effectId := plan.effectId
  originalExecutionResultRef := plan.modelAttemptPlanId
  effectiveStatus := .failedRetryable
  headRevision := 1
  headSha256 := frozenHeadSha256 plan.effectId nowMs
  updatedAtMs := nowMs

/-- `begin`. It answers the digest that the instance keeps. -/
def begin (plan : ModelAttemptPlan) : SagaProgram Canon := do
  let now ← perform .now
  let _ ← perform (.putPlan plan)
  refuseIf (plan.effectId ≠ plan.modelEffectId)
    (.saga "model attempt plan effect id is inconsistent")
  let _ ← perform (.putHead (frozenHead plan now.val) none)
  pure (frozenHeadSha256 plan.effectId now.val)

def newMarkerId (attemptId : Canon) (nowMs : ℕ) : Canon :=
  .cons (.text "dm_") (.sha256 (.ofList [.text "dispatch-marker", attemptId, .num nowMs]))

def newMarker (plan : ModelAttemptPlan) (slotNo nowMs : ℕ) : DispatchMarker where
  markerId := newMarkerId (plan.attemptId slotNo) nowMs
  planId := plan.modelAttemptPlanId
  attemptId := plan.attemptId slotNo
  slotNo := slotNo
  status := .pending
  createdAtMs := nowMs
  dispatchedAtMs := none

def slotMarker (plan : ModelAttemptPlan) (slotNo nowMs : ℕ) :
    Option DispatchMarker → SagaProgram Canon
  | some marker => pure marker.markerId
  | none => do
    let marker := newMarker plan slotNo nowMs
    let created ← perform (.createMarker marker)
    refuseIf (created = false) (.saga "dispatch marker conflict")
    pure marker.markerId

def transportRequest (plan : ModelAttemptPlan) (slot : ProviderSlot) : TransportRequest where
  planId := plan.modelAttemptPlanId
  attemptId := plan.attemptId slot.slotNo.val
  slotNo := slot.slotNo.val
  provider := slot.provider
  model := slot.model
  requestSha256 := plan.requestSha256
  transportProfileSha256 := slot.transportProfileSha256

/-- `str(outcome.get(key) or default)`. -/
def textOr (default text : PyStr) : PyStr := if text = [] then default else text

/-- `str(outcome.get("status") or "FAILED_FINAL")`. -/
def TransportOutcome.statusText (outcome : TransportOutcome) : String :=
  if outcome.status = "" then "FAILED_FINAL" else outcome.status

/-- The value that a text names; the empty one names none, and another one must be readable. -/
def optionalText {α : Type} (read : PyStr → Option α) (text : PyStr) :
    Except SagaFault (Option α) :=
  if text = [] then .ok none else (required (read text) .value).map some

def ActionId.ofText (text : PyStr) : Option ActionId :=
  if h : isActionId text = true then some ⟨text, h⟩ else none

/-- What is checked of the adapter's answer before the clock is read again. -/
def checkOutcome : Option TransportOutcome → Except SagaFault TransportOutcome
  | none => .error (.saga "transport adapter result is invalid")
  | some outcome => do
    rejectIf (outcome.statusText = "SUCCEEDED" ∧ outcome.text = [])
      (.saga "succeeded transport result has no text")
    rejectIf (outcome.statusText = "SUCCEEDED" ∧ ¬ outcome.text.Encodable) .value
    pure outcome

/-- The result of a slot that the adapter answered. -/
def attemptResult (plan : ModelAttemptPlan) (slot : ProviderSlot) (markerId : Canon)
    (startedAtMs completedAtMs : ℕ) (outcome : TransportOutcome) :
    Except SagaFault ModelAttemptResult := do
  let status ← required (AttemptStatus.ofText? outcome.statusText) .value
  let transportRunId ← required
    (OpaqueId.ofText (textOr (py "trn_shadow") outcome.transportRunId)) .value
  rejectIf (completedAtMs < startedAtMs) .value
  let base : ModelAttemptResult :=
    { receiptId := plan.receiptId slot.slotNo.val
      planId := plan.modelAttemptPlanId
      binding := plan.binding
      attemptId := plan.attemptId slot.slotNo.val
      slotNo := slot.slotNo.val
      provider := slot.provider
      model := slot.model
      status
      startedAtMs
      completedAtMs
      responseSchemaValid := outcome.responseSchemaValid
      dispatchMarkerRef := markerId
      transportRunId
      providerResponseId := none
      outputTextSha256 := none
      textObjectId := none
      finishReason := none
      errorCode := none
      retryable := none }
  if status = .succeeded then do
    let providerResponseId ← optionalText OpaqueId.ofText outcome.providerResponseId
    let finishReason := textOr (py "stop") outcome.finishReason
    rejectIf (160 < finishReason.length ∨ ¬ finishReason.Encodable) .value
    pure { base with
      responseSchemaValid := true
      providerResponseId
      outputTextSha256 := some (textSha256 outcome.text)
      textObjectId := some (textObjectId outcome.text)
      finishReason := some finishReason }
  else do
    let errorCode ← optionalText ActionId.ofText outcome.errorCode
    pure { base with
      errorCode
      retryable := some (outcome.retryable.getD (status = .failedRetryable)) }

theorem attemptResult_eq_ok {plan : ModelAttemptPlan} {slot : ProviderSlot} {markerId : Canon}
    {startedAtMs completedAtMs : ℕ} {outcome : TransportOutcome} {result : ModelAttemptResult}
    (h : attemptResult plan slot markerId startedAtMs completedAtMs outcome = .ok result) :
    AttemptStatus.ofText? outcome.statusText = some result.status ∧
      result.receiptId = plan.receiptId slot.slotNo.val ∧
      result.planId = plan.modelAttemptPlanId ∧ result.slotNo = slot.slotNo.val ∧
      result.provider = slot.provider ∧ result.model = slot.model ∧
      result.completedAtMs = completedAtMs ∧
      (result.status = .succeeded → result.outputTextSha256 = some (textSha256 outcome.text)) := by
  simp only [attemptResult, eq_ok_iff] at h
  obtain ⟨status, hstatus, transportRunId, -, -, h⟩ := h
  split at h
  · next hsucceeded =>
    simp only [eq_ok_iff] at h
    obtain ⟨providerResponseId, -, -, rfl⟩ := h
    exact ⟨hstatus, rfl, rfl, rfl, rfl, rfl, rfl, fun _ => rfl⟩
  · next hfailed =>
    simp only [eq_ok_iff] at h
    obtain ⟨errorCode, -, rfl⟩ := h
    exact ⟨hstatus, rfl, rfl, rfl, rfl, rfl, rfl, fun hs => absurd hs hfailed⟩

/-- What `execute_slot` makes of the adapter's answer. -/
def settleSlot (plan : ModelAttemptPlan) (slot : ProviderSlot) (markerId : Canon) (nowMs : ℕ)
    (answered : Option TransportOutcome) : SagaProgram ModelAttemptResult := do
  let outcome ← ofExcept (checkOutcome answered)
  let completed ← perform .now
  let result ← ofExcept (attemptResult plan slot markerId nowMs completed.val outcome)
  let _ ← perform (.putResult result)
  pure result

/-- `execute_slot`. Whether the marker was still pending is not looked at. -/
def executeSlot (plan : ModelAttemptPlan) (slot : ProviderSlot) :
    SagaProgram ModelAttemptResult := do
  let existing ← perform (.getResult plan.modelAttemptPlanId slot.slotNo.val)
  refuseIf (existing ≠ none) (.saga "terminal attempt slot cannot be replayed")
  let marker ← perform (.getMarker plan.modelAttemptPlanId slot.slotNo.val)
  let now ← perform .now
  let markerId ← slotMarker plan slot.slotNo.val now.val marker
  let _ ← perform (.markDispatched markerId now.val)
  let answered ← perform (.transport (transportRequest plan slot))
  settleSlot plan slot markerId now.val answered

def slotResult (plan : ModelAttemptPlan) (slot : ProviderSlot) :
    SagaProgram ModelAttemptResult := do
  let existing ← perform (.getResult plan.modelAttemptPlanId slot.slotNo.val)
  match existing with
  | some result => pure result
  | none => executeSlot plan slot

/-- The results up to the first success, and that one. -/
def runSlots (plan : ModelAttemptPlan) : List ProviderSlot → List ModelAttemptResult →
    SagaProgram (List ModelAttemptResult × Option ModelAttemptResult)
  | [], results => pure (results, none)
  | slot :: slots, results => do
    let result ← slotResult plan slot
    if result.status = .succeeded then pure (results ++ [result], some result)
    else runSlots plan slots (results ++ [result])

def checkLater (plan : ModelAttemptPlan) (winner : ModelAttemptResult) :
    List ProviderSlot → SagaProgram Unit
  | [] => pure ()
  | later :: slots =>
    if later.slotNo.val ≤ winner.slotNo then checkLater plan winner slots
    else do
      let existing ← perform (.getResult plan.modelAttemptPlanId later.slotNo.val)
      refuseIf (existing ≠ none) (.saga "later slot executed after a winner")
      checkLater plan winner slots

def checkWinner (plan : ModelAttemptPlan) : Option ModelAttemptResult → SagaProgram Unit
  | none => pure ()
  | some winner => checkLater plan winner plan.providerSlots

def planOutcome (plan : ModelAttemptPlan) (results : List ModelAttemptResult)
    (winner : Option ModelAttemptResult) : Except SagaFault ModelAttemptPlanOutcome := do
  rejectIf (¬ (results.map receiptId).Nodup) .value
  pure
    { outcomeId := plan.outcomeId
      planId := plan.modelAttemptPlanId
      planSha256 := plan.planSha256
      status := if winner.isSome then .succeeded else .exhausted
      orderedAttemptRefs := results.map receiptId
      winnerAttemptRef := winner.map receiptId
      completedAtMs := (results.map completedAtMs).foldr max 0 }

/-- The head that the outcome is to replace: the instance's own, or else the stored one. -/
def expectedHead (plan : ModelAttemptPlan) : Option Canon → SagaProgram (Option Canon)
  | some sha256 => pure (some sha256)
  | none => do
    let existing ← perform (.getHead plan.modelEffectId)
    pure (existing.map EffectHead.headSha256)

def outcomeHead (plan : ModelAttemptPlan) (outcome : ModelAttemptPlanOutcome) (nowMs : ℕ) :
    EffectHead where
  effectId := plan.modelEffectId
  originalExecutionResultRef := outcome.outcomeId
  effectiveStatus := if outcome.winnerAttemptRef.isSome then .succeeded else .failedFinal
  headRevision := 2
  headSha256 := outcome.sha256
  updatedAtMs := nowMs

/-- `run_plan`, of an instance that keeps the digest `held`. -/
def runPlan (plan : ModelAttemptPlan) (held : Option Canon) :
    SagaProgram ModelAttemptPlanOutcome := do
  let (results, winner) ← runSlots plan plan.providerSlots []
  checkWinner plan winner
  let outcome ← ofExcept (planOutcome plan results winner)
  let _ ← perform (.putOutcome outcome)
  let expected ← expectedHead plan held
  let now ← perform .now
  let _ ← perform (.putHead (outcomeHead plan outcome now.val) expected)
  pure outcome

def assistantMessageId (plan : ModelAttemptPlan) (lifeId : PyStr) (receiptId textSha256 : Canon) :
    Canon :=
  .ident "asm_" (.ofList [.text "tiangong.v21.assistant-message.v1", .str lifeId,
    .str plan.rootExperienceId.1, .str plan.responseEpisodeId.1, receiptId, textSha256])

def assistantCommitId (plan : ModelAttemptPlan) (messageId : Canon) : Canon :=
  .ident "asc_" (.ofList [.text "tiangong.v21.assistant-commit.v1",
    .str plan.responseEpisodeId.1, messageId])

/-- `turn_ref`. -/
def lifeTurnRef (plan : ModelAttemptPlan) : Canon :=
  .ident "tc_" (.ofList [.text "life-turn-commit", .str plan.responseEpisodeId.1])

def assistantCommit (plan : ModelAttemptPlan) (outcome : ModelAttemptPlanOutcome) (lifeId : PyStr)
    (receiptId : Canon) (text : PyStr) (nowMs : ℕ) : AssistantCommit :=
  let messageId := assistantMessageId plan lifeId receiptId (textSha256 text)
  { assistantCommitId := assistantCommitId plan messageId
    assistantMessageId := messageId
    lifeTurnCommitRef := lifeTurnRef plan
    responseEpisodeId := plan.responseEpisodeId
    outcomeRef := outcome.outcomeId
    receiptId
    committedTextSha256 := textSha256 text
    textObjectId := textObjectId text
    committedAtMs := nowMs }

def lifeStage (plan : ModelAttemptPlan) (outcome : ModelAttemptPlanOutcome)
    (winner candidate : Option Canon) : LifeStage where
  responseEpisodeId := plan.responseEpisodeId
  planRef := plan.modelAttemptPlanId
  planOutcomeRef := outcome.outcomeId
  attemptRefs := outcome.orderedAttemptRefs
  winnerRef := winner
  assistantCandidateId := candidate
  modelAvailable := winner.isSome

/-- The provider and model of the message are those of the plan's first slot. -/
def assistantMessage (plan : ModelAttemptPlan) (commit : AssistantCommit) (lifeId text : PyStr) :
    Except SagaFault AssistantMessage := do
  let lifeId ← required (OpaqueId.ofText lifeId) .value
  rejectIf (text = [] ∨ 200000 < text.length) .value
  pure
    { assistantMessageId := commit.assistantMessageId
      assistantCommitId := commit.assistantCommitId
      assistantCommitSha256 := commit.sha256
      text
      textObjectId := commit.textObjectId
      committedTextSha256 := commit.committedTextSha256
      lifeId
      rootExperienceId := plan.rootExperienceId
      responseEpisodeId := plan.responseEpisodeId
      receiptId := commit.receiptId
      provider := (plan.providerSlots.head plan.slots_ne).provider
      model := (plan.providerSlots.head plan.slots_ne).model
      committedAtMs := commit.committedAtMs }

def systemStatusRecord (plan : ModelAttemptPlan) (code : PyStr) (severity : Severity)
    (nowMs : ℕ) : Except SagaFault SystemStatusRecord := do
  let statusCode ← required (ActionId.ofText code) .value
  let displayObjectRef ← required
    (OpaqueId.ofText (py "obj_status_" ++ plan.responseEpisodeId.1)) .value
  pure
    { systemStatusId := .ident "sys_" (.ofList [.text "system-status",
        .str plan.responseEpisodeId.1, .str code])
      binding := plan.binding
      responseEpisodeId := plan.responseEpisodeId
      statusCode
      severity
      displayObjectRef
      createdAtMs := nowMs }

def systemStatus (plan : ModelAttemptPlan) (code : PyStr) (severity : Severity) :
    SagaProgram SystemStatusRecord := do
  refuseIf (¬ code.Encodable) .value
  let now ← perform .now
  let status ← ofExcept (systemStatusRecord plan code severity now.val)
  let _ ← perform (.putStatus status)
  pure status

def allModelsUnavailable : PyStr := py "all_models_unavailable"

def messageStatus (plan : ModelAttemptPlan) (code : PyStr) :
    SagaProgram (Option SystemStatusRecord) :=
  if code = [] then pure none
  else do
    let status ← systemStatus plan code .warning
    pure (some status)

/-- The outcome has a winner. -/
def commitMessage (plan : ModelAttemptPlan) (outcome : ModelAttemptPlanOutcome)
    (lifeId : PyStr) (receiptId : Canon) (text systemStatus : PyStr) (nowMs : ℕ) :
    SagaProgram AssistantSystemEnvelope := do
  refuseIf (¬ (text.Encodable ∧ lifeId.Encodable)) .value
  let commit := assistantCommit plan outcome lifeId receiptId text nowMs
  let _ ← perform (.putCommit commit)
  let _ ← perform (.commitLife
    (lifeStage plan outcome (some receiptId) (some commit.assistantMessageId)))
  let message ← ofExcept (assistantMessage plan commit lifeId text)
  let status ← messageStatus plan systemStatus
  refuseIf (systemStatus = allModelsUnavailable) .value
  pure ⟨some message, status⟩

/-- The outcome has none. -/
def commitStatus (plan : ModelAttemptPlan) (outcome : ModelAttemptPlanOutcome) (code : PyStr) :
    SagaProgram AssistantSystemEnvelope := do
  let status ← systemStatus plan (textOr allModelsUnavailable code) .error
  let _ ← perform (.commitLife (lifeStage plan outcome none none))
  pure ⟨none, some status⟩

def commitResponse (plan : ModelAttemptPlan) (outcome : ModelAttemptPlanOutcome) (lifeId : PyStr)
    (text : Option PyStr) (systemStatus : PyStr) : SagaProgram AssistantSystemEnvelope := do
  let now ← perform .now
  match outcome.status, text, outcome.winnerAttemptRef with
  | .succeeded, some text, some receiptId =>
    commitMessage plan outcome lifeId receiptId text systemStatus now.val
  | .succeeded, _, _ => Program.fail (.saga "succeeded outcome requires committed text")
  | .exhausted, _, _ => commitStatus plan outcome systemStatus

end Tiangong.Response
