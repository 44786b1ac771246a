import Tiangong.CompletionGate
import Tiangong.CrashedPrograms
import Tiangong.OutboxStore
import Tiangong.Transitions

/-!
# The delivery worker of the gateway

One call of `dispatch_next` settles a recorded result, recovers an orphaned dispatch, or claims an
intent, issues its ticket, crosses the dispatch boundary and sends. Every transaction of the store,
every access to an object and every call of another component is an action, so that other workers,
expired leases and crashes can fall between any two of them.
-/
namespace Tiangong

open Program (ofExcept refuseIf)

/-- The delivery plan with the facts that finalize its request. -/
structure DeliveryOutboxPayload where
  lifeId : String
  sessionScopeHash : String
  executionEffectId : String
  plan : OutboundPlan
  payloadSha256 : Canon
  plan_sha256 : plan.hasValidPlanSha256 = true

namespace DeliveryOutboxPayload

def computedSha256 (p : DeliveryOutboxPayload) : Canon :=
  .sha256 <| .ofList
    [.text p.lifeId, .text p.sessionScopeHash, .text p.executionEffectId, p.plan.canon]

def hasValidSha256 (p : DeliveryOutboxPayload) : Bool := p.payloadSha256 = p.computedSha256

end DeliveryOutboxPayload

/-- The scope under which an object is put. -/
structure ObjectScope where
  tenantId : String
  linkAccountId : String
  conversationScopeHash : Canon
  deriving DecidableEq, Repr

def DeliveryOutboxPayload.scope (p : DeliveryOutboxPayload) : ObjectScope :=
  ⟨p.plan.tenantId, p.plan.linkAccountId, p.plan.conversationScopeHash⟩

/-- What a dispatch result says, as far as it is read back. -/
structure ResultDocument where
  kind : Option String
  ambiguous : Bool
  outboxId : Option String
  /-- The `code` that a final text names; no result of the worker has one. -/
  code : Option String
  /-- The receipt, when it is one. -/
  receipt : Option DeliveryReceipt

/-- The results that the worker puts. -/
inductive ResultRecord where
  | receipt (outboxId : String) (receipt : DeliveryReceipt)
  | error (outboxId reasonCode : String) (ambiguous : Bool)
  | cancelled (outboxId detail : String)

/-- What a worker raises. -/
inductive DeliveryError where
  /-- `DeliveryOutboxError`. -/
  | outbox (code : String)
  /-- `CommunicationClientError`. -/
  | communication (code : String) (ambiguous : Bool)
  | store (error : StoreError)
  /-- What the object store, the authority or another table raised. -/
  | raised (text : String)
  | assertion
  deriving DecidableEq, Repr

/-- How the bytes `Raw` of an object are read and written. -/
structure DeliveryDocuments (Raw : Type) where
  sha256 : Raw → Canon
  /-- `DeliveryOutboxPayload.model_validate_json`. -/
  validatePayload : Raw → Option DeliveryOutboxPayload
  payloadBytes : DeliveryOutboxPayload → Raw
  ticketBytes : DeliveryTicket → Raw
  resultBytes : ResultRecord → Raw
  /-- `json.loads` of a result, when it is one. -/
  loadResult : Raw → Option ResultDocument
  canonicalResult : Raw → Bool
  /-- The scope of the `plan` that a document has, or what reading it raises. -/
  loadPlanScope : Raw → Except DeliveryError (Option ObjectScope)

/-- The facts of a transition that the worker asks for. -/
structure Advance where
  machine : MachineName
  entityId : String
  toState : StateValue
  nowMs : ℕ
  factId : Option Canon := none
  evidenceSha256 : Option Canon := none
  deriving DecidableEq, Repr

/-- What the completion gate is asked about a delivery. -/
inductive DeliveryEvidence where
  | failure (failure : DeliveryFailure)
  | receipt (receipt : DeliveryReceipt)

inductive DeliveryAction (Raw : Type) where
  | listUnfinalizedOutboxResults (limit : ℕ)
  | listDispatchableOutbox (nowMs limit : ℕ)
  | getOutbox (outboxId : String)
  | getOutboxDispatchBoundary (outboxId : String)
  | getRequestEntry (requestId : String)
  | getEffect (effectId : String)
  | getGeneration (requestId : String)
  | claimOutbox (outboxId workerId : String) (nowMs leaseMs : ℕ)
  | markOutboxDispatchStarted (outboxId workerId : String) (gatewayEpoch : ℕ)
      (ticketObjectId : String) (ticketSha256 : Canon) (startedAtMs : ℕ)
  | markExpiredOutboxAmbiguous (outboxId : String) (observedAtMs : ℕ) (resultObjectId : String)
      (resultSha256 : Canon)
  | recordOutboxDispatchResult (outboxId workerId : String) (outcome : OutboxOutcome)
      (resultObjectId : String) (resultSha256 : Canon) (completedAtMs : ℕ)
  | markOutboxFinalized (outboxId : String) (finalization : BoundaryFinalization)
      (releaseGeneration : Bool)
  | getReference (objectId : String)
  | readBytes (objectId : String)
  | putBytes (raw : Raw) (scope : ObjectScope) (createdAtMs : ℕ)
  | signDelivery (payload : DeliveryTicketPayload)
  | installDeliveryAuthority (gatewayEpoch nowMs : ℕ)
  /-- The transport sees the ticket and the plan; the intent is the one they were loaded from. -/
  | dispatchDelivery (outboxId : String) (ticket : DeliveryTicket) (plan : OutboundPlan)
  | timeMs
  | getSnapshot (machine : MachineName) (entityId : String)
  | advance (event : Advance)
  | continuityContext (payload : DeliveryOutboxPayload) (observedAtMs : ℕ)
  /-- The active verification plan is executed and repaired, and the gate evaluated. -/
  | evaluateCompletion (payload : DeliveryOutboxPayload) (evidence : DeliveryEvidence)
      (evaluatedAtMs : ℕ)
  | recordCompletionDecision (decision : CompletionDecision) (recordedAtMs : ℕ)
  | persistWorkingCheckpoint (payload : DeliveryOutboxPayload) (userGoal : String)
      (factId : Canon) (createdAtMs : ℕ)
  | persistTerminalCompletion (decision : CompletionDecision) (lifeId userGoal finalResult : String)
      (factId : Canon) (createdAtMs : ℕ)
  | completeSessionRequest (sessionScopeHash requestId : String) (completedAtMs : ℕ)

abbrev DeliveryAction.Answer {Raw : Type} : DeliveryAction Raw → Type
  | .listUnfinalizedOutboxResults _ => List OutboxDispatchBoundary
  | .listDispatchableOutbox _ _ => List OutboxRow
  | .getOutbox _ => Option OutboxRow
  | .getOutboxDispatchBoundary _ => Option OutboxDispatchBoundary
  | .getRequestEntry _ => Option RequestEntry
  | .getEffect _ => Option EffectRow
  | .getGeneration _ => Option GenerationLease
  | .claimOutbox _ _ _ _ => OutboxRow
  | .markOutboxDispatchStarted _ _ _ _ _ _ => OutboxDispatchBoundary
  | .markExpiredOutboxAmbiguous _ _ _ _ => OutboxRow
  | .recordOutboxDispatchResult _ _ _ _ _ _ => OutboxRow
  | .markOutboxFinalized _ _ _ => OutboxDispatchBoundary
  | .getReference _ => Option ObjectReference
  | .readBytes _ => Raw
  | .putBytes _ _ _ => ObjectReference
  | .signDelivery _ => DeliveryTicket
  | .installDeliveryAuthority _ _ => Unit
  | .dispatchDelivery _ _ _ => DeliveryReceipt
  | .timeMs => ℕ
  | .getSnapshot _ _ => Option StateValue
  /- The `last_event_id` of the snapshot that is reached. -/
  | .advance _ => String
  | .continuityContext _ _ => String × String
  | .evaluateCompletion _ _ _ => CompletionDecision
  | .recordCompletionDecision _ _ => Unit
  /- The digest of the capsule. -/
  | .persistWorkingCheckpoint _ _ _ _ => Canon
  | .persistTerminalCompletion _ _ _ _ _ _ => Unit
  | .completeSessionRequest _ _ _ => Unit

abbrev DeliveryProgram (Raw : Type) :=
  Program (DeliveryAction Raw) DeliveryAction.Answer DeliveryError

abbrev perform {Raw : Type} (a : DeliveryAction Raw) : DeliveryProgram Raw a.Answer :=
  Program.perform a

structure GatewayDeliveryOutboxWorker (Raw : Type) where
  documents : DeliveryDocuments Raw
  gatewayEpoch : ℕ
  workerId : String
  componentManifestSha256 : Canon

/-- The delivery state machine of a run. -/
def deliveryEntity (runId : String) : String := "delivery-" ++ runId

def deliveryFactId (evidenceSha256 : Canon) : Canon :=
  .cons (.text "fact-delivery-") evidenceSha256

namespace GatewayDeliveryOutboxWorker

variable {Raw : Type} [DecidableEq Raw] (worker : GatewayDeliveryOutboxWorker Raw)

/-- The execution succeeded, and its generation is active and owned by this worker. -/
def executionFact (plan : OutboundPlan) (effect : Option EffectRow)
    (generation : Option GenerationLease) : Bool :=
  (effect.any fun e => e.state = .succeeded && e.claim.requestId = plan.requestId &&
    e.claim.runId = plan.runId && e.claim.generation = plan.generation) &&
  generation.any fun g => g.status = .active && g.gatewayEpoch = worker.gatewayEpoch &&
    g.ownerInstanceId = worker.workerId && g.runId = plan.runId && g.generation = plan.generation

def loadPayload (record : OutboxRow) : DeliveryProgram Raw DeliveryOutboxPayload := do
  let intent := record.intent
  refuseIf (intent.intentKind ≠ .delivery ∨ intent.destinationComponentId ≠ .communicationService)
    (.outbox "delivery_outbox.intent.invalid")
  let reference : Option ObjectReference ← perform (.getReference intent.payloadObjectId)
  refuseIf (¬ reference.any fun r => r.sha256 = intent.payloadSha256)
    (.outbox "delivery_outbox.payload.reference_invalid")
  let raw : Raw ← perform (.readBytes intent.payloadObjectId)
  refuseIf (worker.documents.sha256 raw ≠ intent.payloadSha256)
    (.outbox "delivery_outbox.payload.bytes_invalid")
  let payload ← ofExcept <| required (worker.documents.validatePayload raw)
    (.outbox "delivery_outbox.payload.invalid")
  refuseIf (worker.documents.payloadBytes payload ≠ raw ∨ payload.hasValidSha256 = false)
    (.outbox "delivery_outbox.payload.noncanonical")
  let plan := payload.plan
  refuseIf (plan.effectId ≠ intent.effectId ∨ plan.requestId ≠ intent.requestId ∨
      plan.runId ≠ intent.runId ∨ plan.generation ≠ intent.generation)
    (.outbox "delivery_outbox.payload.binding_mismatch")
  let entry : Option RequestEntry ← perform (.getRequestEntry plan.requestId)
  refuseIf (¬ entry.any fun e => e.sessionScopeHash = payload.sessionScopeHash)
    (.outbox "delivery_outbox.session.binding_mismatch")
  let effect : Option EffectRow ← perform (.getEffect payload.executionEffectId)
  let generation : Option GenerationLease ← perform (.getGeneration plan.requestId)
  refuseIf (worker.executionFact plan effect generation = false)
    (.outbox "delivery_outbox.execution_fact.missing")
  pure payload

def ticketPayload (plan : OutboundPlan) (issuedAtMs : ℕ) : DeliveryTicketPayload where
  ticketId := .ident "delivery-ticket-" <|
    .ofList [.text plan.effectId, .num worker.gatewayEpoch, .num issuedAtMs]
  issuedAtMs := issuedAtMs
  notBeforeMs := issuedAtMs
  expiresAtMs := issuedAtMs + 60000
  gatewayEpoch := worker.gatewayEpoch
  requestId := plan.requestId
  runId := plan.runId
  generation := plan.generation
  deliveryId := plan.deliveryId
  effectId := plan.effectId
  channel := plan.channel
  tenantId := plan.tenantId
  linkAccountId := plan.linkAccountId
  conversationRef := plan.conversationRef
  conversationScopeHash := plan.conversationScopeHash
  recipientScopeHash := plan.recipientScopeHash
  replyToMessageRef := plan.replyToMessageRef
  outboundPlanId := plan.outboundPlanId
  outboundPlanSha256 := plan.planSha256
  channelPolicyHash := plan.channelPolicyHash
  componentManifestHash := worker.componentManifestSha256
  allowText := plan.parts.any fun part => part.kind = .text
  allowFiles := plan.parts.any fun part => part.kind = .artifact
  maxTextParts := plan.parts.countP fun part => part.kind = .text
  maxFileParts := plan.parts.countP fun part => part.kind = .artifact
  uploadTimeoutMs := 3600000
  sendTimeoutMs := 60000
  parts := plan.parts.map grantFromOutboundPart

def issueTicket (plan : OutboundPlan) (issuedAtMs : ℕ) : DeliveryProgram Raw DeliveryTicket :=
  perform (.signDelivery (worker.ticketPayload plan issuedAtMs))

def putResult (payload : DeliveryOutboxPayload) (value : ResultRecord) (atMs : ℕ) :
    DeliveryProgram Raw ObjectReference :=
  perform (.putBytes (worker.documents.resultBytes value) payload.scope atMs)

/-- Settle an intent whose generation was cancelled. -/
def abandonCancelledOutbox (record : OutboxRow) (reason : String) (nowMs : ℕ) :
    DeliveryProgram Raw Unit := do
  let raw : Raw ← perform (.readBytes record.intent.payloadObjectId)
  let found ← ofExcept (worker.documents.loadPlanScope raw)
  let scope ← ofExcept (required found (.outbox "delivery_outbox.payload.unreadable"))
  let result := worker.documents.resultBytes
    (.cancelled record.outboxId (String.ofList (reason.toList.take 200)))
  let reference : ObjectReference ← perform (.putBytes result scope nowMs)
  let _ ← perform
    (.markExpiredOutboxAmbiguous record.outboxId nowMs reference.objectId reference.sha256)
  pure ()

def recordErrorResult (record : OutboxRow) (payload : DeliveryOutboxPayload) (code : String)
    (ambiguous : Bool) (observedAtMs : ℕ) (orphaned : Bool) : DeliveryProgram Raw Unit := do
  let reference ← worker.putResult payload (.error record.outboxId code ambiguous) observedAtMs
  if orphaned then do
    let _ ← perform (.markExpiredOutboxAmbiguous record.outboxId observedAtMs reference.objectId
      reference.sha256)
    pure ()
  else do
    let _ ← perform (.recordOutboxDispatchResult record.outboxId worker.workerId
      (if ambiguous then .ambiguous else .acked) reference.objectId reference.sha256 observedAtMs)
    pure ()

/-- What a finalization knows of the delivery it finalizes. -/
structure Finalization where
  outboxId : String
  payload : DeliveryOutboxPayload
  completedAtMs : ℕ
  resultSha256 : Canon

namespace Finalization

variable (f : Finalization)

def entity : String := deliveryEntity f.payload.plan.runId

def factId : Canon := deliveryFactId f.resultSha256

def advanceDelivery (toState : StateValue) (evidenceSha256 : Canon) : DeliveryProgram Raw Unit := do
  let _ ← perform <| .advance
    ⟨.delivery, f.entity, toState, f.completedAtMs, some f.factId, some evidenceSha256⟩
  pure ()

/-- A delivery that is not ambiguous yet becomes it. -/
def reachAmbiguous (state : StateValue) (evidenceSha256 : Canon) : DeliveryProgram Raw Unit :=
  if state = .ambiguous ∨ state = .reconcileRequired then pure ()
  else f.advanceDelivery .ambiguous evidenceSha256

def advanceAmbiguity (evidenceSha256 : Canon) : DeliveryProgram Raw Unit := do
  let found : Option StateValue ← perform (.getSnapshot .delivery f.entity)
  let state ← ofExcept (required found (.outbox "delivery_outbox.delivery_state.missing"))
  f.reachAmbiguous state evidenceSha256
  f.advanceDelivery .reconcileRequired evidenceSha256

/-- The delivery is ambiguous, or it reaches the given state. -/
def advanceTo (ambiguous : Bool) (toState : StateValue) (evidenceSha256 : Canon) :
    DeliveryProgram Raw Unit :=
  if ambiguous then f.advanceAmbiguity evidenceSha256
  else f.advanceDelivery toState evidenceSha256

/-- Several text parts are refused; the order of this check and of the continuity context is the
caller's. -/
def checkTextParts : DeliveryProgram Raw Unit :=
  refuseIf (1 < f.payload.plan.texts.length) (.outbox "delivery_outbox.text_parts.invalid")

/-- The decision leaves the request open: checkpoint it and finalize the boundary. -/
def finishOpen (decision : CompletionDecision) (userGoal : String) : DeliveryProgram Raw Unit := do
  perform (.recordCompletionDecision decision f.completedAtMs)
  let capsule : Canon ←
    perform (.persistWorkingCheckpoint f.payload userGoal f.factId f.completedAtMs)
  let _ ← perform <| .markOutboxFinalized f.outboxId
    ⟨f.completedAtMs, .sha256 <| .ofList
      [decision.decisionSha256, capsule, .text f.outboxId, f.resultSha256]⟩ false
  pure ()

/-- The request ends: persist its completion, advance it and release its generation. -/
def finishTerminal (decision : CompletionDecision) (lifeId userGoal finalResult : String)
    (toState : StateValue) (factId evidenceSha256 : Canon) (digest : String → Canon) :
    DeliveryProgram Raw Unit := do
  let requestId := f.payload.plan.requestId
  perform
    (.persistTerminalCompletion decision lifeId userGoal finalResult f.factId f.completedAtMs)
  let lastEventId : String ← perform <| .advance
    ⟨.request, requestId, toState, f.completedAtMs, some factId, some evidenceSha256⟩
  perform (.completeSessionRequest f.payload.sessionScopeHash requestId f.completedAtMs)
  let _ ← perform <| .markOutboxFinalized f.outboxId
    ⟨f.completedAtMs, digest lastEventId⟩ true
  pure ()

/-- The dispatch raised. -/
def concludeError (result : ResultDocument) : DeliveryProgram Raw Unit := do
  f.advanceTo result.ambiguous .failedFinal f.resultSha256
  let (lifeId, userGoal) : String × String ←
    perform (.continuityContext f.payload f.completedAtMs)
  f.checkTextParts
  let decision : CompletionDecision ← perform <| .evaluateCompletion f.payload
    (.failure (if result.ambiguous then .ambiguous else .failedFinal)) f.completedAtMs
  if result.ambiguous then f.finishOpen decision userGoal
  else
    f.finishTerminal decision lifeId userGoal
      ("任务未完成：" ++ (result.code.filter (· ≠ "")).getD "delivery failed")
      .failed f.factId f.resultSha256 fun lastEventId =>
        .sha256 <| .ofList [.text f.outboxId, .text lastEventId, f.resultSha256]

def statusState : ReceiptStatus → StateValue
  | .channelAccepted => .channelAccepted
  | .delivered => .delivered
  | .failedRetryable => .failedRetryable
  | .failedFinal => .failedFinal
  | .ambiguous => .ambiguous
  | .reconcileRequired => .reconcileRequired

/-- The state of the request that a decision ends. -/
def outcomeState : CompletionOutcome → StateValue
  | .partialDelivery => .partialDone
  | .failed => .failed
  | _ => .completed

def finalText (decision : CompletionDecision) : String :=
  f.payload.plan.texts.headD <|
    "交付结果：" ++ (match decision.outcome with
      | .completed => "completed"
      | .partialDelivery => "partial"
      | .failed => "failed"
      | .inProgress => "in_progress"
      | .reconcileRequired => "reconcile_required") ++
    "，已验证 " ++ toString f.payload.plan.artifacts.length ++ " 个文件。"

/-- The dispatch answered with a receipt. -/
def concludeReceipt (receipt : DeliveryReceipt) : DeliveryProgram Raw Unit := do
  f.advanceTo receipt.status.isAmbiguous (statusState receipt.status) receipt.receiptSha256
  f.checkTextParts
  let (lifeId, userGoal) : String × String ←
    perform (.continuityContext f.payload f.completedAtMs)
  let decision : CompletionDecision ←
    perform (.evaluateCompletion f.payload (.receipt receipt) f.completedAtMs)
  if decision.outcome = .inProgress ∨ decision.outcome = .reconcileRequired then
    f.finishOpen decision userGoal
  else
    f.finishTerminal decision lifeId userGoal (f.finalText decision)
      (outcomeState decision.outcome) (.cons (.text "fact-completion-") decision.decisionSha256)
      decision.decisionSha256 fun lastEventId => .sha256 <| .ofList
        [decision.decisionSha256, .text f.outboxId, .text lastEventId, f.resultSha256]

def boundReceipt (result : ResultDocument) : Except DeliveryError DeliveryReceipt := do
  let plan := f.payload.plan
  rejectIf (result.kind ≠ some "receipt" ∨ result.outboxId ≠ some f.outboxId)
    (.outbox "delivery_outbox.result.kind_invalid")
  let receipt ← required result.receipt (.outbox "delivery_outbox.receipt.invalid")
  rejectIf (receipt.hasValidReceiptSha256 = false ∨ receipt.deliveryId ≠ plan.deliveryId ∨
      receipt.effectId ≠ plan.effectId ∨ receipt.requestId ≠ plan.requestId ∨
      receipt.runId ≠ plan.runId ∨ receipt.generation ≠ plan.generation)
    (.outbox "delivery_outbox.receipt.binding_mismatch")
  pure receipt

end Finalization

def finalize (boundary : OutboxDispatchBoundary) (nowMs : ℕ) : DeliveryProgram Raw Unit := do
  let found : Option OutboxRow ← perform (.getOutbox boundary.outboxId)
  let record ← ofExcept (required found (.outbox "delivery_outbox.result.missing"))
  let recorded ← ofExcept (required boundary.result (.outbox "delivery_outbox.result.missing"))
  let payload ← worker.loadPayload record
  let raw : Raw ← perform (.readBytes recorded.resultObjectId)
  refuseIf (worker.documents.sha256 raw ≠ recorded.resultSha256)
    (.outbox "delivery_outbox.result.bytes_invalid")
  let result ← ofExcept <| required (worker.documents.loadResult raw)
    (.outbox "delivery_outbox.result.invalid")
  refuseIf (worker.documents.canonicalResult raw = false)
    (.outbox "delivery_outbox.result.noncanonical")
  let f : Finalization := ⟨boundary.outboxId, payload, max nowMs recorded.completedAtMs,
    recorded.resultSha256⟩
  if result.kind = some "error" then f.concludeError result
  else do
    let receipt ← ofExcept (f.boundReceipt result)
    f.concludeReceipt receipt

/-- The dispatch after the boundary: a receipt or a communication error is recorded. -/
def send (claimed : OutboxRow) (payload : DeliveryOutboxPayload) (ticket : DeliveryTicket)
    (nowMs : ℕ) : DeliveryProgram Raw Unit :=
  Program.catching
    (do
      let receipt : DeliveryReceipt ←
        perform (.dispatchDelivery claimed.outboxId ticket payload.plan)
      let observedAtMs := max nowMs receipt.observedAtMs
      let reference ← worker.putResult payload (.receipt claimed.outboxId receipt) observedAtMs
      let _ ← perform (.recordOutboxDispatchResult claimed.outboxId worker.workerId
        (if receipt.status.isAmbiguous then .ambiguous else .acked) reference.objectId
        reference.sha256 observedAtMs)
      pure ())
    fun
      | .communication code ambiguous => do
        let observedAtMs : ℕ ← perform .timeMs
        worker.recordErrorResult claimed payload code ambiguous observedAtMs false
      | e => .fail e

def finalizeRecorded (outboxId : String) (nowMs : ℕ) : DeliveryProgram Raw Bool := do
  let found : Option OutboxDispatchBoundary ← perform (.getOutboxDispatchBoundary outboxId)
  let completed ← ofExcept (required found .assertion)
  let completedAtMs := (completed.result.map BoundaryResult.completedAtMs).getD nowMs
  worker.finalize completed (max nowMs completedAtMs)
  pure true

/-- Issue the ticket of a claimed intent, cross its boundary and send. -/
def dispatchClaimed (claimed : OutboxRow) (payload : DeliveryOutboxPayload) (nowMs : ℕ) :
    DeliveryProgram Raw Bool := do
  let ticket ← worker.issueTicket payload.plan nowMs
  let reference : ObjectReference ←
    perform (.putBytes (worker.documents.ticketBytes ticket) payload.scope nowMs)
  perform (.installDeliveryAuthority worker.gatewayEpoch nowMs)
  let entity := deliveryEntity payload.plan.runId
  let _ ← perform <| .advance
    { machine := .delivery, entityId := entity, toState := .ticketIssued, nowMs }
  let _ ← perform <| .advance
    { machine := .delivery, entityId := entity, toState := .sending, nowMs }
  let _ ← perform (.markOutboxDispatchStarted claimed.outboxId worker.workerId worker.gatewayEpoch
    reference.objectId reference.sha256 nowMs)
  worker.send claimed payload ticket nowMs
  worker.finalizeRecorded claimed.outboxId nowMs

/-- The payload of a claimed intent, or none when the intent was abandoned. -/
def loadClaimed (claimed : OutboxRow) (nowMs : ℕ) :
    DeliveryProgram Raw (Option DeliveryOutboxPayload) :=
  Program.catching
    (do
      let payload ← worker.loadPayload claimed
      pure (some payload))
    fun
      | .outbox code => do
        let generation : Option GenerationLease ← perform (.getGeneration claimed.intent.requestId)
        refuseIf (generation.any fun g => g.status = .active) (.outbox code)
        worker.abandonCancelledOutbox claimed code nowMs
        pure none
      | e => .fail e

/-- A dispatch that was started and never recorded is settled as ambiguous. -/
def recoverOrphan (candidate : OutboxRow) (boundary : OutboxDispatchBoundary) (nowMs : ℕ) :
    DeliveryProgram Raw Bool := do
  let payload ← worker.loadPayload candidate
  let observedAtMs := max nowMs boundary.startedAtMs
  worker.recordErrorResult candidate payload "delivery_outbox.receipt_missing_after_restart" true
    observedAtMs true
  let found : Option OutboxDispatchBoundary ←
    perform (.getOutboxDispatchBoundary candidate.outboxId)
  let recovered ← ofExcept (required found .assertion)
  worker.finalize recovered observedAtMs
  pure true

def claimAndDispatch (candidate : OutboxRow) (nowMs : ℕ) : DeliveryProgram Raw Bool := do
  let claimed : OutboxRow ←
    perform (.claimOutbox candidate.outboxId worker.workerId nowMs 120000)
  let loaded ← worker.loadClaimed claimed nowMs
  match loaded with
  | none => pure true
  | some payload => worker.dispatchClaimed claimed payload nowMs

def dispatchCandidate (candidate : OutboxRow) (nowMs : ℕ) : DeliveryProgram Raw Bool := do
  let boundary : Option OutboxDispatchBoundary ←
    perform (.getOutboxDispatchBoundary candidate.outboxId)
  match candidate.state, boundary with
  | .claimed, some crossed => worker.recoverOrphan candidate crossed nowMs
  | _, _ => worker.claimAndDispatch candidate nowMs

def dispatchNext (nowMs : ℕ) : DeliveryProgram Raw Bool := do
  let pending : List OutboxDispatchBoundary ← perform (.listUnfinalizedOutboxResults 1)
  match pending with
  | boundary :: _ => do
    worker.finalize boundary nowMs
    pure true
  | [] => do
    let candidates : List OutboxRow ← perform (.listDispatchableOutbox nowMs 1)
    match candidates with
    | [] => pure false
    | candidate :: _ => worker.dispatchCandidate candidate nowMs

end GatewayDeliveryOutboxWorker

/-- What the delivery tables do not answer: objects, tickets, transports, clocks, other tables. -/
abbrev DeliveryOutside (Raw Ω : Type) :=
  (a : DeliveryAction Raw) → Call DeliveryError Ω a.Answer

namespace DeliveryStore

def transact {α : Type} (f : DeliveryStore → Except StoreError (α × DeliveryStore)) :
    Call DeliveryError DeliveryStore α :=
  Call.transaction fun s => (f s).mapError .store

def ask {α : Type} (f : DeliveryStore → Except StoreError α) : Call DeliveryError DeliveryStore α :=
  Call.query fun s => (f s).mapError .store

/-- How the delivery tables answer an action; the rest is answered by `outside`. -/
def answer {Raw : Type} (outside : (a : DeliveryAction Raw) → Except DeliveryError a.Answer) :
    (a : DeliveryAction Raw) → Call DeliveryError DeliveryStore a.Answer
  | .listUnfinalizedOutboxResults limit => ask fun s => s.listUnfinalizedOutboxResults limit
  | .listDispatchableOutbox nowMs limit => ask fun s => s.listDispatchableOutbox nowMs limit
  | .getOutbox outboxId => Call.read fun s => s.getOutbox outboxId
  | .getOutboxDispatchBoundary outboxId =>
    Call.read fun s => s.getOutboxDispatchBoundary outboxId
  | .getRequestEntry requestId => Call.read fun s => s.requests.find requestId
  | .getEffect effectId => Call.read fun s => s.effects.find effectId
  | .getGeneration requestId => Call.read fun s => s.generations.find requestId
  | .claimOutbox outboxId workerId nowMs leaseMs =>
    transact fun s => s.claimOutbox outboxId workerId nowMs leaseMs
  | .markOutboxDispatchStarted outboxId workerId gatewayEpoch ticketObjectId ticketSha256
      startedAtMs =>
    transact fun s => s.markOutboxDispatchStarted outboxId workerId gatewayEpoch ticketObjectId
      ticketSha256 startedAtMs
  | .markExpiredOutboxAmbiguous outboxId observedAtMs resultObjectId resultSha256 =>
    transact fun s =>
      s.markExpiredOutboxAmbiguous outboxId observedAtMs resultObjectId resultSha256
  | .recordOutboxDispatchResult outboxId workerId outcome resultObjectId resultSha256
      completedAtMs =>
    transact fun s => s.recordOutboxDispatchResult outboxId workerId outcome resultObjectId
      resultSha256 completedAtMs
  | .markOutboxFinalized outboxId finalization releaseGeneration =>
    transact fun s => s.markOutboxFinalized outboxId finalization releaseGeneration
  | a => Call.query fun _ => outside a

end DeliveryStore

end Tiangong
