import Tiangong.FeishuInbound

/-!
# The worker of the Feishu connection

Events of the platform are processed, forwarded and acknowledged one after the other; when the
worker starts it forwards what is pending. A run is a sequence of deliveries and restarts, each of
which may be lost after any of its actions.
-/
namespace Tiangong.Communication

open FeishuAction

open Program (perform ofExcept refuseIf each)

/-- The header of an event names the application. -/
def appIdVerified (rawEvent : JsonFields) (policy : FeishuInboundPolicy) : Bool :=
  match PlatformJson.get rawEvent (py "header") with
  | .object header =>
    match PlatformJson.get header (py "app_id") with
    | .text appId => appId = policy.appId
    | _ => false
  | _ => false

/-- The record of an event whose canonical payload went to the raw store. -/
def eventRecord (rawEvent : JsonFields) (policy : FeishuInboundPolicy) (nowMs : ℕ) :
    Except ChannelError FeishuEventRecord := do
  let payload ← required (PlatformJson.object rawEvent).canonicalText
    ⟨.worker, "feishu.worker.event_json_invalid"⟩
  rejectIf (16777216 < payload.utf8Length) ⟨.value, "raw inbound payload size is invalid"⟩
  pure
    { rawPayloadObjectId := .ident "raw_" (.str payload)
      rawPayloadSha256 := textSha256 payload
      rawPayloadSizeBytes := payload.utf8Length
      signatureVerified := true
      appIdVerified := appIdVerified rawEvent policy
      capturedAtMs := nowMs
      persistedAtMs := nowMs }

/-- What the worker notes about an event that it does not forward. -/
def withheldEvidence (outcome : FeishuInboundOutcome) : Canon :=
  .ofList [.text ((outcome.classification.map (·.text)).getD "DUPLICATE_WITHHELD"), .flag false]

/-- The gateway's acceptance, or the reason why there is none. -/
def forwardOutcome (outcome : FeishuInboundOutcome) (nowMs : ℕ) : FeishuProgram Canon :=
  if outcome.shouldForward then
    perform (forward outcome.envelope outcome.ackPermit nowMs)
  else pure (withheldEvidence outcome)

/-- The receipt of an outcome; a duplicate keeps the one that is recorded. -/
def receiptOf (outcome : FeishuInboundOutcome) (evidence : Canon) : FeishuProgram Canon :=
  if outcome.duplicate then do
    let stored : Option Canon ←
      perform (ackPermitReceipt outcome.ackPermit.permitId)
    pure (stored.getD (.sha256 evidence))
  else pure (.sha256 evidence)

/-- The times at which the worker reads its clock. -/
structure DeliveryTimes where
  capturedAtMs : ℕ
  forwardedAtMs : ℕ
  acknowledgedAtMs : ℕ

def handleEvent (processor : FeishuInboundProcessor) (rawEvent : JsonFields)
    (policy : FeishuInboundPolicy) (times : DeliveryTimes) : FeishuProgram Unit := do
  let record ← ofExcept (eventRecord rawEvent policy times.capturedAtMs)
  let outcome ← processor.process rawEvent policy record
  let evidence ← forwardOutcome outcome times.forwardedAtMs
  let receipt ← receiptOf outcome evidence
  let _ ← perform (markAcknowledged outcome.ackPermit.permitId receipt
    times.acknowledgedAtMs)
  pure ()

def flushEvidence (pending : PendingInboxDelivery) (nowMs : ℕ) : FeishuProgram Canon :=
  if isWithheld pending.ingress.envelope.text then
    pure (.ofList [.flag false, .text "persisted_withheld"])
  else perform (forward pending.ingress.envelope pending.permit nowMs)

def flushOne (nowMs : ℕ) (pending : PendingInboxDelivery) : FeishuProgram Unit := do
  let evidence ← flushEvidence pending nowMs
  let _ ← perform (markAcknowledged pending.permit.permitId (.sha256 evidence) nowMs)
  pure ()

def flushPending (tenantId linkAccountId : OpaqueId) (nowMs : ℕ) : FeishuProgram Unit := do
  let pending : List PendingInboxDelivery ←
    perform (listUnacknowledged tenantId linkAccountId)
  let _ ← each (flushOne nowMs) pending
  pure ()

inductive FeishuJob where
  | deliver (processor : FeishuInboundProcessor) (rawEvent : JsonFields)
      (policy : FeishuInboundPolicy) (times : DeliveryTimes)
  | flush (tenantId linkAccountId : OpaqueId) (nowMs : ℕ)

def FeishuJob.program : FeishuJob → FeishuProgram Unit
  | .deliver processor rawEvent policy times => handleEvent processor rawEvent policy times
  | .flush tenantId linkAccountId nowMs => flushPending tenantId linkAccountId nowMs

/-- A job, what is outside the stores meanwhile, and after how many actions it is lost. -/
structure FeishuInput where
  job : FeishuJob
  outside : FeishuOutside
  actions : ℕ

/-- The stores, and all that was ever performed. -/
structure FeishuRun where
  stores : FeishuStores
  history : List FeishuPerformed

def feishuMachine : Machine FeishuRun FeishuInput Unit where
  step run input :=
    let lost := input.job.program.lostAfter input.outside.answer input.actions run.stores
    (⟨lost.2, run.history ++ lost.1⟩, ())

/-- Before the first event. -/
def FeishuRun.start : FeishuRun := ⟨⟨.empty, .empty⟩, []⟩

end Tiangong.Communication
