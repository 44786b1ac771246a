import Tiangong.CrashedPrograms
import Tiangong.FeishuMessages
import Tiangong.Inbox

/-!
# Inbound events of Feishu

The processor admits an event: it keeps the route and the resources, loads the attachments and
commits the envelope to the inbox. The worker forwards what is admitted and acknowledges it. Every
call of a store, the loader and the gateway is an action, so that a crash can fall between any two.
-/
namespace Tiangong.Communication

structure FeishuStores where
  inbox : Inbox
  routes : FeishuRoutes

/-- The arguments of the attachment loader. -/
structure AttachmentRequest where
  resourceId : Canon
  tenantId : OpaqueId
  linkAccountId : OpaqueId
  conversationScopeHash : Canon
  deriving DecidableEq

/-- What the processor has settled about an event before it commits it. -/
structure FeishuAdmission where
  eventId : PyStr
  envelope : InboundEnvelope
  classification : FeishuClassification
  routeKey : Option Canon
  resourceIds : List Canon

inductive FeishuAction where
  | getIngress (ingressId : Canon)
  | replay (ingress : InboxIngress) (persistedAtMs : ℕ)
  | upsert (u : FeishuRoutes.Upsert)
  | registerResource (r : FeishuRoutes.Registration)
  | loadAttachment (request : AttachmentRequest)
  /-- The block under the processor's lock that builds the ingress and persists it. -/
  | commit (admission : FeishuAdmission) (record : FeishuEventRecord)
  | forward (envelope : InboundEnvelope) (permit : ChannelAckPermit) (nowMs : ℕ)
  | ackPermitReceipt (permitId : Canon)
  | markAcknowledged (permitId receipt : Canon) (acknowledgedAtMs : ℕ)
  | listUnacknowledged (tenantId linkAccountId : OpaqueId)

abbrev FeishuAction.Answer : FeishuAction → Type
  | .getIngress _ => Option InboxIngress
  | .replay _ _ => InboxPersistResult
  | .upsert _ => Canon
  | .registerResource _ => Canon
  | .loadAttachment _ => AttachmentRef
  | .commit _ _ => InboxPersistResult
  | .forward _ _ _ => Canon
  | .ackPermitReceipt _ => Option Canon
  | .markAcknowledged _ _ _ => Bool
  | .listUnacknowledged _ _ => List PendingInboxDelivery

abbrev FeishuProgram := Program FeishuAction FeishuAction.Answer ChannelError

/-- An action and what it answered or raised. -/
abbrev FeishuPerformed := Program.Performed FeishuAction FeishuAction.Answer ChannelError

open Program (perform ofExcept refuseIf each)

def withheldPrefix : PyStr := py "[communication event withheld:"

/-- `text.startswith("[communication event withheld:")`. -/
def isWithheld (text : PyStr) : Bool := withheldPrefix.isPrefixOf text

/-- The ingress of an admission. The stream's cursor is its predecessor, and the event identifier
the next one; an ingress that is already there keeps its own. -/
def buildIngress (admission : FeishuAdmission) (record : FeishuEventRecord) (s : Inbox) :
    Except ChannelError InboxIngress :=
  let scope := admission.envelope.scope
  let (previous, nextToken) := match s.getIngress admission.envelope.inboundId with
    | none =>
      ((s.getCursor (cursorStreamKey .feishu scope.tenantId scope.linkAccountId)).map
        (·.cursorSha256), CursorToken.platform admission.eventId)
    | some existing => (existing.1.previousCursorSha256, existing.1.nextCursorToken)
  sealed IngressFields.valid ⟨.validation, "InboxIngress"⟩
    ⟨admission.envelope, record.rawPayloadObjectId, record.rawPayloadSha256,
      record.rawPayloadSizeBytes, previous, nextToken, record.capturedAtMs⟩

def commitAdmission (admission : FeishuAdmission) (record : FeishuEventRecord) (s : Inbox) :
    Except ChannelError (InboxPersistResult × Inbox) := do
  let ingress ← buildIngress admission record s
  s.persistAndAdvanceCursor ingress record.persistedAtMs

/-- What lies outside the stores: the attachments that are loaded, and what the gateway answers. -/
structure FeishuOutside where
  load : AttachmentRequest → Except ChannelError AttachmentRef
  accept : InboundEnvelope → ChannelAckPermit → ℕ → Except ChannelError Canon

def onInbox {α : Type} (f : Inbox → Except ChannelError (α × Inbox)) :
    Call ChannelError FeishuStores α :=
  Call.transaction fun s => (f s.inbox).map fun (a, inbox) => (a, { s with inbox })

def onRoutes {α : Type} (f : FeishuRoutes → Except ChannelError (α × FeishuRoutes)) :
    Call ChannelError FeishuStores α :=
  Call.transaction fun s => (f s.routes).map fun (a, routes) => (a, { s with routes })

section Parts

variable {α : Type} {s : FeishuStores} {a : α} {e : ChannelError}

theorem onInbox_of_ok {f : Inbox → Except ChannelError (α × Inbox)} {inbox : Inbox}
    (h : f s.inbox = .ok (a, inbox)) : (onInbox f).on s = (.ok a, { s with inbox }) := by
  apply Call.on_transaction_of_ok
  rw [h]
  rfl

theorem onInbox_of_error {f : Inbox → Except ChannelError (α × Inbox)}
    (h : f s.inbox = .error e) : (onInbox f).on s = (.error e, s) := by
  apply Call.on_transaction_of_error
  rw [h]
  rfl

theorem onRoutes_of_ok {f : FeishuRoutes → Except ChannelError (α × FeishuRoutes)}
    {routes : FeishuRoutes} (h : f s.routes = .ok (a, routes)) :
    (onRoutes f).on s = (.ok a, { s with routes }) := by
  apply Call.on_transaction_of_ok
  rw [h]
  rfl

theorem onRoutes_of_error {f : FeishuRoutes → Except ChannelError (α × FeishuRoutes)}
    (h : f s.routes = .error e) : (onRoutes f).on s = (.error e, s) := by
  apply Call.on_transaction_of_error
  rw [h]
  rfl

end Parts

def FeishuOutside.answer (outside : FeishuOutside) :
    (a : FeishuAction) → Call ChannelError FeishuStores a.Answer
  | .getIngress ingressId => Call.read fun s => s.inbox.getIngress ingressId
  | .replay ingress persistedAtMs =>
    onInbox fun s => s.persistAndAdvanceCursor ingress persistedAtMs
  | .upsert u => onRoutes fun s => s.upsert u
  | .registerResource r => onRoutes fun s => s.registerResource r
  | .loadAttachment request => Call.query fun _ => outside.load request
  | .commit admission record => onInbox fun s => commitAdmission admission record s
  | .forward envelope permit nowMs => Call.query fun _ => outside.accept envelope permit nowMs
  | .ackPermitReceipt permitId => Call.query fun s => s.inbox.ackPermitReceipt permitId
  | .markAcknowledged permitId receipt acknowledgedAtMs =>
    onInbox fun s => s.markAcknowledged permitId receipt acknowledgedAtMs
  | .listUnacknowledged tenantId linkAccountId =>
    Call.read fun s => s.inbox.listUnacknowledged .feishu tenantId linkAccountId

structure FeishuInboundProcessor where
  interpreter : Interpreter
  /-- Whether the processor was given an attachment loader. -/
  hasLoader : Bool

structure FeishuInboundOutcome where
  envelope : InboundEnvelope
  ackPermit : ChannelAckPermit
  /-- None is the classification `DUPLICATE_WITHHELD`. -/
  classification : Option FeishuClassification
  shouldForward : Bool
  routeKey : Option Canon
  resourceIds : List Canon
  duplicate : Bool

def checkPayload (rawEvent : JsonFields) (record : FeishuEventRecord) :
    Except ChannelError Unit := do
  rejectIf (record.signatureVerified = false ∨ record.appIdVerified = false)
    (inboundError "Feishu event transport verification is missing")
  rejectIf (record.persistedAtMs < record.capturedAtMs)
    (inboundError "Feishu persistence time predates capture")
  let payload ← required (PlatformJson.object rawEvent).canonicalText
    (inboundError "Feishu raw event is not canonical JSON data")
  rejectIf (payload.utf8Length ≠ record.rawPayloadSizeBytes ∨
      textSha256 payload ≠ record.rawPayloadSha256)
    (inboundError "Feishu raw event does not match persisted payload")

/-- The scope of a message. A thread, or else a root message, is a conversation of its own. -/
def messageScope (message : FeishuMessage) (policy : FeishuInboundPolicy) :
    Except ChannelError InboundScope := do
  let tenantId ← required (OpaqueId.ofText policy.tenantId) ⟨.validation, "InboundScope"⟩
  let linkAccountId ← required (OpaqueId.ofText policy.linkAccountId)
    ⟨.validation, "InboundScope"⟩
  pure
    { channel := .feishu
      tenantId
      linkAccountId
      conversationRef := opaqueRef "fsconv_" <|
        (message.threadId.orElse fun _ => message.rootId).getD message.chatId
      channelMessageRef := opaqueRef "fsmsg_" message.messageId
      senderRef := opaqueRef "fsuser_" message.senderIdentity }

def inboundId (scope : InboundScope) : Canon :=
  .cons (.text "fsin_") scope.idempotencyKey

def scopeRouteKey (scope : InboundScope) : Canon :=
  feishuRouteKey scope.tenantId scope.linkAccountId scope.conversationScopeHash

/-- What `process` reads before it looks at a store. -/
def readEvent (processor : FeishuInboundProcessor) (rawEvent : JsonFields)
    (policy : FeishuInboundPolicy) (record : FeishuEventRecord) :
    Except ChannelError (FeishuMessage × InboundScope) := do
  checkPayload rawEvent record
  let message ← readMessage processor.interpreter rawEvent policy
  let scope ← messageScope message policy
  pure (message, scope)

/-- A redelivery of an ingress that is persisted: whether it is forwarded is read off its text. -/
def redelivered (record : FeishuEventRecord) (scope : InboundScope) (existing : InboxIngress) :
    FeishuProgram FeishuInboundOutcome := do
  refuseIf (existing.1.rawPayloadSha256 ≠ record.rawPayloadSha256 ∨
      existing.1.rawPayloadSizeBytes ≠ record.rawPayloadSizeBytes)
    (inboundError "Feishu duplicate event changed its raw payload")
  let persisted : InboxPersistResult ← perform (FeishuAction.replay existing record.persistedAtMs)
  let forwarded := !isWithheld existing.envelope.text
  pure
    { envelope := existing.envelope
      ackPermit := persisted.permit
      classification := if forwarded then some .accepted else none
      shouldForward := forwarded
      routeKey := some (scopeRouteKey scope)
      resourceIds := []
      duplicate := true }

def routeUpsert (message : FeishuMessage) (scope : InboundScope) (capturedAtMs : ℕ) :
    FeishuRoutes.Upsert where
  tenantId := scope.tenantId
  linkAccountId := scope.linkAccountId
  conversationScopeHash := scope.conversationScopeHash
  route := ⟨message.chatId, message.messageId, message.rootId, message.parentId, message.threadId,
    orNone message.senderOpenId⟩
  observedAtMs := capturedAtMs

def registration (message : FeishuMessage) (scope : InboundScope) (capturedAtMs : ℕ)
    (resource : FeishuEventResource) : FeishuRoutes.Registration where
  tenantId := scope.tenantId
  linkAccountId := scope.linkAccountId
  conversationScopeHash := scope.conversationScopeHash
  sourceMessageRef := scope.channelMessageRef
  messageId := message.messageId
  resourceType := resource.resourceType
  resourceKey := resource.resourceKey
  filename := resource.filename
  createdAtMs := capturedAtMs

def keepRoute (message : FeishuMessage) (scope : InboundScope) (capturedAtMs : ℕ) :
    FeishuProgram (Canon × List Canon) := do
  let routeKey ← perform (FeishuAction.upsert (routeUpsert message scope capturedAtMs))
  let resourceIds ← each (fun resource =>
    perform (FeishuAction.registerResource (registration message scope capturedAtMs resource)))
    message.resources
  pure (routeKey, resourceIds)

def attachmentRequest (scope : InboundScope) (resourceId : Canon) : AttachmentRequest :=
  ⟨resourceId, scope.tenantId, scope.linkAccountId, scope.conversationScopeHash⟩

def loadAttachments (scope : InboundScope) (resourceIds : List Canon) :
    FeishuProgram (FeishuClassification × List AttachmentRef) :=
  (do
    let attachments ← each (fun resourceId =>
      perform (FeishuAction.loadAttachment (attachmentRequest scope resourceId))) resourceIds
    pure (FeishuClassification.accepted, attachments)).catching fun _ =>
  pure (.attachmentRejected, [])

def metadataHash (message : FeishuMessage) (policy : FeishuInboundPolicy)
    (classification : FeishuClassification) : Canon :=
  .sha256 <| .ofList [textSha256 message.eventId, .str message.messageType,
    .text (match message.chatType with | .p2p => "p2p" | .group => "group"),
    textSha256 message.chatId, .option textSha256 message.rootId,
    .option textSha256 message.parentId, .option textSha256 message.threadId,
    .flag (message.mentionedBot policy), .text classification.text]

/-- The text of an envelope: the sender's, or else what stands for the attachments or for the
reason why the event is withheld. -/
def envelopeText (text : PyStr) (classification : FeishuClassification)
    (attachments : List AttachmentRef) : PyStr :=
  if text ≠ [] then text
  else if attachments ≠ [] then py "[收到飞书附件]"
  else withheldPrefix ++ (py classification.text).casefold ++ py "]"

def buildEnvelope (message : FeishuMessage) (policy : FeishuInboundPolicy) (scope : InboundScope)
    (capturedAtMs : ℕ) (classification : FeishuClassification)
    (attachments : List AttachmentRef) : Except ChannelError InboundEnvelope :=
  sealed EnvelopeFields.valid ⟨.validation, "InboundEnvelope"⟩
    { inboundId := inboundId scope
      scope
      receivedAtMs := capturedAtMs
      channelMetadataHash := metadataHash message policy classification
      text := envelopeText message.text classification attachments
      attachments
      replyToMessageRef := message.parentId.map (opaqueRef "fsmsg_")
      rootMessageRef := message.rootId.map (opaqueRef "fsmsg_")
      sequence := none }

/-- The classification after the attachments, when there is something to load and a loader. -/
def settleAttachments (processor : FeishuInboundProcessor) (message : FeishuMessage)
    (policy : FeishuInboundPolicy) (scope : InboundScope) (resourceIds : List Canon) :
    FeishuProgram (FeishuClassification × List AttachmentRef) :=
  if message.resources ≠ [] ∧ processor.hasLoader = true then loadAttachments scope resourceIds
  else pure (message.classify policy, [])

/-- What is settled about a message whose route is kept. -/
def admitKept (processor : FeishuInboundProcessor) (message : FeishuMessage)
    (policy : FeishuInboundPolicy) (scope : InboundScope) (capturedAtMs : ℕ) :
    FeishuProgram FeishuAdmission := do
  let (routeKey, resourceIds) ← keepRoute message scope capturedAtMs
  let (classification, attachments) ←
    settleAttachments processor message policy scope resourceIds
  let envelope ← ofExcept <|
    buildEnvelope message policy scope capturedAtMs classification attachments
  pure ⟨message.eventId, envelope, classification, some routeKey, resourceIds⟩

/-- What is settled about a message that is not persisted yet. -/
def admitOne (processor : FeishuInboundProcessor) (message : FeishuMessage)
    (policy : FeishuInboundPolicy) (scope : InboundScope) (capturedAtMs : ℕ) :
    FeishuProgram FeishuAdmission :=
  if (message.classify policy).keepsRoute then
    admitKept processor message policy scope capturedAtMs
  else do
    let envelope ← ofExcept <|
      buildEnvelope message policy scope capturedAtMs (message.classify policy) []
    pure ⟨message.eventId, envelope, message.classify policy, none, []⟩

/-- Admit a message that is not persisted yet, and commit it. -/
def admitted (processor : FeishuInboundProcessor) (message : FeishuMessage)
    (policy : FeishuInboundPolicy) (record : FeishuEventRecord) (scope : InboundScope) :
    FeishuProgram FeishuInboundOutcome := do
  let admission ← admitOne processor message policy scope record.capturedAtMs
  let persisted : InboxPersistResult ← perform (FeishuAction.commit admission record)
  pure
    { envelope := admission.envelope
      ackPermit := persisted.permit
      classification := some admission.classification
      shouldForward := admission.classification = .accepted
      routeKey := admission.routeKey
      resourceIds := admission.resourceIds
      duplicate := persisted.duplicate }

def FeishuInboundProcessor.process (processor : FeishuInboundProcessor) (rawEvent : JsonFields)
    (policy : FeishuInboundPolicy) (record : FeishuEventRecord) :
    FeishuProgram FeishuInboundOutcome := do
  let (message, scope) ← ofExcept (readEvent processor rawEvent policy record)
  let existing : Option InboxIngress ← perform (FeishuAction.getIngress (inboundId scope))
  match existing with
  | some ingress => redelivered record scope ingress
  | none => admitted processor message policy record scope

end Tiangong.Communication
