import Tiangong.CompositionContracts
import Tiangong.PlatformJson

/-!
# Contracts of channel ingress

What the communication service keeps of an inbound event: its scope and the keys derived from it,
the envelope that the gateway receives, the ingress record of the inbox and the permit to
acknowledge it. A validated record carries the proof of its check.
-/
namespace Tiangong.Communication

/-- The exception classes that the channel code raises. -/
inductive ChannelErrorKind where
  | inbound | value | type | unicodeEncode | recursion | attribute | validation | integrity
  | routeConflict | inboxConflict | cursorConflict | ackConflict | inboxCorruption
  | sessionConflict | worker | outside
  deriving DecidableEq, Repr

structure ChannelError where
  kind : ChannelErrorKind
  message : String
  deriving DecidableEq, Repr

inductive InboundChannel where
  | desktop | wechat | feishu | system | test
  deriving DecidableEq, Repr

def InboundChannel.canon : InboundChannel → Canon
  | .desktop => .text "desktop"
  | .wechat => .text "wechat"
  | .feishu => .text "feishu"
  | .system => .text "system"
  | .test => .text "test"

structure InboundScope where
  channel : InboundChannel
  tenantId : OpaqueId
  linkAccountId : OpaqueId
  conversationRef : Canon
  channelMessageRef : Canon
  senderRef : Canon
  deriving DecidableEq

@[simp] theorem InboundChannel.canon_inj {c c' : InboundChannel} : c.canon = c'.canon ↔ c = c' := by
  cases c <;> cases c' <;> decide

def textSha256 (s : PyStr) : Canon := .sha256 (.str s)

/-- `_opaque`: a reference that hides the platform's identifier. -/
def opaqueRef (tag : String) (value : PyStr) : Canon := .ident tag (.str value)

namespace InboundScope

def conversationScopeHash (s : InboundScope) : Canon :=
  .sha256 <| .ofList [.text "tiangong.scope.conversation.v1", s.channel.canon, .str s.tenantId.1,
    .str s.linkAccountId.1, s.conversationRef]

def principalScopeHash (s : InboundScope) : Canon :=
  .sha256 <| .ofList [.text "tiangong.scope.inbound-principal.v1", s.conversationScopeHash,
    s.senderRef]

def messageScopeHash (s : InboundScope) : Canon :=
  .sha256 <| .ofList [.text "tiangong.scope.inbound-message.v1", s.channel.canon,
    .str s.tenantId.1, .str s.linkAccountId.1, s.conversationRef, s.channelMessageRef]

def idempotencyKey (s : InboundScope) : Canon :=
  .sha256 <| .ofList [.text "tiangong.idempotency.inbound.v1", s.messageScopeHash]

/-- The scope's fields in the order of the envelope, the derived keys among them. -/
def canon (s : InboundScope) : Canon :=
  .ofList [s.channel.canon, .str s.tenantId.1, .str s.linkAccountId.1, s.conversationRef,
    s.conversationScopeHash, s.principalScopeHash, s.messageScopeHash, s.channelMessageRef,
    s.senderRef, s.idempotencyKey]

end InboundScope

/-- An accepted, content-addressed attachment. -/
structure AttachmentRef where
  objectId : Canon
  revision : ℕ
  sha256 : Canon
  sizeBytes : ℕ
  mime : PyStr
  filename : PyStr
  tenantId : OpaqueId
  linkAccountId : OpaqueId
  conversationScopeHash : Canon
  sourceMessageRef : Option Canon
  createdAtMs : ℕ
  deriving DecidableEq

def AttachmentRef.canon (a : AttachmentRef) : Canon :=
  .ofList [a.objectId, .num a.revision, a.sha256, .num a.sizeBytes, .str a.mime, .str a.filename,
    .str a.tenantId.1, .str a.linkAccountId.1, a.conversationScopeHash,
    .option id a.sourceMessageRef, .num a.createdAtMs]

/-- The fields of an inbound envelope. Its scope keys are those derived from its scope, as
`bind_inbound_scope` demands. -/
structure EnvelopeFields where
  inboundId : Canon
  scope : InboundScope
  receivedAtMs : ℕ
  channelMetadataHash : Canon
  text : PyStr
  attachments : List AttachmentRef
  replyToMessageRef : Option Canon
  rootMessageRef : Option Canon
  sequence : Option ℕ
  deriving DecidableEq

namespace EnvelopeFields

def canon (e : EnvelopeFields) : Canon :=
  .ofList [e.inboundId, e.scope.canon, .num e.receivedAtMs, e.channelMetadataHash, .str e.text,
    .ofList (e.attachments.map AttachmentRef.canon), .option id e.replyToMessageRef,
    .option id e.rootMessageRef, .option .num e.sequence]

def attachmentsValid (e : EnvelopeFields) : Bool :=
  e.attachments.length ≤ 20 && (e.attachments.all fun a => a.tenantId = e.scope.tenantId &&
      a.linkAccountId = e.scope.linkAccountId &&
      a.conversationScopeHash = e.scope.conversationScopeHash) &&
    decide (e.attachments.map fun a => (a.objectId, a.revision)).Nodup

/-- What the model validators of `InboundEnvelope` demand. -/
def valid (e : EnvelopeFields) : Bool :=
  decide e.text.Encodable && e.text.length ≤ 100000 && !e.text.contains 0 &&
    (!e.text.strip.isEmpty || !e.attachments.isEmpty) && e.attachmentsValid

end EnvelopeFields

abbrev InboundEnvelope := Sealed EnvelopeFields.valid

namespace InboundEnvelope

variable (e : InboundEnvelope)

abbrev inboundId : Canon := e.1.inboundId

abbrev scope : InboundScope := e.1.scope

abbrev text : PyStr := e.1.text

abbrev attachments : List AttachmentRef := e.1.attachments

end InboundEnvelope

/-- What `cursor_token` holds: a token of the platform, or the checkpoint of a WeChat batch, whose
digests have no text here. -/
inductive CursorToken where
  | platform (token : PyStr)
  | checkpoint (rawPayloadObjectId rawPayloadSha256 : Canon) (memberIndex memberCount : ℕ)
      (external : PyStr)
  deriving DecidableEq

namespace CursorToken

def canon : CursorToken → Canon
  | .platform token => .cons (.str token) .null
  | .checkpoint objectId sha256 index count external =>
    .ofList [objectId, sha256, .num index, .num count, .str external]

/-- The checkpoint's JSON without its values: five keys, the digest and an object identifier of
the raw store, and the prefix before it. -/
def checkpointFrame : ℕ :=
  (py "tg-local-wechat-batch-v1:\x7b\"external_cursor_token\":,\"member_count\":,\"member_index\":,").length +
    (py "\"raw_payload_object_id\":\"raw_\",\"raw_payload_sha256\":\"\"\x7d").length + 64 + 64

/-- The number of characters of a token. -/
def length : CursorToken → ℕ
  | .platform token => token.length
  | .checkpoint _ _ index count external =>
    checkpointFrame + (toString index).length + (toString count).length +
      (PlatformJson.jsonString external).length

/-- `cursor_token_sha256`. -/
def sha256 (token : CursorToken) : Canon :=
  .sha256 <| .ofList [.text "tiangong.communication.cursor-token.v1", token.canon]

end CursorToken

/-- `derive_cursor_stream_key`. -/
def cursorStreamKey (channel : InboundChannel) (tenantId linkAccountId : OpaqueId) : Canon :=
  .sha256 <| .ofList [.text "tiangong.communication.cursor-stream.v1", channel.canon,
    .str tenantId.1, .str linkAccountId.1]

/-- The fields of an ingress. Its identifier is the envelope's, its stream that of the envelope's
scope, and its next cursor digest that of its token. -/
structure IngressFields where
  envelope : InboundEnvelope
  rawPayloadObjectId : Canon
  rawPayloadSha256 : Canon
  rawPayloadSizeBytes : ℕ
  previousCursorSha256 : Option Canon
  nextCursorToken : CursorToken
  capturedAtMs : ℕ
  deriving DecidableEq

namespace IngressFields

/-- What `InboxIngress` demands beyond the fields that are derived. -/
def valid (i : IngressFields) : Bool :=
  (i.envelope.attachments.all fun a =>
      a.sourceMessageRef = none || a.sourceMessageRef = some i.envelope.scope.channelMessageRef) &&
    1 ≤ i.rawPayloadSizeBytes && i.rawPayloadSizeBytes ≤ 2147483648 &&
    i.nextCursorToken.length ≤ 4096

end IngressFields

abbrev InboxIngress := Sealed IngressFields.valid

namespace InboxIngress

variable (i : InboxIngress)

abbrev envelope : InboundEnvelope := i.1.envelope

abbrev ingressId : Canon := i.1.envelope.inboundId

abbrev scope : InboundScope := i.1.envelope.scope

def cursorStreamKey : Canon :=
  Communication.cursorStreamKey i.scope.channel i.scope.tenantId i.scope.linkAccountId

def nextCursorSha256 : Canon := i.1.nextCursorToken.sha256

def ingressSha256 : Canon :=
  .sha256 <| .ofList [i.envelope.1.canon, i.1.rawPayloadObjectId, i.1.rawPayloadSha256,
    .num i.1.rawPayloadSizeBytes, i.cursorStreamKey, .option id i.1.previousCursorSha256,
    i.1.nextCursorToken.canon, .num i.1.capturedAtMs]

end InboxIngress

/-- The proof that an inbound event was committed before it is acknowledged. -/
structure ChannelAckPermit where
  permitId : Canon
  ingressId : Canon
  idempotencyKey : Canon
  channel : InboundChannel
  tenantId : OpaqueId
  linkAccountId : OpaqueId
  channelMessageRef : Canon
  cursorStreamKey : Canon
  cursorRevision : ℕ
  nextCursorSha256 : Canon
  inboxRecordSha256 : Canon
  persistedAtMs : ℕ
  issuedAtMs : ℕ
  deriving DecidableEq

end Tiangong.Communication
