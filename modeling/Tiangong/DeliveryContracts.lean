import Tiangong.Canon
import Mathlib.Data.List.Nodup

/-!
# Delivery contracts

The immutable records of a delivery: artifact manifests, the outbound plan with its parts, the
ticket that grants them to the communication service, and the receipt that comes back. What a
model validator demands is a field of the record.
-/
namespace Tiangong

inductive QcStatus where
  | passed | failed
  deriving DecidableEq, Repr

def QcStatus.canon : QcStatus → Canon
  | .passed => .text "PASSED"
  | .failed => .text "FAILED"

structure QcEvidence where
  checkId : String
  checkVersion : String
  status : QcStatus
  checkedAtMs : ℕ
  evidenceSha256 : Canon
  toolFactId : String
  deriving DecidableEq, Repr

namespace QcEvidence

def before (e e' : QcEvidence) : Bool :=
  e.checkId < e'.checkId || (e.checkId = e'.checkId && e.checkVersion < e'.checkVersion)

def canon (e : QcEvidence) : Canon :=
  .ofList [.text e.checkId, .text e.checkVersion, e.status.canon, .num e.checkedAtMs,
    e.evidenceSha256, .text e.toolFactId]

end QcEvidence

inductive QcState where
  | pending | passed | failed
  deriving DecidableEq, Repr

namespace QcState

def canon : QcState → Canon
  | .pending => .text "PENDING"
  | .passed => .text "PASSED"
  | .failed => .text "FAILED"

/-- The evidence a manifest in this state may carry. -/
def admits : QcState → List QcEvidence → Bool
  | .pending, evidence => evidence.isEmpty
  | .passed, evidence => !evidence.isEmpty && evidence.all (·.status = .passed)
  | .failed, evidence => evidence.any (·.status = .failed)

end QcState

inductive ArtifactKind where
  | document | image | audio | video | archive | data | other
  deriving DecidableEq, Repr

def ArtifactKind.canon : ArtifactKind → Canon
  | .document => .text "document"
  | .image => .text "image"
  | .audio => .text "audio"
  | .video => .text "video"
  | .archive => .text "archive"
  | .data => .text "data"
  | .other => .text "other"

structure ArtifactManifest where
  artifactId : String
  artifactRevisionId : String
  revision : ℕ
  requestId : String
  runId : String
  generation : ℕ
  sourceEffectId : String
  producerFactId : String
  tenantId : String
  linkAccountId : String
  conversationScopeHash : Canon
  workspaceId : String
  contentObjectId : String
  sha256 : Canon
  sizeBytes : ℕ
  mime : String
  filename : String
  artifactKind : ArtifactKind
  formatId : String
  createdAtMs : ℕ
  qcState : QcState
  qcEvidence : List QcEvidence
  manifestSha256 : Canon
  evidence_sorted : qcEvidence.Pairwise fun e e' => e.before e' = true
  evidence_admitted : qcState.admits qcEvidence = true
  deriving DecidableEq

namespace ArtifactManifest

def computedManifestSha256 (m : ArtifactManifest) : Canon :=
  .sha256 <| .ofList
    [.text m.artifactId, .text m.artifactRevisionId, .num m.revision, .text m.requestId,
      .text m.runId, .num m.generation, .text m.sourceEffectId, .text m.producerFactId,
      .text m.tenantId, .text m.linkAccountId, m.conversationScopeHash, .text m.workspaceId,
      .text m.contentObjectId, m.sha256, .num m.sizeBytes, .text m.mime, .text m.filename,
      m.artifactKind.canon, .text m.formatId, .num m.createdAtMs, m.qcState.canon,
      .ofList (m.qcEvidence.map QcEvidence.canon)]

def hasValidManifestSha256 (m : ArtifactManifest) : Bool :=
  m.manifestSha256 = m.computedManifestSha256

def canon (m : ArtifactManifest) : Canon :=
  .cons m.computedManifestSha256 m.manifestSha256

end ArtifactManifest

/-- What an outbound part carries. The digest of a text part is that of its text. -/
inductive OutboundContent where
  | text (body : String)
  | artifact (manifest : ArtifactManifest)
  deriving DecidableEq

namespace OutboundContent

def wellFormed : OutboundContent → Bool
  | .text body => 1 ≤ body.length && body.length ≤ 100000 && !body.toList.contains (Char.ofNat 0)
  | .artifact m => m.qcState = .passed && m.hasValidManifestSha256

end OutboundContent

inductive PartKind where
  | text | artifact
  deriving DecidableEq, Repr

def PartKind.canon : PartKind → Canon
  | .text => .text "text"
  | .artifact => .text "artifact"

structure OutboundPart where
  partId : String
  index : ℕ
  content : OutboundContent
  well_formed : content.wellFormed = true
  deriving DecidableEq

namespace OutboundPart

def kind (p : OutboundPart) : PartKind :=
  match p.content with
  | .text _ => .text
  | .artifact _ => .artifact

def text (p : OutboundPart) : Option String :=
  match p.content with
  | .text body => some body
  | .artifact _ => none

def artifact (p : OutboundPart) : Option ArtifactManifest :=
  match p.content with
  | .text _ => none
  | .artifact manifest => some manifest

def canon (p : OutboundPart) : Canon :=
  .ofList [.text p.partId, .num p.index, p.kind.canon, .option .text p.text,
    .option ArtifactManifest.canon p.artifact]

end OutboundPart

inductive Channel where
  | desktop | wechat | feishu | test
  deriving DecidableEq, Repr

def Channel.canon : Channel → Canon
  | .desktop => .text "desktop"
  | .wechat => .text "wechat"
  | .feishu => .text "feishu"
  | .test => .text "test"

/-- The scope that a plan and the artifacts it sends share. -/
structure OutboundScope where
  requestId : String
  runId : String
  generation : ℕ
  tenantId : String
  linkAccountId : String
  conversationScopeHash : Canon
  deriving DecidableEq, Repr

def ArtifactManifest.scope (m : ArtifactManifest) : OutboundScope :=
  ⟨m.requestId, m.runId, m.generation, m.tenantId, m.linkAccountId, m.conversationScopeHash⟩

structure OutboundPlan where
  outboundPlanId : String
  deliveryId : String
  effectId : String
  requestId : String
  runId : String
  generation : ℕ
  channel : Channel
  tenantId : String
  linkAccountId : String
  conversationRef : String
  conversationScopeHash : Canon
  recipientScopeHash : Canon
  replyToMessageRef : Option String
  channelPolicyHash : Canon
  createdAtMs : ℕ
  parts : List OutboundPart
  planSha256 : Canon
  some_part : 1 ≤ parts.length ∧ parts.length ≤ 50
  indexes : parts.map OutboundPart.index = List.range parts.length
  partIds_nodup : (parts.map OutboundPart.partId).Nodup
  artifacts_in_scope : ∀ m ∈ parts.filterMap OutboundPart.artifact, m.scope =
    ⟨requestId, runId, generation, tenantId, linkAccountId, conversationScopeHash⟩
  artifacts_nodup : ((parts.filterMap OutboundPart.artifact).map fun m =>
    (m.artifactId, m.revision)).Nodup
  deriving DecidableEq

namespace OutboundPlan

def computedPlanSha256 (p : OutboundPlan) : Canon :=
  .sha256 <| .ofList
    [.text p.outboundPlanId, .text p.deliveryId, .text p.effectId, .text p.requestId,
      .text p.runId, .num p.generation, p.channel.canon, .text p.tenantId,
      .text p.linkAccountId, .text p.conversationRef, p.conversationScopeHash,
      p.recipientScopeHash, .option .text p.replyToMessageRef, p.channelPolicyHash,
      .num p.createdAtMs, .ofList (p.parts.map OutboundPart.canon)]

def hasValidPlanSha256 (p : OutboundPlan) : Bool :=
  p.planSha256 = p.computedPlanSha256

def canon (p : OutboundPlan) : Canon :=
  .cons p.computedPlanSha256 p.planSha256

def artifacts (p : OutboundPlan) : List ArtifactManifest :=
  p.parts.filterMap OutboundPart.artifact

def texts (p : OutboundPlan) : List String :=
  p.parts.filterMap OutboundPart.text

end OutboundPlan

/-- What a ticket grants of a part. -/
inductive GrantContent where
  | text (textSha256 : Canon) (textBytes : ℕ)
  | artifact (artifactId artifactRevisionId : String) (artifactRevision : ℕ)
      (artifactManifestSha256 : Canon) (contentObjectId : String) (contentSha256 : Canon)
      (sizeBytes : ℕ) (mime filename : String)
  deriving DecidableEq, Repr

structure DeliveryPartGrant where
  partId : String
  index : ℕ
  content : GrantContent
  deriving DecidableEq, Repr

def grantFromOutboundPart (part : OutboundPart) : DeliveryPartGrant where
  partId := part.partId
  index := part.index
  content := match part.content with
    | .text body => .text (.sha256 (.text body)) body.utf8ByteSize
    | .artifact m => .artifact m.artifactId m.artifactRevisionId m.revision m.manifestSha256
        m.contentObjectId m.sha256 m.sizeBytes m.mime m.filename

def DeliveryPartGrant.canon (g : DeliveryPartGrant) : Canon :=
  .ofList <| [.text g.partId, .num g.index] ++ match g.content with
    | .text textSha256 textBytes => [textSha256, .num textBytes]
    | .artifact artifactId revisionId revision manifestSha256 objectId sha256 size mime filename =>
      [.text artifactId, .text revisionId, .num revision, manifestSha256, .text objectId, sha256,
        .num size, .text mime, .text filename]

structure DeliveryTicketPayload where
  ticketId : Canon
  issuedAtMs : ℕ
  notBeforeMs : ℕ
  expiresAtMs : ℕ
  gatewayEpoch : ℕ
  requestId : String
  runId : String
  generation : ℕ
  deliveryId : String
  effectId : String
  channel : Channel
  tenantId : String
  linkAccountId : String
  conversationRef : String
  conversationScopeHash : Canon
  recipientScopeHash : Canon
  replyToMessageRef : Option String
  outboundPlanId : String
  outboundPlanSha256 : Canon
  channelPolicyHash : Canon
  componentManifestHash : Canon
  allowText : Bool
  allowFiles : Bool
  maxTextParts : ℕ
  maxFileParts : ℕ
  uploadTimeoutMs : ℕ
  sendTimeoutMs : ℕ
  parts : List DeliveryPartGrant
  deriving DecidableEq, Repr

def DeliveryTicketPayload.canon (t : DeliveryTicketPayload) : Canon :=
  .ofList
    [t.ticketId, .num t.issuedAtMs, .num t.notBeforeMs, .num t.expiresAtMs, .num t.gatewayEpoch,
      .text t.requestId, .text t.runId, .num t.generation, .text t.deliveryId, .text t.effectId,
      t.channel.canon, .text t.tenantId, .text t.linkAccountId, .text t.conversationRef,
      t.conversationScopeHash, t.recipientScopeHash, .option .text t.replyToMessageRef,
      .text t.outboundPlanId, t.outboundPlanSha256, t.channelPolicyHash, t.componentManifestHash,
      .flag t.allowText, .flag t.allowFiles, .num t.maxTextParts, .num t.maxFileParts,
      .num t.uploadTimeoutMs, .num t.sendTimeoutMs, .ofList (t.parts.map DeliveryPartGrant.canon)]

structure DeliveryTicket where
  kid : String
  payload : DeliveryTicketPayload
  signature : String
  deriving DecidableEq, Repr

inductive PartStage where
  | planned | fetched | uploaded | channelAccepted | delivered | failedRetryable | failedFinal
  | ambiguous
  deriving DecidableEq, Repr

namespace PartStage

def canon : PartStage → Canon
  | .planned => .text "PLANNED"
  | .fetched => .text "FETCHED"
  | .uploaded => .text "UPLOADED"
  | .channelAccepted => .text "CHANNEL_ACCEPTED"
  | .delivered => .text "DELIVERED"
  | .failedRetryable => .text "FAILED_RETRYABLE"
  | .failedFinal => .text "FAILED_FINAL"
  | .ambiguous => .text "AMBIGUOUS"

/-- The channel has the part. -/
def accepted (s : PartStage) : Bool := s = .channelAccepted || s = .delivered

def failed (s : PartStage) : Bool :=
  s = .failedRetryable || s = .failedFinal || s = .ambiguous

end PartStage

structure DeliveryPartReceipt where
  partId : String
  index : ℕ
  kind : PartKind
  artifactId : Option String
  artifactRevisionId : Option String
  stage : PartStage
  attempt : ℕ
  startedAtMs : ℕ
  finishedAtMs : ℕ
  channelMessageRef : Option String
  evidenceSha256 : Canon
  platformReceiptSha256 : Option Canon
  errorCode : Option String
  finished_after_start : startedAtMs ≤ finishedAtMs
  artifact_bound : artifactId.isSome = decide (kind = .artifact) ∧
    artifactRevisionId.isSome = decide (kind = .artifact)
  accepted_evidence : stage.accepted → channelMessageRef.isSome ∧ platformReceiptSha256.isSome
  error_iff : errorCode.isSome = stage.failed

def DeliveryPartReceipt.canon (p : DeliveryPartReceipt) : Canon :=
  .ofList
    [.text p.partId, .num p.index, p.kind.canon, .option .text p.artifactId,
      .option .text p.artifactRevisionId, p.stage.canon, .num p.attempt, .num p.startedAtMs,
      .num p.finishedAtMs, .option .text p.channelMessageRef, p.evidenceSha256,
      .option id p.platformReceiptSha256, .option .text p.errorCode]

inductive ReceiptStatus where
  | channelAccepted | delivered | failedRetryable | failedFinal | ambiguous | reconcileRequired
  deriving DecidableEq, Repr

namespace ReceiptStatus

def canon : ReceiptStatus → Canon
  | .channelAccepted => .text "CHANNEL_ACCEPTED"
  | .delivered => .text "DELIVERED"
  | .failedRetryable => .text "FAILED_RETRYABLE"
  | .failedFinal => .text "FAILED_FINAL"
  | .ambiguous => .text "AMBIGUOUS"
  | .reconcileRequired => .text "RECONCILE_REQUIRED"

def isAmbiguous (s : ReceiptStatus) : Bool := s = .ambiguous || s = .reconcileRequired

def succeeded (s : ReceiptStatus) : Bool := s = .channelAccepted || s = .delivered

/-- The stages an aggregate status may stand for. -/
def admits (s : ReceiptStatus) (stages : List PartStage) : Bool :=
  (s.isAmbiguous = stages.contains .ambiguous) && match s with
    | .delivered => stages.all (· = .delivered)
    | .channelAccepted => stages.all PartStage.accepted
    | .failedRetryable => stages.contains .failedRetryable
    | .failedFinal => stages.contains .failedFinal
    | .ambiguous | .reconcileRequired => true

end ReceiptStatus

structure DeliveryReceipt where
  receiptId : String
  ticketId : Canon
  deliveryId : String
  effectId : String
  requestId : String
  runId : String
  generation : ℕ
  channel : Channel
  status : ReceiptStatus
  parts : List DeliveryPartReceipt
  observedAtMs : ℕ
  errorCode : Option String
  receiptSha256 : Canon
  some_part : 1 ≤ parts.length ∧ parts.length ≤ 50
  indexes : parts.map DeliveryPartReceipt.index = List.range parts.length
  partIds_nodup : (parts.map DeliveryPartReceipt.partId).Nodup
  status_admitted : status.admits (parts.map DeliveryPartReceipt.stage) = true
  error_iff : errorCode.isSome = !status.succeeded

namespace DeliveryReceipt

def computedReceiptSha256 (r : DeliveryReceipt) : Canon :=
  .sha256 <| .ofList
    [.text r.receiptId, r.ticketId, .text r.deliveryId, .text r.effectId, .text r.requestId,
      .text r.runId, .num r.generation, r.channel.canon, r.status.canon,
      .ofList (r.parts.map DeliveryPartReceipt.canon), .num r.observedAtMs,
      .option .text r.errorCode]

def hasValidReceiptSha256 (r : DeliveryReceipt) : Bool :=
  r.receiptSha256 = r.computedReceiptSha256

end DeliveryReceipt

end Tiangong
