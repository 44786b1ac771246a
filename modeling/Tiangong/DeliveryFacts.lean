import Tiangong.DeliveryContracts
import Tiangong.Tables

/-!
# Facts of the delivery ledger

The claim of a delivery effect, the proof that its ticket was verified, and what is observed of the
parts while they are transferred. Every fact carries its own digest.
-/
namespace Tiangong.Communication

inductive LedgerErrorKind where
  | value | conflict | corruption | integrity
  deriving DecidableEq, Repr

structure LedgerError where
  kind : LedgerErrorKind
  message : String
  deriving DecidableEq, Repr

/-- `derive_channel_client_message_id`. Its digest is cut to 48 characters. -/
def channelClientMessageId (effectId : String) : Canon :=
  .ident "tgv3_" <| .ofList [.text "tiangong.communication.client-message.v1", .text effectId]

/-- A claim of an effect; its client message identifier is the one derived from the effect. -/
structure DeliveryEffectClaim where
  ticketId : Canon
  deliveryId : String
  effectId : String
  requestId : String
  runId : String
  generation : ℕ
  gatewayEpoch : ℕ
  channel : Channel
  tenantId : String
  linkAccountId : String
  conversationScopeHash : Canon
  recipientScopeHash : Canon
  outboundPlanSha256 : Canon
  ticketPayloadSha256 : Canon
  claimedAtMs : ℕ
  claimSha256 : Canon
  deriving DecidableEq

namespace DeliveryEffectClaim

def computedSha256 (c : DeliveryEffectClaim) : Canon :=
  .sha256 <| .ofList
    [c.ticketId, .text c.deliveryId, .text c.effectId, .text c.requestId, .text c.runId,
      .num c.generation, .num c.gatewayEpoch, c.channel.canon, .text c.tenantId,
      .text c.linkAccountId, c.conversationScopeHash, c.recipientScopeHash, c.outboundPlanSha256,
      c.ticketPayloadSha256, channelClientMessageId c.effectId, .num c.claimedAtMs]

def hasValidSha256 (c : DeliveryEffectClaim) : Bool := c.claimSha256 = c.computedSha256

def withComputedSha256 (c : DeliveryEffectClaim) : DeliveryEffectClaim :=
  { c with claimSha256 := c.computedSha256 }

/-- The claim without its time and its digest. -/
def stable (c : DeliveryEffectClaim) : DeliveryEffectClaim :=
  { c with claimedAtMs := 0, claimSha256 := .null }

end DeliveryEffectClaim

structure VerificationFields where
  ticketId : Canon
  kid : String
  gatewayEpoch : ℕ
  requestId : String
  runId : String
  generation : ℕ
  deliveryId : String
  effectId : String
  outboundPlanSha256 : Canon
  payloadSha256 : Canon
  signatureSha256 : Canon
  trustBundleSha256 : Canon
  componentManifestSha256 : Canon
  verifiedAtMs : ℕ
  expiresAtMs : ℕ
  verificationSha256 : Canon
  deriving DecidableEq

namespace VerificationFields

/-- `validate_verification_time`. -/
def valid (f : VerificationFields) : Bool := f.verifiedAtMs ≤ f.expiresAtMs

def computedSha256 (f : VerificationFields) : Canon :=
  .sha256 <| .ofList
    [f.ticketId, .text f.kid, .num f.gatewayEpoch, .text f.requestId, .text f.runId,
      .num f.generation, .text f.deliveryId, .text f.effectId, f.outboundPlanSha256,
      f.payloadSha256, f.signatureSha256, f.trustBundleSha256, f.componentManifestSha256,
      .num f.verifiedAtMs, .num f.expiresAtMs]

def hasValidSha256 (f : VerificationFields) : Bool := f.verificationSha256 = f.computedSha256

/-- The verification without its time and its digest. -/
def stable (f : VerificationFields) : VerificationFields :=
  { f with verifiedAtMs := 0, verificationSha256 := .null }

end VerificationFields

abbrev VerifiedDeliveryTicketFact := Sealed VerificationFields.valid

/-- A verified ticket and an effect are about the same delivery. -/
structure Binds (f : VerificationFields) (c : DeliveryEffectClaim) : Prop where
  ticketId : f.ticketId = c.ticketId
  deliveryId : f.deliveryId = c.deliveryId
  effectId : f.effectId = c.effectId
  requestId : f.requestId = c.requestId
  runId : f.runId = c.runId
  generation : f.generation = c.generation
  gatewayEpoch : f.gatewayEpoch = c.gatewayEpoch
  outboundPlanSha256 : f.outboundPlanSha256 = c.outboundPlanSha256
  payloadSha256 : f.payloadSha256 = c.ticketPayloadSha256

/-- The comparison of a verified ticket with a claim, field by field. -/
def sameDelivery (f : VerificationFields) (c : DeliveryEffectClaim) : Bool :=
  f.ticketId = c.ticketId && f.deliveryId = c.deliveryId && f.effectId = c.effectId &&
    f.requestId = c.requestId && f.runId = c.runId && f.generation = c.generation &&
    f.gatewayEpoch = c.gatewayEpoch && f.outboundPlanSha256 = c.outboundPlanSha256 &&
    f.payloadSha256 = c.ticketPayloadSha256

theorem sameDelivery_iff {f : VerificationFields} {c : DeliveryEffectClaim} :
    sameDelivery f c = true ↔ Binds f c := by
  simp only [sameDelivery, holds_iff]
  constructor
  · rintro ⟨⟨⟨⟨⟨⟨⟨⟨h1, h2⟩, h3⟩, h4⟩, h5⟩, h6⟩, h7⟩, h8⟩, h9⟩
    exact ⟨h1, h2, h3, h4, h5, h6, h7, h8, h9⟩
  · rintro ⟨h1, h2, h3, h4, h5, h6, h7, h8, h9⟩
    exact ⟨⟨⟨⟨⟨⟨⟨⟨h1, h2⟩, h3⟩, h4⟩, h5⟩, h6⟩, h7⟩, h8⟩, h9⟩

/-- The stages of a part on its way to the channel. -/
inductive TransferStage where
  | fetched | readyToUpload | encrypted | uploadUrlGranted | uploaded | sendStarted
  | channelAccepted | failedRetryable | failedFinal | ambiguous
  deriving DecidableEq, Repr

namespace TransferStage

def canon : TransferStage → Canon
  | .fetched => .text "FETCHED"
  | .readyToUpload => .text "READY_TO_UPLOAD"
  | .encrypted => .text "ENCRYPTED"
  | .uploadUrlGranted => .text "UPLOAD_URL_GRANTED"
  | .uploaded => .text "UPLOADED"
  | .sendStarted => .text "SEND_STARTED"
  | .channelAccepted => .text "CHANNEL_ACCEPTED"
  | .failedRetryable => .text "FAILED_RETRYABLE"
  | .failedFinal => .text "FAILED_FINAL"
  | .ambiguous => .text "AMBIGUOUS"

/-- `_PART_STAGE_TRANSITIONS`. -/
def successors : Option TransferStage → List TransferStage
  | none => [.fetched, .sendStarted, .failedRetryable, .failedFinal]
  | some .fetched => [.readyToUpload, .encrypted, .failedRetryable, .failedFinal]
  | some .readyToUpload => [.uploaded, .failedRetryable, .failedFinal, .ambiguous]
  | some .encrypted => [.uploadUrlGranted, .failedRetryable, .failedFinal]
  | some .uploadUrlGranted => [.uploaded, .failedRetryable, .failedFinal]
  | some .uploaded => [.sendStarted, .failedRetryable, .failedFinal]
  | some .sendStarted => [.channelAccepted, .failedRetryable, .failedFinal, .ambiguous]
  | some _ => []

end TransferStage

structure PartStageFields where
  effectId : String
  partId : String
  partIndex : ℕ
  kind : PartKind
  stage : TransferStage
  attempt : ℕ
  occurredAtMs : ℕ
  evidenceSha256 : Canon
  stageFactSha256 : Canon
  deriving DecidableEq

namespace PartStageFields

def valid (f : PartStageFields) : Bool :=
  f.partIndex ≤ 999 && 1 ≤ f.attempt && f.attempt ≤ 1000

def computedSha256 (f : PartStageFields) : Canon :=
  .sha256 <| .ofList
    [.text f.effectId, .text f.partId, .num f.partIndex, f.kind.canon, f.stage.canon,
      .num f.attempt, .num f.occurredAtMs, f.evidenceSha256]

def hasValidSha256 (f : PartStageFields) : Bool := f.stageFactSha256 = f.computedSha256

end PartStageFields

abbrev DeliveryPartStageFact := Sealed PartStageFields.valid

abbrev PartKey := String × String

abbrev DeliveryPartStageFact.part (f : DeliveryPartStageFact) : PartKey := (f.1.effectId, f.1.partId)

/-- The columns under which a stage is unique. -/
abbrev DeliveryPartStageFact.key (f : DeliveryPartStageFact) :
    String × String × TransferStage × ℕ :=
  (f.1.effectId, f.1.partId, f.1.stage, f.1.attempt)

inductive TransferPhase where
  | fetch | encrypt | upload
  deriving DecidableEq, Repr

def TransferPhase.canon : TransferPhase → Canon
  | .fetch => .text "FETCH"
  | .encrypt => .text "ENCRYPT"
  | .upload => .text "UPLOAD"

structure ProgressFields where
  effectId : String
  partId : String
  partIndex : ℕ
  phase : TransferPhase
  bytesCompleted : ℕ
  totalBytes : ℕ
  observedAtMs : ℕ
  evidenceSha256 : Canon
  progressSha256 : Canon
  deriving DecidableEq

namespace ProgressFields

/-- `validate_progress` and the bounds of the fields. -/
def valid (f : ProgressFields) : Bool :=
  f.partIndex ≤ 999 && 1 ≤ f.bytesCompleted && f.totalBytes ≤ 2147483648 &&
    f.bytesCompleted ≤ f.totalBytes

def computedSha256 (f : ProgressFields) : Canon :=
  .sha256 <| .ofList
    [.text f.effectId, .text f.partId, .num f.partIndex, f.phase.canon, .num f.bytesCompleted,
      .num f.totalBytes, .num f.observedAtMs, f.evidenceSha256]

def hasValidSha256 (f : ProgressFields) : Bool := f.progressSha256 = f.computedSha256

end ProgressFields

abbrev DeliveryTransferProgressFact := Sealed ProgressFields.valid

/-- A phase of the transfer of a part. -/
abbrev PhaseKey := String × String × TransferPhase

abbrev DeliveryTransferProgressFact.transfer (f : DeliveryTransferProgressFact) : PhaseKey :=
  (f.1.effectId, f.1.partId, f.1.phase)

abbrev DeliveryTransferProgressFact.key (f : DeliveryTransferProgressFact) :
    String × String × TransferPhase × ℕ :=
  (f.1.effectId, f.1.partId, f.1.phase, f.1.bytesCompleted)

theorem DeliveryTransferProgressFact.bytes_pos (f : DeliveryTransferProgressFact) :
    0 < f.1.bytesCompleted := by
  have h := f.2
  simp only [ProgressFields.valid, holds_iff] at h
  omega

end Tiangong.Communication
