import Tiangong.DeliveryFacts
import Tiangong.Machines

/-!
# The delivery ledger

An effect is claimed together with the ticket that was verified for it, crosses the boundary behind
which its side effect may have happened, and ends with a receipt. Every call below is one
transaction: it refuses before it writes, or it returns its answer with the new tables.
-/
namespace Tiangong.Communication

lemma partReceipt_ext {p q : DeliveryPartReceipt} : p = q ↔ p.partId = q.partId ∧
    p.index = q.index ∧ p.kind = q.kind ∧ p.artifactId = q.artifactId ∧
      p.artifactRevisionId = q.artifactRevisionId ∧ p.stage = q.stage ∧ p.attempt = q.attempt ∧
        p.startedAtMs = q.startedAtMs ∧ p.finishedAtMs = q.finishedAtMs ∧
          p.channelMessageRef = q.channelMessageRef ∧ p.evidenceSha256 = q.evidenceSha256 ∧
            p.platformReceiptSha256 = q.platformReceiptSha256 ∧ p.errorCode = q.errorCode := by
  cases p
  cases q
  simp only [DeliveryPartReceipt.mk.injEq]

instance : DecidableEq DeliveryPartReceipt := fun _ _ => decidable_of_iff' _ partReceipt_ext

/-- Two receipts are the same when their columns are. -/
lemma receipt_ext {r r' : DeliveryReceipt} : r = r' ↔ r.receiptId = r'.receiptId ∧
    r.ticketId = r'.ticketId ∧ r.deliveryId = r'.deliveryId ∧ r.effectId = r'.effectId ∧
      r.requestId = r'.requestId ∧ r.runId = r'.runId ∧ r.generation = r'.generation ∧
        r.channel = r'.channel ∧ r.status = r'.status ∧ r.parts = r'.parts ∧
          r.observedAtMs = r'.observedAtMs ∧ r.errorCode = r'.errorCode ∧
            r.receiptSha256 = r'.receiptSha256 := by
  cases r
  cases r'
  simp only [DeliveryReceipt.mk.injEq]

instance : DecidableEq DeliveryReceipt := fun _ _ => decidable_of_iff' _ receipt_ext

inductive DeliveryState where
  | claimed | sideEffectStarted | channelAccepted | delivered | failedRetryable | failedFinal
  | reconcileRequired | reconciled
  deriving DecidableEq, Repr

namespace DeliveryState

def canon : DeliveryState → Canon
  | .claimed => .text "CLAIMED"
  | .sideEffectStarted => .text "SIDE_EFFECT_STARTED"
  | .channelAccepted => .text "CHANNEL_ACCEPTED"
  | .delivered => .text "DELIVERED"
  | .failedRetryable => .text "FAILED_RETRYABLE"
  | .failedFinal => .text "FAILED_FINAL"
  | .reconcileRequired => .text "RECONCILE_REQUIRED"
  | .reconciled => .text "RECONCILED"

/-- The states in which a send is in flight. -/
def inflight (state : DeliveryState) : Bool := state = .claimed || state = .sideEffectStarted

/-- The states that keep a channel from being drained. -/
def unresolved (state : DeliveryState) : Bool :=
  state.inflight || state = .failedRetryable || state = .reconcileRequired

/-- The state that a receipt's status stands for. -/
def ofStatus : ReceiptStatus → DeliveryState
  | .channelAccepted => .channelAccepted
  | .delivered => .delivered
  | .failedRetryable => .failedRetryable
  | .failedFinal => .failedFinal
  | .ambiguous | .reconcileRequired => .reconcileRequired

end DeliveryState

/-- A row of `delivery_effects`. Its other columns are read off the claim. -/
structure DeliveryRecord where
  claim : DeliveryEffectClaim
  state : DeliveryState
  sideEffectStartedAtMs : Option ℕ
  receipt : Option DeliveryReceipt
  reconcileReasonCode : Option String
  updatedAtMs : ℕ

namespace DeliveryRecord

abbrev effectId (r : DeliveryRecord) : String := r.claim.effectId

/-- The two `CHECK`s of the table that are about more than one column. -/
def checked (r : DeliveryRecord) : Bool :=
  r.claim.claimedAtMs ≤ r.updatedAtMs && match r.state with
    | .claimed =>
      r.sideEffectStartedAtMs.isNone && r.receipt.isNone && r.reconcileReasonCode.isNone
    | .sideEffectStarted =>
      r.sideEffectStartedAtMs.isSome && r.receipt.isNone && r.reconcileReasonCode.isNone
    | .reconcileRequired => r.sideEffectStartedAtMs.isSome && r.reconcileReasonCode.isSome
    | _ => r.receipt.isSome

/-- The row of a new claim. -/
def ofClaim (claim : DeliveryEffectClaim) : DeliveryRecord :=
  ⟨claim, .claimed, none, none, none, claim.claimedAtMs⟩

def started (atMs : ℕ) (r : DeliveryRecord) : DeliveryRecord :=
  { r with state := .sideEffectStarted, sideEffectStartedAtMs := some atMs, updatedAtMs := atMs }

theorem effectId_started (atMs : ℕ) (r : DeliveryRecord) :
    (r.started atMs).effectId = r.effectId := rfl

def received (target : DeliveryState) (receipt : DeliveryReceipt) (r : DeliveryRecord) :
    DeliveryRecord :=
  { r with
    state := target
    receipt := some receipt
    reconcileReasonCode := if target = .reconcileRequired then receipt.errorCode else none
    updatedAtMs := receipt.observedAtMs }

theorem effectId_received (target : DeliveryState) (receipt : DeliveryReceipt)
    (r : DeliveryRecord) : (r.received target receipt).effectId = r.effectId := rfl

def recovered (nowMs : ℕ) (r : DeliveryRecord) : DeliveryRecord :=
  { r with
    state := .reconcileRequired
    reconcileReasonCode := some "delivery.receipt_missing_after_restart"
    updatedAtMs := nowMs }

lemma effectId_recovered (nowMs : ℕ) (r : DeliveryRecord) :
    (r.recovered nowMs).effectId = r.effectId := rfl

end DeliveryRecord

/-- A row of `delivery_stage_events`. -/
structure StageEvent where
  effectId : String
  fromState : Option DeliveryState
  toState : DeliveryState
  evidenceSha256 : Canon
  occurredAtMs : ℕ
  deriving DecidableEq

def StageEvent.eventId (e : StageEvent) : Canon :=
  .ident "dle_" <| .ofList [.text "tiangong.communication.delivery-stage-event.v1",
    .text e.effectId, e.toState.canon, e.evidenceSha256]

abbrev VerifiedDeliveryTicketFact.ticketId (f : VerifiedDeliveryTicketFact) : Canon := f.1.ticketId

structure DeliveryLedger where
  tickets : Table VerifiedDeliveryTicketFact.ticketId
  effects : Table DeliveryRecord.effectId
  events : Table StageEvent.eventId
  partStages : Table DeliveryPartStageFact.key
  progress : Table DeliveryTransferProgressFact.key

structure VerifiedDeliveryConsumption where
  verification : VerifiedDeliveryTicketFact
  delivery : DeliveryRecord
  created : Bool

structure DeliveryDrainFacts where
  inflightSendCount : ℕ
  unresolvedDeliveryCount : ℕ
  ledgerSha256 : Canon
  deriving DecidableEq

namespace DeliveryLedger

def empty : DeliveryLedger := ⟨.empty, .empty, .empty, .empty, .empty⟩

def conflict (message : String) : LedgerError := ⟨.conflict, message⟩

def corruption (message : String) : LedgerError := ⟨.corruption, message⟩

/-- `_record`: the digests of a stored row. -/
def checkRecord (row : DeliveryRecord) : Except LedgerError DeliveryRecord := do
  rejectIf (row.claim.hasValidSha256 = false) (corruption "delivery claim digest is invalid")
  rejectIf (row.receipt.any fun receipt => !receipt.hasValidReceiptSha256)
    (corruption "delivery receipt digest is invalid")
  pure row

/-- `_verification`: the digest of a stored verification. -/
def checkVerification (row : VerifiedDeliveryTicketFact) :
    Except LedgerError VerifiedDeliveryTicketFact := do
  rejectIf (row.1.hasValidSha256 = false)
    (corruption "verified delivery ticket columns are invalid")
  pure row

def appendEvent (event : StageEvent) (s : DeliveryLedger) : Except LedgerError DeliveryLedger := do
  let events ← s.events.insert ⟨.integrity, "delivery_stage_events.event_id"⟩ event
  pure { s with events }

/-- Rewrite the row of an effect. The `CHECK`s of the table are about the new row. -/
def updateRecord (selected : DeliveryRecord → Bool) (f : DeliveryRecord → DeliveryRecord)
    (hf : ∀ r, (f r).effectId = r.effectId) (s : DeliveryLedger) :
    Except LedgerError DeliveryLedger := do
  rejectIf (¬ ∀ r ∈ s.effects.rows, selected r = true → (f r).checked = true)
    ⟨.integrity, "CHECK constraint failed: delivery_effects"⟩
  pure { s with effects := s.effects.update selected f hf }

/-- The stored row of an effect that was written by this call. -/
def writtenRecord (effectId : String) (s : DeliveryLedger) : Except LedgerError DeliveryRecord := do
  let row ← required (s.effects.find effectId) (conflict "delivery effect is not claimed")
  checkRecord row

/-- Two claims share an identity. -/
def sameEffect (c c' : DeliveryEffectClaim) : Bool :=
  c.effectId = c'.effectId || c.deliveryId = c'.deliveryId || c.ticketId = c'.ticketId

def claimLocked (claim : DeliveryEffectClaim) (s : DeliveryLedger) :
    Except LedgerError (DeliveryRecord × DeliveryLedger) := do
  match s.effects.rows.filter fun r => sameEffect r.claim claim with
  | row :: others =>
    rejectIf (others ≠ []) (corruption "delivery identities point to different effects")
    let record ← checkRecord row
    rejectIf (record.claim.stable ≠ claim.stable)
      (conflict "delivery identity was reused with different content")
    pure (record, s)
  | [] =>
    let effects ← s.effects.insert ⟨.integrity, "delivery_effects.effect_id"⟩ (.ofClaim claim)
    let s ← appendEvent ⟨claim.effectId, none, .claimed, claim.claimSha256, claim.claimedAtMs⟩
      { s with effects }
    let record ← s.writtenRecord claim.effectId
    pure (record, s)

/-- The highest generation of a run whose ticket was consumed. -/
def generationFence (requestId runId : String) (s : DeliveryLedger) : Option ℕ :=
  ((s.tickets.rows.filter fun t => t.1.requestId = requestId && t.1.runId = runId).map
    (·.1.generation)).max?

/-- Two verifications share an identity. -/
def sameTicket (f f' : VerifiedDeliveryTicketFact) : Bool :=
  f.1.ticketId = f'.1.ticketId || f.1.effectId = f'.1.effectId || f.1.deliveryId = f'.1.deliveryId

def consumeVerifiedTicket (verification : VerifiedDeliveryTicketFact)
    (claim : DeliveryEffectClaim) (s : DeliveryLedger) :
    Except LedgerError (VerifiedDeliveryConsumption × DeliveryLedger) := do
  rejectIf (verification.1.hasValidSha256 = false)
    ⟨.value, "delivery ticket verification digest is invalid"⟩
  rejectIf (claim.hasValidSha256 = false) ⟨.value, "delivery claim digest is invalid"⟩
  rejectIf (sameDelivery verification.1 claim = false ∨
      verification.1.verifiedAtMs ≠ claim.claimedAtMs)
    (conflict "verified delivery ticket does not match its effect claim")
  rejectIf ((s.generationFence verification.1.requestId verification.1.runId).any fun maximum =>
      verification.1.generation < maximum)
    (conflict "delivery ticket generation is below the persisted fence")
  match s.tickets.rows.filter fun t => sameTicket t verification with
  | row :: others =>
    rejectIf (others ≠ []) (corruption "verified delivery identities point to different tickets")
    let stored ← checkVerification row
    rejectIf (stored.1.stable ≠ verification.1.stable)
      (conflict "delivery ticket identity was reused with different verification")
    let (record, s) ← s.claimLocked claim
    pure (⟨stored, record, false⟩, s)
  | [] =>
    let tickets ← s.tickets.insert ⟨.integrity, "verified_delivery_tickets.ticket_id"⟩ verification
    let (record, s) ← claimLocked claim { s with tickets }
    pure (⟨verification, record, true⟩, s)

def samePayload (payload : DeliveryTicketPayload) (f : VerificationFields)
    (c : DeliveryEffectClaim) : Bool :=
  sameDelivery f c && f.ticketId = payload.ticketId && f.deliveryId = payload.deliveryId &&
    f.effectId = payload.effectId && f.requestId = payload.requestId &&
    f.runId = payload.runId && f.generation = payload.generation &&
    f.gatewayEpoch = payload.gatewayEpoch && f.outboundPlanSha256 = payload.outboundPlanSha256 &&
    f.payloadSha256 = .sha256 payload.canon && payload.channel = c.channel &&
    payload.tenantId = c.tenantId && payload.linkAccountId = c.linkAccountId &&
    payload.conversationScopeHash = c.conversationScopeHash &&
    payload.recipientScopeHash = c.recipientScopeHash

def requireVerifiedDelivery (payload : DeliveryTicketPayload) (s : DeliveryLedger) :
    Except LedgerError DeliveryRecord := do
  match s.tickets.rows.filter fun t => t.1.ticketId = payload.ticketId ||
      t.1.effectId = payload.effectId || t.1.deliveryId = payload.deliveryId with
  | [row] =>
    let verification ← checkVerification row
    let row ← required (s.effects.find payload.effectId)
      (corruption "verified delivery ticket has no effect claim")
    let record ← checkRecord row
    rejectIf (samePayload payload verification.1 record.claim = false)
      (conflict "delivery payload does not match verified ticket authority")
    pure record
  | _ => .error (conflict "delivery payload has no unique verified ticket")

def get (effectId : String) (s : DeliveryLedger) : Except LedgerError (Option DeliveryRecord) :=
  match s.effects.find effectId with
  | none => .ok none
  | some row => (checkRecord row).map some

def markSideEffectStarted (effectId : String) (startedAtMs : ℕ) (s : DeliveryLedger) :
    Except LedgerError (DeliveryRecord × DeliveryLedger) := do
  let row ← required (s.effects.find effectId) (conflict "delivery effect is not claimed")
  if row.state = .sideEffectStarted then
    rejectIf (row.sideEffectStartedAtMs ≠ some startedAtMs)
      (conflict "side-effect start fact changed")
    let record ← checkRecord row
    pure (record, s)
  else
    rejectIf (row.state ≠ .claimed ∨ startedAtMs < row.claim.claimedAtMs)
      (conflict "delivery effect cannot enter side-effect boundary")
    let s ← s.updateRecord (fun r => r.effectId = effectId && r.state = .claimed)
      (DeliveryRecord.started startedAtMs) (DeliveryRecord.effectId_started startedAtMs)
    let s ← s.appendEvent ⟨effectId, some .claimed, .sideEffectStarted,
      .sha256 (.ofList [.text effectId, .num startedAtMs]), startedAtMs⟩
    let record ← s.writtenRecord effectId
    pure (record, s)

def sameContext (receipt : DeliveryReceipt) (c : DeliveryEffectClaim) : Bool :=
  receipt.deliveryId = c.deliveryId && receipt.requestId = c.requestId &&
    receipt.runId = c.runId && receipt.generation = c.generation &&
    receipt.channel = c.channel && receipt.ticketId = c.ticketId

def receiptTarget (state : DeliveryState) (status : ReceiptStatus) : DeliveryState :=
  if state = .reconcileRequired then .reconciled else .ofStatus status

/-- What `record_receipt` demands of a receipt that is not the stored one. -/
def receiptAllowed (record : DeliveryRecord) (receipt : DeliveryReceipt)
    (sideEffectAbsentVerified reconciliation : Bool) : Except LedgerError Unit := do
  rejectIf (record.receipt.isSome ∧ (record.state ≠ .reconcileRequired ∨ reconciliation = false))
    (conflict "delivery effect already has a different receipt")
  rejectIf (record.state = .reconcileRequired ∧ reconciliation = false)
    (conflict "ambiguous delivery requires explicit reconciliation")
  rejectIf ((receipt.status.succeeded ∨ receipt.status.isAmbiguous) ∧
      record.sideEffectStartedAtMs = none)
    (conflict "platform result requires a persisted side-effect start")
  rejectIf (record.state = .sideEffectStarted ∧ receipt.status = .failedRetryable ∧
      sideEffectAbsentVerified = false)
    (conflict "started side effect cannot be retried without verified absence")
  rejectIf (record.state ≠ .claimed ∧ record.state ≠ .sideEffectStarted ∧
      record.state ≠ .reconcileRequired)
    (conflict "delivery effect is not awaiting a receipt")

def recordReceipt (receipt : DeliveryReceipt) (sideEffectAbsentVerified reconciliation : Bool)
    (s : DeliveryLedger) : Except LedgerError (DeliveryRecord × DeliveryLedger) := do
  rejectIf (receipt.hasValidReceiptSha256 = false) ⟨.value, "delivery receipt digest is invalid"⟩
  let row ← required (s.effects.find receipt.effectId)
    (conflict "delivery receipt has no claimed effect")
  let record ← checkRecord row
  rejectIf (sameContext receipt record.claim = false)
    (conflict "delivery receipt context does not match claimed effect")
  if record.receipt = some receipt then pure (record, s)
  else
    receiptAllowed record receipt sideEffectAbsentVerified reconciliation
    let target := receiptTarget record.state receipt.status
    let s ← s.updateRecord (fun r => r.effectId = receipt.effectId)
      (DeliveryRecord.received target receipt) (DeliveryRecord.effectId_received target receipt)
    let s ← s.appendEvent
      ⟨receipt.effectId, some record.state, target, receipt.receiptSha256, receipt.observedAtMs⟩
    let record ← s.writtenRecord receipt.effectId
    pure (record, s)

/-- One round of the loop of `recover_ambiguous`. -/
def recoverOne (nowMs : ℕ) (acc : List DeliveryRecord × DeliveryLedger) (row : DeliveryRecord) :
    Except LedgerError (List DeliveryRecord × DeliveryLedger) := do
  rejectIf (row.sideEffectStartedAtMs.any fun startedAtMs => nowMs < startedAtMs)
    ⟨.value, "ambiguity recovery time predates side-effect start"⟩
  let s ← acc.2.updateRecord
    (fun r => r.effectId = row.effectId && r.state = .sideEffectStarted)
    (DeliveryRecord.recovered nowMs) (DeliveryRecord.effectId_recovered nowMs)
  let s ← s.appendEvent ⟨row.effectId, some .sideEffectStarted, .reconcileRequired,
    .sha256 (.ofList [.text row.effectId, .text "receipt_missing_after_restart"]), nowMs⟩
  let record ← s.writtenRecord row.effectId
  pure (acc.1 ++ [record], s)

def recoverAmbiguous (nowMs : ℕ) (s : DeliveryLedger) :
    Except LedgerError (List DeliveryRecord × DeliveryLedger) :=
  (orderBy (fun r r' : DeliveryRecord => r.effectId ≤ r'.effectId)
    (s.effects.rows.filter fun r => r.state = .sideEffectStarted)).foldlM (recoverOne nowMs) ([], s)

/-- The stage facts of a part in the order of their sequence. -/
def partChain (part : PartKey) (s : DeliveryLedger) : List DeliveryPartStageFact :=
  s.partStages.rows.filter fun f => f.part = part

def recordPartStage (fact : DeliveryPartStageFact) (s : DeliveryLedger) :
    Except LedgerError (DeliveryPartStageFact × DeliveryLedger) := do
  rejectIf (fact.1.hasValidSha256 = false)
    ⟨.value, "delivery part-stage fact digest is invalid"⟩
  let effect ← required (s.effects.find fact.1.effectId)
    (conflict "delivery part stage has no claimed effect")
  rejectIf (fact.1.occurredAtMs < effect.claim.claimedAtMs)
    (conflict "delivery part stage predates its effect claim")
  match s.partStages.find fact.key with
  | some stored =>
    rejectIf (stored ≠ fact) (conflict "delivery part stage was rebound")
    pure (stored, s)
  | none =>
    let previous := (s.partChain fact.part).getLast?
    rejectIf (previous.any fun p => p.1.partIndex ≠ fact.1.partIndex || p.1.kind ≠ fact.1.kind ||
        fact.1.occurredAtMs < p.1.occurredAtMs)
      (conflict "delivery part stage context changed")
    rejectIf (fact.1.stage ∉ TransferStage.successors (previous.map (·.1.stage)))
      (conflict "delivery part stage transition is invalid")
    let partStages ← s.partStages.insert ⟨.integrity, "delivery_part_stage_facts"⟩ fact
    pure (fact, { s with partStages })

/-- The progress facts of a phase in the order of their sequence. -/
def progressChain (transfer : PhaseKey) (s : DeliveryLedger) : List DeliveryTransferProgressFact :=
  s.progress.rows.filter fun f => f.transfer = transfer

def recordTransferProgress (fact : DeliveryTransferProgressFact) (s : DeliveryLedger) :
    Except LedgerError (DeliveryTransferProgressFact × DeliveryLedger) := do
  rejectIf (fact.1.hasValidSha256 = false)
    ⟨.value, "delivery transfer progress digest is invalid"⟩
  rejectIf ((s.effects.find fact.1.effectId).all fun effect =>
      fact.1.observedAtMs < effect.claim.claimedAtMs)
    (conflict "delivery progress has no valid claimed effect")
  match s.progress.find fact.key with
  | some stored =>
    rejectIf (stored ≠ fact) (conflict "delivery transfer progress was rebound")
    pure (stored, s)
  | none =>
    let previous := (orderBy (fun f f' : DeliveryTransferProgressFact =>
      f'.1.bytesCompleted ≤ f.1.bytesCompleted) (s.progressChain fact.transfer)).head?
    rejectIf (previous.any fun p => p.1.partIndex ≠ fact.1.partIndex ||
        p.1.totalBytes ≠ fact.1.totalBytes || fact.1.bytesCompleted ≤ p.1.bytesCompleted ||
        fact.1.observedAtMs < p.1.observedAtMs)
      (conflict "delivery transfer progress is not monotonic")
    let progress ← s.progress.insert ⟨.integrity, "delivery_transfer_progress_facts"⟩ fact
    pure (fact, { s with progress })

def verifyTicket (s : DeliveryLedger) (t : VerifiedDeliveryTicketFact) :
    Except LedgerError Unit := do
  let record ← required (s.effects.find t.1.effectId)
    (corruption "verified delivery ticket has no atomic effect claim")
  rejectIf (sameDelivery t.1 record.claim = false)
    (corruption "verified delivery ticket disagrees with its effect claim")

/-- The stage events of an effect in the order of their sequence. -/
def eventChain (effectId : String) (s : DeliveryLedger) : List StageEvent :=
  s.events.rows.filter fun e => e.effectId = effectId

/-- The state to which the later events of an effect lead. -/
def followEvents : DeliveryState → List StageEvent → Except LedgerError DeliveryState
  | current, [] => .ok current
  | current, event :: events => do
    rejectIf (event.fromState ≠ some current)
      (corruption "delivery stage event chain is discontinuous")
    followEvents event.toState events

def verifyEvents (s : DeliveryLedger) (record : DeliveryRecord) : Except LedgerError Unit :=
  match s.eventChain record.effectId with
  | [] => .error (corruption "delivery effect has no valid claim event")
  | first :: events => do
    rejectIf (first.fromState ≠ none ∨ first.toState ≠ .claimed)
      (corruption "delivery effect has no valid claim event")
    let current ← followEvents .claimed events
    rejectIf (current ≠ record.state)
      (corruption "delivery stage event chain disagrees with current state")

def verifyPartFact (s : DeliveryLedger) (f : DeliveryPartStageFact) : Except LedgerError Unit := do
  rejectIf (s.effects.find f.1.effectId).isNone
    (corruption "delivery part stage references missing effect")
  rejectIf (f.1.hasValidSha256 = false) (corruption "delivery part-stage columns are invalid")

def followParts (partIndex : ℕ) (kind : PartKind) :
    Option TransferStage → ℕ → List DeliveryPartStageFact → Except LedgerError Unit
  | _, _, [] => .ok ()
  | previous, occurredAtMs, f :: facts => do
    rejectIf (f.1.partIndex ≠ partIndex ∨ f.1.kind ≠ kind ∨ f.1.occurredAtMs < occurredAtMs ∨
        f.1.stage ∉ TransferStage.successors previous)
      (corruption "delivery part-stage chain is invalid")
    followParts partIndex kind (some f.1.stage) f.1.occurredAtMs facts

def verifyPartChain (s : DeliveryLedger) (part : PartKey) : Except LedgerError Unit :=
  match s.partChain part with
  | [] => .ok ()
  | first :: facts => do
    let record ← required (s.effects.find first.1.effectId)
      (corruption "delivery part stage references missing effect")
    followParts first.1.partIndex first.1.kind none record.claim.claimedAtMs (first :: facts)

def verifyProgressFact (s : DeliveryLedger) (f : DeliveryTransferProgressFact) :
    Except LedgerError Unit := do
  rejectIf (s.effects.find f.1.effectId).isNone
    (corruption "delivery progress references missing effect")
  rejectIf (f.1.hasValidSha256 = false) (corruption "delivery progress columns are invalid")

/-- The facts of a phase, from a number of bytes and a time on. -/
def followProgress (totalBytes : ℕ) :
    ℕ → ℕ → List DeliveryTransferProgressFact → Except LedgerError Unit
  | _, _, [] => .ok ()
  | completed, observedAtMs, f :: facts => do
    rejectIf (f.1.totalBytes ≠ totalBytes ∨ f.1.bytesCompleted ≤ completed ∨
        f.1.observedAtMs < observedAtMs)
      (corruption "delivery progress chain is invalid")
    followProgress totalBytes f.1.bytesCompleted f.1.observedAtMs facts

def verifyProgressChain (s : DeliveryLedger) (transfer : PhaseKey) : Except LedgerError Unit :=
  match s.progressChain transfer with
  | [] => .ok ()
  | first :: facts => do
    let record ← required (s.effects.find first.1.effectId)
      (corruption "delivery progress references missing effect")
    followProgress first.1.totalBytes 0 record.claim.claimedAtMs (first :: facts)

def verifyRows (s : DeliveryLedger) : Except LedgerError Unit := do
  s.tickets.rows.forM fun t => (checkVerification t).map fun _ => ()
  s.effects.rows.forM fun r => (checkRecord r).map fun _ => ()
  s.tickets.rows.forM s.verifyTicket
  rejectIf (s.effects.rows.any fun r => (s.tickets.find r.claim.ticketId).isNone)
    (corruption "delivery effect exists without verified ticket authority")
  s.events.rows.forM fun e => rejectIf (s.effects.find e.effectId).isNone
    (corruption "delivery stage event references missing effect")
  s.effects.rows.forM s.verifyEvents
  s.partStages.rows.forM s.verifyPartFact
  (s.partStages.rows.map (·.part)).eraseDups.forM s.verifyPartChain
  s.progress.rows.forM s.verifyProgressFact
  (s.progress.rows.map (·.transfer)).eraseDups.forM s.verifyProgressChain

def scopeRecords (channel : Channel) (tenantId linkAccountId : String) (s : DeliveryLedger) :
    List DeliveryRecord :=
  orderBy (fun r r' : DeliveryRecord => r.effectId ≤ r'.effectId) <|
    s.effects.rows.filter fun r => r.claim.channel = channel && r.claim.tenantId = tenantId &&
      r.claim.linkAccountId = linkAccountId

/-- The canonical facts of a scope: its effects, their tickets, stages and progress. -/
def drainCanon (channel : Channel) (tenantId linkAccountId : String) (s : DeliveryLedger) : Canon :=
  let records := s.scopeRecords channel tenantId linkAccountId
  let effectIds := records.map (·.effectId)
  let effects := records.map fun r => Canon.ofList
    [.text r.effectId, .text r.claim.deliveryId, r.claim.ticketId, r.state.canon,
      r.claim.claimSha256, .option (·.receiptSha256) r.receipt,
      .option .text r.reconcileReasonCode, .num r.updatedAtMs]
  let verifications := effectIds.flatMap fun id =>
    (s.tickets.rows.filter fun t => t.1.effectId = id).map fun t => Canon.ofList
      [.text id, t.1.ticketId, t.1.verificationSha256]
  let stages := effectIds.flatMap fun id =>
    (s.partStages.rows.filter fun f => f.1.effectId = id).map fun f => Canon.ofList
      [.text id, f.1.stageFactSha256]
  let progress := effectIds.flatMap fun id =>
    (s.progress.rows.filter fun f => f.1.effectId = id).map fun f => Canon.ofList
      [.text id, f.1.progressSha256]
  .ofList [.text "tiangong.communication.delivery-drain.v1", channel.canon, .text tenantId,
    .text linkAccountId, .ofList effects, .ofList verifications, .ofList stages, .ofList progress]

def channelDrainFacts (channel : Channel) (tenantId linkAccountId : String) (s : DeliveryLedger) :
    Except LedgerError DeliveryDrainFacts := do
  rejectIf ((channel ≠ .wechat ∧ channel ≠ .feishu) ∨ tenantId = "" ∨ linkAccountId = "")
    ⟨.value, "delivery drain scope is invalid"⟩
  s.verifyRows
  let records := s.scopeRecords channel tenantId linkAccountId
  pure
    { inflightSendCount := records.countP (·.state.inflight)
      unresolvedDeliveryCount := records.countP (·.state.unresolved)
      ledgerSha256 := .sha256 (s.drainCanon channel tenantId linkAccountId) }

inductive Call where
  | consume (verification : VerifiedDeliveryTicketFact) (claim : DeliveryEffectClaim)
  | require (payload : DeliveryTicketPayload)
  | start (effectId : String) (startedAtMs : ℕ)
  | receive (receipt : DeliveryReceipt) (sideEffectAbsentVerified reconciliation : Bool)
  | recover (nowMs : ℕ)
  | stage (fact : DeliveryPartStageFact)
  | progress (fact : DeliveryTransferProgressFact)

inductive Answer where
  | consumed (consumption : VerifiedDeliveryConsumption)
  | record (record : DeliveryRecord)
  | recovered (records : List DeliveryRecord)
  | staged (fact : DeliveryPartStageFact)
  | progressed (fact : DeliveryTransferProgressFact)

/-- The ledger under its calls; a call that raises rolls its transaction back. -/
def machine : Machine DeliveryLedger Call (Except LedgerError Answer) where
  step s
    | .consume verification claim =>
      committed s .consumed (s.consumeVerifiedTicket verification claim)
    | .require payload => (s, (s.requireVerifiedDelivery payload).map .record)
    | .start effectId startedAtMs =>
      committed s .record (s.markSideEffectStarted effectId startedAtMs)
    | .receive receipt sideEffectAbsentVerified reconciliation =>
      committed s .record (s.recordReceipt receipt sideEffectAbsentVerified reconciliation)
    | .recover nowMs => committed s .recovered (s.recoverAmbiguous nowMs)
    | .stage fact => committed s .staged (s.recordPartStage fact)
    | .progress fact => committed s .progressed (s.recordTransferProgress fact)

end DeliveryLedger

end Tiangong.Communication
