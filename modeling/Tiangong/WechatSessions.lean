import Tiangong.ChannelContracts
import Tiangong.Machines

/-!
# Sessions of WeChat

Every message is decided once. An accepted message moves the row of its session on: its number, its
time and the context token that later replies may use. Tokens and recipients are protected by the
platform, under an entropy that names the session and the message.
-/
namespace Tiangong.Communication

inductive WechatClassification where
  | accepted | selfMessage | unexpectedSender | groupDisabled | groupMentionRequired | emptyText
  | attachmentHandlerUnavailable | attachmentRejected | unsupportedMessageType | outOfOrder
  | sequenceConflict
  deriving DecidableEq, Repr

def WechatClassification.canon : WechatClassification → Canon
  | .accepted => .text "ACCEPTED"
  | .selfMessage => .text "SELF_MESSAGE"
  | .unexpectedSender => .text "UNEXPECTED_SENDER"
  | .groupDisabled => .text "GROUP_DISABLED"
  | .groupMentionRequired => .text "GROUP_MENTION_REQUIRED"
  | .emptyText => .text "EMPTY_TEXT"
  | .attachmentHandlerUnavailable => .text "ATTACHMENT_HANDLER_UNAVAILABLE"
  | .attachmentRejected => .text "ATTACHMENT_REJECTED"
  | .unsupportedMessageType => .text "UNSUPPORTED_MESSAGE_TYPE"
  | .outOfOrder => .text "OUT_OF_ORDER"
  | .sequenceConflict => .text "SEQUENCE_CONFLICT"

inductive ContextTokenSource where
  | incoming | cache | missing | notApplicable
  deriving DecidableEq, Repr

def ContextTokenSource.canon : ContextTokenSource → Canon
  | .incoming => .text "incoming"
  | .cache => .text "cache"
  | .missing => .text "missing"
  | .notApplicable => .text "not_applicable"

structure WechatSessionDecision where
  messageRef : String
  sessionKey : Canon
  classification : WechatClassification
  shouldForward : Bool
  duplicate : Bool
  sequence : Option ℕ
  contextTokenSource : ContextTokenSource
  contextTokenSha256 : Option Canon
  decidedAtMs : ℕ
  decisionSha256 : Canon
  deriving DecidableEq

namespace WechatSessionDecision

/-- The digest leaves out whether the decision was repeated. -/
def computedSha256 (d : WechatSessionDecision) : Canon :=
  .sha256 <| .ofList
    [.text d.messageRef, d.sessionKey, d.classification.canon, .flag d.shouldForward,
      .option .num d.sequence, d.contextTokenSource.canon, .option id d.contextTokenSha256,
      .num d.decidedAtMs]

def hasValidSha256 (d : WechatSessionDecision) : Bool := d.decisionSha256 = d.computedSha256

def withComputedSha256 (d : WechatSessionDecision) : WechatSessionDecision :=
  { d with decisionSha256 := d.computedSha256 }

/-- The decision as a repeated message returns it. -/
def repeated (d : WechatSessionDecision) : WechatSessionDecision := { d with duplicate := true }

end WechatSessionDecision

structure WechatSessionResult where
  decision : WechatSessionDecision
  contextToken : Option PyStr
  deriving DecidableEq

inductive SessionErrorKind where
  | value | session | conflict | protector | unicodeEncode | integrity
  deriving DecidableEq, Repr

structure SessionError where
  kind : SessionErrorKind
  message : String
  deriving DecidableEq, Repr

/-- The protection of a text by the platform. It is randomised, so that it takes a seed; it can
fail. -/
structure DataProtector where
  protect (seed : ℕ) (plaintext : PyStr) (entropy : Canon) : Option Canon
  unprotect (ciphertext entropy : Canon) : Option PyStr

/-- What was protected is read back under the same entropy. -/
def DataProtector.Faithful (p : DataProtector) : Prop :=
  ∀ seed plaintext entropy ciphertext, p.protect seed plaintext entropy = some ciphertext →
    p.unprotect ciphertext entropy = some plaintext

/-- A protected text and its digest. -/
structure ProtectedText where
  cipher : Canon
  sha256 : Canon
  deriving DecidableEq

/-- `_entropy`. -/
def tokenEntropy (sessionKey : Canon) (messageRef : Option String) : Canon :=
  .ofList [.text "tiangong-v3-qiyuan", .text "wechat-ilink-context-token-v1", sessionKey,
    .option .text messageRef]

def recipientEntropy (sessionKey : Canon) : Canon :=
  .ofList [.text "tiangong-v3-qiyuan", .text "wechat-ilink-recipient-v1", sessionKey]

namespace DataProtector

def protectText (p : DataProtector) (seed : ℕ) (text : PyStr) (entropy : Canon) :
    Except SessionError ProtectedText := do
  let cipher ← required (p.protect seed text entropy) ⟨.protector, "CryptProtectData failed"⟩
  pure ⟨cipher, textSha256 text⟩

def unprotectText (p : DataProtector) (sealedText : ProtectedText) (entropy : Canon)
    (error : SessionError) : Except SessionError PyStr := do
  let text ← required (p.unprotect sealedText.cipher entropy)
    ⟨.protector, "CryptUnprotectData failed"⟩
  rejectIf (textSha256 text ≠ sealedText.sha256) error
  pure text

/-- `_protect`. -/
def protectToken (p : DataProtector) (seed : ℕ) (token : PyStr) (sessionKey : Canon)
    (messageRef : Option String) : Except SessionError ProtectedText := do
  rejectIf (token = [] ∨ token.hasNul = true) ⟨.value, "WeChat context token is invalid"⟩
  rejectIf (¬ token.Encodable) ⟨.unicodeEncode, "surrogates not allowed"⟩
  rejectIf (8192 < token.utf8Length) ⟨.value, "WeChat context token is invalid"⟩
  p.protectText seed token (tokenEntropy sessionKey messageRef)

/-- `_unprotect`. -/
def unprotectToken (p : DataProtector) (token : ProtectedText) (sessionKey : Canon)
    (messageRef : Option String) : Except SessionError PyStr :=
  p.unprotectText token (tokenEntropy sessionKey messageRef)
    ⟨.session, "protected WeChat context token digest is invalid"⟩

def protectRecipient (p : DataProtector) (seed : ℕ) (recipientUserId : PyStr)
    (sessionKey : Canon) : Except SessionError ProtectedText := do
  rejectIf (recipientUserId = [] ∨ recipientUserId ≠ recipientUserId.strip ∨
    recipientUserId.hasNul = true) ⟨.value, "WeChat recipient user ID is invalid"⟩
  rejectIf (¬ recipientUserId.Encodable) ⟨.unicodeEncode, "surrogates not allowed"⟩
  rejectIf (1024 < recipientUserId.utf8Length) ⟨.value, "WeChat recipient user ID is invalid"⟩
  p.protectText seed recipientUserId (recipientEntropy sessionKey)

def unprotectRecipient (p : DataProtector) (recipient : ProtectedText) (sessionKey : Canon) :
    Except SessionError PyStr :=
  p.unprotectText recipient (recipientEntropy sessionKey)
    ⟨.session, "protected WeChat recipient digest is invalid"⟩

end DataProtector

/-- `derive_wechat_session_key`. -/
def wechatSessionKey (accountId senderRef : String) (conversationScopeHash : Canon) : Canon :=
  .sha256 <| .ofList [.text "tiangong.communication.wechat-session.v1", .text accountId,
    .text senderRef, conversationScopeHash]

/-- The context token of a session; the two columns of the token and its time are set together. -/
structure SessionContext where
  token : ProtectedText
  updatedAtMs : ℕ
  deriving DecidableEq

/-- A row of `session_state`. -/
structure SessionRow where
  sessionKey : Canon
  accountId : String
  senderRef : String
  conversationScopeHash : Canon
  recipient : ProtectedText
  lastSequence : Option ℕ
  lastReceivedAtMs : ℕ
  lastMessageRef : String
  context : Option SessionContext
  stateSha256 : Canon
  deriving DecidableEq

namespace SessionRow

/-- `_state_sha256`: a ciphertext enters it by its digest. -/
def computedSha256 (r : SessionRow) : Canon :=
  .sha256 <| .ofList
    [r.sessionKey, .text r.accountId, .text r.senderRef, r.conversationScopeHash,
      .sha256 r.recipient.cipher, r.recipient.sha256, .option .num r.lastSequence,
      .num r.lastReceivedAtMs, .text r.lastMessageRef,
      .option (fun context => .sha256 context.token.cipher) r.context,
      .option (fun context => context.token.sha256) r.context,
      .option (fun context => .num context.updatedAtMs) r.context]

/-- `DO UPDATE SET` of every column but the key. -/
def overwrittenBy (row r : SessionRow) : SessionRow := { row with sessionKey := r.sessionKey }

lemma sessionKey_overwrittenBy (row r : SessionRow) :
    (row.overwrittenBy r).sessionKey = r.sessionKey := rfl

end SessionRow

/-- A row of `message_decision`. -/
structure DecisionRow where
  messageRef : String
  sessionKey : Canon
  messageFingerprint : Canon
  envelopeSha256 : Canon
  decision : WechatSessionDecision
  decisionSha256 : Canon
  context : Option ProtectedText
  createdAtMs : ℕ
  deriving DecidableEq

structure WechatSessions where
  sessions : Table SessionRow.sessionKey
  decisions : Table DecisionRow.messageRef

/-- The arguments of `decide`, and the seed of the protection during the call. -/
structure WechatMessage where
  accountId : String
  senderRef : String
  conversationScopeHash : Canon
  messageRef : String
  messageFingerprint : Canon
  envelopeSha256 : Canon
  preliminaryClassification : WechatClassification
  recipientUserId : PyStr
  sequence : Option ℕ
  receivedAtMs : ℕ
  incomingContextToken : Option PyStr
  maxCachedTokenAgeMs : ℕ
  seed : ℕ
  deriving DecidableEq

namespace WechatMessage

def sessionKey (m : WechatMessage) : Canon :=
  wechatSessionKey m.accountId m.senderRef m.conversationScopeHash

/-- The incoming token; an empty one is none. -/
def incoming (m : WechatMessage) : Option PyStr := m.incomingContextToken.filter (· ≠ [])

def classify (m : WechatMessage) (state : Option SessionRow) : WechatClassification :=
  if m.preliminaryClassification = .accepted then
    match state, m.sequence with
    | some row, some sequence =>
      if row.lastSequence.any (sequence < ·) then .outOfOrder
      else if row.lastSequence = some sequence ∧ m.messageRef ≠ row.lastMessageRef then
        .sequenceConflict
      else .accepted
    | _, _ => .accepted
  else m.preliminaryClassification

/-- The cached token of the session, while it is young enough. -/
def cached (m : WechatMessage) (state : Option SessionRow) : Option ProtectedText :=
  ((state.bind (·.context)).filter fun context =>
    m.receivedAtMs ≤ context.updatedAtMs + m.maxCachedTokenAgeMs).map (·.token)

end WechatMessage

namespace WechatSessions

def empty : WechatSessions := ⟨.empty, .empty⟩

/-- The token that an accepted message is answered with, and where it comes from. -/
def contextToken (p : DataProtector) (m : WechatMessage) (state : Option SessionRow)
    (classification : WechatClassification) :
    Except SessionError (Option PyStr × ContextTokenSource) :=
  if classification = .accepted then
    match m.incoming, m.cached state with
    | some token, _ => .ok (some token, .incoming)
    | none, some token =>
      (p.unprotectToken token m.sessionKey none).map fun token => (some token, .cache)
    | none, none => .ok (none, .missing)
  else .ok (none, .notApplicable)

def protectDecision (p : DataProtector) (m : WechatMessage) (token : Option PyStr) :
    Except SessionError (Option ProtectedText) :=
  match token with
  | none => .ok none
  | some token => (p.protectToken m.seed token m.sessionKey (some m.messageRef)).map some

def readToken (p : DataProtector) (row : DecisionRow) (m : WechatMessage) :
    Except SessionError (Option PyStr) :=
  match row.context with
  | none => .ok none
  | some token => (p.unprotectToken token m.sessionKey (some m.messageRef)).map some

/-- The answer to a message that is decided already. -/
def replay (p : DataProtector) (m : WechatMessage) (row : DecisionRow) :
    Except SessionError WechatSessionResult := do
  rejectIf (row.messageFingerprint ≠ m.messageFingerprint ∨
    row.envelopeSha256 ≠ m.envelopeSha256 ∨ row.sessionKey ≠ m.sessionKey)
    ⟨.conflict, "WeChat message identity was rebound"⟩
  rejectIf (row.decision.hasValidSha256 = false ∨ row.decision.decisionSha256 ≠ row.decisionSha256)
    ⟨.session, "stored WeChat decision is corrupt"⟩
  let token ← readToken p row m
  pure ⟨row.decision.repeated, token⟩

/-- The recipient of a session never changes. -/
def checkRecipient (p : DataProtector) (m : WechatMessage) (state : Option SessionRow)
    (recipient : ProtectedText) : Except SessionError Unit :=
  match state with
  | none => .ok ()
  | some row => do
    rejectIf (row.recipient.sha256 ≠ recipient.sha256)
      ⟨.conflict, "WeChat session recipient changed"⟩
    let stored ← p.unprotectRecipient row.recipient m.sessionKey
    rejectIf (stored ≠ m.recipientUserId) ⟨.conflict, "WeChat session recipient changed"⟩

/-- The context of the session after an accepted message. -/
def nextContext (p : DataProtector) (m : WechatMessage) (state : Option SessionRow) :
    Except SessionError (Option SessionContext) :=
  match m.incoming with
  | none => .ok (state.bind (·.context))
  | some token => (p.protectToken m.seed token m.sessionKey none).map fun token =>
      some ⟨token, m.receivedAtMs⟩

/-- `INSERT … ON CONFLICT DO UPDATE`. -/
def putSession (row : SessionRow) (sessions : Table SessionRow.sessionKey) :
    Except SessionError (Table SessionRow.sessionKey) :=
  match sessions.find row.sessionKey with
  | none => sessions.insert ⟨.integrity, "session_state.session_key"⟩ row
  | some _ => .ok (sessions.update (fun r => r.sessionKey = row.sessionKey) row.overwrittenBy
      row.sessionKey_overwrittenBy)

/-- The row of the session after an accepted message, without its digest. -/
def nextFields (m : WechatMessage) (recipient : ProtectedText) (context : Option SessionContext) :
    SessionRow where
  sessionKey := m.sessionKey
  accountId := m.accountId
  senderRef := m.senderRef
  conversationScopeHash := m.conversationScopeHash
  recipient := recipient
  lastSequence := m.sequence
  lastReceivedAtMs := m.receivedAtMs
  lastMessageRef := m.messageRef
  context := context
  stateSha256 := .null

def nextRow (m : WechatMessage) (recipient : ProtectedText) (context : Option SessionContext) :
    SessionRow :=
  { nextFields m recipient context with
    stateSha256 := (nextFields m recipient context).computedSha256 }

/-- The session moves on to an accepted message. -/
def advance (p : DataProtector) (m : WechatMessage) (s : WechatSessions) :
    Except SessionError (Table SessionRow.sessionKey) := do
  let state := s.sessions.find m.sessionKey
  let recipient ← p.protectRecipient m.seed m.recipientUserId m.sessionKey
  checkRecipient p m state recipient
  let context ← nextContext p m state
  putSession (nextRow m recipient context) s.sessions

/-- The decision about a new message. -/
def decisionOf (m : WechatMessage) (classification : WechatClassification)
    (source : ContextTokenSource) (context : Option ProtectedText) : WechatSessionDecision :=
  WechatSessionDecision.withComputedSha256
    { messageRef := m.messageRef
      sessionKey := m.sessionKey
      classification
      shouldForward := classification = .accepted
      duplicate := false
      sequence := m.sequence
      contextTokenSource := source
      contextTokenSha256 := context.map (·.sha256)
      decidedAtMs := m.receivedAtMs
      decisionSha256 := .null }

def decideNew (p : DataProtector) (m : WechatMessage) (s : WechatSessions) :
    Except SessionError (WechatSessionResult × WechatSessions) := do
  let state := s.sessions.find m.sessionKey
  let classification := m.classify state
  let (token, source) ← contextToken p m state classification
  let context ← protectDecision p m token
  let decision := decisionOf m classification source context
  let decisions ← s.decisions.insert ⟨.integrity, "message_decision.message_ref"⟩
    ⟨m.messageRef, m.sessionKey, m.messageFingerprint, m.envelopeSha256, decision,
      decision.decisionSha256, context, m.receivedAtMs⟩
  if classification = .accepted then
    let sessions ← s.advance p m
    pure (⟨decision, token⟩, ⟨sessions, decisions⟩)
  else pure (⟨decision, token⟩, { s with decisions })

def decide (p : DataProtector) (m : WechatMessage) (s : WechatSessions) :
    Except SessionError (WechatSessionResult × WechatSessions) := do
  rejectIf (m.maxCachedTokenAgeMs < 1) ⟨.value, "WeChat session decision timing is invalid"⟩
  match s.decisions.find m.messageRef with
  | some row =>
    let result ← replay p m row
    pure (result, s)
  | none => s.decideNew p m

/-- The ledger under its messages; a call that raises rolls its transaction back. -/
def machine (p : DataProtector) :
    Machine WechatSessions WechatMessage (Except SessionError WechatSessionResult) where
  step s m := committed s (fun result => result) (s.decide p m)

end WechatSessions

end Tiangong.Communication
