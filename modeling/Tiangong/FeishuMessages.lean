import Tiangong.FeishuRoutes

/-!
# Message events of Feishu

What the processor reads off a raw event: the identifiers of the message and its route, the text
and the resources of its content, whom it mentions, and how a policy classifies it.
-/
namespace Tiangong.Communication

open PlatformJson (get loads)

abbrev JsonFields := List (PyStr × PlatformJson)

structure FeishuInboundPolicy where
  tenantId : PyStr
  linkAccountId : PyStr
  appId : PyStr
  platformTenantKey : PyStr
  botOpenIds : List PyStr
  allowedSenderIds : List PyStr
  allowP2p : Bool
  allowGroups : Bool
  groupRequiresMention : Bool

structure FeishuEventRecord where
  rawPayloadObjectId : Canon
  rawPayloadSha256 : Canon
  rawPayloadSizeBytes : ℕ
  signatureVerified : Bool
  appIdVerified : Bool
  capturedAtMs : ℕ
  persistedAtMs : ℕ

structure FeishuEventResource where
  resourceType : FeishuResourceType
  resourceKey : PyStr
  filename : Option PyStr
  deriving DecidableEq

abbrev FeishuEventResource.identity (r : FeishuEventResource) : FeishuResourceType × PyStr :=
  (r.resourceType, r.resourceKey)

def inboundError (message : String) : ChannelError := ⟨.inbound, message⟩

/-- `_string`: the text of a field, without blanks around it. -/
def feishuString (fields : JsonFields) (key : String) (limit : ℕ) : Except ChannelError PyStr :=
  match get fields (py key) with
  | .null => .ok []
  | .text value =>
    if value.strip.hasNul then .error (inboundError s!"Feishu field {key} is invalid")
    else if ¬ value.strip.Encodable then .error ⟨.unicodeEncode, "surrogates not allowed"⟩
    else if limit < value.strip.utf8Length then
      .error (inboundError s!"Feishu field {key} is invalid")
    else .ok value.strip
  | _ => .error (inboundError s!"Feishu field {key} is invalid")

/-- The default limit of `_string`. -/
def fieldLimit : ℕ := 2048

/-- `value or None`. -/
def orNone (value : PyStr) : Option PyStr := if value = [] then none else some value

def requireMapping (v : PlatformJson) (error : ChannelError) : Except ChannelError JsonFields :=
  match v with
  | .object fields => .ok fields
  | _ => .error error

/-- The first non-empty text of a list of fields. -/
def firstString (fields : JsonFields) : List String → Except ChannelError PyStr
  | [] => .ok []
  | key :: keys => do
    let value ← feishuString fields key fieldLimit
    if value = [] then firstString fields keys else .ok value

def identifierKeys : List String := ["open_id", "user_id", "union_id"]

def mentionIdentifier (mention : JsonFields) : Except ChannelError PyStr :=
  match get mention (py "id") with
  | .object rawId => firstString rawId identifierKeys
  | .null => firstString mention identifierKeys
  | _ => do
    let identifier ← feishuString mention "id" fieldLimit
    if identifier = [] then firstString mention identifierKeys else .ok identifier

/-- `_content_json`. A repeated key and a malformed text are the same error. -/
def contentJson (interpreter : Interpreter) (message : JsonFields) :
    Except ChannelError JsonFields :=
  match message.lookup (py "content") with
  | none => .ok []
  | some (.text raw) => do
    rejectIf (¬ raw.Encodable) ⟨.unicodeEncode, "surrogates not allowed"⟩
    rejectIf (1048576 < raw.utf8Length) (inboundError "Feishu message content is invalid")
    match loads interpreter (if raw = [] then py "\x7b\x7d" else raw) with
    | .ok v => requireMapping v (inboundError "Feishu message content must be an object")
    | .error .recursion => .error ⟨.recursion, "maximum recursion depth exceeded"⟩
    | .error _ => .error (inboundError "Feishu message content JSON is invalid")
  | some _ => .error (inboundError "Feishu message content is invalid")

def contentLocale (content : JsonFields) : JsonFields :=
  ([py "zh_cn", py "en_us", py "ja_jp"].findSome? fun key =>
    match get content key with
    | .object locale => some locale
    | _ => none).getD content

/-- `str` of a tag; containers cannot be looked up in a set. -/
def tagText (interpreter : Interpreter) : PlatformJson → Except ChannelError PyStr
  | .null => .ok (py "None")
  | .flag true => .ok (py "True")
  | .flag false => .ok (py "False")
  | .int value => .ok (py (toString value))
  | .real literal => .ok (interpreter.floatText literal)
  | .text tag => .ok tag
  | .array _ => .error ⟨.type, "unhashable type: 'list'"⟩
  | .object _ => .error ⟨.type, "unhashable type: 'dict'"⟩

/-- The text of a node and the user it mentions. -/
def richNode (interpreter : Interpreter) (node : JsonFields) :
    Except ChannelError (PyStr × List PyStr) := do
  let tag := get node (py "tag")
  let shown ← tagText interpreter tag
  match tag with
  | .null => pure ([], [])
  | .text name =>
    if name = py "text" ∨ name = py "a" then
      match node.lookup (py "text") with
      | none => pure ([], [])
      | some (.text value) => pure (value, [])
      | some _ => .error (inboundError "Feishu post text node is invalid")
    else if name = py "at" then
      let user := match get node (py "user_name") with
        | .text value => if value = [] then py "用户" else value
        | _ => py "用户"
      let mentions := match get node (py "user_id") with
        | .text id => if id = [] then [] else [id]
        | _ => []
      pure (CodePoint.ofChar '@' :: user, mentions)
    else if name = py "img" ∨ name = py "media" then pure (py "[附件]", [])
    else if name = py "emotion" then pure (py "[表情]", [])
    else if name = py "hr" then pure (py "---", [])
    else pure (py "[" ++ shown.take 32 ++ py "]", [])
  | _ => pure (py "[" ++ shown.take 32 ++ py "]", [])

/-- The nodes of a line, with the number of nodes read so far. -/
def richLine (interpreter : Interpreter) :
    ℕ → List PlatformJson → Except ChannelError (PyStr × List PyStr × ℕ)
  | count, [] => .ok ([], [], count)
  | count, node :: nodes => do
    rejectIf (10000 < count + 1) (inboundError "Feishu post is too complex")
    let node ← requireMapping node (inboundError "Feishu post is too complex")
    let (piece, mentioned) ← richNode interpreter node
    let (pieces, mentions, total) ← richLine interpreter (count + 1) nodes
    pure (piece ++ pieces, mentioned ++ mentions, total)

def richLines (interpreter : Interpreter) :
    ℕ → List PlatformJson → Except ChannelError (List PyStr × List PyStr)
  | _, [] => .ok ([], [])
  | count, block :: blocks => do
    let nodes ← match block with
      | .array nodes => .ok nodes
      | _ => .error (inboundError "Feishu post line is invalid")
    rejectIf (1000 < nodes.length) (inboundError "Feishu post line is invalid")
    let (line, mentioned, count) ← richLine interpreter count nodes
    let (lines, mentions) ← richLines interpreter count blocks
    pure (if line.strip = [] then lines else line.strip :: lines, mentioned ++ mentions)

/-- The title of a post; it may be missing. -/
def richTitle (locale : JsonFields) : Except ChannelError (List PyStr) :=
  match get locale (py "title") with
  | .null => .ok []
  | .text title => .ok (if title.strip = [] then [] else [title.strip])
  | _ => .error (inboundError "Feishu post title is invalid")

def richBlocks (locale : JsonFields) : Except ChannelError (List PlatformJson) :=
  match locale.lookup (py "content") with
  | none => .ok []
  | some (.array blocks) =>
    if 1000 < blocks.length then .error (inboundError "Feishu post blocks are invalid")
    else .ok blocks
  | some _ => .error (inboundError "Feishu post blocks are invalid")

def richText (interpreter : Interpreter) (content : JsonFields) :
    Except ChannelError (PyStr × List PyStr) := do
  let locale := contentLocale content
  let title ← richTitle locale
  let blocks ← richBlocks locale
  let (lines, mentions) ← richLines interpreter 0 blocks
  let text := (PyStr.join (py "\n") (title ++ lines)).strip
  rejectIf (100000 < text.length) (inboundError "Feishu post text is too large")
  pure (text, mentions)

def extractFeishuText (interpreter : Interpreter) (messageType : PyStr) (content : JsonFields) :
    Except ChannelError (PyStr × List PyStr) :=
  if messageType = py "text" then
    match content.lookup (py "text") with
    | none => .ok ([], [])
    | some (.text text) =>
      if 100000 < text.strip.length then .error (inboundError "Feishu text is too large")
      else .ok (text.strip, [])
    | some _ => .error (inboundError "Feishu text content is invalid")
  else if messageType = py "post" then richText interpreter content
  else .ok ([], [])

def nodeResource (node : PlatformJson) : Except ChannelError (Option FeishuEventResource) :=
  match node with
  | .object fields => do
    let kind : Option (FeishuResourceType × String) := match get fields (py "tag") with
      | .text tag =>
        if tag = py "img" then some (.image, "image_key")
        else if tag = py "media" then some (.file, "file_key") else none
      | _ => none
    match kind with
    | none => pure none
    | some (resourceType, keyName) => do
      let resourceKey ← feishuString fields keyName fieldLimit
      if resourceKey = [] then pure none
      else pure (some ⟨resourceType, resourceKey, none⟩)
  | _ => .ok none

/-- A post's resources in the order of their first occurrence, which names the file. -/
def collectResources :
    List FeishuEventResource → List PlatformJson → Except ChannelError (List FeishuEventResource)
  | found, [] => .ok found
  | found, node :: nodes => do
    match ← nodeResource node, node with
    | some resource, .object fields =>
      if resource.identity ∈ found.map (·.identity) then collectResources found nodes
      else
        let filename ← feishuString fields "file_name" fieldLimit
        rejectIf (20 < found.length + 1) (inboundError "Feishu post has too many resources")
        collectResources (found ++ [{ resource with filename := orNone filename }]) nodes
    | _, _ => collectResources found nodes

def resourceNodes (content : JsonFields) : List PlatformJson :=
  match get (contentLocale content) (py "content") with
  | .array blocks => blocks.flatMap fun
    | .array nodes => nodes
    | _ => []
  | _ => []

def extractFeishuResources (messageType : PyStr) (content : JsonFields) :
    Except ChannelError (List FeishuEventResource) :=
  if messageType = py "image" then do
    let key ← feishuString content "image_key" fieldLimit
    rejectIf (key = []) (inboundError "Feishu image key is missing")
    pure [⟨.image, key, none⟩]
  else if messageType = py "file" then do
    let key ← feishuString content "file_key" fieldLimit
    let filename ← feishuString content "file_name" fieldLimit
    rejectIf (key = [] ∨ filename = []) (inboundError "Feishu file identity is missing")
    pure [⟨.file, key, some filename⟩]
  else if messageType = py "post" then collectResources [] (resourceNodes content)
  else .ok []

inductive FeishuChatType where
  | p2p | group
  deriving DecidableEq, Repr

structure FeishuMessage where
  eventId : PyStr
  senderOpenId : PyStr
  senderIdentity : PyStr
  senderType : PyStr
  messageId : PyStr
  chatId : PyStr
  chatType : FeishuChatType
  messageType : PyStr
  rootId : Option PyStr
  parentId : Option PyStr
  threadId : Option PyStr
  text : PyStr
  resources : List FeishuEventResource
  mentionIds : List PyStr

/-- `mentions or ()`. -/
def mentionItems (message : JsonFields) : Except ChannelError (List PlatformJson) :=
  match get message (py "mentions") with
  | .null | .flag false | .int 0 | .text [] | .object [] => .ok []
  | .array mentions => .ok mentions
  | _ => .error (inboundError "Feishu mentions are invalid")

def readMention (mention : PlatformJson) : Except ChannelError PyStr := do
  let fields ← requireMapping mention (inboundError "Feishu mention is invalid")
  mentionIdentifier fields

def readHeader (header : JsonFields) (policy : FeishuInboundPolicy) :
    Except ChannelError PyStr := do
  let eventId ← feishuString header "event_id" fieldLimit
  let eventType ← feishuString header "event_type" fieldLimit
  let appId ← feishuString header "app_id" 256
  let tenantKey ← feishuString header "tenant_key" 512
  rejectIf (eventId = [] ∨ eventType ≠ py "im.message.receive_v1" ∨ appId ≠ policy.appId ∨
      tenantKey ≠ policy.platformTenantKey)
    (inboundError "Feishu event identity or tenant is invalid")
  pure eventId

def readChatType (chatType : PyStr) : Option FeishuChatType :=
  if chatType = py "p2p" then some .p2p else if chatType = py "group" then some .group else none

/-- The part of `process` that reads the event. -/
def readMessage (interpreter : Interpreter) (rawEvent : JsonFields)
    (policy : FeishuInboundPolicy) : Except ChannelError FeishuMessage := do
  let header ← requireMapping (get rawEvent (py "header"))
    (inboundError "Feishu event envelope is invalid")
  let event ← requireMapping (get rawEvent (py "event"))
    (inboundError "Feishu event envelope is invalid")
  let eventId ← readHeader header policy
  let sender ← requireMapping (get event (py "sender"))
    (inboundError "Feishu sender or message is missing")
  let message ← requireMapping (get event (py "message"))
    (inboundError "Feishu sender or message is missing")
  let senderId ← requireMapping (get sender (py "sender_id"))
    (inboundError "Feishu sender identity is invalid")
  let openId ← feishuString senderId "open_id" fieldLimit
  let userId ← feishuString senderId "user_id" fieldLimit
  let unionId ← feishuString senderId "union_id" fieldLimit
  let senderIdentity := if openId ≠ [] then openId else if userId ≠ [] then userId else unionId
  rejectIf (senderIdentity = []) (inboundError "Feishu sender identity is missing")
  let senderType ← feishuString sender "sender_type" 64
  let messageId ← feishuString message "message_id" fieldLimit
  let chatId ← feishuString message "chat_id" fieldLimit
  let chatTypeText ← feishuString message "chat_type" 64
  let messageType ← feishuString message "message_type" 64
  let rootId ← feishuString message "root_id" fieldLimit
  let parentId ← feishuString message "parent_id" fieldLimit
  let threadId ← feishuString message "thread_id" fieldLimit
  rejectIf (messageId = [] ∨ chatId = []) (inboundError "Feishu message route is invalid")
  let chatType ← required (readChatType chatTypeText)
    (inboundError "Feishu message route is invalid")
  let content ← contentJson interpreter message
  let (text, richMentions) ← extractFeishuText interpreter messageType content
  let resources ← extractFeishuResources messageType content
  let mentions ← mentionItems message
  let identifiers ← mentions.mapM readMention
  pure ⟨eventId, openId, senderIdentity, senderType, messageId, chatId, chatType, messageType,
    orNone rootId, orNone parentId, orNone threadId, text, resources,
    richMentions ++ identifiers.filter (· ≠ [])⟩

inductive FeishuClassification where
  | accepted | selfMessage | unexpectedSender | p2pDisabled | groupDisabled | groupMentionRequired
  | attachmentPending | attachmentRejected | unsupportedMessageType | emptyText
  deriving DecidableEq, Repr

namespace FeishuClassification

def text : FeishuClassification → String
  | .accepted => "ACCEPTED"
  | .selfMessage => "SELF_MESSAGE"
  | .unexpectedSender => "UNEXPECTED_SENDER"
  | .p2pDisabled => "P2P_DISABLED"
  | .groupDisabled => "GROUP_DISABLED"
  | .groupMentionRequired => "GROUP_MENTION_REQUIRED"
  | .attachmentPending => "ATTACHMENT_PENDING"
  | .attachmentRejected => "ATTACHMENT_REJECTED"
  | .unsupportedMessageType => "UNSUPPORTED_MESSAGE_TYPE"
  | .emptyText => "EMPTY_TEXT"

/-- The classifications under which the route and the resources are kept. -/
def keepsRoute : FeishuClassification → Bool
  | .accepted | .attachmentPending | .unsupportedMessageType | .emptyText => true
  | _ => false

end FeishuClassification

namespace FeishuMessage

def mentionedBot (m : FeishuMessage) (policy : FeishuInboundPolicy) : Bool :=
  m.mentionIds.any fun id => policy.botOpenIds.contains id

/-- The classification before any attachment is loaded. -/
def classify (m : FeishuMessage) (policy : FeishuInboundPolicy) : FeishuClassification :=
  if m.senderType = py "app" ∨ m.senderType = py "bot" ∨
      m.senderIdentity ∈ policy.botOpenIds then .selfMessage
  else if policy.allowedSenderIds ≠ [] ∧ m.senderIdentity ∉ policy.allowedSenderIds then
    .unexpectedSender
  else if m.chatType = .p2p ∧ policy.allowP2p = false then .p2pDisabled
  else if m.chatType = .group ∧ policy.allowGroups = false then .groupDisabled
  else if m.chatType = .group ∧ policy.groupRequiresMention = true ∧
      m.mentionedBot policy = false then .groupMentionRequired
  else if m.resources ≠ [] then .attachmentPending
  else if m.messageType ≠ py "text" ∧ m.messageType ≠ py "post" then .unsupportedMessageType
  else if m.text = [] then .emptyText
  else .accepted

end FeishuMessage

section Classify

variable {m : FeishuMessage} {policy : FeishuInboundPolicy}

theorem text_of_classify_accepted (h : m.classify policy = .accepted) :
    m.text ≠ [] ∧ m.resources = [] := by
  unfold FeishuMessage.classify at h
  split at h; · cases h
  split at h; · cases h
  split at h; · cases h
  split at h; · cases h
  split at h; · cases h
  split at h; · cases h
  next hresources =>
    split at h; · cases h
    split at h; · cases h
    next htext => exact ⟨htext, not_not.mp hresources⟩

theorem resources_of_classify_pending (h : m.classify policy = .attachmentPending) :
    m.resources ≠ [] := by
  unfold FeishuMessage.classify at h
  split at h; · cases h
  split at h; · cases h
  split at h; · cases h
  split at h; · cases h
  split at h; · cases h
  split at h
  · assumption
  · split at h
    · cases h
    · split at h <;> cases h

/-- A message with resources whose route is kept waits for its attachments. -/
theorem classify_of_resources (hkeeps : (m.classify policy).keepsRoute = true)
    (hresources : m.resources ≠ []) : m.classify policy = .attachmentPending := by
  unfold FeishuMessage.classify at hkeeps ⊢
  split at hkeeps; · cases hkeeps
  split at hkeeps; · cases hkeeps
  split at hkeeps; · cases hkeeps
  split at hkeeps; · cases hkeeps
  split at hkeeps; · cases hkeeps
  next hself hsender hp2p hgroup hmention =>
    rw [if_neg hself, if_neg hsender, if_neg hp2p, if_neg hgroup, if_neg hmention,
      if_pos hresources]

end Classify

end Tiangong.Communication
