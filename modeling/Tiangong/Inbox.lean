import Tiangong.CanonOrder
import Tiangong.ChannelContracts

/-!
# The inbox of the communication service

An inbound event is committed together with the cursor of its stream before anyone may acknowledge
it. A commit of the same ingress is a duplicate; other content under the same identity, or another
previous cursor than the stream's, is refused.
-/
open List

namespace Tiangong.Communication

inductive InboxState where
  | ackEligible | acked
  deriving DecidableEq, Repr

/-- A row of `inbox_records`. Its other columns are read off the ingress. -/
structure InboxRecord where
  ingress : InboxIngress
  state : InboxState
  persistedAtMs : ℕ
  deriving DecidableEq

abbrev InboxRecord.ingressId (r : InboxRecord) : Canon := r.ingress.ingressId

/-- A row of `cursor_state`. -/
structure CursorRow where
  cursorStreamKey : Canon
  channel : InboundChannel
  tenantId : OpaqueId
  linkAccountId : OpaqueId
  cursorToken : CursorToken
  cursorSha256 : Canon
  revision : ℕ
  updatedAtMs : ℕ
  lastIngressId : Canon
  deriving DecidableEq

/-- A row of `ack_permits`: the permit, and the platform's receipt with its time. -/
structure PermitRow where
  permit : ChannelAckPermit
  receipt : Option (Canon × ℕ)
  deriving DecidableEq

abbrev PermitRow.permitId (p : PermitRow) : Canon := p.permit.permitId

def InboxRecord.acknowledged (r : InboxRecord) : InboxRecord := { r with state := .acked }

theorem InboxRecord.ingressId_acknowledged (r : InboxRecord) :
    r.acknowledged.ingressId = r.ingressId := rfl

/-- The row of a stream with the columns of another. -/
def CursorRow.rewritten (row r : CursorRow) : CursorRow :=
  { row with cursorStreamKey := r.cursorStreamKey }

lemma CursorRow.cursorStreamKey_rewritten (row r : CursorRow) :
    (row.rewritten r).cursorStreamKey = r.cursorStreamKey := rfl

def PermitRow.received (receipt : Canon) (atMs : ℕ) (p : PermitRow) : PermitRow :=
  { p with receipt := some (receipt, atMs) }

theorem PermitRow.permitId_received (receipt : Canon) (atMs : ℕ) (p : PermitRow) :
    (p.received receipt atMs).permitId = p.permitId := rfl

structure Inbox where
  records : Table InboxRecord.ingressId
  cursors : Table CursorRow.cursorStreamKey
  permits : Table PermitRow.permitId

structure InboxPersistResult where
  permit : ChannelAckPermit
  persistedByThisCall : Bool
  duplicate : Bool
  deriving DecidableEq

structure PendingInboxDelivery where
  ingress : InboxIngress
  permit : ChannelAckPermit
  deriving DecidableEq

namespace Inbox

def empty : Inbox := ⟨.empty, .empty, .empty⟩

def getIngress (ingressId : Canon) (s : Inbox) : Option InboxIngress :=
  (s.records.find ingressId).map (·.ingress)

def getCursor (cursorStreamKey : Canon) (s : Inbox) : Option CursorRow :=
  s.cursors.find cursorStreamKey

def permitRowFor (ingressId : Canon) (s : Inbox) : Option PermitRow :=
  s.permits.rows.find? fun p => p.permit.ingressId = ingressId

def permitForIngress (ingressId : Canon) (s : Inbox) : Except ChannelError ChannelAckPermit := do
  let row ← required (s.permitRowFor ingressId)
    ⟨.inboxCorruption, "durable inbox record has no ACK permit"⟩
  pure row.permit

def ackPermitReceipt (permitId : Canon) (s : Inbox) : Except ChannelError (Option Canon) := do
  let row ← required (s.permits.find permitId)
    ⟨.inboxConflict, "ACK permit does not exist"⟩
  pure (row.receipt.map (·.1))

/-- The order in which pending deliveries are listed. -/
def dispatchedBefore (r r' : InboxRecord) : Bool :=
  r.persistedAtMs < r'.persistedAtMs ||
    (r.persistedAtMs = r'.persistedAtMs && r.ingressId ≤ r'.ingressId)

def pendingDelivery (channel : InboundChannel) (tenantId linkAccountId : OpaqueId) (s : Inbox)
    (r : InboxRecord) : Option PendingInboxDelivery :=
  match s.permitRowFor r.ingressId with
  | none => none
  | some row =>
    if r.ingress.scope.channel = channel ∧ r.ingress.scope.tenantId = tenantId ∧
        r.ingress.scope.linkAccountId = linkAccountId ∧ r.state = .ackEligible ∧
        row.receipt = none then
      some ⟨r.ingress, row.permit⟩
    else none

/-- `list_unacknowledged`. -/
def listUnacknowledgedUpTo (limit : ℕ) (channel : InboundChannel)
    (tenantId linkAccountId : OpaqueId) (s : Inbox) : List PendingInboxDelivery :=
  let pending := (orderBy dispatchedBefore s.records.rows).filterMap
    (s.pendingDelivery channel tenantId linkAccountId)
  pending.take limit

def listUnacknowledged (channel : InboundChannel) (tenantId linkAccountId : OpaqueId) (s : Inbox) :
    List PendingInboxDelivery :=
  s.listUnacknowledgedUpTo 1000 channel tenantId linkAccountId

/-- The three identities of an ingress that the inbox keeps unique. -/
def sameIdentity (i i' : InboxIngress) : Bool :=
  i.ingressId = i'.ingressId || i.scope.idempotencyKey = i'.scope.idempotencyKey ||
    (i.scope.channel = i'.scope.channel && i.scope.tenantId = i'.scope.tenantId &&
      i.scope.linkAccountId = i'.scope.linkAccountId &&
      i.scope.channelMessageRef = i'.scope.channelMessageRef)

/-- The compare-and-set of a stream's cursor: the revision that the ingress gets. -/
def nextRevision (ingress : InboxIngress) (cursor : Option CursorRow) : Except ChannelError ℕ :=
  match cursor with
  | none =>
    if ingress.1.previousCursorSha256 ≠ none then
      .error ⟨.cursorConflict, "cursor stream is missing its claimed previous cursor"⟩
    else .ok 1
  | some row =>
    if ingress.1.previousCursorSha256 ≠ some row.cursorSha256 then
      .error ⟨.cursorConflict, "cursor compare-and-set failed"⟩
    else .ok (row.revision + 1)

def issuePermit (ingress : InboxIngress) (cursorRevision persistedAtMs : ℕ) : ChannelAckPermit where
  permitId := .ident "ack_" <| .ofList [.text "tiangong.communication.ack-permit.v1",
    ingress.ingressSha256, .num cursorRevision, ingress.nextCursorSha256]
  ingressId := ingress.ingressId
  idempotencyKey := ingress.scope.idempotencyKey
  channel := ingress.scope.channel
  tenantId := ingress.scope.tenantId
  linkAccountId := ingress.scope.linkAccountId
  channelMessageRef := ingress.scope.channelMessageRef
  cursorStreamKey := ingress.cursorStreamKey
  cursorRevision := cursorRevision
  nextCursorSha256 := ingress.nextCursorSha256
  inboxRecordSha256 := ingress.ingressSha256
  persistedAtMs := persistedAtMs
  issuedAtMs := persistedAtMs

def cursorRow (ingress : InboxIngress) (cursorRevision persistedAtMs : ℕ) : CursorRow where
  cursorStreamKey := ingress.cursorStreamKey
  channel := ingress.scope.channel
  tenantId := ingress.scope.tenantId
  linkAccountId := ingress.scope.linkAccountId
  cursorToken := ingress.1.nextCursorToken
  cursorSha256 := ingress.nextCursorSha256
  revision := cursorRevision
  updatedAtMs := persistedAtMs
  lastIngressId := ingress.ingressId

/-- The cursor's row after a commit: inserted, or rewritten under its revision and digest. -/
def writeCursor (row : CursorRow) (cursors : Table CursorRow.cursorStreamKey) :
    Except ChannelError (Table CursorRow.cursorStreamKey) :=
  match cursors.find row.cursorStreamKey with
  | none => cursors.insert ⟨.integrity, "cursor_state.cursor_stream_key"⟩ row
  | some _ => .ok <| cursors.update (fun r => r.cursorStreamKey = row.cursorStreamKey) row.rewritten
      row.cursorStreamKey_rewritten

def persistAndAdvanceCursor (ingress : InboxIngress) (persistedAtMs : ℕ) (s : Inbox) :
    Except ChannelError (InboxPersistResult × Inbox) := do
  rejectIf (persistedAtMs < ingress.1.capturedAtMs)
    ⟨.value, "inbox ingress digest or persistence time is invalid"⟩
  match s.records.rows.filter fun r => sameIdentity r.ingress ingress with
  | row :: others =>
    rejectIf (others ≠ [])
      ⟨.inboxCorruption, "inbox uniqueness keys point to different records"⟩
    rejectIf (row.ingress ≠ ingress)
      ⟨.inboxConflict, "inbound identity was reused with different content"⟩
    let permit ← s.permitForIngress row.ingressId
    pure (⟨permit, false, true⟩, s)
  | [] =>
    let revision ← nextRevision ingress (s.getCursor ingress.cursorStreamKey)
    let permit := issuePermit ingress revision persistedAtMs
    let records ← s.records.insert ⟨.integrity, "inbox_records.ingress_id"⟩
      ⟨ingress, .ackEligible, persistedAtMs⟩
    let cursors ← writeCursor (cursorRow ingress revision persistedAtMs) s.cursors
    rejectIf (s.permitRowFor ingress.ingressId).isSome ⟨.integrity, "ack_permits.ingress_id"⟩
    let permits ← s.permits.insert ⟨.integrity, "ack_permits.permit_id"⟩ ⟨permit, none⟩
    pure (⟨permit, true, false⟩, ⟨records, cursors, permits⟩)

def markAcknowledged (permitId platformReceiptSha256 : Canon) (acknowledgedAtMs : ℕ) (s : Inbox) :
    Except ChannelError (Bool × Inbox) := do
  let row ← required (s.permits.find permitId) ⟨.inboxConflict, "ACK permit does not exist"⟩
  rejectIf (acknowledgedAtMs < row.permit.issuedAtMs)
    ⟨.value, "platform ACK predates permit issuance"⟩
  match row.receipt with
  | some (receipt, _) =>
    rejectIf (receipt ≠ platformReceiptSha256)
      ⟨.ackConflict, "ACK permit was reused with a different receipt"⟩
    pure (false, s)
  | none =>
    let permits := s.permits.update (fun p => p.permitId = permitId && p.receipt = none)
      (PermitRow.received platformReceiptSha256 acknowledgedAtMs)
      (PermitRow.permitId_received platformReceiptSha256 acknowledgedAtMs)
    let records ← s.records.updateOne
      ⟨.inboxCorruption, "ACK permit and inbox state disagree"⟩
      (fun r => r.ingressId = row.permit.ingressId && r.state = .ackEligible)
      InboxRecord.acknowledged InboxRecord.ingressId_acknowledged
    pure (true, { s with records, permits })

variable {s s' : Inbox} {ingress : InboxIngress} {persistedAtMs : ℕ}

def Holds (s : Inbox) (ingress : InboxIngress) : Prop := ∃ r ∈ s.records.rows, r.ingress = ingress

theorem holds_of_getIngress {id : Canon} (h : s.getIngress id = some ingress) :
    s.Holds ingress ∧ ingress.ingressId = id := by
  obtain ⟨r, hr, rfl⟩ := Option.map_eq_some_iff.mp h
  have hkey : r.ingressId = id := Table.key_of_find hr
  exact ⟨⟨r, Table.mem_of_find hr, rfl⟩, hkey⟩

theorem getIngress_of_holds (h : s.Holds ingress) :
    s.getIngress ingress.ingressId = some ingress := by
  obtain ⟨r, hr, rfl⟩ := h
  rw [getIngress, Table.find_of_mem hr, Option.map_some]

theorem holds_of_listUnacknowledged {channel : InboundChannel} {tenantId linkAccountId : OpaqueId}
    {pending : PendingInboxDelivery}
    (h : pending ∈ s.listUnacknowledged channel tenantId linkAccountId) :
    s.Holds pending.ingress := by
  have hmem := mem_of_mem_take h
  obtain ⟨r, hr, hpending⟩ := mem_filterMap.mp hmem
  rw [mem_orderBy] at hr
  unfold pendingDelivery at hpending
  split at hpending
  · cases hpending
  · split at hpending
    · cases hpending
      exact ⟨r, hr, rfl⟩
    · cases hpending

/-- A commit that was a duplicate: the stored record is the ingress, and nothing changes. -/
structure Replayed (s : Inbox) (ingress : InboxIngress) (result : InboxPersistResult) : Prop where
  stored : s.Holds ingress
  permit : s.permitForIngress ingress.ingressId = .ok result.permit
  duplicate : result.duplicate = true

/-- A commit of a new ingress. -/
structure Persisted (s : Inbox) (ingress : InboxIngress) (persistedAtMs : ℕ)
    (result : InboxPersistResult) (s' : Inbox) : Prop where
  fresh : ∀ r ∈ s.records.rows, sameIdentity r.ingress ingress = false
  revision : nextRevision ingress (s.getCursor ingress.cursorStreamKey) =
    .ok result.permit.cursorRevision
  permit : result.permit = issuePermit ingress result.permit.cursorRevision persistedAtMs
  duplicate : result.duplicate = false
  records : s.records.Inserts ⟨ingress, .ackEligible, persistedAtMs⟩ s'.records
  cursors : writeCursor (cursorRow ingress result.permit.cursorRevision persistedAtMs) s.cursors =
    .ok s'.cursors
  permits : s.permits.Inserts ⟨result.permit, none⟩ s'.permits

variable {result : InboxPersistResult}

theorem persistAndAdvanceCursor_cases
    (h : persistAndAdvanceCursor ingress persistedAtMs s = .ok (result, s')) :
    (Replayed s ingress result ∧ s' = s) ∨ Persisted s ingress persistedAtMs result s' := by
  unfold persistAndAdvanceCursor at h
  simp only [eq_ok_iff] at h
  obtain ⟨-, h⟩ := h
  split at h
  · next row others hfilter =>
    simp only [eq_pair_iff, ne_eq, not_not] at h
    obtain ⟨-, rfl, permit, hpermit, rfl, rfl⟩ := h
    have hrow : row ∈ s.records.rows :=
      mem_of_mem_filter (hfilter ▸ mem_cons_self)
    exact .inl ⟨⟨⟨row, hrow, rfl⟩, hpermit, rfl⟩, rfl⟩
  · next hfilter =>
    simp only [eq_pair_iff, Table.insert_eq_ok] at h
    obtain ⟨revision, hrevision, records, hrecords, cursors, hcursors, -, permits, hpermits, rfl,
      rfl⟩ := h
    refine .inr ⟨fun r hr => ?_, hrevision, rfl, rfl, hrecords, hcursors, hpermits⟩
    exact Bool.eq_false_of_not_eq_true (filter_eq_nil_iff.mp hfilter r hr)

theorem Persisted.holds (h : Persisted s ingress persistedAtMs result s') {i : InboxIngress} :
    s'.Holds i ↔ s.Holds i ∨ i = ingress := by
  simp only [Holds, h.records.rows, mem_append, mem_singleton]
  constructor
  · rintro ⟨r, hr | rfl, rfl⟩
    · exact .inl ⟨r, hr, rfl⟩
    · exact .inr rfl
  · rintro (⟨r, hr, rfl⟩ | rfl)
    · exact ⟨r, .inl hr, rfl⟩
    · exact ⟨_, .inr rfl, rfl⟩

theorem sameIdentity_self (i : InboxIngress) : sameIdentity i i = true := by
  simp [sameIdentity]

/-- A commit of an ingress that is held changes nothing. -/
theorem persistAndAdvanceCursor_of_holds (hheld : s.Holds ingress)
    (h : persistAndAdvanceCursor ingress persistedAtMs s = .ok (result, s')) :
    s' = s ∧ result.duplicate = true := by
  rcases persistAndAdvanceCursor_cases h with ⟨hreplayed, hsame⟩ | hpersisted
  · exact ⟨hsame, hreplayed.duplicate⟩
  · obtain ⟨r, hr, rfl⟩ := hheld
    have hfresh := hpersisted.fresh r hr
    rw [sameIdentity_self] at hfresh
    cases hfresh

/-- An accepted commit leaves the ingress in the inbox. -/
theorem holds_of_persistAndAdvanceCursor
    (h : persistAndAdvanceCursor ingress persistedAtMs s = .ok (result, s')) :
    s'.Holds ingress := by
  rcases persistAndAdvanceCursor_cases h with ⟨hreplayed, rfl⟩ | hpersisted
  · exact hreplayed.stored
  · exact hpersisted.holds.mpr (.inr rfl)

/-- The number of records of an identifier. -/
def recordCount (ingressId : Canon) (s : Inbox) : ℕ :=
  s.records.rows.countP fun r => r.ingressId = ingressId

/-- An ingress that is held is held once. -/
theorem recordCount_of_holds (h : s.Holds ingress) : s.recordCount ingress.ingressId = 1 := by
  obtain ⟨r, hr, rfl⟩ := h
  have hfind := Table.find_of_mem hr
  have hone := @Table.countP_eq_one _ _ _ _ _ _ (fun _ => true) _ hfind rfl
  simpa [recordCount] using hone

/-- What an acknowledgement leaves alone: the ingresses, the cursors and the issued permits. -/
structure Acknowledged (s s' : Inbox) : Prop where
  ingresses : s'.records.rows.map (·.ingress) = s.records.rows.map (·.ingress)
  cursors : s'.cursors = s.cursors
  permits : s'.permits.rows.map (·.permit) = s.permits.rows.map (·.permit)

theorem markAcknowledged_acknowledged {permitId receipt : Canon} {atMs : ℕ} {isNew : Bool}
    (h : markAcknowledged permitId receipt atMs s = .ok (isNew, s')) : Acknowledged s s' := by
  unfold markAcknowledged at h
  simp only [eq_ok_iff] at h
  obtain ⟨row, -, -, h⟩ := h
  split at h
  · simp only [eq_pair_iff] at h
    obtain ⟨-, -, rfl⟩ := h
    exact ⟨rfl, rfl, rfl⟩
  · simp only [eq_pair_iff, Table.updateOne_eq_ok] at h
    obtain ⟨records, ⟨-, rfl⟩, -, rfl⟩ := h
    refine ⟨?_, rfl, ?_⟩
    · rw [Table.update_rows, map_map]
      exact map_congr_left fun r _ => by dsimp only [Function.comp_apply]; split <;> rfl
    · rw [Table.update_rows, map_map]
      exact map_congr_left fun p _ => by dsimp only [Function.comp_apply]; split <;> rfl

theorem Acknowledged.holds (h : Acknowledged s s') {i : InboxIngress} : s'.Holds i ↔ s.Holds i := by
  have hmem : ∀ t : Inbox, t.Holds i ↔ i ∈ t.records.rows.map (·.ingress) := fun t =>
    mem_map.symm
  rw [hmem, hmem, h.ingresses]

end Inbox

end Tiangong.Communication
