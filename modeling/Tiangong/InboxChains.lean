import Tiangong.Inbox
import Tiangong.LinkedLogs
import Tiangong.Machines

/-!
# The inbox as a log

Whatever ingresses are committed and whatever permits are acknowledged, in any order, the records of
a cursor stream stay one chain that ends at the cursor, and every record keeps its one permit.
-/
namespace Tiangong.Communication

open List Table

namespace Inbox

/-- A permit is bound to its record. The other columns of a row are read off its permit. -/
def verifyPermit (s : Inbox) (row : PermitRow) : Except ChannelError Unit := do
  let ingress ← required (s.getIngress row.permit.ingressId)
    ⟨.inboxCorruption, "ACK permit is not bound to its inbox record"⟩
  rejectIf (row.permit.inboxRecordSha256 ≠ ingress.ingressSha256)
    ⟨.inboxCorruption, "ACK permit is not bound to its inbox record"⟩

def verifyRecord (s : Inbox) (r : InboxRecord) : Except ChannelError Unit := do
  let row ← required (s.permitRowFor r.ingressId)
    ⟨.inboxCorruption, "inbox record is missing an ACK permit"⟩
  rejectIf (decide (r.state = .acked) ≠ row.receipt.isSome)
    ⟨.inboxCorruption, "inbox ACK state disagrees with platform receipt"⟩

def verifyCursor (s : Inbox) (row : CursorRow) : Except ChannelError Unit := do
  let ingress ← required (s.getIngress row.lastIngressId)
    ⟨.inboxCorruption, "cursor references a missing inbox record"⟩
  rejectIf (row.cursorStreamKey ≠ ingress.cursorStreamKey ∨
      row.cursorToken ≠ ingress.1.nextCursorToken ∨
      row.cursorSha256 ≠ ingress.nextCursorSha256 ∨ row.cursorToken.sha256 ≠ row.cursorSha256 ∨
      row.channel ≠ ingress.scope.channel ∨ row.tenantId ≠ ingress.scope.tenantId ∨
      row.linkAccountId ≠ ingress.scope.linkAccountId)
    ⟨.inboxCorruption, "cursor state disagrees with its durable ingress"⟩

def verifyApplicationRows (s : Inbox) : Except ChannelError Unit := do
  s.permits.rows.forM s.verifyPermit
  s.records.rows.forM s.verifyRecord
  s.cursors.rows.forM s.verifyCursor

/-- A record and its permit. -/
abbrev Entry := InboxRecord × PermitRow

namespace Entry

abbrev ingress (e : Entry) : InboxIngress := e.1.ingress

abbrev revision (e : Entry) : ℕ := e.2.permit.cursorRevision

/-- The cursor digest and the revision that an entry takes up. -/
def source (e : Entry) : Option Canon × ℕ :=
  (e.ingress.1.previousCursorSha256, e.revision)

/-- The cursor digest and the revision that an entry leaves to the next one. -/
def target (e : Entry) : Option Canon × ℕ := (some e.ingress.nextCursorSha256, e.revision + 1)

/-- The cursor of a stream whose last entry this is. -/
def cursor (e : Entry) : CursorRow := cursorRow e.ingress e.revision e.1.persistedAtMs

end Entry

/-- The records and their permits in the order of their commits. -/
def entries (s : Inbox) : List Entry := s.records.rows.zip s.permits.rows

def stream (cursorStreamKey : Canon) (s : Inbox) : List Entry :=
  s.entries.filter fun e => e.ingress.cursorStreamKey = cursorStreamKey

/-- A permit is the one that was issued for the record, and has a receipt when that is acked. -/
structure Matches (e : Entry) : Prop where
  permit : e.2.permit = issuePermit e.ingress e.revision e.1.persistedAtMs
  acked : e.1.state = .acked ↔ e.2.receipt.isSome = true

/-- Every stream is a chain of its entries that starts without a cursor at revision one and ends at
the stream's cursor; records and permits belong together, and no two records share an identity. -/
structure Sound (s : Inbox) : Prop where
  records : s.entries.map Prod.fst = s.records.rows
  permits : s.entries.map Prod.snd = s.permits.rows
  matching : ∀ e ∈ s.entries, Matches e
  distinct : s.records.rows.Pairwise fun r r' => sameIdentity r.ingress r'.ingress = false
  linked : ∀ k, Linked Entry.source Entry.target (none, 1) (s.stream k)
  cursor : ∀ k, s.getCursor k = (s.stream k).getLast?.map Entry.cursor

theorem sound_empty : Inbox.empty.Sound where
  records := rfl
  permits := rfl
  matching e he := by cases he
  distinct := .nil
  linked k := trivial
  cursor k := rfl

section Sound

variable {s s' : Inbox} {ingress : InboxIngress} {persistedAtMs : ℕ} {e e' : Entry}

theorem Matches.ingressId (h : Matches e) : e.2.permit.ingressId = e.1.ingressId := by
  rw [h.permit]
  rfl

/-- Two entries of one ingress identifier are the same entry. -/
lemma Sound.eq_of_ingressId (h : s.Sound) (he : e ∈ s.entries) (he' : e' ∈ s.entries)
    (hid : e.1.ingressId = e'.1.ingressId) : e = e' := by
  have hnodup : (s.entries.map fun e => e.1.ingressId).Nodup := by
    have hkeys := s.records.keys_nodup
    rwa [← h.records, map_map] at hkeys
  exact inj_on_of_nodup_map hnodup he he' hid

/-- Two entries of one permit are the same entry. -/
lemma Sound.eq_of_permitId (h : s.Sound) (he : e ∈ s.entries) (he' : e' ∈ s.entries)
    (hid : e.2.permitId = e'.2.permitId) : e = e' := by
  have hnodup : (s.entries.map fun e => e.2.permitId).Nodup := by
    have hkeys := s.permits.keys_nodup
    rwa [← h.permits, map_map] at hkeys
  exact inj_on_of_nodup_map hnodup he he' hid

lemma Sound.mem_records (h : s.Sound) {r : InboxRecord} :
    r ∈ s.records.rows ↔ ∃ p, (r, p) ∈ s.entries := by
  rw [← h.records]
  simp

lemma Sound.mem_permits (h : s.Sound) {p : PermitRow} :
    p ∈ s.permits.rows ↔ ∃ r, (r, p) ∈ s.entries := by
  rw [← h.permits]
  simp

/-- The permit of a record is the one that it was committed with. -/
theorem Sound.permitRowFor (h : s.Sound) (he : e ∈ s.entries) :
    s.permitRowFor e.1.ingressId = some e.2 := by
  have hmem : e.2 ∈ s.permits.rows := h.mem_permits.mpr ⟨e.1, he⟩
  cases hfound : s.permitRowFor e.1.ingressId with
  | none =>
    have hnone := List.find?_eq_none.mp hfound e.2 hmem
    exact absurd (decide_eq_true (h.matching e he).ingressId) hnone
  | some p =>
    have hp := mem_of_find?_eq_some hfound
    have hid : p.permit.ingressId = e.1.ingressId := by
      unfold Inbox.permitRowFor at hfound
      simpa using List.find?_some hfound
    obtain ⟨r, hr⟩ := h.mem_permits.mp hp
    have hsame := h.eq_of_ingressId he hr (hid.symm.trans (h.matching _ hr).ingressId)
    rw [hsame]

theorem Sound.getIngress (h : s.Sound) (he : e ∈ s.entries) :
    s.getIngress e.1.ingressId = some e.ingress :=
  getIngress_of_holds ⟨e.1, h.mem_records.mpr ⟨e.2, he⟩, rfl⟩

/-- A sound inbox passes its own verification. -/
theorem Sound.verified (h : s.Sound) : s.verifyApplicationRows = .ok () := by
  unfold verifyApplicationRows
  simp only [bind_eq_ok]
  refine ⟨(), forM_eq_ok.mpr fun p hp => ?_, (), forM_eq_ok.mpr fun r hr => ?_,
    forM_eq_ok.mpr fun row hrow => ?_⟩
  · obtain ⟨r, he⟩ := h.mem_permits.mp hp
    have hmatches := h.matching _ he
    have hfound := h.getIngress he
    simp only [verifyPermit, eq_ok_iff]
    refine ⟨r.ingress, ?_, ?_⟩
    · rw [hmatches.ingressId]
      exact hfound
    · rw [hmatches.permit]
      exact not_not.mpr rfl
  · obtain ⟨p, he⟩ := h.mem_records.mp hr
    have hmatches := h.matching _ he
    simp only [verifyRecord, eq_ok_iff]
    refine ⟨p, h.permitRowFor he, not_not.mpr ?_⟩
    rw [Bool.eq_iff_iff, decide_eq_true_iff]
    exact hmatches.acked
  · have hcursor := h.cursor row.cursorStreamKey
    rw [Inbox.getCursor, find_of_mem hrow] at hcursor
    obtain ⟨e, hlast, rfl⟩ := Option.map_eq_some_iff.mp hcursor.symm
    have he : e ∈ s.entries := mem_of_mem_filter (mem_of_getLast? hlast)
    simp only [verifyCursor, eq_ok_iff]
    refine ⟨e.ingress, h.getIngress he, ?_⟩
    simp [Entry.cursor, cursorRow, InboxIngress.nextCursorSha256]

lemma stream_of_entries {k : Canon} (h : s'.entries = s.entries ++ [e]) :
    s'.stream k = if e.ingress.cursorStreamKey = k then s.stream k ++ [e] else s.stream k := by
  rw [stream, h, filter_append, ← stream]
  by_cases hkey : e.ingress.cursorStreamKey = k
  · simp [hkey]
  · simp [hkey]

lemma Sound.source_eq (h : s.Sound) {revision : ℕ}
    (hrevision : nextRevision ingress (s.getCursor ingress.cursorStreamKey) = .ok revision) :
    (ingress.1.previousCursorSha256, revision) =
      logEnd Entry.target (none, 1) (s.stream ingress.cursorStreamKey) := by
  rw [h.cursor] at hrevision
  unfold logEnd
  cases hlast : (s.stream ingress.cursorStreamKey).getLast? with
  | none =>
    rw [hlast, Option.map_none, nextRevision] at hrevision
    split at hrevision
    · cases hrevision
    · next hprevious =>
      cases hrevision
      rw [not_not.mp hprevious]
      rfl
  | some e =>
    rw [hlast, Option.map_some, nextRevision] at hrevision
    split at hrevision
    · cases hrevision
    · next hprevious =>
      cases hrevision
      rw [not_not.mp hprevious]
      rfl

/-- The cursors after a commit: that of the stream is the row that was written. -/
lemma find_writeCursor {row : CursorRow} {cursors cursors' : Table CursorRow.cursorStreamKey}
    (h : writeCursor row cursors = .ok cursors') (k : Canon) :
    cursors'.find k = if row.cursorStreamKey = k then some row else cursors.find k := by
  unfold writeCursor at h
  split at h
  · exact (insert_eq_ok.mp h).find k
  · next old hold =>
    cases h
    rw [find_update]
    by_cases hk : row.cursorStreamKey = k
    · subst hk
      have hkey := key_of_find hold
      rw [hold, if_pos rfl, Option.map_some, if_pos (decide_eq_true hkey), CursorRow.rewritten,
        hkey]
    · rw [if_neg hk]
      cases hfind : cursors.find k with
      | none => rfl
      | some r =>
        have hkey := key_of_find hfind
        rw [Option.map_some, if_neg]
        simpa [hkey] using fun heq => hk heq.symm

theorem Sound.persisted (h : s.Sound) {result : InboxPersistResult}
    (hstep : Persisted s ingress persistedAtMs result s') : s'.Sound := by
  let e : Entry := (⟨ingress, .ackEligible, persistedAtMs⟩, ⟨result.permit, none⟩)
  have hrecords := hstep.records.rows
  have hpermits := hstep.permits.rows
  have hlength : s.records.rows.length = s.permits.rows.length := by
    rw [← h.records, ← h.permits, length_map, length_map]
  have hentries : s'.entries = s.entries ++ [e] := by
    rw [entries, hrecords, hpermits, zip_append hlength]
    rfl
  have hstream := fun k => stream_of_entries (k := k) hentries
  refine ⟨?_, ?_, ?_, ?_, ?_, ?_⟩
  · rw [hentries, hrecords, map_append, h.records]
    rfl
  · rw [hentries, hpermits, map_append, h.permits]
    rfl
  · rw [hentries, forall_mem_append, forall_mem_singleton]
    exact ⟨h.matching, hstep.permit, by simp [e]⟩
  · rw [hrecords, pairwise_append]
    refine ⟨h.distinct, pairwise_singleton _ _, fun r hr r' hr' => ?_⟩
    rw [mem_singleton.mp hr']
    exact hstep.fresh r hr
  · intro k
    rw [hstream]
    split
    · next hkey =>
      subst hkey
      exact linked_concat.mpr ⟨h.linked _, h.source_eq hstep.revision⟩
    · exact h.linked k
  · intro k
    rw [hstream, getCursor, find_writeCursor hstep.cursors]
    show (if ingress.cursorStreamKey = k then _ else _) = _
    by_cases hkey : ingress.cursorStreamKey = k
    · rw [if_pos hkey, if_pos hkey, List.getLast?_concat]
      rfl
    · rw [if_neg hkey, if_neg hkey]
      exact h.cursor k

end Sound

lemma sameIdentity_comm (i i' : InboxIngress) : sameIdentity i i' = sameIdentity i' i := by
  simp [sameIdentity, eq_comm]

/-- An ingress that is held can be committed again. -/
theorem Sound.replay {s : Inbox} {ingress : InboxIngress} {persistedAtMs : ℕ} (h : s.Sound)
    (hheld : s.Holds ingress) (hlater : ingress.1.capturedAtMs ≤ persistedAtMs) :
    ∃ permit, s.persistAndAdvanceCursor ingress persistedAtMs = .ok (⟨permit, false, true⟩, s) := by
  obtain ⟨r, hr, rfl⟩ := hheld
  obtain ⟨p, he⟩ := h.mem_records.mp hr
  have hsame : ∀ r' ∈ s.records.rows, sameIdentity r'.ingress r.ingress = true → r' = r := by
    intro r' hr' hidentity
    by_contra hne
    have : Std.Symm fun r r' : InboxRecord => sameIdentity r.ingress r'.ingress = false :=
      ⟨fun a b hab => by rwa [sameIdentity_comm]⟩
    have hfalse := h.distinct.forall hr' hr hne
    rw [hidentity] at hfalse
    cases hfalse
  have hfilter : s.records.rows.filter (fun r' => sameIdentity r'.ingress r.ingress) = [r] := by
    have hmem : r ∈ s.records.rows.filter fun r' => sameIdentity r'.ingress r.ingress :=
      mem_filter.mpr ⟨hr, sameIdentity_self r.ingress⟩
    have hnodup : (s.records.rows.filter fun r' => sameIdentity r'.ingress r.ingress).Nodup :=
      (List.Nodup.of_map _ s.records.keys_nodup).filter _
    refine perm_singleton.mp ((perm_ext_iff_of_nodup hnodup
      (nodup_singleton r)).mpr fun r' => ?_)
    rw [mem_singleton]
    constructor
    · intro hr'
      obtain ⟨hr', hidentity⟩ := mem_filter.mp hr'
      exact hsame r' hr' hidentity
    · rintro rfl
      exact hmem
  have hpermit : s.permitForIngress r.ingressId = .ok p.permit := by
    rw [permitForIngress, h.permitRowFor he]
    rfl
  refine ⟨p.permit, ?_⟩
  unfold persistAndAdvanceCursor
  rw [hfilter]
  simp only [bind_eq_ok, rejectIf_eq_ok]
  refine ⟨(), by omega, (), not_not.mpr rfl, (), not_not.mpr rfl, p.permit, hpermit, rfl⟩

def Entry.acknowledgedBy (permitId receipt : Canon) (atMs : ℕ) (e : Entry) : Entry :=
  if e.2.permitId = permitId then (e.1.acknowledged, e.2.received receipt atMs) else e

/-- What an acknowledgement of a permit without a receipt writes. -/
structure Receives (s : Inbox) (permitId receipt : Canon) (atMs : ℕ) (s' : Inbox) : Prop where
  found : ∃ row, s.permits.find permitId = some row ∧ row.receipt = none ∧
    s'.records = s.records.update
      (fun r => r.ingressId = row.permit.ingressId && r.state = .ackEligible)
      InboxRecord.acknowledged InboxRecord.ingressId_acknowledged
  cursors : s'.cursors = s.cursors
  permits : s'.permits = s.permits.update (fun p => p.permitId = permitId && p.receipt = none)
    (PermitRow.received receipt atMs) (PermitRow.permitId_received receipt atMs)

lemma markAcknowledged_cases {s s' : Inbox} {permitId receipt : Canon} {atMs : ℕ} {isNew : Bool}
    (h : markAcknowledged permitId receipt atMs s = .ok (isNew, s')) :
    s' = s ∨ Receives s permitId receipt atMs s' := by
  unfold markAcknowledged at h
  simp only [eq_ok_iff] at h
  obtain ⟨row, hfound, -, h⟩ := h
  split at h
  · simp only [eq_pair_iff] at h
    exact .inl h.2.2.symm
  · next hnone =>
    simp only [eq_pair_iff, updateOne_eq_ok] at h
    obtain ⟨records, ⟨-, rfl⟩, -, rfl⟩ := h
    exact .inr ⟨⟨row, hfound, hnone, rfl⟩, rfl, rfl⟩

section Acknowledged

variable {s s' : Inbox} {permitId receipt : Canon} {atMs : ℕ} {e : Entry}

lemma Entry.ingress_acknowledgedBy : (e.acknowledgedBy permitId receipt atMs).ingress =
    e.ingress := by
  unfold Entry.acknowledgedBy
  split <;> rfl

lemma Entry.source_acknowledgedBy : (e.acknowledgedBy permitId receipt atMs).source =
    e.source := by
  unfold Entry.acknowledgedBy
  split <;> rfl

lemma Entry.target_acknowledgedBy : (e.acknowledgedBy permitId receipt atMs).target =
    e.target := by
  unfold Entry.acknowledgedBy
  split <;> rfl

lemma Entry.cursor_acknowledgedBy : (e.acknowledgedBy permitId receipt atMs).cursor =
    e.cursor := by
  unfold Entry.acknowledgedBy
  split <;> rfl

lemma Matches.acknowledgedBy (h : Matches e) : Matches (e.acknowledgedBy permitId receipt atMs) := by
  unfold Entry.acknowledgedBy
  split
  · exact ⟨h.permit, iff_of_true rfl rfl⟩
  · exact h

/-- An acknowledgement touches the record and the permit of one entry. -/
lemma Sound.entries_of_receives (h : s.Sound) (hstep : Receives s permitId receipt atMs s') :
    s'.records.rows = (s.entries.map (Entry.acknowledgedBy permitId receipt atMs)).map Prod.fst ∧
      s'.permits.rows =
        (s.entries.map (Entry.acknowledgedBy permitId receipt atMs)).map Prod.snd := by
  obtain ⟨row, hfound, hnone, hrecords⟩ := hstep.found
  have hkey := key_of_find hfound
  obtain ⟨r₀, he₀⟩ := h.mem_permits.mp (mem_of_find hfound)
  have hmatches₀ := h.matching _ he₀
  have hstate₀ : r₀.state = .ackEligible := by
    cases hstate : r₀.state with
    | ackEligible => rfl
    | acked =>
      have hsome := hmatches₀.acked.mp hstate
      rw [hnone] at hsome
      cases hsome
  rw [hrecords, hstep.permits, update_rows, update_rows, ← h.records, ← h.permits,
    map_map, map_map, map_map, map_map]
  refine ⟨map_congr_left fun e he => ?_, map_congr_left fun e he => ?_⟩
  all_goals
    by_cases hid : e.2.permitId = permitId
    · obtain rfl := h.eq_of_permitId he he₀ (hid.trans hkey.symm)
      have hingress : r₀.ingressId = row.permit.ingressId := hmatches₀.ingressId.symm
      simp [Entry.acknowledgedBy, hkey, hnone, hstate₀, hingress]
    · have hother : e.1.ingressId ≠ row.permit.ingressId := by
        intro hingress
        obtain rfl := h.eq_of_ingressId he he₀ (hingress.trans hmatches₀.ingressId)
        exact hid hkey
      simp [Entry.acknowledgedBy, hid, hother]

theorem Sound.acknowledged (h : s.Sound) (hstep : Receives s permitId receipt atMs s') :
    s'.Sound := by
  obtain ⟨hrecords, hpermits⟩ := h.entries_of_receives hstep
  have hentries : s'.entries = s.entries.map (Entry.acknowledgedBy permitId receipt atMs) :=
    (zip_of_prod hrecords.symm hpermits.symm).symm
  have hstream : ∀ k, s'.stream k =
      (s.stream k).map (Entry.acknowledgedBy permitId receipt atMs) := by
    intro k
    rw [stream, hentries, filter_map]
    congr 1
    exact filter_congr fun e _ => by rw [Function.comp_apply, Entry.ingress_acknowledgedBy]
  refine ⟨?_, ?_, ?_, ?_, ?_, ?_⟩
  · rw [hentries, hrecords]
  · rw [hentries, hpermits]
  · rw [hentries, forall_mem_map]
    exact fun e he => (h.matching e he).acknowledgedBy
  · have hdistinct := h.distinct
    rw [← h.records, pairwise_map] at hdistinct
    rw [hrecords, pairwise_map, pairwise_map]
    have hingress : ∀ e : Entry, (e.acknowledgedBy permitId receipt atMs).1.ingress =
        e.1.ingress := fun e => Entry.ingress_acknowledgedBy
    refine hdistinct.imp fun hne => ?_
    rw [hingress, hingress]
    exact hne
  · intro k
    rw [hstream, linked_map (fun e _ => Entry.source_acknowledgedBy)
      fun e _ => Entry.target_acknowledgedBy]
    exact h.linked k
  · intro k
    have hcursor := h.cursor k
    rw [getCursor] at hcursor ⊢
    rw [hstream, hstep.cursors, hcursor, List.getLast?_map, Option.map_map]
    congr 1
    funext e
    exact Entry.cursor_acknowledgedBy.symm

lemma Receives.find_of_receipt (hstep : Receives s permitId receipt atMs s') {id : Canon} {p : PermitRow}
    (hp : s.permits.find id = some p) (hreceipt : p.receipt ≠ none) :
    s'.permits.find id = some p := by
  rw [hstep.permits, find_update, hp, Option.map_some, if_neg]
  simp [hreceipt]

end Acknowledged

/-- The entries of a stream that wait for their acknowledgement, in cursor order. -/
def pendingEntries (cursorStreamKey : Canon) (s : Inbox) : List Entry :=
  (s.stream cursorStreamKey).filter fun e => e.1.state = .ackEligible

def Entry.delivery (e : Entry) : PendingInboxDelivery := ⟨e.ingress, e.2.permit⟩

/-- The order by persistence time and then identifier. -/
def Entry.listedBefore (e e' : Entry) : Bool := dispatchedBefore e.1 e'.1

lemma dispatchedBefore_total (r r' : InboxRecord) :
    dispatchedBefore r r' = true ∨ dispatchedBefore r' r = true := by
  simp only [dispatchedBefore, Bool.or_eq_true, holds_iff]
  rcases lt_trichotomy r.persistedAtMs r'.persistedAtMs with h | h | h
  · exact .inl (.inl h)
  · rcases le_total r.ingressId r'.ingressId with hid | hid
    · exact .inl (.inr ⟨h, hid⟩)
    · exact .inr (.inr ⟨h.symm, hid⟩)
  · exact .inr (.inl h)

lemma dispatchedBefore_trans (r r' r'' : InboxRecord) (h : dispatchedBefore r r' = true)
    (h' : dispatchedBefore r' r'' = true) : dispatchedBefore r r'' = true := by
  simp only [dispatchedBefore, Bool.or_eq_true, holds_iff] at h h' ⊢
  rcases h with h | ⟨h, hid⟩
  · exact .inl (by omega)
  · rcases h' with h' | ⟨h', hid'⟩
    · exact .inl (by omega)
    · exact .inr ⟨h.trans h', hid.trans hid'⟩

/-- Two records of which each stands before the other have one identifier. -/
lemma ingressId_of_dispatchedBefore {r r' : InboxRecord} (h : dispatchedBefore r r' = true)
    (h' : dispatchedBefore r' r = true) : r.ingressId = r'.ingressId := by
  simp only [dispatchedBefore, Bool.or_eq_true, holds_iff] at h h'
  rcases h with h | ⟨h, hid⟩
  · rcases h' with h' | ⟨h', -⟩ <;> omega
  · rcases h' with h' | ⟨-, hid'⟩
    · omega
    · exact le_antisymm hid hid'

lemma cursorStreamKey_eq_iff {channel channel' : InboundChannel}
    {tenantId tenantId' linkAccountId linkAccountId' : OpaqueId} :
    cursorStreamKey channel tenantId linkAccountId =
        cursorStreamKey channel' tenantId' linkAccountId' ↔
      channel = channel' ∧ tenantId = tenantId' ∧ linkAccountId = linkAccountId' := by
  constructor
  · intro h
    simp only [cursorStreamKey, Canon.sha256.injEq, Canon.ofList, Canon.cons.injEq,
      InboundChannel.canon_inj, Canon.str_inj] at h
    obtain ⟨-, hchannel, htenant, hlink, -⟩ := h
    exact ⟨hchannel, Subtype.ext htenant, Subtype.ext hlink⟩
  · rintro ⟨rfl, rfl, rfl⟩
    rfl

section Listing

variable {s : Inbox} {channel : InboundChannel} {tenantId linkAccountId : OpaqueId} {e : Entry}

/-- The query selects the pending entries of the stream. -/
theorem Sound.pendingDelivery (h : s.Sound) (he : e ∈ s.entries) :
    s.pendingDelivery channel tenantId linkAccountId e.1 =
      if e.ingress.cursorStreamKey = cursorStreamKey channel tenantId linkAccountId ∧
        e.1.state = .ackEligible then some e.delivery else none := by
  have hmatches := h.matching e he
  have hreceipt : e.2.receipt = none ↔ e.1.state = .ackEligible := by
    have hacked := hmatches.acked
    cases hstate : e.1.state with
    | acked =>
      have hsome := hacked.mp hstate
      refine iff_of_false (fun hnone => ?_) InboxState.noConfusion
      rw [hnone] at hsome
      cases hsome
    | ackEligible =>
      refine iff_of_true ?_ rfl
      cases hfound : e.2.receipt with
      | none => rfl
      | some receipt =>
        rw [hstate, hfound] at hacked
        exact absurd (hacked.mpr rfl) InboxState.noConfusion
  rw [Inbox.pendingDelivery, h.permitRowFor he]
  refine if_congr ?_ rfl rfl
  rw [InboxIngress.cursorStreamKey, cursorStreamKey_eq_iff, hreceipt, and_self, and_assoc,
    and_assoc]

theorem Sound.listUnacknowledgedUpTo (h : s.Sound) (limit : ℕ) :
    s.listUnacknowledgedUpTo limit channel tenantId linkAccountId = ((orderBy Entry.listedBefore
        (s.pendingEntries (cursorStreamKey channel tenantId linkAccountId))).take limit).map
          Entry.delivery := by
  let pending (e : Entry) : Bool :=
    e.ingress.cursorStreamKey = cursorStreamKey channel tenantId linkAccountId &&
      e.1.state = .ackEligible
  have hsorted : orderBy dispatchedBefore s.records.rows =
      (orderBy Entry.listedBefore s.entries).map Prod.fst := by
    have hmap := @map_orderBy _ _ Entry.listedBefore dispatchedBefore Prod.fst
      (fun _ _ => rfl) s.entries
    rw [hmap, h.records]
  have hselected : ((orderBy Entry.listedBefore s.entries).map Prod.fst).filterMap
      (s.pendingDelivery channel tenantId linkAccountId) =
        ((orderBy Entry.listedBefore s.entries).filter pending).map Entry.delivery := by
    rw [filterMap_map, ← filterMap_eq_map, filterMap_filter]
    refine filterMap_congr fun e he => ?_
    rw [Function.comp_apply, h.pendingDelivery (mem_orderBy.mp he)]
    simp [pending]
  have hperm : ((orderBy Entry.listedBefore s.entries).filter pending).Perm
      (orderBy Entry.listedBefore
        (s.pendingEntries (cursorStreamKey channel tenantId linkAccountId))) := by
    refine ((orderBy_perm _ _).filter _).trans (List.Perm.trans ?_ (orderBy_perm _ _).symm)
    rw [pendingEntries, stream, filter_filter]
    refine List.Perm.of_eq (filter_congr fun e _ => ?_)
    rw [Bool.and_comm]
  have hlisted : ∀ entries : List Entry, (orderBy Entry.listedBefore entries).Pairwise
      fun e e' => e.listedBefore e' = true := fun entries =>
    orderBy_pairwise (fun e e' => dispatchedBefore_total e.1 e'.1)
      (fun e e' e'' => dispatchedBefore_trans e.1 e'.1 e''.1) entries
  have heq := hperm.eq_of_pairwise (fun e e' he he' hle hle' => by
    have hmem := mem_orderBy.mp (mem_of_mem_filter he)
    have hmem' := mem_of_mem_filter (mem_of_mem_filter (mem_orderBy.mp he'))
    exact h.eq_of_ingressId hmem hmem' (ingressId_of_dispatchedBefore hle hle'))
    ((hlisted _).filter _) (hlisted _)
  rw [Inbox.listUnacknowledgedUpTo, hsorted, hselected, heq, map_take]

/-- Pending entries that already stand in the order of the query are listed in cursor order. -/
lemma Sound.listUnacknowledgedUpTo_of_ordered (h : s.Sound) (limit : ℕ)
    (hordered : (s.pendingEntries (cursorStreamKey channel tenantId linkAccountId)).Pairwise
      fun e e' => e.listedBefore e' = true) :
    s.listUnacknowledgedUpTo limit channel tenantId linkAccountId =
      ((s.pendingEntries (cursorStreamKey channel tenantId linkAccountId)).take limit).map
        Entry.delivery := by
  rw [h.listUnacknowledgedUpTo]
  congr 2
  exact hordered.insertionSort_eq

end Listing

end Inbox

inductive InboxCall where
  | persist (ingress : InboxIngress) (persistedAtMs : ℕ)
  | acknowledge (permitId receipt : Canon) (acknowledgedAtMs : ℕ)

inductive InboxAnswer where
  | persisted (result : InboxPersistResult)
  | acknowledged (isNew : Bool)

/-- The writers of the inbox; a call that raises rolls its transaction back. -/
def inboxMachine : Machine Inbox InboxCall (Except ChannelError InboxAnswer) where
  step s
    | .persist ingress persistedAtMs =>
      committed s .persisted (s.persistAndAdvanceCursor ingress persistedAtMs)
    | .acknowledge permitId receipt acknowledgedAtMs =>
      committed s .acknowledged (s.markAcknowledged permitId receipt acknowledgedAtMs)

namespace Inbox

variable {s s' : Inbox}

theorem Sound.persist (h : s.Sound) {ingress : InboxIngress} {persistedAtMs : ℕ}
    {result : InboxPersistResult}
    (hstep : s.persistAndAdvanceCursor ingress persistedAtMs = .ok (result, s')) : s'.Sound := by
  rcases persistAndAdvanceCursor_cases hstep with ⟨-, rfl⟩ | hpersisted
  · exact h
  · exact h.persisted hpersisted

theorem Sound.acknowledge (h : s.Sound) {permitId receipt : Canon} {atMs : ℕ} {isNew : Bool}
    (hstep : s.markAcknowledged permitId receipt atMs = .ok (isNew, s')) : s'.Sound := by
  rcases markAcknowledged_cases hstep with rfl | hreceives
  · exact h
  · exact h.acknowledged hreceives

theorem Sound.step (h : s.Sound) (call : InboxCall) : (inboxMachine.step s call).1.Sound := by
  cases call with
  | persist ingress persistedAtMs => exact committed_fst h fun _ _ hstep => h.persist hstep
  | acknowledge permitId receipt atMs => exact committed_fst h fun _ _ hstep => h.acknowledge hstep

lemma find_step_of_receipt {id : Canon} {p : PermitRow} (hp : s.permits.find id = some p)
    (hreceipt : p.receipt ≠ none) (call : InboxCall) :
    (inboxMachine.step s call).1.permits.find id = some p := by
  cases call with
  | persist ingress persistedAtMs =>
    refine @committed_fst _ _ _ _ (fun s : Inbox => s.permits.find id = some p) _ _ _ hp ?_
    intro result s' hstep
    rcases persistAndAdvanceCursor_cases hstep with ⟨-, rfl⟩ | hpersisted
    · exact hp
    · exact hpersisted.permits.find_of_some hp
  | acknowledge permitId receipt atMs =>
    refine @committed_fst _ _ _ _ (fun s : Inbox => s.permits.find id = some p) _ _ _ hp ?_
    intro isNew s' hstep
    rcases markAcknowledged_cases hstep with rfl | hreceives
    · exact hp
    · exact hreceives.find_of_receipt hp hreceipt

theorem Sound.revisions (h : s.Sound) (k : Canon) :
    (s.stream k).map Entry.revision = List.range' 1 (s.stream k).length := by
  have hcount : ∀ (log : List Entry) (previous : Option Canon) (n : ℕ),
      Linked Entry.source Entry.target (previous, n) log →
        log.map Entry.revision = List.range' n log.length := by
    intro log
    induction log with
    | nil => exact fun _ _ _ => rfl
    | cons e log ih =>
      rintro previous n ⟨hsource, hrest⟩
      obtain ⟨-, hrevision⟩ := Prod.mk.inj hsource
      rw [map_cons, hrevision, ih _ _ hrest, hrevision, length_cons, List.range'_succ]
  exact hcount _ _ _ (h.linked k)

lemma Sound.countP_permits (h : s.Sound) {r : InboxRecord} (hr : r ∈ s.records.rows) :
    s.permits.rows.countP (fun p => p.permit.ingressId = r.ingressId) = 1 := by
  have hids : s.permits.rows.map (·.permit.ingressId) = s.records.rows.map (·.ingressId) := by
    rw [← h.records, ← h.permits, map_map, map_map]
    exact map_congr_left fun e he => (h.matching e he).ingressId
  have hmem : r.ingressId ∈ s.permits.rows.map (·.permit.ingressId) := by
    rw [hids]
    exact mem_map_of_mem hr
  have hnodup : (s.permits.rows.map (·.permit.ingressId)).Nodup := by
    rw [hids]
    exact s.records.keys_nodup
  have hcount := count_eq_one_of_mem hnodup hmem
  rw [List.count, countP_map] at hcount
  rw [← hcount]
  exact countP_congr fun p _ => by simp

/-- What holds of an inbox that was written by commits and acknowledgements only. -/
structure LinearLog (s : Inbox) : Prop where
  /-- The records of a stream form one chain that starts without a cursor. -/
  linked : ∀ k, Linked Entry.source Entry.target (none, 1) (s.stream k)
  revisions : ∀ k, (s.stream k).map Entry.revision = List.range' 1 (s.stream k).length
  /-- The cursor names the last record. -/
  cursor : ∀ k, s.getCursor k = (s.stream k).getLast?.map Entry.cursor
  /-- The entries are the records with their permits. -/
  records : s.entries.map Prod.fst = s.records.rows
  permits : s.entries.map Prod.snd = s.permits.rows
  matching : ∀ e ∈ s.entries, Matches e
  /-- No two records have a channel message, an ingress or an idempotency key in common. -/
  distinct : s.records.rows.Pairwise fun r r' => sameIdentity r.ingress r'.ingress = false
  onePermit : ∀ r ∈ s.records.rows,
    s.permits.rows.countP (fun p => p.permit.ingressId = r.ingressId) = 1
  receipts : ∀ later id p, s.permits.find id = some p → p.receipt ≠ none →
    (inboxMachine.exec s later).permits.find id = some p
  verified : s.verifyApplicationRows = .ok ()
  refused : ∀ call e, (inboxMachine.step s call).2 = .error e → (inboxMachine.step s call).1 = s
  /-- The pending records of a stream are listed by persistence time and identifier. -/
  listed : ∀ limit channel tenantId linkAccountId,
    s.listUnacknowledgedUpTo limit channel tenantId linkAccountId = ((orderBy Entry.listedBefore
        (s.pendingEntries (cursorStreamKey channel tenantId linkAccountId))).take limit).map
          Entry.delivery
  /-- That is the cursor order when it agrees with persistence times and identifiers. -/
  inCursorOrder : ∀ limit channel tenantId linkAccountId,
    (s.pendingEntries (cursorStreamKey channel tenantId linkAccountId)).Pairwise
        (fun e e' => e.listedBefore e' = true) →
      s.listUnacknowledgedUpTo limit channel tenantId linkAccountId =
        ((s.pendingEntries (cursorStreamKey channel tenantId linkAccountId)).take limit).map
          Entry.delivery

lemma Sound.linearLog (h : s.Sound) : s.LinearLog where
  linked := h.linked
  revisions := h.revisions
  cursor := h.cursor
  records := h.records
  permits := h.permits
  matching := h.matching
  distinct := h.distinct
  onePermit _ := h.countP_permits
  receipts later id p hp hreceipt :=
    Machine.exec_preserves (fun s : Inbox => s.permits.find id = some p)
      (fun _ call hs => find_step_of_receipt hs hreceipt call) hp later
  verified := h.verified
  refused call e herror := by
    cases call with
    | persist ingress persistedAtMs => exact committed_error herror
    | acknowledge permitId receipt atMs => exact committed_error herror
  listed _ _ _ _ := h.listUnacknowledgedUpTo _
  inCursorOrder _ _ _ _ := h.listUnacknowledgedUpTo_of_ordered _

/-- After any calls in any order the inbox is a linear log. -/
theorem exec_linearLog (calls : List InboxCall) : (inboxMachine.exec .empty calls).LinearLog :=
  (Machine.exec_preserves Sound (fun _ call h => h.step call) sound_empty calls).linearLog

def chatId : OpaqueId := ⟨py "chat", by decide⟩

def chatFields (id : String) : EnvelopeFields where
  inboundId := .text id
  scope := ⟨.wechat, chatId, chatId, .text "room", .text id, .text "user"⟩
  receivedAtMs := 5
  channelMetadataHash := .null
  text := py "hello"
  attachments := []
  replyToMessageRef := none
  rootMessageRef := none
  sequence := none

lemma chatFields_valid (id : String) : (chatFields id).valid = true := rfl

def chatIngressFields (id token : String) (previous : Option Canon) : IngressFields :=
  ⟨⟨chatFields id, chatFields_valid id⟩, .text "raw", .text "digest", 1, previous,
    .platform (py token), 5⟩

def earlierIngress : InboxIngress := ⟨chatIngressFields "in_b" "cursor-1" none, by decide⟩

def laterIngress : InboxIngress :=
  ⟨chatIngressFields "in_a" "cursor-2" (some earlierIngress.nextCursorSha256), by decide⟩

/-- Two messages that are committed at one time are listed by their identifiers, the later one of
the stream first. -/
theorem exec_listed_backwards :
    ((inboxMachine.exec .empty [.persist earlierIngress 5, .persist laterIngress 5]).pendingEntries
        (cursorStreamKey .wechat chatId chatId)).map Entry.ingress =
      [earlierIngress, laterIngress] ∧
    ((inboxMachine.exec .empty [.persist earlierIngress 5,
      .persist laterIngress 5]).listUnacknowledgedUpTo 1000 .wechat chatId chatId).map
        PendingInboxDelivery.ingress = [laterIngress, earlierIngress] := by
  decide +kernel

end Inbox

end Tiangong.Communication
