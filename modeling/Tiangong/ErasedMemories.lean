import Tiangong.VaultInvariant

/-!
# Memories that can be erased

A context pack can hold several memories, but there is one row of its suppression for a scope. So
the first memory of a pack that is erased bars the erasure of the others of its scope.
-/
open List

namespace Tiangong

namespace MemoryVault

/-- A payload of the memory, of a node that comes from it, or of a pack that holds it. -/
def Tied (v : MemoryVault) (memoryId payloadId : Canon) : Prop :=
  (∃ a ∈ v.assertions, a.memoryId = memoryId ∧ ∃ payload ∈ a.payload,
    payload.payloadId = payloadId) ∨
  (∃ n ∈ v.nodes, n.sourceRef = memoryId ∧ n.payload.payloadId = payloadId) ∨
  ∃ row ∈ v.packs, memoryId ∈ row.pack.itemRefs ∧ row.payloadId = payloadId

def IsReadable (v : MemoryVault) (payloadId : Canon) : Prop :=
  ∃ plaintext, v.readProtectedPayload payloadId = .ok plaintext

/-- What an erasure promises, from the state before it and that behind it, whatever is called
later. -/
structure Forgets (runtime : VaultRuntime) (v v' : MemoryVault) (memoryId : Canon)
    (expectedRevision deletedAtMs : ℕ) (r : MemoryDeletion) : Prop where
  unreadable : ∀ ops payloadId, v.Tied memoryId payloadId →
    ¬ (afterCalls runtime v' ops).IsReadable payloadId
  unfound : ∀ ops lifeId terms limit found,
    searchMemoryAssertions runtime lifeId terms limit (afterCalls runtime v' ops) = .ok found →
      ∀ a ∈ found, a.memoryId ≠ memoryId
  same : ∀ ops, (deleteMemory memoryId expectedRevision deletedAtMs).on (afterCalls runtime v' ops) =
    (.ok r, afterCalls runtime v' ops)
  others : ∀ payloadId, ¬ v.Tied memoryId payloadId →
    v'.readProtectedPayload payloadId = v.readProtectedPayload payloadId

def Erases (runtime : VaultRuntime) (v : MemoryVault) (memoryId : Canon)
    (expectedRevision deletedAtMs : ℕ) : Prop :=
  ∃ r v', (deleteMemory memoryId expectedRevision deletedAtMs).on v = (.ok r, v') ∧
    Forgets runtime v v' memoryId expectedRevision deletedAtMs r

/-- No pack of the memory is suppressed in its scope, no node of another life holds a payload from it,
and the numbers fit. -/
structure Erasable (v : MemoryVault) (a : MemoryAssertion) (deletedAtMs : ℕ) : Prop where
  time : deletedAtMs ≤ maxContractInteger
  revision : a.revision < maxContractInteger
  indexed : v.removedIndexCount a ≤ 10000000
  unshared : ∀ row ∈ v.affectedPacks a.memoryId,
    ¬ v.IsSuppressed (.contextPack, .sha256 row.pack.packId) a.privacyScope
  foreign : ∀ n ∈ v.nodes, n.sourceRef = a.memoryId → n.lifeId ≠ a.lifeId →
    v.IsReadable n.payload.payloadId → n.payload.payloadId ∈ v.erasedPayloadIds a

variable {v : MemoryVault} {a : MemoryAssertion} {deletedAtMs : ℕ}

lemma mem_affectedPacks {memoryId : Canon} {row : PackRow} :
    row ∈ v.affectedPacks memoryId ↔ row ∈ v.packs ∧ memoryId ∈ row.pack.itemRefs := by
  simp [affectedPacks]

variable {payloadId : Canon}

lemma mem_erasedPayloadIds : payloadId ∈ v.erasedPayloadIds a ↔
    (∃ b ∈ v.assertions, b.memoryId = a.memoryId ∧ ∃ payload ∈ b.payload,
      payload.payloadId = payloadId) ∨
    (∃ n ∈ v.affectedNodes a, n.payload.payloadId = payloadId) ∨
    ∃ row ∈ v.affectedPacks a.memoryId, row.payloadId = payloadId := by
  simp [erasedPayloadIds, historyPayloadIds, and_assoc]

lemma tied_of_mem_erased (h : payloadId ∈ v.erasedPayloadIds a) :
    v.Tied a.memoryId payloadId := by
  rcases mem_erasedPayloadIds.mp h with hrevision | ⟨n, hn, hid⟩ | ⟨row, hrow, hid⟩
  · exact .inl hrevision
  · obtain ⟨hmem, -, hsource⟩ := mem_affectedNodes.mp hn
    exact .inr (.inl ⟨n, hmem, hsource, hid⟩)
  · obtain ⟨hmem, hitem⟩ := mem_affectedPacks.mp hrow
    exact .inr (.inr ⟨row, hmem, hitem, hid⟩)

lemma Intact.tied_isSome (h : Intact v) {memoryId : Canon}
    (htied : v.Tied memoryId payloadId) : (v.findPayload payloadId).isSome := by
  rcases htied with ⟨b, hb, -, payload, hpayload, rfl⟩ | ⟨n, hn, -, rfl⟩ | ⟨row, hrow, -, rfl⟩
  · exact h.assertionPayload b hb payload hpayload
  · exact h.nodePayload n hn
  · exact h.packPayload row hrow

lemma Intact.not_deleted (h : Intact v) (hlatest : v.latest a.memoryId = some a)
    (hlive : a.status ≠ .deleted) : ¬ v.IsDeleted a.memoryId := by
  rintro ⟨d, hd, hmemory, hdeleted⟩
  have hlast := h.deletedLast d hd hdeleted
  rw [hmemory, hlatest] at hlast
  obtain rfl := Option.some.inj hlast
  exact hlive hdeleted

lemma Intact.capsules_le (h : Intact v) (a : MemoryAssertion) :
    (sortedSet ((v.affectedPacks a.memoryId).map (·.pack.continuity.capsuleId))).length ≤
      (v.erasedPayloadIds a).length := by
  have hnodup : ((v.affectedPacks a.memoryId).map PackRow.payloadId).Nodup :=
    List.Nodup.sublist (filter_sublist.map _) h.packPayloadIds
  have hsub : (v.affectedPacks a.memoryId).map PackRow.payloadId ⊆ v.erasedPayloadIds a := by
    intro payloadId hid
    obtain ⟨row, hrow, rfl⟩ := mem_map.mp hid
    exact mem_erasedPayloadIds.mpr (.inr (.inr ⟨row, hrow, rfl⟩))
  have hpayloads := (subperm_of_subset hnodup hsub).length_le
  rw [length_map] at hpayloads
  refine (length_sortedSet_le _).trans ?_
  rwa [length_map]

lemma Intact.targets_nodup (h : Intact v) (a : MemoryAssertion) :
    (v.suppressionTargets a).Nodup := by
  have hnodes : ((v.affectedNodes a).map CausalNode.nodeId).Nodup :=
    List.Nodup.sublist (filter_sublist.map _) h.nodeIds
  have hpacks : ((v.affectedPacks a.memoryId).map fun row => row.pack.packId).Nodup :=
    List.Nodup.sublist (filter_sublist.map _) h.packIds
  unfold suppressionTargets
  rw [cons_append, nodup_cons, nodup_append]
  refine ⟨by simp, ?_, ?_, by simp⟩
  · have hmap : (v.affectedNodes a).map (fun n => (SuppressionKind.causalNode, Canon.sha256 n.nodeId))
        = ((v.affectedNodes a).map CausalNode.nodeId).map fun id => (.causalNode, .sha256 id) := by
      rw [map_map]
      rfl
    rw [hmap]
    exact hnodes.map fun id id' heq => by simpa using heq
  · have hmap : (v.affectedPacks a.memoryId).map
        (fun row => (SuppressionKind.contextPack, Canon.sha256 row.pack.packId)) =
        ((v.affectedPacks a.memoryId).map fun row => row.pack.packId).map
          fun id => (.contextPack, .sha256 id) := by
      rw [map_map]
      rfl
    rw [hmap]
    exact hpacks.map fun id id' heq => by simpa using heq

theorem Intact.unsuppressed (h : Intact v) (hlatest : v.latest a.memoryId = some a)
    (hlive : a.status ≠ .deleted) (hpacks : ∀ row ∈ v.affectedPacks a.memoryId,
      ¬ v.IsSuppressed (.contextPack, .sha256 row.pack.packId) a.privacyScope) :
    ∀ target ∈ v.suppressionTargets a, ¬ v.IsSuppressed target a.privacyScope := by
  have hthere := h.not_deleted hlatest hlive
  intro target htarget
  simp only [suppressionTargets, cons_append, mem_cons, mem_append, mem_map] at htarget
  rcases htarget with rfl | ⟨n, hn, rfl⟩ | ⟨row, hrow, rfl⟩
  · rintro ⟨s, hs, htarget, -⟩
    obtain ⟨hkind, hhash⟩ := Prod.mk.inj htarget
    obtain ⟨memoryId, hhash', hdeleted⟩ := h.suppressedMemory s hs hkind
    obtain rfl := Canon.sha256.inj (hhash.symm.trans hhash')
    exact hthere hdeleted
  · rintro ⟨s, hs, htarget, -⟩
    obtain ⟨hkind, hhash⟩ := Prod.mk.inj htarget
    obtain ⟨n', hn', hhash', hdeleted⟩ := h.suppressedNode s hs hkind
    obtain ⟨hmem, -, hsource⟩ := mem_affectedNodes.mp hn
    have hid := Canon.sha256.inj (hhash'.symm.trans hhash)
    obtain rfl := inj_on_of_nodup_map h.nodeIds hn' hmem hid
    exact hthere (hsource ▸ hdeleted)
  · exact hpacks row hrow

/-- The erasure of a memory that is there goes through. -/
lemma Intact.canErase (h : Intact v) (hlatest : v.latest a.memoryId = some a)
    (hlive : a.status ≠ .deleted)
    (htimes : ∀ row ∈ v.payloads, row.payloadId ∈ v.erasedPayloadIds a →
      row.createdAtMs ≤ deletedAtMs)
    (hfew : (v.erasedPayloadIds a).length ≤ 4096) (herasable : v.Erasable a deletedAtMs) :
    v.CanErase a deletedAtMs := by
  have hthere := h.not_deleted hlatest hlive
  have hmax : ∀ b ∈ v.assertions, b.memoryId = a.memoryId → b.revision ≤ a.revision := by
    intro b hb hsame
    exact h.le_latest hb (hsame ▸ hlatest)
  refine ⟨hfew, ?_, ⟨⟨sortedSet_strict _, hfew⟩, ⟨sortedSet_strict _, ?_⟩, herasable.indexed,
    herasable.time⟩, ?_, h.targets_nodup a, h.unsuppressed hlatest hlive herasable.unshared,
    ?_, ?_, ?_⟩
  · intro payloadId hid
    obtain ⟨row, hrow⟩ := Option.isSome_iff_exists.mp (h.tied_isSome (tied_of_mem_erased hid))
    have hfound : row.payloadId = payloadId := by simpa using List.find?_some hrow
    refine ⟨row.createdAtMs, by rw [hrow]; rfl, ?_⟩
    exact htimes row (mem_of_find?_eq_some hrow) (hfound ▸ hid)
  · exact (h.capsules_le a).trans hfew
  · intro t ht heq
    obtain ⟨b, hb, hid, hdeleted⟩ := h.tombstone t ht
    have hcontent := hid.symm.trans heq
    simp only [tombstoneId, Canon.ident_inj, true_and] at hcontent
    have hlist := Canon.ofList_injective hcontent
    simp only [List.cons.injEq, Canon.sha256.injEq] at hlist
    exact hthere (hlist.2.2.1 ▸ hdeleted)
  · unfold findRevision
    rw [List.find?_eq_none]
    intro b hb hsame
    obtain ⟨hmemory, hrevision⟩ := of_decide_eq_true hsame
    have hle := hmax b hb hmemory
    omega
  · intro b hb hsame
    obtain ⟨hmemory, hrevision⟩ := MemoryAssertion.revision_of_sha256 hsame
    have hle := hmax b hb hmemory
    change b.revision = a.revision + 1 at hrevision
    omega
  · rintro c hc ⟨hmemory, hrevision⟩
    obtain ⟨b, hb, hmemory', hrevision'⟩ := h.change c hc
    have hle := hmax b hb (hmemory'.trans hmemory)
    omega

lemma not_readable {row : ProtectedPayload}
    (hrow : v.findPayload payloadId = some row) (h : row.isReadable = false) :
    ¬ v.IsReadable payloadId := by
  rintro ⟨plaintext, hread⟩
  simp only [readProtectedPayload, hrow, eq_ok_iff, Option.some.injEq] at hread
  obtain ⟨_, rfl, hreadable, -⟩ := hread
  exact hreadable h

lemma readable_of_find {row : ProtectedPayload}
    (hrow : v.findPayload payloadId = some row) (h : row.isReadable = true) :
    v.IsReadable payloadId := by
  refine ⟨row.plaintext, ?_⟩
  simp only [readProtectedPayload, hrow, eq_ok_iff, Option.some.injEq]
  exact ⟨row, rfl, by rw [h]; simp, rfl⟩

/-- A payload that cannot be read stays so. -/
theorem Follows.unreadable {v' : MemoryVault} (h : Follows v v')
    (hsome : (v.findPayload payloadId).isSome) (hnot : ¬ v.IsReadable payloadId) :
    ¬ v'.IsReadable payloadId := by
  obtain ⟨row, hrow⟩ := Option.isSome_iff_exists.mp hsome
  obtain ⟨row', hrow', hkept⟩ := h.payload payloadId row hrow
  have hunreadable : row.isReadable = false := by
    rw [← Bool.not_eq_true]
    exact fun hreadable => hnot (readable_of_find hrow hreadable)
  exact not_readable hrow' (hkept hunreadable)

lemma readProtectedPayload_erased (h : payloadId ∉ v.erasedPayloadIds a) :
    (v.erased a deletedAtMs).readProtectedPayload payloadId = v.readProtectedPayload payloadId := by
  have hsame : (v.erased a deletedAtMs).findPayload payloadId = v.findPayload payloadId := by
    rw [findPayload_erased]
    cases v.findPayload payloadId with
    | none => rfl
    | some row => rw [Option.map_some, if_neg h]
  unfold readProtectedPayload
  rw [hsame]

/-- After the erasure nothing that is tied to the memory can be read. -/
lemma Intact.tied_unreadable (h : Intact v) (herasable : v.Erasable a deletedAtMs)
    (htied : v.Tied a.memoryId payloadId) : ¬ (v.erased a deletedAtMs).IsReadable payloadId := by
  obtain ⟨row, hrow⟩ := Option.isSome_iff_exists.mp (h.tied_isSome htied)
  by_cases hmem : payloadId ∈ v.erasedPayloadIds a
  · have hfound := findPayload_erased v a deletedAtMs payloadId
    rw [hrow, Option.map_some, if_pos hmem] at hfound
    exact not_readable hfound rfl
  · intro hreadable
    obtain ⟨plaintext, hread⟩ := hreadable
    rw [readProtectedPayload_erased hmem] at hread
    apply hmem
    rcases htied with hrevision | ⟨n, hn, hsource, rfl⟩ | ⟨row', hrow', hitem, rfl⟩
    · exact mem_erasedPayloadIds.mpr (.inl hrevision)
    · by_cases hlife : n.lifeId = a.lifeId
      · exact mem_erasedPayloadIds.mpr
          (.inr (.inl ⟨n, mem_affectedNodes.mpr ⟨hn, hlife, hsource⟩, rfl⟩))
      · exact herasable.foreign n hn hsource hlife ⟨plaintext, hread⟩
    · exact mem_erasedPayloadIds.mpr
        (.inr (.inr ⟨row', mem_affectedPacks.mpr ⟨hrow', hitem⟩, rfl⟩))

/-- What a search finds is the last revision of its memory, and active. -/
lemma search_found {runtime : VaultRuntime} {lifeId : String} {terms : List String} {limit : ℕ}
    {found : List MemoryAssertion}
    (h : searchMemoryAssertions runtime lifeId terms limit v = .ok found) {b : MemoryAssertion}
    (hb : b ∈ found) : v.latest b.memoryId = some b ∧ b.status = .active := by
  simp only [searchMemoryAssertions, eq_ok_iff] at h
  obtain ⟨-, h⟩ := h
  split at h
  · obtain rfl := pure_eq_ok.mp h
    cases hb
  · simp only [eq_ok_iff, mapM_eq_ok] at h
    obtain ⟨digests, -, parsed, hparsed, rfl⟩ := h
    obtain ⟨hmem, hrecallable⟩ := mem_filter.mp (mem_mergeSort.mp hb)
    have hsame : parsed ⊆ (((sortedSet (v.memoryTerms.map MemoryTerm.memoryId)).filter fun memoryId =>
        digests.all fun digest => v.memoryTerms.any fun t =>
          t.memoryId = memoryId ∧ t.digest = digest).take limit).filterMap v.latest := by
      generalize List.filterMap v.latest _ = rows at hparsed
      clear hmem hb
      induction hparsed with
      | nil => exact List.Subset.refl _
      | cons hrow _ ih =>
        simp only [parseAssertion, eq_ok_iff] at hrow
        obtain ⟨-, rfl⟩ := hrow
        exact cons_subset_cons _ ih
    obtain ⟨memoryId, -, hlatest⟩ := mem_filterMap.mp (hsame hmem)
    obtain rfl := (latest_mem hlatest).2
    refine ⟨hlatest, ?_⟩
    simp only [isRecallable, holds_iff] at hrecallable
    exact hrecallable.2.1

lemma Intact.deletedRevision_conforms (h : Intact v) (hlatest : v.latest a.memoryId = some a)
    (hlive : a.status ≠ .deleted) (htime : deletedAtMs ≤ maxContractInteger)
    (hrevision : a.revision < maxContractInteger) : (deletedRevision a deletedAtMs).Conforms := by
  obtain ⟨⟨hone, -⟩, -, hexpiry, -, -, hkind, hbasis, hsources, hscores, hvalid, -⟩ :=
    h.conforms a (latest_mem hlatest).1 hlive
  refine ⟨⟨Nat.le_add_left 1 _, hrevision⟩, ?_, hexpiry, ?_, ?_, hkind, hbasis, hsources, hscores,
    hvalid, htime⟩
  · have hnext : (deletedRevision a deletedAtMs).revision = a.revision + 1 := rfl
    have hsupersedes : (deletedRevision a deletedAtMs).supersedesAssertionSha256 = some a.sha256 :=
      rfl
    rw [hnext, hsupersedes]
    constructor
    · intro heq
      omega
    · intro heq
      cases heq
  · exact ⟨fun _ => rfl, fun _ => rfl⟩
  · exact ⟨fun _ heq => (by cases heq), fun _ => rfl⟩

lemma deleteMemoryLocked_live (hlatest : v.latest a.memoryId = some a) (hlive : a.status ≠ .deleted)
    (hhold : a.retentionClass ≠ .legalHold) (hconforms : a.Conforms) :
    deleteMemoryLocked a.memoryId a.revision deletedAtMs v = eraseMemory a deletedAtMs v := by
  have hfound : v.getLatestMemoryAssertion a.memoryId = .ok (some a) := by
    rw [getLatestMemoryAssertion_eq_ok]
    refine ⟨hlatest, fun b hb => ?_⟩
    rwa [← Option.mem_some_iff.mp hb]
  have hone := hconforms.1.1
  unfold deleteMemoryLocked
  rw [rejectIf_of_not _ (by omega), hfound]
  dsimp only [bind, Except.bind, required]
  rw [if_neg hlive, rejectIf_of_not _ (by simp), rejectIf_of_not _ hhold]

lemma deleteMemoryLocked_deleted {d : MemoryAssertion} {t : PrivacyTombstone} {expected : ℕ}
    (hlatest : v.latest d.memoryId = some d) (hdeleted : d.status = .deleted)
    (hconforms : d.Conforms) (hexpected : expected + 1 = d.revision) (hone : 1 ≤ expected)
    {tombstoneId : Canon} (hid : d.deletionTombstoneId = some tombstoneId)
    (htombstone : (v.tombstones.find? fun t => t.tombstoneId = tombstoneId) = some t) :
    deleteMemoryLocked d.memoryId expected deletedAtMs v =
      .ok (⟨t, d, t.destroyedPayloadIds⟩, v) := by
  have hfound : v.getLatestMemoryAssertion d.memoryId = .ok (some d) := by
    rw [getLatestMemoryAssertion_eq_ok]
    refine ⟨hlatest, fun b hb => ?_⟩
    rwa [← Option.mem_some_iff.mp hb]
  unfold deleteMemoryLocked
  rw [rejectIf_of_not _ (by omega), hfound]
  dsimp only [bind, Except.bind, required]
  rw [if_pos hdeleted]
  unfold repeatDeletion
  rw [rejectIf_of_not _ (by omega), hid]
  dsimp only [bind, Except.bind, required]
  rw [htombstone]
  rfl

/-- An erasure that goes through keeps what it promises. -/
lemma Intact.forgets (h : Intact v) (runtime : VaultRuntime)
    (hlatest : v.latest a.memoryId = some a) (hlive : a.status ≠ .deleted)
    (hcan : v.CanErase a deletedAtMs) (herasable : v.Erasable a deletedAtMs) :
    Forgets runtime v (v.erased a deletedAtMs) a.memoryId a.revision deletedAtMs
      ⟨v.tombstone a deletedAtMs, deletedRevision a deletedAtMs, v.erasedPayloadIds a⟩ := by
  have hnext : (v.erased a deletedAtMs).latest a.memoryId = some (deletedRevision a deletedAtMs) :=
    find?_newer_self (deletedRevision a deletedAtMs) v.assertions
  have hlater : ∀ ops, (afterCalls runtime (v.erased a deletedAtMs) ops).latest a.memoryId =
      some (deletedRevision a deletedAtMs) := by
    intro ops
    exact (afterCalls_follows runtime _ ops).deleted _ _ hnext rfl
  refine ⟨?_, ?_, ?_, ?_⟩
  · intro ops payloadId htied
    have hsome : ((v.erased a deletedAtMs).findPayload payloadId).isSome :=
      (follows_erased hlatest hlive).isSome (h.tied_isSome htied)
    exact (afterCalls_follows runtime _ ops).unreadable hsome (h.tied_unreadable herasable htied)
  · intro ops lifeId terms limit found hfound b hb hsame
    obtain ⟨hlast, hactive⟩ := search_found hfound hb
    rw [hsame, hlater ops] at hlast
    obtain rfl := Option.some.inj hlast
    cases hactive
  · intro ops
    have hconforms := h.deletedRevision_conforms hlatest hlive herasable.time herasable.revision
    have hone := (h.conforms a (latest_mem hlatest).1 hlive).1.1
    have hstored : ((v.erased a deletedAtMs).tombstones.find? fun t =>
        t.tombstoneId = tombstoneId a) = some (v.tombstone a deletedAtMs) := by
      have hnone : (v.tombstones.find? fun t => t.tombstoneId = tombstoneId a) = none := by
        rw [List.find?_eq_none]
        intro t ht
        simpa using hcan.tombstone t ht
      have hself : (v.tombstone a deletedAtMs).tombstoneId = tombstoneId a := rfl
      change ((v.tombstones ++ [v.tombstone a deletedAtMs]).find? _) = _
      rw [List.find?_append, hnone, List.find?_singleton, hself]
      simp
    have htombstone := (afterCalls_follows runtime _ ops).tombstone _ _ hstored
    exact Call.on_transaction_of_ok (deleteMemoryLocked_deleted (d := deletedRevision a deletedAtMs)
      (hlater ops) rfl hconforms rfl hone rfl htombstone)
  · intro payloadId hnot
    exact readProtectedPayload_erased fun hmem => hnot (tied_of_mem_erased hmem)

/-- What an erasure takes that keeps its promises. -/
lemma CanErase.erasable {runtime : VaultRuntime} (hcan : v.CanErase a deletedAtMs)
    {r : MemoryDeletion}
    (hforgets : Forgets runtime v (v.erased a deletedAtMs) a.memoryId a.revision deletedAtMs r) :
    v.Erasable a deletedAtMs := by
  obtain ⟨-, -, hindexed, htime⟩ := hcan.conforms
  refine ⟨htime, ?_, hindexed, ?_, ?_⟩
  · have hsame := Call.on_transaction_eq_ok.mp (hforgets.same [])
    simp only [deleteMemoryLocked, eq_ok_iff] at hsame
    obtain ⟨-, found, hfound, -⟩ := hsame
    have hnext : (v.erased a deletedAtMs).latest a.memoryId =
        some (deletedRevision a deletedAtMs) :=
      find?_newer_self (deletedRevision a deletedAtMs) v.assertions
    obtain ⟨hlast, hconforms⟩ := getLatestMemoryAssertion_eq_ok.mp hfound
    have hbound := (hconforms _ (hlast.symm.trans hnext)).1.2
    exact hbound
  · intro row hrow
    apply hcan.unsuppressed
    exact mem_cons_of_mem _ (mem_append_right _ (mem_map.mpr ⟨row, hrow, rfl⟩))
  · intro n hn hsource _ hreadable
    by_contra hmem
    have htied : v.Tied a.memoryId n.payload.payloadId := .inr (.inl ⟨n, hn, hsource, rfl⟩)
    apply hforgets.unreadable [] _ htied
    obtain ⟨plaintext, hread⟩ := hreadable
    exact ⟨plaintext, (readProtectedPayload_erased hmem).trans hread⟩

/-- A memory is erased exactly if nothing of another erasure or another life bars it, and a call that
raises changes nothing. -/
theorem memory_can_be_erased (runtime : VaultRuntime) (v : MemoryVault)
    (hv : Reachable runtime v) (a : MemoryAssertion) (hlatest : v.latest a.memoryId = some a)
    (hlive : a.status ≠ .deleted) (hhold : a.retentionClass ≠ .legalHold) (deletedAtMs : ℕ)
    (htimes : ∀ row ∈ v.payloads, row.payloadId ∈ v.erasedPayloadIds a →
      row.createdAtMs ≤ deletedAtMs)
    (hfew : (v.erasedPayloadIds a).length ≤ 4096) :
    (Erases runtime v a.memoryId a.revision deletedAtMs ↔ v.Erasable a deletedAtMs) ∧
      ∀ op fault v', (VaultOperation.call runtime op).on v = (.error fault, v') → v' = v := by
  have hintact := hv.intact
  have hconforms := hintact.conforms a (latest_mem hlatest).1 hlive
  have hlocked : deleteMemoryLocked a.memoryId a.revision deletedAtMs v =
      eraseMemory a deletedAtMs v := deleteMemoryLocked_live hlatest hlive hhold hconforms
  constructor
  · constructor
    · rintro ⟨r, v', hcall, hforgets⟩
      have hreturned := Call.on_transaction_eq_ok.mp hcall
      rw [hlocked, eraseMemory_eq_ok] at hreturned
      obtain ⟨hcan, rfl, rfl⟩ := hreturned
      exact hcan.erasable hforgets
    · intro herasable
      have hcan := hintact.canErase hlatest hlive htimes hfew herasable
      refine ⟨_, v.erased a deletedAtMs, ?_, hintact.forgets runtime hlatest hlive hcan herasable⟩
      apply Call.on_transaction_of_ok
      rw [hlocked, eraseMemory_eq_ok]
      exact ⟨hcan, rfl, rfl⟩
  · intro op fault v' hcall
    exact Call.on_transaction_error hcall

def packOfTwo : List VaultOperation :=
  let memory : Canon → MemoryVault.LiveAssertion := fun memoryId =>
    { plaintext := [1], memoryId := memoryId, lifeId := "life", kind := .observation
      basis := .userAsserted, status := .active, privacyScope := "private"
      retentionClass := .longTermMemory, sourceEventIds := [], causalUtilityMilli := 500
      userImportanceMilli := 500, verificationStrengthMilli := 500, futureDependencyMilli := 500
      validFromMs := 1, createdAtMs := 1, searchTerms := ["tea"], expiresAtMs := none }
  let capsule : ContextCapsule := ⟨.text "capsule", "life", "request", false, none, .null⟩
  [.putLiveAssertion (memory (.text "m1")) ⟨.ok (), .ok ()⟩ ⟨.text "p1", .text "c1"⟩,
    .putLiveAssertion (memory (.text "m2")) ⟨.ok (), .ok ()⟩ ⟨.text "p2", .text "c2"⟩,
    .putCapsule capsule,
    .putPack ⟨.text "pack", "life", capsule, [⟨.text "m1", .null⟩, ⟨.text "m2", .null⟩], 2, .null⟩
      "private" ⟨.ok (), .ok ()⟩ ⟨.text "p3", .text "c3"⟩]

def plainVault : VaultRuntime := ⟨some, fun _ => [7], fun _ => true⟩

/-- The first memory of the pack is erased. -/
theorem memory_can_be_erased_pack :
    Erases plainVault (afterCalls plainVault empty packOfTwo) (.text "m1") 1 4 := by
  have hfirst : ∃ a ∈ (afterCalls plainVault empty packOfTwo).latest (.text "m1"),
      a.memoryId = .text "m1" ∧ a.revision = 1 ∧ a.status ≠ .deleted ∧
      a.retentionClass ≠ .legalHold ∧
      (∀ row ∈ (afterCalls plainVault empty packOfTwo).payloads, row.createdAtMs ≤ 4) ∧
      ((afterCalls plainVault empty packOfTwo).erasedPayloadIds a).length ≤ 4096 ∧
      (afterCalls plainVault empty packOfTwo).removedIndexCount a ≤ 10000000 ∧
      (∀ row ∈ (afterCalls plainVault empty packOfTwo).affectedPacks a.memoryId,
        ¬ (afterCalls plainVault empty packOfTwo).IsSuppressed
          (.contextPack, .sha256 row.pack.packId) a.privacyScope) ∧
      (afterCalls plainVault empty packOfTwo).nodes = [] := by decide +kernel
  obtain ⟨a, hlatest, hid, hone, hlive, hhold, htimes, hfew, hindexed, hunshared, hnodes⟩ := hfirst
  rw [← hid] at hlatest
  have herasable : (afterCalls plainVault empty packOfTwo).Erasable a 4 := by
    refine ⟨by decide, by rw [hone]; decide, hindexed, hunshared, fun n hn => ?_⟩
    rw [hnodes] at hn
    cases hn
  have herased := (memory_can_be_erased plainVault _ ⟨packOfTwo, rfl⟩ a hlatest hlive hhold 4
    (fun row hrow _ => htimes row hrow) hfew).1.mpr herasable
  rwa [hone, hid] at herased

/-- After the first memory of the pack, the second one cannot be erased. -/
theorem second_of_pack_stays : ∃ v a, Reachable plainVault v ∧ v.latest a.memoryId = some a ∧
    a.status = .active ∧ a.retentionClass = .longTermMemory ∧
    (∀ row ∈ v.payloads, row.createdAtMs ≤ 5) ∧ (v.erasedPayloadIds a).length = 2 ∧
    (deleteMemory a.memoryId a.revision 5).on v = (.error .integrity, v) := by
  have hsecond : ∃ a ∈ (afterCalls plainVault empty
        (packOfTwo ++ [.delete (.text "m1") 1 4])).latest (.text "m2"),
      a.memoryId = .text "m2" ∧ a.status = .active ∧ a.retentionClass = .longTermMemory ∧
      (∀ row ∈ (afterCalls plainVault empty (packOfTwo ++ [.delete (.text "m1") 1 4])).payloads,
        row.createdAtMs ≤ 5) ∧
      ((afterCalls plainVault empty (packOfTwo ++ [.delete (.text "m1") 1 4])).erasedPayloadIds
        a).length = 2 ∧
      deleteMemoryLocked a.memoryId a.revision 5
        (afterCalls plainVault empty (packOfTwo ++ [.delete (.text "m1") 1 4])) =
          .error .integrity := by decide +kernel
  obtain ⟨a, hlatest, hid, hactive, hclass, htimes, hfew, hraises⟩ := hsecond
  rw [← hid] at hlatest
  exact ⟨_, a, ⟨_, rfl⟩, hlatest, hactive, hclass, htimes, hfew,
    Call.on_transaction_of_error hraises⟩

end MemoryVault

end Tiangong
