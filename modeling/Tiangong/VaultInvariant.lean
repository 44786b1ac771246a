import Tiangong.VaultSteps

/-!
# What the store keeps

Numbers are given once, what is bound to a payload finds it, and a deleted memory stays deleted:
its last revision, its tombstone, and the payloads without a key are what they were.
-/
namespace Tiangong

open List

namespace MemoryVault

def IsDeleted (v : MemoryVault) (memoryId : Canon) : Prop :=
  ∃ a ∈ v.assertions, a.memoryId = memoryId ∧ a.status = .deleted

/-- The invariant of the tables. -/
structure Intact (v : MemoryVault) : Prop where
  payloadIds : (v.payloads.map ProtectedPayload.payloadId).Nodup
  descending : v.assertions.Pairwise fun a b => a.memoryId = b.memoryId → b.revision < a.revision
  conforms : ∀ a ∈ v.assertions, a.status ≠ .deleted → a.Conforms
  assertionPayload : ∀ a ∈ v.assertions, ∀ payload ∈ a.payload,
    (v.findPayload payload.payloadId).isSome
  deletedLast : ∀ a ∈ v.assertions, a.status = .deleted → v.latest a.memoryId = some a
  nodeIds : (v.nodes.map CausalNode.nodeId).Nodup
  nodePayload : ∀ n ∈ v.nodes, (v.findPayload n.payload.payloadId).isSome
  packIds : (v.packs.map fun row => row.pack.packId).Nodup
  packPayload : ∀ row ∈ v.packs, (v.findPayload row.payloadId).isSome
  packPayloadIds : (v.packs.map PackRow.payloadId).Nodup
  tombstone : ∀ t ∈ v.tombstones, ∃ a ∈ v.assertions, t.tombstoneId = tombstoneId a ∧
    v.IsDeleted a.memoryId
  suppressedMemory : ∀ s ∈ v.suppressions, s.kind = .memory →
    ∃ memoryId, s.targetRefHash = .sha256 memoryId ∧ v.IsDeleted memoryId
  suppressedNode : ∀ s ∈ v.suppressions, s.kind = .causalNode →
    ∃ n ∈ v.nodes, s.targetRefHash = .sha256 n.nodeId ∧ v.IsDeleted n.sourceRef
  change : ∀ c ∈ v.changes, ∃ a ∈ v.assertions, a.memoryId = c.memoryId ∧ a.revision = c.revision

/-- What a later state of the tables has of an earlier one. -/
structure Follows (v v' : MemoryVault) : Prop where
  payload : ∀ payloadId row, v.findPayload payloadId = some row →
    ∃ row', v'.findPayload payloadId = some row' ∧
      (row.isReadable = false → row'.isReadable = false)
  deleted : ∀ memoryId a, v.latest memoryId = some a → a.status = .deleted →
    v'.latest memoryId = some a
  tombstone : ∀ tombstoneId t, (v.tombstones.find? fun t => t.tombstoneId = tombstoneId) = some t →
    (v'.tombstones.find? fun t => t.tombstoneId = tombstoneId) = some t

lemma intact_empty : Intact empty := by
  constructor <;> simp [empty]

theorem Follows.refl (v : MemoryVault) : Follows v v where
  payload _ row h := ⟨row, h, id⟩
  deleted _ _ h _ := h
  tombstone _ _ h := h

variable {v' : MemoryVault}

theorem Follows.trans {v v'' : MemoryVault} (h : Follows v v') (h' : Follows v' v'') :
    Follows v v'' where
  payload payloadId row hfound := by
    obtain ⟨row', hfound', hunreadable⟩ := h.payload payloadId row hfound
    obtain ⟨row'', hfound'', hunreadable'⟩ := h'.payload payloadId row' hfound'
    exact ⟨row'', hfound'', fun hrow => hunreadable' (hunreadable hrow)⟩
  deleted memoryId a hlatest hdeleted :=
    h'.deleted memoryId a (h.deleted memoryId a hlatest hdeleted) hdeleted
  tombstone tombstoneId t hfound := h'.tombstone tombstoneId t (h.tombstone tombstoneId t hfound)

theorem Follows.isSome {v : MemoryVault} (h : Follows v v') {payloadId : Canon}
    (hsome : (v.findPayload payloadId).isSome) : (v'.findPayload payloadId).isSome := by
  obtain ⟨row, hrow⟩ := Option.isSome_iff_exists.mp hsome
  obtain ⟨row', hrow', -⟩ := h.payload payloadId row hrow
  rw [hrow']
  rfl

section Step

variable {v : MemoryVault}

lemma find?_append_of_some {α : Type*} {p : α → Bool} {xs ys : List α} {x : α}
    (h : xs.find? p = some x) : (xs ++ ys).find? p = some x := by
  rw [List.find?_append, h]
  rfl

/-- A newer revision of another memory. -/
lemma find?_newer_other {a : MemoryAssertion} {as : List MemoryAssertion} {memoryId : Canon}
    (h : a.memoryId ≠ memoryId) :
    ((a :: as).find? fun b => b.memoryId = memoryId) = as.find? fun b => b.memoryId = memoryId :=
  List.find?_cons_of_neg (mt of_decide_eq_true h)

theorem find?_newer_self (a : MemoryAssertion) (as : List MemoryAssertion) :
    ((a :: as).find? fun b => b.memoryId = a.memoryId) = some a :=
  List.find?_cons_of_pos (decide_eq_true rfl)

/-- Payloads are added behind those that are there. -/
lemma follows_payloads (rows : List ProtectedPayload) :
    Follows v { v with payloads := v.payloads ++ rows } where
  payload _ row h := ⟨row, find?_append_of_some h, id⟩
  deleted _ _ h _ := h
  tombstone _ _ h := h

theorem findPayload_erased (v : MemoryVault) (a : MemoryAssertion) (deletedAtMs : ℕ)
    (payloadId : Canon) : (v.erased a deletedAtMs).findPayload payloadId =
      (v.findPayload payloadId).map fun row =>
        if payloadId ∈ v.erasedPayloadIds a then
          { row with hasKey := false, keyDestroyedAtMs := some deletedAtMs }
        else row := by
  unfold findPayload erased
  dsimp only
  generalize v.erasedPayloadIds a = payloadIds
  induction v.payloads with
  | nil => rfl
  | cons row rows ih =>
    rw [destroyKeys] at ih ⊢
    rw [map_cons, List.find?_cons, List.find?_cons]
    by_cases hfound : row.payloadId = payloadId
    · by_cases hmem : row.payloadId ∈ payloadIds
      · simp [← hfound, hmem]
      · simp [← hfound, hmem]
    · by_cases hmem : row.payloadId ∈ payloadIds
      · simpa [hfound, hmem] using ih
      · simpa [hfound, hmem] using ih

variable {a : MemoryAssertion}

/-- Erasing a memory takes keys away, and no tombstone. -/
theorem follows_erased {deletedAtMs : ℕ}
    (hlatest : v.latest a.memoryId = some a) (hlive : a.status ≠ .deleted) :
    Follows v (v.erased a deletedAtMs) where
  payload payloadId row h := by
    rw [findPayload_erased, h]
    refine ⟨_, rfl, fun hrow => ?_⟩
    split
    · rfl
    · exact hrow
  deleted memoryId b hb hdeleted := by
    have hother : a.memoryId ≠ memoryId := by
      rintro rfl
      rw [hlatest] at hb
      obtain rfl := Option.some.inj hb
      exact hlive hdeleted
    exact (find?_newer_other (a := deletedRevision a deletedAtMs) hother).trans hb
  tombstone _ _ h := find?_append_of_some h

theorem VaultStep.follows {v' : MemoryVault} (h : VaultStep v v') : Follows v v' := by
  cases h with
  | payload _ => exact follows_payloads _
  | pack _ _ =>
    obtain ⟨hpayload, hdeleted, htombstone⟩ := follows_payloads (v := v) [_]
    exact ⟨hpayload, hdeleted, htombstone⟩
  | indexKeys keys => exact ⟨(Follows.refl v).payload, fun _ _ h _ => h, fun _ _ h => h⟩
  | change _ => exact ⟨(Follows.refl v).payload, fun _ _ h _ => h, fun _ _ h => h⟩
  | node _ _ => exact ⟨(Follows.refl v).payload, fun _ _ h _ => h, fun _ _ h => h⟩
  | capsule rows => exact ⟨(Follows.refl v).payload, fun _ _ h _ => h, fun _ _ h => h⟩
  | erase hlatest hlive _ _ => exact follows_erased hlatest hlive
  | @assertion a digests hlive _ _ hprevious =>
    refine ⟨(Follows.refl v).payload, fun memoryId b hb hdeleted => ?_, fun _ _ h => h⟩
    have hother : a.memoryId ≠ memoryId := by
      rintro rfl
      exact (hprevious b hb).2 hdeleted
    exact (find?_newer_other hother).trans hb

variable {row : ProtectedPayload}

lemma findPayload_isSome (h : row ∈ v.payloads) : (v.findPayload row.payloadId).isSome := by
  rw [findPayload, List.find?_isSome]
  exact ⟨row, h, decide_eq_true rfl⟩

lemma nodup_append_of_fresh {α : Type*} {f : α → Canon} {xs : List α} {x : α}
    (h : (xs.map f).Nodup) (hfresh : ∀ y ∈ xs, f y ≠ f x) : ((xs ++ [x]).map f).Nodup := by
  rw [map_append, nodup_append]
  refine ⟨h, by simp, ?_⟩
  intro id hid id' hid' heq
  obtain ⟨y, hy, rfl⟩ := mem_map.mp hid
  obtain rfl := mem_singleton.mp hid'
  exact hfresh y hy heq

lemma mem_of_findPayload {payloadId : Canon} (h : (v.findPayload payloadId).isSome) :
    ∃ row ∈ v.payloads, row.payloadId = payloadId := by
  rw [findPayload, List.find?_isSome] at h
  obtain ⟨row, hrow, hid⟩ := h
  exact ⟨row, hrow, of_decide_eq_true hid⟩

/-- With new payloads, what finds its payload finds it still. -/
theorem Intact.payloads (h : Intact v)
    (hfresh : ∀ row' ∈ v.payloads, row'.payloadId ≠ row.payloadId) :
    Intact { v with payloads := v.payloads ++ [row] } :=
  { h with
    payloadIds := nodup_append_of_fresh h.payloadIds hfresh
    assertionPayload := fun a ha payload hpayload =>
      (follows_payloads [row]).isSome (h.assertionPayload a ha payload hpayload)
    nodePayload := fun n hn => (follows_payloads [row]).isSome (h.nodePayload n hn)
    packPayload := fun row' hrow => (follows_payloads [row]).isSome (h.packPayload row' hrow) }

theorem Intact.pack (h : Intact v) {pack : ContextPack}
    (hpayload : ∀ row' ∈ v.payloads, row'.payloadId ≠ row.payloadId)
    (hfresh : ∀ row' ∈ v.packs, row'.pack.packId ≠ pack.packId) :
    Intact { v with
      payloads := v.payloads ++ [row]
      packs := v.packs ++ [⟨pack, row.payloadId⟩] } := by
  have hrows := h.payloads hpayload
  refine { hrows with packIds := ?_, packPayload := ?_, packPayloadIds := ?_ }
  · have hid : ∀ row' ∈ v.packs, row'.pack.packId ≠ (PackRow.mk pack row.payloadId).pack.packId :=
      hfresh
    exact nodup_append_of_fresh h.packIds hid
  · intro row' hrow'
    rcases mem_append.mp hrow' with hold | hnew
    · exact hrows.packPayload row' hold
    · obtain rfl := mem_singleton.mp hnew
      have hmem : row ∈ ({ v with payloads := v.payloads ++ [row] } : MemoryVault).payloads :=
        mem_append_right _ mem_cons_self
      exact findPayload_isSome hmem
  · have hunused : ∀ row' ∈ v.packs, row'.payloadId ≠ (PackRow.mk pack row.payloadId).payloadId := by
      intro row' hrow' heq
      obtain ⟨stored, hstored, hid⟩ := mem_of_findPayload (h.packPayload row' hrow')
      exact hpayload stored hstored (hid.trans heq)
    exact nodup_append_of_fresh h.packPayloadIds hunused

theorem Intact.node (h : Intact v) {n : CausalNode} {terms : List NodeTerm}
    (hfresh : ∀ n' ∈ v.nodes, n'.nodeId ≠ n.nodeId)
    (hpayload : (v.findPayload n.payload.payloadId).isSome) :
    Intact { v with nodes := v.nodes ++ [n], nodeTerms := terms } := by
  refine
    { h with
      nodeIds := nodup_append_of_fresh h.nodeIds hfresh
      nodePayload := ?_
      suppressedNode := ?_ }
  · intro n' hn'
    rcases mem_append.mp hn' with hold | hnew
    · exact h.nodePayload n' hold
    · obtain rfl := mem_singleton.mp hnew
      exact hpayload
  · intro s hs hkind
    obtain ⟨n', hn', hdeleted⟩ := h.suppressedNode s hs hkind
    exact ⟨n', mem_append_left _ hn', hdeleted⟩

/-- The first of the revisions of a memory is the last one. -/
lemma find?_of_descending {as : List MemoryAssertion} {a : MemoryAssertion}
    (h : as.Pairwise fun a b => a.memoryId = b.memoryId → b.revision < a.revision) (ha : a ∈ as) :
    ∃ b, (as.find? fun b => b.memoryId = a.memoryId) = some b ∧ a.revision ≤ b.revision := by
  induction as with
  | nil => cases ha
  | cons c as ih =>
    rw [pairwise_cons] at h
    by_cases hsame : c.memoryId = a.memoryId
    · refine ⟨c, List.find?_cons_of_pos (decide_eq_true hsame), ?_⟩
      rcases mem_cons.mp ha with rfl | hrest
      · exact le_refl _
      · exact (h.1 a hrest hsame).le
    · rcases mem_cons.mp ha with rfl | hrest
      · exact absurd rfl hsame
      · obtain ⟨b, hb, hle⟩ := ih h.2 hrest
        exact ⟨b, (find?_newer_other hsame).trans hb, hle⟩

theorem Intact.le_latest (h : Intact v) {b : MemoryAssertion} (ha : a ∈ v.assertions)
    (hb : v.latest a.memoryId = some b) : a.revision ≤ b.revision := by
  obtain ⟨c, hc, hle⟩ := find?_of_descending h.descending ha
  obtain rfl := Option.some.inj (hb.symm.trans hc)
  exact hle

/-- A new revision keeps the order of the revisions. -/
lemma Intact.descending_cons (h : Intact v)
    (hprevious : ∀ p ∈ v.latest a.memoryId, p.revision + 1 = a.revision) :
    (a :: v.assertions).Pairwise fun a b => a.memoryId = b.memoryId → b.revision < a.revision := by
  refine pairwise_cons.mpr ⟨fun b hb hsame => ?_, h.descending⟩
  obtain ⟨p, hp, hle⟩ := find?_of_descending h.descending hb
  rw [← hsame] at hp
  have hnext := hprevious p hp
  omega

theorem IsDeleted.cons {memoryId : Canon} (h : v.IsDeleted memoryId) {w : MemoryVault}
    (hw : v.assertions ⊆ w.assertions) : w.IsDeleted memoryId := by
  obtain ⟨d, hd, hmemory, hdeleted⟩ := h
  exact ⟨d, hw hd, hmemory, hdeleted⟩

theorem Intact.assertion (h : Intact v) {a : MemoryAssertion} {terms : List MemoryTerm}
    (hlive : a.status ≠ .deleted) (hconforms : a.Conforms)
    (hpayload : ∀ payload ∈ a.payload, (v.findPayload payload.payloadId).isSome)
    (hprevious : ∀ p ∈ v.latest a.memoryId, p.revision + 1 = a.revision ∧ p.status ≠ .deleted) :
    Intact { v with assertions := a :: v.assertions, memoryTerms := terms } := by
  have hmore : v.assertions ⊆ a :: v.assertions := subset_cons_self _ _
  refine
    { h with
      descending := h.descending_cons fun p hp => (hprevious p hp).1
      conforms := ?_
      assertionPayload := ?_
      deletedLast := ?_
      tombstone := ?_
      suppressedMemory := ?_
      suppressedNode := ?_
      change := ?_ }
  · intro b hb hb'
    rcases mem_cons.mp hb with rfl | hold
    · exact hconforms
    · exact h.conforms b hold hb'
  · intro b hb
    rcases mem_cons.mp hb with rfl | hold
    · exact hpayload
    · exact h.assertionPayload b hold
  · intro b hb hdeleted
    rcases mem_cons.mp hb with rfl | hold
    · exact absurd hdeleted hlive
    · have hlast := h.deletedLast b hold hdeleted
      have hother : a.memoryId ≠ b.memoryId := by
        intro hsame
        exact (hprevious b (hsame ▸ hlast)).2 hdeleted
      exact (find?_newer_other hother).trans hlast
  · intro t ht
    obtain ⟨b, hb, hid, hdeleted⟩ := h.tombstone t ht
    exact ⟨b, hmore hb, hid, hdeleted.cons hmore⟩
  · intro s hs hkind
    obtain ⟨memoryId, hhash, hdeleted⟩ := h.suppressedMemory s hs hkind
    exact ⟨memoryId, hhash, hdeleted.cons hmore⟩
  · intro s hs hkind
    obtain ⟨n, hn, hhash, hdeleted⟩ := h.suppressedNode s hs hkind
    exact ⟨n, hn, hhash, hdeleted.cons hmore⟩
  · intro c hc
    obtain ⟨b, hb, hsame⟩ := h.change c hc
    exact ⟨b, hmore hb, hsame⟩

theorem mem_affectedNodes {n : CausalNode} :
    n ∈ v.affectedNodes a ↔ n ∈ v.nodes ∧ n.lifeId = a.lifeId ∧ n.sourceRef = a.memoryId := by
  simp [affectedNodes]

theorem Intact.erased (h : Intact v) {deletedAtMs : ℕ}
    (hlatest : v.latest a.memoryId = some a) (hlive : a.status ≠ .deleted) :
    Intact (v.erased a deletedAtMs) := by
  have hfollows : Follows v (v.erased a deletedAtMs) := follows_erased hlatest hlive
  have hmore : v.assertions ⊆ (v.erased a deletedAtMs).assertions := subset_cons_self _ _
  have hgone : (v.erased a deletedAtMs).IsDeleted a.memoryId :=
    ⟨deletedRevision a deletedAtMs, mem_cons_self, rfl, rfl⟩
  refine ⟨?_, ?_, ?_, ?_, ?_, h.nodeIds, ?_, h.packIds, ?_, h.packPayloadIds, ?_, ?_, ?_, ?_⟩
  · have hids : (v.erased a deletedAtMs).payloads.map ProtectedPayload.payloadId =
        v.payloads.map ProtectedPayload.payloadId := by
      change (destroyKeys _ _ _).map _ = _
      rw [destroyKeys, map_map]
      apply map_congr_left
      intro row _
      simp only [Function.comp_apply]
      split <;> rfl
    rw [hids]
    exact h.payloadIds
  · refine h.descending_cons (a := deletedRevision a deletedAtMs) fun p hp => ?_
    obtain rfl := Option.some.inj (hlatest.symm.trans hp)
    rfl
  · intro b hb hb'
    rcases mem_cons.mp hb with rfl | hold
    · exact absurd rfl hb'
    · exact h.conforms b hold hb'
  · intro b hb payload hpayload
    rcases mem_cons.mp hb with rfl | hold
    · cases hpayload
    · exact hfollows.isSome (h.assertionPayload b hold payload hpayload)
  · intro b hb hdeleted
    rcases mem_cons.mp hb with rfl | hold
    · exact find?_newer_self _ _
    · exact hfollows.deleted _ _ (h.deletedLast b hold hdeleted) hdeleted
  · exact fun n hn => hfollows.isSome (h.nodePayload n hn)
  · exact fun row hrow => hfollows.isSome (h.packPayload row hrow)
  · intro t ht
    rcases mem_append.mp ht with hold | hnew
    · obtain ⟨b, hb, hid, hdeleted⟩ := h.tombstone t hold
      exact ⟨b, hmore hb, hid, hdeleted.cons hmore⟩
    · obtain rfl := mem_singleton.mp hnew
      exact ⟨a, hmore (latest_mem hlatest).1, rfl, hgone⟩
  · intro s hs hkind
    rcases mem_append.mp hs with hold | hnew
    · obtain ⟨memoryId, hhash, hdeleted⟩ := h.suppressedMemory s hold hkind
      exact ⟨memoryId, hhash, hdeleted.cons hmore⟩
    · obtain ⟨target, htarget, rfl⟩ := mem_map.mp hnew
      simp only [suppressionTargets, cons_append, mem_cons, mem_append, mem_map] at htarget
      rcases htarget with rfl | ⟨n, -, rfl⟩ | ⟨row, -, rfl⟩
      · exact ⟨a.memoryId, rfl, hgone⟩
      · cases hkind
      · cases hkind
  · intro s hs hkind
    rcases mem_append.mp hs with hold | hnew
    · obtain ⟨n, hn, hhash, hdeleted⟩ := h.suppressedNode s hold hkind
      exact ⟨n, hn, hhash, hdeleted.cons hmore⟩
    · obtain ⟨target, htarget, rfl⟩ := mem_map.mp hnew
      simp only [suppressionTargets, cons_append, mem_cons, mem_append, mem_map] at htarget
      rcases htarget with rfl | ⟨n, hn, rfl⟩ | ⟨row, -, rfl⟩
      · cases hkind
      · obtain ⟨hmem, -, hsource⟩ := mem_affectedNodes.mp hn
        exact ⟨n, hmem, rfl, hsource ▸ hgone⟩
      · cases hkind
  · intro c hc
    rcases mem_append.mp hc with hold | hnew
    · obtain ⟨b, hb, hsame⟩ := h.change c hold
      exact ⟨b, hmore hb, hsame⟩
    · obtain rfl := mem_singleton.mp hnew
      exact ⟨deletedRevision a deletedAtMs, mem_cons_self, rfl, rfl⟩

/-- A step keeps the invariant. -/
theorem VaultStep.intact {v' : MemoryVault} (h : VaultStep v v') (hv : Intact v) : Intact v' := by
  cases h with
  | payload hfresh => exact hv.payloads hfresh
  | indexKeys keys => exact { hv with }
  | assertion hlive hconforms hpayload hprevious =>
    exact hv.assertion hlive hconforms hpayload hprevious
  | change hrevision =>
    refine { hv with change := fun c hc => ?_ }
    rcases mem_append.mp hc with hold | hnew
    · exact hv.change c hold
    · obtain rfl := mem_singleton.mp hnew
      exact hrevision
  | node hfresh hpayload => exact hv.node hfresh hpayload
  | capsule rows => exact { hv with }
  | pack hpayload hfresh => exact hv.pack hpayload hfresh
  | erase hlatest hlive _ _ => exact hv.erased hlatest hlive

end Step

theorem VaultSteps.follows {v : MemoryVault} (h : VaultSteps v v') : Follows v v' := by
  induction h with
  | refl => exact .refl v
  | tail _ hstep ih => exact ih.trans hstep.follows

theorem VaultSteps.intact {v : MemoryVault} (h : VaultSteps v v') (hv : Intact v) : Intact v' := by
  induction h with
  | refl => exact hv
  | tail _ hstep ih => exact hstep.intact ih

theorem Reachable.intact {runtime : VaultRuntime} {v : MemoryVault} (h : Reachable runtime v) :
    Intact v := by
  obtain ⟨ops, rfl⟩ := h
  exact VaultSteps.intact (afterCalls_steps empty ops) intact_empty

theorem afterCalls_follows (runtime : VaultRuntime) (v : MemoryVault) (ops : List VaultOperation) :
    Follows v (afterCalls runtime v ops) :=
  VaultSteps.follows (afterCalls_steps v ops)

end MemoryVault

end Tiangong
