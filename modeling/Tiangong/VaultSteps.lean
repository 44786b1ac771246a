import Mathlib.Logic.Relation
import Tiangong.MemoryErasure

/-!
# What the calls of the store do

Every call that returns is a few steps: a payload, an index key, a revision, a change, a node, a
capsule or a pack is added, or a memory is erased.
-/
open List

namespace Tiangong

namespace MemoryVault

open VaultOperation

/-- The payloads after those with some numbers have lost their keys. -/
def destroyKeys (deletedAtMs : ℕ) (payloadIds : List Canon) (rows : List ProtectedPayload) :
    List ProtectedPayload :=
  rows.map fun row =>
    if row.payloadId ∈ payloadIds then
      { row with hasKey := false, keyDestroyedAtMs := some deletedAtMs }
    else row

lemma destroyKeys_cons (deletedAtMs : ℕ) (payloadId : Canon) (payloadIds : List Canon)
    (rows : List ProtectedPayload) :
    destroyKeys deletedAtMs payloadIds (destroyKeys deletedAtMs [payloadId] rows) =
      destroyKeys deletedAtMs (payloadId :: payloadIds) rows := by
  rw [destroyKeys, destroyKeys, map_map, destroyKeys]
  apply map_congr_left
  intro row _
  by_cases hfirst : row.payloadId = payloadId
  · by_cases hrest : payloadId ∈ payloadIds <;> simp [hfirst, hrest]
  · by_cases hrest : row.payloadId ∈ payloadIds <;> simp [hfirst, hrest]

/-- A payload that was found is found again, with its time. -/
lemma findPayload_destroyKey (deletedAtMs : ℕ) (payloadId payloadId' : Canon) (v : MemoryVault) :
    ((v.destroyKey deletedAtMs payloadId).findPayload payloadId').map (·.createdAtMs) =
      (v.findPayload payloadId').map (·.createdAtMs) := by
  unfold destroyKey findPayload
  dsimp only
  induction v.payloads with
  | nil => rfl
  | cons row rows ih =>
    rw [map_cons, List.find?_cons, List.find?_cons]
    by_cases hfirst : row.payloadId = payloadId
    · rw [if_pos hfirst]
      by_cases hfound : row.payloadId = payloadId'
      · simp [hfound]
      · simpa [hfound] using ih
    · rw [if_neg hfirst]
      by_cases hfound : row.payloadId = payloadId'
      · simp [hfound]
      · simpa [hfound] using ih

def CanDestroy (deletedAtMs : ℕ) (payloadIds : List Canon) (v : MemoryVault) : Prop :=
  ∀ payloadId ∈ payloadIds, ∃ created,
    (v.findPayload payloadId).map (·.createdAtMs) = some created ∧ created ≤ deletedAtMs

lemma destroyEach_eq_ok {deletedAtMs : ℕ} {payloadIds : List Canon} {v v' : MemoryVault} :
    destroyEach deletedAtMs payloadIds v = .ok v' ↔ CanDestroy deletedAtMs payloadIds v ∧
      v' = { v with payloads := destroyKeys deletedAtMs payloadIds v.payloads } := by
  induction payloadIds generalizing v with
  | nil =>
    have hnone : destroyKeys deletedAtMs [] v.payloads = v.payloads := by simp [destroyKeys]
    rw [hnone]
    simp [destroyEach, CanDestroy, eq_comm]
  | cons payloadId payloadIds ih =>
    have hkeys : { v.destroyKey deletedAtMs payloadId with
        payloads := destroyKeys deletedAtMs payloadIds
          (v.destroyKey deletedAtMs payloadId).payloads } =
        { v with payloads := destroyKeys deletedAtMs (payloadId :: payloadIds) v.payloads } := by
      rw [← destroyKeys_cons]
      simp [destroyKey, destroyKeys]
    have hrest : CanDestroy deletedAtMs payloadIds (v.destroyKey deletedAtMs payloadId) ↔
        CanDestroy deletedAtMs payloadIds v := by
      unfold CanDestroy
      simp only [findPayload_destroyKey]
    simp only [destroyEach, eq_ok_iff, ih, hkeys, hrest]
    constructor
    · rintro ⟨row, hfound, htime, hcan, rfl⟩
      refine ⟨?_, rfl⟩
      intro id hid
      rcases mem_cons.mp hid with rfl | hid
      · exact ⟨row.createdAtMs, by rw [hfound]; rfl, by omega⟩
      · exact hcan id hid
    · rintro ⟨hcan, rfl⟩
      obtain ⟨created, hcreated, htime⟩ := hcan payloadId mem_cons_self
      obtain ⟨row, hfound, rfl⟩ := Option.map_eq_some_iff.mp hcreated
      exact ⟨row, hfound, by omega, fun id hid => hcan id (mem_cons_of_mem _ hid), rfl⟩

def suppressionsOf (t : PrivacyTombstone) (targets : List (SuppressionKind × Canon)) :
    List Suppression :=
  targets.map fun target => ⟨target.1, target.2, t.privacyScope, t.tombstoneId⟩

lemma suppressEach_eq_ok {t : PrivacyTombstone} {targets : List (SuppressionKind × Canon)}
    {v v' : MemoryVault} : suppressEach t targets v = .ok v' ↔
      (targets.Nodup ∧ ∀ target ∈ targets, ¬ v.IsSuppressed target t.privacyScope) ∧
      v' = { v with suppressions := v.suppressions ++ suppressionsOf t targets } := by
  induction targets generalizing v with
  | nil => simp [suppressEach, suppressionsOf, eq_comm]
  | cons target targets ih =>
    have hadded : ∀ target', IsSuppressed { v with
        suppressions := v.suppressions ++ [⟨target.1, target.2, t.privacyScope, t.tombstoneId⟩] }
          target' t.privacyScope ↔ v.IsSuppressed target' t.privacyScope ∨ target = target' := by
      intro target'
      simp [IsSuppressed, or_and_right, exists_or]
    simp only [suppressEach, eq_ok_iff, ih, hadded, not_or, nodup_cons, forall_mem_cons]
    constructor
    · rintro ⟨hfirst, ⟨hnodup, hrest⟩, rfl⟩
      refine ⟨⟨⟨?_, hnodup⟩, hfirst, fun target' h => (hrest target' h).1⟩, ?_⟩
      · exact fun hmem => (hrest target hmem).2 rfl
      · simp [suppressionsOf]
    · rintro ⟨⟨⟨hnew, hnodup⟩, hfirst, hrest⟩, rfl⟩
      refine ⟨hfirst, ⟨hnodup, fun target' h => ⟨hrest target' h, ?_⟩⟩, ?_⟩
      · rintro rfl
        exact hnew h
      · simp [suppressionsOf]

lemma recordMemoryChange_eq_ok {a : MemoryAssertion} {kind : MemoryChangeKind}
    {v v' : MemoryVault} {changeSeq : ℕ} : recordMemoryChange a kind v = .ok (changeSeq, v') ↔
      (∀ c ∈ v.changes, ¬ (c.memoryId = a.memoryId ∧ c.revision = a.revision)) ∧
      changeSeq = (v.changes.map MemoryChange.changeSeq).foldr max 0 + 1 ∧
      v' = { v with changes := v.changes ++
        [⟨changeSeq, a.lifeId, a.memoryId, a.revision, kind, a.sha256, a.createdAtMs⟩] } := by
  simp only [recordMemoryChange, eq_pair_iff, not_exists, not_and]
  constructor
  · rintro ⟨hnew, rfl, rfl⟩
    exact ⟨hnew, rfl, rfl⟩
  · rintro ⟨hnew, rfl, rfl⟩
    exact ⟨hnew, rfl, rfl⟩

/-- The tables after the erasure of a memory. -/
def erased (v : MemoryVault) (a : MemoryAssertion) (deletedAtMs : ℕ) : MemoryVault :=
  { v.dropTerms a with
    payloads := destroyKeys deletedAtMs (v.erasedPayloadIds a) v.payloads
    assertions := deletedRevision a deletedAtMs :: v.assertions
    changes := v.changes ++ [⟨(v.changes.map MemoryChange.changeSeq).foldr max 0 + 1, a.lifeId,
      a.memoryId, a.revision + 1, .tombstone, (deletedRevision a deletedAtMs).sha256, deletedAtMs⟩]
    tombstones := v.tombstones ++ [v.tombstone a deletedAtMs]
    suppressions := v.suppressions ++
      suppressionsOf (v.tombstone a deletedAtMs) (v.suppressionTargets a) }

/-- What the erasure of a memory takes. -/
structure CanErase (v : MemoryVault) (a : MemoryAssertion) (deletedAtMs : ℕ) : Prop where
  few : (v.erasedPayloadIds a).length ≤ 4096
  payloads : CanDestroy deletedAtMs (v.erasedPayloadIds a) v
  conforms : (v.tombstone a deletedAtMs).Conforms
  tombstone : ∀ t ∈ v.tombstones, t.tombstoneId ≠ tombstoneId a
  targets : (v.suppressionTargets a).Nodup
  unsuppressed : ∀ target ∈ v.suppressionTargets a, ¬ v.IsSuppressed target a.privacyScope
  revision : v.findRevision a.memoryId (a.revision + 1) = none
  digest : ∀ b ∈ v.assertions, b.sha256 ≠ (deletedRevision a deletedAtMs).sha256
  change : ∀ c ∈ v.changes, ¬ (c.memoryId = a.memoryId ∧ c.revision = a.revision + 1)

theorem eraseMemory_eq_ok {a : MemoryAssertion} {deletedAtMs : ℕ} {v v' : MemoryVault}
    {r : MemoryDeletion} : eraseMemory a deletedAtMs v = .ok (r, v') ↔ v.CanErase a deletedAtMs ∧
      r = ⟨v.tombstone a deletedAtMs, deletedRevision a deletedAtMs, v.erasedPayloadIds a⟩ ∧
      v' = v.erased a deletedAtMs := by
  have hcan : CanDestroy deletedAtMs (v.erasedPayloadIds a) (v.dropTerms a) ↔
      CanDestroy deletedAtMs (v.erasedPayloadIds a) v := Iff.rfl
  have hsuppressed : ∀ (w : MemoryVault) target,
      w.suppressions = v.suppressions → (w.IsSuppressed target a.privacyScope ↔
        v.IsSuppressed target a.privacyScope) := by
    intro w target h
    rw [IsSuppressed, h, IsSuppressed]
  have hscope : (v.tombstone a deletedAtMs).privacyScope = a.privacyScope := rfl
  simp only [eraseMemory, appendDeleted, eq_pair_iff, destroyEach_eq_ok, suppressEach_eq_ok,
    Prod.exists, recordMemoryChange_eq_ok, hcan, not_exists, not_and, not_lt,
    not_not]
  constructor
  · rintro ⟨hfew, v₁, ⟨hpayloads, rfl⟩, hconforms, htombstone, v₂, ⟨⟨htargets, hnone⟩, rfl⟩, v₃,
      ⟨hrevision, hdigest, changeSeq, v₄, ⟨hchange, rfl, rfl⟩, rfl⟩, rfl, rfl⟩
    refine ⟨⟨hfew, hpayloads, hconforms, htombstone, htargets, ?_, hrevision, hdigest, ?_⟩, rfl, rfl⟩
    · intro target htarget
      rw [← hscope]
      exact hnone target htarget
    · exact fun c hc h => hchange c hc h.1 h.2
  · rintro ⟨h, rfl, rfl⟩
    refine ⟨h.few, _, ⟨h.payloads, rfl⟩, h.conforms, h.tombstone, _, ⟨⟨h.targets, ?_⟩, rfl⟩, _,
      ⟨h.revision, h.digest, _, _, ⟨?_, rfl, rfl⟩, rfl⟩, rfl, rfl⟩
    · exact h.unsuppressed
    · exact fun c hc hmemory hrevision => h.change c hc ⟨hmemory, hrevision⟩

/-- One step of a call that returns. -/
inductive VaultStep : MemoryVault → MemoryVault → Prop
  | payload {v : MemoryVault} {row : ProtectedPayload}
    (hfresh : ∀ row' ∈ v.payloads, row'.payloadId ≠ row.payloadId) :
    VaultStep v { v with payloads := v.payloads ++ [row] }
  | indexKeys {v : MemoryVault} (keys : List String) : VaultStep v { v with indexKeys := keys }
  | assertion {v : MemoryVault} {a : MemoryAssertion} {digests : List Canon}
    (hlive : a.status ≠ .deleted) (hconforms : a.Conforms)
    (hpayload : ∀ payload ∈ a.payload, (v.findPayload payload.payloadId).isSome)
    (hprevious : ∀ p ∈ v.latest a.memoryId, p.revision + 1 = a.revision ∧ p.status ≠ .deleted) :
    VaultStep v { v with
      assertions := a :: v.assertions
      memoryTerms := (v.memoryTerms.filter fun t => t.memoryId ≠ a.memoryId) ++
        digests.map fun digest => ⟨a.memoryId, a.revision, digest⟩ }
  | change {v : MemoryVault} {c : MemoryChange}
    (hrevision : ∃ a ∈ v.assertions, a.memoryId = c.memoryId ∧ a.revision = c.revision) :
    VaultStep v { v with changes := v.changes ++ [c] }
  | node {v : MemoryVault} {n : CausalNode} {digests : List Canon}
    (hfresh : ∀ n' ∈ v.nodes, n'.nodeId ≠ n.nodeId)
    (hpayload : (v.findPayload n.payload.payloadId).isSome) :
    VaultStep v { v with
      nodes := v.nodes ++ [n]
      nodeTerms := v.nodeTerms ++ digests.map fun digest => ⟨n.nodeId, digest⟩ }
  | capsule {v : MemoryVault} (rows : List CapsuleRow) : VaultStep v { v with capsules := rows }
  | pack {v : MemoryVault} {pack : ContextPack} {row : ProtectedPayload}
    (hpayload : ∀ row' ∈ v.payloads, row'.payloadId ≠ row.payloadId)
    (hfresh : ∀ row' ∈ v.packs, row'.pack.packId ≠ pack.packId) :
    VaultStep v { v with
      payloads := v.payloads ++ [row]
      packs := v.packs ++ [⟨pack, row.payloadId⟩] }
  | erase {v : MemoryVault} {a : MemoryAssertion} {deletedAtMs : ℕ}
    (hlatest : v.latest a.memoryId = some a) (hlive : a.status ≠ .deleted)
    (hconforms : a.Conforms) (hcan : v.CanErase a deletedAtMs) :
    VaultStep v (v.erased a deletedAtMs)

abbrev VaultSteps := Relation.ReflTransGen VaultStep

section Operations

variable {runtime : VaultRuntime} {v v' : MemoryVault}

variable {lifeId privacyScope : String} {sealing : Sealing}

lemma putProtectedPayloadLocked_eq_ok {plaintext : List UInt8}
    {createdAtMs : ℕ} {row : ProtectedPayload}
    (h : putProtectedPayloadLocked plaintext lifeId privacyScope createdAtMs sealing v =
      .ok (row, v')) : (∀ row' ∈ v.payloads, row'.payloadId ≠ row.payloadId) ∧
      v' = { v with payloads := v.payloads ++ [row] } := by
  simp only [putProtectedPayloadLocked, eq_pair_iff, not_exists, not_and] at h
  obtain ⟨-, hfresh, -, rfl, rfl⟩ := h
  exact ⟨hfresh, rfl⟩

variable {terms : List String}

lemma indexTerms_eq_ok {isActive : Bool}
    {digests : List Canon} (h : indexTerms runtime lifeId isActive terms v = .ok (digests, v')) :
    ∃ keys, v' = { v with indexKeys := keys } := by
  unfold indexTerms at h
  split at h
  · simp only [eq_pair_iff] at h
    obtain ⟨_, -, -, rfl⟩ := h
    unfold ensureIndexKey
    split
    · exact ⟨v.indexKeys, rfl⟩
    · exact ⟨_, rfl⟩
  · simp only [pure_eq_ok, Prod.mk.injEq] at h
    exact ⟨v.indexKeys, h.2.symm⟩

lemma binding_isSome {payload : PayloadRef}
    (h : v.assertProtectedPayloadBinding payload lifeId privacyScope = .ok ()) :
    (v.findPayload payload.payloadId).isSome := by
  simp only [assertProtectedPayloadBinding, eq_ok_iff] at h
  obtain ⟨row, hfound, -⟩ := h
  rw [hfound]
  rfl

variable {a : MemoryAssertion} {memoryId : Canon}

theorem latest_mem (h : v.latest memoryId = some a) : a ∈ v.assertions ∧ a.memoryId = memoryId :=
  ⟨mem_of_find?_eq_some h, by simpa using List.find?_some h⟩

/-- What is found as the last revision. -/
theorem getLatestMemoryAssertion_eq_ok {found : Option MemoryAssertion} :
    v.getLatestMemoryAssertion memoryId = .ok found ↔
      v.latest memoryId = found ∧ ∀ a ∈ found, a.Conforms := by
  unfold getLatestMemoryAssertion
  cases v.latest memoryId with
  | none => cases found <;> simp
  | some a =>
    simp only [map_eq_pure_bind, eq_ok_iff, parseAssertion, not_not]
    constructor
    · rintro ⟨_, ⟨hconforms, rfl⟩, rfl⟩
      refine ⟨rfl, fun b hb => ?_⟩
      rwa [← Option.mem_some_iff.mp hb]
    · rintro ⟨rfl, hconforms⟩
      exact ⟨a, ⟨hconforms a rfl, rfl⟩, rfl⟩

lemma recordMemoryChange_steps {kind : MemoryChangeKind} {changeSeq : ℕ}
    (h : recordMemoryChange a kind v = .ok (changeSeq, v')) (ha : a ∈ v.assertions) :
    VaultSteps v v' := by
  obtain ⟨-, -, rfl⟩ := recordMemoryChange_eq_ok.mp h
  exact .single (.change ⟨a, ha, rfl, rfl⟩)

/-- What a new revision comes after. -/
lemma checkRevision_eq_ok {previous : Option MemoryAssertion}
    (h : checkRevision a previous = .ok ()) :
    ∀ p ∈ previous, p.revision + 1 = a.revision ∧ p.status ≠ .deleted := by
  intro p hp
  obtain rfl := Option.mem_def.mp hp
  unfold checkRevision at h
  split at h
  · simp at h
  · simp only [eq_ok_iff, Option.some.injEq, not_or, not_not] at h
    obtain ⟨_, rfl, hnext, -, hlive⟩ := h
    exact ⟨hnext, hlive⟩

lemma putMemoryAssertionLocked_steps
    {created : Option ℕ} (hlive : a.status ≠ .deleted) (hconforms : a.Conforms)
    (h : putMemoryAssertionLocked runtime a terms v = .ok (created, v')) : VaultSteps v v' := by
  unfold putMemoryAssertionLocked at h
  split at h
  · simp only [eq_pair_iff] at h
    obtain ⟨-, -, rfl⟩ := h
    exact .refl
  · simp only [eq_pair_iff, Prod.exists] at h
    obtain ⟨_, hrevision, payload, hpayload, _, hbinding, digests, v₁, hterms, v₂, hinsert,
      changeSeq, v₃, hchange, -, rfl⟩ := h
    obtain ⟨keys, rfl⟩ := indexTerms_eq_ok hterms
    simp only [insertAssertion, eq_ok_iff] at hinsert
    obtain ⟨-, rfl⟩ := hinsert
    have hkeys : VaultStep v { v with indexKeys := keys } := .indexKeys keys
    refine .head hkeys (.head (@VaultStep.assertion _ a digests hlive hconforms ?_ ?_)
      (recordMemoryChange_steps hchange mem_cons_self))
    · intro payload' hpayload'
      rw [hpayload, Option.mem_some_iff] at hpayload'
      subst hpayload'
      exact binding_isSome hbinding
    · exact checkRevision_eq_ok hrevision

lemma commitLive_steps {arg : LiveAssertion} {answers : DerivationAnswers} {revision : ℕ}
    {supersedes : Option Canon} {payload : PayloadRef} {r : MemoryAssertion × ℕ × Bool}
    (hlive : arg.status ≠ .deleted)
    (h : commitLive runtime arg answers revision supersedes payload v = .ok (r, v')) :
    VaultSteps v v' := by
  simp only [commitLive, eq_pair_iff, Prod.exists, not_not] at h
  obtain ⟨hconforms, created, v₁, hput, changeSeq, -, _, -, -, rfl⟩ := h
  exact putMemoryAssertionLocked_steps hlive hconforms hput

lemma putLiveMemoryAssertion_steps {arg : LiveAssertion} {answers : DerivationAnswers} {r : MemoryAssertion × ℕ × Bool}
    (h : putLiveMemoryAssertion runtime arg answers sealing v = .ok (r, v')) :
    VaultSteps v v' := by
  simp only [putLiveMemoryAssertion, eq_ok_iff] at h
  obtain ⟨hlive, _, -, found, hfound, h⟩ := h
  cases found with
  | none =>
    simp only [bind_eq_ok, Prod.exists] at h
    obtain ⟨row, v₁, hpayload, hcommit⟩ := h
    obtain ⟨hfresh, rfl⟩ := putProtectedPayloadLocked_eq_ok hpayload
    exact .head (.payload hfresh) (commitLive_steps hlive hcommit)
  | some last =>
    simp only [eq_ok_iff] at h
    obtain ⟨-, payload, -, previous, -, -, h⟩ := h
    split at h
    · unfold repeatLive at h
      split at h
      · simp only [Except.ok.injEq, Prod.mk.injEq] at h
        obtain ⟨-, rfl⟩ := h
        exact .refl
      · simp only [eq_pair_iff, Prod.exists] at h
        obtain ⟨changeSeq, v₁, hchange, -, rfl⟩ := h
        have hlast := latest_mem (getLatestMemoryAssertion_eq_ok.mp hfound).1
        exact recordMemoryChange_steps hchange hlast.1
    · exact commitLive_steps hlive h

variable {created : Bool}

lemma putCausalNode_steps {node : CausalNode}
    (h : putCausalNode runtime node terms v = .ok (created, v')) : VaultSteps v v' := by
  simp only [putCausalNode, eq_ok_iff] at h
  obtain ⟨-, h⟩ := h
  split at h
  · simp only [eq_pair_iff] at h
    obtain ⟨-, -, rfl⟩ := h
    exact .refl
  · rename_i hfind
    simp only [eq_pair_iff, Prod.exists] at h
    obtain ⟨_, hbinding, _, -, -, digests, v₁, hterms, -, rfl⟩ := h
    obtain ⟨keys, rfl⟩ := indexTerms_eq_ok hterms
    have hkeys : VaultStep v { v with indexKeys := keys } := .indexKeys keys
    refine .head hkeys (.single (@VaultStep.node _ node digests ?_ (binding_isSome hbinding)))
    intro n hn hid
    simpa [hid] using List.find?_eq_none.mp hfind n hn

lemma putContextCapsule_steps {capsule : ContextCapsule}
    (h : putContextCapsule capsule v = .ok (created, v')) : VaultSteps v v' := by
  unfold putContextCapsule at h
  split at h
  · simp only [eq_pair_iff] at h
    obtain ⟨-, -, rfl⟩ := h
    exact .refl
  · simp only [eq_pair_iff] at h
    obtain ⟨-, -, rfl⟩ := h
    exact .single (.capsule _)

lemma putCausalContextPack_steps {pack : ContextPack} {answers : PackAnswers}
    (h : putCausalContextPack runtime pack privacyScope answers sealing v = .ok (created, v')) :
    VaultSteps v v' := by
  simp only [putCausalContextPack, eq_ok_iff] at h
  obtain ⟨-, _, -, h⟩ := h
  split at h
  · simp only [eq_pair_iff] at h
    obtain ⟨-, _, -, -, _, -, -, rfl⟩ := h
    exact .refl
  · rename_i hfind
    simp only [eq_pair_iff, Prod.exists] at h
    obtain ⟨_, -, -, row, v₁, hpayload, _, -, -, rfl⟩ := h
    obtain ⟨hfresh, rfl⟩ := putProtectedPayloadLocked_eq_ok hpayload
    refine .single (.pack hfresh ?_)
    intro row' hrow' hid
    simpa [hid] using List.find?_eq_none.mp hfind row' hrow'

lemma deleteMemoryLocked_steps {expectedRevision deletedAtMs : ℕ} {r : MemoryDeletion}
    (h : deleteMemoryLocked memoryId expectedRevision deletedAtMs v = .ok (r, v')) :
    VaultSteps v v' := by
  simp only [deleteMemoryLocked, eq_ok_iff, getLatestMemoryAssertion_eq_ok] at h
  obtain ⟨-, _, ⟨hlatest, hconforms⟩, a, rfl, h⟩ := h
  obtain rfl := (latest_mem hlatest).2
  split at h
  · simp only [repeatDeletion, eq_pair_iff] at h
    obtain ⟨-, _, -, _, -, -, rfl⟩ := h
    exact .refl
  · rename_i hlive
    simp only [eq_ok_iff, eraseMemory_eq_ok] at h
    obtain ⟨-, -, hcan, -, rfl⟩ := h
    exact .single (.erase hlatest hlive (hconforms a rfl) hcan)

/-- A call that returns is a few steps. -/
lemma body_steps {op : VaultOperation} (h : op.body runtime v = .ok ((), v')) :
    VaultSteps v v' := by
  cases op with
  | putPayload plaintext lifeId privacyScope createdAtMs sealing =>
    simp only [body, map_eq_pure_bind, eq_pair_iff, Prod.exists,
      true_and] at h
    obtain ⟨row, _, hput, rfl⟩ := h
    obtain ⟨hfresh, rfl⟩ := putProtectedPayloadLocked_eq_ok hput
    exact .single (.payload hfresh)
  | putLiveAssertion arg answers sealing =>
    simp only [body, map_eq_pure_bind, eq_pair_iff, true_and] at h
    obtain ⟨⟨r, _⟩, hput, rfl⟩ := h
    exact putLiveMemoryAssertion_steps hput
  | putNode node terms =>
    simp only [body, map_eq_pure_bind, eq_pair_iff, true_and] at h
    obtain ⟨⟨created, _⟩, hput, rfl⟩ := h
    exact putCausalNode_steps hput
  | putCapsule capsule =>
    simp only [body, map_eq_pure_bind, eq_pair_iff, true_and] at h
    obtain ⟨⟨created, _⟩, hput, rfl⟩ := h
    exact putContextCapsule_steps hput
  | putPack pack privacyScope answers sealing =>
    simp only [body, map_eq_pure_bind, eq_pair_iff, true_and] at h
    obtain ⟨⟨created, _⟩, hput, rfl⟩ := h
    exact putCausalContextPack_steps hput
  | delete memoryId expectedRevision deletedAtMs =>
    simp only [body, map_eq_pure_bind, eq_pair_iff, true_and] at h
    obtain ⟨⟨r, _⟩, hput, rfl⟩ := h
    exact deleteMemoryLocked_steps hput

theorem afterCalls_steps (v : MemoryVault) (ops : List VaultOperation) :
    VaultSteps v (afterCalls runtime v ops) := by
  induction ops generalizing v with
  | nil => exact .refl
  | cons op ops ih =>
    have hstep : VaultSteps v ((op.call runtime).on v).2 := by
      cases hbody : op.body runtime v with
      | error fault =>
        rw [call, Call.on_transaction_of_error hbody]
      | ok pair =>
        rw [call, Call.on_transaction_of_ok hbody]
        exact body_steps hbody
    exact hstep.trans (ih _)

end Operations

end MemoryVault

end Tiangong
